import Mathlib.Data.List.FinRange
import Mathlib.Logic.Function.Basic

/-! Binary semaphores, with the semantics they have in FreeRTOS, and a vector
that several tasks copy under one of them.

A semaphore remembers whether it can be taken, and nothing else: giving one that
is available has no effect.

A task takes the mutex, moves the words of the vector in their order and gives
the mutex back. As long as no wait for the mutex times out there is one task
inside. The vector then has a value that changes as a whole, and what a task
copies is that value.
-/

set_option autoImplicit false

namespace TvcHopper.Machine

structure BinarySemaphore where
  available : Bool
  deriving DecidableEq, Repr

namespace BinarySemaphore

/-- `xSemaphoreCreateBinary`. -/
def empty : BinarySemaphore := ⟨false⟩

/-- `xSemaphoreCreateMutex`. -/
def mutex : BinarySemaphore := ⟨true⟩

/-- `xSemaphoreTake` that does not wait: whether it was taken, and the semaphore behind the call. -/
def take (semaphore : BinarySemaphore) : Bool × BinarySemaphore := (semaphore.available, ⟨false⟩)

/-- `xSemaphoreTake` that waits: `none` while it waits. Its status is not looked at, so that a call
that timed out goes on as well. -/
def await (semaphore : BinarySemaphore) (timedOut : Bool) : Option BinarySemaphore :=
  if semaphore.available || timedOut then some ⟨false⟩ else none

/-- `xSemaphoreGive`. -/
def give (_semaphore : BinarySemaphore) : BinarySemaphore := ⟨true⟩

end BinarySemaphore

/-! ## A vector under a mutex -/

inductive Access (α : Type) (n : Nat) where
  | outside
  | reading (next : Nat)
  | writing (todo : List (Fin n × α))

inductive Moved (α : Type) (n : Nat) where
  | copied (index : Fin n) (word : α)
  | stored
  | released

structure Guarded (ι α : Type) (n : Nat) where
  mutex : BinarySemaphore
  cells : Vector α n
  access : ι → Access α n

variable {ι α : Type} {n : Nat}

def assign (cells : Vector α n) (todo : List (Fin n × α)) : Vector α n :=
  todo.foldl (fun cells entry => cells.set entry.1 entry.2) cells

namespace Access

def storing (value : Vector α n) : Access α n := .writing ((List.finRange n).map fun i => (i, value[i]))

def result (value : Vector α n) : Access α n → Vector α n
  | .writing todo => assign value todo
  | _ => value

/-- What an access makes of the cells, if nobody else is inside. -/
def Leaves (cells value : Vector α n) : Access α n → Prop
  | .writing todo => assign cells todo = value
  | _ => cells = value

end Access

theorem assign_entries (value cells : Vector α n) (indices : List (Fin n)) (j : Fin n) :
    (assign cells (indices.map fun i => (i, value[i])))[j] = if j ∈ indices then value[j] else cells[j] := by
  induction indices generalizing cells with
  | nil => rfl
  | cons i rest ih =>
    simp only [List.map_cons, assign, List.foldl_cons] at ih ⊢
    rw [ih]
    by_cases later : j ∈ rest
    · simp [later]
    · by_cases here : i = j
      · subst here
        simp [later]
      · have other : i.val ≠ j.val := fun same => here (Fin.ext same)
        have absent : j ∉ i :: rest := by simp [Ne.symm here, later]
        rw [if_neg later, if_neg absent]
        exact Vector.getElem_set_ne _ _ other

@[simp] theorem result_storing (value value' : Vector α n) : (Access.storing value').result value = value' := by
  apply Vector.ext
  intro i within
  have entry := assign_entries value' value (List.finRange n) ⟨i, within⟩
  simpa [Access.storing, Access.result] using entry

namespace Guarded

def idle (cells : Vector α n) : Guarded ι α n := ⟨.mutex, cells, fun _ => .outside⟩

variable [DecidableEq ι]

/-- `xSemaphoreTake` of the mutex, before an access; `none` while it waits. -/
def enter (shared : Guarded ι α n) (task : ι) (access : Access α n) (timedOut : Bool) : Option (Guarded ι α n) :=
  (shared.mutex.await timedOut).map fun mutex =>
    { shared with mutex, access := Function.update shared.access task access }

/-- The next word of the access. Behind the last one the mutex is given. -/
def move (shared : Guarded ι α n) (task : ι) : Guarded ι α n × Moved α n :=
  match shared.access task with
  | .outside => (shared, .released)
  | .reading next =>
    if inside : next < n then
      ({ shared with access := Function.update shared.access task (.reading (next + 1)) },
        .copied ⟨next, inside⟩ shared.cells[next])
    -- behind the last word the mutex is given
    else
      ({ shared with mutex := shared.mutex.give, access := Function.update shared.access task .outside }, .released)
  | .writing [] =>
    ({ shared with mutex := shared.mutex.give, access := Function.update shared.access task .outside }, .released)
  | .writing ((i, word) :: todo) =>
    ({ shared with
      cells := shared.cells.set i word
      access := Function.update shared.access task (.writing todo) }, .stored)

/-- The vector has a value: whoever is inside is alone there, and what it writes leaves that value. -/
structure Consistent (shared : Guarded ι α n) (value : Vector α n) : Prop where
  free : shared.mutex.available = true → ∀ task, shared.access task = .outside
  alone : ∀ task, shared.access task ≠ .outside → ∀ other, other ≠ task → shared.access other = .outside
  content : ∀ task, (∀ other, other ≠ task → shared.access other = .outside) →
    (shared.access task).Leaves shared.cells value

section Steps
variable {shared shared' : Guarded ι α n} {value : Vector α n} {task other : ι} {access : Access α n}

omit [DecidableEq ι] in
theorem consistent_idle (cells : Vector α n) : (idle cells : Guarded ι α n).Consistent cells where
  free _ _ := rfl
  alone _ inside := absurd rfl inside
  content _ _ := rfl

theorem consistent_of_inside (cells : Vector α n) {accesses : ι → Access α n}
    (others : ∀ other, other ≠ task → accesses other = .outside) (leaves : access.Leaves cells value) :
    Consistent ⟨⟨false⟩, cells, Function.update accesses task access⟩ value := by
  refine ⟨fun available => Bool.noConfusion available, fun first inside other different => ?_,
    fun first outside => ?_⟩
  · have here : first = task := by
      by_contra elsewhere
      exact inside ((Function.update_of_ne elsewhere ..).trans (others first elsewhere))
    subst here
    exact (Function.update_of_ne different ..).trans (others other different)
  · by_cases here : first = task
    · subst here
      simpa using leaves
    · have now : Function.update accesses task access task = .outside := outside task (Ne.symm here)
      rw [Function.update_self] at now
      rw [now] at leaves
      simpa [Function.update_of_ne here, others first here] using leaves

theorem enter_eq_some : shared.enter task access false = some shared' ↔
    shared.mutex.available = true ∧
      shared' = { shared with mutex := ⟨false⟩, access := Function.update shared.access task access } := by
  unfold enter BinarySemaphore.await
  cases shared.mutex.available
  · simp
  · simp [eq_comm]

theorem enter_access (entered : shared.enter task access false = some shared') : shared'.access task = access := by
  obtain ⟨-, rfl⟩ := enter_eq_some.mp entered
  exact Function.update_self ..

theorem enter_frame (entered : shared.enter task access false = some shared') (different : other ≠ task) :
    shared'.access other = shared.access other := by
  obtain ⟨-, rfl⟩ := enter_eq_some.mp entered
  exact Function.update_of_ne different ..

theorem Consistent.excludes (consistent : shared.Consistent value) (inside : shared.access other ≠ .outside) :
    shared.enter task access false = none := by
  cases entered : shared.enter task access false with
  | none => rfl
  | some shared' => exact absurd (consistent.free (enter_eq_some.mp entered).1 other) inside

/-- The value changes when a task begins to write. -/
theorem Consistent.enter (consistent : shared.Consistent value)
    (entered : shared.enter task access false = some shared') : shared'.Consistent (access.result value) := by
  obtain ⟨available, rfl⟩ := enter_eq_some.mp entered
  have outside := consistent.free available
  have cells : shared.cells = value := by
    have leaves := consistent.content task fun other _ => outside other
    rwa [outside] at leaves
  apply consistent_of_inside shared.cells fun other _ => outside other
  rw [cells]
  cases access with
  | outside | reading | writing => rfl

theorem Consistent.move (consistent : shared.Consistent value) (task : ι) :
    (shared.move task).1.Consistent value := by
  have held : shared.access task ≠ .outside → shared.mutex = ⟨false⟩ := by
    intro inside
    cases locked : shared.mutex with
    | mk available =>
      cases available with
      | false => rfl
      | true => exact absurd (consistent.free (by rw [locked]) task) inside
  have leave : shared.access task ≠ .outside → shared.cells = value →
      Consistent { shared with mutex := shared.mutex.give, access := Function.update shared.access task .outside }
        value := by
    intro inside cells
    have empty : ∀ other, Function.update shared.access task .outside other = .outside := by
      intro other
      by_cases here : other = task
      · rw [here, Function.update_self]
      · exact (Function.update_of_ne here ..).trans (consistent.alone task inside other here)
    refine ⟨fun _ => empty, fun other inside' => absurd (empty other) inside', fun other _ => ?_⟩
    dsimp only
    rw [empty]
    exact cells
  unfold Guarded.move
  cases now : shared.access task with
  | outside => exact consistent
  | reading next =>
    have inside : shared.access task ≠ .outside := by simp [now]
    have leaves := consistent.content task (consistent.alone task inside)
    rw [now] at leaves
    dsimp only
    split
    · rw [held inside]
      exact consistent_of_inside shared.cells (consistent.alone task inside) leaves
    · exact leave inside leaves
  | writing todo =>
    have inside : shared.access task ≠ .outside := by simp [now]
    have leaves := consistent.content task (consistent.alone task inside)
    rw [now] at leaves
    cases todo with
    | nil => exact leave inside leaves
    | cons entry todo =>
      simp only [held inside]
      exact consistent_of_inside _ (consistent.alone task inside) leaves

theorem move_frame (different : other ≠ task) : (shared.move task).1.access other = shared.access other := by
  unfold Guarded.move
  split
  · rfl
  · split
    · exact Function.update_of_ne different ..
    · exact Function.update_of_ne different ..
  · exact Function.update_of_ne different ..
  · exact Function.update_of_ne different ..

theorem move_pair {moved : Moved α n} (same : (shared.move task).2 = moved) :
    shared.move task = ((shared.move task).1, moved) :=
  Prod.ext rfl same

theorem Consistent.copies (consistent : shared.Consistent value) {next : Nat}
    (reads : shared.access task = .reading next) (inside : next < n) :
    (shared.move task).1.access task = .reading (next + 1) ∧
      (shared.move task).2 = .copied ⟨next, inside⟩ value[next] := by
  have cells := consistent.content task (consistent.alone task (by simp [reads]))
  rw [reads] at cells
  have cells : shared.cells = value := cells
  unfold Guarded.move
  simp only [reads, inside, ↓reduceDIte, Function.update_self, cells, and_self]

theorem move_done {next : Nat} (reads : shared.access task = .reading next) (done : ¬next < n) :
    (shared.move task).1.access task = .outside ∧ (shared.move task).2 = .released := by
  unfold Guarded.move
  simp only [reads, done, ↓reduceDIte, Function.update_self, and_self]

end Steps

end Guarded

/-- The first words of a destination are those of the value. -/
def Agree {m : Nat} (destination : Vector α m) (value : Vector α n) (count : Nat) : Prop :=
  ∀ (i : Nat) (_ : i < count) (inside : i < n) (room : i < m), destination[i] = value[i]

section Agree
variable {m : Nat} {destination : Vector α m} {value : Vector α n} {count : Nat}

theorem agree_zero : Agree destination value 0 := fun _ below => absurd below (Nat.not_lt_zero _)

theorem Agree.snoc (agree : Agree destination value count) (inside : count < n) (room : count < m) :
    Agree (destination.set count value[count]) value (count + 1) := by
  intro i below inside' room'
  by_cases last : i = count
  · subst last
    exact Vector.getElem_set_self _
  · rw [Vector.getElem_set_ne _ _ (Ne.symm last)]
    exact agree i (by omega) inside' room'

/-- One step of a copy: the next word gets to its place, or the whole value is there. -/
theorem Guarded.Consistent.copy {ι : Type} [DecidableEq ι] {shared : Guarded ι α n} {task : ι}
    (consistent : shared.Consistent value) (reads : shared.access task = .reading count)
    (agree : Agree destination value count) (room : n ≤ m) :
    (∃ inside : count < n, (shared.move task).2 = .copied ⟨count, inside⟩ value[count] ∧
        (shared.move task).1.access task = .reading (count + 1) ∧
        Agree (destination.set count value[count]) value (count + 1)) ∨
      (shared.move task).2 = .released ∧ Agree destination value n := by
  by_cases inside : count < n
  · obtain ⟨access, moved⟩ := consistent.copies reads inside
    exact .inl ⟨inside, moved, access, agree.snoc inside (by omega)⟩
  · exact .inr ⟨(Guarded.move_done reads inside).2, fun i below => agree i (by omega)⟩

end Agree

end TvcHopper.Machine
