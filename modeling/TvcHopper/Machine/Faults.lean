import TvcHopper.Machine.Loops

/-! Executions that do not fault in a certain way.

The accesses to memory fault for their bounds only, so an execution that is put
together from them avoids every other fault.
-/

set_option autoImplicit false

namespace TvcHopper.Machine

variable {α β : Type} {avoided : Fault}

/-- The execution has a result, or faults in another way. -/
def Avoids (avoided : Fault) (execution : Except Fault α) : Prop := execution ≠ .error avoided

theorem Avoids.ok (value : α) : Avoids avoided (.ok value) := nofun

theorem Avoids.bind {first : Except Fault α} {next : α → Except Fault β} (before : Avoids avoided first)
    (after : ∀ value, first = .ok value → Avoids avoided (next value)) : Avoids avoided (first >>= next) := by
  cases first with
  | error fault =>
    intro faults
    have same : fault = avoided := Except.error.inj faults
    exact before (congrArg Except.error same)
  | ok value => exact after value rfl

section Accesses
variable (bounds : avoided ≠ .outOfBounds)
include bounds

theorem Avoids.outOfBounds : Avoids avoided (.error .outOfBounds : Except Fault α) :=
  fun faults => bounds (Except.error.inj faults).symm

theorem Avoids.load (memory : List α) (index : Nat) : Avoids avoided (load memory index) := by
  unfold Machine.load
  cases memory[index]? with
  | some value => exact .ok value
  | none => exact .outOfBounds bounds

theorem Avoids.loadRange (memory : List α) (index count : Nat) : Avoids avoided (loadRange memory index count) := by
  unfold Machine.loadRange
  split
  · exact .ok _
  · exact .outOfBounds bounds

theorem Avoids.storeRange (memory : List α) (index : Nat) (values : List α) :
    Avoids avoided (storeRange memory index values) := by
  unfold Machine.storeRange
  split
  · exact .ok _
  · exact .outOfBounds bounds

theorem Avoids.loadCell {n : Nat} (cells : Vector α n) (index : Nat) : Avoids avoided (loadCell cells index) := by
  unfold Machine.loadCell
  split
  · exact .ok _
  · exact .outOfBounds bounds

theorem Avoids.storeCell {n : Nat} (cells : Vector α n) (index : Nat) (value : α) :
    Avoids avoided (storeCell cells index value) := by
  unfold Machine.storeCell
  split
  · exact .ok _
  · exact .outOfBounds bounds

theorem Avoids.load16 (memory : List UInt8) (index : Nat) : Avoids avoided (load16 memory index) :=
  .bind (.load bounds memory index) fun _ _ => .bind (.load bounds memory (index + 1)) fun _ _ => .ok _

end Accesses

section Loops
variable {body : Nat → α → Except Fault α} {test : Nat → Except Fault Bool}

theorem Avoids.search (each : ∀ index, Avoids avoided (test index)) (remaining index : Nat) :
    Avoids avoided (search test remaining index) := by
  induction remaining generalizing index with
  | zero => exact .ok none
  | succ remaining ih =>
    apply Avoids.bind (each index)
    intro passed _
    cases passed with
    | true => exact .ok (some index)
    | false => exact ih (index + 1)

theorem Avoids.search8 (ends : avoided ≠ .diverges) (each : ∀ index, Avoids avoided (test index)) (bound : Nat) :
    Avoids avoided (search8 test bound) := by
  unfold Machine.search8
  split
  · exact .search each bound 0
  · apply Avoids.bind (.search each 256 0)
    intro found _
    cases found with
    | some index => exact .ok (some index)
    | none => exact fun faults => ends (Except.error.inj faults).symm

theorem Avoids.loop (each : ∀ index state, Avoids avoided (body index state)) (remaining index : Nat) (state : α) :
    Avoids avoided (loop body remaining index state) := by
  induction remaining generalizing index state with
  | zero => exact .ok state
  | succ remaining ih => exact .bind (each index state) fun next _ => ih (index + 1) next

theorem Avoids.loop8 (ends : avoided ≠ .diverges) (each : ∀ index state, Avoids avoided (body index state))
    (bound : Nat) (state : α) : Avoids avoided (loop8 body bound state) := by
  unfold Machine.loop8
  split
  · exact .loop each bound 0 state
  · exact .bind (.loop each 256 0 state) fun _ _ faults => ends (Except.error.inj faults).symm

end Loops

end TvcHopper.Machine
