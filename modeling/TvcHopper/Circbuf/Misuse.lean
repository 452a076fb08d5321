import TvcHopper.Circbuf.Cbuf

/-! The circular buffer when there is nothing to take out, and what `CircBufPeek` reads.

`CircBufPop` counts down whether something was counted or not. `CircBufPeek` reads
at `head`, where the next byte will be written: the cell still has the byte that
was written there one round before.
-/

set_option autoImplicit false

namespace TvcHopper.Circbuf

open TvcHopper.Machine

/-! ## The counters -/

/-- The four counters say the same. -/
structure Consistent (buffer : CircBuf) : Prop where
  size : buffer.size ≤ buffer.maxSize
  head : buffer.head < buffer.maxSize
  tail : buffer.tail < buffer.maxSize
  place : buffer.head.toNat = (buffer.tail.toNat + buffer.size.toNat) % buffer.maxSize.toNat
  full : buffer.isFull = true ↔ buffer.size = buffer.maxSize

/-- Both indices stay in the memory, whatever the counter says. -/
structure InMemory (buffer : CircBuf) : Prop where
  head : buffer.head.toNat < buffer.maxSize.toNat
  tail : buffer.tail.toNat < buffer.maxSize.toNat
  memory : buffer.maxSize.toNat ≤ buffer.buffer.length

section Steps
variable {buffer buffer' : CircBuf} {element : UInt8} {answer : Answer} {call : Call}

theorem next_inside {index maxSize : UInt16} (inside : index.toNat < maxSize.toNat) :
    (if maxSize ≤ index + 1 then 0 else index + 1 : UInt16).toNat < maxSize.toNat := by
  rw [toNat_next inside]
  exact Nat.mod_lt _ (by omega)

theorem InMemory.pushed (inMemory : InMemory buffer) (element : UInt8) : InMemory (buffer.pushed element) where
  head := next_inside inMemory.head
  tail := inMemory.tail
  memory := by
    rw [CircBuf.pushed, List.length_set]
    exact inMemory.memory

theorem InMemory.popped (inMemory : InMemory buffer) : InMemory buffer.popped where
  head := inMemory.head
  tail := next_inside inMemory.tail
  memory := inMemory.memory

theorem circBufStep_push (done : circBufStep buffer (.push element) = .ok (buffer', answer)) :
    (buffer' = buffer ∧ answer = .pushed false) ∨
      (buffer.isFull = false ∧ buffer.head.toNat < buffer.buffer.length ∧ buffer' = buffer.pushed element ∧
        answer = .pushed true) := by
  obtain ⟨⟨after, taken⟩, pushed, same⟩ := bind_eq_ok.mp done
  obtain ⟨rfl, rfl⟩ := Prod.mk.inj (Except.ok.inj same)
  cases flag : buffer.isFull with
  | true =>
    obtain ⟨rfl, rfl⟩ := Prod.mk.inj (Except.ok.inj ((if_pos flag).symm.trans pushed))
    exact .inl ⟨rfl, rfl⟩
  | false =>
    obtain ⟨cells, stored, -⟩ := bind_eq_ok.mp ((if_neg (by simp [flag])).symm.trans pushed)
    have inside : buffer.head.toNat < buffer.buffer.length := (storeRange_eq_ok.mp stored).1
    obtain ⟨rfl, rfl⟩ := Prod.mk.inj (Except.ok.inj ((circBufPush_eq flag inside element).symm.trans pushed))
    exact .inr ⟨rfl, inside, rfl, rfl⟩

theorem circBufStep_pop (done : circBufStep buffer .pop = .ok (buffer', answer)) :
    buffer.tail.toNat < buffer.buffer.length ∧ buffer' = buffer.popped := by
  obtain ⟨⟨after, element⟩, popped, same⟩ := bind_eq_ok.mp done
  obtain ⟨rfl, -⟩ := Prod.mk.inj (Except.ok.inj same)
  obtain ⟨_, here, rest⟩ := bind_eq_ok.mp popped
  obtain ⟨rfl, -⟩ := Prod.mk.inj (Except.ok.inj rest)
  obtain ⟨inside, -⟩ := List.getElem?_eq_some_iff.mp (load_eq_ok.mp here)
  exact ⟨inside, rfl⟩

theorem InMemory.step (inMemory : InMemory buffer) (call : Call) :
    ∃ buffer' answer, circBufStep buffer call = .ok (buffer', answer) ∧ InMemory buffer' := by
  cases call with
  | push element =>
    cases flag : buffer.isFull with
    | true => exact ⟨buffer, .pushed false, by simp [circBufStep, circBufPush, flag], inMemory⟩
    | false =>
      have done := circBufPush_eq flag (Nat.lt_of_lt_of_le inMemory.head inMemory.memory) element
      exact ⟨_, .pushed true, by simp [circBufStep, done], inMemory.pushed element⟩
  | pop =>
    have inside := Nat.lt_of_lt_of_le inMemory.tail inMemory.memory
    have done := circBufPop_eq (List.getElem?_eq_getElem inside)
    exact ⟨_, .popped buffer.buffer[buffer.tail.toNat], by simp [circBufStep, done], inMemory.popped⟩
  | getSize => exact ⟨buffer, _, rfl, inMemory⟩
  | isFull => exact ⟨buffer, _, rfl, inMemory⟩

theorem Consistent.pushed (consistent : Consistent buffer) (room : buffer.isFull = false) (element : UInt8) :
    Consistent (buffer.pushed element) := by
  obtain ⟨size, head, tail, place, full⟩ := consistent
  have width : buffer.maxSize.toNat < 65536 := buffer.maxSize.toNat_lt
  have apart : buffer.size ≠ buffer.maxSize := fun same => by simp [full.mpr same] at room
  have below : buffer.size.toNat < buffer.maxSize.toNat :=
    Nat.lt_of_le_of_ne (UInt16.le_iff_toNat_le.mp size) fun same => apart (UInt16.toNat_inj.mp same)
  have more : (buffer.size + 1).toNat = buffer.size.toNat + 1 := by
    rw [UInt16.toNat_add, UInt16.toNat_one]
    exact Nat.mod_eq_of_lt (by omega)
  have inside := UInt16.lt_iff_toNat_lt.mp head
  constructor
  case size =>
    rw [UInt16.le_iff_toNat_le]
    exact more.le.trans below
  case head => exact UInt16.lt_iff_toNat_lt.mpr (next_inside inside)
  case tail => exact tail
  case place =>
    have moved : (buffer.pushed element).head.toNat = (buffer.head.toNat + 1) % buffer.maxSize.toNat :=
      toNat_next inside
    have counted : (buffer.pushed element).size.toNat = buffer.size.toNat + 1 := more
    rw [moved, counted, place, Nat.mod_add_mod, Nat.add_assoc]
    rfl
  case full =>
    simp only [CircBuf.pushed, room, UInt16.le_iff_toNat_le, more, ← UInt16.toNat_inj]
    split
    · next last => exact ⟨fun _ => by omega, fun _ => rfl⟩
    · next less => exact ⟨fun flag => absurd flag Bool.false_ne_true, fun same => absurd same (by omega)⟩

theorem Consistent.popped (consistent : Consistent buffer) (some_left : 0 < circBufGetSize buffer) :
    Consistent buffer.popped := by
  obtain ⟨size, head, tail, place, full⟩ := consistent
  have counted : 0 < buffer.size.toNat := UInt16.lt_iff_toNat_lt.mp some_left
  have less : (buffer.size - 1).toNat = buffer.size.toNat - 1 :=
    UInt16.toNat_sub_of_le _ _ (by rw [UInt16.le_iff_toNat_le, UInt16.toNat_one]; exact counted)
  have atMost := UInt16.le_iff_toNat_le.mp size
  have inside := UInt16.lt_iff_toNat_lt.mp tail
  constructor
  case size =>
    have atMost' : buffer.size.toNat - 1 ≤ buffer.maxSize.toNat := by omega
    rw [UInt16.le_iff_toNat_le]
    exact less.le.trans atMost'
  case head => exact head
  case tail => exact UInt16.lt_iff_toNat_lt.mpr (next_inside inside)
  case place =>
    have moved : buffer.popped.tail.toNat = (buffer.tail.toNat + 1) % buffer.maxSize.toNat := toNat_next inside
    have left : buffer.popped.size.toNat = buffer.size.toNat - 1 := less
    have ring : buffer.popped.maxSize = buffer.maxSize := rfl
    have kept : buffer.popped.head.toNat = (buffer.tail.toNat + buffer.size.toNat) % buffer.maxSize.toNat := place
    have counts : buffer.tail.toNat + buffer.size.toNat = buffer.tail.toNat + 1 + (buffer.size.toNat - 1) := by omega
    rw [ring, kept, moved, left, Nat.mod_add_mod, ← counts]
  case full =>
    refine ⟨fun flag => absurd flag Bool.false_ne_true, fun same => ?_⟩
    have whole : (buffer.size - 1).toNat = buffer.maxSize.toNat := congrArg UInt16.toNat same
    omega

/-- With nothing to take out the counter goes from 0 to 65535, and the flag is cleared. -/
theorem popped_empty (empty : ¬0 < circBufGetSize buffer) : ¬Consistent buffer.popped := by
  intro consistent
  have zero : buffer.size = 0 := UInt16.toNat_inj.mp (Nat.eq_zero_of_not_pos fun counted =>
    empty (UInt16.lt_iff_toNat_lt.mpr counted))
  have wrapped : buffer.popped.size.toNat = 65535 := by
    have largest : (0 - 1 : UInt16).toNat = 65535 := rfl
    rw [CircBuf.popped, zero, largest]
  have atMost := UInt16.le_iff_toNat_le.mp consistent.size
  have width := buffer.popped.maxSize.toNat_lt
  have full := consistent.full.mpr (UInt16.toNat_inj.mp (by omega))
  cases full

/-- A call keeps the counters together exactly when it is no `CircBufPop` of an empty buffer. -/
theorem Consistent.step_iff (consistent : Consistent buffer) (done : circBufStep buffer call = .ok (buffer', answer)) :
    Consistent buffer' ↔ PopGuarded buffer call := by
  cases call with
  | push element =>
    refine iff_of_true ?_ nofun
    rcases circBufStep_push done with ⟨rfl, -⟩ | ⟨room, -, rfl, -⟩
    · exact consistent
    · exact consistent.pushed room element
  | pop =>
    obtain ⟨-, rfl⟩ := circBufStep_pop done
    constructor
    · intro kept _
      by_contra empty
      exact popped_empty empty kept
    · intro guarded
      exact consistent.popped (guarded rfl)
  | getSize =>
    obtain ⟨rfl, -⟩ := Prod.mk.inj (Except.ok.inj done)
    exact iff_of_true consistent nofun
  | isFull =>
    obtain ⟨rfl, -⟩ := Prod.mk.inj (Except.ok.inj done)
    exact iff_of_true consistent nofun

end Steps

theorem consistent_init (params : CircBufInitParams) (nonempty : 0 < params.maxSize) :
    Consistent (circBufInit params) where
  size := UInt16.le_iff_toNat_le.mpr (Nat.zero_le _)
  head := nonempty
  tail := nonempty
  place := (Nat.zero_mod _).symm
  full := by
    refine ⟨fun flag => absurd flag Bool.false_ne_true, fun same => ?_⟩
    have zero : 0 = params.maxSize := same
    rw [← zero] at nonempty
    cases nonempty

theorem inMemory_init (params : CircBufInitParams) (nonempty : 0 < params.maxSize)
    (memory : params.maxSize.toNat ≤ params.buffer.length) : InMemory (circBufInit params) :=
  ⟨UInt16.lt_iff_toNat_lt.mp nonempty, UInt16.lt_iff_toNat_lt.mp nonempty, memory⟩

/-- Every sequence of calls returns; the counters stay together exactly as long as nothing is taken out of an empty
buffer. -/
theorem consistent_iff_guarded (params : CircBufInitParams) (nonempty : 0 < params.maxSize)
    (memory : params.maxSize.toNat ≤ params.buffer.length) (calls : List Call) :
    (∃ final answers, run circBufStep (circBufInit params) calls = .ok (final, answers)) ∧
      (EveryState circBufStep Consistent (circBufInit params) calls ↔
        EveryStep circBufStep PopGuarded (circBufInit params) calls) := by
  constructor
  · exact run_total InMemory (fun _ call inMemory => inMemory.step call) (inMemory_init params nonempty memory) calls
  · exact everyState_iff_everyStep (fun _ _ _ _ consistent done => consistent.step_iff done)
      (consistent_init params nonempty) calls

/-- A buffer of three bytes that is filled and emptied again. -/
theorem consistent_filled_emptied :
    (∃ final answers, run circBufStep (circBufInit ⟨[0, 0, 0], 3⟩)
        [.push 8, .push 2, .push 5, .push 9, .pop, .pop, .pop] = .ok (final, answers)) ∧
      (EveryState circBufStep Consistent (circBufInit ⟨[0, 0, 0], 3⟩)
          [.push 8, .push 2, .push 5, .push 9, .pop, .pop, .pop] ↔
        EveryStep circBufStep PopGuarded (circBufInit ⟨[0, 0, 0], 3⟩)
          [.push 8, .push 2, .push 5, .push 9, .pop, .pop, .pop]) :=
  consistent_iff_guarded ⟨[0, 0, 0], 3⟩ (by decide) (by decide) _

/-- One `CircBufPop` of an empty buffer of three bytes. -/
theorem inconsistent_popped_empty :
    ∃ final answers, run circBufStep (circBufInit ⟨[0, 0, 0], 3⟩) [.pop] = .ok (final, answers) ∧
      circBufGetSize final = 65535 ∧ ¬EveryState circBufStep Consistent (circBufInit ⟨[0, 0, 0], 3⟩) [.pop] := by
  refine ⟨(circBufInit ⟨[0, 0, 0], 3⟩).popped, [.popped 0], rfl, rfl, ?_⟩
  rintro ⟨-, after⟩
  exact popped_empty (by decide) after

/-! ## The byte at `head` -/

def accepted : List Call → List Answer → List UInt8
  | .push element :: calls, .pushed true :: answers => element :: accepted calls answers
  | _ :: calls, _ :: answers => accepted calls answers
  | _, _ => []

/-- What was written to the ring, in order: first what was in the memory, then what was taken in. -/
def written (params : CircBufInitParams) (calls : List Call) (answers : List Answer) : List UInt8 :=
  params.buffer.take params.maxSize.toNat ++ accepted calls answers

/-- `CircBufPeek` returns what `CircBufPop` returns. -/
def PeekAgrees (buffer : CircBuf) : Prop :=
  ∃ element buffer', circBufPeek buffer = .ok element ∧ circBufPop buffer = .ok (buffer', element)

theorem accepted_cons (call : Call) (answer : Answer) (calls : List Call) (answers : List Answer) :
    accepted (call :: calls) (answer :: answers) = accepted [call] [answer] ++ accepted calls answers := by
  cases call with
  | push element =>
    cases answer with
    | pushed taken => cases taken <;> rfl
    | popped _ | counted _ | tested _ => rfl
  | pop | getSize | isFull => rfl

section Rings
variable {capacity : Nat} {buffer buffer' : CircBuf} {queue : BoundedQueue UInt8 capacity} {cells : List UInt8}

/-- From `head` on the whole ring holds the last `capacity` bytes written; the last of these are in the queue. -/
structure Remembers (buffer : CircBuf) (queue : BoundedQueue UInt8 capacity) (cells : List UInt8) : Prop where
  represents : Represents buffer queue
  length : cells.length = capacity
  ring : RingHolds buffer.buffer capacity buffer.head.toNat cells
  queued : queue.items <:+ cells

theorem Remembers.pushed (remembers : Remembers buffer queue cells) (room : queue.items.length < capacity)
    (element : UInt8) : Remembers (buffer.pushed element) (queue.push element).1 (cells.drop 1 ++ [element]) := by
  obtain ⟨represents, length, ring, queued⟩ := remembers
  have place : buffer.head.toNat < capacity := by
    rw [represents.next]
    exact Nat.mod_lt _ (by omega)
  have items : (queue.push element).1.items = queue.items ++ [element] := by simp [BoundedQueue.push, room]
  obtain ⟨oldest, later, rfl⟩ := List.exists_cons_of_length_pos (length ▸ Nat.zero_lt_of_lt room)
  have short : later.length + 1 = capacity := length
  refine ⟨(circBufPush_room represents room element).2, ?_, ?_, ?_⟩
  · simpa using short
  · -- the oldest byte is written over
    have moved : (buffer.pushed element).head.toNat = (buffer.head.toNat + 1) % capacity := by
      rw [CircBuf.pushed, toNat_next (represents.ring.symm ▸ place), represents.ring]
    have behind := ring.pop.2.push (by omega) represents.memory element
    have around : ((buffer.head.toNat + 1) % capacity + later.length) % capacity = buffer.head.toNat := by
      rw [Nat.mod_add_mod, Nat.add_assoc, Nat.add_comm 1, short, Nat.add_mod_right, Nat.mod_eq_of_lt place]
    rw [around] at behind
    rw [moved]
    exact behind
  · rw [items]
    obtain ⟨front, whole⟩ := queued
    cases front with
    | nil =>
      have full := congrArg List.length whole
      simp only [List.nil_append, List.length_cons] at full
      omega
    | cons _ front =>
      obtain ⟨-, rest⟩ := List.cons.inj whole
      exact ⟨front, by simp [← rest]⟩

theorem Remembers.popped (remembers : Remembers buffer queue cells) (some_left : 0 < circBufGetSize buffer) :
    ∃ queue', Remembers buffer.popped (queue' : BoundedQueue UInt8 capacity) cells := by
  obtain ⟨represents, length, ring, queued⟩ := remembers
  obtain ⟨queue', element, -, taken, represents'⟩ := circBufPop_spec represents some_left
  have suffix : queue'.items <:+ queue.items := by
    obtain ⟨items, bounded⟩ := queue
    cases items with
    | nil => cases taken
    | cons first rest =>
      obtain ⟨rfl, -⟩ := Prod.mk.inj (Option.some.inj taken)
      exact List.suffix_cons first rest
  exact ⟨queue', represents', length, ring, suffix.trans queued⟩

theorem Remembers.step (remembers : Remembers buffer queue cells) {call : Call} {answer : Answer}
    (guarded : PopGuarded buffer call) (done : circBufStep buffer call = .ok (buffer', answer)) :
    ∃ queue', Remembers buffer' (queue' : BoundedQueue UInt8 capacity)
      ((cells ++ accepted [call] [answer]).drop (accepted [call] [answer]).length) := by
  have represents := remembers.represents
  cases call with
  | push element =>
    rcases Nat.lt_or_eq_of_le queue.bounded with room | full
    · have pushed := (circBufPush_room represents room element).1
      rw [circBufStep, pushed] at done
      obtain ⟨rfl, rfl⟩ := Prod.mk.inj (Except.ok.inj done)
      have nonempty : 1 ≤ cells.length := remembers.length ▸ Nat.zero_lt_of_lt room
      have shifted : (cells ++ [element]).drop 1 = cells.drop 1 ++ [element] := List.drop_append_of_le_length nonempty
      exact ⟨_, shifted ▸ remembers.pushed room element⟩
    · rw [circBufStep, circBufPush_full represents full] at done
      obtain ⟨rfl, rfl⟩ := Prod.mk.inj (Except.ok.inj done)
      exact ⟨queue, by simpa [accepted] using remembers⟩
  | pop =>
    obtain ⟨queue', element, popped, -⟩ := circBufPop_spec represents (guarded rfl)
    rw [circBufStep, popped] at done
    obtain ⟨rfl, rfl⟩ := Prod.mk.inj (Except.ok.inj done)
    obtain ⟨after, kept⟩ := remembers.popped (guarded rfl)
    exact ⟨after, by simpa [accepted] using kept⟩
  | getSize | isFull =>
    obtain ⟨rfl, rfl⟩ := Prod.mk.inj (Except.ok.inj done)
    exact ⟨queue, by simpa [accepted] using remembers⟩

theorem Remembers.run (remembers : Remembers buffer queue cells) {calls : List Call} {answers : List Answer}
    (guarded : EveryAttempt circBufStep PopGuarded buffer calls)
    (done : run circBufStep buffer calls = .ok (buffer', answers)) :
    ∃ queue', Remembers buffer' (queue' : BoundedQueue UInt8 capacity)
      ((cells ++ accepted calls answers).drop (accepted calls answers).length) := by
  induction calls generalizing buffer queue cells answers with
  | nil =>
    obtain ⟨rfl, rfl⟩ := Prod.mk.inj (Except.ok.inj done)
    exact ⟨queue, by simpa [accepted] using remembers⟩
  | cons call calls ih =>
    obtain ⟨next, answer, later, one, tail, rfl⟩ := run_cons_eq_ok.mp done
    obtain ⟨here, rest⟩ := (everyAttempt_cons one).mp guarded
    obtain ⟨between, kept⟩ := remembers.step here one
    obtain ⟨queue', final⟩ := ih kept rest tail
    have first : (accepted [call] [answer]).length ≤ (cells ++ accepted [call] [answer]).length := by simp
    rw [← List.drop_append_of_le_length first, List.drop_drop, List.append_assoc, ← accepted_cons,
      ← List.length_append, ← accepted_cons] at final
    exact ⟨queue', final⟩

theorem Remembers.peek_iff (remembers : Remembers buffer queue cells) (some_left : 0 < circBufGetSize buffer) :
    PeekAgrees buffer ↔ cells[0]? = cells[capacity - (circBufGetSize buffer).toNat]? := by
  obtain ⟨represents, length, ring, front, whole⟩ := remembers
  obtain ⟨queue', element, popped, taken, -⟩ := circBufPop_spec represents some_left
  have size : (circBufGetSize buffer).toNat = queue.items.length := represents.size
  have place : buffer.head.toNat < capacity := by
    rw [represents.next]
    exact Nat.mod_lt _ (by have := represents.first; omega)
  have stored : buffer.buffer[buffer.head.toNat]? = cells[0]? := by
    have first := ring 0 (by omega)
    rwa [Nat.add_zero, Nat.mod_eq_of_lt place] at first
  have oldest : cells[capacity - (circBufGetSize buffer).toNat]? = some element := by
    have sum : front.length + queue.items.length = capacity := by rw [← List.length_append, whole, length]
    have before : capacity - queue.items.length = front.length := by omega
    obtain ⟨items, bounded⟩ := queue
    cases items with
    | nil => cases taken
    | cons first rest =>
      obtain ⟨-, rfl⟩ := Prod.mk.inj (Option.some.inj taken)
      rw [size, before, ← whole, List.getElem?_append_right (Nat.le_refl _), Nat.sub_self]
      rfl
  rw [oldest, ← stored]
  constructor
  · rintro ⟨found, after, peeked, popped'⟩
    obtain ⟨-, rfl⟩ := Prod.mk.inj (Except.ok.inj (popped.symm.trans popped'))
    exact load_eq_ok.mp peeked
  · intro same
    exact ⟨element, _, load_eq_ok.mpr same, popped⟩

end Rings

theorem remembers_init (params : CircBufInitParams) (nonempty : 0 < params.maxSize)
    (memory : params.maxSize.toNat ≤ params.buffer.length) :
    Remembers (circBufInit params) (BoundedQueue.empty : BoundedQueue UInt8 params.maxSize.toNat)
      (params.buffer.take params.maxSize.toNat) where
  represents := represents_init params nonempty memory
  length := List.length_take_of_le memory
  ring := by
    intro i below
    rw [List.length_take_of_le memory] at below
    have start : (circBufInit params).head.toNat = 0 := rfl
    rw [start, Nat.zero_add, Nat.mod_eq_of_lt below, List.getElem?_take_of_lt below]
    rfl
  queued := List.nil_suffix

/-- A ring without a place: the one byte it takes is in the first cell. -/
structure NoPlace (buffer : CircBuf) : Prop where
  maxSize : buffer.maxSize = 0
  head : buffer.head = 0
  tail : buffer.tail = 0
  memory : 0 < circBufGetSize buffer → 0 < buffer.buffer.length

theorem NoPlace.step {buffer buffer' : CircBuf} {call : Call} {answer : Answer} (noPlace : NoPlace buffer)
    (done : circBufStep buffer call = .ok (buffer', answer)) : NoPlace buffer' := by
  obtain ⟨maxSize, head, tail, memory⟩ := noPlace
  cases call with
  | push element =>
    rcases circBufStep_push done with ⟨rfl, -⟩ | ⟨-, inside, rfl, -⟩
    · exact ⟨maxSize, head, tail, memory⟩
    · refine ⟨maxSize, ?_, tail, fun _ => ?_⟩
      · simp [CircBuf.pushed, maxSize, UInt16.le_iff_toNat_le]
      · rw [CircBuf.pushed, List.length_set]
        exact Nat.zero_lt_of_lt inside
  | pop =>
    obtain ⟨inside, rfl⟩ := circBufStep_pop done
    refine ⟨maxSize, head, ?_, fun _ => Nat.zero_lt_of_lt inside⟩
    simp [CircBuf.popped, maxSize, UInt16.le_iff_toNat_le]
  | getSize | isFull =>
    obtain ⟨rfl, -⟩ := Prod.mk.inj (Except.ok.inj done)
    exact ⟨maxSize, head, tail, memory⟩

theorem NoPlace.peekAgrees {buffer : CircBuf} (noPlace : NoPlace buffer) (some_left : 0 < circBufGetSize buffer) :
    PeekAgrees buffer := by
  obtain ⟨-, head, tail, memory⟩ := noPlace
  have inside := memory some_left
  have here : buffer.buffer[0]? = some buffer.buffer[0] := List.getElem?_eq_getElem inside
  have peeked : circBufPeek buffer = .ok buffer.buffer[0] := by
    rw [circBufPeek, head]
    exact load_eq_ok.mpr here
  exact ⟨_, _, peeked, circBufPop_eq (tail ▸ here)⟩

/-- `CircBufPeek` returns the byte that was written `max_size` bytes before the next one. It is the oldest byte in the
buffer when the buffer is full, and else only by chance. -/
theorem peek_agrees_iff (params : CircBufInitParams) (memory : params.maxSize.toNat ≤ params.buffer.length)
    {calls : List Call} (guarded : EveryAttempt circBufStep PopGuarded (circBufInit params) calls) {final : CircBuf}
    {answers : List Answer} (done : run circBufStep (circBufInit params) calls = .ok (final, answers))
    (some_left : 0 < circBufGetSize final) :
    PeekAgrees final ↔
      (written params calls answers)[(accepted calls answers).length]? =
        (written params calls answers)[(accepted calls answers).length +
          (params.maxSize.toNat - (circBufGetSize final).toNat)]? := by
  rcases Nat.eq_zero_or_pos params.maxSize.toNat with zero | nonempty
  · have start : NoPlace (circBufInit params) := ⟨UInt16.toNat_inj.mp zero, rfl, rfl, nofun⟩
    have noPlace := run_invariant NoPlace (fun _ _ _ _ noPlace one => noPlace.step one) start done
    refine iff_of_true (noPlace.peekAgrees some_left) ?_
    rw [zero, Nat.zero_sub, Nat.add_zero]
  · have start := remembers_init params (UInt16.lt_iff_toNat_lt.mpr nonempty) memory
    obtain ⟨queue, remembers⟩ := start.run guarded done
    rw [remembers.peek_iff some_left, List.getElem?_drop, List.getElem?_drop, Nat.add_zero]
    rfl

/-- A full buffer: the next byte would be written over the oldest. -/
theorem peek_agrees_full :
    PeekAgrees ⟨[8, 2, 5], 0, 0, 3, 3, true⟩ ↔
      (written ⟨[0, 0, 0], 3⟩ [.push 8, .push 2, .push 5] [.pushed true, .pushed true, .pushed true])[3]? =
        (written ⟨[0, 0, 0], 3⟩ [.push 8, .push 2, .push 5] [.pushed true, .pushed true, .pushed true])[3]? :=
  peek_agrees_iff ⟨[0, 0, 0], 3⟩ (by decide) (by decide) (by decide) (by decide)

/-- One byte in three places: `CircBufPeek` still reads what was in the memory. -/
theorem peek_disagrees :
    ∃ final answers, run circBufStep (circBufInit ⟨[0, 0, 0], 3⟩) [.push 8] = .ok (final, answers) ∧
      EveryAttempt circBufStep PopGuarded (circBufInit ⟨[0, 0, 0], 3⟩) [.push 8] ∧ 0 < circBufGetSize final ∧
      circBufPeek final = .ok 0 ∧ circBufPop final = .ok (final.popped, 8) ∧ ¬PeekAgrees final := by
  refine ⟨⟨[8, 0, 0], 1, 0, 1, 3, false⟩, [.pushed true], rfl, by decide, by decide, rfl, rfl, ?_⟩
  rintro ⟨element, after, peeked, popped⟩
  cases peeked
  obtain ⟨-, same⟩ := Prod.mk.inj (Except.ok.inj popped)
  exact absurd same (by decide)

end TvcHopper.Circbuf
