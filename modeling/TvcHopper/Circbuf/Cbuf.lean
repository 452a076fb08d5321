import TvcHopper.Machine.Refinement
import TvcHopper.Machine.Ring

/-! The circular buffer refines a queue of `max_size` bytes. -/

set_option autoImplicit false

namespace TvcHopper.Circbuf

open TvcHopper.Machine

structure CircBufInitParams where
  buffer : List UInt8
  maxSize : UInt16

structure CircBuf where
  buffer : List UInt8
  head : UInt16
  tail : UInt16
  size : UInt16
  maxSize : UInt16
  isFull : Bool
  deriving DecidableEq

def circBufInit (params : CircBufInitParams) : CircBuf where
  buffer := params.buffer
  maxSize := params.maxSize
  head := 0
  tail := 0
  size := 0
  isFull := false

def circBufPush (buffer : CircBuf) (element : UInt8) : Except Fault (CircBuf × Bool) := do
  if buffer.isFull then
    return (buffer, false)
  let cells ← storeRange buffer.buffer buffer.head.toNat [element]
  let head := buffer.head + 1
  let size := buffer.size + 1
  return ({ buffer with
    buffer := cells
    head := if buffer.maxSize ≤ head then 0 else head
    size
    isFull := if buffer.maxSize ≤ size then true else buffer.isFull }, true)

def circBufPop (buffer : CircBuf) : Except Fault (CircBuf × UInt8) := do
  let element ← load buffer.buffer buffer.tail.toNat
  let tail := buffer.tail + 1
  return ({ buffer with
    size := buffer.size - 1
    isFull := false
    tail := if buffer.maxSize ≤ tail then 0 else tail }, element)

def CircBuf.pushed (buffer : CircBuf) (element : UInt8) : CircBuf :=
  { buffer with
    buffer := buffer.buffer.set buffer.head.toNat element
    head := if buffer.maxSize ≤ buffer.head + 1 then 0 else buffer.head + 1
    size := buffer.size + 1
    isFull := if buffer.maxSize ≤ buffer.size + 1 then true else buffer.isFull }

def CircBuf.popped (buffer : CircBuf) : CircBuf :=
  { buffer with
    size := buffer.size - 1
    isFull := false
    tail := if buffer.maxSize ≤ buffer.tail + 1 then 0 else buffer.tail + 1 }

theorem circBufPush_eq {buffer : CircBuf} (room : buffer.isFull = false)
    (inside : buffer.head.toNat < buffer.buffer.length) (element : UInt8) :
    circBufPush buffer element = .ok (buffer.pushed element, true) := by
  simp only [circBufPush, room, storeRange_one inside, Bool.false_eq_true, if_false, ok_bind, CircBuf.pushed]
  rfl

theorem circBufPop_eq {buffer : CircBuf} {element : UInt8} (here : buffer.buffer[buffer.tail.toNat]? = some element) :
    circBufPop buffer = .ok (buffer.popped, element) := by
  simp only [circBufPop, load_eq_ok.mpr here, ok_bind]
  rfl

def circBufPeek (buffer : CircBuf) : Except Fault UInt8 := load buffer.buffer buffer.head.toNat

def circBufGetSize (buffer : CircBuf) : UInt16 := buffer.size

def circBufIsFull (buffer : CircBuf) : Bool := buffer.isFull

inductive Call where
  | push (element : UInt8)
  | pop
  | getSize
  | isFull
  deriving DecidableEq

inductive Answer where
  | pushed (accepted : Bool)
  | popped (element : UInt8)
  | counted (size : Nat)
  | tested (full : Bool)
  deriving DecidableEq

def circBufStep (buffer : CircBuf) : Call → Except Fault (CircBuf × Answer)
  | .push element => do
    let (buffer, accepted) ← circBufPush buffer element
    return (buffer, .pushed accepted)
  | .pop => do
    let (buffer, element) ← circBufPop buffer
    return (buffer, .popped element)
  | .getSize => return (buffer, .counted (circBufGetSize buffer).toNat)
  | .isFull => return (buffer, .tested (circBufIsFull buffer))

section Queues
variable {capacity : Nat}

/-- What the calls mean for a queue; there is nothing to take out of an empty one. -/
def queueStep (queue : BoundedQueue UInt8 capacity) : Call → Except Unit (BoundedQueue UInt8 capacity × Answer)
  | .push element => .ok ((queue.push element).1, .pushed (queue.push element).2)
  | .pop =>
    match queue.pop with
    | some (queue, element) => .ok (queue, .popped element)
    | none => .error ()
  | .getSize => .ok (queue, .counted queue.items.length)
  | .isFull => .ok (queue, .tested (decide (queue.items.length = capacity)))

/-- The elements stand in the ring from `tail` on; `head`, `size` and the flag follow from their number. -/
structure Represents (buffer : CircBuf) (queue : BoundedQueue UInt8 capacity) : Prop where
  ring : buffer.maxSize.toNat = capacity
  memory : capacity ≤ buffer.buffer.length
  first : buffer.tail.toNat < capacity
  next : buffer.head.toNat = (buffer.tail.toNat + queue.items.length) % capacity
  size : buffer.size.toNat = queue.items.length
  full : buffer.isFull = decide (queue.items.length = capacity)
  cells : RingHolds buffer.buffer capacity buffer.tail.toNat queue.items

theorem toNat_next {index maxSize : UInt16} (inside : index.toNat < maxSize.toNat) :
    (if maxSize ≤ index + 1 then 0 else index + 1 : UInt16).toNat = (index.toNat + 1) % maxSize.toNat := by
  have width : maxSize.toNat < 65536 := maxSize.toNat_lt
  have stepped : (index + 1).toNat = index.toNat + 1 := by
    rw [UInt16.toNat_add, UInt16.toNat_one]
    exact Nat.mod_eq_of_lt (by omega)
  rw [next_in_ring inside]
  simp only [UInt16.le_iff_toNat_le, stepped]
  split <;> simp [stepped]

variable {buffer : CircBuf} {queue : BoundedQueue UInt8 capacity}

theorem represents_init (params : CircBufInitParams) (nonempty : 0 < params.maxSize)
    (memory : params.maxSize.toNat ≤ params.buffer.length) :
    Represents (circBufInit params) (BoundedQueue.empty : BoundedQueue UInt8 params.maxSize.toNat) where
  ring := rfl
  memory := memory
  first := UInt16.lt_iff_toNat_lt.mp nonempty
  next := (Nat.zero_mod _).symm
  size := rfl
  full := (decide_eq_false (Nat.ne_of_lt (UInt16.lt_iff_toNat_lt.mp nonempty))).symm
  cells := ringHolds_nil _ _ _

theorem circBufPush_full (represents : Represents buffer queue) (full : queue.items.length = capacity)
    (element : UInt8) : circBufPush buffer element = .ok (buffer, false) := by
  have flag : buffer.isFull = true := represents.full.trans (decide_eq_true full)
  simp [circBufPush, flag]

theorem circBufPush_room (represents : Represents buffer queue) (room : queue.items.length < capacity)
    (element : UInt8) :
    circBufPush buffer element = .ok (buffer.pushed element, true) ∧
      Represents (buffer.pushed element) (queue.push element).1 := by
  have width : buffer.maxSize.toNat < 65536 := buffer.maxSize.toNat_lt
  have ring := represents.ring
  have flag : buffer.isFull = false := represents.full.trans (decide_eq_false (Nat.ne_of_lt room))
  have place : buffer.head.toNat < capacity := by
    rw [represents.next]
    exact Nat.mod_lt _ (by omega)
  have more : (buffer.size + 1).toNat = queue.items.length + 1 := by
    rw [UInt16.toNat_add, UInt16.toNat_one, represents.size]
    exact Nat.mod_eq_of_lt (by omega)
  have pushed : (queue.push element).1.items = queue.items ++ [element] := by
    simp [BoundedQueue.push, room]
  refine ⟨circBufPush_eq flag (Nat.lt_of_lt_of_le place represents.memory) element, ?_⟩
  constructor
  case ring => exact ring
  case memory => exact Nat.le_trans represents.memory (Nat.le_of_eq List.length_set.symm)
  case first => exact represents.first
  case next =>
    rw [pushed, List.length_append, List.length_singleton, CircBuf.pushed, toNat_next (ring.symm ▸ place), ring,
      represents.next, Nat.mod_add_mod, Nat.add_assoc]
  case size => simp only [pushed, CircBuf.pushed, more, List.length_append, List.length_singleton]
  case full =>
    rw [pushed, List.length_append, List.length_singleton]
    simp only [CircBuf.pushed, UInt16.le_iff_toNat_le, more, ring, flag]
    split
    · next last => exact (decide_eq_true (by omega)).symm
    · next below => exact (decide_eq_false (by omega)).symm
  case cells =>
    rw [pushed, CircBuf.pushed, represents.next]
    exact represents.cells.push room represents.memory element

theorem circBufPop_spec (represents : Represents buffer queue) (some_left : 0 < circBufGetSize buffer) :
    ∃ queue' element, circBufPop buffer = .ok (buffer.popped, element) ∧ queue.pop = some (queue', element) ∧
      Represents buffer.popped queue' := by
  have ring := represents.ring
  have width : buffer.maxSize.toNat < 65536 := buffer.maxSize.toNat_lt
  have counted : 0 < queue.items.length := represents.size ▸ UInt16.lt_iff_toNat_lt.mp some_left
  obtain ⟨items, bounded⟩ := queue
  cases items with
  | nil => exact absurd counted (Nat.lt_irrefl 0)
  | cons element rest =>
    simp only [List.length_cons] at bounded
    have cells := represents.cells.pop
    have here : buffer.buffer[buffer.tail.toNat]? = some element := by
      rw [← Nat.mod_eq_of_lt represents.first]
      exact cells.1
    have size : buffer.size.toNat = rest.length + 1 := represents.size
    have less : (buffer.size - 1).toNat = rest.length := by
      rw [UInt16.toNat_sub_of_le _ _ (by rw [UInt16.le_iff_toNat_le, size]; exact Nat.succ_pos _), size,
        UInt16.toNat_one, Nat.add_sub_cancel]
    have moved : buffer.popped.tail.toNat = (buffer.tail.toNat + 1) % capacity :=
      (toNat_next (ring.symm ▸ represents.first)).trans (by rw [ring])
    refine ⟨⟨rest, Nat.le_of_succ_le bounded⟩, element, circBufPop_eq here, rfl, ?_⟩
    constructor
    case ring => exact ring
    case memory => exact represents.memory
    case first =>
      rw [moved]
      exact Nat.mod_lt _ (by omega)
    case next =>
      have kept : buffer.popped.head.toNat = (buffer.tail.toNat + (rest.length + 1)) % capacity := represents.next
      rw [kept, moved, Nat.mod_add_mod]
      exact congrArg (· % capacity) (by simp only; omega)
    case size => exact less
    case full => exact (decide_eq_false (by simp only; omega)).symm
    case cells =>
      rw [moved]
      exact cells.2

def PopGuarded (buffer : CircBuf) (call : Call) : Prop := call = .pop → 0 < circBufGetSize buffer

instance (buffer : CircBuf) (call : Call) : Decidable (PopGuarded buffer call) :=
  inferInstanceAs (Decidable (call = .pop → 0 < circBufGetSize buffer))

theorem circBufStep_refines (call : Call) (represents : Represents buffer queue) (guarded : PopGuarded buffer call) :
    ∃ buffer' queue' answer, circBufStep buffer call = .ok (buffer', answer) ∧
      queueStep queue call = .ok (queue', answer) ∧ Represents buffer' queue' := by
  cases call with
  | push element =>
    rcases Nat.lt_or_eq_of_le queue.bounded with room | full
    · obtain ⟨done, represents'⟩ := circBufPush_room represents room element
      have accepted : (queue.push element).2 = true := by simp [BoundedQueue.push, room]
      exact ⟨buffer.pushed element, _, .pushed true, by simp [circBufStep, done], by simp [queueStep, accepted],
        represents'⟩
    · have refused : queue.push element = (queue, false) := by simp [BoundedQueue.push, full]
      exact ⟨buffer, queue, .pushed false, by simp [circBufStep, circBufPush_full represents full],
        by simp [queueStep, refused], represents⟩
  | pop =>
    obtain ⟨queue', element, done, popped, represents'⟩ := circBufPop_spec represents (guarded rfl)
    exact ⟨buffer.popped, queue', .popped element, by simp [circBufStep, done], by simp [queueStep, popped],
      represents'⟩
  | getSize =>
    refine ⟨buffer, queue, .counted queue.items.length, ?_, rfl, represents⟩
    simp [circBufStep, circBufGetSize, represents.size]
  | isFull =>
    refine ⟨buffer, queue, .tested (decide (queue.items.length = capacity)), ?_, rfl, represents⟩
    simp [circBufStep, circBufIsFull, represents.full]

end Queues

theorem circBuf_is_queue (params : CircBufInitParams) (nonempty : 0 < params.maxSize)
    (memory : params.maxSize.toNat ≤ params.buffer.length) {calls : List Call}
    (guarded : EveryAttempt circBufStep PopGuarded (circBufInit params) calls) :
    ∃ final queue answers, run circBufStep (circBufInit params) calls = .ok (final, answers) ∧
      run queueStep (BoundedQueue.empty : BoundedQueue UInt8 params.maxSize.toNat) calls = .ok (queue, answers) ∧
      Represents final queue ∧
      ∀ element, (circBufPush final element = .ok (final, false) ↔ queue.items.length = params.maxSize.toNat) := by
  obtain ⟨final, queue, answers, done, specified, represents⟩ := run_refines Represents
    (fun _ _ call represents here => circBufStep_refines call represents here)
    (represents_init params nonempty memory) guarded
  refine ⟨final, queue, answers, done, specified, represents, fun element => ⟨fun refused => ?_, fun full => ?_⟩⟩
  · rcases Nat.lt_or_eq_of_le queue.bounded with room | full
    · rw [(circBufPush_room represents room element).1, Except.ok.injEq, Prod.mk.injEq] at refused
      exact absurd refused.2 (by decide)
    · exact full
  · exact circBufPush_full represents full element

/-- Three places, five calls to fill them, then the oldest byte comes out first. -/
theorem circBuf_is_queue_of_three :
    ∃ final queue answers, run circBufStep (circBufInit ⟨[0, 0, 0], 3⟩)
        [.push 8, .push 2, .push 5, .isFull, .push 9, .pop, .getSize] = .ok (final, answers) ∧
      run queueStep (BoundedQueue.empty : BoundedQueue UInt8 3)
        [.push 8, .push 2, .push 5, .isFull, .push 9, .pop, .getSize] = .ok (queue, answers) ∧
      Represents final queue ∧
      ∀ element, (circBufPush final element = .ok (final, false) ↔ queue.items.length = 3) :=
  circBuf_is_queue ⟨[0, 0, 0], 3⟩ (by decide) (by decide) (by decide)

end TvcHopper.Circbuf
