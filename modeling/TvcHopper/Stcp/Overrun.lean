import TvcHopper.Stcp.Limits
import TvcHopper.Stcp.Listener

/-! The message buffers of the two listeners, whatever is received.

The index into the message buffer goes back to 0 behind two consecutive footers
and nowhere else. A message that is too long to decode leaves the read buffer of
the decoder, and a call of `read_port` that fails sends the loop of the server
behind its receive buffer.
-/

set_option autoImplicit false

namespace TvcHopper.Stcp
open Machine Machine.Stuffing

variable {n capacity : Nat}

/-! ## Receive calls -/

/-- How a receive call ends; one that fails may have stored bytes before. -/
inductive Reception (capacity : Nat) where
  | received (chunk : Chunk capacity)
  | failed (chunk : Chunk capacity)

namespace Reception

def chunk : Reception capacity → Chunk capacity
  | .received chunk | .failed chunk => chunk

def succeeded : Reception capacity → Bool
  | .received _ => true
  | .failed _ => false

end Reception

structure Receiver (n capacity : Nat) where
  buffer : Vector UInt8 capacity
  listener : Listener n
  suspended : Bool

/-- One round of the loop over the receive buffer. -/
def listenRound (callbacks : StcpCallbacks) (buffer : Vector UInt8 capacity) (listener : Listener n) (j : Nat) :
    Except Fault (Listener n × Option Handled) := do
  let symbol ← loadCell buffer j
  listenByte callbacks listener symbol

/-- One pass of the outer loop; `rounds` is how often the inner loop runs, nothing where the task suspends itself. -/
def listenPass (rounds : Reception capacity → Option Nat) (callbacks : StcpCallbacks)
    (receiver : Receiver n capacity) (reception : Reception capacity) :
    Except Fault (Receiver n capacity × List Handled) :=
  if receiver.suspended then .ok (receiver, [])
  else do
    let buffer ← storeCells receiver.buffer 0 reception.chunk.bytes
    match rounds reception with
    | none => return ({ receiver with buffer, suspended := true }, [])
    | some count =>
      let (listener, handled) ← run (listenRound callbacks buffer) receiver.listener (List.range count)
      return ({ receiver with buffer, listener }, handled.filterMap id)

/-- After an error `UartListener_Task` calls `vTaskSuspend(NULL)`, and nothing resumes it. -/
def uartListenerRounds : Reception 1 → Option Nat
  | .received chunk => some chunk.bytes.length
  | .failed _ => none

/-- `startListener` stores the -1 of a `read_port` that fails in a `uint32_t`. -/
def startListenerRounds : Reception 4096 → Option Nat
  | .received chunk => some chunk.bytes.length
  | .failed _ => some 4294967295

/-- The byte of a round is written inside the message buffer, and the round comes to its end. -/
def WritesInside (callbacks : StcpCallbacks) (buffer : Vector UInt8 capacity) (listener : Listener n) (j : Nat) :
    Prop :=
  listener.msgIdx < n ∧ StepReturns (listenRound callbacks buffer) listener j

def PassInBounds (rounds : Reception capacity → Option Nat) (callbacks : StcpCallbacks)
    (receiver : Receiver n capacity) (reception : Reception capacity) : Prop :=
  receiver.suspended = false →
    ∀ buffer, storeCells receiver.buffer 0 reception.chunk.bytes = .ok buffer →
      ∀ count, rounds reception = some count →
        EveryAttempt (listenRound callbacks buffer) (WritesInside callbacks buffer) receiver.listener
          (List.range count)

/-- Every byte that the listener goes through is written inside the message buffer, and no round leaves a buffer. -/
def InBounds (rounds : Reception capacity → Option Nat) (callbacks : StcpCallbacks) (receiver : Receiver n capacity)
    (receptions : List (Reception capacity)) : Prop :=
  EveryAttempt (listenPass rounds callbacks) (PassInBounds rounds callbacks) receiver receptions

/-- What arrives before the first call that fails. -/
def arrived : List (Reception capacity) → List UInt8
  | [] => []
  | .received chunk :: rest => chunk.bytes ++ arrived rest
  | .failed _ :: _ => []

/-- Fewer than `limit` bytes lie between any byte and the last two consecutive footers before it, and each message
that ends in two footers can be decoded. -/
def FitsBuffers (limit : Nat) (stream : List UInt8) : Prop :=
  Within stcpMarks limit [] stream ∧
    ∀ message ∈ (cut stcpMarks [] stream).1, unescapedLength message ≤ maxPayloadLength

/-! ## Byte by byte -/

def ByteInside (callbacks : StcpCallbacks) (listener : Listener n) (symbol : UInt8) : Prop :=
  listener.msgIdx < n ∧ StepReturns (listenByte callbacks) listener symbol

theorem bytes_inside_iff (callbacks : StcpCallbacks) (short : n ≤ 65535) (stream : List UInt8)
    {listener : Listener n} {buffered : List UInt8} (start : buffered <+: listener.msg.toList)
    (index : listener.msgIdx = buffered.length) :
    EveryAttempt (listenByte callbacks) (ByteInside callbacks) listener stream ↔
      Within stcpMarks n buffered stream ∧
        ∀ message ∈ (cut stcpMarks buffered stream).1, unescapedLength message ≤ maxPayloadLength := by
  induction stream generalizing listener buffered with
  | nil => exact iff_of_true trivial ⟨trivial, List.forall_mem_nil _⟩
  | cons symbol stream ih =>
    by_cases room : buffered.length < n
    · obtain ⟨msg, written, byte⟩ := listenByte_eq callbacks symbol start index room
      by_cases ended : buffered.getLast? = some stcpFooterByte ∧ symbol = stcpFooterByte
      · have cuts : cut stcpMarks buffered (symbol :: stream) = ((buffered ++ [symbol]) ::
            (cut stcpMarks [] stream).1, (cut stcpMarks [] stream).2) := if_pos ended
        have within : Within stcpMarks n buffered (symbol :: stream) ↔ Within stcpMarks n [] stream :=
          (and_iff_right room).trans (if_pos ended).to_iff
        rw [if_pos ended] at byte
        obtain ⟨rest, whole⟩ := written
        have size : (buffered ++ [symbol]).length ≤ 65535 := by
          rw [List.length_append, List.length_singleton]
          omega
        have completes := stcpHandleMessage_ok_iff callbacks listener.buffers size rest
        rw [whole] at completes
        rw [within, cuts, List.forall_mem_cons]
        by_cases fits : unescapedLength (buffered ++ [symbol]) ≤ maxPayloadLength
        · obtain ⟨result, handles⟩ := completes.mpr fits
          rw [handles, ok_bind] at byte
          -- the next message starts at index 0, over what the buffer holds
          have later := @ih ⟨result.1, msg, 0⟩ [] List.nil_prefix rfl
          have inside : ByteInside callbacks listener symbol := ⟨index ▸ room, _, byte⟩
          rw [everyAttempt_cons byte, later, and_iff_right inside, and_iff_right fits]
        · -- the decoder leaves its buffer
          refine iff_of_false (fun every => ?_) (fun fitting => fits fitting.2.1)
          obtain ⟨-, result, one⟩ := every.1
          rw [byte] at one
          obtain ⟨handled, handles, -⟩ := bind_eq_ok.mp one
          exact fits (completes.mp ⟨handled, handles⟩)
      · have cuts : cut stcpMarks buffered (symbol :: stream) = cut stcpMarks (buffered ++ [symbol]) stream :=
          if_neg ended
        have within : Within stcpMarks n buffered (symbol :: stream) ↔
            Within stcpMarks n (buffered ++ [symbol]) stream :=
          (and_iff_right room).trans (if_neg ended).to_iff
        rw [if_neg ended] at byte
        have later := @ih { listener with msg, msgIdx := (buffered ++ [symbol]).length } _ written rfl
        have inside : ByteInside callbacks listener symbol := ⟨index ▸ room, _, byte⟩
        rw [everyAttempt_cons byte, later, and_iff_right inside, within, cuts]
    · exact iff_of_false (fun every => room (index ▸ every.1.1)) (fun fitting => room fitting.1.1)

/-! ## Pass by pass -/

section Passes
variable {rounds : Reception capacity → Option Nat} (callbacks : StcpCallbacks)

theorem rounds_read (buffer : Vector UInt8 capacity) {bytes : List UInt8} (front : bytes <+: buffer.toList) :
    List.Forall₂ (fun j symbol => loadCell buffer j = .ok symbol) (List.range bytes.length) bytes := by
  refine List.forall₂_iff_get.mpr ⟨List.length_range, fun j _ within => ?_⟩
  rw [List.get_eq_getElem, List.getElem_range]
  exact loadCell_written front within

theorem listenRound_eq {buffer : Vector UInt8 capacity} {j : Nat} {symbol : UInt8}
    (read : loadCell buffer j = .ok symbol) (listener : Listener n) :
    listenRound callbacks buffer listener j = listenByte callbacks listener symbol := by
  rw [listenRound, read, ok_bind]

theorem rounds_as_bytes {buffer : Vector UInt8 capacity} {bytes : List UInt8} (front : bytes <+: buffer.toList)
    (listener : Listener n) :
    run (listenRound callbacks buffer) listener (List.range bytes.length) =
        run (listenByte callbacks) listener bytes ∧
      (EveryAttempt (listenRound callbacks buffer) (WritesInside callbacks buffer) listener
          (List.range bytes.length) ↔
        EveryAttempt (listenByte callbacks) (ByteInside callbacks) listener bytes) := by
  have read := rounds_read buffer front
  have same := read.imp fun j symbol (here : loadCell buffer j = .ok symbol) (listener : Listener n) =>
    listenRound_eq callbacks here listener
  refine ⟨run_corresponding same listener, everyAttempt_corresponding same ?_ listener⟩
  refine read.imp fun j symbol here listener => ?_
  simp only [WritesInside, ByteInside, StepReturns, listenRound_eq callbacks here]

theorem listenPass_received {chunk : Chunk capacity} (counted : rounds (.received chunk) = some chunk.bytes.length)
    (buffer : Vector UInt8 capacity) (listener : Listener n) :
    ∃ buffer', listenPass rounds callbacks ⟨buffer, listener, false⟩ (.received chunk) =
        (do let (listener', handled) ← run (listenByte callbacks) listener chunk.bytes
            return (⟨buffer', listener', false⟩, handled.filterMap id)) ∧
      (PassInBounds rounds callbacks ⟨buffer, listener, false⟩ (.received chunk) ↔
        EveryAttempt (listenByte callbacks) (ByteInside callbacks) listener chunk.bytes) := by
  obtain ⟨buffer', stored, whole⟩ := storeCells_front buffer chunk.fits
  have front : chunk.bytes <+: buffer'.toList := List.prefix_iff_eq_take.mpr whole.symm
  obtain ⟨ran, inside⟩ := rounds_as_bytes callbacks front listener
  refine ⟨buffer', ?_, ?_⟩
  · rw [listenPass, if_neg Bool.false_ne_true]
    simp only [Reception.chunk, stored, ok_bind, counted]
    rw [← ran]
  · rw [← inside]
    constructor
    · intro every
      exact every rfl buffer' stored _ counted
    · intro every _ buffer'' stored' count counted'
      cases stored.symm.trans stored'
      cases counted.symm.trans counted'
      exact every

/-- Without calls that fail the passes are the loop over the received chunks. -/
theorem run_listenPass_received (counted : ∀ chunk, rounds (.received chunk) = some chunk.bytes.length)
    (buffer : Vector UInt8 capacity) (listener : Listener n) (chunks : List (Chunk capacity)) :
    (run (listenPass rounds callbacks) ⟨buffer, listener, false⟩ (chunks.map .received)).map
        (fun result => (result.1.listener, result.2.flatten)) = listen callbacks listener chunks := by
  induction chunks generalizing buffer listener with
  | nil => rfl
  | cons chunk chunks ih =>
    obtain ⟨buffer', passed, -⟩ := listenPass_received callbacks (counted chunk) buffer listener
    rw [List.map_cons, listen, List.map_cons]
    cases bytes : run (listenByte callbacks) listener chunk.bytes with
    | error fault =>
      rw [bytes] at passed
      rw [run_head_fault passed, run_head_fault bytes]
      rfl
    | ok result =>
      rw [bytes] at passed
      have later := ih buffer' result.1
      rw [listen] at later
      simp only [run, passed, bytes, ok_bind, pure_eq_ok]
      cases passes : run (listenPass rounds callbacks) ⟨buffer', result.1, false⟩ (chunks.map .received) with
      | error fault =>
        cases rest : run (run (listenByte callbacks)) result.1 (chunks.map (·.bytes)) with
        | error fault' =>
          rw [passes, rest] at later
          exact later
        | ok final =>
          rw [passes, rest] at later
          cases later
      | ok received =>
        cases rest : run (run (listenByte callbacks)) result.1 (chunks.map (·.bytes)) with
        | error fault' =>
          rw [passes, rest] at later
          cases later
        | ok final =>
          rw [passes, rest] at later
          obtain ⟨listeners, handled⟩ := Prod.mk.inj (Except.ok.inj later)
          simp only [ok_bind, Except.map, listeners, handled, List.flatten_cons, List.filterMap_append]

theorem inBounds_suspended {receiver : Receiver n capacity} (suspended : receiver.suspended = true)
    (receptions : List (Reception capacity)) : InBounds rounds callbacks receiver receptions := by
  induction receptions with
  | nil => trivial
  | cons reception receptions ih =>
    have passed : listenPass rounds callbacks receiver reception = .ok (receiver, []) := if_pos suspended
    refine (everyAttempt_cons passed).mpr ⟨fun running => ?_, ih⟩
    rw [suspended] at running
    cases running

/-- What the passes do is what the bytes do that arrive, up to the first call that fails. -/
theorem inBounds_iff_arrived (counted : ∀ chunk, rounds (.received chunk) = some chunk.bytes.length)
    {Tolerated : Prop}
    (failing : ∀ (buffer : Vector UInt8 capacity) (listener : Listener n) chunk receptions,
      InBounds rounds callbacks ⟨buffer, listener, false⟩ (.failed chunk :: receptions) ↔ Tolerated)
    (buffer : Vector UInt8 capacity) (listener : Listener n) (receptions : List (Reception capacity)) :
    InBounds rounds callbacks ⟨buffer, listener, false⟩ receptions ↔
      (Tolerated ∨ ∀ reception ∈ receptions, reception.succeeded = true) ∧
        EveryAttempt (listenByte callbacks) (ByteInside callbacks) listener (arrived receptions) := by
  induction receptions generalizing buffer listener with
  | nil => exact iff_of_true trivial ⟨.inr (List.forall_mem_nil _), trivial⟩
  | cons reception receptions ih =>
    cases reception with
    | failed chunk =>
      rw [failing]
      simp [arrived, EveryAttempt, Reception.succeeded]
    | received chunk =>
      obtain ⟨buffer', passed, inside⟩ := listenPass_received callbacks (counted chunk) buffer listener
      have first : (Reception.received chunk).succeeded = true := rfl
      rw [arrived, everyAttempt_append, List.forall_mem_cons, and_iff_right first]
      cases bytes : run (listenByte callbacks) listener chunk.bytes with
      | error fault =>
        have never : ¬EveryAttempt (listenByte callbacks) (ByteInside callbacks) listener chunk.bytes := by
          intro every
          obtain ⟨_, _, done⟩ := run_of_everyAttempt (fun _ _ inside => inside.2) every
          cases bytes.symm.trans done
        exact iff_of_false (fun every => never (inside.mp every.1)) (fun every => never every.2.1)
      | ok result =>
        rw [bytes] at passed
        rw [InBounds, everyAttempt_cons passed, inside, ← InBounds, ih]
        constructor
        · rintro ⟨here, tolerated, later⟩
          refine ⟨tolerated, here, fun _ _ done => ?_⟩
          cases done
          exact later
        · rintro ⟨tolerated, here, later⟩
          exact ⟨here, tolerated, later _ _ rfl⟩

end Passes

theorem within_noise {limit : Nat} {buffered stream : List UInt8} (noise : stcpFooterByte ∉ stream)
    (within : Within stcpMarks limit buffered stream) : stream = [] ∨ buffered.length + stream.length ≤ limit := by
  induction stream generalizing buffered with
  | nil => exact .inl rfl
  | cons symbol stream ih =>
    have plain : ¬(buffered.getLast? = some stcpMarks.footer ∧ symbol = stcpMarks.footer) :=
      fun ended => noise (ended.2 ▸ List.mem_cons_self ..)
    obtain ⟨room, later⟩ := within
    rw [if_neg plain] at later
    right
    rcases ih (fun member => noise (List.mem_cons_of_mem _ member)) later with rfl | short
    · exact room
    · rw [List.length_append, List.length_singleton] at short
      rw [List.length_cons]
      omega

theorem fitsBuffers_noise {limit : Nat} {stream : List UInt8} (noise : stcpFooterByte ∉ stream)
    (fits : FitsBuffers limit stream) : stream.length ≤ limit := by
  rcases within_noise noise fits.1 with rfl | short
  · exact Nat.zero_le _
  · rwa [List.length_nil, Nat.zero_add] at short

section Failures
variable {rounds : Reception capacity → Option Nat} {callbacks : StcpCallbacks} {chunk : Chunk capacity}

/-- A task that suspends itself receives nothing more. -/
theorem inBounds_failed_suspends (suspends : rounds (.failed chunk) = none) (buffer : Vector UInt8 capacity)
    (listener : Listener n) (receptions : List (Reception capacity)) :
    InBounds rounds callbacks ⟨buffer, listener, false⟩ (.failed chunk :: receptions) := by
  obtain ⟨buffer', stored, -⟩ := storeCells_front buffer chunk.fits
  have passed : listenPass rounds callbacks ⟨buffer, listener, false⟩ (.failed chunk) =
      .ok (⟨buffer', listener, true⟩, []) := by
    rw [listenPass, if_neg Bool.false_ne_true]
    simp only [Reception.chunk, stored, ok_bind, suspends, pure_eq_ok]
  refine (everyAttempt_cons passed).mpr ⟨fun _ _ _ count counted => ?_, inBounds_suspended callbacks rfl receptions⟩
  cases suspends.symm.trans counted

/-- More rounds than the receive buffer has bytes read behind it, if not another buffer is left before. -/
theorem not_inBounds_failed {count : Nat} (counted : rounds (.failed chunk) = some count) (more : capacity < count)
    (buffer : Vector UInt8 capacity) (listener : Listener n) (receptions : List (Reception capacity)) :
    ¬InBounds rounds callbacks ⟨buffer, listener, false⟩ (.failed chunk :: receptions) := by
  intro inBounds
  obtain ⟨buffer', stored, -⟩ := storeCells_front buffer chunk.fits
  refine not_everyAttempt (fun _ _ inside => inside.2) ?_ (List.mem_range.mpr more)
    (inBounds.1 rfl buffer' stored count counted)
  rintro listener' ⟨-, result, returned⟩
  obtain ⟨symbol, read, -⟩ := bind_eq_ok.mp returned
  obtain ⟨within, -⟩ := loadCell_eq_ok.mp read
  exact Nat.lt_irrefl _ within

end Failures

theorem vehicle_in_bounds_iff (callbacks : StcpCallbacks) (buffer : Vector UInt8 1) {vehicle : Listener 256}
    (empty : vehicle.msgIdx = 0) (receptions : List (Reception 1)) :
    InBounds uartListenerRounds callbacks ⟨buffer, vehicle, false⟩ receptions ↔
      FitsBuffers 256 (arrived receptions) := by
  have arrives := inBounds_iff_arrived callbacks
    (fun chunk : Chunk 1 => (rfl : uartListenerRounds (.received chunk) = _))
    (fun buffer listener chunk receptions =>
      iff_true_intro (inBounds_failed_suspends rfl buffer listener receptions)) buffer vehicle receptions
  rw [arrives, and_iff_right (.inl trivial)]
  exact bytes_inside_iff callbacks (by decide) _ List.nil_prefix empty

theorem server_in_bounds_iff (callbacks : StcpCallbacks) (buffer : Vector UInt8 4096) {server : Listener 512}
    (empty : server.msgIdx = 0) (receptions : List (Reception 4096)) :
    InBounds startListenerRounds callbacks ⟨buffer, server, false⟩ receptions ↔
      (∀ reception ∈ receptions, reception.succeeded = true) ∧ FitsBuffers 512 (arrived receptions) := by
  have arrives := inBounds_iff_arrived callbacks
    (fun chunk : Chunk 4096 => (rfl : startListenerRounds (.received chunk) = _))
    (fun buffer listener chunk receptions =>
      iff_false_intro (not_inBounds_failed rfl (by decide) buffer listener receptions)) buffer server receptions
  rw [arrives, false_or]
  exact and_congr_right fun _ => bytes_inside_iff callbacks (by decide) _ List.nil_prefix empty

def firstReceptions (received : Nat → Reception capacity) (count : Nat) : List (Reception capacity) :=
  (List.range count).map received

/-- A listener stays in bounds exactly when the footers come in time and every message can be decoded, and in the
server no call fails; in an endless run, when this is so for everything it begins with. -/
theorem listeners_in_bounds_iff (callbacks : StcpCallbacks) (uartRcvBuffer : Vector UInt8 1)
    (buffer : Vector UInt8 4096) {vehicle : Listener 256} {server : Listener 512}
    (vehicle_empty : vehicle.msgIdx = 0) (server_empty : server.msgIdx = 0) :
    ((∀ receptions : List (Reception 1),
        InBounds uartListenerRounds callbacks ⟨uartRcvBuffer, vehicle, false⟩ receptions ↔
          FitsBuffers 256 (arrived receptions)) ∧
      ∀ received : Nat → Reception 1,
        (∀ count, InBounds uartListenerRounds callbacks ⟨uartRcvBuffer, vehicle, false⟩
          (firstReceptions received count)) ↔
        ∀ count, FitsBuffers 256 (arrived (firstReceptions received count))) ∧
    (∀ receptions : List (Reception 4096),
        InBounds startListenerRounds callbacks ⟨buffer, server, false⟩ receptions ↔
          (∀ reception ∈ receptions, reception.succeeded = true) ∧ FitsBuffers 512 (arrived receptions)) ∧
      ∀ received : Nat → Reception 4096,
        (∀ count, InBounds startListenerRounds callbacks ⟨buffer, server, false⟩ (firstReceptions received count)) ↔
        ∀ count, (∀ reception ∈ firstReceptions received count, reception.succeeded = true) ∧
          FitsBuffers 512 (arrived (firstReceptions received count)) := by
  have onVehicle := vehicle_in_bounds_iff callbacks uartRcvBuffer vehicle_empty
  have onServer := server_in_bounds_iff callbacks buffer server_empty
  exact ⟨⟨onVehicle, fun received => forall_congr' fun count => onVehicle _⟩,
    onServer, fun received => forall_congr' fun count => onServer _⟩

/-- Two frames, the first of them with an escaped byte. -/
theorem listeners_in_bounds_frames :
    (InBounds startListenerRounds ⟨fun _ => 0, fun _ _ => 0⟩
        (⟨.replicate 4096 0, ⟨⟨.replicate 128 0, .replicate 128 0⟩, .replicate 512 0, 0⟩, false⟩ : Receiver 512 4096)
        [.received ⟨[0x7A, 0x7B, 0x7A, 0x7F, 0x7F, 0x7A, 0x01], by decide⟩, .received ⟨[0x7F, 0x7F], by decide⟩] ↔
      (∀ reception ∈ ([.received ⟨[0x7A, 0x7B, 0x7A, 0x7F, 0x7F, 0x7A, 0x01], by decide⟩,
          .received ⟨[0x7F, 0x7F], by decide⟩] : List (Reception 4096)), reception.succeeded = true) ∧
        FitsBuffers 512 [0x7A, 0x7B, 0x7A, 0x7F, 0x7F, 0x7A, 0x01, 0x7F, 0x7F]) := by
  let vehicle : Listener 256 := ⟨⟨.replicate 128 0, .replicate 128 0⟩, .replicate 256 0, 0⟩
  let server : Listener 512 := ⟨⟨.replicate 128 0, .replicate 128 0⟩, .replicate 512 0, 0⟩
  have vehicle_empty : vehicle.msgIdx = 0 := rfl
  have server_empty : server.msgIdx = 0 := rfl
  exact (listeners_in_bounds_iff ⟨fun _ => 0, fun _ _ => 0⟩ (.replicate 1 0) (.replicate 4096 0) vehicle_empty
    server_empty).2.1 _

/-- One byte more than the buffer has, and no footer among them; and a call of `read_port` that fails. -/
theorem listeners_overrun :
    ¬InBounds uartListenerRounds ⟨fun _ => 0, fun _ _ => 0⟩
        (⟨.replicate 1 0, ⟨⟨.replicate 128 0, .replicate 128 0⟩, .replicate 256 0, 0⟩, false⟩ : Receiver 256 1)
        (List.replicate 257 (.received ⟨[0], Nat.le_refl 1⟩)) ∧
      ¬InBounds startListenerRounds ⟨fun _ => 0, fun _ _ => 0⟩
        (⟨.replicate 4096 0, ⟨⟨.replicate 128 0, .replicate 128 0⟩, .replicate 512 0, 0⟩, false⟩ : Receiver 512 4096)
        [.received ⟨List.replicate 513 0, List.length_replicate.trans_le (by omega)⟩] ∧
      ¬InBounds startListenerRounds ⟨fun _ => 0, fun _ _ => 0⟩
        (⟨.replicate 4096 0, ⟨⟨.replicate 128 0, .replicate 128 0⟩, .replicate 512 0, 0⟩, false⟩ : Receiver 512 4096)
        [.failed ⟨[], Nat.zero_le _⟩] := by
  have zeros (count : Nat) : stcpFooterByte ∉ List.replicate count (0 : UInt8) := by
    intro member
    cases List.eq_of_mem_replicate member
  have single (count : Nat) :
      arrived (List.replicate count (.received ⟨[0], Nat.le_refl 1⟩ : Reception 1)) = List.replicate count 0 := by
    induction count with
    | zero => rfl
    | succ count ih =>
      rw [List.replicate_succ, arrived, ih]
      rfl
  rw [vehicle_in_bounds_iff _ _ rfl, server_in_bounds_iff _ _ rfl, single]
  refine ⟨fun fits => ?_, fun fits => ?_, ?_⟩
  · have short := fitsBuffers_noise (zeros 257) fits
    rw [List.length_replicate] at short
    omega
  · have bytes : arrived [(.received ⟨List.replicate 513 0, List.length_replicate.trans_le (by omega)⟩ :
        Reception 4096)] = List.replicate 513 0 := List.append_nil _
    have short := fitsBuffers_noise (zeros 513) (bytes ▸ fits.2)
    rw [List.length_replicate] at short
    omega
  · exact not_inBounds_failed rfl (by decide) _ _ _

end TvcHopper.Stcp
