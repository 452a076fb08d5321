import TvcHopper.Machine.Frames
import TvcHopper.Stcp.Listener

/-! What `onIncomingMsg` of the telemetry server reads of a message.

The TCP server hands over its receive buffer and the number of bytes received.
A message starts with a command and a slash; behind `emdat/` stand frames of the
emulator, each with the same command in front, and each is given to STCP.
-/

set_option autoImplicit false

namespace TvcHopper.Telemetry
open Machine Machine.Stuffing Stcp

/-- `MAX_PACKET_SIZE`, the size of the receive buffer. -/
abbrev maxPacketSize : Nat := 4096

def ascii (text : List Char) : List UInt8 := text.map fun symbol => UInt8.ofNat symbol.toNat

abbrev slash : UInt8 := 0x2F

/-- The string a pointer is converted to: the bytes in front of the first zero. -/
def cString (memory : List UInt8) : Except Fault (List UInt8) :=
  if 0 ∈ memory then .ok (memory.takeWhile (· ≠ 0)) else .error .outOfBounds

structure StcpCall where
  buffer : List UInt8
  size : UInt16
  deriving DecidableEq, Repr

/-- The loop behind `emdat/`. The byte behind `i` is read only when `i` is at a footer. -/
def splitChunk (msg : List UInt8) (size cmdLength : Nat) : Nat → Nat → Nat → Except Fault (List StcpCall)
  | 0, _, _ => .error .diverges
  | fuel + 1, start, i =>
    if i + 1 < size then do
      let symbol ← load msg i
      let next ← if symbol = stcpFooterByte then some <$> load msg (i + 1) else .ok none
      if next = some stcpFooterByte then
        let call : StcpCall := ⟨msg.drop start, UInt16.ofNat (i + 2) - UInt16.ofNat start⟩
        let later ← splitChunk msg size cmdLength fuel (i + cmdLength + 3) (i + 2)
        return call :: later
      else splitChunk msg size cmdLength fuel start (i + 1)
    else .ok []

/-- The commands of the viewer. The value of `set` is the memory it is read from. -/
inductive Command where
  | str (id period : UInt16)
  | get (id : UInt16)
  | val (id : UInt16)
  | set (id : UInt16) (value : List UInt8)
  | unknown
  deriving DecidableEq, Repr

inductive Incoming where
  | emdat (calls : List StcpCall)
  | command (command : Command)
  deriving DecidableEq, Repr

/-- Without a slash the command is the whole string, and `cmd_end + 1` is 0. -/
def readIncoming (msg : List UInt8) (size : Nat) : Except Fault Incoming := do
  let msgStr ← cString msg
  let cmdEnd := msgStr.findIdx? (· = slash)
  let cmd := msgStr.take (cmdEnd.getD msgStr.length)
  if cmd = ascii ['e', 'm', 'd', 'a', 't'] then
    -- bytes of the emulator, behind the slash
    let calls ← splitChunk msg size cmd.length (size + 1) (cmd.length + 1) (cmd.length + 1)
    return .emdat calls
  else
    let bodyIdx := match cmdEnd with
      | some index => index + 1
      | none => 0
    -- the id of a property is read for every other command
    let id ← load16 msg bodyIdx
    if cmd = ascii ['s', 't', 'r'] then
      let period ← load16 msg (bodyIdx + 2)
      return .command (.str id period)
    else if cmd = ascii ['g', 'e', 't'] then return .command (.get id)
    else if cmd = ascii ['v', 'a', 'l'] then return .command (.val id)
    else if cmd = ascii ['s', 'e', 't'] then return .command (.set id (msg.drop (bodyIdx + 2)))
    else return .command .unknown

def handleCalls (callbacks : StcpCallbacks) :
    StcpBuffers → List StcpCall → Except Fault (StcpBuffers × List Handled) :=
  run fun buffers call => do
    let (buffers, handled, _) ← stcpHandleMessage callbacks buffers call.buffer call.size
    return (buffers, handled)

def stcpSendPacket (buffer : List UInt8) : List UInt8 := ascii ['e', 'm', 'd', 'a', 't', '/'] ++ buffer

/-! ## The scan -/

section Scan
variable {msg : List UInt8} {size : Nat} (cmdLength : Nat)

theorem splitChunk_through {before scanned behind : List UInt8} {next : UInt8}
    (here : msg = before ++ (scanned ++ next :: behind)) (single : Single stcpMarks (scanned ++ [next]))
    (inside : before.length + scanned.length < size) {fuel : Nat} (enough : scanned.length ≤ fuel) (start : Nat) :
    splitChunk msg size cmdLength fuel start before.length =
      splitChunk msg size cmdLength (fuel - scanned.length) start (before.length + scanned.length) := by
  induction scanned generalizing before fuel with
  | nil => rfl
  | cons symbol scanned ih =>
    rw [List.length_cons] at inside enough
    obtain ⟨fuel, rfl⟩ : ∃ n, fuel = n + 1 := ⟨fuel - 1, by omega⟩
    have first : load msg before.length = .ok symbol := by
      rw [here]
      exact load_behind before _ 0
    have later : splitChunk msg size cmdLength fuel start (before.length + 1) =
        splitChunk msg size cmdLength (fuel - scanned.length) start (before.length + 1 + scanned.length) := by
      have moved : (before ++ [symbol]).length = before.length + 1 := by simp
      rw [← moved]
      refine ih (by simp [here]) ?_ (by rw [moved]; omega) (by omega)
      exact (List.isChain_cons.mp single).2
    -- behind a footer there is another byte
    obtain ⟨second, tail, rest⟩ : ∃ second tail, scanned ++ [next] = second :: tail :=
      List.exists_cons_of_ne_nil (by simp)
    have after : load msg (before.length + 1) = .ok second := by
      have joined : scanned ++ next :: behind = second :: tail ++ behind := by
        rw [← rest, List.append_assoc, List.singleton_append]
      rw [here, List.cons_append, joined]
      exact load_behind before _ 1
    have apart : ¬(symbol = stcpFooterByte ∧ second = stcpFooterByte) := by
      rw [List.cons_append, rest] at single
      exact (List.isChain_cons_cons.mp single).1
    have step : splitChunk msg size cmdLength (fuel + 1) start before.length =
        splitChunk msg size cmdLength fuel start (before.length + 1) := by
      rw [splitChunk, if_pos (by omega), first, ok_bind]
      by_cases footer : symbol = stcpFooterByte
      · have plain : second ≠ stcpFooterByte := fun same => apart ⟨footer, same⟩
        rw [if_pos footer, after]
        simp [plain, Functor.map, Except.map]
      · simp [footer]
    rw [step, later, List.length_cons]
    congr 1 <;> omega

theorem splitChunk_pair {before scanned behind : List UInt8}
    (here : msg = before ++ (scanned ++ stcpFooterByte :: stcpFooterByte :: behind))
    (single : Single stcpMarks (scanned ++ [stcpFooterByte])) (inside : before.length + scanned.length + 2 ≤ size)
    {fuel : Nat} (enough : size < before.length + fuel) (start : Nat) :
    ∃ fuel', size < before.length + scanned.length + 2 + fuel' ∧
      splitChunk msg size cmdLength fuel start before.length = (do
        let later ← splitChunk msg size cmdLength fuel' (before.length + scanned.length + cmdLength + 3)
          (before.length + scanned.length + 2)
        return ⟨msg.drop start, UInt16.ofNat (before.length + scanned.length + 2) - UInt16.ofNat start⟩ :: later) := by
  obtain ⟨fuel', rfl⟩ : ∃ n, fuel = scanned.length + 1 + n := ⟨fuel - (scanned.length + 1), by omega⟩
  have first : load msg (before.length + scanned.length) = .ok stcpFooterByte := by
    rw [here, load_behind]
    exact load_behind scanned _ 0
  have second : load msg (before.length + scanned.length + 1) = .ok stcpFooterByte := by
    rw [here, Nat.add_assoc, load_behind]
    exact load_behind scanned _ 1
  have left : scanned.length + 1 + fuel' - scanned.length = fuel' + 1 := by omega
  refine ⟨fuel', by omega, ?_⟩
  rw [splitChunk_through cmdLength here single (by omega) (by omega) start, left, splitChunk, if_pos (by omega), first,
    ok_bind, if_pos rfl, second]
  simp [Functor.map, Except.map]

end Scan

/-- What is handed over: the message is what can be read first, and its length the size. -/
structure StcpCall.Passes (call : StcpCall) (message : List UInt8) : Prop where
  read : message <+: call.buffer
  size : call.size.toNat = message.length

theorem passes_unique : Relator.RightUnique StcpCall.Passes := by
  intro call first second one other
  have long : first.length = second.length := one.size.symm.trans other.size
  exact (List.prefix_of_prefix_length_le one.read other.read long.le).eq_of_length long

theorem toNat_sub_ofNat16 {first last : Nat} (order : first ≤ last) (small : last - first < 65536) :
    (UInt16.ofNat last - UInt16.ofNat first).toNat = last - first := by
  rw [UInt16.toNat_sub, UInt16.toNat_ofNat', UInt16.toNat_ofNat']
  omega

/-! ## Chunks of the emulator -/

abbrev emdatLead : List UInt8 := ascii ['e', 'm', 'd', 'a', 't', '/']

theorem single_lead (carry : Bool) : Single stcpMarks (opening stcpMarks carry ++ emdatLead) := by
  unfold Single
  cases carry <;> decide

theorem splitChunk_led {msg : List UInt8} {size : Nat} {payloads : List (List UInt8)} {carry : Bool}
    {before rest : List UInt8}
    (here : msg = before ++ (opening stcpMarks carry ++ payloads.flatMap (emdatLead ++ frame stcpMarks ·) ++ rest))
    (whole : size + rest.length = msg.length) {fuel : Nat} (enough : size < before.length + fuel)
    (short : ∀ payload ∈ payloads, (frame stcpMarks payload).length ≤ maxPayloadLength) :
    ∃ calls, splitChunk msg size 5 fuel (before.length + 6) before.length = .ok calls ∧
      List.Forall₂ StcpCall.Passes calls (led stcpMarks slash carry payloads) := by
  have opened (carry : Bool) : (opening stcpMarks carry).length ≤ 1 := by cases carry <;> simp [opening]
  induction payloads generalizing carry before fuel with
  | nil =>
    -- behind the last frame at most one footer is left
    have carried := opened carry
    simp only [here, List.flatMap_nil, List.append_nil, List.length_append] at whole
    obtain ⟨fuel, rfl⟩ : ∃ n, fuel = n + 1 := ⟨fuel - 1, by omega⟩
    refine ⟨[], ?_, .nil⟩
    rw [splitChunk, if_neg (by omega)]
  | cons payload payloads ih =>
    obtain ⟨body, split⟩ := exists_split stcpMarks payload
    -- the first footer of the pair is the last byte of the body
    obtain ⟨inner, rfl⟩ := List.getLast?_eq_some_iff.mp split.last
    let scanned := opening stcpMarks carry ++ emdatLead ++ inner
    have single : Single stcpMarks (scanned ++ [stcpFooterByte]) := by
      have joined : Single stcpMarks (opening stcpMarks carry ++ emdatLead ++ (inner ++ [stcpFooterByte])) := by
        refine single_append.mpr ⟨single_lead carry, split.single, ?_⟩
        rintro ⟨last, -⟩
        cases carry <;> exact absurd last (by decide)
      simpa [scanned] using joined
    let later := opening stcpMarks (endsInFooter stcpMarks payload) ++
      payloads.flatMap (emdatLead ++ frame stcpMarks ·) ++ rest
    have first : msg = before ++ (scanned ++ stcpFooterByte :: stcpFooterByte :: later) := by
      rw [here, List.flatMap_cons, split.whole]
      simp [scanned, later, stcpMarks]
    have inside : before.length + scanned.length + 2 ≤ size := by
      simp only [first, later, List.length_append, List.length_cons] at whole
      omega
    obtain ⟨fuel', enough', pair⟩ := splitChunk_pair 5 first single inside enough (before.length + 6)
    let next := before ++ (scanned ++ [stcpFooterByte, stcpFooterByte])
    have place : next.length = before.length + scanned.length + 2 := by
      simp [next, Nat.add_assoc]
    have behind : msg = next ++ later := by
      simp [first, next]
    obtain ⟨calls, rest, passed⟩ := ih behind (by rw [place]; exact enough')
      fun other member => short other (List.mem_cons_of_mem _ member)
    rw [place, Nat.add_right_comm, Nat.add_assoc _ 6] at rest
    refine ⟨_, by rw [pair, rest, ok_bind, pure_eq_ok], .cons ?_ passed⟩
    -- the call starts six bytes behind the place the scan was at
    let found := (if carry then [slash] else []) ++ inner
    have long : scanned.length = found.length + 6 := by
      cases carry <;> simp [scanned, found, opening, ascii]
    have fits : inner.length ≤ 128 := by
      refine Nat.le_trans ?_ (short payload List.mem_cons_self)
      rw [split.whole]
      simp [Nat.add_assoc]
    have small : found.length ≤ inner.length + 1 := by
      cases carry <;> simp [found]
    rw [← split.upTo, ← List.append_assoc, ← List.append_assoc]
    constructor
    · rw [first, drop_behind]
      refine ⟨later, ?_⟩
      cases carry <;> simp [scanned, opening, ascii, stcpMarks]
    · rw [toNat_sub_ofNat16 (by omega) (by omega)]
      simp only [List.length_append, found, List.length_singleton] at long ⊢
      omega

theorem readIncoming_emdat {behind : List UInt8} (size : Nat) :
    readIncoming (emdatLead ++ behind) size = (do
      if 0 ∈ emdatLead ++ behind then
        let calls ← splitChunk (emdatLead ++ behind) size 5 (size + 1) 6 6
        return .emdat calls
      else .error .outOfBounds) := by
  unfold readIncoming cString
  by_cases ended : 0 ∈ emdatLead ++ behind
  · rw [if_pos ended, if_pos ended]
    have nonzero : ∀ symbol ∈ emdatLead, decide (symbol ≠ 0) = true := by simp [ascii]
    have string : (emdatLead ++ behind).takeWhile (· ≠ 0) = emdatLead ++ behind.takeWhile (· ≠ 0) :=
      List.takeWhile_append_of_pos nonzero
    rw [ok_bind, string]
    rfl
  · rw [if_neg ended, if_neg ended]
    rfl

theorem handleCalls_ok (callbacks : StcpCallbacks) {calls : List StcpCall} {messages : List (List UInt8)}
    (passed : List.Forall₂ StcpCall.Passes calls messages)
    (short : ∀ message ∈ messages, message.length ≤ maxPayloadLength) (server : StcpBuffers) :
    ∃ server' handled, handleCalls callbacks server calls = .ok (server', handled) ∧
      handled.map Handled.payload = messages.map (extract stcpMarks) := by
  induction passed generalizing server with
  | nil => exact ⟨server, [], rfl, rfl⟩
  | @cons call message calls messages one _ ih =>
    have size : call.size = UInt16.ofNat message.length := by
      rw [← one.size, UInt16.ofNat_toNat]
    obtain ⟨between, handled, status, handles, payload⟩ := stcpHandleMessage_spec callbacks server one.read
      (Nat.le_succ_of_le (short message List.mem_cons_self))
    obtain ⟨server', later, rest, payloads⟩ :=
      ih (fun other member => short other (List.mem_cons_of_mem _ member)) between
    refine ⟨server', handled :: later, run_cons_eq_ok.mpr ⟨between, handled, later, ?_, rest, rfl⟩, ?_⟩
    · rw [size, handles]
      rfl
    · rw [List.map_cons, List.map_cons, payload, payloads]

theorem splitChunk_chunk {payloads : List (List UInt8)} (nonempty : payloads ≠ [])
    (short : ∀ payload ∈ payloads, (frame stcpMarks payload).length ≤ maxPayloadLength) (rest : List UInt8) :
    let chunk := payloads.flatMap (emdatLead ++ frame stcpMarks ·)
    ∃ calls, splitChunk (chunk ++ rest) chunk.length 5 (chunk.length + 1) 6 6 = .ok calls ∧
      List.Forall₂ StcpCall.Passes calls (led stcpMarks slash false payloads) := by
  intro chunk
  have opened : chunk ++ rest = [] ++ (opening stcpMarks false ++ chunk ++ rest) := rfl
  have enough : chunk.length < ([] : List UInt8).length + (chunk.length + 1 + 6) := by
    rw [List.length_nil]
    omega
  obtain ⟨calls, scan, passed⟩ := splitChunk_led opened List.length_append.symm enough short
  -- a scan that starts in front of the first lead gets over it
  obtain ⟨payload, payloads, rfl⟩ := List.exists_cons_of_ne_nil nonempty
  obtain ⟨behind, front⟩ : ∃ behind, chunk ++ rest = [] ++ (emdatLead ++ stcpHeaderByte :: behind) :=
    ⟨stuff stcpMarks payload ++ [stcpFooterByte, stcpFooterByte] ++
      payloads.flatMap (emdatLead ++ frame stcpMarks ·) ++ rest, by simp [chunk, frame, stcpMarks]⟩
  have lead : 0 + 6 < chunk.length := by
    simp only [chunk, List.flatMap_cons, List.length_append, length_frame]
    simp [ascii]
    omega
  have single : Single stcpMarks (emdatLead ++ [stcpHeaderByte]) := by
    unfold Single
    decide
  have passes := splitChunk_through 5 front single lead (Nat.le_add_left 6 (chunk.length + 1)) 6
  exact ⟨calls, passes.symm.trans scan, passed⟩

/-- `onIncomingMsg` gets through a message, and calls `StcpHandleMessage` once for each frame, in order. -/
def SplitsInto (callbacks : StcpCallbacks) (server : StcpBuffers) (msg : List UInt8) (size : Nat)
    (frames : List (List UInt8)) : Prop :=
  ∃ calls server' handled, readIncoming msg size = .ok (.emdat calls) ∧
    handleCalls callbacks server calls = .ok (server', handled) ∧ List.Forall₂ StcpCall.Passes calls frames

/-- A chunk of the emulator is split into its frames exactly when the buffer holds a zero and no payload ends in the
footer byte. -/
theorem chunk_split_iff (callbacks : StcpCallbacks) (server sender : StcpBuffers) {payloads : List (List UInt8)}
    (nonempty : payloads ≠ []) (written : ∀ payload ∈ payloads, escapedLength payload ≤ maxPayloadLength) :
    ∃ sender' frames, run (writePayload callbacks) sender payloads = .ok (sender', frames) ∧
      ∀ chunk rest, chunk = frames.flatMap stcpSendPacket → chunk.length + rest.length = maxPacketSize →
        (SplitsInto callbacks server (chunk ++ rest) chunk.length frames ↔
          0 ∈ chunk ++ rest ∧ ∀ payload ∈ payloads, payload.getLast? ≠ some stcpFooterByte) := by
  obtain ⟨sender', sent⟩ := run_writePayload callbacks sender written
  refine ⟨sender', _, sent, ?_⟩
  intro chunk rest joined _
  have short : ∀ payload ∈ payloads, (frame stcpMarks payload).length ≤ maxPayloadLength := by
    intro payload member
    rw [length_frame]
    exact written payload member
  have chunked : chunk = payloads.flatMap (emdatLead ++ frame stcpMarks ·) := by
    rw [joined, List.flatMap_map]
    rfl
  obtain ⟨calls, scan, passed⟩ := splitChunk_chunk nonempty short rest
  rw [← chunked] at scan
  obtain ⟨behind, front⟩ : ∃ behind, chunk ++ rest = emdatLead ++ behind := by
    obtain ⟨payload, payloads, rfl⟩ := List.exists_cons_of_ne_nil nonempty
    rw [chunked, List.flatMap_cons, List.append_assoc, List.append_assoc]
    exact ⟨_, rfl⟩
  have reads : readIncoming (chunk ++ rest) chunk.length =
      if 0 ∈ chunk ++ rest then .ok (.emdat calls) else .error .outOfBounds := by
    rw [front, readIncoming_emdat, ← front, scan]
    rfl
  -- whole frames are found exactly when no payload ends in the footer byte
  have apart : slash ≠ stcpMarks.header := by decide
  have exact := led_eq_iff apart false payloads
  constructor
  · rintro ⟨calls', server', handled, incoming, -, frames⟩
    rw [reads] at incoming
    by_cases ended : 0 ∈ chunk ++ rest
    · rw [if_pos ended] at incoming
      obtain rfl : calls = calls' := by simpa using incoming
      exact ⟨ended, (exact.mp (passes_unique.forall₂ passed frames)).2⟩
    · rw [if_neg ended] at incoming
      cases incoming
  · rintro ⟨ended, plain⟩
    rw [exact.mpr ⟨fun _ => rfl, plain⟩] at passed
    obtain ⟨server', handled, handles, -⟩ := handleCalls_ok callbacks passed
      (List.forall_mem_map.mpr short) server
    exact ⟨calls, server', handled, by rw [reads, if_pos ended], handles, passed⟩

/-- Two frames in one chunk, in front of zeros. -/
theorem chunk_split_two :
    ∃ sender' frames, run (writePayload ⟨fun _ => 0, fun _ _ => 0⟩)
        ⟨.replicate 128 0, .replicate 128 0⟩ [[0x01, 0x7B], [0x02]] = .ok (sender', frames) ∧
      (frames.flatMap stcpSendPacket).length = 22 ∧
      SplitsInto ⟨fun _ => 0, fun _ _ => 0⟩ ⟨.replicate 128 0, .replicate 128 0⟩
        (frames.flatMap stcpSendPacket ++ .replicate 4074 0) 22 frames := by
  have written : ∀ payload ∈ [[0x01, 0x7B], [0x02]], escapedLength payload ≤ maxPayloadLength := by decide
  obtain ⟨sender', frames, sent, splits⟩ := chunk_split_iff ⟨fun _ => 0, fun _ _ => 0⟩
    ⟨.replicate 128 0, .replicate 128 0⟩ ⟨.replicate 128 0, .replicate 128 0⟩ (List.cons_ne_nil _ _) written
  obtain ⟨_, same⟩ := run_writePayload ⟨fun _ => 0, fun _ _ => 0⟩ ⟨.replicate 128 0, .replicate 128 0⟩ written
  obtain ⟨-, rfl⟩ := Prod.mk.inj (Except.ok.inj (sent.symm.trans same))
  have zero : (0 : UInt8) ∈ List.replicate 4074 (0 : UInt8) := List.mem_replicate.mpr ⟨by decide, rfl⟩
  refine ⟨sender', _, sent, rfl, ?_⟩
  exact (splits _ (.replicate 4074 0) rfl (by rw [List.length_replicate]; rfl)).mpr
    ⟨List.mem_append_right _ zero, by decide⟩

/-- A payload that ends in the footer byte is handed over without the last byte of its frame. -/
theorem chunk_split_footer :
    ∃ sender' frames, run (writePayload ⟨fun _ => 0, fun _ _ => 0⟩)
        ⟨.replicate 128 0, .replicate 128 0⟩ [[0x7F]] = .ok (sender', frames) ∧
      (frames.flatMap stcpSendPacket).length = 11 ∧
      readIncoming (frames.flatMap stcpSendPacket ++ .replicate 4085 0) 11 =
        .ok (.emdat [⟨[0x7A, 0x7B, 0x7F, 0x7F, 0x7F] ++ .replicate 4085 0, 4⟩]) ∧
      ¬SplitsInto ⟨fun _ => 0, fun _ _ => 0⟩ ⟨.replicate 128 0, .replicate 128 0⟩
        (frames.flatMap stcpSendPacket ++ .replicate 4085 0) 11 frames := by
  have written : ∀ payload ∈ [[0x7F]], escapedLength payload ≤ maxPayloadLength := by decide
  obtain ⟨sender', sent⟩ := run_writePayload ⟨fun _ => 0, fun _ _ => 0⟩ ⟨.replicate 128 0, .replicate 128 0⟩ written
  have reads : readIncoming (emdatLead ++ ([0x7A, 0x7B, 0x7F, 0x7F, 0x7F] ++ .replicate 4085 0)) 11 =
      .ok (.emdat [⟨[0x7A, 0x7B, 0x7F, 0x7F, 0x7F] ++ .replicate 4085 0, 4⟩]) := by
    have zero : (0 : UInt8) ∈ List.replicate 4085 (0 : UInt8) := List.mem_replicate.mpr ⟨by decide, rfl⟩
    rw [readIncoming_emdat, if_pos (List.mem_append_right _ (List.mem_append_right _ zero))]
    rfl
  refine ⟨sender', _, sent, rfl, reads, ?_⟩
  rintro ⟨calls, server', handled, incoming, -, frames⟩
  obtain rfl : _ = calls := Incoming.emdat.inj (Except.ok.inj (reads.symm.trans incoming))
  -- the size is one less than the frame's
  have size := (List.forall₂_cons.mp frames).1.size
  exact absurd size (by decide)

end TvcHopper.Telemetry
