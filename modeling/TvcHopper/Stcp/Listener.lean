import TvcHopper.Machine.Execution
import TvcHopper.Stcp.Codec

/-! The two listeners that cut a received byte stream into STCP messages.

`UartListener_Task` on the vehicle and `TelemetryComms::startListener` on the
server run the same loop over different buffers. The loop computes the cut at
two consecutive footers as long as the message buffer has room.
-/

set_option autoImplicit false

namespace TvcHopper.Stcp
open Machine Machine.Stuffing

/-- The local state of a listener, with the static STCP buffers it decodes into. -/
structure Listener (n : Nat) where
  buffers : StcpBuffers
  msg : Vector UInt8 n
  msgIdx : Nat

/-- What one receive call leaves in a buffer of `capacity` bytes. -/
structure Chunk (capacity : Nat) where
  bytes : List UInt8
  fits : bytes.length ≤ capacity

variable {n capacity : Nat}

/-- The body of the loop over the received bytes. -/
def listenByte (callbacks : StcpCallbacks) (listener : Listener n) (symbol : UInt8) :
    Except Fault (Listener n × Option Handled) := do
  let msg ← storeCell listener.msg listener.msgIdx symbol
  let msgIdx := listener.msgIdx + 1
  if 2 ≤ msgIdx then
    let beforeLast ← loadCell msg (msgIdx - 2)
    let last ← loadCell msg (msgIdx - 1)
    if beforeLast = stcpFooterByte ∧ last = stcpFooterByte then
      -- a message has ended: the index goes back to the start, whatever the handler returns
      let (buffers, handled, _) ←
        stcpHandleMessage callbacks listener.buffers msg.toList (UInt16.ofNat msgIdx)
      return (⟨buffers, msg, 0⟩, some handled)
    else
      return ({ listener with msg, msgIdx }, none)
  else
    return ({ listener with msg, msgIdx }, none)

/-- One pass of the outer loop for each chunk; returns the calls of `HandleMessage`. -/
def listen (callbacks : StcpCallbacks) (listener : Listener n) (chunks : List (Chunk capacity)) :
    Except Fault (Listener n × List Handled) := do
  let (listener, handled) ← run (run (listenByte callbacks)) listener (chunks.map (·.bytes))
  return (listener, handled.flatten.filterMap id)

def uartListenerTask (callbacks : StcpCallbacks) :
    Listener 256 → List (Chunk 1) → Except Fault (Listener 256 × List Handled) :=
  listen callbacks

def startListener (callbacks : StcpCallbacks) :
    Listener 512 → List (Chunk 4096) → Except Fault (Listener 512 × List Handled) :=
  listen callbacks

/-! ## The loop as cutting -/

theorem listenByte_eq (callbacks : StcpCallbacks) {listener : Listener n} {buffered : List UInt8}
    (symbol : UInt8) (start : buffered <+: listener.msg.toList)
    (index : listener.msgIdx = buffered.length) (room : buffered.length < n) :
    ∃ msg, buffered ++ [symbol] <+: msg.toList ∧ listenByte callbacks listener symbol =
      if buffered.getLast? = some stcpFooterByte ∧ symbol = stcpFooterByte then do
        let (buffers, handled, _) ← stcpHandleMessage callbacks listener.buffers msg.toList
          (UInt16.ofNat (buffered ++ [symbol]).length)
        return (⟨buffers, msg, 0⟩, some handled)
      else .ok ({ listener with msg, msgIdx := (buffered ++ [symbol]).length }, none) := by
  obtain ⟨msg, stored, written⟩ := storeCell_extends symbol start room
  refine ⟨msg, written, ?_⟩
  simp only [listenByte, index, stored, ok_bind, List.length_append, List.length_singleton]
  -- the first byte of a message is never compared
  induction buffered using List.reverseRecOn with
  | nil => simp
  | append_singleton earlier previous _ =>
    have beforeLast : loadCell msg earlier.length = .ok previous := by
      rw [loadCell_written written (by simp)]
      simp
    have last : loadCell msg (earlier.length + 1) = .ok symbol := by
      rw [loadCell_written written (by simp)]
      simp
    simp only [List.length_append, List.length_singleton, Nat.le_add_left, if_true,
      Nat.add_sub_cancel, Nat.reduceSubDiff, beforeLast, last, ok_bind, List.getLast?_concat,
      Option.some.injEq, pure_eq_ok]

theorem stcpHandleMessage_spec (callbacks : StcpCallbacks) (buffers : StcpBuffers)
    {message : List UInt8} {buffer : List UInt8} (start : message <+: buffer)
    (short : message.length ≤ maxPayloadLength + 1) :
    ∃ buffers' handled status, stcpHandleMessage callbacks buffers buffer (UInt16.ofNat message.length) =
        .ok (buffers', handled, status) ∧ handled.payload = extract stcpMarks message := by
  have count : (UInt16.ofNat message.length).toNat = message.length :=
    toNat_ofNat16 (Nat.lt_of_le_of_lt short (by decide))
  have taken : buffer.take (UInt16.ofNat message.length).toNat = message := by
    rw [count]
    exact (List.prefix_iff_eq_take.mp start).symm
  have small : (extract stcpMarks message).length ≤ maxPayloadLength := by
    have decoded := length_unstuff_le stcpMarks (message.drop 1)
    rw [List.length_drop] at decoded
    exact Nat.le_trans decoded (by omega)
  obtain ⟨buffers', size, unescapes, -, read⟩ := stcpUnEscape_spec buffers buffer
    (UInt16.ofNat message.length) (by rw [count]; exact start.length_le) (by rwa [taken])
  let handled : Handled := ⟨buffers'.readPayloadBuffer.toList, size⟩
  refine ⟨buffers', handled, callbacks.handleMessage handled.buffer handled.size, ?_, ?_⟩
  · simp only [stcpHandleMessage, unescapes, ok_bind, pure_eq_ok, handled]
  · calc handled.payload = extract stcpMarks (buffer.take (UInt16.ofNat message.length).toNat) := read
      _ = extract stcpMarks message := by rw [taken]

theorem run_listenByte (callbacks : StcpCallbacks) {limit : Nat} (fits : limit ≤ n)
    (short : limit ≤ maxPayloadLength + 1) (stream : List UInt8) {listener : Listener n}
    {buffered : List UInt8} (start : buffered <+: listener.msg.toList)
    (index : listener.msgIdx = buffered.length) (within : Within stcpMarks limit buffered stream) :
    ∃ listener' handled, run (listenByte callbacks) listener stream = .ok (listener', handled) ∧
      (handled.filterMap id).map Handled.payload =
        (cut stcpMarks buffered stream).1.map (extract stcpMarks) := by
  induction stream generalizing listener buffered with
  | nil => exact ⟨listener, [], rfl, rfl⟩
  | cons symbol stream ih =>
    obtain ⟨room, within⟩ := within
    obtain ⟨msg, written, byte⟩ := listenByte_eq callbacks symbol start index (by omega)
    by_cases ended : buffered.getLast? = some stcpFooterByte ∧ symbol = stcpFooterByte
    · have later_within : Within stcpMarks limit [] stream := (if_pos ended).mp within
      rw [if_pos ended] at byte
      obtain ⟨buffers, handled, status, handles, payload⟩ := stcpHandleMessage_spec callbacks
        listener.buffers written (by simp only [List.length_append, List.length_singleton]; omega)
      rw [handles, ok_bind] at byte
      -- the next message starts at index 0, over what the buffer holds
      obtain ⟨listener', later, rest, delivered⟩ :=
        @ih ⟨buffers, msg, 0⟩ [] List.nil_prefix rfl later_within
      refine ⟨listener', some handled :: later, run_cons_eq_ok.mpr ⟨_, _, _, byte, rest, rfl⟩, ?_⟩
      have cuts : cut stcpMarks buffered (symbol :: stream) = ((buffered ++ [symbol]) ::
          (cut stcpMarks [] stream).1, (cut stcpMarks [] stream).2) := if_pos ended
      rw [cuts, List.map_cons, ← delivered, ← payload]
      rfl
    · have later_within : Within stcpMarks limit (buffered ++ [symbol]) stream := (if_neg ended).mp within
      rw [if_neg ended] at byte
      obtain ⟨listener', later, rest, delivered⟩ :=
        @ih { listener with msg, msgIdx := (buffered ++ [symbol]).length } _ written rfl later_within
      refine ⟨listener', none :: later, run_cons_eq_ok.mpr ⟨_, _, _, byte, rest, rfl⟩, ?_⟩
      have cuts : cut stcpMarks buffered (symbol :: stream) = cut stcpMarks (buffered ++ [symbol]) stream :=
        if_neg ended
      rw [cuts, ← delivered]
      rfl

theorem listen_spec (callbacks : StcpCallbacks) {limit : Nat} (fits : limit ≤ n)
    (short : limit ≤ maxPayloadLength + 1) {listener : Listener n} (empty : listener.msgIdx = 0)
    (chunks : List (Chunk capacity))
    (within : Within stcpMarks limit [] (chunks.flatMap (·.bytes))) :
    ∃ listener' handled, listen callbacks listener chunks = .ok (listener', handled) ∧
      handled.map Handled.payload =
        (cut stcpMarks [] (chunks.flatMap (·.bytes))).1.map (extract stcpMarks) := by
  obtain ⟨listener', outputs, bytes, delivered⟩ :=
    run_listenByte callbacks fits short _ List.nil_prefix empty within
  rw [List.flatMap_def] at bytes
  obtain ⟨grouped, blocks, rfl⟩ := run_flatten_eq_ok.mp bytes
  refine ⟨listener', _, ?_, delivered⟩
  simp only [listen, blocks, ok_bind, pure_eq_ok]

/-! ## From `StcpWrite` to the listeners -/

/-- Write a whole payload; returns the bytes given to `Send`. -/
def writePayload (callbacks : StcpCallbacks) (buffers : StcpBuffers) (payload : List UInt8) :
    Except Fault (StcpBuffers × List UInt8) := do
  let (buffers, sent, _) ← stcpWrite callbacks buffers payload (UInt16.ofNat payload.length)
  return (buffers, sent)

theorem writePayload_spec (callbacks : StcpCallbacks) (buffers : StcpBuffers) {payload : List UInt8}
    (fits : escapedLength payload ≤ maxPayloadLength) :
    ∃ buffers', writePayload callbacks buffers payload = .ok (buffers', frame stcpMarks payload) := by
  have count : (UInt16.ofNat payload.length).toNat = payload.length :=
    toNat_ofNat16 (Nat.lt_of_le_of_lt (m := escapedLength payload) (by simp only [escapedLength]; omega)
      (Nat.lt_of_le_of_lt fits (by decide)))
  have taken : payload.take (UInt16.ofNat payload.length).toNat = payload := by
    rw [count, List.take_length]
  obtain ⟨buffers', size, escapes, -, written⟩ := stcpEscape_spec buffers payload
    (UInt16.ofNat payload.length) (by rw [count]) (by rwa [taken, length_frame])
  rw [taken] at written
  exact ⟨buffers', by simp only [writePayload, stcpWrite, escapes, ok_bind, pure_eq_ok, written]⟩

theorem run_writePayload (callbacks : StcpCallbacks) (buffers : StcpBuffers)
    {payloads : List (List UInt8)} (fits : ∀ payload ∈ payloads, escapedLength payload ≤ maxPayloadLength) :
    ∃ buffers', run (writePayload callbacks) buffers payloads =
      .ok (buffers', payloads.map (frame stcpMarks)) := by
  induction payloads generalizing buffers with
  | nil => exact ⟨buffers, rfl⟩
  | cons payload payloads ih =>
    obtain ⟨between, first⟩ := writePayload_spec callbacks buffers (fits payload (by simp))
    obtain ⟨buffers', rest⟩ := ih between fun other member => fits other (by simp [member])
    exact ⟨buffers', run_cons_eq_ok.mpr ⟨_, _, _, first, rest, rfl⟩⟩

/-- The listener got through its input and handed over these payloads, in this order. -/
def Delivers (result : Except Fault (Listener n × List Handled)) (payloads : List (List UInt8)) : Prop :=
  ∃ listener' handled, result = .ok (listener', handled) ∧ handled.map Handled.payload = payloads

theorem listen_frames (callbacks : StcpCallbacks) (fits : maxPayloadLength + 1 ≤ n)
    {listener : Listener n} (empty : listener.msgIdx = 0) {chunks : List (Chunk capacity)}
    {payloads : List (List UInt8)}
    (written : ∀ payload ∈ payloads, escapedLength payload ≤ maxPayloadLength)
    (stream : chunks.flatMap (·.bytes) = (payloads.map (frame stcpMarks)).flatten) :
    Delivers (listen callbacks listener chunks) (received stcpMarks false payloads) := by
  rw [← List.flatMap_def] at stream
  have within : Within stcpMarks (maxPayloadLength + 1) [] (chunks.flatMap (·.bytes)) := by
    rw [stream]
    exact within_frames false payloads fun payload member =>
      Nat.lt_succ_of_le (length_frame payload ▸ written payload member)
  obtain ⟨listener', handled, listens, delivered⟩ :=
    listen_spec callbacks fits (Nat.le_refl _) empty chunks within
  refine ⟨listener', handled, listens, ?_⟩
  rw [delivered, stream]
  exact extract_cut_frames false payloads

theorem delivers_listen_iff (callbacks : StcpCallbacks) (fits : maxPayloadLength + 1 ≤ n)
    {listener : Listener n} (empty : listener.msgIdx = 0) {chunks : List (Chunk capacity)}
    {payloads : List (List UInt8)}
    (written : ∀ payload ∈ payloads, escapedLength payload ≤ maxPayloadLength)
    (stream : chunks.flatMap (·.bytes) = (payloads.map (frame stcpMarks)).flatten) :
    Delivers (listen callbacks listener chunks) payloads ↔
      ∀ payload ∈ payloads.dropLast, payload.getLast? ≠ some stcpFooterByte := by
  have same := received_eq_iff stcpMarks false payloads
  obtain ⟨listener', handled, listens, delivered⟩ := listen_frames callbacks fits empty written stream
  constructor
  · rintro ⟨_, _, listens', delivered'⟩
    obtain ⟨-, rfl⟩ := Prod.mk.inj (Except.ok.inj (listens.symm.trans listens'))
    exact (same.mp (delivered.symm.trans delivered')).2
  · intro plain
    exact ⟨listener', handled, listens, delivered.trans (same.mpr ⟨fun _ => rfl, plain⟩)⟩

/-- The payloads written are delivered exactly when none but the last ends in the footer byte. -/
theorem delivers_iff (callbacks : StcpCallbacks) (sender : StcpBuffers) (payloads : List (List UInt8))
    (written : ∀ payload ∈ payloads, escapedLength payload ≤ maxPayloadLength) :
    ∃ sender' frames, run (writePayload callbacks) sender payloads = .ok (sender', frames) ∧
      (∀ (vehicle : Listener 256) (chunks : List (Chunk 1)), vehicle.msgIdx = 0 →
        chunks.flatMap (·.bytes) = frames.flatten →
        (Delivers (uartListenerTask callbacks vehicle chunks) payloads ↔
          ∀ payload ∈ payloads.dropLast, payload.getLast? ≠ some stcpFooterByte)) ∧
      ∀ (server : Listener 512) (chunks : List (Chunk 4096)), server.msgIdx = 0 →
        chunks.flatMap (·.bytes) = frames.flatten →
        (Delivers (startListener callbacks server chunks) payloads ↔
          ∀ payload ∈ payloads.dropLast, payload.getLast? ≠ some stcpFooterByte) := by
  obtain ⟨sender', sent⟩ := run_writePayload callbacks sender written
  refine ⟨sender', _, sent, ?_, ?_⟩
  · intro vehicle chunks empty stream
    exact delivers_listen_iff callbacks (by decide) empty written stream
  · intro server chunks empty stream
    exact delivers_listen_iff callbacks (by decide) empty written stream

/-- A payload that ends in the footer byte is delivered when it is the last one. -/
theorem delivers_last_footer :
    ∃ sender' frames, run (writePayload ⟨fun _ => 0, fun _ _ => 0⟩)
        ⟨.replicate 128 0, .replicate 128 0⟩ [[0x01, 0x7B], [0x7F]] = .ok (sender', frames) ∧
      ∀ chunks : List (Chunk 1), chunks.flatMap (·.bytes) = frames.flatten →
        Delivers (uartListenerTask ⟨fun _ => 0, fun _ _ => 0⟩
          ⟨⟨.replicate 128 0, .replicate 128 0⟩, .replicate 256 0, 0⟩ chunks) [[0x01, 0x7B], [0x7F]] := by
  obtain ⟨sender', frames, sent, vehicle, -⟩ := delivers_iff ⟨fun _ => 0, fun _ _ => 0⟩
    ⟨.replicate 128 0, .replicate 128 0⟩ [[0x01, 0x7B], [0x7F]] (by decide)
  exact ⟨sender', frames, sent, fun chunks stream => (vehicle _ chunks rfl stream).mpr (by decide)⟩

/-- In front of another payload it is not: the second payload arrives with the header in front. -/
theorem footer_payload_shifts_next :
    ∃ sender' frames, run (writePayload ⟨fun _ => 0, fun _ _ => 0⟩)
        ⟨.replicate 128 0, .replicate 128 0⟩ [[0x7F], [0x01]] = .ok (sender', frames) ∧
      ∃ chunks : List (Chunk 1), chunks.flatMap (·.bytes) = frames.flatten ∧
        Delivers (uartListenerTask ⟨fun _ => 0, fun _ _ => 0⟩
          ⟨⟨.replicate 128 0, .replicate 128 0⟩, .replicate 256 0, 0⟩ chunks) [[0x7F], [0x7A, 0x01]] ∧
        ¬Delivers (uartListenerTask ⟨fun _ => 0, fun _ _ => 0⟩
          ⟨⟨.replicate 128 0, .replicate 128 0⟩, .replicate 256 0, 0⟩ chunks) [[0x7F], [0x01]] := by
  have written : ∀ payload ∈ [[0x7F], [0x01]], escapedLength payload ≤ maxPayloadLength := by decide
  obtain ⟨sender', sent⟩ := run_writePayload ⟨fun _ => 0, fun _ _ => 0⟩
    ⟨.replicate 128 0, .replicate 128 0⟩ written
  refine ⟨sender', _, sent,
    [0x7A, 0x7B, 0x7F, 0x7F, 0x7F, 0x7A, 0x01, 0x7F, 0x7F].map fun symbol => ⟨[symbol], by simp⟩, by decide, ?_⟩
  constructor
  · exact listen_frames _ (by decide) rfl written (by decide)
  · rw [uartListenerTask, delivers_listen_iff _ (by decide) rfl written (by decide)]
    decide

end TvcHopper.Stcp
