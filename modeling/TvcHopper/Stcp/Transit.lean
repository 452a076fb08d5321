import TvcHopper.Stcp.Limits
import TvcHopper.Stcp.Listener

/-! Payloads on their way to a listener, byte by byte.

Behind a payload that ends in the footer byte one footer of its frame is left
over, and the next payload is handed over with the header in front.
-/

set_option autoImplicit false

namespace TvcHopper.Stcp
open Machine Machine.Stuffing

variable {n : Nat}

/-- What the listener has buffered and what is on the line are the frames of these payloads; `carry` says that a
footer is left over in front of them. -/
structure InTransit (Allowed : List UInt8 → Prop) (listener : Listener n) (line : List UInt8) (carry : Bool)
    (payloads : List (List UInt8)) : Prop where
  allowed : ∀ payload ∈ payloads, Allowed payload
  buffered : ∃ buffered, buffered <+: listener.msg.toList ∧ listener.msgIdx = buffered.length ∧
    Single stcpMarks buffered ∧
    buffered ++ line = opening stcpMarks carry ++ payloads.flatMap (frame stcpMarks)

/-- A payload as it is handed over. -/
def led (carry : Bool) (payload : List UInt8) : List UInt8 := if carry then stcpHeaderByte :: payload else payload

/-- The frame of the payload has room in the buffer for escaped payloads. -/
def Fits (payload : List UInt8) : Prop := escapedLength payload ≤ maxPayloadLength

instance : DecidablePred Fits := fun _ => Nat.decLe _ _

section Transit
variable {Allowed : List UInt8 → Prop} {listener : Listener n} {line : List UInt8} {carry : Bool}
  {payloads : List (List UInt8)}

variable (Allowed) in
theorem inTransit_idle (idle : listener.msgIdx = 0) : InTransit Allowed listener [] false [] :=
  ⟨nofun, [], List.nil_prefix, idle, .nil, rfl⟩

theorem InTransit.withBuffers (transit : InTransit Allowed listener line carry payloads) (buffers : StcpBuffers) :
    InTransit Allowed { listener with buffers } line carry payloads := ⟨transit.allowed, transit.buffered⟩

theorem InTransit.write (transit : InTransit Allowed listener line carry payloads) {more : List (List UInt8)}
    (allowed : ∀ payload ∈ more, Allowed payload) :
    InTransit Allowed listener (line ++ (more.map (frame stcpMarks)).flatten) carry (payloads ++ more) := by
  obtain ⟨buffered, start, index, single, stream⟩ := transit.buffered
  refine ⟨List.forall_mem_append.mpr ⟨transit.allowed, allowed⟩, buffered, start, index, single, ?_⟩
  rw [← List.append_assoc, stream, List.flatMap_append, List.append_assoc, ← List.flatMap_def]

theorem InTransit.drained (transit : InTransit Allowed listener [] carry payloads) : payloads = [] := by
  obtain ⟨buffered, -, -, single, stream⟩ := transit.buffered
  rw [List.append_nil] at stream
  cases payloads with
  | nil => rfl
  | cons payload rest =>
    obtain ⟨body, split⟩ := exists_split stcpMarks payload
    -- the first frame has two footers at its end
    rw [List.flatMap_cons, split.whole, List.append_assoc, ← List.append_assoc] at stream
    rw [stream] at single
    exact absurd ⟨split.ended carry, rfl⟩ (single_append.mp single).2.2

theorem InTransit.line_empty (transit : InTransit Allowed listener line false []) : line = [] := by
  obtain ⟨buffered, -, -, -, stream⟩ := transit.buffered
  exact (List.append_eq_nil_iff.mp stream).2

theorem InTransit.ended {buffered : List UInt8} {symbol : UInt8} (single : Single stcpMarks buffered)
    (ended : buffered.getLast? = some stcpFooterByte ∧ symbol = stcpFooterByte)
    (stream : buffered ++ symbol :: line = opening stcpMarks carry ++ payloads.flatMap (frame stcpMarks)) :
    ∃ payload rest, payloads = payload :: rest ∧ extract stcpMarks (buffered ++ [symbol]) = led carry payload ∧
      line = opening stcpMarks (endsInFooter stcpMarks payload) ++ rest.flatMap (frame stcpMarks) := by
  have cuts : cut stcpMarks [] (buffered ++ symbol :: line) =
      ((buffered ++ [symbol]) :: (cut stcpMarks [] line).1, (cut stcpMarks [] line).2) := by
    rw [cut_through _ single, List.nil_append]
    exact if_pos ended
  cases payloads with
  | nil =>
    have length := congrArg List.length stream
    have some_buffered : buffered ≠ [] := by
      intro none
      rw [none] at ended
      cases ended.1
    have positive := List.length_pos_iff.mpr some_buffered
    cases carry <;> simp [opening] at length
    omega
  | cons payload rest =>
    obtain ⟨body, split⟩ := exists_split stcpMarks payload
    rw [stream, cut_through _ (single_opening carry), List.nil_append, List.flatMap_cons, cut_frame split carry] at cuts
    have message : opening stcpMarks carry ++ body ++ [stcpFooterByte] = buffered ++ [symbol] :=
      (List.cons.inj (Prod.mk.inj cuts).1).1
    refine ⟨payload, rest, rfl, ?_, ?_⟩
    · rw [← message]
      exact split.extracted_opening carry
    · have whole : buffered ++ [symbol] ++ line = buffered ++ [symbol] ++
          (opening stcpMarks (endsInFooter stcpMarks payload) ++ rest.flatMap (frame stcpMarks)) := by
        rw [List.append_assoc, List.singleton_append, stream, List.flatMap_cons, split.whole, ← message]
        simp [stcpMarks]
      exact List.append_cancel_left whole

theorem InTransit.room {buffered : List UInt8} {symbol : UInt8} (single : Single stcpMarks buffered)
    (fits : ∀ payload ∈ payloads, Fits payload)
    (stream : buffered ++ symbol :: line = opening stcpMarks carry ++ payloads.flatMap (frame stcpMarks)) :
    buffered.length ≤ maxPayloadLength := by
  have frames : Within stcpMarks (maxPayloadLength + 1) (opening stcpMarks carry)
      (payloads.flatMap (frame stcpMarks)) :=
    within_frames carry payloads fun payload member => Nat.lt_succ_of_le (length_frame payload ▸ fits payload member)
  have whole : Within stcpMarks (maxPayloadLength + 1) [] (buffered ++ symbol :: line) := by
    rw [stream]
    refine within_through (single_opening carry) ?_ frames
    cases carry <;> decide
  exact Nat.le_of_lt_succ (within_rest single whole).1

/-- What a callback is given of the buffer that the payload was unescaped into. -/
theorem handled_split {callbacks : StcpCallbacks} {buffers buffers' : StcpBuffers} {message payload : List UInt8}
    {size : UInt16} {handled : Handled} {status : StcpStatus}
    (handles : stcpHandleMessage callbacks buffers message size = .ok (buffers', handled, status))
    (same : handled.payload = payload) (short : payload.length < maxPayloadLength) :
    ∃ trailing, handled.buffer = payload ++ trailing ∧ handled.size = UInt16.ofNat payload.length := by
  have whole : handled.buffer.length = maxPayloadLength := by
    simp only [stcpHandleMessage, bind_eq_ok, pure_eq_ok, Except.ok.injEq, Prod.mk.injEq, Prod.exists] at handles
    obtain ⟨_, _, -, -, rfl, -⟩ := handles
    exact Vector.length_toList
  have inside : handled.size.toNat ≤ handled.buffer.length := by
    by_contra outside
    rw [← same, Handled.payload, List.take_of_length_le (Nat.le_of_not_le outside), whole] at short
    exact absurd short (Nat.lt_irrefl _)
  refine ⟨handled.buffer.drop handled.size.toNat, ?_, ?_⟩
  · rw [← same, Handled.payload, List.take_append_drop]
  · rw [← same, Handled.payload, List.length_take_of_le inside, UInt16.ofNat_toNat]

theorem length_led_lt {payload : List UInt8} (carry : Bool) (fits : Fits payload) :
    (led carry payload).length < maxPayloadLength := by
  simp only [Fits, escapedLength] at fits
  cases carry
  · exact Nat.lt_of_lt_of_le (by simp [led]; omega) fits
  · exact Nat.lt_of_lt_of_le (by simp [led]; omega) fits

/-- One byte: it is buffered, or the first payload is handed over. -/
theorem InTransit.byte (fits : ∀ payload, Allowed payload → Fits payload) (callbacks : StcpCallbacks)
    (large : maxPayloadLength + 1 ≤ n) {symbol : UInt8}
    (transit : InTransit Allowed listener (symbol :: line) carry payloads) :
    (∃ listener', listenByte callbacks listener symbol = .ok (listener', none) ∧
      InTransit Allowed listener' line carry payloads) ∨
    ∃ payload rest listener' trailing, payloads = payload :: rest ∧ listenByte callbacks listener symbol =
        .ok (listener', some ⟨led carry payload ++ trailing, UInt16.ofNat (led carry payload).length⟩) ∧
      InTransit Allowed listener' line (endsInFooter stcpMarks payload) rest := by
  obtain ⟨buffered, start, index, single, stream⟩ := transit.buffered
  have room := InTransit.room single (fun payload member => fits payload (transit.allowed payload member)) stream
  obtain ⟨msg, written, byte⟩ := listenByte_eq callbacks symbol start index (by omega)
  by_cases ended : buffered.getLast? = some stcpFooterByte ∧ symbol = stcpFooterByte
  · right
    obtain ⟨payload, rest, rfl, extracted, left⟩ := InTransit.ended single ended stream
    obtain ⟨buffers, handled, status, handles, same⟩ := stcpHandleMessage_spec callbacks listener.buffers written (by
      rw [List.length_append, List.length_singleton]
      omega)
    rw [if_pos ended, handles, ok_bind] at byte
    obtain ⟨trailing, split, size⟩ := handled_split handles (same.trans extracted)
      (length_led_lt carry (fits payload (List.forall_mem_cons.mp transit.allowed).1))
    obtain ⟨buffer, _⟩ := handled
    simp only at split size
    rw [split, size] at byte
    refine ⟨payload, rest, ⟨buffers, msg, 0⟩, trailing, rfl, byte, ?_⟩
    exact ⟨(List.forall_mem_cons.mp transit.allowed).2, [], List.nil_prefix, rfl, .nil, left⟩
  · left
    rw [if_neg ended] at byte
    refine ⟨_, byte, transit.allowed, buffered ++ [symbol], written, rfl, ?_, ?_⟩
    · refine single_append.mpr ⟨single, .singleton _, ?_⟩
      rintro ⟨last, head⟩
      exact ended ⟨last, Option.some.inj head⟩
    · rw [List.append_assoc, List.singleton_append, stream]

end Transit

/-- What `StcpWrite` gives to the line, for one payload after the other. -/
def writeAll (callbacks : StcpCallbacks) (listener : Listener n) (payloads : List (List UInt8)) :
    Except Fault (Listener n × List UInt8) := do
  let (buffers, frames) ← run (writePayload callbacks) listener.buffers payloads
  return ({ listener with buffers }, frames.flatten)

theorem writeAll_spec (callbacks : StcpCallbacks) (listener : Listener n) {payloads : List (List UInt8)}
    (fits : ∀ payload ∈ payloads, Fits payload) :
    ∃ buffers, writeAll callbacks listener payloads =
      .ok ({ listener with buffers }, (payloads.map (frame stcpMarks)).flatten) := by
  obtain ⟨buffers, written⟩ := run_writePayload callbacks listener.buffers fits
  exact ⟨buffers, by simp only [writeAll, written, ok_bind, pure_eq_ok]⟩

theorem run_writePayload_fits {callbacks : StcpCallbacks} {buffers buffers' : StcpBuffers}
    {payloads frames : List (List UInt8)}
    (done : run (writePayload callbacks) buffers payloads = .ok (buffers', frames))
    (short : ∀ payload ∈ payloads, payload.length ≤ 65535) : ∀ payload ∈ payloads, Fits payload := by
  induction payloads generalizing buffers frames with
  | nil => exact List.forall_mem_nil _
  | cons payload rest ih =>
    obtain ⟨next, output, later, one, tail, -⟩ := run_cons_eq_ok.mp done
    obtain ⟨here, others⟩ := List.forall_mem_cons.mp short
    obtain ⟨result, writes, -⟩ := bind_eq_ok.mp one
    have fits := (stcpWrite_ok_iff callbacks buffers here []).mp ⟨result, by rwa [List.append_nil]⟩
    exact List.forall_mem_cons.mpr ⟨fits, ih tail others⟩

end TvcHopper.Stcp
