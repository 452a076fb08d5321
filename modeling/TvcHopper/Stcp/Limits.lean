import TvcHopper.Stcp.Codec

/-! What the encoder and the decoder do with inputs of any length and content.

Neither loop compares its output index with the size of its static buffer. A
payload or a frame that does not fit is written past the end, which is a fault
here; the conditions for it are on the bytes, for every byte may count twice.
-/

set_option autoImplicit false

namespace TvcHopper.Stcp
open Machine Machine.Stuffing

variable {n : Nat}

/-! ## Malformed input -/

/-- `StcpUnEscape` with an output buffer of any size. -/
def stcpUnEscapeInto (output : Vector UInt8 n) (buffer : List UInt8) (size : UInt16) :
    Except Fault (Vector UInt8 n × UInt16) := do
  let (output, outputIdx) ← stcpUnEscapeLoop buffer size.toNat (size.toNat + 1) 1 output 0
  return (output, UInt16.ofNat outputIdx)

theorem stcpUnEscape_eq (buffers : StcpBuffers) (buffer : List UInt8) (size : UInt16) :
    stcpUnEscape buffers buffer size =
      (stcpUnEscapeInto buffers.readPayloadBuffer buffer size).map fun (output, size) =>
        ({ buffers with readPayloadBuffer := output }, size) := by
  rw [stcpUnEscape, stcpUnEscapeInto]
  cases stcpUnEscapeLoop buffer size.toNat (size.toNat + 1) 1 buffers.readPayloadBuffer 0 <;> rfl

theorem stcpUnEscapeLoop_append {buffer : List UInt8} {size fuel i outputIdx : Nat} {output : Vector UInt8 n}
    {result : Vector UInt8 n × Nat} (done : stcpUnEscapeLoop buffer size fuel i output outputIdx = .ok result)
    (rest : List UInt8) : stcpUnEscapeLoop (buffer ++ rest) size fuel i output outputIdx = .ok result := by
  induction fuel generalizing i output outputIdx with
  | zero => cases done
  | succ fuel ih =>
    by_cases more : i + 2 < size
    · rw [stcpUnEscapeLoop, if_pos more] at done ⊢
      obtain ⟨symbol, here, done⟩ := bind_eq_ok.mp done
      rw [load_append here rest, ok_bind]
      by_cases escape : symbol = stcpEscapeByte
      · rw [if_pos escape] at done ⊢
        obtain ⟨escaped, behind, done⟩ := bind_eq_ok.mp done
        obtain ⟨next, stored, done⟩ := bind_eq_ok.mp done
        rw [load_append behind rest, ok_bind, stored, ok_bind]
        exact ih done
      · rw [if_neg escape] at done ⊢
        obtain ⟨next, stored, done⟩ := bind_eq_ok.mp done
        rw [stored, ok_bind]
        exact ih done
    · rw [stcpUnEscapeLoop, if_neg more] at done ⊢
      exact done

/-- What `StcpUnEscape` would write for a message: one byte for every escape sequence and every other byte inside. -/
def unescapedLength (message : List UInt8) : Nat := units stcpMarks (stuffedPart message)

theorem stcpUnEscapeInto_spec (output : Vector UInt8 n) {bytes : List UInt8} {size : UInt16}
    (length : bytes.length = size.toNat) (room : unescapedLength bytes ≤ n) :
    ∃ output' size', (∀ rest, stcpUnEscapeInto output (bytes ++ rest) size = .ok (output', size')) ∧
      size'.toNat = unescapedLength bytes ∧ output'.toList.take size'.toNat = extract stcpMarks bytes := by
  have whole : bytes.take size.toNat = bytes := List.take_of_length_le (Nat.le_of_eq length)
  have count : (extract stcpMarks bytes).length = unescapedLength bytes := length_extract bytes
  have fits : unescapedLength bytes < 65536 := by
    have most := units_le stcpMarks (stuffedPart bytes)
    have width := size.toNat_lt
    rw [length_stuffedPart] at most
    rw [unescapedLength]
    omega
  obtain ⟨output', loop, done⟩ := stcpUnEscapeLoop_spec bytes size.toNat (size.toNat + 1) 1
    (List.nil_prefix (l := output.toList)) (Nat.le_of_eq length.symm) (by omega) (by omega)
    (by rw [whole, List.nil_append]; exact count.trans_le room)
  rw [whole, List.nil_append] at loop done
  refine ⟨output', UInt16.ofNat (unescapedLength bytes), ?_, toNat_ofNat16 fits, ?_⟩
  · intro rest
    have longer := stcpUnEscapeLoop_append loop rest
    rw [List.length_nil] at longer
    rw [stcpUnEscapeInto, longer, ← count]
    rfl
  · rw [toNat_ofNat16 fits, ← count]
    exact (List.prefix_iff_eq_take.mp done).symm

/-- Any input is read inside, and what comes out was between the first and the last two bytes, in this order, but for
the byte that a dangling escape takes from the last two. -/
theorem stcpUnEscape_malformed (output : Vector UInt8 n) {size : UInt16} (large : size.toNat ≤ n + 3)
    {bytes : List UInt8} (length : bytes.length = size.toNat) :
    ∃ output' size', (∀ rest, stcpUnEscapeInto output (bytes ++ rest) size = .ok (output', size')) ∧
      size'.toNat ≤ size.toNat - 3 ∧
      ∃ front, front.Sublist (stuffedPart bytes) ∧ output'.toList.take size'.toNat =
        front ++ if dangling stcpMarks (stuffedPart bytes) then bytes[size.toNat - 2]?.toList else [] := by
  have most : unescapedLength bytes ≤ size.toNat - 3 := by
    rw [← length, ← length_stuffedPart]
    exact units_le stcpMarks (stuffedPart bytes)
  obtain ⟨output', size', done, count, decoded⟩ := stcpUnEscapeInto_spec output length (by omega)
  refine ⟨output', size', done, count.trans_le most, ?_⟩
  rw [decoded]
  by_cases long : 3 ≤ bytes.length
  · obtain ⟨last, same⟩ := drop_one_eq_stuffedPart long
    obtain ⟨front, sublist, out⟩ := unstuff_dangling stcpMarks (stuffedPart bytes) bytes[bytes.length - 2] last
    refine ⟨front, sublist, ?_⟩
    rw [extract, same, out, ← length, List.getElem?_eq_getElem (by omega)]
    rfl
  · have nothing : stuffedPart bytes = [] := List.eq_nil_of_length_eq_zero (by rw [length_stuffedPart]; omega)
    refine ⟨[], List.nil_sublist _, ?_⟩
    rw [extract, unstuff_short (by rw [List.length_drop]; omega), nothing]
    rfl

/-- A frame of one escaped footer that was cut a byte early. -/
theorem stcpUnEscape_malformed_footer :
    ∃ output' size', (∀ rest, stcpUnEscapeInto (.replicate 1 0 : Vector UInt8 1) ([0x7A, 0x7B, 0x7F, 0x7F] ++ rest) 4 =
        .ok (output', size')) ∧ size'.toNat ≤ 1 ∧
      ∃ front, front.Sublist [0x7B] ∧ output'.toList.take size'.toNat = front ++ [0x7F] := by
  have length : [0x7A, 0x7B, 0x7F, 0x7F].length = (4 : UInt16).toNat := rfl
  exact stcpUnEscape_malformed (.replicate 1 0) (by decide) length

/-- The byte that comes out of this frame is no byte between the first and the last two. -/
theorem dangling_escape_takes_footer :
    stcpUnEscapeInto (.replicate 1 0 : Vector UInt8 1) [0x7A, 0x7B, 0x7F, 0x7F] 4 = .ok (.replicate 1 0x7F, 1) ∧
      ¬((Vector.replicate 1 0x7F).toList.take 1).Sublist (stuffedPart [0x7A, 0x7B, 0x7F, 0x7F]) := by
  decide

/-! ## The static buffers -/

theorem stcpEscape_ok_iff (buffers : StcpBuffers) {payload : List UInt8} (short : payload.length ≤ 65535)
    (rest : List UInt8) :
    (∃ result, stcpEscape buffers (payload ++ rest) (UInt16.ofNat payload.length) = .ok result) ↔
      escapedLength payload ≤ maxPayloadLength := by
  have count : (UInt16.ofNat payload.length).toNat = payload.length := toNat_ofNat16 (Nat.lt_succ_of_le short)
  have taken : (payload ++ rest).take (UInt16.ofNat payload.length).toNat = payload := by rw [count, List.take_left]
  have framed : (frame stcpMarks payload).length = escapedLength payload := length_frame payload
  constructor
  · rintro ⟨⟨buffers', size'⟩, escapes⟩
    -- the whole frame is in the buffer
    obtain ⟨-, written, -⟩ := stcpEscape_ok escapes
    rw [taken] at written
    rw [← framed, ← written, List.length_take, Vector.length_toList]
    exact Nat.min_le_right _ _
  · intro fits
    have inside : (UInt16.ofNat payload.length).toNat ≤ (payload ++ rest).length := by
      rw [count, List.length_append]
      exact Nat.le_add_right _ _
    obtain ⟨buffers', size', escapes, -⟩ := stcpEscape_spec buffers (payload ++ rest) (UInt16.ofNat payload.length)
      inside (by rw [taken, framed]; exact fits)
    exact ⟨_, escapes⟩

theorem stcpUnEscapeLoop_ok {buffer : List UInt8} {size fuel i outputIdx outputIdx' : Nat}
    {output output' : Vector UInt8 n} (inside : size ≤ buffer.length)
    (done : stcpUnEscapeLoop buffer size fuel i output outputIdx = .ok (output', outputIdx')) (room : outputIdx ≤ n) :
    outputIdx + (unstuff stcpMarks ((buffer.take size).drop i)).length ≤ n := by
  induction fuel generalizing i output outputIdx with
  | zero => cases done
  | succ fuel ih =>
    by_cases more : i + 2 < size
    · have here := load_of_lt buffer i (by omega)
      rw [stcpUnEscapeLoop, if_pos more, here, ok_bind] at done
      by_cases escape : buffer[i] = stcpEscapeByte
      · rw [if_pos escape] at done
        obtain ⟨escaped, behind, done⟩ := bind_eq_ok.mp done
        obtain ⟨next, stored, done⟩ := bind_eq_ok.mp done
        have after := ih done (storeCell_eq_ok.mp stored).1
        rw [unstuff_rest_escape inside more (escape ▸ here) behind, List.length_cons]
        omega
      · rw [if_neg escape] at done
        obtain ⟨next, stored, done⟩ := bind_eq_ok.mp done
        have after := ih done (storeCell_eq_ok.mp stored).1
        rw [unstuff_rest_plain inside more here escape, List.length_cons]
        omega
    · rw [unstuff_rest_done more]
      exact room

theorem stcpUnEscape_ok_iff (buffers : StcpBuffers) {message : List UInt8} (short : message.length ≤ 65535)
    (rest : List UInt8) :
    (∃ result, stcpUnEscape buffers (message ++ rest) (UInt16.ofNat message.length) = .ok result) ↔
      unescapedLength message ≤ maxPayloadLength := by
  have count : (UInt16.ofNat message.length).toNat = message.length := toNat_ofNat16 (Nat.lt_succ_of_le short)
  constructor
  · rintro ⟨result, unescapes⟩
    obtain ⟨⟨output, outputIdx⟩, loop, -⟩ := bind_eq_ok.mp unescapes
    have written := stcpUnEscapeLoop_ok (by rw [count, List.length_append]; omega) loop (Nat.zero_le _)
    rw [count, List.take_left, Nat.zero_add] at written
    exact (length_extract message).symm.trans_le written
  · intro fits
    obtain ⟨output, size', done, -⟩ := stcpUnEscapeInto_spec buffers.readPayloadBuffer count.symm fits
    exact ⟨_, by rw [stcpUnEscape_eq, done rest, Except.map]⟩

theorem stcpWrite_ok_iff (callbacks : StcpCallbacks) (buffers : StcpBuffers) {payload : List UInt8}
    (short : payload.length ≤ 65535) (rest : List UInt8) :
    (∃ result, stcpWrite callbacks buffers (payload ++ rest) (UInt16.ofNat payload.length) = .ok result) ↔
      escapedLength payload ≤ maxPayloadLength := by
  rw [← stcpEscape_ok_iff buffers short rest]
  constructor
  · rintro ⟨result, writes⟩
    obtain ⟨escaped, escapes, -⟩ := bind_eq_ok.mp writes
    exact ⟨escaped, escapes⟩
  · rintro ⟨escaped, escapes⟩
    exact ⟨_, bind_eq_ok.mpr ⟨escaped, escapes, rfl⟩⟩

theorem stcpHandleMessage_ok_iff (callbacks : StcpCallbacks) (buffers : StcpBuffers) {message : List UInt8}
    (short : message.length ≤ 65535) (rest : List UInt8) :
    (∃ result, stcpHandleMessage callbacks buffers (message ++ rest) (UInt16.ofNat message.length) = .ok result) ↔
      unescapedLength message ≤ maxPayloadLength := by
  rw [← stcpUnEscape_ok_iff buffers short rest]
  constructor
  · rintro ⟨result, handles⟩
    obtain ⟨unescaped, unescapes, -⟩ := bind_eq_ok.mp handles
    exact ⟨unescaped, unescapes⟩
  · rintro ⟨unescaped, unescapes⟩
    exact ⟨_, bind_eq_ok.mpr ⟨unescaped, unescapes, rfl⟩⟩

/-- Both buffers are kept exactly for what fits: `StcpWrite` needs three bytes more than the payload has and one for
each special byte, `StcpHandleMessage` a byte for each escape sequence and each other byte inside. -/
theorem stcp_in_bounds_iff (callbacks : StcpCallbacks) (buffers : StcpBuffers) {payload message : List UInt8}
    (payload_short : payload.length ≤ 65535) (message_short : message.length ≤ 65535) (rest : List UInt8) :
    ((∃ result, stcpWrite callbacks buffers (payload ++ rest) (UInt16.ofNat payload.length) = .ok result) ↔
        escapedLength payload ≤ maxPayloadLength) ∧
      ((∃ result, stcpHandleMessage callbacks buffers (message ++ rest) (UInt16.ofNat message.length) = .ok result) ↔
        unescapedLength message ≤ maxPayloadLength) :=
  ⟨stcpWrite_ok_iff callbacks buffers payload_short rest, stcpHandleMessage_ok_iff callbacks buffers message_short rest⟩

/-- One special byte is written as two and read as one. -/
theorem stcp_in_bounds_footer :
    ((∃ result, stcpWrite ⟨fun _ => 0, fun _ _ => 0⟩ ⟨.replicate 128 0, .replicate 128 0⟩ ([0x7F] ++ []) 1 =
        .ok result) ↔ escapedLength [0x7F] ≤ maxPayloadLength) ∧
      ((∃ result, stcpHandleMessage ⟨fun _ => 0, fun _ _ => 0⟩ ⟨.replicate 128 0, .replicate 128 0⟩
        ([0x7A, 0x7B, 0x7F, 0x7F, 0x7F] ++ []) 5 = .ok result) ↔
        unescapedLength [0x7A, 0x7B, 0x7F, 0x7F, 0x7F] ≤ maxPayloadLength) :=
  stcp_in_bounds_iff ⟨fun _ => 0, fun _ _ => 0⟩ ⟨.replicate 128 0, .replicate 128 0⟩ (by decide) (by decide) []

/-- A payload of 126 plain bytes is one too many for its frame, and a message with 129 of them to read. -/
theorem stcp_out_of_bounds :
    (¬∃ result, stcpWrite ⟨fun _ => 0, fun _ _ => 0⟩ ⟨.replicate 128 0, .replicate 128 0⟩
        (List.replicate 126 0 ++ []) (UInt16.ofNat (List.replicate 126 (0 : UInt8)).length) = .ok result) ∧
      ¬∃ result, stcpHandleMessage ⟨fun _ => 0, fun _ _ => 0⟩ ⟨.replicate 128 0, .replicate 128 0⟩
        ((List.replicate 130 0 ++ [0x7F, 0x7F]) ++ [])
        (UInt16.ofNat (List.replicate 130 (0 : UInt8) ++ [0x7F, 0x7F]).length) = .ok result := by
  have first : (List.replicate 126 (0 : UInt8)).length = 126 := List.length_replicate
  have second : (List.replicate 130 (0 : UInt8) ++ [0x7F, 0x7F]).length = 132 := by
    rw [List.length_append, List.length_replicate]
    rfl
  rw [stcpWrite_ok_iff _ _ (by omega) [], stcpHandleMessage_ok_iff _ _ (by omega) []]
  constructor
  · rw [escapedLength, first, maxPayloadLength]
    omega
  · have plain : stcpMarks.escape ∉ stuffedPart (List.replicate 130 (0 : UInt8) ++ [0x7F, 0x7F]) := by
      intro member
      rcases List.mem_append.mp (List.mem_of_mem_drop (List.mem_of_mem_take member)) with zero | footer
      · cases List.eq_of_mem_replicate zero
      · exact absurd footer (by decide)
    rw [unescapedLength, units_plain plain, length_stuffedPart, second]
    decide

end TvcHopper.Stcp
