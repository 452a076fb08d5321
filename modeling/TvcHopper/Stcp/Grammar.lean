import TvcHopper.Machine.Frames
import TvcHopper.Stcp.Codec

/-! What `StcpEscape` can put out, and that `StcpUnEscape` loses nothing of it. -/

set_option autoImplicit false

namespace TvcHopper.Stcp
open Machine Machine.Stuffing

/-- `output` is what `StcpEscape` returns for some payload. -/
def Escaped (buffers : StcpBuffers) (output : List UInt8) : Prop :=
  ∃ (payload : List UInt8) (buffers' : StcpBuffers) (size : UInt16), payload.length < 65536 ∧
    stcpEscape buffers payload (UInt16.ofNat payload.length) = .ok (buffers', size) ∧
    buffers'.writePayloadBuffer.toList.take size.toNat = output

/-- `StcpUnEscape` takes a payload from `message`, and `StcpEscape` makes `message` of it again. -/
def Reencodes (buffers : StcpBuffers) (message : List UInt8) : Prop :=
  ∃ (decoded : StcpBuffers) (size : UInt16) (encoded : StcpBuffers) (size' : UInt16),
    stcpUnEscape buffers message (UInt16.ofNat message.length) = .ok (decoded, size) ∧
    stcpEscape decoded decoded.readPayloadBuffer.toList size = .ok (encoded, size') ∧
    encoded.writePayloadBuffer.toList.take size'.toNat = message

theorem escaped_iff (buffers : StcpBuffers) (output : List UInt8) :
    Escaped buffers output ↔ output.length ≤ maxPayloadLength ∧ WellFramed stcpMarks output := by
  constructor
  · rintro ⟨payload, buffers', size, short, escapes, rfl⟩
    obtain ⟨-, written, -⟩ := stcpEscape_ok escapes
    have room : buffers'.writePayloadBuffer.toList.length = maxPayloadLength := Vector.length_toList
    refine ⟨?_, wellFramed_iff.mpr ⟨_, written.symm⟩⟩
    rw [List.length_take, room]
    exact Nat.min_le_right ..
  · rintro ⟨short, framed⟩
    obtain ⟨payload, rfl⟩ := wellFramed_iff.mp framed
    have small : payload.length < 65536 := by
      have limit : payload.length + payload.countP (stcpMarks.IsMark ·) + 3 ≤ 128 := length_frame payload ▸ short
      omega
    have count : (UInt16.ofNat payload.length).toNat = payload.length := toNat_ofNat16 small
    have taken : payload.take (UInt16.ofNat payload.length).toNat = payload := by
      rw [count, List.take_length]
    obtain ⟨buffers', size, escapes, -, written⟩ := stcpEscape_spec buffers payload
      (UInt16.ofNat payload.length) count.le (by rwa [taken])
    rw [taken] at written
    exact ⟨payload, buffers', size, small, escapes, written⟩

theorem reencodes_of_wellFramed (buffers : StcpBuffers) {message : List UInt8}
    (short : message.length ≤ maxPayloadLength) (framed : WellFramed stcpMarks message) :
    Reencodes buffers message := by
  have count : (UInt16.ofNat message.length).toNat = message.length :=
    toNat_ofNat16 (Nat.lt_of_le_of_lt short (by decide))
  have whole : message.take (UInt16.ofNat message.length).toNat = message := by
    rw [count, List.take_length]
  have smaller := length_extract_lt framed
  obtain ⟨decoded, size, unescapes, length, read⟩ := stcpUnEscape_spec buffers message (UInt16.ofNat message.length)
    count.le (by rw [whole]; omega)
  rw [whole] at length read
  -- the payload is still in the read buffer
  have again := framed.frame_extract
  have inside : size.toNat ≤ decoded.readPayloadBuffer.toList.length := by
    rw [Vector.length_toList, length]
    omega
  obtain ⟨encoded, size', escapes, -, written⟩ := stcpEscape_spec decoded decoded.readPayloadBuffer.toList size inside
    (by rwa [read, again])
  rw [read, again] at written
  exact ⟨decoded, size, encoded, size', unescapes, escapes, written⟩

/-- The outputs of `StcpEscape` are the frames of the grammar that fit into its buffer, and decoding and
encoding such a frame gives it back. -/
theorem frame_grammar (buffers : StcpBuffers) (message : List UInt8) :
    (Escaped buffers message ↔ message.length ≤ maxPayloadLength ∧ WellFramed stcpMarks message) ∧
      (message.length ≤ maxPayloadLength ∧ WellFramed stcpMarks message → Reencodes buffers message) := by
  constructor
  · exact escaped_iff buffers message
  · rintro ⟨short, framed⟩
    exact reencodes_of_wellFramed buffers short framed

end TvcHopper.Stcp
