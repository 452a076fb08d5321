import TvcHopper.Machine.BitPolynomials
import TvcHopper.Machine.Memory

/-! `StcpCrc32` is the reflected CRC-32.

The register of the code is the polynomial of what was read so far, divided by
the generator: a pass of the inner loop is a step of the shift register, and
the exclusive or with a byte adds its eight bits in front of the division.
-/

set_option autoImplicit false

namespace TvcHopper.Stcp
open Machine Machine.BitPolynomials Polynomial

/-- The inner loop, with the passes that are left. -/
def stcpCrc32Bits : Nat → UInt32 → UInt32
  | 0, crc => crc
  | remaining + 1, crc =>
    let mask := -(crc &&& 1)
    stcpCrc32Bits remaining ((crc >>> 1) ^^^ (0xEDB88320 &&& mask))

def stcpCrc32Loop (buffer : List UInt8) : Nat → Nat → UInt32 → Except Fault UInt32
  | 0, _, crc => .ok crc
  | remaining + 1, i, crc => do
    let symbol ← load buffer i
    let crc := crc ^^^ symbol.toUInt32
    stcpCrc32Loop buffer remaining (i + 1) (stcpCrc32Bits 8 crc)

def stcpCrc32 (buffer : List UInt8) (size : UInt16) : Except Fault UInt32 := do
  let crc ← stcpCrc32Loop buffer size.toNat 0 0xFFFFFFFF
  return ~~~crc

/-! ## The checksum by division -/

noncomputable def crcGenerator : (ZMod 2)[X] :=
  X ^ 32 + X ^ 26 + X ^ 23 + X ^ 22 + X ^ 16 + X ^ 12 + X ^ 11 + X ^ 10 + X ^ 8 + X ^ 7 + X ^ 5 + X ^ 4 + X ^ 2 + X + 1

/-- The bits of a buffer, of each byte the lowest first. -/
def messageBits (buffer : List UInt8) : List Bool := buffer.flatMap fun symbol => registerBits symbol.toBitVec

noncomputable def crcRemainder (buffer : List UInt8) : (ZMod 2)[X] :=
  (ofBits (messageBits buffer) * X ^ 32 + (∑ i ∈ Finset.range 32, X ^ i) * X ^ (messageBits buffer).length) %ₘ
    crcGenerator

noncomputable def crc32 (buffer : List UInt8) : UInt32 := ⟨~~~toRegister 32 (crcRemainder buffer)⟩

def crcTaps : BitVec 32 := 0xEDB88320#32

theorem generator_crcTaps : generator crcTaps = crcGenerator := by
  have bits : registerBits crcTaps = [false, false, false, false, false, true, false, false, true, true, false, false,
      false, false, false, true, false, false, false, true, true, true, false, true, true, false, true, true, false,
      true, true, true] := by
    decide
  rw [generator, ofRegister, bits, crcGenerator]
  simp [ofBits]
  ring

theorem ofRegister_start : ofRegister (0xFFFFFFFF : UInt32).toBitVec = ∑ i ∈ Finset.range 32, X ^ i := by
  have bits : registerBits (0xFFFFFFFF : UInt32).toBitVec = List.replicate 32 true := by decide
  rw [ofRegister, bits, ofBits_replicate_true]

theorem and_mask (crc : UInt32) :
    (0xEDB88320 &&& -(crc &&& 1)).toBitVec = if crc.toBitVec.getLsbD 0 then crcTaps else 0#32 := by
  have low : (crc &&& 1).toBitVec = (BitVec.ofBool (crc.toBitVec.getLsbD 0)).setWidth 32 := by
    rw [UInt32.toBitVec_and]
    exact BitVec.and_one_eq_setWidth_ofBool_getLsbD
  rw [UInt32.toBitVec_and, UInt32.toBitVec_neg, low]
  cases crc.toBitVec.getLsbD 0 <;> rfl

theorem toBitVec_pass (crc : UInt32) :
    ((crc >>> 1) ^^^ (0xEDB88320 &&& -(crc &&& 1))).toBitVec = clock crcTaps crc.toBitVec := by
  rw [UInt32.toBitVec_xor, and_mask, clock]
  cases crc.toBitVec.getLsbD 0 with
  | true => rfl
  | false => exact BitVec.xor_zero

theorem toBitVec_stcpCrc32Bits (count : Nat) (crc : UInt32) :
    (stcpCrc32Bits count crc).toBitVec = (clock crcTaps)^[count] crc.toBitVec := by
  induction count generalizing crc with
  | zero => rfl
  | succ count ih => rw [stcpCrc32Bits, ih, toBitVec_pass, Function.iterate_succ_apply]

theorem length_messageBits (buffer : List UInt8) : (messageBits buffer).length = 8 * buffer.length := by
  induction buffer with
  | nil => rfl
  | cons symbol buffer ih =>
    rw [messageBits, List.flatMap_cons, List.length_append, length_registerBits, ← messageBits, ih, List.length_cons]
    omega

/-- The bytes that are read are the next bits to be divided. -/
theorem stcpCrc32Loop_spec (front bytes rest : List UInt8) (crc : UInt32) :
    ∃ crc', stcpCrc32Loop (front ++ (bytes ++ rest)) bytes.length front.length crc = .ok crc' ∧
      generator crcTaps ∣ ofRegister crc'.toBitVec -
        (ofBits (messageBits bytes) * X ^ 32 + ofRegister crc.toBitVec * X ^ (messageBits bytes).length) := by
  induction bytes generalizing front crc with
  | nil => exact ⟨crc, rfl, by simp [messageBits, ofBits]⟩
  | cons symbol bytes ih =>
    obtain ⟨crc', loop, congruent⟩ := ih (front ++ [symbol]) (stcpCrc32Bits 8 (crc ^^^ symbol.toUInt32))
    refine ⟨crc', ?_, ?_⟩
    · have here : load (front ++ (symbol :: bytes ++ rest)) front.length = .ok symbol := by simp [load_eq_ok]
      have split : front ++ [symbol] ++ (bytes ++ rest) = front ++ (symbol :: bytes ++ rest) := by simp
      rw [split, List.length_append, List.length_singleton] at loop
      rw [List.length_cons, stcpCrc32Loop, here, ok_bind]
      exact loop
    · have step := ofRegister_clocks crcTaps (crc ^^^ symbol.toUInt32).toBitVec 8
      have added : ofRegister (crc ^^^ symbol.toUInt32).toBitVec =
          ofRegister crc.toBitVec + ofRegister symbol.toBitVec * X ^ 24 := by
        rw [UInt32.toBitVec_xor, ofRegister_xor, UInt8.toBitVec_toUInt32, ofRegister_setWidth _ (by decide)]
      rw [← toBitVec_stcpCrc32Bits, added] at step
      have bits : messageBits (symbol :: bytes) = registerBits symbol.toBitVec ++ messageBits bytes := rfl
      have word : ofBits (registerBits symbol.toBitVec) = ofRegister symbol.toBitVec := rfl
      rw [bits, ofBits_append, List.length_append, length_registerBits, pow_add, word]
      convert congruent.add (step.mul_right (X ^ (messageBits bytes).length)) using 1
      ring

theorem stcpCrc32_ok {bytes : List UInt8} (short : bytes.length ≤ 65535) (rest : List UInt8) :
    ∃ crc, stcpCrc32 (bytes ++ rest) (UInt16.ofNat bytes.length) = .ok (~~~crc) ∧
      generator crcTaps ∣ ofRegister crc.toBitVec - (ofBits (messageBits bytes) * X ^ 32 +
        (∑ i ∈ Finset.range 32, X ^ i) * X ^ (messageBits bytes).length) := by
  have count : (UInt16.ofNat bytes.length).toNat = bytes.length := toNat_ofNat16 (Nat.lt_succ_of_le short)
  obtain ⟨crc, loop, congruent⟩ := stcpCrc32Loop_spec [] bytes rest 0xFFFFFFFF
  rw [ofRegister_start] at congruent
  rw [List.nil_append, List.length_nil] at loop
  refine ⟨crc, ?_, congruent⟩
  rw [stcpCrc32, count, loop]
  rfl

/-- The result is the complement of the remainder, its highest coefficient in the lowest bit. -/
theorem stcpCrc32_eq_crc32 {bytes : List UInt8} (short : bytes.length ≤ 65535) (rest : List UInt8) :
    stcpCrc32 (bytes ++ rest) (UInt16.ofNat bytes.length) = .ok (crc32 bytes) := by
  obtain ⟨crc, read, congruent⟩ := stcpCrc32_ok short rest
  have remainder : crcRemainder bytes = ofRegister crc.toBitVec := by
    rw [crcRemainder, ← generator_crcTaps]
    exact modByMonic_generator congruent
  have value : crc32 bytes = ~~~crc := by
    rw [crc32, remainder, toRegister_ofRegister]
    rfl
  rw [read, value]

/-- The bytes of `hello`. -/
theorem stcpCrc32_eq_crc32_hello :
    stcpCrc32 ([0x68, 0x65, 0x6C, 0x6C, 0x6F] ++ []) 5 = .ok (crc32 [0x68, 0x65, 0x6C, 0x6C, 0x6F]) :=
  stcpCrc32_eq_crc32 (by decide) []

example : stcpCrc32 [0x68, 0x65, 0x6C, 0x6C, 0x6F] 5 = .ok 907060870 := by decide +kernel

example : stcpCrc32 [0xFA, 0xFA] 2 = .ok 4074897610 := by decide

theorem messageBits_inj {first second : List UInt8} (length : first.length = second.length)
    (same : messageBits first = messageBits second) : first = second := by
  induction first generalizing second with
  | nil => exact (List.length_eq_zero_iff.mp length.symm).symm
  | cons symbol first ih =>
    cases second with
    | nil => cases length
    | cons other second =>
      obtain ⟨here, rest⟩ := List.append_inj same (by simp)
      rw [UInt8.toBitVec_inj.mp (registerBits_inj here), ih (Nat.succ.inj length) rest]

/-- Two buffers of one length that differ in a burst of at most 32 bits have different checksums. -/
theorem stcpCrc32_burst {first second : List UInt8} (short : first.length ≤ 65535)
    (length : first.length = second.length) (different : first ≠ second) {start : Nat}
    (burst : DifferWithin 32 start (messageBits first) (messageBits second)) (rest rest' : List UInt8) :
    ∃ crc crc', stcpCrc32 (first ++ rest) (UInt16.ofNat first.length) = .ok crc ∧
      stcpCrc32 (second ++ rest') (UInt16.ofNat second.length) = .ok crc' ∧ crc ≠ crc' := by
  obtain ⟨crc, read, congruent⟩ := stcpCrc32_ok short rest
  obtain ⟨crc', read', congruent'⟩ := stcpCrc32_ok (length ▸ short) rest'
  refine ⟨~~~crc, ~~~crc', read, read', ?_⟩
  intro same
  obtain rfl := UInt32.not_inj.mp same
  have bits : (messageBits first).length = (messageBits second).length := by
    rw [length_messageBits, length_messageBits, length]
  have constant : crcTaps.getLsbD (32 - 1) = true := by decide
  have divides : generator crcTaps ∣ (ofBits (messageBits first) - ofBits (messageBits second)) * X ^ 32 := by
    rw [bits] at congruent
    convert congruent'.sub congruent using 1
    ring
  exact different (messageBits_inj length (eq_of_burst constant bits burst divides))

/-- Two neighbouring bits, the last of one byte and the first of the next. -/
theorem stcpCrc32_burst_two_bits :
    ∃ crc crc', stcpCrc32 ([0x80, 0x01] ++ []) 2 = .ok crc ∧ stcpCrc32 ([0x00, 0x00] ++ []) 2 = .ok crc' ∧
      crc ≠ crc' := by
  have different : ([0x80, 0x01] : List UInt8) ≠ [0x00, 0x00] := by decide
  have burst : DifferWithin 32 0 (messageBits [0x80, 0x01]) (messageBits [0x00, 0x00]) := by
    intro i differs
    by_contra outside
    apply differs
    rw [List.getElem?_eq_none (by rw [length_messageBits, List.length_cons]; simp; omega),
      List.getElem?_eq_none (by rw [length_messageBits, List.length_cons]; simp; omega)]
  have short : ([0x80, 0x01] : List UInt8).length ≤ 65535 := by decide
  have length : ([0x80, 0x01] : List UInt8).length = ([0x00, 0x00] : List UInt8).length := rfl
  exact stcpCrc32_burst short length different burst [] []

end TvcHopper.Stcp
