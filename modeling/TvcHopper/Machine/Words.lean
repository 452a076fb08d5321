import Mathlib.Algebra.Order.Field.Basic
import Mathlib.Data.Rat.Defs
import Mathlib.Data.UInt
import Mathlib.Tactic.FieldSimp
import Mathlib.Tactic.Positivity
import Mathlib.Tactic.Ring
import TvcHopper.Machine.Memory

/-! Words of 32 bits in memory, and the single precision numbers they stand for.

A word is copied as its four bytes, whatever number it stands for. Only where a
program computes with the number is it decoded.
-/

set_option autoImplicit false

namespace TvcHopper.Machine

/-! ## Words and bytes -/

def word (first second third fourth : UInt8) : UInt32 :=
  .ofNat (first.toNat + 256 * second.toNat + 65536 * third.toNat + 16777216 * fourth.toNat)

/-- Memory read as words; fewer than four bytes at the end are left out. -/
def wordsOf : List UInt8 → List UInt32
  | first :: second :: third :: fourth :: rest => word first second third fourth :: wordsOf rest
  | _ => []

def bytesOf (words : List UInt32) : List UInt8 := words.flatMap bytes32

theorem toNat_word (first second third fourth : UInt8) : (word first second third fourth).toNat =
    first.toNat + 256 * second.toNat + 65536 * third.toNat + 16777216 * fourth.toNat := by
  have one := first.toNat_lt
  have two := second.toNat_lt
  have three := third.toNat_lt
  have four := fourth.toNat_lt
  exact UInt32.toNat_ofNat_of_lt' (by simp only [UInt32.size]; omega)

theorem wordsOf_bytes32 (value : UInt32) (rest : List UInt8) :
    wordsOf (bytes32 value ++ rest) = value :: wordsOf rest := by
  have same : word (.ofNat value.toNat) (.ofNat (value.toNat / 256)) (.ofNat (value.toNat / 65536))
      (.ofNat (value.toNat / 16777216)) = value := by
    apply UInt32.toNat_inj.mp
    have bound := value.toNat_lt
    simp only [toNat_word, UInt8.toNat_ofNat']
    omega
  simp only [bytes32, List.cons_append, List.nil_append, wordsOf, same]

@[simp] theorem length_bytesOf (words : List UInt32) : (bytesOf words).length = 4 * words.length := by
  induction words with
  | nil => rfl
  | cons first rest ih =>
    rw [bytesOf, List.flatMap_cons, List.length_append, length_bytes32, List.length_cons]
    rw [bytesOf] at ih
    omega

theorem wordsOf_bytesOf (words : List UInt32) (rest : List UInt8) :
    wordsOf (bytesOf words ++ rest) = words ++ wordsOf rest := by
  induction words with
  | nil => rfl
  | cons first tail ih =>
    rw [bytesOf, List.flatMap_cons, List.append_assoc, wordsOf_bytes32, ← bytesOf, ih]
    rfl

@[simp] theorem wordsOf_bytesOf_all (words : List UInt32) : wordsOf (bytesOf words) = words := by
  have read := wordsOf_bytesOf words []
  rw [List.append_nil] at read
  exact read.trans (List.append_nil words)

theorem length_wordsOf (bytes : List UInt8) : (wordsOf bytes).length = bytes.length / 4 := by
  fun_induction wordsOf bytes with
  | case1 first second third fourth rest ih =>
    simp only [List.length_cons, ih]
    omega
  | case2 bytes short =>
    match bytes with
    | [] | [_] | [_, _] | [_, _, _] => simp
    | first :: second :: third :: fourth :: rest => exact absurd rfl (short first second third fourth rest)

theorem bytes32_word (first second third fourth : UInt8) :
    bytes32 (word first second third fourth) = [first, second, third, fourth] := by
  have one := first.toNat_lt
  have two := second.toNat_lt
  have three := third.toNat_lt
  have four := fourth.toNat_lt
  simp only [bytes32, toNat_word, List.cons.injEq, and_true, ← UInt8.toNat_inj, UInt8.toNat_ofNat']
  omega

theorem bytesOf_wordsOf {bytes : List UInt8} {count : Nat} (whole : bytes.length = 4 * count) :
    bytesOf (wordsOf bytes) = bytes := by
  induction count generalizing bytes with
  | zero =>
    rw [List.length_eq_zero_iff.mp whole]
    rfl
  | succ count ih =>
    match bytes with
    | [] | [_] | [_, _] | [_, _, _] =>
      simp only [List.length_cons, List.length_nil] at whole
      omega
    | first :: second :: third :: fourth :: rest =>
      have shorter : rest.length = 4 * count := by
        simp only [List.length_cons] at whole
        omega
      rw [wordsOf, bytesOf, List.flatMap_cons, ← bytesOf, ih shorter, bytes32_word]
      rfl

theorem bytes32_mod (value : UInt32) : bytes32 (value % 0x1000000) = (bytes32 value).take 3 ++ [0] := by
  have rest : (value % 0x1000000).toNat = value.toNat % 16777216 := UInt32.toNat_mod value 0x1000000
  simp only [bytes32, rest, List.take_succ_cons, List.take_zero, List.cons_append, List.nil_append, List.cons.injEq,
    and_true, ← UInt8.toNat_inj, UInt8.toNat_ofNat']
  simp
  omega

theorem mod_highest_eq_iff (value : UInt32) : value % 0x1000000 = value ↔ value < 0x1000000 := by
  rw [← UInt32.toNat_inj, UInt32.toNat_mod, UInt32.lt_iff_toNat_lt]
  exact Nat.mod_eq_iff_lt (by decide)

theorem bytesOf_append (front rest : List UInt32) : bytesOf (front ++ rest) = bytesOf front ++ bytesOf rest :=
  List.flatMap_append

theorem storeRange_highest (front rest : List UInt32) (value : UInt32) (memory : List UInt8) :
    storeRange (bytesOf (front ++ value :: rest) ++ memory) (4 * front.length + 3) [0] =
      .ok (bytesOf (front ++ value % 0x1000000 :: rest) ++ memory) := by
  have split (word : UInt32) (highest : UInt8) (same : bytes32 word = (bytes32 value).take 3 ++ [highest]) :
      bytesOf (front ++ word :: rest) ++ memory =
        (bytesOf front ++ (bytes32 value).take 3) ++ highest :: (bytesOf rest ++ memory) := by
    rw [bytesOf_append, bytesOf, bytesOf, List.flatMap_cons, same]
    simp [bytesOf]
  have before := split value (.ofNat (value.toNat / 16777216)) rfl
  have behind := split (value % 0x1000000) 0 (bytes32_mod value)
  have here : (bytesOf front ++ (bytes32 value).take 3).length = 4 * front.length + 3 := by
    rw [List.length_append, length_bytesOf]
    rfl
  rw [before, behind, storeRange, overwrite_append here.symm (by simp), if_pos]
  · simp
  · rw [List.length_append, here]
    simp only [List.length_cons, List.length_nil]
    omega

/-! ## Single precision -/

/-- The number of a word: `none` for an infinity and for what is not a number. -/
def singleValue (bits : UInt32) : Option ℚ :=
  let sign : ℚ := if bits.toNat / 2 ^ 31 = 0 then 1 else -1
  let exponent : Nat := bits.toNat / 2 ^ 23 % 256
  let fraction : Nat := bits.toNat % 2 ^ 23
  if exponent = 255 then none
  else if exponent = 0 then some (sign * fraction / 2 ^ 149)
  else some (sign * (2 ^ 23 + fraction : Nat) * 2 ^ exponent / 2 ^ 150)

/-- The word of a natural number that single precision holds exactly. -/
def singleOfNat (number : Nat) : UInt32 :=
  if number = 0 then 0 else .ofNat ((126 + number.log2) * 2 ^ 23 + number * 2 ^ (23 - number.log2))

/-- The word of an integer that single precision holds exactly. -/
def singleOfInt (number : Int) : UInt32 :=
  if number < 0 then 2 ^ 31 + singleOfNat number.natAbs else singleOfNat number.natAbs

theorem normalized_bounds {number : Nat} (positive : number ≠ 0) (place : number.log2 ≤ 23) :
    2 ^ 23 ≤ number * 2 ^ (23 - number.log2) ∧ number * 2 ^ (23 - number.log2) < 2 ^ 24 := by
  have low : 2 ^ number.log2 ≤ number := Nat.log2_self_le positive
  have high : number < 2 ^ (number.log2 + 1) := Nat.lt_log2_self
  have whole : 2 ^ number.log2 * 2 ^ (23 - number.log2) = 2 ^ 23 := by
    rw [← Nat.pow_add]
    congr 1
    omega
  constructor
  · rw [← whole]
    exact Nat.mul_le_mul_right _ low
  · calc number * 2 ^ (23 - number.log2) < 2 ^ (number.log2 + 1) * 2 ^ (23 - number.log2) :=
          Nat.mul_lt_mul_of_pos_right high (Nat.two_pow_pos _)
      _ = 2 ^ 24 := by rw [Nat.pow_succ 2 number.log2, Nat.mul_right_comm, whole]; rfl

theorem singleValue_ofNat {number : Nat} (exact : number < 2 ^ 24) :
    singleValue (singleOfNat number) = some (number : ℚ) := by
  by_cases zero : number = 0
  · subst zero
    simp [singleOfNat, singleValue]
  have place : number.log2 ≤ 23 := by
    have below : number.log2 < 24 := (Nat.log2_lt zero).mpr exact
    omega
  obtain ⟨low, high⟩ := normalized_bounds zero place
  have moved : number * 2 ^ (23 - number.log2) * 2 ^ (127 + number.log2) = number * 2 ^ 150 := by
    rw [Nat.mul_assoc, ← Nat.pow_add]
    congr 2
    omega
  rw [singleOfNat, if_neg zero]
  generalize number * 2 ^ (23 - number.log2) = significand at low high moved
  generalize number.log2 = exponent at place moved
  have bits : (UInt32.ofNat ((126 + exponent) * 2 ^ 23 + significand)).toNat =
      (126 + exponent) * 2 ^ 23 + significand :=
    UInt32.toNat_ofNat_of_lt' (by simp only [UInt32.size]; omega)
  have sign : ((126 + exponent) * 2 ^ 23 + significand) / 2 ^ 31 = 0 := by omega
  have field : ((126 + exponent) * 2 ^ 23 + significand) / 2 ^ 23 % 256 = 127 + exponent := by omega
  have hidden : 2 ^ 23 + ((126 + exponent) * 2 ^ 23 + significand) % 2 ^ 23 = significand := by omega
  have finite : 127 + exponent ≠ 255 := by omega
  have normal : 127 + exponent ≠ 0 := by omega
  simp only [singleValue, bits, sign, field, hidden, if_neg finite, if_neg normal, if_true, one_mul]
  rw [Option.some_inj, div_eq_iff (by positivity)]
  exact_mod_cast moved

end TvcHopper.Machine
