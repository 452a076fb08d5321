import Mathlib.Algebra.Polynomial.Div
import Mathlib.Algebra.Polynomial.FieldDivision
import Mathlib.Algebra.CharP.Two
import Mathlib.Algebra.CharP.Lemmas
import Mathlib.Algebra.Field.ZMod
import Mathlib.Tactic.LinearCombination

/-! Words of bits as polynomials over the field of two elements, and the shift
register that divides by one of them.

The first bit of a word is its highest coefficient. A register is a word from its
lowest bit on, so shifting it right multiplies the polynomial by `X`, and the bit
that falls out is the coefficient that the generator has to cancel.
-/

set_option autoImplicit false

namespace TvcHopper.Machine.BitPolynomials

open Polynomial

/-! ## Words -/

def coefficient (bit : Bool) : ZMod 2 := if bit then 1 else 0

noncomputable def ofBits : List Bool → (ZMod 2)[X]
  | [] => 0
  | bit :: rest => C (coefficient bit) * X ^ rest.length + ofBits rest

@[simp] theorem coefficient_false : coefficient false = 0 := rfl

@[simp] theorem coefficient_true : coefficient true = 1 := rfl

theorem coefficient_xor (first second : Bool) :
    coefficient (first ^^ second) = coefficient first + coefficient second := by
  cases first <;> cases second <;> rfl

theorem coefficient_inj {first second : Bool} : coefficient first = coefficient second ↔ first = second := by
  cases first <;> cases second <;> decide

theorem ofBits_append (first rest : List Bool) :
    ofBits (first ++ rest) = ofBits first * X ^ rest.length + ofBits rest := by
  induction first with
  | nil => simp [ofBits]
  | cons bit first ih =>
    rw [List.cons_append, ofBits, ofBits, ih, List.length_append, pow_add]
    ring

theorem ofBits_replicate_false (count : Nat) : ofBits (List.replicate count false) = 0 := by
  induction count with
  | zero => rfl
  | succ count ih => rw [List.replicate_succ, ofBits, ih, coefficient_false, C_0, zero_mul, zero_add]

theorem ofBits_replicate_true (count : Nat) :
    ofBits (List.replicate count true) = ∑ i ∈ Finset.range count, X ^ i := by
  induction count with
  | zero => rfl
  | succ count ih =>
    rw [List.replicate_succ, ofBits, ih, coefficient_true, C_1, one_mul, List.length_replicate, Finset.sum_range_succ,
      add_comm]

theorem ofBits_xor {first second : List Bool} (same : first.length = second.length) :
    ofBits (List.zipWith xor first second) = ofBits first + ofBits second := by
  induction first generalizing second with
  | nil =>
    obtain rfl := List.length_eq_zero_iff.mp same.symm
    exact (add_zero _).symm
  | cons bit first ih =>
    cases second with
    | nil => cases same
    | cons other second =>
      have rest := Nat.succ.inj same
      have length : (List.zipWith xor first second).length = first.length := by simp [rest]
      rw [List.zipWith_cons_cons, ofBits, ofBits, ofBits, ih rest, length, coefficient_xor, C_add, rest]
      ring

theorem degree_ofBits_lt (bits : List Bool) : (ofBits bits).degree < bits.length := by
  induction bits with
  | nil => simp [ofBits]
  | cons bit rest ih =>
    have first : (C (coefficient bit) * X ^ rest.length : (ZMod 2)[X]).degree < (rest.length + 1 : Nat) :=
      (degree_C_mul_X_pow_le _ _).trans_lt (by exact_mod_cast Nat.lt_succ_self _)
    have behind : (ofBits rest).degree < (rest.length + 1 : Nat) :=
      ih.trans (by exact_mod_cast Nat.lt_succ_self _)
    exact (degree_add_le _ _).trans_lt (max_lt first behind)

theorem coeff_ofBits_cons (bit : Bool) (rest : List Bool) :
    (ofBits (bit :: rest)).coeff rest.length = coefficient bit := by
  have none_left : (ofBits rest).coeff rest.length = 0 := coeff_eq_zero_of_degree_lt (degree_ofBits_lt rest)
  rw [ofBits, coeff_add, coeff_C_mul_X_pow, if_pos rfl, none_left, add_zero]

theorem ofBits_inj {first second : List Bool} (length : first.length = second.length)
    (same : ofBits first = ofBits second) : first = second := by
  induction first generalizing second with
  | nil => exact (List.length_eq_zero_iff.mp length.symm).symm
  | cons bit first ih =>
    cases second with
    | nil => cases length
    | cons other second =>
      have rest := Nat.succ.inj length
      have highest : coefficient bit = coefficient other := by
        rw [← coeff_ofBits_cons bit first, ← coeff_ofBits_cons other second, same, rest]
      obtain rfl := coefficient_inj.mp highest
      rw [ofBits, ofBits, rest, add_right_inj] at same
      rw [ih rest same]

/-! ## Registers -/

section Registers
variable {w v : Nat}

def registerBits (register : BitVec w) : List Bool := (List.range w).map register.getLsbD

noncomputable def ofRegister (register : BitVec w) : (ZMod 2)[X] := ofBits (registerBits register)

/-- The register of a remainder: the lowest bit is the highest coefficient. -/
noncomputable def toRegister (w : Nat) (polynomial : (ZMod 2)[X]) : BitVec w :=
  (BitVec.ofBoolListLE ((List.range w).map fun i => decide (polynomial.coeff (w - 1 - i) = 1))).setWidth w

@[simp] theorem length_registerBits (register : BitVec w) : (registerBits register).length = w := by
  simp [registerBits]

theorem registerBits_xor (first second : BitVec w) :
    registerBits (first ^^^ second) = List.zipWith xor (registerBits first) (registerBits second) := by
  apply List.ext_getElem
  · simp
  · intro i _ _
    simp [registerBits]

theorem ofRegister_xor (first second : BitVec w) :
    ofRegister (first ^^^ second) = ofRegister first + ofRegister second := by
  rw [ofRegister, registerBits_xor, ofBits_xor (by simp)]
  rfl

theorem ofRegister_setWidth (register : BitVec v) (wider : v ≤ w) :
    ofRegister (register.setWidth w) = ofRegister register * X ^ (w - v) := by
  have bits : registerBits (register.setWidth w) = registerBits register ++ List.replicate (w - v) false := by
    apply List.ext_getElem
    · simp [wider]
    · intro i inside _
      rw [length_registerBits] at inside
      rw [List.getElem_append]
      by_cases low : i < v
      · simp [registerBits, low, inside]
      · have high : register.getLsbD i = false := BitVec.getLsbD_of_ge _ _ (by omega)
        simp [registerBits, low, inside, high]
  rw [ofRegister, bits, ofBits_append, ofBits_replicate_false, List.length_replicate, add_zero]
  rfl

/-- The bit that falls out of the register is the coefficient of `X ^ w`. -/
theorem ofRegister_shift (register : BitVec w) :
    X * ofRegister register = ofRegister (register >>> 1) + C (coefficient (register.getLsbD 0)) * X ^ w := by
  cases w with
  | zero =>
    have nothing : register.getLsbD 0 = false := BitVec.getLsbD_of_ge _ _ (Nat.le_refl 0)
    rw [nothing, coefficient_false, C_0, zero_mul, add_zero]
    exact mul_zero X
  | succ w =>
    let rest := (List.range w).map fun i => register.getLsbD (i + 1)
    have length : rest.length = w := by simp [rest]
    have before : registerBits register = register.getLsbD 0 :: rest := by
      rw [registerBits, List.range_succ_eq_map, List.map_cons, List.map_map]
      rfl
    have after : registerBits (register >>> 1) = rest ++ [false] := by
      simp [registerBits, List.range_succ, rest, Nat.add_comm]
    have last : ofBits [false] = 0 := ofBits_replicate_false 1
    rw [ofRegister, ofRegister, before, after, ofBits_append, ofBits, last, length]
    simp only [List.length_singleton, pow_succ, pow_zero, one_mul]
    ring

theorem registerBits_inj {first second : BitVec w} (same : registerBits first = registerBits second) :
    first = second := by
  apply BitVec.eq_of_getLsbD_eq
  intro i inside
  have here := congrArg (·[i]?) same
  simpa [registerBits, inside] using here

theorem coeff_ofRegister (register : BitVec w) {i : Nat} (inside : i < w) :
    (ofRegister register).coeff (w - 1 - i) = coefficient (register.getLsbD i) := by
  have split := List.take_append_drop i (registerBits register)
  have here : (registerBits register).drop i = register.getLsbD i :: (registerBits register).drop (i + 1) := by
    rw [List.drop_eq_getElem_cons (by simpa using inside)]
    simp [registerBits]
  have behind : ((registerBits register).drop (i + 1)).length = w - 1 - i := by
    rw [List.length_drop, length_registerBits]
    omega
  have above : w - 1 - i < (register.getLsbD i :: (registerBits register).drop (i + 1)).length := by
    rw [List.length_cons, behind]
    omega
  rw [here] at split
  rw [ofRegister, ← split, ofBits_append, coeff_add, coeff_mul_X_pow', if_neg (Nat.not_le.mpr above), zero_add,
    ← behind, coeff_ofBits_cons]

theorem toRegister_ofRegister (register : BitVec w) : toRegister w (ofRegister register) = register := by
  apply BitVec.eq_of_getLsbD_eq
  intro i inside
  have bit : decide (coefficient (register.getLsbD i) = 1) = register.getLsbD i := by
    cases register.getLsbD i <;> decide
  rw [toRegister, BitVec.getLsbD_setWidth, BitVec.getLsbD_ofBoolListLE, List.getD_eq_getElem?_getD, List.getElem?_map,
    List.getElem?_range inside, Option.map_some, Option.getD_some, coeff_ofRegister register inside, bit,
    decide_eq_true inside, Bool.true_and]

/-! ## Division -/

/-- The shift register: the taps are added when the bit that falls out is set. -/
def clock (taps register : BitVec w) : BitVec w :=
  if register.getLsbD 0 then register >>> 1 ^^^ taps else register >>> 1

noncomputable def generator (taps : BitVec w) : (ZMod 2)[X] := X ^ w + ofRegister taps

theorem degree_ofRegister_lt (register : BitVec w) : (ofRegister register).degree < w := by
  have below := degree_ofBits_lt (registerBits register)
  rwa [length_registerBits] at below

theorem generator_monic (taps : BitVec w) : (generator taps).Monic :=
  monic_X_pow_add (degree_ofRegister_lt taps)

theorem degree_generator (taps : BitVec w) : (generator taps).degree = w :=
  (degree_add_eq_left_of_degree_lt (by rw [degree_X_pow]; exact degree_ofRegister_lt taps)).trans (degree_X_pow w)

theorem ofRegister_clock (taps register : BitVec w) :
    ofRegister (clock taps register) =
      X * ofRegister register + C (coefficient (register.getLsbD 0)) * generator taps := by
  have shift := ofRegister_shift register
  cases out : register.getLsbD 0 with
  | false =>
    rw [out, coefficient_false, C_0, zero_mul, add_zero] at shift
    rw [clock, out, coefficient_false, C_0, zero_mul, add_zero, shift]
    rfl
  | true =>
    rw [out, coefficient_true, C_1, one_mul] at shift
    have twice : (X ^ w + X ^ w : (ZMod 2)[X]) = 0 := CharTwo.add_self_eq_zero _
    rw [clock, out, if_pos rfl, ofRegister_xor, coefficient_true, C_1, one_mul, shift, generator]
    linear_combination -twice

theorem ofRegister_clocks (taps register : BitVec w) (count : Nat) :
    generator taps ∣ ofRegister ((clock taps)^[count] register) - X ^ count * ofRegister register := by
  induction count with
  | zero => simp
  | succ count ih =>
    rw [Function.iterate_succ_apply', ofRegister_clock, pow_succ']
    have step := (ih.mul_left X).add (Dvd.intro_left (C (coefficient (((clock taps)^[count] register).getLsbD 0)))
      (rfl : _ * generator taps = _))
    convert step using 1
    ring

/-- What is congruent to the register is divided with the register as the remainder. -/
theorem modByMonic_generator {taps register : BitVec w} {polynomial : (ZMod 2)[X]}
    (congruent : generator taps ∣ ofRegister register - polynomial) :
    polynomial %ₘ generator taps = ofRegister register := by
  have monic := generator_monic taps
  have small : (ofRegister register).degree < (generator taps).degree := by
    rw [degree_generator]
    exact degree_ofRegister_lt register
  rw [← (modByMonic_eq_self_iff monic).mpr small]
  exact (modByMonic_eq_of_dvd_sub monic congruent).symm

/-! ## Bursts -/

theorem isCoprime_generator {taps : BitVec w} (constant : taps.getLsbD (w - 1) = true) :
    IsCoprime (generator taps) X := by
  have positive : 0 < w := by
    by_contra zero
    rw [BitVec.getLsbD_of_ge _ _ (by omega)] at constant
    cases constant
  have term : (generator taps).coeff 0 = 1 := by
    have lowest := coeff_ofRegister taps (i := w - 1) (by omega)
    rw [Nat.sub_self, constant] at lowest
    rw [generator, coeff_add, coeff_X_pow, if_neg (by omega), zero_add, lowest]
    rfl
  obtain ⟨quotient, rest⟩ := X_dvd_sub_C (p := generator taps)
  rw [term, C_1] at rest
  exact ⟨1, -quotient, by linear_combination rest⟩

/-- The places where two words differ lie among `w` places from `start` on. -/
def DifferWithin (w start : Nat) (first second : List Bool) : Prop :=
  ∀ i, first[i]? ≠ second[i]? → start ≤ i ∧ i < start + w

theorem ofBits_clear {bits : List Bool} (clear : ∀ i (inside : i < bits.length), bits[i] = false) :
    ofBits bits = 0 := by
  have same : bits = List.replicate bits.length false := by
    apply List.eq_replicate_of_mem
    intro bit member
    obtain ⟨i, inside, rfl⟩ := List.mem_iff_getElem.mp member
    exact clear i inside
  rw [same, ofBits_replicate_false]

/-- What stands in a window is moved up by what stands behind it. -/
theorem ofBits_window {bits : List Bool} {start : Nat}
    (window : ∀ i (inside : i < bits.length), bits[i] = true → start ≤ i ∧ i < start + w) :
    ofBits bits = ofBits ((bits.drop start).take w) * X ^ (bits.drop (start + w)).length := by
  have before : ofBits (bits.take start) = 0 := by
    apply ofBits_clear
    intro i inside
    rw [List.length_take] at inside
    rw [List.getElem_take]
    by_contra set
    have := window i (by omega) (by simpa using set)
    omega
  have behind : ofBits (bits.drop (start + w)) = 0 := by
    apply ofBits_clear
    intro i inside
    rw [List.length_drop] at inside
    rw [List.getElem_drop]
    by_contra set
    have := window (start + w + i) (by omega) (by simpa using set)
    omega
  calc ofBits bits = ofBits (bits.take start ++ ((bits.drop start).take w ++ bits.drop (start + w))) := by
        rw [← List.drop_drop, List.take_append_drop, List.take_append_drop]
    _ = ofBits ((bits.drop start).take w) * X ^ (bits.drop (start + w)).length := by
        rw [ofBits_append, ofBits_append, before, behind, zero_mul, zero_add, add_zero]

/-- A burst that the generator divides is none. -/
theorem eq_of_burst {taps : BitVec w} (constant : taps.getLsbD (w - 1) = true) {start : Nat}
    {first second : List Bool} (length : first.length = second.length) (burst : DifferWithin w start first second)
    {count : Nat} (divides : generator taps ∣ (ofBits first - ofBits second) * X ^ count) : first = second := by
  let difference := List.zipWith xor first second
  have sum : ofBits first - ofBits second = ofBits difference := by
    rw [ofBits_xor length, CharTwo.sub_eq_add]
  have window : ∀ i (inside : i < difference.length), difference[i] = true → start ≤ i ∧ i < start + w := by
    intro i inside differs
    have inside' : i < first.length ∧ i < second.length := by simpa [difference] using inside
    apply burst i
    rw [List.getElem?_eq_getElem inside'.1, List.getElem?_eq_getElem inside'.2]
    intro same
    simp [difference, Option.some.inj same] at differs
  rw [sum, ofBits_window window, mul_assoc, ← pow_add] at divides
  have inWindow := (isCoprime_generator constant).pow_right.dvd_of_dvd_mul_right divides
  have short : (ofBits ((difference.drop start).take w)).degree < (generator taps).degree := by
    rw [degree_generator]
    exact (degree_ofBits_lt _).trans_le (by exact_mod_cast List.length_take_le _ _)
  have none_left := eq_zero_of_dvd_of_degree_lt inWindow short
  have zero : ofBits difference = 0 := by rw [ofBits_window window, none_left, zero_mul]
  exact ofBits_inj length (sub_eq_zero.mp (sum.trans zero))

end Registers

end TvcHopper.Machine.BitPolynomials
