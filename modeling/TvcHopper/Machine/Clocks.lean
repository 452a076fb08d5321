import Mathlib.Tactic.Ring

/-! Time that is counted from zero again.

A timer is advanced in steps of any length. When the time that has passed is
seen to have expired, it starts over.

A counter that rolls over is seen at some times. Whenever it is behind where it
was, it has started over once more; what is counted so is right as long as it is
seen at least once in every round.
-/

set_option autoImplicit false

namespace TvcHopper.Machine

/-! ## Timers -/

section Timers
variable {expired expired' : Nat → Bool} {Holds Holds' : Nat → Prop}

def timer (expired : Nat → Bool) : Nat → List Nat → List Bool
  | _, [] => []
  | passed, step :: rest =>
    expired (passed + step) :: timer expired (if expired (passed + step) then 0 else passed + step) rest

/-- `Holds` is true of the time that has passed at every step. -/
def AlongTimer (expired : Nat → Bool) (Holds : Nat → Prop) : Nat → List Nat → Prop
  | _, [] => True
  | passed, step :: rest => Holds (passed + step) ∧
    AlongTimer expired Holds (if expired (passed + step) then 0 else passed + step) rest

instance AlongTimer.decidable [holds : ∀ time, Decidable (Holds time)] :
    (passed : Nat) → (steps : List Nat) → Decidable (AlongTimer expired Holds passed steps)
  | _, [] => .isTrue trivial
  | passed, step :: rest =>
    have := AlongTimer.decidable (if expired (passed + step) then 0 else passed + step) rest
    inferInstanceAs (Decidable (Holds (passed + step) ∧ _))

theorem alongTimer_congr (same : ∀ time, Holds time ↔ Holds' time) {passed : Nat} {steps : List Nat} :
    AlongTimer expired Holds passed steps ↔ AlongTimer expired Holds' passed steps := by
  induction steps generalizing passed with
  | nil => exact Iff.rfl
  | cons step rest ih => exact and_congr (same _) ih

theorem timer_eq_iff {passed : Nat} {steps : List Nat} :
    timer expired passed steps = timer expired' passed steps ↔
      AlongTimer expired' (fun time => expired time = expired' time) passed steps := by
  induction steps generalizing passed with
  | nil => exact ⟨fun _ => trivial, fun _ => rfl⟩
  | cons step rest ih =>
    rw [timer, timer, List.cons.injEq, AlongTimer]
    apply and_congr_right
    intro same
    rw [same]
    exact ih

end Timers

/-! ## Rollovers -/

section Rollovers
variable {modulus time time' last rollovers : Nat}

/-- The counter was seen last at this time, and its rounds have been counted. -/
structure Counts (modulus time last rollovers : Nat) : Prop where
  last : last = time % modulus
  rollovers : rollovers = time / modulus

/-- The count of the rounds when the counter is seen again. -/
def countRollovers (last rollovers seen : Nat) : Nat := if seen < last then rollovers + 1 else rollovers

theorem counts_zero (modulus : Nat) : Counts modulus 0 0 0 := ⟨(Nat.zero_mod _).symm, (Nat.zero_div _).symm⟩

/-- The count stays right exactly when the counter is seen again within a round. -/
theorem Counts.next_iff (counts : Counts modulus time last rollovers) (later : time ≤ time') (rounds : 0 < modulus) :
    Counts modulus time' (time' % modulus) (countRollovers last rollovers (time' % modulus)) ↔
      time' < time + modulus := by
  have whole := Nat.div_add_mod time modulus
  have whole' := Nat.div_add_mod time' modulus
  have below := Nat.mod_lt time rounds
  have below' := Nat.mod_lt time' rounds
  have order : time / modulus ≤ time' / modulus := Nat.div_le_div_right later
  obtain ⟨more, there⟩ := Nat.exists_eq_add_of_le order
  obtain ⟨rfl, rfl⟩ := counts
  rw [there, Nat.mul_add] at whole'
  generalize counted : countRollovers (time % modulus) (time / modulus) (time' % modulus) = rounds'
  have kept : Counts modulus time' (time' % modulus) rounds' ↔ rounds' = time / modulus + more :=
    ⟨fun counts => counts.rollovers.trans there, fun same => ⟨rfl, same.trans there.symm⟩⟩
  rw [kept, ← counted, countRollovers]
  match more with
  | 0 => split <;> omega
  | 1 => split <;> omega
  | more + 2 =>
    have far : modulus * 2 ≤ modulus * (more + 2) := Nat.mul_le_mul_left _ (Nat.le_add_left _ _)
    split <;> omega

theorem toNat_toUInt32 (value : Int32) : (value.toUInt32.toNat : Int) = value.toInt % 2 ^ 32 := by
  have small := value.toBitVec.isLt
  have residue : (value.toBitVec.toNat : Int).bmod (2 ^ 32) % (2 ^ 32 : Nat) =
      value.toBitVec.toNat % (2 ^ 32 : Nat) := Int.bmod_emod
  rw [← Int32.toNat_toBitVec, ← Int32.toInt_toBitVec, BitVec.toInt_eq_toNat_bmod]
  omega

end Rollovers

end TvcHopper.Machine
