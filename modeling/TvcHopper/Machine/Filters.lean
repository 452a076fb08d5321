import Mathlib.Algebra.Order.Field.Basic
import Mathlib.Tactic.Linarith
import Mathlib.Tactic.Ring

/-! A limiter, and a first-order filter behind it.

The filter is linear in its new value, so what holds at both ends of the limited
range holds in between. A rate between zero and one keeps the filter below a
bound that both of its values are below; any other rate can overshoot.
-/

set_option autoImplicit false

namespace TvcHopper.Machine

section Limiters
variable {K : Type} [LinearOrder K]

/-- The upper limit comes first. -/
def clamp (value low high : K) : K :=
  if value > high then high
  else if value < low then low
  else value

theorem clamp_of_le {low high : K} (ordered : low ≤ high) (value : K) :
    low ≤ clamp value low high ∧ clamp value low high ≤ high := by
  unfold clamp
  split
  · exact ⟨ordered, le_refl _⟩
  · next below =>
    split
    · exact ⟨le_refl _, ordered⟩
    · next above => exact ⟨not_lt.mp above, not_lt.mp below⟩

theorem clamp_inside {value low high : K} (above : low ≤ value) (below : value ≤ high) :
    clamp value low high = value := by
  rw [clamp, if_neg (not_lt.mpr below), if_neg (not_lt.mpr above)]

theorem clamp_of_gt {low high : K} (swapped : high < low) (value : K) :
    clamp value low high = high ∨ clamp value low high = low := by
  unfold clamp
  split
  · exact .inl rfl
  · next below => exact .inr (if_pos ((not_lt.mp below).trans_lt swapped))

theorem clamp_ends (low high : K) :
    (∃ value, clamp value low high = low) ∧ ∃ value, clamp value low high = high := by
  rcases le_or_gt low high with ordered | swapped
  · exact ⟨⟨low, clamp_inside (le_refl _) ordered⟩, ⟨high, clamp_inside ordered (le_refl _)⟩⟩
  · refine ⟨⟨high, ?_⟩, ⟨low, ?_⟩⟩
    · rw [clamp, if_neg (lt_irrefl high), if_pos swapped]
    · rw [clamp, if_pos swapped]

theorem clamp_le_iff {value low high bound : K} (above : low ≤ bound) (below : bound ≤ high) :
    clamp value low high ≤ bound ↔ value ≤ bound ∨ bound = high := by
  unfold clamp
  split
  · next beyond =>
    have larger : ¬value ≤ bound := not_le.mpr (below.trans_lt beyond)
    rw [or_iff_right larger]
    exact ⟨below.antisymm, fun same => le_of_eq same.symm⟩
  · next within =>
    split
    · next under => exact iff_of_true above (.inl (under.le.trans above))
    · refine ⟨.inl, fun either => either.elim id fun top => ?_⟩
      rw [top]
      exact not_lt.mp within

end Limiters

/-- The share `rate` of the new value, and the rest of the last one. -/
def blend {K : Type} [Field K] (last now rate : K) : K := now * rate + (1 - rate) * last

section Filters
variable {K : Type} [Field K] [LinearOrder K] [IsStrictOrderedRing K]

theorem blend_le_of_ends {last low high now rate bound : K} (above : low ≤ now) (below : now ≤ high)
    (lowEnd : blend last low rate ≤ bound) (highEnd : blend last high rate ≤ bound) :
    blend last now rate ≤ bound := by
  unfold blend at *
  rcases le_total 0 rate with positive | negative
  · have grows : now * rate ≤ high * rate := mul_le_mul_of_nonneg_right below positive
    linarith
  · have falls : now * rate ≤ low * rate := mul_le_mul_of_nonpos_right above negative
    linarith

/-- What is limited and then filtered is below a bound exactly when both limits are. -/
theorem blend_clamp_le_iff {last low high rate bound : K} :
    (∀ value, blend last (clamp value low high) rate ≤ bound) ↔
      blend last low rate ≤ bound ∧ blend last high rate ≤ bound := by
  constructor
  · intro always
    obtain ⟨⟨first, atLow⟩, second, atHigh⟩ := clamp_ends low high
    exact ⟨atLow ▸ always first, atHigh ▸ always second⟩
  · rintro ⟨lowEnd, highEnd⟩ value
    rcases le_or_gt low high with ordered | swapped
    · obtain ⟨above, below⟩ := clamp_of_le ordered value
      exact blend_le_of_ends above below lowEnd highEnd
    · rcases clamp_of_gt swapped value with same | same
      · rw [same]
        exact highEnd
      · rw [same]
        exact lowEnd

theorem blend_le {last now rate bound : K} (nonneg : 0 ≤ rate) (unit : rate ≤ 1) (lastBelow : last ≤ bound)
    (nowBelow : now ≤ bound) : blend last now rate ≤ bound := by
  have first : now * rate ≤ bound * rate := mul_le_mul_of_nonneg_right nowBelow nonneg
  have second : (1 - rate) * last ≤ (1 - rate) * bound := mul_le_mul_of_nonneg_left lastBelow (by linarith)
  calc blend last now rate ≤ bound * rate + (1 - rate) * bound := add_le_add first second
    _ = bound := by ring

end Filters

end TvcHopper.Machine
