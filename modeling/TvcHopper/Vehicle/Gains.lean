import TvcHopper.Machine.Execution
import TvcHopper.Machine.Rows
import TvcHopper.Machine.Words
import TvcHopper.Vehicle.Tasks

/-! The gains of the controller, written and read over the radio.

A row is written with its number in front of it. `HoverControl_SetK` multiplies
the number with the length of a row before it cuts off the fraction, and
`HoverControl_GetK` the other way round; neither looks whether there is such a row.
-/

set_option autoImplicit false

namespace TvcHopper.Vehicle
open Machine Spp

/-! ## Numbers cut to integers -/

theorem truncate_of_nonneg {value : ℚ} (nonneg : 0 ≤ value) : truncate value = ⌊value⌋ := by
  rw [truncate, Rat.floor_def', Int.tdiv_eq_ediv_of_nonneg (Rat.num_nonneg.mpr nonneg)]

theorem truncate_neg (value : ℚ) : truncate (-value) = -truncate value := by
  rw [truncate, truncate, Rat.num_neg_eq_neg_num, Rat.den_neg_eq_den, Int.neg_tdiv]

@[simp] theorem truncate_natCast (number : Nat) : truncate number = number := by
  rw [truncate_of_nonneg (Nat.cast_nonneg number), Int.floor_natCast]

theorem truncate_nonneg_iff {value : ℚ} : 0 ≤ truncate value ↔ -1 < value := by
  rcases le_or_gt 0 value with nonneg | negative
  · have positive : -1 < value := by linarith
    rw [truncate_of_nonneg nonneg]
    exact ⟨fun _ => positive, fun _ => Int.floor_nonneg.mpr nonneg⟩
  · have opposite : truncate value = -⌊-value⌋ := by
      rw [← truncate_of_nonneg (by linarith), truncate_neg, neg_neg]
    rw [opposite, neg_nonneg, ← Int.lt_add_one_iff, Int.floor_lt]
    constructor
    · intro below
      push_cast at below
      linarith
    · intro above
      push_cast
      linarith

theorem truncate_le_iff {value : ℚ} {bound : Nat} : truncate value ≤ bound ↔ value < bound + 1 := by
  rcases le_or_gt 0 value with nonneg | negative
  · rw [truncate_of_nonneg nonneg, ← Int.lt_add_one_iff, Int.floor_lt]
    push_cast
    exact Iff.rfl
  · have opposite : truncate value = -⌊-value⌋ := by
      rw [← truncate_of_nonneg (by linarith), truncate_neg, neg_neg]
    have room : (0 : ℚ) ≤ bound := Nat.cast_nonneg bound
    have floor : 0 ≤ ⌊-value⌋ := Int.floor_nonneg.mpr (by linarith)
    rw [opposite]
    exact ⟨fun _ => by linarith, fun _ => by omega⟩

/-! ## Rows of gains -/

section Gains
variable {α : Type}

/-- `memcpy(K_hover + row, new_K + 1, 36)`; a place outside of the gains is a fault. -/
def setGains (kHover : Vector α (actuationVectorSize * stateVectorSize)) (number : ℚ) (gains : List α) :
    Except Fault (Vector α (actuationVectorSize * stateVectorSize)) :=
  let row := truncate (number * 9)
  if row < 0 then .error .outOfBounds else storeCells kHover row.toNat gains

/-- `memcpy(rowToSend + 1, K_hover + row, 36)`. -/
def getGains (kHover : Vector α (actuationVectorSize * stateVectorSize)) (number : ℚ) : Except Fault (List α) :=
  let row := truncate number * 9
  if row < 0 then .error .outOfBounds else loadCells kHover row.toNat 9

theorem setGains_row (kHover : Vector α (actuationVectorSize * stateVectorSize)) (r : Fin actuationVectorSize)
    (gains : Vector α stateVectorSize) : setGains kHover r.val gains.toList = .ok (storeRow kHover r gains) := by
  have place : truncate ((r.val : ℚ) * 9) = (r.val * 9 : Nat) := by
    rw [← truncate_natCast]
    push_cast
    rfl
  rw [setGains, place, if_neg (by omega), Int.toNat_natCast]
  exact storeCells_row kHover r gains

theorem getGains_row (kHover : Vector α (actuationVectorSize * stateVectorSize)) (r : Fin actuationVectorSize) :
    getGains kHover r.val = .ok (row kHover r).toList := by
  have place : truncate (r.val : ℚ) * 9 = (r.val * 9 : Nat) := by
    rw [truncate_natCast]
    push_cast
    rfl
  rw [getGains, place, if_neg (by omega), Int.toNat_natCast]
  exact loadCells_row kHover r

theorem setGains_eq_ok {kHover kHover' : Vector α (actuationVectorSize * stateVectorSize)} {number : ℚ}
    {gains : Vector α stateVectorSize} :
    setGains kHover number gains.toList = .ok kHover' ↔
      (-1 < number * 9 ∧ number * 9 < 37) ∧
        storeCells kHover (truncate (number * 9)).toNat gains.toList = .ok kHover' := by
  by_cases behind : -1 < number * 9
  · have inside : ¬truncate (number * 9) < 0 := not_lt.mpr (truncate_nonneg_iff.mpr behind)
    rw [setGains, if_neg inside]
    refine ⟨fun stored => ⟨⟨behind, ?_⟩, stored⟩, fun ⟨_, stored⟩ => stored⟩
    have room := (storeRange_eq_ok.mp (storeCells_eq_ok.mp stored)).1
    rw [Vector.length_toList, Vector.length_toList] at room
    change (truncate (number * 9)).toNat + 9 ≤ 45 at room
    have bound : truncate (number * 9) ≤ (36 : Nat) := by omega
    have below := truncate_le_iff.mp bound
    norm_num at below
    exact below
  · have outside : truncate (number * 9) < 0 := not_le.mp (mt truncate_nonneg_iff.mp behind)
    rw [setGains, if_pos outside]
    exact ⟨nofun, fun ⟨⟨inside, _⟩, _⟩ => absurd inside behind⟩

theorem setGains_same_iff (kHover : Vector α (actuationVectorSize * stateVectorSize)) (number : ℚ)
    (gains : Vector α stateVectorSize) :
    setGains kHover number gains.toList = .ok kHover ↔
      (-1 < number * 9 ∧ number * 9 < 37) ∧ loadCells kHover (truncate (number * 9)).toNat 9 = .ok gains.toList := by
  rw [setGains_eq_ok, storeCells_same, Vector.length_toList]

theorem setGains_map {β : Type} (project : α → β) (kHover : Vector α (actuationVectorSize * stateVectorSize))
    (number : ℚ) (gains : List α) :
    setGains (kHover.map project) number (gains.map project) =
      (setGains kHover number gains).map (Vector.map project) := by
  rw [setGains, setGains]
  split
  · rfl
  · exact storeCells_map project kHover _ gains

end Gains

/-! ## A received row -/

def hoverControlGetK (control : HoverControl) (number : ℚ) : Except Fault (List ℚ) := getGains control.kHover number

def PropertyValue.gains (value : PropertyValue) : Vector ℚ stateVectorSize := .ofFn fun i => value.float (i.val + 1)

theorem hoverControlSetK_eq (control : HoverControl) (value : PropertyValue) :
    hoverControlSetK control value.float =
      (setGains control.kHover (value.float 0) value.gains.toList).map fun kHover => { control with kHover } := by
  have copied : (List.range 9).map (fun i => value.float (i + 1)) = value.gains.toList := by
    apply List.ext_getElem
    · simp
    · intro i inside outside
      simp [PropertyValue.gains]
  rw [hoverControlSetK, copied, setGains]
  split
  · rfl
  · cases storeCells control.kHover (truncate (value.float 0 * 9)).toNat value.gains.toList <;> rfl

theorem setValue_kMatrix (vehicle : VehicleState) (value : PropertyValue) :
    setValue vehicle propKMatrixId value =
      (setGains vehicle.control.kHover (value.float 0) value.gains.toList).map fun kHover =>
        ({ vehicle with control := { vehicle.control with kHover } }, .handled sppStatusOk) := by
  have tuned : setValue vehicle propKMatrixId value =
      (hoverControlSetK vehicle.control value.float).map fun control =>
        ({ vehicle with control }, .handled sppStatusOk) := by
    unfold setValue tuneControl
    cases hoverControlSetK vehicle.control value.float <;> rfl
  rw [tuned, hoverControlSetK_eq]
  cases setGains vehicle.control.kHover (value.float 0) value.gains.toList <;> rfl

/-- A received row takes the place of the row with its number; there is no other place that it could take. -/
def ReplacesOneRow (vehicle : VehicleState) (value : PropertyValue) : Prop :=
  ∃ kHover, setValue vehicle propKMatrixId value =
      .ok ({ vehicle with control := { vehicle.control with kHover } }, .handled sppStatusOk) ∧
    (∀ r : Fin actuationVectorSize, value.float 0 = r.val →
      kHover = storeRow vehicle.control.kHover r value.gains ∧
        hoverControlGetK { vehicle.control with kHover } r.val = .ok value.gains.toList) ∧
    ((∀ r : Fin actuationVectorSize, value.float 0 ≠ r.val) → kHover = vehicle.control.kHover)

theorem replacesOneRow_of_row (vehicle : VehicleState) {value : PropertyValue} {r : Fin actuationVectorSize}
    (number : value.float 0 = r.val) : ReplacesOneRow vehicle value := by
  refine ⟨storeRow vehicle.control.kHover r value.gains, ?_, fun other named => ?_,
    fun unnamed => absurd number (unnamed r)⟩
  · rw [setValue_kMatrix, number, setGains_row]
    rfl
  · have here : other = r := Fin.ext (Nat.cast_injective (named.symm.trans number))
    subst here
    refine ⟨rfl, ?_⟩
    rw [hoverControlGetK, getGains_row, row_storeRow_self]

/-- A number that names no row leaves the gains as they are exactly when they are there already. -/
theorem replacesOneRow_unnamed (vehicle : VehicleState) {value : PropertyValue}
    (unnamed : ∀ r : Fin actuationVectorSize, value.float 0 ≠ r.val) :
    ReplacesOneRow vehicle value ↔
      setGains vehicle.control.kHover (value.float 0) value.gains.toList = .ok vehicle.control.kHover := by
  constructor
  · rintro ⟨kHover, received, -, unchanged⟩
    obtain rfl := unchanged unnamed
    rw [setValue_kMatrix] at received
    obtain ⟨kHover, stored, same⟩ := map_eq_ok.mp received
    have kept : kHover = vehicle.control.kHover := congrArg (fun result => result.1.control.kHover) same
    rw [kept] at stored
    exact stored
  · intro stored
    refine ⟨vehicle.control.kHover, ?_, fun r named => absurd named (unnamed r), fun _ => rfl⟩
    rw [setValue_kMatrix, stored]
    rfl

/-- It does so for the numbers of the five rows, and for no other number unless the gains are where they are
written to already. -/
theorem replacesOneRow_iff (vehicle : VehicleState) (value : PropertyValue) :
    ReplacesOneRow vehicle value ↔
      (∃ r : Fin actuationVectorSize, value.float 0 = r.val) ∨
        (-1 < value.float 0 * 9 ∧ value.float 0 * 9 < 37) ∧
          loadCells vehicle.control.kHover (truncate (value.float 0 * 9)).toNat 9 = .ok value.gains.toList := by
  by_cases named : ∃ r : Fin actuationVectorSize, value.float 0 = r.val
  · obtain ⟨r, number⟩ := named
    exact iff_of_true (replacesOneRow_of_row vehicle number) (.inl ⟨r, number⟩)
  · rw [or_iff_right named, replacesOneRow_unnamed vehicle fun r same => named ⟨r, same⟩, setGains_same_iff]

/-- The number of half a row writes the gains across the first two rows, and the number behind the last row
writes them behind the matrix. -/
theorem rows_written_across :
    ¬ReplacesOneRow vehicleInit ⟨0, fun i => if i = 0 then 1 / 2 else 1⟩ ∧
      ∀ result, setValue vehicleInit propKMatrixId ⟨0, fun i => if i = 0 then 5 else 1⟩ ≠ .ok result := by
  have unnamed (r : Fin actuationVectorSize) : (1 / 2 : ℚ) ≠ r.val := by
    match r with
    | 0 | 1 | 2 | 3 | 4 => norm_num
  constructor
  · rw [replacesOneRow_unnamed _ unnamed, setGains_same_iff]
    refine not_and_of_not_right _ ?_
    decide +kernel
  · intro result received
    rw [setValue_kMatrix] at received
    obtain ⟨kHover, stored, -⟩ := map_eq_ok.mp received
    have inside := (setGains_eq_ok.mp stored).1.2
    norm_num at inside

end TvcHopper.Vehicle
