import Mathlib.Analysis.Quaternion
import TvcHopper.Machine.Rotations

/-! The attitude of the vehicle: `ComputeQuaternions` and `ProcessIMU` of `control_inputs.c`.

The hub reports the orientation as a quaternion, which the controller uses as
the angles of three turns. The functions of `math.h` are parameters; over the real
numbers they are exact.
-/

set_option autoImplicit false

namespace TvcHopper.Vehicle
open Machine

abbrev imuRawIdxGyro : Nat := 3
abbrev imuRawIdxQuatI : Nat := 6
abbrev imuRawIdxQuatJ : Nat := 7
abbrev imuRawIdxQuatK : Nat := 8
abbrev imuRawIdxQuatReal : Nat := 9
abbrev imuRawSize : Nat := 10
abbrev imuProcSize : Nat := 6

structure MathH (φ : Type) where
  sqrt : φ → φ
  atan2 : φ → φ → φ
  asin : φ → φ

structure ImuQuaternion (φ : Type) where
  qi : φ
  qj : φ
  qk : φ
  qreal : φ

section Compute
variable {φ : Type} [Field φ] [LinearOrder φ] (math : MathH φ)

def normEpsilon : φ := 0.001

def computeQuaternions (imuDataRaw : Vector φ imuRawSize) : ImuQuaternion φ :=
  let qreal := imuDataRaw[imuRawIdxQuatReal]
  let qi := imuDataRaw[imuRawIdxQuatI]
  let qj := imuDataRaw[imuRawIdxQuatJ]
  let qk := imuDataRaw[imuRawIdxQuatK]
  let norm := math.sqrt (qreal * qreal + qi * qi + qj * qj + qk * qk)
  if norm < normEpsilon then ⟨qi, qj, qk, qreal⟩
  else ⟨qi / norm, qj / norm, qk / norm, qreal / norm⟩

def processImu (q : ImuQuaternion φ) (imuDataRaw : Vector φ imuRawSize) : Vector φ imuProcSize :=
  -- x-axis rotation
  let t0 := 2 * (q.qreal * q.qi + q.qj * q.qk)
  let t1 := 1 - 2 * (q.qi * q.qi + q.qj * q.qj)
  let roll := math.atan2 t0 t1
  -- y-axis rotation
  let t2 := 2 * (q.qreal * q.qj - q.qk * q.qi)
  let t2 := if t2 > 1 then 1 else t2
  let t2 := if t2 < -1 then -1 else t2
  let pitch := math.asin t2
  -- z-axis rotation
  let t3 := 2 * (q.qreal * q.qk + q.qi * q.qj)
  let t4 := 1 - 2 * (q.qj * q.qj + q.qk * q.qk)
  let yaw := math.atan2 t3 t4
  -- corrections for the orientation of the IMU; gyro is x, y, z
  #v[-pitch, roll, yaw, imuDataRaw[imuRawIdxGyro + 2], imuDataRaw[imuRawIdxGyro + 0], imuDataRaw[imuRawIdxGyro + 1]]

def processed (imuDataRaw : Vector φ imuRawSize) : Vector φ imuProcSize :=
  processImu math (computeQuaternions math imuDataRaw) imuDataRaw

end Compute

/-! ## The exact attitude -/

noncomputable section

/-- `math.h` without rounding. -/
def exactMath : MathH ℝ where
  sqrt := Real.sqrt
  atan2 y x := Complex.arg ⟨x, y⟩
  asin := Real.arcsin

def reported (imuDataRaw : Vector ℝ imuRawSize) : Quaternion ℝ :=
  ⟨imuDataRaw[imuRawIdxQuatReal], imuDataRaw[imuRawIdxQuatI], imuDataRaw[imuRawIdxQuatJ], imuDataRaw[imuRawIdxQuatK]⟩

def ImuQuaternion.quaternion (q : ImuQuaternion ℝ) : Quaternion ℝ := ⟨q.qreal, q.qi, q.qj, q.qk⟩

theorem exact_atan2 {radius angle : ℝ} (positive : 0 < radius) (range : angle ∈ Set.Ioc (-Real.pi) Real.pi) :
    exactMath.atan2 (radius * Real.sin angle) (radius * Real.cos angle) = angle := by
  have same : (⟨radius * Real.cos angle, radius * Real.sin angle⟩ : ℂ) =
      radius * (Complex.cos angle + Complex.sin angle * Complex.I) := by
    apply Complex.ext
    · simp [Complex.cos_ofReal_re]
    · simp [Complex.sin_ofReal_re]
  show Complex.arg _ = angle
  rw [same]
  exact Complex.arg_mul_cos_add_sin_mul_I positive range

/-- The stored angles are the description of the quaternion. -/
theorem processImu_describes {q : ImuQuaternion ℝ} {roll pitch yaw : ℝ} (angles : Angles roll pitch yaw)
    (described : Describes q.quaternion roll pitch yaw) (imuDataRaw : Vector ℝ imuRawSize) :
    processImu exactMath q imuDataRaw = #v[-pitch, roll, yaw, imuDataRaw[5], imuDataRaw[3], imuDataRaw[4]] := by
  have cosine : 0 < Real.cos pitch := Real.cos_pos_of_mem_Ioo angles.pitch
  have rollAngle := exact_atan2 cosine angles.roll
  have yawAngle := exact_atan2 cosine angles.yaw
  have sine : 2 * (q.qreal * q.qj - q.qk * q.qi) = Real.sin pitch :=
    (pitchSine_eq q.quaternion).symm.trans described.pitchSin
  have pitchAngle : exactMath.asin (Real.sin pitch) = pitch := Real.arcsin_sin angles.pitch.1.le angles.pitch.2.le
  rw [← described.rollSin, ← described.rollCos] at rollAngle
  rw [← described.yawSin, ← described.yawCos] at yawAngle
  -- the sine of an angle needs no limit
  have above : ¬Real.sin pitch > 1 := not_lt.mpr (Real.sin_le_one pitch)
  have below : ¬Real.sin pitch < -1 := not_lt.mpr (Real.neg_one_le_sin pitch)
  simp only [processImu, sine, above, below, if_false, pitchAngle]
  have rollAngle' : exactMath.atan2 (2 * (q.qreal * q.qi + q.qj * q.qk)) (1 - 2 * (q.qi * q.qi + q.qj * q.qj)) = roll :=
    rollAngle
  have yawAngle' : exactMath.atan2 (2 * (q.qreal * q.qk + q.qi * q.qj)) (1 - 2 * (q.qj * q.qj + q.qk * q.qk)) = yaw :=
    yawAngle
  rw [rollAngle', yawAngle']

theorem processImu_pitch {q : ImuQuaternion ℝ} (unit : Quaternion.normSq q.quaternion = 1)
    (imuDataRaw : Vector ℝ imuRawSize) :
    (processImu exactMath q imuDataRaw)[0] = -Real.arcsin (pitchSine q.quaternion) := by
  obtain ⟨low, high⟩ := abs_le.mp ((sq_le_one_iff_abs_le_one _).mp (unit_pitchSine unit))
  have sine : 2 * (q.qreal * q.qj - q.qk * q.qi) = pitchSine q.quaternion := (pitchSine_eq q.quaternion).symm
  have above : ¬pitchSine q.quaternion > 1 := not_lt.mpr high
  have below : ¬pitchSine q.quaternion < -1 := not_lt.mpr low
  simp only [processImu, sine, above, below, if_false]
  rfl

theorem processImu_iff {q : ImuQuaternion ℝ} (unit : Quaternion.normSq q.quaternion = 1)
    {imuDataRaw : Vector ℝ imuRawSize} {roll pitch yaw : ℝ} (angles : Angles roll pitch yaw) :
    processImu exactMath q imuDataRaw = #v[-pitch, roll, yaw, imuDataRaw[5], imuDataRaw[3], imuDataRaw[4]] ↔
      Describes q.quaternion roll pitch yaw := by
  refine ⟨fun stored => ?_, fun described => processImu_describes angles described imuDataRaw⟩
  have cosine : 0 < Real.cos pitch := Real.cos_pos_of_mem_Ioo angles.pitch
  -- the stored pitch is away from the poles, so that there is a description
  have same := processImu_pitch unit imuDataRaw
  rw [stored] at same
  have pitchIs : pitch = Real.arcsin (pitchSine q.quaternion) := neg_injective same
  have away : pitchSine q.quaternion ^ 2 ≠ 1 := by
    intro pole
    rw [pitchIs, Real.cos_arcsin, pole, sub_self, Real.sqrt_zero] at cosine
    exact lt_irrefl 0 cosine
  obtain ⟨roll', pitch', yaw', angles', described⟩ := describes_exists unit away
  have stored' := processImu_describes angles' described imuDataRaw
  rw [stored] at stored'
  have pitchSame : -pitch = -pitch' := congrArg (fun data : Vector ℝ 6 => data[0]) stored'
  have rollSame : roll = roll' := congrArg (fun data : Vector ℝ 6 => data[1]) stored'
  have yawSame : yaw = yaw' := congrArg (fun data : Vector ℝ 6 => data[2]) stored'
  rw [neg_injective pitchSame, rollSame, yawSame]
  exact described

section Reported
variable (imuDataRaw : Vector ℝ imuRawSize)

theorem reported_norm : exactMath.sqrt (imuDataRaw[9] * imuDataRaw[9] + imuDataRaw[6] * imuDataRaw[6] +
    imuDataRaw[7] * imuDataRaw[7] + imuDataRaw[8] * imuDataRaw[8]) = ‖reported imuDataRaw‖ := by
  have square : imuDataRaw[9] * imuDataRaw[9] + imuDataRaw[6] * imuDataRaw[6] + imuDataRaw[7] * imuDataRaw[7] +
      imuDataRaw[8] * imuDataRaw[8] = ‖reported imuDataRaw‖ * ‖reported imuDataRaw‖ := by
    rw [← Quaternion.normSq_eq_norm_mul_self, Quaternion.normSq_def']
    simp only [reported]
    ring
  rw [square]
  exact Real.sqrt_mul_self (norm_nonneg _)

variable {imuDataRaw} (large : 0.001 ≤ ‖reported imuDataRaw‖)
include large

theorem computeQuaternions_scaled :
    (computeQuaternions exactMath imuDataRaw).quaternion = ‖reported imuDataRaw‖⁻¹ • reported imuDataRaw := by
  have norm := reported_norm imuDataRaw
  have enough : ¬‖reported imuDataRaw‖ < normEpsilon := not_lt.mpr large
  simp only [computeQuaternions, norm, enough, if_false]
  apply Quaternion.ext
  all_goals
    simp only [ImuQuaternion.quaternion, Quaternion.re_smul, Quaternion.imI_smul, Quaternion.imJ_smul,
      Quaternion.imK_smul, smul_eq_mul]
    rw [div_eq_inv_mul]
    rfl

theorem computeQuaternions_unit :
    Quaternion.normSq (computeQuaternions exactMath imuDataRaw).quaternion = 1 := by
  have positive : ‖reported imuDataRaw‖ ≠ 0 := by linarith
  rw [computeQuaternions_scaled large, Quaternion.normSq_smul, Quaternion.normSq_eq_norm_mul_self]
  field_simp

theorem computeQuaternions_turned (vector : Quaternion ℝ) :
    turned (computeQuaternions exactMath imuDataRaw).quaternion vector =
      reported imuDataRaw * vector * (reported imuDataRaw)⁻¹ := by
  rw [turned, computeQuaternions_scaled large, Quaternion.inv_def, Quaternion.normSq_eq_norm_mul_self,
    Quaternion.star_smul, smul_mul_assoc, smul_mul_smul_comm, mul_smul_comm, mul_inv]

/-- The stored angles are those of the three turns that take every vector where the reported orientation takes it. -/
theorem attitude_iff {roll pitch yaw : ℝ} (angles : Angles roll pitch yaw) :
    processed exactMath imuDataRaw = #v[-pitch, roll, yaw, imuDataRaw[5], imuDataRaw[3], imuDataRaw[4]] ↔
      ∀ vector,
        reported imuDataRaw * vector * (reported imuDataRaw)⁻¹ = turned (orientation roll pitch yaw) vector := by
  have unit := computeQuaternions_unit large
  rw [processed, processImu_iff unit angles]
  simp only [← computeQuaternions_turned large]
  exact describes_iff unit angles

end Reported

/-- A quarter turn to the left, while the gyroscope reads 1, 2 and 3. -/
def quarterTurn : Vector ℝ imuRawSize :=
  #v[0, 0, 0, 1, 2, 3, 0, 0, Real.sin (Real.pi / 2 / 2), Real.cos (Real.pi / 2 / 2)]

theorem attitude_iff_quarterTurn :
    processed exactMath quarterTurn = #v[-0, 0, Real.pi / 2, 3, 1, 2] := by
  have same : reported quarterTurn = orientation 0 0 (Real.pi / 2) := by
    apply Quaternion.ext
    · rw [orientation_re]
      simp [reported, quarterTurn]
    · rw [orientation_imI]
      simp [reported, quarterTurn]
    · rw [orientation_imJ]
      simp [reported, quarterTurn]
    · rw [orientation_imK]
      simp [reported, quarterTurn]
  have unit := orientation_normSq 0 0 (Real.pi / 2)
  have norm : ‖reported quarterTurn‖ = 1 := by
    have square := Quaternion.normSq_eq_norm_mul_self (reported quarterTurn)
    rw [same, unit] at square
    rw [same]
    nlinarith [norm_nonneg (orientation 0 0 (Real.pi / 2))]
  have positive := Real.pi_pos
  have angles : Angles 0 0 (Real.pi / 2) :=
    ⟨⟨by linarith, by linarith⟩, ⟨by linarith, by linarith⟩, ⟨by linarith, by linarith⟩⟩
  refine (attitude_iff (by rw [norm]; norm_num) angles).mpr fun vector => ?_
  rw [same, turned, Quaternion.inv_def, unit, inv_one, one_smul]

end

end TvcHopper.Vehicle
