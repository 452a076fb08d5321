import Mathlib.Algebra.Quaternion
import Mathlib.Analysis.SpecialFunctions.Complex.Arg
import Mathlib.Analysis.SpecialFunctions.Trigonometric.Inverse

/-! Orientations as three turns: roll around the x axis, then pitch around the y axis, then yaw around the z axis.

A unit quaternion is described by the sines and cosines of the angles. Away from
the poles, where the x axis points up or down, every orientation has exactly one
description, and the description says where the orientation takes every vector.
-/

set_option autoImplicit false

namespace TvcHopper.Machine
open Real

noncomputable section

/-- The turn by an angle around an axis. -/
def turnX (angle : ℝ) : Quaternion ℝ := ⟨cos (angle / (2 : ℕ)), sin (angle / (2 : ℕ)), 0, 0⟩
def turnY (angle : ℝ) : Quaternion ℝ := ⟨cos (angle / (2 : ℕ)), 0, sin (angle / (2 : ℕ)), 0⟩
def turnZ (angle : ℝ) : Quaternion ℝ := ⟨cos (angle / (2 : ℕ)), 0, 0, sin (angle / (2 : ℕ))⟩

def orientation (roll pitch yaw : ℝ) : Quaternion ℝ := turnZ yaw * turnY pitch * turnX roll

/-- Where a unit quaternion takes a vector. -/
def turned (q vector : Quaternion ℝ) : Quaternion ℝ := q * vector * star q

/-- Angles in their ranges, with the x axis away from the poles. -/
structure Angles (roll pitch yaw : ℝ) : Prop where
  roll : roll ∈ Set.Ioc (-π) π
  pitch : pitch ∈ Set.Ioo (-(π / 2)) (π / 2)
  yaw : yaw ∈ Set.Ioc (-π) π

/-- How far a quaternion turns the x axis down. -/
def pitchSine (q : Quaternion ℝ) : ℝ := (2 : ℕ) * (q.re * q.imJ - q.imK * q.imI)

theorem pitchSine_eq (q : Quaternion ℝ) : pitchSine q = 2 * (q.re * q.imJ - q.imK * q.imI) := by
  rw [pitchSine, Nat.cast_ofNat]

structure Describes (q : Quaternion ℝ) (roll pitch yaw : ℝ) : Prop where
  pitchSin : pitchSine q = sin pitch
  rollSin : 2 * (q.re * q.imI + q.imJ * q.imK) = cos pitch * sin roll
  rollCos : 1 - 2 * (q.imI * q.imI + q.imJ * q.imJ) = cos pitch * cos roll
  yawSin : 2 * (q.re * q.imK + q.imI * q.imJ) = cos pitch * sin yaw
  yawCos : 1 - 2 * (q.imJ * q.imJ + q.imK * q.imK) = cos pitch * cos yaw

theorem cos_half (angle : ℝ) : cos angle = cos (angle / 2) ^ 2 - sin (angle / 2) ^ 2 := by
  rw [← cos_two_mul', mul_div_cancel₀ angle two_ne_zero]

theorem sin_half (angle : ℝ) : sin angle = 2 * sin (angle / 2) * cos (angle / 2) := by
  rw [← sin_two_mul, mul_div_cancel₀ angle two_ne_zero]

/-! ## The description of three turns -/

section Orientation
variable (roll pitch yaw : ℝ)

theorem orientation_re : (orientation roll pitch yaw).re =
    cos (yaw / 2) * cos (pitch / 2) * cos (roll / 2) + sin (yaw / 2) * sin (pitch / 2) * sin (roll / 2) := by
  simp only [orientation, Quaternion.re_mul, Quaternion.imI_mul, Quaternion.imJ_mul, Quaternion.imK_mul]
  simp only [turnX, turnY, turnZ, Nat.cast_ofNat]
  ring

theorem orientation_imI : (orientation roll pitch yaw).imI =
    cos (yaw / 2) * cos (pitch / 2) * sin (roll / 2) - sin (yaw / 2) * sin (pitch / 2) * cos (roll / 2) := by
  simp only [orientation, Quaternion.re_mul, Quaternion.imI_mul, Quaternion.imJ_mul, Quaternion.imK_mul]
  simp only [turnX, turnY, turnZ, Nat.cast_ofNat]
  ring

theorem orientation_imJ : (orientation roll pitch yaw).imJ =
    cos (yaw / 2) * sin (pitch / 2) * cos (roll / 2) + sin (yaw / 2) * cos (pitch / 2) * sin (roll / 2) := by
  simp only [orientation, Quaternion.re_mul, Quaternion.imI_mul, Quaternion.imJ_mul, Quaternion.imK_mul]
  simp only [turnX, turnY, turnZ, Nat.cast_ofNat]
  ring

theorem orientation_imK : (orientation roll pitch yaw).imK =
    sin (yaw / 2) * cos (pitch / 2) * cos (roll / 2) - cos (yaw / 2) * sin (pitch / 2) * sin (roll / 2) := by
  simp only [orientation, Quaternion.re_mul, Quaternion.imI_mul, Quaternion.imJ_mul, Quaternion.imK_mul]
  simp only [turnX, turnY, turnZ, Nat.cast_ofNat]
  ring

theorem orientation_normSq : Quaternion.normSq (orientation roll pitch yaw) = 1 := by
  have turn : ∀ angle, cos (angle / 2) ^ 2 + sin (angle / 2) ^ 2 = 1 := fun angle => cos_sq_add_sin_sq _
  have x : Quaternion.normSq (turnX roll) = 1 := by
    rw [Quaternion.normSq_def']
    simp [turnX, turn]
  have y : Quaternion.normSq (turnY pitch) = 1 := by
    rw [Quaternion.normSq_def']
    simp [turnY, turn]
  have z : Quaternion.normSq (turnZ yaw) = 1 := by
    rw [Quaternion.normSq_def']
    simp [turnZ, turn]
  rw [orientation, map_mul, map_mul, x, y, z]
  norm_num

theorem describes_orientation : Describes (orientation roll pitch yaw) roll pitch yaw := by
  have rollOne := cos_sq_add_sin_sq (roll / 2)
  have pitchOne := cos_sq_add_sin_sq (pitch / 2)
  have yawOne := cos_sq_add_sin_sq (yaw / 2)
  have one := orientation_normSq roll pitch yaw
  rw [Quaternion.normSq_def'] at one
  constructor
  all_goals
    simp only [pitchSine_eq, orientation_re, orientation_imI, orientation_imJ, orientation_imK, cos_half roll,
      cos_half pitch, cos_half yaw, sin_half roll, sin_half pitch, sin_half yaw] at one ⊢
  · linear_combination
      (2 * sin (pitch / 2) * cos (pitch / 2)) * ((cos (yaw / 2) ^ 2 + sin (yaw / 2) ^ 2) * rollOne + yawOne)
  · linear_combination
      (cos (pitch / 2) ^ 2 - sin (pitch / 2) ^ 2) * (2 * sin (roll / 2) * cos (roll / 2)) * yawOne
  · linear_combination -one +
      (cos (pitch / 2) ^ 2 - sin (pitch / 2) ^ 2) * (cos (roll / 2) ^ 2 - sin (roll / 2) ^ 2) * yawOne
  · linear_combination
      (cos (pitch / 2) ^ 2 - sin (pitch / 2) ^ 2) * (2 * sin (yaw / 2) * cos (yaw / 2)) * rollOne
  · linear_combination -one +
      (cos (pitch / 2) ^ 2 - sin (pitch / 2) ^ 2) * (cos (yaw / 2) ^ 2 - sin (yaw / 2) ^ 2) * rollOne

end Orientation

/-! ## Every orientation away from the poles is described -/

section Unit
variable {q q' : Quaternion ℝ} {roll pitch yaw : ℝ}

theorem unit_rollCos (unit : Quaternion.normSq q = 1) :
    1 - 2 * (q.imI * q.imI + q.imJ * q.imJ) = q.re ^ 2 + q.imK ^ 2 - q.imI ^ 2 - q.imJ ^ 2 := by
  rw [Quaternion.normSq_def'] at unit
  linear_combination -unit

theorem unit_yawCos (unit : Quaternion.normSq q = 1) :
    1 - 2 * (q.imJ * q.imJ + q.imK * q.imK) = q.re ^ 2 + q.imI ^ 2 - q.imJ ^ 2 - q.imK ^ 2 := by
  rw [Quaternion.normSq_def'] at unit
  linear_combination -unit

theorem unit_roll (unit : Quaternion.normSq q = 1) :
    (2 * (q.re * q.imI + q.imJ * q.imK)) ^ 2 + (1 - 2 * (q.imI * q.imI + q.imJ * q.imJ)) ^ 2 =
      1 - pitchSine q ^ 2 := by
  rw [unit_rollCos unit, pitchSine_eq]
  rw [Quaternion.normSq_def'] at unit
  linear_combination (q.re ^ 2 + q.imI ^ 2 + q.imJ ^ 2 + q.imK ^ 2 + 1) * unit

theorem unit_yaw (unit : Quaternion.normSq q = 1) :
    (2 * (q.re * q.imK + q.imI * q.imJ)) ^ 2 + (1 - 2 * (q.imJ * q.imJ + q.imK * q.imK)) ^ 2 =
      1 - pitchSine q ^ 2 := by
  rw [unit_yawCos unit, pitchSine_eq]
  rw [Quaternion.normSq_def'] at unit
  linear_combination (q.re ^ 2 + q.imI ^ 2 + q.imJ ^ 2 + q.imK ^ 2 + 1) * unit

theorem unit_pitchSine (unit : Quaternion.normSq q = 1) : pitchSine q ^ 2 ≤ 1 := by
  have squares := unit_roll unit
  have first := sq_nonneg (2 * (q.re * q.imI + q.imJ * q.imK))
  have second := sq_nonneg (1 - 2 * (q.imI * q.imI + q.imJ * q.imJ))
  linarith

theorem polar {sine cosine radius : ℝ} (positive : 0 ≤ radius) (square : sine ^ 2 + cosine ^ 2 = radius ^ 2) :
    sine = radius * sin (Complex.arg ⟨cosine, sine⟩) ∧ cosine = radius * cos (Complex.arg ⟨cosine, sine⟩) := by
  have norm : ‖(⟨cosine, sine⟩ : ℂ)‖ = radius := by
    rw [Complex.norm_eq_sqrt_sq_add_sq, add_comm, square, sqrt_sq positive]
  rw [← norm]
  exact ⟨(Complex.norm_mul_sin_arg ⟨cosine, sine⟩).symm, (Complex.norm_mul_cos_arg ⟨cosine, sine⟩).symm⟩

theorem describes_exists (unit : Quaternion.normSq q = 1) (away : pitchSine q ^ 2 ≠ 1) :
    ∃ roll pitch yaw, Angles roll pitch yaw ∧ Describes q roll pitch yaw := by
  have below := lt_of_le_of_ne (unit_pitchSine unit) away
  obtain ⟨low, high⟩ := abs_lt.mp ((sq_lt_one_iff_abs_lt_one _).mp below)
  have sine : sin (arcsin (pitchSine q)) = pitchSine q := sin_arcsin low.le high.le
  have square : cos (arcsin (pitchSine q)) ^ 2 = 1 - pitchSine q ^ 2 := by rw [cos_sq', sine]
  have range := cos_arcsin_nonneg (pitchSine q)
  obtain ⟨rollSin, rollCos⟩ := polar range ((unit_roll unit).trans square.symm)
  obtain ⟨yawSin, yawCos⟩ := polar range ((unit_yaw unit).trans square.symm)
  refine ⟨_, arcsin (pitchSine q), _, ⟨Complex.arg_mem_Ioc _, ⟨?_, ?_⟩, Complex.arg_mem_Ioc _⟩,
    ⟨sine.symm, rollSin, rollCos, yawSin, yawCos⟩⟩
  · exact neg_pi_div_two_lt_arcsin.mpr low
  · exact arcsin_lt_pi_div_two.mpr high

/-- The coordinates of the turned axes that the description does not name. -/
structure Axes (q : Quaternion ℝ) (roll pitch yaw : ℝ) : Prop where
  xy : 2 * (q.imI * q.imJ - q.re * q.imK) = cos yaw * sin pitch * sin roll - sin yaw * cos roll
  xz : 2 * (q.imI * q.imK + q.re * q.imJ) = cos yaw * sin pitch * cos roll + sin yaw * sin roll
  yy : q.re ^ 2 + q.imJ ^ 2 - q.imI ^ 2 - q.imK ^ 2 = sin yaw * sin pitch * sin roll + cos yaw * cos roll
  yz : 2 * (q.imJ * q.imK - q.re * q.imI) = sin yaw * sin pitch * cos roll - cos yaw * sin roll

/-- The axes are a frame: scaled, each of these coordinates is made of the others. -/
theorem frame_scaled {w x y z : ℝ} (unit : w ^ 2 + x ^ 2 + y ^ 2 + z ^ 2 = 1) :
    let down := 2 * (w * y - z * x)
    let rollSin := 2 * (w * x + y * z)
    let rollCos := w ^ 2 + z ^ 2 - x ^ 2 - y ^ 2
    let yawSin := 2 * (w * z + x * y)
    let yawCos := w ^ 2 + x ^ 2 - y ^ 2 - z ^ 2
    2 * (x * y - w * z) * (1 - down ^ 2) = yawCos * down * rollSin - yawSin * rollCos ∧
      2 * (x * z + w * y) * (1 - down ^ 2) = yawCos * down * rollCos + yawSin * rollSin ∧
      (w ^ 2 + y ^ 2 - x ^ 2 - z ^ 2) * (1 - down ^ 2) = yawSin * down * rollSin + yawCos * rollCos ∧
      2 * (y * z - w * x) * (1 - down ^ 2) = yawSin * down * rollCos - yawCos * rollSin := by
  intro down rollSin rollCos yawSin yawCos
  simp only [down, rollSin, rollCos, yawSin, yawCos]
  refine ⟨?_, ?_, ?_, ?_⟩
  · linear_combination (-(2 * (x * y - w * z)) * (w ^ 2 + x ^ 2 + y ^ 2 + z ^ 2 + 1) -
      2 * (w * z + x * y) * (w ^ 2 + z ^ 2 - x ^ 2 - y ^ 2)) * unit
  · linear_combination (-(2 * (x * z + w * y)) * (w ^ 2 + x ^ 2 + y ^ 2 + z ^ 2 + 1) +
      2 * (w * z + x * y) * (2 * (w * x + y * z))) * unit
  · linear_combination (-(w ^ 2 + y ^ 2 - x ^ 2 - z ^ 2) * (w ^ 2 + x ^ 2 + y ^ 2 + z ^ 2 + 1) +
      (w ^ 2 + x ^ 2 - y ^ 2 - z ^ 2) * (w ^ 2 + z ^ 2 - x ^ 2 - y ^ 2)) * unit
  · linear_combination (-(2 * (y * z - w * x)) * (w ^ 2 + x ^ 2 + y ^ 2 + z ^ 2 + 1) -
      (w ^ 2 + x ^ 2 - y ^ 2 - z ^ 2) * (2 * (w * x + y * z))) * unit

theorem Describes.axes (described : Describes q roll pitch yaw) (unit : Quaternion.normSq q = 1)
    (cosine : cos pitch ≠ 0) : Axes q roll pitch yaw := by
  obtain ⟨pitchSin, rollSin, rollCos, yawSin, yawCos⟩ := described
  rw [unit_rollCos unit] at rollCos
  rw [unit_yawCos unit] at yawCos
  rw [Quaternion.normSq_def'] at unit
  rw [pitchSine_eq] at pitchSin
  obtain ⟨xy, xz, yy, yz⟩ := frame_scaled unit
  simp only [pitchSin, rollSin, rollCos, yawSin, yawCos, ← cos_sq'] at xy xz yy yz
  have cancel : ∀ {entry value : ℝ}, entry * cos pitch ^ 2 = value * cos pitch ^ 2 → entry = value :=
    fun same => mul_right_cancel₀ (pow_ne_zero 2 cosine) same
  constructor
  · exact cancel (xy.trans (by ring))
  · exact cancel (xz.trans (by ring))
  · exact cancel (yy.trans (by ring))
  · exact cancel (yz.trans (by ring))

theorem turned_re (vector : Quaternion ℝ) : (turned q vector).re = Quaternion.normSq q * vector.re := by
  simp only [turned, Quaternion.normSq_def', Quaternion.re_mul, Quaternion.imI_mul, Quaternion.imJ_mul,
    Quaternion.imK_mul, Quaternion.re_star, Quaternion.imI_star, Quaternion.imJ_star, Quaternion.imK_star]
  ring

theorem turned_imI (vector : Quaternion ℝ) : (turned q vector).imI =
    (q.re ^ 2 + q.imI ^ 2 - q.imJ ^ 2 - q.imK ^ 2) * vector.imI +
      2 * (q.imI * q.imJ - q.re * q.imK) * vector.imJ + 2 * (q.imI * q.imK + q.re * q.imJ) * vector.imK := by
  simp only [turned, Quaternion.re_mul, Quaternion.imI_mul, Quaternion.imJ_mul, Quaternion.imK_mul,
    Quaternion.re_star, Quaternion.imI_star, Quaternion.imJ_star, Quaternion.imK_star]
  ring

theorem turned_imJ (vector : Quaternion ℝ) : (turned q vector).imJ =
    2 * (q.re * q.imK + q.imI * q.imJ) * vector.imI +
      (q.re ^ 2 + q.imJ ^ 2 - q.imI ^ 2 - q.imK ^ 2) * vector.imJ +
      2 * (q.imJ * q.imK - q.re * q.imI) * vector.imK := by
  simp only [turned, Quaternion.re_mul, Quaternion.imI_mul, Quaternion.imJ_mul, Quaternion.imK_mul,
    Quaternion.re_star, Quaternion.imI_star, Quaternion.imJ_star, Quaternion.imK_star]
  ring

theorem turned_imK (vector : Quaternion ℝ) : (turned q vector).imK =
    -pitchSine q * vector.imI + 2 * (q.re * q.imI + q.imJ * q.imK) * vector.imJ +
      (q.re ^ 2 + q.imK ^ 2 - q.imI ^ 2 - q.imJ ^ 2) * vector.imK := by
  simp only [turned, pitchSine_eq, Quaternion.re_mul, Quaternion.imI_mul, Quaternion.imJ_mul, Quaternion.imK_mul,
    Quaternion.re_star, Quaternion.imI_star, Quaternion.imJ_star, Quaternion.imK_star]
  ring

theorem turned_eq (unit : Quaternion.normSq q = 1) (unit' : Quaternion.normSq q' = 1)
    (cosine : cos pitch ≠ 0) (described : Describes q roll pitch yaw) (described' : Describes q' roll pitch yaw)
    (vector : Quaternion ℝ) : turned q vector = turned q' vector := by
  have axes := described.axes unit cosine
  have axes' := described'.axes unit' cosine
  apply Quaternion.ext
  · rw [turned_re, turned_re, unit, unit']
  · rw [turned_imI, turned_imI, ← unit_yawCos unit, ← unit_yawCos unit', described.yawCos, described'.yawCos,
      axes.xy, axes'.xy, axes.xz, axes'.xz]
  · rw [turned_imJ, turned_imJ, described.yawSin, described'.yawSin, axes.yy, axes'.yy, axes.yz, axes'.yz]
  · rw [turned_imK, turned_imK, described.pitchSin, described'.pitchSin, described.rollSin, described'.rollSin,
      ← unit_rollCos unit, ← unit_rollCos unit', described.rollCos, described'.rollCos]

theorem Describes.of_turned (unit : Quaternion.normSq q = 1) (unit' : Quaternion.normSq q' = 1)
    (same : ∀ vector, turned q vector = turned q' vector) (described : Describes q' roll pitch yaw) :
    Describes q roll pitch yaw := by
  have coordinates : ∀ vector : Quaternion ℝ, (turned q vector).imI = (turned q' vector).imI ∧
      (turned q vector).imJ = (turned q' vector).imJ ∧ (turned q vector).imK = (turned q' vector).imK := by
    intro vector
    rw [same vector]
    exact ⟨rfl, rfl, rfl⟩
  simp only [turned_imI, turned_imJ, turned_imK] at coordinates
  obtain ⟨xx, xy, xz⟩ := coordinates ⟨0, 1, 0, 0⟩
  obtain ⟨-, -, yz⟩ := coordinates ⟨0, 0, 1, 0⟩
  obtain ⟨-, -, zz⟩ := coordinates ⟨0, 0, 0, 1⟩
  simp only [mul_one, mul_zero, add_zero, zero_add] at xx xy xz yz zz
  constructor
  · rw [neg_injective xz, described.pitchSin]
  · rw [yz, described.rollSin]
  · rw [unit_rollCos unit, zz, ← unit_rollCos unit', described.rollCos]
  · rw [xy, described.yawSin]
  · rw [unit_yawCos unit, xx, ← unit_yawCos unit', described.yawCos]

/-- Away from the poles, angles describe a quaternion if their turns take every vector where it takes it. -/
theorem describes_iff (unit : Quaternion.normSq q = 1) (angles : Angles roll pitch yaw) :
    Describes q roll pitch yaw ↔ ∀ vector, turned q vector = turned (orientation roll pitch yaw) vector := by
  have unit' := orientation_normSq roll pitch yaw
  have described' := describes_orientation roll pitch yaw
  constructor
  · intro described vector
    exact turned_eq unit unit' (cos_pos_of_mem_Ioo angles.pitch).ne' described described' vector
  · intro same
    exact Describes.of_turned unit unit' same described'

end Unit

end

end TvcHopper.Machine
