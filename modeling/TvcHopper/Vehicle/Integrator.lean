import TvcHopper.Vehicle.Throttle

/-! The integrator of the altitude error.

It is limited by its own maximum. It is to rest while the motor is at the
configured maximum, but the throttle, a number around one, is compared with the
maximum in microseconds.
-/

set_option autoImplicit false

namespace TvcHopper.Vehicle
open Machine

/-! ## One step -/

/-- The throttle is at the configured maximum. -/
def Saturated (control : HoverControl) : Prop := control.throttleLimit ≤ control.throttle

/-- A step that starts with a saturated throttle does not add to the integral. -/
def RestsSaturated (flight : MotorFlight) : FlightAction → Prop
  | .write _ _ => True
  | .step readings =>
    Saturated flight.control →
      (executeControlStep flight.control readings).1.errorZint ≤ flight.control.errorZint

/-- A step with a saturated throttle finds a maximum in microseconds that the throttle is not below, no altitude to
climb, or an integral that is at its maximum. -/
def FindsNothingToAdd (flight : MotorFlight) : FlightAction → Prop
  | .write _ _ => True
  | .step readings =>
    Saturated flight.control →
      flight.control.escMaxOutput ≤ flight.control.throttle ∨ altitudeError flight.control readings ≤ 0 ∨
        Standing flight.control readings ∨ flight.control.errorZint = flight.control.maxZInt

instance (control : HoverControl) : Decidable (Saturated control) := inferInstanceAs (Decidable (_ ≤ _))

instance (control : HoverControl) (readings : Readings) : Decidable (Standing control readings) :=
  inferInstanceAs (Decidable (_ ∧ _))

instance (flight : MotorFlight) (action : FlightAction) : Decidable (RestsSaturated flight action) :=
  match action with
  | .write _ _ => .isTrue trivial
  | .step _ => inferInstanceAs (Decidable (_ → _))

instance (flight : MotorFlight) (action : FlightAction) : Decidable (FindsNothingToAdd flight action) :=
  match action with
  | .write _ _ => .isTrue trivial
  | .step _ => inferInstanceAs (Decidable (_ → _))

/-- The maximum of the integral is not written. -/
def KeepsMaxZint : FlightAction → Prop
  | .write id _ => id ≠ propMaxZintId
  | .step _ => True

structure IntegralInRange (maximum : ℚ) (control : HoverControl) : Prop where
  nonneg : 0 ≤ control.errorZint
  below : control.errorZint ≤ maximum
  kept : control.maxZInt = maximum

section Steps
variable {control : HoverControl} {flight flight' : MotorFlight} {action : FlightAction}
  {programmed : Option ProgrammedPulse} {maximum : ℚ}

theorem statusFound_stationary (control : HoverControl) (readings : Readings) :
    statusFound control readings = .stationary ↔ Standing control readings := by
  have ref : (readState control readings).ref = control.ref := rfl
  have lidarZero : (readState control readings).lidarZero = control.lidarZero := rfl
  unfold statusFound setStatus Standing
  rw [ref, lidarZero]
  split_ifs with landing near close low
  all_goals simp_all

theorem adjustZError_nonpos_iff (status : HovctrlStatus) (errorZ : ℚ) :
    adjustZError status errorZ ≤ 0 ↔ errorZ ≤ 0 ∨ status = .stationary := by
  cases status with
  | stationary => simp [adjustZError]
  | takeoff | flying => simp [adjustZError]
  | landingClose | landingFar =>
    simp only [adjustZError, reduceCtorEq, or_false]
    rw [← not_lt, ← not_lt]
    exact not_congr (mul_pos_iff_of_pos_right (by norm_num))

theorem computeZInt_inRange (maximum : 0 ≤ control.maxZInt) (errorZ : ℚ) :
    0 ≤ (computeZInt control errorZ).errorZint ∧ (computeZInt control errorZ).errorZint ≤ control.maxZInt := by
  simp only [computeZInt, limit_eq]
  exact clamp_of_le maximum _

theorem computeZInt_le_iff (inRange : IntegralInRange maximum control) (errorZ : ℚ) :
    (computeZInt control errorZ).errorZint ≤ control.errorZint ↔ errorZ ≤ 0 ∨ control.errorZint = control.maxZInt := by
  simp only [computeZInt, limit_eq]
  rw [clamp_le_iff inRange.nonneg (inRange.below.trans_eq inRange.kept.symm)]
  refine or_congr_left ?_
  split
  · next falling =>
    refine iff_of_true ?_ falling.le
    norm_num
    linarith
  · next rising =>
    norm_num
    constructor <;> intro nonpos <;> linarith

theorem restsSaturated_iff (inRange : IntegralInRange maximum flight.control) (action : FlightAction) :
    RestsSaturated flight action ↔ FindsNothingToAdd flight action := by
  cases action with
  | write id value => exact Iff.rfl
  | step readings =>
    refine imp_congr_right fun saturated => ?_
    rw [(executeControlStep_result flight.control readings).errorZint]
    by_cases open' : flight.control.throttle < flight.control.escMaxOutput
    · rw [if_pos open', computeZInt_le_iff inRange, adjustZError_nonpos_iff, statusFound_stationary, or_assoc,
        or_iff_right (not_le.mpr open')]
    · rw [if_neg open']
      exact iff_of_true (le_refl _) (.inl (not_lt.mp open'))

theorem IntegralInRange.step (inRange : IntegralInRange maximum flight.control) (keeps : KeepsMaxZint action)
    (done : fly flight action = .ok (flight', programmed)) : IntegralInRange maximum flight'.control := by
  cases action with
  | write id value =>
    obtain ⟨frame, -, -⟩ := fly_write done
    rw [KeepsMaxZint] at keeps
    have kept := frame.maxZInt.trans (if_neg keeps)
    exact ⟨frame.errorZint ▸ inRange.nonneg, frame.errorZint ▸ inRange.below, kept.trans inRange.kept⟩
  | step readings =>
    obtain ⟨pulse, -, result, -, -⟩ := fly_step done
    have kept : flight'.control.maxZInt = flight.control.maxZInt := congrArg Tuning.maxZInt result.tuning
    have room : 0 ≤ flight.control.maxZInt := inRange.kept ▸ inRange.nonneg.trans inRange.below
    suffices between : 0 ≤ flight'.control.errorZint ∧ flight'.control.errorZint ≤ flight.control.maxZInt from
      ⟨between.1, inRange.kept ▸ between.2, kept.trans inRange.kept⟩
    rw [result.errorZint]
    split
    · exact computeZInt_inRange room _
    · exact ⟨inRange.nonneg, inRange.below.trans_eq inRange.kept.symm⟩

/-- With rates between zero and one the comparison never stops the integrator. -/
theorem throttle_lt_escMaxOutput (tame : Tame control)
    (range : 1000 ≤ control.escMaxOutput) : control.throttle < control.escMaxOutput := by
  have limit : control.throttleLimit < control.escMaxOutput := by
    rw [HoverControl.throttleLimit]
    linarith
  exact tame.throttle.trans_lt (max_lt (by linarith) limit)

end Steps

/-! ## Whole flights -/

theorem everyState_inRange {maximum : ℚ} {flight : MotorFlight} {actions : List FlightAction}
    (start : IntegralInRange maximum flight.control) (keeps : ∀ action ∈ actions, KeepsMaxZint action) :
    EveryState fly (fun flight => IntegralInRange maximum flight.control) flight actions :=
  everyState_of_invariant (fun flight _ _ _ (inRange : IntegralInRange maximum flight.control) kept done =>
    inRange.step kept done) start keeps

/-- The integral stays in its range, and rests while the throttle is saturated exactly when every such step finds
nothing to add. -/
theorem integral_rests_iff (control : HoverControl) (servoPositions : Vector ℚ 4) (zero : Readings) (esc : HwEsc)
    (maximum : 0 ≤ control.maxZInt) {actions : List FlightAction} (keeps : ∀ action ∈ actions, KeepsMaxZint action) :
    EveryState fly (fun flight => IntegralInRange control.maxZInt flight.control)
        (takeOff control servoPositions zero esc) actions ∧
      (EveryStep fly RestsSaturated (takeOff control servoPositions zero esc) actions ↔
        EveryStep fly FindsNothingToAdd (takeOff control servoPositions zero esc) actions) := by
  have start : IntegralInRange control.maxZInt (takeOff control servoPositions zero esc).control :=
    ⟨le_refl _, maximum, rfl⟩
  exact ⟨everyState_inRange start keeps,
    everyStep_iff (fun _ action _ _ inRange _ _ => restsSaturated_iff inRange action)
      (fun _ _ _ _ inRange kept _ done => inRange.step kept done) start keeps⟩

/-- The motor is at its lowest limit, and the vehicle stands. -/
theorem integral_rests_on_ground :
    EveryState fly (fun flight => IntegralInRange 50 flight.control)
        (takeOff hoverControlInit (.replicate _ 90) level (hwEscInit staticEsc))
        [.write propMaxEscOutId ⟨0, fun _ => 1000⟩, .step level] ∧
      (EveryStep fly RestsSaturated (takeOff hoverControlInit (.replicate _ 90) level (hwEscInit staticEsc))
          [.write propMaxEscOutId ⟨0, fun _ => 1000⟩, .step level] ↔
        EveryStep fly FindsNothingToAdd (takeOff hoverControlInit (.replicate _ 90) level (hwEscInit staticEsc))
          [.write propMaxEscOutId ⟨0, fun _ => 1000⟩, .step level]) ∧
      EveryStep fly FindsNothingToAdd (takeOff hoverControlInit (.replicate _ 90) level (hwEscInit staticEsc))
        [.write propMaxEscOutId ⟨0, fun _ => 1000⟩, .step level] := by
  have other : propMaxEscOutId ≠ propMaxZintId := by decide
  obtain ⟨inRange, same⟩ := @integral_rests_iff hoverControlInit (.replicate _ 90) level (hwEscInit staticEsc)
    (by decide) [.write propMaxEscOutId ⟨0, fun _ => 1000⟩, .step level] (by simp [KeepsMaxZint, other])
  exact ⟨inRange, same, by decide +kernel⟩

/-- A maximum that is not enough for the way to a height of one metre. -/
def slowClimb : List FlightAction :=
  [.write propMaxEscOutId ⟨0, fun _ => 1300⟩, .write propTargetPositionId ⟨0, fun _ => 1⟩, .step level]

/-- The throttle is at 0.3, its limit, and the next step adds to the integral. -/
theorem integral_winds_up :
    (∃ flight outputs, run fly (takeOff hoverControlInit (.replicate _ 90) level (hwEscInit staticEsc)) slowClimb =
        .ok (flight, outputs) ∧
      flight.control.throttle = 0.3 ∧ flight.control.throttleLimit = 0.3 ∧ flight.control.errorZint = 0.005 ∧
        (executeControlStep flight.control level).1.errorZint = 0.01) ∧
      ¬EveryStep fly RestsSaturated (takeOff hoverControlInit (.replicate _ 90) level (hwEscInit staticEsc))
        (slowClimb ++ [.step level]) := by
  constructor
  · obtain ⟨flight, outputs, done, reached⟩ := run_checked fly
      (takeOff hoverControlInit (.replicate _ 90) level (hwEscInit staticEsc)) slowClimb
      (fun flight _ => decide (flight.control.throttle = 0.3 ∧ flight.control.throttleLimit = 0.3 ∧
        flight.control.errorZint = 0.005 ∧ (executeControlStep flight.control level).1.errorZint = 0.01))
      (by decide +kernel)
    exact ⟨flight, outputs, done, of_decide_eq_true reached⟩
  · decide +kernel

end TvcHopper.Vehicle
