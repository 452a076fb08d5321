import TvcHopper.Machine.Filters
import TvcHopper.Vehicle.Flights
import TvcHopper.Vehicle.Gains

/-! What a control step leaves, in terms of the state before it.

The motor input is limited and then filtered with the last one; the integrator
of the altitude is only stopped by a throttle above the limit of the pulse width.
A flight is made of such steps, each with its pulse for the motor, and of
parameters that are written between them.
-/

set_option autoImplicit false

namespace TvcHopper.Vehicle
open Machine

instance (control : HoverControl) (readings : Readings) : Decidable (Flying control readings) :=
  inferInstanceAs (Decidable (_ ∧ _))

theorem rateLimit_eq (last now alpha : ℚ) : rateLimit last now alpha = blend last now alpha := rfl

theorem limit_eq (value low high : ℚ) : limit value low high = clamp value low high := rfl

/-- The rate limit of the motor: it is set again unless the vehicle is flying. -/
def rateInForce (control : HoverControl) (readings : Readings) : ℚ :=
  if Flying control readings then control.escRateLimit else control.escRateLimitNormal

/-! ## The step -/

section Steps
variable (control : HoverControl) (readings : Readings)

theorem readState_altitude : (readState control readings).currState[stateIdxZ] = altitude control readings := by
  simp [readState, computeVz, altitude]

/-- All that later steps and the motor get from a step. -/
structure StepResult (control' : HoverControl) (pulse : ℚ) : Prop where
  throttle : control'.throttle =
    rateLimit control.throttle (limit (throttleAsked control readings) 0 control.throttleLimit)
      (rateInForce control readings)
  pulse : pulse = control'.throttle / 0.001 + 1000
  errorZint : control'.errorZint =
    if control.throttle < control.escMaxOutput then
      (computeZInt control (adjustZError (statusFound control readings) (altitudeError control readings))).errorZint
    else control.errorZint
  tuning : control'.tuning = control.tuning
  escRateLimit : control'.escRateLimit = rateInForce control readings

theorem controlError_errorZint : (controlError (readState control readings) readings.tickCount).1.errorZint =
    if control.throttle < control.escMaxOutput then
      (computeZInt control (adjustZError (statusFound control readings) (altitudeError control readings))).errorZint
    else control.errorZint := by
  have error : (computeError (readState control readings).ref (readState control readings).currState)[stateIdxZ] =
      altitudeError control readings := by
    have filtered := readState_altitude control readings
    simp only [computeError, Vector.getElem_ofFn, altitudeError, ← filtered]
    rfl
  have frame := (setStatus_frame (readState control readings) (altitudeError control readings) readings.tickCount).1
  have throttle : (setStatus (readState control readings) (altitudeError control readings)
      readings.tickCount).actuatorInputLast[actuatorIdxEsc] = control.throttle := frame.throttle
  have limit : (setStatus (readState control readings) (altitudeError control readings)
      readings.tickCount).escMaxOutput = control.escMaxOutput := frame.escMaxOutput
  unfold controlError
  simp only [error, Vector.getElem_set_self, throttle, limit]
  split
  · simp only [computeZInt, frame.errorZint, frame.maxZInt]
    rfl
  · exact frame.errorZint

theorem setStatus_tuning (errorZ : ℚ) (tickCount : UInt32) :
    (setStatus control errorZ tickCount).tuning = control.tuning := by
  unfold setStatus
  split_ifs
  all_goals rfl

theorem controlError_tuning (tickCount : UInt32) : (controlError control tickCount).1.tuning = control.tuning := by
  have kept := setStatus_tuning control (computeError control.ref control.currState)[stateIdxZ] tickCount
  unfold controlError
  simp only
  split
  · exact kept
  · exact kept

theorem executeControlStep_result :
    StepResult control readings (executeControlStep control readings).1 (executeControlStep control readings).2.2 := by
  have flying := controlError_flying control readings
  have rate := controlError_escRateLimit (readState control readings) readings.tickCount
  have tuning := controlError_tuning (readState control readings) readings.tickCount
  have throttle := (controlError_frame (readState control readings) readings.tickCount).2.1
  have errorZint := controlError_errorZint control readings
  have asked : throttleAsked control readings = (multiplyMatrix control.kHover
    (controlError (readState control readings) readings.tickCount).2)[actuatorIdxEsc] := rfl
  unfold executeControlStep beginControlStep
  generalize controlError (readState control readings) readings.tickCount = seen at *
  obtain ⟨control', error⟩ := seen
  simp only at *
  have gains : control'.kHover = control.kHover := congrArg Tuning.kHover tuning
  have normal : control'.escRateLimitNormal = control.escRateLimitNormal := congrArg Tuning.escRateLimitNormal tuning
  have maximum : control'.escMaxOutput = control.escMaxOutput := congrArg Tuning.escMaxOutput tuning
  have limited : (if control'.hoverStatus ≠ .flying then { control' with escRateLimit := control'.escRateLimitNormal }
      else control') = { control' with escRateLimit := rateInForce control readings } := by
    by_cases here : Flying control readings
    · rw [if_neg (not_not.mpr (flying.mpr here)), rateInForce, if_pos here]
      exact congrArg (fun limit => { control' with escRateLimit := limit }) rate
    · rw [if_pos (mt flying.mp here), rateInForce, if_neg here, normal]
  rw [← gains] at asked
  rw [limited, ← asked]
  exact
    { throttle := by
        simp only [HoverControl.throttle, finishControlStep, escInput, Vector.getElem_ofFn, throttle, maximum]
        rfl
      pulse := by simp [HoverControl.throttle, finishControlStep]
      errorZint := errorZint
      tuning := tuning
      escRateLimit := rfl }

end Steps

/-! ## Flights with the motor -/

structure MotorFlight where
  control : HoverControl
  esc : HwEsc
  deriving DecidableEq

inductive FlightAction where
  | write (id : UInt16) (value : PropertyValue)
  | step (readings : Readings)

/-- The pulse width of a step behind `HwEsc_SetOutput`, with the maximum in force at the step. -/
structure ProgrammedPulse where
  pulseWidthUs : ℚ
  escMaxOutput : ℚ
  deriving DecidableEq

/-- A property that is none of the parameters of the controller changes nothing. -/
def fly (flight : MotorFlight) : FlightAction → Except Fault (MotorFlight × Option ProgrammedPulse)
  | .write id value => do
    let control ← tuneControl flight.control id value
    return ({ flight with control := control.getD flight.control }, none)
  | .step readings =>
    let (control, _, escOutput) := executeControlStep flight.control readings
    let esc := hwUpdatePwm (hwEscSetOutputControlBatch flight.esc escOutput)
    return ({ control, esc }, some ⟨esc.escOutput, flight.control.escMaxOutput⟩)

/-- A flight behind the start command. The lower limit of the motor is where it is defined. -/
def takeOff (control : HoverControl) (servoPositions : Vector ℚ 4) (zero : Readings) (esc : HwEsc) : MotorFlight :=
  ⟨startFlight control servoPositions zero, hwEscSetMax { esc with escMin := staticEsc.escMin } 2000⟩

section Flights
variable {flight flight' : MotorFlight} {programmed : Option ProgrammedPulse} {id : UInt16} {value : PropertyValue}

/-- What later steps keep of the controller when a parameter is written. -/
structure WriteFrame (control control' : HoverControl) (id : UInt16) (value : PropertyValue) : Prop where
  throttle : control'.throttle = control.throttle
  escRateLimit : control'.escRateLimit = control.escRateLimit
  errorZint : control'.errorZint = control.errorZint
  escRateLimitNormal : control'.escRateLimitNormal =
    if id = propZLimNormalId then value.float 0 else control.escRateLimitNormal
  maxZInt : control'.maxZInt = if id = propMaxZintId then value.float 0 else control.maxZInt
  escMaxOutput : control'.escMaxOutput = if id = propMaxEscOutId then value.float 0 else control.escMaxOutput

theorem tuneControl_frame {control : HoverControl} {tuned : Option HoverControl}
    (done : tuneControl control id value = .ok tuned) : WriteFrame control (tuned.getD control) id value := by
  have outcome := tuneControl_outcome control id value
  generalize tuneControl control id value = result at done outcome
  cases outcome with
  | unknown unnamed normal integral maximum =>
    cases done
    exact ⟨rfl, rfl, rfl, (if_neg normal).symm, (if_neg integral).symm, (if_neg maximum).symm⟩
  | gains =>
    rw [hoverControlSetK_eq] at done
    obtain ⟨control', copied, rfl⟩ := map_eq_ok.mp done
    obtain ⟨kHover, -, rfl⟩ := map_eq_ok.mp copied
    exact ⟨rfl, rfl, rfl, rfl, rfl, rfl⟩
  | target | spinup | normal | integral | maximum | pitch | roll =>
    cases done
    exact ⟨rfl, rfl, rfl, rfl, rfl, rfl⟩

theorem fly_write (done : fly flight (.write id value) = .ok (flight', programmed)) :
    WriteFrame flight.control flight'.control id value ∧ flight'.esc = flight.esc ∧ programmed = none := by
  simp only [fly, bind_eq_ok, pure_eq_ok, Except.ok.injEq, Prod.mk.injEq] at done
  obtain ⟨tuned, written, rfl, rfl⟩ := done
  exact ⟨tuneControl_frame written, rfl, rfl⟩

theorem fly_step {readings : Readings} (done : fly flight (.step readings) = .ok (flight', programmed)) :
    ∃ pulse, programmed = some ⟨limitPulse flight.esc pulse, flight.control.escMaxOutput⟩ ∧
      StepResult flight.control readings flight'.control pulse ∧
      flight'.esc.escMin = flight.esc.escMin ∧ flight'.esc.escMax = flight.esc.escMax := by
  cases done
  exact ⟨_, rfl, executeControlStep_result flight.control readings, rfl, rfl⟩

end Flights

end TvcHopper.Vehicle
