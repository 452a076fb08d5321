import TvcHopper.Vehicle.ControlStep

/-! The configured maximum of the motor.

The motor input is limited by the maximum first and filtered behind it, with a
rate that is not checked. The limiter of `HwEsc_SetOutput` behind the filter has
a maximum of its own.
-/

set_option autoImplicit false

namespace TvcHopper.Vehicle
open Machine

/-! ## One step -/

/-- The limits of the motor in flight. -/
structure MotorStarted (flight : MotorFlight) : Prop where
  escMin : flight.esc.escMin = 1000
  escMax : flight.esc.escMax = 2000

/-- Whatever the gains ask for, the step leaves the throttle below the configured maximum, or the motor itself
does. -/
def StaysBelow (flight : MotorFlight) : FlightAction → Prop
  | .write _ _ => True
  | .step readings =>
    flight.esc.escMax ≤ flight.control.escMaxOutput ∨
      rateLimit flight.control.throttle 0 (rateInForce flight.control readings) ≤
          max 0 flight.control.throttleLimit ∧
        rateLimit flight.control.throttle flight.control.throttleLimit (rateInForce flight.control readings) ≤
          max 0 flight.control.throttleLimit

instance (flight : MotorFlight) (action : FlightAction) : Decidable (StaysBelow flight action) :=
  match action with
  | .write _ _ => .isTrue trivial
  | .step _ => inferInstanceAs (Decidable (_ ∨ _ ∧ _))

section Steps
variable {flight flight' : MotorFlight} {action : FlightAction} {programmed : Option ProgrammedPulse}

theorem takeOff_motor (control : HoverControl) (servoPositions : Vector ℚ 4) (zero : Readings) (esc : HwEsc) :
    MotorStarted (takeOff control servoPositions zero esc) := ⟨rfl, rfl⟩

theorem MotorStarted.step (started : MotorStarted flight) (done : fly flight action = .ok (flight', programmed)) :
    MotorStarted flight' := by
  cases action with
  | write id value =>
    obtain ⟨-, motor, -⟩ := fly_write done
    exact ⟨motor ▸ started.escMin, motor ▸ started.escMax⟩
  | step readings =>
    obtain ⟨_, -, -, low, high⟩ := fly_step done
    exact ⟨low.trans started.escMin, high.trans started.escMax⟩

theorem pulse_le_iff (started : MotorStarted flight) (throttle : ℚ) :
    limitPulse flight.esc (throttle / 0.001 + 1000) ≤ max 1000 flight.control.escMaxOutput ↔
      flight.esc.escMax ≤ flight.control.escMaxOutput ∨ throttle ≤ max 0 flight.control.throttleLimit := by
  have scaled : throttle / 0.001 + 1000 ≤ max 1000 flight.control.escMaxOutput ↔
      throttle ≤ max 0 flight.control.throttleLimit := by
    have microseconds : throttle / 0.001 = throttle * 1000 := by ring
    rw [le_max_iff, le_max_iff, HoverControl.throttleLimit, microseconds]
    exact or_congr (by constructor <;> intro below <;> linarith) (by constructor <;> intro below <;> linarith)
  rw [limitPulse_eq, started.escMin, started.escMax]
  rcases le_or_gt 2000 flight.control.escMaxOutput with wide | narrow
  · have below := (clamp_of_le (by norm_num : (1000 : ℚ) ≤ 2000) (throttle / 0.001 + 1000)).2
    exact iff_of_true (below.trans (wide.trans (le_max_right _ _))) (.inl wide)
  · have inside : max 1000 flight.control.escMaxOutput < 2000 := max_lt (by norm_num) narrow
    rw [clamp_le_iff (le_max_left _ _) inside.le, scaled, or_iff_left inside.ne, or_iff_right (not_le.mpr narrow)]

theorem pulse_of_staysBelow (started : MotorStarted flight) (stays : StaysBelow flight action)
    (done : fly flight action = .ok (flight', programmed)) :
    ∀ pulse ∈ programmed, pulse.pulseWidthUs ≤ max 1000 pulse.escMaxOutput := by
  intro pulse member
  cases action with
  | write id value =>
    obtain ⟨-, -, rfl⟩ := fly_write done
    cases member
  | step readings =>
    obtain ⟨asked, rfl, result, -, -⟩ := fly_step done
    cases member
    rw [result.pulse, pulse_le_iff started]
    refine stays.imp_right fun ends => ?_
    rw [result.throttle, rateLimit_eq, limit_eq]
    exact blend_clamp_le_iff.mpr ends (throttleAsked flight.control readings)

/-! ## A throttle that the gains ask for -/

def rollGain (gain : ℚ) : PropertyValue := ⟨0, fun i => if i = 0 then 4 else if i = 1 then gain else 0⟩

/-- The readings at which the errors of the angles and the rates are one. -/
def rolled (control : HoverControl) (readings : Readings) : Readings :=
  { readings with imu := .ofFn fun i => control.imuZero[i.val]?.getD 0 + control.ref[i.val]?.getD 0 - 1 }

def HoverControl.withRollGain (control : HoverControl) (gain : ℚ) : HoverControl :=
  { control with kHover := storeRow control.kHover 4 (rollGain gain).gains }

theorem tuneControl_rollGain (control : HoverControl) (gain : ℚ) :
    tuneControl control propKMatrixId (rollGain gain) = .ok (some (control.withRollGain gain)) := by
  have number : (rollGain gain).float 0 = ((4 : Fin actuationVectorSize).val : ℚ) := by norm_num [rollGain]
  unfold tuneControl
  rw [if_neg (by decide), if_pos rfl, hoverControlSetK_eq, number, setGains_row]
  rfl

theorem rollGain_entry (kHover : Gains) (gain : ℚ) (i : Fin stateVectorSize) :
    Gains.entry (storeRow kHover 4 (rollGain gain).gains) 4 i = if i = 0 then gain else 0 := by
  have place (matrix : Gains) : matrix.entry 4 i = (row matrix 4)[i] := by
    simp only [Gains.entry, row, Fin.getElem_fin, Vector.getElem_ofFn]
    rfl
  rw [place, row_storeRow_self]
  match i with
  | 0 | 1 | 2 | 3 | 4 | 5 | 6 | 7 | 8 => simp [PropertyValue.gains, rollGain]

theorem rolled_error (control : HoverControl) (readings : Readings) :
    (errorSeen control (rolled control readings))[stateIdxRoll] = 1 := by
  simp [errorSeen, controlError, readState, computeError, computeVz, rolled]
  ring

theorem throttleAsked_rollGain (control : HoverControl) (readings : Readings) (gain : ℚ) :
    throttleAsked (control.withRollGain gain) (rolled control readings) = gain := by
  have places : List.finRange stateVectorSize = [0, 1, 2, 3, 4, 5, 6, 7, 8] := rfl
  have error : (errorSeen (control.withRollGain gain) (rolled control readings))[stateIdxRoll] = 1 :=
    rolled_error (control.withRollGain gain) readings
  have entries (i : Fin stateVectorSize) : (control.withRollGain gain).kHover.entry ⟨actuatorIdxEsc, by decide⟩ i =
      if i = 0 then gain else 0 := rollGain_entry control.kHover gain i
  simp only [throttleAsked, multiplyMatrix, Vector.getElem_ofFn, places, List.foldl_cons, List.foldl_nil, entries]
  simpa using congrArg (gain * ·) error

/-- A step that does not stay below exceeds the maximum for some gains and angles. -/
theorem exceeds_of_not_staysBelow (started : MotorStarted flight) {readings : Readings}
    (exceeds : ¬StaysBelow flight (.step readings)) :
    ∃ gain final pulse,
      run fly flight [.write propKMatrixId (rollGain gain), .step (rolled flight.control readings)] =
        .ok (final, [none, some pulse]) ∧ max 1000 pulse.escMaxOutput < pulse.pulseWidthUs := by
  obtain ⟨narrow, ends⟩ := not_or.mp exceeds
  obtain ⟨gain, beyond⟩ := not_forall.mp (mt blend_clamp_le_iff.mp ends)
  have written : fly flight (.write propKMatrixId (rollGain gain)) =
      .ok ({ flight with control := flight.control.withRollGain gain }, none) := by
    simp only [fly, tuneControl_rollGain]
    rfl
  cases done : fly { flight with control := flight.control.withRollGain gain }
    (.step (rolled flight.control readings)) with
  | error fault => cases done
  | ok reached =>
    obtain ⟨final, programmed⟩ := reached
    obtain ⟨pulse, rfl, result, -, -⟩ := fly_step done
    refine ⟨gain, final, _, run_cons_eq_ok.mpr ⟨_, _, _, written, run_singleton_eq_ok.mpr ⟨_, done, rfl⟩, rfl⟩, ?_⟩
    have started' : MotorStarted { flight with control := flight.control.withRollGain gain } :=
      ⟨started.escMin, started.escMax⟩
    rw [← not_le, result.pulse, pulse_le_iff started', result.throttle, throttleAsked_rollGain]
    exact not_or.mpr ⟨narrow, beyond⟩

end Steps

/-! ## Whole flights -/

/-- A flight whose steps all stay below programs no pulse above the configured maximum; a step that does not stay
below exceeds it for some gains and angles. -/
theorem pulses_stay_below (control : HoverControl) (servoPositions : Vector ℚ 4) (zero : Readings) (esc : HwEsc)
    (actions : List FlightAction) :
    (EveryStep fly StaysBelow (takeOff control servoPositions zero esc) actions →
      ∀ final outputs, run fly (takeOff control servoPositions zero esc) actions = .ok (final, outputs) →
        ∀ pulse, some pulse ∈ outputs → pulse.pulseWidthUs ≤ max 1000 pulse.escMaxOutput) ∧
      ∀ flight outputs, run fly (takeOff control servoPositions zero esc) actions = .ok (flight, outputs) →
        ∀ readings, ¬StaysBelow flight (.step readings) → ∃ gain final pulse,
          run fly flight [.write propKMatrixId (rollGain gain), .step (rolled flight.control readings)] =
            .ok (final, [none, some pulse]) ∧ max 1000 pulse.escMaxOutput < pulse.pulseWidthUs := by
  have motor := takeOff_motor control servoPositions zero esc
  constructor
  · intro stays final outputs done
    exact (run_induction_allowed
      (fun history flight => MotorStarted flight ∧
        ∀ pulse, some pulse ∈ history → pulse.pulseWidthUs ≤ max 1000 pulse.escMaxOutput)
      (fun history flight action next output before allowed one =>
        ⟨before.1.step one, fun pulse member => (List.mem_append.mp member).elim (before.2 pulse) fun last =>
          pulse_of_staysBelow before.1 allowed one pulse (List.mem_singleton.mp last).symm⟩)
      [] ⟨motor, nofun⟩ stays done).2
  · intro flight outputs done readings exceeds
    exact exceeds_of_not_staysBelow (run_invariant MotorStarted (fun _ _ _ _ => .step) motor done) exceeds

/-- A rate limit of three, on the way to a setpoint of one metre. -/
def fastClimb : List FlightAction :=
  [.write propZLimNormalId ⟨0, fun _ => 3⟩, .write propTargetPositionId ⟨0, fun _ => 1⟩, .step level]

/-- The motor is at its own limit of 2000 µs while 1800 µs are configured. -/
theorem maximum_exceeded :
    (∃ final, run fly (takeOff hoverControlInit (.replicate _ 90) level (hwEscInit staticEsc)) fastClimb =
        .ok (final, [none, none, some ⟨2000, 1800⟩])) ∧
      ¬∀ control servoPositions zero esc actions final outputs,
        run fly (takeOff control servoPositions zero esc) actions = .ok (final, outputs) →
          ∀ pulse, some pulse ∈ outputs → pulse.pulseWidthUs ≤ max 1000 pulse.escMaxOutput := by
  obtain ⟨final, outputs, done, programmed⟩ := run_checked fly
    (takeOff hoverControlInit (.replicate _ 90) level (hwEscInit staticEsc)) fastClimb
    (fun _ outputs => decide (outputs = [none, none, some ⟨2000, 1800⟩])) (by decide +kernel)
  obtain rfl := of_decide_eq_true programmed
  refine ⟨⟨final, done⟩, fun respected => ?_⟩
  have below := respected _ _ _ _ _ _ _ done ⟨2000, 1800⟩ (by simp)
  norm_num at below

/-! ## Flights that stay below -/

/-- The rates are between zero and one, and the throttle is below the configured maximum. -/
structure Tame (control : HoverControl) : Prop where
  normal : 0 ≤ control.escRateLimitNormal ∧ control.escRateLimitNormal ≤ 1
  current : 0 ≤ control.escRateLimit ∧ control.escRateLimit ≤ 1
  throttle : control.throttle ≤ max 0 control.throttleLimit

/-- No rate outside of these is written, and no maximum below the throttle. -/
def WritesTame (flight : MotorFlight) : FlightAction → Prop
  | .write id value =>
    (id = propZLimNormalId → 0 ≤ value.float 0 ∧ value.float 0 ≤ 1) ∧
      (id = propMaxEscOutId → flight.control.throttle ≤ max 0 ((value.float 0 - 1000) / 1000))
  | .step _ => True

section Tame
variable {flight flight' : MotorFlight} {action : FlightAction} {programmed : Option ProgrammedPulse}

theorem Tame.rate {control : HoverControl} (tame : Tame control) (readings : Readings) :
    0 ≤ rateInForce control readings ∧ rateInForce control readings ≤ 1 := by
  unfold rateInForce
  split
  · exact tame.current
  · exact tame.normal

/-- Both ends of the limiter are below the maximum, and the filter does not overshoot. -/
theorem Tame.ends {control : HoverControl} (tame : Tame control) (readings : Readings) :
    rateLimit control.throttle 0 (rateInForce control readings) ≤ max 0 control.throttleLimit ∧
      rateLimit control.throttle control.throttleLimit (rateInForce control readings) ≤
        max 0 control.throttleLimit := by
  obtain ⟨nonneg, unit⟩ := tame.rate readings
  exact ⟨blend_le nonneg unit tame.throttle (le_max_left _ _), blend_le nonneg unit tame.throttle (le_max_right _ _)⟩

theorem Tame.step (tame : Tame flight.control) (writes : WritesTame flight action)
    (done : fly flight action = .ok (flight', programmed)) : Tame flight'.control := by
  cases action with
  | write id value =>
    obtain ⟨frame, -, -⟩ := fly_write done
    obtain ⟨rates, maxima⟩ := writes
    refine ⟨?_, frame.escRateLimit ▸ tame.current, ?_⟩
    · rw [frame.escRateLimitNormal]
      split
      · next named => exact rates named
      · exact tame.normal
    · rw [frame.throttle, HoverControl.throttleLimit, frame.escMaxOutput]
      split
      · next named => exact maxima named
      · exact tame.throttle
  | step readings =>
    obtain ⟨pulse, -, result, -, -⟩ := fly_step done
    have normal : flight'.control.escRateLimitNormal = flight.control.escRateLimitNormal :=
      congrArg Tuning.escRateLimitNormal result.tuning
    have maximum : flight'.control.escMaxOutput = flight.control.escMaxOutput :=
      congrArg Tuning.escMaxOutput result.tuning
    refine ⟨normal ▸ tame.normal, result.escRateLimit ▸ tame.rate readings, ?_⟩
    rw [HoverControl.throttleLimit, maximum, result.throttle, rateLimit_eq, limit_eq]
    exact blend_clamp_le_iff.mpr (tame.ends readings) (throttleAsked flight.control readings)

/-- Rates between zero and one, and maxima that are not set below the throttle, are enough for the whole flight. -/
theorem staysBelow_of_tame {control : HoverControl} (servoPositions : Vector ℚ 4) (zero : Readings) (esc : HwEsc)
    {actions : List FlightAction}
    (normal : 0 ≤ control.escRateLimitNormal ∧ control.escRateLimitNormal ≤ 1)
    (current : 0 ≤ control.escRateLimit ∧ control.escRateLimit ≤ 1)
    (writes : EveryStep fly WritesTame (takeOff control servoPositions zero esc) actions) :
    EveryStep fly StaysBelow (takeOff control servoPositions zero esc) actions := by
  have still : (takeOff control servoPositions zero esc).control.throttle = 0 := by
    simp [takeOff, startFlight, takeZero, resetControls, HoverControl.throttle]
  have start : Tame (takeOff control servoPositions zero esc).control :=
    ⟨normal, current, still ▸ le_max_left _ _⟩
  refine everyStep_of_invariant (fun flight action next output (tame : Tame flight.control) written done =>
    tame.step written done) ?_ start writes
  intro flight action tame written
  cases action with
  | write id value => trivial
  | step readings => exact .inr (tame.ends readings)

end Tame

end TvcHopper.Vehicle
