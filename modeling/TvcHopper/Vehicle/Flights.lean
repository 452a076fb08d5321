import TvcHopper.Machine.Pairs
import TvcHopper.Vehicle.Steps

/-! One flight behind another.

`ResetControls` and the zero of the readings start a flight. The altitude of the
last step, which the next altitude is filtered with, and the rate limit of the
motor are kept from the flight before; everything else that a control step reads
is set again or is a parameter.
-/

set_option autoImplicit false

namespace TvcHopper.Vehicle
open Machine

/-! ## Flights -/

/-- `ExecuteControlStep`, with the positions of the vanes and the pulse width of the motor. -/
def executeControlStep (control : HoverControl) (readings : Readings) : HoverControl × Vector ℚ 4 × ℚ :=
  let (control, positions, escOutput) := beginControlStep control readings
  (finishControlStep control, positions, escOutput)

inductive FlightInput where
  | setpoints (setpoints : Nat → ℚ)
  | step (readings : Readings)

def flightStep (control : HoverControl) :
    FlightInput → Except Fault (HoverControl × Option (Vector ℚ 4 × ℚ))
  | .setpoints setpoints => .ok (hoverControlSetReference control setpoints, none)
  | .step readings => .ok ((executeControlStep control readings).1, some (executeControlStep control readings).2)

def startFlight (control : HoverControl) (servoPositions : Vector ℚ 4) (zero : Readings) : HoverControl :=
  takeZero (resetControls control servoPositions) zero

structure Tuning where
  kHover : Gains
  escRateLimitSpinup : ℚ
  escRateLimitNormal : ℚ
  maxZInt : ℚ
  escMaxOutput : ℚ
  deriving DecidableEq

def HoverControl.tuning (control : HoverControl) : Tuning where
  kHover := control.kHover
  escRateLimitSpinup := control.escRateLimitSpinup
  escRateLimitNormal := control.escRateLimitNormal
  maxZInt := control.maxZInt
  escMaxOutput := control.escMaxOutput

def HoverControl.tuned (control : HoverControl) (tuning : Tuning) : HoverControl :=
  { control with
    kHover := tuning.kHover
    escRateLimitSpinup := tuning.escRateLimitSpinup
    escRateLimitNormal := tuning.escRateLimitNormal
    maxZInt := tuning.maxZInt
    escMaxOutput := tuning.escMaxOutput }

/-! ## The flight of the vehicle -/

/-- The controller with the step that the task is in brought to its end. -/
def VehicleState.settled (vehicle : VehicleState) : HoverControl :=
  match vehicle.hover with
  | .programEsc _ | .finishStep => finishControlStep vehicle.control
  | _ => vehicle.control

/-- What a step of the vehicle does with the controller. -/
inductive ControlMove (before after : HoverControl) (vehicle' : VehicleState) : Prop where
  | rests (same : after = before)
  | written (id : UInt16) (value : PropertyValue) (tuned : tuneControl before id value = .ok (some after))
  | reset (servoPositions : Vector ℚ 4) (same : after = resetControls before servoPositions)
  | zeroed (zero : Readings) (same : after = takeZero before zero)
  | stepped (readings : Readings) (pulse : ℚ)
      (same : executeControlStep before readings = (after, vehicle'.servoPositions, pulse))
      (asked : vehicle'.hover = .programEsc pulse)

theorem hoverControlSetK_finish (control : HoverControl) (newK : Nat → ℚ) :
    hoverControlSetK (finishControlStep control) newK = (hoverControlSetK control newK).map finishControlStep := by
  simp only [hoverControlSetK]
  split
  · rfl
  · rw [show (finishControlStep control).kHover = control.kHover from rfl]
    cases storeCells control.kHover (truncate (newK 0 * 9)).toNat ((List.range 9).map fun i => newK (i + 1)) <;> rfl

theorem tuneControl_finish (control : HoverControl) (id : UInt16) (value : PropertyValue) :
    tuneControl (finishControlStep control) id value =
      (tuneControl control id value).map (Option.map finishControlStep) := by
  have outcome := tuneControl_outcome control id value
  generalize tuneControl control id value = tuned at outcome
  cases outcome with
  | gains =>
    change (hoverControlSetK (finishControlStep control) value.float).map some = _
    rw [hoverControlSetK_finish]
    cases hoverControlSetK control value.float <;> rfl
  | unknown unnamed => exact unnamed (finishControlStep control)
  | target | spinup | normal | integral | maximum | pitch | roll => rfl

theorem settled_of_tuned {vehicle : VehicleState} {control : HoverControl} {id : UInt16} {value : PropertyValue}
    (tuned : tuneControl vehicle.control id value = .ok (some control)) :
    tuneControl vehicle.settled id value = .ok (some { vehicle with control }.settled) := by
  obtain ⟨esc, servoPositions, before, stopFlag, stopFlagMx, controlsStartSem, hover, comms⟩ := vehicle
  cases hover with
  | programEsc pulse | finishStep => exact (tuneControl_finish before id value).trans (by rw [tuned]; rfl)
  | _ => exact tuned

theorem setValue_control {vehicle vehicle' : VehicleState} {id : UInt16} {value : PropertyValue} {event : VehicleEvent}
    (written : setValue vehicle id value = .ok (vehicle', event)) :
    vehicle'.settled = vehicle.settled ∨ tuneControl vehicle.settled id value = .ok (some vehicle'.settled) := by
  unfold setValue at written
  split_ifs at written
  all_goals try (cases written; exact .inl rfl)
  cases tuned : tuneControl vehicle.control id value with
  | error fault =>
    rw [tuned] at written
    cases written
  | ok result =>
    rw [tuned] at written
    cases result with
    | none =>
      cases written
      exact .inl rfl
    | some control =>
      cases written
      exact .inr (settled_of_tuned tuned)

theorem controlMove_of_hover (vehicle : VehicleState) (readings : Readings) (timedOut : Bool) :
    ControlMove vehicle.settled (hoverStep vehicle readings timedOut).1.settled
      (hoverStep vehicle readings timedOut).1 := by
  obtain ⟨esc, servoPositions, control, stopFlag, stopFlagMx, controlsStartSem, hover, comms⟩ := vehicle
  cases hover with
  | takeFlagMx =>
    cases taken : stopFlagMx.await timedOut with
    | none => exact .rests (by simp only [hoverStep, taken])
    | some sem => exact .rests (by simp only [hoverStep, taken]; rfl)
  | takeStartSem =>
    cases available : controlsStartSem.take with
    | mk taken sem =>
      cases taken with
      | false => exact .rests (by simp only [hoverStep, available])
      | true => exact .rests (by simp only [hoverStep, available]; rfl)
  | checkFlag => cases stopFlag <;> exact .rests rfl
  | resetControls => exact .reset servoPositions rfl
  | takeZero => exact .zeroed readings rfl
  | enterStep => exact .stepped readings _ rfl rfl
  | releaseFlagMx | idleOutput | updatePwm | giveStartSem | giveFlagMx | programEsc _ | finishStep => exact .rests rfl

theorem settled_of_comms (vehicle : VehicleState) (timedOut : Bool) :
    (commsStep vehicle timedOut).1.settled = vehicle.settled := by
  unfold commsStep
  cases vehicle.comms with
  | startTakeMx | stopTakeMx => cases vehicle.stopFlagMx.await timedOut <;> rfl
  | idle | startClearFlag | startGiveMx | startGiveSem | stopSetFlag | stopGiveMx | stopTakeSem => rfl

/-- The controller of the vehicle makes the steps and takes the parameters one after the other. -/
theorem controlMove_of_step {vehicle vehicle' : VehicleState} {action : VehicleAction} {event : VehicleEvent}
    (done : vehicleStep vehicle action = .ok (vehicle', event)) :
    ControlMove vehicle.settled vehicle'.settled vehicle' := by
  cases action with
  | write id value =>
    by_cases idle : vehicle.comms = .idle
    · rw [vehicleStep, if_pos idle] at done
      rcases setValue_control done with same | tuned
      · exact .rests same
      · exact .written id value tuned
    · rw [vehicleStep, if_neg idle] at done
      cases done
      exact .rests rfl
  | comms timedOut =>
    have made : commsStep vehicle timedOut = (vehicle', event) := Except.ok.inj done
    have same : (commsStep vehicle timedOut).1 = vehicle' := congrArg Prod.fst made
    exact .rests (same ▸ settled_of_comms vehicle timedOut)
  | hover readings timedOut =>
    have made : hoverStep vehicle readings timedOut = (vehicle', event) := Except.ok.inj done
    have same : (hoverStep vehicle readings timedOut).1 = vehicle' := congrArg Prod.fst made
    exact same ▸ controlMove_of_hover vehicle readings timedOut

/-! ## Two flights -/

/-- The two controllers agree in all that later steps read, the rate limit of the motor aside. -/
structure SameFlight (first second : HoverControl) : Prop where
  ref : first.ref = second.ref
  currState : first.currState = second.currState
  altitude : first.prevState[stateIdxZ] = second.prevState[stateIdxZ]
  throttle : first.actuatorInputLast[actuatorIdxEsc] = second.actuatorInputLast[actuatorIdxEsc]
  errorZint : first.errorZint = second.errorZint
  vz : first.vz = second.vz
  zLast : first.zLast = second.zLast
  kHover : first.kHover = second.kHover
  lidarZero : first.lidarZero = second.lidarZero
  imuZero : first.imuZero = second.imuZero
  escRateLimitNormal : first.escRateLimitNormal = second.escRateLimitNormal
  maxZInt : first.maxZInt = second.maxZInt
  escMaxOutput : first.escMaxOutput = second.escMaxOutput

section Steps
variable {first second : HoverControl}

theorem SameFlight.setReference (same : SameFlight first second) (setpoints : Nat → ℚ) :
    SameFlight (hoverControlSetReference first setpoints) (hoverControlSetReference second setpoints) :=
  { same with ref := by simp only [hoverControlSetReference, same.ref] }

theorem SameFlight.readState (same : SameFlight first second) (readings : Readings) :
    SameFlight (readState first readings) (readState second readings) :=
  { same with
    currState := by
      simp only [Vehicle.readState, computeVz, same.imuZero, same.altitude, same.lidarZero, same.zLast, same.vz,
        same.currState]
    vz := by
      simp only [Vehicle.readState, computeVz, same.altitude, same.lidarZero, same.zLast, same.vz] }

theorem SameFlight.symm (same : SameFlight first second) : SameFlight second first where
  ref := same.ref.symm
  currState := same.currState.symm
  altitude := same.altitude.symm
  throttle := same.throttle.symm
  errorZint := same.errorZint.symm
  vz := same.vz.symm
  zLast := same.zLast.symm
  kHover := same.kHover.symm
  lidarZero := same.lidarZero.symm
  imuZero := same.imuZero.symm
  escRateLimitNormal := same.escRateLimitNormal.symm
  maxZInt := same.maxZInt.symm
  escMaxOutput := same.escMaxOutput.symm

theorem SameFlight.trans {third : HoverControl} (same : SameFlight first second) (same' : SameFlight second third) :
    SameFlight first third where
  ref := same.ref.trans same'.ref
  currState := same.currState.trans same'.currState
  altitude := same.altitude.trans same'.altitude
  throttle := same.throttle.trans same'.throttle
  errorZint := same.errorZint.trans same'.errorZint
  vz := same.vz.trans same'.vz
  zLast := same.zLast.trans same'.zLast
  kHover := same.kHover.trans same'.kHover
  lidarZero := same.lidarZero.trans same'.lidarZero
  imuZero := same.imuZero.trans same'.imuZero
  escRateLimitNormal := same.escRateLimitNormal.trans same'.escRateLimitNormal
  maxZInt := same.maxZInt.trans same'.maxZInt
  escMaxOutput := same.escMaxOutput.trans same'.escMaxOutput

theorem setStatus_frame (control : HoverControl) (errorZ : ℚ) (tickCount : UInt32) :
    SameFlight (setStatus control errorZ tickCount) control ∧
      (setStatus control errorZ tickCount).escRateLimit = control.escRateLimit := by
  unfold setStatus
  split_ifs
  all_goals exact ⟨⟨rfl, rfl, rfl, rfl, rfl, rfl, rfl, rfl, rfl, rfl, rfl, rfl, rfl⟩, rfl⟩

theorem SameFlight.setStatus (same : SameFlight first second) (errorZ : ℚ) (tickCount : UInt32) :
    SameFlight (setStatus first errorZ tickCount) (setStatus second errorZ tickCount) ∧
      (setStatus first errorZ tickCount).hoverStatus = (setStatus second errorZ tickCount).hoverStatus := by
  have before := (setStatus_frame first errorZ tickCount).1
  have behind := (setStatus_frame second errorZ tickCount).1
  refine ⟨before.trans (same.trans behind.symm), ?_⟩
  unfold Vehicle.setStatus
  rw [same.ref, same.currState, same.lidarZero]
  split_ifs
  all_goals rfl

theorem SameFlight.computeZInt (same : SameFlight first second) (errorZ : ℚ) :
    SameFlight (computeZInt first errorZ) (computeZInt second errorZ) :=
  { same with errorZint := by simp only [Vehicle.computeZInt, same.errorZint, same.maxZInt] }

theorem SameFlight.controlError (same : SameFlight first second) (tickCount : UInt32) :
    SameFlight (controlError first tickCount).1 (controlError second tickCount).1 ∧
      (controlError first tickCount).2 = (controlError second tickCount).2 ∧
      (controlError first tickCount).1.hoverStatus = (controlError second tickCount).1.hoverStatus := by
  unfold Vehicle.controlError
  simp only [same.ref, same.currState]
  obtain ⟨same', status⟩ := same.setStatus (computeError second.ref second.currState)[stateIdxZ] tickCount
  simp only [status, same'.throttle, same'.escMaxOutput]
  split
  · have summed := same'.computeZInt
      (((computeError second.ref second.currState).set stateIdxZ (adjustZError
        (Vehicle.setStatus second (computeError second.ref second.currState)[stateIdxZ] tickCount).hoverStatus
        (computeError second.ref second.currState)[stateIdxZ])))[stateIdxZ]
    exact ⟨summed, by rw [summed.errorZint], status⟩
  · exact ⟨same', by rw [same'.errorZint], status⟩

/-- The rate limit stays as it is until the motor is programmed. -/
theorem controlError_escRateLimit (control : HoverControl) (tickCount : UInt32) :
    (controlError control tickCount).1.escRateLimit = control.escRateLimit := by
  unfold Vehicle.controlError
  have frame := (setStatus_frame control (computeError control.ref control.currState)[stateIdxZ] tickCount).2
  simp only
  split
  · exact frame
  · exact frame

theorem setStatus_flying (control : HoverControl) (errorZ : ℚ) (tickCount : UInt32) :
    (setStatus control errorZ tickCount).hoverStatus = .flying ↔
      control.ref[stateIdxZ] ≠ 0 ∧ setpointMinZNonzero ≤ control.currState[stateIdxZ] := by
  unfold setStatus
  split_ifs with landing near close low
  all_goals simp [landing]
  · exact low
  · exact not_lt.mp low

theorem controlError_flying (control : HoverControl) (readings : Readings) :
    (controlError (readState control readings) readings.tickCount).1.hoverStatus = .flying ↔
      Flying control readings := by
  have filtered : (readState control readings).currState[stateIdxZ] = altitude control readings := by
    simp [readState, computeVz, altitude]
  have status := setStatus_flying (readState control readings)
    (computeError (readState control readings).ref (readState control readings).currState)[stateIdxZ] readings.tickCount
  rw [filtered] at status
  unfold controlError
  simp only
  split
  · exact status
  · exact status

/-- The rate limit is set again on the ground and while the vehicle takes off. -/
theorem SameFlight.limited (same : SameFlight first second) (status : first.hoverStatus = second.hoverStatus)
    (rate : first.hoverStatus = .flying → first.escRateLimit = second.escRateLimit) :
    SameFlight
        (if first.hoverStatus ≠ .flying then { first with escRateLimit := first.escRateLimitNormal } else first)
        (if second.hoverStatus ≠ .flying then { second with escRateLimit := second.escRateLimitNormal } else second) ∧
      (if first.hoverStatus ≠ .flying then { first with escRateLimit := first.escRateLimitNormal }
          else first).escRateLimit =
        (if second.hoverStatus ≠ .flying then { second with escRateLimit := second.escRateLimitNormal }
          else second).escRateLimit := by
  by_cases flying : second.hoverStatus = .flying
  · rw [if_neg (not_not.mpr (status.trans flying)), if_neg (not_not.mpr flying)]
    exact ⟨same, rate (status.trans flying)⟩
  · rw [if_pos (status ▸ flying), if_pos flying]
    exact ⟨{ same with }, same.escRateLimitNormal⟩

theorem SameFlight.executeControlStep (same : SameFlight first second) (readings : Readings)
    (rate : Flying first readings → first.escRateLimit = second.escRateLimit) :
    SameFlight (executeControlStep first readings).1 (executeControlStep second readings).1 ∧
      (executeControlStep first readings).1.escRateLimit = (executeControlStep second readings).1.escRateLimit ∧
      (executeControlStep first readings).2 = (executeControlStep second readings).2 := by
  obtain ⟨seen, error, status⟩ := (same.readState readings).controlError readings.tickCount
  have flying := controlError_flying first readings
  have kept := controlError_escRateLimit (Vehicle.readState first readings) readings.tickCount
  have kept' := controlError_escRateLimit (Vehicle.readState second readings) readings.tickCount
  unfold Vehicle.executeControlStep beginControlStep
  generalize Vehicle.controlError (Vehicle.readState first readings) readings.tickCount = before at *
  generalize Vehicle.controlError (Vehicle.readState second readings) readings.tickCount = before' at *
  obtain ⟨control, error⟩ := before
  obtain ⟨control', error'⟩ := before'
  simp only at seen error status flying kept kept'
  subst error
  obtain ⟨limited, limit⟩ := seen.limited status (fun here => by rw [kept, kept']; exact rate (flying.mp here))
  have product : multiplyMatrix control.kHover error = multiplyMatrix control'.kHover error := by rw [seen.kHover]
  simp only [product]
  generalize (if control.hoverStatus ≠ .flying then { control with escRateLimit := control.escRateLimitNormal }
    else control) = last at *
  generalize (if control'.hoverStatus ≠ .flying then { control' with escRateLimit := control'.escRateLimitNormal }
    else control') = last' at *
  have esc : ∀ product, escInput last product = escInput last' product := by
    intro product
    simp only [escInput, limited.throttle, limited.escMaxOutput, limit]
  simp only [esc]
  exact ⟨{ limited with
    altitude := by simp only [finishControlStep, limited.currState]
    throttle := rfl
    zLast := by simp only [finishControlStep, limited.currState] }, limit, trivial⟩

/-- The first step of the flight finds the vehicle in the air. -/
def FliesAtOnce (control : HoverControl) : List FlightInput → Prop
  | [] => False
  | .setpoints setpoints :: rest => FliesAtOnce (hoverControlSetReference control setpoints) rest
  | .step readings :: _ => Flying control readings

theorem SameFlight.outputs {flight : List FlightInput} (same : SameFlight first second)
    (rate : FliesAtOnce first flight → first.escRateLimit = second.escRateLimit) :
    SameOutputs flightStep first second flight := by
  induction flight generalizing first second with
  | nil => trivial
  | cons input rest ih =>
    cases input with
    | setpoints setpoints => exact .ok ⟨rfl, ih (same.setReference setpoints) rate⟩
    | step readings =>
      obtain ⟨same', rate', output⟩ := same.executeControlStep readings rate
      exact .ok ⟨congrArg some output, ih same' fun _ => rate'⟩

/-- `ResetControls` and the zero set everything else again. -/
theorem startFlight_same {left left' : HoverControl} (tuning : left.tuning = left'.tuning)
    (altitude : left.prevState[stateIdxZ] = left'.prevState[stateIdxZ]) (servoPositions servoPositions' : Vector ℚ 4)
    (zero : Readings) : SameFlight (startFlight left servoPositions zero) (startFlight left' servoPositions' zero) where
  ref := rfl
  currState := rfl
  altitude := altitude
  throttle := by simp [startFlight, takeZero, resetControls]
  errorZint := rfl
  vz := rfl
  zLast := rfl
  kHover := congrArg Tuning.kHover tuning
  lidarZero := rfl
  imuZero := rfl
  escRateLimitNormal := congrArg Tuning.escRateLimitNormal tuning
  maxZInt := congrArg Tuning.maxZInt tuning
  escMaxOutput := congrArg Tuning.escMaxOutput tuning

end Steps

/-! ## What the flight before can change -/

/-- One vane and the motor follow the error of the altitude. -/
def altitudeTuning : Tuning where
  kHover := .ofFn fun place => if place.val = 6 ∨ place.val = 42 then 1 else 0
  escRateLimitSpinup := 1
  escRateLimitNormal := 1
  maxZInt := 0
  escMaxOutput := 2000

theorem altitudeTuning_entry (i : Fin stateVectorSize) :
    altitudeTuning.kHover.entry 0 i = (if i = 6 then 1 else 0) ∧
      altitudeTuning.kHover.entry 4 i = (if i = 6 then 1 else 0) := by
  revert i
  decide +kernel

theorem multiplyMatrix_altitude (error : Vector ℚ stateVectorSize) :
    (multiplyMatrix altitudeTuning.kHover error)[0] = error[stateIdxZ] ∧
      (multiplyMatrix altitudeTuning.kHover error)[actuatorIdxEsc] = error[stateIdxZ] := by
  have places : List.finRange stateVectorSize = [0, 1, 2, 3, 4, 5, 6, 7, 8] := rfl
  have row (r : Fin actuationVectorSize)
      (entries : ∀ i, altitudeTuning.kHover.entry r i = if i = 6 then 1 else 0) :
      (multiplyMatrix altitudeTuning.kHover error)[r.val] = error[stateIdxZ] := by
    simp [multiplyMatrix, places, entries]
    rfl
  exact ⟨row 0 fun i => (altitudeTuning_entry i).1, row 4 fun i => (altitudeTuning_entry i).2⟩

/-- A flight that is to climb at once. -/
def climb (control : HoverControl) (servoPositions : Vector ℚ 4) : HoverControl :=
  hoverControlSetReference (startFlight (control.tuned altitudeTuning) servoPositions ⟨.replicate _ 0, 0, 0⟩) fun _ => 1

theorem controlError_altitude {control : HoverControl} (tickCount : UInt32) (up : control.ref[stateIdxZ] ≠ 0) :
    (controlError control tickCount).2[stateIdxZ] = control.ref[stateIdxZ] - control.currState[stateIdxZ] := by
  have kept (errorZ : ℚ) : adjustZError (setStatus control errorZ tickCount).hoverStatus errorZ = errorZ := by
    unfold setStatus
    rw [if_neg up]
    split_ifs
    all_goals rfl
  simp [controlError, kept, computeError]

theorem controlError_frame (control : HoverControl) (tickCount : UInt32) :
    (controlError control tickCount).1.kHover = control.kHover ∧
      (controlError control tickCount).1.actuatorInputLast[actuatorIdxEsc] =
        control.actuatorInputLast[actuatorIdxEsc] ∧
      (controlError control tickCount).1.escMaxOutput = control.escMaxOutput := by
  have frame := (setStatus_frame control (computeError control.ref control.currState)[stateIdxZ] tickCount).1
  unfold controlError
  simp only
  split
  · exact ⟨frame.kHover, frame.throttle, frame.escMaxOutput⟩
  · exact ⟨frame.kHover, frame.throttle, frame.escMaxOutput⟩

theorem climb_output (control : HoverControl) (servoPositions : Vector ℚ 4) (lidar z : ℚ)
    (filtered : altitude (climb control servoPositions) ⟨.replicate _ 0, lidar, 0⟩ = z) :
    (executeControlStep (climb control servoPositions) ⟨.replicate _ 0, lidar, 0⟩).2.1[0] =
        limit (1 - z) (-45) 45 + 90 ∧
      (setpointMinZNonzero ≤ z →
        (executeControlStep (climb control servoPositions) ⟨.replicate _ 0, lidar, 0⟩).2.2 =
          limit (1 - z) 0 1 * control.escRateLimit / 0.001 + 1000) := by
  have setpoint : (climb control servoPositions).ref[stateIdxZ] = 1 := by
    simp only [climb, hoverControlSetReference, limit, Vector.getElem_set_self]
    norm_num
  have flying := controlError_flying (climb control servoPositions) ⟨.replicate _ 0, lidar, 0⟩
  generalize seen : readState (climb control servoPositions) ⟨.replicate _ 0, lidar, 0⟩ = state at flying
  have height : state.currState[stateIdxZ] = z := by
    rw [← seen, ← filtered]
    simp [readState, computeVz, altitude]
  have error := @controlError_altitude state 0 (by rw [← seen]; exact setpoint ▸ one_ne_zero)
  obtain ⟨kHover, throttle, escMaxOutput⟩ := controlError_frame state 0
  have rate := controlError_escRateLimit state 0
  unfold executeControlStep beginControlStep
  rw [seen]
  simp only
  have gains : (controlError state 0).1.kHover = altitudeTuning.kHover := kHover.trans (by rw [← seen]; rfl)
  have still : (controlError state 0).1.actuatorInputLast[actuatorIdxEsc] = 0 :=
    throttle.trans (by rw [← seen]; simp [climb, readState, computeVz, startFlight, takeZero, resetControls,
      hoverControlSetReference])
  have most : (controlError state 0).1.escMaxOutput = 2000 := escMaxOutput.trans (by rw [← seen]; rfl)
  have kept : (controlError state 0).1.escRateLimit = control.escRateLimit := rate.trans (by rw [← seen]; rfl)
  rw [show state.ref[stateIdxZ] = 1 by rw [← seen]; exact setpoint, height] at error
  generalize controlError state 0 = before at *
  obtain ⟨next, errors⟩ := before
  simp only at *
  obtain ⟨vane, motor⟩ := multiplyMatrix_altitude errors
  rw [gains]
  constructor
  · simp [vaneInput, vane, error]
  · intro up
    have status := flying.mpr ⟨by rw [setpoint]; exact one_ne_zero, filtered.symm ▸ up⟩
    simp only [status, ne_eq, not_true_eq_false, if_false, escInput, rateLimit, still, most, kept, motor, error]
    norm_num

theorem climb_altitude (control : HoverControl) (servoPositions : Vector ℚ 4) (lidar : ℚ) :
    altitude (climb control servoPositions) ⟨.replicate _ 0, lidar, 0⟩ =
      lidar / 200 + control.prevState[stateIdxZ] / 2 := by
  have kept : (climb control servoPositions).prevState = control.prevState := rfl
  have zero : (climb control servoPositions).lidarZero = 0 := rfl
  rw [altitude, rateLimit, kept, zero]
  ring

theorem limit_eq_zero {value : ℚ} (within : limit value (-45) 45 = 0) : value = 0 := by
  unfold limit at within
  split_ifs at within with above below
  · norm_num at within
  · norm_num at within
  · exact within

section Leftovers
variable {left left' : HoverControl} {servoPositions servoPositions' : Vector ℚ 4}

theorem climb_outputs {zero readings : Readings}
    (same : SameOutputs flightStep (startFlight left servoPositions zero) (startFlight left' servoPositions' zero)
      [.setpoints fun _ => 1, .step readings]) :
    (executeControlStep (hoverControlSetReference (startFlight left servoPositions zero) fun _ => 1) readings).2 =
      (executeControlStep (hoverControlSetReference (startFlight left' servoPositions' zero) fun _ => 1)
        readings).2 := by
  cases same with
  | ok first =>
    cases first.2 with
    | ok second => exact Option.some.inj second.1

/-- Flights that cannot be told apart have the same altitude and the same rate limit left. -/
theorem leftovers_of_sameOutputs
    (same : ∀ readings, SameOutputs flightStep
      (startFlight (left.tuned altitudeTuning) servoPositions ⟨.replicate _ 0, 0, 0⟩)
      (startFlight (left'.tuned altitudeTuning) servoPositions' ⟨.replicate _ 0, 0, 0⟩)
      [.setpoints fun _ => 1, .step readings]) :
    left.prevState[stateIdxZ] = left'.prevState[stateIdxZ] ∧ left.escRateLimit = left'.escRateLimit := by
  have altitudes : left.prevState[stateIdxZ] = left'.prevState[stateIdxZ] := by
    -- the first altitude of one flight is the setpoint
    have output := climb_outputs (same ⟨.replicate _ 0, 200 - 100 * left.prevState[stateIdxZ], 0⟩)
    have first := (climb_output left servoPositions (200 - 100 * left.prevState[stateIdxZ]) _
      (climb_altitude left servoPositions _)).1
    have second := (climb_output left' servoPositions' (200 - 100 * left.prevState[stateIdxZ]) _
      (climb_altitude left' servoPositions' _)).1
    have vanes := first.symm.trans ((congrArg (fun output => output.1[0]) output).trans second)
    have level : 1 - ((200 - 100 * left.prevState[stateIdxZ]) / 200 + left.prevState[stateIdxZ] / 2) = 0 := by ring
    have centre : limit 0 (-45) 45 = 0 := by norm_num [limit]
    rw [level, centre] at vanes
    have other := limit_eq_zero (add_right_cancel vanes).symm
    linarith
  refine ⟨altitudes, ?_⟩
  -- half of the setpoint is in the air, and the motor is not at its limit
  have output := climb_outputs (same ⟨.replicate _ 0, 100 - 100 * left.prevState[stateIdxZ], 0⟩)
  have half : (100 - 100 * left.prevState[stateIdxZ]) / 200 + left.prevState[stateIdxZ] / 2 = 1 / 2 := by ring
  have half' : (100 - 100 * left.prevState[stateIdxZ]) / 200 + left'.prevState[stateIdxZ] / 2 = 1 / 2 := by
    rw [← altitudes, half]
  have up : setpointMinZNonzero ≤ 1 / 2 := by norm_num
  have first := (climb_output left servoPositions (100 - 100 * left.prevState[stateIdxZ]) (1 / 2)
    ((climb_altitude left servoPositions _).trans half)).2 up
  have second := (climb_output left' servoPositions' (100 - 100 * left.prevState[stateIdxZ]) (1 / 2)
    ((climb_altitude left' servoPositions' _).trans half')).2 up
  have motors := first.symm.trans ((congrArg (fun output => output.2) output).trans second)
  have throttle : limit (1 - 1 / 2) 0 1 = 1 / 2 := by norm_num [limit]
  rw [throttle] at motors
  norm_num at motors
  exact motors

end Leftovers

/-- A flight does not depend on the one before when the altitude of its last step and, for a flight that finds
the vehicle in the air, the rate limit of the motor are the same; these two are what is left of a flight. -/
theorem flight_starts_clean (left left' : HoverControl) (servoPositions servoPositions' : Vector ℚ 4) :
    (left.tuning = left'.tuning → left.prevState[stateIdxZ] = left'.prevState[stateIdxZ] → ∀ zero flight,
        (FliesAtOnce (startFlight left servoPositions zero) flight → left.escRateLimit = left'.escRateLimit) →
        SameOutputs flightStep (startFlight left servoPositions zero) (startFlight left' servoPositions' zero)
          flight) ∧
      ((∀ tuning zero flight, SameOutputs flightStep (startFlight (left.tuned tuning) servoPositions zero)
          (startFlight (left'.tuned tuning) servoPositions' zero) flight) ↔
        left.prevState[stateIdxZ] = left'.prevState[stateIdxZ] ∧ left.escRateLimit = left'.escRateLimit) := by
  constructor
  · intro tuning altitude zero flight rate
    exact (startFlight_same tuning altitude servoPositions servoPositions' zero).outputs rate
  · constructor
    · intro same
      exact leftovers_of_sameOutputs fun readings => same altitudeTuning _ _
    · rintro ⟨altitude, rate⟩ tuning zero flight
      have tuned : (left.tuned tuning).tuning = (left'.tuned tuning).tuning := rfl
      exact (startFlight_same tuned altitude servoPositions servoPositions' zero).outputs fun _ => rate

/-! The first flight of a vehicle, and one behind a flight that ended half a metre above the ground. -/

def level : Readings := ⟨.replicate _ 0, 0, 0⟩

def aloft : Readings := ⟨.replicate _ 0, 100, 0⟩

def commanded (id : UInt16) : List VehicleAction := .write id ⟨1, fun _ => 0⟩ :: .replicate 4 (.comms false)

def firstStart : List VehicleAction :=
  .replicate 5 (.hover level false) ++ commanded propStartId ++ .replicate 2 (.hover level false)

def secondStart : List VehicleAction :=
  firstStart ++ .replicate 3 (.hover level false) ++ .replicate 3 (.hover aloft false) ++ commanded propStopId ++
    firstStart

def takeoff : List FlightInput := [.setpoints fun _ => 1, .step level]

def takeoffOutput (control : HoverControl) : Vector ℚ 4 × ℚ :=
  (executeControlStep (hoverControlSetReference control fun _ => 1) level).2

theorem takeoff_run (control : HoverControl) :
    ∃ final, run flightStep control takeoff = .ok (final, [none, some (takeoffOutput control)]) := ⟨_, rfl⟩

/-- The motor of the first flight is started, that of the second is not. -/
theorem altitude_remembered :
    (∃ vehicle events, run vehicleStep vehicleInit firstStart = .ok (vehicle, events) ∧
        vehicle.hover = .resetControls ∧ vehicle.control.tuning = hoverControlInit.tuning ∧
        ∃ final output, run flightStep (startFlight vehicle.control vehicle.servoPositions level) takeoff =
          .ok (final, [none, some output]) ∧ output.2 = 1368.4) ∧
      (∃ vehicle events, run vehicleStep vehicleInit secondStart = .ok (vehicle, events) ∧
        vehicle.hover = .resetControls ∧ vehicle.control.tuning = hoverControlInit.tuning ∧
        ∃ final output, run flightStep (startFlight vehicle.control vehicle.servoPositions level) takeoff =
          .ok (final, [none, some output]) ∧ output.2 = 1000) ∧
      ¬∀ schedule schedule' vehicle vehicle' events events',
        run vehicleStep vehicleInit schedule = .ok (vehicle, events) →
        run vehicleStep vehicleInit schedule' = .ok (vehicle', events') →
        vehicle.hover = .resetControls → vehicle'.hover = .resetControls →
        vehicle.control.tuning = vehicle'.control.tuning → ∀ zero flight,
          SameOutputs flightStep (startFlight vehicle.control vehicle.servoPositions zero)
            (startFlight vehicle'.control vehicle'.servoPositions zero) flight := by
  obtain ⟨vehicle, events, done, reached⟩ := run_checked vehicleStep vehicleInit firstStart
    (fun vehicle _ => decide (vehicle.hover = .resetControls ∧ vehicle.control.tuning = hoverControlInit.tuning ∧
      (takeoffOutput (startFlight vehicle.control vehicle.servoPositions level)).2 = 1368.4)) (by decide +kernel)
  obtain ⟨vehicle', events', done', reached'⟩ := run_checked vehicleStep vehicleInit secondStart
    (fun vehicle _ => decide (vehicle.hover = .resetControls ∧ vehicle.control.tuning = hoverControlInit.tuning ∧
      (takeoffOutput (startFlight vehicle.control vehicle.servoPositions level)).2 = 1000)) (by decide +kernel)
  obtain ⟨place, tuning, pulse⟩ := of_decide_eq_true reached
  obtain ⟨place', tuning', pulse'⟩ := of_decide_eq_true reached'
  obtain ⟨final, flight⟩ := takeoff_run (startFlight vehicle.control vehicle.servoPositions level)
  obtain ⟨final', flight'⟩ := takeoff_run (startFlight vehicle'.control vehicle'.servoPositions level)
  refine ⟨⟨vehicle, events, done, place, tuning, final, _, flight, pulse⟩,
    ⟨vehicle', events', done', place', tuning', final', _, flight', pulse'⟩, fun always => ?_⟩
  have same := climb_outputs (always firstStart secondStart vehicle vehicle' events events' done done' place place'
    (tuning.trans tuning'.symm) level takeoff)
  have motors := pulse.symm.trans ((congrArg (fun output => output.2) same).trans pulse')
  norm_num at motors

end TvcHopper.Vehicle
