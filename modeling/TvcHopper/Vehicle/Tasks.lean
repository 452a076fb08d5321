import TvcHopper.Machine.Execution
import TvcHopper.Machine.Semaphores
import TvcHopper.Spp.Protocol
import TvcHopper.Vehicle.Esc
import TvcHopper.Vehicle.HoverControl

/-! The tasks that fly the vehicle: `SetValue` of `command_control_comms.c` and
`HoverControl_Task` of `lqr_control.c`.

The two share the stop flag, its mutex and the semaphore that starts the
controller. Taking or giving a semaphore, an access to the flag and a call of
`HwEsc_SetOutput` are one step each; a schedule says which of the tasks makes
the next one. A step of a task that waits changes nothing.
-/

set_option autoImplicit false

namespace TvcHopper.Vehicle
open Machine Spp

/-! ## Properties -/

abbrev propStartId : UInt16 := 0
abbrev propStopId : UInt16 := 1
abbrev propTelemCapStartId : UInt16 := 12
abbrev propTelemCapStopId : UInt16 := 13
abbrev propResetSystemId : UInt16 := 30
abbrev propServoPositionsId : UInt16 := 40
abbrev propTargetPositionId : UInt16 := 41
abbrev propEscPwmId : UInt16 := 53
abbrev propKMatrixId : UInt16 := 54
abbrev propZLimSpinupId : UInt16 := 55
abbrev propZLimNormalId : UInt16 := 56
abbrev propMaxZintId : UInt16 := 57
abbrev propMaxEscOutId : UInt16 := 58
abbrev propSetPitchOffsetId : UInt16 := 59
abbrev propSetRollOffsetId : UInt16 := 60

/-- The memory behind the value pointer, by what it is read as. -/
structure PropertyValue where
  byte : UInt8
  float : Nat → ℚ

/-! ## State -/

inductive HoverPc where
  | takeFlagMx
  | checkFlag
  | releaseFlagMx
  | idleOutput
  | updatePwm
  | takeStartSem
  | giveStartSem
  | resetControls
  | takeZero
  | giveFlagMx
  | enterStep
  | programEsc (pulseWidthUs : ℚ)
  | finishStep
  deriving DecidableEq

/-- Where the task that received a command is in `HoverControl_Start` or `HoverControl_Stop`. -/
inductive CommsPc where
  | idle
  | startTakeMx
  | startClearFlag
  | startGiveMx
  | startGiveSem
  | stopTakeMx
  | stopSetFlag
  | stopGiveMx
  | stopTakeSem
  deriving DecidableEq, Repr

def CommsPc.isStart : CommsPc → Bool
  | .startTakeMx | .startClearFlag | .startGiveMx | .startGiveSem => true
  | _ => false

def CommsPc.isStop : CommsPc → Bool
  | .stopTakeMx | .stopSetFlag | .stopGiveMx | .stopTakeSem => true
  | _ => false

structure VehicleState where
  esc : HwEsc
  servoPositions : Vector ℚ 4
  control : HoverControl
  stopFlag : Bool
  stopFlagMx : BinarySemaphore
  controlsStartSem : BinarySemaphore
  hover : HoverPc
  comms : CommsPc
  deriving DecidableEq

inductive VehicleEvent where
  | startCalled
  | startReturned
  | stopCalled
  | stopReturned
  | escProgrammed (pulseWidthUs : ℚ)
  | stepEntered
  | handled (status : SppStatus)
  | silent
  deriving DecidableEq

def vehicleInit : VehicleState where
  esc := hwEscInit staticEsc
  servoPositions := .replicate _ 90
  control := hoverControlInit
  stopFlag := true
  stopFlagMx := .mutex
  controlsStartSem := .empty
  hover := .takeFlagMx
  comms := .idle

/-! ## Steps -/

/-- The parameters of the controller that a property sets, if it sets any. -/
def tuneControl (control : HoverControl) (id : UInt16) (value : PropertyValue) : Except Fault (Option HoverControl) :=
  if id = propTargetPositionId then .ok (some (hoverControlSetReference control value.float))
  else if id = propKMatrixId then (hoverControlSetK control value.float).map some
  else if id = propZLimSpinupId then .ok (some { control with escRateLimitSpinup := value.float 0 })
  else if id = propZLimNormalId then .ok (some { control with escRateLimitNormal := value.float 0 })
  else if id = propMaxZintId then .ok (some { control with maxZInt := value.float 0 })
  else if id = propMaxEscOutId then .ok (some { control with escMaxOutput := value.float 0 })
  else if id = propSetPitchOffsetId then .ok (some (hoverControlSetPitchOffset control (value.float 0)))
  else if id = propSetRollOffsetId then .ok (some (hoverControlSetRollOffset control (value.float 0)))
  else .ok none

/-- A start or stop goes on in `HoverControl_Start` or `HoverControl_Stop`; any other write is done at once. -/
def setValue (vehicle : VehicleState) (id : UInt16) (value : PropertyValue) :
    Except Fault (VehicleState × VehicleEvent) :=
  if id = propStartId then
    if value.byte = 1 then
      -- the limit is opened before the task waits for anything
      .ok ({ vehicle with esc := hwEscSetMax vehicle.esc 2000, comms := .startTakeMx }, .startCalled)
    else .ok (vehicle, .handled sppStatusOk)
  else if id = propStopId then
    if value.byte = 1 then
      -- and closed
      .ok ({ vehicle with esc := hwEscSetMax vehicle.esc 1000, comms := .stopTakeMx }, .stopCalled)
    else .ok (vehicle, .handled sppStatusOk)
  else if id = propTelemCapStartId ∨ id = propTelemCapStopId ∨ id = propResetSystemId then
    .ok (vehicle, .handled sppStatusOk)
  else if id = propServoPositionsId then
    .ok ({ vehicle with servoPositions := .ofFn fun i => value.float i }, .handled sppStatusOk)
  else if id = propEscPwmId then
    -- the motor is run directly, without a look at the state of the controller
    let esc := hwEscSetOutput vehicle.esc (value.float 0) true
    .ok ({ vehicle with esc }, .escProgrammed esc.escOutput)
  else
    match tuneControl vehicle.control id value with
    | .ok (some control) => .ok ({ vehicle with control }, .handled sppStatusOk)
    | .ok none => .ok (vehicle, .handled sppStatusUnknownProperty)
    | .error fault => .error fault

def commsStep (vehicle : VehicleState) (timedOut : Bool) : VehicleState × VehicleEvent :=
  match vehicle.comms with
  | .idle => (vehicle, .silent)
  | .startTakeMx =>
    match vehicle.stopFlagMx.await timedOut with
    | some stopFlagMx => ({ vehicle with stopFlagMx, comms := .startClearFlag }, .silent)
    | none => (vehicle, .silent)
  | .startClearFlag => ({ vehicle with stopFlag := false, comms := .startGiveMx }, .silent)
  | .startGiveMx => ({ vehicle with stopFlagMx := vehicle.stopFlagMx.give, comms := .startGiveSem }, .silent)
  | .startGiveSem =>
    ({ vehicle with controlsStartSem := vehicle.controlsStartSem.give, comms := .idle }, .startReturned)
  | .stopTakeMx =>
    match vehicle.stopFlagMx.await timedOut with
    | some stopFlagMx => ({ vehicle with stopFlagMx, comms := .stopSetFlag }, .silent)
    | none => (vehicle, .silent)
  | .stopSetFlag => ({ vehicle with stopFlag := true, comms := .stopGiveMx }, .silent)
  | .stopGiveMx => ({ vehicle with stopFlagMx := vehicle.stopFlagMx.give, comms := .stopTakeSem }, .silent)
  | .stopTakeSem =>
    -- need to take so that we wait again for start flag
    ({ vehicle with controlsStartSem := vehicle.controlsStartSem.take.2, comms := .idle }, .stopReturned)

/-- The steps of `HoverControl_Task`. The branch of a set stop flag gives the mutex twice. -/
def hoverStep (vehicle : VehicleState) (readings : Readings) (timedOut : Bool) : VehicleState × VehicleEvent :=
  match vehicle.hover with
  | .takeFlagMx =>
    match vehicle.stopFlagMx.await timedOut with
    | some stopFlagMx => ({ vehicle with stopFlagMx, hover := .checkFlag }, .silent)
    | none => (vehicle, .silent)
  | .checkFlag => ({ vehicle with hover := if vehicle.stopFlag then .releaseFlagMx else .giveFlagMx }, .silent)
  | .releaseFlagMx => ({ vehicle with stopFlagMx := vehicle.stopFlagMx.give, hover := .idleOutput }, .silent)
  | .idleOutput =>
    let esc := hwEscSetOutputControlBatch vehicle.esc 1000
    ({ vehicle with esc, hover := .updatePwm }, .escProgrammed esc.escOutput)
  | .updatePwm => ({ vehicle with esc := hwUpdatePwm vehicle.esc, hover := .takeStartSem }, .silent)
  | .takeStartSem =>
    -- try to take, if can't take wait
    match vehicle.controlsStartSem.take with
    | (true, controlsStartSem) => ({ vehicle with controlsStartSem, hover := .giveStartSem }, .silent)
    | (false, _) => (vehicle, .silent)
  | .giveStartSem =>
    -- release immediately after so that Stop can take
    ({ vehicle with controlsStartSem := vehicle.controlsStartSem.give, hover := .resetControls }, .silent)
  | .resetControls =>
    ({ vehicle with control := resetControls vehicle.control vehicle.servoPositions, hover := .takeZero }, .silent)
  | .takeZero => ({ vehicle with control := takeZero vehicle.control readings, hover := .giveFlagMx }, .silent)
  | .giveFlagMx => ({ vehicle with stopFlagMx := vehicle.stopFlagMx.give, hover := .enterStep }, .silent)
  | .enterStep =>
    let (control, servoPositions, escOutput) := beginControlStep vehicle.control readings
    ({ vehicle with control, servoPositions, hover := .programEsc escOutput }, .stepEntered)
  | .programEsc pulseWidthUs =>
    let esc := hwEscSetOutputControlBatch vehicle.esc pulseWidthUs
    ({ vehicle with esc, hover := .finishStep }, .escProgrammed esc.escOutput)
  | .finishStep =>
    ({ vehicle with
      esc := hwUpdatePwm vehicle.esc
      control := finishControlStep vehicle.control
      hover := .takeFlagMx }, .silent)

/-- Which task makes a step. A property is written when the command before it is done. -/
inductive VehicleAction where
  | write (id : UInt16) (value : PropertyValue)
  | comms (timedOut : Bool)
  | hover (readings : Readings) (timedOut : Bool)

def vehicleStep (vehicle : VehicleState) : VehicleAction → Except Fault (VehicleState × VehicleEvent)
  | .write id value => if vehicle.comms = .idle then setValue vehicle id value else return (vehicle, .silent)
  | .comms timedOut => return commsStep vehicle timedOut
  | .hover readings timedOut => return hoverStep vehicle readings timedOut

end TvcHopper.Vehicle
