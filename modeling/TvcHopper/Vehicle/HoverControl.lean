import Mathlib.Tactic.Linarith
import Mathlib.Data.Rat.Floor
import TvcHopper.Machine.Memory

/-! The hover controller (`lqr_control.c`), over exact rational values.

A control step reads the sensors, computes the actuator inputs from the gains
and moves the vanes; the motor is programmed behind it, and the state of the
step is kept for the next one. The parameters can be written between the two.
-/

set_option autoImplicit false

namespace TvcHopper.Vehicle
open Machine

/-! ## Constants and state -/

abbrev setpointMinZNonzero : ℚ := 0.07
abbrev setpointMaxZ : ℚ := 1
abbrev maxZInt : ℚ := 50
abbrev maxEsc : ℚ := 1800
/-- In milliseconds. -/
abbrev controlLoopInterval : ℚ := 5
abbrev landingSpeedFactorClose : ℚ := 1.2
abbrev landingSpeedFactorFar : ℚ := 0.2
abbrev escRateLimitSpinup : ℚ := 1
abbrev escRateLimitNormal : ℚ := 1
abbrev intAboveSpScale : ℚ := 0.4

abbrev stateVectorSize : Nat := 9
abbrev actuationVectorSize : Nat := 5
abbrev stateIdxRoll : Nat := 0
abbrev stateIdxPitch : Nat := 1
abbrev stateIdxZ : Nat := 6
abbrev stateIdxVz : Nat := 7
abbrev stateIdxZint : Nat := 8
abbrev actuatorIdxEsc : Nat := 4
abbrev setpointZ : Nat := 2

/-- One row for each actuator. -/
abbrev Gains := Vector ℚ (actuationVectorSize * stateVectorSize)

inductive HovctrlStatus where
  | stationary
  | takeoff
  | flying
  | landingClose
  | landingFar
  deriving DecidableEq, Repr

/-- The static variables of `lqr_control.c` that the control step uses. -/
structure HoverControl where
  ref : Vector ℚ stateVectorSize
  currState : Vector ℚ stateVectorSize
  prevState : Vector ℚ stateVectorSize
  zeroedImuData : Vector ℚ 6
  actuatorInputNow : Vector ℚ actuationVectorSize
  actuatorInputLast : Vector ℚ actuationVectorSize
  errorZint : ℚ
  vz : ℚ
  zLast : ℚ
  lastTakeoffTime : UInt32
  kHover : Gains
  lidarZero : ℚ
  imuZero : Vector ℚ 6
  escRateLimitSpinup : ℚ
  escRateLimitNormal : ℚ
  maxZInt : ℚ
  escMaxOutput : ℚ
  escRateLimit : ℚ
  hoverStatus : HovctrlStatus
  deriving DecidableEq

/-- What a step gets from the sensors and the clock. -/
structure Readings where
  imu : Vector ℚ 6
  lidar : ℚ
  tickCount : UInt32

/-! ## The control step -/

def rateLimit (last now alpha : ℚ) : ℚ := now * alpha + (1 - alpha) * last

def limit (value min max : ℚ) : ℚ :=
  if value > max then max
  else if value < min then min
  else value

def Gains.entry (a : Gains) (r : Fin actuationVectorSize) (i : Fin stateVectorSize) : ℚ :=
  have inside : r.val * 9 + i.val < 45 := by
    have row : r.val < 5 := r.isLt
    have column : i.val < 9 := i.isLt
    omega
  a[r.val * 9 + i.val]

/-- `MultiplyMatrix(Result, A, B, 5, 9, 9)`. -/
def multiplyMatrix (a : Gains) (b : Vector ℚ stateVectorSize) : Vector ℚ actuationVectorSize :=
  .ofFn fun r => (List.finRange stateVectorSize).foldl (fun sum i => sum + a.entry r i * b[i]) 0

def computeError (a b : Vector ℚ stateVectorSize) : Vector ℚ stateVectorSize := .ofFn fun i => a[i] - b[i]

def setStatus (control : HoverControl) (errorZ : ℚ) (tickCount : UInt32) : HoverControl :=
  if control.ref[stateIdxZ] = 0 then
    { control with
      lastTakeoffTime := tickCount
      hoverStatus :=
        if errorZ > -1 * (control.lidarZero * 0.01 + 0.01) then .stationary
        else if errorZ > -1 * setpointMinZNonzero then .landingClose
        else .landingFar }
  else if control.currState[stateIdxZ] < setpointMinZNonzero then { control with hoverStatus := .takeoff }
  else { control with hoverStatus := .flying }

def adjustZError (status : HovctrlStatus) (errorZ : ℚ) : ℚ :=
  match status with
  | .stationary => 0
  | .landingClose => errorZ * landingSpeedFactorClose
  | .landingFar => errorZ * landingSpeedFactorFar
  | .takeoff | .flying => errorZ

def computeZInt (control : HoverControl) (errorZ : ℚ) : HoverControl :=
  let step := errorZ * (controlLoopInterval / 1000)
  let errorZint := control.errorZint + (if errorZ < 0 then step * intAboveSpScale else step)
  { control with errorZint := limit errorZint 0 control.maxZInt }

def computeVz (control : HoverControl) (zNow : ℚ) : HoverControl :=
  let vzNow := (zNow - control.zLast) / (controlLoopInterval / 1000)
  -- averages current and last
  { control with vz := rateLimit vzNow control.vz 0.5 }

/-- The readings without their zero, the altitude in metres and filtered, and the vertical speed. -/
def readState (control : HoverControl) (readings : Readings) : HoverControl :=
  let imu : Vector ℚ 6 := .ofFn fun i => readings.imu[i] - control.imuZero[i]
  let z := rateLimit control.prevState[stateIdxZ] ((readings.lidar - control.lidarZero) / 100) 0.5
  let control := computeVz { control with zeroedImuData := imu } z
  { control with
    currState := .ofFn fun i =>
      if imuIndex : i.val < 6 then imu[i.val]
      else if i.val = stateIdxZ then z
      else if i.val = stateIdxVz then control.vz
      else control.currState[i] }

/-- The altitude of the step: the reading, filtered with the altitude of the step before. -/
def altitude (control : HoverControl) (readings : Readings) : ℚ :=
  rateLimit control.prevState[stateIdxZ] ((readings.lidar - control.lidarZero) / 100) 0.5

/-- The step finds the vehicle in the air and is to hold it there. -/
def Flying (control : HoverControl) (readings : Readings) : Prop :=
  control.ref[stateIdxZ] ≠ 0 ∧ setpointMinZNonzero ≤ altitude control readings

/-- The error that is multiplied with the gains, with what is accumulated of it. -/
def controlError (control : HoverControl) (tickCount : UInt32) : HoverControl × Vector ℚ stateVectorSize :=
  let error := computeError control.ref control.currState
  let control := setStatus control error[stateIdxZ] tickCount
  let error := error.set stateIdxZ (adjustZError control.hoverStatus error[stateIdxZ])
  let control :=
    if control.actuatorInputLast[actuatorIdxEsc] < control.escMaxOutput then computeZInt control error[stateIdxZ]
    else control
  (control, error.set stateIdxZint control.errorZint)

def HoverControl.throttle (control : HoverControl) : ℚ := control.actuatorInputLast[actuatorIdxEsc]

/-- The configured maximum, as a motor input. -/
def HoverControl.throttleLimit (control : HoverControl) : ℚ := (control.escMaxOutput - 1000) / 1000

/-- How far the vehicle is below its target. -/
def altitudeError (control : HoverControl) (readings : Readings) : ℚ :=
  control.ref[stateIdxZ] - altitude control readings

def statusFound (control : HoverControl) (readings : Readings) : HovctrlStatus :=
  (setStatus (readState control readings) (altitudeError control readings) readings.tickCount).hoverStatus

def errorSeen (control : HoverControl) (readings : Readings) : Vector ℚ stateVectorSize :=
  (controlError (readState control readings) readings.tickCount).2

def throttleAsked (control : HoverControl) (readings : Readings) : ℚ :=
  (multiplyMatrix control.kHover (errorSeen control readings))[actuatorIdxEsc]

/-- The vehicle is told to land and is found on the ground, up to a centimetre. -/
def Standing (control : HoverControl) (readings : Readings) : Prop :=
  control.ref[stateIdxZ] = 0 ∧ altitudeError control readings > -1 * (control.lidarZero * 0.01 + 0.01)

/-- The vane angles around 90 degrees; opposite servos are flipped. -/
def vaneInput (product : Vector ℚ actuationVectorSize) (i : Fin 4) : ℚ :=
  let input := product[i.val]
  limit (if i.val = 1 ∨ i.val = 2 then input * -1 else input) (-45) 45 + 90

/-- The motor input between 0 and the limit, filtered. -/
def escInput (control : HoverControl) (product : ℚ) : ℚ :=
  rateLimit control.actuatorInputLast[actuatorIdxEsc] (limit product 0 ((control.escMaxOutput - 1000) / 1000))
    control.escRateLimit

/-- `ExecuteControlStep` up to the motor: the positions of the vanes and the pulse width it asks for. -/
def beginControlStep (control : HoverControl) (readings : Readings) : HoverControl × Vector ℚ 4 × ℚ :=
  let (control, error) := controlError (readState control readings) readings.tickCount
  let product := multiplyMatrix control.kHover error
  let control :=
    if control.hoverStatus ≠ .flying then { control with escRateLimit := control.escRateLimitNormal } else control
  let positions : Vector ℚ 4 := .ofFn (vaneInput product)
  let esc := escInput control product[actuatorIdxEsc]
  let now : Vector ℚ actuationVectorSize := .ofFn fun i => if vane : i.val < 4 then positions[i.val] else esc
  ({ control with actuatorInputNow := now }, positions, esc / 0.001 + 1000)

/-- What `ExecuteControlStep` keeps for the next step. -/
def finishControlStep (control : HoverControl) : HoverControl :=
  { control with
    zLast := control.currState[stateIdxZ]
    actuatorInputLast := control.actuatorInputNow
    prevState := control.currState }

def resetControls (control : HoverControl) (servoPositions : Vector ℚ 4) : HoverControl :=
  { control with
    errorZint := 0
    vz := 0
    zLast := 0
    ref := .replicate _ 0
    currState := .replicate _ 0
    actuatorInputLast := .ofFn fun i => if vane : i.val < 4 then servoPositions[i.val] else 0 }

/-- The zero of the readings, taken while the vehicle stands. -/
def takeZero (control : HoverControl) (readings : Readings) : HoverControl :=
  { control with lidarZero := readings.lidar, imuZero := readings.imu }

/-! ## Parameters -/

def hoverControlSetReference (control : HoverControl) (setpoints : Nat → ℚ) : HoverControl :=
  { control with
    ref := control.ref.set stateIdxZ
      (if setpoints setpointZ ≤ 0 then 0 else limit (setpoints setpointZ) setpointMinZNonzero setpointMaxZ) }

/-- The conversion of a number to an `int`: the fraction is cut off. -/
def truncate (value : ℚ) : ℤ := value.num.tdiv value.den

/-- `memcpy` of nine gains; a place outside of the gains is a fault. -/
def hoverControlSetK (control : HoverControl) (newK : Nat → ℚ) : Except Fault HoverControl := do
  let row := truncate (newK 0 * 9)
  if row < 0 then .error .outOfBounds
  else
    let kHover ← storeCells control.kHover row.toNat ((List.range 9).map fun i => newK (i + 1))
    return { control with kHover }

def hoverControlSetPitchOffset (control : HoverControl) (pitchOffset : ℚ) : HoverControl :=
  { control with imuZero := control.imuZero.set stateIdxPitch (control.imuZero[stateIdxPitch] + pitchOffset) }

def hoverControlSetRollOffset (control : HoverControl) (rollOffset : ℚ) : HoverControl :=
  { control with imuZero := control.imuZero.set stateIdxRoll (control.imuZero[stateIdxRoll] + rollOffset) }

/-- `K_hover` as it is defined. -/
def initialGains : Gains := #v[
  70.6836, 0.0668, 0.1582, 4.1854, 0.0072, 0.4364, 0, 0, 0,
  0.1475, -70.6568, -0.1584, 0.0064, -5.0582, -0.4367, 0, 0, 0,
  70.7375, 0.1743, -0.1580, 4.1885, 0.0147, -0.4357, 0, 0, 0,
  0.0936, -70.7643, 0.1579, 0.0033, -5.0657, 0.4354, 0, 0, 0,
  0, 0, 0, 0, 0, 0, 0.3679, 0.1768, 0.1000]

def hoverControlInit : HoverControl where
  ref := .replicate _ 0
  currState := .replicate _ 0
  prevState := .replicate _ 0
  zeroedImuData := .replicate _ 0
  actuatorInputNow := .replicate _ 0
  actuatorInputLast := .replicate _ 0
  errorZint := 0
  vz := 0
  zLast := 0
  lastTakeoffTime := 0
  kHover := initialGains
  lidarZero := 0
  imuZero := .replicate _ 0
  escRateLimitSpinup := escRateLimitSpinup
  escRateLimitNormal := escRateLimitNormal
  maxZInt := maxZInt
  escMaxOutput := maxEsc
  escRateLimit := escRateLimitSpinup
  hoverStatus := .stationary

end TvcHopper.Vehicle
