import TvcHopper.Machine.Execution
import TvcHopper.Machine.Semaphores
import TvcHopper.Vehicle.Attitude
import TvcHopper.Vehicle.HoverControl

/-! How the readings get to the control loop: `control_inputs.c`, and what `lqr_control.c` and
`command_control_comms.c` read of it.

`ControlsInputs_Task` measures when it is notified and stores the distance and
the processed readings of the IMU under a mutex each, while the control loop and
the tasks that answer requests copy them. One step is one access to a semaphore,
one word of a copy or one measurement; a schedule says which task makes it.
-/

set_option autoImplicit false

namespace TvcHopper.Vehicle
open Machine

/-- The tasks that answer a request for a value. -/
inductive Reporter where
  | uartListener
  | commandControlComms
  deriving DecidableEq

inductive SamplingTask where
  | inputs
  | control
  | reporter (reporter : Reporter)
  deriving DecidableEq

inductive InputsPc (φ : Type) where
  | waitStart
  | readLidar
  | takeLidarMx (tempDistance : UInt32)
  | storeLidar
  | readImu
  | takeProcMx (data : Vector φ imuProcSize)
  | storeProc
  deriving DecidableEq

/-- Where `HoverControl_Task` is, between two steps or in what a step reads and stores. -/
inductive SamplerPc where
  | checkFlag
  | notifyZero
  | takeLidarZero
  | copyLidarZero
  | takeImuZero
  | copyImuZero
  | takeImu
  | copyImu
  | takeLidar
  | copyLidar
  | notifyNext
  deriving DecidableEq

inductive ReporterPc where
  | idle
  | takeProcMx
  | copyProc
  deriving DecidableEq

/-- The static variables of `control_inputs.c`, those of `lqr_control.c` that are copied to, and the memory that
values are written to. -/
structure Sampling (φ : Type) where
  startCaptureSem : BinarySemaphore
  lidarDistance : Guarded SamplingTask UInt32 1
  imuDataProc : Guarded SamplingTask φ imuProcSize
  currState : Vector φ stateVectorSize
  lidarZero : φ
  imuZero : Vector φ imuProcSize
  value : Reporter → Vector φ imuProcSize
  inputs : InputsPc φ
  control : SamplerPc
  reporter : Reporter → ReporterPc

inductive SamplingEvent (φ : Type) where
  | silent
  | notified
  | captureStarted
  | lidarRead (distance : UInt32)
  | imuRead (data : Vector φ imuProcSize)
  | stateRead (imu : Vector φ imuProcSize) (lidar : φ)
  | valueRead (reporter : Reporter) (imu : Vector φ imuProcSize)
  deriving DecidableEq

inductive SamplingAction (φ : Type) where
  | inputs (distance : UInt32) (imuDataRaw : Vector φ imuRawSize) (timedOut : Bool)
  | control (stopped timedOut : Bool)
  | request (reporter : Reporter)
  | reporter (reporter : Reporter) (timedOut : Bool)

def SamplingAction.timedOut {φ : Type} : SamplingAction φ → Bool
  | .inputs _ _ timedOut | .control _ timedOut | .reporter _ timedOut => timedOut
  | .request _ => false

section Steps
variable {φ : Type} [Field φ] [LinearOrder φ] (math : MathH φ)

def samplingInit (value : Reporter → Vector φ imuProcSize) : Sampling φ where
  startCaptureSem := .empty
  lidarDistance := .idle (.replicate _ 0)
  imuDataProc := .idle (.replicate _ 0)
  currState := .replicate _ 0
  lidarZero := 0
  imuZero := .replicate _ 0
  value
  inputs := .waitStart
  control := .checkFlag
  reporter _ := .idle

def inputsStep (sampling : Sampling φ) (distance : UInt32) (imuDataRaw : Vector φ imuRawSize) (timedOut : Bool) :
    Sampling φ × SamplingEvent φ :=
  match sampling.inputs with
  | .waitStart =>
    -- wait for semaphore
    match sampling.startCaptureSem.take with
    | (true, startCaptureSem) => ({ sampling with startCaptureSem, inputs := .readLidar }, .captureStarted)
    | (false, _) => (sampling, .silent)
  | .readLidar => ({ sampling with inputs := .takeLidarMx distance }, .lidarRead distance)
  | .takeLidarMx tempDistance =>
    match sampling.lidarDistance.enter .inputs (.storing #v[tempDistance]) timedOut with
    | some lidarDistance => ({ sampling with lidarDistance, inputs := .storeLidar }, .silent)
    | none => (sampling, .silent)
  | .storeLidar =>
    match sampling.lidarDistance.move .inputs with
    | (lidarDistance, .released) => ({ sampling with lidarDistance, inputs := .readImu }, .silent)
    | (lidarDistance, _) => ({ sampling with lidarDistance }, .silent)
  | .readImu =>
    -- process IMU data
    let data := processed math imuDataRaw
    ({ sampling with inputs := .takeProcMx data }, .imuRead data)
  | .takeProcMx data =>
    match sampling.imuDataProc.enter .inputs (.storing data) timedOut with
    | some imuDataProc => ({ sampling with imuDataProc, inputs := .storeProc }, .silent)
    | none => (sampling, .silent)
  | .storeProc =>
    match sampling.imuDataProc.move .inputs with
    | (imuDataProc, .released) => ({ sampling with imuDataProc, inputs := .waitStart }, .silent)
    | (imuDataProc, _) => ({ sampling with imuDataProc }, .silent)

def Sampling.stateImu (sampling : Sampling φ) : Vector φ imuProcSize := .ofFn fun i => sampling.currState[i]

theorem stateIdxZ_lt : stateIdxZ < stateVectorSize := by decide

def Sampling.stateLidar (sampling : Sampling φ) : φ := sampling.currState.get ⟨stateIdxZ, stateIdxZ_lt⟩

/-- The steps of `HoverControl_Task` that concern the readings. -/
def samplerStep (sampling : Sampling φ) (stopped timedOut : Bool) : Sampling φ × SamplingEvent φ :=
  match sampling.control with
  | .checkFlag =>
    if stopped then ({ sampling with currState := .replicate _ 0, control := .notifyZero }, .silent)
    else ({ sampling with control := .takeImu }, .silent)
  | .notifyZero =>
    ({ sampling with startCaptureSem := sampling.startCaptureSem.give, control := .takeLidarZero }, .notified)
  | .takeLidarZero =>
    match sampling.lidarDistance.enter .control (.reading 0) timedOut with
    | some lidarDistance => ({ sampling with lidarDistance, control := .copyLidarZero }, .silent)
    | none => (sampling, .silent)
  | .copyLidarZero =>
    match sampling.lidarDistance.move .control with
    | (lidarDistance, .copied _ distance) =>
      ({ sampling with lidarDistance, lidarZero := (distance.toNat : φ) }, .silent)
    | (lidarDistance, _) => ({ sampling with lidarDistance, control := .takeImuZero }, .silent)
  | .takeImuZero =>
    match sampling.imuDataProc.enter .control (.reading 0) timedOut with
    | some imuDataProc => ({ sampling with imuDataProc, control := .copyImuZero }, .silent)
    | none => (sampling, .silent)
  | .copyImuZero =>
    match sampling.imuDataProc.move .control with
    | (imuDataProc, .copied i word) => ({ sampling with imuDataProc, imuZero := sampling.imuZero.set i word }, .silent)
    | (imuDataProc, _) => ({ sampling with imuDataProc, control := .takeImu }, .silent)
  | .takeImu =>
    match sampling.imuDataProc.enter .control (.reading 0) timedOut with
    | some imuDataProc => ({ sampling with imuDataProc, control := .copyImu }, .silent)
    | none => (sampling, .silent)
  | .copyImu =>
    match sampling.imuDataProc.move .control with
    | (imuDataProc, .copied i word) =>
      have room : i.val < stateVectorSize := Nat.lt_of_lt_of_le i.isLt (by decide)
      ({ sampling with imuDataProc, currState := sampling.currState.set i.val word room }, .silent)
    | (imuDataProc, _) => ({ sampling with imuDataProc, control := .takeLidar }, .silent)
  | .takeLidar =>
    match sampling.lidarDistance.enter .control (.reading 0) timedOut with
    | some lidarDistance => ({ sampling with lidarDistance, control := .copyLidar }, .silent)
    | none => (sampling, .silent)
  | .copyLidar =>
    match sampling.lidarDistance.move .control with
    | (lidarDistance, .copied _ distance) =>
      ({ sampling with lidarDistance, currState := sampling.currState.set stateIdxZ (distance.toNat : φ) stateIdxZ_lt },
        .silent)
    | (lidarDistance, _) =>
      -- the step works on what it has read from here on, and the next one begins with all of it read again
      ({ sampling with lidarDistance, control := .notifyNext }, .stateRead sampling.stateImu sampling.stateLidar)
  | .notifyNext =>
    -- start next reading
    ({ sampling with startCaptureSem := sampling.startCaptureSem.give, control := .checkFlag }, .notified)

def reporterStep (sampling : Sampling φ) (reporter : Reporter) (timedOut : Bool) : Sampling φ × SamplingEvent φ :=
  match sampling.reporter reporter with
  | .idle => (sampling, .silent)
  | .takeProcMx =>
    match sampling.imuDataProc.enter (.reporter reporter) (.reading 0) timedOut with
    | some imuDataProc =>
      ({ sampling with imuDataProc, reporter := Function.update sampling.reporter reporter .copyProc }, .silent)
    | none => (sampling, .silent)
  | .copyProc =>
    match sampling.imuDataProc.move (.reporter reporter) with
    | (imuDataProc, .copied i word) =>
      ({ sampling with
        imuDataProc
        value := Function.update sampling.value reporter ((sampling.value reporter).set i word) }, .silent)
    -- the mutex is given back, and the whole value has been read
    | (imuDataProc, _) =>
      ({ sampling with imuDataProc, reporter := Function.update sampling.reporter reporter .idle },
        .valueRead reporter (sampling.value reporter))

def samplingStep (sampling : Sampling φ) : SamplingAction φ → Except Fault (Sampling φ × SamplingEvent φ)
  | .inputs distance imuDataRaw timedOut => return inputsStep math sampling distance imuDataRaw timedOut
  | .control stopped timedOut => return samplerStep sampling stopped timedOut
  | .request reporter =>
    if sampling.reporter reporter = .idle then
      return ({ sampling with reporter := Function.update sampling.reporter reporter .takeProcMx }, .silent)
    else return (sampling, .silent)
  | .reporter reporter timedOut => return reporterStep sampling reporter timedOut

end Steps

end TvcHopper.Vehicle
