import TvcHopper.Imu.SensorValues
import TvcHopper.Imu.Transfers
import TvcHopper.Machine.Execution
import TvcHopper.Machine.Records

/-! The sensor hub protocol above the transport.

A payload is a row of reports, and the id of a report tells its length. The last
report may be cut off: it is read with whatever stands behind the payload in the
buffer of the transport. Signed arithmetic wraps around, as the compiler has it.
-/

set_option autoImplicit false

namespace TvcHopper.Imu
open Machine

abbrev chanExecutableDevice : UInt8 := 1
abbrev chanSensorhubControl : UInt8 := 2
abbrev chanSensorhubInput : UInt8 := 3
abbrev chanSensorhubInputWake : UInt8 := 4
abbrev chanSensorhubInputGirv : UInt8 := 5

abbrev executableDeviceRespResetComplete : UInt8 := 1

abbrev sensorhubFlushCompleted : UInt8 := 0xEF
abbrev sensorhubCommandResp : UInt8 := 0xF1
abbrev sensorhubProdIdResp : UInt8 := 0xF8
abbrev sensorhubProdIdReq : UInt8 := 0xF9
abbrev sensorhubTimestampRebase : UInt8 := 0xFA
abbrev sensorhubBaseTimestampRef : UInt8 := 0xFB
abbrev sensorhubGetFeatureResp : UInt8 := 0xFC
abbrev sensorhubSetFeatureCmd : UInt8 := 0xFD

abbrev featChangeSensitivityRelative : UInt8 := (1 : UInt8) <<< (0 : UInt8)
abbrev featChangeSensitivityEnabled : UInt8 := (1 : UInt8) <<< (1 : UInt8)
abbrev featWakeEnabled : UInt8 := (1 : UInt8) <<< (2 : UInt8)
abbrev featAlwaysOnEnabled : UInt8 := (1 : UInt8) <<< (3 : UInt8)
abbrev featSniffEnabled : UInt8 := (1 : UInt8) <<< (4 : UInt8)

abbrev sh2CmdInitialize : UInt8 := 4
abbrev sh2InitUnsolicited : UInt8 := 0x80

abbrev sh2GyroIntegratedRv : UInt8 := 0x2A

def sh2ReportLens : List (UInt8 × UInt8) :=
  [ -- sensor reports
    (0x01, 10), (0x02, 10), (0x03, 10), (0x04, 10), (0x05, 14), (0x06, 10), (0x07, 16), (0x08, 12), (0x09, 14),
    (0x0A, 8), (0x0B, 8), (0x0C, 6), (0x0D, 6), (0x0E, 6), (0x0F, 16), (0x10, 5), (0x11, 12), (0x12, 6), (0x13, 6),
    (0x14, 16), (0x15, 16), (0x16, 16), (0x18, 8), (0x19, 6), (0x1A, 6), (0x1B, 8), (0x1C, 6), (0x1E, 16), (0x1F, 6),
    (0x20, 6), (0x21, 6), (0x22, 6), (0x23, 6), (0x28, 14), (0x29, 12), (0x2A, 14), (0x2B, 6), (0x2C, 24), (0x2D, 60),
    (0x2E, 12),
    -- other response types
    (0xEF, 2), (0xF1, 16), (0xF3, 16), (0xF5, 4), (0xF8, 16), (0xFA, 5), (0xFB, 5), (0xFC, 17)]

def getReportLen (reportId : UInt8) : UInt8 :=
  match sh2ReportLens.find? fun entry => entry.1 == reportId with
  | some entry => entry.2
  | none => 0

structure ProductId where
  resetCause : UInt8
  swVersionMajor : UInt8
  swVersionMinor : UInt8
  swPartNumber : UInt32
  swBuildNumber : UInt32
  swVersionPatch : UInt16
  reserved0 : UInt8
  reserved1 : UInt8
  deriving DecidableEq

abbrev sh2MaxProdIdEntries : Nat := 5

structure ProductIds where
  entry : Vector ProductId sh2MaxProdIdEntries
  numEntries : UInt8

structure SensorConfig where
  changeSensitivityEnabled : Bool
  changeSensitivityRelative : Bool
  wakeupEnabled : Bool
  alwaysOnEnabled : Bool
  sniffEnabled : Bool
  changeSensitivity : UInt16
  reportIntervalUs : UInt32
  batchIntervalUs : UInt32
  sensorSpecific : UInt32
  deriving DecidableEq

/-- The parameters of an operation, and what its pointer points to. -/
inductive OpData where
  | getProdIds (pProdIds : Option ProductIds) (nextEntry expectedEntries : UInt8)
  | getSensorConfig (pConfig : SensorConfig) (sensorId : UInt8)
  | setSensorConfig (pConfig : SensorConfig) (sensorId : UInt8)

/-- `inProgress` tells whether `pOp` is set; `lastHostInt` and `rollovers` are the static variables of
`touSTimestamp`. -/
structure Sh2 where
  resetComplete : Bool
  inProgress : Bool
  opStatus : Int
  opData : OpData
  sensorCallback : Bool
  execBadPayload : UInt32
  emptyPayloads : UInt32
  unknownReportIds : UInt32
  lastHostInt : UInt32
  rollovers : UInt32

def Sh2.opened : Sh2 where
  resetComplete := false
  inProgress := false
  opStatus := sh2Ok
  opData := .getProdIds none 0 0
  sensorCallback := false
  execBadPayload := 0
  emptyPayloads := 0
  unknownReportIds := 0
  lastHostInt := 0
  rollovers := 0

abbrev sh2MaxSensorEventLen : Nat := 60

structure Sh2SensorEvent where
  timestampUs : UInt64
  delayUs : Int64
  len : UInt8
  reportId : UInt8
  report : Vector UInt8 sh2MaxSensorEventLen
  deriving DecidableEq

/-- A handler's loop over the reports of a payload; `handle` is given the payload from the report on. -/
def eachReport {σ : Type} (unknown : σ → σ) (handle : σ → List UInt8 → UInt8 → Except Fault σ) (payload : List UInt8)
    (len : UInt16) : Nat → UInt16 → σ → Except Fault σ
  | 0, _, _ => .error .diverges
  | fuel + 1, cursor, state =>
    if cursor < len then do
      let reportId ← load payload cursor.toNat
      let reportLen := getReportLen reportId
      if reportLen = 0 then return unknown state
      let state ← handle state (payload.drop cursor.toNat) reportLen
      eachReport unknown handle payload len fuel (cursor + reportLen.toUInt16) state
    else .ok state

/-! ## Operations -/

def opCompleted (sh2 : Sh2) (status : Int) : Sh2 := { sh2 with opStatus := status, inProgress := false }

def loadProductId (resp : List UInt8) : Except Fault ProductId := do
  let resetCause ← load resp 1
  let swVersionMajor ← load resp 2
  let swVersionMinor ← load resp 3
  let swPartNumber ← load32 resp 4
  let swBuildNumber ← load32 resp 8
  let swVersionPatch ← load16 resp 12
  let reserved0 ← load resp 14
  let reserved1 ← load resp 15
  return ⟨resetCause, swVersionMajor, swVersionMinor, swPartNumber, swBuildNumber, swVersionPatch, reserved0, reserved1⟩

/-- The product id is stored, if there is room: the FSP200 has five of them. -/
def storeProductId (prodIds : ProductIds) (nextEntry expectedEntries : UInt8) (resp : List UInt8) :
    Except Fault (ProductIds × UInt8 × UInt8) := do
  if nextEntry < expectedEntries then
    let prodId ← loadProductId resp
    let entry ← storeCell prodIds.entry nextEntry.toNat prodId
    return ({ prodIds with entry }, nextEntry + 1, if prodId.swPartNumber = 10004095 then 5 else expectedEntries)
  else return (prodIds, nextEntry, expectedEntries)

def getProdIdRx (sh2 : Sh2) (pProdIds : Option ProductIds) (nextEntry expectedEntries : UInt8) (payload : List UInt8) :
    Except Fault Sh2 := do
  let reportId ← load payload 0
  if reportId ≠ sensorhubProdIdResp then return sh2
  match pProdIds with
  | none => .error .nullPointer
  | some prodIds =>
    let (prodIds, nextEntry, expectedEntries) ← storeProductId prodIds nextEntry expectedEntries payload
    if expectedEntries ≤ nextEntry then
      let prodIds := { prodIds with numEntries := nextEntry }
      return opCompleted { sh2 with opData := .getProdIds (some prodIds) nextEntry expectedEntries } sh2Ok
    else return { sh2 with opData := .getProdIds (some prodIds) nextEntry expectedEntries }

def getSensorConfigRx (sh2 : Sh2) (sensorId : UInt8) (payload : List UInt8) : Except Fault Sh2 := do
  let reportId ← load payload 0
  -- skip this if it is not the right report id
  if reportId ≠ sensorhubGetFeatureResp then return sh2
  let featureReportId ← load payload 1
  -- skip it when it is for another sensor
  if featureReportId ≠ sensorId then return sh2
  let flags ← load payload 2
  let changeSensitivity ← load16 payload 3
  let reportIntervalUs ← load32 payload 5
  let batchIntervalUs ← load32 payload 9
  let sensorSpecific ← load32 payload 13
  let pConfig : SensorConfig :=
    { changeSensitivityEnabled := flags &&& featChangeSensitivityEnabled != 0
      changeSensitivityRelative := flags &&& featChangeSensitivityRelative != 0
      wakeupEnabled := flags &&& featWakeEnabled != 0
      alwaysOnEnabled := flags &&& featAlwaysOnEnabled != 0
      sniffEnabled := flags &&& featSniffEnabled != 0
      changeSensitivity, reportIntervalUs, batchIntervalUs, sensorSpecific }
  -- complete this operation
  return opCompleted { sh2 with opData := .getSensorConfig pConfig sensorId } sh2Ok

def opRx (sh2 : Sh2) (payload : List UInt8) : Except Fault Sh2 :=
  if sh2.inProgress then
    match sh2.opData with
    | .getProdIds pProdIds nextEntry expectedEntries => getProdIdRx sh2 pProdIds nextEntry expectedEntries payload
    | .getSensorConfig _ sensorId => getSensorConfigRx sh2 sensorId payload
    | .setSensorConfig _ _ => .ok sh2
  else .ok sh2

/-! ## The handlers of the channels -/

def countUnknown (sh2 : Sh2) : Sh2 := { sh2 with unknownReportIds := sh2.unknownReportIds + 1 }

/-- What is read of a report before the operation in progress gets it. `HalCallback` does nothing with the answer to a
feature request. -/
def controlReport (sh2 : Sh2) (report : List UInt8) (_reportLen : UInt8) : Except Fault Sh2 := do
  let reportId ← load report 0
  if reportId = sensorhubCommandResp then
    let command ← load report 2
    if command = sh2CmdInitialize ||| sh2InitUnsolicited then
      let _ ← load report 6
  else if reportId = sensorhubGetFeatureResp then
    let _ ← loadRange report 1 16
  opRx sh2 report

def sensorhubControlHdlr (sh2 : Sh2) (payload : List UInt8) (len : UInt16) : Except Fault Sh2 :=
  if len = 0 then .ok { sh2 with emptyPayloads := sh2.emptyPayloads + 1 }
  else eachReport countUnknown controlReport payload len (len.toNat + 1) 0 sh2

/-- Counts the rollovers of the host's timestamps to produce the upper bits. -/
def touSTimestamp (sh2 : Sh2) (hostInt : UInt32) (referenceDelta : Int32) (delay : UInt16) : Sh2 × UInt64 :=
  let rollovers := if hostInt < sh2.lastHostInt then sh2.rollovers + 1 else sh2.rollovers
  let ticks : Int32 := referenceDelta + delay.toUInt32.toInt32
  ({ sh2 with lastHostInt := hostInt, rollovers },
    (rollovers.toUInt64 <<< 32) + (hostInt + (ticks * 100).toUInt32).toUInt64)

/-- The local variables of `sensorhubInputHdlr`, and the events that the callback was given. -/
structure InputReading where
  sh2 : Sh2
  referenceDelta : Int32
  report : Vector UInt8 sh2MaxSensorEventLen
  events : List Sh2SensorEvent

def inputReport (timestamp : UInt32) (input : InputReading) (report : List UInt8) (reportLen : UInt8) :
    Except Fault InputReading := do
  let reportId ← load report 0
  if reportId = sensorhubBaseTimestampRef then
    let timebase ← load32 report 1
    return { input with referenceDelta := -timebase.toInt32 }
  else if reportId = sensorhubTimestampRebase then
    let timebase ← load32 report 1
    return { input with referenceDelta := input.referenceDelta + timebase.toInt32 }
  else if reportId = sensorhubFlushCompleted then
    -- as if it had arrived on the control channel
    let sh2 ← opRx input.sh2 report
    return { input with sh2 }
  else
    let status ← load report 2
    let low ← load report 3
    let delay : UInt16 := (status &&& 0xFC).toUInt16 <<< 6 + low.toUInt16
    let (sh2, timestampUs) := touSTimestamp input.sh2 timestamp input.referenceDelta delay
    let ticks : Int32 := input.referenceDelta + delay.toUInt32.toInt32
    let bytes ← loadRange report 0 reportLen.toNat
    let report ← storeCells input.report 0 bytes
    let event : Sh2SensorEvent := ⟨timestampUs, (ticks * 100).toInt64, reportLen, reportId, report⟩
    return { input with sh2, report, events := if sh2.sensorCallback then input.events ++ [event] else input.events }

/-- `stack` is what stands in the local event at first. -/
def sensorhubInputHdlr (stack : Vector UInt8 sh2MaxSensorEventLen) (sh2 : Sh2) (payload : List UInt8) (len : UInt16)
    (timestamp : UInt32) : Except Fault (Sh2 × List Sh2SensorEvent) := do
  let unknown (input : InputReading) : InputReading := { input with sh2 := countUnknown input.sh2 }
  let input ← eachReport unknown (inputReport timestamp) payload len (len.toNat + 1) 0 ⟨sh2, 0, stack, []⟩
  return (input.sh2, input.events)

/-- The payload is a row of reports of one kind, which have no id. -/
def gyroRvLoop (payload : List UInt8) (len : UInt16) (timestamp : UInt32) :
    Nat → UInt16 → Vector UInt8 sh2MaxSensorEventLen → List Sh2SensorEvent → Except Fault (List Sh2SensorEvent)
  | 0, _, _, _ => .error .diverges
  | fuel + 1, cursor, report, events =>
    if cursor < len then do
      let reportLen := getReportLen sh2GyroIntegratedRv
      let bytes ← loadRange payload cursor.toNat reportLen.toNat
      let report ← storeCells report 0 bytes
      -- the delay of the event is not set
      let event : Sh2SensorEvent := ⟨timestamp.toUInt64, 0, reportLen, sh2GyroIntegratedRv, report⟩
      gyroRvLoop payload len timestamp fuel (cursor + reportLen.toUInt16) report (events ++ [event])
    else .ok events

def sensorhubInputGyroRvHdlr (stack : Vector UInt8 sh2MaxSensorEventLen) (sh2 : Sh2) (payload : List UInt8)
    (len : UInt16) (timestamp : UInt32) : Except Fault (Sh2 × List Sh2SensorEvent) := do
  let events ← gyroRvLoop payload len timestamp (len.toNat + 1) 0 stack []
  return (sh2, if sh2.sensorCallback then events else [])

def executableDeviceHdlr (sh2 : Sh2) (payload : List UInt8) (len : UInt16) : Except Fault Sh2 := do
  if len ≠ 1 then return { sh2 with execBadPayload := sh2.execBadPayload + 1 }
  let response ← load payload 0
  if response = executableDeviceRespResetComplete then return { sh2 with resetComplete := true }
  else return { sh2 with execBadPayload := sh2.execBadPayload + 1 }

/-! ## The hub -/

abbrev Hub : Type := Shtp × Sh2

/-- `sh2_open` registers its callbacks with the transport. -/
def sh2Listen (shtp : Shtp) : Except Fault Shtp := do
  let (shtp, _) ← shtpListenChan { shtp with eventCallback := true } chanSensorhubControl
  let (shtp, _) ← shtpListenChan shtp chanSensorhubInput
  let (shtp, _) ← shtpListenChan shtp chanSensorhubInputWake
  let (shtp, _) ← shtpListenChan shtp chanSensorhubInputGirv
  let (shtp, _) ← shtpListenChan shtp chanExecutableDevice
  return shtp

/-- The listeners that `sh2_open` registers; `HalCallback` does nothing with an event of the transport. -/
def dispatch (stack : Vector UInt8 sh2MaxSensorEventLen) (sh2 : Sh2) : ShtpCall →
    Except Fault (Sh2 × List Sh2SensorEvent)
  | .event _ => .ok (sh2, [])
  | .payload chan payload len timestamp =>
    if chan = chanExecutableDevice then do
      let sh2 ← executableDeviceHdlr sh2 payload.toList len
      return (sh2, [])
    else if chan = chanSensorhubControl then do
      let sh2 ← sensorhubControlHdlr sh2 payload.toList len
      return (sh2, [])
    else if chan = chanSensorhubInput ∨ chan = chanSensorhubInputWake then
      sensorhubInputHdlr stack sh2 payload.toList len timestamp
    else if chan = chanSensorhubInputGirv then sensorhubInputGyroRvHdlr stack sh2 payload.toList len timestamp
    -- no listener on the other channels
    else .ok (sh2, [])

/-- `shtp_service` with a transfer that was read, and the events that come out of it. -/
def hubService (stack : Vector UInt8 sh2MaxSensorEventLen) : Hub → Received →
    Except Fault (Hub × List Sh2SensorEvent) :=
  cascade rxStep (dispatch stack)

end TvcHopper.Imu
