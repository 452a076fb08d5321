import TvcHopper.Spp.Host
import TvcHopper.Telemetry.Incoming

/-! The telemetry server (`telemetry_comms.cpp`).

The server is an application of the host engine. It keeps the last value of each
property that it was asked for or was sent, and starts streams into an array of
its own. Bytes for the vehicle are what the engine gives to `SendMessage`, bytes
for the viewer what is given to `sendToClient`.
-/

set_option autoImplicit false

namespace TvcHopper.Telemetry
open Machine Spp

/-- `BUFFER_SIZE`, the number of definitions. -/
abbrev bufferSize : Nat := 100

abbrev sppStreamRead : UInt8 := 0x20

/-- `def` points into the definitions of the engine, or is null. -/
structure PropValue where
  definition : Option Nat
  timestamp : UInt32
  buffer : List UInt8
  deriving DecidableEq, Repr

/-- `streams_` are the stream objects of the engine, `prop_values_` is a map. -/
structure TelemetryComms where
  spp : SppHostEngine
  defaultClient : SppAddress
  propValues : UInt16 → Option PropValue
  streamCount : Nat

/-- What was in the memory of the object before its constructor ran. -/
structure Storage where
  propDefsBuffer : Vector SppPropertyDefinition bufferSize
  addressBuffer : Vector UInt8 sppConnectionsMax
  streams : Vector SppStream sppStreamMaxCount
  spp : SppHostEngine

/-- What the server does on an event: the callbacks of the engine, and the bytes for the viewer. -/
structure Output where
  effects : List HostEffect
  answers : List (List UInt8)
  deriving DecidableEq

def serverParams (storage : Storage) : SppHostEngineInitParams where
  defsBuffer := storage.propDefsBuffer.toList
  addressBuffer := storage.addressBuffer.toList
  defsBufferSize := 100
  addressLength := 1
  callbacks := firstByteCallbacks
  hostAddress := ⟨.external [0x0], 0⟩

def telemetryComms (storage : Storage) : TelemetryComms where
  spp := sppHostEngineInit (serverParams storage) { storage.spp with streamObjects := storage.streams.toList }
  defaultClient := ⟨.external [0x1], 0⟩
  propValues := fun _ => none
  streamCount := 0

/-- `start` with a serial port. The engine moves the address of `default_client` into its own buffer. -/
def start (comms : TelemetryComms) : Except Fault (TelemetryComms × Output) := do
  let (_, defaultClient) ← sppAddClient comms.spp comms.defaultClient
  let (spp, effects) ← sppConnectToClient comms.spp comms.defaultClient
  return ({ comms with spp, defaultClient }, ⟨effects, []⟩)

/-! ## Values -/

/-- A new entry keeps what the lookup finds at that time. -/
def getValue (comms : TelemetryComms) (id : UInt16) : Except Fault (TelemetryComms × PropValue) := do
  match comms.propValues id with
  | some value => return (comms, value)
  | none =>
    let (_, definition) ← sppHostGetDefinition comms.spp comms.defaultClient id
    let buffer ← match definition with
      | some place => do
        let pd ← load comms.spp.defsBuffer place
        pure (List.replicate pd.size.toNat 0)
      | none => pure []
    let value : PropValue := { definition, timestamp := 0, buffer }
    return ({ comms with propValues := Function.update comms.propValues id (some value) }, value)

/-- `*value->def`. -/
def PropValue.deref (value : PropValue) (comms : TelemetryComms) : Except Fault SppPropertyDefinition :=
  match value.definition with
  | some place => load comms.spp.defsBuffer place
  | none => .error .nullPointer

/-- `instance_data` is null for a value response, and the timestamp for a stream. -/
def onValueResponse (comms : TelemetryComms) (id : UInt16) (value : List UInt8) (instanceData : Option UInt32) :
    Except Fault TelemetryComms := do
  let (comms, pv) ← getValue comms id
  let timestamp := instanceData.getD pv.timestamp
  let pd ← pv.deref comms
  let bytes ← loadRange value 0 pd.size.toNat
  let buffer ← storeRange pv.buffer 0 bytes
  return { comms with propValues := Function.update comms.propValues id (some { pv with timestamp, buffer }) }

def onStreamResponse (comms : TelemetryComms) (timestamp : UInt32) (stream : SppStream) :
    Except Fault TelemetryComms := do
  match stream.definition, stream.value with
  | some place, some value =>
    let pd ← load comms.spp.defsBuffer place
    onValueResponse comms pd.id value (some timestamp)
  | _, _ => .error .wildPointer

def callback (comms : TelemetryComms) : HostEffect → Except Fault TelemetryComms
  | .sendMessage _ => .ok comms
  | .onValueResponse _ id value => onValueResponse comms id value none
  | .onStreamResponse timestamp stream => onStreamResponse comms timestamp stream

def handleStcpPacket (comms : TelemetryComms) (bytes : List UInt8) (len : UInt16) (unset : Nat) :
    Except Fault (TelemetryComms × Output) := do
  let (spp, effects, _) ← sppHostProcessMessage comms.spp bytes len unset
  let comms ← effects.foldlM callback { comms with spp }
  return (comms, ⟨effects, []⟩)

/-! ## Commands -/

/-- The answer to `val`. Its length is computed in eight bits. -/
def valueMessage (id : UInt16) (pd : SppPropertyDefinition) (value : PropValue) : Except Fault (List UInt8) := do
  let msgLen : UInt8 := 2 + 1 + 4 + pd.size
  let msg := List.replicate msgLen.toNat 0
  let msg ← storeRange msg 0 (bytes16 id)
  let msg ← storeRange msg 2 [pd.size]
  let msg ← storeRange msg (2 + 1) (bytes32 value.timestamp)
  let bytes ← loadRange value.buffer 0 pd.size.toNat
  storeRange msg (2 + 1 + 4) bytes

/-- What `onIncomingMsg` does for the viewer. `str` takes the next stream whether it can be started or not; `spare`
bytes behind the message that it sends can be written. -/
def onCommand (comms : TelemetryComms) (spare : Nat) : Command → Except Fault (TelemetryComms × Output)
  | .str id period => do
    -- `getNextStream` counts up without a look at the size of `streams_`
    let stream := comms.streamCount
    let (spp, effects, _) ← sppHostStartStream comms.spp comms.defaultClient id period sppStreamRead stream spare
    return ({ comms with spp, streamCount := comms.streamCount + 1 }, ⟨effects, []⟩)
  | .get id => do
    let (spp, effects, _) ← sppHostGetValue comms.spp comms.defaultClient id
    return ({ comms with spp }, ⟨effects, []⟩)
  | .val id => do
    let (comms, value) ← getValue comms id
    -- the pointer is null while the definition has not come in
    let pd ← value.deref comms
    let msg ← valueMessage id pd value
    return (comms, ⟨[], [msg]⟩)
  | .set id value => do
    let (spp, effects, _) ← sppHostSetValue comms.spp comms.defaultClient id value
    return ({ comms with spp }, ⟨effects, []⟩)
  | .unknown => .ok (comms, ⟨[], []⟩)

end TvcHopper.Telemetry
