import TvcHopper.Machine.Loops
import TvcHopper.Spp.Protocol

/-! The client engine (`src-client/spp.c`).

The local message arrays of a call start with what is on the stack: the k-th
array of a call holds `stack k`. Lengths and indices that the source keeps in a
`uint8_t` are cut to eight bits. A pointer the source leaves unset is a wild
pointer when it is used.
-/

set_option autoImplicit false

namespace TvcHopper.Spp
open Machine

variable {σ : Type}

/-- `SetValue` can read the received memory from the value on. `GetValue` returns what it writes to
the response. Both get the instance data. -/
structure SppClientCallbacks (σ : Type) where
  setValue : σ → UInt16 → List UInt8 → σ × SppStatus
  getValue : σ → UInt16 → σ × List UInt8 × SppStatus

structure SppClientEngineInitParams (σ : Type) where
  broadcastAddress : SppAddress
  clientAddress : SppAddress
  hostAddressBuffer : List UInt8
  propertyCount : UInt16
  propertyListId : UInt16
  addressLength : UInt8
  properties : List SppPropertyDefinition
  callbacks : SppClientCallbacks σ
  instanceData : σ

structure SppClientEngine (σ : Type) where
  broadcastAddress : SppAddress
  clientAddress : SppAddress
  hostAddress : SppAddress
  hostAddressBuffer : List UInt8
  propertyCount : UInt16
  propertyListId : UInt16
  addressLength : UInt8
  isDuplicate : Bool
  properties : List SppPropertyDefinition
  callbacks : SppClientCallbacks σ
  streamCount : UInt8
  streams : Vector SppStream sppStreamMaxCount
  instanceData : σ

abbrev ClientResult (σ : Type) := SppClientEngine σ × List (List UInt8) × SppStatus

abbrev Stack := Nat → Nat → UInt8

def sppClientEngineInit (initParams : SppClientEngineInitParams σ) (spp : SppClientEngine σ) :
    SppClientEngine σ :=
  { spp with
    clientAddress := initParams.clientAddress
    broadcastAddress := initParams.broadcastAddress
    hostAddressBuffer := initParams.hostAddressBuffer
    hostAddress := { spp.hostAddress with address := .permanent 0 }
    propertyCount := initParams.propertyCount
    propertyListId := initParams.propertyListId
    addressLength := initParams.addressLength
    properties := initParams.properties
    callbacks := initParams.callbacks
    instanceData := initParams.instanceData
    streamCount := 0 }

namespace Client

/-- `none` for `SPP_STATUS_UNKNOWN_PROPERTY`, where the pointer is left unset. -/
def sppGetDefinition (client : SppClientEngine σ) (id : UInt16) : Except Fault (Option Nat) :=
  let matchesAt (i : Nat) : Except Fault Bool := do
    return (← load client.properties i).id = id
  search8 matchesAt client.propertyCount.toNat

def sppGetStream (client : SppClientEngine σ) (streamId : UInt16) : Except Fault (Option Nat) :=
  let matchesAt (i : Nat) : Except Fault Bool := do
    return (← loadCell client.streams i).streamId.toUInt16 = streamId
  search matchesAt client.streamCount.toNat 0

/-- The client puts its own address first. -/
def sppFillMessageHeader (client : SppClientEngine σ) (buffer : List UInt8) (host sender : SppAddress)
    (messageId : UInt8) : Except Fault (List UInt8) := do
  let hostAddress ← host.address.deref client.hostAddressBuffer
  let clientAddress ← sender.address.deref client.hostAddressBuffer
  storeRange buffer 0 (← messageHeader client.addressLength clientAddress hostAddress messageId)

/-- The header size in a `uint8_t`. -/
def bodyStart (client : SppClientEngine σ) : UInt8 := UInt8.ofNat (sppMsgHdrSize client.addressLength)

def messageLength (client : SppClientEngine σ) (body : Nat) : Nat :=
  (UInt8.ofNat (messageSize body client.addressLength)).toNat

end Client

open Client in
/-- Returns the message it sends. -/
def sppClientStart (client : SppClientEngine σ) (stack : Stack) : Except Fault (List UInt8) := do
  let msg := localArray (stack 0) (messageLength client sppMsgConnectRequestBcSize)
  let msg ← sppFillMessageHeader client msg client.broadcastAddress client.clientAddress
    sppMsgConnectRequestBcId
  storeRange msg (bodyStart client).toNat (bytes16 client.propertyListId)

/-! ## The property list -/

def strlen (name : Vector UInt8 sppPropNameLengthMax) : Except Fault Nat :=
  match name.toList.findIdx? (· == 0) with
  | some length => .ok length
  | none => .error .outOfBounds

namespace Client

def addSize (client : SppClientEngine σ) (i : Nat) (numBytes : UInt16) : Except Fault UInt16 := do
  let pd ← load client.properties i
  return numBytes + pd.size.toUInt16

def propertyListMessage (client : SppClientEngine σ) (stack : Nat → UInt8) (numBytes : UInt16) :
    Except Fault (List UInt8) := do
  let msg := localArray stack (messageLength client sppMsgPropListResponseSize)
  let msg ← sppFillMessageHeader client msg client.hostAddress client.clientAddress
    sppMsgPropListResponseId
  let bodyIdx := bodyStart client
  let msg ← storeRange msg bodyIdx.toNat [client.propertyCount.toUInt8]
  storeRange msg (bodyIdx + 1).toNat (bytes16 numBytes)

/-- The message for one property definition; its body starts at a fixed place. -/
def propertyDefinitionMessage (client : SppClientEngine σ) (stack : Nat → UInt8)
    (pd : SppPropertyDefinition) (propsRemaining : UInt16) : Except Fault (List UInt8) := do
  let nameLength ← strlen pd.name
  let msg := localArray stack (messageLength client (sppMsgPropDefSize + nameLength + 1))
  let msg ← sppFillMessageHeader client msg client.hostAddress client.clientAddress sppMsgPropDefId
  let msg ← storeRange msg 4 [pd.size]
  -- don't care if more than 0xFF properties remaining
  let msg ← storeRange msg 5 [if propsRemaining > 0xFF then 0xFF else propsRemaining.toUInt8]
  let msg ← storeRange msg 6 (bytes16 pd.id)
  let msg ← storeRange msg 8 [pd.type]
  let msg ← storeRange msg 9 [pd.flags]
  storeRange msg 10 (pd.name.toList.take (nameLength + 1))

def sendDefinition (client : SppClientEngine σ) (stack : Stack) (i : Nat) (sent : List (List UInt8)) :
    Except Fault (List (List UInt8)) := do
  let pd ← load client.properties i
  let msg ← propertyDefinitionMessage client (stack (i + 1)) pd
    (client.propertyCount - UInt16.ofNat i - 1)
  return sent ++ [msg]

end Client

open Client in
def sppSendPropertyList (client : SppClientEngine σ) (message hostAddress : List UInt8) (stack : Stack) :
    Except Fault (ClientResult σ) := do
  let hostAddressBuffer ← storeRange client.hostAddressBuffer 0 hostAddress
  let client := { client with hostAddressBuffer }
  let status ← load message (sppMsgHdrSize client.addressLength)
  if status = sppStatusDuplicateClient then
    -- don't send property list again if duplicate client
    return ({ client with isDuplicate := true }, [], sppStatusDuplicateClient)
  else if status = sppStatusBusy then
    return (client, [], sppStatusBusy)
  else
    let numBytes ← loop8 (addSize client) client.propertyCount.toNat 0
    let list ← propertyListMessage client (stack 0) numBytes
    let sent ← loop8 (sendDefinition client stack) client.propertyCount.toNat [list]
    return (client, sent, sppStatusOk)

/-! ## Received messages -/

namespace Client

def getResponseMessage (client : SppClientEngine σ) (stack : Nat → UInt8) (pd : SppPropertyDefinition)
    (token : UInt8) (id : UInt16) (value : List UInt8) : Except Fault (List UInt8) := do
  let msg := localArray stack (messageSize (sppMsgGetResponseBaseSize + pd.size.toNat) client.addressLength)
  let msg ← sppFillMessageHeader client msg client.hostAddress client.clientAddress sppMsgGetResponseId
  let bodyIdx := bodyStart client
  let msg ← storeRange msg bodyIdx.toNat [token]
  let msg ← storeRange msg (bodyIdx + 1).toNat [sppStatusOk]
  let msg ← storeRange msg (bodyIdx + 2).toNat [pd.size]
  let msg ← storeRange msg (bodyIdx + 3).toNat (bytes16 id)
  storeRange msg (bodyIdx + 5).toNat value

def setResponseMessage (client : SppClientEngine σ) (stack : Nat → UInt8) (token : UInt8) :
    Except Fault (List UInt8) := do
  let msg := localArray stack (messageLength client sppMsgSetResponseSize)
  let msg ← sppFillMessageHeader client msg client.hostAddress client.clientAddress sppMsgSetResponseId
  let bodyIdx := bodyStart client
  let msg ← storeRange msg bodyIdx.toNat [token]
  storeRange msg (bodyIdx + 1).toNat [sppStatusOk]

end Client

open Client in
def sppProcessGetRequest (client : SppClientEngine σ) (message : List UInt8) (stack : Stack) :
    Except Fault (ClientResult σ) := do
  let bodyIdx := bodyStart client
  let token ← load message bodyIdx.toNat
  let id ← load16 message (bodyIdx + 1).toNat
  match ← sppGetDefinition client id with
  | none => .error .wildPointer
  | some definition =>
    let pd ← load client.properties definition
    -- the callback fills the buffer behind the id
    let (instanceData, value, _) := client.callbacks.getValue client.instanceData id
    let msg ← getResponseMessage client (stack 0) pd token id value
    return ({ client with instanceData }, [msg], sppStatusOk)

open Client in
def sppProcessSetRequest (client : SppClientEngine σ) (message : List UInt8) (stack : Stack) :
    Except Fault (ClientResult σ) := do
  let bodyIdx := bodyStart client
  let token ← load message bodyIdx.toNat
  let _size ← load message (bodyIdx + 1).toNat
  let id ← load16 message (bodyIdx + 2).toNat
  -- set property with received value
  let (instanceData, _) := client.callbacks.setValue client.instanceData id
    (message.drop (bodyIdx + 4).toNat)
  let msg ← setResponseMessage client (stack 0) token
  return ({ client with instanceData }, [msg], sppStatusOk)

open Client in
/-- No response is sent. -/
def sppProcessStreamRequest (client : SppClientEngine σ) (message : List UInt8) : Except Fault (ClientResult σ) := do
  let bodyIdx := bodyStart client
  let _token ← load message bodyIdx.toNat
  let streamType ← load message (bodyIdx + 1).toNat
  let streamId ← load message (bodyIdx + 2).toNat
  let id ← load16 message (bodyIdx + 3).toNat
  let period ← load16 message (bodyIdx + 5).toNat
  -- get next available stream
  let s ← loadCell client.streams client.streamCount.toNat
  let found ← sppGetDefinition client id
  let streams ← storeCell client.streams client.streamCount.toNat
    { s with
      definition := found.or s.definition
      streamId
      streamType
      period := period.toUInt32
      elapsedTime := 0 }
  return ({ client with streams, streamCount := client.streamCount + 1 }, [], sppStatusOk)

open Client in
def sppProcessStreamData (client : SppClientEngine σ) (message : List UInt8) : Except Fault (ClientResult σ) := do
  let bodyIdx := bodyStart client
  let streamId ← load message bodyIdx.toNat
  match ← sppGetStream client streamId.toUInt16 with
  | none => .error .wildPointer
  | some stream =>
    match (← loadCell client.streams stream).definition with
    | none => .error .wildPointer
    | some definition =>
      let pd ← load client.properties definition
      -- skip timestamp
      let (instanceData, _) := client.callbacks.setValue client.instanceData pd.id
        (message.drop (bodyIdx + 5).toNat)
      return ({ client with instanceData }, [], sppStatusOk)

def sppDispatchMessage (client : SppClientEngine σ) (hostAddress : List UInt8) (msgId : UInt8)
    (message : List UInt8) (stack : Stack) : Except Fault (ClientResult σ) := do
  if msgId = sppMsgConnectResponseId then
    sppSendPropertyList client message hostAddress stack
  else if msgId = sppMsgGetRequestId then
    sppProcessGetRequest client message stack
  else if msgId = sppMsgSetRequestId then
    sppProcessSetRequest client message stack
  else if msgId = sppMsgStreamRequestId then
    sppProcessStreamRequest client message
  else if msgId = sppMsgStreamId then
    sppProcessStreamData client message
  else return (client, [], sppStatusOk)

/-- `message` is the memory at the pointer, of which `len` bytes are the message. -/
def sppClientProcessMessage (client : SppClientEngine σ) (message : List UInt8) (len : UInt16)
    (stack : Stack) : Except Fault (ClientResult σ) := do
  let addrLen := client.addressLength.toNat
  if len.toNat < sppMsgHdrSize client.addressLength then return (client, [], sppStatusShortMessage)
  let sync ← load message 0
  let msgId ← load message 1
  if sync ≠ sppMsgSyncWord then return (client, [], sppStatusInvalidSyncWord)
  let _clientAddress ← loadRange message 2 addrLen
  let hostAddress ← loadRange message (2 + addrLen - 1) addrLen
  sppDispatchMessage client hostAddress msgId message stack

/-! ## Streams -/

open Client in
def streamMessage (client : SppClientEngine σ) (stack : Nat → UInt8) (s : SppStream) (timestamp : UInt32) :
    Except Fault (σ × List UInt8) := do
  match s.definition with
  | none => .error .wildPointer
  | some definition =>
    let pd ← load client.properties definition
    let msg := localArray stack (messageSize (sppMsgStreamBaseSize + pd.size.toNat) client.addressLength)
    let msg ← sppFillMessageHeader client msg client.hostAddress client.clientAddress sppMsgStreamId
    let bodyIdx := sppMsgHdrSize client.addressLength
    let msg ← storeRange msg bodyIdx [s.streamId]
    let msg ← storeRange msg (bodyIdx + 1) (bytes32 timestamp)
    -- the value is written behind the timestamp, its status is not looked at
    let (instanceData, value, _) := client.callbacks.getValue client.instanceData pd.id
    let msg ← storeRange msg (bodyIdx + 5) value
    -- the array has room for three bytes more than are sent
    return (instanceData, msg.take (bodyIdx + 5 + pd.size.toNat))

def processStream (stack : Stack) (timestamp elapsedTime : UInt32) (i : Nat)
    (state : SppClientEngine σ × List (List UInt8)) :
    Except Fault (SppClientEngine σ × List (List UInt8)) := do
  let (client, sent) := state
  let s ← loadCell client.streams i
  let s := { s with elapsedTime := s.elapsedTime + elapsedTime }
  if s.elapsedTime > s.period then
    let (instanceData, msg) ← streamMessage client (stack i) s timestamp
    -- reset timestamp after handling
    let streams ← storeCell client.streams i { s with elapsedTime := 0 }
    return ({ client with streams, instanceData }, sent ++ [msg])
  else
    let streams ← storeCell client.streams i s
    return ({ client with streams }, sent)

def sppProcessStreams (client : SppClientEngine σ) (timestamp elapsedTime : UInt32) (stack : Stack) :
    Except Fault (SppClientEngine σ × List (List UInt8)) :=
  loop (processStream stack timestamp elapsedTime) client.streamCount.toNat 0 (client, [])

/-! ## The engine as the test sets it up -/

/-- `plist` of `test_spp_client.cpp`. The names are `Prop_1` to `Prop_3`. -/
def plist : List SppPropertyDefinition :=
  let name (digit : UInt8) : Vector UInt8 sppPropNameLengthMax :=
    .ofFn fun i => ([0x50, 0x72, 0x6F, 0x70, 0x5F, digit] : List UInt8).getD i 0
  [⟨0xAB, 0xE0, 2, 0x01, name 0x31, 7⟩, ⟨0xAC, 0xE4, 4, 0x01, name 0x32, 7⟩, ⟨0xAD, 0xE6, 20, 0x01, name 0x33, 7⟩]

abbrev PropertyValues := UInt16 → Nat → UInt8

/-- `SetValue` and `GetValue` copy a variable of the size of the property. -/
def variableCallbacks (properties : List SppPropertyDefinition) : SppClientCallbacks PropertyValues where
  setValue values id value :=
    match properties.find? (·.id == id) with
    | some pd => (fun other i =>
        if other = id ∧ i < pd.size.toNat then value.getD i 0 else values other i, sppStatusOk)
    | none => (values, sppStatusUnknownProperty)
  getValue values id :=
    match properties.find? (·.id == id) with
    | some pd => (values, localArray (values id) pd.size.toNat, sppStatusOk)
    | none => (values, [], sppStatusUnknownProperty)

/-- The parameters of `setup` in `test_spp_client.cpp`. -/
def setupClientParams : SppClientEngineInitParams PropertyValues where
  broadcastAddress := ⟨.external [0x00], 0⟩
  clientAddress := ⟨.external [0x01], 0⟩
  hostAddressBuffer := [0x00]
  propertyCount := 3
  propertyListId := 0xDD
  addressLength := 1
  properties := plist
  callbacks := variableCallbacks plist
  instanceData _ _ := 0

/-- An engine object in static memory, before it is initialized. -/
def staticClient : SppClientEngine PropertyValues where
  broadcastAddress := ⟨.null, 0⟩
  clientAddress := ⟨.null, 0⟩
  hostAddress := ⟨.null, 0⟩
  hostAddressBuffer := []
  propertyCount := 0
  propertyListId := 0
  addressLength := 0
  isDuplicate := false
  properties := []
  callbacks := variableCallbacks []
  streamCount := 0
  streams := .replicate _ ⟨none, 0, 0, none, 0, 0⟩
  instanceData _ _ := 0

end TvcHopper.Spp
