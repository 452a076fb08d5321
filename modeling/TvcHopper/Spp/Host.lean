import TvcHopper.Machine.Loops
import TvcHopper.Machine.Slots
import TvcHopper.Spp.Protocol

/-! The host engine (`src-host/spp.c`).

A function of the engine returns the new host, the callbacks it invoked and its
status. `Fault` stands for what C leaves undefined: an access outside an array
of the engine, of the buffers it was given or of the received message.
-/

set_option autoImplicit false

namespace TvcHopper.Spp
open Machine Machine.Slots

/-- The one callback whose result the engine looks at, as a function of the memory behind the two
address pointers. -/
structure SppHostCallbacks where
  areAddressesEqual : Option (List UInt8) → Option (List UInt8) → Bool

structure SppHostEngineInitParams where
  defsBuffer : List SppPropertyDefinition
  addressBuffer : List UInt8
  defsBufferSize : UInt16
  addressLength : UInt8
  callbacks : SppHostCallbacks
  hostAddress : SppAddress

/-- The engine together with the buffers and the stream objects it holds pointers to. -/
structure SppHostEngine where
  tokenCount : UInt8
  streamCount : UInt8
  defsBuffer : List SppPropertyDefinition
  defsBufferUsed : UInt16
  defsBufferSize : UInt16
  addressBuffer : List UInt8
  addressLength : UInt8
  state : SppState
  clientCount : UInt8
  clients : Vector SppAddress sppConnectionsMax
  propertyCount : Vector UInt16 sppConnectionsMax
  propertyDefStart : Vector UInt16 sppConnectionsMax
  pendingRequestTokens : Vector UInt8 sppPendingRequestsMax
  pendingRequestCount : UInt16
  streams : Vector (Option Nat) sppStreamMaxCount
  streamObjects : List SppStream
  callbacks : SppHostCallbacks
  hostAddress : SppAddress

inductive HostEffect where
  | sendMessage (message : List UInt8)
  | onValueResponse (client : SppAddress) (id : UInt16) (value : List UInt8)
  | onStreamResponse (timestamp : UInt32) (stream : SppStream)
  deriving DecidableEq, Repr

abbrev HostResult := Except Fault (SppHostEngine × List HostEffect × SppStatus)

/-- The memory of `host` before the call is a parameter: `stream_count` and `streams` keep it. -/
def sppHostEngineInit (initParams : SppHostEngineInitParams) (host : SppHostEngine) : SppHostEngine :=
  { host with
    tokenCount := 0
    defsBuffer := initParams.defsBuffer
    defsBufferUsed := 0
    defsBufferSize := initParams.defsBufferSize
    clientCount := 0
    addressLength := initParams.addressLength
    addressBuffer := initParams.addressBuffer
    state := .ready
    propertyCount := .replicate _ 0
    propertyDefStart := .replicate _ 0
    clients := .ofFn fun i => { host.clients[i] with address := .null }
    pendingRequestTokens := .replicate _ sppTokenMaxReserved
    pendingRequestCount := 0
    callbacks := initParams.callbacks
    hostAddress := initParams.hostAddress }

/-! ## Tokens -/

def sppClearToken (host : SppHostEngine) (token : UInt8) : SppHostEngine × SppStatus :=
  match replaceFirst token sppTokenMaxReserved host.pendingRequestTokens with
  | some tokens => ({ host with
      pendingRequestTokens := tokens
      pendingRequestCount := host.pendingRequestCount - 1 }, sppStatusOk)
  | none => (host, sppStatusUnknownRequest)

def sppInsertToken (host : SppHostEngine) (token : UInt8) : SppHostEngine × SppStatus :=
  match replaceFirst sppTokenMaxReserved token host.pendingRequestTokens with
  | some tokens => ({ host with
      pendingRequestTokens := tokens
      pendingRequestCount := host.pendingRequestCount + 1 }, sppStatusOk)
  | none => (host, sppStatusPendingFull)

def sppGetToken (host : SppHostEngine) : SppHostEngine × UInt8 :=
  let count := host.tokenCount + 1
  -- rollover is ok
  let count := if count = sppTokenMaxReserved then 0 else count
  ({ host with tokenCount := count }, count)

/-! ## Clients -/

def sppFillMessageHeader (host : SppHostEngine) (client : SppAddress) (messageId : UInt8) :
    Except Fault (List UInt8) := do
  let hostAddress ← host.hostAddress.address.deref host.addressBuffer
  let clientAddress ← client.address.deref host.addressBuffer
  messageHeader host.addressLength hostAddress clientAddress messageId

/-- `AreAddressesEqual(&clients[index], client)`. -/
def isClientAt (host : SppHostEngine) (client : SppAddress) (index : Nat) : Except Fault Bool := do
  let known ← loadCell host.clients index
  return host.callbacks.areAddressesEqual (known.address.read host.addressBuffer)
    (client.address.read host.addressBuffer)

/-- `AreAddressesEqual(client, &clients[index])`. -/
def clientIsAt (host : SppHostEngine) (client : SppAddress) (index : Nat) : Except Fault Bool := do
  let known ← loadCell host.clients index
  return host.callbacks.areAddressesEqual (client.address.read host.addressBuffer)
    (known.address.read host.addressBuffer)

/-- `none` for `SPP_STATUS_NO_SUCH_CLIENT`, where the index is left unset. -/
def sppGetClientIdx (host : SppHostEngine) (client : SppAddress) : Except Fault (Option Nat) :=
  search (isClientAt host client) sppConnectionsMax 0

/-- Returns the client with the address pointer the function leaves in it. -/
def sppAddClient (host : SppHostEngine) (client : SppAddress) :
    Except Fault (SppHostEngine × SppAddress) := do
  match ← search (clientIsAt host client) host.clientCount.toNat 0 with
  | some _ => return (host, client)
  | none =>
    let address ← client.address.deref host.addressBuffer
    let bytes ← loadRange address 0 host.addressLength.toNat
    let addressBuffer ← storeRange host.addressBuffer host.clientCount.toNat bytes
    let client := { client with address := .permanent host.clientCount.toNat }
    let clients ← storeCell host.clients host.clientCount.toNat client
    return ({ host with addressBuffer, clients, clientCount := host.clientCount + 1 }, client)

/-- The loop of `SppConnectToClient` that looks for a client with the same property list. -/
def sppConnectLoop (client : SppAddress) :
    Nat → Nat → SppHostEngine → SppStatus → Except Fault (SppHostEngine × SppStatus)
  | 0, _, host, status => .ok (host, status)
  | remaining + 1, i, host, status => do
    let known ← loadCell host.clients i
    if known.propertyListId = client.propertyListId then
      -- the client itself is no duplicate
      if ← isClientAt host client i then
        sppConnectLoop client remaining (i + 1) host status
      else
        let start ← loadCell host.propertyDefStart i
        let count ← loadCell host.propertyCount i
        -- the range goes to the last client in the table, which need not be the one that connects
        let propertyDefStart ← storeCell host.propertyDefStart (host.clientCount.toNat - 1) start
        let propertyCount ← storeCell host.propertyCount (host.clientCount.toNat - 1) count
        sppConnectLoop client remaining (i + 1)
          { host with state := .ready, propertyDefStart, propertyCount } sppStatusDuplicateClient
    else sppConnectLoop client remaining (i + 1) host status

def sppConnectToClient (host : SppHostEngine) (client : SppAddress) :
    Except Fault (SppHostEngine × List HostEffect) := do
  let (host, client) ← sppAddClient host client
  let msg ← sppFillMessageHeader host client sppMsgConnectResponseId
  let (host, status) ← sppConnectLoop client host.clientCount.toNat 0 host sppStatusOk
  return (host, [.sendMessage (msg ++ [status])])

def sppSendConnectBusyResponse (host : SppHostEngine) (client : SppAddress) :
    Except Fault (List HostEffect) := do
  let msg ← sppFillMessageHeader host client sppMsgConnectResponseId
  return [.sendMessage (msg ++ [sppStatusBusy])]

/-! ## Property definitions -/

/-- `message` starts at the body. `unset` is what the index of an unknown client happens to be. -/
def sppUnpackPropDef (host : SppHostEngine) (client : SppAddress) (message : List UInt8) (len : UInt16)
    (unset : Nat) : Except Fault SppHostEngine := do
  let propSize ← load message 0
  let propsRemaining ← load message 1
  let propId ← load16 message 2
  let propType ← load message 4
  let propFlags ← load message 5
  let addrIdx := (← sppGetClientIdx host client).getD unset
  let count ← loadCell host.propertyCount addrIdx
  let propertyCount ← storeCell host.propertyCount addrIdx (count + 1)
  let pd ← load host.defsBuffer host.defsBufferUsed.toNat
  let nameLength := (len - 6).toUInt8
  let name ← storeCells pd.name 0 (← loadRange message 6 nameLength.toNat)
  let defsBuffer := host.defsBuffer.set host.defsBufferUsed.toNat
    ⟨propId, propType, propSize, propFlags, name, nameLength⟩
  -- not ready until all properties are received
  return { host with
    propertyCount
    defsBuffer
    defsBufferUsed := host.defsBufferUsed + 1
    state := if propsRemaining = 0 then .ready else host.state }

/-- A found definition is an index into `defsBuffer`. -/
def sppHostGetDefinition (host : SppHostEngine) (client : SppAddress) (id : UInt16) :
    Except Fault (SppStatus × Option Nat) := do
  match ← sppGetClientIdx host client with
  | none => return (sppStatusNoSuchClient, none)
  | some addrIdx =>
    let start ← loadCell host.propertyDefStart addrIdx
    let count ← loadCell host.propertyCount addrIdx
    let matchesAt (i : Nat) : Except Fault Bool := do
      return (← load host.defsBuffer (start.toNat + i)).id = id
    match ← search matchesAt count.toNat 0 with
    | some i => return (sppStatusOk, some (start.toNat + i))
    | none => return (sppStatusUnknownProperty, none)

def sppHostGetPropertyCount (host : SppHostEngine) (client : SppAddress) : Except Fault UInt16 := do
  match ← search (clientIsAt host client) host.clientCount.toNat 0 with
  | some i => loadCell host.propertyCount i
  | none => return 0

/-! ## Requests -/

def sppHostGetValue (host : SppHostEngine) (client : SppAddress) (id : UInt16) : HostResult := do
  if host.pendingRequestCount > 8 then return (host, [], sppStatusPendingFull)
  match ← sppGetClientIdx host client with
  | none => return (host, [], sppStatusNoSuchClient)
  | some _ =>
    let msg ← sppFillMessageHeader host client sppMsgGetRequestId
    let (host, token) := sppGetToken host
    let (host, _) := sppInsertToken host token
    return (host, [.sendMessage (msg ++ [token] ++ bytes16 id)], sppStatusOk)

def sppHostSetValue (host : SppHostEngine) (client : SppAddress) (id : UInt16) (value : List UInt8) :
    HostResult := do
  if host.pendingRequestCount > 8 then return (host, [], sppStatusPendingFull)
  match ← sppHostGetDefinition host client id with
  | (status, none) => return (host, [], status)
  | (_, some definition) =>
    let valueSize := (← load host.defsBuffer definition).size
    let msg ← sppFillMessageHeader host client sppMsgSetRequestId
    let (host, token) := sppGetToken host
    let (host, _) := sppInsertToken host token
    let bytes ← loadRange value 0 valueSize.toNat
    return (host, [.sendMessage (msg ++ [token, valueSize] ++ bytes16 id ++ bytes)], sppStatusOk)

/-- `stream` points to an object of the application, by its place in `streamObjects`; `spare` bytes behind the array
of the message can be written without harm. -/
def sppHostStartStream (host : SppHostEngine) (client : SppAddress) (id period : UInt16)
    (streamType : UInt8) (stream spare : Nat) : HostResult := do
  if host.pendingRequestCount > 8 then return (host, [], sppStatusPendingFull)
  match ← sppGetClientIdx host client with
  | none => return (host, [], sppStatusNoSuchClient)
  | some _ =>
    match ← sppHostGetDefinition host client id with
    | (status, none) => return (host, [], status)
    | (_, some definition) =>
      let object ← load host.streamObjects stream
      let streamId := host.streamCount
      let streams ← storeCell host.streams streamId.toNat (some stream)
      let host := { host with
        streamObjects := host.streamObjects.set stream
          { object with definition := some definition, period := period.toUInt32, streamId }
        streamCount := streamId + 1
        streams }
      let msg ← sppFillMessageHeader host client sppMsgStreamRequestId
      let (host, token) := sppGetToken host
      let (host, _) := sppInsertToken host token
      -- the body is one byte longer than the array has room for, and that byte is not sent
      let body ← fillArray sppMsgStreamRequestSize spare
        ([token, streamType, streamId] ++ bytes16 id ++ bytes16 period)
      return (host, [.sendMessage (msg ++ body)], sppStatusOk)

/-! ## Received messages -/

/-- A response whose status byte or whose token is bad makes the call fail. -/
def responseStatus (status tokenStatus : SppStatus) : SppStatus :=
  if status ≠ 0 then status else tokenStatus

def sppProcessResponse (host : SppHostEngine) (message : List UInt8) (bodyIdx : Nat) : HostResult := do
  let token ← load message bodyIdx
  let status ← load message (bodyIdx + 1)
  let (host, tokenStatus) := sppClearToken host token
  return (host, [], responseStatus status tokenStatus)

def sppProcessGetResponse (host : SppHostEngine) (client : SppAddress) (message : List UInt8)
    (bodyIdx : Nat) : HostResult := do
  let token ← load message bodyIdx
  let status ← load message (bodyIdx + 1)
  let _size ← load message (bodyIdx + 2)
  let id ← load16 message (bodyIdx + 3)
  let (host, tokenStatus) := sppClearToken host token
  -- token and status should be valid
  if responseStatus status tokenStatus ≠ 0 then
    return (host, [], responseStatus status tokenStatus)
  else
    return (host, [.onValueResponse client id (message.drop (bodyIdx + 5))], sppStatusOk)

def sppProcessStream (host : SppHostEngine) (message : List UInt8) (bodyIdx : Nat) : HostResult := do
  let streamId ← load message bodyIdx
  match ← loadCell host.streams streamId.toNat with
  | none => .error .wildPointer
  | some stream =>
    let timestamp ← load32 message (bodyIdx + 1)
    let object ← load host.streamObjects stream
    let object := { object with value := some (message.drop (bodyIdx + 5)) }
    return ({ host with streamObjects := host.streamObjects.set stream object },
      [.onStreamResponse timestamp object], sppStatusOk)

def sppHandleMessage (host : SppHostEngine) (client : SppAddress) (msgId : UInt8) (message : List UInt8)
    (len : UInt16) (unset : Nat) : HostResult := do
  let bodyIdx := sppMsgHdrSize host.addressLength
  if msgId = sppMsgConnectRequestBcId then
    -- don't accept new client if busy
    if host.state ≠ .ready then
      return (host, ← sppSendConnectBusyResponse host client, sppStatusOk)
    let propertyListId ← load16 message bodyIdx
    let (host, effects) ← sppConnectToClient { host with state := .connecting } { client with propertyListId }
    return (host, effects, sppStatusOk)
  else if msgId = sppMsgPropListResponseId then
    let numProps ← load message bodyIdx
    let _numBytes ← load16 message (bodyIdx + 1)
    -- check host can handle property count
    if numProps.toNat + host.defsBufferUsed.toNat > host.defsBufferSize.toNat then
      return (host, [], sppStatusTooManyProperties)
    return (host, [], sppStatusOk)
  else if msgId = sppMsgPropDefId then
    let host ← sppUnpackPropDef host client (message.drop bodyIdx) (len - UInt16.ofNat bodyIdx) unset
    return (host, [], sppStatusOk)
  else if msgId = sppMsgGetResponseId then
    sppProcessGetResponse host client message bodyIdx
  else if msgId = sppMsgSetResponseId then
    sppProcessResponse host message bodyIdx
  else if msgId = sppMsgStreamResponseId then
    sppProcessResponse host message bodyIdx
  else if msgId = sppMsgStreamId then
    sppProcessStream host message bodyIdx
  else return (host, [], sppStatusUnknownMsgId)

/-- `message` is the memory at the pointer, of which `len` bytes are the message. -/
def sppHostProcessMessage (host : SppHostEngine) (message : List UInt8) (len : UInt16) (unset : Nat) :
    HostResult := do
  let addrLen := host.addressLength.toNat
  if len.toNat < addrLen * 2 + 2 then return (host, [], sppStatusShortMessage)
  let syncWord ← load message 0
  if syncWord ≠ sppMsgSyncWord then return (host, [], sppStatusInvalidSyncWord)
  let msgId ← load message 1
  let _hostAddress ← loadRange message 2 addrLen
  let clientAddress ← loadRange message (2 + addrLen - 1) addrLen
  sppHandleMessage host ⟨.external clientAddress, 0⟩ msgId message len unset

/-! ## The engine as the applications set it up -/

/-- The comparison every application provides: the first bytes, and false for a null pointer. -/
def firstByteCallbacks : SppHostCallbacks where
  areAddressesEqual
    | some (a :: _), some (b :: _) => a == b
    | _, _ => false

/-- An engine object in static memory, before it is initialized. -/
def staticHost : SppHostEngine where
  tokenCount := 0
  streamCount := 0
  defsBuffer := []
  defsBufferUsed := 0
  defsBufferSize := 0
  addressBuffer := []
  addressLength := 0
  state := .ready
  clientCount := 0
  clients := .replicate _ ⟨.null, 0⟩
  propertyCount := .replicate _ 0
  propertyDefStart := .replicate _ 0
  pendingRequestTokens := .replicate _ 0
  pendingRequestCount := 0
  streams := .replicate _ none
  streamObjects := []
  callbacks := firstByteCallbacks
  hostAddress := ⟨.null, 0⟩

/-- The parameters of `setup` in `test_spp.cpp`. -/
def setupParams : SppHostEngineInitParams where
  defsBuffer := .replicate 24 ⟨0, 0, 0, 0, .replicate _ 0, 0⟩
  addressBuffer := .replicate 15 0
  defsBufferSize := 24
  addressLength := 1
  callbacks := firstByteCallbacks
  hostAddress := ⟨.external [0x1D], 0⟩

end TvcHopper.Spp
