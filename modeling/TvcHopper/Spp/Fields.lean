import TvcHopper.Spp.Client
import TvcHopper.Spp.Received

/-! The fields of a message.

An engine reads the fields of a received message and acts on them. The fields
are those that the other engine writes; a value has no end of its own, it is
the memory from its place on.
-/

set_option autoImplicit false

namespace TvcHopper.Spp
open Machine

variable {σ : Type}

inductive ToHost where
  | connectRequest (propertyListId : UInt16)
  | listResponse (numProps : UInt8) (numBytes : UInt16)
  | definition (propSize propsRemaining : UInt8) (propId : UInt16) (propType propFlags : UInt8) (name : List UInt8)
  | getResponse (token : UInt8) (status : SppStatus) (size : UInt8) (id : UInt16) (value : List UInt8)
  | setResponse (token : UInt8) (status : SppStatus)
  | stream (streamId : UInt8) (timestamp : UInt32) (value : List UInt8)
  deriving DecidableEq

inductive ToClient where
  | connectResponse (status : SppStatus)
  | getRequest (token : UInt8) (id : UInt16)
  | setRequest (token size : UInt8) (id : UInt16) (value : List UInt8)
  | streamRequest (token streamType streamId : UInt8) (id period : UInt16)
  deriving DecidableEq

/-! ## What the host reads -/

/-- `none` for a message id that the client never sends. -/
def readToHost (addressLength msgId : UInt8) (message : List UInt8) (len : UInt16) : Except Fault (Option ToHost) := do
  let bodyIdx := sppMsgHdrSize addressLength
  if msgId = sppMsgConnectRequestBcId then
    let propertyListId ← load16 message bodyIdx
    return some (.connectRequest propertyListId)
  else if msgId = sppMsgPropListResponseId then
    let numProps ← load message bodyIdx
    let numBytes ← load16 message (bodyIdx + 1)
    return some (.listResponse numProps numBytes)
  else if msgId = sppMsgPropDefId then
    let body := message.drop bodyIdx
    let propSize ← load body 0
    let propsRemaining ← load body 1
    let propId ← load16 body 2
    let propType ← load body 4
    let propFlags ← load body 5
    -- what is left of the message, as a `uint8_t`
    let name ← loadRange body 6 (len - UInt16.ofNat bodyIdx - 6).toUInt8.toNat
    return some (.definition propSize propsRemaining propId propType propFlags name)
  else if msgId = sppMsgGetResponseId then
    let token ← load message bodyIdx
    let status ← load message (bodyIdx + 1)
    let size ← load message (bodyIdx + 2)
    let id ← load16 message (bodyIdx + 3)
    return some (.getResponse token status size id (message.drop (bodyIdx + 5)))
  else if msgId = sppMsgSetResponseId then
    let token ← load message bodyIdx
    let status ← load message (bodyIdx + 1)
    return some (.setResponse token status)
  else if msgId = sppMsgStreamId then
    let streamId ← load message bodyIdx
    let timestamp ← load32 message (bodyIdx + 1)
    return some (.stream streamId timestamp (message.drop (bodyIdx + 5)))
  else return none

def ToHost.act (host : SppHostEngine) (client : SppAddress) (unset : Nat) : ToHost → HostResult
  | .connectRequest propertyListId => do
    -- a host that is connecting answers busy
    if host.state ≠ .ready then return (host, ← sppSendConnectBusyResponse host client, sppStatusOk)
    let (host, effects) ← sppConnectToClient { host with state := .connecting } { client with propertyListId }
    return (host, effects, sppStatusOk)
  | .listResponse numProps _ =>
    if numProps.toNat + host.defsBufferUsed.toNat > host.defsBufferSize.toNat then
      return (host, [], sppStatusTooManyProperties)
    else return (host, [], sppStatusOk)
  | .definition propSize propsRemaining propId propType propFlags name => do
    -- an unknown sender leaves the index as it was on the stack
    let addrIdx := (← sppGetClientIdx host client).getD unset
    let count ← loadCell host.propertyCount addrIdx
    let propertyCount ← storeCell host.propertyCount addrIdx (count + 1)
    let pd ← load host.defsBuffer host.defsBufferUsed.toNat
    let nameLength := UInt8.ofNat name.length
    let name ← storeCells pd.name 0 name
    let defsBuffer := host.defsBuffer.set host.defsBufferUsed.toNat
      ⟨propId, propType, propSize, propFlags, name, nameLength⟩
    return ({ host with
      propertyCount
      defsBuffer
      defsBufferUsed := host.defsBufferUsed + 1
      state := if propsRemaining = 0 then .ready else host.state }, [], sppStatusOk)
  | .getResponse token status _ id value =>
    -- both a bad status and an unknown token stop the value
    let (host, tokenStatus) := sppClearToken host token
    if responseStatus status tokenStatus ≠ 0 then return (host, [], responseStatus status tokenStatus)
    else return (host, [.onValueResponse client id value], sppStatusOk)
  | .setResponse token status =>
    let (host, tokenStatus) := sppClearToken host token
    return (host, [], responseStatus status tokenStatus)
  | .stream streamId timestamp value => do
    match ← loadCell host.streams streamId.toNat with
    -- the entry of the id was never written
    | none => .error .wildPointer
    | some index =>
      let object ← load host.streamObjects index
      let object := { object with value := some value }
      return ({ host with streamObjects := host.streamObjects.set index object },
        [.onStreamResponse timestamp object], sppStatusOk)

/-- The host reads the fields and acts on them. -/
theorem sppHandleMessage_eq_act {host : SppHostEngine} {msgId : UInt8} {message : List UInt8} {len : UInt16}
    {body : ToHost} (reads : readToHost host.addressLength msgId message len = .ok (some body)) (client : SppAddress)
    (unset : Nat) : sppHandleMessage host client msgId message len unset = body.act host client unset := by
  unfold readToHost at reads
  unfold sppHandleMessage
  -- the branches of the source, in their order
  by_cases request : msgId = sppMsgConnectRequestBcId
  · rw [if_pos request] at reads ⊢
    simp only [bind_eq_ok, pure_eq_ok, Except.ok.injEq, Option.some.injEq] at reads
    obtain ⟨propertyListId, read, rfl⟩ := reads
    rw [read]
    rfl
  rw [if_neg request] at reads ⊢
  by_cases list : msgId = sppMsgPropListResponseId
  · rw [if_pos list] at reads ⊢
    simp only [bind_eq_ok, pure_eq_ok, Except.ok.injEq, Option.some.injEq] at reads
    obtain ⟨numProps, first, numBytes, second, rfl⟩ := reads
    rw [first, ok_bind, second]
    rfl
  rw [if_neg list] at reads ⊢
  by_cases defined : msgId = sppMsgPropDefId
  · rw [if_pos defined] at reads ⊢
    simp only [bind_eq_ok, pure_eq_ok, Except.ok.injEq, Option.some.injEq] at reads
    obtain ⟨size, r1, remaining, r2, id, r3, type, r4, flags, r5, name, r6, rfl⟩ := reads
    -- the length that the source computes is that of the name that was read
    have nameLength : (len - UInt16.ofNat (sppMsgHdrSize host.addressLength) - 6).toUInt8 =
        UInt8.ofNat name.length := by
      rw [loadRange_length r6, UInt8.ofNat_toNat]
    rw [nameLength] at r6
    simp only [sppUnpackPropDef, r1, r2, r3, r4, r5, r6, ok_bind, nameLength, ToHost.act, bind_assoc, pure_eq_ok]
  rw [if_neg defined] at reads ⊢
  by_cases got : msgId = sppMsgGetResponseId
  · rw [if_pos got] at reads ⊢
    simp only [bind_eq_ok, pure_eq_ok, Except.ok.injEq, Option.some.injEq] at reads
    obtain ⟨token, r1, status, r2, size, r3, id, r4, rfl⟩ := reads
    rw [sppProcessGetResponse, r1, ok_bind, r2, ok_bind, r3, ok_bind, r4]
    rfl
  rw [if_neg got] at reads ⊢
  by_cases done : msgId = sppMsgSetResponseId
  · rw [if_pos done] at reads ⊢
    simp only [bind_eq_ok, pure_eq_ok, Except.ok.injEq, Option.some.injEq] at reads
    obtain ⟨token, r1, status, r2, rfl⟩ := reads
    rw [sppProcessResponse, r1, ok_bind, r2]
    rfl
  rw [if_neg done] at reads ⊢
  by_cases streams : msgId = sppMsgStreamId
  · have other : msgId ≠ sppMsgStreamResponseId := by
      rw [streams]
      decide
    rw [if_pos streams] at reads
    rw [if_neg other, if_pos streams]
    simp only [bind_eq_ok, pure_eq_ok, Except.ok.injEq, Option.some.injEq] at reads
    obtain ⟨streamId, r1, timestamp, r2, rfl⟩ := reads
    rw [sppProcessStream, r1, ok_bind, ToHost.act]
    cases loadCell host.streams streamId.toNat with
    | error fault => rfl
    | ok pointer =>
      cases pointer with
      | none => rfl
      | some index =>
        simp only [ok_bind, r2]
  · rw [if_neg streams] at reads
    cases reads

/-! ## What the client reads -/

/-- The index is kept in a `uint8_t`, except for the status of a connect response. -/
def readToClient (addressLength msgId : UInt8) (message : List UInt8) : Except Fault (Option ToClient) := do
  -- the index is a `uint8_t` and starts over behind 255
  let bodyIdx := UInt8.ofNat (sppMsgHdrSize addressLength)
  if msgId = sppMsgConnectResponseId then
    let status ← load message (sppMsgHdrSize addressLength)
    return some (.connectResponse status)
  else if msgId = sppMsgGetRequestId then
    let token ← load message bodyIdx.toNat
    let id ← load16 message (bodyIdx + 1).toNat
    return some (.getRequest token id)
  else if msgId = sppMsgSetRequestId then
    let token ← load message bodyIdx.toNat
    let size ← load message (bodyIdx + 1).toNat
    let id ← load16 message (bodyIdx + 2).toNat
    return some (.setRequest token size id (message.drop (bodyIdx + 4).toNat))
  else if msgId = sppMsgStreamRequestId then
    let token ← load message bodyIdx.toNat
    let streamType ← load message (bodyIdx + 1).toNat
    let streamId ← load message (bodyIdx + 2).toNat
    let id ← load16 message (bodyIdx + 3).toNat
    -- its second byte is behind the message
    let period ← load16 message (bodyIdx + 5).toNat
    return some (.streamRequest token streamType streamId id period)
  else return none

open Client in
def ToClient.act (client : SppClientEngine σ) (hostAddress : List UInt8) (stack : Stack) :
    ToClient → Except Fault (ClientResult σ)
  | .connectResponse status => do
    -- the address is taken over whatever the status is
    let hostAddressBuffer ← storeRange client.hostAddressBuffer 0 hostAddress
    let client := { client with hostAddressBuffer }
    if status = sppStatusDuplicateClient then
      return ({ client with isDuplicate := true }, [], sppStatusDuplicateClient)
    else if status = sppStatusBusy then
      return (client, [], sppStatusBusy)
    else
      -- send the list, then every definition
      let numBytes ← loop8 (addSize client) client.propertyCount.toNat 0
      let list ← propertyListMessage client (stack 0) numBytes
      let sent ← loop8 (sendDefinition client stack) client.propertyCount.toNat [list]
      return (client, sent, sppStatusOk)
  | .getRequest token id => do
    match ← sppGetDefinition client id with
    | none => .error .wildPointer
    | some definition =>
      let pd ← load client.properties definition
      let (instanceData, value, _) := client.callbacks.getValue client.instanceData id
      let msg ← getResponseMessage client (stack 0) pd token id value
      return ({ client with instanceData }, [msg], sppStatusOk)
  | .setRequest token _ id value => do
    let (instanceData, _) := client.callbacks.setValue client.instanceData id value
    let msg ← setResponseMessage client (stack 0) token
    return ({ client with instanceData }, [msg], sppStatusOk)
  | .streamRequest _ streamType streamId id period => do
    let s ← loadCell client.streams client.streamCount.toNat
    let found ← sppGetDefinition client id
    let streams ← storeCell client.streams client.streamCount.toNat
      { s with
        definition := found.or s.definition
        streamId
        streamType
        period := period.toUInt32
        elapsedTime := 0 }
    return ({ client with streams, streamCount := client.streamCount + 1 }, [], sppStatusOk)

theorem sppDispatchMessage_eq_act {client : SppClientEngine σ} {msgId : UInt8} {message : List UInt8} {body : ToClient}
    (reads : readToClient client.addressLength msgId message = .ok (some body)) (hostAddress : List UInt8)
    (stack : Stack) :
    sppDispatchMessage client hostAddress msgId message stack = body.act client hostAddress stack := by
  unfold readToClient at reads
  unfold sppDispatchMessage
  by_cases response : msgId = sppMsgConnectResponseId
  · rw [if_pos response] at reads ⊢
    simp only [bind_eq_ok, pure_eq_ok, Except.ok.injEq, Option.some.injEq] at reads
    obtain ⟨status, read, rfl⟩ := reads
    simp only [sppSendPropertyList, read, ok_bind, ToClient.act]
  rw [if_neg response] at reads ⊢
  by_cases get : msgId = sppMsgGetRequestId
  · rw [if_pos get] at reads ⊢
    simp only [bind_eq_ok, pure_eq_ok, Except.ok.injEq, Option.some.injEq] at reads
    obtain ⟨token, r1, id, r2, rfl⟩ := reads
    simp only [sppProcessGetRequest, Client.bodyStart, r1, r2, ok_bind]
    rfl
  rw [if_neg get] at reads ⊢
  by_cases set : msgId = sppMsgSetRequestId
  · rw [if_pos set] at reads ⊢
    simp only [bind_eq_ok, pure_eq_ok, Except.ok.injEq, Option.some.injEq] at reads
    obtain ⟨token, r1, size, r2, id, r3, rfl⟩ := reads
    simp only [sppProcessSetRequest, Client.bodyStart, r1, r2, r3, ok_bind, ToClient.act]
  rw [if_neg set] at reads ⊢
  by_cases streams : msgId = sppMsgStreamRequestId
  · rw [if_pos streams] at reads ⊢
    simp only [bind_eq_ok, pure_eq_ok, Except.ok.injEq, Option.some.injEq] at reads
    obtain ⟨token, r1, streamType, r2, streamId, r3, id, r4, period, r5, rfl⟩ := reads
    simp only [sppProcessStreamRequest, Client.bodyStart, r1, r2, r3, r4, r5, ok_bind, ToClient.act]
  · rw [if_neg streams] at reads
    cases reads

/-! ## With the header -/

/-- The sender's address and the body, as the host reads them. -/
def readMessageToHost (addressLength : UInt8) (message : List UInt8) (len : UInt16) :
    Except Fault (Option (List UInt8 × ToHost)) := do
  match ← readHeader addressLength message len with
  | .error _ => return none
  | .ok (msgId, sender) => return (← readToHost addressLength msgId message len).map (sender, ·)

theorem sppHostProcessMessage_eq_act {host : SppHostEngine} {message : List UInt8} {len : UInt16}
    {sender : List UInt8} {body : ToHost}
    (reads : readMessageToHost host.addressLength message len = .ok (some (sender, body))) (unset : Nat) :
    sppHostProcessMessage host message len unset = body.act host ⟨.external sender, 0⟩ unset := by
  obtain ⟨header, read, reads⟩ := bind_eq_ok.mp reads
  rw [sppHostProcessMessage_eq, read, ok_bind]
  cases header with
  | error status => cases reads
  | ok header =>
    obtain ⟨msgId, sender'⟩ := header
    simp only [bind_eq_ok, pure_eq_ok, Except.ok.injEq, Option.map_eq_some_iff, Prod.mk.injEq] at reads
    obtain ⟨_, fields, _, rfl, rfl, rfl⟩ := reads
    exact sppHandleMessage_eq_act fields _ _

/-- The sender's address and the body, as the client reads them. -/
def readMessageToClient (addressLength : UInt8) (message : List UInt8) (len : UInt16) :
    Except Fault (Option (List UInt8 × ToClient)) := do
  if len.toNat < sppMsgHdrSize addressLength then return none
  let sync ← load message 0
  let msgId ← load message 1
  if sync ≠ sppMsgSyncWord then return none
  let _clientAddress ← loadRange message 2 addressLength.toNat
  let hostAddress ← loadRange message (2 + addressLength.toNat - 1) addressLength.toNat
  return (← readToClient addressLength msgId message).map (hostAddress, ·)

theorem sppClientProcessMessage_eq_act {client : SppClientEngine σ} {message : List UInt8} {len : UInt16}
    {sender : List UInt8} {body : ToClient}
    (reads : readMessageToClient client.addressLength message len = .ok (some (sender, body))) (stack : Stack) :
    sppClientProcessMessage client message len stack = body.act client sender stack := by
  unfold readMessageToClient at reads
  split at reads
  · cases reads
  next long =>
  obtain ⟨sync, r1, reads⟩ := bind_eq_ok.mp reads
  obtain ⟨msgId, r2, reads⟩ := bind_eq_ok.mp reads
  split at reads
  · cases reads
  next synced =>
  simp only [bind_eq_ok, pure_eq_ok, Except.ok.injEq, Option.map_eq_some_iff, Prod.mk.injEq] at reads
  obtain ⟨_, r3, hostAddress, r4, _, fields, _, rfl, rfl, rfl⟩ := reads
  simp only [sppClientProcessMessage, if_neg long, r1, r2, r3, r4, ok_bind, if_neg synced]
  exact sppDispatchMessage_eq_act fields _ _

/-! ## The format -/

namespace ToHost

def msgId : ToHost → UInt8
  | .connectRequest _ => sppMsgConnectRequestBcId
  | .listResponse _ _ => sppMsgPropListResponseId
  | .definition _ _ _ _ _ _ => sppMsgPropDefId
  | .getResponse _ _ _ _ _ => sppMsgGetResponseId
  | .setResponse _ _ => sppMsgSetResponseId
  | .stream _ _ _ => sppMsgStreamId

def bytes : ToHost → List UInt8
  | .connectRequest propertyListId => bytes16 propertyListId
  | .listResponse numProps numBytes => numProps :: bytes16 numBytes
  | .definition propSize propsRemaining propId propType propFlags name =>
    propSize :: propsRemaining :: (bytes16 propId ++ propType :: propFlags :: name)
  | .getResponse token status size id value => token :: status :: size :: (bytes16 id ++ value)
  | .setResponse token status => [token, status]
  | .stream streamId timestamp value => streamId :: (bytes32 timestamp ++ value)

/-- The memory from a value on includes what follows the message. -/
def followedBy (trailing : List UInt8) : ToHost → ToHost
  | .getResponse token status size id value => .getResponse token status size id (value ++ trailing)
  | .stream streamId timestamp value => .stream streamId timestamp (value ++ trailing)
  | body => body

/-- What the host takes for the length of a name. -/
def Named (addressLength : UInt8) (len : UInt16) : ToHost → Prop
  | .definition _ _ _ _ _ name =>
    (len - UInt16.ofNat (sppMsgHdrSize addressLength) - 6).toUInt8.toNat = name.length
  | _ => True

end ToHost

namespace ToClient

def msgId : ToClient → UInt8
  | .connectResponse _ => sppMsgConnectResponseId
  | .getRequest _ _ => sppMsgGetRequestId
  | .setRequest _ _ _ _ => sppMsgSetRequestId
  | .streamRequest _ _ _ _ _ => sppMsgStreamRequestId

def bytes : ToClient → List UInt8
  | .connectResponse status => [status]
  | .getRequest token id => token :: bytes16 id
  | .setRequest token size id value => token :: size :: (bytes16 id ++ value)
  | .streamRequest token streamType streamId id period =>
    token :: streamType :: streamId :: (bytes16 id ++ bytes16 period)

def followedBy (trailing : List UInt8) : ToClient → ToClient
  | .setRequest token size id value => .setRequest token size id (value ++ trailing)
  | body => body

/-- The index of the last field fits into the `uint8_t` of the client. -/
def Indexed (addressLength : UInt8) : ToClient → Prop
  | .connectResponse _ => True
  | .getRequest _ _ => sppMsgHdrSize addressLength + 1 < 256
  | .setRequest _ _ _ _ => sppMsgHdrSize addressLength + 4 < 256
  | .streamRequest _ _ _ _ _ => sppMsgHdrSize addressLength + 5 < 256

end ToClient

section Format
variable {addressLength : UInt8} {header : List UInt8}

/-- The host reads the body that stands behind a header. -/
theorem readToHost_bytes (whole : header.length = sppMsgHdrSize addressLength) (body : ToHost) {len : UInt16}
    (named : body.Named addressLength len) (trailing : List UInt8) :
    readToHost addressLength body.msgId (header ++ (body.bytes ++ trailing)) len =
      .ok (some (body.followedBy trailing)) := by
  -- what stands behind the header is read at the same place without it
  have byte (rest : List UInt8) (k : Nat) : load (header ++ rest) (sppMsgHdrSize addressLength + k) = load rest k := by
    rw [← whole, load_behind]
  have word (rest : List UInt8) (k : Nat) :
      load16 (header ++ rest) (sppMsgHdrSize addressLength + k) = load16 rest k := by
    rw [← whole, load16_behind]
  have behind (rest : List UInt8) (k : Nat) :
      (header ++ rest).drop (sppMsgHdrSize addressLength + k) = rest.drop k := by
    rw [← whole, drop_behind]
  -- then each field is found behind the ones before it
  cases body with
  | connectRequest propertyListId =>
    exact bind_eq_ok.mpr ⟨propertyListId, (word _ 0).trans (load16_bytes16 propertyListId trailing), rfl⟩
  | listResponse numProps numBytes =>
    exact bind_eq_ok.mpr ⟨numProps, byte _ 0, bind_eq_ok.mpr ⟨numBytes,
      (word _ 1).trans (load16_bytes16 numBytes trailing), rfl⟩⟩
  | definition propSize propsRemaining propId propType propFlags name =>
    have body : (header ++ ((ToHost.definition propSize propsRemaining propId propType propFlags name).bytes ++
        trailing)).drop (sppMsgHdrSize addressLength) =
          (ToHost.definition propSize propsRemaining propId propType propFlags name).bytes ++ trailing := behind _ 0
    have readId : load16
        ((ToHost.definition propSize propsRemaining propId propType propFlags name).bytes ++ trailing) 2 = .ok propId :=
      load16_bytes16 propId (propType :: propFlags :: name ++ trailing)
    have readName : loadRange
        ((ToHost.definition propSize propsRemaining propId propType propFlags name).bytes ++ trailing) 6
        (len - UInt16.ofNat (sppMsgHdrSize addressLength) - 6).toUInt8.toNat = .ok name := by
      rw [show _ = name.length from named]
      exact (loadRange_behind (propSize :: propsRemaining :: (bytes16 propId ++ [propType, propFlags])) _ 0 _).trans
        (loadRange_front name trailing)
    rw [← body] at readId readName
    exact bind_eq_ok.mpr ⟨propSize, congrArg (load · 0) body, bind_eq_ok.mpr ⟨propsRemaining, congrArg (load · 1) body,
      bind_eq_ok.mpr ⟨propId, readId, bind_eq_ok.mpr ⟨propType, congrArg (load · 4) body,
        bind_eq_ok.mpr ⟨propFlags, congrArg (load · 5) body, bind_eq_ok.mpr ⟨name, readName, rfl⟩⟩⟩⟩⟩⟩
  | getResponse token status size id value =>
    have read : load16 (bytes16 id ++ value ++ trailing) 0 = .ok id := by
      rw [List.append_assoc, load16_bytes16]
    refine bind_eq_ok.mpr ⟨token, byte _ 0, bind_eq_ok.mpr ⟨status, byte _ 1, bind_eq_ok.mpr ⟨size, byte _ 2,
      bind_eq_ok.mpr ⟨id, (word _ 3).trans read, ?_⟩⟩⟩⟩
    rw [behind]
    rfl
  | setResponse token status =>
    exact bind_eq_ok.mpr ⟨token, byte _ 0, bind_eq_ok.mpr ⟨status, byte _ 1, rfl⟩⟩
  | stream streamId timestamp value =>
    have read : load32 (header ++ (streamId :: (bytes32 timestamp ++ value) ++ trailing))
        (sppMsgHdrSize addressLength + 1) = .ok timestamp := by
      rw [← whole, load32_behind]
      exact (congrArg (load32 · 0) (List.append_assoc (bytes32 timestamp) value trailing)).trans
        (load32_bytes32 timestamp _)
    refine bind_eq_ok.mpr ⟨streamId, byte _ 0, bind_eq_ok.mpr ⟨timestamp, read, ?_⟩⟩
    rw [behind]
    rfl

theorem readToClient_bytes (whole : header.length = sppMsgHdrSize addressLength) (body : ToClient)
    (indexed : body.Indexed addressLength) (trailing : List UInt8) :
    readToClient addressLength body.msgId (header ++ (body.bytes ++ trailing)) =
      .ok (some (body.followedBy trailing)) := by
  -- the index is exact as long as it fits into eight bits
  have index (k : Nat) (fits : sppMsgHdrSize addressLength + k < 256) :
      (UInt8.ofNat (sppMsgHdrSize addressLength) + UInt8.ofNat k).toNat = header.length + k := by
    rw [UInt8.toNat_add, UInt8.toNat_ofNat', UInt8.toNat_ofNat', whole]
    omega
  have start (fits : sppMsgHdrSize addressLength < 256) :
      (UInt8.ofNat (sppMsgHdrSize addressLength)).toNat = header.length := by
    rw [UInt8.toNat_ofNat', whole]
    omega
  have byte (k : Nat) (fits : sppMsgHdrSize addressLength + k < 256) (rest : List UInt8) :
      load (header ++ rest) (UInt8.ofNat (sppMsgHdrSize addressLength) + UInt8.ofNat k).toNat = load rest k := by
    rw [index k fits, load_behind]
  have word (k : Nat) (fits : sppMsgHdrSize addressLength + k < 256) (rest : List UInt8) :
      load16 (header ++ rest) (UInt8.ofNat (sppMsgHdrSize addressLength) + UInt8.ofNat k).toNat = load16 rest k := by
    rw [index k fits, load16_behind]
  have first (fits : sppMsgHdrSize addressLength < 256) (token : UInt8) (rest : List UInt8) :
      load (header ++ token :: rest) (UInt8.ofNat (sppMsgHdrSize addressLength)).toNat = .ok token := by
    rw [start fits]
    exact load_behind header (token :: rest) 0
  cases body with
  | connectResponse status =>
    have read : load (header ++ ([status] ++ trailing)) (sppMsgHdrSize addressLength) = .ok status := by
      rw [← whole]
      exact load_behind header _ 0
    exact bind_eq_ok.mpr ⟨status, read, rfl⟩
  | getRequest token id =>
    have fits : sppMsgHdrSize addressLength + 1 < 256 := indexed
    exact bind_eq_ok.mpr ⟨token, first (by omega) token _, bind_eq_ok.mpr ⟨id,
      (word 1 fits _).trans (load16_bytes16 id trailing), rfl⟩⟩
  | setRequest token size id value =>
    have fits : sppMsgHdrSize addressLength + 4 < 256 := indexed
    have read : load16 (bytes16 id ++ value ++ trailing) 0 = .ok id := by
      rw [List.append_assoc, load16_bytes16]
    have behind (rest : List UInt8) :
        (header ++ rest).drop (UInt8.ofNat (sppMsgHdrSize addressLength) + 4).toNat = rest.drop 4 :=
      (congrArg (header ++ rest).drop (index 4 fits)).trans (drop_behind header rest 4)
    refine bind_eq_ok.mpr ⟨token, first (by omega) token _, bind_eq_ok.mpr ⟨size, ?_, bind_eq_ok.mpr ⟨id, ?_, ?_⟩⟩⟩
    · exact byte 1 (by omega) _
    · exact (word 2 (by omega) _).trans read
    · rw [behind]
      rfl
  | streamRequest token streamType streamId id period =>
    have fits : sppMsgHdrSize addressLength + 5 < 256 := indexed
    refine bind_eq_ok.mpr ⟨token, first (by omega) token _, bind_eq_ok.mpr ⟨streamType, ?_,
      bind_eq_ok.mpr ⟨streamId, ?_, bind_eq_ok.mpr ⟨id, ?_, bind_eq_ok.mpr ⟨period, ?_, rfl⟩⟩⟩⟩⟩
    · exact byte 1 (by omega) _
    · exact byte 2 (by omega) _
    · exact (word 3 (by omega) _).trans (load16_bytes16 id (bytes16 period ++ trailing))
    · exact (word 5 fits _).trans (load16_bytes16 period trailing)

end Format

end TvcHopper.Spp
