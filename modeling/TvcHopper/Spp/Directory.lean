import TvcHopper.Spp.HostRun

/-! What the host keeps of its clients: the client table, the addresses, the
definitions and the connection state.

A call changes them in two ways only: a client connects, or a definition comes
in. Every result about clients and definitions follows from this
classification.
-/

set_option autoImplicit false

namespace TvcHopper.Spp
open Machine Machine.Slots

structure Directory where
  state : SppState
  clientCount : UInt8
  clients : Vector SppAddress sppConnectionsMax
  addressBuffer : List UInt8
  addressLength : UInt8
  propertyCount : Vector UInt16 sppConnectionsMax
  propertyDefStart : Vector UInt16 sppConnectionsMax
  defsBuffer : List SppPropertyDefinition
  defsBufferUsed : UInt16
  defsBufferSize : UInt16
  callbacks : SppHostCallbacks
  hostAddress : SppAddress

def SppHostEngine.directory (host : SppHostEngine) : Directory where
  state := host.state
  clientCount := host.clientCount
  clients := host.clients
  addressBuffer := host.addressBuffer
  addressLength := host.addressLength
  propertyCount := host.propertyCount
  propertyDefStart := host.propertyDefStart
  defsBuffer := host.defsBuffer
  defsBufferUsed := host.defsBufferUsed
  defsBufferSize := host.defsBufferSize
  callbacks := host.callbacks
  hostAddress := host.hostAddress

/-! ## The two calls that change the directory -/

/-- A received definition: its sender, its body, and what the index of an unknown client happens to be. -/
structure ReceivedDefinition where
  sender : List UInt8
  body : List UInt8
  length : UInt16
  unset : Nat

/-- The header of a received message that passes the checks. -/
def HostCall.header (addressLength : UInt8) : HostCall → Option (UInt8 × List UInt8)
  | .processMessage message len _ =>
    match readHeader addressLength message len with
    | .ok (.ok header) => some header
    | _ => none
  | _ => none

def HostCall.definition (addressLength : UInt8) (call : HostCall) : Option ReceivedDefinition :=
  match call, call.header addressLength with
  | .processMessage message len unset, some (msgId, sender) =>
    if msgId = sppMsgPropDefId then
      let bodyIdx := sppMsgHdrSize addressLength
      some ⟨sender, message.drop bodyIdx, len - UInt16.ofNat bodyIdx, unset⟩
    else none
  | _, _ => none

/-- The state in which a call connects a client, and that client. -/
def HostCall.connects (host : SppHostEngine) (call : HostCall) : Option (SppState × SppAddress) :=
  match call, call.header host.addressLength with
  | .connectToClient client, _ => some (host.state, client)
  | .processMessage message _ _, some (msgId, sender) =>
    match load16 message (sppMsgHdrSize host.addressLength) with
    | .ok propertyListId =>
      if msgId = sppMsgConnectRequestBcId ∧ host.state = .ready then
        some (.connecting, ⟨.external sender, propertyListId⟩)
      else none
    | .error _ => none
  | _, _ => none

inductive DirectoryOutcome (host host' : SppHostEngine) (call : HostCall) : Prop where
  | kept (silent : call.connects host = none) (same : host'.directory = host.directory)
      (notDefinition : call.definition host.addressLength = none)
  | connected (state : SppState) (client : SppAddress) (effects : List HostEffect)
      (connects : call.connects host = some (state, client))
      (notDefinition : call.definition host.addressLength = none)
      (done : sppConnectToClient { host with state } client = .ok (host', effects))
  | defined (received : ReceivedDefinition) (definition : call.definition host.addressLength = some received)
      (silent : call.connects host = none)
      (unpacked : sppUnpackPropDef host ⟨.external received.sender, 0⟩ received.body received.length received.unset =
        .ok host')

section Calls
variable {host host' : SppHostEngine}

theorem sppInsertToken_directory (host : SppHostEngine) (token : UInt8) :
    (sppInsertToken host token).1.directory = host.directory := by
  unfold sppInsertToken
  cases replaceFirst sppTokenMaxReserved token host.pendingRequestTokens <;> rfl

theorem sppClearToken_directory (host : SppHostEngine) (token : UInt8) :
    (sppClearToken host token).1.directory = host.directory := by
  unfold sppClearToken
  cases replaceFirst token sppTokenMaxReserved host.pendingRequestTokens <;> rfl

theorem sppProcessStream_directory {message : List UInt8} {bodyIdx : Nat} {effects : List HostEffect}
    {status : SppStatus} (done : sppProcessStream host message bodyIdx = .ok (host', effects, status)) :
    host'.directory = host.directory := by
  unfold sppProcessStream at done
  simp only [bind_eq_ok] at done
  obtain ⟨_, _, pointer, _, done⟩ := done
  cases pointer with
  | none => cases done
  | some stream =>
    simp only [bind_eq_ok, pure_eq_ok, Except.ok.injEq, Prod.mk.injEq] at done
    obtain ⟨_, _, _, _, rfl, -, -⟩ := done
    rfl

/-- What a request leaves: the host as it was, one with a new token, or one with a new stream and token. -/
inductive RequestChange (host host' : SppHostEngine) (status : SppStatus) : HostCall → Prop where
  | refused (call : HostCall) (same : host' = host) (failed : status ≠ sppStatusOk) :
      RequestChange host host' status call
  | token (call : HostCall) (notStart : ∀ client id period streamType stream spare,
        call ≠ .startStream client id period streamType stream spare) (drawn : host' = withRequest host) :
      RequestChange host host' status call
  | stream {client : SppAddress} {id period : UInt16} {streamType : UInt8} {stream spare place : Nat}
      {object : SppStream}
      (room : ¬host.pendingRequestCount > 8)
      (defined : sppHostGetDefinition host client id = .ok (sppStatusOk, some place))
      (here : host.streamObjects[stream]? = some object) (bound : host.streamCount.toNat < sppStreamMaxCount)
      (ok : status = sppStatusOk) (entered : host' = withRequest (enterStream host place stream object period bound)) :
      RequestChange host host' status (.startStream client id period streamType stream spare)

theorem RequestDone.change {call : HostCall} {effects : List HostEffect} {status : SppStatus}
    (done : RequestDone host host' effects status call) : RequestChange host host' status call := by
  cases done with
  | full _ full same silent failed =>
    subst failed
    exact .refused call same (by decide)
  | refused _ room same silent failed =>
    refine .refused call same ?_
    rcases failed with rfl | rfl <;> decide
  | getValue room filled drawn sent ok => exact .token _ nofun drawn
  | setValue room defined stored loaded filled drawn sent ok => exact .token _ nofun drawn
  | startStream room defined here bound filled spared entered sent ok =>
    exact .stream room defined here bound ok entered

theorem request_change {call : HostCall} {effects : List HostEffect} {status : SppStatus}
    (request : call.isRequest = true) (done : perform host call = .ok (host', effects, status)) :
    RequestChange host host' status call :=
  (request_done request done).change

theorem RequestChange.directory {call : HostCall} {status : SppStatus}
    (change : RequestChange host host' status call) : host'.directory = host.directory := by
  cases change with
  | refused _ same failed => rw [same]
  | token _ notStart drawn => exact drawn ▸ sppInsertToken_directory _ _
  | stream room defined here bound ok entered => exact entered ▸ sppInsertToken_directory _ _

section Header
variable {message : List UInt8} {len : UInt16} {msgId : UInt8} {sender : List UInt8}

theorem header_read {addressLength : UInt8} (read : readHeader addressLength message len = .ok (.ok (msgId, sender)))
    (unset : Nat) : (HostCall.processMessage message len unset).header addressLength = some (msgId, sender) := by
  simp only [HostCall.header, read]

theorem definition_read {addressLength : UInt8}
    (read : readHeader addressLength message len = .ok (.ok (msgId, sender))) (other : msgId ≠ sppMsgPropDefId)
    (unset : Nat) : (HostCall.processMessage message len unset).definition addressLength = none := by
  simp only [HostCall.definition, header_read read, if_neg other]

theorem connects_read (read : readHeader host.addressLength message len = .ok (.ok (msgId, sender)))
    (other : msgId = sppMsgConnectRequestBcId → host.state ≠ .ready) (unset : Nat) :
    (HostCall.processMessage message len unset).connects host = none := by
  have never : ¬(msgId = sppMsgConnectRequestBcId ∧ host.state = .ready) := fun both => other both.1 both.2
  simp only [HostCall.connects, header_read read, if_neg never]
  cases load16 message (sppMsgHdrSize host.addressLength) <;> rfl

end Header

theorem directory_message {message : List UInt8} {len : UInt16} {unset : Nat} {effects : List HostEffect}
    {status : SppStatus} (done : sppHostProcessMessage host message len unset = .ok (host', effects, status)) :
    DirectoryOutcome host host' (.processMessage message len unset) := by
  -- a message with any other id leaves the directory alone
  have kept {msgId : UInt8} {sender : List UInt8}
      (header : readHeader host.addressLength message len = .ok (.ok (msgId, sender)))
      (connect : msgId = sppMsgConnectRequestBcId → host.state ≠ .ready) (define : msgId ≠ sppMsgPropDefId)
      (same : host'.directory = host.directory) : DirectoryOutcome host host' (.processMessage message len unset) :=
    .kept (connects_read header connect unset) same (definition_read header define unset)
  cases message_outcome done with
  | refused header same silent =>
    have unread : (HostCall.processMessage message len unset).header host.addressLength = none := by
      simp only [HostCall.header, header]
    refine .kept ?_ (by rw [same]) ?_
    · simp only [HostCall.connects, unread]
    · simp only [HostCall.definition, unread]
  | busy sender header notReady same answer ok => exact kept header (fun _ => notReady) (by decide) (by rw [same])
  | connected sender propertyListId header ready listId connects ok =>
    refine .connected .connecting ⟨.external sender, propertyListId⟩ effects ?_
      (definition_read header (by decide) unset) connects
    simp only [HostCall.connects, header_read header, listId, ready, and_self, if_true]
  | announced sender header same silent =>
    exact kept header (fun connect => absurd connect (by decide)) (by decide) (by rw [same])
  | defined sender header unpacked silent ok =>
    have silent := connects_read header (fun connect => absurd connect (by decide)) unset
    refine .defined ⟨sender, message.drop (sppMsgHdrSize host.addressLength),
      len - UInt16.ofNat (sppMsgHdrSize host.addressLength), unset⟩ ?_ silent unpacked
    simp only [HostCall.definition, header_read header, if_true]
  | answered msgId sender token header isResponse loaded cleared accepted =>
    have others : msgId ≠ sppMsgConnectRequestBcId ∧ msgId ≠ sppMsgPropDefId := by
      constructor <;> rintro rfl <;> cases isResponse
    exact kept header (fun connect => absurd connect others.1) others.2 (cleared ▸ sppClearToken_directory host token)
  | streamed sender header streams =>
    exact kept header (fun connect => absurd connect (by decide)) (by decide) (sppProcessStream_directory streams)
  | unknown msgId sender header other same silent failed =>
    simp only [List.mem_cons, not_or] at other
    exact kept header (fun connect => absurd connect other.1) other.2.2.1 (by rw [same])

section Definition
variable {call : HostCall} {received : ReceivedDefinition}

theorem definition_eq_some {addressLength : UInt8}
    (definition : call.definition addressLength = some received) :
    ∃ message len, call = .processMessage message len received.unset ∧
      readHeader addressLength message len = .ok (.ok (sppMsgPropDefId, received.sender)) ∧
      received.body = message.drop (sppMsgHdrSize addressLength) ∧
      received.length = len - UInt16.ofNat (sppMsgHdrSize addressLength) := by
  cases call with
  | processMessage message len unset =>
    simp only [HostCall.definition, HostCall.header] at definition
    cases read : readHeader addressLength message len with
    | error fault => simp [read] at definition
    | ok header =>
      cases header with
      | error status => simp [read] at definition
      | ok header =>
        obtain ⟨msgId, sender⟩ := header
        simp only [read] at definition
        split at definition
        · next define =>
          obtain rfl := Option.some.inj definition
          exact ⟨message, len, rfl, by rw [← define, read], rfl, rfl⟩
        · cases definition
  | _ => cases definition

theorem hostCall_definition {host : SppHostEngine} (definition : call.definition host.addressLength = some received) :
    hostCall host call = (do
      let host ← sppUnpackPropDef host ⟨.external received.sender, 0⟩ received.body received.length received.unset
      return (host, ⟨call, [], sppStatusOk⟩)) := by
  obtain ⟨message, len, rfl, read, body, length⟩ := definition_eq_some definition
  have processed : sppHostProcessMessage host message len received.unset = (do
      let host ← sppUnpackPropDef host ⟨.external received.sender, 0⟩ received.body received.length received.unset
      return (host, [], sppStatusOk)) := by
    rw [sppHostProcessMessage_eq, read, ok_bind, body, length]
    rfl
  rw [hostCall, perform, processed]
  cases sppUnpackPropDef host ⟨.external received.sender, 0⟩ received.body received.length received.unset <;> rfl

theorem definition_inside {addressLength : UInt8} {message : List UInt8} {len : UInt16} {unset : Nat}
    (definition : (HostCall.processMessage message len unset).definition addressLength = some received)
    (inside : len.toNat ≤ message.length) : received.length.toNat ≤ received.body.length := by
  obtain ⟨_, _, same, read, body, length⟩ := definition_eq_some definition
  cases same
  have long := (readHeader_eq_ok read).1
  have narrow := addressLength.toNat_lt
  have size : sppMsgHdrSize addressLength = 2 + addressLength.toNat * 2 := rfl
  have header : (UInt16.ofNat (sppMsgHdrSize addressLength)).toNat = sppMsgHdrSize addressLength :=
    toNat_ofNat16 (by omega)
  rw [body, length, List.length_drop, UInt16.toNat_sub, header, size]
  have wide := len.toNat_lt
  omega

end Definition

/-- What a call does to the directory, for every call that completes. -/
theorem directory_outcome {call : HostCall} {event : HostEvent}
    (done : hostCall host call = .ok (host', event)) : DirectoryOutcome host host' call := by
  obtain ⟨performed, -⟩ := hostCall_eq_ok.mp done
  cases call with
  | getValue _ _ | setValue _ _ _ | startStream _ _ _ _ _ _ =>
    exact .kept rfl (request_change rfl performed).directory rfl
  | processMessage message len unset => exact directory_message performed
  | connectToClient client =>
    simp only [perform, bind_eq_ok, pure_eq_ok, Except.ok.injEq, Prod.mk.injEq, Prod.exists] at performed
    obtain ⟨_, _, connected, rfl, -, -⟩ := performed
    exact .connected host.state client _ rfl rfl connected
  | getDefinition _ _ =>
    simp only [perform, bind_eq_ok, pure_eq_ok, Except.ok.injEq, Prod.mk.injEq, Prod.exists] at performed
    obtain ⟨_, _, _, rfl, -, -⟩ := performed
    exact .kept rfl rfl rfl
  | getPropertyCount _ =>
    simp only [perform, bind_eq_ok, pure_eq_ok, Except.ok.injEq, Prod.mk.injEq] at performed
    obtain ⟨_, _, rfl, -, -⟩ := performed
    exact .kept rfl rfl rfl

theorem addressBuffer_length {call : HostCall} {event : HostEvent} (done : hostCall host call = .ok (host', event)) :
    host'.addressBuffer.length = host.addressBuffer.length := by
  cases directory_outcome done with
  | kept silent same notDefinition => exact congrArg (fun directory => directory.addressBuffer.length) same
  | connected state client effects connects notDefinition connected =>
    obtain ⟨added, client', header, status, add, -, looped, -⟩ := sppConnectToClient_outcome connected
    obtain ⟨-, -, -, buffer⟩ := looped.frame
    rw [buffer]
    exact add.addressBuffer_length
  | defined received definition silent unpacked =>
    obtain ⟨-, -, _, bound, copy, remaining, -, -, -, rfl⟩ := sppUnpackPropDef_outcome unpacked
    rfl

end Calls

end TvcHopper.Spp
