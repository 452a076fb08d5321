import TvcHopper.Machine.Execution
import TvcHopper.Spp.Client

/-! Runs of the client engine, and what a received message does to it.

The header checks come first, as they do in the host. Behind them each message
id has its branch, and each branch one effect on the client.
-/

set_option autoImplicit false

namespace TvcHopper.Spp
open Machine

variable {σ : Type}

inductive ClientCall where
  | start (stack : Stack)
  | processMessage (message : List UInt8) (len : UInt16) (stack : Stack)
  | processStreams (timestamp elapsedTime : UInt32) (stack : Stack)

structure ClientEvent where
  sent : List (List UInt8)
  status : SppStatus
  deriving DecidableEq, Repr

def clientCall (client : SppClientEngine σ) : ClientCall → Except Fault (SppClientEngine σ × ClientEvent)
  | .start stack => do
    let message ← sppClientStart client stack
    return (client, ⟨[message], sppStatusOk⟩)
  | .processMessage message len stack => do
    let (client, sent, status) ← sppClientProcessMessage client message len stack
    return (client, ⟨sent, status⟩)
  | .processStreams timestamp elapsedTime stack => do
    let (client, sent) ← sppProcessStreams client timestamp elapsedTime stack
    return (client, ⟨sent, sppStatusOk⟩)

inductive ValueCall where
  | setValue (id : UInt16) (value : List UInt8)
  | getValue (id : UInt16)
  deriving DecidableEq, Repr

/-- The callbacks with a log of their calls in the instance data. -/
def SppClientCallbacks.logged (callbacks : SppClientCallbacks σ) : SppClientCallbacks (σ × List ValueCall) where
  setValue := fun (instanceData, calls) id value =>
    (((callbacks.setValue instanceData id value).1, calls ++ [.setValue id value]),
      (callbacks.setValue instanceData id value).2)
  getValue := fun (instanceData, calls) id =>
    (((callbacks.getValue instanceData id).1, calls ++ [.getValue id]), (callbacks.getValue instanceData id).2)

def SppClientEngine.logged (client : SppClientEngine σ) : SppClientEngine (σ × List ValueCall) :=
  { client with
    callbacks := client.callbacks.logged
    instanceData := (client.instanceData, []) }

/-! ## Received messages -/

def readClientHeader (addressLength : UInt8) (message : List UInt8) (len : UInt16) :
    Except Fault (Except SppStatus (UInt8 × List UInt8)) := do
  if len.toNat < sppMsgHdrSize addressLength then return .error sppStatusShortMessage
  let sync ← load message 0
  let msgId ← load message 1
  if sync ≠ sppMsgSyncWord then return .error sppStatusInvalidSyncWord
  let _clientAddress ← loadRange message 2 addressLength.toNat
  let hostAddress ← loadRange message (2 + addressLength.toNat - 1) addressLength.toNat
  return .ok (msgId, hostAddress)

theorem sppClientProcessMessage_eq (client : SppClientEngine σ) (message : List UInt8) (len : UInt16) (stack : Stack) :
    sppClientProcessMessage client message len stack =
      (readClientHeader client.addressLength message len >>= fun
        | .error status => return (client, [], status)
        | .ok (msgId, sender) => sppDispatchMessage client sender msgId message stack) := by
  unfold sppClientProcessMessage readClientHeader
  by_cases short : len.toNat < sppMsgHdrSize client.addressLength
  · simp only [if_pos short]
    rfl
  · simp only [if_neg short]
    cases load message 0 with
    | error fault => rfl
    | ok sync =>
      simp only [ok_bind]
      cases load message 1 with
      | error fault => rfl
      | ok msgId =>
        simp only [ok_bind]
        by_cases wrong : sync ≠ sppMsgSyncWord
        · simp only [if_pos wrong]
          rfl
        · simp only [if_neg wrong, bind_assoc]
          rfl

theorem readClientHeader_ok {addressLength : UInt8} {message sender : List UInt8} {len : UInt16} {msgId : UInt8}
    (header : readClientHeader addressLength message len = .ok (.ok (msgId, sender))) :
    message[1]? = some msgId ∧ sender = (message.drop (2 + addressLength.toNat - 1)).take addressLength.toNat := by
  unfold readClientHeader at header
  split at header
  · cases header
  obtain ⟨sync, -, header⟩ := bind_eq_ok.mp header
  obtain ⟨id, second, header⟩ := bind_eq_ok.mp header
  split at header
  · cases header
  obtain ⟨_, -, header⟩ := bind_eq_ok.mp header
  obtain ⟨address, read, header⟩ := bind_eq_ok.mp header
  obtain ⟨rfl, rfl⟩ := Prod.mk.inj (Except.ok.inj (Except.ok.inj header))
  exact ⟨load_eq_ok.mp second, (loadRange_eq_ok.mp read).2.symm⟩

theorem readClientHeader_of {addressLength : UInt8} {message : List UInt8} {len : UInt16}
    (within : len.toNat ≤ message.length) (long : sppMsgHdrSize addressLength ≤ len.toNat)
    (synced : message[0]? = some sppMsgSyncWord) :
    ∃ msgId, message[1]? = some msgId ∧ readClientHeader addressLength message len =
      .ok (.ok (msgId, (message.drop (2 + addressLength.toNat - 1)).take addressLength.toNat)) := by
  have size : sppMsgHdrSize addressLength = 2 + addressLength.toNat * 2 := rfl
  have second : message[1]? = some message[1] := List.getElem?_eq_getElem (by omega)
  have first : loadRange message 2 addressLength.toNat = .ok ((message.drop 2).take addressLength.toNat) :=
    loadRange_eq_ok.mpr ⟨by omega, rfl⟩
  have sender : loadRange message (2 + addressLength.toNat - 1) addressLength.toNat =
      .ok ((message.drop (2 + addressLength.toNat - 1)).take addressLength.toNat) :=
    loadRange_eq_ok.mpr ⟨by omega, rfl⟩
  refine ⟨message[1], second, ?_⟩
  rw [readClientHeader, if_neg (Nat.not_lt.mpr long), load_eq_ok.mpr synced, ok_bind, load_eq_ok.mpr second, ok_bind,
    if_neg (not_not.mpr rfl), first, ok_bind, sender]
  rfl

theorem readClientHeader_refused {addressLength : UInt8} {message : List UInt8} {len : UInt16}
    (within : len.toNat ≤ message.length) :
    (∃ status, readClientHeader addressLength message len = .ok (.error status)) ↔
      len.toNat < sppMsgHdrSize addressLength ∨ message[0]? ≠ some sppMsgSyncWord := by
  have size : sppMsgHdrSize addressLength = 2 + addressLength.toNat * 2 := rfl
  constructor
  · rintro ⟨status, refused⟩
    by_contra accepted
    obtain ⟨long, synced⟩ := not_or.mp accepted
    obtain ⟨msgId, -, header⟩ := readClientHeader_of within (Nat.not_lt.mp long) (not_not.mp synced)
    rw [header] at refused
    cases Except.ok.inj refused
  · intro wrong
    by_cases short : len.toNat < sppMsgHdrSize addressLength
    · exact ⟨_, if_pos short⟩
    · have other := wrong.resolve_left short
      have first := load_of_lt message 0 (by omega)
      have second := load_of_lt message 1 (by omega)
      have unsynced : message[0] ≠ sppMsgSyncWord := fun same => other (by rw [← same]; exact load_eq_ok.mp first)
      exact ⟨_, by rw [readClientHeader, if_neg short, first, ok_bind, second, ok_bind, if_pos unsynced]; rfl⟩

inductive ConnectedOutcome (client client' : SppClientEngine σ) (response : SppStatus) (stack : Stack)
    (sent : List (List UInt8)) (status : SppStatus) : Prop where
  | duplicate (failed : response = sppStatusDuplicateClient) (same : client' = { client with isDuplicate := true })
      (silent : sent = []) (passed : status = response)
  | busy (failed : response = sppStatusBusy) (same : client' = client) (silent : sent = [])
      (passed : status = response)
  | list (accepted : response ≠ sppStatusDuplicateClient ∧ response ≠ sppStatusBusy) (numBytes : UInt16)
      (list : List UInt8) (sums : loop8 (Client.addSize client) client.propertyCount.toNat 0 = .ok numBytes)
      (listed : Client.propertyListMessage client (stack 0) numBytes = .ok list)
      (sends : loop8 (Client.sendDefinition client stack) client.propertyCount.toNat [list] = .ok sent)
      (same : client' = client) (ok : status = sppStatusOk)

inductive ClientOutcome (client client' : SppClientEngine σ) (message : List UInt8) (len : UInt16) (stack : Stack)
    (sent : List (List UInt8)) (status : SppStatus) : Prop where
  | refused (header : readClientHeader client.addressLength message len = .ok (.error status))
      (same : client' = client) (silent : sent = [])
  | connected (sender : List UInt8) (hostAddressBuffer : List UInt8) (response : SppStatus)
      (header : readClientHeader client.addressLength message len = .ok (.ok (sppMsgConnectResponseId, sender)))
      (stored : storeRange client.hostAddressBuffer 0 sender = .ok hostAddressBuffer)
      (read : message[sppMsgHdrSize client.addressLength]? = some response)
      (answered : ConnectedOutcome { client with hostAddressBuffer } client' response stack sent status)
  | got (sender : List UInt8) (token : UInt8) (id : UInt16) (place : Nat) (pd : SppPropertyDefinition)
      (reply : List UInt8)
      (header : readClientHeader client.addressLength message len = .ok (.ok (sppMsgGetRequestId, sender)))
      (tokenRead : message[(Client.bodyStart client).toNat]? = some token)
      (idRead : load16 message (Client.bodyStart client + 1).toNat = .ok id)
      (found : Client.sppGetDefinition client id = .ok (some place)) (here : client.properties[place]? = some pd)
      (filled : Client.getResponseMessage client (stack 0) pd token id
        (client.callbacks.getValue client.instanceData id).2.1 = .ok reply)
      (same : client' = { client with instanceData := (client.callbacks.getValue client.instanceData id).1 })
      (answer : sent = [reply]) (ok : status = sppStatusOk)
  | set (sender : List UInt8) (token : UInt8) (id : UInt16) (reply : List UInt8)
      (header : readClientHeader client.addressLength message len = .ok (.ok (sppMsgSetRequestId, sender)))
      (tokenRead : message[(Client.bodyStart client).toNat]? = some token)
      (idRead : load16 message (Client.bodyStart client + 2).toNat = .ok id)
      (filled : Client.setResponseMessage client (stack 0) token = .ok reply)
      (same : client' = { client with instanceData := (client.callbacks.setValue client.instanceData id
        (message.drop (Client.bodyStart client + 4).toNat)).1 })
      (answer : sent = [reply]) (ok : status = sppStatusOk)
  | streamRequested (sender : List UInt8)
      (header : readClientHeader client.addressLength message len = .ok (.ok (sppMsgStreamRequestId, sender)))
      (entered : sppProcessStreamRequest client message = .ok (client', sent, status))
  | streamed (sender : List UInt8) (streamId : UInt8) (stream place : Nat) (s : SppStream)
      (pd : SppPropertyDefinition)
      (header : readClientHeader client.addressLength message len = .ok (.ok (sppMsgStreamId, sender)))
      (streamRead : message[(Client.bodyStart client).toNat]? = some streamId)
      (known : Client.sppGetStream client streamId.toUInt16 = .ok (some stream))
      (entry : loadCell client.streams stream = .ok s) (defined : s.definition = some place)
      (here : client.properties[place]? = some pd)
      (same : client' = { client with instanceData := (client.callbacks.setValue client.instanceData pd.id
        (message.drop (Client.bodyStart client + 5).toNat)).1 })
      (silent : sent = []) (ok : status = sppStatusOk)
  | unknown (msgId : UInt8) (sender : List UInt8)
      (header : readClientHeader client.addressLength message len = .ok (.ok (msgId, sender)))
      (other : msgId ∉ [sppMsgConnectResponseId, sppMsgGetRequestId, sppMsgSetRequestId, sppMsgStreamRequestId,
        sppMsgStreamId])
      (same : client' = client) (silent : sent = []) (ok : status = sppStatusOk)

section Outcome
variable {client client' : SppClientEngine σ} {message : List UInt8} {len : UInt16} {stack : Stack}
  {sent : List (List UInt8)} {status : SppStatus}

theorem sendPropertyList_outcome {sender : List UInt8}
    (header : readClientHeader client.addressLength message len = .ok (.ok (sppMsgConnectResponseId, sender)))
    (done : sppSendPropertyList client message sender stack = .ok (client', sent, status)) :
    ClientOutcome client client' message len stack sent status := by
  obtain ⟨hostAddressBuffer, stored, done⟩ := bind_eq_ok.mp done
  obtain ⟨response, read, done⟩ := bind_eq_ok.mp done
  refine .connected sender hostAddressBuffer response header stored (load_eq_ok.mp read) ?_
  by_cases duplicate : response = sppStatusDuplicateClient
  · simp only [if_pos duplicate, pure_eq_ok, Except.ok.injEq, Prod.mk.injEq] at done
    obtain ⟨rfl, rfl, rfl⟩ := done
    exact .duplicate duplicate rfl rfl duplicate.symm
  rw [if_neg duplicate] at done
  by_cases busy : response = sppStatusBusy
  · simp only [if_pos busy, pure_eq_ok, Except.ok.injEq, Prod.mk.injEq] at done
    obtain ⟨rfl, rfl, rfl⟩ := done
    exact .busy busy rfl rfl busy.symm
  · simp only [if_neg busy, bind_eq_ok, pure_eq_ok, Except.ok.injEq, Prod.mk.injEq] at done
    obtain ⟨numBytes, sums, list, listed, messages, sends, rfl, rfl, rfl⟩ := done
    exact .list ⟨duplicate, busy⟩ numBytes list sums listed sends rfl rfl

theorem getRequest_outcome {sender : List UInt8}
    (header : readClientHeader client.addressLength message len = .ok (.ok (sppMsgGetRequestId, sender)))
    (done : sppProcessGetRequest client message stack = .ok (client', sent, status)) :
    ClientOutcome client client' message len stack sent status := by
  obtain ⟨token, tokenRead, done⟩ := bind_eq_ok.mp done
  obtain ⟨id, idRead, done⟩ := bind_eq_ok.mp done
  obtain ⟨found, looked, done⟩ := bind_eq_ok.mp done
  cases found with
  | none => cases done
  | some place =>
    simp only [bind_eq_ok, pure_eq_ok, Except.ok.injEq, Prod.mk.injEq] at done
    obtain ⟨pd, here, reply, filled, rfl, rfl, rfl⟩ := done
    exact .got sender token id place pd reply header (load_eq_ok.mp tokenRead) idRead looked (load_eq_ok.mp here)
      filled rfl rfl rfl

theorem setRequest_outcome {sender : List UInt8}
    (header : readClientHeader client.addressLength message len = .ok (.ok (sppMsgSetRequestId, sender)))
    (done : sppProcessSetRequest client message stack = .ok (client', sent, status)) :
    ClientOutcome client client' message len stack sent status := by
  simp only [sppProcessSetRequest, bind_eq_ok, pure_eq_ok, Except.ok.injEq, Prod.mk.injEq] at done
  obtain ⟨token, tokenRead, _, _, id, idRead, reply, filled, rfl, rfl, rfl⟩ := done
  exact .set sender token id reply header (load_eq_ok.mp tokenRead) idRead filled rfl rfl rfl

theorem streamRequest_silent
    (entered : sppProcessStreamRequest client message = .ok (client', sent, status)) :
    sent = [] ∧ status = sppStatusOk ∧ ∃ streams, client' =
      { client with streams, streamCount := client.streamCount + 1 } := by
  simp only [sppProcessStreamRequest, bind_eq_ok, pure_eq_ok, Except.ok.injEq, Prod.mk.injEq] at entered
  obtain ⟨_, -, _, -, _, -, _, -, _, -, _, -, _, -, streams, -, rfl, rfl, rfl⟩ := entered
  exact ⟨rfl, rfl, streams, rfl⟩

theorem streamData_outcome {sender : List UInt8}
    (header : readClientHeader client.addressLength message len = .ok (.ok (sppMsgStreamId, sender)))
    (done : sppProcessStreamData client message = .ok (client', sent, status)) :
    ClientOutcome client client' message len stack sent status := by
  obtain ⟨streamId, streamRead, done⟩ := bind_eq_ok.mp done
  obtain ⟨found, known, done⟩ := bind_eq_ok.mp done
  cases found with
  | none => cases done
  | some stream =>
    obtain ⟨s, entry, done⟩ := bind_eq_ok.mp done
    cases defined : s.definition with
    | none =>
      rw [defined] at done
      cases done
    | some place =>
      simp only [defined, bind_eq_ok, pure_eq_ok, Except.ok.injEq, Prod.mk.injEq] at done
      obtain ⟨pd, here, rfl, rfl, rfl⟩ := done
      exact .streamed sender streamId stream place s pd header (load_eq_ok.mp streamRead) known entry defined
        (load_eq_ok.mp here) rfl rfl rfl

theorem client_outcome (done : sppClientProcessMessage client message len stack = .ok (client', sent, status)) :
    ClientOutcome client client' message len stack sent status := by
  rw [sppClientProcessMessage_eq] at done
  obtain ⟨header, read, done⟩ := bind_eq_ok.mp done
  cases header with
  | error failed =>
    simp only [pure_eq_ok, Except.ok.injEq, Prod.mk.injEq] at done
    obtain ⟨rfl, rfl, rfl⟩ := done
    exact .refused read rfl rfl
  | ok header =>
  obtain ⟨msgId, sender⟩ := header
  simp only [sppDispatchMessage] at done
  by_cases connect : msgId = sppMsgConnectResponseId
  · subst connect
    rw [if_pos rfl] at done
    exact sendPropertyList_outcome read done
  rw [if_neg connect] at done
  by_cases get : msgId = sppMsgGetRequestId
  · subst get
    rw [if_pos rfl] at done
    exact getRequest_outcome read done
  rw [if_neg get] at done
  by_cases set : msgId = sppMsgSetRequestId
  · subst set
    rw [if_pos rfl] at done
    exact setRequest_outcome read done
  rw [if_neg set] at done
  by_cases request : msgId = sppMsgStreamRequestId
  · subst request
    rw [if_pos rfl] at done
    exact .streamRequested sender read done
  rw [if_neg request] at done
  by_cases stream : msgId = sppMsgStreamId
  · subst stream
    rw [if_pos rfl] at done
    exact streamData_outcome read done
  · simp only [if_neg stream, pure_eq_ok, Except.ok.injEq, Prod.mk.injEq] at done
    obtain ⟨rfl, rfl, rfl⟩ := done
    exact .unknown msgId sender read (by simp [connect, get, set, request, stream]) rfl rfl rfl

end Outcome

end TvcHopper.Spp
