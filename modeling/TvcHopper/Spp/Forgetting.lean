import TvcHopper.Machine.Pairs
import TvcHopper.Spp.HostRun

/-! What the host keeps of the time before it was initialized.

`SppHostEngineInit` leaves the stream count, the stream table and the property
list ids of the clients as they were. The ids are overwritten before they are
read, the other two are not.
-/

set_option autoImplicit false

namespace TvcHopper.Spp
open Machine Machine.Slots

/-- Two tables of clients: all have the same addresses, and those that joined the same list ids. -/
structure ClientsAgree (count : Nat) (clients clients' : Vector SppAddress sppConnectionsMax) : Prop where
  addresses : ∀ (i : Nat) (within : i < sppConnectionsMax), clients'[i].address = clients[i].address
  joined : ∀ (i : Nat) (within : i < sppConnectionsMax), i < count → clients'[i] = clients[i]

/-- Two hosts that differ in what initialization keeps. -/
inductive SameButPast (host : SppHostEngine) : SppHostEngine → Prop
  | mk (streamCount : UInt8) (streams : Vector (Option Nat) sppStreamMaxCount)
      (clients : Vector SppAddress sppConnectionsMax)
      (agree : ClientsAgree host.clientCount.toNat host.clients clients) :
      SameButPast host { host with streamCount, streams, clients }

/-- The states are the same but for the past, and effects and status are the same. -/
def SameResult (one other : SppHostEngine × List HostEffect × SppStatus) : Prop :=
  SameButPast one.1 other.1 ∧ one.2 = other.2

/-! ## When the past is hidden -/

/-- The checks of `SppHostStartStream`. -/
def startsStream (host : SppHostEngine) : HostCall → Bool
  | .startStream client id _ _ _ _ =>
    !(decide (host.pendingRequestCount > 8)) &&
      (match sppGetClientIdx host client with
        | .ok (some _) => true
        | _ => false) &&
      (match sppHostGetDefinition host client id with
        | .ok (_, some _) => true
        | _ => false)
  | _ => false

def namedStream (addressLength : UInt8) : HostCall → Option UInt8
  | .processMessage message len _ =>
    match readHeader addressLength message len with
    | .ok (.ok (msgId, _)) => if msgId = sppMsgStreamId then message[sppMsgHdrSize addressLength]? else none
    | _ => none
  | _ => none

/-- A stream is started with equal stream counts only, and a stream message finds the same entry. -/
structure PastHidden (host other : SppHostEngine) (call : HostCall) : Prop where
  started : startsStream host call = true → other.streamCount = host.streamCount
  streamed : ∀ streamId ∈ namedStream host.addressLength call,
    loadCell other.streams streamId.toNat = loadCell host.streams streamId.toNat

instance (host other : SppHostEngine) (call : HostCall) : Decidable (PastHidden host other call) :=
  have : Decidable (∀ streamId ∈ namedStream host.addressLength call,
      loadCell other.streams streamId.toNat = loadCell host.streams streamId.toNat) :=
    Option.decidableForallMem _
  decidable_of_iff ((startsStream host call = true → other.streamCount = host.streamCount) ∧
      ∀ streamId ∈ namedStream host.addressLength call,
        loadCell other.streams streamId.toNat = loadCell host.streams streamId.toNat)
    ⟨fun hidden => ⟨hidden.1, hidden.2⟩, fun hidden => ⟨hidden.started, hidden.streamed⟩⟩

/-! ## The functions that do not look at it -/

section Lookups
variable {host other : SppHostEngine}

theorem SameButPast.isClientAt (related : SameButPast host other) (client : SppAddress) :
    isClientAt other client = isClientAt host client := by
  cases related with
  | mk streamCount streams clients agree =>
    funext index
    by_cases within : index < sppConnectionsMax
    · simp only [Spp.isClientAt, loadCell_of_lt clients within, loadCell_of_lt host.clients within, ok_bind,
        agree.addresses index within]
    · simp only [Spp.isClientAt, loadCell, within, dite_false]

theorem SameButPast.clientIsAt (related : SameButPast host other) (client : SppAddress) :
    clientIsAt other client = clientIsAt host client := by
  cases related with
  | mk streamCount streams clients agree =>
    funext index
    by_cases within : index < sppConnectionsMax
    · simp only [Spp.clientIsAt, loadCell_of_lt clients within, loadCell_of_lt host.clients within, ok_bind,
        agree.addresses index within]
    · simp only [Spp.clientIsAt, loadCell, within, dite_false]

theorem SameButPast.getClientIdx (related : SameButPast host other) (client : SppAddress) :
    sppGetClientIdx other client = sppGetClientIdx host client := by
  rw [sppGetClientIdx, related.isClientAt, sppGetClientIdx]

theorem SameButPast.getDefinition (related : SameButPast host other) (client : SppAddress) (id : UInt16) :
    sppHostGetDefinition other client id = sppHostGetDefinition host client id := by
  have found := related.getClientIdx client
  cases related with
  | mk streamCount streams clients agree =>
    rw [sppHostGetDefinition, found]
    rfl

theorem SameButPast.getPropertyCount (related : SameButPast host other) (client : SppAddress) :
    sppHostGetPropertyCount other client = sppHostGetPropertyCount host client := by
  have found := related.clientIsAt client
  cases related with
  | mk streamCount streams clients agree =>
    rw [sppHostGetPropertyCount, found]
    rfl

theorem SameButPast.fillMessageHeader (related : SameButPast host other) (client : SppAddress) (messageId : UInt8) :
    sppFillMessageHeader other client messageId = sppFillMessageHeader host client messageId := by
  cases related with
  | mk streamCount streams clients agree => rfl

theorem SameButPast.clearToken (related : SameButPast host other) (token : UInt8) :
    ∃ next next' status, sppClearToken host token = (next, status) ∧ sppClearToken other token = (next', status) ∧
      SameButPast next next' := by
  cases related with
  | mk streamCount streams clients agree =>
    simp only [sppClearToken]
    cases replaceFirst token sppTokenMaxReserved host.pendingRequestTokens with
    | none => exact ⟨_, _, _, rfl, rfl, .mk streamCount streams clients agree⟩
    | some tokens => exact ⟨_, _, _, rfl, rfl, .mk streamCount streams clients agree⟩

theorem SameButPast.insertToken (related : SameButPast host other) (token : UInt8) :
    SameButPast (sppInsertToken host token).1 (sppInsertToken other token).1 := by
  cases related with
  | mk streamCount streams clients agree =>
    simp only [sppInsertToken]
    cases replaceFirst sppTokenMaxReserved token host.pendingRequestTokens with
    | none => exact .mk streamCount streams clients agree
    | some tokens => exact .mk streamCount streams clients agree

theorem SameButPast.getToken (related : SameButPast host other) :
    SameButPast (sppGetToken host).1 (sppGetToken other).1 ∧ (sppGetToken other).2 = (sppGetToken host).2 := by
  cases related with
  | mk streamCount streams clients agree => exact ⟨.mk streamCount streams clients agree, rfl⟩

end Lookups

/-! ## Connecting -/

section Connecting
variable {host other : SppHostEngine}

theorem SameButPast.joinedClient (related : SameButPast host other) {i : Nat} (joined : i < host.clientCount.toNat) :
    loadCell other.clients i = loadCell host.clients i := by
  cases related with
  | mk streamCount streams clients agree =>
    by_cases within : i < sppConnectionsMax
    · simp only [loadCell_of_lt clients within, loadCell_of_lt host.clients within, agree.joined i within joined]
    · simp only [loadCell, within, dite_false]

theorem ClientsAgree.set {count : UInt8} {clients clients' : Vector SppAddress sppConnectionsMax}
    (agree : ClientsAgree count.toNat clients clients') (client : SppAddress)
    (within : count.toNat < sppConnectionsMax) :
    ClientsAgree (count + 1).toNat (clients.set count.toNat client) (clients'.set count.toNat client) := by
  have one : (1 : UInt8).toNat = 1 := rfl
  constructor
  · intro i inside
    rw [Vector.getElem_set, Vector.getElem_set]
    split
    · rfl
    · exact agree.addresses i inside
  · intro i inside joined
    rw [Vector.getElem_set, Vector.getElem_set]
    split
    · rfl
    next elsewhere =>
      rw [UInt8.toNat_add, one] at joined
      exact agree.joined i inside (by omega)

theorem SameButPast.addClient (related : SameButPast host other) (client : SppAddress) :
    Alike (fun one two => SameButPast one.1 two.1 ∧ one.2 = two.2) (sppAddClient host client)
      (sppAddClient other client) := by
  have tests := related.clientIsAt client
  cases related with
  | mk streamCount streams clients agree =>
    simp only [sppAddClient, tests]
    apply Alike.bind_same
    intro found _
    cases found with
    | some index => exact .ok ⟨.mk streamCount streams clients agree, rfl⟩
    | none =>
      apply Alike.bind_same
      intro address _
      apply Alike.bind_same
      intro bytes _
      apply Alike.bind_same
      intro addressBuffer _
      by_cases within : host.clientCount.toNat < sppConnectionsMax
      · rw [storeCell_of_lt host.clients _ within, storeCell_of_lt clients _ within]
        exact .ok ⟨.mk streamCount streams _ (agree.set _ within), rfl⟩
      · simp only [storeCell, within, dite_false]
        exact .error Fault.outOfBounds

theorem SameButPast.connectLoop (related : SameButPast host other) (client : SppAddress) (remaining i : Nat)
    (status : SppStatus) (joined : i + remaining ≤ host.clientCount.toNat) :
    Alike (fun one two => SameButPast one.1 two.1 ∧ one.2 = two.2) (sppConnectLoop client remaining i host status)
      (sppConnectLoop client remaining i other status) := by
  induction remaining generalizing i host other status with
  | zero => exact .ok ⟨related, rfl⟩
  | succ remaining ih =>
    rw [sppConnectLoop, sppConnectLoop, related.joinedClient (by omega), related.isClientAt]
    apply Alike.bind_same
    intro known _
    by_cases sameList : known.propertyListId = client.propertyListId
    · rw [if_pos sameList, if_pos sameList]
      apply Alike.bind_same
      intro itself _
      cases itself with
      | true => exact ih related (i + 1) status (by omega)
      | false =>
        cases related with
        | mk streamCount streams clients agree =>
          apply Alike.bind_same
          intro start _
          apply Alike.bind_same
          intro count _
          apply Alike.bind_same
          intro propertyDefStart _
          apply Alike.bind_same
          intro propertyCount _
          have linked : SameButPast { host with state := .ready, propertyDefStart, propertyCount }
              { host with state := .ready, propertyDefStart, propertyCount, streamCount, streams, clients } :=
            .mk streamCount streams clients agree
          have joined : i + 1 + remaining ≤ host.clientCount.toNat := by omega
          exact ih linked (i + 1) sppStatusDuplicateClient joined
    · rw [if_neg sameList, if_neg sameList]
      exact ih related (i + 1) status (by omega)

theorem SameButPast.connectToClient (related : SameButPast host other) (client : SppAddress) :
    Alike (fun one two => SameButPast one.1 two.1 ∧ one.2 = two.2) (sppConnectToClient host client)
      (sppConnectToClient other client) := by
  apply Alike.bind (related.addClient client)
  rintro ⟨added, address⟩ ⟨added', address'⟩ ⟨related', same⟩
  obtain rfl : address = address' := same
  have header := related'.fillMessageHeader address sppMsgConnectResponseId
  have count : added'.clientCount = added.clientCount := by
    cases related' with
    | mk streamCount streams clients agree => rfl
  simp only [header, count]
  apply Alike.bind_same
  intro message _
  apply Alike.bind (related'.connectLoop address _ 0 sppStatusOk (Nat.zero_add _).le)
  rintro ⟨linked, status⟩ ⟨linked', status'⟩ ⟨related'', same⟩
  obtain rfl : status = status' := same
  exact .ok ⟨related'', rfl⟩

end Connecting

/-! ## Requests -/

section Requests
variable {host other : SppHostEngine}

theorem SameButPast.pendingRequestCount (related : SameButPast host other) :
    other.pendingRequestCount = host.pendingRequestCount := by
  cases related with
  | mk streamCount streams clients agree => rfl

theorem SameButPast.defsBuffer (related : SameButPast host other) : other.defsBuffer = host.defsBuffer := by
  cases related with
  | mk streamCount streams clients agree => rfl

theorem SameButPast.withRequest (related : SameButPast host other) :
    SameButPast (withRequest host) (sppInsertToken (sppGetToken other).1 (sppGetToken host).2).1 ∧
      (sppGetToken other).2 = (sppGetToken host).2 := by
  obtain ⟨drawn, token⟩ := related.getToken
  exact ⟨drawn.insertToken _, token⟩

theorem SameButPast.getValue (related : SameButPast host other) (client : SppAddress) (id : UInt16) :
    Alike SameResult (sppHostGetValue host client id) (sppHostGetValue other client id) := by
  unfold sppHostGetValue
  rw [related.pendingRequestCount, related.getClientIdx]
  by_cases full : host.pendingRequestCount > 8
  · rw [if_pos full, if_pos full]
    exact .ok ⟨related, rfl⟩
  rw [if_neg full, if_neg full]
  apply Alike.bind_same
  intro found _
  cases found with
  | none => exact .ok ⟨related, rfl⟩
  | some index =>
    simp only [related.fillMessageHeader]
    apply Alike.bind_same
    intro message _
    obtain ⟨entered, token⟩ := related.withRequest
    rw [token]
    exact .ok ⟨entered, rfl⟩

theorem SameButPast.setValue (related : SameButPast host other) (client : SppAddress) (id : UInt16)
    (value : List UInt8) : Alike SameResult (sppHostSetValue host client id value)
      (sppHostSetValue other client id value) := by
  unfold sppHostSetValue
  rw [related.pendingRequestCount, related.getDefinition]
  by_cases full : host.pendingRequestCount > 8
  · rw [if_pos full, if_pos full]
    exact .ok ⟨related, rfl⟩
  rw [if_neg full, if_neg full]
  apply Alike.bind_same
  rintro ⟨status, found⟩ _
  cases found with
  | none => exact .ok ⟨related, rfl⟩
  | some definition =>
    simp only [related.fillMessageHeader, related.defsBuffer]
    apply Alike.bind_same
    intro pd _
    apply Alike.bind_same
    intro message _
    obtain ⟨entered, token⟩ := related.withRequest
    rw [token]
    apply Alike.bind_same
    intro bytes _
    exact .ok ⟨entered, rfl⟩

theorem SameButPast.startStream (related : SameButPast host other) (client : SppAddress) (id period : UInt16)
    (streamType : UInt8) (stream spare : Nat)
    (counts : startsStream host (.startStream client id period streamType stream spare) = true →
      other.streamCount = host.streamCount) :
    Alike SameResult (sppHostStartStream host client id period streamType stream spare)
      (sppHostStartStream other client id period streamType stream spare) := by
  unfold sppHostStartStream
  rw [related.pendingRequestCount, related.getClientIdx, related.getDefinition]
  by_cases full : host.pendingRequestCount > 8
  · rw [if_pos full, if_pos full]
    exact .ok ⟨related, rfl⟩
  rw [if_neg full, if_neg full]
  apply Alike.bind_same
  intro found known
  cases found with
  | none => exact .ok ⟨related, rfl⟩
  | some index =>
    apply Alike.bind_same
    rintro ⟨status, found⟩ defined
    cases found with
    | none => exact .ok ⟨related, rfl⟩
    | some definition =>
      have count := counts (by simp [startsStream, full, known, defined])
      cases related with
      | mk streamCount streams clients agree =>
        obtain rfl : streamCount = host.streamCount := count
        apply Alike.bind_same
        intro object _
        by_cases within : host.streamCount.toNat < sppStreamMaxCount
        · simp only [storeCell_of_lt _ _ within, ok_bind]
          have entered : SameButPast (enterStream host definition stream object period within)
              { enterStream host definition stream object period within with
                streams := streams.set host.streamCount.toNat (some stream), clients } := .mk _ _ clients agree
          have header := entered.fillMessageHeader client sppMsgStreamRequestId
          simp only [enterStream] at header
          rw [header]
          apply Alike.bind_same
          intro message _
          apply Alike.bind_same
          intro body _
          exact .ok ⟨entered.withRequest.1, rfl⟩
        · simp only [storeCell, within, dite_false]
          exact .error Fault.outOfBounds

end Requests

/-! ## Received messages -/

section Messages
variable {host other : SppHostEngine}

theorem SameButPast.addressLength (related : SameButPast host other) : other.addressLength = host.addressLength := by
  cases related with
  | mk streamCount streams clients agree => rfl

theorem SameButPast.connectBusy (related : SameButPast host other) (client : SppAddress) :
    sppSendConnectBusyResponse other client = sppSendConnectBusyResponse host client := by
  rw [sppSendConnectBusyResponse, related.fillMessageHeader, sppSendConnectBusyResponse]

theorem SameButPast.unpackPropDef (related : SameButPast host other) (client : SppAddress) (body : List UInt8)
    (len : UInt16) (unset : Nat) :
    Alike SameButPast (sppUnpackPropDef host client body len unset) (sppUnpackPropDef other client body len unset) := by
  have found := related.getClientIdx client
  cases related with
  | mk streamCount streams clients agree =>
    simp only [sppUnpackPropDef, found]
    apply Alike.bind_same
    intro propSize _
    apply Alike.bind_same
    intro propsRemaining _
    apply Alike.bind_same
    intro propId _
    apply Alike.bind_same
    intro propType _
    apply Alike.bind_same
    intro propFlags _
    apply Alike.bind_same
    intro index _
    apply Alike.bind_same
    intro count _
    apply Alike.bind_same
    intro propertyCount _
    apply Alike.bind_same
    intro pd _
    apply Alike.bind_same
    intro bytes _
    apply Alike.bind_same
    intro name _
    exact .ok (.mk streamCount streams clients agree)

theorem SameButPast.response (related : SameButPast host other) (message : List UInt8) (bodyIdx : Nat) :
    Alike SameResult (sppProcessResponse host message bodyIdx) (sppProcessResponse other message bodyIdx) := by
  apply Alike.bind_same
  intro token _
  apply Alike.bind_same
  intro status _
  obtain ⟨next, next', tokenStatus, here, there, after⟩ := related.clearToken token
  simp only [here, there]
  exact .ok ⟨after, rfl⟩

theorem SameButPast.getResponse (related : SameButPast host other) (client : SppAddress) (message : List UInt8)
    (bodyIdx : Nat) : Alike SameResult (sppProcessGetResponse host client message bodyIdx)
      (sppProcessGetResponse other client message bodyIdx) := by
  apply Alike.bind_same
  intro token _
  apply Alike.bind_same
  intro status _
  apply Alike.bind_same
  intro size _
  apply Alike.bind_same
  intro id _
  obtain ⟨next, next', tokenStatus, here, there, after⟩ := related.clearToken token
  simp only [here, there]
  split
  · exact .ok ⟨after, rfl⟩
  · exact .ok ⟨after, rfl⟩

theorem SameButPast.stream (related : SameButPast host other) (message : List UInt8) (bodyIdx : Nat)
    (entries : ∀ streamId, message[bodyIdx]? = some streamId →
      loadCell other.streams streamId.toNat = loadCell host.streams streamId.toNat) :
    Alike SameResult (sppProcessStream host message bodyIdx) (sppProcessStream other message bodyIdx) := by
  apply Alike.bind_same
  intro streamId read
  rw [entries streamId (load_eq_ok.mp read)]
  apply Alike.bind_same
  intro known _
  cases known with
  | none => exact .error Fault.wildPointer
  | some index =>
    cases related with
    | mk streamCount streams clients agree =>
      apply Alike.bind_same
      intro timestamp _
      apply Alike.bind_same
      intro object _
      exact .ok ⟨.mk streamCount streams clients agree, rfl⟩

theorem SameButPast.handleMessage (related : SameButPast host other) (client : SppAddress) (msgId : UInt8)
    (message : List UInt8) (len : UInt16) (unset : Nat)
    (entries : msgId = sppMsgStreamId → ∀ streamId, message[sppMsgHdrSize host.addressLength]? = some streamId →
      loadCell other.streams streamId.toNat = loadCell host.streams streamId.toNat) :
    Alike SameResult (sppHandleMessage host client msgId message len unset)
      (sppHandleMessage other client msgId message len unset) := by
  have bodyIdx : sppMsgHdrSize other.addressLength = sppMsgHdrSize host.addressLength :=
    congrArg sppMsgHdrSize related.addressLength
  unfold sppHandleMessage
  simp only [bodyIdx]
  -- the branches of the source, in their order; each reads what initialization has set
  by_cases request : msgId = sppMsgConnectRequestBcId
  · rw [if_pos request, if_pos request]
    have state : other.state = host.state := by
      cases related with
      | mk streamCount streams clients agree => rfl
    rw [state, related.connectBusy]
    by_cases busy : host.state ≠ .ready
    · rw [if_pos busy, if_pos busy]
      apply Alike.bind_same
      intro effects _
      exact .ok ⟨related, rfl⟩
    rw [if_neg busy, if_neg busy]
    apply Alike.bind_same
    intro propertyListId _
    have connecting : SameButPast { host with state := .connecting } { other with state := .connecting } := by
      cases related with
      | mk streamCount streams clients agree => exact .mk streamCount streams clients agree
    apply Alike.bind (connecting.connectToClient { client with propertyListId })
    rintro ⟨connected, effects⟩ ⟨connected', effects'⟩ ⟨related', same⟩
    obtain rfl : effects = effects' := same
    exact .ok ⟨related', rfl⟩
  rw [if_neg request, if_neg request]
  by_cases list : msgId = sppMsgPropListResponseId
  · rw [if_pos list, if_pos list]
    have used : other.defsBufferUsed = host.defsBufferUsed ∧ other.defsBufferSize = host.defsBufferSize := by
      cases related with
      | mk streamCount streams clients agree => exact ⟨rfl, rfl⟩
    rw [used.1, used.2]
    apply Alike.bind_same
    intro numProps _
    apply Alike.bind_same
    intro numBytes _
    split
    · exact .ok ⟨related, rfl⟩
    · exact .ok ⟨related, rfl⟩
  rw [if_neg list, if_neg list]
  by_cases defined : msgId = sppMsgPropDefId
  · rw [if_pos defined, if_pos defined]
    apply Alike.bind (related.unpackPropDef client _ _ unset)
    exact fun _ _ unpacked => .ok ⟨unpacked, rfl⟩
  rw [if_neg defined, if_neg defined]
  by_cases got : msgId = sppMsgGetResponseId
  · rw [if_pos got, if_pos got]
    exact related.getResponse client message _
  rw [if_neg got, if_neg got]
  by_cases done : msgId = sppMsgSetResponseId
  · rw [if_pos done, if_pos done]
    exact related.response message _
  rw [if_neg done, if_neg done]
  by_cases response : msgId = sppMsgStreamResponseId
  · rw [if_pos response, if_pos response]
    exact related.response message _
  rw [if_neg response, if_neg response]
  by_cases streams : msgId = sppMsgStreamId
  -- but for a stream message, which looks into the table that was kept
  · rw [if_pos streams, if_pos streams]
    exact related.stream message _ (entries streams)
  · rw [if_neg streams, if_neg streams]
    exact .ok ⟨related, rfl⟩

theorem SameButPast.processMessage (related : SameButPast host other) (message : List UInt8) (len : UInt16)
    (unset : Nat) (hidden : PastHidden host other (.processMessage message len unset)) :
    Alike SameResult (sppHostProcessMessage host message len unset)
      (sppHostProcessMessage other message len unset) := by
  rw [sppHostProcessMessage_eq, sppHostProcessMessage_eq, related.addressLength]
  apply Alike.bind_same
  intro header read
  cases header with
  | error status => exact .ok ⟨related, rfl⟩
  | ok header =>
    obtain ⟨msgId, sender⟩ := header
    apply related.handleMessage
    intro isStream streamId named
    apply hidden.streamed
    simp [namedStream, read, isStream, named]

end Messages

/-! ## Runs -/

section Runs
variable {host other : SppHostEngine} {call : HostCall}

theorem SameButPast.perform (related : SameButPast host other) (hidden : PastHidden host other call) :
    Alike SameResult (perform host call) (perform other call) := by
  cases call with
  | connectToClient client =>
    apply Alike.bind (related.connectToClient client)
    rintro ⟨connected, effects⟩ ⟨connected', effects'⟩ ⟨related', same⟩
    obtain rfl : effects = effects' := same
    exact .ok ⟨related', rfl⟩
  | getValue client id => exact related.getValue client id
  | setValue client id value => exact related.setValue client id value
  | startStream client id period streamType stream spare =>
    exact related.startStream client id period streamType stream spare hidden.started
  | getDefinition client id =>
    simp only [Spp.perform, related.getDefinition]
    apply Alike.bind_same
    intro found _
    exact .ok ⟨related, rfl⟩
  | getPropertyCount client =>
    simp only [Spp.perform, related.getPropertyCount]
    apply Alike.bind_same
    intro count _
    exact .ok ⟨related, rfl⟩
  | processMessage message len unset => exact related.processMessage message len unset hidden

theorem SameButPast.hostCall (related : SameButPast host other) (hidden : PastHidden host other call) :
    Alike (fun one two => SameButPast one.1 two.1 ∧ one.2 = two.2) (hostCall host call) (hostCall other call) := by
  apply Alike.bind (related.perform hidden)
  rintro ⟨next, effects, status⟩ ⟨next', effects', status'⟩ ⟨related', same⟩
  obtain ⟨rfl, rfl⟩ : effects = effects' ∧ status = status' := Prod.mk.inj same
  exact .ok ⟨related', rfl⟩

theorem sameButPast_init (initParams : SppHostEngineInitParams) {prior prior' : SppHostEngine}
    (objects : prior'.streamObjects = prior.streamObjects) :
    SameButPast (sppHostEngineInit initParams prior) (sppHostEngineInit initParams prior') := by
  have agree : ClientsAgree 0 (sppHostEngineInit initParams prior).clients
      (sppHostEngineInit initParams prior').clients := by
    constructor
    · intro i within
      simp [sppHostEngineInit]
    · exact fun _ _ joined => absurd joined (Nat.not_lt_zero _)
  have same : sppHostEngineInit initParams prior' = { sppHostEngineInit initParams prior with
      streamCount := prior'.streamCount
      streams := prior'.streams
      clients := (sppHostEngineInit initParams prior').clients } := by
    simp only [sppHostEngineInit, objects]
  rw [same]
  exact .mk _ _ _ agree

end Runs

/-- Two hosts that were initialized with the same parameters behave the same in every run in which streams are
started with equal stream counts and stream messages find the same entries. -/
theorem init_forgets (initParams : SppHostEngineInitParams) (prior prior' : SppHostEngine)
    (objects : prior'.streamObjects = prior.streamObjects) (calls : List HostCall)
    (hidden : EveryPair hostCall PastHidden (sppHostEngineInit initParams prior)
      (sppHostEngineInit initParams prior') calls) :
    SameOutputs hostCall (sppHostEngineInit initParams prior) (sppHostEngineInit initParams prior') calls := by
  have one : ∀ host other (call : HostCall), SameButPast host other → PastHidden host other call →
      Alike (fun one two => SameButPast one.1 two.1 ∧ one.2 = two.2) (hostCall host call) (hostCall other call) :=
    fun _ _ _ related here => related.hostCall here
  exact sameOutputs_of_relation SameButPast one (sameButPast_init initParams objects) hidden

/-- Memory of an engine, with one stream object of the application. -/
def usedHost (streamCount : UInt8) (entry : Option Nat) : SppHostEngine :=
  { staticHost with
    streamCount
    streams := .replicate _ entry
    streamObjects := [⟨none, 0, 0, none, 0, 0⟩] }

/-- A client connects and sends its one definition, and a stream of it is started. -/
def startOneStream : List HostCall :=
  [.processMessage [0xCD, 0xA0, 0x01, 0x1D, 0xDD, 0x00] 6 0,
    .processMessage [0xCD, 0xA5, 0x01, 0x1D, 0x02, 0x00, 0xAB, 0x00, 0xE0, 0x01, 0x50, 0x00] 12 0,
    .startStream ⟨.external [0x01], 0⟩ 0xAB 100 0 0 1]

/-- The stream table of an earlier session does not matter for a stream that is started and then received. -/
theorem init_forgets_table :
    SameOutputs hostCall (sppHostEngineInit setupParams (usedHost 0 none))
      (sppHostEngineInit setupParams (usedHost 0 (some 3)))
      (startOneStream ++ [.processMessage [0xCD, 0xB6, 0x01, 0x1D, 0x00, 0x0A, 0x00, 0x00, 0x00, 0x34, 0x12] 11 0]) :=
  init_forgets setupParams (usedHost 0 none) (usedHost 0 (some 3)) rfl
    (startOneStream ++ [.processMessage [0xCD, 0xB6, 0x01, 0x1D, 0x00, 0x0A, 0x00, 0x00, 0x00, 0x34, 0x12] 11 0])
    (by decide)

/-- The stream count of an earlier session is the first stream id. -/
theorem stream_count_remembered :
    (∃ final events, run hostCall (sppHostEngineInit setupParams (usedHost 0 none)) startOneStream =
        .ok (final, events) ∧ events.map (·.effects) = [[.sendMessage [0xCD, 0xA1, 0x1D, 0x01, 0x00]], [],
          [.sendMessage [0xCD, 0xB4, 0x1D, 0x01, 0x01, 0x00, 0x00, 0xAB, 0x00, 0x64]]]) ∧
      (∃ final events, run hostCall (sppHostEngineInit setupParams (usedHost 7 none)) startOneStream =
        .ok (final, events) ∧ events.map (·.effects) = [[.sendMessage [0xCD, 0xA1, 0x1D, 0x01, 0x00]], [],
          [.sendMessage [0xCD, 0xB4, 0x1D, 0x01, 0x01, 0x00, 0x07, 0xAB, 0x00, 0x64]]]) ∧
      ¬∀ prior prior' : SppHostEngine, prior'.streamObjects = prior.streamObjects → ∀ calls,
        SameOutputs hostCall (sppHostEngineInit setupParams prior) (sppHostEngineInit setupParams prior') calls := by
  obtain ⟨final, events, done, sent⟩ := run_checked hostCall (sppHostEngineInit setupParams (usedHost 0 none))
    startOneStream (fun _ events => decide (events.map (·.effects) = [[.sendMessage [0xCD, 0xA1, 0x1D, 0x01, 0x00]], [],
      [.sendMessage [0xCD, 0xB4, 0x1D, 0x01, 0x01, 0x00, 0x00, 0xAB, 0x00, 0x64]]])) rfl
  obtain ⟨final', events', done', sent'⟩ := run_checked hostCall (sppHostEngineInit setupParams (usedHost 7 none))
    startOneStream (fun _ events => decide (events.map (·.effects) = [[.sendMessage [0xCD, 0xA1, 0x1D, 0x01, 0x00]], [],
      [.sendMessage [0xCD, 0xB4, 0x1D, 0x01, 0x01, 0x00, 0x07, 0xAB, 0x00, 0x64]]])) rfl
  have sent := of_decide_eq_true sent
  have sent' := of_decide_eq_true sent'
  refine ⟨⟨final, events, done, sent⟩, ⟨final', events', done', sent'⟩, fun always => ?_⟩
  have same := (always (usedHost 0 none) (usedHost 7 none) rfl startOneStream).outputs_eq done done'
  rw [← same, sent] at sent'
  exact absurd sent' (by decide)

end TvcHopper.Spp
