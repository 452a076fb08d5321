import TvcHopper.Spp.ClientRun
import TvcHopper.Spp.ClientSpec

/-! Replies of the client to get and set requests, for addresses of one byte.

A reply is addressed with what the host address buffer holds, and that is the
host of the last connect response, whatever its status was. So a reply reaches
the requester exactly when the requester is that host.
-/

set_option autoImplicit false

namespace TvcHopper.Spp
open Machine

variable {σ : Type}

/-! ## What is written -/

section Written
variable {client : SppClientEngine σ}

/-- A client with one-byte addresses that takes the host address from its buffer. -/
structure BufferedHost (client : SppClientEngine σ) : Prop where
  addressLength : client.addressLength = 1
  hostAddress : client.hostAddress.address = .permanent 0

theorem stored_behind {message message' values : List UInt8} {index i : Nat}
    (stored : storeRange message index values = .ok message') (before : i < index) : message'[i]? = message[i]? :=
  storeRange_elsewhere stored (.inl before)

theorem fillMessageHeader_id {buffer header : List UInt8} {receiver sender : SppAddress} {messageId : UInt8}
    (filled : Client.sppFillMessageHeader client buffer receiver sender messageId = .ok header) :
    header[1]? = some messageId := by
  simp only [Client.sppFillMessageHeader, messageHeader, bind_eq_ok, pure_eq_ok, Except.ok.injEq] at filled
  obtain ⟨_, -, _, -, bytes, ⟨first, -, second, -, rfl⟩, stored⟩ := filled
  have here := storeRange_here stored (i := 1) (by simp)
  simpa using here

theorem fillMessageHeader_host (buffered : BufferedHost client) {buffer header : List UInt8} {sender : SppAddress}
    {messageId : UInt8}
    (filled : Client.sppFillMessageHeader client buffer client.hostAddress sender messageId = .ok header) :
    header[3]? = client.hostAddressBuffer.head? := by
  have one : client.addressLength.toNat = 1 := by
    rw [buffered.addressLength]
    rfl
  simp only [Client.sppFillMessageHeader, messageHeader, buffered.hostAddress, AddressPtr.deref, AddressPtr.read,
    List.drop_zero, ok_bind, bind_eq_ok, pure_eq_ok, Except.ok.injEq, one] at filled
  obtain ⟨_, -, bytes, ⟨first, read, second, host, rfl⟩, stored⟩ := filled
  obtain ⟨own, rfl⟩ := List.length_eq_one_iff.mp (loadRange_length read)
  obtain ⟨byte, rfl⟩ := List.length_eq_one_iff.mp (loadRange_length host)
  obtain ⟨-, taken⟩ := loadRange_eq_ok.mp host
  have here := storeRange_here stored (i := 3) (by simp)
  rw [List.drop_zero] at taken
  have head : (client.hostAddressBuffer.take 1).head? = some byte := congrArg List.head? taken
  rw [List.head?_take, if_neg (by decide)] at head
  rw [head]
  simpa using here

def IsReply (message : List UInt8) : Prop :=
  message[1]? = some sppMsgGetResponseId ∨ message[1]? = some sppMsgSetResponseId

theorem not_isReply {message : List UInt8} {messageId : UInt8} (written : message[1]? = some messageId)
    (get : messageId ≠ sppMsgGetResponseId) (set : messageId ≠ sppMsgSetResponseId) : ¬IsReply message := by
  rintro (same | same)
  · exact get (Option.some.inj (written.symm.trans same))
  · exact set (Option.some.inj (written.symm.trans same))

theorem clientStart_id (length : client.addressLength = 1) {stack : Stack} {message : List UInt8}
    (done : sppClientStart client stack = .ok message) : message[1]? = some sppMsgConnectRequestBcId := by
  unfold sppClientStart at done
  rw [bodyStart_one length] at done
  obtain ⟨header, filled, stored⟩ := bind_eq_ok.mp done
  rw [stored_behind stored (by decide)]
  exact fillMessageHeader_id filled

theorem propertyListMessage_id (length : client.addressLength = 1) {stack : Nat → UInt8} {numBytes : UInt16}
    {message : List UInt8} (done : Client.propertyListMessage client stack numBytes = .ok message) :
    message[1]? = some sppMsgPropListResponseId := by
  unfold Client.propertyListMessage at done
  rw [bodyStart_one length] at done
  obtain ⟨header, filled, done⟩ := bind_eq_ok.mp done
  obtain ⟨counted, first, second⟩ := bind_eq_ok.mp done
  rw [stored_behind second (by decide), stored_behind first (by decide)]
  exact fillMessageHeader_id filled

theorem propertyDefinitionMessage_id {stack : Nat → UInt8} {pd : SppPropertyDefinition} {propsRemaining : UInt16}
    {message : List UInt8} (done : Client.propertyDefinitionMessage client stack pd propsRemaining = .ok message) :
    message[1]? = some sppMsgPropDefId := by
  simp only [Client.propertyDefinitionMessage, bind_eq_ok] at done
  obtain ⟨_, -, header, filled, m1, s1, m2, s2, m3, s3, m4, s4, m5, s5, s6⟩ := done
  rw [stored_behind s6 (by decide), stored_behind s5 (by decide), stored_behind s4 (by decide),
    stored_behind s3 (by decide), stored_behind s2 (by decide), stored_behind s1 (by decide)]
  exact fillMessageHeader_id filled

theorem streamMessage_id {stack : Nat → UInt8} {s : SppStream} {timestamp : UInt32} {instanceData : σ}
    {message : List UInt8} (done : streamMessage client stack s timestamp = .ok (instanceData, message)) :
    message[1]? = some sppMsgStreamId := by
  unfold streamMessage at done
  cases defined : s.definition with
  | none =>
    rw [defined] at done
    cases done
  | some place =>
    simp only [defined, bind_eq_ok, pure_eq_ok, Except.ok.injEq, Prod.mk.injEq] at done
    obtain ⟨pd, -, header, filled, m1, s1, m2, s2, m3, s3, -, rfl⟩ := done
    have behind : 2 ≤ sppMsgHdrSize client.addressLength := Nat.le_add_right 2 _
    rw [List.getElem?_take_of_lt (by omega), stored_behind s3 (by omega), stored_behind s2 (by omega),
      stored_behind s1 (by omega)]
    exact fillMessageHeader_id filled

structure ReplyTo (client : SppClientEngine σ) (messageId token : UInt8) (reply : List UInt8) : Prop where
  id : reply[1]? = some messageId
  host : reply[3]? = client.hostAddressBuffer.head?
  token : reply[4]? = some token

theorem getResponseMessage_reply (buffered : BufferedHost client) {stack : Nat → UInt8} {pd : SppPropertyDefinition}
    {token : UInt8} {id : UInt16} {value reply : List UInt8}
    (done : Client.getResponseMessage client stack pd token id value = .ok reply) :
    ReplyTo client sppMsgGetResponseId token reply := by
  unfold Client.getResponseMessage at done
  rw [bodyStart_one buffered.addressLength] at done
  simp only [bind_eq_ok] at done
  obtain ⟨header, filled, m1, s1, m2, s2, m3, s3, m4, s4, s5⟩ := done
  have kept : ∀ i < 5, reply[i]? = m1[i]? := by
    intro i early
    have five : (4 + 1 : UInt8).toNat = 5 := by decide
    have six : (4 + 2 : UInt8).toNat = 6 := by decide
    have seven : (4 + 3 : UInt8).toNat = 7 := by decide
    have nine : (4 + 5 : UInt8).toNat = 9 := by decide
    rw [stored_behind s5 (by omega), stored_behind s4 (by omega), stored_behind s3 (by omega),
      stored_behind s2 (by omega)]
  constructor
  · rw [kept 1 (by decide), stored_behind s1 (by decide)]
    exact fillMessageHeader_id filled
  · rw [kept 3 (by decide), stored_behind s1 (by decide)]
    exact fillMessageHeader_host buffered filled
  · rw [kept 4 (by decide)]
    exact storeRange_here s1 (i := 0) (by simp)

theorem setResponseMessage_reply (buffered : BufferedHost client) {stack : Nat → UInt8} {token : UInt8}
    {reply : List UInt8} (done : Client.setResponseMessage client stack token = .ok reply) :
    ReplyTo client sppMsgSetResponseId token reply := by
  unfold Client.setResponseMessage at done
  rw [bodyStart_one buffered.addressLength] at done
  simp only [bind_eq_ok] at done
  obtain ⟨header, filled, m1, s1, s2⟩ := done
  have kept : ∀ i < 5, reply[i]? = m1[i]? := fun i early =>
    stored_behind s2 (Nat.lt_of_lt_of_le early (by decide))
  constructor
  · rw [kept 1 (by decide), stored_behind s1 (by decide)]
    exact fillMessageHeader_id filled
  · rw [kept 3 (by decide), stored_behind s1 (by decide)]
    exact fillMessageHeader_host buffered filled
  · rw [kept 4 (by decide)]
    exact storeRange_here s1 (i := 0) (by simp)

end Written

/-! ## Runs -/

/-- The reply is addressed to the sender of the request and carries its token. -/
def AnswersRequest (request reply : List UInt8) : Prop := reply[3]? = request[2]? ∧ reply[4]? = request[4]?

/-- Every response that a call sends answers the request that it processes. -/
def RepliesToRequester (client : SppClientEngine σ) (call : ClientCall) : Prop :=
  ∀ client' event, clientCall client call = .ok (client', event) → ∀ reply ∈ event.sent, IsReply reply →
    ∃ request len stack, call = .processMessage request len stack ∧ AnswersRequest request reply

def IsRequest (message : List UInt8) (len : UInt16) : Prop :=
  4 ≤ len.toNat ∧ message[0]? = some sppMsgSyncWord ∧
    (message[1]? = some sppMsgGetRequestId ∨ message[1]? = some sppMsgSetRequestId)

/-- Requests come from the host whose address the buffer holds. -/
def FromKnownHost (client : SppClientEngine σ) : ClientCall → Prop
  | .processMessage message len _ => IsRequest message len → client.hostAddressBuffer.head? = message[2]?
  | .start _ | .processStreams _ _ _ => True

instance (message : List UInt8) (len : UInt16) : Decidable (IsRequest message len) :=
  inferInstanceAs (Decidable (_ ∧ _ ∧ (_ ∨ _)))

instance (client : SppClientEngine σ) (call : ClientCall) : Decidable (FromKnownHost client call) :=
  match call with
  | .processMessage message len _ =>
    inferInstanceAs (Decidable (IsRequest message len → client.hostAddressBuffer.head? = message[2]?))
  | .start _ | .processStreams _ _ _ => .isTrue trivial

section Runs
variable {client client' : SppClientEngine σ} {event : ClientEvent}

theorem readClientHeader_one {message sender : List UInt8} {len : UInt16} {msgId : UInt8}
    (header : readClientHeader 1 message len = .ok (.ok (msgId, sender))) :
    4 ≤ len.toNat ∧ message[0]? = some sppMsgSyncWord ∧ message[1]? = some msgId := by
  unfold readClientHeader at header
  rw [sppMsgHdrSize_one] at header
  split at header
  · cases header
  next long =>
  obtain ⟨sync, first, header⟩ := bind_eq_ok.mp header
  obtain ⟨id, second, header⟩ := bind_eq_ok.mp header
  split at header
  · cases header
  next synced =>
  obtain ⟨_, -, header⟩ := bind_eq_ok.mp header
  obtain ⟨_, -, header⟩ := bind_eq_ok.mp header
  obtain ⟨rfl, -⟩ := Prod.mk.inj (Except.ok.inj (Except.ok.inj header))
  obtain rfl := not_not.mp synced
  exact ⟨Nat.not_lt.mp long, load_eq_ok.mp first, load_eq_ok.mp second⟩

theorem not_isRequest {message sender : List UInt8} {len : UInt16} {msgId : UInt8}
    (header : readClientHeader 1 message len = .ok (.ok (msgId, sender))) (get : msgId ≠ sppMsgGetRequestId)
    (set : msgId ≠ sppMsgSetRequestId) : ¬IsRequest message len := by
  obtain ⟨-, -, id⟩ := readClientHeader_one header
  rintro ⟨-, -, same | same⟩
  · exact get (Option.some.inj (id.symm.trans same))
  · exact set (Option.some.inj (id.symm.trans same))

theorem not_isRequest_refused {message : List UInt8} {len : UInt16} {status : SppStatus}
    (header : readClientHeader 1 message len = .ok (.error status)) : ¬IsRequest message len := by
  rintro ⟨long, synced, -⟩
  unfold readClientHeader at header
  rw [sppMsgHdrSize_one, if_neg (Nat.not_lt.mpr long), load_eq_ok.mpr synced, ok_bind] at header
  obtain ⟨msgId, -, header⟩ := bind_eq_ok.mp header
  rw [if_neg (not_not.mpr rfl)] at header
  obtain ⟨_, -, header⟩ := bind_eq_ok.mp header
  obtain ⟨_, -, header⟩ := bind_eq_ok.mp header
  cases Except.ok.inj header

theorem processStream_quiet {stack : Stack} {timestamp elapsedTime : UInt32} {i : Nat} {sent sent' : List (List UInt8)}
    (buffered : BufferedHost client) (quiet : ∀ message ∈ sent, ¬IsReply message)
    (done : processStream stack timestamp elapsedTime i (client, sent) = .ok (client', sent')) :
    BufferedHost client' ∧ ∀ message ∈ sent', ¬IsReply message := by
  simp only [processStream] at done
  obtain ⟨s, -, done⟩ := bind_eq_ok.mp done
  split at done
  · simp only [bind_eq_ok, pure_eq_ok, Except.ok.injEq, Prod.mk.injEq, Prod.exists] at done
    obtain ⟨instanceData, message, made, _, -, rfl, rfl⟩ := done
    refine ⟨⟨buffered.addressLength, buffered.hostAddress⟩, ?_⟩
    intro other member
    rcases List.mem_append.mp member with before | last
    · exact quiet other before
    · rw [List.mem_singleton.mp last]
      exact not_isReply (streamMessage_id made) (by decide) (by decide)
  · simp only [bind_eq_ok, pure_eq_ok, Except.ok.injEq, Prod.mk.injEq] at done
    obtain ⟨_, -, rfl, rfl⟩ := done
    exact ⟨⟨buffered.addressLength, buffered.hostAddress⟩, quiet⟩

theorem processStreams_quiet {stack : Stack} {timestamp elapsedTime : UInt32} {sent : List (List UInt8)}
    (buffered : BufferedHost client)
    (done : sppProcessStreams client timestamp elapsedTime stack = .ok (client', sent)) :
    BufferedHost client' ∧ ∀ message ∈ sent, ¬IsReply message := by
  have start : BufferedHost client ∧ ∀ message ∈ ([] : List (List UInt8)), ¬IsReply message := ⟨buffered, nofun⟩
  refine loop_keeps (fun state => BufferedHost state.1 ∧ ∀ message ∈ state.2, ¬IsReply message) ?_ start done
  rintro place ⟨before, sent⟩ ⟨after, sent'⟩ ⟨here, quiet⟩ one
  exact processStream_quiet here quiet one

theorem ConnectedOutcome.quiet {stack : Stack} {sent : List (List UInt8)} {response status : SppStatus}
    (answered : ConnectedOutcome client client' response stack sent status) (buffered : BufferedHost client) :
    BufferedHost client' ∧ ∀ message ∈ sent, ¬IsReply message := by
  cases answered with
  | duplicate _ same silent _ => exact same ▸ silent ▸ ⟨⟨buffered.addressLength, buffered.hostAddress⟩, nofun⟩
  | busy _ same silent _ => exact same ▸ silent ▸ ⟨buffered, nofun⟩
  | list _ numBytes list sums listed sends same _ =>
    subst same
    refine ⟨buffered, ?_⟩
    have start : ∀ message ∈ [list], ¬IsReply message := by
      intro message member
      rw [List.mem_singleton.mp member]
      exact not_isReply (propertyListMessage_id buffered.addressLength listed) (by decide) (by decide)
    refine loop8_keeps (fun sent => ∀ message ∈ sent, ¬IsReply message) ?_ start sends
    intro place before after quiet one message member
    simp only [Client.sendDefinition, bind_eq_ok, pure_eq_ok, Except.ok.injEq] at one
    obtain ⟨pd, -, defined, made, rfl⟩ := one
    rcases List.mem_append.mp member with early | last
    · exact quiet message early
    · rw [List.mem_singleton.mp last]
      exact not_isReply (propertyDefinitionMessage_id made) (by decide) (by decide)

theorem BufferedHost.step {call : ClientCall} (buffered : BufferedHost client)
    (done : clientCall client call = .ok (client', event)) : BufferedHost client' := by
  cases call with
  | start stack =>
    simp only [clientCall, bind_eq_ok, pure_eq_ok, Except.ok.injEq, Prod.mk.injEq] at done
    obtain ⟨_, -, rfl, rfl⟩ := done
    exact buffered
  | processStreams timestamp elapsedTime stack =>
    simp only [clientCall, bind_eq_ok, pure_eq_ok, Except.ok.injEq, Prod.mk.injEq, Prod.exists] at done
    obtain ⟨_, _, processed, rfl, rfl⟩ := done
    exact (processStreams_quiet buffered processed).1
  | processMessage message len stack =>
    simp only [clientCall, bind_eq_ok, pure_eq_ok, Except.ok.injEq, Prod.mk.injEq, Prod.exists] at done
    obtain ⟨_, sent, status, processed, rfl, rfl⟩ := done
    cases client_outcome processed with
    | connected _ _ _ _ _ _ answered => exact (answered.quiet ⟨buffered.addressLength, buffered.hostAddress⟩).1
    | streamRequested _ _ entered =>
      obtain ⟨-, -, streams, rfl⟩ := streamRequest_silent entered
      exact ⟨buffered.addressLength, buffered.hostAddress⟩
    | refused _ same _ | got _ _ _ _ _ _ _ _ _ _ _ _ same _ _ | set _ _ _ _ _ _ _ _ same _ _
      | streamed _ _ _ _ _ _ _ _ _ _ _ _ same _ _ | unknown _ _ _ _ same _ _ =>
      exact same ▸ ⟨buffered.addressLength, buffered.hostAddress⟩

theorem replies_quiet {call : ClientCall} (done : clientCall client call = .ok (client', event))
    (quiet : ∀ message ∈ event.sent, ¬IsReply message)
    (other : ∀ message len stack, call = .processMessage message len stack → ¬IsRequest message len) :
    RepliesToRequester client call ↔ FromKnownHost client call := by
  constructor
  · intro _
    cases call with
    | processMessage message len stack => exact fun request => absurd request (other message len stack rfl)
    | start _ | processStreams _ _ _ => trivial
  · intro _ client'' event' done' reply member isReply
    obtain ⟨-, rfl⟩ := Prod.mk.inj (Except.ok.inj (done'.symm.trans done))
    exact absurd isReply (quiet reply member)

theorem replies_quiet_message {message : List UInt8} {len : UInt16} {stack : Stack}
    (done : clientCall client (.processMessage message len stack) = .ok (client', event))
    (quiet : ∀ message ∈ event.sent, ¬IsReply message) (other : ¬IsRequest message len) :
    RepliesToRequester client (.processMessage message len stack) ↔
      FromKnownHost client (.processMessage message len stack) := by
  apply replies_quiet done quiet
  intro message' len' stack' same
  cases same
  exact other

theorem replies_answer {message reply : List UInt8} {len : UInt16} {stack : Stack} {messageId token : UInt8}
    (done : clientCall client (.processMessage message len stack) = .ok (client', event))
    (sent : event.sent = [reply]) (written : ReplyTo client messageId token reply)
    (isReply : messageId = sppMsgGetResponseId ∨ messageId = sppMsgSetResponseId)
    (request : IsRequest message len) (read : message[4]? = some token) :
    RepliesToRequester client (.processMessage message len stack) ↔
      FromKnownHost client (.processMessage message len stack) := by
  have answer : AnswersRequest message reply ↔ client.hostAddressBuffer.head? = message[2]? := by
    unfold AnswersRequest
    rw [written.host, written.token, read]
    exact and_iff_left rfl
  have isReply' : IsReply reply := by
    rcases isReply with rfl | rfl
    · exact .inl written.id
    · exact .inr written.id
  constructor
  · intro replies _
    obtain ⟨request', len', stack', same, answers⟩ := replies client' event done reply (by rw [sent]; simp) isReply'
    cases same
    exact answer.mp answers
  · intro known client'' event' done' other member _
    obtain ⟨-, rfl⟩ := Prod.mk.inj (Except.ok.inj (done'.symm.trans done))
    rw [sent] at member
    obtain rfl := List.mem_singleton.mp member
    exact ⟨message, len, stack, rfl, answer.mpr (known request)⟩

theorem replies_exact {call : ClientCall} (buffered : BufferedHost client)
    (done : clientCall client call = .ok (client', event)) :
    RepliesToRequester client call ↔ FromKnownHost client call := by
  cases call with
  | start stack =>
    have made := done
    simp only [clientCall, bind_eq_ok, pure_eq_ok, Except.ok.injEq, Prod.mk.injEq] at made
    obtain ⟨message, written, rfl, rfl⟩ := made
    refine replies_quiet done ?_ nofun
    intro other member
    rw [List.mem_singleton.mp member]
    exact not_isReply (clientStart_id buffered.addressLength written) (by decide) (by decide)
  | processStreams timestamp elapsedTime stack =>
    have made := done
    simp only [clientCall, bind_eq_ok, pure_eq_ok, Except.ok.injEq, Prod.mk.injEq, Prod.exists] at made
    obtain ⟨_, _, processed, rfl, rfl⟩ := made
    exact replies_quiet done (processStreams_quiet buffered processed).2 nofun
  | processMessage message len stack =>
    have made := done
    simp only [clientCall, bind_eq_ok, pure_eq_ok, Except.ok.injEq, Prod.mk.injEq, Prod.exists] at made
    obtain ⟨_, sent, status, processed, rfl, rfl⟩ := made
    have start : (Client.bodyStart client).toNat = 4 := congrArg UInt8.toNat (bodyStart_one buffered.addressLength)
    -- the requests are answered, the others send nothing or the list
    cases client_outcome processed with
    | got sender token id place pd reply header tokenRead _ _ _ filled _ answer _ =>
      rw [buffered.addressLength] at header
      obtain ⟨long, synced, isGet⟩ := readClientHeader_one header
      rw [start] at tokenRead
      exact replies_answer done answer (getResponseMessage_reply buffered filled) (.inl rfl)
        ⟨long, synced, .inl isGet⟩ tokenRead
    | set sender token id reply header tokenRead _ filled _ answer _ =>
      rw [buffered.addressLength] at header
      obtain ⟨long, synced, isSet⟩ := readClientHeader_one header
      rw [start] at tokenRead
      exact replies_answer done answer (setResponseMessage_reply buffered filled) (.inr rfl)
        ⟨long, synced, .inr isSet⟩ tokenRead
    | refused header _ silent =>
      rw [buffered.addressLength] at header
      exact replies_quiet_message done (silent ▸ nofun) (not_isRequest_refused header)
    | connected sender hostAddressBuffer response header _ _ answered =>
      rw [buffered.addressLength] at header
      have quiet := (answered.quiet ⟨buffered.addressLength, buffered.hostAddress⟩).2
      exact replies_quiet_message done quiet (not_isRequest header (by decide) (by decide))
    | streamRequested sender header entered =>
      rw [buffered.addressLength] at header
      have silent := (streamRequest_silent entered).1
      exact replies_quiet_message done (silent ▸ nofun) (not_isRequest header (by decide) (by decide))
    | streamed sender _ _ _ _ _ header _ _ _ _ _ _ silent _ =>
      rw [buffered.addressLength] at header
      exact replies_quiet_message done (silent ▸ nofun) (not_isRequest header (by decide) (by decide))
    | unknown msgId sender header other _ silent _ =>
      rw [buffered.addressLength] at header
      simp only [List.mem_cons, not_or] at other
      exact replies_quiet_message done (silent ▸ nofun) (not_isRequest header other.2.1 other.2.2.1)

theorem replies_exactly (buffered : BufferedHost client) (calls : List ClientCall) :
    EveryStep clientCall RepliesToRequester client calls ↔ EveryStep clientCall FromKnownHost client calls := by
  have one : ∀ (client : SppClientEngine σ) (call : ClientCall) client' event, BufferedHost client → True →
      clientCall client call = .ok (client', event) → (RepliesToRequester client call ↔ FromKnownHost client call) :=
    fun _ _ _ _ buffered _ done => replies_exact buffered done
  exact everyStep_iff one (fun _ _ _ _ buffered _ _ done => buffered.step done) buffered fun _ _ => trivial

end Runs

/-- In every run the replies go back to the requester exactly when every request that is answered comes from
the host whose address the buffer holds at that time. -/
theorem replies_to_requester (initParams : SppClientEngineInitParams σ) (prior : SppClientEngine σ)
    (one : initParams.addressLength = 1) (calls : List ClientCall) :
    EveryStep clientCall RepliesToRequester (sppClientEngineInit initParams prior) calls ↔
      EveryStep clientCall FromKnownHost (sppClientEngineInit initParams prior) calls :=
  replies_exactly ⟨one, rfl⟩ calls

/-- A connect response with `status`, and a get request for `Prop_1`, from these hosts. -/
def connectThenGet (status : SppStatus) (connected requester : UInt8) : List ClientCall :=
  [.processMessage [0xCD, 0xA1, connected, 0x01, status] 5 fun _ _ => 0,
    .processMessage [0xCD, 0xB0, requester, 0x01, 0x2A, 0xAB, 0x00] 7 fun _ _ => 0]

/-- One host connects, asks and is answered. -/
theorem replies_to_requester_one_host :
    EveryStep clientCall RepliesToRequester (sppClientEngineInit setupClientParams staticClient)
      (connectThenGet sppStatusOk 0x1D 0x1D) :=
  (replies_to_requester setupClientParams staticClient rfl _).mpr (by decide)

/-- Another host is refused in between, and gets the answer. -/
theorem busy_host_gets_reply :
    (∃ final events, run clientCall (sppClientEngineInit setupClientParams staticClient)
        (connectThenGet sppStatusBusy 0x2E 0x1D) = .ok (final, events) ∧
      events.map (·.sent) = [[], [[0xCD, 0xB1, 0x01, 0x2E, 0x2A, 0x00, 0x02, 0xAB, 0x00, 0x00, 0x00]]]) ∧
    ¬∀ calls, EveryStep clientCall RepliesToRequester (sppClientEngineInit setupClientParams staticClient) calls := by
  constructor
  · obtain ⟨final, events, done, same⟩ := run_checked clientCall (sppClientEngineInit setupClientParams staticClient)
      (connectThenGet sppStatusBusy 0x2E 0x1D) (fun _ events => decide (events.map (·.sent) =
        [[], [[0xCD, 0xB1, 0x01, 0x2E, 0x2A, 0x00, 0x02, 0xAB, 0x00, 0x00, 0x00]]])) rfl
    exact ⟨final, events, done, of_decide_eq_true same⟩
  · intro always
    have replies := always (connectThenGet sppStatusBusy 0x2E 0x1D)
    exact absurd ((replies_exactly ⟨rfl, rfl⟩ _).mp replies) (by decide)

end TvcHopper.Spp
