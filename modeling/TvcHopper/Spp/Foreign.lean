import TvcHopper.Spp.ClientRun
import TvcHopper.Spp.Received

/-! Messages for somebody else.

Both engines read the two addresses of a message and compare neither of them
with their own. A message for another engine leaves an engine as it is only
where any message of its kind would have.
-/

set_option autoImplicit false

namespace TvcHopper.Spp
open Machine Machine.Slots

variable {σ : Type}

def destination (addressLength : UInt8) (message : List UInt8) : List UInt8 :=
  (message.drop (2 + addressLength.toNat)).take addressLength.toNat

/-- The destination is not the address `own` points to; that of a connect request is not the broadcast
address either. -/
def Foreign (addressLength : UInt8) (own : Option (List UInt8)) (broadcast message : List UInt8) : Prop :=
  own.map (·.take addressLength.toNat) ≠ some (destination addressLength message) ∧
    (message[1]? = some sppMsgConnectRequestBcId → destination addressLength message ≠ broadcast)

instance (addressLength : UInt8) (own : Option (List UInt8)) (broadcast message : List UInt8) :
    Decidable (Foreign addressLength own broadcast message) :=
  inferInstanceAs (Decidable (_ ∧ (_ → _)))

/-! ## The client -/

section Client
variable (client : SppClientEngine σ) (broadcast message : List UInt8) (len : UInt16) (stack : Stack)

def ForeignToClient : Prop :=
  Foreign client.addressLength (client.clientAddress.address.read client.hostAddressBuffer) broadcast message

/-- No state is changed, no value callback is called, nothing is sent. -/
def IgnoredByClient : Prop :=
  ∃ status, sppClientProcessMessage client.logged message len stack = .ok (client.logged, [], status)

/-- The messages that any client ignores, whomever they are for. -/
def HarmlessToClient : Prop :=
  len.toNat < sppMsgHdrSize client.addressLength ∨ message[0]? ≠ some sppMsgSyncWord ∨
    (∃ msgId, message[1]? = some msgId ∧ msgId ∉ [sppMsgConnectResponseId, sppMsgGetRequestId, sppMsgSetRequestId,
      sppMsgStreamRequestId, sppMsgStreamId]) ∨
    (message[1]? = some sppMsgConnectResponseId ∧
      (message.drop (2 + client.addressLength.toNat - 1)).take client.addressLength.toNat <+:
        client.hostAddressBuffer ∧
      (message[sppMsgHdrSize client.addressLength]? = some sppStatusBusy ∨
        message[sppMsgHdrSize client.addressLength]? = some sppStatusDuplicateClient ∧ client.isDuplicate = true))

end Client

section ClientMessages
variable {client client' : SppClientEngine σ} {message : List UInt8} {len : UInt16} {stack : Stack}

theorem ConnectedOutcome.unchanged {hostAddressBuffer : List UInt8} {sent : List (List UInt8)}
    {response status : SppStatus}
    (answered : ConnectedOutcome { client with hostAddressBuffer } client' response stack sent status)
    (same : client' = client) (silent : sent = []) :
    hostAddressBuffer = client.hostAddressBuffer ∧
      (response = sppStatusBusy ∨ response = sppStatusDuplicateClient ∧ client.isDuplicate = true) := by
  subst same
  cases answered with
  | duplicate failed made _ _ =>
    have buffer := congrArg SppClientEngine.hostAddressBuffer made
    have flag := congrArg SppClientEngine.isDuplicate made
    exact ⟨buffer.symm, .inr ⟨failed, flag⟩⟩
  | busy failed made _ _ =>
    have buffer := congrArg SppClientEngine.hostAddressBuffer made
    exact ⟨buffer.symm, .inl failed⟩
  | list _ numBytes list _ _ sends _ _ =>
    have some : sent ≠ [] := by
      apply loop8_keeps (fun sent : List (List UInt8) => sent ≠ []) _ (List.cons_ne_nil list []) sends
      intro place before after _ one
      simp only [Client.sendDefinition, bind_eq_ok, pure_eq_ok, Except.ok.injEq] at one
      obtain ⟨_, -, _, -, rfl⟩ := one
      simp
    exact absurd silent some

theorem harmless_of_ignoredByClient (within : len.toNat ≤ message.length)
    (ignored : IgnoredByClient client message len stack) : HarmlessToClient client message len := by
  obtain ⟨status, done⟩ := ignored
  cases client_outcome done with
  | refused header _ _ =>
    rcases (readClientHeader_refused within).mp ⟨_, header⟩ with short | unsynced
    · exact .inl short
    · exact .inr (.inl unsynced)
  | connected sender buffer response header stored read answered =>
    obtain ⟨id, from_⟩ := readClientHeader_ok header
    obtain ⟨same, failed⟩ := answered.unchanged rfl rfl
    subst same from_
    rcases failed with rfl | ⟨rfl, flag⟩
    · exact .inr (.inr (.inr ⟨id, storeRange_front_same.mp stored, .inl read⟩))
    · exact .inr (.inr (.inr ⟨id, storeRange_front_same.mp stored, .inr ⟨read, flag⟩⟩))
  | got _ _ _ _ _ reply _ _ _ _ _ _ _ answer _ | set _ _ _ reply _ _ _ _ _ answer _ => cases answer
  | streamRequested sender header entered =>
    obtain ⟨-, -, streams, same⟩ := streamRequest_silent entered
    have count := congrArg (fun client => client.streamCount.toNat) same
    simp only [UInt8.toNat_add] at count
    have bound := client.logged.streamCount.toNat_lt
    have one : (1 : UInt8).toNat = 1 := rfl
    omega
  | streamed _ streamId stream place s pd _ _ _ _ _ _ same _ _ =>
    -- `SetValue` is called
    have calls := congrArg (fun client => client.instanceData.2) same
    cases calls
  | unknown msgId sender header other _ _ _ => exact .inr (.inr (.inl ⟨msgId, (readClientHeader_ok header).1, other⟩))

theorem ignoredByClient_of_harmless (within : len.toNat ≤ message.length)
    (harmless : HarmlessToClient client message len) : IgnoredByClient client message len stack := by
  unfold IgnoredByClient
  by_cases refused : len.toNat < sppMsgHdrSize client.addressLength ∨ message[0]? ≠ some sppMsgSyncWord
  · obtain ⟨status, header⟩ := (readClientHeader_refused within).mpr refused
    refine ⟨status, ?_⟩
    rw [sppClientProcessMessage_eq]
    exact bind_eq_ok.mpr ⟨_, header, rfl⟩
  obtain ⟨long, synced⟩ := not_or.mp refused
  obtain ⟨msgId, id, header⟩ := readClientHeader_of within (Nat.not_lt.mp long) (not_not.mp synced)
  rw [sppClientProcessMessage_eq]
  rcases harmless with short | unsynced | ⟨msgId', id', other⟩ | ⟨connect, buffered, failed⟩
  · exact absurd short long
  · exact absurd unsynced synced
  · obtain rfl := Option.some.inj (id.symm.trans id')
    simp only [List.mem_cons, List.not_mem_nil, or_false, not_or] at other
    refine ⟨sppStatusOk, bind_eq_ok.mpr ⟨_, header, ?_⟩⟩
    simp only [sppDispatchMessage, other, if_false]
    rfl
  · obtain rfl := Option.some.inj (id.symm.trans connect)
    have stored := storeRange_front_same.mpr buffered
    rcases failed with busy | ⟨duplicate, flag⟩
    · refine ⟨sppStatusBusy, bind_eq_ok.mpr ⟨_, header, bind_eq_ok.mpr ⟨_, stored, ?_⟩⟩⟩
      exact bind_eq_ok.mpr ⟨_, load_eq_ok.mpr busy, rfl⟩
    · refine ⟨sppStatusDuplicateClient, bind_eq_ok.mpr ⟨_, header, bind_eq_ok.mpr ⟨_, stored, ?_⟩⟩⟩
      refine bind_eq_ok.mpr ⟨_, load_eq_ok.mpr duplicate, ?_⟩
      rw [if_pos rfl, ← flag]
      rfl

end ClientMessages

/-! ## The host -/

section Host
variable (host : SppHostEngine) (broadcast message : List UInt8) (len : UInt16) (unset : Nat)

def ForeignToHost : Prop :=
  Foreign host.addressLength (host.hostAddress.address.read host.addressBuffer) broadcast message

/-- No state is changed, no callback is called. -/
def IgnoredByHost : Prop := ∃ status, sppHostProcessMessage host message len unset = .ok (host, [], status)

/-- The messages that any host ignores, whomever they are for. -/
def HarmlessToHost : Prop :=
  len.toNat < sppMsgHdrSize host.addressLength ∨ message[0]? ≠ some sppMsgSyncWord ∨
    (∃ msgId, message[1]? = some msgId ∧ msgId ∉ [sppMsgConnectRequestBcId, sppMsgPropListResponseId,
      sppMsgPropDefId, sppMsgGetResponseId, sppMsgSetResponseId, sppMsgStreamResponseId, sppMsgStreamId]) ∨
    (message[1]? = some sppMsgPropListResponseId ∧ sppMsgHdrSize host.addressLength + 3 ≤ message.length) ∨
    (∃ msgId token, message[1]? = some msgId ∧ isResponseId msgId = true ∧
      sppMsgHdrSize host.addressLength + (if msgId = sppMsgGetResponseId then 5 else 2) ≤ message.length ∧
      message[sppMsgHdrSize host.addressLength]? = some token ∧ token ∉ host.pendingRequestTokens.toList)

end Host

section HostMessages
variable {host host' : SppHostEngine} {message : List UInt8} {len : UInt16} {unset : Nat}

theorem sppClearToken_same {token : UInt8} (same : (sppClearToken host token).1 = host) :
    token ∉ host.pendingRequestTokens.toList := by
  intro member
  unfold sppClearToken at same
  cases cleared : replaceFirst token sppTokenMaxReserved host.pendingRequestTokens with
  | none => exact replaceFirst_eq_none.mp cleared member
  | some tokens =>
    rw [cleared] at same
    have count := congrArg (fun host => host.pendingRequestCount.toNat) same
    simp only [UInt16.toNat_sub] at count
    have bound := host.pendingRequestCount.toNat_lt
    have one : (1 : UInt16).toNat = 1 := rfl
    omega

theorem sppClearToken_unknown {token : UInt8} (absent : token ∉ host.pendingRequestTokens.toList) :
    sppClearToken host token = (host, sppStatusUnknownRequest) := by
  unfold sppClearToken
  rw [replaceFirst_eq_none.mpr absent]

theorem response_within {msgId : UInt8} {client : SppAddress} {effects : List HostEffect} {status : SppStatus}
    (isResponse : isResponseId msgId = true)
    (done : sppHandleMessage host client msgId message len unset = .ok (host', effects, status)) :
    sppMsgHdrSize host.addressLength + (if msgId = sppMsgGetResponseId then 5 else 2) ≤ message.length := by
  have plain : ∀ {bodyIdx : Nat}, sppProcessResponse host message bodyIdx = .ok (host', effects, status) →
      bodyIdx + 2 ≤ message.length := by
    intro bodyIdx done
    obtain ⟨_, -, done⟩ := bind_eq_ok.mp done
    obtain ⟨_, second, -⟩ := bind_eq_ok.mp done
    exact load_within second
  simp only [isResponseId, Bool.or_eq_true, decide_eq_true_eq] at isResponse
  rcases isResponse with (rfl | rfl) | rfl
  · obtain ⟨_, -, done⟩ := bind_eq_ok.mp done
    obtain ⟨_, -, done⟩ := bind_eq_ok.mp done
    obtain ⟨_, -, done⟩ := bind_eq_ok.mp done
    obtain ⟨_, read, -⟩ := bind_eq_ok.mp done
    exact load16_within read
  · exact plain done
  · exact plain done

theorem harmless_of_ignoredByHost (within : len.toNat ≤ message.length)
    (ignored : IgnoredByHost host message len unset) : HarmlessToHost host message len := by
  obtain ⟨status, done⟩ := ignored
  cases message_outcome done with
  | refused header _ _ =>
    rcases (readHeader_refused within).mp header with ⟨short, -⟩ | ⟨-, unsynced, -⟩
    · exact .inl short
    · exact .inr (.inl unsynced)
  | busy sender header _ _ answer _ =>
    obtain ⟨_, -, answer⟩ := bind_eq_ok.mp answer
    cases Except.ok.inj answer
  | connected sender propertyListId header _ _ connects _ =>
    simp only [sppConnectToClient, bind_eq_ok, pure_eq_ok, Except.ok.injEq, Prod.mk.injEq] at connects
    obtain ⟨_, -, _, -, _, -, -, sent⟩ := connects
    cases sent
  | announced sender header _ _ =>
    obtain ⟨-, -, id, -⟩ := readHeader_ok header
    rw [sppHostProcessMessage_eq, header, ok_bind] at done
    obtain ⟨_, -, done⟩ := bind_eq_ok.mp done
    obtain ⟨_, read, -⟩ := bind_eq_ok.mp done
    have long := load16_within read
    exact .inr (.inr (.inr (.inl ⟨id, long⟩)))
  | defined sender header unpacked _ _ =>
    -- a definition is added
    simp only [sppUnpackPropDef, bind_eq_ok, pure_eq_ok, Except.ok.injEq] at unpacked
    obtain ⟨_, -, _, -, _, -, _, -, _, -, _, -, _, -, _, -, _, -, _, -, _, -, same⟩ := unpacked
    have count := congrArg (fun host => host.defsBufferUsed.toNat) same
    simp only [UInt16.toNat_add] at count
    have bound := host.defsBufferUsed.toNat_lt
    have one : (1 : UInt16).toNat = 1 := rfl
    omega
  | answered msgId sender token header isResponse loaded cleared _ =>
    obtain ⟨-, -, id, -⟩ := readHeader_ok header
    rw [sppHostProcessMessage_eq, header, ok_bind] at done
    exact .inr (.inr (.inr (.inr ⟨msgId, token, id, isResponse, response_within isResponse done, loaded,
      sppClearToken_same cleared.symm⟩)))
  | streamed sender header streams =>
    -- the application is told
    obtain ⟨_, -, streams⟩ := bind_eq_ok.mp streams
    obtain ⟨known, -, streams⟩ := bind_eq_ok.mp streams
    cases known with
    | none => cases streams
    | some index =>
      simp only [bind_eq_ok, pure_eq_ok, Except.ok.injEq, Prod.mk.injEq] at streams
      obtain ⟨_, -, _, -, -, told, -⟩ := streams
      cases told
  | unknown msgId sender header other _ _ _ =>
    obtain ⟨-, -, id, -⟩ := readHeader_ok header
    exact .inr (.inr (.inl ⟨msgId, id, other⟩))

theorem response_ignored {msgId token : UInt8} {client : SppAddress} (isResponse : isResponseId msgId = true)
    (long : sppMsgHdrSize host.addressLength + (if msgId = sppMsgGetResponseId then 5 else 2) ≤ message.length)
    (loaded : message[sppMsgHdrSize host.addressLength]? = some token)
    (absent : token ∉ host.pendingRequestTokens.toList) :
    ∃ status, sppHandleMessage host client msgId message len unset = .ok (host, [], status) := by
  have cleared := sppClearToken_unknown absent
  have bad (status : SppStatus) : responseStatus status sppStatusUnknownRequest ≠ 0 := by
    unfold responseStatus
    by_cases failed : status ≠ 0
    · rw [if_pos failed]
      exact failed
    · rw [if_neg failed]
      decide
  have plain (room : sppMsgHdrSize host.addressLength + 2 ≤ message.length) :
      ∃ status, sppProcessResponse host message (sppMsgHdrSize host.addressLength) = .ok (host, [], status) := by
    have second := load_of_lt message (sppMsgHdrSize host.addressLength + 1) (by omega)
    rw [sppProcessResponse, load_eq_ok.mpr loaded, ok_bind, second, ok_bind, cleared]
    exact ⟨_, rfl⟩
  simp only [isResponseId, Bool.or_eq_true, decide_eq_true_eq] at isResponse
  rcases isResponse with (rfl | rfl) | rfl
  · have room : sppMsgHdrSize host.addressLength + 5 ≤ message.length := long
    have second := load_of_lt message (sppMsgHdrSize host.addressLength + 1) (by omega)
    have third := load_of_lt message (sppMsgHdrSize host.addressLength + 2) (by omega)
    obtain ⟨id, fourth⟩ := load16_of_within message (sppMsgHdrSize host.addressLength + 3) room
    have handled : sppHandleMessage host client sppMsgGetResponseId message len unset =
        sppProcessGetResponse host client message (sppMsgHdrSize host.addressLength) := rfl
    rw [handled, sppProcessGetResponse, load_eq_ok.mpr loaded, ok_bind, second, ok_bind, third, ok_bind, fourth,
      ok_bind, cleared]
    exact ⟨_, if_pos (bad _)⟩
  · exact plain long
  · exact plain long

theorem ignoredByHost_of_harmless (within : len.toNat ≤ message.length) (harmless : HarmlessToHost host message len) :
    IgnoredByHost host message len unset := by
  unfold IgnoredByHost
  simp only [sppHostProcessMessage_eq]
  by_cases short : len.toNat < sppMsgHdrSize host.addressLength
  · exact ⟨_, bind_eq_ok.mpr ⟨_, (readHeader_refused within).mpr (.inl ⟨short, rfl⟩), rfl⟩⟩
  have long := Nat.not_lt.mp short
  by_cases unsynced : message[0]? ≠ some sppMsgSyncWord
  · exact ⟨_, bind_eq_ok.mpr ⟨_, (readHeader_refused within).mpr (.inr ⟨long, unsynced, rfl⟩), rfl⟩⟩
  obtain ⟨msgId, id, header⟩ := readHeader_of within long (not_not.mp unsynced)
  simp only [header, ok_bind]
  rcases harmless with short' | unsynced' | ⟨msgId', id', other⟩ | ⟨list, room⟩ | ⟨msgId', token, id', isResponse, room,
    loaded, absent⟩
  · exact absurd short' short
  · exact absurd unsynced' unsynced
  · obtain rfl := Option.some.inj (id.symm.trans id')
    simp only [List.mem_cons, List.not_mem_nil, or_false, not_or] at other
    refine ⟨sppStatusUnknownMsgId, ?_⟩
    simp only [sppHandleMessage, other, if_false]
    rfl
  · obtain rfl := Option.some.inj (id.symm.trans list)
    have first := load_of_lt message (sppMsgHdrSize host.addressLength) (by omega)
    obtain ⟨numBytes, second⟩ := load16_of_within message (sppMsgHdrSize host.addressLength + 1) room
    -- the host counts the properties, and does nothing else
    by_cases many : message[sppMsgHdrSize host.addressLength].toNat + host.defsBufferUsed.toNat >
        host.defsBufferSize.toNat
    · refine ⟨sppStatusTooManyProperties, bind_eq_ok.mpr ⟨_, first, bind_eq_ok.mpr ⟨_, second, ?_⟩⟩⟩
      exact if_pos many
    · refine ⟨sppStatusOk, bind_eq_ok.mpr ⟨_, first, bind_eq_ok.mpr ⟨_, second, ?_⟩⟩⟩
      exact if_neg many
  · obtain rfl := Option.some.inj (id.symm.trans id')
    exact response_ignored isResponse room loaded absent

end HostMessages

/-- A message for another engine is ignored exactly when it is one that is ignored whomever it is for. -/
theorem ignores_foreign (broadcast message : List UInt8) (len : UInt16) (within : len.toNat ≤ message.length) :
    (∀ (client : SppClientEngine σ) (stack : Stack),
      (ForeignToClient client broadcast message → IgnoredByClient client message len stack) ↔
        (ForeignToClient client broadcast message → HarmlessToClient client message len)) ∧
    ∀ (host : SppHostEngine) (unset : Nat),
      (ForeignToHost host broadcast message → IgnoredByHost host message len unset) ↔
        (ForeignToHost host broadcast message → HarmlessToHost host message len) := by
  constructor
  · intro client stack
    constructor
    · exact fun ignores foreign => harmless_of_ignoredByClient within (ignores foreign)
    · exact fun harmless foreign => ignoredByClient_of_harmless within (harmless foreign)
  · intro host unset
    constructor
    · exact fun ignores foreign => harmless_of_ignoredByHost within (ignores foreign)
    · exact fun harmless foreign => ignoredByHost_of_harmless within (harmless foreign)

/-- The list response of another client, to another host. -/
theorem ignores_foreign_list :
    IgnoredByClient (sppClientEngineInit setupClientParams staticClient)
        [0xCD, 0xA4, 0x02, 0x1E, 0x03, 0x1A, 0x00, 0x00] 8 (fun _ _ => 0) ∧
      IgnoredByHost (sppHostEngineInit setupParams staticHost)
        [0xCD, 0xA4, 0x02, 0x1E, 0x03, 0x1A, 0x00, 0x00] 8 0 := by
  obtain ⟨client, host⟩ := ignores_foreign (σ := PropertyValues) [0x00]
    [0xCD, 0xA4, 0x02, 0x1E, 0x03, 0x1A, 0x00, 0x00] 8 (by decide)
  constructor
  · apply (client (sppClientEngineInit setupClientParams staticClient) fun _ _ => 0).mpr
    · exact fun _ => .inr (.inr (.inl ⟨0xA4, rfl, by decide⟩))
    · exact ⟨by decide, by decide⟩
  · apply (host (sppHostEngineInit setupParams staticHost) 0).mpr
    · exact fun _ => .inr (.inr (.inr (.inl ⟨rfl, by decide⟩)))
    · exact ⟨by decide, by decide⟩

/-- A client answers the get request for client 2, and a host takes the connect request for host 0x1E. -/
theorem answers_foreign :
    (ForeignToClient (sppClientEngineInit setupClientParams staticClient) [0x00]
        [0xCD, 0xB0, 0x1D, 0x02, 0x2A, 0xAB, 0x00] ∧
      ¬IgnoredByClient (sppClientEngineInit setupClientParams staticClient)
        [0xCD, 0xB0, 0x1D, 0x02, 0x2A, 0xAB, 0x00] 7 (fun _ _ => 0)) ∧
    ForeignToHost (sppHostEngineInit setupParams staticHost) [0x00] [0xCD, 0xA0, 0x02, 0x1E, 0xDD, 0x00] ∧
      ¬IgnoredByHost (sppHostEngineInit setupParams staticHost) [0xCD, 0xA0, 0x02, 0x1E, 0xDD, 0x00] 6 0 := by
  refine ⟨⟨⟨by decide, by decide⟩, fun ignored => ?_⟩, ⟨by decide, by decide⟩, fun ignored => ?_⟩
  · have harmless := harmless_of_ignoredByClient (by decide) ignored
    rcases harmless with short | unsynced | ⟨msgId, id, other⟩ | ⟨connect, -⟩
    · exact absurd short (by decide)
    · exact absurd rfl unsynced
    · obtain rfl := Option.some.inj id
      exact absurd (by decide) other
    · exact absurd connect (by decide)
  · have harmless := harmless_of_ignoredByHost (by decide) ignored
    rcases harmless with short | unsynced | ⟨msgId, id, other⟩ | ⟨list, -⟩ | ⟨msgId, token, id, isResponse, -⟩
    · exact absurd short (by decide)
    · exact absurd rfl unsynced
    · obtain rfl := Option.some.inj id
      exact absurd (by decide) other
    · exact absurd list (by decide)
    · obtain rfl := Option.some.inj id
      exact absurd isResponse (by decide)

end TvcHopper.Spp
