import TvcHopper.Spp.Emissions
import TvcHopper.Spp.LongLists
import TvcHopper.Spp.Replies

/-! What becomes of the statuses of `GetValue` and `SetValue`.

Beside a link stands what the callbacks reported for the responses on their way
to the host. The client reports SPP_STATUS_OK whatever its callbacks return.
-/

set_option autoImplicit false

namespace TvcHopper.Spp
open Machine Machine.Slots

variable {σ : Type}

/-! ## Outcomes -/

/-- The status of a callback, how many bytes of a value it wrote, and how many the property has. -/
structure Outcome where
  status : SppStatus
  loaded : Nat
  size : Nat
  deriving DecidableEq, Repr

/-- The callback wrote the whole value. -/
def Outcome.Written (outcome : Outcome) : Prop := outcome.loaded = outcome.size

/-- What the response to a get or set request should report. -/
def outcomeOf (client : SppClientEngine σ) : ToClient → Option Outcome
  | .getRequest _ id =>
    match client.properties.find? (·.id == id) with
    | some pd =>
      let (_, value, status) := client.callbacks.getValue client.instanceData id
      some ⟨status, value.length, pd.size.toNat⟩
    | none => some ⟨sppStatusUnknownProperty, 0, 0⟩
  | .setRequest _ _ id value =>
    match client.properties.find? (·.id == id) with
    | some _ => some ⟨(client.callbacks.setValue client.instanceData id value).2, 0, 0⟩
    | none => some ⟨sppStatusUnknownProperty, 0, 0⟩
  | .connectResponse _ | .streamRequest .. => none

/-- What the response to the next message to the client should report, if this is a request. -/
def Link.outcome (link : Link σ) (trailing : List UInt8) : Option Outcome := do
  let message ← link.toClient.head?
  match readMessageToClient link.client.addressLength (message ++ trailing) (messageSize16 message) with
  | .ok (some (_, body)) => outcomeOf link.client body
  | _ => none

/-! ## Links with the outcomes of their responses -/

/-- Beside each message to the host stands what it should report, if it is a response. -/
structure Exchange (σ : Type) where
  link : Link σ
  outcomes : List (Option Outcome)

def outcomesAfter (state : Exchange σ) : LinkAction → LinkEvent → List (Option Outcome)
  | .clientReceive trailing _, .client sent _ => state.outcomes ++ sent.map fun _ => state.link.outcome trailing
  | .hostReceive .., _ => state.outcomes.tail
  | _, .started => state.outcomes ++ [none]
  | _, _ => state.outcomes

def exchangeStep (state : Exchange σ) : StreamAction → Except Fault (Exchange σ × StreamEvent)
  | .link action => do
    let (link, event) ← linkStep state.link action
    return (⟨link, outcomesAfter state action event⟩, .link event)
  | .processStreams timestamp elapsedTime stack => do
    let (client, sent) ← sppProcessStreams state.link.client timestamp elapsedTime stack
    return (⟨{ state.link with client, toHost := state.link.toHost ++ sent },
      state.outcomes ++ sent.map fun _ => none⟩, .processed sent)

/-- Requests to the client with this address, for any id, deliveries and calls of `SppProcessStreams`. -/
def StreamAction.Requests (address : UInt8) : StreamAction → Prop
  | .link (.call (.getValue client _)) | .link (.call (.setValue client _ _))
  | .link (.call (.startStream client _ _ _ _ _)) => Addressed client address
  | .link (.clientReceive ..) | .link (.hostReceive ..) | .processStreams .. => True
  | _ => False

/-- A request is answered with the status of its callback, the host returns that status for the response, and passes
a value on only if it is good. -/
def Reported (state : Exchange σ) : StreamAction → Prop
  | .link (.clientReceive trailing stack) => ∀ outcome, state.link.outcome trailing = some outcome →
    ∃ link message, linkStep state.link (.clientReceive trailing stack) = .ok (link, .client [message] sppStatusOk) ∧
      message[5]? = some outcome.status
  | .link (.hostReceive trailing unset) => ∀ outcome, state.outcomes.head? = some (some outcome) →
    ∃ link call effects, linkStep state.link (.hostReceive trailing unset) =
        .ok (link, .host ⟨call, effects, outcome.status⟩) ∧
      ((∃ client id value, .onValueResponse client id value ∈ effects) →
        outcome.status = sppStatusOk ∧ outcome.Written)
  | _ => True

/-- The token of a response is in the table of the host. -/
def Awaited (host : SppHostEngine) (message : List UInt8) : Prop :=
  ∃ token, message[4]? = some token ∧ token ∈ host.pendingRequestTokens.toList

/-- Every callback succeeds and writes no more than the property has. When the host gets the response, the value is
whole and the response is awaited. -/
def Reportable (state : Exchange σ) : StreamAction → Prop
  | .link (.clientReceive trailing _) => ∀ outcome, state.link.outcome trailing = some outcome →
    outcome.status = sppStatusOk ∧ outcome.loaded ≤ outcome.size
  | .link (.hostReceive ..) => ∀ outcome, state.outcomes.head? = some (some outcome) →
    outcome.Written ∧ ∀ message ∈ state.link.toHost.head?, Awaited state.link.host message
  | _ => True

/-! ## The next request -/

def oneByteWire (host client : UInt8) : Wire where
  addressLength := 1
  host := [host]
  client := [client]
  broadcast := [0]
  positive := Nat.le_refl 1
  hostLength := rfl
  clientLength := rfl
  broadcastLength := rfl

theorem readMessageToClient_msgId {addressLength : UInt8} {message sender : List UInt8} {len : UInt16} {body : ToClient}
    (reads : readMessageToClient addressLength message len = .ok (some (sender, body))) :
    message[1]? = some body.msgId := by
  unfold readMessageToClient at reads
  split at reads
  · cases reads
  obtain ⟨sync, -, reads⟩ := bind_eq_ok.mp reads
  obtain ⟨msgId, second, reads⟩ := bind_eq_ok.mp reads
  split at reads
  · cases reads
  simp only [bind_eq_ok, pure_eq_ok, Except.ok.injEq, Option.map_eq_some_iff, Prod.mk.injEq] at reads
  obtain ⟨_, -, _, -, _, fields, _, rfl, -, rfl⟩ := reads
  rw [readToClient_msgId fields]
  exact load_eq_ok.mp second

section Next
variable {setup : HostSetup} {entry : Joined} {callbacks : SppClientCallbacks σ} {link : Link σ}
  {rest : List (List UInt8)}

theorem outcome_idle (empty : link.toClient = []) (trailing : List UInt8) : link.outcome trailing = none := by
  rw [Link.outcome, empty]
  rfl

theorem outcome_of_request (client : OneByteClient link.client entry.address) (body : ToClient) {message : List UInt8}
    (queued : link.toClient = message :: rest) (trailing : List UInt8) (host address : UInt8)
    (written : message ++ trailing =
      onWire (oneByteWire host address) body.kind body.msgId (body.bytes ++ trailing))
    (indexed : body.Indexed 1) (long : 4 ≤ (messageSize16 message).toNat) :
    link.outcome trailing = outcomeOf link.client (body.followedBy trailing) := by
  have reads := readMessageToClient_onWire (oneByteWire host address) body
    (show sppMsgHdrSize 1 ≤ (messageSize16 message).toNat from long) indexed trailing
  rw [← written] at reads
  rw [Link.outcome, queued, client.addressLength]
  show (match readMessageToClient 1 (message ++ trailing) (messageSize16 message) with
    | .ok (some (_, body)) => outcomeOf link.client body
    | _ => none) = _
  rw [show readMessageToClient 1 (message ++ trailing) (messageSize16 message) = _ from reads]

theorem outcome_other {message : List UInt8}
    (queued : link.toClient = message :: rest) (long : 2 ≤ message.length)
    (other : message[1]? ≠ some sppMsgGetRequestId) (other' : message[1]? ≠ some sppMsgSetRequestId)
    (trailing : List UInt8) : link.outcome trailing = none := by
  rw [Link.outcome, queued]
  show (match readMessageToClient link.client.addressLength (message ++ trailing) (messageSize16 message) with
    | .ok (some (_, body)) => outcomeOf link.client body
    | _ => none) = none
  split
  · next sender body reads =>
    have id := readMessageToClient_msgId reads
    rw [List.getElem?_append_left (by omega)] at id
    cases body with
    | connectResponse _ | streamRequest _ _ _ _ _ => rfl
    | getRequest _ _ => exact absurd id other
    | setRequest _ _ _ _ => exact absurd id other'
  · rfl

end Next

/-! ## Exchanges -/

inductive Sends (setup : HostSetup) (entry : Joined) : Option Outcome → List UInt8 → Prop where
  | response {outcome : Outcome} (response : Response) (succeeded : outcome.status = sppStatusOk)
      (sized : response.Sized (propertySize entry.properties)) (whole : response.value? = none → outcome.Written) :
      Sends setup entry (some outcome) (response.message (propertySize entry.properties) entry.address setup.address)
  | stream {message : List UInt8} (isStream : message[1]? = some sppMsgStreamId) : Sends setup entry none message

theorem Sends.value {setup : HostSetup} {entry : Joined} {outcome : Outcome} (token : UInt8) (id : UInt16)
    {bytes : List UInt8} (succeeded : outcome.status = sppStatusOk)
    (sized : (Response.value token id bytes).Sized (propertySize entry.properties)) :
    Sends setup entry (some outcome)
      ((Response.value token id bytes).message (propertySize entry.properties) entry.address setup.address) :=
  .response _ succeeded sized fun absent => (Option.some_ne_none _ absent).elim

/-- What a set request carries is as long as the property, which the host has checked. -/
def Request.Whole (properties : List SppPropertyDefinition) : Request → Prop
  | .write _ id value => (∃ pd ∈ properties, pd.id = id) ∧ value.length = (propertySize properties id).toNat
  | .read .. | .stream .. => True

structure Exchanging (setup : HostSetup) (entry : Joined) (callbacks : SppClientCallbacks σ) (state : Exchange σ)
    (requests : List Request) : Prop where
  paired : Paired setup entry callbacks state.link
  whole : ∀ request ∈ requests, request.Whole entry.properties
  toClient : state.link.toClient =
    requests.map (Request.message (propertySize entry.properties) setup.address entry.address)
  toHost : List.Forall₂ (Sends setup entry) state.outcomes state.link.toHost

section Steps
variable {setup : HostSetup} {entry : Joined} {callbacks : SppClientCallbacks σ} {state state' : Exchange σ}
  {requests : List Request}

/-! ### Calls of `SppProcessStreams` -/

theorem processStreams_effect {client client' : SppClientEngine σ} {timestamp elapsedTime : UInt32} {stack : Stack}
    {sent : List (List UInt8)} (done : sppProcessStreams client timestamp elapsedTime stack = .ok (client', sent)) :
    (∃ streams instanceData, client' = { client with streams, instanceData }) ∧
      ∀ message ∈ sent, message[1]? = some sppMsgStreamId := by
  have start : (∃ streams instanceData, client = { client with streams, instanceData }) ∧
      ∀ message ∈ ([] : List (List UInt8)), message[1]? = some sppMsgStreamId := ⟨⟨_, _, rfl⟩, nofun⟩
  refine loop_keeps (fun state => (∃ streams instanceData, state.1 = { client with streams, instanceData }) ∧
    ∀ message ∈ state.2, message[1]? = some sppMsgStreamId) ?_ start done
  rintro place ⟨before, sent⟩ ⟨after, sent'⟩ ⟨⟨streams, instanceData, rfl⟩, earlier⟩ one
  simp only [processStream] at one
  obtain ⟨s, -, one⟩ := bind_eq_ok.mp one
  split at one
  · simp only [bind_eq_ok, pure_eq_ok, Except.ok.injEq, Prod.mk.injEq, Prod.exists] at one
    obtain ⟨instanceData', message, made, streams', -, rfl, rfl⟩ := one
    refine ⟨⟨streams', instanceData', rfl⟩, ?_⟩
    intro other member
    rcases List.mem_append.mp member with before | last
    · exact earlier other before
    · rw [List.mem_singleton.mp last]
      exact streamMessage_id made
  · simp only [bind_eq_ok, pure_eq_ok, Except.ok.injEq, Prod.mk.injEq] at one
    obtain ⟨streams', -, rfl, rfl⟩ := one
    exact ⟨⟨streams', instanceData, rfl⟩, earlier⟩

theorem Exchanging.processStreams (exchanging : Exchanging setup entry callbacks state requests)
    {timestamp elapsedTime : UInt32} {stack : Stack} {event : StreamEvent}
    (done : exchangeStep state (.processStreams timestamp elapsedTime stack) = .ok (state', event)) :
    Exchanging setup entry callbacks state' requests := by
  simp only [exchangeStep, bind_eq_ok, pure_eq_ok, Except.ok.injEq, Prod.mk.injEq, Prod.exists] at done
  obtain ⟨client, sent, passed, rfl, -⟩ := done
  obtain ⟨⟨streams, instanceData, rfl⟩, streaming⟩ := processStreams_effect passed
  constructor
  · exact exchanging.paired.withClient instanceData streams state.link.client.streamCount _ _
  · exact exchanging.whole
  · exact exchanging.toClient
  · apply List.rel_append exchanging.toHost
    rw [List.forall₂_map_left_iff, List.forall₂_same]
    exact fun message member => .stream (streaming message member)

/-! ### Messages to the host -/

theorem host_streamMessage {host host' : SppHostEngine} {message : List UInt8} {len : UInt16} {unset : Nat}
    {effects : List HostEffect} {status : SppStatus} (isStream : message[1]? = some sppMsgStreamId)
    (done : sppHostProcessMessage host message len unset = .ok (host', effects, status)) :
    (∃ streamObjects, host' = { host with streamObjects }) ∧ sentMessages effects = [] := by
  simp only [sppHostProcessMessage] at done
  split at done
  · cases done
    exact ⟨⟨_, rfl⟩, rfl⟩
  obtain ⟨syncWord, -, done⟩ := bind_eq_ok.mp done
  split at done
  · cases done
    exact ⟨⟨_, rfl⟩, rfl⟩
  obtain ⟨msgId, second, done⟩ := bind_eq_ok.mp done
  obtain rfl : sppMsgStreamId = msgId := Option.some.inj (isStream.symm.trans (load_eq_ok.mp second))
  obtain ⟨_, -, done⟩ := bind_eq_ok.mp done
  obtain ⟨clientAddress, -, done⟩ := bind_eq_ok.mp done
  change sppProcessStream host message (sppMsgHdrSize host.addressLength) = _ at done
  obtain ⟨streamId, -, done⟩ := bind_eq_ok.mp done
  obtain ⟨cell, -, done⟩ := bind_eq_ok.mp done
  cases cell with
  | none => cases done
  | some stream =>
    obtain ⟨timestamp, -, done⟩ := bind_eq_ok.mp done
    obtain ⟨object, -, done⟩ := bind_eq_ok.mp done
    cases done
    exact ⟨⟨_, rfl⟩, rfl⟩

theorem exchange_of_link {action : LinkAction} {link : Link σ} {event : LinkEvent}
    (stepped : linkStep state.link action = .ok (link, event)) :
    exchangeStep state (.link action) = .ok (⟨link, outcomesAfter state action event⟩, .link event) := by
  rw [exchangeStep, stepped]
  rfl

theorem exchange_link {action : LinkAction} {event' : StreamEvent}
    (done : exchangeStep state (.link action) = .ok (state', event')) :
    ∃ link event, linkStep state.link action = .ok (link, event) ∧
      state' = ⟨link, outcomesAfter state action event⟩ := by
  simp only [exchangeStep, bind_eq_ok, pure_eq_ok, Except.ok.injEq, Prod.mk.injEq, Prod.exists] at done
  obtain ⟨link, event, stepped, rfl, -⟩ := done
  exact ⟨link, event, stepped, rfl⟩

theorem Paired.response_step {link : Link σ} (paired : Paired setup entry callbacks link) {response : Response}
    (sized : response.Sized (propertySize entry.properties)) {rest : List (List UInt8)}
    (queued : link.toHost = response.message (propertySize entry.properties) entry.address setup.address :: rest)
    (trailing : List UInt8) (unset : Nat) :
    ∃ call effects, linkStep link (.hostReceive trailing unset) =
        .ok ({ link with host := withoutToken link.host response.token, toHost := rest },
          .host ⟨call, effects, (sppClearToken link.host response.token).2⟩) ∧
      ((∃ client id value, .onValueResponse client id value ∈ effects) ↔
        response.value?.isSome = true ∧ (sppClearToken link.host response.token).2 = sppStatusOk) := by
  have long := response.long sized entry.address setup.address
  cases response with
  | done token =>
    have stepped := link_hostReceive queued
      (host_setResponse_cleared paired.host entry.address token trailing long unset)
    rw [show sentMessages [] = [] from rfl, List.append_nil] at stepped
    exact ⟨_, [], stepped, by simp [Response.value?]⟩
  | value token id bytes =>
    have stepped := link_hostReceive queued (host_getResponse_cleared paired.host entry.address
      (propertySize entry.properties id) token id bytes trailing long unset)
    by_cases cleared : (sppClearToken link.host token).2 = sppStatusOk
    · have silent (client : SppAddress) (value : List UInt8) :
          sentMessages [.onValueResponse client id value] = [] := rfl
      rw [if_pos cleared, silent, List.append_nil] at stepped
      refine ⟨_, _, stepped, ?_⟩
      simp [Response.value?, Response.token, cleared]
    · rw [if_neg cleared, show sentMessages [] = [] from rfl, List.append_nil] at stepped
      refine ⟨_, _, stepped, ?_⟩
      simp [Response.token, cleared]

theorem Exchanging.hostReceive (exchanging : Exchanging setup entry callbacks state requests) {trailing : List UInt8}
    {unset : Nat} {event : StreamEvent}
    (done : exchangeStep state (.link (.hostReceive trailing unset)) = .ok (state', event)) :
    Exchanging setup entry callbacks state' requests := by
  obtain ⟨link, event, stepped, rfl⟩ := exchange_link done
  obtain ⟨paired, whole, toClient, toHost⟩ := exchanging
  obtain ⟨current, outcomes⟩ := state
  cases queued : current.toHost with
  | nil =>
    rw [link_hostReceive_idle queued] at stepped
    cases stepped
    simp only [queued, List.forall₂_nil_right_iff] at toHost
    subst toHost
    exact ⟨paired, whole, toClient, by rw [queued]; exact .nil⟩
  | cons message rest =>
    simp only [queued] at toHost
    cases toHost with
    | cons sends others =>
      cases sends with
      | response _ succeeded sized written =>
        obtain ⟨call, effects, answered, -⟩ := paired.response_step sized queued trailing unset
        rw [answered] at stepped
        cases stepped
        exact ⟨paired.withHost (paired.host.withoutToken _) _ _, whole, toClient, others⟩
      | stream isStream =>
        simp only [linkStep, queued, bind_eq_ok, pure_eq_ok, Except.ok.injEq, Prod.mk.injEq, Prod.exists] at stepped
        obtain ⟨host, event', called, rfl, rfl⟩ := stepped
        obtain ⟨performed, -⟩ := hostCall_eq_ok.mp called
        have second : (message ++ trailing)[1]? = some sppMsgStreamId := by
          obtain ⟨inside, -⟩ := List.getElem?_eq_some_iff.mp isStream
          rw [List.getElem?_append_left inside, isStream]
        obtain ⟨⟨streamObjects, rfl⟩, silent⟩ := host_streamMessage second performed
        refine ⟨paired.withHost (paired.host.withStream _ _ streamObjects) _ _, whole, ?_, others⟩
        simp only [silent, List.append_nil]
        exact toClient

theorem awaited_response {host : SppHostEngine} {response : Response} {size : UInt16 → UInt8} {client own : UInt8} :
    Awaited host (response.message size client own) ↔ (sppClearToken host response.token).2 = sppStatusOk := by
  have token : (response.message size client own)[4]? = some response.token := by cases response <;> rfl
  rw [sppClearToken_status, Awaited, token]
  simp

/-- A response is taken as it should be exactly when it is awaited and a value in it is whole. -/
theorem Exchanging.hostReceive_iff (exchanging : Exchanging setup entry callbacks state requests)
    {trailing : List UInt8} {unset : Nat} :
    Reported state (.link (.hostReceive trailing unset)) ↔ Reportable state (.link (.hostReceive trailing unset)) := by
  obtain ⟨paired, -, -, toHost⟩ := exchanging
  obtain ⟨current, outcomes⟩ := state
  unfold Reported Reportable
  cases queued : current.toHost with
  | nil =>
    simp only [queued, List.forall₂_nil_right_iff] at toHost
    simp [toHost]
  | cons message rest =>
    simp only [queued] at toHost
    cases toHost with
    | cons sends others =>
      cases sends with
      | stream isStream => simp
      | @response outcome response succeeded sized written =>
        obtain ⟨call, effects, answered, passed⟩ := paired.response_step sized queued trailing unset
        simp only [List.head?_cons, Option.some.injEq, forall_eq', Option.mem_def, awaited_response]
        constructor
        · rintro ⟨link, call', effects', done, good⟩
          rw [answered] at done
          simp only [Except.ok.injEq, Prod.mk.injEq, LinkEvent.host.injEq, HostEvent.mk.injEq] at done
          obtain ⟨-, -, rfl, cleared⟩ := done
          rw [succeeded] at cleared
          refine ⟨?_, cleared⟩
          cases value : response.value? with
          | none => exact written value
          | some _ => exact (good (passed.mpr ⟨by rw [value]; rfl, cleared⟩)).2
        · rintro ⟨whole, cleared⟩
          rw [cleared, ← succeeded] at answered
          exact ⟨_, call, effects, answered, fun _ => ⟨succeeded, whole⟩⟩

/-! ### Messages to the client -/

theorem getResponseMessage_within {client : SppClientEngine σ} (length : client.addressLength = 1)
    {stack : Nat → UInt8} {pd : SppPropertyDefinition} {token : UInt8} {id : UInt16} {value message : List UInt8}
    (built : Client.getResponseMessage client stack pd token id value = .ok message) :
    value.length ≤ pd.size.toNat := by
  have fifth : (Client.bodyStart client + 5).toNat = 9 := by
    rw [bodyStart_one length]
    rfl
  obtain ⟨_, filled, built⟩ := bind_eq_ok.mp built
  obtain ⟨_, first, built⟩ := bind_eq_ok.mp built
  obtain ⟨_, status, built⟩ := bind_eq_ok.mp built
  obtain ⟨_, size, built⟩ := bind_eq_ok.mp built
  obtain ⟨_, named, stored⟩ := bind_eq_ok.mp built
  obtain ⟨room, -⟩ := storeRange_eq_ok.mp stored
  rw [fifth, storeRange_length named, storeRange_length size, storeRange_length status, storeRange_length first,
    Client.sppFillMessageHeader_size filled, length_localArray, messageSize, length, sppMsgHdrSize_one,
    sppMsgGetResponseBaseSize] at room
  omega

section Serving
variable {link : Link σ} {rest : List (List UInt8)} {token : UInt8} {id : UInt16}

theorem read_found (paired : Paired setup entry callbacks link)
    (queued : link.toClient = Message.getRequest setup.address entry.address token id :: rest) {link' : Link σ}
    {trailing : List UInt8} {stack : Stack} {event : LinkEvent}
    (done : linkStep link (.clientReceive trailing stack) = .ok (link', event)) :
    ∃ pd, entry.properties.find? (·.id == id) = some pd ∧
      (callbacks.getValue link.client.instanceData id).2.1.length ≤ pd.size.toNat := by
  simp only [linkStep, queued, bind_eq_ok, pure_eq_ok, Except.ok.injEq, Prod.mk.injEq, Prod.exists] at done
  obtain ⟨client', sent, status, processed, -⟩ := done
  have request : sppClientProcessMessage link.client
      (Message.getRequest setup.address entry.address token id ++ trailing) 7 stack =
      sppProcessGetRequest link.client (Message.getRequest setup.address entry.address token id ++ trailing) stack :=
    clientProcess_one paired.client _ _ _ _ (by decide) _
  have read : load16 (Message.getRequest setup.address entry.address token id ++ trailing) 5 = .ok id :=
    load16_bytes16 id trailing
  rw [show messageSize16 (Message.getRequest setup.address entry.address token id) = 7 from rfl, request,
    sppProcessGetRequest, bodyStart_one paired.client.addressLength] at processed
  obtain ⟨_, -, processed⟩ := bind_eq_ok.mp processed
  obtain ⟨id', same, processed⟩ := bind_eq_ok.mp processed
  obtain rfl : id = id' := Except.ok.inj (read.symm.trans same)
  obtain ⟨found, looked, processed⟩ := bind_eq_ok.mp processed
  cases found with
  | none => cases processed
  | some place =>
    obtain ⟨pd, here, processed⟩ := bind_eq_ok.mp processed
    obtain ⟨message, built, -⟩ := bind_eq_ok.mp processed
    have within := getResponseMessage_within paired.client.addressLength built
    have known : ∃ pd ∈ entry.properties, pd.id = id := by
      obtain ⟨pd', at_place, same⟩ := sppGetDefinition_place paired.listed.count looked
      rw [paired.properties] at at_place
      exact ⟨pd', List.mem_of_getElem? at_place, same⟩
    obtain ⟨first, searched, -⟩ := find_listed known
    obtain ⟨place', looked', here'⟩ :=
      sppGetDefinition_found paired.listed (by rw [paired.properties]; exact searched)
    obtain rfl : place = place' := Option.some.inj (Except.ok.inj (looked.symm.trans looked'))
    obtain rfl : pd = first := Option.some.inj ((load_eq_ok.mp here).symm.trans here')
    rw [paired.application] at within
    exact ⟨pd, searched, within⟩

theorem outcome_read (paired : Paired setup entry callbacks link)
    (queued : link.toClient = Message.getRequest setup.address entry.address token id :: rest)
    (trailing : List UInt8) : link.outcome trailing = outcomeOf link.client (.getRequest token id) :=
  outcome_of_request paired.client (.getRequest token id) queued trailing setup.address entry.address rfl
    (show sppMsgHdrSize 1 + 1 < 256 by decide) (show 4 ≤ (7 : UInt16).toNat by decide)

theorem outcome_write (paired : Paired setup entry callbacks link) {value : List UInt8}
    (whole : value.length = (propertySize entry.properties id).toNat)
    (queued : link.toClient =
      Message.setRequest setup.address entry.address token (propertySize entry.properties id) id value :: rest)
    (trailing : List UInt8) : link.outcome trailing =
      outcomeOf link.client (.setRequest token (propertySize entry.properties id) id (value ++ trailing)) := by
  refine outcome_of_request paired.client (.setRequest token (propertySize entry.properties id) id value) queued
    trailing setup.address entry.address ?_ (show sppMsgHdrSize 1 + 4 < 256 by decide) ?_
  · simp [Message.setRequest, onWire, ToClient.bytes, ToClient.kind, MessageKind.sender, MessageKind.receiver,
      oneByteWire, ToClient.msgId]
  · have byte := (propertySize entry.properties id).toNat_lt
    have length : (Message.setRequest setup.address entry.address token
        (propertySize entry.properties id) id value).length = 8 + value.length := by
      simp only [Message.setRequest, List.length_cons, List.length_append, length_bytes16]
      omega
    apply messageSize16_long <;> omega

end Serving

section Answers
variable {token : UInt8} {id : UInt16} {others : List Request} {trailing : List UInt8} {stack : Stack}

theorem Exchanging.read_iff (exchanging : Exchanging setup entry callbacks state (.read token id :: others)) :
    Reported state (.link (.clientReceive trailing stack)) ↔
      Reportable state (.link (.clientReceive trailing stack)) := by
  have paired := exchanging.paired
  have queued := exchanging.toClient
  unfold Reported Reportable
  simp only [outcome_read paired queued, outcomeOf, paired.properties, paired.application]
  cases found : entry.properties.find? (·.id == id) with
  | none =>
    simp only [Option.some.injEq, forall_eq']
    constructor
    · rintro ⟨link, message, done, -⟩
      obtain ⟨pd, searched, -⟩ := read_found paired queued done
      rw [found] at searched
      cases searched
    · rintro ⟨unknown, -⟩
      exact absurd unknown (by decide)
  | some pd =>
    simp only [Option.some.injEq, forall_eq']
    have listed := listed_of_find found
    have size := propertySize_of_find found
    constructor
    · rintro ⟨link, message, done, reported⟩
      obtain ⟨pd', searched, within⟩ := read_found paired queued done
      obtain rfl : pd = pd' := Option.some.inj (found.symm.trans searched)
      obtain ⟨behind, -, served⟩ :=
        paired.read_step_within listed (by rwa [size]) queued trailing stack
      rw [served] at done
      cases done
      exact ⟨(Option.some.inj reported).symm, within⟩
    · rintro ⟨succeeded, within⟩
      obtain ⟨behind, -, served⟩ :=
        paired.read_step_within listed (by rwa [size]) queued trailing stack
      exact ⟨_, _, served, by rw [succeeded]; rfl⟩

theorem Exchanging.write_iff {value : List UInt8}
    (exchanging : Exchanging setup entry callbacks state (.write token id value :: others)) :
    Reported state (.link (.clientReceive trailing stack)) ↔
      Reportable state (.link (.clientReceive trailing stack)) := by
  have paired := exchanging.paired
  have queued := exchanging.toClient
  unfold Reported Reportable
  obtain ⟨listed, whole⟩ : (Request.write token id value).Whole entry.properties :=
    exchanging.whole _ (List.mem_cons_self ..)
  obtain ⟨pd, found, -⟩ := find_listed listed
  have served := paired.write_step whole queued trailing stack
  simp only [outcome_write paired whole queued, outcomeOf, paired.properties, paired.application, found,
    Option.some.injEq, forall_eq']
  constructor
  · rintro ⟨link, message, done, reported⟩
    rw [served] at done
    cases done
    exact ⟨(Option.some.inj reported).symm, Nat.le_refl _⟩
  · rintro ⟨succeeded, -⟩
    exact ⟨_, _, served, by rw [succeeded]; rfl⟩

end Answers

theorem Exchanging.clientReceive_iff (exchanging : Exchanging setup entry callbacks state requests)
    {trailing : List UInt8} {stack : Stack} :
    Reported state (.link (.clientReceive trailing stack)) ↔
      Reportable state (.link (.clientReceive trailing stack)) := by
  have paired := exchanging.paired
  have queued := exchanging.toClient
  cases requests with
  | nil => simp [Reported, Reportable, outcome_idle queued]
  | cons request others =>
    cases request with
    | stream token streamType streamId id period =>
      have second : (Request.message (propertySize entry.properties) setup.address entry.address
          (.stream token streamType streamId id period))[1]? = some sppMsgStreamRequestId := rfl
      have long : 2 ≤ (Request.message (propertySize entry.properties) setup.address entry.address
          (.stream token streamType streamId id period)).length := Nat.le_add_left 2 8
      have none := outcome_other queued long (by rw [second]; decide) (by rw [second]; decide) trailing
      simp [Reported, Reportable, none]
    | read token id => exact exchanging.read_iff
    | write token id value => exact exchanging.write_iff

theorem Exchanging.served (exchanging : Exchanging setup entry callbacks state requests) {request : Request}
    {others : List Request} (first : requests = request :: others) {instanceData : σ}
    {streams : Vector SppStream sppStreamMaxCount} {streamCount : UInt8} {outcomes : List (Option Outcome)}
    {toHost : List (List UInt8)} (sends : List.Forall₂ (Sends setup entry) outcomes toHost) :
    Exchanging setup entry callbacks
      ⟨{ state.link with
        client := { state.link.client with instanceData, streams, streamCount }
        toClient := others.map (Request.message (propertySize entry.properties) setup.address entry.address)
        toHost := state.link.toHost ++ toHost }, state.outcomes ++ outcomes⟩ others where
  paired := exchanging.paired.withClient _ _ _ _ _
  whole := fun other inside => exchanging.whole other (by rw [first]; exact List.mem_cons_of_mem _ inside)
  toClient := rfl
  toHost := List.rel_append exchanging.toHost sends

theorem Exchanging.clientReceive (exchanging : Exchanging setup entry callbacks state requests) {trailing : List UInt8}
    {stack : Stack} (reportable : Reportable state (.link (.clientReceive trailing stack))) {event : StreamEvent}
    (done : exchangeStep state (.link (.clientReceive trailing stack)) = .ok (state', event)) :
    ∃ requests', Exchanging setup entry callbacks state' requests' := by
  obtain ⟨link, event, stepped, rfl⟩ := exchange_link done
  have paired := exchanging.paired
  have queued := exchanging.toClient
  cases requests with
  | nil =>
    rw [link_clientReceive_idle queued] at stepped
    cases stepped
    exact ⟨[], exchanging⟩
  | cons request others =>
    -- a stream request is not answered; the other two are, and report success
    cases request with
    | stream token streamType streamId id period =>
      obtain ⟨rfl, found, period', bound, -, rfl⟩ := paired.stream_step queued stepped
      have whole := (List.forall_mem_cons.mp exchanging.whole).2
      exact ⟨others, paired.withClient _ _ _ _ _, whole, rfl, by simpa [outcomesAfter] using exchanging.toHost⟩
    | read token id =>
      obtain ⟨pd, found, within⟩ := read_found paired queued stepped
      have listed := listed_of_find found
      have size := propertySize_of_find found
      obtain ⟨behind, whole, served⟩ := paired.read_step_within listed (by rwa [size]) queued trailing stack
      rw [served] at stepped
      cases stepped
      have outcome := outcome_read paired queued trailing
      simp only [outcomeOf, paired.properties, found] at outcome
      have sends : Sends setup entry (state.link.outcome trailing)
          (Message.getResponse entry.address setup.address token (propertySize entry.properties id) id
            ((callbacks.getValue state.link.client.instanceData id).2.1 ++ behind)) := by
        rw [outcome]
        exact .value token id (reportable _ outcome).1 (List.length_append.trans whole)
      exact ⟨others, exchanging.served rfl (.cons sends .nil)⟩
    | write token id value =>
      obtain ⟨listed, whole⟩ : (Request.write token id value).Whole entry.properties :=
        exchanging.whole _ (List.mem_cons_self ..)
      obtain ⟨pd, found, -⟩ := find_listed listed
      rw [paired.write_step whole queued trailing stack] at stepped
      cases stepped
      have outcome := outcome_write paired whole queued trailing
      simp only [outcomeOf, paired.properties, found] at outcome
      have sends : Sends setup entry (state.link.outcome trailing)
          (Message.setResponse entry.address setup.address token) := by
        rw [outcome]
        exact .response (.done token) (reportable _ outcome).1 trivial fun _ => rfl
      exact ⟨others, exchanging.served rfl (.cons sends .nil)⟩

/-! ### Calls of the host -/

theorem Exchanging.refused (exchanging : Exchanging setup entry callbacks state requests) {call : HostCall}
    {status : SppStatus} (performed : perform state.link.host call = .ok (state.link.host, [], status))
    {event : StreamEvent} (done : exchangeStep state (.link (.call call)) = .ok (state', event)) :
    Exchanging setup entry callbacks state' requests := by
  obtain ⟨link, event, stepped, rfl⟩ := exchange_link done
  rw [link_call performed] at stepped
  cases stepped
  exact ⟨exchanging.paired.withHost exchanging.paired.host _ _, exchanging.whole,
    by simpa [sentMessages] using exchanging.toClient, exchanging.toHost⟩

theorem Exchanging.submitted (exchanging : Exchanging setup entry callbacks state requests) {host : SppHostEngine}
    (holds : HostHolds setup host [entry]) (request : Request) (whole : request.Whole entry.properties) :
    Exchanging setup entry callbacks
      ⟨{ state.link with
        host
        toClient := state.link.toClient ++
          [request.message (propertySize entry.properties) setup.address entry.address] }, state.outcomes⟩
      (requests ++ [request]) where
  paired := exchanging.paired.withHost holds _ _
  whole := List.forall_mem_append.mpr ⟨exchanging.whole, by simpa using whole⟩
  toClient := by
    rw [exchanging.toClient, List.map_append]
    rfl
  toHost := exchanging.toHost

section Calls
variable {link : Link σ} {client : SppAddress} {id : UInt16}

theorem unlisted_definition (paired : Paired setup entry callbacks link) (addressed : Addressed client entry.address)
    (unlisted : ¬∃ pd ∈ entry.properties, pd.id = id) :
    sppHostGetDefinition link.host client id = .ok (sppStatusUnknownProperty, none) := by
  have absent : (searched [entry] entry).findIdx? (·.id == id) = none := by
    rw [searched_single, List.findIdx?_eq_none_iff]
    intro pd member
    simpa using fun same => unlisted ⟨pd, member, same⟩
  rw [sppHostGetDefinition_eq paired.host (i := 0) rfl (paired.points addressed) id, absent]

/-- The host does not send a value of an unknown property, and reads as much of the value as the property has. -/
theorem setValue_sent (paired : Paired setup entry callbacks link) (addressed : Addressed client entry.address)
    (room : ¬link.host.pendingRequestCount > 8) {value : List UInt8} {link' : Link σ} {event : LinkEvent}
    (done : linkStep link (.call (.setValue client id value)) = .ok (link', event)) :
    perform link.host (.setValue client id value) = .ok (link.host, [], sppStatusUnknownProperty) ∨
      (∃ pd ∈ entry.properties, pd.id = id) ∧ (propertySize entry.properties id).toNat ≤ value.length := by
  by_cases listed : ∃ pd ∈ entry.properties, pd.id = id
  · right
    obtain ⟨pd, first, size⟩ := find_listed listed
    rw [← searched_single] at first
    obtain ⟨place, copy, defined, stored, same⟩ :=
      sppHostGetDefinition_own paired.host (i := 0) rfl (paired.points addressed) first
    simp only [linkStep, bind_eq_ok, pure_eq_ok, Except.ok.injEq, Prod.mk.injEq, Prod.exists] at done
    obtain ⟨host, ⟨_, effects, status⟩, called, -⟩ := done
    obtain ⟨performed, -⟩ := hostCall_eq_ok.mp called
    change sppHostSetValue _ _ _ _ = _ at performed
    rw [sppHostSetValue, if_neg room, defined, ok_bind] at performed
    simp only [load_eq_ok.mpr stored, ok_bind] at performed
    obtain ⟨_, -, performed⟩ := bind_eq_ok.mp performed
    obtain ⟨_, loaded, -⟩ := bind_eq_ok.mp performed
    obtain ⟨inside, -⟩ := loadRange_eq_ok.mp loaded
    refine ⟨listed, ?_⟩
    rw [size, ← same.size]
    omega
  · left
    change sppHostSetValue _ _ _ _ = _
    rw [sppHostSetValue, if_neg room, unlisted_definition paired addressed listed]
    rfl

end Calls

theorem Exchanging.call (exchanging : Exchanging setup entry callbacks state requests) {call : HostCall}
    (asks : (StreamAction.link (.call call)).Requests entry.address) {event : StreamEvent}
    (done : exchangeStep state (.link (.call call)) = .ok (state', event)) :
    ∃ requests', Exchanging setup entry callbacks state' requests' := by
  have paired := exchanging.paired
  have request : call.isRequest = true := by
    cases call with
    | getValue _ _ | setValue _ _ _ | startStream _ _ _ _ _ _ => rfl
    | connectToClient _ | getDefinition _ _ | getPropertyCount _ | processMessage _ _ _ => cases asks
  by_cases full : state.link.host.pendingRequestCount > 8
  · exact ⟨requests, exchanging.refused (request_refused request full) done⟩
  cases call with
  | connectToClient _ | getDefinition _ _ | getPropertyCount _ | processMessage _ _ _ => cases asks
  | getValue client id =>
    obtain ⟨link, event, stepped, rfl⟩ := exchange_link done
    rw [paired.getValue_step asks full] at stepped
    cases stepped
    exact ⟨_, exchanging.submitted paired.host.withRequest (.read state.link.host.pending.next id) trivial⟩
  | setValue client id value =>
    obtain ⟨link, event, stepped, rfl⟩ := exchange_link done
    rcases setValue_sent paired asks full stepped with performed | ⟨listed, long⟩
    · exact ⟨requests, exchanging.refused performed done⟩
    · rw [paired.setValue_step asks full listed long] at stepped
      cases stepped
      exact ⟨_, exchanging.submitted paired.host.withRequest
        (.write state.link.host.pending.next id _) ⟨listed, List.length_take_of_le long⟩⟩
  | startStream client id period streamType stream spare =>
    by_cases listed : ∃ pd ∈ entry.properties, pd.id = id
    · obtain ⟨link, event, stepped, rfl⟩ := exchange_link done
      obtain ⟨place, copy, object, bound, -, -, -, -, -, rfl, rfl⟩ := paired.startStream_step asks full listed stepped
      exact ⟨_, exchanging.submitted (paired.host.enterStream place stream object period bound).withRequest
        (.stream state.link.host.pending.next streamType state.link.host.streamCount id period) trivial⟩
    · have known := sppGetClientIdx_joined paired.host.one paired.host.table paired.host.distinct
        (i := 0) rfl (paired.points asks)
      have performed : perform state.link.host (.startStream client id period streamType stream spare) =
          .ok (state.link.host, [], sppStatusUnknownProperty) := by
        change sppHostStartStream _ _ _ _ _ _ _ = _
        rw [sppHostStartStream, if_neg full, known, ok_bind]
        simp only [unlisted_definition paired asks listed, ok_bind]
        rfl
      exact ⟨requests, exchanging.refused performed done⟩

/-! ### Every step -/

theorem Exchanging.iff (exchanging : Exchanging setup entry callbacks state requests) (action : StreamAction) :
    Reported state action ↔ Reportable state action := by
  cases action with
  | processStreams _ _ _ => exact Iff.rfl
  | link action =>
    cases action with
    | start _ | call _ => exact Iff.rfl
    | clientReceive trailing stack => exact exchanging.clientReceive_iff
    | hostReceive trailing unset => exact exchanging.hostReceive_iff

theorem Exchanging.step (exchanging : Exchanging setup entry callbacks state requests) {action : StreamAction}
    (asks : action.Requests entry.address) (reportable : Reportable state action) {event : StreamEvent}
    (done : exchangeStep state action = .ok (state', event)) :
    ∃ requests', Exchanging setup entry callbacks state' requests' := by
  cases action with
  | processStreams _ _ _ => exact ⟨requests, exchanging.processStreams done⟩
  | link action =>
    cases action with
    | start _ => cases asks
    | call _ => exact exchanging.call asks done
    | clientReceive _ _ => exact exchanging.clientReceive reportable done
    | hostReceive _ _ => exact ⟨requests, exchanging.hostReceive done⟩

end Steps

/-- After the handshake, however requests for any ids, deliveries and calls of `SppProcessStreams` follow one another,
the errors of the callbacks are reported exactly as long as there are none. -/
theorem errors_reported_iff {setup : HostSetup} {clientParams : SppClientEngineInitParams σ} {address : UInt8}
    {link : Link σ} {actions : List StreamAction} (connected : Connected setup clientParams address link)
    (asks : ∀ action ∈ actions, action.Requests address) :
    EveryAttempt exchangeStep Reported ⟨link, []⟩ actions ↔
      EveryAttempt exchangeStep Reportable ⟨link, []⟩ actions := by
  have carries := connected.carries
  let Inv (state : Exchange σ) : Prop := ∃ requests,
    Exchanging setup ⟨address, clientParams.propertyListId, clientParams.properties⟩ clientParams.callbacks state
      requests
  have start : Inv ⟨link, []⟩ := by
    refine ⟨[], carries.paired, by simp, carries.toClient, ?_⟩
    rw [carries.toHost]
    exact .nil
  have one : ∀ state action, Inv state → action.Requests address → (Reported state action ↔ Reportable state action) :=
    fun _ action ⟨_, exchanging⟩ _ => exchanging.iff action
  have kept : ∀ state action next event, Inv state → action.Requests address → Reportable state action →
      exchangeStep state action = .ok (next, event) → Inv next :=
    fun _ _ _ _ ⟨_, exchanging⟩ asks reportable done => exchanging.step asks reportable done
  exact everyAttempt_iff_of one kept start asks

/-- The write and the read of `Prop_1` report what the callbacks of the tests return. -/
theorem errors_reported_setup :
    ∃ link : Link PropertyValues, Connected ⟨0x1D, 24, 15⟩ setupClientParams 0x01 link ∧
      (EveryAttempt exchangeStep Reported ⟨link, []⟩ (valueExchanged.map .link) ↔
        EveryAttempt exchangeStep Reportable ⟨link, []⟩ (valueExchanged.map .link)) := by
  obtain ⟨link, connected⟩ := connected_exists
  refine ⟨link, connected, errors_reported_iff connected ?_⟩
  simp [valueExchanged, StreamAction.Requests, Addressed]

/-- The client of the tests, with callbacks that know no property. -/
def refusingParams : SppClientEngineInitParams PropertyValues :=
  { setupClientParams with callbacks := variableCallbacks [] }

def refusedRead : List LinkAction :=
  [.call (.getValue ⟨.external [0x01], 0⟩ 0xAB), .clientReceive [] fun _ _ => 7, .hostReceive [] 0]

/-- The callback returns SPP_STATUS_UNKNOWN_PROPERTY and writes nothing; the host passes on what was on the stack of
the client. -/
theorem error_dropped :
    ∃ link link' : Link PropertyValues, ∃ events, Connected ⟨0x1D, 24, 15⟩ refusingParams 0x01 link ∧
      run linkStep link refusedRead = .ok (link', events) ∧
      valuesReceived (propertySize plist) events = [(0xAB, [7, 7])] ∧
      (∀ action ∈ refusedRead.map .link, StreamAction.Requests 0x01 action) ∧
      ¬EveryAttempt exchangeStep Reported ⟨link, []⟩ (refusedRead.map .link) := by
  obtain ⟨link', all, done, checked⟩ := run_checked linkStep
    (freshLink setupParams streamingHost refusingParams staticClient)
    ((.start fun _ _ => 0) :: setupDeliveries ++ refusedRead)
    (fun _ events => decide (valuesReceived (propertySize plist) events = [(0xAB, [7, 7])])) (by decide +kernel)
  obtain ⟨link, earlier, events, ran, after, rfl⟩ := run_append_eq_ok.mp done
  have handshake : (match run linkStep (freshLink setupParams streamingHost refusingParams staticClient)
      ((.start fun _ _ => 0) :: setupDeliveries) with
    | .ok (final, events) => final.toClient.isEmpty && final.toHost.isEmpty &&
        decide (valuesReceived (propertySize plist) events = [])
    | .error _ => false) = true := by decide +kernel
  rw [ran] at handshake
  simp only [Bool.and_eq_true, List.isEmpty_iff, decide_eq_true_eq] at handshake
  obtain ⟨drained, quiet⟩ := handshake
  have params : ClientParams refusingParams 0x01 :=
    ⟨rfl, ⟨[], rfl⟩, ⟨0x00, [], rfl⟩, by decide, rfl, by decide, by decide, by decide⟩
  have connected : Connected ⟨0x1D, 24, 15⟩ refusingParams 0x01 link := by
    refine ⟨params, by decide, by decide, ?_, drained⟩
    exact ⟨setupParams, streamingHost, staticClient, _, setupDeliveries, _, hostParams_setup, by decide, ran⟩
  have received : valuesReceived (propertySize plist) events = [(0xAB, [7, 7])] := by
    have both := of_decide_eq_true checked
    rw [valuesReceived, hostEvents, List.filterMap_append, List.flatMap_append] at both
    change valuesReceived (propertySize plist) earlier ++ valuesReceived (propertySize plist) events = _ at both
    rwa [quiet, List.nil_append] at both
  refine ⟨link, link', events, connected, after, received, by simp [refusedRead, StreamAction.Requests, Addressed], ?_⟩
  intro reported
  -- the callback that serves the request has failed
  have carries := connected.carries
  have asked : linkStep link (.call (.getValue ⟨.external [0x01], 0⟩ 0xAB)) = _ :=
    carries.paired.getValue_step (.inl ⟨[], rfl⟩) carries.room 0xAB
  have exchanging : Exchanging _ _ _ ⟨link, []⟩ [] :=
    ⟨carries.paired, by simp, carries.toClient, by rw [carries.toHost]; exact .nil⟩
  have after := exchanging.submitted carries.paired.host.withRequest
    (.read link.host.pending.next 0xAB) trivial
  obtain ⟨-, later⟩ := (everyAttempt_cons (exchange_of_link asked)).mp reported
  have reportable := after.clientReceive_iff.mp later.1
  have outcome := outcome_read after.paired after.toClient []
  obtain ⟨succeeded, -⟩ := reportable _ (outcome.trans (by
    rw [outcomeOf, after.paired.properties, after.paired.application]
    rfl))
  exact absurd succeeded (by decide)

end TvcHopper.Spp
