import Mathlib.Algebra.Order.Group.Multiset
import Mathlib.Tactic.Abel
import TvcHopper.Spp.HostRequests
import TvcHopper.Spp.Tokens

/-! Requests and responses in flight between a host and a client.

After its handshake a link carries nothing but requests to the client and
responses to the host. The host waits for exactly the tokens in flight and for
those of the stream requests, which the client takes without a response.
-/

set_option autoImplicit false

namespace TvcHopper.Spp
open Machine Machine.Slots

variable {σ : Type}

/-! ## Requests and responses -/

/-- The size of the values with an id: that of the first property that has it. -/
def propertySize (properties : List SppPropertyDefinition) (id : UInt16) : UInt8 :=
  ((properties.find? (·.id == id)).map (·.size)).getD 0

inductive Request where
  | read (token : UInt8) (id : UInt16)
  | write (token : UInt8) (id : UInt16) (value : List UInt8)
  | stream (token streamType streamId : UInt8) (id period : UInt16)

inductive Response where
  | value (token : UInt8) (id : UInt16) (bytes : List UInt8)
  | done (token : UInt8)

/-- A request without what the engine adds to it. -/
inductive Operation where
  | read (id : UInt16)
  | write (id : UInt16) (value : List UInt8)
  | stream

namespace Request

def token : Request → UInt8
  | .read token _ | .write token _ _ | .stream token _ _ _ _ => token

def operation : Request → Operation
  | .read _ id => .read id
  | .write _ id value => .write id value
  | .stream .. => .stream

/-- The token that no response will carry. -/
def lost : Request → Multiset UInt8
  | .stream token _ _ _ _ => {token}
  | _ => 0

def message (size : UInt16 → UInt8) (host client : UInt8) : Request → List UInt8
  | .read token id => Message.getRequest host client token id
  | .write token id value => Message.setRequest host client token (size id) id value
  | .stream token streamType streamId id period => Message.streamRequest host client token streamType streamId id period

def Listed (properties : List SppPropertyDefinition) : Request → Prop
  | .read _ id => ∃ pd ∈ properties, pd.id = id
  | .write _ id value => (∃ pd ∈ properties, pd.id = id) ∧ value.length = (propertySize properties id).toNat
  | .stream .. => True

end Request

namespace Response

def token : Response → UInt8
  | .value token _ _ | .done token => token

def value? : Response → Option (UInt16 × List UInt8)
  | .value _ id bytes => some (id, bytes)
  | .done _ => none

def message (size : UInt16 → UInt8) (client host : UInt8) : Response → List UInt8
  | .value token id bytes => Message.getResponse client host token (size id) id bytes
  | .done token => Message.setResponse client host token

def Sized (size : UInt16 → UInt8) : Response → Prop
  | .value _ id bytes => bytes.length = (size id).toNat
  | .done _ => True

end Response

/-- How a client serves a request. A value that `GetValue` leaves too short is filled up with
anything, and `SetValue` is given whatever follows the value in memory. -/
inductive Served (callbacks : SppClientCallbacks σ) (properties : List SppPropertyDefinition) (data : σ) :
    Request → σ → List Response → Prop where
  | read (token : UInt8) (id : UInt16) (behind : List UInt8) (listed : (Request.read token id).Listed properties)
      (whole : (callbacks.getValue data id).2.1.length + behind.length = (propertySize properties id).toNat) :
      Served callbacks properties data (.read token id) (callbacks.getValue data id).1
        [.value token id ((callbacks.getValue data id).2.1 ++ behind)]
  | write (token : UInt8) (id : UInt16) (value trailing : List UInt8)
      (listed : (Request.write token id value).Listed properties) :
      Served callbacks properties data (.write token id value) (callbacks.setValue data id (value ++ trailing)).1
        [.done token]
  | stream (token streamType streamId : UInt8) (id period : UInt16) :
      Served callbacks properties data (.stream token streamType streamId id period) data []

/-! ## What is seen of a run -/

def hostEvents (events : List LinkEvent) : List HostEvent :=
  events.filterMap fun
    | .host event => some event
    | _ => none

theorem hostEvents_cons (event : LinkEvent) (events : List LinkEvent) :
    hostEvents (event :: events) = hostEvents [event] ++ hostEvents events := by
  rw [hostEvents, hostEvents, hostEvents, ← List.filterMap_append, List.singleton_append]

def requestTokens (events : List LinkEvent) : List UInt8 := (hostEvents events).filterMap (·.sentToken 1)

def responseTokens (events : List LinkEvent) : List UInt8 := (hostEvents events).filterMap (·.call.responseToken 1)

/-- What `OnValueResponse` was called with: the ids, and of each value as much as the property has. -/
def valuesReceived (size : UInt16 → UInt8) (events : List LinkEvent) : List (UInt16 × List UInt8) :=
  (hostEvents events).flatMap fun event => event.effects.filterMap fun
    | .onValueResponse _ id value => some (id, value.take (size id).toNat)
    | _ => none

def LinkEvent.succeeded : LinkEvent → Prop
  | .host event => event.status = sppStatusOk
  | .client _ status => status = sppStatusOk
  | .started | .idle => True

def LinkAction.operation (size : UInt16 → UInt8) : LinkAction → Option Operation
  | .call (.getValue _ id) => some (.read id)
  | .call (.setValue _ id value) => some (.write id (value.take (size id).toNat))
  | .call (.startStream ..) => some .stream
  | _ => none

def LinkAction.startsStream : LinkAction → Bool
  | .call (.startStream ..) => true
  | _ => false

structure Seen (size : UInt16 → UInt8) (event : LinkEvent) (requested answered : List UInt8)
    (values : List (UInt16 × List UInt8)) : Prop where
  succeeded : event.succeeded
  requested : requestTokens [event] = requested
  answered : responseTokens [event] = answered
  values : valuesReceived size [event] = values

theorem seen_client (size : UInt16 → UInt8) (sent : List (List UInt8)) :
    Seen size (.client sent sppStatusOk) [] [] [] := ⟨rfl, rfl, rfl, rfl⟩

theorem seen_idle (size : UInt16 → UInt8) : Seen size .idle [] [] [] := ⟨trivial, rfl, rfl, rfl⟩

theorem seen_request (size : UInt16 → UInt8) {call : HostCall} (request : call.isRequest = true) {message : List UInt8}
    {token : UInt8} (here : message[4]? = some token) :
    Seen size (.host ⟨call, [.sendMessage message], sppStatusOk⟩) [token] [] [] := by
  refine ⟨rfl, ?_, ?_, rfl⟩
  · simp [requestTokens, hostEvents, HostEvent.sentToken, HostEvent.isRequested, request, here]
  · cases call with
    | getValue _ _ | setValue _ _ _ | startStream _ _ _ _ _ _ => rfl
    | connectToClient _ | getDefinition _ _ | getPropertyCount _ | processMessage _ _ _ => cases request

/-! ## The flight -/

structure Flight (σ : Type) where
  data : σ
  requests : List Request
  responses : List Response
  lost : Multiset UInt8

/-- The tokens for which a response is still awaited. -/
def Flight.tokens (flight : Flight σ) : Multiset UInt8 :=
  (flight.requests.map Request.token : Multiset UInt8) + (flight.responses.map Response.token : Multiset UInt8) +
    flight.lost

inductive Moves (callbacks : SppClientCallbacks σ) (properties : List SppPropertyDefinition) :
    Flight σ → LinkAction → LinkEvent → Flight σ → Prop where
  | submit {flight : Flight σ} {action : LinkAction} {event : LinkEvent} (request : Request)
      (operation : action.operation (propertySize properties) = some request.operation)
      (seen : Seen (propertySize properties) event [request.token] [] []) :
      Moves callbacks properties flight action event { flight with requests := flight.requests ++ [request] }
  | serve {data data' : σ} {request : Request} {others : List Request} {responses served : List Response}
      {lost : Multiset UInt8} {action : LinkAction} {event : LinkEvent}
      (operation : action.operation (propertySize properties) = none)
      (serves : Served callbacks properties data request data' served)
      (seen : Seen (propertySize properties) event [] [] []) :
      Moves callbacks properties ⟨data, request :: others, responses, lost⟩ action event
        ⟨data', others, responses ++ served, request.lost + lost⟩
  | collect {data : σ} {requests : List Request} {response : Response} {others : List Response}
      {lost : Multiset UInt8} {action : LinkAction} {event : LinkEvent}
      (operation : action.operation (propertySize properties) = none)
      (seen : Seen (propertySize properties) event [] [response.token] ([response].filterMap Response.value?)) :
      Moves callbacks properties ⟨data, requests, response :: others, lost⟩ action event ⟨data, requests, others, lost⟩
  | idle {flight : Flight σ} {action : LinkAction} {event : LinkEvent}
      (operation : action.operation (propertySize properties) = none)
      (seen : Seen (propertySize properties) event [] [] []) : Moves callbacks properties flight action event flight

structure Carries (setup : HostSetup) (entry : Joined) (callbacks : SppClientCallbacks σ) (link : Link σ)
    (flight : Flight σ) : Prop where
  host : HostHolds setup link.host [entry]
  accounted : link.host.pending.Accounted
  client : OneByteClient link.client entry.address
  known : HostKnown link.client setup.address
  listed : ListedProperties link.client
  properties : link.client.properties = entry.properties
  application : link.client.callbacks = callbacks
  data : link.client.instanceData = flight.data
  requests : ∀ request ∈ flight.requests, request.Listed entry.properties
  responses : ∀ response ∈ flight.responses, response.Sized (propertySize entry.properties)
  toClient : link.toClient =
    flight.requests.map (Request.message (propertySize entry.properties) setup.address entry.address)
  toHost : link.toHost =
    flight.responses.map (Response.message (propertySize entry.properties) entry.address setup.address)
  outstanding : link.host.pending.outstanding = flight.tokens

/-- `GetValue` never writes more than the size of a property. -/
def LoadsWithin (callbacks : SppClientCallbacks σ) (properties : List SppPropertyDefinition) : Prop :=
  ∀ data, ∀ pd ∈ properties, (callbacks.getValue data pd.id).2.1.length ≤ (propertySize properties pd.id).toNat

/-- `GetValue` writes exactly the size of a property. -/
def LoadsExactly (callbacks : SppClientCallbacks σ) (properties : List SppPropertyDefinition) : Prop :=
  ∀ data, ∀ pd ∈ properties, (callbacks.getValue data pd.id).2.1.length = (propertySize properties pd.id).toNat

theorem LoadsExactly.within {callbacks : SppClientCallbacks σ} {properties : List SppPropertyDefinition}
    (exact : LoadsExactly callbacks properties) : LoadsWithin callbacks properties :=
  fun data pd member => (exact data pd member).le

/-- A pointer to the address of the only client: one of the application, or the one in the client table. -/
def Addressed (client : SppAddress) (address : UInt8) : Prop :=
  (∃ rest, client.address = .external (address :: rest)) ∨ client.address = .permanent 0

/-- Requests on listed properties of the client with this address, and deliveries. -/
def LinkAction.Accesses (address : UInt8) (properties : List SppPropertyDefinition) : LinkAction → Prop
  | .call (.getValue client id) => Addressed client address ∧ ∃ pd ∈ properties, pd.id = id
  | .call (.setValue client id value) =>
    (Addressed client address ∧ ∃ pd ∈ properties, pd.id = id) ∧ (propertySize properties id).toNat ≤ value.length
  | .call (.startStream client id _ _ _ _) => Addressed client address ∧ ∃ pd ∈ properties, pd.id = id
  | .clientReceive .. | .hostReceive .. => True
  | _ => False

theorem LinkAction.Accesses.isRequest {address : UInt8} {properties : List SppPropertyDefinition} {call : HostCall}
    (accesses : (LinkAction.call call).Accesses address properties) : call.isRequest = true := by
  cases call with
  | getValue _ _ | setValue _ _ _ | startStream _ _ _ _ _ _ => rfl
  | connectToClient _ | getDefinition _ _ | getPropertyCount _ | processMessage _ _ _ => cases accesses

theorem propertySize_of_find {properties : List SppPropertyDefinition} {id : UInt16} {pd : SppPropertyDefinition}
    (found : properties.find? (·.id == id) = some pd) : propertySize properties id = pd.size := by
  rw [propertySize, found]
  rfl

theorem listed_of_find {properties : List SppPropertyDefinition} {id : UInt16} {pd : SppPropertyDefinition}
    (found : properties.find? (·.id == id) = some pd) : ∃ pd ∈ properties, pd.id = id :=
  ⟨pd, List.mem_of_find?_eq_some found, by simpa using List.find?_some found⟩

theorem find_listed {properties : List SppPropertyDefinition} {id : UInt16} (listed : ∃ pd ∈ properties, pd.id = id) :
    ∃ pd, properties.find? (·.id == id) = some pd ∧ propertySize properties id = pd.size := by
  obtain ⟨pd, member, same⟩ := listed
  have found : (properties.find? (·.id == id)).isSome := List.find?_isSome.mpr ⟨pd, member, by simp [same]⟩
  obtain ⟨first, here⟩ := Option.isSome_iff_exists.mp found
  exact ⟨first, here, propertySize_of_find here⟩

theorem searched_single (entry : Joined) : searched [entry] entry = entry.properties := by
  simp [searched, received]

theorem messageSize16_long {message : List UInt8} (low : 4 ≤ message.length) (high : message.length < 65536) :
    4 ≤ (messageSize16 message).toNat := by
  rw [messageSize16, toNat_ofNat16 high]
  exact low

/-! ## A host and its only client -/

/-- After the handshake, whatever is in flight. -/
structure Paired (setup : HostSetup) (entry : Joined) (callbacks : SppClientCallbacks σ) (link : Link σ) : Prop where
  host : HostHolds setup link.host [entry]
  client : OneByteClient link.client entry.address
  known : HostKnown link.client setup.address
  listed : ListedProperties link.client
  properties : link.client.properties = entry.properties
  application : link.client.callbacks = callbacks

section Pairs
variable {setup : HostSetup} {entry : Joined} {callbacks : SppClientCallbacks σ} {link : Link σ}

theorem Paired.points (paired : Paired setup entry callbacks link) {client : SppAddress}
    (addressed : Addressed client entry.address) : PointsTo link.host client entry.address := by
  rcases addressed with ⟨rest, same⟩ | same
  · exact ⟨rest, by rw [same]; rfl⟩
  · have read := paired.host.table.read (by decide) Nat.zero_lt_one
    rw [paired.host.table.known 0 (by decide) Nat.zero_lt_one] at read
    rwa [PointsTo, same]

theorem Paired.withHost (paired : Paired setup entry callbacks link) {host : SppHostEngine}
    (holds : HostHolds setup host [entry]) (toClient toHost : List (List UInt8)) :
    Paired setup entry callbacks { link with host, toClient, toHost } :=
  ⟨holds, paired.client, paired.known, paired.listed, paired.properties, paired.application⟩

theorem Paired.withClient (paired : Paired setup entry callbacks link) (instanceData : σ)
    (streams : Vector SppStream sppStreamMaxCount) (streamCount : UInt8) (toClient toHost : List (List UInt8)) :
    Paired setup entry callbacks
      { link with client := { link.client with instanceData, streams, streamCount }, toClient, toHost } where
  host := paired.host
  client := ⟨paired.client.addressLength, paired.client.clientAddress, paired.client.hostAddress⟩
  known := paired.known
  listed := ⟨paired.listed.count, paired.listed.short, paired.listed.names⟩
  properties := paired.properties
  application := paired.application

theorem Paired.getValue_step (paired : Paired setup entry callbacks link) {client : SppAddress}
    (addressed : Addressed client entry.address) (room : ¬link.host.pendingRequestCount > 8) (id : UInt16) :
    linkStep link (.call (.getValue client id)) =
      .ok ({ link with
          host := withRequest link.host
          toClient := link.toClient ++
            [Message.getRequest setup.address entry.address link.host.pending.next id] },
        .host ⟨.getValue client id,
          [.sendMessage (Message.getRequest setup.address entry.address link.host.pending.next id)],
          sppStatusOk⟩) := by
  have performed : perform link.host (.getValue client id) = _ :=
    host_getValue paired.host (i := 0) rfl (paired.points addressed) room id
  exact link_call performed

theorem Paired.setValue_step (paired : Paired setup entry callbacks link) {client : SppAddress} {id : UInt16}
    (addressed : Addressed client entry.address) (room : ¬link.host.pendingRequestCount > 8)
    (listed : ∃ pd ∈ entry.properties, pd.id = id) {value : List UInt8}
    (long : (propertySize entry.properties id).toNat ≤ value.length) :
    linkStep link (.call (.setValue client id value)) =
      .ok ({ link with
          host := withRequest link.host
          toClient := link.toClient ++ [Message.setRequest setup.address entry.address link.host.pending.next
            (propertySize entry.properties id) id (value.take (propertySize entry.properties id).toNat)] },
        .host ⟨.setValue client id value, [.sendMessage (Message.setRequest setup.address entry.address
          link.host.pending.next (propertySize entry.properties id) id
            (value.take (propertySize entry.properties id).toNat))], sppStatusOk⟩) := by
  obtain ⟨pd, first, size⟩ := find_listed listed
  rw [← searched_single] at first
  rw [size] at long ⊢
  have performed : perform link.host (.setValue client id value) = _ :=
    host_setValue paired.host (i := 0) rfl (paired.points addressed) room first long
  exact link_call performed

theorem Paired.startStream_step (paired : Paired setup entry callbacks link) {client : SppAddress} {id period : UInt16}
    {streamType : UInt8} {stream spare : Nat} (addressed : Addressed client entry.address)
    (room : ¬link.host.pendingRequestCount > 8) (listed : ∃ pd ∈ entry.properties, pd.id = id) {link' : Link σ}
    {event : LinkEvent}
    (done : linkStep link (.call (.startStream client id period streamType stream spare)) = .ok (link', event)) :
    ∃ place copy object bound, link.host.defsBuffer[place]? = some copy ∧ copy.id = id ∧
      copy.size = propertySize entry.properties id ∧ link.host.streamObjects[stream]? = some object ∧ 0 < spare ∧
      event = .host ⟨.startStream client id period streamType stream spare,
        [.sendMessage (Message.streamRequest setup.address entry.address link.host.pending.next streamType
          link.host.streamCount id period)], sppStatusOk⟩ ∧
      link' = { link with
        host := withRequest (enterStream link.host place stream object period bound)
        toClient := link.toClient ++ [Message.streamRequest setup.address entry.address link.host.pending.next
          streamType link.host.streamCount id period] } := by
  obtain ⟨pd, first, size⟩ := find_listed listed
  have named : pd.id = id := by simpa using List.find?_some first
  rw [← searched_single] at first
  simp only [linkStep, bind_eq_ok, pure_eq_ok, Except.ok.injEq, Prod.mk.injEq, Prod.exists] at done
  obtain ⟨host, ⟨_, effects, status⟩, called, rfl, rfl⟩ := done
  obtain ⟨performed, rfl⟩ := hostCall_eq_ok.mp called
  obtain ⟨rfl, rfl, place, copy, object, bound, stored, same, here, spared, rfl⟩ :=
    host_startStream paired.host (i := 0) rfl (paired.points addressed) room first performed
  exact ⟨place, copy, object, bound, stored, same.id.trans named, same.size.trans size.symm, here, spared, rfl, rfl⟩

theorem returns_call {call : HostCall} :
    StepReturns linkStep link (.call call) ↔ ∃ result, perform link.host call = .ok result := by
  simp only [StepReturns, linkStep, hostCall]
  cases perform link.host call with
  | error fault =>
    constructor
    · rintro ⟨_, done⟩
      cases done
    · rintro ⟨_, done⟩
      cases done
  | ok result => exact iff_of_true ⟨_, rfl⟩ ⟨result, rfl⟩

theorem Paired.startStream_returns (paired : Paired setup entry callbacks link) {client : SppAddress} {id : UInt16}
    (addressed : Addressed client entry.address) (room : ¬link.host.pendingRequestCount > 8)
    (listed : ∃ pd ∈ entry.properties, pd.id = id) (period : UInt16) (streamType : UInt8) (stream spare : Nat) :
    StepReturns linkStep link (.call (.startStream client id period streamType stream spare)) ↔
      stream < link.host.streamObjects.length ∧ link.host.streamCount.toNat < sppStreamMaxCount ∧ 0 < spare := by
  obtain ⟨pd, first, -⟩ := find_listed listed
  rw [← searched_single] at first
  exact returns_call.trans (host_startStream_returns paired.host (i := 0) rfl (paired.points addressed) room first
    period streamType stream spare)

theorem Paired.read_step_within (paired : Paired setup entry callbacks link) {token : UInt8} {id : UInt16}
    (listed : ∃ pd ∈ entry.properties, pd.id = id)
    (within : (callbacks.getValue link.client.instanceData id).2.1.length ≤ (propertySize entry.properties id).toNat)
    {rest : List (List UInt8)}
    (queued : link.toClient = Message.getRequest setup.address entry.address token id :: rest)
    (trailing : List UInt8) (stack : Stack) :
    ∃ behind, (callbacks.getValue link.client.instanceData id).2.1.length + behind.length =
        (propertySize entry.properties id).toNat ∧
      linkStep link (.clientReceive trailing stack) =
        .ok ({ link with
            client := { link.client with instanceData := (callbacks.getValue link.client.instanceData id).1 }
            toClient := rest
            toHost := link.toHost ++ [Message.getResponse entry.address setup.address token
              (propertySize entry.properties id) id
              ((callbacks.getValue link.client.instanceData id).2.1 ++ behind)] },
          .client [Message.getResponse entry.address setup.address token (propertySize entry.properties id) id
            ((callbacks.getValue link.client.instanceData id).2.1 ++ behind)] sppStatusOk) := by
  obtain rfl : link.client.callbacks = callbacks := paired.application
  obtain ⟨pd, found, size⟩ := find_listed listed
  obtain ⟨place, looked, here⟩ := sppGetDefinition_found paired.listed (by rw [paired.properties]; exact found)
  rw [size] at within ⊢
  obtain ⟨behind, whole, processed⟩ :=
    client_getRequest paired.client paired.known token looked here within trailing stack
  exact ⟨behind, whole, link_clientReceive queued processed⟩

theorem Paired.read_step (paired : Paired setup entry callbacks link) (loads : LoadsWithin callbacks entry.properties)
    {token : UInt8} {id : UInt16} (listed : ∃ pd ∈ entry.properties, pd.id = id) {rest : List (List UInt8)}
    (queued : link.toClient = Message.getRequest setup.address entry.address token id :: rest)
    (trailing : List UInt8) (stack : Stack) :
    ∃ behind, (callbacks.getValue link.client.instanceData id).2.1.length + behind.length =
        (propertySize entry.properties id).toNat ∧
      linkStep link (.clientReceive trailing stack) =
        .ok ({ link with
            client := { link.client with instanceData := (callbacks.getValue link.client.instanceData id).1 }
            toClient := rest
            toHost := link.toHost ++ [Message.getResponse entry.address setup.address token
              (propertySize entry.properties id) id
              ((callbacks.getValue link.client.instanceData id).2.1 ++ behind)] },
          .client [Message.getResponse entry.address setup.address token (propertySize entry.properties id) id
            ((callbacks.getValue link.client.instanceData id).2.1 ++ behind)] sppStatusOk) := by
  have within : (callbacks.getValue link.client.instanceData id).2.1.length ≤
      (propertySize entry.properties id).toNat := by
    obtain ⟨pd, member, rfl⟩ := listed
    exact loads link.client.instanceData pd member
  exact paired.read_step_within listed within queued trailing stack

theorem Paired.write_step (paired : Paired setup entry callbacks link) {token : UInt8} {id : UInt16}
    {value : List UInt8} (whole : value.length = (propertySize entry.properties id).toNat) {rest : List (List UInt8)}
    (queued : link.toClient =
      Message.setRequest setup.address entry.address token (propertySize entry.properties id) id value :: rest)
    (trailing : List UInt8) (stack : Stack) :
    linkStep link (.clientReceive trailing stack) =
      .ok ({ link with
          client := { link.client with
            instanceData := (callbacks.setValue link.client.instanceData id (value ++ trailing)).1 }
          toClient := rest
          toHost := link.toHost ++ [Message.setResponse entry.address setup.address token] },
        .client [Message.setResponse entry.address setup.address token] sppStatusOk) := by
  obtain rfl : link.client.callbacks = callbacks := paired.application
  have long : 4 ≤ (messageSize16 (Message.setRequest setup.address entry.address token
      (propertySize entry.properties id) id value)).toNat := by
    have byte := (propertySize entry.properties id).toNat_lt
    have length : (Message.setRequest setup.address entry.address token
        (propertySize entry.properties id) id value).length = 8 + value.length := by
      simp only [Message.setRequest, List.length_cons, List.length_append, length_bytes16]
      omega
    apply messageSize16_long <;> omega
  exact link_clientReceive queued (client_setRequest paired.client paired.known token
    (propertySize entry.properties id) id value trailing long stack)

theorem Paired.stream_step (paired : Paired setup entry callbacks link) {token streamType streamId : UInt8}
    {id period : UInt16} {rest : List (List UInt8)}
    (queued : link.toClient =
      Message.streamRequest setup.address entry.address token streamType streamId id period :: rest)
    {trailing : List UInt8} {stack : Stack} {link' : Link σ} {event : LinkEvent}
    (done : linkStep link (.clientReceive trailing stack) = .ok (link', event)) :
    event = .client [] sppStatusOk ∧ ∃ found period' bound, Client.sppGetDefinition link.client id = .ok found ∧
      link' = { link with
        client := openStream link.client found streamType streamId period' bound
        toClient := rest } := by
  have long : 4 ≤ (messageSize16 (Message.streamRequest setup.address entry.address token streamType streamId id
      period)).toNat := messageSize16_long (Nat.le_add_left 4 6) (show 10 < 65536 by decide)
  simp only [linkStep, queued, bind_eq_ok, pure_eq_ok, Except.ok.injEq, Prod.mk.injEq, Prod.exists] at done
  obtain ⟨client', sent, status, processed, rfl, rfl⟩ := done
  obtain ⟨rfl, rfl, found, period', bound, looked, rfl⟩ := client_streamRequest paired.client long processed
  exact ⟨rfl, found, period', bound, looked, by rw [List.append_nil]⟩

theorem Paired.stream_returns (paired : Paired setup entry callbacks link) {token streamType streamId : UInt8}
    {id period : UInt16} {rest : List (List UInt8)}
    (queued : link.toClient =
      Message.streamRequest setup.address entry.address token streamType streamId id period :: rest)
    (bound : link.client.streamCount.toNat < sppStreamMaxCount) {found : Option Nat}
    (looked : Client.sppGetDefinition link.client id = .ok found) (trailing : List UInt8) (stack : Stack) :
    StepReturns linkStep link (.clientReceive trailing stack) ↔ trailing ≠ [] := by
  have long : 4 ≤ (messageSize16 (Message.streamRequest setup.address entry.address token streamType streamId id
      period)).toNat := messageSize16_long (Nat.le_add_left 4 6) (show 10 < 65536 by decide)
  rw [← client_streamRequest_returns paired.client long bound looked stack]
  simp only [StepReturns, linkStep, queued]
  cases sppClientProcessMessage link.client (Message.streamRequest setup.address entry.address token streamType
      streamId id period ++ trailing) (messageSize16 (Message.streamRequest setup.address entry.address token
      streamType streamId id period)) stack with
  | error fault =>
    constructor
    · rintro ⟨_, done⟩
      cases done
    · rintro ⟨_, done⟩
      cases done
  | ok result => exact iff_of_true ⟨_, rfl⟩ ⟨result, rfl⟩

end Pairs

section Steps
variable {setup : HostSetup} {entry : Joined} {callbacks : SppClientCallbacks σ} {link : Link σ} {flight : Flight σ}

theorem Carries.paired (carries : Carries setup entry callbacks link flight) : Paired setup entry callbacks link :=
  ⟨carries.host, carries.client, carries.known, carries.listed, carries.properties, carries.application⟩

/-! ## Requests -/

theorem request_free {pending : PendingRequests} (free : pending.outstanding.card < sppPendingRequestsMax) :
    pending.request.outstanding = pending.next ::ₘ pending.outstanding := by
  have slot : sppTokenMaxReserved ∈ pending.tokens.toList := (card_occupied_lt_iff _ _).mp free
  rcases pending.request_outstanding with ⟨-, -, added⟩ | ⟨full, -, -⟩
  · exact added
  · exact absurd slot full

theorem Carries.room (carries : Carries setup entry callbacks link flight) : ¬link.host.pendingRequestCount > 8 := by
  have bounded : link.host.pendingRequestCount.toNat ≤ 8 := carries.accounted.bounded
  have eight : (8 : UInt16).toNat = 8 := rfl
  rw [gt_iff_lt, UInt16.lt_iff_toNat_lt]
  omega

theorem Carries.submit (carries : Carries setup entry callbacks link flight)
    (free : link.host.pending.outstanding.card < sppPendingRequestsMax) {host : SppHostEngine}
    (holds : HostHolds setup host [entry]) (pending : host.pending = link.host.pending.request) {request : Request}
    (drawn : request.token = link.host.pending.next) (listed : request.Listed entry.properties) :
    Carries setup entry callbacks
      { link with
        host
        toClient := link.toClient ++
          [request.message (propertySize entry.properties) setup.address entry.address] }
      { flight with requests := flight.requests ++ [request] } := by
  constructor
  · exact holds
  · show host.pending.Accounted
    rw [pending]
    exact carries.accounted.request
  · exact carries.client
  · exact carries.known
  · exact carries.listed
  · exact carries.properties
  · exact carries.application
  · exact carries.data
  · intro other member
    rcases List.mem_append.mp member with member | member
    · exact carries.requests other member
    · rwa [List.mem_singleton.mp member]
  · exact carries.responses
  · rw [carries.toClient, List.map_append]
    rfl
  · exact carries.toHost
  · show host.pending.outstanding = _
    rw [pending, request_free free, carries.outstanding]
    simp only [Flight.tokens, List.map_append, List.map_cons, List.map_nil, drawn, ← Multiset.coe_add,
      Multiset.coe_singleton, ← Multiset.singleton_add]
    abel

theorem Request.token_on_wire (request : Request) (size : UInt16 → UInt8) (host client : UInt8) :
    (request.message size host client)[4]? = some request.token := by
  cases request <;> rfl

theorem Carries.moves_request (carries : Carries setup entry callbacks link flight) {call : HostCall}
    (isRequest : call.isRequest = true) {host : SppHostEngine} {request : Request} {event : LinkEvent}
    (sent : event = .host ⟨call, [.sendMessage
      (request.message (propertySize entry.properties) setup.address entry.address)], sppStatusOk⟩)
    (holds : HostHolds setup host [entry]) (pending : host.pending = link.host.pending.request)
    (drawn : request.token = link.host.pending.next) (listed : request.Listed entry.properties)
    (operation : (LinkAction.call call).operation (propertySize entry.properties) = some request.operation)
    (bounded : (requestTokens [event]).length + flight.tokens.card ≤
      (responseTokens [event]).length + sppPendingRequestsMax) :
    ∃ flight', Moves callbacks entry.properties flight (.call call) event flight' ∧
      Carries setup entry callbacks
        { link with
          host
          toClient := link.toClient ++
            [request.message (propertySize entry.properties) setup.address entry.address] } flight' := by
  have seen : Seen (propertySize entry.properties) event [request.token] [] [] := by
    rw [sent]
    apply seen_request _ isRequest
    apply request.token_on_wire
  rw [seen.requested, seen.answered, ← carries.outstanding, List.length_singleton, List.length_nil] at bounded
  refine ⟨_, .submit request operation seen, carries.submit ?_ holds pending drawn listed⟩
  omega

/-! ## Requests at the client -/

theorem Carries.serve (carries : Carries setup entry callbacks link flight) {request : Request} {others : List Request}
    (first : flight.requests = request :: others) {data : σ} {streams : Vector SppStream sppStreamMaxCount}
    {streamCount : UInt8} {served : List Response} {toHost : List (List UInt8)}
    (sized : ∀ response ∈ served, response.Sized (propertySize entry.properties))
    (sends : toHost =
      link.toHost ++ served.map (Response.message (propertySize entry.properties) entry.address setup.address))
    (tokens : request.token ::ₘ flight.lost =
      (served.map Response.token : Multiset UInt8) + (request.lost + flight.lost)) :
    Carries setup entry callbacks
      { link with
        client := { link.client with instanceData := data, streams, streamCount }
        toClient := others.map (Request.message (propertySize entry.properties) setup.address entry.address)
        toHost }
      ⟨data, others, flight.responses ++ served, request.lost + flight.lost⟩ := by
  constructor
  · exact carries.host
  · exact carries.accounted
  · exact ⟨carries.client.addressLength, carries.client.clientAddress, carries.client.hostAddress⟩
  · exact carries.known
  · exact ⟨carries.listed.count, carries.listed.short, carries.listed.names⟩
  · exact carries.properties
  · exact carries.application
  · rfl
  · intro other inside
    exact carries.requests other (by simp [first, inside])
  · intro response inside
    rcases List.mem_append.mp inside with inside | inside
    · exact carries.responses response inside
    · exact sized response inside
  · rfl
  · rw [sends, carries.toHost, List.map_append]
  · show link.host.pending.outstanding = _
    -- the token goes from the request to its response, or is lost
    have before := carries.outstanding
    rw [Flight.tokens, first, List.map_cons, ← Multiset.cons_coe] at before
    rw [before, Flight.tokens, List.map_append, ← Multiset.coe_add, add_assoc _ _ (request.lost + flight.lost),
      add_assoc _ _ (request.lost + flight.lost), ← tokens, Multiset.add_cons, Multiset.add_cons, Multiset.cons_add,
      Multiset.cons_add, add_assoc]

theorem Carries.serve_read (carries : Carries setup entry callbacks link flight)
    (loads : LoadsWithin callbacks entry.properties) {token : UInt8} {id : UInt16} {others : List Request}
    (first : flight.requests = .read token id :: others) (trailing : List UInt8) (stack : Stack) :
    ∃ link' event flight', linkStep link (.clientReceive trailing stack) = .ok (link', event) ∧
      Moves callbacks entry.properties flight (.clientReceive trailing stack) event flight' ∧
      Carries setup entry callbacks link' flight' := by
  obtain ⟨data, requests, responses, lost⟩ := flight
  obtain rfl : requests = .read token id :: others := first
  obtain rfl : link.client.instanceData = data := carries.data
  have listed : ∃ pd ∈ entry.properties, pd.id = id := carries.requests _ (List.mem_cons_self ..)
  obtain ⟨behind, whole, stepped⟩ := carries.paired.read_step loads listed carries.toClient trailing stack
  refine ⟨_, _, _, stepped, .serve rfl (.read token id behind listed whole) (seen_client _ _), ?_⟩
  apply carries.serve rfl
  · intro response inside
    rw [List.mem_singleton.mp inside]
    exact List.length_append.trans whole
  · rfl
  · exact (congrArg ({token} + ·) (zero_add lost)).symm

theorem Carries.serve_write (carries : Carries setup entry callbacks link flight) {token : UInt8} {id : UInt16}
    {value : List UInt8} {others : List Request} (first : flight.requests = .write token id value :: others)
    (trailing : List UInt8) (stack : Stack) :
    ∃ link' event flight', linkStep link (.clientReceive trailing stack) = .ok (link', event) ∧
      Moves callbacks entry.properties flight (.clientReceive trailing stack) event flight' ∧
      Carries setup entry callbacks link' flight' := by
  obtain ⟨data, requests, responses, lost⟩ := flight
  obtain rfl : requests = .write token id value :: others := first
  obtain rfl : link.client.instanceData = data := carries.data
  have listed : (Request.write token id value).Listed entry.properties := carries.requests _ (List.mem_cons_self ..)
  have stepped := carries.paired.write_step listed.2 carries.toClient trailing stack
  refine ⟨_, _, _, stepped, .serve rfl (.write token id value trailing listed) (seen_client _ _), ?_⟩
  apply carries.serve rfl
  · intro response inside
    rw [List.mem_singleton.mp inside]
    trivial
  · rfl
  · exact (congrArg ({token} + ·) (zero_add lost)).symm

theorem Carries.serve_stream (carries : Carries setup entry callbacks link flight)
    {token streamType streamId : UInt8} {id period : UInt16} {others : List Request}
    (first : flight.requests = .stream token streamType streamId id period :: others) {trailing : List UInt8}
    {stack : Stack} {link' : Link σ} {event : LinkEvent}
    (done : linkStep link (.clientReceive trailing stack) = .ok (link', event)) :
    ∃ flight', Moves callbacks entry.properties flight (.clientReceive trailing stack) event flight' ∧
      Carries setup entry callbacks link' flight' := by
  obtain ⟨data, requests, responses, lost⟩ := flight
  obtain rfl : requests = .stream token streamType streamId id period :: others := first
  obtain rfl : link.client.instanceData = data := carries.data
  obtain ⟨rfl, found, period', bound, -, rfl⟩ := carries.paired.stream_step carries.toClient done
  refine ⟨_, .serve rfl (.stream token streamType streamId id period) (seen_client _ _), ?_⟩
  apply carries.serve rfl
  · intro response inside
    cases inside
  · exact (List.append_nil _).symm
  · exact (zero_add _).symm

/-! ## Responses at the host -/

theorem Response.long {size : UInt16 → UInt8} {response : Response} (sized : response.Sized size)
    (client host : UInt8) : 4 ≤ (messageSize16 (response.message size client host)).toNat := by
  cases response with
  | done token => exact messageSize16_long (Nat.le_add_left 4 2) (show 6 < 65536 by decide)
  | value token id bytes =>
    have whole : bytes.length = (size id).toNat := sized
    have byte := (size id).toNat_lt
    have length : (Message.getResponse client host token (size id) id bytes).length = 9 + bytes.length := by
      simp only [Message.getResponse, List.length_cons, List.length_append, length_bytes16]
      omega
    rw [Response.message]
    apply messageSize16_long <;> omega

theorem responseToken_message {size : UInt16 → UInt8} {response : Response} (sized : response.Sized size)
    (client host : UInt8) (trailing : List UInt8) (unset : Nat) :
    (HostCall.processMessage (response.message size client host ++ trailing)
      (messageSize16 (response.message size client host)) unset).responseToken 1 = some response.token := by
  have long := response.long sized client host
  have notShort : ¬(messageSize16 (response.message size client host)).toNat < 1 * 2 + 2 := by omega
  rw [HostCall.responseToken, toNat_one, if_neg notShort]
  cases response <;> rfl

theorem seen_response {size : UInt16 → UInt8} {call : HostCall} {response : Response}
    (received : call.responseToken 1 = some response.token) (notRequest : call.isRequest = false)
    {effects : List HostEffect}
    (values : (effects.filterMap fun
      | .onValueResponse _ id value => some (id, value.take (size id).toNat)
      | _ => none) = [response].filterMap Response.value?) :
    Seen size (.host ⟨call, effects, sppStatusOk⟩) [] [response.token] ([response].filterMap Response.value?) := by
  refine ⟨rfl, ?_, ?_, (List.append_nil _).trans values⟩
  · simp [requestTokens, hostEvents, HostEvent.sentToken, HostEvent.isRequested, notRequest]
  · simp [responseTokens, hostEvents, received]

theorem Carries.withoutResponse (carries : Carries setup entry callbacks link flight) {response : Response}
    {others : List Response} (first : flight.responses = response :: others) :
    response.token ∈ link.host.pending.outstanding ∧
      Carries setup entry callbacks
        { link with
          host := withoutToken link.host response.token
          toHost := others.map (Response.message (propertySize entry.properties) entry.address setup.address) }
        { flight with responses := others } := by
  have waiting : link.host.pending.outstanding = response.token ::ₘ { flight with responses := others }.tokens := by
    rw [carries.outstanding, Flight.tokens, Flight.tokens, first, List.map_cons, ← Multiset.cons_coe,
      ← Multiset.singleton_add, ← Multiset.singleton_add]
    abel
  have member : response.token ∈ link.host.pending.outstanding := by
    rw [waiting]
    apply Multiset.mem_cons_self
  -- the first slot with the token is freed, whichever request filled it
  have cleared : (withoutToken link.host response.token).pending = link.host.pending.clear response.token :=
    pending_clear link.host response.token
  refine ⟨member, ?_⟩
  constructor
  · exact carries.host.withoutToken response.token
  · show (withoutToken link.host response.token).pending.Accounted
    -- a token that is awaited is not the reserved one
    rw [cleared, carries.accounted.clear_iff]
    rintro ⟨reserved, -⟩
    exact (mem_occupied.mp member).2 reserved
  · exact carries.client
  · exact carries.known
  · exact carries.listed
  · exact carries.properties
  · exact carries.application
  · exact carries.data
  · exact carries.requests
  · intro other inside
    exact carries.responses other (by simp [first, inside])
  · exact carries.toClient
  · rfl
  · show (withoutToken link.host response.token).pending.outstanding = _
    rw [cleared, PendingRequests.clear_outstanding, waiting, Multiset.erase_cons_head]

theorem Carries.collect (carries : Carries setup entry callbacks link flight) {response : Response}
    {others : List Response} (first : flight.responses = response :: others) (trailing : List UInt8) (unset : Nat) :
    ∃ link' event flight', linkStep link (.hostReceive trailing unset) = .ok (link', event) ∧
      link'.toClient = link.toClient ∧
      Moves callbacks entry.properties flight (.hostReceive trailing unset) event flight' ∧
      Carries setup entry callbacks link' flight' := by
  obtain ⟨member, after⟩ := carries.withoutResponse first
  have sized := carries.responses response (by simp [first])
  have long := response.long sized entry.address setup.address
  have received := responseToken_message sized entry.address setup.address trailing unset
  have queued := carries.toHost
  rw [first, List.map_cons] at queued
  obtain ⟨effects, quiet, processed, values⟩ : ∃ effects, sentMessages effects = [] ∧
      sppHostProcessMessage link.host
        (response.message (propertySize entry.properties) entry.address setup.address ++ trailing)
        (messageSize16 (response.message (propertySize entry.properties) entry.address setup.address)) unset =
          .ok (withoutToken link.host response.token, effects, sppStatusOk) ∧
      (effects.filterMap fun
        | .onValueResponse _ id value => some (id, value.take (propertySize entry.properties id).toNat)
        | _ => none) = [response].filterMap Response.value? := by
    cases response with
    | done token => exact ⟨[], rfl, host_setResponse carries.host entry.address member trailing _ long unset, rfl⟩
    | value token id bytes =>
      refine ⟨_, rfl, host_getResponse carries.host entry.address (propertySize entry.properties id) member id bytes
        trailing _ long unset, ?_⟩
      show [(id, (bytes ++ trailing).take (propertySize entry.properties id).toNat)] = [(id, bytes)]
      rw [List.take_left' sized]
  have stepped := link_hostReceive queued processed
  rw [quiet, List.append_nil] at stepped
  obtain ⟨data, requests, responses, lost⟩ := flight
  obtain rfl : responses = response :: others := first
  exact ⟨_, _, _, stepped, rfl, .collect rfl (seen_response received rfl values), after⟩

/-! ## Every step -/

theorem Carries.clientReceive (loads : LoadsWithin callbacks entry.properties)
    (carries : Carries setup entry callbacks link flight) {trailing : List UInt8} {stack : Stack} {link' : Link σ}
    {event : LinkEvent} (done : linkStep link (.clientReceive trailing stack) = .ok (link', event)) :
    ∃ flight', Moves callbacks entry.properties flight (.clientReceive trailing stack) event flight' ∧
      Carries setup entry callbacks link' flight' := by
  have queued := carries.toClient
  cases first : flight.requests with
  | nil =>
    rw [first] at queued
    rw [link_clientReceive_idle queued] at done
    cases done
    exact ⟨flight, .idle rfl (seen_idle _), carries⟩
  | cons request others =>
    cases request with
    | read token id =>
      obtain ⟨_, _, flight', stepped, moves, after⟩ := carries.serve_read loads first trailing stack
      rw [stepped] at done
      cases done
      exact ⟨flight', moves, after⟩
    | write token id value =>
      obtain ⟨_, _, flight', stepped, moves, after⟩ := carries.serve_write first trailing stack
      rw [stepped] at done
      cases done
      exact ⟨flight', moves, after⟩
    | stream token streamType streamId id period => exact carries.serve_stream first done

theorem Carries.hostReceive (carries : Carries setup entry callbacks link flight) (trailing : List UInt8)
    (unset : Nat) :
    ∃ link' event flight', linkStep link (.hostReceive trailing unset) = .ok (link', event) ∧
      link'.toClient = link.toClient ∧
      Moves callbacks entry.properties flight (.hostReceive trailing unset) event flight' ∧
      Carries setup entry callbacks link' flight' := by
  have queued := carries.toHost
  cases first : flight.responses with
  | nil =>
    rw [first] at queued
    exact ⟨link, .idle, flight, link_hostReceive_idle queued, rfl, .idle rfl (seen_idle _), carries⟩
  | cons response others => exact carries.collect first trailing unset

/-- Accesses and deliveries move the flight, when at most eight requests wait. -/
theorem step_moves (loads : LoadsWithin callbacks entry.properties)
    (carries : Carries setup entry callbacks link flight) {action : LinkAction}
    (accesses : action.Accesses entry.address entry.properties) {link' : Link σ} {event : LinkEvent}
    (done : linkStep link action = .ok (link', event))
    (bounded : (requestTokens [event]).length + flight.tokens.card ≤
      (responseTokens [event]).length + sppPendingRequestsMax) :
    ∃ flight', Moves callbacks entry.properties flight action event flight' ∧
      Carries setup entry callbacks link' flight' := by
  cases action with
  | start _ => cases accesses
  | clientReceive trailing stack => exact carries.clientReceive loads done
  | hostReceive trailing unset =>
    obtain ⟨_, _, flight', stepped, -, moves, after⟩ := carries.hostReceive trailing unset
    rw [stepped] at done
    cases done
    exact ⟨flight', moves, after⟩
  | call call =>
    cases call with
    | connectToClient _ | getDefinition _ _ | getPropertyCount _ | processMessage _ _ _ => cases accesses
    | getValue client id =>
      obtain ⟨addressed, listed⟩ := accesses
      rw [carries.paired.getValue_step addressed carries.room] at done
      cases done
      exact @Carries.moves_request _ _ _ _ _ _ carries _ rfl _ (.read link.host.pending.next id) _ rfl
        carries.host.withRequest (pending_request link.host) rfl listed rfl bounded
    | setValue client id value =>
      obtain ⟨⟨addressed, listed⟩, long⟩ := accesses
      rw [carries.paired.setValue_step addressed carries.room listed long] at done
      cases done
      have whole : (value.take (propertySize entry.properties id).toNat).length =
          (propertySize entry.properties id).toNat := List.length_take_of_le long
      exact @Carries.moves_request _ _ _ _ _ _ carries _ rfl _ (.write link.host.pending.next id _) _ rfl
        carries.host.withRequest (pending_request link.host) rfl ⟨listed, whole⟩ rfl bounded
    | startStream client id period streamType stream spare =>
      obtain ⟨place, copy, object, bound, -, -, -, -, -, rfl, rfl⟩ :=
        carries.paired.startStream_step accesses.1 carries.room accesses.2 done
      exact @Carries.moves_request _ _ _ _ _ _ carries _ rfl _
        (.stream link.host.pending.next streamType link.host.streamCount id period) _ rfl
        (carries.host.enterStream place stream object period bound).withRequest (pending_request _) rfl trivial
        rfl bounded

theorem step_exists (loads : LoadsWithin callbacks entry.properties)
    (carries : Carries setup entry callbacks link flight) {action : LinkAction}
    (accesses : action.Accesses entry.address entry.properties) (quiet : action.startsStream = false)
    (noStream : ∀ request ∈ flight.requests, request.lost = 0) :
    ∃ link' event, linkStep link action = .ok (link', event) := by
  cases action with
  | start _ => cases accesses
  | hostReceive trailing unset =>
    obtain ⟨link', event, _, stepped, -⟩ := carries.hostReceive trailing unset
    exact ⟨link', event, stepped⟩
  | clientReceive trailing stack =>
    have queued := carries.toClient
    cases first : flight.requests with
    | nil =>
      rw [first] at queued
      exact ⟨link, .idle, link_clientReceive_idle queued⟩
    | cons request others =>
      cases request with
      | read token id =>
        obtain ⟨link', event, _, stepped, -⟩ := carries.serve_read loads first trailing stack
        exact ⟨link', event, stepped⟩
      | write token id value =>
        obtain ⟨link', event, _, stepped, -⟩ := carries.serve_write first trailing stack
        exact ⟨link', event, stepped⟩
      | stream token streamType streamId id period =>
        -- the client may have no place left for a stream
        have lost := noStream _ (by rw [first]; apply List.mem_cons_self)
        exact absurd lost (Multiset.singleton_ne_zero token)
  | call call =>
    cases call with
    | connectToClient _ | getDefinition _ _ | getPropertyCount _ | processMessage _ _ _ => cases accesses
    | startStream _ _ _ _ _ _ => cases quiet
    | getValue client id => exact ⟨_, _, carries.paired.getValue_step accesses.1 carries.room id⟩
    | setValue client id value =>
      obtain ⟨⟨addressed, listed⟩, long⟩ := accesses
      exact ⟨_, _, carries.paired.setValue_step addressed carries.room listed long⟩

end Steps

end TvcHopper.Spp
