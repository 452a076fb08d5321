import TvcHopper.Spp.ByteLink
import TvcHopper.Spp.Registers

/-! Properties that are read and written over serial lines.

No message is lost as long as none ends in the footer byte. Then the host sees the
register map of the application through the frames, whatever the order in which
the bytes of the two lines arrive.
-/

set_option autoImplicit false

namespace TvcHopper.Spp
open Machine Machine.Pipeline Machine.Stuffing Stcp

variable {σ : Type}

/-! ## Links that lose nothing -/

/-- The message fits, and does not end in the footer byte. -/
def Plain (message : List UInt8) : Prop := Fits message ∧ message.getLast? ≠ some stcpFooterByte

/-- The bytes are those of the messages of this link, and none is lost. -/
def Steady (bytes : ByteLink σ) (link : Link σ) : Prop := Represents Plain bytes ⟨link, false, false⟩

section Steady
variable {callbacks : StcpCallbacks} {bytes bytes' : ByteLink σ} {link : Link σ} {event : ByteEvent}

theorem endsInFooter_plain {message : List UInt8} (plain : Plain message) : endsInFooter stcpMarks message = false :=
  decide_eq_false plain.2

theorem framedStep_plain (toClient : ∀ message ∈ link.toClient, Plain message)
    (toHost : ∀ message ∈ link.toHost, Plain message) (action : StreamAction) :
    framedStep ⟨link, false, false⟩ action = do
      let (link', event) ← trafficStep link action
      return (⟨link', false, false⟩, event) := by
  cases action with
  | processStreams _ _ _ => rfl
  | link action =>
    cases action with
    | start _ | call _ => rfl
    | clientReceive trailing stack =>
      cases queued : link.toClient with
      | nil => simp only [framedStep, trafficStep, queued, link_clientReceive_idle queued, ok_bind, pure_eq_ok]
      | cons message rest =>
        have plain := endsInFooter_plain (toClient message (queued ▸ List.mem_cons_self))
        simp only [framedStep, trafficStep, queued, plain, Bool.false_eq_true, if_false, bind_assoc, pure_bind]
    | hostReceive trailing unset =>
      cases queued : link.toHost with
      | nil => simp only [framedStep, trafficStep, queued, link_hostReceive_idle queued, ok_bind, pure_eq_ok]
      | cons message rest =>
        have plain := endsInFooter_plain (toHost message (queued ▸ List.mem_cons_self))
        simp only [framedStep, trafficStep, queued, plain, Bool.false_eq_true, if_false, bind_assoc, pure_bind]

theorem Steady.step (steady : Steady bytes link) {action : ByteAction}
    (done : byteStep callbacks bytes action = .ok (bytes', event)) (plain : event.Writes Plain) :
    ∃ abstract, action.Abstracts abstract ∧ Stutters trafficStep Steady link bytes' abstract event.event := by
  obtain ⟨abstract, stands, related⟩ := Represents.step (fun _ plain => plain.1) steady done plain
  refine ⟨abstract, stands, ?_⟩
  cases abstract with
  | none => exact related
  | some action' =>
    obtain ⟨framed, seen, stepped, visible, after⟩ := related
    rw [framedStep_plain steady.toClient.allowed steady.toHost.allowed] at stepped
    simp only [bind_eq_ok, pure_eq_ok, Except.ok.injEq, Prod.mk.injEq, Prod.exists] at stepped
    obtain ⟨link', event', one, rfl, rfl⟩ := stepped
    exact ⟨link', event', one, visible, after⟩

def Link.Plain (link : Link σ) : Prop := ∀ message ∈ link.toClient ++ link.toHost, Spp.Plain message

theorem writeAll_plain (callbacks : StcpCallbacks) {n : Nat} (listener : Listener n) {messages : List (List UInt8)}
    (plain : ∀ message ∈ messages, Plain message) :
    ∃ listener' written, writeAll callbacks listener messages = .ok (listener', written) := by
  obtain ⟨buffers, wrote⟩ := writeAll_spec callbacks listener fun message member => (plain message member).1
  exact ⟨_, _, wrote⟩

/-- A byte can be taken when the link can take the message that it ends. -/
theorem Steady.exists_step (callbacks : StcpCallbacks) (steady : Steady bytes link) {action : ByteAction}
    (possible : ∀ action', action.Abstracts (some action') →
      ∃ link' event', trafficStep link action' = .ok (link', event') ∧ link'.Plain) :
    ∃ bytes' event, byteStep callbacks bytes action = .ok (bytes', event) ∧ event.Writes Plain := by
  cases action with
  | start stack =>
    obtain ⟨link', event', traffic, plain⟩ := possible _ (.start stack)
    obtain ⟨event', stepped, rfl⟩ := traffic_link_inv traffic
    simp only [linkStep, bind_eq_ok, pure_eq_ok, Except.ok.injEq, Prod.mk.injEq] at stepped
    obtain ⟨message, started, rfl, -⟩ := stepped
    -- what the link can send is plain, so it can be written
    have sent : ∀ other ∈ [message], Plain other := fun other member => plain other (by simp_all)
    obtain ⟨vehicle, written, wrote⟩ := writeAll_plain callbacks bytes.vehicle sent
    rw [← steady.client] at started
    refine ⟨{ bytes with vehicle, toHost := bytes.toHost ++ written }, ⟨some (.link .started), [message]⟩, ?_, sent⟩
    simp only [byteStep, started, wrote, ok_bind, pure_eq_ok]
  | processStreams timestamp elapsedTime stack =>
    obtain ⟨link', event', stepped, plain⟩ := possible _ (.processStreams timestamp elapsedTime stack)
    simp only [trafficStep, bind_eq_ok, pure_eq_ok, Except.ok.injEq, Prod.mk.injEq, Prod.exists] at stepped
    obtain ⟨client, messages, processed, rfl, -⟩ := stepped
    have sent : ∀ other ∈ messages, Plain other := fun other member => plain other (by simp_all)
    obtain ⟨vehicle, written, wrote⟩ := writeAll_plain callbacks bytes.vehicle sent
    rw [← steady.client] at processed
    refine ⟨{ bytes with client, vehicle, toHost := bytes.toHost ++ written }, ⟨some (.processed messages), messages⟩,
      ?_, sent⟩
    simp only [byteStep, processed, wrote, ok_bind, pure_eq_ok]
  | call call =>
    obtain ⟨link', event', traffic, plain⟩ := possible _ (.call call)
    obtain ⟨event', stepped, rfl⟩ := traffic_link_inv traffic
    simp only [linkStep, bind_eq_ok, pure_eq_ok, Except.ok.injEq, Prod.mk.injEq, Prod.exists] at stepped
    obtain ⟨host, hostEvent, called, rfl, -⟩ := stepped
    have sent : ∀ other ∈ sentMessages hostEvent.effects, Plain other := fun other member => plain other (by simp_all)
    obtain ⟨server, written, wrote⟩ := writeAll_plain callbacks bytes.server sent
    have called' : hostCall bytes.host call = .ok (host, hostEvent) := steady.host ▸ called
    refine ⟨{ bytes with host, server, toClient := bytes.toClient ++ written },
      ⟨some (.link (.host hostEvent)), sentMessages hostEvent.effects⟩, ?_, sent⟩
    simp only [byteStep, called', wrote, ok_bind, pure_eq_ok]
  | clientByte stack =>
    cases line : bytes.toClient with
    | nil =>
      refine ⟨bytes, ⟨none, []⟩, ?_, fun _ none => absurd none List.not_mem_nil⟩
      simp only [byteStep, line, pure_eq_ok]
    | cons symbol rest =>
      have transit := steady.toClient
      rw [line] at transit
      -- a byte that ends no message is buffered; else the engine takes the message as the link does
      rcases transit.byte (fun _ plain => plain.1) callbacks (by decide) with ⟨vehicle, heard, -⟩ | handed
      · refine ⟨{ bytes with vehicle, toClient := rest }, ⟨none, []⟩, ?_, fun _ none => absurd none List.not_mem_nil⟩
        simp only [byteStep, line, heard, ok_bind, pure_eq_ok]
      · obtain ⟨payload, others, vehicle, trailing, first, heard, -⟩ := handed
        obtain ⟨link', event', traffic, plain⟩ := possible _ (.clientReceive trailing stack)
        obtain ⟨event', stepped, rfl⟩ := traffic_link_inv traffic
        have queued : link.toClient = payload :: others := first
        simp only [linkStep, queued, bind_eq_ok, pure_eq_ok, Except.ok.injEq, Prod.mk.injEq, Prod.exists] at stepped
        obtain ⟨client, sent, status, processed, rfl, -⟩ := stepped
        have sends : ∀ other ∈ sent, Plain other := fun other member => plain other (by simp_all)
        obtain ⟨vehicle', written, wrote⟩ := writeAll_plain callbacks vehicle sends
        have processed' : sppClientProcessMessage bytes.client (led false payload ++ trailing)
            (UInt16.ofNat (led false payload).length) stack = .ok (client, sent, status) := steady.client ▸ processed
        refine ⟨{ bytes with client, vehicle := vehicle', toClient := rest, toHost := bytes.toHost ++ written },
          ⟨some (.link (.client sent status)), sent⟩, ?_, sends⟩
        simp only [byteStep, line, heard, processed', wrote, ok_bind, pure_eq_ok]
  | hostByte unset =>
    cases line : bytes.toHost with
    | nil =>
      refine ⟨bytes, ⟨none, []⟩, ?_, fun _ none => absurd none List.not_mem_nil⟩
      simp only [byteStep, line, pure_eq_ok]
    | cons symbol rest =>
      have transit := steady.toHost
      rw [line] at transit
      rcases transit.byte (fun _ plain => plain.1) callbacks (by decide) with ⟨server, heard, -⟩ | handed
      · refine ⟨{ bytes with server, toHost := rest }, ⟨none, []⟩, ?_, fun _ none => absurd none List.not_mem_nil⟩
        simp only [byteStep, line, heard, ok_bind, pure_eq_ok]
      · obtain ⟨payload, others, server, trailing, first, heard, -⟩ := handed
        obtain ⟨link', event', traffic, plain⟩ := possible _ (.hostReceive trailing unset)
        obtain ⟨event', stepped, rfl⟩ := traffic_link_inv traffic
        have queued : link.toHost = payload :: others := first
        simp only [linkStep, queued, bind_eq_ok, pure_eq_ok, Except.ok.injEq, Prod.mk.injEq, Prod.exists] at stepped
        obtain ⟨host, hostEvent, called, rfl, -⟩ := stepped
        have sends : ∀ other ∈ sentMessages hostEvent.effects, Plain other :=
          fun other member => plain other (by simp_all)
        obtain ⟨server', written, wrote⟩ := writeAll_plain callbacks server sends
        have called' : hostCall bytes.host (.processMessage (led false payload ++ trailing)
            (UInt16.ofNat (led false payload).length) unset) = .ok (host, hostEvent) := steady.host ▸ called
        refine ⟨{ bytes with host, server := server', toHost := rest, toClient := bytes.toClient ++ written },
          ⟨some (.link (.host hostEvent)), sentMessages hostEvent.effects⟩, ?_, sends⟩
        simp only [byteStep, line, heard, called', wrote, ok_bind, pure_eq_ok]

end Steady

/-! ## Requests and responses whose messages are plain -/

def PlainValue (value : List UInt8) : Prop := value.getLast? ≠ some stcpFooterByte

instance : DecidablePred PlainValue := fun _ => inferInstanceAs (Decidable (_ ≠ _))

/-- The longest frame has room, and no id ends in the footer byte. -/
def PlainProperties (properties : List SppPropertyDefinition) : Prop :=
  ∀ pd ∈ properties, pd.size.toNat ≤ 53 ∧ PlainValue (bytes16 pd.id)

instance : DecidablePred PlainProperties := fun _ => inferInstanceAs (Decidable (∀ _ ∈ _, _))

theorem fits_of_length {message : List UInt8} (short : message.length ≤ 62) : Fits message := by
  have special : message.countP (stcpMarks.IsMark ·) ≤ message.length := List.countP_le_length
  have room : maxPayloadLength = 128 := rfl
  simp only [Fits, escapedLength]
  omega

theorem plain_message (front : List UInt8) {id : UInt16} {value : List UInt8} (short : front.length + value.length ≤ 60)
    (plainId : PlainValue (bytes16 id)) (plainValue : PlainValue value) : Plain (front ++ (bytes16 id ++ value)) := by
  refine ⟨fits_of_length ?_, ?_⟩
  · rw [List.length_append, List.length_append, length_bytes16]
    omega
  · have some_bytes : bytes16 id ++ value ≠ [] := by simp [bytes16]
    rw [List.getLast?_append_of_ne_nil _ some_bytes]
    by_cases none : value = []
    · rw [none, List.append_nil]
      exact plainId
    · rw [List.getLast?_append_of_ne_nil _ none]
      exact plainValue

theorem PlainProperties.listed {properties : List SppPropertyDefinition} (plain : PlainProperties properties)
    {id : UInt16} (listed : ∃ pd ∈ properties, pd.id = id) :
    (propertySize properties id).toNat ≤ 53 ∧ PlainValue (bytes16 id) := by
  obtain ⟨pd, found, size⟩ := find_listed listed
  have same : pd.id = id := by simpa using List.find?_some found
  rw [size, ← same]
  exact plain pd (List.mem_of_find?_eq_some found)

def Operation.Plain : Operation → Prop
  | .write _ value => PlainValue value
  | _ => True

instance : DecidablePred Operation.Plain
  | .write _ value => inferInstanceAs (Decidable (PlainValue value))
  | .read _ | .stream => .isTrue trivial

/-- What is in flight, and what the application would answer, does not end in the footer byte. -/
structure PlainFlight (callbacks : SppClientCallbacks σ) (properties : List SppPropertyDefinition) (flight : Flight σ) :
    Prop where
  data : ∀ pd ∈ properties, PlainValue (contents callbacks flight.data pd.id)
  requests : ∀ request ∈ flight.requests, request.operation.Plain
  responses : ∀ response ∈ flight.responses, ∀ entry, response.value? = some entry →
    (∃ pd ∈ properties, pd.id = entry.1) ∧ PlainValue entry.2

section Plain
variable {callbacks : SppClientCallbacks σ} {properties : List SppPropertyDefinition} {flight flight' : Flight σ}

theorem Served.plain (map : RegisterMap callbacks properties) {data data' : σ} {request : Request}
    {served : List Response} (serves : Served callbacks properties data request data' served)
    (plain : ∀ pd ∈ properties, PlainValue (contents callbacks data pd.id)) (operation : request.operation.Plain) :
    (∀ pd ∈ properties, PlainValue (contents callbacks data' pd.id)) ∧
      ∀ response ∈ served, ∀ entry, response.value? = some entry →
        (∃ pd ∈ properties, pd.id = entry.1) ∧ PlainValue entry.2 := by
  cases serves with
  | read token id behind listed whole =>
    obtain ⟨pd, member, rfl⟩ := listed
    rw [map.loads data pd member, propertySize_unique map.unique member] at whole
    obtain rfl : behind = [] := List.length_eq_zero_iff.mp (by omega)
    constructor
    · intro other inside
      rw [contents, map.keeps data pd member other inside]
      exact plain other inside
    · intro response inside entry brings
      obtain rfl := List.mem_singleton.mp inside
      obtain rfl := Option.some.inj brings
      rw [List.append_nil]
      exact ⟨⟨pd, member, rfl⟩, plain pd member⟩
  | write token id value trailing listed =>
    obtain ⟨⟨pd, member, rfl⟩, whole⟩ := listed
    rw [propertySize_unique map.unique member] at whole
    constructor
    · intro other inside
      rw [contents, map.stores data pd member value trailing whole other inside]
      split
      · exact operation
      · exact plain other inside
    · intro response inside entry brings
      obtain rfl := List.mem_singleton.mp inside
      cases brings
  | stream token streamType streamId id period => exact ⟨plain, fun _ none => absurd none List.not_mem_nil⟩

theorem Moves.plain (map : RegisterMap callbacks properties) {action : LinkAction} {event : LinkEvent}
    (moves : Moves callbacks properties flight action event flight') (plain : PlainFlight callbacks properties flight)
    (writes : ∀ operation, action.operation (propertySize properties) = some operation → operation.Plain) :
    PlainFlight callbacks properties flight' := by
  cases moves with
  | submit request operation seen =>
    refine ⟨plain.data, List.forall_mem_append.mpr ⟨plain.requests, ?_⟩, plain.responses⟩
    intro other member
    obtain rfl := List.mem_singleton.mp member
    exact writes _ operation
  | serve operation serves seen =>
    obtain ⟨first, others⟩ := List.forall_mem_cons.mp plain.requests
    obtain ⟨data, served⟩ := serves.plain map plain.data first
    exact ⟨data, others, List.forall_mem_append.mpr ⟨plain.responses, served⟩⟩
  | collect operation seen => exact ⟨plain.data, plain.requests, (List.forall_mem_cons.mp plain.responses).2⟩
  | idle operation seen => exact plain

theorem Carries.plain {setup : HostSetup} {entry : Joined} {link : Link σ}
    (carries : Carries setup entry callbacks link flight) (properties : PlainProperties entry.properties)
    (plain : PlainFlight callbacks entry.properties flight) (quiet : flight.streams = 0) : link.Plain := by
  rw [Link.Plain, carries.toClient, carries.toHost]
  refine List.forall_mem_append.mpr ⟨?_, ?_⟩
  · rw [List.forall_mem_map]
    intro request member
    have listed := carries.requests request member
    have operation := plain.requests request member
    have noStream := Flight.noStream quiet request member
    cases request with
    | read token id =>
      obtain ⟨-, plainId⟩ := properties.listed listed
      have message := plain_message [sppMsgSyncWord, sppMsgGetRequestId, setup.address, entry.address, token]
        (by decide : 5 + ([] : List UInt8).length ≤ 60) plainId nofun
      rwa [List.append_nil] at message
    | write token id value =>
      obtain ⟨small, plainId⟩ := properties.listed listed.1
      have whole : value.length = (propertySize entry.properties id).toNat := listed.2
      refine plain_message [sppMsgSyncWord, sppMsgSetRequestId, setup.address, entry.address, token,
        propertySize entry.properties id] ?_ plainId operation
      rw [whole]
      exact Nat.le_trans (Nat.add_le_add_left small 6) (by decide)
    | stream token streamType streamId id period => exact absurd noStream (Multiset.singleton_ne_zero token)
  · rw [List.forall_mem_map]
    intro response member
    have sized := carries.responses response member
    cases response with
    | value token id bytes =>
      obtain ⟨listed, plainBytes⟩ := plain.responses _ member (id, bytes) rfl
      obtain ⟨small, plainId⟩ := properties.listed listed
      have whole : bytes.length = (propertySize entry.properties id).toNat := sized
      refine plain_message [sppMsgSyncWord, sppMsgGetResponseId, entry.address, setup.address, token, sppStatusOk,
        propertySize entry.properties id] ?_ plainId plainBytes
      rw [whole]
      exact Nat.add_le_add_left small 7
    | done token =>
      have ends : (Message.setResponse entry.address setup.address token).getLast? = some sppStatusOk := rfl
      refine ⟨fits_of_length (by decide : 6 ≤ 62), ?_⟩
      rw [Response.message, ends]
      decide

end Plain

/-! ## Runs over the lines -/

def ByteAction.operation (size : UInt16 → UInt8) : ByteAction → Option Operation
  | .call request => LinkAction.operation size (.call request)
  | _ => none

/-- Reads and writes of listed properties of the client with this address, and deliveries. -/
def ByteAction.Accesses (address : UInt8) (properties : List SppPropertyDefinition) : ByteAction → Prop
  | .call request =>
    LinkAction.Accesses address properties (.call request) ∧ LinkAction.startsStream (.call request) = false
  | .start _ | .processStreams .. => False
  | .clientByte _ | .hostByte _ => True

/-- No request is made while eight are not answered. -/
def CallHasRoom (bytes : ByteLink σ) : ByteAction → Prop
  | .call _ => bytes.host.pendingRequestCount.toNat < sppPendingRequestsMax
  | _ => True

theorem ByteAction.Abstracts.operation {action : ByteAction} {abstract : Option LinkAction}
    (stands : action.Abstracts (abstract.map .link)) (size : UInt16 → UInt8) :
    abstract.toList.filterMap (·.operation size) = [action].filterMap (·.operation size) := by
  cases abstract with
  | none => cases stands <;> rfl
  | some action' => cases stands <;> rfl

theorem ByteAction.Abstracts.accesses {action : ByteAction} {action' : StreamAction} {address : UInt8}
    {properties : List SppPropertyDefinition} (stands : action.Abstracts (some action'))
    (accesses : action.Accesses address properties) :
    ∃ linkAction : LinkAction, action' = .link linkAction ∧ linkAction.Accesses address properties ∧
      linkAction.startsStream = false := by
  cases stands with
  | start _ | processStreams _ _ _ => cases accesses
  | call _ => exact ⟨_, rfl, accesses⟩
  | clientReceive _ _ | hostReceive _ _ => exact ⟨_, rfl, trivial, rfl⟩

theorem requestTokens_length (event : LinkEvent) : (requestTokens [event]).length ≤ 1 :=
  (List.length_filterMap_le ..).trans (List.length_filterMap_le ..)

theorem requestTokens_delivery {link link' : Link σ} {action : LinkAction} {event : LinkEvent}
    (delivery : action.isDelivery = true) (done : linkStep link action = .ok (link', event)) :
    requestTokens [event] = [] := by
  cases action with
  | start _ | call _ => cases delivery
  | clientReceive trailing stack =>
    cases queued : link.toClient with
    | nil =>
      rw [link_clientReceive_idle queued] at done
      obtain ⟨-, rfl⟩ := Prod.mk.inj (Except.ok.inj done)
      rfl
    | cons message rest =>
      simp only [linkStep, queued, bind_eq_ok, pure_eq_ok, Except.ok.injEq, Prod.mk.injEq, Prod.exists] at done
      obtain ⟨_, _, _, -, -, rfl⟩ := done
      rfl
  | hostReceive trailing unset =>
    cases queued : link.toHost with
    | nil =>
      rw [link_hostReceive_idle queued] at done
      obtain ⟨-, rfl⟩ := Prod.mk.inj (Except.ok.inj done)
      rfl
    | cons message rest =>
      simp only [linkStep, queued, bind_eq_ok, pure_eq_ok, Except.ok.injEq, Prod.mk.injEq, Prod.exists] at done
      obtain ⟨host, hostEvent, called, -, rfl⟩ := done
      have same := (hostCall_eq_ok.mp called).2
      simp [requestTokens, hostEvents, HostEvent.sentToken, HostEvent.isRequested, same, HostCall.isRequest]

section Serial
variable {setup : HostSetup} {entry : Joined} {callbacks : SppClientCallbacks σ} {bytes : ByteLink σ} {link : Link σ}
  {flight : Flight σ}

theorem Carries.bound (carries : Carries setup entry callbacks link flight) (steady : Steady bytes link)
    {action : ByteAction} {action' : LinkAction} (stands : action.Abstracts (some (.link action')))
    (room : CallHasRoom bytes action) (accesses : action.Accesses entry.address entry.properties)
    {link' : Link σ} {event : LinkEvent} (done : linkStep link action' = .ok (link', event)) :
    (requestTokens [event]).length + flight.tokens.card ≤ (responseTokens [event]).length + sppPendingRequestsMax := by
  have counted : bytes.host.pendingRequestCount.toNat = flight.tokens.card := by
    rw [steady.host, ← carries.outstanding]
    exact carries.accounted.count_eq
  have bounded : flight.tokens.card ≤ sppPendingRequestsMax := by
    rw [← carries.outstanding, ← carries.accounted.count_eq]
    exact carries.accounted.bounded
  cases stands with
  | start _ => cases accesses
  | call call =>
    have one := requestTokens_length event
    have free : bytes.host.pendingRequestCount.toNat < sppPendingRequestsMax := room
    omega
  | clientReceive _ _ | hostReceive _ _ =>
    rw [requestTokens_delivery rfl done, List.length_nil, Nat.zero_add]
    exact Nat.le_trans bounded (Nat.le_add_left _ _)

/-- One step over the lines: it cannot fail, and moves the flight or is silent. -/
theorem Steady.moves (stcp : StcpCallbacks) (map : RegisterMap callbacks entry.properties)
    (properties : PlainProperties entry.properties) (steady : Steady bytes link)
    (carries : Carries setup entry callbacks link flight) (plain : PlainFlight callbacks entry.properties flight)
    (quiet : flight.streams = 0) (action : ByteAction) (accesses : action.Accesses entry.address entry.properties)
    (writes : ∀ operation, action.operation (propertySize entry.properties) = some operation → operation.Plain)
    (room : CallHasRoom bytes action) :
    ∃ bytes' event, ∃ abstract : Option LinkAction, ∃ link' flight', byteStep stcp bytes action = .ok (bytes', event) ∧
      action.Abstracts (abstract.map .link) ∧
      MovesAlong callbacks entry.properties flight abstract.toList event.linkEvent.toList flight' ∧
      Steady bytes' link' ∧ Carries setup entry callbacks link' flight' ∧
      PlainFlight callbacks entry.properties flight' ∧ flight'.streams = 0 := by
  have loads := map.loadsWithin
  -- what the link makes of a message
  have moved : ∀ action' : LinkAction, action.Abstracts (some (.link action')) →
      ∀ link' event', linkStep link action' = .ok (link', event') →
      ∃ flight', Moves callbacks entry.properties flight action' event' flight' ∧
        Carries setup entry callbacks link' flight' ∧ PlainFlight callbacks entry.properties flight' ∧
        flight'.streams = 0 := by
    intro action' stands link' event' stepped
    obtain ⟨_, same, access, still⟩ := stands.accesses accesses
    cases same
    obtain ⟨flight', moves, after⟩ :=
      step_moves loads carries access stepped (carries.bound steady stands room accesses stepped)
    refine ⟨flight', moves, after, moves.plain map plain ?_, moves.quiet still quiet⟩
    intro operation asked
    cases stands with
    | start _ => cases accesses
    | call _ => exact writes operation asked
    | clientReceive _ _ | hostReceive _ _ => cases asked
  obtain ⟨bytes', event, done, plainEvent⟩ := steady.exists_step stcp fun action' stands => by
    obtain ⟨linkAction, rfl, access, still⟩ := stands.accesses accesses
    obtain ⟨link', event', stepped⟩ := step_exists loads carries access still (Flight.noStream quiet)
    obtain ⟨flight', -, after, plain', quiet'⟩ := moved linkAction stands link' event' stepped
    exact ⟨link', _, traffic_link stepped, after.plain properties plain' quiet'⟩
  obtain ⟨abstract, stands, related⟩ := steady.step done plainEvent
  cases abstract with
  | none =>
    obtain ⟨silent, steady'⟩ := related
    refine ⟨bytes', event, none, link, flight, done, stands, ?_, steady', carries, plain, quiet⟩
    rw [ByteEvent.linkEvent, silent]
    exact .nil flight
  | some action' =>
    obtain ⟨linkAction, rfl, -, -⟩ := stands.accesses accesses
    obtain ⟨link', event', traffic, visible, steady'⟩ := related
    obtain ⟨event', stepped, rfl⟩ := traffic_link_inv traffic
    obtain ⟨flight', moves, after, plain', quiet'⟩ := moved linkAction stands link' event' stepped
    refine ⟨bytes', event, some linkAction, link', flight', done, stands, ?_, steady', after, plain', quiet'⟩
    rw [ByteEvent.linkEvent, visible]
    exact .cons moves (.nil flight')

theorem MovesAlong.append {properties : List SppPropertyDefinition} {middle final : Flight σ}
    {first rest : List LinkAction} {earlier later : List LinkEvent}
    (head : MovesAlong callbacks properties flight first earlier middle)
    (tail : MovesAlong callbacks properties middle rest later final) :
    MovesAlong callbacks properties flight (first ++ rest) (earlier ++ later) final := by
  induction head with
  | nil flight => exact tail
  | cons one _ ih => exact .cons one (ih tail)

theorem Steady.run_moves (stcp : StcpCallbacks) (map : RegisterMap callbacks entry.properties)
    (properties : PlainProperties entry.properties) (steady : Steady bytes link)
    (carries : Carries setup entry callbacks link flight) (plain : PlainFlight callbacks entry.properties flight)
    (quiet : flight.streams = 0) {actions : List ByteAction}
    (accesses : ∀ action ∈ actions, action.Accesses entry.address entry.properties)
    (writes : ∀ operation ∈ actions.filterMap (·.operation (propertySize entry.properties)), operation.Plain)
    (room : EveryAttempt (byteStep stcp) CallHasRoom bytes actions) :
    ∃ bytes' events actions' link' flight', run (byteStep stcp) bytes actions = .ok (bytes', events) ∧
      MovesAlong callbacks entry.properties flight actions' (events.filterMap ByteEvent.linkEvent) flight' ∧
      Steady bytes' link' ∧ Carries setup entry callbacks link' flight' ∧
      PlainFlight callbacks entry.properties flight' ∧ flight'.streams = 0 ∧
      actions'.filterMap (·.operation (propertySize entry.properties)) =
        actions.filterMap (·.operation (propertySize entry.properties)) := by
  induction actions generalizing bytes link flight with
  | nil => exact ⟨bytes, [], [], link, flight, rfl, .nil flight, steady, carries, plain, quiet, rfl⟩
  | cons action rest ih =>
    obtain ⟨here, others⟩ := List.forall_mem_cons.mp accesses
    have writesHere : ∀ operation, action.operation (propertySize entry.properties) = some operation →
        operation.Plain := fun operation asked => writes operation (List.mem_filterMap.mpr ⟨action, by simp, asked⟩)
    have writesLater : ∀ operation ∈ rest.filterMap (·.operation (propertySize entry.properties)), operation.Plain := by
      intro operation member
      obtain ⟨other, inside, asked⟩ := List.mem_filterMap.mp member
      exact writes operation (List.mem_filterMap.mpr ⟨other, List.mem_cons_of_mem action inside, asked⟩)
    obtain ⟨middle, event, abstract, link', flight', one, stands, moves, steady', carries', plain', quiet'⟩ :=
      steady.moves stcp map properties carries plain quiet action here writesHere room.1
    obtain ⟨bytes', events, actions', final, flight'', tail, along, steady'', carries'', plain'', quiet'',
      operations⟩ :=
      ih steady' carries' plain' quiet' others writesLater ((everyAttempt_cons one).mp room).2
    refine ⟨bytes', event :: events, abstract.toList ++ actions', final, flight'',
      run_cons_eq_ok.mpr ⟨_, _, _, one, tail, rfl⟩, ?_, steady'', carries'', plain'', quiet'', ?_⟩
    · have first : (event :: events).filterMap ByteEvent.linkEvent =
          event.linkEvent.toList ++ events.filterMap ByteEvent.linkEvent := by
        rw [List.filterMap_cons]
        cases event.linkEvent <;> rfl
      rw [first]
      exact moves.append along
    · rw [List.filterMap_append, operations, stands.operation, ← List.filterMap_append, List.singleton_append]

/-! ### Draining the lines -/

def ByteAction.isDelivery : ByteAction → Bool
  | .clientByte _ | .hostByte _ => true
  | _ => false

def ByteLink.Drained (bytes : ByteLink σ) : Prop := bytes.toClient = [] ∧ bytes.toHost = []

theorem clientByte_line {stcp : StcpCallbacks} {bytes' : ByteLink σ} {event : ByteEvent} {symbol : UInt8}
    {rest : List UInt8} {stack : Stack} (line : bytes.toClient = symbol :: rest)
    (done : byteStep stcp bytes (.clientByte stack) = .ok (bytes', event)) : bytes'.toClient = rest := by
  simp only [byteStep, line, bind_eq_ok, Prod.exists] at done
  obtain ⟨vehicle, handled, -, done⟩ := done
  cases handled with
  | none =>
    obtain ⟨rfl, -⟩ := Prod.mk.inj (Except.ok.inj done)
    rfl
  | some handled =>
    simp only [bind_eq_ok, pure_eq_ok, Except.ok.injEq, Prod.mk.injEq, Prod.exists] at done
    obtain ⟨_, _, _, -, _, _, -, rfl, -⟩ := done
    rfl

theorem hostByte_line {stcp : StcpCallbacks} {bytes' : ByteLink σ} {event : ByteEvent} {symbol : UInt8}
    {rest : List UInt8} {unset : Nat} (line : bytes.toHost = symbol :: rest)
    (done : byteStep stcp bytes (.hostByte unset) = .ok (bytes', event)) : bytes'.toHost = rest := by
  simp only [byteStep, line, bind_eq_ok, Prod.exists] at done
  obtain ⟨server, handled, -, done⟩ := done
  cases handled with
  | none =>
    obtain ⟨rfl, -⟩ := Prod.mk.inj (Except.ok.inj done)
    rfl
  | some handled =>
    simp only [bind_eq_ok, pure_eq_ok, Except.ok.injEq, Prod.mk.injEq, Prod.exists] at done
    obtain ⟨_, _, -, _, _, -, rfl, -⟩ := done
    rfl

theorem Moves.requests_nil {properties : List SppPropertyDefinition} {flight' : Flight σ} {action : LinkAction}
    {event : LinkEvent} (moves : Moves callbacks properties flight action event flight')
    (delivery : action.isDelivery = true) (none : flight.requests = []) : flight'.requests = [] := by
  cases moves with
  | submit request operation seen =>
    cases action with
    | start _ | call _ => cases delivery
    | clientReceive _ _ | hostReceive _ _ => cases operation
  | serve operation serves seen => cases none
  | collect operation seen => exact none
  | idle operation seen => exact none

theorem MovesAlong.requests_nil {properties : List SppPropertyDefinition} {flight' : Flight σ}
    {actions : List LinkAction} {events : List LinkEvent}
    (moves : MovesAlong callbacks properties flight actions events flight')
    (deliveries : ∀ action ∈ actions, action.isDelivery = true) (none : flight.requests = []) :
    flight'.requests = [] := by
  induction moves with
  | nil flight => exact none
  | cons first _ ih =>
    obtain ⟨here, others⟩ := List.forall_mem_cons.mp deliveries
    exact ih others (first.requests_nil here none)

theorem ByteAction.Abstracts.deliveries {action : ByteAction} {abstract : Option LinkAction}
    (stands : action.Abstracts (abstract.map .link)) (delivery : action.isDelivery = true) :
    ∀ action' ∈ abstract.toList, action'.isDelivery = true := by
  cases abstract with
  | none => exact fun _ none => absurd none List.not_mem_nil
  | some linkAction =>
    intro action' member
    rw [List.mem_singleton.mp member]
    cases stands with
    | start _ | call _ => cases delivery
    | clientReceive _ _ | hostReceive _ _ => rfl

theorem Steady.drain_host (stcp : StcpCallbacks) (map : RegisterMap callbacks entry.properties)
    (properties : PlainProperties entry.properties) (steady : Steady bytes link)
    (carries : Carries setup entry callbacks link flight) (plain : PlainFlight callbacks entry.properties flight)
    (quiet : flight.streams = 0) (empty : bytes.toClient = []) :
    ∃ deliveries bytes' events, (∀ action ∈ deliveries, action.isDelivery = true) ∧
      run (byteStep stcp) bytes deliveries = .ok (bytes', events) ∧ bytes'.Drained := by
  generalize line : bytes.toHost = symbols
  induction symbols generalizing bytes link flight with
  | nil => exact ⟨[], bytes, [], nofun, rfl, empty, line⟩
  | cons symbol rest ih =>
    obtain ⟨middle, event, abstract, link', flight', one, stands, moves, steady', carries', plain', quiet'⟩ :=
      steady.moves stcp map properties carries plain quiet (.hostByte 0) trivial
        (fun _ asked => nomatch asked) trivial
    have transit := steady.toClient
    rw [empty] at transit
    have noRequests : flight.requests = [] := List.map_eq_nil_iff.mp (carries.toClient.symm.trans transit.drained)
    have none := moves.requests_nil (stands.deliveries rfl) noRequests
    have empty' : middle.toClient = [] := by
      have transit' := steady'.toClient
      have queue : link'.toClient = [] := by rw [carries'.toClient, none, List.map_nil]
      simp only [queue] at transit'
      exact transit'.line_empty
    obtain ⟨deliveries, bytes', events, allowed, tail, drained⟩ :=
      ih steady' carries' plain' quiet' empty' (hostByte_line line one)
    exact ⟨.hostByte 0 :: deliveries, bytes', event :: events, List.forall_mem_cons.mpr ⟨rfl, allowed⟩,
      run_cons_eq_ok.mpr ⟨_, _, _, one, tail, rfl⟩, drained⟩

theorem Steady.drain (stcp : StcpCallbacks) (map : RegisterMap callbacks entry.properties)
    (properties : PlainProperties entry.properties) (steady : Steady bytes link)
    (carries : Carries setup entry callbacks link flight) (plain : PlainFlight callbacks entry.properties flight)
    (quiet : flight.streams = 0) :
    ∃ deliveries bytes' events, (∀ action ∈ deliveries, action.isDelivery = true) ∧
      run (byteStep stcp) bytes deliveries = .ok (bytes', events) ∧ bytes'.Drained := by
  generalize line : bytes.toClient = symbols
  induction symbols generalizing bytes link flight with
  | nil => exact steady.drain_host stcp map properties carries plain quiet line
  | cons symbol rest ih =>
    obtain ⟨middle, event, abstract, link', flight', one, stands, moves, steady', carries', plain', quiet'⟩ :=
      steady.moves stcp map properties carries plain quiet (.clientByte fun _ _ => 0) trivial
        (fun _ asked => nomatch asked) trivial
    obtain ⟨deliveries, bytes', events, allowed, tail, drained⟩ :=
      ih steady' carries' plain' quiet' (clientByte_line line one)
    exact ⟨.clientByte (fun _ _ => 0) :: deliveries, bytes', event :: events,
      List.forall_mem_cons.mpr ⟨rfl, allowed⟩, run_cons_eq_ok.mpr ⟨_, _, _, one, tail, rfl⟩, drained⟩

end Serial

/-- The engines of the link, and nothing on the lines or in the listeners. -/
structure ByteLink.Joins (bytes : ByteLink σ) (link : Link σ) : Prop where
  host : bytes.host = link.host
  client : bytes.client = link.client
  lines : bytes.Drained
  server : bytes.server.msgIdx = 0
  vehicle : bytes.vehicle.msgIdx = 0

theorem ByteLink.Joins.steady {bytes : ByteLink σ} {link : Link σ} (joins : bytes.Joins link) (drained : link.Drained) :
    Steady bytes link := by
  refine ⟨joins.host, joins.client, ?_, ?_⟩
  · rw [joins.lines.1, drained.1]
    exact inTransit_idle Plain joins.vehicle
  · rw [joins.lines.2, drained.2]
    exact inTransit_idle Plain joins.server

/-- Reads and writes over serial lines never fail, whatever the order in which the bytes arrive, and the values that
come back are those that a register map gives: the answers so far at any time, and all of them when the lines are
empty, which they can always become. -/
theorem serial_registers {setup : HostSetup} {clientParams : SppClientEngineInitParams σ} {address : UInt8}
    {link : Link σ} (connected : Connected setup clientParams address link)
    (map : RegisterMap clientParams.callbacks clientParams.properties)
    (properties : PlainProperties clientParams.properties)
    (initial : ∀ pd ∈ clientParams.properties,
      PlainValue (contents clientParams.callbacks clientParams.instanceData pd.id))
    (stcp : StcpCallbacks) {bytes : ByteLink σ} (joins : bytes.Joins link) {actions : List ByteAction}
    (accesses : ∀ action ∈ actions, action.Accesses address clientParams.properties)
    (writes : ∀ operation ∈ actions.filterMap (·.operation (propertySize clientParams.properties)), operation.Plain)
    (room : EveryAttempt (byteStep stcp) CallHasRoom bytes actions) :
    ∃ bytes' events, run (byteStep stcp) bytes actions = .ok (bytes', events) ∧
      let values := valuesReceived (propertySize clientParams.properties) (events.filterMap ByteEvent.linkEvent)
      let expected := readBack (contents clientParams.callbacks clientParams.instanceData)
        (actions.filterMap (·.operation (propertySize clientParams.properties)))
      (∀ event ∈ events.filterMap ByteEvent.linkEvent, event.succeeded) ∧ values <+: expected ∧
        (bytes'.Drained → values = expected) ∧
        ∃ deliveries final later, (∀ action ∈ deliveries, action.isDelivery = true) ∧
          run (byteStep stcp) bytes' deliveries = .ok (final, later) ∧ final.Drained := by
  have plain : PlainFlight clientParams.callbacks clientParams.properties
      ⟨clientParams.instanceData, [], [], 0⟩ :=
    ⟨initial, fun _ none => absurd none List.not_mem_nil, fun _ none => absurd none List.not_mem_nil⟩
  obtain ⟨bytes', events, actions', link', flight', done, moves, steady, carries, plain', quiet', operations⟩ :=
    (joins.steady connected.drained).run_moves stcp map properties connected.carries plain rfl accesses writes room
  have start : Mirrors clientParams.callbacks clientParams.properties ⟨clientParams.instanceData, [], [], 0⟩
      ⟨contents clientParams.callbacks clientParams.instanceData, [], []⟩ := ⟨fun _ _ => rfl, rfl, rfl⟩
  obtain ⟨steps, submits, values, mirrors⟩ := moves.simulated map start
  refine ⟨bytes', events, done, moves.succeeded, ?_, ?_, steady.drain stcp map properties carries plain' quiet'⟩
  · rw [← values, ← values_answers, ← operations, ← submits]
    exact (collected_initially serveRegister rfl).filterMap id
  · intro drained
    have toClient := steady.toClient
    have toHost := steady.toHost
    rw [drained.1] at toClient
    rw [drained.2] at toHost
    obtain ⟨noRequests, noResponses⟩ := carries.drained ⟨toClient.drained, toHost.drained⟩
    rw [← values, ← values_answers, ← operations, ← submits]
    congr 1
    apply collected_all serveRegister rfl
    · rw [mirrors.requests, noRequests]
      rfl
    · rw [mirrors.responses, noResponses]
      rfl

theorem callHasRoom_deliveries (stcp : StcpCallbacks) (bytes : ByteLink σ) {actions : List ByteAction}
    (deliveries : ∀ action ∈ actions, action.isDelivery = true) :
    EveryAttempt (byteStep stcp) CallHasRoom bytes actions := by
  induction actions generalizing bytes with
  | nil => trivial
  | cons action rest ih =>
    obtain ⟨here, others⟩ := List.forall_mem_cons.mp deliveries
    constructor
    · cases action with
      | start _ | processStreams _ _ _ | call _ => cases here
      | clientByte _ | hostByte _ => trivial
    · split
      · exact ih _ others
      · trivial

def serialRead : List ByteAction :=
  .call (.getValue ⟨.external [0x01], 0⟩ 0xAB) ::
    (.replicate 10 (.clientByte fun _ _ => 0) ++ .replicate 14 (.hostByte 0))

theorem serial_registers_read :
    ∃ bytes bytes' : ByteLink PropertyValues, ∃ events,
      run (byteStep ⟨fun _ => 0, fun _ _ => 0⟩) bytes serialRead = .ok (bytes', events) ∧
      let values := valuesReceived (propertySize setupClientParams.properties) (events.filterMap ByteEvent.linkEvent)
      let expected := readBack (contents setupClientParams.callbacks setupClientParams.instanceData)
        (serialRead.filterMap (·.operation (propertySize setupClientParams.properties)))
      (∀ event ∈ events.filterMap ByteEvent.linkEvent, event.succeeded) ∧ values <+: expected ∧
        (bytes'.Drained → values = expected) ∧
        ∃ deliveries final later, (∀ action ∈ deliveries, action.isDelivery = true) ∧
          run (byteStep ⟨fun _ => 0, fun _ _ => 0⟩) bytes' deliveries = .ok (final, later) ∧ final.Drained := by
  obtain ⟨link, connected⟩ := connected_exists
  let bytes : ByteLink PropertyValues := ⟨link.host, link.client, idleListener 512, idleListener 256, [], []⟩
  have none_pending : link.host.pendingRequestCount.toNat = 0 := by
    have carries := connected.carries
    have count := carries.accounted.count_eq
    rw [carries.outstanding] at count
    exact count
  have room : EveryAttempt (byteStep ⟨fun _ => 0, fun _ _ => 0⟩) CallHasRoom bytes serialRead := by
    constructor
    · show link.host.pendingRequestCount.toNat < sppPendingRequestsMax
      rw [none_pending]
      decide
    · split
      · exact callHasRoom_deliveries _ _ (by decide)
      · trivial
  have accesses : ∀ action ∈ serialRead, action.Accesses 0x01 plist := by
    simp [serialRead, ByteAction.Accesses, LinkAction.Accesses, Addressed, plist, LinkAction.startsStream]
  exact ⟨bytes, serial_registers connected (registerMap_variables (by decide)) (by decide) (by decide) _
    ⟨rfl, rfl, ⟨rfl, rfl⟩, rfl, rfl⟩ accesses (by decide) room⟩

end TvcHopper.Spp
