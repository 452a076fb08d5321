import TvcHopper.Spp.Emissions

/-! What the streams of a link deliver.

Next to the link stand the streams that the host started and, for each message
on its way to the host, the value that was emitted in it. The stream table of
the client, with the stream requests that it has not taken yet, is at any time
the stream table of the host.
-/

set_option autoImplicit false

namespace TvcHopper.Spp
open Machine

variable {σ : Type}

/-! ## Links with streams -/

/-- The link, the property ids and objects of the started streams, and the emissions on their way. -/
structure StreamLink (σ : Type) where
  link : Link σ
  started : List (UInt16 × Nat)
  emitted : List (Option Emission)

/-- A start that succeeds is recorded. -/
def startedAfter (started : List (UInt16 × Nat)) : LinkEvent → List (UInt16 × Nat)
  | .host ⟨.startStream _ id _ _ stream _, _, status⟩ =>
    if status = sppStatusOk then started ++ [(id, stream)] else started
  | _ => started

/-- No other function of the client emits values. -/
def emittedAfter (emitted : List (Option Emission)) (action : LinkAction) (event : LinkEvent) :
    List (Option Emission) :=
  match action, event with
  | .hostReceive .., _ => emitted.tail
  | _, .client sent _ => emitted ++ sent.map fun _ => none
  | _, .started => emitted ++ [none]
  | _, _ => emitted

def streamStep (state : StreamLink σ) : StreamAction → Except Fault (StreamLink σ × StreamEvent)
  | .link action => do
    let (link, event) ← linkStep state.link action
    return (⟨link, startedAfter state.started event, emittedAfter state.emitted action event⟩, .link event)
  | .processStreams timestamp elapsedTime stack => do
    let (client, sent) ← sppProcessStreams state.link.client timestamp elapsedTime stack
    let (_, emissions) ← recordStreams state.link.client timestamp elapsedTime stack
    return (⟨{ state.link with client, toHost := state.link.toHost ++ sent }, state.started,
      state.emitted ++ emissions.map some⟩, .processed sent)

/-- Requests on listed properties, deliveries and calls of `SppProcessStreams`. -/
def StreamAction.Accesses (address : UInt8) (properties : List SppPropertyDefinition) : StreamAction → Prop
  | .link action => action.Accesses address properties
  | .processStreams .. => True

def StreamAction.object : StreamAction → Option Nat
  | .link (.call (.startStream _ _ _ _ stream _)) => some stream
  | _ => none

/-- A start that is not refused is one of the first sixteen, and its pointer is to an object. -/
def InPlace (state : StreamLink σ) : StreamAction → Prop
  | .link (.call (.startStream _ _ _ _ stream _)) => ¬state.link.host.pendingRequestCount > 8 →
      state.started.length < sppStreamMaxCount ∧ stream < state.link.host.streamObjects.length
  | _ => True

/-- A start that is not refused finds a byte behind its message, which is one byte longer than the array for it; a
stream request has a byte behind it, which the client reads as the last one of the period. -/
def Spared (state : StreamLink σ) : StreamAction → Prop
  | .link (.call (.startStream _ _ _ _ _ spare)) => ¬state.link.host.pendingRequestCount > 8 → 0 < spare
  | .link (.clientReceive trailing _) =>
      ∀ message, state.link.toClient.head? = some message → message[1]? = some sppMsgStreamRequestId → trailing ≠ []
  | _ => True

/-- If the next message to the host is a stream message, `OnStreamResponse` gets the time and the value of what was
emitted in it, and the object that was started with its property. -/
structure Delivers (state : StreamLink σ) : Prop where
  tracked : state.emitted.length = state.link.toHost.length
  next : ∀ message rest, state.link.toHost = message :: rest → message[1]? = some sppMsgStreamId →
    ∃ emission object, state.emitted.head? = some (some emission) ∧
      state.started[emission.streamId.toNat]? = some (emission.id, object) ∧
      ∀ trailing unset, ∃ state' stream,
        streamStep state (.link (.hostReceive trailing unset)) = .ok (state', .link (.host
          ⟨.processMessage (message ++ trailing) (messageSize16 message) unset,
            [.onStreamResponse emission.timestamp stream], sppStatusOk⟩)) ∧
        state'.link.host.streamObjects[object]? = some stream ∧ stream.streamId = emission.streamId ∧
        stream.value = some (emission.value ++ trailing) ∧
        ∃ place copy, stream.definition = some place ∧ state.link.host.defsBuffer[place]? = some copy ∧
          copy.id = emission.id ∧ copy.size.toNat = emission.value.length

/-! ## What is in flight -/

inductive HostMessage where
  | response (response : Response)
  | stream (emission : Emission)

namespace HostMessage

def emission? : HostMessage → Option Emission
  | .response _ => none
  | .stream emission => some emission

def message (size : UInt16 → UInt8) (client host : UInt8) : HostMessage → List UInt8
  | .response answer => answer.message size client host
  | .stream emission => emission.message client host

end HostMessage

/-- The id and the property of the stream that a request will open. -/
def Request.opens : Request → Option (UInt8 × UInt16)
  | .stream _ _ streamId id _ => some (streamId, id)
  | _ => none

/-- What the engines and the channels hold between two steps. -/
structure Streaming (setup : HostSetup) (entry : Joined) (callbacks : SppClientCallbacks σ) (state : StreamLink σ)
    (opened : List (UInt8 × UInt16)) (requests : List Request) (messages : List HostMessage) : Prop where
  paired : Paired setup entry callbacks state.link
  host : HostStreams (propertySize entry.properties) state.link.host state.started
  client : ClientStreams state.link.client opened
  tables : opened ++ requests.filterMap Request.opens = streamTable state.started
  few : state.started.length ≤ sppStreamMaxCount
  known : ∀ stream ∈ state.started, ∃ pd ∈ entry.properties, pd.id = stream.1
  listed : ∀ request ∈ requests, request.Listed entry.properties
  sized : ∀ response, .response response ∈ messages → response.Sized (propertySize entry.properties)
  sound : ∀ emission, .stream emission ∈ messages → emission.Sound entry.properties (streamTable state.started)
  toClient : state.link.toClient =
    requests.map (Request.message (propertySize entry.properties) setup.address entry.address)
  toHost : state.link.toHost =
    messages.map (HostMessage.message (propertySize entry.properties) entry.address setup.address)
  emitted : state.emitted = messages.map HostMessage.emission?

section Steps
variable {setup : HostSetup} {entry : Joined} {callbacks : SppClientCallbacks σ} {state : StreamLink σ}
  {opened : List (UInt8 × UInt16)} {requests : List Request} {messages : List HostMessage}

theorem Emission.Sound.mono {properties : List SppPropertyDefinition} {emission : Emission}
    {opened' : List (UInt8 × UInt16)} (sound : emission.Sound properties opened) (more : opened ⊆ opened') :
    emission.Sound properties opened' := ⟨more sound.opened, sound.whole⟩

theorem Streaming.submit (streaming : Streaming setup entry callbacks state opened requests messages)
    {request : Request} (listed : request.Listed entry.properties) (other : request.opens = none) :
    Streaming setup entry callbacks
      { state with link := { state.link with
        host := withRequest state.link.host
        toClient := state.link.toClient ++
          [request.message (propertySize entry.properties) setup.address entry.address] } }
      opened (requests ++ [request]) messages where
  paired := streaming.paired.withHost streaming.paired.host.withRequest _ _
  host := streaming.host.withRequest
  client := streaming.client
  tables := by
    rw [List.filterMap_append, List.filterMap_cons_none other, List.filterMap_nil, List.append_nil]
    exact streaming.tables
  few := streaming.few
  known := streaming.known
  listed := List.forall_mem_append.mpr ⟨streaming.listed, by simpa using listed⟩
  sized := streaming.sized
  sound := streaming.sound
  toClient := by
    rw [streaming.toClient, List.map_append]
    rfl
  toHost := streaming.toHost
  emitted := streaming.emitted

theorem Streaming.start (streaming : Streaming setup entry callbacks state opened requests messages)
    {id : UInt16} {place stream : Nat} {object : SppStream} {copy : SppPropertyDefinition}
    (bound : state.link.host.streamCount.toNat < sppStreamMaxCount)
    (new : stream ∉ state.started.map Prod.snd) (here : state.link.host.streamObjects[stream]? = some object)
    (stored : state.link.host.defsBuffer[place]? = some copy) (named : copy.id = id)
    (sized : copy.size = propertySize entry.properties id) (listed : ∃ pd ∈ entry.properties, pd.id = id)
    (period : UInt16) (token streamType : UInt8) :
    Streaming setup entry callbacks
      { state with
        link := { state.link with
          host := withRequest (enterStream state.link.host place stream object period bound)
          toClient := state.link.toClient ++ [Message.streamRequest setup.address entry.address token streamType
            state.link.host.streamCount id period] }
        started := state.started ++ [(id, stream)] }
      opened (requests ++ [.stream token streamType state.link.host.streamCount id period]) messages where
  paired := streaming.paired.withHost
    (streaming.paired.host.enterStream place stream object period bound).withRequest _ _
  host := (streaming.host.enter period bound new here stored named sized).withRequest
  client := streaming.client
  tables := by
    rw [streamTable_snoc, ← streaming.tables, ← streaming.host.count, UInt8.ofNat_toNat, List.filterMap_append,
      List.append_assoc]
    rfl
  few := by
    have count := streaming.host.count
    rw [List.length_append, List.length_singleton]
    omega
  known := List.forall_mem_append.mpr ⟨streaming.known, by simpa using listed⟩
  listed := List.forall_mem_append.mpr ⟨streaming.listed, by simp [Request.Listed]⟩
  sized := streaming.sized
  sound emission member := by
    apply (streaming.sound emission member).mono
    rw [streamTable_snoc]
    apply List.subset_append_left
  toClient := by
    rw [streaming.toClient, List.map_append]
    rfl
  toHost := streaming.toHost
  emitted := streaming.emitted

theorem Streaming.answer {request : Request} {others : List Request}
    (streaming : Streaming setup entry callbacks state opened (request :: others) messages)
    (other : request.opens = none) {response : Response} (sized : response.Sized (propertySize entry.properties))
    (instanceData : σ) :
    Streaming setup entry callbacks
      { state with
        link := { state.link with
          client := { state.link.client with instanceData }
          toClient := others.map (Request.message (propertySize entry.properties) setup.address entry.address)
          toHost := state.link.toHost ++
            [response.message (propertySize entry.properties) entry.address setup.address] }
        emitted := state.emitted ++ [none] }
      opened others (messages ++ [.response response]) where
  paired := streaming.paired.withClient instanceData _ _ _ _
  host := streaming.host
  client := ⟨streaming.client.count, streaming.client.entries⟩
  tables := by
    rw [← streaming.tables, List.filterMap_cons_none other]
  few := streaming.few
  known := streaming.known
  listed := (List.forall_mem_cons.mp streaming.listed).2
  sized response' member := by
    rcases List.mem_append.mp member with member | last
    · exact streaming.sized response' member
    · cases List.mem_singleton.mp last
      exact sized
  sound emission member := by
    rcases List.mem_append.mp member with member | last
    · exact streaming.sound emission member
    · cases List.mem_singleton.mp last
  toClient := rfl
  toHost := by
    rw [streaming.toHost, List.map_append]
    rfl
  emitted := by
    rw [streaming.emitted, List.map_append]
    rfl

theorem Streaming.opening {token streamType streamId : UInt8} {id period : UInt16} {others : List Request}
    (streaming : Streaming setup entry callbacks state opened
      (.stream token streamType streamId id period :: others) messages) :
    ∃ place, Client.sppGetDefinition state.link.client id = .ok (some place) ∧
      ∀ (period' : UInt16) (bound : state.link.client.streamCount.toNat < sppStreamMaxCount),
        Streaming setup entry callbacks
          { state with link := { state.link with
            client := openStream state.link.client (some place) streamType streamId period' bound
            toClient :=
              others.map (Request.message (propertySize entry.properties) setup.address entry.address) } }
          (opened ++ [(streamId, id)]) others messages := by
  have tables : opened ++ (streamId, id) :: others.filterMap Request.opens = streamTable state.started :=
    streaming.tables
  -- the host checked that the property is listed
  have member : (streamId, id) ∈ streamTable state.started := by
    rw [← tables]
    simp
  obtain ⟨object, started⟩ := mem_streamTable streaming.few member
  have listed := streaming.known _ (List.mem_of_getElem? started)
  obtain ⟨pd, found, -⟩ := find_listed listed
  rw [← streaming.paired.properties] at found
  obtain ⟨place, looked, here⟩ := sppGetDefinition_found streaming.paired.listed found
  refine ⟨place, looked, fun period' bound => ?_⟩
  constructor
  · exact streaming.paired.withClient state.link.client.instanceData _ _ _ _
  · exact streaming.host
  · exact streaming.client.openStream here found streamType period' bound
  · rw [List.append_assoc]
    exact tables
  · exact streaming.few
  · exact streaming.known
  · exact (List.forall_mem_cons.mp streaming.listed).2
  · exact streaming.sized
  · exact streaming.sound
  · rfl
  · exact streaming.toHost
  · exact streaming.emitted

theorem Streaming.receive {first : HostMessage} {others : List HostMessage}
    (streaming : Streaming setup entry callbacks state opened requests (first :: others)) {host : SppHostEngine}
    (holds : HostHolds setup host [entry]) (streams : HostStreams (propertySize entry.properties) host state.started) :
    Streaming setup entry callbacks
      { state with
        link := { state.link with
          host
          toHost := others.map (HostMessage.message (propertySize entry.properties) entry.address setup.address) }
        emitted := state.emitted.tail }
      opened requests others where
  paired := streaming.paired.withHost holds _ _
  host := streams
  client := streaming.client
  tables := streaming.tables
  few := streaming.few
  known := streaming.known
  listed := streaming.listed
  sized response member := streaming.sized response (List.mem_cons_of_mem _ member)
  sound emission member := streaming.sound emission (List.mem_cons_of_mem _ member)
  toClient := streaming.toClient
  toHost := rfl
  emitted := by
    rw [streaming.emitted]
    rfl

theorem Streaming.process (exact : LoadsExactly callbacks entry.properties)
    (streaming : Streaming setup entry callbacks state opened requests messages) (timestamp elapsedTime : UInt32)
    (stack : Stack) :
    ∃ client sent emissions,
      recordStreams state.link.client timestamp elapsedTime stack = .ok ((client, sent), emissions) ∧
        Streaming setup entry callbacks
          ⟨{ state.link with client, toHost := state.link.toHost ++ sent }, state.started,
            state.emitted ++ emissions.map some⟩
          opened requests (messages ++ emissions.map .stream) := by
  have paired := streaming.paired
  obtain ⟨⟨⟨client, sent⟩, emissions⟩, passed, ⟨streams, instanceData, rfl⟩, table, sends, sound⟩ :=
    recordStreams_spec paired.client paired.known (by rwa [paired.application, paired.properties]) streaming.client
      timestamp elapsedTime stack
  obtain rfl : sent = emissions.map (Emission.message entry.address setup.address) := sends
  rw [paired.properties] at sound
  refine ⟨_, _, emissions, passed, ?_⟩
  constructor
  · exact paired.withClient instanceData streams _ _ _
  · exact streaming.host
  · exact table
  · exact streaming.tables
  · exact streaming.few
  · exact streaming.known
  · exact streaming.listed
  · intro response member
    rcases List.mem_append.mp member with member | member
    · exact streaming.sized response member
    · simp at member
  · intro emission member
    rcases List.mem_append.mp member with member | member
    · exact streaming.sound emission member
    · have fresh : emission ∈ emissions := by simpa using member
      apply (sound emission fresh).mono
      show opened ⊆ streamTable state.started
      rw [← streaming.tables]
      apply List.subset_append_left
  · exact streaming.toClient
  · rw [streaming.toHost, List.map_append, List.map_map]
    rfl
  · rw [streaming.emitted, List.map_append, List.map_map]
    rfl

/-! ## Every step -/

theorem stream_link {action : LinkAction} {link : Link σ} {event : LinkEvent}
    (done : linkStep state.link action = .ok (link, event)) :
    streamStep state (.link action) =
      .ok (⟨link, startedAfter state.started event, emittedAfter state.emitted action event⟩, .link event) := by
  rw [streamStep, done]
  rfl

theorem stream_process {timestamp elapsedTime : UInt32} {stack : Stack} {client : SppClientEngine σ}
    {sent : List (List UInt8)} {emissions : List Emission}
    (passed : recordStreams state.link.client timestamp elapsedTime stack = .ok ((client, sent), emissions)) :
    streamStep state (.processStreams timestamp elapsedTime stack) =
      .ok (⟨{ state.link with client, toHost := state.link.toHost ++ sent }, state.started,
        state.emitted ++ emissions.map some⟩, .processed sent) := by
  rw [streamStep, ← recordStreams_eq, passed]
  rfl

theorem stream_link_inv {action : LinkAction} {state' : StreamLink σ} {event' : StreamEvent}
    (done : streamStep state (.link action) = .ok (state', event')) :
    ∃ link event, linkStep state.link action = .ok (link, event) ∧
      state' = ⟨link, startedAfter state.started event, emittedAfter state.emitted action event⟩ := by
  simp only [streamStep, bind_eq_ok, pure_eq_ok, Except.ok.injEq, Prod.mk.injEq, Prod.exists] at done
  obtain ⟨link, event, stepped, rfl, -⟩ := done
  exact ⟨link, event, stepped, rfl⟩

theorem Emission.message_long {emission : Emission} {properties : List SppPropertyDefinition}
    (sound : emission.Sound properties opened) (address host : UInt8) :
    4 ≤ (messageSize16 (emission.message address host)).toNat := by
  have byte := (propertySize properties emission.id).toNat_lt
  have whole := sound.whole
  have length : (emission.message address host).length = 9 + emission.value.length := by
    simp only [Emission.message, Message.stream, List.length_cons, List.length_append, length_bytes32]
    omega
  apply messageSize16_long <;> omega

theorem Streaming.deliver {emission : Emission} {others : List HostMessage}
    (streaming : Streaming setup entry callbacks state opened requests (.stream emission :: others)) :
    ∃ object, state.started[emission.streamId.toNat]? = some (emission.id, object) ∧
      ∀ trailing unset, ∃ state' stream,
        streamStep state (.link (.hostReceive trailing unset)) = .ok (state', .link (.host
          ⟨.processMessage (emission.message entry.address setup.address ++ trailing)
            (messageSize16 (emission.message entry.address setup.address)) unset,
            [.onStreamResponse emission.timestamp stream], sppStatusOk⟩)) ∧
        state'.link.host.streamObjects[object]? = some stream ∧ stream.streamId = emission.streamId ∧
        stream.value = some (emission.value ++ trailing) ∧
        (∃ place copy, stream.definition = some place ∧ state.link.host.defsBuffer[place]? = some copy ∧
          copy.id = emission.id ∧ copy.size.toNat = emission.value.length) ∧
        state'.started = state.started ∧ Streaming setup entry callbacks state' opened requests others := by
  have sound := streaming.sound emission (List.mem_cons_self ..)
  obtain ⟨object, started⟩ := mem_streamTable streaming.few sound.opened
  obtain ⟨stream, cell, here, streamId, place, copy, defined, stored, named, sized⟩ :=
    streaming.host.entries _ _ _ started
  rw [UInt8.ofNat_toNat] at streamId
  refine ⟨object, started, fun trailing unset => ?_⟩
  have processed := host_stream streaming.paired.host entry.address cell here emission.timestamp emission.value
    trailing (Emission.message_long sound entry.address setup.address) unset
  have queued := streaming.toHost
  rw [List.map_cons] at queued
  refine ⟨_, { stream with value := some (emission.value ++ trailing) },
    stream_link (link_hostReceive queued processed), ?_, streamId, rfl, ⟨place, copy, defined, stored, named, ?_⟩,
    rfl, ?_⟩
  · exact List.getElem?_set_self (List.getElem?_eq_some_iff.mp here).1
  · rw [sized]
    exact sound.whole.symm
  · have after := streaming.receive
      (streaming.paired.host.withStream state.link.host.streamCount state.link.host.streams
        (state.link.host.streamObjects.set object { stream with value := some (emission.value ++ trailing) }))
      (streaming.host.withValue here (emission.value ++ trailing))
    simpa [startedAfter, emittedAfter, sentMessages] using after

theorem Streaming.settle {response : Response} {others : List HostMessage}
    (streaming : Streaming setup entry callbacks state opened requests (.response response :: others))
    (trailing : List UInt8) (unset : Nat) :
    ∃ state' event, streamStep state (.link (.hostReceive trailing unset)) = .ok (state', event) ∧
      state'.started = state.started ∧ Streaming setup entry callbacks state' opened requests others := by
  obtain ⟨effects, status, processed, quiet⟩ := host_response streaming.paired.host entry.address
    (streaming.sized response (List.mem_cons_self ..)) trailing unset
  have queued := streaming.toHost
  rw [List.map_cons] at queued
  refine ⟨_, _, stream_link (link_hostReceive queued processed), rfl, ?_⟩
  have after := streaming.receive (streaming.paired.host.withoutToken response.token)
    (streaming.host.withoutToken response.token)
  simpa [startedAfter, emittedAfter, quiet] using after

theorem Streaming.clientReceive (loads : LoadsWithin callbacks entry.properties)
    (streaming : Streaming setup entry callbacks state opened requests messages) {trailing : List UInt8}
    {stack : Stack} {state' : StreamLink σ} {event : StreamEvent}
    (done : streamStep state (.link (.clientReceive trailing stack)) = .ok (state', event)) :
    state'.started = state.started ∧ ∃ opened' requests' messages',
      Streaming setup entry callbacks state' opened' requests' messages' := by
  obtain ⟨link, event, stepped, rfl⟩ := stream_link_inv done
  have queued := streaming.toClient
  cases requests with
  | nil =>
    rw [link_clientReceive_idle queued] at stepped
    cases stepped
    exact ⟨rfl, opened, [], messages, streaming⟩
  | cons request others =>
    have listed := (List.forall_mem_cons.mp streaming.listed).1
    cases request with
    | read token id =>
      obtain ⟨behind, whole, served⟩ := streaming.paired.read_step loads listed queued trailing stack
      rw [served] at stepped
      cases stepped
      have sized : (Response.value token id
          ((callbacks.getValue state.link.client.instanceData id).2.1 ++ behind)).Sized
            (propertySize entry.properties) := List.length_append.trans whole
      exact ⟨rfl, opened, others, _, streaming.answer rfl sized _⟩
    | write token id value =>
      rw [streaming.paired.write_step listed.2 queued trailing stack] at stepped
      cases stepped
      have sized : (Response.done token).Sized (propertySize entry.properties) := trivial
      exact ⟨rfl, opened, others, _, streaming.answer rfl sized _⟩
    | stream token streamType streamId id period =>
      obtain ⟨rfl, found, period', bound, looked, rfl⟩ := streaming.paired.stream_step queued stepped
      obtain ⟨place, looked', after⟩ := streaming.opening
      obtain rfl : found = some place := Except.ok.inj (looked.symm.trans looked')
      refine ⟨rfl, opened ++ [(streamId, id)], others, messages, ?_⟩
      simpa [startedAfter, emittedAfter] using after period' bound

theorem Streaming.hostReceive (streaming : Streaming setup entry callbacks state opened requests messages)
    (trailing : List UInt8) (unset : Nat) :
    ∃ state' event messages', streamStep state (.link (.hostReceive trailing unset)) = .ok (state', event) ∧
      state'.started = state.started ∧ Streaming setup entry callbacks state' opened requests messages' := by
  cases messages with
  | nil =>
    refine ⟨_, _, [], stream_link (link_hostReceive_idle streaming.toHost), rfl, ?_⟩
    have same : emittedAfter state.emitted (.hostReceive trailing unset) .idle = state.emitted := by
      rw [streaming.emitted]
      rfl
    rw [same]
    exact streaming
  | cons first others =>
    cases first with
    | response response =>
      obtain ⟨state', event, stepped, same, after⟩ := streaming.settle trailing unset
      exact ⟨state', event, others, stepped, same, after⟩
    | stream emission =>
      obtain ⟨object, -, delivers⟩ := streaming.deliver
      obtain ⟨state', stream, stepped, -, -, -, -, same, after⟩ := delivers trailing unset
      exact ⟨state', _, others, stepped, same, after⟩

theorem Streaming.refuse (streaming : Streaming setup entry callbacks state opened requests messages) {call : HostCall}
    (request : call.isRequest = true) (full : state.link.host.pendingRequestCount > 8) {state' : StreamLink σ}
    {event : StreamEvent} (done : streamStep state (.link (.call call)) = .ok (state', event)) :
    state'.started = state.started ∧ Streaming setup entry callbacks state' opened requests messages := by
  have refused := link_call (request_refused request full)
  rw [stream_link refused] at done
  cases done
  have same : startedAfter state.started (.host ⟨call, [], sppStatusPendingFull⟩) = state.started := by
    cases call with
    | startStream client id period streamType stream spare =>
      have failed : sppStatusPendingFull ≠ sppStatusOk := by decide
      simp [startedAfter, failed]
    | _ => rfl
  refine ⟨same, ?_⟩
  simpa [same, emittedAfter, sentMessages] using streaming

theorem Streaming.call (streaming : Streaming setup entry callbacks state opened requests messages) {call : HostCall}
    (accesses : (LinkAction.call call).Accesses entry.address entry.properties)
    (new : ∀ object ∈ (StreamAction.link (.call call)).object, object ∉ state.started.map Prod.snd)
    {state' : StreamLink σ} {event : StreamEvent}
    (done : streamStep state (.link (.call call)) = .ok (state', event)) :
    (state'.started.map Prod.snd).Sublist
        (state.started.map Prod.snd ++ (StreamAction.link (.call call)).object.toList) ∧
      ∃ requests', Streaming setup entry callbacks state' opened requests' messages := by
  by_cases full : state.link.host.pendingRequestCount > 8
  · obtain ⟨same, after⟩ := streaming.refuse accesses.isRequest full done
    rw [same]
    exact ⟨List.sublist_append_left _ _, requests, after⟩
  obtain ⟨link', event, stepped, rfl⟩ := stream_link_inv done
  cases call with
  | connectToClient _ | getDefinition _ _ | getPropertyCount _ | processMessage _ _ _ => cases accesses
  | getValue client id =>
    rw [streaming.paired.getValue_step accesses.1 full] at stepped
    cases stepped
    have listed : (Request.read state.link.host.pending.next id).Listed entry.properties := accesses.2
    exact ⟨List.sublist_append_left _ _, _, streaming.submit listed rfl⟩
  | setValue client id value =>
    obtain ⟨⟨addressed, listed⟩, long⟩ := accesses
    rw [streaming.paired.setValue_step addressed full listed long] at stepped
    cases stepped
    have listed' : (Request.write state.link.host.pending.next id
        (value.take (propertySize entry.properties id).toNat)).Listed entry.properties :=
      ⟨listed, List.length_take_of_le long⟩
    exact ⟨List.sublist_append_left _ _, _, streaming.submit listed' rfl⟩
  | startStream client id period streamType stream spare =>
    obtain ⟨place, copy, object, bound, stored, named, sized, here, -, rfl, rfl⟩ :=
      streaming.paired.startStream_step accesses.1 full accesses.2 stepped
    have after := streaming.start bound (new stream rfl) here stored named sized accesses.2 period
      state.link.host.pending.next streamType
    refine ⟨?_, _, after⟩
    show ((state.started ++ [(id, stream)]).map Prod.snd).Sublist _
    rw [List.map_append]
    apply List.Sublist.refl

theorem Streaming.step (exact : LoadsExactly callbacks entry.properties)
    (streaming : Streaming setup entry callbacks state opened requests messages) {action : StreamAction}
    (accesses : action.Accesses entry.address entry.properties)
    (new : ∀ object ∈ action.object, object ∉ state.started.map Prod.snd) {state' : StreamLink σ} {event : StreamEvent}
    (done : streamStep state action = .ok (state', event)) :
    (state'.started.map Prod.snd).Sublist (state.started.map Prod.snd ++ action.object.toList) ∧
      ∃ opened' requests' messages', Streaming setup entry callbacks state' opened' requests' messages' := by
  cases action with
  | processStreams timestamp elapsedTime stack =>
    obtain ⟨client, sent, emissions, passed, after⟩ := streaming.process exact timestamp elapsedTime stack
    rw [stream_process passed] at done
    cases done
    exact ⟨List.sublist_append_left _ _, opened, requests, _, after⟩
  | link action =>
    cases action with
    | start _ => cases accesses
    | call call =>
      obtain ⟨grows, requests', after⟩ := streaming.call accesses new done
      exact ⟨grows, opened, requests', messages, after⟩
    | clientReceive trailing stack =>
      obtain ⟨same, opened', requests', messages', after⟩ := streaming.clientReceive exact.within done
      rw [same]
      exact ⟨List.sublist_append_left _ _, opened', requests', messages', after⟩
    | hostReceive trailing unset =>
      obtain ⟨_, _, messages', stepped, same, after⟩ := streaming.hostReceive trailing unset
      rw [stepped] at done
      cases done
      rw [same]
      exact ⟨List.sublist_append_left _ _, opened, requests, messages', after⟩

theorem Streaming.delivers (streaming : Streaming setup entry callbacks state opened requests messages) :
    Delivers state := by
  constructor
  · rw [streaming.emitted, streaming.toHost, List.length_map, List.length_map]
  · intro message rest queued isStream
    cases messages with
    | nil =>
      rw [streaming.toHost] at queued
      cases queued
    | cons first others =>
      have toHost := streaming.toHost
      rw [queued, List.map_cons] at toHost
      obtain ⟨rfl, -⟩ := List.cons.inj toHost
      cases first with
      | response response =>
        -- a response has another id
        cases response with
        | done _ | value _ _ _ => cases isStream
      | stream emission =>
        obtain ⟨object, started, delivers⟩ := streaming.deliver
        refine ⟨emission, object, ?_, started, fun trailing unset => ?_⟩
        · rw [streaming.emitted]
          rfl
        · obtain ⟨state', stream, stepped, here, streamId, value, defined, -, -⟩ := delivers trailing unset
          exact ⟨state', stream, stepped, here, streamId, value, defined⟩

theorem Streaming.next (exact : LoadsExactly callbacks entry.properties)
    (streaming : Streaming setup entry callbacks state opened requests messages) {action : StreamAction}
    {rest : List StreamAction} (accesses : action.Accesses entry.address entry.properties)
    (own : (state.started.map Prod.snd ++ (action :: rest).filterMap StreamAction.object).Nodup)
    {state' : StreamLink σ} {event : StreamEvent} (done : streamStep state action = .ok (state', event)) :
    (∃ opened' requests' messages', Streaming setup entry callbacks state' opened' requests' messages') ∧
      (state'.started.map Prod.snd ++ rest.filterMap StreamAction.object).Nodup := by
  have split : (action :: rest).filterMap StreamAction.object =
      action.object.toList ++ rest.filterMap StreamAction.object := by
    cases object : action.object with
    | none => simp [object]
    | some stream => simp [object]
  rw [split, ← List.append_assoc] at own
  have new : ∀ object ∈ action.object, object ∉ state.started.map Prod.snd := by
    intro object member earlier
    have apart := (List.nodup_append.mp (List.nodup_append.mp own).1).2.2
    exact apart object earlier object (Option.mem_toList.mpr member) rfl
  obtain ⟨grows, after⟩ := streaming.step exact accesses new done
  exact ⟨after, own.sublist (grows.append_right _)⟩

/-- Along such a run, every stream message is delivered. -/
theorem Streaming.run (exact : LoadsExactly callbacks entry.properties)
    (streaming : Streaming setup entry callbacks state opened requests messages) {actions : List StreamAction}
    (accesses : ∀ action ∈ actions, action.Accesses entry.address entry.properties)
    (own : (state.started.map Prod.snd ++ actions.filterMap StreamAction.object).Nodup) :
    EveryState streamStep Delivers state actions := by
  induction actions generalizing state opened requests messages with
  | nil => exact streaming.delivers
  | cons action rest ih =>
    refine ⟨streaming.delivers, ?_⟩
    cases one : streamStep state action with
    | error fault => trivial
    | ok result =>
      obtain ⟨⟨opened', requests', messages', after⟩, own'⟩ :=
        streaming.next exact (accesses action (List.mem_cons_self ..)) own one
      exact ih after (fun other member => accesses other (List.mem_cons_of_mem _ member)) own'

end Steps

end TvcHopper.Spp
