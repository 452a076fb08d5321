import TvcHopper.Spp.Completion

/-! The stream tables, and what the engines do with streams.

Beside each call of `SppProcessStreams` stands a record of the values that it
emitted. A pass of the client sends what is recorded and keeps its table, and
a stream message sets the value of one object of the host.
-/

set_option autoImplicit false

namespace TvcHopper.Spp
open Machine Machine.Slots

variable {σ : Type}

/-! ## Emissions -/

/-- A value that a stream sends, as `GetValue` writes it. -/
structure Emission where
  timestamp : UInt32
  streamId : UInt8
  id : UInt16
  value : List UInt8

/-- What a pass of `SppProcessStreams` emits, if the time of its stream has expired. -/
def emission (client : SppClientEngine σ) (timestamp elapsedTime : UInt32) (i : Nat) : Option Emission := do
  let s ← client.streams[i]?
  if s.elapsedTime + elapsedTime > s.period then
    let pd ← client.properties[← s.definition]?
    return ⟨timestamp, s.streamId, pd.id, (client.callbacks.getValue client.instanceData pd.id).2.1⟩
  else none

def recordStream (stack : Stack) (timestamp elapsedTime : UInt32) (i : Nat)
    (state : (SppClientEngine σ × List (List UInt8)) × List Emission) :
    Except Fault ((SppClientEngine σ × List (List UInt8)) × List Emission) := do
  let next ← processStream stack timestamp elapsedTime i state.1
  return (next, state.2 ++ (emission state.1.1 timestamp elapsedTime i).toList)

/-- `SppProcessStreams`, with a record of what was emitted. -/
def recordStreams (client : SppClientEngine σ) (timestamp elapsedTime : UInt32) (stack : Stack) :
    Except Fault ((SppClientEngine σ × List (List UInt8)) × List Emission) :=
  loop (recordStream stack timestamp elapsedTime) client.streamCount.toNat 0 ((client, []), [])

/-- The record changes nothing. -/
theorem recordStreams_eq (client : SppClientEngine σ) (timestamp elapsedTime : UInt32) (stack : Stack) :
    (recordStreams client timestamp elapsedTime stack).map Prod.fst =
      sppProcessStreams client timestamp elapsedTime stack := by
  apply loop_map
  intro i state
  rw [recordStream]
  cases processStream stack timestamp elapsedTime i state.1 with
  | error fault => rfl
  | ok next => rfl

/-! ## The stream tables -/

/-- The ids that the started streams got, with their properties. -/
def streamTable (started : List (UInt16 × Nat)) : List (UInt8 × UInt16) :=
  started.zipIdx.map fun (stream, k) => (UInt8.ofNat k, stream.1)

theorem streamTable_snoc (started : List (UInt16 × Nat)) (stream : UInt16 × Nat) :
    streamTable (started ++ [stream]) = streamTable started ++ [(UInt8.ofNat started.length, stream.1)] := by
  simp [streamTable, List.zipIdx_append]

theorem mem_streamTable {started : List (UInt16 × Nat)} (few : started.length ≤ sppStreamMaxCount)
    {streamId : UInt8} {id : UInt16} (member : (streamId, id) ∈ streamTable started) :
    ∃ object, started[streamId.toNat]? = some (id, object) := by
  obtain ⟨⟨⟨id', object⟩, k⟩, inside, same⟩ := List.mem_map.mp member
  have here := List.mem_zipIdx_iff_getElem?.mp inside
  have below : k < started.length := (List.getElem?_eq_some_iff.mp here).1
  have small : started.length ≤ 16 := few
  cases same
  refine ⟨object, ?_⟩
  rw [UInt8.toNat_ofNat_of_lt' (show k < 256 by omega)]
  exact here

/-- A stream of the host, in its place of the table. -/
structure HostStream (size : UInt16 → UInt8) (host : SppHostEngine) (k : Nat) (id : UInt16) (object : Nat)
    (stream : SppStream) : Prop where
  cell : host.streams[k]? = some (some object)
  here : host.streamObjects[object]? = some stream
  streamId : stream.streamId = UInt8.ofNat k
  defined : ∃ place copy, stream.definition = some place ∧ host.defsBuffer[place]? = some copy ∧ copy.id = id ∧
    copy.size = size id

/-- The table of the host holds the streams that were started, each with its own object. -/
structure HostStreams (size : UInt16 → UInt8) (host : SppHostEngine) (started : List (UInt16 × Nat)) : Prop where
  count : host.streamCount.toNat = started.length
  own : (started.map Prod.snd).Nodup
  entries : ∀ k id object, started[k]? = some (id, object) → ∃ stream, HostStream size host k id object stream

/-- A stream of the client plays the property with an id under the id that the host gave it. -/
structure ClientStream (properties : List SppPropertyDefinition) (s : SppStream) (entry : UInt8 × UInt16) : Prop where
  streamId : s.streamId = entry.1
  defined : ∃ place pd, s.definition = some place ∧ properties[place]? = some pd ∧
    properties.find? (·.id == entry.2) = some pd

/-- The table of the client holds the streams it opened. -/
structure ClientStreams (client : SppClientEngine σ) (opened : List (UInt8 × UInt16)) : Prop where
  count : client.streamCount.toNat = opened.length
  entries : ∀ (k : Nat) (entry : UInt8 × UInt16), opened[k]? = some entry →
    ∃ s, client.streams[k]? = some s ∧ ClientStream client.properties s entry

section Host
variable {size : UInt16 → UInt8} {host host' : SppHostEngine} {started : List (UInt16 × Nat)}

theorem HostStreams.congr (streams : HostStreams size host started) (count : host'.streamCount = host.streamCount)
    (cells : host'.streams = host.streams) (objects : host'.streamObjects = host.streamObjects)
    (definitions : host'.defsBuffer = host.defsBuffer) : HostStreams size host' started := by
  constructor
  · rw [count]
    exact streams.count
  · exact streams.own
  · intro k id object here
    obtain ⟨stream, entry⟩ := streams.entries k id object here
    refine ⟨stream, ?_, ?_, entry.streamId, ?_⟩
    · rw [cells]
      exact entry.cell
    · rw [objects]
      exact entry.here
    · rw [definitions]
      exact entry.defined

theorem HostStreams.withRequest (streams : HostStreams size host started) :
    HostStreams size (withRequest host) started := by
  unfold Spp.withRequest sppInsertToken
  cases replaceFirst sppTokenMaxReserved (sppGetToken host).2 (sppGetToken host).1.pendingRequestTokens with
  | none => exact streams.congr rfl rfl rfl rfl
  | some tokens => exact streams.congr rfl rfl rfl rfl

theorem HostStreams.withoutToken (streams : HostStreams size host started) (token : UInt8) :
    HostStreams size (withoutToken host token) started := by
  unfold Spp.withoutToken sppClearToken
  cases replaceFirst token sppTokenMaxReserved host.pendingRequestTokens with
  | none => exact streams
  | some tokens => exact streams.congr rfl rfl rfl rfl

theorem HostStreams.enter (streams : HostStreams size host started) {id : UInt16} {place stream : Nat}
    {object : SppStream} {copy : SppPropertyDefinition} (period : UInt16)
    (bound : host.streamCount.toNat < sppStreamMaxCount) (new : stream ∉ started.map Prod.snd)
    (here : host.streamObjects[stream]? = some object) (stored : host.defsBuffer[place]? = some copy)
    (named : copy.id = id) (sized : copy.size = size id) :
    HostStreams size (enterStream host place stream object period bound) (started ++ [(id, stream)]) := by
  have count := streams.count
  have small : host.streamCount.toNat < 16 := bound
  constructor
  · show (host.streamCount + 1).toNat = _
    have one : (1 : UInt8).toNat = 1 := rfl
    rw [UInt8.toNat_add, one, List.length_append, List.length_singleton]
    omega
  · rw [List.map_append, List.nodup_append]
    refine ⟨streams.own, List.nodup_singleton _, ?_⟩
    rintro earlier member later last rfl
    rw [List.mem_singleton.mp last] at member
    exact new member
  · intro k id' object' entry
    rcases getElem?_snoc.mp entry with earlier | ⟨rfl, last⟩
    · -- an earlier stream has another place and another object
      obtain ⟨old, inside⟩ := streams.entries k id' object' earlier
      have below : k < started.length := (List.getElem?_eq_some_iff.mp earlier).1
      have other : stream ≠ object' := by
        rintro rfl
        exact new (List.mem_map_of_mem (f := Prod.snd) (List.mem_of_getElem? earlier))
      refine ⟨old, ?_, ?_, inside.streamId, inside.defined⟩
      · exact (Vector.getElem?_set_ne bound (by omega)).trans inside.cell
      · exact (List.getElem?_set_ne other).trans inside.here
    · cases last
      refine ⟨_, ?_, List.getElem?_set_self (List.getElem?_eq_some_iff.mp here).1, ?_, place, copy, rfl, stored,
        named, sized⟩
      · rw [← count]
        exact Vector.getElem?_set_self bound
      · rw [← count, UInt8.ofNat_toNat]

theorem HostStreams.withValue (streams : HostStreams size host started) {object : Nat} {stream : SppStream}
    (here : host.streamObjects[object]? = some stream) (value : List UInt8) :
    HostStreams size { host with streamObjects := host.streamObjects.set object { stream with value := some value } }
      started := by
  refine ⟨streams.count, streams.own, fun k id object' entry => ?_⟩
  obtain ⟨stream', inside⟩ := streams.entries k id object' entry
  by_cases same : object' = object
  · subst same
    obtain rfl : stream' = stream := Option.some.inj (inside.here.symm.trans here)
    refine ⟨{ stream' with value := some value }, inside.cell, ?_, inside.streamId, inside.defined⟩
    exact List.getElem?_set_self (List.getElem?_eq_some_iff.mp here).1
  · refine ⟨stream', inside.cell, ?_, inside.streamId, inside.defined⟩
    exact (List.getElem?_set_ne (Ne.symm same)).trans inside.here

end Host

section Client
variable {client : SppClientEngine σ} {opened : List (UInt8 × UInt16)}

theorem ClientStreams.openStream (streams : ClientStreams client opened) {streamId : UInt8} {id : UInt16}
    {place : Nat} {pd : SppPropertyDefinition} (here : client.properties[place]? = some pd)
    (first : client.properties.find? (·.id == id) = some pd) (streamType : UInt8) (period : UInt16)
    (bound : client.streamCount.toNat < sppStreamMaxCount) :
    ClientStreams (openStream client (some place) streamType streamId period bound) (opened ++ [(streamId, id)]) := by
  have count := streams.count
  have small : client.streamCount.toNat < 16 := bound
  constructor
  · show (client.streamCount + 1).toNat = _
    have one : (1 : UInt8).toNat = 1 := rfl
    rw [UInt8.toNat_add, one, List.length_append, List.length_singleton]
    omega
  · intro k entry inside
    rcases getElem?_snoc.mp inside with earlier | ⟨rfl, rfl⟩
    · obtain ⟨s, cell, plays⟩ := streams.entries k entry earlier
      have below : k < opened.length := (List.getElem?_eq_some_iff.mp earlier).1
      exact ⟨s, (Vector.getElem?_set_ne bound (by omega)).trans cell, plays⟩
    · rw [← count]
      exact ⟨_, Vector.getElem?_set_self bound, rfl, place, pd, rfl, here, first⟩

theorem ClientStreams.touch (streams : ClientStreams client opened) {i : Nat} (within : i < sppStreamMaxCount)
    (elapsedTime : UInt32) (instanceData : σ) :
    ClientStreams { client with
      streams := client.streams.set i { client.streams[i] with elapsedTime }, instanceData } opened := by
  refine ⟨streams.count, fun k entry inside => ?_⟩
  obtain ⟨s, cell, plays⟩ := streams.entries k entry inside
  by_cases same : i = k
  · subst same
    obtain rfl : client.streams[i] = s := by simpa [within] using cell
    exact ⟨_, Vector.getElem?_set_self within, plays.streamId, plays.defined⟩
  · exact ⟨s, (Vector.getElem?_set_ne within same).trans cell, plays⟩

/-- An emission of a property that the client opened a stream for, with a value of its size. -/
structure Emission.Sound (properties : List SppPropertyDefinition) (opened : List (UInt8 × UInt16))
    (emission : Emission) : Prop where
  opened : (emission.streamId, emission.id) ∈ opened
  whole : emission.value.length = (propertySize properties emission.id).toNat

def Emission.message (address host : UInt8) (emission : Emission) : List UInt8 :=
  Message.stream address host emission.streamId emission.timestamp emission.value

theorem emission_eq {s : SppStream} {place i : Nat} {pd : SppPropertyDefinition}
    (cell : client.streams[i]? = some s) (defined : s.definition = some place)
    (here : client.properties[place]? = some pd) (timestamp elapsedTime : UInt32) :
    emission client timestamp elapsedTime i =
      if s.elapsedTime + elapsedTime > s.period then
        some ⟨timestamp, s.streamId, pd.id, (client.callbacks.getValue client.instanceData pd.id).2.1⟩
      else none := by
  simp [emission, cell, defined, here]

/-- One pass: what is emitted is sent, and the table stays. -/
theorem processStream_spec {address host : UInt8} (one : OneByteClient client address) (known : HostKnown client host)
    (exact : LoadsExactly client.callbacks client.properties) (streams : ClientStreams client opened) (stack : Stack)
    (timestamp elapsedTime : UInt32) {i : Nat} (below : i < opened.length) (sent : List (List UInt8)) :
    ∃ streams' instanceData,
      processStream stack timestamp elapsedTime i (client, sent) =
        .ok ({ client with streams := streams', instanceData },
          sent ++ (emission client timestamp elapsedTime i).toList.map (Emission.message address host)) ∧
      ClientStreams { client with streams := streams', instanceData } opened ∧
      ∀ value ∈ (emission client timestamp elapsedTime i).toList, value.Sound client.properties opened := by
  obtain ⟨s, cell, streamId, place, pd, defined, here, first⟩ :=
    streams.entries i opened[i] (List.getElem?_eq_getElem below)
  have same : pd.id = opened[i].2 := by simpa using List.find?_some first
  have size : propertySize client.properties pd.id = pd.size := by
    rw [same]
    exact propertySize_of_find first
  have whole : (client.callbacks.getValue client.instanceData pd.id).2.1.length = pd.size.toNat := by
    rw [exact client.instanceData pd (List.mem_of_getElem? here), size]
  rw [emission_eq cell defined here]
  obtain ⟨within, rfl⟩ := Vector.getElem?_eq_some_iff.mp cell
  unfold processStream
  simp only [loadCell_of_lt client.streams within, ok_bind, storeCell_of_lt client.streams _ within, pure_eq_ok]
  by_cases expired : client.streams[i].elapsedTime + elapsedTime > client.streams[i].period
  · rw [if_pos expired, if_pos expired]
    have message := streamMessage_spec one known (stack i)
      (s := { client.streams[i] with elapsedTime := client.streams[i].elapsedTime + elapsedTime }) defined here whole
      timestamp
    rw [message, ok_bind]
    refine ⟨_, _, rfl, streams.touch within 0 _, ?_⟩
    intro value member
    obtain rfl := List.mem_singleton.mp member
    constructor
    · show (client.streams[i].streamId, pd.id) ∈ opened
      rw [streamId, same]
      exact List.getElem_mem below
    · exact whole.trans (congrArg UInt8.toNat size).symm
  · rw [if_neg expired, if_neg expired]
    refine ⟨_, client.instanceData, ?_,
      streams.touch within (client.streams[i].elapsedTime + elapsedTime) client.instanceData, ?_⟩
    · simp
    · simp

/-- After some passes: the streams and the instance data changed, and what was emitted was sent. -/
structure Emitted (client : SppClientEngine σ) (opened : List (UInt8 × UInt16)) (address host : UInt8)
    (state : (SppClientEngine σ × List (List UInt8)) × List Emission) : Prop where
  frame : ∃ streams instanceData, state.1.1 = { client with streams, instanceData }
  table : ClientStreams state.1.1 opened
  sent : state.1.2 = state.2.map (Emission.message address host)
  sound : ∀ value ∈ state.2, value.Sound client.properties opened

theorem Emitted.pass {address host : UInt8} (one : OneByteClient client address) (known : HostKnown client host)
    (exact : LoadsExactly client.callbacks client.properties) (stack : Stack) (timestamp elapsedTime : UInt32)
    {state : (SppClientEngine σ × List (List UInt8)) × List Emission}
    (emitted : Emitted client opened address host state) {i : Nat} (below : i < opened.length) :
    ∃ next, recordStream stack timestamp elapsedTime i state = .ok next ∧ Emitted client opened address host next := by
  obtain ⟨⟨client', sent⟩, emissions⟩ := state
  obtain ⟨⟨streams, instanceData, rfl⟩, table, sends, sound⟩ := emitted
  have one' : OneByteClient { client with streams, instanceData } address :=
    ⟨one.addressLength, one.clientAddress, one.hostAddress⟩
  obtain ⟨streams', instanceData', passed, table', sound'⟩ :=
    processStream_spec one' known exact table stack timestamp elapsedTime below sent
  refine ⟨_, by rw [recordStream, passed, ok_bind, pure_eq_ok], ⟨streams', instanceData', rfl⟩, table', ?_, ?_⟩
  · rw [List.map_append]
    exact congrArg (· ++ _) sends
  · exact List.forall_mem_append.mpr ⟨sound, sound'⟩

theorem recordStreams_spec {address host : UInt8} (one : OneByteClient client address) (known : HostKnown client host)
    (exact : LoadsExactly client.callbacks client.properties) (streams : ClientStreams client opened)
    (timestamp elapsedTime : UInt32) (stack : Stack) :
    ∃ final, recordStreams client timestamp elapsedTime stack = .ok final ∧
      Emitted client opened address host final := by
  have start : Emitted client opened address host ((client, []), []) :=
    ⟨⟨client.streams, client.instanceData, rfl⟩, streams, rfl, by simp⟩
  have pass : ∀ i state, 0 ≤ i → i < 0 + opened.length → Emitted client opened address host state →
      ∃ next, recordStream stack timestamp elapsedTime i state = .ok next ∧
        Emitted client opened address host next := by
    intro i state _ below emitted
    rw [Nat.zero_add] at below
    exact emitted.pass one known exact stack timestamp elapsedTime below
  obtain ⟨final, passed, emitted⟩ := loop_ok (fun _ => Emitted client opened address host) start pass
  refine ⟨final, ?_, emitted⟩
  rw [recordStreams, streams.count, passed]

end Client

/-! ## Messages at the host -/

section Received
variable {setup : HostSetup} {host : SppHostEngine} {joined : List Joined}

theorem host_response (holds : HostHolds setup host joined) (address : UInt8) {size : UInt16 → UInt8}
    {response : Response} (sized : response.Sized size) (trailing : List UInt8) (unset : Nat) :
    ∃ effects status, sppHostProcessMessage host (response.message size address setup.address ++ trailing)
        (messageSize16 (response.message size address setup.address)) unset =
          .ok (withoutToken host response.token, effects, status) ∧ sentMessages effects = [] := by
  have long := response.long sized address setup.address
  cases response with
  | done token => exact ⟨_, _, host_setResponse_cleared holds address token trailing long unset, rfl⟩
  | value token id bytes =>
    refine ⟨_, _, host_getResponse_cleared holds address (size id) token id bytes trailing long unset, ?_⟩
    split <;> rfl

theorem host_stream (holds : HostHolds setup host joined) (address : UInt8) {streamId : UInt8} {object : Nat}
    {stream : SppStream} (cell : host.streams[streamId.toNat]? = some (some object))
    (here : host.streamObjects[object]? = some stream) (timestamp : UInt32) (value trailing : List UInt8)
    {len : UInt16} (long : 4 ≤ len.toNat) (unset : Nat) :
    sppHostProcessMessage host (Message.stream address setup.address streamId timestamp value ++ trailing) len unset =
      .ok ({ host with
          streamObjects := host.streamObjects.set object { stream with value := some (value ++ trailing) } },
        [.onStreamResponse timestamp { stream with value := some (value ++ trailing) }], sppStatusOk) := by
  have processed : sppHostProcessMessage host
      (Message.stream address setup.address streamId timestamp value ++ trailing) len unset =
      sppHandleMessage host ⟨.external [address], 0⟩ sppMsgStreamId
        (Message.stream address setup.address streamId timestamp value ++ trailing) len unset :=
    hostProcess_one holds.one _ _ _ _ long _
  have read : load32 (Message.stream address setup.address streamId timestamp value ++ trailing) 5 = .ok timestamp :=
    (congrArg (load32 · 0) (List.append_assoc (bytes32 timestamp) value trailing)).trans (load32_bytes32 timestamp _)
  have header : sppMsgHdrSize host.addressLength = 4 := congrArg sppMsgHdrSize holds.one.addressLength
  obtain ⟨within, pointer⟩ := Vector.getElem?_eq_some_iff.mp cell
  rw [processed]
  change sppProcessStream host _ (sppMsgHdrSize host.addressLength) = _
  rw [header, sppProcessStream]
  refine bind_eq_ok.mpr ⟨streamId, rfl, bind_eq_ok.mpr ⟨some object, ?_, bind_eq_ok.mpr ⟨timestamp, read,
    bind_eq_ok.mpr ⟨stream, load_eq_ok.mpr here, rfl⟩⟩⟩⟩
  rw [loadCell_of_lt host.streams within, pointer]

end Received

end TvcHopper.Spp
