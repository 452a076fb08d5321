import TvcHopper.Spp.ClientRun
import TvcHopper.Spp.ClientSpec
import TvcHopper.Spp.Fields

/-! The stream table of the client, over every sequence of stream requests.

A request always takes the next entry, whatever id it carries and whether the
property is known or not. The table stays in order exactly as long as nobody
asks twice for an id, for an unknown property, or for a seventeenth stream.
-/

set_option autoImplicit false

namespace TvcHopper.Spp
open Machine

variable {σ : Type} {addressLength : UInt8}

/-- A received stream request, with what the client reads of it. -/
structure StreamRequestMessage (addressLength : UInt8) where
  message : List UInt8
  len : UInt16
  stack : Stack
  sender : List UInt8
  token : UInt8
  streamType : UInt8
  streamId : UInt8
  id : UInt16
  period : UInt16
  reads : readMessageToClient addressLength message len =
    .ok (some (sender, .streamRequest token streamType streamId id period))

def receiveStreamRequest (client : SppClientEngine σ) (request : StreamRequestMessage addressLength) :
    Except Fault (SppClientEngine σ × ClientEvent) :=
  clientCall client (.processMessage request.message request.len request.stack)

def SppClientEngine.openStreams (client : SppClientEngine σ) : List SppStream :=
  client.streams.toList.take client.streamCount.toNat

structure StreamTableIntact (client : SppClientEngine σ) : Prop where
  few : client.streamCount.toNat ≤ sppStreamMaxCount
  distinct : (client.openStreams.map (·.streamId)).Nodup
  defined : ∀ stream ∈ client.openStreams, ∃ place, stream.definition = some place ∧ place < client.properties.length

def PropertyKnown (client : SppClientEngine σ) (id : UInt16) : Prop := ∃ pd ∈ client.properties, pd.id = id

def StreamKnown (client : SppClientEngine σ) (streamId : UInt8) : Prop :=
  streamId ∈ client.openStreams.map (·.streamId)

/-- No entry is added, and the one with the id is that of the request. -/
def TakesOver (client client' : SppClientEngine σ) (request : StreamRequestMessage addressLength) : Prop :=
  client'.streamCount = client.streamCount ∧ ∃ stream ∈ client'.openStreams, stream.streamId = request.streamId ∧
    stream.streamType = request.streamType ∧ stream.period = request.period.toUInt32 ∧
      ∃ place pd, stream.definition = some place ∧ client'.properties[place]? = some pd ∧ pd.id = request.id

/-- A request for a stream that is there takes it over, and one for an unknown property adds nothing. -/
def StreamRequestHandled (client : SppClientEngine σ) (request : StreamRequestMessage addressLength) : Prop :=
  ∃ client' event, receiveStreamRequest client request = .ok (client', event) ∧
    (PropertyKnown client request.id → StreamKnown client request.streamId → TakesOver client client' request) ∧
    (¬PropertyKnown client request.id → client'.streamCount = client.streamCount)

/-- The property is one of the first 256, the stream is new, and there is room for it. -/
def StreamRequestAllowed (client : SppClientEngine σ) (request : StreamRequestMessage addressLength) : Prop :=
  (∃ pd ∈ client.properties.take 256, pd.id = request.id) ∧ ¬StreamKnown client request.streamId ∧
    client.streamCount.toNat < sppStreamMaxCount

instance (client : SppClientEngine σ) (request : StreamRequestMessage addressLength) :
    Decidable (StreamRequestAllowed client request) :=
  inferInstanceAs (Decidable ((∃ pd ∈ client.properties.take 256, pd.id = request.id) ∧
    request.streamId ∉ client.openStreams.map (·.streamId) ∧ client.streamCount.toNat < sppStreamMaxCount))

/-! ## Looking up a property -/

section Lookup
variable {client : SppClientEngine σ} {id : UInt16}

theorem sppGetDefinition_eq (count : client.propertyCount.toNat = client.properties.length) (id : UInt16) :
    Client.sppGetDefinition client id =
      match (client.properties.take 256).findIdx? (·.id == id) with
      | some place => .ok (some place)
      | none => if client.properties.length < 256 then .ok none else .error .diverges := by
  have reads : ∀ (place : Nat) (value : SppPropertyDefinition), client.properties[place]? = some value →
      (do return (← load client.properties place).id = id : Except Fault Bool) = .ok (value.id == id) := by
    intro place value found
    rw [load_eq_ok.mpr found, ok_bind]
    rfl
  unfold Client.sppGetDefinition search8
  rw [count]
  by_cases narrow : client.properties.length < 256
  · have searches := search_eq_findIdx (fun pd : SppPropertyDefinition => pd.id == id) 0
      (by omega : 0 + client.properties.length ≤ client.properties.length) reads
    rw [List.drop_zero, List.take_length] at searches
    rw [if_pos narrow, List.take_of_length_le (by omega)]
    refine searches.trans ?_
    cases client.properties.findIdx? (·.id == id) with
    | none => simp [narrow]
    | some place => simp
  · have searches := search_eq_findIdx (fun pd : SppPropertyDefinition => pd.id == id) 0
      (by omega : 0 + 256 ≤ client.properties.length) reads
    rw [List.drop_zero] at searches
    rw [if_neg narrow, show search _ 256 0 = _ from searches, ok_bind]
    cases (client.properties.take 256).findIdx? (·.id == id) with
    | none => simp [narrow]
    | some place => simp

theorem sppGetDefinition_known (count : client.propertyCount.toNat = client.properties.length) :
    (∃ place, Client.sppGetDefinition client id = .ok (some place)) ↔
      ∃ pd ∈ client.properties.take 256, pd.id = id := by
  rw [sppGetDefinition_eq count]
  cases found : (client.properties.take 256).findIdx? (·.id == id) with
  | none =>
    have absent := List.findIdx?_eq_none_iff.mp found
    constructor
    · rintro ⟨place, done⟩
      by_cases narrow : client.properties.length < 256
      all_goals simp [narrow] at done
    · rintro ⟨pd, member, same⟩
      exact absurd (absent pd member) (by simp [same])
  | some place =>
    obtain ⟨within, same, -⟩ := List.findIdx?_eq_some_iff_getElem.mp found
    exact ⟨fun _ => ⟨_, List.getElem_mem within, by simpa using same⟩, fun _ => ⟨place, rfl⟩⟩

theorem sppGetDefinition_place (count : client.propertyCount.toNat = client.properties.length) {place : Nat}
    (found : Client.sppGetDefinition client id = .ok (some place)) :
    ∃ pd, client.properties[place]? = some pd ∧ pd.id = id := by
  rw [sppGetDefinition_eq count] at found
  cases searched : (client.properties.take 256).findIdx? (·.id == id) with
  | none =>
    rw [searched] at found
    by_cases narrow : client.properties.length < 256
    all_goals simp [narrow] at found
  | some place' =>
    rw [searched] at found
    obtain rfl := Option.some.inj (Except.ok.inj found)
    obtain ⟨within, same, -⟩ := List.findIdx?_eq_some_iff_getElem.mp searched
    have inside : place' < client.properties.length := by
      rw [List.length_take] at within
      omega
    exact ⟨client.properties[place'], List.getElem?_eq_getElem inside, by simpa using same⟩

theorem sppGetDefinition_unknown (count : client.propertyCount.toNat = client.properties.length)
    (found : Client.sppGetDefinition client id = .ok none) : ¬PropertyKnown client id := by
  rw [sppGetDefinition_eq count] at found
  cases searched : (client.properties.take 256).findIdx? (·.id == id) with
  | some place =>
    rw [searched] at found
    simp at found
  | none =>
    rw [searched] at found
    by_cases narrow : client.properties.length < 256
    · have absent := List.findIdx?_eq_none_iff.mp searched
      rw [List.take_of_length_le (by omega)] at absent
      rintro ⟨pd, member, same⟩
      exact absurd (absent pd member) (by simp [same])
    · simp [narrow] at found

end Lookup

/-! ## One request -/

section Request
variable {client client' : SppClientEngine σ} {request : StreamRequestMessage addressLength} {event : ClientEvent}

theorem receiveStreamRequest_eq_ok (length : client.addressLength = addressLength) :
    receiveStreamRequest client request = .ok (client', event) ↔
      ∃ (found : Option Nat) (bound : client.streamCount.toNat < sppStreamMaxCount),
        Client.sppGetDefinition client request.id = .ok found ∧ event = ⟨[], sppStatusOk⟩ ∧
        client' = openStream client found request.streamType request.streamId request.period bound := by
  have acts : sppClientProcessMessage client request.message request.len request.stack =
      (ToClient.streamRequest request.token request.streamType request.streamId request.id request.period).act client
        request.sender request.stack :=
    sppClientProcessMessage_eq_act (length ▸ request.reads) request.stack
  unfold receiveStreamRequest clientCall
  simp only [acts, ToClient.act, bind_eq_ok, pure_eq_ok, Except.ok.injEq, Prod.mk.injEq, Prod.exists]
  constructor
  · rintro ⟨_, _, _, ⟨s, read, found, looked, streams, stored, rfl, rfl, rfl⟩, rfl, rfl⟩
    obtain ⟨bound, rfl⟩ := loadCell_eq_ok.mp read
    obtain ⟨-, rfl⟩ := storeCell_eq_ok.mp stored
    exact ⟨found, bound, looked, rfl, rfl⟩
  · rintro ⟨found, bound, looked, rfl, rfl⟩
    exact ⟨_, _, _, ⟨_, loadCell_of_lt _ bound, found, looked, _, storeCell_of_lt _ _ bound, rfl, rfl, rfl⟩, rfl, rfl⟩

theorem toNat_succ8 {count : UInt8} (small : count.toNat < sppStreamMaxCount) :
    (count + 1).toNat = count.toNat + 1 := by
  have bound : count.toNat < 16 := small
  have one : (1 : UInt8).toNat = 1 := rfl
  rw [UInt8.toNat_add, one]
  omega

theorem openStream_count {found : Option Nat} {streamType streamId : UInt8} {period : UInt16}
    (bound : client.streamCount.toNat < sppStreamMaxCount) :
    (openStream client found streamType streamId period bound).streamCount ≠ client.streamCount := by
  intro same
  have count := congrArg UInt8.toNat same
  have grown : (openStream client found streamType streamId period bound).streamCount.toNat =
      client.streamCount.toNat + 1 := toNat_succ8 bound
  omega

theorem openStream_few {found : Option Nat} {streamType streamId : UInt8} {period : UInt16}
    (bound : client.streamCount.toNat < sppStreamMaxCount) :
    (openStream client found streamType streamId period bound).streamCount.toNat ≤ sppStreamMaxCount := by
  have grown : (openStream client found streamType streamId period bound).streamCount.toNat =
      client.streamCount.toNat + 1 := toNat_succ8 bound
  rw [grown]
  exact bound

theorem openStream_openStreams (client : SppClientEngine σ) (found : Option Nat) (streamType streamId : UInt8)
    (period : UInt16) (bound : client.streamCount.toNat < sppStreamMaxCount) :
    ∃ stream, (openStream client found streamType streamId period bound).openStreams = client.openStreams ++ [stream] ∧
      stream.streamId = streamId ∧
        stream.definition = found.or client.streams[client.streamCount.toNat].definition := by
  have grown : (openStream client found streamType streamId period bound).streamCount.toNat =
      client.streamCount.toNat + 1 := toNat_succ8 bound
  have inside : client.streamCount.toNat < client.streams.toList.length := by
    rw [Vector.length_toList]
    exact bound
  let stream : SppStream :=
    { client.streams[client.streamCount.toNat] with
      definition := found.or client.streams[client.streamCount.toNat].definition
      streamId
      streamType
      period := period.toUInt32
      elapsedTime := 0 }
  refine ⟨stream, ?_, rfl, rfl⟩
  calc (openStream client found streamType streamId period bound).openStreams
      = (client.streams.toList.set client.streamCount.toNat stream).take (client.streamCount.toNat + 1) := by
        rw [SppClientEngine.openStreams, grown, openStream, Vector.toList_set]
    _ = client.openStreams ++ [stream] := by
        rw [List.take_add_one, List.getElem?_set_self inside, List.take_set_of_le (Nat.le_refl _), Option.toList_some]
        rfl

theorem openStream_defined {place : Nat} {streamType streamId : UInt8} {period : UInt16}
    (bound : client.streamCount.toNat < sppStreamMaxCount) (within : place < client.properties.length)
    (defined : ∀ stream ∈ client.openStreams,
      ∃ place, stream.definition = some place ∧ place < client.properties.length) :
    ∀ stream ∈ (openStream client (some place) streamType streamId period bound).openStreams,
      ∃ place, stream.definition = some place ∧ place < client.properties.length := by
  obtain ⟨stream, entries, -, definition⟩ := openStream_openStreams client (some place) streamType streamId period bound
  intro other member
  rw [entries] at member
  rcases List.mem_append.mp member with before | last
  · exact defined other before
  · obtain rfl := List.mem_singleton.mp last
    exact ⟨place, definition, within⟩

/-- A request is handled exactly when it is allowed. -/
theorem streamRequestHandled_iff (length : client.addressLength = addressLength)
    (count : client.propertyCount.toNat = client.properties.length) :
    StreamRequestHandled client request ↔ StreamRequestAllowed client request := by
  constructor
  · rintro ⟨client', event, done, takesOver, nothing⟩
    obtain ⟨found, bound, looked, -, rfl⟩ := (receiveStreamRequest_eq_ok length).mp done
    have known : PropertyKnown client request.id := by
      by_contra unknown
      exact openStream_count bound (nothing unknown)
    refine ⟨?_, ?_, bound⟩
    · cases found with
      | none => exact absurd known (sppGetDefinition_unknown count looked)
      | some place => exact (sppGetDefinition_known count).mp ⟨place, looked⟩
    · intro present
      exact openStream_count bound (takesOver known present).1
  · rintro ⟨listed, fresh, bound⟩
    obtain ⟨place, looked⟩ := (sppGetDefinition_known count).mpr listed
    refine ⟨_, _, (receiveStreamRequest_eq_ok length).mpr ⟨some place, bound, looked, rfl, rfl⟩, ?_, ?_⟩
    · exact fun _ present => absurd present fresh
    · intro unknown
      obtain ⟨pd, member, same⟩ := listed
      exact absurd ⟨pd, List.mem_of_mem_take member, same⟩ unknown

/-- What the requests do not change. -/
structure StreamParams (addressLength : UInt8) (client : SppClientEngine σ) : Prop where
  addressLength : client.addressLength = addressLength
  count : client.propertyCount.toNat = client.properties.length

theorem StreamTableIntact.receive (params : StreamParams addressLength client) (intact : StreamTableIntact client)
    (allowed : StreamRequestAllowed client request)
    (done : receiveStreamRequest client request = .ok (client', event)) :
    StreamTableIntact client' := by
  obtain ⟨found, bound, looked, -, rfl⟩ := (receiveStreamRequest_eq_ok params.addressLength).mp done
  obtain ⟨place, found'⟩ := (sppGetDefinition_known params.count).mpr allowed.1
  obtain rfl := Except.ok.inj (looked.symm.trans found')
  obtain ⟨pd, here, -⟩ := sppGetDefinition_place params.count looked
  obtain ⟨within, -⟩ := List.getElem?_eq_some_iff.mp here
  obtain ⟨stream, entries, id, -⟩ := openStream_openStreams client (some place) request.streamType
    request.streamId request.period bound
  constructor
  · exact openStream_few bound
  · rw [entries, List.map_append, List.map_singleton]
    apply List.nodup_append.mpr ⟨intact.distinct, by simp, ?_⟩
    intro first member last lastMember same
    obtain rfl := List.mem_singleton.mp lastMember
    exact allowed.2.1 (id ▸ same ▸ member)
  · exact openStream_defined bound within intact.defined

theorem StreamParams.receive (params : StreamParams addressLength client)
    (done : receiveStreamRequest client request = .ok (client', event)) : StreamParams addressLength client' := by
  obtain ⟨found, bound, looked, -, rfl⟩ := (receiveStreamRequest_eq_ok params.addressLength).mp done
  exact ⟨params.addressLength, params.count⟩

end Request

/-! ## Runs -/

theorem streamTableIntact_init (initParams : SppClientEngineInitParams σ) (prior : SppClientEngine σ) :
    StreamTableIntact (sppClientEngineInit initParams prior) where
  few := Nat.zero_le _
  distinct := List.nodup_nil
  defined := nofun

/-- The table stays intact and every request is handled exactly when every request is allowed. -/
theorem stream_table_intact (initParams : SppClientEngineInitParams σ) (prior : SppClientEngine σ)
    (count : initParams.propertyCount.toNat = initParams.properties.length)
    (requests : List (StreamRequestMessage initParams.addressLength)) :
    (EveryState receiveStreamRequest StreamTableIntact (sppClientEngineInit initParams prior) requests ∧
        EveryAttempt receiveStreamRequest StreamRequestHandled (sppClientEngineInit initParams prior) requests) ↔
      EveryAttempt receiveStreamRequest StreamRequestAllowed (sppClientEngineInit initParams prior) requests := by
  have start : StreamParams initParams.addressLength (sppClientEngineInit initParams prior) := ⟨rfl, count⟩
  have one : ∀ (client : SppClientEngine σ) (request : StreamRequestMessage initParams.addressLength),
      StreamParams initParams.addressLength client →
        (StreamRequestHandled client request ↔ StreamRequestAllowed client request) :=
    fun _ _ params => streamRequestHandled_iff params.addressLength params.count
  have same : ∀ (client : SppClientEngine σ) (request : StreamRequestMessage initParams.addressLength) client' event,
      StreamParams initParams.addressLength client → StreamRequestAllowed client request →
        receiveStreamRequest client request = .ok (client', event) → StreamParams initParams.addressLength client' :=
    fun _ _ _ _ params _ done => params.receive done
  have handled := everyAttempt_iff one same start requests
  constructor
  · rintro ⟨-, every⟩
    exact handled.mp every
  · intro allowed
    refine ⟨?_, handled.mpr allowed⟩
    have kept : ∀ (client : SppClientEngine σ) (request : StreamRequestMessage initParams.addressLength) client' event,
        StreamParams initParams.addressLength client ∧ StreamTableIntact client → StreamRequestAllowed client request →
          receiveStreamRequest client request = .ok (client', event) →
            StreamParams initParams.addressLength client' ∧ StreamTableIntact client' :=
      fun _ _ _ _ inv here done => ⟨inv.1.receive done, inv.2.receive inv.1 here done⟩
    have both := everyState_of_everyAttempt kept ⟨start, streamTableIntact_init initParams prior⟩ allowed
    exact both.mono fun _ inv => inv.2

/-- A request for `Prop_1`, as the host sends it, with the second byte of the period behind the message. -/
def requestStream (streamId : UInt8) : StreamRequestMessage 1 where
  message := [0xCD, 0xB4, 0x1D, 0x01, 0x05, 0x00, streamId, 0xAB, 0x00, 0x64, 0x00]
  len := 10
  stack := fun _ _ => 0
  sender := [0x1D]
  token := 0x05
  streamType := 0x00
  streamId := streamId
  id := 0xAB
  period := 0x64
  reads := rfl

/-- Two streams of one host. -/
theorem stream_table_two_streams :
    EveryState receiveStreamRequest StreamTableIntact (sppClientEngineInit setupClientParams staticClient)
        [requestStream 0, requestStream 1] ∧
      EveryAttempt receiveStreamRequest StreamRequestHandled (sppClientEngineInit setupClientParams staticClient)
        [requestStream 0, requestStream 1] :=
  (stream_table_intact setupClientParams staticClient rfl [requestStream 0, requestStream 1]).mpr (by decide)

/-- The host restarts in between and counts its streams from 0 again. -/
theorem stream_table_restarted_host :
    (∃ final events, run receiveStreamRequest (sppClientEngineInit setupClientParams staticClient)
        [requestStream 0, requestStream 0] = .ok (final, events) ∧ final.openStreams.map (·.streamId) = [0, 0]) ∧
      ¬∀ requests : List (StreamRequestMessage 1),
        EveryState receiveStreamRequest StreamTableIntact (sppClientEngineInit setupClientParams staticClient)
            requests ∧
          EveryAttempt receiveStreamRequest StreamRequestHandled
            (sppClientEngineInit setupClientParams staticClient) requests := by
  obtain ⟨final, events, done, same⟩ := run_checked receiveStreamRequest
    (sppClientEngineInit setupClientParams staticClient) [requestStream 0, requestStream 0]
    (fun final _ => decide (final.openStreams.map (·.streamId) = [0, 0])) rfl
  have twice := of_decide_eq_true same
  refine ⟨⟨final, events, done, twice⟩, fun always => ?_⟩
  have distinct := ((always _).1.final done).distinct
  rw [twice] at distinct
  exact absurd distinct (by decide)

end TvcHopper.Spp
