import TvcHopper.Spp.Emissions
import TvcHopper.Spp.Flight
import TvcHopper.Spp.Refusals
import TvcHopper.Telemetry.Server

/-! The host engine of the telemetry server, with one vehicle.

Until the vehicle has connected the engine knows no client. From then on it
holds the definitions of the vehicle in the order of their arrival, and a lookup
finds the first one with an id.
-/

set_option autoImplicit false

namespace TvcHopper.Telemetry
open Machine Machine.Slots Spp

def serverSetup : HostSetup := ⟨0x0, bufferSize, sppConnectionsMax⟩

/-- The address of the vehicle, `default_addr`. -/
abbrev vehicleAddress : UInt8 := 0x1

/-- The engine holds these definitions of the vehicle, and `client` points to its address. -/
inductive Serves (host : SppHostEngine) (client : SppAddress) : List SppPropertyDefinition → Prop where
  | nobody (holds : HostHolds serverSetup host []) (size : host.defsBuffer.length = bufferSize)
      (ready : host.state = .ready) (pointer : client.address = .external [vehicleAddress]) : Serves host client []
  | vehicle {definitions : List SppPropertyDefinition} (propertyListId : UInt16)
      (holds : HostHolds serverSetup host [⟨vehicleAddress, propertyListId, definitions⟩])
      (size : host.defsBuffer.length = bufferSize) (addressed : Addressed client vehicleAddress) :
      Serves host client definitions

section Lookups
variable {host host' : SppHostEngine} {client : SppAddress} {definitions : List SppPropertyDefinition} {id : UInt16}

theorem Serves.holds (serves : Serves host client definitions) : ∃ joined, HostHolds serverSetup host joined := by
  cases serves with
  | nobody holds _ _ _ => exact ⟨_, holds⟩
  | vehicle _ holds _ _ => exact ⟨_, holds⟩

theorem points_addressed {propertyListId : UInt16}
    (holds : HostHolds serverSetup host [⟨vehicleAddress, propertyListId, definitions⟩])
    (addressed : Addressed client vehicleAddress) : PointsTo host client vehicleAddress := by
  rcases addressed with ⟨rest, same⟩ | same
  · exact ⟨rest, by rw [same]; rfl⟩
  · have read := holds.table.read (by decide) Nat.zero_lt_one
    rw [holds.table.known 0 (by decide) Nat.zero_lt_one] at read
    rwa [PointsTo, same]

theorem nobody_found (holds : HostHolds serverSetup host []) (pointer : client.address = .external [vehicleAddress]) :
    sppGetClientIdx host client = .ok none := by
  have points : PointsTo host client vehicleAddress := ⟨[], by rw [pointer]; rfl⟩
  apply search_eq_none.mpr
  intro place _ below
  rw [(isClientAt_eq holds.one holds.table points (by omega)).1]
  rfl

theorem Serves.lookup (serves : Serves host client definitions) (id : UInt16) :
    ∃ status, sppHostGetDefinition host client id = .ok (status, definitions.findIdx? (·.id == id)) := by
  cases serves with
  | nobody holds _ _ pointer => exact ⟨_, sppHostGetDefinition_unknown (nobody_found holds pointer) id⟩
  | vehicle propertyListId holds size addressed =>
    have found := sppHostGetDefinition_eq holds (i := 0) rfl (points_addressed holds addressed) id
    rw [searched_single] at found
    cases index : definitions.findIdx? (·.id == id) with
    | none =>
      rw [index] at found
      exact ⟨_, found⟩
    | some place =>
      rw [index] at found
      exact ⟨_, found⟩

theorem Serves.copy (serves : Serves host client definitions) {place : Nat}
    (found : definitions.findIdx? (·.id == id) = some place) :
    ∃ copy pd, host.defsBuffer[place]? = some copy ∧ SameDefinition copy pd ∧
      definitions.find? (·.id == id) = some pd := by
  cases serves with
  | nobody _ _ _ _ => cases found
  | vehicle propertyListId holds _ _ =>
    obtain ⟨copy, pd, stored, same, first⟩ := holds.copy_found (i := 0) rfl (by rwa [searched_single])
    rw [searched_single] at first
    exact ⟨copy, pd, stored, same, first⟩

theorem findIdx_of_find {pd : SppPropertyDefinition} (first : definitions.find? (·.id == id) = some pd) :
    ∃ place, definitions.findIdx? (·.id == id) = some place := by
  cases found : definitions.findIdx? (·.id == id) with
  | none => simp [List.find?_eq_bind_findIdx?_getElem?, found] at first
  | some place => exact ⟨place, rfl⟩

theorem findIdx_absent (absent : definitions.find? (·.id == id) = none) :
    definitions.findIdx? (·.id == id) = none := by
  apply List.findIdx?_eq_none_iff.mpr
  intro pd member
  simpa using List.find?_eq_none.mp absent pd member

theorem count_nobody (holds : HostHolds serverSetup host []) : host.clientCount = 0 :=
  UInt8.toNat_inj.mp holds.table.count

theorem count_vehicle {propertyListId : UInt16}
    (holds : HostHolds serverSetup host [⟨vehicleAddress, propertyListId, definitions⟩]) : host.clientCount ≠ 0 := by
  intro none
  have count := holds.table.count
  rw [none] at count
  cases count

end Lookups

/-! ## Requests -/

section Requests
variable {host host' : SppHostEngine} {client : SppAddress} {definitions : List SppPropertyDefinition} {id : UInt16}
  {effects : List HostEffect} {status : SppStatus}

theorem HostHolds.requested {joined : List Joined} {call : HostCall} (holds : HostHolds serverSetup host joined)
    (change : RequestChange host host' status call) : HostHolds serverSetup host' joined := by
  cases change with
  | refused _ same _ => exact same ▸ holds
  | token _ _ drawn => exact drawn ▸ holds.withRequest
  | stream room defined here bound ok entered => exact entered ▸ (holds.enterStream _ _ _ _ bound).withRequest

theorem Serves.requested {call : HostCall} (serves : Serves host client definitions)
    (change : RequestChange host host' status call) : Serves host' client definitions := by
  have buffer : host'.defsBuffer.length = host.defsBuffer.length :=
    congrArg (fun directory => directory.defsBuffer.length) change.directory
  cases serves with
  | nobody holds size ready pointer =>
    have state : host'.state = host.state := congrArg Directory.state change.directory
    exact .nobody (HostHolds.requested holds change) (buffer.trans size) (state.trans ready) pointer
  | vehicle propertyListId holds size addressed =>
    exact .vehicle propertyListId (HostHolds.requested holds change) (buffer.trans size) addressed

theorem withRequest_objects (host : SppHostEngine) : (withRequest host).streamObjects = host.streamObjects := by
  unfold withRequest sppInsertToken
  cases replaceFirst sppTokenMaxReserved (sppGetToken host).2 (sppGetToken host).1.pendingRequestTokens <;> rfl

theorem RequestChange.objects {call : HostCall} (change : RequestChange host host' status call) :
    host'.streamObjects.length = host.streamObjects.length := by
  cases change with
  | refused _ same _ => rw [same]
  | token _ _ drawn => rw [drawn, withRequest_objects]
  | stream room defined here bound ok entered => rw [entered, withRequest_objects, enterStream, List.length_set]

theorem Serves.getValue (serves : Serves host client definitions) (id : UInt16) :
    ∃ host' effects status, sppHostGetValue host client id = .ok (host', effects, status) := by
  by_cases full : host.pendingRequestCount > 8
  · exact ⟨_, _, _, if_pos full⟩
  cases serves with
  | nobody holds _ _ pointer =>
    refine ⟨host, [], sppStatusNoSuchClient, ?_⟩
    rw [sppHostGetValue, if_neg full, nobody_found holds pointer]
    rfl
  | vehicle propertyListId holds size addressed =>
    exact ⟨_, _, _, host_getValue holds (i := 0) rfl (points_addressed holds addressed) full id⟩

/-- The receive buffer is longer than any value. -/
theorem Serves.setValue (serves : Serves host client definitions) (id : UInt16) {value : List UInt8}
    (long : 255 ≤ value.length) :
    ∃ host' effects status, sppHostSetValue host client id value = .ok (host', effects, status) := by
  by_cases full : host.pendingRequestCount > 8
  · exact ⟨_, _, _, if_pos full⟩
  obtain ⟨status, lookup⟩ := serves.lookup id
  cases first : definitions.find? (·.id == id) with
  | none =>
    rw [findIdx_absent first] at lookup
    refine ⟨host, [], status, ?_⟩
    rw [sppHostSetValue, if_neg full, lookup]
    rfl
  | some pd =>
    cases serves with
    | nobody _ _ _ _ => cases first
    | vehicle propertyListId holds size addressed =>
      have small := pd.size.toNat_lt
      exact ⟨_, _, _, host_setValue holds (i := 0) rfl (points_addressed holds addressed) full
        (by rwa [searched_single]) (by omega)⟩

/-- A stream is started or refused, unless one of the two arrays has no place for it, or there is no byte behind the
message. -/
theorem Serves.startStream_iff (serves : Serves host client definitions) (id period : UInt16) (streamType : UInt8)
    (stream spare : Nat) :
    (∃ host' effects status,
        sppHostStartStream host client id period streamType stream spare = .ok (host', effects, status)) ↔
      (¬host.pendingRequestCount > 8 → (∃ pd ∈ definitions, pd.id = id) →
        stream < host.streamObjects.length ∧ host.streamCount.toNat < sppStreamMaxCount ∧ 0 < spare) := by
  by_cases full : host.pendingRequestCount > 8
  · have refused : sppHostStartStream host client id period streamType stream spare =
        .ok (host, [], sppStatusPendingFull) := if_pos full
    simp [refused, full]
  have checked : sppHostStartStream host client id period streamType stream spare = _ := if_neg full
  cases serves with
  | nobody holds _ _ pointer =>
    have refused : sppHostStartStream host client id period streamType stream spare =
        .ok (host, [], sppStatusNoSuchClient) := by
      rw [checked, nobody_found holds pointer]
      rfl
    simp [refused]
  | vehicle propertyListId holds size addressed =>
    have points := points_addressed holds addressed
    have found := sppGetClientIdx_joined holds.one holds.table holds.distinct (i := 0) rfl points
    obtain ⟨status, lookup⟩ := (Serves.vehicle propertyListId holds size addressed).lookup id
    cases first : definitions.find? (·.id == id) with
    | none =>
      rw [findIdx_absent first] at lookup
      have refused : sppHostStartStream host client id period streamType stream spare = .ok (host, [], status) := by
        rw [checked, found, ok_bind]
        simp only [lookup]
        rfl
      have absent : ¬∃ pd ∈ definitions, pd.id = id := by
        rintro ⟨pd, member, same⟩
        exact absurd (List.find?_eq_none.mp first pd member) (by simp [same])
      simp [refused, absent]
    | some pd =>
      have listed := listed_of_find first
      have searched : (Spp.searched [⟨vehicleAddress, propertyListId, definitions⟩]
          ⟨vehicleAddress, propertyListId, definitions⟩).find? (·.id == id) = some pd := by
        rwa [searched_single]
      have returns := host_startStream_returns holds (i := 0) rfl points full searched period streamType stream spare
      simpa [full, listed] using returns

end Requests

/-! ## Messages -/

/-- The messages of the vehicle, as its engine fills them in. -/
inductive VehicleMessage where
  | connectRequest (broadcast : UInt8) (propertyListId : UInt16)
  | listResponse (count : UInt8) (numBytes : UInt16) (last : UInt8)
  | definition (pd : SppPropertyDefinition) (remaining : UInt8) (terminated : 0 ∈ pd.name.toList)
  | getResponse (token size : UInt8) (id : UInt16) (value : List UInt8) (short : value.length < 256)
  | setResponse (token : UInt8)
  | stream (streamId : UInt8) (timestamp : UInt32) (value : List UInt8) (short : value.length < 256)

def VehicleMessage.bytes : VehicleMessage → List UInt8
  | .connectRequest broadcast propertyListId => Message.connectRequest vehicleAddress broadcast propertyListId
  | .listResponse count numBytes last => Message.listResponse vehicleAddress 0x0 count numBytes last
  | .definition pd remaining _ => Message.definition vehicleAddress 0x0 pd remaining (sentName pd.name)
  | .getResponse token size id value _ => Message.getResponse vehicleAddress 0x0 token size id value
  | .setResponse token => Message.setResponse vehicleAddress 0x0 token
  | .stream streamId timestamp value _ => Message.stream vehicleAddress 0x0 streamId timestamp value

/-- The engine is given the message and the memory behind it. -/
def process (host : SppHostEngine) (message : VehicleMessage) (trailing : List UInt8) (unset : Nat) : HostResult :=
  sppHostProcessMessage host (message.bytes ++ trailing) (messageSize16 message.bytes) unset

section Messages
variable {host host' : SppHostEngine} {client : SppAddress} {definitions : List SppPropertyDefinition}

theorem VehicleMessage.long (message : VehicleMessage) : 4 ≤ (messageSize16 message.bytes).toNat := by
  cases message with
  | connectRequest broadcast propertyListId =>
    exact messageSize16_long (by simp [bytes, Message.connectRequest]) (by simp [bytes, Message.connectRequest])
  | listResponse count numBytes last =>
    exact messageSize16_long (by simp [bytes, Message.listResponse]) (by simp [bytes, Message.listResponse])
  | definition pd remaining terminated =>
    have sent := length_sentName terminated
    have name : nameLength pd.name < 32 := nameLength_lt terminated
    have length := length_definitionMessage vehicleAddress 0x0 pd remaining (sentName pd.name)
    exact messageSize16_long (by simp only [bytes]; omega) (by simp only [bytes]; omega)
  | getResponse token size id value short =>
    exact messageSize16_long (by simp [bytes, Message.getResponse]) (by simp [bytes, Message.getResponse]; omega)
  | setResponse token =>
    exact messageSize16_long (by simp [bytes, Message.setResponse]) (by simp [bytes, Message.setResponse])
  | stream streamId timestamp value short =>
    exact messageSize16_long (by simp [bytes, Message.stream]) (by simp [bytes, Message.stream]; omega)

/-- The engine gets through a message without a value, and holds these definitions then. -/
def Accepts (host : SppHostEngine) (client : SppAddress) (result : HostResult)
    (definitions : List SppPropertyDefinition) : Prop :=
  ∃ host' effects status, result = .ok (host', effects, status) ∧ Serves host' client definitions ∧
    host'.streamObjects.length = host.streamObjects.length ∧ ∀ effect ∈ effects, ∃ sent, effect = .sendMessage sent

theorem sppConnectToClient_known {propertyListId : UInt16} (holds : HostHolds serverSetup host
    [⟨vehicleAddress, propertyListId, definitions⟩]) (newList : UInt16) :
    sppConnectToClient host ⟨.external [vehicleAddress], newList⟩ =
      .ok (host, [.sendMessage (Message.connectResponse 0x0 vehicleAddress sppStatusOk)]) := by
  have points := pointsTo_external host vehicleAddress [] newList
  have known := known_client holds.one holds.table holds.distinct (i := 0) rfl points
  have added : sppAddClient host ⟨.external [vehicleAddress], newList⟩ =
      .ok (host, ⟨.external [vehicleAddress], newList⟩) := by
    rw [sppAddClient, known]
    rfl
  have count : host.clientCount.toNat = 1 := holds.table.count
  have loop : sppConnectLoop ⟨.external [vehicleAddress], newList⟩ host.clientCount.toNat 0 host sppStatusOk =
      .ok (host, sppStatusOk) := by
    rw [count]
    apply sppConnectLoop_same_client (by decide)
    intro place bound _ below _
    obtain rfl : place = 0 := by omega
    exact (isClientAt_eq holds.one holds.table points bound).1
  rw [sppConnectToClient, added, ok_bind]
  simp only [fillMessageHeader_one holds.one points, ok_bind, loop]
  rfl

theorem Serves.connectRequest (serves : Serves host client definitions) (broadcast : UInt8) (propertyListId : UInt16)
    (trailing : List UInt8) (unset : Nat) :
    Accepts host client (process host (.connectRequest broadcast propertyListId) trailing unset) definitions := by
  have long := (VehicleMessage.connectRequest broadcast propertyListId).long
  cases serves with
  | nobody holds size ready pointer =>
    have absent : vehicleAddress ∉ ([] : List Joined).map (·.address) := List.not_mem_nil
    have newList : propertyListId ∉ ([] : List Joined).map (·.propertyListId) := List.not_mem_nil
    have processed := host_connectRequest holds ready absent newList (by decide) (by decide) broadcast trailing
      _ long unset
    have memory : 0 < host.addressBuffer.length := Nat.lt_of_lt_of_le (by decide) holds.addressRoom
    have holds' := (holds.withState .connecting).withClient absent propertyListId (by decide) memory
    exact ⟨_, _, _, processed, .vehicle propertyListId holds' size (.inl ⟨[], pointer⟩), rfl, by simp⟩
  | vehicle known holds size addressed =>
    cases state : host.state with
    | connecting =>
      have processed : process host (.connectRequest broadcast propertyListId) trailing unset = .ok (host, _, _) :=
        processConnectRequest_busy holds.one state broadcast trailing long unset
      exact ⟨_, _, _, processed, .vehicle known holds size addressed, rfl, by simp⟩
    | ready =>
      have holds' := holds.withState .connecting
      have processed := processConnectRequest holds.one state broadcast trailing long unset
        (sppConnectToClient_known holds' propertyListId)
      exact ⟨_, _, _, processed, .vehicle known holds' size addressed, rfl, by simp⟩

theorem Serves.listResponse (serves : Serves host client definitions) (count : UInt8) (numBytes : UInt16) (last : UInt8)
    (trailing : List UInt8) (unset : Nat) :
    Accepts host client (process host (.listResponse count numBytes last) trailing unset) definitions := by
  obtain ⟨joined, holds⟩ := serves.holds
  obtain ⟨status, processed, -⟩ := processListResponse holds.one vehicleAddress count numBytes last trailing
    (VehicleMessage.listResponse count numBytes last).long unset
  exact ⟨_, _, _, processed, serves, rfl, by simp⟩

theorem Serves.withoutToken (serves : Serves host client definitions) (token : UInt8) :
    Serves (Spp.withoutToken host token) client definitions := by
  have buffer : (Spp.withoutToken host token).defsBuffer.length = host.defsBuffer.length :=
    congrArg (fun directory => directory.defsBuffer.length) (sppClearToken_directory host token)
  cases serves with
  | nobody holds size ready pointer =>
    have state : (Spp.withoutToken host token).state = host.state :=
      congrArg Directory.state (sppClearToken_directory host token)
    exact .nobody (holds.withoutToken token) (buffer.trans size) (state.trans ready) pointer
  | vehicle propertyListId holds size addressed =>
    exact .vehicle propertyListId (holds.withoutToken token) (buffer.trans size) addressed

theorem withoutToken_objects (host : SppHostEngine) (token : UInt8) :
    (withoutToken host token).streamObjects = host.streamObjects := by
  unfold Spp.withoutToken sppClearToken
  cases replaceFirst token sppTokenMaxReserved host.pendingRequestTokens <;> rfl

theorem Serves.setResponse (serves : Serves host client definitions) (token : UInt8) (trailing : List UInt8)
    (unset : Nat) : Accepts host client (process host (.setResponse token) trailing unset) definitions := by
  obtain ⟨joined, holds⟩ := serves.holds
  have processed := host_setResponse_cleared holds vehicleAddress token trailing (VehicleMessage.setResponse token).long
    unset
  exact ⟨_, _, _, processed, serves.withoutToken token, by rw [withoutToken_objects], by simp⟩

theorem Serves.definition (serves : Serves host client definitions) (pd : SppPropertyDefinition)
    (remaining : UInt8) (terminated : 0 ∈ pd.name.toList) (known : host.clientCount ≠ 0)
    (room : definitions.length < bufferSize) (trailing : List UInt8) (unset : Nat) :
    Accepts host client (process host (.definition pd remaining terminated) trailing unset) (definitions ++ [pd]) := by
  cases serves with
  | nobody holds _ _ _ => exact absurd (count_nobody holds) known
  | vehicle propertyListId holds size addressed =>
    have fits : (received ([] : List Joined)).length + definitions.length < serverSetup.definitions := by
      rw [received, List.flatMap_nil, List.length_nil, Nat.zero_add]
      exact room
    have alone : HostHolds serverSetup host ([] ++ [⟨vehicleAddress, propertyListId, definitions⟩]) := holds
    obtain ⟨copy, same, processed⟩ := host_definition alone fits terminated (by decide) remaining trailing unset
    have holds' := HostHolds.withDefinition alone fits same (by decide) remaining
    refine ⟨_, _, _, processed, .vehicle propertyListId holds' ?_ addressed, rfl, by simp⟩
    rw [withDefinition, List.length_set, size]

/-- The engine has a place for a definition of the vehicle, whatever the index of an unknown client happens to be. -/
theorem Serves.definition_iff (serves : Serves host client definitions) (pd : SppPropertyDefinition)
    (remaining : UInt8) (terminated : 0 ∈ pd.name.toList) (trailing : List UInt8) :
    (∀ unset, ∃ result, process host (.definition pd remaining terminated) trailing unset = .ok result) ↔
      host.clientCount ≠ 0 ∧ definitions.length < bufferSize := by
  have long := (VehicleMessage.definition pd remaining terminated).long
  constructor
  · intro completes
    cases serves with
    | nobody holds _ _ _ =>
      -- the index of a client that is not in the table is not set
      obtain ⟨result, done⟩ := completes sppConnectionsMax
      have message := definitionMessage_unpacked holds.one vehicleAddress pd remaining (sentName pd.name) trailing long
        sppConnectionsMax
      obtain ⟨host', unpacked, -⟩ := map_eq_ok.mp (message.symm.trans done)
      obtain ⟨found, bound, -, -, searched, -⟩ := (sppUnpackPropDef_outcome unpacked).stored
      obtain rfl := Except.ok.inj ((nobody_found holds rfl).symm.trans searched)
      exact absurd bound (Nat.lt_irrefl _)
    | vehicle propertyListId holds size addressed =>
      refine ⟨count_vehicle holds, ?_⟩
      by_contra full
      have used : host.defsBufferUsed.toNat = definitions.length := by
        rw [holds.used, received, List.flatMap_cons, List.flatMap_nil, List.append_nil]
      obtain ⟨fault, faults⟩ := processDefinition_full holds.one (by omega) vehicleAddress pd remaining
        (sentName pd.name) trailing long 0
      obtain ⟨result, done⟩ := completes 0
      rw [process, VehicleMessage.bytes] at done
      cases faults.symm.trans done
  · rintro ⟨known, room⟩ unset
    obtain ⟨host', effects, status, processed, -⟩ :=
      serves.definition pd remaining terminated known room trailing unset
    exact ⟨_, processed⟩

/-! ## Messages with a value -/

theorem Serves.getResponse (serves : Serves host client definitions) (token size : UInt8) (id : UInt16)
    (value : List UInt8) (short : value.length < 256) (trailing : List UInt8) (unset : Nat) :
    ∃ status, process host (.getResponse token size id value short) trailing unset =
      .ok (Spp.withoutToken host token,
        if token ∈ host.pendingRequestTokens.toList then
          [.onValueResponse ⟨.external [vehicleAddress], 0⟩ id (value ++ trailing)]
        else [], status) := by
  obtain ⟨joined, holds⟩ := serves.holds
  have processed := host_getResponse_cleared holds vehicleAddress size token id value trailing
    (VehicleMessage.getResponse token size id value short).long unset
  simp only [sppClearToken_status] at processed
  exact ⟨_, processed⟩

def streamObject (host : SppHostEngine) (streamId : UInt8) : Option (Nat × SppStream) :=
  match host.streams[streamId.toNat]? with
  | some (some object) => host.streamObjects[object]?.map (object, ·)
  | _ => none

theorem streamObject_eq_some {streamId : UInt8} {object : Nat} {stream : SppStream} :
    streamObject host streamId = some (object, stream) ↔
      host.streams[streamId.toNat]? = some (some object) ∧ host.streamObjects[object]? = some stream := by
  unfold streamObject
  constructor
  · intro here
    split at here
    · next place cell =>
      obtain ⟨found, stored, same⟩ := Option.map_eq_some_iff.mp here
      obtain ⟨rfl, rfl⟩ := Prod.mk.inj same
      exact ⟨cell, stored⟩
    · cases here
  · rintro ⟨cell, stored⟩
    simp [cell, stored]

theorem Serves.stream (serves : Serves host client definitions) {streamId : UInt8} {object : Nat} {stream : SppStream}
    (here : streamObject host streamId = some (object, stream)) (timestamp : UInt32) (value : List UInt8)
    (short : value.length < 256) (trailing : List UInt8) (unset : Nat) :
    process host (.stream streamId timestamp value short) trailing unset =
      .ok ({ host with
          streamObjects := host.streamObjects.set object { stream with value := some (value ++ trailing) } },
        [.onStreamResponse timestamp { stream with value := some (value ++ trailing) }], sppStatusOk) := by
  obtain ⟨joined, holds⟩ := serves.holds
  obtain ⟨cell, stored⟩ := streamObject_eq_some.mp here
  exact host_stream holds vehicleAddress cell stored timestamp value trailing
    (VehicleMessage.stream streamId timestamp value short).long unset

/-- Without an object C leaves the processing undefined. -/
theorem Serves.stream_object (serves : Serves host client definitions) {streamId : UInt8} {timestamp : UInt32}
    {value trailing : List UInt8} {short : value.length < 256} {unset : Nat}
    {result : SppHostEngine × List HostEffect × SppStatus}
    (done : process host (.stream streamId timestamp value short) trailing unset = .ok result) :
    ∃ object stream, streamObject host streamId = some (object, stream) := by
  obtain ⟨joined, holds⟩ := serves.holds
  have processed : process host (.stream streamId timestamp value short) trailing unset =
      sppProcessStream host _ (sppMsgHdrSize host.addressLength) :=
    hostProcess_one holds.one _ _ _ _ (VehicleMessage.stream streamId timestamp value short).long _
  rw [processed, holds.one.addressLength] at done
  obtain ⟨id, first, done⟩ := bind_eq_ok.mp done
  obtain rfl : streamId = id := Except.ok.inj first
  obtain ⟨pointer, cell, done⟩ := bind_eq_ok.mp done
  cases pointer with
  | none => cases done
  | some object =>
    obtain ⟨_, -, done⟩ := bind_eq_ok.mp done
    obtain ⟨stream, stored, -⟩ := bind_eq_ok.mp done
    exact ⟨object, stream, streamObject_eq_some.mpr
      ⟨Vector.getElem?_eq_some_iff.mpr (loadCell_eq_ok.mp cell), load_eq_ok.mp stored⟩⟩

theorem Serves.withObjects (serves : Serves host client definitions) (streamObjects : List SppStream) :
    Serves { host with streamObjects } client definitions := by
  cases serves with
  | nobody holds size ready pointer =>
    exact .nobody (holds.withStream host.streamCount host.streams streamObjects) size ready pointer
  | vehicle propertyListId holds size addressed =>
    exact .vehicle propertyListId (holds.withStream host.streamCount host.streams streamObjects) size addressed

end Messages

/-! ## The two ways to start -/

theorem serverParams_setup (storage : Storage) : HostParams serverSetup (serverParams storage) where
  addressLength := rfl
  callbacks := comparesAddresses_firstByte
  hostAddress := ⟨[], rfl⟩
  definitionLimit := rfl
  definitionRoom := by simp [serverParams, serverSetup]
  addressRoom := by simp [serverParams, serverSetup]

theorem serves_constructed (storage : Storage) :
    Serves (telemetryComms storage).spp (telemetryComms storage).defaultClient [] :=
  .nobody ((serverParams_setup storage).holds _) (by simp [telemetryComms, sppHostEngineInit, serverParams]) rfl rfl

theorem serves_start (storage : Storage) :
    ∃ spp defaultClient output, start (telemetryComms storage) =
        .ok ({ telemetryComms storage with spp, defaultClient }, output) ∧
      Serves spp defaultClient [] ∧ spp.streamObjects = storage.streams.toList := by
  have holds := (serverParams_setup storage).holds { storage.spp with streamObjects := storage.streams.toList }
  have absent : vehicleAddress ∉ ([] : List Joined).map (·.address) := List.not_mem_nil
  have newList : (0 : UInt16) ∉ ([] : List Joined).map (·.propertyListId) := List.not_mem_nil
  have memory : 0 < (telemetryComms storage).spp.addressBuffer.length :=
    Nat.lt_of_lt_of_le (by decide) holds.addressRoom
  have points : PointsTo (telemetryComms storage).spp (telemetryComms storage).defaultClient vehicleAddress :=
    ⟨[], rfl⟩
  have added := sppAddClient_new holds.one holds.table absent points (by decide) memory
  have connected := sppConnectToClient_new holds.one holds.table absent points newList (by decide) memory
  refine ⟨_, ⟨.permanent 0, 0⟩, ⟨[.sendMessage (Message.connectResponse 0x0 vehicleAddress sppStatusOk)], []⟩, ?_,
    .vehicle 0 (holds.withClient absent 0 (by decide) memory) ?_ (.inr rfl), rfl⟩
  · exact bind_eq_ok.mpr ⟨_, added, bind_eq_ok.mpr ⟨_, connected, rfl⟩⟩
  · simp [withClient, sppHostEngineInit, serverParams]

end TvcHopper.Telemetry
