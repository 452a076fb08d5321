import TvcHopper.Machine.Faults
import TvcHopper.Spp.ClientReading
import TvcHopper.Spp.ClientStreams

/-! The client against any message.

The client checks the length of the header only, and does not look at the status
of a lookup: it goes on with the pointer that was left unset. It survives a run
exactly when every message has all its bytes and names what the client knows.
-/

set_option autoImplicit false

namespace TvcHopper.Spp
open Machine Client

variable {σ : Type}

/-- As many bytes as the length says. -/
structure ReceivedMessage where
  bytes : List UInt8
  len : UInt16
  whole : bytes.length = len.toNat

inductive DeviceCall where
  | start (stack : Stack)
  | receive (message : ReceivedMessage) (behind : List UInt8) (stack : Stack)
  | processStreams (timestamp elapsedTime : UInt32) (stack : Stack)

def DeviceCall.toClientCall : DeviceCall → ClientCall
  | .start stack => .start stack
  | .receive message behind stack => .processMessage (message.bytes ++ behind) message.len stack
  | .processStreams timestamp elapsedTime stack => .processStreams timestamp elapsedTime stack

def deviceCall (client : SppClientEngine σ) (call : DeviceCall) : Except Fault (SppClientEngine σ × ClientEvent) :=
  clientCall client call.toClientCall

/-! ## What surviving means -/

def PropertyFound (client : SppClientEngine σ) (id : UInt16) : Prop :=
  ∃ place, sppGetDefinition client id = .ok (some place)

def StreamFound (client : SppClientEngine σ) (streamId : UInt8) : Prop :=
  ∃ stream, sppGetStream client streamId.toUInt16 = .ok (some stream)

namespace ClientReading

/-- The property or the stream that the message names is found. -/
def NamesFound (client : SppClientEngine σ) : ClientReading → Prop
  | .fields _ (.getRequest _ id) => PropertyFound client id
  | .fields _ (.setRequest _ _ id _) => PropertyFound client id
  | .fields _ (.streamRequest _ _ _ id _) => PropertyFound client id
  | .stream streamId _ _ => StreamFound client streamId
  | _ => True

/-- The bytes that the application takes as the value are in the message: as many as the property has. -/
def ValueInside (client : SppClientEngine σ) : ClientReading → Prop
  | .fields _ (.setRequest _ _ id value) => ∀ place pd, sppGetDefinition client id = .ok (some place) →
      client.properties[place]? = some pd → pd.size.toNat ≤ value.length
  | .stream streamId _ value => ∀ stream s place pd, sppGetStream client streamId.toUInt16 = .ok (some stream) →
      loadCell client.streams stream = .ok s → s.definition = some place →
        client.properties[place]? = some pd → pd.size.toNat ≤ value.length
  | _ => True

end ClientReading

/-- Nothing behind the message is read, nothing that was not found is dereferenced, and a message that names
something unknown has no effect. -/
structure SurvivesMessage (client : SppClientEngine σ) (message : ReceivedMessage) : Prop where
  reads : ∃ reading, readForClient client.addressLength message.bytes message.len = .ok reading ∧
    reading.ValueInside client ∧ ∀ trailing stack,
      sppClientProcessMessage client (message.bytes ++ trailing) message.len stack =
        (reading.followedBy trailing).act client stack
  found : ∀ trailing stack,
    sppClientProcessMessage client (message.bytes ++ trailing) message.len stack ≠ .error .wildPointer
  unknown : ∀ reading, readForClient client.addressLength message.bytes message.len = .ok reading →
    ¬reading.NamesFound client → ∀ trailing stack, ∃ client' sent status,
      sppClientProcessMessage client.logged (message.bytes ++ trailing) message.len stack =
          .ok (client', sent, status) ∧
        client'.instanceData.2 = [] ∧ client'.streamCount = client.streamCount

def Survives (client : SppClientEngine σ) : DeviceCall → Prop
  | .receive message _ _ => SurvivesMessage client message
  | _ => True

/-! ## The messages that are survived -/

/-- The first property with the id, of those an 8-bit index gets to. -/
def listedProperty (client : SppClientEngine σ) (id : UInt16) : Option SppPropertyDefinition :=
  (client.properties.take 256).find? (·.id == id)

def openedStream (client : SppClientEngine σ) (streamId : UInt8) : Option SppStream :=
  client.openStreams.find? (·.streamId == streamId)

/-- The client knows what the message names, and the value is all there. -/
structure NamesKnown (client : SppClientEngine σ) (message : List UInt8) (msgId : UInt8) : Prop where
  get : msgId = sppMsgGetRequestId → ∀ id, load16 message (bodyStart client + 1).toNat = .ok id →
    ∃ pd, listedProperty client id = some pd
  set : msgId = sppMsgSetRequestId → ∀ id, load16 message (bodyStart client + 2).toNat = .ok id →
    ∃ pd, listedProperty client id = some pd ∧ pd.size.toNat ≤ message.length - (bodyStart client + 4).toNat
  streamRequest : msgId = sppMsgStreamRequestId → ∀ id, load16 message (bodyStart client + 3).toNat = .ok id →
    ∃ pd, listedProperty client id = some pd
  stream : msgId = sppMsgStreamId → ∀ streamId, load message (bodyStart client).toNat = .ok streamId →
    ∃ s place pd, openedStream client streamId = some s ∧ s.definition = some place ∧
      client.properties[place]? = some pd ∧ pd.size.toNat ≤ message.length - (bodyStart client + 5).toNat

/-- A message that the header checks turn down, or that has all its fields and names what is known. -/
def MessageAllowed (client : SppClientEngine σ) (message : ReceivedMessage) : Prop :=
  message.len.toNat < sppMsgHdrSize client.addressLength ∨ message.bytes[0]? ≠ some sppMsgSyncWord ∨
    ∃ msgId, message.bytes[1]? = some msgId ∧
      (∀ field ∈ clientFields client.addressLength msgId, field.1 + field.2 ≤ message.len.toNat) ∧
      NamesKnown client message.bytes msgId

def CallAllowed (client : SppClientEngine σ) : DeviceCall → Prop
  | .receive message _ _ => MessageAllowed client message
  | _ => True

/-- What the lookups rely on: the count is that of the list, and the open streams have their definitions. -/
structure LookupTables (client : SppClientEngine σ) : Prop where
  count : client.propertyCount.toNat = client.properties.length
  few : client.streamCount.toNat ≤ sppStreamMaxCount
  defined : ∀ stream ∈ client.openStreams, ∃ place, stream.definition = some place ∧ place < client.properties.length

/-! ## The lookups -/

section Lookups
variable {client : SppClientEngine σ} {id : UInt16} {streamId : UInt8}

theorem sppGetDefinition_listed (count : client.propertyCount.toNat = client.properties.length) {place : Nat}
    (found : sppGetDefinition client id = .ok (some place)) :
    ∃ pd, client.properties[place]? = some pd ∧ listedProperty client id = some pd := by
  rw [sppGetDefinition_eq count] at found
  cases searched : (client.properties.take 256).findIdx? (·.id == id) with
  | none =>
    rw [searched] at found
    by_cases narrow : client.properties.length < 256
    all_goals simp [narrow] at found
  | some first =>
    rw [searched] at found
    obtain rfl : first = place := Option.some.inj (Except.ok.inj found)
    obtain ⟨within, -, -⟩ := List.findIdx?_eq_some_iff_getElem.mp searched
    have inside : first < client.properties.length := by
      rw [List.length_take] at within
      omega
    refine ⟨client.properties[first], List.getElem?_eq_getElem inside, ?_⟩
    rw [listedProperty, List.find?_eq_bind_findIdx?_getElem?, searched, Option.bind_some,
      List.getElem?_eq_getElem within, List.getElem_take]

theorem propertyFound_iff (count : client.propertyCount.toNat = client.properties.length) :
    PropertyFound client id ↔ ∃ pd, listedProperty client id = some pd := by
  constructor
  · rintro ⟨place, found⟩
    obtain ⟨pd, -, listed⟩ := sppGetDefinition_listed count found
    exact ⟨pd, listed⟩
  · rintro ⟨pd, listed⟩
    have member := List.mem_of_find?_eq_some listed
    have same := List.find?_some listed
    exact (sppGetDefinition_known count).mpr ⟨pd, member, by simpa using same⟩

theorem sppGetStream_eq (few : client.streamCount.toNat ≤ sppStreamMaxCount) (streamId : UInt8) :
    sppGetStream client streamId.toUInt16 = .ok (client.openStreams.findIdx? (·.streamId == streamId)) := by
  have reads : ∀ (place : Nat) (s : SppStream), client.streams.toList[place]? = some s →
      (do return (← loadCell client.streams place).streamId.toUInt16 = streamId.toUInt16 : Except Fault Bool) =
        .ok (s.streamId == streamId) := by
    intro place s here
    obtain ⟨within, same⟩ := List.getElem?_eq_some_iff.mp here
    rw [Vector.length_toList] at within
    rw [Vector.getElem_toList] at same
    have cell : loadCell client.streams place = .ok s := by rw [loadCell_of_lt client.streams within, same]
    rw [cell, ok_bind]
    exact congrArg Except.ok (Bool.decide_congr UInt8.toUInt16_inj)
  have inside : 0 + client.streamCount.toNat ≤ client.streams.toList.length := by
    rw [Vector.length_toList]
    omega
  have searches := search_eq_findIdx (fun s : SppStream => s.streamId == streamId) 0 inside reads
  rw [List.drop_zero] at searches
  refine searches.trans ?_
  rw [SppClientEngine.openStreams]
  cases (client.streams.toList.take client.streamCount.toNat).findIdx? (·.streamId == streamId) with
  | none => rfl
  | some place => simp

theorem sppGetStream_opened (few : client.streamCount.toNat ≤ sppStreamMaxCount) {stream : Nat} {s : SppStream}
    (found : sppGetStream client streamId.toUInt16 = .ok (some stream))
    (cell : loadCell client.streams stream = .ok s) :
    openedStream client streamId = some s := by
  rw [sppGetStream_eq few] at found
  have searched := Except.ok.inj found
  obtain ⟨within, -, -⟩ := List.findIdx?_eq_some_iff_getElem.mp searched
  obtain ⟨bound, rfl⟩ := loadCell_eq_ok.mp cell
  rw [openedStream, List.find?_eq_bind_findIdx?_getElem?, searched, Option.bind_some, List.getElem?_eq_getElem within]
  simp only [SppClientEngine.openStreams, List.getElem_take, Vector.getElem_toList]

theorem streamFound_iff (few : client.streamCount.toNat ≤ sppStreamMaxCount) :
    StreamFound client streamId ↔ ∃ s, openedStream client streamId = some s := by
  unfold StreamFound
  rw [sppGetStream_eq few, openedStream]
  constructor
  · rintro ⟨stream, found⟩
    have searched := Except.ok.inj found
    obtain ⟨within, -, -⟩ := List.findIdx?_eq_some_iff_getElem.mp searched
    rw [List.find?_eq_bind_findIdx?_getElem?, searched, Option.bind_some]
    exact ⟨_, List.getElem?_eq_getElem within⟩
  · rintro ⟨s, opened⟩
    rw [List.find?_eq_bind_findIdx?_getElem?] at opened
    obtain ⟨stream, searched, -⟩ := Option.bind_eq_some_iff.mp opened
    exact ⟨stream, congrArg Except.ok searched⟩

theorem sppGetStream_cell (few : client.streamCount.toNat ≤ sppStreamMaxCount) {stream : Nat} {s : SppStream}
    (found : sppGetStream client streamId.toUInt16 = .ok (some stream))
    (opened : openedStream client streamId = some s) :
    loadCell client.streams stream = .ok s := by
  have searched := Except.ok.inj ((sppGetStream_eq few streamId).symm.trans found)
  obtain ⟨within, -, -⟩ := List.findIdx?_eq_some_iff_getElem.mp searched
  have bound : stream < sppStreamMaxCount := by
    rw [SppClientEngine.openStreams, List.length_take, Vector.length_toList] at within
    exact (Nat.lt_min.mp within).2
  have cell := loadCell_of_lt client.streams bound
  rw [cell, ← Option.some.inj (opened.symm.trans (sppGetStream_opened few found cell))]

end Lookups

/-! ## One message -/

inductive ReadAs (bodyIdx : UInt8) (sender message : List UInt8) : UInt8 → ClientReading → Prop
  | connectResponse (status : SppStatus) :
      ReadAs bodyIdx sender message sppMsgConnectResponseId (.fields sender (.connectResponse status))
  | getRequest (token : UInt8) (id : UInt16) (read : load16 message (bodyIdx + 1).toNat = .ok id) :
      ReadAs bodyIdx sender message sppMsgGetRequestId (.fields sender (.getRequest token id))
  | setRequest (token size : UInt8) (id : UInt16) (read : load16 message (bodyIdx + 2).toNat = .ok id) :
      ReadAs bodyIdx sender message sppMsgSetRequestId
        (.fields sender (.setRequest token size id (message.drop (bodyIdx + 4).toNat)))
  | streamRequest (token streamType streamId : UInt8) (id period : UInt16)
      (read : load16 message (bodyIdx + 3).toNat = .ok id) :
      ReadAs bodyIdx sender message sppMsgStreamRequestId
        (.fields sender (.streamRequest token streamType streamId id period))
  | stream (streamId : UInt8) (gap : Nat) (read : load message bodyIdx.toNat = .ok streamId) :
      ReadAs bodyIdx sender message sppMsgStreamId (.stream streamId gap (message.drop (bodyIdx + 5).toNat))
  | unknown (msgId : UInt8) (other : msgId ∉ [sppMsgConnectResponseId, sppMsgGetRequestId, sppMsgSetRequestId,
      sppMsgStreamRequestId, sppMsgStreamId]) : ReadAs bodyIdx sender message msgId .unknown

theorem readBody_as {addressLength msgId : UInt8} {sender message : List UInt8} {reading : ClientReading}
    (reads : readBodyForClient addressLength msgId sender message = .ok reading) :
    ReadAs (UInt8.ofNat (sppMsgHdrSize addressLength)) sender message msgId reading := by
  unfold readBodyForClient at reads
  by_cases streamed : msgId = sppMsgStreamId
  · rw [if_pos streamed] at reads
    obtain ⟨streamId, first, reads⟩ := bind_eq_ok.mp reads
    obtain rfl := Except.ok.inj reads
    exact streamed ▸ .stream streamId _ first
  rw [if_neg streamed] at reads
  obtain ⟨body, fields, reads⟩ := bind_eq_ok.mp reads
  cases body with
  | none =>
    obtain rfl := Except.ok.inj reads
    have other := readToClient_none fields
    refine .unknown msgId fun member => ?_
    simp only [List.mem_cons, List.not_mem_nil, or_false] at member other
    tauto
  | some body =>
    obtain rfl := Except.ok.inj reads
    unfold readToClient at fields
    by_cases connected : msgId = sppMsgConnectResponseId
    · simp only [if_pos connected, bind_eq_ok, pure_eq_ok, Except.ok.injEq, Option.some.injEq] at fields
      obtain ⟨status, -, rfl⟩ := fields
      exact connected ▸ .connectResponse status
    by_cases got : msgId = sppMsgGetRequestId
    · simp only [if_neg connected, if_pos got, bind_eq_ok, pure_eq_ok, Except.ok.injEq, Option.some.injEq] at fields
      obtain ⟨token, -, id, read, rfl⟩ := fields
      exact got ▸ .getRequest token id read
    by_cases set : msgId = sppMsgSetRequestId
    · simp only [if_neg connected, if_neg got, if_pos set, bind_eq_ok, pure_eq_ok, Except.ok.injEq,
        Option.some.injEq] at fields
      obtain ⟨token, -, size, -, id, read, rfl⟩ := fields
      exact set ▸ .setRequest token size id read
    by_cases requested : msgId = sppMsgStreamRequestId
    · simp only [if_neg connected, if_neg got, if_neg set, if_pos requested, bind_eq_ok, pure_eq_ok, Except.ok.injEq,
        Option.some.injEq] at fields
      obtain ⟨token, -, streamType, -, streamId, -, id, read, period, -, rfl⟩ := fields
      exact requested ▸ .streamRequest token streamType streamId id period read
    · simp [if_neg connected, if_neg got, if_neg set, if_neg requested] at fields

section Message
variable {client : SppClientEngine σ} {message : ReceivedMessage} {reading : ClientReading}

theorem LookupTables.opened (table : LookupTables client) {streamId : UInt8} {s : SppStream}
    (opened : openedStream client streamId = some s) :
    ∃ place pd, s.definition = some place ∧ client.properties[place]? = some pd := by
  obtain ⟨place, definition, within⟩ := table.defined s (List.mem_of_find?_eq_some opened)
  exact ⟨place, _, definition, List.getElem?_eq_getElem within⟩

theorem namesKnown_iff (table : LookupTables client) {msgId : UInt8} {sender bytes : List UInt8}
    (reads : ReadAs (bodyStart client) sender bytes msgId reading) :
    NamesKnown client bytes msgId ↔ reading.NamesFound client ∧ reading.ValueInside client := by
  cases reads with
  | connectResponse status =>
    exact iff_of_true ⟨fun is => absurd is (by decide), fun is => absurd is (by decide),
      fun is => absurd is (by decide), fun is => absurd is (by decide)⟩ ⟨trivial, trivial⟩
  | getRequest token id read =>
    -- only the id matters here
    have exact_names : NamesKnown client bytes sppMsgGetRequestId ↔ ∃ pd, listedProperty client id = some pd := by
      refine ⟨fun known => known.get rfl id read, fun listed => ⟨fun _ id' read' => ?_, fun is => absurd is (by decide),
        fun is => absurd is (by decide), fun is => absurd is (by decide)⟩⟩
      rwa [← Except.ok.inj (read.symm.trans read')]
    rw [exact_names, ← propertyFound_iff table.count]
    exact (and_iff_left trivial).symm
  | setRequest token size id read =>
    simp only [ClientReading.NamesFound, ClientReading.ValueInside, List.length_drop]
    constructor
    -- the definition that is known is the one that the search finds
    · intro known
      obtain ⟨pd, listed, fits⟩ := known.set rfl id read
      refine ⟨(propertyFound_iff table.count).mpr ⟨pd, listed⟩, fun place pd' found here => ?_⟩
      obtain ⟨pd'', here', listed'⟩ := sppGetDefinition_listed table.count found
      obtain rfl := Option.some.inj (here.symm.trans here')
      obtain rfl := Option.some.inj (listed.symm.trans listed')
      exact fits
    · rintro ⟨⟨place, found⟩, inside⟩
      obtain ⟨pd, here, listed⟩ := sppGetDefinition_listed table.count found
      refine ⟨fun is => absurd is (by decide), fun _ id' read' => ?_, fun is => absurd is (by decide),
        fun is => absurd is (by decide)⟩
      obtain rfl := Except.ok.inj (read.symm.trans read')
      exact ⟨pd, listed, inside place pd found here⟩
  | streamRequest token streamType streamId id period read =>
    have exact_names : NamesKnown client bytes sppMsgStreamRequestId ↔ ∃ pd, listedProperty client id = some pd := by
      refine ⟨fun known => known.streamRequest rfl id read, fun listed => ⟨fun is => absurd is (by decide),
        fun is => absurd is (by decide), fun _ id' read' => ?_, fun is => absurd is (by decide)⟩⟩
      rwa [← Except.ok.inj (read.symm.trans read')]
    rw [exact_names, ← propertyFound_iff table.count]
    exact (and_iff_left trivial).symm
  | stream streamId gap read =>
    simp only [ClientReading.NamesFound, ClientReading.ValueInside, List.length_drop]
    constructor
    · intro known
      obtain ⟨s, place, pd, opened, definition, here, fits⟩ := known.stream rfl streamId read
      refine ⟨(streamFound_iff table.few).mpr ⟨s, opened⟩, fun stream s' place' pd' found cell definition' here' => ?_⟩
      obtain rfl := Option.some.inj (opened.symm.trans (sppGetStream_opened table.few found cell))
      obtain rfl := Option.some.inj (definition.symm.trans definition')
      obtain rfl := Option.some.inj (here.symm.trans here')
      exact fits
    · rintro ⟨⟨stream, found⟩, inside⟩
      obtain ⟨s, opened⟩ := (streamFound_iff table.few).mp ⟨stream, found⟩
      -- an open stream has a definition
      obtain ⟨place, pd, definition, here⟩ := table.opened opened
      have cell := sppGetStream_cell table.few found opened
      refine ⟨fun is => absurd is (by decide), fun is => absurd is (by decide), fun is => absurd is (by decide),
        fun _ streamId' read' => ?_⟩
      obtain rfl := Except.ok.inj (read.symm.trans read')
      exact ⟨s, place, pd, opened, definition, here, inside stream s place pd found cell definition here⟩
  | unknown msgId other =>
    simp only [List.mem_cons, List.not_mem_nil, or_false, not_or] at other
    exact iff_of_true ⟨fun is => absurd is other.2.1, fun is => absurd is other.2.2.1,
      fun is => absurd is other.2.2.2.1, fun is => absurd is other.2.2.2.2⟩ ⟨trivial, trivial⟩

theorem messageAllowed_iff (table : LookupTables client) :
    MessageAllowed client message ↔
      ∃ reading, readForClient client.addressLength message.bytes message.len = .ok reading ∧
        reading.NamesFound client ∧ reading.ValueInside client := by
  have within : message.len.toNat ≤ message.bytes.length := message.whole.ge
  constructor
  · intro allowed
    by_cases refused : message.len.toNat < sppMsgHdrSize client.addressLength ∨ message.bytes[0]? ≠ some sppMsgSyncWord
    · obtain ⟨status, header⟩ := (readClientHeader_refused within).mpr refused
      exact ⟨.refused status, bind_eq_ok.mpr ⟨_, header, rfl⟩, trivial, trivial⟩
    obtain ⟨long, synced⟩ := not_or.mp refused
    obtain ⟨msgId, id, header⟩ := readClientHeader_of within (Nat.not_lt.mp long) (not_not.mp synced)
    rcases allowed with short | unsynced | ⟨msgId', id', fields, known⟩
    · exact absurd short long
    · exact absurd unsynced synced
    obtain rfl := Option.some.inj (id.symm.trans id')
    rw [← message.whole] at fields
    obtain ⟨reading, reads⟩ := exists_clientReading.mpr fields
    exact ⟨reading, bind_eq_ok.mpr ⟨_, header, reads⟩, (namesKnown_iff table (readBody_as reads)).mp known⟩
  · rintro ⟨reading, reads, found⟩
    obtain ⟨header, read, reads⟩ := bind_eq_ok.mp reads
    cases header with
    | error status =>
      rcases (readClientHeader_refused within).mp ⟨status, read⟩ with short | unsynced
      · exact .inl short
      · exact .inr (.inl unsynced)
    | ok header =>
      obtain ⟨msgId, sender⟩ := header
      have fields := exists_clientReading.mp ⟨reading, reads⟩
      rw [message.whole] at fields
      exact .inr (.inr ⟨msgId, (readClientHeader_ok read).1, fields,
        (namesKnown_iff table (readBody_as reads)).mpr found⟩)

/-! ## Without wild pointers -/

theorem sppGetDefinition_avoids (client : SppClientEngine σ) (id : UInt16) :
    Avoids .wildPointer (sppGetDefinition client id) :=
  .search8 (by decide) (fun i => .bind (.load (by decide) client.properties i) fun _ _ => .ok _) _

theorem fillMessageHeader_avoids (client : SppClientEngine σ) (buffer : List UInt8) (host sender : SppAddress)
    (messageId : UInt8) : Avoids .wildPointer (Client.sppFillMessageHeader client buffer host sender messageId) := by
  have bounds : Fault.wildPointer ≠ .outOfBounds := by decide
  have deref (pointer : AddressPtr) : Avoids .wildPointer (pointer.deref client.hostAddressBuffer) := by
    unfold AddressPtr.deref
    cases pointer.read client.hostAddressBuffer with
    | some bytes => exact .ok bytes
    | none => exact nofun
  exact .bind (deref _) fun _ _ => .bind (deref _) fun _ _ =>
    .bind (.bind (.loadRange bounds _ _ _) fun _ _ => .bind (.loadRange bounds _ _ _) fun _ _ => .ok _) fun _ _ =>
      .storeRange bounds _ _ _

theorem getResponseMessage_avoids (client : SppClientEngine σ) (stack : Nat → UInt8) (pd : SppPropertyDefinition)
    (token : UInt8) (id : UInt16) (value : List UInt8) :
    Avoids .wildPointer (getResponseMessage client stack pd token id value) := by
  have store (message : List UInt8) (index : Nat) (values : List UInt8) :
      Avoids .wildPointer (storeRange message index values) := .storeRange (by decide) message index values
  exact .bind (fillMessageHeader_avoids _ _ _ _ _) fun _ _ => .bind (store _ _ _) fun _ _ =>
    .bind (store _ _ _) fun _ _ => .bind (store _ _ _) fun _ _ => .bind (store _ _ _) fun _ _ => store _ _ _

theorem setResponseMessage_avoids (client : SppClientEngine σ) (stack : Nat → UInt8) (token : UInt8) :
    Avoids .wildPointer (setResponseMessage client stack token) :=
  .bind (fillMessageHeader_avoids _ _ _ _ _) fun _ _ => .bind (.storeRange (by decide) _ _ _) fun _ _ =>
    .storeRange (by decide) _ _ _

theorem propertyDefinitionMessage_avoids (client : SppClientEngine σ) (stack : Nat → UInt8)
    (pd : SppPropertyDefinition) (propsRemaining : UInt16) :
    Avoids .wildPointer (propertyDefinitionMessage client stack pd propsRemaining) := by
  have store (message : List UInt8) (index : Nat) (values : List UInt8) :
      Avoids .wildPointer (storeRange message index values) := .storeRange (by decide) message index values
  have measured : Avoids .wildPointer (strlen pd.name) := by
    unfold strlen
    split
    · exact .ok _
    · exact nofun
  exact .bind measured fun _ _ => .bind (fillMessageHeader_avoids _ _ _ _ _) fun _ _ => .bind (store _ _ _) fun _ _ =>
    .bind (store _ _ _) fun _ _ => .bind (store _ _ _) fun _ _ => .bind (store _ _ _) fun _ _ =>
      .bind (store _ _ _) fun _ _ => store _ _ _

theorem connectResponse_avoids (client : SppClientEngine σ) (sender : List UInt8) (status : SppStatus) (stack : Stack) :
    Avoids .wildPointer ((ToClient.connectResponse status).act client sender stack) := by
  have bounds : Fault.wildPointer ≠ .outOfBounds := by decide
  refine .bind (.storeRange bounds _ _ _) fun hostAddressBuffer _ => ?_
  dsimp only
  split
  · exact .ok _
  split
  · exact .ok _
  · apply Avoids.bind (.loop8 (by decide) (fun i _ => .bind (.load bounds _ i) fun _ _ => .ok _) _ _)
    intro numBytes _
    apply Avoids.bind
    · exact .bind (fillMessageHeader_avoids _ _ _ _ _) fun _ _ => .bind (.storeRange bounds _ _ _) fun _ _ =>
        .storeRange bounds _ _ _
    · intro list _
      apply Avoids.bind
      · exact .loop8 (by decide) (fun i _ => .bind (.load bounds _ i) fun _ _ =>
          .bind (propertyDefinitionMessage_avoids _ _ _ _) fun _ _ => .ok _) _ _
      · exact fun _ _ => .ok _

theorem act_avoids (table : LookupTables client) (found : reading.NamesFound client) (stack : Stack) :
    Avoids .wildPointer (reading.act client stack) := by
  have bounds : Fault.wildPointer ≠ .outOfBounds := by decide
  cases reading with
  | refused status => exact .ok _
  | unknown => exact .ok _
  | stream streamId gap value =>
    obtain ⟨stream, found⟩ := found
    obtain ⟨s, opened⟩ := (streamFound_iff table.few).mp ⟨stream, found⟩
    obtain ⟨place, pd, definition, -⟩ := table.opened opened
    have cell := sppGetStream_cell table.few found opened
    simp only [ClientReading.act, takeStreamValue, found, ok_bind, cell, definition]
    exact .bind (.load bounds _ _) fun _ _ => .ok _
  | fields sender body =>
    cases body with
    | connectResponse status => exact connectResponse_avoids client sender status stack
    | getRequest token id =>
      obtain ⟨place, found⟩ := found
      simp only [ClientReading.act, ToClient.act, found, ok_bind]
      exact .bind (.load bounds _ _) fun _ _ => .bind (getResponseMessage_avoids _ _ _ _ _ _) fun _ _ => .ok _
    | setRequest token size id value => exact .bind (setResponseMessage_avoids _ _ _) fun _ _ => .ok _
    | streamRequest token streamType streamId id period =>
      exact .bind (.loadCell bounds _ _) fun _ _ => .bind (sppGetDefinition_avoids client id) fun _ _ =>
        .bind (.storeCell bounds _ _ _) fun _ _ => .ok _

theorem found_of_quiet {client' : SppClientEngine (σ × List ValueCall)} {stack : Stack} {sent : List (List UInt8)}
    {status : SppStatus} (done : reading.act client.logged stack = .ok (client', sent, status))
    (quiet : client'.instanceData.2 = []) (count : client'.streamCount = client.streamCount) :
    reading.NamesFound client := by
  cases reading with
  | refused status => trivial
  | unknown => trivial
  | stream streamId gap value =>
    obtain ⟨found, looked, -⟩ := bind_eq_ok.mp done
    cases found with
    | none => simp [ClientReading.act, takeStreamValue, looked] at done
    | some stream => exact ⟨stream, looked⟩
  | fields sender body =>
    cases body with
    | connectResponse status => trivial
    | getRequest token id =>
      obtain ⟨found, looked, -⟩ := bind_eq_ok.mp done
      cases found with
      | none => simp [ClientReading.act, ToClient.act, looked] at done
      | some place => exact ⟨place, looked⟩
    | setRequest token size id value =>
      -- the callback has been called
      obtain ⟨_, -, done⟩ := bind_eq_ok.mp done
      obtain ⟨rfl, -⟩ := Prod.mk.inj (Except.ok.inj done)
      exact absurd quiet (by simp [SppClientEngine.logged, SppClientCallbacks.logged])
    | streamRequest token streamType streamId id period =>
      -- a stream has been added
      obtain ⟨_, -, done⟩ := bind_eq_ok.mp done
      obtain ⟨_, -, done⟩ := bind_eq_ok.mp done
      obtain ⟨_, -, done⟩ := bind_eq_ok.mp done
      obtain ⟨rfl, -⟩ := Prod.mk.inj (Except.ok.inj done)
      have count : client.streamCount + 1 = client.streamCount := count
      exact absurd count (by simp)

theorem namesFound_followedBy (trailing : List UInt8) :
    (reading.followedBy trailing).NamesFound client ↔ reading.NamesFound client := by
  cases reading with
  | refused status => exact Iff.rfl
  | unknown => exact Iff.rfl
  | stream streamId gap value => exact Iff.rfl
  | fields sender body => cases body <;> exact Iff.rfl

/-- A message is survived exactly when it is allowed. -/
theorem survivesMessage_iff (table : LookupTables client) :
    SurvivesMessage client message ↔ MessageAllowed client message := by
  rw [messageAllowed_iff table]
  constructor
  · rintro ⟨⟨reading, reads, inside, -⟩, -, unknown⟩
    refine ⟨reading, reads, ?_, inside⟩
    by_contra notFound
    obtain ⟨client', sent, status, done, quiet, count⟩ := unknown reading reads notFound [] fun _ _ => 0
    have reads' : readForClient client.logged.addressLength (message.bytes ++ []) message.len =
        .ok (reading.followedBy []) := readForClient_append reads []
    rw [sppClientProcessMessage_reading reads'] at done
    exact notFound ((namesFound_followedBy []).mp (found_of_quiet done quiet count))
  · rintro ⟨reading, reads, found, inside⟩
    have acts (trailing : List UInt8) (stack : Stack) :
        sppClientProcessMessage client (message.bytes ++ trailing) message.len stack =
          (reading.followedBy trailing).act client stack :=
      sppClientProcessMessage_reading (readForClient_append reads trailing) stack
    refine ⟨⟨reading, reads, inside, acts⟩, fun trailing stack => ?_, fun reading' reads' notFound => ?_⟩
    · rw [acts]
      exact act_avoids table ((namesFound_followedBy trailing).mpr found) stack
    · obtain rfl := Except.ok.inj (reads.symm.trans reads')
      exact absurd found notFound

end Message

/-! ## Runs -/

section Runs
variable {client client' : SppClientEngine σ}

theorem LookupTables.processStream {stack : Stack} {timestamp elapsedTime : UInt32} {i : Nat}
    {sent sent' : List (List UInt8)} (table : LookupTables client)
    (done : processStream stack timestamp elapsedTime i (client, sent) = .ok (client', sent')) :
    LookupTables client' := by
  have entry (s : SppStream) (streams : Vector SppStream sppStreamMaxCount) (s' : SppStream)
      (read : loadCell client.streams i = .ok s) (stored : storeCell client.streams i s' = .ok streams)
      (same : s'.definition = s.definition) : ∀ stream ∈ streams.toList.take client.streamCount.toNat,
        ∃ place, stream.definition = some place ∧ place < client.properties.length := by
    obtain ⟨bound, rfl⟩ := loadCell_eq_ok.mp read
    obtain ⟨-, rfl⟩ := storeCell_eq_ok.mp stored
    intro stream member
    obtain ⟨index, within, rfl⟩ := List.mem_iff_getElem.mp member
    rw [List.length_take, Vector.length_toList] at within
    have here : ∃ place, client.streams[index].definition = some place ∧ place < client.properties.length := by
      apply table.defined
      refine List.mem_iff_getElem.mpr ⟨index, ?_, ?_⟩
      · rw [SppClientEngine.openStreams, List.length_take, Vector.length_toList]
        exact within
      · simp only [SppClientEngine.openStreams, List.getElem_take, Vector.getElem_toList]
    rw [List.getElem_take, Vector.getElem_toList, Vector.getElem_set]
    split
    next at_index =>
      subst at_index
      rwa [same]
    · exact here
  simp only [Spp.processStream, bind_eq_ok] at done
  obtain ⟨s, read, done⟩ := done
  split at done
  · simp only [bind_eq_ok, pure_eq_ok, Except.ok.injEq, Prod.mk.injEq, Prod.exists] at done
    obtain ⟨_, _, -, streams, stored, rfl, -⟩ := done
    exact ⟨table.count, table.few, entry _ _ _ read stored rfl⟩
  · simp only [bind_eq_ok, pure_eq_ok, Except.ok.injEq, Prod.mk.injEq] at done
    obtain ⟨streams, stored, rfl, -⟩ := done
    exact ⟨table.count, table.few, entry _ _ _ read stored rfl⟩

theorem LookupTables.openStream (table : LookupTables client) {place : Nat} {streamType streamId : UInt8}
    {period : UInt16} (bound : client.streamCount.toNat < sppStreamMaxCount)
    (within : place < client.properties.length) :
    LookupTables (openStream client (some place) streamType streamId period bound) where
  count := table.count
  few := openStream_few bound
  defined := openStream_defined bound within table.defined

theorem LookupTables.act {reading : ClientReading} {stack : Stack} {sent : List (List UInt8)} {status : SppStatus}
    (table : LookupTables client) (found : reading.NamesFound client)
    (done : reading.act client stack = .ok (client', sent, status)) : LookupTables client' := by
  -- only a stream request changes the table
  cases reading with
  | refused status =>
    obtain ⟨rfl, -⟩ := Prod.mk.inj (Except.ok.inj done)
    exact table
  | unknown =>
    obtain ⟨rfl, -⟩ := Prod.mk.inj (Except.ok.inj done)
    exact table
  | stream streamId gap value =>
    obtain ⟨known, -, done⟩ := bind_eq_ok.mp done
    cases known with
    | none => cases done
    | some stream =>
      obtain ⟨s, -, done⟩ := bind_eq_ok.mp done
      cases definition : s.definition with
      | none => simp [definition] at done
      | some place =>
        simp only [definition, bind_eq_ok, pure_eq_ok, Except.ok.injEq, Prod.mk.injEq] at done
        obtain ⟨_, -, rfl, -⟩ := done
        exact ⟨table.count, table.few, table.defined⟩
  | fields sender body =>
    cases body with
    | connectResponse response =>
      obtain ⟨_, -, done⟩ := bind_eq_ok.mp done
      dsimp only at done
      split at done
      · obtain ⟨rfl, -⟩ := Prod.mk.inj (Except.ok.inj done)
        exact ⟨table.count, table.few, table.defined⟩
      split at done
      · obtain ⟨rfl, -⟩ := Prod.mk.inj (Except.ok.inj done)
        exact ⟨table.count, table.few, table.defined⟩
      · simp only [bind_eq_ok, pure_eq_ok, Except.ok.injEq, Prod.mk.injEq] at done
        obtain ⟨_, -, _, -, _, -, rfl, -⟩ := done
        exact ⟨table.count, table.few, table.defined⟩
    | getRequest token id =>
      obtain ⟨place, looked⟩ := found
      simp only [ClientReading.act, ToClient.act, looked, ok_bind, bind_eq_ok, pure_eq_ok, Except.ok.injEq,
        Prod.mk.injEq] at done
      obtain ⟨_, -, _, -, rfl, -⟩ := done
      exact ⟨table.count, table.few, table.defined⟩
    | setRequest token size id value =>
      obtain ⟨_, -, done⟩ := bind_eq_ok.mp done
      obtain ⟨rfl, -⟩ := Prod.mk.inj (Except.ok.inj done)
      exact ⟨table.count, table.few, table.defined⟩
    | streamRequest token streamType streamId id period =>
      obtain ⟨place, looked⟩ := found
      obtain ⟨pd, here, -⟩ := sppGetDefinition_place table.count looked
      -- it adds an entry whose definition was found in the list
      obtain ⟨within, -⟩ := List.getElem?_eq_some_iff.mp here
      simp only [ClientReading.act, ToClient.act, looked, ok_bind, bind_eq_ok, pure_eq_ok, Except.ok.injEq,
        Prod.mk.injEq] at done
      obtain ⟨s, read, streams, stored, rfl, -⟩ := done
      obtain ⟨bound, rfl⟩ := loadCell_eq_ok.mp read
      obtain ⟨-, rfl⟩ := storeCell_eq_ok.mp stored
      exact table.openStream bound within

theorem LookupTables.step {call : DeviceCall} {event : ClientEvent} (table : LookupTables client)
    (allowed : CallAllowed client call) (done : deviceCall client call = .ok (client', event)) :
    LookupTables client' := by
  cases call with
  | start stack =>
    obtain ⟨_, -, done⟩ := bind_eq_ok.mp done
    obtain ⟨rfl, -⟩ := Prod.mk.inj (Except.ok.inj done)
    exact table
  | processStreams timestamp elapsedTime stack =>
    obtain ⟨⟨after, sent⟩, processed, done⟩ := bind_eq_ok.mp done
    obtain ⟨rfl, -⟩ := Prod.mk.inj (Except.ok.inj done)
    have start : LookupTables (client, ([] : List (List UInt8))).1 := table
    exact loop_keeps (fun state => LookupTables state.1) (fun _ _ _ before one => before.processStream one) start
      processed
  | receive message behind stack =>
    obtain ⟨reading, reads, found, -⟩ := (messageAllowed_iff table).mp allowed
    obtain ⟨⟨after, sent, status⟩, processed, done⟩ := bind_eq_ok.mp done
    obtain ⟨rfl, -⟩ := Prod.mk.inj (Except.ok.inj done)
    have acts := sppClientProcessMessage_reading (readForClient_append reads behind) stack
    exact table.act ((namesFound_followedBy behind).mpr found) (acts.symm.trans processed)

end Runs

/-- In every run the client survives all messages exactly when all of them are allowed. -/
theorem client_survives (initParams : SppClientEngineInitParams σ) (prior : SppClientEngine σ)
    (count : initParams.propertyCount.toNat = initParams.properties.length) (calls : List DeviceCall) :
    EveryAttempt deviceCall Survives (sppClientEngineInit initParams prior) calls ↔
      EveryAttempt deviceCall CallAllowed (sppClientEngineInit initParams prior) calls := by
  have one : ∀ (client : SppClientEngine σ) (call : DeviceCall), LookupTables client →
      (Survives client call ↔ CallAllowed client call) := by
    intro client call table
    cases call with
    | start stack => exact Iff.rfl
    | receive message behind stack => exact survivesMessage_iff table
    | processStreams timestamp elapsedTime stack => exact Iff.rfl
  have start : LookupTables (sppClientEngineInit initParams prior) := ⟨count, Nat.zero_le _, nofun⟩
  exact everyAttempt_iff one (fun _ _ _ _ table allowed done => table.step allowed done) start calls

def requestedProperty (low : UInt8) : ReceivedMessage where
  bytes := [0xCD, 0xB0, 0x1D, 0x01, 0x2A, low, 0x00]
  len := 7
  whole := rfl

/-- A request for `Prop_1`, between two other calls. -/
theorem client_survives_request :
    EveryAttempt deviceCall Survives (sppClientEngineInit setupClientParams staticClient)
      [.start fun _ _ => 0, .receive (requestedProperty 0xAB) [] fun _ _ => 0, .processStreams 0 5 fun _ _ => 0] := by
  apply (client_survives setupClientParams staticClient rfl _).mpr
  refine ⟨trivial, .inr (.inr ⟨0xB0, rfl, by decide, fun _ id read => ?_, fun is => absurd is (by decide),
    fun is => absurd is (by decide), fun is => absurd is (by decide)⟩), trivial, trivial⟩
  obtain rfl := Except.ok.inj read
  exact ⟨_, rfl⟩

/-- A request for a property that is not there: the client goes on with the pointer of a lookup that failed. -/
theorem unknown_property_request :
    sppClientProcessMessage (sppClientEngineInit setupClientParams staticClient) (requestedProperty 0xFF).bytes 7
        (fun _ _ => 0) = .error .wildPointer ∧
      ¬∀ calls, EveryAttempt deviceCall Survives (sppClientEngineInit setupClientParams staticClient) calls := by
  have wild : sppClientProcessMessage (sppClientEngineInit setupClientParams staticClient)
      ((requestedProperty 0xFF).bytes ++ []) 7 (fun _ _ => 0) = .error .wildPointer := rfl
  refine ⟨wild, fun always => ?_⟩
  have survived := (always [.receive (requestedProperty 0xFF) [] fun _ _ => 0]).1
  exact survived.found [] (fun _ _ => 0) wild

end TvcHopper.Spp
