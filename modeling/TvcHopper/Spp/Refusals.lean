import TvcHopper.Spp.Consistent

/-! Requests that fail, for addresses of one byte.

A request fails before it draws a token, and for one of three reasons, which are
told by its status: too many requests are pending, the client is not in the
table, or the client has not announced the property.
-/

set_option autoImplicit false

namespace TvcHopper.Spp
open Machine

/-! ## What the table says of a client -/

/-- The entry at this place of the client table has the address of the client. -/
def EntryOf (host : SppHostEngine) (client : SppAddress) (place : Nat) : Prop :=
  place < host.clientCount.toNat ∧ ∃ (bound : place < sppConnectionsMax) (address : UInt8),
    PointsTo host host.clients[place] address ∧ PointsTo host client address

/-- The range of definitions of the entry at this place has one with this id. -/
def InRange (host : SppHostEngine) (place : Nat) (id : UInt16) : Prop :=
  ∃ (bound : place < sppConnectionsMax) (index : Nat) (pd : SppPropertyDefinition),
    host.propertyDefStart[place].toNat ≤ index ∧
    index < host.propertyDefStart[place].toNat + host.propertyCount[place].toNat ∧
    host.defsBuffer[index]? = some pd ∧ pd.id = id

def InTable (host : SppHostEngine) (client : SppAddress) : Prop := ∃ place, EntryOf host client place

def Defines (host : SppHostEngine) (client : SppAddress) (id : UInt16) : Prop :=
  ∃ place, EntryOf host client place ∧ InRange host place id

def Returns (host : SppHostEngine) (call : HostCall) (status : SppStatus) : Prop :=
  ∃ host' event, hostCall host call = .ok (host', event) ∧ event.status = status

/-! ## Looking up a client and a definition -/

section Lookup
variable {own address : UInt8} {host host' : SppHostEngine} {joined : List Joined} {client : SppAddress} {id : UInt16}

theorem pointsTo_unique {first second : UInt8} (one : PointsTo host client first)
    (other : PointsTo host client second) : first = second := by
  obtain ⟨rest, reads⟩ := one
  obtain ⟨rest', reads'⟩ := other
  exact (List.cons.inj (Option.some.inj (reads.symm.trans reads'))).1

theorem Consistent.entryOf_iff (consistent : Consistent own host joined) {place : Nat} :
    EntryOf host client place ↔ ∃ entry, joined[place]? = some entry ∧ PointsTo host client entry.address := by
  have count := consistent.table.count
  have room := consistent.table.room
  constructor
  · rintro ⟨counted, bound, address, known, points⟩
    have member : place < joined.length := count ▸ counted
    have same : joined[place].address = address :=
      pointsTo_unique (consistent.table.read bound member) known
    exact ⟨joined[place], List.getElem?_eq_getElem member, same ▸ points⟩
  · rintro ⟨entry, here, points⟩
    obtain ⟨member, rfl⟩ := List.getElem?_eq_some_iff.mp here
    have bound : place < sppConnectionsMax := Nat.lt_of_lt_of_le member room
    exact ⟨count ▸ member, bound, joined[place].address, consistent.table.read bound member, points⟩

theorem Consistent.inRange_iff (consistent : Consistent own host joined) {place : Nat}
    (bound : place < sppConnectionsMax) :
    InRange host place id ↔
      ∃ index, (host.defsBuffer.take host.propertyCount[place].toNat).findIdx? (·.id == id) = some index := by
  rw [← Option.isSome_iff_exists, List.findIdx?_isSome, List.any_eq_true]
  constructor
  · rintro ⟨_, index, pd, -, below, here, same⟩
    rw [consistent.starts place bound, UInt16.toNat_zero, Nat.zero_add] at below
    refine ⟨pd, List.mem_of_getElem? (i := index) ?_, by simp [same]⟩
    rw [List.getElem?_take_of_lt below, here]
  · rintro ⟨pd, member, same⟩
    obtain ⟨index, here⟩ := List.mem_iff_getElem?.mp member
    obtain ⟨within, -⟩ := List.getElem?_eq_some_iff.mp here
    have below : index < host.propertyCount[place].toNat := by
      rw [List.length_take] at within
      omega
    refine ⟨bound, index, pd, ?_, ?_, ?_, by simpa using same⟩
    · rw [consistent.starts place bound]
      exact Nat.zero_le _
    · rw [consistent.starts place bound, UInt16.toNat_zero, Nat.zero_add]
      exact below
    · rwa [List.getElem?_take_of_lt below] at here

inductive Lookup (host : SppHostEngine) (client : SppAddress) (id : UInt16) : Prop where
  | unknown (absent : ¬InTable host client) (found : sppGetClientIdx host client = .ok none)
  | undefined (place : Nat) (entry : InTable host client) (absent : ¬Defines host client id)
      (found : sppGetClientIdx host client = .ok (some place))
      (lookup : sppHostGetDefinition host client id = .ok (sppStatusUnknownProperty, none))
  | defined (place index : Nat) (entry : InTable host client) (defines : Defines host client id)
      (found : sppGetClientIdx host client = .ok (some place))
      (lookup : sppHostGetDefinition host client id = .ok (sppStatusOk, some index))

theorem Consistent.lookup_unset (consistent : Consistent own host joined)
    (unset : client.address.read host.addressBuffer = none) : Lookup host client id := by
  refine .unknown ?_ (search_eq_none.mpr fun place _ below => ?_)
  · rintro ⟨place, -, -, address, -, rest, reads⟩
    rw [unset] at reads
    cases reads
  · have bound : place < sppConnectionsMax := by omega
    rw [isClientAt, loadCell_of_lt host.clients bound, ok_bind, unset, consistent.one.callbacks.nullRight]
    rfl

theorem Consistent.lookup_points (consistent : Consistent own host joined) (points : PointsTo host client address) :
    Lookup host client id := by
  have room := consistent.table.room
  by_cases known : address ∈ joined.map (·.address)
  · obtain ⟨entry, member, rfl⟩ := List.mem_map.mp known
    obtain ⟨place, within, rfl⟩ := List.getElem_of_mem member
    have here : joined[place]? = some joined[place] := List.getElem?_eq_getElem within
    have bound : place < sppConnectionsMax := Nat.lt_of_lt_of_le within room
    have found := sppGetClientIdx_joined consistent.one consistent.table consistent.distinct here points
    have entry : EntryOf host client place := consistent.entryOf_iff.mpr ⟨_, here, points⟩
    have lookup := consistent.lookup here points bound id
    cases index : (host.defsBuffer.take host.propertyCount[place].toNat).findIdx? (·.id == id) with
    | some index' =>
      rw [index] at lookup
      exact .defined place index' ⟨place, entry⟩ ⟨place, entry, (consistent.inRange_iff bound).mpr ⟨index', index⟩⟩
        found lookup
    | none =>
      rw [index] at lookup
      refine .undefined place ⟨place, entry⟩ ?_ found lookup
      -- no other entry has the address
      rintro ⟨other, entry', inRange⟩
      obtain ⟨second, there, points'⟩ := consistent.entryOf_iff.mp entry'
      obtain rfl : place = other := consistent.place_unique here there (pointsTo_unique points points')
      obtain ⟨index', found'⟩ := (consistent.inRange_iff bound).mp inRange
      rw [index] at found'
      cases found'
  · refine .unknown ?_ (search_eq_none.mpr fun place _ below => ?_)
    · rintro ⟨place, entry⟩
      obtain ⟨entry, here, points'⟩ := consistent.entryOf_iff.mp entry
      exact known (List.mem_map.mpr ⟨entry, List.mem_of_getElem? here, pointsTo_unique points' points⟩)
    · have bound : place < sppConnectionsMax := by omega
      rw [(isClientAt_eq consistent.one consistent.table points bound).1]
      cases here : joined[place]? with
      | none => rfl
      | some entry =>
        have differs : entry.address ≠ address := fun same =>
          known (List.mem_map.mpr ⟨entry, List.mem_of_getElem? here, same⟩)
        simp [differs]

theorem Consistent.lookup_readable (consistent : Consistent own host joined)
    (readable : client.address.read host.addressBuffer ≠ some []) (id : UInt16) : Lookup host client id := by
  cases reads : client.address.read host.addressBuffer with
  | none => exact consistent.lookup_unset reads
  | some bytes =>
    cases bytes with
    | nil => exact absurd reads readable
    | cons address rest => exact consistent.lookup_points ⟨rest, reads⟩

end Lookup

/-! ## Requests -/

section Requests
variable {host : SppHostEngine} {client : SppAddress} {id : UInt16} {call : HostCall} {status status' : SppStatus}

theorem returns_iff : Returns host call status ↔ ∃ host' effects, perform host call = .ok (host', effects, status) := by
  constructor
  · rintro ⟨host', event, done, rfl⟩
    exact ⟨host', event.effects, (hostCall_eq_ok.mp done).1⟩
  · rintro ⟨host', effects, done⟩
    exact ⟨host', ⟨call, effects, status⟩, hostCall_eq_ok.mpr ⟨done, rfl⟩, rfl⟩

theorem returns_unique (one : Returns host call status) (other : Returns host call status') : status = status' := by
  obtain ⟨_, _, done⟩ := returns_iff.mp one
  obtain ⟨_, _, done'⟩ := returns_iff.mp other
  rw [done] at done'
  cases done'
  rfl

/-- A request that does not return OK has done nothing. -/
theorem failed_request {host' : SppHostEngine} {event : HostEvent} (request : call.isRequest = true)
    (done : hostCall host call = .ok (host', event)) (failed : event.status ≠ sppStatusOk) :
    host' = host ∧ event.effects = [] := by
  cases request_outcome request (hostCall_eq_ok.mp done).1 with
  | full full same silent status => exact ⟨same, silent⟩
  | refused room same silent status => exact ⟨same, silent⟩
  | sent message room sent ok token pending addressLength => exact absurd ok failed

/-- The statuses of a request with this client and definition, while there is room for it. -/
structure Statuses (host : SppHostEngine) (call : HostCall) (known defined : Prop) : Prop where
  noSuchClient : Returns host call sppStatusNoSuchClient ↔ ¬known
  unknownProperty : Returns host call sppStatusUnknownProperty ↔ known ∧ ¬defined

theorem Lookup.getValue (lookup : Lookup host client id) (room : ¬host.pendingRequestCount > 8) :
    Statuses host (.getValue client id) (InTable host client) True := by
  have checked : perform host (.getValue client id) = _ := if_neg room
  cases lookup with
  | unknown absent found =>
    have refused : Returns host (.getValue client id) sppStatusNoSuchClient :=
      returns_iff.mpr ⟨host, [], by rw [checked, found]; rfl⟩
    exact ⟨⟨fun _ => absent, fun _ => refused⟩, ⟨fun other => absurd (returns_unique refused other) (by decide),
      fun never => absurd trivial never.2⟩⟩
  | undefined place entry absent found lookup | defined place index entry defines found lookup =>
    have sent : ∀ {status}, Returns host (.getValue client id) status → status = sppStatusOk := by
      intro status returns
      obtain ⟨host', effects, done⟩ := returns_iff.mp returns
      rw [checked, found] at done
      simp only [ok_bind, bind_eq_ok, pure_eq_ok, Except.ok.injEq, Prod.mk.injEq] at done
      obtain ⟨header, filled, rfl, rfl, rfl⟩ := done
      rfl
    exact ⟨⟨fun other => absurd (sent other) (by decide), fun never => absurd entry never⟩,
      ⟨fun other => absurd (sent other) (by decide), fun never => absurd trivial never.2⟩⟩

theorem Lookup.statuses (lookup : Lookup host client id)
    (unknown : sppGetClientIdx host client = .ok none → Returns host call sppStatusNoSuchClient)
    (undefined : ∀ place, sppGetClientIdx host client = .ok (some place) →
      sppHostGetDefinition host client id = .ok (sppStatusUnknownProperty, none) →
      Returns host call sppStatusUnknownProperty)
    (defined : ∀ place index, sppGetClientIdx host client = .ok (some place) →
      sppHostGetDefinition host client id = .ok (sppStatusOk, some index) →
      ∀ status, Returns host call status → status = sppStatusOk) :
    Statuses host call (InTable host client) (Defines host client id) := by
  cases lookup with
  | unknown absent found =>
    have refused := unknown found
    exact ⟨⟨fun _ => absent, fun _ => refused⟩, ⟨fun other => absurd (returns_unique refused other) (by decide),
      fun known => absurd known.1 absent⟩⟩
  | undefined place entry absent found lookup =>
    have refused := undefined place found lookup
    exact ⟨⟨fun other => absurd (returns_unique refused other) (by decide), fun never => absurd entry never⟩,
      ⟨fun _ => ⟨entry, absent⟩, fun _ => refused⟩⟩
  | defined place index entry defines found lookup =>
    have sent := defined place index found lookup
    exact ⟨⟨fun other => absurd (sent _ other) (by decide), fun never => absurd entry never⟩,
      ⟨fun other => absurd (sent _ other) (by decide), fun never => absurd defines never.2⟩⟩

theorem sppHostGetDefinition_unknown (found : sppGetClientIdx host client = .ok none) (id : UInt16) :
    sppHostGetDefinition host client id = .ok (sppStatusNoSuchClient, none) := by
  rw [sppHostGetDefinition, found]
  rfl

theorem Lookup.setValue (lookup : Lookup host client id) (room : ¬host.pendingRequestCount > 8)
    (value : List UInt8) :
    Statuses host (.setValue client id value) (InTable host client) (Defines host client id) := by
  have checked : perform host (.setValue client id value) = _ := if_neg room
  apply lookup.statuses
  · intro found
    exact returns_iff.mpr ⟨host, [], by rw [checked, sppHostGetDefinition_unknown found]; rfl⟩
  · intro place _ lookup
    exact returns_iff.mpr ⟨host, [], by rw [checked, lookup]; rfl⟩
  · intro place index _ lookup status returns
    obtain ⟨host', effects, done⟩ := returns_iff.mp returns
    rw [checked, lookup] at done
    simp only [ok_bind, bind_eq_ok, pure_eq_ok, Except.ok.injEq, Prod.mk.injEq] at done
    obtain ⟨pd, stored, header, filled, bytes, loaded, rfl, rfl, rfl⟩ := done
    rfl

theorem Lookup.startStream (lookup : Lookup host client id) (room : ¬host.pendingRequestCount > 8)
    (period : UInt16) (streamType : UInt8) (stream spare : Nat) :
    Statuses host (.startStream client id period streamType stream spare) (InTable host client)
      (Defines host client id) := by
  have checked : perform host (.startStream client id period streamType stream spare) = _ := if_neg room
  apply lookup.statuses
  · intro found
    exact returns_iff.mpr ⟨host, [], by rw [checked, found]; rfl⟩
  · intro place found lookup
    exact returns_iff.mpr ⟨host, [], by rw [checked, found, ok_bind]; simp only [lookup]; rfl⟩
  · intro place index found lookup status returns
    obtain ⟨host', effects, done⟩ := returns_iff.mp returns
    rw [checked, found, ok_bind] at done
    simp only [lookup, ok_bind, bind_eq_ok, pure_eq_ok, Except.ok.injEq, Prod.mk.injEq] at done
    obtain ⟨object, here, streams, stored, header, filled, body, written, rfl, rfl, rfl⟩ := done
    rfl

end Requests

/-- In every state the host can reach a failed request leaves no trace, and its status tells why it failed. -/
theorem failed_requests {setup : HostSetup} {initParams : SppHostEngineInitParams}
    (params : HostParams setup initParams) (size : initParams.defsBuffer.length = initParams.defsBufferSize.toNat)
    {prior host : SppHostEngine} {calls : List HostCall} {events : List HostEvent}
    (reached : run hostCall (sppHostEngineInit initParams prior) calls = .ok (host, events)) :
    (∀ call host' event, call.isRequest = true → hostCall host call = .ok (host', event) →
        event.status ≠ sppStatusOk → host' = host ∧ event.effects = []) ∧
      (¬host.pendingRequestCount > 8 → ∀ client, client.address.read host.addressBuffer ≠ some [] → ∀ id,
        Statuses host (.getValue client id) (InTable host client) True ∧
          (∀ value, Statuses host (.setValue client id value) (InTable host client) (Defines host client id)) ∧
          ∀ period streamType stream spare, Statuses host (.startStream client id period streamType stream spare)
            (InTable host client) (Defines host client id)) := by
  constructor
  · intro call host' event request done failed
    exact failed_request request done failed
  · intro room client readable id
    obtain ⟨joined, consistent⟩ := consistent_run params size reached
    have lookup := consistent.lookup_readable readable id
    exact ⟨lookup.getValue room, fun value => lookup.setValue room value,
      fun period streamType stream spare => lookup.startStream room period streamType stream spare⟩

/-- A client that has connected is asked for a property it has not announced. -/
theorem failed_requests_unannounced :
    ∃ host events, run hostCall (sppHostEngineInit setupParams staticHost)
        [.processMessage (Message.connectRequest 0x01 0x00 0xDD) 6 0] = .ok (host, events) ∧
      Statuses host (.setValue ⟨.external [0x01], 0⟩ 0xAB []) (InTable host ⟨.external [0x01], 0⟩)
        (Defines host ⟨.external [0x01], 0⟩ 0xAB) := by
  obtain ⟨host, events, done, room⟩ := run_checked hostCall (sppHostEngineInit setupParams staticHost)
    [.processMessage (Message.connectRequest 0x01 0x00 0xDD) 6 0]
    (fun host _ => decide (¬host.pendingRequestCount > 8)) rfl
  have statuses := (failed_requests hostParams_setup rfl done).2 (of_decide_eq_true room) ⟨.external [0x01], 0⟩
    (by simp [AddressPtr.read]) 0xAB
  exact ⟨host, events, done, statuses.2.1 []⟩

end TvcHopper.Spp
