import TvcHopper.Spp.Handshake

/-! Looking up the property definitions of several clients.

All clients share one buffer of definitions, which they fill one after the
other. A lookup searches the first entries of the buffer, as many as the client
has definitions, because no client that connects is given a start of its own.
-/

set_option autoImplicit false

namespace TvcHopper.Spp
open Machine

variable {σ : Type}

/-! ## One lookup -/

section Lookup
variable {setup : HostSetup} {host : SppHostEngine} {joined : List Joined} {client : SppAddress} {i : Nat}
  {entry : Joined} {id : UInt16}

/-- The definitions among which those of the client at `i` are looked for. -/
def searched (joined : List Joined) (entry : Joined) : List SppPropertyDefinition :=
  (received joined).take entry.properties.length

theorem length_properties_le (here : joined[i]? = some entry) :
    entry.properties.length ≤ (received joined).length := by
  have member : entry ∈ joined := List.mem_of_getElem? here
  obtain ⟨before, behind, rfl⟩ := List.append_of_mem member
  simp only [received, List.flatMap_append, List.flatMap_cons, List.length_append]
  omega

/-- The entries that are searched are copies of the first definitions that were received. -/
theorem HostHolds.searched_copies (holds : HostHolds setup host joined) (here : joined[i]? = some entry) :
    entry.properties.length ≤ host.defsBuffer.length ∧
      List.Forall₂ SameDefinition (host.defsBuffer.take entry.properties.length) (searched joined entry) := by
  have inside := length_properties_le here
  have copies := List.forall₂_take entry.properties.length holds.definitions
  have length := holds.definitions.length_eq
  rw [List.length_take] at length
  rw [List.take_take, holds.used, Nat.min_eq_left inside] at copies
  exact ⟨by omega, copies⟩

theorem findIdx_copies {copies properties : List SppPropertyDefinition}
    (same : List.Forall₂ SameDefinition copies properties) (id : UInt16) :
    copies.findIdx? (·.id == id) = properties.findIdx? (·.id == id) := by
  induction same with
  | nil => rfl
  | cons first _ ih => rw [List.findIdx?_cons, List.findIdx?_cons, first.id, ih]

theorem sppHostGetDefinition_eq (holds : HostHolds setup host joined) (here : joined[i]? = some entry)
    (points : PointsTo host client entry.address) (id : UInt16) :
    sppHostGetDefinition host client id =
      .ok (match (searched joined entry).findIdx? (·.id == id) with
        | some place => (sppStatusOk, some place)
        | none => (sppStatusUnknownProperty, none)) := by
  obtain ⟨inside, copies⟩ := holds.searched_copies here
  obtain ⟨member, same⟩ := List.getElem?_eq_some_iff.mp here
  have bound : i < sppConnectionsMax := Nat.lt_of_lt_of_le member holds.table.room
  have count : host.propertyCount[i].toNat = entry.properties.length := by
    rw [holds.counts i bound, here]
    rfl
  -- no path of a new client sets the start of its range
  have lookup := sppHostGetDefinition_front holds.one holds.table holds.distinct here points bound
    (holds.starts i bound) (count ▸ inside) id
  rwa [count, findIdx_copies copies] at lookup

theorem HostHolds.copy_found (holds : HostHolds setup host joined) (here : joined[i]? = some entry) {place : Nat}
    (found : (searched joined entry).findIdx? (·.id == id) = some place) :
    ∃ copy pd, host.defsBuffer[place]? = some copy ∧ SameDefinition copy pd ∧
      (searched joined entry).find? (·.id == id) = some pd := by
  obtain ⟨-, copies⟩ := holds.searched_copies here
  obtain ⟨within, matching, -⟩ := List.findIdx?_eq_some_iff_getElem.mp found
  have bound : place < (host.defsBuffer.take entry.properties.length).length := by
    rwa [copies.length_eq]
  have same := copies.get bound within
  refine ⟨_, _, ?_, same, ?_⟩
  · have short : place < entry.properties.length := by
      rw [List.length_take] at bound
      omega
    rw [← List.getElem?_take_of_lt short, List.getElem?_eq_getElem bound, List.get_eq_getElem]
  · rw [List.find?_eq_bind_findIdx?_getElem?, found]
    exact List.getElem?_eq_getElem within

end Lookup

/-! ## Clients that connect one after the other -/

structure ConnectingClient (σ : Type) where
  address : UInt8
  initParams : SppClientEngineInitParams σ
  prior : SppClientEngine σ

namespace ConnectingClient

def engine (client : ConnectingClient σ) : SppClientEngine σ := sppClientEngineInit client.initParams client.prior

def properties (client : ConnectingClient σ) : List SppPropertyDefinition := client.initParams.properties

def joined (client : ConnectingClient σ) : Joined :=
  ⟨client.address, client.initParams.propertyListId, client.properties⟩

end ConnectingClient

/-- Each client completes its handshake, over channels of its own, before the next one starts. -/
inductive Connects : SppHostEngine → List (ConnectingClient σ) → SppHostEngine → Prop where
  | none (host : SppHostEngine) : Connects host [] host
  | next {host final : SppHostEngine} {client : ConnectingClient σ} {rest : List (ConnectingClient σ)}
      {stack : Stack} {deliveries : List LinkAction} {link : Link σ} {events : List LinkEvent}
      (allowed : ∀ action ∈ deliveries, action.isDelivery = true)
      (handshake : run linkStep ⟨host, client.engine, [], []⟩ (.start stack :: deliveries) = .ok (link, events))
      (drained : link.Drained) (later : Connects link.host rest final) : Connects host (client :: rest) final

structure Compatible (setup : HostSetup) (clients : List (ConnectingClient σ)) : Prop where
  params : ∀ client ∈ clients, ClientParams client.initParams client.address
  addresses : (clients.map (·.address)).Nodup
  lists : (clients.map (·.initParams.propertyListId)).Nodup
  few : clients.length ≤ sppConnectionsMax
  addressRoom : clients.length ≤ setup.clients
  fits : (clients.flatMap (·.properties)).length ≤ setup.definitions

theorem received_joined (clients : List (ConnectingClient σ)) :
    received (clients.map (·.joined)) = clients.flatMap (·.properties) := by
  rw [received, List.flatMap_map]
  rfl

section Connections
variable {setup : HostSetup} {earlier rest clients : List (ConnectingClient σ)} {client : ConnectingClient σ}
  {host final : SppHostEngine}

theorem Compatible.newClient (compatible : Compatible setup (earlier ++ client :: rest)) :
    NewClient setup (earlier.map (·.joined)) client.engine client.address := by
  have addresses := compatible.addresses
  have lists := compatible.lists
  have few := compatible.few
  have addressRoom := compatible.addressRoom
  have fits := compatible.fits
  simp only [List.map_append, List.map_cons, List.nodup_append, List.length_append, List.length_cons,
    List.flatMap_append, List.flatMap_cons] at addresses lists few addressRoom fits
  apply (compatible.params client (by simp)).newClient client.prior
  · simpa [ConnectingClient.joined] using fun other member => addresses.2.2 _ (List.mem_map_of_mem member) _ (by simp)
  · simpa [ConnectingClient.joined] using fun other member => lists.2.2 _ (List.mem_map_of_mem member) _ (by simp)
  · rw [List.length_map]
    omega
  · rw [List.length_map]
    omega
  · rw [received_joined]
    simp only [ConnectingClient.properties] at fits ⊢
    omega

theorem connect_one (compatible : Compatible setup (earlier ++ client :: rest))
    (holds : HostHolds setup host (earlier.map (·.joined))) (ready : host.state = .ready) (stack : Stack)
    {deliveries : List LinkAction} (allowed : ∀ action ∈ deliveries, action.isDelivery = true) :
    ∃ link events, run linkStep ⟨host, client.engine, [], []⟩ (.start stack :: deliveries) = .ok (link, events) ∧
      (link.Drained → HostHolds setup link.host ((earlier ++ [client]).map (·.joined)) ∧ link.host.state = .ready) ∧
      ∃ more link' events', (∀ action ∈ more, action.isDelivery = true) ∧
        run linkStep link more = .ok (link', events') ∧ link'.Drained := by
  have new := compatible.newClient
  obtain ⟨started, begins, running⟩ := handshake_start new holds ready stack
  obtain ⟨waiting, events, link, -, ran, done⟩ := handshake_run new running allowed
  refine ⟨link, _, run_cons_eq_ok.mpr ⟨_, _, _, begins, ran, rfl⟩, ?_, handshake_completes new done⟩
  intro drained
  obtain ⟨holds', ready', -, -⟩ := done.finished drained
  rw [List.map_append]
  exact ⟨holds', ready'⟩

/-- After their handshakes the host holds the definitions of all clients, in the order of connection. -/
theorem connects_holds (compatible : Compatible setup (earlier ++ clients))
    (holds : HostHolds setup host (earlier.map (·.joined))) (ready : host.state = .ready)
    (connects : Connects host clients final) : HostHolds setup final ((earlier ++ clients).map (·.joined)) := by
  induction connects generalizing earlier with
  | none host => simpa using holds
  | next allowed handshake drained later ih =>
    obtain ⟨link', events', ran, finished, -⟩ := connect_one compatible holds ready _ allowed
    obtain ⟨rfl, -⟩ := Prod.mk.inj (Except.ok.inj (handshake.symm.trans ran))
    obtain ⟨holds', ready'⟩ := finished drained
    rw [List.append_cons] at compatible ⊢
    exact ih compatible holds' ready'

theorem connects_exists (compatible : Compatible setup (earlier ++ clients))
    (holds : HostHolds setup host (earlier.map (·.joined))) (ready : host.state = .ready) :
    ∃ final, Connects host clients final := by
  induction clients generalizing earlier host with
  | nil => exact ⟨host, .none host⟩
  | cons client rest ih =>
    have nothing : ∀ action ∈ ([] : List LinkAction), action.isDelivery = true := by simp
    obtain ⟨link, events, starts, -, more, link', events', allowed, ran, drained⟩ :=
      connect_one compatible holds ready (fun _ _ => 0) nothing
    -- the deliveries that complete the handshake, as a run of their own
    have whole : run linkStep ⟨host, client.engine, [], []⟩ (.start (fun _ _ => 0) :: more) =
        .ok (link', events ++ events') := run_append_eq_ok.mpr ⟨_, _, _, starts, ran, rfl⟩
    obtain ⟨again, _, same, finished, -⟩ := connect_one compatible holds ready (fun _ _ => 0) allowed
    obtain ⟨rfl, -⟩ := Prod.mk.inj (Except.ok.inj (whole.symm.trans same))
    obtain ⟨holds', ready'⟩ := finished drained
    rw [List.append_cons] at compatible
    obtain ⟨final, later⟩ := ih compatible holds' ready'
    exact ⟨final, .next allowed whole drained later⟩

end Connections

/-! ## Which definitions are found -/

/-- What the client sends of a definition, apart from the number that remain. -/
def sentForm (pd : SppPropertyDefinition) : UInt16 × UInt8 × UInt8 × UInt8 × List UInt8 :=
  (pd.id, pd.type, pd.size, pd.flags, sentName pd.name)

theorem SameDefinition.sentForm_eq {copy pd pd' : SppPropertyDefinition} (first : SameDefinition copy pd)
    (second : SameDefinition copy pd') : sentForm pd = sentForm pd' := by
  simp only [sentForm, ← first.id, ← first.type, ← first.size, ← first.flags, ← first.name, second.id, second.type,
    second.size, second.flags, second.name]

theorem SameDefinition.of_sentForm {copy pd pd' : SppPropertyDefinition} (same : SameDefinition copy pd)
    (equal : sentForm pd' = sentForm pd) (terminated : 0 ∈ pd.name.toList) (terminated' : 0 ∈ pd'.name.toList) :
    SameDefinition copy pd' := by
  simp only [sentForm, Prod.mk.injEq] at equal
  obtain ⟨id, type, size, flags, name⟩ := equal
  have length : Spp.nameLength pd.name + 1 = Spp.nameLength pd'.name + 1 := by
    rw [← length_sentName terminated, ← length_sentName terminated', name]
  constructor
  · rw [same.id, id]
  · rw [same.type, type]
  · rw [same.size, size]
  · rw [same.flags, flags]
  · rw [same.nameLength, length]
  · rw [same.name, name]

/-- The lookup answers with the definition the client has for the id, if it has one. -/
def FindsOwn (host : SppHostEngine) (client : SppAddress) (properties : List SppPropertyDefinition) (id : UInt16) :
    Prop :=
  (∃ pd ∈ properties, pd.id = id ∧ ∃ place copy, sppHostGetDefinition host client id = .ok (sppStatusOk, some place) ∧
      host.defsBuffer[place]? = some copy ∧ SameDefinition copy pd) ∨
    (∀ pd ∈ properties, pd.id ≠ id) ∧ sppHostGetDefinition host client id = .ok (sppStatusUnknownProperty, none)

/-- The first definition with the id, among those that are searched, is as one of the client's own. -/
def OwnFirst (properties searched : List SppPropertyDefinition) (id : UInt16) : Prop :=
  match searched.find? (·.id == id) with
  | some pd => ∃ own ∈ properties, sentForm own = sentForm pd
  | none => ∀ own ∈ properties, own.id ≠ id

theorem findsOwn_iff {setup : HostSetup} {host : SppHostEngine} {joined : List Joined} {client : SppAddress} {i : Nat}
    {entry : Joined} (holds : HostHolds setup host joined) (here : joined[i]? = some entry)
    (points : PointsTo host client entry.address) (names : ∀ pd ∈ received joined, 0 ∈ pd.name.toList) (id : UInt16) :
    FindsOwn host client entry.properties id ↔ OwnFirst entry.properties (searched joined entry) id := by
  have lookup := sppHostGetDefinition_eq holds here points id
  have members : ∀ pd ∈ entry.properties, pd ∈ received joined := fun pd member =>
    List.mem_flatMap.mpr ⟨entry, List.mem_of_getElem? here, member⟩
  unfold FindsOwn OwnFirst
  cases found : (searched joined entry).findIdx? (·.id == id) with
  | none =>
    have nowhere : (searched joined entry).find? (·.id == id) = none := by
      rw [List.find?_eq_bind_findIdx?_getElem?, found]
      rfl
    rw [found] at lookup
    simp [nowhere, lookup]
  | some place =>
    obtain ⟨copy, pd, stored, same, first⟩ := holds.copy_found here found
    have inside : pd ∈ received joined := List.mem_of_mem_take (List.mem_of_find?_eq_some first)
    have matching : pd.id = id := by simpa using List.find?_some first
    rw [found] at lookup
    simp only [first, lookup]
    -- the copy that is found is determined by what was sent of its definition
    constructor
    · rintro (⟨own, member, -, place', copy', found', stored', same'⟩ | ⟨-, unknown⟩)
      · cases found'
        obtain rfl : copy = copy' := Option.some.inj (stored.symm.trans stored')
        exact ⟨own, member, same'.sentForm_eq same⟩
      · cases unknown
    · rintro ⟨own, member, equal⟩
      refine Or.inl ⟨own, member, (congrArg Prod.fst equal).trans matching, place, copy, rfl, stored, ?_⟩
      exact same.of_sentForm equal (names pd inside) (names own (members own member))

/-- After the handshakes of compatible clients a lookup finds the definition of its own client in
every case, exactly when the definitions that arrived first never get in the way. -/
theorem definitions_found_iff {setup : HostSetup} {hostParams : SppHostEngineInitParams}
    {clients : List (ConnectingClient σ)} (host : HostParams setup hostParams) (compatible : Compatible setup clients)
    (prior : SppHostEngine) :
    (∃ final, Connects (sppHostEngineInit hostParams prior) clients final) ∧
      ∀ final, Connects (sppHostEngineInit hostParams prior) clients final →
        ((∀ client ∈ clients, ∀ pointer, PointsTo final pointer client.address → ∀ id,
            FindsOwn final pointer client.properties id) ↔
          ∀ client ∈ clients, ∀ id, OwnFirst client.properties
            ((clients.flatMap (·.properties)).take client.properties.length) id) := by
  have fresh : HostHolds setup (sppHostEngineInit hostParams prior) (([] : List (ConnectingClient σ)).map (·.joined)) :=
    host.holds prior
  have compatible' : Compatible setup ([] ++ clients) := compatible
  refine ⟨connects_exists compatible' fresh rfl, fun final connects => ?_⟩
  have holds : HostHolds setup final (clients.map (·.joined)) := connects_holds compatible' fresh rfl connects
  have names : ∀ pd ∈ received (clients.map (·.joined)), 0 ∈ pd.name.toList := by
    rw [received_joined]
    intro pd member
    obtain ⟨client, known, inside⟩ := List.mem_flatMap.mp member
    exact (compatible.params client known).names pd inside
  have each : ∀ client ∈ clients, ∀ pointer, PointsTo final pointer client.address → ∀ id,
      (FindsOwn final pointer client.properties id ↔ OwnFirst client.properties
        ((clients.flatMap (·.properties)).take client.properties.length) id) := by
    intro client member pointer points id
    obtain ⟨i, here⟩ := List.getElem?_of_mem (List.mem_map_of_mem (f := ConnectingClient.joined) member)
    rw [← received_joined]
    exact findsOwn_iff holds here points names id
  constructor
  · intro found client member id
    exact (each client member _ (pointsTo_external final client.address [] 0) id).mp
      (found client member _ (pointsTo_external final client.address [] 0) id)
  · intro first client member pointer points id
    exact (each client member pointer points id).mpr (first client member id)

def firstClient : ConnectingClient PropertyValues where
  address := 0x01
  initParams := { setupClientParams with propertyCount := 1, propertyListId := 0xD1, properties := plist.take 1 }
  prior := staticClient

def secondClient : ConnectingClient PropertyValues where
  address := 0x02
  initParams := { setupClientParams with
    clientAddress := ⟨.external [0x02], 0⟩
    propertyCount := 1
    propertyListId := 0xD2
    properties := (plist.drop 1).take 1 }
  prior := staticClient

theorem compatible_two : Compatible ⟨0x1D, 24, 15⟩ [firstClient, secondClient] where
  params := by
    intro client member
    simp only [List.mem_cons, List.not_mem_nil, or_false] at member
    rcases member with rfl | rfl
    · exact ⟨rfl, ⟨[], rfl⟩, ⟨0x00, [], rfl⟩, by decide, rfl, by decide, by decide, by decide⟩
    · exact ⟨rfl, ⟨[], rfl⟩, ⟨0x00, [], rfl⟩, by decide, rfl, by decide, by decide, by decide⟩
  addresses := by decide
  lists := by decide
  few := by decide
  addressRoom := by decide
  fits := by decide

theorem definitions_found_two :
    (∃ final, Connects (sppHostEngineInit setupParams staticHost) [firstClient, secondClient] final) ∧
      ∀ final, Connects (sppHostEngineInit setupParams staticHost) [firstClient, secondClient] final →
        ((∀ client ∈ [firstClient, secondClient], ∀ pointer, PointsTo final pointer client.address → ∀ id,
            FindsOwn final pointer client.properties id) ↔
          ∀ client ∈ [firstClient, secondClient], ∀ id, OwnFirst client.properties
            (([firstClient, secondClient].flatMap (·.properties)).take client.properties.length) id) :=
  definitions_found_iff hostParams_setup compatible_two staticHost

/-- The second client has a property that the host does not find. -/
theorem second_client_unknown_property :
    Compatible ⟨0x1D, 24, 15⟩ [firstClient, secondClient] ∧
      ∃ final, Connects (sppHostEngineInit setupParams staticHost) [firstClient, secondClient] final ∧
        ¬FindsOwn final ⟨.external [0x02], 0⟩ secondClient.properties 0xAC := by
  have compatible : Compatible ⟨0x1D, 24, 15⟩ ([] ++ [firstClient, secondClient]) := compatible_two
  have fresh : HostHolds ⟨0x1D, 24, 15⟩ (sppHostEngineInit setupParams staticHost)
      (([] : List (ConnectingClient PropertyValues)).map (·.joined)) := hostParams_setup.holds staticHost
  obtain ⟨final, connects⟩ := connects_exists compatible fresh rfl
  have holds := connects_holds compatible fresh rfl connects
  refine ⟨compatible_two, final, connects, fun found => ?_⟩
  have first : OwnFirst secondClient.properties
      (searched ([firstClient, secondClient].map (·.joined)) secondClient.joined) 0xAC :=
    (findsOwn_iff holds (i := 1) rfl (pointsTo_external final 0x02 [] 0) (by decide) 0xAC).mp found
  -- the only definition that is searched is the one of the first client
  have missed : (searched ([firstClient, secondClient].map (·.joined)) secondClient.joined).find? (·.id == 0xAC) =
      none := by decide
  rw [OwnFirst, missed] at first
  exact absurd first (by decide)

end TvcHopper.Spp
