import TvcHopper.Spp.Directory

/-! The definitions store and the client table, over every run of the host.

Neither a definition nor a new client is checked against the room there is when
it is stored. So both tables stay within their bounds exactly as long as what
comes in happens to fit.
-/

set_option autoImplicit false

namespace TvcHopper.Spp
open Machine Machine.Slots

/-! ## The definitions store -/

/-- A message as it is handed to the host: `len` bytes of the memory are the message. -/
structure Reception where
  message : List UInt8
  len : UInt16
  unset : Nat
  inside : len.toNat ≤ message.length

def Reception.call (reception : Reception) : HostCall :=
  .processMessage reception.message reception.len reception.unset

def receive (host : SppHostEngine) (reception : Reception) : Except Fault (SppHostEngine × HostEvent) :=
  hostCall host reception.call

/-- As many entries are used as there are at most, and their names are no longer than their arrays. -/
structure StoreBounded (host : SppHostEngine) : Prop where
  used : host.defsBufferUsed ≤ host.defsBufferSize
  names : ∀ pd ∈ host.defsBuffer.take host.defsBufferUsed.toNat, pd.nameLength.toNat ≤ sppPropNameLengthMax

/-- A definition from an unknown client changes nothing, any other is stored without leaving the store. -/
def DefinitionStored (host : SppHostEngine) (reception : Reception) : Prop :=
  ∀ received, reception.call.definition host.addressLength = some received →
    ∃ found host' event, sppGetClientIdx host ⟨.external received.sender, 0⟩ = .ok found ∧
      receive host reception = .ok (host', event) ∧ (found = none → host' = host)

/-- A definition comes from a known client, an entry is left for it, and its name is short enough. -/
def DefinitionFits (host : SppHostEngine) (reception : Reception) : Prop :=
  ∀ received, reception.call.definition host.addressLength = some received →
    (∃ place, sppGetClientIdx host ⟨.external received.sender, 0⟩ = .ok (some place)) ∧
      host.defsBufferUsed < host.defsBufferSize ∧ (received.length - 6).toUInt8.toNat ≤ sppPropNameLengthMax

/-- A bounded store whose size is the one of its memory. -/
structure BoundedStore (host : SppHostEngine) : Prop where
  size : host.defsBuffer.length = host.defsBufferSize.toNat
  bounded : StoreBounded host

section Store
variable {host host' : SppHostEngine}

theorem BoundedStore.congr (store : BoundedStore host) (defsBuffer : host'.defsBuffer = host.defsBuffer)
    (defsBufferUsed : host'.defsBufferUsed = host.defsBufferUsed)
    (defsBufferSize : host'.defsBufferSize = host.defsBufferSize) : BoundedStore host' where
  size := by rw [defsBuffer, defsBufferSize, store.size]
  bounded := {
    used := by rw [defsBufferUsed, defsBufferSize]; exact store.bounded.used
    names := by rw [defsBuffer, defsBufferUsed]; exact store.bounded.names }

theorem used_withDefinition (room : host.defsBufferUsed < host.defsBufferSize) :
    (host.defsBufferUsed + 1).toNat = host.defsBufferUsed.toNat + 1 := by
  have one : (1 : UInt16).toNat = 1 := rfl
  have wide := host.defsBufferSize.toNat_lt
  have below := UInt16.lt_iff_toNat_lt.mp room
  rw [UInt16.toNat_add]
  omega

theorem BoundedStore.withDefinition (store : BoundedStore host) (room : host.defsBufferUsed < host.defsBufferSize)
    (place : Nat) (bound : place < sppConnectionsMax) {copy : SppPropertyDefinition}
    (short : copy.nameLength.toNat ≤ sppPropNameLengthMax) (remaining : UInt8) :
    BoundedStore (withDefinition host place bound copy remaining) := by
  have next := used_withDefinition room
  have below := UInt16.lt_iff_toNat_lt.mp room
  have inside : host.defsBufferUsed.toNat < host.defsBuffer.length := by
    rw [store.size]
    exact below
  refine ⟨?_, ?_, ?_⟩
  · rw [Spp.withDefinition, List.length_set, store.size]
  · rw [Spp.withDefinition, UInt16.le_iff_toNat_le, next]
    exact below
  · intro pd member
    rw [Spp.withDefinition, next, List.take_add_one, List.getElem?_set_self inside,
      List.take_set_of_le (Nat.le_refl _)] at member
    simp only [Option.toList_some, List.mem_append, List.mem_singleton] at member
    rcases member with earlier | rfl
    · exact store.bounded.names pd earlier
    · exact short

theorem definitionStored_iff (store : BoundedStore host) (reception : Reception) :
    DefinitionStored host reception ↔ DefinitionFits host reception := by
  constructor
  · intro stored received definition
    obtain ⟨found, host', event, searched, done, unchanged⟩ := stored received definition
    rw [receive, hostCall_definition definition, bind_eq_ok] at done
    obtain ⟨_, unpacked, done⟩ := done
    cases done
    obtain ⟨room, short, _, bound, copy, remaining, searched', -, -, rfl⟩ := sppUnpackPropDef_outcome unpacked
    rw [store.size] at room
    have free : host.defsBufferUsed < host.defsBufferSize := UInt16.lt_iff_toNat_lt.mpr room
    refine ⟨?_, free, short⟩
    cases found with
    | some place => exact ⟨place, searched⟩
    | none =>
      -- the entry is used up, whoever sent the definition
      have same : host.defsBufferUsed + 1 = host.defsBufferUsed :=
        congrArg SppHostEngine.defsBufferUsed (unchanged rfl)
      have next := used_withDefinition free
      rw [same] at next
      omega
  · intro fits received definition
    obtain ⟨⟨place, known⟩, free, short⟩ := fits received definition
    have room : host.defsBufferUsed.toNat < host.defsBuffer.length := by
      rw [store.size]
      exact UInt16.lt_iff_toNat_lt.mp free
    obtain ⟨host', unpacked⟩ := sppUnpackPropDef_completes received.unset
      (definition_inside definition reception.inside) known room short
    refine ⟨some place, host', ⟨reception.call, [], sppStatusOk⟩, known, ?_, fun unknown => by cases unknown⟩
    rw [receive, hostCall_definition definition, unpacked]
    rfl

theorem BoundedStore.step {call : HostCall} {event : HostEvent} (store : BoundedStore host)
    (fits : ∀ received, call.definition host.addressLength = some received →
      host.defsBufferUsed < host.defsBufferSize)
    (done : hostCall host call = .ok (host', event)) : BoundedStore host' := by
  cases directory_outcome done with
  | kept silent same notDefinition =>
    exact store.congr (congrArg Directory.defsBuffer same) (congrArg Directory.defsBufferUsed same)
      (congrArg Directory.defsBufferSize same)
  | connected state client effects connects notDefinition done =>
    have frame := sppConnectToClient_frame done
    exact store.congr frame.defsBuffer frame.defsBufferUsed frame.defsBufferSize
  | defined received definition silent unpacked =>
    obtain ⟨-, short, _, bound, copy, remaining, -, -, length, rfl⟩ := sppUnpackPropDef_outcome unpacked
    exact store.withDefinition (fits received definition) _ bound (by rw [length]; exact short) remaining

end Store

/-- However messages follow one another, the store stays within its bounds and definitions of unknown
clients have no effect exactly when every definition is from a known client and fits. -/
theorem definitions_bounded_iff (initParams : SppHostEngineInitParams)
    (size : initParams.defsBuffer.length = initParams.defsBufferSize.toNat) (prior : SppHostEngine)
    (receptions : List Reception) :
    (EveryState receive StoreBounded (sppHostEngineInit initParams prior) receptions ∧
        EveryAttempt receive DefinitionStored (sppHostEngineInit initParams prior) receptions) ↔
      EveryAttempt receive DefinitionFits (sppHostEngineInit initParams prior) receptions := by
  have fresh : BoundedStore (sppHostEngineInit initParams prior) := by
    refine ⟨size, UInt16.le_iff_toNat_le.mpr (Nat.zero_le _), ?_⟩
    simp [sppHostEngineInit]
  have preserved : ∀ host reception host' event, BoundedStore host → DefinitionFits host reception →
      receive host reception = .ok (host', event) → BoundedStore host' :=
    fun host reception host' event store fits done =>
      store.step (fun received definition => (fits received definition).2.1) done
  have same := everyAttempt_iff (fun _ reception store => definitionStored_iff store reception) preserved fresh
    receptions
  constructor
  · exact fun bounded => same.mp bounded.2
  · intro fits
    exact ⟨(everyState_of_everyAttempt preserved fresh fits).mono fun _ store => store.bounded, same.mpr fits⟩

/-- The host as the test sets it up, and a definition from a client that is not in its table. -/
def strayDefinition : Reception :=
  ⟨[0xCD, 0xA5, 0x44, 0x1D, 1, 0, 0x0E, 0x00, 2, 0, 0x70, 0x00], 12, 0, by decide⟩

theorem stray_definition_stored :
    (∃ host event, receive (sppHostEngineInit setupParams staticHost) strayDefinition = .ok (host, event) ∧
      host.clientCount = 0 ∧ host.defsBufferUsed = 1 ∧ host.propertyCount[0] = 1) ∧
    ¬(EveryState receive StoreBounded (sppHostEngineInit setupParams staticHost) [strayDefinition] ∧
        EveryAttempt receive DefinitionStored (sppHostEngineInit setupParams staticHost) [strayDefinition]) := by
  refine ⟨⟨_, _, rfl, rfl, rfl, rfl⟩, ?_⟩
  rintro ⟨-, stored, -⟩
  obtain ⟨found, host', event, searched, done, unchanged⟩ := stored _ rfl
  cases searched
  -- the host counts a definition for the first place of its table
  have counted : host'.defsBufferUsed = 1 := by
    cases done
    rfl
  rw [unchanged rfl] at counted
  exact absurd counted (by decide)

theorem definitions_bounded_setup :
    (EveryState receive StoreBounded (sppHostEngineInit setupParams staticHost) [strayDefinition] ∧
        EveryAttempt receive DefinitionStored (sppHostEngineInit setupParams staticHost) [strayDefinition]) ↔
      EveryAttempt receive DefinitionFits (sppHostEngineInit setupParams staticHost) [strayDefinition] :=
  definitions_bounded_iff setupParams rfl staticHost [strayDefinition]

/-! ## The client table -/

/-- The places that `SppConnectToClient` writes in `clients`, `property_count` and `property_def_start`. -/
def connectWrites (host : SppHostEngine) (client : SppAddress) : List Nat :=
  match search (clientIsAt host client) host.clientCount.toNat 0 with
  | .ok none => [host.clientCount.toNat]
  | .ok (some _) =>
    if (List.range host.clientCount.toNat).any fun place => isDuplicateAt host client place = .ok true then
      [host.clientCount.toNat - 1]
    else []
  | .error _ => []

/-- The place whose property count a received definition raises. -/
def definitionPlace (host : SppHostEngine) (received : ReceivedDefinition) : Option Nat :=
  match sppGetClientIdx host ⟨.external received.sender, 0⟩ with
  | .ok found => some (found.getD received.unset)
  | .error _ => none

/-- The places that a call writes in the three arrays of the client table. -/
def tableWrites (host : SppHostEngine) (call : HostCall) : List Nat :=
  (match call.connects host with
    | some (state, client) => connectWrites { host with state } client
    | none => []) ++
  ((call.definition host.addressLength).bind (definitionPlace host)).toList

/-- A new client finds a free place, and the place of an unknown sender happens to be inside. -/
def PlaceFree (host : SppHostEngine) (call : HostCall) : Prop :=
  (∀ state client, call.connects host = some (state, client) →
      search (clientIsAt host client) host.clientCount.toNat 0 = .ok none →
        host.clientCount.toNat < sppConnectionsMax) ∧
    ∀ received, call.definition host.addressLength = some received →
      sppGetClientIdx host ⟨.external received.sender, 0⟩ = .ok none → received.unset < sppConnectionsMax

section Table
variable {host host' : SppHostEngine} {client client' : SppAddress} {call : HostCall} {event : HostEvent}

theorem connectWrites_new (unknown : search (clientIsAt host client) host.clientCount.toNat 0 = .ok none) :
    connectWrites host client = [host.clientCount.toNat] := by
  simp only [connectWrites, unknown]

theorem connectWrites_alone {place : Nat}
    (known : search (clientIsAt host client) host.clientCount.toNat 0 = .ok (some place))
    (none : ∀ other, 0 ≤ other → other < host.clientCount.toNat → isDuplicateAt host client other = .ok false) :
    connectWrites host client = [] := by
  have alone : ((List.range host.clientCount.toNat).any fun place => isDuplicateAt host client place = .ok true) =
      false := by
    rw [List.any_eq_false]
    intro other member
    simp [none other (Nat.zero_le _) (List.mem_range.mp member)]
  simp only [connectWrites, known, alone, Bool.false_eq_true, if_false]

theorem connectWrites_duplicate {place other : Nat}
    (known : search (clientIsAt host client) host.clientCount.toNat 0 = .ok (some place))
    (inside : other < host.clientCount.toNat) (duplicate : isDuplicateAt host client other = .ok true) :
    connectWrites host client = [host.clientCount.toNat - 1] := by
  have found : ((List.range host.clientCount.toNat).any fun place => isDuplicateAt host client place = .ok true) =
      true :=
    List.any_eq_true.mpr ⟨other, List.mem_range.mpr inside, by simp [duplicate]⟩
  simp only [connectWrites, known, found, if_true]

/-- A place that is not written keeps what it holds. -/
structure SamePlace (host host' : SppHostEngine) (place : Nat) (bound : place < sppConnectionsMax) : Prop where
  client : host'.clients[place] = host.clients[place]
  propertyCount : host'.propertyCount[place] = host.propertyCount[place]
  propertyDefStart : host'.propertyDefStart[place] = host.propertyDefStart[place]

theorem SamePlace.of_directory (same : host'.directory = host.directory) (place : Nat)
    (bound : place < sppConnectionsMax) : SamePlace host host' place bound where
  client := congrArg (fun directory => directory.clients[place]) same
  propertyCount := congrArg (fun directory => directory.propertyCount[place]) same
  propertyDefStart := congrArg (fun directory => directory.propertyDefStart[place]) same

theorem connect_places {effects : List HostEffect}
    (connected : sppConnectToClient host client = .ok (host', effects)) :
    (∀ place ∈ connectWrites host client, place < sppConnectionsMax) ∧
      ∀ place, (bound : place < sppConnectionsMax) → place ∉ connectWrites host client →
        SamePlace host host' place bound := by
  obtain ⟨added, client', header, status, add, -, looped, -⟩ := sppConnectToClient_outcome connected
  cases add with
  | known index found same pointer =>
    subst same pointer
    cases looped with
    | alone none same kept =>
      subst same
      rw [connectWrites_alone found none]
      exact ⟨by simp, fun place bound _ => ⟨rfl, rfl, rfl⟩⟩
    | duplicate place low high lastBound bound duplicate others given marked =>
      subst given
      rw [connectWrites_duplicate found high duplicate]
      refine ⟨by simpa using lastBound, fun other otherBound apart => ⟨rfl, ?_, ?_⟩⟩
      all_goals
        have differs : added.clientCount.toNat - 1 ≠ other := fun same => apart (by simp [same])
        exact Vector.getElem_set_ne lastBound otherBound differs
  | new unknown bound address bytes addressBuffer reads loaded stored pointer same =>
    have last : added.clientCount.toNat - 1 = host.clientCount.toNat := by
      have one : (1 : UInt8).toNat = 1 := rfl
      have small : host.clientCount.toNat < 5 := bound
      rw [same, UInt8.toNat_add]
      omega
    rw [connectWrites_new unknown]
    refine ⟨by simpa using bound, fun place placeBound apart => ?_⟩
    have differs : host.clientCount.toNat ≠ place := fun same => apart (by simp [same])
    have kept : SamePlace host added place placeBound := by
      subst same
      exact ⟨Vector.getElem_set_ne bound placeBound differs, rfl, rfl⟩
    cases looped with
    | alone none same kept' =>
      subst same
      exact kept
    | duplicate other low high lastBound otherBound duplicate others given marked =>
      subst given
      refine ⟨kept.client, ?_, ?_⟩
      · exact (Vector.getElem_set_ne lastBound placeBound (last ▸ differs)).trans kept.propertyCount
      · exact (Vector.getElem_set_ne lastBound placeBound (last ▸ differs)).trans kept.propertyDefStart

theorem tableWrites_connect {state : SppState} (connects : call.connects host = some (state, client))
    (notDefinition : call.definition host.addressLength = none) :
    tableWrites host call = connectWrites { host with state } client := by
  simp [tableWrites, connects, notDefinition]

theorem tableWrites_definition {received : ReceivedDefinition} {found : Option Nat}
    (silent : call.connects host = none) (definition : call.definition host.addressLength = some received)
    (searched : sppGetClientIdx host ⟨.external received.sender, 0⟩ = .ok found) :
    tableWrites host call = [found.getD received.unset] := by
  simp [tableWrites, silent, definition, definitionPlace, searched]

theorem tableWrites_places (done : hostCall host call = .ok (host', event)) :
    (∀ place ∈ tableWrites host call, place < sppConnectionsMax) ∧
      ∀ place, (bound : place < sppConnectionsMax) → place ∉ tableWrites host call →
        SamePlace host host' place bound := by
  cases directory_outcome done with
  | kept silent same notDefinition =>
    have nothing : tableWrites host call = [] := by simp [tableWrites, silent, notDefinition]
    rw [nothing]
    exact ⟨by simp, fun place bound _ => .of_directory same place bound⟩
  | connected state client effects connects notDefinition done =>
    rw [tableWrites_connect connects notDefinition]
    obtain ⟨inside, kept⟩ := connect_places done
    exact ⟨inside, fun place bound apart => ⟨(kept place bound apart).client, (kept place bound apart).propertyCount,
      (kept place bound apart).propertyDefStart⟩⟩
  | defined received definition silent unpacked =>
    obtain ⟨-, -, found, bound, copy, remaining, searched, -, -, rfl⟩ := sppUnpackPropDef_outcome unpacked
    rw [tableWrites_definition silent definition searched]
    refine ⟨by simpa using bound, fun place placeBound apart => ⟨rfl, ?_, rfl⟩⟩
    have differs : found.getD received.unset ≠ place := fun same => apart (by simp [same])
    exact Vector.getElem_set_ne bound placeBound differs

theorem connectWrites_iff (few : host.clientCount.toNat ≤ sppConnectionsMax) (client : SppAddress) :
    (∀ place ∈ connectWrites host client, place < sppConnectionsMax) ↔
      (search (clientIsAt host client) host.clientCount.toNat 0 = .ok none →
        host.clientCount.toNat < sppConnectionsMax) := by
  cases known : search (clientIsAt host client) host.clientCount.toNat 0 with
  | error fault => simp [connectWrites, known]
  | ok found =>
    cases found with
    | none => simp [connectWrites_new known]
    | some place =>
      -- a known client is one of those that are counted
      have counted : place < host.clientCount.toNat := by
        have range := (search_eq_some.mp known).2.1
        omega
      have last : host.clientCount.toNat - 1 < sppConnectionsMax := by omega
      simp only [reduceCtorEq, Except.ok.injEq, false_implies, iff_true, connectWrites, known]
      intro other member
      split at member
      · obtain rfl := List.mem_singleton.mp member
        exact last
      · cases member

theorem definitionPlace_iff (received : ReceivedDefinition) :
    (∀ place ∈ (definitionPlace host received).toList, place < sppConnectionsMax) ↔
      (sppGetClientIdx host ⟨.external received.sender, 0⟩ = .ok none → received.unset < sppConnectionsMax) := by
  obtain ⟨found, searched⟩ := sppGetClientIdx_total host ⟨.external received.sender, 0⟩
  cases found with
  | none => simp [definitionPlace, searched]
  | some place =>
    have bound := sppGetClientIdx_bound searched
    simpa [definitionPlace, searched] using bound

/-- A call writes inside the table exactly when it finds a free place for what it adds. -/
theorem tableWrites_iff (few : host.clientCount.toNat ≤ sppConnectionsMax) (call : HostCall) :
    (∀ place ∈ tableWrites host call, place < sppConnectionsMax) ↔ PlaceFree host call := by
  have connecting : (∀ place ∈ (match call.connects host with
        | some (state, client) => connectWrites { host with state } client
        | none => []), place < sppConnectionsMax) ↔
      ∀ state client, call.connects host = some (state, client) →
        search (clientIsAt host client) host.clientCount.toNat 0 = .ok none →
          host.clientCount.toNat < sppConnectionsMax := by
    cases call.connects host with
    | none => simp
    | some connected =>
      obtain ⟨state, client⟩ := connected
      have writes : (∀ place ∈ connectWrites { host with state } client, place < sppConnectionsMax) ↔
          (search (clientIsAt host client) host.clientCount.toNat 0 = .ok none →
            host.clientCount.toNat < sppConnectionsMax) := connectWrites_iff few client
      refine writes.trans ⟨?_, ?_⟩
      · rintro free _ _ ⟨rfl, rfl⟩
        exact free
      · exact fun free => free state client rfl
  have defining : (∀ place ∈ ((call.definition host.addressLength).bind (definitionPlace host)).toList,
        place < sppConnectionsMax) ↔
      ∀ received, call.definition host.addressLength = some received →
        sppGetClientIdx host ⟨.external received.sender, 0⟩ = .ok none → received.unset < sppConnectionsMax := by
    cases call.definition host.addressLength with
    | none => simp
    | some received =>
      refine (definitionPlace_iff received).trans ⟨?_, ?_⟩
      · rintro free _ ⟨⟩
        exact free
      · exact fun free => free received rfl
  rw [PlaceFree, ← connecting, ← defining, tableWrites, List.forall_mem_append]

theorem clientCount_step (few : host.clientCount.toNat ≤ sppConnectionsMax)
    (done : hostCall host call = .ok (host', event)) : host'.clientCount.toNat ≤ sppConnectionsMax := by
  cases directory_outcome done with
  | kept silent same notDefinition =>
    have count : host'.clientCount = host.clientCount := congrArg Directory.clientCount same
    exact count ▸ few
  | defined received definition silent unpacked =>
    obtain ⟨-, -, _, _, _, _, -, -, -, rfl⟩ := sppUnpackPropDef_outcome unpacked
    exact few
  | connected state client effects connects notDefinition done =>
    obtain ⟨added, client', header, status, add, -, looped, -⟩ := sppConnectToClient_outcome done
    rw [looped.frame.2.2.1]
    cases add with
    | known index found same pointer => exact same ▸ few
    | new unknown bound address bytes addressBuffer reads loaded stored pointer same =>
      have one : (1 : UInt8).toNat = 1 := rfl
      have small : host.clientCount.toNat < 5 := bound
      rw [same, UInt8.toNat_add]
      exact (Nat.mod_le _ _).trans small

end Table

/-- However calls follow one another, the table stays within its bounds exactly when every new client
finds a free place and the place of every unknown sender happens to be inside. -/
theorem client_table_bounded_iff (initParams : SppHostEngineInitParams) (prior : SppHostEngine)
    (calls : List HostCall) :
    (EveryState hostCall (fun host => host.clientCount.toNat ≤ sppConnectionsMax)
          (sppHostEngineInit initParams prior) calls ∧
        EveryAttempt hostCall (fun host call => ∀ place ∈ tableWrites host call, place < sppConnectionsMax)
          (sppHostEngineInit initParams prior) calls) ↔
      EveryAttempt hostCall PlaceFree (sppHostEngineInit initParams prior) calls := by
  have fresh : (sppHostEngineInit initParams prior).clientCount.toNat ≤ sppConnectionsMax := Nat.zero_le _
  have preserved : ∀ host call host' event, host.clientCount.toNat ≤ sppConnectionsMax → PlaceFree host call →
      hostCall host call = .ok (host', event) → host'.clientCount.toNat ≤ sppConnectionsMax :=
    fun _ _ _ _ few _ done => clientCount_step few done
  have same := everyAttempt_iff (fun _ call few => tableWrites_iff few call) preserved fresh calls
  constructor
  · exact fun bounded => same.mp bounded.2
  · exact fun free => ⟨everyState_of_everyAttempt preserved fresh free, same.mpr free⟩

/-- The sixth of six clients with different addresses and property lists. -/
theorem sixth_client_outside :
    (∃ host events, run hostCall (sppHostEngineInit setupParams staticHost)
        ((List.range 5).map fun i => .connectToClient ⟨.external [UInt8.ofNat (i + 1)], UInt16.ofNat i⟩) =
          .ok (host, events) ∧
      host.clientCount = 5 ∧ tableWrites host (.connectToClient ⟨.external [6], 5⟩) = [5]) ∧
    ¬(EveryState hostCall (fun host => host.clientCount.toNat ≤ sppConnectionsMax)
          (sppHostEngineInit setupParams staticHost)
          ((List.range 6).map fun i => .connectToClient ⟨.external [UInt8.ofNat (i + 1)], UInt16.ofNat i⟩) ∧
        EveryAttempt hostCall (fun host call => ∀ place ∈ tableWrites host call, place < sppConnectionsMax)
          (sppHostEngineInit setupParams staticHost)
          ((List.range 6).map fun i => .connectToClient ⟨.external [UInt8.ofNat (i + 1)], UInt16.ofNat i⟩)) := by
  refine ⟨⟨_, _, rfl, rfl, by decide⟩, ?_⟩
  rintro ⟨-, -, -, -, -, -, within, -⟩
  exact absurd (within 5 (by decide)) (by decide)

end TvcHopper.Spp
