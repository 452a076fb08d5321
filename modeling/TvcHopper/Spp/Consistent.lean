import TvcHopper.Spp.Handshake

/-! What holds of the host in every state it can reach, for addresses of one byte.

Whatever calls and messages come, each client has one place in the table, no
client has a start of its own in the buffer of definitions, and no client counts
more definitions than the buffer holds.
-/

set_option autoImplicit false

namespace TvcHopper.Spp
open Machine

/-- The clients of the table, without regard to whose definitions are whose. -/
structure Consistent (own : UInt8) (host : SppHostEngine) (joined : List Joined) : Prop where
  one : OneByteHost host own
  table : ClientTable host joined
  distinct : (joined.map (·.address)).Nodup
  size : host.defsBuffer.length = host.defsBufferSize.toNat
  used : host.defsBufferUsed.toNat ≤ host.defsBuffer.length
  starts : ∀ (i : Nat) (bound : i < sppConnectionsMax), host.propertyDefStart[i] = 0
  counts : ∀ (i : Nat) (bound : i < sppConnectionsMax),
    host.propertyCount[i].toNat ≤ host.defsBufferUsed.toNat

section Steps
variable {own address : UInt8} {host host' : SppHostEngine} {joined : List Joined} {client client' : SppAddress}

theorem consistent_init {setup : HostSetup} {initParams : SppHostEngineInitParams}
    (params : HostParams setup initParams) (size : initParams.defsBuffer.length = initParams.defsBufferSize.toNat)
    (prior : SppHostEngine) :
    Consistent setup.address (sppHostEngineInit initParams prior) [] where
  one := (params.holds prior).one
  table := (params.holds prior).table
  distinct := List.nodup_nil
  size := size
  used := Nat.zero_le _
  starts := by simp [sppHostEngineInit]
  counts := by simp [sppHostEngineInit]

theorem Consistent.congr (consistent : Consistent own host joined) (same : host'.directory = host.directory) :
    Consistent own host' joined := by
  have starts : host'.propertyDefStart = host.propertyDefStart := congrArg Directory.propertyDefStart same
  have counts : host'.propertyCount = host.propertyCount := congrArg Directory.propertyCount same
  have used : host'.defsBufferUsed = host.defsBufferUsed := congrArg Directory.defsBufferUsed same
  have buffer : host'.defsBuffer = host.defsBuffer := congrArg Directory.defsBuffer same
  have size : host'.defsBufferSize = host.defsBufferSize := congrArg Directory.defsBufferSize same
  have length : host'.addressLength = host.addressLength := congrArg Directory.addressLength same
  have callbacks : host'.callbacks = host.callbacks := congrArg Directory.callbacks same
  have address : host'.hostAddress = host.hostAddress := congrArg Directory.hostAddress same
  constructor
  · exact ⟨length ▸ consistent.one.addressLength, callbacks ▸ consistent.one.callbacks,
      address ▸ consistent.one.hostAddress⟩
  · exact consistent.table.congr (congrArg Directory.clientCount same) (congrArg Directory.clients same)
      (congrArg Directory.addressBuffer same)
  · exact consistent.distinct
  · rw [buffer, size, consistent.size]
  · rw [buffer, used]
    exact consistent.used
  · rw [starts]
    exact consistent.starts
  · rw [counts, used]
    exact consistent.counts

theorem Consistent.withState (consistent : Consistent own host joined) (state : SppState) :
    Consistent own { host with state } joined where
  one := ⟨consistent.one.addressLength, consistent.one.callbacks, consistent.one.hostAddress⟩
  table := consistent.table.congr rfl rfl rfl
  distinct := consistent.distinct
  size := consistent.size
  used := consistent.used
  starts := consistent.starts
  counts := consistent.counts

theorem Consistent.withClient (consistent : Consistent own host joined) {address : UInt8}
    (absent : address ∉ joined.map (·.address)) (propertyListId : UInt16) (space : joined.length < sppConnectionsMax)
    (memory : joined.length < host.addressBuffer.length) :
    Consistent own (withClient host address propertyListId joined.length space)
      (joined ++ [⟨address, propertyListId, []⟩]) where
  one := ⟨consistent.one.addressLength, consistent.one.callbacks, consistent.one.hostAddress⟩
  table := consistent.table.withClient address propertyListId space memory
  distinct := by
    rw [List.map_append, List.nodup_append]
    exact ⟨consistent.distinct, List.nodup_singleton _, by simpa using fun a member same => absent (by simp_all)⟩
  size := consistent.size
  used := consistent.used
  starts := consistent.starts
  counts := consistent.counts

theorem Consistent.withRange (consistent : Consistent own host joined) (last place : Nat)
    (lastBound : last < sppConnectionsMax) (placeBound : place < sppConnectionsMax) :
    Consistent own (withRange host last place lastBound placeBound) joined where
  one := ⟨consistent.one.addressLength, consistent.one.callbacks, consistent.one.hostAddress⟩
  table := consistent.table.congr rfl rfl rfl
  distinct := consistent.distinct
  size := consistent.size
  used := consistent.used
  starts := by
    intro i bound
    rw [Spp.withRange, Vector.getElem_set]
    split
    · exact consistent.starts place placeBound
    · exact consistent.starts i bound
  counts := by
    intro i bound
    rw [Spp.withRange, Vector.getElem_set]
    split
    · exact consistent.counts place placeBound
    · exact consistent.counts i bound

theorem Consistent.withDefinition (consistent : Consistent own host joined)
    (room : host.defsBufferUsed.toNat < host.defsBuffer.length) (place : Nat) (bound : place < sppConnectionsMax)
    (copy : SppPropertyDefinition) (remaining : UInt8) :
    Consistent own (withDefinition host place bound copy remaining) joined := by
  have wide := host.defsBufferSize.toNat_lt
  have size := consistent.size
  have one : (1 : UInt16).toNat = 1 := rfl
  have next : (host.defsBufferUsed + 1).toNat = host.defsBufferUsed.toNat + 1 := by
    rw [UInt16.toNat_add]
    omega
  constructor
  · exact ⟨consistent.one.addressLength, consistent.one.callbacks, consistent.one.hostAddress⟩
  · exact consistent.table.congr rfl rfl rfl
  · exact consistent.distinct
  · rw [Spp.withDefinition, List.length_set, size]
  · rw [Spp.withDefinition, List.length_set, next]
    exact room
  · exact consistent.starts
  · intro i inside
    have before := consistent.counts i inside
    have here := consistent.counts place bound
    rw [Spp.withDefinition, next, Vector.getElem_set]
    split
    · rw [UInt16.toNat_add]
      omega
    · omega

/-! ## Connecting -/

/-- A client that connects is known, or gets the next place. -/
inductive Added (own : UInt8) (host host' : SppHostEngine) (joined : List Joined) (client client' : SppAddress) :
    Prop where
  | known (place : Nat) (found : search (clientIsAt host client) host.clientCount.toNat 0 = .ok (some place))
      (same : host' = host) (pointer : client' = client)
  | new (unknown : search (clientIsAt host client) host.clientCount.toNat 0 = .ok none) (address : UInt8)
      (points : PointsTo host client address) (absent : address ∉ joined.map (·.address))
      (space : joined.length < sppConnectionsMax) (memory : joined.length < host.addressBuffer.length)
      (added : host' = withClient host address client.propertyListId joined.length space)
      (pointer : client' = ⟨.permanent joined.length, client.propertyListId⟩)

theorem Consistent.added (consistent : Consistent own host joined) (outcome : AddOutcome host host' client client') :
    Added own host host' joined client client' := by
  cases outcome with
  | known place found same pointer => exact .known place found same pointer
  | new unknown bound memory bytes addressBuffer reads loaded stored pointer added =>
    have count := consistent.table.count
    rw [consistent.one.addressLength, toNat_one] at loaded
    obtain ⟨inside, one⟩ := loadRange_eq_ok.mp loaded
    obtain ⟨address, rest, whole⟩ := List.exists_cons_of_length_pos inside
    subst whole
    obtain rfl : bytes = [address] := by simpa using one.symm
    have points : PointsTo host client address := ⟨rest, reads⟩
    have room : host.clientCount.toNat < host.addressBuffer.length := (storeRange_eq_ok.mp stored).1
    rw [storeRange_one room] at stored
    cases stored
    -- none of the counted clients has the address
    have absent : address ∉ joined.map (·.address) := by
      intro member
      obtain ⟨entry, known, same⟩ := List.mem_map.mp member
      obtain ⟨i, within, here⟩ := List.getElem_of_mem known
      have different := search_eq_none.mp unknown i (Nat.zero_le _) (by omega)
      rw [(isClientAt_eq consistent.one consistent.table points (by omega)).2, List.getElem?_eq_getElem within,
        Option.any_some, here, same] at different
      simp at different
    refine .new unknown address points absent (count ▸ bound) (count ▸ room) ?_ (count ▸ pointer)
    subst added pointer
    simp only [count]
    rfl

theorem Consistent.connect {effects : List HostEffect} (consistent : Consistent own host joined)
    (connected : sppConnectToClient host client = .ok (host', effects)) :
    ∃ more, Consistent own host' (joined ++ more) := by
  obtain ⟨added, client', header, status, add, -, looped, -⟩ := sppConnectToClient_outcome connected
  obtain ⟨more, kept⟩ : ∃ more, Consistent own added (joined ++ more) := by
    cases consistent.added add with
    | known place found same pointer => exact ⟨[], by simpa [same] using consistent⟩
    | new unknown address points absent space memory same pointer =>
      exact ⟨_, same ▸ consistent.withClient absent _ space memory⟩
  refine ⟨more, ?_⟩
  cases looped with
  | alone none same kept' => exact same ▸ kept
  | duplicate place low high lastBound bound found others given marked =>
    exact given ▸ kept.withRange _ _ lastBound bound

/-- Every call that completes keeps the host consistent. -/
theorem Consistent.step {call : HostCall} {event : HostEvent} (consistent : Consistent own host joined)
    (done : hostCall host call = .ok (host', event)) : ∃ more, Consistent own host' (joined ++ more) := by
  cases directory_outcome done with
  | kept silent same notDefinition => exact ⟨[], by simpa using consistent.congr same⟩
  | connected state client effects connects notDefinition done => exact (consistent.withState state).connect done
  | defined received definition silent unpacked =>
    obtain ⟨room, -, _, bound, copy, remaining, -, -, -, rfl⟩ := sppUnpackPropDef_outcome unpacked
    exact ⟨[], by simpa using consistent.withDefinition room _ bound copy remaining⟩

/-! ## Places -/

theorem Consistent.place_address (consistent : Consistent own host joined) (points : PointsTo host client address)
    {place : Nat} (bound : place < sppConnectionsMax) (found : clientIsAt host client place = .ok true) :
    ∃ entry, joined[place]? = some entry ∧ entry.address = address := by
  rw [(isClientAt_eq consistent.one consistent.table points bound).2, Except.ok.injEq] at found
  cases here : joined[place]? with
  | none => simp [here] at found
  | some entry => exact ⟨entry, rfl, by simpa [here] using found⟩

theorem Consistent.place_unique (consistent : Consistent own host joined) {i j : Nat} {first second : Joined}
    (here : joined[i]? = some first) (there : joined[j]? = some second) (same : first.address = second.address) :
    i = j := by
  obtain ⟨within, -⟩ := List.getElem?_eq_some_iff.mp here
  apply (List.getElem?_inj (by simpa using within) consistent.distinct).mp
  simp only [List.getElem?_map, here, there, Option.map_some, same]

theorem Consistent.lookup (consistent : Consistent own host joined) {place : Nat} {entry : Joined}
    (here : joined[place]? = some entry) (points : PointsTo host client entry.address)
    (bound : place < sppConnectionsMax) (id : UInt16) :
    sppHostGetDefinition host client id =
      .ok (match (host.defsBuffer.take host.propertyCount[place].toNat).findIdx? (·.id == id) with
        | some index => (sppStatusOk, some index)
        | none => (sppStatusUnknownProperty, none)) :=
  sppHostGetDefinition_front consistent.one consistent.table consistent.distinct here points bound
    (consistent.starts place bound) ((consistent.counts place bound).trans consistent.used) id

end Steps

theorem consistent_run {setup : HostSetup} {initParams : SppHostEngineInitParams} (params : HostParams setup initParams)
    (size : initParams.defsBuffer.length = initParams.defsBufferSize.toNat) {prior host : SppHostEngine}
    {calls : List HostCall} {events : List HostEvent}
    (reached : run hostCall (sppHostEngineInit initParams prior) calls = .ok (host, events)) :
    ∃ joined, Consistent setup.address host joined := by
  refine run_invariant (fun host => ∃ joined, Consistent setup.address host joined) ?_
    ⟨[], consistent_init params size prior⟩ reached
  rintro state call next event ⟨joined, consistent⟩ done
  obtain ⟨more, kept⟩ := consistent.step done
  exact ⟨joined ++ more, kept⟩

end TvcHopper.Spp
