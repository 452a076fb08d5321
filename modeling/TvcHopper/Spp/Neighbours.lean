import TvcHopper.Spp.Consistent

/-! What a client does to the definitions of the others, for addresses of one byte.

The range of a duplicate goes to the last client in the table, because a client
that connects usually is the last one. One that is known already may have
another place, and then it is its neighbour who gets the range.
-/

set_option autoImplicit false

namespace TvcHopper.Spp
open Machine

def Known (host : SppHostEngine) (address : UInt8) : Prop :=
  ∃ (i : Nat) (bound : i < sppConnectionsMax), i < host.clientCount.toNat ∧ PointsTo host host.clients[i] address

/-- Both lookups of a client have the results they had before, and lead to the same definitions. -/
structure SameLookups (host host' : SppHostEngine) (client : SppAddress) : Prop where
  count : sppHostGetPropertyCount host' client = sppHostGetPropertyCount host client
  definition : ∀ id, sppHostGetDefinition host' client id = sppHostGetDefinition host client id
  contents : ∀ id status place, sppHostGetDefinition host client id = .ok (status, some place) →
    host'.defsBuffer[place]? = host.defsBuffer[place]?

/-- The lookups of all known clients with another address. -/
def Undisturbed (host host' : SppHostEngine) (address : UInt8) : Prop :=
  ∀ other client, other ≠ address → Known host other → PointsTo host client other → PointsTo host' client other →
    SameLookups host host' client

/-- A direct call of `SppConnectToClient` for the client with this address, or a message that carries it. -/
def HostCall.CarriesAddress (host : SppHostEngine) (address : UInt8) : HostCall → Prop
  | .connectToClient client => PointsTo host client address
  | call@(.processMessage _ _ _) => ∃ msgId, call.header host.addressLength = some (msgId, [address])
  | _ => False

/-- The last of the first clients that is a duplicate of the connecting one. -/
def lastDuplicate (host : SppHostEngine) (client : SppAddress) (places : Nat) : Option Nat :=
  searchBack (fun place => isDuplicateAt host client place = .ok true) places

/-- Where a known client that is not the last one has a duplicate, the last client has as many definitions as that. -/
def RangeKept (host : SppHostEngine) (call : HostCall) : Prop :=
  ∀ state client place other, call.connects host = some (state, client) →
    search (clientIsAt host client) host.clientCount.toNat 0 = .ok (some place) → place ≠ host.clientCount.toNat - 1 →
      lastDuplicate host client (host.clientCount.toNat - 1) = some other →
        host.propertyCount[other]? = host.propertyCount[host.clientCount.toNat - 1]?

/-- The place of an unknown sender happens to be no client's. -/
def SenderPlaced (host : SppHostEngine) (call : HostCall) : Prop :=
  ∀ received, call.definition host.addressLength = some received →
    sppGetClientIdx host ⟨.external received.sender, 0⟩ = .ok none → host.clientCount.toNat ≤ received.unset

section Lookups
variable {own address : UInt8} {host host' : SppHostEngine} {joined more : List Joined} {client : SppAddress} {i : Nat}
  {entry : Joined}

theorem sppHostGetPropertyCount_joined (consistent : Consistent own host joined) (here : joined[i]? = some entry)
    (points : PointsTo host client entry.address) (bound : i < sppConnectionsMax) :
    sppHostGetPropertyCount host client = .ok host.propertyCount[i] := by
  rw [sppHostGetPropertyCount,
    known_client consistent.one consistent.table consistent.distinct here points, ok_bind]
  exact loadCell_of_lt host.propertyCount bound

theorem Consistent.sameLookups (before : Consistent own host joined) (after : Consistent own host' (joined ++ more))
    (here : joined[i]? = some entry) (points : PointsTo host client entry.address)
    (points' : PointsTo host' client entry.address) (bound : i < sppConnectionsMax)
    (count : host'.propertyCount[i] = host.propertyCount[i])
    (front : host'.defsBuffer.take host.defsBufferUsed.toNat = host.defsBuffer.take host.defsBufferUsed.toNat) :
    SameLookups host host' client := by
  have here' : (joined ++ more)[i]? = some entry := by
    rw [List.getElem?_append_left (List.getElem?_eq_some_iff.mp here).1, here]
  have inside := before.counts i bound
  have searched : host'.defsBuffer.take host.propertyCount[i].toNat =
      host.defsBuffer.take host.propertyCount[i].toNat := by
    have shorter := congrArg (List.take host.propertyCount[i].toNat) front
    rwa [List.take_take, List.take_take, Nat.min_eq_left inside] at shorter
  constructor
  · rw [sppHostGetPropertyCount_joined before here points bound,
      sppHostGetPropertyCount_joined after here' points' bound, count]
  · intro id
    rw [before.lookup here points bound, after.lookup here' points' bound, count, searched]
  · intro id status place found
    rw [before.lookup here points bound] at found
    cases first : (host.defsBuffer.take host.propertyCount[i].toNat).findIdx? (·.id == id) with
    | none => simp [first] at found
    | some index =>
      obtain rfl : index = place := by
        rw [first] at found
        simpa using (congrArg Prod.snd (Except.ok.inj found))
      obtain ⟨within, -, -⟩ := List.findIdx?_eq_some_iff_getElem.mp first
      have short : index < host.propertyCount[i].toNat := by
        rw [List.length_take] at within
        omega
      rw [← List.getElem?_take_of_lt short, searched, List.getElem?_take_of_lt short]

theorem Consistent.known_iff (consistent : Consistent own host joined) (address : UInt8) :
    Known host address ↔ ∃ (i : Nat) (entry : Joined), joined[i]? = some entry ∧ entry.address = address := by
  have count := consistent.table.count
  have room := consistent.table.room
  constructor
  · rintro ⟨i, bound, counted, rest, reads⟩
    have member : i < joined.length := count ▸ counted
    obtain ⟨others, known⟩ := consistent.table.read bound member
    rw [known] at reads
    cases reads
    exact ⟨i, joined[i], List.getElem?_eq_getElem member, rfl⟩
  · rintro ⟨i, entry, here, rfl⟩
    obtain ⟨member, rfl⟩ := List.getElem?_eq_some_iff.mp here
    have bound : i < sppConnectionsMax := Nat.lt_of_lt_of_le member room
    exact ⟨i, bound, count ▸ member, consistent.table.read bound member⟩

theorem Consistent.undisturbed_iff (before : Consistent own host joined)
    (after : Consistent own host' (joined ++ more))
    (front : host'.defsBuffer.take host.defsBufferUsed.toNat = host.defsBuffer.take host.defsBufferUsed.toNat)
    (address : UInt8) :
    Undisturbed host host' address ↔
      ∀ (i : Nat) (entry : Joined), joined[i]? = some entry → entry.address ≠ address →
        host'.propertyCount[i]? = host.propertyCount[i]? := by
  have bound {i : Nat} {entry : Joined} (here : joined[i]? = some entry) : i < sppConnectionsMax :=
    Nat.lt_of_lt_of_le (List.getElem?_eq_some_iff.mp here).1 before.table.room
  constructor
  · intro undisturbed i entry here apart
    have here' : (joined ++ more)[i]? = some entry := by
      rw [List.getElem?_append_left (List.getElem?_eq_some_iff.mp here).1, here]
    have points := pointsTo_external host entry.address [] 0
    have points' := pointsTo_external host' entry.address [] 0
    have known := (before.known_iff entry.address).mpr ⟨i, entry, here, rfl⟩
    have same := (undisturbed entry.address _ apart known points points').count
    rw [sppHostGetPropertyCount_joined before here points (bound here),
      sppHostGetPropertyCount_joined after here' points' (bound here), Except.ok.injEq] at same
    rw [Vector.getElem?_eq_getElem (bound here), Vector.getElem?_eq_getElem (bound here), same]
  · intro counts other client apart known points points'
    obtain ⟨i, entry, here, rfl⟩ := (before.known_iff other).mp known
    have same := counts i entry here apart
    rw [Vector.getElem?_eq_getElem (bound here), Vector.getElem?_eq_getElem (bound here), Option.some.injEq] at same
    exact before.sameLookups after here points points' (bound here) same front

end Lookups

/-! ## The three ways to change the directory -/

section Changes
variable {own address : UInt8} {host host' added : SppHostEngine} {joined more : List Joined}
  {client client' : SppAddress} {call : HostCall}

theorem LoopOutcome.counts {status status' : SppStatus}
    (looped : LoopOutcome client 0 host.clientCount.toNat host host' status status') (i : Nat) :
    host'.propertyCount[i]? =
      if i = host.clientCount.toNat - 1 then
        host.propertyCount[(lastDuplicate host client (host.clientCount.toNat - 1)).getD i]?
      else host.propertyCount[i]? := by
  cases looped with
  | alone none same kept =>
    have alone : lastDuplicate host client (host.clientCount.toNat - 1) = Option.none := by
      refine searchBack_eq_none.mpr fun place below => ?_
      simp [none place (Nat.zero_le _) (by omega)]
    rw [same, alone, Option.getD_none, ite_self]
  | duplicate place low high lastBound bound found others given marked =>
    have changed : host'.propertyCount[i]? =
        if host.clientCount.toNat - 1 = i then some host.propertyCount[place] else host.propertyCount[i]? := by
      rw [given, withRange, Vector.getElem?_set]
    rw [changed]
    by_cases here : host.clientCount.toNat - 1 = i
    · rw [if_pos here, if_pos here.symm]
      by_cases itself : place = host.clientCount.toNat - 1
      · -- without another duplicate the last client keeps its own
        have alone : lastDuplicate host client (host.clientCount.toNat - 1) = none := by
          refine searchBack_eq_none.mpr fun other below => ?_
          simp [others other (Nat.zero_le _) (by omega) (by omega) (.inr itself)]
        rw [alone, Option.getD_none, ← here, ← itself, Vector.getElem?_eq_getElem bound]
      · have last : lastDuplicate host client (host.clientCount.toNat - 1) = some place := by
          refine searchBack_eq_some (by omega) (by simp [found]) fun later above below => ?_
          simp [others later (Nat.zero_le _) (by omega) (by omega) (.inl above)]
        rw [last, Option.getD_some, Vector.getElem?_eq_getElem bound]
    · rw [if_neg here, if_neg fun same => here same.symm]

/-- A client that was known: its neighbours keep their counts unless the last entry gets another one. -/
theorem Consistent.reconnect_counts (consistent : Consistent own host joined) (points : PointsTo host client address)
    {place : Nat} (found : search (clientIsAt host client) host.clientCount.toNat 0 = .ok (some place))
    (counts : ∀ i : Nat, host'.propertyCount[i]? =
      if i = host.clientCount.toNat - 1 then
        host.propertyCount[(lastDuplicate host client (host.clientCount.toNat - 1)).getD i]?
      else host.propertyCount[i]?) :
    (∀ (i : Nat) (entry : Joined), joined[i]? = some entry → entry.address ≠ address →
        host'.propertyCount[i]? = host.propertyCount[i]?) ↔
      (place ≠ host.clientCount.toNat - 1 →
        ∀ other, lastDuplicate host client (host.clientCount.toNat - 1) = some other →
          host.propertyCount[other]? = host.propertyCount[host.clientCount.toNat - 1]?) := by
  have total := consistent.table.count
  have room := consistent.table.room
  obtain ⟨-, counted, itself, -⟩ := search_eq_some.mp found
  have counted : place < host.clientCount.toNat := by simpa using counted
  obtain ⟨own', here, address'⟩ := consistent.place_address points (by omega) itself
  constructor
  · intro same apart other last
    -- the last client is another one
    have behind : joined[host.clientCount.toNat - 1]? = some joined[host.clientCount.toNat - 1] :=
      List.getElem?_eq_getElem (by omega)
    have different : joined[host.clientCount.toNat - 1].address ≠ address := fun equal =>
      apart (consistent.place_unique here behind (address'.trans equal.symm))
    have kept := same _ _ behind different
    rwa [counts, if_pos rfl, last, Option.getD_some] at kept
  · intro kept i entry member different
    rw [counts]
    by_cases last : i = host.clientCount.toNat - 1
    · have apart : place ≠ host.clientCount.toNat - 1 := by
        intro equal
        rw [equal, ← last, member] at here
        cases here
        exact different address'
      rw [if_pos last]
      cases duplicate : lastDuplicate host client (host.clientCount.toNat - 1) with
      | none => rfl
      | some other =>
        rw [Option.getD_some, last]
        exact kept apart other duplicate
    · rw [if_neg last]

theorem Consistent.connect_undisturbed (consistent : Consistent own host joined) (points : PointsTo host client address)
    {state : SppState} {effects : List HostEffect}
    (done : sppConnectToClient { host with state } client = .ok (host', effects)) :
    Undisturbed host host' address ↔ ∀ place other,
      search (clientIsAt host client) host.clientCount.toNat 0 = .ok (some place) → place ≠ host.clientCount.toNat - 1 →
        lastDuplicate host client (host.clientCount.toNat - 1) = some other →
          host.propertyCount[other]? = host.propertyCount[host.clientCount.toNat - 1]? := by
  obtain ⟨more, after⟩ := (consistent.withState state).connect done
  have buffer : host'.defsBuffer = host.defsBuffer := (sppConnectToClient_frame done).defsBuffer
  rw [consistent.undisturbed_iff after (by rw [buffer])]
  obtain ⟨added, client', header, status, add, -, looped, -⟩ := sppConnectToClient_outcome done
  have counts := looped.counts
  cases (consistent.withState state).added add with
  | known place found same pointer =>
    subst same pointer
    rw [consistent.reconnect_counts points found counts]
    constructor
    · intro kept place' other found' apart
      obtain rfl : place = place' := Option.some.inj (Except.ok.inj (found.symm.trans found'))
      exact kept apart other
    · exact fun kept apart other => kept place other found apart
  | new unknown newAddress _ absent space memory same pointer =>
    have unknown : search (clientIsAt host client) host.clientCount.toNat 0 = .ok none := unknown
    constructor
    · intro _ place other found
      rw [unknown] at found
      cases found
    · intro _ i entry member different
      have member : i < joined.length := (List.getElem?_eq_some_iff.mp member).1
      have total' : added.clientCount.toNat = joined.length + 1 := by
        have table := (consistent.withState state).withClient absent client.propertyListId space memory
        rw [same, table.table.count, List.length_append, List.length_singleton]
      rw [counts, if_neg (by omega), same]
      rfl

theorem Consistent.definition_undisturbed (consistent : Consistent own host joined) {body : List UInt8} {len : UInt16}
    {unset : Nat} (unpacked : sppUnpackPropDef host ⟨.external [address], 0⟩ body len unset = .ok host') :
    Undisturbed host host' address ↔
      (sppGetClientIdx host ⟨.external [address], 0⟩ = .ok none → host.clientCount.toNat ≤ unset) := by
  obtain ⟨room, -, found, bound, copy, remaining, searched, -, -, rfl⟩ := sppUnpackPropDef_outcome unpacked
  have points := pointsTo_external host address [] 0
  have count := consistent.table.count
  generalize placed : found.getD unset = place at bound
  have after : Consistent own (Spp.withDefinition host place bound copy remaining) (joined ++ []) := by
    simpa using consistent.withDefinition room place bound copy remaining
  have counts : ∀ i : Nat, (Spp.withDefinition host place bound copy remaining).propertyCount[i]? =
      if place = i then some (host.propertyCount[place] + 1) else host.propertyCount[i]? := by
    intro i
    rw [Spp.withDefinition, Vector.getElem?_set]
  rw [consistent.undisturbed_iff after (List.take_set_of_le (Nat.le_refl _))]
  simp only [counts]
  cases found with
  | none =>
    obtain rfl : unset = place := placed
    simp only [searched, forall_const]
    constructor
    · intro same
      by_contra inside
      have member : unset < joined.length := by omega
      -- the sender is not in the table, so the client it is counted for is another one
      have different : joined[unset].address ≠ address := by
        intro equal
        have alone := search_eq_none.mp searched unset (Nat.zero_le _) (by omega)
        rw [(isClientAt_eq consistent.one consistent.table points bound).1, List.getElem?_eq_getElem member] at alone
        simp [equal] at alone
      have kept := same unset _ (List.getElem?_eq_getElem member) different
      rw [if_pos rfl, Vector.getElem?_eq_getElem bound, Option.some.injEq] at kept
      exact next_ne _ kept
    · intro outside i entry member different
      have within := (List.getElem?_eq_some_iff.mp member).1
      rw [if_neg (by omega)]
  | some index =>
    obtain rfl : index = place := placed
    simp only [searched, reduceCtorEq, Except.ok.injEq, false_implies, iff_true]
    intro i entry member different
    obtain ⟨-, -, itself, -⟩ := search_eq_some.mp searched
    rw [(isClientAt_eq consistent.one consistent.table points bound).1] at itself
    rw [if_neg]
    rintro rfl
    simp [member, different] at itself

end Changes

/-- In every state the host can reach, a call with the address of one client leaves the lookups of the others
alone exactly when no range of another length is given to a neighbour, and no unknown sender is counted
for one. -/
theorem neighbours_undisturbed_iff {setup : HostSetup} {initParams : SppHostEngineInitParams}
    (params : HostParams setup initParams) (size : initParams.defsBuffer.length = initParams.defsBufferSize.toNat)
    {prior host host' : SppHostEngine} {calls : List HostCall} {events : List HostEvent}
    (reached : run hostCall (sppHostEngineInit initParams prior) calls = .ok (host, events)) {address : UInt8}
    {call : HostCall} {event : HostEvent} (carries : call.CarriesAddress host address)
    (done : hostCall host call = .ok (host', event)) :
    Undisturbed host host' address ↔ RangeKept host call ∧ SenderPlaced host call := by
  obtain ⟨joined, consistent⟩ := consistent_run params size reached
  -- a call changes nothing, connects a client, or stores a definition
  cases directory_outcome done with
  | kept silent same notDefinition =>
    have after : Consistent setup.address host' (joined ++ []) := by simpa using consistent.congr same
    have buffer : host'.defsBuffer = host.defsBuffer := congrArg Directory.defsBuffer same
    have counts : host'.propertyCount = host.propertyCount := congrArg Directory.propertyCount same
    simp only [consistent.undisturbed_iff after (by rw [buffer]), counts, implies_true, RangeKept, SenderPlaced, silent,
      notDefinition, reduceCtorEq, false_implies, and_self]
  | connected state client effects connects notDefinition done =>
    -- the client is the one with the address, called directly or by a connect request
    have points : PointsTo host client address := by
      cases call with
      | connectToClient other =>
        cases connects
        exact carries
      | processMessage message len unset =>
        obtain ⟨msgId, header⟩ := carries
        simp only [HostCall.connects, header] at connects
        split at connects
        · split at connects
          · cases connects
            exact pointsTo_external host address [] _
          · cases connects
        · cases connects
      | _ => cases connects
    rw [consistent.connect_undisturbed points done]
    simp only [RangeKept, SenderPlaced, connects, notDefinition, Option.some.injEq, Prod.mk.injEq, reduceCtorEq,
      false_implies, implies_true, and_true]
    constructor
    · rintro kept _ _ place other ⟨rfl, rfl⟩
      exact kept place other
    · exact fun kept place other => kept state client place other ⟨rfl, rfl⟩
  | defined received definition silent unpacked =>
    obtain ⟨message, len, rfl, read, -, -⟩ := definition_eq_some definition
    obtain ⟨msgId, header⟩ := carries
    have sender : received.sender = [address] := by
      rw [header_read read] at header
      exact congrArg Prod.snd (Option.some.inj header)
    rw [sender] at unpacked
    rw [consistent.definition_undisturbed unpacked]
    simp only [RangeKept, SenderPlaced, silent, definition, Option.some.injEq, reduceCtorEq, false_implies,
      implies_true, true_and]
    constructor
    · rintro placed _ rfl
      exact sender ▸ placed
    · exact fun placed => sender ▸ placed received rfl

/-- Clients 0x44 and 0x45 have one property list, of which one definition has come in, and client 0x46 has
another. -/
def threeClients : List HostCall :=
  [.connectToClient ⟨.external [0x44], 1⟩,
    .processMessage [0xCD, 0xA5, 0x44, 0x1D, 1, 0, 0x0E, 0x00, 2, 0, 0x70, 0x00] 12 0,
    .connectToClient ⟨.external [0x45], 1⟩, .connectToClient ⟨.external [0x46], 2⟩]

theorem threeClients_reconnect : ∃ host host' events event,
    run hostCall (sppHostEngineInit setupParams staticHost) threeClients = .ok (host, events) ∧
      hostCall host (.connectToClient ⟨.external [0x44], 1⟩) = .ok (host', event) :=
  ⟨_, _, _, _, rfl, rfl⟩

theorem neighbours_undisturbed_three : ∃ host host' events event,
    run hostCall (sppHostEngineInit setupParams staticHost) threeClients = .ok (host, events) ∧
      hostCall host (.connectToClient ⟨.external [0x44], 1⟩) = .ok (host', event) ∧
      (Undisturbed host host' 0x44 ↔ RangeKept host (.connectToClient ⟨.external [0x44], 1⟩) ∧
        SenderPlaced host (.connectToClient ⟨.external [0x44], 1⟩)) :=
  have ⟨host, host', events, event, reached, done⟩ := threeClients_reconnect
  ⟨host, host', events, event, reached, done,
    neighbours_undisturbed_iff hostParams_setup rfl reached (pointsTo_external host 0x44 [] 1) done⟩

/-- Client 0x44 connects again, and client 0x46 gets the definition of the other two. -/
theorem reconnect_gives_neighbour_range : ∃ host host' events event,
    run hostCall (sppHostEngineInit setupParams staticHost) threeClients = .ok (host, events) ∧
      hostCall host (.connectToClient ⟨.external [0x44], 1⟩) = .ok (host', event) ∧
      sppHostGetPropertyCount host ⟨.external [0x46], 2⟩ = .ok 0 ∧
      sppHostGetPropertyCount host' ⟨.external [0x46], 2⟩ = .ok 1 ∧
      (HostCall.connectToClient ⟨.external [0x44], 1⟩).CarriesAddress host 0x44 ∧
      ¬Undisturbed host host' 0x44 := by
  refine ⟨_, _, _, _, rfl, rfl, rfl, rfl, pointsTo_external _ 0x44 [] 1, ?_⟩
  intro undisturbed
  have same := (undisturbed 0x46 ⟨.external [0x46], 2⟩ (by decide) ⟨2, by decide, by decide, _, rfl⟩
    (pointsTo_external _ 0x46 [] 2) (pointsTo_external _ 0x46 [] 2)).count
  exact absurd same (by decide)

end TvcHopper.Spp
