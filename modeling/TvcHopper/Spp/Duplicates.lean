import TvcHopper.Spp.Attempt
import TvcHopper.Spp.Refusals

/-! A client with a property list that another client has, for addresses of one byte.

The host looks for the list when the new client is already in the table. The
client is given the range of definitions of the last of the others that has it.
-/

set_option autoImplicit false

namespace TvcHopper.Spp
open Machine

/-- One of the clients in the table has this property list. -/
def Listed (host : SppHostEngine) (propertyListId : UInt16) (place : Nat) : Prop :=
  place < host.clientCount.toNat ∧ ∃ bound : place < sppConnectionsMax,
    host.clients[place].propertyListId = propertyListId

structure Appended (host host' : SppHostEngine) (address : UInt8) (propertyListId : UInt16) : Prop where
  count : host'.clientCount.toNat = host.clientCount.toNat + 1
  earlier : ∀ (place : Nat) (bound : place < sppConnectionsMax), place < host.clientCount.toNat →
    host'.clients[place] = host.clients[place] ∧ host'.addressBuffer[place]? = host.addressBuffer[place]?
  new : ∃ bound : host.clientCount.toNat < sppConnectionsMax,
    host'.clients[host.clientCount.toNat].propertyListId = propertyListId ∧
      PointsTo host' host'.clients[host.clientCount.toNat] address

/-- The definitions of the client at this place are those of the client with this address. -/
def SharesDefinitions (host host' : SppHostEngine) (address : UInt8) (place : Nat) : Prop :=
  ∀ client other, PointsTo host' client address → EntryOf host other place → EntryOf host' other place → ∀ id,
    sppHostGetDefinition host' client id = sppHostGetDefinition host' other id ∧
      sppHostGetDefinition host' other id = sppHostGetDefinition host other id

/-- How a host that is ready takes a new client in. -/
inductive TakenIn (host host' : SppHostEngine) (address : UInt8) (propertyListId : UInt16) : SppStatus → Prop where
  | duplicate (place : Nat) (listed : Listed host propertyListId place) (ready : host'.state = .ready)
      (defsBuffer : host'.defsBuffer = host.defsBuffer) (used : host'.defsBufferUsed = host.defsBufferUsed)
      (shares : SharesDefinitions host host' address place) :
      TakenIn host host' address propertyListId sppStatusDuplicateClient
  | first (unlisted : ∀ place, ¬Listed host propertyListId place) (connecting : host'.state = .connecting) :
      TakenIn host host' address propertyListId sppStatusOk

section Joining
variable {own address : UInt8} {host : SppHostEngine} {joined : List Joined} {propertyListId : UInt16}

theorem Consistent.listed_iff (consistent : Consistent own host joined) {place : Nat} :
    Listed host propertyListId place ↔ joined[place]?.map (·.propertyListId) = some propertyListId := by
  have count := consistent.table.count
  have room := consistent.table.room
  constructor
  · rintro ⟨counted, bound, list⟩
    have member : place < joined.length := count ▸ counted
    rw [consistent.table.known place bound member] at list
    rw [List.getElem?_eq_getElem member, Option.map_some, ← list]
  · intro here
    obtain ⟨entry, found, list⟩ := Option.map_eq_some_iff.mp here
    obtain ⟨member, rfl⟩ := List.getElem?_eq_some_iff.mp found
    have bound : place < sppConnectionsMax := Nat.lt_of_lt_of_le member room
    exact ⟨count ▸ member, bound, by rw [consistent.table.known place bound member, list]⟩

theorem Consistent.appended (consistent : Consistent own host joined) (absent : address ∉ joined.map (·.address))
    (propertyListId : UInt16) (space : joined.length < sppConnectionsMax)
    (memory : joined.length < host.addressBuffer.length) :
    Appended host (Spp.withClient host address propertyListId joined.length space) address propertyListId := by
  have count := consistent.table.count
  have table' := (consistent.withClient absent propertyListId space memory).table
  constructor
  · rw [table'.count, count, List.length_append, List.length_singleton]
  · intro place bound below
    have apart : joined.length ≠ place := by omega
    constructor
    · rw [Spp.withClient, Vector.getElem_set_ne _ _ apart]
    · rw [Spp.withClient, List.getElem?_set_ne apart]
  · have last : joined.length < (joined ++ [(⟨address, propertyListId, []⟩ : Joined)]).length := by simp
    have known := table'.known joined.length space last
    have points := table'.points last propertyListId
    simp only [List.getElem_concat_length] at known points
    generalize Spp.withClient host address propertyListId joined.length space = host' at known points ⊢
    simp only [count]
    exact ⟨space, by rw [known], by rw [known]; exact points⟩

/-- A range that both clients have from the front of the buffer gives both the same definitions. -/
theorem Consistent.sameDefinition {client other : SppAddress} {place last : Nat} {first second : Joined}
    (consistent : Consistent own host joined) (here : joined[last]? = some first)
    (there : joined[place]? = some second) (points : PointsTo host client first.address)
    (points' : PointsTo host other second.address) (lastBound : last < sppConnectionsMax)
    (bound : place < sppConnectionsMax) (counts : host.propertyCount[last] = host.propertyCount[place])
    (id : UInt16) : sppHostGetDefinition host client id = sppHostGetDefinition host other id := by
  rw [consistent.lookup here points lastBound, consistent.lookup there points' bound, counts]

theorem Consistent.keptDefinition {host' : SppHostEngine} {joined' : List Joined} {other : SppAddress} {place : Nat}
    {entry entry' : Joined} (consistent : Consistent own host joined) (consistent' : Consistent own host' joined')
    (here : joined[place]? = some entry) (here' : joined'[place]? = some entry')
    (points : PointsTo host other entry.address) (points' : PointsTo host' other entry'.address)
    (bound : place < sppConnectionsMax) (counts : host'.propertyCount[place] = host.propertyCount[place])
    (buffer : host'.defsBuffer = host.defsBuffer) (id : UInt16) :
    sppHostGetDefinition host' other id = sppHostGetDefinition host other id := by
  rw [consistent.lookup here points bound, consistent'.lookup here' points' bound, counts, buffer]

theorem Consistent.searched {added host' : SppHostEngine} {status : SppStatus} {client : SppAddress}
    (consistent : Consistent own added (joined ++ [⟨address, propertyListId, []⟩]))
    (absent : address ∉ joined.map (·.address)) (points : PointsTo added client address)
    (list : client.propertyListId = propertyListId)
    (outcome : LoopOutcome client 0 added.clientCount.toNat added host' sppStatusOk status) :
    (status = sppStatusOk ∧ host' = added ∧ ∀ entry ∈ joined, entry.propertyListId ≠ propertyListId) ∨
      status = sppStatusDuplicateClient ∧ ∃ place entry last bound, joined[place]? = some entry ∧
        entry.propertyListId = propertyListId ∧ host' = Spp.withRange added joined.length place last bound := by
  have count := consistent.table.count
  rw [List.length_append, List.length_singleton] at count
  rw [count] at outcome
  have duplicate {place : Nat} (member : place < joined.length) :
      isDuplicateAt added client place = .ok (decide (joined[place].propertyListId = propertyListId)) := by
    have inside : place < (joined ++ [(⟨address, propertyListId, []⟩ : Joined)]).length := by
      rw [List.length_append]
      exact Nat.lt_add_right _ member
    have apart : joined[place].address ≠ address := fun same =>
      absent (List.mem_map.mpr ⟨joined[place], List.getElem_mem member, same⟩)
    rw [consistent.isDuplicateAt_eq points inside, List.getElem_append_left member, list]
    simp [apart]
  cases outcome with
  | alone none same kept =>
    refine .inl ⟨kept, same, ?_⟩
    intro entry known same
    obtain ⟨place, member, rfl⟩ := List.getElem_of_mem known
    have here := none place (Nat.zero_le _) (Nat.lt_succ_of_lt member)
    rw [duplicate member] at here
    simp [same] at here
  | duplicate place low high lastBound bound found others given marked =>
    refine .inr ⟨marked, ?_⟩
    -- the client itself is no duplicate
    have member : place < joined.length := by
      rcases Nat.lt_succ_iff_lt_or_eq.mp high with before | rfl
      · exact before
      · rw [consistent.isDuplicateAt_eq points (by simp)] at found
        simp at found
    rw [duplicate member] at found
    simp only [count, Nat.add_sub_cancel] at lastBound given
    exact ⟨place, joined[place], lastBound, bound, List.getElem?_eq_getElem member, by simpa using found, given⟩

/-- The host with a new client that it has not answered yet. -/
structure Joining (host added : SppHostEngine) (address : UInt8) (propertyListId : UInt16) : Prop where
  appended : Appended host added address propertyListId
  connecting : added.state = .connecting
  counts : added.propertyCount = host.propertyCount
  defsBuffer : added.defsBuffer = host.defsBuffer
  used : added.defsBufferUsed = host.defsBufferUsed

theorem Consistent.joining (consistent : Consistent own host joined) (absent : address ∉ joined.map (·.address))
    (propertyListId : UInt16) (space : joined.length < sppConnectionsMax)
    (memory : joined.length < host.addressBuffer.length) :
    ∃ added, sppAddClient { host with state := .connecting } ⟨.external [address], propertyListId⟩ =
        .ok (added, ⟨.permanent joined.length, propertyListId⟩) ∧
      Consistent own added (joined ++ [⟨address, propertyListId, []⟩]) ∧ Joining host added address propertyListId := by
  have asking := consistent.withState .connecting
  have appended := asking.appended absent propertyListId space memory
  exact ⟨_, sppAddClient_new asking.one asking.table absent (pointsTo_external _ address [] propertyListId) space
    memory, asking.withClient absent propertyListId space memory,
    ⟨appended.count, appended.earlier, appended.new⟩, rfl, rfl, rfl, rfl⟩

theorem Consistent.shares {added : SppHostEngine} {place : Nat} {entry : Joined}
    (consistent : Consistent own host joined)
    (consistent' : Consistent own added (joined ++ [⟨address, propertyListId, []⟩]))
    (joining : Joining host added address propertyListId) (here : joined[place]? = some entry)
    (last : joined.length < sppConnectionsMax) (bound : place < sppConnectionsMax) :
    SharesDefinitions host (Spp.withRange added joined.length place last bound) address place := by
  have member := (List.getElem?_eq_some_iff.mp here).1
  have apart : joined.length ≠ place := by omega
  have final := consistent'.withRange joined.length place last bound
  have there : (joined ++ [(⟨address, propertyListId, []⟩ : Joined)])[place]? = some entry := by
    rw [List.getElem?_append_left member, here]
  intro client other points before behind id
  obtain ⟨entry', found, points'⟩ := consistent.entryOf_iff.mp before
  cases here.symm.trans found
  obtain ⟨entry'', found', points''⟩ := final.entryOf_iff.mp behind
  cases there.symm.trans found'
  constructor
  · exact final.sameDefinition List.getElem?_concat_length there points points'' last bound
      (by simp [Spp.withRange, Vector.getElem_set_ne _ _ apart]) id
  · refine consistent.keptDefinition final here there points' points'' bound ?_ joining.defsBuffer id
    simp [Spp.withRange, Vector.getElem_set_ne _ _ apart, joining.counts]

theorem Consistent.connected (consistent : Consistent own host joined) (absent : address ∉ joined.map (·.address))
    (propertyListId : UInt16) (space : joined.length < sppConnectionsMax)
    (memory : joined.length < host.addressBuffer.length) :
    ∃ host' status,
      sppConnectToClient { host with state := .connecting } ⟨.external [address], propertyListId⟩ =
        .ok (host', [.sendMessage (Message.connectResponse own address status)]) ∧
      Appended host host' address propertyListId ∧ TakenIn host host' address propertyListId status := by
  obtain ⟨added, add, consistent', joining⟩ := consistent.joining absent propertyListId space memory
  have points : PointsTo added ⟨.permanent joined.length, propertyListId⟩ address := by
    simpa using consistent'.table.points (i := joined.length) (by simp) propertyListId
  have count : added.clientCount.toNat = joined.length + 1 := by simpa using consistent'.table.count
  have header := fillMessageHeader_one consistent'.one points sppMsgConnectResponseId
  obtain ⟨host', status, looped⟩ : ∃ host' status, sppConnectLoop ⟨.permanent joined.length, propertyListId⟩
      added.clientCount.toNat 0 added sppStatusOk = .ok (host', status) :=
    sppConnectLoop_total (by omega) (by omega) sppStatusOk
  refine ⟨host', status, ?_, ?_⟩
  · rw [sppConnectToClient, add, ok_bind]
    simp only [header, ok_bind, looped, pure_eq_ok]
    rfl
  have outcome := sppConnectLoop_outcome (Nat.zero_add _).le looped
  rw [Nat.zero_add] at outcome
  rcases consistent'.searched absent points rfl outcome with
    ⟨rfl, rfl, others⟩ | ⟨rfl, place, entry, last, bound, here, list, rfl⟩
  · refine ⟨joining.appended, .first ?_ joining.connecting⟩
    intro place listed
    obtain ⟨entry, here, list⟩ := Option.map_eq_some_iff.mp (consistent.listed_iff.mp listed)
    exact others entry (List.mem_of_getElem? here) list
  · have listed : Listed host propertyListId place := consistent.listed_iff.mpr (by rw [here, Option.map_some, list])
    exact ⟨⟨joining.appended.count, joining.appended.earlier, joining.appended.new⟩, .duplicate place listed rfl
      joining.defsBuffer joining.used (consistent.shares consistent' joining here last bound)⟩

end Joining

/-- A host that is ready, in any state it can reach, answers the request of a new client once: with DUPLICATE when
a client in the table has the property list, whose definitions the new one then has too, and with OK otherwise. -/
theorem duplicate_shares_definitions {setup : HostSetup} {initParams : SppHostEngineInitParams}
    (params : HostParams setup initParams) (size : initParams.defsBuffer.length = initParams.defsBufferSize.toNat)
    (memory : sppConnectionsMax ≤ initParams.addressBuffer.length) {prior host : SppHostEngine} {calls : List HostCall}
    {events : List HostEvent}
    (reached : run hostCall (sppHostEngineInit initParams prior) calls = .ok (host, events))
    (ready : host.state = .ready) (space : host.clientCount.toNat < sppConnectionsMax) {address : UInt8}
    (new : ¬InTable host ⟨.external [address], 0⟩) (broadcast : UInt8) (propertyListId : UInt16)
    (trailing : List UInt8) {len : UInt16} (long : 4 ≤ len.toNat) (unset : Nat) :
    ∃ host' status, sppHostProcessMessage host
          (Message.connectRequest address broadcast propertyListId ++ trailing) len unset =
        .ok (host', [.sendMessage (Message.connectResponse setup.address address status)], sppStatusOk) ∧
      Appended host host' address propertyListId ∧ TakenIn host host' address propertyListId status := by
  obtain ⟨joined, consistent⟩ := consistent_run params size reached
  have room : host.addressBuffer.length = initParams.addressBuffer.length := by
    refine run_invariant (fun host => host.addressBuffer.length = initParams.addressBuffer.length) ?_ rfl reached
    intro state call next event same done
    exact (addressBuffer_length done).trans same
  have count := consistent.table.count
  have absent : address ∉ joined.map (·.address) := by
    intro member
    obtain ⟨entry, known, rfl⟩ := List.mem_map.mp member
    obtain ⟨place, here⟩ := List.mem_iff_getElem?.mp known
    exact new ⟨place, consistent.entryOf_iff.mpr ⟨entry, here, pointsTo_external host entry.address [] 0⟩⟩
  obtain ⟨host', status, connected, appended, answer⟩ :=
    consistent.connected absent propertyListId (by omega) (by omega)
  exact ⟨host', status, processConnectRequest consistent.one ready broadcast trailing long unset connected, appended,
    answer⟩

/-- A host with one client, whose one definition has been received, is asked by another one with its list. -/
theorem duplicate_shares_definitions_second :
    ∃ host events, run hostCall (sppHostEngineInit setupParams staticHost)
        [.processMessage (Message.connectRequest 0x01 0x00 0xDD) 6 0,
          .processMessage [0xCD, 0xA5, 0x01, 0x1D, 0x02, 0x00, 0xAB, 0x00, 0xE0, 0x01, 0x50, 0x00] 12 0] =
        .ok (host, events) ∧
      ∃ host' status, sppHostProcessMessage host (Message.connectRequest 0x02 0x00 0xDD ++ []) 6 0 =
          .ok (host', [.sendMessage (Message.connectResponse 0x1D 0x02 status)], sppStatusOk) ∧
        Appended host host' 0x02 0xDD ∧ TakenIn host host' 0x02 0xDD status := by
  obtain ⟨host, events, done, checked⟩ := run_checked hostCall (sppHostEngineInit setupParams staticHost)
    [.processMessage (Message.connectRequest 0x01 0x00 0xDD) 6 0,
      .processMessage [0xCD, 0xA5, 0x01, 0x1D, 0x02, 0x00, 0xAB, 0x00, 0xE0, 0x01, 0x50, 0x00] 12 0]
    (fun host _ => decide (host.state = .ready ∧ host.clientCount = 1 ∧ host.clients[0] = ⟨.permanent 0, 0xDD⟩ ∧
      host.addressBuffer.head? = some 0x01)) rfl
  obtain ⟨ready, count, entry, first⟩ := of_decide_eq_true checked
  have one : host.clientCount.toNat = 1 := congrArg UInt8.toNat count
  have new : ¬InTable host ⟨.external [0x02], 0⟩ := by
    rintro ⟨place, counted, bound, address, ⟨rest, known⟩, other, points⟩
    obtain rfl : place = 0 := by omega
    cases points
    rw [entry, AddressPtr.read, List.drop_zero, Option.some.injEq] at known
    rw [known] at first
    exact absurd (Option.some.inj first) (by decide)
  exact ⟨host, events, done, duplicate_shares_definitions hostParams_setup rfl (by decide) done ready
    (one ▸ by decide) new 0x00 0xDD [] (by decide) 0⟩

end TvcHopper.Spp
