import Mathlib.Data.List.Forall2
import TvcHopper.Spp.Directory
import TvcHopper.Spp.Messages

/-! What the host engine does with each message, for addresses of one byte and
an application that compares them.

The abstract state is the list of clients that joined, in order, each with the
property definitions received from it so far.
-/

set_option autoImplicit false

namespace TvcHopper.Spp
open Machine Machine.Slots

/-- The comparison of one-byte addresses, of which a null pointer is none. -/
structure ComparesAddresses (callbacks : SppHostCallbacks) : Prop where
  bytes : ∀ (a b : UInt8) (afterA afterB : List UInt8),
    callbacks.areAddressesEqual (some (a :: afterA)) (some (b :: afterB)) = (a == b)
  nullLeft : ∀ memory, callbacks.areAddressesEqual none memory = false
  nullRight : ∀ memory, callbacks.areAddressesEqual memory none = false

theorem comparesAddresses_firstByte : ComparesAddresses firstByteCallbacks where
  bytes _ _ _ _ := rfl
  nullLeft memory := by cases memory <;> rfl
  nullRight memory := by rcases memory with - | - | - <;> rfl

structure OneByteHost (host : SppHostEngine) (address : UInt8) : Prop where
  addressLength : host.addressLength = 1
  callbacks : ComparesAddresses host.callbacks
  hostAddress : ∃ rest, host.hostAddress.address = .external (address :: rest)

/-- A client the host knows, with the definitions received from it. -/
structure Joined where
  address : UInt8
  propertyListId : UInt16
  properties : List SppPropertyDefinition

/-- The client table holds exactly these clients, their addresses are in the address buffer. -/
structure ClientTable (host : SppHostEngine) (joined : List Joined) : Prop where
  count : host.clientCount.toNat = joined.length
  room : joined.length ≤ sppConnectionsMax
  known : ∀ (i : Nat) (bound : i < sppConnectionsMax) (member : i < joined.length),
    host.clients[i] = ⟨.permanent i, joined[i].propertyListId⟩
  addresses : ∀ (i : Nat) (member : i < joined.length), host.addressBuffer[i]? = some joined[i].address
  unknown : ∀ (i : Nat) (bound : i < sppConnectionsMax), joined.length ≤ i → host.clients[i].address = .null

def PointsTo (host : SppHostEngine) (client : SppAddress) (address : UInt8) : Prop :=
  ∃ rest, client.address.read host.addressBuffer = some (address :: rest)

theorem pointsTo_external (host : SppHostEngine) (address : UInt8) (rest : List UInt8) (propertyListId : UInt16) :
    PointsTo host ⟨.external (address :: rest), propertyListId⟩ address := ⟨rest, rfl⟩

/-! ## Finding clients -/

section Clients
variable {host : SppHostEngine} {address own : UInt8} {joined : List Joined} {client : SppAddress}

theorem ClientTable.points (table : ClientTable host joined) {i : Nat} (member : i < joined.length)
    (propertyListId : UInt16) : PointsTo host ⟨.permanent i, propertyListId⟩ joined[i].address := by
  have place := table.addresses i member
  obtain ⟨within, same⟩ := List.getElem?_eq_some_iff.mp place
  refine ⟨host.addressBuffer.drop (i + 1), ?_⟩
  rw [AddressPtr.read, List.drop_eq_getElem_cons within, same]

theorem ClientTable.read (table : ClientTable host joined) {i : Nat} (bound : i < sppConnectionsMax)
    (member : i < joined.length) :
    ∃ rest, host.clients[i].address.read host.addressBuffer = some (joined[i].address :: rest) := by
  rw [table.known i bound member]
  exact table.points member joined[i].propertyListId

theorem isClientAt_eq (one : OneByteHost host own) (table : ClientTable host joined)
    (points : PointsTo host client address) {i : Nat} (bound : i < sppConnectionsMax) :
    isClientAt host client i = .ok (joined[i]?.any (·.address == address)) ∧
      clientIsAt host client i = .ok (joined[i]?.any (·.address == address)) := by
  obtain ⟨rest, reads⟩ := points
  simp only [isClientAt, clientIsAt, loadCell_of_lt host.clients bound, ok_bind, pure_eq_ok, reads]
  by_cases member : i < joined.length
  · obtain ⟨others, known⟩ := table.read bound member
    rw [known, List.getElem?_eq_getElem member, Option.any_some, one.callbacks.bytes, one.callbacks.bytes]
    exact ⟨rfl, congrArg Except.ok Bool.beq_comm⟩
  · have absent : joined[i]? = none := List.getElem?_eq_none (by omega)
    rw [table.unknown i bound (by omega), absent, AddressPtr.read, one.callbacks.nullLeft,
      one.callbacks.nullRight]
    exact ⟨rfl, rfl⟩

theorem search_joined {test : Nat → Except Fault Bool} {remaining i : Nat} {entry : Joined}
    (distinct : (joined.map (·.address)).Nodup) (here : joined[i]? = some entry) (inside : joined.length ≤ remaining)
    (tests : ∀ place, place < remaining → test place = .ok (joined[place]?.any (·.address == entry.address))) :
    search test remaining 0 = .ok (some i) := by
  obtain ⟨member, same⟩ := List.getElem?_eq_some_iff.mp here
  rw [search_eq_some]
  refine ⟨Nat.zero_le _, by omega, ?_, ?_⟩
  · rw [tests i (by omega), here]
    simp
  · intro earlier _ before
    have known : earlier < joined.length := by omega
    rw [tests earlier (by omega), List.getElem?_eq_getElem known, Option.any_some]
    -- an earlier client with the address would be the client itself
    have differs : joined[earlier].address ≠ entry.address := by
      intro equal
      have index : earlier = i := by
        apply (List.getElem?_inj (by simpa using known) distinct).mp
        simp only [List.getElem?_map, here, List.getElem?_eq_getElem known, Option.map_some, equal]
      omega
    simp [differs]

theorem sppGetClientIdx_joined (one : OneByteHost host own) (table : ClientTable host joined)
    (distinct : (joined.map (·.address)).Nodup) {i : Nat} {entry : Joined} (here : joined[i]? = some entry)
    (points : PointsTo host client entry.address) : sppGetClientIdx host client = .ok (some i) :=
  search_joined distinct here table.room fun _ bound => (isClientAt_eq one table points bound).1

theorem known_client (one : OneByteHost host own) (table : ClientTable host joined)
    (distinct : (joined.map (·.address)).Nodup) {i : Nat} {entry : Joined} (here : joined[i]? = some entry)
    (points : PointsTo host client entry.address) :
    search (clientIsAt host client) host.clientCount.toNat 0 = .ok (some i) := by
  have room := table.room
  rw [table.count]
  exact search_joined distinct here (Nat.le_refl _) fun _ bound => (isClientAt_eq one table points (by omega)).2

theorem fillMessageHeader_one (one : OneByteHost host own) (points : PointsTo host client address)
    (messageId : UInt8) :
    sppFillMessageHeader host client messageId = .ok [sppMsgSyncWord, messageId, own, address] := by
  obtain ⟨rest, sender⟩ := one.hostAddress
  obtain ⟨others, reads⟩ := points
  rw [sppFillMessageHeader, AddressPtr.deref, AddressPtr.deref, reads, sender, AddressPtr.read, ok_bind, ok_bind,
    one.addressLength, messageHeader_one]

theorem sppHostGetDefinition_front (one : OneByteHost host own) (table : ClientTable host joined)
    (distinct : (joined.map (·.address)).Nodup) {i : Nat} {entry : Joined} (here : joined[i]? = some entry)
    (points : PointsTo host client entry.address) (bound : i < sppConnectionsMax)
    (start : host.propertyDefStart[i] = 0) (inside : host.propertyCount[i].toNat ≤ host.defsBuffer.length)
    (id : UInt16) :
    sppHostGetDefinition host client id =
      .ok (match (host.defsBuffer.take host.propertyCount[i].toNat).findIdx? (·.id == id) with
        | some place => (sppStatusOk, some place)
        | none => (sppStatusUnknownProperty, none)) := by
  have reads : ∀ (place : Nat) (value : SppPropertyDefinition), host.defsBuffer[place]? = some value →
      (do return (← load host.defsBuffer ((0 : UInt16).toNat + place)).id = id : Except Fault Bool) =
        .ok (value.id == id) := by
    intro place value found
    rw [UInt16.toNat_zero, Nat.zero_add, load_eq_ok.mpr found, ok_bind]
    rfl
  have searches := search_eq_findIdx (fun pd : SppPropertyDefinition => pd.id == id) 0
    (by omega : 0 + host.propertyCount[i].toNat ≤ host.defsBuffer.length) reads
  rw [List.drop_zero] at searches
  rw [sppHostGetDefinition, sppGetClientIdx_joined one table distinct here points, ok_bind]
  simp only [loadCell_of_lt host.propertyDefStart bound, start, ok_bind, loadCell_of_lt host.propertyCount bound,
    searches]
  cases (host.defsBuffer.take host.propertyCount[i].toNat).findIdx? (·.id == id) with
  | none => rfl
  | some place => simp

theorem unknown_client (one : OneByteHost host own) (table : ClientTable host joined)
    (absent : address ∉ joined.map (·.address)) (points : PointsTo host client address) :
    search (clientIsAt host client) host.clientCount.toNat 0 = .ok none := by
  have room := table.room
  have count := table.count
  rw [search_eq_none]
  intro i _ below
  have member : i < joined.length := by omega
  rw [(isClientAt_eq one table points (by omega)).2, List.getElem?_eq_getElem member, Option.any_some]
  have differs : joined[i].address ≠ address := by
    intro equal
    exact absent (List.mem_map.mpr ⟨joined[i], List.getElem_mem member, equal⟩)
  simp [differs]

def withClient (host : SppHostEngine) (address : UInt8) (propertyListId : UInt16) (place : Nat)
    (bound : place < sppConnectionsMax) : SppHostEngine :=
  { host with
    addressBuffer := host.addressBuffer.set place address
    clients := host.clients.set place ⟨.permanent place, propertyListId⟩
    clientCount := host.clientCount + 1 }

theorem sppAddClient_new (one : OneByteHost host own) (table : ClientTable host joined)
    (absent : address ∉ joined.map (·.address)) (points : PointsTo host client address)
    (space : joined.length < sppConnectionsMax) (memory : joined.length < host.addressBuffer.length) :
    sppAddClient host client =
      .ok (withClient host address client.propertyListId joined.length space,
        ⟨.permanent joined.length, client.propertyListId⟩) := by
  have unknown := unknown_client one table absent points
  obtain ⟨rest, reads⟩ := points
  have address' : client.address.deref host.addressBuffer = .ok (address :: rest) := by
    rw [AddressPtr.deref, reads]
  have byte : loadRange (address :: rest) 0 host.addressLength.toNat = .ok [address] := by
    rw [one.addressLength]
    simp [loadRange]
  have stored : storeRange host.addressBuffer joined.length [address] =
      .ok (host.addressBuffer.set joined.length address) := storeRange_one memory
  rw [sppAddClient, unknown, ok_bind]
  simp only [address', ok_bind, byte, table.count, stored, storeCell_of_lt host.clients _ space, pure_eq_ok]
  rfl

theorem ClientTable.withClient (table : ClientTable host joined) (address : UInt8) (propertyListId : UInt16)
    (space : joined.length < sppConnectionsMax) (memory : joined.length < host.addressBuffer.length) :
    ClientTable (withClient host address propertyListId joined.length space)
      (joined ++ [⟨address, propertyListId, []⟩]) := by
  have small : joined.length < 5 := space
  constructor
  · have one : (1 : UInt8).toNat = 1 := rfl
    rw [List.length_append, List.length_singleton, Spp.withClient, UInt8.toNat_add, table.count]
    omega
  · rw [List.length_append, List.length_singleton]
    omega
  · intro i bound member
    rw [List.length_append, List.length_singleton] at member
    rw [Spp.withClient, Vector.getElem_set]
    by_cases last : joined.length = i
    · subst last
      simp
    · have before : i < joined.length := by omega
      rw [if_neg last, List.getElem_append_left before]
      exact table.known i bound before
  · intro i member
    rw [List.length_append, List.length_singleton] at member
    rw [Spp.withClient, List.getElem?_set]
    by_cases last : joined.length = i
    · subst last
      simp [memory]
    · have before : i < joined.length := by omega
      rw [if_neg last, List.getElem_append_left before]
      exact table.addresses i before
  · intro i bound behind
    rw [List.length_append, List.length_singleton] at behind
    rw [Spp.withClient, Vector.getElem_set_ne _ _ (by omega)]
    exact table.unknown i bound (by omega)

theorem ClientTable.same_clients {address : UInt8} {propertyListId : UInt16} {properties : List SppPropertyDefinition}
    (table : ClientTable host (joined ++ [⟨address, propertyListId, properties⟩]))
    (properties' : List SppPropertyDefinition) :
    ClientTable host (joined ++ [⟨address, propertyListId, properties'⟩]) := by
  constructor
  · simpa using table.count
  · simpa using table.room
  · intro i bound member
    rw [table.known i bound (by simpa using member)]
    simp only [List.getElem_append]
    split
    · rfl
    · simp
  · intro i member
    rw [table.addresses i (by simpa using member)]
    simp only [List.getElem_append]
    split
    · rfl
    · simp
  · intro i bound behind
    exact table.unknown i bound (by simpa using behind)

theorem ClientTable.congr {host' : SppHostEngine} (table : ClientTable host joined)
    (count : host'.clientCount = host.clientCount) (clients : host'.clients = host.clients)
    (addresses : host'.addressBuffer = host.addressBuffer) : ClientTable host' joined := by
  constructor
  · rw [count, table.count]
  · exact table.room
  · rw [clients]
    exact table.known
  · rw [addresses]
    exact table.addresses
  · rw [clients]
    exact table.unknown

theorem sppConnectLoop_same_client {remaining i : Nat} {status : SppStatus}
    (inside : i + remaining ≤ sppConnectionsMax)
    (itself : ∀ (place : Nat) (bound : place < sppConnectionsMax), i ≤ place → place < i + remaining →
      host.clients[place].propertyListId = client.propertyListId → isClientAt host client place = .ok true) :
    sppConnectLoop client remaining i host status = .ok (host, status) := by
  induction remaining generalizing i with
  | zero => rfl
  | succ remaining ih =>
    have bound : i < sppConnectionsMax := by omega
    have rest : sppConnectLoop client remaining (i + 1) host status = .ok (host, status) :=
      ih (by omega) fun place bound low high => itself place bound (by omega) (by omega)
    rw [sppConnectLoop, loadCell_of_lt host.clients bound, ok_bind]
    by_cases same : host.clients[i].propertyListId = client.propertyListId
    · rw [if_pos same, itself i bound (Nat.le_refl _) (by omega) same, ok_bind, if_pos rfl, rest]
    · rw [if_neg same, rest]

theorem sppConnectToClient_new (one : OneByteHost host own) (table : ClientTable host joined)
    (absent : address ∉ joined.map (·.address)) (points : PointsTo host client address)
    (newList : client.propertyListId ∉ joined.map (·.propertyListId))
    (space : joined.length < sppConnectionsMax) (memory : joined.length < host.addressBuffer.length) :
    sppConnectToClient host client =
      .ok (withClient host address client.propertyListId joined.length space,
        [.sendMessage (Message.connectResponse own address sppStatusOk)]) := by
  have table' := table.withClient address client.propertyListId space memory
  have one' : OneByteHost (withClient host address client.propertyListId joined.length space) own :=
    ⟨one.addressLength, one.callbacks, one.hostAddress⟩
  have length' : (joined ++ [(⟨address, client.propertyListId, []⟩ : Joined)]).length = joined.length + 1 := by
    simp
  generalize added : withClient host address client.propertyListId joined.length space = host' at table' one'
  have points' : PointsTo host' ⟨.permanent joined.length, client.propertyListId⟩ address := by
    simpa using table'.points (i := joined.length) (by omega) client.propertyListId
  have header := fillMessageHeader_one one' points' sppMsgConnectResponseId
  have loop : sppConnectLoop ⟨.permanent joined.length, client.propertyListId⟩ host'.clientCount.toNat 0 host'
      sppStatusOk = .ok (host', sppStatusOk) := by
    have small : joined.length < 5 := space
    rw [table'.count, length']
    apply sppConnectLoop_same_client (by omega)
    intro place bound _ below same
    have member : place < (joined ++ [(⟨address, client.propertyListId, []⟩ : Joined)]).length := by omega
    rw [table'.known place bound member] at same
    rw [(isClientAt_eq one' table' points' bound).1]
    -- the lists of the others have other ids
    by_cases other : place < joined.length
    · rw [List.getElem_append_left other] at same
      exact absurd (List.mem_map.mpr ⟨joined[place], List.getElem_mem other, same⟩) newList
    · obtain rfl : place = joined.length := by omega
      simp
  rw [sppConnectToClient, sppAddClient_new one table absent points space memory, added, ok_bind]
  simp only [header, ok_bind, loop, pure_eq_ok]
  rfl

end Clients

/-! ## What the host holds -/

/-- What the host keeps of a definition. Behind the end of a name it may hold anything. -/
structure SameDefinition (copy pd : SppPropertyDefinition) : Prop where
  id : copy.id = pd.id
  type : copy.type = pd.type
  size : copy.size = pd.size
  flags : copy.flags = pd.flags
  nameLength : copy.nameLength.toNat = nameLength pd.name + 1
  name : copy.name.toList.take copy.nameLength.toNat = sentName pd.name

def received (joined : List Joined) : List SppPropertyDefinition := joined.flatMap (·.properties)

structure HostSetup where
  address : UInt8
  definitions : Nat
  clients : Nat

/-- The host knows these clients and holds the definitions received from them, in one row. -/
structure HostHolds (setup : HostSetup) (host : SppHostEngine) (joined : List Joined) : Prop where
  one : OneByteHost host setup.address
  definitionLimit : setup.definitions ≤ host.defsBufferSize.toNat
  definitionRoom : setup.definitions ≤ host.defsBuffer.length
  addressRoom : setup.clients ≤ host.addressBuffer.length
  table : ClientTable host joined
  distinct : (joined.map (·.address)).Nodup
  starts : ∀ (i : Nat) (bound : i < sppConnectionsMax), host.propertyDefStart[i] = 0
  counts : ∀ (i : Nat) (bound : i < sppConnectionsMax),
    host.propertyCount[i].toNat = (joined[i]?.map (·.properties.length)).getD 0
  used : host.defsBufferUsed.toNat = (received joined).length
  definitions : List.Forall₂ SameDefinition (host.defsBuffer.take host.defsBufferUsed.toNat) (received joined)

theorem received_snoc (joined : List Joined) (address : UInt8) (propertyListId : UInt16)
    (properties : List SppPropertyDefinition) :
    received (joined ++ [⟨address, propertyListId, properties⟩]) = received joined ++ properties := by
  simp [received]

section Holds
variable {setup : HostSetup} {host : SppHostEngine} {joined : List Joined} {address : UInt8}
  {propertyListId : UInt16} {properties : List SppPropertyDefinition} {pd copy : SppPropertyDefinition}

theorem HostHolds.withClient (holds : HostHolds setup host joined) (absent : address ∉ joined.map (·.address))
    (propertyListId : UInt16) (space : joined.length < sppConnectionsMax)
    (memory : joined.length < host.addressBuffer.length) :
    HostHolds setup (withClient host address propertyListId joined.length space)
      (joined ++ [⟨address, propertyListId, []⟩]) where
  one := ⟨holds.one.addressLength, holds.one.callbacks, holds.one.hostAddress⟩
  definitionLimit := holds.definitionLimit
  definitionRoom := holds.definitionRoom
  addressRoom := by simpa [Spp.withClient] using holds.addressRoom
  table := holds.table.withClient address propertyListId space memory
  distinct := by
    rw [List.map_append, List.nodup_append]
    exact ⟨holds.distinct, List.nodup_singleton _, by simpa using fun a member same => absent (by simp_all)⟩
  starts := holds.starts
  counts := by
    intro i bound
    have before := holds.counts i bound
    rw [Spp.withClient, before, List.getElem?_append]
    by_cases member : i < joined.length
    · rw [if_pos member]
    · -- the new client has no definitions yet
      rw [if_neg member, List.getElem?_eq_none (by omega)]
      rcases Nat.eq_zero_or_pos (i - joined.length) with last | behind
      · simp [last]
      · rw [List.getElem?_eq_none (Nat.succ_le_of_lt behind)]
  used := by
    rw [received_snoc, List.append_nil]
    exact holds.used
  definitions := by
    rw [received_snoc, List.append_nil]
    exact holds.definitions

theorem HostHolds.withDefinition
    (holds : HostHolds setup host (joined ++ [⟨address, propertyListId, properties⟩]))
    (fits : (received joined).length + properties.length < setup.definitions)
    (same : SameDefinition copy pd) (bound : joined.length < sppConnectionsMax) (remaining : UInt8) :
    HostHolds setup (withDefinition host joined.length bound copy remaining)
      (joined ++ [⟨address, propertyListId, properties ++ [pd]⟩]) := by
  have limit := holds.definitionLimit
  have room := holds.definitionRoom
  have size := host.defsBufferSize.toNat_lt
  have used := holds.used
  have one : (1 : UInt16).toNat = 1 := rfl
  rw [received_snoc, List.length_append] at used
  -- the fill level is below the 16-bit buffer size, so it does not wrap
  have next : (host.defsBufferUsed + 1).toNat = host.defsBufferUsed.toNat + 1 := by
    rw [UInt16.toNat_add]
    omega
  constructor
  · exact ⟨holds.one.addressLength, holds.one.callbacks, holds.one.hostAddress⟩
  · exact limit
  · rwa [Spp.withDefinition, List.length_set]
  · exact holds.addressRoom
  · exact (holds.table.same_clients (properties ++ [pd])).congr rfl rfl rfl
  · simpa using holds.distinct
  · exact holds.starts
  · intro i bound
    have before := holds.counts i bound
    rw [Spp.withDefinition, Vector.getElem_set]
    by_cases last : joined.length = i
    · subst last
      simp only [List.getElem?_concat_length, Option.map_some, Option.getD_some] at before
      simp only [if_true, List.getElem?_concat_length, Option.map_some, Option.getD_some, List.length_append,
        List.length_singleton]
      rw [UInt16.toNat_add, before]
      omega
    · rw [if_neg last, before]
      simp only [List.getElem?_append]
      by_cases member : i < joined.length
      · rw [if_pos member, if_pos member]
      · rw [if_neg member, if_neg member, List.getElem?_eq_none (by simp; omega),
          List.getElem?_eq_none (by simp; omega)]
  · rw [Spp.withDefinition, next, received_snoc, List.length_append, List.length_append, used,
      List.length_singleton]
    omega
  · have inside : host.defsBufferUsed.toNat < host.defsBuffer.length := by omega
    have here : (host.defsBuffer.set host.defsBufferUsed.toNat copy)[host.defsBufferUsed.toNat]? = some copy :=
      List.getElem?_set_self inside
    rw [Spp.withDefinition, next, List.take_add_one, here, List.take_set_of_le (Nat.le_refl _), received_snoc,
      ← List.append_assoc, ← received_snoc joined address propertyListId properties]
    exact List.rel_append holds.definitions (.cons same .nil)

theorem HostHolds.frame (holds : HostHolds setup host joined) (state : SppState) (tokenCount : UInt8)
    (pendingRequestTokens : Vector UInt8 sppPendingRequestsMax) (pendingRequestCount : UInt16) (streamCount : UInt8)
    (streams : Vector (Option Nat) sppStreamMaxCount) (streamObjects : List SppStream) :
    HostHolds setup { host with
      state, tokenCount, pendingRequestTokens, pendingRequestCount, streamCount, streams, streamObjects } joined where
  one := ⟨holds.one.addressLength, holds.one.callbacks, holds.one.hostAddress⟩
  definitionLimit := holds.definitionLimit
  definitionRoom := holds.definitionRoom
  addressRoom := holds.addressRoom
  table := holds.table.congr rfl rfl rfl
  distinct := holds.distinct
  starts := holds.starts
  counts := holds.counts
  used := holds.used
  definitions := holds.definitions

theorem HostHolds.withState (holds : HostHolds setup host joined) (state : SppState) :
    HostHolds setup { host with state } joined :=
  holds.frame state host.tokenCount host.pendingRequestTokens host.pendingRequestCount host.streamCount host.streams
    host.streamObjects

end Holds

/-! ## Messages of the handshake -/

section Received
variable {host : SppHostEngine} {own address : UInt8} {propertyListId : UInt16} {pd : SppPropertyDefinition}

theorem hostProcess_one (one : OneByteHost host own) (msgId first second : UInt8)
    (body : List UInt8) {len : UInt16} (long : 4 ≤ len.toNat) (unset : Nat) :
    sppHostProcessMessage host (sppMsgSyncWord :: msgId :: first :: second :: body) len unset =
      sppHandleMessage host ⟨.external [first], 0⟩ msgId
        (sppMsgSyncWord :: msgId :: first :: second :: body) len unset := by
  have notShort : ¬len.toNat < 1 * 2 + 2 := by omega
  simp only [sppHostProcessMessage, one.addressLength, toNat_one, if_neg notShort, load_cons_zero,
    load_cons_succ, ok_bind, ne_eq, not_true_eq_false, if_false]
  rfl

/-- A connect request makes a host that is ready connect the client that sent it. -/
theorem processConnectRequest (one : OneByteHost host own) (ready : host.state = .ready) (broadcast : UInt8)
    (trailing : List UInt8) {len : UInt16} (long : 4 ≤ len.toNat) (unset : Nat) {host' : SppHostEngine}
    {effects : List HostEffect}
    (connected : sppConnectToClient { host with state := .connecting } ⟨.external [address], propertyListId⟩ =
      .ok (host', effects)) :
    sppHostProcessMessage host (Message.connectRequest address broadcast propertyListId ++ trailing) len unset =
      .ok (host', effects, sppStatusOk) := by
  have processed : sppHostProcessMessage host
      (Message.connectRequest address broadcast propertyListId ++ trailing) len unset =
      sppHandleMessage host ⟨.external [address], 0⟩ sppMsgConnectRequestBcId
        (Message.connectRequest address broadcast propertyListId ++ trailing) len unset :=
    hostProcess_one one _ _ _ _ long _
  have listId : load16 (Message.connectRequest address broadcast propertyListId ++ trailing)
      (sppMsgHdrSize host.addressLength) = .ok propertyListId := by
    rw [one.addressLength]
    exact load16_bytes16 propertyListId trailing
  have notBusy : ¬host.state ≠ .ready := not_not.mpr ready
  rw [processed, sppHandleMessage, if_pos rfl, if_neg notBusy, listId]
  simp only [ok_bind, connected, pure_eq_ok]

theorem processConnectRequest_busy (one : OneByteHost host own) (connecting : host.state = .connecting)
    (broadcast : UInt8) (trailing : List UInt8) {len : UInt16} (long : 4 ≤ len.toNat) (unset : Nat) :
    sppHostProcessMessage host (Message.connectRequest address broadcast propertyListId ++ trailing) len unset =
      .ok (host, [.sendMessage (Message.connectResponse own address sppStatusBusy)], sppStatusOk) := by
  have processed : sppHostProcessMessage host
      (Message.connectRequest address broadcast propertyListId ++ trailing) len unset =
      sppHandleMessage host ⟨.external [address], 0⟩ sppMsgConnectRequestBcId
        (Message.connectRequest address broadcast propertyListId ++ trailing) len unset :=
    hostProcess_one one _ _ _ _ long _
  have busy : host.state ≠ .ready := by rw [connecting]; decide
  have header := fillMessageHeader_one one (pointsTo_external host address [] 0) sppMsgConnectResponseId
  rw [processed, sppHandleMessage, if_pos rfl, if_pos busy, sppSendConnectBusyResponse, header]
  rfl

theorem processListResponse (one : OneByteHost host own) (address count : UInt8) (numBytes : UInt16) (last : UInt8)
    (trailing : List UInt8) {len : UInt16} (long : 4 ≤ len.toNat) (unset : Nat) :
    ∃ status, sppHostProcessMessage host (Message.listResponse address own count numBytes last ++ trailing) len unset =
        .ok (host, [], status) ∧
      (count.toNat + host.defsBufferUsed.toNat ≤ host.defsBufferSize.toNat → status = sppStatusOk) := by
  have processed : sppHostProcessMessage host
      (Message.listResponse address own count numBytes last ++ trailing) len unset =
      sppHandleMessage host ⟨.external [address], 0⟩ sppMsgPropListResponseId
        (Message.listResponse address own count numBytes last ++ trailing) len unset :=
    hostProcess_one one _ _ _ _ long _
  rw [processed, sppHandleMessage, if_neg (by decide), if_pos rfl, one.addressLength]
  by_cases enough : count.toNat + host.defsBufferUsed.toNat > host.defsBufferSize.toNat
  · refine ⟨sppStatusTooManyProperties, ?_, fun fits => absurd enough (Nat.not_lt.mpr fits)⟩
    exact bind_eq_ok.mpr ⟨count, rfl, bind_eq_ok.mpr ⟨_, rfl, by rw [if_pos enough]; rfl⟩⟩
  · refine ⟨sppStatusOk, ?_, fun _ => rfl⟩
    exact bind_eq_ok.mpr ⟨count, rfl, bind_eq_ok.mpr ⟨_, rfl, by rw [if_neg enough]; rfl⟩⟩

/-- The length the engine computes for the name is the length of what was sent of it. -/
theorem nameLength_received {name : List UInt8} (short : name.length ≤ 32) :
    (UInt16.ofNat (10 + name.length) - UInt16.ofNat 4 - 6).toUInt8.toNat = name.length := by
  have four : (UInt16.ofNat 4).toNat = 4 := rfl
  have six : (6 : UInt16).toNat = 6 := rfl
  have whole : (UInt16.ofNat (10 + name.length)).toNat = 10 + name.length := toNat_ofNat16 (by omega)
  rw [UInt16.toNat_toUInt8, UInt16.toNat_sub, UInt16.toNat_sub, four, six, whole]
  omega

theorem definitionMessage_unpacked (one : OneByteHost host own) (address : UInt8) (pd : SppPropertyDefinition)
    (remaining : UInt8) (name trailing : List UInt8) {len : UInt16} (long : 4 ≤ len.toNat) (unset : Nat) :
    sppHostProcessMessage host (Message.definition address own pd remaining name ++ trailing) len unset =
      (sppUnpackPropDef host ⟨.external [address], 0⟩
        ((Message.definition address own pd remaining name ++ trailing).drop 4) (len - UInt16.ofNat 4) unset).map
        (·, [], sppStatusOk) := by
  have processed : sppHostProcessMessage host (Message.definition address own pd remaining name ++ trailing) len unset =
      sppHandleMessage host ⟨.external [address], 0⟩ sppMsgPropDefId
        (Message.definition address own pd remaining name ++ trailing) len unset :=
    hostProcess_one one _ _ _ _ long _
  rw [processed, sppHandleMessage, if_neg (by decide), if_neg (by decide), if_pos rfl, one.addressLength,
    sppMsgHdrSize_one]
  rfl

theorem length_definitionMessage (address host : UInt8) (pd : SppPropertyDefinition) (remaining : UInt8)
    (name : List UInt8) : (Message.definition address host pd remaining name).length = 10 + name.length := by
  simp only [Message.definition, List.length_cons, List.length_append, length_bytes16]
  omega

theorem processDefinition (one : OneByteHost host own) {place : Nat}
    (known : sppGetClientIdx host ⟨.external [address], 0⟩ = .ok (some place)) (bound : place < sppConnectionsMax)
    (inside : host.defsBufferUsed.toNat < host.defsBuffer.length) (terminated : 0 ∈ pd.name.toList)
    (remaining : UInt8) (trailing : List UInt8) (unset : Nat) :
    ∃ copy, SameDefinition copy pd ∧
      sppHostProcessMessage host (Message.definition address own pd remaining (sentName pd.name) ++ trailing)
          (UInt16.ofNat (Message.definition address own pd remaining (sentName pd.name)).length) unset =
        .ok (withDefinition host place bound copy remaining, [], sppStatusOk) := by
  have sent := length_sentName terminated
  have short : (sentName pd.name).length ≤ 32 := by
    have below : nameLength pd.name < 32 := nameLength_lt terminated
    omega
  -- the name overwrites the front of the entry that was there
  obtain ⟨old, here⟩ : ∃ old, host.defsBuffer[host.defsBufferUsed.toNat]? = some old :=
    ⟨_, List.getElem?_eq_getElem inside⟩
  obtain ⟨name, stored, front⟩ := storeCells_front old.name short
  have length := length_definitionMessage address own pd remaining (sentName pd.name)
  rw [length]
  let len := UInt16.ofNat (10 + (sentName pd.name).length)
  have long : 4 ≤ len.toNat := by
    have whole : len.toNat = 10 + (sentName pd.name).length := toNat_ofNat16 (by omega)
    omega
  have nameBytes : loadRange ((Message.definition address own pd remaining (sentName pd.name) ++
      trailing).drop 4) 6 (len - UInt16.ofNat 4 - 6).toUInt8.toNat = .ok (sentName pd.name) := by
    rw [nameLength_received short, loadRange_eq_ok]
    constructor
    · rw [List.length_drop, List.length_append, length]
      omega
    · exact List.take_left
  have id : load16 ((Message.definition address own pd remaining (sentName pd.name) ++
      trailing).drop 4) 2 = .ok pd.id :=
    load16_bytes16 pd.id (pd.type :: pd.flags :: (sentName pd.name ++ trailing))
  refine ⟨⟨pd.id, pd.type, pd.size, pd.flags, name, (len - UInt16.ofNat 4 - 6).toUInt8⟩, ?_, ?_⟩
  · constructor
    · rfl
    · rfl
    · rfl
    · rfl
    · exact (nameLength_received short).trans sent
    · rw [nameLength_received short, front]
  · rw [definitionMessage_unpacked one address pd remaining _ trailing long]
    have unpacked : sppUnpackPropDef host ⟨.external [address], 0⟩ ((Message.definition address own pd remaining
        (sentName pd.name) ++ trailing).drop 4) (len - UInt16.ofNat 4) unset =
        .ok (withDefinition host place bound ⟨pd.id, pd.type, pd.size, pd.flags, name,
          (len - UInt16.ofNat 4 - 6).toUInt8⟩ remaining) := by
      rw [sppUnpackPropDef]
      refine bind_eq_ok.mpr ⟨pd.size, rfl, bind_eq_ok.mpr ⟨remaining, rfl, bind_eq_ok.mpr ⟨pd.id, id,
        bind_eq_ok.mpr ⟨pd.type, rfl, bind_eq_ok.mpr ⟨pd.flags, rfl, bind_eq_ok.mpr ⟨_, known, ?_⟩⟩⟩⟩⟩⟩
      refine bind_eq_ok.mpr ⟨_, loadCell_of_lt _ bound, bind_eq_ok.mpr ⟨_, storeCell_of_lt _ _ bound,
        bind_eq_ok.mpr ⟨old, load_eq_ok.mpr here, bind_eq_ok.mpr ⟨_, nameBytes,
          bind_eq_ok.mpr ⟨name, stored, rfl⟩⟩⟩⟩⟩
    rw [unpacked]
    rfl

/-- Without an entry left in the buffer C leaves the unpacking undefined. -/
theorem processDefinition_full (one : OneByteHost host own) (full : host.defsBuffer.length ≤ host.defsBufferUsed.toNat)
    (address : UInt8) (pd : SppPropertyDefinition) (remaining : UInt8) (name trailing : List UInt8) {len : UInt16}
    (long : 4 ≤ len.toNat) (unset : Nat) :
    ∃ fault, sppHostProcessMessage host (Message.definition address own pd remaining name ++ trailing) len unset =
      .error fault := by
  rw [definitionMessage_unpacked one address pd remaining name trailing long]
  cases unpacked : sppUnpackPropDef host ⟨.external [address], 0⟩
      ((Message.definition address own pd remaining name ++ trailing).drop 4) (len - UInt16.ofNat 4) unset with
  | error fault => exact ⟨fault, rfl⟩
  | ok host' => exact absurd (sppUnpackPropDef_outcome unpacked).room (Nat.not_lt.mpr full)

end Received

section Holds
variable {setup : HostSetup} {host : SppHostEngine} {joined : List Joined} {address : UInt8}
  {propertyListId : UInt16} {properties : List SppPropertyDefinition} {pd : SppPropertyDefinition}

theorem host_connectRequest (holds : HostHolds setup host joined) (ready : host.state = .ready)
    (absent : address ∉ joined.map (·.address)) (newList : propertyListId ∉ joined.map (·.propertyListId))
    (space : joined.length < sppConnectionsMax) (memory : joined.length < setup.clients) (broadcast : UInt8)
    (trailing : List UInt8) (len : UInt16) (long : 4 ≤ len.toNat) (unset : Nat) :
    sppHostProcessMessage host (Message.connectRequest address broadcast propertyListId ++ trailing) len unset =
      .ok (withClient { host with state := .connecting } address propertyListId joined.length space,
        [.sendMessage (Message.connectResponse setup.address address sppStatusOk)], sppStatusOk) := by
  have holds' := holds.withState .connecting
  have connected : sppConnectToClient { host with state := .connecting } ⟨.external [address], propertyListId⟩ =
      .ok (Spp.withClient { host with state := .connecting } address propertyListId joined.length space,
        [.sendMessage (Message.connectResponse setup.address address sppStatusOk)]) :=
    sppConnectToClient_new holds'.one holds'.table absent (pointsTo_external _ address [] _) newList space
      (Nat.lt_of_lt_of_le memory holds'.addressRoom)
  exact processConnectRequest holds.one ready broadcast trailing long unset connected

theorem host_listResponse (holds : HostHolds setup host joined) (address : UInt8) {count : UInt8}
    (fits : (received joined).length + count.toNat ≤ setup.definitions) (numBytes : UInt16) (last : UInt8)
    (trailing : List UInt8) (len : UInt16) (long : 4 ≤ len.toNat) (unset : Nat) :
    sppHostProcessMessage host
        (Message.listResponse address setup.address count numBytes last ++ trailing) len unset =
      .ok (host, [], sppStatusOk) := by
  obtain ⟨status, processed, fine⟩ := processListResponse holds.one address count numBytes last trailing long unset
  have limit := holds.definitionLimit
  have used := holds.used
  obtain rfl : status = sppStatusOk := fine (by omega)
  exact processed

theorem host_definition
    (holds : HostHolds setup host (joined ++ [⟨address, propertyListId, properties⟩]))
    (fits : (received joined).length + properties.length < setup.definitions)
    (terminated : 0 ∈ pd.name.toList) (bound : joined.length < sppConnectionsMax) (remaining : UInt8)
    (trailing : List UInt8) (unset : Nat) :
    ∃ copy, SameDefinition copy pd ∧
      sppHostProcessMessage host
          (Message.definition address setup.address pd remaining (sentName pd.name) ++ trailing)
          (UInt16.ofNat (Message.definition address setup.address pd remaining (sentName pd.name)).length) unset =
        .ok (Spp.withDefinition host joined.length bound copy remaining, [], sppStatusOk) := by
  have inside : host.defsBufferUsed.toNat < host.defsBuffer.length := by
    have used := holds.used
    have room := holds.definitionRoom
    rw [received_snoc, List.length_append] at used
    omega
  have last : (joined ++ [⟨address, propertyListId, properties⟩])[joined.length]? =
      some ⟨address, propertyListId, properties⟩ := List.getElem?_concat_length
  have known : sppGetClientIdx host ⟨.external [address], 0⟩ = .ok (some joined.length) :=
    sppGetClientIdx_joined holds.one holds.table holds.distinct last (pointsTo_external _ address [] _)
  exact processDefinition holds.one known bound inside terminated remaining trailing unset

end Holds

end TvcHopper.Spp
