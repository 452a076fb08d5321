import Mathlib.Data.List.Chain
import TvcHopper.Machine.Records
import TvcHopper.Spp.Directory

/-! The addresses of the clients, for addresses of every length.

All addresses lie in one buffer. The address of each client starts one byte
behind that of the client before, however long it is.
-/

set_option autoImplicit false

namespace TvcHopper.Spp
open Machine

def ComparesAll (callbacks : SppHostCallbacks) (addressLength : UInt8) : Prop :=
  ∀ first second : List UInt8, addressLength.toNat ≤ first.length → addressLength.toNat ≤ second.length →
    callbacks.areAddressesEqual (some first) (some second) =
      (first.take addressLength.toNat == second.take addressLength.toNat)

/-- The parameters of a host with room for the addresses of all clients. -/
structure AddressParams (initParams : SppHostEngineInitParams) : Prop where
  positive : 1 ≤ initParams.addressLength.toNat
  room : initParams.addressBuffer.length = sppConnectionsMax * initParams.addressLength.toNat
  callbacks : ComparesAll initParams.callbacks initParams.addressLength
  hostAddress : ∃ bytes, initParams.hostAddress.address = .external bytes ∧
    initParams.addressLength.toNat ≤ bytes.length

/-- The address of a client whose pointer leads out of the engine. -/
def externalAddress (addressLength : UInt8) (client : SppAddress) : List UInt8 :=
  match client.address with
  | .external bytes => bytes.take addressLength.toNat
  | _ => []

/-- The pointer leads out of the engine, to memory that is long enough. -/
def HasAddress (addressLength : UInt8) (client : SppAddress) : Prop :=
  ∃ bytes, client.address = .external bytes ∧ addressLength.toNat ≤ bytes.length

/-- The different addresses of the clients, in the order in which they first appear. -/
def seenAddresses (addressLength : UInt8) (clients : List SppAddress) : List (List UInt8) :=
  (clients.map (externalAddress addressLength)).eraseDups

/-- The table has exactly these addresses, each at the pointer of its client. -/
structure KeepsAddresses (host : SppHostEngine) (addresses : List (List UInt8)) : Prop where
  count : host.clientCount.toNat = addresses.length
  stored : ∀ (i : Nat) (bound : i < sppConnectionsMax) (member : i < addresses.length),
    ∃ memory, host.clients[i].address.read host.addressBuffer = some memory ∧
      memory.take host.addressLength.toNat = addresses[i]

/-- The next address begins with all bytes of the one before but its first. -/
def Continues (addressLength : UInt8) (previous next : List UInt8) : Prop :=
  next.take (addressLength.toNat - 1) = previous.drop 1

/-! ## The table -/

/-- The host keeps clients with these addresses, if their bytes are intact. -/
structure AddressTable (host : SppHostEngine) (addresses : List (List UInt8)) : Prop where
  positive : 1 ≤ host.addressLength.toNat
  room : host.addressBuffer.length = sppConnectionsMax * host.addressLength.toNat
  callbacks : ComparesAll host.callbacks host.addressLength
  hostAddress : ∃ bytes, host.hostAddress.address = .external bytes ∧ host.addressLength.toNat ≤ bytes.length
  count : host.clientCount.toNat = addresses.length
  few : addresses.length ≤ sppConnectionsMax
  pointers : ∀ (i : Nat) (bound : i < sppConnectionsMax), i < addresses.length →
    host.clients[i].address = .permanent i

/-- The addresses are in the buffer, one byte apart. -/
abbrev Intact (host : SppHostEngine) (addresses : List (List UInt8)) : Prop :=
  Records 1 host.addressLength.toNat host.addressBuffer addresses

section Table
variable {host host' : SppHostEngine} {addresses : List (List UInt8)} {client : SppAddress}

theorem addressTable_init {initParams : SppHostEngineInitParams} (params : AddressParams initParams)
    (prior : SppHostEngine) : AddressTable (sppHostEngineInit initParams prior) [] where
  positive := params.positive
  room := params.room
  callbacks := params.callbacks
  hostAddress := params.hostAddress
  count := rfl
  few := Nat.zero_le _
  pointers := by simp

theorem AddressTable.inside (table : AddressTable host addresses) {place : Nat} (bound : place < sppConnectionsMax) :
    place + host.addressLength.toNat ≤ host.addressBuffer.length := by
  have positive := table.positive
  have last : place + 1 ≤ sppConnectionsMax := bound
  have wide : place * 1 ≤ place * host.addressLength.toNat := Nat.mul_le_mul_left place positive
  have whole : (place + 1) * host.addressLength.toNat ≤ sppConnectionsMax * host.addressLength.toNat :=
    Nat.mul_le_mul_right _ last
  rw [Nat.succ_mul] at whole
  rw [table.room]
  omega

theorem AddressTable.keeps_iff (table : AddressTable host addresses)
    (widths : ∀ address ∈ addresses, address.length = host.addressLength.toNat) :
    KeepsAddresses host addresses ↔ Intact host addresses := by
  constructor
  · intro keeps
    refine ⟨fun i member => ?_, widths⟩
    have bound : i < sppConnectionsMax := Nat.lt_of_lt_of_le member table.few
    obtain ⟨memory, reads, stored⟩ := keeps.stored i bound member
    rw [table.pointers i bound member] at reads
    cases reads
    rw [Nat.mul_one]
    exact stored
  · intro intact
    refine ⟨table.count, fun i bound member => ?_⟩
    have stored := intact.stored i member
    rw [Nat.mul_one] at stored
    exact ⟨_, by rw [table.pointers i bound member, AddressPtr.read], stored⟩

theorem HasAddress.reads {addressLength : UInt8} (has : HasAddress addressLength client) (addressBuffer : List UInt8) :
    ∃ bytes, client.address.read addressBuffer = some bytes ∧ addressLength.toNat ≤ bytes.length ∧
      externalAddress addressLength client = bytes.take addressLength.toNat := by
  obtain ⟨bytes, external, long⟩ := has
  rw [externalAddress, external]
  exact ⟨bytes, rfl, long, rfl⟩

theorem HasAddress.width {addressLength : UInt8} (has : HasAddress addressLength client) :
    (externalAddress addressLength client).length = addressLength.toNat := by
  obtain ⟨bytes, -, long, same⟩ := has.reads []
  rw [same, List.length_take_of_le long]

/-- While the addresses are intact, a client is found by its address. -/
theorem AddressTable.search (table : AddressTable host addresses) (intact : Intact host addresses)
    (has : HasAddress host.addressLength client) :
    search (clientIsAt host client) host.clientCount.toNat 0 =
      .ok (addresses.findIdx? (· == externalAddress host.addressLength client)) := by
  obtain ⟨bytes, reads, long, same⟩ := has.reads host.addressBuffer
  have compares : ∀ (i : Nat) (address : List UInt8), addresses[i]? = some address →
      clientIsAt host client i = .ok (address == externalAddress host.addressLength client) := by
    intro i address here
    obtain ⟨member, rfl⟩ := List.getElem?_eq_some_iff.mp here
    have bound : i < sppConnectionsMax := Nat.lt_of_lt_of_le member table.few
    have inside := table.inside bound
    have stored := intact.stored i member
    rw [Nat.mul_one] at stored
    rw [clientIsAt, loadCell_of_lt host.clients bound, ok_bind, reads, table.pointers i bound member, AddressPtr.read,
      table.callbacks _ _ long (by rw [List.length_drop]; omega), stored, same, pure_eq_ok]
    exact congrArg Except.ok Bool.beq_comm
  have searched := search_eq_findIdx (· == externalAddress host.addressLength client) 0
    (Nat.zero_add addresses.length).le compares
  rw [List.drop_zero, List.take_length] at searched
  rw [table.count, searched]
  simp

theorem AddressTable.fillMessageHeader (table : AddressTable host addresses) {memory : List UInt8}
    (reads : client.address.read host.addressBuffer = some memory) (long : host.addressLength.toNat ≤ memory.length)
    (messageId : UInt8) : ∃ header, sppFillMessageHeader host client messageId = .ok header := by
  obtain ⟨bytes, external, long'⟩ := table.hostAddress
  have own : host.hostAddress.address.deref host.addressBuffer = .ok bytes := by
    rw [external]
    rfl
  have first : loadRange bytes 0 host.addressLength.toNat = .ok (bytes.take host.addressLength.toNat) := by
    rw [loadRange_eq_ok, Nat.zero_add]
    exact ⟨long', rfl⟩
  have second : loadRange memory 0 host.addressLength.toNat = .ok (memory.take host.addressLength.toNat) := by
    rw [loadRange_eq_ok, Nat.zero_add]
    exact ⟨long, rfl⟩
  rw [sppFillMessageHeader, own, ok_bind, deref_eq_ok.mpr reads, ok_bind, messageHeader, first, ok_bind, second]
  exact ⟨_, rfl⟩

theorem AddressTable.connect {added : SppHostEngine} {client' : SppAddress}
    (add : sppAddClient host client = .ok (added, client')) (table : AddressTable added addresses)
    (nonempty : addresses ≠ []) {memory : List UInt8} (reads : client'.address.read added.addressBuffer = some memory)
    (long : added.addressLength.toNat ≤ memory.length) :
    ∃ host' effects, sppConnectToClient host client = .ok (host', effects) ∧ AddressTable host' addresses ∧
      host'.addressBuffer = added.addressBuffer ∧ host'.addressLength = added.addressLength := by
  obtain ⟨header, filled⟩ := table.fillMessageHeader reads long sppMsgConnectResponseId
  have count := table.count
  have few := table.few
  have positive : 0 < addresses.length := List.length_pos_iff.mpr nonempty
  obtain ⟨host', status, looped⟩ : ∃ host' status,
      sppConnectLoop client' added.clientCount.toNat 0 added sppStatusOk = .ok (host', status) :=
    sppConnectLoop_total (by omega) (by omega) sppStatusOk
  obtain ⟨frame, clients, total, buffer⟩ := (sppConnectLoop_outcome (Nat.zero_add _).le looped).frame
  refine ⟨host', [.sendMessage (header ++ [status])], ?_, ?_, buffer, frame.addressLength⟩
  · rw [sppConnectToClient, add, ok_bind]
    simp only [filled, ok_bind, looped, pure_eq_ok]
  · constructor
    · rw [frame.addressLength]
      exact table.positive
    · rw [buffer, frame.addressLength]
      exact table.room
    · rw [frame.callbacks, frame.addressLength]
      exact table.callbacks
    · rw [frame.hostAddress, frame.addressLength]
      exact table.hostAddress
    · rw [total, count]
    · exact few
    · rw [clients]
      exact table.pointers

theorem AddressTable.connect_known (table : AddressTable host addresses) (intact : Intact host addresses)
    (has : HasAddress host.addressLength client) (known : externalAddress host.addressLength client ∈ addresses) :
    ∃ host' effects, sppConnectToClient host client = .ok (host', effects) ∧ AddressTable host' addresses ∧
      host'.addressBuffer = host.addressBuffer ∧ host'.addressLength = host.addressLength := by
  obtain ⟨bytes, reads, long, -⟩ := has.reads host.addressBuffer
  have searched := table.search intact has
  have add : sppAddClient host client = .ok (host, client) := by
    rw [sppAddClient, searched, ok_bind]
    cases found : addresses.findIdx? (· == externalAddress host.addressLength client) with
    | some place => rfl
    | none =>
      have absent := List.findIdx?_eq_none_iff.mp found _ known
      simp at absent
  exact AddressTable.connect add table (List.ne_nil_of_mem known) reads long

theorem AddressTable.withPointer (table : AddressTable host addresses) (space : addresses.length < sppConnectionsMax)
    (address : List UInt8) (propertyListId : UInt16) {buffer : List UInt8}
    (length : buffer.length = host.addressBuffer.length) :
    AddressTable { host with
      addressBuffer := buffer
      clients := host.clients.set addresses.length ⟨.permanent addresses.length, propertyListId⟩
      clientCount := host.clientCount + 1 } (addresses ++ [address]) := by
  constructor
  · exact table.positive
  · exact length.trans table.room
  · exact table.callbacks
  · exact table.hostAddress
  · have one : (1 : UInt8).toNat = 1 := rfl
    have five : sppConnectionsMax = 5 := rfl
    rw [List.length_append, List.length_singleton, UInt8.toNat_add, table.count]
    omega
  · rw [List.length_append, List.length_singleton]
    exact space
  · intro i bound member
    rw [List.length_append, List.length_singleton] at member
    rw [Vector.getElem_set]
    split
    · next here => exact congrArg AddressPtr.permanent here
    · next other => exact table.pointers i bound (by omega)

/-- A client with a new address gets the next place in the table, and its address the next byte of the buffer. -/
theorem AddressTable.connect_new (table : AddressTable host addresses) (intact : Intact host addresses)
    (has : HasAddress host.addressLength client) (fresh : externalAddress host.addressLength client ∉ addresses)
    (space : addresses.length < sppConnectionsMax) :
    ∃ host' effects, sppConnectToClient host client = .ok (host', effects) ∧
      AddressTable host' (addresses ++ [externalAddress host.addressLength client]) ∧
      host'.addressBuffer = overwrite host.addressBuffer addresses.length (externalAddress host.addressLength client) ∧
      host'.addressLength = host.addressLength := by
  obtain ⟨bytes, reads, long, same⟩ := has.reads host.addressBuffer
  have width := has.width
  have inside := table.inside space
  have searched := table.search intact has
  have none : addresses.findIdx? (· == externalAddress host.addressLength client) = none := by
    refine List.findIdx?_eq_none_iff.mpr fun address member => ?_
    simp only [beq_eq_false_iff_ne]
    rintro rfl
    exact fresh member
  let buffer := overwrite host.addressBuffer addresses.length (externalAddress host.addressLength client)
  let pointer : SppAddress := ⟨.permanent addresses.length, client.propertyListId⟩
  let added : SppHostEngine := { host with
    addressBuffer := buffer
    clients := host.clients.set addresses.length pointer
    clientCount := host.clientCount + 1 }
  have add : sppAddClient host client = .ok (added, pointer) := by
    have loaded : loadRange bytes 0 host.addressLength.toNat = .ok (externalAddress host.addressLength client) := by
      rw [loadRange_eq_ok, Nat.zero_add]
      exact ⟨long, same.symm⟩
    have stored : storeRange host.addressBuffer addresses.length (externalAddress host.addressLength client) =
        .ok buffer := storeRange_eq_ok.mpr ⟨by omega, rfl⟩
    rw [sppAddClient, searched, none, ok_bind]
    simp only [deref_eq_ok.mpr reads, ok_bind, loaded, table.count, stored, storeCell_of_lt host.clients _ space,
      pure_eq_ok]
    rfl
  have table' : AddressTable added (addresses ++ [externalAddress host.addressLength client]) :=
    table.withPointer space _ client.propertyListId (length_overwrite ..)
  have behind : pointer.address.read added.addressBuffer = some (buffer.drop addresses.length) := rfl
  have room : added.addressLength.toNat ≤ (buffer.drop addresses.length).length := by
    rw [List.length_drop, length_overwrite]
    exact Nat.le_sub_of_add_le (Nat.add_comm .. ▸ inside)
  exact AddressTable.connect add table' (by simp) behind room

end Table

/-! ## Sequences of clients -/

section Sequence
variable {addressLength : UInt8} {before clients : List SppAddress} {client : SppAddress}

theorem seenAddresses_concat (addressLength : UInt8) (before : List SppAddress) (client : SppAddress) :
    seenAddresses addressLength (before ++ [client]) =
      if externalAddress addressLength client ∈ seenAddresses addressLength before
      then seenAddresses addressLength before
      else seenAddresses addressLength before ++ [externalAddress addressLength client] := by
  unfold seenAddresses
  rw [List.map_append, List.eraseDups_append, List.map_singleton]
  simp only [List.mem_eraseDups]
  generalize before.map (externalAddress addressLength) = addresses
  by_cases known : externalAddress addressLength client ∈ addresses
  · simp [List.removeAll, known]
  · simp [List.removeAll, known, List.eraseDups_cons]

theorem seenAddresses_prefix (addressLength : UInt8) (start : before <+: clients) :
    seenAddresses addressLength before <+: seenAddresses addressLength clients := by
  obtain ⟨rest, rfl⟩ := start
  unfold seenAddresses
  rw [List.map_append, List.eraseDups_append]
  exact List.prefix_append _ _

theorem seenAddresses_width (outside : ∀ client ∈ clients, HasAddress addressLength client) :
    ∀ address ∈ seenAddresses addressLength clients, address.length = addressLength.toNat := by
  intro address member
  obtain ⟨client, known, rfl⟩ := List.mem_map.mp (List.mem_eraseDups.mp member)
  exact (outside client known).width

structure Reached (initParams : SppHostEngineInitParams) (prior host : SppHostEngine) (clients : List SppAddress) :
    Prop where
  done : ∃ effects, run sppConnectToClient (sppHostEngineInit initParams prior) clients = .ok (host, effects)
  length : host.addressLength = initParams.addressLength
  table : AddressTable host (seenAddresses initParams.addressLength clients)

variable {initParams : SppHostEngineInitParams} {prior host : SppHostEngine}

theorem Reached.keeps_iff (reached : Reached initParams prior host clients)
    (outside : ∀ client ∈ clients, HasAddress initParams.addressLength client) :
    KeepsAddresses host (seenAddresses initParams.addressLength clients) ↔
      Intact host (seenAddresses initParams.addressLength clients) :=
  reached.table.keeps_iff fun address member =>
    (seenAddresses_width outside address member).trans (congrArg UInt8.toNat reached.length).symm

theorem Reached.step (reached : Reached initParams prior host before)
    (intact : Intact host (seenAddresses initParams.addressLength before))
    (has : HasAddress initParams.addressLength client)
    (few : (seenAddresses initParams.addressLength (before ++ [client])).length ≤ sppConnectionsMax) :
    ∃ host', Reached initParams prior host' (before ++ [client]) ∧
      (Intact host' (seenAddresses initParams.addressLength (before ++ [client])) ↔
        (externalAddress initParams.addressLength client ∈ seenAddresses initParams.addressLength before ∨
          ∀ last, (seenAddresses initParams.addressLength before).getLast? = some last →
            Continues initParams.addressLength last (externalAddress initParams.addressLength client))) := by
  obtain ⟨⟨effects, done⟩, length, table⟩ := reached
  have concat := seenAddresses_concat initParams.addressLength before client
  have later {host' : SppHostEngine} {effects' : List HostEffect}
      (connected : sppConnectToClient host client = .ok (host', effects')) :
      ∃ effects, run sppConnectToClient (sppHostEngineInit initParams prior) (before ++ [client]) =
        .ok (host', effects) :=
    ⟨_, run_append_eq_ok.mpr ⟨_, _, _, done, run_singleton_eq_ok.mpr ⟨_, connected, rfl⟩, rfl⟩⟩
  by_cases known : externalAddress initParams.addressLength client ∈ seenAddresses initParams.addressLength before
  · rw [if_pos known] at concat
    obtain ⟨host', effects', connected, table', buffer, length'⟩ :=
      table.connect_known intact (length ▸ has) (length ▸ known)
    refine ⟨host', ⟨later connected, length'.trans length, concat ▸ table'⟩, ?_⟩
    simp only [known, true_or, iff_true]
    rw [concat, Intact, buffer, length']
    exact intact
  · rw [if_neg known] at concat
    rw [concat, List.length_append, List.length_singleton] at few
    have space : (seenAddresses initParams.addressLength before).length < sppConnectionsMax := few
    obtain ⟨host', effects', connected, table', buffer, length'⟩ :=
      table.connect_new intact (length ▸ has) (length ▸ known) space
    rw [length] at table' buffer
    refine ⟨host', ⟨later connected, length'.trans length, concat ▸ table'⟩, ?_⟩
    simp only [known, false_or]
    have positive := table.positive
    have inside := table.inside space
    have append := Records.append_iff intact positive (has.width.trans (congrArg UInt8.toNat length).symm)
      (by rwa [Nat.mul_one])
    rw [Nat.mul_one] at append
    rw [concat, Intact, buffer, length', append, length]
    exact Iff.rfl

theorem reached_of_chain (params : AddressParams initParams) (prior : SppHostEngine)
    (outside : ∀ client ∈ clients, HasAddress initParams.addressLength client)
    (few : (seenAddresses initParams.addressLength clients).length ≤ sppConnectionsMax)
    (chain : (seenAddresses initParams.addressLength clients).IsChain (Continues initParams.addressLength)) :
    ∃ host, Reached initParams prior host clients ∧ Intact host (seenAddresses initParams.addressLength clients) := by
  induction clients using List.reverseRecOn with
  | nil => exact ⟨_, ⟨⟨[], rfl⟩, rfl, addressTable_init params prior⟩, records_nil _ _ _⟩
  | append_singleton before client ih =>
    have start := seenAddresses_prefix initParams.addressLength (List.prefix_append before [client])
    have earlier : ∀ client ∈ before, HasAddress initParams.addressLength client :=
      fun client member => outside client (List.mem_append_left _ member)
    obtain ⟨host, reached, intact⟩ := ih earlier (start.length_le.trans few) ( List.IsChain.prefix chain start)
    obtain ⟨host', reached', intact'⟩ := reached.step intact (outside client (by simp)) few
    refine ⟨host', reached', intact'.mpr ?_⟩
    rw [or_iff_not_imp_left]
    intro fresh last isLast
    rw [seenAddresses_concat, if_neg fresh] at chain
    exact (List.isChain_append.mp chain).2.2 last isLast _ rfl

theorem chain_of_keeps (params : AddressParams initParams) (prior : SppHostEngine)
    (outside : ∀ client ∈ clients, HasAddress initParams.addressLength client)
    (few : (seenAddresses initParams.addressLength clients).length ≤ sppConnectionsMax)
    (keeps : ∀ before, before <+: clients → ∃ host effects,
      run sppConnectToClient (sppHostEngineInit initParams prior) before = .ok (host, effects) ∧
        KeepsAddresses host (seenAddresses initParams.addressLength before)) :
    (seenAddresses initParams.addressLength clients).IsChain (Continues initParams.addressLength) := by
  induction clients using List.reverseRecOn with
  | nil => exact .nil
  | append_singleton before client ih =>
    have start := seenAddresses_prefix initParams.addressLength (List.prefix_append before [client])
    have earlier : ∀ client ∈ before, HasAddress initParams.addressLength client :=
      fun client member => outside client (List.mem_append_left _ member)
    have few' := start.length_le.trans few
    have chain := ih earlier few' fun first part => keeps first (part.trans (List.prefix_append _ _))
    obtain ⟨host, reached, intact⟩ := reached_of_chain params prior earlier few' chain
    obtain ⟨host', reached', intact'⟩ := reached.step intact (outside client (by simp)) few
    -- the run to the last client is the one that keeps the addresses
    obtain ⟨final, effects, done, kept⟩ := keeps _ (List.prefix_refl _)
    obtain ⟨effects', done'⟩ := reached'.done
    cases done.symm.trans done'
    have continues := intact'.mp ((reached'.keeps_iff outside).mp kept)
    rw [seenAddresses_concat]
    split
    · exact chain
    · next fresh =>
      refine List.isChain_append.mpr ⟨chain, .singleton _, ?_⟩
      rintro last isLast _ ⟨⟩
      exact continues.resolve_left fresh last isLast

end Sequence

/-- After each call of a sequence the addresses of all clients are in place, exactly when each new address begins
with all bytes of the one before but its first. -/
theorem addresses_kept_iff {initParams : SppHostEngineInitParams} (params : AddressParams initParams)
    {clients : List SppAddress} (outside : ∀ client ∈ clients, HasAddress initParams.addressLength client)
    (few : (seenAddresses initParams.addressLength clients).length ≤ sppConnectionsMax) (prior : SppHostEngine) :
    (∀ before, before <+: clients → ∃ host effects,
      run sppConnectToClient (sppHostEngineInit initParams prior) before = .ok (host, effects) ∧
        KeepsAddresses host (seenAddresses initParams.addressLength before)) ↔
      (seenAddresses initParams.addressLength clients).IsChain (Continues initParams.addressLength) := by
  constructor
  · exact chain_of_keeps params prior outside few
  · intro chain before start
    have part := seenAddresses_prefix initParams.addressLength start
    have earlier : ∀ client ∈ before, HasAddress initParams.addressLength client :=
      fun client member => outside client (start.subset member)
    obtain ⟨host, reached, intact⟩ :=
      reached_of_chain params prior earlier (part.length_le.trans few) ( List.IsChain.prefix chain part)
    obtain ⟨effects, done⟩ := reached.done
    exact ⟨host, effects, done, (reached.keeps_iff earlier).mpr intact⟩

def twoByteParams : SppHostEngineInitParams :=
  { setupParams with
    addressBuffer := .replicate 10 0
    addressLength := 2
    callbacks := ⟨fun
      | some first, some second => first.take 2 == second.take 2
      | _, _ => false⟩
    hostAddress := ⟨.external [0x1D, 0x1E], 0⟩ }

theorem addressParams_twoByte : AddressParams twoByteParams :=
  ⟨by decide, rfl, fun _ _ _ _ => rfl, ⟨[0x1D, 0x1E], rfl, by decide⟩⟩

def twoByteClients : List SppAddress := [⟨.external [0x01, 0x02], 1⟩, ⟨.external [0x03, 0x04], 2⟩]

theorem twoByteClients_outside : ∀ client ∈ twoByteClients, HasAddress 2 client := by
  simp [twoByteClients, HasAddress]

theorem addresses_kept_two :
    (∀ before, before <+: twoByteClients → ∃ host effects,
      run sppConnectToClient (sppHostEngineInit twoByteParams staticHost) before = .ok (host, effects) ∧
        KeepsAddresses host (seenAddresses 2 before)) ↔
      (seenAddresses 2 twoByteClients).IsChain (Continues 2) :=
  addresses_kept_iff addressParams_twoByte twoByteClients_outside (by decide) staticHost

/-- The second client is stored over the second byte of the first. -/
theorem second_address_overwrites_first : ∃ host effects,
    run sppConnectToClient (sppHostEngineInit twoByteParams staticHost) twoByteClients = .ok (host, effects) ∧
      host.addressBuffer.take 4 = [0x01, 0x03, 0x04, 0x00] ∧ AddressParams twoByteParams ∧
      (∀ client ∈ twoByteClients, HasAddress 2 client) ∧
      (seenAddresses 2 twoByteClients).length ≤ sppConnectionsMax ∧
      ¬KeepsAddresses host (seenAddresses 2 twoByteClients) := by
  refine ⟨_, _, rfl, rfl, addressParams_twoByte, twoByteClients_outside, by decide, ?_⟩
  intro keeps
  obtain ⟨memory, reads, stored⟩ := keeps.stored 0 (by decide) (by decide)
  cases reads
  exact absurd stored (by decide)

end TvcHopper.Spp
