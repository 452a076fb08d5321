import TvcHopper.Spp.Host

/-! What connecting a client and unpacking a definition leave of the host.

A client that connects is added once and gets the range of definitions of its
last duplicate. A definition that is unpacked takes the next entry of the
buffer.
-/

set_option autoImplicit false

namespace TvcHopper.Spp
open Machine

/-! ## Connecting -/

section Connecting
variable {host host' : SppHostEngine} {client client' : SppAddress}

/-- A known client is left alone, a new one gets the next place. -/
inductive AddOutcome (host host' : SppHostEngine) (client client' : SppAddress) : Prop where
  | known (place : Nat) (found : search (clientIsAt host client) host.clientCount.toNat 0 = .ok (some place))
      (same : host' = host) (pointer : client' = client)
  | new (unknown : search (clientIsAt host client) host.clientCount.toNat 0 = .ok none)
      (bound : host.clientCount.toNat < sppConnectionsMax) (address bytes addressBuffer : List UInt8)
      (reads : client.address.read host.addressBuffer = some address)
      (loaded : loadRange address 0 host.addressLength.toNat = .ok bytes)
      (stored : storeRange host.addressBuffer host.clientCount.toNat bytes = .ok addressBuffer)
      (pointer : client' = ⟨.permanent host.clientCount.toNat, client.propertyListId⟩)
      (added : host' = { host with
        addressBuffer
        clients := host.clients.set host.clientCount.toNat client'
        clientCount := host.clientCount + 1 })

theorem sppAddClient_outcome (added : sppAddClient host client = .ok (host', client')) :
    AddOutcome host host' client client' := by
  unfold sppAddClient at added
  simp only [bind_eq_ok] at added
  obtain ⟨known, searched, added⟩ := added
  cases known with
  | some place =>
    simp only [pure_eq_ok, Except.ok.injEq, Prod.mk.injEq] at added
    obtain ⟨rfl, rfl⟩ := added
    exact .known place searched rfl rfl
  | none =>
    simp only [bind_eq_ok, pure_eq_ok, Except.ok.injEq, Prod.mk.injEq] at added
    obtain ⟨address, reads, bytes, loaded, addressBuffer, stored, clients, placed, rfl, rfl⟩ := added
    obtain ⟨bound, rfl⟩ := storeCell_eq_ok.mp placed
    exact .new searched bound address bytes addressBuffer (deref_eq_ok.mp reads) loaded stored rfl rfl

/-- The client at `index` has the property list of the connecting one and another address. -/
def isDuplicateAt (host : SppHostEngine) (client : SppAddress) (index : Nat) : Except Fault Bool := do
  let known ← loadCell host.clients index
  if known.propertyListId = client.propertyListId then return !(← isClientAt host client index)
  else return false

/-- The host with the range of definitions of the client at `place` given to the client at `last`. -/
def withRange (host : SppHostEngine) (last place : Nat) (lastBound : last < sppConnectionsMax)
    (placeBound : place < sppConnectionsMax) : SppHostEngine :=
  { host with
    state := .ready
    propertyDefStart := host.propertyDefStart.set last host.propertyDefStart[place]
    propertyCount := host.propertyCount.set last host.propertyCount[place] }

/-- The range given to the last client in the table is the one of the last duplicate that is not
itself the last client. -/
inductive LoopOutcome (client : SppAddress) (first behind : Nat) (host host' : SppHostEngine)
    (status status' : SppStatus) : Prop where
  | alone (none : ∀ place, first ≤ place → place < behind → isDuplicateAt host client place = .ok false)
      (same : host' = host) (kept : status' = status)
  | duplicate (place : Nat) (low : first ≤ place) (high : place < behind)
      (lastBound : host.clientCount.toNat - 1 < sppConnectionsMax) (bound : place < sppConnectionsMax)
      (found : isDuplicateAt host client place = .ok true)
      (others : ∀ later, first ≤ later → later < behind → later ≠ host.clientCount.toNat - 1 →
        place < later ∨ place = host.clientCount.toNat - 1 → isDuplicateAt host client later = .ok false)
      (given : host' = withRange host (host.clientCount.toNat - 1) place lastBound bound)
      (marked : status' = sppStatusDuplicateClient)

theorem isDuplicateAt_withRange (client : SppAddress) (last place : Nat) (lastBound : last < sppConnectionsMax)
    (placeBound : place < sppConnectionsMax) (index : Nat) :
    isDuplicateAt (withRange host last place lastBound placeBound) client index = isDuplicateAt host client index :=
  rfl

theorem sppConnectLoop_step {client : SppAddress} {remaining i : Nat} {host host' : SppHostEngine}
    {status status' : SppStatus}
    (looped : sppConnectLoop client (remaining + 1) i host status = .ok (host', status')) :
    (isDuplicateAt host client i = .ok false ∧
        sppConnectLoop client remaining (i + 1) host status = .ok (host', status')) ∨
      ∃ (lastBound : host.clientCount.toNat - 1 < sppConnectionsMax) (bound : i < sppConnectionsMax),
        isDuplicateAt host client i = .ok true ∧
          sppConnectLoop client remaining (i + 1) (withRange host (host.clientCount.toNat - 1) i lastBound bound)
            sppStatusDuplicateClient = .ok (host', status') := by
  rw [sppConnectLoop, bind_eq_ok] at looped
  obtain ⟨known, here, looped⟩ := looped
  by_cases same : known.propertyListId = client.propertyListId
  · rw [if_pos same, bind_eq_ok] at looped
    obtain ⟨equal, compared, looped⟩ := looped
    have decided : isDuplicateAt host client i = .ok !equal := by
      rw [isDuplicateAt, here, ok_bind, if_pos same, compared]
      rfl
    cases equal with
    | true => exact .inl ⟨decided, looped⟩
    | false =>
      simp only [Bool.false_eq_true, if_false, bind_eq_ok] at looped
      obtain ⟨start, startHere, count, countHere, starts, startStored, counts, countStored, looped⟩ := looped
      obtain ⟨bound, rfl⟩ := loadCell_eq_ok.mp startHere
      obtain ⟨_, rfl⟩ := loadCell_eq_ok.mp countHere
      obtain ⟨lastBound, rfl⟩ := storeCell_eq_ok.mp startStored
      obtain ⟨_, rfl⟩ := storeCell_eq_ok.mp countStored
      exact .inr ⟨lastBound, bound, decided, looped⟩
  · rw [if_neg same] at looped
    refine .inl ⟨?_, looped⟩
    rw [isDuplicateAt, here, ok_bind, if_neg same]
    rfl

theorem sppConnectLoop_outcome {client : SppAddress} {remaining i : Nat} {host host' : SppHostEngine}
    {status status' : SppStatus} (inside : i + remaining ≤ host.clientCount.toNat)
    (looped : sppConnectLoop client remaining i host status = .ok (host', status')) :
    LoopOutcome client i (i + remaining) host host' status status' := by
  induction remaining generalizing i host status with
  | zero =>
    simp only [sppConnectLoop, Except.ok.injEq, Prod.mk.injEq] at looped
    obtain ⟨rfl, rfl⟩ := looped
    exact .alone (by omega) rfl rfl
  | succ remaining ih =>
    have range : i + 1 + remaining = i + (remaining + 1) := by omega
    rcases sppConnectLoop_step looped with ⟨fresh, rest⟩ | ⟨lastBound, bound, found, rest⟩
    · have later := ih (by omega) rest
      rw [range] at later
      cases later with
      | alone none same kept =>
        refine .alone (fun place low high => ?_) same kept
        rcases Nat.eq_or_lt_of_le low with rfl | low
        · exact fresh
        · exact none place low high
      | duplicate place low high lastBound bound found others given marked =>
        refine .duplicate place (by omega) high lastBound bound found ?_ given
          marked
        intro later low high apart beyond
        rcases Nat.eq_or_lt_of_le low with rfl | low
        · exact fresh
        · exact others later low high apart beyond
    · have later := ih (i := i + 1) (by simpa [withRange] using by omega) rest
      rw [range] at later
      cases later with
      | alone none same kept =>
        refine .duplicate i (Nat.le_refl _) (by omega) lastBound bound found ?_ same kept
        intro later low high apart beyond
        rcases Nat.eq_or_lt_of_le low with rfl | low
        · -- the first place is the last client only when nothing is behind it
          omega
        · exact none later low high
      | duplicate place low high _ placeBound again others given marked =>
        simp only [isDuplicateAt_withRange] at again others
        by_cases last : place = host.clientCount.toNat - 1
        · -- the last client copies from itself what it was given at `i`
          refine .duplicate i (Nat.le_refl _) (by omega) lastBound bound found ?_ ?_ marked
          · intro later low high apart beyond
            rcases Nat.eq_or_lt_of_le low with rfl | low
            · omega
            · exact others later low high apart (.inr last)
          · rw [given]
            simp [withRange, last]
        · refine .duplicate place (by omega) high lastBound placeBound again ?_ ?_ marked
          · intro later low high apart beyond
            have before : place < later := beyond.resolve_right last
            exact others later (by omega) high apart (.inl before)
          · have differs : host.clientCount.toNat - 1 ≠ place := fun same => last same.symm
            rw [given]
            simp [withRange, Vector.getElem_set_ne _ _ differs]

theorem sppConnectLoop_total {remaining i : Nat} {host : SppHostEngine} (inside : i + remaining ≤ sppConnectionsMax)
    (last : host.clientCount.toNat - 1 < sppConnectionsMax) (status : SppStatus) :
    ∃ host' status', sppConnectLoop client remaining i host status = .ok (host', status') := by
  induction remaining generalizing i host status with
  | zero => exact ⟨host, status, rfl⟩
  | succ remaining ih =>
    have bound : i < sppConnectionsMax := by omega
    rw [sppConnectLoop, loadCell_of_lt host.clients bound, ok_bind]
    by_cases same : host.clients[i].propertyListId = client.propertyListId
    · rw [if_pos same, isClientAt, loadCell_of_lt host.clients bound, ok_bind, pure_eq_ok, ok_bind]
      split
      · exact ih (i := i + 1) (by omega) last status
      · simp only [loadCell_of_lt host.propertyDefStart bound, loadCell_of_lt host.propertyCount bound, ok_bind,
          storeCell_of_lt host.propertyDefStart _ last, storeCell_of_lt host.propertyCount _ last]
        have last' : (withRange host (host.clientCount.toNat - 1) i last bound).clientCount.toNat - 1 <
            sppConnectionsMax := last
        exact ih (i := i + 1) (by omega) last' sppStatusDuplicateClient
    · rw [if_neg same]
      exact ih (i := i + 1) (by omega) last status

/-- Connecting is adding the client, then the loop over the clients that are there now. -/
theorem sppConnectToClient_outcome {effects : List HostEffect}
    (connected : sppConnectToClient host client = .ok (host', effects)) :
    ∃ added client' header status, AddOutcome host added client client' ∧
      sppFillMessageHeader added client' sppMsgConnectResponseId = .ok header ∧
      LoopOutcome client' 0 added.clientCount.toNat added host' sppStatusOk status ∧
      effects = [.sendMessage (header ++ [status])] := by
  unfold sppConnectToClient at connected
  simp only [bind_eq_ok, pure_eq_ok, Except.ok.injEq, Prod.mk.injEq, Prod.exists] at connected
  obtain ⟨added, client', add, header, filled, final, status, looped, rfl, rfl⟩ := connected
  have outcome := sppConnectLoop_outcome (Nat.zero_add _).le looped
  rw [Nat.zero_add] at outcome
  exact ⟨added, client', header, status, sppAddClient_outcome add, filled, outcome, rfl⟩

theorem AddOutcome.addressBuffer_length (outcome : AddOutcome host host' client client') :
    host'.addressBuffer.length = host.addressBuffer.length := by
  cases outcome with
  | known place found same pointer => rw [same]
  | new _ _ _ _ _ _ _ stored _ added =>
    obtain ⟨-, rfl⟩ := storeRange_eq_ok.mp stored
    rw [added, length_overwrite]

/-- What connecting leaves alone. -/
structure ConnectFrame (host host' : SppHostEngine) : Prop where
  defsBuffer : host'.defsBuffer = host.defsBuffer
  defsBufferUsed : host'.defsBufferUsed = host.defsBufferUsed
  defsBufferSize : host'.defsBufferSize = host.defsBufferSize
  addressLength : host'.addressLength = host.addressLength
  callbacks : host'.callbacks = host.callbacks
  hostAddress : host'.hostAddress = host.hostAddress
  streamCount : host'.streamCount = host.streamCount

theorem ConnectFrame.trans {first second third : SppHostEngine} (one : ConnectFrame first second)
    (two : ConnectFrame second third) : ConnectFrame first third where
  defsBuffer := two.defsBuffer.trans one.defsBuffer
  defsBufferUsed := two.defsBufferUsed.trans one.defsBufferUsed
  defsBufferSize := two.defsBufferSize.trans one.defsBufferSize
  addressLength := two.addressLength.trans one.addressLength
  callbacks := two.callbacks.trans one.callbacks
  hostAddress := two.hostAddress.trans one.hostAddress
  streamCount := two.streamCount.trans one.streamCount

theorem AddOutcome.frame (outcome : AddOutcome host host' client client') : ConnectFrame host host' := by
  cases outcome with
  | known place found same pointer => exact same ▸ ⟨rfl, rfl, rfl, rfl, rfl, rfl, rfl⟩
  | new _ _ _ _ _ _ _ _ _ added => exact added ▸ ⟨rfl, rfl, rfl, rfl, rfl, rfl, rfl⟩

theorem LoopOutcome.frame {first behind : Nat} {status status' : SppStatus}
    (outcome : LoopOutcome client first behind host host' status status') :
    ConnectFrame host host' ∧ host'.clients = host.clients ∧ host'.clientCount = host.clientCount ∧
      host'.addressBuffer = host.addressBuffer := by
  cases outcome with
  | alone none same kept => exact same ▸ ⟨⟨rfl, rfl, rfl, rfl, rfl, rfl, rfl⟩, rfl, rfl, rfl⟩
  | duplicate _ _ _ _ _ _ _ given _ => exact given ▸ ⟨⟨rfl, rfl, rfl, rfl, rfl, rfl, rfl⟩, rfl, rfl, rfl⟩

theorem sppConnectToClient_frame {effects : List HostEffect}
    (connected : sppConnectToClient host client = .ok (host', effects)) : ConnectFrame host host' := by
  obtain ⟨added, client', header, status, add, -, looped, -⟩ := sppConnectToClient_outcome connected
  exact add.frame.trans looped.frame.1

end Connecting

/-! ## Received definitions -/

/-- The host with the next definition, received from the client at `place`. -/
def withDefinition (host : SppHostEngine) (place : Nat) (bound : place < sppConnectionsMax)
    (copy : SppPropertyDefinition) (remaining : UInt8) : SppHostEngine :=
  { host with
    propertyCount := host.propertyCount.set place (host.propertyCount[place] + 1)
    defsBuffer := host.defsBuffer.set host.defsBufferUsed.toNat copy
    defsBufferUsed := host.defsBufferUsed + 1
    state := if remaining = 0 then .ready else host.state }

theorem next_ne (count : UInt16) : count + 1 ≠ count := by
  intro same
  have one : (1 : UInt16).toNat = 1 := rfl
  have wide := count.toNat_lt
  have equal := congrArg UInt16.toNat same
  rw [UInt16.toNat_add] at equal
  omega

section Unpacking
variable {host host' : SppHostEngine} {client : SppAddress} {body : List UInt8} {len : UInt16} {unset : Nat}

theorem sppGetClientIdx_total (host : SppHostEngine) (client : SppAddress) :
    ∃ found, sppGetClientIdx host client = .ok found := by
  let passes (known : SppAddress) : Bool := host.callbacks.areAddressesEqual
    (known.address.read host.addressBuffer) (client.address.read host.addressBuffer)
  have reads : ∀ (place : Nat) (known : SppAddress), host.clients.toList[place]? = some known →
      isClientAt host client place = .ok (passes known) := by
    intro place known here
    obtain ⟨within, same⟩ := List.getElem?_eq_some_iff.mp here
    have bound : place < sppConnectionsMax := by simpa using within
    have cell : host.clients[place] = known := by simpa using same
    rw [isClientAt, loadCell_of_lt host.clients bound, ok_bind, cell, pure_eq_ok]
  exact ⟨_, search_eq_findIdx passes 0 (by simp) reads⟩

theorem sppGetClientIdx_bound {place : Nat} (found : sppGetClientIdx host client = .ok (some place)) :
    place < sppConnectionsMax := by
  have range := (search_eq_some.mp found).2.1
  omega

structure DefinitionOutcome (host host' : SppHostEngine) (client : SppAddress) (body : List UInt8) (len : UInt16)
    (unset : Nat) : Prop where
  room : host.defsBufferUsed.toNat < host.defsBuffer.length
  short : (len - 6).toUInt8.toNat ≤ sppPropNameLengthMax
  stored : ∃ found bound copy remaining, sppGetClientIdx host client = .ok found ∧ body[1]? = some remaining ∧
    copy.nameLength = (len - 6).toUInt8 ∧ host' = withDefinition host (found.getD unset) bound copy remaining

theorem sppUnpackPropDef_outcome (unpacked : sppUnpackPropDef host client body len unset = .ok host') :
    DefinitionOutcome host host' client body len unset := by
  unfold sppUnpackPropDef at unpacked
  simp only [bind_eq_ok, pure_eq_ok, Except.ok.injEq] at unpacked
  obtain ⟨size, -, remaining, second, id, -, type, -, flags, -, found, searched, count, here, counts, counted, old,
    entry, bytes, loaded, name, named, rfl⟩ := unpacked
  obtain ⟨_, rfl⟩ := loadCell_eq_ok.mp here
  obtain ⟨bound, rfl⟩ := storeCell_eq_ok.mp counted
  have inside : host.defsBufferUsed.toNat < host.defsBuffer.length := load_within entry
  have length := loadRange_length loaded
  -- the copy of a longer name is out of bounds
  have short : (len - 6).toUInt8.toNat ≤ sppPropNameLengthMax := by
    by_contra long
    have outside : ¬0 + bytes.length ≤ sppPropNameLengthMax := by omega
    rw [storeCells, if_neg outside] at named
    cases named
  exact ⟨inside, short, found, bound, _, remaining, searched, load_eq_ok.mp second, rfl, rfl⟩

theorem sppUnpackPropDef_completes (unset : Nat) (inside : len.toNat ≤ body.length) {place : Nat}
    (known : sppGetClientIdx host client = .ok (some place))
    (room : host.defsBufferUsed.toNat < host.defsBuffer.length)
    (short : (len - 6).toUInt8.toNat ≤ sppPropNameLengthMax) :
    ∃ host', sppUnpackPropDef host client body len unset = .ok host' := by
  have six : (6 : UInt16).toNat = 6 := rfl
  have bound := sppGetClientIdx_bound known
  -- a body without room for the fields would have a name of at least 250 bytes
  have fields : 6 + (len - 6).toUInt8.toNat ≤ body.length := by
    have wide := len.toNat_lt
    have limit : (len - 6).toUInt8.toNat ≤ 32 := short
    rw [UInt16.toNat_toUInt8, UInt16.toNat_sub, six] at limit ⊢
    omega
  obtain ⟨bytes, loaded⟩ : ∃ bytes, loadRange body 6 (len - 6).toUInt8.toNat = .ok bytes :=
    ⟨_, by rw [loadRange, if_pos fields]⟩
  obtain ⟨name, named, -⟩ := storeCells_front (host.defsBuffer[host.defsBufferUsed.toNat].name)
    ((loadRange_length loaded).le.trans short)
  have id : load16 body 2 = .ok (UInt16.ofNat (body[2].toNat + 256 * body[3].toNat)) := by
    rw [load16, load_of_lt body 2 (by omega), ok_bind, load_of_lt body 3 (by omega), ok_bind,
      pure_eq_ok]
  exact ⟨_, bind_eq_ok.mpr ⟨_, load_of_lt _ _ (by omega), bind_eq_ok.mpr ⟨_, load_of_lt _ _ (by omega), bind_eq_ok.mpr
    ⟨_, id, bind_eq_ok.mpr ⟨_, load_of_lt _ _ (by omega), bind_eq_ok.mpr ⟨_, load_of_lt _ _ (by omega), bind_eq_ok.mpr
    ⟨_, known, bind_eq_ok.mpr ⟨_, loadCell_of_lt _ bound, bind_eq_ok.mpr ⟨_, storeCell_of_lt _ _ bound,
    bind_eq_ok.mpr ⟨_, load_of_lt _ _ room, bind_eq_ok.mpr ⟨bytes, loaded,
    bind_eq_ok.mpr ⟨name, named, rfl⟩⟩⟩⟩⟩⟩⟩⟩⟩⟩⟩⟩

end Unpacking

end TvcHopper.Spp
