import TvcHopper.Spp.ClientMessages

/-! What the client engine does with each message, for addresses of one byte.

One specification for every entry point, in terms of the message formats. The
stack contents disappear from every message but the list response, and the
memory behind a message is not looked at, except for the period of a stream.
-/

set_option autoImplicit false

namespace TvcHopper.Spp
open Machine

variable {σ : Type}

/-- A client with one-byte addresses: `address` is its own and `host` what its host buffer holds. -/
structure OneByteClient (client : SppClientEngine σ) (address : UInt8) : Prop where
  addressLength : client.addressLength = 1
  clientAddress : ∃ rest, client.clientAddress.address = .external (address :: rest)
  hostAddress : client.hostAddress.address = .permanent 0

def HostKnown (client : SppClientEngine σ) (host : UInt8) : Prop :=
  client.hostAddressBuffer.head? = some host

theorem OneByteClient.addressed {client : SppClientEngine σ} {address : UInt8} (one : OneByteClient client address)
    {receiver : SppAddress} {destination : UInt8}
    (reads : ∃ rest, receiver.address.deref client.hostAddressBuffer = .ok (destination :: rest)) :
    AddressedTo client receiver [address] [destination] := by
  obtain ⟨rest, own⟩ := one.clientAddress
  have length : 1 = client.addressLength.toNat := by
    rw [one.addressLength]
    rfl
  exact ⟨⟨rest, by rw [own]; rfl⟩, length, reads, length⟩

theorem HostKnown.addressed {client : SppClientEngine σ} {address host : UInt8} (known : HostKnown client host)
    (one : OneByteClient client address) : AddressedTo client client.hostAddress [address] [host] := by
  obtain ⟨rest, buffer⟩ := List.head?_eq_some_iff.mp known
  refine one.addressed ⟨rest, ?_⟩
  rw [one.hostAddress, buffer]
  rfl

theorem OneByteClient.header {client : SppClientEngine σ} {address : UInt8} (one : OneByteClient client address) :
    sppMsgHdrSize client.addressLength = 4 := congrArg sppMsgHdrSize one.addressLength

theorem bodyStart_one {client : SppClientEngine σ} (length : client.addressLength = 1) :
    Client.bodyStart client = 4 := by
  rw [Client.bodyStart, length]
  rfl

/-! ## Writing a message -/

section Writing
variable {client : SppClientEngine σ} {address host : UInt8}

theorem clientStart_spec {broadcast : UInt8} (one : OneByteClient client address)
    (reaches : ∃ rest, client.broadcastAddress.address = .external (broadcast :: rest)) (stack : Stack) :
    sppClientStart client stack = .ok (Message.connectRequest address broadcast client.propertyListId) := by
  obtain ⟨rest, reaches⟩ := reaches
  have addressed := one.addressed ⟨rest, congrArg (AddressPtr.deref client.hostAddressBuffer) reaches⟩
  exact clientStart_written addressed (by rw [one.header]; decide) stack

theorem setResponseMessage_spec (one : OneByteClient client address) (known : HostKnown client host)
    (stack : Nat → UInt8) (token : UInt8) :
    Client.setResponseMessage client stack token = .ok (Message.setResponse address host token) :=
  setResponseMessage_written (known.addressed one) (by rw [one.header]; decide) stack token

theorem getResponseMessage_spec (one : OneByteClient client address) (known : HostKnown client host)
    (stack : Nat → UInt8) (pd : SppPropertyDefinition) (token : UInt8) (id : UInt16) {value : List UInt8}
    (fits : value.length ≤ pd.size.toNat) :
    ∃ behind, value.length + behind.length = pd.size.toNat ∧
      Client.getResponseMessage client stack pd token id value =
        .ok (Message.getResponse address host token pd.size id (value ++ behind)) :=
  getResponseMessage_written (known.addressed one) (by rw [one.header]; decide) stack pd token id fits

theorem streamMessage_spec (one : OneByteClient client address) (known : HostKnown client host) (stack : Nat → UInt8)
    {s : SppStream} {place : Nat} {pd : SppPropertyDefinition} (defined : s.definition = some place)
    (here : client.properties[place]? = some pd)
    (whole : (client.callbacks.getValue client.instanceData pd.id).2.1.length = pd.size.toNat) (timestamp : UInt32) :
    streamMessage client stack s timestamp =
      .ok ((client.callbacks.getValue client.instanceData pd.id).1,
        Message.stream address host s.streamId timestamp
          (client.callbacks.getValue client.instanceData pd.id).2.1) :=
  streamMessage_written (known.addressed one) stack defined here whole timestamp

/-- The last byte of the message is the one the array had there. -/
theorem propertyListMessage_spec (one : OneByteClient client address) (known : HostKnown client host)
    (stack : Nat → UInt8) (numBytes : UInt16) :
    ∃ unset, Client.propertyListMessage client stack numBytes =
      .ok (Message.listResponse address host client.propertyCount.toUInt8 numBytes unset) :=
  propertyListMessage_written (known.addressed one) (by rw [one.header]; decide) stack numBytes

theorem propertyDefinitionMessage_spec (one : OneByteClient client address) (known : HostKnown client host)
    (stack : Nat → UInt8) {pd : SppPropertyDefinition} (terminated : 0 ∈ pd.name.toList) {propsRemaining : UInt16}
    (few : ¬propsRemaining > 0xFF) :
    Client.propertyDefinitionMessage client stack pd propsRemaining =
      .ok (Message.definition address host pd propsRemaining.toUInt8 (sentName pd.name)) := by
  rw [propertyDefinitionMessage_written (known.addressed one) one.header stack terminated, if_neg few]
  rfl

end Writing

/-! ## The property list -/

def sentDefinitions (address host : UInt8) : List SppPropertyDefinition → List (List UInt8)
  | [] => []
  | pd :: rest => Message.definition address host pd (UInt8.ofNat rest.length) (sentName pd.name) ::
      sentDefinitions address host rest

@[simp] theorem length_sentDefinitions (address host : UInt8) (properties : List SppPropertyDefinition) :
    (sentDefinitions address host properties).length = properties.length := by
  induction properties with
  | nil => rfl
  | cons pd rest ih => rw [sentDefinitions, List.length_cons, List.length_cons, ih]

theorem getElem_sentDefinitions (address host : UInt8) {properties : List SppPropertyDefinition} {i : Nat}
    (within : i < properties.length) :
    (sentDefinitions address host properties)[i]? =
      some (Message.definition address host properties[i] (UInt8.ofNat (properties.length - (i + 1)))
        (sentName properties[i].name)) := by
  induction properties generalizing i with
  | nil => simp at within
  | cons pd rest ih =>
    cases i with
    | zero => simp [sentDefinitions]
    | succ i =>
      rw [sentDefinitions, List.getElem?_cons_succ, ih (by simpa using within)]
      simp [Nat.add_sub_add_right]

/-- A property list the protocol can carry. -/
structure ListedProperties (client : SppClientEngine σ) : Prop where
  count : client.propertyCount.toNat = client.properties.length
  short : client.properties.length ≤ 255
  names : ∀ pd ∈ client.properties, 0 ∈ pd.name.toList

theorem propsRemaining_toNat {client : SppClientEngine σ}
    (count : client.propertyCount.toNat = client.properties.length) {i : Nat} (within : i < client.properties.length) :
    (client.propertyCount - UInt16.ofNat i - 1).toNat = client.properties.length - (i + 1) := by
  have small := client.propertyCount.toNat_lt
  have one : (1 : UInt16).toNat = 1 := rfl
  have index : (UInt16.ofNat i).toNat = i := toNat_ofNat16 (by omega)
  rw [UInt16.toNat_sub, UInt16.toNat_sub, index, count]
  omega

theorem sendDefinitions_spec {client : SppClientEngine σ} {address host : UInt8}
    (one : OneByteClient client address) (known : HostKnown client host) (listed : ListedProperties client)
    (stack : Stack) (list : List UInt8) :
    loop8 (Client.sendDefinition client stack) client.propertyCount.toNat [list] =
      .ok (list :: sentDefinitions address host client.properties) := by
  have count := listed.count
  have short := listed.short
  -- after `i` passes the list message and the first `i` definitions are sent
  have pass : ∀ i sent, 0 ≤ i → i < 0 + client.properties.length →
      sent = list :: (sentDefinitions address host client.properties).take i →
      ∃ sent', Client.sendDefinition client stack i sent = .ok sent' ∧
        sent' = list :: (sentDefinitions address host client.properties).take (i + 1) := by
    rintro i sent - below rfl
    have within : i < client.properties.length := by omega
    have here := load_of_lt client.properties i within
    have remaining := propsRemaining_toNat count within
    have few : ¬client.propertyCount - UInt16.ofNat i - 1 > 0xFF := by
      have bound : (0xFF : UInt16).toNat = 255 := rfl
      rw [gt_iff_lt, UInt16.lt_iff_toNat_lt, remaining, bound]
      omega
    have byte : (client.propertyCount - UInt16.ofNat i - 1).toUInt8 =
        UInt8.ofNat (client.properties.length - (i + 1)) := by
      rw [← remaining]
      rfl
    refine ⟨_, ?_, rfl⟩
    rw [Client.sendDefinition, here, ok_bind,
      propertyDefinitionMessage_spec one known _ (listed.names _ (List.getElem_mem within)) few, ok_bind, byte,
      List.take_add_one, getElem_sentDefinitions address host within]
    simp
  have start : [list] = list :: (sentDefinitions address host client.properties).take 0 := by simp
  obtain ⟨sent, sends, done⟩ := loop_ok
    (fun i sent => sent = list :: (sentDefinitions address host client.properties).take i) start pass
  rw [loop8, if_pos (by omega), count, sends, done, Nat.zero_add, List.take_of_length_le]
  rw [length_sentDefinitions]

theorem addSizes_spec {client : SppClientEngine σ} (listed : ListedProperties client) :
    ∃ numBytes, loop8 (Client.addSize client) client.propertyCount.toNat 0 = .ok numBytes := by
  have count := listed.count
  have short := listed.short
  have pass : ∀ i numBytes, 0 ≤ i → i < 0 + client.properties.length → True →
      ∃ next, Client.addSize client i numBytes = .ok next ∧ True := by
    rintro i numBytes - below -
    have within : i < client.properties.length := by omega
    have here := load_of_lt client.properties i within
    exact ⟨_, by rw [Client.addSize, here, ok_bind, pure_eq_ok], trivial⟩
  have start : True := trivial
  obtain ⟨numBytes, sums, -⟩ := loop_ok (fun _ _ => True) start pass
  exact ⟨numBytes, by rw [loop8, if_pos (by omega), count, sums]⟩

/-! ## Received messages -/

section Received
variable {client : SppClientEngine σ} {address : UInt8}

theorem clientProcess_one (one : OneByteClient client address) (msgId first second : UInt8)
    (body : List UInt8) {len : UInt16} (long : 4 ≤ len.toNat) (stack : Stack) :
    sppClientProcessMessage client (sppMsgSyncWord :: msgId :: first :: second :: body) len stack =
      sppDispatchMessage client [first] msgId (sppMsgSyncWord :: msgId :: first :: second :: body) stack := by
  have notShort : ¬len.toNat < 4 := by omega
  simp only [sppClientProcessMessage, one.addressLength, sppMsgHdrSize_one, if_neg notShort, load_cons_zero,
    load_cons_succ, ok_bind, ne_eq, not_true_eq_false, if_false, toNat_one]
  rfl

/-- A connect response with status OK makes the client send its list. -/
theorem client_connectResponse (one : OneByteClient client address) (listed : ListedProperties client)
    (buffer : client.hostAddressBuffer ≠ []) (host : UInt8) (trailing : List UInt8) (stack : Stack) :
    ∃ client' numBytes unset,
      sppClientProcessMessage client (Message.connectResponse host address sppStatusOk ++ trailing) 5 stack =
        .ok (client', Message.listResponse address host client.propertyCount.toUInt8 numBytes unset ::
          sentDefinitions address host client.properties, sppStatusOk) ∧
      client' = { client with hostAddressBuffer := host :: client.hostAddressBuffer.tail } := by
  obtain ⟨old, rest, whole⟩ := List.exists_cons_of_ne_nil buffer
  let client' := { client with hostAddressBuffer := host :: client.hostAddressBuffer.tail }
  have one' : OneByteClient client' address := ⟨one.addressLength, one.clientAddress, one.hostAddress⟩
  have listed' : ListedProperties client' := ⟨listed.count, listed.short, listed.names⟩
  have known' : HostKnown client' host := rfl
  obtain ⟨numBytes, sums⟩ := addSizes_spec listed'
  obtain ⟨unset, list⟩ := propertyListMessage_spec one' known' (stack 0) numBytes
  refine ⟨client', numBytes, unset, ?_, rfl⟩
  have stored : storeRange client.hostAddressBuffer 0 [host] = .ok (host :: client.hostAddressBuffer.tail) := by
    simp [whole, storeRange, overwrite]
  have notDuplicate : sppStatusOk ≠ sppStatusDuplicateClient := by decide
  have notBusy : sppStatusOk ≠ sppStatusBusy := by decide
  have status : load (Message.connectResponse host address sppStatusOk ++ trailing)
      (sppMsgHdrSize client.addressLength) = .ok sppStatusOk := by
    rw [one.addressLength]
    rfl
  have processed : sppClientProcessMessage client
      (Message.connectResponse host address sppStatusOk ++ trailing) 5 stack =
      sppSendPropertyList client (Message.connectResponse host address sppStatusOk ++ trailing) [host] stack :=
    clientProcess_one one _ _ _ _ (by decide) _
  rw [processed]
  simp only [sppSendPropertyList, stored, ok_bind, status, if_neg notDuplicate, if_neg notBusy]
  exact bind_eq_ok.mpr ⟨numBytes, sums, bind_eq_ok.mpr ⟨_, list, bind_eq_ok.mpr ⟨_,
    sendDefinitions_spec one' known' listed' stack _, rfl⟩⟩⟩

theorem client_refused (one : OneByteClient client address) (buffer : client.hostAddressBuffer ≠ [])
    {status : SppStatus} (refused : status = sppStatusDuplicateClient ∨ status = sppStatusBusy) (host : UInt8)
    (trailing : List UInt8) (stack : Stack) :
    ∃ client' status',
      sppClientProcessMessage client (Message.connectResponse host address status ++ trailing) 5 stack =
        .ok (client', [], status') := by
  obtain ⟨old, rest, whole⟩ := List.exists_cons_of_ne_nil buffer
  have stored : storeRange client.hostAddressBuffer 0 [host] = .ok (host :: client.hostAddressBuffer.tail) := by
    simp [whole, storeRange, overwrite]
  have read : load (Message.connectResponse host address status ++ trailing) (sppMsgHdrSize client.addressLength) =
      .ok status := by
    rw [one.addressLength]
    rfl
  have processed : sppClientProcessMessage client (Message.connectResponse host address status ++ trailing) 5 stack =
      sppSendPropertyList client (Message.connectResponse host address status ++ trailing) [host] stack :=
    clientProcess_one one _ _ _ _ (by decide) _
  rw [processed]
  simp only [sppSendPropertyList, stored, ok_bind, read]
  rcases refused with rfl | rfl
  · exact ⟨_, _, rfl⟩
  · exact ⟨_, _, rfl⟩

theorem client_getRequest (one : OneByteClient client address) {host : UInt8} (known : HostKnown client host)
    (token : UInt8) {id : UInt16} {place : Nat} {pd : SppPropertyDefinition}
    (found : Client.sppGetDefinition client id = .ok (some place))
    (here : client.properties[place]? = some pd)
    (fits : (client.callbacks.getValue client.instanceData id).2.1.length ≤ pd.size.toNat)
    (trailing : List UInt8) (stack : Stack) :
    ∃ behind, (client.callbacks.getValue client.instanceData id).2.1.length + behind.length = pd.size.toNat ∧
      sppClientProcessMessage client (Message.getRequest host address token id ++ trailing) 7 stack =
        .ok ({ client with instanceData := (client.callbacks.getValue client.instanceData id).1 },
          [Message.getResponse address host token pd.size id
            ((client.callbacks.getValue client.instanceData id).2.1 ++ behind)], sppStatusOk) := by
  obtain ⟨behind, length, filled⟩ := getResponseMessage_spec one known (stack 0) pd token id fits
  have processed : sppClientProcessMessage client (Message.getRequest host address token id ++ trailing) 7 stack =
      sppProcessGetRequest client (Message.getRequest host address token id ++ trailing) stack :=
    clientProcess_one one _ _ _ _ (by decide) _
  have read : load16 (Message.getRequest host address token id ++ trailing) 5 = .ok id :=
    load16_bytes16 id trailing
  refine ⟨behind, length, ?_⟩
  rw [processed, sppProcessGetRequest, bodyStart_one one.addressLength]
  refine bind_eq_ok.mpr ⟨token, rfl, bind_eq_ok.mpr ⟨id, read, bind_eq_ok.mpr ⟨some place, found, ?_⟩⟩⟩
  exact bind_eq_ok.mpr ⟨pd, load_eq_ok.mpr here, bind_eq_ok.mpr ⟨_, filled, rfl⟩⟩

/-- A set request hands over the memory from the value on and is answered. -/
theorem client_setRequest (one : OneByteClient client address) {host : UInt8} (known : HostKnown client host)
    (token size : UInt8) (id : UInt16) (value trailing : List UInt8) {len : UInt16} (long : 4 ≤ len.toNat)
    (stack : Stack) :
    sppClientProcessMessage client (Message.setRequest host address token size id value ++ trailing) len stack =
      .ok ({ client with
          instanceData := (client.callbacks.setValue client.instanceData id (value ++ trailing)).1 },
        [Message.setResponse address host token], sppStatusOk) := by
  have processed : sppClientProcessMessage client
      (Message.setRequest host address token size id value ++ trailing) len stack =
      sppProcessSetRequest client (Message.setRequest host address token size id value ++ trailing) stack :=
    clientProcess_one one _ _ _ _ long _
  have read : load16 (Message.setRequest host address token size id value ++ trailing) 6 = .ok id :=
    (congrArg (load16 · 0) (List.append_assoc (bytes16 id) value trailing)).trans (load16_bytes16 id _)
  have behind : (Message.setRequest host address token size id value ++ trailing).drop 8 = value ++ trailing := rfl
  rw [processed, sppProcessSetRequest, bodyStart_one one.addressLength]
  refine bind_eq_ok.mpr ⟨token, rfl, bind_eq_ok.mpr ⟨size, rfl, bind_eq_ok.mpr ⟨id, read, ?_⟩⟩⟩
  exact bind_eq_ok.mpr ⟨_, setResponseMessage_spec one known (stack 0) token, rfl⟩

/-- The client with a stream in the next place of its table. -/
def openStream (client : SppClientEngine σ) (found : Option Nat) (streamType streamId : UInt8) (period : UInt16)
    (bound : client.streamCount.toNat < sppStreamMaxCount) : SppClientEngine σ :=
  { client with
    streams := client.streams.set client.streamCount.toNat
      { client.streams[client.streamCount.toNat] with
        definition := found.or client.streams[client.streamCount.toNat].definition
        streamId
        streamType
        period := period.toUInt32
        elapsedTime := 0 }
    streamCount := client.streamCount + 1 }

/-- A stream request is never answered. The high byte of the period is read behind the message. -/
theorem client_streamRequest (one : OneByteClient client address)
    {host token streamType streamId : UInt8} {id period : UInt16} {trailing : List UInt8} {len : UInt16}
    (long : 4 ≤ len.toNat) {stack : Stack} {client' : SppClientEngine σ} {sent : List (List UInt8)}
    {status : SppStatus}
    (done : sppClientProcessMessage client
      (Message.streamRequest host address token streamType streamId id period ++ trailing) len stack =
        .ok (client', sent, status)) :
    sent = [] ∧ status = sppStatusOk ∧
      ∃ found period' bound, Client.sppGetDefinition client id = .ok found ∧
        client' = openStream client found streamType streamId period' bound := by
  have processed : sppClientProcessMessage client
      (Message.streamRequest host address token streamType streamId id period ++ trailing) len stack =
      sppProcessStreamRequest client
        (Message.streamRequest host address token streamType streamId id period ++ trailing) :=
    clientProcess_one one _ _ _ _ long _
  have read : load16 (Message.streamRequest host address token streamType streamId id period ++ trailing) 7 =
      .ok id := load16_bytes16 id ((bytes16 period).take 1 ++ trailing)
  rw [processed, sppProcessStreamRequest, bodyStart_one one.addressLength] at done
  obtain ⟨_, token', done⟩ := bind_eq_ok.mp done
  obtain ⟨_, type', done⟩ := bind_eq_ok.mp done
  obtain ⟨_, id', done⟩ := bind_eq_ok.mp done
  cases token'
  cases type'
  cases id'
  obtain ⟨_, read', done⟩ := bind_eq_ok.mp done
  obtain rfl := Except.ok.inj (read.symm.trans read')
  simp only [bind_eq_ok, pure_eq_ok, Except.ok.injEq, Prod.mk.injEq] at done
  obtain ⟨period', -, old, here, found, looked, streams, stored, rfl, rfl, rfl⟩ := done
  obtain ⟨bound, rfl⟩ := loadCell_eq_ok.mp here
  obtain ⟨-, rfl⟩ := storeCell_eq_ok.mp stored
  exact ⟨rfl, rfl, found, period', bound, looked, rfl⟩

theorem client_streamRequest_returns (one : OneByteClient client address) {host token streamType streamId : UInt8}
    {id period : UInt16} {trailing : List UInt8} {len : UInt16} (long : 4 ≤ len.toNat)
    (bound : client.streamCount.toNat < sppStreamMaxCount) {found : Option Nat}
    (looked : Client.sppGetDefinition client id = .ok found) (stack : Stack) :
    (∃ result, sppClientProcessMessage client
        (Message.streamRequest host address token streamType streamId id period ++ trailing) len stack =
          .ok result) ↔ trailing ≠ [] := by
  have processed : sppClientProcessMessage client
      (Message.streamRequest host address token streamType streamId id period ++ trailing) len stack =
      sppProcessStreamRequest client
        (Message.streamRequest host address token streamType streamId id period ++ trailing) :=
    clientProcess_one one _ _ _ _ long _
  have length : (Message.streamRequest host address token streamType streamId id period ++ trailing).length =
      10 + trailing.length := List.length_append
  have read : load16 (Message.streamRequest host address token streamType streamId id period ++ trailing) 7 =
      .ok id := load16_bytes16 id ((bytes16 period).take 1 ++ trailing)
  rw [processed, sppProcessStreamRequest, bodyStart_one one.addressLength]
  constructor
  · rintro ⟨result, done⟩ rfl
    obtain ⟨_, -, done⟩ := bind_eq_ok.mp done
    obtain ⟨_, -, done⟩ := bind_eq_ok.mp done
    obtain ⟨_, -, done⟩ := bind_eq_ok.mp done
    obtain ⟨_, -, done⟩ := bind_eq_ok.mp done
    obtain ⟨period', read', -⟩ := bind_eq_ok.mp done
    have within := load16_within read'
    rw [length] at within
    exact absurd within (by decide)
  · intro behind
    have within : 9 + 2 ≤ (Message.streamRequest host address token streamType streamId id period ++
        trailing).length := by
      have more := List.length_pos_iff.mpr behind
      omega
    obtain ⟨period', read'⟩ := load16_of_within _ 9 within
    refine ⟨(openStream client found streamType streamId period' bound, [], sppStatusOk), ?_⟩
    refine bind_eq_ok.mpr ⟨token, rfl, bind_eq_ok.mpr ⟨streamType, rfl, bind_eq_ok.mpr ⟨streamId, rfl,
      bind_eq_ok.mpr ⟨id, read, bind_eq_ok.mpr ⟨period', read', ?_⟩⟩⟩⟩⟩
    rw [loadCell_of_lt _ bound, ok_bind, looked, ok_bind, storeCell_of_lt _ _ bound]
    rfl

end Received

/-! ## Looking up a property -/

theorem sppGetDefinition_found {client : SppClientEngine σ} (listed : ListedProperties client) {id : UInt16}
    {pd : SppPropertyDefinition} (first : client.properties.find? (·.id == id) = some pd) :
    ∃ place, Client.sppGetDefinition client id = .ok (some place) ∧ client.properties[place]? = some pd := by
  have count := listed.count
  have short := listed.short
  have reads : ∀ (place : Nat) (value : SppPropertyDefinition), client.properties[place]? = some value →
      (do return (← load client.properties place).id = id : Except Fault Bool) = .ok (value.id == id) := by
    intro place value found
    rw [load_eq_ok.mpr found, ok_bind]
    rfl
  have searches := search_eq_findIdx (fun pd : SppPropertyDefinition => pd.id == id) 0
    (by omega : 0 + client.properties.length ≤ client.properties.length) reads
  rw [List.drop_zero, List.take_length] at searches
  rw [List.find?_eq_bind_findIdx?_getElem?] at first
  obtain ⟨place, found, here⟩ := Option.bind_eq_some_iff.mp first
  refine ⟨place, ?_, here⟩
  rw [Client.sppGetDefinition, search8, if_pos (by omega), count]
  refine searches.trans ?_
  rw [found]
  simp

end TvcHopper.Spp
