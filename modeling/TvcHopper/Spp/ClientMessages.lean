import TvcHopper.Spp.Client
import TvcHopper.Spp.Messages

/-! The messages that the client writes, for addresses of any length.

A message is its header, what is stored behind it, and what the array held
behind that. The sizes and indices that the source keeps in a `uint8_t` bound
the length of the addresses.
-/

set_option autoImplicit false

namespace TvcHopper.Spp
open Machine

variable {σ : Type}

/-- What stands behind the pointers to the client's own address and to the receiver's. -/
structure AddressedTo (client : SppClientEngine σ) (receiver : SppAddress) (own destination : List UInt8) : Prop where
  sender : ∃ rest, client.clientAddress.address.deref client.hostAddressBuffer = .ok (own ++ rest)
  ownLength : own.length = client.addressLength.toNat
  receiver : ∃ rest, receiver.address.deref client.hostAddressBuffer = .ok (destination ++ rest)
  destinationLength : destination.length = client.addressLength.toNat

/-! ## Places -/

section Places
variable {client : SppClientEngine σ}

theorem messageLength_eq {body : Nat} (fits : sppMsgHdrSize client.addressLength + body < 256) :
    Client.messageLength client body = sppMsgHdrSize client.addressLength + body := by
  rw [Client.messageLength, messageSize, UInt8.toNat_ofNat']
  omega

theorem bodyStart_add (k : Nat) (fits : sppMsgHdrSize client.addressLength + k < 256) :
    (Client.bodyStart client + UInt8.ofNat k).toNat = sppMsgHdrSize client.addressLength + k := by
  rw [Client.bodyStart, UInt8.toNat_add, UInt8.toNat_ofNat', UInt8.toNat_ofNat']
  omega

theorem bodyStart_toNat (fits : sppMsgHdrSize client.addressLength < 256) :
    (Client.bodyStart client).toNat = sppMsgHdrSize client.addressLength := by
  rw [Client.bodyStart, UInt8.toNat_ofNat']
  omega

end Places

/-! ## Messages -/

section Messages
variable {client : SppClientEngine σ} {receiver : SppAddress} {own destination : List UInt8}

/-- A message is its header, what is stored behind it, and what the array held behind that. -/
theorem message_stored (addressed : AddressedTo client receiver own destination) (stack : Nat → UInt8) {size : Nat}
    (messageId : UInt8) (values : List (List UInt8))
    (room : sppMsgHdrSize client.addressLength + values.flatten.length ≤ size) :
    ∃ behind, sppMsgHdrSize client.addressLength + values.flatten.length + behind.length = size ∧
      (Client.sppFillMessageHeader client (localArray stack size) receiver client.clientAddress messageId >>=
          fun msg => storeAll msg (sppMsgHdrSize client.addressLength) values) =
        .ok (sppMsgSyncWord :: messageId :: (own ++ destination ++ (values.flatten ++ behind))) := by
  obtain ⟨rest, reads⟩ := addressed.sender
  obtain ⟨others, reads'⟩ := addressed.receiver
  have whole : (sppMsgSyncWord :: messageId :: (own ++ destination)).length = sppMsgHdrSize client.addressLength := by
    simp only [List.length_cons, List.length_append, addressed.ownLength, addressed.destinationLength, sppMsgHdrSize]
    omega
  obtain ⟨msg, stored, same, start⟩ := storeRange_extends
    (sppMsgSyncWord :: messageId :: (own ++ destination)) (List.nil_prefix (l := localArray stack size))
    (by rw [whole, length_localArray, List.length_nil]; omega)
  rw [length_localArray] at same
  have header : Client.sppFillMessageHeader client (localArray stack size) receiver client.clientAddress
      messageId = .ok msg := by
    rw [Client.sppFillMessageHeader, reads', ok_bind, reads, ok_bind,
      messageHeader_eq addressed.ownLength addressed.destinationLength, ok_bind]
    exact stored
  rw [List.nil_append] at start
  obtain ⟨final, stores, same', behind, appended⟩ := storeAll_extends values start
    (by rw [whole, same]; exact room)
  refine ⟨behind, ?_, ?_⟩
  · rw [← same, ← same', ← appended, List.length_append, List.length_append, whole]
  · rw [header, ok_bind, ← whole, stores, ← appended]
    simp

theorem message_filled (addressed : AddressedTo client receiver own destination) (stack : Nat → UInt8) {size : Nat}
    (messageId : UInt8) (values : List (List UInt8))
    (full : sppMsgHdrSize client.addressLength + values.flatten.length = size) :
    (Client.sppFillMessageHeader client (localArray stack size) receiver client.clientAddress messageId >>=
        fun msg => storeAll msg (sppMsgHdrSize client.addressLength) values) =
      .ok (sppMsgSyncWord :: messageId :: (own ++ destination ++ values.flatten)) := by
  obtain ⟨behind, total, filled⟩ := message_stored addressed stack messageId values full.le
  obtain rfl : behind = [] := List.length_eq_zero_iff.mp (by omega)
  rwa [List.append_nil] at filled

theorem clientStart_written (addressed : AddressedTo client client.broadcastAddress own destination)
    (fits : sppMsgHdrSize client.addressLength + 2 < 256) (stack : Stack) :
    sppClientStart client stack =
      .ok (sppMsgSyncWord :: sppMsgConnectRequestBcId :: (own ++ destination ++ bytes16 client.propertyListId)) := by
  unfold sppClientStart
  rw [messageLength_eq fits, bodyStart_toNat (by omega)]
  exact message_filled addressed (stack 0) sppMsgConnectRequestBcId [bytes16 client.propertyListId] rfl

theorem setResponseMessage_written (addressed : AddressedTo client client.hostAddress own destination)
    (fits : sppMsgHdrSize client.addressLength + 2 < 256) (stack : Nat → UInt8) (token : UInt8) :
    Client.setResponseMessage client stack token =
      .ok (sppMsgSyncWord :: sppMsgSetResponseId :: (own ++ destination ++ [token, sppStatusOk])) := by
  have second : (Client.bodyStart client + 1).toNat = sppMsgHdrSize client.addressLength + 1 :=
    bodyStart_add 1 (by omega)
  unfold Client.setResponseMessage
  rw [messageLength_eq fits]
  simp only [bodyStart_toNat (show sppMsgHdrSize client.addressLength < 256 by omega), second]
  exact message_filled addressed stack sppMsgSetResponseId [[token], [sppStatusOk]] rfl

theorem getResponseMessage_written (addressed : AddressedTo client client.hostAddress own destination)
    (fits : sppMsgHdrSize client.addressLength + 5 < 256) (stack : Nat → UInt8) (pd : SppPropertyDefinition)
    (token : UInt8) (id : UInt16) {value : List UInt8} (short : value.length ≤ pd.size.toNat) :
    ∃ behind, value.length + behind.length = pd.size.toNat ∧
      Client.getResponseMessage client stack pd token id value =
        .ok (sppMsgSyncWord :: sppMsgGetResponseId :: (own ++ destination ++
          (token :: sppStatusOk :: pd.size :: (bytes16 id ++ (value ++ behind))))) := by
  have second : (Client.bodyStart client + 1).toNat = sppMsgHdrSize client.addressLength + 1 :=
    bodyStart_add 1 (by omega)
  have third : (Client.bodyStart client + 2).toNat = sppMsgHdrSize client.addressLength + 2 :=
    bodyStart_add 2 (by omega)
  have fourth : (Client.bodyStart client + 3).toNat = sppMsgHdrSize client.addressLength + 3 :=
    bodyStart_add 3 (by omega)
  have fifth : (Client.bodyStart client + 5).toNat = sppMsgHdrSize client.addressLength + 5 := bodyStart_add 5 fits
  have length : ([[token], [sppStatusOk], [pd.size], bytes16 id, value] : List (List UInt8)).flatten.length =
      5 + value.length := by
    simp only [List.flatten_cons, List.flatten_nil, List.length_append, List.length_cons, List.length_nil,
      length_bytes16]
    omega
  have size : messageSize (sppMsgGetResponseBaseSize + pd.size.toNat) client.addressLength =
      sppMsgHdrSize client.addressLength + (5 + pd.size.toNat) := Nat.add_comm _ _
  obtain ⟨behind, total, filled⟩ := message_stored addressed stack sppMsgGetResponseId
    [[token], [sppStatusOk], [pd.size], bytes16 id, value]
    (by rw [length]; omega : _ ≤ sppMsgHdrSize client.addressLength + (5 + pd.size.toNat))
  rw [length] at total
  refine ⟨behind, by omega, ?_⟩
  unfold Client.getResponseMessage
  simp only [size, bodyStart_toNat (show sppMsgHdrSize client.addressLength < 256 by omega), second, third, fourth,
    fifth]
  refine filled.trans ?_
  simp

/-- The last byte of the array is never written. -/
theorem propertyListMessage_written (addressed : AddressedTo client client.hostAddress own destination)
    (fits : sppMsgHdrSize client.addressLength + 4 < 256) (stack : Nat → UInt8) (numBytes : UInt16) :
    ∃ unset, Client.propertyListMessage client stack numBytes =
      .ok (sppMsgSyncWord :: sppMsgPropListResponseId :: (own ++ destination ++
        (client.propertyCount.toUInt8 :: (bytes16 numBytes ++ [unset])))) := by
  have second : (Client.bodyStart client + 1).toNat = sppMsgHdrSize client.addressLength + 1 :=
    bodyStart_add 1 (by omega)
  obtain ⟨behind, total, filled⟩ := message_stored addressed stack sppMsgPropListResponseId
    [[client.propertyCount.toUInt8], bytes16 numBytes] (Nat.le_succ (sppMsgHdrSize client.addressLength + 3))
  obtain ⟨unset, rfl⟩ := List.length_eq_one_iff.mp (Nat.add_left_cancel total)
  refine ⟨unset, ?_⟩
  unfold Client.propertyListMessage
  rw [messageLength_eq fits]
  simp only [bodyStart_toNat (show sppMsgHdrSize client.addressLength < 256 by omega), second]
  exact filled

theorem strlen_ok {name : Vector UInt8 sppPropNameLengthMax} (terminated : 0 ∈ name.toList) :
    strlen name = .ok (nameLength name) := by
  have found : name.toList.findIdx? (· == 0) = some (nameLength name) := by
    rw [List.findIdx?_eq_some_iff_findIdx_eq]
    exact ⟨by simpa using nameLength_lt terminated, rfl⟩
  simp only [strlen, found]

/-- The fixed places are those behind the header of addresses of one byte. -/
theorem propertyDefinitionMessage_written (addressed : AddressedTo client client.hostAddress own destination)
    (four : sppMsgHdrSize client.addressLength = 4) (stack : Nat → UInt8) {pd : SppPropertyDefinition}
    (terminated : 0 ∈ pd.name.toList) (propsRemaining : UInt16) :
    Client.propertyDefinitionMessage client stack pd propsRemaining =
      .ok (sppMsgSyncWord :: sppMsgPropDefId :: (own ++ destination ++
        (pd.size :: (if propsRemaining > 0xFF then 0xFF else propsRemaining.toUInt8) ::
          (bytes16 pd.id ++ pd.type :: pd.flags :: sentName pd.name)))) := by
  have short : nameLength pd.name < 32 := nameLength_lt terminated
  have sent := length_sentName terminated
  have fits : sppMsgHdrSize client.addressLength + (sppMsgPropDefSize + nameLength pd.name + 1) < 256 := by
    rw [four]
    simp only [sppMsgPropDefSize]
    omega
  have filled := message_filled addressed stack sppMsgPropDefId
    [[pd.size], [if propsRemaining > 0xFF then 0xFF else propsRemaining.toUInt8], bytes16 pd.id, [pd.type], [pd.flags],
      sentName pd.name] rfl
  have full : ([[pd.size], [if propsRemaining > 0xFF then 0xFF else propsRemaining.toUInt8], bytes16 pd.id, [pd.type],
      [pd.flags], sentName pd.name] : List (List UInt8)).flatten.length =
        sppMsgPropDefSize + nameLength pd.name + 1 := by
    simp only [List.flatten_cons, List.flatten_nil, List.length_append, List.length_cons, List.length_nil,
      length_bytes16, sent, sppMsgPropDefSize]
    omega
  unfold Client.propertyDefinitionMessage
  rw [strlen_ok terminated, ok_bind, messageLength_eq fits, ← full]
  rw [four] at filled ⊢
  refine filled.trans ?_
  simp

/-- Of the array, which has room for three bytes more, only the message is sent. -/
theorem streamMessage_written (addressed : AddressedTo client client.hostAddress own destination) (stack : Nat → UInt8)
    {s : SppStream} {place : Nat} {pd : SppPropertyDefinition} (defined : s.definition = some place)
    (here : client.properties[place]? = some pd)
    (whole : (client.callbacks.getValue client.instanceData pd.id).2.1.length = pd.size.toNat) (timestamp : UInt32) :
    streamMessage client stack s timestamp =
      .ok ((client.callbacks.getValue client.instanceData pd.id).1,
        sppMsgSyncWord :: sppMsgStreamId :: (own ++ destination ++
          (s.streamId :: (bytes32 timestamp ++ (client.callbacks.getValue client.instanceData pd.id).2.1)))) := by
  generalize read : client.callbacks.getValue client.instanceData pd.id = loaded at whole ⊢
  have length : ([[s.streamId], bytes32 timestamp, loaded.2.1] : List (List UInt8)).flatten.length =
      5 + pd.size.toNat := by
    simp only [List.flatten_cons, List.flatten_nil, List.length_append, List.length_cons, List.length_nil,
      length_bytes32, whole]
    omega
  obtain ⟨behind, -, filled⟩ := message_stored addressed stack sppMsgStreamId
    [[s.streamId], bytes32 timestamp, loaded.2.1] (by rw [length, messageSize, sppMsgStreamBaseSize]; omega :
      _ ≤ messageSize (sppMsgStreamBaseSize + pd.size.toNat) client.addressLength)
  obtain ⟨msg, header, filled⟩ := bind_eq_ok.mp filled
  obtain ⟨msg', first, filled⟩ := bind_eq_ok.mp filled
  obtain ⟨msg'', second, third⟩ := bind_eq_ok.mp filled
  unfold streamMessage
  simp only [defined, load_eq_ok.mpr here, ok_bind, read]
  refine bind_eq_ok.mpr ⟨msg, header, bind_eq_ok.mpr ⟨msg', first, bind_eq_ok.mpr ⟨msg'', second,
    bind_eq_ok.mpr ⟨_, third, ?_⟩⟩⟩⟩
  have array : sppMsgSyncWord :: sppMsgStreamId :: (own ++ destination ++
      ([[s.streamId], bytes32 timestamp, loaded.2.1].flatten ++ behind)) =
        sppMsgSyncWord :: sppMsgStreamId :: (own ++ destination ++
          (s.streamId :: (bytes32 timestamp ++ loaded.2.1))) ++ behind := by
    simp
  have total : (sppMsgSyncWord :: sppMsgStreamId :: (own ++ destination ++
      (s.streamId :: (bytes32 timestamp ++ loaded.2.1)))).length =
        sppMsgHdrSize client.addressLength + 5 + pd.size.toNat := by
    simp only [List.length_cons, List.length_append, length_bytes32, addressed.ownLength, addressed.destinationLength,
      whole, sppMsgHdrSize]
    omega
  rw [array, List.take_left' total, pure_eq_ok]

end Messages

end TvcHopper.Spp
