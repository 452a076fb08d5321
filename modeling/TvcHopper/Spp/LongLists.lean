import TvcHopper.Spp.ClientStreams
import TvcHopper.Spp.WireLimits

/-! Property lists of any length.

The property count has sixteen bits. The indices of the loops that send the
list and look up a property have eight.
-/

set_option autoImplicit false

namespace TvcHopper.Spp
open Machine

variable {σ : Type}

/-! ## A list that is sent -/

/-- The memory of a client that sends its list to a host. -/
structure ListSender (client : SppClientEngine σ) (hostAddress : List UInt8) : Prop where
  own : ∃ own rest, client.clientAddress.address = .external (own ++ rest) ∧ own.length = client.addressLength.toNat
  host : client.hostAddress.address = .permanent 0
  hostLength : hostAddress.length = client.addressLength.toNat
  room : client.addressLength.toNat ≤ client.hostAddressBuffer.length
  count : client.propertyCount.toNat = client.properties.length
  names : ∀ pd ∈ client.properties, 0 ∈ pd.name.toList

def AcceptedBy (client : SppClientEngine σ) (message : List UInt8) : Prop :=
  ∃ status, message[sppMsgHdrSize client.addressLength]? = some status ∧ status ≠ sppStatusDuplicateClient ∧
    status ≠ sppStatusBusy

def IsPropertyList (message : List UInt8) : Prop := ∃ body, message = sppMsgSyncWord :: sppMsgPropListResponseId :: body

/-- Two bytes in front and some behind belong to the addresses, unless these have one byte each. -/
def IsDefinition (pd : SppPropertyDefinition) (remaining : UInt8) (message : List UInt8) : Prop :=
  ∃ first second behind, message = sppMsgSyncWord :: sppMsgPropDefId :: first :: second :: pd.size :: remaining ::
    (bytes16 pd.id ++ pd.type :: pd.flags :: (sentName pd.name ++ behind))

/-- The list, then a definition for each property in order, and nothing else. -/
def ListSent (client : SppClientEngine σ) (message hostAddress : List UInt8) (stack : Stack) : Prop :=
  ∃ client' list definitions,
    sppSendPropertyList client message hostAddress stack = .ok (client', list :: definitions, sppStatusOk) ∧
      IsPropertyList list ∧ definitions.length = client.propertyCount.toNat ∧
      ∀ (i : Nat) (within : i < client.properties.length), ∃ definition, definitions[i]? = some definition ∧
        IsDefinition client.properties[i] (UInt8.ofNat (min (client.properties.length - (i + 1)) 0xFF)) definition

def ListFits (client : SppClientEngine σ) : Prop :=
  sppMsgHdrSize client.addressLength + sppMsgPropListResponseSize < 256 ∧
    ∀ pd ∈ client.properties, 1 ≤ client.addressLength.toNat ∧
      sppMsgHdrSize client.addressLength + (sppMsgPropDefSize + nameLength pd.name + 1) < 256

/-- The search ends, and finds an entry with the id exactly when there is one. -/
def LookupEnds (client : SppClientEngine σ) (id : UInt16) : Prop :=
  ∃ found, Client.sppGetDefinition client id = .ok found ∧
    (found.isSome = true ↔ PropertyKnown client id) ∧
    ∀ place, found = some place → ∃ pd, client.properties[place]? = some pd ∧ pd.id = id

/-! ## Definitions -/

section Definitions
variable {client : SppClientEngine σ} {receiver : SppAddress} {own destination : List UInt8}

/-- The fixed places of a definition are behind the first four bytes, whatever these hold. -/
theorem propertyDefinitionMessage_isDefinition (addressed : AddressedTo client client.hostAddress own destination)
    {pd : SppPropertyDefinition} (positive : 1 ≤ client.addressLength.toNat)
    (fits : sppMsgHdrSize client.addressLength + (sppMsgPropDefSize + nameLength pd.name + 1) < 256)
    (terminated : 0 ∈ pd.name.toList) (stack : Nat → UInt8) (propsRemaining : UInt16) :
    ∃ message, Client.propertyDefinitionMessage client stack pd propsRemaining = .ok message ∧
      IsDefinition pd (if propsRemaining > 0xFF then 0xFF else propsRemaining.toUInt8) message := by
  have size := messageLength_eq fits
  have four : 4 ≤ sppMsgHdrSize client.addressLength := by
    simp only [sppMsgHdrSize]
    omega
  obtain ⟨behind, total, filled⟩ := message_stored addressed stack sppMsgPropDefId []
    (Nat.le_add_right (sppMsgHdrSize client.addressLength) (sppMsgPropDefSize + nameLength pd.name + 1))
  obtain ⟨array, header, same⟩ := bind_eq_ok.mp filled
  obtain rfl := Except.ok.inj same
  have addresses : (own ++ destination).length + 2 = sppMsgHdrSize client.addressLength := by
    rw [List.length_append, addressed.ownLength, addressed.destinationLength, sppMsgHdrSize]
    omega
  obtain ⟨first, second, pair⟩ : ∃ first second, (own ++ destination).take 2 = [first, second] :=
    List.length_eq_two.mp (by rw [List.length_take]; omega)
  have split : own ++ destination = [first, second] ++ (own ++ destination).drop 2 := by
    rw [← pair, List.take_append_drop]
  have start : [sppMsgSyncWord, sppMsgPropDefId, first, second] <+:
      sppMsgSyncWord :: sppMsgPropDefId :: (own ++ destination ++ ([].flatten ++ behind)) := by
    rw [split]
    exact ⟨(own ++ destination).drop 2 ++ ([].flatten ++ behind), by simp⟩
  have length := length_sentName terminated
  obtain ⟨message, stores, -, behind', whole⟩ := storeAll_extends
    [[pd.size], [if propsRemaining > 0xFF then 0xFF else propsRemaining.toUInt8], bytes16 pd.id, [pd.type], [pd.flags],
      sentName pd.name] start (by
        simp only [List.length_cons, List.length_append, List.length_nil, List.flatten_cons, List.flatten_nil,
          length_bytes16, length, sppMsgPropDefSize] at total addresses ⊢
        omega)
  refine ⟨message, ?_, first, second, behind', ?_⟩
  · unfold Client.propertyDefinitionMessage
    rw [strlen_ok terminated, ok_bind, size]
    exact bind_eq_ok.mpr ⟨_, header, stores⟩
  · rw [← whole]
    simp

theorem Client.sppFillMessageHeader_size {buffer message : List UInt8} {sender : SppAddress} {messageId : UInt8}
    (filled : sppFillMessageHeader client buffer receiver sender messageId = .ok message) :
    message.length = buffer.length := by
  obtain ⟨_, -, filled⟩ := bind_eq_ok.mp filled
  obtain ⟨_, -, filled⟩ := bind_eq_ok.mp filled
  obtain ⟨_, -, stored⟩ := bind_eq_ok.mp filled
  exact storeRange_length stored

theorem propertyDefinitionMessage_fits {pd : SppPropertyDefinition} (terminated : 0 ∈ pd.name.toList)
    {stack : Nat → UInt8} {propsRemaining : UInt16} {message : List UInt8}
    (built : Client.propertyDefinitionMessage client stack pd propsRemaining = .ok message) :
    1 ≤ client.addressLength.toNat ∧
      sppMsgHdrSize client.addressLength + (sppMsgPropDefSize + nameLength pd.name + 1) < 256 := by
  have short := nameLength_lt terminated
  unfold Client.propertyDefinitionMessage at built
  rw [strlen_ok terminated, ok_bind] at built
  obtain ⟨first, filled, built⟩ := bind_eq_ok.mp built
  have fits := Client.messageLength_whole (by simp only [sppMsgPropDefSize, sppPropNameLengthMax] at *; omega) filled
  refine ⟨?_, fits⟩
  -- the name ends two bytes behind the array when the addresses are empty
  obtain ⟨_, size, built⟩ := bind_eq_ok.mp built
  obtain ⟨_, remaining, built⟩ := bind_eq_ok.mp built
  obtain ⟨_, id, built⟩ := bind_eq_ok.mp built
  obtain ⟨_, type, built⟩ := bind_eq_ok.mp built
  obtain ⟨_, flags, name⟩ := bind_eq_ok.mp built
  have length := length_sentName terminated
  obtain ⟨room, -⟩ := storeRange_eq_ok.mp name
  rw [storeRange_length flags, storeRange_length type, storeRange_length id, storeRange_length remaining,
    storeRange_length size, Client.sppFillMessageHeader_size filled, length_localArray, messageLength_eq fits] at room
  rw [sentName] at length
  rw [length, sppMsgHdrSize, sppMsgPropDefSize] at room
  omega

end Definitions

/-! ## The loops -/

theorem remainingByte_eq (propsRemaining : UInt16) :
    (if propsRemaining > 0xFF then 0xFF else propsRemaining.toUInt8) = UInt8.ofNat (min propsRemaining.toNat 0xFF) := by
  by_cases many : propsRemaining > 0xFF
  · have above : 0xFF < propsRemaining.toNat := UInt16.lt_iff_toNat_lt.mp many
    rw [if_pos many, Nat.min_eq_right (Nat.le_of_lt above)]
    rfl
  · have below : propsRemaining.toNat ≤ 0xFF := Nat.le_of_not_lt fun above => many (UInt16.lt_iff_toNat_lt.mpr above)
    rw [if_neg many, Nat.min_eq_left below]
    rfl

section Loops
variable {client : SppClientEngine σ} {own destination : List UInt8}

theorem sendDefinitions_written (addressed : AddressedTo client client.hostAddress own destination)
    (listed : ListedProperties client) (fits : ListFits client) (stack : Stack) (list : List UInt8) :
    ∃ definitions, loop8 (Client.sendDefinition client stack) client.propertyCount.toNat [list] =
        .ok (list :: definitions) ∧ definitions.length = client.propertyCount.toNat ∧
      ∀ (i : Nat) (within : i < client.properties.length), ∃ definition, definitions[i]? = some definition ∧
        IsDefinition client.properties[i] (UInt8.ofNat (min (client.properties.length - (i + 1)) 0xFF)) definition := by
  let Sent (place : Nat) (sent : List (List UInt8)) : Prop := ∃ definitions, sent = list :: definitions ∧
    definitions.length = place ∧ ∀ (i : Nat) (within : i < client.properties.length), i < place →
      ∃ definition, definitions[i]? = some definition ∧
        IsDefinition client.properties[i] (UInt8.ofNat (min (client.properties.length - (i + 1)) 0xFF)) definition
  have start : Sent 0 [list] := ⟨[], rfl, rfl, nofun⟩
  have pass : ∀ place sent, 0 ≤ place → place < 0 + client.propertyCount.toNat → Sent place sent →
      ∃ next, Client.sendDefinition client stack place sent = .ok next ∧ Sent (place + 1) next := by
    rintro place sent - below ⟨definitions, rfl, length, before⟩
    have count := listed.count
    have within : place < client.properties.length := by omega
    have member := List.getElem_mem within
    obtain ⟨positive, room⟩ := fits.2 _ member
    obtain ⟨message, built, meant⟩ := propertyDefinitionMessage_isDefinition addressed positive room
      (listed.names _ member) (stack (place + 1)) (client.propertyCount - UInt16.ofNat place - 1)
    rw [remainingByte_eq, propsRemaining_toNat count within] at meant
    refine ⟨list :: (definitions ++ [message]), ?_, definitions ++ [message], rfl, by simp [length], ?_⟩
    · rw [Client.sendDefinition, load_of_lt _ _ within, ok_bind, built, ok_bind]
      rfl
    · intro i inside known
      rcases Nat.lt_succ_iff_lt_or_eq.mp known with earlier | rfl
      · obtain ⟨definition, here, meant⟩ := before i inside earlier
        exact ⟨definition, (List.getElem?_append_left (by omega)).trans here, meant⟩
      · exact ⟨message, by simp [← length], meant⟩
  obtain ⟨final, sends, definitions, rfl, length, every⟩ := loop_ok Sent start pass
  have count := listed.count
  have short := listed.short
  refine ⟨definitions, by rw [loop8_ends (by omega), sends], by omega, fun i within => every i within (by omega)⟩

end Loops

/-! ## Sending the list -/

section Sending
variable {client : SppClientEngine σ} {message hostAddress : List UInt8} {stack : Stack}

theorem ListSender.addressed (sender : ListSender client hostAddress) : ∃ own buffer,
    storeRange client.hostAddressBuffer 0 hostAddress = .ok buffer ∧
      AddressedTo { client with hostAddressBuffer := buffer } client.hostAddress own hostAddress := by
  obtain ⟨own, rest, pointer, length⟩ := sender.own
  obtain ⟨buffer, stored, -, behind, whole⟩ := storeRange_extends hostAddress
    (List.nil_prefix (l := client.hostAddressBuffer)) (by
      rw [sender.hostLength, List.length_nil, Nat.zero_add]
      exact sender.room)
  refine ⟨own, buffer, stored, ⟨rest, ?_⟩, length, ⟨behind, ?_⟩, sender.hostLength⟩
  · rw [pointer]
    rfl
  · rw [sender.host, ← whole]
    rfl

theorem listSent_of (sender : ListSender client hostAddress) (accepted : AcceptedBy client message)
    (narrow : client.propertyCount.toNat < 256) (fits : ListFits client) :
    ListSent client message hostAddress stack := by
  obtain ⟨own, buffer, stored, addressed⟩ := sender.addressed
  obtain ⟨status, loaded, notDuplicate, notBusy⟩ := accepted
  have listed : ListedProperties { client with hostAddressBuffer := buffer } :=
    ⟨sender.count, by have := sender.count; simp only; omega, sender.names⟩
  obtain ⟨numBytes, sums⟩ := addSizes_spec listed
  obtain ⟨unset, list⟩ := propertyListMessage_written addressed fits.1 (stack 0) numBytes
  obtain ⟨definitions, sends, length, every⟩ := sendDefinitions_written addressed listed fits stack
    (sppMsgSyncWord :: sppMsgPropListResponseId :: (own ++ hostAddress ++
      (client.propertyCount.toUInt8 :: (bytes16 numBytes ++ [unset]))))
  have completes : sppSendPropertyList client message hostAddress stack =
      .ok ({ client with hostAddressBuffer := buffer }, (sppMsgSyncWord :: sppMsgPropListResponseId ::
        (own ++ hostAddress ++ (client.propertyCount.toUInt8 :: (bytes16 numBytes ++ [unset])))) :: definitions,
          sppStatusOk) := by
    unfold sppSendPropertyList
    simp only [stored, load_eq_ok.mpr loaded, ok_bind, if_neg notDuplicate, if_neg notBusy]
    exact bind_eq_ok.mpr ⟨numBytes, sums, bind_eq_ok.mpr ⟨_, list, bind_eq_ok.mpr ⟨_, sends, rfl⟩⟩⟩
  exact ⟨_, _, definitions, completes, ⟨_, rfl⟩, length, every⟩

theorem ListSent.narrow_fits (sender : ListSender client hostAddress)
    (sent : ListSent client message hostAddress stack) :
    client.propertyCount.toNat < 256 ∧ ListFits client := by
  obtain ⟨client', list, definitions, done, -⟩ := sent
  unfold sppSendPropertyList at done
  obtain ⟨buffer, -, done⟩ := bind_eq_ok.mp done
  obtain ⟨status, -, done⟩ := bind_eq_ok.mp done
  by_cases duplicate : status = sppStatusDuplicateClient
  · rw [if_pos duplicate] at done
    cases done
  by_cases busy : status = sppStatusBusy
  · rw [if_neg duplicate, if_pos busy] at done
    cases done
  rw [if_neg duplicate, if_neg busy] at done
  obtain ⟨numBytes, -, done⟩ := bind_eq_ok.mp done
  obtain ⟨array, built, done⟩ := bind_eq_ok.mp done
  obtain ⟨messages, sends, -⟩ := bind_eq_ok.mp done
  have narrow := loop8_narrow sends
  refine ⟨narrow, ?_, ?_⟩
  · obtain ⟨_, filled, -⟩ := bind_eq_ok.mp built
    have room := Client.messageLength_whole (by decide) filled
    exact room
  · intro pd member
    obtain ⟨place, within, rfl⟩ := List.getElem_of_mem member
    rw [loop8_ends narrow] at sends
    have below : place < 0 + client.propertyCount.toNat := by
      rw [sender.count]
      omega
    obtain ⟨before, after, one⟩ := loop_passes sends (Nat.zero_le place) below
    obtain ⟨here, found, one⟩ := bind_eq_ok.mp one
    obtain ⟨definition, written, -⟩ := bind_eq_ok.mp one
    obtain rfl : client.properties[place] = here :=
      Option.some.inj ((List.getElem?_eq_getElem within).symm.trans (load_eq_ok.mp found))
    have room := propertyDefinitionMessage_fits (sender.names _ member) written
    exact room

end Sending

/-! ## Looking up a property -/

theorem lookupEnds_iff {client : SppClientEngine σ} (count : client.propertyCount.toNat = client.properties.length)
    (id : UInt16) : LookupEnds client id ↔
      client.propertyCount.toNat < 256 ∨ ∃ pd ∈ client.properties.take 256, pd.id = id := by
  constructor
  · rintro ⟨found, done, -⟩
    cases found with
    | some place => exact .inr ((sppGetDefinition_known count).mp ⟨place, done⟩)
    | none =>
      left
      rw [sppGetDefinition_eq count] at done
      split at done
      · cases done
      · by_contra wide
        rw [if_neg (by omega)] at done
        cases done
  · intro ends
    by_cases known : ∃ pd ∈ client.properties.take 256, pd.id = id
    · obtain ⟨place, done⟩ := (sppGetDefinition_known count).mpr known
      have here := sppGetDefinition_place count done
      refine ⟨some place, done, ?_, ?_⟩
      · obtain ⟨pd, at_place, same⟩ := here
        simp only [Option.isSome_some, true_iff]
        exact ⟨pd, List.mem_of_getElem? at_place, same⟩
      · rintro _ ⟨⟩
        exact here
    · have narrow := ends.resolve_right known
      have done : Client.sppGetDefinition client id = .ok none := by
        have absent := mt (sppGetDefinition_known count).mp known
        rw [sppGetDefinition_eq count] at absent ⊢
        cases found : (client.properties.take 256).findIdx? (·.id == id) with
        | some place =>
          rw [found] at absent
          exact absurd ⟨place, rfl⟩ absent
        | none => exact if_pos (by omega)
      exact ⟨none, done, by simpa using sppGetDefinition_unknown count done, nofun⟩

/-- A list is sent completely exactly when it has fewer than 256 properties and its messages have room in their
arrays. A search ends exactly when there are fewer than 256 properties or one of the first 256 has the id. -/
theorem property_list_ends {client : SppClientEngine σ} {message hostAddress : List UInt8}
    (sender : ListSender client hostAddress) (accepted : AcceptedBy client message) (stack : Stack) :
    (ListSent client message hostAddress stack ↔ client.propertyCount.toNat < 256 ∧ ListFits client) ∧
      ∀ id, LookupEnds client id ↔
        client.propertyCount.toNat < 256 ∨ ∃ pd ∈ client.properties.take 256, pd.id = id := by
  refine ⟨⟨fun sent => sent.narrow_fits sender, ?_⟩, lookupEnds_iff sender.count⟩
  rintro ⟨narrow, fits⟩
  exact listSent_of sender accepted narrow fits

theorem listSender_setup : ListSender (sppClientEngineInit setupClientParams staticClient) [0x1D] :=
  ⟨⟨[0x01], [], rfl, rfl⟩, rfl, rfl, by decide, rfl, by decide⟩

/-- The client of the tests sends its three properties. -/
theorem property_list_ends_setup :
    ListSent (sppClientEngineInit setupClientParams staticClient) (Message.connectResponse 0x1D 0x01 sppStatusOk)
        [0x1D] (fun _ _ => 0) ∧
      LookupEnds (sppClientEngineInit setupClientParams staticClient) 0xAE := by
  have accepted : AcceptedBy (sppClientEngineInit setupClientParams staticClient)
      (Message.connectResponse 0x1D 0x01 sppStatusOk) := ⟨sppStatusOk, rfl, by decide, by decide⟩
  have ends := property_list_ends listSender_setup accepted fun _ _ => 0
  exact ⟨ends.1.mpr ⟨by decide, by decide, by decide⟩, (ends.2 0xAE).mpr (.inl (by decide))⟩

/-- The client of the tests with 256 properties, whose ids are their places. -/
def longClient : SppClientEngine PropertyValues :=
  { sppClientEngineInit setupClientParams staticClient with
    propertyCount := 256
    properties := (List.range 256).map fun place => { blankProperty 1 with id := UInt16.ofNat place } }

/-- The first loop, which adds up the sizes, never ends, and neither does the search for an unknown property. -/
theorem property_list_endless :
    ListSender longClient [0x1D] ∧ AcceptedBy longClient (Message.connectResponse 0x1D 0x01 sppStatusOk) ∧
      (∀ looks numBytes, passes8 (Client.addSize longClient) longClient.propertyCount.toNat looks 0 0 ≠
        .ok (some numBytes)) ∧
      ¬ListSent longClient (Message.connectResponse 0x1D 0x01 sppStatusOk) [0x1D] (fun _ _ => 0) ∧
      ¬LookupEnds longClient 256 := by
  have count : longClient.propertyCount.toNat = 256 := rfl
  have sender : ListSender longClient [0x1D] := by
    refine ⟨⟨[0x01], [], rfl, rfl⟩, rfl, rfl, by decide, ?_, ?_⟩
    · simp [longClient]
    · intro pd member
      obtain ⟨place, -, rfl⟩ := List.mem_map.mp member
      have blank : 0 ∈ (blankProperty 1).name.toList := by decide
      exact blank
  have unknown : ¬∃ pd ∈ longClient.properties.take 256, pd.id = 256 := by
    rintro ⟨pd, member, same⟩
    obtain ⟨place, below, rfl⟩ := List.mem_map.mp (List.mem_of_mem_take member)
    have small := List.mem_range.mp below
    have id : (UInt16.ofNat place).toNat = 256 := congrArg UInt16.toNat same
    rw [toNat_ofNat16 (by omega)] at id
    omega
  refine ⟨sender, ⟨sppStatusOk, rfl, by decide, by decide⟩, ?_, ?_, ?_⟩
  · intro looks numBytes
    exact passes8_wide count.ge looks 0 0 numBytes
  · intro sent
    exact absurd (sent.narrow_fits sender).1 (by rw [count]; decide)
  · rw [lookupEnds_iff sender.count, count]
    exact fun ends => unknown (ends.resolve_left (by decide))

end TvcHopper.Spp
