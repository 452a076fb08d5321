import TvcHopper.Machine.Memory

/-! Constants and data of the simple property protocol, shared by both engines
(`spp_proto_def.h`).

Property types and the bits of the flags byte are data the engines pass on
without looking at them.
-/

set_option autoImplicit false

namespace TvcHopper.Spp
open Machine

/-! ## Message ids and sizes -/

abbrev sppMsgConnectRequestBcId : UInt8 := 0xA0
abbrev sppMsgConnectRequestBcSize : Nat := 2
abbrev sppMsgConnectResponseId : UInt8 := 0xA1
abbrev sppMsgConnectResponseSize : Nat := 1
abbrev sppMsgPropListResponseId : UInt8 := 0xA4
abbrev sppMsgPropListResponseSize : Nat := 4
abbrev sppMsgPropDefId : UInt8 := 0xA5
abbrev sppMsgPropDefSize : Nat := 6
abbrev sppMsgGetRequestId : UInt8 := 0xB0
abbrev sppMsgGetRequestSize : Nat := 3
abbrev sppMsgGetResponseId : UInt8 := 0xB1
abbrev sppMsgGetResponseBaseSize : Nat := 5
abbrev sppMsgSetRequestId : UInt8 := 0xB2
abbrev sppMsgSetRequestBaseSize : Nat := 4
abbrev sppMsgSetResponseId : UInt8 := 0xB3
abbrev sppMsgSetResponseSize : Nat := 2
abbrev sppMsgStreamRequestId : UInt8 := 0xB4
abbrev sppMsgStreamRequestSize : Nat := 6
abbrev sppMsgStreamResponseId : UInt8 := 0xB5
abbrev sppMsgStreamId : UInt8 := 0xB6
abbrev sppMsgStreamBaseSize : Nat := 8

abbrev sppMsgSyncWord : UInt8 := 0xCD

def sppMsgHdrSize (addressLength : UInt8) : Nat := 2 + addressLength.toNat * 2

def messageSize (body : Nat) (addressLength : UInt8) : Nat := body + sppMsgHdrSize addressLength

/-! ## Status, limits and states -/

abbrev SppStatus := UInt8

abbrev sppStatusOk : SppStatus := 0x00
abbrev sppStatusError : SppStatus := 0x01
abbrev sppStatusBusy : SppStatus := 0x02
abbrev sppStatusPendingFull : SppStatus := 0x03
abbrev sppStatusUnknownRequest : SppStatus := 0x04
abbrev sppStatusNoSuchClient : SppStatus := 0x05
abbrev sppStatusShortMessage : SppStatus := 0x06
abbrev sppStatusInvalidSyncWord : SppStatus := 0x07
abbrev sppStatusUnknownMsgId : SppStatus := 0x07
abbrev sppStatusTooManyProperties : SppStatus := 0x09
abbrev sppStatusDuplicateClient : SppStatus := 0x0A
abbrev sppStatusUnknownProperty : SppStatus := 0x0B

abbrev sppTokenMaxReserved : UInt8 := 0xFF
abbrev sppPropNameLengthMax : Nat := 32
abbrev sppPendingRequestsMax : Nat := 8
abbrev sppConnectionsMax : Nat := 5
abbrev sppStreamMaxCount : Nat := 16

inductive SppState where
  | ready
  | connecting
  deriving DecidableEq, Repr

/-! ## Addresses, definitions and streams -/

/-- Where an address pointer points: nowhere, to memory outside the engine, or
into the address buffer of the engine. -/
inductive AddressPtr where
  | null
  | external (bytes : List UInt8)
  | permanent (offset : Nat)
  deriving DecidableEq, Repr

structure SppAddress where
  address : AddressPtr
  propertyListId : UInt16
  deriving DecidableEq, Repr

def AddressPtr.read (addressBuffer : List UInt8) : AddressPtr → Option (List UInt8)
  | .null => none
  | .external bytes => some bytes
  | .permanent offset => some (addressBuffer.drop offset)

def AddressPtr.deref (addressBuffer : List UInt8) (pointer : AddressPtr) : Except Fault (List UInt8) :=
  match pointer.read addressBuffer with
  | some bytes => .ok bytes
  | none => .error .nullPointer

theorem deref_eq_ok {addressBuffer bytes : List UInt8} {pointer : AddressPtr} :
    pointer.deref addressBuffer = .ok bytes ↔ pointer.read addressBuffer = some bytes := by
  unfold AddressPtr.deref
  cases pointer.read addressBuffer <;> simp

structure SppPropertyDefinition where
  id : UInt16
  type : UInt8
  size : UInt8
  flags : UInt8
  name : Vector UInt8 sppPropNameLengthMax
  nameLength : UInt8
  deriving DecidableEq, Repr

/-- `def` points into the definitions of the engine; it may not have been set. -/
structure SppStream where
  definition : Option Nat
  streamId : UInt8
  streamType : UInt8
  value : Option (List UInt8)
  period : UInt32
  elapsedTime : UInt32
  deriving DecidableEq, Repr

/-! ## The message header -/

/-- Sync word, message id and two addresses. -/
def messageHeader (addressLength : UInt8) (first second : List UInt8) (messageId : UInt8) :
    Except Fault (List UInt8) := do
  let firstBytes ← loadRange first 0 addressLength.toNat
  let secondBytes ← loadRange second 0 addressLength.toNat
  return [sppMsgSyncWord, messageId] ++ firstBytes ++ secondBytes

theorem messageHeader_length {addressLength : UInt8} {first second header : List UInt8} {messageId : UInt8}
    (filled : messageHeader addressLength first second messageId = .ok header) :
    header.length = sppMsgHdrSize addressLength := by
  unfold messageHeader at filled
  simp only [bind_eq_ok, pure_eq_ok, Except.ok.injEq] at filled
  obtain ⟨firstBytes, one, secondBytes, two, rfl⟩ := filled
  simp only [List.length_append, List.length_cons, List.length_nil, loadRange_length one,
    loadRange_length two, sppMsgHdrSize]
  omega

theorem messageHeader_eq {addressLength : UInt8} {first second : List UInt8}
    (firstLength : first.length = addressLength.toNat) (secondLength : second.length = addressLength.toNat)
    (firstRest secondRest : List UInt8) (messageId : UInt8) :
    messageHeader addressLength (first ++ firstRest) (second ++ secondRest) messageId =
      .ok (sppMsgSyncWord :: messageId :: (first ++ second)) := by
  rw [messageHeader, ← firstLength, loadRange_front, ok_bind, firstLength, ← secondLength, loadRange_front]
  rfl

theorem messageHeader_one (first second : UInt8) (firstRest secondRest : List UInt8) (messageId : UInt8) :
    messageHeader 1 (first :: firstRest) (second :: secondRest) messageId =
      .ok [sppMsgSyncWord, messageId, first, second] :=
  @messageHeader_eq 1 [first] [second] rfl rfl firstRest secondRest messageId

end TvcHopper.Spp
