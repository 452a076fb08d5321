import TvcHopper.Spp.Protocol

/-! The messages of the protocol when addresses have one byte.

The host sends the host address first and the client its own address; both
engines take the first address of a received header as the sender's.
-/

set_option autoImplicit false

namespace TvcHopper.Spp
open Machine

@[simp] theorem sppMsgHdrSize_one : sppMsgHdrSize 1 = 4 := rfl

theorem toNat_one : (1 : UInt8).toNat = 1 := rfl

namespace Message

def connectRequest (client broadcast : UInt8) (propertyListId : UInt16) : List UInt8 :=
  sppMsgSyncWord :: sppMsgConnectRequestBcId :: client :: broadcast :: bytes16 propertyListId

def connectResponse (host client : UInt8) (status : SppStatus) : List UInt8 :=
  [sppMsgSyncWord, sppMsgConnectResponseId, host, client, status]

/-- The last byte of the list response is whatever was on the stack. -/
def listResponse (client host : UInt8) (count : UInt8) (numBytes : UInt16) (unset : UInt8) : List UInt8 :=
  sppMsgSyncWord :: sppMsgPropListResponseId :: client :: host :: count :: (bytes16 numBytes ++ [unset])

def definition (client host : UInt8) (pd : SppPropertyDefinition) (remaining : UInt8)
    (name : List UInt8) : List UInt8 :=
  sppMsgSyncWord :: sppMsgPropDefId :: client :: host :: pd.size :: remaining ::
    (bytes16 pd.id ++ pd.type :: pd.flags :: name)

def getRequest (host client token : UInt8) (id : UInt16) : List UInt8 :=
  sppMsgSyncWord :: sppMsgGetRequestId :: host :: client :: token :: bytes16 id

def getResponse (client host token size : UInt8) (id : UInt16) (value : List UInt8) : List UInt8 :=
  sppMsgSyncWord :: sppMsgGetResponseId :: client :: host :: token :: sppStatusOk :: size ::
    (bytes16 id ++ value)

def setRequest (host client token size : UInt8) (id : UInt16) (value : List UInt8) : List UInt8 :=
  sppMsgSyncWord :: sppMsgSetRequestId :: host :: client :: token :: size :: (bytes16 id ++ value)

def setResponse (client host token : UInt8) : List UInt8 :=
  [sppMsgSyncWord, sppMsgSetResponseId, client, host, token, sppStatusOk]

/-- Of the period only the low byte is sent. -/
def streamRequest (host client token streamType streamId : UInt8) (id period : UInt16) : List UInt8 :=
  sppMsgSyncWord :: sppMsgStreamRequestId :: host :: client :: token :: streamType :: streamId ::
    (bytes16 id ++ (bytes16 period).take 1)

def stream (client host streamId : UInt8) (timestamp : UInt32) (value : List UInt8) : List UInt8 :=
  sppMsgSyncWord :: sppMsgStreamId :: client :: host :: streamId :: (bytes32 timestamp ++ value)

end Message

/-! ## Names -/

def nameLength (name : Vector UInt8 sppPropNameLengthMax) : Nat := name.toList.findIdx (· == 0)

/-- The name with its end mark, as it is sent. -/
def sentName (name : Vector UInt8 sppPropNameLengthMax) : List UInt8 :=
  name.toList.take (nameLength name + 1)

theorem nameLength_lt {name : Vector UInt8 sppPropNameLengthMax} (terminated : 0 ∈ name.toList) :
    nameLength name < sppPropNameLengthMax := by
  have found : name.toList.findIdx (· == 0) < name.toList.length :=
    List.findIdx_lt_length_of_exists ⟨0, terminated, rfl⟩
  simpa [nameLength] using found

theorem length_sentName {name : Vector UInt8 sppPropNameLengthMax} (terminated : 0 ∈ name.toList) :
    (sentName name).length = nameLength name + 1 := by
  have short := nameLength_lt terminated
  simp only [sentName, List.length_take, Vector.length_toList]
  omega

end TvcHopper.Spp
