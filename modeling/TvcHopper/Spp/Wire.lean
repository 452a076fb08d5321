import TvcHopper.Spp.ClientMessages
import TvcHopper.Spp.Fields
import TvcHopper.Spp.Link

/-! Whether the engines agree on the format of a message.

Both write the address of the sender first and take for it the bytes from one
place before the second address on. The client keeps sizes and indices of most
messages in a `uint8_t`, and writes a definition to fixed places.
-/

set_option autoImplicit false

namespace TvcHopper.Spp
open Machine

variable {σ : Type}

/-- One address length, and the addresses that the engines were given. -/
structure Wire where
  addressLength : UInt8
  host : List UInt8
  client : List UInt8
  broadcast : List UInt8
  positive : 1 ≤ addressLength.toNat
  hostLength : host.length = addressLength.toNat
  clientLength : client.length = addressLength.toNat
  broadcastLength : broadcast.length = addressLength.toNat

inductive MessageKind where
  | connectRequest | listResponse | definition | getResponse | setResponse | stream
  | connectResponse | getRequest | setRequest | streamRequest
  deriving DecidableEq

namespace MessageKind

def sender (wire : Wire) : MessageKind → List UInt8
  | .connectRequest | .listResponse | .definition | .getResponse | .setResponse | .stream => wire.client
  | .connectResponse | .getRequest | .setRequest | .streamRequest => wire.host

def receiver (wire : Wire) : MessageKind → List UInt8
  | .connectRequest => wire.broadcast
  | .listResponse | .definition | .getResponse | .setResponse | .stream => wire.host
  | .connectResponse | .getRequest | .setRequest | .streamRequest => wire.client

/-- The longest addresses with which the body arrives. -/
def limit : MessageKind → Nat
  | .connectRequest => 125
  | .listResponse => 124
  | .definition => 1
  | .getResponse => 124
  | .setResponse => 125
  | .stream => 255
  | .connectResponse => 255
  | .getRequest => 126
  | .setRequest => 124
  | .streamRequest => 0

end MessageKind

def ToHost.kind : ToHost → MessageKind
  | .connectRequest _ => .connectRequest
  | .listResponse _ _ => .listResponse
  | .definition _ _ _ _ _ _ => .definition
  | .getResponse _ _ _ _ _ => .getResponse
  | .setResponse _ _ => .setResponse
  | .stream _ _ _ => .stream

def ToClient.kind : ToClient → MessageKind
  | .connectResponse _ => .connectResponse
  | .getRequest _ _ => .getRequest
  | .setRequest _ _ _ _ => .setRequest
  | .streamRequest _ _ _ _ _ => .streamRequest

/-- What is taken for the first address: its last byte, and all but the last byte of the second. -/
def misread (first second : List UInt8) : List UInt8 :=
  first.drop (first.length - 1) ++ second.take (first.length - 1)

/-! ## The messages that are built -/

section Host
variable (host : SppHostEngine) (client : SppAddress)

def connectResponseMessage (status : SppStatus) : Except Fault (List UInt8) := do
  let msg ← sppFillMessageHeader host client sppMsgConnectResponseId
  return msg ++ [status]

def getRequestMessage (token : UInt8) (id : UInt16) : Except Fault (List UInt8) := do
  let msg ← sppFillMessageHeader host client sppMsgGetRequestId
  return msg ++ [token] ++ bytes16 id

def setRequestMessage (token valueSize : UInt8) (id : UInt16) (value : List UInt8) : Except Fault (List UInt8) := do
  let msg ← sppFillMessageHeader host client sppMsgSetRequestId
  return msg ++ [token, valueSize] ++ bytes16 id ++ value

def streamRequestMessage (token streamType streamId : UInt8) (id period : UInt16) : Except Fault (List UInt8) := do
  let msg ← sppFillMessageHeader host client sppMsgStreamRequestId
  let body := [token, streamType, streamId] ++ bytes16 id ++ bytes16 period
  return msg ++ body.take sppMsgStreamRequestSize

/-- What the host writes into the message it builds for a body. -/
inductive HostBuilds : ToClient → Except Fault (List UInt8) → Prop where
  | connectResponse (status : SppStatus) :
      HostBuilds (.connectResponse status) (connectResponseMessage host client status)
  | getRequest (token : UInt8) (id : UInt16) :
      HostBuilds (.getRequest token id) (getRequestMessage host client token id)
  | setRequest (token size : UInt8) (id : UInt16) (value : List UInt8) (whole : value.length = size.toNat) :
      HostBuilds (.setRequest token size id value) (setRequestMessage host client token size id value)
  | streamRequest (token streamType streamId : UInt8) (id period : UInt16) :
      HostBuilds (.streamRequest token streamType streamId id period)
        (streamRequestMessage host client token streamType streamId id period)

end Host

open Client in
/-- What the client writes into the message it builds for a body. A value has the size of its property. -/
inductive ClientBuilds (client : SppClientEngine σ) : ToHost → Except Fault (List UInt8) → Prop where
  | connectRequest (stack : Stack) :
      ClientBuilds client (.connectRequest client.propertyListId) (sppClientStart client stack)
  | listResponse (stack : Nat → UInt8) (numBytes : UInt16) :
      ClientBuilds client (.listResponse client.propertyCount.toUInt8 numBytes)
        (propertyListMessage client stack numBytes)
  | definition (stack : Nat → UInt8) (pd : SppPropertyDefinition) (terminated : 0 ∈ pd.name.toList)
      (propsRemaining : UInt16) :
      ClientBuilds client
        (.definition pd.size (if propsRemaining > 0xFF then 0xFF else propsRemaining.toUInt8) pd.id pd.type pd.flags
          (sentName pd.name))
        (propertyDefinitionMessage client stack pd propsRemaining)
  | getResponse (stack : Nat → UInt8) (pd : SppPropertyDefinition) (token : UInt8) (id : UInt16) (value : List UInt8)
      (whole : value.length = pd.size.toNat) :
      ClientBuilds client (.getResponse token sppStatusOk pd.size id value)
        (getResponseMessage client stack pd token id value)
  | setResponse (stack : Nat → UInt8) (token : UInt8) :
      ClientBuilds client (.setResponse token sppStatusOk) (setResponseMessage client stack token)
  | stream (stack : Nat → UInt8) (s : SppStream) (timestamp : UInt32) {place : Nat} {pd : SppPropertyDefinition}
      (defined : s.definition = some place) (here : client.properties[place]? = some pd)
      (whole : (client.callbacks.getValue client.instanceData pd.id).2.1.length = pd.size.toNat) :
      ClientBuilds client (.stream s.streamId timestamp (client.callbacks.getValue client.instanceData pd.id).2.1)
        ((streamMessage client stack s timestamp).map Prod.snd)

/-! ## Agreement -/

structure HostConfigured (wire : Wire) (host : SppHostEngine) (client : SppAddress) : Prop where
  addressLength : host.addressLength = wire.addressLength
  hostAddress : ∃ rest, host.hostAddress.address.deref host.addressBuffer = .ok (wire.host ++ rest)
  clientAddress : ∃ rest, client.address.deref host.addressBuffer = .ok (wire.client ++ rest)

structure ClientConfigured (wire : Wire) (client : SppClientEngine σ) : Prop where
  addressLength : client.addressLength = wire.addressLength
  clientAddress : ∃ rest, client.clientAddress.address.deref client.hostAddressBuffer = .ok (wire.client ++ rest)
  hostAddress : ∃ rest, client.hostAddress.address.deref client.hostAddressBuffer = .ok (wire.host ++ rest)
  broadcastAddress : ∃ rest,
    client.broadcastAddress.address.deref client.hostAddressBuffer = .ok (wire.broadcast ++ rest)

/-- The host reads the sender's address and every field, whatever memory follows the message. -/
def ReadByHost (wire : Wire) (sender : List UInt8) (body : ToHost) (built : Except Fault (List UInt8)) : Prop :=
  ∃ message, built = .ok message ∧ ∀ trailing,
    readMessageToHost wire.addressLength (message ++ trailing) (messageSize16 message) =
      .ok (some (sender, body.followedBy trailing))

def ReadByClient (wire : Wire) (sender : List UInt8) (body : ToClient) (built : Except Fault (List UInt8)) : Prop :=
  ∃ message, built = .ok message ∧ ∀ trailing,
    readMessageToClient wire.addressLength (message ++ trailing) (messageSize16 message) =
      .ok (some (sender, body.followedBy trailing))

/-- Every message of a kind that one engine builds is read by the other as it was meant. -/
def WireAgrees (wire : Wire) (kind : MessageKind) : Prop :=
  (∀ (σ : Type) (client : SppClientEngine σ) body built, ClientConfigured wire client →
    ClientBuilds client body built → body.kind = kind → ReadByHost wire wire.client body built) ∧
  ∀ host client body built, HostConfigured wire host client → HostBuilds host client body built → body.kind = kind →
    ReadByClient wire wire.host body built

/-! ## The header -/

section Header
variable {addressLength msgId : UInt8} {first second : List UInt8}

theorem loadRange_misread (positive : 1 ≤ addressLength.toNat) (firstLength : first.length = addressLength.toNat)
    (secondLength : second.length = addressLength.toNat) (rest : List UInt8) :
    loadRange (sppMsgSyncWord :: msgId :: (first ++ second) ++ rest) (2 + addressLength.toNat - 1)
        addressLength.toNat = .ok (misread first second) := by
  obtain ⟨n, length⟩ : ∃ n, addressLength.toNat = n + 1 := ⟨addressLength.toNat - 1, by omega⟩
  rw [length] at firstLength secondLength ⊢
  apply loadRange_eq_ok.mpr
  constructor
  · simp only [List.cons_append, List.length_cons, List.length_append, firstLength, secondLength]
    omega
  · rw [show 2 + (n + 1) - 1 = n + 2 by omega, List.cons_append, List.cons_append, List.drop_succ_cons,
      List.drop_succ_cons, List.append_assoc, List.drop_append_of_le_length (by omega), misread, firstLength,
      Nat.add_sub_cancel, List.take_append, List.length_drop, firstLength, Nat.add_sub_cancel_left,
      List.take_of_length_le (by simp [firstLength]), Nat.add_sub_cancel, List.take_append_of_le_length (by omega)]

theorem loadRange_first (firstLength : first.length = addressLength.toNat) (rest : List UInt8) :
    loadRange (sppMsgSyncWord :: msgId :: (first ++ second) ++ rest) 2 addressLength.toNat = .ok first := by
  rw [← firstLength]
  refine (loadRange_behind [sppMsgSyncWord, msgId] (first ++ second ++ rest) 0 first.length).trans ?_
  rw [List.append_assoc]
  exact loadRange_front first (second ++ rest)

theorem readHeader_built (positive : 1 ≤ addressLength.toNat) (firstLength : first.length = addressLength.toNat)
    (secondLength : second.length = addressLength.toNat) (rest : List UInt8) {len : UInt16}
    (long : addressLength.toNat * 2 + 2 ≤ len.toNat) :
    readHeader addressLength (sppMsgSyncWord :: msgId :: (first ++ second) ++ rest) len =
      .ok (.ok (msgId, misread first second)) := by
  have notShort : ¬len.toNat < addressLength.toNat * 2 + 2 := Nat.not_lt.mpr long
  rw [readHeader, if_neg notShort]
  refine bind_eq_ok.mpr ⟨sppMsgSyncWord, rfl, ?_⟩
  rw [if_neg (by simp)]
  exact bind_eq_ok.mpr ⟨msgId, rfl, bind_eq_ok.mpr ⟨first, loadRange_first firstLength rest, bind_eq_ok.mpr ⟨_,
    loadRange_misread positive firstLength secondLength rest, rfl⟩⟩⟩

end Header

/-! ## What is built -/

/-- A message on the wire, with what the array held behind the body. -/
def onWire (wire : Wire) (kind : MessageKind) (msgId : UInt8) (body : List UInt8) : List UInt8 :=
  sppMsgSyncWord :: msgId :: (kind.sender wire ++ kind.receiver wire ++ body)

theorem Wire.header (wire : Wire) : sppMsgHdrSize wire.addressLength = 2 + wire.addressLength.toNat * 2 := rfl

section Client
variable {wire : Wire} {client : SppClientEngine σ}

theorem ClientConfigured.addressed (configured : ClientConfigured wire client) :
    AddressedTo client client.hostAddress wire.client wire.host where
  sender := configured.clientAddress
  ownLength := by rw [configured.addressLength, wire.clientLength]
  receiver := configured.hostAddress
  destinationLength := by rw [configured.addressLength, wire.hostLength]

theorem ClientConfigured.broadcasting (configured : ClientConfigured wire client) :
    AddressedTo client client.broadcastAddress wire.client wire.broadcast where
  sender := configured.clientAddress
  ownLength := by rw [configured.addressLength, wire.clientLength]
  receiver := configured.broadcastAddress
  destinationLength := by rw [configured.addressLength, wire.broadcastLength]

/-- Where the limit allows, the client builds the format. -/
theorem client_builds_bytes (configured : ClientConfigured wire client) {body : ToHost}
    {built : Except Fault (List UInt8)} (builds : ClientBuilds client body built)
    (within : wire.addressLength.toNat ≤ body.kind.limit) :
    ∃ behind, built = .ok (onWire wire body.kind body.msgId (body.bytes ++ behind)) ∧
      (body.kind = .listResponse ∨ behind = []) ∧ behind.length ≤ 1 := by
  have header : sppMsgHdrSize client.addressLength = 2 + wire.addressLength.toNat * 2 := by
    rw [configured.addressLength, wire.header]
  cases builds with
  | connectRequest stack =>
    have limit : wire.addressLength.toNat ≤ 125 := within
    exact ⟨[], clientStart_written configured.broadcasting (by omega) stack, .inr rfl, Nat.zero_le _⟩
  | listResponse stack numBytes =>
    have limit : wire.addressLength.toNat ≤ 124 := within
    obtain ⟨unset, written⟩ := propertyListMessage_written configured.addressed (by omega) stack numBytes
    exact ⟨[unset], written, .inl rfl, Nat.le_refl _⟩
  | definition stack pd terminated propsRemaining =>
    have limit : wire.addressLength.toNat ≤ 1 := within
    have positive := wire.positive
    have written := propertyDefinitionMessage_written configured.addressed (by omega) stack terminated propsRemaining
    refine ⟨[], ?_, .inr rfl, Nat.zero_le _⟩
    rw [List.append_nil]
    exact written
  | getResponse stack pd token id value whole =>
    have limit : wire.addressLength.toNat ≤ 124 := within
    obtain ⟨behind, total, written⟩ :=
      getResponseMessage_written configured.addressed (by omega) stack pd token id whole.le
    obtain rfl : behind = [] := List.length_eq_zero_iff.mp (by omega)
    rw [List.append_nil] at written
    refine ⟨[], ?_, .inr rfl, Nat.zero_le _⟩
    rw [List.append_nil]
    exact written
  | setResponse stack token =>
    have limit : wire.addressLength.toNat ≤ 125 := within
    exact ⟨[], setResponseMessage_written configured.addressed (by omega) stack token, .inr rfl, Nat.zero_le _⟩
  | stream stack s timestamp defined here whole =>
    refine ⟨[], ?_, .inr rfl, Nat.zero_le _⟩
    rw [streamMessage_written configured.addressed stack defined here whole timestamp, List.append_nil]
    rfl

end Client

section Host
variable {wire : Wire} {host : SppHostEngine} {client : SppAddress}

theorem HostConfigured.header (configured : HostConfigured wire host client) (messageId : UInt8) :
    sppFillMessageHeader host client messageId =
      .ok (sppMsgSyncWord :: messageId :: (wire.host ++ wire.client)) := by
  obtain ⟨others, own⟩ := configured.hostAddress
  obtain ⟨rest, reads⟩ := configured.clientAddress
  rw [sppFillMessageHeader, own, ok_bind, reads, ok_bind, configured.addressLength]
  exact messageHeader_eq wire.hostLength wire.clientLength others rest messageId

theorem streamRequestMessage_eq (configured : HostConfigured wire host client) (token streamType streamId : UInt8)
    (id period : UInt16) :
    streamRequestMessage host client token streamType streamId id period =
      .ok (onWire wire .streamRequest sppMsgStreamRequestId
        ((ToClient.streamRequest token streamType streamId id period).bytes.take sppMsgStreamRequestSize)) := by
  rw [streamRequestMessage, configured.header]
  rfl

theorem host_builds_bytes (configured : HostConfigured wire host client) {body : ToClient}
    {built : Except Fault (List UInt8)} (builds : HostBuilds host client body built)
    (complete : body.kind ≠ .streamRequest) : built = .ok (onWire wire body.kind body.msgId body.bytes) := by
  cases builds with
  | connectResponse status =>
    rw [connectResponseMessage, configured.header, ok_bind, pure_eq_ok, List.cons_append, List.cons_append]
    rfl
  | getRequest token id =>
    rw [getRequestMessage, configured.header, ok_bind, pure_eq_ok, List.append_assoc, List.cons_append,
      List.cons_append]
    rfl
  | setRequest token size id value whole =>
    rw [setRequestMessage, configured.header, ok_bind, pure_eq_ok, List.append_assoc, List.append_assoc,
      List.cons_append, List.cons_append]
    rfl
  | streamRequest token streamType streamId id period => exact absurd rfl complete

end Host

/-! ## What is read -/

theorem MessageKind.length_sender (wire : Wire) (kind : MessageKind) :
    (kind.sender wire).length = wire.addressLength.toNat := by
  cases kind
  all_goals first | exact wire.clientLength | exact wire.hostLength

theorem MessageKind.length_receiver (wire : Wire) (kind : MessageKind) :
    (kind.receiver wire).length = wire.addressLength.toNat := by
  cases kind
  all_goals first | exact wire.clientLength | exact wire.hostLength | exact wire.broadcastLength

theorem length_header (wire : Wire) (kind : MessageKind) (msgId : UInt8) :
    (sppMsgSyncWord :: msgId :: (kind.sender wire ++ kind.receiver wire)).length =
      sppMsgHdrSize wire.addressLength := by
  simp only [List.length_cons, List.length_append, kind.length_sender, kind.length_receiver, sppMsgHdrSize]
  omega

theorem length_onWire (wire : Wire) (kind : MessageKind) (msgId : UInt8) (body : List UInt8) :
    (onWire wire kind msgId body).length = sppMsgHdrSize wire.addressLength + body.length := by
  rw [← length_header wire kind msgId, ← List.length_append]
  rfl

theorem ToHost.kind_sender (wire : Wire) (body : ToHost) : body.kind.sender wire = wire.client := by
  cases body <;> rfl

theorem ToClient.kind_sender (wire : Wire) (body : ToClient) : body.kind.sender wire = wire.host := by
  cases body <;> rfl

/-- The host reads what has the format, and mixes the two addresses. -/
theorem readMessageToHost_onWire (wire : Wire) (body : ToHost) {len : UInt16}
    (long : sppMsgHdrSize wire.addressLength ≤ len.toNat) (named : body.Named wire.addressLength len)
    (trailing : List UInt8) :
    readMessageToHost wire.addressLength (onWire wire body.kind body.msgId (body.bytes ++ trailing)) len =
      .ok (some (misread (body.kind.sender wire) (body.kind.receiver wire), body.followedBy trailing)) := by
  rw [wire.header] at long
  have header := @readHeader_built wire.addressLength body.msgId (body.kind.sender wire) (body.kind.receiver wire)
    wire.positive (body.kind.length_sender wire) (body.kind.length_receiver wire) (body.bytes ++ trailing) len
    (by omega)
  have fields := readToHost_bytes (length_header wire body.kind body.msgId) body named trailing
  refine bind_eq_ok.mpr ⟨_, header, ?_⟩
  exact bind_eq_ok.mpr ⟨_, fields, rfl⟩

theorem readMessageToClient_onWire (wire : Wire) (body : ToClient) {len : UInt16}
    (long : sppMsgHdrSize wire.addressLength ≤ len.toNat) (indexed : body.Indexed wire.addressLength)
    (trailing : List UInt8) :
    readMessageToClient wire.addressLength (onWire wire body.kind body.msgId (body.bytes ++ trailing)) len =
      .ok (some (misread (body.kind.sender wire) (body.kind.receiver wire), body.followedBy trailing)) := by
  have senderLength := body.kind.length_sender wire
  have own := @loadRange_first wire.addressLength body.msgId (body.kind.sender wire) (body.kind.receiver wire)
    senderLength (body.bytes ++ trailing)
  have mixed := @loadRange_misread wire.addressLength body.msgId (body.kind.sender wire) (body.kind.receiver wire)
    wire.positive senderLength (body.kind.length_receiver wire) (body.bytes ++ trailing)
  have fields := readToClient_bytes (length_header wire body.kind body.msgId) body indexed trailing
  rw [readMessageToClient, if_neg (Nat.not_lt.mpr long)]
  refine bind_eq_ok.mpr ⟨sppMsgSyncWord, rfl, bind_eq_ok.mpr ⟨body.msgId, rfl, ?_⟩⟩
  rw [if_neg (by simp)]
  refine bind_eq_ok.mpr ⟨_, own, bind_eq_ok.mpr ⟨_, mixed, ?_⟩⟩
  exact bind_eq_ok.mpr ⟨_, fields, rfl⟩

/-! ## Where the limit allows -/

section Within
variable {wire : Wire}

theorem ClientBuilds.short {client : SppClientEngine σ} {body : ToHost} {built : Except Fault (List UInt8)}
    (builds : ClientBuilds client body built) : body.bytes.length ≤ 261 := by
  cases builds with
  | connectRequest stack => simp [ToHost.bytes]
  | listResponse stack numBytes => simp [ToHost.bytes]
  | definition stack pd terminated propsRemaining =>
    have named := length_sentName terminated
    have short : nameLength pd.name < 32 := nameLength_lt terminated
    simp only [ToHost.bytes, List.length_cons, List.length_append, length_bytes16, named]
    omega
  | getResponse stack pd token id value whole =>
    have small := pd.size.toNat_lt
    simp only [ToHost.bytes, List.length_cons, List.length_append, length_bytes16, whole]
    omega
  | setResponse stack token => simp [ToHost.bytes]
  | @stream stack s timestamp place pd defined here whole =>
    have small := pd.size.toNat_lt
    simp only [ToHost.bytes, List.length_cons, List.length_append, length_bytes32, whole]
    omega

theorem HostBuilds.short {host : SppHostEngine} {client : SppAddress} {body : ToClient}
    {built : Except Fault (List UInt8)} (builds : HostBuilds host client body built) : body.bytes.length ≤ 261 := by
  cases builds with
  | connectResponse status => simp [ToClient.bytes]
  | getRequest token id => simp [ToClient.bytes]
  | setRequest token size id value whole =>
    have small := size.toNat_lt
    simp only [ToClient.bytes, List.length_cons, List.length_append, length_bytes16, whole]
    omega
  | streamRequest token streamType streamId id period => simp [ToClient.bytes]

theorem ClientBuilds.named {client : SppClientEngine σ} {body : ToHost} {built : Except Fault (List UInt8)}
    (builds : ClientBuilds client body built) (addressLength : UInt8) {behind : Nat}
    (exact : body.kind = .listResponse ∨ behind = 0) :
    body.Named addressLength (UInt16.ofNat (sppMsgHdrSize addressLength + (body.bytes.length + behind))) := by
  cases builds with
  | definition stack pd terminated propsRemaining =>
    obtain rfl : behind = 0 := exact.resolve_left (by rintro ⟨⟩)
    have named := length_sentName terminated
    have short : nameLength pd.name < 32 := nameLength_lt terminated
    have small := addressLength.toNat_lt
    have six : (6 : UInt16).toNat = 6 := rfl
    simp only [ToHost.Named, ToHost.bytes, List.length_cons, List.length_append, length_bytes16, named,
      UInt16.toNat_toUInt8, UInt16.toNat_sub, UInt16.toNat_ofNat', sppMsgHdrSize, six]
    omega
  | connectRequest | listResponse | getResponse | setResponse | stream => exact True.intro

theorem ToClient.indexed_of_within {body : ToClient} (within : wire.addressLength.toNat ≤ body.kind.limit) :
    body.Indexed wire.addressLength := by
  have header := wire.header
  have positive := wire.positive
  cases body with
  | connectResponse status => exact True.intro
  | getRequest token id =>
    have limit : wire.addressLength.toNat ≤ 126 := within
    show sppMsgHdrSize wire.addressLength + 1 < 256
    omega
  | setRequest token size id value =>
    have limit : wire.addressLength.toNat ≤ 124 := within
    show sppMsgHdrSize wire.addressLength + 4 < 256
    omega
  | streamRequest token streamType streamId id period =>
    have limit : wire.addressLength.toNat ≤ 0 := within
    omega

theorem Wire.messageSize16_onWire (wire : Wire) (kind : MessageKind) (msgId : UInt8) {body : List UInt8}
    (short : body.length ≤ 262) :
    messageSize16 (onWire wire kind msgId body) = UInt16.ofNat (sppMsgHdrSize wire.addressLength + body.length) ∧
      sppMsgHdrSize wire.addressLength ≤ (messageSize16 (onWire wire kind msgId body)).toNat := by
  have header := wire.header
  have small := wire.addressLength.toNat_lt
  rw [messageSize16, length_onWire, toNat_ofNat16 (by omega)]
  exact ⟨rfl, Nat.le_add_right _ _⟩

/-- The host reads what the client builds, but mixes the two addresses. -/
theorem client_message_read {client : SppClientEngine σ} (configured : ClientConfigured wire client) {body : ToHost}
    {built : Except Fault (List UInt8)} (builds : ClientBuilds client body built)
    (within : wire.addressLength.toNat ≤ body.kind.limit) :
    ReadByHost wire (misread (body.kind.sender wire) (body.kind.receiver wire)) body built := by
  obtain ⟨behind, built, known, few⟩ := client_builds_bytes configured builds within
  have short := builds.short
  have size : (body.bytes ++ behind).length ≤ 262 := by
    rw [List.length_append]
    omega
  obtain ⟨length, long⟩ := wire.messageSize16_onWire body.kind body.msgId size
  have named : body.Named wire.addressLength
      (messageSize16 (onWire wire body.kind body.msgId (body.bytes ++ behind))) := by
    rw [length, List.length_append]
    exact builds.named wire.addressLength (known.imp_right List.length_eq_zero_iff.mpr)
  have same (trailing : List UInt8) : body.followedBy (behind ++ trailing) = body.followedBy trailing := by
    rcases known with list | rfl
    · cases body with
      | listResponse => rfl
      | connectRequest | definition | getResponse | setResponse | stream => cases list
    · rfl
  refine ⟨_, built, fun trailing => ?_⟩
  have read := readMessageToHost_onWire wire body long named (behind ++ trailing)
  rw [same] at read
  rw [← read, onWire, onWire]
  simp only [List.cons_append, List.append_assoc]

theorem host_message_read {host : SppHostEngine} {client : SppAddress} (configured : HostConfigured wire host client)
    {body : ToClient} {built : Except Fault (List UInt8)} (builds : HostBuilds host client body built)
    (within : wire.addressLength.toNat ≤ body.kind.limit) :
    ReadByClient wire (misread (body.kind.sender wire) (body.kind.receiver wire)) body built := by
  have complete : body.kind ≠ .streamRequest := by
    intro stream
    have none : wire.addressLength.toNat ≤ 0 := by rwa [stream] at within
    exact absurd (Nat.le_trans wire.positive none) (by decide)
  have built := host_builds_bytes configured builds complete
  have short := builds.short
  obtain ⟨length, long⟩ := wire.messageSize16_onWire body.kind body.msgId (Nat.le_succ_of_le short)
  refine ⟨_, built, fun trailing => ?_⟩
  rw [← readMessageToClient_onWire wire body long (ToClient.indexed_of_within within) trailing, onWire, onWire]
  simp only [List.cons_append, List.append_assoc]

end Within

/-! ## The functions that send the messages of the host -/

section Sending
variable {host host' : SppHostEngine} {client : SppAddress} {effects : List HostEffect} {status : SppStatus}
  {message : List UInt8}

theorem sppSendConnectBusyResponse_eq (host : SppHostEngine) (client : SppAddress) :
    sppSendConnectBusyResponse host client =
      (connectResponseMessage host client sppStatusBusy).map fun message => [.sendMessage message] := by
  unfold sppSendConnectBusyResponse connectResponseMessage
  cases sppFillMessageHeader host client sppMsgConnectResponseId <;> rfl

theorem sppConnectToClient_builds (connects : sppConnectToClient host client = .ok (host', effects)) :
    ∃ added known status message, AddOutcome host added client known ∧ effects = [.sendMessage message] ∧
      HostBuilds added known (.connectResponse status) (.ok message) := by
  obtain ⟨added, known, header, status, outcome, filled, -, sent⟩ := sppConnectToClient_outcome connects
  have built : connectResponseMessage added known status = .ok (header ++ [status]) :=
    bind_eq_ok.mpr ⟨header, filled, rfl⟩
  refine ⟨added, known, status, header ++ [status], outcome, sent, ?_⟩
  rw [← built]
  exact .connectResponse status

theorem AddOutcome.configured {wire : Wire} {added : SppHostEngine} {known : SppAddress}
    (outcome : AddOutcome host added client known) (configured : HostConfigured wire host client) {own : List UInt8}
    (outside : host.hostAddress.address = .external own) : HostConfigured wire added known := by
  cases outcome with
  | known place found same pointer =>
    subst same pointer
    exact configured
  | new unknown bound address bytes addressBuffer reads loaded stored pointer entered =>
    obtain ⟨rest, whole⟩ := configured.clientAddress
    obtain rfl : wire.client ++ rest = address := Option.some.inj ((deref_eq_ok.mp whole).symm.trans reads)
    rw [configured.addressLength, ← wire.clientLength, loadRange_front] at loaded
    obtain rfl := Except.ok.inj loaded
    obtain ⟨room, rfl⟩ := storeRange_eq_ok.mp stored
    have hostAddress := configured.hostAddress
    rw [outside] at hostAddress
    subst entered pointer
    refine ⟨configured.addressLength, ?_, host.addressBuffer.drop (host.clientCount.toNat + wire.client.length), ?_⟩
    · rw [outside]
      exact hostAddress
    · have front : (host.addressBuffer.take host.clientCount.toNat).length = host.clientCount.toNat :=
        List.length_take_of_le (by omega)
      have fits : wire.client.take (host.addressBuffer.length - host.clientCount.toNat) = wire.client :=
        List.take_of_length_le (by omega)
      apply deref_eq_ok.mpr
      rw [AddressPtr.read, overwrite, fits, List.append_assoc, List.drop_left' front]

theorem RequestDone.builds {call : HostCall} (done : RequestDone host host' effects status call)
    (sends : .sendMessage message ∈ effects) :
    match call with
    | .getValue client id => ∃ token, HostBuilds host client (.getRequest token id) (.ok message)
    | .setValue client id value => ∃ token size bytes, loadRange value 0 size.toNat = .ok bytes ∧
        HostBuilds host client (.setRequest token size id bytes) (.ok message)
    | .startStream client id period streamType _ _ => ∃ token,
        HostBuilds host client (.streamRequest token streamType host.streamCount id period) (.ok message)
    | _ => False := by
  cases done with
  | full _ full same silent failed =>
    rw [silent] at sends
    cases sends
  | refused _ room same silent failed =>
    rw [silent] at sends
    cases sends
  | @getValue client id header room filled drawn sent ok =>
    rw [sent, List.mem_singleton, HostEffect.sendMessage.injEq] at sends
    have built : getRequestMessage host client host.pending.next id = .ok message :=
      bind_eq_ok.mpr ⟨header, filled, congrArg Except.ok sends.symm⟩
    refine ⟨host.pending.next, ?_⟩
    rw [← built]
    exact .getRequest _ id
  | @setValue client id value header bytes place pd room defined stored loaded filled drawn sent ok =>
    rw [sent, List.mem_singleton, HostEffect.sendMessage.injEq] at sends
    have built : setRequestMessage host client host.pending.next pd.size id bytes = .ok message :=
      bind_eq_ok.mpr ⟨header, filled, congrArg Except.ok sends.symm⟩
    refine ⟨host.pending.next, pd.size, bytes, loaded, ?_⟩
    rw [← built]
    exact .setRequest _ pd.size id bytes (loadRange_length loaded)
  | @startStream client id period streamType stream spare place object header room defined here bound filled spared
      entered sent ok =>
    rw [sent, List.mem_singleton, HostEffect.sendMessage.injEq] at sends
    have built : streamRequestMessage host client host.pending.next streamType host.streamCount id period =
        .ok message :=
      bind_eq_ok.mpr ⟨header, filled, congrArg Except.ok sends.symm⟩
    refine ⟨host.pending.next, ?_⟩
    rw [← built]
    exact .streamRequest _ streamType host.streamCount id period

end Sending

end TvcHopper.Spp
