import TvcHopper.Spp.Wire

/-! For which addresses the engines agree on the format.

Beyond its limit a message does not fit into an array whose length was cut to
eight bits, or a field stands where the other engine does not look for it.
-/

set_option autoImplicit false

namespace TvcHopper.Spp
open Machine

variable {σ : Type}

/-! ## What a reading says about the message -/

section Reading
variable {addressLength msgId : UInt8} {message sender : List UInt8} {len : UInt16}

theorem readToHost_msgId {body : ToHost} (reads : readToHost addressLength msgId message len = .ok (some body)) :
    body.msgId = msgId := by
  unfold readToHost at reads
  split_ifs at reads
  all_goals simp only [bind_eq_ok, pure_eq_ok, Except.ok.injEq, Option.some.injEq, reduceCtorEq] at reads
  all_goals grind [ToHost.msgId]

theorem readMessageToHost_fields {body : ToHost}
    (reads : readMessageToHost addressLength message len = .ok (some (sender, body))) :
    readToHost addressLength body.msgId message len = .ok (some body) := by
  obtain ⟨header, -, reads⟩ := bind_eq_ok.mp reads
  cases header with
  | error status => cases reads
  | ok header =>
    simp only [bind_eq_ok, pure_eq_ok, Except.ok.injEq, Option.map_eq_some_iff, Prod.mk.injEq] at reads
    obtain ⟨_, fields, _, rfl, -, rfl⟩ := reads
    rw [readToHost_msgId fields, fields]

theorem readToClient_msgId {body : ToClient} (reads : readToClient addressLength msgId message = .ok (some body)) :
    body.msgId = msgId := by
  unfold readToClient at reads
  split_ifs at reads
  all_goals simp only [bind_eq_ok, pure_eq_ok, Except.ok.injEq, Option.some.injEq, reduceCtorEq] at reads
  all_goals grind [ToClient.msgId]

theorem readMessageToClient_fields {body : ToClient}
    (reads : readMessageToClient addressLength message len = .ok (some (sender, body))) :
    readToClient addressLength body.msgId message = .ok (some body) := by
  unfold readMessageToClient at reads
  split at reads
  · cases reads
  obtain ⟨sync, -, reads⟩ := bind_eq_ok.mp reads
  obtain ⟨msgId, -, reads⟩ := bind_eq_ok.mp reads
  split at reads
  · cases reads
  simp only [bind_eq_ok, pure_eq_ok, Except.ok.injEq, Option.map_eq_some_iff, Prod.mk.injEq] at reads
  obtain ⟨_, -, _, -, _, fields, _, rfl, -, rfl⟩ := reads
  rw [readToClient_msgId fields, fields]

theorem definition_size {propSize propsRemaining : UInt8} {propId : UInt16} {propType propFlags : UInt8}
    {name : List UInt8}
    (reads : readMessageToHost addressLength message len =
      .ok (some (sender, .definition propSize propsRemaining propId propType propFlags name))) :
    message[sppMsgHdrSize addressLength]? = some propSize := by
  have fields := readMessageToHost_fields reads
  obtain ⟨_, size, fields⟩ := bind_eq_ok.mp (show (_ >>= _) = _ from fields)
  simp only [bind_eq_ok, pure_eq_ok, Except.ok.injEq, Option.some.injEq, ToHost.definition.injEq] at fields
  obtain ⟨_, -, _, -, _, -, _, -, _, -, rfl, -⟩ := fields
  have here := load_eq_ok.mp size
  rwa [List.getElem?_drop, Nat.add_zero] at here

theorem getResponse_value {token status size : UInt8} {id : UInt16} {value : List UInt8}
    (reads : readMessageToHost addressLength message len =
      .ok (some (sender, .getResponse token status size id value))) :
    value = message.drop (sppMsgHdrSize addressLength + 5) := by
  have fields := readMessageToHost_fields reads
  obtain ⟨_, -, fields⟩ := bind_eq_ok.mp (show (_ >>= _) = _ from fields)
  simp only [bind_eq_ok, pure_eq_ok, Except.ok.injEq, Option.some.injEq, ToHost.getResponse.injEq] at fields
  obtain ⟨_, -, _, -, _, -, -, -, -, -, rfl⟩ := fields
  rfl

theorem getRequest_token {token : UInt8} {id : UInt16}
    (reads : readMessageToClient addressLength message len = .ok (some (sender, .getRequest token id))) :
    message[(UInt8.ofNat (sppMsgHdrSize addressLength)).toNat]? = some token := by
  have fields := readMessageToClient_fields reads
  obtain ⟨_, first, fields⟩ := bind_eq_ok.mp (show (_ >>= _) = _ from fields)
  simp only [bind_eq_ok, pure_eq_ok, Except.ok.injEq, Option.some.injEq, ToClient.getRequest.injEq] at fields
  obtain ⟨_, -, rfl, -⟩ := fields
  exact load_eq_ok.mp first

theorem setRequest_value {token size : UInt8} {id : UInt16} {value : List UInt8}
    (reads : readMessageToClient addressLength message len = .ok (some (sender, .setRequest token size id value))) :
    value = message.drop (UInt8.ofNat (sppMsgHdrSize addressLength) + 4).toNat := by
  have fields := readMessageToClient_fields reads
  obtain ⟨_, -, fields⟩ := bind_eq_ok.mp (show (_ >>= _) = _ from fields)
  simp only [bind_eq_ok, pure_eq_ok, Except.ok.injEq, Option.some.injEq, ToClient.setRequest.injEq] at fields
  obtain ⟨_, -, _, -, -, -, -, rfl⟩ := fields
  rfl

end Reading

/-! ## Engines with the addresses -/

/-- A property of this size, with an empty name and zeros otherwise. -/
def blankProperty (size : UInt8) : SppPropertyDefinition := ⟨0, 0, size, 0, .replicate _ 0, 0⟩

namespace Wire
variable (wire : Wire)

/-- A client with one property, whose value is empty. -/
def plainClient : SppClientEngine Unit where
  broadcastAddress := ⟨.external wire.broadcast, 0⟩
  clientAddress := ⟨.external wire.client, 0⟩
  hostAddress := ⟨.permanent 0, 0⟩
  hostAddressBuffer := wire.host
  propertyCount := 1
  propertyListId := 0
  addressLength := wire.addressLength
  isDuplicate := false
  properties := [blankProperty 0]
  callbacks := { setValue := fun _ _ _ => ((), sppStatusOk), getValue := fun _ _ => ((), [], sppStatusOk) }
  streamCount := 0
  streams := .replicate _ ⟨none, 0, 0, none, 0, 0⟩
  instanceData := ()

theorem plainClient_configured : ClientConfigured wire wire.plainClient where
  addressLength := rfl
  clientAddress := ⟨[], congrArg Except.ok (List.append_nil wire.client).symm⟩
  hostAddress := ⟨[], congrArg Except.ok (List.append_nil wire.host).symm⟩
  broadcastAddress := ⟨[], congrArg Except.ok (List.append_nil wire.broadcast).symm⟩

def plainHost : SppHostEngine :=
  { staticHost with
    addressLength := wire.addressLength
    hostAddress := ⟨.external wire.host, 0⟩ }

def clientAddress : SppAddress := ⟨.external wire.client, 0⟩

theorem plainHost_configured : HostConfigured wire wire.plainHost wire.clientAddress where
  addressLength := rfl
  hostAddress := ⟨[], congrArg Except.ok (List.append_nil wire.host).symm⟩
  clientAddress := ⟨[], congrArg Except.ok (List.append_nil wire.client).symm⟩

end Wire

/-! ## The limits -/

section Limits
variable {wire : Wire}

/-- The header is written only into an array whose length has not been cut. -/
theorem Client.messageLength_whole {client : SppClientEngine σ} {stack : Nat → UInt8} {body : Nat}
    {receiver sender : SppAddress} {messageId : UInt8} {message : List UInt8} (short : body < 256)
    (filled : sppFillMessageHeader client (localArray stack (messageLength client body)) receiver sender messageId =
      .ok message) : sppMsgHdrSize client.addressLength + body < 256 := by
  obtain ⟨_, -, filled⟩ := bind_eq_ok.mp filled
  obtain ⟨_, -, filled⟩ := bind_eq_ok.mp filled
  obtain ⟨header, whole, stored⟩ := bind_eq_ok.mp filled
  obtain ⟨room, -⟩ := storeRange_eq_ok.mp stored
  rw [messageHeader_length whole, length_localArray, messageLength, messageSize, UInt8.toNat_ofNat'] at room
  omega

theorem Client.sppFillMessageHeader_behind {client : SppClientEngine σ} {buffer message : List UInt8}
    {receiver sender : SppAddress} {messageId : UInt8}
    (filled : sppFillMessageHeader client buffer receiver sender messageId = .ok message) {i : Nat}
    (behind : sppMsgHdrSize client.addressLength ≤ i) : message[i]? = buffer[i]? := by
  obtain ⟨_, -, filled⟩ := bind_eq_ok.mp filled
  obtain ⟨_, -, filled⟩ := bind_eq_ok.mp filled
  obtain ⟨header, whole, stored⟩ := bind_eq_ok.mp filled
  apply storeRange_elsewhere stored
  right
  rw [messageHeader_length whole]
  omega

theorem connectRequest_limit (agrees : WireAgrees wire .connectRequest) : wire.addressLength.toNat ≤ 125 := by
  obtain ⟨message, built, -⟩ := agrees.1 Unit wire.plainClient _ _ wire.plainClient_configured
    (.connectRequest fun _ _ => 0) rfl
  obtain ⟨_, filled, -⟩ := bind_eq_ok.mp built
  have whole : sppMsgHdrSize wire.addressLength + 2 < 256 := Client.messageLength_whole (by decide) filled
  rw [wire.header] at whole
  omega

theorem listResponse_limit (agrees : WireAgrees wire .listResponse) : wire.addressLength.toNat ≤ 124 := by
  obtain ⟨message, built, -⟩ := agrees.1 Unit wire.plainClient _ _ wire.plainClient_configured
    (.listResponse (fun _ => 0) 0) rfl
  obtain ⟨_, filled, -⟩ := bind_eq_ok.mp built
  have whole : sppMsgHdrSize wire.addressLength + 4 < 256 := Client.messageLength_whole (by decide) filled
  rw [wire.header] at whole
  omega

theorem setResponse_limit (agrees : WireAgrees wire .setResponse) : wire.addressLength.toNat ≤ 125 := by
  obtain ⟨message, built, -⟩ := agrees.1 Unit wire.plainClient _ _ wire.plainClient_configured
    (.setResponse (fun _ => 0) 0) rfl
  obtain ⟨_, filled, -⟩ := bind_eq_ok.mp built
  have whole : sppMsgHdrSize wire.addressLength + 2 < 256 := Client.messageLength_whole (by decide) filled
  rw [wire.header] at whole
  omega

/-- The place where the host looks for the size lies behind the place of the size and holds a zero. -/
theorem definition_limit (agrees : WireAgrees wire .definition) : wire.addressLength.toNat ≤ 1 := by
  have terminated : (0 : UInt8) ∈ (blankProperty 1).name.toList := by decide
  obtain ⟨message, built, reads⟩ := agrees.1 Unit wire.plainClient _ _ wire.plainClient_configured
    (.definition (fun _ => 0) (blankProperty 1) terminated 0) rfl
  by_contra long
  have header := wire.header
  have found := definition_size (reads [])
  rw [List.append_nil] at found
  obtain ⟨_, -, built⟩ := bind_eq_ok.mp built
  obtain ⟨_, filled, built⟩ := bind_eq_ok.mp built
  obtain ⟨_, size, built⟩ := bind_eq_ok.mp built
  obtain ⟨_, remaining, built⟩ := bind_eq_ok.mp built
  obtain ⟨_, id, built⟩ := bind_eq_ok.mp built
  obtain ⟨_, type, built⟩ := bind_eq_ok.mp built
  obtain ⟨_, flags, name⟩ := bind_eq_ok.mp built
  -- everything that is written behind the size is zero
  have blank : 1 ∉ (blankProperty 1).name.toList := by decide
  replace found := (storeRange_found name found).resolve_right (mt List.mem_of_mem_take blank)
  replace found := (storeRange_found flags found).resolve_right (by decide)
  replace found := (storeRange_found type found).resolve_right (by decide)
  replace found := (storeRange_found id found).resolve_right (by decide)
  replace found := (storeRange_found remaining found).resolve_right (by decide)
  rw [storeRange_elsewhere size (.inr (by rw [List.length_singleton]; omega))] at found
  have array := (Client.sppFillMessageHeader_behind filled (Nat.le_refl _)).symm.trans found
  exact absurd (localArray_found array) (by decide)

/-- The place where the host looks for the value lies behind everything that is written. -/
theorem getResponse_limit (agrees : WireAgrees wire .getResponse) : wire.addressLength.toNat ≤ 124 := by
  obtain ⟨message, built, reads⟩ := agrees.1 Unit wire.plainClient _ _ wire.plainClient_configured
    (.getResponse (fun _ => 1) (blankProperty 1) 0 0 [0] rfl) rfl
  by_contra long
  have header := wire.header
  have found : message[sppMsgHdrSize wire.addressLength + 5]? = some 0 := by
    have value := getResponse_value (reads [])
    rw [List.append_nil, List.append_nil] at value
    rw [← Nat.add_zero (sppMsgHdrSize wire.addressLength + 5), ← List.getElem?_drop, ← value]
    rfl
  obtain ⟨_, filled, built⟩ := bind_eq_ok.mp built
  obtain ⟨_, token, built⟩ := bind_eq_ok.mp built
  obtain ⟨_, status, built⟩ := bind_eq_ok.mp built
  obtain ⟨_, size, built⟩ := bind_eq_ok.mp built
  obtain ⟨_, id, value⟩ := bind_eq_ok.mp built
  have before {memory memory' values : List UInt8} {index : UInt8}
      (stored : storeRange memory index.toNat values = .ok memory') (short : values.length ≤ 2) :
      memory'[sppMsgHdrSize wire.addressLength + 5]? = memory[sppMsgHdrSize wire.addressLength + 5]? := by
    have small := index.toNat_lt
    exact storeRange_elsewhere stored (.inr (by omega))
  rw [before value (by decide), before id (by decide), before size (by decide), before status (by decide),
    before token (by decide)] at found
  have array := (Client.sppFillMessageHeader_behind filled (Nat.le_add_right _ 5)).symm.trans found
  exact absurd (localArray_found array) (by decide)

/-- The client looks for the token in the header, which is the same for every token. -/
theorem getRequest_limit (agrees : WireAgrees wire .getRequest) : wire.addressLength.toNat ≤ 126 := by
  by_contra long
  have header := wire.header
  have whole := length_header wire .getRequest sppMsgGetRequestId
  have below : (UInt8.ofNat (sppMsgHdrSize wire.addressLength)).toNat < sppMsgHdrSize wire.addressLength := by
    rw [UInt8.toNat_ofNat']
    omega
  replace below := below.trans_eq whole.symm
  have found (token : UInt8) :
      (sppMsgSyncWord :: sppMsgGetRequestId ::
        (MessageKind.getRequest.sender wire ++ MessageKind.getRequest.receiver wire))[
          (UInt8.ofNat (sppMsgHdrSize wire.addressLength)).toNat]? = some token := by
    obtain ⟨message, built, reads⟩ := agrees.2 wire.plainHost wire.clientAddress _ _ wire.plainHost_configured
      (.getRequest token 0) rfl
    have bytes := host_builds_bytes wire.plainHost_configured (.getRequest token 0) (by rintro ⟨⟩)
    obtain rfl := Except.ok.inj (bytes.symm.trans built)
    have read := getRequest_token (reads [])
    rw [List.append_nil] at read
    exact (List.getElem?_append_left below).symm.trans read
  exact absurd ((found 0).symm.trans (found 1)) (by decide)

/-- What the client takes for the value starts before it. -/
theorem setRequest_limit (agrees : WireAgrees wire .setRequest) : wire.addressLength.toNat ≤ 124 := by
  obtain ⟨message, built, reads⟩ := agrees.2 wire.plainHost wire.clientAddress _ _ wire.plainHost_configured
    (.setRequest 0 0 0 [] rfl) rfl
  by_contra long
  have header := wire.header
  have bytes := host_builds_bytes wire.plainHost_configured (.setRequest 0 0 0 [] rfl) (by rintro ⟨⟩)
  obtain rfl := Except.ok.inj (bytes.symm.trans built)
  have value := congrArg List.length (setRequest_value (reads []))
  have small := (UInt8.ofNat (sppMsgHdrSize wire.addressLength) + 4).toNat_lt
  rw [List.append_nil, List.append_nil, List.length_nil, List.length_drop, length_onWire] at value
  have four : (ToClient.setRequest 0 0 0 []).bytes.length = 4 := rfl
  omega

/-- Periods with the same low byte give the same message. -/
theorem streamRequest_limit : ¬WireAgrees wire .streamRequest := by
  intro agrees
  obtain ⟨message, built, reads⟩ := agrees.2 wire.plainHost wire.clientAddress _ _ wire.plainHost_configured
    (.streamRequest 0 0 0 0 0) rfl
  obtain ⟨message', built', reads'⟩ := agrees.2 wire.plainHost wire.clientAddress _ _ wire.plainHost_configured
    (.streamRequest 0 0 0 0 256) rfl
  rw [streamRequestMessage_eq wire.plainHost_configured] at built built'
  obtain rfl := Except.ok.inj (built.symm.trans built')
  have same := (reads []).symm.trans (reads' [])
  simp [ToClient.followedBy] at same

end Limits

/-! ## When the engines agree -/

section Agreement
variable {wire : Wire} {kind : MessageKind}

theorem WireAgrees.within (agrees : WireAgrees wire kind) : wire.addressLength.toNat ≤ kind.limit := by
  have small := wire.addressLength.toNat_lt
  cases kind with
  | connectRequest => exact connectRequest_limit agrees
  | listResponse => exact listResponse_limit agrees
  | definition => exact definition_limit agrees
  | getResponse => exact getResponse_limit agrees
  | setResponse => exact setResponse_limit agrees
  | stream => exact Nat.le_of_lt_succ small
  | connectResponse => exact Nat.le_of_lt_succ small
  | getRequest => exact getRequest_limit agrees
  | setRequest => exact setRequest_limit agrees
  | streamRequest => exact absurd agrees streamRequest_limit

theorem ReadByHost.unique {sender sender' : List UInt8} {body : ToHost} {built : Except Fault (List UInt8)}
    (one : ReadByHost wire sender body built) (other : ReadByHost wire sender' body built) : sender = sender' := by
  obtain ⟨message, rfl, reads⟩ := one
  obtain ⟨_, same, reads'⟩ := other
  obtain rfl := Except.ok.inj same
  have both := (reads []).symm.trans (reads' [])
  simpa using both

theorem ReadByClient.unique {sender sender' : List UInt8} {body : ToClient} {built : Except Fault (List UInt8)}
    (one : ReadByClient wire sender body built) (other : ReadByClient wire sender' body built) : sender = sender' := by
  obtain ⟨message, rfl, reads⟩ := one
  obtain ⟨_, same, reads'⟩ := other
  obtain rfl := Except.ok.inj same
  have both := (reads []).symm.trans (reads' [])
  simpa using both

theorem WireAgrees.sender (agrees : WireAgrees wire kind) :
    misread (kind.sender wire) (kind.receiver wire) = kind.sender wire := by
  have fromClient {body : ToHost} {built : Except Fault (List UInt8)}
      (builds : ClientBuilds wire.plainClient body built) (same : body.kind = kind) :
      misread (kind.sender wire) (kind.receiver wire) = kind.sender wire := by
    subst same
    rw [(client_message_read wire.plainClient_configured builds agrees.within).unique
      (agrees.1 Unit _ _ _ wire.plainClient_configured builds rfl), body.kind_sender]
  have fromHost {body : ToClient} {built : Except Fault (List UInt8)}
      (builds : HostBuilds wire.plainHost wire.clientAddress body built) (same : body.kind = kind) :
      misread (kind.sender wire) (kind.receiver wire) = kind.sender wire := by
    subst same
    rw [(host_message_read wire.plainHost_configured builds agrees.within).unique
      (agrees.2 _ _ _ _ wire.plainHost_configured builds rfl), body.kind_sender]
  cases kind with
  | connectRequest => exact fromClient (.connectRequest fun _ _ => 0) rfl
  | listResponse => exact fromClient (.listResponse (fun _ => 0) 0) rfl
  | definition => exact fromClient (.definition (fun _ => 0) (blankProperty 0) (by decide) 0) rfl
  | getResponse => exact fromClient (.getResponse (fun _ => 0) (blankProperty 0) 0 0 [] rfl) rfl
  | setResponse => exact fromClient (.setResponse (fun _ => 0) 0) rfl
  | stream =>
    exact fromClient (@ClientBuilds.stream _ wire.plainClient (fun _ => 0) ⟨some 0, 0, 0, none, 0, 0⟩ 0 0
      (blankProperty 0) rfl rfl rfl) rfl
  | connectResponse => exact fromHost (.connectResponse 0) rfl
  | getRequest => exact fromHost (.getRequest 0 0) rfl
  | setRequest => exact fromHost (.setRequest 0 0 0 [] rfl) rfl
  | streamRequest => exact fromHost (.streamRequest 0 0 0 0 0) rfl

theorem WireAgrees.of_within (within : wire.addressLength.toNat ≤ kind.limit)
    (same : misread (kind.sender wire) (kind.receiver wire) = kind.sender wire) : WireAgrees wire kind := by
  constructor
  · intro σ client body built configured builds is
    subst is
    have read := client_message_read configured builds within
    rwa [same, body.kind_sender] at read
  · intro host client body built configured builds is
    subst is
    have read := host_message_read configured builds within
    rwa [same, body.kind_sender] at read

/-- The engines agree on a kind of message exactly for the addresses within its limit whose
mixture is the sender's. -/
theorem wire_agrees_iff (wire : Wire) (kind : MessageKind) :
    WireAgrees wire kind ↔ wire.addressLength.toNat ≤ kind.limit ∧
      misread (kind.sender wire) (kind.receiver wire) = kind.sender wire := by
  constructor
  · intro agrees
    exact ⟨agrees.within, agrees.sender⟩
  · rintro ⟨within, same⟩
    exact .of_within within same

/-- With addresses of one byte only the stream request is not read as it was meant. -/
theorem one_byte_agrees (one : wire.addressLength = 1) (complete : kind ≠ .streamRequest) : WireAgrees wire kind := by
  have length : wire.addressLength.toNat = 1 := congrArg UInt8.toNat one
  apply WireAgrees.of_within
  · rw [length]
    cases kind with
    | streamRequest => exact absurd rfl complete
    | connectRequest | listResponse | definition | getResponse | setResponse | stream | connectResponse | getRequest
    | setRequest => decide
  · rw [misread, kind.length_sender, length, Nat.sub_self, List.drop_zero, List.take_zero, List.append_nil]

end Agreement

def twoByteWire : Wire where
  addressLength := 2
  host := [1, 2]
  client := [3, 4]
  broadcast := [0, 0]
  positive := by decide
  hostLength := rfl
  clientLength := rfl
  broadcastLength := rfl

/-- The host takes a set response of the client `3, 4` for one of a client `4, 1`. -/
theorem setResponse_from_stranger :
    Client.setResponseMessage twoByteWire.plainClient (fun _ => 0) 7 =
        .ok [sppMsgSyncWord, sppMsgSetResponseId, 3, 4, 1, 2, 7, sppStatusOk] ∧
      readMessageToHost 2 [sppMsgSyncWord, sppMsgSetResponseId, 3, 4, 1, 2, 7, sppStatusOk] 8 =
        .ok (some ([4, 1], .setResponse 7 sppStatusOk)) ∧
      ¬WireAgrees twoByteWire .setResponse := by
  have built : Client.setResponseMessage twoByteWire.plainClient (fun _ => 0) 7 =
      .ok [sppMsgSyncWord, sppMsgSetResponseId, 3, 4, 1, 2, 7, sppStatusOk] := by decide
  have read : readMessageToHost 2 [sppMsgSyncWord, sppMsgSetResponseId, 3, 4, 1, 2, 7, sppStatusOk] 8 =
      .ok (some ([4, 1], .setResponse 7 sppStatusOk)) := by decide
  refine ⟨built, read, ?_⟩
  intro agrees
  obtain ⟨message, same, reads⟩ := agrees.1 Unit _ _ _ twoByteWire.plainClient_configured
    (.setResponse (fun _ => 0) 7) rfl
  obtain rfl := Except.ok.inj (built.symm.trans same)
  exact absurd ((reads []).symm.trans read) (by decide)

end TvcHopper.Spp
