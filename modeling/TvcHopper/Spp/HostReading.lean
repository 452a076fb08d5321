import TvcHopper.Spp.Fields

/-! What the host reads of a message.

The host reads all fields of a message before it acts on them, and checks only
that the header is there. The memory behind a message is not read exactly when
the body is whole, and then it has no influence but as the end of a value.
-/

set_option autoImplicit false

namespace TvcHopper.Spp
open Machine

inductive HostReading where
  | refused (status : SppStatus)
  | busy (sender : List UInt8)
  | fields (sender : List UInt8) (body : ToHost)
  | unknown
  deriving DecidableEq

/-- The message id whose fields are read: a stream response has those of a set response. -/
def fieldsId (msgId : UInt8) : UInt8 := if msgId = sppMsgStreamResponseId then sppMsgSetResponseId else msgId

/-- A busy host does not read the body of a connect request. -/
def readBodyForHost (host : SppHostEngine) (msgId : UInt8) (sender message : List UInt8) (len : UInt16) :
    Except Fault HostReading :=
  if msgId = sppMsgConnectRequestBcId ∧ host.state ≠ .ready then .ok (.busy sender)
  else do
    match ← readToHost host.addressLength (fieldsId msgId) message len with
    | some body => return .fields sender body
    | none => return .unknown

def readForHost (host : SppHostEngine) (message : List UInt8) (len : UInt16) : Except Fault HostReading := do
  match ← readHeader host.addressLength message len with
  | .error status => return .refused status
  | .ok (msgId, sender) => readBodyForHost host msgId sender message len

namespace HostReading

def act (host : SppHostEngine) (unset : Nat) : HostReading → HostResult
  | .refused status => .ok (host, [], status)
  | .busy sender => do return (host, ← sppSendConnectBusyResponse host ⟨.external sender, 0⟩, sppStatusOk)
  | .fields sender body => body.act host ⟨.external sender, 0⟩ unset
  | .unknown => .ok (host, [], sppStatusUnknownMsgId)

/-- The memory from a value on includes what follows the message. -/
def followedBy (trailing : List UInt8) : HostReading → HostReading
  | .fields sender body => .fields sender (body.followedBy trailing)
  | .refused status => .refused status
  | .busy sender => .busy sender
  | .unknown => .unknown

/-- The bytes of a value that is passed on are in the message: as many as the response announces, or the
definition of the stream says. -/
def ValueInside (host : SppHostEngine) : HostReading → Prop
  | .fields _ (.getResponse token status size _ value) =>
    token ∈ host.pendingRequestTokens.toList → status = sppStatusOk → size.toNat ≤ value.length
  | .fields _ (.stream streamId _ value) => ∀ index object place pd,
    loadCell host.streams streamId.toNat = .ok (some index) → host.streamObjects[index]? = some object →
      object.definition = some place → host.defsBuffer[place]? = some pd → pd.size.toNat ≤ value.length
  | _ => True

end HostReading

/-! ## The fields -/

namespace ToHost

def At (message : List UInt8) (start : Nat) (len : UInt16) : ToHost → Prop
  | .connectRequest propertyListId => load16 message start = .ok propertyListId
  | .listResponse numProps numBytes => load message start = .ok numProps ∧ load16 message (start + 1) = .ok numBytes
  | .definition propSize propsRemaining propId propType propFlags name =>
    load (message.drop start) 0 = .ok propSize ∧ load (message.drop start) 1 = .ok propsRemaining ∧
      load16 (message.drop start) 2 = .ok propId ∧ load (message.drop start) 4 = .ok propType ∧
      load (message.drop start) 5 = .ok propFlags ∧
      loadRange (message.drop start) 6 (len - UInt16.ofNat start - 6).toUInt8.toNat = .ok name
  | .getResponse token status size id value => load message start = .ok token ∧
      load message (start + 1) = .ok status ∧ load message (start + 2) = .ok size ∧
      load16 message (start + 3) = .ok id ∧ value = message.drop (start + 5)
  | .setResponse token status => load message start = .ok token ∧ load message (start + 1) = .ok status
  | .stream streamId timestamp value => load message start = .ok streamId ∧
      load32 message (start + 1) = .ok timestamp ∧ value = message.drop (start + 5)

def bodySize : ToHost → Nat
  | .connectRequest _ => 2
  | .listResponse _ _ => 3
  | .definition _ _ _ _ _ _ => 6
  | .getResponse _ _ _ _ _ => 5
  | .setResponse _ _ => 2
  | .stream _ _ _ => 5

end ToHost

section Fields
variable {addressLength msgId : UInt8} {message : List UInt8} {len : UInt16} {body : ToHost} {start : Nat}

theorem readToHost_eq_some : readToHost addressLength msgId message len = .ok (some body) ↔
    body.msgId = msgId ∧ body.At message (sppMsgHdrSize addressLength) len := by
  constructor
  · intro reads
    -- the branches of the source, in their order
    unfold readToHost at reads
    by_cases request : msgId = sppMsgConnectRequestBcId
    · simp only [if_pos request, bind_eq_ok, pure_eq_ok, Except.ok.injEq, Option.some.injEq] at reads
      obtain ⟨propertyListId, read, rfl⟩ := reads
      exact ⟨request.symm, read⟩
    rw [if_neg request] at reads
    by_cases list : msgId = sppMsgPropListResponseId
    · simp only [if_pos list, bind_eq_ok, pure_eq_ok, Except.ok.injEq, Option.some.injEq] at reads
      obtain ⟨numProps, first, numBytes, second, rfl⟩ := reads
      exact ⟨list.symm, first, second⟩
    rw [if_neg list] at reads
    by_cases defined : msgId = sppMsgPropDefId
    · simp only [if_pos defined, bind_eq_ok, pure_eq_ok, Except.ok.injEq, Option.some.injEq] at reads
      obtain ⟨size, r1, remaining, r2, id, r3, type, r4, flags, r5, name, r6, rfl⟩ := reads
      exact ⟨defined.symm, r1, r2, r3, r4, r5, r6⟩
    rw [if_neg defined] at reads
    by_cases got : msgId = sppMsgGetResponseId
    · simp only [if_pos got, bind_eq_ok, pure_eq_ok, Except.ok.injEq, Option.some.injEq] at reads
      obtain ⟨token, r1, status, r2, size, r3, id, r4, rfl⟩ := reads
      exact ⟨got.symm, r1, r2, r3, r4, rfl⟩
    rw [if_neg got] at reads
    by_cases done : msgId = sppMsgSetResponseId
    · simp only [if_pos done, bind_eq_ok, pure_eq_ok, Except.ok.injEq, Option.some.injEq] at reads
      obtain ⟨token, r1, status, r2, rfl⟩ := reads
      exact ⟨done.symm, r1, r2⟩
    rw [if_neg done] at reads
    by_cases streams : msgId = sppMsgStreamId
    · simp only [if_pos streams, bind_eq_ok, pure_eq_ok, Except.ok.injEq, Option.some.injEq] at reads
      obtain ⟨streamId, r1, timestamp, r2, rfl⟩ := reads
      exact ⟨streams.symm, r1, r2, rfl⟩
    · rw [if_neg streams] at reads
      cases reads
  · rintro ⟨rfl, here⟩
    -- backwards the body tells the branch
    cases body with
    | connectRequest propertyListId => exact bind_eq_ok.mpr ⟨propertyListId, here, rfl⟩
    | listResponse numProps numBytes =>
      obtain ⟨r1, r2⟩ := here
      exact bind_eq_ok.mpr ⟨numProps, r1, bind_eq_ok.mpr ⟨numBytes, r2, rfl⟩⟩
    | definition propSize propsRemaining propId propType propFlags name =>
      obtain ⟨r1, r2, r3, r4, r5, r6⟩ := here
      exact bind_eq_ok.mpr ⟨_, r1, bind_eq_ok.mpr ⟨_, r2, bind_eq_ok.mpr ⟨_, r3, bind_eq_ok.mpr ⟨_, r4,
        bind_eq_ok.mpr ⟨_, r5, bind_eq_ok.mpr ⟨_, r6, rfl⟩⟩⟩⟩⟩⟩
    | getResponse token status size id value =>
      obtain ⟨r1, r2, r3, r4, rfl⟩ := here
      exact bind_eq_ok.mpr ⟨_, r1, bind_eq_ok.mpr ⟨_, r2, bind_eq_ok.mpr ⟨_, r3, bind_eq_ok.mpr ⟨_, r4, rfl⟩⟩⟩⟩
    | setResponse token status =>
      obtain ⟨r1, r2⟩ := here
      exact bind_eq_ok.mpr ⟨_, r1, bind_eq_ok.mpr ⟨_, r2, rfl⟩⟩
    | stream streamId timestamp value =>
      obtain ⟨r1, r2, rfl⟩ := here
      exact bind_eq_ok.mpr ⟨_, r1, bind_eq_ok.mpr ⟨_, r2, rfl⟩⟩

def hostFieldIds : List UInt8 :=
  [sppMsgConnectRequestBcId, sppMsgPropListResponseId, sppMsgPropDefId, sppMsgGetResponseId, sppMsgSetResponseId,
    sppMsgStreamId]

theorem readToHost_eq_none : readToHost addressLength msgId message len = .ok none ↔ msgId ∉ hostFieldIds := by
  simp only [hostFieldIds, List.mem_cons, List.not_mem_nil, or_false, not_or]
  constructor
  · intro reads
    unfold readToHost at reads
    by_cases request : msgId = sppMsgConnectRequestBcId
    · simp [if_pos request, bind_eq_ok] at reads
    by_cases list : msgId = sppMsgPropListResponseId
    · simp [if_neg request, if_pos list, bind_eq_ok] at reads
    by_cases defined : msgId = sppMsgPropDefId
    · simp [if_neg request, if_neg list, if_pos defined, bind_eq_ok] at reads
    rw [if_neg request, if_neg list, if_neg defined] at reads
    by_cases got : msgId = sppMsgGetResponseId
    · simp [if_pos got, bind_eq_ok] at reads
    by_cases done : msgId = sppMsgSetResponseId
    · simp [if_neg got, if_pos done, bind_eq_ok] at reads
    by_cases streams : msgId = sppMsgStreamId
    · simp [if_neg got, if_neg done, if_pos streams, bind_eq_ok] at reads
    exact ⟨request, list, defined, got, done, streams⟩
  · intro other
    simp only [readToHost, other, if_false]
    rfl

theorem ToHost.At.within (here : body.At message start len) : start + body.bodySize ≤ message.length := by
  cases body with
  | connectRequest propertyListId => exact load16_within here
  | listResponse numProps numBytes => exact load16_within here.2
  | definition propSize propsRemaining propId propType propFlags name =>
    have within := load_within here.2.2.2.2.1
    rw [List.length_drop] at within
    exact Nat.le_of_lt_succ (by simp only [ToHost.bodySize]; omega)
  | getResponse token status size id value => exact load16_within here.2.2.2.1
  | setResponse token status => exact load_within here.2
  | stream streamId timestamp value =>
    obtain ⟨_, -, rest⟩ := bind_eq_ok.mp here.2.1
    obtain ⟨_, high, -⟩ := bind_eq_ok.mp rest
    exact load16_within high

theorem ToHost.At.append (here : body.At message start len) (trailing : List UInt8) :
    (body.followedBy trailing).At (message ++ trailing) start len := by
  have within := here.within
  cases body with
  | connectRequest propertyListId => exact load16_append here trailing
  | listResponse numProps numBytes => exact ⟨load_append here.1 trailing, load16_append here.2 trailing⟩
  | definition propSize propsRemaining propId propType propFlags name =>
    obtain ⟨r1, r2, r3, r4, r5, r6⟩ := here
    have body : (message ++ trailing).drop start = message.drop start ++ trailing :=
      List.drop_append_of_le_length (Nat.le_of_add_right_le within)
    simp only [ToHost.followedBy, ToHost.At, body]
    exact ⟨load_append r1 trailing, load_append r2 trailing, load16_append r3 trailing, load_append r4 trailing,
      load_append r5 trailing, loadRange_append r6 trailing⟩
  | getResponse token status size id value =>
    obtain ⟨r1, r2, r3, r4, rfl⟩ := here
    exact ⟨load_append r1 trailing, load_append r2 trailing, load_append r3 trailing, load16_append r4 trailing,
      (List.drop_append_of_le_length within).symm⟩
  | setResponse token status => exact ⟨load_append here.1 trailing, load_append here.2 trailing⟩
  | stream streamId timestamp value =>
    obtain ⟨r1, r2, rfl⟩ := here
    exact ⟨load_append r1 trailing, load32_append r2 trailing, (List.drop_append_of_le_length within).symm⟩

theorem nameLength_le {start : Nat} (room : start + 6 ≤ len.toNat) :
    start + 6 + (len - UInt16.ofNat start - 6).toUInt8.toNat ≤ len.toNat := by
  have bound := len.toNat_lt
  have fits : start < 2 ^ 16 := by omega
  have size : (UInt16.ofNat start).toNat = start := UInt16.toNat_ofNat_of_lt' fits
  have first : (len - UInt16.ofNat start).toNat = len.toNat - start := by
    rw [UInt16.toNat_sub_of_le _ _ (UInt16.le_iff_toNat_le.mpr (by omega)), size]
  have second : (len - UInt16.ofNat start - 6).toNat = len.toNat - start - 6 := by
    have six : (6 : UInt16).toNat = 6 := rfl
    rw [UInt16.toNat_sub_of_le _ _ (UInt16.le_iff_toNat_le.mpr (by omega)), first, six]
  rw [UInt16.toNat_toUInt8, second]
  omega

def hostBodySize (msgId : UInt8) : Nat :=
  if msgId = sppMsgConnectRequestBcId then 2
  else if msgId = sppMsgPropListResponseId then 3
  else if msgId = sppMsgPropDefId then 6
  else if msgId = sppMsgGetResponseId then 5
  else if msgId = sppMsgSetResponseId then 2
  else if msgId = sppMsgStreamResponseId then 2
  else if msgId = sppMsgStreamId then 5
  else 0

theorem ToHost.bodySize_eq (body : ToHost) : hostBodySize body.msgId = body.bodySize := by
  cases body <;> rfl

theorem hostBodySize_fieldsId (msgId : UInt8) : hostBodySize (fieldsId msgId) = hostBodySize msgId := by
  unfold fieldsId
  split
  next response => rw [response]; rfl
  · rfl

theorem exists_fields (whole : message.length = len.toNat)
    (room : sppMsgHdrSize addressLength + hostBodySize msgId ≤ len.toNat) :
    ∃ body, readToHost addressLength msgId message len = .ok body := by
  -- a field that ends within the message can be read
  have byte (index : Nat) (within : sppMsgHdrSize addressLength + index < len.toNat) :=
    load_of_lt message (sppMsgHdrSize addressLength + index) (by omega)
  have word (index : Nat) (within : sppMsgHdrSize addressLength + index + 2 ≤ len.toNat) :=
    load16_of_within message (sppMsgHdrSize addressLength + index) (by omega)
  unfold hostBodySize at room
  unfold readToHost
  -- the branches of the source, in their order
  by_cases request : msgId = sppMsgConnectRequestBcId
  · rw [if_pos request] at room ⊢
    obtain ⟨_, first⟩ := word 0 room
    exact ⟨_, bind_eq_ok.mpr ⟨_, first, rfl⟩⟩
  rw [if_neg request] at room ⊢
  by_cases list : msgId = sppMsgPropListResponseId
  · rw [if_pos list] at room ⊢
    obtain ⟨_, second⟩ := word 1 room
    exact ⟨_, bind_eq_ok.mpr ⟨_, byte 0 (by omega), bind_eq_ok.mpr ⟨_, second, rfl⟩⟩⟩
  rw [if_neg list] at room ⊢
  by_cases defined : msgId = sppMsgPropDefId
  · rw [if_pos defined] at room ⊢
    have body (index : Nat) (within : index < 6) := load_of_lt (message.drop (sppMsgHdrSize addressLength)) index
      (by rw [List.length_drop]; omega)
    obtain ⟨_, third⟩ := load16_of_within (message.drop (sppMsgHdrSize addressLength)) 2
      (by rw [List.length_drop]; omega)
    have name := nameLength_le room
    exact ⟨_, bind_eq_ok.mpr ⟨_, body 0 (by decide), bind_eq_ok.mpr ⟨_, body 1 (by decide), bind_eq_ok.mpr ⟨_, third,
      bind_eq_ok.mpr ⟨_, body 4 (by decide), bind_eq_ok.mpr ⟨_, body 5 (by decide), bind_eq_ok.mpr ⟨_,
        loadRange_eq_ok.mpr ⟨by rw [List.length_drop]; omega, rfl⟩, rfl⟩⟩⟩⟩⟩⟩⟩
  rw [if_neg defined] at room ⊢
  by_cases got : msgId = sppMsgGetResponseId
  · rw [if_pos got] at room ⊢
    obtain ⟨_, fourth⟩ := word 3 room
    exact ⟨_, bind_eq_ok.mpr ⟨_, byte 0 (by omega), bind_eq_ok.mpr ⟨_, byte 1 (by omega), bind_eq_ok.mpr ⟨_,
      byte 2 (by omega), bind_eq_ok.mpr ⟨_, fourth, rfl⟩⟩⟩⟩⟩
  rw [if_neg got] at room ⊢
  by_cases done : msgId = sppMsgSetResponseId
  · rw [if_pos done] at room ⊢
    exact ⟨_, bind_eq_ok.mpr ⟨_, byte 0 (by omega), bind_eq_ok.mpr ⟨_, byte 1 (by omega), rfl⟩⟩⟩
  rw [if_neg done] at room ⊢
  by_cases streams : msgId = sppMsgStreamId
  · rw [if_pos streams] at room ⊢
    have notResponse : msgId ≠ sppMsgStreamResponseId := by
      rw [streams]
      decide
    rw [if_neg notResponse] at room
    obtain ⟨_, low⟩ := word 1 (by omega)
    obtain ⟨_, high⟩ := word 3 room
    exact ⟨_, bind_eq_ok.mpr ⟨_, byte 0 (by omega), bind_eq_ok.mpr ⟨_, bind_eq_ok.mpr ⟨_, low,
      bind_eq_ok.mpr ⟨_, high, rfl⟩⟩, rfl⟩⟩⟩
  · rw [if_neg streams]
    exact ⟨_, rfl⟩

end Fields

/-! ## The reading is the code's -/

section Reading
variable {host : SppHostEngine} {message sender : List UInt8} {len : UInt16} {msgId : UInt8} {reading : HostReading}

theorem sppHandleMessage_fieldsId (client : SppAddress) (unset : Nat) :
    sppHandleMessage host client msgId message len unset =
      sppHandleMessage host client (fieldsId msgId) message len unset := by
  unfold fieldsId
  split
  next response => rw [response]; rfl
  · rfl

theorem sppHandleMessage_other (other : fieldsId msgId ∉ hostFieldIds) (client : SppAddress) (unset : Nat) :
    sppHandleMessage host client msgId message len unset = .ok (host, [], sppStatusUnknownMsgId) := by
  by_cases response : msgId = sppMsgStreamResponseId
  · exact absurd (by rw [response]; decide) other
  rw [fieldsId, if_neg response] at other
  simp only [hostFieldIds, List.mem_cons, List.not_mem_nil, or_false, not_or] at other
  simp only [sppHandleMessage, other, response, if_false]
  rfl

/-- The code reads the fields and acts on them. -/
theorem sppHostProcessMessage_reading (reads : readForHost host message len = .ok reading) (unset : Nat) :
    sppHostProcessMessage host message len unset = reading.act host unset := by
  obtain ⟨header, read, reads⟩ := bind_eq_ok.mp reads
  rw [sppHostProcessMessage_eq, read, ok_bind]
  cases header with
  | error status =>
    obtain rfl := Except.ok.inj reads
    rfl
  | ok header =>
    obtain ⟨msgId, sender⟩ := header
    by_cases busy : msgId = sppMsgConnectRequestBcId ∧ host.state ≠ .ready
    · have same : readBodyForHost host msgId sender message len = .ok (.busy sender) := if_pos busy
      obtain rfl := Except.ok.inj (same.symm.trans reads)
      obtain ⟨rfl, notReady⟩ := busy
      exact if_pos notReady
    · obtain ⟨body, fields, reads⟩ := bind_eq_ok.mp ((if_neg busy).symm.trans reads)
      cases body with
      | some body =>
        obtain rfl := Except.ok.inj reads
        exact (sppHandleMessage_fieldsId _ _).trans (sppHandleMessage_eq_act fields _ _)
      | none =>
        obtain rfl := Except.ok.inj reads
        exact sppHandleMessage_other (readToHost_eq_none.mp fields) _ _

theorem readHeader_append {addressLength : UInt8} {header : Except SppStatus (UInt8 × List UInt8)}
    (reads : readHeader addressLength message len = .ok header) (trailing : List UInt8) :
    readHeader addressLength (message ++ trailing) len = .ok header := by
  unfold readHeader at reads ⊢
  by_cases short : len.toNat < addressLength.toNat * 2 + 2
  · rw [if_pos short] at reads ⊢
    exact reads
  rw [if_neg short] at reads ⊢
  obtain ⟨sync, first, reads⟩ := bind_eq_ok.mp reads
  rw [load_append first, ok_bind]
  by_cases other : sync ≠ sppMsgSyncWord
  · rw [if_pos other] at reads ⊢
    exact reads
  rw [if_neg other] at reads ⊢
  obtain ⟨id, second, reads⟩ := bind_eq_ok.mp reads
  obtain ⟨_, third, reads⟩ := bind_eq_ok.mp reads
  obtain ⟨_, fourth, reads⟩ := bind_eq_ok.mp reads
  rw [load_append second, ok_bind, loadRange_append third, ok_bind, loadRange_append fourth]
  exact reads

theorem readToHost_append {addressLength : UInt8} {body : Option ToHost}
    (reads : readToHost addressLength msgId message len = .ok body) (trailing : List UInt8) :
    readToHost addressLength msgId (message ++ trailing) len = .ok (body.map (·.followedBy trailing)) := by
  cases body with
  | some body =>
    obtain ⟨rfl, here⟩ := readToHost_eq_some.mp reads
    refine readToHost_eq_some.mpr ⟨?_, here.append trailing⟩
    cases body <;> rfl
  | none => exact readToHost_eq_none.mpr (readToHost_eq_none.mp reads)

theorem readForHost_append (reads : readForHost host message len = .ok reading) (trailing : List UInt8) :
    readForHost host (message ++ trailing) len = .ok (reading.followedBy trailing) := by
  obtain ⟨header, read, reads⟩ := bind_eq_ok.mp reads
  rw [readForHost, readHeader_append read trailing, ok_bind]
  cases header with
  | error status =>
    obtain rfl := Except.ok.inj reads
    rfl
  | ok header =>
    obtain ⟨msgId, sender⟩ := header
    simp only [readBodyForHost] at reads ⊢
    by_cases busy : msgId = sppMsgConnectRequestBcId ∧ host.state ≠ .ready
    · rw [if_pos busy] at reads ⊢
      obtain rfl := Except.ok.inj reads
      rfl
    · rw [if_neg busy] at reads ⊢
      obtain ⟨body, fields, reads⟩ := bind_eq_ok.mp reads
      rw [readToHost_append fields trailing, ok_bind]
      cases body <;>
      · obtain rfl := Except.ok.inj reads
        rfl

theorem reads_of_handled {client : SppAddress} {unset : Nat} {result : SppHostEngine × List HostEffect × SppStatus}
    (notBusy : ¬(msgId = sppMsgConnectRequestBcId ∧ host.state ≠ .ready))
    (done : sppHandleMessage host client msgId message len unset = .ok result) :
    ∃ body, readToHost host.addressLength msgId message len = .ok body := by
  unfold sppHandleMessage at done
  unfold readToHost
  -- in each branch the fields are loaded before anything is done with them
  by_cases request : msgId = sppMsgConnectRequestBcId
  · have ready : ¬host.state ≠ .ready := fun busy => notBusy ⟨request, busy⟩
    rw [if_pos request] at done ⊢
    simp only [if_neg ready] at done
    obtain ⟨_, first, -⟩ := bind_eq_ok.mp done
    exact ⟨_, bind_eq_ok.mpr ⟨_, first, rfl⟩⟩
  rw [if_neg request] at done ⊢
  by_cases list : msgId = sppMsgPropListResponseId
  · rw [if_pos list] at done ⊢
    obtain ⟨_, first, done⟩ := bind_eq_ok.mp done
    obtain ⟨_, second, -⟩ := bind_eq_ok.mp done
    exact ⟨_, bind_eq_ok.mpr ⟨_, first, bind_eq_ok.mpr ⟨_, second, rfl⟩⟩⟩
  rw [if_neg list] at done ⊢
  by_cases defined : msgId = sppMsgPropDefId
  · rw [if_pos defined] at done ⊢
    simp only [sppUnpackPropDef, bind_assoc, bind_eq_ok] at done
    obtain ⟨_, r1, _, r2, _, r3, _, r4, _, r5, _, -, _, -, _, -, _, -, _, r6, -⟩ := done
    exact ⟨_, bind_eq_ok.mpr ⟨_, r1, bind_eq_ok.mpr ⟨_, r2, bind_eq_ok.mpr ⟨_, r3, bind_eq_ok.mpr ⟨_, r4,
      bind_eq_ok.mpr ⟨_, r5, bind_eq_ok.mpr ⟨_, r6, rfl⟩⟩⟩⟩⟩⟩⟩
  rw [if_neg defined] at done ⊢
  by_cases got : msgId = sppMsgGetResponseId
  · rw [if_pos got] at done ⊢
    obtain ⟨_, r1, done⟩ := bind_eq_ok.mp done
    obtain ⟨_, r2, done⟩ := bind_eq_ok.mp done
    obtain ⟨_, r3, done⟩ := bind_eq_ok.mp done
    obtain ⟨_, r4, -⟩ := bind_eq_ok.mp done
    exact ⟨_, bind_eq_ok.mpr ⟨_, r1, bind_eq_ok.mpr ⟨_, r2, bind_eq_ok.mpr ⟨_, r3, bind_eq_ok.mpr ⟨_, r4, rfl⟩⟩⟩⟩⟩
  rw [if_neg got] at done ⊢
  by_cases set : msgId = sppMsgSetResponseId
  · rw [if_pos set] at done ⊢
    obtain ⟨_, r1, done⟩ := bind_eq_ok.mp done
    obtain ⟨_, r2, -⟩ := bind_eq_ok.mp done
    exact ⟨_, bind_eq_ok.mpr ⟨_, r1, bind_eq_ok.mpr ⟨_, r2, rfl⟩⟩⟩
  rw [if_neg set] at done ⊢
  by_cases streams : msgId = sppMsgStreamId
  · have notResponse : msgId ≠ sppMsgStreamResponseId := by
      rw [streams]
      decide
    rw [if_neg notResponse, if_pos streams] at done
    rw [if_pos streams]
    obtain ⟨_, r1, done⟩ := bind_eq_ok.mp done
    obtain ⟨known, -, done⟩ := bind_eq_ok.mp done
    -- the time of a stream message is loaded behind the lookup of its stream
    cases known with
    | none => cases done
    | some index =>
      obtain ⟨_, r2, -⟩ := bind_eq_ok.mp done
      exact ⟨_, bind_eq_ok.mpr ⟨_, r1, bind_eq_ok.mpr ⟨_, r2, rfl⟩⟩⟩
  · rw [if_neg streams]
    exact ⟨_, rfl⟩

/-- Whenever the code gets through with a message it has read the fields. -/
theorem reads_of_processed {unset : Nat} {result : SppHostEngine × List HostEffect × SppStatus}
    (done : sppHostProcessMessage host message len unset = .ok result) :
    ∃ reading, readForHost host message len = .ok reading := by
  rw [sppHostProcessMessage_eq] at done
  obtain ⟨header, read, done⟩ := bind_eq_ok.mp done
  cases header with
  | error status => exact ⟨_, bind_eq_ok.mpr ⟨_, read, rfl⟩⟩
  | ok header =>
    obtain ⟨msgId, sender⟩ := header
    by_cases busy : msgId = sppMsgConnectRequestBcId ∧ host.state ≠ .ready
    · exact ⟨_, bind_eq_ok.mpr ⟨_, read, if_pos busy⟩⟩
    · have notBusy : ¬(fieldsId msgId = sppMsgConnectRequestBcId ∧ host.state ≠ .ready) := by
        unfold fieldsId
        split
        · exact fun ⟨same, _⟩ => absurd same (by decide)
        · exact busy
      obtain ⟨body, fields⟩ := reads_of_handled notBusy ((sppHandleMessage_fieldsId _ _).symm.trans done)
      have reads : ∃ reading, readBodyForHost host msgId sender message len = .ok reading := by
        rw [readBodyForHost, if_neg busy, fields, ok_bind]
        cases body <;> exact ⟨_, rfl⟩
      obtain ⟨reading, reads⟩ := reads
      exact ⟨reading, bind_eq_ok.mpr ⟨_, read, reads⟩⟩

/-! ## Inside the message -/

/-- A message that ends before its name or value starts. -/
def TooShort (host : SppHostEngine) (message : List UInt8) (len : UInt16) : Prop :=
  len.toNat < sppMsgHdrSize host.addressLength ∨ message[0]? = some sppMsgSyncWord ∧
    ∃ msgId, message[1]? = some msgId ∧ len.toNat < sppMsgHdrSize host.addressLength + hostBodySize msgId

/-- What follows a message is not read, and a message that is too short is turned down. -/
structure ReadsInside (host : SppHostEngine) (message : List UInt8) (len : UInt16) : Prop where
  reads : ∃ reading, readForHost host message len = .ok reading ∧ reading.ValueInside host ∧
    ∀ trailing unset, sppHostProcessMessage host (message ++ trailing) len unset =
      (reading.followedBy trailing).act host unset
  short : TooShort host message len → ∀ trailing unset,
    sppHostProcessMessage host (message ++ trailing) len unset = .ok (host, [], sppStatusShortMessage)

/-- The value of an accepted response and of a stream message ends within the message. -/
structure ValueFits (host : SppHostEngine) (message : List UInt8) (len : UInt16) (msgId : UInt8) : Prop where
  response : msgId = sppMsgGetResponseId → ∀ token size,
    message[sppMsgHdrSize host.addressLength]? = some token → token ∈ host.pendingRequestTokens.toList →
      message[sppMsgHdrSize host.addressLength + 1]? = some sppStatusOk →
      message[sppMsgHdrSize host.addressLength + 2]? = some size →
        sppMsgHdrSize host.addressLength + 5 + size.toNat ≤ len.toNat
  stream : msgId = sppMsgStreamId → ∀ streamId index object place pd,
    message[sppMsgHdrSize host.addressLength]? = some streamId →
      loadCell host.streams streamId.toNat = .ok (some index) → host.streamObjects[index]? = some object →
      object.definition = some place → host.defsBuffer[place]? = some pd →
        sppMsgHdrSize host.addressLength + 5 + pd.size.toNat ≤ len.toNat

/-- A message that the header checks turn down, or that has all its bytes. -/
def WholeMessage (host : SppHostEngine) (message : List UInt8) (len : UInt16) : Prop :=
  len.toNat < sppMsgHdrSize host.addressLength ∨ message[0]? ≠ some sppMsgSyncWord ∨
    ∃ msgId, message[1]? = some msgId ∧ sppMsgHdrSize host.addressLength + hostBodySize msgId ≤ len.toNat ∧
      ValueFits host message len msgId

theorem valueInside_iff {body : ToHost} (whole : message.length = len.toNat) (same : body.msgId = fieldsId msgId)
    (here : body.At message (sppMsgHdrSize host.addressLength) len) :
    (HostReading.fields sender body).ValueInside host ↔ ValueFits host message len msgId := by
  have within := here.within
  -- the id of a stream response is not that of its fields
  have id (valued : fieldsId msgId = sppMsgGetResponseId ∨ fieldsId msgId = sppMsgStreamId) :
      msgId = fieldsId msgId := by
    unfold fieldsId at valued ⊢
    split at valued
    · exact absurd valued (by decide)
    next other => exact (if_neg other).symm
  -- four of the messages carry no value
  have plain (known : UInt8) (same : known = fieldsId msgId) (notGet : known ≠ sppMsgGetResponseId)
      (notStream : known ≠ sppMsgStreamId) : ValueFits host message len msgId := by
    refine ⟨fun isGet => absurd ?_ notGet, fun isStream => absurd ?_ notStream⟩
    · rw [same, isGet]
      rfl
    · rw [same, isStream]
      rfl
  cases body with
  | connectRequest propertyListId =>
    exact iff_of_true trivial (plain sppMsgConnectRequestBcId same (by decide) (by decide))
  | listResponse numProps numBytes =>
    exact iff_of_true trivial (plain sppMsgPropListResponseId same (by decide) (by decide))
  | definition propSize propsRemaining propId propType propFlags name =>
    exact iff_of_true trivial (plain sppMsgPropDefId same (by decide) (by decide))
  | setResponse token status =>
    exact iff_of_true trivial (plain sppMsgSetResponseId same (by decide) (by decide))
  | getResponse token status size id' value =>
    obtain rfl : msgId = sppMsgGetResponseId := (id (.inl same.symm)).trans same.symm
    obtain ⟨r1, r2, r3, r4, rfl⟩ := here
    have within : sppMsgHdrSize host.addressLength + 5 ≤ message.length := within
    rw [load_eq_ok] at r1 r2 r3
    -- a value is inside when as much follows the fixed fields as is passed on
    simp only [HostReading.ValueInside, List.length_drop]
    constructor
    · intro inside
      refine ⟨fun _ token' size' first pending ok third => ?_, fun isStream => absurd isStream (by decide)⟩
      obtain rfl := Option.some.inj (r1.symm.trans first)
      obtain rfl := Option.some.inj (r3.symm.trans third)
      have fits := inside pending (Option.some.inj (r2.symm.trans ok))
      omega
    · intro fits pending ok
      have fits := fits.response rfl token size r1 pending (r2.trans (congrArg some ok)) r3
      omega
  | stream streamId timestamp value =>
    obtain rfl : msgId = sppMsgStreamId := (id (.inr same.symm)).trans same.symm
    obtain ⟨r1, -, rfl⟩ := here
    have within : sppMsgHdrSize host.addressLength + 5 ≤ message.length := within
    rw [load_eq_ok] at r1
    simp only [HostReading.ValueInside, List.length_drop]
    constructor
    · intro inside
      refine ⟨fun isGet => absurd isGet (by decide), ?_⟩
      intro _ streamId' index object place pd first known there found has
      obtain rfl := Option.some.inj (r1.symm.trans first)
      have fits := inside index object place pd known there found has
      omega
    · intro fits index object place pd known there found has
      have fits := fits.stream rfl streamId index object place pd r1 known there found has
      omega

theorem readsInside_of_whole (whole : message.length = len.toNat) (complete : WholeMessage host message len) :
    ReadsInside host message len := by
  have within : len.toNat ≤ message.length := whole.ge
  -- what has been read decides, so nothing behind the message matters
  have of_reading (reading : HostReading) (reads : readForHost host message len = .ok reading)
      (inside : reading.ValueInside host) :
      ∃ reading, readForHost host message len = .ok reading ∧ reading.ValueInside host ∧
        ∀ trailing unset, sppHostProcessMessage host (message ++ trailing) len unset =
          (reading.followedBy trailing).act host unset :=
    ⟨reading, reads, inside, fun trailing unset =>
      sppHostProcessMessage_reading (readForHost_append reads trailing) unset⟩
  have refused (status : SppStatus) (header : readHeader host.addressLength message len = .ok (.error status)) :
      readForHost host message len = .ok (.refused status) := bind_eq_ok.mpr ⟨_, header, rfl⟩
  -- the two ways in which the header checks turn a message down
  by_cases short : len.toNat < sppMsgHdrSize host.addressLength
  · have reads := refused _ ((readHeader_refused within).mpr (.inl ⟨short, rfl⟩))
    exact ⟨of_reading _ reads trivial, fun _ trailing unset =>
      sppHostProcessMessage_reading (readForHost_append reads trailing) unset⟩
  have long := Nat.not_lt.mp short
  by_cases unsynced : message[0]? ≠ some sppMsgSyncWord
  · have reads := refused _ ((readHeader_refused within).mpr (.inr ⟨long, unsynced, rfl⟩))
    exact ⟨of_reading _ reads trivial, fun tooShort =>
      tooShort.elim (absurd · short) fun both => absurd both.1 unsynced⟩
  obtain ⟨msgId, id, header⟩ := readHeader_of within long (not_not.mp unsynced)
  rcases complete with short' | unsynced' | ⟨msgId', id', room, fits⟩
  · exact absurd short' short
  · exact absurd unsynced' unsynced
  obtain rfl := Option.some.inj (id.symm.trans id')
  constructor
  -- a busy host does not read the body
  · by_cases busy : msgId = sppMsgConnectRequestBcId ∧ host.state ≠ .ready
    · exact of_reading (.busy _) (bind_eq_ok.mpr ⟨_, header, if_pos busy⟩) trivial
    have room : sppMsgHdrSize host.addressLength + hostBodySize (fieldsId msgId) ≤ len.toNat :=
      (hostBodySize_fieldsId msgId).symm ▸ room
    obtain ⟨body, fields⟩ := exists_fields whole room
    have reads : ∀ reading : HostReading, readBodyForHost host msgId _ message len = .ok reading →
        readForHost host message len = .ok reading := fun _ done => bind_eq_ok.mpr ⟨_, header, done⟩
    simp only [readBodyForHost, if_neg busy, fields] at reads
    cases body with
    | none => exact of_reading _ (reads _ rfl) trivial
    | some body =>
      obtain ⟨same, here⟩ := readToHost_eq_some.mp fields
      exact of_reading _ (reads _ rfl) ((valueInside_iff whole same here).mpr fits)
  · intro tooShort
    rcases tooShort with short' | ⟨-, msgId', id', short'⟩
    · exact absurd short' short
    · obtain rfl := Option.some.inj (id.symm.trans id')
      omega

theorem whole_of_readsInside (whole : message.length = len.toNat) (inside : ReadsInside host message len) :
    WholeMessage host message len := by
  by_cases short : len.toNat < sppMsgHdrSize host.addressLength
  · exact .inl short
  by_cases unsynced : message[0]? ≠ some sppMsgSyncWord
  · exact .inr (.inl unsynced)
  have synced := not_not.mp unsynced
  obtain ⟨msgId, id, header⟩ := readHeader_of whole.ge (Nat.not_lt.mp short) synced
  obtain ⟨reading, reads, value, -⟩ := inside.reads
  simp only [readForHost, header, ok_bind, readBodyForHost] at reads
  refine .inr (.inr ⟨msgId, id, ?_⟩)
  by_cases busy : msgId = sppMsgConnectRequestBcId ∧ host.state ≠ .ready
  · obtain ⟨rfl, notReady⟩ := busy
    refine ⟨?_, fun isGet => absurd isGet (by decide), fun isStream => absurd isStream (by decide)⟩
    by_contra tooShort
    -- the answer is that the host is busy
    have turnedDown := inside.short (.inr ⟨synced, _, id, Nat.not_le.mp tooShort⟩) [] 0
    rw [List.append_nil, sppHostProcessMessage_eq, header, ok_bind] at turnedDown
    have done := (if_pos notReady).symm.trans turnedDown
    obtain ⟨_, -, done⟩ := bind_eq_ok.mp done
    exact absurd (Except.ok.inj done) (by simp [sppStatusOk, sppStatusShortMessage])
  · rw [if_neg busy] at reads
    obtain ⟨body, fields, reads⟩ := bind_eq_ok.mp reads
    cases body with
    | none =>
      have other := readToHost_eq_none.mp fields
      simp only [hostFieldIds, List.mem_cons, List.not_mem_nil, or_false, not_or] at other
      have none : hostBodySize msgId = 0 := by
        rw [← hostBodySize_fieldsId]
        have notResponse : fieldsId msgId ≠ sppMsgStreamResponseId := by
          unfold fieldsId
          split
          · decide
          · assumption
        simp only [hostBodySize, other, notResponse, if_false]
      refine ⟨by omega, fun isGet => ?_, fun isStream => ?_⟩
      · exact absurd none (by rw [isGet]; decide)
      · exact absurd none (by rw [isStream]; decide)
    | some body =>
      obtain rfl := Except.ok.inj reads
      obtain ⟨same, here⟩ := readToHost_eq_some.mp fields
      have within := here.within
      rw [← body.bodySize_eq, same, hostBodySize_fieldsId] at within
      exact ⟨whole ▸ within, (valueInside_iff whole same here).mp value⟩

end Reading

/-- The host reads nothing behind a message and turns down one that is too short exactly when the message is
whole; and where it gets through with a message it has read all fields. -/
theorem reads_inside (host : SppHostEngine) (message : List UInt8) (len : UInt16)
    (whole : message.length = len.toNat) :
    (ReadsInside host message len ↔ WholeMessage host message len) ∧
      ∀ unset result, sppHostProcessMessage host message len unset = .ok result →
        ∃ reading, readForHost host message len = .ok reading :=
  ⟨⟨whole_of_readsInside whole, readsInside_of_whole whole⟩, fun _ _ => reads_of_processed⟩

/-- A response with its value, to a host that waits for it. -/
theorem reads_inside_get_response :
    ReadsInside { sppHostEngineInit setupParams staticHost with
        pendingRequestTokens := (Vector.replicate _ sppTokenMaxReserved).set 0 0x2A }
      [0xCD, 0xB1, 0x01, 0x1D, 0x2A, 0x00, 0x02, 0xAB, 0x00, 0x34, 0x12] 11 := by
  apply (reads_inside _ _ 11 rfl).1.mpr
  refine .inr (.inr ⟨0xB1, rfl, by decide, ?_, fun isStream => absurd isStream (by decide)⟩)
  intro _ token size first _ _ third
  obtain rfl := Option.some.inj third
  decide

/-- A set response that ends behind its header is answered by what stands behind it. -/
theorem reads_behind_header :
    (∀ unset, sppHostProcessMessage (sppHostEngineInit setupParams staticHost) [0xCD, 0xB3, 0x01, 0x1D] 4 unset =
      .error .outOfBounds) ∧
    (∀ token status unset, status ≠ 0 → sppHostProcessMessage (sppHostEngineInit setupParams staticHost)
      ([0xCD, 0xB3, 0x01, 0x1D] ++ [token, status]) 4 unset =
        .ok ((sppClearToken (sppHostEngineInit setupParams staticHost) token).1, [], status)) ∧
    ¬∀ message : List UInt8, ∀ len : UInt16, message.length = len.toNat →
      ReadsInside (sppHostEngineInit setupParams staticHost) message len := by
  refine ⟨fun _ => rfl, fun token status unset bad => ?_, fun always => ?_⟩
  · have answer : responseStatus status (sppClearToken (sppHostEngineInit setupParams staticHost) token).2 = status :=
      if_pos bad
    exact congrArg (fun answer => Except.ok
      ((sppClearToken (sppHostEngineInit setupParams staticHost) token).1, [], answer)) answer
  · have inside := always [0xCD, 0xB3, 0x01, 0x1D] 4 rfl
    rcases whole_of_readsInside rfl inside with short | unsynced | ⟨msgId, id, room, -⟩
    · exact absurd short (by decide)
    · exact unsynced rfl
    · obtain rfl := Option.some.inj id
      exact absurd room (by decide)

end TvcHopper.Spp
