import TvcHopper.Spp.ClientRun
import TvcHopper.Spp.Fields

/-! What the client reads of a message.

The client reads the header and the fields of the message id, at an index it
keeps in a `uint8_t`. A value has no end of its own: what the application takes
of it is decided by the property.
-/

set_option autoImplicit false

namespace TvcHopper.Spp
open Machine

variable {σ : Type}

/-- What the client has read when it starts to act. The value of a stream message starts `gap` bytes behind the
end of the message, or in it. -/
inductive ClientReading where
  | refused (status : SppStatus)
  | fields (sender : List UInt8) (body : ToClient)
  | stream (streamId : UInt8) (gap : Nat) (value : List UInt8)
  | unknown
  deriving DecidableEq

def readBodyForClient (addressLength msgId : UInt8) (sender message : List UInt8) : Except Fault ClientReading :=
  if msgId = sppMsgStreamId then do
    let bodyIdx := UInt8.ofNat (sppMsgHdrSize addressLength)
    let streamId ← load message bodyIdx.toNat
    -- skip timestamp
    let place := (bodyIdx + 5).toNat
    return .stream streamId (place - message.length) (message.drop place)
  else do
    match ← readToClient addressLength msgId message with
    | some body => return .fields sender body
    | none => return .unknown

def readForClient (addressLength : UInt8) (message : List UInt8) (len : UInt16) : Except Fault ClientReading := do
  match ← readClientHeader addressLength message len with
  | .error status => return .refused status
  | .ok (msgId, sender) => readBodyForClient addressLength msgId sender message

open Client in
def takeStreamValue (client : SppClientEngine σ) (streamId : UInt8) (value : List UInt8) :
    Except Fault (ClientResult σ) := do
  match ← sppGetStream client streamId.toUInt16 with
  | none => .error .wildPointer
  | some stream =>
    match (← loadCell client.streams stream).definition with
    | none => .error .wildPointer
    | some definition =>
      let pd ← load client.properties definition
      let (instanceData, _) := client.callbacks.setValue client.instanceData pd.id value
      return ({ client with instanceData }, [], sppStatusOk)

namespace ClientReading

def act (client : SppClientEngine σ) (stack : Stack) : ClientReading → Except Fault (ClientResult σ)
  | .refused status => .ok (client, [], status)
  | .fields sender body => body.act client sender stack
  | .stream streamId _ value => takeStreamValue client streamId value
  | .unknown => .ok (client, [], sppStatusOk)

/-- The memory from a value on includes what follows the message. -/
def followedBy (trailing : List UInt8) : ClientReading → ClientReading
  | .fields sender body => .fields sender (body.followedBy trailing)
  | .stream streamId gap value => .stream streamId (gap - trailing.length) (value ++ trailing.drop gap)
  | .refused status => .refused status
  | .unknown => .unknown

end ClientReading

/-! ## The fields -/

/-- The places of the fields with their sizes. The index starts over behind 255, except for the status of a
connect response. -/
def clientFields (addressLength msgId : UInt8) : List (Nat × Nat) :=
  let bodyIdx := UInt8.ofNat (sppMsgHdrSize addressLength)
  if msgId = sppMsgStreamId then [(bodyIdx.toNat, 1)]
  else if msgId = sppMsgConnectResponseId then [(sppMsgHdrSize addressLength, 1)]
  else if msgId = sppMsgGetRequestId then [(bodyIdx.toNat, 1), ((bodyIdx + 1).toNat, 2)]
  else if msgId = sppMsgSetRequestId then [(bodyIdx.toNat, 1), ((bodyIdx + 1).toNat, 1), ((bodyIdx + 2).toNat, 2)]
  else if msgId = sppMsgStreamRequestId then
    [(bodyIdx.toNat, 1), ((bodyIdx + 1).toNat, 1), ((bodyIdx + 2).toNat, 1), ((bodyIdx + 3).toNat, 2),
      ((bodyIdx + 5).toNat, 2)]
  else []

section Fields
variable {addressLength msgId : UInt8} {message sender : List UInt8} {len : UInt16} {reading : ClientReading}

theorem exists_toClient (other : msgId ≠ sppMsgStreamId) :
    (∃ body, readToClient addressLength msgId message = .ok body) ↔
      ∀ field ∈ clientFields addressLength msgId, field.1 + field.2 ≤ message.length := by
  unfold readToClient clientFields
  -- one case for each message id: the loads of the branch against its list of fields
  by_cases connected : msgId = sppMsgConnectResponseId
  · simp only [if_neg other, if_pos connected, List.forall_mem_singleton]
    constructor
    · rintro ⟨body, reads⟩
      obtain ⟨_, first, -⟩ := bind_eq_ok.mp reads
      exact load_within first
    · intro within
      exact ⟨_, bind_eq_ok.mpr ⟨_, load_of_lt message _ within, rfl⟩⟩
  by_cases got : msgId = sppMsgGetRequestId
  · simp only [if_neg other, if_neg connected, if_pos got, List.forall_mem_cons, List.not_mem_nil, false_implies,
      implies_true, and_true]
    constructor
    · rintro ⟨body, reads⟩
      simp only [bind_eq_ok] at reads
      obtain ⟨_, first, _, second, -⟩ := reads
      exact ⟨load_within first, load16_within second⟩
    · rintro ⟨one, two⟩
      obtain ⟨_, second⟩ := load16_of_within message _ two
      exact ⟨_, bind_eq_ok.mpr ⟨_, load_of_lt message _ one, bind_eq_ok.mpr ⟨_, second, rfl⟩⟩⟩
  by_cases set : msgId = sppMsgSetRequestId
  · simp only [if_neg other, if_neg connected, if_neg got, if_pos set, List.forall_mem_cons, List.not_mem_nil,
      false_implies, implies_true, and_true]
    constructor
    · rintro ⟨body, reads⟩
      simp only [bind_eq_ok] at reads
      obtain ⟨_, first, _, second, _, third, -⟩ := reads
      exact ⟨load_within first, load_within second, load16_within third⟩
    · rintro ⟨one, two, three⟩
      obtain ⟨_, third⟩ := load16_of_within message _ three
      exact ⟨_, bind_eq_ok.mpr ⟨_, load_of_lt message _ one, bind_eq_ok.mpr ⟨_, load_of_lt message _ two,
        bind_eq_ok.mpr ⟨_, third, rfl⟩⟩⟩⟩
  by_cases requested : msgId = sppMsgStreamRequestId
  · simp only [if_neg other, if_neg connected, if_neg got, if_neg set, if_pos requested, List.forall_mem_cons,
      List.not_mem_nil, false_implies, implies_true, and_true]
    constructor
    · rintro ⟨body, reads⟩
      simp only [bind_eq_ok] at reads
      obtain ⟨_, first, _, second, _, third, _, fourth, _, fifth, -⟩ := reads
      exact ⟨load_within first, load_within second, load_within third, load16_within fourth, load16_within fifth⟩
    · rintro ⟨one, two, three, four, five⟩
      obtain ⟨_, fourth⟩ := load16_of_within message _ four
      obtain ⟨_, fifth⟩ := load16_of_within message _ five
      exact ⟨_, bind_eq_ok.mpr ⟨_, load_of_lt message _ one, bind_eq_ok.mpr ⟨_, load_of_lt message _ two,
        bind_eq_ok.mpr ⟨_, load_of_lt message _ three, bind_eq_ok.mpr ⟨_, fourth, bind_eq_ok.mpr ⟨_, fifth, rfl⟩⟩⟩⟩⟩⟩
  · simp only [if_neg other, if_neg connected, if_neg got, if_neg set, if_neg requested]
    exact iff_of_true ⟨_, rfl⟩ nofun

theorem exists_clientReading :
    (∃ reading, readBodyForClient addressLength msgId sender message = .ok reading) ↔
      ∀ field ∈ clientFields addressLength msgId, field.1 + field.2 ≤ message.length := by
  by_cases streamed : msgId = sppMsgStreamId
  · simp only [readBodyForClient, clientFields, if_pos streamed, List.forall_mem_singleton]
    constructor
    · rintro ⟨reading, reads⟩
      obtain ⟨_, first, -⟩ := bind_eq_ok.mp reads
      exact load_within first
    · intro within
      exact ⟨_, bind_eq_ok.mpr ⟨_, load_of_lt message _ within, rfl⟩⟩
  · rw [← exists_toClient streamed]
    simp only [readBodyForClient, if_neg streamed]
    constructor
    · rintro ⟨reading, reads⟩
      obtain ⟨body, fields, -⟩ := bind_eq_ok.mp reads
      exact ⟨body, fields⟩
    · rintro ⟨body, fields⟩
      rw [fields, ok_bind]
      cases body <;> exact ⟨_, rfl⟩

theorem readToClient_append {body : Option ToClient} (reads : readToClient addressLength msgId message = .ok body)
    (trailing : List UInt8) :
    readToClient addressLength msgId (message ++ trailing) = .ok (body.map (·.followedBy trailing)) := by
  unfold readToClient at reads ⊢
  by_cases connected : msgId = sppMsgConnectResponseId
  · simp only [if_pos connected] at reads ⊢
    obtain ⟨_, first, reads⟩ := bind_eq_ok.mp reads
    obtain rfl := Except.ok.inj reads
    exact bind_eq_ok.mpr ⟨_, load_append first trailing, rfl⟩
  by_cases got : msgId = sppMsgGetRequestId
  · simp only [if_neg connected, if_pos got] at reads ⊢
    obtain ⟨_, first, reads⟩ := bind_eq_ok.mp reads
    obtain ⟨_, second, reads⟩ := bind_eq_ok.mp reads
    obtain rfl := Except.ok.inj reads
    exact bind_eq_ok.mpr ⟨_, load_append first trailing, bind_eq_ok.mpr ⟨_, load16_append second trailing, rfl⟩⟩
  by_cases set : msgId = sppMsgSetRequestId
  · simp only [if_neg connected, if_neg got, if_pos set] at reads ⊢
    obtain ⟨_, first, reads⟩ := bind_eq_ok.mp reads
    obtain ⟨_, second, reads⟩ := bind_eq_ok.mp reads
    obtain ⟨_, third, reads⟩ := bind_eq_ok.mp reads
    obtain rfl := Except.ok.inj reads
    refine bind_eq_ok.mpr ⟨_, load_append first trailing, bind_eq_ok.mpr ⟨_, load_append second trailing,
      bind_eq_ok.mpr ⟨_, load16_append third trailing, ?_⟩⟩⟩
    -- the value starts in the message, right behind the id
    have within := load16_within third
    have two : (2 : UInt8).toNat = 2 := rfl
    have four : (4 : UInt8).toNat = 4 := rfl
    have inside : (UInt8.ofNat (sppMsgHdrSize addressLength) + 4).toNat ≤ message.length := by
      rw [UInt8.toNat_add, two] at within
      rw [UInt8.toNat_add, four]
      omega
    rw [List.drop_append_of_le_length inside]
    rfl
  by_cases requested : msgId = sppMsgStreamRequestId
  · simp only [if_neg connected, if_neg got, if_neg set, if_pos requested] at reads ⊢
    obtain ⟨_, first, reads⟩ := bind_eq_ok.mp reads
    obtain ⟨_, second, reads⟩ := bind_eq_ok.mp reads
    obtain ⟨_, third, reads⟩ := bind_eq_ok.mp reads
    obtain ⟨_, fourth, reads⟩ := bind_eq_ok.mp reads
    obtain ⟨_, fifth, reads⟩ := bind_eq_ok.mp reads
    obtain rfl := Except.ok.inj reads
    exact bind_eq_ok.mpr ⟨_, load_append first trailing, bind_eq_ok.mpr ⟨_, load_append second trailing,
      bind_eq_ok.mpr ⟨_, load_append third trailing, bind_eq_ok.mpr ⟨_, load16_append fourth trailing,
        bind_eq_ok.mpr ⟨_, load16_append fifth trailing, rfl⟩⟩⟩⟩⟩
  · simp only [if_neg connected, if_neg got, if_neg set, if_neg requested] at reads ⊢
    obtain rfl := Except.ok.inj reads
    rfl

theorem readClientHeader_append {header : Except SppStatus (UInt8 × List UInt8)}
    (reads : readClientHeader addressLength message len = .ok header) (trailing : List UInt8) :
    readClientHeader addressLength (message ++ trailing) len = .ok header := by
  unfold readClientHeader at reads ⊢
  by_cases short : len.toNat < sppMsgHdrSize addressLength
  · rw [if_pos short] at reads ⊢
    exact reads
  rw [if_neg short] at reads ⊢
  obtain ⟨sync, first, reads⟩ := bind_eq_ok.mp reads
  obtain ⟨id, second, reads⟩ := bind_eq_ok.mp reads
  rw [load_append first, ok_bind, load_append second, ok_bind]
  by_cases other : sync ≠ sppMsgSyncWord
  · rw [if_pos other] at reads ⊢
    exact reads
  rw [if_neg other] at reads ⊢
  obtain ⟨_, third, reads⟩ := bind_eq_ok.mp reads
  obtain ⟨_, fourth, reads⟩ := bind_eq_ok.mp reads
  rw [loadRange_append third, ok_bind, loadRange_append fourth]
  exact reads

/-- What follows the message is read as the end of a value only. -/
theorem readForClient_append (reads : readForClient addressLength message len = .ok reading) (trailing : List UInt8) :
    readForClient addressLength (message ++ trailing) len = .ok (reading.followedBy trailing) := by
  obtain ⟨header, read, reads⟩ := bind_eq_ok.mp reads
  rw [readForClient, readClientHeader_append read trailing, ok_bind]
  cases header with
  | error status =>
    obtain rfl := Except.ok.inj reads
    rfl
  | ok header =>
    obtain ⟨msgId, sender⟩ := header
    simp only [readBodyForClient] at reads ⊢
    by_cases streamed : msgId = sppMsgStreamId
    · rw [if_pos streamed] at reads ⊢
      obtain ⟨streamId, first, reads⟩ := bind_eq_ok.mp reads
      obtain rfl := Except.ok.inj reads
      rw [load_append first trailing, ok_bind, List.drop_append, List.length_append, Nat.sub_add_eq]
      rfl
    · rw [if_neg streamed] at reads ⊢
      obtain ⟨body, fields, reads⟩ := bind_eq_ok.mp reads
      rw [readToClient_append fields trailing, ok_bind]
      cases body <;>
      · obtain rfl := Except.ok.inj reads
        rfl

theorem readToClient_none (none : readToClient addressLength msgId message = .ok none) :
    msgId ∉ [sppMsgConnectResponseId, sppMsgGetRequestId, sppMsgSetRequestId, sppMsgStreamRequestId] := by
  simp only [List.mem_cons, List.not_mem_nil, or_false, not_or]
  unfold readToClient at none
  by_cases connected : msgId = sppMsgConnectResponseId
  · simp [if_pos connected, bind_eq_ok] at none
  by_cases got : msgId = sppMsgGetRequestId
  · simp [if_neg connected, if_pos got, bind_eq_ok] at none
  by_cases set : msgId = sppMsgSetRequestId
  · simp [if_neg connected, if_neg got, if_pos set, bind_eq_ok] at none
  by_cases requested : msgId = sppMsgStreamRequestId
  · simp [if_neg connected, if_neg got, if_neg set, if_pos requested, bind_eq_ok] at none
  exact ⟨connected, got, set, requested⟩

/-- The code reads the fields and acts on them. -/
theorem sppClientProcessMessage_reading {client : SppClientEngine σ}
    (reads : readForClient client.addressLength message len = .ok reading) (stack : Stack) :
    sppClientProcessMessage client message len stack = reading.act client stack := by
  obtain ⟨header, read, reads⟩ := bind_eq_ok.mp reads
  rw [sppClientProcessMessage_eq, read, ok_bind]
  cases header with
  | error status =>
    obtain rfl := Except.ok.inj reads
    rfl
  | ok header =>
    obtain ⟨msgId, sender⟩ := header
    simp only [readBodyForClient] at reads
    by_cases streamed : msgId = sppMsgStreamId
    · subst streamed
      rw [if_pos rfl] at reads
      obtain ⟨streamId, first, reads⟩ := bind_eq_ok.mp reads
      obtain rfl := Except.ok.inj reads
      have handled : sppDispatchMessage client sender sppMsgStreamId message stack =
          sppProcessStreamData client message := rfl
      exact handled.trans (by rw [sppProcessStreamData, Client.bodyStart, first]; rfl)
    · rw [if_neg streamed] at reads
      obtain ⟨body, fields, reads⟩ := bind_eq_ok.mp reads
      cases body with
      | some body =>
        obtain rfl := Except.ok.inj reads
        exact sppDispatchMessage_eq_act fields sender stack
      | none =>
        obtain rfl := Except.ok.inj reads
        have other := readToClient_none fields
        simp only [List.mem_cons, List.not_mem_nil, or_false, not_or] at other
        simp only [sppDispatchMessage, other, streamed, if_false]
        rfl

end Fields

end TvcHopper.Spp
