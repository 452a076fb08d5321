import TvcHopper.Spp.Definitions
import TvcHopper.Spp.Pending

/-! Requests to a client that joined, and its responses.

As long as fewer than nine requests are counted, a request is sent under the
next token. A response with a token of the table is accepted.
-/

set_option autoImplicit false

namespace TvcHopper.Spp
open Machine Machine.Slots

section Requests
variable {setup : HostSetup} {host : SppHostEngine} {joined : List Joined} {i : Nat} {entry : Joined}
  {client : SppAddress} {id : UInt16}

def withoutToken (host : SppHostEngine) (token : UInt8) : SppHostEngine := (sppClearToken host token).1

theorem HostHolds.withTokens (holds : HostHolds setup host joined) (tokenCount : UInt8)
    (pendingRequestTokens : Vector UInt8 sppPendingRequestsMax) (pendingRequestCount : UInt16) :
    HostHolds setup { host with tokenCount, pendingRequestTokens, pendingRequestCount } joined :=
  holds.frame host.state tokenCount pendingRequestTokens pendingRequestCount host.streamCount host.streams
    host.streamObjects

theorem HostHolds.withStream (holds : HostHolds setup host joined) (streamCount : UInt8)
    (streams : Vector (Option Nat) sppStreamMaxCount) (streamObjects : List SppStream) :
    HostHolds setup { host with streamCount, streams, streamObjects } joined :=
  holds.frame host.state host.tokenCount host.pendingRequestTokens host.pendingRequestCount streamCount streams
    streamObjects

theorem HostHolds.enterStream (holds : HostHolds setup host joined) (place stream : Nat) (object : SppStream)
    (period : UInt16) (bound : host.streamCount.toNat < sppStreamMaxCount) :
    HostHolds setup (enterStream host place stream object period bound) joined :=
  holds.withStream _ _ _

theorem HostHolds.withRequest (holds : HostHolds setup host joined) : HostHolds setup (withRequest host) joined := by
  unfold Spp.withRequest sppInsertToken
  cases replaceFirst sppTokenMaxReserved (sppGetToken host).2 (sppGetToken host).1.pendingRequestTokens with
  | none => exact holds.withTokens _ host.pendingRequestTokens host.pendingRequestCount
  | some tokens => exact holds.withTokens _ tokens (host.pendingRequestCount + 1)

theorem HostHolds.withoutToken (holds : HostHolds setup host joined) (token : UInt8) :
    HostHolds setup (withoutToken host token) joined := by
  unfold Spp.withoutToken sppClearToken
  cases replaceFirst token sppTokenMaxReserved host.pendingRequestTokens with
  | none => exact holds
  | some tokens => exact holds.withTokens host.tokenCount tokens (host.pendingRequestCount - 1)

theorem host_getValue (holds : HostHolds setup host joined) (here : joined[i]? = some entry)
    (points : PointsTo host client entry.address) (room : ¬host.pendingRequestCount > 8) (id : UInt16) :
    sppHostGetValue host client id = .ok (withRequest host,
      [.sendMessage (Message.getRequest setup.address entry.address host.pending.next id)], sppStatusOk) := by
  rw [sppHostGetValue, if_neg room,
    sppGetClientIdx_joined holds.one holds.table holds.distinct here points, ok_bind]
  simp only [fillMessageHeader_one holds.one points, ok_bind, pure_eq_ok]
  rfl

theorem sppHostGetDefinition_own (holds : HostHolds setup host joined) (here : joined[i]? = some entry)
    (points : PointsTo host client entry.address) {pd : SppPropertyDefinition}
    (first : (searched joined entry).find? (·.id == id) = some pd) :
    ∃ place copy, sppHostGetDefinition host client id = .ok (sppStatusOk, some place) ∧
      host.defsBuffer[place]? = some copy ∧ SameDefinition copy pd := by
  have lookup := sppHostGetDefinition_eq holds here points id
  cases found : (searched joined entry).findIdx? (·.id == id) with
  | none => simp [List.find?_eq_bind_findIdx?_getElem?, found] at first
  | some place =>
    obtain ⟨copy, pd', stored, same, first'⟩ := holds.copy_found here found
    obtain rfl : pd' = pd := Option.some.inj (first'.symm.trans first)
    rw [found] at lookup
    exact ⟨place, copy, lookup, stored, same⟩

theorem host_setValue (holds : HostHolds setup host joined) (here : joined[i]? = some entry)
    (points : PointsTo host client entry.address) (room : ¬host.pendingRequestCount > 8)
    {pd : SppPropertyDefinition} (first : (searched joined entry).find? (·.id == id) = some pd)
    {value : List UInt8} (long : pd.size.toNat ≤ value.length) :
    sppHostSetValue host client id value = .ok (withRequest host,
      [.sendMessage (Message.setRequest setup.address entry.address host.pending.next pd.size id
        (value.take pd.size.toNat))], sppStatusOk) := by
  obtain ⟨place, copy, defined, stored, same⟩ := sppHostGetDefinition_own holds here points first
  have bytes : loadRange value 0 copy.size.toNat = .ok (value.take pd.size.toNat) := by
    rw [same.size, loadRange, Nat.zero_add, if_pos long, List.drop_zero]
  rw [sppHostSetValue, if_neg room, defined, ok_bind]
  simp only [load_eq_ok.mpr stored, fillMessageHeader_one holds.one points, ok_bind, bytes, pure_eq_ok]
  rw [same.size]
  rfl

/-- A stream is started when there is a place for it and a byte behind the message; otherwise C leaves the call
undefined. -/
theorem host_startStream (holds : HostHolds setup host joined) (here : joined[i]? = some entry)
    (points : PointsTo host client entry.address) (room : ¬host.pendingRequestCount > 8)
    {pd : SppPropertyDefinition} (first : (searched joined entry).find? (·.id == id) = some pd)
    {period : UInt16} {streamType : UInt8} {stream spare : Nat} {host' : SppHostEngine} {effects : List HostEffect}
    {status : SppStatus}
    (done : sppHostStartStream host client id period streamType stream spare = .ok (host', effects, status)) :
    status = sppStatusOk ∧
      effects = [.sendMessage (Message.streamRequest setup.address entry.address host.pending.next streamType
        host.streamCount id period)] ∧
      ∃ place copy object bound, host.defsBuffer[place]? = some copy ∧ SameDefinition copy pd ∧
        host.streamObjects[stream]? = some object ∧ 0 < spare ∧
        host' = withRequest (enterStream host place stream object period bound) := by
  obtain ⟨place, copy, defined, stored, same⟩ := sppHostGetDefinition_own holds here points first
  rw [sppHostStartStream, if_neg room,
    sppGetClientIdx_joined holds.one holds.table holds.distinct here points, ok_bind] at done
  simp only [defined, ok_bind, bind_eq_ok, pure_eq_ok, Except.ok.injEq, Prod.mk.injEq] at done
  obtain ⟨object, present, streams, entered, header, filled, body, written, rfl, rfl, rfl⟩ := done
  obtain ⟨bound, rfl⟩ := storeCell_eq_ok.mp entered
  obtain ⟨spared, rfl⟩ := fillArray_streamRequest.mp written
  have holds' := holds.enterStream place stream object period bound
  obtain rfl := Except.ok.inj ((fillMessageHeader_one holds'.one points sppMsgStreamRequestId).symm.trans filled)
  exact ⟨rfl, rfl, place, copy, object, bound, stored, same, load_eq_ok.mp present, spared, rfl⟩

/-- Such a call returns exactly when the pointer is to an object, `streams` has room, and there is that byte. -/
theorem host_startStream_returns (holds : HostHolds setup host joined) (here : joined[i]? = some entry)
    (points : PointsTo host client entry.address) (room : ¬host.pendingRequestCount > 8)
    {pd : SppPropertyDefinition} (first : (searched joined entry).find? (·.id == id) = some pd) (period : UInt16)
    (streamType : UInt8) (stream spare : Nat) :
    (∃ result, sppHostStartStream host client id period streamType stream spare = .ok result) ↔
      stream < host.streamObjects.length ∧ host.streamCount.toNat < sppStreamMaxCount ∧ 0 < spare := by
  constructor
  · rintro ⟨⟨host', effects, status⟩, done⟩
    obtain ⟨-, -, place, copy, object, bound, -, -, present, spared, -⟩ :=
      host_startStream holds here points room first done
    exact ⟨(List.getElem?_eq_some_iff.mp present).1, bound, spared⟩
  · rintro ⟨inside, bound, spared⟩
    obtain ⟨place, copy, defined, -, -⟩ := sppHostGetDefinition_own holds here points first
    have holds' := holds.enterStream place stream host.streamObjects[stream] period bound
    have header := fillMessageHeader_one holds'.one points sppMsgStreamRequestId
    refine ⟨(withRequest (enterStream host place stream host.streamObjects[stream] period bound),
      [.sendMessage (Message.streamRequest setup.address entry.address host.pending.next streamType
        host.streamCount id period)], sppStatusOk), ?_⟩
    rw [sppHostStartStream, if_neg room,
      sppGetClientIdx_joined holds.one holds.table holds.distinct here points, ok_bind]
    simp only [defined, ok_bind, load_of_lt host.streamObjects stream inside,
      storeCell_of_lt host.streams (some stream) bound]
    exact bind_eq_ok.mpr ⟨_, header, bind_eq_ok.mpr ⟨_, fillArray_streamRequest.mpr ⟨spared, rfl⟩, rfl⟩⟩

/-! ## Responses -/

theorem clear_outstanding_token {token : UInt8} (outstanding : token ∈ host.pending.outstanding) :
    (sppClearToken host token).2 = sppStatusOk :=
  (sppClearToken_status host token).mpr (mem_occupied.mp outstanding).1

theorem host_getResponse_cleared (holds : HostHolds setup host joined) (address size token : UInt8) (id : UInt16)
    (value trailing : List UInt8) {len : UInt16} (long : 4 ≤ len.toNat) (unset : Nat) :
    sppHostProcessMessage host
        (Message.getResponse address setup.address token size id value ++ trailing) len unset =
      .ok (withoutToken host token,
        if (sppClearToken host token).2 = sppStatusOk then
          [.onValueResponse ⟨.external [address], 0⟩ id (value ++ trailing)]
        else [], (sppClearToken host token).2) := by
  have processed : sppHostProcessMessage host
      (Message.getResponse address setup.address token size id value ++ trailing) len unset =
      sppHandleMessage host ⟨.external [address], 0⟩ sppMsgGetResponseId
        (Message.getResponse address setup.address token size id value ++ trailing) len unset :=
    hostProcess_one holds.one _ _ _ _ long _
  have read : load16 (Message.getResponse address setup.address token size id value ++ trailing) 7 = .ok id :=
    load16_bytes16 id (value ++ trailing)
  rw [processed]
  change sppProcessGetResponse host _ _ (sppMsgHdrSize host.addressLength) = _
  rw [holds.one.addressLength, sppProcessGetResponse]
  refine bind_eq_ok.mpr ⟨token, rfl, bind_eq_ok.mpr ⟨sppStatusOk, rfl, bind_eq_ok.mpr ⟨size, rfl,
    bind_eq_ok.mpr ⟨id, read, ?_⟩⟩⟩⟩
  show (if (sppClearToken host token).2 ≠ 0 then _ else _) = _
  by_cases cleared : (sppClearToken host token).2 = 0
  · rw [if_neg (not_not.mpr cleared), if_pos cleared, cleared]
    rfl
  · rw [if_pos cleared, if_neg cleared]
    rfl

theorem host_setResponse_cleared (holds : HostHolds setup host joined) (address token : UInt8) (trailing : List UInt8)
    {len : UInt16} (long : 4 ≤ len.toNat) (unset : Nat) :
    sppHostProcessMessage host (Message.setResponse address setup.address token ++ trailing) len unset =
      .ok (withoutToken host token, [], (sppClearToken host token).2) := by
  have processed : sppHostProcessMessage host
      (Message.setResponse address setup.address token ++ trailing) len unset =
      sppHandleMessage host ⟨.external [address], 0⟩ sppMsgSetResponseId
        (Message.setResponse address setup.address token ++ trailing) len unset :=
    hostProcess_one holds.one _ _ _ _ long _
  rw [processed]
  change sppProcessResponse host _ (sppMsgHdrSize host.addressLength) = _
  rw [holds.one.addressLength]
  rfl

theorem host_getResponse (holds : HostHolds setup host joined) (address size : UInt8) {token : UInt8}
    (outstanding : token ∈ host.pending.outstanding) (id : UInt16) (value trailing : List UInt8) (len : UInt16)
    (long : 4 ≤ len.toNat) (unset : Nat) :
    sppHostProcessMessage host
        (Message.getResponse address setup.address token size id value ++ trailing) len unset =
      .ok (withoutToken host token, [.onValueResponse ⟨.external [address], 0⟩ id (value ++ trailing)],
        sppStatusOk) := by
  rw [host_getResponse_cleared holds address size token id value trailing long,
    clear_outstanding_token outstanding, if_pos rfl]

theorem host_setResponse (holds : HostHolds setup host joined) (address : UInt8) {token : UInt8}
    (outstanding : token ∈ host.pending.outstanding) (trailing : List UInt8) (len : UInt16) (long : 4 ≤ len.toNat)
    (unset : Nat) :
    sppHostProcessMessage host (Message.setResponse address setup.address token ++ trailing) len unset =
      .ok (withoutToken host token, [], sppStatusOk) := by
  rw [host_setResponse_cleared holds address token trailing long, clear_outstanding_token outstanding]

end Requests

end TvcHopper.Spp
