import TvcHopper.Spp.Host

/-! What a received message does to the host, for addresses of every length.

The header checks come first. Behind them each message id has its branch, and
each branch one effect on the host; every result about received messages
follows from this classification.
-/

set_option autoImplicit false

namespace TvcHopper.Spp
open Machine Machine.Slots

/-- The header checks: the status of a message that is turned down, or the message id and the address
that is taken for the sender's. -/
def readHeader (addressLength : UInt8) (message : List UInt8) (len : UInt16) :
    Except Fault (Except SppStatus (UInt8 × List UInt8)) := do
  if len.toNat < addressLength.toNat * 2 + 2 then return .error sppStatusShortMessage
  let syncWord ← load message 0
  if syncWord ≠ sppMsgSyncWord then return .error sppStatusInvalidSyncWord
  let msgId ← load message 1
  let _hostAddress ← loadRange message 2 addressLength.toNat
  let clientAddress ← loadRange message (2 + addressLength.toNat - 1) addressLength.toNat
  return .ok (msgId, clientAddress)

theorem sppHostProcessMessage_eq (host : SppHostEngine) (message : List UInt8) (len : UInt16) (unset : Nat) :
    sppHostProcessMessage host message len unset =
      (readHeader host.addressLength message len >>= fun
        | .error status => return (host, [], status)
        | .ok (msgId, sender) => sppHandleMessage host ⟨.external sender, 0⟩ msgId message len unset) := by
  unfold sppHostProcessMessage readHeader
  by_cases short : len.toNat < host.addressLength.toNat * 2 + 2
  · simp only [if_pos short]
    rfl
  · simp only [if_neg short]
    cases load message 0 with
    | error fault => rfl
    | ok syncWord =>
      simp only [ok_bind]
      by_cases wrong : syncWord ≠ sppMsgSyncWord
      · simp only [if_pos wrong]
        rfl
      · simp only [if_neg wrong, bind_assoc]
        rfl

theorem readHeader_ok {addressLength : UInt8} {message sender : List UInt8} {len : UInt16} {msgId : UInt8}
    (header : readHeader addressLength message len = .ok (.ok (msgId, sender))) :
    sppMsgHdrSize addressLength ≤ len.toNat ∧ message[0]? = some sppMsgSyncWord ∧ message[1]? = some msgId ∧
      sender = (message.drop (2 + addressLength.toNat - 1)).take addressLength.toNat := by
  unfold readHeader at header
  split at header
  · cases header
  next long =>
  obtain ⟨sync, first, header⟩ := bind_eq_ok.mp header
  split at header
  · cases header
  next synced =>
  obtain ⟨id, second, header⟩ := bind_eq_ok.mp header
  obtain ⟨_, -, header⟩ := bind_eq_ok.mp header
  obtain ⟨address, read, header⟩ := bind_eq_ok.mp header
  obtain ⟨rfl, rfl⟩ := Prod.mk.inj (Except.ok.inj (Except.ok.inj header))
  obtain rfl := not_not.mp synced
  refine ⟨?_, load_eq_ok.mp first, load_eq_ok.mp second, (loadRange_eq_ok.mp read).2.symm⟩
  unfold sppMsgHdrSize
  omega

theorem readHeader_of {addressLength : UInt8} {message : List UInt8} {len : UInt16}
    (within : len.toNat ≤ message.length) (long : sppMsgHdrSize addressLength ≤ len.toNat)
    (synced : message[0]? = some sppMsgSyncWord) :
    ∃ msgId, message[1]? = some msgId ∧ readHeader addressLength message len =
      .ok (.ok (msgId, (message.drop (2 + addressLength.toNat - 1)).take addressLength.toNat)) := by
  have size : sppMsgHdrSize addressLength = 2 + addressLength.toNat * 2 := rfl
  have notShort : ¬len.toNat < addressLength.toNat * 2 + 2 := by omega
  have second : message[1]? = some message[1] := List.getElem?_eq_getElem (by omega)
  have first : loadRange message 2 addressLength.toNat = .ok ((message.drop 2).take addressLength.toNat) :=
    loadRange_eq_ok.mpr ⟨by omega, rfl⟩
  have sender : loadRange message (2 + addressLength.toNat - 1) addressLength.toNat =
      .ok ((message.drop (2 + addressLength.toNat - 1)).take addressLength.toNat) :=
    loadRange_eq_ok.mpr ⟨by omega, rfl⟩
  refine ⟨message[1], second, ?_⟩
  rw [readHeader, if_neg notShort, load_eq_ok.mpr synced, ok_bind, if_neg (not_not.mpr rfl), load_eq_ok.mpr second,
    ok_bind, first, ok_bind, sender]
  rfl

theorem readHeader_refused {addressLength : UInt8} {message : List UInt8} {len : UInt16} {status : SppStatus}
    (within : len.toNat ≤ message.length) :
    readHeader addressLength message len = .ok (.error status) ↔
      (len.toNat < sppMsgHdrSize addressLength ∧ status = sppStatusShortMessage) ∨
        (sppMsgHdrSize addressLength ≤ len.toNat ∧ message[0]? ≠ some sppMsgSyncWord ∧
          status = sppStatusInvalidSyncWord) := by
  have size : sppMsgHdrSize addressLength = 2 + addressLength.toNat * 2 := rfl
  by_cases short : len.toNat < sppMsgHdrSize addressLength
  · have refused : readHeader addressLength message len = .ok (.error sppStatusShortMessage) := if_pos (by omega)
    rw [refused]
    simp only [Except.ok.injEq, Except.error.injEq, short, true_and, Nat.not_le.mpr short, false_and, or_false]
    exact eq_comm
  have long := Nat.not_lt.mp short
  by_cases synced : message[0]? = some sppMsgSyncWord
  · obtain ⟨msgId, -, header⟩ := readHeader_of within long synced
    rw [header]
    simp [short, synced]
  · have notShort : ¬len.toNat < addressLength.toNat * 2 + 2 := by omega
    have first := load_of_lt message 0 (by omega)
    have other : message[0] ≠ sppMsgSyncWord := fun same => synced (by rw [← same]; exact load_eq_ok.mp first)
    have refused : readHeader addressLength message len = .ok (.error sppStatusInvalidSyncWord) := by
      rw [readHeader, if_neg notShort, first, ok_bind, if_pos other]
      rfl
    rw [refused]
    simp only [Except.ok.injEq, Except.error.injEq, short, false_and, long, synced, ne_eq, not_false_eq_true, true_and,
      false_or]
    exact eq_comm

def isResponseId (msgId : UInt8) : Bool :=
  msgId = sppMsgGetResponseId || msgId = sppMsgSetResponseId || msgId = sppMsgStreamResponseId

/-- A token is cleared with status OK exactly when it is in the table. -/
theorem sppClearToken_status (host : SppHostEngine) (token : UInt8) :
    (sppClearToken host token).2 = sppStatusOk ↔ token ∈ host.pendingRequestTokens.toList := by
  unfold sppClearToken
  cases cleared : replaceFirst token sppTokenMaxReserved host.pendingRequestTokens with
  | none =>
    have absent : token ∉ host.pendingRequestTokens.toList := replaceFirst_eq_none.mp cleared
    simp only [absent, iff_false]
    decide
  | some tokens =>
    obtain ⟨index, within, found, -, -⟩ := replaceFirst_eq_some.mp cleared
    have member : token ∈ host.pendingRequestTokens.toList := by
      rw [Vector.mem_toList_iff, ← found]
      exact Vector.getElem_mem within
    simp only [member]

theorem sppProcessResponse_outcome {host host' : SppHostEngine} {message : List UInt8} {bodyIdx : Nat}
    {effects : List HostEffect} {status : SppStatus}
    (done : sppProcessResponse host message bodyIdx = .ok (host', effects, status)) :
    ∃ token, message[bodyIdx]? = some token ∧ host' = (sppClearToken host token).1 ∧ effects = [] := by
  unfold sppProcessResponse at done
  simp only [bind_eq_ok, pure_eq_ok, Except.ok.injEq, Prod.mk.injEq] at done
  obtain ⟨token, loaded, _, _, rfl, rfl, -⟩ := done
  exact ⟨token, load_eq_ok.mp loaded, rfl, rfl⟩

theorem sppProcessGetResponse_outcome {host host' : SppHostEngine} {client : SppAddress}
    {message : List UInt8} {bodyIdx : Nat} {effects : List HostEffect} {status : SppStatus}
    (done : sppProcessGetResponse host client message bodyIdx = .ok (host', effects, status)) :
    ∃ token, message[bodyIdx]? = some token ∧ host' = (sppClearToken host token).1 ∧
      (effects ≠ [] → token ∈ host.pendingRequestTokens.toList) := by
  unfold sppProcessGetResponse at done
  simp only [bind_eq_ok] at done
  obtain ⟨token, loaded, responded, _, _, _, _, _, done⟩ := done
  by_cases bad : responseStatus responded (sppClearToken host token).2 ≠ 0
  · simp only [if_pos bad, pure_eq_ok, Except.ok.injEq, Prod.mk.injEq] at done
    obtain ⟨rfl, rfl, -⟩ := done
    exact ⟨token, load_eq_ok.mp loaded, rfl, fun some => absurd rfl some⟩
  · simp only [if_neg bad, pure_eq_ok, Except.ok.injEq, Prod.mk.injEq] at done
    obtain ⟨rfl, -, -⟩ := done
    -- a value is handed over only if the token was found
    refine ⟨token, load_eq_ok.mp loaded, rfl, fun _ => (sppClearToken_status host token).mp ?_⟩
    unfold responseStatus at bad
    by_cases failed : responded ≠ 0
    · simp [failed] at bad
    · simpa [failed] using bad

inductive MessageOutcome (host host' : SppHostEngine) (message : List UInt8) (len : UInt16) (unset : Nat)
    (effects : List HostEffect) (status : SppStatus) : Prop where
  | refused (header : readHeader host.addressLength message len = .ok (.error status)) (same : host' = host)
      (silent : effects = [])
  | busy (sender : List UInt8)
      (header : readHeader host.addressLength message len = .ok (.ok (sppMsgConnectRequestBcId, sender)))
      (notReady : host.state ≠ .ready) (same : host' = host)
      (answer : sppSendConnectBusyResponse host ⟨.external sender, 0⟩ = .ok effects) (ok : status = sppStatusOk)
  | connected (sender : List UInt8) (propertyListId : UInt16)
      (header : readHeader host.addressLength message len = .ok (.ok (sppMsgConnectRequestBcId, sender)))
      (ready : host.state = .ready)
      (listId : load16 message (sppMsgHdrSize host.addressLength) = .ok propertyListId)
      (connects : sppConnectToClient { host with state := .connecting } ⟨.external sender, propertyListId⟩ =
        .ok (host', effects)) (ok : status = sppStatusOk)
  | announced (sender : List UInt8)
      (header : readHeader host.addressLength message len = .ok (.ok (sppMsgPropListResponseId, sender)))
      (same : host' = host) (silent : effects = [])
  | defined (sender : List UInt8)
      (header : readHeader host.addressLength message len = .ok (.ok (sppMsgPropDefId, sender)))
      (unpacked : sppUnpackPropDef host ⟨.external sender, 0⟩ (message.drop (sppMsgHdrSize host.addressLength))
        (len - UInt16.ofNat (sppMsgHdrSize host.addressLength)) unset = .ok host')
      (silent : effects = []) (ok : status = sppStatusOk)
  | answered (msgId : UInt8) (sender : List UInt8) (token : UInt8)
      (header : readHeader host.addressLength message len = .ok (.ok (msgId, sender)))
      (isResponse : isResponseId msgId = true)
      (loaded : message[sppMsgHdrSize host.addressLength]? = some token)
      (cleared : host' = (sppClearToken host token).1)
      (accepted : effects ≠ [] → token ∈ host.pendingRequestTokens.toList)
  | streamed (sender : List UInt8)
      (header : readHeader host.addressLength message len = .ok (.ok (sppMsgStreamId, sender)))
      (streams : sppProcessStream host message (sppMsgHdrSize host.addressLength) = .ok (host', effects, status))
  | unknown (msgId : UInt8) (sender : List UInt8)
      (header : readHeader host.addressLength message len = .ok (.ok (msgId, sender)))
      (other : msgId ∉ [sppMsgConnectRequestBcId, sppMsgPropListResponseId, sppMsgPropDefId, sppMsgGetResponseId,
        sppMsgSetResponseId, sppMsgStreamResponseId, sppMsgStreamId])
      (same : host' = host) (silent : effects = []) (failed : status = sppStatusUnknownMsgId)

theorem message_outcome {host host' : SppHostEngine} {message : List UInt8} {len : UInt16} {unset : Nat}
    {effects : List HostEffect} {status : SppStatus}
    (done : sppHostProcessMessage host message len unset = .ok (host', effects, status)) :
    MessageOutcome host host' message len unset effects status := by
  rw [sppHostProcessMessage_eq, bind_eq_ok] at done
  obtain ⟨header, read, done⟩ := done
  cases header with
  | error failed =>
    simp only [pure_eq_ok, Except.ok.injEq, Prod.mk.injEq] at done
    obtain ⟨rfl, rfl, rfl⟩ := done
    exact .refused read rfl rfl
  | ok header =>
  obtain ⟨msgId, sender⟩ := header
  simp only [sppHandleMessage] at done
  by_cases connect : msgId = sppMsgConnectRequestBcId
  · subst connect
    rw [if_pos rfl] at done
    by_cases busy : host.state ≠ .ready
    · simp only [if_pos busy, bind_eq_ok, pure_eq_ok, Except.ok.injEq, Prod.mk.injEq] at done
      obtain ⟨_, answer, rfl, rfl, rfl⟩ := done
      exact .busy sender read busy rfl answer rfl
    · simp only [if_neg busy, bind_eq_ok, pure_eq_ok, Except.ok.injEq, Prod.mk.injEq, Prod.exists] at done
      obtain ⟨propertyListId, listId, _, _, connects, rfl, rfl, rfl⟩ := done
      exact .connected sender propertyListId read (not_not.mp busy) listId connects rfl
  rw [if_neg connect] at done
  by_cases list : msgId = sppMsgPropListResponseId
  · subst list
    simp only [if_true, bind_eq_ok] at done
    obtain ⟨numProps, _, _, _, done⟩ := done
    -- the answer depends on the room for definitions, the host does not
    split at done
    all_goals
      simp only [pure_eq_ok, Except.ok.injEq, Prod.mk.injEq] at done
      obtain ⟨rfl, rfl, -⟩ := done
      exact .announced sender read rfl rfl
  rw [if_neg list] at done
  by_cases define : msgId = sppMsgPropDefId
  · subst define
    simp only [if_true, bind_eq_ok, pure_eq_ok, Except.ok.injEq, Prod.mk.injEq] at done
    obtain ⟨_, unpacked, rfl, rfl, rfl⟩ := done
    exact .defined sender read unpacked rfl rfl
  rw [if_neg define] at done
  by_cases get : msgId = sppMsgGetResponseId
  · subst get
    rw [if_pos rfl] at done
    obtain ⟨token, loaded, cleared, accepted⟩ := sppProcessGetResponse_outcome done
    exact .answered _ sender token read rfl loaded cleared accepted
  rw [if_neg get] at done
  by_cases set : msgId = sppMsgSetResponseId
  · subst set
    rw [if_pos rfl] at done
    obtain ⟨token, loaded, cleared, silent⟩ := sppProcessResponse_outcome done
    exact .answered _ sender token read rfl loaded cleared (fun some => absurd silent some)
  rw [if_neg set] at done
  by_cases streamed : msgId = sppMsgStreamResponseId
  · subst streamed
    rw [if_pos rfl] at done
    obtain ⟨token, loaded, cleared, silent⟩ := sppProcessResponse_outcome done
    exact .answered _ sender token read rfl loaded cleared (fun some => absurd silent some)
  rw [if_neg streamed] at done
  by_cases stream : msgId = sppMsgStreamId
  · subst stream
    rw [if_pos rfl] at done
    exact .streamed sender read done
  · simp only [if_neg stream, pure_eq_ok, Except.ok.injEq, Prod.mk.injEq] at done
    obtain ⟨rfl, rfl, rfl⟩ := done
    refine .unknown msgId sender read ?_ rfl rfl rfl
    simp [connect, list, define, get, set, streamed, stream]

end TvcHopper.Spp
