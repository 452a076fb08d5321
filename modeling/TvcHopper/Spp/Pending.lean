import TvcHopper.Spp.HostRun

/-! Accounting of the pending requests.

The request count is the number of occupied slots as long as no peer sends the
reserved token while a slot is free. The check for a full table admits one
request more than the table has slots.
-/

set_option autoImplicit false

namespace TvcHopper.Spp
open Machine Machine.Slots

namespace PendingRequests

/-- The tokens in the table, without the free slots. -/
def outstanding (pending : PendingRequests) : Multiset UInt8 := occupied sppTokenMaxReserved pending.tokens

structure Accounted (pending : PendingRequests) : Prop where
  count_eq : pending.count.toNat = pending.outstanding.card
  bounded : pending.count.toNat ≤ sppPendingRequestsMax

theorem accounted_iff {pending : PendingRequests} :
    pending.Accounted ↔ pending.count.toNat = pending.outstanding.card := by
  constructor
  · exact Accounted.count_eq
  · intro count_eq
    exact ⟨count_eq, count_eq ▸ card_occupied_le _ _⟩

theorem request_outstanding (pending : PendingRequests) :
    (sppTokenMaxReserved ∈ pending.tokens.toList ∧ pending.request.count = pending.count + 1 ∧
        pending.request.outstanding = pending.next ::ₘ pending.outstanding) ∨
      (sppTokenMaxReserved ∉ pending.tokens.toList ∧ pending.request.count = pending.count ∧
        pending.request.tokens = pending.tokens) := by
  unfold request insert
  cases inserted : replaceFirst sppTokenMaxReserved pending.next pending.tokens with
  | none => exact Or.inr ⟨replaceFirst_eq_none.mp inserted, by simp⟩
  | some tokens =>
    have free : sppTokenMaxReserved ∈ pending.tokens.toList := by
      by_contra absent
      rw [replaceFirst_eq_none.mpr absent] at inserted
      cases inserted
    simp only [free]
    exact Or.inl ⟨trivial, trivial, occupied_insert pending.next_ne_reserved inserted⟩

theorem clear_outstanding (pending : PendingRequests) (token : UInt8) :
    (pending.clear token).outstanding = pending.outstanding.erase token := by
  unfold clear
  cases cleared : replaceFirst token sppTokenMaxReserved pending.tokens with
  | none =>
    have absent : token ∉ pending.outstanding := fun member =>
      replaceFirst_eq_none.mp cleared (mem_occupied.mp member).1
    exact (Multiset.erase_of_notMem absent).symm
  | some tokens =>
    by_cases reserved : token = sppTokenMaxReserved
    · subst reserved
      have absent : sppTokenMaxReserved ∉ pending.outstanding := fun member => (mem_occupied.mp member).2 rfl
      rw [Multiset.erase_of_notMem absent, outstanding, clear_free cleared, outstanding]
    · have removed : pending.outstanding = token ::ₘ occupied sppTokenMaxReserved tokens :=
        occupied_clear reserved cleared
      rw [removed, Multiset.erase_cons_head, outstanding]

theorem clear_count (pending : PendingRequests) (token : UInt8) :
    (pending.clear token).count =
      if token ∈ pending.tokens.toList then pending.count - 1 else pending.count := by
  unfold clear
  cases cleared : replaceFirst token sppTokenMaxReserved pending.tokens with
  | none => rw [if_neg (replaceFirst_eq_none.mp cleared)]
  | some tokens =>
    rw [if_pos]
    by_contra absent
    rw [replaceFirst_eq_none.mpr absent] at cleared
    cases cleared

theorem Accounted.request {pending : PendingRequests} (accounted : pending.Accounted) :
    pending.request.Accounted := by
  rw [accounted_iff]
  rcases pending.request_outstanding with ⟨_, count, tokens⟩ | ⟨_, count, tokens⟩
  · have small : pending.count.toNat ≤ 8 := accounted.bounded
    have one : (1 : UInt16).toNat = 1 := rfl
    rw [count, tokens, Multiset.card_cons, ← accounted.count_eq, UInt16.toNat_add]
    exact Nat.mod_eq_of_lt (by omega)
  · rw [count, accounted.count_eq, outstanding, outstanding, tokens]

/-- Clearing a token keeps the accounts exactly when it is not the reserved token of a free slot. -/
theorem Accounted.clear_iff {pending : PendingRequests} (accounted : pending.Accounted) (token : UInt8) :
    (pending.clear token).Accounted ↔
      ¬(token = sppTokenMaxReserved ∧ sppTokenMaxReserved ∈ pending.tokens.toList) := by
  have count_eq := accounted.count_eq
  have small : pending.count.toNat ≤ 8 := accounted.bounded
  have one : (1 : UInt16).toNat = 1 := rfl
  have member : token ∈ pending.outstanding ↔ token ∈ pending.tokens.toList ∧ token ≠ sppTokenMaxReserved :=
    mem_occupied
  rw [accounted_iff, clear_outstanding, clear_count]
  by_cases found : token ∈ pending.tokens.toList
  · rw [if_pos found, UInt16.toNat_sub]
    by_cases reserved : token = sppTokenMaxReserved
    · -- the count moves, the table does not
      subst reserved
      rw [Multiset.erase_of_notMem (by simp [member])]
      simp only [found, and_self, not_true_eq_false, iff_false]
      omega
    · have inside : token ∈ pending.outstanding := member.mpr ⟨found, reserved⟩
      have positive := Multiset.card_pos_iff_exists_mem.mpr ⟨token, inside⟩
      rw [Multiset.card_erase_of_mem inside, Nat.pred_eq_sub_one]
      simp only [reserved, false_and, not_false_eq_true, iff_true]
      omega
  · have reserved : ¬(token = sppTokenMaxReserved ∧ sppTokenMaxReserved ∈ pending.tokens.toList) := by
      rintro ⟨rfl, free⟩
      exact found free
    rw [if_neg found, Multiset.erase_of_notMem (fun inside => found (member.mp inside).1)]
    simp only [reserved, not_false_eq_true, iff_true]
    exact count_eq

end PendingRequests

theorem outstanding_eq (host : SppHostEngine) : host.pending.outstanding =
    (host.pendingRequestTokens.toList : Multiset UInt8).filter (· ≠ sppTokenMaxReserved) := rfl

/-! ## The count and the table -/

/-- The call is a response with the reserved token, and a slot is free. -/
def answersFreeSlot (host : SppHostEngine) (call : HostCall) : Prop :=
  call.responseToken host.addressLength = some sppTokenMaxReserved ∧
    sppTokenMaxReserved ∈ host.pendingRequestTokens.toList

theorem accounted_init (initParams : SppHostEngineInitParams) (prior : SppHostEngine) :
    (sppHostEngineInit initParams prior).pending.Accounted :=
  PendingRequests.accounted_iff.mpr rfl

theorem accounted_step {host host' : SppHostEngine} {call : HostCall} {event : HostEvent}
    (accounted : host.pending.Accounted) (done : hostCall host call = .ok (host', event)) :
    host'.pending.Accounted ↔ ¬answersFreeSlot host call := by
  cases call_outcome done with
  | drawn _ _ _ notResponse _ _ pending _ =>
    simp only [pending, answersFreeSlot, notResponse, reduceCtorEq, false_and, not_false_eq_true, iff_true]
    exact accounted.request
  | answered token received _ pending _ _ =>
    rw [pending, accounted.clear_iff, answersFreeSlot, received, Option.some.injEq]
    rfl
  | unchanged _ notResponse same _ =>
    simp only [same.pending, answersFreeSlot, notResponse, reduceCtorEq, false_and, not_false_eq_true, iff_true]
    exact accounted

/-- The count is the number of occupied slots in every state of a run exactly when no step of the
run answers a free slot. -/
theorem accounted_run_iff (initParams : SppHostEngineInitParams) (prior : SppHostEngine)
    (calls : List HostCall) :
    EveryState hostCall (fun host => host.pending.Accounted) (sppHostEngineInit initParams prior) calls ↔
      EveryStep hostCall (fun host call => ¬answersFreeSlot host call)
        (sppHostEngineInit initParams prior) calls :=
  everyState_iff_everyStep (fun _ _ _ _ => accounted_step) (accounted_init initParams prior) calls

/-- One set response with the reserved token, before any request: the count wraps. -/
theorem reserved_response_wraps_count :
    ∃ host events, run hostCall (sppHostEngineInit setupParams staticHost)
        [.processMessage [0xCD, 0xB3, 0x44, 0x1D, 0xFF, 0x00] 6 0] = .ok (host, events) ∧
      host.pendingRequestCount = 65535 ∧ host.pending.outstanding = 0 ∧ ¬host.pending.Accounted := by
  refine ⟨_, _, rfl, rfl, rfl, ?_⟩
  intro accounted
  exact absurd accounted.count_eq (by decide)

/-! ## Requests and the table -/

/-- A request that reports success has its token in the table, and a request that finds the table
full reports so and does nothing. -/
def Tracked (host : SppHostEngine) (call : HostCall) : Prop :=
  call.isRequest = true → ∀ host' event, hostCall host call = .ok (host', event) →
    (event.status = sppStatusOk → ∃ message token, event.effects = [.sendMessage message] ∧
      message[sppMsgHdrSize host.addressLength]? = some token ∧ token ∈ host'.pendingRequestTokens.toList) ∧
    (sppTokenMaxReserved ∉ host.pendingRequestTokens.toList →
      event.status = sppStatusPendingFull ∧ event.effects = [] ∧ host' = host)

/-- A slot is free, or the check at the start of a request stops it. -/
def roomChecked (host : SppHostEngine) (call : HostCall) : Prop :=
  call.isRequest = true → sppTokenMaxReserved ∈ host.pendingRequestTokens.toList ∨ host.pendingRequestCount > 8

theorem tracked_iff {host host' : SppHostEngine} {call : HostCall} {event : HostEvent}
    (done : hostCall host call = .ok (host', event)) : Tracked host call ↔ roomChecked host call := by
  cases request : call.isRequest with
  | false => simp only [Tracked, roomChecked, request, Bool.false_eq_true, false_implies]
  | true =>
    have outcome := request_outcome request (hostCall_eq_ok.mp done).1
    -- a call has one result
    have tracked : Tracked host call ↔
        (event.status = sppStatusOk → ∃ message token, event.effects = [.sendMessage message] ∧
          message[sppMsgHdrSize host.addressLength]? = some token ∧
          token ∈ host'.pendingRequestTokens.toList) ∧
        (sppTokenMaxReserved ∉ host.pendingRequestTokens.toList →
          event.status = sppStatusPendingFull ∧ event.effects = [] ∧ host' = host) := by
      constructor
      · exact fun tracked => tracked request host' event done
      · rintro properties _ other otherEvent otherDone
        rw [done] at otherDone
        cases otherDone
        exact properties
    rw [tracked, roomChecked]
    simp only [request, forall_const]
    cases outcome with
    | full full same silent failed =>
      simp only [full, same, silent, failed, or_true, iff_true, and_self, implies_true, and_true]
      exact fun ok => absurd ok (by decide)
    | refused room same silent failed =>
      have notFull : event.status ≠ sppStatusPendingFull := by
        rcases failed with failed | failed <;> rw [failed] <;> decide
      have notOk : event.status ≠ sppStatusOk := by
        rcases failed with failed | failed <;> rw [failed] <;> decide
      simp only [room, notFull, notOk, or_false, false_and, false_implies, true_and, imp_false, not_not]
    | sent message room sent ok token pending _ =>
      have notFull : sppStatusOk ≠ sppStatusPendingFull := by decide
      simp only [room, notFull, ok, or_false, false_and, imp_false, not_not, forall_const]
      constructor
      · exact fun properties => properties.2
      · intro free
        refine ⟨⟨message, _, sent, token, ?_⟩, free⟩
        rcases host.pending.request_outstanding with ⟨_, _, inserted⟩ | ⟨absent, _⟩
        · have member : host.pending.next ∈ host'.pending.outstanding := by
            rw [pending, inserted]
            exact Multiset.mem_cons_self _ _
          exact (mem_occupied.mp member).1
        · exact absurd free absent

/-- Along a run, every request is tracked exactly when every request finds a free slot or more than
eight requests counted. -/
theorem tracked_run_iff (initParams : SppHostEngineInitParams) (prior : SppHostEngine)
    (calls : List HostCall) :
    EveryStep hostCall Tracked (sppHostEngineInit initParams prior) calls ↔
      EveryStep hostCall roomChecked (sppHostEngineInit initParams prior) calls :=
  everyStep_congr (fun _ _ _ _ => tracked_iff) _ calls

/-- The ninth of nine get requests without an answer: it reports success, its token 9 is sent and
is not in the table. -/
theorem ninth_request_untracked :
    ∃ host host' events event,
      run hostCall (sppHostEngineInit setupParams staticHost)
        (.connectToClient ⟨.external [0x44], 0x11⟩ ::
          List.replicate 8 (.getValue ⟨.external [0x44], 0x11⟩ 0x0E)) = .ok (host, events) ∧
      hostCall host (.getValue ⟨.external [0x44], 0x11⟩ 0x0E) = .ok (host', event) ∧
      sppTokenMaxReserved ∉ host.pendingRequestTokens.toList ∧ event.status = sppStatusOk ∧
      event.effects = [.sendMessage [0xCD, 0xB0, 0x1D, 0x44, 9, 0x0E, 0x00]] ∧
      9 ∉ host'.pendingRequestTokens.toList ∧
      ¬Tracked host (.getValue ⟨.external [0x44], 0x11⟩ 0x0E) := by
  refine ⟨_, _, _, _, rfl, rfl, ?_, rfl, rfl, ?_, ?_⟩
  · decide
  · decide
  · intro tracked
    have full := (tracked rfl _ _ rfl).2 (by decide)
    exact absurd full.1 (by decide)

end TvcHopper.Spp
