import TvcHopper.Spp.Directory

/-! The stream table of the host, over every run.

The count of streams is neither set by the initialization nor checked when a
stream is started, and the id of a received stream message is not compared with
it. Which ids were assigned is recorded next to the host.
-/

set_option autoImplicit false

namespace TvcHopper.Spp
open Machine Machine.Slots

def assignedId (host : SppHostEngine) (event : HostEvent) : Option UInt8 :=
  match event.call with
  | .startStream .. => if event.status = sppStatusOk then some host.streamCount else none
  | _ => none

/-- A call of the host, together with the ids assigned so far. -/
def assigningCall (state : SppHostEngine × List UInt8) (call : HostCall) :
    Except Fault ((SppHostEngine × List UInt8) × HostEvent) := do
  let (host, event) ← hostCall state.1 call
  return ((host, state.2 ++ (assignedId state.1 event).toList), event)

/-- The place in `streams` that a call writes: a start that passes its checks takes the next one. -/
def streamWrites (host : SppHostEngine) : HostCall → Option Nat
  | .startStream client id _ _ _ _ =>
    if host.pendingRequestCount > 8 then none
    else
      match sppHostGetDefinition host client id with
      | .ok (_, some _) => some host.streamCount.toNat
      | _ => none
  | _ => none

def HostCall.streamId (addressLength : UInt8) (call : HostCall) : Option UInt8 :=
  match call, call.header addressLength with
  | .processMessage message _ _, some (msgId, _) =>
    if msgId = sppMsgStreamId then message[sppMsgHdrSize addressLength]? else none
  | _, _ => none

/-- The call has no effect and reports an error. -/
def Rejected (host : SppHostEngine) (call : HostCall) : Prop :=
  ∃ event, hostCall host call = .ok (host, event) ∧ event.effects = [] ∧ event.status ≠ sppStatusOk

/-- A start writes inside the table, and stream messages with other ids than the assigned ones are rejected. -/
def StreamSafe (state : SppHostEngine × List UInt8) (call : HostCall) : Prop :=
  (∀ place, streamWrites state.1 call = some place → place < sppStreamMaxCount) ∧
    ∀ id, call.streamId state.1.addressLength = some id → id ∉ state.2 → Rejected state.1 call

/-- A start that passes its checks is one of the first streams, counted from `initial`, and stream messages
have assigned ids. -/
def StreamAllowed (initial : Nat) (state : SppHostEngine × List UInt8) (call : HostCall) : Prop :=
  (∀ place, streamWrites state.1 call = some place → initial + state.2.length < sppStreamMaxCount) ∧
    ∀ id, call.streamId state.1.addressLength = some id → id ∈ state.2

/-- The count is the initial one and the streams that were started. -/
structure StreamsCounted (initial : Nat) (state : SppHostEngine × List UInt8) : Prop where
  count : state.1.streamCount.toNat = initial + state.2.length
  bounded : state.1.streamCount.toNat ≤ sppStreamMaxCount

section Calls
variable {host host' : SppHostEngine} {call : HostCall} {event : HostEvent}

inductive CountOutcome (host host' : SppHostEngine) (call : HostCall) (event : HostEvent) : Prop where
  | kept (count : host'.streamCount = host.streamCount) (unassigned : assignedId host event = none)
  | started (count : host'.streamCount = host.streamCount + 1)
      (assigned : assignedId host event = some host.streamCount)
      (writes : streamWrites host call = some host.streamCount.toNat)
      (bound : host.streamCount.toNat < sppStreamMaxCount)

theorem sppInsertToken_streamCount (host : SppHostEngine) (token : UInt8) :
    (sppInsertToken host token).1.streamCount = host.streamCount := by
  unfold sppInsertToken
  cases replaceFirst sppTokenMaxReserved token host.pendingRequestTokens <;> rfl

theorem sppClearToken_streamCount (host : SppHostEngine) (token : UInt8) :
    (sppClearToken host token).1.streamCount = host.streamCount := by
  unfold sppClearToken
  cases replaceFirst token sppTokenMaxReserved host.pendingRequestTokens <;> rfl

theorem message_streamCount {message : List UInt8} {len : UInt16} {unset : Nat} {effects : List HostEffect}
    {status : SppStatus} (done : sppHostProcessMessage host message len unset = .ok (host', effects, status)) :
    host'.streamCount = host.streamCount := by
  cases message_outcome done with
  | refused header same silent => rw [same]
  | busy sender header notReady same answer ok => rw [same]
  | announced sender header same silent => rw [same]
  | unknown msgId sender header other same silent failed => rw [same]
  | connected sender propertyListId header ready listId connects ok =>
    exact (sppConnectToClient_frame connects).streamCount
  | defined sender header unpacked silent ok =>
    obtain ⟨-, -, _, _, _, _, -, -, -, rfl⟩ := sppUnpackPropDef_outcome unpacked
    rfl
  | answered msgId sender token header isResponse loaded cleared accepted =>
    exact cleared ▸ sppClearToken_streamCount host token
  | streamed sender header streams =>
    unfold sppProcessStream at streams
    simp only [bind_eq_ok] at streams
    obtain ⟨_, _, pointer, _, streams⟩ := streams
    cases pointer with
    | none => cases streams
    | some stream =>
      simp only [bind_eq_ok, pure_eq_ok, Except.ok.injEq, Prod.mk.injEq] at streams
      obtain ⟨_, _, _, _, rfl, -, -⟩ := streams
      rfl

theorem assignedId_notStart (made : event.call = call) (notStart : ∀ client id period streamType stream spare,
    call ≠ .startStream client id period streamType stream spare) : assignedId host event = none := by
  unfold assignedId
  rw [made]
  cases call with
  | startStream client id period streamType stream spare => exact absurd rfl (notStart _ _ _ _ _ _)
  | _ => rfl

theorem RequestChange.count (change : RequestChange host host' event.status call) (made : event.call = call) :
    CountOutcome host host' call event := by
  cases change with
  | refused _ same failed =>
    refine .kept (by rw [same]) ?_
    unfold assignedId
    split
    · exact if_neg failed
    · rfl
  | token _ notStart drawn =>
    refine .kept ?_ (assignedId_notStart made notStart)
    exact drawn ▸ sppInsertToken_streamCount _ _
  | stream room defined here bound ok entered =>
    refine .started ?_ ?_ ?_ bound
    · exact entered ▸ sppInsertToken_streamCount _ _
    · simp only [assignedId, made, ok, if_true]
    · simp only [streamWrites, if_neg room, defined]

theorem count_outcome (done : hostCall host call = .ok (host', event)) : CountOutcome host host' call event := by
  obtain ⟨performed, made⟩ := hostCall_eq_ok.mp done
  cases call with
  | getValue _ _ | setValue _ _ _ | startStream _ _ _ _ _ _ =>
    exact (request_change rfl performed).count made
  | processMessage message len unset =>
    exact .kept (message_streamCount performed) (assignedId_notStart made (by simp))
  | connectToClient client =>
    simp only [perform, bind_eq_ok, pure_eq_ok, Except.ok.injEq, Prod.mk.injEq, Prod.exists] at performed
    obtain ⟨_, _, connected, rfl, -, -⟩ := performed
    exact .kept (sppConnectToClient_frame connected).streamCount (assignedId_notStart made (by simp))
  | getDefinition _ _ =>
    simp only [perform, bind_eq_ok, pure_eq_ok, Except.ok.injEq, Prod.mk.injEq, Prod.exists] at performed
    obtain ⟨_, _, _, rfl, -, -⟩ := performed
    exact .kept rfl (assignedId_notStart made (by simp))
  | getPropertyCount _ =>
    simp only [perform, bind_eq_ok, pure_eq_ok, Except.ok.injEq, Prod.mk.injEq] at performed
    obtain ⟨_, _, rfl, -, -⟩ := performed
    exact .kept rfl (assignedId_notStart made (by simp))

/-- A stream message that the host gets through with is never rejected. -/
theorem streamed_ok {id : UInt8} (received : call.streamId host.addressLength = some id)
    (done : hostCall host call = .ok (host', event)) : event.status = sppStatusOk := by
  obtain ⟨performed, -⟩ := hostCall_eq_ok.mp done
  cases call with
  | processMessage message len unset =>
    simp only [HostCall.streamId, HostCall.header] at received
    cases read : readHeader host.addressLength message len with
    | error fault => simp [read] at received
    | ok header =>
      cases header with
      | error status => simp [read] at received
      | ok header =>
        obtain ⟨msgId, sender⟩ := header
        simp only [read] at received
        split at received
        · next stream =>
          subst stream
          have processed := sppHostProcessMessage_eq host message len unset
          rw [read, ok_bind] at processed
          have streams : sppProcessStream host message (sppMsgHdrSize host.addressLength) =
              .ok (host', event.effects, event.status) := processed.symm.trans performed
          unfold sppProcessStream at streams
          simp only [bind_eq_ok] at streams
          obtain ⟨_, _, pointer, _, streams⟩ := streams
          cases pointer with
          | none => cases streams
          | some object =>
            simp only [bind_eq_ok, pure_eq_ok, Except.ok.injEq, Prod.mk.injEq] at streams
            obtain ⟨_, _, _, _, -, -, ok⟩ := streams
            exact ok.symm
        · cases received
  | _ => cases received

theorem streamSafe_iff {initial : Nat} {state : SppHostEngine × List UInt8} (counted : StreamsCounted initial state)
    (call : HostCall) : StreamSafe state call ↔ StreamAllowed initial state call := by
  obtain ⟨host, assigned⟩ := state
  have count : host.streamCount.toNat = initial + assigned.length := counted.count
  -- the place written is the count
  have place : ∀ place, streamWrites host call = some place → place = initial + assigned.length := by
    intro place writes
    rw [← count]
    unfold streamWrites at writes
    split at writes
    · split at writes
      · cases writes
      · split at writes
        · exact (Option.some.inj writes).symm
        · cases writes
    · cases writes
  constructor
  · rintro ⟨within, rejected⟩
    refine ⟨fun index writes => place index writes ▸ within index writes, fun id received => ?_⟩
    by_contra unassigned
    obtain ⟨event, done, -, failed⟩ := rejected id received unassigned
    exact failed (streamed_ok received done)
  · rintro ⟨first, assigned⟩
    refine ⟨fun index writes => place index writes ▸ first index writes, fun id received unassigned => ?_⟩
    exact absurd (assigned id received) unassigned

theorem StreamsCounted.step {initial : Nat} {state next : SppHostEngine × List UInt8}
    (counted : StreamsCounted initial state) (done : assigningCall state call = .ok (next, event)) :
    StreamsCounted initial next := by
  obtain ⟨host, assigned⟩ := state
  have count : host.streamCount.toNat = initial + assigned.length := counted.count
  simp only [assigningCall, bind_eq_ok, pure_eq_ok, Except.ok.injEq, Prod.mk.injEq, Prod.exists] at done
  obtain ⟨host', _, called, rfl, rfl⟩ := done
  cases count_outcome called with
  | kept same unassigned =>
    rw [unassigned, Option.toList_none, List.append_nil]
    exact ⟨same ▸ count, same ▸ counted.bounded⟩
  | started more assigns writes bound =>
    have small : host.streamCount.toNat < 16 := bound
    have one : (1 : UInt8).toNat = 1 := rfl
    have next : host'.streamCount.toNat = host.streamCount.toNat + 1 := by
      rw [more, UInt8.toNat_add]
      omega
    rw [assigns]
    refine ⟨?_, ?_⟩
    · rw [next, count, Option.toList_some, List.length_append, List.length_singleton, Nat.add_assoc]
    · rw [next]
      exact small

end Calls

/-- However calls follow one another, the stream table is safe exactly when the initial count is no more than
there are places, no stream is started once they are taken, and only assigned ids are received. -/
theorem stream_table_safe_iff (initParams : SppHostEngineInitParams) (prior : SppHostEngine) (calls : List HostCall) :
    (EveryState assigningCall (fun state => state.1.streamCount.toNat ≤ sppStreamMaxCount)
          (sppHostEngineInit initParams prior, []) calls ∧
        EveryAttempt assigningCall StreamSafe (sppHostEngineInit initParams prior, []) calls) ↔
      prior.streamCount.toNat ≤ sppStreamMaxCount ∧
        EveryAttempt assigningCall (StreamAllowed prior.streamCount.toNat) (sppHostEngineInit initParams prior, [])
          calls := by
  have start : prior.streamCount.toNat ≤ sppStreamMaxCount →
      StreamsCounted prior.streamCount.toNat (sppHostEngineInit initParams prior, []) := fun bounded => ⟨rfl, bounded⟩
  have preserved : ∀ state call next event, StreamsCounted prior.streamCount.toNat state →
      StreamAllowed prior.streamCount.toNat state call → assigningCall state call = .ok (next, event) →
        StreamsCounted prior.streamCount.toNat next := fun _ _ _ _ counted _ done => counted.step done
  have same (bounded : prior.streamCount.toNat ≤ sppStreamMaxCount) :=
    everyAttempt_iff (fun _ call counted => streamSafe_iff counted call) preserved (start bounded) calls
  constructor
  · rintro ⟨states, safe⟩
    have bounded : prior.streamCount.toNat ≤ sppStreamMaxCount := by
      cases calls with
      | nil => exact states
      | cons _ _ => exact states.1
    exact ⟨bounded, (same bounded).mp safe⟩
  · rintro ⟨bounded, allowed⟩
    exact ⟨(everyState_of_everyAttempt preserved (start bounded) allowed).mono fun _ counted => counted.bounded,
      (same bounded).mpr allowed⟩

/-- A stream message with id 16, for which no stream was started. -/
theorem unassigned_stream_accessed :
    hostCall (sppHostEngineInit setupParams staticHost)
        (.processMessage [0xCD, 0xB6, 0x44, 0x1D, 16, 0, 0, 0, 0, 1] 10 0) = .error .outOfBounds ∧
      ¬(EveryState assigningCall (fun state => state.1.streamCount.toNat ≤ sppStreamMaxCount)
            (sppHostEngineInit setupParams staticHost, [])
            [.processMessage [0xCD, 0xB6, 0x44, 0x1D, 16, 0, 0, 0, 0, 1] 10 0] ∧
          EveryAttempt assigningCall StreamSafe (sppHostEngineInit setupParams staticHost, [])
            [.processMessage [0xCD, 0xB6, 0x44, 0x1D, 16, 0, 0, 0, 0, 1] 10 0]) := by
  refine ⟨rfl, ?_⟩
  rintro ⟨-, ⟨-, rejected⟩, -⟩
  obtain ⟨event, done, -⟩ := rejected 16 rfl (by decide)
  cases done

end TvcHopper.Spp
