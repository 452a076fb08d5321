import Mathlib.Algebra.GroupWithZero.Nat
import TvcHopper.Machine.Clocks
import TvcHopper.Spp.ClientMessages
import TvcHopper.Spp.ClientRun

/-! When the streams of a client are sent.

Each stream of the table has a timer of its own, which a call of
`SppProcessStreams` advances. The stream is sent when the time that has passed is
above its period.
-/

set_option autoImplicit false

namespace TvcHopper.Spp
open Machine

variable {σ : Type}

/-! ## Calls of `SppProcessStreams` -/

structure StreamCall where
  timestamp : UInt32
  elapsedTime : UInt32
  stack : Stack

/-- One stream of a call, with a record of the places in the table whose streams were sent. -/
def senderPass (call : StreamCall) (i : Nat) (state : (SppClientEngine σ × List (List UInt8)) × List Nat) :
    Except Fault ((SppClientEngine σ × List (List UInt8)) × List Nat) := do
  let next ← processStream call.stack call.timestamp call.elapsedTime i state.1
  return (next, if state.1.2.length < next.2.length then state.2 ++ [i] else state.2)

def recordSenders (client : SppClientEngine σ) (call : StreamCall) :
    Except Fault ((SppClientEngine σ × List (List UInt8)) × List Nat) :=
  loop (senderPass call) client.streamCount.toNat 0 ((client, []), [])

/-- A call, and what the record says of it. -/
def streamCall (client : SppClientEngine σ) (call : StreamCall) : Except Fault (SppClientEngine σ × List Nat) := do
  let (client', _) ← sppProcessStreams client call.timestamp call.elapsedTime call.stack
  let (_, senders) ← recordSenders client call
  return (client', senders)

/-- The record changes nothing. -/
theorem recordSenders_eq (client : SppClientEngine σ) (call : StreamCall) :
    (recordSenders client call).map Prod.fst =
      sppProcessStreams client call.timestamp call.elapsedTime call.stack := by
  apply loop_map
  intro i state
  rw [senderPass]
  cases processStream call.stack call.timestamp call.elapsedTime i state.1 with
  | error fault => rfl
  | ok next => rfl

theorem streamCall_of_record {client : SppClientEngine σ} {call : StreamCall}
    {record : (SppClientEngine σ × List (List UInt8)) × List Nat} (recorded : recordSenders client call = .ok record) :
    streamCall client call = .ok (record.1.1, record.2) := by
  rw [streamCall, ← recordSenders_eq, recorded]
  rfl

theorem record_of_streamCall {client client' : SppClientEngine σ} {call : StreamCall} {senders : List Nat}
    (done : streamCall client call = .ok (client', senders)) :
    ∃ sent, recordSenders client call = .ok ((client', sent), senders) := by
  rw [streamCall, ← recordSenders_eq] at done
  cases recorded : recordSenders client call with
  | error fault =>
    rw [recorded] at done
    cases done
  | ok record =>
    rw [recorded] at done
    cases done
    exact ⟨record.1.2, rfl⟩

/-! ## One stream -/

/-- The time that has passed is above the period. -/
def SppStream.expires (s : SppStream) (elapsedTime : UInt32) : Bool := s.elapsedTime + elapsedTime > s.period

def SppStream.advance (s : SppStream) (elapsedTime : UInt32) : SppStream :=
  { s with elapsedTime := if s.expires elapsedTime then 0 else s.elapsedTime + elapsedTime }

section Passes
variable {call : StreamCall} {client client' : SppClientEngine σ} {sent sent' : List (List UInt8)}
  {senders senders' : List Nat} {i : Nat}

theorem processStream_outcome {timestamp elapsedTime : UInt32} {stack : Stack}
    (done : processStream stack timestamp elapsedTime i (client, sent) = .ok (client', sent')) :
    ∃ bound : i < sppStreamMaxCount,
      client'.streams = client.streams.set i (client.streams[i].advance elapsedTime) ∧
      client'.streamCount = client.streamCount ∧
      (sent.length < sent'.length ↔ client.streams[i].expires elapsedTime = true) := by
  obtain ⟨s, cell, done⟩ := bind_eq_ok.mp done
  obtain ⟨bound, rfl⟩ := loadCell_eq_ok.mp cell
  refine ⟨bound, ?_⟩
  unfold SppStream.advance SppStream.expires
  by_cases expired : client.streams[i].elapsedTime + elapsedTime > client.streams[i].period
  · rw [if_pos expired] at done
    obtain ⟨⟨instanceData, message⟩, -, done⟩ := bind_eq_ok.mp done
    simp only [storeCell_of_lt client.streams _ bound, ok_bind, pure_eq_ok, Except.ok.injEq, Prod.mk.injEq] at done
    obtain ⟨rfl, rfl⟩ := done
    simp [expired]
  · rw [if_neg expired] at done
    simp only [storeCell_of_lt client.streams _ bound, ok_bind, pure_eq_ok, Except.ok.injEq, Prod.mk.injEq] at done
    obtain ⟨rfl, rfl⟩ := done
    simp [expired]

theorem senderPass_outcome (done : senderPass call i ((client, sent), senders) = .ok ((client', sent'), senders')) :
    ∃ bound : i < sppStreamMaxCount,
      client'.streams = client.streams.set i (client.streams[i].advance call.elapsedTime) ∧
      client'.streamCount = client.streamCount ∧
      senders' = if client.streams[i].expires call.elapsedTime then senders ++ [i] else senders := by
  obtain ⟨next, passed, done⟩ := bind_eq_ok.mp done
  cases done
  obtain ⟨bound, streams, count, message⟩ := processStream_outcome passed
  refine ⟨bound, streams, count, ?_⟩
  by_cases expired : client.streams[i].expires call.elapsedTime = true
  · rw [if_pos (message.mpr expired), if_pos expired]
  · rw [if_neg (mt message.mp expired), if_neg expired]

theorem senderLoop_outcome {remaining index : Nat}
    (done : loop (senderPass call) remaining index ((client, sent), senders) = .ok ((client', sent'), senders')) :
    client'.streamCount = client.streamCount ∧ ∀ (place : Nat) (bound : place < sppStreamMaxCount),
      if index ≤ place ∧ place < index + remaining then
        client'.streams[place] = client.streams[place].advance call.elapsedTime ∧
          (place ∈ senders' ↔ place ∈ senders ∨ client.streams[place].expires call.elapsedTime = true)
      else client'.streams[place] = client.streams[place] ∧ (place ∈ senders' ↔ place ∈ senders) := by
  induction remaining generalizing index client sent senders with
  | zero =>
    cases done
    refine ⟨rfl, fun place bound => ?_⟩
    rw [if_neg (by omega)]
    exact ⟨rfl, Iff.rfl⟩
  | succ remaining ih =>
    obtain ⟨⟨⟨middle, sentHere⟩, sendersHere⟩, one, rest⟩ := bind_eq_ok.mp done
    obtain ⟨inside, streams, count, record⟩ := senderPass_outcome one
    obtain ⟨count', later⟩ := ih rest
    refine ⟨count'.trans count, fun place bound => ?_⟩
    have behind := later place bound
    rcases Nat.lt_trichotomy place index with before | rfl | after
    · -- the passes have not come to this place and do not come back
      rw [if_neg (by omega)] at behind ⊢
      rw [behind.1, behind.2, streams, record, Vector.getElem_set_ne _ _ (Nat.ne_of_gt before)]
      refine ⟨rfl, ?_⟩
      split
      · simp [Nat.ne_of_lt before]
      · rfl
    · rw [if_neg (by omega)] at behind
      rw [if_pos (by omega), behind.1, behind.2, streams, record, Vector.getElem_set_self]
      refine ⟨rfl, ?_⟩
      by_cases expired : client.streams[place].expires call.elapsedTime = true
      · simp [expired]
      · simp [expired]
    · have same : place < index + 1 + remaining ↔ place < index + (remaining + 1) := by omega
      have elsewhere : middle.streams[place] = client.streams[place] := by
        rw [streams, Vector.getElem_set_ne _ _ (Nat.ne_of_lt after)]
      have recorded : place ∈ sendersHere ↔ place ∈ senders := by
        rw [record]
        split
        · simp [Nat.ne_of_gt after]
        · rfl
      rw [elsewhere, recorded] at behind
      by_cases below : place < index + (remaining + 1)
      · rw [if_pos ⟨after, same.mpr below⟩] at behind
        rwa [if_pos ⟨Nat.le_of_lt after, below⟩]
      · rw [if_neg (by omega)] at behind
        rwa [if_neg (by omega)]

/-- A call advances every stream of the table by its own timer. -/
theorem streamCall_outcome (done : streamCall client call = .ok (client', senders)) :
    client'.streamCount = client.streamCount ∧
      ∀ (place : Nat) (bound : place < sppStreamMaxCount), place < client.streamCount.toNat →
        client'.streams[place] = client.streams[place].advance call.elapsedTime ∧
          (place ∈ senders ↔ client.streams[place].expires call.elapsedTime = true) := by
  obtain ⟨sent, looped⟩ := record_of_streamCall done
  obtain ⟨count, places⟩ := senderLoop_outcome looped
  refine ⟨count, fun place bound below => ?_⟩
  have here := places place bound
  rw [if_pos ⟨Nat.zero_le _, by omega⟩] at here
  exact ⟨here.1, by simpa using here.2⟩

end Passes

/-! ## Runs -/

/-- The lengths of the steps in which the calls advance the timers. -/
def steps (calls : List StreamCall) : List Nat := calls.map (·.elapsedTime.toNat)

def sentAt (outputs : List (List Nat)) (place : Nat) : List Bool := outputs.map fun senders => decide (place ∈ senders)

def SppStream.due (s : SppStream) (time : Nat) : Bool := decide (s.period.toNat ≤ time)

/-- The stream is sent at exactly the calls at which its period has passed since it was last sent. -/
def SppStream.OnTime (s : SppStream) (calls : List StreamCall) (sent : List Bool) : Prop :=
  sent = timer s.due s.elapsedTime.toNat (steps calls)

/-- At no call the time that has passed is the period to the millisecond. -/
def SppStream.NeverExact (s : SppStream) (calls : List StreamCall) : Prop :=
  AlongTimer s.due (· ≠ s.period.toNat) s.elapsedTime.toNat (steps calls)

theorem SppStream.expires_eq {s : SppStream} {elapsedTime : UInt32}
    (fits : s.elapsedTime.toNat + elapsedTime.toNat < 2 ^ 32) :
    s.expires elapsedTime = decide (s.period.toNat < s.elapsedTime.toNat + elapsedTime.toNat) := by
  have sum : (s.elapsedTime + elapsedTime).toNat = s.elapsedTime.toNat + elapsedTime.toNat := by
    rw [UInt32.toNat_add]
    exact Nat.mod_eq_of_lt fits
  rw [SppStream.expires, ← sum]
  exact decide_eq_decide.mpr UInt32.lt_iff_toNat_lt

theorem SppStream.advance_elapsedTime {s : SppStream} {elapsedTime : UInt32}
    (fits : s.elapsedTime.toNat + elapsedTime.toNat < 2 ^ 32) :
    (s.advance elapsedTime).elapsedTime.toNat =
      if decide (s.period.toNat < s.elapsedTime.toNat + elapsedTime.toNat) then 0
      else s.elapsedTime.toNat + elapsedTime.toNat := by
  rw [SppStream.advance, SppStream.expires_eq fits]
  split
  · rfl
  · rw [UInt32.toNat_add]
    exact Nat.mod_eq_of_lt fits

/-- Over a run, a stream is sent when the time is above its period, whatever the other streams do. -/
theorem sentAt_eq_timer {client final : SppClientEngine σ} {calls : List StreamCall} {outputs : List (List Nat)}
    {place : Nat} (done : run streamCall client calls = .ok (final, outputs)) (below : place < client.streamCount.toNat)
    (bound : place < sppStreamMaxCount)
    (fits : client.streams[place].elapsedTime.toNat + (steps calls).sum < 2 ^ 32) :
    sentAt outputs place = timer (fun time => decide (client.streams[place].period.toNat < time))
      client.streams[place].elapsedTime.toNat (steps calls) := by
  induction calls generalizing client outputs with
  | nil =>
    cases done
    rfl
  | cons call rest ih =>
    obtain ⟨next, senders, later, one, tail, rfl⟩ := run_cons_eq_ok.mp done
    obtain ⟨count, places⟩ := streamCall_outcome one
    obtain ⟨advanced, member⟩ := places place bound below
    have total : client.streams[place].elapsedTime.toNat + (call.elapsedTime.toNat + (steps rest).sum) < 2 ^ 32 :=
      fits
    have now : client.streams[place].elapsedTime.toNat + call.elapsedTime.toNat < 2 ^ 32 := by omega
    have period : next.streams[place].period = client.streams[place].period := by rw [advanced]; rfl
    have elapsed := SppStream.advance_elapsedTime now
    rw [← advanced] at elapsed
    have here : decide (place ∈ senders) = decide (client.streams[place].period.toNat <
        client.streams[place].elapsedTime.toNat + call.elapsedTime.toNat) := by
      rw [← SppStream.expires_eq now]
      exact decide_eq_true_iff.symm.trans (by simpa using member) |> Bool.eq_iff_iff.mpr
    have behind := ih tail (by rwa [count]) (by rw [elapsed]; split <;> omega)
    rw [period, elapsed] at behind
    rw [sentAt, List.map_cons, here]
    exact congrArg (List.cons _) behind

/-! ## Calls that complete -/

/-- The host is known, and `GetValue` writes the whole property behind every open stream. -/
structure Streamable (client : SppClientEngine σ) : Prop where
  addressed : ∃ own destination, AddressedTo client client.hostAddress own destination
  few : client.streamCount.toNat ≤ sppStreamMaxCount
  defined : ∀ (place : Nat) (bound : place < sppStreamMaxCount), place < client.streamCount.toNat →
    ∃ definition pd, client.streams[place].definition = some definition ∧ client.properties[definition]? = some pd ∧
      ∀ instanceData, (client.callbacks.getValue instanceData pd.id).2.1.length = pd.size.toNat

theorem Streamable.advance {client : SppClientEngine σ} (can : Streamable client) {place : Nat}
    (bound : place < sppStreamMaxCount) (elapsedTime : UInt32) (instanceData : σ) :
    Streamable { client with
      streams := client.streams.set place (client.streams[place].advance elapsedTime)
      instanceData } where
  addressed := by
    obtain ⟨own, destination, addressed⟩ := can.addressed
    exact ⟨own, destination, addressed.sender, addressed.ownLength, addressed.receiver, addressed.destinationLength⟩
  few := can.few
  defined := by
    intro other inside below
    have same : (client.streams.set place (client.streams[place].advance elapsedTime))[other].definition =
        client.streams[other].definition := by
      rw [Vector.getElem_set]
      split
      case isTrue h =>
        subst h
        rfl
      case isFalse => rfl
    obtain ⟨definition, pd, known, rest⟩ := can.defined other inside below
    exact ⟨definition, pd, same.trans known, rest⟩

theorem Streamable.processStream {client : SppClientEngine σ} (can : Streamable client) {place : Nat}
    (below : place < client.streamCount.toNat) (bound : place < sppStreamMaxCount) (stack : Stack)
    (timestamp elapsedTime : UInt32) (sent : List (List UInt8)) :
    ∃ instanceData sent', Spp.processStream stack timestamp elapsedTime place (client, sent) =
      .ok ({ client with
        streams := client.streams.set place (client.streams[place].advance elapsedTime)
        instanceData }, sent') := by
  obtain ⟨own, destination, addressed⟩ := can.addressed
  obtain ⟨definition, pd, known, here, whole⟩ := can.defined place bound below
  unfold Spp.processStream SppStream.advance SppStream.expires
  simp only [loadCell_of_lt _ bound, ok_bind]
  by_cases expired : client.streams[place].elapsedTime + elapsedTime > client.streams[place].period
  · have message := streamMessage_written addressed (stack place)
      (s := { client.streams[place] with elapsedTime := client.streams[place].elapsedTime + elapsedTime })
      known here (whole client.instanceData) timestamp
    rw [if_pos expired, message]
    simp only [ok_bind, storeCell_of_lt client.streams _ bound, decide_eq_true expired, if_true]
    exact ⟨_, _, rfl⟩
  · rw [if_neg expired]
    simp only [ok_bind, storeCell_of_lt client.streams _ bound, decide_eq_false expired, Bool.false_eq_true, if_false]
    exact ⟨client.instanceData, sent, rfl⟩

theorem Streamable.streamCall {client : SppClientEngine σ} (can : Streamable client) (call : StreamCall) :
    ∃ client' senders, Spp.streamCall client call = .ok (client', senders) ∧ Streamable client' := by
  have pass : ∀ place (state : (SppClientEngine σ × List (List UInt8)) × List Nat), 0 ≤ place →
      place < 0 + client.streamCount.toNat → Streamable state.1.1 ∧ state.1.1.streamCount = client.streamCount →
        ∃ next, senderPass call place state = .ok next ∧ Streamable next.1.1 ∧
          next.1.1.streamCount = client.streamCount := by
    rintro place ⟨⟨current, sent⟩, senders⟩ - below ⟨can, count⟩
    have inside : place < current.streamCount.toNat := by
      rw [count]
      omega
    have bound : place < sppStreamMaxCount := Nat.lt_of_lt_of_le inside can.few
    obtain ⟨instanceData, sent', passed⟩ :=
      can.processStream inside bound call.stack call.timestamp call.elapsedTime sent
    exact ⟨_, bind_eq_ok.mpr ⟨_, passed, rfl⟩, can.advance bound call.elapsedTime instanceData, count⟩
  have start : Streamable ((client, ([] : List (List UInt8))), ([] : List Nat)).1.1 ∧
      client.streamCount = client.streamCount := ⟨can, rfl⟩
  obtain ⟨final, done, can', -⟩ := loop_ok
    (fun _ (state : (SppClientEngine σ × List (List UInt8)) × List Nat) =>
      Streamable state.1.1 ∧ state.1.1.streamCount = client.streamCount) start pass
  exact ⟨final.1.1, final.2, streamCall_of_record done, can'⟩

theorem Streamable.run {client : SppClientEngine σ} (can : Streamable client) (calls : List StreamCall) :
    ∃ final outputs, Machine.run Spp.streamCall client calls = .ok (final, outputs) := by
  induction calls generalizing client with
  | nil => exact ⟨client, [], rfl⟩
  | cons call rest ih =>
    obtain ⟨next, senders, one, can'⟩ := can.streamCall call
    obtain ⟨final, outputs, tail⟩ := ih can'
    exact ⟨final, senders :: outputs, run_cons_eq_ok.mpr ⟨next, senders, outputs, one, tail, rfl⟩⟩

/-! ## On time -/

/-- A stream is on time in a run exactly when the time never is its period to the millisecond at a call. -/
theorem streams_on_time (client : SppClientEngine σ) (calls : List StreamCall) :
    (Streamable client → ∃ final outputs, run streamCall client calls = .ok (final, outputs)) ∧
      ∀ final outputs, run streamCall client calls = .ok (final, outputs) →
        ∀ (place : Nat) (bound : place < sppStreamMaxCount), place < client.streamCount.toNat →
          client.streams[place].elapsedTime.toNat + (steps calls).sum < 2 ^ 32 →
            (client.streams[place].OnTime calls (sentAt outputs place) ↔ client.streams[place].NeverExact calls) := by
  refine ⟨fun can => can.run calls, ?_⟩
  intro final outputs done place bound below fits
  unfold SppStream.OnTime SppStream.NeverExact
  rw [sentAt_eq_timer done below bound fits, timer_eq_iff]
  apply alongTimer_congr
  intro time
  rw [SppStream.due, decide_eq_decide]
  omega

/-- The client of the tests after a request for a stream of `Prop_1` every five milliseconds. -/
def requestedClient : SppClientEngine PropertyValues :=
  { sppClientEngineInit setupClientParams staticClient with
    streamCount := 1
    streams := staticClient.streams.set 0
      { definition := some 0, streamId := 0, streamType := 0, value := none, period := 5, elapsedTime := 0 } }

/-- The first call comes five milliseconds after the request. -/
theorem stream_late :
    clientCall (sppClientEngineInit setupClientParams staticClient)
        (.processMessage [0xCD, 0xB4, 0x1D, 0x01, 0x05, 0x00, 0x00, 0xAB, 0x00, 0x05, 0x00] 10 fun _ _ => 0) =
      .ok (requestedClient, ⟨[], sppStatusOk⟩) ∧
    ¬∀ (client : SppClientEngine PropertyValues) (calls : List StreamCall) final outputs,
      run streamCall client calls = .ok (final, outputs) →
        ∀ (place : Nat) (bound : place < sppStreamMaxCount), place < client.streamCount.toNat →
          client.streams[place].elapsedTime.toNat + (steps calls).sum < 2 ^ 32 →
            client.streams[place].OnTime calls (sentAt outputs place) := by
  refine ⟨rfl, fun always => ?_⟩
  have late := always requestedClient [⟨5, 5, fun _ _ => 0⟩] _ [[]] rfl 0 (by decide) (by decide) (by decide)
  exact absurd late (by unfold SppStream.OnTime; decide)

end TvcHopper.Spp
