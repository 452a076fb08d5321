import TvcHopper.Imu.Readings
import TvcHopper.Imu.Requests
import TvcHopper.Machine.Loops

/-! From reset to the first readings.

The session is opened, asked for its product ids, and told to report the
gyroscope and the rotation vector. The driver polls while it waits, so what the
hub sends is a list of polls: what `Read` brings, and the clock behind it.
-/

set_option autoImplicit false

namespace TvcHopper.Imu
open Machine

abbrev sh2ErrOpInProgress : Int := -3
abbrev sh2ErrTimeout : Int := -6

abbrev sensorhubGetFeatureReq : UInt8 := 0xFE

abbrev advertTimeoutUs : UInt32 := 200000

structure Poll where
  arrived : Option Received
  /-- `xTaskGetTickCount` behind the poll. -/
  ticks : UInt32

def getTimestampUs (ticks : UInt32) : UInt32 := 1000 * ticks

def getTimeUs (ticks : UInt32) : UInt32 := getTimestampUs ticks * 1000

/-- What a call comes to: the hub, what was written, the events that the callback was given, and the result with the
polls that are left, or nothing when the call waits for more polls than there are. -/
structure Attempt (α : Type) where
  hub : Hub
  writes : List (List UInt8)
  events : List Sh2SensorEvent
  returned : Option (α × List Poll)

/-- What the caller does when the call has returned. -/
def Attempt.andThen {α β : Type} (attempt : Attempt α)
    (next : Hub → α → List Poll → Except Fault (Attempt β)) : Except Fault (Attempt β) :=
  match attempt.returned with
  | none => .ok { attempt with returned := none }
  | some (result, polls) => do
    let after ← next attempt.hub result polls
    return { after with writes := attempt.writes ++ after.writes, events := attempt.events ++ after.events }

section AndThen
variable {α β : Type} {attempt : Attempt α} {next : Hub → α → List Poll → Except Fault (Attempt β)}

theorem Attempt.andThen_none (waits : attempt.returned = none) :
    attempt.andThen next = .ok ⟨attempt.hub, attempt.writes, attempt.events, none⟩ := by
  rw [andThen, waits]

theorem Attempt.andThen_some {result : α} {polls : List Poll} {after : Attempt β}
    (returned : attempt.returned = some (result, polls)) (done : next attempt.hub result polls = .ok after) :
    attempt.andThen next =
      .ok ⟨after.hub, attempt.writes ++ after.writes, attempt.events ++ after.events, after.returned⟩ := by
  rw [andThen, returned]
  exact bind_eq_ok.mpr ⟨after, done, rfl⟩

end AndThen

def shtpService (stack : Vector UInt8 sh2MaxSensorEventLen) (hub : Hub) :
    Option Received → Except Fault (Hub × List Sh2SensorEvent)
  | none => .ok (hub, [])
  | some received => hubService stack hub received

def pollStep (stack : Vector UInt8 sh2MaxSensorEventLen) (waiting : Hub × UInt32) (poll : Poll) :
    Except Fault ((Hub × UInt32) × List Sh2SensorEvent) := do
  let (hub, events) ← shtpService stack waiting.1 poll.arrived
  return ((hub, getTimeUs poll.ticks), events)

/-! ## Operations -/

def sendCtrl (bufferSize : UInt16) (hub : Hub) (data : List UInt8) : Except Fault (Hub × List (List UInt8) × Int) := do
  let (shtp, writes, status) ← shtpSend bufferSize hub.1 chanSensorhubControl data (.ofNat data.length)
  return ((shtp, hub.2), writes, status)

def getProdIdStart (bufferSize : UInt16) (hub : Hub) (pProdIds : Option ProductIds) :
    Except Fault (Hub × List (List UInt8) × Int) :=
  sendCtrl bufferSize (hub.1, { hub.2 with opData := .getProdIds pProdIds 0 4 }) [sensorhubProdIdReq, 0]

def getSensorConfigStart (bufferSize : UInt16) (hub : Hub) (sensorId : UInt8) :
    Except Fault (Hub × List (List UInt8) × Int) :=
  sendCtrl bufferSize hub [sensorhubGetFeatureReq, sensorId]

def setSensorConfigStart (bufferSize : UInt16) (hub : Hub) (pConfig : SensorConfig) (sensorId : UInt8) :
    Except Fault (Hub × List (List UInt8) × Int) := do
  let (hub, writes, status) ← sendCtrl bufferSize hub (featureReport sensorhubSetFeatureCmd sensorId pConfig)
  return ((hub.1, opCompleted hub.2 status), writes, status)

def startOp (bufferSize : UInt16) (hub : Hub) : Except Fault (Hub × List (List UInt8) × Int) :=
  match hub.2.opData with
  | .getProdIds pProdIds _ _ => getProdIdStart bufferSize hub pProdIds
  | .getSensorConfig _ sensorId => getSensorConfigStart bufferSize hub sensorId
  | .setSensorConfig pConfig sensorId => setSensorConfigStart bufferSize hub pConfig sensorId

def opStart (bufferSize : UInt16) (hub : Hub) : Except Fault (Hub × List (List UInt8) × Int) := do
  if hub.2.inProgress then return (hub, [], sh2ErrOpInProgress)
  let (hub, writes, status) ← startOp bufferSize (hub.1, { hub.2 with inProgress := true, opStatus := sh2Ok })
  if status ≠ sh2Ok then return ((hub.1, { hub.2 with opStatus := status, inProgress := false }), writes, status)
  else return (hub, writes, status)

/-- None of these operations has a timeout. -/
def opTimeoutUs : OpData → UInt32
  | .getProdIds _ _ _ => 0
  | .getSensorConfig _ _ => 0
  | .setSensorConfig _ _ => 0

def opWaits (timeoutUs startUs : UInt32) (waiting : Hub × UInt32) : Bool :=
  waiting.1.2.inProgress && (timeoutUs == 0 || decide (waiting.2 - startUs < timeoutUs))

def opProcess (bufferSize : UInt16) (stack : Vector UInt8 sh2MaxSensorEventLen) (startUs : UInt32) (hub : Hub)
    (polls : List Poll) : Except Fault (Attempt Int) := do
  let timeoutUs := opTimeoutUs hub.2.opData
  let (hub, writes, status) ← opStart bufferSize hub
  if status ≠ sh2Ok then return ⟨hub, writes, [], some (status, polls)⟩
  let ((hub, _), events, left) ← poll (opWaits timeoutUs startUs) (pollStep stack) (hub, startUs) polls
  let sh2 := if hub.2.inProgress then { hub.2 with inProgress := false, opStatus := sh2ErrTimeout } else hub.2
  match left with
  | none => return ⟨hub, writes, events.flatten, none⟩
  | some polls => return ⟨(hub.1, sh2), writes, events.flatten, some (sh2.opStatus, polls)⟩

def sh2GetProdIds (bufferSize : UInt16) (stack : Vector UInt8 sh2MaxSensorEventLen) (startUs : UInt32) (hub : Hub)
    (prodIds : ProductIds) (polls : List Poll) : Except Fault (Attempt Int) :=
  opProcess bufferSize stack startUs (hub.1, { hub.2 with opData := .getProdIds (some prodIds) 0 0 }) polls

def sh2GetSensorConfig (bufferSize : UInt16) (stack : Vector UInt8 sh2MaxSensorEventLen) (startUs : UInt32) (hub : Hub)
    (sensorId : UInt8) (pConfig : SensorConfig) (polls : List Poll) : Except Fault (Attempt Int) :=
  opProcess bufferSize stack startUs (hub.1, { hub.2 with opData := .getSensorConfig pConfig sensorId }) polls

def sh2SetSensorConfig (bufferSize : UInt16) (stack : Vector UInt8 sh2MaxSensorEventLen) (startUs : UInt32) (hub : Hub)
    (sensorId : UInt8) (pConfig : SensorConfig) (polls : List Poll) : Except Fault (Attempt Int) :=
  opProcess bufferSize stack startUs (hub.1, { hub.2 with opData := .setSensorConfig pConfig sensorId }) polls

/-! ## The driver -/

/-- What `Open` writes, five times: a reset on the channel of the executable, past the transport. -/
def softReset : List UInt8 := [5, 0, 1, 0, 1]

def advertWaits (startUs : UInt32) (waiting : Hub × UInt32) : Bool :=
  decide (waiting.2 - startUs < advertTimeoutUs) && !waiting.1.2.resetComplete

/-- The first call of `sh2_open`, which waits for the reset. -/
def sh2Open (stack : Vector UInt8 sh2MaxSensorEventLen) (startUs : UInt32) (polls : List Poll) :
    Except Fault (Attempt Int) := do
  let shtp ← sh2Listen Shtp.opened
  let ((hub, _), events, left) ← poll (advertWaits startUs) (pollStep stack) ((shtp, Sh2.opened), startUs) polls
  return ⟨hub, List.replicate 5 softReset, events.flatten, left.map (sh2Ok, ·)⟩

def noProductIds : ProductIds := ⟨.replicate _ ⟨0, 0, 0, 0, 0, 0, 0, 0⟩, 0⟩

/-- `starts` are the times at which the calls begin. -/
def bno085InitSensorHub (bufferSize : UInt16) (stack : Vector UInt8 sh2MaxSensorEventLen) (starts : Fin 2 → UInt32)
    (polls : List Poll) : Except Fault (Attempt Bool) := do
  let opened ← sh2Open stack (starts 0) polls
  opened.andThen fun hub status polls => do
    if status ≠ sh2Ok then return ⟨hub, [], [], some (false, polls)⟩
    let asked ← sh2GetProdIds bufferSize stack (starts 1) hub noProductIds polls
    asked.andThen fun hub status polls =>
      if status ≠ sh2Ok then .ok ⟨hub, [], [], some (false, polls)⟩
      else .ok ⟨(hub.1, { hub.2 with sensorCallback := true }), [], [], some (true, polls)⟩

def reportConfig (intervalUs : UInt32) : SensorConfig where
  changeSensitivityEnabled := false
  changeSensitivityRelative := false
  wakeupEnabled := false
  alwaysOnEnabled := false
  sniffEnabled := false
  changeSensitivity := 0
  reportIntervalUs := intervalUs
  batchIntervalUs := 0
  sensorSpecific := 0

def bno085EnableReport (bufferSize : UInt16) (stack : Vector UInt8 sh2MaxSensorEventLen) (startUs : UInt32) (hub : Hub)
    (sensor : UInt8) (intervalUs : UInt32) (polls : List Poll) : Except Fault (Attempt Bool) := do
  let told ← sh2SetSensorConfig bufferSize stack startUs hub sensor (reportConfig intervalUs) polls
  return { told with returned := told.returned.map fun (status, polls) => (status == sh2Ok, polls) }

/-- The results of the calls are not looked at. -/
def hwImuStart (bufferSize : UInt16) (stack : Vector UInt8 sh2MaxSensorEventLen) (starts : Fin 4 → UInt32)
    (polls : List Poll) : Except Fault (Attempt Unit) := do
  let inited ← bno085InitSensorHub bufferSize stack (fun call => starts (call.castLE (by decide))) polls
  inited.andThen fun hub _ polls => do
    let gyroscope ← bno085EnableReport bufferSize stack (starts 2) hub sh2GyroscopeCalibrated 5000 polls
    gyroscope.andThen fun hub _ polls => do
      let rotation ← bno085EnableReport bufferSize stack (starts 3) hub sh2RotationVector 5000 polls
      return { rotation with returned := rotation.returned.map fun (_, polls) => ((), polls) }

/-! ## The session while the driver polls -/

def arrivals (polls : List Poll) : List Received := polls.filterMap Poll.arrived

theorem shtpService_outSeq {stack : Vector UInt8 sh2MaxSensorEventLen} {hub next : Hub} {arrived : Option Received}
    {events : List Sh2SensorEvent} (done : shtpService stack hub arrived = .ok (next, events)) :
    next.1.outSeq = hub.1.outSeq := by
  cases arrived with
  | none =>
    cases done
    rfl
  | some received =>
    obtain ⟨passed, made, one, -⟩ := cascade_eq_ok.mp done
    exact rxStep_outSeq one

section Polling
variable {start hub : Hub} {heard : Bool} {last : Nat} {messages told : List (HubMessage × Nat)} {polls : List Poll}

/-- How far the session has come with the messages, and that it goes on with the polls that are left. -/
structure Hub.Reaches (start hub : Hub) (heard : Bool) (last : Nat) (messages : List (HubMessage × Nat))
    (polls : List Poll) (told : List (HubMessage × Nat)) : Prop where
  later : ∃ later, messages = told ++ later ∧ hub.Expects heard (HubMessage.seen last told) later (arrivals polls)
  follows : start.2.Follows hub.2 heard (HubMessage.seen last told) (told.flatMap (·.1.productIds))
    (told.any (·.1.resets))
  outSeq : hub.1.outSeq = start.1.outSeq

theorem Hub.Expects.reaches (expects : hub.Expects heard last messages (arrivals polls)) :
    hub.Reaches hub heard last messages polls [] :=
  ⟨⟨messages, rfl, expects⟩, expects.ready.same, rfl⟩

theorem Hub.Reaches.poll (stack : Vector UInt8 sh2MaxSensorEventLen) {poll : Poll}
    (reaches : start.Reaches hub heard last messages (poll :: polls) told) (nowUs : UInt32) :
    ∃ next events more, pollStep stack (hub, nowUs) poll = .ok ((next, getTimeUs poll.ticks), events) ∧
      more.length ≤ 1 ∧ start.Reaches next heard last messages polls (told ++ more) := by
  obtain ⟨⟨later, rfl, expects⟩, follows, outSeq⟩ := reaches
  cases arrived : poll.arrived with
  | none =>
    rw [arrivals, List.filterMap_cons_none arrived] at expects
    refine ⟨hub, [], [], ?_, Nat.zero_le 1, ?_⟩
    · rw [pollStep, arrived]
      rfl
    · rw [List.append_nil]
      exact ⟨⟨later, rfl, expects⟩, follows, outSeq⟩
  | some received =>
    rw [arrivals, List.filterMap_cons_some arrived] at expects
    obtain ⟨next, events, more, later, one, rfl, single, expects', follows', -⟩ := expects.transfer stack
    refine ⟨next, events, more, ?_, single, ⟨later, (List.append_assoc _ _ _).symm, ?_⟩, ?_, ?_⟩
    · rw [pollStep, arrived]
      exact bind_eq_ok.mpr ⟨_, one, rfl⟩
    · rw [HubMessage.seen_append]
      exact expects'
    · rw [HubMessage.seen_append, List.flatMap_append, List.any_append]
      exact follows.trans follows'
    · exact (@shtpService_outSeq stack hub next (some received) events one).trans outSeq

theorem Hub.Reaches.all (reaches : start.Reaches hub heard last messages [] told) : told = messages := by
  obtain ⟨later, rfl, expects⟩ := reaches.later
  obtain ⟨assembler, fragments, -, carry, assembled⟩ := expects.brings
  cases carry
  obtain rfl := List.map_eq_nil_iff.mp assembled.symm
  exact (List.append_nil told).symm

theorem Hub.Expects.withSession {transfers : List Received} (expects : hub.Expects heard last messages transfers)
    {sh2 : Sh2} {heard' : Bool} (ready : sh2.Ready heard' last) :
    Hub.Expects (hub.1, sh2) heard' last messages transfers := by
  obtain ⟨-, timely, moderate, room, assembler, fragments, open', carry, assembled⟩ := expects
  exact ⟨ready, timely, moderate, room, assembler, fragments, ⟨open'.assembles, open'.listens⟩, carry, assembled⟩

theorem Hub.Expects.sent {transfers : List Received} (expects : hub.Expects heard last messages transfers)
    {chan : UInt8} (channel : chan.toNat < shtpMaxChans) (outTransfer : Vector UInt8 sh2HalMaxTransferOut) :
    Hub.Expects (hub.1.sent channel outTransfer, hub.2) heard last messages transfers := by
  obtain ⟨ready, timely, moderate, room, assembler, fragments, open', carry, assembled⟩ := expects
  refine ⟨ready, timely, moderate, room, assembler, fragments, ⟨open'.assembles.sent channel outTransfer, ?_⟩, carry,
    assembled⟩
  intro other
  rw [Shtp.listens_sent]
  exact open'.listens other

end Polling

/-! ## Requests to the hub -/

section Requests
variable {bufferSize : UInt16} {hub : Hub} {data : List UInt8}

def ctrlTransfer (seq : UInt8) (data : List UInt8) : List UInt8 :=
  transferBytes ⟨chanSensorhubControl, seq, false, data.length, data⟩

theorem controlChannel : chanSensorhubControl.toNat < shtpMaxChans := by decide

theorem sendCtrl_spec (hub : Hub) (some_bytes : data ≠ []) (small : data.length ≤ maxPiece)
    (room : data.length + 4 ≤ bufferSize.toNat) :
    ∃ outTransfer, sendCtrl bufferSize hub data =
      .ok ((hub.1.sent controlChannel outTransfer, hub.2),
        [ctrlTransfer hub.1.outSeq[2] data], sh2Ok) := by
  have size : (UInt16.ofNat data.length).toNat = data.length := by
    rw [UInt16.toNat_ofNat']
    exact Nat.mod_eq_of_lt (Nat.lt_of_le_of_lt small (by decide))
  have enough : 4 ≤ bufferSize.toNat := Nat.le_trans (Nat.le_add_left _ _) room
  obtain ⟨outTransfer, sent⟩ := shtpSend_single controlChannel hub.1 enough some_bytes small size
  have whole : data.take (bufferSize.toNat - 4) = data := List.take_of_length_le (by omega)
  have number : hub.1.chan[chanSensorhubControl.toNat].nextOutSeq = hub.1.outSeq[2] := by
    rw [Shtp.outSeq, Vector.getElem_map]
    rfl
  refine ⟨outTransfer, ?_⟩
  rw [sendCtrl, sent, whole, number]
  rfl

def Attempt.left {α : Type} (attempt : Attempt α) : List Poll := (attempt.returned.map Prod.snd).getD []

variable {heard : Bool} {last : Nat} {messages : List (HubMessage × Nat)} {polls : List Poll}

theorem opProcess_eq {stack : Vector UInt8 sh2MaxSensorEventLen} {startUs nowUs : UInt32} {asked reached : Hub}
    {writes : List (List UInt8)} {events : List (List Sh2SensorEvent)} {left : Option (List Poll)}
    (started : opStart bufferSize hub = .ok (asked, writes, sh2Ok))
    (done : poll (opWaits (opTimeoutUs hub.2.opData) startUs) (pollStep stack) (asked, startUs) polls =
      .ok ((reached, nowUs), events, left))
    (idle : left ≠ none → reached.2.inProgress = false) :
    opProcess bufferSize stack startUs hub polls =
      .ok ⟨reached, writes, events.flatten, left.map (reached.2.opStatus, ·)⟩ := by
  rw [opProcess]
  simp only [started, ok_bind, done, ne_eq, not_true, if_false, pure_eq_ok]
  cases left with
  | none => rfl
  | some polls =>
    rw [idle (by simp)]
    rfl

theorem sh2GetProdIds_spec (stack : Vector UInt8 sh2MaxSensorEventLen) (startUs : UInt32) (prodIds : ProductIds)
    (room : 6 ≤ bufferSize.toNat) (idle : hub.2.inProgress = false)
    (expects : hub.Expects heard last messages (arrivals polls)) :
    ∃ attempt told later, sh2GetProdIds bufferSize stack startUs hub prodIds polls = .ok attempt ∧
      attempt.writes = [ctrlTransfer hub.1.outSeq[2] [sensorhubProdIdReq, 0]] ∧
      attempt.hub.1.outSeq = hub.1.outSeq.set 2 (hub.1.outSeq[2] + 1) ∧ messages = told ++ later ∧
      attempt.hub.Expects heard (HubMessage.seen last told) later (arrivals attempt.left) ∧
      attempt.hub.2.Collecting (messages.flatMap (·.1.productIds)) ∧
      (attempt.returned = none ↔ attempt.hub.2.inProgress = true) ∧
      ∀ status rest, attempt.returned = some (status, rest) → status = sh2Ok := by
  obtain ⟨outTransfer, sent⟩ := @sendCtrl_spec bufferSize [sensorhubProdIdReq, 0]
    (hub.1, { hub.2 with inProgress := true, opStatus := sh2Ok, opData := .getProdIds (some prodIds) 0 4 })
    (by decide) (by decide) room
  set asked : Hub := (hub.1.sent controlChannel outTransfer,
    { hub.2 with inProgress := true, opStatus := sh2Ok, opData := .getProdIds (some prodIds) 0 4 })
  have started : opStart bufferSize (hub.1, { hub.2 with opData := .getProdIds (some prodIds) 0 0 }) =
      .ok (asked, [ctrlTransfer hub.1.outSeq[2] [sensorhubProdIdReq, 0]], sh2Ok) := by
    rw [opStart, idle]
    exact bind_eq_ok.mpr ⟨_, sent, rfl⟩
  -- the operation that starts has room for five product ids and expects four
  have ready : asked.2.Ready heard last := by
    refine ⟨expects.ready.sensorCallback, ?_, expects.ready.counts⟩
    intro pProdIds nextEntry expectedEntries _ operation
    cases operation
    exact ⟨rfl, by decide⟩
  have collecting : asked.2.Collecting [] :=
    ⟨prodIds, 0, 4, rfl, rfl, rfl, rfl, rfl, fun all => absurd all (by decide)⟩
  have start := ((expects.sent controlChannel outTransfer).withSession ready).reaches
  -- each poll brings at most one message; what was told so far is the invariant of the loop
  obtain ⟨⟨reached, nowUs⟩, events, left, done, ⟨told, reaches⟩, waits⟩ :=
    @poll_total _ _ _ _ (opWaits 0 startUs) (pollStep stack)
      (fun waiting inputs => ∃ told, asked.Reaches waiting.1 heard last messages inputs told)
      (by
        rintro ⟨next, nowUs⟩ poll polls ⟨told, reaches⟩ -
        obtain ⟨next', events, more, one, -, reaches'⟩ := reaches.poll stack nowUs
        exact ⟨_, events, one, _, reaches'⟩)
      (asked, startUs) polls ⟨[], start⟩
  -- without a timeout the loop ends with the operation
  have waits' : left = none ↔ reached.2.inProgress = true := by
    rw [waits, opWaits, beq_self_eq_true, Bool.true_or, Bool.and_true]
  obtain ⟨later, whole, expects'⟩ := reaches.later
  have collected := reaches.follows.collecting [] collecting
  rw [List.nil_append] at collected
  have idle' (ended : left ≠ none) : reached.2.inProgress = false := Bool.eq_false_iff.mpr (mt waits'.mpr ended)
  have called : sh2GetProdIds bufferSize stack startUs hub prodIds polls = _ := opProcess_eq started done idle'
  have rest : (left.map fun polls => (reached.2.opStatus, polls)).map Prod.snd = left := by simp
  refine ⟨_, told, later, called, rfl, ?_, whole, ?_, ?_, ?_, ?_⟩
  · rw [reaches.outSeq]
    exact Shtp.outSeq_sent _ outTransfer
  · rw [Attempt.left, rest]
    exact expects'
  · cases left with
    | none =>
      obtain rfl := reaches.all
      exact collected
    -- messages behind the end of the operation change nothing
    | some polls =>
      rw [whole, List.flatMap_append]
      exact collected.finished (idle' (by simp)) _
  · rw [Option.map_eq_none_iff]
    exact waits'
  · intro status rest returned
    obtain ⟨polls, rfl, same⟩ := Option.map_eq_some_iff.mp returned
    obtain ⟨rfl, -⟩ := Prod.mk.inj same
    obtain ⟨prodIds', nextEntry, expectedEntries, collects⟩ := collected
    have all : ¬(told.flatMap (·.1.productIds)).length < neededIds (told.flatMap (·.1.productIds)) :=
      of_decide_eq_false (collects.inProgress.symm.trans (idle' (by simp)))
    exact (collects.complete (Nat.not_lt.mp all)).1

/-- When the transfers bring messages as `Hub.Expects` says, the product ids are those that the hub tells, in order: the
call goes on until it has got as many as the hub has. -/
theorem product_ids_collected (stack : Vector UInt8 sh2MaxSensorEventLen) (startUs : UInt32) (prodIds : ProductIds)
    (room : 6 ≤ bufferSize.toNat) (idle : hub.2.inProgress = false)
    (expects : hub.Expects heard last messages (arrivals polls)) :
    let ids := messages.flatMap (·.1.productIds)
    ∃ attempt, sh2GetProdIds bufferSize stack startUs hub prodIds polls = .ok attempt ∧
      (attempt.returned = none ↔ ids.length < neededIds ids) ∧
      ∀ status rest, attempt.returned = some (status, rest) → status = sh2Ok ∧
        ∃ prodIds' nextEntry expectedEntries,
          attempt.hub.2.opData = .getProdIds (some prodIds') nextEntry expectedEntries ∧
          prodIds'.numEntries.toNat = neededIds ids ∧
          prodIds'.entry.toList.take (neededIds ids) = ids.take (neededIds ids) := by
  intro ids
  obtain ⟨attempt, told, later, done, -, -, -, -, collecting, waits, ok⟩ :=
    sh2GetProdIds_spec stack startUs prodIds room idle expects
  obtain ⟨prodIds', nextEntry, expectedEntries, collects⟩ := collecting
  have waits' : attempt.returned = none ↔ ids.length < neededIds ids := by
    rw [waits, collects.inProgress, decide_eq_true_iff]
  refine ⟨attempt, done, waits', fun status rest returned => ⟨ok status rest returned, ?_⟩⟩
  have all : neededIds ids ≤ ids.length := by
    refine Nat.not_lt.mp (mt waits'.mpr ?_)
    rw [returned]
    exact Option.some_ne_none _
  have next : nextEntry.toNat = neededIds ids := collects.next.trans (Nat.min_eq_right all)
  exact ⟨prodIds', nextEntry, expectedEntries, collects.operation, (collects.complete all).2, next ▸ collects.stored⟩

def fourIds : List (List UInt8) := List.replicate 4 (0xF8 :: List.replicate 15 0)

theorem fourIds_sized : ∀ record ∈ fourIds, Sized reportSize record := by
  intro record member
  obtain rfl := List.eq_of_mem_replicate member
  exact ⟨0xF8, List.replicate 15 0, rfl, rfl⟩

def fourIdsPoll : Poll := ⟨some ⟨68 :: 0 :: 2 :: 0 :: fourIds.flatten, 68, by decide, 0⟩, 0⟩

theorem product_ids_collected_four :
    ∃ shtp, sh2Listen Shtp.opened = .ok shtp ∧
      ∃ attempt, sh2GetProdIds 32 (.replicate 60 0) 0 (shtp, Sh2.opened) noProductIds [fourIdsPoll] = .ok attempt ∧
        (attempt.returned = none ↔ 4 < 4) ∧
        ∀ status rest, attempt.returned = some (status, rest) → status = sh2Ok ∧
          ∃ prodIds' nextEntry expectedEntries,
            attempt.hub.2.opData = .getProdIds (some prodIds') nextEntry expectedEntries ∧
            prodIds'.numEntries.toNat = 4 ∧
            prodIds'.entry.toList.take 4 = List.replicate 4 ⟨0, 0, 0, 0, 0, 0, 0, 0⟩ := by
  obtain ⟨shtp, done, open'⟩ := sh2Listen_spec assembles_opened opened_listens Sh2.opened
  have ready : Sh2.opened.Ready false 0 := ⟨rfl, fun _ _ _ running => absurd running (by decide), counts_zero _⟩
  have timely : HubMessage.Timely 0 [(.control fourIds fourIds_sized, 0)] :=
    ⟨fun some => absurd rfl some, by decide, trivial⟩
  have moderate : ∀ sent ∈ [(HubMessage.control fourIds fourIds_sized, 0)], sent.1.Moderate := by
    intro sent member
    obtain rfl := List.mem_singleton.mp member
    trivial
  have carry : List.Forall₂ Received.Carries (arrivals [fourIdsPoll])
      (List.flatMap (Shipment.fragments (· + 1)) [⟨2, 0, [fourIds.flatten], trivial, 0, [], rfl⟩]) :=
    .cons ⟨⟨by decide, by decide, by decide⟩, by decide, rfl, rfl⟩ .nil
  exact ⟨shtp, done, product_ids_collected _ 0 noProductIds (by decide) rfl
    (Hub.expects_shipments open' ready timely moderate (by decide) rfl carry)⟩

end Requests

/-! ## The reset -/

section Opening
variable {messages : List (HubMessage × Nat)} {polls : List Poll}

/-- The polls of a new session bring these messages, in whatever transfers: they have room, and moderate times of which
the host misses no round. -/
structure HubSends (messages : List (HubMessage × Nat)) (polls : List Poll) : Prop where
  timely : HubMessage.Timely 0 messages
  moderate : ∀ sent ∈ messages, sent.1.Moderate
  room : ∀ sent ∈ messages, sent.1.payload.length ≤ payloadRoom
  carried : ∃ shipments : List (Shipment UInt8 UInt8 UInt32 UInt8),
    shipments.map Shipment.cargo = messages.map HubMessage.cargo ∧
      List.Forall₂ Received.Carries (arrivals polls) (shipments.flatMap (Shipment.fragments (· + 1)))

def Early (startUs : UInt32) (poll : Poll) : Prop := getTimeUs poll.ticks - startUs < advertTimeoutUs

def clockBehind (startUs : UInt32) (taken : List Poll) : UInt32 :=
  (taken.getLast?.map fun poll => getTimeUs poll.ticks).getD startUs

theorem early_taken_iff (startUs : UInt32) (taken : List Poll) :
    (∀ poll ∈ taken, Early startUs poll) ↔
      (∀ poll ∈ taken.dropLast, Early startUs poll) ∧ clockBehind startUs taken - startUs < advertTimeoutUs := by
  rcases List.eq_nil_or_concat' taken with rfl | ⟨before, poll, rfl⟩
  · have none (poll : Poll) : poll ∈ [] → Early startUs poll := fun member => absurd member List.not_mem_nil
    refine iff_of_true none ⟨none, ?_⟩
    rw [clockBehind, List.getLast?_nil, Option.map_none, Option.getD_none, UInt32.sub_self]
    decide
  · rw [List.dropLast_concat, clockBehind, List.getLast?_concat, List.forall_mem_append]
    exact and_congr_right fun _ => List.forall_mem_singleton

theorem sh2Listen_outSeq {shtp shtp' : Shtp} (done : sh2Listen shtp = .ok shtp') : shtp'.outSeq = shtp.outSeq := by
  obtain ⟨⟨second, _⟩, one, done⟩ := bind_eq_ok.mp done
  obtain ⟨⟨third, _⟩, two, done⟩ := bind_eq_ok.mp done
  obtain ⟨⟨fourth, _⟩, three, done⟩ := bind_eq_ok.mp done
  obtain ⟨⟨fifth, _⟩, four, done⟩ := bind_eq_ok.mp done
  obtain ⟨⟨first, _⟩, five, done⟩ := bind_eq_ok.mp done
  cases done
  rw [shtpListenChan_outSeq five, shtpListenChan_outSeq four, shtpListenChan_outSeq three, shtpListenChan_outSeq two,
    shtpListenChan_outSeq one]
  rfl

/-- The wait is over when the hub has been reset, or at the first poll that is late. -/
theorem sh2Open_spec (stack : Vector UInt8 sh2MaxSensorEventLen) (startUs : UInt32) (sends : HubSends messages polls) :
    ∃ (first : Hub) (attempt : _) (told : _), sh2Open stack startUs polls = .ok attempt ∧
      attempt.writes = List.replicate 5 softReset ∧ first.2 = Sh2.opened ∧ first.1.outSeq = .replicate _ 0 ∧
      first.Reaches attempt.hub false 0 messages attempt.left told ∧ told.dropLast.any (·.1.resets) = false ∧
      (attempt.returned = none ↔ (∀ poll ∈ polls, Early startUs poll) ∧ messages.any (·.1.resets) = false) ∧
      ∀ status rest, attempt.returned = some (status, rest) → status = sh2Ok := by
  obtain ⟨timely, moderate, room, shipments, sent, carry⟩ := sends
  obtain ⟨shtp, listening, open'⟩ := sh2Listen_spec assembles_opened opened_listens Sh2.opened
  have ready : Sh2.opened.Ready false 0 := ⟨rfl, fun _ _ _ running => absurd running (by decide), counts_zero _⟩
  have start := (Hub.expects_shipments open' ready timely moderate room sent carry).reaches
  -- the invariant: what was taken, and that the polls and messages before the last one did not end the wait
  obtain ⟨⟨reached, nowUs⟩, events, left, done, ⟨taken, told, whole, reaches, clock, early, quiet⟩, waits⟩ :=
    @poll_total _ _ _ _ (advertWaits startUs) (pollStep stack)
      (fun waiting inputs => ∃ taken told, polls = taken ++ inputs ∧
        Hub.Reaches (shtp, Sh2.opened) waiting.1 false 0 messages inputs told ∧
        waiting.2 = clockBehind startUs taken ∧ (∀ poll ∈ taken.dropLast, Early startUs poll) ∧
        told.dropLast.any (·.1.resets) = false)
      (by
        rintro ⟨next, nowUs⟩ poll inputs ⟨taken, told, rfl, reaches, clock, early, quiet⟩ waiting
        obtain ⟨now, silent⟩ := Bool.and_eq_true_iff.mp waiting
        -- the loop still waits, so none of the messages so far was the reset
        have unreset : told.any (·.1.resets) = false := by
          have complete := reaches.follows.resetComplete
          have unset : next.2.resetComplete = false := by simpa using silent
          rw [unset] at complete
          exact complete.symm
        obtain ⟨next', events, more, one, single, reaches'⟩ := reaches.poll stack nowUs
        refine ⟨_, events, one, taken ++ [poll], told ++ more, List.append_cons _ _ _, reaches', ?_, ?_, ?_⟩
        · rw [clockBehind, List.getLast?_concat]
          rfl
        · rw [List.dropLast_concat]
          exact (early_taken_iff startUs taken).mpr ⟨early, clock ▸ of_decide_eq_true now⟩
        · cases more with
          | nil => rw [List.append_nil, quiet]
          | cons message more =>
            obtain rfl := List.eq_nil_of_length_eq_zero (Nat.le_zero.mp (Nat.le_of_succ_le_succ single))
            rw [List.dropLast_concat, unreset])
      ((shtp, Sh2.opened), startUs) polls ⟨[], [], rfl, start, rfl, by simp, rfl⟩
  have opened : sh2Open stack startUs polls = .ok ⟨reached, .replicate 5 softReset, events.flatten,
      left.map (sh2Ok, ·)⟩ := by
    rw [sh2Open, listening, ok_bind, done]
    rfl
  have rest : (left.map (sh2Ok, ·)).map Prod.snd = left := by simp
  have complete : reached.2.resetComplete = told.any (·.1.resets) := reaches.follows.resetComplete
  refine ⟨(shtp, Sh2.opened), _, told, opened, rfl, rfl, ?_, ?_, quiet, ?_, ?_⟩
  · rw [sh2Listen_outSeq listening]
    simp [Shtp.outSeq, Shtp.opened]
  · rw [Attempt.left, rest]
    exact reaches
  · have going : left = none ↔ nowUs - startUs < advertTimeoutUs ∧ told.any (·.1.resets) = false := by
      rw [waits, advertWaits, Bool.and_eq_true_iff, decide_eq_true_iff, Bool.not_eq_true', complete]
    have clock' : nowUs = clockBehind startUs taken := clock
    rw [Option.map_eq_none_iff]
    constructor
    -- it waits on: every poll was taken and was early, and nothing told was the reset
    · rintro rfl
      obtain ⟨now, unreset⟩ := going.mp rfl
      obtain rfl := reaches.all
      rw [clock'] at now
      rw [whole, Option.getD_none, List.append_nil]
      exact ⟨(early_taken_iff startUs taken).mpr ⟨early, now⟩, unreset⟩
    -- conversely the last poll that was taken was early, too
    · rintro ⟨all, unreset⟩
      obtain ⟨later, rfl, -⟩ := reaches.later
      rw [List.any_append, Bool.or_eq_false_iff] at unreset
      rw [whole, List.forall_mem_append] at all
      have now := ((early_taken_iff startUs taken).mp all.1).2
      rw [← clock'] at now
      exact going.mpr ⟨now, unreset.1⟩
  · intro status rest returned
    obtain ⟨polls, rfl, same⟩ := Option.map_eq_some_iff.mp returned
    exact (Prod.mk.inj same).1.symm

/-- The clock of the driver has microseconds for ticks of a millisecond, times a thousand. -/
theorem getTimeUs_sub (ticks startTicks : UInt32) :
    (getTimeUs ticks - getTimeUs startTicks).toNat = (ticks - startTicks).toNat * 1000000 % 2 ^ 32 := by
  have whole : getTimeUs ticks - getTimeUs startTicks = (ticks - startTicks) * 1000000 := by
    unfold getTimeUs getTimestampUs
    grind
  rw [whole, UInt32.toNat_mul]
  rfl

/-- While the hub sends messages as `HubSends` says, the opening waits for the reset, but not for 200 milliseconds: it
goes on at the first poll in whose tick the clock, which wraps around, is 200000 ahead, and one tick adds a million. -/
theorem opening_waits_iff (stack : Vector UInt8 sh2MaxSensorEventLen) (startTicks : UInt32)
    (sends : HubSends messages polls) :
    ∃ attempt, sh2Open stack (getTimeUs startTicks) polls = .ok attempt ∧
      (attempt.returned = none ↔
        (∀ poll ∈ polls, (poll.ticks - startTicks).toNat * 1000000 % 2 ^ 32 < 200000) ∧
        ∀ sent ∈ messages, sent.1.resets = false) := by
  obtain ⟨first, attempt, told, done, -, -, -, -, -, waits, -⟩ := sh2Open_spec stack (getTimeUs startTicks) sends
  refine ⟨attempt, done, waits.trans (and_congr (forall₂_congr fun poll _ => ?_) ?_)⟩
  · rw [Early, UInt32.lt_iff_toNat_lt, getTimeUs_sub]
    rfl
  · rw [List.any_eq_false]
    exact forall₂_congr fun sent _ => by rw [Bool.not_eq_true]

/-- The first tick is enough, although nothing has come. -/
theorem opening_waits_iff_tick :
    ∃ attempt, sh2Open (.replicate 60 0) (getTimeUs 0) [⟨none, 1⟩] = .ok attempt ∧ attempt.returned ≠ none := by
  have nobody (sent : HubMessage × Nat) (member : sent ∈ []) : False := List.not_mem_nil member
  have sends : HubSends [] [⟨none, 1⟩] :=
    ⟨trivial, fun _ member => (nobody _ member).elim, fun _ member => (nobody _ member).elim, [], rfl, .nil⟩
  obtain ⟨attempt, done, waits⟩ := opening_waits_iff (.replicate 60 0) 0 sends
  refine ⟨attempt, done, fun none => ?_⟩
  have early := (waits.mp none).1 ⟨.none, 1⟩ (List.mem_singleton.mpr rfl)
  exact absurd early (by decide)

end Opening

/-! ## The whole bring-up -/

section BringUp
variable {bufferSize : UInt16} {messages : List (HubMessage × Nat)} {polls : List Poll}

theorem length_featureReport (reportId sensorId : UInt8) (pConfig : SensorConfig) :
    (featureReport reportId sensorId pConfig).length = 17 := rfl

theorem bno085EnableReport_spec {hub : Hub} {heard : Bool} {last : Nat} (stack : Vector UInt8 sh2MaxSensorEventLen)
    (startUs : UInt32) (sensor : UInt8) (intervalUs : UInt32) (room : 21 ≤ bufferSize.toNat)
    (idle : hub.2.inProgress = false) (expects : hub.Expects heard last messages (arrivals polls)) :
    ∃ attempt, bno085EnableReport bufferSize stack startUs hub sensor intervalUs polls = .ok attempt ∧
      attempt.writes =
        [ctrlTransfer hub.1.outSeq[2] (featureReport sensorhubSetFeatureCmd sensor (reportConfig intervalUs))] ∧
      attempt.returned = some (true, polls) ∧ attempt.hub.1.outSeq = hub.1.outSeq.set 2 (hub.1.outSeq[2] + 1) ∧
      attempt.hub.2.inProgress = false ∧ attempt.hub.Expects heard last messages (arrivals polls) := by
  let config := reportConfig intervalUs
  let request := featureReport sensorhubSetFeatureCmd sensor config
  have length : request.length = 17 := length_featureReport _ sensor config
  obtain ⟨outTransfer, sent⟩ := @sendCtrl_spec bufferSize request
    (hub.1, { hub.2 with inProgress := true, opStatus := sh2Ok, opData := .setSensorConfig config sensor })
    (List.ne_nil_of_length_eq_add_one length) (length.trans_le (by decide)) room
  let told : Hub := (hub.1.sent controlChannel outTransfer,
    { hub.2 with inProgress := false, opStatus := sh2Ok, opData := .setSensorConfig config sensor })
  have started : opStart bufferSize (hub.1, { hub.2 with opData := .setSensorConfig config sensor }) =
      .ok (told, [ctrlTransfer hub.1.outSeq[2] request], sh2Ok) := by
    rw [opStart, idle]
    exact bind_eq_ok.mpr ⟨_, bind_eq_ok.mpr ⟨_, sent, rfl⟩, rfl⟩
  have ended : poll (opWaits 0 startUs) (pollStep stack) (told, startUs) polls =
      .ok ((told, startUs), [], some polls) := poll_ended rfl polls
  have done : sh2SetSensorConfig bufferSize stack startUs hub sensor config polls =
      .ok ⟨told, [ctrlTransfer hub.1.outSeq[2] request], [], some (sh2Ok, polls)⟩ :=
    opProcess_eq started ended fun _ => rfl
  refine ⟨_, bind_eq_ok.mpr ⟨_, done, rfl⟩, rfl, rfl, Shtp.outSeq_sent _ outTransfer, rfl, ?_⟩
  refine (expects.sent controlChannel outTransfer).withSession ?_
  exact ⟨expects.ready.sensorCallback, fun _ _ _ running => absurd running Bool.false_ne_true, expects.ready.counts⟩

theorem neededIds_behind {ids : List ProductId} (enough : neededIds ids ≤ ids.length) (before : List ProductId) :
    neededIds (before ++ ids) ≤ (before ++ ids).length := by
  cases before with
  | nil => exact enough
  | cons prodId before =>
    have bounds := neededIds_bounds ids
    have bounds' := neededIds_bounds (prodId :: before ++ ids)
    simp only [List.cons_append, List.length_cons, List.length_append] at *
    omega

theorem heard_of_quiet {first second told later : List (HubMessage × Nat)} (reset : first.any (·.1.resets) = true)
    (whole : first ++ second = told ++ later) (quiet : told.dropLast.any (·.1.resets) = false) :
    ∃ unread, later = unread ++ second := by
  rcases List.append_eq_append_iff.mp whole with ⟨unread, rfl, rfl⟩ | ⟨unread, rfl, rfl⟩
  · rcases List.eq_nil_or_concat' unread with rfl | ⟨unread, sent, rfl⟩
    · exact ⟨[], rfl⟩
    · rw [← List.append_assoc, List.dropLast_concat, List.any_append, reset] at quiet
      cases quiet
  · exact ⟨unread, rfl⟩

def resetAndAsk : List (List UInt8) := List.replicate 5 softReset ++ [ctrlTransfer 0 [sensorhubProdIdReq, 0]]

theorem bno085InitSensorHub_spec (stack : Vector UInt8 sh2MaxSensorEventLen) (starts : Fin 2 → UInt32)
    (room : 6 ≤ bufferSize.toNat) (sends : HubSends messages polls) :
    ∃ attempt, bno085InitSensorHub bufferSize stack starts polls = .ok attempt ∧ attempt.writes <+: resetAndAsk ∧
      (∀ inited rest, attempt.returned = some (inited, rest) → attempt.writes = resetAndAsk ∧
        attempt.hub.1.outSeq[2] = 1 ∧ attempt.hub.2.inProgress = false ∧
        ∃ told later, messages = told ++ later ∧
          attempt.hub.Expects true (HubMessage.seen 0 told) later (arrivals rest)) ∧
      ∀ first second, messages = first ++ second → first.any (·.1.resets) = true →
        neededIds (second.flatMap (·.1.productIds)) ≤ (second.flatMap (·.1.productIds)).length →
        attempt.returned ≠ none := by
  obtain ⟨start, opened, told, opens, resets, session, outSeq, reaches, quiet, waits, ok⟩ :=
    sh2Open_spec stack (starts 0) sends
  cases left : opened.returned with
  -- the opening waits on, and nothing else is written
  | none =>
    refine ⟨_, bind_eq_ok.mpr ⟨_, opens, Attempt.andThen_none left⟩, ?_, ?_, ?_⟩
    · rw [resets]
      exact List.prefix_append _ _
    · rintro inited rest returned
      cases returned
    · rintro first second rfl reset -
      have none := (waits.mp left).2
      rw [List.any_append, reset] at none
      cases none
  -- the second operation finds the session as the opening left it
  | some back =>
    obtain ⟨status, rest⟩ := back
    obtain rfl := ok status rest left
    have rest' : opened.left = rest := by rw [Attempt.left, left]; rfl
    obtain ⟨later, whole, expects⟩ := reaches.later
    have idle : opened.hub.2.inProgress = false := reaches.follows.idle (by rw [session]; rfl)
    have number : opened.hub.1.outSeq[2] = 0 := by simp [reaches.outSeq, outSeq]
    rw [rest'] at expects
    obtain ⟨asked, told', later', asks, request, outSeq', whole', expects', collecting, waits', ok'⟩ :=
      sh2GetProdIds_spec stack (starts 1) noProductIds room idle expects
    have writes : opened.writes ++ asked.writes = resetAndAsk := by
      rw [resets, request, number]
      rfl
    cases left' : asked.returned with
    | none =>
      have running := waits'.mp left'
      refine ⟨_, bind_eq_ok.mpr ⟨_, opens, Attempt.andThen_some left
        (bind_eq_ok.mpr ⟨_, asks, Attempt.andThen_none left'⟩)⟩, ?_, ?_, ?_⟩
      · rw [writes]
      · rintro inited rest returned
        cases returned
      · rintro first second rfl reset enough -
        -- behind the reset come all product ids, and the ones before it do no harm
        obtain ⟨unread, rfl⟩ := heard_of_quiet reset whole quiet
        obtain ⟨prodIds, nextEntry, expectedEntries, collects⟩ := collecting
        have few := of_decide_eq_true (collects.inProgress.symm.trans running)
        rw [List.flatMap_append] at few
        exact absurd (neededIds_behind enough _) (Nat.not_le.mpr few)
    | some back =>
      obtain ⟨status, rest''⟩ := back
      obtain rfl := ok' status rest'' left'
      have idle' : asked.hub.2.inProgress = false := by
        have ended := mt waits'.mpr (by rw [left']; exact Option.some_ne_none _)
        exact Bool.eq_false_iff.mpr ended
      have rest'' : asked.left = rest'' := by rw [Attempt.left, left']; rfl
      rw [rest''] at expects'
      refine ⟨_, bind_eq_ok.mpr ⟨_, opens, Attempt.andThen_some left
        (bind_eq_ok.mpr ⟨_, asks, Attempt.andThen_some left' rfl⟩)⟩, ?_, ?_, ?_⟩
      · rw [List.append_nil, writes]
      · rintro inited rest returned
        cases returned
        refine ⟨by rw [List.append_nil, writes], ?_, idle', told ++ told', later', ?_, ?_⟩
        · simp [outSeq', number]
        · rw [whole, whole', List.append_assoc]
        · rw [HubMessage.seen_append]
          exact expects'.withSession ⟨rfl, expects'.ready.sane, expects'.ready.counts⟩
      · intro _ _ _ _ _ none
        cases none

def configuration : List (List UInt8) := resetAndAsk ++
  [ctrlTransfer 1 (featureReport sensorhubSetFeatureCmd sh2GyroscopeCalibrated (reportConfig 5000)),
    ctrlTransfer 2 (featureReport sensorhubSetFeatureCmd sh2RotationVector (reportConfig 5000))]

theorem hwImuStart_spec (stack : Vector UInt8 sh2MaxSensorEventLen) (starts : Fin 4 → UInt32)
    (room : 21 ≤ bufferSize.toNat) (sends : HubSends messages polls) :
    ∃ attempt, hwImuStart bufferSize stack starts polls = .ok attempt ∧ attempt.writes <+: configuration ∧
      (∀ rest, attempt.returned = some ((), rest) → attempt.writes = configuration ∧
        ∃ told later, messages = told ++ later ∧
          attempt.hub.Expects true (HubMessage.seen 0 told) later (arrivals rest)) ∧
      ∀ first second, messages = first ++ second → first.any (·.1.resets) = true →
        neededIds (second.flatMap (·.1.productIds)) ≤ (second.flatMap (·.1.productIds)).length →
        attempt.returned ≠ none := by
  obtain ⟨inited, done, writes, returns, answers⟩ :=
    bno085InitSensorHub_spec stack (fun call => starts (call.castLE (by decide))) (Nat.le_trans (by decide) room) sends
  cases left : inited.returned with
  | none =>
    refine ⟨_, bind_eq_ok.mpr ⟨_, done, Attempt.andThen_none left⟩, writes.trans (List.prefix_append _ _), ?_, ?_⟩
    · rintro rest returned
      cases returned
    · intro first second whole reset enough
      exact absurd left (answers first second whole reset enough)
  | some back =>
    obtain ⟨result, rest⟩ := back
    obtain ⟨all, number, idle, told, later, whole, expects⟩ := returns result rest left
    obtain ⟨gyroscope, done', writes', left', outSeq', idle', expects'⟩ :=
      bno085EnableReport_spec stack (starts 2) sh2GyroscopeCalibrated 5000 room idle expects
    obtain ⟨rotation, done'', writes'', left'', -, -, expects''⟩ :=
      bno085EnableReport_spec stack (starts 3) sh2RotationVector 5000 room idle' expects'
    have number' : gyroscope.hub.1.outSeq[2] = 2 := by
      simp [outSeq', number]
    have written : inited.writes ++ (gyroscope.writes ++ rotation.writes) = configuration := by
      rw [all, writes', writes'', number, number']
      rfl
    refine ⟨_, bind_eq_ok.mpr ⟨_, done, Attempt.andThen_some left (bind_eq_ok.mpr ⟨_, done',
      Attempt.andThen_some left' (bind_eq_ok.mpr ⟨_, done'', rfl⟩)⟩)⟩, ?_, ?_, ?_⟩
    · rw [written]
    · intro rest' returned
      simp only [left'', Option.map_some, Option.some.injEq, Prod.mk.injEq, true_and] at returned
      obtain rfl := returned
      exact ⟨written, told, later, whole, expects''⟩
    · intro _ _ _ _ _ none
      simp [left''] at none

def configurationFragments : List (Fragment UInt8 UInt8 UInt8) :=
  List.replicate 5 ⟨chanExecutableDevice, 0, false, 1, [1]⟩ ++
    [⟨chanSensorhubControl, 0, false, 2, [sensorhubProdIdReq, 0]⟩,
      ⟨chanSensorhubControl, 1, false, 17,
        featureReport sensorhubSetFeatureCmd sh2GyroscopeCalibrated (reportConfig 5000)⟩,
      ⟨chanSensorhubControl, 2, false, 17,
        featureReport sensorhubSetFeatureCmd sh2RotationVector (reportConfig 5000)⟩]

theorem configuration_eq : configuration = writtenOf configurationFragments := by decide

/-- A payload that takes one transfer, for a channel with a listener. -/
structure Single (peer : Shtp) (fragment : Fragment UInt8 UInt8 UInt8) : Prop where
  first : fragment.continues = false
  whole : fragment.left = fragment.piece.length
  small : fragment.left ≤ payloadRoom
  channel : fragment.channel.toNat < shtpMaxChans
  listens : peer.listens fragment.channel = true

theorem singles_received {peer : Shtp} {assembler : ShtpAssembler} (assembles : peer.Assembles assembler)
    {fragments : List (Fragment UInt8 UInt8 UInt8)} (single : ∀ fragment ∈ fragments, Single peer fragment)
    {transfers : List Received} (arrive : List.Forall₂ Received.Reads transfers (writtenOf fragments)) :
    ∃ final calls, run rxStep peer transfers = .ok (final, calls) ∧
      (payloads calls.flatten).map (fun cargo => (cargo.channel, cargo.payload)) =
        fragments.map fun fragment => (fragment.channel, fragment.piece) := by
  have sendable : ∀ fragment ∈ fragments, Sendable fragment := by
    intro fragment member
    have here := single fragment member
    have small : fragment.left ≤ 1020 := here.small
    exact ⟨here.channel, here.whole.ge, by omega⟩
  have count : (transfers.map Received.tUs).length = fragments.length := by
    rw [List.length_map, arrive.length_eq, writtenOf, List.length_map]
  have cargoes : (Assembler.receiveAll (· + 1) payloadRoom assembler
      (fragments.zip (transfers.map Received.tUs))).2.map (fun cargo => (cargo.channel, cargo.payload)) =
        fragments.map fun fragment => (fragment.channel, fragment.piece) :=
    receiveAll_singles assembler (fun fragment member =>
      ⟨(single fragment member).first, (single fragment member).whole, (single fragment member).small⟩) count
  obtain ⟨final, calls, received, -, -, out⟩ := rx_refines assembles (carries_of_reads sendable arrive)
  refine ⟨final, calls, received, ?_⟩
  rw [out, List.filter_eq_self.mpr, cargoes]
  intro cargo member
  have there := List.mem_map_of_mem (f := fun cargo => (cargo.channel, cargo.payload)) member
  rw [cargoes] at there
  obtain ⟨fragment, member', same⟩ := List.mem_map.mp there
  have channel : fragment.channel = cargo.channel := congrArg Prod.fst same
  exact channel ▸ (single fragment member').listens

/-- A hub that sends messages as `HubSends` says is never sent anything but the reset, the question for the product ids
and the configurations of the two sensors, in this order, and each of them whole, and all of them when the bring-up
returns. -/
theorem hub_configured (stack : Vector UInt8 sh2MaxSensorEventLen) (starts : Fin 4 → UInt32)
    (room : 21 ≤ bufferSize.toNat) (sends : HubSends messages polls) {peer : Shtp} {assembler : ShtpAssembler}
    (assembles : peer.Assembles assembler) (listens : peer.listens chanExecutableDevice = true)
    (listens' : peer.listens chanSensorhubControl = true) :
    let configured := configurationFragments.map fun fragment => (fragment.channel, fragment.piece)
    ∃ attempt, hwImuStart bufferSize stack starts polls = .ok attempt ∧
      ∀ transfers, List.Forall₂ Received.Reads transfers attempt.writes →
        ∃ final calls, run rxStep peer transfers = .ok (final, calls) ∧
          let told := (payloads calls.flatten).map fun cargo => (cargo.channel, cargo.payload)
          told <+: configured ∧ (attempt.returned ≠ none → told = configured) := by
  intro configured
  obtain ⟨attempt, done, ⟨unwritten, written⟩, returns, -⟩ := hwImuStart_spec stack starts room sends
  refine ⟨attempt, done, fun transfers arrive => ?_⟩
  rw [configuration_eq] at written returns
  obtain ⟨fragments, others, whole, some_written, -⟩ := List.append_eq_map_iff.mp written
  have single : ∀ fragment ∈ fragments, Single peer fragment := by
    have sound : ∀ fragment ∈ configurationFragments, fragment.continues = false ∧
        fragment.left = fragment.piece.length ∧ fragment.left ≤ payloadRoom ∧
        fragment.channel.toNat < shtpMaxChans ∧
        (fragment.channel = chanExecutableDevice ∨ fragment.channel = chanSensorhubControl) := by decide
    intro fragment member
    obtain ⟨first, size, small, channel, known⟩ := sound fragment (whole ▸ List.mem_append_left others member)
    refine ⟨first, size, small, channel, ?_⟩
    rcases known with known | known <;> rw [known] <;> assumption
  rw [← some_written] at arrive
  obtain ⟨final, calls, received, same⟩ := singles_received assembles single arrive
  have configured' : configured = (fragments ++ others).map fun fragment => (fragment.channel, fragment.piece) := by
    rw [← whole]
  refine ⟨final, calls, received, ?_⟩
  intro told
  rw [configured', List.map_append, ← same]
  refine ⟨List.prefix_append _ _, fun returned => ?_⟩
  obtain ⟨back, left⟩ := Option.ne_none_iff_exists'.mp returned
  have everything := (returns back.2 left).1
  rw [whole, writtenOf, List.map_append, ← some_written] at everything
  obtain rfl := List.map_eq_nil_iff.mp (List.self_eq_append_right.mp everything)
  exact (List.append_nil _).symm

def resetPoll : Poll := ⟨some ⟨[5, 0, 1, 0, 1], 5, by decide, 0⟩, 0⟩

def someGyroscope : SensorReport := ⟨sh2GyroscopeCalibrated, 7, 3, 4, [1, 0, 2, 0, 0xFF, 0xFF], rfl, by decide⟩

def someRotation : SensorReport := ⟨sh2RotationVector, 7, 3, 9, [5, 0, 6, 0, 7, 0, 8, 0, 9, 0], rfl, by decide⟩

def reportPoll : Poll :=
  ⟨some ⟨28 :: 0 :: 3 :: 0 :: (someGyroscope.bytes ++ someRotation.bytes), 28, by decide, 0⟩, 2⟩

def readyHub : List (HubMessage × Nat) :=
  [(.executable [1], 0), (.control fourIds fourIds_sized, 0),
    (.input false [.sensor someGyroscope, .sensor someRotation], 0)]

theorem readyHub_sends : HubSends readyHub [resetPoll, fourIdsPoll, reportPoll] where
  timely := ⟨fun some => absurd rfl some, by decide, fun some => absurd rfl some, by decide,
    fun _ => ⟨by decide, by decide⟩, by decide, trivial⟩
  moderate := by
    intro sent member
    rcases List.mem_cons.mp member with rfl | member
    · trivial
    rcases List.mem_cons.mp member with rfl | member
    · trivial
    obtain rfl := List.mem_singleton.mp member
    exact ⟨⟨by decide, by decide⟩, ⟨by decide, by decide⟩, trivial⟩
  room := by decide
  carried := by
    refine ⟨[⟨1, 0, [[1]], trivial, 0, [], rfl⟩, ⟨2, 0, [fourIds.flatten], trivial, 0, [], rfl⟩,
      ⟨3, 0, [someGyroscope.bytes ++ someRotation.bytes], trivial, 0, [], rfl⟩], rfl, ?_⟩
    exact .cons ⟨⟨by decide, by decide, by decide⟩, by decide, rfl, rfl⟩
      (.cons ⟨⟨by decide, by decide, by decide⟩, by decide, rfl, rfl⟩
        (.cons ⟨⟨by decide, by decide, by decide⟩, by decide, rfl, rfl⟩ .nil))

theorem hub_configured_ready :
    ∃ peer, sh2Listen Shtp.opened = .ok peer ∧
      ∃ attempt, hwImuStart 32 (.replicate 60 0) (fun _ => 0) [resetPoll, fourIdsPoll, reportPoll] = .ok attempt ∧
        ∀ transfers, List.Forall₂ Received.Reads transfers attempt.writes →
          ∃ final calls, run rxStep peer transfers = .ok (final, calls) ∧
            let told := (payloads calls.flatten).map fun cargo => (cargo.channel, cargo.payload)
            told <+: configurationFragments.map (fun fragment => (fragment.channel, fragment.piece)) ∧
            (attempt.returned ≠ none →
              told = configurationFragments.map fun fragment => (fragment.channel, fragment.piece)) := by
  obtain ⟨peer, done, open'⟩ := sh2Listen_spec assembles_opened opened_listens Sh2.opened
  exact ⟨peer, done, hub_configured _ _ (by decide) readyHub_sends open'.assembles (open'.listens _) (open'.listens _)⟩

/-- From power-up to the control loop: when the hub sends messages as `HubSends` says, among them a reset and behind it
all its product ids, the bring-up returns, and the readings are the numbers of the last reports that came behind it. -/
theorem readings_after_start {φ : Type} (scaleQ : Int16 → Nat → φ) (zero : φ)
    (stack : Vector UInt8 sh2MaxSensorEventLen) (starts : Fin 4 → UInt32) (room : 21 ≤ bufferSize.toNat)
    {first second : List (HubMessage × Nat)} (sends : HubSends (first ++ second) polls)
    (reset : first.any (·.1.resets) = true)
    (answered : neededIds (second.flatMap (·.1.productIds)) ≤ (second.flatMap (·.1.productIds)).length) :
    ∃ attempt rest told later, hwImuStart bufferSize stack starts polls = .ok attempt ∧
      attempt.returned = some ((), rest) ∧ first ++ second = told ++ later ∧
      attempt.hub.Expects true (HubMessage.seen 0 told) later (arrivals rest) ∧
      ∀ earlier poll gyroscope rotation readings, arrivals rest = earlier ++ poll → poll.length ≤ 1 →
        lastSample sh2GyroscopeCalibrated (HubMessage.allSamples later) = some gyroscope →
        lastSample sh2RotationVector (HubMessage.allSamples later) = some rotation → readings.length = 10 →
        ∃ before outputs after,
          run (sh2Service scaleQ stack) (attempt.hub, zeroed zero) earlier = .ok (before, outputs) ∧
          hwImuGetReadings scaleQ stack before poll.head? readings =
            .ok (after,
              readings.take 3 ++ gyroscope.report.floats scaleQ ++ (rotation.report.floats scaleQ).take 4) := by
  obtain ⟨attempt, done, -, returns, answers⟩ := hwImuStart_spec stack starts room sends
  obtain ⟨⟨_, rest⟩, returned⟩ := Option.ne_none_iff_exists'.mp (answers first second rfl reset answered)
  obtain ⟨-, told, later, whole, expects⟩ := returns rest returned
  refine ⟨attempt, rest, told, later, done, returned, whole, expects, ?_⟩
  intro earlier poll gyroscope rotation readings split single gyroscopeLast rotationLast length
  rw [split] at expects
  exact hwImuGetReadings_spec scaleQ stack single expects zero gyroscopeLast rotationLast length

theorem readings_after_start_ready :
    let scaleQ : Int16 → Nat → Int × Nat := fun number q => (number.toInt, q)
    ∃ attempt rest told later,
      hwImuStart 32 (.replicate 60 0) (fun _ => 0) [resetPoll, fourIdsPoll, reportPoll] = .ok attempt ∧
      attempt.returned = some ((), rest) ∧ readyHub = told ++ later ∧
      attempt.hub.Expects true (HubMessage.seen 0 told) later (arrivals rest) ∧
      ∀ earlier poll gyroscope rotation readings, arrivals rest = earlier ++ poll → poll.length ≤ 1 →
        lastSample sh2GyroscopeCalibrated (HubMessage.allSamples later) = some gyroscope →
        lastSample sh2RotationVector (HubMessage.allSamples later) = some rotation → readings.length = 10 →
        ∃ before outputs after,
          run (sh2Service scaleQ (.replicate 60 0)) (attempt.hub, zeroed (0, 0)) earlier = .ok (before, outputs) ∧
          hwImuGetReadings scaleQ (.replicate 60 0) before poll.head? readings =
            .ok (after,
              readings.take 3 ++ gyroscope.report.floats scaleQ ++ (rotation.report.floats scaleQ).take 4) := by
  intro scaleQ
  have sends : HubSends (readyHub.take 1 ++ readyHub.drop 1) _ := readyHub_sends
  exact readings_after_start scaleQ (0, 0) _ _ (by decide) sends (by decide) (by decide)

end BringUp

end TvcHopper.Imu
