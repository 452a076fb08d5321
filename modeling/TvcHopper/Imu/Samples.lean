import TvcHopper.Imu.Operations

/-! What the sensor callback is told, when the hub sends whole reports.

The hub may cut its payloads into transfers as it likes, and send other payloads
in between. Its clock is no part of the model: a sample is dated from the time at
which the host took the first transfer.
-/

set_option autoImplicit false

namespace TvcHopper.Imu
open Machine

/-- A payload of the hub: samples, reports for an operation, a word of the executable, or one that nobody listens to. -/
inductive HubMessage where
  | input (wake : Bool) (reports : List HubReport)
  | control (records : List (List UInt8)) (sized : ∀ record ∈ records, Sized reportSize record)
  | executable (payload : List UInt8)
  | unheard (channel : UInt8) (payload : List UInt8) (nobody : ¬(1 ≤ channel.toNat ∧ channel.toNat ≤ 5))

namespace HubMessage

def channel : HubMessage → UInt8
  | .input wake _ => if wake then chanSensorhubInputWake else chanSensorhubInput
  | .control _ _ => chanSensorhubControl
  | .executable _ => chanExecutableDevice
  | .unheard channel _ _ => channel

def payload : HubMessage → List UInt8
  | .input _ reports => (reports.map HubReport.bytes).flatten
  | .control records _ => records.flatten
  | .executable payload => payload
  | .unheard _ payload _ => payload

def samples : HubMessage → List Sample
  | .input _ reports => Imu.samples 0 reports
  | _ => []

def Moderate : HubMessage → Prop
  | .input _ reports => Imu.Moderate 0 reports
  | _ => True

def productIds : HubMessage → List ProductId
  | .control records _ => records.flatMap recordIds
  | _ => []

def resets : HubMessage → Bool
  | .executable payload => payload = [executableDeviceRespResetComplete]
  | _ => false

/-- The payload, with the host's clock at the time of its first transfer. -/
def cargo (sent : HubMessage × Nat) : Cargo UInt8 UInt32 UInt8 := ⟨sent.1.channel, sent.1.payload, .ofNat sent.2⟩

def timedSamples (messages : List (HubMessage × Nat)) : List (Sample × Nat) :=
  messages.flatMap fun sent => sent.1.samples.map (·, sent.2)

/-- The host sees its clock at least once in every round of it. -/
def Timely : Nat → List (HubMessage × Nat) → Prop
  | _, [] => True
  | last, (message, time) :: rest => (message.samples ≠ [] → last ≤ time ∧ time < last + 2 ^ 32) ∧ time < 2 ^ 64 ∧
      Timely (seenAfter last time message.samples) rest

def seen : Nat → List (HubMessage × Nat) → Nat
  | last, [] => last
  | last, (message, time) :: rest => seen (seenAfter last time message.samples) rest

end HubMessage

/-! ## The handlers -/

section Handlers
variable {sh2 : Sh2} {heard : Bool} {last : Nat}

/-- `heard` tells whether there is a sensor callback. -/
structure Sh2.Ready (sh2 : Sh2) (heard : Bool) (last : Nat) : Prop where
  sensorCallback : sh2.sensorCallback = heard
  sane : sh2.Sane
  counts : sh2.CountsTo last

/-- What payloads may do to the session that tell some product ids, and maybe a reset. -/
structure Sh2.Follows (sh2 sh2' : Sh2) (heard : Bool) (last : Nat) (told : List ProductId) (reset : Bool) : Prop where
  ready : sh2'.Ready heard last
  idle : sh2.inProgress = false → sh2'.inProgress = false
  collecting : ∀ ids, sh2.Collecting ids → sh2'.Collecting (ids ++ told)
  resetComplete : sh2'.resetComplete = (sh2.resetComplete || reset)

theorem Sh2.Follows.trans {sh2 sh2' sh2'' : Sh2} {last' : Nat} {told told' : List ProductId} {reset reset' : Bool}
    (first : sh2.Follows sh2' heard last told reset) (second : sh2'.Follows sh2'' heard last' told' reset') :
    sh2.Follows sh2'' heard last' (told ++ told') (reset || reset') where
  ready := second.ready
  idle := fun idle => second.idle (first.idle idle)
  collecting := by
    intro ids collecting
    rw [← List.append_assoc]
    exact second.collecting _ (first.collecting ids collecting)
  resetComplete := by rw [second.resetComplete, first.resetComplete, Bool.or_assoc]

theorem Sh2.Ready.follows {sh2 sh2' : Sh2} {reset : Bool} (ready : sh2'.Ready heard last)
    (inProgress : sh2'.inProgress = sh2.inProgress) (opStatus : sh2'.opStatus = sh2.opStatus)
    (opData : sh2'.opData = sh2.opData) (resetComplete : sh2'.resetComplete = (sh2.resetComplete || reset)) :
    sh2.Follows sh2' heard last [] reset where
  ready := ready
  idle := inProgress.trans
  collecting := by
    intro ids collecting
    obtain ⟨prodIds, nextEntry, expectedEntries, collects⟩ := collecting
    rw [List.append_nil]
    exact ⟨prodIds, nextEntry, expectedEntries, opData ▸ collects.operation, inProgress ▸ collects.inProgress,
      collects.next, collects.expected, collects.stored, opStatus ▸ collects.complete⟩
  resetComplete := resetComplete

theorem Sh2.Ready.same (ready : sh2.Ready heard last) : sh2.Follows sh2 heard last [] false :=
  ready.follows rfl rfl rfl (Bool.or_false _).symm

theorem alone_control (ready : sh2.Ready heard last) {record : List UInt8} (sized : Sized reportSize record) :
    ∃ sh2', alone controlReport sh2 record = .ok sh2' ∧ sh2.Follows sh2' heard last (recordIds record) false := by
  obtain ⟨reportId, data, rfl, length⟩ := sized
  obtain ⟨inProgress, opStatus, opData, operation, sane⟩ := opRx_spec ready.sane length
  have still (idle : sh2.inProgress = false) : inProgress = false := by
    rw [opRx, idle] at operation
    exact (congrArg Sh2.inProgress (Except.ok.inj operation)).symm.trans idle
  refine ⟨{ sh2 with inProgress, opStatus, opData }, ?_, ⟨ready.sensorCallback, sane, ready.counts⟩, still,
    fun ids collecting => collecting.opRx length operation, (Bool.or_false _).symm⟩
  rw [alone, controlReport, load_cons_zero, ok_bind]
  by_cases command : reportId = sensorhubCommandResp
  · subst command
    have size : (sensorhubCommandResp :: data).length = 16 := length
    rw [if_pos rfl, load_of_lt _ 2 (by omega), load_of_lt _ 6 (by omega), ok_bind, operation]
    split <;> rfl
  by_cases feature : reportId = sensorhubGetFeatureResp
  · subst feature
    have size : (sensorhubGetFeatureResp :: data).length = 17 := length
    have read := loadRange_eq_ok.mpr ⟨Nat.le_of_eq (show 1 + 16 = _ from size.symm), rfl⟩
    rw [if_neg command, if_pos rfl, read, operation]
    rfl
  · rw [if_neg command, if_neg feature, operation]

theorem controlReports (ready : sh2.Ready heard last) {records : List (List UInt8)}
    (sized : ∀ record ∈ records, Sized reportSize record) :
    ∃ sh2', records.foldlM (alone controlReport) sh2 = .ok sh2' ∧
      sh2.Follows sh2' heard last (records.flatMap recordIds) false := by
  induction records generalizing sh2 with
  | nil => exact ⟨sh2, rfl, ready.same⟩
  | cons record records ih =>
    obtain ⟨here, others⟩ := List.forall_mem_cons.mp sized
    obtain ⟨next, one, follows⟩ := alone_control ready here
    obtain ⟨final, rest, follows'⟩ := ih follows.ready others
    refine ⟨final, ?_, follows.trans follows'⟩
    rw [List.foldlM_cons, one, ok_bind, rest]

theorem executableDeviceHdlr_follows (ready : sh2.Ready heard last) {message payload : List UInt8} {len : UInt16}
    (content : payload.take len.toNat = message) (inside : len.toNat ≤ payload.length) :
    ∃ sh2', executableDeviceHdlr sh2 payload len = .ok sh2' ∧
      sh2.Follows sh2' heard last [] (HubMessage.resets (.executable message)) := by
  have changed {resetComplete reset : Bool} (execBadPayload : UInt32)
      (same : resetComplete = (sh2.resetComplete || reset)) :
      sh2.Follows { sh2 with resetComplete, execBadPayload } heard last [] reset :=
    Sh2.Ready.follows ⟨ready.sensorCallback, ready.sane, ready.counts⟩ rfl rfl rfl same
  have unchanged (other : message ≠ [executableDeviceRespResetComplete]) :
      sh2.resetComplete = (sh2.resetComplete || HubMessage.resets (.executable message)) := by
    rw [HubMessage.resets, decide_eq_false other, Bool.or_false]
  unfold executableDeviceHdlr
  by_cases one : len = 1
  · subst one
    have single : message = [payload[0]] := by
      obtain ⟨first, rest, rfl⟩ := List.exists_cons_of_length_pos inside
      exact content.symm
    rw [if_neg (not_not.mpr rfl), load_of_lt payload 0 inside, ok_bind]
    by_cases reset : payload[0] = executableDeviceRespResetComplete
    · rw [if_pos reset]
      refine ⟨_, rfl, changed sh2.execBadPayload ?_⟩
      rw [HubMessage.resets, single, reset]
      exact (Bool.or_true _).symm
    · rw [if_neg reset]
      refine ⟨_, rfl, changed _ (unchanged ?_)⟩
      rw [single]
      exact fun same => reset (List.cons.inj same).1
  · rw [if_pos one]
    refine ⟨_, rfl, changed _ (unchanged ?_)⟩
    rintro rfl
    have size := congrArg List.length content
    rw [List.length_take_of_le inside] at size
    exact one (UInt16.toNat_inj.mp size)

theorem sensorhubControlHdlr_follows (ready : sh2.Ready heard last) {records : List (List UInt8)}
    (sized : ∀ record ∈ records, Sized reportSize record) {payload : List UInt8} {len : UInt16}
    (content : payload.take len.toNat = records.flatten) (inside : len.toNat ≤ payload.length)
    (room : len.toNat ≤ sh2HalMaxPayloadIn) :
    ∃ sh2', sensorhubControlHdlr sh2 payload len = .ok sh2' ∧
      sh2.Follows sh2' heard last (records.flatMap recordIds) false := by
  unfold sensorhubControlHdlr
  by_cases nothing : len = 0
  · subst nothing
    have none : records.flatMap recordIds = [] := by
      have empty : records.flatten = [] := content.symm
      rw [List.flatMap_eq_nil_iff]
      intro record member
      exact absurd (List.flatten_eq_nil_iff.mp empty record member)
        (List.ne_nil_of_length_pos (sized record member).pos)
    rw [if_pos rfl, none]
    exact ⟨_, rfl, Sh2.Ready.follows ⟨ready.sensorCallback, ready.sane, ready.counts⟩ rfl rfl rfl
      (Bool.or_false _).symm⟩
  · rw [if_neg nothing, eachReport_records controlReport_local sized content inside room]
    exact controlReports ready sized

theorem dispatch_message (stack : Vector UInt8 sh2MaxSensorEventLen) (ready : sh2.Ready heard last)
    {message : HubMessage} {time : Nat} (moderate : message.Moderate)
    (timely : message.samples ≠ [] → last ≤ time ∧ time < last + 2 ^ 32)
    (small : time < 2 ^ 64) {payload : Vector UInt8 sh2HalMaxPayloadIn} {len : UInt16} {timestamp : UInt32}
    (content : payload.toList.take len.toNat = message.payload) (room : message.payload.length ≤ payloadRoom)
    (host : timestamp = .ofNat time) :
    ∃ sh2' events, dispatch stack sh2 (.payload message.channel payload len timestamp) = .ok (sh2', events) ∧
      sh2.Follows sh2' heard (seenAfter last time message.samples) message.productIds message.resets ∧
      (heard = true → List.Forall₂ (Sh2SensorEvent.Tells time) events message.samples) := by
  have size : payload.toList.length = sh2HalMaxPayloadIn := payload.length_toList
  have inside : len.toNat ≤ payload.toList.length := by
    have part : payloadRoom = 1020 := rfl
    have whole : sh2HalMaxPayloadIn = 1024 := rfl
    rw [← content, List.length_take] at room
    omega
  cases message with
  | input wake reports =>
    have host' : timestamp.toNat = time % 2 ^ 32 := by rw [host, UInt32.toNat_ofNat']
    obtain ⟨lastHostInt, rollovers, events, done, counts, tell⟩ :=
      sensorhubInputHdlr_batch stack content inside (size ▸ inside) host' small ready.counts timely moderate
    refine ⟨{ sh2 with lastHostInt, rollovers }, events, ?_,
      Sh2.Ready.follows ⟨ready.sensorCallback, ready.sane, counts⟩ rfl rfl rfl (Bool.or_false _).symm,
      fun callback => tell (ready.sensorCallback.trans callback)⟩
    cases wake <;> exact done
  | control records sized =>
    obtain ⟨sh2', done, follows⟩ := sensorhubControlHdlr_follows ready sized content inside (size ▸ inside)
    exact ⟨sh2', [], bind_eq_ok.mpr ⟨sh2', done, rfl⟩, follows, fun _ => .nil⟩
  | executable payload' =>
    obtain ⟨sh2', done, follows⟩ := executableDeviceHdlr_follows ready content inside
    exact ⟨sh2', [], bind_eq_ok.mpr ⟨sh2', done, rfl⟩, follows, fun _ => .nil⟩
  | unheard channel payload' nobody =>
    have apart (other : UInt8) (low : 1 ≤ other.toNat) (high : other.toNat ≤ 5) : channel ≠ other := by
      rintro rfl
      exact nobody ⟨low, high⟩
    refine ⟨sh2, [], ?_, ready.same, fun _ => .nil⟩
    simp only [HubMessage.channel, dispatch, apart 1 (by decide) (by decide), apart 2 (by decide) (by decide),
      apart 3 (by decide) (by decide), apart 4 (by decide) (by decide), apart 5 (by decide) (by decide), if_false,
      or_self]

theorem dispatch_messages (stack : Vector UInt8 sh2MaxSensorEventLen) (ready : sh2.Ready heard last)
    {messages : List (HubMessage × Nat)} (timely : HubMessage.Timely last messages)
    (moderate : ∀ sent ∈ messages, sent.1.Moderate) (room : ∀ sent ∈ messages, sent.1.payload.length ≤ payloadRoom)
    {calls : List ShtpCall} (delivered : payloads calls = messages.map HubMessage.cargo) :
    ∃ sh2' outputs, run (dispatch stack) sh2 calls = .ok (sh2', outputs) ∧
      sh2.Follows sh2' heard (HubMessage.seen last messages) (messages.flatMap (·.1.productIds))
        (messages.any (·.1.resets)) ∧
      (heard = true → List.Forall₂ (fun event sample => event.Tells sample.2 sample.1) outputs.flatten
        (HubMessage.timedSamples messages)) := by
  induction calls generalizing sh2 last messages with
  | nil =>
    obtain rfl := List.map_eq_nil_iff.mp delivered.symm
    exact ⟨sh2, [], rfl, ready.same, fun _ => .nil⟩
  | cons call calls ih =>
    cases call with
    | event event =>
      obtain ⟨sh2', outputs, done, tell⟩ := ih ready timely moderate room delivered
      exact ⟨sh2', [] :: outputs, run_cons_eq_ok.mpr ⟨sh2, [], outputs, rfl, done, rfl⟩, tell⟩
    | payload chan payload len timestamp =>
      cases messages with
      | nil => cases delivered
      | cons sent messages =>
        obtain ⟨message, time⟩ := sent
        obtain ⟨same, others⟩ := List.cons.inj delivered
        obtain ⟨rfl, content, rfl⟩ := Cargo.mk.inj same
        obtain ⟨timely, small, later⟩ := timely
        obtain ⟨moderate, moderate'⟩ := List.forall_mem_cons.mp moderate
        obtain ⟨room, room'⟩ := List.forall_mem_cons.mp room
        obtain ⟨next, events, one, follows, tells⟩ :=
          dispatch_message stack ready moderate timely small content room rfl
        obtain ⟨sh2', outputs, done, follows', tell⟩ := ih follows.ready later moderate' room' others
        refine ⟨sh2', events :: outputs, run_cons_eq_ok.mpr ⟨next, events, outputs, one, done, rfl⟩,
          follows.trans follows', ?_⟩
        intro callback
        have tells' : List.Forall₂ (fun event sample => Sh2SensorEvent.Tells sample.2 event sample.1) events
            (message.samples.map (·, time)) := List.forall₂_map_right_iff.mpr (tells callback)
        rw [List.flatten_cons, HubMessage.timedSamples, List.flatMap_cons]
        exact List.rel_append tells' (tell callback)

end Handlers

/-! ## The hub -/

namespace HubMessage

def heard (sent : HubMessage × Nat) : Bool := decide (1 ≤ sent.1.channel.toNat ∧ sent.1.channel.toNat ≤ 5)

theorem samples_unheard {sent : HubMessage × Nat} (unheard : heard sent = false) : sent.1.samples = [] := by
  obtain ⟨message, time⟩ := sent
  cases message with
  | input wake reports =>
    cases wake <;> cases unheard
  | control => rfl
  | executable => rfl
  | unheard => rfl

theorem productIds_unheard {sent : HubMessage × Nat} (unheard : heard sent = false) : sent.1.productIds = [] := by
  obtain ⟨message, time⟩ := sent
  cases message with
  | input => rfl
  | control => cases unheard
  | executable => rfl
  | unheard => rfl

theorem Timely.append {last : Nat} {first later : List (HubMessage × Nat)} (timely : Timely last (first ++ later)) :
    Timely last first ∧ Timely (seen last first) later := by
  induction first generalizing last with
  | nil => exact ⟨trivial, timely⟩
  | cons sent first ih =>
    obtain ⟨message, time⟩ := sent
    obtain ⟨here, small, rest⟩ := timely
    obtain ⟨timely', timely''⟩ := ih rest
    exact ⟨⟨here, small, timely'⟩, timely''⟩

theorem seen_append (last : Nat) (first later : List (HubMessage × Nat)) :
    seen last (first ++ later) = seen (seen last first) later := by
  induction first generalizing last with
  | nil => rfl
  | cons sent first ih => exact ih _

theorem Timely.heard {last : Nat} {messages : List (HubMessage × Nat)} (timely : Timely last messages) :
    Timely last (messages.filter heard) := by
  induction messages generalizing last with
  | nil => exact trivial
  | cons sent messages ih =>
    obtain ⟨message, time⟩ := sent
    obtain ⟨here, small, later⟩ := timely
    cases listens : HubMessage.heard (message, time) with
    | true =>
      rw [List.filter_cons_of_pos listens]
      exact ⟨here, small, ih later⟩
    | false =>
      rw [List.filter_cons_of_neg (by rw [listens]; decide)]
      have none : message.samples = [] := samples_unheard listens
      rw [none] at later
      exact ih later

theorem timedSamples_heard (messages : List (HubMessage × Nat)) :
    timedSamples (messages.filter heard) = timedSamples messages := by
  induction messages with
  | nil => rfl
  | cons sent messages ih =>
    cases listens : heard sent with
    | true =>
      rw [List.filter_cons_of_pos listens, timedSamples, List.flatMap_cons]
      exact congrArg (sent.1.samples.map (·, sent.2) ++ ·) ih
    | false =>
      have none : timedSamples (sent :: messages) = timedSamples messages := by
        rw [timedSamples, List.flatMap_cons, samples_unheard listens]
        rfl
      rw [List.filter_cons_of_neg (by rw [listens]; decide), ih, none]

theorem seen_heard (last : Nat) (messages : List (HubMessage × Nat)) :
    seen last (messages.filter heard) = seen last messages := by
  induction messages generalizing last with
  | nil => rfl
  | cons sent messages ih =>
    cases listens : heard sent with
    | true =>
      rw [List.filter_cons_of_pos listens, seen, ih, seen]
    | false =>
      rw [List.filter_cons_of_neg (by rw [listens]; decide), ih, seen, samples_unheard listens]
      rfl

theorem resets_unheard {sent : HubMessage × Nat} (unheard : heard sent = false) : sent.1.resets = false := by
  obtain ⟨message, time⟩ := sent
  cases message with
  | input => rfl
  | control => rfl
  | executable => cases unheard
  | unheard => rfl

theorem resets_heard (messages : List (HubMessage × Nat)) :
    (messages.filter heard).any (·.1.resets) = messages.any (·.1.resets) := by
  induction messages with
  | nil => rfl
  | cons sent messages ih =>
    cases listens : heard sent with
    | true =>
      rw [List.filter_cons_of_pos listens, List.any_cons, ih, List.any_cons]
    | false =>
      rw [List.filter_cons_of_neg (by rw [listens]; decide), ih, List.any_cons, resets_unheard listens]
      rfl

theorem productIds_heard (messages : List (HubMessage × Nat)) :
    (messages.filter heard).flatMap (·.1.productIds) = messages.flatMap (·.1.productIds) := by
  induction messages with
  | nil => rfl
  | cons sent messages ih =>
    cases listens : heard sent with
    | true =>
      rw [List.filter_cons_of_pos listens, List.flatMap_cons, ih, List.flatMap_cons]
    | false =>
      rw [List.filter_cons_of_neg (by rw [listens]; decide), ih, List.flatMap_cons, productIds_unheard listens]
      rfl

end HubMessage

structure Hub.Listens (hub : Hub) (assembler : ShtpAssembler) : Prop where
  assembles : hub.1.Assembles assembler
  listens : ∀ channel, hub.1.listens channel = decide (1 ≤ channel.toNat ∧ channel.toNat ≤ 5)

theorem sh2Listen_spec {shtp : Shtp} {assembler : ShtpAssembler} (assembles : shtp.Assembles assembler)
    (nobody : shtp.listens = fun _ => false) (sh2 : Sh2) :
    ∃ shtp', sh2Listen shtp = .ok shtp' ∧ Hub.Listens (shtp', sh2) assembler := by
  have assembles' : Shtp.Assembles { shtp with eventCallback := true } assembler :=
    ⟨assembles.bounded, assembles.expected, assembles.missing, assembles.collected⟩
  obtain ⟨second, done₂, assembles₂, listens₂⟩ :=
    shtpListenChan_spec assembles' chanSensorhubControl (by decide) (by decide)
  obtain ⟨third, done₃, assembles₃, listens₃⟩ :=
    shtpListenChan_spec assembles₂ chanSensorhubInput (by decide) (by decide)
  obtain ⟨fourth, done₄, assembles₄, listens₄⟩ :=
    shtpListenChan_spec assembles₃ chanSensorhubInputWake (by decide) (by decide)
  obtain ⟨fifth, done₅, assembles₅, listens₅⟩ :=
    shtpListenChan_spec assembles₄ chanSensorhubInputGirv (by decide) (by decide)
  obtain ⟨first, done₁, assembles₁, listens₁⟩ :=
    shtpListenChan_spec assembles₅ chanExecutableDevice (by decide) (by decide)
  refine ⟨first, ?_, assembles₁, ?_⟩
  · simp only [sh2Listen, done₂, done₃, done₄, done₅, done₁, ok_bind, pure_eq_ok]
  · intro channel
    have start : Shtp.listens { shtp with eventCallback := true } = fun _ => false := nobody
    simp only [listens₁, listens₅, listens₄, listens₃, listens₂, start, Function.update_apply]
    have one : chanExecutableDevice.toNat = 1 := rfl
    have two : chanSensorhubControl.toNat = 2 := rfl
    have three : chanSensorhubInput.toNat = 3 := rfl
    have four : chanSensorhubInputWake.toNat = 4 := rfl
    have five : chanSensorhubInputGirv.toNat = 5 := rfl
    simp only [← UInt8.toNat_inj, one, two, three, four, five]
    grind

theorem opened_listens : Shtp.opened.listens = fun _ => false := by
  funext channel
  rw [Shtp.listens, Shtp.opened, Vector.toList_replicate, List.getElem?_replicate]
  split <;> rfl

/-- The session, and the messages that the transfers still bring: they have room, and moderate times of which the host
misses no round. -/
structure Hub.Expects (hub : Hub) (heard : Bool) (last : Nat) (messages : List (HubMessage × Nat))
    (transfers : List Received) : Prop where
  ready : hub.2.Ready heard last
  timely : HubMessage.Timely last messages
  moderate : ∀ sent ∈ messages, sent.1.Moderate
  room : ∀ sent ∈ messages, sent.1.payload.length ≤ payloadRoom
  brings : ∃ assembler fragments, hub.Listens assembler ∧ List.Forall₂ Received.Carries transfers fragments ∧
    (Assembler.receiveAll (· + 1) payloadRoom assembler fragments).2 = messages.map HubMessage.cargo

section Expects
variable {hub : Hub} {heard : Bool} {last : Nat} {messages : List (HubMessage × Nat)}

theorem Hub.expects_shipments {assembler : ShtpAssembler} (open' : hub.Listens assembler)
    (ready : hub.2.Ready heard last) (timely : HubMessage.Timely last messages)
    (moderate : ∀ sent ∈ messages, sent.1.Moderate) (room : ∀ sent ∈ messages, sent.1.payload.length ≤ payloadRoom)
    {shipments : List (Shipment UInt8 UInt8 UInt32 UInt8)}
    (sent : shipments.map Shipment.cargo = messages.map HubMessage.cargo) {transfers : List Received}
    (carry : List.Forall₂ Received.Carries transfers (shipments.flatMap (Shipment.fragments (· + 1)))) :
    hub.Expects heard last messages transfers := by
  have room' : ∀ shipment ∈ shipments, shipment.pieces.flatten.length ≤ payloadRoom := by
    intro shipment member
    have there := List.mem_map_of_mem (f := Shipment.cargo) member
    rw [sent] at there
    obtain ⟨message, member', same⟩ := List.mem_map.mp there
    have payload : message.1.payload = shipment.pieces.flatten := congrArg Cargo.payload same
    rw [← payload]
    exact room message member'
  refine ⟨ready, timely, moderate, room, assembler, _, open', carry, ?_⟩
  rw [receiveAll_shipments assembler room', sent]

theorem Hub.Expects.transfer (stack : Vector UInt8 sh2MaxSensorEventLen) {received : Received}
    {transfers : List Received} (expects : hub.Expects heard last messages (received :: transfers)) :
    ∃ next events told later, hubService stack hub received = .ok (next, events) ∧ messages = told ++ later ∧
      told.length ≤ 1 ∧ next.Expects heard (HubMessage.seen last told) later transfers ∧
      hub.2.Follows next.2 heard (HubMessage.seen last told) (told.flatMap (·.1.productIds)) (told.any (·.1.resets)) ∧
      (heard = true → List.Forall₂ (fun event sample => event.Tells sample.2 sample.1) events
        (HubMessage.timedSamples told)) := by
  obtain ⟨ready, timely, moderate, room, assembler, fragments, open', carry, assembled⟩ := expects
  obtain ⟨fragment, fragments, carries, carry', rfl⟩ := List.forall₂_cons_left_iff.mp carry
  change (Assembler.receive (· + 1) payloadRoom assembler fragment.1 fragment.2).2.toList ++ _ = _ at assembled
  obtain ⟨told, later, rfl, first, rest⟩ := List.append_eq_map_iff.mp assembled
  obtain ⟨timely', timely''⟩ := timely.append
  obtain ⟨shtp, calls, received', assembles, listens, out⟩ := rx_refines open'.assembles (.cons carries .nil)
  have delivered : payloads calls.flatten = (told.filter HubMessage.heard).map HubMessage.cargo := by
    change _ = ((Assembler.receive (· + 1) payloadRoom assembler fragment.1 fragment.2).2.toList ++ []).filter _ at out
    rw [out, ← first, List.append_nil, List.filter_map]
    congr 2
    funext message
    exact open'.listens message.1.channel
  have moderate' := fun message member => moderate message (List.mem_append_left later member)
  have room' := fun message member => room message (List.mem_append_left later member)
  obtain ⟨sh2, made, dispatched, follows, tell⟩ := dispatch_messages stack ready timely'.heard
    (fun message member => moderate' message (List.mem_of_mem_filter member))
    (fun message member => room' message (List.mem_of_mem_filter member)) delivered
  rw [HubMessage.seen_heard, HubMessage.productIds_heard, HubMessage.resets_heard] at follows
  rw [HubMessage.timedSamples_heard] at tell
  obtain ⟨outputs, done, same⟩ := @run_cascade _ _ _ _ _ _ _ _ hub _ (shtp, sh2) _ _ received' dispatched
  obtain ⟨events, one, rfl⟩ := run_singleton_eq_ok.mp done
  have open'' : Hub.Listens (shtp, sh2) _ := ⟨assembles, fun channel => by rw [listens]; exact open'.listens channel⟩
  rw [List.flatten_cons, List.flatten_nil, List.append_nil] at same
  have single : told.length ≤ 1 := by
    rw [← List.length_map, first]
    exact Option.length_toList_le
  refine ⟨(shtp, sh2), events, told, later, one, rfl, single, ?_, follows, same ▸ tell⟩
  exact ⟨follows.ready, timely'', fun message member => moderate message (List.mem_append_right told member),
    fun message member => room message (List.mem_append_right told member), _, fragments, open'', carry', rest.symm⟩

theorem Hub.Expects.run (stack : Vector UInt8 sh2MaxSensorEventLen) {transfers : List Received}
    (expects : hub.Expects heard last messages transfers) :
    ∃ final outputs, Machine.run (hubService stack) hub transfers = .ok (final, outputs) ∧
      (heard = true → List.Forall₂ (fun event sample => event.Tells sample.2 sample.1) outputs.flatten
        (HubMessage.timedSamples messages)) := by
  induction transfers generalizing hub last messages with
  | nil =>
    obtain ⟨assembler, fragments, -, carry, assembled⟩ := expects.brings
    cases carry
    obtain rfl := List.map_eq_nil_iff.mp assembled.symm
    exact ⟨hub, [], rfl, fun _ => .nil⟩
  | cons received transfers ih =>
    obtain ⟨next, events, told, later, one, rfl, -, expects', -, tell⟩ := expects.transfer stack
    obtain ⟨final, outputs, done, tell'⟩ := ih expects'
    refine ⟨final, events :: outputs, run_cons_eq_ok.mpr ⟨next, events, outputs, one, done, rfl⟩, ?_⟩
    intro callback
    rw [List.flatten_cons, HubMessage.timedSamples, List.flatMap_append]
    exact List.rel_append (tell callback) (tell' callback)

end Expects

end TvcHopper.Imu
