import TvcHopper.Imu.Samples

/-! From the reports of the hub to the readings of the control loop.

The numbers of a report are 16-bit fixed point, and become floats with the Q point
of their sensor. `HwImu_GetReadings` polls the hub once, and copies the gyroscope
and the rotation vector.
-/

set_option autoImplicit false

namespace TvcHopper.Imu
open Machine

def read16 (low high : UInt8) : Int16 := (low.toUInt16 ||| high.toUInt16 <<< 8).toInt16

section Decode
variable {φ : Type} (scaleQ : Int16 → Nat → φ)

/-- A number of a report, times `SCALE_Q` of its Q point. -/
def decoded (event : Sh2SensorEvent) (place q : Nat) (inside : place + 1 < sh2MaxSensorEventLen) : φ :=
  scaleQ (read16 event.report[place] event.report[place + 1]) q

def decodeLinearAcceleration (event : Sh2SensorEvent) : List φ :=
  [decoded scaleQ event 4 8 (by decide), decoded scaleQ event 6 8 (by decide), decoded scaleQ event 8 8 (by decide)]

def decodeGyroscopeCalibrated (event : Sh2SensorEvent) : List φ :=
  [decoded scaleQ event 4 9 (by decide), decoded scaleQ event 6 9 (by decide), decoded scaleQ event 8 9 (by decide)]

def decodeRotationVector (event : Sh2SensorEvent) : List φ :=
  [decoded scaleQ event 4 14 (by decide), decoded scaleQ event 6 14 (by decide),
    decoded scaleQ event 8 14 (by decide), decoded scaleQ event 10 14 (by decide),
    decoded scaleQ event 12 12 (by decide)]

def decodeReport (event : Sh2SensorEvent) : List φ :=
  if event.reportId = sh2LinearAcceleration then decodeLinearAcceleration scaleQ event
  else if event.reportId = sh2GyroscopeCalibrated then decodeGyroscopeCalibrated scaleQ event
  else if event.reportId = sh2RotationVector then decodeRotationVector scaleQ event
  else []

theorem length_decodeReport (event : Sh2SensorEvent) :
    (decodeReport scaleQ event).length = floatCount event.reportId := by
  unfold decodeReport floatCount
  split
  · rfl
  · split
    · rfl
    · split <;> rfl

def toSensorEvent (event : Sh2SensorEvent) : SensorEvent φ :=
  ⟨event.reportId, decodeReport scaleQ event, length_decodeReport scaleQ event⟩

def handleEvent (driver : Driver φ) (event : Sh2SensorEvent) : Except Fault (Driver φ × List Empty) := do
  let (driver, _) ← driverStep driver (.event (toSensorEvent scaleQ event))
  return (driver, [])

/-- `sh2_service`, with the driver that is given the events. -/
def sh2Service (stack : Vector UInt8 sh2MaxSensorEventLen) : Hub × Driver φ → Received →
    Except Fault ((Hub × Driver φ) × List Empty) :=
  cascade (hubService stack) (handleEvent scaleQ)

/-- `poll` is what is read from the hub, if anything. -/
def hwImuGetReadings (stack : Vector UInt8 sh2MaxSensorEventLen) (imu : Hub × Driver φ) (poll : Option Received)
    (readings : List φ) : Except Fault ((Hub × Driver φ) × List φ) := do
  let (imu, _) ← run (sh2Service scaleQ stack) imu poll.toList
  let (gyroscope, _) ← getSensorValueFloat imu.2.values sh2GyroscopeCalibrated 3 (readings.drop 3)
  let readings := readings.take 3 ++ gyroscope
  let (rotation, _) ← getSensorValueFloat imu.2.values sh2RotationVector 4 (readings.drop 6)
  return (imu, readings.take 6 ++ rotation)

end Decode

/-! ## The numbers of a report -/

def numbers : List UInt8 → List Int16
  | low :: high :: rest => read16 low high :: numbers rest
  | _ => []

def qPoints (sensor : UInt8) : List Nat :=
  if sensor = sh2LinearAcceleration then [8, 8, 8] else if sensor = sh2GyroscopeCalibrated then [9, 9, 9]
  else if sensor = sh2RotationVector then [14, 14, 14, 14, 12] else []

namespace SensorReport
variable {φ : Type}

def floats (scaleQ : Int16 → Nat → φ) (report : SensorReport) : List φ :=
  List.zipWith scaleQ (numbers report.data) (qPoints report.reportId)

end SensorReport

section Numbers
variable {φ : Type} (scaleQ : Int16 → Nat → φ) {time : Nat} {event : Sh2SensorEvent} {sample : Sample}

theorem Sh2SensorEvent.Tells.byte (tells : event.Tells time sample) {index : Nat}
    (inside : index < sh2MaxSensorEventLen) {byte : UInt8} (here : sample.report.bytes[index]? = some byte) :
    event.report[index] = byte := by
  obtain ⟨behind, whole⟩ := tells.bytes
  have there : event.report.toList[index]? = some event.report[index] := by
    rw [Vector.getElem?_toList, Vector.getElem?_eq_getElem inside]
  rw [← whole, List.getElem?_append_left (List.getElem?_eq_some_iff.mp here).1, here] at there
  exact (Option.some.inj there).symm

theorem Sh2SensorEvent.Tells.decoded (tells : event.Tells time sample) {place : Nat} (q : Nat)
    (inside : 4 + place + 1 < sh2MaxSensorEventLen) {low high : UInt8} (first : sample.report.data[place]? = some low)
    (second : sample.report.data[place + 1]? = some high) :
    Imu.decoded scaleQ event (4 + place) q inside = scaleQ (read16 low high) q := by
  have low' := tells.byte (by omega) (show sample.report.bytes[4 + place]? = some low by rw [Nat.add_comm]; exact first)
  have high' := tells.byte inside (show sample.report.bytes[4 + place + 1]? = some high by
    rw [Nat.add_assoc, Nat.add_comm]
    exact second)
  rw [Imu.decoded, low', high']

theorem Sh2SensorEvent.Tells.decodeReport (tells : event.Tells time sample) (supported : Supported event.reportId) :
    decodeReport scaleQ event = sample.report.floats scaleQ := by
  have length := sample.report.length
  have id := tells.reportId
  have number {place : Nat} (q : Nat) := @Sh2SensorEvent.Tells.decoded φ scaleQ time event sample tells place q
  unfold SensorReport.floats
  rw [← id] at length ⊢
  generalize sample.report.data = data at length number ⊢
  rcases supported with sensor | sensor | sensor <;> rw [sensor] at length ⊢
  · have six : data.length = 6 := Nat.add_left_cancel (length.symm : 4 + data.length = 4 + 6)
    match data, six with
    | [a, b, c, d, e, f], _ =>
      have x := @number 0 8 (by decide) a b rfl rfl
      have y := @number 2 8 (by decide) c d rfl rfl
      have z := @number 4 8 (by decide) e f rfl rfl
      rw [Imu.decodeReport, if_pos sensor, decodeLinearAcceleration, x, y, z]
      rfl
  · have six : data.length = 6 := Nat.add_left_cancel (length.symm : 4 + data.length = 4 + 6)
    match data, six with
    | [a, b, c, d, e, f], _ =>
      have x := @number 0 9 (by decide) a b rfl rfl
      have y := @number 2 9 (by decide) c d rfl rfl
      have z := @number 4 9 (by decide) e f rfl rfl
      rw [Imu.decodeReport, if_neg (by rw [sensor]; decide), if_pos sensor, decodeGyroscopeCalibrated, x, y, z]
      rfl
  · have ten : data.length = 10 := Nat.add_left_cancel (length.symm : 4 + data.length = 4 + 10)
    match data, ten with
    | [a, b, c, d, e, f, g, h, i, j], _ =>
      have first := @number 0 14 (by decide) a b rfl rfl
      have second := @number 2 14 (by decide) c d rfl rfl
      have third := @number 4 14 (by decide) e f rfl rfl
      have real := @number 6 14 (by decide) g h rfl rfl
      have accuracy := @number 8 12 (by decide) i j rfl rfl
      rw [Imu.decodeReport, if_neg (by rw [sensor]; decide), if_neg (by rw [sensor]; decide), if_pos sensor,
        decodeRotationVector, first, second, third, real, accuracy]
      rfl

end Numbers

/-! ## The last report of a sensor -/

/-- The last of the samples that a sensor has sent. -/
def lastSample (sensor : UInt8) (samples : List Sample) : Option Sample :=
  (samples.filter fun sample => sample.report.reportId = sensor).getLast?

section Last
variable {φ : Type} (scaleQ : Int16 → Nat → φ)

theorem sensorHandler_total (values : SensorValues φ) (event : SensorEvent φ) :
    ∃ values', sensorHandler values event = .ok values' := by
  have slot (i : Nat) (inside : i < bno085ReadingCount) : ∃ values', decodeInto values i event = .ok values' := by
    rw [decodeInto, loadCell_of_lt _ inside, ok_bind, storeCell_of_lt _ _ inside]
    exact ⟨_, rfl⟩
  unfold sensorHandler
  split
  · exact slot 0 (by decide)
  · split
    · exact slot 1 (by decide)
    · split
      · exact slot 2 (by decide)
      · exact ⟨values, rfl⟩

theorem run_handleEvent {driver : Driver φ} (mirrors : Mirrors driver) (events : List Sh2SensorEvent) :
    ∃ driver' outputs, run (handleEvent scaleQ) driver events = .ok (driver', outputs) ∧ Mirrors driver' ∧
      driver'.history = driver.history ++ events.map (toSensorEvent scaleQ) := by
  induction events generalizing driver with
  | nil => exact ⟨driver, [], rfl, mirrors, (List.append_nil _).symm⟩
  | cons event events ih =>
    obtain ⟨values, handled⟩ := sensorHandler_total driver.values (toSensorEvent scaleQ event)
    obtain ⟨driver', outputs, done, mirrors', history⟩ := ih (mirrors.event handled)
    refine ⟨driver', [] :: outputs, run_cons_eq_ok.mpr ⟨_, [], outputs, ?_, done, rfl⟩, mirrors', ?_⟩
    · rw [handleEvent, driverStep, handled]
      rfl
    · rw [history, List.append_assoc]
      rfl

theorem forall₂_getLast {α β : Type} {Rel : α → β → Prop} {first : List α} {second : List β}
    (related : List.Forall₂ Rel first second) {last : β} (isLast : second.getLast? = some last) :
    ∃ other, first.getLast? = some other ∧ Rel other last := by
  have reversed := List.forall₂_reverse_iff.mpr related
  rw [← List.head?_reverse] at isLast
  obtain ⟨before, same⟩ := List.head?_eq_some_iff.mp isLast
  rw [same] at reversed
  cases backwards : first.reverse with
  | nil =>
    rw [backwards] at reversed
    cases reversed
  | cons other rest =>
    rw [backwards] at reversed
    cases reversed with
    | cons here _ =>
      refine ⟨other, ?_, here⟩
      rw [← List.head?_reverse, backwards, List.head?_cons]

theorem latest_of_lastSample {events : List Sh2SensorEvent} {samples : List (Sample × Nat)}
    (tell : List.Forall₂ (fun event sample => event.Tells sample.2 sample.1) events samples) {sensor : UInt8}
    (supported : Supported sensor) {sample : Sample} (last : lastSample sensor (samples.map Prod.fst) = some sample) :
    ∃ event, latest (events.map (toSensorEvent scaleQ)) sensor = some event ∧
      event.floats = sample.report.floats scaleQ := by
  have agree : ∀ event : Sh2SensorEvent, ∀ sample : Sample × Nat, event.Tells sample.2 sample.1 →
      (decide (event.reportId = sensor) = true ↔ decide (sample.1.report.reportId = sensor) = true) := by
    intro event sample tells
    rw [tells.reportId]
  have filtered := List.rel_filter agree tell
  rw [lastSample, List.filter_map, List.getLast?_map, Option.map_eq_some_iff] at last
  obtain ⟨timed, isLast, rfl⟩ := last
  obtain ⟨event, there, tells⟩ := forall₂_getLast filtered isLast
  have id : event.reportId = sensor := by
    have member := (List.mem_filter.mp (List.mem_of_getLast? there)).2
    exact of_decide_eq_true member
  refine ⟨toSensorEvent scaleQ event, ?_, tells.decodeReport scaleQ (id ▸ supported)⟩
  rw [latest, List.filter_map, List.getLast?_map]
  exact congrArg (Option.map (toSensorEvent scaleQ)) there

theorem getSensorValueFloat_latest {driver : Driver φ} (mirrors : Mirrors driver) {sensor count : UInt8}
    (supported : Supported sensor) {event : SensorEvent φ} (last : latest driver.history sensor = some event)
    {floating : List φ} (few : count.toNat ≤ floatCount sensor) (room : count.toNat ≤ floating.length) :
    getSensorValueFloat driver.values sensor count floating =
      .ok (event.floats.take count.toNat ++ floating.drop count.toNat, true) := by
  obtain ⟨un, ⟨rest, rfl⟩, answers⟩ := getSensorValueFloat_late mirrors supported last room
  have length : event.floats.length = floatCount sensor := latest_reportId last ▸ event.length
  refine (answers _).mpr ⟨?_, ?_⟩
  · rw [List.length_append]
    omega
  · rw [List.take_append_of_le_length (by omega)]

end Last

/-! ## From the hub to the control loop -/

section Hub
variable {φ : Type} (scaleQ : Int16 → Nat → φ)

def HubMessage.allSamples (messages : List (HubMessage × Nat)) : List Sample :=
  (HubMessage.timedSamples messages).map Prod.fst

theorem run_sh2Service (stack : Vector UInt8 sh2MaxSensorEventLen) {hub : Hub} {last : Nat}
    {messages : List (HubMessage × Nat)} {transfers : List Received}
    (expects : hub.Expects true last messages transfers) (zero : φ) :
    ∃ hub' driver outputs, run (sh2Service scaleQ stack) (hub, zeroed zero) transfers = .ok ((hub', driver), outputs) ∧
      Mirrors driver ∧
      ∀ sensor, Supported sensor → ∀ sample, lastSample sensor (HubMessage.allSamples messages) = some sample →
        ∃ event, latest driver.history sensor = some event ∧ event.floats = sample.report.floats scaleQ := by
  obtain ⟨hub', outputs, done, tell⟩ := expects.run stack
  obtain ⟨driver, nothing, handled, mirrors, history⟩ :=
    run_handleEvent scaleQ (mirrors_zeroed zero) outputs.flatten
  obtain ⟨outputs', done', -⟩ := @run_cascade _ _ _ _ _ _ _ _ (hub, zeroed zero) _ (hub', driver) _ _ done handled
  refine ⟨hub', driver, outputs', done', mirrors, ?_⟩
  intro sensor supported sample last
  rw [history]
  exact latest_of_lastSample scaleQ (tell rfl) supported last

/-- The readings of the control loop are the numbers of the last report of the gyroscope and of the last rotation
vector, when the last transfer comes with this poll. -/
theorem hwImuGetReadings_spec (stack : Vector UInt8 sh2MaxSensorEventLen) {hub : Hub} {last : Nat}
    {messages : List (HubMessage × Nat)} {earlier poll : List Received} (single : poll.length ≤ 1)
    (expects : hub.Expects true last messages (earlier ++ poll)) (zero : φ) {gyroscope rotation : Sample}
    (gyroscopeLast : lastSample sh2GyroscopeCalibrated (HubMessage.allSamples messages) = some gyroscope)
    (rotationLast : lastSample sh2RotationVector (HubMessage.allSamples messages) = some rotation)
    {readings : List φ} (length : readings.length = 10) :
    ∃ before outputs after, run (sh2Service scaleQ stack) (hub, zeroed zero) earlier = .ok (before, outputs) ∧
      hwImuGetReadings scaleQ stack before poll.head? readings =
        .ok (after, readings.take 3 ++ gyroscope.report.floats scaleQ ++ (rotation.report.floats scaleQ).take 4) := by
  obtain ⟨hub', driver, outputs, done, mirrors, lasts⟩ := run_sh2Service scaleQ stack expects zero
  obtain ⟨before, first, second, start, now, -⟩ := run_append_eq_ok.mp done
  obtain ⟨gyroscope', isGyroscope, gyroscopeFloats⟩ := lasts _ (.inr (.inl rfl)) _ gyroscopeLast
  obtain ⟨rotation', isRotation, rotationFloats⟩ := lasts _ (.inr (.inr rfl)) _ rotationLast
  have count : gyroscope'.floats.length = 3 := gyroscope'.length.trans (by rw [latest_reportId isGyroscope]; rfl)
  have count' : rotation'.floats.length = 5 := rotation'.length.trans (by rw [latest_reportId isRotation]; rfl)
  have polled : poll.head?.toList = poll := by
    match poll, single with
    | [], _ => rfl
    | [_], _ => rfl
  have three : (readings.take 3).length = 3 := List.length_take_of_le (by omega)
  have behind : (readings.take 3 ++ (gyroscope'.floats ++ readings.drop 6)).drop 6 = readings.drop 6 := by
    rw [← List.append_assoc]
    exact List.drop_left' (by rw [List.length_append, three, count])
  have front : (readings.take 3 ++ (gyroscope'.floats ++ readings.drop 6)).take 6 =
      readings.take 3 ++ gyroscope'.floats := by
    rw [← List.append_assoc]
    exact List.take_left' (by rw [List.length_append, three, count])
  have read := @getSensorValueFloat_latest _ _ mirrors _ 3 (.inr (.inl rfl)) _ isGyroscope (readings.drop 3)
    (by decide) (by rw [List.length_drop, length]; decide)
  have read' := @getSensorValueFloat_latest _ _ mirrors _ 4 (.inr (.inr rfl)) _ isRotation (readings.drop 6)
    (by decide) (by rw [List.length_drop, length]; decide)
  have whole : gyroscope'.floats.take (3 : UInt8).toNat = gyroscope'.floats :=
    List.take_of_length_le (by rw [count]; decide)
  have nothing : (readings.drop 6).drop (4 : UInt8).toNat = [] := by
    rw [List.drop_drop, List.drop_eq_nil_iff, length]
    decide
  have later : (readings.drop 3).drop (3 : UInt8).toNat = readings.drop 6 := List.drop_drop
  rw [whole, later] at read
  rw [nothing, List.append_nil, rotationFloats] at read'
  rw [gyroscopeFloats] at read behind front
  refine ⟨before, first, (hub', driver), start, ?_⟩
  rw [hwImuGetReadings, polled, now, ok_bind]
  simp only [read, ok_bind, behind, read', front, pure_eq_ok]
  rfl

end Hub

end TvcHopper.Imu
