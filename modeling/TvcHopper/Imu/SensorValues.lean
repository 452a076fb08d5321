import TvcHopper.Machine.Execution

/-! The sensor readings of the IMU driver and the events they come from.

`SensorHandler` has a fixed slot for every sensor. `Bno085_GetSensorValueFloat`
looks for the slot with the id of the sensor, and where there is none it goes on
with the index behind the last slot.
-/

set_option autoImplicit false

namespace TvcHopper.Imu
open Machine

abbrev sh2LinearAcceleration : UInt8 := 0x04
abbrev sh2GyroscopeCalibrated : UInt8 := 0x02
abbrev sh2RotationVector : UInt8 := 0x05

abbrev bno085ReadingCount : Nat := 3

/-- The sensors that the driver has a slot for. -/
def Supported (sensor : UInt8) : Prop :=
  sensor = sh2LinearAcceleration ∨ sensor = sh2GyroscopeCalibrated ∨ sensor = sh2RotationVector

/-- The floats in a report: three axes, or a quaternion and its accuracy. -/
def floatCount (sensor : UInt8) : Nat :=
  if sensor = sh2LinearAcceleration then 3 else if sensor = sh2GyroscopeCalibrated then 3
  else if sensor = sh2RotationVector then 5 else 0

structure SensorEvent (φ : Type) where
  reportId : UInt8
  floats : List φ
  length : floats.length = floatCount reportId

/-- The id, and the union `un` as the 14 words of its largest member. -/
structure SensorValue (φ : Type) where
  sensorId : UInt8
  un : Vector φ 14

section Driver
variable {φ : Type}

/-- The floats of the three sensors stand at the start of `un`. -/
def sh2DecodeSensorEvent (value : SensorValue φ) (event : SensorEvent φ) : SensorValue φ where
  sensorId := event.reportId
  un := ⟨(overwrite value.un.toList 0 event.floats).toArray, by simp⟩

abbrev SensorValues (φ : Type) : Type := Vector (SensorValue φ) bno085ReadingCount

def decodeInto (values : SensorValues φ) (slot : Nat) (event : SensorEvent φ) : Except Fault (SensorValues φ) := do
  let value ← loadCell values slot
  storeCell values slot (sh2DecodeSensorEvent value event)

def sensorHandler (values : SensorValues φ) (event : SensorEvent φ) : Except Fault (SensorValues φ) :=
  if event.reportId = sh2LinearAcceleration then decodeInto values 0 event
  else if event.reportId = sh2GyroscopeCalibrated then decodeInto values 1 event
  else if event.reportId = sh2RotationVector then decodeInto values 2 event
  else .ok values

/-- The search for the reading index, with the slots that are left. -/
def readingIndex (values : SensorValues φ) (sensor : UInt8) : Nat → Nat → Except Fault Nat
  | 0, sIdx => .ok sIdx
  | remaining + 1, sIdx => do
    let value ← loadCell values sIdx
    if value.sensorId = sensor then return sIdx else readingIndex values sensor remaining (sIdx + 1)

def copyFloats (values : SensorValues φ) (sIdx : Nat) (count : UInt8) (floating : List φ) : Except Fault (List φ) := do
  let value ← loadCell values sIdx
  let floats ← loadRange value.un.toList 0 count.toNat
  storeRange floating 0 floats

def getSensorValueFloat (values : SensorValues φ) (sensor count : UInt8) (floating : List φ) :
    Except Fault (List φ × Bool) := do
  let sIdx ← readingIndex values sensor bno085ReadingCount 0
  if sensor = sh2LinearAcceleration then
    let floating ← copyFloats values sIdx count floating
    return (floating, true)
  else if sensor = sh2GyroscopeCalibrated then
    let floating ← copyFloats values sIdx count floating
    return (floating, true)
  else if sensor = sh2RotationVector then
    let floating ← copyFloats values sIdx count floating
    return (floating, true)
  else return (floating, true)

/-- What happens to the driver: an event comes in, or a reading is asked for, with memory for the floats. -/
inductive Input (φ : Type) where
  | event (event : SensorEvent φ)
  | get (sensor count : UInt8) (floating : List φ) (room : count.toNat ≤ floating.length)

structure Driver (φ : Type) where
  values : SensorValues φ
  history : List (SensorEvent φ)

def driverStep (driver : Driver φ) : Input φ → Except Fault (Driver φ × Option (List φ × Bool))
  | .event event => do
    let values ← sensorHandler driver.values event
    return (⟨values, driver.history ++ [event]⟩, none)
  | .get sensor count floating _ => do
    let answer ← getSensorValueFloat driver.values sensor count floating
    return (driver, some answer)

def zeroed (zero : φ) : Driver φ := ⟨.replicate bno085ReadingCount ⟨0, .replicate 14 zero⟩, []⟩

/-! ## What a call should do, and when it does -/

def latest (history : List (SensorEvent φ)) (sensor : UInt8) : Option (SensorEvent φ) :=
  (history.filter fun event => event.reportId = sensor).getLast?

/-- A supported sensor is read from its last event; before that there is nothing to read. -/
def ReadsLatest (driver : Driver φ) : Input φ → Prop
  | .event _ => True
  | .get sensor count floating _ => Supported sensor →
    getSensorValueFloat driver.values sensor count floating =
      match latest driver.history sensor with
      | some event => .ok (event.floats.take count.toNat ++ floating.drop count.toNat, true)
      | none => .ok (floating, false)

/-- The sensor has sent an event, of as many floats as are asked for. -/
def Reported (driver : Driver φ) : Input φ → Prop
  | .event _ => True
  | .get sensor count _ _ => Supported sensor →
    (∃ event ∈ driver.history, event.reportId = sensor) ∧ count.toNat ≤ floatCount sensor

theorem latest_append (history : List (SensorEvent φ)) (event : SensorEvent φ) (sensor : UInt8) :
    latest (history ++ [event]) sensor = if event.reportId = sensor then some event else latest history sensor := by
  rw [latest, List.filter_append]
  by_cases same : event.reportId = sensor
  · rw [if_pos same, List.filter_cons_of_pos (by simpa using same), List.filter_nil, List.getLast?_concat]
  · rw [if_neg same, List.filter_cons_of_neg (by simpa using same), List.filter_nil, List.append_nil]
    rfl

theorem latest_isSome (history : List (SensorEvent φ)) (sensor : UInt8) :
    (latest history sensor).isSome = true ↔ ∃ event ∈ history, event.reportId = sensor := by
  rw [← Option.ne_none_iff_isSome, latest, ne_eq, List.getLast?_eq_none_iff, List.filter_eq_nil_iff]
  simp

theorem latest_reportId {history : List (SensorEvent φ)} {sensor : UInt8} {event : SensorEvent φ}
    (last : latest history sensor = some event) : event.reportId = sensor := by
  have member := List.mem_of_getLast? last
  simpa using (List.mem_filter.mp member).2

/-! ## The slots -/

/-- A slot has the id of its sensor from the first event on, and the floats of the last one. -/
def Tracks (history : List (SensorEvent φ)) (values : SensorValues φ) (slot : Nat) (sensor : UInt8) : Prop :=
  ∃ value, loadCell values slot = .ok value ∧
    value.sensorId = (if (latest history sensor).isSome then sensor else 0) ∧
    ∀ event, latest history sensor = some event → event.floats <+: value.un.toList

structure Mirrors (driver : Driver φ) : Prop where
  linear : Tracks driver.history driver.values 0 sh2LinearAcceleration
  gyroscope : Tracks driver.history driver.values 1 sh2GyroscopeCalibrated
  rotation : Tracks driver.history driver.values 2 sh2RotationVector

section Slots
variable {history : List (SensorEvent φ)} {values values' : SensorValues φ} {event : SensorEvent φ} {slot index : Nat}
  {sensor : UInt8}

theorem floats_decoded (value : SensorValue φ) (event : SensorEvent φ) :
    event.floats <+: (sh2DecodeSensorEvent value event).un.toList := by
  have count : event.floats.length ≤ 5 := by
    rw [event.length, floatCount]
    split
    · decide
    · split
      · decide
      · split <;> decide
  have room : event.floats.length ≤ value.un.toList.length := by
    rw [Vector.length_toList]
    omega
  exact ⟨value.un.toList.drop event.floats.length, by simp [sh2DecodeSensorEvent, overwrite_front room]⟩

theorem tracks_decoded (history : List (SensorEvent φ)) (done : decodeInto values slot event = .ok values') :
    Tracks (history ++ [event]) values' slot event.reportId := by
  obtain ⟨value, -, stored⟩ := bind_eq_ok.mp done
  refine ⟨sh2DecodeSensorEvent value event, loadCell_storeCell stored, ?_, ?_⟩
  · rw [latest_append, if_pos rfl]
    rfl
  · intro last same
    rw [latest_append, if_pos rfl] at same
    obtain rfl := Option.some.inj same
    exact floats_decoded value event

theorem Tracks.kept (tracks : Tracks history values slot sensor) (differs : event.reportId ≠ sensor)
    (same : loadCell values' slot = loadCell values slot) : Tracks (history ++ [event]) values' slot sensor := by
  obtain ⟨value, here, id, floats⟩ := tracks
  rw [Tracks, latest_append, if_neg differs, same]
  exact ⟨value, here, id, floats⟩

theorem decodeInto_elsewhere (done : decodeInto values slot event = .ok values') (apart : index ≠ slot) :
    loadCell values' index = loadCell values index := by
  obtain ⟨value, -, stored⟩ := bind_eq_ok.mp done
  exact loadCell_elsewhere stored apart

end Slots

theorem Mirrors.event {driver : Driver φ} (mirrors : Mirrors driver) {event : SensorEvent φ} {values : SensorValues φ}
    (done : sensorHandler driver.values event = .ok values) : Mirrors ⟨values, driver.history ++ [event]⟩ := by
  obtain ⟨linear, gyroscope, rotation⟩ := mirrors
  rw [sensorHandler] at done
  by_cases first : event.reportId = sh2LinearAcceleration
  · rw [if_pos first] at done
    constructor
    case linear => exact first ▸ tracks_decoded driver.history done
    case gyroscope => exact gyroscope.kept (by rw [first]; decide) (decodeInto_elsewhere done (by decide))
    case rotation => exact rotation.kept (by rw [first]; decide) (decodeInto_elsewhere done (by decide))
  rw [if_neg first] at done
  by_cases second : event.reportId = sh2GyroscopeCalibrated
  · rw [if_pos second] at done
    constructor
    case linear => exact linear.kept first (decodeInto_elsewhere done (by decide))
    case gyroscope => exact second ▸ tracks_decoded driver.history done
    case rotation => exact rotation.kept (by rw [second]; decide) (decodeInto_elsewhere done (by decide))
  rw [if_neg second] at done
  by_cases third : event.reportId = sh2RotationVector
  · rw [if_pos third] at done
    constructor
    case linear => exact linear.kept first (decodeInto_elsewhere done (by decide))
    case gyroscope => exact gyroscope.kept second (decodeInto_elsewhere done (by decide))
    case rotation => exact third ▸ tracks_decoded driver.history done
  · rw [if_neg third] at done
    obtain rfl := Except.ok.inj done
    exact ⟨linear.kept first rfl, gyroscope.kept second rfl, rotation.kept third rfl⟩

theorem mirrors_zeroed (zero : φ) : Mirrors (zeroed zero) := by
  have slot (i : Nat) (inside : i < bno085ReadingCount) (sensor : UInt8) :
      Tracks (zeroed zero).history (zeroed zero).values i sensor := by
    refine ⟨⟨0, .replicate 14 zero⟩, ?_, rfl, nofun⟩
    rw [zeroed, loadCell_of_lt _ inside, Vector.getElem_replicate]
  exact ⟨slot 0 (by decide) _, slot 1 (by decide) _, slot 2 (by decide) _⟩

theorem Mirrors.step {driver driver' : Driver φ} {input : Input φ} {answer : Option (List φ × Bool)}
    (mirrors : Mirrors driver) (done : driverStep driver input = .ok (driver', answer)) : Mirrors driver' := by
  cases input with
  | event event =>
    obtain ⟨values, handled, same⟩ := bind_eq_ok.mp done
    obtain ⟨rfl, -⟩ := Prod.mk.inj (Except.ok.inj same)
    exact mirrors.event handled
  | get sensor count floating room =>
    obtain ⟨found, read, same⟩ := bind_eq_ok.mp done
    obtain ⟨rfl, -⟩ := Prod.mk.inj (Except.ok.inj same)
    exact mirrors

/-! ## A call -/

theorem copied_front {floating : List φ} (un : List φ) {count : Nat} (room : count ≤ floating.length)
    (inside : count ≤ un.length) :
    storeRange floating 0 (un.take count) = .ok (un.take count ++ floating.drop count) := by
  have length : (un.take count).length = count := by
    rw [List.length_take]
    omega
  rw [storeRange_front (by omega), length]

section Get
variable {driver : Driver φ} {sensor count : UInt8} {floating : List φ}

theorem slotId_ne {sent : Bool} {other : UInt8} (apart : other ≠ sensor) (nonzero : 0 ≠ sensor) :
    (if sent then other else 0) ≠ sensor := by
  cases sent with
  | true => exact apart
  | false => exact nonzero

theorem Mirrors.readingIndex (mirrors : Mirrors driver) (supported : Supported sensor) :
    ∃ slot, Tracks driver.history driver.values slot sensor ∧
      readingIndex driver.values sensor bno085ReadingCount 0 =
        .ok (if (latest driver.history sensor).isSome then slot else bno085ReadingCount) := by
  obtain ⟨first, here, firstId, -⟩ := mirrors.linear
  obtain ⟨second, next, secondId, -⟩ := mirrors.gyroscope
  obtain ⟨third, last, thirdId, -⟩ := mirrors.rotation
  simp only [Imu.readingIndex, here, next, last, ok_bind, pure_eq_ok]
  rcases supported with rfl | rfl | rfl
  · have gyroscope : second.sensorId ≠ sh2LinearAcceleration := secondId ▸ slotId_ne (by decide) (by decide)
    have rotation : third.sensorId ≠ sh2LinearAcceleration := thirdId ▸ slotId_ne (by decide) (by decide)
    refine ⟨0, mirrors.linear, ?_⟩
    rw [if_neg gyroscope, if_neg rotation, firstId]
    cases (latest driver.history sh2LinearAcceleration).isSome <;> rfl
  · have linear : first.sensorId ≠ sh2GyroscopeCalibrated := firstId ▸ slotId_ne (by decide) (by decide)
    have rotation : third.sensorId ≠ sh2GyroscopeCalibrated := thirdId ▸ slotId_ne (by decide) (by decide)
    refine ⟨1, mirrors.gyroscope, ?_⟩
    rw [if_neg linear, if_neg rotation, secondId]
    cases (latest driver.history sh2GyroscopeCalibrated).isSome <;> rfl
  · have linear : first.sensorId ≠ sh2RotationVector := firstId ▸ slotId_ne (by decide) (by decide)
    have gyroscope : second.sensorId ≠ sh2RotationVector := secondId ▸ slotId_ne (by decide) (by decide)
    refine ⟨2, mirrors.rotation, ?_⟩
    rw [if_neg linear, if_neg gyroscope, thirdId]
    cases (latest driver.history sh2RotationVector).isSome <;> rfl

theorem getSensorValueFloat_eq (values : SensorValues φ) (supported : Supported sensor) :
    getSensorValueFloat values sensor count floating = (do
      let sIdx ← readingIndex values sensor bno085ReadingCount 0
      let floating ← copyFloats values sIdx count floating
      return (floating, true)) := by
  rcases supported with rfl | rfl | rfl <;> rfl

theorem getSensorValueFloat_early (mirrors : Mirrors driver) (supported : Supported sensor)
    (early : latest driver.history sensor = none) (count : UInt8) (floating : List φ) :
    getSensorValueFloat driver.values sensor count floating = .error .outOfBounds := by
  obtain ⟨slot, -, found⟩ := mirrors.readingIndex supported
  rw [early] at found
  have behind : loadCell driver.values bno085ReadingCount = .error .outOfBounds := by simp [loadCell]
  rw [getSensorValueFloat_eq _ supported, found]
  simp only [Option.isSome_none, Bool.false_eq_true, if_false, ok_bind, copyFloats, behind]
  rfl

theorem getSensorValueFloat_late (mirrors : Mirrors driver) (supported : Supported sensor) {event : SensorEvent φ}
    (last : latest driver.history sensor = some event) (room : count.toNat ≤ floating.length) :
    ∃ un, event.floats <+: un ∧ ∀ answer, getSensorValueFloat driver.values sensor count floating = .ok answer ↔
      count.toNat ≤ un.length ∧ answer = (un.take count.toNat ++ floating.drop count.toNat, true) := by
  obtain ⟨slot, ⟨value, here, -, floats⟩, found⟩ := mirrors.readingIndex supported
  rw [last] at found
  refine ⟨value.un.toList, floats event last, fun answer => ?_⟩
  rw [getSensorValueFloat_eq _ supported, found]
  simp only [Option.isSome_some, if_true, ok_bind, copyFloats, here, bind_eq_ok, pure_eq_ok, loadRange_eq_ok,
    Nat.zero_add, List.drop_zero]
  constructor
  · rintro ⟨_, ⟨_, ⟨inside, rfl⟩, stored⟩, same⟩
    have front := copied_front value.un.toList room inside
    rw [stored] at front
    obtain rfl := Except.ok.inj front
    exact ⟨inside, (Except.ok.inj same).symm⟩
  · rintro ⟨inside, rfl⟩
    exact ⟨_, ⟨_, ⟨inside, rfl⟩, copied_front value.un.toList room inside⟩, rfl⟩

/-- A call does what it should exactly when the sensor has sent an event with so many floats. -/
theorem readsLatest_iff (mirrors : Mirrors driver) (input : Input φ) :
    ReadsLatest driver input ↔ Reported driver input := by
  cases input with
  | event event => exact Iff.rfl
  | get sensor count floating room =>
    refine forall_congr' fun supported => ?_
    rw [← latest_isSome]
    cases last : latest driver.history sensor with
    | none =>
      have fault := getSensorValueFloat_early mirrors supported last count floating
      constructor
      · intro answered
        cases fault.symm.trans answered
      · rintro ⟨sent, -⟩
        cases sent
    | some event =>
      have length : event.floats.length = floatCount sensor := latest_reportId last ▸ event.length
      obtain ⟨un, front, answers⟩ := getSensorValueFloat_late mirrors supported last room
      have whole := front.length_le
      simp only [answers, Option.isSome_some, true_and, Prod.mk.injEq, and_true]
      constructor
      · rintro ⟨inside, same⟩
        -- what was copied is as long as what was asked for
        have sizes := congrArg List.length same
        simp only [List.length_append, List.length_take, List.length_drop] at sizes
        omega
      · intro few
        obtain ⟨rest, rfl⟩ := front
        refine ⟨by omega, ?_⟩
        rw [List.take_append_of_le_length (by omega)]

end Get

/-- In every sequence of events and calls, all calls read the last event of their sensor, or say that there was none,
exactly when no call is made before the first event of its sensor, or for more floats than it has. -/
theorem readings_iff_reported (zero : φ) (inputs : List (Input φ)) :
    EveryAttempt driverStep ReadsLatest (zeroed zero) inputs ↔
      EveryAttempt driverStep Reported (zeroed zero) inputs :=
  everyAttempt_iff (fun _ input mirrors => readsLatest_iff mirrors input)
    (fun _ _ _ _ mirrors _ done => mirrors.step done) (mirrors_zeroed zero) inputs

/-- The gyroscope is read before its first event. -/
theorem gyroscope_read_early :
    ¬EveryAttempt driverStep ReadsLatest (zeroed 0)
      [.get sh2GyroscopeCalibrated 3 [(0 : Nat), 0, 0] (by decide)] := by
  rintro ⟨reads, -⟩
  have answered := reads (.inr (.inl rfl))
  cases answered

end Driver

end TvcHopper.Imu
