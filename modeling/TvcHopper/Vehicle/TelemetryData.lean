import TvcHopper.Machine.Words

/-! The property `telem_data`, from `GetTelemetry` to `unpackTelemetry.m`.

The property list says that the 32 bytes are the processed readings of the IMU,
the distance and the output of the ESC. The pointer that is moved behind the
readings is not the one that the rest is written through.
-/

set_option autoImplicit false

namespace TvcHopper.Vehicle
open Machine

/-- What there is to report, as the words that the numbers are kept as: roll, pitch, yaw and the three rates, the
distance and the pulse width. -/
structure Measurements where
  imuDataProc : Vector UInt32 6
  lidarDistance : UInt32
  escOutput : UInt32

def controlsInputsGetImu (measured : Measurements) (data : List UInt8) : Except Fault (List UInt8) :=
  storeRange data 0 (bytesOf measured.imuDataProc.toList)

/-- `HwEsc_GetOutput` has no parameter: it returns the output. -/
def hwEscGetOutput (measured : Measurements) : UInt32 := measured.escOutput

def getTelemetry (measured : Measurements) (value : List UInt8) : Except Fault (List UInt8) := do
  let value ← controlsInputsGetImu measured value
  -- an index into bytes
  let value ← storeRange value 7 [0]
  -- the argument of the call is not looked at, and its result is not used
  let _ := hwEscGetOutput measured
  return value

structure UnpackedTelemetry where
  imu : List UInt32
  gyro : List UInt32
  lidar : List UInt32
  esc : List UInt32
  deriving DecidableEq

/-- Every number is widened without a change of its value. -/
def unpackTelemetry (buffer : List UInt8) : UnpackedTelemetry :=
  if buffer.length = 32 then
    { imu := wordsOf (buffer.take 12)
      gyro := wordsOf ((buffer.drop 12).take 12)
      lidar := wordsOf ((buffer.drop 24).take 4)
      esc := wordsOf ((buffer.drop 28).take 4) }
  else ⟨[], [], [], []⟩

def Measurements.unpacked (measured : Measurements) : UnpackedTelemetry where
  imu := [measured.imuDataProc[0], measured.imuDataProc[1], measured.imuDataProc[2]]
  gyro := [measured.imuDataProc[3], measured.imuDataProc[4], measured.imuDataProc[5]]
  lidar := [measured.lidarDistance]
  esc := [measured.escOutput]

/-! ## What is written and read -/

section Telemetry
variable (measured : Measurements)

/-- The highest byte of the pitch is lost. -/
def Measurements.written : List UInt32 :=
  [measured.imuDataProc[0], measured.imuDataProc[1] % 0x1000000, measured.imuDataProc[2], measured.imuDataProc[3],
    measured.imuDataProc[4], measured.imuDataProc[5]]

theorem imuDataProc_toList : measured.imuDataProc.toList =
    [measured.imuDataProc[0]] ++ measured.imuDataProc[1] :: [measured.imuDataProc[2], measured.imuDataProc[3],
      measured.imuDataProc[4], measured.imuDataProc[5]] := by
  apply List.ext_getElem
  · rw [Vector.length_toList]
    rfl
  · intro i inside outside
    match i with
    | 0 | 1 | 2 | 3 | 4 | 5 => rfl

theorem getTelemetry_eq (value : Vector UInt8 32) :
    getTelemetry measured value.toList = .ok (bytesOf measured.written ++ value.toList.drop 24) := by
  have length : (bytesOf measured.imuDataProc.toList).length = 24 := by rw [length_bytesOf, Vector.length_toList]
  have room : (bytesOf measured.imuDataProc.toList).length ≤ value.toList.length := by
    rw [length, Vector.length_toList]
    decide
  have zeroed := storeRange_highest [measured.imuDataProc[0]] [measured.imuDataProc[2], measured.imuDataProc[3],
    measured.imuDataProc[4], measured.imuDataProc[5]] measured.imuDataProc[1] (value.toList.drop 24)
  rw [← imuDataProc_toList] at zeroed
  rw [getTelemetry, controlsInputsGetImu, storeRange_front room, ok_bind, length]
  exact bind_eq_ok.mpr ⟨_, zeroed, rfl⟩

theorem unpackTelemetry_words (roll pitch yaw x y z lidar esc : UInt32) :
    unpackTelemetry (bytesOf [roll, pitch, yaw, x, y, z, lidar, esc]) =
      ⟨[roll, pitch, yaw], [x, y, z], [lidar], [esc]⟩ := by
  have whole : (bytesOf [roll, pitch, yaw, x, y, z, lidar, esc]).length = 32 := length_bytesOf _
  rw [unpackTelemetry, if_pos whole]
  exact congr (congr (congrArg₂ UnpackedTelemetry.mk (wordsOf_bytesOf_all [roll, pitch, yaw])
    (wordsOf_bytesOf_all [x, y, z])) (wordsOf_bytesOf_all [lidar])) (wordsOf_bytesOf_all [esc])

/-- What is unpacked behind the vehicle: the buffer still holds what it held in the place of the last two words. -/
theorem unpackTelemetry_eq (value : Vector UInt8 32) :
    unpackTelemetry (bytesOf measured.written ++ value.toList.drop 24) = measured.unpacked ↔
      measured.imuDataProc[1] < 0x1000000 ∧
        wordsOf (value.toList.drop 24) = [measured.lidarDistance, measured.escOutput] := by
  have size : (value.toList.drop 24).length = 4 * 2 := by rw [List.length_drop, Vector.length_toList]
  have count : (wordsOf (value.toList.drop 24)).length = 2 := by rw [length_wordsOf, size]
  obtain ⟨lidar, esc, held⟩ := List.length_eq_two.mp count
  have unpacked := unpackTelemetry_words measured.imuDataProc[0] (measured.imuDataProc[1] % 0x1000000)
    measured.imuDataProc[2] measured.imuDataProc[3] measured.imuDataProc[4] measured.imuDataProc[5] lidar esc
  rw [← bytesOf_wordsOf size, ← bytesOf_append, held, ← mod_highest_eq_iff]
  refine (Eq.congr_left unpacked).trans ?_
  simp only [Measurements.unpacked, UnpackedTelemetry.mk.injEq, wordsOf_bytesOf_all, List.cons.injEq, and_true,
    true_and]

/-- The 32 bytes are the same whatever the buffer held, and they are unpacked as the measurements. -/
def TelemetryMatches : Prop :=
  ∃ bytes, (∀ value : Vector UInt8 32, getTelemetry measured value.toList = .ok bytes) ∧
    unpackTelemetry bytes = measured.unpacked

/-- The last eight bytes are those of the buffer. The measurements come out when they were in it, and the pitch
has no highest byte. -/
theorem telemetry_never_matches :
    ¬TelemetryMatches measured ∧
      ∀ value : Vector UInt8 32, ∃ bytes, getTelemetry measured value.toList = .ok bytes ∧
        (unpackTelemetry bytes = measured.unpacked ↔
          measured.imuDataProc[1] < 0x1000000 ∧
            wordsOf (value.toList.drop 24) = [measured.lidarDistance, measured.escOutput]) := by
  constructor
  · rintro ⟨bytes, determined, -⟩
    have first := determined (.replicate 32 0)
    have second := determined (.replicate 32 1)
    rw [getTelemetry_eq] at first second
    have same := List.append_cancel_left (Except.ok.inj (first.trans second.symm))
    revert same
    decide
  · intro value
    exact ⟨_, getTelemetry_eq measured value, unpackTelemetry_eq measured value⟩

end Telemetry

/-- Half a radian of pitch, a metre above the ground and an idle motor come out as zeros of a buffer of zeros. -/
theorem pitch_lost :
    getTelemetry ⟨#v[0, 0x3F000000, 0, 0, 0, 0], 0x42C80000, 0x447A0000⟩ (.replicate 32 0) = .ok (.replicate 32 0) ∧
      ¬TelemetryMatches ⟨#v[0, 0x3F000000, 0, 0, 0, 0], 0x42C80000, 0x447A0000⟩ := by
  have zeros : getTelemetry ⟨#v[0, 0x3F000000, 0, 0, 0, 0], 0x42C80000, 0x447A0000⟩ (.replicate 32 0) =
      .ok (.replicate 32 0) := by decide
  refine ⟨zeros, fun ⟨bytes, determined, unpacked⟩ => ?_⟩
  obtain rfl : .replicate 32 0 = bytes := Except.ok.inj (zeros.symm.trans (determined (.replicate 32 0)))
  revert unpacked
  decide

end TvcHopper.Vehicle
