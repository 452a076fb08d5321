import TvcHopper.Machine.Memory

/-! The driver of the lidar (`tfl_i2c.c`).

The driver reaches the registers of the device through two callbacks of one
signature. Every configuration of the device goes through `Tfl_WriteRegister`,
which calls the one that reads: the device is asked for the register and keeps it.
-/

set_option autoImplicit false

namespace TvcHopper.Lidar
open Machine

/-! ## Registers of the device -/

abbrev Reg.distL : UInt8 := 0x00
abbrev Reg.distH : UInt8 := 0x01
abbrev Reg.saveSettings : UInt8 := 0x20
abbrev Reg.softReset : UInt8 := 0x21
abbrev Reg.setTrigMode : UInt8 := 0x23
abbrev Reg.disable : UInt8 := 0x25
abbrev Reg.fpsL : UInt8 := 0x26
abbrev Reg.fpsH : UInt8 := 0x27
abbrev Reg.hardReset : UInt8 := 0x29

abbrev tflReady : UInt8 := 0

/-! ## The driver -/

abbrev tflBufferSize : Nat := 6

/-- A transfer between the buffer of the driver and registers of a device, with the status it returns. -/
abbrev RegisterCallback (δ : Type) : Type :=
  (address subaddress : UInt8) → (buffer : Vector UInt8 tflBufferSize) → (size : UInt16) → δ →
    UInt8 × Vector UInt8 tflBufferSize × δ

structure TfLidarInitParams (δ : Type) where
  address : UInt8
  onWrite : RegisterCallback δ
  onRead : RegisterCallback δ

structure TfLidar (δ : Type) where
  address : UInt8
  buffer : Vector UInt8 tflBufferSize
  replyReg : UInt8
  status : UInt8
  onWrite : RegisterCallback δ
  onRead : RegisterCallback δ

abbrev Attached (δ : Type) : Type := TfLidar δ × δ

section Driver
variable {δ : Type}

def tflInit (tfl : TfLidar δ) (ip : TfLidarInitParams δ) : TfLidar δ :=
  { tfl with address := ip.address, onWrite := ip.onWrite, onRead := ip.onRead }

def tflReadRegister (reg : UInt8) : Attached δ → Bool × Attached δ
  | (tfl, device) =>
    let (_, buffer, device) := tfl.onRead tfl.address reg tfl.buffer 1 device
    -- copy result from temporary location to a static location
    (true, { tfl with buffer, replyReg := buffer[0] }, device)

def tflWriteRegister (reg data : UInt8) : Attached δ → Bool × Attached δ
  | (tfl, device) =>
    let (_, buffer, device) := tfl.onRead tfl.address reg (tfl.buffer.set 0 data) 1 device
    (true, { tfl with buffer }, device)

/-- Two registers are read into the bytes behind a pointer to 16 bits. -/
def tflReadBytes (low high : UInt8) (bytes : Vector UInt8 2) (attached : Attached δ) :
    Bool × Vector UInt8 2 × Attached δ :=
  let (done, attached) := tflReadRegister low attached
  if !done then (false, bytes, attached)
  else
    let bytes := bytes.set 0 attached.1.replyReg
    let (done, attached) := tflReadRegister high attached
    if !done then (false, bytes, attached)
    else (true, bytes.set 1 attached.1.replyReg, attached)

def tflGetDistance (distance : Vector UInt8 2) : Attached δ → Bool × Vector UInt8 2 × Attached δ
  | (tfl, device) => tflReadBytes Reg.distL Reg.distH distance ({ tfl with status := tflReady }, device)

def tflGetFrameRate (frameRate : Vector UInt8 2) : Attached δ → Bool × Vector UInt8 2 × Attached δ :=
  tflReadBytes Reg.fpsL Reg.fpsH frameRate

def tflSetFrameRate (frameRate : UInt16) (attached : Attached δ) : Bool × Attached δ :=
  let frameRateBytes : Vector UInt8 2 := #v[frameRate.toUInt8, (frameRate >>> 8).toUInt8]
  let (done, attached) := tflWriteRegister Reg.fpsL frameRateBytes[0] attached
  if !done then (false, attached)
  else
    let (done, attached) := tflWriteRegister Reg.fpsH frameRateBytes[1] attached
    if !done then (false, attached) else (true, attached)

def tflSetEnable : Attached δ → Bool × Attached δ := tflWriteRegister Reg.disable 1

def tflSetDisable : Attached δ → Bool × Attached δ := tflWriteRegister Reg.disable 0

def tflSetContinuousMode : Attached δ → Bool × Attached δ := tflWriteRegister Reg.setTrigMode 0

def tflResetSoft : Attached δ → Bool × Attached δ := tflWriteRegister Reg.softReset 2

def tflResetHard : Attached δ → Bool × Attached δ := tflWriteRegister Reg.hardReset 1

def tflSaveSettings : Attached δ → Bool × Attached δ := tflWriteRegister Reg.saveSettings 1

end Driver

/-! ## A device that keeps its registers -/

abbrev Registers : Type := UInt8 → UInt8

def Registers.onWrite : RegisterCallback Registers := fun _ subaddress buffer size device =>
  (0, buffer, fun reg =>
    let place := (reg - subaddress).toNat
    if place < size.toNat then buffer[place]?.getD (device reg) else device reg)

def Registers.onRead : RegisterCallback Registers := fun _ subaddress buffer size device =>
  (0, .ofFn fun i => if i.val < size.toNat then device (subaddress + .ofNat i.val) else buffer[i], device)

/-! ## Calls of the driver -/

section Calls
variable {tfl : TfLidar Registers} {device : Registers}

theorem onRead_one (address reg : UInt8) (buffer : Vector UInt8 tflBufferSize) (device : Registers) :
    Registers.onRead address reg buffer 1 device = (0, buffer.set 0 (device reg), device) := by
  have same : (Vector.ofFn fun i : Fin tflBufferSize => if i.val < (1 : UInt16).toNat then device (reg + .ofNat i.val)
      else buffer[i]) = buffer.set 0 (device reg) := by
    apply Vector.ext
    intro i inside
    rw [Vector.getElem_ofFn, Vector.getElem_set]
    by_cases first : i = 0
    · subst first
      simp
    · rw [if_neg (by simpa using first), if_neg (Ne.symm first)]
      rfl
  rw [Registers.onRead, same]

def TfLidar.received (tfl : TfLidar Registers) (byte : UInt8) : TfLidar Registers :=
  { tfl with buffer := tfl.buffer.set 0 byte, replyReg := byte }

theorem tflReadRegister_eq (wired : tfl.onRead = Registers.onRead) (reg : UInt8) :
    tflReadRegister reg (tfl, device) = (true, tfl.received (device reg), device) := by
  simp only [tflReadRegister, wired, onRead_one, TfLidar.received, Vector.getElem_set_self]

/-- The byte that was to be written is gone: the buffer holds what the device keeps in the register. -/
theorem tflWriteRegister_eq (wired : tfl.onRead = Registers.onRead) (reg data : UInt8) :
    tflWriteRegister reg data (tfl, device) = (true, { tfl with buffer := tfl.buffer.set 0 (device reg) }, device) := by
  simp only [tflWriteRegister, wired, onRead_one, Vector.set_set]

theorem tflReadBytes_eq (wired : tfl.onRead = Registers.onRead) (low high : UInt8) (bytes : Vector UInt8 2) :
    tflReadBytes low high bytes (tfl, device) =
      (true, #v[device low, device high], (tfl.received (device low)).received (device high), device) := by
  have first := @tflReadRegister_eq tfl device wired low
  have second := @tflReadRegister_eq (tfl.received (device low)) device wired high
  have both : (bytes.set 0 (device low)).set 1 (device high) = #v[device low, device high] := by
    apply Vector.ext
    intro i inside
    rw [Vector.getElem_set, Vector.getElem_set]
    match i with
    | 0 | 1 => rfl
  simp only [tflReadBytes, first, second, Bool.not_true, Bool.false_eq_true, if_false]
  rw [← both]
  rfl

theorem tflSetFrameRate_eq (wired : tfl.onRead = Registers.onRead) (frameRate : UInt16) :
    tflSetFrameRate frameRate (tfl, device) =
      (true, { tfl with buffer := tfl.buffer.set 0 (device Reg.fpsH) }, device) := by
  simp [tflSetFrameRate, tflWriteRegister_eq, wired]

end Calls

/-! ## Configurations -/

inductive TflCommand where
  | readRegister (reg : UInt8)
  | writeRegister (reg data : UInt8)
  | getDistance
  | getFrameRate
  | setFrameRate (frameRate : UInt16)
  | setEnable
  | setDisable
  | setContinuousMode
  | resetSoft
  | resetHard
  | saveSettings

def perform {δ : Type} (attached : Attached δ) : TflCommand → Attached δ
  | .readRegister reg => (tflReadRegister reg attached).2
  | .writeRegister reg data => (tflWriteRegister reg data attached).2
  | .getDistance => (tflGetDistance (.replicate 2 0) attached).2.2
  | .getFrameRate => (tflGetFrameRate (.replicate 2 0) attached).2.2
  | .setFrameRate frameRate => (tflSetFrameRate frameRate attached).2
  | .setEnable => (tflSetEnable attached).2
  | .setDisable => (tflSetDisable attached).2
  | .setContinuousMode => (tflSetContinuousMode attached).2
  | .resetSoft => (tflResetSoft attached).2
  | .resetHard => (tflResetHard attached).2
  | .saveSettings => (tflSaveSettings attached).2

theorem perform_keeps {tfl : TfLidar Registers} {device : Registers} (wired : tfl.onRead = Registers.onRead)
    (command : TflCommand) :
    (perform (tfl, device) command).2 = device ∧ (perform (tfl, device) command).1.onRead = Registers.onRead := by
  cases command with
  | readRegister reg =>
    rw [perform, tflReadRegister_eq wired]
    exact ⟨rfl, wired⟩
  | getDistance =>
    have ready : ({ tfl with status := tflReady } : TfLidar Registers).onRead = Registers.onRead := wired
    rw [perform, tflGetDistance, tflReadBytes_eq ready]
    exact ⟨rfl, wired⟩
  | getFrameRate =>
    rw [perform, tflGetFrameRate, tflReadBytes_eq wired]
    exact ⟨rfl, wired⟩
  | setFrameRate frameRate =>
    rw [perform, tflSetFrameRate_eq wired]
    exact ⟨rfl, wired⟩
  | writeRegister reg data =>
    rw [perform, tflWriteRegister_eq wired]
    exact ⟨rfl, wired⟩
  | setEnable | setDisable | setContinuousMode | resetSoft | resetHard | saveSettings =>
    simp only [perform, tflSetEnable, tflSetDisable, tflSetContinuousMode, tflResetSoft, tflResetHard, tflSaveSettings,
      tflWriteRegister_eq wired, wired, and_self]

/-- Whatever is called, the device keeps the registers it had. -/
theorem commands_keep_device {tfl : TfLidar Registers} {device : Registers} (wired : tfl.onRead = Registers.onRead)
    (commands : List TflCommand) : (commands.foldl perform (tfl, device)).2 = device := by
  induction commands generalizing tfl with
  | nil => rfl
  | cons command rest ih =>
    obtain ⟨same, wired'⟩ := @perform_keeps tfl device wired command
    have step : perform (tfl, device) command = ((perform (tfl, device) command).1, device) := Prod.ext rfl same
    rw [List.foldl_cons, step]
    exact ih wired'

/-! ## Writes that take effect -/

/-- The driver wired to the device, whatever the object held before. -/
def attach (tfl : TfLidar Registers) (address : UInt8) : TfLidar Registers :=
  tflInit tfl ⟨address, Registers.onWrite, Registers.onRead⟩

/-- The byte is in its register, and the other registers are as they were. -/
def TakesEffect (tfl : TfLidar Registers) (device : Registers) (reg data : UInt8) : Prop :=
  (tflWriteRegister reg data (tfl, device)).2.2 = Function.update device reg data

/-- The rate that is read behind a write of the rate, into any two bytes, is that rate. -/
def RateKept (tfl : TfLidar Registers) (device : Registers) (rate : UInt16) : Prop :=
  ∀ old, (tflGetFrameRate old (tflSetFrameRate rate (tfl, device)).2).2.1.toList = bytes16 rate

section Attached
variable (tfl : TfLidar Registers) (address : UInt8) (device : Registers)

theorem takesEffect_of_attached (reg data : UInt8) :
    TakesEffect (attach tfl address) device reg data ↔ device reg = data := by
  have wired : (attach tfl address).onRead = Registers.onRead := rfl
  rw [TakesEffect, tflWriteRegister_eq wired, eq_comm, Function.update_eq_self_iff, eq_comm]

theorem rateKept_of_attached (rate : UInt16) :
    RateKept (attach tfl address) device rate ↔ [device Reg.fpsL, device Reg.fpsH] = bytes16 rate := by
  have read (old : Vector UInt8 2) : (tflGetFrameRate old (tflSetFrameRate rate (attach tfl address, device)).2).2.1 =
      #v[device Reg.fpsL, device Reg.fpsH] := by
    rw [tflSetFrameRate_eq rfl, tflGetFrameRate, tflReadBytes_eq rfl]
  simp only [RateKept, read, forall_const]
  exact Iff.rfl

/-- A write takes effect exactly when the byte is in its register already, and so does a rate. -/
theorem configuration_takes_effect_iff :
    (∀ reg data, TakesEffect (attach tfl address) device reg data ↔ device reg = data) ∧
      ∀ rate, RateKept (attach tfl address) device rate ↔ [device Reg.fpsL, device Reg.fpsH] = bytes16 rate :=
  ⟨takesEffect_of_attached tfl address device, rateKept_of_attached tfl address device⟩

end Attached

/-- A hundred frames a second are asked for, and none are set. -/
theorem frame_rate_lost :
    ¬TakesEffect (attach ⟨0, .replicate _ 0, 0, 0, Registers.onWrite, Registers.onRead⟩ 0x10) (fun _ => 0)
        Reg.fpsL 100 ∧
      ¬RateKept (attach ⟨0, .replicate _ 0, 0, 0, Registers.onWrite, Registers.onRead⟩ 0x10) (fun _ => 0) 100 := by
  rw [takesEffect_of_attached, rateKept_of_attached]
  decide

end TvcHopper.Lidar
