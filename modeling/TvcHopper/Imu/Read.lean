import TvcHopper.Machine.Memory

/-! How the IMU driver reads a packet over I2C, in transfers of a limited size.

The device repeats a header of four bytes in front of every transfer. `Read` keeps
the first one, which belongs to the packet, and drops the others. The size of the
packet comes from the wire and is not compared with the size of the caller's buffer.
-/

set_option autoImplicit false

namespace TvcHopper.Imu
open Machine

/-- The driver object, with what `onRead` finds on the bus: the device `δ` returns as many bytes as are asked for. -/
structure Bno085 (δ : Type) where
  bufferSize : UInt16
  onRead : δ → (len : UInt16) → δ × Vector UInt8 len.toNat

def min (a b : UInt32) : UInt32 := if a < b then a else b

/-- The length in a header, without the continuation bit. -/
def packetSize (low high : UInt8) : UInt16 := (low.toUInt16 ||| high.toUInt16 <<< 8) &&& ~~~0x8000

/-- The local variables of `Read` in its loop; `place` is how far `buffer` has been moved. -/
structure Reading (δ : Type) where
  device : δ
  buffer : List UInt8
  place : Nat
  i2cBuffer : List UInt8
  cargoRemaining : UInt16
  firstRead : Bool
  /-- The sizes of the transfers so far. -/
  transfers : List UInt16

section Read
variable {δ : Type}

def readSize (imu : Bno085 δ) (reading : Reading δ) : UInt16 :=
  if reading.firstRead then (min imu.bufferSize.toUInt32 reading.cargoRemaining.toUInt32).toUInt16
  else (min imu.bufferSize.toUInt32 (reading.cargoRemaining.toUInt32 + 4)).toUInt16

def readPass (imu : Bno085 δ) (reading : Reading δ) : Except Fault (Reading δ) := do
  let readSize := readSize imu reading
  -- the header is included in every read
  let (device, bytes) := imu.onRead reading.device readSize
  let i2cBuffer ← storeRange reading.i2cBuffer 0 bytes.toList
  let transfers := reading.transfers ++ [readSize]
  if reading.firstRead then
    let cargoReadAmount := readSize
    let cargo ← loadRange i2cBuffer 0 cargoReadAmount.toNat
    let buffer ← storeRange reading.buffer reading.place cargo
    return ⟨device, buffer, reading.place + cargoReadAmount.toNat, i2cBuffer,
      reading.cargoRemaining - cargoReadAmount, false, transfers⟩
  else
    let cargoReadAmount := readSize - 4
    let cargo ← loadRange i2cBuffer 4 cargoReadAmount.toNat
    let buffer ← storeRange reading.buffer reading.place cargo
    return ⟨device, buffer, reading.place + cargoReadAmount.toNat, i2cBuffer,
      reading.cargoRemaining - cargoReadAmount, false, transfers⟩

def readLoop (imu : Bno085 δ) : Nat → Reading δ → Except Fault (Reading δ)
  | 0, _ => .error .diverges
  | fuel + 1, reading =>
    if 0 < reading.cargoRemaining then do
      let reading ← readPass imu reading
      readLoop imu fuel reading
    else .ok reading

/-- What `Read` leaves behind, and the number it returns. -/
structure ReadResult (δ : Type) where
  device : δ
  buffer : List UInt8
  transfers : List UInt16
  bytesRead : UInt16

/-- Neither `length` nor `t_us` is used; `stack` is what stands in `i2c_buffer` at first. -/
def read (imu : Bno085 δ) (stack : Nat → UInt8) (device : δ) (buffer : List UInt8) (_length : UInt32) :
    Except Fault (ReadResult δ) := do
  let (device, header) := imu.onRead device 4
  let low ← load header.toList 0
  let high ← load header.toList 1
  let packetSize := packetSize low high
  let reading ← readLoop imu (packetSize.toNat + 1)
    ⟨device, buffer, 0, localArray stack imu.bufferSize.toNat, packetSize, true, [4]⟩
  return ⟨reading.device, reading.buffer, reading.transfers, if reading.cargoRemaining = 0 then packetSize else 0⟩

/-! ## One pass -/

/-- The bytes of a transfer that are no part of the packet. -/
def skipped (reading : Reading δ) : Nat := if reading.firstRead then 0 else 4

theorem toNat_min (a b : UInt32) : (min a b).toNat ≤ a.toNat ∧ (min a b).toNat ≤ b.toNat ∧
    ((min a b).toNat = a.toNat ∨ (min a b).toNat = b.toNat) := by
  simp only [min, UInt32.lt_iff_toNat_lt]
  split <;> omega

theorem readSize_bounds (imu : Bno085 δ) (reading : Reading δ) :
    (readSize imu reading).toNat ≤ imu.bufferSize.toNat ∧
      (readSize imu reading).toNat ≤ reading.cargoRemaining.toNat + skipped reading ∧
      ((readSize imu reading).toNat = imu.bufferSize.toNat ∨
        (readSize imu reading).toNat = reading.cargoRemaining.toNat + skipped reading) := by
  have limit := imu.bufferSize.toNat_lt
  have left := reading.cargoRemaining.toNat_lt
  have four : (reading.cargoRemaining.toUInt32 + 4).toNat = reading.cargoRemaining.toNat + 4 := by
    rw [UInt32.toNat_add, UInt16.toNat_toUInt32]
    exact Nat.mod_eq_of_lt (by simp; omega)
  have first := toNat_min imu.bufferSize.toUInt32 reading.cargoRemaining.toUInt32
  have later := toNat_min imu.bufferSize.toUInt32 (reading.cargoRemaining.toUInt32 + 4)
  rw [UInt16.toNat_toUInt32, UInt16.toNat_toUInt32] at first
  rw [UInt16.toNat_toUInt32, four] at later
  cases flag : reading.firstRead with
  | true =>
    have size : (readSize imu reading).toNat = (min imu.bufferSize.toUInt32 reading.cargoRemaining.toUInt32).toNat := by
      rw [readSize, flag, if_pos rfl, UInt32.toNat_toUInt16]
      exact Nat.mod_eq_of_lt (by omega)
    rw [size, skipped, flag, if_pos rfl]
    exact first
  | false =>
    have size : (readSize imu reading).toNat =
        (min imu.bufferSize.toUInt32 (reading.cargoRemaining.toUInt32 + 4)).toNat := by
      rw [readSize, flag, if_neg (by decide), UInt32.toNat_toUInt16]
      exact Nat.mod_eq_of_lt (by omega)
    rw [size, skipped, flag, if_neg (by decide)]
    exact later

structure Passed (imu : Bno085 δ) (reading reading' : Reading δ) : Prop where
  header : skipped reading ≤ (readSize imu reading).toNat
  room : reading.place + ((readSize imu reading).toNat - skipped reading) ≤ reading.buffer.length
  device : reading'.device = (imu.onRead reading.device (readSize imu reading)).1
  buffer : reading'.buffer = overwrite reading.buffer reading.place
    ((imu.onRead reading.device (readSize imu reading)).2.toList.drop (skipped reading))
  place : reading'.place = reading.place + ((readSize imu reading).toNat - skipped reading)
  i2cBuffer : reading'.i2cBuffer.length = imu.bufferSize.toNat
  cargoRemaining : reading'.cargoRemaining.toNat =
    reading.cargoRemaining.toNat - ((readSize imu reading).toNat - skipped reading)
  firstRead : reading'.firstRead = false
  transfers : reading'.transfers = reading.transfers ++ [readSize imu reading]

theorem loadRange_skip {bytes : List UInt8} (rest : List UInt8) {skip count : Nat}
    (within : skip + count = bytes.length) :
    loadRange (bytes ++ rest) skip count = .ok (bytes.drop skip) := by
  refine loadRange_eq_ok.mpr ⟨?_, ?_⟩
  · rw [List.length_append]
    omega
  · have exactly : count = (bytes.drop skip).length := by
      rw [List.length_drop]
      omega
    rw [List.drop_append_of_le_length (by omega), exactly, List.take_left]

section Pass
variable {imu : Bno085 δ} {reading reading' : Reading δ}

theorem i2cBuffer_stored (whole : reading.i2cBuffer.length = imu.bufferSize.toNat) :
    ∃ rest, storeRange reading.i2cBuffer 0 (imu.onRead reading.device (readSize imu reading)).2.toList =
        .ok ((imu.onRead reading.device (readSize imu reading)).2.toList ++ rest) ∧
      (readSize imu reading).toNat + rest.length = imu.bufferSize.toNat := by
  obtain ⟨limit, -⟩ := readSize_bounds imu reading
  have room : (imu.onRead reading.device (readSize imu reading)).2.toList.length ≤ reading.i2cBuffer.length := by
    rw [Vector.length_toList, whole]
    exact limit
  refine ⟨_, storeRange_front room, ?_⟩
  rw [List.length_drop, Vector.length_toList, whole]
  omega

theorem readPass_eq (whole : reading.i2cBuffer.length = imu.bufferSize.toNat)
    (header : skipped reading ≤ (readSize imu reading).toNat) :
    ∃ i2cBuffer amount, i2cBuffer.length = imu.bufferSize.toNat ∧
      (amount : UInt16).toNat = (readSize imu reading).toNat - skipped reading ∧
      readPass imu reading = (do
        let buffer ← storeRange reading.buffer reading.place
          ((imu.onRead reading.device (readSize imu reading)).2.toList.drop (skipped reading))
        return ⟨(imu.onRead reading.device (readSize imu reading)).1, buffer, reading.place + amount.toNat, i2cBuffer,
          reading.cargoRemaining - amount, false, reading.transfers ++ [readSize imu reading]⟩) := by
  obtain ⟨rest, stored, length⟩ := i2cBuffer_stored whole
  have size : ((imu.onRead reading.device (readSize imu reading)).2.toList ++ rest).length = imu.bufferSize.toNat := by
    rw [List.length_append, Vector.length_toList, length]
  cases flag : reading.firstRead with
  | true =>
    have none_skipped : skipped reading = 0 := by rw [skipped, flag, if_pos rfl]
    have count : 0 + (readSize imu reading).toNat =
        (imu.onRead reading.device (readSize imu reading)).2.toList.length := by
      rw [Vector.length_toList, Nat.zero_add]
    have loaded := loadRange_skip rest count
    refine ⟨_, readSize imu reading, size, by rw [none_skipped, Nat.sub_zero], ?_⟩
    simp only [readPass, stored, ok_bind, flag, if_true, loaded, none_skipped]
  | false =>
    have four : skipped reading = 4 := by rw [skipped, flag, if_neg (by decide)]
    rw [four] at header
    have amount : (readSize imu reading - 4).toNat = (readSize imu reading).toNat - 4 :=
      UInt16.toNat_sub_of_le _ _ (UInt16.le_iff_toNat_le.mpr header)
    have count : 4 + (readSize imu reading - 4).toNat =
        (imu.onRead reading.device (readSize imu reading)).2.toList.length := by
      rw [Vector.length_toList, amount]
      omega
    have loaded := loadRange_skip rest count
    refine ⟨_, readSize imu reading - 4, size, by rw [four, amount], ?_⟩
    simp only [readPass, stored, ok_bind, flag, Bool.false_eq_true, if_false, loaded, four]

/-- With no room for the header the amount wraps, and more is copied than `i2c_buffer` has. -/
theorem readPass_short (whole : reading.i2cBuffer.length = imu.bufferSize.toNat)
    (short : (readSize imu reading).toNat < skipped reading) : readPass imu reading ≠ .ok reading' := by
  intro done
  obtain ⟨rest, stored, length⟩ := i2cBuffer_stored whole
  have later : reading.firstRead = false := by
    cases flag : reading.firstRead with
    | true =>
      rw [skipped, flag, if_pos rfl] at short
      exact absurd short (Nat.not_lt_zero _)
    | false => rfl
  have four : skipped reading = 4 := by rw [skipped, later, if_neg (by decide)]
  have wrapped : (readSize imu reading - 4).toNat = (readSize imu reading).toNat + 65532 := by
    have value : (4 : UInt16).toNat = 4 := rfl
    rw [UInt16.toNat_sub, value]
    omega
  simp only [readPass, stored, ok_bind, later, Bool.false_eq_true, if_false] at done
  obtain ⟨cargo, loaded, -⟩ := bind_eq_ok.mp done
  obtain ⟨within, -⟩ := loadRange_eq_ok.mp loaded
  have limit := imu.bufferSize.toNat_lt
  rw [List.length_append, Vector.length_toList, wrapped] at within
  omega

theorem readPass_ok (whole : reading.i2cBuffer.length = imu.bufferSize.toNat)
    (done : readPass imu reading = .ok reading') : Passed imu reading reading' := by
  have header : skipped reading ≤ (readSize imu reading).toNat := by
    by_contra short
    exact readPass_short whole (Nat.lt_of_not_le short) done
  obtain ⟨-, within, -⟩ := readSize_bounds imu reading
  obtain ⟨i2cBuffer, amount, size, count, same⟩ := readPass_eq whole header
  obtain ⟨buffer, stored, same⟩ := bind_eq_ok.mp (same.symm.trans done)
  obtain ⟨room, rfl⟩ := storeRange_eq_ok.mp stored
  obtain rfl := Except.ok.inj same
  rw [List.length_drop, Vector.length_toList] at room
  constructor
  case header => exact header
  case room => exact room
  case device => rfl
  case buffer => rfl
  case place => exact congrArg (reading.place + ·) count
  case i2cBuffer => exact size
  case cargoRemaining =>
    rw [← count]
    exact UInt16.toNat_sub_of_le _ _ (UInt16.le_iff_toNat_le.mpr (by omega))
  case firstRead => rfl
  case transfers => rfl

theorem readPass_total (whole : reading.i2cBuffer.length = imu.bufferSize.toNat)
    (header : skipped reading ≤ (readSize imu reading).toNat)
    (room : reading.place + ((readSize imu reading).toNat - skipped reading) ≤ reading.buffer.length) :
    ∃ reading', readPass imu reading = .ok reading' := by
  obtain ⟨i2cBuffer, amount, -, -, same⟩ := readPass_eq whole header
  have fits : reading.place +
      ((imu.onRead reading.device (readSize imu reading)).2.toList.drop (skipped reading)).length ≤
      reading.buffer.length := by
    rw [List.length_drop, Vector.length_toList]
    exact room
  exact ⟨_, same.trans (bind_eq_ok.mpr ⟨_, storeRange_eq_ok.mpr ⟨fits, rfl⟩, rfl⟩)⟩

end Pass

/-! ## The size of the packet and the sizes of the buffers -/

/-- What is read and what is left make up the packet. -/
structure Progress (imu : Bno085 δ) (size : Nat) (reading : Reading δ) : Prop where
  whole : reading.i2cBuffer.length = imu.bufferSize.toNat
  sum : reading.place + reading.cargoRemaining.toNat = size

/-- Every pass has room for a header and something more, or one pass is enough. -/
def Enough (imu : Bno085 δ) (reading : Reading δ) : Prop :=
  4 < imu.bufferSize.toNat ∨ reading.cargoRemaining.toNat ≤ if reading.firstRead then imu.bufferSize.toNat else 0

section Loop
variable {imu : Bno085 δ} {reading reading' : Reading δ} {size : Nat}

theorem Passed.progress (passed : Passed imu reading reading') (progress : Progress imu size reading) :
    Progress imu size reading' where
  whole := passed.i2cBuffer
  sum := by
    obtain ⟨-, within, -⟩ := readSize_bounds imu reading
    have left := progress.sum
    rw [passed.place, passed.cargoRemaining]
    omega

theorem Passed.length_buffer (passed : Passed imu reading reading') :
    reading'.buffer.length = reading.buffer.length := by
  rw [passed.buffer, length_overwrite]

theorem Passed.enough_iff (passed : Passed imu reading reading') (more : 0 < reading.cargoRemaining.toNat) :
    Enough imu reading' ↔ Enough imu reading := by
  obtain ⟨limit, within, exactly⟩ := readSize_bounds imu reading
  have header := passed.header
  rw [Enough, Enough, passed.firstRead, passed.cargoRemaining, if_neg (by decide)]
  rw [skipped] at header within exactly ⊢
  cases flag : reading.firstRead with
  | true =>
    simp only [flag, if_true] at within exactly ⊢
    omega
  | false =>
    simp only [flag, Bool.false_eq_true, if_false] at header within exactly ⊢
    omega

theorem readLoop_done (fuel : Nat) (none_left : reading.cargoRemaining.toNat = 0) :
    readLoop imu (fuel + 1) reading = .ok reading := by
  have done : ¬0 < reading.cargoRemaining := by
    rw [UInt16.lt_iff_toNat_lt, none_left]
    exact Nat.lt_irrefl 0
  rw [readLoop, if_neg done]

theorem readLoop_more {fuel : Nat} (more : 0 < reading.cargoRemaining.toNat) :
    readLoop imu (fuel + 1) reading = readPass imu reading >>= readLoop imu fuel := by
  have pending : 0 < reading.cargoRemaining := UInt16.lt_iff_toNat_lt.mpr more
  rw [readLoop, if_pos pending]

theorem readLoop_ok {fuel : Nat} (progress : Progress imu size reading) (inside : reading.place ≤ reading.buffer.length)
    (done : readLoop imu fuel reading = .ok reading') :
    reading'.cargoRemaining.toNat = 0 ∧ size ≤ reading.buffer.length ∧ Enough imu reading := by
  induction fuel generalizing reading with
  | zero => cases done
  | succ fuel ih =>
    have sum := progress.sum
    rcases Nat.eq_zero_or_pos reading.cargoRemaining.toNat with none_left | more
    · rw [readLoop_done fuel none_left] at done
      obtain rfl := Except.ok.inj done
      refine ⟨none_left, by omega, .inr ?_⟩
      rw [none_left]
      exact Nat.zero_le _
    · rw [readLoop_more more] at done
      obtain ⟨next, one, rest⟩ := bind_eq_ok.mp done
      have passed := readPass_ok progress.whole one
      have room := passed.room
      obtain ⟨final, room, enough⟩ := ih (passed.progress progress)
        (by rw [passed.place, passed.length_buffer]; exact room) rest
      rw [passed.length_buffer] at room
      exact ⟨final, room, (passed.enough_iff more).mp enough⟩

theorem readLoop_total {fuel : Nat} (progress : Progress imu size reading) (room : size ≤ reading.buffer.length)
    (enough : Enough imu reading) (fueled : reading.cargoRemaining.toNat < fuel) :
    ∃ reading', readLoop imu fuel reading = .ok reading' := by
  induction fuel generalizing reading with
  | zero => exact absurd fueled (Nat.not_lt_zero _)
  | succ fuel ih =>
    rcases Nat.eq_zero_or_pos reading.cargoRemaining.toNat with none_left | more
    · exact ⟨reading, readLoop_done fuel none_left⟩
    · obtain ⟨limit, within, exactly⟩ := readSize_bounds imu reading
      have sum := progress.sum
      have moves : skipped reading < (readSize imu reading).toNat := by
        rw [Enough] at enough
        rw [skipped] at within exactly ⊢
        cases flag : reading.firstRead with
        | true =>
          simp only [flag, if_true] at enough within exactly ⊢
          omega
        | false =>
          simp only [flag, Bool.false_eq_true, if_false] at enough within exactly ⊢
          omega
      obtain ⟨next, one⟩ := readPass_total progress.whole moves.le (by omega)
      have passed := readPass_ok progress.whole one
      have less := passed.cargoRemaining
      obtain ⟨final, rest⟩ := ih (passed.progress progress) (by rw [passed.length_buffer]; exact room)
        ((passed.enough_iff more).mpr enough) (by omega)
      exact ⟨final, by rw [readLoop_more more, one, ok_bind, rest]⟩

end Loop

def headerSize (imu : Bno085 δ) (device : δ) : UInt16 :=
  packetSize ((imu.onRead device 4).2.toList.getD 0 0) ((imu.onRead device 4).2.toList.getD 1 0)

section Calls
variable (imu : Bno085 δ) (stack : Nat → UInt8) (device : δ) (buffer : List UInt8) (length : UInt32)

def start : Reading δ :=
  ⟨(imu.onRead device 4).1, buffer, 0, localArray stack imu.bufferSize.toNat, headerSize imu device, true, [4]⟩

theorem read_eq : read imu stack device buffer length = (do
    let reading ← readLoop imu ((headerSize imu device).toNat + 1) (start imu stack device buffer)
    return ⟨reading.device, reading.buffer, reading.transfers,
      if reading.cargoRemaining = 0 then headerSize imu device else 0⟩) := by
  have four : (imu.onRead device 4).2.toList.length = 4 := Vector.length_toList
  have low : load (imu.onRead device 4).2.toList 0 = .ok ((imu.onRead device 4).2.toList.getD 0 0) := by
    rw [load_eq_ok, List.getD_eq_getElem?_getD, List.getElem?_eq_getElem (by omega), Option.getD_some]
  have high : load (imu.onRead device 4).2.toList 1 = .ok ((imu.onRead device 4).2.toList.getD 1 0) := by
    rw [load_eq_ok, List.getD_eq_getElem?_getD, List.getElem?_eq_getElem (by omega), Option.getD_some]
  simp only [read, low, high, ok_bind]
  rfl

theorem progress_start : Progress imu (headerSize imu device).toNat (start imu stack device buffer) :=
  ⟨length_localArray _ _, Nat.zero_add _⟩

theorem read_ok_iff (size : buffer.length = length.toNat) :
    (∃ result, read imu stack device buffer length = .ok result) ↔
      (headerSize imu device).toNat ≤ length.toNat ∧
        (4 < imu.bufferSize.toNat ∨ (headerSize imu device).toNat ≤ imu.bufferSize.toNat) := by
  have progress := progress_start imu stack device buffer
  constructor
  · rintro ⟨result, done⟩
    rw [read_eq] at done
    obtain ⟨reading, loop, -⟩ := bind_eq_ok.mp done
    obtain ⟨-, room, enough⟩ := readLoop_ok progress (Nat.zero_le _) loop
    exact ⟨size ▸ room, enough⟩
  · rintro ⟨room, enough⟩
    have fueled := Nat.lt_succ_self (headerSize imu device).toNat
    obtain ⟨reading, loop⟩ := readLoop_total progress (size ▸ room) enough fueled
    exact ⟨_, by rw [read_eq, loop, ok_bind]; rfl⟩

theorem read_bytesRead {result : ReadResult δ} (done : read imu stack device buffer length = .ok result) :
    result.bytesRead = headerSize imu device := by
  rw [read_eq] at done
  obtain ⟨reading, loop, same⟩ := bind_eq_ok.mp done
  obtain ⟨none_left, -, -⟩ := readLoop_ok (progress_start imu stack device buffer) (Nat.zero_le _) loop
  obtain rfl := Except.ok.inj same
  exact if_pos (UInt16.toNat_inj.mp none_left)

/-- `Read` stays in the caller's buffer exactly when the length in the header does; it ends when the transfers have
room for more than a header, or one is enough. -/
theorem read_in_bounds_iff (size : buffer.length = length.toNat) :
    (∃ result, read imu stack device buffer length = .ok result ∧ result.bytesRead.toNat ≤ length.toNat) ↔
      (headerSize imu device).toNat ≤ length.toNat ∧
        (4 < imu.bufferSize.toNat ∨ (headerSize imu device).toNat ≤ imu.bufferSize.toNat) := by
  rw [← read_ok_iff imu stack device buffer length size]
  constructor
  · rintro ⟨result, done, -⟩
    exact ⟨result, done⟩
  · rintro ⟨result, done⟩
    obtain ⟨room, -⟩ := (read_ok_iff imu stack device buffer length size).mp ⟨result, done⟩
    refine ⟨result, done, ?_⟩
    rw [read_bytesRead imu stack device buffer length done]
    exact room

end Calls

def floatingBus (bufferSize : UInt16) : Bno085 Unit where
  bufferSize
  onRead _ len := ((), .replicate len.toNat 0xFF)

/-- A buffer that is as large as any length that fits into the header. -/
theorem read_in_bounds_floating :
    (∃ result, read (floatingBus 32) (fun _ => 0) () (List.replicate 32767 0) 32767 = .ok result ∧
        result.bytesRead.toNat ≤ (32767 : UInt32).toNat) ↔
      (headerSize (floatingBus 32) ()).toNat ≤ (32767 : UInt32).toNat ∧
        (4 < (floatingBus 32).bufferSize.toNat ∨
          (headerSize (floatingBus 32) ()).toNat ≤ (floatingBus 32).bufferSize.toNat) :=
  read_in_bounds_iff (floatingBus 32) (fun _ => 0) () (List.replicate 32767 0) 32767 List.length_replicate

/-- Ones only are a header of 32767 bytes, far more than the sensor hub has room for. -/
theorem read_floating_out_of_bounds :
    ¬∃ result, read (floatingBus 32) (fun _ => 0) () (List.replicate 1024 0) 1024 = .ok result ∧
      result.bytesRead.toNat ≤ (1024 : UInt32).toNat := by
  rintro ⟨result, done, -⟩
  obtain ⟨room, -⟩ := (read_ok_iff (floatingBus 32) (fun _ => 0) () (List.replicate 1024 0) 1024
    List.length_replicate).mp ⟨result, done⟩
  exact absurd room (by decide)

/-! ## A device with a packet to send -/

structure Packet where
  bytes : List UInt8
  header : 4 ≤ bytes.length
  size : (packetSize (bytes.getD 0 0) (bytes.getD 1 0)).toNat = bytes.length

/-- The first four bytes can be read without taking them out; then the packet is sent from its first byte on, and after
the first transfer behind a new header each time. `sent` tells how much of it a device has sent. -/
structure Sends (imu : Bno085 δ) (packet : List UInt8) (device : δ) (sent : Nat → δ → Prop) : Prop where
  probe : (imu.onRead device 4).2.toList = packet.take 4
  first : ∀ len : UInt16, len.toNat ≤ packet.length →
    (imu.onRead (imu.onRead device 4).1 len).2.toList = packet.take len.toNat ∧
      sent len.toNat (imu.onRead (imu.onRead device 4).1 len).1
  later : ∀ count sending (len : UInt16), sent count sending → 4 ≤ len.toNat → count + (len.toNat - 4) ≤ packet.length →
    (imu.onRead sending len).2.toList.drop 4 = (packet.drop count).take (len.toNat - 4) ∧
      sent (count + (len.toNat - 4)) (imu.onRead sending len).1

/-- What was read is at the front of the buffer, and the device is as far. -/
structure Assembles (imu : Bno085 δ) (packet : Packet) (device : δ) (sent : Nat → δ → Prop) (buffer : List UInt8)
    (reading : Reading δ) : Prop where
  progress : Progress imu packet.bytes.length reading
  front : reading.buffer = packet.bytes.take reading.place ++ buffer.drop reading.place
  sender : if reading.firstRead then reading.place = 0 ∧ reading.device = (imu.onRead device 4).1
    else sent reading.place reading.device
  transfers : ∀ size ∈ reading.transfers, size ≤ imu.bufferSize

section Assembly
variable {imu : Bno085 δ} {packet : Packet} {device : δ} {sent : Nat → δ → Prop} {buffer : List UInt8}
  {reading reading' : Reading δ}

theorem Assembles.cargo (assembles : Assembles imu packet device sent buffer reading)
    (sends : Sends imu packet.bytes device sent) (header : skipped reading ≤ (readSize imu reading).toNat) :
    (imu.onRead reading.device (readSize imu reading)).2.toList.drop (skipped reading) =
        (packet.bytes.drop reading.place).take ((readSize imu reading).toNat - skipped reading) ∧
      sent (reading.place + ((readSize imu reading).toNat - skipped reading))
        (imu.onRead reading.device (readSize imu reading)).1 := by
  obtain ⟨-, within, -⟩ := readSize_bounds imu reading
  have sum := assembles.progress.sum
  have sender := assembles.sender
  rw [skipped] at header within ⊢
  cases flag : reading.firstRead with
  | true =>
    simp only [flag, if_true] at sender header within ⊢
    obtain ⟨none_read, same⟩ := sender
    rw [same, none_read, Nat.zero_add, List.drop_zero, List.drop_zero, Nat.sub_zero]
    exact sends.first _ (by omega)
  | false =>
    simp only [flag, Bool.false_eq_true, if_false] at sender header within ⊢
    exact sends.later _ _ _ sender header (by omega)

theorem Passed.assembles (passed : Passed imu reading reading') (sends : Sends imu packet.bytes device sent)
    (assembles : Assembles imu packet device sent buffer reading) :
    Assembles imu packet device sent buffer reading' := by
  obtain ⟨limit, within, -⟩ := readSize_bounds imu reading
  obtain ⟨cargo, sender⟩ := assembles.cargo sends passed.header
  have sum := assembles.progress.sum
  have room := passed.room
  have front := assembles.front
  constructor
  case progress => exact passed.progress assembles.progress
  case front =>
    have count : (packet.bytes.take reading.place).length = reading.place := by
      rw [List.length_take]
      omega
    have amount : ((packet.bytes.drop reading.place).take ((readSize imu reading).toNat - skipped reading)).length =
        (readSize imu reading).toNat - skipped reading := by
      rw [List.length_take, List.length_drop]
      omega
    rw [front, List.length_append, count] at room
    rw [passed.buffer, cargo, front, overwrite_append count.symm (by omega), amount, ← List.take_add, List.drop_drop,
      passed.place]
  case sender =>
    rw [passed.firstRead, if_neg (by decide), passed.place, passed.device]
    exact sender
  case transfers =>
    intro size member
    rw [passed.transfers, List.mem_append, List.mem_singleton] at member
    rcases member with before | rfl
    · exact assembles.transfers size before
    · exact UInt16.le_iff_toNat_le.mpr limit

theorem readLoop_assembles {fuel : Nat} (sends : Sends imu packet.bytes device sent)
    (assembles : Assembles imu packet device sent buffer reading) (done : readLoop imu fuel reading = .ok reading') :
    Assembles imu packet device sent buffer reading' := by
  induction fuel generalizing reading with
  | zero => cases done
  | succ fuel ih =>
    rcases Nat.eq_zero_or_pos reading.cargoRemaining.toNat with none_left | more
    · rw [readLoop_done fuel none_left] at done
      obtain rfl := Except.ok.inj done
      exact assembles
    · rw [readLoop_more more] at done
      obtain ⟨next, one, rest⟩ := bind_eq_ok.mp done
      exact ih ((readPass_ok assembles.progress.whole one).assembles sends assembles) rest

theorem Sends.headerSize (sends : Sends imu packet.bytes device sent) :
    (headerSize imu device).toNat = packet.bytes.length := by
  have four := packet.header
  have first : (packet.bytes.take 4).getD 0 0 = packet.bytes.getD 0 0 := by simp [List.getD_eq_getElem?_getD]
  have second : (packet.bytes.take 4).getD 1 0 = packet.bytes.getD 1 0 := by simp [List.getD_eq_getElem?_getD]
  rw [Imu.headerSize, sends.probe, first, second, packet.size]

end Assembly

/-- The packet is put together at the front of the buffer, whatever its size and the size of the transfers are. -/
theorem read_packet {imu : Bno085 δ} (large : 4 < imu.bufferSize) {packet : Packet} {device : δ}
    {sent : Nat → δ → Prop} (sends : Sends imu packet.bytes device sent) {buffer : List UInt8} {length : UInt32}
    (memory : length.toNat ≤ buffer.length) (room : packet.bytes.length ≤ length.toNat) (stack : Nat → UInt8) :
    ∃ result, read imu stack device buffer length = .ok result ∧ result.bytesRead.toNat = packet.bytes.length ∧
      result.buffer = packet.bytes ++ buffer.drop packet.bytes.length ∧
      ∀ size ∈ result.transfers, size ≤ imu.bufferSize := by
  have count := sends.headerSize
  have progress := progress_start imu stack device buffer
  have fueled := Nat.lt_succ_self (headerSize imu device).toNat
  have inside : (headerSize imu device).toNat ≤ buffer.length := by omega
  obtain ⟨reading, loop⟩ := readLoop_total progress inside (.inl (UInt16.lt_iff_toNat_lt.mp large)) fueled
  obtain ⟨none_left, -, -⟩ := readLoop_ok progress (Nat.zero_le _) loop
  have zero : reading.cargoRemaining = 0 := UInt16.toNat_inj.mp none_left
  have begin : Assembles imu packet device sent buffer (start imu stack device buffer) := by
    constructor
    case progress => exact count ▸ progress
    case front => rfl
    case sender => exact ⟨rfl, rfl⟩
    case transfers =>
      intro size member
      obtain rfl := List.mem_singleton.mp member
      exact UInt16.le_iff_toNat_le.mpr (Nat.le_of_lt (UInt16.lt_iff_toNat_lt.mp large))
  have assembled := readLoop_assembles sends begin loop
  have whole : reading.place = packet.bytes.length := by
    have sum := assembled.progress.sum
    omega
  refine ⟨_, by rw [read_eq, loop, ok_bind]; rfl, ?_, ?_, assembled.transfers⟩
  · rw [if_pos zero]
    exact count
  · have front := assembled.front
    rwa [whole, List.take_length] at front

/-- A device that sends a packet; its state counts what was sent, from two on, and before that the calls. -/
def packetDevice (bufferSize : UInt16) (packet : List UInt8) : Bno085 Nat where
  bufferSize
  onRead
    | 0, _ => (1, Vector.ofFn fun i => packet.getD i 0)
    | 1, len => (len.toNat + 2, Vector.ofFn fun i => packet.getD i 0)
    | count + 2, len => (count + (len.toNat - 4) + 2, Vector.ofFn fun i => packet.getD (count + i - 4) 0)

theorem toList_ofFn_getD (packet : List UInt8) {len : Nat} (within : len ≤ packet.length) :
    (Vector.ofFn fun i : Fin len => packet.getD i 0).toList = packet.take len := by
  apply List.ext_getElem
  · rw [Vector.length_toList, List.length_take]
    omega
  · intro i below _
    rw [Vector.length_toList] at below
    simp [show i < packet.length by omega]

theorem sends_packetDevice (bufferSize : UInt16) {packet : List UInt8} (header : 4 ≤ packet.length) :
    Sends (packetDevice bufferSize packet) packet 0 fun count sending => sending = count + 2 where
  probe := toList_ofFn_getD packet header
  first := by
    intro len within
    exact ⟨toList_ofFn_getD packet within, rfl⟩
  later := by
    rintro count _ len rfl four within
    refine ⟨?_, rfl⟩
    apply List.ext_getElem
    · simp only [List.length_drop, Vector.length_toList, List.length_take]
      omega
    · intro i below _
      rw [List.length_drop, Vector.length_toList] at below
      have place : count + (4 + i) - 4 = count + i := by omega
      simp [packetDevice, place, show count + i < packet.length by omega]

/-- Nine bytes by transfers of six. -/
theorem read_packet_nine :
    ∃ result, read (packetDevice 6 [9, 0x80, 2, 1, 10, 20, 30, 40, 50]) (fun _ => 0) 0 (List.replicate 12 0) 12 =
        .ok result ∧ result.bytesRead.toNat = 9 ∧
      result.buffer = [9, 0x80, 2, 1, 10, 20, 30, 40, 50] ++ (List.replicate 12 0).drop 9 ∧
      ∀ size ∈ result.transfers, size ≤ 6 := by
  let packet : Packet := ⟨[9, 0x80, 2, 1, 10, 20, 30, 40, 50], by decide, by decide⟩
  have large : 4 < (packetDevice 6 packet.bytes).bufferSize := by decide
  have memory : (12 : UInt32).toNat ≤ (List.replicate 12 (0 : UInt8)).length := by decide
  exact read_packet large (sends_packetDevice 6 packet.header) memory (by decide) _

end Read

end TvcHopper.Imu
