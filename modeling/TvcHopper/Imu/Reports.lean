import TvcHopper.Imu.Sh2
import TvcHopper.Machine.Clocks

/-! What comes out of the reports of a payload.

The samples of a batch are told apart by their delay behind a time base that the
batch carries. The time base is relative to the interrupt, which the host takes
the time of with a 32-bit clock.
-/

set_option autoImplicit false

namespace TvcHopper.Imu
open Machine

/-! ## The loop over the reports -/

abbrev reportSize (reportId : UInt8) : Nat := (getReportLen reportId).toNat

theorem getReportLen_le (reportId : UInt8) : reportSize reportId ≤ sh2MaxSensorEventLen := by
  have table : sh2ReportLens.all (fun entry => entry.2.toNat ≤ sh2MaxSensorEventLen) := by decide
  have all : ∀ entry ∈ sh2ReportLens, entry.2.toNat ≤ sh2MaxSensorEventLen := fun entry member =>
    of_decide_eq_true (List.all_eq_true.mp table entry member)
  unfold reportSize getReportLen
  cases found : sh2ReportLens.find? fun entry => entry.1 == reportId with
  | none => exact Nat.zero_le _
  | some entry => exact all entry (List.mem_of_find?_eq_some found)

section Loop
variable {σ : Type} {unknown : σ → σ} {handle : σ → List UInt8 → UInt8 → Except Fault σ}
  {meaning : σ → List UInt8 → Except Fault σ}

/-- What happens at the end of the whole reports: nothing is left, or an unknown id, or a report that is cut off. -/
def atRest (unknown : σ → σ) (handle : σ → List UInt8 → UInt8 → Except Fault σ) (rest behind : List UInt8) (state : σ) :
    Except Fault σ :=
  match rest with
  | [] => .ok state
  | reportId :: _ =>
    if getReportLen reportId = 0 then .ok (unknown state) else handle state (rest ++ behind) (getReportLen reportId)

/-- The handler takes nothing from behind a whole report. -/
def Local (handle : σ → List UInt8 → UInt8 → Except Fault σ) (meaning : σ → List UInt8 → Except Fault σ) : Prop :=
  ∀ state reportId data behind, (reportId :: data).length = reportSize reportId → getReportLen reportId ≠ 0 →
    handle state (reportId :: data ++ behind) (getReportLen reportId) = meaning state (reportId :: data)

theorem eachReport_done {payload : List UInt8} {len cursor : UInt16} {fuel : Nat} (behind : len.toNat ≤ cursor.toNat)
    (state : σ) : eachReport unknown handle payload len (fuel + 1) cursor state = .ok state := by
  rw [eachReport, if_neg (UInt16.not_lt.mpr (UInt16.le_iff_toNat_le.mpr behind))]

theorem eachReport_next (front more : List UInt8) (reportId : UInt8) {len cursor : UInt16} {fuel : Nat}
    (here : cursor.toNat = front.length) (before : cursor.toNat < len.toNat) (state : σ) :
    eachReport unknown handle (front ++ reportId :: more) len (fuel + 1) cursor state =
      if getReportLen reportId = 0 then .ok (unknown state)
      else handle state (reportId :: more) (getReportLen reportId) >>=
        eachReport unknown handle (front ++ reportId :: more) len fuel (cursor + (getReportLen reportId).toUInt16) := by
  have first : load (front ++ reportId :: more) front.length = .ok reportId := load_behind front _ 0
  rw [eachReport, if_pos (UInt16.lt_iff_toNat_lt.mpr before), here, first, ok_bind, List.drop_left]
  by_cases none : getReportLen reportId = 0
  · rw [if_pos none, if_pos none]
    rfl
  · rw [if_neg none, if_neg none]

theorem toNat_cursor {len cursor : UInt16} (reportId : UInt8) (before : cursor.toNat ≤ len.toNat)
    (small : len.toNat ≤ sh2HalMaxPayloadIn) :
    (cursor + (getReportLen reportId).toUInt16).toNat = cursor.toNat + reportSize reportId := by
  have most : reportSize reportId ≤ 60 := getReportLen_le reportId
  have limit : len.toNat ≤ 1024 := small
  rw [UInt16.toNat_add, UInt8.toNat_toUInt16]
  change (cursor.toNat + reportSize reportId) % 2 ^ 16 = _
  omega

theorem eachReport_splits (whole : Local handle meaning) {content rest : List UInt8} {records : List (List UInt8)}
    (splits : Splits reportSize content records rest) (front behind : List UInt8) {len cursor : UInt16} {fuel : Nat}
    (here : cursor.toNat = front.length) (there : len.toNat = front.length + content.length)
    (small : len.toNat ≤ sh2HalMaxPayloadIn) (enough : content.length < fuel) (state : σ) :
    eachReport unknown handle (front ++ content ++ behind) len fuel cursor state =
      records.foldlM meaning state >>= atRest unknown handle rest behind := by
  -- on the records; the cursor is at the end of what has been read
  induction records generalizing content front cursor fuel state with
  | nil =>
    obtain rfl : rest = content := splits.whole
    obtain ⟨fuel, rfl⟩ := Nat.exists_eq_add_one_of_ne_zero (Nat.ne_zero_of_lt enough)
    rw [List.foldlM_nil, pure_eq_ok, ok_bind]
    cases rest with
    | nil =>
      rw [eachReport_done (by rw [here, there]; exact Nat.le_refl _)]
      rfl
    | cons reportId more =>
      have before : cursor.toNat < len.toNat := by
        rw [here, there]
        exact Nat.lt_add_of_pos_right (Nat.succ_pos _)
      rw [List.append_assoc, List.cons_append, eachReport_next front _ reportId here before, atRest]
      by_cases none : getReportLen reportId = 0
      · rw [if_pos none, if_pos none]
      -- a report that is cut off is handled, and the cursor is past the end behind it
      · have stuck : (reportId :: more).length < reportSize reportId :=
          (splits.stuck reportId more rfl).resolve_left fun zero => none (UInt8.toNat_inj.mp zero)
        have past : len.toNat ≤ (cursor + (getReportLen reportId).toUInt16).toNat := by
          rw [toNat_cursor reportId before.le small]
          omega
        obtain ⟨fuel, rfl⟩ := Nat.exists_eq_add_one_of_ne_zero (show fuel ≠ 0 by rw [List.length_cons] at enough; omega)
        rw [if_neg none, if_neg none]
        have ends : eachReport unknown handle (front ++ reportId :: (more ++ behind)) len (fuel + 1)
            (cursor + (getReportLen reportId).toUInt16) = pure := funext (eachReport_done past)
        rw [ends, bind_pure, List.cons_append]
  | cons record records ih =>
    obtain ⟨sized, others⟩ := List.forall_mem_cons.mp splits.sized
    obtain ⟨reportId, data, rfl, length⟩ := sized
    obtain ⟨fuel, rfl⟩ := Nat.exists_eq_add_one_of_ne_zero (Nat.ne_zero_of_lt enough)
    have content' : content = reportId :: data ++ (records.flatten ++ rest) := by
      rw [← splits.whole, List.flatten_cons, List.append_assoc]
    have count : content.length = reportSize reportId + (records.flatten ++ rest).length := by
      rw [content', List.length_append, length]
    have some : getReportLen reportId ≠ 0 := by
      intro none
      have zero : reportSize reportId = 0 := congrArg UInt8.toNat none
      rw [zero] at length
      cases length
    have pos : 0 < reportSize reportId := Nat.pos_of_ne_zero fun zero => some (UInt8.toNat_inj.mp zero)
    have before : cursor.toNat < len.toNat := by omega
    have next := toNat_cursor reportId before.le small
    have memory : front ++ content ++ behind = front ++ reportId :: (data ++ (records.flatten ++ rest ++ behind)) := by
      rw [content']
      simp only [List.append_assoc, List.cons_append]
    have memory' : front ++ reportId :: data ++ (records.flatten ++ rest) ++ behind =
        front ++ reportId :: (data ++ (records.flatten ++ rest ++ behind)) := by
      simp only [List.append_assoc, List.cons_append]
    -- a whole record is handled as if it were alone, whatever stands behind it
    have first : handle state (reportId :: (data ++ (records.flatten ++ rest ++ behind))) (getReportLen reportId) =
        meaning state (reportId :: data) := whole state reportId data _ length some
    have later := @ih _ ⟨rfl, others, splits.stuck⟩ (front ++ reportId :: data)
      (cursor + (getReportLen reportId).toUInt16) fuel
      (by rw [next, here, List.length_append, length]) (by rw [List.length_append, length]; omega) (by omega)
    rw [memory'] at later
    rw [memory, eachReport_next front _ reportId here before, if_neg some, List.foldlM_cons, bind_assoc, first]
    exact congrArg _ (funext later)

/-- What a handler does with a report that is all there is. -/
def alone (handle : σ → List UInt8 → UInt8 → Except Fault σ) (state : σ) (record : List UInt8) : Except Fault σ :=
  handle state record (getReportLen (record.headD 0))

end Loop

section Front
variable {front : List UInt8} (behind : List UInt8) {index count : Nat}

theorem load_front (within : index < front.length) : load (front ++ behind) index = load front index := by
  rw [load, load, List.getElem?_append_left within]

theorem load16_front (within : index + 1 < front.length) : load16 (front ++ behind) index = load16 front index := by
  rw [load16, load16, load_front behind (by omega), load_front behind within]

theorem load32_front (within : index + 3 < front.length) : load32 (front ++ behind) index = load32 front index := by
  rw [load32, load32, load16_front behind (by omega), load16_front behind (by omega)]

theorem loadRange_within (within : index + count ≤ front.length) :
    loadRange (front ++ behind) index count = loadRange front index count := by
  have values : loadRange front index count = .ok ((front.drop index).take count) := loadRange_eq_ok.mpr ⟨within, rfl⟩
  rw [values, loadRange_append values]

theorem load32_of_within (memory : List UInt8) (index : Nat) (within : index + 4 ≤ memory.length) :
    ∃ value, load32 memory index = .ok value := by
  obtain ⟨low, first⟩ := load16_of_within memory index (by omega)
  obtain ⟨high, second⟩ := load16_of_within memory (index + 2) (by omega)
  exact ⟨_, bind_eq_ok.mpr ⟨low, first, bind_eq_ok.mpr ⟨high, second, rfl⟩⟩⟩

end Front

theorem le_reportSize {reportId : UInt8} (known : getReportLen reportId ≠ 0)
    (flush : reportId ≠ sensorhubFlushCompleted) : 4 ≤ reportSize reportId := by
  have table : sh2ReportLens.all (fun entry => entry.1 ≠ sensorhubFlushCompleted → 4 ≤ entry.2.toNat) := by decide
  have all : ∀ entry ∈ sh2ReportLens, entry.1 ≠ sensorhubFlushCompleted → 4 ≤ entry.2.toNat := fun entry member =>
    of_decide_eq_true (List.all_eq_true.mp table entry member)
  unfold reportSize getReportLen at *
  cases found : sh2ReportLens.find? fun entry => entry.1 == reportId with
  | none =>
    rw [found] at known
    exact absurd rfl known
  | some entry =>
    have same : entry.1 = reportId := by simpa using List.find?_some found
    exact all entry (List.mem_of_find?_eq_some found) (same ▸ flush)

theorem loadProductId_front {record : List UInt8} (behind : List UInt8) (length : record.length = 16) :
    loadProductId (record ++ behind) = loadProductId record := by
  unfold loadProductId
  rw [load_front behind (by omega), load_front behind (by omega), load_front behind (by omega),
    load32_front behind (by omega), load32_front behind (by omega), load16_front behind (by omega),
    load_front behind (by omega), load_front behind (by omega)]

theorem opRx_front (sh2 : Sh2) {reportId : UInt8} {data : List UInt8} (behind : List UInt8)
    (length : (reportId :: data).length = reportSize reportId) :
    opRx sh2 (reportId :: data ++ behind) = opRx sh2 (reportId :: data) := by
  unfold opRx
  cases sh2.inProgress with
  | false => rfl
  | true =>
    cases sh2.opData with
    | setSensorConfig config sensorId => rfl
    | getSensorConfig config sensorId =>
      simp only [if_true, getSensorConfigRx, List.cons_append, load_cons_zero, ok_bind]
      by_cases feature : reportId = sensorhubGetFeatureResp
      · subst feature
        have size : (sensorhubGetFeatureResp :: data).length = 17 := length
        rw [← List.cons_append, load_front behind (by omega), load_front behind (by omega),
          load16_front behind (by omega), load32_front behind (by omega), load32_front behind (by omega),
          load32_front behind (by omega)]
      · rw [if_pos feature, if_pos feature]
    | getProdIds pProdIds nextEntry expectedEntries =>
      simp only [if_true, getProdIdRx, storeProductId, List.cons_append, load_cons_zero, ok_bind]
      by_cases product : reportId = sensorhubProdIdResp
      · subst product
        have fields := loadProductId_front behind length
        rw [List.cons_append] at fields
        rw [fields]
      · rw [if_pos product, if_pos product]

theorem opRx_flush (sh2 : Sh2) (data : List UInt8) : opRx sh2 (sensorhubFlushCompleted :: data) = .ok sh2 := by
  unfold opRx
  cases sh2.inProgress with
  | false => rfl
  | true => cases sh2.opData <;> rfl

theorem controlReport_local : Local controlReport (alone controlReport) := by
  intro sh2 reportId data behind length known
  have operation := opRx_front sh2 behind length
  unfold alone controlReport
  rw [operation, load_front behind (Nat.succ_pos _), load_cons_zero, ok_bind, ok_bind]
  by_cases command : reportId = sensorhubCommandResp
  · subst command
    have size : (sensorhubCommandResp :: data).length = 16 := length
    rw [load_front behind (by omega), load_front behind (by omega)]
    rfl
  by_cases feature : reportId = sensorhubGetFeatureResp
  · subst feature
    have size : (sensorhubGetFeatureResp :: data).length = 17 := length
    rw [loadRange_within behind (by omega)]
    rfl
  · simp only [command, feature, if_false]

theorem inputReport_local (timestamp : UInt32) : Local (inputReport timestamp) (alone (inputReport timestamp)) := by
  intro input reportId data behind length known
  have operation := opRx_front input.sh2 behind length
  unfold alone inputReport
  rw [operation, load_front behind (Nat.succ_pos _), load_cons_zero, ok_bind, ok_bind]
  by_cases base : reportId = sensorhubBaseTimestampRef
  · subst base
    have size : (sensorhubBaseTimestampRef :: data).length = 5 := length
    rw [load32_front behind (by omega)]
    rfl
  by_cases rebase : reportId = sensorhubTimestampRebase
  · subst rebase
    have size : (sensorhubTimestampRebase :: data).length = 5 := length
    rw [load32_front behind (by omega)]
    rfl
  by_cases flush : reportId = sensorhubFlushCompleted
  · subst flush
    rfl
  · have size := le_reportSize known flush
    simp only [base, rebase, flush, if_false, List.headD_cons]
    rw [load_front behind (by omega), load_front behind (by omega),
      loadRange_within behind (by rw [length]; exact Nat.le_of_eq (Nat.zero_add _))]

/-! ## Reports and samples -/

/-- A report of a sensor; the delay is in ticks of 100 µs. -/
structure SensorReport where
  reportId : UInt8
  sequence : UInt8
  status : Fin 4
  delay : Fin 16384
  data : List UInt8
  length : reportSize reportId = 4 + data.length
  sensor : reportId ≠ sensorhubBaseTimestampRef ∧ reportId ≠ sensorhubTimestampRebase ∧
    reportId ≠ sensorhubFlushCompleted

def SensorReport.bytes (report : SensorReport) : List UInt8 :=
  report.reportId :: report.sequence :: UInt8.ofNat (report.status + 4 * (report.delay / 256)) ::
    UInt8.ofNat (report.delay % 256) :: report.data

inductive HubReport where
  | baseTimestampRef (timebase : Int32)
  | timestampRebase (timebase : Int32)
  | flushCompleted (sensorId : UInt8)
  | sensor (report : SensorReport)

def HubReport.bytes : HubReport → List UInt8
  | .baseTimestampRef timebase => sensorhubBaseTimestampRef :: bytes32 timebase.toUInt32
  | .timestampRebase timebase => sensorhubTimestampRebase :: bytes32 timebase.toUInt32
  | .flushCompleted sensorId => [sensorhubFlushCompleted, sensorId]
  | .sensor report => report.bytes

/-- What a sensor has measured, with the ticks between the interrupt and the sample. -/
structure Sample where
  report : SensorReport
  ticks : Int

def samples : Int → List HubReport → List Sample
  | _, [] => []
  | _, .baseTimestampRef timebase :: rest => samples (-timebase.toInt) rest
  | base, .timestampRebase timebase :: rest => samples (base + timebase.toInt) rest
  | base, .flushCompleted _ :: rest => samples base rest
  | base, .sensor report :: rest => ⟨report, base + report.delay⟩ :: samples base rest

/-- A number of ticks that is an `int` in microseconds, too. -/
def InRange (ticks : Int) : Prop := -2 ^ 31 ≤ ticks * 100 ∧ ticks * 100 < 2 ^ 31

/-- No time of the batch overflows. -/
def Moderate : Int → List HubReport → Prop
  | _, [] => True
  | _, .baseTimestampRef timebase :: rest => InRange (-timebase.toInt) ∧ Moderate (-timebase.toInt) rest
  | base, .timestampRebase timebase :: rest => InRange (base + timebase.toInt) ∧ Moderate (base + timebase.toInt) rest
  | base, .flushCompleted _ :: rest => Moderate base rest
  | base, .sensor report :: rest => InRange (base + report.delay) ∧ Moderate base rest

/-- What the callback is told of a sample, when the interrupt came at a time of the host. -/
structure Sh2SensorEvent.Tells (time : Nat) (event : Sh2SensorEvent) (sample : Sample) : Prop where
  reportId : event.reportId = sample.report.reportId
  len : event.len.toNat = sample.report.bytes.length
  bytes : sample.report.bytes <+: event.report.toList
  delay : event.delayUs.toInt = sample.ticks * 100
  timestamp : (event.timestampUs.toNat : Int) =
    (time / 2 ^ 32 : Nat) * (2 ^ 32 : Nat) + ((time % 2 ^ 32 : Nat) + sample.ticks * 100) % (2 ^ 32 : Nat)

theorem SensorReport.length_bytes (report : SensorReport) : report.bytes.length = reportSize report.reportId := by
  rw [report.length, Nat.add_comm]
  rfl

theorem HubReport.sized (report : HubReport) : Sized reportSize report.bytes := by
  cases report with
  | baseTimestampRef timebase => exact ⟨_, _, rfl, rfl⟩
  | timestampRebase timebase => exact ⟨_, _, rfl, rfl⟩
  | flushCompleted sensorId => exact ⟨_, _, rfl, rfl⟩
  | sensor report => exact ⟨_, _, rfl, report.length_bytes⟩

theorem toNat_delay (status : Fin 4) (delay : Fin 16384) :
    ((UInt8.ofNat (status + 4 * (delay / 256)) &&& 0xFC).toUInt16 <<< 6 +
      (UInt8.ofNat (delay % 256)).toUInt16).toNat = delay := by
  have table : ∀ low : Fin 4, ∀ high : Fin 64,
      ((UInt8.ofNat (low.val + 4 * high.val) &&& 0xFC).toUInt16 <<< 6).toNat = high.val * 256 := by decide
  have high : delay.val / 256 < 64 := by omega
  have upper := table status ⟨delay.val / 256, high⟩
  simp only at upper
  rw [UInt16.toNat_add, upper, UInt8.toNat_toUInt16, UInt8.toNat_ofNat']
  omega

/-! ## The clock of the host -/

abbrev Sh2.CountsTo (sh2 : Sh2) (time : Nat) : Prop := Counts (2 ^ 32) time sh2.lastHostInt.toNat sh2.rollovers.toNat

theorem toInt_ticks {delta : Int32} {delay : UInt16} (range : InRange (delta.toInt + delay.toNat)) :
    ((delta + delay.toUInt32.toInt32) * 100).toInt = (delta.toInt + delay.toNat) * 100 := by
  have small := delay.toNat_lt
  have unsigned : (delay.toUInt32.toInt32).toInt = delay.toNat := by
    rw [← Int32.toInt_toBitVec]
    change delay.toUInt32.toBitVec.toInt = _
    rw [BitVec.toInt_eq_toNat_of_lt (by rw [UInt32.toNat_toBitVec, UInt16.toNat_toUInt32]; omega),
      UInt32.toNat_toBitVec, UInt16.toNat_toUInt32]
  obtain ⟨low, high⟩ := range
  have hundred : (100 : Int32).toInt = 100 := rfl
  have sum : (delta.toInt + delay.toNat).bmod (2 ^ 32) = delta.toInt + delay.toNat :=
    Int.bmod_eq_of_le (by omega) (by omega)
  rw [Int32.toInt_mul, Int32.toInt_add, unsigned, hundred, sum]
  exact Int.bmod_eq_of_le (by omega) (by omega)

theorem toNat_timestamp (rounds hostInt : UInt32) (offset : Int32) :
    (((rounds.toUInt64 <<< 32) + (hostInt + offset.toUInt32).toUInt64).toNat : Int) =
      rounds.toNat * (2 ^ 32 : Nat) + (hostInt.toNat + offset.toInt) % (2 ^ 32 : Nat) := by
  have few := rounds.toNat_lt
  have low : (hostInt + offset.toUInt32).toUInt64.toNat = (hostInt.toNat + offset.toUInt32.toNat) % 2 ^ 32 := by
    rw [UInt32.toNat_toUInt64, UInt32.toNat_add]
  have high : (rounds.toUInt64 <<< 32).toNat = rounds.toNat * 2 ^ 32 := by
    have amount : (32 : UInt64).toNat % 64 = 32 := rfl
    rw [UInt64.toNat_shiftLeft, amount, UInt32.toNat_toUInt64, Nat.shiftLeft_eq]
    omega
  have signed := toNat_toUInt32 offset
  rw [UInt64.toNat_add, low, high]
  omega

theorem touSTimestamp_spec {sh2 : Sh2} {last time : Nat} (counts : sh2.CountsTo last) (later : last ≤ time)
    (soon : time < last + 2 ^ 32) (small : time < 2 ^ 64) {hostInt : UInt32} (host : hostInt.toNat = time % 2 ^ 32)
    {delta : Int32} {delay : UInt16} (range : InRange (delta.toInt + delay.toNat)) :
    ∃ lastHostInt rollovers, (touSTimestamp sh2 hostInt delta delay).1 = { sh2 with lastHostInt, rollovers } ∧
      Sh2.CountsTo { sh2 with lastHostInt, rollovers } time ∧
      ((touSTimestamp sh2 hostInt delta delay).2.toNat : Int) = (time / 2 ^ 32 : Nat) * (2 ^ 32 : Nat) +
        ((time % 2 ^ 32 : Nat) + (delta.toInt + delay.toNat) * 100) % (2 ^ 32 : Nat) := by
  have next := (counts.next_iff later (by decide)).mpr soon
  have rounds : (if hostInt < sh2.lastHostInt then sh2.rollovers + 1 else sh2.rollovers).toNat = time / 2 ^ 32 := by
    have counted := next.rollovers
    rw [countRollovers, ← host] at counted
    simp only [UInt32.lt_iff_toNat_lt]
    split
    · rename_i less
      rw [if_pos less] at counted
      rw [UInt32.toNat_add]
      change (sh2.rollovers.toNat + 1) % 2 ^ 32 = _
      omega
    · rename_i less
      rwa [if_neg less] at counted
  refine ⟨_, _, rfl, ⟨host, rounds⟩, ?_⟩
  rw [← toInt_ticks range, ← host, ← rounds]
  exact toNat_timestamp _ _ _

/-! ## A batch -/

section Batch
variable {timestamp : UInt32} {time last : Nat} {input : InputReading}

def seenAfter (last time : Nat) (samples : List Sample) : Nat := if samples.isEmpty then last else time

theorem alone_baseTimestampRef (timebase : Int32) :
    alone (inputReport timestamp) input (HubReport.baseTimestampRef timebase).bytes =
      .ok { input with referenceDelta := -timebase } := by
  have read : load32 (HubReport.baseTimestampRef timebase).bytes 1 = .ok timebase.toUInt32 := by
    have value := load32_behind [sensorhubBaseTimestampRef] (bytes32 timebase.toUInt32 ++ []) 0
    rwa [load32_bytes32, List.append_nil] at value
  have id : load (HubReport.baseTimestampRef timebase).bytes 0 = .ok sensorhubBaseTimestampRef := rfl
  rw [alone, inputReport, id, ok_bind, if_pos rfl, read]
  rfl

theorem alone_timestampRebase (timebase : Int32) :
    alone (inputReport timestamp) input (HubReport.timestampRebase timebase).bytes =
      .ok { input with referenceDelta := input.referenceDelta + timebase } := by
  have read : load32 (HubReport.timestampRebase timebase).bytes 1 = .ok timebase.toUInt32 := by
    have value := load32_behind [sensorhubTimestampRebase] (bytes32 timebase.toUInt32 ++ []) 0
    rwa [load32_bytes32, List.append_nil] at value
  have id : load (HubReport.timestampRebase timebase).bytes 0 = .ok sensorhubTimestampRebase := rfl
  rw [alone, inputReport, id, ok_bind, if_neg (by decide), if_pos rfl, read]
  rfl

theorem alone_flushCompleted (sensorId : UInt8) :
    alone (inputReport timestamp) input (HubReport.flushCompleted sensorId).bytes = .ok input := by
  have id : load (HubReport.flushCompleted sensorId).bytes 0 = .ok sensorhubFlushCompleted := rfl
  have nobody : opRx input.sh2 (HubReport.flushCompleted sensorId).bytes = .ok input.sh2 := opRx_flush _ _
  rw [alone, inputReport, id, ok_bind, if_neg (by decide), if_neg (by decide), if_pos rfl, nobody]
  rfl

theorem alone_sensor (report : SensorReport) (host : timestamp.toNat = time % 2 ^ 32) (small : time < 2 ^ 64)
    (counts : input.sh2.CountsTo last) (later : last ≤ time) (soon : time < last + 2 ^ 32)
    (range : InRange (input.referenceDelta.toInt + report.delay)) :
    ∃ lastHostInt rollovers buffer event,
      alone (inputReport timestamp) input report.bytes = .ok ⟨{ input.sh2 with lastHostInt, rollovers },
        input.referenceDelta, buffer, if input.sh2.sensorCallback then input.events ++ [event] else input.events⟩ ∧
      Sh2.CountsTo { input.sh2 with lastHostInt, rollovers } time ∧
      event.Tells time ⟨report, input.referenceDelta.toInt + report.delay⟩ := by
  obtain ⟨notBase, notRebase, notFlush⟩ := report.sensor
  have id : load report.bytes 0 = .ok report.reportId := rfl
  have status : load report.bytes 2 = .ok (UInt8.ofNat (report.status + 4 * (report.delay / 256))) := rfl
  have low : load report.bytes 3 = .ok (UInt8.ofNat (report.delay % 256)) := rfl
  have size : (getReportLen report.reportId).toNat = report.bytes.length := report.length_bytes.symm
  have whole : loadRange report.bytes 0 (getReportLen report.reportId).toNat = .ok report.bytes := by
    have front := loadRange_front report.bytes []
    rwa [List.append_nil, ← size] at front
  have room : report.bytes.length ≤ sh2MaxSensorEventLen := report.length_bytes ▸ getReportLen_le report.reportId
  obtain ⟨buffer, stored, front⟩ :=
    storeCells_extends report.bytes (List.nil_prefix : [] <+: input.report.toList) (by simpa using room)
  have delay := toNat_delay report.status report.delay
  generalize value : (UInt8.ofNat (report.status + 4 * (report.delay / 256)) &&& 0xFC).toUInt16 <<< 6 +
    (UInt8.ofNat (report.delay % 256)).toUInt16 = amount at delay
  rw [← Int.natCast_inj.mpr delay] at range ⊢
  have ticks := toInt_ticks range
  obtain ⟨lastHostInt, rollovers, clock, counts', stamp⟩ := touSTimestamp_spec counts later soon small host range
  refine ⟨lastHostInt, rollovers, buffer, ⟨(touSTimestamp input.sh2 timestamp input.referenceDelta amount).2,
    ((input.referenceDelta + amount.toUInt32.toInt32) * 100).toInt64, getReportLen report.reportId, report.reportId,
    buffer⟩, ?_, counts', ⟨rfl, size, front, (Int32.toInt_toInt64 _).trans ticks, stamp⟩⟩
  have head : report.bytes.headD 0 = report.reportId := rfl
  rw [alone, head, inputReport, id, ok_bind, if_neg notBase, if_neg notRebase, if_neg notFlush, status, low, ok_bind,
    ok_bind, value, whole]
  have store : storeCells input.report 0 report.bytes = .ok buffer := stored
  simp only [ok_bind, store, clock, pure_eq_ok]

theorem toInt_neg_timebase {timebase : Int32} (range : InRange (-timebase.toInt)) :
    (-timebase).toInt = -timebase.toInt := by
  obtain ⟨low, high⟩ := range
  rw [Int32.toInt_neg]
  exact Int.bmod_eq_of_le (by omega) (by omega)

theorem toInt_add_timebase {delta timebase : Int32} (range : InRange (delta.toInt + timebase.toInt)) :
    (delta + timebase).toInt = delta.toInt + timebase.toInt := by
  obtain ⟨low, high⟩ := range
  rw [Int32.toInt_add]
  exact Int.bmod_eq_of_le (by omega) (by omega)

theorem reports_foldlM (reports : List HubReport) (host : timestamp.toNat = time % 2 ^ 32) (small : time < 2 ^ 64)
    (counts : input.sh2.CountsTo last)
    (timely : samples input.referenceDelta.toInt reports ≠ [] → last ≤ time ∧ time < last + 2 ^ 32)
    (moderate : Moderate input.referenceDelta.toInt reports) :
    ∃ lastHostInt rollovers delta buffer events,
      (reports.map HubReport.bytes).foldlM (alone (inputReport timestamp)) input =
        .ok ⟨{ input.sh2 with lastHostInt, rollovers }, delta, buffer, input.events ++ events⟩ ∧
      Sh2.CountsTo { input.sh2 with lastHostInt, rollovers }
        (seenAfter last time (samples input.referenceDelta.toInt reports)) ∧
      (input.sh2.sensorCallback = true →
        List.Forall₂ (Sh2SensorEvent.Tells time) events (samples input.referenceDelta.toInt reports)) := by
  -- on the reports, with the delta of the time base and the clock seen last
  induction reports generalizing input last with
  | nil => exact ⟨_, _, _, _, [], by rw [List.append_nil]; rfl, counts, fun _ => .nil⟩
  | cons report reports ih =>
    rw [List.map_cons, List.foldlM_cons]
    cases report with
    -- the delta is the time base from here on
    | baseTimestampRef timebase =>
      have delta := toInt_neg_timebase moderate.1
      rw [alone_baseTimestampRef, ok_bind]
      have rest := @ih last { input with referenceDelta := -timebase } counts
      simp only [delta] at rest
      exact rest timely moderate.2
    | timestampRebase timebase =>
      have delta := toInt_add_timebase moderate.1
      rw [alone_timestampRebase, ok_bind]
      have rest := @ih last { input with referenceDelta := input.referenceDelta + timebase } counts
      simp only [delta] at rest
      exact rest timely moderate.2
    | flushCompleted sensorId =>
      rw [alone_flushCompleted, ok_bind]
      exact ih counts timely moderate
    | sensor report =>
      -- a sample looks at the clock, so that the rounds are counted up to its time
      obtain ⟨later, soon⟩ := timely (List.cons_ne_nil _ _)
      obtain ⟨lastHostInt, rollovers, buffer, event, done, counts', tells⟩ :=
        alone_sensor report host small counts later soon moderate.1
      obtain ⟨lastHostInt', rollovers', delta, buffer', events, rest, finally', tell⟩ :=
        @ih time ⟨{ input.sh2 with lastHostInt, rollovers }, input.referenceDelta, buffer,
            if input.sh2.sensorCallback then input.events ++ [event] else input.events⟩
          counts' (fun _ => ⟨Nat.le_refl _, Nat.lt_add_of_pos_right (by decide)⟩) moderate.2
      have seen : seenAfter time time (samples input.referenceDelta.toInt reports) = time := ite_self _
      rw [HubReport.bytes, done, ok_bind, rest]
      cases callback : input.sh2.sensorCallback with
      | true =>
        refine ⟨lastHostInt', rollovers', delta, buffer', event :: events, ?_, seen ▸ finally', fun _ =>
          .cons tells (tell callback)⟩
        rw [if_pos rfl, List.append_assoc]
        rfl
      -- without a callback the events are dropped
      | false =>
        refine ⟨lastHostInt', rollovers', delta, buffer', events, ?_, seen ▸ finally', nofun⟩
        rw [if_neg (by decide)]

end Batch

theorem eachReport_records {σ : Type} {unknown : σ → σ} {handle : σ → List UInt8 → UInt8 → Except Fault σ}
    {meaning : σ → List UInt8 → Except Fault σ} (whole : Local handle meaning) {records : List (List UInt8)}
    (sized : ∀ record ∈ records, Sized reportSize record) {payload : List UInt8} {len : UInt16}
    (content : payload.take len.toNat = records.flatten) (inside : len.toNat ≤ payload.length)
    (small : len.toNat ≤ sh2HalMaxPayloadIn) (state : σ) :
    eachReport unknown handle payload len (len.toNat + 1) 0 state = records.foldlM meaning state := by
  have length : len.toNat = records.flatten.length := by rw [← content, List.length_take_of_le inside]
  have loop := @eachReport_splits _ unknown _ _ whole _ _ _ (splits_records sized) [] (payload.drop len.toNat) len 0
    (len.toNat + 1) rfl (by rw [length, List.length_nil, Nat.zero_add]) small (by rw [length]; exact Nat.lt_succ_self _)
    state
  rw [List.nil_append, ← content, List.take_append_drop] at loop
  rw [loop]
  exact bind_pure _

theorem sensorhubInputHdlr_batch (stack : Vector UInt8 sh2MaxSensorEventLen) {sh2 : Sh2} {reports : List HubReport}
    {payload : List UInt8} {len : UInt16} {timestamp : UInt32} {time last : Nat}
    (content : payload.take len.toNat = (reports.map HubReport.bytes).flatten) (inside : len.toNat ≤ payload.length)
    (room : len.toNat ≤ sh2HalMaxPayloadIn)
    (host : timestamp.toNat = time % 2 ^ 32) (small : time < 2 ^ 64) (counts : sh2.CountsTo last)
    (timely : samples 0 reports ≠ [] → last ≤ time ∧ time < last + 2 ^ 32) (moderate : Moderate 0 reports) :
    ∃ lastHostInt rollovers events, sensorhubInputHdlr stack sh2 payload len timestamp =
        .ok ({ sh2 with lastHostInt, rollovers }, events) ∧
      Sh2.CountsTo { sh2 with lastHostInt, rollovers } (seenAfter last time (samples 0 reports)) ∧
      (sh2.sensorCallback = true → List.Forall₂ (Sh2SensorEvent.Tells time) events (samples 0 reports)) := by
  have sized : ∀ record ∈ reports.map HubReport.bytes, Sized reportSize record :=
    List.forall_mem_map.mpr fun report _ => report.sized
  obtain ⟨lastHostInt, rollovers, delta, buffer, events, done, counts', tell⟩ :=
    @reports_foldlM timestamp time last ⟨sh2, 0, stack, []⟩ reports host small counts timely moderate
  refine ⟨lastHostInt, rollovers, events, ?_, counts', tell⟩
  rw [sensorhubInputHdlr, eachReport_records (inputReport_local timestamp) sized content inside room, done]
  rfl

/-! ## Any payload -/

section Bounds
variable {timestamp : UInt32}

def IsSample (reportId : UInt8) : Prop :=
  reportId ≠ sensorhubBaseTimestampRef ∧ reportId ≠ sensorhubTimestampRebase ∧ reportId ≠ sensorhubFlushCompleted

/-- A report can be handled when it is whole in memory, and one that is no sample when there are five bytes. -/
theorem inputReport_ok_iff (input : InputReading) {reportId : UInt8} {more : List UInt8}
    (enough : 5 ≤ (reportId :: more).length ∨ reportSize reportId ≤ (reportId :: more).length)
    (known : getReportLen reportId ≠ 0) :
    (∃ input', inputReport timestamp input (reportId :: more) (getReportLen reportId) = .ok input') ↔
      (IsSample reportId → reportSize reportId ≤ (reportId :: more).length) := by
  have id : load (reportId :: more) 0 = .ok reportId := rfl
  rw [inputReport, id, ok_bind]
  by_cases base : reportId = sensorhubBaseTimestampRef
  · subst base
    have size : reportSize sensorhubBaseTimestampRef = 5 := rfl
    obtain ⟨timebase, read⟩ := load32_of_within (sensorhubBaseTimestampRef :: more) 1 (by omega)
    rw [if_pos rfl, read]
    exact ⟨fun _ sample => absurd rfl sample.1, fun _ => ⟨_, rfl⟩⟩
  by_cases rebase : reportId = sensorhubTimestampRebase
  · subst rebase
    have size : reportSize sensorhubTimestampRebase = 5 := rfl
    obtain ⟨timebase, read⟩ := load32_of_within (sensorhubTimestampRebase :: more) 1 (by omega)
    rw [if_neg base, if_pos rfl, read]
    exact ⟨fun _ sample => absurd rfl sample.2.1, fun _ => ⟨_, rfl⟩⟩
  by_cases flush : reportId = sensorhubFlushCompleted
  · subst flush
    rw [if_neg base, if_neg rebase, if_pos rfl, opRx_flush]
    exact ⟨fun _ sample => absurd rfl sample.2.2, fun _ => ⟨_, rfl⟩⟩
  · have size := le_reportSize known flush
    have most : reportSize reportId ≤ sh2MaxSensorEventLen := getReportLen_le reportId
    rw [if_neg base, if_neg rebase, if_neg flush, load_of_lt _ 2 (by omega), load_of_lt _ 3 (by omega), ok_bind,
      ok_bind]
    constructor
    · rintro ⟨input', done⟩ -
      obtain ⟨bytes, copied, -⟩ := bind_eq_ok.mp done
      have within := (loadRange_eq_ok.mp copied).1
      rwa [Nat.zero_add] at within
    · intro whole
      have fits : 0 + reportSize reportId ≤ (reportId :: more).length := by
        rw [Nat.zero_add]
        exact whole ⟨base, rebase, flush⟩
      have copied := loadRange_eq_ok.mpr ⟨fits, rfl⟩
      have count := loadRange_length copied
      obtain ⟨buffer, stored, -⟩ := storeCells_extends ((reportId :: more).take (reportSize reportId))
        (List.nil_prefix : [] <+: input.report.toList) (by rw [← count] at most; simpa using most)
      exact ⟨_, bind_eq_ok.mpr ⟨_, copied, bind_eq_ok.mpr ⟨_, stored, rfl⟩⟩⟩

theorem inputReport_total {records : List (List UInt8)} (sized : ∀ record ∈ records, Sized reportSize record)
    (input : InputReading) : ∃ input', records.foldlM (alone (inputReport timestamp)) input = .ok input' := by
  induction records generalizing input with
  | nil => exact ⟨input, rfl⟩
  | cons record records ih =>
    obtain ⟨⟨reportId, data, rfl, length⟩, others⟩ := List.forall_mem_cons.mp sized
    have known : getReportLen reportId ≠ 0 := by
      intro none
      have zero : reportSize reportId = 0 := congrArg UInt8.toNat none
      rw [zero] at length
      cases length
    obtain ⟨next, one⟩ :=
      (@inputReport_ok_iff timestamp input _ _ (.inr length.ge) known).mpr fun _ => length.ge
    obtain ⟨final, rest⟩ := ih others next
    refine ⟨final, ?_⟩
    rw [List.foldlM_cons, alone, List.headD_cons, one, ok_bind, rest]

/-- Whatever a payload has in it, it is read outside the buffer of the transport exactly when it ends in a sample that
is cut off and would go on behind the buffer. -/
theorem input_in_bounds_iff (stack : Vector UInt8 sh2MaxSensorEventLen) (sh2 : Sh2)
    (inPayload : Vector UInt8 sh2HalMaxPayloadIn) {len : UInt16} (room : len.toNat ≤ payloadRoom)
    {records : List (List UInt8)} {rest : List UInt8}
    (splits : Splits reportSize (inPayload.toList.take len.toNat) records rest) :
    (∃ result, sensorhubInputHdlr stack sh2 inPayload.toList len timestamp = .ok result) ↔
      ∀ reportId more, rest = reportId :: more → getReportLen reportId ≠ 0 → IsSample reportId →
        len.toNat - rest.length + reportSize reportId ≤ sh2HalMaxPayloadIn := by
  have size : inPayload.toList.length = sh2HalMaxPayloadIn := inPayload.length_toList
  have limit : len.toNat ≤ 1020 := room
  have count : (inPayload.toList.take len.toNat).length = len.toNat := by
    rw [List.length_take, size]
    exact Nat.min_eq_left (Nat.le_trans room (Nat.sub_le _ _))
  have behind : (inPayload.toList.drop len.toNat).length = 1024 - len.toNat := by rw [List.length_drop, size]
  have part : rest.length ≤ len.toNat := by
    rw [← count, ← splits.whole, List.length_append]
    exact Nat.le_add_left _ _
  generalize unknown : (fun input : InputReading => { input with sh2 := countUnknown input.sh2 }) = stop
  -- the whole reports are handled one by one, and the rest decides
  have loop := @eachReport_splits _ stop _ _ (inputReport_local timestamp) _ _ _ splits []
    (inPayload.toList.drop len.toNat) len 0 (len.toNat + 1) rfl (by rw [count, List.length_nil, Nat.zero_add])
    (Nat.le_trans room (Nat.sub_le _ _)) (by rw [count]; exact Nat.lt_succ_self _) ⟨sh2, 0, stack, []⟩
  obtain ⟨input, done⟩ := @inputReport_total timestamp _ splits.sized ⟨sh2, 0, stack, []⟩
  rw [List.nil_append, List.take_append_drop, done, ok_bind] at loop
  have result : (∃ result, sensorhubInputHdlr stack sh2 inPayload.toList len timestamp = .ok result) ↔
      ∃ input', atRest stop (inputReport timestamp) rest (inPayload.toList.drop len.toNat) input = .ok input' := by
    rw [sensorhubInputHdlr, unknown, loop]
    constructor
    · rintro ⟨_, ends⟩
      obtain ⟨input', ends, -⟩ := bind_eq_ok.mp ends
      exact ⟨input', ends⟩
    · rintro ⟨input', ends⟩
      exact ⟨_, bind_eq_ok.mpr ⟨input', ends, rfl⟩⟩
  rw [result]
  cases rest with
  | nil => exact ⟨fun _ => nofun, fun _ => ⟨input, rfl⟩⟩
  | cons reportId more =>
    -- an unknown id ends the payload
    by_cases known : getReportLen reportId = 0
    · constructor
      · intro _ other others same unknown
        obtain ⟨rfl, rfl⟩ := List.cons.inj same
        exact absurd known unknown
      · intro _
        exact ⟨stop input, if_pos known⟩
    · have total : (reportId :: (more ++ inPayload.toList.drop len.toNat)).length =
          (reportId :: more).length + (1024 - len.toNat) := by
        rw [← List.cons_append, List.length_append, behind]
      have first : 1 ≤ (reportId :: more).length := Nat.succ_pos _
      rw [atRest, if_neg known, List.cons_append, inputReport_ok_iff input (.inl (by rw [total]; omega)) known, total]
      constructor
      · intro inside other others same _ sample
        obtain ⟨rfl, rfl⟩ := List.cons.inj same
        have fits := inside sample
        change _ ≤ 1024
        omega
      · intro inside sample
        have fits : len.toNat - (reportId :: more).length + reportSize reportId ≤ 1024 :=
          inside reportId more rfl known sample
        omega

/-- A payload of 1020 bytes that ends in the first half of a report of the optical flow. -/
theorem input_in_bounds_iff_flow :
    ¬∃ result, sensorhubInputHdlr (.replicate 60 0) Sh2.opened (Vector.replicate 1024 0x2C).toList 1020 0 =
      .ok result := by
  have splits : Splits reportSize ((Vector.replicate 1024 (0x2C : UInt8)).toList.take (1020 : UInt16).toNat)
      (List.replicate 42 (List.replicate 24 0x2C)) (List.replicate 12 0x2C) := by
    constructor
    case whole =>
      have size : (1020 : UInt16).toNat = 1020 := rfl
      rw [List.flatten_replicate_replicate, List.replicate_append_replicate, Vector.toList_replicate, size,
        List.take_replicate]
      rfl
    case sized =>
      intro record member
      obtain rfl := List.eq_of_mem_replicate member
      exact ⟨0x2C, List.replicate 23 0x2C, rfl, rfl⟩
    case stuck =>
      intro first behind same
      obtain ⟨rfl, -⟩ := List.cons.inj (show (0x2C : UInt8) :: List.replicate 11 0x2C = _ from same)
      exact .inr (by decide)
  intro done
  have inside := (input_in_bounds_iff _ _ (Vector.replicate 1024 (0x2C : UInt8)) (by decide) splits).mp done 0x2C _ rfl
    (by decide) ⟨by decide, by decide, by decide⟩
  exact absurd inside (by decide)

end Bounds

end TvcHopper.Imu
