import TvcHopper.Imu.Reports

/-! What the operations make of the reports that they are given.

The product ids are stored in the order in which they arrive, four of them, or five
when one of the first four says so. A configuration that was set is read back as
it was.
-/

set_option autoImplicit false

namespace TvcHopper.Imu
open Machine

section Operations
variable {sh2 : Sh2}

/-- An operation has room for what it waits for. -/
def Sh2.Sane (sh2 : Sh2) : Prop :=
  ∀ pProdIds nextEntry expectedEntries, sh2.inProgress = true →
    sh2.opData = .getProdIds pProdIds nextEntry expectedEntries →
    pProdIds.isSome ∧ expectedEntries.toNat ≤ sh2MaxProdIdEntries

theorem loadProductId_total {record : List UInt8} (length : record.length = 16) :
    ∃ prodId, loadProductId record = .ok prodId := by
  obtain ⟨part, partRead⟩ := load32_of_within record 4 (by omega)
  obtain ⟨build, buildRead⟩ := load32_of_within record 8 (by omega)
  obtain ⟨patch, patchRead⟩ := load16_of_within record 12 (by omega)
  refine ⟨⟨record[1], record[2], record[3], part, build, patch, record[14], record[15]⟩, ?_⟩
  rw [loadProductId, load_of_lt record 1 (by omega), load_of_lt record 2 (by omega), load_of_lt record 3 (by omega),
    load_of_lt record 14 (by omega), load_of_lt record 15 (by omega), partRead, buildRead, patchRead]
  rfl

def expectedAfter (prodId : ProductId) (expectedEntries : UInt8) : UInt8 :=
  if prodId.swPartNumber = 10004095 then 5 else expectedEntries

/-- The operation when a product id has been stored: it is complete with the last one. -/
def afterProductId (sh2 : Sh2) (prodIds : ProductIds) (nextEntry expectedEntries : UInt8) : Sh2 :=
  if expectedEntries ≤ nextEntry then
    let prodIds := { prodIds with numEntries := nextEntry }
    opCompleted { sh2 with opData := .getProdIds (some prodIds) nextEntry expectedEntries } sh2Ok
  else { sh2 with opData := .getProdIds (some prodIds) nextEntry expectedEntries }

theorem afterProductId_sane (sh2 : Sh2) (prodIds : ProductIds) (nextEntry : UInt8) {expectedEntries : UInt8}
    (room : expectedEntries.toNat ≤ sh2MaxProdIdEntries) :
    ∃ inProgress opStatus opData, afterProductId sh2 prodIds nextEntry expectedEntries =
        { sh2 with inProgress, opStatus, opData } ∧
      Sh2.Sane { sh2 with inProgress, opStatus, opData } := by
  unfold afterProductId
  split
  · refine ⟨_, _, _, rfl, ?_⟩
    intro _ _ _ running
    cases running
  · refine ⟨_, _, _, rfl, ?_⟩
    intro _ _ _ _ same
    obtain ⟨rfl, -, rfl⟩ := OpData.getProdIds.inj same
    exact ⟨rfl, room⟩

theorem getProdIdRx_spec (sh2 : Sh2) (prodIds : ProductIds) {nextEntry expectedEntries : UInt8} {record : List UInt8}
    {prodId : ProductId} (id : load record 0 = .ok sensorhubProdIdResp) (read : loadProductId record = .ok prodId)
    (before : nextEntry < expectedEntries) (inside : nextEntry.toNat < sh2MaxProdIdEntries) :
    getProdIdRx sh2 (some prodIds) nextEntry expectedEntries record =
      .ok (afterProductId sh2 { prodIds with entry := prodIds.entry.set nextEntry.toNat prodId } (nextEntry + 1)
        (expectedAfter prodId expectedEntries)) := by
  have stored := storeCell_of_lt prodIds.entry prodId inside
  simp only [getProdIdRx, id, ok_bind, ne_eq, not_true, if_false, storeProductId, before, if_true, read, stored,
    pure_eq_ok, afterProductId]
  exact (apply_ite _ _ _ _).symm

theorem getProdIdRx_full (sh2 : Sh2) (prodIds : ProductIds) {nextEntry expectedEntries : UInt8} {record : List UInt8}
    (id : load record 0 = .ok sensorhubProdIdResp) (full : ¬nextEntry < expectedEntries) :
    getProdIdRx sh2 (some prodIds) nextEntry expectedEntries record =
      .ok (afterProductId sh2 prodIds nextEntry expectedEntries) := by
  simp only [getProdIdRx, id, ok_bind, ne_eq, not_true, if_false, storeProductId, full, pure_eq_ok, afterProductId]
  exact (apply_ite _ _ _ _).symm

theorem getProdIdRx_other (sh2 : Sh2) (pProdIds : Option ProductIds) (nextEntry expectedEntries : UInt8)
    {reportId : UInt8} (data : List UInt8) (other : reportId ≠ sensorhubProdIdResp) :
    getProdIdRx sh2 pProdIds nextEntry expectedEntries (reportId :: data) = .ok sh2 := by
  simp only [getProdIdRx, load_cons_zero, ok_bind, ne_eq, other, not_false_eq_true, if_true, pure_eq_ok]

theorem expectedAfter_le {expectedEntries : UInt8} (prodId : ProductId)
    (room : expectedEntries.toNat ≤ sh2MaxProdIdEntries) :
    (expectedAfter prodId expectedEntries).toNat ≤ sh2MaxProdIdEntries := by
  unfold expectedAfter
  split
  · decide
  · exact room

theorem load16_past {front : List UInt8} {index : Nat} (here : front.length = index) (rest : List UInt8) :
    load16 (front ++ rest) index = load16 rest 0 := here ▸ load16_behind front rest 0

theorem load32_past {front : List UInt8} {index : Nat} (here : front.length = index) (rest : List UInt8) :
    load32 (front ++ rest) index = load32 rest 0 := here ▸ load32_behind front rest 0

/-- A feature report: the flags of the configuration are bits, and the numbers stand low byte first. -/
def featureFlags (pConfig : SensorConfig) : UInt8 :=
  (if pConfig.changeSensitivityEnabled then featChangeSensitivityEnabled else 0) |||
    (if pConfig.changeSensitivityRelative then featChangeSensitivityRelative else 0) |||
    (if pConfig.wakeupEnabled then featWakeEnabled else 0) |||
    (if pConfig.alwaysOnEnabled then featAlwaysOnEnabled else 0) |||
    (if pConfig.sniffEnabled then featSniffEnabled else 0)

def featureReport (reportId sensorId : UInt8) (pConfig : SensorConfig) : List UInt8 :=
  [reportId, sensorId, featureFlags pConfig] ++ bytes16 pConfig.changeSensitivity ++ bytes32 pConfig.reportIntervalUs ++
    bytes32 pConfig.batchIntervalUs ++ bytes32 pConfig.sensorSpecific

theorem featureFlags_bits (pConfig : SensorConfig) :
    (featureFlags pConfig &&& featChangeSensitivityEnabled != 0) = pConfig.changeSensitivityEnabled ∧
      (featureFlags pConfig &&& featChangeSensitivityRelative != 0) = pConfig.changeSensitivityRelative ∧
      (featureFlags pConfig &&& featWakeEnabled != 0) = pConfig.wakeupEnabled ∧
      (featureFlags pConfig &&& featAlwaysOnEnabled != 0) = pConfig.alwaysOnEnabled ∧
      (featureFlags pConfig &&& featSniffEnabled != 0) = pConfig.sniffEnabled := by
  have table : ∀ enabled relative wakeup always sniff : Bool,
      let flags := featureFlags ⟨enabled, relative, wakeup, always, sniff, 0, 0, 0, 0⟩
      (flags &&& featChangeSensitivityEnabled != 0) = enabled ∧
        (flags &&& featChangeSensitivityRelative != 0) = relative ∧
        (flags &&& featWakeEnabled != 0) = wakeup ∧ (flags &&& featAlwaysOnEnabled != 0) = always ∧
        (flags &&& featSniffEnabled != 0) = sniff := by decide
  exact table _ _ _ _ _

/-- The answer to a feature request is read as the configuration that it was made of. -/
theorem getSensorConfigRx_feature (sh2 : Sh2) (sensorId : UInt8) (pConfig : SensorConfig) :
    getSensorConfigRx sh2 sensorId (featureReport sensorhubGetFeatureResp sensorId pConfig) =
      .ok (opCompleted { sh2 with opData := .getSensorConfig pConfig sensorId } sh2Ok) := by
  generalize report : featureReport sensorhubGetFeatureResp sensorId pConfig = record
  have id : load record 0 = .ok sensorhubGetFeatureResp := by rw [← report]; rfl
  have sensor : load record 1 = .ok sensorId := by rw [← report]; rfl
  have flags : load record 2 = .ok (featureFlags pConfig) := by rw [← report]; rfl
  have sensitivity : load16 record 3 = .ok pConfig.changeSensitivity := by
    rw [← report, featureReport, List.append_assoc, List.append_assoc, List.append_assoc]
    exact (load16_past (by rfl) _).trans (load16_bytes16 _ _)
  have interval : load32 record 5 = .ok pConfig.reportIntervalUs := by
    rw [← report, featureReport, List.append_assoc, List.append_assoc]
    exact (load32_past (by rfl) _).trans (load32_bytes32 _ _)
  have batch : load32 record 9 = .ok pConfig.batchIntervalUs := by
    rw [← report, featureReport, List.append_assoc]
    exact (load32_past (by rfl) _).trans (load32_bytes32 _ _)
  have specific : load32 record 13 = .ok pConfig.sensorSpecific := by
    have last := load32_bytes32 pConfig.sensorSpecific []
    rw [List.append_nil] at last
    rw [← report, featureReport]
    exact (load32_past (by rfl) _).trans last
  obtain ⟨enabled, relative, wakeup, always, sniff⟩ := featureFlags_bits pConfig
  simp only [getSensorConfigRx, id, sensor, flags, sensitivity, interval, batch, specific, ok_bind, ne_eq, not_true,
    if_false, enabled, relative, wakeup, always, sniff, pure_eq_ok]

theorem getSensorConfigRx_total (sh2 : Sh2) (sensorId : UInt8) {reportId : UInt8} {data : List UInt8}
    (length : (reportId :: data).length = reportSize reportId) :
    getSensorConfigRx sh2 sensorId (reportId :: data) = .ok sh2 ∨
      ∃ pConfig, getSensorConfigRx sh2 sensorId (reportId :: data) =
        .ok (opCompleted { sh2 with opData := .getSensorConfig pConfig sensorId } sh2Ok) := by
  rw [getSensorConfigRx, load_cons_zero, ok_bind]
  by_cases feature : reportId = sensorhubGetFeatureResp
  · subst feature
    have size : (sensorhubGetFeatureResp :: data).length = 17 := length
    rw [if_neg (not_not.mpr rfl), load_of_lt _ 1 (by omega), ok_bind]
    by_cases same : (sensorhubGetFeatureResp :: data)[1] = sensorId
    · obtain ⟨sensitivity, read⟩ := load16_of_within (sensorhubGetFeatureResp :: data) 3 (by omega)
      obtain ⟨interval, read'⟩ := load32_of_within (sensorhubGetFeatureResp :: data) 5 (by omega)
      obtain ⟨batch, read''⟩ := load32_of_within (sensorhubGetFeatureResp :: data) 9 (by omega)
      obtain ⟨specific, last⟩ := load32_of_within (sensorhubGetFeatureResp :: data) 13 (by omega)
      rw [if_neg (not_not.mpr same), load_of_lt _ 2 (by omega), read, read', read'', last]
      exact .inr ⟨_, rfl⟩
    · rw [if_pos same]
      exact .inl rfl
  · rw [if_pos feature]
    exact .inl rfl

theorem opRx_spec (sane : sh2.Sane) {reportId : UInt8} {data : List UInt8}
    (length : (reportId :: data).length = reportSize reportId) :
    ∃ inProgress opStatus opData, opRx sh2 (reportId :: data) = .ok { sh2 with inProgress, opStatus, opData } ∧
      Sh2.Sane { sh2 with inProgress, opStatus, opData } := by
  have same (done : opRx sh2 (reportId :: data) = .ok sh2) : ∃ inProgress opStatus opData,
      opRx sh2 (reportId :: data) = .ok { sh2 with inProgress, opStatus, opData } ∧
        Sh2.Sane { sh2 with inProgress, opStatus, opData } := ⟨_, _, _, done, sane⟩
  cases progress : sh2.inProgress with
  | false => exact same (by rw [opRx, progress]; rfl)
  | true =>
    cases operation : sh2.opData with
    | setSensorConfig config sensorId => exact same (by simp only [opRx, progress, operation, if_true])
    | getSensorConfig config sensorId =>
      simp only [opRx, progress, operation, if_true] at same ⊢
      rcases getSensorConfigRx_total sh2 sensorId length with left | ⟨pConfig, read⟩
      · exact same left
      · exact ⟨false, sh2Ok, .getSensorConfig pConfig sensorId, read, fun _ _ _ running => nomatch running⟩
    | getProdIds pProdIds nextEntry expectedEntries =>
      obtain ⟨isSome, room⟩ := sane _ _ _ progress operation
      obtain ⟨prodIds, rfl⟩ := Option.isSome_iff_exists.mp isSome
      simp only [opRx, progress, operation, if_true] at same ⊢
      by_cases product : reportId = sensorhubProdIdResp
      · subst product
        obtain ⟨prodId, read⟩ := loadProductId_total length
        by_cases before : nextEntry < expectedEntries
        · have inside : nextEntry.toNat < sh2MaxProdIdEntries :=
            Nat.lt_of_lt_of_le (UInt8.lt_iff_toNat_lt.mp before) room
          rw [getProdIdRx_spec sh2 prodIds rfl read before inside]
          obtain ⟨_, _, _, after, sane'⟩ := afterProductId_sane sh2 _ (nextEntry + 1) (expectedAfter_le prodId room)
          exact ⟨_, _, _, congrArg _ after, sane'⟩
        · rw [getProdIdRx_full sh2 prodIds rfl before]
          obtain ⟨_, _, _, after, sane'⟩ := afterProductId_sane sh2 prodIds nextEntry room
          exact ⟨_, _, _, congrArg _ after, sane'⟩
      · exact same (getProdIdRx_other sh2 _ _ _ data product)

def recordIds (record : List UInt8) : List ProductId :=
  if record.headD 0 = sensorhubProdIdResp then (loadProductId record).toOption.toList else []

/-! ## The product ids -/

/-- The FSP200 has five product ids, and says so in one of the first four. -/
def neededIds (ids : List ProductId) : Nat :=
  if (ids.take 4).any fun prodId => prodId.swPartNumber = 10004095 then 5 else 4

structure Sh2.Collects (sh2 : Sh2) (ids : List ProductId) (prodIds : ProductIds) (nextEntry expectedEntries : UInt8) :
    Prop where
  operation : sh2.opData = .getProdIds (some prodIds) nextEntry expectedEntries
  inProgress : sh2.inProgress = decide (ids.length < neededIds ids)
  next : nextEntry.toNat = Min.min ids.length (neededIds ids)
  expected : expectedEntries.toNat = neededIds ids
  stored : prodIds.entry.toList.take nextEntry.toNat = ids.take nextEntry.toNat
  complete : neededIds ids ≤ ids.length → sh2.opStatus = sh2Ok ∧ prodIds.numEntries.toNat = neededIds ids

def Sh2.Collecting (sh2 : Sh2) (ids : List ProductId) : Prop :=
  ∃ prodIds nextEntry expectedEntries, sh2.Collects ids prodIds nextEntry expectedEntries

theorem neededIds_bounds (ids : List ProductId) : 4 ≤ neededIds ids ∧ neededIds ids ≤ 5 := by
  unfold neededIds
  split <;> decide

theorem neededIds_append {ids : List ProductId} (full : 4 ≤ ids.length) (more : List ProductId) :
    neededIds (ids ++ more) = neededIds ids := by
  rw [neededIds, List.take_append_of_le_length full, neededIds]

theorem neededIds_snoc (ids : List ProductId) (prodId : ProductId) (before : ids.length < neededIds ids) :
    neededIds (ids ++ [prodId]) = if prodId.swPartNumber = 10004095 then 5 else neededIds ids := by
  by_cases few : ids.length < 4
  · have all : (ids ++ [prodId]).take 4 = ids ++ [prodId] :=
      List.take_of_length_le (by rw [List.length_append]; exact few)
    have all' : ids.take 4 = ids := List.take_of_length_le (Nat.le_of_lt few)
    rw [neededIds, neededIds, all, all', List.any_append, List.any_cons, List.any_nil, Bool.or_false]
    by_cases special : prodId.swPartNumber = 10004095
    · simp [special]
    · simp [special]
  · have bounds := neededIds_bounds ids
    have five : neededIds ids = 5 := by omega
    rw [neededIds_append (Nat.le_of_not_lt few), five, ite_self]

theorem take_set_here {α : Type} {values : List α} {place : Nat} (inside : place < values.length) (value : α) :
    (values.set place value).take (place + 1) = values.take place ++ [value] := by
  have front : (values.take place).length = place := List.length_take_of_le (Nat.le_of_lt inside)
  have one : place + 1 - place = 1 := Nat.add_sub_cancel_left _ _
  rw [List.set_eq_take_append_cons_drop, if_pos inside, List.take_append, front, one,
    List.take_of_length_le (Nat.le_trans front.le (Nat.le_succ _))]
  rfl

theorem Sh2.Collecting.finished {sh2 : Sh2} {ids : List ProductId} (collecting : sh2.Collecting ids)
    (finished : sh2.inProgress = false) (more : List ProductId) : sh2.Collecting (ids ++ more) := by
  obtain ⟨prodIds, nextEntry, expectedEntries, collects⟩ := collecting
  have bounds := neededIds_bounds ids
  have all : neededIds ids ≤ ids.length := by
    have late := collects.inProgress
    rw [finished] at late
    exact Nat.le_of_not_lt (of_decide_eq_false late.symm)
  have needed : neededIds (ids ++ more) = neededIds ids := neededIds_append (Nat.le_trans bounds.1 all) more
  have next := collects.next
  refine ⟨prodIds, nextEntry, expectedEntries, collects.operation, ?_, ?_, ?_, ?_, ?_⟩
  · rw [finished, needed, eq_comm, decide_eq_false_iff_not, List.length_append]
    omega
  · rw [needed, List.length_append]
    omega
  · rw [needed, collects.expected]
  · rw [collects.stored, List.take_append_of_le_length (by omega)]
  · intro _
    rw [needed]
    exact collects.complete all

theorem Sh2.Collects.store {sh2 : Sh2} {ids : List ProductId} {prodIds : ProductIds} {nextEntry expectedEntries : UInt8}
    (collects : sh2.Collects ids prodIds nextEntry expectedEntries) (before : ids.length < neededIds ids)
    (inside : nextEntry.toNat < sh2MaxProdIdEntries) (prodId : ProductId) :
    (afterProductId sh2 { prodIds with entry := prodIds.entry.set nextEntry.toNat prodId } (nextEntry + 1)
      (expectedAfter prodId expectedEntries)).Collecting (ids ++ [prodId]) := by
  have next : nextEntry.toNat = ids.length := collects.next.trans (Nat.min_eq_left (Nat.le_of_lt before))
  have bounds := neededIds_bounds ids
  have bounds' := neededIds_bounds (ids ++ [prodId])
  have needed := neededIds_snoc ids prodId before
  -- an FSP200 among the first four raises what is expected to five
  have expected : (expectedAfter prodId expectedEntries).toNat = neededIds (ids ++ [prodId]) := by
    rw [needed, expectedAfter]
    split
    · rfl
    · exact collects.expected
  have next' : (nextEntry + 1).toNat = ids.length + 1 := by
    rw [UInt8.toNat_add, next]
    change (ids.length + 1) % 256 = _
    omega
  have most : ids.length + 1 ≤ neededIds (ids ++ [prodId]) := by
    rw [needed]
    split <;> omega
  have length : (ids ++ [prodId]).length = ids.length + 1 := List.length_append
  have whole : (ids ++ [prodId]).take (ids.length + 1) = ids ++ [prodId] := List.take_of_length_le length.le
  have stored : (prodIds.entry.set nextEntry.toNat prodId).toList.take (nextEntry + 1).toNat =
      (ids ++ [prodId]).take (nextEntry + 1).toNat := by
    have before' := collects.stored
    rw [next, List.take_length] at before'
    rw [next', Vector.toList_set, next, take_set_here (by rw [Vector.length_toList, ← next]; exact inside), before',
      whole]
  unfold afterProductId
  -- the operation is complete with the last one, and goes on otherwise
  by_cases last : expectedAfter prodId expectedEntries ≤ nextEntry + 1
  · have all : neededIds (ids ++ [prodId]) ≤ ids.length + 1 := by
      rw [← expected, ← next']
      exact UInt8.le_iff_toNat_le.mp last
    rw [if_pos last]
    refine ⟨_, _, _, rfl, ?_, ?_, expected, stored, fun _ => ⟨rfl, ?_⟩⟩
    · rw [length]
      exact (decide_eq_false (Nat.not_lt.mpr all)).symm
    · rw [next', length, Nat.min_eq_left most]
    · exact next'.trans (Nat.le_antisymm most all)
  · have more : ids.length + 1 < neededIds (ids ++ [prodId]) := by
      rw [← expected, ← next']
      exact UInt8.lt_iff_toNat_lt.mp (UInt8.not_le.mp last)
    have running : sh2.inProgress = true := collects.inProgress.trans (decide_eq_true before)
    rw [if_neg last]
    refine ⟨_, _, _, rfl, ?_, ?_, expected, stored, ?_⟩
    · rw [length]
      exact running.trans (decide_eq_true more).symm
    · rw [next', length, Nat.min_eq_left most]
    · intro all
      rw [length] at all
      omega

theorem Sh2.Collecting.opRx {sh2 sh2' : Sh2} {ids : List ProductId} (collecting : sh2.Collecting ids)
    {reportId : UInt8} {data : List UInt8} (length : (reportId :: data).length = reportSize reportId)
    (done : Imu.opRx sh2 (reportId :: data) = .ok sh2') : sh2'.Collecting (ids ++ recordIds (reportId :: data)) := by
  cases progress : sh2.inProgress with
  | false =>
    rw [Imu.opRx, progress] at done
    obtain rfl := Except.ok.inj done
    exact collecting.finished progress _
  | true =>
    obtain ⟨prodIds, nextEntry, expectedEntries, collects⟩ := collecting
    simp only [Imu.opRx, progress, collects.operation, if_true] at done
    by_cases product : reportId = sensorhubProdIdResp
    · subst product
      obtain ⟨prodId, read⟩ := loadProductId_total length
      have before : ids.length < neededIds ids := of_decide_eq_true (collects.inProgress.symm.trans progress)
      have bounds := neededIds_bounds ids
      have next := collects.next
      have expected := collects.expected
      have inside : nextEntry.toNat < sh2MaxProdIdEntries := by
        change _ < 5
        omega
      have less : nextEntry < expectedEntries := UInt8.lt_iff_toNat_lt.mpr (by omega)
      rw [getProdIdRx_spec sh2 prodIds rfl read less inside] at done
      obtain rfl := Except.ok.inj done
      have told : recordIds (sensorhubProdIdResp :: data) = [prodId] := by
        rw [recordIds, read]
        rfl
      rw [told]
      exact collects.store before inside prodId
    · rw [getProdIdRx_other sh2 _ _ _ data product] at done
      obtain rfl := Except.ok.inj done
      have told : recordIds (reportId :: data) = [] := if_neg product
      rw [told, List.append_nil]
      exact ⟨prodIds, nextEntry, expectedEntries, collects⟩

end Operations

end TvcHopper.Imu
