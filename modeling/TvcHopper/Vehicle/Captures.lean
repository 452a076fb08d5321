import TvcHopper.Vehicle.Sampling

/-! What the control loop and the requests read of the captures.

A capture is a distance and the processed readings behind it. They are stored
one after the other, and what is copied is the last that was stored. Between the
copy of the readings and that of the distance the task can measure again, at
most as often as the semaphore that starts it allows.
-/

set_option autoImplicit false

namespace TvcHopper.Vehicle
open Machine

/-! ## Captures -/

section Captures
variable {φ : Type}

@[simp] def SamplingEvent.distance : SamplingEvent φ → Option UInt32
  | .lidarRead distance => some distance
  | _ => none

@[simp] def SamplingEvent.data : SamplingEvent φ → Option (Vector φ imuProcSize)
  | .imuRead data => some data
  | _ => none

/-- The distances that were measured, behind the one that is there at the start. -/
def distances (history : List (SamplingEvent φ)) : List UInt32 := 0 :: history.filterMap SamplingEvent.distance

variable [Field φ]

/-- The processed readings, behind those that are there at the start. -/
def versions (history : List (SamplingEvent φ)) : List (Vector φ imuProcSize) :=
  .replicate _ 0 :: history.filterMap SamplingEvent.data

omit [Field φ] in
@[simp] theorem distances_snoc (history : List (SamplingEvent φ)) (event : SamplingEvent φ) :
    distances (history ++ [event]) = distances history ++ event.distance.toList := by
  cases event <;> simp [distances]

@[simp] theorem versions_snoc (history : List (SamplingEvent φ)) (event : SamplingEvent φ) :
    versions (history ++ [event]) = versions history ++ event.data.toList := by
  cases event <;> simp [versions]

omit [Field φ] in
theorem distances_snoc_none {history : List (SamplingEvent φ)} {event : SamplingEvent φ}
    (noDistance : event.distance = none) : distances (history ++ [event]) = distances history := by
  rw [distances_snoc, noDistance]
  exact List.append_nil _

theorem versions_snoc_none {history : List (SamplingEvent φ)} {event : SamplingEvent φ}
    (noData : event.data = none) : versions (history ++ [event]) = versions history := by
  rw [versions_snoc, noData]
  exact List.append_nil _

/-- How many more distances were measured than readings of the IMU. -/
@[simp] def InputsPc.ahead : InputsPc φ → Nat
  | .takeLidarMx _ | .storeLidar | .readImu => 1
  | _ => 0

@[simp] def InputsPc.unstoredLidar : InputsPc φ → Nat
  | .takeLidarMx _ => 1
  | _ => 0

@[simp] def InputsPc.unstoredImu : InputsPc φ → Nat
  | .takeProcMx _ => 1
  | _ => 0

/-- A capture has begun and has not measured yet. -/
@[simp] def InputsPc.begun : InputsPc φ → Nat
  | .readLidar => 1
  | _ => 0

/-- How many distances there will be before the next notification. -/
def Sampling.horizon (sampling : Sampling φ) (history : List (SamplingEvent φ)) : Nat :=
  (distances history).length + sampling.startCaptureSem.available.toNat + sampling.inputs.begun

/-- The control step has the readings of the capture `i` or a part of them, and can get a distance of at most `gap`
captures behind it. -/
def Sampling.Reads (gap : Nat) (sampling : Sampling φ) (history : List (SamplingEvent φ)) (l i : Nat) : Prop :=
  match sampling.control with
  | .copyImu => sampling.horizon history ≤ i + gap + 1 ∧ ∃ data count, (versions history)[i]? = some data ∧
      sampling.imuDataProc.access .control = .reading count ∧ Agree sampling.currState data count
  | .takeLidar => ∃ i' ≤ i, sampling.horizon history ≤ i' + gap + 1 ∧
      ∃ data, (versions history)[i']? = some data ∧ Agree sampling.currState data imuProcSize
  | .copyLidar => ∃ i' ≤ i, sampling.horizon history ≤ i' + gap + 1 ∧
      ∃ data, (versions history)[i']? = some data ∧ Agree sampling.currState data imuProcSize ∧
      ∃ distance count, (distances history)[l]? = some distance ∧
        sampling.lidarDistance.access .control = .reading count ∧
        (0 < count → sampling.stateLidar = (distance.toNat : φ))
  | _ => True

/-- The captures: `l` distances and `i` processed readings have been stored. -/
structure Sampling.Captured (sampling : Sampling φ) (history : List (SamplingEvent φ)) (l i : Nat) : Prop where
  lidarCount : (distances history).length = l + 1 + sampling.inputs.unstoredLidar
  imuCount : (versions history).length = i + 1 + sampling.inputs.unstoredImu
  ahead : (distances history).length = (versions history).length + sampling.inputs.ahead
  measured : ∀ distance, sampling.inputs = .takeLidarMx distance → (distances history)[l + 1]? = some distance
  processed : ∀ data, sampling.inputs = .takeProcMx data → (versions history)[i + 1]? = some data
  lidar : ∃ distance, (distances history)[l]? = some distance ∧ sampling.lidarDistance.Consistent #v[distance]
  imu : ∃ data, (versions history)[i]? = some data ∧ sampling.imuDataProc.Consistent data
  reporters : ∀ reporter, sampling.reporter reporter = .copyProc →
    ∃ data count, (versions history)[i]? = some data ∧
    sampling.imuDataProc.access (.reporter reporter) = .reading count ∧ Agree (sampling.value reporter) data count

variable {sampling next : Sampling φ} {history : List (SamplingEvent φ)} {event : SamplingEvent φ}
  {gap l i l' i' : Nat}

omit [Field φ] in
theorem distances_kept {n : Nat} {distance : UInt32} (found : (distances history)[n]? = some distance) :
    (distances (history ++ [event]))[n]? = some distance := by
  obtain ⟨within, -⟩ := List.getElem?_eq_some_iff.mp found
  rw [distances_snoc, List.getElem?_append_left within, found]

theorem versions_kept {n : Nat} {data : Vector φ imuProcSize} (found : (versions history)[n]? = some data) :
    (versions (history ++ [event]))[n]? = some data := by
  obtain ⟨within, -⟩ := List.getElem?_eq_some_iff.mp found
  rw [versions_snoc, List.getElem?_append_left within, found]

theorem Sampling.Reads.kept (reads : sampling.Reads gap history l i) (control : next.control = sampling.control)
    (currState : next.currState = sampling.currState)
    (imuAccess : next.imuDataProc.access .control = sampling.imuDataProc.access .control)
    (lidarAccess : next.lidarDistance.access .control = sampling.lidarDistance.access .control)
    (horizon : next.horizon (history ++ [event]) ≤ sampling.horizon history) (later : i ≤ i')
    (imuSame : sampling.imuDataProc.access .control ≠ .outside → i' = i)
    (lidarSame : sampling.lidarDistance.access .control ≠ .outside → l' = l) :
    next.Reads gap (history ++ [event]) l' i' := by
  unfold Sampling.Reads Sampling.stateLidar at reads ⊢
  rw [control, currState, imuAccess, lidarAccess]
  cases now : sampling.control with
  | copyImu =>
    rw [now] at reads
    obtain ⟨near, data, count, found, access, agree⟩ := reads
    obtain rfl := imuSame (by simp [access])
    exact ⟨horizon.trans near, data, count, versions_kept found, access, agree⟩
  | takeLidar =>
    rw [now] at reads
    obtain ⟨i₀, before, near, data, found, agree⟩ := reads
    exact ⟨i₀, before.trans later, horizon.trans near, data, versions_kept found, agree⟩
  | copyLidar =>
    rw [now] at reads
    obtain ⟨i₀, before, near, data, found, agree, distance, count, found', access, copied⟩ := reads
    obtain rfl := lidarSame (by simp [access])
    exact ⟨i₀, before.trans later, horizon.trans near, data, versions_kept found, agree, distance, count,
      distances_kept found', access, copied⟩
  | _ => trivial

omit [Field φ] in
theorem Sampling.horizon_snoc (noDistance : event.distance = none) :
    sampling.horizon (history ++ [event]) = sampling.horizon history := by
  simp only [Sampling.horizon, distances_snoc_none noDistance]

theorem Sampling.Reads.unmeasured (reads : sampling.Reads gap history l i) (control : next.control = sampling.control)
    (currState : next.currState = sampling.currState)
    (imuAccess : next.imuDataProc.access .control = sampling.imuDataProc.access .control)
    (lidarAccess : next.lidarDistance.access .control = sampling.lidarDistance.access .control)
    (sem : next.startCaptureSem = sampling.startCaptureSem) (inputs : next.inputs = sampling.inputs)
    (noDistance : event.distance = none) : next.Reads gap (history ++ [event]) l i := by
  apply reads.kept control currState imuAccess lidarAccess ?_ (le_refl i) (fun _ => rfl) fun _ => rfl
  rw [Sampling.horizon_snoc noDistance]
  simp only [Sampling.horizon, sem, inputs, le_refl]

theorem Sampling.Captured.reporters_kept (captured : sampling.Captured history l i)
    (reporter : next.reporter = sampling.reporter) (value : next.value = sampling.value)
    (access : ∀ reporter,
      next.imuDataProc.access (.reporter reporter) = sampling.imuDataProc.access (.reporter reporter))
    (same : ∀ reporter, sampling.imuDataProc.access (.reporter reporter) ≠ .outside → i' = i) :
    ∀ reporter, next.reporter reporter = .copyProc →
      ∃ data count, (versions (history ++ [event]))[i']? = some data ∧
      next.imuDataProc.access (.reporter reporter) = .reading count ∧ Agree (next.value reporter) data count := by
  intro reporter' copies
  rw [reporter] at copies
  obtain ⟨data, count, found, reads, agree⟩ := captured.reporters reporter' copies
  obtain rfl := same reporter' (by simp [reads])
  exact ⟨data, count, versions_kept found, (access reporter').trans reads, by rw [value]; exact agree⟩

/-- What a step of `ControlsInputs_Task` leaves alone. -/
structure InputsFrame (sampling next : Sampling φ) (l i l' i' : Nat) : Prop where
  control : next.control = sampling.control
  currState : next.currState = sampling.currState
  reporter : next.reporter = sampling.reporter
  value : next.value = sampling.value
  imuAccess : ∀ task, task ≠ .inputs → next.imuDataProc.access task = sampling.imuDataProc.access task
  lidarAccess : ∀ task, task ≠ .inputs → next.lidarDistance.access task = sampling.lidarDistance.access task
  later : i ≤ i'
  imuSame : ∀ task, task ≠ .inputs → sampling.imuDataProc.access task ≠ .outside → i' = i
  lidarSame : ∀ task, task ≠ .inputs → sampling.lidarDistance.access task ≠ .outside → l' = l

omit [Field φ] in
theorem InputsFrame.alone (startCaptureSem : BinarySemaphore) (inputs : InputsPc φ) :
    InputsFrame sampling { sampling with startCaptureSem, inputs } l i l i :=
  ⟨rfl, rfl, rfl, rfl, fun _ _ => rfl, fun _ _ => rfl, le_refl i, fun _ _ _ => rfl, fun _ _ _ => rfl⟩

structure Stored (next : Sampling φ) (history : List (SamplingEvent φ)) (l i : Nat) : Prop where
  lidarCount : (distances history).length = l + 1 + next.inputs.unstoredLidar
  imuCount : (versions history).length = i + 1 + next.inputs.unstoredImu
  ahead : (distances history).length = (versions history).length + next.inputs.ahead
  measured : ∀ distance, next.inputs = .takeLidarMx distance → (distances history)[l + 1]? = some distance
  processed : ∀ data, next.inputs = .takeProcMx data → (versions history)[i + 1]? = some data
  lidar : ∃ distance, (distances history)[l]? = some distance ∧ next.lidarDistance.Consistent #v[distance]
  imu : ∃ data, (versions history)[i]? = some data ∧ next.imuDataProc.Consistent data

/-- The captures behind a step that leaves the control task with what it has read. -/
structure Continued (sampling next : Sampling φ) (history : List (SamplingEvent φ)) (event : SamplingEvent φ)
    (l i l' i' : Nat) : Prop where
  captured : next.Captured (history ++ [event]) l' i'
  reads : ∀ gap, sampling.Reads gap history l i → next.Reads gap (history ++ [event]) l' i'

theorem Sampling.Captured.stepped (captured : sampling.Captured history l i)
    (frame : InputsFrame sampling next l i l' i')
    (horizon : next.horizon (history ++ [event]) ≤ sampling.horizon history)
    (stored : Stored next (history ++ [event]) l' i') : Continued sampling next history event l i l' i' := by
  refine ⟨⟨stored.lidarCount, stored.imuCount, stored.ahead, stored.measured, stored.processed, stored.lidar,
    stored.imu, ?_⟩, fun gap reads => ?_⟩
  · exact captured.reporters_kept frame.reporter frame.value (fun _ => frame.imuAccess _ (by simp))
      fun _ => frame.imuSame _ (by simp)
  · exact reads.kept frame.control frame.currState (frame.imuAccess _ (by simp)) (frame.lidarAccess _ (by simp))
      horizon frame.later (frame.imuSame _ (by simp)) (frame.lidarSame _ (by simp))

theorem Sampling.Captured.unmeasured (captured : sampling.Captured history l i) (inputs : next.inputs = sampling.inputs)
    (noDistance : event.distance = none) (noData : event.data = none)
    (lidar : ∀ {value}, sampling.lidarDistance.Consistent value → next.lidarDistance.Consistent value)
    (imu : ∀ {value}, sampling.imuDataProc.Consistent value → next.imuDataProc.Consistent value)
    (reporters : ∀ reporter, next.reporter reporter = .copyProc →
      ∃ data count, (versions history)[i]? = some data ∧
      next.imuDataProc.access (.reporter reporter) = .reading count ∧ Agree (next.value reporter) data count) :
    next.Captured (history ++ [event]) l i := by
  have sameDistances : distances (history ++ [event]) = distances history := distances_snoc_none noDistance
  have sameVersions : versions (history ++ [event]) = versions history := versions_snoc_none noData
  obtain ⟨lidarCount, imuCount, ahead, measured, processed', ⟨d, isD, whole⟩, ⟨p, isP, whole'⟩, -⟩ :=
    captured
  refine ⟨?_, ?_, ?_, ?_, ?_, ⟨d, ?_, lidar whole⟩, ⟨p, ?_, imu whole'⟩, ?_⟩
  all_goals
    simpa only [sameDistances, sameVersions, inputs]

theorem Sampling.Captured.silent (captured : sampling.Captured history l i) :
    Continued sampling sampling history .silent l i l i := by
  constructor
  · exact captured.unmeasured rfl rfl rfl id id captured.reporters
  · intro gap reads
    exact reads.unmeasured rfl rfl rfl rfl rfl rfl rfl

theorem Sampling.Captured.reporter_entered (captured : sampling.Captured history l i) {task : SamplingTask}
    {access : Access φ imuProcSize} {shared : Guarded SamplingTask φ imuProcSize}
    (entered : sampling.imuDataProc.enter task access false = some shared) {reporter : Reporter}
    (other : .reporter reporter ≠ task) (copies : sampling.reporter reporter = .copyProc) :
    ∃ data count, (versions history)[i]? = some data ∧ shared.access (.reporter reporter) = .reading count ∧
      Agree (sampling.value reporter) data count := by
  obtain ⟨data, count, found, reads, agree⟩ := captured.reporters reporter copies
  exact ⟨data, count, found, (Guarded.enter_frame entered other).trans reads, agree⟩

theorem Sampling.Captured.reporter_moved (captured : sampling.Captured history l i) {task : SamplingTask}
    {reporter : Reporter} (other : .reporter reporter ≠ task) (copies : sampling.reporter reporter = .copyProc) :
    ∃ data count, (versions history)[i]? = some data ∧
      (sampling.imuDataProc.move task).1.access (.reporter reporter) = .reading count ∧
      Agree (sampling.value reporter) data count := by
  obtain ⟨data, count, found, reads, agree⟩ := captured.reporters reporter copies
  exact ⟨data, count, found, (Guarded.move_frame other).trans reads, agree⟩

/-- A capture that has begun ends before the next one begins, so that there is at most one more distance to come. -/
theorem Sampling.Captured.horizon_le (captured : sampling.Captured history l i) :
    sampling.horizon history ≤ i + 2 + 1 := by
  have imuCount := captured.imuCount
  have ahead := captured.ahead
  have pending : sampling.startCaptureSem.available.toNat ≤ 1 := Bool.toNat_le _
  unfold Sampling.horizon
  cases now : sampling.inputs
  all_goals
    simp only [now, InputsPc.unstoredImu, InputsPc.ahead, InputsPc.begun] at imuCount ahead ⊢
    omega

theorem Sampling.Captured.stored_le (captured : sampling.Captured history l i) : i ≤ l := by
  have lidarCount := captured.lidarCount
  have imuCount := captured.imuCount
  have ahead := captured.ahead
  cases now : sampling.inputs
  all_goals
    simp only [now, InputsPc.unstoredLidar, InputsPc.unstoredImu, InputsPc.ahead] at lidarCount imuCount ahead
    omega

omit [Field φ] in
theorem stateImu_of_agree {data : Vector φ imuProcSize} (agree : Agree sampling.currState data imuProcSize) :
    sampling.stateImu = data := by
  apply Vector.ext
  intro j inside
  rw [Sampling.stateImu, Vector.getElem_ofFn]
  exact agree j inside inside _

end Captures

/-! ## Steps -/

section Preserved
variable {φ : Type} [Field φ] {sampling next : Sampling φ} {history : List (SamplingEvent φ)}
  {event : SamplingEvent φ} {gap l i : Nat}

/-! ### `ControlsInputs_Task` -/

section Inputs
variable [LinearOrder φ] {math : MathH φ} {distance : UInt32} {imuDataRaw : Vector φ imuRawSize}

theorem Sampling.Captured.waitStart (captured : sampling.Captured history l i) (now : sampling.inputs = .waitStart)
    (one : inputsStep math sampling distance imuDataRaw false = (next, event)) :
    Continued sampling next history event l i l i := by
  obtain ⟨lidarCount, imuCount, ahead, -, -, ⟨d, isD, lidar⟩, ⟨p, isP, imu⟩, -⟩ := id captured
  unfold inputsStep at one
  rw [now] at one lidarCount imuCount ahead
  cases pending : sampling.startCaptureSem.available with
  | false =>
    simp only [BinarySemaphore.take, pending] at one
    obtain ⟨rfl, rfl⟩ := Prod.mk.inj one
    exact captured.silent
  | true =>
    simp only [BinarySemaphore.take, pending] at one
    obtain ⟨rfl, rfl⟩ := Prod.mk.inj one
    refine captured.stepped (InputsFrame.alone ..) ?_ ⟨?_, ?_, ?_, ?_, ?_, ⟨d, distances_kept isD, lidar⟩,
      ⟨p, versions_kept isP, imu⟩⟩
    · simp [Sampling.horizon, now, pending]
    all_goals
      simp_all

theorem Sampling.Captured.readLidar (captured : sampling.Captured history l i) (now : sampling.inputs = .readLidar)
    (one : inputsStep math sampling distance imuDataRaw false = (next, event)) :
    Continued sampling next history event l i l i := by
  obtain ⟨lidarCount, imuCount, ahead, -, -, ⟨d, isD, lidar⟩, ⟨p, isP, imu⟩, -⟩ := id captured
  unfold inputsStep at one
  rw [now] at one lidarCount imuCount ahead
  obtain ⟨rfl, rfl⟩ := Prod.mk.inj one
  refine captured.stepped (InputsFrame.alone ..) ?_ ⟨?_, ?_, ?_, ?_, ?_, ⟨d, distances_kept isD, lidar⟩,
    ⟨p, versions_kept isP, imu⟩⟩
  · simp [Sampling.horizon, now]
    omega
  all_goals
    simp_all

theorem Sampling.Captured.takeLidarMx (captured : sampling.Captured history l i) {tempDistance : UInt32}
    (now : sampling.inputs = .takeLidarMx tempDistance)
    (one : inputsStep math sampling distance imuDataRaw false = (next, event)) :
    ∃ l', Continued sampling next history event l i l' i := by
  obtain ⟨lidarCount, imuCount, ahead, measured, -, ⟨d, isD, lidar⟩, ⟨p, isP, imu⟩, -⟩ := id captured
  unfold inputsStep at one
  rw [now] at one lidarCount imuCount ahead
  have pending := measured tempDistance now
  cases entered : sampling.lidarDistance.enter .inputs (.storing #v[tempDistance]) false with
  | none =>
    simp only [entered] at one
    obtain ⟨rfl, rfl⟩ := Prod.mk.inj one
    exact ⟨l, captured.silent⟩
  | some shared =>
    simp only [entered] at one
    obtain ⟨rfl, rfl⟩ := Prod.mk.inj one
    have stored := lidar.enter entered
    rw [result_storing] at stored
    refine ⟨l + 1, captured.stepped ?_ ?_ ⟨?_, ?_, ?_, ?_, ?_,
      ⟨tempDistance, distances_kept pending, stored⟩, ⟨p, versions_kept isP, imu⟩⟩⟩
    · refine ⟨rfl, rfl, rfl, rfl, fun _ _ => rfl, fun _ other => Guarded.enter_frame entered other, le_refl i,
        fun _ _ _ => rfl, fun _ _ inside => ?_⟩
      -- a task that copies the distance keeps this one out
      rw [lidar.excludes inside] at entered
      cases entered
    · simp [Sampling.horizon, now]
    all_goals
      simp_all

theorem Sampling.Captured.storeLidar (captured : sampling.Captured history l i) (now : sampling.inputs = .storeLidar)
    (one : inputsStep math sampling distance imuDataRaw false = (next, event)) :
    Continued sampling next history event l i l i := by
  obtain ⟨lidarCount, imuCount, ahead, -, -, ⟨d, isD, lidar⟩, ⟨p, isP, imu⟩, -⟩ := id captured
  unfold inputsStep at one
  rw [now] at one lidarCount imuCount ahead
  have stored := lidar.move .inputs
  have others : ∀ task, task ≠ .inputs → (sampling.lidarDistance.move .inputs).1.access task =
    sampling.lidarDistance.access task := fun task other => Guarded.move_frame other
  generalize sampling.lidarDistance.move .inputs = result at one stored others
  obtain ⟨shared, moved⟩ := result
  refine captured.stepped ?_ ?_ ⟨?_, ?_, ?_, ?_, ?_, ⟨d, distances_kept isD, ?_⟩, ⟨p, versions_kept isP, ?_⟩⟩
  all_goals
    cases moved
    all_goals
      obtain ⟨rfl, rfl⟩ := Prod.mk.inj one
  any_goals
    exact InputsFrame.mk rfl rfl rfl rfl (fun _ _ => rfl) others (le_refl i) (fun _ _ _ => rfl) fun _ _ _ => rfl
  all_goals
    simp_all [Sampling.horizon]

theorem Sampling.Captured.readImu (captured : sampling.Captured history l i) (now : sampling.inputs = .readImu)
    (one : inputsStep math sampling distance imuDataRaw false = (next, event)) :
    Continued sampling next history event l i l i := by
  obtain ⟨lidarCount, imuCount, ahead, -, -, ⟨d, isD, lidar⟩, ⟨p, isP, imu⟩, -⟩ := id captured
  unfold inputsStep at one
  rw [now] at one lidarCount imuCount ahead
  obtain ⟨rfl, rfl⟩ := Prod.mk.inj one
  refine captured.stepped (InputsFrame.alone ..) ?_ ⟨?_, ?_, ?_, ?_, ?_, ⟨d, distances_kept isD, lidar⟩,
    ⟨p, versions_kept isP, imu⟩⟩
  · simp [Sampling.horizon, now]
  all_goals
    simp_all

theorem Sampling.Captured.takeProcMx (captured : sampling.Captured history l i) {data : Vector φ imuProcSize}
    (now : sampling.inputs = .takeProcMx data)
    (one : inputsStep math sampling distance imuDataRaw false = (next, event)) :
    ∃ i', Continued sampling next history event l i l i' := by
  obtain ⟨lidarCount, imuCount, ahead, -, processed', ⟨d, isD, lidar⟩, ⟨p, isP, imu⟩, -⟩ := id captured
  unfold inputsStep at one
  rw [now] at one lidarCount imuCount ahead
  have pending := processed' data now
  cases entered : sampling.imuDataProc.enter .inputs (.storing data) false with
  | none =>
    simp only [entered] at one
    obtain ⟨rfl, rfl⟩ := Prod.mk.inj one
    exact ⟨i, captured.silent⟩
  | some shared =>
    simp only [entered] at one
    obtain ⟨rfl, rfl⟩ := Prod.mk.inj one
    have stored := imu.enter entered
    rw [result_storing] at stored
    refine ⟨i + 1, captured.stepped ?_ ?_ ⟨?_, ?_, ?_, ?_, ?_, ⟨d, distances_kept isD, lidar⟩,
      ⟨data, versions_kept pending, stored⟩⟩⟩
    · refine ⟨rfl, rfl, rfl, rfl, fun _ other => Guarded.enter_frame entered other, fun _ _ => rfl, Nat.le_succ i,
        fun _ _ inside => ?_, fun _ _ _ => rfl⟩
      -- nor are readings stored while somebody copies them
      rw [imu.excludes inside] at entered
      cases entered
    · simp [Sampling.horizon, now]
    all_goals
      simp_all

theorem Sampling.Captured.storeProc (captured : sampling.Captured history l i) (now : sampling.inputs = .storeProc)
    (one : inputsStep math sampling distance imuDataRaw false = (next, event)) :
    Continued sampling next history event l i l i := by
  obtain ⟨lidarCount, imuCount, ahead, -, -, ⟨d, isD, lidar⟩, ⟨p, isP, imu⟩, -⟩ := id captured
  unfold inputsStep at one
  rw [now] at one lidarCount imuCount ahead
  have stored := imu.move .inputs
  have others : ∀ task, task ≠ .inputs → (sampling.imuDataProc.move .inputs).1.access task =
    sampling.imuDataProc.access task := fun task other => Guarded.move_frame other
  generalize sampling.imuDataProc.move .inputs = result at one stored others
  obtain ⟨shared, moved⟩ := result
  refine captured.stepped ?_ ?_ ⟨?_, ?_, ?_, ?_, ?_, ⟨d, distances_kept isD, ?_⟩, ⟨p, versions_kept isP, ?_⟩⟩
  all_goals
    cases moved
    all_goals
      obtain ⟨rfl, rfl⟩ := Prod.mk.inj one
  any_goals
    exact InputsFrame.mk rfl rfl rfl rfl others (fun _ _ => rfl) (le_refl i) (fun _ _ _ => rfl) fun _ _ _ => rfl
  all_goals
    simp_all [Sampling.horizon]

theorem Sampling.Captured.inputs (captured : sampling.Captured history l i)
    (one : inputsStep math sampling distance imuDataRaw false = (next, event)) :
    ∃ l' i', Continued sampling next history event l i l' i' := by
  cases now : sampling.inputs with
  | waitStart => exact ⟨l, i, captured.waitStart now one⟩
  | readLidar => exact ⟨l, i, captured.readLidar now one⟩
  | takeLidarMx tempDistance =>
    obtain ⟨l', continued⟩ := captured.takeLidarMx now one
    exact ⟨l', i, continued⟩
  | storeLidar => exact ⟨l, i, captured.storeLidar now one⟩
  | readImu => exact ⟨l, i, captured.readImu now one⟩
  | takeProcMx data =>
    obtain ⟨i', continued⟩ := captured.takeProcMx now one
    exact ⟨l, i', continued⟩
  | storeProc => exact ⟨l, i, captured.storeProc now one⟩

end Inputs

/-! ### The control task -/

/-- A control step has its readings: they are those of one capture each, not far behind the last one. -/
def SamplingEvent.Near (gap : Nat) (history : List (SamplingEvent φ)) (l : Nat) (event : SamplingEvent φ) : Prop :=
  ∀ imu lidar, event = .stateRead imu lidar → ∃ i' distance, (versions history)[i']? = some imu ∧
    (distances history)[l]? = some distance ∧ lidar = (distance.toNat : φ) ∧ i' ≤ l ∧
      (distances history).length ≤ i' + gap + 1

/-- The captures behind a step of the control task, and what it has read of them. -/
structure Advanced (gap : Nat) (next : Sampling φ) (history : List (SamplingEvent φ)) (event : SamplingEvent φ)
    (l i : Nat) : Prop where
  captured : next.Captured (history ++ [event]) l i
  reads : next.Reads gap (history ++ [event]) l i
  near : event.Near gap history l

theorem near_silent : (SamplingEvent.silent : SamplingEvent φ).Near gap history l := fun _ _ same => nomatch same

theorem near_notified : (SamplingEvent.notified : SamplingEvent φ).Near gap history l := fun _ _ same => nomatch same

/-- The control task has read nothing that a control step works on. -/
@[simp] def SamplerPc.empty : SamplerPc → Bool
  | .copyImu | .takeLidar | .copyLidar => false
  | _ => true

theorem Sampling.reads_empty (empty : sampling.control.empty = true) : sampling.Reads gap history l i := by
  unfold Sampling.Reads
  cases now : sampling.control
  all_goals
    rw [now] at empty
    trivial

theorem Sampling.Captured.waits_on (captured : sampling.Captured history l i)
    (reads : sampling.Reads gap history l i) : Advanced gap sampling history .silent l i :=
  ⟨captured.silent.captured, captured.silent.reads gap reads, near_silent⟩

section Control
variable {stopped : Bool}

theorem Sampling.Captured.checkFlag (captured : sampling.Captured history l i) (now : sampling.control = .checkFlag)
    (one : samplerStep sampling stopped false = (next, event)) : Advanced gap next history event l i := by
  unfold samplerStep at one
  rw [now] at one
  cases stopped with
  | true =>
    obtain ⟨rfl, rfl⟩ := Prod.mk.inj one
    exact ⟨captured.unmeasured rfl rfl rfl id id captured.reporters, trivial, near_silent⟩
  | false =>
    obtain ⟨rfl, rfl⟩ := Prod.mk.inj one
    exact ⟨captured.unmeasured rfl rfl rfl id id captured.reporters, trivial, near_silent⟩

theorem Sampling.Captured.notify (captured : sampling.Captured history l i)
    (now : sampling.control = .notifyZero ∨ sampling.control = .notifyNext)
    (one : samplerStep sampling stopped false = (next, event)) : Advanced gap next history event l i := by
  unfold samplerStep at one
  rcases now with now | now
  all_goals
    rw [now] at one
    obtain ⟨rfl, rfl⟩ := Prod.mk.inj one
    exact ⟨captured.unmeasured rfl rfl rfl id id captured.reporters, trivial, near_notified⟩

theorem Sampling.Captured.enters_lidar (captured : sampling.Captured history l i) (control : SamplerPc)
    {lidarDistance : Guarded SamplingTask UInt32 1}
    (entered : sampling.lidarDistance.enter .control (.reading 0) false = some lidarDistance) :
    { sampling with lidarDistance, control }.Captured (history ++ [SamplingEvent.silent]) l i :=
  captured.unmeasured rfl rfl rfl (fun whole => whole.enter entered) id captured.reporters

theorem Sampling.Captured.enters_imu (captured : sampling.Captured history l i) (control : SamplerPc)
    {imuDataProc : Guarded SamplingTask φ imuProcSize}
    (entered : sampling.imuDataProc.enter .control (.reading 0) false = some imuDataProc) :
    { sampling with imuDataProc, control }.Captured (history ++ [SamplingEvent.silent]) l i :=
  captured.unmeasured rfl rfl rfl id (fun whole => whole.enter entered) fun _ copies =>
    captured.reporter_entered entered (by simp) copies

theorem Sampling.Captured.takeLidarZero (captured : sampling.Captured history l i)
    (reads : sampling.Reads gap history l i) (now : sampling.control = .takeLidarZero)
    (one : samplerStep sampling stopped false = (next, event)) : Advanced gap next history event l i := by
  unfold samplerStep at one
  rw [now] at one
  cases entered : sampling.lidarDistance.enter .control (.reading 0) false with
  | none =>
    simp only [entered] at one
    obtain ⟨rfl, rfl⟩ := Prod.mk.inj one
    exact captured.waits_on reads
  | some shared =>
    simp only [entered] at one
    obtain ⟨rfl, rfl⟩ := Prod.mk.inj one
    exact ⟨captured.enters_lidar _ entered, trivial, near_silent⟩

theorem Sampling.Captured.copyLidarZero (captured : sampling.Captured history l i)
    (now : sampling.control = .copyLidarZero) (one : samplerStep sampling stopped false = (next, event)) :
    Advanced gap next history event l i := by
  unfold samplerStep at one
  rw [now] at one
  have stays : ∀ {value}, sampling.lidarDistance.Consistent value →
    (sampling.lidarDistance.move .control).1.Consistent value := fun whole => whole.move .control
  generalize sampling.lidarDistance.move .control = result at one stays
  obtain ⟨shared, what⟩ := result
  cases what
  all_goals
    obtain ⟨rfl, rfl⟩ := Prod.mk.inj one
    refine ⟨captured.unmeasured rfl rfl rfl stays id captured.reporters, ?_, near_silent⟩
    exact Sampling.reads_empty (by simp)

theorem Sampling.Captured.takeImuZero (captured : sampling.Captured history l i)
    (reads : sampling.Reads gap history l i) (now : sampling.control = .takeImuZero)
    (one : samplerStep sampling stopped false = (next, event)) : Advanced gap next history event l i := by
  unfold samplerStep at one
  rw [now] at one
  cases entered : sampling.imuDataProc.enter .control (.reading 0) false with
  | none =>
    simp only [entered] at one
    obtain ⟨rfl, rfl⟩ := Prod.mk.inj one
    exact captured.waits_on reads
  | some shared =>
    simp only [entered] at one
    obtain ⟨rfl, rfl⟩ := Prod.mk.inj one
    exact ⟨captured.enters_imu _ entered, trivial, near_silent⟩

theorem Sampling.Captured.copyImuZero (captured : sampling.Captured history l i)
    (now : sampling.control = .copyImuZero) (one : samplerStep sampling stopped false = (next, event)) :
    Advanced gap next history event l i := by
  unfold samplerStep at one
  rw [now] at one
  have stays : ∀ {value}, sampling.imuDataProc.Consistent value →
    (sampling.imuDataProc.move .control).1.Consistent value := fun whole => whole.move .control
  have copies := fun reporter => captured.reporter_moved (show SamplingTask.reporter reporter ≠ .control by simp)
  generalize sampling.imuDataProc.move .control = result at one stays copies
  obtain ⟨shared, what⟩ := result
  cases what
  all_goals
    obtain ⟨rfl, rfl⟩ := Prod.mk.inj one
    refine ⟨captured.unmeasured rfl rfl rfl id stays copies, ?_, near_silent⟩
    exact Sampling.reads_empty (by simp)

/-- The copy is of the last capture from here on, whatever is measured meanwhile. -/
theorem Sampling.Captured.takeImu (captured : sampling.Captured history l i) (reads : sampling.Reads gap history l i)
    (now : sampling.control = .takeImu) (begins : sampling.horizon history ≤ i + gap + 1)
    (one : samplerStep sampling stopped false = (next, event)) : Advanced gap next history event l i := by
  obtain ⟨p, isP, -⟩ := captured.imu
  unfold samplerStep at one
  rw [now] at one
  cases entered : sampling.imuDataProc.enter .control (.reading 0) false with
  | none =>
    simp only [entered] at one
    obtain ⟨rfl, rfl⟩ := Prod.mk.inj one
    exact captured.waits_on reads
  | some shared =>
    simp only [entered] at one
    obtain ⟨rfl, rfl⟩ := Prod.mk.inj one
    refine ⟨captured.enters_imu _ entered, ?_, near_silent⟩
    exact ⟨(Sampling.horizon_snoc rfl).trans_le begins, p, 0, versions_kept isP, Guarded.enter_access entered,
      agree_zero⟩

theorem Sampling.Captured.copyImu (captured : sampling.Captured history l i) (reads : sampling.Reads gap history l i)
    (now : sampling.control = .copyImu) (one : samplerStep sampling stopped false = (next, event)) :
    Advanced gap next history event l i := by
  obtain ⟨p, isP, imu⟩ := captured.imu
  unfold samplerStep at one
  unfold Sampling.Reads at reads
  rw [now] at one reads
  obtain ⟨near, data, count, found, access, agree⟩ := reads
  obtain rfl := Option.some.inj (isP.symm.trans found)
  have copies := fun reporter => captured.reporter_moved (show SamplingTask.reporter reporter ≠ .control by simp)
  have near' : sampling.horizon (history ++ [.silent]) ≤ i + gap + 1 := (Sampling.horizon_snoc rfl).trans_le near
  rcases imu.copy access agree (by decide) with ⟨inside, what, access', agree'⟩ | ⟨what, agree'⟩
  · rw [Guarded.move_pair what] at one
    obtain ⟨rfl, rfl⟩ := Prod.mk.inj one
    refine ⟨captured.unmeasured rfl rfl rfl id (fun whole => whole.move .control) copies, ?_, near_silent⟩
    unfold Sampling.Reads
    simp only
    exact ⟨near', p, count + 1, versions_kept isP, access', agree'⟩
  · rw [Guarded.move_pair what] at one
    obtain ⟨rfl, rfl⟩ := Prod.mk.inj one
    refine ⟨captured.unmeasured rfl rfl rfl id (fun whole => whole.move .control) copies, ?_, near_silent⟩
    exact ⟨i, le_refl i, near', p, versions_kept isP, agree'⟩

theorem Sampling.Captured.takeLidar (captured : sampling.Captured history l i)
    (reads : sampling.Reads gap history l i) (now : sampling.control = .takeLidar)
    (one : samplerStep sampling stopped false = (next, event)) : Advanced gap next history event l i := by
  obtain ⟨d, isD, -⟩ := captured.lidar
  unfold samplerStep at one
  rw [now] at one
  cases entered : sampling.lidarDistance.enter .control (.reading 0) false with
  | none =>
    simp only [entered] at one
    obtain ⟨rfl, rfl⟩ := Prod.mk.inj one
    exact captured.waits_on reads
  | some shared =>
    simp only [entered] at one
    obtain ⟨rfl, rfl⟩ := Prod.mk.inj one
    unfold Sampling.Reads at reads
    rw [now] at reads
    obtain ⟨i', before, near, data, found, agree⟩ := reads
    have near' : sampling.horizon (history ++ [.silent]) ≤ i' + gap + 1 := (Sampling.horizon_snoc rfl).trans_le near
    refine ⟨captured.enters_lidar _ entered, ?_, near_silent⟩
    exact ⟨i', before, near', data, versions_kept found, agree, d, 0, distances_kept isD,
      Guarded.enter_access entered, fun none => absurd none (lt_irrefl 0)⟩

/-- The distance is the last one that was stored, and distances are stored before readings. -/
theorem Sampling.Captured.copyLidar (captured : sampling.Captured history l i)
    (reads : sampling.Reads gap history l i) (now : sampling.control = .copyLidar)
    (one : samplerStep sampling stopped false = (next, event)) : Advanced gap next history event l i := by
  obtain ⟨d, isD, lidar⟩ := captured.lidar
  have ordered := captured.stored_le
  unfold samplerStep at one
  unfold Sampling.Reads at reads
  rw [now] at one reads
  obtain ⟨i', before, near, data, found, agree, distance, count, isD', access, copied⟩ := reads
  obtain rfl := Option.some.inj (isD.symm.trans isD')
  by_cases inside : count < 1
  · obtain ⟨access', what⟩ := lidar.copies access inside
    rw [Guarded.move_pair what] at one
    obtain ⟨rfl, rfl⟩ := Prod.mk.inj one
    refine ⟨captured.unmeasured rfl rfl rfl (fun whole => whole.move .control) id captured.reporters, ?_, near_silent⟩
    unfold Sampling.Reads
    simp only
    refine ⟨i', before, ?_, data, versions_kept found, ?_, d, count + 1, distances_kept isD, access', fun _ => ?_⟩
    · exact (Sampling.horizon_snoc rfl).trans_le near
    · intro j below inside' room'
      rw [Vector.getElem_set_ne _ _ (by simp only [stateIdxZ, imuProcSize] at below ⊢; omega)]
      exact agree j below inside' room'
    · obtain rfl : count = 0 := by omega
      exact Vector.getElem_set_self _
  · obtain ⟨-, what⟩ := Guarded.move_done access inside
    rw [Guarded.move_pair what] at one
    obtain ⟨rfl, rfl⟩ := Prod.mk.inj one
    refine ⟨captured.unmeasured rfl rfl rfl (fun whole => whole.move .control) id captured.reporters, trivial,
      fun imu lidar' same => ?_⟩
    obtain ⟨rfl, rfl⟩ := SamplingEvent.stateRead.inj same
    rw [stateImu_of_agree agree]
    unfold Sampling.horizon at near
    exact ⟨i', d, found, isD, copied (by omega), before.trans ordered, by omega⟩

theorem Sampling.Captured.sampler (captured : sampling.Captured history l i) (reads : sampling.Reads gap history l i)
    (begins : sampling.control = .takeImu → sampling.horizon history ≤ i + gap + 1)
    (one : samplerStep sampling stopped false = (next, event)) : Advanced gap next history event l i := by
  cases now : sampling.control with
  | checkFlag => exact captured.checkFlag now one
  | notifyZero => exact captured.notify (.inl now) one
  | takeLidarZero => exact captured.takeLidarZero reads now one
  | copyLidarZero => exact captured.copyLidarZero now one
  | takeImuZero => exact captured.takeImuZero reads now one
  | copyImuZero => exact captured.copyImuZero now one
  | takeImu => exact captured.takeImu reads now (begins now) one
  | copyImu => exact captured.copyImu reads now one
  | takeLidar => exact captured.takeLidar reads now one
  | copyLidar => exact captured.copyLidar reads now one
  | notifyNext => exact captured.notify (.inr now) one

end Control

/-! ### Requests -/

theorem Sampling.Captured.reporterStep (captured : sampling.Captured history l i) {reporter : Reporter}
    (one : reporterStep sampling reporter false = (next, event)) : Continued sampling next history event l i l i ∧
      ∀ reporter' imu, event = .valueRead reporter' imu → (versions history)[i]? = some imu := by
  obtain ⟨p, isP, imu⟩ := captured.imu
  unfold TvcHopper.Vehicle.reporterStep at one
  cases now : sampling.reporter reporter with
  | idle =>
    rw [now] at one
    obtain ⟨rfl, rfl⟩ := Prod.mk.inj one
    exact ⟨captured.silent, fun _ _ same => nomatch same⟩
  | takeProcMx =>
    rw [now] at one
    cases entered : sampling.imuDataProc.enter (.reporter reporter) (.reading 0) false with
    | none =>
      simp only [entered] at one
      obtain ⟨rfl, rfl⟩ := Prod.mk.inj one
      exact ⟨captured.silent, fun _ _ same => nomatch same⟩
    | some shared =>
      simp only [entered] at one
      obtain ⟨rfl, rfl⟩ := Prod.mk.inj one
      refine ⟨⟨captured.unmeasured rfl rfl rfl id (fun whole => whole.enter entered) fun other copies => ?_,
        fun gap reads => ?_⟩, fun _ _ same => nomatch same⟩
      -- the other reporter copies on
      · by_cases here : other = reporter
        · subst here
          exact ⟨p, 0, isP, Guarded.enter_access entered, agree_zero⟩
        · simp only [Function.update_of_ne here] at copies
          exact captured.reporter_entered entered (by simpa using here) copies
      · exact reads.unmeasured rfl rfl (Guarded.enter_frame entered (by simp)) rfl rfl rfl rfl
  | copyProc =>
    rw [now] at one
    obtain ⟨data, count, found, access, agree⟩ := captured.reporters reporter now
    obtain rfl := Option.some.inj (isP.symm.trans found)
    have control : (sampling.imuDataProc.move (.reporter reporter)).1.access .control =
      sampling.imuDataProc.access .control := Guarded.move_frame (by simp)
    -- the copy gets one word further, or is complete
    rcases imu.copy access agree (le_refl _) with ⟨inside, what, access', agree'⟩ | ⟨what, agree'⟩
    · rw [Guarded.move_pair what] at one
      obtain ⟨rfl, rfl⟩ := Prod.mk.inj one
      refine ⟨⟨captured.unmeasured rfl rfl rfl id (fun whole => whole.move _) fun other copies => ?_,
        fun gap reads => ?_⟩, fun _ _ same => nomatch same⟩
      · by_cases here : other = reporter
        · subst here
          simp only [Function.update_self]
          exact ⟨p, count + 1, isP, access', agree'⟩
        · simp only [Function.update_of_ne here]
          exact captured.reporter_moved (by simpa using here) copies
      · exact reads.unmeasured rfl rfl control rfl rfl rfl rfl
    · rw [Guarded.move_pair what] at one
      obtain ⟨rfl, rfl⟩ := Prod.mk.inj one
      refine ⟨⟨captured.unmeasured rfl rfl rfl id (fun whole => whole.move _) fun other copies => ?_,
        fun gap reads => ?_⟩, fun reporter' imu' same => ?_⟩
      · by_cases here : other = reporter
        · subst here
          simp [Function.update_self] at copies
        · simp only [Function.update_of_ne here] at copies
          exact captured.reporter_moved (by simpa using here) copies
      · exact reads.unmeasured rfl rfl control rfl rfl rfl rfl
      · obtain ⟨rfl, rfl⟩ := SamplingEvent.valueRead.inj same
        have whole : sampling.value reporter = p := Vector.ext fun j inside => agree' j inside inside inside
        rw [whole, isP]

theorem Sampling.Captured.request (captured : sampling.Captured history l i) (reporter : Reporter) :
    Continued sampling { sampling with reporter := Function.update sampling.reporter reporter .takeProcMx } history
      .silent l i l i := by
  refine ⟨captured.unmeasured rfl rfl rfl id id fun other copies => ?_, fun gap reads => ?_⟩
  · by_cases here : other = reporter
    · subst here
      simp [Function.update_self] at copies
    · simp only [Function.update_of_ne here] at copies
      exact captured.reporters other copies
  · exact reads.unmeasured rfl rfl rfl rfl rfl rfl rfl

end Preserved

/-! ## Runs -/

section Runs
variable {φ : Type} [Field φ] [LinearOrder φ] {math : MathH φ} {sampling next final : Sampling φ}
  {history : List (SamplingEvent φ)} {event : SamplingEvent φ} {action : SamplingAction φ}
  {actions : List (SamplingAction φ)}

/-- What is read is whole: the readings of a control step are of one capture and not more than two captures old, and
its distance is of the same capture or a later one; a value is the last that was stored. -/
def SamplingEvent.Whole (before : List (SamplingEvent φ)) : SamplingEvent φ → Prop
  | .stateRead imu lidar => ∃ i j distance, (versions before)[i]? = some imu ∧
      (distances before)[j]? = some distance ∧ lidar = (distance.toNat : φ) ∧ i ≤ j ∧
        (distances before).length ≤ i + 3
  | .valueRead _ imu => ∃ i, (versions before)[i]? = some imu ∧ (versions before).length ≤ i + 2
  | _ => True

theorem inputsStep_unread {distance : UInt32} {imuDataRaw : Vector φ imuRawSize} {timedOut : Bool}
    (one : inputsStep math sampling distance imuDataRaw timedOut = (next, event)) :
    (∀ imu lidar, event ≠ .stateRead imu lidar) ∧ ∀ reporter imu, event ≠ .valueRead reporter imu := by
  unfold inputsStep at one
  constructor
  all_goals
    intro _ _ same
    subst same
    split at one
    all_goals
      first
        | cases one
        | split at one
          all_goals cases one

omit [LinearOrder φ] in
theorem samplerStep_unread {stopped timedOut : Bool} (one : samplerStep sampling stopped timedOut = (next, event))
    (reporter : Reporter) (imu : Vector φ imuProcSize) : event ≠ .valueRead reporter imu := by
  intro same
  subst same
  unfold samplerStep at one
  split at one
  all_goals
    first
      | cases one
      | split at one
        all_goals cases one

omit [LinearOrder φ] [Field φ] in
theorem reporterStep_unread {reporter : Reporter} {timedOut : Bool}
    (one : reporterStep sampling reporter timedOut = (next, event)) (imu : Vector φ imuProcSize) (lidar : φ) :
    event ≠ .stateRead imu lidar := by
  intro same
  subst same
  unfold reporterStep at one
  split at one
  all_goals
    first
      | cases one
      | split at one
        all_goals cases one

theorem Sampling.Captured.step {gap l i : Nat} (captured : sampling.Captured history l i)
    (reads : sampling.Reads gap history l i)
    (begins : sampling.control = .takeImu → sampling.horizon history ≤ i + gap + 1)
    (inTime : action.timedOut = false) (one : samplingStep math sampling action = .ok (next, event)) :
    (∃ l' i', next.Captured (history ++ [event]) l' i' ∧ next.Reads gap (history ++ [event]) l' i') ∧
      event.Near gap history l ∧ ∀ reporter imu, event = .valueRead reporter imu → (versions history)[i]? = some imu := by
  cases action with
  | inputs distance imuDataRaw timedOut =>
    obtain rfl : timedOut = false := inTime
    have made := Except.ok.inj one
    obtain ⟨l', i', continued⟩ := captured.inputs made
    obtain ⟨noState, noValue⟩ := inputsStep_unread made
    exact ⟨⟨l', i', continued.captured, continued.reads gap reads⟩, fun imu lidar same => absurd same (noState imu lidar),
      fun reporter imu same => absurd same (noValue reporter imu)⟩
  | control stopped timedOut =>
    obtain rfl : timedOut = false := inTime
    have advanced := captured.sampler reads begins (Except.ok.inj one)
    exact ⟨⟨l, i, advanced.captured, advanced.reads⟩, advanced.near,
      fun reporter imu same => absurd same (samplerStep_unread (Except.ok.inj one) reporter imu)⟩
  | request reporter =>
    unfold samplingStep at one
    simp only at one
    split at one
    · obtain ⟨rfl, rfl⟩ := Prod.mk.inj (Except.ok.inj one)
      have continued := captured.request reporter
      exact ⟨⟨l, i, continued.captured, continued.reads gap reads⟩, near_silent, fun _ _ same => nomatch same⟩
    · obtain ⟨rfl, rfl⟩ := Prod.mk.inj (Except.ok.inj one)
      have continued := captured.silent
      exact ⟨⟨l, i, continued.captured, continued.reads gap reads⟩, near_silent, fun _ _ same => nomatch same⟩
  | reporter reporter timedOut =>
    obtain rfl : timedOut = false := inTime
    obtain ⟨continued, read⟩ := captured.reporterStep (Except.ok.inj one)
    exact ⟨⟨l, i, continued.captured, continued.reads gap reads⟩,
      fun imu lidar same => absurd same (reporterStep_unread (Except.ok.inj one) imu lidar), read⟩

theorem everyStep_of_forall {σ ι ω ε : Type} {step : σ → ι → Except ε (σ × ω)} {Occurs : ι → Prop}
    {state : σ} {inputs : List ι} (occurs : ∀ input ∈ inputs, Occurs input) :
    EveryStep step (fun _ input => Occurs input) state inputs := by
  induction inputs generalizing state with
  | nil => trivial
  | cons input rest ih =>
    obtain ⟨here, later⟩ := List.forall_mem_cons.mp occurs
    cases one : step state input with
    | error fault => simp only [EveryStep, one]
    | ok result =>
      simp only [EveryStep, one]
      exact ⟨here, ih later⟩

/-- The captures so far, and that what was read is whole. -/
structure Sampled (history : List (SamplingEvent φ)) (sampling : Sampling φ) : Prop where
  captured : ∃ l i, sampling.Captured history l i ∧ sampling.Reads 2 history l i
  whole : ∀ before event after, history = before ++ event :: after → event.Whole before

omit [LinearOrder φ] in
theorem sampled_init (value : Reporter → Vector φ imuProcSize) : Sampled [] (samplingInit value) where
  captured := by
    refine ⟨0, 0, ⟨rfl, rfl, rfl, (fun _ same => nomatch same), (fun _ same => nomatch same), ⟨0, rfl, ?_⟩,
      ⟨_, rfl, ?_⟩, fun _ same => nomatch same⟩, trivial⟩
    · exact Guarded.consistent_idle _
    · exact Guarded.consistent_idle _
  whole before event after same := by simp at same

theorem Sampled.step (sampled : Sampled history sampling) (inTime : action.timedOut = false)
    (one : samplingStep math sampling action = .ok (next, event)) : Sampled (history ++ [event]) next := by
  obtain ⟨l, i, captured, reads⟩ := sampled.captured
  obtain ⟨captured', state, value⟩ := captured.step reads (fun _ => captured.horizon_le) inTime one
  refine ⟨captured', fun before event' after same => ?_⟩
  rcases snoc_eq_append_cons.mp same with ⟨rfl, rfl, rfl⟩ | ⟨earlier, rfl, rfl⟩
  -- what the step reads is judged by the history before it
  · cases event' with
    | stateRead imu lidar =>
      obtain ⟨i', distance, isImu, isDistance, lidarIs, ordered, near⟩ := state imu lidar rfl
      exact ⟨i', l, distance, isImu, isDistance, lidarIs, ordered, near⟩
    | valueRead reporter imu =>
      have imuCount := captured.imuCount
      refine ⟨i, value reporter imu rfl, ?_⟩
      cases now : sampling.inputs
      all_goals
        simp only [now, InputsPc.unstoredImu] at imuCount
        omega
    | _ => trivial
  · exact sampled.whole before event' earlier rfl

theorem sampled_run (value : Reporter → Vector φ imuProcSize) (inTime : ∀ action ∈ actions, action.timedOut = false)
    (done : run (samplingStep math) (samplingInit value) actions = .ok (final, history)) : Sampled history final := by
  apply run_induction_allowed Sampled ?_ [] (sampled_init value) (everyStep_of_forall inTime) done
  intro history sampling action next event sampled inTime one
  exact sampled.step inTime one

/-- In every interleaving, as long as no wait for a mutex times out: what a control step and a request read is whole
and at most two captures old. -/
theorem readings_whole (value : Reporter → Vector φ imuProcSize)
    (inTime : ∀ action ∈ actions, action.timedOut = false)
    (done : run (samplingStep math) (samplingInit value) actions = .ok (final, history))
    (before : List (SamplingEvent φ)) (event : SamplingEvent φ) (after : List (SamplingEvent φ))
    (same : history = before ++ event :: after) : event.Whole before := by
  have sampled := sampled_run value inTime done
  exact sampled.whole before event after same

/-- The hub is level and turns. -/
def levelRaw (gyro : ℚ) : Vector ℚ imuRawSize := #v[0, 0, 0, gyro, gyro, gyro, 0, 0, 0, 1]

/-- `math.h` as far as a level attitude needs it. -/
def levelMath : MathH ℚ := ⟨fun x => x, fun y _ => y, fun x => x⟩

def inputsSteps (count : Nat) (distance : UInt32) (gyro : ℚ) : List (SamplingAction ℚ) :=
  .replicate count (.inputs distance (levelRaw gyro) false)

def controlSteps (count : Nat) (stopped : Bool) : List (SamplingAction ℚ) := .replicate count (.control stopped false)

/-- Two captures go on between the copy of the attitude and that of the distance. -/
def overtaken : List (SamplingAction ℚ) :=
  controlSteps 13 true ++ inputsSteps 5 100 1 ++ controlSteps 21 false ++ inputsSteps 9 100 1 ++
    inputsSteps 5 200 2 ++ controlSteps 3 false

/-- A control step reads an attitude two captures old. -/
theorem readings_whole_overtaken :
    ∃ final before, run (samplingStep levelMath) (samplingInit fun _ => .replicate _ 0) overtaken =
        .ok (final, before ++ [.stateRead (.replicate _ 0) 200]) ∧
      distances before = [0, 100, 200] ∧ (SamplingEvent.stateRead (.replicate _ 0) (200 : ℚ)).Whole before := by
  obtain ⟨final, history, done, checked⟩ := run_checked (samplingStep levelMath)
    (samplingInit fun _ => .replicate _ 0) overtaken
    (fun _ history => history.getLast? = some (.stateRead (.replicate _ 0) 200) ∧
      distances history.dropLast = [0, 100, 200]) (by decide +kernel)
  obtain ⟨last, measured⟩ := of_decide_eq_true checked
  have split := List.dropLast_append_getLast? _ last
  refine ⟨final, history.dropLast, by rw [split]; exact done, measured, ?_⟩
  exact readings_whole _ (by decide +kernel) done _ _ [] split.symm

/-- The second capture does not get the mutex in time and stores its readings between two words of a copy. -/
def overrun : List (SamplingAction ℚ) :=
  controlSteps 2 true ++ inputsSteps 14 100 1 ++ controlSteps 29 false ++
    .replicate 14 (.inputs 200 (levelRaw 2) true) ++ controlSteps 6 false

/-- Without the mutex, a control step reads a mixture of two captures. -/
theorem readings_torn :
    ∃ final before, run (samplingStep levelMath) (samplingInit fun _ => .replicate _ 0) overrun =
        .ok (final, before ++ [.stateRead #v[0, 0, 0, 1, 2, 2] 200]) ∧
      ¬(SamplingEvent.stateRead #v[0, 0, 0, 1, 2, 2] (200 : ℚ)).Whole before := by
  obtain ⟨final, history, done, checked⟩ := run_checked (samplingStep levelMath)
    (samplingInit fun _ => .replicate _ 0) overrun
    (fun _ history => history.getLast? = some (.stateRead #v[0, 0, 0, 1, 2, 2] 200) ∧
      #v[0, 0, 0, 1, 2, 2] ∉ versions history.dropLast) (by decide +kernel)
  obtain ⟨last, mixed⟩ := of_decide_eq_true checked
  refine ⟨final, history.dropLast, by rw [List.dropLast_append_getLast? _ last]; exact done, ?_⟩
  rintro ⟨i, j, distance, isImu, -⟩
  exact mixed (List.mem_of_getElem? isImu)

/-! ## Fresh readings -/

/-- The control task is reading for a control step. -/
def SamplerPc.reading : SamplerPc → Bool
  | .takeImu | .copyImu | .takeLidar | .copyLidar => true
  | _ => false

omit [LinearOrder φ] in
theorem samplerStep_reading (reading : sampling.control.reading = true) {stopped timedOut : Bool}
    (one : samplerStep sampling stopped timedOut = (next, event)) :
    next.inputs = sampling.inputs ∧ next.startCaptureSem = sampling.startCaptureSem ∧ event.distance = none ∧
      event.data = none ∧ (next.control.reading = true ∨ ∃ imu lidar, event = .stateRead imu lidar) := by
  unfold samplerStep at one
  cases now : sampling.control
  all_goals
    rw [now] at one reading
  any_goals
    exact Bool.noConfusion reading
  all_goals
    simp only at one
    split at one
    all_goals
      obtain ⟨rfl, rfl⟩ := Prod.mk.inj one
      simp [SamplerPc.reading, now]

omit [LinearOrder φ] [Field φ] in
theorem reporterStep_frame {reporter : Reporter} {timedOut : Bool}
    (one : reporterStep sampling reporter timedOut = (next, event)) :
    next.inputs = sampling.inputs ∧ next.startCaptureSem = sampling.startCaptureSem ∧ event.distance = none ∧
      event.data = none ∧ next.control = sampling.control := by
  unfold reporterStep at one
  split at one
  · obtain ⟨rfl, rfl⟩ := Prod.mk.inj one
    exact ⟨rfl, rfl, rfl, rfl, rfl⟩
  all_goals
    split at one
    all_goals
      obtain ⟨rfl, rfl⟩ := Prod.mk.inj one
      exact ⟨rfl, rfl, rfl, rfl, rfl⟩

/-- While the control task reads, no capture is going on and none is asked for. -/
structure Waiting (earlier part : List (SamplingEvent φ)) (sampling : Sampling φ) : Prop where
  inputs : sampling.inputs = .waitStart
  answered : sampling.startCaptureSem.available = false
  reading : sampling.control.reading = true
  distances : distances (earlier ++ part) = distances earlier
  versions : versions (earlier ++ part) = versions earlier
  captured : ∃ l i, sampling.Captured (earlier ++ part) l i ∧ sampling.Reads 0 (earlier ++ part) l i

/-- The readings of the last capture. -/
def Latest (earlier : List (SamplingEvent φ)) (imu : Vector φ imuProcSize) (lidar : φ) : Prop :=
  (versions earlier).getLast? = some imu ∧
    ∃ distance, (distances earlier).getLast? = some distance ∧ lidar = (distance.toNat : φ)

theorem Waiting.step {earlier part : List (SamplingEvent φ)} (waiting : Waiting earlier part sampling)
    (inTime : action.timedOut = false) (one : samplingStep math sampling action = .ok (next, event)) :
    ((∀ imu lidar, event ≠ .stateRead imu lidar) → Waiting earlier (part ++ [event]) next) ∧
      ∀ imu lidar, event = .stateRead imu lidar → Latest earlier imu lidar := by
  obtain ⟨l, i, captured, reads⟩ := waiting.captured
  have lidarCount := captured.lidarCount
  have imuCount := captured.imuCount
  have ahead := captured.ahead
  rw [waiting.inputs] at lidarCount imuCount ahead
  simp only [InputsPc.unstoredLidar, InputsPc.unstoredImu, InputsPc.ahead, Nat.add_zero] at lidarCount imuCount ahead
  have begins : sampling.horizon (earlier ++ part) ≤ i + 0 + 1 := by
    simp only [Sampling.horizon, waiting.inputs, waiting.answered, InputsPc.begun, Bool.toNat_false]
    omega
  obtain ⟨captured', state, -⟩ := captured.step reads (fun _ => begins) inTime one
  -- only the control task does anything that matters, and it gives no notification yet
  have frame : next.inputs = sampling.inputs ∧ next.startCaptureSem = sampling.startCaptureSem ∧
      event.distance = none ∧ event.data = none ∧
      (next.control.reading = true ∨ ∃ imu lidar, event = .stateRead imu lidar) := by
    cases action with
    | inputs distance imuDataRaw timedOut =>
      have made := Except.ok.inj one
      unfold inputsStep at made
      rw [waiting.inputs] at made
      simp only [BinarySemaphore.take, waiting.answered] at made
      obtain ⟨rfl, rfl⟩ := Prod.mk.inj made
      exact ⟨rfl, rfl, rfl, rfl, .inl waiting.reading⟩
    | control stopped timedOut => exact samplerStep_reading waiting.reading (Except.ok.inj one)
    | request reporter =>
      unfold samplingStep at one
      simp only at one
      split at one
      all_goals
        obtain ⟨rfl, rfl⟩ := Prod.mk.inj (Except.ok.inj one)
        exact ⟨rfl, rfl, rfl, rfl, .inl waiting.reading⟩
    | reporter reporter timedOut =>
      obtain ⟨inputs, sem, noDistance, noData, control⟩ := reporterStep_frame (Except.ok.inj one)
      exact ⟨inputs, sem, noDistance, noData, .inl (by rw [control]; exact waiting.reading)⟩
  obtain ⟨inputs, sem, noDistance, noData, control⟩ := frame
  refine ⟨fun unread => ?_, fun imu lidar same => ?_⟩
  · refine ⟨inputs.trans waiting.inputs, by rw [sem]; exact waiting.answered, ?_, ?_, ?_, ?_⟩
    · rcases control with reading | ⟨imu, lidar, same⟩
      · exact reading
      · exact absurd same (unread imu lidar)
    · rw [← List.append_assoc, distances_snoc_none noDistance, waiting.distances]
    · rw [← List.append_assoc, versions_snoc_none noData, waiting.versions]
    · rw [← List.append_assoc]
      exact captured'
  · obtain ⟨i', distance, isImu, isDistance, lidarIs, ordered, near⟩ := state imu lidar same
    rw [waiting.distances] at isDistance lidarCount near ahead
    rw [waiting.versions] at isImu imuCount ahead
    refine ⟨?_, distance, ?_, lidarIs⟩
    · rw [List.getLast?_eq_getElem?, ← isImu]
      congr 1
      omega
    · rw [List.getLast?_eq_getElem?, ← isDistance]
      congr 1
      omega

/-- No control step has read its state. -/
def Unread (part : List (SamplingEvent φ)) : Prop := ∀ imu lidar, .stateRead imu lidar ∉ part

/-- Up to the first state that is read, which is the last capture. -/
structure Fresh (earlier part : List (SamplingEvent φ)) (sampling : Sampling φ) : Prop where
  waiting : Unread part → Waiting earlier part sampling
  latest : ∀ before imu lidar after, part = before ++ .stateRead imu lidar :: after → Unread before →
    Latest earlier imu lidar

theorem Fresh.step {earlier part : List (SamplingEvent φ)} (fresh : Fresh earlier part sampling)
    (inTime : action.timedOut = false) (one : samplingStep math sampling action = .ok (next, event)) :
    Fresh earlier (part ++ [event]) next := by
  constructor
  · intro unread
    have before : Unread part := fun imu lidar isRead => unread imu lidar (List.mem_append_left _ isRead)
    apply ((fresh.waiting before).step inTime one).1
    intro imu lidar same
    exact unread imu lidar (by simp [same])
  · intro before imu lidar after same unread
    rcases snoc_eq_append_cons.mp same with ⟨-, rfl, isRead⟩ | ⟨behind, -, rfl⟩
    · exact ((fresh.waiting unread).step inTime one).2 imu lidar isRead.symm
    · exact fresh.latest before imu lidar behind rfl unread

omit [LinearOrder φ] in
/-- A control step begins when the last notification was answered and its capture is stored. -/
theorem Sampled.waiting {earlier : List (SamplingEvent φ)} (sampled : Sampled earlier sampling)
    (waits : sampling.inputs = .waitStart) (answered : sampling.startCaptureSem.available = false)
    (begins : sampling.control = .takeImu) : Waiting earlier [] sampling := by
  obtain ⟨l, i, captured, -⟩ := sampled.captured
  have reads : sampling.Reads 0 earlier l i := by
    unfold Sampling.Reads
    rw [begins]
    trivial
  have same : earlier ++ [] = earlier := List.append_nil earlier
  rw [← same] at captured reads
  exact ⟨waits, answered, by rw [begins]; rfl, by rw [same], by rw [same], l, i, captured, reads⟩

/-- In every interleaving: a control step that begins when no notification is unanswered and no capture is going on
reads the distance and the attitude of the last capture. -/
theorem readings_fresh (value : Reporter → Vector φ imuProcSize) {first rest : List (SamplingAction φ)}
    {middle : Sampling φ} {earlier before after : List (SamplingEvent φ)} {imu : Vector φ imuProcSize} {lidar : φ}
    (inTime : ∀ action ∈ first ++ rest, action.timedOut = false)
    (done : run (samplingStep math) (samplingInit value) first = .ok (middle, earlier))
    (waits : middle.inputs = .waitStart) (answered : middle.startCaptureSem.available = false)
    (begins : middle.control = .takeImu)
    (later : run (samplingStep math) middle rest = .ok (final, before ++ .stateRead imu lidar :: after))
    (unread : Unread before) :
    Latest earlier imu lidar ∧ (distances earlier).length = (versions earlier).length := by
  obtain ⟨inTime, inTime'⟩ := List.forall_mem_append.mp inTime
  have sampled := sampled_run value inTime done
  have start := sampled.waiting waits answered begins
  have fresh : Fresh earlier ([] ++ (before ++ .stateRead imu lidar :: after)) final := by
    have nothing : Fresh earlier [] middle := ⟨fun _ => start, fun before imu lidar after same => by simp at same⟩
    apply run_induction_allowed (Fresh earlier) ?_ [] nothing (everyStep_of_forall inTime') later
    intro part sampling action next event fresh inTime one
    exact fresh.step inTime one
  refine ⟨fresh.latest before imu lidar after rfl unread, ?_⟩
  obtain ⟨l, i, captured, -⟩ := sampled.captured
  have ahead := captured.ahead
  rw [waits] at ahead
  exact ahead

/-- The control loop waits for the capture before it takes its zeros. -/
def rested : List (SamplingAction ℚ) := controlSteps 2 true ++ inputsSteps 14 100 1 ++ controlSteps 11 false

theorem readings_fresh_rested :
    ∃ middle earlier final before, run (samplingStep levelMath) (samplingInit fun _ => .replicate _ 0) rested =
        .ok (middle, earlier) ∧
      run (samplingStep levelMath) middle (controlSteps 11 false) =
        .ok (final, before ++ [.stateRead #v[0, 0, 0, 1, 1, 1] 100]) ∧
      Latest earlier #v[0, 0, 0, 1, 1, 1] 100 ∧ (distances earlier).length = (versions earlier).length := by
  obtain ⟨middle, earlier, done, checked⟩ := run_checked (samplingStep levelMath)
    (samplingInit fun _ => .replicate _ 0) rested (fun middle _ => middle.inputs = .waitStart ∧
      middle.startCaptureSem.available = false ∧ middle.control = .takeImu) (by decide +kernel)
  obtain ⟨waits, answered, begins⟩ := of_decide_eq_true checked
  obtain ⟨final, outputs, both, checked'⟩ := run_checked (samplingStep levelMath)
    (samplingInit fun _ => .replicate _ 0) (rested ++ controlSteps 11 false)
    (fun _ outputs => outputs.drop 27 = .replicate 10 .silent ++ [.stateRead #v[0, 0, 0, 1, 1, 1] 100])
    (by decide +kernel)
  obtain ⟨middle', earlier', later, done', step, rfl⟩ := run_append_eq_ok.mp both
  rw [done] at done'
  obtain ⟨rfl, rfl⟩ := Prod.mk.inj (Except.ok.inj done')
  have length : earlier.length = 27 := (run_length done).trans (by decide)
  have read := of_decide_eq_true checked'
  rw [List.drop_left' length] at read
  subst read
  refine ⟨middle, earlier, final, .replicate 10 .silent, done, step, ?_⟩
  apply readings_fresh _ (by decide +kernel) done waits answered begins step
  intro imu lidar isRead
  simp at isRead

end Runs

end TvcHopper.Vehicle
