import TvcHopper.Machine.Execution
import TvcHopper.Vehicle.Steps

/-! Stopping the control loop.

A stop sets the flag and takes the start semaphore. While the semaphore is away
and the flag is set the controller can enter one step at most, the one it is on
its way to. But it takes the semaphore and gives it back in two steps, and a
stop that comes between the two does not get it.
-/

set_option autoImplicit false

namespace TvcHopper.Vehicle
open Machine Spp

section Steps
variable {vehicle vehicle' : VehicleState} {event : VehicleEvent}

/-! ## Behind a stop -/

/-- The steps that the controller is on its way to, whatever the flag says. -/
def stepsAhead : HoverPc → Nat
  | .giveStartSem | .resetControls | .takeZero | .giveFlagMx | .enterStep => 1
  | _ => 0

theorem stepsAhead_le (place : HoverPc) : stepsAhead place ≤ 1 := by
  unfold stepsAhead
  split
  all_goals decide

/-- The vehicle behind a stop since which no start was called and `entered` steps were entered. -/
structure StoppedState (vehicle : VehicleState) (entered : Nat) : Prop where
  flag : vehicle.stopFlag = true
  away : vehicle.controlsStartSem.available = false
  notTaken : vehicle.hover ≠ .giveStartSem
  noStart : vehicle.comms.isStart = false
  once : entered + stepsAhead vehicle.hover ≤ 1

/-- Behind the access to the flag a stop has set it. -/
def FlagSet (vehicle : VehicleState) : Prop :=
  vehicle.comms = .stopGiveMx ∨ vehicle.comms = .stopTakeSem → vehicle.stopFlag = true

def entries (event : VehicleEvent) : Nat := if event = .stepEntered then 1 else 0

theorem count_snoc (events : List VehicleEvent) (event : VehicleEvent) :
    (events ++ [event]).count .stepEntered = events.count .stepEntered + entries event := by
  rw [List.count_append, List.count_singleton, entries]
  by_cases entered : event = .stepEntered
  · simp [entered]
  · simp [entered]

theorem StoppedState.hoverStep {entered : Nat} (stopped : StoppedState vehicle entered) (readings : Readings)
    (timedOut : Bool) :
    StoppedState (hoverStep vehicle readings timedOut).1
      (entered + entries (hoverStep vehicle readings timedOut).2) := by
  obtain ⟨flag, away, notTaken, noStart, once⟩ := stopped
  cases place : vehicle.hover with
  | takeFlagMx =>
    rw [place] at once
    unfold Vehicle.hoverStep
    rw [place]
    cases vehicle.stopFlagMx.await timedOut with
    | none => exact ⟨flag, away, notTaken, noStart, by rw [place]; exact once⟩
    | some mx => exact ⟨flag, away, nofun, noStart, once⟩
  | checkFlag =>
    rw [place] at once
    simp only [Vehicle.hoverStep, place, flag, if_true]
    exact ⟨rfl, away, nofun, noStart, once⟩
  | takeStartSem =>
    rw [place] at once
    simp only [Vehicle.hoverStep, place, BinarySemaphore.take, away]
    exact ⟨flag, away, notTaken, noStart, by rw [place]; exact once⟩
  | giveStartSem => exact absurd place notTaken
  | releaseFlagMx | idleOutput | updatePwm | resetControls | takeZero | giveFlagMx | enterStep | programEsc _
    | finishStep =>
    rw [place] at once
    simp only [Vehicle.hoverStep, place]
    exact ⟨flag, away, nofun, noStart, once⟩

theorem StoppedState.commsStep {entered : Nat} (stopped : StoppedState vehicle entered) (timedOut : Bool) :
    StoppedState (commsStep vehicle timedOut).1 entered := by
  obtain ⟨flag, away, notTaken, noStart, once⟩ := stopped
  cases place : vehicle.comms with
  | idle =>
    simp only [Vehicle.commsStep, place]
    exact ⟨flag, away, notTaken, noStart, once⟩
  | stopTakeMx =>
    unfold Vehicle.commsStep
    rw [place]
    cases vehicle.stopFlagMx.await timedOut with
    | none => exact ⟨flag, away, notTaken, noStart, once⟩
    | some mx => exact ⟨flag, away, notTaken, rfl, once⟩
  | stopSetFlag =>
    simp only [Vehicle.commsStep, place]
    exact ⟨rfl, away, notTaken, rfl, once⟩
  | stopGiveMx =>
    simp only [Vehicle.commsStep, place]
    exact ⟨flag, away, notTaken, rfl, once⟩
  | stopTakeSem =>
    simp only [Vehicle.commsStep, place]
    exact ⟨flag, rfl, notTaken, rfl, once⟩
  | startTakeMx | startClearFlag | startGiveMx | startGiveSem =>
    rw [place] at noStart
    cases noStart

theorem WriteOutcome.stopped {entered : Nat} (written : WriteOutcome vehicle vehicle' event)
    (stopped : StoppedState vehicle entered) (other : event ≠ .startCalled) : StoppedState vehicle' entered := by
  obtain ⟨flag, away, notTaken, noStart, once⟩ := stopped
  cases written with
  | start same called => exact absurd called other
  | stop same called => exact same ▸ ⟨flag, away, notTaken, rfl, once⟩
  | programmed pulse same made => exact same ▸ ⟨flag, away, notTaken, noStart, once⟩
  | tuned control servoPositions status same made => exact same ▸ ⟨flag, away, notTaken, noStart, once⟩

theorem WriteOutcome.entries (written : WriteOutcome vehicle vehicle' event) : entries event = 0 := by
  cases written with
  | start _ made | stop _ made | programmed _ _ made | tuned _ _ _ _ made => exact made ▸ rfl

/-- No step but the call of a start ends the time behind a stop. -/
theorem StoppedState.step {entered : Nat} {action : VehicleAction} (stopped : StoppedState vehicle entered)
    (done : vehicleStep vehicle action = .ok (vehicle', event)) (other : event ≠ .startCalled) :
    StoppedState vehicle' (entered + entries event) := by
  cases vehicleStep_outcome done with
  | waits id value same silent => exact same ▸ silent ▸ stopped
  | written id value idle outcome =>
    rw [outcome.entries]
    exact outcome.stopped stopped other
  | comms timedOut same made =>
    have none : entries event = 0 := if_neg (made ▸ (commsStep_frame vehicle timedOut).notEntered)
    rw [none, same]
    exact stopped.commsStep timedOut
  | hover readings timedOut same made =>
    rw [same, made]
    exact stopped.hoverStep readings timedOut

theorem FlagSet.step {action : VehicleAction} (set : FlagSet vehicle)
    (done : vehicleStep vehicle action = .ok (vehicle', event)) : FlagSet vehicle' := by
  cases vehicleStep_outcome done with
  | waits id value same silent => exact same ▸ set
  | written id value idle outcome =>
    cases outcome with
    | start same called | stop same called => exact same ▸ (fun behind => by cases behind <;> contradiction)
    | programmed pulse same made => exact same ▸ set
    | tuned control servoPositions status same made => exact same ▸ set
  | hover readings timedOut same made =>
    have frame := hoverStep_frame vehicle readings timedOut
    unfold FlagSet
    rw [same, frame.stopFlag, frame.comms]
    exact set
  | comms timedOut same made =>
    rw [same]
    unfold FlagSet commsStep
    cases place : vehicle.comms with
    | stopSetFlag => exact fun _ => rfl
    | stopGiveMx => exact fun _ => set (.inl place)
    | idle =>
      intro behind
      rw [place] at behind
      cases behind <;> contradiction
    | startTakeMx | stopTakeMx =>
      cases vehicle.stopFlagMx.await timedOut with
      | none =>
        intro behind
        rw [place] at behind
        cases behind <;> contradiction
      | some mx => exact fun behind => by cases behind <;> contradiction
    | startClearFlag | startGiveMx | startGiveSem | stopTakeSem => exact fun behind => by cases behind <;> contradiction

end Steps

/-! ## Runs -/

/-- Between the return of a stop and the next start the controller enters at most one step. -/
def StopsControl (events : List VehicleEvent) : Prop :=
  ∀ behind, Since .stopReturned .startCalled events behind → behind.count .stepEntered ≤ 1

/-- A stop does not try to take the start semaphore while the controller has it. -/
def StopGetsSem (vehicle : VehicleState) : VehicleAction → Prop
  | .comms _ => vehicle.comms = .stopTakeSem → vehicle.hover ≠ .giveStartSem
  | _ => True

instance (vehicle : VehicleState) (action : VehicleAction) : Decidable (StopGetsSem vehicle action) :=
  match action with
  | .comms _ => inferInstanceAs (Decidable (vehicle.comms = .stopTakeSem → vehicle.hover ≠ .giveStartSem))
  | .write _ _ | .hover _ _ => .isTrue trivial

/-- What is true of a run whose stops all get the semaphore. -/
structure Stops (events : List VehicleEvent) (vehicle : VehicleState) : Prop where
  flagSet : FlagSet vehicle
  stopped : ∀ behind, Since .stopReturned .startCalled events behind →
    StoppedState vehicle (behind.count .stepEntered)

theorem Stops.step {events : List VehicleEvent} {vehicle vehicle' : VehicleState} {action : VehicleAction}
    {event : VehicleEvent} (stops : Stops events vehicle) (gets : StopGetsSem vehicle action)
    (done : vehicleStep vehicle action = .ok (vehicle', event)) : Stops (events ++ [event]) vehicle' := by
  refine ⟨stops.flagSet.step done, fun behind since => ?_⟩
  rcases since_snoc.mp since with ⟨rfl, returned⟩ | ⟨earlier, rfl, other, since⟩
  · subst returned
    obtain ⟨place, ⟨timedOut, rfl⟩, rfl⟩ := stopReturned_step done
    refine ⟨stops.flagSet (.inr place), rfl, gets place, rfl, ?_⟩
    rw [List.count_nil, Nat.zero_add]
    exact stepsAhead_le vehicle.hover
  · rw [count_snoc]
    exact (stops.stopped earlier since).step done other

theorem stops_init : Stops [] vehicleInit := by
  refine ⟨fun behind => ?_, fun behind since => absurd since since_nil⟩
  cases behind <;> contradiction

/-- A round of the controller, from giving the semaphore to giving it again. -/
def controlRound (readings : Readings) : List VehicleAction := .replicate 13 (.hover readings false)

def roundEvents (pulse idle : ℚ) : List VehicleEvent :=
  [.silent, .silent, .silent, .silent, .stepEntered, .escProgrammed pulse, .silent, .silent, .silent, .silent,
    .escProgrammed idle, .silent, .silent]

/-- With the flag set and the semaphore in its hands the controller enters a step and takes the semaphore
again. -/
theorem controlRound_enters {vehicle : VehicleState} (flag : vehicle.stopFlag = true)
    (place : vehicle.hover = .giveStartSem) (readings : Readings) :
    ∃ vehicle' pulse idle, run vehicleStep vehicle (controlRound readings) = .ok (vehicle', roundEvents pulse idle) ∧
      vehicle'.stopFlag = true ∧ vehicle'.hover = .giveStartSem := by
  obtain ⟨esc, servoPositions, control, stopFlag, stopFlagMx, controlsStartSem, hover, comms⟩ := vehicle
  subst flag place
  exact ⟨_, _, _, rfl, rfl, rfl⟩

/-- A stop that does not get the semaphore leaves a controller that goes on as long as it likes. -/
theorem missed_stop {vehicle : VehicleState} (flag : vehicle.stopFlag = true) (place : vehicle.hover = .giveStartSem)
    (readings : Readings) (rounds : Nat) :
    ∃ final events, run vehicleStep vehicle (List.replicate rounds (controlRound readings)).flatten =
        .ok (final, events) ∧ VehicleEvent.startCalled ∉ events ∧ events.count .stepEntered = rounds := by
  induction rounds generalizing vehicle with
  | zero => exact ⟨vehicle, [], rfl, by simp, rfl⟩
  | succ rounds ih =>
    obtain ⟨next, pulse, idle, one, flag', place'⟩ := controlRound_enters flag place readings
    obtain ⟨final, later, rest, silent, entered⟩ := ih flag' place'
    have once : (roundEvents pulse idle).count .stepEntered = 1 := by simp [roundEvents]
    refine ⟨final, roundEvents pulse idle ++ later, ?_, ?_, ?_⟩
    · rw [List.replicate_succ, List.flatten_cons]
      exact run_append_eq_ok.mpr ⟨next, _, later, one, rest, rfl⟩
    · rw [List.mem_append, not_or]
      exact ⟨by simp [roundEvents], silent⟩
    · rw [List.count_append, once, entered, Nat.add_comm]

/-- When every stop gets the semaphore, the controller enters at most one step behind a stop; a stop that
does not get it does not stop the controller. -/
theorem stops_control {schedule : List VehicleAction} {vehicle : VehicleState} {events : List VehicleEvent}
    (done : run vehicleStep vehicleInit schedule = .ok (vehicle, events)) :
    (EveryStep vehicleStep StopGetsSem vehicleInit schedule → StopsControl events) ∧
      (vehicle.comms = .stopTakeSem → vehicle.hover = .giveStartSem →
        ∃ more final events', run vehicleStep vehicle (.comms false :: more) = .ok (final, events') ∧
          ¬StopsControl (events ++ events')) := by
  constructor
  · intro gets behind since
    have stops := run_induction_allowed Stops (fun _ _ _ _ _ stops gets done => stops.step gets done) []
      stops_init gets done
    exact Nat.le_of_add_right_le (stops.stopped behind since).once
  · intro place holds
    have start : FlagSet vehicleInit := stops_init.flagSet
    have flag : vehicle.stopFlag = true :=
      run_invariant FlagSet (fun _ _ _ _ set one => set.step one) start done (.inr place)
    -- the stop returns without the semaphore
    have returned : vehicleStep vehicle (.comms false) =
        .ok ({ vehicle with controlsStartSem := ⟨false⟩, comms := .idle }, .stopReturned) := by
      simp only [vehicleStep, commsStep, place, pure_eq_ok, BinarySemaphore.take]
    obtain ⟨final, later, rest, silent, entered⟩ := @missed_stop { vehicle with
      controlsStartSem := ⟨false⟩
      comms := .idle } flag holds ⟨.replicate _ 0, 0, 0⟩ 2
    refine ⟨_, final, .stopReturned :: later, run_cons_eq_ok.mpr ⟨_, _, _, returned, rest, rfl⟩, fun stops => ?_⟩
    have twice := stops later ⟨events, rfl, silent⟩
    rw [entered] at twice
    exact absurd twice (by decide)

/-! A vehicle that waits is started, and stopped after the controller made `steps` steps. -/

def still : Readings := ⟨.replicate _ 0, 0, 0⟩

def commandSet : PropertyValue := ⟨1, fun _ => 0⟩

def startThenStop (steps : Nat) : List VehicleAction :=
  .replicate 5 (.hover still false) ++ .write propStartId commandSet :: .replicate 4 (.comms false) ++
    .replicate steps (.hover still false) ++ .write propStopId commandSet :: .replicate 4 (.comms false)

/-- When it has taken the semaphore and given it back, the stop is in time. -/
theorem stops_control_in_time :
    ∃ final events, run vehicleStep vehicleInit (startThenStop 2) = .ok (final, events) ∧ StopsControl events := by
  obtain ⟨final, events, done, -⟩ :=
    run_checked vehicleStep vehicleInit (startThenStop 2) (fun final _ => final.comms = .idle) rfl
  exact ⟨final, events, done, (stops_control done).1 (by decide)⟩

/-- When it has taken the semaphore only, it enters a second step behind the stop. -/
theorem stop_between_take_and_give :
    (∃ final events, run vehicleStep vehicleInit
        (startThenStop 1 ++ (List.replicate 2 (controlRound still)).flatten) = .ok (final, events) ∧
          ∃ behind, Since .stopReturned .startCalled events behind ∧ behind.count .stepEntered = 2) ∧
      ¬∀ schedule final events, run vehicleStep vehicleInit schedule = .ok (final, events) → StopsControl events := by
  have stopped : ∃ vehicle events, run vehicleStep vehicleInit (startThenStop 1) =
      .ok (vehicle, events ++ [.stopReturned]) ∧ vehicle.stopFlag = true ∧ vehicle.hover = .giveStartSem :=
    ⟨_, .replicate 3 .silent ++ [.escProgrammed 1000, .silent, .startCalled, .silent, .silent, .silent, .startReturned,
      .silent, .stopCalled, .silent, .silent, .silent], rfl, rfl, rfl⟩
  obtain ⟨vehicle, events, first, flag, place⟩ := stopped
  obtain ⟨final, later, rest, silent, entered⟩ := missed_stop flag place still 2
  have whole := run_append_eq_ok.mpr ⟨vehicle, _, later, first, rest, rfl⟩
  have since : Since .stopReturned .startCalled (events ++ [.stopReturned] ++ later) later :=
    ⟨events, by simp, silent⟩
  refine ⟨⟨final, _, whole, later, since, entered⟩, fun stops => ?_⟩
  have once := stops _ _ _ whole later since
  rw [entered] at once
  exact absurd once (by decide)

end TvcHopper.Vehicle
