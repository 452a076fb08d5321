import TvcHopper.Machine.Execution
import TvcHopper.Vehicle.Steps

/-! The motor behind a stop.

A stop moves the upper limit of the pulse width down to the lower one, and only
a start moves it up again: what is programmed in between is the idle pulse. But
a stop programs nothing itself. It relies on the controller, which programs the
idle pulse on its way to waiting for the next start.
-/

set_option autoImplicit false

namespace TvcHopper.Vehicle
open Machine Spp

structure LimitsSet (vehicle : VehicleState) : Prop where
  escMin : vehicle.esc.escMin = 1000
  escMax : vehicle.esc.escMax = 1000 ∨ vehicle.esc.escMax = 2000

/-- A task that received a stop has closed the limiter before anything else. -/
def StopCloses (vehicle : VehicleState) : Prop := vehicle.comms.isStop = true → vehicle.esc.escMax = 1000

section Steps
variable {vehicle vehicle' : VehicleState} {event : VehicleEvent} {action : VehicleAction}

theorem LimitsSet.step (limits : LimitsSet vehicle) (done : vehicleStep vehicle action = .ok (vehicle', event)) :
    LimitsSet vehicle' := by
  obtain ⟨escMin, escMax⟩ := limits
  cases vehicleStep_outcome done with
  | waits id value same silent => exact same ▸ ⟨escMin, escMax⟩
  | written id value idle outcome =>
    cases outcome with
    | start same called => exact same ▸ ⟨escMin, .inr rfl⟩
    | stop same called => exact same ▸ ⟨escMin, .inl rfl⟩
    | programmed pulse same made => exact same ▸ ⟨escMin, escMax⟩
    | tuned control servoPositions status same made => exact same ▸ ⟨escMin, escMax⟩
  | comms timedOut same made =>
    have frame := commsStep_frame vehicle timedOut
    exact same ▸ ⟨frame.esc ▸ escMin, frame.esc ▸ escMax⟩
  | hover readings timedOut same made =>
    have frame := hoverStep_frame vehicle readings timedOut
    exact same ▸ ⟨frame.escMin ▸ escMin, frame.escMax ▸ escMax⟩

/-- The upper limit stays down until a start is called. -/
theorem closed_step (closed : vehicle.esc.escMax = 1000) (done : vehicleStep vehicle action = .ok (vehicle', event))
    (other : event ≠ .startCalled) : vehicle'.esc.escMax = 1000 := by
  cases vehicleStep_outcome done with
  | waits id value same silent => exact same ▸ closed
  | written id value idle outcome =>
    cases outcome with
    | start same called => exact absurd called other
    | stop same called => exact same ▸ rfl
    | programmed pulse same made => exact same ▸ closed
    | tuned control servoPositions status same made => exact same ▸ closed
  | comms timedOut same made => exact same ▸ (commsStep_frame vehicle timedOut).esc ▸ closed
  | hover readings timedOut same made => exact same ▸ (hoverStep_frame vehicle readings timedOut).escMax ▸ closed

theorem commsStep_isStop {timedOut : Bool} (behind : (commsStep vehicle timedOut).1.comms.isStop = true) :
    vehicle.comms.isStop = true := by
  unfold commsStep at behind
  cases place : vehicle.comms with
  | stopTakeMx | stopSetFlag | stopGiveMx | stopTakeSem => rfl
  | startTakeMx =>
    rw [place] at behind
    cases taken : vehicle.stopFlagMx.await timedOut <;> simp [taken, place, CommsPc.isStop] at behind
  | idle | startClearFlag | startGiveMx | startGiveSem => simp [place, CommsPc.isStop] at behind

theorem StopCloses.step (closes : StopCloses vehicle) (done : vehicleStep vehicle action = .ok (vehicle', event)) :
    StopCloses vehicle' := by
  intro behind
  cases vehicleStep_outcome done with
  | waits id value same silent => exact same ▸ closes (same ▸ behind)
  | written id value idle outcome =>
    cases outcome with
    | start same called =>
      rw [same] at behind
      cases behind
    | stop same called => exact same ▸ rfl
    | programmed pulse same made =>
      rw [same] at behind ⊢
      exact closes behind
    | tuned control servoPositions status same made =>
      rw [same] at behind ⊢
      exact closes behind
  | comms timedOut same made =>
    rw [same] at behind ⊢
    rw [(commsStep_frame vehicle timedOut).esc]
    exact closes (commsStep_isStop behind)
  | hover readings timedOut same made =>
    have frame := hoverStep_frame vehicle readings timedOut
    rw [same, frame.comms] at behind
    rw [same, frame.escMax]
    exact closes behind

end Steps

/-- The motor is run directly while the controller waits, then the vehicle is stopped. -/
def motorThenStop (pulse : ℚ) : List VehicleAction :=
  .replicate 5 (.hover ⟨.replicate _ 0, 0, 0⟩ false) ++
    .write propEscPwmId ⟨0, fun _ => pulse⟩ :: .write propStopId ⟨1, fun _ => 0⟩ :: .replicate 4 (.comms false)

/-! ## The kill limit -/

/-- Between a handled stop and the next start no pulse above the idle one is programmed. -/
def KillLimit (events : List VehicleEvent) : Prop :=
  ∀ behind, Since .stopReturned .startCalled events behind →
    ∀ pulse, .escProgrammed pulse ∈ behind → pulse ≤ 1000

structure Limited (events : List VehicleEvent) (vehicle : VehicleState) : Prop where
  limits : LimitsSet vehicle
  closes : StopCloses vehicle
  behindStop : ∀ behind, Since .stopReturned .startCalled events behind →
    vehicle.esc.escMax = 1000 ∧ ∀ pulse, .escProgrammed pulse ∈ behind → pulse ≤ 1000

theorem Limited.step {events : List VehicleEvent} {vehicle vehicle' : VehicleState} {action : VehicleAction}
    {event : VehicleEvent} (limited : Limited events vehicle)
    (done : vehicleStep vehicle action = .ok (vehicle', event)) : Limited (events ++ [event]) vehicle' := by
  refine ⟨limited.limits.step done, limited.closes.step done, fun behind since => ?_⟩
  rcases since_snoc.mp since with ⟨rfl, rfl⟩ | ⟨earlier, rfl, other, since⟩
  · obtain ⟨place, -, same⟩ := stopReturned_step done
    have closed : vehicle.esc.escMax = 1000 := limited.closes (by rw [place]; rfl)
    exact ⟨same ▸ closed, nofun⟩
  · obtain ⟨closed, idle⟩ := limited.behindStop earlier since
    refine ⟨closed_step closed done other, fun pulse member => ?_⟩
    rw [List.mem_append, List.mem_singleton] at member
    rcases member with before | rfl
    · exact idle pulse before
    · obtain ⟨asked, rfl⟩ := programmed_step done
      -- the limiter leaves no room above the idle pulse
      have same : vehicle.esc.escMax = vehicle.esc.escMin := closed.trans limited.limits.escMin.symm
      rw [limitPulse_closed same, limited.limits.escMin]

theorem limited_init : Limited [] vehicleInit where
  limits := ⟨rfl, .inr rfl⟩
  closes := nofun
  behindStop _ since := absurd since since_nil

/-- Whatever is written and read, in whatever order the tasks take their steps. -/
theorem kill_limit (schedule : List VehicleAction) {final : VehicleState} {events : List VehicleEvent}
    (done : run vehicleStep vehicleInit schedule = .ok (final, events)) : KillLimit events := by
  have limited : Limited ([] ++ events) final :=
    run_induction Limited (fun _ _ _ _ _ limited one => limited.step one) [] limited_init done
  exact fun behind since => (limited.behindStop behind since).2

/-- The motor is run directly behind the stop as well. -/
theorem kill_limit_direct :
    ∃ final events, run vehicleStep vehicleInit
        (motorThenStop 1500 ++ [.write propEscPwmId ⟨0, fun _ => 1500⟩]) = .ok (final, events) ∧ KillLimit events := by
  obtain ⟨final, events, done, -⟩ := run_checked vehicleStep vehicleInit
    (motorThenStop 1500 ++ [.write propEscPwmId ⟨0, fun _ => 1500⟩]) (fun final _ => final.comms = .idle) rfl
  exact ⟨final, events, done, kill_limit _ done⟩

/-! ## The motor of a vehicle that waits -/

/-- The last start or stop that was handled is a stop. -/
def LastStopped (events : List VehicleEvent) : Prop := ∃ behind, Since .stopReturned .startReturned events behind

def Blocked (vehicle : VehicleState) : Prop :=
  vehicle.hover = .takeStartSem ∧ vehicle.controlsStartSem.available = false

def MotorIdle (events : List VehicleEvent) (vehicle : VehicleState) : Prop :=
  LastStopped events → Blocked vehicle → vehicle.esc.escOutput = 1000

/-- The controller has programmed the idle pulse, and waits for the semaphore or is about to. -/
def HoverPc.waits : HoverPc → Bool
  | .updatePwm | .takeStartSem => true
  | _ => false

/-- A stop finds the motor idle when the controller waits. -/
def StopFindsIdle (vehicle : VehicleState) : VehicleAction → Prop
  | .comms _ => vehicle.comms = .stopTakeSem → vehicle.hover.waits = true → vehicle.esc.escOutput = 1000
  | _ => True

instance (vehicle : VehicleState) (action : VehicleAction) : Decidable (StopFindsIdle vehicle action) :=
  match action with
  | .comms _ => inferInstanceAs (Decidable
      (vehicle.comms = .stopTakeSem → vehicle.hover.waits = true → vehicle.esc.escOutput = 1000))
  | .write _ _ | .hover _ _ => .isTrue trivial

theorem lastStopped_snoc {events : List VehicleEvent} {event : VehicleEvent} :
    LastStopped (events ++ [event]) ↔ event = .stopReturned ∨ event ≠ .startReturned ∧ LastStopped events := by
  constructor
  · rintro ⟨behind, since⟩
    rcases since_snoc.mp since with ⟨-, returned⟩ | ⟨earlier, -, other, since⟩
    · exact .inl returned
    · exact .inr ⟨other, earlier, since⟩
  · rintro (returned | ⟨other, earlier, since⟩)
    · exact ⟨[], since_snoc.mpr (.inl ⟨rfl, returned⟩)⟩
    · exact ⟨earlier ++ [event], since_snoc.mpr (.inr ⟨earlier, rfl, other, since⟩)⟩

theorem LastStopped.before {events : List VehicleEvent} {vehicle vehicle' : VehicleState} {event : VehicleEvent}
    {action : VehicleAction} (stopped : LastStopped (events ++ [event]))
    (done : vehicleStep vehicle action = .ok (vehicle', event)) (other : ∀ timedOut, action ≠ .comms timedOut) :
    LastStopped events := by
  rcases lastStopped_snoc.mp stopped with rfl | ⟨-, earlier⟩
  · obtain ⟨-, ⟨timedOut, same⟩, -⟩ := stopReturned_step done
    exact absurd same (other timedOut)
  · exact earlier

section Steps
variable {vehicle : VehicleState}

theorem hoverStep_waits {readings : Readings} {timedOut : Bool} (limits : LimitsSet vehicle)
    (waits : (hoverStep vehicle readings timedOut).1.hover.waits = true) :
    (hoverStep vehicle readings timedOut).1.esc.escOutput = 1000 ∨
      vehicle.hover.waits = true ∧ (hoverStep vehicle readings timedOut).1.esc.escOutput = vehicle.esc.escOutput := by
  unfold hoverStep at waits ⊢
  cases place : vehicle.hover with
  | idleOutput =>
    have high : (1000 : ℚ) ≤ vehicle.esc.escMax := by
      rcases limits.escMax with closed | wide
      · rw [closed]
      · rw [wide]
        norm_num
    exact .inl (limitPulse_inside (le_of_eq limits.escMin) high)
  | updatePwm => exact .inr ⟨rfl, rfl⟩
  | takeStartSem =>
    refine .inr ⟨rfl, ?_⟩
    cases vehicle.controlsStartSem.take with
    | mk available sem => cases available <;> rfl
  | takeFlagMx =>
    rw [place] at waits
    cases taken : vehicle.stopFlagMx.await timedOut <;> simp [taken, place, HoverPc.waits] at waits
  | checkFlag =>
    rw [place] at waits
    cases flag : vehicle.stopFlag <;> simp [flag, HoverPc.waits] at waits
  | releaseFlagMx | giveStartSem | resetControls | takeZero | giveFlagMx | enterStep | programEsc _ | finishStep =>
    simp [place, HoverPc.waits] at waits

theorem commsStep_isStart {timedOut : Bool} (behind : (commsStep vehicle timedOut).1.comms.isStart = false)
    (other : (commsStep vehicle timedOut).2 ≠ .startReturned) : vehicle.comms.isStart = false := by
  unfold commsStep at behind other
  cases place : vehicle.comms with
  | idle | stopTakeMx | stopSetFlag | stopGiveMx | stopTakeSem => rfl
  | startTakeMx =>
    rw [place] at behind
    cases taken : vehicle.stopFlagMx.await timedOut <;> simp [taken, place, CommsPc.isStart] at behind
  | startClearFlag | startGiveMx =>
    rw [place] at behind
    cases behind
  | startGiveSem =>
    rw [place] at other
    exact absurd rfl other

end Steps

/-- What is true of a run whose stops find the motor idle when the controller waits. -/
structure IdleWaiting (events : List VehicleEvent) (vehicle : VehicleState) : Prop where
  limits : LimitsSet vehicle
  closes : StopCloses vehicle
  closed : LastStopped events → vehicle.comms.isStart = false → vehicle.esc.escMax = 1000
  idle : LastStopped events → vehicle.hover.waits = true → vehicle.esc.escOutput = 1000

section IdleWaiting
variable {events : List VehicleEvent} {vehicle vehicle' : VehicleState} {event : VehicleEvent} {action : VehicleAction}

/-- With the last stop behind it and no start on its way, the limiter lets the idle pulse through only. -/
theorem IdleWaiting.limitPulse (idle : IdleWaiting events vehicle) (stopped : LastStopped events)
    (noStart : vehicle.comms.isStart = false) (pulse : ℚ) : limitPulse vehicle.esc pulse = 1000 := by
  have same : vehicle.esc.escMax = vehicle.esc.escMin := (idle.closed stopped noStart).trans idle.limits.escMin.symm
  rw [limitPulse_closed same, idle.limits.escMin]

theorem IdleWaiting.step (waiting : IdleWaiting events vehicle) (finds : StopFindsIdle vehicle action)
    (done : vehicleStep vehicle action = .ok (vehicle', event)) : IdleWaiting (events ++ [event]) vehicle' := by
  have limits := waiting.limits.step done
  have closes := waiting.closes.step done
  -- only a stop can come to a controller that waits with the motor running, which is excluded
  cases vehicleStep_outcome done with
  | waits id value same silent =>
    subst same
    have before (stopped : LastStopped (events ++ [event])) := stopped.before done (fun _ => nofun)
    exact ⟨limits, closes, fun stopped => waiting.closed (before stopped), fun stopped => waiting.idle (before stopped)⟩
  | written id value idle outcome =>
    have noStart : vehicle.comms.isStart = false := by rw [idle]; rfl
    have before (stopped : LastStopped (events ++ [event])) := stopped.before done (fun _ => nofun)
    cases outcome with
    | start same called =>
      subst same
      exact ⟨limits, closes, fun _ => nofun, fun stopped => waiting.idle (before stopped)⟩
    | stop same called =>
      subst same
      exact ⟨limits, closes, fun _ _ => rfl, fun stopped => waiting.idle (before stopped)⟩
    | programmed pulse same made =>
      subst same
      exact ⟨limits, closes, fun stopped => waiting.closed (before stopped),
        fun stopped _ => waiting.limitPulse (before stopped) noStart pulse⟩
    | tuned control servoPositions status same made =>
      subst same
      exact ⟨limits, closes, fun stopped => waiting.closed (before stopped),
        fun stopped => waiting.idle (before stopped)⟩
  | comms timedOut same made =>
    have frame := commsStep_frame vehicle timedOut
    refine ⟨limits, closes, fun stopped noStart => ?_, fun stopped waits => ?_⟩
    · rcases lastStopped_snoc.mp stopped with returned | ⟨other, stopped⟩
      · obtain ⟨place, -⟩ := commsStep_stopReturned (made ▸ returned)
        rw [same, frame.esc]
        exact waiting.closes (by rw [place]; rfl)
      · rw [same] at noStart ⊢
        rw [frame.esc]
        exact waiting.closed stopped (commsStep_isStart noStart (made ▸ other))
    · rw [same, frame.hover] at waits
      rw [same, frame.esc]
      -- the stop has returned just now, or was the last one before
      rcases lastStopped_snoc.mp stopped with returned | ⟨-, stopped⟩
      · exact finds (commsStep_stopReturned (made ▸ returned)).1 waits
      · exact waiting.idle stopped waits
  | hover readings timedOut same made =>
    have frame := hoverStep_frame vehicle readings timedOut
    have before (stopped : LastStopped (events ++ [event])) := stopped.before done (fun _ => nofun)
    refine ⟨limits, closes, fun stopped noStart => ?_, fun stopped waits => ?_⟩
    · rw [same, frame.comms] at noStart
      rw [same, frame.escMax]
      exact waiting.closed (before stopped) noStart
    · rw [same] at waits ⊢
      rcases hoverStep_waits waiting.limits waits with programmed | ⟨earlier, kept⟩
      · exact programmed
      · rw [kept]
        exact waiting.idle (before stopped) earlier

theorem idleWaiting_init : IdleWaiting [] vehicleInit where
  limits := ⟨rfl, .inr rfl⟩
  closes := nofun
  closed := fun ⟨_, since⟩ => absurd since since_nil
  idle := fun ⟨_, since⟩ => absurd since since_nil

theorem waiting_stop (place : vehicle.comms = .stopTakeSem) (waits : vehicle.hover.waits = true) (readings : Readings) :
    ∃ more final behind, run vehicleStep vehicle (.comms false :: more) = .ok (final, .stopReturned :: behind) ∧
      .startReturned ∉ behind ∧ Blocked final ∧ final.esc.escOutput = vehicle.esc.escOutput := by
  obtain ⟨esc, servoPositions, control, stopFlag, stopFlagMx, controlsStartSem, hover, comms⟩ := vehicle
  subst place
  cases hover with
  | takeStartSem => exact ⟨[], _, [], rfl, List.not_mem_nil, ⟨rfl, rfl⟩, rfl⟩
  | updatePwm => exact ⟨[.hover readings false], _, [.silent], rfl, by simp, ⟨rfl, rfl⟩, rfl⟩
  | _ => cases waits

end IdleWaiting

/-- When every stop that finds the controller waiting finds the motor idle, it is idle whenever the controller
is blocked behind a stop; behind any other stop the controller can be blocked with the motor running. -/
theorem motor_idle {schedule : List VehicleAction} {vehicle : VehicleState} {events : List VehicleEvent}
    (done : run vehicleStep vehicleInit schedule = .ok (vehicle, events)) :
    (EveryStep vehicleStep StopFindsIdle vehicleInit schedule → MotorIdle events vehicle) ∧
      (¬StopFindsIdle vehicle (.comms false) →
        ∃ more final events', run vehicleStep vehicle (.comms false :: more) = .ok (final, events') ∧
          ¬MotorIdle (events ++ events') final) := by
  constructor
  · intro finds stopped blocked
    have waiting : IdleWaiting ([] ++ events) vehicle :=
      run_induction_allowed IdleWaiting (fun _ _ _ _ _ waiting finds one => waiting.step finds one) []
        idleWaiting_init finds done
    exact waiting.idle stopped (by rw [blocked.1]; rfl)
  · intro runs
    simp only [StopFindsIdle, Classical.not_imp] at runs
    obtain ⟨place, waits, running⟩ := runs
    obtain ⟨more, final, behind, rest, noStart, blocked, kept⟩ := waiting_stop place waits ⟨.replicate _ 0, 0, 0⟩
    refine ⟨more, final, _, rest, fun idle => running ?_⟩
    rw [← kept]
    exact idle ⟨behind, events, rfl, noStart⟩ blocked

theorem motor_idle_at_thousand :
    ∃ final events, run vehicleStep vehicleInit (motorThenStop 900) = .ok (final, events) ∧ MotorIdle events final := by
  obtain ⟨final, events, done, -⟩ :=
    run_checked vehicleStep vehicleInit (motorThenStop 900) (fun final _ => final.comms = .idle) rfl
  exact ⟨final, events, done, (motor_idle done).1 (by decide)⟩

theorem motor_running_behind_stop :
    (∃ final events, run vehicleStep vehicleInit (motorThenStop 1500) = .ok (final, events) ∧
        LastStopped events ∧ Blocked final ∧ final.esc.escOutput = 1500) ∧
      ¬∀ schedule final events, run vehicleStep vehicleInit schedule = .ok (final, events) →
        MotorIdle events final := by
  have stopped : ∃ final events, run vehicleStep vehicleInit (motorThenStop 1500) =
      .ok (final, events ++ [.stopReturned]) ∧ Blocked final ∧ final.esc.escOutput = 1500 :=
    ⟨_, .replicate 3 .silent ++ [.escProgrammed 1000, .silent, .escProgrammed 1500, .stopCalled, .silent, .silent,
      .silent], rfl, ⟨rfl, rfl⟩, rfl⟩
  obtain ⟨final, events, done, blocked, running⟩ := stopped
  have last : LastStopped (events ++ [.stopReturned]) := lastStopped_snoc.mpr (.inl rfl)
  refine ⟨⟨final, _, done, last, blocked, running⟩, fun idle => ?_⟩
  have same := idle _ final _ done last blocked
  rw [running] at same
  norm_num at same

end TvcHopper.Vehicle
