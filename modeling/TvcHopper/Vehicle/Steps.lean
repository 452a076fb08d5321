import TvcHopper.Vehicle.Tasks

/-! What a step of the vehicle can do.

Every invariant of a run follows from these outcomes. The motor is programmed
through the limiter only, and the events of the commands come from the task that
received them.
-/

set_option autoImplicit false

namespace TvcHopper.Vehicle
open Machine Spp

inductive TuneOutcome (control : HoverControl) (value : PropertyValue) :
    UInt16 → Except Fault (Option HoverControl) → Prop where
  | target : TuneOutcome control value propTargetPositionId (.ok (some (hoverControlSetReference control value.float)))
  | gains : TuneOutcome control value propKMatrixId ((hoverControlSetK control value.float).map some)
  | spinup :
    TuneOutcome control value propZLimSpinupId (.ok (some { control with escRateLimitSpinup := value.float 0 }))
  | normal :
    TuneOutcome control value propZLimNormalId (.ok (some { control with escRateLimitNormal := value.float 0 }))
  | integral : TuneOutcome control value propMaxZintId (.ok (some { control with maxZInt := value.float 0 }))
  | maximum : TuneOutcome control value propMaxEscOutId (.ok (some { control with escMaxOutput := value.float 0 }))
  | pitch :
    TuneOutcome control value propSetPitchOffsetId (.ok (some (hoverControlSetPitchOffset control (value.float 0))))
  | roll :
    TuneOutcome control value propSetRollOffsetId (.ok (some (hoverControlSetRollOffset control (value.float 0))))
  | unknown {id : UInt16} (unnamed : ∀ control, tuneControl control id value = .ok none)
    (normal : id ≠ propZLimNormalId) (integral : id ≠ propMaxZintId) (maximum : id ≠ propMaxEscOutId) :
    TuneOutcome control value id (.ok none)

theorem tuneControl_outcome (control : HoverControl) (id : UInt16) (value : PropertyValue) :
    TuneOutcome control value id (tuneControl control id value) := by
  by_cases target : id = propTargetPositionId
  · subst target
    exact .target
  by_cases gains : id = propKMatrixId
  · subst gains
    exact .gains
  by_cases spinup : id = propZLimSpinupId
  · subst spinup
    exact .spinup
  by_cases normal : id = propZLimNormalId
  · subst normal
    exact .normal
  by_cases integral : id = propMaxZintId
  · subst integral
    exact .integral
  by_cases maximum : id = propMaxEscOutId
  · subst maximum
    exact .maximum
  by_cases pitch : id = propSetPitchOffsetId
  · subst pitch
    exact .pitch
  by_cases roll : id = propSetRollOffsetId
  · subst roll
    exact .roll
  have unnamed (control : HoverControl) : tuneControl control id value = .ok none := by
    rw [tuneControl, if_neg target, if_neg gains, if_neg spinup, if_neg normal, if_neg integral, if_neg maximum,
      if_neg pitch, if_neg roll]
  rw [unnamed]
  exact .unknown unnamed normal integral maximum

section Steps
variable {vehicle vehicle' : VehicleState} {event : VehicleEvent}

inductive WriteOutcome (vehicle vehicle' : VehicleState) (event : VehicleEvent) : Prop where
  | start (same : vehicle' = { vehicle with esc := hwEscSetMax vehicle.esc 2000, comms := .startTakeMx })
      (called : event = .startCalled)
  | stop (same : vehicle' = { vehicle with esc := hwEscSetMax vehicle.esc 1000, comms := .stopTakeMx })
      (called : event = .stopCalled)
  | programmed (pulse : ℚ) (same : vehicle' = { vehicle with esc := hwEscSetOutput vehicle.esc pulse true })
      (made : event = .escProgrammed (limitPulse vehicle.esc pulse))
  | tuned (control : HoverControl) (servoPositions : Vector ℚ 4) (status : SppStatus)
      (same : vehicle' = { vehicle with control, servoPositions }) (made : event = .handled status)

theorem setValue_outcome {id : UInt16} {value : PropertyValue}
    (written : setValue vehicle id value = .ok (vehicle', event)) : WriteOutcome vehicle vehicle' event := by
  unfold setValue at written
  by_cases start : id = propStartId
  · rw [if_pos start] at written
    by_cases set : value.byte = 1
    · rw [if_pos set] at written
      cases written
      exact .start rfl rfl
    · rw [if_neg set] at written
      cases written
      exact .tuned _ _ _ rfl rfl
  rw [if_neg start] at written
  by_cases stop : id = propStopId
  · rw [if_pos stop] at written
    by_cases set : value.byte = 1
    · rw [if_pos set] at written
      cases written
      exact .stop rfl rfl
    · rw [if_neg set] at written
      cases written
      exact .tuned _ _ _ rfl rfl
  rw [if_neg stop] at written
  by_cases idle : id = propTelemCapStartId ∨ id = propTelemCapStopId ∨ id = propResetSystemId
  · rw [if_pos idle] at written
    cases written
    exact .tuned _ _ _ rfl rfl
  rw [if_neg idle] at written
  by_cases vanes : id = propServoPositionsId
  · rw [if_pos vanes] at written
    cases written
    exact .tuned _ _ _ rfl rfl
  rw [if_neg vanes] at written
  by_cases motor : id = propEscPwmId
  · rw [if_pos motor] at written
    cases written
    exact .programmed _ rfl rfl
  rw [if_neg motor] at written
  -- the parameters of the controller
  split at written
  · cases written
    exact .tuned _ _ _ rfl rfl
  · cases written
    exact .tuned _ _ _ rfl rfl
  · cases written

inductive StepOutcome (vehicle vehicle' : VehicleState) (event : VehicleEvent) : VehicleAction → Prop where
  | waits (id : UInt16) (value : PropertyValue) (same : vehicle' = vehicle) (silent : event = .silent) :
      StepOutcome vehicle vehicle' event (.write id value)
  | written (id : UInt16) (value : PropertyValue) (idle : vehicle.comms = .idle)
      (outcome : WriteOutcome vehicle vehicle' event) : StepOutcome vehicle vehicle' event (.write id value)
  | comms (timedOut : Bool) (same : vehicle' = (commsStep vehicle timedOut).1)
      (made : event = (commsStep vehicle timedOut).2) : StepOutcome vehicle vehicle' event (.comms timedOut)
  | hover (readings : Readings) (timedOut : Bool) (same : vehicle' = (hoverStep vehicle readings timedOut).1)
      (made : event = (hoverStep vehicle readings timedOut).2) :
      StepOutcome vehicle vehicle' event (.hover readings timedOut)

theorem vehicleStep_outcome {action : VehicleAction} (done : vehicleStep vehicle action = .ok (vehicle', event)) :
    StepOutcome vehicle vehicle' event action := by
  cases action with
  | write id value =>
    by_cases idle : vehicle.comms = .idle
    · rw [vehicleStep, if_pos idle] at done
      exact .written id value idle (setValue_outcome done)
    · rw [vehicleStep, if_neg idle] at done
      cases done
      exact .waits id value rfl rfl
  | comms timedOut =>
    have made : commsStep vehicle timedOut = (vehicle', event) := Except.ok.inj done
    exact .comms timedOut (congrArg Prod.fst made).symm (congrArg Prod.snd made).symm
  | hover readings timedOut =>
    have made : hoverStep vehicle readings timedOut = (vehicle', event) := Except.ok.inj done
    exact .hover readings timedOut (congrArg Prod.fst made).symm (congrArg Prod.snd made).symm

def VehicleEvent.isCommand : VehicleEvent → Bool
  | .startCalled | .startReturned | .stopCalled | .stopReturned => true
  | _ => false

/-- What the controller leaves alone. -/
structure HoverFrame (vehicle vehicle' : VehicleState) (event : VehicleEvent) : Prop where
  stopFlag : vehicle'.stopFlag = vehicle.stopFlag
  comms : vehicle'.comms = vehicle.comms
  escMax : vehicle'.esc.escMax = vehicle.esc.escMax
  escMin : vehicle'.esc.escMin = vehicle.esc.escMin
  notCommand : event.isCommand = false

theorem hoverStep_frame (vehicle : VehicleState) (readings : Readings) (timedOut : Bool) :
    HoverFrame vehicle (hoverStep vehicle readings timedOut).1 (hoverStep vehicle readings timedOut).2 := by
  unfold hoverStep
  cases vehicle.hover with
  | takeFlagMx => cases vehicle.stopFlagMx.await timedOut <;> exact ⟨rfl, rfl, rfl, rfl, rfl⟩
  | takeStartSem =>
    cases vehicle.controlsStartSem.take with
    | mk taken sem => cases taken <;> exact ⟨rfl, rfl, rfl, rfl, rfl⟩
  | checkFlag | releaseFlagMx | idleOutput | updatePwm | giveStartSem | resetControls | takeZero | giveFlagMx
    | enterStep | programEsc _ | finishStep => exact ⟨rfl, rfl, rfl, rfl, rfl⟩

/-- What a command leaves alone when its limit has been set. -/
structure CommsFrame (vehicle vehicle' : VehicleState) (event : VehicleEvent) : Prop where
  esc : vehicle'.esc = vehicle.esc
  hover : vehicle'.hover = vehicle.hover
  notProgrammed : ∀ pulse, event ≠ .escProgrammed pulse
  notEntered : event ≠ .stepEntered
  notCalled : event ≠ .startCalled

theorem commsStep_frame (vehicle : VehicleState) (timedOut : Bool) :
    CommsFrame vehicle (commsStep vehicle timedOut).1 (commsStep vehicle timedOut).2 := by
  unfold commsStep
  cases vehicle.comms with
  | startTakeMx | stopTakeMx =>
    cases vehicle.stopFlagMx.await timedOut <;> exact ⟨rfl, rfl, nofun, nofun, nofun⟩
  | idle | startClearFlag | startGiveMx | startGiveSem | stopSetFlag | stopGiveMx | stopTakeSem =>
    exact ⟨rfl, rfl, nofun, nofun, nofun⟩

theorem commsStep_stopReturned {timedOut : Bool} (returned : (commsStep vehicle timedOut).2 = .stopReturned) :
    vehicle.comms = .stopTakeSem ∧
      (commsStep vehicle timedOut).1 = { vehicle with controlsStartSem := ⟨false⟩, comms := .idle } := by
  unfold commsStep at returned ⊢
  cases place : vehicle.comms with
  | stopTakeSem => exact ⟨rfl, rfl⟩
  | startTakeMx | stopTakeMx =>
    rw [place] at returned
    cases taken : vehicle.stopFlagMx.await timedOut <;> simp [taken] at returned
  | idle | startClearFlag | startGiveMx | startGiveSem | stopSetFlag | stopGiveMx =>
    rw [place] at returned
    cases returned

theorem stopReturned_step {action : VehicleAction} (done : vehicleStep vehicle action = .ok (vehicle', .stopReturned)) :
    vehicle.comms = .stopTakeSem ∧ (∃ timedOut, action = .comms timedOut) ∧
      vehicle' = { vehicle with controlsStartSem := ⟨false⟩, comms := .idle } := by
  cases vehicleStep_outcome done with
  | waits id value same silent => cases silent
  | written id value idle outcome =>
    cases outcome with
    | start _ made | stop _ made | programmed _ _ made | tuned _ _ _ _ made => cases made
  | comms timedOut same made =>
    obtain ⟨place, result⟩ := commsStep_stopReturned made.symm
    exact ⟨place, ⟨timedOut, rfl⟩, same.trans result⟩
  | hover readings timedOut same made =>
    have never := (hoverStep_frame vehicle readings timedOut).notCommand
    rw [← made] at never
    cases never

/-! ## The motor -/

theorem hoverStep_programmed {readings : Readings} {timedOut : Bool} {pulse : ℚ}
    (made : (hoverStep vehicle readings timedOut).2 = .escProgrammed pulse) :
    ∃ asked, pulse = limitPulse vehicle.esc asked := by
  unfold hoverStep at made
  cases place : vehicle.hover with
  | idleOutput =>
    rw [place] at made
    exact ⟨1000, (VehicleEvent.escProgrammed.inj made).symm⟩
  | programEsc asked =>
    rw [place] at made
    exact ⟨asked, (VehicleEvent.escProgrammed.inj made).symm⟩
  | takeFlagMx =>
    rw [place] at made
    cases taken : vehicle.stopFlagMx.await timedOut <;> simp [taken] at made
  | takeStartSem =>
    rw [place] at made
    cases taken : vehicle.controlsStartSem.take with
    | mk available sem => cases available <;> simp [taken] at made
  | checkFlag | releaseFlagMx | updatePwm | giveStartSem | resetControls | takeZero | giveFlagMx | enterStep
    | finishStep =>
    rw [place] at made
    cases made

/-- Whoever programs the motor, the pulse width has passed the limiter. -/
theorem programmed_step {action : VehicleAction} {pulse : ℚ}
    (done : vehicleStep vehicle action = .ok (vehicle', .escProgrammed pulse)) :
    ∃ asked, pulse = limitPulse vehicle.esc asked := by
  cases vehicleStep_outcome done with
  | waits id value same silent => cases silent
  | written id value idle outcome =>
    cases outcome with
    | programmed asked same made => exact ⟨asked, VehicleEvent.escProgrammed.inj made⟩
    | start _ made | stop _ made | tuned _ _ _ _ made => cases made
  | comms timedOut same made => exact absurd made.symm ((commsStep_frame vehicle timedOut).notProgrammed pulse)
  | hover readings timedOut same made => exact hoverStep_programmed made.symm

end Steps

end TvcHopper.Vehicle
