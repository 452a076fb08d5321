import Mathlib.Tactic.Linarith
import Mathlib.Data.Rat.Floor
import TvcHopper.Machine.Filters

/-! The speed controller of the motor (`esc.c`), over exact rational values.

Every pulse width passes the limiter of `HwEsc_SetOutput`. Only the upper limit
can be moved.
-/

set_option autoImplicit false

namespace TvcHopper.Vehicle
open Machine

/-- The static variables of `esc.c`, with what was last written to the PWM module. -/
structure HwEsc where
  escOutput : ℚ
  escMax : ℚ
  escMin : ℚ
  dutyCycle : Nat
  loadOk : Bool
  deriving DecidableEq

abbrev escPwmPeriod : ℚ := 5000

/-- `duty_cycle` of a pulse width, cut to an integer. -/
def escDutyCycle (pulseWidthUs : ℚ) : Nat := ⌊pulseWidthUs / escPwmPeriod * 0xFFFF⌋.toNat

def hwEscSetMax (esc : HwEsc) (pw : ℚ) : HwEsc := { esc with escMax := pw }

def limitPulse (esc : HwEsc) (pulseWidthUs : ℚ) : ℚ :=
  if pulseWidthUs > esc.escMax then esc.escMax
  else if pulseWidthUs < esc.escMin then esc.escMin
  else pulseWidthUs

def hwEscSetOutput (esc : HwEsc) (pulseWidthUs : ℚ) (setldok : Bool) : HwEsc :=
  let pulseWidthUs := limitPulse esc pulseWidthUs
  { esc with
    escOutput := pulseWidthUs
    dutyCycle := escDutyCycle pulseWidthUs
    loadOk := esc.loadOk || setldok }

def hwEscSetOutputControlBatch (esc : HwEsc) (pulseWidthUs : ℚ) : HwEsc :=
  hwEscSetOutput esc pulseWidthUs false

def hwUpdatePwm (esc : HwEsc) : HwEsc := { esc with loadOk := true }

/-- The variables as they are defined, before `HwEsc_Init`. -/
def staticEsc : HwEsc := ⟨1000, 2000, 1000, 0, false⟩

def hwEscInit (esc : HwEsc) : HwEsc := hwEscSetOutput esc esc.escOutput true

/-! ## The limiter -/

section Limits
variable {esc : HwEsc}

@[simp] theorem hwEscSetOutput_escMax (pulse : ℚ) (setldok : Bool) :
    (hwEscSetOutput esc pulse setldok).escMax = esc.escMax := rfl

@[simp] theorem hwEscSetOutput_escMin (pulse : ℚ) (setldok : Bool) :
    (hwEscSetOutput esc pulse setldok).escMin = esc.escMin := rfl

@[simp] theorem hwEscSetOutput_escOutput (pulse : ℚ) (setldok : Bool) :
    (hwEscSetOutput esc pulse setldok).escOutput = limitPulse esc pulse := rfl

theorem limitPulse_eq (esc : HwEsc) (pulseWidthUs : ℚ) :
    limitPulse esc pulseWidthUs = clamp pulseWidthUs esc.escMin esc.escMax := rfl

theorem limitPulse_bounds (ordered : esc.escMin ≤ esc.escMax) (pulse : ℚ) :
    esc.escMin ≤ limitPulse esc pulse ∧ limitPulse esc pulse ≤ esc.escMax := by
  rw [limitPulse_eq]
  exact clamp_of_le ordered pulse

theorem limitPulse_closed (closed : esc.escMax = esc.escMin) (pulse : ℚ) : limitPulse esc pulse = esc.escMin := by
  have bounds := limitPulse_bounds (le_of_eq closed.symm) pulse
  exact le_antisymm (closed ▸ bounds.2) bounds.1

theorem limitPulse_inside {pulse : ℚ} (low : esc.escMin ≤ pulse) (high : pulse ≤ esc.escMax) :
    limitPulse esc pulse = pulse := by
  rw [limitPulse_eq, clamp_inside low high]

end Limits

end TvcHopper.Vehicle
