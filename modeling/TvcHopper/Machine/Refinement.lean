import Mathlib.Data.List.Forall2
import Mathlib.Data.List.ReduceOption
import TvcHopper.Machine.Execution

/-! Refinement of one machine by another.

The two machines get the same inputs. Where every input that meets the guard is
answered in the same way and leaves related states, whole runs are. A machine
with finer steps makes some that its specification does not see.
-/

set_option autoImplicit false

namespace TvcHopper.Machine

variable {σ τ ι ω ε ε' : Type} {step : σ → ι → Except ε (σ × ω)} {spec : τ → ι → Except ε' (τ × ω)}

/-- The rule for refinement: a relation between the states of the machine and of its specification. -/
theorem run_refines (Rel : σ → τ → Prop) {Guard : σ → ι → Prop}
    (one_step : ∀ state abstract input, Rel state abstract → Guard state input →
      ∃ next abstract' output, step state input = .ok (next, output) ∧
        spec abstract input = .ok (abstract', output) ∧ Rel next abstract')
    {state : σ} {abstract : τ} (start : Rel state abstract) {inputs : List ι}
    (guarded : EveryAttempt step Guard state inputs) :
    ∃ final final' outputs, run step state inputs = .ok (final, outputs) ∧
      run spec abstract inputs = .ok (final', outputs) ∧ Rel final final' := by
  induction inputs generalizing state abstract with
  | nil => exact ⟨state, abstract, [], rfl, rfl, start⟩
  | cons input rest ih =>
    obtain ⟨next, abstract', output, one, answered, related⟩ := one_step state abstract input start guarded.1
    obtain ⟨final, final', outputs, done, specified, finished⟩ := ih related ((everyAttempt_cons one).mp guarded).2
    exact ⟨final, final', output :: outputs, run_cons_eq_ok.mpr ⟨_, _, _, one, done, rfl⟩,
      run_cons_eq_ok.mpr ⟨_, _, _, answered, specified, rfl⟩, finished⟩

/-- One step of the finer machine: it is silent, or the specification makes a step with the same output. -/
def Stutters {κ ν : Type} (spec : τ → κ → Except ε' (τ × ν)) (Rel : σ → τ → Prop) (abstract : τ) (next : σ) :
    Option κ → Option ν → Prop
  | none, seen => seen = none ∧ Rel next abstract
  | some input, seen => ∃ abstract' output, spec abstract input = .ok (abstract', output) ∧ seen = some output ∧
      Rel next abstract'

/-- The rule for a machine with finer steps: each run is one of the specification, with the outputs that it sees. -/
theorem run_stutters {κ ν : Type} {spec : τ → κ → Except ε' (τ × ν)} (Rel : σ → τ → Prop)
    (Abstracts : ι → Option κ → Prop) (seen : ω → Option ν) {Guard : ω → Prop}
    (one_step : ∀ state abstract input next output, Rel state abstract → step state input = .ok (next, output) →
      Guard output → ∃ input', Abstracts input input' ∧ Stutters spec Rel abstract next input' (seen output))
    {state final : σ} {abstract : τ} (start : Rel state abstract) {inputs : List ι} {outputs : List ω}
    (done : run step state inputs = .ok (final, outputs)) (guarded : ∀ output ∈ outputs, Guard output) :
    ∃ inputs' final', List.Forall₂ Abstracts inputs inputs' ∧
      run spec abstract inputs'.reduceOption = .ok (final', outputs.filterMap seen) ∧ Rel final final' := by
  induction inputs generalizing state abstract outputs with
  | nil =>
    obtain ⟨rfl, rfl⟩ := Prod.mk.inj (Except.ok.inj done)
    exact ⟨[], abstract, .nil, rfl, start⟩
  | cons input rest ih =>
    obtain ⟨next, output, later, one, tail, rfl⟩ := run_cons_eq_ok.mp done
    obtain ⟨here, others⟩ := List.forall_mem_cons.mp guarded
    obtain ⟨input', stands, related⟩ := one_step state abstract input next output start one here
    cases input' with
    | none =>
      obtain ⟨silent, related⟩ := related
      obtain ⟨inputs', final', all, specified, finished⟩ := ih related tail others
      refine ⟨none :: inputs', final', .cons stands all, ?_, finished⟩
      rw [List.reduceOption_cons_of_none, List.filterMap_cons_none silent, specified]
    | some input' =>
      obtain ⟨abstract', answer, answered, visible, related⟩ := related
      obtain ⟨inputs', final', all, specified, finished⟩ := ih related tail others
      refine ⟨some input' :: inputs', final', .cons stands all, ?_, finished⟩
      rw [List.reduceOption_cons_of_some, List.filterMap_cons_some visible]
      exact run_cons_eq_ok.mpr ⟨_, _, _, answered, specified, rfl⟩

end TvcHopper.Machine
