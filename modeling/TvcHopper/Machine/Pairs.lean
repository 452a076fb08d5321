import TvcHopper.Machine.Execution

/-! Two executions side by side.

Two runs get the same inputs and are compared step by step. A relation between
the two states that every step keeps, and under which the outputs agree, makes
the runs indistinguishable from outside.
-/

set_option autoImplicit false

namespace TvcHopper.Machine

section Alike
variable {ε α β γ δ : Type}

/-- Both executions have a result, and these are related, or both fault in the same way. -/
inductive Alike (Related : α → β → Prop) : Except ε α → Except ε β → Prop
  | ok {first : α} {second : β} (related : Related first second) : Alike Related (.ok first) (.ok second)
  | error (fault : ε) : Alike Related (.error fault) (.error fault)

theorem Alike.bind {Related : α → β → Prop} {Related' : γ → δ → Prop} {first : Except ε α} {second : Except ε β}
    {next : α → Except ε γ} {next' : β → Except ε δ} (before : Alike Related first second)
    (after : ∀ one other, Related one other → Alike Related' (next one) (next' other)) :
    Alike Related' (first >>= next) (second >>= next') := by
  cases before with
  | ok related => exact after _ _ related
  | error fault => exact .error fault

theorem Alike.bind_same {Related : γ → δ → Prop} {execution : Except ε α} {next : α → Except ε γ}
    {next' : α → Except ε δ} (after : ∀ value, execution = .ok value → Alike Related (next value) (next' value)) :
    Alike Related (execution >>= next) (execution >>= next') := by
  cases execution with
  | ok value => exact after value rfl
  | error fault => exact .error fault

end Alike

section Runs
variable {σ ι ω ε : Type} {step : σ → ι → Except ε (σ × ω)}

/-- The two runs give the same outputs, or come to the same fault. -/
def SameOutputs (step : σ → ι → Except ε (σ × ω)) : σ → σ → List ι → Prop
  | _, _, [] => True
  | first, second, input :: rest =>
    Alike (fun one other => one.2 = other.2 ∧ SameOutputs step one.1 other.1 rest) (step first input)
      (step second input)

/-- `Holds` is true of the two states at every input. -/
def EveryPair (step : σ → ι → Except ε (σ × ω)) (Holds : σ → σ → ι → Prop) : σ → σ → List ι → Prop
  | _, _, [] => True
  | first, second, input :: rest => Holds first second input ∧
      match step first input, step second input with
      | .ok (next, _), .ok (next', _) => EveryPair step Holds next next' rest
      | _, _ => True

/-- The rule for two runs: a relation between the states that every step keeps. -/
theorem sameOutputs_of_relation (Related : σ → σ → Prop) {Holds : σ → σ → ι → Prop}
    (one_step : ∀ first second input, Related first second → Holds first second input →
      Alike (fun one other => Related one.1 other.1 ∧ one.2 = other.2) (step first input) (step second input))
    {first second : σ} (start : Related first second) {inputs : List ι}
    (holds : EveryPair step Holds first second inputs) : SameOutputs step first second inputs := by
  induction inputs generalizing first second with
  | nil => trivial
  | cons input rest ih =>
    obtain ⟨here, later⟩ := holds
    have both := one_step first second input start here
    unfold SameOutputs
    generalize step first input = result, step second input = result' at both later
    cases both with
    | error fault => exact .error fault
    | ok related => exact .ok ⟨related.2, ih related.1 later⟩

theorem SameOutputs.outputs_eq {first second final final' : σ} {inputs : List ι} {outputs outputs' : List ω}
    (same : SameOutputs step first second inputs) (done : run step first inputs = .ok (final, outputs))
    (done' : run step second inputs = .ok (final', outputs')) : outputs = outputs' := by
  induction inputs generalizing first second outputs outputs' with
  | nil =>
    obtain ⟨-, rfl⟩ := Prod.mk.inj (Except.ok.inj done)
    obtain ⟨-, rfl⟩ := Prod.mk.inj (Except.ok.inj done')
    rfl
  | cons input rest ih =>
    obtain ⟨next, output, later, one, tail, rfl⟩ := run_cons_eq_ok.mp done
    obtain ⟨next', output', later', one', tail', rfl⟩ := run_cons_eq_ok.mp done'
    unfold SameOutputs at same
    rw [one, one'] at same
    cases same with
    | ok related =>
      obtain ⟨head, rest_same⟩ := related
      exact congrArg₂ List.cons head (ih rest_same tail tail')

instance EveryPair.decidable {Holds : σ → σ → ι → Prop}
    [holds : ∀ first second input, Decidable (Holds first second input)] :
    (first second : σ) → (inputs : List ι) → Decidable (EveryPair step Holds first second inputs)
  | _, _, [] => .isTrue trivial
  | first, second, input :: rest =>
    have : Decidable (match step first input, step second input with
        | .ok (next, _), .ok (next', _) => EveryPair step Holds next next' rest
        | _, _ => True) :=
      match step first input, step second input with
      | .ok (next, _), .ok (next', _) => EveryPair.decidable next next' rest
      | .ok _, .error _ => .isTrue trivial
      | .error _, _ => .isTrue trivial
    inferInstanceAs (Decidable (Holds first second input ∧ _))

end Runs

end TvcHopper.Machine
