import Mathlib.Data.List.Infix
import TvcHopper.Machine.Memory

/-! Runs of a machine whose steps can fault.

A run feeds a list of inputs to the step function and collects one output per
step. A state is reached when the run up to it does not fault.
-/

set_option autoImplicit false

namespace TvcHopper.Machine

variable {σ ι ω ε : Type} {step : σ → ι → Except ε (σ × ω)}

def run (step : σ → ι → Except ε (σ × ω)) : σ → List ι → Except ε (σ × List ω)
  | state, [] => .ok (state, [])
  | state, input :: rest => do
    let (next, output) ← step state input
    let (final, outputs) ← run step next rest
    return (final, output :: outputs)

@[simp] theorem run_nil (state : σ) : run step state [] = .ok (state, []) := rfl

theorem run_cons_eq_ok {state final : σ} {input : ι} {rest : List ι} {outputs : List ω} :
    run step state (input :: rest) = .ok (final, outputs) ↔
      ∃ next output later, step state input = .ok (next, output) ∧
        run step next rest = .ok (final, later) ∧ outputs = output :: later := by
  simp only [run, bind_eq_ok, pure_eq_ok, Except.ok.injEq, Prod.mk.injEq, Prod.exists]
  constructor
  · rintro ⟨next, output, first, final', later, tail, rfl, rfl⟩
    exact ⟨next, output, later, first, tail, rfl⟩
  · rintro ⟨next, output, later, first, tail, rfl⟩
    exact ⟨next, output, first, final, later, tail, rfl, rfl⟩

theorem run_cons_fault {state next : σ} {input : ι} {rest : List ι} {output : ω} {fault : ε}
    (one : step state input = .ok (next, output)) (later : run step next rest = .error fault) :
    run step state (input :: rest) = .error fault := by
  simp only [run, one, ok_bind, later]
  rfl

theorem run_head_fault {state : σ} {input : ι} {rest : List ι} {fault : ε} (one : step state input = .error fault) :
    run step state (input :: rest) = .error fault := by
  simp only [run, one]
  rfl

theorem run_append_eq_ok {state final : σ} {first rest : List ι} {outputs : List ω} :
    run step state (first ++ rest) = .ok (final, outputs) ↔
      ∃ middle earlier later, run step state first = .ok (middle, earlier) ∧
        run step middle rest = .ok (final, later) ∧ outputs = earlier ++ later := by
  induction first generalizing state outputs with
  | nil => simp
  | cons input first ih =>
    simp only [List.cons_append, run_cons_eq_ok, ih]
    constructor
    · rintro ⟨next, output, _, one, ⟨middle, earlier, later, head, tail, rfl⟩, rfl⟩
      exact ⟨middle, output :: earlier, later, ⟨next, output, earlier, one, head, rfl⟩, tail, rfl⟩
    · rintro ⟨middle, _, later, ⟨next, output, earlier, one, head, rfl⟩, tail, rfl⟩
      exact ⟨next, output, earlier ++ later, one, ⟨middle, earlier, later, head, tail, rfl⟩, rfl⟩

theorem run_singleton_eq_ok {state final : σ} {input : ι} {outputs : List ω} :
    run step state [input] = .ok (final, outputs) ↔
      ∃ output, step state input = .ok (final, output) ∧ outputs = [output] := by
  simp only [run_cons_eq_ok, run_nil, Except.ok.injEq, Prod.mk.injEq]
  constructor
  · rintro ⟨next, output, _, one, ⟨rfl, rfl⟩, rfl⟩
    exact ⟨output, one, rfl⟩
  · rintro ⟨output, one, rfl⟩
    exact ⟨final, output, [], one, ⟨rfl, rfl⟩, rfl⟩

theorem run_checked (step : σ → ι → Except ε (σ × ω)) (state : σ) (inputs : List ι) (check : σ → List ω → Bool)
    (checked : (match run step state inputs with
      | .ok (final, outputs) => check final outputs
      | .error _ => false) = true) :
    ∃ final outputs, run step state inputs = .ok (final, outputs) ∧ check final outputs = true := by
  cases result : run step state inputs with
  | error fault => simp [result] at checked
  | ok reached => exact ⟨reached.1, reached.2, rfl, by simpa [result] using checked⟩

theorem run_output {state final : σ} {inputs : List ι} {earlier later : List ω} {output : ω}
    (done : run step state inputs = .ok (final, earlier ++ output :: later)) :
    ∃ before input middle next, run step state before = .ok (middle, earlier) ∧
      step middle input = .ok (next, output) := by
  induction earlier generalizing state inputs with
  | nil =>
    cases inputs with
    | nil => simp at done
    | cons input rest =>
      obtain ⟨next, _, _, one, _, same⟩ := run_cons_eq_ok.mp done
      cases same
      exact ⟨[], input, state, next, rfl, one⟩
  | cons first earlier ih =>
    cases inputs with
    | nil => simp at done
    | cons input rest =>
      obtain ⟨next, _, _, one, tail, same⟩ := run_cons_eq_ok.mp done
      cases same
      obtain ⟨before, input', middle, next', start, here⟩ := ih tail
      exact ⟨input :: before, input', middle, next', run_cons_eq_ok.mpr ⟨_, _, _, one, start, rfl⟩, here⟩

/-- Inputs that arrive in blocks have the effect of the single inputs one after the other. -/
theorem run_flatten_eq_ok {state final : σ} {blocks : List (List ι)} {outputs : List ω} :
    run step state blocks.flatten = .ok (final, outputs) ↔
      ∃ grouped, run (run step) state blocks = .ok (final, grouped) ∧ outputs = grouped.flatten := by
  induction blocks generalizing state outputs with
  | nil => simp
  | cons block blocks ih =>
    simp only [List.flatten_cons, run_append_eq_ok, run_cons_eq_ok, ih]
    constructor
    · rintro ⟨middle, earlier, _, one, ⟨grouped, rest, rfl⟩, rfl⟩
      exact ⟨earlier :: grouped, ⟨middle, earlier, grouped, one, rest, rfl⟩, rfl⟩
    · rintro ⟨_, ⟨middle, earlier, grouped, one, rest, rfl⟩, rfl⟩
      exact ⟨middle, earlier, grouped.flatten, one, ⟨grouped, rest, rfl⟩, rfl⟩

theorem run_length {state final : σ} {inputs : List ι} {outputs : List ω}
    (done : run step state inputs = .ok (final, outputs)) : outputs.length = inputs.length := by
  induction inputs generalizing state outputs with
  | nil => simp_all
  | cons input rest ih =>
    obtain ⟨next, output, later, _, tail, rfl⟩ := run_cons_eq_ok.mp done
    simp [ih tail]

/-- The induction rule for runs: `Inv` relates what has been output so far to the state. -/
theorem run_induction (Inv : List ω → σ → Prop)
    (preserved : ∀ history state input next output, Inv history state →
      step state input = .ok (next, output) → Inv (history ++ [output]) next)
    {state final : σ} {inputs : List ι} {outputs : List ω} (history : List ω)
    (start : Inv history state) (done : run step state inputs = .ok (final, outputs)) :
    Inv (history ++ outputs) final := by
  induction inputs generalizing history state outputs with
  | nil =>
    simp only [run_nil, Except.ok.injEq, Prod.mk.injEq] at done
    obtain ⟨rfl, rfl⟩ := done
    simpa using start
  | cons input rest ih =>
    obtain ⟨next, output, later, one, tail, rfl⟩ := run_cons_eq_ok.mp done
    simpa using ih (history ++ [output]) (preserved _ _ _ _ _ start one) tail

theorem run_invariant (Inv : σ → Prop)
    (preserved : ∀ state input next output, Inv state → step state input = .ok (next, output) → Inv next)
    {state final : σ} {inputs : List ι} {outputs : List ω}
    (start : Inv state) (done : run step state inputs = .ok (final, outputs)) : Inv final :=
  run_induction (fun _ => Inv) (fun _ => preserved) [] start done

theorem run_total (Inv : σ → Prop)
    (steps : ∀ state input, Inv state → ∃ next output, step state input = .ok (next, output) ∧ Inv next)
    {state : σ} (start : Inv state) (inputs : List ι) :
    ∃ final outputs, run step state inputs = .ok (final, outputs) := by
  induction inputs generalizing state with
  | nil => exact ⟨state, [], rfl⟩
  | cons input rest ih =>
    obtain ⟨next, output, one, kept⟩ := steps state input start
    obtain ⟨final, outputs, later⟩ := ih kept
    exact ⟨final, output :: outputs, run_cons_eq_ok.mpr ⟨_, _, _, one, later, rfl⟩⟩

/-- `Holds` is true of every state the run reaches, the first one included. -/
def EveryState (step : σ → ι → Except ε (σ × ω)) (Holds : σ → Prop) : σ → List ι → Prop
  | state, [] => Holds state
  | state, input :: rest => Holds state ∧
      match step state input with
      | .ok (next, _) => EveryState step Holds next rest
      | .error _ => True

/-- `Allowed` is true of every step the run completes. -/
def EveryStep (step : σ → ι → Except ε (σ × ω)) (Allowed : σ → ι → Prop) : σ → List ι → Prop
  | _, [] => True
  | state, input :: rest =>
      match step state input with
      | .ok (next, _) => Allowed state input ∧ EveryStep step Allowed next rest
      | .error _ => True

/-- When a step keeps `Holds` exactly if it is allowed, so does a run. -/
theorem everyState_iff_everyStep {Holds : σ → Prop} {Allowed : σ → ι → Prop}
    (exact_step : ∀ state input next output, Holds state → step state input = .ok (next, output) →
      (Holds next ↔ Allowed state input))
    {state : σ} (start : Holds state) (inputs : List ι) :
    EveryState step Holds state inputs ↔ EveryStep step Allowed state inputs := by
  induction inputs generalizing state with
  | nil => simpa [EveryState, EveryStep] using start
  | cons input rest ih =>
    cases one : step state input with
    | error fault => simpa [EveryState, EveryStep, one] using start
    | ok result =>
      obtain ⟨next, output⟩ := result
      -- the state after the step holds exactly if the step was allowed
      have same := exact_step state input next output start one
      simp only [EveryState, EveryStep, one, start, true_and]
      constructor
      · intro later
        have holds : Holds next := by cases rest <;> simp_all [EveryState]
        exact ⟨same.mp holds, (ih holds).mp later⟩
      · rintro ⟨allowed, later⟩
        exact (ih (same.mpr allowed)).mpr later

/-- An invariant of the history and the state that the allowed steps keep. -/
theorem run_induction_allowed (Inv : List ω → σ → Prop) {Allowed : σ → ι → Prop}
    (preserved : ∀ history state input next output, Inv history state → Allowed state input →
      step state input = .ok (next, output) → Inv (history ++ [output]) next)
    {state final : σ} {inputs : List ι} {outputs : List ω} (history : List ω) (start : Inv history state)
    (allowed : EveryStep step Allowed state inputs) (done : run step state inputs = .ok (final, outputs)) :
    Inv (history ++ outputs) final := by
  induction inputs generalizing history state outputs with
  | nil =>
    simp only [run_nil, Except.ok.injEq, Prod.mk.injEq] at done
    obtain ⟨rfl, rfl⟩ := done
    simpa using start
  | cons input rest ih =>
    obtain ⟨next, output, later, one, tail, rfl⟩ := run_cons_eq_ok.mp done
    simp only [EveryStep, one] at allowed
    have kept := preserved history state input next output start allowed.1 one
    simpa using ih (history ++ [output]) kept allowed.2 tail

instance EveryStep.decidable {Allowed : σ → ι → Prop} [allowed : ∀ state input, Decidable (Allowed state input)] :
    (state : σ) → (inputs : List ι) → Decidable (EveryStep step Allowed state inputs)
  | _, [] => .isTrue trivial
  | state, input :: rest =>
    show Decidable (match step state input with
      | .ok (next, _) => Allowed state input ∧ EveryStep step Allowed next rest
      | .error _ => True) from
    match step state input with
    | .ok (next, _) =>
      have : Decidable (EveryStep step Allowed next rest) := EveryStep.decidable next rest
      inferInstanceAs (Decidable (Allowed state input ∧ EveryStep step Allowed next rest))
    | .error _ => .isTrue trivial

theorem everyStep_congr {Allowed Allowed' : σ → ι → Prop}
    (same : ∀ state input next output, step state input = .ok (next, output) →
      (Allowed state input ↔ Allowed' state input)) (state : σ) (inputs : List ι) :
    EveryStep step Allowed state inputs ↔ EveryStep step Allowed' state inputs := by
  induction inputs generalizing state with
  | nil => exact Iff.rfl
  | cons input rest ih =>
    cases one : step state input with
    | error fault => simp only [EveryStep, one]
    | ok result =>
      simp only [EveryStep, one]
      exact and_congr (same state input result.1 result.2 one) (ih result.1)

theorem everyStep_of_invariant {Inv : σ → Prop} {Holds Allowed : σ → ι → Prop}
    (preserved : ∀ state input next output, Inv state → Allowed state input →
      step state input = .ok (next, output) → Inv next)
    (covered : ∀ state input, Inv state → Allowed state input → Holds state input)
    {state : σ} (start : Inv state) {inputs : List ι} (allowed : EveryStep step Allowed state inputs) :
    EveryStep step Holds state inputs := by
  induction inputs generalizing state with
  | nil => trivial
  | cons input rest ih =>
    cases one : step state input with
    | error fault => simp only [EveryStep, one]
    | ok result =>
      simp only [EveryStep, one] at allowed ⊢
      exact ⟨covered state input start allowed.1, ih (preserved _ _ _ _ start allowed.1 one) allowed.2⟩

/-- `Holds` is true of every input at the state it is given in, also where the step faults. -/
def EveryAttempt (step : σ → ι → Except ε (σ × ω)) (Holds : σ → ι → Prop) : σ → List ι → Prop
  | _, [] => True
  | state, input :: rest => Holds state input ∧
      match step state input with
      | .ok (next, _) => EveryAttempt step Holds next rest
      | .error _ => True

instance EveryAttempt.decidable {Holds : σ → ι → Prop} [holds : ∀ state input, Decidable (Holds state input)] :
    (state : σ) → (inputs : List ι) → Decidable (EveryAttempt step Holds state inputs)
  | _, [] => .isTrue trivial
  | state, input :: rest =>
    have : Decidable (match step state input with
        | .ok (next, _) => EveryAttempt step Holds next rest
        | .error _ => True) :=
      match step state input with
      | .ok (next, _) => EveryAttempt.decidable next rest
      | .error _ => .isTrue trivial
    inferInstanceAs (Decidable (Holds state input ∧ _))

section Attempts
variable {Inv : σ → Prop} {Holds Allowed : σ → ι → Prop}

theorem everyAttempt_cons {state next : σ} {input : ι} {rest : List ι} {output : ω}
    (one : step state input = .ok (next, output)) :
    EveryAttempt step Holds state (input :: rest) ↔ Holds state input ∧ EveryAttempt step Holds next rest := by
  simp only [EveryAttempt, one]

theorem everyAttempt_of_forall {state : σ} {inputs : List ι} (every : ∀ input ∈ inputs, ∀ state, Holds state input) :
    EveryAttempt step Holds state inputs := by
  induction inputs generalizing state with
  | nil => trivial
  | cons input rest ih =>
    refine ⟨every input (List.mem_cons_self ..) state, ?_⟩
    cases one : step state input with
    | error fault => trivial
    | ok result => exact ih fun other member => every other (List.mem_cons_of_mem _ member)

/-- Inputs the invariant covers keep it, so it is there at every attempt and in every state. -/
theorem everyState_of_everyAttempt
    (preserved : ∀ state input next output, Inv state → Allowed state input →
      step state input = .ok (next, output) → Inv next)
    {state : σ} (start : Inv state) {inputs : List ι} (allowed : EveryAttempt step Allowed state inputs) :
    EveryState step Inv state inputs := by
  induction inputs generalizing state with
  | nil => exact start
  | cons input rest ih =>
    refine ⟨start, ?_⟩
    cases one : step state input with
    | error fault => trivial
    | ok result =>
      obtain ⟨here, later⟩ := (everyAttempt_cons one).mp allowed
      exact ih (preserved _ _ _ _ start here one) later

/-- An invariant that certain inputs keep is there in every state, if only these occur. -/
theorem everyState_of_invariant {Occurs : ι → Prop}
    (preserved : ∀ state input next output, Inv state → Occurs input → step state input = .ok (next, output) → Inv next)
    {state : σ} (start : Inv state) {inputs : List ι} (occurs : ∀ input ∈ inputs, Occurs input) :
    EveryState step Inv state inputs := by
  induction inputs generalizing state with
  | nil => exact start
  | cons input rest ih =>
    have here := occurs input (List.mem_cons_self ..)
    refine ⟨start, ?_⟩
    cases one : step state input with
    | error fault => trivial
    | ok result =>
      exact ih (preserved _ _ _ _ start here one) fun input member => occurs input (List.mem_cons_of_mem _ member)

theorem EveryState.mono {Holds Holds' : σ → Prop} (weaker : ∀ state, Holds state → Holds' state) {state : σ}
    {inputs : List ι} (every : EveryState step Holds state inputs) : EveryState step Holds' state inputs := by
  induction inputs generalizing state with
  | nil => exact weaker state every
  | cons input rest ih =>
    obtain ⟨here, later⟩ := every
    refine ⟨weaker state here, ?_⟩
    cases one : step state input with
    | error fault => trivial
    | ok result =>
      simp only [one] at later
      exact ih later

theorem EveryState.final {Holds : σ → Prop} {state final : σ} {inputs : List ι} {outputs : List ω}
    (every : EveryState step Holds state inputs) (done : run step state inputs = .ok (final, outputs)) :
    Holds final := by
  induction inputs generalizing state outputs with
  | nil =>
    obtain ⟨rfl, -⟩ := Prod.mk.inj (Except.ok.inj done)
    exact every
  | cons input rest ih =>
    obtain ⟨next, output, later, one, tail, -⟩ := run_cons_eq_ok.mp done
    obtain ⟨-, after⟩ := every
    simp only [one] at after
    exact ih after tail

/-- When an input is handled as `Holds` says exactly if it is allowed, so are all inputs of a run, if only certain
inputs occur. -/
theorem everyAttempt_iff_of {Occurs : ι → Prop}
    (exact_step : ∀ state input, Inv state → Occurs input → (Holds state input ↔ Allowed state input))
    (preserved : ∀ state input next output, Inv state → Occurs input → Allowed state input →
      step state input = .ok (next, output) → Inv next)
    {state : σ} (start : Inv state) {inputs : List ι} (occurs : ∀ input ∈ inputs, Occurs input) :
    EveryAttempt step Holds state inputs ↔ EveryAttempt step Allowed state inputs := by
  induction inputs generalizing state with
  | nil => exact Iff.rfl
  | cons input rest ih =>
    have here := occurs input (List.mem_cons_self ..)
    have same := exact_step state input start here
    have later : ∀ input ∈ rest, Occurs input := fun input member => occurs input (List.mem_cons_of_mem _ member)
    cases one : step state input with
    | error fault => simp only [EveryAttempt, one, same]
    | ok result =>
      simp only [everyAttempt_cons one, same]
      exact and_congr_right fun allowed => ih (preserved _ _ _ _ start here allowed one) later

theorem everyAttempt_iff (exact_step : ∀ state input, Inv state → (Holds state input ↔ Allowed state input))
    (preserved : ∀ state input next output, Inv state → Allowed state input →
      step state input = .ok (next, output) → Inv next)
    {state : σ} (start : Inv state) (inputs : List ι) :
    EveryAttempt step Holds state inputs ↔ EveryAttempt step Allowed state inputs :=
  everyAttempt_iff_of (fun state input inv (_ : True) => exact_step state input inv)
    (fun _ _ _ _ inv _ allowed done => preserved _ _ _ _ inv allowed done) start fun _ _ => trivial

theorem everyStep_iff {Occurs : ι → Prop}
    (exact_step : ∀ state input next output, Inv state → Occurs input → step state input = .ok (next, output) →
      (Holds state input ↔ Allowed state input))
    (preserved : ∀ state input next output, Inv state → Occurs input → Allowed state input →
      step state input = .ok (next, output) → Inv next)
    {state : σ} (start : Inv state) {inputs : List ι} (occurs : ∀ input ∈ inputs, Occurs input) :
    EveryStep step Holds state inputs ↔ EveryStep step Allowed state inputs := by
  induction inputs generalizing state with
  | nil => exact Iff.rfl
  | cons input rest ih =>
    have here := occurs input (List.mem_cons_self ..)
    have later : ∀ input ∈ rest, Occurs input := fun input member => occurs input (List.mem_cons_of_mem _ member)
    cases one : step state input with
    | error fault => simp only [EveryStep, one]
    | ok result =>
      simp only [EveryStep, one, exact_step _ _ _ _ start here one]
      exact and_congr_right fun allowed => ih (preserved _ _ _ _ start here allowed one) later

theorem everyAttempt_append {state : σ} {first rest : List ι} :
    EveryAttempt step Holds state (first ++ rest) ↔ EveryAttempt step Holds state first ∧
      ∀ next outputs, run step state first = .ok (next, outputs) → EveryAttempt step Holds next rest := by
  induction first generalizing state with
  | nil =>
    constructor
    · intro every
      refine ⟨trivial, fun next outputs done => ?_⟩
      obtain ⟨rfl, -⟩ := Prod.mk.inj (Except.ok.inj done)
      exact every
    · rintro ⟨-, later⟩
      exact later state [] rfl
  | cons input first ih =>
    rw [List.cons_append]
    cases one : step state input with
    | error fault =>
      simp [EveryAttempt, one, run_head_fault one]
    | ok result =>
      rw [everyAttempt_cons one, everyAttempt_cons one, ih, and_assoc]
      refine and_congr_right fun _ => and_congr_right fun _ => ⟨?_, ?_⟩
      · intro later next outputs done
        obtain ⟨_, _, _, one', tail, -⟩ := run_cons_eq_ok.mp done
        obtain ⟨rfl, -⟩ := Prod.mk.inj (Except.ok.inj (one.symm.trans one'))
        exact later next _ tail
      · intro later next outputs tail
        exact later next _ (run_cons_eq_ok.mpr ⟨_, _, _, one, tail, rfl⟩)

/-! ## Steps that return -/

def StepReturns (step : σ → ι → Except ε (σ × ω)) (state : σ) (input : ι) : Prop :=
  ∃ result, step state input = .ok result

theorem run_of_everyAttempt (returns : ∀ state input, Holds state input → StepReturns step state input) {state : σ}
    {inputs : List ι} (every : EveryAttempt step Holds state inputs) :
    ∃ final outputs, run step state inputs = .ok (final, outputs) := by
  induction inputs generalizing state with
  | nil => exact ⟨state, [], rfl⟩
  | cons input rest ih =>
    obtain ⟨⟨next, output⟩, one⟩ := returns state input every.1
    obtain ⟨final, outputs, later⟩ := ih ((everyAttempt_cons one).mp every).2
    exact ⟨final, output :: outputs, run_cons_eq_ok.mpr ⟨_, _, _, one, later, rfl⟩⟩

/-- An input that is never handled as `Holds` says is reached when all steps in front of it return. -/
theorem not_everyAttempt (returns : ∀ state input, Holds state input → StepReturns step state input) {input : ι}
    (never : ∀ state, ¬Holds state input) {state : σ} {inputs : List ι} (member : input ∈ inputs) :
    ¬EveryAttempt step Holds state inputs := by
  induction inputs generalizing state with
  | nil => cases member
  | cons first rest ih =>
    intro every
    obtain ⟨⟨next, output⟩, one⟩ := returns state first every.1
    rcases List.mem_cons.mp member with rfl | later
    · exact never state every.1
    · exact ih later ((everyAttempt_cons one).mp every).2

/-! ## Two machines on the same states -/

section Corresponding
variable {κ : Type} {step' : σ → κ → Except ε (σ × ω)} {inputs : List ι} {inputs' : List κ}

theorem run_corresponding
    (same : List.Forall₂ (fun input input' => ∀ state, step state input = step' state input') inputs inputs')
    (state : σ) : run step state inputs = run step' state inputs' := by
  induction same generalizing state with
  | nil => rfl
  | cons one _ ih => simp only [run, one, ih]

theorem everyAttempt_corresponding {Holds' : σ → κ → Prop}
    (same : List.Forall₂ (fun input input' => ∀ state, step state input = step' state input') inputs inputs')
    (holds : List.Forall₂ (fun input input' => ∀ state, Holds state input ↔ Holds' state input') inputs inputs')
    (state : σ) : EveryAttempt step Holds state inputs ↔ EveryAttempt step' Holds' state inputs' := by
  induction same generalizing state with
  | nil => exact Iff.rfl
  | cons one _ ih =>
    cases holds with
    | cons here later =>
      simp only [EveryAttempt, one, here, ih later]

end Corresponding

end Attempts

/-! ## Machines in a row

Each output of the first is an input of the second. A step of the cascade ends
when everything that it set off has been dealt with, so the second machine sees
one list of inputs, however the first one made it.
-/

section Cascade
variable {τ κ : Type}

def cascade (first : σ → ι → Except ε (σ × List κ)) (second : τ → κ → Except ε (τ × List ω)) (states : σ × τ)
    (input : ι) : Except ε ((σ × τ) × List ω) := do
  let (state, passed) ← first states.1 input
  let (behind, outputs) ← run second states.2 passed
  return ((state, behind), outputs.flatten)

variable {first : σ → ι → Except ε (σ × List κ)} {second : τ → κ → Except ε (τ × List ω)}

theorem cascade_eq_ok {states next : σ × τ} {input : ι} {outputs : List ω} :
    cascade first second states input = .ok (next, outputs) ↔
      ∃ passed made, first states.1 input = .ok (next.1, passed) ∧ run second states.2 passed = .ok (next.2, made) ∧
        made.flatten = outputs := by
  unfold cascade
  constructor
  · intro done
    obtain ⟨⟨state, passed⟩, one, rest⟩ := bind_eq_ok.mp done
    obtain ⟨⟨behind, made⟩, two, same⟩ := bind_eq_ok.mp rest
    obtain ⟨rfl, rfl⟩ := Prod.mk.inj (Except.ok.inj same)
    exact ⟨passed, made, one, two, rfl⟩
  · rintro ⟨passed, made, one, two, rfl⟩
    exact bind_eq_ok.mpr ⟨_, one, bind_eq_ok.mpr ⟨_, two, rfl⟩⟩

/-- A run of the cascade is a run of the first machine, and one of the second over all that the first one passes on. -/
theorem run_cascade {states : σ × τ} {inputs : List ι} {final : σ × τ} {passed : List (List κ)} {made : List (List ω)}
    (one : run first states.1 inputs = .ok (final.1, passed))
    (two : run second states.2 passed.flatten = .ok (final.2, made)) :
    ∃ outputs, run (cascade first second) states inputs = .ok (final, outputs) ∧ outputs.flatten = made.flatten := by
  induction inputs generalizing states passed made with
  | nil =>
    obtain ⟨state, rfl⟩ := Prod.mk.inj (Except.ok.inj one)
    obtain ⟨behind, rfl⟩ := Prod.mk.inj (Except.ok.inj two)
    exact ⟨[], congrArg (fun states => Except.ok (states, [])) (Prod.ext state behind), rfl⟩
  | cons input rest ih =>
    obtain ⟨next, here, later, step, tail, rfl⟩ := run_cons_eq_ok.mp one
    rw [List.flatten_cons] at two
    obtain ⟨middle, before, after, now, behind, rfl⟩ := run_append_eq_ok.mp two
    obtain ⟨outputs, done, same⟩ := @ih (next, middle) _ _ tail behind
    refine ⟨before.flatten :: outputs, run_cons_eq_ok.mpr ⟨(next, middle), _, _, ?_, done, rfl⟩, ?_⟩
    · exact cascade_eq_ok.mpr ⟨here, before, step, now, rfl⟩
    · rw [List.flatten_cons, same, List.flatten_append]

end Cascade

/-! ## Histories

What happened since a mark is the part of the history behind it. An invariant
of runs speaks about the parts behind every mark; a new event either extends
such a part or is a mark with nothing behind it.
-/

/-- The events behind some occurrence of `mark`, none of which is `clear`. -/
def Since (mark clear : ω) (history behind : List ω) : Prop :=
  ∃ before, history = before ++ mark :: behind ∧ clear ∉ behind

section Since
variable {mark clear event : ω} {history behind : List ω}

theorem since_nil : ¬Since mark clear [] behind := by
  rintro ⟨before, same, -⟩
  simp at same

theorem snoc_eq_append_cons {before : List ω} : history ++ [event] = before ++ mark :: behind ↔
    (behind = [] ∧ before = history ∧ mark = event) ∨
      ∃ earlier, behind = earlier ++ [event] ∧ history = before ++ mark :: earlier := by
  constructor
  · intro same
    rcases List.eq_nil_or_concat behind with rfl | ⟨earlier, last, rfl⟩
    · obtain ⟨first, one⟩ := List.append_inj' same rfl
      exact .inl ⟨rfl, first.symm, (List.cons.inj one).1.symm⟩
    · have split : history ++ [event] = (before ++ mark :: earlier) ++ [last] := by simpa using same
      obtain ⟨first, one⟩ := List.append_inj' split rfl
      obtain rfl := (List.cons.inj one).1
      exact .inr ⟨earlier, by simp, first⟩
  · rintro (⟨rfl, rfl, rfl⟩ | ⟨earlier, rfl, rfl⟩)
    · rfl
    · simp

theorem since_snoc : Since mark clear (history ++ [event]) behind ↔
    (behind = [] ∧ event = mark) ∨
      ∃ earlier, behind = earlier ++ [event] ∧ event ≠ clear ∧ Since mark clear history earlier := by
  constructor
  · rintro ⟨before, same, uncleared⟩
    rcases snoc_eq_append_cons.mp same with ⟨rfl, -, rfl⟩ | ⟨earlier, rfl, rfl⟩
    · exact .inl ⟨rfl, rfl⟩
    · simp only [List.mem_append, List.mem_singleton, not_or] at uncleared
      exact .inr ⟨earlier, rfl, fun clears => uncleared.2 clears.symm, before, rfl, uncleared.1⟩
  · rintro (⟨rfl, rfl⟩ | ⟨earlier, rfl, kept, before, rfl, uncleared⟩)
    · exact ⟨history, rfl, by simp⟩
    · refine ⟨before, by simp, ?_⟩
      simp only [List.mem_append, List.mem_singleton, not_or]
      exact ⟨uncleared, fun clears => kept clears.symm⟩

end Since

end TvcHopper.Machine
