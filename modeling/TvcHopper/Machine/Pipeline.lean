import Mathlib.Data.List.Infix

/-! A server that works through a queue of requests and fills a queue of
responses.

However submitting, serving and collecting interleave, what is collected is
what the server answers when it is given all requests at once, in the order
they were submitted.
-/

set_option autoImplicit false

namespace TvcHopper.Machine

structure Pipeline (σ ρ α : Type) where
  server : σ
  requests : List ρ
  responses : List α

namespace Pipeline

inductive Action (ρ : Type) where
  | submit (request : ρ)
  | serve
  | collect

variable {σ ρ α : Type} (serve : σ → ρ → σ × List α)

/-- Nothing happens when a queue is empty. -/
def step (pipeline : Pipeline σ ρ α) : Action ρ → Pipeline σ ρ α × List α
  | .submit request => ({ pipeline with requests := pipeline.requests ++ [request] }, [])
  | .serve =>
    match pipeline.requests with
    | [] => (pipeline, [])
    | request :: rest =>
      let (server, responses) := serve pipeline.server request
      ({ server, requests := rest, responses := pipeline.responses ++ responses }, [])
  | .collect =>
    match pipeline.responses with
    | [] => (pipeline, [])
    | response :: rest => ({ pipeline with responses := rest }, [response])

def execute : Pipeline σ ρ α → List (Action ρ) → Pipeline σ ρ α × List α
  | pipeline, [] => (pipeline, [])
  | pipeline, action :: rest =>
    let (next, collected) := step serve pipeline action
    let (final, later) := execute next rest
    (final, collected ++ later)

theorem execute_cons (pipeline : Pipeline σ ρ α) (action : Action ρ) (rest : List (Action ρ)) :
    execute serve pipeline (action :: rest) =
      ((execute serve (step serve pipeline action).1 rest).1,
        (step serve pipeline action).2 ++ (execute serve (step serve pipeline action).1 rest).2) := rfl

theorem execute_append (pipeline : Pipeline σ ρ α) (first rest : List (Action ρ)) :
    execute serve pipeline (first ++ rest) =
      ((execute serve (execute serve pipeline first).1 rest).1,
        (execute serve pipeline first).2 ++ (execute serve (execute serve pipeline first).1 rest).2) := by
  induction first generalizing pipeline with
  | nil => rfl
  | cons action first ih => simp only [List.cons_append, execute_cons, ih, List.append_assoc]

def submitted (actions : List (Action ρ)) : List ρ :=
  actions.filterMap fun
    | .submit request => some request
    | _ => none

/-- The responses of a server that is given all requests at once. -/
def answers : σ → List ρ → List α
  | _, [] => []
  | server, request :: rest => (serve server request).2 ++ answers (serve server request).1 rest

/-- The responses still to be collected, when `future` is submitted. -/
def outlook (pipeline : Pipeline σ ρ α) (future : List ρ) : List α :=
  pipeline.responses ++ answers serve pipeline.server (pipeline.requests ++ future)

theorem step_outlook (pipeline : Pipeline σ ρ α) (action : Action ρ) (future : List ρ) :
    (step serve pipeline action).2 ++ outlook serve (step serve pipeline action).1 future =
      outlook serve pipeline (submitted [action] ++ future) := by
  obtain ⟨server, requests, responses⟩ := pipeline
  -- a request, its answer and a response only move along the row
  cases action with
  | submit request => simp [step, outlook, submitted]
  | serve => cases requests <;> simp [step, outlook, submitted, answers]
  | collect => cases responses <;> simp [step, outlook, submitted]

theorem execute_outlook (pipeline : Pipeline σ ρ α) (actions : List (Action ρ)) (future : List ρ) :
    (execute serve pipeline actions).2 ++ outlook serve (execute serve pipeline actions).1 future =
      outlook serve pipeline (submitted actions ++ future) := by
  induction actions generalizing pipeline with
  | nil => rfl
  | cons action rest ih =>
    have later : submitted (action :: rest) ++ future = submitted [action] ++ (submitted rest ++ future) := by
      rw [← List.append_assoc, submitted, submitted, submitted, ← List.filterMap_append, List.singleton_append]
    rw [execute, List.append_assoc, ih, step_outlook, later]

/-- Responses are collected in the order of the requests, none lost, added or changed. -/
theorem collected_initially {server : σ} {actions : List (Action ρ)} {pipeline : Pipeline σ ρ α} {collected : List α}
    (executed : execute serve ⟨server, [], []⟩ actions = (pipeline, collected)) :
    collected <+: answers serve server (submitted actions) := by
  have whole := execute_outlook serve ⟨server, [], []⟩ actions []
  rw [executed] at whole
  refine ⟨outlook serve pipeline [], whole.trans ?_⟩
  simp [outlook]

theorem collected_all {server : σ} {actions : List (Action ρ)} {pipeline : Pipeline σ ρ α} {collected : List α}
    (executed : execute serve ⟨server, [], []⟩ actions = (pipeline, collected))
    (idle : pipeline.requests = []) (empty : pipeline.responses = []) :
    collected = answers serve server (submitted actions) := by
  have whole := execute_outlook serve ⟨server, [], []⟩ actions []
  rw [executed] at whole
  simpa [outlook, idle, empty, answers] using whole

end Pipeline

end TvcHopper.Machine
