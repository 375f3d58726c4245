import Mathlib.Data.List.Basic

/-!
Finite runs of deterministic state machines. A step answers its input and moves
the state. The rules lift a one-step fact to every run: an invariant, a
reachable state, and a simulation whose two sides give the same answers.
-/

namespace OClock.Machine

universe u v w x

variable {State : Type u} {Abstract : Type v} {Input : Type w} {Output : Type x}

/-- Answers in the order of the inputs, and the state the run ends in. -/
def run (step : State → Input → Output × State) : State → List Input → List Output × State
  | state, [] => ([], state)
  | state, input :: rest =>
      let now := step state input
      let later := run step now.2 rest
      (now.1 :: later.1, later.2)

@[simp] theorem run_nil (step : State → Input → Output × State) (state : State) :
    run step state [] = ([], state) := rfl

@[simp] theorem run_cons (step : State → Input → Output × State) (state : State)
    (input : Input) (rest : List Input) :
    run step state (input :: rest) =
      ((step state input).1 :: (run step (step state input).2 rest).1,
        (run step (step state input).2 rest).2) := rfl

theorem run_append (step : State → Input → Output × State) (state : State)
    (first second : List Input) :
    run step state (first ++ second) =
      ((run step state first).1 ++ (run step (run step state first).2 second).1,
        (run step (run step state first).2 second).2) := by
  induction first generalizing state with
  | nil => rfl
  | cons input rest ih => simp [ih]

theorem run_outputs_length (step : State → Input → Output × State) (state : State)
    (inputs : List Input) : (run step state inputs).1.length = inputs.length := by
  induction inputs generalizing state with
  | nil => rfl
  | cons input rest ih => simp [ih]

theorem run_invariant (step : State → Input → Output × State) (invariant : State → Prop)
    (keeps : ∀ state input, invariant state → invariant (step state input).2)
    (state : State) (inputs : List Input) (start : invariant state) :
    invariant (run step state inputs).2 := by
  induction inputs generalizing state with
  | nil => exact start
  | cons input rest ih => exact ih _ (keeps state input start)

/-- Every state of a run, the first and the last one included. -/
def trail (step : State → Input → Output × State) : State → List Input → List State
  | state, [] => [state]
  | state, input :: rest => state :: trail step (step state input).2 rest

theorem trail_end (step : State → Input → Output × State) (state : State)
    (inputs : List Input) : (run step state inputs).2 ∈ trail step state inputs := by
  induction inputs generalizing state with
  | nil => exact List.mem_singleton.mpr rfl
  | cons input rest ih => exact List.mem_cons_of_mem state (ih _)

theorem trail_invariant (step : State → Input → Output × State) (invariant : State → Prop)
    (keeps : ∀ state input, invariant state → invariant (step state input).2)
    (state : State) (inputs : List Input) (start : invariant state) :
    ∀ passed ∈ trail step state inputs, invariant passed := by
  induction inputs generalizing state with
  | nil => simpa [trail] using start
  | cons input rest ih =>
      simp only [trail, List.forall_mem_cons]
      exact ⟨start, ih _ (keeps state input start)⟩

/-- The states some finite run from `start` ends in. -/
def Reachable (step : State → Input → Output × State) (start state : State) : Prop :=
  ∃ inputs, (run step start inputs).2 = state

theorem reachable_invariant (step : State → Input → Output × State) (invariant : State → Prop)
    (keeps : ∀ state input, invariant state → invariant (step state input).2)
    {start state : State} (initial : invariant start)
    (reached : Reachable step start state) : invariant state := by
  obtain ⟨inputs, rfl⟩ := reached
  exact run_invariant step invariant keeps start inputs initial

/-- A relation kept by every admitted input, under which both sides answer
alike, makes whole runs answer alike. -/
theorem run_simulates (step : State → Input → Output × State)
    (spec : Abstract → Input → Output × Abstract)
    (related : State → Abstract → Prop) (admitted : Input → Prop)
    (simulates : ∀ state abstract input, admitted input → related state abstract →
      (step state input).1 = (spec abstract input).1 ∧
        related (step state input).2 (spec abstract input).2)
    (state : State) (abstract : Abstract) (inputs : List Input)
    (allowed : ∀ input ∈ inputs, admitted input) (start : related state abstract) :
    (run step state inputs).1 = (run spec abstract inputs).1 ∧
      related (run step state inputs).2 (run spec abstract inputs).2 := by
  induction inputs generalizing state abstract with
  | nil => exact ⟨rfl, start⟩
  | cons input rest ih =>
      obtain ⟨answers, kept⟩ :=
        simulates state abstract input (allowed input List.mem_cons_self) start
      obtain ⟨later, final⟩ :=
        ih _ _ (fun i member => allowed i (List.mem_cons_of_mem input member)) kept
      simp only [run_cons]
      exact ⟨by rw [answers, later], final⟩

end OClock.Machine
