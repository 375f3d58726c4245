import Mathlib.Data.List.Basic
import Mathlib.Data.List.Infix

/-!
Runs of a step relation whose steps carry labels. The labels of a run are its history; an
invariant may speak of the history and of the state together.
-/

namespace OClock.LabelledRun

universe u v

variable {State : Type u} {Label : Type v}

inductive Run (step : State → Label → State → Prop) (start : State) : List Label → State → Prop
  | start : Run step start [] start
  | step {labels : List Label} {state : State} {label : Label} {next : State} :
      Run step start labels state → step state label next → Run step start (labels ++ [label]) next

variable {step : State → Label → State → Prop} {start : State}

theorem Run.invariant (holds : List Label → State → Prop) (initial : holds [] start)
    (keeps : ∀ labels state label next, Run step start labels state → step state label next →
      holds labels state → holds (labels ++ [label]) next)
    {labels : List Label} {state : State} (run : Run step start labels state) :
    holds labels state := by
  induction run with
  | start => exact initial
  | step run moves ih => exact keeps _ _ _ _ run moves ih

theorem Run.one {label : Label} {next : State} (moves : step start label next) :
    Run step start [label] next := .step .start moves

theorem Run.append {before after : List Label} {middle state : State}
    (first : Run step start before middle) (second : Run step middle after state) :
    Run step start (before ++ after) state := by
  induction second with
  | start => simpa using first
  | step _ moves ih =>
      rw [← List.append_assoc]
      exact .step ih moves

theorem Run.last {labels : List Label} {label : Label} {next : State}
    (run : Run step start (labels ++ [label]) next) :
    ∃ state, Run step start labels state ∧ step state label next := by
  generalize whole : labels ++ [label] = history at run
  cases run with
  | start => exact absurd whole (List.concat_ne_nil _ _)
  | step earlier moves =>
      obtain ⟨same, hit⟩ := List.append_inj' whole rfl
      cases same
      cases hit
      exact ⟨_, earlier, moves⟩

/-- A run passes through a state wherever its history is cut. -/
theorem Run.split {before after : List Label} {state : State}
    (run : Run step start (before ++ after) state) :
    ∃ middle, Run step start before middle ∧ Run step middle after state := by
  induction after using List.reverseRecOn generalizing state with
  | nil => exact ⟨state, by simpa using run, .start⟩
  | append_singleton after last ih =>
      rw [← List.append_assoc] at run
      obtain ⟨previous, earlier, moves⟩ := run.last
      obtain ⟨middle, first, second⟩ := ih earlier
      exact ⟨middle, first, .step second moves⟩

/-- The steps on both sides of a label, and the step that it labels. -/
theorem Run.around {before after : List Label} {label : Label} {state : State}
    (run : Run step start (before ++ label :: after) state) :
    ∃ left right, Run step start before left ∧ step left label right ∧
      Run step right after state := by
  rw [List.append_cons] at run
  obtain ⟨right, first, second⟩ := run.split
  obtain ⟨left, earlier, moves⟩ := first.last
  exact ⟨left, right, earlier, moves, second⟩

/-- A label that stays enabled can be taken any number of times. -/
theorem Run.replicate (states : Nat → State) (label : Label)
    (moves : ∀ n, step (states n) label (states (n + 1))) (n : Nat) :
    Run step (states 0) (List.replicate n label) (states n) := by
  induction n with
  | zero => exact .start
  | succ n ih =>
      rw [List.replicate_succ']
      exact .step ih (moves n)

/-- A run seen through a relation that every step keeps is a run of the other system, each
label of it read as one of that system. -/
theorem Run.simulates {Abstract Reading : Type*} {spec : Abstract → Reading → Abstract → Prop}
    {origin : Abstract} (related : State → Abstract → Prop) (reading : Label → Reading)
    (initial : related start origin)
    (simulates : ∀ state label next abstract, step state label next → related state abstract →
      ∃ after, spec abstract (reading label) after ∧ related next after)
    {labels : List Label} {state : State} (run : Run step start labels state) :
    ∃ abstract, Run spec origin (labels.map reading) abstract ∧ related state abstract := by
  induction run with
  | start => exact ⟨origin, .start, initial⟩
  | step _ moves ih =>
      obtain ⟨abstract, seen, held⟩ := ih
      obtain ⟨after, move, kept⟩ := simulates _ _ _ abstract moves held
      exact ⟨after, by rw [List.map_append]; exact .step seen move, kept⟩

/-- What one more label adds to a history that was cut at some label. -/
theorem concat_cut {before after labels : List Label} {label last : Label}
    (cut : labels ++ [last] = before ++ label :: after) :
    (labels = before ∧ last = label ∧ after = []) ∨
      ∃ earlier, after = earlier ++ [last] ∧ labels = before ++ label :: earlier := by
  rcases List.eq_nil_or_concat after with rfl | ⟨earlier, other, rfl⟩
  · obtain ⟨same, hit⟩ := List.append_inj' cut rfl
    exact Or.inl ⟨same, List.head_eq_of_cons_eq hit, rfl⟩
  · simp only [List.concat_eq_append] at cut ⊢
    rw [← List.cons_append, ← List.append_assoc] at cut
    obtain ⟨same, hit⟩ := List.append_inj' cut rfl
    cases hit
    exact Or.inr ⟨earlier, rfl, same⟩

/-- In a list that goes up, one number stands before another exactly when it is smaller. -/
theorem ascending_pair {numbers : List Nat} (ascends : numbers.Pairwise (· < ·))
    {first second : Nat} (left : first ∈ numbers) (right : second ∈ numbers) :
    [first, second].Sublist numbers ↔ first < second := by
  constructor
  · intro before
    have pair := ascends.sublist before
    exact (List.pairwise_cons.mp pair).1 second (List.mem_singleton.mpr rfl)
  · intro smaller
    induction numbers with
    | nil => cases left
    | cons head rest ih =>
        obtain ⟨above, later⟩ := List.pairwise_cons.mp ascends
        rcases List.mem_cons.mp right with rfl | behind
        · rcases List.mem_cons.mp left with same | there
          · exact absurd smaller (same ▸ Nat.lt_irrefl _)
          · exact absurd (above first there) (Nat.lt_asymm smaller)
        · rcases List.mem_cons.mp left with rfl | there
          · exact (List.singleton_sublist.mpr behind).cons_cons first
          · exact (ih later there behind).cons head

end OClock.LabelledRun
