import Mathlib.Data.List.Basic
import Mathlib.Data.List.Infix

/-!
Samples of a value that starts somewhere: what was seen last, and how many samples in a row
have been like the one before them.
-/

namespace OClock.SteadySamples

variable {Value : Type*}

def latest (start : Value) (samples : List Value) : Value := samples.getLastD start

@[simp] theorem latest_nil (start : Value) : latest start [] = start := rfl

@[simp] theorem latest_append (start : Value) (samples : List Value) (sample : Value) :
    latest start (samples ++ [sample]) = sample := by
  simp [latest, List.getLastD_eq_getLast?]

theorem reverse_append (start : Value) (samples : List Value) (sample : Value) :
    (start :: (samples ++ [sample])).reverse = sample :: (start :: samples).reverse := by
  rw [← List.cons_append, List.reverse_append, List.reverse_singleton, List.singleton_append]

/-- The history ends with what was seen last. -/
theorem reverse_latest (start : Value) (samples : List Value) :
    ∃ earlier, (start :: samples).reverse = latest start samples :: earlier := by
  induction samples using List.reverseRecOn with
  | nil => exact ⟨[], rfl⟩
  | append_singleton samples sample _ =>
      exact ⟨(start :: samples).reverse, by rw [latest_append, reverse_append]⟩

variable [DecidableEq Value]

/-- The samples since the value last changed, or since the start. -/
def steady (start : Value) (samples : List Value) : Nat :=
  ((start :: samples).reverse.takeWhile (· = latest start samples)).length - 1

@[simp] theorem steady_nil (start : Value) : steady start [] = 0 := by
  simp [steady]

theorem steady_append (start : Value) (samples : List Value) (sample : Value) :
    steady start (samples ++ [sample]) =
      if sample = latest start samples then steady start samples + 1 else 0 := by
  obtain ⟨earlier, before⟩ := reverse_latest start samples
  unfold steady
  rw [latest_append, reverse_append, before]
  by_cases same : sample = latest start samples
  · simp [same]
  · have changed : ¬ latest start samples = sample := fun equal => same equal.symm
    simp [same, changed]

theorem steady_replicate (start : Value) (count : Nat) :
    latest start (List.replicate count start) = start ∧
      steady start (List.replicate count start) = count := by
  induction count with
  | zero => simp
  | succ count ih =>
      rw [List.replicate_succ', latest_append, steady_append, ih.1, ih.2, if_pos rfl]
      exact ⟨rfl, rfl⟩

/-- The count goes up one by one: a count that was reached was met on the way. -/
theorem steady_met (start : Value) (samples : List Value) {count : Nat}
    (reached : count ≤ steady start samples) :
    ∃ past, past <+: samples ∧ steady start past = count := by
  induction samples using List.reverseRecOn with
  | nil =>
      rw [steady_nil] at reached
      exact ⟨[], List.prefix_rfl, by rw [steady_nil, Nat.le_zero.mp reached]⟩
  | append_singleton samples sample ih =>
      rcases Nat.lt_or_ge (steady start samples) count with above | below
      · refine ⟨samples ++ [sample], List.prefix_rfl, ?_⟩
        rw [steady_append] at reached ⊢
        by_cases same : sample = latest start samples
        · rw [if_pos same] at reached ⊢
          omega
        · rw [if_neg same] at reached ⊢
          omega
      · obtain ⟨past, earlier, met⟩ := ih below
        exact ⟨past, earlier.trans (List.prefix_append ..), met⟩

end OClock.SteadySamples
