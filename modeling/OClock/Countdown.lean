import Mathlib.Algebra.Order.Group.Nat
import Mathlib.Tactic.Linarith

/-!
A down counter that fires when a tick brings it to zero and, when periodic,
is loaded again with its period by that same tick. Tick `k + 1` is the tick
after `k` earlier ones.
-/

namespace OClock.Countdown

/-- Whether this tick fires, and what is left after it. -/
def tick (period : Nat) (periodic : Bool) (left : Nat) : Bool × Nat :=
  if 0 < left then
    if left - 1 = 0 then (true, if periodic then period else 0) else (false, left - 1)
  else (false, left)

def leftAfter (period : Nat) (periodic : Bool) (left : Nat) : Nat → Nat
  | 0 => left
  | k + 1 => (tick period periodic (leftAfter period periodic left k)).2

/-- Whether tick `k + 1` fires. -/
def fires (period : Nat) (periodic : Bool) (left k : Nat) : Bool :=
  (tick period periodic (leftAfter period periodic left k)).1

/-- The ticks at which a counter loaded with `period` is due. -/
def Due (period : Nat) (periodic : Bool) (n : Nat) : Prop :=
  if periodic then period ∣ n else n = period

instance (period : Nat) (periodic : Bool) (n : Nat) : Decidable (Due period periodic n) := by
  unfold Due
  infer_instance

theorem idle_tick (period : Nat) (periodic : Bool) : tick period periodic 0 = (false, 0) := rfl

theorem one_shot_tick (period left : Nat) : (tick period false left).2 = left - 1 := by
  unfold tick
  by_cases running : 0 < left
  · by_cases last : left - 1 = 0 <;> simp [running, last]
  · have spent : left = 0 := by omega
    simp [spent]

theorem one_shot_left (period left k : Nat) : leftAfter period false left k = left - k := by
  induction k with
  | zero => rfl
  | succ k ih =>
      rw [leftAfter, ih, one_shot_tick]
      omega

/-- A periodic counter runs down through the residues of the elapsed ticks. -/
theorem periodic_left (period k : Nat) (positive : 0 < period) :
    leftAfter period true period k = period - k % period := by
  induction k with
  | zero => simp [leftAfter]
  | succ k ih =>
      have below : k % period < period := Nat.mod_lt k positive
      rw [leftAfter, ih]
      by_cases wraps : k % period + 1 = period
      · have next : (k + 1) % period = 0 := by
          rw [← Nat.mod_add_mod, wraps, Nat.mod_self]
        have last : period - k % period - 1 = 0 := by omega
        have running : 0 < period - k % period := by omega
        simp [tick, running, last, next]
      · have next : (k + 1) % period = k % period + 1 := by
          rw [← Nat.mod_add_mod, Nat.mod_eq_of_lt (by omega)]
        have more : ¬ period - k % period - 1 = 0 := by omega
        have running : 0 < period - k % period := by omega
        simp only [tick, running, more, if_true, if_false, next]
        omega

theorem tick_fires_iff (period : Nat) (periodic : Bool) (left : Nat) :
    (tick period periodic left).1 = true ↔ left = 1 := by
  unfold tick
  by_cases running : 0 < left
  · by_cases last : left - 1 = 0
    · simp [running, last]
      omega
    · simp [running, last]
      omega
  · simp [running]
    omega

/-- A counter loaded with its period fires exactly at the ticks it is due. -/
theorem fires_iff_due (period : Nat) (periodic : Bool) (k : Nat) (positive : 0 < period) :
    fires period periodic period k = true ↔ Due period periodic (k + 1) := by
  rw [fires, tick_fires_iff]
  cases periodic with
  | false =>
      rw [one_shot_left]
      simp only [Due, Bool.false_eq_true, if_false]
      omega
  | true =>
      rw [periodic_left period k positive]
      simp only [Due, if_true]
      have below : k % period < period := Nat.mod_lt k positive
      constructor
      · intro last
        have wraps : k % period + 1 = period := by omega
        apply Nat.dvd_of_mod_eq_zero
        rw [← Nat.mod_add_mod, wraps, Nat.mod_self]
      · intro divides
        by_contra more
        have inside : k % period + 1 < period := by omega
        have residue := Nat.mod_eq_zero_of_dvd divides
        rw [← Nat.mod_add_mod, Nat.mod_eq_of_lt inside] at residue
        omega

end OClock.Countdown
