import Mathlib.Algebra.Group.Nat.Defs
import Mathlib.Data.Nat.Basic

/-!
A row of lights that shows a number in binary and is drawn no further than the highest bit of the
number: the lights above it stay as they are. While the number counts up they are dark anyway; when
it has wrapped they are all lit.
-/

namespace OClock.BitDisplay

/-- The lights up to the highest bit of the value are set. -/
def redraw (value : Nat) (lights : Nat → Bool) (p : Nat) : Bool :=
  if 2 ^ p ≤ value then value.testBit p else lights p

/-- The lights of a counter of `width` bits that was drawn at every count, from one below
`2 ^ width` on. -/
def shown (width count p : Nat) : Bool :=
  if count < 2 ^ width ∨ 2 ^ p ≤ count % 2 ^ width then (count % 2 ^ width).testBit p
  else decide (p < width)

theorem redraw_dark (value : Nat) : redraw value (fun _ => false) = value.testBit := by
  funext p
  rw [redraw]
  by_cases above : 2 ^ p ≤ value
  · rw [if_pos above]
  · rw [if_neg above, Nat.testBit_lt_two_pow (Nat.lt_of_not_ge above)]

theorem shown_first {width count : Nat} (small : count < 2 ^ width) :
    shown width count = count.testBit := by
  funext p
  rw [shown, if_pos (.inl small), Nat.mod_eq_of_lt small]

/-- The largest value lights every light. -/
theorem shown_full {width count : Nat} (full : count % 2 ^ width + 1 = 2 ^ width) (p : Nat) :
    shown width count p = decide (p < width) := by
  have value : count % 2 ^ width = 2 ^ width - 1 := Nat.eq_sub_of_add_eq full
  rw [shown, value, Nat.testBit_two_pow_sub_one, ite_self]

theorem shown_above {width count p : Nat} (above : count % 2 ^ width < 2 ^ p) :
    shown width count p = (decide (2 ^ width ≤ count) && decide (p < width)) := by
  rw [shown]
  by_cases small : count < 2 ^ width
  · rw [if_pos (.inl small), Nat.testBit_lt_two_pow above]
    simp [Nat.not_le.mpr small]
  · rw [if_neg (not_or.mpr ⟨small, Nat.not_le.mpr above⟩)]
    simp [Nat.le_of_not_gt small]

/-- Counting on by one. -/
theorem redraw_shown (width count : Nat) :
    redraw ((count + 1) % 2 ^ width) (shown width count) = shown width (count + 1) := by
  funext p
  rw [redraw]
  by_cases above : 2 ^ p ≤ (count + 1) % 2 ^ width
  · rw [if_pos above, shown, if_pos (.inr above)]
  · have next : (count + 1) % 2 ^ width = (count % 2 ^ width + 1) % 2 ^ width :=
      (Nat.mod_add_mod count (2 ^ width) 1).symm
    have bound := Nat.mod_lt count (Nat.two_pow_pos width)
    rw [if_neg above, shown_above (Nat.lt_of_not_ge above)]
    by_cases full : count % 2 ^ width + 1 = 2 ^ width
    · have large : 2 ^ width ≤ count + 1 := by
        have most := Nat.mod_le count (2 ^ width)
        omega
      rw [shown_full full, decide_eq_true large, Bool.true_and]
    · have value : (count + 1) % 2 ^ width = count % 2 ^ width + 1 := by
        rw [next, Nat.mod_eq_of_lt (by omega)]
      have apart : count + 1 ≠ 2 ^ width := by
        intro same
        rw [same, Nat.mod_self] at value
        omega
      rw [shown_above (by omega)]
      congr 2
      apply propext
      omega

/-- The first lights show the value if and only if it has not wrapped yet, or has reached the
highest of them again. -/
theorem shown_right_iff {width lights : Nat} (some : 0 < lights) (room : lights ≤ width)
    (count : Nat) :
    (∀ p < lights, shown width count p = (count % 2 ^ width).testBit p) ↔
      count < 2 ^ width ∨ 2 ^ (lights - 1) ≤ count % 2 ^ width := by
  constructor
  · intro right
    by_contra wrong
    obtain ⟨wrapped, above⟩ := not_or.mp wrong
    have low := Nat.lt_of_not_ge above
    have last := right (lights - 1) (by omega)
    rw [shown_above low, Nat.testBit_lt_two_pow low] at last
    have inside : lights - 1 < width := by omega
    simp [inside] at last
    exact wrapped last
  · intro fits p below
    rw [shown, if_pos]
    apply fits.imp_right
    intro reached
    have order : 2 ^ p ≤ 2 ^ (lights - 1) := Nat.pow_le_pow_right (by decide) (by omega)
    exact Nat.le_trans order reached

end OClock.BitDisplay
