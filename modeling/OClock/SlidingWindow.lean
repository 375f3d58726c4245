import Mathlib.Algebra.BigOperators.Group.List.Basic
import Mathlib.Algebra.Order.BigOperators.Group.List
import Mathlib.Algebra.Order.Group.Abs
import Mathlib.Data.List.DropRight
import Mathlib.Tactic.Abel

/-!
A window over the latest values of a stream. Before a value comes in, the oldest ones go until
there is room for it; one value in bounds moves the sum of a full window no further than the
bounds lie apart.
-/

namespace OClock.SlidingWindow

universe u

section Window

variable {Value : Type u}

def trim (size : Nat) : List Value → List Value
  | [] => []
  | first :: rest => if size ≤ (first :: rest).length then trim size rest else first :: rest

def push (size : Nat) (window : List Value) (value : Value) : List Value :=
  trim size window ++ [value]

theorem trim_of_room {size : Nat} {window : List Value} (room : window.length < size) :
    trim size window = window := by
  cases window with
  | nil => rfl
  | cons first rest => exact if_neg (Nat.not_le.mpr room)

theorem trim_of_full {size : Nat} (some : 0 < size) {window : List Value}
    (full : window.length = size) : trim size window = window.tail := by
  cases window with
  | nil => exact absurd full (Nat.ne_of_lt some)
  | cons first rest =>
      have room : rest.length < size := full ▸ Nat.lt_succ_self rest.length
      rw [trim, if_pos (Nat.le_of_eq full.symm)]
      exact trim_of_room room

/-- The window holds the latest values of its stream. -/
theorem push_latest {size : Nat} (some : 0 < size) (stream : List Value) (value : Value) :
    push size (stream.rtake size) value = (stream ++ [value]).rtake size := by
  obtain ⟨room, rfl⟩ := Nat.exists_eq_succ_of_ne_zero (Nat.ne_of_gt some)
  have kept : trim (room + 1) (stream.rtake (room + 1)) = stream.rtake room := by
    rcases Nat.lt_or_ge stream.length (room + 1) with few | many
    · have whole : stream.rtake (room + 1) = stream := by
        rw [List.rtake, Nat.sub_eq_zero_of_le (Nat.le_of_lt few), List.drop_zero]
      rw [whole, trim_of_room few, List.rtake,
        Nat.sub_eq_zero_of_le (Nat.le_of_lt_succ few), List.drop_zero]
    · have full : (stream.rtake (room + 1)).length = room + 1 := by
        rw [List.rtake, List.length_drop]
        omega
      rw [trim_of_full some full, List.rtake, List.rtake, List.tail_drop]
      congr 1
      omega
  rw [push, kept, List.rtake_concat_succ]

end Window

section Sum

variable {Value : Type u} [AddCommGroup Value] [LinearOrder Value] [IsOrderedAddMonoid Value]

/-- One value takes the place of another in a full window. -/
theorem push_sum_near {size : Nat} (some : 0 < size) {window : List Value} {value low high : Value}
    (full : window.length = size) (within : ∀ old ∈ window, low ≤ old ∧ old ≤ high)
    (new : low ≤ value ∧ value ≤ high) :
    |(push size window value).sum - window.sum| ≤ high - low := by
  obtain ⟨first, rest, rfl⟩ := List.exists_cons_of_length_pos (full ▸ some)
  have old := within first List.mem_cons_self
  have moved : (push size (first :: rest) value).sum - (first :: rest).sum = value - first := by
    rw [push, trim_of_full some full, List.tail_cons, List.sum_append, List.sum_singleton,
      List.sum_cons]
    abel
  rw [moved, abs_le, neg_sub]
  exact ⟨sub_le_sub new.1 old.2, sub_le_sub new.2 old.1⟩

/-- How far the sum of the latest values moves while more of them come in. -/
theorem latest_sum_near {size : Nat} (some : 0 < size) {stream : List Value} {low high : Value}
    (full : size ≤ stream.length) (values : List Value)
    (within : ∀ value ∈ stream ++ values, low ≤ value ∧ value ≤ high) :
    |((stream ++ values).rtake size).sum - (stream.rtake size).sum| ≤
      values.length • (high - low) := by
  induction values using List.reverseRecOn with
  | nil => simp
  | append_singleton values value ih =>
      rw [← List.append_assoc] at within ⊢
      have earlier := ih fun old there => within old (List.mem_append_left _ there)
      have window : ((stream ++ values).rtake size).length = size := by
        rw [List.rtake, List.length_drop, List.length_append]
        omega
      have one := push_sum_near some window
        (fun old there => within old (List.mem_append_left _ (List.mem_of_mem_drop there)))
        (within value (List.mem_append_right _ List.mem_cons_self))
      rw [push_latest some] at one
      rw [List.length_append, List.length_singleton, add_nsmul, one_nsmul, add_comm]
      calc _ ≤ |((stream ++ values ++ [value]).rtake size).sum
              - ((stream ++ values).rtake size).sum|
            + |((stream ++ values).rtake size).sum - (stream.rtake size).sum| :=
            abs_sub_le _ _ _
        _ ≤ _ := add_le_add one earlier

end Sum

end OClock.SlidingWindow
