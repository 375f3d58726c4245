import Mathlib.Data.List.Basic

/-!
A point that swings between 0 and an edge in equal steps. It turns when it has gone past one of
them, so it leaves its room by less than a step; the edge may be another one at every step.
-/

namespace OClock.BouncingPoint

structure Point where
  place : Int
  pace : Int

/-- The point is past 0 on its way back, or has reached the edge on its way there. -/
def Turns (edge : Int) (point : Point) : Prop :=
  (point.pace < 0 ∧ point.place < 0) ∨ (0 < point.pace ∧ edge ≤ point.place)

instance (edge : Int) (point : Point) : Decidable (Turns edge point) :=
  inferInstanceAs (Decidable ((_ ∧ _) ∨ (_ ∧ _)))

def stepped (point : Point) : Point := { point with place := point.place + point.pace }

def turned (point : Point) : Point := { point with pace := -point.pace }

def move (point : Point) (edge : Int) : Point :=
  if Turns edge (stepped point) then turned (stepped point) else stepped point

/-- A point on its way there has not passed `far`, one on its way back started from there. -/
def Within (step far : Int) (point : Point) : Prop :=
  (point.pace = step ∧ -step ≤ point.place ∧ point.place ≤ far) ∨
    (point.pace = -step ∧ 0 ≤ point.place ∧ point.place ≤ far + step)

variable {step far : Int} {point : Point}

theorem within_place (positive : 0 < step) (within : Within step far point) :
    -step ≤ point.place ∧ point.place ≤ far + step := by
  have low : -step ≤ 0 := Int.neg_nonpos_of_nonneg (Int.le_of_lt positive)
  have high : far ≤ far + step := Int.le_add_of_nonneg_right (Int.le_of_lt positive)
  rcases within with ⟨_, least, most⟩ | ⟨_, least, most⟩
  · exact ⟨least, Int.le_trans most high⟩
  · exact ⟨Int.le_trans low least, most⟩

theorem within_pace (within : Within step far point) :
    point.pace = step ∨ point.pace = -step :=
  within.imp And.left And.left

theorem move_place (point : Point) (edge : Int) :
    (move point edge).place = point.place + point.pace := by
  rw [move]
  split <;> rfl

/-- The pace changes at a turn and nowhere else. -/
theorem move_pace (moving : point.pace ≠ 0) (edge : Int) :
    ((move point edge).pace ≠ point.pace ↔ Turns edge (stepped point)) ∧
      ((move point edge).pace ≠ point.pace → (move point edge).pace = -point.pace) := by
  rw [move]
  by_cases turns : Turns edge (stepped point)
  · rw [if_pos turns]
    have changed : -point.pace ≠ point.pace := by omega
    exact ⟨iff_of_true changed turns, fun _ => rfl⟩
  · rw [if_neg turns]
    exact ⟨iff_of_false (fun changed => changed rfl) turns, fun changed => absurd rfl changed⟩

theorem move_within (positive : 0 < step) {edge : Int} (low : 0 ≤ edge) (high : edge ≤ far)
    (within : Within step far point) : Within step far (move point edge) := by
  obtain ⟨place, pace⟩ := point
  rw [move]
  by_cases turns : Turns edge (stepped ⟨place, pace⟩)
  · rw [if_pos turns]
    rcases within with ⟨rfl, least, most⟩ | ⟨rfl, least, most⟩
    · rcases turns with ⟨wrong, _⟩ | ⟨_, reached⟩
      · exact absurd wrong (Int.not_lt.mpr (Int.le_of_lt positive))
      · exact .inr ⟨rfl, Int.le_trans low reached, Int.add_le_add_right most pace⟩
    · rcases turns with ⟨_, past⟩ | ⟨wrong, _⟩
      · have least' : -step ≤ place + -step := Int.le_add_of_nonneg_left least
        have most' : place + -step ≤ far :=
          Int.le_trans (Int.le_of_lt past) (Int.le_trans low high)
        exact .inl ⟨Int.neg_neg step, least', most'⟩
      · exact absurd wrong (Int.not_lt.mpr (Int.neg_nonpos_of_nonneg (Int.le_of_lt positive)))
  · rw [if_neg turns]
    obtain ⟨ahead, behind⟩ := not_or.mp turns
    rcases within with ⟨rfl, least, most⟩ | ⟨rfl, least, most⟩
    · -- The edge is not reached, and it is not beyond `far`.
      have before : place + pace < edge := Int.not_le.mp fun reached => behind ⟨positive, reached⟩
      exact .inl ⟨rfl, Int.le_trans least (Int.le_add_of_nonneg_right (Int.le_of_lt positive)),
        Int.le_trans (Int.le_of_lt before) high⟩
    · have back : -step < 0 := Int.neg_neg_of_pos positive
      have inside : 0 ≤ place + -step := Int.not_lt.mp fun past => ahead ⟨back, past⟩
      have nearer : place + -step ≤ place := by omega
      exact .inr ⟨rfl, inside, Int.le_trans nearer most⟩

/-- Whatever the edges are, as long as none is beyond `far`. -/
theorem run_within (positive : 0 < step) (edges : List Int)
    (room : ∀ edge ∈ edges, 0 ≤ edge ∧ edge ≤ far) (within : Within step far point) :
    Within step far (edges.foldl move point) := by
  induction edges generalizing point with
  | nil => exact within
  | cons edge rest ih =>
      obtain ⟨⟨low, high⟩, later⟩ := List.forall_mem_cons.mp room
      exact ih later (move_within positive low high within)

end OClock.BouncingPoint
