import Mathlib.Data.List.Chain
import Mathlib.Data.List.Nodup
import Mathlib.Data.List.Range
import Mathlib.Logic.Function.Iterate

/-!
A point that goes up and down over `n` places, one at a time. At the top it turns at once, at the
bottom it stays for one step.
-/

namespace OClock.SweepWalk

structure Place where
  i : Int
  iIncrement : Int

def walk (n : Nat) (place : Place) : Place :=
  if place.i + place.iIncrement = -1 then ⟨0, 1⟩
  else if place.i + place.iIncrement = n then ⟨place.i + place.iIncrement - 2, -1⟩
  else ⟨place.i + place.iIncrement, place.iIncrement⟩

structure Inside (n : Nat) (place : Place) : Prop where
  low : 0 ≤ place.i
  high : place.i < n
  unit : place.iIncrement = 1 ∨ place.iIncrement = -1

/-- Neighbours, or one place twice. -/
def Close (p q : Int) : Prop := q ≤ p + 1 ∧ p ≤ q + 1

theorem walk_inside {n : Nat} (two : 2 ≤ n) {place : Place} (inside : Inside n place) :
    Inside n (walk n place) ∧ Close place.i (walk n place).i := by
  obtain ⟨low, high, unit⟩ := inside
  rw [walk]
  by_cases bottom : place.i + place.iIncrement = -1
  · rw [if_pos bottom]
    refine ⟨⟨?_, ?_, .inl rfl⟩, ?_, ?_⟩ <;> dsimp only <;> omega
  · rw [if_neg bottom]
    by_cases top : place.i + place.iIncrement = n
    · rw [if_pos top]
      refine ⟨⟨?_, ?_, .inr rfl⟩, ?_, ?_⟩ <;> dsimp only <;> omega
    · rw [if_neg top]
      refine ⟨⟨?_, ?_, unit⟩, ?_, ?_⟩ <;> dsimp only <;> omega

theorem iterate_inside {n : Nat} (two : 2 ≤ n) {place : Place} (inside : Inside n place)
    (k : Nat) : Inside n ((walk n)^[k] place) := by
  induction k with
  | zero => exact inside
  | succ k ih =>
      rw [Function.iterate_succ_apply']
      exact (walk_inside two ih).1

/-! ### The places passed -/

/-- The places of the next `count` steps. -/
def trace (n count : Nat) (place : Place) : List Int :=
  (List.range count).map fun k => ((walk n)^[k] place).i

theorem trace_succ (n count : Nat) (place : Place) :
    trace n (count + 1) place = place.i :: trace n count (walk n place) := by
  rw [trace, List.range_succ_eq_map, List.map_cons, List.map_map]
  rfl

theorem trace_add (n first second : Nat) (place : Place) :
    trace n (first + second) place =
      trace n first place ++ trace n second ((walk n)^[first] place) := by
  rw [trace, List.range_add, List.map_append, List.map_map]
  congr 1
  apply List.map_congr_left
  intro k _
  rw [Function.comp_apply, Nat.add_comm, Function.iterate_add_apply]

theorem trace_length (n count : Nat) (place : Place) : (trace n count place).length = count := by
  rw [trace, List.length_map, List.length_range]

theorem trace_at {n count : Nat} {k : Nat} (below : k < count) (place : Place) :
    (trace n count place)[k]? = some ((walk n)^[k] place).i := by
  rw [trace, List.getElem?_map, List.getElem?_range below, Option.map_some]

theorem trace_inside {n : Nat} (two : 2 ≤ n) {place : Place} (inside : Inside n place)
    (count : Nat) : ∀ p ∈ trace n count place, 0 ≤ p ∧ p < n := by
  intro p member
  obtain ⟨k, _, rfl⟩ := List.mem_map.mp member
  have here := iterate_inside two inside k
  exact ⟨here.low, here.high⟩

theorem trace_close {n : Nat} (two : 2 ≤ n) {place : Place} (inside : Inside n place)
    (count : Nat) : (trace n count place).IsChain Close := by
  induction count generalizing place with
  | zero => exact .nil
  | succ count ih =>
      obtain ⟨next, close⟩ := walk_inside two inside
      rw [trace_succ]
      refine (ih next).cons fun q member => ?_
      cases count with
      | zero => cases member
      | succ count =>
          rw [trace_succ] at member
          cases member
          exact close

/-! ### From one end to the other -/

def AtEnd (n : Nat) (p : Int) : Prop := p = 0 ∨ p = (n : Int) - 1

/-- A stretch of places from one end to the other, with neither end in between. -/
structure Sweep (n : Nat) (stretch : List Int) (first : Int) (middle : List Int) (last : Int) :
    Prop where
  cut : stretch = first :: (middle ++ [last])
  starts : AtEnd n first
  ends : AtEnd n last
  crosses : first ≠ last
  between : ∀ p ∈ middle, ¬ AtEnd n p

theorem climb {n k : Nat} (below : k < n) : (walk n)^[k] ⟨0, 1⟩ = ⟨k, 1⟩ := by
  induction k with
  | zero => rfl
  | succ k ih =>
      rw [Function.iterate_succ_apply', ih (by omega), walk]
      dsimp only
      rw [if_neg (by omega), if_neg (by omega)]
      rfl

theorem descend {n : Nat} (two : 2 ≤ n) {place : Place} (inside : Inside n place)
    (top : place.i = (n : Int) - 1) {k : Nat} (below : k + 1 < n) :
    (walk n)^[k + 1] place = ⟨n - 1 - (k + 1), -1⟩ := by
  obtain ⟨_, _, unit⟩ := inside
  induction k with
  | zero =>
      rw [Function.iterate_succ_apply', Function.iterate_zero, id, walk, top]
      rcases unit with up | down
      · rw [up, if_neg (by omega), if_pos (by omega)]
        congr 1
        omega
      · rw [down, if_neg (by omega), if_neg (by omega)]
        congr 1
  | succ k ih =>
      rw [Function.iterate_succ_apply', ih (by omega), walk]
      dsimp only
      rw [if_neg (by omega), if_neg (by omega)]
      congr 1
      push_cast
      omega

section Stretch
variable {n count : Nat} {place : Place} {stretch after middle : List Int} {first last : Int}

theorem stretch_at (cut : trace n count place = stretch ++ after) {k : Nat}
    (below : k < stretch.length) : stretch[k]? = some ((walk n)^[k] place).i := by
  have long : k < count := by
    have length := congrArg List.length cut
    rw [trace_length, List.length_append] at length
    omega
  have here := trace_at (n := n) long place
  rwa [cut, List.getElem?_append_left below] at here

/-- A stretch that starts at an end of a run of `n` places which only then comes to an end again
is that run. -/
theorem sweep_run {f : Nat → Int} (runs : ∀ k < n, ((walk n)^[k] place).i = f k)
    (inner : ∀ k, 0 < k → k + 1 < n → ¬ AtEnd n (f k)) (ends : AtEnd n (f (n - 1))) (two : 2 ≤ n)
    (cut : trace n count place = stretch ++ after) (sweep : Sweep n stretch first middle last) :
    stretch = (List.range n).map f := by
  have length : stretch.length = middle.length + 2 := by
    rw [sweep.cut, List.length_cons, List.length_append, List.length_singleton]
  have final : stretch[middle.length + 1]? = some last := by
    rw [sweep.cut, List.getElem?_cons_succ, List.getElem?_append_right (Nat.le_refl _),
      Nat.sub_self]
    rfl
  rcases Nat.lt_trichotomy (middle.length + 2) n with short | whole | long
  · have here := stretch_at cut (k := middle.length + 1) (by omega)
    rw [final, runs _ (by omega)] at here
    have wrong := inner (middle.length + 1) (by omega) (by omega)
    rw [← Option.some.inj here] at wrong
    exact absurd sweep.ends wrong
  · apply List.ext_getElem?
    intro k
    by_cases below : k < n
    · rw [stretch_at cut (by omega), runs k below, List.getElem?_map, List.getElem?_range below,
        Option.map_some]
    · rw [List.getElem?_eq_none (by omega), List.getElem?_eq_none (by simpa using below)]
  · have here := stretch_at cut (k := n - 1) (by omega)
    have inside : stretch[n - 1]? = middle[n - 2]? := by
      have shift : n - 1 = n - 2 + 1 := by omega
      rw [sweep.cut, shift, List.getElem?_cons_succ, List.getElem?_append_left (by omega)]
    rw [inside, runs _ (by omega)] at here
    exact absurd ends (sweep.between _ (List.mem_of_getElem? here))

theorem down_perm (n : Nat) : ((List.range n).map fun k : Nat => (n : Int) - 1 - k).Perm
    ((List.range n).map Int.ofNat) := by
  apply (List.perm_ext_iff_of_nodup ?_ ?_).mpr
  · intro p
    rw [List.mem_map, List.mem_map]
    constructor
    · rintro ⟨k, below, rfl⟩
      rw [List.mem_range] at below
      refine ⟨n - 1 - k, List.mem_range.mpr (by omega), ?_⟩
      rw [Int.ofNat_eq_natCast]
      omega
    · rintro ⟨k, below, rfl⟩
      rw [List.mem_range] at below
      refine ⟨n - 1 - k, List.mem_range.mpr (by omega), ?_⟩
      rw [Int.ofNat_eq_natCast]
      omega
  · apply List.Nodup.map _ List.nodup_range
    intro j k same
    dsimp only at same
    omega
  · exact List.Nodup.map (fun _ _ same => Int.ofNat_inj.mp same) List.nodup_range

theorem first_sweep (two : 2 ≤ n) (inside : Inside n place)
    (cut : trace n count place = stretch ++ after) (sweep : Sweep n stretch first middle last) :
    stretch.Perm ((List.range n).map Int.ofNat) := by
  have head : first = place.i := by
    have here := stretch_at cut (k := 0) (by rw [sweep.cut]; exact Nat.zero_lt_succ _)
    rw [sweep.cut] at here
    exact Option.some.inj here
  rcases sweep.starts with bottom | top
  · rcases inside.unit with up | down
    · have start : place = ⟨0, 1⟩ := by rw [← bottom, ← up, head]
      have run := sweep_run (f := Int.ofNat) (fun k below => by rw [start, climb below]; rfl)
        (fun k some below ends => by
          rcases ends with ends | ends <;> rw [Int.ofNat_eq_natCast] at ends <;> omega)
        (.inr (by rw [Int.ofNat_eq_natCast]; omega)) two cut sweep
      rw [run]
    · -- The step at the bottom stays there, so that the next place is an end again.
      have next : (walk n place).i = 0 := by
        rw [walk, if_pos (by omega)]
      have here := stretch_at cut (k := 1) (by rw [sweep.cut]; simp)
      rw [sweep.cut, Function.iterate_one, next, List.getElem?_cons_succ] at here
      cases middle with
      | nil =>
          have final : last = 0 := Option.some.inj here
          exact absurd (bottom.trans final.symm) sweep.crosses
      | cons second rest =>
          have early : second = 0 := Option.some.inj here
          exact absurd (.inl early) (sweep.between second List.mem_cons_self)
  · have runs : ∀ k < n, ((walk n)^[k] place).i = (n : Int) - 1 - k := by
      intro k below
      cases k with
      | zero =>
          rw [Function.iterate_zero, id, ← head, top]
          omega
      | succ k =>
          rw [descend two inside (by rw [← head, top]) below]
          push_cast
          rfl
    have run := sweep_run runs (fun k some below ends => by rcases ends with ends | ends <;> omega)
      (.inl (by omega)) two cut sweep
    rw [run]
    exact down_perm n

/-- From one end to the other every place is passed once. -/
theorem sweep_perm {before : List Int} (two : 2 ≤ n) (inside : Inside n place)
    (cut : trace n count place = before ++ (stretch ++ after))
    (sweep : Sweep n stretch first middle last) :
    stretch.Perm ((List.range n).map Int.ofNat) := by
  have length := congrArg List.length cut
  rw [trace_length, List.length_append] at length
  rw [length, trace_add] at cut
  have rest := (List.append_inj cut (trace_length n _ place)).2
  exact first_sweep two (iterate_inside two inside _) rest sweep

end Stretch

end OClock.SweepWalk
