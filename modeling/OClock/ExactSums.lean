import Mathlib.Data.List.Basic

/-!
The results of the sums of `int` that a computation evaluates, and runs of which each step
evaluates some. The states of a run are those of exact sums, so they tell what happens as long
as no sum has left the range.
-/

namespace OClock.ExactSums

def intMin : Int := -2147483648
def intMax : Int := 2147483647

def IsInt (value : Int) : Prop := intMin ≤ value ∧ value ≤ intMax

instance (value : Int) : Decidable (IsInt value) :=
  inferInstanceAs (Decidable (intMin ≤ value ∧ value ≤ intMax))

/-- Every sum is in the range of `int`. -/
def Exact (sums : List Int) : Prop := ∀ sum ∈ sums, IsInt sum

instance (sums : List Int) : Decidable (Exact sums) :=
  inferInstanceAs (Decidable (∀ sum ∈ sums, IsInt sum))

@[simp] theorem exact_nil : Exact [] := List.forall_mem_nil _

@[simp] theorem exact_cons {sum : Int} {rest : List Int} :
    Exact (sum :: rest) ↔ IsInt sum ∧ Exact rest := List.forall_mem_cons

@[simp] theorem exact_append {first second : List Int} :
    Exact (first ++ second) ↔ Exact first ∧ Exact second := List.forall_mem_append

theorem exact_flatMap {α : Type*} {items : List α} {sums : α → List Int} :
    Exact (items.flatMap sums) ↔ ∀ item ∈ items, Exact (sums item) := by
  constructor
  · intro exact item inside sum member
    exact exact sum (List.mem_flatMap.mpr ⟨item, inside, member⟩)
  · intro each sum member
    obtain ⟨item, inside, listed⟩ := List.mem_flatMap.mp member
    exact each item inside sum listed

theorem isInt_small {value : Int} (low : -65536 ≤ value) (high : value ≤ 65536) : IsInt value :=
  ⟨Int.le_trans (by decide) low, Int.le_trans high (by decide)⟩

/-! ### Runs -/

section Run

variable {State Event : Type*} (act : State → Event → State)

def runSums (sums : State → Event → List Int) : State → List Event → List Int
  | _, [] => []
  | state, event :: rest => sums state event ++ runSums sums (act state event) rest

/-- Holds of every step of a run, with the state before it. -/
def EachStep (holds : State → Event → Prop) : State → List Event → Prop
  | _, [] => True
  | state, event :: rest => holds state event ∧ EachStep holds (act state event) rest

variable {act}

/-- Steps that are exact under a condition, and then keep what the condition was found for. -/
theorem run_exact_iff {sums : State → Event → List Int} {inv : State → Prop}
    {safe : State → Event → Prop}
    (exact : ∀ state event, inv state → (Exact (sums state event) ↔ safe state event))
    (kept : ∀ state event, inv state → safe state event → inv (act state event))
    {state : State} (start : inv state) (events : List Event) :
    Exact (runSums act sums state events) ↔ EachStep act safe state events := by
  induction events generalizing state with
  | nil => exact iff_of_true exact_nil trivial
  | cons event rest ih =>
      rw [runSums, EachStep, exact_append, exact state event start]
      exact and_congr_right fun here => ih (kept state event start here)

end Run

end OClock.ExactSums
