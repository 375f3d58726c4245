import Mathlib.Data.List.Basic

/-!
Computations that may fail and that log what they do on the way, with the entry of the step
that failed as the last one.
-/

namespace OClock

structure LoggedSteps (Entry α : Type) where
  log : List Entry
  result : Option α

namespace LoggedSteps

variable {Entry α β : Type}

instance : Monad (LoggedSteps Entry) where
  pure value := ⟨[], some value⟩
  bind first next :=
    match first.result with
    | none => ⟨first.log, none⟩
    | some value => ⟨first.log ++ (next value).log, (next value).result⟩

/-- One step, which is logged. -/
def did (entry : Entry) (result : Option α) : LoggedSteps Entry α := ⟨[entry], result⟩

@[simp] theorem did_result (entry : Entry) (result : Option α) :
    (did entry result).result = result := rfl

@[simp] theorem pure_result (value : α) :
    (pure value : LoggedSteps Entry α).result = some value := rfl

@[simp] theorem bind_result (first : LoggedSteps Entry α) (next : α → LoggedSteps Entry β) :
    (first >>= next).result = first.result.bind fun value => (next value).result := by
  obtain ⟨log, result⟩ := first
  cases result <;> rfl

/-- Every entry of the log has a property. -/
def All (holds : Entry → Prop) (computation : LoggedSteps Entry α) : Prop :=
  ∀ entry ∈ computation.log, holds entry

variable {holds : Entry → Prop}

theorem all_pure (value : α) : All holds (pure value : LoggedSteps Entry α) :=
  fun _ inside => by cases inside

theorem all_did {entry : Entry} (result : Option α) (one : holds entry) :
    All holds (did entry result) := by
  intro other inside
  rw [List.mem_singleton.mp inside]
  exact one

theorem all_bind {first : LoggedSteps Entry α} {next : α → LoggedSteps Entry β}
    (before : All holds first)
    (after : ∀ value, first.result = some value → All holds (next value)) :
    All holds (first >>= next) := by
  obtain ⟨log, result⟩ := first
  cases result with
  | none => exact before
  | some value =>
      intro entry inside
      rcases List.mem_append.mp inside with earlier | later
      · exact before entry earlier
      · exact after value rfl entry later

/-- The entries of a kind add up. -/
theorem count_bind (kind : Entry → Bool) (first : LoggedSteps Entry α)
    (next : α → LoggedSteps Entry β) :
    (first >>= next).log.countP kind = first.log.countP kind +
      first.result.elim 0 fun value => (next value).log.countP kind := by
  obtain ⟨log, result⟩ := first
  cases result with
  | none => rfl
  | some value => exact List.countP_append ..

end LoggedSteps

end OClock
