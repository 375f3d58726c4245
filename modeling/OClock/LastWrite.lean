import Mathlib.Data.List.Induction

/-!
Items worked through one after another, some of which write a value: in the end the value is
that of the last one that does.
-/

namespace OClock.LastWrite

variable {State Item Value : Type*}

def lastWrite (write : Item → Option Value) (items : List Item) : Option Value :=
  items.reverse.findSome? write

@[simp] theorem lastWrite_nil (write : Item → Option Value) :
    lastWrite write ([] : List Item) = none := rfl

@[simp] theorem lastWrite_append (write : Item → Option Value) (items : List Item) (item : Item) :
    lastWrite write (items ++ [item]) = (write item).or (lastWrite write items) := by
  cases found : write item <;> simp [lastWrite, found]

theorem lastWrite_none {write : Item → Option Value} {items : List Item} :
    lastWrite write items = none ↔ ∀ item ∈ items, write item = none := by
  simp [lastWrite]

theorem lastWrite_map {Other : Type*} (write : Item → Option Value) (read : Value → Other)
    (items : List Item) :
    lastWrite (fun item => (write item).map read) items = (lastWrite write items).map read := by
  induction items using List.reverseRecOn with
  | nil => rfl
  | append_singleton items item ih =>
      rw [lastWrite_append, lastWrite_append, ih]
      cases write item <;> rfl

/-- A part of the state that every step either sets to what its item writes or leaves alone. -/
theorem foldl_lastWrite {step : State → Item → State} (get : State → Value)
    {write : Item → Option Value}
    (writes : ∀ state item, get (step state item) = (write item).getD (get state))
    (items : List Item) (start : State) :
    get (items.foldl step start) = (lastWrite write items).getD (get start) := by
  induction items using List.reverseRecOn with
  | nil => rfl
  | append_singleton items item ih =>
      rw [List.foldl_append, List.foldl_cons, List.foldl_nil, writes, ih, lastWrite_append]
      cases write item <;> rfl

end OClock.LastWrite
