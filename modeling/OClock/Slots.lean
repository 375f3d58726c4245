import Mathlib.Data.List.Range

/-!
Tables of slots that are written through indices which may lie outside of them.
-/

namespace OClock.Slots

variable {Item : Type*} {count : Nat}

/-- An assignment to a slot, which has no result outside the table. -/
def store (table : Vector Item count) (index : Int) (item : Item) : Option (Vector Item count) :=
  if inside : 0 ≤ index ∧ index.toNat < count then some (table.set index.toNat item inside.2)
  else none

/-- A change of a slot, which is left out outside the table. -/
def update (change : Item → Item) (offset : Int) (table : Vector Item count) : Vector Item count :=
  if inside : 0 ≤ offset ∧ offset.toNat < count then
    table.set offset.toNat (change (table.get ⟨offset.toNat, inside.2⟩)) inside.2
  else table

/-- The change of one slot after another. -/
def updateAll (change : Item → Item) (table : Vector Item count) : Vector Item count :=
  (List.range count).foldl (fun table (i : Nat) => update change i table) table

theorem get_set (table : Vector Item count) {i : Nat} (item : Item) (inside : i < count)
    (slot : Fin count) :
    (table.set i item inside).get slot = if i = slot then item else table.get slot :=
  Vector.getElem_set inside slot.isLt

theorem store_some (table : Vector Item count) {index : Int} (item : Item)
    (inside : 0 ≤ index ∧ index < count) : ∃ after, store table index item = some after ∧
      ∀ slot : Fin count, after.get slot =
        if (slot : Int) = index then item else table.get slot := by
  have room : 0 ≤ index ∧ index.toNat < count := by omega
  refine ⟨table.set index.toNat item room.2, dif_pos room, fun slot => ?_⟩
  rw [get_set]
  by_cases here : (slot : Int) = index
  · rw [if_pos here, if_pos (by omega)]
  · rw [if_neg here, if_neg (by omega)]

theorem update_slot (change : Item → Item) (table : Vector Item count) (offset : Nat)
    (slot : Fin count) :
    (update change offset table).get slot =
      if slot = offset then change (table.get slot) else table.get slot := by
  unfold update
  split
  · next inside =>
    rw [get_set]
    by_cases here : (slot : Nat) = offset
    · rw [if_pos here, if_pos (by omega)]
      subst here
      rfl
    · rw [if_neg here, if_neg (by omega)]
  · next outside =>
    have apart : ¬ (slot : Nat) = offset := by omega
    rw [if_neg apart]

/-- The loop changes every slot once. -/
theorem updateAll_slot (change : Item → Item) (table : Vector Item count) (slot : Fin count) :
    (updateAll change table).get slot = change (table.get slot) := by
  have reached : ∀ turns : Nat,
      ((List.range turns).foldl (fun table (i : Nat) => update change i table) table).get slot =
        if slot < turns then change (table.get slot) else table.get slot := by
    intro turns
    induction turns with
    | zero => rfl
    | succ turns ih =>
        rw [List.range_succ, List.foldl_append, List.foldl_cons, List.foldl_nil, update_slot, ih]
        split
        · next here => rw [if_neg (by omega), if_pos (by omega)]
        · next apart =>
          by_cases before : (slot : Nat) < turns
          · rw [if_pos before, if_pos (by omega)]
          · rw [if_neg before, if_neg (by omega)]
  rw [updateAll, reached, if_pos slot.isLt]

end OClock.Slots
