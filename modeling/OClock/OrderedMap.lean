import Mathlib.Data.Finset.Card
import Mathlib.Tactic.Linarith

/-!
A map sorted by its keys. Lookups after an insertion or an erasure are stated
with equality of keys, and `upperBound` is the first entry above a key.
-/

namespace OClock

abbrev OrderedMap (κ : Type) (α : Type) [Ord κ] := Std.ExtTreeMap κ α

namespace OrderedMap

variable {κ α : Type} [Ord κ] [Std.TransOrd κ]

theorem contains_lookup (map : OrderedMap κ α) (key : κ) :
    map.contains key = map[key]?.isSome := by
  simp

theorem size_insert_new (map : OrderedMap κ α) {key : κ} (value : α)
    (absent : map[key]? = none) : (map.insert key value).size = map.size + 1 := by
  rw [Std.ExtTreeMap.size_insert, contains_lookup, absent]
  rfl

theorem size_erase_present (map : OrderedMap κ α) {key : κ} {value : α}
    (present : map[key]? = some value) : (map.erase key).size + 1 = map.size := by
  have inside : map.contains key = true := by rw [contains_lookup, present]; rfl
  have filled : map.size ≠ 0 := by
    intro none
    have empty : map = ∅ := Std.ExtTreeMap.eq_empty_iff_size_eq_zero.mpr none
    rw [empty] at present
    simp at present
  rw [Std.ExtTreeMap.size_erase, inside, if_pos rfl]
  omega

variable [Std.LawfulEqOrd κ]

theorem lookup_insert [DecidableEq κ] (map : OrderedMap κ α) (key other : κ) (value : α) :
    (map.insert key value)[other]? = if key = other then some value else map[other]? := by
  simp only [Std.ExtTreeMap.getElem?_insert, Std.compare_eq_iff_eq]

theorem lookup_insert_self (map : OrderedMap κ α) (key : κ) (value : α) :
    (map.insert key value)[key]? = some value := by
  simp

theorem lookup_insert_of_ne (map : OrderedMap κ α) {key other : κ} (value : α)
    (different : key ≠ other) : (map.insert key value)[other]? = map[other]? := by
  simp [Std.ExtTreeMap.getElem?_insert, different]

theorem lookup_erase [DecidableEq κ] (map : OrderedMap κ α) (key other : κ) :
    (map.erase key)[other]? = if key = other then none else map[other]? := by
  simp only [Std.ExtTreeMap.getElem?_erase, Std.compare_eq_iff_eq]

/-- What an erasure leaves was there before it, under another key. -/
theorem lookup_erase_some [DecidableEq κ] {map : OrderedMap κ α} {key other : κ} {value : α}
    (left : (map.erase key)[other]? = some value) : key ≠ other ∧ map[other]? = some value := by
  rw [lookup_erase] at left
  by_cases same : key = other
  · rw [if_pos same] at left
    cases left
  · rw [if_neg same] at left
    exact ⟨same, left⟩

theorem lookup_erase_self (map : OrderedMap κ α) (key : κ) :
    (map.erase key)[key]? = none := by
  simp

theorem lookup_erase_of_ne (map : OrderedMap κ α) {key other : κ}
    (different : key ≠ other) : (map.erase key)[other]? = map[other]? := by
  simp [Std.ExtTreeMap.getElem?_erase, different]

theorem lookup_insertIfNew [DecidableEq κ] (map : OrderedMap κ α) {key : κ} (value : α)
    (absent : map[key]? = none) (other : κ) :
    (map.insertIfNew key value)[other]? = if key = other then some value else map[other]? := by
  have outside : key ∉ map := by
    rw [Std.ExtTreeMap.mem_iff_isSome_getElem?, absent]
    exact Bool.false_ne_true
  simp only [Std.ExtTreeMap.getElem?_insertIfNew, Std.compare_eq_iff_eq, outside,
    not_false_eq_true, and_true]

/-- Entries inserted one after the other: the last one of a key stands. -/
theorem lookup_insert_all [DecidableEq κ] (entries : List (κ × α)) (map : OrderedMap κ α)
    (key : κ) :
    (entries.foldl (fun map entry => map.insert entry.1 entry.2) map)[key]? =
      ((entries.reverse.find? fun entry => entry.1 = key).map Prod.snd).or map[key]? := by
  induction entries generalizing map with
  | nil => simp
  | cons entry rest ih =>
      rw [List.foldl_cons, ih, List.reverse_cons, List.find?_append, lookup_insert]
      cases rest.reverse.find? fun entry => entry.1 = key with
      | some found => simp
      | none =>
          by_cases hit : entry.1 = key <;> simp [hit]

/-- Entries of distinct keys: every one of them stands. -/
theorem lookup_insert_distinct [DecidableEq κ] (entries : List (κ × α))
    (distinct : (entries.map Prod.fst).Nodup) (key : κ) :
    (entries.foldl (fun map entry => map.insert entry.1 entry.2) (∅ : OrderedMap κ α))[key]? =
      (entries.find? fun entry => entry.1 = key).map Prod.snd := by
  rw [lookup_insert_all, Std.ExtTreeMap.getElem?_empty, Option.or_none]
  congr 1
  induction entries with
  | nil => rfl
  | cons entry rest ih =>
      obtain ⟨apart, distinct⟩ := List.nodup_cons.mp distinct
      rw [List.reverse_cons, List.find?_append, ih distinct, List.find?_cons]
      by_cases hit : entry.1 = key
      · have none : rest.find? (fun entry => entry.1 = key) = none := by
          rw [List.find?_eq_none]
          intro other inside same
          apply apart
          rw [hit, ← of_decide_eq_true same]
          exact List.mem_map_of_mem inside
        simp [none, hit]
      · simp [hit]

/-- The first entry whose key is above `key`, in the order of the map. -/
def upperBound (map : OrderedMap κ α) (key : κ) : Option (κ × α) :=
  map.toList.find? fun entry => compare key entry.1 == .lt

theorem upperBound_none (map : OrderedMap κ α) (key : κ) :
    map.upperBound key = none ↔ ∀ other value, map[other]? = some value →
      compare key other ≠ .lt := by
  simp only [upperBound, List.find?_eq_none, beq_iff_eq, Prod.forall,
    Std.ExtTreeMap.mem_toList_iff_getElem?_eq_some]

/-- The entry found is the least one above the key. -/
theorem upperBound_some (map : OrderedMap κ α) {key found : κ} {value : α}
    (hit : map.upperBound key = some (found, value)) :
    map[found]? = some value ∧ compare key found = .lt ∧
      ∀ other stored, map[other]? = some stored → compare key other = .lt →
        compare other found ≠ .lt := by
  obtain ⟨above, before, after, split, skipped⟩ := List.find?_eq_some_iff_append.mp hit
  have sorted := Std.ExtTreeMap.ordered_keys_toList (t := map)
  have member : (found, value) ∈ map.toList := by simp [split]
  refine ⟨Std.ExtTreeMap.mem_toList_iff_getElem?_eq_some.mp member, by simpa using above, ?_⟩
  intro other stored present aboveKey lower
  have listed : (other, stored) ∈ map.toList :=
    Std.ExtTreeMap.mem_toList_iff_getElem?_eq_some.mpr present
  rw [split] at sorted listed
  rcases List.mem_append.mp listed with early | late
  · have passed := skipped (other, stored) early
    simp [aboveKey] at passed
  · rcases List.mem_cons.mp late with same | later
    · cases same
      simp at lower
    · have tail := (List.pairwise_cons.mp (List.pairwise_append.mp sorted).2.1).1
      have higher := tail (other, stored) later
      have swapped := Std.OrientedCmp.gt_of_lt higher
      rw [swapped] at lower
      cases lower

end OrderedMap

end OClock
