import OClock.BackgroundTables
import OClock.Decimal

/-!
The slot that the index of a post names, and the slot in which the post is stored. The number of
the index is cut to 32 bits before it is compared with the size of the table, so that a number
far outside of the table can come to lie in it.
-/

namespace OClock.BackgroundSlots
open Text CommonUtils Decimal Images DisplayInternal Slots Backgrounds BackgroundTables LastWrite

/-! ### The number of an index -/

/-- The number that a text begins with, however long it is. A text without one stands for 0. -/
def numberOf (text : Bytes) : Int :=
  let signed := readSign (text.dropWhile isSpace)
  let value := decimalValue (signed.2.takeWhile isDigit)
  if signed.1 then -value else value

/-- The slot that a number names: 0 when it is outside of the table. -/
def slotNamed (count : Nat) (number : Int) : Int :=
  if 0 ≤ number ∧ number < count then number else 0

/-- A number outside of the table that 32 bits show as one of the slots after the first. What
does not even fit an `unsigned long` is read as its largest value, and names no slot. -/
def Strays (count : Nat) (number : Int) : Prop :=
  number.natAbs ≤ unsignedLongMax ∧ ¬ (0 ≤ number ∧ number < count) ∧
    1 ≤ number % 4294967296 ∧ number % 4294967296 < count

instance (count : Nat) (number : Int) : Decidable (Strays count number) := by
  unfold Strays
  infer_instance

theorem int32_low {value : Int} {count : Nat} (small : count ≤ 2147483648) :
    (if int32 value < 0 ∨ (count : Int) ≤ int32 value then 0 else int32 value) =
      if value % 4294967296 < count then value % 4294967296 else 0 := by
  have low : int32 value = value % 4294967296 ∨
      int32 value = value % 4294967296 - 4294967296 ∧ 2147483648 ≤ value % 4294967296 := by
    unfold int32
    rw [Int.bmod_def]
    split
    · exact .inl rfl
    · exact .inr ⟨rfl, by omega⟩
  have range := Int.emod_nonneg value (show (4294967296 : Int) ≠ 0 by decide)
  have high := Int.emod_lt_of_pos value (show (0 : Int) < 4294967296 by decide)
  rcases low with same | ⟨same, top⟩
  · rw [same]
    split <;> split <;> omega
  · rw [same]
    split <;> split <;> omega

theorem strtoul_number (text : Bytes) :
    (strtoul text : Int) =
      if unsignedLongMax < (numberOf text).natAbs then (unsignedLongMax : Int)
      else numberOf text % ((unsignedLongMax : Int) + 1) := by
  unfold strtoul numberOf
  dsimp only
  obtain ⟨negative, digits⟩ := readSign (text.dropWhile isSpace)
  dsimp only
  cases negative with
  | true =>
      simp only [if_true, Int.natAbs_neg, Int.natAbs_natCast]
      generalize decimalValue (digits.takeWhile isDigit) = value
      unfold unsignedLongMax
      split_ifs <;> omega
  | false =>
      simp only [Bool.false_eq_true, if_false, Int.natAbs_natCast]
      generalize decimalValue (digits.takeWhile isDigit) = value
      unfold unsignedLongMax
      split_ifs <;> omega

/-- The slot that is read for an index, by its number. -/
theorem postedIndex_number {count : Nat} (small : count ≤ 2147483648) (value : Bytes) :
    postedIndex count value =
      if Strays count (numberOf value) then numberOf value % 4294967296
      else slotNamed count (numberOf value) := by
  unfold postedIndex
  dsimp only
  rw [int32_low small, strtoul_number]
  generalize numberOf value = number
  unfold Strays slotNamed
  by_cases fits : unsignedLongMax < number.natAbs
  · rw [if_pos fits]
    unfold unsignedLongMax at fits ⊢
    have large : ((18446744073709551615 : Nat) : Int) % 4294967296 = 4294967295 := rfl
    rw [large]
    split_ifs <;> omega
  · rw [if_neg fits]
    unfold unsignedLongMax at fits ⊢
    have whole : number % (((18446744073709551615 : Nat) : Int) + 1) % 4294967296 =
        number % 4294967296 := Int.emod_emod_of_dvd _ (by decide)
    rw [whole]
    split_ifs <;> omega

/-! ### The slot of a post -/

/-- The slot that the last index of a form names, and the first without one. -/
def slotOf (count : Nat) (postValues : StringMap) : Int :=
  ((lastWrite indexOf postValues.toList).map fun value => slotNamed count (numberOf value)).getD 0

/-- The value of a pair whose key is taken for `enabled`. -/
def enabledOf (kvp : Bytes × Bytes) : Option Bytes :=
  if cText kvp.1 ≠ [] ∧ names (cText kvp.1) "enabled" = true then some (cText kvp.2) else none

/-- Whether a form asks for its slot to be enabled. -/
def enabling (postValues : StringMap) : Bool :=
  ((lastWrite enabledOf postValues.toList).map parseBooleanValue).getD false

/-- The last index does not stray; or all slots are cleared and none is enabled. -/
def IndexKept (count : Nat) (postValues : StringMap) : Prop :=
  (∀ value, lastWrite indexOf postValues.toList = some value → ¬ Strays count (numberOf value)) ∨
    cleared postValues = true ∧ enabling postValues = false

section

variable {Item : Type} {count : Nat}

/-- Only the slot that is named changed or, when the table was cleared, the others are
disabled. -/
def OnlyAt (enabled : Item → Bool) (index : Int) (cleared : Bool)
    (before after : Vector Item count) : Prop :=
  ∀ slot : Fin count, (slot : Int) ≠ index →
    if cleared then enabled (after.get slot) = false else after.get slot = before.get slot

theorem storedSlot_kept (small : count ≤ 2147483648) {postValues : StringMap}
    (kept : ∀ value, lastWrite indexOf postValues.toList = some value →
      ¬ Strays count (numberOf value)) : storedSlot count postValues = slotOf count postValues := by
  unfold storedSlot slotOf
  cases last : lastWrite indexOf postValues.toList with
  | none => rw [Option.map_none, Option.map_none]
  | some value =>
      rw [Option.map_some, Option.map_some, postedIndex_number small, if_neg (kept value last)]

/-- A post whose index strays is stored elsewhere than in the slot that is named. -/
theorem storedSlot_strays (small : count ≤ 2147483648) {postValues : StringMap} {value : Bytes}
    (last : lastWrite indexOf postValues.toList = some value)
    (strays : Strays count (numberOf value)) :
    1 ≤ storedSlot count postValues ∧ slotOf count postValues = 0 := by
  unfold storedSlot slotOf
  rw [last, Option.map_some, Option.map_some, postedIndex_number small, if_pos strays]
  obtain ⟨-, outside, later, -⟩ := strays
  exact ⟨later, if_neg outside⟩

variable {reset : Item → Item} {zero : Item} {effect : Bytes → Bytes → Effect Item}
  {enabled : Item → Bool} {postValues : StringMap} {before after : Vector Item count}

theorem stores_only (small : count ≤ 2147483648)
    (disabled : ∀ item, enabled (reset item) = false)
    (asked : enabled (record zero effect postValues) = enabling postValues)
    (stores : Stores reset zero effect postValues before after)
    (kept : IndexKept count postValues) :
    OnlyAt enabled (slotOf count postValues) (cleared postValues) before after := by
  intro slot other
  rw [stores]
  rcases kept with kept | ⟨clear, none⟩
  · rw [storedSlot_kept small kept, if_neg other]
    cases cleared postValues with
    | true => exact disabled _
    | false => rfl
  · rw [clear, if_pos rfl, if_pos rfl]
    split
    · exact asked.trans none
    · exact disabled _

/-- What a post that strays stores is what the slot held, or is not enabled. -/
theorem strayed_shows (small : count ≤ 2147483648) (room : 0 < count)
    (asked : enabled (record zero effect postValues) = enabling postValues)
    (stores : Stores reset zero effect postValues before after)
    (strayed : ¬ IndexKept count postValues)
    (only : OnlyAt enabled (slotOf count postValues) (cleared postValues) before after) :
    cleared postValues = false ∧ ∀ slot : Fin count, (slot : Int) = storedSlot count postValues →
      before.get slot = record zero effect postValues := by
  rw [IndexKept, not_or] at strayed
  obtain ⟨far, open_⟩ := strayed
  push Not at far
  obtain ⟨value, last, strays⟩ := far
  obtain ⟨later, first⟩ := storedSlot_strays small last strays
  have inside := storedSlot_inside room postValues
  have shown : ∀ slot : Fin count, (slot : Int) = storedSlot count postValues →
      if cleared postValues then enabled (record zero effect postValues) = false
      else record zero effect postValues = before.get slot := by
    intro slot here
    have changed := only slot (by omega)
    rwa [stores, if_pos here] at changed
  cases clear : cleared postValues with
  | false =>
      refine ⟨rfl, fun slot here => ?_⟩
      have same := shown slot here
      rw [clear] at same
      exact same.symm
  | true =>
      have none := shown ⟨(storedSlot count postValues).toNat, by omega⟩ (by simp; omega)
      rw [clear, if_pos rfl, asked] at none
      exact absurd ⟨clear, none⟩ open_

end

/-! ### The two handlers -/

theorem place_enabled (key value : Bytes) (background : Background) :
    (place key value background).enabled = background.enabled := by
  unfold place
  split_ifs <;> rfl

theorem imgEffect_enabled (key value : Bytes) (img : BackgroundImg) :
    (edited (imgEffect key value) img).enabled =
      (if key ≠ [] ∧ names key "enabled" = true then some (parseBooleanValue value)
        else none).getD img.enabled := by
  by_cases empty : key = []
  · subst empty
    rw [imgEffect, names_nil, if_pos rfl, if_neg fun both => both.1 rfl]
    rfl
  · unfold imgEffect postedClear
    cases enabled : names key "enabled" with
    | true =>
        rw [names_apart empty enabled (by decide)]
        simp [edited, empty]
    | false =>
        simp only [Bool.false_eq_true, and_false, if_false, Option.getD_none]
        split_ifs <;> first | rfl | exact place_enabled ..

theorem messageEffect_enabled (surroundings : Surroundings) (key value : Bytes)
    (message : BackgroundMessage) :
    (edited (messageEffect surroundings key value) message).enabled =
      (if key ≠ [] ∧ names key "enabled" = true then some (parseBooleanValue value)
        else none).getD message.enabled := by
  by_cases empty : key = []
  · subst empty
    rw [messageEffect, names_nil, if_pos rfl, if_neg fun both => both.1 rfl]
    rfl
  · unfold messageEffect postedClear
    cases enabled : names key "enabled" with
    | true =>
        rw [names_apart empty enabled (by decide), names_apart empty enabled (by decide)]
        simp [edited, empty]
    | false =>
        simp only [Bool.false_eq_true, and_false, if_false, Option.getD_none]
        split_ifs <;> first | rfl | exact place_enabled ..

theorem enabled_written (kvp : Bytes × Bytes) :
    (enabledOf kvp).map parseBooleanValue =
      if cText kvp.1 ≠ [] ∧ names (cText kvp.1) "enabled" = true then
        some (parseBooleanValue (cText kvp.2)) else none := by
  unfold enabledOf
  split <;> rfl

theorem imgRecord_enabled (postValues : StringMap) :
    (record .zero imgEffect postValues).enabled = enabling postValues := by
  rw [enabling, ← lastWrite_map]
  refine foldl_lastWrite (fun img : BackgroundImg => img.enabled) (fun img kvp => ?_) _ _
  rw [enabled_written]
  exact imgEffect_enabled ..

theorem messageRecord_enabled (surroundings : Surroundings) (postValues : StringMap) :
    (record .zero (messageEffect surroundings) postValues).enabled = enabling postValues := by
  rw [enabling, ← lastWrite_map]
  refine foldl_lastWrite (fun message : BackgroundMessage => message.enabled)
    (fun message kvp => ?_) _ _
  rw [enabled_written]
  exact messageEffect_enabled ..

/-! ### A form for a slot -/

/-- A form that places its record in a slot. -/
def placing (index x : Bytes) : StringMap :=
  ((∅ : StringMap).insert (bytes "index") index).insert (bytes "x") x

theorem placing_list (index x : Bytes) :
    (placing index x).toList = [(bytes "index", index), (bytes "x", x)] := rfl

theorem placing_slot {count : Nat} (small : count ≤ 2147483648) (slot : Fin count) (x : Bytes) :
    storedSlot count (placing (decimal slot) x) = slot := by
  have inside := slot.isLt
  have last : lastWrite indexOf (placing (decimal slot) x).toList = some (cText (decimal slot)) := by
    rw [placing_list]
    generalize decimal slot = index
    rfl
  have fits : (slot : Nat) ≤ unsignedLongMax := by
    unfold unsignedLongMax
    omega
  rw [storedSlot, last, Option.map_some, Option.getD_some, cText_decimal, postedIndex,
    strtoul_decimal fits, int32_low small]
  split <;> omega

theorem placing_record {Item : Type} {count : Nat} {zero : Item}
    {effect : Bytes → Bytes → Effect Item}
    (selects : ∀ key value, selected (effect key value) =
      if names key "index" then some (postedIndex count value) else none) (index x : Bytes) :
    record zero effect (placing index x) = edited (effect (bytes "x") (cText x)) zero := by
  have chosen := selects (bytes "index") (cText index)
  have named : cText (bytes "index") = bytes "index" := by decide
  have placed : cText (bytes "x") = bytes "x" := by decide
  rw [if_pos (by decide)] at chosen
  rw [record, placing_list, List.foldl_cons, List.foldl_cons, List.foldl_nil, named, placed]
  cases chooses : effect (bytes "index") (cText index) with
  | select slot => rfl
  | clearAll => simp [chooses, selected] at chosen
  | edit change => simp [chooses, selected] at chosen

theorem placing_x (index : Bytes) :
    (record .zero imgEffect (placing index (bytes "0"))).x = 0 ∧
      (record .zero imgEffect (placing index (bytes "1"))).x = 1 := by
  rw [placing_record imgEffect_selected, placing_record imgEffect_selected]
  decide

theorem placing_message_x (surroundings : Surroundings) (index : Bytes) :
    (record .zero (messageEffect surroundings) (placing index (bytes "0"))).x = 0 ∧
      (record .zero (messageEffect surroundings) (placing index (bytes "1"))).x = 1 := by
  have placed : ∀ value, messageEffect surroundings (bytes "x") value = .edit fun message =>
      { message with toBackground := place (bytes "x") value message.toBackground } := by
    intro value
    unfold messageEffect
    iterate 5 rw [if_neg (by decide)]
  rw [placing_record (messageEffect_selected surroundings),
    placing_record (messageEffect_selected surroundings), placed, placed]
  have start : BackgroundMessage.zero.toBackground = .zero := rfl
  simp only [edited, start]
  decide

/-! ### The posts -/

/-- What a post may change. -/
def ChangesOnly (tables after : Tables) : Post → Prop
  | .img postValues =>
      OnlyAt (fun img => img.enabled) (slotOf backgroundImgCount postValues) (cleared postValues)
        tables.backgroundImg after.backgroundImg ∧
      after.backgroundMessage = tables.backgroundMessage
  | .message _ postValues =>
      OnlyAt (fun message => message.enabled) (slotOf backgroundMessageCount postValues)
        (cleared postValues) tables.backgroundMessage after.backgroundMessage ∧
      after.backgroundImg = tables.backgroundImg

/-- A post whose index is kept as it is. -/
def Kept : Post → Prop
  | .img postValues => IndexKept backgroundImgCount postValues
  | .message _ postValues => IndexKept backgroundMessageCount postValues

theorem kept_changes {post : Post} (kept : Kept post) {tables after : Tables}
    (handled : handle tables post = some after) : ChangesOnly tables after post := by
  cases post with
  | img postValues =>
      obtain ⟨table, stored, stores⟩ := img_stored postValues tables
      obtain rfl := Option.some.inj (handled.symm.trans stored)
      exact ⟨stores_only (by decide) (fun _ => rfl) (imgRecord_enabled _) stores kept, rfl⟩
  | message surroundings postValues =>
      obtain ⟨table, stored, stores⟩ := message_stored surroundings postValues tables
      obtain rfl := Option.some.inj (handled.symm.trans stored)
      exact ⟨stores_only (by decide) (fun _ => rfl) (messageRecord_enabled _ _) stores kept, rfl⟩

theorem handleAll_one (post : Post) : handleAll [post] = handle .initial post := by
  rw [handleAll, List.foldlM_cons]
  exact bind_pure _

/-- A slot of the images can be made to hold records that differ. -/
theorem img_placed (slot : Fin backgroundImgCount) (x : Bytes) :
    ∃ tables, handleAll [.img (placing (decimal slot) x)] = some tables ∧
      tables.backgroundImg.get slot = record .zero imgEffect (placing (decimal slot) x) := by
  obtain ⟨table, stored, stores⟩ := img_stored (placing (decimal slot) x) .initial
  refine ⟨_, (handleAll_one _).trans stored, ?_⟩
  rw [stores, if_pos (placing_slot (by decide) slot x).symm]

theorem message_placed (surroundings : Surroundings) (slot : Fin backgroundMessageCount)
    (x : Bytes) : ∃ tables,
      handleAll [.message surroundings (placing (decimal slot) x)] = some tables ∧
      tables.backgroundMessage.get slot =
        record .zero (messageEffect surroundings) (placing (decimal slot) x) := by
  obtain ⟨table, stored, stores⟩ :=
    message_stored surroundings (placing (decimal slot) x) .initial
  refine ⟨_, (handleAll_one _).trans stored, ?_⟩
  rw [stores, if_pos (placing_slot (by decide) slot x).symm]

/-- A post that strays would have to find its own record in the slot, whatever the slot holds. -/
theorem changes_kept {post : Post} (changes : ∀ posts tables, handleAll posts = some tables →
    ∃ after, handle tables post = some after ∧ ChangesOnly tables after post) : Kept post := by
  cases post with
  | img postValues =>
      by_contra strayed
      obtain ⟨slot, here⟩ : ∃ slot : Fin backgroundImgCount,
          (slot : Int) = storedSlot backgroundImgCount postValues := by
        have inside := storedSlot_inside img_handles.room postValues
        exact ⟨⟨(storedSlot backgroundImgCount postValues).toNat, by omega⟩,
          Int.toNat_of_nonneg inside.1⟩
      have held : ∀ x : Bytes, record .zero imgEffect (placing (decimal slot) x) =
          record .zero imgEffect postValues := by
        intro x
        obtain ⟨tables, placed, holds⟩ := img_placed slot x
        obtain ⟨after, handled, only, -⟩ := changes _ tables placed
        obtain ⟨table, stored, stores⟩ := img_stored postValues tables
        obtain rfl := Option.some.inj (handled.symm.trans stored)
        exact holds.symm.trans ((strayed_shows (by decide) img_handles.room
          (imgRecord_enabled _) stores strayed only).2 slot here)
      obtain ⟨zero, one⟩ := placing_x (decimal slot)
      rw [held] at zero one
      exact absurd (zero.symm.trans one) (by decide)
  | message surroundings postValues =>
      by_contra strayed
      obtain ⟨slot, here⟩ : ∃ slot : Fin backgroundMessageCount,
          (slot : Int) = storedSlot backgroundMessageCount postValues := by
        have inside := storedSlot_inside (message_handles surroundings).room postValues
        exact ⟨⟨(storedSlot backgroundMessageCount postValues).toNat, by omega⟩,
          Int.toNat_of_nonneg inside.1⟩
      have held : ∀ x : Bytes,
          record .zero (messageEffect surroundings) (placing (decimal slot) x) =
            record .zero (messageEffect surroundings) postValues := by
        intro x
        obtain ⟨tables, placed, holds⟩ := message_placed surroundings slot x
        obtain ⟨after, handled, only, -⟩ := changes _ tables placed
        obtain ⟨table, stored, stores⟩ := message_stored surroundings postValues tables
        obtain rfl := Option.some.inj (handled.symm.trans stored)
        exact holds.symm.trans ((strayed_shows (by decide) (message_handles surroundings).room
          (messageRecord_enabled _ _) stores strayed only).2 slot here)
      obtain ⟨zero, one⟩ := placing_message_x surroundings (decimal slot)
      rw [held] at zero one
      exact absurd (zero.symm.trans one) (by decide)

/-- After any posts the tables are well formed and drawn without an access outside an array or a
division by zero; and a post changes, in any such tables, only what it names or clears, if and
only if its index does not stray. -/
theorem background_posts_kept (post : Post) :
    (∀ posts, ∃ tables, handleAll posts = some tables ∧ WellFormed tables ∧
      DrawsProperly tables) ∧
    ((∀ posts tables, handleAll posts = some tables →
      ∃ after, handle tables post = some after ∧ ChangesOnly tables after post) ↔ Kept post) := by
  refine ⟨fun posts => ?_, changes_kept, fun kept posts tables reached => ?_⟩
  · obtain ⟨tables, handled, wellFormed⟩ := handleAll_some posts
    exact ⟨tables, handled, wellFormed, wellFormed_draws wellFormed⟩
  · obtain ⟨same, handled, wellFormed⟩ := handleAll_some posts
    obtain rfl := Option.some.inj (reached.symm.trans handled)
    obtain ⟨after, next, -⟩ := handle_some wellFormed post
    exact ⟨after, next, kept_changes kept next⟩

def farForm : StringMap := (∅ : StringMap).insert (bytes "index") (bytes "-4294967295")

/-- The index is outside of the table and names slot 0; the post changes slot 1. -/
theorem farForm_strays : slotOf backgroundImgCount farForm = 0 ∧ cleared farForm = false ∧
    ∃ after, handle .initial (.img farForm) = some after ∧
      after.backgroundImg.get 1 ≠ Tables.initial.backgroundImg.get 1 ∧
      ¬ ChangesOnly .initial after (.img farForm) := by
  have zero : slotOf backgroundImgCount farForm = 0 := by decide
  have open_ : cleared farForm = false := by decide
  obtain ⟨table, stored, stores⟩ := img_stored farForm .initial
  have other : table.get 1 ≠ Tables.initial.backgroundImg.get 1 := by
    rw [stores, if_pos (by decide), Tables.initial, updateAll_slot]
    exact fun same => absurd (congrArg BackgroundImg.imgArt same) (by decide)
  refine ⟨zero, open_, _, stored, other, fun changes => other ?_⟩
  have only := changes.1 1
  rw [zero, open_] at only
  exact only (by decide)

end OClock.BackgroundSlots
