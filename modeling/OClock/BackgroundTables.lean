import Mathlib.Data.List.FinRange
import OClock.Backgrounds
import OClock.LastWrite

/-!
Whatever is posted, the tables of the backgrounds stay well formed: a post stores one record in
a slot of the table, and the loops that draw access nothing outside an array.
-/

namespace OClock.BackgroundTables
open Text CommonUtils Images DisplayInternal DrawCalls Slots Backgrounds LastWrite

/-! ### A form that is worked through -/

section Handler

variable {Item : Type} {count : Nat}

def selected : Effect Item → Option Int
  | .select index => some index
  | .clearAll | .edit _ => none

def clears : Effect Item → Bool
  | .clearAll => true
  | .select _ | .edit _ => false

variable {reset : Item → Item} {effects : Bytes × Bytes → Effect Item}

/-- The pairs of a form, with the effect of each. -/
def worked (reset : Item → Item) (effects : Bytes × Bytes → Effect Item)
    (pairs : List (Bytes × Bytes)) (start : Posting Item count) : Posting Item count :=
  pairs.foldl (fun posting kvp => perform reset posting (effects kvp)) start

theorem worked_index (pairs : List (Bytes × Bytes)) (start : Posting Item count) :
    (worked reset effects pairs start).index =
      (lastWrite (fun kvp => selected (effects kvp)) pairs).getD start.index := by
  refine foldl_lastWrite Posting.index (fun posting kvp => ?_) pairs start
  cases effects kvp <;> rfl

/-- A slot that is reset twice is as if it had been reset once. -/
theorem worked_table (again : ∀ item, reset (reset item) = reset item)
    (pairs : List (Bytes × Bytes)) (start : Posting Item count) (slot : Fin count) :
    (worked reset effects pairs start).table.get slot =
      if pairs.any (fun kvp => clears (effects kvp)) then reset (start.table.get slot)
      else start.table.get slot := by
  induction pairs using List.reverseRecOn with
  | nil => rfl
  | append_singleton pairs kvp ih =>
      unfold worked at ih ⊢
      rw [List.foldl_append, List.foldl_cons, List.foldl_nil, List.any_append, List.any_cons,
        List.any_nil, Bool.or_false]
      cases effects kvp with
      | select index => rw [clears, Bool.or_false]; exact ih
      | edit change => rw [clears, Bool.or_false]; exact ih
      | clearAll =>
          rw [clears, Bool.or_true, if_pos rfl, perform, updateAll_slot, ih]
          split
          · exact again _
          · rfl

def edited : Effect Item → Item → Item
  | .edit change => change
  | .select _ | .clearAll => id

/-- The record is filled in whatever the table holds. -/
theorem worked_item (pairs : List (Bytes × Bytes)) (start : Posting Item count) :
    (worked reset effects pairs start).item =
      pairs.foldl (fun item kvp => edited (effects kvp) item) start.item := by
  induction pairs using List.reverseRecOn with
  | nil => rfl
  | append_singleton pairs kvp ih =>
      unfold worked at ih ⊢
      simp only [List.foldl_append, List.foldl_cons, List.foldl_nil]
      rw [← ih]
      cases effects kvp <;> rfl

end Handler

/-! ### The keys -/

/-- The value of a pair whose key is taken for the index. -/
def indexOf (kvp : Bytes × Bytes) : Option Bytes :=
  if names (cText kvp.1) "index" then some (cText kvp.2) else none

/-- The slot in which a form is stored. -/
def storedSlot (count : Nat) (postValues : StringMap) : Int :=
  ((lastWrite indexOf postValues.toList).map (postedIndex count)).getD 0

/-- A key for `clearAll` with a value that is true. -/
def isClear (kvp : Bytes × Bytes) : Bool :=
  cText kvp.1 ≠ [] && names (cText kvp.1) "clearAll" && parseBooleanValue (cText kvp.2)

def cleared (postValues : StringMap) : Bool := postValues.toList.any isClear

theorem names_head {c : UInt8} {rest : Bytes} {word : String}
    (named : names (c :: rest) word = true) : (bytes word).head?.map toLower = some (toLower c) := by
  unfold names beginsCaseless sameCaseless at named
  generalize bytes word = text at named
  cases text with
  | nil => simp at named
  | cons d more =>
      rw [List.length_cons, List.take_succ_cons, List.map_cons, List.map_cons, beq_iff_eq] at named
      exact congrArg some (List.cons.inj named).1

/-- A key that is not empty names no two words with different first letters. -/
theorem names_apart {key : Bytes} {word other : String} (some : key ≠ [])
    (named : names key word = true)
    (apart : (bytes word).head?.map toLower ≠ (bytes other).head?.map toLower) :
    names key other = false := by
  cases key with
  | nil => exact absurd rfl some
  | cons c rest =>
      rw [← Bool.not_eq_true]
      exact fun both => apart ((names_head named).trans (names_head both).symm)

theorem names_nil (word : String) : names [] word = true := by
  unfold names beginsCaseless
  rfl

theorem imgEffect_selected (key value : Bytes) : selected (imgEffect key value) =
    if names key "index" then some (postedIndex backgroundImgCount value) else none := by
  unfold imgEffect postedClear
  cases names key "index"
  case true => rfl
  cases names key "enabled"
  case true => rfl
  cases names key "clearAll"
  case true => cases parseBooleanValue value <;> rfl
  cases names key "imgArt" <;> rfl

theorem messageEffect_selected (surroundings : Surroundings) (key value : Bytes) :
    selected (messageEffect surroundings key value) =
      if names key "index" then some (postedIndex backgroundMessageCount value) else none := by
  unfold messageEffect postedClear
  cases names key "index"
  case true => rfl
  cases names key "msg"
  case true => rfl
  cases names key "enabled"
  case true => rfl
  cases names key "clearAll"
  case true => cases parseBooleanValue value <;> rfl
  cases names key "font" <;> rfl

theorem postedClear_clears {Item : Type} (value : Bytes) :
    clears (postedClear value : Effect Item) = parseBooleanValue value := by
  unfold postedClear
  cases parseBooleanValue value <;> rfl

theorem imgEffect_clears (key value : Bytes) : clears (imgEffect key value) =
    (key ≠ [] && names key "clearAll" && parseBooleanValue value) := by
  by_cases empty : key = []
  · subst empty
    rw [imgEffect, names_nil, if_pos rfl]
    rfl
  · rw [decide_eq_true empty, Bool.true_and]
    unfold imgEffect
    cases clear : names key "clearAll" with
    | true =>
        rw [names_apart empty clear (by decide), names_apart empty clear (by decide)]
        exact postedClear_clears value
    | false =>
        cases names key "index"
        case true => rfl
        cases names key "enabled"
        case true => rfl
        cases names key "imgArt" <;> rfl

theorem messageEffect_clears (surroundings : Surroundings) (key value : Bytes) :
    clears (messageEffect surroundings key value) =
      (key ≠ [] && names key "clearAll" && parseBooleanValue value) := by
  by_cases empty : key = []
  · subst empty
    rw [messageEffect, names_nil, if_pos rfl]
    rfl
  · rw [decide_eq_true empty, Bool.true_and]
    unfold messageEffect
    cases clear : names key "clearAll" with
    | true =>
        rw [names_apart empty clear (by decide), names_apart empty clear (by decide),
          names_apart empty clear (by decide)]
        exact postedClear_clears value
    | false =>
        cases names key "index"
        case true => rfl
        cases names key "msg"
        case true => rfl
        cases names key "enabled"
        case true => rfl
        cases names key "font" <;> rfl

theorem postedIndex_inside {count : Nat} (room : 0 < count) (value : Bytes) :
    0 ≤ postedIndex count value ∧ postedIndex count value < count := by
  unfold postedIndex
  dsimp only
  split <;> omega

/-! ### A post -/

section Post

variable {Item : Type} {count : Nat}

/-- What the two handlers have in common. -/
structure Handles (reset : Item → Item) (effect : Bytes → Bytes → Effect Item) (count : Nat) :
    Prop where
  room : 0 < count
  again : ∀ item, reset (reset item) = reset item
  selects : ∀ key value, selected (effect key value) =
    if names key "index" then some (postedIndex count value) else none
  clearing : ∀ key value, clears (effect key value) =
    (key ≠ [] && names key "clearAll" && parseBooleanValue value)

variable {reset : Item → Item} {zero : Item} {effect : Bytes → Bytes → Effect Item}

theorem index_storedSlot (selects : ∀ key value, selected (effect key value) =
      if names key "index" then some (postedIndex count value) else none)
    (postValues : StringMap) :
    (lastWrite (fun kvp : Bytes × Bytes => selected (effect (cText kvp.1) (cText kvp.2)))
      postValues.toList).getD 0 = storedSlot count postValues := by
  rw [storedSlot, ← lastWrite_map]
  congr 2
  funext kvp
  rw [selects, indexOf]
  split <;> rfl

theorem any_cleared (clearing : ∀ key value, clears (effect key value) =
      (key ≠ [] && names key "clearAll" && parseBooleanValue value)) (postValues : StringMap) :
    (postValues.toList.any fun kvp => clears (effect (cText kvp.1) (cText kvp.2))) =
      cleared postValues := by
  rw [cleared]
  congr 1
  funext kvp
  exact clearing _ _

theorem storedSlot_inside (room : 0 < count) (postValues : StringMap) :
    0 ≤ storedSlot count postValues ∧ storedSlot count postValues < count := by
  unfold storedSlot
  cases lastWrite indexOf postValues.toList with
  | none =>
      rw [Option.map_none, Option.getD_none]
      exact ⟨Int.le_refl 0, Int.natCast_pos.mpr room⟩
  | some value =>
      rw [Option.map_some, Option.getD_some]
      exact postedIndex_inside room value

/-- The record that a form fills in. -/
def record (zero : Item) (effect : Bytes → Bytes → Effect Item) (postValues : StringMap) : Item :=
  postValues.toList.foldl (fun item kvp => edited (effect (cText kvp.1) (cText kvp.2)) item) zero

/-- What every edit of a record keeps. -/
theorem record_holds {holds : Item → Prop} (first : holds zero)
    (edits : ∀ key value change item, effect key value = .edit change → holds item →
      holds (change item)) (postValues : StringMap) : holds (record zero effect postValues) := by
  unfold record
  induction postValues.toList using List.reverseRecOn with
  | nil => exact first
  | append_singleton pairs kvp ih =>
      rw [List.foldl_append, List.foldl_cons, List.foldl_nil]
      cases edit : effect (cText kvp.1) (cText kvp.2) with
      | select index => exact ih
      | clearAll => exact ih
      | edit change => exact edits _ _ change _ edit ih

/-- The slots of a table after a form. -/
def Stores (reset : Item → Item) (zero : Item) (effect : Bytes → Bytes → Effect Item)
    (postValues : StringMap) (before after : Vector Item count) : Prop :=
  ∀ slot : Fin count, after.get slot =
    if (slot : Int) = storedSlot count postValues then record zero effect postValues
    else if cleared postValues then reset (before.get slot) else before.get slot

/-- A record is stored in the slot of the form, and the others are reset or left alone. -/
theorem handlePost_stores (handles : Handles reset effect count) (postValues : StringMap)
    (table : Vector Item count) :
    ∃ after, handlePost reset zero effect postValues table = some after ∧
      Stores reset zero effect postValues table after := by
  have same : handlePost reset zero effect postValues table =
      let posting := worked reset (fun kvp => effect (cText kvp.1) (cText kvp.2))
        postValues.toList ⟨0, zero, table⟩
      store posting.table posting.index posting.item := rfl
  have index := @worked_index Item count reset (fun kvp => effect (cText kvp.1) (cText kvp.2))
    postValues.toList ⟨0, zero, table⟩
  have slots := @worked_table Item count reset (fun kvp => effect (cText kvp.1) (cText kvp.2))
    handles.again postValues.toList ⟨0, zero, table⟩
  have filled : (worked reset (fun kvp => effect (cText kvp.1) (cText kvp.2)) postValues.toList
      ⟨0, zero, table⟩).item = record zero effect postValues := worked_item _ _
  rw [index_storedSlot handles.selects] at index
  simp only [any_cleared handles.clearing] at slots
  -- From here on only the index, the slots and the record of the posting matter.
  generalize worked reset (fun kvp => effect (cText kvp.1) (cText kvp.2)) postValues.toList
    ⟨0, zero, table⟩ = posting at same index slots filled
  obtain ⟨after, stored, others⟩ :=
    store_some posting.table posting.item (storedSlot_inside handles.room postValues)
  refine ⟨after, ?_, fun slot => ?_⟩
  · rw [← index] at stored
    rw [same]
    exact stored
  · rw [others, slots, filled]

theorem stores_keeps {holds : Item → Prop} (kept : ∀ item, holds item → holds (reset item))
    {postValues : StringMap} {before after : Vector Item count}
    (stores : Stores reset zero effect postValues before after)
    (stored : holds (record zero effect postValues))
    (all : ∀ slot : Fin count, holds (before.get slot)) (slot : Fin count) :
    holds (after.get slot) := by
  rw [stores]
  split
  · exact stored
  · split
    · exact kept _ (all slot)
    · exact all slot

end Post

/-! ### The two tables -/

def HasImage (img : BackgroundImg) : Prop := img.imgArt < imgArtLast ∨ img.imgArt = imgArtLast

def HasText (message : BackgroundMessage) : Prop := 0 ∈ message.msg

structure WellFormed (tables : Tables) : Prop where
  images : ∀ slot : Fin backgroundImgCount, HasImage (tables.backgroundImg.get slot)
  texts : ∀ slot : Fin backgroundMessageCount, HasText (tables.backgroundMessage.get slot)

theorem img_handles : Handles resetImg imgEffect backgroundImgCount where
  room := by decide
  again _ := rfl
  selects := imgEffect_selected
  clearing := imgEffect_clears

theorem message_handles (surroundings : Surroundings) :
    Handles resetMessage (messageEffect surroundings) backgroundMessageCount where
  room := by decide
  again _ := rfl
  selects := messageEffect_selected surroundings
  clearing := messageEffect_clears surroundings

theorem postedImgArt_known (value : Bytes) : postedImgArt value < imgArtLast := by
  unfold postedImgArt
  dsimp only
  split
  · decide
  · next inside =>
    rw [not_or] at inside
    exact UInt32.not_le.mp inside.2

theorem imgEffect_edits {key value : Bytes} {change : BackgroundImg → BackgroundImg}
    {img : BackgroundImg} (effect : imgEffect key value = .edit change) (known : HasImage img) :
    HasImage (change img) := by
  have found := postedImgArt_known value
  unfold imgEffect postedClear at effect
  generalize postedImgArt value = imgArt at effect found
  split_ifs at effect
  all_goals cases effect
  case pos => exact known
  case neg => exact known
  case pos => exact Or.inl found
  case neg => exact known

theorem printInto_text {size : Nat} (some : 0 < size) (text : Bytes) (buffer : Vector UInt8 size) :
    0 ∈ printInto text buffer := by
  have length : ((cText text).take (size - 1)).length < size := by
    rw [List.length_take]
    omega
  refine Vector.mem_ofFn.mpr ⟨⟨_, length⟩, ?_⟩
  rw [List.getElem?_append_right (Nat.le_refl _), Nat.sub_self]
  rfl

theorem messageEffect_edits {surroundings : Surroundings} {key value : Bytes}
    {change : BackgroundMessage → BackgroundMessage} {message : BackgroundMessage}
    (effect : messageEffect surroundings key value = .edit change) (ended : HasText message) :
    HasText (change message) := by
  have printed := printInto_text (by decide : 0 < backgroundMessageMsgSize)
    (postedText surroundings value) message.msg
  unfold messageEffect postedClear at effect
  split_ifs at effect
  all_goals cases effect
  case pos => exact printed
  all_goals exact ended

/-! ### Posts -/

inductive Post where
  | img (postValues : StringMap)
  | message (surroundings : Surroundings) (postValues : StringMap)

def handle (tables : Tables) : Post → Option Tables
  | .img postValues => do
      return { tables with
        backgroundImg := ← doHandleImgBackgroundPost postValues tables.backgroundImg }
  | .message surroundings postValues => do
      return { tables with
        backgroundMessage :=
          ← doHandleMsgBackgroundPost surroundings postValues tables.backgroundMessage }

/-- The tables after posts, from what `initDisplay` makes of them. -/
def handleAll (posts : List Post) : Option Tables := posts.foldlM handle .initial

theorem resetImg_known (img : BackgroundImg) : HasImage (resetImg img) := Or.inr rfl

theorem resetMessage_ended (message : BackgroundMessage) : HasText (resetMessage message) :=
  Vector.mem_replicate.mpr ⟨by decide, rfl⟩

theorem initial_wellFormed : WellFormed .initial where
  images slot := by
    rw [Tables.initial, updateAll_slot]
    exact resetImg_known _
  texts slot := by
    rw [Tables.initial, updateAll_slot]
    exact resetMessage_ended _

theorem img_stored (postValues : StringMap) (tables : Tables) :
    ∃ table, handle tables (.img postValues) = some { tables with backgroundImg := table } ∧
      Stores resetImg .zero imgEffect postValues tables.backgroundImg table := by
  obtain ⟨table, stored, stores⟩ :=
    @handlePost_stores _ _ _ .zero _ img_handles postValues tables.backgroundImg
  refine ⟨table, ?_, stores⟩
  rw [handle, doHandleImgBackgroundPost, stored]
  rfl

theorem message_stored (surroundings : Surroundings) (postValues : StringMap) (tables : Tables) :
    ∃ table, handle tables (.message surroundings postValues) =
        some { tables with backgroundMessage := table } ∧
      Stores resetMessage .zero (messageEffect surroundings) postValues
        tables.backgroundMessage table := by
  obtain ⟨table, stored, stores⟩ :=
    @handlePost_stores _ _ _ .zero _ (message_handles surroundings) postValues
      tables.backgroundMessage
  refine ⟨table, ?_, stores⟩
  rw [handle, doHandleMsgBackgroundPost, stored]
  rfl

theorem handle_some {tables : Tables} (wellFormed : WellFormed tables) (post : Post) :
    ∃ after, handle tables post = some after ∧ WellFormed after := by
  cases post with
  | img postValues =>
      obtain ⟨table, handled, stores⟩ := img_stored postValues tables
      have blank : HasImage BackgroundImg.zero := Or.inl (by decide)
      have known : HasImage (record .zero imgEffect postValues) :=
        record_holds blank (fun _ _ _ _ effect => imgEffect_edits effect) postValues
      exact ⟨_, handled, stores_keeps (fun img _ => resetImg_known img) stores known
        wellFormed.images, wellFormed.texts⟩
  | message surroundings postValues =>
      obtain ⟨table, handled, stores⟩ := message_stored surroundings postValues tables
      have blank : HasText BackgroundMessage.zero :=
        Vector.mem_replicate.mpr ⟨by decide, rfl⟩
      have ended : HasText (record .zero (messageEffect surroundings) postValues) :=
        record_holds blank (fun _ _ _ _ effect => messageEffect_edits effect) postValues
      exact ⟨_, handled, wellFormed.images, stores_keeps
        (fun message _ => resetMessage_ended message) stores ended wellFormed.texts⟩

theorem handleAll_some (posts : List Post) :
    ∃ tables, handleAll posts = some tables ∧ WellFormed tables := by
  induction posts using List.reverseRecOn with
  | nil => exact ⟨.initial, rfl, initial_wellFormed⟩
  | append_singleton posts post ih =>
      obtain ⟨tables, before, wellFormed⟩ := ih
      obtain ⟨after, handled, kept⟩ := handle_some wellFormed post
      refine ⟨after, ?_, kept⟩
      unfold handleAll at before ⊢
      rw [List.foldlM_append, before]
      exact (congrArg (· >>= pure) handled).trans rfl

/-! ### The drawing -/

theorem drawBackground_some (tickers : Tickers) (background : Background) {call : DrawCall}
    (proper : call.Proper) : ∃ calls, drawBackground tickers background (some call) = some calls ∧
      ∀ other ∈ calls, other.Proper := by
  obtain ⟨animated, animates⟩ := willAnimate_some tickers background.animation
  refine ⟨_, drawBackground_eq animates call, ?_⟩
  split
  · exact onBoards_proper _ proper
  · exact List.forall_mem_nil _

/-- Where every slot is drawn, the loop draws them one after another. -/
theorem eachSlot_eq {Item : Type} {count : Nat} {turn : Item → Option (List DrawCall)}
    {table : Vector Item count} {calls : Fin count → List DrawCall}
    (turns : ∀ slot : Fin count, turn (table.get slot) = some (calls slot)) :
    eachSlot turn table = some ((List.finRange count).flatMap calls) := by
  have reached : ∀ slots : List (Fin count),
      ((slots.map Fin.val).mapM fun i => do turn (← table[i]?)) = some (slots.map calls) := by
    intro slots
    induction slots with
    | nil => rfl
    | cons slot rest ih =>
        rw [List.map_cons, List.mapM_cons, ih, Vector.getElem?_eq_getElem slot.isLt]
        exact (congrArg (· >>= fun drawn => pure (drawn :: rest.map calls)) (turns slot)).trans rfl
  rw [eachSlot, ← List.map_coe_finRange_eq_range, reached]
  rfl

theorem eachSlot_some {Item : Type} {count : Nat} {turn : Item → Option (List DrawCall)}
    {table : Vector Item count}
    (turns : ∀ slot : Fin count, ∃ calls, turn (table.get slot) = some calls ∧
      ∀ call ∈ calls, call.Proper) :
    ∃ calls, eachSlot turn table = some calls ∧ ∀ call ∈ calls, call.Proper := by
  choose calls drawn proper using turns
  refine ⟨_, eachSlot_eq drawn, fun call inside => ?_⟩
  obtain ⟨slot, _, listed⟩ := List.mem_flatMap.mp inside
  exact proper slot call listed

theorem images_some (tickers : Tickers) (table : ImgTable) :
    ∃ calls, drawBackgroundImgs tickers table = some calls ∧ ∀ call ∈ calls, call.Proper :=
  eachSlot_some fun slot =>
    drawBackground_some tickers _ (getImgArtInfo_member (table.get slot).imgArt)

theorem messageCall_some {message : BackgroundMessage} (ended : HasText message) :
    ∃ call, messageCall message = some call ∧ call.Proper := by
  obtain ⟨stop, terminated⟩ := List.mem_iff_getElem?.mp (Vector.mem_toList_iff.mpr ended)
  obtain ⟨text, read⟩ := Buffer.cString_some (Nat.zero_le stop) terminated
  exact ⟨.drawText text message.x message.y message.font, by rw [messageCall, read]; rfl, trivial⟩

theorem messages_some (tickers : Tickers) {table : MessageTable}
    (texts : ∀ slot : Fin backgroundMessageCount, HasText (table.get slot)) :
    ∃ calls, drawBackgroundMessages tickers table = some calls ∧ ∀ call ∈ calls, call.Proper := by
  refine eachSlot_some fun slot => ?_
  obtain ⟨call, read, proper⟩ := messageCall_some (texts slot)
  rw [drawMessage, read]
  exact drawBackground_some tickers _ proper

/-- What the two loops draw, from any tickers, is all inside the arrays and on the two boards. -/
def DrawsProperly (tables : Tables) : Prop :=
  ∀ tickers, ∃ messages images,
    drawBackgroundMessages tickers tables.backgroundMessage = some messages ∧
    drawBackgroundImgs tickers tables.backgroundImg = some images ∧
    (∀ targetBuffer, .drawTarget targetBuffer ∈ messages ++ images →
      targetBuffer = 0 ∨ targetBuffer = 1) ∧
    ∀ arrays display, (drawAllAt arrays (messages ++ images) display).isSome

theorem wellFormed_draws {tables : Tables} (wellFormed : WellFormed tables) :
    DrawsProperly tables := by
  intro tickers
  obtain ⟨messages, written, ownMessages⟩ := messages_some tickers wellFormed.texts
  obtain ⟨images, painted, ownImages⟩ := images_some tickers tables.backgroundImg
  have proper : ∀ call ∈ messages ++ images, call.Proper := by
    intro call inside
    exact (List.mem_append.mp inside).elim (ownMessages call) (ownImages call)
  refine ⟨messages, images, written, painted, fun targetBuffer => proper _, ?_⟩
  intro arrays display
  rw [drawAllAt_some arrays proper]
  rfl

end OClock.BackgroundTables
