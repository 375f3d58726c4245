import OClock.BackgroundTables
import OClock.MessageRange

/-!
Where the images and the texts of the background stay in the range of `int`.
-/

namespace OClock.BackgroundRange
open Text CommonUtils Fonts Images DisplayInternal DrawCalls Slots Backgrounds BackgroundTables
open TextBounds (fontTables)
open ExactSums DrawSums DrawRange MessageSums MessageRange

/-- A background is drawn at these tickers. -/
def Drawn (tickers : Tickers) (background : Background) : Prop :=
  background.enabled = true ∧ willAnimate tickers background.animation = some true

/-- An image whose lower edge is in the range and, unless it is above the screen, its right one. -/
def ImgInside (img : BackgroundImg) : Prop :=
  let imgArtInfo := getImgArtInfo img.imgArt
  img.y + imgArtInfo.height.toNat ≤ intMax ∧
    (0 ≤ img.y + imgArtInfo.height.toNat → img.x + imgArtInfo.width.toNat ≤ intMax)

/-- A text whose lower edge is in the range. -/
def MessageInside (message : BackgroundMessage) : Prop :=
  message.y + getFontHeight message.font ≤ intMax

/-- The place of a background as it was posted. -/
def Placed (background : Background) : Prop := IsInt background.x ∧ IsInt background.y

variable {arrays : FontArrays} {tickers : Tickers}

theorem onBoards_exact_iff (displayColor : UInt32) (call : DrawCall) :
    Exact ((onBoards displayColor call).flatMap (callSums arrays)) ↔
      Exact (callSums arrays call) := by
  unfold onBoards
  rw [exact_flatMap]
  constructor
  · intro all
    obtain ⟨boardId, first⟩ : ∃ boardId, boardId ∈ boards displayColor := by
      unfold boards
      split
      · exact ⟨_, List.mem_cons_self⟩
      · exact ⟨_, List.mem_cons_self⟩
    exact all call (List.mem_flatMap.mpr
      ⟨boardId, first, List.mem_cons_of_mem _ List.mem_cons_self⟩)
  · intro exact other inside
    obtain ⟨boardId, _, listed⟩ := List.mem_flatMap.mp inside
    rcases List.mem_pair.mp listed with rfl | rfl
    · exact exact_nil
    · exact exact

theorem background_exact_iff {background : Background} {call : DrawCall} {calls : List DrawCall}
    (drawn : drawBackground tickers background (some call) = some calls) :
    Exact (calls.flatMap (callSums arrays)) ↔
      (Drawn tickers background → Exact (callSums arrays call)) := by
  obtain ⟨animated, animates⟩ := willAnimate_some tickers background.animation
  rw [drawBackground_eq animates] at drawn
  cases drawn
  unfold Drawn
  rw [animates, Option.some.injEq, ← Bool.and_eq_true]
  cases background.enabled && animated with
  | true => rw [if_pos rfl, forall_prop_of_true rfl, onBoards_exact_iff]
  | false =>
      rw [if_neg Bool.false_ne_true]
      exact iff_of_true exact_nil fun never => absurd never Bool.false_ne_true

theorem eachSlot_exact_iff {Item : Type} {count : Nat} {turn : Item → Option (List DrawCall)}
    {table : Vector Item count} {holds : Item → Prop}
    (turns : ∀ slot : Fin count, ∃ calls, turn (table.get slot) = some calls ∧
      (Exact (calls.flatMap (callSums arrays)) ↔ holds (table.get slot))) :
    Exact (((eachSlot turn table).getD []).flatMap (callSums arrays)) ↔
      ∀ slot : Fin count, holds (table.get slot) := by
  choose calls drawn exact using turns
  rw [eachSlot_eq drawn, Option.getD_some, List.flatMap_assoc, exact_flatMap]
  constructor
  · exact fun all slot => (exact slot).mp (all slot (List.mem_finRange slot))
  · exact fun all slot _ => (exact slot).mpr (all slot)

theorem images_exact_iff {table : ImgTable}
    (placed : ∀ slot : Fin backgroundImgCount, Placed (table.get slot).toBackground) :
    Exact (((drawBackgroundImgs tickers table).getD []).flatMap (callSums arrays)) ↔
      ∀ slot : Fin backgroundImgCount, Drawn tickers (table.get slot).toBackground →
        ImgInside (table.get slot) := by
  refine @eachSlot_exact_iff arrays _ _ (drawImg tickers) table
    (fun img => Drawn tickers img.toBackground → ImgInside img) fun slot => ?_
  have proper : (imgCall (table.get slot)).Proper := getImgArtInfo_member (table.get slot).imgArt
  obtain ⟨calls, drawn, _⟩ := drawBackground_some tickers (table.get slot).toBackground proper
  refine ⟨calls, drawn, ?_⟩
  rw [background_exact_iff drawn]
  exact imp_congr_right fun _ => image_exact_iff
    (imgArt_small (table.get slot).imgArt (table.get slot).x (table.get slot).y)
    (placed slot).1 (placed slot).2

theorem messages_exact_iff {table : MessageTable}
    (texts : ∀ slot : Fin backgroundMessageCount, HasText (table.get slot))
    (placed : ∀ slot : Fin backgroundMessageCount, Placed (table.get slot).toBackground) :
    Exact (((drawBackgroundMessages tickers table).getD []).flatMap (callSums arrays)) ↔
      ∀ slot : Fin backgroundMessageCount, Drawn tickers (table.get slot).toBackground →
        MessageInside (table.get slot) := by
  refine @eachSlot_exact_iff arrays _ _ (drawMessage tickers) table
    (fun message => Drawn tickers message.toBackground → MessageInside message) fun slot => ?_
  obtain ⟨stop, terminated⟩ := List.mem_iff_getElem?.mp (Vector.mem_toList_iff.mpr (texts slot))
  obtain ⟨text, read⟩ := Buffer.cString_some (Nat.zero_le stop) terminated
  have call : messageCall (table.get slot) =
      some (.drawText text (table.get slot).x (table.get slot).y (table.get slot).font) := by
    rw [messageCall, read]
    rfl
  have proper : (DrawCall.drawText text (table.get slot).x (table.get slot).y
    (table.get slot).font).Proper := trivial
  obtain ⟨calls, drawn, _⟩ := drawBackground_some tickers (table.get slot).toBackground proper
  refine ⟨calls, by rw [drawMessage, call, drawn], ?_⟩
  rw [background_exact_iff drawn]
  exact imp_congr_right fun _ => text_exact_iff (fontTables_small arrays (table.get slot).font) _
    (placed slot).1 (placed slot).2

/-! ### The places that are posted -/

theorem place_placed (key value : Bytes) {background : Background} (placed : Placed background) :
    Placed (place key value background) := by
  have posted := int32_isInt (strtoul value)
  unfold place
  dsimp only
  generalize int32 (strtoul value) = number at posted
  generalize strtoul value = unsigned
  split_ifs
  case pos => exact ⟨posted, placed.2⟩
  case pos => exact ⟨placed.1, posted⟩
  all_goals exact placed

theorem imgEffect_places {key value : Bytes} {change : BackgroundImg → BackgroundImg}
    {img : BackgroundImg} (effect : imgEffect key value = .edit change)
    (placed : Placed img.toBackground) : Placed (change img).toBackground := by
  unfold imgEffect postedClear at effect
  split_ifs at effect
  all_goals cases effect
  all_goals first | exact placed | exact place_placed key value placed

theorem messageEffect_places {surroundings : Surroundings} {key value : Bytes}
    {change : BackgroundMessage → BackgroundMessage} {message : BackgroundMessage}
    (effect : messageEffect surroundings key value = .edit change)
    (placed : Placed message.toBackground) : Placed (change message).toBackground := by
  unfold messageEffect postedClear at effect
  split_ifs at effect
  all_goals cases effect
  all_goals first | exact placed | exact place_placed key value placed

/-- Every place in the tables is one of `int`. -/
structure InPlace (tables : Tables) : Prop where
  images : ∀ slot : Fin backgroundImgCount, Placed (tables.backgroundImg.get slot).toBackground
  texts : ∀ slot : Fin backgroundMessageCount,
    Placed (tables.backgroundMessage.get slot).toBackground

theorem origin_placed {background : Background} (x : background.x = 0) (y : background.y = 0) :
    Placed background := by
  unfold Placed
  rw [x, y]
  decide

theorem initial_inPlace : InPlace .initial where
  images slot := by
    rw [Tables.initial, updateAll_slot]
    exact origin_placed rfl rfl
  texts slot := by
    rw [Tables.initial, updateAll_slot]
    exact origin_placed rfl rfl

theorem handle_inPlace {tables after : Tables} (inPlace : InPlace tables) {post : Post}
    (handled : handle tables post = some after) : InPlace after := by
  cases post with
  | img postValues =>
      obtain ⟨table, stored, stores⟩ := img_stored postValues tables
      rw [stored] at handled
      cases handled
      have placed : Placed (record .zero imgEffect postValues).toBackground :=
        @record_holds _ _ _ (fun img : BackgroundImg => Placed img.toBackground)
          (origin_placed rfl rfl) (fun _ _ _ _ effect => imgEffect_places effect) postValues
      exact ⟨@stores_keeps _ _ _ _ _ (fun img : BackgroundImg => Placed img.toBackground)
        (fun _ _ => origin_placed rfl rfl) _ _ _ stores placed inPlace.images, inPlace.texts⟩
  | message surroundings postValues =>
      obtain ⟨table, stored, stores⟩ := message_stored surroundings postValues tables
      rw [stored] at handled
      cases handled
      have placed : Placed (record .zero (messageEffect surroundings) postValues).toBackground :=
        @record_holds _ _ _ (fun message : BackgroundMessage => Placed message.toBackground)
          (origin_placed rfl rfl) (fun _ _ _ _ effect => messageEffect_places effect) postValues
      exact ⟨inPlace.images, @stores_keeps _ _ _ _ _
        (fun message : BackgroundMessage => Placed message.toBackground)
        (fun _ _ => origin_placed rfl rfl) _ _ _ stores placed inPlace.texts⟩

end OClock.BackgroundRange
