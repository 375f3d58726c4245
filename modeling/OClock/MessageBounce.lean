import OClock.BouncingPoint
import OClock.MessageColumns

/-!
The bounce effect. Up and down a message is a swinging point whose edge is the lowest row of its
font, and what is drawn of it is on the panel.
-/

namespace OClock.MessageBounce
open Text CommonUtils Fonts DisplayInternal DrawCalls MessageFrame MessagePost MessageRun
open DisplayPanel BouncingPoint

/-! ### The point -/

def pointOf (data : ModeMessageData) : Point := ⟨data.currYFactor, data.incrementY⟩

/-- The lowest row of a text in a font. -/
def lowest (font : Font) : Int := (comSize - getFontHeight font) * incrementYScale

/-- The lowest row of the panel. -/
def farthest : Int := 15000

theorem lowest_range (font : Font) : 0 ≤ lowest font ∧ lowest font ≤ farthest := by
  have height := getFontHeight_range font
  have scale : (incrementYScale : Int) = 1000 := rfl
  rw [lowest, comSize, farthest, scale]
  omega

theorem turnAround_point (display : Display) :
    pointOf (turnAround display).modeMessageData = turned (pointOf display.modeMessageData) := by
  rw [turnAround]
  dsimp only
  split
  · rfl
  · dsimp only
    split <;> rfl

/-- A message that bounces moves as the point does, with the edge of its font. -/
theorem bounce_point {display : Display} (bounces : display.modeMessageData.incrementY ≠ 0) :
    pointOf (bounce display).modeMessageData =
      move (pointOf display.modeMessageData) (lowest display.modeMessageData.font) := by
  rw [bounce, move]
  dsimp only
  rw [if_pos bounces]
  by_cases above : display.modeMessageData.incrementY < 0 ∧
      display.modeMessageData.currYFactor + display.modeMessageData.incrementY < 0
  · rw [if_pos above, if_pos (.inl above)]
    rfl
  · rw [if_neg above]
    by_cases below : 0 < display.modeMessageData.incrementY ∧
        (comSize - getFontHeight display.modeMessageData.font) * incrementYScale ≤
          display.modeMessageData.currYFactor + display.modeMessageData.incrementY
    · rw [if_pos below, if_pos (.inr below), turnAround_point]
      rfl
    · have straight : ¬ Turns (lowest display.modeMessageData.font)
          (stepped (pointOf display.modeMessageData)) := not_or.mpr ⟨above, below⟩
      rw [if_neg below, if_neg straight]
      rfl

/-- What a tick does to the point: nothing, or a move with the edge of the font that the scrolling
has left. -/
inductive Moves (tick : Tick) (scene : Scene) : Prop where
  | rests (same : pointOf (tickOf tick scene).display.modeMessageData =
      pointOf scene.display.modeMessageData)
  | moves (fast : tick.1 = .fast) (mode : getDisplayMode scene.display = .message)
      (moved : pointOf (tickOf tick scene).display.modeMessageData =
        move (pointOf scene.display.modeMessageData)
          (lowest (scroll scene.display).2.modeMessageData.font))

theorem scroll_point (display : Display) :
    pointOf (scroll display).2.modeMessageData = pointOf display.modeMessageData :=
  scroll_keeps pointOf (fun _ _ _ _ _ => rfl) display

theorem tick_moves (tick : Tick) {scene : Scene}
    (bounces : scene.display.modeMessageData.incrementY ≠ 0) : Moves tick scene := by
  by_cases shown : tick.1 = .fast ∧ getDisplayMode scene.display = .message
  · have handled := (tickOf_display tick scene).2.1
    rw [displayTick, shown.1, shown.2] at handled
    have same := scroll_point scene.display
    have pace : (scroll scene.display).2.modeMessageData.incrementY =
        scene.display.modeMessageData.incrementY := congrArg Point.pace same
    have moving : (scroll scene.display).2.modeMessageData.incrementY ≠ 0 := by rwa [pace]
    have ticked : handlerTick tick.2 .fast .message scene = modeMessageFast scene := rfl
    rw [ticked, modeMessageFast] at handled
    dsimp only at handled
    split at handled
    · -- The callback ends the function before the bounce.
      rw [callback_data] at handled
      exact .rests (by rw [handled, same])
    · exact .moves shown.1 shown.2 (by rw [handled, bounce_point moving, same])
  · obtain ⟨blinkBlankInEffect, timeout, counted⟩ :=
      (@otherTick_counts tick scene fun fast mode => shown ⟨fast, mode⟩).data
    exact .rests (by rw [counted]; rfl)

/-! ### Every run -/

/-- A message that bounces within the panel. -/
abbrev Bouncing (scene : Scene) : Prop :=
  Within incrementYValue farthest (pointOf scene.display.modeMessageData)

theorem bouncing_moves {scene : Scene} (bouncing : Bouncing scene) :
    scene.display.modeMessageData.incrementY ≠ 0 := by
  rcases within_pace bouncing with down | up
  · rw [show scene.display.modeMessageData.incrementY = incrementYValue from down]
    decide
  · rw [show scene.display.modeMessageData.incrementY = -incrementYValue from up]
    decide

/-- A run of ticks is a run of the point. -/
theorem run_edges (ticks : List Tick) {scene : Scene} (bouncing : Bouncing scene) :
    ∃ edges : List Int, (∀ edge ∈ edges, 0 ≤ edge ∧ edge ≤ farthest) ∧
      pointOf (runTicks ticks scene).display.modeMessageData =
        edges.foldl move (pointOf scene.display.modeMessageData) := by
  have positive : 0 < incrementYValue := by decide
  induction ticks using List.reverseRecOn with
  | nil => exact ⟨[], List.forall_mem_nil _, rfl⟩
  | append_singleton ticks tick ih =>
      obtain ⟨edges, room, before⟩ := ih
      have within : Bouncing (runTicks ticks scene) := by
        rw [Bouncing, before]
        exact run_within positive edges room bouncing
      rw [runTicks_concat]
      cases tick_moves tick (bouncing_moves within) with
      | rests same => exact ⟨edges, room, same.trans before⟩
      | moves _ _ moved =>
          refine ⟨edges ++ [lowest (scroll (runTicks ticks scene).display).2.modeMessageData.font],
            ?_, ?_⟩
          · intro edge member
            rcases List.mem_append.mp member with old | new
            · exact room edge old
            · cases List.mem_singleton.mp new
              exact lowest_range _
          · rw [moved, before, List.foldl_append]
            rfl

theorem run_bouncing (ticks : List Tick) {scene : Scene} (bouncing : Bouncing scene) :
    Bouncing (runTicks ticks scene) := by
  obtain ⟨edges, room, same⟩ := run_edges ticks bouncing
  rw [Bouncing, same]
  exact run_within (by decide) edges room bouncing

/-! ### The post -/

theorem y_owned : Owns .y ModeMessageData.currYFactor Reading.scaled :=
  .of (fun _ _ => rfl)
    (fun other _ _ different => by cases other <;> first | exact absurd rfl different | rfl)
    (fun _ _ _ => rfl)

theorem bounce_owned : Owns .bounce ModeMessageData.incrementY
    fun reading => if reading.truth then incrementYValue else 0 :=
  .of (fun _ _ => rfl)
    (fun other _ _ different => by cases other <;> first | exact absurd rfl different | rfl)
    (fun _ _ _ => rfl)

/-- A form that asks for the bounce effect, from a row of the panel. -/
structure AsksToBounce (postValues : StringMap) : Prop where
  bounce : (postedReading postValues .bounce).map Reading.truth = some true
  y : ∀ value, postedValue postValues .y = some value → strtoul value ≤ 15

theorem int32_row {y : Nat} (row : y ≤ 15) :
    0 ≤ int32 (y * incrementYScale) ∧ int32 (y * incrementYScale) ≤ farthest := by
  have scale : (incrementYScale : Int) = 1000 := rfl
  have kept : int32 (y * incrementYScale) = y * 1000 := by
    rw [int32, scale, Int.bmod_eq_of_le (by omega) (by omega)]
  rw [kept, farthest]
  omega

theorem scaled_row {value : Bytes} (row : strtoul value ≤ 15) :
    0 ≤ (readingOf value).scaled ∧ (readingOf value).scaled ≤ farthest := by
  have inside := int32_row row
  unfold readingOf
  dsimp only
  exact inside

theorem post_bouncing {postValues : StringMap} (asks : AsksToBounce postValues)
    (surroundings : Surroundings) (scene : Scene) :
    Bouncing (doHandleMsgModePost postValues surroundings scene) := by
  have pace : (posted postValues surroundings (fresh scene.display)).incrementY =
      incrementYValue := by
    obtain ⟨reading, found, truth⟩ := Option.map_eq_some_iff.mp asks.bounce
    rw [posted_owned bounce_owned (by decide), found, Option.map_some, Option.getD_some, truth]
    rfl
  have place : 0 ≤ (posted postValues surroundings (fresh scene.display)).currYFactor ∧
      (posted postValues surroundings (fresh scene.display)).currYFactor ≤ farthest := by
    rw [posted_owned y_owned (by decide), postedReading]
    cases found : postedValue postValues .y with
    | none =>
        have start : (fresh scene.display).currYFactor = 5000 := rfl
        rw [Option.map_none, Option.map_none, Option.getD_none, start]
        exact ⟨by decide, by decide⟩
    | some value =>
        rw [Option.map_some, Option.map_some, Option.getD_some]
        exact scaled_row (asks.y value found)
  have same : pointOf (settled (posted postValues surroundings (fresh scene.display))) =
      pointOf (posted postValues surroundings (fresh scene.display)) :=
    settled_apart pointOf (fun _ _ _ => rfl) _
  rw [Bouncing, post_data, same]
  have low : -incrementYValue ≤ 0 := by decide
  exact .inl ⟨pace, Int.le_trans low place.1, place.2⟩

/-! ### What is drawn -/

theorem drawn_inside {data : ModeMessageData} (bounces : data.incrementY ≠ 0)
    {modeMessageDataColorEffect : Int} {text : Bytes} {x y : Int} {font : Font}
    (drawn : .drawText text x y font ∈ textCalls modeMessageDataColorEffect data) :
    0 ≤ y ∧ y + getFontHeight font ≤ comSize := by
  rw [textCalls] at drawn
  split at drawn
  · cases drawn
  · obtain ⟨boardId, _, call⟩ := List.mem_flatMap.mp drawn
    rw [List.mem_cons, List.mem_singleton] at call
    rcases call with target | shown
    · cases target
    · cases shown
      rw [textY, if_pos bounces]
      exact MessageColumns.getAdjustedTextY_range _ _

theorem textCall_drawn {data : ModeMessageData} (modeMessageDataColorEffect : Int)
    (lit : data.blinkBlankInEffect = false) :
    textCall data ∈ textCalls modeMessageDataColorEffect data := by
  rw [textCalls, lit, if_neg Bool.false_ne_true, textBoards]
  split <;> simp

/-- Whatever is posted with the bounce effect, and whatever ticks follow: the position stays within
a step of the panel, the direction changes only at an end of its way, and the text is drawn on the
panel. -/
theorem bounce_stays_on_panel {postValues : StringMap} (asks : AsksToBounce postValues)
    (surroundings : Surroundings) (scene : Scene) (ticks : List Tick) :
    let now := runTicks ticks (doHandleMsgModePost postValues surroundings scene)
    let data := now.display.modeMessageData
    (-800 ≤ data.currYFactor ∧ data.currYFactor ≤ 15800) ∧
    (data.incrementY = 800 ∨ data.incrementY = -800) ∧
    (∀ tick, let next := (tickOf tick now).display.modeMessageData
      next.incrementY ≠ data.incrementY →
        tick.1 = .fast ∧ next.incrementY = -data.incrementY ∧
        (data.incrementY < 0 ∧ next.currYFactor < 0 ∨
          0 < data.incrementY ∧
            (16 - getFontHeight (scroll now.display).2.modeMessageData.font) * 1000 ≤
              next.currYFactor)) ∧
    (∀ text x y font,
      .drawText text x y font ∈ textCalls now.display.modeMessageDataColorEffect data →
        0 ≤ y ∧ y + getFontHeight font ≤ 16) ∧
    (∀ panel around frame, panel.scene = now → getDisplayMode now.display = .message →
      frameOf panel around = some frame → ∃ backgrounds, frame =
        .clearAll :: textCalls now.display.modeMessageDataColorEffect data ++ backgrounds) := by
  intro now data
  have bouncing : Bouncing now := run_bouncing ticks (post_bouncing asks surroundings scene)
  have moving := bouncing_moves bouncing
  refine ⟨within_place (by decide) bouncing, within_pace bouncing, ?_, ?_, ?_⟩
  · intro tick next changed
    cases tick_moves tick moving with
    | rests same => exact absurd (congrArg Point.pace same) changed
    | moves fast _ moved =>
        have place := congrArg Point.place moved
        rw [move_place] at place
        obtain ⟨turns, back⟩ := @move_pace (pointOf data) moving
          (lowest (scroll now.display).2.modeMessageData.font)
        rw [← moved] at turns back
        have place : next.currYFactor = data.currYFactor + data.incrementY := place
        rw [place]
        exact ⟨fast, back changed, turns.mp changed⟩
  · intro text x y font drawn
    exact drawn_inside moving drawn
  · intro panel around frame same shown drawn
    rw [← same] at shown
    have here : data = panel.scene.display.modeMessageData := by rw [same]
    rw [here, ← same]
    exact frame_text shown drawn

/-- A form that bounces from the lowest row, in a font that leaves a bounce no room. -/
def tallText : StringMap :=
  (((∅ : StringMap).insert (bytes "bounce") (bytes "yes")).insert (bytes "y")
    (bytes "15")).insert (bytes "font") (bytes "4")

theorem tallText_asks : AsksToBounce tallText := by
  refine ⟨by decide +kernel, fun value posted => ?_⟩
  have found : postedValue tallText .y = some (bytes "15") := by decide +kernel
  cases Option.some.inj (found.symm.trans posted)
  decide

theorem tallText_stays :
    let now := runTicks [(.fast, MessageColumns.quiet)] (MessageColumns.panelOf tallText).scene
    let data := now.display.modeMessageData
    (-800 ≤ data.currYFactor ∧ data.currYFactor ≤ 15800) ∧
      (data.incrementY = 800 ∨ data.incrementY = -800) ∧
      (0 ≤ textY data ∧ textY data + getFontHeight data.font ≤ 16) ∧
      ∃ backgrounds, frameOf { Panel.boot with scene := now } MessageColumns.quiet =
        some (.clearAll ::
          textCalls now.display.modeMessageDataColorEffect data ++ backgrounds) := by
  intro now data
  obtain ⟨place, pace, -, inside, drawn⟩ := bounce_stays_on_panel tallText_asks
    MessageColumns.quiet Panel.boot.scene [(.fast, MessageColumns.quiet)]
  obtain ⟨frame, after, served, -⟩ := @serve_some { Panel.boot with scene := now }
    boot_wellFormed (.displayTick .fast, MessageColumns.quiet)
  have framed : frameOf { Panel.boot with scene := now } MessageColumns.quiet = some frame := by
    rw [frameOf, served]
    rfl
  obtain ⟨backgrounds, same⟩ := drawn _ _ frame rfl (by decide +kernel) framed
  refine ⟨place, pace, ?_, backgrounds, framed.trans (congrArg some same)⟩
  exact inside data.msg (textX data) (textY data) data.font
    (textCall_drawn _ (by decide +kernel))

end OClock.MessageBounce
