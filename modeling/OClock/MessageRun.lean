import OClock.DisplayChanges
import OClock.MessagePost

/-!
Ticks of the display after a message was posted, in any order and with anything happening
around them. Without another post the display does not come back to a message it has left.
-/

namespace OClock.MessageRun
open DisplayInternal DisplayChanges

abbrev Tick := Cadence × Surroundings

/-- The call of the display thread for a tick. -/
def tickOf (tick : Tick) : Scene → Scene :=
  match tick.1 with
  | .sec1 => displayTick1sec tick.2
  | cadence => displayTick cadence tick.2

def runTicks (ticks : List Tick) (scene : Scene) : Scene :=
  ticks.foldl (fun scene tick => tickOf tick scene) scene

theorem runTicks_append (first second : List Tick) (scene : Scene) :
    runTicks (first ++ second) scene = runTicks second (runTicks first scene) :=
  List.foldl_append

theorem runTicks_concat (ticks : List Tick) (tick : Tick) (scene : Scene) :
    runTicks (ticks ++ [tick]) scene = tickOf tick (runTicks ticks scene) := by
  rw [runTicks_append]
  rfl

/-- A tick is the handler of the mode; the brightness does not touch mode and message. -/
theorem tickOf_display (tick : Tick) (scene : Scene) :
    (tickOf tick scene).display.currModeIndex =
        (displayTick tick.1 tick.2 scene).display.currModeIndex ∧
      (tickOf tick scene).display.modeMessageData =
        (displayTick tick.1 tick.2 scene).display.modeMessageData ∧
      (tickOf tick scene).display.modeMessageDataColorEffect =
        (displayTick tick.1 tick.2 scene).display.modeMessageDataColorEffect := by
  obtain ⟨cadence, surroundings⟩ := tick
  cases cadence <;> exact ⟨rfl, rfl, rfl⟩

theorem tickOf_mode (tick : Tick) (scene : Scene) :
    getDisplayMode (tickOf tick scene).display =
      getDisplayMode (displayTick tick.1 tick.2 scene).display :=
  congrArg (fun index => (modeAt index).displayMode) (tickOf_display tick scene).1

/-- Only a post enters the message. -/
theorem left_stays (tick : Tick) {scene : Scene}
    (left : getDisplayMode scene.display ≠ .message) :
    getDisplayMode (tickOf tick scene).display ≠ .message := by
  obtain ⟨cadence, surroundings⟩ := tick
  rw [tickOf_mode]
  -- The handlers of the other modes change to one another only.
  have entered : ∀ displayMode ≠ .message,
      getDisplayMode (changeDisplayMode displayMode none scene).display ≠ .message := by
    intro displayMode other
    rw [(changeDisplayMode_enters displayMode none scene).2.2.1]
    exact other
  unfold displayTick
  cases mode : getDisplayMode scene.display with
  | message => exact absurd mode left
  | nothing =>
      cases cadence
      case sec1 =>
        change getDisplayMode (modeNothingCheckMotion surroundings scene).display ≠ .message
        unfold modeNothingCheckMotion
        split
        · exact entered .basicClock (by decide)
        · exact left
      all_goals exact left
  | basicClock =>
      cases cadence
      case ms500 =>
        change getDisplayMode (modeBasicClockFast surroundings scene).display ≠ .message
        unfold modeBasicClockFast
        dsimp only
        split
        · exact entered .nothing (by decide)
        · exact left
      all_goals exact left

theorem callback_leaves (callback : CompletedCallback) (param : Option Text.Bytes) (scene : Scene) :
    getDisplayMode (callback.run param scene).display ≠ .message := by
  cases callback
  change getDisplayMode (changeDisplayMode .basicClock param scene).display ≠ .message
  rw [(changeDisplayMode_enters .basicClock param scene).2.2.1]
  decide

/-! ### What the handlers leave alone -/

variable {Value : Type*} (get : ModeMessageData → Value)

theorem scroll_keeps (apart : ∀ (data : ModeMessageData) currX font wd repeats,
      get { data with currX := currX, font := font, wd := wd, repeats := repeats } = get data)
    (display : Display) :
    get (scroll display).2.modeMessageData = get display.modeMessageData := by
  have counted : ∀ display : Display,
      get (countRepeat display).2.modeMessageData = get display.modeMessageData := by
    intro display
    unfold countRepeat
    dsimp only
    split
    · split <;> exact apart _ _ _ _ _
    · rfl
  have wrapped : ∀ display : Display,
      get (wrapText display).modeMessageData = get display.modeMessageData := by
    intro display
    unfold wrapText
    dsimp only
    split <;> exact apart _ _ _ _ _
  unfold scroll
  dsimp only
  split
  · have moved := apart display.modeMessageData (display.modeMessageData.currX + 1)
      display.modeMessageData.font display.modeMessageData.wd display.modeMessageData.repeats
    split
    · rw [counted, wrapped]
      exact moved
    · exact moved
  · rfl

theorem bounce_keeps (apart : ∀ (data : ModeMessageData) currYFactor incrementY font,
      get { data with currYFactor := currYFactor, incrementY := incrementY, font := font } =
        get data)
    (display : Display) : get (bounce display).modeMessageData = get display.modeMessageData := by
  have turned : ∀ display : Display,
      get (turnAround display).modeMessageData = get display.modeMessageData := by
    intro display
    unfold turnAround
    dsimp only
    split
    · exact apart _ _ _ _
    · dsimp only
      split <;> exact apart _ _ _ _
  have moved := apart display.modeMessageData
    (display.modeMessageData.currYFactor + display.modeMessageData.incrementY)
  unfold bounce
  dsimp only
  split
  · split
    · exact moved _ _
    · split
      · rw [turned]
        exact moved _ _
      · exact moved _ _
  · rfl

/-! ### What changes of mode and the other ticks leave alone -/

/-- Nothing but the blinking and the seconds left of the message has changed. -/
structure OnlyCounts (before after : Display) : Prop where
  data : ∃ blinkBlankInEffect timeout, after.modeMessageData =
    { before.modeMessageData with blinkBlankInEffect := blinkBlankInEffect, timeout := timeout }
  effect : after.modeMessageDataColorEffect = before.modeMessageDataColorEffect

theorem changeDisplayMode_data {displayMode : DisplayMode} (other : displayMode ≠ .message)
    (param : Option Text.Bytes) (scene : Scene) :
    (changeDisplayMode displayMode param scene).display.modeMessageData =
      scene.display.modeMessageData := by
  obtain ⟨i, found, entry, _⟩ := entry_found displayMode
  unfold changeDisplayMode
  rw [found]
  dsimp only
  rw [entry]
  cases displayMode with
  | message => exact absurd rfl other
  | nothing => rfl
  | basicClock => rfl

theorem changeDisplayMode_effect (displayMode : DisplayMode) (param : Option Text.Bytes)
    (scene : Scene) :
    (changeDisplayMode displayMode param scene).display.modeMessageDataColorEffect =
      scene.display.modeMessageDataColorEffect := by
  obtain ⟨i, found, _⟩ := entry_found displayMode
  unfold changeDisplayMode
  rw [found]
  dsimp only
  cases (modeAt i).displayMode <;> rfl

/-- Only the entry of the message mode fills in a message. -/
theorem changeDisplayMode_counts {displayMode : DisplayMode} (other : displayMode ≠ .message)
    (param : Option Text.Bytes) (scene : Scene) :
    OnlyCounts scene.display (changeDisplayMode displayMode param scene).display where
  data := ⟨_, _, changeDisplayMode_data other param scene⟩
  effect := changeDisplayMode_effect displayMode param scene

theorem callback_data (callback : CompletedCallback) (param : Option Text.Bytes) (scene : Scene) :
    (callback.run param scene).display.modeMessageData = scene.display.modeMessageData := by
  cases callback
  exact changeDisplayMode_data (by decide) param scene

theorem callback_effect (callback : CompletedCallback) (param : Option Text.Bytes)
    (scene : Scene) : (callback.run param scene).display.modeMessageDataColorEffect =
      scene.display.modeMessageDataColorEffect := by
  cases callback
  exact changeDisplayMode_effect .basicClock param scene

theorem blink_counts (scene : Scene) :
    OnlyCounts scene.display (modeMessageCheckBlink scene).display := by
  unfold modeMessageCheckBlink
  dsimp only
  split
  · exact ⟨⟨_, _, rfl⟩, rfl⟩
  · exact ⟨⟨_, _, rfl⟩, rfl⟩

theorem timeout_counts (scene : Scene) :
    OnlyCounts scene.display (modeMessageCheckTimeout scene).display := by
  unfold modeMessageCheckTimeout
  dsimp only
  split
  · split
    · split
      -- The callback finds the second already taken off.
      · exact ⟨⟨_, _, callback_data _ _ _⟩, callback_effect _ _ _⟩
      · exact ⟨⟨_, _, rfl⟩, rfl⟩
    · exact ⟨⟨_, _, rfl⟩, rfl⟩
  · exact ⟨⟨_, _, rfl⟩, rfl⟩

/-- A tick that draws no message only counts. -/
theorem otherTick_counts {tick : Tick} {scene : Scene}
    (other : tick.1 = .fast → getDisplayMode scene.display ≠ .message) :
    OnlyCounts scene.display (tickOf tick scene).display := by
  obtain ⟨cadence, surroundings⟩ := tick
  obtain ⟨_, data, effect⟩ := tickOf_display (cadence, surroundings) scene
  suffices handled : OnlyCounts scene.display (displayTick cadence surroundings scene).display by
    exact ⟨by rw [data]; exact handled.data, effect.trans handled.effect⟩
  have idle : OnlyCounts scene.display scene.display := ⟨⟨_, _, rfl⟩, rfl⟩
  unfold displayTick
  dsimp only at other
  generalize getDisplayMode scene.display = displayMode at other
  cases cadence <;> cases displayMode
  case fast.message => exact absurd rfl (other rfl)
  case ms250.message => exact blink_counts scene
  case ms500.basicClock =>
    change OnlyCounts scene.display (modeBasicClockFast surroundings scene).display
    unfold modeBasicClockFast
    dsimp only
    split
    · exact changeDisplayMode_counts (by decide) none _
    · exact idle
  case sec1.nothing =>
    change OnlyCounts scene.display (modeNothingCheckMotion surroundings scene).display
    unfold modeNothingCheckMotion
    split
    · exact changeDisplayMode_counts (by decide) none scene
    · exact idle
  case sec1.message => exact timeout_counts scene
  all_goals exact idle

/-! ### The counter of the colors -/

theorem scroll_effect (display : Display) : display.modeMessageDataColorEffect ≤
    (scroll display).2.modeMessageDataColorEffect := by
  have counted : ∀ display : Display, (countRepeat display).2.modeMessageDataColorEffect =
      display.modeMessageDataColorEffect := by
    intro display
    unfold countRepeat
    dsimp only
    split
    · split <;> rfl
    · rfl
  unfold scroll
  dsimp only
  split
  · split
    · rw [counted]
      exact Int.le_add_one (Int.le_refl _)
    · exact Int.le_refl _
  · exact Int.le_refl _

theorem bounce_effect (display : Display) : display.modeMessageDataColorEffect ≤
    (bounce display).modeMessageDataColorEffect := by
  unfold bounce turnAround
  dsimp only
  split
  · split
    · exact Int.le_refl _
    · split
      · split
        · exact Int.le_refl _
        · exact Int.le_add_one (Int.le_refl _)
      · exact Int.le_refl _
  · exact Int.le_refl _

theorem modeMessageFast_effect (scene : Scene) :
    scene.display.modeMessageDataColorEffect ≤
      (modeMessageFast scene).display.modeMessageDataColorEffect := by
  have first := scroll_effect scene.display
  unfold modeMessageFast
  dsimp only
  split
  · rw [callback_effect]
    exact first
  · exact Int.le_trans first (bounce_effect _)

/-- Whatever is called, the counter never goes back. -/
theorem tickOf_effect (tick : Tick) (scene : Scene) :
    scene.display.modeMessageDataColorEffect ≤
      (tickOf tick scene).display.modeMessageDataColorEffect := by
  by_cases drawn : tick.1 = .fast ∧ getDisplayMode scene.display = .message
  · rw [(tickOf_display tick scene).2.2, displayTick, drawn.1, drawn.2]
    exact modeMessageFast_effect scene
  · have counts := @otherTick_counts tick scene fun fast mode => drawn ⟨fast, mode⟩
    exact Int.le_of_eq counts.effect.symm

theorem post_effect (postValues : Text.StringMap) (surroundings : Surroundings) (scene : Scene) :
    (doHandleMsgModePost postValues surroundings scene).display.modeMessageDataColorEffect =
      scene.display.modeMessageDataColorEffect + 1 := rfl

end OClock.MessageRun
