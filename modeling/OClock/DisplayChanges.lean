import OClock.DisplayInternal

/-!
The display thread tells of every change: whatever one of its calls does, it enters modes and
dims the panel, and each time broadcasts one message after the assignment.
-/

namespace OClock.DisplayChanges
open Text InboxRegistry DisplayInternal
open Dimming (currRoomIsDark updateDim_eq)

/-- The message that tells of a change. -/
def inboxMsgTypeOf : Change → InboxMsgType
  | .entered .nothing => .displayModeNothing
  | .entered .basicClock => .displayModeBasicClock
  | .entered .message => .displayModeMessage
  | .dimmed true => .displayBrightLow
  | .dimmed false => .displayBrightHigh

def modeOf : Change → Option DisplayMode
  | .entered displayMode => some displayMode
  | .dimmed _ => none

def darkOf : Change → Option Bool
  | .entered _ => none
  | .dimmed roomIsDark => some roomIsDark

def announce (inboxes : Inboxes) (change : Change) : Inboxes :=
  broadcast inboxes (.ofType (inboxMsgTypeOf change)) .display

/-- The last value that a list of changes gives, or the one there was. -/
def latest {Value : Type} (given : Change → Option Value) (changes : List Change)
    (before : Value) : Value := (changes.filterMap given).getLast?.getD before

/-- Between two scenes changes were made and each of them was told once, in order. -/
def Tells (before after : Scene) : Prop :=
  ∃ changes, after.changes = before.changes ++ changes ∧
    after.inboxes = changes.foldl announce before.inboxes ∧
    getDisplayMode after.display = latest modeOf changes (getDisplayMode before.display) ∧
    after.display.roomIsDark = latest darkOf changes before.display.roomIsDark

theorem latest_append {Value : Type} (given : Change → Option Value)
    (first second : List Change) (before : Value) :
    latest given (first ++ second) before = latest given second (latest given first before) := by
  unfold latest
  rw [List.filterMap_append, List.getLast?_append]
  cases (second.filterMap given).getLast? <;> rfl

theorem Tells.refl (scene : Scene) : Tells scene scene :=
  ⟨[], (List.append_nil _).symm, rfl, rfl, rfl⟩

theorem Tells.trans {first second third : Scene} (left : Tells first second)
    (right : Tells second third) : Tells first third := by
  obtain ⟨before, log, told, mode, dark⟩ := left
  obtain ⟨after, log', told', mode', dark'⟩ := right
  refine ⟨before ++ after, ?_, ?_, ?_, ?_⟩
  · rw [log', log, List.append_assoc]
  · rw [told', told, List.foldl_append]
  · rw [mode', mode, latest_append]
  · rw [dark', dark, latest_append]

/-- Nothing is told while neither the mode nor the brightness changes. -/
theorem Tells.silent {before after : Scene} (log : after.changes = before.changes)
    (inboxes : after.inboxes = before.inboxes)
    (mode : after.display.currModeIndex = before.display.currModeIndex)
    (dark : after.display.roomIsDark = before.display.roomIsDark) : Tells before after := by
  refine ⟨[], ?_, inboxes, ?_, dark⟩
  · rw [log, List.append_nil]
  · rw [getDisplayMode, mode]
    rfl

theorem handlerInit_mode (displayMode : DisplayMode) (param : Option Bytes) (display : Display) :
    (handlerInit displayMode param display).currModeIndex = display.currModeIndex := by
  cases displayMode <;> rfl

theorem handlerInit_dark (displayMode : DisplayMode) (param : Option Bytes) (display : Display) :
    (handlerInit displayMode param display).roomIsDark = display.roomIsDark := by
  cases displayMode <;> rfl

theorem entry_found (displayMode : DisplayMode) :
    ∃ i, (allModes.findIdx? fun mode => mode.displayMode = displayMode) = some i ∧
      (modeAt i).displayMode = displayMode ∧
      (modeAt i).inboxMsgType = inboxMsgTypeOf (.entered displayMode) := by
  cases displayMode with
  | nothing => exact ⟨0, rfl, rfl, rfl⟩
  | basicClock => exact ⟨1, rfl, rfl, rfl⟩
  | message => exact ⟨2, rfl, rfl, rfl⟩

/-- Every mode has its entry: a change of the mode enters it, and is told once. -/
theorem changeDisplayMode_enters (displayMode : DisplayMode) (param : Option Bytes)
    (scene : Scene) :
    (changeDisplayMode displayMode param scene).changes =
        scene.changes ++ [.entered displayMode] ∧
      (changeDisplayMode displayMode param scene).inboxes =
        announce scene.inboxes (.entered displayMode) ∧
      getDisplayMode (changeDisplayMode displayMode param scene).display = displayMode ∧
      (changeDisplayMode displayMode param scene).display.roomIsDark =
        scene.display.roomIsDark := by
  obtain ⟨i, found, named, told⟩ := entry_found displayMode
  unfold changeDisplayMode
  rw [found]
  dsimp only
  refine ⟨by rw [named], by rw [told]; rfl, ?_, handlerInit_dark _ _ _⟩
  rw [getDisplayMode, handlerInit_mode]
  exact named

theorem changeDisplayMode_tells (displayMode : DisplayMode) (param : Option Bytes)
    (scene : Scene) : Tells scene (changeDisplayMode displayMode param scene) := by
  obtain ⟨log, told, mode, dark⟩ := changeDisplayMode_enters displayMode param scene
  exact ⟨[.entered displayMode], log, told, mode, dark⟩

theorem callback_tells (callback : CompletedCallback) (param : Option Bytes) (scene : Scene) :
    Tells scene (callback.run param scene) := by
  cases callback
  exact changeDisplayMode_tells .basicClock param scene

theorem updateDim_tells (surroundings : Surroundings) (scene : Scene) :
    Tells scene (updateDim surroundings scene) := by
  unfold updateDim
  rw [updateDim_eq]
  dsimp only
  split
  · next same => exact .silent rfl rfl rfl same.symm
  · next changed =>
    generalize currRoomIsDark scene.display.roomIsDark surroundings.lightValue = curr
    refine ⟨[.dimmed curr], rfl, ?_, rfl, rfl⟩
    cases curr <;> rfl

/-! What only changes the data of the message. -/

theorem countRepeat_state (display : Display) :
    (countRepeat display).2.currModeIndex = display.currModeIndex ∧
      (countRepeat display).2.roomIsDark = display.roomIsDark := by
  unfold countRepeat
  dsimp only
  split
  · split <;> exact ⟨rfl, rfl⟩
  · exact ⟨rfl, rfl⟩

theorem scroll_state (display : Display) :
    (scroll display).2.currModeIndex = display.currModeIndex ∧
      (scroll display).2.roomIsDark = display.roomIsDark := by
  unfold scroll
  dsimp only
  split
  · split
    · exact countRepeat_state _
    · exact ⟨rfl, rfl⟩
  · exact ⟨rfl, rfl⟩

theorem turnAround_state (display : Display) :
    (turnAround display).currModeIndex = display.currModeIndex ∧
      (turnAround display).roomIsDark = display.roomIsDark := by
  unfold turnAround
  dsimp only
  split <;> exact ⟨rfl, rfl⟩

theorem bounce_state (display : Display) :
    (bounce display).currModeIndex = display.currModeIndex ∧
      (bounce display).roomIsDark = display.roomIsDark := by
  unfold bounce
  dsimp only
  split
  · split
    · exact ⟨rfl, rfl⟩
    · split
      · exact turnAround_state _
      · exact ⟨rfl, rfl⟩
  · exact ⟨rfl, rfl⟩

/-! Every call of the display thread tells of what it changes. -/

theorem modeMessageFast_tells (scene : Scene) : Tells scene (modeMessageFast scene) := by
  obtain ⟨mode, dark⟩ := scroll_state scene.display
  have scrolled : Tells scene { scene with display := (scroll scene.display).2 } :=
    .silent rfl rfl mode dark
  unfold modeMessageFast
  dsimp only
  split
  · exact scrolled.trans (callback_tells _ _ _)
  · obtain ⟨kept, same⟩ := bounce_state (scroll scene.display).2
    exact scrolled.trans (.silent rfl rfl kept same)

theorem modeMessageCheckTimeout_tells (scene : Scene) :
    Tells scene (modeMessageCheckTimeout scene) := by
  unfold modeMessageCheckTimeout
  dsimp only
  split
  · split
    · have expired : Tells scene { scene with
          display := scene.display.withData { scene.display.modeMessageData with
            timeout := forever } } := .silent rfl rfl rfl rfl
      split
      · exact expired.trans (callback_tells _ _ _)
      · exact expired
    · exact .silent rfl rfl rfl rfl
  · exact .refl scene

theorem modeBasicClockFast_tells (surroundings : Surroundings) (scene : Scene) :
    Tells scene (modeBasicClockFast surroundings scene) := by
  unfold modeBasicClockFast
  dsimp only
  split
  · exact changeDisplayMode_tells _ _ _
  · exact .refl scene

theorem modeNothingCheckMotion_tells (surroundings : Surroundings) (scene : Scene) :
    Tells scene (modeNothingCheckMotion surroundings scene) := by
  unfold modeNothingCheckMotion
  split
  · exact changeDisplayMode_tells _ _ _
  · exact .refl scene

theorem modeMessageCheckBlink_tells (scene : Scene) :
    Tells scene (modeMessageCheckBlink scene) := by
  unfold modeMessageCheckBlink
  dsimp only
  split
  · exact .silent rfl rfl rfl rfl
  · exact .refl scene

theorem displayTick_tells (cadence : Cadence) (surroundings : Surroundings) (scene : Scene) :
    Tells scene (displayTick cadence surroundings scene) := by
  unfold displayTick
  generalize getDisplayMode scene.display = displayMode
  cases cadence <;> cases displayMode
  case fast.message => exact modeMessageFast_tells scene
  case ms250.message => exact modeMessageCheckBlink_tells scene
  case ms500.basicClock => exact modeBasicClockFast_tells surroundings scene
  case sec1.nothing => exact modeNothingCheckMotion_tells surroundings scene
  case sec1.message => exact modeMessageCheckTimeout_tells scene
  all_goals exact .refl scene

theorem initDisplay_tells (scene : Scene) : Tells scene (initDisplay scene) :=
  Tells.trans (.silent rfl rfl rfl rfl) (changeDisplayMode_tells .message none _)

theorem handleTodo_tells (surroundings : Surroundings) (scene : Scene) (displayTodo : DisplayTodo) :
    Tells scene (handleTodo surroundings scene displayTodo) := by
  cases displayTodo with
  | handleMsgModePost postValues =>
      exact Tells.trans (.silent rfl rfl rfl rfl) (changeDisplayMode_tells .message none _)
  | handleImgBackgroundPost _ => exact .refl scene
  | handleMsgBackgroundPost _ => exact .refl scene

end OClock.DisplayChanges
