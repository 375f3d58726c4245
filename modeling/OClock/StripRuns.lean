import OClock.LedStripTimeout
import OClock.StripReadBack

/-!
What a step of the LED strip can do, said once: a POST that is accepted clears the strip or does
not and begins its mode, a tick runs one handler of the mode, and a second may end the countdown.
-/

namespace OClock.StripRuns
open Text CommonUtils LedStripInternal LedStripTimeout
open Lpd8806 (Strip Transport Op clearPixelColors showStrip setPixelColor setPackedColor)
open StripTransport (Color Holds)

/-! ### Strips that hold colours -/

/-- A strip of `n` pixels, each of which holds a colour. -/
structure Whole (n : UInt16) (strip : Strip) : Prop where
  count : strip.numLEDs = n
  holds : ∃ colors, Holds strip colors

/-- A strip of `n` pixels with these colours. -/
structure Shows (n : UInt16) (colors : UInt16 → Color) (strip : Strip) : Prop where
  count : strip.numLEDs = n
  holds : Holds strip colors

def unlit (_ : UInt16) : Color := ⟨0, 0, 0⟩

abbrev Dark (n : UInt16) (strip : Strip) : Prop := Shows n unlit strip

theorem shows_whole {n : UInt16} {colors : UInt16 → Color} {strip : Strip}
    (shows_ : Shows n colors strip) : Whole n strip := ⟨shows_.count, colors, shows_.holds⟩

theorem op_shows {n : UInt16} {colors : UInt16 → Color} {strip : Strip}
    (shows_ : Shows n colors strip) (op : Op) :
    Shows n (fun i => StripTransport.record i (colors i) op) (Lpd8806.step strip op).2 :=
  ⟨(StripTransport.step_numLEDs strip op).1.trans shows_.count,
    StripTransport.step_holds shows_.holds op⟩

theorem op_whole {n : UInt16} {strip : Strip} (whole : Whole n strip) (op : Op) :
    Whole n (Lpd8806.step strip op).2 := by
  obtain ⟨count, colors, holds⟩ := whole
  exact shows_whole (op_shows ⟨count, holds⟩ op)

theorem clear_dark {n : UInt16} {strip : Strip} (whole : Whole n strip) :
    Dark n (clearPixelColors strip) := by
  obtain ⟨count, colors, holds⟩ := whole
  exact op_shows ⟨count, holds⟩ .clearPixelColors

theorem show_shows {n : UInt16} {colors : UInt16 → Color} {strip : Strip}
    (shows_ : Shows n colors strip) : Shows n colors (showStrip strip).2 :=
  op_shows shows_ .showStrip

theorem cleared_dark {n : UInt16} {strip : Strip} (whole : Whole n strip) :
    Dark n (showStrip (clearPixelColors strip)).2 := show_shows (clear_dark whole)

theorem clearPixelColorsAndShow_dark {n : UInt16} (info : Info) (whole : Whole n info.lpd8806) :
    Dark n (clearPixelColorsAndShow info).2.lpd8806 := cleared_dark whole

theorem shows_congr {n : UInt16} {colors others : UInt16 → Color} {strip : Strip}
    (shows_ : Shows n colors strip) (same : ∀ i < n, colors i = others i) :
    Shows n others strip := by
  refine ⟨shows_.count, shows_.holds.length, fun i below => ?_⟩
  rw [← same i (shows_.count ▸ below)]
  exact shows_.holds.lit i below

theorem new_dark (transport : Transport) (n : UInt16) : Dark n (Strip.new transport n) :=
  ⟨StripTransport.new_numLEDs transport n, StripTransport.new_holds transport n⟩

theorem pixel_toNat {i : Int} (some : 0 ≤ i) (small : i < 65536) :
    ((pixel i).toNat : Int) = i := by
  rw [pixel, UInt16.ofInt, UInt16.toNat_ofNat']
  omega

/-- The strips that are shown, in their order. -/
def frames (outputs : List Output) : List Strip :=
  outputs.filterMap fun output => match output with
    | .show strip => some strip
    | .delay _ => none

theorem frames_append (first second : List Output) :
    frames (first ++ second) = frames first ++ frames second := List.filterMap_append

/-! ### The handlers of the modes -/

def tickHandler (mode : Mode) : Input → Option Handler
  | .doHandleModePost _ => none
  | .fastTick => mode.handlerTickFast
  | .tick1sec => mode.handlerTick1Sec
  | .tick10sec => mode.handlerTick10Sec
  | .tick1min => mode.handlerTick1Min

/-- A handler that some input runs in a mode. -/
def Handles (mode : Mode) (handler : Handler) : Prop :=
  mode.handlerInit = some handler ∨ ∃ input, tickHandler mode input = some handler

/-- What the functions of the modes have in common holds of every handler in the table. -/
theorem table_handles (property : Nat → Handler → Prop)
    (extra : ∀ m value handler, property m handler → property m (whenExtra value handler))
    (manual : property 0 modeManualInit) (pastel : property 1 modePastelMain)
    (fill : property 2 modeFillInit) (rainbow : property 3 modeRainbowMain)
    (scanFast : property 4 modeScanFast) (scan : property 4 modeScanMain)
    (counter : property 5 modeBinaryCounterMain) {m : Nat} {mode : Mode}
    (found : allModes[m]? = some mode) {handler : Handler} (handles : Handles mode handler) :
    property m handler := by
  have inside := (List.getElem?_eq_some_iff.mp found).1
  have modes : m = 0 ∨ m = 1 ∨ m = 2 ∨ m = 3 ∨ m = 4 ∨ m = 5 := by
    have length : allModes.length = 6 := rfl
    omega
  rcases modes with rfl | rfl | rfl | rfl | rfl | rfl <;> cases found <;>
    rcases handles with init | ⟨input, tick⟩
  · cases init
    exact manual
  · cases input <;> cases tick
  · cases init
    exact pastel
  · cases input <;> cases tick <;> exact extra _ _ _ pastel
  · cases init
    exact fill
  · cases input <;> cases tick
  · cases init
    exact rainbow
  · cases input <;> cases tick <;> first
      | exact extra _ _ _ rainbow
      | exact rainbow
  · cases init
  · cases input <;> cases tick <;> first
      | exact extra _ _ _ scan
      | exact scanFast
  · cases init
  · cases input <;> cases tick <;> first
      | exact extra _ _ _ counter
      | exact counter

theorem currMode_found {info : Info} (valid : info.currModeIndex < allModes.length) :
    allModes[info.currModeIndex]? = some (currMode info) := by
  rw [currMode, List.getElem?_eq_getElem valid]
  rfl

section Table
variable (property : Handler → Prop) (none : property fun info => ([], info))
include none

/-- What holds of every handler of its mode holds of a tick. -/
theorem run_tick {info : Info} (valid : info.currModeIndex < allModes.length)
    (each : ∀ mode, allModes[info.currModeIndex]? = some mode →
      ∀ handler, Handles mode handler → property handler) (input : Input) :
    property (runHandler (tickHandler (currMode info) input)) := by
  cases tick : tickHandler (currMode info) input with
  | none => exact none
  | some handler => exact each (currMode info) (currMode_found valid) handler (.inr ⟨input, tick⟩)

/-- And of the beginning of the mode. -/
theorem run_init {m : Nat} (each : ∀ mode, allModes[m]? = some mode →
      ∀ handler, Handles mode handler → property handler) :
    property (runHandler (allModes[m]?.bind Mode.handlerInit)) := by
  cases found : allModes[m]? with
  | none => exact none
  | some mode =>
      rw [Option.bind_some]
      cases init : mode.handlerInit with
      | none => exact none
      | some handler => exact each mode found handler (.inl init)

end Table

/-! ### Handlers that paint -/

/-- A handler that only writes to the pixels of the strip. -/
def Paints (handler : Handler) : Prop :=
  ∀ (n : UInt16) info, Whole n info.lpd8806 → Whole n (handler info).2.lpd8806

theorem whenExtra_paints (value : String) {handler : Handler} (paints : Paints handler) :
    Paints (whenExtra value handler) := by
  intro n info whole
  rw [whenExtra]
  split
  · exact paints n info whole
  · exact whole

theorem wantedColor_strip (info : Info) : (wantedColor info).2.lpd8806 = info.lpd8806 := by
  rw [wantedColor]
  dsimp only
  split <;> rfl

theorem pastelLoop_whole {n : UInt16} (length turns : Nat) (pastel : Pastel) (currPixel : Int)
    {strip : Strip} (whole : Whole n strip) :
    Whole n (pastelLoop length turns pastel currPixel strip).2 := by
  induction turns generalizing pastel currPixel strip with
  | zero => exact whole
  | succ turns ih => exact ih _ _ (op_whole whole (.setPixelColor ..))

theorem modePastelMain_paints : Paints modePastelMain := fun _ _ whole =>
  op_whole (pastelLoop_whole _ _ _ _ whole) .showStrip

theorem fillPixels_whole {n : UInt16} (bounds : UInt64 × UInt64) (pixels : List Nat)
    (color : UInt32) {info : Info} (whole : Whole n info.lpd8806) :
    Whole n (fillPixels bounds pixels color info).lpd8806 := by
  induction pixels generalizing color info with
  | nil => exact whole
  | cons i rest ih =>
      have filled := op_whole whole (.setPackedColor (pixel i) color)
      rw [fillPixels]
      split
      · exact ih color whole
      · dsimp only
        split
        · exact ih _ filled
        · exact ih _ filled

theorem modeFillInit_paints : Paints modeFillInit := by
  intro n info whole
  rw [modeFillInit]
  apply op_whole _ .showStrip
  apply fillPixels_whole
  rwa [wantedColor_strip]

theorem rainbow_whole {n : UInt16} (length : Nat) (j : UInt16) (pixels : List Nat) {strip : Strip}
    (whole : Whole n strip) : Whole n (pixels.foldl (rainbowPixel length j) strip) := by
  induction pixels generalizing strip with
  | nil => exact whole
  | cons i rest ih => exact ih (op_whole whole (.setPackedColor ..))

theorem modeRainbowMain_paints : Paints modeRainbowMain := fun _ _ whole =>
  op_whole (rainbow_whole _ _ _ whole) .showStrip

theorem scanDot_paints : Paints scanDot := fun _ _ whole =>
  op_whole (op_whole (op_whole whole (.setPackedColor ..)) .showStrip) (.setPackedColor ..)

theorem scanLoop_paints (turns : Nat) : Paints (scanLoop turns) := by
  induction turns with
  | zero => exact fun _ _ whole => whole
  | succ turns ih =>
      intro n info whole
      have dot := scanDot_paints n info whole
      rw [scanLoop]
      dsimp only
      split
      · exact shows_whole (clearPixelColorsAndShow_dark _ dot)
      · split
        · exact dot
        · exact ih n _ dot

theorem scanColor_strip (info : Info) : (scanColor info).lpd8806 = info.lpd8806 := by
  rw [scanColor]
  split
  · exact wantedColor_strip info
  · rfl

theorem modeScanMain_paints : Paints modeScanMain := by
  intro n info whole
  apply scanLoop_paints
  rwa [scanColor_strip]

theorem modeScanFast_paints : Paints modeScanFast := by
  intro n info whole
  rw [modeScanFast]
  split
  · exact modeScanMain_paints n info whole
  · exact whole

theorem counterPixels_whole {n : UInt16} (color : UInt32) (turns i : Nat) (value : UInt64)
    {strip : Strip} (whole : Whole n strip) :
    Whole n (counterPixels color turns i value strip) := by
  induction turns generalizing i value strip with
  | zero => exact whole
  | succ turns ih =>
      rw [counterPixels]
      split
      · exact whole
      · exact ih _ _ (op_whole whole (.setPackedColor ..))

theorem countUp_whole {n : UInt16} {info : Info} (whole : Whole n info.lpd8806) :
    Whole n (countUp info).lpd8806 := by
  rw [countUp]
  dsimp only
  split
  · exact op_whole (op_whole whole .clearPixelColors) (.setPackedColor ..)
  · exact whole

theorem modeBinaryCounterMain_paints : Paints modeBinaryCounterMain := by
  intro n info whole
  exact op_whole (counterPixels_whole _ _ _ _ (countUp_whole whole)) .showStrip

theorem handles_paints {m : Nat} {mode : Mode} (found : allModes[m]? = some mode)
    {handler : Handler} (handles : Handles mode handler) : Paints handler := by
  refine table_handles (fun _ => Paints) ?_ ?_ ?_ ?_ ?_ ?_ ?_ ?_ found handles
  · exact fun _ value _ => whenExtra_paints value
  · exact fun _ _ whole => whole
  · exact modePastelMain_paints
  · exact modeFillInit_paints
  · exact modeRainbowMain_paints
  · exact modeScanFast_paints
  · exact modeScanMain_paints
  · exact modeBinaryCounterMain_paints

/-! ### Handlers that leave a variable alone -/

def Keeps {Part : Type} (part : Statics → Part) (handler : Handler) : Prop :=
  ∀ info, part (handler info).2.statics = part info.statics

section Keeps
variable {Part : Type} (part : Statics → Part)

theorem none_keeps : Keeps part fun info => ([], info) := fun _ => rfl

theorem whenExtra_keeps (value : String) {handler : Handler} (keeps : Keeps part handler) :
    Keeps part (whenExtra value handler) := by
  intro info
  rw [whenExtra]
  split
  · exact keeps info
  · rfl

theorem wantedColor_statics (info : Info) : (wantedColor info).2.statics = info.statics := by
  rw [wantedColor]
  dsimp only
  split <;> rfl

theorem fillPixels_statics (bounds : UInt64 × UInt64) (pixels : List Nat) (color : UInt32)
    (info : Info) : (fillPixels bounds pixels color info).statics = info.statics := by
  induction pixels generalizing color info with
  | nil => rfl
  | cons i rest ih =>
      rw [fillPixels]
      split
      · exact ih color info
      · dsimp only
        split
        · exact ih _ _
        · exact ih _ _

theorem modeFillInit_keeps : Keeps part modeFillInit := by
  intro info
  have filled := fillPixels_statics (fillBounds info.params) (List.range (numPixels info))
    (wantedColor info).1 (wantedColor info).2
  rw [wantedColor_statics] at filled
  exact congrArg part filled

theorem modeRainbowMain_keeps (rainbow : ∀ statics j, part { statics with j } = part statics) :
    Keeps part modeRainbowMain := fun info => rainbow info.statics _

theorem modePastelMain_keeps
    (pastel : ∀ statics currPixel, part { statics with currPixel } = part statics) :
    Keeps part modePastelMain := fun info => pastel info.statics _

theorem modeBinaryCounterMain_keeps (counter : ∀ statics currentCounterValue,
    part { statics with currentCounterValue } = part statics) :
    Keeps part modeBinaryCounterMain := by
  intro info
  have counted : part (countUp info).statics = part info.statics := by
    rw [countUp]
    dsimp only
    split
    · exact counter info.statics _
    · exact counter info.statics _
  rw [← counted]
  exact congrArg part (wantedColor_statics (countUp info))

section Scan
variable (scan : ∀ statics color i iIncrement,
  part { statics with color, i, iIncrement } = part statics)
include scan

theorem scanLoop_keeps (turns : Nat) : Keeps part (scanLoop turns) := by
  induction turns with
  | zero => exact none_keeps part
  | succ turns ih =>
      intro info
      have turn : part (scanTurn (numPixels info) info.statics) = part info.statics := by
        rw [scanTurn]
        split
        · exact scan info.statics _ _ _
        · exact scan info.statics _ _ _
      rw [scanLoop]
      dsimp only
      split
      · exact scan info.statics _ _ _
      · split
        · exact turn
        · exact (ih _).trans turn

theorem modeScanMain_keeps : Keeps part modeScanMain := by
  intro info
  apply (scanLoop_keeps part scan _ _).trans
  rw [scanColor]
  split
  · exact scan info.statics _ _ _
  · rfl

theorem modeScanFast_keeps : Keeps part modeScanFast := by
  intro info
  rw [modeScanFast]
  split
  · exact modeScanMain_keeps part scan info
  · rfl

end Scan

end Keeps

/-! ### POSTs -/

theorem table_distinct : ∀ i j : Fin 6,
    (allModes.get i).ledStripMode = (allModes.get j).ledStripMode → i = j := by
  decide

theorem mode_index {info : Info} (valid : info.currModeIndex < allModes.length)
    {mode : LedStripMode} {m : Nat} (found : indexOf mode = some m) :
    getLedStripMode info = mode ↔ info.currModeIndex = m := by
  obtain ⟨inside, same, _⟩ := List.findIdx?_eq_some_iff_getElem.mp found
  have named : (allModes.get ⟨m, inside⟩).ledStripMode = mode := of_decide_eq_true same
  have current :
      getLedStripMode info = (allModes.get ⟨info.currModeIndex, valid⟩).ledStripMode := by
    rw [getLedStripMode, currMode, List.getElem?_eq_getElem valid]
    rfl
  rw [current, ← named]
  constructor
  · intro equal
    exact congrArg Fin.val (table_distinct ⟨_, valid⟩ ⟨_, inside⟩ equal)
  · rintro rfl
    rfl

/-- The clearing of a POST that asks for it or changes the mode. -/
def clearing (postValues : StringMap) (m : Nat) : Handler := fun info =>
  if info.currModeIndex ≠ m ∨ shouldClearAllPixels postValues = true then
    clearPixelColorsAndShow info
  else ([], info)

/-- The state in which an accepted POST begins its mode. -/
def entered (postValues : StringMap) (m : Nat) (info : Info) : Info :=
  { (clearing postValues m info).2 with
    secsUntilGoingToManualMode := timeoutOf postValues
    currModeIndex := m
    params := postValues }

theorem post_step {info : Info} (valid : info.currModeIndex < allModes.length)
    {postValues : StringMap} {m : Nat} (accepted : acceptedMode postValues = some m) :
    step info (.doHandleModePost postValues) =
      ((clearing postValues m info).1 ++
          (runHandler (allModes[m]?.bind Mode.handlerInit) (entered postValues m info)).1,
        (runHandler (allModes[m]?.bind Mode.handlerInit) (entered postValues m info)).2) := by
  have index := wantedMode_index postValues
  rw [accepted] at index
  obtain ⟨mode, wanted, found⟩ := Option.bind_eq_some_iff.mp index
  have other : getLedStripMode info ≠ mode ↔ info.currModeIndex ≠ m :=
    not_congr (mode_index valid found)
  unfold indexOf at found
  rw [step, doHandleModePost, wanted]
  dsimp only
  rw [changeLedStripMode, found]
  simp only [other]
  rfl

/-! ### The end of a second -/

/-- The state that the end of a countdown leaves. -/
def expired (info : Info) : Info :=
  { info with
    lpd8806 := (showStrip (clearPixelColors info.lpd8806)).2
    secsUntilGoingToManualMode := noTimeout
    currModeIndex := 0
    params := expiredParams }

theorem timed_cases (info : Info) :
    (∃ secs, checkIfModeTimedOut info =
        ([], { info with secsUntilGoingToManualMode := secs })) ∨
      checkIfModeTimedOut info =
        ([.show (clearPixelColors info.lpd8806)], expired info) := by
  rcases lt_trichotomy info.secsUntilGoingToManualMode 0 with never | ends | counts
  · exact .inl ⟨_, checkIfModeTimedOut_never never⟩
  · refine .inr ?_
    have found : allModes.findIdx? (fun mode => mode.ledStripMode = .manual) = some 0 := rfl
    have clear : shouldClearAllPixels expiredParams = true := by decide
    rw [checkIfModeTimedOut_ends ends, changeLedStripMode, found]
    dsimp only
    rw [if_pos (.inr clear)]
    rfl
  · exact .inl ⟨_, checkIfModeTimedOut_counts counts⟩

/-! ### One step -/

/-- What a tick leaves: what its handler did, and the countdown a second further or at its end. -/
inductive Ticked (info : Info) (input : Input) : Prop where
  | runs (secs : Int)
      (same : step info input = ((runHandler (tickHandler (currMode info) input) info).1,
        { (runHandler (tickHandler (currMode info) input) info).2 with
          secsUntilGoingToManualMode := secs }))
  | ends (second : input = .tick1sec)
      (same : step info input = ((runHandler (tickHandler (currMode info) input) info).1 ++
          [.show (clearPixelColors
            (runHandler (tickHandler (currMode info) input) info).2.lpd8806)],
        expired (runHandler (tickHandler (currMode info) input) info).2))

theorem second_ticked (info : Info) : Ticked info .tick1sec := by
  have both : step info .tick1sec =
      ((runHandler (currMode info).handlerTick1Sec info).1 ++
          (checkIfModeTimedOut (runHandler (currMode info).handlerTick1Sec info).2).1,
        (checkIfModeTimedOut (runHandler (currMode info).handlerTick1Sec info).2).2) := rfl
  rcases timed_cases (runHandler (currMode info).handlerTick1Sec info).2 with ⟨secs, same⟩ | same
  · rw [same, List.append_nil] at both
    exact .runs secs both
  · rw [same] at both
    exact .ends rfl both

/-- A POST that is rejected, one that is accepted, or a tick. -/
theorem step_cases {info : Info} (valid : info.currModeIndex < allModes.length) (input : Input) :
    (∃ postValues, input = .doHandleModePost postValues ∧ acceptedMode postValues = none ∧
      step info input = ([], info)) ∨
    (∃ postValues m, input = .doHandleModePost postValues ∧ acceptedMode postValues = some m ∧
      step info input = ((clearing postValues m info).1 ++
          (runHandler (allModes[m]?.bind Mode.handlerInit) (entered postValues m info)).1,
        (runHandler (allModes[m]?.bind Mode.handlerInit) (entered postValues m info)).2)) ∨
    ((∀ postValues, input ≠ .doHandleModePost postValues) ∧ Ticked info input) := by
  cases input with
  | doHandleModePost postValues =>
      cases accepted : acceptedMode postValues with
      | none => exact .inl ⟨postValues, rfl, accepted, rejected_unchanged accepted info⟩
      | some m => exact .inr (.inl ⟨postValues, m, rfl, accepted, post_step valid accepted⟩)
  | fastTick => exact .inr (.inr ⟨nofun, .runs _ rfl⟩)
  | tick1sec => exact .inr (.inr ⟨nofun, second_ticked info⟩)
  | tick10sec => exact .inr (.inr ⟨nofun, .runs _ rfl⟩)
  | tick1min => exact .inr (.inr ⟨nofun, .runs _ rfl⟩)

/-- Without an accepted POST a step is a rejected one, or a tick. -/
theorem quiet_cases {info : Info} (valid : info.currModeIndex < allModes.length) {input : Input}
    (quiet : accepts input = false) :
    (∃ postValues, input = .doHandleModePost postValues ∧ step info input = ([], info)) ∨
      ((∀ postValues, input ≠ .doHandleModePost postValues) ∧ Ticked info input) := by
  rcases step_cases valid input with
    ⟨postValues, post, _, same⟩ | ⟨postValues, m, rfl, accepted, _⟩ | tick
  · exact .inl ⟨postValues, post, same⟩
  · rw [accepts, accepted] at quiet
    cases quiet
  · exact .inr tick

theorem tick_same (info : Info) (input : Input) :
    Same info (runHandler (tickHandler (currMode info) input) info).2 := by
  have draws := currMode_draws info
  cases input with
  | doHandleModePost postValues => exact same_refl info
  | fastTick => exact draws.fast info
  | tick1sec => exact draws.sec info
  | tick10sec => exact draws.tenSec info
  | tick1min => exact draws.min info

/-- A tick stays in the manual mode. -/
theorem manual_stays {info : Info} {input : Input} (ticked : Ticked info input)
    (manual : info.currModeIndex = 0) : (step info input).2.currModeIndex = 0 := by
  cases ticked with
  | runs secs same =>
      rw [same]
      exact (tick_same info input).index.trans manual
  | ends _ same =>
      rw [same]
      rfl

/-! ### Runs -/

/-- The index names a mode, and every pixel holds a colour. -/
structure Good (n : UInt16) (info : Info) : Prop where
  valid : info.currModeIndex < allModes.length
  whole : Whole n info.lpd8806

theorem tick_paints {info : Info} (valid : info.currModeIndex < allModes.length) (input : Input) :
    Paints (runHandler (tickHandler (currMode info) input)) :=
  run_tick Paints (fun _ _ whole => whole) valid
    (fun _ found _ handles => handles_paints found handles) input

theorem init_paints (m : Nat) : Paints (runHandler (allModes[m]?.bind Mode.handlerInit)) :=
  run_init Paints (fun _ _ whole => whole) fun _ found _ handles => handles_paints found handles

theorem clearing_whole {n : UInt16} {info : Info} (whole : Whole n info.lpd8806)
    (postValues : StringMap) (m : Nat) : Whole n (clearing postValues m info).2.lpd8806 := by
  rw [clearing]
  split
  · exact shows_whole (clearPixelColorsAndShow_dark info whole)
  · exact whole

theorem step_good {n : UInt16} {info : Info} (good : Good n info) (input : Input) :
    Good n (step info input).2 := by
  refine ⟨step_valid good.valid input, ?_⟩
  rcases step_cases good.valid input with
    ⟨_, _, _, same⟩ | ⟨postValues, m, _, _, same⟩ | ⟨_, ticked⟩
  · rw [same]
    exact good.whole
  · rw [same]
    exact init_paints m n _ (clearing_whole good.whole postValues m)
  · have ran := tick_paints good.valid input n info good.whole
    cases ticked with
    | runs secs same =>
        rw [same]
        exact ran
    | ends _ same =>
        rw [same]
        exact shows_whole (cleared_dark ran)

theorem construct_good (transport : Transport) (n : UInt16) (statics : Statics)
    (random : Random) : Good n (construct transport n statics random).2 := by
  refine ⟨construct_valid transport n statics random, ?_⟩
  have start : Whole n (Strip.new transport n) := shows_whole (new_dark transport n)
  have cleared := shows_whole (cleared_dark (op_whole start .showStrip))
  exact modeRainbowMain_paints n _ cleared

theorem run_good {n : UInt16} {info : Info} (good : Good n info) (inputs : List Input) :
    Good n (Machine.run step info inputs).2 :=
  Machine.run_invariant step (Good n) (fun _ input good => step_good good input) info inputs good

theorem currMode_index {info : Info} {mode : Mode} (found : allModes[info.currModeIndex]? = some mode) :
    currMode info = mode := by
  rw [currMode, found]
  rfl

/-- A step keeps what the handler it runs keeps. -/
theorem tick_statics {info : Info} {input : Input} (ticked : Ticked info input) :
    (step info input).2.statics =
      (runHandler (tickHandler (currMode info) input) info).2.statics := by
  cases ticked with
  | runs secs same => rw [same]
  | ends _ same =>
      rw [same]
      rfl

theorem entered_statics (postValues : StringMap) (m : Nat) (info : Info) :
    (entered postValues m info).statics = info.statics := by
  rw [entered, clearing]
  dsimp only
  split <;> rfl

/-- A tick shows what its handler shows, and a dark strip if the countdown ends. -/
theorem tick_frames {n : UInt16} {info : Info} (good : Good n info) {input : Input}
    (ticked : Ticked info input) :
    ∃ tail, frames (step info input).1 =
        frames (runHandler (tickHandler (currMode info) input) info).1 ++ tail ∧
      ∀ frame ∈ tail, Dark n frame := by
  cases ticked with
  | runs secs same =>
      refine ⟨[], ?_, List.forall_mem_nil _⟩
      rw [same, List.append_nil]
  | ends _ same =>
      have ran := tick_paints good.valid input n info good.whole
      refine ⟨[clearPixelColors (runHandler (tickHandler (currMode info) input) info).2.lpd8806],
        ?_, List.forall_mem_singleton.mpr (clear_dark ran)⟩
      rw [same, frames_append]
      rfl

/-! ### The calls of one function -/

/-- What a step has to do with `main`: it calls it in the state `start`, and a part of the
variables is as the call leaves it; or it does not, and that part stays as it is. -/
inductive Calls {Part : Type} (main : Handler) (part : Statics → Part) (info : Info)
    (input : Input) : Option Info → Prop where
  | elsewhere (kept : part (step info input).2.statics = part info.statics) :
      Calls main part info input none
  | called {start : Info} (before after : List Output) (same : start.statics = info.statics)
      (whole : ∀ n, Whole n info.lpd8806 → Whole n start.lpd8806)
      (shown : (step info input).1 = before ++ (main start).1 ++ after)
      (moved : (step info input).2.statics = (main start).2.statics) :
      Calls main part info input (some start)

section Calls
variable {Part : Type} {main : Handler} {part : Statics → Part} {info : Info} {input : Input}

theorem tick_calls (ticked : Ticked info input)
    (runs : runHandler (tickHandler (currMode info) input) info = main info) :
    Calls main part info input (some info) := by
  have statics := tick_statics ticked
  rw [runs] at statics
  cases ticked with
  | runs secs same =>
      refine .called [] [] rfl (fun _ whole => whole) ?_ statics
      rw [same, runs, List.nil_append, List.append_nil]
  | ends _ same =>
      refine .called [] [.show (clearPixelColors (main info).2.lpd8806)] rfl
        (fun _ whole => whole) ?_ statics
      rw [same, runs, List.nil_append]

theorem tick_elsewhere (ticked : Ticked info input)
    (kept : part (runHandler (tickHandler (currMode info) input) info).2.statics =
      part info.statics) : Calls main part info input none := by
  apply Calls.elsewhere
  rw [tick_statics ticked, kept]

end Calls

end OClock.StripRuns
