import OClock.FaceTime
import OClock.MessageColumns

/-!
What the panel shows, pixel by pixel: the parts of the clock and nothing else, and while nobody is
there a single pixel that comes to every place in every color.
-/

namespace OClock.ShownPixels
open Ht1632 (bufferSecondary)
open MatrixPixels DrawCalls ClockFace FrameBuffers TextPixels FacePicture FaceUpdates SaverDot
open DisplayInternal DisplayChanges DisplayPanel DisplayScreen Watching WatchedRuns LabelledRun
open FontData FaceTime
open BackgroundTables (WellFormed)

variable {arrays : Fonts.FontArrays} {display : Ht1632.Display} {screen : Screen} {seen : Seen}
  {moment : Moment}

/-! ### Runs always go on -/

/-- What an event makes of the scene. -/
def sceneAfter (scene : Scene) : Event → Scene
  | .call (.displayTick cadence) moment => MessageRun.tickOf (cadence, moment.surroundings) scene
  | .call (.handleTodo displayTodo) moment => handleTodo moment.surroundings scene displayTodo
  | .dictionary _ => scene

theorem handlerCalls_some (wellFormed : WellFormed screen.panel.tables) (cadence : Cadence)
    (moment : Moment) : ∃ calls after, handlerCalls cadence moment screen = some (calls, after) := by
  unfold handlerCalls
  split
  · obtain ⟨frame, drawn⟩ := MessageFrame.messageFrame_some (countTick screen.panel.tickers .fast)
      wellFormed moment.surroundings.random screen.panel.scene.display
    refine ⟨frame.map ofDrawCall, screen, ?_⟩
    rw [redraw, drawn]
    rfl
  · exact ⟨_, _, rfl⟩
  · split <;> exact ⟨_, _, rfl⟩
  · exact ⟨_, _, rfl⟩
  · split <;> exact ⟨_, _, rfl⟩
  · exact ⟨_, _, rfl⟩

theorem event_served (wellFormed : WellFormed screen.panel.tables) (event : Event) :
    ∃ calls after, DisplayScreen.serve screen event = some (calls, after) ∧
      WellFormed after.panel.tables ∧ after.panel.scene = sceneAfter screen.panel.scene event := by
  cases event with
  | call call moment =>
      cases call with
      | displayTick cadence =>
          have panel := check_panel cadence screen
          rw [← panel] at wellFormed
          obtain ⟨handled, next, served⟩ := handlerCalls_some wellFormed cadence moment
          have same := (handler_panel served).trans panel
          refine ⟨_, _, congrArg (Option.map _) served, ?_, ?_⟩
          · rw [panel, ← same] at wellFormed
            exact wellFormed
          · rw [← same]
            rfl
      | handleTodo displayTodo =>
          obtain ⟨calls, after, served, kept⟩ := serve_some wellFormed
            (.handleTodo displayTodo, moment.surroundings)
          obtain ⟨tables, handled, same⟩ := Option.map_eq_some_iff.mp served
          cases same
          exact ⟨_, _, congrArg (Option.map _) handled, kept, rfl⟩
  | dictionary op => exact ⟨_, _, rfl, wellFormed, rfl⟩

theorem runs_go_on (arrays : Fonts.FontArrays) (memory : Fin 3 → Ht1632.Cells)
    (panel : MatrixPanel.Panel) (moment : Moment) (events : List Event) :
    ∃ world seen, Run (Watched arrays) (Watched.start arrays memory panel moment) events
        (world, seen) ∧ WellFormed world.screen.panel.tables ∧
      world.screen.panel.scene = events.foldl sceneAfter Panel.boot.scene := by
  induction events using List.reverseRecOn with
  | nil => exact ⟨_, _, .start, boot_wellFormed, rfl⟩
  | append_singleton events event ih =>
      obtain ⟨world, seen, run, wellFormed, scene⟩ := ih
      obtain ⟨calls, after, served, kept, moved⟩ := event_served wellFormed event
      refine ⟨_, _, .step run (.step seen (.event served)), kept, ?_⟩
      rw [List.foldl_append, ← scene]
      exact moved

/-! ### The clock -/

/-- In any run from the constructor on, with the clock on the display: a pixel of the buffers is on
exactly when one of the parts of the face has it, drawn on a board of its own, and no part leaves
its box. After a half-second tick the chips show the same. -/
theorem clock_face_shown (bits : FourBits arrays) (blank : BlankSpace arrays)
    (memory : Fin 3 → Ht1632.Cells) (panel : MatrixPanel.Panel) (moment : Moment)
    {events : List Event} (timed : ∀ event ∈ events, TimedEvent event) {world : World} {seen : Seen}
    (run : Run (Watched arrays) (Watched.start arrays memory panel moment) events (world, seen))
    (clock : getDisplayMode world.screen.panel.scene.display = .basicClock) :
    ∃ face, seen.showing = .clock face ∧
      (∀ (t : Fin 3) (x : Fin 128) (y : Fin 16),
        pixel (world.matrix.display.mem t) (x : Nat) (y : Nat) = true ↔
          ∃ slot call, slot.board = t ∧ face.parts slot = some call ∧
            inkOf arrays call x y = true) ∧
      (∀ slot call, face.parts slot = some call → ∀ x y, inkOf arrays call x y = true →
        slot.box.Holds x y) ∧
      ∀ before last, events = before ++ [.call (.displayTick .ms500) last] →
        ∀ t ≠ bufferSecondary, ∀ (x : Fin 128) (y : Fin 16),
          chipPixel world.matrix.panel t (x : Nat) (y : Nat) = true ↔
            ∃ slot call, slot.board = t ∧ face.parts slot = some call ∧
              inkOf arrays call x y = true := by
  have follows := run_follows bits blank (start_follows arrays memory panel moment) timed run
  have mode := follows.agrees.mode
  have on := follows.agrees.on
  dsimp only at mode on
  rw [clock] at mode
  cases shown : seen.showing with
  | message =>
      rw [shown] at mode
      cases mode
  | nothing dot =>
      rw [shown] at mode
      cases mode
  | clock face =>
      rw [shown] at on
      have buffers : ∀ (t : Fin 3) (x : Fin 128) (y : Fin 16),
          pixel (world.matrix.display.mem t) (x : Nat) (y : Nat) = true ↔
            ∃ slot call, slot.board = t ∧ face.parts slot = some call ∧
              inkOf arrays call x y = true := by
        intro t x y
        refine (on.2.lit (t, x, y)).trans (exists_congr fun slot => ?_)
        exact exists_and_left.symm
      refine ⟨face, rfl, buffers, ?_, ?_⟩
      · intro slot call part x y dot
        exact (on.2.within slot (slot.board, x, y) ⟨rfl, call, part, dot⟩).2
      · rintro before last rfl t board x y
        have told := (run_halfSecond bits blank (start_follows arrays memory panel moment) timed run
          shown).2
        rw [told t board]
        exact buffers t x y

theorem fontData_blank : BlankSpace fontData := by
  intro row rows
  have dark : ∀ j < 5,
      TextPixels.glyphDot (tables fontData Fonts.font5x4) 0 0 (j : Nat) = false := by
    decide +kernel
  obtain ⟨j, rfl⟩ := Int.eq_ofNat_of_zero_le rows.1
  exact dark j (by omega)

def switchedOff : MatrixPanel.Panel where
  levels _ := false
  chain := ⟨List.replicate 16 true, by decide⟩
  devices _ := ⟨.id [], fun _ => 0⟩

/-- On a Thursday, the first of January. -/
def noon : Tm := ⟨0, 0, 12, 1, 0, 4⟩

theorem noon_valid : noon.Valid where
  sec := by decide
  min := by decide
  hour := by decide
  mday := by decide
  mon := by decide
  wday := by decide

def atNoon (surroundings : Surroundings) : Moment := ⟨surroundings, noon, noon, false⟩

theorem atNoon_timed (surroundings : Surroundings) : Timed (atNoon surroundings) :=
  ⟨noon_valid, noon_valid⟩

def still : Moment := atNoon MessageColumns.quiet

/-- The message of the constructor is shown for five seconds. -/
def bootSeconds : List Event := List.replicate 5 (.call (.displayTick .sec1) still)

theorem bootSeconds_timed (last : Event) (timed : TimedEvent last) :
    ∀ event ∈ bootSeconds ++ [last], TimedEvent event := by
  intro event inside
  rcases List.mem_append.mp inside with second | behind
  · rw [(List.mem_replicate.mp second).2]
    exact atNoon_timed MessageColumns.quiet
  · rw [List.mem_singleton.mp behind]
    exact timed

def halfSecond : Event := .call (.displayTick .ms500) still

theorem bootSeconds_mode :
    getDisplayMode ((bootSeconds ++ [halfSecond]).foldl sceneAfter Panel.boot.scene).display =
      .basicClock := by decide +kernel

/-- The first days of the epoch. -/
def utc (time : Nat) : Tm where
  tmSec := (time % 60 : Nat)
  tmMin := (time / 60 % 60 : Nat)
  tmHour := (time / 60 / 60 % 24 : Nat)
  tmMday := (time / 60 / 60 / 24 % 31 + 1 : Nat)
  tmMon := 0
  tmWday := ((time / 60 / 60 / 24 + 4) % 7 : Nat)

theorem utc_localTime : LocalTime utc where
  valid time := by
    constructor <;> dsimp only [utc] <;> omega
  sec _ := rfl
  minute first second same := by
    dsimp only [utc]
    rw [same]

/-- Noon, in seconds. -/
def noonTime : Nat := 43200

theorem atNoon_reads (surroundings : Surroundings) :
    Reads utc noonTime noonTime noonTime (atNoon surroundings) := by
  have noon_utc : noon = utc noonTime := rfl
  exact ⟨noon_utc, noon_utc, Nat.le_refl _, Nat.le_refl _, by decide⟩

theorem bootSeconds_timely :
    Timely utc noonTime (bootSeconds ++ [halfSecond]) noonTime noonTime := by
  have reads := atNoon_reads MessageColumns.quiet
  have second : ∀ {events}, Timely utc noonTime events noonTime noonTime →
      Timely utc noonTime (events ++ [.call (.displayTick .sec1) still]) noonTime noonTime := by
    intro events earlier
    refine .call earlier reads ?_
    intro same
    cases same
  exact .halfSecond (second (second (second (second (second .start))))) reads (by decide)

/-- What the buffers are to show at noon. -/
theorem noon_refreshed {face : Face} (told : Told utc noonTime noonTime face) :
    face.refreshed = noon := by
  obtain ⟨refresh, same, before, minute, -⟩ := told
  have now : refresh = noonTime := by
    unfold noonTime at *
    omega
  rw [same, now]
  rfl

/-- The top of the 1 of 12:00, and the corner beside it. -/
theorem noon_dots : inkOf fontData (.drawText (timeText noon) 0 0 Fonts.font16x8) 4 0 = true ∧
    inkOf fontData (.drawText (timeText noon) 0 0 Fonts.font16x8) 0 0 = false := by decide +kernel

theorem clock_face_shown_boot :
    ∃ world seen face, Run (Watched fontData)
        (Watched.start fontData (fun _ => Vector.replicate Ht1632.addrSpaceSize 0) switchedOff still)
        (bootSeconds ++ [halfSecond]) (world, seen) ∧
      seen.showing = .clock face ∧
      (∀ (t : Fin 3) (x : Fin 128) (y : Fin 16),
        pixel (world.matrix.display.mem t) (x : Nat) (y : Nat) = true ↔
          ∃ slot call, slot.board = t ∧ face.parts slot = some call ∧
            inkOf fontData call x y = true) ∧
      (∀ t ≠ bufferSecondary, ∀ (x : Fin 128) (y : Fin 16),
        chipPixel world.matrix.panel t (x : Nat) (y : Nat) = true ↔
          ∃ slot call, slot.board = t ∧ face.parts slot = some call ∧
            inkOf fontData call x y = true) ∧
      chipPixel world.matrix.panel 0 4 0 = true ∧ chipPixel world.matrix.panel 0 0 0 = false := by
  obtain ⟨world, seen, run, -, scene⟩ := runs_go_on fontData
    (fun _ => Vector.replicate Ht1632.addrSpaceSize 0) switchedOff still
    (bootSeconds ++ [halfSecond])
  have timed := bootSeconds_timed halfSecond (atNoon_timed MessageColumns.quiet)
  obtain ⟨face, clock, buffers, within, chips⟩ := clock_face_shown fontData_bits fontData_blank _
    switchedOff still timed run
    ((congrArg (fun scene => getDisplayMode scene.display) scene).trans bootSeconds_mode)
  have told := run_told fontData_bits fontData_blank utc_localTime _ switchedOff still
    bootSeconds_timely run face clock
  have time : face.parts .time = some (.drawText (timeText noon) 0 0 Fonts.font16x8) := by
    rw [Face.parts, noon_refreshed told]
  have shown := chips bootSeconds still rfl
  refine ⟨world, seen, face, run, clock, buffers, shown, ?_, ?_⟩
  · exact (shown 0 (by decide) 4 0).mpr ⟨.time, _, rfl, time, noon_dots.1⟩
  · rw [← Bool.not_eq_true]
    intro lit
    obtain ⟨slot, call, board, part, dot⟩ := (shown 0 (by decide) 0 0).mp lit
    -- No other part of the board has its box there.
    have only : slot = .time := by
      have left : slot.box.left = 0 := Nat.le_zero.mp (within slot call part 0 0 dot).1.1
      cases slot <;> first | rfl | exact absurd left (by decide)
    rw [only, time] at part
    obtain rfl := Option.some.inj part
    exact Bool.false_ne_true (noon_dots.2.symm.trans dot)

/-! ### The empty mode -/

/-- While nothing moves a second of the empty mode changes the brightness at most. -/
theorem second_stays (surroundings : Surroundings) {scene : Scene}
    (empty : getDisplayMode scene.display = .nothing)
    (calm : surroundings.motionInfo.currMotionDetected = false) (dictionary : DictionaryStore.Dictionary)
    (showing : Showing) :
    enteredAll moment
        (newChanges scene (MessageRun.tickOf (.sec1, surroundings) scene)) dictionary showing =
      showing := by
  have ticked : MessageRun.tickOf (.sec1, surroundings) scene = updateDim surroundings scene := by
    change updateDim surroundings (handlerTick surroundings .sec1 (getDisplayMode scene.display)
      scene) = _
    rw [empty]
    change updateDim surroundings (modeNothingCheckMotion surroundings scene) = _
    rw [modeNothingCheckMotion, calm]
    rfl
  rw [ticked, newChanges]
  unfold updateDim
  dsimp only
  split
  · rw [List.drop_length]
    rfl
  · rw [List.drop_left]
    rfl

/-- With the next second the next pixel of the walk comes. -/
theorem second_walks {last : Moment} (calm : last.surroundings.motionInfo.currMotionDetected = false)
    {calls : List MatrixCall} {after : Screen}
    (ticks : tick .sec1 last screen = some (calls, after))
    (agrees : Agrees arrays screen seen display) {dot : Option Saver}
    (empty : seen.showing = .nothing dot) :
    watch screen (.call (.displayTick .sec1) last) after seen =
      ⟨.nothing (some (dotAt seen.dots.length)), seen.dots ++ [dotAt seen.dots.length]⟩ := by
  obtain ⟨handled, next, -, -, -, done⟩ := tick_parts ticks
  have mode : getDisplayMode screen.panel.scene.display = .nothing := by
    rw [agrees.mode, empty]
    rfl
  have scene : after.panel.scene =
      MessageRun.tickOf (.sec1, last.surroundings) screen.panel.scene :=
    (congrArg (fun drawn => drawn.2.panel.scene) done).symm
  have moved : ¬ last.surroundings.motionInfo.currMotionDetected = true := by
    rw [calm]
    decide
  unfold watch
  dsimp only
  rw [scene, second_stays last.surroundings mode calm]
  obtain ⟨showing, past⟩ := seen
  dsimp only at empty
  subst empty
  change (if last.surroundings.motionInfo.currMotionDetected then _
    else (⟨.nothing (some screen.saver), past ++ [screen.saver]⟩ : Seen)) = _
  rw [if_neg moved, agrees.saver]

/-- In any run, whenever the display is empty: the pixels that were shown so far are the first of
the walk, the chips show the last of them or, as long as none has come since the mode was entered,
nothing. With the next second, unless something moves, they show the next one of the walk. -/
theorem saver_walks (bits : FourBits arrays) (blank : BlankSpace arrays)
    (memory : Fin 3 → Ht1632.Cells) (panel : MatrixPanel.Panel) (moment : Moment)
    {events : List Event} (timed : ∀ event ∈ events, TimedEvent event) {world : World} {seen : Seen}
    (run : Run (Watched arrays) (Watched.start arrays memory panel moment) events (world, seen))
    (empty : getDisplayMode world.screen.panel.scene.display = .nothing) :
    seen.dots = (List.range seen.dots.length).map dotAt ∧
    (∃ dot, seen.showing = .nothing dot ∧
      (∀ saver ∈ dot, ∃ n, seen.dots.length = n + 1 ∧ saver = dotAt n) ∧
      ∀ t ≠ bufferSecondary, ∀ (x : Fin 128) (y : Fin 16),
        chipPixel world.matrix.panel t (x : Nat) (y : Nat) = true ↔
          ∃ saver ∈ dot, Lights saver (t, x, y)) ∧
    (∀ last, TimedEvent (.call (.displayTick .sec1) last) →
      last.surroundings.motionInfo.currMotionDetected = false → ∀ next,
        Watched arrays (world, seen) (.call (.displayTick .sec1) last) next →
          next.2.dots.length = seen.dots.length + 1 ∧
          ∀ t ≠ bufferSecondary, ∀ (x : Fin 128) (y : Fin 16),
            chipPixel next.1.matrix.panel t (x : Nat) (y : Nat) = true ↔
              Lights (dotAt seen.dots.length) (t, x, y)) ∧
    ∀ n (x : Fin 128) (y : Fin 16) (color : Fin 3),
      ∃! i, i < saverPeriod ∧ dotAt (n + i) = ⟨(x : Nat), (y : Nat), UInt8.ofNat color⟩ := by
  have follows := run_follows bits blank (start_follows arrays memory panel moment) timed run
  have shown : ∀ (state : World × Seen) dot, Follows arrays state →
      state.2.showing = .nothing dot → ∀ t ≠ bufferSecondary, ∀ (x : Fin 128) (y : Fin 16),
        chipPixel state.1.matrix.panel t (x : Nat) (y : Nat) = true ↔
          ∃ saver ∈ dot, Lights saver (t, x, y) := by
    intro state dot followed same t board x y
    have on := followed.agrees.on
    rw [same] at on
    rw [shown_pixel (followed.settled dot same t board)]
    exact on (t, x, y)
  have mode : seen.showing.mode = .nothing := follows.agrees.mode.symm.trans empty
  obtain ⟨dot, same⟩ : ∃ dot, seen.showing = .nothing dot := by
    cases same : seen.showing with
    | nothing dot => exact ⟨dot, rfl⟩
    | message | clock _ =>
        rw [same] at mode
        cases mode
  refine ⟨follows.agrees.dots, ⟨dot, same, ?_, shown _ dot follows same⟩, ?_, dotAt_visits⟩
  · rintro saver there
    cases there
    exact follows.agrees.last saver same
  · intro last ticks calm next moves
    have followed := step_follows bits blank ticks moves follows
    obtain ⟨_, ⟨served⟩⟩ := moves
    have walked := second_walks calm served follows.agrees same
    rw [walked] at followed
    dsimp only
    rw [walked]
    refine ⟨List.length_append, ?_⟩
    intro t board x y
    refine (shown _ _ followed rfl t board x y).trans ?_
    constructor
    · rintro ⟨saver, there, lights⟩
      cases there
      exact lights
    · intro lights
      exact ⟨_, rfl, lights⟩

/-- Nothing has moved for more than a quarter of an hour. -/
def deserted : Moment := atNoon ⟨{ (default : StatusReport.MotionInfo) with lastChangedMin := 16 }, 0,
  fun _ => [], fun _ => 0⟩

def leaves : Event := .call (.displayTick .ms500) deserted

theorem leaves_mode :
    getDisplayMode ((bootSeconds ++ [leaves]).foldl sceneAfter Panel.boot.scene).display =
      .nothing := by decide +kernel

theorem saver_walks_deserted :
    ∃ world seen next, Run (Watched fontData)
        (Watched.start fontData
          (fun _ => Vector.replicate Ht1632.addrSpaceSize 0) switchedOff still)
        (bootSeconds ++ [leaves]) (world, seen) ∧
      Watched fontData (world, seen) (.call (.displayTick .sec1) deserted) next ∧
      ∀ t ≠ bufferSecondary, ∀ (x : Fin 128) (y : Fin 16),
        chipPixel next.1.matrix.panel t (x : Nat) (y : Nat) = true ↔
          Lights (dotAt seen.dots.length) (t, x, y) := by
  obtain ⟨world, seen, run, wellFormed, scene⟩ := runs_go_on fontData
    (fun _ => Vector.replicate Ht1632.addrSpaceSize 0) switchedOff still (bootSeconds ++ [leaves])
  have deserted_timed : Timed deserted := atNoon_timed _
  obtain ⟨-, -, walks, -⟩ := saver_walks fontData_bits fontData_blank _
    switchedOff still (bootSeconds_timed leaves deserted_timed) run
    ((congrArg (fun scene => getDisplayMode scene.display) scene).trans leaves_mode)
  obtain ⟨calls, after, served, -, -⟩ := event_served wellFormed (.call (.displayTick .sec1) deserted)
  have moves := @Watched.step fontData _ _ _ seen (.event served)
  exact ⟨world, seen, _, run, moves, (walks deserted deserted_timed rfl _ moves).2⟩

end OClock.ShownPixels
