import OClock.Watching

/-!
Runs of the display from the constructor on: the chips show the face of the clock after each half
second, and the walking pixel all the time while the mode is empty.
-/

namespace OClock.WatchedRuns
open Ht1632 (bufferSecondary setBrightness eachChip writeData writeCommand cmdPwm idCmd idLen select
  performAll getAddrFromXY)
open MatrixPanel (Good rams lowNibble Shows Silent act_display)
open MatrixRefresh (Shown)
open MatrixRun MatrixPixels
open DrawCalls ClockFace FrameBuffers TextPixels FacePicture FaceUpdates SaverDot
open DisplayInternal DisplayChanges DisplayPanel DisplayScreen Watching LabelledRun

variable {arrays : Fonts.FontArrays} {matrix : MatrixPanel.World}

/-! ### The chips -/

theorem drawn_display (arrays : Fonts.FontArrays) (calls : List MatrixCall)
    (matrix : MatrixPanel.World) :
    (drawn arrays calls matrix).display = strokes arrays matrix.display calls := by
  unfold drawn MatrixPanel.after Trace.outcome
  rw [Trace.inside_final act_display, performAll, Trace.final_each, List.foldl_map]
  rfl

theorem drawn_nil (arrays : Fonts.FontArrays) (matrix : MatrixPanel.World) :
    drawn arrays [] matrix = matrix := rfl

theorem drawn_cons (arrays : Fonts.FontArrays) (call : MatrixCall) (rest : List MatrixCall)
    (matrix : MatrixPanel.World) :
    drawn arrays (call :: rest) matrix =
      drawn arrays rest (MatrixPanel.after (Ht1632.perform (call.op arrays)) matrix) := by
  unfold drawn performAll
  rw [List.map_cons, after_each_cons]

theorem drawn_append (arrays : Fonts.FontArrays) (early late : List MatrixCall)
    (matrix : MatrixPanel.World) :
    drawn arrays (early ++ late) matrix = drawn arrays late (drawn arrays early matrix) := by
  induction early generalizing matrix with
  | nil => rfl
  | cons call rest ih => rw [List.cons_append, drawn_cons, drawn_cons, ih]

theorem drawn_good (calls : List MatrixCall) (good : Good matrix) :
    Good (drawn arrays calls matrix) :=
  (performAll_keeps _ matrix good).2

/-- Both boards are in the chips. -/
def BothShown (matrix : MatrixPanel.World) : Prop := ∀ t ≠ bufferSecondary, Shown matrix t

theorem renderAll_shown (early : List MatrixCall) (good : Good matrix) :
    BothShown (drawn arrays (early ++ [.renderAll]) matrix) := by
  intro t board
  rw [drawn_append, drawn_cons, drawn_nil]
  exact eachBoard_shown (drawn_good early good) board

theorem reinit_both (good : Good matrix) : BothShown (drawn arrays [.reinit] matrix) := by
  intro t board
  rw [drawn_cons, drawn_nil]
  exact reinit_shown good board

theorem silent_shown {writes : List (SerialLine.Write SelectChain.Line)} (silent : Silent writes)
    (good : Good matrix) {t : Fin 3} (shown : Shown matrix t) :
    Shown (MatrixPanel.after (Ht1632.pins writes) matrix) t := by
  have same : rams (Trace.final (SelectChain.act MatrixChip.chipKind) matrix.panel writes) =
      rams matrix.panel := Trace.throughout_end (silent matrix.panel good.rests).1
  intro i inside
  have cell := shown i inside
  rw [MatrixPanel.pins_after]
  unfold Shows at cell ⊢
  rwa [same]

/-- The brightness is no matter of the memories. -/
theorem setBrightness_shown (brightnessParam : Int) (good : Good matrix) {t : Fin 3}
    (shown : Shown matrix t) : Shown (MatrixPanel.after (setBrightness brightnessParam) matrix) t := by
  unfold setBrightness
  split
  · exact shown
  · have commands : Silent (eachChip
        (writeData idCmd idLen ++ writeCommand (cmdPwm brightnessParam))) :=
      MatrixPanel.eachChip_silent fun _ inside =>
        MatrixPanel.command_silent inside (MatrixPanel.writeCommand_strobed _)
    have dimmed : Good { matrix with
        display := { matrix.display with brightness := brightnessParam } } :=
      (MatrixPanel.change_keeps (MatrixPanel.brightness_touches brightnessParam) matrix good).2
    have kept : Shown { matrix with
        display := { matrix.display with brightness := brightnessParam } } t := shown
    have told := (MatrixPanel.silent_keeps commands _ dimmed).2
    rw [MatrixPanel.after_block_cons, MatrixPanel.after_block_cons, MatrixPanel.after_block_cons,
      MatrixPanel.after_block_nil, MatrixPanel.after_change]
    exact silent_shown MatrixPanel.select_none_silent told (silent_shown commands dimmed kept)

/-- A pixel of a board, as the chips have it. -/
def chipPixel (panel : MatrixPanel.Panel) (t : Fin 3) (x y : Int) : Bool :=
  (rams panel (getAddrFromXY x y / 32) (getAddrFromXY x y % 32 + t * 32)).getLsbD (y % 4).toNat

theorem shown_pixel {t : Fin 3} (shown : Shown matrix t) (x : Fin 128) (y : Fin 16) :
    chipPixel matrix.panel t (x : Nat) (y : Nat) =
      pixel (matrix.display.mem t) (x : Nat) (y : Nat) := by
  have cell := shown _ (address_inside (onScreen x y))
  have low : (((y : Nat) : Int) % 4).toNat < 4 := by omega
  unfold Shows at cell
  unfold chipPixel pixel lowNibble at *
  rw [cell, BitVec.getLsbD_setWidth, decide_eq_true low, Bool.true_and]
  rfl

/-! ### The empty mode -/

variable {screen : Screen} {seen : Seen} {showing : Showing} {moment : Moment}

/-- While the mode is empty the chips have all that there is. -/
def Settled (showing : Showing) (matrix : MatrixPanel.World) : Prop :=
  ∀ dot, showing = .nothing dot → BothShown matrix

theorem entered_settled (dictionary : DictionaryStore.Dictionary) (good : Good matrix)
    (settled : Settled showing matrix) (change : Change) :
    Settled (entered moment dictionary showing change)
      (drawn arrays (drawChange moment dictionary change).1 matrix) := by
  intro dot same
  cases change with
  | entered displayMode =>
      cases displayMode with
      | nothing => exact renderAll_shown [.clearAll] good
      | message => cases same
      | basicClock => cases same
  | dimmed roomIsDark =>
      intro t board
      rw [drawChange, drawn_cons, drawn_nil]
      exact setBrightness_shown _ good (settled dot same t board)

theorem enteredAll_settled (changes : List Change) (dictionary : DictionaryStore.Dictionary)
    (good : Good matrix) (settled : Settled showing matrix) :
    Settled (enteredAll moment changes dictionary showing)
      (drawn arrays (drawChanges moment changes dictionary).1 matrix) := by
  induction changes generalizing dictionary matrix showing with
  | nil => exact settled
  | cons change rest ih =>
      rw [drawChanges, drawn_append]
      exact ih _ (drawn_good _ good) (entered_settled dictionary good settled change)

theorem handler_settled {cadence : Cadence} {calls : List MatrixCall} {after : Screen}
    (handled : handlerCalls cadence moment screen = some (calls, after))
    (mode : getDisplayMode screen.panel.scene.display = seen.showing.mode) (good : Good matrix)
    (settled : Settled seen.showing matrix) :
    Settled (seen.ticked cadence moment screen).showing (drawn arrays calls matrix) := by
  obtain ⟨showing, past⟩ := seen
  unfold handlerCalls at handled
  rw [mode] at handled
  intro dot same
  cases showing with
  | message => cases cadence <;> cases same
  | clock face =>
      cases cadence
      case ms500 =>
        unfold Seen.ticked at same
        dsimp only at same
        split at same <;> cases same
      all_goals cases same
  | nothing old =>
      have before := settled old rfl
      cases cadence
      case sec1 =>
        change (if moment.surroundings.motionInfo.currMotionDetected then some ([], screen)
          else some (saverCalls screen.saver, { screen with saver := screen.saver.next })) = _
          at handled
        split at handled
        · cases handled
          exact before
        · cases handled
          exact renderAll_shown _ good
      all_goals
        cases handled
        exact before

theorem check_settled (cadence : Cadence) (good : Good matrix) (settled : Settled showing matrix) :
    Settled showing (drawn arrays (check cadence screen).1 matrix) := by
  intro dot same
  unfold check
  split
  · unfold checkHT1632
    dsimp only
    split
    · exact settled dot same
    · exact reinit_both good
  · exact settled dot same

theorem serve_settled {event : Event} {calls : List MatrixCall} {after : Screen}
    (served : serve screen event = some (calls, after))
    (mode : getDisplayMode screen.panel.scene.display = seen.showing.mode) (good : Good matrix)
    (settled : Settled seen.showing matrix) :
    Settled (watch screen event after seen).showing (drawn arrays calls matrix) := by
  cases event with
  | call call moment =>
      cases call with
      | displayTick cadence =>
          obtain ⟨handled, next, handler, panel, dictionary, done⟩ := tick_parts served
          have checked := @check_settled arrays matrix screen seen.showing cadence good settled
          rw [← check_panel cadence screen] at mode
          have ticked := @handler_settled arrays _ _ seen moment cadence handled next handler mode
            (drawn_good _ good) checked
          rw [← drawn_append] at ticked
          have changed := @enteredAll_settled arrays _ _ moment
            (newChanges next.panel.scene (screen.panel.ticked cadence moment.surroundings).scene)
            next.dictionary (drawn_good _ good) ticked
          rw [← drawn_append] at changed
          unfold settle at done
          unfold watch
          dsimp only
          rw [dictionary]
          rw [panel] at changed done
          cases done
          exact changed
      | handleTodo displayTodo =>
          obtain ⟨tables, -, done⟩ := Option.map_eq_some_iff.mp served
          cases done
          exact enteredAll_settled _ _ good settled
  | dictionary op =>
      cases served
      exact settled

/-! ### Half a second -/

theorem newChanges_self (scene : Scene) : newChanges scene scene = [] := List.drop_length

theorem leavesClock_iff (surroundings : Surroundings) :
    leavesClock surroundings = true ↔ surroundings.motionInfo.currMotionDetected = false ∧
      (15 < surroundings.motionInfo.lastChangedMin ∨
        0 < surroundings.motionInfo.lastChangedHour) := by
  simp [leavesClock]

/-- The clock is left for the empty mode, or nothing changes. -/
theorem halfSecond_changes (surroundings : Surroundings) (scene : Scene) :
    newChanges scene (MessageRun.tickOf (.ms500, surroundings) scene) =
      if getDisplayMode scene.display = .basicClock ∧ leavesClock surroundings = true then
        [.entered .nothing]
      else [] := by
  have handler : MessageRun.tickOf (.ms500, surroundings) scene =
      handlerTick surroundings .ms500 (getDisplayMode scene.display) scene := rfl
  rw [handler]
  generalize getDisplayMode scene.display = mode
  cases mode with
  | nothing => exact newChanges_self scene
  | message => exact newChanges_self scene
  | basicClock =>
      have left := (changeDisplayMode_enters .nothing none scene).1
      have asked := leavesClock_iff surroundings
      change newChanges scene (modeBasicClockFast surroundings scene) = _
      unfold modeBasicClockFast
      dsimp only
      split
      · next leaves =>
        rw [if_pos ⟨rfl, asked.mpr leaves⟩, newChanges, left, List.drop_left]
      · next stays =>
        rw [if_neg fun leaves => stays (asked.mp leaves.2)]
        exact newChanges_self scene

/-- The clock that is shown after half a second has just been told to the chips, with its
seconds. -/
theorem halfSecond_clock {calls : List MatrixCall} {after : Screen}
    (ticks : tick .ms500 moment screen = some (calls, after))
    (mode : getDisplayMode screen.panel.scene.display = seen.showing.mode) {shown : Face}
    (clock : (watch screen (.call (.displayTick .ms500) moment) after seen).showing =
      .clock shown) :
    ∃ face dictionary early, seen.showing = .clock face ∧
      shown = secondsFace moment dictionary face ∧ calls = early ++ [.renderAll] := by
  obtain ⟨handled, next, handler, panel, -, done⟩ := tick_parts ticks
  have changes := halfSecond_changes moment.surroundings screen.panel.scene
  have ticked : after.panel = screen.panel.ticked .ms500 moment.surroundings :=
    (congrArg (fun drawn => drawn.2.panel) done).symm
  have scene : after.panel.scene =
      MessageRun.tickOf (.ms500, moment.surroundings) screen.panel.scene := by
    rw [ticked]
    rfl
  unfold watch at clock
  dsimp only at clock
  rw [scene, changes, mode] at clock
  obtain ⟨showing, past⟩ := seen
  cases showing with
  | message => cases clock
  | nothing dot => cases clock
  | clock face =>
      by_cases leaves : leavesClock moment.surroundings = true
      · rw [if_pos ⟨rfl, leaves⟩] at clock
        cases clock
      · rw [if_neg fun both => leaves both.2] at clock
        change (Seen.ticked .ms500 moment _ _).showing = _ at clock
        unfold handlerCalls at handler
        rw [check_panel, mode] at handler
        unfold Seen.ticked at clock
        dsimp only at clock handler
        rw [if_neg leaves] at clock
        change (if leavesClock moment.surroundings then some ([], _) else some (_, _)) = _ at handler
        rw [if_neg leaves] at handler
        have calm : newChanges next.panel.scene
            (screen.panel.ticked .ms500 moment.surroundings).scene = [] := by
          rw [panel]
          exact changes.trans (if_neg fun both => leaves both.2)
        have drawn : (check .ms500 screen).1 ++ handled ++
            (drawChanges moment (newChanges next.panel.scene
              (screen.panel.ticked .ms500 moment.surroundings).scene) next.dictionary).1 = calls :=
          congrArg Prod.fst done
        rw [calm, drawChanges, List.append_nil] at drawn
        cases clock
        cases handler
        refine ⟨face, _, (check .ms500 screen).1 ++ ((modeBasicClockShowSeconds moment.seconds
          moment.slow (check .ms500 screen).2.dictionary).1 ++
            (updateMotionDetectedPixel moment.currMotionDetected).dropLast), rfl, rfl, ?_⟩
        rw [← drawn, List.append_assoc, List.append_assoc]
        rfl

/-! ### Runs -/

/-- What holds at every moment of a run. -/
structure Follows (arrays : Fonts.FontArrays) (state : World × Seen) : Prop where
  good : Good state.1.matrix
  agrees : Agrees arrays state.1.screen state.2 state.1.matrix.display
  settled : Settled state.2.showing state.1.matrix

theorem boot_mode (moment : Moment) :
    getDisplayMode (boot moment).2.panel.scene.display = .message := by
  have panel : (boot moment).2.panel = .boot := rfl
  rw [panel]
  exact (changeDisplayMode_enters .message none _).2.2.1

theorem initial_inTurn : InTurn .initial := ⟨by decide, by decide, by decide⟩

theorem boot_agrees (arrays : Fonts.FontArrays) (moment : Moment) (display : Ht1632.Display) :
    Agrees arrays (boot moment).2 ⟨.message, []⟩ display where
  mode := boot_mode moment
  turn := initial_inTurn
  saver := dotAt_initial.symm
  dots := rfl
  last := by
    intro saver same
    cases same
  on := trivial

theorem start_follows (arrays : Fonts.FontArrays) (memory : Fin 3 → Ht1632.Cells)
    (panel : MatrixPanel.Panel) (moment : Moment) :
    Follows arrays (Watched.start arrays memory panel moment) := by
  have begun := @drawn_good arrays _ (boot moment).1 (beginDisplay_good memory panel)
  unfold Watched.start World.start
  constructor
  · dsimp only
    exact begun
  · exact boot_agrees arrays moment _
  · intro dot same
    cases same

theorem step_follows (bits : FourBits arrays) (blank : BlankSpace arrays) {before after : World × Seen}
    {event : Event} (timed : TimedEvent event) (moves : Watched arrays before event after)
    (follows : Follows arrays before) : Follows arrays after := by
  obtain ⟨seen, ⟨served⟩⟩ := moves
  refine ⟨drawn_good _ follows.good, ?_,
    serve_settled served follows.agrees.mode follows.good follows.settled⟩
  rw [drawn_display]
  exact serve_agrees bits blank timed served follows.agrees

theorem run_follows (bits : FourBits arrays) (blank : BlankSpace arrays)
    {start state : World × Seen} (initial : Follows arrays start) {events : List Event}
    (timed : ∀ event ∈ events, TimedEvent event) (run : Run (Watched arrays) start events state) :
    Follows arrays state := by
  induction run with
  | start => exact initial
  | step _ moves ih =>
      refine step_follows bits blank (timed _ (by simp)) moves (ih fun event inside => ?_)
      exact timed event (List.mem_append_left _ inside)

/-- Right after half a second the chips show what the buffers have, with the seconds of the tick. -/
theorem run_halfSecond (bits : FourBits arrays) (blank : BlankSpace arrays)
    {start : World × Seen} (initial : Follows arrays start) {before : List Event} {last : Moment}
    (timed : ∀ event ∈ before ++ [.call (.displayTick .ms500) last], TimedEvent event)
    {world : World} {seen : Seen}
    (run : Run (Watched arrays) start (before ++ [.call (.displayTick .ms500) last]) (world, seen))
    {shown : Face} (clock : seen.showing = .clock shown) :
    shown.seconds = some last.seconds ∧ ∀ t ≠ bufferSecondary, ∀ (x : Fin 128) (y : Fin 16),
      chipPixel world.matrix.panel t (x : Nat) (y : Nat) =
        pixel (world.matrix.display.mem t) (x : Nat) (y : Nat) := by
  obtain ⟨⟨earlier, past⟩, ran, moves⟩ := run.last
  have followed := run_follows bits blank initial
    (fun event inside => timed event (List.mem_append_left _ inside)) ran
  obtain ⟨_, ⟨served⟩⟩ := moves
  obtain ⟨_, _, early, -, rfl, rfl⟩ := halfSecond_clock served followed.agrees.mode clock
  exact ⟨rfl, fun t board x y => shown_pixel (renderAll_shown early followed.good t board) x y⟩

end OClock.WatchedRuns
