import OClock.DisplayScreen
import OClock.SaverDot

/-!
What stands on the display, followed through its runs: the message, the walking pixel of the
empty mode, or the clock with its face. The buffers show it, whatever the order of the ticks.
-/

namespace OClock.Watching
open Ht1632 (Cells)
open MatrixPixels DrawCalls ClockFace FrameBuffers TextPixels FacePicture FaceUpdates SaverDot
open DisplayInternal DisplayChanges DisplayPanel DisplayScreen DictionaryStore

inductive Showing where
  | message
  | nothing (dot : Option Saver)
  | clock (face : Face)

def Showing.mode : Showing → DisplayMode
  | .message => .message
  | .nothing _ => .nothing
  | .clock _ => .basicClock

/-- With all pixels of the empty mode so far. -/
structure Seen where
  showing : Showing
  dots : List Saver

/-! ### What the events make of it -/

/-- The seconds are drawn on the face of the last refresh, or of one that they ask for. -/
def secondsFace (moment : Moment) (dictionary : Dictionary) (face : Face) : Face :=
  { (if moment.seconds.tmSec = 0 then refreshedFace moment.slow dictionary else face) with
    seconds := some moment.seconds
    motion := some moment.currMotionDetected }

/-- What the handler of a tick puts there. -/
def Seen.ticked (cadence : Cadence) (moment : Moment) (screen : Screen) (seen : Seen) : Seen :=
  match cadence, seen.showing with
  | .ms250, .clock face =>
      let called := ClockAnimations.modeBasicClockSDoUpDownAnimation screen.animations
        screen.dictionary
      { seen with showing := .clock (animatedFace called.1 face) }
  | .ms500, .clock face =>
      if leavesClock moment.surroundings then seen
      else { seen with showing := .clock (secondsFace moment screen.dictionary face) }
  | .sec10, .clock _ =>
      { seen with showing := .clock (refreshedFace moment.slow screen.dictionary) }
  | .sec1, .nothing _ =>
      if moment.surroundings.motionInfo.currMotionDetected then seen
      else ⟨.nothing (some screen.saver), seen.dots ++ [screen.saver]⟩
  | _, _ => seen

/-- A mode that is entered starts with a dark panel. -/
def entered (moment : Moment) (dictionary : Dictionary) (showing : Showing) : Change → Showing
  | .entered .message => .message
  | .entered .nothing => .nothing none
  | .entered .basicClock => .clock (refreshedFace moment.slow dictionary)
  | .dimmed _ => showing

def enteredAll (moment : Moment) : List Change → Dictionary → Showing → Showing
  | [], _, showing => showing
  | change :: rest, dictionary, showing =>
      enteredAll moment rest (drawChange moment dictionary change).2
        (entered moment dictionary showing change)

/-- The dictionary that the handler of a tick leaves. -/
def handlerDictionary (cadence : Cadence) (moment : Moment) (screen : Screen) : Dictionary :=
  ((handlerCalls cadence moment screen).map fun handled => handled.2.dictionary).getD
    screen.dictionary

/-- Somebody who looks at the display while it serves an event. -/
def watch (before : Screen) (event : Event) (after : Screen) (seen : Seen) : Seen :=
  let changes := newChanges before.panel.scene after.panel.scene
  match event with
  | .call (.displayTick cadence) moment =>
      let checked := (check cadence before).2
      let ticked := seen.ticked cadence moment checked
      { ticked with
        showing := enteredAll moment changes (handlerDictionary cadence moment checked)
          ticked.showing }
  | .call (.handleTodo _) moment =>
      { seen with showing := enteredAll moment changes before.dictionary seen.showing }
  | .dictionary _ => seen

inductive Watched (arrays : Fonts.FontArrays) : World × Seen → Event → World × Seen → Prop where
  | step {before after : World} {event : Event} (seen : Seen)
      (moves : Step arrays before event after) :
      Watched arrays (before, seen) event
        (after, watch before.screen event after.screen seen)

/-- The first message stands there after the constructor. -/
def Watched.start (arrays : Fonts.FontArrays) (memory : Fin 3 → Cells)
    (panel : MatrixPanel.Panel) (moment : Moment) : World × Seen :=
  (.start arrays memory panel moment, ⟨.message, []⟩)

/-! ### Agreement -/

def Showing.On (arrays : Fonts.FontArrays) (display : Ht1632.Display) : Showing → Prop
  | .message => True
  | .nothing dot => ∀ point, Lit display point ↔ ∃ saver ∈ dot, Lights saver point
  | .clock face => face.Sound ∧ face.parts.On arrays display

structure Agrees (arrays : Fonts.FontArrays) (screen : Screen) (seen : Seen)
    (display : Ht1632.Display) : Prop where
  mode : getDisplayMode screen.panel.scene.display = seen.showing.mode
  turn : InTurn screen.animations
  saver : screen.saver = dotAt seen.dots.length
  dots : seen.dots = (List.range seen.dots.length).map dotAt
  last : ∀ saver, seen.showing = .nothing (some saver) →
    ∃ n, seen.dots.length = n + 1 ∧ saver = dotAt n
  on : seen.showing.On arrays display

/-- What `localtime_r` gives, in both readings. -/
structure Timed (moment : Moment) : Prop where
  seconds : moment.seconds.Valid
  slow : moment.slow.Valid

def TimedEvent : Event → Prop
  | .call _ moment => Timed moment
  | .dictionary _ => True

variable {arrays : Fonts.FontArrays} {display : Ht1632.Display} {screen : Screen} {seen : Seen}
  {showing : Showing} {moment : Moment}

theorem Showing.On.quiet (on : showing.On arrays display) {call : MatrixCall}
    (quiet : Quiet call) : showing.On arrays (stroke arrays display call) := by
  cases showing with
  | message => trivial
  | nothing dot =>
      intro point
      rw [Lit, quiet_mem arrays quiet]
      exact on point
  | clock face => exact ⟨on.1, on.2.quiet quiet⟩

theorem refreshedFace_sound (timeInfo : Tm) (dictionary : Dictionary) :
    (refreshedFace timeInfo dictionary).Sound where
  seconds _ inside := by cases inside
  temperatureArrow _ inside := by cases inside
  humidityArrow _ inside := by cases inside
  car _ inside := by cases inside

theorem refreshed_on (bits : FourBits arrays) {timeInfo : Tm} (valid : timeInfo.Valid)
    (dictionary : Dictionary) {before : Parts} (on : before.On arrays display) :
    Showing.On arrays (strokes arrays display (modeBasicClockSlow timeInfo dictionary).1)
      (.clock (refreshedFace timeInfo dictionary)) :=
  ⟨refreshedFace_sound timeInfo dictionary, slow_shows bits valid dictionary on⟩

/-- Wiped, and told to the chips. -/
theorem wiped_on (arrays : Fonts.FontArrays) (display : Ht1632.Display) :
    Parts.On (fun _ => none) arrays (strokes arrays display [.clearAll, .renderAll]) := by
  have quiet : Quiet .renderAll := trivial
  rw [strokes_cons, strokes_cons, strokes_nil]
  exact (clearAll_on arrays display).quiet quiet

theorem entered_on (bits : FourBits arrays) (timed : Timed moment) (dictionary : Dictionary)
    (on : showing.On arrays display) (change : Change) :
    (entered moment dictionary showing change).On arrays
      (strokes arrays display (drawChange moment dictionary change).1) := by
  have wiped := wiped_on arrays display
  cases change with
  | entered displayMode =>
      cases displayMode with
      | message => trivial
      | nothing =>
          intro point
          constructor
          · intro lit
            obtain ⟨slot, -, call, none, -⟩ := (wiped.lit point).mp lit
            cases none
          · rintro ⟨saver, none, -⟩
            cases none
      | basicClock =>
          have refreshed := refreshed_on bits timed.slow dictionary wiped
          rwa [← strokes_append] at refreshed
  | dimmed roomIsDark =>
      have quiet : Quiet (.setBrightness (if roomIsDark then 1 else 16)) := trivial
      rw [drawChange, strokes_cons, strokes_nil]
      exact on.quiet quiet

theorem enteredAll_on (bits : FourBits arrays) (timed : Timed moment)
    (changes : List Change) (dictionary : Dictionary) (on : showing.On arrays display) :
    (enteredAll moment changes dictionary showing).On arrays
      (strokes arrays display (drawChanges moment changes dictionary).1) := by
  induction changes generalizing dictionary display showing with
  | nil => exact on
  | cons change rest ih =>
      rw [drawChanges, strokes_append]
      exact ih _ (entered_on bits timed dictionary on change)

/-- The last mode that was entered is the one that is shown. -/
theorem enteredAll_mode (moment : Moment) (changes : List Change) (dictionary : Dictionary)
    (showing : Showing) :
    (enteredAll moment changes dictionary showing).mode = latest modeOf changes showing.mode := by
  induction changes generalizing dictionary showing with
  | nil => rfl
  | cons change rest ih =>
      have first : (entered moment dictionary showing change).mode =
          latest modeOf [change] showing.mode := by
        cases change with
        | entered displayMode => cases displayMode <;> rfl
        | dimmed roomIsDark => rfl
      rw [enteredAll, ih, first, ← latest_append, List.singleton_append]

/-- A pixel that is there has been there before. -/
theorem enteredAll_dot (moment : Moment) (changes : List Change) (dictionary : Dictionary)
    {saver : Saver} (there : enteredAll moment changes dictionary showing = .nothing (some saver)) :
    showing = .nothing (some saver) := by
  induction changes generalizing dictionary showing with
  | nil => exact there
  | cons change rest ih =>
      have first := ih _ there
      cases change with
      | entered displayMode => cases displayMode <;> cases first
      | dimmed roomIsDark => exact first

theorem newChanges_mode {before after : Scene} (tells : Tells before after) :
    getDisplayMode after.display =
      latest modeOf (newChanges before after) (getDisplayMode before.display) := by
  obtain ⟨changes, log, -, mode, -⟩ := tells
  rw [newChanges, log, List.drop_left]
  exact mode

theorem tickOf_tells (cadence : Cadence) (surroundings : Surroundings) (scene : Scene) :
    Tells scene (MessageRun.tickOf (cadence, surroundings) scene) := by
  cases cadence with
  | sec1 => exact (displayTick_tells .sec1 surroundings scene).trans (updateDim_tells surroundings _)
  | _ => exact displayTick_tells _ surroundings scene

/-- What a call draws of its changes, behind what its handler has drawn. -/
theorem settle_agrees (bits : FourBits arrays) (timed : Timed moment)
    {calls : List MatrixCall} (panel : Panel) {dictionary : Dictionary}
    (same : screen.dictionary = dictionary)
    (tells : Tells screen.panel.scene panel.scene)
    (agrees : Agrees arrays screen seen (strokes arrays display calls)) :
    Agrees arrays (settle moment calls screen panel).2
      { seen with
        showing := enteredAll moment (newChanges screen.panel.scene panel.scene) dictionary
          seen.showing }
      (strokes arrays display (settle moment calls screen panel).1) := by
  subst same
  refine { agrees with mode := ?_, last := ?_, on := ?_ }
  · rw [enteredAll_mode, ← agrees.mode]
    exact newChanges_mode tells
  · intro saver there
    exact agrees.last saver (enteredAll_dot moment _ _ there)
  · rw [settle, strokes_append]
    exact enteredAll_on bits timed _ _ agrees.on

/-! ### The handlers of the ticks -/

theorem sound_ticked {face : Face} (sound : face.Sound) (timed : Timed moment)
    (dictionary : Dictionary) : (secondsFace moment dictionary face).Sound := by
  have base : (if moment.seconds.tmSec = 0 then refreshedFace moment.slow dictionary
      else face).Sound := by
    split
    · exact refreshedFace_sound _ _
    · exact sound
  exact { base with
    seconds := by
      intro timeInfo same
      cases same
      exact timed.seconds }

theorem seconds_on (bits : FourBits arrays) (blank : BlankSpace arrays)
    (timed : Timed moment) (dictionary : Dictionary) {face : Face}
    (on : Showing.On arrays display (.clock face)) :
    Showing.On arrays
      (strokes arrays display ((modeBasicClockShowSeconds moment.seconds moment.slow dictionary).1 ++
        updateMotionDetectedPixel moment.currMotionDetected))
      (.clock (secondsFace moment dictionary face)) := by
  have base : Showing.On arrays
      (strokes arrays display (if moment.seconds.tmSec = 0 then
        modeBasicClockSlow moment.slow dictionary else ([], dictionary)).1)
      (.clock (if moment.seconds.tmSec = 0 then refreshedFace moment.slow dictionary
        else face)) := by
    split
    · exact refreshed_on bits timed.slow dictionary on.2
    · exact on
  have counted := seconds_shows bits blank base.1.seconds timed.seconds base.2
  have watched := motion_shows moment.currMotionDetected counted
  refine ⟨sound_ticked on.1 timed dictionary, ?_⟩
  rw [modeBasicClockShowSeconds, strokes_append, strokes_append]
  exact watched

/-- The next pixel of the empty mode. -/
theorem walked_agrees {dot : Option Saver} {past : List Saver}
    (agrees : Agrees arrays screen ⟨.nothing dot, past⟩ display) :
    Agrees arrays { screen with saver := screen.saver.next }
      ⟨.nothing (some screen.saver), past ++ [screen.saver]⟩
      (strokes arrays display (saverCalls screen.saver)) where
  mode := agrees.mode
  turn := agrees.turn
  saver := by
    dsimp only
    rw [List.length_append, agrees.saver, dotAt_next]
    rfl
  dots := by
    dsimp only
    rw [List.length_append, List.length_singleton, List.range_succ, List.map_append, ← agrees.dots,
      agrees.saver]
    rfl
  last := by
    intro saver same
    cases same
    exact ⟨past.length, List.length_append, agrees.saver⟩
  on := by
    rw [agrees.saver]
    intro point
    rw [saver_lights]
    constructor
    · intro here
      exact ⟨_, rfl, here⟩
    · rintro ⟨saver, same, here⟩
      cases same
      exact here

theorem no_dot {past : List Saver} (face : Face) (saver : Saver)
    (there : (⟨.clock face, past⟩ : Seen).showing = .nothing (some saver)) :
    ∃ n, past.length = n + 1 ∧ saver = dotAt n := by cases there

/-- The handler of a tick, whatever the mode is. -/
theorem handler_agrees (bits : FourBits arrays) (blank : BlankSpace arrays)
    (timed : Timed moment) {cadence : Cadence} {calls : List MatrixCall}
    {after : Screen} (handled : handlerCalls cadence moment screen = some (calls, after))
    (agrees : Agrees arrays screen seen display) :
    Agrees arrays after (seen.ticked cadence moment screen) (strokes arrays display calls) := by
  have agreed := agrees
  obtain ⟨mode, turn, -, -, -, on⟩ := agrees
  obtain ⟨showing, past⟩ := seen
  unfold handlerCalls at handled
  rw [mode] at handled
  cases showing with
  | message =>
      cases cadence
      case fast =>
        obtain ⟨frame, -, same⟩ := Option.map_eq_some_iff.mp handled
        cases same
        exact { agreed with on := trivial }
      all_goals
        cases handled
        exact agreed
  | nothing dot =>
      cases cadence
      case sec1 =>
        change (if moment.surroundings.motionInfo.currMotionDetected then some ([], screen)
          else some (saverCalls screen.saver, { screen with saver := screen.saver.next })) = _
          at handled
        unfold Seen.ticked
        dsimp only
        by_cases moving : moment.surroundings.motionInfo.currMotionDetected = true
        · rw [if_pos moving] at handled ⊢
          cases handled
          exact agreed
        · rw [if_neg moving] at handled ⊢
          cases handled
          exact walked_agrees agreed
      all_goals
        cases handled
        exact agreed
  | clock face =>
      cases cadence
      case ms250 =>
        cases handled
        obtain ⟨drawn, sound, next⟩ := animated_shows on.1 turn screen.dictionary on.2
        exact { agreed with turn := next, last := no_dot _, on := ⟨sound, drawn⟩ }
      case ms500 =>
        change (if leavesClock moment.surroundings then some ([], screen)
          else some ((modeBasicClockShowSeconds moment.seconds moment.slow screen.dictionary).1 ++
              updateMotionDetectedPixel moment.currMotionDetected,
            { screen with
              dictionary :=
                (modeBasicClockShowSeconds moment.seconds moment.slow screen.dictionary).2 })) = _
          at handled
        unfold Seen.ticked
        dsimp only
        by_cases leaves : leavesClock moment.surroundings = true
        · rw [if_pos leaves] at handled ⊢
          cases handled
          exact agreed
        · rw [if_neg leaves] at handled ⊢
          cases handled
          exact { agreed with
            last := no_dot _
            on := seconds_on bits blank timed screen.dictionary on }
      case sec10 =>
        cases handled
        exact { agreed with
          last := no_dot _
          on := refreshed_on bits timed.slow screen.dictionary on.2 }
      all_goals
        cases handled
        exact agreed

/-! ### Events -/

theorem check_agrees (cadence : Cadence) (agrees : Agrees arrays screen seen display) :
    Agrees arrays (check cadence screen).2 seen
      (strokes arrays display (check cadence screen).1) := by
  unfold check
  split
  · unfold checkHT1632
    dsimp only
    split
    · exact { agrees with }
    · have quiet : Quiet .reinit := trivial
      refine { agrees with on := ?_ }
      rw [strokes_cons, strokes_nil]
      exact agrees.on.quiet quiet
  · exact agrees

theorem check_panel (cadence : Cadence) (screen : Screen) :
    (check cadence screen).2.panel = screen.panel := by
  unfold check
  split
  · unfold checkHT1632
    dsimp only
    split <;> rfl
  · rfl

theorem handler_panel {cadence : Cadence} {calls : List MatrixCall} {after : Screen}
    (handled : handlerCalls cadence moment screen = some (calls, after)) :
    after.panel = screen.panel := by
  unfold handlerCalls at handled
  split at handled
  · obtain ⟨frame, -, same⟩ := Option.map_eq_some_iff.mp handled
    cases same
    rfl
  · cases handled
    rfl
  · split at handled <;> cases handled <;> rfl
  · cases handled
    rfl
  · split at handled <;> cases handled <;> rfl
  · cases handled
    rfl

/-- A tick is the check, the handler and what the changes ask for. -/
theorem tick_parts {cadence : Cadence} {calls : List MatrixCall} {after : Screen}
    (ticks : tick cadence moment screen = some (calls, after)) :
    ∃ handled next, handlerCalls cadence moment (check cadence screen).2 = some (handled, next) ∧
      next.panel = screen.panel ∧
      handlerDictionary cadence moment (check cadence screen).2 = next.dictionary ∧
      settle moment ((check cadence screen).1 ++ handled) next
        (screen.panel.ticked cadence moment.surroundings) = (calls, after) := by
  obtain ⟨⟨handled, next⟩, served, done⟩ := Option.map_eq_some_iff.mp ticks
  have panel : next.panel = screen.panel := (handler_panel served).trans (check_panel _ _)
  refine ⟨handled, next, served, panel, ?_, ?_⟩
  · rw [handlerDictionary, served]
    rfl
  · rw [← panel]
    exact done

theorem tick_agrees (bits : FourBits arrays) (blank : BlankSpace arrays)
    (timed : Timed moment) {cadence : Cadence} {calls : List MatrixCall}
    {after : Screen} (ticks : tick cadence moment screen = some (calls, after))
    (agrees : Agrees arrays screen seen display) :
    Agrees arrays after (watch screen (.call (.displayTick cadence) moment) after seen)
      (strokes arrays display calls) := by
  obtain ⟨handled, next, served, panel, dictionary, done⟩ := tick_parts ticks
  have handler := handler_agrees bits blank timed served (check_agrees cadence agrees)
  rw [← strokes_append] at handler
  have settled := settle_agrees bits timed (screen.panel.ticked cadence moment.surroundings)
    dictionary.symm (panel ▸ tickOf_tells cadence moment.surroundings screen.panel.scene) handler
  rw [done, panel] at settled
  cases done
  exact settled

theorem serve_agrees (bits : FourBits arrays) (blank : BlankSpace arrays) {event : Event}
    (timed : TimedEvent event) {calls : List MatrixCall} {after : Screen}
    (served : serve screen event = some (calls, after))
    (agrees : Agrees arrays screen seen display) :
    Agrees arrays after (watch screen event after seen) (strokes arrays display calls) := by
  cases event with
  | call call moment =>
      cases call with
      | displayTick cadence => exact tick_agrees bits blank timed served agrees
      | handleTodo displayTodo =>
          obtain ⟨tables, -, done⟩ := Option.map_eq_some_iff.mp served
          cases done
          have tells := handleTodo_tells moment.surroundings screen.panel.scene displayTodo
          have behind : Agrees arrays screen seen (strokes arrays display []) := agrees
          exact settle_agrees bits timed ⟨_, screen.panel.tickers, tables⟩ rfl tells behind
  | dictionary op =>
      cases served
      exact { agrees with }

end OClock.Watching
