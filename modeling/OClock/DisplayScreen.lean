import OClock.ClockFace
import OClock.DisplayPanel
import OClock.MatrixRun

/-!
The display thread with the matrix it draws on: every call that a tick or a POST makes of the
driver, in all modes, in the order of the source. The dictionary changes between the calls.
-/

namespace OClock.DisplayScreen
open DictionaryStore DisplayInternal DisplayPanel DrawCalls ClockFace LabelledRun
open ClockAnimations (Animations)

/-- What a call of the display is told from outside: the two readings of the clock are those of
`modeBasicClockShowSeconds` and of `modeBasicClockSlow`, and the motion is what
`updateMotionDetectedPixel` sees. -/
structure Moment where
  surroundings : Surroundings
  seconds : Tm
  slow : Tm
  currMotionDetected : Bool

structure Screen where
  panel : Panel
  animations : Animations
  saver : Saver
  checkCount : Nat
  dictionary : Dictionary

/-- What is drawn at an assignment of the mode, which `changeDisplayMode` alone makes, and at
one of the brightness. -/
def drawChange (moment : Moment) (dictionary : Dictionary) :
    Change → List MatrixCall × Dictionary
  | .entered .basicClock =>
      let init := modeBasicClockSlow moment.slow dictionary
      ([.clearAll, .renderAll] ++ init.1, init.2)
  | .entered .nothing | .entered .message => ([.clearAll, .renderAll], dictionary)
  | .dimmed roomIsDark => ([.setBrightness (if roomIsDark then 1 else 16)], dictionary)

def drawChanges (moment : Moment) : List Change → Dictionary → List MatrixCall × Dictionary
  | [], dictionary => ([], dictionary)
  | change :: rest, dictionary =>
      let drawn := drawChange moment dictionary change
      let later := drawChanges moment rest drawn.2
      (drawn.1 ++ later.1, later.2)

/-- The assignments that a call has made. -/
def newChanges (before after : Scene) : List Change := after.changes.drop before.changes.length

/-- The clock is left when nothing has moved for a while. -/
def leavesClock (surroundings : Surroundings) : Bool :=
  !surroundings.motionInfo.currMotionDetected &&
    (decide (surroundings.motionInfo.lastChangedMin > 15) ||
      decide (surroundings.motionInfo.lastChangedHour > 0))

/-- What the handler of a tick draws before it changes the mode, if it does. -/
def handlerCalls (cadence : Cadence) (moment : Moment) (screen : Screen) :
    Option (List MatrixCall × Screen) :=
  match cadence, getDisplayMode screen.panel.scene.display with
  | .fast, .message =>
      (redraw moment.surroundings screen.panel).map fun frame => (frame.map ofDrawCall, screen)
  | .ms250, .basicClock =>
      let called := ClockAnimations.modeBasicClockSDoUpDownAnimation screen.animations
        screen.dictionary
      some (animationCalls called.1,
        { screen with animations := called.2.1, dictionary := called.2.2 })
  | .ms500, .basicClock =>
      if leavesClock moment.surroundings then some ([], screen)
      else
        let shown := modeBasicClockShowSeconds moment.seconds moment.slow screen.dictionary
        some (shown.1 ++ updateMotionDetectedPixel moment.currMotionDetected,
          { screen with dictionary := shown.2 })
  | .sec10, .basicClock =>
      let shown := modeBasicClockSlow moment.slow screen.dictionary
      some (shown.1, { screen with dictionary := shown.2 })
  | .sec1, .nothing =>
      if moment.surroundings.motionInfo.currMotionDetected then some ([], screen)
      else some (saverCalls screen.saver, { screen with saver := screen.saver.next })
  | _, _ => some ([], screen)

def checkCountMax : Nat := 13

/-- The chips are set up again now and then, and always while a message is shown. -/
def checkHT1632 (screen : Screen) : List MatrixCall × Screen :=
  let checkCount := screen.checkCount + 1
  if checkCount < checkCountMax ∧ getDisplayMode screen.panel.scene.display ≠ .message then
    ([], { screen with checkCount := checkCount })
  else ([.reinit], { screen with checkCount := 0 })

/-- A call of the display on the state that it leaves, with what it draws of the changes. -/
def settle (moment : Moment) (drawn : List MatrixCall) (screen : Screen) (panel : Panel) :
    List MatrixCall × Screen :=
  let changed := drawChanges moment (newChanges screen.panel.scene panel.scene) screen.dictionary
  (drawn ++ changed.1, { screen with panel := panel, dictionary := changed.2 })

/-- Two times a second the chips are checked first. -/
def check (cadence : Cadence) (screen : Screen) : List MatrixCall × Screen :=
  if cadence = .ms500 then checkHT1632 screen else ([], screen)

def tick (cadence : Cadence) (moment : Moment) (screen : Screen) :
    Option (List MatrixCall × Screen) :=
  let checked := check cadence screen
  (handlerCalls cadence moment checked.2).map fun handled =>
    settle moment (checked.1 ++ handled.1) handled.2
      (handled.2.panel.ticked cadence moment.surroundings)

/-- A tick, a POST that is handled, or something done to the dictionary by another thread. -/
inductive Event where
  | call (call : DisplayPanel.Call) (moment : Moment)
  | dictionary (op : DictionaryRun.Op)

def serve (screen : Screen) : Event → Option (List MatrixCall × Screen)
  | .call (.displayTick cadence) moment => tick cadence moment screen
  | .call (.handleTodo displayTodo) moment =>
      (handleTables moment.surroundings screen.panel.tables displayTodo).map fun tables =>
        settle moment [] screen { screen.panel with
          scene := handleTodo moment.surroundings screen.panel.scene displayTodo
          tables := tables }
  | .dictionary op =>
      some ([], { screen with dictionary := (DictionaryRun.step screen.dictionary op).2 })

/-- Before the constructor. -/
def Screen.static : Screen where
  panel := ⟨⟨.static, InboxRegistry.createInboxes, []⟩, .zero, .initial⟩
  animations := .initial
  saver := .initial
  checkCount := 0
  dictionary := .new

/-- The constructor, which enters the first message. -/
def boot (moment : Moment) : List MatrixCall × Screen :=
  settle moment [] .static .boot

/-! ### Runs -/

structure World where
  screen : Screen
  matrix : MatrixPanel.World

/-- The driver makes the calls, and the chips follow. -/
def drawn (arrays : Fonts.FontArrays) (calls : List MatrixCall) (matrix : MatrixPanel.World) :
    MatrixPanel.World :=
  MatrixPanel.after (Ht1632.performAll (calls.map (MatrixCall.op arrays))) matrix

/-- What the chips and the buffers held before `begin` may be anything. -/
def World.start (arrays : Fonts.FontArrays) (memory : Fin 3 → Ht1632.Cells)
    (panel : MatrixPanel.Panel) (moment : Moment) : World where
  screen := (boot moment).2
  matrix := drawn arrays (boot moment).1
    (MatrixPanel.after Ht1632.beginDisplay ⟨Ht1632.Display.new memory, panel⟩)

inductive Step (arrays : Fonts.FontArrays) : World → Event → World → Prop where
  | event {world : World} {event : Event} {calls : List MatrixCall} {screen : Screen}
      (served : serve world.screen event = some (calls, screen)) :
      Step arrays world event ⟨screen, drawn arrays calls world.matrix⟩

end OClock.DisplayScreen
