import OClock.MessageFrame
import OClock.MessageRun

/-!
The calls of the display thread with all that they work on: the mode and its message, the
tickers of the animations and the tables of the backgrounds. Only the frames of the message are
told, which are the ones that draw the backgrounds.
-/

namespace OClock.DisplayPanel
open InboxRegistry DisplayInternal DrawCalls Backgrounds BackgroundTables MessageFrame MessageRun

structure Panel where
  scene : Scene
  tickers : Tickers
  tables : Tables

/-- What the constructor leaves. -/
def Panel.boot : Panel where
  scene := initDisplay ⟨.static, createInboxes, []⟩
  tickers := .zero
  tables := .initial

/-- A tick, or a post that waits. -/
inductive Call where
  | displayTick (cadence : Cadence)
  | handleTodo (displayTodo : DisplayTodo)

abbrev Called := Call × Surroundings

/-- A ticker counts its ticks before the handler of the mode is called. -/
def countTick (tickers : Tickers) : Cadence → Tickers
  | .fast => { tickers with fast := tickers.fast + 1 }
  | .ms100 => { tickers with ms100 := tickers.ms100 + 1 }
  | .ms250 => { tickers with ms250 := tickers.ms250 + 1 }
  | .ms500 => { tickers with ms500 := tickers.ms500 + 1 }
  | .sec1 => { tickers with sec1 := tickers.sec1 + 1 }
  | .sec5 => { tickers with sec5 := tickers.sec5 + 1 }
  | .sec10 => { tickers with sec10 := tickers.sec10 + 1 }
  | .sec25 | .min1 => tickers

/-- The frame that a fast tick draws of the message, with the tickers as they are then. -/
def redraw (surroundings : Surroundings) (panel : Panel) : Option (List DrawCall) :=
  messageFrame (countTick panel.tickers .fast) panel.tables surroundings.random
    panel.scene.display

def handleTables (surroundings : Surroundings) (tables : Tables) : DisplayTodo → Option Tables
  | .handleMsgModePost _ => some tables
  | .handleImgBackgroundPost postValues => handle tables (.img postValues)
  | .handleMsgBackgroundPost postValues => handle tables (.message surroundings postValues)

/-- What a tick draws of the message. -/
def drawnAt (cadence : Cadence) (surroundings : Surroundings) (panel : Panel) :
    Option (List DrawCall) :=
  if cadence = .fast ∧ getDisplayMode panel.scene.display = .message then
    redraw surroundings panel
  else some []

def Panel.ticked (panel : Panel) (cadence : Cadence) (surroundings : Surroundings) : Panel :=
  { panel with
    tickers := countTick panel.tickers cadence
    scene := tickOf (cadence, surroundings) panel.scene }

/-- What a call draws, and what it leaves. -/
def serve (panel : Panel) (called : Called) : Option (List DrawCall × Panel) :=
  match called.1 with
  | .displayTick cadence =>
      (drawnAt cadence called.2 panel).map fun drawn => (drawn, panel.ticked cadence called.2)
  | .handleTodo displayTodo =>
      (handleTables called.2 panel.tables displayTodo).map fun tables =>
        ([], { panel with
          scene := handleTodo called.2 panel.scene displayTodo
          tables := tables })

/-- The panel after calls, with what each of them drew. -/
def runFrom (panel : Panel) : List Called → Option (List (List DrawCall) × Panel)
  | [] => some ([], panel)
  | called :: rest => do
      let served ← serve panel called
      let ran ← runFrom served.2 rest
      return (served.1 :: ran.1, ran.2)

/-! ### Runs always go on -/

theorem serve_some {panel : Panel} (wellFormed : WellFormed panel.tables) (called : Called) :
    ∃ drawn after, serve panel called = some (drawn, after) ∧ WellFormed after.tables := by
  obtain ⟨call, surroundings⟩ := called
  cases call with
  | displayTick cadence =>
      have drawn : ∃ calls, drawnAt cadence surroundings panel = some calls := by
        unfold drawnAt
        split
        · exact messageFrame_some _ wellFormed _ _
        · exact ⟨[], rfl⟩
      obtain ⟨calls, drawn⟩ := drawn
      refine ⟨calls, panel.ticked cadence surroundings, ?_, wellFormed⟩
      unfold serve
      dsimp only
      rw [drawn]
      rfl
  | handleTodo displayTodo =>
      have handled : ∃ tables, handleTables surroundings panel.tables displayTodo = some tables ∧
          WellFormed tables := by
        cases displayTodo with
        | handleMsgModePost postValues => exact ⟨_, rfl, wellFormed⟩
        | handleImgBackgroundPost postValues =>
            obtain ⟨after, handled, kept⟩ := handle_some wellFormed (.img postValues)
            exact ⟨after, handled, kept⟩
        | handleMsgBackgroundPost postValues =>
            obtain ⟨after, handled, kept⟩ :=
              handle_some wellFormed (.message surroundings postValues)
            exact ⟨after, handled, kept⟩
      obtain ⟨tables, handled, kept⟩ := handled
      unfold serve
      dsimp only
      rw [handled]
      exact ⟨_, _, rfl, kept⟩

theorem runFrom_some (calls : List Called) {panel : Panel} (wellFormed : WellFormed panel.tables) :
    ∃ drawn after, runFrom panel calls = some (drawn, after) ∧ WellFormed after.tables := by
  induction calls generalizing panel with
  | nil => exact ⟨_, _, rfl, wellFormed⟩
  | cons called rest ih =>
      obtain ⟨drawn, middle, served, kept⟩ := serve_some wellFormed called
      obtain ⟨more, after, ran, last⟩ := ih kept
      refine ⟨drawn :: more, after, ?_, last⟩
      rw [runFrom, served]
      dsimp only [Option.bind_eq_bind, Option.bind_some]
      rw [ran]
      rfl

theorem runFrom_append {first second : List Called} {panel middle after : Panel}
    {drawn more : List (List DrawCall)} (early : runFrom panel first = some (drawn, middle))
    (late : runFrom middle second = some (more, after)) :
    runFrom panel (first ++ second) = some (drawn ++ more, after) := by
  induction first generalizing panel drawn with
  | nil =>
      cases early
      exact late
  | cons called rest ih =>
      simp only [runFrom, Option.bind_eq_bind, Option.bind_eq_some_iff, Option.pure_def,
        Option.some.injEq, Prod.mk.injEq] at early
      obtain ⟨⟨here, next⟩, served, ⟨later, final⟩, ran, rfl, rfl⟩ := early
      rw [List.cons_append, runFrom, served]
      dsimp only [Option.bind_eq_bind, Option.bind_some]
      rw [ih ran]
      rfl

theorem boot_wellFormed : WellFormed Panel.boot.tables := initial_wellFormed

/-- The panel after calls since the constructor. -/
def RunsTo (calls : List Called) (panel : Panel) : Prop :=
  ∃ drawn, runFrom .boot calls = some (drawn, panel)

theorem runsTo_wellFormed {calls : List Called} {panel : Panel} (ran : RunsTo calls panel) :
    WellFormed panel.tables := by
  obtain ⟨_, ran⟩ := ran
  obtain ⟨_, _, again, wellFormed⟩ := runFrom_some calls boot_wellFormed
  obtain ⟨_, rfl⟩ := Prod.mk.inj (Option.some.inj (ran.symm.trans again))
  exact wellFormed

theorem runsTo_concat {calls : List Called} {called : Called} {after : Panel}
    (ran : RunsTo (calls ++ [called]) after) :
    ∃ panel drawn, RunsTo calls panel ∧ serve panel called = some (drawn, after) := by
  obtain ⟨_, ran⟩ := ran
  obtain ⟨frames, panel, before, wellFormed⟩ := runFrom_some calls boot_wellFormed
  obtain ⟨drawn, last, served, _⟩ := serve_some wellFormed called
  have one : runFrom panel [called] = some ([drawn], last) := by
    rw [runFrom, served]
    rfl
  obtain ⟨_, rfl⟩ := Prod.mk.inj (Option.some.inj (ran.symm.trans (runFrom_append before one)))
  exact ⟨panel, drawn, ⟨frames, before⟩, served⟩

/-- What the fast tick draws on a panel. -/
def frameOf (panel : Panel) (surroundings : Surroundings) : Option (List DrawCall) :=
  (serve panel (.displayTick .fast, surroundings)).map Prod.fst

theorem frameOf_redraw {panel : Panel} (shown : getDisplayMode panel.scene.display = .message)
    (surroundings : Surroundings) : frameOf panel surroundings = redraw surroundings panel := by
  unfold frameOf serve drawnAt
  dsimp only
  rw [if_pos ⟨rfl, shown⟩, Option.map_map]
  exact Option.map_id_fun' ▸ rfl

/-- The text of a frame stands before what the backgrounds draw. -/
theorem frame_text {panel : Panel} {surroundings : Surroundings} {frame : List DrawCall}
    (shown : getDisplayMode panel.scene.display = .message)
    (drawn : frameOf panel surroundings = some frame) :
    ∃ backgrounds, frame = .clearAll :: textCalls panel.scene.display.modeMessageDataColorEffect
      panel.scene.display.modeMessageData ++ backgrounds := by
  rw [frameOf_redraw shown] at drawn
  simp only [redraw, messageFrame, Option.bind_eq_bind, Option.bind_eq_some_iff, Option.pure_def,
    Option.some.injEq] at drawn
  obtain ⟨messages, _, images, _, rfl⟩ := drawn
  simp only [List.cons_append, List.append_assoc]
  exact ⟨_, rfl⟩

/-! ### Ticks without a post -/

def calledOf (tick : Tick) : Called := (.displayTick tick.1, tick.2)

/-- The panel after ticks. -/
def TicksTo (posted : Panel) (ticks : List Tick) (panel : Panel) : Prop :=
  ∃ frames, runFrom posted (ticks.map calledOf) = some (frames, panel)

theorem serve_tick {panel after : Panel} {tick : Tick} {drawn : List DrawCall}
    (served : serve panel (calledOf tick) = some (drawn, after)) :
    after = panel.ticked tick.1 tick.2 := by
  obtain ⟨_, _, same⟩ := Option.map_eq_some_iff.mp served
  exact (Prod.mk.inj same).2.symm

theorem ticksTo_scene {ticks : List Tick} {posted panel : Panel}
    (ran : TicksTo posted ticks panel) : panel.scene = runTicks ticks posted.scene := by
  obtain ⟨frames, ran⟩ := ran
  induction ticks generalizing posted frames with
  | nil =>
      cases ran
      rfl
  | cons tick rest ih =>
      simp only [List.map_cons, runFrom, Option.bind_eq_bind, Option.bind_eq_some_iff,
        Option.pure_def, Option.some.injEq, Prod.mk.injEq] at ran
      obtain ⟨⟨here, middle⟩, served, ⟨later, final⟩, more, _, rfl⟩ := ran
      obtain rfl := serve_tick served
      exact ih _ more

theorem ticksTo_some {posted : Panel} (wellFormed : WellFormed posted.tables) (ticks : List Tick) :
    ∃ panel, TicksTo posted ticks panel ∧ WellFormed panel.tables := by
  obtain ⟨frames, panel, ran, kept⟩ := runFrom_some (ticks.map calledOf) wellFormed
  exact ⟨panel, ⟨frames, ran⟩, kept⟩

/-! ### The counter of the colors in a run -/

theorem serve_effect {panel after : Panel} {called : Called} {drawn : List DrawCall}
    (served : serve panel called = some (drawn, after)) :
    panel.scene.display.modeMessageDataColorEffect ≤
      after.scene.display.modeMessageDataColorEffect := by
  obtain ⟨call, surroundings⟩ := called
  unfold serve at served
  cases call with
  | displayTick cadence =>
      obtain ⟨_, _, same⟩ := Option.map_eq_some_iff.mp served
      rw [← (Prod.mk.inj same).2]
      exact tickOf_effect (cadence, surroundings) panel.scene
  | handleTodo displayTodo =>
      obtain ⟨_, _, same⟩ := Option.map_eq_some_iff.mp served
      rw [← (Prod.mk.inj same).2]
      cases displayTodo with
      | handleMsgModePost postValues =>
          exact Int.le_add_one (Int.le_refl _)
      | handleImgBackgroundPost postValues => exact Int.le_refl _
      | handleMsgBackgroundPost postValues => exact Int.le_refl _

theorem runFrom_effect (calls : List Called) {panel after : Panel} {drawn : List (List DrawCall)}
    (ran : runFrom panel calls = some (drawn, after)) :
    panel.scene.display.modeMessageDataColorEffect ≤
      after.scene.display.modeMessageDataColorEffect := by
  induction calls generalizing panel drawn with
  | nil =>
      cases ran
      exact Int.le_refl _
  | cons called rest ih =>
      simp only [runFrom, Option.bind_eq_bind, Option.bind_eq_some_iff, Option.pure_def,
        Option.some.injEq, Prod.mk.injEq] at ran
      obtain ⟨⟨here, middle⟩, served, ⟨later, final⟩, more, _, rfl⟩ := ran
      exact Int.le_trans (serve_effect served) (ih more)

theorem boot_effect : Panel.boot.scene.display.modeMessageDataColorEffect = 1 := rfl

end OClock.DisplayPanel
