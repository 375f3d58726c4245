import OClock.BackgroundRange
import OClock.MessageColumns

/-!
The message mode overflows no `int` exactly where its coordinates and its counters leave room for
the next step. A post may ask for coordinates that leave none.
-/

namespace OClock.MessageOverflow
open Text CommonUtils Fonts DisplayInternal DrawCalls Backgrounds BackgroundTables MessagePost
open MessageRun DisplayPanel ExactSums MessageSums MessageRange BackgroundRange

/-- The room that a fast tick needs. -/
structure Room (tickers : Tickers) (tables : Tables) (display : Display) : Prop where
  start : display.modeMessageData.blinkBlankInEffect = false → Starts display.modeMessageData
  column : display.modeMessageData.incrementX = true → display.modeMessageData.currX < intMax
  row : ¬ Ends display.modeMessageData → 0 < display.modeMessageData.incrementY →
    display.modeMessageData.currYFactor ≤ intMax - incrementYValue
  repeats : Wraps display.modeMessageData → display.modeMessageData.repeats ≠ intMin
  colors : Wraps display.modeMessageData ∨
      display.modeMessageData.incrementX = false ∧ TurnsDown display.modeMessageData →
    display.modeMessageDataColorEffect < intMax
  images : ∀ slot : Fin backgroundImgCount,
    Drawn tickers (tables.backgroundImg.get slot).toBackground →
      ImgInside (tables.backgroundImg.get slot)
  texts : ∀ slot : Fin backgroundMessageCount,
    Drawn tickers (tables.backgroundMessage.get slot).toBackground →
      MessageInside (tables.backgroundMessage.get slot)

variable {arrays : FontArrays} {tickers : Tickers} {tables : Tables} {display : Display}

/-- After the scrolling, the bouncing finds what the tick has found. -/
theorem scrolled_bounce_iff (measured : Measured display.modeMessageData)
    (counted : 0 ≤ display.modeMessageDataColorEffect)
    (room : display.modeMessageData.incrementX = true → display.modeMessageData.currX < intMax)
    (left : Wraps display.modeMessageData → display.modeMessageData.repeats ≠ intMin) :
    Exact (bounceSums (scroll display).2) ↔
      (0 < display.modeMessageData.incrementY →
        display.modeMessageData.currYFactor ≤ intMax - incrementYValue) ∧
      (display.modeMessageData.incrementX = false → TurnsDown display.modeMessageData →
        display.modeMessageDataColorEffect < intMax) := by
  have scrolled := scroll_measured measured room left
  cases scrolling : display.modeMessageData.incrementX with
  | false =>
      rw [scroll_still scrolling] at scrolled ⊢
      rw [bounce_exact_iff measured.toBounded counted, scrolling]
  | true =>
      have kept := scroll_keeps (fun data => (data.incrementX, data.incrementY, data.currYFactor))
        (fun _ _ _ _ _ => rfl) display
      simp only [Prod.mk.injEq] at kept
      obtain ⟨incrementX, incrementY, currYFactor⟩ := kept
      rw [bounce_exact_iff scrolled.toBounded (Int.le_trans counted (scroll_effect display)),
        incrementX, incrementY, currYFactor, scrolling]
      refine and_congr_right fun _ => iff_of_true ?_ ?_
      · exact fun never => absurd never.symm Bool.false_ne_true
      · exact fun never => absurd never.symm Bool.false_ne_true

/-- A fast tick of the message is exact when it has room. -/
theorem fast_exact_iff (measured : Measured display.modeMessageData)
    (counted : 0 ≤ display.modeMessageDataColorEffect) (wellFormed : WellFormed tables)
    (inPlace : InPlace tables) (random : Random) :
    Exact (fastSums arrays tickers tables random display) ↔ Room tickers tables display := by
  have background : Exact ((backgroundCalls tickers tables).flatMap (callSums arrays)) ↔
      (∀ slot : Fin backgroundMessageCount,
        Drawn tickers (tables.backgroundMessage.get slot).toBackground →
          MessageInside (tables.backgroundMessage.get slot)) ∧
      ∀ slot : Fin backgroundImgCount,
        Drawn tickers (tables.backgroundImg.get slot).toBackground →
          ImgInside (tables.backgroundImg.get slot) := by
    unfold backgroundCalls
    rw [List.flatMap_append, exact_append, messages_exact_iff wellFormed.texts inPlace.texts,
      images_exact_iff inPlace.images]
  have kept := scroll_keeps ModeMessageData.completedCallback (fun _ _ _ _ _ => rfl) display
  have ended : ((scroll display).1 &&
      (scroll display).2.modeMessageData.completedCallback.isSome) = true ↔
        Ends display.modeMessageData := by
    rw [kept, measured.callback, Bool.and_true]
    exact scroll_ends display
  unfold fastSums
  dsimp only
  rw [exact_append, exact_append, exact_append, exact_append,
    textLoop_exact_iff measured.toBounded, background, scroll_exact_iff measured counted,
    and_iff_left (confetti_exact random measured.confetti)]
  constructor
  · rintro ⟨⟨⟨start, texts, images⟩, column, wraps⟩, bounced⟩
    -- The bounce is left out when this tick ends the message.
    have bounces := fun later : ¬ Ends display.modeMessageData =>
      (scrolled_bounce_iff measured counted column fun wrapped => (wraps wrapped).2).mp
        (by rwa [if_neg (mt ended.mp later)] at bounced)
    refine ⟨start, column, fun later => (bounces later).1, fun wrapped => (wraps wrapped).2, ?_,
      images, texts⟩
    rintro (wrapped | ⟨still, down⟩)
    · exact (wraps wrapped).1
    · have later : ¬ Ends display.modeMessageData := fun finished =>
        absurd (still.symm.trans finished.1.1) Bool.false_ne_true
      exact (bounces later).2 still down
  · intro room
    refine ⟨⟨⟨room.start, room.texts, room.images⟩, room.column,
      fun wrapped => ⟨room.colors (Or.inl wrapped), room.repeats wrapped⟩⟩, ?_⟩
    split
    · exact exact_nil
    · next later =>
      exact (scrolled_bounce_iff measured counted room.column room.repeats).mpr
        ⟨room.row (mt ended.mpr later), fun still down => room.colors (Or.inr ⟨still, down⟩)⟩

/-! ### What a tick keeps -/

/-- What holds of every panel that is reached without an overflow. -/
structure InRange (panel : Panel) : Prop where
  measured : Measured panel.scene.display.modeMessageData
  counted : 0 ≤ panel.scene.display.modeMessageDataColorEffect
  wellFormed : WellFormed panel.tables
  inPlace : InPlace panel.tables

/-- A fast tick finds room where it draws the message. -/
def HasRoom (panel : Panel) (tick : Tick) : Prop :=
  tick.1 = .fast → getDisplayMode panel.scene.display = .message →
    Room (countTick panel.tickers .fast) panel.tables panel.scene.display

variable {panel : Panel} {tick : Tick}

theorem tick_exact_iff (inRange : InRange panel) :
    Exact (tickSums arrays panel tick) ↔ HasRoom panel tick := by
  unfold tickSums HasRoom
  split
  · next shown =>
    rw [forall_prop_of_true shown.1, forall_prop_of_true shown.2]
    exact fast_exact_iff inRange.measured inRange.counted inRange.wellFormed inRange.inPlace _
  · next other => exact iff_of_true exact_nil fun fast mode => absurd ⟨fast, mode⟩ other

theorem fast_measured {scene : Scene} (measured : Measured scene.display.modeMessageData)
    (room : Room tickers tables scene.display) :
    Measured (modeMessageFast scene).display.modeMessageData := by
  have scrolled := scroll_measured measured room.column room.repeats
  have kept := scroll_keeps (fun data => (data.completedCallback, data.incrementY,
    data.currYFactor)) (fun _ _ _ _ _ => rfl) scene.display
  simp only [Prod.mk.injEq] at kept
  obtain ⟨callback, incrementY, currYFactor⟩ := kept
  have ends := scroll_ends scene.display
  unfold modeMessageFast
  dsimp only
  split
  · rw [callback_data]
    exact scrolled
  · next later =>
    apply bounce_measured scrolled
    rw [incrementY, currYFactor]
    refine room.row fun finished => ?_
    obtain ⟨completed, some⟩ := Option.isSome_iff_exists.mp measured.callback
    exact later completed (ends.mpr finished) (callback.trans some)

theorem tick_inRange (inRange : InRange panel) (room : HasRoom panel tick) :
    InRange (panel.ticked tick.1 tick.2) where
  counted := Int.le_trans inRange.counted (tickOf_effect tick panel.scene)
  wellFormed := inRange.wellFormed
  inPlace := inRange.inPlace
  measured := by
    change Measured (tickOf tick panel.scene).display.modeMessageData
    by_cases shown : tick.1 = .fast ∧ getDisplayMode panel.scene.display = .message
    · have handled := (tickOf_display tick panel.scene).2.1
      rw [handled, displayTick, shown.1, shown.2]
      exact fast_measured inRange.measured (room shown.1 shown.2)
    · obtain ⟨blinkBlankInEffect, timeout, same⟩ :=
        (@otherTick_counts tick panel.scene fun fast mode => shown ⟨fast, mode⟩).data
      rw [same]
      exact { inRange.measured with }

/-! ### What a post leaves -/

theorem printMsg_short (text : Bytes) : (printMsg text).length < messageMaxSize := by
  unfold printMsg
  rw [List.length_take, messageMaxSize]
  omega

/-- A message that is filled in is not on its way up yet. -/
structure Filled (data : ModeMessageData) : Prop extends Bounded data where
  down : 0 ≤ data.incrementY

theorem setField_filled {data : ModeMessageData} (filled : Filled data) {reading : Reading}
    (number : IsInt reading.number) (scaled : IsInt reading.scaled) (field : Field) :
    Filled (setField reading data field) := by
  cases field with
  | x => exact { filled with currX := number }
  | y =>
      have swings : Swings data.incrementY reading.scaled := by
        have down := filled.down
        have swings := filled.incrementY
        have step : incrementYValue = 800 := rfl
        unfold Swings at swings ⊢
        omega
      exact { filled with currYFactor := scaled, incrementY := swings }
  | confetti => exact { filled with confetti := number.2 }
  | repeats => exact { filled with repeats := number }
  | bounce =>
      have bounces : ∀ truth : Bool, Swings (if truth then incrementYValue else 0)
          data.currYFactor ∧ 0 ≤ if truth then incrementYValue else 0 := by
        intro truth
        cases truth with
        | true => exact ⟨Or.inr (Or.inl rfl), by decide⟩
        | false => exact ⟨Or.inl rfl, by decide⟩
      obtain ⟨swings, down⟩ := bounces reading.truth
      exact { filled with incrementY := swings, down := down }
  | msg | font | alternateFont | noScroll | blink | color | timeout => exact { filled with }

theorem postMsg_filled {data : ModeMessageData} (filled : Filled data)
    (surroundings : Surroundings) (value : Bytes) (random : Random) :
    Filled (postMsg surroundings value data random).1 := by
  have printed : ∀ text, Filled { data with msg := printMsg text } := fun text =>
    { filled with length := printMsg_short text }
  have numbered : ∀ modeMsgsIndex, Filled { data with modeMsgsIndex := modeMsgsIndex } :=
    fun _ => { filled with }
  unfold postMsg
  dsimp only
  split
  · split
    · exact numbered _
    · exact numbered _
  · split
    · exact printed _
    · exact printed _

theorem readingOf_range (value : Bytes) :
    IsInt (readingOf value).number ∧ IsInt (readingOf value).scaled := by
  have number := int32_isInt (strtoul value)
  have scaled := int32_isInt (strtoul value * incrementYScale)
  unfold readingOf
  dsimp only
  exact ⟨number, scaled⟩

theorem postPair_filled {before : ModeMessageData × Random} (filled : Filled before.1)
    (surroundings : Surroundings) (kvp : Bytes × Bytes) :
    Filled (postPair surroundings before kvp).1 := by
  unfold postPair
  dsimp only
  cases text : names (cText kvp.1) "msg" with
  | true => exact postMsg_filled filled surroundings _ _
  | false =>
      obtain ⟨number, scaled⟩ := readingOf_range (cText kvp.2)
      rw [if_neg Bool.false_ne_true, postParam_eq text]
      generalize readingOf (cText kvp.2) = reading at number scaled
      cases fieldOf (cText kvp.1) with
      | none => exact filled
      | some field => exact setField_filled filled number scaled field

theorem posted_filled (postValues : StringMap) (surroundings : Surroundings)
    {data : ModeMessageData} (filled : Filled data) :
    Filled (posted postValues surroundings data) := by
  unfold posted
  induction postValues.toList using List.reverseRecOn with
  | nil => exact filled
  | append_singleton pairs kvp ih =>
      rw [List.foldl_append]
      exact postPair_filled ih surroundings kvp

theorem fresh_filled (display : Display) : Filled (fresh display) := by
  have currX : IsInt 0 := by decide
  have currYFactor : IsInt (5 * incrementYScale) := by decide
  have repeats : IsInt repeatForever := by decide
  have confetti : 0 ≤ intMax := by decide
  have length : 0 < messageMaxSize := by decide
  exact ⟨⟨currX, currYFactor, repeats, confetti, Or.inl rfl, length, rfl⟩, Int.le_refl 0⟩

theorem settled_measured {data : ModeMessageData} (bounded : Bounded data) :
    Measured (settled data) := by
  unfold settled
  dsimp only
  split
  · exact { bounded with
      length := printMsg_short _
      wd := getTextWidth_small _ (printMsg_short _) }
  · exact { bounded with wd := getTextWidth_small _ bounded.length }

theorem post_measured (postValues : StringMap) (surroundings : Surroundings) (scene : Scene) :
    Measured (doHandleMsgModePost postValues surroundings scene).display.modeMessageData := by
  rw [post_data]
  exact settled_measured
    (posted_filled postValues surroundings (fresh_filled scene.display)).toBounded

/-! ### Runs -/

theorem serve_tables {after : Panel} {called : Called} {drawn : List DrawCall}
    (wellFormed : WellFormed panel.tables) (inPlace : InPlace panel.tables)
    (served : serve panel called = some (drawn, after)) :
    WellFormed after.tables ∧ InPlace after.tables := by
  constructor
  · obtain ⟨_, _, again, kept⟩ := serve_some wellFormed called
    rw [again, Option.some.injEq, Prod.mk.injEq] at served
    exact served.2 ▸ kept
  · obtain ⟨call, surroundings⟩ := called
    unfold serve at served
    cases call with
    | displayTick cadence =>
        obtain ⟨_, _, same⟩ := Option.map_eq_some_iff.mp served
        rw [← (Prod.mk.inj same).2]
        exact inPlace
    | handleTodo displayTodo =>
        obtain ⟨tables, handled, same⟩ := Option.map_eq_some_iff.mp served
        rw [← (Prod.mk.inj same).2]
        cases displayTodo with
        | handleMsgModePost postValues =>
            cases handled
            exact inPlace
        | handleImgBackgroundPost postValues =>
            exact @handle_inPlace _ _ inPlace (.img postValues) handled
        | handleMsgBackgroundPost postValues =>
            exact @handle_inPlace _ _ inPlace (.message surroundings postValues) handled

theorem runFrom_tables (calls : List Called) {after : Panel} {drawn : List (List DrawCall)}
    (wellFormed : WellFormed panel.tables) (inPlace : InPlace panel.tables)
    (ran : runFrom panel calls = some (drawn, after)) :
    WellFormed after.tables ∧ InPlace after.tables := by
  induction calls generalizing panel drawn with
  | nil =>
      cases ran
      exact ⟨wellFormed, inPlace⟩
  | cons called rest ih =>
      simp only [runFrom, Option.bind_eq_bind, Option.bind_eq_some_iff, Option.pure_def,
        Option.some.injEq, Prod.mk.injEq] at ran
      obtain ⟨⟨here, middle⟩, served, ⟨later, final⟩, more, _, rfl⟩ := ran
      obtain ⟨kept, still⟩ := serve_tables wellFormed inPlace served
      exact ih kept still more

/-- The panel once a form for the message has been handled. -/
def afterPost (postValues : StringMap) (surroundings : Surroundings) (panel : Panel) : Panel :=
  { panel with scene := doHandleMsgModePost postValues surroundings panel.scene }

theorem serve_afterPost (postValues : StringMap) (surroundings : Surroundings) (panel : Panel) :
    serve panel (.handleTodo (.handleMsgModePost postValues), surroundings) =
      some ([], afterPost postValues surroundings panel) := rfl

def ticked (panel : Panel) (tick : Tick) : Panel := panel.ticked tick.1 tick.2

/-- Every sum that a message evaluates, from its measuring on. -/
def messageSums (arrays : FontArrays) (panel : Panel) (ticks : List Tick) : List Int :=
  initSums panel.scene.display.modeMessageData ++ runSums ticked (tickSums arrays) panel ticks

theorem afterPost_inRange {before : List Called} {drawn : List (List DrawCall)}
    (ran : runFrom .boot before = some (drawn, panel)) (postValues : StringMap)
    (surroundings : Surroundings) : InRange (afterPost postValues surroundings panel) := by
  obtain ⟨wellFormed, inPlace⟩ := runFrom_tables before boot_wellFormed initial_inPlace ran
  have effect := runFrom_effect before ran
  rw [boot_effect] at effect
  refine ⟨post_measured postValues surroundings panel.scene, ?_, wellFormed, inPlace⟩
  change 0 ≤ panel.scene.display.modeMessageDataColorEffect + 1
  omega

/-- A message overflows in no tick exactly when each of its fast ticks finds room. -/
theorem message_exact_iff {before : List Called} {drawn : List (List DrawCall)} {panel : Panel}
    (ran : runFrom .boot before = some (drawn, panel)) (arrays : FontArrays)
    (postValues : StringMap) (surroundings : Surroundings) (ticks : List Tick) :
    Exact (messageSums arrays (afterPost postValues surroundings panel) ticks) ↔
      EachStep ticked HasRoom (afterPost postValues surroundings panel) ticks := by
  have start := afterPost_inRange ran postValues surroundings
  unfold messageSums
  rw [exact_append, and_iff_right (init_exact start.measured.length)]
  exact @run_exact_iff Panel Tick ticked (tickSums arrays) InRange HasRoom
    (fun _ _ inRange => tick_exact_iff inRange) (fun _ _ inRange room => tick_inRange inRange room)
    _ start ticks

theorem message_exact_iff_plainText :
    Exact (messageSums FontData.fontData
        (afterPost MessageColumns.plainText MessageColumns.quiet .boot)
        [(.fast, MessageColumns.quiet)]) ↔
      EachStep ticked HasRoom (afterPost MessageColumns.plainText MessageColumns.quiet .boot)
        [(.fast, MessageColumns.quiet)] := by
  have start : runFrom .boot [] = some ([], .boot) := rfl
  exact message_exact_iff start _ _ _ _

/-- A text whose next column is out of the range. -/
def farText : StringMap := (∅ : StringMap).insert (bytes "x") (bytes "2147483647")

theorem farText_overflows :
    ¬ Exact (messageSums FontData.fontData (afterPost farText MessageColumns.quiet .boot)
      [(.fast, MessageColumns.quiet)]) := by
  have start : runFrom .boot [] = some ([], .boot) := rfl
  have inRange := afterPost_inRange start farText MessageColumns.quiet
  have far : ¬ (afterPost farText MessageColumns.quiet
      .boot).scene.display.modeMessageData.currX < intMax := by decide +kernel
  have scrolling : (afterPost farText MessageColumns.quiet
      .boot).scene.display.modeMessageData.incrementX = true := by decide +kernel
  unfold messageSums
  rw [runSums, exact_append, exact_append, tick_exact_iff inRange]
  exact fun exact => far ((exact.2.1 rfl rfl).column scrolling)

end OClock.MessageOverflow
