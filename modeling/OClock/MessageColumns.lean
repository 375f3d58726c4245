import OClock.FontData
import OClock.MatrixRun
import OClock.MessagePasses

/-!
What is seen of a message that scrolls: in each pass every column of its text stands once in
every column of the screen, unless the text is above or below the screen.
-/

namespace OClock.MessageColumns
open Text Fonts DisplayInternal DrawCalls MessagePost MessageRun MessageTimeout MessageFrame
open DisplayPanel MessagePasses MatrixPixels TextPixels FontData

/-- A form with so many repeats, for a message that scrolls from the right without blinking
until they are over. -/
structure PlainScroll (postValues : StringMap) (repeats : Nat) : Prop where
  x : postedReading postValues .x = none
  noScroll : postedReading postValues .noScroll = none
  blink : postedReading postValues .blink = none
  timeout : postedTimeout postValues = forever
  repeats : (postedReading postValues .repeats).map Reading.number = some repeats

section Post

variable {postValues : StringMap} {repeats : Nat} {surroundings : Surroundings} {scene : Scene}

theorem posted_field {Value : Type} {get : ModeMessageData → Value} {read : Reading → Value}
    {field : Field} (owns : Owns field get read) (notText : field ≠ .msg)
    (apart : ∀ (data : ModeMessageData) msg wd, get { data with msg := msg, wd := wd } = get data) :
    get (doHandleMsgModePost postValues surroundings scene).display.modeMessageData =
      ((postedReading postValues field).map read).getD (get (fresh scene.display)) := by
  rw [post_data, settled_apart get apart, posted_owned owns notText]

theorem posted_fresh {Value : Type} (get : ModeMessageData → Value)
    (keeps : ∀ other reading data, get (setField reading data other) = get data)
    (text : ∀ (data : ModeMessageData) msg modeMsgsIndex,
      get { data with msg := msg, modeMsgsIndex := modeMsgsIndex } = get data)
    (apart : ∀ (data : ModeMessageData) msg wd, get { data with msg := msg, wd := wd } = get data) :
    get (doHandleMsgModePost postValues surroundings scene).display.modeMessageData =
      get (fresh scene.display) := by
  rw [post_data, settled_apart get apart, posted_unowned get keeps]
  intro surroundings value data random
  obtain ⟨msg, modeMsgsIndex, same⟩ := postMsg_text surroundings value data random
  rw [same, text]

theorem post_scrolls (plain : PlainScroll postValues repeats) :
    Scrolls (doHandleMsgModePost postValues surroundings scene).display.modeMessageData where
  incrementX := by
    rw [posted_field noScroll_owned (by decide) fun _ _ _ => rfl, plain.noScroll]
    rfl
  blink := by
    rw [posted_field blink_owned (by decide) fun _ _ _ => rfl, plain.blink]
    rfl
  blank := by
    rw [posted_fresh ModeMessageData.blinkBlankInEffect (fun other _ _ => by cases other <;> rfl)
      (fun _ _ _ => rfl) fun _ _ _ => rfl]
    rfl
  timeout := (post_counting postValues surroundings scene).timeout.trans plain.timeout
  callback := (post_counting postValues surroundings scene).callback

theorem post_clean :
    0 ∉ (doHandleMsgModePost postValues surroundings scene).display.modeMessageData.msg := by
  have clean := @posted_clean postValues surroundings (fresh scene.display) List.not_mem_nil
  rw [post_data]
  unfold settled
  dsimp only
  split
  · exact printMsg_clean _
  · exact clean

theorem post_wd (data : ModeMessageData) : (settled data).wd = textWidth (settled data) := by
  unfold settled
  dsimp only
  split <;> rfl

theorem post_inPass (plain : PlainScroll postValues repeats) :
    InPass (doHandleMsgModePost postValues surroundings scene).display.modeMessageData repeats 0 0
      (doHandleMsgModePost postValues surroundings scene) where
  mode := post_mode ..
  fixed := rfl
  level := ⟨Iff.rfl, fun _ => rfl⟩
  currX := by
    rw [posted_field x_owned (by decide) fun _ _ _ => rfl, plain.x]
    rfl
  font := rfl
  wd := by
    rw [post_data, post_wd]
    rfl
  repeats := by
    rw [posted_field repeats_owned (by decide) fun _ _ _ => rfl, plain.repeats]
    exact (Int.sub_zero _).symm

end Post

/-! ### A column on the screen -/

/-- A frame shows a column of a text in a column of the screen: the text is drawn first, some of
its rows are on the screen, and on its board they all get their dots. -/
def ColumnDrawn (arrays : FontArrays) (text : Bytes) (font : Font) (frame : List DrawCall)
    (column screenColumn : Int) : Prop :=
  ∃ (board : Fin 3) (x y : Int) (rest : List DrawCall), (board : Nat) < 2 ∧
    frame = [.clearAll, .drawTarget board, .drawText text x y font] ++ rest ∧
    x + column = screenColumn ∧
    (∃ row, (0 ≤ row ∧ row < getFontHeight font) ∧ OnScreen screenColumn (y + row)) ∧
    ∀ (matrix : Ht1632.Display) (row : Int), 0 ≤ row ∧ row < getFontHeight font →
      OnScreen screenColumn (y + row) →
        pixel ((drawAll arrays [.clearAll, .drawTarget board, .drawText text x y font]
            matrix).mem board) screenColumn (y + row) =
          textDot (TextBounds.fontTables arrays font).plain text column row

/-- The first turn of the loop over the boards selects one of the two. -/
theorem textBoards_first (displayColor : UInt32) {modeMessageDataColorEffect : Int}
    (counted : 0 ≤ modeMessageDataColorEffect) : ∃ (board : Fin 3) (more : List Int),
      (board : Nat) < 2 ∧
        textBoards displayColor (modeMessageDataColorEffect.tmod 3) = (board : Int) :: more := by
  have range : modeMessageDataColorEffect.tmod 3 = 0 ∨ modeMessageDataColorEffect.tmod 3 = 1 ∨
      modeMessageDataColorEffect.tmod 3 = 2 := by
    rw [Int.tmod_eq_emod_of_nonneg counted]
    omega
  have first : textBoard displayColor (modeMessageDataColorEffect.tmod 3) 0 = 0 ∨
      textBoard displayColor (modeMessageDataColorEffect.tmod 3) 0 = 1 := by
    unfold textBoard
    split_ifs
    all_goals omega
  unfold textBoards
  rcases first with green | red
  · rw [green]
    split
    · exact ⟨0, _, by decide, rfl⟩
    · exact ⟨0, _, by decide, rfl⟩
  · rw [red]
    split
    · exact ⟨1, _, by decide, rfl⟩
    · exact ⟨1, _, by decide, rfl⟩

/-- What the fast tick draws first while the text is not blanked. -/
theorem frame_first {panel : Panel} (shown : getDisplayMode panel.scene.display = .message)
    (counted : 0 ≤ panel.scene.display.modeMessageDataColorEffect)
    (lit : panel.scene.display.modeMessageData.blinkBlankInEffect = false)
    {surroundings : Surroundings} {frame : List DrawCall}
    (drawn : frameOf panel surroundings = some frame) :
    ∃ (board : Fin 3) (rest : List DrawCall), (board : Nat) < 2 ∧ frame =
      [.clearAll, .drawTarget board, textCall panel.scene.display.modeMessageData] ++ rest := by
  obtain ⟨board, more, selected, turns⟩ :=
    textBoards_first panel.scene.display.modeMessageData.displayColor counted
  obtain ⟨backgrounds, rfl⟩ := frame_text shown drawn
  rw [textCalls, lit, if_neg Bool.false_ne_true, turns, List.flatMap_cons]
  simp only [List.cons_append, List.nil_append]
  exact ⟨board, _, selected, rfl⟩

theorem column_drawn {arrays : FontArrays} (bits : FourBits arrays) {data : ModeMessageData}
    (clean : 0 ∉ data.msg) {column screenColumn : Int}
    (place : textX data + column = screenColumn)
    (inside : 0 ≤ column ∧ column < getTextWidth data.msg (getFontWidth data.font) 1)
    (visible : ∃ row, (0 ≤ row ∧ row < getFontHeight data.font) ∧
      OnScreen screenColumn (textY data + row))
    {board : Fin 3} (selected : (board : Nat) < 2) (rest : List DrawCall) :
    ColumnDrawn arrays data.msg data.font
      ([.clearAll, .drawTarget board, textCall data] ++ rest) column screenColumn := by
  refine ⟨board, _, _, rest, selected, rfl, place, visible, fun matrix row glyph on => ?_⟩
  subst place
  have target : (Ht1632.setTarget board (DrawCall.clearAll.draw arrays matrix)).tgtBuffer =
      some board := by
    rw [MatrixRun.setTarget_board]
  exact shownText_dots bits data.font clean (textX data) target inside glyph on

/-- The place and the rows of a text that is drawn first are those of the message. -/
theorem columnDrawn_place {arrays : FontArrays} {text : Bytes} {font : Font} {board : Fin 3}
    {data : ModeMessageData} {rest : List DrawCall} {column screenColumn : Int}
    (drawn : ColumnDrawn arrays text font ([.clearAll, .drawTarget board, textCall data] ++ rest)
      column screenColumn) :
    textX data + column = screenColumn ∧
      ∃ row, (0 ≤ row ∧ row < getFontHeight font) ∧ OnScreen screenColumn (textY data + row) := by
  obtain ⟨_, x, y, _, _, same, place, visible, _⟩ := drawn
  simp only [textCall, List.cons_append, List.nil_append, List.cons.injEq,
    DrawCall.drawText.injEq] at same
  obtain ⟨_, _, ⟨_, sameX, sameY, _⟩, _⟩ := same
  rw [sameX, sameY]
  exact ⟨place, visible⟩

/-! ### The rows of a text -/

/-- A text that bounces stays on the screen. One that does not is where it was posted. -/
def VisibleIn (shown : ModeMessageData) (k : Nat) : Prop :=
  shown.incrementY ≠ 0 ∨
    0 < shown.currYFactor.tdiv incrementYScale + getFontHeight (passFont shown k) ∧
      shown.currYFactor.tdiv incrementYScale < comSize

theorem getAdjustedTextY_range (font : Font) (wantedY : Int) :
    0 ≤ getAdjustedTextY font wantedY ∧
      getAdjustedTextY font wantedY + getFontHeight font ≤ comSize := by
  have height := getFontHeight_range font
  unfold getAdjustedTextY
  rw [comSize]
  dsimp only
  split
  · omega
  · split <;> omega

theorem visible_row {shown : ModeMessageData} {repeats : Int} {k j : Nat} {scene : Scene}
    (inPass : InPass shown repeats k j scene) (visible : VisibleIn shown k) {screenColumn : Int}
    (there : 0 ≤ screenColumn ∧ screenColumn < outSize) :
    ∃ row, (0 ≤ row ∧ row < getFontHeight scene.display.modeMessageData.font) ∧
      OnScreen screenColumn (textY scene.display.modeMessageData + row) := by
  have height := getFontHeight_range scene.display.modeMessageData.font
  unfold textY
  dsimp only
  split
  · next bounces =>
    have range := getAdjustedTextY_range scene.display.modeMessageData.font
      (scene.display.modeMessageData.currYFactor.tdiv incrementYScale)
    rw [comSize] at range
    refine ⟨0, ⟨Int.le_refl 0, by omega⟩, there, ?_⟩
    rw [Ht1632.comSize]
    omega
  · next level =>
    have still := inPass.level.1.mp (not_not.mp level)
    rcases visible with bounces | ⟨above, below⟩
    · exact absurd still bounces
    · rw [inPass.level.2 still, inPass.font] at *
      rw [comSize] at below
      generalize shown.currYFactor.tdiv incrementYScale = y at above below
      -- The topmost row of the text that is on the screen.
      by_cases cut : y < 0
      · refine ⟨-y, ⟨by omega, by omega⟩, there, ?_⟩
        rw [Ht1632.comSize]
        omega
      · refine ⟨0, ⟨Int.le_refl 0, by omega⟩, there, ?_⟩
        rw [Ht1632.comSize]
        omega

/-- A text that is above or below the screen stays there. -/
theorem hidden_rows {shown : ModeMessageData} {repeats : Int} {k j : Nat} {scene : Scene}
    (inPass : InPass shown repeats k j scene) (hidden : ¬ VisibleIn shown k) (screenColumn : Int) :
    ¬ ∃ row, (0 ≤ row ∧ row < getFontHeight (passFont shown k)) ∧
      OnScreen screenColumn (textY scene.display.modeMessageData + row) := by
  rintro ⟨row, glyph, _, below⟩
  have still : shown.incrementY = 0 := by
    by_contra bounces
    exact hidden (Or.inl bounces)
  have level : ¬ scene.display.modeMessageData.incrementY ≠ 0 :=
    fun bounces => bounces (inPass.level.1.mpr still)
  unfold textY at below
  dsimp only at below
  rw [if_neg level, inPass.level.2 still] at below
  rw [Ht1632.comSize] at below
  apply hidden
  refine Or.inr ⟨by omega, ?_⟩
  rw [comSize]
  omega

/-! ### A posted message -/

/-- Each column of the text is drawn in each column of the screen at one fast tick of the pass,
which comes the later the further left it is drawn. -/
def ColumnsDrawn (arrays : FontArrays) (posted : Panel) (k : Nat) : Prop :=
  let shown := posted.scene.display.modeMessageData
  ∀ column screenColumn : Int, 0 ≤ column ∧ column < passWidth shown k →
    0 ≤ screenColumn ∧ screenColumn < outSize →
      ∃ n : Nat, (passStart shown k ≤ n ∧ n < passStart shown (k + 1)) ∧
        n + screenColumn = passStart shown k + outSize + column ∧
        ∀ ticks panel surroundings frame, TicksTo posted ticks panel →
          passStart shown k ≤ ticks.countP isFast →
          ticks.countP isFast < passStart shown (k + 1) →
          frameOf panel surroundings = some frame →
            (ColumnDrawn arrays shown.msg (passFont shown k) frame column screenColumn ↔
              ticks.countP isFast = n)

/-- The message is shown for so many passes, and for one more, and then ends. -/
structure RunsThrough (posted : Panel) (repeats : Nat) : Prop where
  length : ∀ k, (passLength posted.scene.display.modeMessageData k : Int) =
    passWidth posted.scene.display.modeMessageData k + outSize
  runs : ∀ ticks, ∃ panel, TicksTo posted ticks panel ∧
    panel.scene = runTicks ticks posted.scene ∧ ∀ surroundings, (frameOf panel surroundings).isSome
  pass : ∀ k ≤ repeats, ∀ ticks panel, TicksTo posted ticks panel →
    passStart posted.scene.display.modeMessageData k ≤ ticks.countP isFast →
      ticks.countP isFast < passStart posted.scene.display.modeMessageData (k + 1) →
        completions ticks posted.scene = 0 ∧
          getDisplayMode panel.scene.display = .message ∧
          panel.scene.display.modeMessageData.font =
            passFont posted.scene.display.modeMessageData k ∧
          panel.scene.display.modeMessageData.wd =
            passWidth posted.scene.display.modeMessageData k
  ends : ∀ (ticks : List Tick) (tick : Tick) (panel : Panel), isFast tick = true →
    ticks.countP isFast + 1 = passStart posted.scene.display.modeMessageData (repeats + 1) →
      TicksTo posted (ticks ++ [tick]) panel →
        completes tick (runTicks ticks posted.scene) = 1 ∧
          getDisplayMode panel.scene.display = .basicClock
  once : ∀ ticks : List Tick,
    passStart posted.scene.display.modeMessageData (repeats + 1) ≤ ticks.countP isFast →
      completions ticks posted.scene = 1

section Run

variable {posted : Panel} {repeats : Nat}

theorem runs_through (scrolls : Scrolls posted.scene.display.modeMessageData)
    (start : InPass posted.scene.display.modeMessageData repeats 0 0 posted.scene)
    (wellFormed : BackgroundTables.WellFormed posted.tables) : RunsThrough posted repeats where
  length := passLength_eq posted.scene.display.modeMessageData
  runs ticks := by
    obtain ⟨panel, ran, kept⟩ := ticksTo_some wellFormed ticks
    refine ⟨panel, ran, ticksTo_scene ran, fun surroundings => ?_⟩
    obtain ⟨drawn, after, served, _⟩ := serve_some kept (.displayTick .fast, surroundings)
    rw [frameOf, served]
    rfl
  pass k early ticks panel ran begun within := by
    obtain ⟨inPass, none⟩ := run_inPass scrolls start early begun within
    rw [ticksTo_scene ran]
    exact ⟨none, inPass.mode, inPass.font, inPass.wd⟩
  ends ticks tick panel fast last ran := by
    obtain ⟨stands, _⟩ := run_stands scrolls start ticks (by omega)
    rw [ticksTo_scene ran, runTicks_concat]
    exact last_completes scrolls stands last fast
  once ticks finished := (run_completed scrolls start ticks finished).1

theorem runTicks_effect (ticks : List Tick) (scene : Scene) :
    scene.display.modeMessageDataColorEffect ≤
      (runTicks ticks scene).display.modeMessageDataColorEffect := by
  induction ticks using List.reverseRecOn with
  | nil => exact Int.le_refl _
  | append_singleton ticks tick ih =>
      rw [runTicks_concat]
      exact Int.le_trans ih (tickOf_effect tick _)

/-- Where the text stands in its pass. -/
theorem inPass_textX {shown : ModeMessageData} {j k : Nat} {scene : Scene}
    (scrolls : Scrolls shown) (inPass : InPass shown repeats k j scene) :
    textX scene.display.modeMessageData = outSize - j := by
  unfold textX
  rw [(inPass.fixed_data scrolls).incrementX, inPass.currX]
  rfl

/-- What a fast tick draws first in a pass. -/
theorem pass_frame {shown : ModeMessageData} {j k : Nat} {panel : Panel} (scrolls : Scrolls shown)
    (inPass : InPass shown repeats k j panel.scene)
    (counted : 0 ≤ panel.scene.display.modeMessageDataColorEffect) {surroundings : Surroundings}
    {frame : List DrawCall} (drawn : frameOf panel surroundings = some frame) :
    ∃ (board : Fin 3) (rest : List DrawCall), (board : Nat) < 2 ∧ frame =
      [.clearAll, .drawTarget board, textCall panel.scene.display.modeMessageData] ++ rest :=
  frame_first inPass.mode counted (inPass.fixed_data scrolls).blank drawn

theorem columns_drawn {arrays : FontArrays} (bits : FourBits arrays)
    (scrolls : Scrolls posted.scene.display.modeMessageData)
    (start : InPass posted.scene.display.modeMessageData repeats 0 0 posted.scene)
    (counted : 0 ≤ posted.scene.display.modeMessageDataColorEffect)
    (clean : 0 ∉ posted.scene.display.modeMessageData.msg) {k : Nat} (early : k ≤ repeats)
    (visible : VisibleIn posted.scene.display.modeMessageData k) :
    ColumnsDrawn arrays posted k := by
  intro column screenColumn inside there
  have length := passLength_eq posted.scene.display.modeMessageData k
  have next : passStart posted.scene.display.modeMessageData (k + 1) =
    passStart posted.scene.display.modeMessageData k +
      passLength posted.scene.display.modeMessageData k := rfl
  -- The column enters on the right and moves left by one at each tick.
  obtain ⟨n, place⟩ : ∃ n : Nat, (n : Int) + screenColumn =
      passStart posted.scene.display.modeMessageData k + outSize + column :=
    ⟨(passStart posted.scene.display.modeMessageData k + outSize + column - screenColumn).toNat,
      by omega⟩
  refine ⟨n, by omega, place, fun ticks panel surroundings frame ran begun within drawn => ?_⟩
  obtain ⟨inPass, _⟩ := run_inPass scrolls start early begun within
  have effect := Int.le_trans counted (runTicks_effect ticks posted.scene)
  rw [← ticksTo_scene ran] at inPass effect
  obtain ⟨board, rest, selected, rfl⟩ := pass_frame scrolls inPass effect drawn
  have left := inPass_textX scrolls inPass
  constructor
  · intro shows
    have stands := (columnDrawn_place shows).1
    rw [left] at stands
    omega
  · intro now
    have same : panel.scene.display.modeMessageData.msg =
      posted.scene.display.modeMessageData.msg := congrArg Prod.fst inPass.fixed
    rw [← same, ← inPass.font]
    refine column_drawn bits (by rwa [same]) ?_ ?_ (visible_row inPass visible there) selected rest
    · rw [left]
      omega
    · rw [same, inPass.font]
      exact inside

end Run

/-- The panel that a form leaves. -/
theorem handled_post {before : List Called} {postValues : StringMap}
    {surroundings : Surroundings} {posted : Panel}
    (ran : RunsTo (before ++ [(.handleTodo (.handleMsgModePost postValues), surroundings)])
      posted) :
    ∃ panel, RunsTo before panel ∧
      posted.scene = doHandleMsgModePost postValues surroundings panel.scene := by
  obtain ⟨panel, drawn, early, served⟩ := runsTo_concat ran
  unfold serve at served
  obtain ⟨_, _, same⟩ := Option.map_eq_some_iff.mp served
  rw [← (Prod.mk.inj same).2]
  exact ⟨panel, early, rfl⟩

/-- In whatever state the form arrives, the message scrolls through its passes, and where its
rows are on the screen all of it is seen in each of them. -/
theorem scrolled_through {arrays : FontArrays} (bits : FourBits arrays) {postValues : StringMap}
    {repeats : Nat} (plain : PlainScroll postValues repeats) {before : List Called}
    {surroundings : Surroundings} {posted : Panel}
    (ran : RunsTo (before ++ [(.handleTodo (.handleMsgModePost postValues), surroundings)])
      posted) :
    RunsThrough posted repeats ∧
      ∀ k ≤ repeats, VisibleIn posted.scene.display.modeMessageData k →
        ColumnsDrawn arrays posted k := by
  obtain ⟨panel, ⟨_, early⟩, scene⟩ := handled_post ran
  have scrolls := @post_scrolls postValues repeats surroundings panel.scene plain
  have start := @post_inPass postValues repeats surroundings panel.scene plain
  have clean := @post_clean postValues surroundings panel.scene
  have effect := runFrom_effect before early
  rw [boot_effect] at effect
  have counted := post_effect postValues surroundings panel.scene
  rw [← scene] at scrolls start clean counted
  exact ⟨runs_through scrolls start (runsTo_wellFormed ran), fun k less visible =>
    columns_drawn bits scrolls start (by omega) clean less visible⟩

/-- A text in the rows where texts are shown when a form gives none. -/
def plainText : StringMap :=
  (((∅ : StringMap).insert (bytes "msg") (bytes "A")).insert (bytes "repeats") (bytes "0")).insert
    (bytes "timeout") (bytes "4294967295")

def quiet : Surroundings := ⟨default, 0, fun _ => [], fun _ => 0⟩

/-- A panel that was switched on and has handled one form. -/
def panelOf (postValues : StringMap) : Panel :=
  { Panel.boot with scene := doHandleMsgModePost postValues quiet Panel.boot.scene }

theorem panelOf_ran (postValues : StringMap) :
    RunsTo ([] ++ [(.handleTodo (.handleMsgModePost postValues), quiet)]) (panelOf postValues) :=
  ⟨[[]], rfl⟩

theorem plainText_plain : PlainScroll plainText 0 := by
  refine ⟨?_, ?_, ?_, ?_, ?_⟩ <;> decide +kernel

theorem scrolled_through_plainText :
    RunsThrough (panelOf plainText) 0 ∧ ColumnsDrawn fontData (panelOf plainText) 0 ∧
      textDot (TextBounds.fontTables fontData font5x4).plain
        (panelOf plainText).scene.display.modeMessageData.msg 0 1 = true := by
  obtain ⟨runs, seen⟩ := scrolled_through fontData_bits plainText_plain (panelOf_ran plainText)
  exact ⟨runs, seen 0 (Nat.le_refl 0) (Or.inr (by decide +kernel)), by decide +kernel⟩

/-- The same text below the screen. -/
def lowText : StringMap := plainText.insert (bytes "y") (bytes "16")

theorem lowText_plain : PlainScroll lowText 0 := by
  refine ⟨?_, ?_, ?_, ?_, ?_⟩ <;> decide +kernel

theorem lowText_undrawn : PlainScroll lowText 0 ∧ ¬ ColumnsDrawn fontData (panelOf lowText) 0 := by
  refine ⟨lowText_plain, fun seen => ?_⟩
  have wide : passWidth (panelOf lowText).scene.display.modeMessageData 0 = 3 := by
    decide +kernel
  have hidden : ¬ VisibleIn (panelOf lowText).scene.display.modeMessageData 0 := by
    unfold VisibleIn
    decide +kernel
  obtain ⟨n, ⟨begun, within⟩, _, drawn⟩ :=
    seen 0 0 ⟨Int.le_refl 0, by rw [wide]; decide⟩ ⟨Int.le_refl 0, by decide⟩
  have scrolls : Scrolls (panelOf lowText).scene.display.modeMessageData :=
    post_scrolls lowText_plain
  have start : InPass (panelOf lowText).scene.display.modeMessageData (0 : Nat) 0 0
    (panelOf lowText).scene := post_inPass lowText_plain
  have count : (List.replicate n ((.fast, quiet) : Tick)).countP isFast = n := by
    rw [List.countP_replicate]
    rfl
  rw [← count] at begun within
  obtain ⟨inPass, _⟩ := run_inPass scrolls start (Nat.le_refl 0) begun within
  obtain ⟨panel, ran, kept⟩ := ticksTo_some (runsTo_wellFormed (panelOf_ran lowText))
    (List.replicate n ((.fast, quiet) : Tick))
  obtain ⟨frame, after, served, _⟩ := serve_some kept (.displayTick .fast, quiet)
  have frames : frameOf panel quiet = some frame := by
    rw [frameOf, served]
    rfl
  have scene := ticksTo_scene ran
  have shows := (drawn _ panel quiet frame ran begun within frames).mpr count
  have effect := Int.le_trans (by decide +kernel :
      0 ≤ (panelOf lowText).scene.display.modeMessageDataColorEffect)
    (runTicks_effect (List.replicate n ((.fast, quiet) : Tick)) (panelOf lowText).scene)
  rw [← scene] at effect inPass
  obtain ⟨board, rest, _, rfl⟩ := pass_frame scrolls inPass effect frames
  exact hidden_rows inPass hidden 0 (columnDrawn_place shows).2

end OClock.MessageColumns
