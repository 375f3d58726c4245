import OClock.DrawRange
import OClock.MessageSums

/-!
Where a fast tick of the message stays in the range of `int`, and what it keeps then.
-/

namespace OClock.MessageRange
open Text CommonUtils Fonts DisplayInternal DrawCalls MessageFrame MessageRun ExactSums DrawSums
open TextBounds (fontTables)
open DrawRange MessageSums

theorem int32_isInt (value : Int) : IsInt (int32 value) := by
  have low := @Int.le_bmod value 4294967296 (by decide)
  have high := @Int.bmod_lt value 4294967296 (by decide)
  have bottom : intMin = -2147483648 := rfl
  have top : intMax = 2147483647 := rfl
  unfold int32
  exact ⟨by omega, by omega⟩

/-- A message is level, on its way down, or on its way up from a row of the screen. -/
def Swings (incrementY currYFactor : Int) : Prop :=
  incrementY = 0 ∨ incrementY = incrementYValue ∨ incrementY = -incrementYValue ∧ 0 ≤ currYFactor

/-- What the fields of a message hold in every state that is reached without an overflow. -/
structure Bounded (data : ModeMessageData) : Prop where
  currX : IsInt data.currX
  currYFactor : IsInt data.currYFactor
  repeats : IsInt data.repeats
  confetti : data.confetti ≤ intMax
  incrementY : Swings data.incrementY data.currYFactor
  length : data.msg.length < messageMaxSize
  callback : data.completedCallback.isSome = true

/-- The same with a width that was measured. -/
structure Measured (data : ModeMessageData) : Prop extends Bounded data where
  wd : -1 ≤ data.wd ∧ data.wd ≤ 36864

/-- The text has left the panel after this tick. -/
def Wraps (data : ModeMessageData) : Prop :=
  data.incrementX = true ∧ data.wd + outSize ≤ data.currX + 1

/-- The tick ends the message. -/
def Ends (data : ModeMessageData) : Prop :=
  Wraps data ∧ data.repeats ≠ repeatForever ∧ data.repeats ≤ 0

/-- The text reaches the lower edge. -/
def TurnsDown (data : ModeMessageData) : Prop :=
  0 < data.incrementY ∧ (comSize - getFontHeight data.font) * incrementYScale ≤
    data.currYFactor + data.incrementY

variable {arrays : FontArrays} {data : ModeMessageData}

/-! ### The text -/

theorem wantedY_small {currYFactor : Int} (range : IsInt currYFactor) :
    -2147484 ≤ currYFactor.tdiv incrementYScale ∧ currYFactor.tdiv incrementYScale ≤ 2147484 := by
  obtain ⟨low, high⟩ := range
  have bottom : intMin = -2147483648 := rfl
  have top : intMax = 2147483647 := rfl
  have scale : (incrementYScale : Int) = 1000 := rfl
  rw [scale]
  rcases Int.lt_or_le currYFactor 0 with below | above
  · have turned : currYFactor.tdiv 1000 = -((-currYFactor).tdiv 1000) := by
      rw [Int.neg_tdiv, Int.neg_neg]
    rw [turned, Int.tdiv_eq_ediv_of_nonneg (by omega)]
    omega
  · rw [Int.tdiv_eq_ediv_of_nonneg above]
    omega

theorem adjusted_exact (font : Font) {wantedY : Int} (range : wantedY ≤ 2147484) :
    Exact (adjustedSums font wantedY) := by
  have height := getFontHeight_range font
  have bottom : intMin = -2147483648 := rfl
  have top : intMax = 2147483647 := rfl
  unfold adjustedSums
  split
  · exact exact_nil
  · rw [exact_cons]
    refine ⟨⟨by omega, by omega⟩, ?_⟩
    split
    · rw [comSize]
      exact exact_cons.mpr ⟨isInt_small (by omega) (by omega), exact_nil⟩
    · exact exact_nil

theorem textY_small (range : IsInt data.currYFactor) :
    -2147484 ≤ textY data ∧ textY data ≤ 2147484 := by
  have wanted := wantedY_small range
  have height := getFontHeight_range data.font
  unfold textY getAdjustedTextY
  dsimp only
  rw [comSize]
  split
  · split
    · omega
    · split <;> omega
  · exact wanted

theorem textBoards_small (displayColor : UInt32) (modeMessageDataColorEffect : Int) :
    ∀ boardId ∈ textBoards displayColor (modeMessageDataColorEffect.tmod 3),
      -3 < boardId ∧ boardId < 3 := by
  have low := Int.tmod_lt_of_pos modeMessageDataColorEffect (by decide : (0 : Int) < 3)
  have high := Int.lt_tmod_of_pos modeMessageDataColorEffect (by decide : (0 : Int) < 3)
  generalize modeMessageDataColorEffect.tmod 3 = currColorEffect at low high
  have board : ∀ i, 0 ≤ i ∧ i < 3 → -3 < textBoard displayColor currColorEffect i ∧
      textBoard displayColor currColorEffect i < 3 := by
    intro i turn
    unfold textBoard
    split_ifs
    all_goals omega
  intro boardId inside
  unfold textBoards at inside
  split at inside
  · rcases List.mem_pair.mp inside with rfl | rfl
    · exact board 0 (by decide)
    · exact board 1 (by decide)
  · rw [List.mem_singleton.mp inside]
    exact board 0 (by decide)

theorem board_exact {boardId : Int} (small : -3 < boardId ∧ boardId < 3) :
    Exact (boardSums boardId) := by
  unfold boardSums
  rw [exact_cons, exact_cons]
  exact ⟨isInt_small (by omega) (by omega), isInt_small (by omega) (by omega), exact_nil⟩

/-- A text that scrolls starts where the range allows it. -/
def Starts (data : ModeMessageData) : Prop :=
  data.incrementX = true → outSize - intMax ≤ data.currX

theorem textTurn_exact_iff (bounded : Bounded data) {boardId : Int}
    (small : -3 < boardId ∧ boardId < 3) :
    Exact (textTurnSums arrays data boardId) ↔ Starts data := by
  have bottom : intMin = -2147483648 := rfl
  have top : intMax = 2147483647 := rfl
  have width : outSize = 128 := rfl
  have wanted := wantedY_small bounded.currYFactor
  have height := getFontHeight_range data.font
  have place := textY_small bounded.currYFactor
  obtain ⟨left, right⟩ := bounded.currX
  have adjusted : Exact (if data.incrementY ≠ 0 then
      adjustedSums data.font (data.currYFactor.tdiv incrementYScale) else []) := by
    split
    · exact adjusted_exact data.font wanted.2
    · exact exact_nil
  have drawn : ∀ {x : Int}, IsInt x →
      Exact (textSums (fontTables arrays data.font).plain (data.msg ++ [0]) x (textY data) 1) :=
    fun column => (text_exact_iff (fontTables_small arrays data.font) _ column
      ⟨by omega, by omega⟩).mpr (by
        change textY data + getFontHeight data.font ≤ intMax
        omega)
  have boards := board_exact small
  unfold textTurnSums Starts
  rw [exact_append, exact_append, exact_append, textCall, callSums, textX]
  cases scrolling : data.incrementX with
  | false =>
      refine iff_of_true ⟨⟨⟨boards, adjusted⟩, exact_nil⟩, ?_⟩ (fun never => by cases never)
      exact drawn ⟨left, right⟩
  | true =>
      rw [if_pos rfl, if_pos rfl, forall_prop_of_true rfl, exact_cons]
      constructor
      · rintro ⟨⟨_, ⟨_, inside⟩, _⟩, _⟩
        omega
      · intro starts
        have column : IsInt (outSize - data.currX) := ⟨by omega, by omega⟩
        exact ⟨⟨⟨boards, adjusted⟩, column, exact_nil⟩, drawn column⟩

theorem textLoop_exact_iff (bounded : Bounded data) (modeMessageDataColorEffect : Int) :
    Exact (textLoopSums arrays modeMessageDataColorEffect data) ↔
      (data.blinkBlankInEffect = false → Starts data) := by
  have small := textBoards_small data.displayColor modeMessageDataColorEffect
  unfold textLoopSums
  cases data.blinkBlankInEffect with
  | true => exact iff_of_true exact_nil (fun never => by cases never)
  | false =>
      have counted : Exact (if (textBoards data.displayColor
          (modeMessageDataColorEffect.tmod 3)).length = 2 then [1, 2] else []) := by
        split <;> decide
      rw [if_neg Bool.false_ne_true, forall_prop_of_true rfl, exact_append, exact_flatMap,
        and_iff_left counted]
      constructor
      · intro turns
        obtain ⟨boardId, first⟩ : ∃ boardId,
            boardId ∈ textBoards data.displayColor (modeMessageDataColorEffect.tmod 3) := by
          unfold textBoards
          split
          · exact ⟨_, List.mem_cons_self⟩
          · exact ⟨_, List.mem_cons_self⟩
        exact (textTurn_exact_iff bounded (small boardId first)).mp (turns boardId first)
      · exact fun starts boardId inside =>
          (textTurn_exact_iff bounded (small boardId inside)).mpr starts

/-! ### The confetti -/

theorem drawn_below (random : Random) {upperBound : Int} (some : 0 < upperBound)
    (range : upperBound ≤ intMax) :
    ((getRandomNumber random (UInt32.ofInt upperBound)).1.toNat : Int) < upperBound := by
  have top : intMax = 2147483647 := rfl
  have bound : ((UInt32.ofInt upperBound).toNat : Int) = upperBound := by
    have same : UInt32.ofInt upperBound = UInt32.ofNat upperBound.toNat := by
      rw [UInt32.ofInt, Int.emod_eq_of_lt (by omega) (by omega)]
    rw [same, UInt32.toNat_ofNat_of_lt' (by rw [UInt32.size]; omega)]
    exact Int.toNat_of_nonneg (by omega)
  unfold getRandomNumber
  split
  · exact some
  · dsimp only
    rw [UInt32.toNat_mod]
    have less := Nat.mod_lt (random 0).toNat (show 0 < (UInt32.ofInt upperBound).toNat by omega)
    omega

theorem confetti_exact (random : Random) {confetti : Int} (range : confetti ≤ intMax) :
    Exact (confettiSums confetti random) := by
  have bottom : intMin = -2147483648 := rfl
  have board : ∀ random boardId, 0 < confetti → 0 ≤ boardId ∧ boardId < 2 →
      Exact (confettiBoardSums confetti boardId random) := by
    intro random boardId some small
    have drawn := drawn_below random some range
    unfold confettiBoardSums
    dsimp only
    rw [exact_append, exact_append]
    refine ⟨⟨board_exact (by omega), fun sum member => ?_⟩,
      exact_cons.mpr ⟨isInt_small (by omega) (by omega), exact_nil⟩⟩
    obtain ⟨xx, turn, rfl⟩ := List.mem_map.mp member
    have few := List.mem_range.mp turn
    exact ⟨by omega, by omega⟩
  unfold confettiSums
  split
  · next some =>
    exact exact_append.mpr ⟨board _ 0 some (by decide), board _ 1 some (by decide)⟩
  · exact exact_nil

/-! ### The scrolling and the bouncing -/

theorem getTextWidth_small {text : Bytes} (font : Font) (short : text.length < messageMaxSize) :
    -1 ≤ getTextWidth text (getFontWidth font) 1 ∧
      getTextWidth text (getFontWidth font) 1 ≤ 36864 := by
  have range := getTextWidth_range text font
  rw [messageMaxSize] at short
  omega

theorem init_exact (short : data.msg.length < messageMaxSize) : Exact (initSums data) := by
  rw [messageMaxSize] at short
  exact width_exact data.font data.msg (Int.le_refl 0) (by omega)

variable {display : Display}

theorem scroll_exact_iff (measured : Measured display.modeMessageData)
    (counted : 0 ≤ display.modeMessageDataColorEffect) :
    Exact (scrollSums display) ↔
      (display.modeMessageData.incrementX = true → display.modeMessageData.currX < intMax) ∧
        (Wraps display.modeMessageData → display.modeMessageDataColorEffect < intMax ∧
          display.modeMessageData.repeats ≠ intMin) := by
  have bottom : intMin = -2147483648 := rfl
  have top : intMax = 2147483647 := rfl
  have width : outSize = 128 := rfl
  obtain ⟨left, right⟩ := measured.currX
  obtain ⟨least, most⟩ := measured.repeats
  have wd := measured.wd
  have renewed : Exact (if display.modeMessageData.alternateFont then
      widthSums (getFontWidth (getNextFont display.modeMessageData.font)) 1
        display.modeMessageData.msg 0 else []) := by
    have short := measured.length
    rw [messageMaxSize] at short
    split
    · exact width_exact _ _ (Int.le_refl 0) (by omega)
    · exact exact_nil
  have end_small : IsInt (display.modeMessageData.wd + outSize) :=
    isInt_small (by omega) (by omega)
  have next : IsInt (display.modeMessageData.currX + 1) ↔
      display.modeMessageData.currX < intMax :=
    ⟨fun inside => Int.lt_of_add_one_le inside.2, fun room => ⟨by omega, by omega⟩⟩
  have effect : IsInt (display.modeMessageDataColorEffect + 1) ↔
      display.modeMessageDataColorEffect < intMax :=
    ⟨fun inside => Int.lt_of_add_one_le inside.2, fun room => ⟨by omega, by omega⟩⟩
  -- The least number is not the one for ever, so taking one off it is always evaluated.
  have fewer : Exact (if display.modeMessageData.repeats ≠ repeatForever then
      [display.modeMessageData.repeats - 1] else []) ↔
        display.modeMessageData.repeats ≠ intMin := by
    by_cases limited : display.modeMessageData.repeats ≠ repeatForever
    · rw [if_pos limited, exact_cons, and_iff_left exact_nil]
      exact ⟨fun inside => by have low := inside.1; omega, fun other => ⟨by omega, by omega⟩⟩
    · rw [if_neg limited]
      rw [not_not] at limited
      exact iff_of_true exact_nil (by rw [limited]; decide)
  unfold scrollSums Wraps
  dsimp only
  cases scrolling : display.modeMessageData.incrementX with
  | false =>
      refine iff_of_true exact_nil ⟨?_, ?_⟩
      · exact fun never => absurd never Bool.false_ne_true
      · exact fun wraps => absurd wraps.1 Bool.false_ne_true
  | true =>
      rw [if_pos rfl, exact_cons, exact_cons, next, forall_prop_of_true rfl]
      refine and_congr_right fun _ => ?_
      rw [and_iff_right end_small]
      by_cases wraps : display.modeMessageData.wd + outSize ≤ display.modeMessageData.currX + 1
      · rw [if_pos wraps, List.cons_append, exact_cons, exact_append, and_iff_right renewed,
          effect, fewer, forall_prop_of_true ⟨rfl, wraps⟩]
      · rw [if_neg wraps]
        exact iff_of_true exact_nil fun wrapped => absurd wrapped.2 wraps

theorem bounce_exact_iff (bounded : Bounded display.modeMessageData)
    (counted : 0 ≤ display.modeMessageDataColorEffect) :
    Exact (bounceSums display) ↔
      (0 < display.modeMessageData.incrementY →
        display.modeMessageData.currYFactor ≤ intMax - incrementYValue) ∧
      (display.modeMessageData.incrementX = false → TurnsDown display.modeMessageData →
        display.modeMessageDataColorEffect < intMax) := by
  have bottom : intMin = -2147483648 := rfl
  have top : intMax = 2147483647 := rfl
  have step : incrementYValue = 800 := rfl
  have scale : (incrementYScale : Int) = 1000 := rfl
  have bottomRow : comSize = 16 := rfl
  have height := getFontHeight_range display.modeMessageData.font
  obtain ⟨low, high⟩ := bounded.currYFactor
  have effect : IsInt (display.modeMessageDataColorEffect + 1) ↔
      display.modeMessageDataColorEffect < intMax :=
    ⟨fun inside => Int.lt_of_add_one_le inside.2, fun room => ⟨by omega, by omega⟩⟩
  have turned : IsInt (-display.modeMessageData.incrementY) := by
    rcases bounded.incrementY with still | down | ⟨up, _⟩
    · rw [still]
      decide
    · rw [down]
      decide
    · rw [up]
      decide
  have lowest : IsInt (comSize - getFontHeight display.modeMessageData.font) :=
    isInt_small (by omega) (by omega)
  have edge : IsInt ((comSize - getFontHeight display.modeMessageData.font) * incrementYScale) := by
    rw [scale]
    exact isInt_small (by omega) (by omega)
  unfold bounceSums TurnsDown
  dsimp only
  -- Only on its way down a text can leave the range: its way up starts on the screen.
  rcases bounded.incrementY with still | down | ⟨up, above⟩
  · rw [if_neg (not_not.mpr still), still]
    have level : ¬ (0 : Int) < 0 := Int.lt_irrefl 0
    exact iff_of_true exact_nil
      ⟨fun never => absurd never level, fun _ never => absurd never.1 level⟩
  · have moved : IsInt (display.modeMessageData.currYFactor + incrementYValue) ↔
        display.modeMessageData.currYFactor ≤ intMax - incrementYValue :=
      ⟨fun inside => Int.le_sub_right_of_add_le inside.2, fun room => ⟨by omega, by omega⟩⟩
    rw [down] at turned ⊢
    rw [if_pos (by decide), if_neg (by omega), if_pos (by decide), exact_cons, exact_cons,
      exact_cons, moved, forall_prop_of_true (by decide)]
    refine and_congr_right fun _ => ?_
    rw [and_iff_right lowest, and_iff_right edge]
    by_cases turns : (comSize - getFontHeight display.modeMessageData.font) * incrementYScale ≤
        display.modeMessageData.currYFactor + incrementYValue
    · rw [if_pos turns, exact_cons, and_iff_right turned]
      cases display.modeMessageData.incrementX with
      | true => exact iff_of_true exact_nil fun never => by cases never
      | false =>
          rw [if_neg Bool.false_ne_true, exact_cons, and_iff_left exact_nil, effect,
            forall_prop_of_true rfl, forall_prop_of_true ⟨by decide, turns⟩]
    · rw [if_neg turns]
      exact iff_of_true exact_nil fun _ never => absurd never.2 turns
  · rw [up] at turned ⊢
    rw [if_pos (by decide), exact_cons, exact_cons]
    refine iff_of_true ⟨⟨by omega, by omega⟩, lowest, ?_⟩
      ⟨fun never => absurd never (by decide), fun _ never => absurd never.1 (by decide)⟩
    split
    · exact exact_cons.mpr ⟨turned, exact_nil⟩
    · rw [if_neg (by decide)]
      exact exact_nil

/-! ### What a tick keeps -/

theorem wrapText_repeats (display : Display) :
    (wrapText display).modeMessageData.repeats = display.modeMessageData.repeats := by
  unfold wrapText
  dsimp only
  split <;> rfl

theorem wrapText_measured (measured : Measured display.modeMessageData) :
    Measured (wrapText display).modeMessageData := by
  have zero : IsInt 0 := by decide
  unfold wrapText
  dsimp only
  split
  · exact { measured with currX := zero, wd := getTextWidth_small _ measured.length }
  · exact { measured with currX := zero }

theorem countRepeat_measured (measured : Measured display.modeMessageData)
    (room : display.modeMessageData.repeats ≠ intMin) :
    Measured (countRepeat display).2.modeMessageData := by
  obtain ⟨least, most⟩ := measured.repeats
  have above : intMin < display.modeMessageData.repeats := lt_of_le_of_ne least room.symm
  have forever : IsInt repeatForever := by decide
  have fewer : IsInt (display.modeMessageData.repeats - 1) :=
    ⟨Int.le_sub_one_of_lt above, by omega⟩
  unfold countRepeat
  dsimp only
  split
  · split
    · exact { measured with repeats := forever }
    · exact { measured with repeats := fewer }
  · exact measured

theorem scroll_measured (measured : Measured display.modeMessageData)
    (room : display.modeMessageData.incrementX = true → display.modeMessageData.currX < intMax)
    (left : Wraps display.modeMessageData → display.modeMessageData.repeats ≠ intMin) :
    Measured (scroll display).2.modeMessageData := by
  unfold scroll
  dsimp only
  split
  · next scrolling =>
    have further : IsInt (display.modeMessageData.currX + 1) :=
      ⟨Int.le_add_one measured.currX.1, Int.add_one_le_of_lt (room scrolling)⟩
    have moved : Measured (display.withData { display.modeMessageData with
        currX := display.modeMessageData.currX + 1 }).modeMessageData :=
      { measured with currX := further }
    split
    · next ended =>
      apply countRepeat_measured (wrapText_measured moved)
      rw [wrapText_repeats]
      exact left ⟨scrolling, ended⟩
    · exact moved
  · exact measured

theorem turnAround_measured (measured : Measured display.modeMessageData)
    (turned : Swings (-display.modeMessageData.incrementY) display.modeMessageData.currYFactor) :
    Measured (turnAround display).modeMessageData := by
  have back : Measured { display.modeMessageData with
      incrementY := -display.modeMessageData.incrementY } :=
    { measured with incrementY := turned }
  unfold turnAround
  dsimp only
  split
  · exact back
  · dsimp only
    split
    · exact { back with }
    · exact back

theorem bounce_measured (measured : Measured display.modeMessageData)
    (room : 0 < display.modeMessageData.incrementY →
      display.modeMessageData.currYFactor ≤ intMax - incrementYValue) :
    Measured (bounce display).modeMessageData := by
  have bottom : intMin = -2147483648 := rfl
  have top : intMax = 2147483647 := rfl
  have step : incrementYValue = 800 := rfl
  have scale : (incrementYScale : Int) = 1000 := rfl
  have bottomRow : comSize = 16 := rfl
  have height := getFontHeight_range display.modeMessageData.font
  have swings := measured.incrementY
  unfold Swings at swings
  obtain ⟨low, high⟩ := measured.currYFactor
  unfold bounce
  dsimp only
  split
  · next moving =>
    have further :
        IsInt (display.modeMessageData.currYFactor + display.modeMessageData.incrementY) :=
      ⟨by omega, by omega⟩
    split
    · next top =>
      have turned : Swings (-display.modeMessageData.incrementY)
          (display.modeMessageData.currYFactor + display.modeMessageData.incrementY) := by
        unfold Swings
        omega
      exact { measured with currYFactor := further, incrementY := turned }
    · next inside =>
      have onward : Swings display.modeMessageData.incrementY
          (display.modeMessageData.currYFactor + display.modeMessageData.incrementY) := by
        unfold Swings
        omega
      have moved : Measured (display.withData { display.modeMessageData with
          currYFactor := display.modeMessageData.currYFactor +
            display.modeMessageData.incrementY }).modeMessageData :=
        { measured with currYFactor := further, incrementY := onward }
      split
      · next down =>
        -- At the lower edge the text is on the screen, so its way up starts there.
        have turned : Swings (-display.modeMessageData.incrementY)
            (display.modeMessageData.currYFactor + display.modeMessageData.incrementY) := by
          rw [scale] at down
          unfold Swings
          omega
        exact turnAround_measured moved turned
      · exact moved
  · exact measured

/-! ### The end of a message -/

theorem scroll_still (still : display.modeMessageData.incrementX = false) :
    scroll display = (false, display) := by
  unfold scroll
  dsimp only
  rw [still]
  rfl

theorem scroll_ends (display : Display) :
    (scroll display).1 = true ↔ Ends display.modeMessageData := by
  have counted : ∀ moved : Display, (countRepeat moved).1 = true ↔
      moved.modeMessageData.repeats ≠ repeatForever ∧ moved.modeMessageData.repeats ≤ 0 := by
    intro moved
    unfold countRepeat
    dsimp only
    split
    · next limited =>
      split
      · next finished => exact iff_of_true rfl ⟨limited, by omega⟩
      · next more => exact iff_of_false Bool.false_ne_true fun ended => by omega
    · next endless => exact iff_of_false Bool.false_ne_true fun ended => endless ended.1
  unfold scroll Ends Wraps
  dsimp only
  split
  · next scrolling =>
    split
    · next ended =>
      rw [counted, wrapText_repeats]
      exact (and_iff_right ⟨scrolling, ended⟩).symm
    · next inside => exact iff_of_false Bool.false_ne_true fun finished => inside finished.1.2
  · next still => exact iff_of_false Bool.false_ne_true fun finished => still finished.1.1

end OClock.MessageRange
