import OClock.FacePicture

/-!
The texts of the clock and the boxes they stand in: whatever moment is shown, none of them is
wider than its box.
-/

namespace OClock.FaceTexts
open Text CommonUtils Fonts Ht1632 MatrixPixels ImageColumn ImagePixels TextPixels Images ClockFace
open FacePicture

/-! ### How wide a text is -/

/-- A text without NUL, of so many columns. -/
structure Wide (font : Fonts.Font) (least most : Int) (text : Bytes) : Prop where
  clean : 0 ∉ text
  least : least ≤ advance (getFontWidth font) text
  most : advance (getFontWidth font) text ≤ most

instance (font : Fonts.Font) (least most : Int) (text : Bytes) :
    Decidable (Wide font least most text) :=
  decidable_of_iff (0 ∉ text ∧ least ≤ advance (getFontWidth font) text ∧
      advance (getFontWidth font) text ≤ most)
    ⟨fun ⟨clean, least, most⟩ => ⟨clean, least, most⟩,
      fun wide => ⟨wide.clean, wide.least, wide.most⟩⟩

theorem Wide.append {font : Fonts.Font} {least most less more : Int} {first second : Bytes}
    (early : Wide font least most first) (late : Wide font less more second) :
    Wide font (least + less) (most + more) (first ++ second) where
  clean inside := (List.mem_append.mp inside).elim early.clean late.clean
  least := by
    rw [advance_append]
    exact Int.add_le_add early.least late.least
  most := by
    rw [advance_append]
    exact Int.add_le_add early.most late.most

theorem printed_short {size : Nat} {text : Bytes} (short : text.length < size) :
    printed size text = text :=
  List.take_of_length_le (Nat.le_sub_one_of_lt short)

/-- A number that is in range is that of a natural number. -/
theorem natural (value : Int) (limit : Nat) (range : 0 ≤ value ∧ value < limit) :
    ∃ n : Nat, n < limit ∧ value = n :=
  ⟨value.toNat, by omega, by omega⟩

variable {timeInfo : Tm}

theorem hourOf_range (valid : timeInfo.Valid) :
    0 ≤ hourOf timeInfo ∧ hourOf timeInfo < (13 : Nat) := by
  have range := valid.hour
  unfold hourOf
  dsimp only
  split_ifs <;> omega

theorem timeText_wide (valid : timeInfo.Valid) : Wide font16x8 39 39 (timeText timeInfo) := by
  obtain ⟨hour, small, same⟩ := natural _ 13 (hourOf_range valid)
  obtain ⟨min, below, minute⟩ := natural timeInfo.tmMin 60 (by
    have range := valid.min
    omega)
  have hours : ∀ hour < 13, Wide font16x8 18 18 (wide (bytes " ") (hour : Nat)) ∧
      (wide (bytes " ") (hour : Nat)).length = 2 := by decide +kernel
  have mins : ∀ min < 60, Wide font16x8 18 18 (wide (bytes "0") (min : Nat)) ∧
      (wide (bytes "0") (min : Nat)).length = 2 := by decide +kernel
  have colon : Wide font16x8 3 3 (bytes ":") := by decide +kernel
  obtain ⟨left, two⟩ := hours hour small
  obtain ⟨right, more⟩ := mins min below
  rw [timeText, same, minute, printed_short]
  · exact (left.append colon).append right
  · rw [List.length_append, List.length_append, two, more]
    decide

theorem amPmText_wide (timeInfo : Tm) : Wide font5x4 10 10 (amPmText timeInfo) := by
  unfold amPmText
  split <;> decide +kernel

theorem weekDayStr_wide (timeInfo : Tm) : Wide font7x5 0 54 (weekDayStr timeInfo) := by
  have known : ∀ index < 7, Wide font7x5 0 54 (daysOfWeek[index]?.getD (bytes "DDD")) := by
    decide +kernel
  unfold weekDayStr
  split
  · exact known _ (by omega)
  · decide +kernel

theorem dateText_wide (valid : timeInfo.Valid) : Wide font8x4 0 37 (dateText timeInfo) := by
  obtain ⟨mon, small, month⟩ := natural timeInfo.tmMon 12 (by
    have range := valid.mon
    omega)
  obtain ⟨mday, below, day⟩ := natural timeInfo.tmMday 32 (by
    have range := valid.mday
    omega)
  have first : ∀ mon < 12, Wide font8x4 0 15
      (printed 4 (months[(mon : Nat)]?.getD (bytes "MMM"))) := by decide +kernel
  have last : ∀ mday < 32, Wide font8x4 0 20
      (printed (DisplayInternal.messageMaxSize - 4) (getDayOfMonthStr (mday : Nat))) := by
    decide +kernel
  have blank : Wide font8x4 0 2 (bytes " ") := by decide +kernel
  have inside : timeInfo.tmMon ≥ 0 ∧ timeInfo.tmMon ≤ 11 := by omega
  rw [dateText, monthStr, if_pos inside, month, day]
  exact ((first mon small).append blank).append (last mday below)

/-- The digits take eight to ten columns, and the blank behind them two. -/
theorem secondsText_wide (valid : timeInfo.Valid) :
    ∃ digits, secondsText timeInfo = digits ++ bytes " " ∧ Wide font5x4 8 10 digits := by
  obtain ⟨sec, small, second⟩ := natural timeInfo.tmSec 61 (by
    have range := valid.sec
    omega)
  have digits : ∀ sec < 61, Wide font5x4 8 10 (wide (bytes "0") (sec : Nat)) ∧
      (wide (bytes "0") (sec : Nat)).length = 2 := by decide +kernel
  obtain ⟨wide, two⟩ := digits sec small
  refine ⟨_, ?_, wide⟩
  rw [secondsText, second, printed_short]
  rw [List.length_append, two]
  decide

theorem blank_wide : Wide font5x4 2 2 (bytes " ") := by decide +kernel

theorem valueText_clean {unit : Bytes} (clean : 0 ∉ unit) (value : Bytes) :
    0 ∉ valueText unit value := by
  intro inside
  have whole := List.mem_of_mem_take inside
  rcases List.mem_append.mp whole with early | late
  · exact absurd (List.mem_takeWhile_imp early) (by decide)
  · exact clean late

end OClock.FaceTexts
