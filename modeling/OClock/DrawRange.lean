import OClock.DrawSums
import OClock.Images

/-!
Where the drawing of HT1632.cpp stays in the range of `int`: what is small is drawn without an
overflow, unless its lower or its right edge is out of the range.
-/

namespace OClock.DrawRange
open Ht1632 TextBounds TextCulling ExactSums DrawSums

/-- An image of the sizes that occur. -/
structure Small (image : Image) : Prop where
  width : 0 ≤ image.width ∧ image.width ≤ 32
  height : 0 ≤ image.height ∧ image.height ≤ 16
  offset : 0 ≤ image.offset ∧ image.offset ≤ 4096

variable {image : Image} {i j : Int}

theorem address_exact {x y : Int} (column : 0 ≤ x ∧ x < outSize) (row : -4 < y ∧ y < comSize) :
    Exact (addressSums x y) := by
  obtain ⟨left, right⟩ := column
  obtain ⟨top, bottom⟩ := row
  rw [outSize] at right
  rw [comSize] at bottom
  have cell : -1 ≤ (y.tmod 8).tdiv 4 ∧ (y.tmod 8).tdiv 4 ≤ 1 := by
    rcases Int.lt_or_le y 0 with above | below
    · have places : y = -3 ∨ y = -2 ∨ y = -1 := by omega
      rcases places with rfl | rfl | rfl <;> decide
    · rw [Int.tmod_eq_emod_of_nonneg below, Int.tdiv_eq_ediv_of_nonneg (by omega)]
      omega
  unfold addressSums addressFromXY getChipFromXY
  rw [Int.tmod_eq_emod_of_nonneg left, Int.tdiv_eq_ediv_of_nonneg left,
    Int.tdiv_eq_ediv_of_nonneg left]
  generalize (y.tmod 8).tdiv 4 = half at cell
  simp only [exact_cons, exact_nil, and_true]
  split
  all_goals refine ⟨?_, ?_, ?_, ?_, ?_, ?_, ?_⟩ <;> apply isInt_small <;> omega

theorem cellsPerColumn_small {height : Int} (small : height ≤ 16) :
    0 ≤ cellsPerColumn height ∧ cellsPerColumn height ≤ 4 := by
  have whole : floatOfNat height.toNat = height.toNat := if_pos (by
    rw [Nat.one_shiftLeft]
    omega)
  rw [cellsPerColumn, whole]
  omega

theorem read_exact (small : Small image) (column : 0 ≤ i ∧ i ≤ 32) (row : 0 ≤ j ∧ j ≤ 64) :
    Exact (readSums image i j) := by
  obtain ⟨none, few⟩ := cellsPerColumn_small small.height.2
  have low : 0 ≤ cellsPerColumn image.height * i := Int.mul_nonneg none column.1
  have high : cellsPerColumn image.height * i ≤ 4 * 32 :=
    Int.mul_le_mul few column.2 column.1 (by decide)
  have offset := small.offset
  unfold readSums
  rw [Int.tdiv_eq_ediv_of_nonneg row.1]
  simp only [exact_cons, exact_nil, and_true]
  refine ⟨?_, ?_, ?_⟩ <;> apply isInt_small <;> omega

theorem mask_exact {rows : Int} (small : Small image) (range : 0 ≤ rows ∧ rows ≤ 32)
    (row : 0 ≤ j ∧ j ≤ 64) (near : -4 < j + image.y ∧ j + image.y < comSize) :
    Exact (maskSums image rows j) := by
  have height := small.height
  rw [comSize] at near
  unfold maskSums
  simp only [exact_cons, exact_nil, and_true]
  refine ⟨?_, ?_, ?_⟩ <;> apply isInt_small <;> omega

theorem row_exact (small : Small image) (column : 0 ≤ i ∧ i ≤ 32)
    (visible : 0 ≤ i + image.x ∧ i + image.x < outSize) (row : 0 ≤ j ∧ j ≤ 64)
    (place : -16 ≤ image.y ∧ image.y ≤ 16) (carryoverValid : Bool) :
    Exact (rowSums image i j carryoverValid) := by
  have height := small.height
  have carry : 0 ≤ image.carryoverNum ∧ image.carryoverNum < 4 := by
    unfold Image.carryoverNum
    omega
  have reads := read_exact small column row
  unfold rowSums
  dsimp only
  rw [exact_cons]
  refine ⟨isInt_small (by omega) (by omega), ?_⟩
  by_cases outside : j + image.y ≤ -4 ∨ j + image.y ≥ comSize
  · rw [if_pos outside]
    exact exact_nil
  · have near : -4 < j + image.y ∧ j + image.y < comSize := by omega
    have addresses := address_exact visible near
    have mask := @mask_exact image j image.height small (by omega) row near
    rw [if_neg outside]
    split
    · exact exact_append.mpr ⟨exact_append.mpr ⟨mask, addresses⟩, reads⟩
    · refine exact_append.mpr ⟨?_, ?_⟩
      · have carried :=
          @mask_exact image j (image.height + image.carryoverNum) small (by omega) row near
        have four : IsInt (4 - image.carryoverNum) := isInt_small (by omega) (by omega)
        unfold shiftedSums
        dsimp only
        split
        · split
          · exact exact_append.mpr ⟨exact_append.mpr ⟨mask, addresses⟩, reads⟩
          · exact exact_nil
        · split
          · exact exact_cons.mpr ⟨four, addresses⟩
          · simp only [exact_append, exact_cons]
            exact ⟨⟨⟨isInt_small (by omega) (by omega), four, carried⟩, addresses⟩, reads⟩
      · split
        · exact reads
        · exact exact_nil

/-- The rows of a column, whatever the drawing has carried over. -/
theorem rows_exact (small : Small image) (column : 0 ≤ i ∧ i ≤ 32)
    (visible : 0 ≤ i + image.x ∧ i + image.x < outSize)
    (place : -16 ≤ image.y ∧ image.y ≤ 16) (turns : Nat) (start : 0 ≤ j)
    (few : j + 4 * turns ≤ 32) (drawn : Column) :
    Exact (rowsSums image i turns j drawn.carryoverValid) := by
  have height := small.height
  induction turns generalizing j drawn with
  | zero => exact exact_nil
  | succ turns ih =>
      rw [rowsSums_drawRows, exact_append]
      constructor
      · split
        · exact exact_cons.mpr ⟨isInt_small (by omega) (by omega), exact_nil⟩
        · exact exact_nil
      · have limit := rowLimit_le image drawn
        by_cases more : j < rowLimit image drawn
        · rw [if_pos more, exact_append, exact_cons]
          exact ⟨row_exact small column visible ⟨start, by omega⟩ place _,
            isInt_small (by omega) (by omega), ih (by omega) (by omega) _⟩
        · rw [if_neg more]
          exact exact_nil

theorem column_exact (small : Small image) {i : Nat} (column : (i : Int) ≤ 32)
    (sideways : -32 ≤ image.x ∧ image.x ≤ outSize) (place : -16 ≤ image.y ∧ image.y ≤ 16) :
    Exact (columnSums image i) := by
  have height := small.height
  have carry : 0 ≤ image.carryoverNum ∧ image.carryoverNum < 4 := by
    unfold Image.carryoverNum
    omega
  have right : outSize = 128 := rfl
  unfold columnSums
  simp only [exact_append, exact_cons, exact_nil, and_true]
  refine ⟨⟨isInt_small (by omega) (by omega), isInt_small (by omega) (by omega), ?_⟩,
    isInt_small (by omega) (by omega)⟩
  split
  · exact exact_nil
  · have turns : rowTurns image.height + 1 ≤ 6 := by
      unfold rowTurns
      omega
    exact rows_exact small ⟨by omega, column⟩ (by omega) place _ (Int.le_refl 0) (by omega)
      ⟨.replicate _ 0, 0, false⟩

/-- A small image is drawn without an overflow where its edges are in the range. -/
theorem image_exact_iff (small : Small image) (x : IsInt image.x) (y : IsInt image.y) :
    Exact (imageSums image) ↔ image.y + image.height ≤ intMax ∧
      (0 ≤ image.y + image.height → image.x + image.width ≤ intMax) := by
  obtain ⟨left, _⟩ := x
  obtain ⟨top, _⟩ := y
  have width := small.width
  have height := small.height
  have inside : IsInt (image.y + image.height) ↔ image.y + image.height ≤ intMax :=
    and_iff_right (by omega)
  have beside : IsInt (image.x + image.width) ↔ image.x + image.width ≤ intMax :=
    and_iff_right (by omega)
  unfold imageSums
  rw [exact_cons, inside]
  refine and_congr_right fun _ => ?_
  split
  · next above => exact iff_of_true exact_nil fun below => absurd above (by omega)
  · next below =>
    rw [exact_cons, beside, forall_prop_of_true (by omega)]
    apply and_iff_left
    split
    · exact exact_nil
    · next near =>
      -- Past the tests of the edges every place is near the screen.
      rw [comSize, outSize] at near
      refine exact_flatMap.mpr fun i member => ?_
      have few := List.mem_range.mp member
      exact column_exact small (by omega) (by rw [outSize]; omega) (by omega)

/-! ### Texts -/

/-- A font of the sizes that occur. -/
structure SmallFont (font : Font) : Prop where
  height : 0 ≤ font.fontHeight ∧ font.fontHeight ≤ 16
  widths : ∀ currchar, 0 ≤ font.fontWidth currchar ∧ font.fontWidth currchar ≤ 8
  step : 0 ≤ font.fontGlyphStep ∧ font.fontGlyphStep ≤ 32

theorem index_exact (c : UInt8) : Exact (indexSums c) := by
  have byte := c.toNat_lt
  unfold indexSums
  rw [exact_cons]
  refine ⟨isInt_small (by omega) (by omega), ?_⟩
  split
  · exact exact_cons.mpr ⟨isInt_small (by omega) (by omega), exact_nil⟩
  · exact exact_nil

variable {font : Font} {y currX : Int}

/-- An image of a glyph or of a gutter column on the screen. -/
theorem glyph_exact (small : SmallFont font) {width x offset : Int}
    (columns : 0 ≤ width ∧ width ≤ 32) (words : 0 ≤ offset ∧ offset ≤ 4096)
    (sideways : -65536 ≤ x ∧ x ≤ 1024) (place : 0 ≤ y + font.fontHeight ∧ y ≤ 16) :
    Exact (imageSums ⟨font.font, width, font.fontHeight, x, y, offset⟩) := by
  have height := small.height
  have top : intMax = 2147483647 := rfl
  refine (image_exact_iff ⟨columns, height, words⟩ (isInt_small sideways.1 (by dsimp only; omega))
    (isInt_small (by dsimp only; omega) (by dsimp only; omega))).mpr ⟨?_, fun _ => ?_⟩
  · dsimp only
    omega
  · dsimp only
    omega

theorem char_exact (small : SmallFont font) {currchar : Int} (range : 0 ≤ currchar ∧ currchar < 64)
    (sideways : -16 ≤ currX ∧ currX ≤ outSize) (place : 0 ≤ y + font.fontHeight ∧ y ≤ 16) :
    Exact (charSums font currX y 1 currchar) := by
  have width := small.widths currchar
  have low : 0 ≤ currchar * font.fontGlyphStep := Int.mul_nonneg range.1 small.step.1
  have high : currchar * font.fontGlyphStep ≤ 64 * 32 :=
    Int.mul_le_mul (Int.le_of_lt range.2) small.step.2 small.step.1 (by decide)
  rw [outSize] at sideways
  unfold charSums
  dsimp only
  rw [exact_append, exact_cons, exact_flatMap]
  refine ⟨⟨isInt_small (by omega) (by omega), ?_⟩, fun j member => ?_⟩
  · exact glyph_exact small ⟨width.1, by omega⟩ ⟨low, by omega⟩ ⟨by omega, by omega⟩ place
  · have first := List.mem_range.mp member
    simp only [exact_append, exact_cons, exact_nil, and_true]
    exact ⟨⟨isInt_small (by omega) (by omega), isInt_small (by omega) (by omega),
      glyph_exact small (by decide) (by decide) ⟨by omega, by omega⟩ place⟩,
      isInt_small (by omega) (by omega)⟩

theorem copy_exact (small : SmallFont font) (place : 0 ≤ y + font.fontHeight ∧ y ≤ 16)
    (text : List UInt8) (x : IsInt currX) : Exact (copySums font y 1 text currX) := by
  induction text generalizing currX with
  | nil => exact exact_nil
  | cons c rest ih =>
      rw [copySums]
      split
      · exact exact_nil
      · rw [exact_append]
        refine ⟨index_exact c, ?_⟩
        cases found : currChar c with
        | none => exact ih x
        | some currchar =>
            dsimp only
            split
            · exact exact_nil
            · next onScreen =>
              -- Left of its right edge a character moves on without leaving the range.
              have range := currChar_range found
              have width := small.widths currchar
              obtain ⟨left, _⟩ := x
              have bottom : intMin = -2147483648 := rfl
              have top : intMax = 2147483647 := rfl
              rw [outSize] at onScreen
              have next : IsInt (currX + (font.fontWidth currchar + 1)) := ⟨by omega, by omega⟩
              rw [exact_append, exact_append, exact_cons, exact_cons, exact_cons, exact_cons]
              refine ⟨⟨⟨⟨by omega, by omega⟩, ⟨by omega, by omega⟩, exact_nil⟩, ?_⟩,
                isInt_small (by omega) (by omega), next, ih next⟩
              split
              · exact char_exact small range ⟨by omega, by rw [outSize]; omega⟩ place
              · exact exact_nil

/-- A text is drawn without an overflow, wherever it starts, when its lower edge is in the range. -/
theorem text_exact_iff (small : SmallFont font) (text : List UInt8) {x : Int} (column : IsInt x)
    (row : IsInt y) : Exact (textSums font text x y 1) ↔ y + font.fontHeight ≤ intMax := by
  obtain ⟨top, _⟩ := row
  have height := small.height
  have inside : IsInt (y + font.fontHeight) ↔ y + font.fontHeight ≤ intMax :=
    and_iff_right (by omega)
  unfold textSums
  rw [exact_cons, inside]
  apply and_iff_left
  split
  · exact exact_nil
  · next near =>
    rw [comSize] at near
    exact copy_exact small ⟨by omega, by omega⟩ text column

theorem width_exact (font : Fonts.Font) (text : Text.Bytes) {wd : Int} (start : 0 ≤ wd)
    (room : wd + 9 * text.length ≤ 65536) :
    Exact (widthSums (Fonts.getFontWidth font) 1 text wd) := by
  induction text generalizing wd with
  | nil => exact exact_cons.mpr ⟨isInt_small (by omega) (by simp at room; omega), exact_nil⟩
  | cons c rest ih =>
      rw [List.length_cons] at room
      push_cast at room
      rw [widthSums, exact_append]
      refine ⟨index_exact c, ?_⟩
      cases Fonts.glyph c with
      | none => exact ih start (by omega)
      | some currchar =>
          have width := Fonts.glyphWidth_range font currchar
          dsimp only
          rw [exact_cons, exact_cons]
          exact ⟨isInt_small (by omega) (by omega), isInt_small (by omega) (by omega),
            ih (by omega) (by omega)⟩

/-! ### The fonts and the images of the display -/

theorem fontTables_small (arrays : Fonts.FontArrays) (font : Fonts.Font) :
    SmallFont (fontTables arrays font).plain where
  height := by
    have range := Fonts.getFontHeight_range font
    exact ⟨by change 0 ≤ Fonts.getFontHeight font; omega, range.2⟩
  widths currchar := Fonts.glyphWidth_range font currchar.toNat
  step := by
    change 0 ≤ Fonts.getFontGlyphStep font ∧ Fonts.getFontGlyphStep font ≤ 32
    unfold Fonts.getFontGlyphStep
    split_ifs <;> decide

theorem imgArt_small (imgArt : Images.ImgArt) (x y : Int) :
    Small ((Images.getImgArtInfo imgArt).source x y).image := by
  have sizes : ∀ imgArtInfo ∈ Images.imgArts,
      (imgArtInfo.width.toNat : Int) ≤ 32 ∧ (imgArtInfo.height.toNat : Int) ≤ 16 := by decide
  have first : (0 : Int) ≤ 0 ∧ (0 : Int) ≤ 4096 := by decide
  obtain ⟨width, height⟩ := sizes _ (Images.getImgArtInfo_member imgArt)
  exact ⟨⟨Int.natCast_nonneg _, width⟩, ⟨Int.natCast_nonneg _, height⟩, first⟩

end OClock.DrawRange
