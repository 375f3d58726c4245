import OClock.ImagePixels
import OClock.TextCulling

/-!
`drawText` and `drawImage` with every access checked: `none` is an access outside an array. The
checked drawing of a text always has a result, and it is what the drawing without checks gives.
-/

namespace OClock.TextBounds
open Ht1632 ImageColumn ImagePixels TextCulling Trace

/-- An access of an array, which has no result outside. -/
def entry {α : Type} (array : List α) (index : Int) : Option α :=
  if index < 0 then none else array[index.toNat]?

/-- `GET_ADDR_FROM_X_Y`, which may leave the buffer. -/
def addressFromXY (x y : Int) : Int :=
  x.tmod 16 * 2 + (y.tmod 8).tdiv 4 + getChipFromXY x y * 32

def putAt (cells : Cells) (x y : Int) (mask bits : UInt8) : Option Cells :=
  let address := addressFromXY x y
  if 0 ≤ address ∧ address < addrSpaceSize then some (put cells address.toNat mask bits) else none

/-- An image in an array, and where it is drawn. -/
structure Source where
  data : List UInt8
  width : Int
  height : Int
  x : Int
  y : Int
  offset : Int

def Source.image (source : Source) : Image where
  img index := source.data[index.toNat]?.getD 0
  width := source.width
  height := source.height
  x := source.x
  y := source.y
  offset := source.offset

@[simp] theorem image_height (source : Source) : source.image.height = source.height := rfl
@[simp] theorem image_width (source : Source) : source.image.width = source.width := rfl
@[simp] theorem image_x (source : Source) : source.image.x = source.x := rfl
@[simp] theorem image_y (source : Source) : source.image.y = source.y := rfl

def readAt (source : Source) (i j : Int) : Option UInt8 :=
  entry source.data (cellsPerColumn source.height * i + j.tdiv 4 + source.offset)

def copyShiftedAt (source : Source) (i j : Int) (column : Column) : Option Column :=
  let locY := j + source.y
  let carry := UInt8.ofNat source.image.carryoverNum.toNat
  let back := 4 - carry
  if !column.carryoverValid then
    let mask := (0x0f <<< carry) &&& maskBottom source.height locY (4 - (source.height - j))
    if locY > 0 then do
      let row ← readAt source i j
      let cells ← putAt column.cells (i + source.x) locY mask ((row <<< carry) &&& mask)
      return { column with cells := cells, carryoverValid := true }
    else some { column with carryoverValid := true }
  else if j ≥ source.height then do
    let mask := (0x0f >>> back) &&& 0x0f
    let cells ← putAt column.cells (i + source.x) locY mask ((column.carryoverY >>> back) &&& mask)
    return { column with cells := cells }
  else do
    let mask := maskBottom source.height locY
      (4 - (source.height + source.image.carryoverNum - j))
    let row ← readAt source i j
    let cells ← putAt column.cells (i + source.x) locY mask
      (((row <<< carry) &&& mask) ||| ((column.carryoverY >>> back) &&& mask))
    return { column with cells := cells }

def drawRowAt (source : Source) (i j : Int) (column : Column) : Option Column :=
  let locY := j + source.y
  if locY ≤ -4 ∨ locY ≥ comSize then some column
  else if locY.tmod 4 = 0 then do
    let mask := maskBottom source.height locY (4 - (source.height - j))
    let row ← readAt source i j
    let cells ← putAt column.cells (i + source.x) locY mask (row &&& mask)
    return { column with cells := cells }
  else do
    let copied ← copyShiftedAt source i j column
    if j < source.height then
      let row ← readAt source i j
      return { copied with carryoverY := row }
    else return copied

def drawRowsAt (source : Source) (i : Int) : Nat → Int → Column → Option Column
  | 0, _, column => some column
  | turns + 1, j, column =>
      if j < rowLimit source.image column then do
        drawRowsAt source i turns (j + 4) (← drawRowAt source i j column)
      else some column

def drawColumnAt (source : Source) (cells : Cells) (i : Nat) : Option Cells :=
  let locX := i + source.x
  if locX < 0 ∨ locX ≥ outSize then some cells
  else do return (← drawRowsAt source i (rowTurns source.height) 0 ⟨cells, 0, false⟩).cells

def drawImageAt (source : Source) (display : Display) : Option Display :=
  match display.tgtBuffer with
  | none => some display
  | some t =>
      if source.y + source.height < 0 ∨ source.x + source.width < 0 ∨ source.y > comSize ∨
          source.x > outSize then some display
      else do
        let cells ← (List.range source.width.toNat).foldlM (drawColumnAt source) (display.mem t)
        return withCells display t cells

/-- A font as `drawText` gets it. -/
structure Tables where
  font : List UInt8
  fontWidth : List Int
  fontHeight : Int
  fontGlyphStep : Int

def Tables.plain (tables : Tables) : Font :=
  tableFont (fun index => tables.font[index.toNat]?.getD 0) tables.fontWidth tables.fontHeight
    tables.fontGlyphStep

def drawCharAt (tables : Tables) (currX y gutterSpace currchar width : Int) (display : Display) :
    Option Display := do
  let glyph ← drawImageAt ⟨tables.font, width, tables.fontHeight, currX, y,
    currchar * tables.fontGlyphStep⟩ display
  (List.range gutterSpace.toNat).foldlM
    (fun display (j : Nat) =>
      drawImageAt ⟨tables.font, 1, tables.fontHeight, currX + width + j, y, 0⟩ display)
    glyph

def copyTextAt (tables : Tables) (y gutterSpace : Int) :
    List UInt8 → Int → Display → Option Display
  | [], _, display => some display
  | c :: rest, currX, display =>
      if c = 0 then some display
      else
        match currChar c with
        | none => copyTextAt tables y gutterSpace rest currX display
        | some currchar =>
            if currX ≥ outSize then some display
            else do
              let width ← entry tables.fontWidth currchar
              let drawn ←
                if currX + (width + gutterSpace) ≥ 0 then
                  drawCharAt tables currX y gutterSpace currchar width display
                else some display
              copyTextAt tables y gutterSpace rest (currX + (width + gutterSpace)) drawn

def drawTextAt (tables : Tables) (text : List UInt8) (x y gutterSpace : Int) (display : Display) :
    Option Display :=
  if y + tables.fontHeight < 0 ∨ y ≥ comSize then some display
  else copyTextAt tables y gutterSpace text x display

/-! ### The buffer of a board -/

theorem address_range {x y : Int} (column : 0 ≤ x ∧ x < outSize) (near : -4 < y ∧ y < comSize) :
    0 ≤ addressFromXY x y ∧ addressFromXY x y < addrSpaceSize := by
  obtain ⟨left, right⟩ := column
  obtain ⟨top, bottom⟩ := near
  rw [outSize] at right
  rw [comSize] at bottom
  have row : 0 ≤ (y.tmod 8).tdiv 4 ∧ (y.tmod 8).tdiv 4 ≤ 1 := by
    rcases Int.lt_or_le y 0 with above | below
    · have places : y = -3 ∨ y = -2 ∨ y = -1 := by omega
      rcases places with rfl | rfl | rfl <;> decide
    · rw [Int.tmod_eq_emod_of_nonneg below, Int.tdiv_eq_ediv_of_nonneg (by omega)]
      omega
  have size : (addrSpaceSize : Int) = 512 := rfl
  rw [addressFromXY, getChipFromXY, Int.tmod_eq_emod_of_nonneg left,
    Int.tdiv_eq_ediv_of_nonneg left, Int.tdiv_eq_ediv_of_nonneg left]
  split <;> omega

theorem putAt_some (cells : Cells) {x y : Int} (column : 0 ≤ x ∧ x < outSize)
    (near : -4 < y ∧ y < comSize) (mask bits : UInt8) :
    putAt cells x y mask bits = some (put cells (getAddrFromXY x y) mask bits) :=
  if_pos (address_range column near)

/-! ### An image in its array -/

/-- Every word of the image is in its array. -/
structure Fits (source : Source) : Prop where
  offset : 0 ≤ source.offset
  words : cellsPerColumn source.height * source.width + source.offset ≤ source.data.length
  rows : source.height ≤ 4 * cellsPerColumn source.height

theorem entry_some {α : Type} {array : List α} {index : Int}
    (inside : 0 ≤ index ∧ index < array.length) (other : α) :
    entry array index = some (array[index.toNat]?.getD other) := by
  have room : index.toNat < array.length := by omega
  rw [entry, if_neg (by omega), List.getElem?_eq_getElem room, Option.getD_some]

variable {source : Source} {i j : Int} {column : Column}

theorem readAt_some (fits : Fits source) (word : 0 ≤ i ∧ i < source.width)
    (row : 0 ≤ j ∧ j < source.height) : readAt source i j = some (source.image.read i j) := by
  have quotient : j.tdiv 4 = j / 4 := Int.tdiv_eq_ediv_of_nonneg row.1
  have cells : 0 ≤ cellsPerColumn source.height := by
    have rows := fits.rows
    omega
  have before : 0 ≤ cellsPerColumn source.height * i := Int.mul_nonneg cells word.1
  have within : cellsPerColumn source.height * (i + 1) ≤
      cellsPerColumn source.height * source.width := Int.mul_le_mul_of_nonneg_left word.2 cells
  have rows := fits.rows
  have words := fits.words
  have offset := fits.offset
  rw [Int.mul_add, Int.mul_one] at within
  exact entry_some (by rw [quotient]; omega) 0

/-- A turn of the loop over the rows accesses the arrays inside their bounds. -/
theorem copyShiftedAt_some (fits : Fits source) (word : 0 ≤ i ∧ i < source.width)
    (visible : 0 ≤ i + source.x ∧ i + source.x < outSize) (start : 0 ≤ j)
    (near : -4 < j + source.y ∧ j + source.y < comSize)
    (limit : j < rowLimit source.image column) :
    copyShiftedAt source i j column = some (copyShifted source.image i j column) := by
  have puts := fun mask bits => putAt_some column.cells visible near mask bits
  cases valid : column.carryoverValid with
  | false =>
      have row : j < source.height := by
        simpa only [rowLimit, valid, Bool.false_eq_true, if_false, image_height] using limit
      have read := readAt_some fits word ⟨start, row⟩
      by_cases below : j + source.y > 0
      · simp [copyShiftedAt, copyShifted, valid, below, read, puts]
      · simp [copyShiftedAt, copyShifted, valid, below]
  | true =>
      by_cases last : j ≥ source.height
      · simp [copyShiftedAt, copyShifted, valid, last, puts]
      · have read := readAt_some fits word ⟨start, Int.lt_of_not_ge last⟩
        simp [copyShiftedAt, copyShifted, valid, last, read, puts]

theorem drawRowAt_some (fits : Fits source) (word : 0 ≤ i ∧ i < source.width)
    (visible : 0 ≤ i + source.x ∧ i + source.x < outSize) (start : 0 ≤ j) (group : j % 4 = 0)
    (carried : Carried source.image i j column) (limit : j < rowLimit source.image column) :
    drawRowAt source i j column = some (drawRow source.image i j column) := by
  by_cases out : j + source.y ≤ -4 ∨ j + source.y ≥ comSize
  · have checked : drawRowAt source i j column = some column := if_pos out
    have plain : drawRow source.image i j column = column := if_pos out
    rw [checked, plain]
  · have near : -4 < j + source.y ∧ j + source.y < comSize := by omega
    by_cases aligned : (j + source.y).tmod 4 = 0
    · have turn : Turn source.image i j := ⟨group, start, visible, near⟩
      -- Nothing is carried over, so the row is one of the image.
      have none := carried.aligned_fresh ((boundary turn).mp aligned)
      have row : j < source.height := by
        simpa only [rowLimit, none, Bool.false_eq_true, if_false, image_height] using limit
      have read := readAt_some fits word ⟨start, row⟩
      simp [drawRowAt, drawRow, out, aligned, read, putAt_some column.cells visible near]
    · have copied := copyShiftedAt_some fits word visible start near limit
      by_cases row : j < source.height
      · have read := readAt_some fits word ⟨start, row⟩
        simp [drawRowAt, drawRow, out, aligned, copied, row, read]
      · simp [drawRowAt, drawRow, out, aligned, copied, row]

theorem drawRowsAt_some (fits : Fits source) (word : 0 ≤ i ∧ i < source.width)
    (visible : 0 ≤ i + source.x ∧ i + source.x < outSize) (turns : Nat) (start : 0 ≤ j)
    (group : j % 4 = 0) (carried : Carried source.image i j column) :
    drawRowsAt source i turns j column = some (drawRows source.image i turns j column) := by
  induction turns generalizing j column with
  | zero => rfl
  | succ turns ih =>
      rw [drawRowsAt, drawRows]
      split
      · next more =>
        rw [drawRowAt_some fits word visible start group carried more]
        exact ih (by omega) (by omega) (drawRow_carried carried group start visible)
      · rfl

theorem drawColumnAt_some (fits : Fits source) (cells : Cells) {i : Nat}
    (inside : (i : Int) < source.width) :
    drawColumnAt source cells i = some (drawColumn source.image cells i) := by
  by_cases hidden : (i : Int) + source.x < 0 ∨ (i : Int) + source.x ≥ outSize
  · have checked : drawColumnAt source cells i = some cells := if_pos hidden
    have plain : drawColumn source.image cells i = cells := if_pos hidden
    rw [checked, plain]
  · have visible : 0 ≤ (i : Int) + source.x ∧ (i : Int) + source.x < outSize := by omega
    have rows := drawRowsAt_some fits ⟨by omega, inside⟩ visible (rowTurns source.height)
      (Int.le_refl 0) rfl (first_carried i cells)
    simp [drawColumnAt, drawColumn, hidden, rows]

theorem foldlM_some {State Index : Type} {checked : State → Index → Option State}
    {plain : State → Index → State} (indices : List Index)
    (same : ∀ state, ∀ index ∈ indices, checked state index = some (plain state index))
    (state : State) : indices.foldlM checked state = some (indices.foldl plain state) := by
  induction indices generalizing state with
  | nil => rfl
  | cons index rest ih =>
      rw [List.foldlM_cons, same state index List.mem_cons_self]
      exact ih (fun state other inside => same state other (List.mem_cons_of_mem index inside)) _

theorem drawImageAt_some (fits : Fits source) (display : Display) :
    drawImageAt source display = some (copyImage source.image display) := by
  rw [drawImageAt, copyImage]
  cases display.tgtBuffer with
  | none => rfl
  | some t =>
      dsimp only
      by_cases outside : source.y + source.height < 0 ∨ source.x + source.width < 0 ∨
          source.y > comSize ∨ source.x > outSize
      · rw [if_pos outside]
        exact congrArg some (if_pos outside).symm
      · have same : ∀ (cells : Cells), ∀ i ∈ List.range source.width.toNat,
            drawColumnAt source cells i = some (drawColumn source.image cells i) := by
          intro cells i inside
          have below := List.mem_range.mp inside
          exact drawColumnAt_some fits cells (by omega)
        rw [if_neg outside, foldlM_some _ same]
        exact congrArg some (if_neg outside).symm

/-! ### A text -/

/-- The tables hold every glyph that a text can ask for. -/
structure Complete (tables : Tables) : Prop where
  widths : tables.fontWidth.length = 64
  rows : tables.fontHeight ≤ 4 * cellsPerColumn tables.fontHeight
  step : 0 ≤ tables.fontGlyphStep
  glyphs : ∀ (currchar : Nat) (width : Int), tables.fontWidth[currchar]? = some width →
    cellsPerColumn tables.fontHeight * width + currchar * tables.fontGlyphStep ≤ tables.font.length
  column : cellsPerColumn tables.fontHeight ≤ tables.font.length

theorem currChar_range {c : UInt8} {currchar : Int} (found : currChar c = some currchar) :
    0 ≤ currchar ∧ currchar < 64 := by
  simp only [currChar, Option.ite_none_left_eq_some, Option.some.injEq] at found
  obtain ⟨inside, rfl⟩ := found
  rw [not_or, not_lt] at inside
  exact ⟨inside.1, Int.lt_of_not_ge inside.2⟩

variable {tables : Tables} {y gutterSpace : Int}

theorem width_some (complete : Complete tables) {currchar : Int}
    (range : 0 ≤ currchar ∧ currchar < 64) :
    entry tables.fontWidth currchar = some (tables.plain.fontWidth currchar) :=
  entry_some (by rw [complete.widths]; exact range) 0

theorem drawCharAt_some (complete : Complete tables) {currchar : Int}
    (range : 0 ≤ currchar ∧ currchar < 64) (currX : Int) (display : Display) :
    drawCharAt tables currX y gutterSpace currchar (tables.plain.fontWidth currchar) display =
      some (copyChar tables.plain currX y gutterSpace currchar display) := by
  have rows := complete.rows
  have glyph : Fits ⟨tables.font, tables.plain.fontWidth currchar, tables.fontHeight, currX, y,
      currchar * tables.fontGlyphStep⟩ := by
    refine ⟨Int.mul_nonneg range.1 complete.step, ?_, rows⟩
    have inside : currchar.toNat < tables.fontWidth.length := by
      rw [complete.widths]
      omega
    have found := List.getElem?_eq_getElem inside
    have same : tables.plain.fontWidth currchar = tables.fontWidth[currchar.toNat] := by
      show tables.fontWidth[currchar.toNat]?.getD 0 = _
      rw [found, Option.getD_some]
    have words := complete.glyphs currchar.toNat _ found
    rw [Int.toNat_of_nonneg range.1] at words
    rw [same]
    exact words
  have column : ∀ x, Fits ⟨tables.font, 1, tables.fontHeight, x, y, 0⟩ := fun x =>
    ⟨Int.le_refl 0, by simpa using complete.column, rows⟩
  have gutter := @foldlM_some Display Nat _
    (fun display (j : Nat) => copyImage ⟨tables.plain.font, 1, tables.fontHeight,
      currX + tables.plain.fontWidth currchar + j, y, 0⟩ display)
    (List.range gutterSpace.toNat) fun display j _ =>
      drawImageAt_some (column (currX + tables.plain.fontWidth currchar + j)) display
  rw [drawCharAt, drawImageAt_some glyph, Option.bind_eq_bind, Option.bind_some, gutter]
  rfl

theorem copyTextAt_some (complete : Complete tables) (text : List UInt8) (currX : Int)
    (display : Display) : copyTextAt tables y gutterSpace text currX display =
      some (copyText tables.plain y gutterSpace text currX display) := by
  induction text generalizing currX display with
  | nil => rfl
  | cons c rest ih =>
      rw [copyTextAt, copyText]
      by_cases ended : c = 0
      · rw [if_pos ended, if_pos ended]
      · rw [if_neg ended, if_neg ended]
        cases found : currChar c with
        | none => exact ih currX display
        | some currchar =>
            dsimp only
            by_cases right : currX ≥ outSize
            · rw [if_pos right, if_pos right]
            · rw [if_neg right, if_neg right, width_some complete (currChar_range found),
                Option.bind_eq_bind, Option.bind_some]
              have drawn := @drawCharAt_some tables y gutterSpace complete currchar
                (currChar_range found) currX display
              by_cases left : currX + (tables.plain.fontWidth currchar + gutterSpace) ≥ 0
              · rw [if_pos left, if_pos left, drawn]
                exact ih _ _
              · rw [if_neg left, if_neg left]
                exact ih _ _

/-- A text whose tables are complete is drawn without an access outside an array. -/
theorem drawTextAt_some (complete : Complete tables) (text : List UInt8) (x : Int)
    (display : Display) : drawTextAt tables text x y gutterSpace display =
      some (final observe display (drawText text x y tables.plain gutterSpace display)) := by
  rw [drawText, change, final_cons, final_nil, observe, drawTextAt]
  by_cases outside : y + tables.fontHeight < 0 ∨ y ≥ comSize
  · rw [if_pos outside]
    exact congrArg some (if_pos outside).symm
  · rw [if_neg outside, copyTextAt_some complete]
    exact congrArg some (if_neg outside).symm

/-! ### The fonts -/

/-- What displayInternal.cpp gives `drawText` for a font. -/
def fontTables (arrays : Fonts.FontArrays) (font : Fonts.Font) : Tables where
  font := Fonts.getFontData arrays font
  fontWidth := Fonts.getFontWidth font
  fontHeight := Fonts.getFontHeight font
  fontGlyphStep := Fonts.getFontGlyphStep font

/-- Every glyph and a gutter column lie in an array of this length. -/
abbrev Holds (length : Nat) (fontWidth : List Int) (fontHeight fontGlyphStep : Int) : Prop :=
  fontWidth.length = 64 ∧ fontHeight ≤ 4 * cellsPerColumn fontHeight ∧ 0 ≤ fontGlyphStep ∧
    cellsPerColumn fontHeight ≤ length ∧
    ∀ currchar : Nat, currchar < 64 → cellsPerColumn fontHeight * fontWidth[currchar]?.getD 0 +
      currchar * fontGlyphStep ≤ length

theorem complete_of {font : List UInt8} {length : Nat} {fontWidth : List Int}
    {fontHeight fontGlyphStep : Int} (size : font.length = length)
    (holds : Holds length fontWidth fontHeight fontGlyphStep) :
    Complete ⟨font, fontWidth, fontHeight, fontGlyphStep⟩ := by
  obtain ⟨widths, rows, step, column, glyphs⟩ := holds
  subst size
  refine ⟨widths, rows, step, fun currchar width found => ?_, column⟩
  have inside := (List.getElem?_eq_some_iff.mp found).1
  rw [widths] at inside
  have bound := glyphs currchar inside
  rw [found, Option.getD_some] at bound
  exact bound

/-- Every font is complete, also where a number that names none selects the first. -/
theorem fontTables_complete (arrays : Fonts.FontArrays) (font : Fonts.Font) :
    Complete (fontTables arrays font) := by
  have first : Complete ⟨arrays.font5x4.toList, Fonts.font5x4Width, 5, 10⟩ :=
    complete_of Vector.length_toList (by decide)
  rw [fontTables, Fonts.getFontData, Fonts.getFontWidth, Fonts.getFontHeight,
    Fonts.getFontGlyphStep]
  split
  · exact first
  split
  · exact complete_of Vector.length_toList (by decide)
  split
  · exact complete_of Vector.length_toList (by decide)
  split
  · exact complete_of Vector.length_toList (by decide)
  split
  · exact complete_of Vector.length_toList (by decide)
  · exact first

/-- Whatever the text, the font and the place, drawing a text accesses the width table, the font
and the buffer of the target inside their bounds. -/
theorem drawText_in_bounds (arrays : Fonts.FontArrays) (font : Fonts.Font) (text : List UInt8)
    (x y gutterSpace : Int) (display : Display) :
    drawTextAt (fontTables arrays font) text x y gutterSpace display =
      some (final observe display
        (drawText text x y (fontTables arrays font).plain gutterSpace display)) :=
  drawTextAt_some (fontTables_complete arrays font) text x display

end OClock.TextBounds
