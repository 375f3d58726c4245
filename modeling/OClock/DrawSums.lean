import OClock.ExactSums
import OClock.TextBounds

/-!
The sums that `drawImage`, `drawText` and `getTextWidth` of HT1632.cpp evaluate: every result of
an addition, a subtraction, a multiplication, an increment or a decrement of `int`. A board is
always selected when the display draws, so the test for one is left out.
-/

namespace OClock.DrawSums
open Ht1632 TextBounds ExactSums

/-- `GET_ADDR_FROM_X_Y` -/
def addressSums (x y : Int) : List Int :=
  let chip := x.tdiv 16 + (if y > 7 then 2 else 0)
  [x.tmod 16 * 2, x.tmod 16 * 2 + (y.tmod 8).tdiv 4, chip, x.tdiv 32 * 2, getChipFromXY x y,
    getChipFromXY x y * 32, addressFromXY x y]

/-- The index of a word of an image. -/
def readSums (image : Image) (i j : Int) : List Int :=
  let column := cellsPerColumn image.height * i
  [column, column + j.tdiv 4, column + j.tdiv 4 + image.offset]

/-- The mask for the bottom of an image, which ends so many rows below its top. -/
def maskSums (image : Image) (rows j : Int) : List Int :=
  [rows - j, 4 - (rows - j), image.height - (j + image.y)]

/-- A row that is not on a boundary. -/
def shiftedSums (image : Image) (i j : Int) (carryoverValid : Bool) : List Int :=
  let locY := j + image.y
  let carry := image.carryoverNum
  if !carryoverValid then
    if locY > 0 then
      maskSums image image.height j ++ addressSums (i + image.x) locY ++ readSums image i j
    else []
  else if j ≥ image.height then (4 - carry) :: addressSums (i + image.x) locY
  else
    (image.height + carry) :: (4 - carry) :: maskSums image (image.height + carry) j ++
      addressSums (i + image.x) locY ++ readSums image i j

/-- One turn of the loop over the rows. -/
def rowSums (image : Image) (i j : Int) (carryoverValid : Bool) : List Int :=
  let locY := j + image.y
  locY ::
    if locY ≤ -4 ∨ locY ≥ comSize then []
    else if locY.tmod 4 = 0 then
      maskSums image image.height j ++ addressSums (i + image.x) locY ++ readSums image i j
    else
      shiftedSums image i j carryoverValid ++ if j < image.height then readSums image i j else []

/-- Whether something is carried over after a turn. -/
def nowValid (image : Image) (j : Int) (carryoverValid : Bool) : Bool :=
  let locY := j + image.y
  if locY ≤ -4 ∨ locY ≥ comSize ∨ locY.tmod 4 = 0 then carryoverValid else true

/-- The test of the loop over the rows, and its turns. -/
def rowsSums (image : Image) (i : Int) : Nat → Int → Bool → List Int
  | 0, _, _ => []
  | turns + 1, j, carryoverValid =>
      (if carryoverValid then [image.height + 4] else []) ++
        if j < (if carryoverValid then image.height + 4 else image.height) then
          rowSums image i j carryoverValid ++
            (j + 4) :: rowsSums image i turns (j + 4) (nowValid image j carryoverValid)
        else []

/-- One turn of the loop over the columns. -/
def columnSums (image : Image) (i : Nat) : List Int :=
  let locX := i + image.x
  (image.carryoverNum :: locX ::
    if locX < 0 ∨ locX ≥ outSize then []
    else rowsSums image i (rowTurns image.height + 1) 0 false) ++ [(i : Int) + 1]

def imageSums (image : Image) : List Int :=
  (image.y + image.height) ::
    if image.y + image.height < 0 then []
    else
      (image.x + image.width) ::
        if image.x + image.width < 0 ∨ image.y > comSize ∨ image.x > outSize then []
        else (List.range image.width.toNat).flatMap (columnSums image)

/-- The place of a byte in the tables of a font. -/
def indexSums (c : UInt8) : List Int :=
  let currchar : Int := c.toNat - 32
  currchar :: if currchar ≥ 65 ∧ currchar ≤ 90 then [currchar - 32] else []

/-- A character with its gutter columns. -/
def charSums (font : Font) (currX y gutterSpace currchar : Int) : List Int :=
  let width := font.fontWidth currchar
  (currchar * font.fontGlyphStep) ::
    imageSums ⟨font.font, width, font.fontHeight, currX, y, currchar * font.fontGlyphStep⟩ ++
    (List.range gutterSpace.toNat).flatMap fun (j : Nat) =>
      (currX + width) :: (currX + width + j) ::
        imageSums ⟨font.font, 1, font.fontHeight, currX + width + j, y, 0⟩ ++ [(j : Int) + 1]

/-- The loop over the characters of a text. -/
def copySums (font : Font) (y gutterSpace : Int) : List UInt8 → Int → List Int
  | [], _ => []
  | c :: rest, currX =>
      if c = 0 then []
      else
        indexSums c ++
          match currChar c with
          | none => copySums font y gutterSpace rest currX
          | some currchar =>
              if currX ≥ outSize then []
              else
                let width := font.fontWidth currchar
                [currX + width, currX + width + gutterSpace] ++
                  (if currX + width + gutterSpace ≥ 0 then
                    charSums font currX y gutterSpace currchar
                  else []) ++
                  (width + gutterSpace) :: (currX + (width + gutterSpace)) ::
                    copySums font y gutterSpace rest (currX + (width + gutterSpace))

def textSums (font : Font) (text : List UInt8) (x y gutterSpace : Int) : List Int :=
  (y + font.fontHeight) ::
    if y + font.fontHeight < 0 ∨ y ≥ comSize then [] else copySums font y gutterSpace text x

/-- `getTextWidth`, with the width so far. -/
def widthSums (fontWidth : List Int) (gutterSpace : Int) : Text.Bytes → Int → List Int
  | [], wd => [wd - gutterSpace]
  | c :: rest, wd =>
      indexSums c ++
        match Fonts.glyph c with
        | none => widthSums fontWidth gutterSpace rest wd
        | some currchar =>
            let width := fontWidth[currchar]?.getD 0
            (width + gutterSpace) :: (wd + (width + gutterSpace)) ::
              widthSums fontWidth gutterSpace rest (wd + (width + gutterSpace))

/-! ### The drawing goes as the sums say -/

theorem drawRow_valid (image : Image) (i j : Int) (column : Column) :
    (drawRow image i j column).carryoverValid = nowValid image j column.carryoverValid := by
  unfold nowValid drawRow
  dsimp only
  by_cases outside : j + image.y ≤ -4 ∨ j + image.y ≥ comSize
  · rw [if_pos outside, if_pos (by tauto)]
  · rw [if_neg outside]
    by_cases aligned : (j + image.y).tmod 4 = 0
    · rw [if_pos aligned, if_pos (by tauto)]
    · have shifted : ¬ (j + image.y ≤ -4 ∨ j + image.y ≥ comSize ∨ (j + image.y).tmod 4 = 0) := by
        tauto
      rw [if_neg aligned, if_neg shifted]
      unfold copyShifted
      dsimp only
      cases valid : column.carryoverValid with
      | false => rfl
      | true =>
          rw [Bool.not_true, if_neg Bool.false_ne_true]
          split
          · rfl
          · rfl

/-- The sums of the rows follow the loop of the drawing. -/
theorem rowsSums_drawRows (image : Image) (i : Int) (turns : Nat) (j : Int) (column : Column) :
    rowsSums image i (turns + 1) j column.carryoverValid =
      (if column.carryoverValid then [image.height + 4] else []) ++
        if j < rowLimit image column then
          rowSums image i j column.carryoverValid ++
            (j + 4) :: rowsSums image i turns (j + 4) (drawRow image i j column).carryoverValid
        else [] := by
  rw [drawRow_valid]
  rfl

end OClock.DrawSums
