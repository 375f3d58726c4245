import OClock.Text

/-!
The widths and heights of the fonts of ht1632, and how displayInternal.cpp selects them. A
`Font` is any number that fits the enumeration's type; one outside it selects the first font.
-/

namespace OClock.Fonts
open Text

def comSize : Int := 16
def outSize : Int := 128

def font5x4Width : List Int := [
  1, 1, 3, 5, 4, 5, 4, 1, 2, 2, 3, 5, 2, 3, 1, 4,
  3, 3, 4, 3, 4, 3, 4, 4, 4, 4, 1, 2, 3, 3, 3, 4,
  5, 3, 3, 4, 3, 3, 3, 4, 4, 3, 3, 4, 3, 5, 5, 4,
  3, 5, 3, 4, 3, 4, 5, 5, 3, 3, 4, 2, 4, 2, 3, 3]

def font8x4Width : List Int := [
  1, 3, 3, 4, 4, 4, 4, 1, 3, 3, 4, 4, 2, 4, 2, 4,
  4, 3, 4, 4, 4, 4, 4, 4, 4, 4, 1, 2, 4, 4, 4, 4,
  4, 4, 4, 4, 4, 4, 4, 4, 4, 3, 4, 4, 4, 4, 4, 4,
  4, 4, 4, 4, 4, 4, 4, 4, 4, 4, 4, 3, 4, 3, 4, 5]

def font7x5Width : List Int := [
  1, 3, 3, 5, 5, 5, 5, 1, 3, 3, 5, 5, 2, 5, 2, 5,
  5, 3, 5, 5, 5, 5, 5, 5, 5, 5, 2, 2, 4, 5, 4, 5,
  5, 5, 5, 5, 5, 5, 5, 5, 5, 3, 5, 5, 5, 5, 5, 5,
  5, 5, 5, 5, 5, 5, 5, 5, 5, 5, 5, 3, 5, 3, 5, 5]

def font8x6Width : List Int := [
  2, 4, 5, 5, 5, 5, 5, 2, 4, 4, 5, 6, 2, 6, 2, 6,
  6, 4, 6, 6, 6, 6, 6, 6, 6, 6, 2, 2, 5, 6, 5, 6,
  5, 6, 6, 6, 6, 6, 6, 6, 6, 2, 5, 6, 5, 6, 6, 6,
  6, 6, 6, 6, 6, 6, 6, 6, 6, 6, 6, 4, 6, 4, 6, 5]

def font16x8Width : List Int := [
  8, 3, 5, 8, 8, 7, 8, 2, 5, 5, 8, 6, 3, 6, 2, 8,
  8, 8, 8, 8, 8, 8, 8, 8, 8, 8, 2, 5, 6, 8, 6, 8,
  8, 8, 8, 8, 8, 8, 8, 8, 8, 8, 8, 8, 8, 8, 8, 8,
  8, 8, 8, 8, 8, 8, 8, 8, 8, 8, 8, 5, 8, 5, 7, 8]

abbrev Font := UInt32

def font5x4 : Font := 0
def font8x4 : Font := 1
def font7x5 : Font := 2
def font8x6 : Font := 3
def font16x8 : Font := 4
def fontLast : Font := 5

def getFontWidth (font : Font) : List Int :=
  if font = font5x4 then font5x4Width
  else if font = font8x4 then font8x4Width
  else if font = font7x5 then font7x5Width
  else if font = font8x6 then font8x6Width
  else if font = font16x8 then font16x8Width
  else font5x4Width

def getFontHeight (font : Font) : Int :=
  if font = font5x4 then 5
  else if font = font8x4 then 8
  else if font = font7x5 then 7
  else if font = font8x6 then 8
  else if font = font16x8 then 16
  else 5

def getFontGlyphStep (font : Font) : Int :=
  if font = font5x4 then 10
  else if font = font8x4 then 10
  else if font = font7x5 then 12
  else if font = font8x6 then 12
  else if font = font16x8 then 32
  else 10

/-- The glyph bytes of the fonts, as long as the arrays of the source. -/
structure FontArrays where
  font5x4 : Vector UInt8 640
  font8x4 : Vector UInt8 640
  font7x5 : Vector UInt8 768
  font8x6 : Vector UInt8 768
  font16x8 : Vector UInt8 2048

def getFontData (arrays : FontArrays) (font : Font) : List UInt8 :=
  if font = font5x4 then arrays.font5x4.toList
  else if font = font8x4 then arrays.font8x4.toList
  else if font = font7x5 then arrays.font7x5.toList
  else if font = font8x6 then arrays.font8x6.toList
  else if font = font16x8 then arrays.font16x8.toList
  else arrays.font5x4.toList

def getNextFont (font : Font) : Font :=
  let nextFont := font + 1
  if fontLast ≤ nextFont then 0 else nextFont

/-- The glyph of a byte, if the fonts have one. Lower case is shown as upper case. -/
def glyph (c : UInt8) : Option Nat :=
  let currchar : Int := (c.toNat : Int) - 32
  let currchar := if 65 ≤ currchar ∧ currchar ≤ 90 then currchar - 32 else currchar
  if currchar < 0 ∨ 64 ≤ currchar then none else some currchar.toNat

/-- The sum over the glyphs of a text with a gap after each, less the last gap. -/
def getTextWidth (text : Bytes) (fontWidth : List Int) (gutterSpace : Int) : Int :=
  (text.filterMap glyph).foldl
    (fun wd currchar => wd + (fontWidth[currchar]?.getD 0 + gutterSpace)) 0 - gutterSpace

example : getTextWidth (bytes "Ab\x7b!") (getFontWidth 7) 1 = 9 := by decide

/-! ### The sizes of the fonts -/

theorem getFontHeight_range (font : Font) : 4 < getFontHeight font ∧ getFontHeight font ≤ 16 := by
  unfold getFontHeight
  split_ifs <;> decide

theorem getFontWidth_range (font : Font) :
    ∀ width ∈ getFontWidth font, 0 ≤ width ∧ width ≤ 8 := by
  unfold getFontWidth
  split_ifs <;> decide

theorem glyphWidth_range (font : Font) (currchar : Nat) :
    0 ≤ (getFontWidth font)[currchar]?.getD 0 ∧ (getFontWidth font)[currchar]?.getD 0 ≤ 8 := by
  cases found : (getFontWidth font)[currchar]? with
  | none => decide
  | some width => exact getFontWidth_range font width (List.mem_of_getElem? found)

theorem getTextWidth_range (text : Bytes) (font : Font) :
    -1 ≤ getTextWidth text (getFontWidth font) 1 ∧
      getTextWidth text (getFontWidth font) 1 < 9 * text.length := by
  have sums : ∀ (glyphs : List Nat) (wd : Int),
      wd ≤ glyphs.foldl (fun wd currchar => wd + ((getFontWidth font)[currchar]?.getD 0 + 1)) wd ∧
        glyphs.foldl (fun wd currchar => wd + ((getFontWidth font)[currchar]?.getD 0 + 1)) wd ≤
          wd + 9 * glyphs.length := by
    intro glyphs
    induction glyphs with
    | nil => exact fun wd => ⟨Int.le_refl wd, Int.le_of_eq (Int.add_zero wd).symm⟩
    | cons currchar rest ih =>
        intro wd
        have width := glyphWidth_range font currchar
        have later := ih (wd + ((getFontWidth font)[currchar]?.getD 0 + 1))
        rw [List.foldl_cons, List.length_cons]
        omega
  have few := List.length_filterMap_le glyph text
  have sum := sums (text.filterMap glyph) 0
  rw [getTextWidth]
  omega

end OClock.Fonts
