import OClock.TextBounds

/-!
`drawText` on the pixels of its target: every column of the text that is on the screen shows
the dots that the font has for it.
-/

namespace OClock.TextPixels
open Ht1632 MatrixPixels ImageColumn ImagePixels TextCulling Trace

variable {font : Font} {top : Int}

/-- A dot of an image in the data of a font. -/
def glyphDot (font : Font) (offset column row : Int) : Bool :=
  bit (font.font (cellsPerColumn font.fontHeight * column + row / 4 + offset)) (row % 4).toNat

/-- The dot of a character. Behind it stands the gutter, for which the first column of the font is
drawn. -/
def charDot (font : Font) (currchar column row : Int) : Bool :=
  if column < font.fontWidth currchar then
    glyphDot font (currchar * font.fontGlyphStep) column row
  else glyphDot font 0 0 row

def textDot (font : Font) : List UInt8 → Int → Int → Bool
  | [], _, _ => false
  | c :: rest, column, row =>
      match currChar c with
      | none => textDot font rest column row
      | some currchar =>
          if column < font.fontWidth currchar + 1 then charDot font currchar column row
          else textDot font rest (column - (font.fontWidth currchar + 1)) row

/-- A font whose glyphs can be drawn: of four rows or more, in words of four bits. -/
structure Legible (font : Font) : Prop where
  height : 4 ≤ font.fontHeight ∧ font.fontHeight ≤ 255
  words : ∀ index, font.font index < 16
  widths : ∀ currchar, 0 ≤ font.fontWidth currchar

theorem Legible.advances (legible : Legible font) : Advances font 1 := ⟨by decide, legible.widths⟩

/-- The rows that every image of a text paints. -/
def PaintedRow (font : Font) (top y : Int) : Prop :=
  Painted ⟨font.font, 0, font.fontHeight, 0, top, 0⟩ y

theorem repaint {picture : Int → Int → Bool} {area : Int → Int → Prop} {before after : Cells}
    (paints : Paints picture area before after) (other : Int → Int → Bool)
    (same : ∀ x y, area x y → picture x y = other x y) : Paints other area before after where
  inside x y on there := by
    rw [← same x y there]
    exact paints.inside x y on there
  outside := paints.outside
  marks := paints.marks

/-- An image in the data of the font paints its dots. -/
theorem image_paints (legible : Legible font) {display : Display} {t : Fin 3}
    (target : display.tgtBuffer = some t) (width x offset : Int) :
    Paints (fun s y => glyphDot font offset (s - x) (y - top))
      (fun s y => (x ≤ s ∧ s < x + width) ∧ PaintedRow font top y) (display.mem t)
      ((copyImage ⟨font.font, width, font.fontHeight, x, top, offset⟩ display).mem t) :=
  @copyImage_paints ⟨font.font, width, font.fontHeight, x, top, offset⟩ display
    ⟨legible.height, legible.words⟩ t target

theorem copyImages_append (first second : List Image) (display : Display) :
    copyImages (first ++ second) display = copyImages second (copyImages first display) :=
  List.foldl_append

theorem charImages_two (font : Font) (top currX currchar : Int) :
    charImages font top 1 currX currchar =
      [⟨font.font, font.fontWidth currchar, font.fontHeight, currX, top,
          currchar * font.fontGlyphStep⟩,
        ⟨font.font, 1, font.fontHeight, currX + font.fontWidth currchar, top, 0⟩] := by
  have place : currX + font.fontWidth currchar + ((0 : Nat) : Int) =
      currX + font.fontWidth currchar := Int.add_zero _
  rw [← place]
  rfl

/-- A character paints its glyph and its gutter column. -/
theorem char_paints (legible : Legible font) (currX currchar : Int) {display : Display}
    {t : Fin 3} (target : display.tgtBuffer = some t) :
    Paints (fun s y => charDot font currchar (s - currX) (y - top))
      (fun s y => (currX ≤ s ∧ s < currX + (font.fontWidth currchar + 1)) ∧
        PaintedRow font top y)
      (display.mem t) ((copyImages (charImages font top 1 currX currchar) display).mem t) := by
  have width := legible.widths currchar
  rw [charImages_two, copyImages, List.foldl_cons, List.foldl_cons, List.foldl_nil]
  have glyph := @image_paints font top legible display t target (font.fontWidth currchar) currX
    (currchar * font.fontGlyphStep)
  have still := (@copyImage_drawn ⟨font.font, font.fontWidth currchar, font.fontHeight, currX, top,
    currchar * font.fontGlyphStep⟩ display t target).target.trans target
  have gutter := @image_paints font top legible _ t still 1 (currX + font.fontWidth currchar) 0
  -- Right of the glyph its dots are empty, as the gutter is.
  have first := repaint glyph (fun s y => charDot font currchar (s - currX) (y - top))
    fun s y there => (if_pos (by omega)).symm
  have second := repaint gutter (fun s y => charDot font currchar (s - currX) (y - top))
    fun s y there => by
      have place : s - (currX + font.fontWidth currchar) = 0 := by omega
      rw [place, charDot, if_neg (by omega)]
  refine (first.then second).congr fun s y _ => ?_
  rw [← or_and_right]
  refine and_congr_left fun _ => ?_
  omega

theorem copyImages_target (images : List Image) {display : Display} {t : Fin 3}
    (target : display.tgtBuffer = some t) :
    (copyImages images display).tgtBuffer = some t := by
  induction images generalizing display with
  | nil => exact target
  | cons image rest ih => exact ih ((copyImage_drawn target).target.trans target)

theorem plainText_end (legible : Legible font) (text : List UInt8) (currX : Int) :
    currX ≤ (plainText font top 1 text currX).2 := by
  induction text generalizing currX with
  | nil => exact Int.le_refl _
  | cons c rest ih =>
      rw [plainText]
      cases currChar c with
      | none => exact ih currX
      | some currchar =>
          have width := legible.widths currchar
          have later := ih (currX + (font.fontWidth currchar + 1))
          dsimp only
          omega

/-- The characters of a text paint its dots, one after another. -/
theorem text_paints (legible : Legible font) (text : List UInt8) (currX : Int) {display : Display}
    {t : Fin 3} (target : display.tgtBuffer = some t) :
    Paints (fun s y => textDot font text (s - currX) (y - top))
      (fun s y => (currX ≤ s ∧ s < (plainText font top 1 text currX).2) ∧ PaintedRow font top y)
      (display.mem t)
      ((copyImages (plainText font top 1 text currX).1 display).mem t) := by
  induction text generalizing currX display with
  | nil =>
      refine Paints.nothing _ fun s y _ there => ?_
      have empty := there.1
      rw [plainText] at empty
      omega
  | cons c rest ih =>
      rw [plainText]
      simp only [textDot]
      cases currChar c with
      | none => exact ih currX target
      | some currchar =>
          dsimp only
          have width := legible.widths currchar
          have further := @plainText_end font top legible rest
            (currX + (font.fontWidth currchar + 1))
          have char := @char_paints font top legible currX currchar display t target
          have later := ih (currX + (font.fontWidth currchar + 1)) (copyImages_target
            (charImages font top 1 currX currchar) target)
          rw [copyImages_append]
          -- The next character has the columns up to its gutter, and the rest the ones behind it.
          have early := repaint char (fun s y =>
            if s - currX < font.fontWidth currchar + 1 then
              charDot font currchar (s - currX) (y - top)
            else textDot font rest (s - currX - (font.fontWidth currchar + 1)) (y - top))
            fun s y there => (if_pos (by omega)).symm
          have late := repaint later (fun s y =>
            if s - currX < font.fontWidth currchar + 1 then
              charDot font currchar (s - currX) (y - top)
            else textDot font rest (s - currX - (font.fontWidth currchar + 1)) (y - top))
            fun s y there => by
              have place : s - (currX + (font.fontWidth currchar + 1)) =
                  s - currX - (font.fontWidth currchar + 1) := by omega
              rw [place, if_neg (by omega)]
          refine (early.then late).congr fun s y _ => ?_
          rw [← or_and_right]
          refine and_congr_left fun _ => ?_
          omega

/-- A column of a text that is on the screen shows its dots, in the rows that are on the
screen. -/
theorem drawText_dots (legible : Legible font) {text : List UInt8} (clean : 0 ∉ text) (x : Int)
    {display : Display} {t : Fin 3} (target : display.tgtBuffer = some t) {column row : Int}
    (inside : 0 ≤ column ∧ x + column < (plainText font top 1 text x).2)
    (glyph : 0 ≤ row ∧ row < font.fontHeight) (on : OnScreen (x + column) (top + row)) :
    pixel ((final observe display (drawText (text ++ [0]) x top font 1 display)).mem t)
      (x + column) (top + row) = textDot font text column row := by
  rw [drawText_images legible.advances text [] clean]
  have painted : PaintedRow font top (top + row) :=
    Or.inl ⟨Int.le_add_of_nonneg_right glyph.1, Int.add_lt_add_left glyph.2 top⟩
  have paints := @text_paints font top legible text x display t target
  have drawn := (paints.inside _ _ on ⟨⟨by omega, inside.2⟩, painted⟩).1
  rw [drawn]
  congr 1 <;> omega

/-! ### The fonts of the display -/

/-- Every word of the font arrays has four bits. -/
def FourBits (arrays : Fonts.FontArrays) : Prop :=
  ∀ font, ∀ word ∈ Fonts.getFontData arrays font, word < 16

theorem fontTables_legible {arrays : Fonts.FontArrays} (bits : FourBits arrays)
    (font : Fonts.Font) : Legible (TextBounds.fontTables arrays font).plain where
  height := by
    have range := Fonts.getFontHeight_range font
    exact ⟨Int.le_of_lt range.1, Int.le_trans range.2 (by decide)⟩
  words index := by
    show (Fonts.getFontData arrays font)[index.toNat]?.getD 0 < 16
    cases found : (Fonts.getFontData arrays font)[index.toNat]? with
    | none => decide
    | some word => exact bits font word (List.mem_of_getElem? found)
  widths := (@tableFont_advances 0 (fun _ => 0) (Fonts.getFontWidth font) 0 0 (Int.le_refl 0)
    fun width inside => (Fonts.getFontWidth_range font width inside).1).widths

/-- What a text of the display shows: in each of its columns, in the rows that are on the screen,
the dots of its font. -/
theorem shownText_dots {arrays : Fonts.FontArrays} (bits : FourBits arrays) (font : Fonts.Font)
    {text : List UInt8} (clean : 0 ∉ text) (x : Int) {display : Display} {t : Fin 3}
    (target : display.tgtBuffer = some t) {column row : Int}
    (inside : 0 ≤ column ∧ column < Fonts.getTextWidth text (Fonts.getFontWidth font) 1)
    (glyph : 0 ≤ row ∧ row < Fonts.getFontHeight font) (on : OnScreen (x + column) (top + row)) :
    pixel ((final observe display (drawText (text ++ [0]) x top
        (TextBounds.fontTables arrays font).plain 1 display)).mem t) (x + column) (top + row) =
      textDot (TextBounds.fontTables arrays font).plain text column row := by
  have width : (plainText (TextBounds.fontTables arrays font).plain top 1 text x).2 - x =
      Fonts.getTextWidth text (Fonts.getFontWidth font) 1 + 1 := by
    have advance := @plainText_advance top 1
      (fun index => (Fonts.getFontData arrays font)[index.toNat]?.getD 0) (Fonts.getFontWidth font)
      (Fonts.getFontHeight font) (Fonts.getFontGlyphStep font) text x 0
    rw [Fonts.getTextWidth, Int.sub_add_cancel]
    exact advance.trans (Int.sub_zero _)
  exact drawText_dots (fontTables_legible bits font) clean x target ⟨inside.1, by omega⟩ glyph on

end OClock.TextPixels
