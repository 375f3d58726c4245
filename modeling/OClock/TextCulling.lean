import OClock.Fonts
import OClock.Ht1632

/-!
`drawText` against a drawing that leaves nothing out: what it skips, `drawImage` clips.
-/

namespace OClock.TextCulling
open Ht1632 Trace

/-! ### What `drawImage` clips -/

theorem withCells_same (display : Display) (t : Fin 3) :
    withCells display t (display.mem t) = display := by
  rw [withCells, Function.update_eq_self]

theorem copyImage_same {image : Image} (display : Display)
    (still : ∀ (cells : Cells) (i : Nat), (i : Int) < image.width →
      drawColumn image cells i = cells) : copyImage image display = display := by
  unfold copyImage
  split
  · rfl
  · next t _ =>
    split
    · rfl
    · have same : ∀ (count : Nat), (count : Int) ≤ image.width ∨ count = 0 → ∀ cells : Cells,
          (List.range count).foldl (drawColumn image) cells = cells := by
        intro count within cells
        induction count with
        | zero => rfl
        | succ count ih =>
            rw [List.range_succ, List.foldl_append, ih (by omega)]
            exact still cells count (by omega)
      rw [same image.width.toNat (by omega), withCells_same]

theorem copyImage_right {image : Image} (display : Display) (right : outSize ≤ image.x) :
    copyImage image display = display := by
  refine copyImage_same display fun cells i _ => if_pos (.inr ?_)
  omega

theorem copyImage_left {image : Image} (display : Display) (left : image.x + image.width ≤ 0) :
    copyImage image display = display := by
  refine copyImage_same display fun cells i inside => if_pos (.inl ?_)
  omega

theorem drawRows_below {image : Image} (below : comSize ≤ image.y) (i : Int) (turns : Nat) (j : Int)
    (start : 0 ≤ j) (column : Column) : drawRows image i turns j column = column := by
  induction turns generalizing j with
  | zero => rfl
  | succ turns ih =>
      have skipped : drawRow image i j column = column := if_pos (.inr (by omega))
      rw [drawRows, skipped, ih (j + 4) (by omega), ite_self]

theorem copyImage_below {image : Image} (display : Display) (below : comSize ≤ image.y) :
    copyImage image display = display := by
  refine copyImage_same display fun cells i _ => ?_
  rw [drawColumn, drawRows_below below i _ 0 (Int.le_refl 0), ite_self]

theorem copyImage_above {image : Image} (display : Display) (above : image.y + image.height < 0) :
    copyImage image display = display := by
  unfold copyImage
  split
  · rfl
  · exact if_pos (.inl above)

/-! ### The plain drawing -/

/-- A character and its gutter columns. -/
def charImages (font : Font) (y gutterSpace currX currchar : Int) : List Image :=
  ⟨font.font, font.fontWidth currchar, font.fontHeight, currX, y, currchar * font.fontGlyphStep⟩ ::
    (List.range gutterSpace.toNat).map fun (j : Nat) =>
      ⟨font.font, 1, font.fontHeight, currX + font.fontWidth currchar + j, y, 0⟩

/-- All that a text draws, one image after another, and where the running x ends. -/
def plainText (font : Font) (y gutterSpace : Int) : List UInt8 → Int → List Image × Int
  | [], currX => ([], currX)
  | c :: rest, currX =>
      match currChar c with
      | none => plainText font y gutterSpace rest currX
      | some currchar =>
          let later := plainText font y gutterSpace rest
            (currX + (font.fontWidth currchar + gutterSpace))
          (charImages font y gutterSpace currX currchar ++ later.1, later.2)

def copyImages (images : List Image) (display : Display) : Display :=
  images.foldl (fun display image => copyImage image display) display

theorem draws_images (images : List Image) (display : Display) :
    final observe display (block (images.map drawImage) display) = copyImages images display := by
  induction images generalizing display with
  | nil => rfl
  | cons image rest ih => exact ih (copyImage image display)

theorem copyImages_same {images : List Image} {display : Display}
    (still : ∀ image ∈ images, copyImage image display = display) :
    copyImages images display = display := by
  induction images with
  | nil => rfl
  | cons image rest ih =>
      rw [copyImages, List.foldl_cons, still image List.mem_cons_self]
      exact ih fun other inside => still other (List.mem_cons_of_mem image inside)

theorem copyChar_images (font : Font) (currX y gutterSpace currchar : Int) (display : Display) :
    copyChar font currX y gutterSpace currchar display =
      copyImages (charImages font y gutterSpace currX currchar) display := by
  rw [copyChar, copyImages, charImages, List.foldl_cons, List.foldl_map]

/-! ### Where the images stand -/

variable {font : Font} {y gutterSpace : Int}

theorem char_places {currX currchar : Int} (gutter : 0 ≤ gutterSpace)
    (width : 0 ≤ font.fontWidth currchar) {image : Image}
    (inside : image ∈ charImages font y gutterSpace currX currchar) :
    (image.y = y ∧ image.height = font.fontHeight) ∧ currX ≤ image.x ∧
      image.x + image.width ≤ currX + (font.fontWidth currchar + gutterSpace) := by
  rcases List.mem_cons.mp inside with rfl | column
  · exact ⟨⟨rfl, rfl⟩, Int.le_refl _, by simp only; omega⟩
  · obtain ⟨j, below, rfl⟩ := List.mem_map.mp column
    have last := List.mem_range.mp below
    exact ⟨⟨rfl, rfl⟩, by simp only; omega, by simp only; omega⟩

/-- No width is negative, so the running x never goes back. -/
structure Advances (font : Font) (gutterSpace : Int) : Prop where
  gutter : 0 ≤ gutterSpace
  widths : ∀ currchar, 0 ≤ font.fontWidth currchar

theorem text_places (advances : Advances font gutterSpace) (text : List UInt8) (currX : Int)
    {image : Image} (inside : image ∈ (plainText font y gutterSpace text currX).1) :
    (image.y = y ∧ image.height = font.fontHeight) ∧ currX ≤ image.x := by
  induction text generalizing currX with
  | nil => cases inside
  | cons c rest ih =>
      rw [plainText] at inside
      cases found : currChar c with
      | none =>
          rw [found] at inside
          exact ih currX inside
      | some currchar =>
          rw [found] at inside
          have width := advances.widths currchar
          have gutter := advances.gutter
          rcases List.mem_append.mp inside with here | later
          · obtain ⟨same, left, _⟩ := char_places gutter width here
            exact ⟨same, left⟩
          · obtain ⟨same, left⟩ := ih _ later
            exact ⟨same, by omega⟩

/-- What the loop leaves out is clipped. -/
theorem copyText_plain (advances : Advances font gutterSpace) (text more : List UInt8)
    (clean : 0 ∉ text) (currX : Int) (display : Display) :
    copyText font y gutterSpace (text ++ 0 :: more) currX display =
      copyImages (plainText font y gutterSpace text currX).1 display := by
  induction text generalizing currX display with
  | nil => rfl
  | cons c rest ih =>
      have plain : c ≠ 0 := fun same => clean (same ▸ List.mem_cons_self)
      have later : 0 ∉ rest := fun inside => clean (List.mem_cons_of_mem c inside)
      rw [List.cons_append, copyText, if_neg plain]
      have whole := fun place => @text_places font y gutterSpace advances (c :: rest) currX place
      rw [plainText] at whole ⊢
      cases found : currChar c with
      | none => exact ih later currX display
      | some currchar =>
          have gutter := advances.gutter
          have width := advances.widths currchar
          rw [found] at whole
          dsimp only at whole ⊢
          by_cases right : currX ≥ outSize
          · -- Everything that is still to come stands further right.
            rw [if_pos right]
            refine (copyImages_same fun image inside => ?_).symm
            have place := (whole image inside).2
            exact copyImage_right display (by omega)
          · rw [if_neg right, ih later, copyImages, copyImages, List.foldl_append]
            congr 1
            split
            · exact copyChar_images font currX y gutterSpace currchar display
            · next left =>
              refine (copyImages_same fun image inside => ?_).symm
              have place := (char_places gutter width inside).2.2
              exact copyImage_left display (by omega)

/-- A text that is above or below the screen is clipped as well. -/
theorem drawText_images (advances : Advances font gutterSpace) (text more : List UInt8)
    (clean : 0 ∉ text) (x : Int) (display : Display) :
    final observe display (drawText (text ++ 0 :: more) x y font gutterSpace display) =
      copyImages (plainText font y gutterSpace text x).1 display := by
  rw [drawText, change, final_cons, final_nil, observe]
  split
  · next outside =>
    refine (copyImages_same fun image inside => ?_).symm
    obtain ⟨⟨rfl, height⟩, _⟩ := text_places advances text x inside
    rw [← height] at outside
    rcases outside with above | below
    · exact copyImage_above display above
    · exact copyImage_below display below
  · exact copyText_plain advances text more clean x display

/-! ### The width -/

theorem glyph_currChar (c : UInt8) : Fonts.glyph c = (currChar c).map Int.toNat := by
  rw [Fonts.glyph, currChar, apply_ite (Option.map Int.toNat)]
  rfl

/-- A font whose widths are in a table. -/
def tableFont (font : Int → UInt8) (fontWidth : List Int) (fontHeight fontGlyphStep : Int) : Font where
  font := font
  fontWidth currchar := fontWidth[currchar.toNat]?.getD 0
  fontHeight := fontHeight
  fontGlyphStep := fontGlyphStep

theorem tableFont_advances {img : Int → UInt8} {fontWidth : List Int}
    {fontHeight fontGlyphStep : Int} (gutter : 0 ≤ gutterSpace)
    (widths : ∀ width ∈ fontWidth, 0 ≤ width) :
    Advances (tableFont img fontWidth fontHeight fontGlyphStep) gutterSpace where
  gutter := gutter
  widths currchar := by
    show 0 ≤ fontWidth[currchar.toNat]?.getD 0
    cases found : fontWidth[currchar.toNat]? with
    | none => exact Int.le_refl 0
    | some width => exact widths width (List.mem_of_getElem? found)

/-- The running x goes on by what the sum of `getTextWidth` goes on. -/
theorem plainText_advance (img : Int → UInt8) (fontWidth : List Int)
    (fontHeight fontGlyphStep : Int) (text : List UInt8) (currX wd : Int) :
    (plainText (tableFont img fontWidth fontHeight fontGlyphStep) y gutterSpace text currX).2 - currX =
      (text.filterMap Fonts.glyph).foldl
        (fun wd currchar => wd + (fontWidth[currchar]?.getD 0 + gutterSpace)) wd - wd := by
  induction text generalizing currX wd with
  | nil => simp [plainText]
  | cons c rest ih =>
      rw [plainText]
      cases found : currChar c with
      | none =>
          have skipped : Fonts.glyph c = none := by rw [glyph_currChar, found]; rfl
          rw [List.filterMap_cons_none skipped]
          exact ih currX wd
      | some currchar =>
          have shown : Fonts.glyph c = some currchar.toNat := by rw [glyph_currChar, found]; rfl
          have width : (tableFont img fontWidth fontHeight fontGlyphStep).fontWidth currchar =
              fontWidth[currchar.toNat]?.getD 0 := rfl
          rw [List.filterMap_cons_some shown, List.foldl_cons]
          dsimp only
          rw [width]
          have later := ih (currX + (fontWidth[currchar.toNat]?.getD 0 + gutterSpace))
            (wd + (fontWidth[currchar.toNat]?.getD 0 + gutterSpace))
          omega

/-- Drawing a text is drawing every glyph and every gutter column of it, and the running x goes
on by the width of the text and one more gutter. -/
theorem drawText_plain (text more : List UInt8) (clean : 0 ∉ text) (img : Int → UInt8)
    (fontWidth : List Int) (widths : ∀ width ∈ fontWidth, 0 ≤ width)
    (fontHeight fontGlyphStep gutterSpace x y : Int) (gutter : 0 ≤ gutterSpace)
    (display : Display) :
    final observe display (drawText (text ++ 0 :: more) x y
        (tableFont img fontWidth fontHeight fontGlyphStep) gutterSpace display) =
      final observe display (block ((plainText (tableFont img fontWidth fontHeight fontGlyphStep) y
        gutterSpace text x).1.map drawImage) display) ∧
    (plainText (tableFont img fontWidth fontHeight fontGlyphStep) y gutterSpace text x).2 - x =
      Fonts.getTextWidth text fontWidth gutterSpace + gutterSpace := by
  constructor
  · rw [draws_images, drawText_images (tableFont_advances gutter widths) text more clean]
  · rw [plainText_advance img fontWidth fontHeight fontGlyphStep text x 0, Fonts.getTextWidth]
    omega

theorem drawText_plain_sample :
    final observe (setTarget 0 (Display.new fun _ => Vector.replicate 512 0)) (drawText ([65, 98] ++ 0 :: [7]) (-3)
        12 (tableFont (fun _ => 5) Fonts.font5x4Width 5 10) 1
        (setTarget 0 (Display.new fun _ => Vector.replicate 512 0))) =
      final observe (setTarget 0 (Display.new fun _ => Vector.replicate 512 0))
        (block ((plainText (tableFont (fun _ => 5) Fonts.font5x4Width 5 10) 12 1 [65, 98] (-3)).1.map
          drawImage) (setTarget 0 (Display.new fun _ => Vector.replicate 512 0))) ∧
    (plainText (tableFont (fun _ => 5) Fonts.font5x4Width 5 10) 12 1 [65, 98] (-3)).2 - (-3) =
      Fonts.getTextWidth [65, 98] Fonts.font5x4Width 1 + 1 :=
  drawText_plain [65, 98] [7] (by decide) (fun _ => 5) Fonts.font5x4Width (by decide) 5 10 1 (-3) 12
    (by decide) _

end OClock.TextCulling
