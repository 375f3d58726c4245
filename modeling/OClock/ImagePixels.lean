import OClock.ImageColumn

/-!
`drawImage` on the pixels of its target: the rows of the image are drawn wherever they are on
the screen, and below them some rows of padding.
-/

namespace OClock.ImagePixels
open Ht1632 MatrixDrawing MatrixPixels ImageColumn Trace

variable {image : Image} {display : Display}

def InColumns (image : Image) (x : Int) : Prop := image.x ≤ x ∧ x < image.x + image.width

/-- Before the first turn nothing is carried over. -/
theorem first_carried (i : Int) (cells : Cells) : Carried image i 0 ⟨cells, 0, false⟩ where
  valid wrong := by cases wrong
  fresh _ := .inr (.inl rfl)
  word wrong := by cases wrong

theorem drawColumn_paints (drawable : Drawable image) (reaches : 0 ≤ image.y + image.height)
    (cells : Cells) (i : Nat) :
    Paints (ink image) (fun x y => x = i + image.x ∧ Painted image y) cells
      (drawColumn image cells i) := by
  by_cases hidden : (i : Int) + image.x < 0 ∨ (i : Int) + image.x ≥ outSize
  · rw [drawColumn, if_pos hidden]
    refine Paints.nothing cells fun x y on there => ?_
    have right := on.right
    omega
  · have visible : 0 ≤ (i : Int) + image.x ∧ (i : Int) + image.x < outSize := by omega
    rw [drawColumn, if_neg hidden]
    have draws := drawRows_draws drawable reaches visible (rowTurns image.height)
      (first_carried i cells) rfl (Int.le_refl 0) (by rw [rowTurns]; omega)
    refine draws.congr fun x y on => and_congr_right fun _ => ?_
    -- Every row that is painted lies at the top of the image or below it.
    have top : Painted image y → image.y ≤ y := by
      have tall := drawable.height.1
      rintro (rows | stray)
      · exact rows.1
      · have below := stray.2.1
        omega
    simp only [Left, Bool.false_eq_true, if_false]
    constructor
    · exact fun left => left.1
    · exact fun painted => ⟨painted, by have := top painted; omega⟩

theorem drawColumns_paints (drawable : Drawable image) (reaches : 0 ≤ image.y + image.height)
    (count : Nat) (cells : Cells) :
    Paints (ink image) (fun x y => (image.x ≤ x ∧ x < image.x + count) ∧ Painted image y) cells
      ((List.range count).foldl (drawColumn image) cells) := by
  induction count with
  | zero => exact Paints.nothing cells fun x y _ there => by omega
  | succ count ih =>
      rw [List.range_succ, List.foldl_append]
      refine (ih.then (drawColumn_paints drawable reaches _ count)).congr fun x y _ => ?_
      constructor
      · rintro (⟨columns, painted⟩ | ⟨rfl, painted⟩)
        · exact ⟨by omega, painted⟩
        · exact ⟨by omega, painted⟩
      · rintro ⟨columns, painted⟩
        by_cases last : x = count + image.x
        · exact .inr ⟨last, painted⟩
        · exact .inl ⟨by omega, painted⟩

/-- Drawing changes cells of the target only. -/
structure DrawnOn (t : Fin 3) (before after : Display) : Prop where
  others : ∀ other ≠ t, after.mem other = before.mem other
  globals : after.globalNeedsRewriting = before.globalNeedsRewriting
  target : after.tgtBuffer = before.tgtBuffer
  brightness : after.brightness = before.brightness

theorem copyImage_drawn {t : Fin 3} (target : display.tgtBuffer = some t) :
    DrawnOn t display (copyImage image display) := by
  rw [copyImage, target]
  dsimp only
  split
  · exact ⟨fun _ _ => rfl, rfl, rfl, rfl⟩
  · exact ⟨fun other apart => Function.update_of_ne apart _ _, rfl, rfl, rfl⟩

theorem copyImage_paints (drawable : Drawable image) {t : Fin 3}
    (target : display.tgtBuffer = some t) :
    Paints (ink image) (fun x y => InColumns image x ∧ Painted image y) (display.mem t)
      ((copyImage image display).mem t) := by
  rw [copyImage, target]
  dsimp only
  split
  · next outside =>
    refine Paints.nothing _ fun x y on there => ?_
    obtain ⟨⟨left, right⟩, top, bottom⟩ := on
    obtain ⟨columns, rows | stray⟩ := there
    · obtain ⟨first, last⟩ := columns
      obtain ⟨above, below⟩ := rows
      omega
    · obtain ⟨first, last⟩ := columns
      obtain ⟨reaches, below, _⟩ := stray
      have tall := drawable.height.1
      omega
  · next inside =>
    have drawn := drawColumns_paints drawable (by omega) image.width.toNat (display.mem t)
    rw [withCells]
    dsimp only
    rw [Function.update_self]
    refine drawn.congr fun x y _ => and_congr_left fun _ => ?_
    rw [InColumns]
    omega

/-! ### The image -/

/-- Every row of the image that is on the screen is drawn, and its cell will be rewritten. -/
theorem drawImage_draws (image : Image) (drawable : Drawable image) (display : Display) (t : Fin 3)
    (target : display.tgtBuffer = some t) (i r : Int) (column : 0 ≤ i ∧ i < image.width)
    (row : 0 ≤ r ∧ r < image.height) (on : OnScreen (image.x + i) (image.y + r)) :
    pixel ((final observe display (drawImage image display)).mem t) (image.x + i) (image.y + r) =
        bit (image.img ((image.height + 3) / 4 * i + r / 4 + image.offset)) (r % 4).toNat ∧
      marked (load ((final observe display (drawImage image display)).mem t)
        (getAddrFromXY (image.x + i) (image.y + r))) = true := by
  have there : InColumns image (image.x + i) ∧ Painted image (image.y + r) :=
    ⟨⟨by omega, by omega⟩, .inl ⟨by omega, by omega⟩⟩
  obtain ⟨value, mark⟩ := (copyImage_paints drawable target).inside _ _ on there
  refine ⟨?_, mark⟩
  have cells : cellsPerColumn image.height = (image.height + 3) / 4 := by
    have padded := cells_padded drawable
    omega
  have place : image.x + i - image.x = i ∧ image.y + r - image.y = r := by omega
  rw [ink, cells, place.1, place.2] at value
  exact value

/-- A board with all pixels on, and a dark column of five rows at row 6. -/
def lit : Display := setTarget 0 (.new fun _ => Vector.replicate 512 15)

abbrev darkColumn : Image := ⟨fun _ => 0, 1, 5, 0, 6, 0⟩

theorem darkColumn_drawable : Drawable darkColumn := by
  have empty : (0 : UInt8) < 16 := by decide
  exact ⟨by decide, fun _ => empty⟩

theorem drawImage_draws_sample :
    pixel ((final observe lit (drawImage darkColumn lit)).mem 0) (0 + 0) (6 + 4) =
        bit (darkColumn.img ((5 + 3) / 4 * 0 + 4 / 4 + 0)) ((4 : Int) % 4).toNat ∧
      marked (load ((final observe lit (drawImage darkColumn lit)).mem 0)
        (getAddrFromXY (0 + 0) (6 + 4))) = true :=
  drawImage_draws darkColumn darkColumn_drawable lit 0 rfl 0 4 (by decide) (by decide)
    ⟨by decide, by decide⟩

/-! ### Outside the image -/

/-- Outside its rectangle the image changes nothing. -/
def Framed (image : Image) (t : Fin 3) (before after : Display) : Prop :=
  (∀ x y, OnScreen x y → ¬ (InColumns image x ∧ InRows image y) →
      pixel (after.mem t) x y = pixel (before.mem t) x y) ∧
    (∀ other ≠ t, after.mem other = before.mem other) ∧
    after.globalNeedsRewriting = before.globalNeedsRewriting

/-- There is padding on the screen that the masks let through. -/
theorem stray_rows {image : Image} (drawable : Drawable image) :
    (∃ y, (0 ≤ y ∧ y < comSize) ∧ Stray image y) ↔
      image.height % 4 ≠ 0 ∧ (0 ≤ image.y + image.height ∧ image.y + image.height < comSize) ∧
        (paddedBottom image ≤ image.height ∨
          image.y % 4 ≠ 0 ∧ paddedBottom image < comSize) := by
  have padded := cells_padded drawable
  constructor
  · rintro ⟨y, on, reaches, below, inside, through⟩
    rw [paddedBottom] at inside through ⊢
    omega
  · rintro ⟨uneven, ⟨reaches, near⟩, whole | ⟨shifted, flushed⟩⟩
    · rw [paddedBottom] at whole
      refine ⟨image.y + image.height, ⟨reaches, near⟩, reaches, Int.le_refl _, ?_, .inl whole⟩
      rw [paddedBottom]
      omega
    · rw [paddedBottom] at flushed
      refine ⟨paddedBottom image - 1, ?_, reaches, ?_, ?_, .inr ⟨shifted, flushed, ?_⟩⟩
      all_goals
        rw [paddedBottom]
        omega

/-- Only padding is painted outside the rectangle. -/
theorem framed_iff (image : Image) (drawable : Drawable image) (display : Display) (t : Fin 3)
    (target : display.tgtBuffer = some t) :
    Framed image t display (final observe display (drawImage image display)) ↔
      ∀ x y, OnScreen x y → InColumns image x → Stray image y →
        pixel (display.mem t) x y = ink image x y := by
  have paints := copyImage_paints drawable target
  have drawn := @copyImage_drawn image display t target
  have apart : ∀ y, Stray image y → ¬ InRows image y := by
    rintro y ⟨_, below, _⟩ ⟨_, inside⟩
    omega
  constructor
  · intro framed x y on columns stray
    have kept := framed.1 x y on fun both => apart y stray both.2
    exact kept.symm.trans (paints.inside x y on ⟨columns, .inr stray⟩).1
  · intro same
    refine ⟨fun x y on outside => ?_, drawn.others, drawn.globals⟩
    by_cases stray : InColumns image x ∧ Stray image y
    · rw [same x y on stray.1 stray.2]
      exact (paints.inside x y on ⟨stray.1, .inr stray.2⟩).1
    · apply paints.outside x y on
      rintro ⟨columns, rows | padding⟩
      · exact outside ⟨columns, rows⟩
      · exact stray ⟨columns, padding⟩

/-- The image keeps to its rectangle exactly when every stray pixel has the value of the padding
already, and there are stray rows for these heights and positions only. -/
theorem drawImage_framed (image : Image) (drawable : Drawable image) (display : Display) (t : Fin 3)
    (target : display.tgtBuffer = some t) :
    (Framed image t display (final observe display (drawImage image display)) ↔
        ∀ x y, OnScreen x y → InColumns image x → Stray image y →
          pixel (display.mem t) x y = ink image x y) ∧
      ((∃ y, (0 ≤ y ∧ y < comSize) ∧ Stray image y) ↔
        image.height % 4 ≠ 0 ∧ (0 ≤ image.y + image.height ∧ image.y + image.height < comSize) ∧
          (paddedBottom image ≤ image.height ∨
            image.y % 4 ≠ 0 ∧ paddedBottom image < comSize)) :=
  ⟨framed_iff image drawable display t target, stray_rows drawable⟩

/-- Below the dark column rows 12 and 13 are cleared. -/
theorem drawImage_clears_below :
    ¬ ∀ (image : Image) (display : Display) (t : Fin 3), Drawable image →
      display.tgtBuffer = some t →
        Framed image t display (final observe display (drawImage image display)) := by
  intro framed
  have outside : ¬ (InColumns darkColumn 0 ∧ InRows darkColumn 12) := by
    rintro ⟨_, _, below⟩
    exact absurd below (by decide)
  have kept := (framed darkColumn lit 0 darkColumn_drawable rfl).1 0 12
    ⟨by decide, by decide⟩ outside
  have stray : Stray darkColumn 12 :=
    ⟨by decide, by decide, by decide, .inr ⟨by decide, by decide, by decide⟩⟩
  have painted := ((copyImage_paints darkColumn_drawable (rfl : lit.tgtBuffer = some 0)).inside 0 12
    ⟨by decide, by decide⟩ ⟨⟨by decide, by decide⟩, .inr stray⟩).1
  have dark : ink darkColumn 0 12 = false := rfl
  have bright : pixel (lit.mem 0) 0 12 = true := by
    have address : getAddrFromXY 0 12 < 512 := by decide
    have cells : lit.mem 0 = Vector.replicate 512 15 := rfl
    rw [pixel, load, cells, Vector.getElem?_replicate, if_pos address]
    rfl
  have same := dark.symm.trans (painted.symm.trans (kept.trans bright))
  cases same

theorem drawImage_framed_sample :
    (Framed darkColumn 0 lit (final observe lit (drawImage darkColumn lit)) ↔
        ∀ x y, OnScreen x y → InColumns darkColumn x → Stray darkColumn y →
          pixel (lit.mem 0) x y = ink darkColumn x y) ∧
      ((∃ y, (0 ≤ y ∧ y < comSize) ∧ Stray darkColumn y) ↔
        (5 : Int) % 4 ≠ 0 ∧ ((0 : Int) ≤ 6 + 5 ∧ (6 : Int) + 5 < comSize) ∧
          (paddedBottom darkColumn ≤ 5 ∨ (6 : Int) % 4 ≠ 0 ∧ paddedBottom darkColumn < comSize)) :=
  drawImage_framed darkColumn darkColumn_drawable lit 0 rfl

end OClock.ImagePixels
