import OClock.MatrixPixels

/-!
What the loop over the rows of `drawImage` paints of one column. Every store shows the image,
in rows of it or in the padding of its last word. The turns from a row on paint what is left.
-/

namespace OClock.ImageColumn
open Ht1632 MatrixPixels

/-- The images that are drawn: at least one whole cell, and words of four bits. -/
structure Drawable (image : Image) : Prop where
  height : 4 ≤ image.height ∧ image.height ≤ 255
  words : ∀ index, image.img index < 16

/-- The value that the image has for a place, also in the padding below its last row. -/
def ink (image : Image) (x y : Int) : Bool :=
  bit (image.img (cellsPerColumn image.height * (x - image.x) + (y - image.y) / 4 + image.offset))
    ((y - image.y) % 4).toNat

/-- Where the last cell of a column would end. -/
def paddedBottom (image : Image) : Int := image.y + 4 * cellsPerColumn image.height

def InRows (image : Image) (y : Int) : Prop := image.y ≤ y ∧ y < image.y + image.height

/-- Padding that is painted over the rows below the image: all of it when the mask of the
bottom is left out, else what the last carry brings. -/
def Stray (image : Image) (y : Int) : Prop :=
  0 ≤ image.y + image.height ∧ image.y + image.height ≤ y ∧ y < paddedBottom image ∧
    (paddedBottom image ≤ image.height ∨
      image.y % 4 ≠ 0 ∧ paddedBottom image < comSize ∧ paddedBottom image - image.y % 4 ≤ y)

def Painted (image : Image) (y : Int) : Prop := InRows image y ∨ Stray image y

/-- What is left to paint from row `j` on, and of the row before it when that is carried over. -/
def Left (image : Image) (j : Int) (carried : Bool) (y : Int) : Prop :=
  Painted image y ∧ j + image.y - (if carried then image.y % 4 else 0) ≤ y

/-- The rows that the mask of the bottom lets through. -/
def Unmasked (image : Image) (j y : Int) : Prop :=
  4 ≤ image.height - (j + image.y) ∨ y < image.y + image.height

theorem cells_padded {image : Image} (drawable : Drawable image) :
    image.height ≤ 4 * cellsPerColumn image.height ∧
      4 * cellsPerColumn image.height < image.height + 4 := by
  obtain ⟨low, high⟩ := drawable.height
  have exact : floatOfNat image.height.toNat = image.height.toNat := by
    have small : image.height.toNat < 1 <<< 24 := by
      show image.height.toNat < 16777216
      omega
    exact if_pos small
  rw [cellsPerColumn, exact]
  omega

/-! ### Words and masks -/

/-- The word at row `j` holds the values of four rows. -/
theorem ink_read {image : Image} {i j y : Int} (word : j % 4 = 0) (start : 0 ≤ j)
    (inside : j ≤ y - image.y ∧ y - image.y < j + 4) :
    ink image (i + image.x) y = bit (image.read i j) (y - image.y - j).toNat := by
  have quotient : (y - image.y) / 4 = j.tdiv 4 := by
    rw [Int.tdiv_eq_ediv_of_nonneg start]
    omega
  have remainder : (y - image.y) % 4 = y - image.y - j := by omega
  rw [ink, Image.read, quotient, remainder, Int.add_sub_cancel]

theorem bit_maskBottom {height locY shift : Int} (small : shift < 8) {b : Nat} (low : b < 4) :
    bit (maskBottom height locY shift) b = true ↔ 4 ≤ height - locY ∨ b < 4 - shift := by
  rw [maskBottom]
  split
  · next whole =>
    rw [bit_nibble, decide_eq_true low]
    exact iff_of_true rfl (whole.imp id fun none => by omega)
  · next cut =>
    rw [bit_and, bit_shiftRight _ (by omega), bit_nibble, bit_nibble, decide_eq_true low,
      Bool.and_true, decide_eq_true_iff]
    omega

/-- The rows of a word that are shifted up and those that are carried down. -/
theorem carry_back {c : Nat} (carry : 1 ≤ c ∧ c ≤ 3) : 4 - UInt8.ofNat c = UInt8.ofNat (4 - c) := by
  have cases : c = 1 ∨ c = 2 ∨ c = 3 := by omega
  rcases cases with rfl | rfl | rfl <;> rfl

theorem mask_or (first second mask : UInt8) :
    (first &&& mask) ||| (second &&& mask) = (first ||| second) &&& mask :=
  UInt8.toBitVec_inj.mp BitVec.and_or_distrib_right.symm

/-! ### What a turn paints -/

/-- The turn is at row `j` of a column on the screen, and some of its rows may be too. -/
structure Turn (image : Image) (i j : Int) : Prop where
  word : j % 4 = 0
  start : 0 ≤ j
  column : 0 ≤ i + image.x ∧ i + image.x < outSize
  near : -4 < j + image.y ∧ j + image.y < comSize

theorem boundary {image : Image} {i j : Int} (turn : Turn image i j) :
    (j + image.y).tmod 4 = 0 ↔ image.y % 4 = 0 := by
  have word := turn.word
  rw [← Int.dvd_iff_tmod_eq_zero, Int.dvd_iff_emod_eq_zero]
  omega

theorem drawRow_skips {image : Image} {i j : Int} {column : Column}
    (out : j + image.y ≤ -4 ∨ j + image.y ≥ comSize) : drawRow image i j column = column :=
  if_pos out

theorem drawRow_aligned {image : Image} {i j : Int} {column : Column} (turn : Turn image i j)
    (aligned : image.y % 4 = 0) : drawRow image i j column = { column with
      cells := put column.cells (getAddrFromXY (i + image.x) (j + image.y))
        (maskBottom image.height (j + image.y) (4 - (image.height - j)))
        (image.read i j &&& maskBottom image.height (j + image.y) (4 - (image.height - j))) } := by
  have near : ¬ (j + image.y ≤ -4 ∨ j + image.y ≥ comSize) := by
    have inside := turn.near
    omega
  simp only [drawRow, if_neg near, if_pos ((boundary turn).mpr aligned)]

theorem drawRow_shifted {image : Image} {i j : Int} {column : Column} (turn : Turn image i j)
    (shifted : image.y % 4 ≠ 0) : drawRow image i j column = { copyShifted image i j column with
      carryoverY := if j < image.height then image.read i j
        else (copyShifted image i j column).carryoverY } := by
  have near : ¬ (j + image.y ≤ -4 ∨ j + image.y ≥ comSize) := by
    have inside := turn.near
    omega
  simp only [drawRow, if_neg near, if_neg (fun same => shifted ((boundary turn).mp same))]

variable {image : Image} {i j : Int} {column : Column}

theorem aligned_paints (turn : Turn image i j) (aligned : image.y % 4 = 0)
    (rows : j < image.height) :
    Paints (ink image) (fun x y => x = i + image.x ∧
        (j + image.y ≤ y ∧ y < j + image.y + 4) ∧ Unmasked image j y)
      column.cells (drawRow image i j column).cells := by
  obtain ⟨word, start, visible, near⟩ := turn
  have on : OnScreen (i + image.x) (j + image.y) := ⟨visible, by omega, near.2⟩
  rw [drawRow_aligned ⟨word, start, visible, near⟩ aligned]
  refine paints_rows on ?_ ?_
  · intro y' other group _
    rw [ink_read word start (by omega)]
    congr 1
    omega
  · intro y' other
    rw [bit_maskBottom (by omega) (by omega), Unmasked]
    omega

/-- The first word of a column above the screen is only carried over. -/
theorem hidden_keeps (turn : Turn image i j) (shifted : image.y % 4 ≠ 0)
    (fresh : column.carryoverValid = false) (above : j + image.y ≤ 0) :
    (drawRow image i j column).cells = column.cells := by
  have hidden : ¬ j + image.y > 0 := by omega
  rw [drawRow_shifted turn shifted]
  simp only [copyShifted, fresh, Bool.not_false, if_true, if_neg hidden]

theorem first_paints (drawable : Drawable image) (turn : Turn image i j) (shifted : image.y % 4 ≠ 0)
    (fresh : column.carryoverValid = false) (below : 0 < j + image.y) (first : j = 0) :
    Paints (ink image) (fun x y => x = i + image.x ∧
        j + image.y ≤ y ∧ y < j + image.y - image.y % 4 + 4)
      column.cells (drawRow image i j column).cells := by
  obtain ⟨low, _⟩ := drawable.height
  have on : OnScreen (i + image.x) (j + image.y) := ⟨turn.column, by omega, turn.near.2⟩
  have drawn : (drawRow image i j column).cells =
      put column.cells (getAddrFromXY (i + image.x) (j + image.y))
        ((0x0f <<< UInt8.ofNat (image.y % 4).toNat) &&&
          maskBottom image.height (j + image.y) (4 - (image.height - j)))
        ((image.read i j <<< UInt8.ofNat (image.y % 4).toNat) &&&
          ((0x0f <<< UInt8.ofNat (image.y % 4).toNat) &&&
            maskBottom image.height (j + image.y) (4 - (image.height - j)))) := by
    rw [drawRow_shifted turn shifted]
    simp only [copyShifted, fresh, Bool.not_false, if_true, gt_iff_lt, if_pos below,
      Image.carryoverNum]
  rw [drawn]
  -- The mask of the bottom is not felt: the image has four rows at least.
  have under : ∀ b < 4, (bit ((0x0f <<< UInt8.ofNat (image.y % 4).toNat) &&&
      maskBottom image.height (j + image.y) (4 - (image.height - j))) b = true ↔
        (image.y % 4).toNat ≤ b) := by
    intro b small
    rw [bit_and, Bool.and_eq_true, bit_maskBottom (by omega) small,
      bit_shiftLeft _ (by omega) (by omega), bit_nibble, Bool.and_eq_true, decide_eq_true_iff,
      decide_eq_true_iff]
    omega
  refine paints_rows on ?_ ?_
  · intro y' other group mask
    rw [under _ (by omega)] at mask
    rw [ink_read turn.word turn.start (by omega), bit_shiftLeft _ (by omega) (by omega),
      decide_eq_true mask, Bool.true_and]
    congr 1
    omega
  · intro y' other
    rw [under _ (by omega)]
    omega

/-- The last carry is stored below the last word. -/
theorem last_paints (turn : Turn image i j) (shifted : image.y % 4 ≠ 0)
    (carried : column.carryoverValid = true) (word : column.carryoverY = image.read i (j - 4))
    (start : 4 ≤ j) (below : 0 < j + image.y) (last : image.height ≤ j) :
    Paints (ink image) (fun x y => x = i + image.x ∧
        j + image.y - image.y % 4 ≤ y ∧ y < j + image.y)
      column.cells (drawRow image i j column).cells := by
  have on : OnScreen (i + image.x) (j + image.y) := ⟨turn.column, by omega, turn.near.2⟩
  have back : 4 - UInt8.ofNat (image.y % 4).toNat = UInt8.ofNat (4 - (image.y % 4).toNat) :=
    carry_back (by omega)
  have drawn : (drawRow image i j column).cells =
      put column.cells (getAddrFromXY (i + image.x) (j + image.y))
        ((0x0f >>> UInt8.ofNat (4 - (image.y % 4).toNat)) &&& 0x0f)
        ((image.read i (j - 4) >>> UInt8.ofNat (4 - (image.y % 4).toNat)) &&&
          ((0x0f >>> UInt8.ofNat (4 - (image.y % 4).toNat)) &&& 0x0f)) := by
    rw [drawRow_shifted turn shifted]
    simp only [copyShifted, carried, Bool.not_true, Bool.false_eq_true, if_false, ge_iff_le,
      if_pos last, Image.carryoverNum, back, word]
  rw [drawn]
  have under : ∀ b < 4, (bit ((0x0f >>> UInt8.ofNat (4 - (image.y % 4).toNat)) &&& 0x0f) b = true ↔
      b < (image.y % 4).toNat) := by
    intro b small
    rw [bit_and, Bool.and_eq_true, bit_shiftRight _ (by omega), bit_nibble, bit_nibble,
      decide_eq_true_iff, decide_eq_true_iff]
    omega
  have aligned := turn.word
  refine paints_rows on ?_ ?_
  · intro y' other group mask
    rw [under _ (by omega)] at mask
    rw [@ink_read image i (j - 4) y' (by omega) (by omega) (by omega),
      bit_shiftRight _ (by omega)]
    congr 1
    omega
  · intro y' other
    rw [under _ (by omega)]
    omega

theorem middle_paints (drawable : Drawable image) (turn : Turn image i j)
    (shifted : image.y % 4 ≠ 0) (carried : column.carryoverValid = true)
    (word : column.carryoverY = image.read i (j - 4)) (start : 4 ≤ j) (below : 0 < j + image.y)
    (rows : j < image.height) :
    Paints (ink image) (fun x y => x = i + image.x ∧
        (j + image.y - image.y % 4 ≤ y ∧ y < j + image.y - image.y % 4 + 4) ∧ Unmasked image j y)
      column.cells (drawRow image i j column).cells := by
  have on : OnScreen (i + image.x) (j + image.y) := ⟨turn.column, by omega, turn.near.2⟩
  have back : 4 - UInt8.ofNat (image.y % 4).toNat = UInt8.ofNat (4 - (image.y % 4).toNat) :=
    carry_back (by omega)
  have within : ¬ j ≥ image.height := by omega
  have drawn : (drawRow image i j column).cells =
      put column.cells (getAddrFromXY (i + image.x) (j + image.y))
        (maskBottom image.height (j + image.y) (4 - (image.height + image.y % 4 - j)))
        (((image.read i j <<< UInt8.ofNat (image.y % 4).toNat) |||
            (image.read i (j - 4) >>> UInt8.ofNat (4 - (image.y % 4).toNat))) &&&
          maskBottom image.height (j + image.y) (4 - (image.height + image.y % 4 - j))) := by
    rw [drawRow_shifted turn shifted]
    simp only [copyShifted, carried, Bool.not_true, Bool.false_eq_true, if_false, if_neg within,
      Image.carryoverNum, back, word, mask_or]
  rw [drawn]
  have aligned := turn.word
  refine paints_rows on ?_ ?_
  · intro y' other group _
    rw [bit_or, bit_shiftLeft _ (by omega) (by omega), bit_shiftRight _ (by omega)]
    by_cases mine : (image.y % 4).toNat ≤ (y' % 4).toNat
    · -- The word that was carried over has no more bits.
      have none : bit (image.read i (j - 4)) (4 - (image.y % 4).toNat + (y' % 4).toNat) = false :=
        bit_high (drawable.words _) (by omega)
      rw [none, Bool.or_false, decide_eq_true mine, Bool.true_and,
        ink_read turn.word turn.start (by omega)]
      congr 1
      omega
    · rw [decide_eq_false mine, Bool.false_and, Bool.false_or,
        @ink_read image i (j - 4) y' (by omega) (by omega) (by omega)]
      congr 1
      omega
  · intro y' other
    rw [bit_maskBottom (by omega) (by omega), Unmasked]
    omega

/-! ### What is left after a turn -/

/-- The place on the screen for which the rows from `j` on are asked. -/
structure Asked (image : Image) (j y : Int) : Prop where
  padded : image.height ≤ 4 * cellsPerColumn image.height ∧
    4 * cellsPerColumn image.height < image.height + 4
  tall : 4 ≤ image.height
  reaches : 0 ≤ image.y + image.height
  word : j % 4 = 0
  start : 0 ≤ j
  screen : 0 ≤ y ∧ y < 16

variable {y : Int}

theorem left_skips (asked : Asked image j y) (carried : Bool)
    (out : j + image.y ≤ -4 ∨ j + image.y ≥ comSize)
    (known : carried = true → 0 < j + image.y) :
    Left image (j + 4) carried y ↔ Left image j carried y := by
  obtain ⟨padded, tall, reaches, word, start, screen⟩ := asked
  have size : comSize = 16 := rfl
  cases carried with
  | true =>
      have below := known rfl
      simp only [Left, Painted, InRows, Stray, paddedBottom, if_true]
      constructor <;> omega
  | false =>
      simp only [Left, Painted, InRows, Stray, paddedBottom, Bool.false_eq_true, if_false]
      constructor <;> omega

theorem left_aligned (asked : Asked image j y) (aligned : image.y % 4 = 0)
    (rows : j < image.height) :
    ((j + image.y ≤ y ∧ y < j + image.y + 4) ∧ Unmasked image j y) ∨ Left image (j + 4) false y ↔
      Left image j false y := by
  obtain ⟨padded, tall, reaches, word, start, screen⟩ := asked
  simp only [Left, Painted, InRows, Stray, Unmasked, paddedBottom, Bool.false_eq_true, if_false,
    aligned, ne_eq, not_true_eq_false, false_and, or_false]
  constructor <;> omega

theorem left_hidden (asked : Asked image j y) (shifted : image.y % 4 ≠ 0)
    (above : -4 < j + image.y ∧ j + image.y ≤ 0) :
    Left image (j + 4) true y ↔ Left image j false y := by
  obtain ⟨padded, tall, reaches, word, start, screen⟩ := asked
  simp only [Left, Painted, InRows, Stray, paddedBottom, Bool.false_eq_true, if_false, if_true]
  constructor <;> omega

theorem left_first (asked : Asked image j y) (first : j = 0) :
    (j + image.y ≤ y ∧ y < j + image.y - image.y % 4 + 4) ∨ Left image (j + 4) true y ↔
      Left image j false y := by
  obtain ⟨padded, tall, reaches, word, start, screen⟩ := asked
  simp only [Left, Painted, InRows, Stray, paddedBottom, Bool.false_eq_true, if_false, if_true]
  constructor <;> omega

theorem left_middle (asked : Asked image j y) (later : 4 ≤ j) (rows : j < image.height) :
    ((j + image.y - image.y % 4 ≤ y ∧ y < j + image.y - image.y % 4 + 4) ∧ Unmasked image j y) ∨
      Left image (j + 4) true y ↔ Left image j true y := by
  obtain ⟨padded, tall, reaches, word, start, screen⟩ := asked
  have size : comSize = 16 := rfl
  simp only [Left, Painted, InRows, Stray, Unmasked, paddedBottom, if_true]
  constructor <;> omega

theorem left_last (asked : Asked image j y) (last : image.height ≤ j) (limit : j < image.height + 4)
    (near : j + image.y < comSize) :
    (j + image.y - image.y % 4 ≤ y ∧ y < j + image.y) ∨ Left image (j + 4) true y ↔
      Left image j true y := by
  obtain ⟨padded, tall, reaches, word, start, screen⟩ := asked
  have size : comSize = 16 := rfl
  simp only [Left, Painted, InRows, Stray, paddedBottom, if_true]
  constructor <;> omega

/-! ### The loop over the rows -/

/-- What the turn at row `j` finds of the word before it. -/
structure Carried (image : Image) (i j : Int) (column : Column) : Prop where
  valid : column.carryoverValid = true → image.y % 4 ≠ 0 ∧ 4 ≤ j ∧ 0 < j + image.y
  fresh : column.carryoverValid = false →
    image.y % 4 = 0 ∨ j = 0 ∨ j + image.y ≤ 0 ∨ comSize ≤ j + image.y
  word : column.carryoverValid = true → j + image.y < comSize → j < image.height + 4 →
    column.carryoverY = image.read i (j - 4)

/-- On a boundary of the words nothing is carried over. -/
theorem Carried.aligned_fresh {image : Image} {i j : Int} {column : Column}
    (carried : Carried image i j column) (aligned : image.y % 4 = 0) :
    column.carryoverValid = false := by
  by_contra valid
  exact (carried.valid (Bool.not_eq_false _ ▸ valid)).1 aligned

/-- From row `j` on, what is left of the column is painted. -/
def Draws (image : Image) (i j : Int) (column : Column) (after : Cells) : Prop :=
  Paints (ink image) (fun x y => x = i + image.x ∧ Left image j column.carryoverValid y)
    column.cells after

theorem aligned_valid (turn : Turn image i j) (aligned : image.y % 4 = 0) :
    (drawRow image i j column).carryoverValid = column.carryoverValid := by
  rw [drawRow_aligned turn aligned]

theorem shifted_valid (turn : Turn image i j) (shifted : image.y % 4 ≠ 0) :
    (drawRow image i j column).carryoverValid = true := by
  rw [drawRow_shifted turn shifted, copyShifted]
  dsimp only
  split
  · rfl
  · next carried =>
    have valid : column.carryoverValid = true := by simpa using carried
    split
    · exact valid
    · exact valid

theorem shifted_word (turn : Turn image i j) (shifted : image.y % 4 ≠ 0) (rows : j < image.height) :
    (drawRow image i j column).carryoverY = image.read i j := by
  rw [drawRow_shifted turn shifted]
  exact if_pos rows

theorem drawRow_carried (carried : Carried image i j column) (word : j % 4 = 0) (start : 0 ≤ j)
    (visible : 0 ≤ i + image.x ∧ i + image.x < outSize) :
    Carried image i (j + 4) (drawRow image i j column) := by
  by_cases out : j + image.y ≤ -4 ∨ j + image.y ≥ comSize
  · rw [drawRow_skips out]
    have size : comSize = 16 := rfl
    refine ⟨fun valid => ?_, fun fresh => ?_, fun valid near limit => ?_⟩
    · obtain ⟨shifted, later, below⟩ := carried.valid valid
      exact ⟨shifted, by omega, by omega⟩
    · omega
    · have below := (carried.valid valid).2.2
      omega
  · have turn : Turn image i j := ⟨word, start, visible, by omega⟩
    by_cases aligned : image.y % 4 = 0
    · have none := carried.aligned_fresh aligned
      have still := (@aligned_valid image i j column turn aligned).trans none
      refine ⟨fun valid => ?_, fun _ => .inl aligned, fun valid => ?_⟩
      · rw [still] at valid
        cases valid
      · rw [still] at valid
        cases valid
    · have valid := @shifted_valid image i j column turn aligned
      refine ⟨fun _ => ⟨aligned, by omega, by omega⟩, fun fresh => ?_, fun _ _ limit => ?_⟩
      · rw [valid] at fresh
        cases fresh
      · rw [shifted_word turn aligned (by omega), Int.add_sub_cancel]

/-- A turn and what is painted after it. -/
theorem drawRow_draws (drawable : Drawable image) (reaches : 0 ≤ image.y + image.height)
    (carried : Carried image i j column) (word : j % 4 = 0) (start : 0 ≤ j)
    (visible : 0 ≤ i + image.x ∧ i + image.x < outSize) (limit : j < rowLimit image column)
    {after : Cells} (rest : Draws image i (j + 4) (drawRow image i j column) after) :
    Draws image i j column after := by
  have asked : ∀ {x y}, OnScreen x y → Asked image j y := fun on =>
    ⟨cells_padded drawable, drawable.height.1, reaches, word, start, on.down⟩
  by_cases out : j + image.y ≤ -4 ∨ j + image.y ≥ comSize
  · rw [drawRow_skips out] at rest
    exact rest.congr fun x y on => and_congr_right fun _ =>
      left_skips (asked on) _ out fun valid => (carried.valid valid).2.2
  · have turn : Turn image i j := ⟨word, start, visible, by omega⟩
    by_cases aligned : image.y % 4 = 0
    · have none := carried.aligned_fresh aligned
      have rows : j < image.height := by
        simpa only [rowLimit, none, Bool.false_eq_true, if_false] using limit
      rw [Draws, aligned_valid turn aligned, none] at rest
      rw [Draws, none]
      refine ((aligned_paints turn aligned rows).then rest).congr fun x y on => ?_
      rw [← and_or_left, left_aligned (asked on) aligned rows]
    · rw [Draws, shifted_valid turn aligned] at rest
      cases valid : column.carryoverValid with
      | false =>
          -- The first word on the screen, or one that is above it for the most part.
          rw [Draws, valid]
          have places := carried.fresh valid
          by_cases above : j + image.y ≤ 0
          · rw [hidden_keeps turn aligned valid above] at rest
            exact rest.congr fun x y on => and_congr_right fun _ =>
              left_hidden (asked on) aligned ⟨by omega, above⟩
          · have first : j = 0 := by omega
            refine ((first_paints drawable turn aligned valid (by omega) first).then rest).congr
              fun x y on => ?_
            rw [← and_or_left, left_first (asked on) first]
      | true =>
          rw [Draws, valid]
          obtain ⟨_, later, below⟩ := carried.valid valid
          have near := turn.near.2
          rw [rowLimit, if_pos valid] at limit
          have held := carried.word valid near limit
          by_cases last : image.height ≤ j
          · refine ((last_paints turn aligned valid held later below last).then rest).congr
              fun x y on => ?_
            rw [← and_or_left, left_last (asked on) last limit near]
          · have rows : j < image.height := by omega
            refine ((middle_paints drawable turn aligned valid held later below rows).then
              rest).congr fun x y on => ?_
            rw [← and_or_left, left_middle (asked on) later rows]

/-- Where the loop ends nothing is left. -/
theorem ended_draws (drawable : Drawable image) (reaches : 0 ≤ image.y + image.height)
    (carried : Carried image i j column) (word : j % 4 = 0)
    (ended : rowLimit image column ≤ j) : Draws image i j column column.cells := by
  refine Paints.nothing _ fun x y on left => ?_
  obtain ⟨low, high⟩ := cells_padded drawable
  obtain ⟨top, bottom⟩ := on.down
  have size : comSize = 16 := rfl
  obtain ⟨_, painted, from_here⟩ := left
  cases valid : column.carryoverValid with
  | true =>
      rw [rowLimit, if_pos valid] at ended
      rw [valid, if_pos rfl] at from_here
      simp only [Painted, InRows, Stray, paddedBottom] at painted
      omega
  | false =>
      have places := carried.fresh valid
      have tall := drawable.height.1
      simp only [rowLimit, valid, Bool.false_eq_true, if_false] at ended from_here
      simp only [Painted, InRows, Stray, paddedBottom] at painted
      omega

theorem drawRows_draws (drawable : Drawable image) (reaches : 0 ≤ image.y + image.height)
    (visible : 0 ≤ i + image.x ∧ i + image.x < outSize) (turns : Nat)
    (carried : Carried image i j column) (word : j % 4 = 0) (start : 0 ≤ j)
    (enough : image.height + 4 ≤ j + 4 * turns) :
    Draws image i j column (drawRows image i turns j column).cells := by
  induction turns generalizing j column with
  | zero =>
      have limit := rowLimit_le image column
      exact ended_draws drawable reaches carried word (by omega)
  | succ turns ih =>
      rw [drawRows]
      split
      · next more =>
        exact drawRow_draws drawable reaches carried word start visible more
          (ih (drawRow_carried carried word start visible) (by omega) (by omega) (by omega))
      · next ended =>
        exact ended_draws drawable reaches carried word (by omega)

end OClock.ImageColumn
