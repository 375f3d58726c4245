import OClock.MatrixDrawing

/-!
The pixels of a board. A cell holds four rows of a column, the topmost one in its lowest bit.
What is painted is said as an area of the screen and the value that its pixels get.
-/

namespace OClock.MatrixPixels
open Ht1632 MatrixDrawing

/-! ### Bits -/

def bit (cell : UInt8) (b : Nat) : Bool := cell.toNat.testBit b

theorem bit_and (first second : UInt8) (b : Nat) :
    bit (first &&& second) b = (bit first b && bit second b) := by
  rw [bit, UInt8.toNat_and, Nat.testBit_and]
  rfl

theorem bit_or (first second : UInt8) (b : Nat) :
    bit (first ||| second) b = (bit first b || bit second b) := by
  rw [bit, UInt8.toNat_or, Nat.testBit_or]
  rfl

theorem bit_not (cell : UInt8) {b : Nat} (inside : b < 8) : bit (~~~cell) b = !bit cell b := by
  have flipped : (~~~cell.toBitVec).getLsbD b = !cell.toBitVec.getLsbD b := by
    rw [BitVec.getLsbD_not, decide_eq_true inside, Bool.true_and]
  exact flipped

theorem shift_count {c : Nat} (shift : c < 8) : (UInt8.ofNat c).toNat % 8 = c := by
  rw [UInt8.toNat_ofNat']
  omega

theorem bit_shiftLeft (cell : UInt8) {c b : Nat} (shift : c < 8) (inside : b < 8) :
    bit (cell <<< UInt8.ofNat c) b = (decide (c ≤ b) && bit cell (b - c)) := by
  rw [bit, UInt8.toNat_shiftLeft, shift_count shift, Nat.testBit_mod_two_pow,
    decide_eq_true inside, Bool.true_and, Nat.testBit_shiftLeft]
  rfl

theorem bit_shiftRight (cell : UInt8) {c : Nat} (shift : c < 8) (b : Nat) :
    bit (cell >>> UInt8.ofNat c) b = bit cell (c + b) := by
  rw [bit, UInt8.toNat_shiftRight, shift_count shift, Nat.testBit_shiftRight]
  rfl

/-- A word of an image has four bits. -/
theorem bit_high {cell : UInt8} (word : cell < 16) {b : Nat} (high : 4 ≤ b) :
    bit cell b = false := by
  have small : cell.toNat < 2 ^ b :=
    Nat.lt_of_lt_of_le word (Nat.pow_le_pow_right Nat.two_pos high)
  exact Nat.testBit_lt_two_pow small

theorem bit_nibble (b : Nat) : bit 0x0f b = decide (b < 4) := Nat.testBit_two_pow_sub_one 4 b

theorem bit_rewriting {b : Nat} (low : b < 4) : bit maskNeedsRewriting b = false := by
  have place : maskNeedsRewriting.toNat = 2 ^ 4 := rfl
  rw [bit, place, Nat.testBit_two_pow]
  exact decide_eq_false (by omega)

/-! ### Cells of the screen -/

structure OnScreen (x y : Int) : Prop where
  right : 0 ≤ x ∧ x < outSize
  down : 0 ≤ y ∧ y < comSize

/-- The chips stand in blocks of four, two above two. -/
theorem address_eq {x y : Int} (on : OnScreen x y) :
    (getAddrFromXY x y : Int) =
      x / 32 * 128 + y / 8 * 64 + x / 16 % 2 * 32 + x % 16 * 2 + y % 8 / 4 := by
  obtain ⟨⟨left, right⟩, top, bottom⟩ := on
  rw [outSize] at right
  rw [comSize] at bottom
  have lower : (if y > 7 then (2 : Int) else 0) = y / 8 * 2 := by
    split <;> omega
  have signs : x.tmod 16 = x % 16 ∧ y.tmod 8 = y % 8 ∧ x.tdiv 16 = x / 16 ∧ x.tdiv 32 = x / 32 :=
    ⟨Int.tmod_eq_emod_of_nonneg left, Int.tmod_eq_emod_of_nonneg top,
      Int.tdiv_eq_ediv_of_nonneg left, Int.tdiv_eq_ediv_of_nonneg left⟩
  have row : (y % 8).tdiv 4 = y % 8 / 4 := Int.tdiv_eq_ediv_of_nonneg (by omega)
  rw [getAddrFromXY, getChipFromXY, lower, signs.1, signs.2.1, signs.2.2.1, signs.2.2.2, row]
  omega

theorem address_inside {x y : Int} (on : OnScreen x y) : getAddrFromXY x y < addrSpaceSize := by
  have place := address_eq on
  obtain ⟨⟨left, right⟩, top, bottom⟩ := on
  rw [outSize] at right
  rw [comSize] at bottom
  show getAddrFromXY x y < 512
  omega

/-- Two places share a cell when they are in one column and in one group of four rows. -/
theorem address_same {x y x' y' : Int} (on : OnScreen x y) (other : OnScreen x' y') :
    getAddrFromXY x y = getAddrFromXY x' y' ↔ x = x' ∧ y / 4 = y' / 4 := by
  have place := address_eq on
  have place' := address_eq other
  obtain ⟨⟨left, right⟩, top, bottom⟩ := on
  obtain ⟨⟨left', right'⟩, top', bottom'⟩ := other
  rw [outSize] at right right'
  rw [comSize] at bottom bottom'
  constructor
  · intro same
    rw [same] at place
    constructor <;> omega
  · rintro ⟨rfl, same⟩
    omega

/-- The value of the pixel at a place of the screen. -/
def pixel (cells : Cells) (x y : Int) : Bool := bit (load cells (getAddrFromXY x y)) (y % 4).toNat

/-- A store replaces the pixels of its cell that are under the mask. -/
theorem pixel_put (cells : Cells) {x y x' y' : Int} (on : OnScreen x y) (other : OnScreen x' y')
    (mask word : UInt8) :
    pixel (put cells (getAddrFromXY x y) mask (word &&& mask)) x' y' =
      if (x' = x ∧ y' / 4 = y / 4) ∧ bit mask (y' % 4).toNat = true then bit word (y' % 4).toNat
      else pixel cells x' y' := by
  have low : (y' % 4).toNat < 4 := by omega
  rw [pixel, put, load_store]
  by_cases here : x' = x ∧ y' / 4 = y / 4
  · have same : getAddrFromXY x y = getAddrFromXY x' y' :=
      (address_same on other).mpr ⟨here.1.symm, here.2.symm⟩
    rw [if_pos ⟨same, address_inside on⟩, bit_or, bit_or, bit_rewriting low, bit_and, bit_and,
      bit_and, bit_not mask (by omega), bit_nibble, decide_eq_true low, Bool.or_false, Bool.and_true,
      same]
    cases under : bit mask (y' % 4).toNat with
    | true => simp [here]
    | false => simp [pixel]
  · have apart : ¬ (getAddrFromXY x y = getAddrFromXY x' y' ∧ getAddrFromXY x y < addrSpaceSize) := by
      rintro ⟨same, _⟩
      obtain ⟨column, group⟩ := (address_same on other).mp same
      exact here ⟨column.symm, group.symm⟩
    rw [if_neg apart, if_neg (fun both => here both.1), pixel]

/-! ### Painting -/

/-- The pixels of the area get their value of the picture and their cells are marked, and the
other pixels of the screen stay. -/
structure Paints (picture : Int → Int → Bool) (area : Int → Int → Prop) (before after : Cells) :
    Prop where
  inside : ∀ x y, OnScreen x y → area x y →
    pixel after x y = picture x y ∧ marked (load after (getAddrFromXY x y)) = true
  outside : ∀ x y, OnScreen x y → ¬ area x y → pixel after x y = pixel before x y
  marks : Marks before after

variable {picture : Int → Int → Bool} {area first second : Int → Int → Prop}
  {before middle after : Cells}

theorem Paints.nothing (cells : Cells) (empty : ∀ x y, OnScreen x y → ¬ area x y) :
    Paints picture area cells cells where
  inside x y on there := absurd there (empty x y on)
  outside _ _ _ _ := rfl
  marks := marks_refl cells

theorem Paints.then (early : Paints picture first before middle)
    (late : Paints picture second middle after) :
    Paints picture (fun x y => first x y ∨ second x y) before after where
  inside x y on there := by
    by_cases last : second x y
    · exact late.inside x y on last
    · obtain ⟨value, mark⟩ := early.inside x y on (there.resolve_right last)
      refine ⟨(late.outside x y on last).trans value, ?_⟩
      rcases late.marks (getAddrFromXY x y) with marked | same
      · exact marked
      · rw [same]
        exact mark
  outside x y on apart := by
    rw [late.outside x y on fun there => apart (.inr there),
      early.outside x y on fun there => apart (.inl there)]
  marks := marks_trans early.marks late.marks

theorem Paints.congr (paints : Paints picture first before after)
    (same : ∀ x y, OnScreen x y → (first x y ↔ second x y)) :
    Paints picture second before after where
  inside x y on there := paints.inside x y on ((same x y on).mpr there)
  outside x y on apart := paints.outside x y on fun there => apart ((same x y on).mp there)
  marks := paints.marks

/-- A store paints what is under its mask, when its word is what the picture has there. -/
theorem paints_put {cells : Cells} {x y : Int} (on : OnScreen x y) {mask word : UInt8}
    (drawn : ∀ y', OnScreen x y' → y' / 4 = y / 4 → bit mask (y' % 4).toNat = true →
      bit word (y' % 4).toNat = picture x y') :
    Paints picture (fun x' y' => (x' = x ∧ y' / 4 = y / 4) ∧ bit mask (y' % 4).toNat = true)
      cells (put cells (getAddrFromXY x y) mask (word &&& mask)) where
  inside x' y' other there := by
    obtain ⟨⟨rfl, group⟩, under⟩ := there
    constructor
    · rw [pixel_put cells on other, if_pos ⟨⟨rfl, group⟩, under⟩]
      exact drawn y' other group under
    · have same : getAddrFromXY x' y = getAddrFromXY x' y' :=
        (address_same on other).mpr ⟨rfl, group.symm⟩
      rw [put, load_store, if_pos ⟨same, address_inside on⟩]
      exact marked_or _
  outside x' y' other apart := by
    rw [pixel_put cells on other, if_neg apart]
  marks := put_marks _ _ _ _

/-- The rows of a column that a store paints, when they are those of its group under its mask. -/
theorem paints_rows {cells : Cells} {x y : Int} (on : OnScreen x y) {mask word : UInt8}
    {rows : Int → Prop}
    (drawn : ∀ y', OnScreen x y' → y' / 4 = y / 4 → bit mask (y' % 4).toNat = true →
      bit word (y' % 4).toNat = picture x y')
    (under : ∀ y', OnScreen x y' →
      (y' / 4 = y / 4 ∧ bit mask (y' % 4).toNat = true ↔ rows y')) :
    Paints picture (fun x' y' => x' = x ∧ rows y')
      cells (put cells (getAddrFromXY x y) mask (word &&& mask)) := by
  apply (paints_put on drawn).congr
  intro x' y' other
  constructor
  · rintro ⟨⟨rfl, group⟩, covered⟩
    exact ⟨rfl, (under y' other).mp ⟨group, covered⟩⟩
  · rintro ⟨rfl, there⟩
    obtain ⟨group, covered⟩ := (under y' other).mpr there
    exact ⟨⟨rfl, group⟩, covered⟩

end OClock.MatrixPixels
