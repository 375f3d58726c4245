import Mathlib.Data.BitVec
import OClock.MatrixPixels
import OClock.PackedPoints

/-!
The frame buffers as a store of pixels. Four pixels of a column and the rewrite flag share a
`char`, which the code computes with as an `int` and which may have a sign. What the cells hold
for a pixel is what a plane-by-x-by-y map holds that is updated point by point.
-/

namespace OClock.FrameBuffers
open Ht1632 MatrixDrawing MatrixPixels Trace PackedPoints

/-! ### Cells as the code computes with them -/

/-- A `char` in an expression. Whether it has a sign is up to the platform. -/
def promoted (isSigned : Bool) (cell : UInt8) : BitVec 32 :=
  if isSigned then cell.toBitVec.signExtend 32 else cell.toBitVec.setWidth 32

/-- An `int` that is assigned to a `char`. -/
def narrowed (value : BitVec 32) : UInt8 := UInt8.ofBitVec (value.setWidth 8)

/-- `setPixel` with the arithmetic of `int`. -/
def paintChar (isSigned : Bool) (x y : Int) (datum : Bool) (display : Display) : Display :=
  match display.tgtBuffer with
  | none => display
  | some t =>
      if x < 0 ∨ x ≥ outSize ∨ y < 0 ∨ y ≥ comSize then display
      else
        let cells := display.mem t
        let address := getAddrFromXY x y
        let cell := promoted isSigned (load cells address)
        let bit := (1 : BitVec 32) <<< (y.tmod 4).toNat
        let drawn := if datum then cell ||| bit else cell &&& ~~~bit
        withCells display t (store cells address (narrowed (drawn ||| 0b00010000)))

/-- A pixel as it is read back: bit `y` mod 4 of the cell at `GET_ADDR_FROM_X_Y`. -/
def readPixel (isSigned : Bool) (display : Display) (t : Fin 3) (x y : Int) : Bool :=
  promoted isSigned (load (display.mem t) (getAddrFromXY x y)) &&&
    (1 : BitVec 32) <<< (y.tmod 4).toNat != 0

theorem promoted_low (isSigned : Bool) (cell : UInt8) :
    (promoted isSigned cell).setWidth 8 = cell.toBitVec := by
  cases isSigned with
  | true =>
      apply BitVec.eq_of_getLsbD_eq
      intro i inside
      simp [promoted, BitVec.getLsbD_signExtend, inside]
      omega
  | false => simp [promoted]

theorem shifted_one : ∀ k < 4, (1 <<< UInt8.ofNat k : UInt8).toBitVec = 1#8 <<< k := by decide

theorem shifted_low : ∀ k < 4, ((1 : BitVec 32) <<< k).setWidth 8 = 1#8 <<< k := by decide

theorem cleared_low : ∀ k < 4, (~~~((1 : BitVec 32) <<< k)).setWidth 8 = ~~~(1#8 <<< k) := by decide

/-- The eight low bits of what the code computes do not see the sign. -/
theorem narrowed_drawn (isSigned : Bool) (cell : UInt8) (datum : Bool) {k : Nat} (low : k < 4) :
    narrowed ((if datum then promoted isSigned cell ||| (1 : BitVec 32) <<< k
        else promoted isSigned cell &&& ~~~((1 : BitVec 32) <<< k)) ||| 0b00010000) =
      (if datum then cell ||| 1 <<< UInt8.ofNat k else cell &&& ~~~(1 <<< UInt8.ofNat k)) |||
        maskNeedsRewriting := by
  apply UInt8.toBitVec_inj.mp
  cases datum with
  | true =>
      simp only [narrowed, if_true, BitVec.setWidth_or, promoted_low, shifted_low k low,
        UInt8.toBitVec_or, shifted_one k low]
      rfl
  | false =>
      simp only [narrowed, Bool.false_eq_true, if_false, BitVec.setWidth_or, BitVec.setWidth_and,
        promoted_low, cleared_low k low, UInt8.toBitVec_or, UInt8.toBitVec_and,
        UInt8.toBitVec_not, shifted_one k low]
      rfl

theorem quarter_low (y : Int) : (y % 4).toNat < 4 := by omega

theorem tmod_quarter {y : Int} (top : 0 ≤ y) : (y.tmod 4).toNat = (y % 4).toNat := by
  rw [Int.tmod_eq_emod_of_nonneg top]

/-- With a sign or without one, `setPixel` is the same change of bytes. -/
theorem paintChar_eq (isSigned : Bool) (x y : Int) (datum : Bool) (display : Display) :
    paintChar isSigned x y datum display = paintPixel x y datum display := by
  unfold paintChar paintPixel
  cases display.tgtBuffer with
  | none => rfl
  | some t =>
      dsimp only
      split
      · rfl
      · next inside =>
        have top : 0 ≤ y := by omega
        rw [tmod_quarter top, narrowed_drawn isSigned _ datum (quarter_low y)]

theorem promoted_place (isSigned : Bool) (cell : UInt8) {k : Nat} (inside : k < 8) :
    (promoted isSigned cell).getLsbD k = bit cell k := by
  have low := congrArg (BitVec.getLsbD · k) (promoted_low isSigned cell)
  simp only [BitVec.getLsbD_setWidth, inside, decide_true, Bool.true_and] at low
  exact low

theorem promoted_bit (isSigned : Bool) (cell : UInt8) {k : Nat} (low : k < 4) :
    (promoted isSigned cell &&& (1 : BitVec 32) <<< k != 0) = bit cell k := by
  have place := promoted_place isSigned cell (Nat.lt_trans low (by decide : 4 < 8))
  have one : (1 : BitVec 32) <<< k = BitVec.twoPow 32 k := (BitVec.twoPow_eq 32 k).symm
  rw [one, BitVec.and_twoPow, place]
  cases bit cell k with
  | true =>
      have real : ∀ k < 4, BitVec.twoPow 32 k ≠ 0 := by decide
      simpa using real k low
  | false => rfl

theorem readPixel_eq (isSigned : Bool) (display : Display) (t : Fin 3) (x : Int) {y : Int}
    (top : 0 ≤ y) : readPixel isSigned display t x y = pixel (display.mem t) x y := by
  rw [readPixel, tmod_quarter top, promoted_bit isSigned _ (quarter_low y)]
  rfl

/-! ### Pixels as points of a store -/

/-- A plane, and a place on the screen. -/
abbrev Point := Fin 3 × Fin 128 × Fin 16

theorem onScreen (x : Fin 128) (y : Fin 16) : OnScreen x y := by
  have right : (x : Int) < 128 := by omega
  have bottom : (y : Int) < 16 := by omega
  exact ⟨⟨Int.natCast_nonneg x, right⟩, Int.natCast_nonneg y, bottom⟩

def pixels : Packing Point (Fin 3 × Nat) (Fin 4) UInt8 Bool where
  address point := (point.1, getAddrFromXY point.2.1 point.2.2)
  place point := ⟨point.2.2 % 4, Nat.mod_lt _ (by decide)⟩
  look cell place := bit cell place
  apart := by
    rintro ⟨t, x, y⟩ ⟨t', x', y'⟩ shared same
    obtain ⟨plane, cell⟩ := Prod.mk.inj shared
    obtain ⟨column, group⟩ := (address_same (onScreen x y) (onScreen x' y')).mp cell
    have row := congrArg Fin.val same
    simp only at row
    have sameX : x = x' := by omega
    have sameY : y = y' := by omega
    exact Prod.ext plane (Prod.ext sameX sameY)

/-- The cells of all planes. -/
def cellsOf (display : Display) (address : Fin 3 × Nat) : UInt8 :=
  load (display.mem address.1) address.2

theorem readPixel_read (isSigned : Bool) (display : Display) (point : Point) :
    readPixel isSigned display point.1 point.2.1 point.2.2 =
      pixels.read (cellsOf display) point := by
  obtain ⟨t, x, y⟩ := point
  have row : ((y : Int) % 4).toNat = y % 4 := by omega
  rw [readPixel_eq isSigned display t x (onScreen x y).down.1, pixel, row]
  rfl

theorem cellsOf_store (display : Display) (t : Fin 3) {address : Nat}
    (inside : address < addrSpaceSize) (value : UInt8) :
    cellsOf (withCells display t (store (display.mem t) address value)) =
      Function.update (cellsOf display) (t, address) value := by
  funext ⟨s, i⟩
  by_cases plane : s = t
  · subst plane
    simp only [cellsOf, withCells, Function.update_self, load_store]
    -- In the plane itself the cells differ at the address alone.
    by_cases hit : address = i
    · subst hit
      rw [if_pos ⟨rfl, inside⟩, Function.update_self]
    · have other : (s, i) ≠ (s, address) := fun same => hit (Prod.mk.inj same).2.symm
      rw [if_neg (fun both => hit both.1), Function.update_of_ne other]
      rfl
  · have other : (s, i) ≠ (t, address) := fun same => plane (Prod.mk.inj same).1
    simp only [cellsOf, withCells, Function.update_of_ne plane, Function.update_of_ne other]

theorem bit_one : ∀ k < 4, ∀ b < 4, bit (1 <<< UInt8.ofNat k) b = decide (b = k) := by decide

/-- A pixel that is drawn is set, and the three others of its cell stay. -/
theorem drawn_sets (cell : UInt8) (datum : Bool) (place : Fin 4) :
    pixels.Sets place datum cell
      ((if datum then cell ||| 1 <<< UInt8.ofNat place
        else cell &&& ~~~(1 <<< UInt8.ofNat place)) ||| maskNeedsRewriting) where
  here := by
    have one := bit_one place place.isLt place place.isLt
    have inside : (place : Nat) < 8 := Nat.lt_trans place.isLt (by decide)
    cases datum <;> simp [pixels, bit_or, bit_and, bit_not, bit_rewriting, inside, one]
  others other different := by
    have one := bit_one place place.isLt other other.isLt
    have apart : (other : Nat) ≠ place := fun same => different (Fin.ext same)
    have inside : (other : Nat) < 8 := Nat.lt_trans other.isLt (by decide)
    cases datum <;> simp [pixels, bit_or, bit_and, bit_not, bit_rewriting, inside, one, apart]

/-- The flag is no place of a pixel. -/
theorem flag_alike (cell : UInt8) (place : Fin 4) :
    pixels.look (cell ||| maskNeedsRewriting) place = pixels.look cell place ∧
      pixels.look (cell &&& ~~~maskNeedsRewriting) place = pixels.look cell place := by
  have inside : (place : Nat) < 8 := Nat.lt_trans place.isLt (by decide)
  simp [pixels, bit_or, bit_and, bit_not, bit_rewriting, inside]

/-! ### A map of pixels -/

/-- The value of every pixel of every plane, and the plane that is drawn on. -/
structure Canvas where
  target : Option (Fin 3)
  value : Point → Bool

inductive Stroke where
  | drawTarget (targetBuffer : Int)
  | setPixel (x y : Int) (datum : Bool)
  | clear
  | clearAll

/-- What the map has for each stroke. The planes are wiped in turn, so without a plane to go
back to the last one stays the target. -/
def Canvas.draw (canvas : Canvas) : Stroke → Canvas
  | .drawTarget targetBuffer =>
      if inside : 0 ≤ targetBuffer ∧ targetBuffer.toNat < 3 then
        { canvas with target := some ⟨targetBuffer.toNat, inside.2⟩ }
      else canvas
  | .setPixel x y datum =>
      { canvas with
        value := fun point =>
          if canvas.target = some point.1 ∧ (point.2.1 : Int) = x ∧ (point.2.2 : Int) = y then datum
          else canvas.value point }
  | .clear =>
      { canvas with
        value := fun point =>
          if canvas.target = some point.1 then false else canvas.value point }
  | .clearAll => ⟨some (canvas.target.getD bufferSecondary), fun _ => false⟩

def Stroke.method (isSigned : Bool) : Stroke → Method
  | .drawTarget targetBuffer => Ht1632.drawTarget targetBuffer
  | .setPixel x y datum => change (paintChar isSigned x y datum)
  | .clear => Ht1632.clear
  | .clearAll => Ht1632.clearAll

/-- The strokes as operations of the driver. -/
def Stroke.op : Stroke → Op
  | .drawTarget targetBuffer => .drawTarget targetBuffer
  | .setPixel x y datum => .setPixel x y datum
  | .clear => .clear
  | .clearAll => .clearAll

theorem method_perform (isSigned : Bool) (stroke : Stroke) :
    stroke.method isSigned = perform stroke.op := by
  cases stroke with
  | setPixel x y datum =>
      funext display
      simp only [Stroke.method, Stroke.op, perform, setPixel, change, paintChar_eq]
  | _ => rfl

/-- The display after a stroke. -/
def stroked (isSigned : Bool) (display : Display) (stroke : Stroke) : Display :=
  final observe display (stroke.method isSigned display)

/-- The map that the buffers hold. -/
def canvasOf (isSigned : Bool) (display : Display) : Canvas :=
  ⟨display.tgtBuffer, fun point => readPixel isSigned display point.1 point.2.1 point.2.2⟩

theorem canvasOf_read (isSigned : Bool) (display : Display) :
    canvasOf isSigned display = ⟨display.tgtBuffer, pixels.read (cellsOf display)⟩ := by
  have read : (fun point : Point => readPixel isSigned display point.1 point.2.1 point.2.2) =
      pixels.read (cellsOf display) := funext (readPixel_read isSigned display)
  rw [canvasOf, read]

theorem drawTarget_canvas (isSigned : Bool) (display : Display) (targetBuffer : Int) :
    canvasOf isSigned (setTarget targetBuffer display) =
      (canvasOf isSigned display).draw (.drawTarget targetBuffer) := by
  by_cases inside : 0 ≤ targetBuffer ∧ targetBuffer < 3
  · have plane : 0 ≤ targetBuffer ∧ targetBuffer.toNat < 3 := by omega
    simp only [setTarget, Canvas.draw, dif_pos inside, dif_pos plane]
    rfl
  · have plane : ¬ (0 ≤ targetBuffer ∧ targetBuffer.toNat < 3) := by omega
    simp only [setTarget, Canvas.draw, dif_neg inside, dif_neg plane]

/-- A pixel that is drawn on the screen. -/
theorem painted_read (display : Display) {t : Fin 3} (target : display.tgtBuffer = some t)
    (x : Fin 128) (y : Fin 16) (datum : Bool) :
    pixels.read (cellsOf (paintPixel x y datum display)) =
      Function.update (pixels.read (cellsOf display)) (t, x, y) datum := by
  have on := onScreen x y
  have inside : ¬ ((x : Int) < 0 ∨ (x : Int) ≥ outSize ∨ (y : Int) < 0 ∨ (y : Int) ≥ comSize) := by
    obtain ⟨⟨left, right⟩, top, bottom⟩ := on
    omega
  have row : ((y : Int).tmod 4).toNat = y % 4 := by
    rw [tmod_quarter on.down.1]
    omega
  simp only [paintPixel, target, if_neg inside, row]
  rw [cellsOf_store display t (address_inside on)]
  have sets : pixels.Sets (pixels.place (t, x, y)) datum
      (cellsOf display (pixels.address (t, x, y))) _ := drawn_sets _ datum _
  exact Packing.read_update sets

theorem paintPixel_outside (display : Display) {x y : Int}
    (outside : x < 0 ∨ x ≥ outSize ∨ y < 0 ∨ y ≥ comSize) (datum : Bool) :
    paintPixel x y datum display = display := by
  unfold paintPixel
  cases display.tgtBuffer with
  | none => rfl
  | some t => exact if_pos outside

theorem paintPixel_target (display : Display) (x y : Int) (datum : Bool) :
    (paintPixel x y datum display).tgtBuffer = display.tgtBuffer := by
  unfold paintPixel
  cases target : display.tgtBuffer with
  | none => exact target
  | some t =>
      dsimp only
      split <;> exact target

theorem setPixel_canvas (isSigned : Bool) (display : Display) (x y : Int) (datum : Bool) :
    canvasOf isSigned (paintPixel x y datum display) =
      (canvasOf isSigned display).draw (.setPixel x y datum) := by
  rw [canvasOf_read, canvasOf_read, paintPixel_target]
  simp only [Canvas.draw, Canvas.mk.injEq, true_and]
  funext point
  cases target : display.tgtBuffer with
  | none => simp [paintPixel, target]
  | some t =>
      by_cases outside : x < 0 ∨ x ≥ outSize ∨ y < 0 ∨ y ≥ comSize
      · -- Off the screen there is no point to update.
        have on := onScreen point.2.1 point.2.2
        obtain ⟨⟨left, right⟩, top, bottom⟩ := on
        rw [paintPixel_outside display outside, if_neg]
        rintro ⟨_, rfl, rfl⟩
        omega
      · simp only [outSize, comSize] at outside
        obtain ⟨column, rfl⟩ : ∃ column : Fin 128, (column : Int) = x :=
          ⟨⟨x.toNat, by omega⟩, by simp; omega⟩
        obtain ⟨row, rfl⟩ : ∃ row : Fin 16, (row : Int) = y :=
          ⟨⟨y.toNat, by omega⟩, by simp; omega⟩
        rw [painted_read display target, Function.update_apply]
        have same : point = (t, column, row) ↔ some t = some point.1 ∧
            (point.2.1 : Int) = column ∧ (point.2.2 : Int) = row := by
          simp only [Prod.ext_iff, Fin.ext_iff, Option.some.injEq]
          omega
        simp only [same]

theorem load_wiped (i : Nat) : load (Vector.replicate addrSpaceSize 0) i = 0 := by
  by_cases inside : i < addrSpaceSize <;> simp [load, inside]

theorem cellsOf_wiped (display : Display) (t : Fin 3) :
    cellsOf (withGlobal (withCells display t (Vector.replicate addrSpaceSize 0)) t true) =
      fun address => if some t = some address.1 then 0 else cellsOf display address := by
  funext ⟨s, i⟩
  by_cases plane : s = t
  · subst plane
    rw [if_pos rfl]
    simp only [cellsOf, withGlobal, withCells, Function.update_self, load_wiped]
  · rw [if_neg fun same => plane (Option.some.inj same).symm]
    simp only [cellsOf, withGlobal, withCells, Function.update_of_ne plane]

theorem clear_canvas (isSigned : Bool) (display : Display) :
    canvasOf isSigned (clearTarget display) = (canvasOf isSigned display).draw .clear := by
  rw [canvasOf_read, canvasOf_read]
  cases target : display.tgtBuffer with
  | none => simp [clearTarget, Canvas.draw, target]
  | some t =>
      have empty : ∀ place, pixels.look 0 place = false := by decide
      simp only [clearTarget, target, Canvas.draw, cellsOf_wiped]
      rw [Canvas.mk.injEq]
      exact ⟨target, funext (Packing.read_wiped empty)⟩

/-- The loop of `clearAll` over the planes, and the way back to the target. -/
theorem clearAll_display (display : Display) :
    final observe display (clearAll display) =
      display.tgtBuffer.elim id (fun t => setTarget (t : Nat))
        (clearTarget (setTarget 2 (clearTarget (setTarget 1 (clearTarget
          (setTarget 0 display)))))) := by
  unfold clearAll eachBoard
  cases display.tgtBuffer with
  | none => rfl
  | some t => rfl

theorem draw_target (canvas : Canvas) (t : Fin 3) :
    canvas.draw (.drawTarget (t : Nat)) = { canvas with target := some t } :=
  dif_pos (by omega)

theorem draw_plane (canvas : Canvas) (t : Fin 3) :
    (canvas.draw (.drawTarget (t : Nat))).draw .clear =
      ⟨some t, fun point => if some t = some point.1 then false else canvas.value point⟩ := by
  rw [draw_target]
  rfl

/-- Clearing the planes one after another leaves no pixel lit. -/
theorem draw_planes (canvas : Canvas) :
    (((((canvas.draw (.drawTarget (0 : Fin 3).val)).draw .clear).draw
      (.drawTarget (1 : Fin 3).val)).draw .clear).draw (.drawTarget (2 : Fin 3).val)).draw .clear =
        ⟨some 2, fun _ => false⟩ := by
  have planes : ∀ t : Fin 3, t = 2 ∨ t = 1 ∨ t = 0 := by decide
  simp only [draw_plane, Canvas.mk.injEq, true_and]
  funext point
  -- The last clear of the plane of a point is the one that counts.
  rcases planes point.1 with plane | plane | plane <;> simp [plane]

theorem clearAll_canvas (isSigned : Bool) (display : Display) :
    canvasOf isSigned (final observe display (clearAll display)) =
      (canvasOf isSigned display).draw .clearAll := by
  have wiped : canvasOf isSigned (clearTarget (setTarget 2 (clearTarget (setTarget 1
      (clearTarget (setTarget 0 display)))))) = ⟨some 2, fun _ => false⟩ := by
    simp only [clear_canvas, drawTarget_canvas]
    exact draw_planes _
  have target : (canvasOf isSigned display).target = display.tgtBuffer := rfl
  rw [clearAll_display, Canvas.draw, target]
  cases display.tgtBuffer with
  | none => exact wiped
  | some t =>
      rw [Option.elim_some, drawTarget_canvas, wiped, draw_target]
      rfl

/-- A cell whose pixels stay. -/
theorem alike_canvas (isSigned : Bool) (display : Display) (t : Fin 3) (address : Nat)
    {value : UInt8}
    (alike : ∀ place, pixels.look value place =
      pixels.look (cellsOf display (t, address)) place) :
    canvasOf isSigned (withCells display t (store (display.mem t) address value)) =
      canvasOf isSigned display := by
  by_cases inside : address < addrSpaceSize
  · have kept : pixels.read (Function.update (cellsOf display) (t, address) value) =
        pixels.read (cellsOf display) := Packing.read_alike alike
    rw [canvasOf_read, canvasOf_read, cellsOf_store display t inside, kept]
    rfl
  · have same : store (display.mem t) address value = display.mem t :=
      Vector.setIfInBounds_eq_of_size_le (Nat.le_of_not_lt inside)
    rw [same, withCells, Function.update_eq_self]

/-! ### Runs -/

theorem stroke_canvas (isSigned : Bool) (display : Display) (stroke : Stroke) :
    canvasOf isSigned (stroked isSigned display stroke) =
      (canvasOf isSigned display).draw stroke := by
  cases stroke with
  | drawTarget targetBuffer => exact drawTarget_canvas isSigned display targetBuffer
  | setPixel x y datum =>
      rw [stroked, method_perform]
      exact setPixel_canvas isSigned display x y datum
  | clear => exact clear_canvas isSigned display
  | clearAll => exact clearAll_canvas isSigned display

/-- The strokes of a run, one after another. -/
def strokeAll (isSigned : Bool) (strokes : List Stroke) : Method :=
  each observe (Stroke.method isSigned) strokes

theorem strokeAll_canvas (isSigned : Bool) (strokes : List Stroke) (display : Display) :
    canvasOf isSigned (final observe display (strokeAll isSigned strokes display)) =
      strokes.foldl Canvas.draw (canvasOf isSigned display) := by
  rw [strokeAll, final_each]
  exact (List.foldl_hom (canvasOf isSigned) fun display stroke =>
    (stroke_canvas isSigned display stroke).symm).symm

/-- For `char` with a sign or without, whatever the buffers hold at first: after every sequence of
strokes a pixel reads back as the map has it that is updated point by point; each group of four
pixels has a cell of its own; setting or resetting the rewrite flag of a cell changes no pixel;
and a pixel or a target out of range changes nothing at all. -/
theorem buffers_hold_pixels (isSigned : Bool) (display : Display) :
    (∀ (strokes : List Stroke) (t : Fin 3) (x : Fin 128) (y : Fin 16),
      readPixel isSigned (final observe display (strokeAll isSigned strokes display)) t x y =
        (strokes.foldl Canvas.draw (canvasOf isSigned display)).value (t, x, y)) ∧
    (∀ (x x' : Fin 128) (y y' : Fin 16), getAddrFromXY x y ≤ 511 ∧
      (getAddrFromXY x y = getAddrFromXY x' y' ↔ x = x' ∧ (y : Nat) / 4 = y' / 4)) ∧
    (∀ (t : Fin 3) (address : Nat),
      let cell := load (display.mem t) address
      let flagged (value : UInt8) := withCells display t (store (display.mem t) address value)
      canvasOf isSigned (flagged (cell ||| maskNeedsRewriting)) = canvasOf isSigned display ∧
        canvasOf isSigned (flagged (cell &&& ~~~maskNeedsRewriting)) =
          canvasOf isSigned display) ∧
    (∀ (x y : Int) (datum : Bool), x < 0 ∨ 128 ≤ x ∨ y < 0 ∨ 16 ≤ y →
      stroked isSigned display (.setPixel x y datum) = display) ∧
    ∀ targetBuffer : Int, targetBuffer < 0 ∨ 3 ≤ targetBuffer →
      stroked isSigned display (.drawTarget targetBuffer) = display := by
  refine ⟨?_, ?_, ?_, ?_, ?_⟩
  · intro strokes t x y
    exact congrFun (congrArg Canvas.value (strokeAll_canvas isSigned strokes display)) (t, x, y)
  · intro x x' y y'
    refine ⟨Nat.le_of_lt_succ (address_inside (onScreen x y)), ?_⟩
    rw [address_same (onScreen x y) (onScreen x' y')]
    omega
  · intro t address
    have alike := flag_alike (load (display.mem t) address)
    exact ⟨alike_canvas isSigned display t address fun place => (alike place).1,
      alike_canvas isSigned display t address fun place => (alike place).2⟩
  · intro x y datum outside
    rw [stroked, method_perform]
    exact paintPixel_outside display outside datum
  · intro targetBuffer outside
    have apart : ¬ (0 ≤ targetBuffer ∧ targetBuffer < 3) := by omega
    exact dif_neg apart

end OClock.FrameBuffers
