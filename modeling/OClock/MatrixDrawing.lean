import OClock.Ht1632

/-!
What the drawing methods may do to the buffers of the boards: a cell that changes is
marked for rewriting, or all cells of its board are.
-/

namespace OClock.MatrixDrawing
open Ht1632

/-! ### Cells -/

theorem load_store (cells : Cells) (address i : Nat) (value : UInt8) :
    load (store cells address value) i =
      if address = i ∧ address < addrSpaceSize then value else load cells i := by
  unfold load store
  rw [Vector.getElem?_setIfInBounds]
  by_cases hit : address = i
  · subst hit
    by_cases inside : address < addrSpaceSize
    · simp [inside]
    · simp [inside]
  · simp [hit]

def marked (cell : UInt8) : Bool := cell &&& maskNeedsRewriting != 0

theorem marked_or : ∀ cell : BitVec 8,
    marked (UInt8.ofBitVec cell ||| maskNeedsRewriting) = true := by decide

/-- A cell is marked, or it is as it was. -/
def Marks (before after : Cells) : Prop :=
  ∀ i, marked (load after i) = true ∨ load after i = load before i

theorem marks_refl (cells : Cells) : Marks cells cells := fun _ => .inr rfl

theorem marks_trans {first second third : Cells} (early : Marks first second)
    (late : Marks second third) : Marks first third := by
  intro i
  rcases late i with mark | same
  · exact .inl mark
  · rw [same]
    exact early i

theorem marks_store (cells : Cells) (address : Nat) (value : UInt8) :
    Marks cells (store cells address (value ||| maskNeedsRewriting)) := by
  intro i
  rw [load_store]
  split
  · exact .inl (marked_or value.toBitVec)
  · exact .inr rfl

theorem put_marks (cells : Cells) (address : Nat) (mask bits : UInt8) :
    Marks cells (put cells address mask bits) := marks_store cells address _

theorem copyShifted_marks (image : Image) (i j : Int) (column : Column) :
    Marks column.cells (copyShifted image i j column).cells := by
  unfold copyShifted
  dsimp only
  split
  · dsimp only
    split
    · exact put_marks _ _ _ _
    · exact marks_refl _
  · split
    · exact put_marks _ _ _ _
    · exact put_marks _ _ _ _

theorem drawRow_marks (image : Image) (i j : Int) (column : Column) :
    Marks column.cells (drawRow image i j column).cells := by
  unfold drawRow
  dsimp only
  split
  · exact marks_refl _
  · split
    · exact put_marks _ _ _ _
    · exact copyShifted_marks image i j column

theorem drawRows_marks (image : Image) (i : Int) (turns : Nat) (j : Int) (column : Column) :
    Marks column.cells (drawRows image i turns j column).cells := by
  induction turns generalizing j column with
  | zero => exact marks_refl _
  | succ turns ih =>
      rw [drawRows]
      split
      · exact marks_trans (drawRow_marks image i j column) (ih _ _)
      · exact marks_refl _

theorem drawColumn_marks (image : Image) (cells : Cells) (i : Nat) :
    Marks cells (drawColumn image cells i) := by
  unfold drawColumn
  dsimp only
  split
  · exact marks_refl cells
  · exact drawRows_marks image i _ 0 ⟨cells, 0, false⟩

theorem drawColumns_marks (image : Image) (columns : List Nat) (cells : Cells) :
    Marks cells (columns.foldl (drawColumn image) cells) := by
  induction columns generalizing cells with
  | nil => exact marks_refl cells
  | cons i rest ih => exact marks_trans (drawColumn_marks image cells i) (ih _)

/-! ### Boards -/

/-- Whether `render` of a board writes one of its cells. -/
def needs (display : Display) (t : Fin 3) (i : Nat) : Bool :=
  needsRewriting (display.globalNeedsRewriting t) (load (display.mem t) i)

theorem needs_marked {display : Display} {t : Fin 3} {i : Nat}
    (mark : marked (load (display.mem t) i) = true) : needs display t i = true := by
  unfold marked at mark
  simp [needs, needsRewriting, mark]

theorem needs_global {display : Display} {t : Fin 3}
    (all : display.globalNeedsRewriting t = true) (i : Nat) : needs display t i = true := by
  simp [needs, needsRewriting, all]

/-- On the boards that are shown, a cell needs rewriting afterwards, or it did not and
is as it was. -/
def Touches (before after : Display) : Prop :=
  ∀ t ≠ bufferSecondary, ∀ i, needs after t i = true ∨
    (needs before t i = false ∧ load (after.mem t) i = load (before.mem t) i)

/-- A board is marked as a whole, or its mark stays and its cells are marked. -/
theorem touches_of {before after : Display}
    (boards : ∀ t ≠ bufferSecondary, after.globalNeedsRewriting t = true ∨
      after.globalNeedsRewriting t = before.globalNeedsRewriting t ∧
        Marks (before.mem t) (after.mem t)) : Touches before after := by
  intro t shown i
  rcases boards t shown with all | ⟨global, marks⟩
  · exact .inl (needs_global all i)
  · rcases marks i with mark | same
    · exact .inl (needs_marked mark)
    · have equal : needs after t i = needs before t i := by
        unfold needs
        rw [global, same]
      cases calm : needs before t i with
      | true => exact .inl (equal.trans calm)
      | false => exact .inr ⟨rfl, same⟩

theorem touches_same {before after : Display} (mem : after.mem = before.mem)
    (all : after.globalNeedsRewriting = before.globalNeedsRewriting) : Touches before after :=
  touches_of fun t _ => .inr ⟨congrFun all t, by rw [mem]; exact marks_refl _⟩

theorem touches_refl (display : Display) : Touches display display := touches_same rfl rfl

theorem touches_trans {first second third : Display} (early : Touches first second)
    (late : Touches second third) : Touches first third := by
  intro t shown i
  rcases late t shown i with rewrite | ⟨calm, same⟩
  · exact .inl rewrite
  · rcases early t shown i with rewrite | ⟨before, kept⟩
    · rw [rewrite] at calm
      cases calm
    · exact .inr ⟨before, same.trans kept⟩

theorem withCells_touches (display : Display) (t : Fin 3) {cells : Cells}
    (marks : Marks (display.mem t) cells) : Touches display (withCells display t cells) := by
  refine touches_of fun s _ => .inr ⟨rfl, ?_⟩
  by_cases here : s = t
  · subst here
    simpa [withCells] using marks
  · simp [withCells, here, marks_refl]

theorem secondary_touches (display : Display) (cells : Cells) :
    Touches display (withCells display bufferSecondary cells) := by
  refine touches_of fun s shown => .inr ⟨rfl, ?_⟩
  simp [withCells, shown, marks_refl]

/-- Whatever is done to a board that is marked as a whole. -/
theorem withGlobal_touches {display : Display} {t : Fin 3} {after : Display}
    (all : after.globalNeedsRewriting = Function.update display.globalNeedsRewriting t true)
    (others : ∀ s ≠ bufferSecondary, s ≠ t → after.mem s = display.mem s) :
    Touches display after := by
  refine touches_of fun s shown => ?_
  by_cases here : s = t
  · subst here
    exact .inl (by simp [all])
  · exact .inr ⟨by simp [all, here], by rw [others s shown here]; exact marks_refl _⟩

/-! ### Methods -/

theorem setTarget_touches (targetBuffer : Int) (display : Display) :
    Touches display (setTarget targetBuffer display) := by
  unfold setTarget
  split
  · exact touches_same rfl rfl
  · exact touches_refl display

theorem paintPixel_touches (x y : Int) (datum : Bool) (display : Display) :
    Touches display (paintPixel x y datum display) := by
  unfold paintPixel
  split
  · exact touches_refl display
  · split
    · exact touches_refl display
    · exact withCells_touches display _ (marks_store _ _ _)

theorem copyImage_touches (image : Image) (display : Display) :
    Touches display (copyImage image display) := by
  unfold copyImage
  split
  · exact touches_refl display
  · split
    · exact touches_refl display
    · exact withCells_touches display _ (drawColumns_marks image _ _)

theorem copyImages_touches {Index : Type} (image : Index → Image) (indices : List Index)
    (display : Display) :
    Touches display (indices.foldl (fun drawn j => copyImage (image j) drawn) display) := by
  induction indices generalizing display with
  | nil => exact touches_refl display
  | cons j rest ih => exact touches_trans (copyImage_touches (image j) display) (ih _)

theorem copyChar_touches (font : Font) (currX y gutterSpace currchar : Int) (display : Display) :
    Touches display (copyChar font currX y gutterSpace currchar display) :=
  touches_trans (copyImage_touches _ display) (copyImages_touches _ _ _)

theorem copyText_touches (font : Font) (y gutterSpace : Int) (text : List UInt8) (currX : Int)
    (display : Display) : Touches display (copyText font y gutterSpace text currX display) := by
  induction text generalizing currX display with
  | nil => exact touches_refl display
  | cons c rest ih =>
      unfold copyText
      split
      · exact touches_refl display
      · split
        · exact ih currX display
        · split
          · exact touches_refl display
          · dsimp only
            split
            · exact touches_trans (copyChar_touches _ _ _ _ _ display) (ih _ _)
            · exact ih _ _

theorem clearTarget_touches (display : Display) : Touches display (clearTarget display) := by
  unfold clearTarget
  split
  · exact touches_refl display
  · refine withGlobal_touches rfl fun s _ other => ?_
    simp [withGlobal, withCells, other]

theorem swapBuffers_touches (t : Fin 3) (display : Display) :
    Touches display (swapBuffers t display) := by
  refine withGlobal_touches rfl fun s shown other => ?_
  simp [swapBuffers, withGlobal, withCells, other, shown]

theorem transitionCells_touches (mode : Int) (t : Fin 3) (display : Display) :
    Touches display (transitionCells mode t display) := by
  have all : ∀ cells, Touches display (withGlobal (withCells display t cells) t true) := by
    intro cells
    refine withGlobal_touches rfl fun s _ other => ?_
    simp [withGlobal, withCells, other]
  unfold transitionCells
  dsimp only
  split
  · exact swapBuffers_touches t display
  split
  · exact secondary_touches display _
  split
  · exact secondary_touches display _
  split
  · exact secondary_touches display _
  split
  · exact all _
  split
  · exact all _
  · exact touches_refl display

end OClock.MatrixDrawing
