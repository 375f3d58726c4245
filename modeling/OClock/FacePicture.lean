import OClock.ClockFace
import OClock.FrameBuffers
import OClock.MatrixRun
import OClock.Overlay
import OClock.TextPixels

/-!
The face of the clock as a picture: every part has a box of the panel to itself, and the buffers
hold what the parts show, each as if it were drawn alone.
-/

namespace OClock.FacePicture
open Text Ht1632 MatrixPixels ImageColumn ImagePixels TextCulling TextPixels Images DrawCalls
open ClockFace FrameBuffers Overlay Trace

/-- The literals of `Fin 3` below take this instance. -/
local instance threeBuffers : NeZero 3 := ⟨by decide⟩

/-! ### What a call leaves in the buffers -/

def stroke (arrays : Fonts.FontArrays) (display : Display) (call : MatrixCall) : Display :=
  final observe display (perform (call.op arrays) display)

theorem final_pins (display : Display) (writes : List (SerialLine.Write SelectChain.Line)) :
    final observe display (pins writes display) = display := by
  induction writes with
  | nil => rfl
  | cons write rest ih => exact ih

theorem final_block (display : Display) (statement : Method) (rest : List Method) :
    final observe display (block (statement :: rest) display) =
      final observe (final observe display (statement display))
        (block rest (final observe display (statement display))) := by
  rw [block, each, andThen, final_append]
  rfl

theorem render_mem (display : Display) :
    (final observe display (render display)).mem = display.mem := by
  unfold render
  cases display.tgtBuffer with
  | none => rfl
  | some t =>
      dsimp only
      split
      · rfl
      · rw [final_block, final_pins]
        rfl

theorem setTarget_mem (targetBuffer : Int) (display : Display) :
    (setTarget targetBuffer display).mem = display.mem := by
  unfold setTarget
  split <;> rfl

theorem restoreTarget_mem (saveTarget : Option (Fin 3)) (display : Display) :
    (final observe display (restoreTarget saveTarget display)).mem = display.mem := by
  cases saveTarget with
  | none => rfl
  | some saveTarget => exact setTarget_mem _ display

/-- A loop over the boards keeps the cells when its body does. -/
theorem eachBoard_mem {body : Method}
    (keeps : ∀ display, (final observe display (body display)).mem = display.mem)
    (display : Display) : (final observe display (eachBoard body display)).mem = display.mem := by
  have turn : ∀ (display : Display) (i : Int),
      (final observe display (block [drawTarget i, body] display)).mem = display.mem := by
    intro display i
    rw [final_block, final_block]
    exact (keeps _).trans (setTarget_mem i display)
  rw [eachBoard, final_block, final_block]
  refine (restoreTarget_mem _ _).trans ?_
  rw [final_each, List.foldl_cons, List.foldl_cons, List.foldl_cons, List.foldl_nil, turn, turn,
    turn]

theorem initializeChips_mem (display : Display) :
    (final observe display (initializeChips display)).mem = display.mem := by
  rw [initializeChips, final_block, final_pins, final_block, final_pins]
  rfl

theorem setBrightness_mem (brightnessParam : Int) (display : Display) :
    (final observe display (setBrightness brightnessParam display)).mem = display.mem := by
  unfold setBrightness
  split
  · rfl
  · rw [final_block, final_block, final_pins, final_block, final_pins]
    rfl

/-- Calls that talk to the chips, and the choice of a board, leave the cells alone. -/
def Quiet : MatrixCall → Prop
  | .drawTarget _ | .render | .renderAll | .setBrightness _ | .reinit => True
  | _ => False

theorem quiet_mem (arrays : Fonts.FontArrays) {call : MatrixCall} (quiet : Quiet call)
    (display : Display) : (stroke arrays display call).mem = display.mem := by
  cases call with
  | drawTarget targetBuffer => exact setTarget_mem targetBuffer display
  | render => exact render_mem display
  | renderAll => exact eachBoard_mem render_mem display
  | setBrightness brightnessParam => exact setBrightness_mem brightnessParam display
  | reinit =>
      change (final observe display (reinit display)).mem = _
      rw [reinit, final_block, final_block, block, final_each, List.foldl_nil,
        eachBoard_mem render_mem, initializeChips_mem]
  | _ => cases quiet

/-! ### What a call paints -/

/-- Whether a pixel of the buffers is on. -/
def Lit (display : Display) (point : Point) : Prop :=
  pixel (display.mem point.1) point.2.1 point.2.2 = true

theorem canvas_pixel (display : Display) (point : Point) :
    (canvasOf false display).value point =
      pixel (display.mem point.1) point.2.1 point.2.2 :=
  readPixel_eq false display point.1 point.2.1 (onScreen point.2.1 point.2.2).down.1

/-- On whatever board a call is made, these pixels of it get these values. -/
structure Painted (arrays : Fonts.FontArrays) (call : MatrixCall)
    (area : Fin 128 → Fin 16 → Prop) (dots : Fin 128 → Fin 16 → Bool) : Prop where
  inside : ∀ display t, display.tgtBuffer = some t → ∀ x y, area x y →
    pixel ((stroke arrays display call).mem t) (x : Nat) (y : Nat) = dots x y
  outside : ∀ display t, display.tgtBuffer = some t → ∀ s x y, ¬ (s = t ∧ area x y) →
    pixel ((stroke arrays display call).mem s) (x : Nat) (y : Nat) =
      pixel (display.mem s) (x : Nat) (y : Nat)
  target : ∀ display t, display.tgtBuffer = some t →
    (stroke arrays display call).tgtBuffer = some t

/-- A drawing that only changes its target, from what it paints there. -/
theorem painted_of {arrays : Fonts.FontArrays} {call : MatrixCall} (picture : Int → Int → Bool)
    (area : Int → Int → Prop)
    (paints : ∀ display t, display.tgtBuffer = some t →
      Paints picture area (display.mem t) ((stroke arrays display call).mem t) ∧
        DrawnOn t display (stroke arrays display call)) :
    Painted arrays call (fun x y => area (x : Nat) (y : Nat))
      (fun x y => picture (x : Nat) (y : Nat)) where
  inside display t target x y there := ((paints display t target).1.inside _ _ (onScreen x y) there).1
  outside display t target s x y apart := by
    obtain ⟨paint, drawn⟩ := paints display t target
    by_cases board : s = t
    · subst board
      exact paint.outside _ _ (onScreen x y) fun there => apart ⟨rfl, there⟩
    · rw [drawn.others s board]
  target display t target := (paints display t target).2.target.trans target

theorem copyImages_drawn (images : List Image) {display : Display} {t : Fin 3}
    (target : display.tgtBuffer = some t) : DrawnOn t display (copyImages images display) := by
  induction images generalizing display with
  | nil => exact ⟨fun _ _ => rfl, rfl, rfl, rfl⟩
  | cons image rest ih =>
      have first := @copyImage_drawn image display t target
      have later := ih (first.target.trans target)
      exact ⟨fun other apart => (later.others other apart).trans (first.others other apart),
        later.globals.trans first.globals, later.target.trans first.target,
        later.brightness.trans first.brightness⟩

/-- How far a text goes on, with a column behind each character. -/
def advance (fontWidth : List Int) : Bytes → Int
  | [] => 0
  | c :: rest =>
      match currChar c with
      | none => advance fontWidth rest
      | some currchar => fontWidth[currchar.toNat]?.getD 0 + 1 + advance fontWidth rest

abbrev tables (arrays : Fonts.FontArrays) (font : Fonts.Font) : Font :=
  (TextBounds.fontTables arrays font).plain

theorem tables_width (arrays : Fonts.FontArrays) (font : Fonts.Font) (currchar : Int) :
    (tables arrays font).fontWidth currchar =
      (Fonts.getFontWidth font)[currchar.toNat]?.getD 0 := rfl

theorem plainText_advances (arrays : Fonts.FontArrays) (font : Fonts.Font) (top x : Int)
    (text : Bytes) :
    (plainText (tables arrays font) top 1 text x).2 =
      x + advance (Fonts.getFontWidth font) text := by
  induction text generalizing x with
  | nil => exact (Int.add_zero x).symm
  | cons c rest ih =>
      rw [plainText, advance]
      cases currChar c with
      | none => exact ih x
      | some currchar =>
          dsimp only
          rw [ih, tables_width, Int.add_assoc]

theorem advance_append (fontWidth : List Int) (first second : Bytes) :
    advance fontWidth (first ++ second) = advance fontWidth first + advance fontWidth second := by
  induction first with
  | nil => exact (Int.zero_add _).symm
  | cons c rest ih =>
      rw [List.cons_append, advance, advance]
      cases currChar c with
      | none => exact ih
      | some currchar =>
          dsimp only
          omega

/-- The columns of a text, in the rows that its images paint. -/
def TextArea (arrays : Fonts.FontArrays) (text : Bytes) (x y : Int) (font : Fonts.Font)
    (column : Fin 128) (row : Fin 16) : Prop :=
  (x ≤ (column : Nat) ∧ ((column : Nat) : Int) < x + advance (Fonts.getFontWidth font) text) ∧
    PaintedRow (tables arrays font) y (row : Nat)

theorem text_painted {arrays : Fonts.FontArrays} (bits : FourBits arrays) {text : Bytes}
    (clean : 0 ∉ text) (x y : Int) (font : Fonts.Font) :
    Painted arrays (.drawText text x y font) (TextArea arrays text x y font) fun column row =>
      textDot (tables arrays font) text ((column : Nat) - x) ((row : Nat) - y) := by
  have legible := fontTables_legible bits font
  refine painted_of (fun s r => textDot (tables arrays font) text (s - x) (r - y))
    (fun s r => (x ≤ s ∧ s < x + advance (Fonts.getFontWidth font) text) ∧
      PaintedRow (tables arrays font) y r)
    fun display t target => ?_
  have images : stroke arrays display (.drawText text x y font) =
      copyImages (plainText (tables arrays font) y 1 text x).1 display :=
    drawText_images legible.advances text [] clean x display
  rw [images, ← plainText_advances arrays font y x text]
  exact ⟨text_paints legible text x target, copyImages_drawn _ target⟩

theorem image_painted (arrays : Fonts.FontArrays) {imgArtInfo : ImgArtInfo} {x y : Int}
    (drawable : Drawable (imgArtInfo.source x y).image) :
    Painted arrays (.drawImage imgArtInfo x y)
      (fun column row => InColumns (imgArtInfo.source x y).image (column : Nat) ∧
        ImageColumn.Painted (imgArtInfo.source x y).image (row : Nat))
      fun column row => ink (imgArtInfo.source x y).image (column : Nat) (row : Nat) :=
  painted_of (ink (imgArtInfo.source x y).image)
    (fun s r => InColumns (imgArtInfo.source x y).image s ∧
      ImageColumn.Painted (imgArtInfo.source x y).image r)
    fun display t target => ⟨copyImage_paints drawable target,
      @copyImage_drawn (imgArtInfo.source x y).image display t target⟩

theorem pixel_painted (arrays : Fonts.FontArrays) (x : Fin 128) (y : Fin 16) (datum : Bool) :
    Painted arrays (.setPixel (x : Nat) (y : Nat) datum)
      (fun column row => column = x ∧ row = y) fun _ _ => datum where
  inside display t target column row there := by
    obtain ⟨rfl, rfl⟩ := there
    have value := congrFun (congrArg Canvas.value (setPixel_canvas false display column row datum))
      (t, column, row)
    rw [canvas_pixel] at value
    refine value.trans (if_pos ⟨target, rfl, rfl⟩)
  outside display t target s column row apart := by
    have value := congrFun (congrArg Canvas.value (setPixel_canvas false display x y datum))
      (s, column, row)
    rw [canvas_pixel] at value
    refine value.trans ((if_neg ?_).trans (canvas_pixel display (s, column, row)))
    rintro ⟨board, sameX, sameY⟩
    refine apart ⟨?_, Fin.ext (Int.ofNat.inj sameX), Fin.ext (Int.ofNat.inj sameY)⟩
    exact Option.some.inj (board.symm.trans target)
  target display t target := (paintPixel_target display x y datum).trans target

/-- The board without a pixel. -/
def emptyBoard : Display := setTarget 0 (.new fun _ => Vector.replicate addrSpaceSize 0)

/-- What a call shows when it is all that is drawn. -/
def inkOf (arrays : Fonts.FontArrays) (call : MatrixCall) (x : Fin 128) (y : Fin 16) : Bool :=
  pixel ((stroke arrays emptyBoard call).mem 0) (x : Nat) (y : Nat)

theorem emptyBoard_dark (t : Fin 3) (x y : Int) : pixel (emptyBoard.mem t) x y = false := by
  have wiped : emptyBoard.mem t = Vector.replicate addrSpaceSize 0 := rfl
  rw [pixel, wiped, load_wiped, bit]
  exact Nat.zero_testBit _

theorem inkOf_iff {arrays : Fonts.FontArrays} {call : MatrixCall}
    {area : Fin 128 → Fin 16 → Prop} {dots : Fin 128 → Fin 16 → Bool}
    (painted : Painted arrays call area dots) (x : Fin 128) (y : Fin 16) :
    inkOf arrays call x y = true ↔ area x y ∧ dots x y = true := by
  by_cases there : area x y
  · rw [inkOf, painted.inside emptyBoard 0 rfl x y there]
    exact ⟨fun dot => ⟨there, dot⟩, fun both => both.2⟩
  · rw [inkOf, painted.outside emptyBoard 0 rfl 0 x y fun both => there both.2, emptyBoard_dark]
    exact ⟨fun dot => absurd dot Bool.false_ne_true, fun both => absurd both.1 there⟩

/-! ### The boxes of the face -/

inductive Slot where
  | time | amPm | seconds | weekDay | greenDate | redDate | temperature | humidity
  | temperatureArrow | humidityArrow | car | greenMotion | redMotion
  deriving DecidableEq

/-- Green, and red. -/
def Slot.board : Slot → Fin 3
  | .time | .amPm | .seconds | .greenDate | .temperature | .temperatureArrow | .car
  | .greenMotion => 0
  | .weekDay | .redDate | .humidity | .humidityArrow | .redMotion => 1

structure Box where
  left : Nat
  right : Nat
  top : Nat
  bottom : Nat

def Slot.box : Slot → Box
  | .time => ⟨0, 39, 0, 16⟩
  | .amPm => ⟨39, 49, 9, 14⟩
  | .seconds => ⟨39, 51, 0, 5⟩
  | .weekDay => ⟨49, 103, 0, 7⟩
  | .greenDate | .redDate => ⟨49, 86, 8, 16⟩
  | .temperature => ⟨109, 128, 0, 5⟩
  | .humidity => ⟨109, 128, 6, 14⟩
  | .temperatureArrow => ⟨103, 108, 0, 5⟩
  | .humidityArrow => ⟨103, 108, 6, 14⟩
  | .car => ⟨86, 100, 8, 16⟩
  | .greenMotion | .redMotion => ⟨127, 128, 15, 16⟩

def Box.Holds (box : Box) (x y : Nat) : Prop :=
  (box.left ≤ x ∧ x < box.right) ∧ box.top ≤ y ∧ y < box.bottom

def Box.Apart (first second : Box) : Prop :=
  first.right ≤ second.left ∨ second.right ≤ first.left ∨ first.bottom ≤ second.top ∨
    second.bottom ≤ first.top

instance (first second : Box) : Decidable (first.Apart second) :=
  inferInstanceAs (Decidable (_ ∨ _ ∨ _ ∨ _))

theorem boxes_apart (first second : Slot) :
    first = second ∨ first.board ≠ second.board ∨ first.box.Apart second.box := by
  cases first <;> cases second <;> decide

/-- The boxes that a board has do not meet. -/
def face : Layout Slot Point where
  region slot point := slot.board = point.1 ∧ slot.box.Holds point.2.1 point.2.2
  apart first second point here there := by
    rcases boxes_apart first second with same | boards | apart
    · exact same
    · exact absurd (here.1.trans there.1.symm) boards
    · obtain ⟨-, ⟨left, right⟩, top, bottom⟩ := here
      obtain ⟨-, ⟨left', right'⟩, top', bottom'⟩ := there
      rcases apart with apart | apart | apart | apart <;> omega

/-- What stands in the boxes. -/
abbrev Parts := Slot → Option MatrixCall

def Parts.ink (parts : Parts) (arrays : Fonts.FontArrays) (slot : Slot) (point : Point) : Prop :=
  slot.board = point.1 ∧ ∃ call, parts slot = some call ∧
    inkOf arrays call point.2.1 point.2.2 = true

/-- The buffers show the parts and nothing else. -/
def Parts.On (parts : Parts) (arrays : Fonts.FontArrays) (display : Display) : Prop :=
  face.Shows (parts.ink arrays) (Lit display)

variable {arrays : Fonts.FontArrays} {parts : Parts} {display : Display}

theorem Parts.On.quiet (on : parts.On arrays display) {call : MatrixCall} (quiet : Quiet call) :
    parts.On arrays (stroke arrays display call) :=
  Layout.Shows.same on fun point => by rw [Lit, Lit, quiet_mem arrays quiet]

/-- Said of the same parts. -/
theorem Parts.On.of_same (on : parts.On arrays display) {other : Parts}
    (same : ∀ slot, parts slot = other slot) : other.On arrays display := by
  have whole : parts = other := funext same
  rwa [← whole]

theorem clearAll_on (arrays : Fonts.FontArrays) (display : Display) :
    Parts.On (fun _ => none) arrays (stroke arrays display .clearAll) := by
  have dark : ∀ point, ¬ Lit (stroke arrays display .clearAll) point := by
    intro point lit
    have value := congrFun (congrArg Canvas.value (clearAll_canvas false display)) point
    rw [canvas_pixel] at value
    have off : false = true := value.symm.trans lit
    cases off
  refine (shows_dark dark).congr fun slot point => ?_
  constructor
  · exact False.elim
  · rintro ⟨-, call, none, -⟩
    cases none

/-- The buffers show the parts, and this board is drawn on. -/
structure Parts.OnAt (parts : Parts) (arrays : Fonts.FontArrays) (display : Display) (t : Fin 3) :
    Prop where
  on : parts.On arrays display
  target : display.tgtBuffer = some t

theorem Parts.On.aim (on : parts.On arrays display) (t : Fin 3) :
    parts.OnAt arrays (stroke arrays display (.drawTarget (t : Nat))) t where
  on := on.quiet trivial
  target := by
    change (setTarget (t : Nat) display).tgtBuffer = some t
    rw [MatrixRun.setTarget_board]

/-- The boxes of a board are emptied. -/
def Parts.without (parts : Parts) (t : Fin 3) : Parts := fun slot =>
  if slot.board = t then none else parts slot

theorem Parts.OnAt.clear {t : Fin 3} (shown : parts.OnAt arrays display t) :
    (parts.without t).OnAt arrays (stroke arrays display .clear) t := by
  have target := shown.target
  have wiped : ∀ point, Lit (stroke arrays display .clear) point ↔
      Lit display point ∧ ¬ point.1 = t := by
    intro point
    have value := congrFun (congrArg Canvas.value (clear_canvas false display)) point
    rw [canvas_pixel] at value
    have dark : pixel ((stroke arrays display .clear).mem point.1) point.2.1 point.2.2 =
        if display.tgtBuffer = some point.1 then false
        else pixel (display.mem point.1) point.2.1 point.2.2 := by
      refine value.trans ?_
      rw [Canvas.draw, ← canvas_pixel]
      rfl
    rw [Lit, dark, target, Lit]
    by_cases board : point.1 = t
    · simp [board]
    · have other : ¬ some t = some point.1 := fun same => board (Option.some.inj same).symm
      simp [board, other]
  constructor
  · refine (Layout.Shows.wipe shown.on wiped).congr fun slot point => ?_
    unfold Parts.ink
    constructor
    · rintro ⟨⟨board, call, part, dot⟩, other⟩
      exact ⟨board, call, (if_neg (board ▸ other)).trans part, dot⟩
    · rintro ⟨board, call, part, dot⟩
      unfold Parts.without at part
      split at part
      · cases part
      · next other => exact ⟨⟨board, call, part, dot⟩, board ▸ other⟩
  · change (clearTarget display).tgtBuffer = some t
    rw [clearTarget, target]
    exact target

/-- A call takes the place of what stood in its box, when it covers that. -/
theorem Parts.OnAt.put {slot : Slot} (shown : parts.OnAt arrays display slot.board)
    {call : MatrixCall} {area : Fin 128 → Fin 16 → Prop} {dots : Fin 128 → Fin 16 → Bool}
    (painted : Painted arrays call area dots) (fits : ∀ x y, area x y → slot.box.Holds x y)
    (covers : ∀ old, parts slot = some old → ∀ x y, inkOf arrays old x y = true → area x y) :
    Parts.OnAt (Function.update parts slot (some call)) arrays (stroke arrays display call)
      slot.board := by
  have target := shown.target
  have whole : face.Shows (Function.update (parts.ink arrays) slot fun point =>
      (point.1 = slot.board ∧ area point.2.1 point.2.2) ∧ dots point.2.1 point.2.2 = true)
      (Lit (stroke arrays display call)) := by
    refine Layout.Shows.paint shown.on slot _ _
      (fun point there => ⟨there.1.symm, fits _ _ there.2⟩) ?_ ?_ ?_
    · rintro point ⟨board, old, part, dot⟩
      exact ⟨board.symm, covers old part _ _ dot⟩
    · rintro ⟨s, x, y⟩ ⟨board, there⟩
      dsimp only at board there ⊢
      subst board
      rw [Lit, painted.inside display slot.board target x y there]
    · rintro ⟨s, x, y⟩ apart
      rw [Lit, Lit, painted.outside display slot.board target s x y apart]
  refine ⟨whole.congr fun other point => ?_, painted.target display _ target⟩
  by_cases own : other = slot
  · subst own
    rw [Function.update_self, Parts.ink, Function.update_self]
    constructor
    · rintro ⟨⟨board, there⟩, dot⟩
      exact ⟨board.symm, call, rfl, (inkOf_iff painted _ _).mpr ⟨there, dot⟩⟩
    · rintro ⟨board, part, same, dot⟩
      cases same
      obtain ⟨there, dot⟩ := (inkOf_iff painted _ _).mp dot
      exact ⟨⟨board.symm, there⟩, dot⟩
  · rw [Function.update_of_ne own, Parts.ink, Parts.ink, Function.update_of_ne own]

end OClock.FacePicture
