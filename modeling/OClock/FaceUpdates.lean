import OClock.FaceTexts

/-!
What the functions of the clock make of its face: each of them puts new parts in their boxes, and
what it puts there covers what stood there.
-/

namespace OClock.FaceUpdates
open Text Fonts Ht1632 MatrixPixels ImageColumn ImagePixels TextPixels Images DrawCalls
open ClockAnimations ClockFace FacePicture FaceTexts DictionaryStore

/-! ### Texts and images in their boxes -/

/-- The rows that an image paints: its own, and some of its padding. -/
theorem painted_within {image : Image} {row : Int} (painted : ImageColumn.Painted image row)
    (y height cells : Int) (top : image.y = y) (tall : image.height = height)
    (padded : cellsPerColumn height = cells) :
    (y ≤ row ∧ row < y + height) ∨ (y + height ≤ row ∧ row < y + 4 * cells ∧
      (y + 4 * cells ≤ height ∨ y % 4 ≠ 0 ∧ y + 4 * cells < 16)) := by
  subst top tall padded
  rcases painted with rows | ⟨_, below, inside, through⟩
  · exact .inl rows
  · exact .inr ⟨below, inside, through.imp_right fun shifted => ⟨shifted.1, shifted.2.1⟩⟩

variable {arrays : FontArrays} {before : Parts} {display : Display}

/-- A text that is not wider than its box, or at the edge of the panel. -/
theorem put_text (bits : FourBits arrays) {slot : Slot} {font : Fonts.Font} {text : Bytes}
    {least most : Int} (wide : Wide font least most text) (x y : Int) {left right top bottom : Nat}
    (box : slot.box = ⟨left, right, top, bottom⟩) (place : x = left) (height cells : Int)
    (tall : getFontHeight font = height) (padded : cellsPerColumn height = cells)
    (narrow : x + most ≤ right ∨ right = 128)
    (rows : ∀ row : Int, (y ≤ row ∧ row < y + height) ∨ (y + height ≤ row ∧ row < y + 4 * cells ∧
      (y + 4 * cells ≤ height ∨ y % 4 ≠ 0 ∧ y + 4 * cells < 16)) → top ≤ row ∧ row < bottom)
    (covers : ∀ old, before slot = some old → ∀ column row, inkOf arrays old column row = true →
      TextArea arrays text x y font column row)
    (shown : before.OnAt arrays display slot.board) :
    Parts.OnAt (Function.update before slot (some (.drawText text x y font))) arrays
      (stroke arrays display (.drawText text x y font)) slot.board := by
  have most := wide.most
  refine shown.put (text_painted bits wide.clean x y font) ?_ covers
  rintro column row ⟨⟨first, last⟩, painted⟩
  have within := rows _ (painted_within painted y height cells rfl tall padded)
  have edge := column.isLt
  rw [box]
  exact ⟨⟨by dsimp only; omega, by dsimp only; omega⟩, by dsimp only; omega, by dsimp only; omega⟩

/-- An empty box has nothing to cover. -/
theorem nothing_there {slot : Slot} (empty : before slot = none) {covered : MatrixCall → Prop} :
    ∀ old, before slot = some old → covered old := by
  intro old part
  rw [empty] at part
  cases part

/-- An image whose cells are words of four bits. -/
structure Sized (width height : UInt8) (imgArtInfo : ImgArtInfo) : Prop where
  width : imgArtInfo.width = width
  height : imgArtInfo.height = height
  words : ∀ word ∈ imgArtInfo.img, word < 16

instance (width height : UInt8) (imgArtInfo : ImgArtInfo) :
    Decidable (Sized width height imgArtInfo) :=
  decidable_of_iff (imgArtInfo.width = width ∧ imgArtInfo.height = height ∧
      imgArtInfo.img.all (fun word => word < 16) = true)
    ⟨fun ⟨width, height, words⟩ => ⟨width, height, fun word inside =>
        of_decide_eq_true (List.all_eq_true.mp words word inside)⟩,
      fun sized => ⟨sized.width, sized.height, List.all_eq_true.mpr fun word inside =>
        decide_eq_true (sized.words word inside)⟩⟩

theorem Sized.drawable {width height : UInt8} {imgArtInfo : ImgArtInfo}
    (sized : Sized width height imgArtInfo) (tall : 4 ≤ height) (x y : Int) :
    Drawable (imgArtInfo.source x y).image where
  height := by
    have rows : 4 ≤ height.toNat := UInt8.le_iff_toNat_le.mp tall
    have most := height.toNat_lt
    simp only [TextBounds.image_height, ImgArtInfo.source, sized.height]
    omega
  words index := by
    show (imgArtInfo.img)[index.toNat]?.getD 0 < 16
    cases found : (imgArtInfo.img)[index.toNat]? with
    | none => decide
    | some word => exact sized.words word (List.mem_of_getElem? found)

/-- What an image of that size paints. -/
def ImageArea (width height : UInt8) (x y : Int) (column : Fin 128) (row : Fin 16) : Prop :=
  (x ≤ (column : Nat) ∧ ((column : Nat) : Int) < x + (width.toNat : Int)) ∧
    ImageColumn.Painted ⟨fun _ => 0, 0, height.toNat, 0, y, 0⟩ (row : Nat)

theorem sized_painted (arrays : FontArrays) {width height : UInt8} {imgArtInfo : ImgArtInfo}
    (sized : Sized width height imgArtInfo) (tall : 4 ≤ height) (x y : Int) :
    FacePicture.Painted arrays (.drawImage imgArtInfo x y) (ImageArea width height x y)
      fun column row => ink (imgArtInfo.source x y).image (column : Nat) (row : Nat) := by
  have painted := image_painted arrays (sized.drawable tall x y)
  obtain ⟨img, w, h⟩ := imgArtInfo
  obtain ⟨rfl, rfl, -⟩ := sized
  exact painted

/-- An image takes the place of one of its size. -/
theorem put_image {slot : Slot} {width height : UInt8} {imgArtInfo : ImgArtInfo}
    (sized : Sized width height imgArtInfo) (tall : 4 ≤ height) {x y : Int}
    (fits : ∀ column row, ImageArea width height x y column row → slot.box.Holds column row)
    (covers : ∀ old, before slot = some old →
      ∃ other, old = .drawImage other x y ∧ Sized width height other)
    (shown : before.OnAt arrays display slot.board) :
    Parts.OnAt (Function.update before slot (some (.drawImage imgArtInfo x y))) arrays
      (stroke arrays display (.drawImage imgArtInfo x y)) slot.board := by
  refine shown.put (sized_painted arrays sized tall x y) fits ?_
  intro old part column row dot
  obtain ⟨other, rfl, alike⟩ := covers old part
  exact ((inkOf_iff (sized_painted arrays alike tall x y) column row).mp dot).1

/-! ### The face -/

/-- What the clock shows: the moment of the last refresh with the values it found, and what came
on top of that since. -/
structure Face where
  refreshed : Tm
  temperature : Option Bytes
  humidity : Option Bytes
  seconds : Option Tm
  temperatureArrow : Option ImgArtInfo
  humidityArrow : Option ImgArtInfo
  car : Option ImgArtInfo
  motion : Option Bool

def Face.parts (face : Face) : Parts
  | .time => some (.drawText (timeText face.refreshed) 0 0 font16x8)
  | .amPm => some (.drawText (amPmText face.refreshed) 39 9 font5x4)
  | .seconds => face.seconds.map fun timeInfo => .drawText (secondsText timeInfo) 39 0 font5x4
  | .weekDay => some (.drawText (weekDayStr face.refreshed) 49 0 font7x5)
  | .greenDate | .redDate => some (.drawText (dateText face.refreshed) 49 8 font8x4)
  | .temperature => face.temperature.map fun text => .drawText text 109 0 font5x4
  | .humidity => face.humidity.map fun text => .drawText text 109 6 font5x4
  | .temperatureArrow => face.temperatureArrow.map fun image => .drawImage image 103 0
  | .humidityArrow => face.humidityArrow.map fun image => .drawImage image 103 6
  | .car => face.car.map fun image => .drawImage image 86 8
  | .greenMotion | .redMotion => face.motion.map fun datum => .setPixel 127 15 datum

/-- A value that was found, as it is shown. -/
def shownValue (unit : Bytes) (value : Lookup) : Option Bytes :=
  if value.found then some (valueText unit value.data) else none

/-- The face after a refresh. -/
def refreshedFace (timeInfo : Tm) (dictionary : Dictionary) : Face :=
  let temperature := get dictionary dictionaryTopicTemperature
  let humidity := get temperature.2 dictionaryTopicHumidity
  { refreshed := timeInfo
    temperature := shownValue (bytes " f") temperature.1
    humidity := shownValue (bytes " %") humidity.1
    seconds := none
    temperatureArrow := none
    humidityArrow := none
    car := none
    motion := none }

/-- The calls one after another. -/
def strokes (arrays : FontArrays) (display : Display) (calls : List MatrixCall) : Display :=
  calls.foldl (stroke arrays) display

theorem strokes_nil (display : Display) : strokes arrays display [] = display := rfl

theorem strokes_cons (call : MatrixCall) (rest : List MatrixCall) (display : Display) :
    strokes arrays display (call :: rest) = strokes arrays (stroke arrays display call) rest := rfl

theorem strokes_append (first second : List MatrixCall) (display : Display) :
    strokes arrays display (first ++ second) =
      strokes arrays (strokes arrays display first) second := List.foldl_append

theorem two_words : cellsPerColumn 5 = 2 := by decide

/-- The text of a value, behind what a refresh has put there so far. -/
theorem value_shows (bits : FourBits arrays) {slot : Slot} {unit : Bytes} (clean : 0 ∉ unit)
    (value : Lookup) (y : Int) {top bottom : Nat} (box : slot.box = ⟨109, 128, top, bottom⟩)
    (rows : ∀ row : Int, (y ≤ row ∧ row < y + 5) ∨ (y + 5 ≤ row ∧ row < y + 4 * 2 ∧
      (y + 4 * 2 ≤ 5 ∨ y % 4 ≠ 0 ∧ y + 4 * 2 < 16)) → top ≤ row ∧ row < bottom)
    (empty : before slot = none) (on : before.On arrays display) :
    Parts.OnAt
      (Function.update before slot
        ((shownValue unit value).map fun text => .drawText text 109 y font5x4))
      arrays (strokes arrays display (valueCalls (slot.board : Nat) y unit value)) slot.board := by
  have aimed := on.aim slot.board
  unfold valueCalls shownValue
  by_cases found : value.found = true
  · rw [if_pos found, if_pos found]
    have clean := valueText_clean clean value.data
    exact put_text bits ⟨clean, Int.le_refl _, Int.le_refl _⟩ 109 y box rfl 5 2 rfl two_words (.inr rfl)
      rows (nothing_there empty) aimed
  · rw [if_neg found, if_neg found, Option.map_none, ← empty, Function.update_eq_self]
    exact aimed

/-- A refresh wipes both boards and puts its texts there. -/
theorem slow_shows (bits : FourBits arrays) {timeInfo : Tm} (valid : timeInfo.Valid)
    (dictionary : Dictionary) (on : before.On arrays display) :
    (refreshedFace timeInfo dictionary).parts.On arrays
      (strokes arrays display (modeBasicClockSlow timeInfo dictionary).1) := by
  have timed := put_text bits (timeText_wide valid) 0 0 (rfl : Slot.time.box = ⟨0, 39, 0, 16⟩) rfl
    16 4 rfl (by decide) (.inl (by decide)) (fun row _ => by omega) (nothing_there rfl)
    (on.aim 0).clear
  have halved := put_text bits (amPmText_wide timeInfo) 39 9
    (rfl : Slot.amPm.box = ⟨39, 49, 9, 14⟩) rfl 5 2 rfl two_words (.inl (by decide)) (fun row _ => by omega) (nothing_there rfl) timed
  have named := put_text bits (weekDayStr_wide timeInfo) 49 0
    (rfl : Slot.weekDay.box = ⟨49, 103, 0, 7⟩) rfl 7 2 rfl (by decide) (.inl (by decide)) (fun row _ => by omega) (nothing_there rfl)
    (halved.on.aim 1).clear
  have dated := put_text bits (dateText_wide valid) 49 8
    (rfl : Slot.greenDate.box = ⟨49, 86, 8, 16⟩) rfl 8 2 rfl (by decide) (.inl (by decide)) (fun row _ => by omega) (nothing_there rfl)
    (named.on.aim 0)
  have both := put_text bits (dateText_wide valid) 49 8
    (rfl : Slot.redDate.box = ⟨49, 86, 8, 16⟩) rfl 8 2 rfl (by decide) (.inl (by decide)) (fun row _ => by omega) (nothing_there rfl)
    (dated.on.aim 1)
  have warm := value_shows bits (by decide : 0 ∉ bytes " f")
    (get dictionary dictionaryTopicTemperature).1 0
    (rfl : Slot.temperature.box = ⟨109, 128, 0, 5⟩) (fun row _ => by omega) rfl both.on
  have humid := value_shows bits (by decide : 0 ∉ bytes " %")
    (get (get dictionary dictionaryTopicTemperature).2 dictionaryTopicHumidity).1 6
    (rfl : Slot.humidity.box = ⟨109, 128, 6, 14⟩) (fun row _ => by omega) rfl warm.on
  rw [modeBasicClockSlow, strokes_append, modeBasicClockShowTemperature, strokes_append]
  exact humid.on.of_same fun slot => by cases slot <;> rfl

/-! ### The seconds -/

/-- The blank of the small font has no dot. -/
def BlankSpace (arrays : FontArrays) : Prop :=
  ∀ row : Int, 0 ≤ row ∧ row < 5 → glyphDot (tables arrays font5x4) 0 0 row = false

theorem fontWidth_nonneg (font : Fonts.Font) (index : Nat) :
    0 ≤ (getFontWidth font)[index]?.getD 0 := by
  cases found : (getFontWidth font)[index]? with
  | none => exact Int.le_refl 0
  | some width => exact (getFontWidth_range font width (List.mem_of_getElem? found)).1

theorem advance_nonneg (font : Fonts.Font) (text : Bytes) :
    0 ≤ advance (getFontWidth font) text := by
  induction text with
  | nil => exact Int.le_refl 0
  | cons c rest ih =>
      rw [advance]
      cases currChar c with
      | none => exact ih
      | some currchar =>
          have width := fontWidth_nonneg font currchar.toNat
          dsimp only
          omega

/-- Behind its first part a text shows the second. -/
theorem textDot_behind (arrays : FontArrays) (font : Fonts.Font) (first second : Bytes)
    {column : Int} (behind : advance (getFontWidth font) first ≤ column) (row : Int) :
    textDot (tables arrays font) (first ++ second) column row =
      textDot (tables arrays font) second (column - advance (getFontWidth font) first) row := by
  induction first generalizing column with
  | nil => rw [advance, Int.sub_zero, List.nil_append]
  | cons c rest ih =>
      rw [List.cons_append, textDot]
      rw [advance] at behind ⊢
      cases found : currChar c with
      | none =>
          rw [found] at behind
          exact ih behind
      | some currchar =>
          rw [found] at behind
          dsimp only at behind ⊢
          have rest_width := advance_nonneg font rest
          rw [tables_width, if_neg (by omega), ih (by omega)]
          congr 1
          omega

theorem blank_dark {arrays : FontArrays} (blank : BlankSpace arrays) {column row : Int}
    (left : 0 ≤ column) (rows : 0 ≤ row ∧ row < 5) :
    textDot (tables arrays font5x4) (bytes " ") column row = false := by
  have space : currChar 32 = some 0 := by decide
  have one : (tables arrays font5x4).fontWidth 0 = 1 := rfl
  have text : bytes " " = [32] := by decide
  rw [text, textDot, space]
  dsimp only
  rw [one]
  by_cases inside : column < 1 + 1
  · rw [if_pos inside, charDot, one]
    by_cases glyph : column < 1
    · have first : column = 0 := by omega
      rw [if_pos glyph, first, Int.zero_mul]
      exact blank row rows
    · rw [if_neg glyph]
      exact blank row rows
  · rw [if_neg inside, textDot]

/-- The seconds that were shown have no dot behind their digits, which the new ones cover. -/
theorem seconds_cover (bits : FourBits arrays) (blank : BlankSpace arrays) {old timeInfo : Tm}
    (shown : old.Valid) (valid : timeInfo.Valid) {column : Fin 128} {row : Fin 16}
    (dot : inkOf arrays (.drawText (secondsText old) 39 0 font5x4) column row = true) :
    TextArea arrays (secondsText timeInfo) 39 0 font5x4 column row := by
  obtain ⟨before, first, narrow⟩ := secondsText_wide shown
  obtain ⟨after, second, wide⟩ := secondsText_wide valid
  have whole := wide.append blank_wide
  rw [← second] at whole
  have painted := text_painted bits (first ▸ (narrow.append blank_wide).clean) 39 0 font5x4
  obtain ⟨⟨⟨left, _⟩, rows⟩, lit⟩ := (inkOf_iff painted column row).mp dot
  have tall : getFontHeight font5x4 = 5 := rfl
  have inside := painted_within rows 0 5 2 rfl tall two_words
  have least := whole.least
  refine ⟨⟨left, ?_⟩, rows⟩
  by_contra beyond
  have most := narrow.most
  have dark : textDot (tables arrays font5x4) (secondsText old) ((column : Nat) - 39)
      ((row : Nat) - 0) = false := by
    rw [first, textDot_behind arrays font5x4 before _ (by omega)]
    exact blank_dark blank (by omega) (by omega)
  rw [dark] at lit
  cases lit

theorem seconds_shows (bits : FourBits arrays) (blank : BlankSpace arrays) {shown : Face}
    (sound : ∀ old ∈ shown.seconds, old.Valid) {timeInfo : Tm} (valid : timeInfo.Valid)
    (on : shown.parts.On arrays display) :
    ({ shown with seconds := some timeInfo } : Face).parts.On arrays
      (strokes arrays display [.drawTarget 0, .drawText (secondsText timeInfo) 39 0 font5x4]) := by
  obtain ⟨digits, text, wide⟩ := secondsText_wide valid
  have whole := wide.append blank_wide
  rw [← text] at whole
  have drawn := put_text bits whole 39 0 (rfl : Slot.seconds.box = ⟨39, 51, 0, 5⟩) rfl 5 2 rfl
    two_words (.inl (by decide)) (fun row _ => by omega) ?_ (on.aim 0)
  · exact drawn.on.of_same fun slot => by cases slot <;> rfl
  · intro old part column row dot
    obtain ⟨earlier, there, same⟩ := Option.map_eq_some_iff.mp part
    subst same
    exact seconds_cover bits blank (sound earlier there) valid dot

/-! ### The pixel of the motion sensor -/

theorem motion_put (slot : Slot) (box : slot.box = ⟨127, 128, 15, 16⟩) (datum : Bool)
    (covers : ∀ old, before slot = some old → ∃ earlier, old = .setPixel 127 15 earlier)
    (on : before.On arrays display) :
    Parts.OnAt (Function.update before slot (some (.setPixel 127 15 datum))) arrays
      (strokes arrays display [.drawTarget (slot.board : Nat), .setPixel 127 15 datum])
      slot.board := by
  have painted := fun datum => pixel_painted arrays 127 15 datum
  refine (on.aim slot.board).put (painted datum) ?_ ?_
  · rintro column row ⟨rfl, rfl⟩
    rw [box]
    exact ⟨by decide, by decide⟩
  · intro old part column row dot
    obtain ⟨earlier, rfl⟩ := covers old part
    exact ((inkOf_iff (painted earlier) column row).mp dot).1

theorem motion_shows {shown : Face} (datum : Bool) (on : shown.parts.On arrays display) :
    ({ shown with motion := some datum } : Face).parts.On arrays
      (strokes arrays display (updateMotionDetectedPixel datum)) := by
  have covered : ∀ old, shown.motion.map (fun datum => MatrixCall.setPixel 127 15 datum) = some old →
      ∃ earlier, old = .setPixel 127 15 earlier := by
    intro old part
    obtain ⟨earlier, _, same⟩ := Option.map_eq_some_iff.mp part
    exact ⟨earlier, same.symm⟩
  have green := motion_put .greenMotion rfl datum covered on
  have both := motion_put .redMotion rfl datum covered green.on
  have quiet : Quiet .renderAll := trivial
  have calls : updateMotionDetectedPixel datum = [.drawTarget 0, .setPixel 127 15 datum] ++
      [.drawTarget 1, .setPixel 127 15 datum] ++ [.renderAll] := rfl
  rw [calls, strokes_append, strokes_append, strokes_cons, strokes_nil]
  exact (both.on.quiet quiet).of_same fun slot => by cases slot <;> rfl

/-! ### The animations -/

/-- An image of an animation, or nothing. -/
theorem shown_put {slot : Slot} {width height : UInt8} (tall : 4 ≤ height) {x y : Int}
    (fits : ∀ column row, ImageArea width height x y column row → slot.box.Holds column row)
    {found : Option Shown}
    (placed : ∀ shown ∈ found, shown = ⟨slot.board, shown.imgArtInfo, x, y⟩ ∧
      Sized width height shown.imgArtInfo)
    {image : Option ImgArtInfo} (part : before slot = image.map fun image => .drawImage image x y)
    (sized : ∀ old ∈ image, Sized width height old) (on : before.On arrays display) :
    Parts.On (Function.update before slot
        (((found.map Shown.imgArtInfo).or image).map fun image => .drawImage image x y))
      arrays (strokes arrays display (shownCalls found)) := by
  cases found with
  | none =>
      have same : Function.update before slot
          (((none : Option Shown).map Shown.imgArtInfo).or image |>.map fun image =>
            .drawImage image x y) = before := by
        rw [Option.map_none, Option.none_or, ← part, Function.update_eq_self]
      rw [same]
      exact on
  | some shown =>
      obtain ⟨place, alike⟩ := placed shown rfl
      have drawn := put_image alike tall fits (fun old there => by
        rw [part] at there
        obtain ⟨earlier, inside, same⟩ := Option.map_eq_some_iff.mp there
        exact ⟨earlier, same.symm, sized earlier inside⟩) (on.aim slot.board)
      have quiet : Quiet .render := trivial
      rw [place]
      exact drawn.on.quiet quiet

theorem nothing_shown {placed : Shown → Prop} : ∀ shown ∈ (none : Option Shown), placed shown := by
  intro shown there
  cases there

/-- The frames that the animations go through. -/
structure InTurn (animations : Animations) : Prop where
  temperature : animations.temperatureFrame < 4
  humidity : animations.humidityFrame < 4
  car : animations.car.animationFrame < 2

theorem frame_cases {frame : UInt32} (turn : frame < 4) :
    frame = 0 ∨ frame = 1 ∨ frame = 2 ∨ frame = 3 := by
  have small : frame.toNat < 4 := UInt32.lt_iff_toNat_lt.mp turn
  have cases : frame.toNat = 0 ∨ frame.toNat = 1 ∨ frame.toNat = 2 ∨ frame.toNat = 3 := by omega
  rcases cases with same | same | same | same
  · exact .inl (UInt32.toNat_inj.mp same)
  · exact .inr (.inl (UInt32.toNat_inj.mp same))
  · exact .inr (.inr (.inl (UInt32.toNat_inj.mp same)))
  · exact .inr (.inr (.inr (UInt32.toNat_inj.mp same)))

theorem arrow_sized {frame : UInt32} (turn : frame < 4) :
    Sized 5 5 (getImgArtInfo (imgArtUp21 + frame)) ∧
      Sized 5 5 (getImgArtInfo (imgArtDown21 + frame)) := by
  rcases frame_cases turn with rfl | rfl | rfl | rfl <;> decide +kernel

theorem arrow_turns {topic : Bytes} {board yPos : Int} {frame : UInt32} (turn : frame < 4)
    (dictionary : Dictionary) :
    (∀ shown ∈ (upDownAnimation topic board yPos frame dictionary).1,
      shown = ⟨board, shown.imgArtInfo, 103, yPos⟩ ∧ Sized 5 5 shown.imgArtInfo) ∧
    (upDownAnimation topic board yPos frame dictionary).2.1 < 4 := by
  have next : (frame + 1) % 4 < 4 := by
    rcases frame_cases turn with rfl | rfl | rfl | rfl <;> decide
  unfold upDownAnimation
  dsimp only
  split
  · exact ⟨nothing_shown, turn⟩
  · split
    · exact ⟨nothing_shown, turn⟩
    · refine ⟨?_, next⟩
      intro shown same
      cases same
      refine ⟨rfl, ?_⟩
      dsimp only
      split
      · exact (arrow_sized turn).1
      · exact (arrow_sized turn).2

theorem car_sized {frame : UInt32} (turn : frame < 2) :
    Sized 14 8 (getImgArtInfo (imgArtCar1 + frame)) ∧
      Sized 14 8 { getImgArtInfo (imgArtCar1 + frame) with img := (getImgArtInfo imgArtBlank).img } ∧
        frame ^^^ 1 < 2 := by
  have small : frame.toNat < 2 := UInt32.lt_iff_toNat_lt.mp turn
  have cases : frame.toNat = 0 ∨ frame.toNat = 1 := by omega
  have frames : frame = 0 ∨ frame = 1 := cases.imp UInt32.toNat_inj.mp UInt32.toNat_inj.mp
  rcases frames with rfl | rfl <;> decide +kernel

theorem showCar_turns {car : Car} (turn : car.animationFrame < 2) :
    (showCar car).1 = ⟨0, (showCar car).1.imgArtInfo, 86, 8⟩ ∧
      Sized 14 8 (showCar car).1.imgArtInfo ∧ (showCar car).2.animationFrame < 2 := by
  obtain ⟨whole, blank, next⟩ := car_sized turn
  unfold showCar
  dsimp only
  split
  · exact ⟨rfl, whole, next⟩
  · exact ⟨rfl, blank, turn⟩

theorem driveCar_turns (sighting : Sighting) {car : Car} (turn : car.animationFrame < 2) :
    (∀ shown ∈ (driveCar sighting car).1,
      shown = ⟨0, shown.imgArtInfo, 86, 8⟩ ∧ Sized 14 8 shown.imgArtInfo) ∧
    (driveCar sighting car).2.animationFrame < 2 := by
  have kept : (if sighting.on then { car with animationCounter := 0 } else car).animationFrame < 2 := by
    split <;> exact turn
  unfold driveCar
  generalize (if sighting.on then { car with animationCounter := 0 } else car) = seen at kept ⊢
  dsimp only
  split
  · exact ⟨nothing_shown, turn⟩
  · split
    · exact ⟨nothing_shown, kept⟩
    · have moved := @showCar_turns
        { seen with animationCounter := seen.animationCounter + 1 } kept
      refine ⟨?_, moved.2.2⟩
      intro shown same
      cases same
      exact ⟨moved.1, moved.2.1⟩

/-- What the animations draw stands on top of the face. -/
def animatedFace (call : ClockAnimations.Call) (face : Face) : Face :=
  { face with
    temperatureArrow := (call.temperature.map Shown.imgArtInfo).or face.temperatureArrow
    humidityArrow := (call.humidity.map Shown.imgArtInfo).or face.humidityArrow
    car := (call.car.map Shown.imgArtInfo).or face.car }

/-- What is on the face is what the functions of the clock put there. -/
structure Face.Sound (face : Face) : Prop where
  seconds : ∀ timeInfo ∈ face.seconds, timeInfo.Valid
  temperatureArrow : ∀ image ∈ face.temperatureArrow, Sized 5 5 image
  humidityArrow : ∀ image ∈ face.humidityArrow, Sized 5 5 image
  car : ∀ image ∈ face.car, Sized 14 8 image

theorem or_sized {width height : UInt8} {found : Option Shown} {image : Option ImgArtInfo}
    (new : ∀ shown ∈ found, Sized width height shown.imgArtInfo)
    (old : ∀ other ∈ image, Sized width height other) :
    ∀ other ∈ (found.map Shown.imgArtInfo).or image, Sized width height other := by
  cases found with
  | none => exact old
  | some shown =>
      intro other same
      cases same
      exact new shown rfl

theorem arrow_fits {slot : Slot} {y : Int} {top bottom : Nat}
    (box : slot.box = ⟨103, 108, top, bottom⟩)
    (rows : ∀ row : Int, (y ≤ row ∧ row < y + 5) ∨ (y + 5 ≤ row ∧ row < y + 4 * 2 ∧
      (y + 4 * 2 ≤ 5 ∨ y % 4 ≠ 0 ∧ y + 4 * 2 < 16)) → top ≤ row ∧ row < bottom)
    (column : Fin 128) (row : Fin 16) (painted : ImageArea 5 5 103 y column row) :
    slot.box.Holds column row := by
  have wide : (5 : UInt8).toNat = 5 := rfl
  have tall : (((5 : UInt8).toNat : Nat) : Int) = 5 := rfl
  obtain ⟨⟨left, right⟩, inside⟩ := painted
  have within := rows _ (painted_within inside y 5 2 rfl tall two_words)
  rw [box]
  exact ⟨⟨by dsimp only; omega, by dsimp only; omega⟩, by dsimp only; omega, by dsimp only; omega⟩

theorem car_fits (column : Fin 128) (row : Fin 16) (painted : ImageArea 14 8 86 8 column row) :
    Slot.car.box.Holds column row := by
  have wide : (14 : UInt8).toNat = 14 := rfl
  have tall : (((8 : UInt8).toNat : Nat) : Int) = 8 := rfl
  have words : cellsPerColumn 8 = 2 := by decide
  obtain ⟨⟨left, right⟩, inside⟩ := painted
  have within := painted_within inside 8 8 2 rfl tall words
  have box : Slot.car.box = ⟨86, 100, 8, 16⟩ := rfl
  rw [box]
  exact ⟨⟨by dsimp only; omega, by dsimp only; omega⟩, by dsimp only; omega, by dsimp only; omega⟩

/-- An image that stands where it belongs. -/
def Placed (board : Int) (width height : UInt8) (x y : Int) (found : Option Shown) : Prop :=
  ∀ shown ∈ found, shown = ⟨board, shown.imgArtInfo, x, y⟩ ∧ Sized width height shown.imgArtInfo

theorem temperature_shows {shown : Face} (sound : shown.Sound) {found : Option Shown}
    (placed : Placed 0 5 5 103 0 found) (on : shown.parts.On arrays display) :
    ({ shown with
      temperatureArrow := (found.map Shown.imgArtInfo).or shown.temperatureArrow } : Face).parts.On
      arrays (strokes arrays display (shownCalls found)) := by
  have drawn := shown_put (by decide) (arrow_fits (rfl : Slot.temperatureArrow.box =
    ⟨103, 108, 0, 5⟩) fun row _ => by omega) placed rfl sound.temperatureArrow on
  exact drawn.of_same fun slot => by cases slot <;> rfl

theorem humidity_shows {shown : Face} (sound : shown.Sound) {found : Option Shown}
    (placed : Placed 1 5 5 103 6 found) (on : shown.parts.On arrays display) :
    ({ shown with
      humidityArrow := (found.map Shown.imgArtInfo).or shown.humidityArrow } : Face).parts.On
      arrays (strokes arrays display (shownCalls found)) := by
  have drawn := shown_put (by decide) (arrow_fits (rfl : Slot.humidityArrow.box =
    ⟨103, 108, 6, 14⟩) fun row _ => by omega) placed rfl sound.humidityArrow on
  exact drawn.of_same fun slot => by cases slot <;> rfl

theorem car_shows {shown : Face} (sound : shown.Sound) {found : Option Shown}
    (placed : Placed 0 14 8 86 8 found) (on : shown.parts.On arrays display) :
    ({ shown with car := (found.map Shown.imgArtInfo).or shown.car } : Face).parts.On
      arrays (strokes arrays display (shownCalls found)) := by
  have drawn := shown_put (by decide) car_fits placed rfl sound.car on
  exact drawn.of_same fun slot => by cases slot <;> rfl

theorem animated_shows {shown : Face} (sound : shown.Sound) {animations : Animations}
    (turn : InTurn animations) (dictionary : Dictionary) (on : shown.parts.On arrays display) :
    let called := modeBasicClockSDoUpDownAnimation animations dictionary
    (animatedFace called.1 shown).parts.On arrays
        (strokes arrays display (animationCalls called.1)) ∧
      (animatedFace called.1 shown).Sound ∧ InTurn called.2.1 := by
  intro called
  have warm := @arrow_turns dictionaryTopicTemperatureDir 0 0 _ turn.temperature dictionary
  have humid := @arrow_turns dictionaryTopicHumidityDir 1 6 _ turn.humidity
    (modeBasicClockSDoUpDownAnimationTemperature animations.temperatureFrame dictionary).2.2
  have driven := driveCar_turns called.1.sighting turn.car
  have moved : called.1.car = (driveCar called.1.sighting animations.car).1 := rfl
  rw [← moved] at driven
  have first := temperature_shows sound warm.1 on
  have heated : Face.Sound { shown with
      temperatureArrow := (called.1.temperature.map Shown.imgArtInfo).or shown.temperatureArrow } :=
    { sound with
      temperatureArrow := or_sized (fun one there => (warm.1 one there).2) sound.temperatureArrow }
  have second := humidity_shows heated humid.1 first
  have moist : Face.Sound { shown with
      temperatureArrow := (called.1.temperature.map Shown.imgArtInfo).or shown.temperatureArrow
      humidityArrow := (called.1.humidity.map Shown.imgArtInfo).or shown.humidityArrow } :=
    { heated with
      humidityArrow := or_sized (fun one there => (humid.1 one there).2) sound.humidityArrow }
  have third := car_shows moist driven.1 second
  refine ⟨?_, { moist with car := or_sized (fun one there => (driven.1 one there).2) sound.car },
    ⟨warm.2, humid.2, driven.2⟩⟩
  rw [animationCalls, strokes_append, strokes_append]
  exact third

end OClock.FaceUpdates
