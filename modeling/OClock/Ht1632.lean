import OClock.SelectChain

/-!
The driver of the LED matrix, HT1632.h and HT1632.cpp. A pin write sets a level, whether
it goes over the register path or over the GPIO library. `char` cells are bytes: what the
code computes with them in `int` is masked to four bits before it is stored.
-/

namespace OClock.Ht1632
open SerialLine SelectChain Trace

def comSize : Int := 16
def outSize : Int := 128
def numActiveChips : Nat := 16
abbrev addrSpaceSize : Nat := 512
def bufferSecondary : Fin 3 := 2
def maskNeedsRewriting : UInt8 := 0x10

abbrev Cells := Vector UInt8 addrSpaceSize

/-- The fields of the class. No target, which is -1, is `none`. -/
structure Display where
  brightness : Int
  tgtBuffer : Option (Fin 3)
  globalNeedsRewriting : Fin 3 → Bool
  mem : Fin 3 → Cells

/-- What a method does, in order. -/
inductive Event where
  | pin (write : Write Line)
  | set (display : Display)
  | delay (milliseconds : Int)

def observe (display : Display) : Event → Display
  | .set changed => changed
  | .pin _ | .delay _ => display

abbrev Method := Program Display Event

def pins (writes : List (Write Line)) : Method := fun _ => writes.map .pin

def change (moved : Display → Display) : Method := fun display => [.set (moved display)]

/-- Statements one after another. -/
def block (statements : List Method) : Method := each observe id statements

/-! ### Cells -/

def load (cells : Cells) (address : Nat) : UInt8 := cells[address]?.getD 0

def store (cells : Cells) (address : Nat) (value : UInt8) : Cells :=
  cells.setIfInBounds address value

def withCells (display : Display) (t : Fin 3) (cells : Cells) : Display :=
  { display with mem := Function.update display.mem t cells }

def withGlobal (display : Display) (t : Fin 3) (needs : Bool) : Display :=
  { display with
    globalNeedsRewriting := Function.update display.globalNeedsRewriting t needs }

/-- Whether `render` writes a cell. -/
def needsRewriting (globalNeedsRewriting : Bool) (cell : UInt8) : Bool :=
  globalNeedsRewriting || cell &&& maskNeedsRewriting != 0

/-! ### Pins -/

def outputClkPulse : List (Write Line) := pulse .clk

def clkPulses (number : Nat) : List (Write Line) := (List.replicate number outputClkPulse).flatten

def select (mask : Int) : List (Write Line) :=
  if mask < 0 then ⟨.cs, false⟩ :: clkPulses numActiveChips
  else if mask = 0 then ⟨.cs, true⟩ :: clkPulses numActiveChips
  else
    ⟨.cs, true⟩ :: clkPulses numActiveChips ++
      (⟨.cs, false⟩ :: (outputClkPulse ++ ⟨.cs, true⟩ :: clkPulses (mask.toNat - 1)))

def writeData (data : Nat) : Nat → List (Write Line)
  | 0 => []
  | j + 1 => strobe (data &&& 1 <<< j != 0) ++ writeData data j

def writeDataRev : Nat → Nat → List (Write Line)
  | _, 0 => []
  | data, len + 1 => strobe (data &&& 1 != 0) ++ writeDataRev (data >>> 1) len

def writeSingleBit : List (Write Line) := strobe false

def idCmd : Nat := 0b100
def idWr : Nat := 0b101
def idLen : Nat := 3
def cmdLen : Nat := 8
def addrLen : Nat := 7
def wordLen : Nat := 4

def cmdSysdis : Nat := 0x00
def cmdSysen : Nat := 0x01
def cmdLedoff : Nat := 0x02
def cmdLedon : Nat := 0x03
def cmdBloff : Nat := 0x08
def cmdRcclk : Nat := 0x18
def cmdComs00 : Nat := 0x20

def cmdPwm (lvl : Int) : Nat := 0xA0 ||| (lvl - 1).toNat

def writeCommand (data : Nat) : List (Write Line) := writeData data cmdLen ++ writeSingleBit

/-- A session with each chip; `select` counts chips from one. -/
def eachChip (session : List (Write Line)) : List (Write Line) :=
  (List.range numActiveChips).flatMap fun (i : Nat) => select ((i : Int) + 1) ++ session

/-! ### Methods that talk to the chips -/

def startCommands (display : Display) : List (Write Line) :=
  writeData idCmd idLen ++ writeCommand cmdSysdis ++ writeCommand cmdComs00 ++
    writeCommand cmdRcclk ++ writeCommand cmdSysen ++ writeCommand cmdLedon ++
    writeCommand (cmdPwm display.brightness) ++ writeCommand cmdBloff ++ select 0

def initializeChips : Method :=
  block [pins (select 0), fun display => pins (eachChip (startCommands display)) display,
    change fun display => { display with globalNeedsRewriting := fun _ => true }]

def blank : Method :=
  block [pins (select 0),
    pins (eachChip (writeData idCmd idLen ++ writeCommand cmdLedoff ++ select 0))]

def setBrightness (brightnessParam : Int) : Method :=
  if brightnessParam < 1 ∨ brightnessParam > 16 then fun _ => []
  else
    block [change fun display => { display with brightness := brightnessParam },
      fun display => pins
        (eachChip (writeData idCmd idLen ++ writeCommand (cmdPwm display.brightness))) display,
      pins (select 0)]

/-- One turn of the loop of `render`. An open chip is counted from one, and -1 is `none`. -/
def renderCell (t : Fin 3) (globalNeedsRewriting : Bool) (cells : Cells) (i : Nat)
    (nChipOpen : Option Nat) : List (Write Line) × Option Nat :=
  if needsRewriting globalNeedsRewriting (load cells i) then
    let nChip := i / 32 + 1
    let opening :=
      if nChipOpen = some nChip then []
      else select nChip ++ writeData idWr idLen ++ writeData (i % 32 + t * 32) addrLen
    (opening ++ writeDataRev (load cells i).toNat wordLen, some nChip)
  else (if nChipOpen = none then [] else select 0, none)

def renderFrom (t : Fin 3) (globalNeedsRewriting : Bool) (cells : Cells) :
    Nat → Nat → Option Nat → List (Write Line)
  | 0, _, nChipOpen => if nChipOpen = none then [] else select 0
  | count + 1, i, nChipOpen =>
      let turn := renderCell t globalNeedsRewriting cells i nChipOpen
      turn.1 ++ renderFrom t globalNeedsRewriting cells count (i + 1) turn.2

def render : Method := fun display =>
  match display.tgtBuffer with
  | none => []
  | some t =>
      if t = bufferSecondary then []
      else
        block [pins (select 0 ++ renderFrom t (display.globalNeedsRewriting t) (display.mem t)
            addrSpaceSize 0 none),
          change fun display => withGlobal display t false] display

/-! ### Methods that draw -/

def setTarget (targetBuffer : Int) (display : Display) : Display :=
  if inside : 0 ≤ targetBuffer ∧ targetBuffer < 3 then
    { display with tgtBuffer := some ⟨targetBuffer.toNat, by omega⟩ }
  else display

def drawTarget (targetBuffer : Int) : Method := change (setTarget targetBuffer)

/-- `GET_CHIP_FROM_X_Y` -/
def getChipFromXY (x y : Int) : Int :=
  x.tdiv 16 + (if y > 7 then 2 else 0) + x.tdiv 32 * 2

/-- `GET_ADDR_FROM_X_Y` -/
def getAddrFromXY (x y : Int) : Nat :=
  (x.tmod 16 * 2 + (y.tmod 8).tdiv 4 + getChipFromXY x y * 32).toNat

def paintPixel (x y : Int) (datum : Bool) (display : Display) : Display :=
  match display.tgtBuffer with
  | none => display
  | some t =>
      if x < 0 ∨ x ≥ outSize ∨ y < 0 ∨ y ≥ comSize then display
      else
        let cells := display.mem t
        let address := getAddrFromXY x y
        let bit : UInt8 := 1 <<< UInt8.ofNat (y.tmod 4).toNat
        let drawn := if datum then load cells address ||| bit else load cells address &&& ~~~bit
        withCells display t (store cells address (drawn ||| maskNeedsRewriting))

def setPixel (x y : Int) (datum : Bool) : Method := change (paintPixel x y datum)

/-- A float has 24 bits for the value of an integer, and rounds to even. -/
def floatOfNat (value : Nat) : Nat :=
  if value < 1 <<< 24 then value
  else
    let unit := 1 <<< (value.log2 - 23)
    let down := value / unit
    let rest := value % unit
    if unit < 2 * rest ∨ (unit = 2 * rest ∧ down % 2 = 1) then (down + 1) * unit else down * unit

/-- `(int)ceil((float)height/4.0f)` for the heights that have rows. -/
def cellsPerColumn (height : Int) : Int := (floatOfNat height.toNat + 3) / 4

structure Image where
  img : Int → UInt8
  width : Int
  height : Int
  x : Int
  y : Int
  offset : Int

/-- The state of the loop over the rows of a column. -/
structure Column where
  cells : Cells
  carryoverY : UInt8
  carryoverValid : Bool

def Image.carryoverNum (image : Image) : Int := image.y % 4

def Image.read (image : Image) (i j : Int) : UInt8 :=
  image.img (cellsPerColumn image.height * i + j.tdiv 4 + image.offset)

def maskBottom (height locY shiftBottom : Int) : UInt8 :=
  if height - locY ≥ 4 ∨ shiftBottom ≤ 0 then 0x0f
  else (0x0f >>> UInt8.ofNat shiftBottom.toNat) &&& 0x0f

/-- The store that every branch makes: the bits under the mask are replaced. -/
def put (cells : Cells) (address : Nat) (mask bits : UInt8) : Cells :=
  store cells address ((load cells address &&& ~~~mask &&& 0x0f) ||| bits ||| maskNeedsRewriting)

/-- The copying of a row that is not on a boundary: the first one, the one behind the last
that only takes what was carried over, and those between. -/
def copyShifted (image : Image) (i j : Int) (column : Column) : Column :=
  let locY := j + image.y
  let address := getAddrFromXY (i + image.x) locY
  let carry := UInt8.ofNat image.carryoverNum.toNat
  let back := 4 - carry
  let row := image.read i j
  if !column.carryoverValid then
    let mask := (0x0f <<< carry) &&& maskBottom image.height locY (4 - (image.height - j))
    { column with
      cells :=
        if locY > 0 then put column.cells address mask ((row <<< carry) &&& mask)
        else column.cells
      carryoverValid := true }
  else if j ≥ image.height then
    let mask := (0x0f >>> back) &&& 0x0f
    { column with cells := put column.cells address mask ((column.carryoverY >>> back) &&& mask) }
  else
    let mask := maskBottom image.height locY (4 - (image.height + image.carryoverNum - j))
    { column with
      cells := put column.cells address mask
        (((row <<< carry) &&& mask) ||| ((column.carryoverY >>> back) &&& mask)) }

/-- One turn of the loop over the rows, with its `continue`. -/
def drawRow (image : Image) (i j : Int) (column : Column) : Column :=
  let locY := j + image.y
  if locY ≤ -4 ∨ locY ≥ comSize then column
  else if locY.tmod 4 = 0 then
    let mask := maskBottom image.height locY (4 - (image.height - j))
    let row := image.read i j
    { column with cells := put column.cells (getAddrFromXY (i + image.x) locY) mask (row &&& mask) }
  else
    let copied := copyShifted image i j column
    { copied with
      carryoverY := if j < image.height then image.read i j else copied.carryoverY }

/-- Where the loop over the rows ends: what was carried over needs another turn. -/
def rowLimit (image : Image) (column : Column) : Int :=
  if column.carryoverValid then image.height + 4 else image.height

/-- The loop over the rows. -/
def drawRows (image : Image) (i : Int) : Nat → Int → Column → Column
  | 0, _, column => column
  | turns + 1, j, column =>
      if j < rowLimit image column then
        drawRows image i turns (j + 4) (drawRow image i j column)
      else column

/-- Enough turns for every row and for what was carried over. -/
def rowTurns (height : Int) : Nat := ((height + 7) / 4).toNat

theorem rowLimit_le (image : Image) (column : Column) :
    rowLimit image column ≤ image.height + 4 := by
  unfold rowLimit
  split <;> omega

/-- More turns change nothing: the loop has ended. -/
theorem drawRows_more (image : Image) (i : Int) (turns more : Nat) (j : Int) (column : Column)
    (enough : image.height + 4 ≤ j + 4 * turns) :
    drawRows image i (turns + more) j column = drawRows image i turns j column := by
  induction turns generalizing j column with
  | zero =>
      have limit := rowLimit_le image column
      cases more with
      | zero => rfl
      | succ more =>
          have ended : ¬ j < rowLimit image column := by omega
          rw [Nat.zero_add]
          exact if_neg ended
  | succ turns ih =>
      rw [Nat.succ_add, drawRows, drawRows]
      split
      · exact ih _ _ (by omega)
      · rfl

theorem rowTurns_enough (image : Image) (i : Int) (more : Nat) (column : Column) :
    drawRows image i (rowTurns image.height + more) 0 column =
      drawRows image i (rowTurns image.height) 0 column :=
  drawRows_more image i _ more 0 column (by unfold rowTurns; omega)

def drawColumn (image : Image) (cells : Cells) (i : Nat) : Cells :=
  let locX := i + image.x
  if locX < 0 ∨ locX ≥ outSize then cells
  else (drawRows image i (rowTurns image.height) 0 ⟨cells, 0, false⟩).cells

def copyImage (image : Image) (display : Display) : Display :=
  match display.tgtBuffer with
  | none => display
  | some t =>
      if image.y + image.height < 0 ∨ image.x + image.width < 0 ∨ image.y > comSize ∨
          image.x > outSize then display
      else
        withCells display t
          ((List.range image.width.toNat).foldl (drawColumn image) (display.mem t))

def drawImage (image : Image) : Method := change (copyImage image)

structure Font where
  font : Int → UInt8
  fontWidth : Int → Int
  fontHeight : Int
  fontGlyphStep : Int

/-- The character of a byte in the tables of a font, when it has one. -/
def currChar (c : UInt8) : Option Int :=
  let currchar : Int := c.toNat - 32
  let upper := if currchar ≥ 65 ∧ currchar ≤ 90 then currchar - 32 else currchar
  if upper < 0 ∨ upper ≥ 64 then none else some upper

/-- A character with its gutter columns. -/
def copyChar (font : Font) (currX y gutterSpace currchar : Int) (display : Display) : Display :=
  let width := font.fontWidth currchar
  let glyph := copyImage ⟨font.font, width, font.fontHeight, currX, y,
    currchar * font.fontGlyphStep⟩ display
  (List.range gutterSpace.toNat).foldl
    (fun display (j : Nat) =>
      copyImage ⟨font.font, 1, font.fontHeight, currX + width + j, y, 0⟩ display)
    glyph

/-- The loop over the characters of a text. -/
def copyText (font : Font) (y gutterSpace : Int) : List UInt8 → Int → Display → Display
  | [], _, display => display
  | c :: rest, currX, display =>
      if c = 0 then display
      else
        match currChar c with
        | none => copyText font y gutterSpace rest currX display
        | some currchar =>
            if currX ≥ outSize then display
            else
              let advance := font.fontWidth currchar + gutterSpace
              copyText font y gutterSpace rest (currX + advance)
                (if currX + advance ≥ 0 then copyChar font currX y gutterSpace currchar display
                else display)

def drawText (text : List UInt8) (x y : Int) (font : Font) (gutterSpace : Int) : Method :=
  change fun display =>
    if y + font.fontHeight < 0 ∨ y ≥ comSize then display
    else copyText font y gutterSpace text x display

def clearTarget (display : Display) : Display :=
  match display.tgtBuffer with
  | none => display
  | some t => withGlobal (withCells display t (Vector.replicate addrSpaceSize 0)) t true

def clear : Method := change clearTarget

/-- `drawTarget(saveTarget)`, which changes nothing when there was no target. -/
def restoreTarget (saveTarget : Option (Fin 3)) : Method :=
  match saveTarget with
  | some saveTarget => drawTarget saveTarget
  | none => fun _ => []

/-- The loops over the boards. -/
def eachBoard (body : Method) : Method := fun display =>
  block [each observe (fun i => block [drawTarget i, body]) [0, 1, 2],
    restoreTarget display.tgtBuffer] display

def clearAll : Method := eachBoard clear

def renderAll : Method := eachBoard render

def reinit : Method := block [initializeChips, eachBoard render]

/-! ### Transitions -/

def swapBuffers (t : Fin 3) (display : Display) : Display :=
  let shown := display.mem t
  withGlobal (withCells (withCells display t (display.mem bufferSecondary)) bufferSecondary shown)
    t true

/-- The modes of `transition` that move cells, in the order of their numbers. -/
def transitionCells (mode : Int) (t : Fin 3) (display : Display) : Display :=
  let shown := display.mem t
  let secondary := display.mem bufferSecondary
  if mode = 0 then swapBuffers t display
  else if mode = 1 then withCells display bufferSecondary shown
  else if mode = 2 then
    withCells display bufferSecondary
      (Vector.zipWith (fun cell pixels => cell ^^^ pixels) secondary shown)
  else if mode = 3 then
    withCells display bufferSecondary
      (Vector.zipWith (fun cell pixels => cell &&& ~~~pixels) secondary shown)
  else if mode = 4 then withGlobal (withCells display t secondary) t true
  else if mode = 5 then
    withGlobal (withCells display t
      (Vector.zipWith (fun cell other => cell ||| other) shown secondary)) t true
  else display

def pause (milliseconds : Int) : Method := fun _ => [.delay milliseconds]

/-- `TRANSITION_FADE` -/
def fade (t : Fin 3) (time brightnessSave : Int) : Method :=
  let step := time.tdiv 32
  let dim (i : Int) := block [setBrightness i, pause step]
  block [each observe dim ((List.range 15).map fun (i : Nat) => 15 - (i : Int)),
    clear, render, pause step,
    change (swapBuffers t), render, pause step,
    each observe dim ((List.range 15).map fun (i : Nat) => 2 + (i : Int)),
    setBrightness brightnessSave]

def transition (mode time : Int) : Method := fun display =>
  match display.tgtBuffer with
  | none => []
  | some t =>
      if t = bufferSecondary then []
      else if mode = 6 then fade t time display.brightness display
      else change (transitionCells mode t) display

/-! ### Runs -/

/-- The constructor, with what the allocation in `begin` leaves in the buffers. -/
def Display.new (memory : Fin 3 → Cells) : Display :=
  ⟨16, none, fun _ => false, memory⟩

def beginDisplay : Method :=
  block [pins [⟨.cs, true⟩, ⟨.wr, false⟩, ⟨.data, false⟩, ⟨.clk, false⟩],
    initializeChips,
    each observe (fun i => block [drawTarget i, clear, render]) [0, 1, 2],
    drawTarget 0]

inductive Op where
  | setPixel (x y : Int) (datum : Bool)
  | drawImage (image : Image)
  | drawText (text : List UInt8) (x y : Int) (font : Font) (gutterSpace : Int)
  | clear
  | clearAll
  | drawTarget (targetBuffer : Int)
  | transition (mode time : Int)
  | setBrightness (brightnessParam : Int)
  | blank
  | render
  | renderAll
  | reinit

def perform : Op → Method
  | .setPixel x y datum => setPixel x y datum
  | .drawImage image => drawImage image
  | .drawText text x y font gutterSpace => drawText text x y font gutterSpace
  | .clear => clear
  | .clearAll => clearAll
  | .drawTarget targetBuffer => drawTarget targetBuffer
  | .transition mode time => transition mode time
  | .setBrightness brightnessParam => setBrightness brightnessParam
  | .blank => blank
  | .render => render
  | .renderAll => renderAll
  | .reinit => reinit

/-- The methods of a run, one after another. -/
def performAll (ops : List Op) : Method := each observe perform ops

end OClock.Ht1632
