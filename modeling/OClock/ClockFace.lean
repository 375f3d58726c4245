import OClock.ClockAnimations
import OClock.DrawCalls

/-!
What the basic clock and the empty mode of the display draw: the face of the clock with its
texts, the pixel of the motion sensor, and the pixel that walks over the panel while nobody is
there. The seconds are shown as a text; the box of dots for them is not compiled in.
-/

namespace OClock.ClockFace
open Text CommonUtils DictionaryStore Fonts Images DrawCalls ClockAnimations
open DisplayInternal (messageMaxSize displayColorYellow)

/-- The calls of the matrix driver. -/
inductive MatrixCall where
  | clearAll
  | drawTarget (targetBuffer : Int)
  | clear
  | drawText (text : Bytes) (x y : Int) (font : Font)
  | drawImage (imgArtInfo : ImgArtInfo) (x y : Int)
  | setPixel (locX locY : Int) (datum : Bool)
  | render
  | renderAll
  | setBrightness (brightnessParam : Int)
  | reinit

def MatrixCall.op (arrays : FontArrays) : MatrixCall → Ht1632.Op
  | .clearAll => .clearAll
  | .drawTarget targetBuffer => .drawTarget targetBuffer
  | .clear => .clear
  | .drawText text x y font => .drawText (text ++ [0]) x y (TextBounds.fontTables arrays font).plain 1
  | .drawImage imgArtInfo x y => .drawImage (imgArtInfo.source x y).image
  | .setPixel locX locY datum => .setPixel locX locY datum
  | .render => .render
  | .renderAll => .renderAll
  | .setBrightness brightnessParam => .setBrightness brightnessParam
  | .reinit => .reinit

/-- A call of a frame of the message. -/
def ofDrawCall : DrawCall → MatrixCall
  | .clearAll => .clearAll
  | .drawTarget targetBuffer => .drawTarget targetBuffer
  | .drawText text x y font => .drawText text x y font
  | .drawImage imgArtInfo x y => .drawImage imgArtInfo x y
  | .setPixel locX locY => .setPixel locX locY true
  | .renderAll => .renderAll

/-! ### The texts -/

structure Tm where
  tmSec : Int
  tmMin : Int
  tmHour : Int
  tmMday : Int
  tmMon : Int
  tmWday : Int

/-- What `localtime_r` gives. -/
structure Tm.Valid (timeInfo : Tm) : Prop where
  sec : 0 ≤ timeInfo.tmSec ∧ timeInfo.tmSec ≤ 60
  min : 0 ≤ timeInfo.tmMin ∧ timeInfo.tmMin ≤ 59
  hour : 0 ≤ timeInfo.tmHour ∧ timeInfo.tmHour ≤ 23
  mday : 1 ≤ timeInfo.tmMday ∧ timeInfo.tmMday ≤ 31
  mon : 0 ≤ timeInfo.tmMon ∧ timeInfo.tmMon ≤ 11
  wday : 0 ≤ timeInfo.tmWday ∧ timeInfo.tmWday ≤ 6

/-- `%2d`, or `%02d`. -/
def wide (pad : Bytes) (value : Int) : Bytes :=
  if (decimalInt value).length < 2 then pad ++ decimalInt value else decimalInt value

/-- `snprintf` into a buffer. -/
def printed (size : Nat) (text : Bytes) : Bytes := text.take (size - 1)

def daysOfWeek : List Bytes :=
  [bytes "Sunday", bytes "Monday", bytes "Tuesday", bytes "Wednesday", bytes "Thursday",
    bytes "Friday", bytes "Saturday"]

def months : List Bytes :=
  [bytes "January", bytes "February", bytes "March", bytes "April", bytes "May", bytes "June",
    bytes "July", bytes "August", bytes "September", bytes "October", bytes "November",
    bytes "December"]

def getDayOfMonthStr (day : Int) : Bytes :=
  if day = 1 then bytes "1st"
  else if day = 2 then bytes "2nd"
  else if day = 3 then bytes "3rd"
  else if day = 21 then bytes "21st"
  else if day = 22 then bytes "22nd"
  else if day = 23 then bytes "23rd"
  else if day = 31 then bytes "31st"
  else decimalInt day ++ bytes "th"

/-- From 1 to 12. -/
def hourOf (timeInfo : Tm) : Int :=
  let hour := timeInfo.tmHour - if timeInfo.tmHour > 12 then 12 else 0
  if hour = 0 then 12 else hour

def timeText (timeInfo : Tm) : Bytes :=
  printed messageMaxSize (wide (bytes " ") (hourOf timeInfo) ++ bytes ":" ++
    wide (bytes "0") timeInfo.tmMin)

def amPmText (timeInfo : Tm) : Bytes := if timeInfo.tmHour > 11 then bytes "pm" else bytes "am"

def weekDayStr (timeInfo : Tm) : Bytes :=
  if timeInfo.tmWday ≥ 0 ∧ timeInfo.tmWday ≤ 6 then
    daysOfWeek[timeInfo.tmWday.toNat]?.getD (bytes "DDD")
  else bytes "DDD"

def monthStr (timeInfo : Tm) : Bytes :=
  if timeInfo.tmMon ≥ 0 ∧ timeInfo.tmMon ≤ 11 then
    months[timeInfo.tmMon.toNat]?.getD (bytes "MMM")
  else bytes "MMM"

/-- Three characters of the month, and the day behind a blank. -/
def dateText (timeInfo : Tm) : Bytes :=
  printed 4 (monthStr timeInfo) ++ bytes " " ++
    printed (messageMaxSize - 4) (getDayOfMonthStr timeInfo.tmMday)

/-- Blanks behind it wipe what wider digits have left. -/
def secondsText (timeInfo : Tm) : Bytes := printed 10 (wide (bytes "0") timeInfo.tmSec ++ bytes " ")

/-- A value of the dictionary with its unit. -/
def valueText (unit value : Bytes) : Bytes := printed messageMaxSize (cText value ++ unit)

/-! ### The basic clock -/

def dictionaryTopicTemperature : Bytes := bytes "/sensor/temperature_outside"
def dictionaryTopicHumidity : Bytes := bytes "/garage/humidity"

/-- The text of a value, when it is there. -/
def valueCalls (board y : Int) (unit : Bytes) (value : Lookup) : List MatrixCall :=
  .drawTarget board ::
    if value.found then [.drawText (valueText unit value.data) 109 y font5x4] else []

def modeBasicClockShowTemperature (dictionary : Dictionary) : List MatrixCall × Dictionary :=
  let temperature := get dictionary dictionaryTopicTemperature
  let humidity := get temperature.2 dictionaryTopicHumidity
  (valueCalls 0 0 (bytes " f") temperature.1 ++ valueCalls 1 6 (bytes " %") humidity.1, humidity.2)

def modeBasicClockSlow (timeInfo : Tm) (dictionary : Dictionary) : List MatrixCall × Dictionary :=
  let shown := modeBasicClockShowTemperature dictionary
  ([.drawTarget 0, .clear, .drawText (timeText timeInfo) 0 0 font16x8,
    .drawText (amPmText timeInfo) 39 9 font5x4,
    .drawTarget 1, .clear, .drawText (weekDayStr timeInfo) 49 0 font7x5,
    .drawTarget 0, .drawText (dateText timeInfo) 49 8 font8x4,
    .drawTarget 1, .drawText (dateText timeInfo) 49 8 font8x4] ++ shown.1, shown.2)

/-- The clock is read by this function, and again by the one it calls at a new minute. -/
def modeBasicClockShowSeconds (timeInfo slowTimeInfo : Tm) (dictionary : Dictionary) :
    List MatrixCall × Dictionary :=
  let slow :=
    if timeInfo.tmSec = 0 then modeBasicClockSlow slowTimeInfo dictionary else ([], dictionary)
  (slow.1 ++ [.drawTarget 0, .drawText (secondsText timeInfo) 39 0 font5x4], slow.2)

def updateMotionDetectedPixel (currMotionDetected : Bool) : List MatrixCall :=
  [.drawTarget 0, .setPixel (outSize - 1) (comSize - 1) currMotionDetected,
    .drawTarget 1, .setPixel (outSize - 1) (comSize - 1) currMotionDetected, .renderAll]

def shownCalls : Option Shown → List MatrixCall
  | none => []
  | some shown => [.drawTarget shown.board, .drawImage shown.imgArtInfo shown.x shown.y, .render]

def animationCalls (call : ClockAnimations.Call) : List MatrixCall :=
  shownCalls call.temperature ++ shownCalls call.humidity ++ shownCalls call.car

/-! ### The empty mode -/

/-- The statics of `modeNothingCheckMotion`. -/
structure Saver where
  row : Int
  col : Int
  color : UInt8
  deriving DecidableEq

def Saver.initial : Saver := ⟨0, 0, 0⟩

/-- A turn of the loop over the boards. -/
def saverBoard (saver : Saver) (boardId : Nat) : List MatrixCall :=
  if saver.color ≠ UInt8.ofNat displayColorYellow.toNat ∧ saver.color ≠ UInt8.ofNat boardId then []
  else [.drawTarget boardId, .setPixel saver.row saver.col true]

def saverCalls (saver : Saver) : List MatrixCall :=
  .clearAll :: (saverBoard saver 0 ++ saverBoard saver 1) ++ [.renderAll]

def Saver.next (saver : Saver) : Saver :=
  let color := saver.color + 1
  if color > UInt8.ofNat displayColorYellow.toNat then
    let row := saver.row + 1
    if row ≥ outSize then
      let col := saver.col + 1
      ⟨0, if col ≥ comSize then 0 else col, 0⟩
    else ⟨row, saver.col, 0⟩
  else { saver with color := color }

end OClock.ClockFace
