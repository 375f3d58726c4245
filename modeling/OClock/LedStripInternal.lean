import OClock.CommonUtils
import OClock.Lpd8806
import OClock.TimerTable

/-!
The modes of the LED strip, ledStripInternal.cpp. The variables that the functions of the
modes keep from call to call are fields of one record. A frame is what the strip holds when
it is shown.
-/

namespace OClock.LedStripInternal
open Text CommonUtils
open Lpd8806 hiding step
open TimerTable (millisPerTick)

def ledStripParamLedStripMode : Bytes := bytes "ledStripMode"
def ledStripParamTimeout : Bytes := bytes "timeout"
def ledStripParamClearAllPixels : Bytes := bytes "clearPixels"
def ledStripParamExtra : Bytes := bytes "extraParam"
def ledStripParamFrom : Bytes := bytes "from"
def ledStripParamTo : Bytes := bytes "to"

inductive LedStripMode where
  | manual
  | pastel
  | fill
  | rainbow
  | scan
  | binaryCounter
  | count
  deriving DecidableEq

/-- The cast of an `int`. A value without a name is no mode. -/
def LedStripMode.ofInt : Int → Option LedStripMode
  | 0 => some .manual
  | 1 => some .pastel
  | 2 => some .fill
  | 3 => some .rainbow
  | 4 => some .scan
  | 5 => some .binaryCounter
  | 6 => some .count
  | _ => none

/-- The static variables of the functions of the modes. -/
structure Statics where
  currPixel : Int
  j : UInt16
  color : UInt32
  i : Int
  iIncrement : Int
  currentCounterValue : UInt64

def Statics.new : Statics := ⟨0, 0, 0, 0, 1, 0⟩

structure Info where
  lpd8806 : Strip
  currModeIndex : Nat
  secsUntilGoingToManualMode : Int
  params : StringMap
  statics : Statics
  random : Random

inductive Output where
  | show (strip : Strip)
  | delay (milliseconds : Nat)
  deriving DecidableEq

abbrev Handler := Info → List Output × Info

/-! ### The strip -/

def numPixels (info : Info) : Nat := info.lpd8806.numLEDs.toNat

/-- The cast of an `int` to a pixel. -/
def pixel (n : Int) : UInt16 := UInt16.ofInt n

def showFrame : Handler := fun info =>
  ([.show info.lpd8806], { info with lpd8806 := (showStrip info.lpd8806).2 })

def clearPixelColorsAndShow : Handler := fun info =>
  showFrame { info with lpd8806 := clearPixelColors info.lpd8806 }

/-- One statement after another. -/
def andThen (first second : Handler) : Handler := fun info =>
  let now := first info
  let later := second now.2
  (now.1 ++ later.1, later.2)

/-! ### Colours -/

/-- An empty value counts as none. -/
def colorParam (params : StringMap) (name : Bytes) : Bytes :=
  match getParamValue params name with
  | none => bytes "0"
  | some value => if value.isEmpty then bytes "0" else value

def channelOf (value : Int) : UInt8 := UInt8.ofInt value

def getPixelColorParam (params : StringMap) : UInt32 :=
  match stoiAuto (colorParam params (bytes "red")), stoiAuto (colorParam params (bytes "green")),
      stoiAuto (colorParam params (bytes "blue")) with
  | some red, some green, some blue =>
      packedColor (channelOf red) (channelOf green) (channelOf blue)
  | _, _, _ => nullColor

def randomColor (random : Random) : UInt32 × Random :=
  let drawn := getRandomNumber random 0x00fffffe
  (drawn.1 + 1, drawn.2)

/-- The colour that was asked for, or a random one. -/
def wantedColor (info : Info) : UInt32 × Info :=
  let asked := getPixelColorParam info.params
  if asked = nullColor then
    let drawn := randomColor info.random
    (drawn.1, { info with random := drawn.2 })
  else (asked, info)

def wheel (wheelPos : UInt16) : UInt32 :=
  let up := (wheelPos % 128).toUInt8
  let down := 127 - up
  if wheelPos / 128 = 0 then packedColor down up 0
  else if wheelPos / 128 = 1 then packedColor 0 down up
  else if wheelPos / 128 = 2 then packedColor up 0 down
  else packedColor 0 0 0

def extraIs (info : Info) (value : String) : Bool :=
  isParamSetTo info.params ledStripParamExtra (bytes value)

/-- A handler for one value of the extra parameter. -/
def whenExtra (value : String) (handler : Handler) : Handler := fun info =>
  if extraIs info value then handler info else ([], info)

/-! ### manual -/

def modeManualInit : Handler := fun info => ([], info)

/-! ### pastel -/

structure Pastel where
  r : UInt8
  g : UInt8
  b : UInt8
  repeats : Int

def pastelStart : Pastel := ⟨63, 63, 127, 0⟩

/-- The colour of the next pixel. -/
def pastelNext (pastel : Pastel) : Pastel :=
  if pastel.repeats < 63 then { pastel with r := pastel.r + 1 }
  else if pastel.repeats < 63 * 2 then { pastel with b := pastel.b - 1 }
  else if pastel.repeats < 63 * 3 then { pastel with g := pastel.g + 1 }
  else { pastelStart with repeats := -1 }

/-- `currPixel` is set back when it has passed the last pixel. -/
def wrapPixel (numPixels : Nat) (currPixel : Int) : Int :=
  if (numPixels : Int) ≤ currPixel then 0 else currPixel

def pastelLoop (n : Nat) : Nat → Pastel → Int → Strip → Int × Strip
  | 0, _, currPixel, strip => (currPixel, strip)
  | turns + 1, pastel, currPixel, strip =>
      let next := pastelNext pastel
      pastelLoop n turns { next with repeats := next.repeats + 1 } (wrapPixel n (currPixel + 1))
        (setPixelColor strip (pixel currPixel) next.r next.g next.b)

def pastelShiftPixels : Int := 1

def modePastelMain : Handler := fun info =>
  let n := numPixels info
  let drawn := pastelLoop n n pastelStart info.statics.currPixel info.lpd8806
  let shown := showFrame { info with lpd8806 := drawn.2 }
  (shown.1, { shown.2 with
    statics := { info.statics with currPixel := wrapPixel n (drawn.1 + pastelShiftPixels) } })

def modePastelFast : Handler := whenExtra "fast" modePastelMain
def modePastel1Sec : Handler := whenExtra "1sec" modePastelMain
def modePastel10Sec : Handler := whenExtra "10sec" modePastelMain
def modePastel1Min : Handler := whenExtra "1min" modePastelMain

/-! ### fill -/

/-- The bounds of a fill; a text that is rejected leaves its bound, and what follows it, at 0. -/
def fillBounds (params : StringMap) : UInt64 × UInt64 :=
  let bound (name : Bytes) : Option UInt64 :=
    match getParamValue params name with
    | none => some 0
    | some value => (stollAuto value).map UInt64.ofInt
  match bound ledStripParamFrom with
  | none => (0, 0)
  | some low =>
      match bound ledStripParamTo with
      | none => (low, 0)
      | some high => (low, high)

def outsideFill (bounds : UInt64 × UInt64) (i : Nat) : Bool :=
  (bounds.1 != 0 && UInt64.ofNat (i + 1) < bounds.1) ||
    (bounds.2 != 0 && bounds.2 < UInt64.ofNat (i + 1))

def fillPixels (bounds : UInt64 × UInt64) : List Nat → UInt32 → Info → Info
  | [], _, info => info
  | i :: rest, color, info =>
      if outsideFill bounds i then fillPixels bounds rest color info
      else
        let filled := { info with lpd8806 := setPackedColor info.lpd8806 (pixel i) color }
        if extraIs info "randomColor" then
          let drawn := randomColor info.random
          fillPixels bounds rest drawn.1 { filled with random := drawn.2 }
        else fillPixels bounds rest color filled

def modeFillInit : Handler := fun info =>
  let wanted := wantedColor info
  showFrame (fillPixels (fillBounds info.params) (List.range (numPixels info)) wanted.1 wanted.2)

/-! ### rainbow -/

def rainbowPixel (n : Nat) (j : UInt16) (strip : Strip) (i : Nat) : Strip :=
  setPackedColor strip (pixel i) (wheel (UInt16.ofNat ((i * 384 / n + j.toNat) % 384)))

def modeRainbowMain : Handler := fun info =>
  let n := numPixels info
  let j := info.statics.j
  let shown := showFrame { info with
    lpd8806 := (List.range n).foldl (rainbowPixel n j) info.lpd8806 }
  (shown.1, { shown.2 with
    statics := { info.statics with j := if 384 ≤ j + 1 then 0 else j + 1 } })

def modeRainbowFast : Handler := whenExtra "fast" modeRainbowMain
def modeRainbow1sec : Handler := whenExtra "1sec" modeRainbowMain
def modeRainbow10sec : Handler := whenExtra "10sec" modeRainbowMain

/-! ### scan -/

def ledsVisitedPerFrame : Nat := 11

/-- The dot turns back at the end of the strip. -/
def scanTurn (n : Nat) (statics : Statics) : Statics :=
  let i := statics.i + statics.iIncrement
  if i = n then { statics with i := i - 2, iIncrement := -1 } else { statics with i }

/-- One turn shows the dot and erases it again. -/
def scanDot (info : Info) : List Output × Info :=
  let dot := pixel info.statics.i
  let shown := showFrame { info with
    lpd8806 := setPackedColor info.lpd8806 dot info.statics.color }
  (shown.1, { shown.2 with lpd8806 := setPackedColor shown.2.lpd8806 dot 0 })

def scanLoop : Nat → Handler
  | 0, info => ([], info)
  | turns + 1, info =>
      let dot := scanDot info
      if info.statics.i + info.statics.iIncrement = -1 then
        let cleared := clearPixelColorsAndShow { dot.2 with
          statics := { info.statics with i := 0, iIncrement := 1 } }
        (dot.1 ++ cleared.1, cleared.2)
      else
        let moved := { dot.2 with statics := scanTurn (numPixels info) info.statics }
        if turns = 0 then (dot.1, moved)
        else
          let later := scanLoop turns moved
          (dot.1 ++ .delay (millisPerTick.toNat / ledsVisitedPerFrame) :: later.1, later.2)

/-- The colour is chosen when the dot is at the start of the strip. -/
def scanColor (info : Info) : Info :=
  if info.statics.i = 0 then
    let wanted := wantedColor info
    { wanted.2 with statics := { info.statics with color := wanted.1 } }
  else info

def modeScanMain : Handler := fun info => scanLoop (ledsVisitedPerFrame + 1) (scanColor info)

def modeScanFast : Handler := fun info =>
  if !isParamSet info.params ledStripParamExtra || extraIs info "" then modeScanMain info
  else ([], info)

def modeScan1Sec : Handler := whenExtra "1sec" modeScanMain
def modeScan10Sec : Handler := whenExtra "10sec" modeScanMain
def modeScan1Min : Handler := whenExtra "1min" modeScanMain

/-! ### binary counter -/

/-- The value to count from, 0 for a text that is rejected. -/
def initialValue (params : StringMap) : UInt64 :=
  match getParamValue params ledStripParamExtra with
  | none => 0
  | some value => ((stollAuto value).map UInt64.ofInt).getD 0

/-- The pixels but the last one show the bits of the value, until none is left. -/
def counterPixels (color : UInt32) : Nat → Nat → UInt64 → Strip → Strip
  | 0, _, _, strip => strip
  | turns + 1, i, value, strip =>
      if value = 0 then strip
      else
        counterPixels color turns (i + 1) (value >>> 1)
          (setPackedColor strip (pixel i) (if value &&& 1 = 0 then 0 else color))

/-- The last pixel is dark when the mode was just entered. -/
def countUp (info : Info) : Info :=
  let last := pixel ((numPixels info : Int) - 1)
  if getPixelColor info.lpd8806 last = 0 then
    { info with
      lpd8806 := setPackedColor (clearPixelColors info.lpd8806) last (packedColor 1 1 1)
      statics := { info.statics with currentCounterValue := initialValue info.params } }
  else
    { info with
      statics := { info.statics with
        currentCounterValue := info.statics.currentCounterValue + 1 } }

def modeBinaryCounterMain : Handler := fun info =>
  let counted := countUp info
  let wanted := wantedColor counted
  showFrame { wanted.2 with
    lpd8806 := counterPixels wanted.1 (numPixels info - 1) 0 counted.statics.currentCounterValue
      counted.lpd8806 }

def modeBinaryCounterFast : Handler := whenExtra "fast" modeBinaryCounterMain

/-! ### The table of the modes -/

structure Mode where
  ledStripMode : LedStripMode
  ledStripModeStr : Bytes
  handlerInit : Option Handler
  handlerTickFast : Option Handler
  handlerTick1Sec : Option Handler
  handlerTick10Sec : Option Handler
  handlerTick1Min : Option Handler

def modeManual : Mode := ⟨.manual, bytes "manual", some modeManualInit, none, none, none, none⟩

def modePastel : Mode :=
  ⟨.pastel, bytes "pastel", some modePastelMain, some modePastelFast, some modePastel1Sec,
    some modePastel10Sec, some modePastel1Min⟩

def modeFill : Mode := ⟨.fill, bytes "fill", some modeFillInit, none, none, none, none⟩

def modeRainbow : Mode :=
  ⟨.rainbow, bytes "rainbow", some modeRainbowMain, some modeRainbowFast, some modeRainbow1sec,
    some modeRainbow10sec, some modeRainbowMain⟩

def modeScan : Mode :=
  ⟨.scan, bytes "scan", none, some modeScanFast, some modeScan1Sec, some modeScan10Sec,
    some modeScan1Min⟩

def modeBinaryCounter : Mode :=
  ⟨.binaryCounter, bytes "binCnt", none, some modeBinaryCounterFast, some modeBinaryCounterMain,
    none, none⟩

def allModes : List Mode :=
  [modeManual, modePastel, modeFill, modeRainbow, modeScan, modeBinaryCounter]

/-- The mode of an index that is not in the table is never asked for. -/
def currMode (info : Info) : Mode := allModes[info.currModeIndex]?.getD modeManual

def getLedStripMode (info : Info) : LedStripMode := (currMode info).ledStripMode

def runHandler (handler : Option Handler) : Handler := fun info =>
  match handler with
  | none => ([], info)
  | some handler => handler info

/-! ### Changing the mode -/

def shouldClearAllPixels (params : StringMap) : Bool :=
  match getParamValue params ledStripParamClearAllPixels with
  | none => false
  | some value => !value.isEmpty && parseBooleanValue value

def noTimeout : Int := -1

/-- A bad text counts as less than a second. -/
def timeoutOf (params : StringMap) : Int :=
  match getParamValue params ledStripParamTimeout with
  | none => noTimeout
  | some value => if value.isEmpty then noTimeout else (stoiAuto value).getD 0

def changeLedStripMode (wantedLedStripMode : LedStripMode) (params : StringMap) : Handler :=
  fun info =>
    match allModes.findIdx? fun mode => mode.ledStripMode = wantedLedStripMode with
    | none => ([], info)
    | some i =>
        let cleared :=
          if getLedStripMode info ≠ wantedLedStripMode ∨ shouldClearAllPixels params = true then
            clearPixelColorsAndShow info
          else ([], info)
        let begun := runHandler (allModes[i]?.bind Mode.handlerInit) { cleared.2 with
          secsUntilGoingToManualMode := timeoutOf params
          currModeIndex := i
          params }
        (cleared.1 ++ begun.1, begun.2)

def expiredParams : StringMap :=
  (∅ : StringMap).insert ledStripParamClearAllPixels (bytes "yes")

def checkIfModeTimedOut : Handler := fun info =>
  if info.secsUntilGoingToManualMode < 0 then ([], info)
  else
    let passed := { info with
      secsUntilGoingToManualMode := info.secsUntilGoingToManualMode - 1 }
    if passed.secsUntilGoingToManualMode < 0 then changeLedStripMode .manual expiredParams passed
    else ([], passed)

/-! ### Runs -/

def fastTick : Handler := fun info => runHandler (currMode info).handlerTickFast info

def tick1sec : Handler :=
  andThen (fun info => runHandler (currMode info).handlerTick1Sec info) checkIfModeTimedOut

def tick10sec : Handler := fun info => runHandler (currMode info).handlerTick10Sec info

def tick1min : Handler := fun info => runHandler (currMode info).handlerTick1Min info

/-- The mode a POST asks for, as far as its text can be read. -/
def wantedMode (postValues : StringMap) : Option LedStripMode :=
  match getParamValue postValues ledStripParamLedStripMode with
  | none => none
  | some text => if text.isEmpty then none else (stoi text).bind LedStripMode.ofInt

def doHandleModePost (postValues : StringMap) : Handler := fun info =>
  match wantedMode postValues with
  | none => ([], info)
  | some wanted => changeLedStripMode wanted postValues info

inductive Input where
  | doHandleModePost (postValues : StringMap)
  | fastTick
  | tick1sec
  | tick10sec
  | tick1min

def step (info : Info) : Input → List Output × Info
  | .doHandleModePost postValues => doHandleModePost postValues info
  | .fastTick => fastTick info
  | .tick1sec => tick1sec info
  | .tick10sec => tick10sec info
  | .tick1min => tick1min info

def initialParams : StringMap := (∅ : StringMap).insert ledStripParamTimeout (bytes "3")

/-- The constructor, after `begin`. -/
def construct (transport : Transport) (n : UInt16) (statics : Statics) (random : Random) :
    List Output × Info :=
  andThen showFrame (changeLedStripMode .rainbow initialParams)
    ⟨Strip.new transport n, 0, noTimeout, ∅, statics, random⟩

end OClock.LedStripInternal
