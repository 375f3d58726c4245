import OClock.Dimming
import OClock.Fonts
import OClock.Fortunes
import OClock.MotionSensor

/-!
The modes of displayInternal.cpp: what decides the mode of the display and what is told of
it. What a mode draws, the tables of the backgrounds and the counters of the animations
decide nothing and are left out. The sums of `int` are exact.
-/

namespace OClock.DisplayInternal
open Text CommonUtils InboxRegistry StatusReport Fonts Fortunes Dimming

inductive DisplayMode where
  | nothing | basicClock | message
  deriving DecidableEq, Repr

def messageMaxSize : Nat := 4096
def incrementYScale : Nat := 1000
def incrementYValue : Int := 800

def displayColorYellow : UInt32 := 2
def displayColorAlternate : UInt32 := 3

/-- `~0` as an `Int32U`. -/
def forever : UInt32 := 4294967295

/-- `~0` as an `int`. -/
def repeatForever : Int := -1

/-- The only function that is ever stored as the callback. -/
inductive CompletedCallback where
  | changeDisplayModeBasicClock

structure ModeMessageData where
  msg : Bytes
  modeMsgsIndex : UInt32
  incrementX : Bool
  confetti : Int
  alternateFont : Bool
  displayColor : UInt32
  blink : Bool
  completedCallback : Option CompletedCallback
  completedCallbackParam : Option Bytes
  incrementY : Int
  repeats : Int
  timeout : UInt32
  font : Font
  currX : Int
  currYFactor : Int
  blinkBlankInEffect : Bool
  wd : Int

/-- The statics of the file. -/
structure Display where
  currModeIndex : Nat
  modeMessageDataColorEffect : Int
  modeMessageData : ModeMessageData
  roomIsDark : Bool

/-- Statics start with zeroes. -/
def Display.static : Display where
  currModeIndex := 0
  modeMessageDataColorEffect := 0
  modeMessageData :=
    { msg := []
      modeMsgsIndex := 0
      incrementX := false
      confetti := 0
      alternateFont := false
      displayColor := 0
      blink := false
      completedCallback := none
      completedCallbackParam := none
      incrementY := 0
      repeats := 0
      timeout := 0
      font := 0
      currX := 0
      currYFactor := 0
      blinkBlankInEffect := false
      wd := 0 }
  roomIsDark := false

def Display.withData (display : Display) (modeMessageData : ModeMessageData) : Display :=
  { display with modeMessageData := modeMessageData }

/-- The entry of a mode in the table. -/
structure Mode where
  displayMode : DisplayMode
  displayModeStr : Bytes
  inboxMsgType : InboxMsgType

def modeNothing : Mode := ⟨.nothing, bytes "nothing", .displayModeNothing⟩
def modeBasicClock : Mode := ⟨.basicClock, bytes "basicClock", .displayModeBasicClock⟩
def modeMessage : Mode := ⟨.message, bytes "message", .displayModeMessage⟩

def allModes : List Mode := [modeNothing, modeBasicClock, modeMessage]

/-- `allModes[index]` -/
def modeAt (index : Nat) : Mode := allModes[index]?.getD modeNothing

/-- An assignment to `currModeIndex`, and one to `roomIsDark`. -/
inductive Change where
  | entered (displayMode : DisplayMode)
  | dimmed (roomIsDark : Bool)
  deriving DecidableEq

/-- What the functions of the display work on, and the assignments made so far. -/
structure Scene where
  display : Display
  inboxes : Inboxes
  changes : List Change

/-- What the other singletons answer. -/
structure Surroundings where
  motionInfo : MotionInfo
  lightValue : UInt32
  dictionary : Bytes → Bytes
  random : Random

/-- `snprintf` of a C string into the buffer of the message. -/
def printMsg (text : Bytes) : Bytes := (cText text).take (messageMaxSize - 1)

def initModeMessageData (currX currY : Int) (incrementX incrementY : Bool) (confetti : Int)
    (blink : Bool) (font : Font) (timeout : UInt32) (display : Display) : Display :=
  { display with
    modeMessageDataColorEffect := display.modeMessageDataColorEffect + 1
    modeMessageData :=
      { display.modeMessageData with
        msg := []
        incrementX := incrementX
        modeMsgsIndex := modeMsgsIndexLast
        confetti := confetti
        alternateFont := false
        displayColor := displayColorAlternate
        blink := blink
        completedCallback := some .changeDisplayModeBasicClock
        completedCallbackParam := none
        incrementY := if incrementY then incrementYValue else 0
        repeats := repeatForever
        timeout := timeout
        font := font
        currX := currX
        currYFactor := currY * incrementYScale
        blinkBlankInEffect := blink } }

def textWidth (data : ModeMessageData) : Int := getTextWidth data.msg (getFontWidth data.font) 1

def modeMessageInit (param : Option Bytes) (display : Display) : Display :=
  let data := display.modeMessageData
  let named : ModeMessageData :=
    match param with
    | some text => { data with msg := printMsg text }
    | none =>
        if data.modeMsgsIndex < modeMsgsIndexLast then
          { data with
            msg := printMsg (modeMessageMsgs[data.modeMsgsIndex.toNat]?.getD []) }
        else data
  display.withData { named with wd := textWidth named }

/-- The other modes only draw. -/
def handlerInit (displayMode : DisplayMode) (param : Option Bytes) (display : Display) :
    Display :=
  match displayMode with
  | .message => modeMessageInit param display
  | .nothing | .basicClock => display

/-- The first entry of the table for a mode is entered. -/
def changeDisplayMode (displayMode : DisplayMode) (param : Option Bytes) (scene : Scene) : Scene :=
  match allModes.findIdx? fun mode => mode.displayMode = displayMode with
  | none => scene
  | some i =>
      let entered : Display := { scene.display with currModeIndex := i }
      { display := handlerInit (modeAt i).displayMode param entered
        changes := scene.changes ++ [.entered (modeAt i).displayMode]
        inboxes := broadcast scene.inboxes (.ofType (modeAt i).inboxMsgType) .display }

def changeDisplayModeBasicClock (param : Option Bytes) (scene : Scene) : Scene :=
  changeDisplayMode .basicClock param scene

def CompletedCallback.run : CompletedCallback → Option Bytes → Scene → Scene
  | .changeDisplayModeBasicClock => DisplayInternal.changeDisplayModeBasicClock

/-! ### The basic clock and the screen saver -/

def modeBasicClockFast (surroundings : Surroundings) (scene : Scene) : Scene :=
  let motionInfo := surroundings.motionInfo
  if motionInfo.currMotionDetected = false ∧
      (15 < motionInfo.lastChangedMin ∨ 0 < motionInfo.lastChangedHour) then
    changeDisplayMode .nothing none scene
  else scene

def modeNothingCheckMotion (surroundings : Surroundings) (scene : Scene) : Scene :=
  if surroundings.motionInfo.currMotionDetected then changeDisplayMode .basicClock none scene
  else scene

/-! ### The message -/

/-- The text has left the panel, and starts over. -/
def wrapText (display : Display) : Display :=
  let data := { display.modeMessageData with currX := 0 }
  { display with
    modeMessageDataColorEffect := display.modeMessageDataColorEffect + 1
    modeMessageData :=
      if data.alternateFont then
        let turned := { data with font := getNextFont data.font }
        { turned with wd := textWidth turned }
      else data }

/-- Whether the message was shown often enough. -/
def countRepeat (display : Display) : Bool × Display :=
  let data := display.modeMessageData
  if data.repeats ≠ repeatForever then
    if data.repeats - 1 < 0 then
      (true, display.withData { data with repeats := repeatForever })
    else (false, display.withData { data with repeats := data.repeats - 1 })
  else (false, display)

/-- One column further. -/
def scroll (display : Display) : Bool × Display :=
  let data := display.modeMessageData
  if data.incrementX then
    let moved := display.withData { data with currX := data.currX + 1 }
    if data.wd + outSize ≤ data.currX + 1 then countRepeat (wrapText moved) else (false, moved)
  else (false, display)

/-- The turn at the lower edge, where a text that does not scroll changes its looks. -/
def turnAround (display : Display) : Display :=
  let data := { display.modeMessageData with incrementY := -display.modeMessageData.incrementY }
  if data.incrementX then display.withData data
  else
    { display with
      modeMessageDataColorEffect := display.modeMessageDataColorEffect + 1
      modeMessageData :=
        if data.alternateFont then { data with font := getNextFont data.font } else data }

def bounce (display : Display) : Display :=
  let data := display.modeMessageData
  if data.incrementY ≠ 0 then
    let currYFactor := data.currYFactor + data.incrementY
    let moved := display.withData { data with currYFactor := currYFactor }
    let maxY := comSize - getFontHeight data.font
    if data.incrementY < 0 ∧ currYFactor < 0 then
      moved.withData { moved.modeMessageData with incrementY := -data.incrementY }
    else if 0 < data.incrementY ∧ maxY * incrementYScale ≤ currYFactor then turnAround moved
    else moved
  else display

/-- The callback ends the function; without one it goes on. -/
def modeMessageFast (scene : Scene) : Scene :=
  let scrolled := scroll scene.display
  let moved := { scene with display := scrolled.2 }
  match scrolled.1, scrolled.2.modeMessageData.completedCallback with
  | true, some callback => callback.run scrolled.2.modeMessageData.completedCallbackParam moved
  | _, _ => { moved with display := bounce moved.display }

def modeMessageCheckBlink (scene : Scene) : Scene :=
  let data := scene.display.modeMessageData
  if data.blink then
    { scene with
      display := scene.display.withData
        { data with blinkBlankInEffect := !data.blinkBlankInEffect } }
  else scene

/-- A timeout of 0 is taken below zero, which is forever. -/
def modeMessageCheckTimeout (scene : Scene) : Scene :=
  let data := scene.display.modeMessageData
  if data.timeout ≠ forever then
    if data.timeout - 1 ≤ 0 then
      let expired :=
        { scene with display := scene.display.withData { data with timeout := forever } }
      match data.completedCallback with
      | some callback => callback.run data.completedCallbackParam expired
      | none => expired
    else { scene with display := scene.display.withData { data with timeout := data.timeout - 1 } }
  else scene

/-! ### The calls of the display thread -/

inductive Cadence where
  | fast | ms100 | ms250 | ms500 | sec1 | sec5 | sec10 | sec25 | min1
  deriving DecidableEq

/-- The handler of a mode for a tick. The other handlers of the table only draw. -/
def handlerTick (surroundings : Surroundings) : Cadence → DisplayMode → Scene → Scene
  | .fast, .message => modeMessageFast
  | .ms250, .message => modeMessageCheckBlink
  | .ms500, .basicClock => modeBasicClockFast surroundings
  | .sec1, .nothing => modeNothingCheckMotion surroundings
  | .sec1, .message => modeMessageCheckTimeout
  | _, _ => id

def getDisplayMode (display : Display) : DisplayMode := (modeAt display.currModeIndex).displayMode

def displayTick (cadence : Cadence) (surroundings : Surroundings) (scene : Scene) : Scene :=
  handlerTick surroundings cadence (getDisplayMode scene.display) scene

/-- The matrix is not part of the scene. -/
def runDimCall (inboxes : Inboxes) : DimCall → Inboxes
  | .setBrightness _ => inboxes
  | .broadcast inboxMsgType threadIdFrom => broadcast inboxes (.ofType inboxMsgType) threadIdFrom

def updateDim (surroundings : Surroundings) (scene : Scene) : Scene :=
  let decided := Dimming.updateDim scene.display.roomIsDark surroundings.lightValue
  { display := { scene.display with roomIsDark := decided.1 }
    changes :=
      if scene.display.roomIsDark = decided.1 then scene.changes
      else scene.changes ++ [.dimmed decided.1]
    inboxes := decided.2.foldl runDimCall scene.inboxes }

def displayTickFast : Surroundings → Scene → Scene := displayTick .fast
def displayTick100ms : Surroundings → Scene → Scene := displayTick .ms100
def displayTick250ms : Surroundings → Scene → Scene := displayTick .ms250
def displayTick500ms : Surroundings → Scene → Scene := displayTick .ms500
def displayTick1sec (surroundings : Surroundings) (scene : Scene) : Scene :=
  updateDim surroundings (displayTick .sec1 surroundings scene)
def displayTick5sec : Surroundings → Scene → Scene := displayTick .sec5
def displayTick10sec : Surroundings → Scene → Scene := displayTick .sec10
def displayTick25sec : Surroundings → Scene → Scene := displayTick .sec25
def displayTick1min : Surroundings → Scene → Scene := displayTick .min1

def initDisplay (scene : Scene) : Scene :=
  let display := initModeMessageData 1 5 false false 1 false font5x4 5 scene.display
  let data := { display.modeMessageData with
    modeMsgsIndex := modeMsgsIndexBoot
    displayColor := displayColorYellow }
  changeDisplayMode .message none { scene with display := display.withData data }

/-! ### The message posted -/

def msgDictPrefix : Bytes := bytes "#dict_"

/-- `strncasecmp` over the length of the key: a key names every word it begins. -/
def names (key : Bytes) (word : String) : Bool := beginsCaseless (bytes word) key

def textIndex (index : UInt32) : UInt32 :=
  if index = modeMsgsIndexBoot then modeMsgsIndexFortunate1 else index

/-- The value of `msg`: a cookie by number or by chance, a dictionary value, or a text. -/
def postMsg (surroundings : Surroundings) (value : Bytes) (data : ModeMessageData)
    (random : Random) : ModeMessageData × Random :=
  let dictKey := value.drop msgDictPrefix.length
  if beginsCaseless value (bytes "#cookie") then
    if value.drop 7 = [] then
      let drawn := getRandomNumber random modeMsgsIndexLast
      ({ data with modeMsgsIndex := textIndex drawn.1 }, drawn.2)
    else
      ({ data with modeMsgsIndex := textIndex (UInt32.ofNat (strtoul (value.drop 7))) }, random)
  else if beginsCaseless value msgDictPrefix ∧ dictKey ≠ [] then
    ({ data with msg := printMsg (surroundings.dictionary dictKey) }, random)
  else ({ data with msg := printMsg value }, random)

/-- The parameters other than `msg`. -/
def postParam (key value : Bytes) (data : ModeMessageData) : ModeMessageData :=
  let number := strtoul value
  let truth := parseBooleanValue value
  if names key "x" then { data with currX := int32 number }
  else if names key "y" then { data with currYFactor := int32 (number * incrementYScale) }
  else if names key "font" then { data with font := UInt32.ofNat number }
  else if names key "alternateFont" then { data with alternateFont := truth }
  else if names key "confetti" then { data with confetti := int32 number }
  else if names key "bounce" then { data with incrementY := if truth then incrementYValue else 0 }
  else if names key "noScroll" then { data with incrementX := !truth }
  else if names key "blink" then { data with blink := truth }
  else if names key "color" then { data with displayColor := UInt32.ofNat number }
  else if names key "repeats" then { data with repeats := int32 number }
  else if names key "timeout" then { data with timeout := UInt32.ofNat number }
  else data

def postPair (surroundings : Surroundings) (posted : ModeMessageData × Random)
    (kvp : Bytes × Bytes) : ModeMessageData × Random :=
  let key := cText kvp.1
  let value := cText kvp.2
  if names key "msg" then postMsg surroundings value posted.1 posted.2
  else (postParam key value posted.1, posted.2)

def doHandleMsgModePost (postValues : StringMap) (surroundings : Surroundings) (scene : Scene) :
    Scene :=
  let display := initModeMessageData 0 5 true false 0 false font5x4 60 scene.display
  let posted := postValues.toList.foldl (postPair surroundings)
    (display.modeMessageData, surroundings.random)
  changeDisplayMode .message none { scene with display := display.withData posted.1 }

/-- The posts that wait for the display. -/
inductive DisplayTodo where
  | handleMsgModePost (postValues : StringMap)
  | handleImgBackgroundPost (postValues : StringMap)
  | handleMsgBackgroundPost (postValues : StringMap)

/-- The posts of backgrounds only change the tables that are drawn. -/
def handleTodo (surroundings : Surroundings) (scene : Scene) : DisplayTodo → Scene
  | .handleMsgModePost postValues => doHandleMsgModePost postValues surroundings scene
  | .handleImgBackgroundPost _ | .handleMsgBackgroundPost _ => scene

end OClock.DisplayInternal
