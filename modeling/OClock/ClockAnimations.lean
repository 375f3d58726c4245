import OClock.DictionaryLive
import OClock.DictionaryRun
import OClock.Images

/-!
The animations of the basic clock, drawn every 250 ms from what the dictionary holds: two
arrows that follow a direction, and a car while there is motion in the garage.
-/

namespace OClock.ClockAnimations
open Text DictionaryStore Ht1632 Images

def dictionaryTopicTemperatureDir : Bytes := bytes "/sensor/temperature_outside/direction"
def dictionaryTopicHumidityDir : Bytes := bytes "/garage/humidity/direction"
def dictionaryTopicGarageMotion1 : Bytes := bytes "/garage/oper_flag/motion"
def dictionaryTopicGarageMotion2 : Bytes := bytes "/garage_steps/oper_flag/motion"
def dictionaryTopicGarageMotion3 : Bytes := bytes "/kitchen_steps/oper_flag/motion"
def dictionaryTopicValueOn : Bytes := bytes "on"
def dictionaryTopicDirectionUp : Bytes := bytes "up"
def dictionaryTopicDirectionDown : Bytes := bytes "down"

/-- An image drawn on a board, which is then rendered. -/
structure Shown where
  board : Int
  imgArtInfo : ImgArtInfo
  x : Int
  y : Int

def Shown.draw (shown : Shown) : Method :=
  block [drawTarget shown.board, drawImage (shown.imgArtInfo.source shown.x shown.y).image, render]

/-! ### The arrows -/

/-- The animation of a direction: which topic tells it, and where it is drawn. -/
def upDownAnimation (topic : Bytes) (board yPos : Int) (animationFrame : UInt32)
    (dictionary : Dictionary) : Option Shown × UInt32 × Dictionary :=
  let looked := get dictionary topic
  let value := looked.1.data
  if !looked.1.found then (none, animationFrame, looked.2)
  else if value ≠ dictionaryTopicDirectionUp ∧ value ≠ dictionaryTopicDirectionDown then
    (none, animationFrame, looked.2)
  else
    let imgArtInfo :=
      if value = dictionaryTopicDirectionUp then getImgArtInfo (imgArtUp21 + animationFrame)
      else getImgArtInfo (imgArtDown21 + animationFrame)
    (some ⟨board, imgArtInfo, 103, yPos⟩, (animationFrame + 1) % 4, looked.2)

def modeBasicClockSDoUpDownAnimationTemperature :
    UInt32 → Dictionary → Option Shown × UInt32 × Dictionary :=
  upDownAnimation dictionaryTopicTemperatureDir 0 0

def modeBasicClockSDoUpDownAnimationHumidity :
    UInt32 → Dictionary → Option Shown × UInt32 × Dictionary :=
  upDownAnimation dictionaryTopicHumidityDir 1 6

/-! ### The car -/

def animationsAfterOff : Nat := 80

structure Car where
  animationFrame : UInt32
  animationCounter : Nat
  blinkerEffect : UInt32

def Car.initial : Car := ⟨0, animationsAfterOff, 0⟩

/-- What the three lookups of a call found. -/
structure Sighting where
  value1 : Lookup
  value2 : Lookup
  value3 : Lookup

def Sighting.found (sighting : Sighting) : Bool :=
  sighting.value1.found || sighting.value2.found || sighting.value3.found

def isOn (value : Lookup) : Bool := value.found && value.data == dictionaryTopicValueOn

def Sighting.on (sighting : Sighting) : Bool :=
  isOn sighting.value1 || isOn sighting.value2 || isOn sighting.value3

def lookForMotion (dictionary : Dictionary) : Sighting × Dictionary :=
  let value1 := get dictionary dictionaryTopicGarageMotion1
  let value2 := get value1.2 dictionaryTopicGarageMotion2
  let value3 := get value2.2 dictionaryTopicGarageMotion3
  (⟨value1.1, value2.1, value3.1⟩, value3.2)

/-- The car, or nothing of it while it blinks. -/
def showCar (car : Car) : Shown × Car :=
  let imgArtInfo := getImgArtInfo (imgArtCar1 + car.animationFrame)
  let blinkerEffect := car.blinkerEffect + 1
  if blinkerEffect % 10 < 6 then
    (⟨0, imgArtInfo, 86, 8⟩,
      { car with blinkerEffect := blinkerEffect, animationFrame := car.animationFrame ^^^ 1 })
  else
    (⟨0, { imgArtInfo with img := (getImgArtInfo imgArtBlank).img }, 86, 8⟩,
      { car with blinkerEffect := blinkerEffect })

/-- What a call does once it has looked. Without any of the keys it does not count. -/
def driveCar (sighting : Sighting) (car : Car) : Option Shown × Car :=
  if !sighting.found then (none, car)
  else
    let seen := if sighting.on then { car with animationCounter := 0 } else car
    if animationsAfterOff ≤ seen.animationCounter then (none, seen)
    else
      let shown := showCar { seen with animationCounter := seen.animationCounter + 1 }
      (some shown.1, shown.2)

def modeBasicClockSDoCarAnimation (car : Car) (dictionary : Dictionary) :
    Option Shown × Car × Dictionary :=
  let looked := lookForMotion dictionary
  let driven := driveCar looked.1 car
  (driven.1, driven.2, looked.2)

/-! ### The handler -/

/-- The statics of the three animations. -/
structure Animations where
  temperatureFrame : UInt32
  humidityFrame : UInt32
  car : Car

def Animations.initial : Animations := ⟨0, 0, .initial⟩

/-- What a call of the handler drew, and what it knew of the garage. -/
structure Call where
  temperature : Option Shown
  humidity : Option Shown
  sighting : Sighting
  car : Option Shown

def modeBasicClockSDoUpDownAnimation (animations : Animations) (dictionary : Dictionary) :
    Call × Animations × Dictionary :=
  let temperature :=
    modeBasicClockSDoUpDownAnimationTemperature animations.temperatureFrame dictionary
  let humidity :=
    modeBasicClockSDoUpDownAnimationHumidity animations.humidityFrame temperature.2.2
  let car := modeBasicClockSDoCarAnimation animations.car humidity.2.2
  (⟨temperature.1, humidity.1, (lookForMotion humidity.2.2).1, car.1⟩,
    ⟨temperature.2.1, humidity.2.1, car.2.1⟩, car.2.2)

/-! ### Runs -/

structure World where
  animations : Animations
  dictionary : Dictionary

/-- Something is done to the dictionary, or the handler is called. -/
inductive Event where
  | dictionary (op : DictionaryRun.Op)
  | displayTick250ms

def step (world : World) : Event → Option Call × World
  | .dictionary op => (none, { world with dictionary := (DictionaryRun.step world.dictionary op).2 })
  | .displayTick250ms =>
      let called := modeBasicClockSDoUpDownAnimation world.animations world.dictionary
      (some called.1, ⟨called.2.1, called.2.2⟩)

/-- The calls of the handler in a run from boot. -/
def calls (events : List Event) : List Call :=
  (Machine.run step ⟨.initial, .new⟩ events).1.filterMap id

end OClock.ClockAnimations
