import OClock.Machine
import OClock.SerialLine

/-!
The driver of the LED strip, LPD8806.cpp, with its two constructors: one for a data
and a clock pin, one for a kernel SPI output. Allocations succeed.
-/

namespace OClock.Lpd8806
open SerialLine

inductive Line where
  | datapin
  | clkpin
  deriving DecidableEq

inductive Transport where
  | gpio
  | spiOutput
  deriving DecidableEq

/-- What the driver does to the world. -/
inductive Effect where
  | configureOutput (line : Line) (level : Bool)
  | write (line : Line) (level : Bool)
  | transfer (bytes : List UInt8)
  deriving DecidableEq

structure Strip where
  transport : Transport
  numLEDs : UInt16
  largestChangedLed : UInt16
  pixels : List UInt8
  deriving DecidableEq

def bytesPerLed : Nat := 3

def updateLength (strip : Strip) (n : UInt16) : Strip :=
  if 0 < n then
    { strip with
      numLEDs := n
      pixels := List.replicate (n.toNat * bytesPerLed) 0x80
      largestChangedLed := n - 1 }
  else { strip with numLEDs := 0, pixels := [], largestChangedLed := 0 }

def Strip.new (transport : Transport) (n : UInt16) : Strip :=
  updateLength ⟨transport, 0, 0, []⟩ n

/-! ### The latch -/

def latchClocks : Nat → List Effect
  | 0 => []
  | i + 1 => .write .clkpin true :: .write .clkpin false :: latchClocks i

/-- The counter of the loop is 16 bits wide. -/
def bitBangLatchSignal (strip : Strip) : List Effect :=
  .write .datapin false :: latchClocks ((strip.numLEDs.toNat + 31) / 32 * 8 % 65536)

def startBitbang (strip : Strip) : List Effect :=
  .configureOutput .datapin false :: .configureOutput .clkpin false :: bitBangLatchSignal strip

def latchByteCount (strip : Strip) : Nat := (strip.numLEDs.toNat + 31) / 32

def transferSpiLatch (strip : Strip) : List Effect :=
  let latch := List.replicate (latchByteCount strip) (0 : UInt8)
  if latch.isEmpty then [] else [.transfer latch]

def beginStrip (strip : Strip) : List Effect :=
  match strip.transport with
  | .spiOutput => transferSpiLatch strip
  | .gpio => startBitbang strip

/-! ### The frame -/

/-- One bit of a byte. The data pin is written when it is not known to hold the level;
`~0` in `currDatapinValue` is `none`. -/
def showBit (p bit : UInt8) (currDatapinValue : Option Bool) : List Effect × Option Bool :=
  let level := p &&& bit != 0
  ((if currDatapinValue = some level then [] else [.write .datapin level]) ++
    [.write .clkpin true, .write .clkpin false], some level)

def showBits (p : UInt8) : List UInt8 → Option Bool → List Effect × Option Bool
  | [], currDatapinValue => ([], currDatapinValue)
  | bit :: rest, currDatapinValue =>
      let now := showBit p bit currDatapinValue
      let later := showBits p rest now.2
      (now.1 ++ later.1, later.2)

/-- `while (i--)` over the bytes of the pixels. -/
def showBytes : Nat → List UInt8 → Option Bool → List Effect
  | i + 1, p :: rest, currDatapinValue =>
      let bits := showBits p [0x80, 0x40, 0x20, 0x10, 0x08, 0x04, 0x02, 0x01] currDatapinValue
      bits.1 ++ showBytes i rest bits.2
  | _, _, _ => []

def showStrip (strip : Strip) : List Effect × Strip :=
  if strip.numLEDs = 0 then ([], strip)
  else
    let dataBytes := strip.numLEDs.toNat * bytesPerLed
    let shown := { strip with largestChangedLed := 0 }
    match strip.transport with
    | .spiOutput =>
        let frame := strip.pixels.take dataBytes ++ List.replicate (latchByteCount strip) 0
        ([.transfer frame], shown)
    | .gpio =>
        (showBytes (dataBytes % 65536) strip.pixels none ++ bitBangLatchSignal strip, shown)

/-! ### The pixels -/

/-- What both overloads of `setPixelColor` do with their three bytes. -/
def storePixel (strip : Strip) (n : UInt16) (first second third : UInt8) : Strip :=
  if n < strip.numLEDs then
    let p := n.toNat * bytesPerLed
    { strip with
      pixels := ((strip.pixels.set p first).set (p + 1) second).set (p + 2) third
      largestChangedLed :=
        if strip.largestChangedLed < n then n else strip.largestChangedLed }
  else strip

def setPixelColor (strip : Strip) (n : UInt16) (r g b : UInt8) : Strip :=
  storePixel strip n (g ||| 0x80) (r ||| 0x80) (b ||| 0x80)

/-- The overload for a packed colour. -/
def setPackedColor (strip : Strip) (n : UInt16) (c : UInt32) : Strip :=
  storePixel strip n ((c >>> 16) ||| 0x80).toUInt8 ((c >>> 8) ||| 0x80).toUInt8 (c ||| 0x80).toUInt8

def clearPixelColors (strip : Strip) : Strip :=
  if strip.numLEDs = 0 then { strip with largestChangedLed := 0 }
  else
    let dataBytes := strip.numLEDs.toNat * bytesPerLed
    { strip with
      pixels := List.replicate dataBytes 0x80 ++ strip.pixels.drop dataBytes
      largestChangedLed := strip.numLEDs - 1 }

/-- `LPD8806::Color` -/
def packedColor (r g b : UInt8) : UInt32 :=
  ((g ||| 0x80).toUInt32 <<< 16) ||| ((r ||| 0x80).toUInt32 <<< 8) ||| b.toUInt32 ||| 0x80

def nullColor : UInt32 := packedColor 0 0 0

/-- The offset is 16 bits wide. -/
def getPixelColor (strip : Strip) (n : UInt16) : UInt32 :=
  if n < strip.numLEDs then
    let ofs := (n * 3).toNat
    let channel (k : Nat) : UInt32 := (strip.pixels.getD k 0 &&& 0x7f).toUInt32
    (channel ofs <<< 16) ||| (channel (ofs + 1) <<< 8) ||| channel (ofs + 2)
  else 0

/-- The overload that gives red, green and blue apart. Its offset is an `int`. -/
def getPixelChannels (strip : Strip) (n : UInt16) : UInt8 × UInt8 × UInt8 :=
  if n < strip.numLEDs then
    let p := n.toNat * bytesPerLed
    let channel (k : Nat) : UInt8 := strip.pixels.getD k 0 &&& 0x7f
    (channel (p + 1), channel p, channel (p + 2))
  else (0, 0, 0)

/-! ### Runs -/

inductive Op where
  | setPixelColor (n : UInt16) (r g b : UInt8)
  | setPackedColor (n : UInt16) (c : UInt32)
  | clearPixelColors
  | showStrip

def step (strip : Strip) : Op → List Effect × Strip
  | .setPixelColor n r g b => ([], setPixelColor strip n r g b)
  | .setPackedColor n c => ([], setPackedColor strip n c)
  | .clearPixelColors => ([], clearPixelColors strip)
  | .showStrip => showStrip strip

/-- The effects of `begin` and of every call after it. -/
def calls (transport : Transport) (n : UInt16) (ops : List Op) : List (List Effect) :=
  let strip := Strip.new transport n
  beginStrip strip :: (Machine.run step strip ops).1

end OClock.Lpd8806
