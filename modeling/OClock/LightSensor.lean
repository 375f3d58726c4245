import Mathlib.Data.List.DropRight
import OClock.SlidingWindow
import OClock.CommonUtils

/-!
The analog input of linuxIioAnalogInput.cpp and the light sensor of lightSensor.cpp. What the
attribute files of the converter hold is given.
-/

namespace OClock.LightSensor
open Text CommonUtils SlidingWindow

def lastAdcChannel : Int := 1
def maxAdcValue : Int := 1023
def maxLightValuesSize : Nat := 10
def darkRoomThresholdLowWaterMark : UInt32 := 460
def darkRoomThresholdHighWaterMark : UInt32 := 600

/-- A converter answers a channel with at most ten bits, or with a negative number. -/
structure AnalogInput where
  readAnalog : Int → Int
  tenBits : ∀ channel, readAnalog channel ≤ maxAdcValue

/-- CR, LF, blank and tab. -/
def isTrailing (c : UInt8) : Bool := c == 13 || c == 10 || c == 32 || c == 9

/-- A file that cannot be read, or has no line, reads as nothing. -/
def readSingleLine (line : Option Bytes) : Bytes := (line.getD []).rdropWhile isTrailing

/-- `strtol` in base ten of a whole text. A number outside `long`, for which `errno` is set,
is outside every range of smaller numbers as well. -/
def wholeNumber (text : Bytes) : Option Int :=
  let signed := readSign (text.dropWhile isSpace)
  if signed.2 = [] ∨ signed.2.all isDigit = false then none
  else some (if signed.1 then -decimalValue signed.2 else decimalValue signed.2)

def readAnalog (devicePath : Bytes) (firstLine : Bytes → Option Bytes) (channel : Int) : Int :=
  if channel < 0 ∨ lastAdcChannel < channel ∨ devicePath = [] then -1
  else
    let path := devicePath ++ bytes "/in_voltage" ++ decimalInt channel ++ bytes "_raw"
    let text := readSingleLine (firstLine path)
    if text = [] then -1
    else
      match wholeNumber (cText text) with
      | none => -1
      | some value => if value < 0 ∨ maxAdcValue < value then -1 else value

theorem readAnalog_le (devicePath : Bytes) (firstLine : Bytes → Option Bytes) (channel : Int) :
    readAnalog devicePath firstLine channel ≤ maxAdcValue := by
  have failed : (-1 : Int) ≤ maxAdcValue := by decide
  unfold readAnalog
  split
  · exact failed
  · dsimp only
    split
    · exact failed
    · split
      · exact failed
      · split
        · exact failed
        · next inside => exact Int.not_lt.mp (not_or.mp inside).2

/-- The attributes may change between one reading and the next. -/
def linuxIioAnalogInput (devicePath : Bytes) (firstLine : Bytes → Option Bytes) : AnalogInput where
  readAnalog := readAnalog devicePath firstLine
  tenBits := readAnalog_le devicePath firstLine

abbrev LightValues := List Int

def doSensorRead (analogInput : AnalogInput) (lightValues : LightValues) :
    Except Bytes LightValues :=
  let currRead0 := analogInput.readAnalog 0
  let currRead1 := analogInput.readAnalog 1
  if currRead0 < 0 ∨ currRead1 < 0 then
    .error (bytes "failed to read analog value for light sensor")
  else .ok (push maxLightValuesSize lightValues (Int.tdiv (currRead0 + currRead1) 2))

def getLightValue (lightValues : LightValues) : UInt32 :=
  let total : Int × Int := lightValues.foldl
    (fun counted currValue => (counted.1 + 1, counted.2 + currValue)) (0, 0)
  if total.1 = 0 then 0 else UInt32.ofInt (Int.tdiv total.2 total.1)

def InRange (value : Int) : Prop := 0 ≤ value ∧ value ≤ maxAdcValue

/-- What is stored when nothing throws. -/
theorem doSensorRead_ok {analogInput : AnalogInput} {lightValues stored : LightValues}
    (read : doSensorRead analogInput lightValues = .ok stored) :
    InRange (Int.tdiv (analogInput.readAnalog 0 + analogInput.readAnalog 1) 2) ∧
      stored = push maxLightValuesSize lightValues
        (Int.tdiv (analogInput.readAnalog 0 + analogInput.readAnalog 1) 2) := by
  unfold doSensorRead at read
  dsimp only at read
  split at read
  · cases read
  · next readings =>
    have first := analogInput.tenBits 0
    have second := analogInput.tenBits 1
    have total : 0 ≤ analogInput.readAnalog 0 + analogInput.readAnalog 1 := by omega
    refine ⟨?_, (Except.ok.inj read).symm⟩
    rw [Int.tdiv_eq_ediv_of_nonneg total]
    unfold InRange maxAdcValue at *
    omega

theorem counted (lightValues : LightValues) (entries sum : Int) :
    lightValues.foldl (fun (total : Int × Int) currValue => (total.1 + 1, total.2 + currValue))
      (entries, sum) = (entries + lightValues.length, sum + lightValues.sum) := by
  induction lightValues generalizing entries sum with
  | nil => simp
  | cons value rest ih =>
      rw [List.foldl_cons, ih, List.length_cons, List.sum_cons]
      simp only [Nat.cast_add, Nat.cast_one, Prod.mk.injEq]
      omega

/-- The average of a full window, rounded down. -/
theorem getLightValue_full {lightValues : LightValues}
    (within : ∀ value ∈ lightValues, InRange value)
    (full : lightValues.length = maxLightValuesSize) :
    ((getLightValue lightValues).toNat : Int) = lightValues.sum / 10 := by
  have low : 0 ≤ lightValues.sum := List.sum_nonneg fun value there => (within value there).1
  have high : lightValues.sum ≤ lightValues.length • maxAdcValue :=
    List.sum_le_card_nsmul _ _ fun value there => (within value there).2
  rw [full] at high
  unfold maxLightValuesSize maxAdcValue at *
  unfold getLightValue
  rw [counted, full]
  simp only [Nat.cast_ofNat, zero_add, OfNat.ofNat_ne_zero, ↓reduceIte, UInt32.ofInt,
    UInt32.toNat_ofNat']
  rw [Int.tdiv_eq_ediv_of_nonneg low]
  rw [nsmul_eq_mul] at high
  omega

example : [bytes "1024", bytes "-3", bytes "12a", bytes "", bytes " +9"].map
    (fun line => readAnalog (bytes "/sys/x") (fun _ => some line) 0) = [-1, -1, -1, -1, 9] := by
  decide

end OClock.LightSensor
