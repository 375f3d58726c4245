import OClock.Text

/-!
The helpers of commonUtils.cpp, and the readers of integers whose base is told by the text:
hexadecimal after `0x`, octal after a zero, decimal otherwise.
-/

namespace OClock.CommonUtils
open Text

def isOctal (c : UInt8) : Bool := 48 ≤ c && c ≤ 55

def valueIn (base : Nat) (digits : Bytes) : Nat :=
  digits.foldl (fun value c => value * base + (hexValue c).toNat) 0

/-- The number at the start of a text, after its blanks and its sign. Without a digit behind
it, the zero of a `0x` is the number. The `0b` that some newer libraries read is not a prefix
here. -/
def readAnyBase : Bytes → Option Nat
  | 48 :: x :: digit :: rest =>
      if (x = 120 ∨ x = 88) ∧ isXDigit digit = true then
        some (valueIn 16 ((digit :: rest).takeWhile isXDigit))
      else some (valueIn 8 ((x :: digit :: rest).takeWhile isOctal))
  | 48 :: rest => some (valueIn 8 (rest.takeWhile isOctal))
  | text =>
      if text.takeWhile isDigit = [] then none
      else some (valueIn 10 (text.takeWhile isDigit))

def readInteger (text : Bytes) : Option Int :=
  let signed := readSign (text.dropWhile isSpace)
  (readAnyBase signed.2).map fun value => if signed.1 then -value else value

/-- A number in the range of the type that the conversion answers with, or it throws. -/
def within (low high : Int) (value : Option Int) : Option Int :=
  value.filter fun value => low ≤ value ∧ value ≤ high

/-- `std::stoi` with base 0 -/
def stoiAuto (text : Bytes) : Option Int := within (-2147483648) 2147483647 (readInteger text)

/-- `std::stoll` with base 0 -/
def stollAuto (text : Bytes) : Option Int :=
  within (-9223372036854775808) 9223372036854775807 (readInteger text)

/-- `ULONG_MAX` where an `unsigned long` has 64 bits. On a system of 32 bits it is 4294967295,
and `strtoul` reads every number from there on as that one. -/
def unsignedLongMax : Nat := 18446744073709551615

/-- `strtoul` in base ten. A text without a number reads as 0, a minus sign negates in the
type of the result, and a number that does not fit is its largest value. -/
def strtoul (text : Bytes) : Nat :=
  let signed := readSign (text.dropWhile isSpace)
  let value := decimalValue (signed.2.takeWhile isDigit)
  if unsignedLongMax < value then unsignedLongMax
  else if signed.1 then (unsignedLongMax + 1 - value) % (unsignedLongMax + 1)
  else value

/-- A text up to its first NUL, as C reads it. -/
def cText (text : Bytes) : Bytes := text.takeWhile (· ≠ 0)

/-- `tolower` in the C locale. -/
def toLower (c : UInt8) : UInt8 := if 65 ≤ c ∧ c ≤ 90 then c + 32 else c

/-- `strcasecmp` answers 0. -/
def sameCaseless (left right : Bytes) : Bool := left.map toLower == right.map toLower

/-- `strncasecmp` over the length of a word answers 0. -/
def beginsCaseless (text word : Bytes) : Bool := sameCaseless (text.take word.length) word

/-- A number that does not fit an `unsigned long` counts as its largest value. -/
def parseBooleanValue (valueStr : Bytes) : Bool :=
  let text := cText valueStr
  if beginsCaseless text (bytes "n") then false
  else if beginsCaseless text (bytes "y") then true
  else if sameCaseless text (bytes "false") then false
  else if sameCaseless text (bytes "true") then true
  else (readInteger text).any (· ≠ 0)

def isParamSet (params : StringMap) (paramName : Bytes) : Bool := params.contains paramName

/-- `isParamSet` with a value to compare. -/
def isParamSetTo (params : StringMap) (paramName paramValue : Bytes) : Bool :=
  params[paramName]? == some paramValue

/-- The random numbers still to be drawn. -/
abbrev Random := Nat → UInt32

def getRandomNumber (random : Random) (upperBound : UInt32) : UInt32 × Random :=
  if upperBound = 0 then (0, random) else (random 0 % upperBound, fun k => random (k + 1))

example : [stoiAuto (bytes " 0x1F"), stoiAuto (bytes "010"), stoiAuto (bytes "0xg"),
    stoiAuto (bytes "-12s"), stoiAuto (bytes "4294967295"), stoiAuto (bytes "x")] =
      [some 31, some 8, some 0, some (-12), none, none] := by decide

example : [strtoul (bytes " 60s"), strtoul (bytes "-1"), strtoul (bytes "x")] =
    [60, unsignedLongMax, 0] := by decide

example : [parseBooleanValue (bytes "yes"), parseBooleanValue (bytes "NO"),
    parseBooleanValue (bytes "0x0"), parseBooleanValue (bytes "TRUE")] =
      [true, false, false, true] := by decide

end OClock.CommonUtils
