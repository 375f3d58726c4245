import OClock.OrderedMap

/-!
Byte strings as `std::string` holds them, and the number readers and printers of
the C library that the program applies to them.
-/

namespace OClock.Text

abbrev Bytes := List UInt8

abbrev StringMap := OrderedMap Bytes Bytes

def getParamValue (params : StringMap) (paramName : Bytes) : Option Bytes := params[paramName]?

/-- The bytes of an ASCII literal. -/
def bytes (literal : String) : Bytes := literal.toList.map fun c => UInt8.ofNat c.toNat

/-- `isspace` in the C locale. -/
def isSpace (c : UInt8) : Bool := c == 32 || (9 ≤ c && c ≤ 13)

def isDigit (c : UInt8) : Bool := 48 ≤ c && c ≤ 57

def digitValue (c : UInt8) : Nat := c.toNat - 48

/-- `isxdigit` in the C locale. -/
def isXDigit (c : UInt8) : Bool := isDigit c || (65 ≤ c && c ≤ 70) || (97 ≤ c && c ≤ 102)

def hexValue (c : UInt8) : UInt8 :=
  if c ≤ 57 then c - 48 else if c ≤ 70 then c - 55 else c - 87

/-- `strtoul` in base sixteen of two hexadecimal digits, as a `char`. -/
def hexByte (high low : UInt8) : UInt8 := hexValue high * 16 + hexValue low

/-- The cast to a 32-bit `int`. -/
def int32 (value : Int) : Int := Int.bmod value 4294967296

def decimalValue (digits : Bytes) : Nat :=
  digits.foldl (fun value c => value * 10 + digitValue c) 0

/-- Whether a minus sign was read, and what follows the sign. -/
def readSign : Bytes → Bool × Bytes
  | 45 :: rest => (true, rest)
  | 43 :: rest => (false, rest)
  | text => (false, text)

/-- `std::stoi` in base ten: `none` where it throws, for a text without a leading
number and for a number outside `int`. What follows the number is ignored. -/
def stoi (text : Bytes) : Option Int :=
  let signed := readSign (text.dropWhile isSpace)
  let digits := signed.2.takeWhile isDigit
  if digits = [] then none
  else
    let value : Int := if signed.1 then -decimalValue digits else decimalValue digits
    if -2147483648 ≤ value ∧ value ≤ 2147483647 then some value else none

def lowerHexDigit (value : UInt8) : UInt8 := if value < 10 then 48 + value else 87 + value

/-- `%lu` -/
def decimal (value : Nat) : Bytes := bytes (toString value)

/-- `%d` -/
def decimalInt (value : Int) : Bytes :=
  if value < 0 then bytes "-" ++ decimal value.natAbs else decimal value.natAbs

/-- `%02lu` -/
def twoDigits (value : Nat) : Bytes :=
  if value < 10 then bytes "0" ++ decimal value else decimal value

example : stoi (bytes " -1") = some (-1) := by decide
example : stoi (bytes "60000ms") = some 60000 := by decide
example : stoi (bytes "not-a-number") = none := by decide
example : stoi (bytes "2147483648") = none := by decide

end OClock.Text
