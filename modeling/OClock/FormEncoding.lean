import OClock.Text

/-!
The encodings of form data as `application/x-www-form-urlencoded`. A byte may be
written in several ways, so encoding is a relation.
-/

namespace OClock.FormEncoding
open Text

/-- `%` and two hexadecimal digits in either case, `+` for a space, or the byte
itself unless it has a meaning of its own. -/
inductive EncodesByte : UInt8 → Bytes → Prop where
  | literal (byte : UInt8) (plain : byte ≠ 43 ∧ byte ≠ 61 ∧ byte ≠ 38 ∧ byte ≠ 37) :
      EncodesByte byte [byte]
  | plus : EncodesByte 32 [43]
  | escaped (high low : UInt8) (digits : isXDigit high = true ∧ isXDigit low = true) :
      EncodesByte (hexByte high low) [37, high, low]

inductive EncodesText : Bytes → Bytes → Prop where
  | nil : EncodesText [] []
  | cons {byte : UInt8} {code text rest : Bytes} :
      EncodesByte byte code → EncodesText text rest → EncodesText (byte :: text) (code ++ rest)

/-- Pairs are joined by `&`, and a key and its value by `=`. -/
inductive EncodesPairs : List (Bytes × Bytes) → Bytes → Prop where
  | last {key value keyCode valueCode : Bytes} :
      EncodesText key keyCode → EncodesText value valueCode →
      EncodesPairs [(key, value)] (keyCode ++ 61 :: valueCode)
  | more {key value keyCode valueCode code : Bytes} {rest : List (Bytes × Bytes)} :
      EncodesText key keyCode → EncodesText value valueCode → EncodesPairs rest code →
      EncodesPairs ((key, value) :: rest) (keyCode ++ 61 :: (valueCode ++ 38 :: code))

/-- The value of the last occurrence of a key. -/
def lastValue (pairs : List (Bytes × Bytes)) (key : Bytes) : Option Bytes :=
  (pairs.reverse.find? fun pair => pair.1 = key).map Prod.snd

end OClock.FormEncoding
