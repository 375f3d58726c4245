import Mathlib.Algebra.Field.Rat
import OClock.Text

/-!
The grammar of JSON texts over bytes, with the value that a text denotes. A byte
from 0x20 on stands for itself in a string, and an escape for a code unit below
0x100 denotes that byte; higher code units denote their UTF-8 bytes.
-/

namespace OClock.JsonGrammar
open Text

inductive JValue where
  | null
  | bool (value : Bool)
  | num (value : ℚ)
  | str (value : Bytes)
  | arr (items : List JValue)
  | obj (members : List (Bytes × JValue))

/-- What a stretch of text may denote: a value, or what follows an opening bracket
or one of the members in it, up to and including the closing bracket. -/
inductive Phrase where
  | value (value : JValue)
  | fields (members : List (Bytes × JValue))
  | moreFields (members : List (Bytes × JValue))
  | items (items : List JValue)
  | moreItems (items : List JValue)

def isBlank (c : UInt8) : Bool := c == 32 || c == 9 || c == 10 || c == 13

def Space (text : Bytes) : Prop := ∀ c ∈ text, isBlank c = true

-- The list instance by name: every byte could be tried instead.
instance (text : Bytes) : Decidable (Space text) :=
  List.decidableBAll (fun c => isBlank c = true) text

/-! ### Strings -/

/-- The byte that a two-character escape denotes. -/
def simpleEscape (c : UInt8) : Option UInt8 :=
  if c = 34 ∨ c = 92 ∨ c = 47 then some c
  else if c = 98 then some 8
  else if c = 102 then some 12
  else if c = 110 then some 10
  else if c = 114 then some 13
  else if c = 116 then some 9
  else none

def codeUnit (a b c d : UInt8) : Nat :=
  (((hexValue a).toNat * 16 + (hexValue b).toNat) * 16 + (hexValue c).toNat) * 16 +
    (hexValue d).toNat

def codeUnitBytes (unit : Nat) : Bytes :=
  if unit < 256 then [UInt8.ofNat unit]
  else if unit < 2048 then [UInt8.ofNat (192 + unit / 64), UInt8.ofNat (128 + unit % 64)]
  else [UInt8.ofNat (224 + unit / 4096), UInt8.ofNat (128 + unit / 64 % 64),
    UInt8.ofNat (128 + unit % 64)]

inductive CharText : Bytes → Bytes → Prop where
  | plain (c : UInt8) (printable : 32 ≤ c ∧ c ≠ 34 ∧ c ≠ 92) : CharText [c] [c]
  | simple (c denoted : UInt8) (known : simpleEscape c = some denoted) : CharText [denoted] [92, c]
  | unicode (a b c d : UInt8)
      (digits : isXDigit a = true ∧ isXDigit b = true ∧ isXDigit c = true ∧ isXDigit d = true) :
      CharText (codeUnitBytes (codeUnit a b c d)) [92, 117, a, b, c, d]

inductive StringText : Bytes → Bytes → Prop where
  | nil : StringText [] []
  | cons {head tail headText tailText : Bytes} : CharText head headText →
      StringText tail tailText → StringText (head ++ tail) (headText ++ tailText)

/-! ### Numbers -/

def AllDigits (text : Bytes) : Prop := ∀ c ∈ text, isDigit c = true

inductive IntText : Bytes → Prop where
  | zero : IntText [48]
  | digits {first : UInt8} {rest : Bytes} (lead : isDigit first = true ∧ first ≠ 48)
      (others : AllDigits rest) : IntText (first :: rest)

inductive FractionText : Bytes → Bytes → Prop where
  | none : FractionText [] []
  | digits {digits : Bytes} (some : digits ≠ []) (all : AllDigits digits) :
      FractionText digits (46 :: digits)

inductive SignText : Bool → Bytes → Prop where
  | none : SignText false []
  | plus : SignText false [43]
  | minus : SignText true [45]

inductive ExponentText : Int → Bytes → Prop where
  | none : ExponentText 0 []
  | digits {mark : UInt8} {negative : Bool} {sign digits : Bytes} (e : mark = 101 ∨ mark = 69)
      (signed : SignText negative sign) (some : digits ≠ []) (all : AllDigits digits) :
      ExponentText (if negative then -decimalValue digits else decimalValue digits)
        (mark :: (sign ++ digits))

def numberValue (negative : Bool) (int fraction : Bytes) (exponent : Int) : ℚ :=
  let magnitude := (decimalValue (int ++ fraction) : ℚ) * 10 ^ (exponent - fraction.length)
  if negative then -magnitude else magnitude

inductive NumberText : ℚ → Bytes → Prop where
  | positive {int fraction fractionText exponentText : Bytes} {exponent : Int} :
      IntText int → FractionText fraction fractionText → ExponentText exponent exponentText →
      NumberText (numberValue false int fraction exponent)
        (int ++ (fractionText ++ exponentText))
  | negative {int fraction fractionText exponentText : Bytes} {exponent : Int} :
      IntText int → FractionText fraction fractionText → ExponentText exponent exponentText →
      NumberText (numberValue true int fraction exponent)
        (45 :: (int ++ (fractionText ++ exponentText)))

/-! ### Values -/

inductive Denotes : Phrase → Bytes → Prop where
  | null : Denotes (.value .null) (bytes "null")
  | true : Denotes (.value (.bool true)) (bytes "true")
  | false : Denotes (.value (.bool false)) (bytes "false")
  | num {value : ℚ} {text : Bytes} : NumberText value text → Denotes (.value (.num value)) text
  | str {value text : Bytes} :
      StringText value text → Denotes (.value (.str value)) (34 :: (text ++ [34]))
  | obj {members : List (Bytes × JValue)} {text : Bytes} :
      Denotes (.fields members) text → Denotes (.value (.obj members)) (123 :: text)
  | arr {items : List JValue} {text : Bytes} :
      Denotes (.items items) text → Denotes (.value (.arr items)) (91 :: text)
  | noFields {space : Bytes} : Space space → Denotes (.fields []) (space ++ [125])
  | field {name : Bytes} {value : JValue} {members : List (Bytes × JValue)}
      {before nameText between gap text after : Bytes} :
      Space before → StringText name nameText → Space between → Space gap →
      Denotes (.value value) text → Denotes (.moreFields members) after →
      Denotes (.fields ((name, value) :: members))
        (before ++ 34 :: (nameText ++ 34 :: (between ++ 58 :: (gap ++ (text ++ after)))))
  | lastField {space : Bytes} : Space space → Denotes (.moreFields []) (space ++ [125])
  | nextField {space text : Bytes} {member : Bytes × JValue} {members : List (Bytes × JValue)} :
      Space space → Denotes (.fields (member :: members)) text →
      Denotes (.moreFields (member :: members)) (space ++ 44 :: text)
  | noItems {space : Bytes} : Space space → Denotes (.items []) (space ++ [93])
  | item {value : JValue} {items : List JValue} {before text after : Bytes} :
      Space before → Denotes (.value value) text → Denotes (.moreItems items) after →
      Denotes (.items (value :: items)) (before ++ (text ++ after))
  | lastItem {space : Bytes} : Space space → Denotes (.moreItems []) (space ++ [93])
  | nextItem {space text : Bytes} {value : JValue} {items : List JValue} :
      Space space → Denotes (.items (value :: items)) text →
      Denotes (.moreItems (value :: items)) (space ++ 44 :: text)

/-- A whole text: a value with blanks around it. -/
inductive DenotesText : JValue → Bytes → Prop where
  | text {value : JValue} {before text after : Bytes} : Space before →
      Denotes (.value value) text → Space after → DenotesText value (before ++ (text ++ after))

/-! ### No text holds a NUL -/

theorem space_clean {space : Bytes} (blank : Space space) : (0 : UInt8) ∉ space := by
  intro member
  exact absurd (blank 0 member) (by decide)

theorem digits_clean {digits : Bytes} (all : AllDigits digits) : (0 : UInt8) ∉ digits := by
  intro member
  exact absurd (all 0 member) (by decide)

theorem char_clean {value text : Bytes} (char : CharText value text) : (0 : UInt8) ∉ text := by
  intro member
  cases char with
  | plain c printable =>
      rw [← List.mem_singleton.mp member] at printable
      exact absurd printable.1 (by decide)
  | simple c denoted known =>
      have zero : 0 = c := by simpa using member
      rw [← zero] at known
      exact absurd (known.symm.trans (by decide : simpleEscape 0 = none)) (by simp)
  | unicode a b c d digits =>
      have zero : isXDigit 0 = false := by decide
      obtain ⟨one, two, three, four⟩ := digits
      simp only [List.mem_cons, List.not_mem_nil, or_false] at member
      rcases member with same | same | same | same | same | same
      · exact absurd same (by decide)
      · exact absurd same (by decide)
      · rw [← same, zero] at one
        cases one
      · rw [← same, zero] at two
        cases two
      · rw [← same, zero] at three
        cases three
      · rw [← same, zero] at four
        cases four

theorem string_clean {value text : Bytes} (string : StringText value text) :
    (0 : UInt8) ∉ text := by
  induction string with
  | nil => simp
  | cons char _ ih => simp [char_clean char, ih]

theorem int_clean {int : Bytes} (text : IntText int) : (0 : UInt8) ∉ int := by
  cases text with
  | zero => decide
  | digits lead others =>
      rw [List.mem_cons, not_or]
      refine ⟨?_, digits_clean others⟩
      rintro rfl
      exact absurd lead.1 (by decide)

theorem fraction_clean {digits text : Bytes} (fraction : FractionText digits text) :
    (0 : UInt8) ∉ text := by
  cases fraction with
  | none => simp
  | digits _ all => simp [digits_clean all]

theorem exponent_clean {exponent : Int} {text : Bytes} (exp : ExponentText exponent text) :
    (0 : UInt8) ∉ text := by
  cases exp with
  | none => simp
  | @digits mark _ _ _ e signed _ all =>
      have marked : 0 ≠ mark := by
        rcases e with rfl | rfl <;> decide
      cases signed <;> simp [marked, digits_clean all]

theorem number_clean {value : ℚ} {text : Bytes} (number : NumberText value text) :
    (0 : UInt8) ∉ text := by
  cases number with
  | positive int fraction exp | negative int fraction exp =>
      simp [int_clean int, fraction_clean fraction, exponent_clean exp]

theorem denotes_clean {phrase : Phrase} {text : Bytes} (denotes : Denotes phrase text) :
    (0 : UInt8) ∉ text := by
  induction denotes with
  | null | true | false => decide
  | num number => exact number_clean number
  | str string => simp [string_clean string]
  | obj _ ih | arr _ ih => simp [ih]
  | noFields blank | lastField blank | noItems blank | lastItem blank => simp [space_clean blank]
  | nextField blank _ ih | nextItem blank _ ih => simp [space_clean blank, ih]
  | field before name between gap _ _ valueIh moreIh =>
      simp [space_clean before, string_clean name, space_clean between, space_clean gap, valueIh,
        moreIh]
  | item before _ _ valueIh moreIh => simp [space_clean before, valueIh, moreIh]

theorem text_clean {value : JValue} {text : Bytes} (denotes : DenotesText value text) :
    (0 : UInt8) ∉ text := by
  cases denotes with
  | text before inner after =>
      simp [space_clean before, denotes_clean inner, space_clean after]

end OClock.JsonGrammar
