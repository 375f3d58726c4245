import Mathlib.Data.List.TakeWhile
import OClock.Decimal
import OClock.JsonGrammar

/-!
What the usual ways of printing JSON denote: numbers printed in base ten, and
objects printed member by member with fixed texts for the names and the separators.
-/

namespace OClock.JsonLayout
open Text Decimal JsonGrammar

/-! ### Numbers -/

theorem decimal_int (value : Nat) : IntText (decimal value) := by
  have digits := decimal_digits value
  rcases decimal_lead value with single | ⟨first, rest, same, other⟩
  · rw [single]
    exact .zero
  · rw [same] at digits ⊢
    exact .digits ⟨digits first List.mem_cons_self, other⟩
      fun c member => digits c (List.mem_cons_of_mem first member)

theorem numberValue_int (negative : Bool) (value : Nat) :
    numberValue negative (decimal value) [] 0 =
      if negative then -(value : ℚ) else (value : ℚ) := by
  simp [numberValue, decimal_value]

theorem denotes_nat (value : Nat) : Denotes (.value (.num (value : ℚ))) (decimal value) := by
  have number := NumberText.positive (decimal_int value) .none .none
  rw [numberValue_int, List.append_nil, List.append_nil] at number
  exact .num number

theorem denotes_int (value : Int) : Denotes (.value (.num (value : ℚ))) (decimalInt value) := by
  unfold decimalInt
  by_cases below : value < 0
  · have number := NumberText.negative (decimal_int value.natAbs) .none .none
    rw [numberValue_int, List.append_nil, List.append_nil] at number
    have same : -((value.natAbs : Nat) : ℚ) = (value : ℚ) := by
      have magnitude : ((value.natAbs : Nat) : Int) = -value := by omega
      have cast := congrArg (Int.cast : Int → ℚ) magnitude
      rw [Int.cast_natCast, Int.cast_neg] at cast
      rw [cast, neg_neg]
    rw [if_pos rfl, same] at number
    rw [if_pos below]
    exact .num number
  · have magnitude : ((value.natAbs : Nat) : Int) = value := by omega
    have cast := congrArg (Int.cast : Int → ℚ) magnitude
    rw [Int.cast_natCast] at cast
    rw [if_neg below, ← cast]
    exact denotes_nat value.natAbs

/-- Hundredths printed with two digits after the point. -/
theorem denotes_hundredths (value : Nat) :
    Denotes (.value (.num ((value : ℚ) / 100)))
      (decimal (value / 100) ++ bytes "." ++ twoDigits (value % 100)) := by
  obtain ⟨length, digits, back⟩ := twoDigits_digits (Nat.mod_lt value (by decide : 0 < 100))
  have nonempty : twoDigits (value % 100) ≠ [] := by
    intro empty
    rw [empty] at length
    cases length
  have number := NumberText.positive (decimal_int (value / 100)) (.digits nonempty digits) .none
  have same : numberValue false (decimal (value / 100)) (twoDigits (value % 100)) 0 =
      (value : ℚ) / 100 := by
    have whole : value / 100 * 10 ^ 2 + value % 100 = value := by omega
    simp only [numberValue, decimalValue_append, decimal_value, back, length, Bool.false_eq_true,
      if_false, whole]
    norm_num
    rw [mul_one_div]
  rw [same, List.append_nil] at number
  rw [List.append_assoc]
  exact .num number

/-! ### Members with fixed names -/

def plainName (name : Bytes) : Bool := name.all fun c => 32 ≤ c && c != 34 && c != 92

/-- Whether a fixed text is a quoted name and a colon, with blanks around them. -/
def fieldLead (literal name : Bytes) : Bool :=
  let before := literal.takeWhile isBlank
  let gap := literal.drop (before.length + name.length + 3)
  literal == before ++ 34 :: (name ++ 34 :: 58 :: gap) && gap.all isBlank && plainName name

/-- The same behind a comma. -/
def nextLead (literal name : Bytes) : Bool :=
  let before := literal.takeWhile isBlank
  let after := literal.drop (before.length + 1)
  literal == before ++ 44 :: after && fieldLead after name

/-- Whether a fixed text closes an object. -/
def closes (literal : Bytes) : Bool :=
  let before := literal.takeWhile isBlank
  literal == before ++ [125]

theorem takeWhile_space (text : Bytes) : Space (text.takeWhile isBlank) :=
  fun _ member => List.mem_takeWhile_imp member

theorem plainName_text {name : Bytes} (plain : plainName name = true) : StringText name name := by
  induction name with
  | nil => exact .nil
  | cons c rest ih =>
      simp only [plainName, List.all_cons, Bool.and_eq_true, decide_eq_true_eq, bne_iff_ne] at plain
      exact .cons (.plain c ⟨plain.1.1.1, plain.1.1.2, plain.1.2⟩) (ih plain.2)

theorem denotes_field (literal : Bytes) {name text after : Bytes} {value : JValue}
    {members : List (Bytes × JValue)} (lead : fieldLead literal name = true)
    (denotes : Denotes (.value value) text) (more : Denotes (.moreFields members) after) :
    Denotes (.fields ((name, value) :: members)) (literal ++ (text ++ after)) := by
  simp only [fieldLead, Bool.and_eq_true, beq_iff_eq, List.all_eq_true] at lead
  obtain ⟨⟨same, gap⟩, plain⟩ := lead
  rw [same]
  have none : Space [] := List.forall_mem_nil _
  have field := Denotes.field (takeWhile_space literal) (plainName_text plain) none gap denotes more
  simpa using field

theorem denotes_next (literal : Bytes) {name text after : Bytes} {value : JValue}
    {members : List (Bytes × JValue)} (lead : nextLead literal name = true)
    (denotes : Denotes (.value value) text) (more : Denotes (.moreFields members) after) :
    Denotes (.moreFields ((name, value) :: members)) (literal ++ (text ++ after)) := by
  simp only [nextLead, Bool.and_eq_true, beq_iff_eq] at lead
  rw [lead.1, List.append_assoc]
  exact .nextField (takeWhile_space literal) (denotes_field _ lead.2 denotes more)

theorem denotes_end (literal : Bytes) (close : closes literal = true) :
    Denotes (.moreFields []) literal := by
  simp only [closes, beq_iff_eq] at close
  rw [close]
  exact .lastField (takeWhile_space literal)

theorem denotes_none (literal : Bytes) (close : closes literal = true) :
    Denotes (.fields []) literal := by
  simp only [closes, beq_iff_eq] at close
  rw [close]
  exact .noFields (takeWhile_space literal)

theorem denotes_bool (value : Bool) :
    Denotes (.value (.bool value)) (if value then bytes "true" else bytes "false") := by
  cases value with
  | true => exact .true
  | false => exact .false

end OClock.JsonLayout
