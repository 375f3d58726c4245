import Mathlib.Data.List.TakeWhile
import Mathlib.Tactic.Ring
import OClock.CommonUtils

/-!
Numbers printed in base ten. What is printed reads back as the number, and has no
leading zero.
-/

namespace OClock.Decimal
open Text CommonUtils

theorem decimal_eq (value : Nat) :
    decimal value = (Nat.toDigits 10 value).map fun c => UInt8.ofNat c.toNat := by
  rw [decimal, bytes, Nat.toString_eq_ofList_toDigits, String.toList_ofList]

theorem digitChar_byte : ∀ digit : Fin 10,
    isDigit (UInt8.ofNat (Nat.digitChar digit).toNat) = true ∧
      digitValue (UInt8.ofNat (Nat.digitChar digit).toNat) = digit ∧
      (UInt8.ofNat (Nat.digitChar digit).toNat = 48 → digit.val = 0) := by
  decide

/-- The last digit and the ones before it. -/
theorem decimal_step (value : Nat) :
    decimal value = if value < 10 then [UInt8.ofNat (Nat.digitChar value).toNat]
      else decimal (value / 10) ++ [UInt8.ofNat (Nat.digitChar (value % 10)).toNat] := by
  by_cases small : value < 10
  · rw [if_pos small, decimal_eq, Nat.toDigits_of_lt_base small]
    rfl
  · rw [if_neg small, decimal_eq, decimal_eq,
      Nat.toDigits_of_base_le (by decide) (Nat.le_of_not_lt small), List.map_append]
    rfl

theorem foldl_digits (digits : Bytes) (start : Nat) :
    digits.foldl (fun value c => value * 10 + digitValue c) start =
      start * 10 ^ digits.length + decimalValue digits := by
  induction digits generalizing start with
  | nil => simp [decimalValue]
  | cons c rest ih =>
      have here : decimalValue (c :: rest) = (0 * 10 + digitValue c) * 10 ^ rest.length +
          decimalValue rest := ih _
      rw [List.foldl_cons, ih, here, List.length_cons, pow_succ]
      ring

theorem decimalValue_append (left right : Bytes) :
    decimalValue (left ++ right) =
      decimalValue left * 10 ^ right.length + decimalValue right := by
  rw [decimalValue, List.foldl_append, foldl_digits]
  rfl

theorem decimal_digits (value : Nat) : ∀ c ∈ decimal value, isDigit c = true := by
  induction value using Nat.strongRecOn with
  | ind value ih =>
      rw [decimal_step]
      split
      · rename_i small
        simpa using (digitChar_byte ⟨value, small⟩).1
      · have last := (digitChar_byte ⟨value % 10, Nat.mod_lt _ (by decide)⟩).1
        have before := ih (value / 10) (Nat.div_lt_self (by omega) (by decide))
        intro c member
        rcases List.mem_append.mp member with early | late
        · exact before c early
        · rw [List.mem_singleton.mp late]
          exact last

theorem decimal_value (value : Nat) : decimalValue (decimal value) = value := by
  induction value using Nat.strongRecOn with
  | ind value ih =>
      rw [decimal_step]
      split
      · rename_i small
        simpa [decimalValue] using (digitChar_byte ⟨value, small⟩).2.1
      · have last := (digitChar_byte ⟨value % 10, Nat.mod_lt _ (by decide)⟩).2.1
        rw [decimalValue_append, ih (value / 10) (Nat.div_lt_self (by omega) (by decide))]
        have single : decimalValue [UInt8.ofNat (Nat.digitChar (value % 10)).toNat] =
            value % 10 := by simpa [decimalValue] using last
        rw [single, List.length_singleton, pow_one]
        omega

/-- A number is printed as a single zero, or starts with another digit. -/
theorem decimal_lead (value : Nat) :
    decimal value = [48] ∨ ∃ first rest, decimal value = first :: rest ∧ first ≠ 48 := by
  induction value using Nat.strongRecOn with
  | ind value ih =>
      by_cases small : value < 10
      · have lead := (digitChar_byte ⟨value, small⟩).2.2
        by_cases zero : value = 0
        · subst zero
          exact Or.inl rfl
        · rw [decimal_step, if_pos small]
          exact Or.inr ⟨_, [], rfl, fun same => zero (lead same)⟩
      · have shorter : value / 10 < value := Nat.div_lt_self (by omega) (by decide)
        rw [decimal_step, if_neg small]
        rcases ih (value / 10) shorter with single | ⟨first, rest, same, other⟩
        · have back := decimal_value (value / 10)
          rw [single] at back
          have none : decimalValue [48] = 0 := by decide
          omega
        · exact Or.inr ⟨first, rest ++ [UInt8.ofNat (Nat.digitChar (value % 10)).toNat],
            by rw [same]; rfl, other⟩

theorem twoDigits_digits {value : Nat} (small : value < 100) :
    (twoDigits value).length = 2 ∧ (∀ c ∈ twoDigits value, isDigit c = true) ∧
      decimalValue (twoDigits value) = value := by
  have all : ∀ value : Fin 100, (twoDigits value).length = 2 ∧
      (twoDigits value).all isDigit = true ∧ decimalValue (twoDigits value) = value := by
    decide
  obtain ⟨two, digits, same⟩ := all ⟨value, small⟩
  exact ⟨two, List.all_eq_true.mp digits, same⟩

/-! ### Read by `strtoul` -/

theorem digit_byte {c : UInt8} (digit : isDigit c = true) :
    isSpace c = false ∧ c ≠ 45 ∧ c ≠ 43 ∧ c ≠ 0 := by
  have all : ∀ byte : BitVec 8, isDigit (.ofBitVec byte) = true →
      isSpace (.ofBitVec byte) = false ∧ UInt8.ofBitVec byte ≠ 45 ∧ UInt8.ofBitVec byte ≠ 43 ∧
        UInt8.ofBitVec byte ≠ 0 := by decide
  exact all c.toBitVec digit

theorem cText_decimal (value : Nat) : cText (decimal value) = decimal value :=
  List.takeWhile_eq_self_iff.mpr fun c inside =>
    decide_eq_true (digit_byte (decimal_digits value c inside)).2.2.2

theorem strtoul_decimal {value : Nat} (fits : value ≤ unsignedLongMax) :
    strtoul (decimal value) = value := by
  have digits := decimal_digits value
  have whole : (decimal value).takeWhile isDigit = decimal value :=
    List.takeWhile_eq_self_iff.mpr digits
  have blanks : (decimal value).dropWhile isSpace = decimal value := by
    cases text : decimal value with
    | nil => rfl
    | cons c rest =>
        rw [text] at digits
        have solid := (digit_byte (digits c List.mem_cons_self)).1
        rw [List.dropWhile_cons, solid]
        rfl
  have unsigned : readSign (decimal value) = (false, decimal value) := by
    cases text : decimal value with
    | nil => rfl
    | cons c rest =>
        rw [text] at digits
        obtain ⟨_, minus, plus, _⟩ := digit_byte (digits c List.mem_cons_self)
        unfold readSign
        split
        · next same => exact absurd (List.cons.inj same).1 minus
        · next same => exact absurd (List.cons.inj same).1 plus
        · rfl
  unfold strtoul
  rw [blanks, unsigned]
  dsimp only
  rw [whole, decimal_value, if_neg (Nat.not_lt.mpr fits)]
  rfl

end OClock.Decimal
