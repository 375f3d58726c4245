import OClock.JsonDecoder
import OClock.JsonLayout
import OClock.SystemFiles

/-!
`parseHundredths` accepts the load averages of its grammar and no other text, and none of its
operations wraps around.
-/

namespace OClock.Hundredths
open Text Decimal JsonGrammar StatusReport SystemFiles LoggedSteps
open JsonDecoder (readDigits readDigits_append)

/-- Digits, and a point with one or two digits behind it or neither. -/
inductive LoadText : Bytes → Bytes → Bytes → Prop where
  | whole {whole : Bytes} (some : whole ≠ []) (digits : AllDigits whole) :
      LoadText whole [] whole
  | point {whole fraction : Bytes} (some : whole ≠ []) (digits : AllDigits whole)
      (few : fraction.length = 1 ∨ fraction.length = 2) (behind : AllDigits fraction) :
      LoadText whole fraction (whole ++ 46 :: fraction)

/-! ### Digits -/

/-- The digits at the start of a text, read on from a value. -/
def grown (value : Nat) (text : Bytes) : Nat :=
  (text.takeWhile isDigit).foldl (fun value c => value * 10 + digitValue c) value

theorem grown_digit {c : UInt8} (digit : isDigit c = true) (value : Nat) (rest : Bytes) :
    grown value (c :: rest) = grown (value * 10 + digitValue c) rest := by
  rw [grown, List.takeWhile_cons_of_pos digit, List.foldl_cons]
  rfl

theorem grown_other {c : UInt8} (other : isDigit c = false) (value : Nat) (rest : Bytes) :
    grown value (c :: rest) = value := by
  rw [grown, List.takeWhile_cons_of_neg (by simp [other])]
  rfl

theorem grown_le (value : Nat) (text : Bytes) : value ≤ grown value text := by
  rw [grown, foldl_digits]
  exact Nat.le_trans (Nat.le_mul_of_pos_right value (Nat.pow_pos (by decide)))
    (Nat.le_add_right _ _)

theorem digitValue_small {c : UInt8} (digit : isDigit c = true) : digitValue c ≤ 9 := by
  have all : ∀ byte : BitVec 8, isDigit (.ofBitVec byte) = true →
      digitValue (.ofBitVec byte) ≤ 9 := by decide
  exact all c.toBitVec digit

theorem digitOf_toNat {c : UInt8} (digit : isDigit c = true) :
    (digitOf c).toNat = digitValue c := by
  have small := digitValue_small digit
  rw [digitOf, UInt32.toNat_ofNat']
  omega

/-- The test in front of the multiplication is the comparison of the exact result. -/
theorem room_iff {c : UInt8} (digit : isDigit c = true) {whole : UInt32} :
    (maxWhole - digitOf c) / 10 < whole ↔ 42949671 < whole.toNat * 10 + digitValue c := by
  have small := digitValue_small digit
  have value := digitOf_toNat digit
  have max : maxWhole.toNat = 42949671 := rfl
  have below : digitOf c ≤ maxWhole := by
    rw [UInt32.le_iff_toNat_le]
    omega
  have ten : (10 : UInt32).toNat = 10 := rfl
  rw [UInt32.lt_iff_toNat_lt, UInt32.toNat_div, UInt32.toNat_sub_of_le _ _ below, max, value, ten]
  omega

theorem shifted_toNat {c : UInt8} (digit : isDigit c = true) {value : UInt32}
    (small : value.toNat * 10 + digitValue c < 4294967296) :
    (value * 10 + digitOf c).toNat = value.toNat * 10 + digitValue c := by
  have ten : (10 : UInt32).toNat = 10 := rfl
  rw [UInt32.toNat_add, UInt32.toNat_mul, ten, digitOf_toNat digit]
  omega

/-! ### The loops -/

theorem readWhole_spec {whole : UInt32} (small : whole.toNat ≤ 42949671) (text : Bytes) :
    readWhole whole text =
      if grown whole.toNat text ≤ 42949671 then
        some (UInt32.ofNat (grown whole.toNat text), text.dropWhile isDigit)
      else none := by
  induction text generalizing whole with
  | nil =>
      have same : grown whole.toNat [] = whole.toNat := rfl
      rw [same, if_pos small, UInt32.ofNat_toNat]
      rfl
  | cons c rest ih =>
      rw [readWhole]
      cases digit : isDigit c with
      | false =>
          rw [grown_other digit, if_pos small, UInt32.ofNat_toNat,
            List.dropWhile_cons_of_neg (by simp [digit])]
          rfl
      | true =>
          rw [if_pos rfl, grown_digit digit, List.dropWhile_cons_of_pos digit]
          by_cases large : 42949671 < whole.toNat * 10 + digitValue c
          · have more := grown_le (whole.toNat * 10 + digitValue c) rest
            rw [if_pos ((room_iff digit).mpr large), if_neg (by omega)]
          · have fits : whole.toNat * 10 + digitValue c < 4294967296 := by omega
            have next := shifted_toNat digit fits
            rw [if_neg fun full => large ((room_iff digit).mp full), ih (by omega), next]

theorem readFraction_spec {fractionDigits : Nat} {fraction : UInt32} (few : fractionDigits ≤ 2)
    (small : fraction.toNat < 10 ^ fractionDigits) (text : Bytes) :
    readFraction fractionDigits fraction text =
      if fractionDigits + (text.takeWhile isDigit).length ≤ 2 then
        some (fractionDigits + (text.takeWhile isDigit).length,
          UInt32.ofNat (grown fraction.toNat text), text.dropWhile isDigit)
      else none := by
  induction text generalizing fractionDigits fraction with
  | nil =>
      have same : grown fraction.toNat [] = fraction.toNat := rfl
      rw [same, UInt32.ofNat_toNat, List.takeWhile_nil, List.length_nil, Nat.add_zero, if_pos few]
      rfl
  | cons c rest ih =>
      rw [readFraction]
      cases digit : isDigit c with
      | false =>
          rw [grown_other digit, UInt32.ofNat_toNat, List.dropWhile_cons_of_neg (by simp [digit]),
            List.takeWhile_cons_of_neg (by simp [digit]), List.length_nil,
            if_pos (show fractionDigits + 0 ≤ 2 from few)]
          rfl
      | true =>
          rw [if_pos rfl, grown_digit digit, List.dropWhile_cons_of_pos digit,
            List.takeWhile_cons_of_pos digit, List.length_cons]
          by_cases full : 2 < fractionDigits + 1
          · rw [if_pos full, if_neg (by omega)]
          · have value := digitValue_small digit
            have power : 10 ^ fractionDigits ≤ 10 ^ 1 := Nat.pow_le_pow_right (by decide) (by omega)
            have fits : fraction.toNat * 10 + digitValue c < 4294967296 := by omega
            have next := shifted_toNat digit fits
            have bound : (fraction * 10 + digitOf c).toNat < 10 ^ (fractionDigits + 1) := by
              rw [next, Nat.pow_succ]
              omega
            have count : fractionDigits + 1 + (rest.takeWhile isDigit).length =
                fractionDigits + ((rest.takeWhile isDigit).length + 1) := by omega
            rw [if_neg full, ih (by omega) bound, next, count]

/-! ### The fraction -/

theorem digits_taken {digits : Bytes} (all : AllDigits digits) :
    digits.takeWhile isDigit = digits ∧ digits.dropWhile isDigit = [] :=
  ⟨List.takeWhile_eq_self_iff.mpr all, List.dropWhile_eq_nil_iff.mpr all⟩

theorem decimalValue_lt {digits : Bytes} (all : AllDigits digits) :
    decimalValue digits < 10 ^ digits.length := by
  induction digits with
  | nil => exact Nat.one_pos
  | cons c rest ih =>
      have here := digitValue_small (all c List.mem_cons_self)
      have later := ih fun c member => all c (List.mem_cons_of_mem _ member)
      have whole : decimalValue (c :: rest) =
          (0 * 10 + digitValue c) * 10 ^ rest.length + decimalValue rest := foldl_digits rest _
      have most : digitValue c * 10 ^ rest.length ≤ 9 * 10 ^ rest.length :=
        Nat.mul_le_mul_right _ here
      rw [whole, List.length_cons, Nat.pow_succ, Nat.zero_mul, Nat.zero_add]
      omega

/-- The hundredths that the digits behind the point stand for. -/
def scaled (fraction : Bytes) : Nat := decimalValue fraction * 10 ^ (2 - fraction.length)

theorem scaled_lt {fraction : Bytes} (all : AllDigits fraction) (few : fraction.length ≤ 2) :
    scaled fraction < 100 := by
  have below := Nat.mul_lt_mul_of_pos_right (decimalValue_lt all)
    (Nat.pow_pos (n := 2 - fraction.length) (by decide : 0 < 10))
  have hundred : 10 ^ fraction.length * 10 ^ (2 - fraction.length) = 100 := by
    rw [← Nat.pow_add, Nat.add_sub_cancel' few]
  rw [hundred] at below
  exact below

theorem fraction_digits {fraction text : Bytes} (written : FractionText fraction text) :
    AllDigits fraction := by
  cases written with
  | none => exact List.forall_mem_nil _
  | digits _ all => exact all

theorem fractionOf_text {fraction text : Bytes} (written : FractionText fraction text)
    (few : fraction.length ≤ 2) : fractionOf text = some (UInt32.ofNat (scaled fraction)) := by
  cases written with
  | none => rfl
  | digits some all =>
      obtain ⟨taken, left⟩ := digits_taken all
      have value : grown 0 fraction = decimalValue fraction := by
        rw [grown, taken]
        rfl
      have read := readFraction_spec (by decide : 0 ≤ 2) (by decide : (0 : UInt32).toNat < 10 ^ 0)
        fraction
      have zero : (0 : UInt32).toNat = 0 := rfl
      rw [zero, value, taken, left, Nat.zero_add, if_pos few] at read
      have filled : fraction.length ≠ 0 := fun none => some (List.length_eq_zero_iff.mp none)
      rw [fractionOf, if_neg (by decide), read]
      dsimp only
      rw [if_neg filled, if_neg (by decide), scaled]
      by_cases one : fraction.length = 1
      · rw [if_pos one, one, UInt32.ofNat_mul]
        rfl
      · have two : fraction.length = 2 := by omega
        rw [if_neg one, two, Nat.sub_self, Nat.pow_zero, Nat.mul_one]

theorem fractionOf_some {text : Bytes} {value : UInt32} (read : fractionOf text = some value) :
    ∃ fraction, FractionText fraction text ∧ fraction.length ≤ 2 := by
  cases text with
  | nil => exact ⟨[], .none, Nat.zero_le _⟩
  | cons c rest =>
      by_cases point : c = 46
      · have loop := readFraction_spec (by decide : 0 ≤ 2)
          (by decide : (0 : UInt32).toNat < 10 ^ 0) rest
        rw [fractionOf, if_neg (not_not.mpr point), loop, Nat.zero_add] at read
        by_cases few : (rest.takeWhile isDigit).length ≤ 2
        · rw [if_pos few] at read
          dsimp only at read
          by_cases none : (rest.takeWhile isDigit).length = 0
          · rw [if_pos none] at read
            cases read
          · rw [if_neg none] at read
            by_cases junk : rest.dropWhile isDigit ≠ []
            · rw [if_pos junk] at read
              cases read
            · have all : AllDigits rest := List.dropWhile_eq_nil_iff.mp (not_not.mp junk)
              rw [(digits_taken all).1] at few none
              rw [point]
              exact ⟨rest, .digits (fun empty => none (List.length_eq_zero_iff.mpr empty)) all, few⟩
        · rw [if_neg few] at read
          cases read
      · rw [fractionOf, if_pos point] at read
        cases read

/-! ### The token -/

theorem loadText_cut {whole fraction token : Bytes} (text : LoadText whole fraction token) :
    ∃ written, token = whole ++ written ∧ FractionText fraction written ∧ fraction.length ≤ 2 ∧
      whole ≠ [] ∧ AllDigits whole := by
  cases text with
  | whole some digits =>
      exact ⟨[], (List.append_nil _).symm, .none, Nat.zero_le _, some, digits⟩
  | point some digits few behind =>
      have filled : fraction ≠ [] := by
        intro empty
        rw [empty] at few
        rcases few with one | two
        · cases one
        · cases two
      exact ⟨46 :: fraction, rfl, .digits filled behind, by omega, some, digits⟩

theorem loadText_of {whole fraction written : Bytes} (text : FractionText fraction written)
    (few : fraction.length ≤ 2) (some : whole ≠ []) (digits : AllDigits whole) :
    LoadText whole fraction (whole ++ written) := by
  cases text with
  | none =>
      rw [List.append_nil]
      exact .whole some digits
  | digits filled behind =>
      have length : fraction.length ≠ 0 := fun none => filled (List.length_eq_zero_iff.mp none)
      exact .point some digits (by omega) behind

/-- The number that a token of the grammar stands for, in hundredths. -/
def inHundredths (whole fraction : Bytes) : Nat := decimalValue whole * 100 + scaled fraction

theorem readHundredths_text {whole fraction token : Bytes} (text : LoadText whole fraction token) :
    readHundredths token =
      if decimalValue whole ≤ 42949671 then some (UInt32.ofNat (inHundredths whole fraction))
      else none := by
  obtain ⟨written, rfl, behind, few, some, digits⟩ := loadText_cut text
  have stops : ∀ c, written.head? = Option.some c → isDigit c = false := by
    intro c head
    cases behind with
    | none => cases head
    | digits _ _ =>
        cases head
        decide
  obtain ⟨taken, left⟩ := Prod.mk.inj (readDigits_append digits stops)
  have value : grown 0 (whole ++ written) = decimalValue whole := by
    rw [grown, taken]
    rfl
  have loop := readWhole_spec (by decide : (0 : UInt32).toNat ≤ 42949671) (whole ++ written)
  have zero : (0 : UInt32).toNat = 0 := rfl
  rw [zero, value, left] at loop
  have filled : whole ++ written ≠ [] := List.append_ne_nil_of_left_ne_nil some _
  have moved : written ≠ whole ++ written := by
    intro same
    exact some (List.self_eq_append_left.mp same)
  rw [readHundredths, if_neg filled, loop]
  by_cases fits : decimalValue whole ≤ 42949671
  · rw [if_pos fits, if_pos fits]
    dsimp only
    rw [if_neg moved, fractionOf_text behind few, Option.map_some, inHundredths, UInt32.ofNat_add,
      UInt32.ofNat_mul]
    rfl
  · rw [if_neg fits, if_neg fits]

theorem readHundredths_some {token : Bytes} {value : UInt32}
    (read : readHundredths token = some value) : ∃ whole fraction, LoadText whole fraction token := by
  have loop := readWhole_spec (by decide : (0 : UInt32).toNat ≤ 42949671) token
  rw [readHundredths, loop] at read
  by_cases empty : token = []
  · rw [if_pos empty] at read
    cases read
  · rw [if_neg empty] at read
    split at read
    · cases read
    · next whole rest found =>
      by_cases fits : grown (UInt32.toNat 0) token ≤ 42949671
      · rw [if_pos fits] at found
        cases found
        by_cases none : token.dropWhile isDigit = token
        · rw [if_pos none] at read
          cases read
        · rw [if_neg none] at read
          obtain ⟨_, inner, _⟩ := Option.map_eq_some_iff.mp read
          obtain ⟨fraction, behind, few⟩ := fractionOf_some inner
          have cut : token.takeWhile isDigit ++ token.dropWhile isDigit = token :=
            List.takeWhile_append_dropWhile
          have some : token.takeWhile isDigit ≠ [] := by
            intro nothing
            rw [nothing] at cut
            exact none cut
          have digits : AllDigits (token.takeWhile isDigit) :=
            fun c member => List.mem_takeWhile_imp member
          refine ⟨token.takeWhile isDigit, fraction, ?_⟩
          rw [← cut]
          simpa only [cut] using loadText_of behind few some digits
      · rw [if_neg fits] at found
        cases found

theorem inHundredths_fits {whole fraction token : Bytes} (text : LoadText whole fraction token)
    (fits : decimalValue whole ≤ 42949671) :
    (UInt32.ofNat (inHundredths whole fraction)).toNat = inHundredths whole fraction := by
  obtain ⟨written, _, behind, few, _, _⟩ := loadText_cut text
  have small := scaled_lt (fraction_digits behind) few
  rw [UInt32.toNat_ofNat', inHundredths]
  omega

/-! ### The operations -/

/-- The result is one of 32 bits. -/
def Fits (exact : Int) : Prop := 0 ≤ exact ∧ exact < 4294967296

theorem ofInt_signed (value : UInt32) : UInt32.ofInt (signed value) = value := by
  have small := value.toNat_lt
  have same : ((value.toNat : Int) % 2 ^ 32).toNat = value.toNat := by omega
  rw [UInt32.ofInt, signed, same, UInt32.ofNat_toNat]

theorem sub_result (left right : UInt32) :
    (uint32 (signed left - signed right)).result = some (left - right) := by
  have sum : UInt32.ofInt (signed left - signed right) + right = left := by
    have added := UInt32.ofInt_add (signed left - signed right) (signed right)
    rw [Int.sub_add_cancel, ofInt_signed, ofInt_signed] at added
    exact added.symm
  rw [uint32, did_result, ← UInt32.add_sub_cancel (UInt32.ofInt _) right, sum]

theorem shifted_result (value digit : UInt32) :
    (shiftedLogged value digit).result = some (value * 10 + digit) := by
  have ten : UInt32.ofInt 10 = 10 := rfl
  simp only [shiftedLogged, uint32, bind_result, did_result, Option.bind_some, UInt32.ofInt_add,
    UInt32.ofInt_mul, ofInt_signed, ten]

theorem readWhole_result (whole : UInt32) (text : Bytes) :
    (readWholeLogged whole text).result = some (readWhole whole text) := by
  induction text generalizing whole with
  | nil => rfl
  | cons c rest ih =>
      rw [readWholeLogged, readWhole]
      cases isDigit c with
      | false => simp only [Bool.false_eq_true, if_false, pure_result]
      | true =>
          rw [if_pos rfl, if_pos rfl, bind_result, sub_result, Option.bind_some]
          by_cases full : (maxWhole - digitOf c) / 10 < whole
          · rw [if_pos full, if_pos full, pure_result]
          · rw [if_neg full, if_neg full, bind_result, shifted_result, Option.bind_some, ih]

theorem readFraction_result (fractionDigits : Nat) (fraction : UInt32) (text : Bytes) :
    (readFractionLogged fractionDigits fraction text).result =
      some (readFraction fractionDigits fraction text) := by
  induction text generalizing fractionDigits fraction with
  | nil => rfl
  | cons c rest ih =>
      rw [readFractionLogged, readFraction]
      cases isDigit c with
      | false => simp only [Bool.false_eq_true, if_false, pure_result]
      | true =>
          simp only [if_true]
          by_cases full : 2 < fractionDigits + 1
          · simp only [if_pos full, pure_result]
          · simp only [if_neg full, bind_result, shifted_result, Option.bind_some, ih]

theorem fractionOf_result (text : Bytes) :
    (fractionOfLogged text).result = some (fractionOf text) := by
  cases text with
  | nil => rfl
  | cons c rest =>
      rw [fractionOfLogged, fractionOf]
      by_cases point : c ≠ 46
      · rw [if_pos point, if_pos point]
        rfl
      · rw [if_neg point, if_neg point, bind_result, readFraction_result, Option.bind_some]
        rcases readFraction 0 0 rest with _ | ⟨fractionDigits, fraction, junk⟩
        · rfl
        · by_cases none : fractionDigits = 0
          · simp only [if_pos none, pure_result]
          · have ten : UInt32.ofInt 10 = 10 := rfl
            by_cases one : fractionDigits = 1 <;> by_cases left : junk ≠ [] <;>
              simp [one, none, left, uint32, UInt32.ofInt_mul, ofInt_signed, ten]

theorem readHundredths_result (token : Bytes) :
    (readHundredthsLogged token).result = some (readHundredths token) := by
  rw [readHundredthsLogged, readHundredths]
  by_cases empty : token = []
  · rw [if_pos empty, if_pos empty]
    rfl
  · rw [if_neg empty, if_neg empty, bind_result, readWhole_result, Option.bind_some]
    rcases readWhole 0 token with _ | ⟨whole, rest⟩
    · rfl
    · by_cases none : rest = token
      · simp only [if_pos none, pure_result]
      · simp only [if_neg none, bind_result, fractionOf_result, Option.bind_some]
        cases fractionOf rest with
        | none => rfl
        | some fraction =>
            have hundred : UInt32.ofInt 100 = 100 := rfl
            simp only [uint32, bind_result, did_result, Option.bind_some, UInt32.ofInt_mul,
              UInt32.ofInt_add, ofInt_signed, hundred, pure_result, Option.map_some]

/-! ### None of them wraps -/

theorem ofInt_toNat {exact : Int} (fits : Fits exact) :
    ((UInt32.ofInt exact).toNat : Int) = exact := by
  obtain ⟨low, high⟩ := fits
  rw [UInt32.ofInt, UInt32.toNat_ofNat']
  omega

theorem uint32_fits {exact : Int} (fits : Fits exact) : All Fits (uint32 exact) :=
  all_did _ fits

theorem shifted_fits {c : UInt8} (digit : isDigit c = true) {value : UInt32}
    (small : value.toNat * 10 + digitValue c < 4294967296) :
    All Fits (shiftedLogged value (digitOf c)) := by
  have product : Fits (signed value * 10) := by
    unfold Fits signed
    omega
  refine all_bind (uint32_fits product) fun tens made => uint32_fits ?_
  have same : UInt32.ofInt (signed value * 10) = tens := Option.some.inj made
  have exact := ofInt_toNat product
  rw [same] at exact
  unfold Fits signed at *
  rw [digitOf_toNat digit]
  omega

theorem readWhole_fits {whole : UInt32} (small : whole.toNat ≤ 42949671) (text : Bytes) :
    All Fits (readWholeLogged whole text) := by
  induction text generalizing whole with
  | nil => exact all_pure _
  | cons c rest ih =>
      rw [readWholeLogged]
      split
      · next digit =>
        have value := digitOf_toNat digit
        have range := digitValue_small digit
        have max : maxWhole.toNat = 42949671 := rfl
        have room : Fits (signed maxWhole - signed (digitOf c)) := by
          unfold Fits signed
          omega
        refine all_bind (uint32_fits room) fun left made => ?_
        have same : left = maxWhole - digitOf c :=
          (Option.some.inj ((sub_result maxWhole (digitOf c)).symm.trans made)).symm
        rw [same]
        split
        · exact all_pure _
        · next free =>
          have fits : whole.toNat * 10 + digitValue c ≤ 42949671 :=
            Nat.not_lt.mp fun large => free ((room_iff digit).mpr large)
          refine all_bind (shifted_fits digit (by omega)) fun next shifted => ih ?_
          have grown : whole * 10 + digitOf c = next :=
            Option.some.inj ((shifted_result whole (digitOf c)).symm.trans shifted)
          rw [← grown, shifted_toNat digit (by omega)]
          exact fits
      · exact all_pure _

theorem readFraction_fits {fractionDigits : Nat} {fraction : UInt32}
    (small : fraction.toNat < 10 ^ fractionDigits) (text : Bytes) :
    All Fits (readFractionLogged fractionDigits fraction text) := by
  induction text generalizing fractionDigits fraction with
  | nil => exact all_pure _
  | cons c rest ih =>
      rw [readFractionLogged]
      split
      · next digit =>
        split
        · exact all_pure _
        · next few =>
          have range := digitValue_small digit
          have power : 10 ^ fractionDigits ≤ 10 ^ 1 := Nat.pow_le_pow_right (by decide) (by omega)
          refine all_bind (shifted_fits digit (by omega)) fun next shifted => ih ?_
          have grown : fraction * 10 + digitOf c = next :=
            Option.some.inj ((shifted_result fraction (digitOf c)).symm.trans shifted)
          rw [← grown, shifted_toNat digit (by omega), Nat.pow_succ]
          omega
      · exact all_pure _

theorem readFraction_small {text junk : Bytes} {fractionDigits : Nat} {fraction : UInt32}
    (read : readFraction 0 0 text = some (fractionDigits, fraction, junk)) :
    fraction.toNat < 100 := by
  have loop := readFraction_spec (by decide : 0 ≤ 2) (by decide : (0 : UInt32).toNat < 10 ^ 0) text
  rw [loop] at read
  split at read
  · next few =>
    cases read
    have below := decimalValue_lt fun c (member : c ∈ text.takeWhile isDigit) =>
      List.mem_takeWhile_imp member
    have power : 10 ^ (text.takeWhile isDigit).length ≤ 10 ^ 2 :=
      Nat.pow_le_pow_right (by decide) (by omega)
    have value : grown (UInt32.toNat 0) text = decimalValue (text.takeWhile isDigit) := rfl
    rw [value, UInt32.toNat_ofNat']
    omega
  · cases read

theorem fractionOf_fits (text : Bytes) : All Fits (fractionOfLogged text) := by
  cases text with
  | nil => exact all_pure _
  | cons c rest =>
      rw [fractionOfLogged]
      split
      · exact all_pure _
      · refine all_bind (readFraction_fits (by decide) rest) fun read found => ?_
        rw [readFraction_result] at found
        rcases read with _ | ⟨fractionDigits, fraction, junk⟩
        · exact all_pure _
        · have small := readFraction_small (Option.some.inj found)
          dsimp only
          split
          · exact all_pure _
          · have ends : ∀ fraction : UInt32, All Fits
                (if junk ≠ [] then pure none else pure (some fraction) :
                  LoggedSteps Int (Option UInt32)) := by
              intro fraction
              split
              · exact all_pure _
              · exact all_pure _
            have product : Fits (signed fraction * 10) := by
              unfold Fits signed
              omega
            split
            · exact all_bind (uint32_fits product) fun _ _ => ends _
            · exact all_bind (all_pure _) fun _ _ => ends _

theorem fractionOf_small {text : Bytes} {value : UInt32} (read : fractionOf text = some value) :
    value.toNat < 100 := by
  obtain ⟨fraction, written, few⟩ := fractionOf_some read
  have small := scaled_lt (fraction_digits written) few
  rw [fractionOf_text written few] at read
  rw [← Option.some.inj read, UInt32.toNat_ofNat']
  omega

theorem readWhole_small {token rest : Bytes} {whole : UInt32}
    (read : readWhole 0 token = some (whole, rest)) : whole.toNat ≤ 42949671 := by
  have loop := readWhole_spec (by decide : (0 : UInt32).toNat ≤ 42949671) token
  rw [loop] at read
  split at read
  · next fits =>
    cases read
    rw [UInt32.toNat_ofNat']
    exact Nat.le_trans (Nat.mod_le _ _) fits
  · cases read

theorem readHundredths_fits (token : Bytes) : All Fits (readHundredthsLogged token) := by
  rw [readHundredthsLogged]
  split
  · exact all_pure _
  · refine all_bind (readWhole_fits (by decide) token) fun read found => ?_
    rw [readWhole_result] at found
    rcases read with _ | ⟨whole, rest⟩
    · exact all_pure _
    · have large := readWhole_small (Option.some.inj found)
      dsimp only
      split
      · exact all_pure _
      · refine all_bind (fractionOf_fits rest) fun part parsed => ?_
        rw [fractionOf_result] at parsed
        cases part with
        | none => exact all_pure _
        | some fraction =>
            have small := fractionOf_small (Option.some.inj parsed)
            have product : Fits (signed whole * 100) := by
              unfold Fits signed
              omega
            refine all_bind (uint32_fits product) fun hundreds made => ?_
            have same : UInt32.ofInt (signed whole * 100) = hundreds := Option.some.inj made
            have exact := ofInt_toNat product
            rw [same] at exact
            refine all_bind (uint32_fits ?_) fun _ _ => all_pure _
            unfold Fits signed at *
            omega

/-! ### The whole function -/

/-- A number of hundredths as a text of the grammar. -/
theorem appendLoad_text (hundredths : UInt32) :
    LoadText (decimal (hundredths.toNat / 100)) (twoDigits (hundredths.toNat % 100))
      (appendLoad hundredths) := by
  obtain ⟨two, digits, _⟩ := twoDigits_digits (Nat.mod_lt hundredths.toNat (by decide : 0 < 100))
  have some : decimal (hundredths.toNat / 100) ≠ [] := by
    rcases decimal_lead (hundredths.toNat / 100) with zero | ⟨first, rest, same, _⟩
    · rw [zero]
      exact List.cons_ne_nil _ _
    · rw [same]
      exact List.cons_ne_nil _ _
  have text := LoadText.point some (decimal_digits _) (Or.inr two) digits
  have point : bytes "." = [46] := rfl
  rw [appendLoad, point, List.append_assoc]
  exact text

theorem parseHundredths_of {token : Bytes} {value : UInt32} (hundredths : UInt32)
    (read : readHundredths token = some value) :
    parseHundredths token hundredths = (true, value) := by
  rw [parseHundredths, read]

/-- The number is a hundred times the decimal value. -/
theorem inHundredths_value (whole fraction : Bytes) (few : fraction.length ≤ 2) :
    (inHundredths whole fraction : ℚ) = 100 * numberValue false whole fraction 0 := by
  have ten : (10 : ℚ) ≠ 0 := by norm_num
  have power : (10 : ℚ) ^ (2 - fraction.length) * 10 ^ fraction.length = 100 := by
    rw [← pow_add, Nat.sub_add_cancel few]
    norm_num
  have tail : (10 : ℚ) ^ fraction.length ≠ 0 := pow_ne_zero _ ten
  have shift : (100 : ℚ) * 10 ^ ((0 : Int) - fraction.length) = 10 ^ (2 - fraction.length) := by
    rw [zero_sub, zpow_neg, zpow_natCast, ← power, mul_assoc, mul_inv_cancel₀ tail, mul_one]
  rw [numberValue, if_neg Bool.false_ne_true, ← mul_assoc, mul_comm (100 : ℚ), mul_assoc, shift,
    decimalValue_append, inHundredths, scaled]
  push_cast
  rw [← power]
  ring

section Parse
variable {token whole fraction : Bytes} (hundredths : UInt32)

theorem readHundredths_within (text : LoadText whole fraction token)
    (fits : decimalValue whole ≤ 42949671) :
    readHundredths token = some (UInt32.ofNat (inHundredths whole fraction)) := by
  rw [readHundredths_text text, if_pos fits]

theorem parseHundredths_accepts : (parseHundredths token hundredths).1 = true ↔
    ∃ whole fraction, LoadText whole fraction token ∧ decimalValue whole ≤ 42949671 := by
  constructor
  · intro accepted
    cases read : readHundredths token with
    | none =>
        rw [parseHundredths, read] at accepted
        cases accepted
    | some value =>
        obtain ⟨whole, fraction, text⟩ := readHundredths_some read
        rw [readHundredths_text text] at read
        by_cases fits : decimalValue whole ≤ 42949671
        · exact ⟨whole, fraction, text, fits⟩
        · rw [if_neg fits] at read
          cases read
  · rintro ⟨whole, fraction, text, fits⟩
    rw [parseHundredths_of hundredths (readHundredths_within text fits)]

theorem parseHundredths_value (text : LoadText whole fraction token)
    (fits : decimalValue whole ≤ 42949671) :
    ((parseHundredths token hundredths).2.toNat : ℚ) =
      100 * numberValue false whole fraction 0 := by
  obtain ⟨_, _, _, few, _, _⟩ := loadText_cut text
  rw [parseHundredths_of hundredths (readHundredths_within text fits),
    inHundredths_fits text fits, inHundredths_value whole fraction few]

theorem parseHundredths_refuses (refused : (parseHundredths token hundredths).1 = false) :
    (parseHundredths token hundredths).2 = hundredths := by
  cases read : readHundredths token with
  | none => rw [parseHundredths, read]
  | some value =>
      rw [parseHundredths_of hundredths read] at refused
      cases refused

theorem parseHundredths_appendLoad {h : UInt32} (large : h.toNat ≤ 4294967199) :
    parseHundredths (appendLoad h) hundredths = (true, h) := by
  obtain ⟨two, _, back⟩ := twoDigits_digits (Nat.mod_lt h.toNat (by decide : 0 < 100))
  have same : inHundredths (decimal (h.toNat / 100)) (twoDigits (h.toNat % 100)) = h.toNat := by
    rw [inHundredths, scaled, decimal_value, back, two, Nat.sub_self, Nat.pow_zero, Nat.mul_one]
    omega
  have fits : decimalValue (decimal (h.toNat / 100)) ≤ 42949671 := by
    rw [decimal_value]
    omega
  have read := readHundredths_within (appendLoad_text h) fits
  rw [same, UInt32.ofNat_toNat] at read
  exact parseHundredths_of hundredths read

end Parse

/-- `parseHundredths` accepts the texts of the grammar whose whole part is at most 42949671, with
a hundred times their value, leaves the output alone on every other text, stays below 2^32 in
each operation, and reads back what `appendLoad` writes. -/
theorem parseHundredths_exact (token : Bytes) (hundredths : UInt32) :
    ((parseHundredths token hundredths).1 = true ↔
      ∃ whole fraction, LoadText whole fraction token ∧ decimalValue whole ≤ 42949671) ∧
    (∀ whole fraction, LoadText whole fraction token → decimalValue whole ≤ 42949671 →
      ((parseHundredths token hundredths).2.toNat : ℚ) =
        100 * numberValue false whole fraction 0) ∧
    ((parseHundredths token hundredths).1 = false →
      (parseHundredths token hundredths).2 = hundredths) ∧
    ((readHundredthsLogged token).result = some (readHundredths token) ∧
      All Fits (readHundredthsLogged token)) ∧
    ∀ h : UInt32, h.toNat ≤ 4294967199 →
      parseHundredths (appendLoad h) hundredths = (true, h) :=
  ⟨parseHundredths_accepts hundredths,
    fun _ _ text fits => parseHundredths_value hundredths text fits,
    parseHundredths_refuses hundredths,
    ⟨readHundredths_result token, readHundredths_fits token⟩,
    fun _ large => parseHundredths_appendLoad hundredths large⟩

end OClock.Hundredths
