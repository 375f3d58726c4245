import OClock.JsonGrammar

/-!
A decoder for JSON texts. Every text that the grammar derives is decoded to the
value it denotes, so no text denotes two values.
-/

namespace OClock.JsonDecoder
open Text JsonGrammar

def skipSpace (text : Bytes) : Bytes := text.dropWhile isBlank

/-- The bytes denoted up to the closing quote, and what follows it. -/
def readString : Bytes → Option (Bytes × Bytes)
  | [] => none
  | 34 :: rest => some ([], rest)
  | 92 :: 117 :: a :: b :: c :: d :: rest =>
      if isXDigit a && isXDigit b && isXDigit c && isXDigit d then
        (readString rest).map fun tail => (codeUnitBytes (codeUnit a b c d) ++ tail.1, tail.2)
      else none
  | 92 :: c :: rest =>
      match simpleEscape c with
      | none => none
      | some denoted => (readString rest).map fun tail => (denoted :: tail.1, tail.2)
  | c :: rest =>
      if 32 ≤ c then (readString rest).map fun tail => (c :: tail.1, tail.2) else none

def readDigits (text : Bytes) : Bytes × Bytes := (text.takeWhile isDigit, text.dropWhile isDigit)

def readFraction : Bytes → Option (Bytes × Bytes)
  | 46 :: rest => if (readDigits rest).1 = [] then none else some (readDigits rest)
  | text => some ([], text)

def readExponent : Bytes → Option (Int × Bytes)
  | [] => some (0, [])
  | mark :: rest =>
      if mark = 101 ∨ mark = 69 then
        let signed := readSign rest
        let digits := readDigits signed.2
        if digits.1 = [] then none
        else some (if signed.1 then -decimalValue digits.1 else decimalValue digits.1, digits.2)
      else some (0, mark :: rest)

def readUnsigned (negative : Bool) (text : Bytes) : Option (ℚ × Bytes) :=
  let int := readDigits text
  if int.1 = [] ∨ (int.1.head? = some 48 ∧ int.1 ≠ [48]) then none
  else do
    let fraction ← readFraction int.2
    let exponent ← readExponent fraction.2
    return (numberValue negative int.1 fraction.1 exponent.1, exponent.2)

def readNumber : Bytes → Option (ℚ × Bytes)
  | 45 :: rest => readUnsigned true rest
  | text => readUnsigned false text

def readWord (word : Bytes) (value : JValue) (text : Bytes) : Option (Phrase × Bytes) :=
  if word.isPrefixOf text then some (.value value, text.drop word.length) else none

inductive Goal where
  | value
  | fields
  | moreFields
  | items
  | moreItems

def goalOf : Phrase → Goal
  | .value _ => .value
  | .fields _ => .fields
  | .moreFields _ => .moreFields
  | .items _ => .items
  | .moreItems _ => .moreItems

/-- Reads one phrase from the start of a text, and returns what follows it. -/
def read : Nat → Goal → Bytes → Option (Phrase × Bytes)
  | 0, _, _ => none
  | fuel + 1, .value, text =>
      match text with
      | 110 :: _ => readWord (bytes "null") .null text
      | 116 :: _ => readWord (bytes "true") (.bool true) text
      | 102 :: _ => readWord (bytes "false") (.bool false) text
      | 34 :: rest => (readString rest).map fun string => (.value (.str string.1), string.2)
      | 123 :: rest =>
          match read fuel .fields rest with
          | some (.fields members, rest) => some (.value (.obj members), rest)
          | _ => none
      | 91 :: rest =>
          match read fuel .items rest with
          | some (.items items, rest) => some (.value (.arr items), rest)
          | _ => none
      | _ => (readNumber text).map fun number => (.value (.num number.1), number.2)
  | fuel + 1, .fields, text =>
      match skipSpace text with
      | 125 :: rest => some (.fields [], rest)
      | 34 :: rest =>
          match readString rest with
          | none => none
          | some (name, rest) =>
              match skipSpace rest with
              | 58 :: rest =>
                  match read fuel .value (skipSpace rest) with
                  | some (.value value, rest) =>
                      match read fuel .moreFields rest with
                      | some (.moreFields members, rest) =>
                          some (.fields ((name, value) :: members), rest)
                      | _ => none
                  | _ => none
              | _ => none
      | _ => none
  | fuel + 1, .moreFields, text =>
      match skipSpace text with
      | 125 :: rest => some (.moreFields [], rest)
      | 44 :: rest =>
          match read fuel .fields rest with
          | some (.fields (member :: members), rest) =>
              some (.moreFields (member :: members), rest)
          | _ => none
      | _ => none
  | fuel + 1, .items, text =>
      match skipSpace text with
      | 93 :: rest => some (.items [], rest)
      | text =>
          match read fuel .value text with
          | some (.value value, rest) =>
              match read fuel .moreItems rest with
              | some (.moreItems items, rest) => some (.items (value :: items), rest)
              | _ => none
          | _ => none
  | fuel + 1, .moreItems, text =>
      match skipSpace text with
      | 93 :: rest => some (.moreItems [], rest)
      | 44 :: rest =>
          match read fuel .items rest with
          | some (.items (value :: items), rest) => some (.moreItems (value :: items), rest)
          | _ => none
      | _ => none

def decode (text : Bytes) : Option JValue :=
  match read (text.length + 1) .value (skipSpace text) with
  | some (.value value, rest) => if skipSpace rest = [] then some value else none
  | _ => none

/-! ### Blanks, strings and numbers -/

theorem skipSpace_append {space rest : Bytes} (blank : Space space)
    (stop : ∀ c, rest.head? = some c → isBlank c = false) :
    skipSpace (space ++ rest) = rest := by
  rw [skipSpace, List.dropWhile_append_of_pos blank]
  cases rest with
  | nil => rfl
  | cons c tail => exact List.dropWhile_cons_of_neg (by simp [stop c rfl])

theorem readDigits_append {digits rest : Bytes} (all : AllDigits digits)
    (stop : ∀ c, rest.head? = some c → isDigit c = false) :
    readDigits (digits ++ rest) = (digits, rest) := by
  have none : rest.takeWhile isDigit = [] ∧ rest.dropWhile isDigit = rest := by
    cases rest with
    | nil => exact ⟨rfl, rfl⟩
    | cons c tail =>
        have other := stop c rfl
        exact ⟨List.takeWhile_cons_of_neg (by simp [other]),
          List.dropWhile_cons_of_neg (by simp [other])⟩
  rw [readDigits, List.takeWhile_append_of_pos all, List.dropWhile_append_of_pos all, none.1,
    none.2, List.append_nil]

theorem readString_char {value text : Bytes} (char : CharText value text) (rest : Bytes) :
    readString (text ++ rest) =
      (readString rest).map fun tail => (value ++ tail.1, tail.2) := by
  cases char with
  | plain c printable =>
      obtain ⟨low, _, backslash⟩ := printable
      simp [readString, low, backslash]
  | simple c denoted known =>
      have notUnicode : c ≠ 117 := by
        rintro rfl
        simp [simpleEscape] at known
      simp [readString, known, notUnicode]
  | unicode a b c d digits => simp [readString, digits]

theorem readString_append {value text : Bytes} (string : StringText value text) (rest : Bytes) :
    readString (text ++ 34 :: rest) = some (value, rest) := by
  induction string with
  | nil => rfl
  | cons char _ ih =>
      rw [List.append_assoc, readString_char char, ih]
      rfl

/-- A text that no number goes on into. -/
def Boundary (rest : Bytes) : Prop :=
  ∀ c, rest.head? = some c → isDigit c = false ∧ c ≠ 46 ∧ c ≠ 101 ∧ c ≠ 69

theorem readFraction_append {digits text rest : Bytes} (fraction : FractionText digits text)
    (stop : ∀ c, rest.head? = some c → isDigit c = false ∧ c ≠ 46) :
    readFraction (text ++ rest) = some (digits, rest) := by
  cases fraction with
  | none =>
      cases rest with
      | nil => rfl
      | cons c tail => simp [readFraction, (stop c rfl).2]
  | digits some all =>
      have read := readDigits_append all fun c head => (stop c head).1
      simp [readFraction, read, some]

theorem digit_not_sign {c : UInt8} (digit : isDigit c = true) : c ≠ 45 ∧ c ≠ 43 := by
  constructor <;>
    · rintro rfl
      revert digit
      decide

theorem readSign_append {negative : Bool} {sign rest : Bytes} (signed : SignText negative sign)
    (stop : ∀ c, rest.head? = some c → c ≠ 45 ∧ c ≠ 43) :
    readSign (sign ++ rest) = (negative, rest) := by
  cases signed with
  | none =>
      cases rest with
      | nil => rfl
      | cons c tail => simp [readSign, stop c rfl]
  | plus => rfl
  | minus => rfl

theorem readExponent_append {exponent : Int} {text rest : Bytes}
    (exponentText : ExponentText exponent text) (stop : Boundary rest) :
    readExponent (text ++ rest) = some (exponent, rest) := by
  cases exponentText with
  | none =>
      cases rest with
      | nil => rfl
      | cons c tail => simp [readExponent, stop c rfl]
  | @digits mark negative sign digits e signed some all =>
      have read := readDigits_append all fun c head => (stop c head).1
      have sign : readSign (sign ++ (digits ++ rest)) = (negative, digits ++ rest) := by
        apply readSign_append signed
        intro c head
        cases digits with
        | nil => exact absurd rfl some
        | cons first others =>
            cases head
            exact digit_not_sign (all _ List.mem_cons_self)
      simp [readExponent, e, sign, read, some]

theorem intText_digits {int : Bytes} (text : IntText int) :
    AllDigits int ∧ ¬ (int = [] ∨ (int.head? = some 48 ∧ int ≠ [48])) := by
  cases text with
  | zero =>
      refine ⟨fun c inside => ?_, by decide⟩
      cases List.mem_singleton.mp inside
      rfl
  | digits lead others =>
      refine ⟨?_, by simp [lead.2]⟩
      intro c member
      rcases List.mem_cons.mp member with rfl | later
      · exact lead.1
      · exact others c later

/-- What may follow the digits before a fraction or an exponent. -/
theorem fraction_stops {digits text exponentText rest : Bytes} {exponent : Int}
    (fraction : FractionText digits text) (exp : ExponentText exponent exponentText)
    (stop : Boundary rest) :
    (∀ c, (exponentText ++ rest).head? = some c → isDigit c = false ∧ c ≠ 46) ∧
      ∀ c, (text ++ (exponentText ++ rest)).head? = some c → isDigit c = false := by
  have after : ∀ c, (exponentText ++ rest).head? = some c → isDigit c = false ∧ c ≠ 46 := by
    intro c head
    cases exp with
    | none => exact ⟨(stop c head).1, (stop c head).2.1⟩
    | digits e _ _ _ =>
        cases head
        rcases e with rfl | rfl <;> decide
  refine ⟨after, ?_⟩
  intro c head
  cases fraction with
  | none => exact (after c head).1
  | digits _ _ =>
      cases head
      decide

theorem readUnsigned_append (negative : Bool) {int digits fractionText exponentText rest : Bytes}
    {exponent : Int} (text : IntText int) (fraction : FractionText digits fractionText)
    (exp : ExponentText exponent exponentText) (stop : Boundary rest) :
    readUnsigned negative (int ++ (fractionText ++ exponentText) ++ rest) =
      some (numberValue negative int digits exponent, rest) := by
  obtain ⟨all, valid⟩ := intText_digits text
  obtain ⟨afterFraction, afterInt⟩ := fraction_stops fraction exp stop
  have readInt := readDigits_append all afterInt
  simp only [List.append_assoc, readUnsigned, readInt, if_neg valid,
    readFraction_append fraction afterFraction, readExponent_append exp stop, Option.bind_eq_bind,
    Option.bind_some]
  rfl

theorem readNumber_append {value : ℚ} {text rest : Bytes} (number : NumberText value text)
    (stop : Boundary rest) : readNumber (text ++ rest) = some (value, rest) := by
  cases number with
  | positive int fraction exp =>
      rw [← readUnsigned_append false int fraction exp stop]
      cases int with
      | zero => rfl
      | digits lead _ =>
          have unsigned := (digit_not_sign lead.1).1
          simp [readNumber, unsigned]
  | negative int fraction exp =>
      rw [← readUnsigned_append true int fraction exp stop]
      rfl

/-! ### Phrases -/

theorem value_head {value : JValue} {text : Bytes} (denotes : Denotes (.value value) text) :
    ∃ c tail, text = c :: tail ∧ isBlank c = false ∧ c ≠ 93 := by
  cases denotes with
  | null => exact ⟨_, _, rfl, by decide, by decide⟩
  | true => exact ⟨_, _, rfl, by decide, by decide⟩
  | false => exact ⟨_, _, rfl, by decide, by decide⟩
  | str _ => exact ⟨_, _, rfl, by decide, by decide⟩
  | obj _ => exact ⟨_, _, rfl, by decide, by decide⟩
  | arr _ => exact ⟨_, _, rfl, by decide, by decide⟩
  | num number =>
      cases number with
      | negative _ _ _ => exact ⟨_, _, rfl, by decide, by decide⟩
      | positive int _ _ =>
          cases int with
          | zero => exact ⟨_, _, rfl, by decide, by decide⟩
          | @digits first _ lead _ =>
              refine ⟨_, _, rfl, ?_, ?_⟩
              · have digit := lead.1
                revert digit
                simp only [isDigit, isBlank, Bool.and_eq_true, decide_eq_true_eq,
                  Bool.or_eq_false_iff, beq_eq_false_iff_ne, ne_eq]
                rintro ⟨low, _⟩
                refine ⟨⟨⟨?_, ?_⟩, ?_⟩, ?_⟩ <;>
                  · rintro rfl
                    revert low
                    decide
              · rintro rfl
                have digit := lead.1
                revert digit
                decide

theorem value_length {value : JValue} {text : Bytes} (denotes : Denotes (.value value) text) :
    0 < text.length := by
  obtain ⟨c, tail, rfl, _⟩ := value_head denotes
  exact Nat.succ_pos _

theorem moreItems_length {items : List JValue} {text : Bytes}
    (denotes : Denotes (.moreItems items) text) : 0 < text.length := by
  cases denotes <;> simp

theorem space_boundary {space rest : Bytes} (blank : Space space) {c : UInt8}
    (close : c = 44 ∨ c = 125 ∨ c = 93) : Boundary (space ++ c :: rest) := by
  intro first head
  cases space with
  | nil =>
      cases head
      rcases close with rfl | rfl | rfl <;> decide
  | cons blankHead tail =>
      cases head
      have here := blank first List.mem_cons_self
      simp only [isBlank, Bool.or_eq_true, beq_iff_eq] at here
      rcases here with ((rfl | rfl) | rfl) | rfl <;> decide

theorem moreFields_boundary {members : List (Bytes × JValue)} {text : Bytes}
    (denotes : Denotes (.moreFields members) text) (rest : Bytes) : Boundary (text ++ rest) := by
  cases denotes with
  | lastField blank =>
      rw [List.append_assoc]
      exact space_boundary blank (Or.inr (Or.inl rfl))
  | nextField blank _ =>
      rw [List.append_assoc]
      exact space_boundary blank (Or.inl rfl)

theorem moreItems_boundary {items : List JValue} {text : Bytes}
    (denotes : Denotes (.moreItems items) text) (rest : Bytes) : Boundary (text ++ rest) := by
  cases denotes with
  | lastItem blank =>
      rw [List.append_assoc]
      exact space_boundary blank (Or.inr (Or.inr rfl))
  | nextItem blank _ =>
      rw [List.append_assoc]
      exact space_boundary blank (Or.inl rfl)

/-- Blanks before a character that is not one. -/
theorem skipSpace_cons {space rest : Bytes} (blank : Space space) {c : UInt8}
    (other : isBlank c = false) : skipSpace (space ++ c :: rest) = c :: rest := by
  apply skipSpace_append blank
  rintro first ⟨⟩
  exact other

theorem skipSpace_value {space text rest : Bytes} (blank : Space space) {value : JValue}
    (denotes : Denotes (.value value) text) :
    skipSpace (space ++ (text ++ rest)) = text ++ rest := by
  obtain ⟨c, tail, rfl, other, _⟩ := value_head denotes
  exact skipSpace_cons blank other

theorem number_starts {value : ℚ} {text : Bytes} (number : NumberText value text) :
    ∃ c tail, text = c :: tail ∧ (c = 45 ∨ isDigit c = true) := by
  cases number with
  | negative _ _ _ => exact ⟨_, _, rfl, Or.inl rfl⟩
  | positive int _ _ =>
      cases int with
      | zero => exact ⟨_, _, rfl, Or.inr (by decide)⟩
      | digits lead _ => exact ⟨_, _, rfl, Or.inr lead.1⟩

theorem read_number {value : ℚ} {text : Bytes} (number : NumberText value text) (fuel : Nat)
    {rest : Bytes} (stop : Boundary rest) :
    read (fuel + 1) .value (text ++ rest) = some (.value (.num value), rest) := by
  have parsed := readNumber_append number stop
  obtain ⟨c, tail, rfl, starts⟩ := number_starts number
  have other : c ≠ 110 ∧ c ≠ 116 ∧ c ≠ 102 ∧ c ≠ 34 ∧ c ≠ 123 ∧ c ≠ 91 := by
    refine ⟨?_, ?_, ?_, ?_, ?_, ?_⟩ <;>
      · rintro rfl
        revert starts
        decide
  simp only [List.cons_append] at parsed
  simp [read, other, parsed]

theorem read_field {name nameText before between gap text after rest : Bytes} {value : JValue}
    {members : List (Bytes × JValue)} (blank : Space before) (string : StringText name nameText)
    (blankBetween : Space between) (blankGap : Space gap) (denotes : Denotes (.value value) text)
    (fuel : Nat)
    (here : read fuel .value (text ++ (after ++ rest)) = some (.value value, after ++ rest))
    (more : read fuel .moreFields (after ++ rest) = some (.moreFields members, rest)) :
    read (fuel + 1) .fields
        (before ++ 34 :: (nameText ++ 34 :: (between ++ 58 :: (gap ++ (text ++ after)))) ++ rest) =
      some (.fields ((name, value) :: members), rest) := by
  have quote : isBlank 34 = false := by decide
  have colon : isBlank 58 = false := by decide
  simp only [read, List.append_assoc, List.cons_append, skipSpace_cons blank quote,
    readString_append string, skipSpace_cons blankBetween colon, skipSpace_value blankGap denotes,
    here, more]

theorem read_item {before text after rest : Bytes} {value : JValue} {items : List JValue}
    (blank : Space before) (denotes : Denotes (.value value) text) (fuel : Nat)
    (here : read fuel .value (text ++ (after ++ rest)) = some (.value value, after ++ rest))
    (more : read fuel .moreItems (after ++ rest) = some (.moreItems items, rest)) :
    read (fuel + 1) .items (before ++ (text ++ after) ++ rest) =
      some (.items (value :: items), rest) := by
  have skipped := @skipSpace_value before text (after ++ rest) blank value denotes
  obtain ⟨c, tail, rfl, _, open_⟩ := value_head denotes
  simp only [List.append_assoc, List.cons_append] at skipped here ⊢
  simp [read, skipped, open_, here, more]

/-- What the grammar derives, the decoder reads, given fuel for its length. -/
theorem read_denoted {phrase : Phrase} {text : Bytes} (denotes : Denotes phrase text) (fuel : Nat)
    (rest : Bytes) (enough : text.length < fuel)
    (stop : ∀ value, phrase = .value value → Boundary rest) :
    read fuel (goalOf phrase) (text ++ rest) = some (phrase, rest) := by
  have comma : isBlank 44 = false := by decide
  have brace : isBlank 125 = false := by decide
  have bracket : isBlank 93 = false := by decide
  -- A step of the derivation takes one unit of fuel, and its parts are shorter than the whole.
  induction denotes generalizing fuel rest with
  | null | true | false =>
      obtain ⟨fuel, rfl⟩ := Nat.exists_eq_succ_of_ne_zero (Nat.ne_zero_of_lt enough)
      rfl
  | num number =>
      obtain ⟨fuel, rfl⟩ := Nat.exists_eq_succ_of_ne_zero (Nat.ne_zero_of_lt enough)
      exact read_number number fuel (stop _ rfl)
  | str string =>
      obtain ⟨fuel, rfl⟩ := Nat.exists_eq_succ_of_ne_zero (Nat.ne_zero_of_lt enough)
      simp [read, goalOf, readString_append string]
  | obj _ ih | arr _ ih =>
      obtain ⟨fuel, rfl⟩ := Nat.exists_eq_succ_of_ne_zero (Nat.ne_zero_of_lt enough)
      have inner := ih fuel rest (Nat.lt_of_succ_lt_succ enough) nofun
      simp only [goalOf] at inner
      simp [read, goalOf, inner]
  | noFields blank | lastField blank =>
      obtain ⟨fuel, rfl⟩ := Nat.exists_eq_succ_of_ne_zero (Nat.ne_zero_of_lt enough)
      simp [read, goalOf, skipSpace_cons blank brace]
  | noItems blank | lastItem blank =>
      obtain ⟨fuel, rfl⟩ := Nat.exists_eq_succ_of_ne_zero (Nat.ne_zero_of_lt enough)
      simp [read, goalOf, skipSpace_cons blank bracket]
  | field before name between gap value more valueIh moreIh =>
      obtain ⟨fuel, rfl⟩ := Nat.exists_eq_succ_of_ne_zero (Nat.ne_zero_of_lt enough)
      simp only [List.length_append, List.length_cons] at enough
      have here := valueIh fuel (_ ++ rest) (by omega) fun _ _ => moreFields_boundary more rest
      exact read_field before name between gap value fuel here (moreIh fuel rest (by omega) nofun)
  | item before value more valueIh moreIh =>
      obtain ⟨fuel, rfl⟩ := Nat.exists_eq_succ_of_ne_zero (Nat.ne_zero_of_lt enough)
      simp only [List.length_append] at enough
      have nonempty := moreItems_length more
      have here := valueIh fuel (_ ++ rest) (by omega) fun _ _ => moreItems_boundary more rest
      have valueLength : 0 < _ := value_length value
      exact read_item before value fuel here (moreIh fuel rest (by omega) nofun)
  | nextField blank _ ih | nextItem blank _ ih =>
      obtain ⟨fuel, rfl⟩ := Nat.exists_eq_succ_of_ne_zero (Nat.ne_zero_of_lt enough)
      simp only [List.length_append, List.length_cons] at enough
      have inner := ih fuel rest (by omega) nofun
      simp only [goalOf] at inner
      simp [read, goalOf, skipSpace_cons blank comma, inner]

theorem boundary_end : Boundary [] := nofun

theorem boundary_space {after : Bytes} (blank : Space after) : Boundary after := by
  cases after with
  | nil => exact boundary_end
  | cons c tail =>
      rintro first ⟨⟩
      have here := blank c List.mem_cons_self
      simp only [isBlank, Bool.or_eq_true, beq_iff_eq] at here
      rcases here with ((rfl | rfl) | rfl) | rfl <;> decide

/-- A text is decoded to the value it denotes. -/
theorem decode_denoted {value : JValue} {text : Bytes} (denotes : DenotesText value text) :
    decode text = some value := by
  cases denotes with
  | @text before inner after blank denotes trailing =>
      have enough : inner.length < (before ++ (inner ++ after)).length + 1 := by
        simp only [List.length_append]
        omega
      have parsed := read_denoted denotes _ after enough fun _ _ => boundary_space trailing
      have ended : skipSpace after = [] := by
        have skipped := @skipSpace_append after [] trailing nofun
        rwa [List.append_nil] at skipped
      simp only [goalOf] at parsed
      simp only [decode, skipSpace_value blank denotes, parsed, ended, if_true]

theorem denotes_unique {value other : JValue} {text : Bytes} (left : DenotesText value text)
    (right : DenotesText other text) : value = other :=
  Option.some.inj ((decode_denoted left).symm.trans (decode_denoted right))

end OClock.JsonDecoder
