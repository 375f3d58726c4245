import OClock.PostDecoding

/-!
Which bodies `parsePost` accepts. Whatever the bytes of the body, no access of the loop is
out of bounds and every string it reads has a terminator; only an escape can make it fail.
-/

namespace OClock.PostAcceptance
open Text Buffer PostParser PostDecoding

/-- A `%` that is not one of the two bytes behind the `%` of an earlier escape. -/
def startsEscape (body : Bytes) : Nat → Bool
  | 0 => body[0]? == some 37
  | 1 => body[1]? == some 37 && !startsEscape body 0
  | i + 2 => body[i + 2]? == some 37 && !startsEscape body (i + 1) && !startsEscape body i

/-- From place `i` on, an escape that has two bytes behind it has two digits. -/
def LegalFrom (body : Bytes) (i : Nat) : Prop :=
  ∀ j high low, i ≤ j → startsEscape body j = true → body[j + 1]? = some high →
    body[j + 2]? = some low → isXDigit high = true ∧ isXDigit low = true

/-- No escape reaches over place `i`. -/
def Clear (body : Bytes) (i : Nat) : Prop :=
  ∀ j, startsEscape body j = true → j + 1 ≠ i ∧ j + 2 ≠ i

theorem starts_percent {body : Bytes} {i : Nat} (starts : startsEscape body i = true) :
    body[i]? = some 37 := by
  match i, starts with
  | 0, starts => exact beq_iff_eq.mp starts
  | 1, starts =>
      rw [startsEscape, Bool.and_eq_true] at starts
      exact beq_iff_eq.mp starts.1
  | i + 2, starts =>
      rw [startsEscape, Bool.and_eq_true, Bool.and_eq_true] at starts
      exact beq_iff_eq.mp starts.1.1

/-- The two places behind an escape start none. -/
theorem starts_clear {body : Bytes} {i : Nat} (starts : startsEscape body i = true) :
    startsEscape body (i + 1) = false ∧ startsEscape body (i + 2) = false := by
  constructor
  · cases i with
    | zero => rw [startsEscape, starts, Bool.not_true, Bool.and_false]
    | succ i => rw [startsEscape, starts, Bool.not_true, Bool.and_false, Bool.false_and]
  · simp [startsEscape, starts]

theorem clear_starts {body : Bytes} {i : Nat} (clear : Clear body i) :
    startsEscape body i = true ↔ body[i]? = some 37 := by
  refine ⟨starts_percent, fun percent => ?_⟩
  have free : ∀ j, j + 1 = i ∨ j + 2 = i → startsEscape body j = false := by
    intro j near
    by_contra starts
    obtain ⟨first, second⟩ := clear j (Bool.not_eq_false _ ▸ starts)
    exact near.elim first second
  match i, percent, free with
  | 0, percent, _ => exact beq_iff_eq.mpr percent
  | 1, percent, free =>
      rw [startsEscape, free 0 (.inl rfl), percent]
      rfl
  | i + 2, percent, free =>
      rw [startsEscape, free (i + 1) (.inl rfl), free i (.inr rfl), percent]
      rfl

theorem clear_zero (body : Bytes) : Clear body 0 := fun _ _ => ⟨by omega, by omega⟩

theorem clear_next {body : Bytes} {i : Nat} (clear : Clear body i) (plain : body[i]? ≠ some 37) :
    Clear body (i + 1) := by
  intro j starts
  obtain ⟨first, _⟩ := clear j starts
  refine ⟨?_, by omega⟩
  rintro same
  cases Nat.succ.inj same
  exact plain (starts_percent starts)

theorem clear_behind {body : Bytes} {i : Nat} (starts : startsEscape body i = true) :
    Clear body (i + 3) := by
  obtain ⟨first, second⟩ := starts_clear starts
  intro j later
  constructor
  · intro same
    cases Nat.succ.inj same
    rw [second] at later
    cases later
  · intro same
    have place : j = i + 1 := by omega
    rw [place, first] at later
    cases later

/-! ### One turn and what is legal from there -/

theorem legal_plain {body : Bytes} {i : Nat} (plain : body[i]? ≠ some 37) :
    LegalFrom body i ↔ LegalFrom body (i + 1) := by
  constructor
  · exact fun legal j high low after => legal j high low (Nat.le_of_succ_le after)
  · intro legal j high low after starts
    refine legal j high low (Nat.lt_of_le_of_ne after ?_) starts
    rintro rfl
    exact plain (starts_percent starts)

theorem legal_escape {body : Bytes} {i : Nat} {high low : UInt8}
    (starts : startsEscape body i = true) (first : body[i + 1]? = some high)
    (second : body[i + 2]? = some low) :
    LegalFrom body i ↔
      (isXDigit high = true ∧ isXDigit low = true) ∧ LegalFrom body (i + 3) := by
  constructor
  · intro legal
    exact ⟨legal i high low (Nat.le_refl _) starts first second,
      fun j high low after => legal j high low (by omega)⟩
  · rintro ⟨digits, legal⟩ j high' low' after again first' second'
    obtain ⟨next, behind⟩ := starts_clear starts
    by_cases same : j = i
    · rw [same, first] at first'
      rw [same, second] at second'
      cases first'
      cases second'
      exact digits
    · have far : i + 3 ≤ j := by
        by_contra near
        have places : j = i + 1 ∨ j = i + 2 := by omega
        rcases places with rfl | rfl
        · rw [next] at again
          cases again
        · rw [behind] at again
          cases again
      exact legal j high' low' far again first' second'

/-- Too close to the end there is nothing to check. -/
theorem legal_end {body : Bytes} {i : Nat} (near : body.length ≤ i + 2) : LegalFrom body i := by
  intro j high low after _ _ second
  have inside := (List.getElem?_eq_some_iff.mp second).1
  omega

/-! ### What the loop can rely on -/

/-- What every turn finds, whatever was read before. -/
structure Sound (data : Bytes) (i : Nat) (state : ParseState) : Prop where
  filled : ∃ written, Filled data i state written
  value : ∀ start, state.currValue = some start → start ≤ state.tmpBufferOffset

theorem startValue_sound {data : Bytes} {i : Nat} {state : ParseState} (sound : Sound data i state)
    (inside : i < data.length) :
    ∃ after, startValue state = some after ∧ Sound data (i + 1) after := by
  obtain ⟨key, filled⟩ := sound.filled
  obtain ⟨buffer, started, opened⟩ := startValue_filled filled inside
  refine ⟨_, started, ⟨_, opened⟩, fun start same => ?_⟩
  cases same
  exact Nat.le_of_eq (congrArg (· + 1) filled.offset.symm)

theorem startPair_sound {data : Bytes} {i : Nat} {state : ParseState} (sound : Sound data i state)
    (j : Nat) : ∃ after, startPair state = some after ∧ Sound data j after := by
  obtain ⟨_, filled⟩ := sound.filled
  obtain ⟨buffer, started, opened⟩ := startPair_filled state j filled.size
  exact ⟨_, started, ⟨_, opened⟩, fun _ none => by cases none⟩

theorem append_sound {data : Bytes} {i j : Nat} {state : ParseState} (sound : Sound data i state)
    (inside : i < data.length) (onwards : i < j) (ch : UInt8) :
    ∃ after, append state ch = some after ∧ Sound data j after := by
  obtain ⟨_, filled⟩ := sound.filled
  obtain ⟨buffer, appended, more⟩ := append_filled filled inside ch onwards
  exact ⟨_, appended, ⟨_, more⟩, fun start same => Nat.le_succ_of_le (sound.value start same)⟩

/-- The key and the value end where the buffer is filled up to. -/
theorem storePair_sound {data : Bytes} {i : Nat} {state : ParseState} (sound : Sound data i state)
    (inside : i ≤ data.length) :
    ∃ after, storePair state = some after ∧ Sound data i after := by
  obtain ⟨written, filled⟩ := sound.filled
  obtain ⟨buffer, poked, size, holds⟩ := filled_poke filled inside 0
  by_cases getting : state.gettingValuePortion = true
  · have terminated : buffer[state.tmpBufferOffset]? = some 0 := by
      obtain ⟨rest, rfl⟩ := holds
      simp [filled.offset]
    obtain ⟨key, keyText⟩ := cString_some (Nat.zero_le _) terminated
    obtain ⟨value, valueText⟩ : ∃ value,
        currValueText { state with tmpBuffer := buffer } = some value := by
      cases pointer : state.currValue with
      | none => exact ⟨[], rfl⟩
      | some start => exact cString_some (sound.value start pointer) terminated
    obtain ⟨first, peeked⟩ : ∃ first, peek state.tmpBuffer 0 = some first :=
      ⟨_, List.getElem?_eq_getElem (by rw [filled.size]; exact Nat.succ_pos _)⟩
    by_cases nameless : first = 0
    · exact ⟨state, by simp [storePair, getting, peeked, nameless], sound⟩
    · refine ⟨{ state with
        tmpBuffer := buffer, postValues := state.postValues.insert key value }, ?_,
        ⟨written, size, filled.offset, filled.within, holds_prefix holds⟩, sound.value⟩
      simp only [getting] at valueText
      simp [storePair, getting, peeked, nameless, poked, keyText, valueText]
  · exact ⟨state, if_neg getting, sound⟩

/-! ### The loop -/

theorem drop_here {data : Bytes} {i : Nat} {c : UInt8} (here : data[i]? = some c) :
    data.drop i = c :: data.drop (i + 1) := by
  obtain ⟨inside, rfl⟩ := List.getElem?_eq_some_iff.mp here
  exact List.drop_eq_getElem_cons inside

/-- A byte is taken over as it is decoded. -/
theorem turn_takes {data : Bytes} {i : Nat} {state : ParseState} (sound : Sound data i state)
    {byte : UInt8} {code rest : Bytes} (encoded : FormEncoding.EncodesByte byte code)
    (here : data.drop i = code ++ rest) (inside : i < data.length) :
    ∃ after, turn data i state = some (.next (i + code.length) after) ∧
      Sound data (i + code.length) after := by
  have onwards : i < i + code.length := Nat.lt_add_of_pos_right (encoded_length encoded)
  obtain ⟨after, appended, more⟩ := append_sound sound inside onwards byte
  refine ⟨after, ?_, more⟩
  rw [turn_encoded encoded here, appended, Option.map_some]

/-- A turn at a byte that is no `%`. -/
theorem turn_plain {data : Bytes} {i : Nat} {state : ParseState} (sound : Sound data i state)
    {c : UInt8} (here : data[i]? = some c) (plain : c ≠ 37) :
    ∃ after, turn data i state = some (.next (i + 1) after) ∧ Sound data (i + 1) after := by
  have inside := (List.getElem?_eq_some_iff.mp here).1
  have rest := drop_here here
  by_cases equal : c = 61
  · rw [equal] at rest
    obtain ⟨after, started, more⟩ := startValue_sound sound inside
    exact ⟨after, by rw [turn_equals rest, started, Option.map_some], more⟩
  · by_cases both : c = 38
    · rw [both] at rest
      obtain ⟨stored, kept, still⟩ := storePair_sound sound (Nat.le_of_lt inside)
      obtain ⟨after, started, more⟩ := startPair_sound still (i + 1)
      exact ⟨after, by rw [turn_ampersand rest, kept, Option.bind_some, started, Option.map_some],
        more⟩
    · by_cases blank : c = 43
      · rw [blank] at rest
        exact turn_takes sound .plus rest inside
      · exact turn_takes sound (.literal c ⟨blank, equal, both, plain⟩) rest inside

/-- A turn at an escape: its digits are read, or it is refused, or it ends the loop. -/
theorem turn_percent {data : Bytes} {i : Nat} {state : ParseState} (sound : Sound data i state)
    (here : data[i]? = some 37) :
    (∃ high low, data[i + 1]? = some high ∧ data[i + 2]? = some low ∧
      (((isXDigit high = true ∧ isXDigit low = true) ∧
          ∃ after, turn data i state = some (.next (i + 3) after) ∧ Sound data (i + 3) after) ∨
        (¬ (isXDigit high = true ∧ isXDigit low = true) ∧
          turn data i state = some (.invalid state)))) ∨
    (data.length ≤ i + 2 ∧ ∃ after, turn data i state = some (.stop after) ∧ Sound data i after) := by
  have inside := (List.getElem?_eq_some_iff.mp here).1
  by_cases near : data.length ≤ i + 2
  · right
    obtain ⟨written, filled⟩ := sound.filled
    obtain ⟨buffer, poked, size, holds⟩ := filled_poke filled (Nat.le_of_lt inside) 0
    have guard : (data.length : Int) - 2 ≤ i := by omega
    refine ⟨near, { state with tmpBuffer := buffer }, ?_,
      ⟨written, size, filled.offset, filled.within, holds_prefix holds⟩, sound.value⟩
    simp [turn, peek, here, plus, equals, ampersand, percent, guard, poked]
  · left
    obtain ⟨high, first⟩ : ∃ high, data[i + 1]? = some high :=
      ⟨_, List.getElem?_eq_getElem (by omega)⟩
    obtain ⟨low, second⟩ : ∃ low, data[i + 2]? = some low :=
      ⟨_, List.getElem?_eq_getElem (by omega)⟩
    refine ⟨high, low, first, second, ?_⟩
    by_cases digits : isXDigit high = true ∧ isXDigit low = true
    · have rest : data.drop i = [37, high, low] ++ data.drop (i + 3) := by
        rw [drop_here here, drop_here first, drop_here second]
        rfl
      exact .inl ⟨digits, turn_takes sound (.escaped high low digits) rest inside⟩
    · have guard : ¬ (data.length : Int) - 2 ≤ i := by omega
      have refused : (!isXDigit high || !isXDigit low) = true := by
        rw [← Bool.not_and, Bool.not_eq_true', ← Bool.not_eq_true, Bool.and_eq_true]
        exact digits
      refine .inr ⟨digits, ?_⟩
      simp only [turn, peek, here, first, second, Option.bind_eq_bind, Option.bind_some]
      simp [plus, equals, ampersand, percent, guard, refused]

theorem ends_stop {data : Bytes} {i : Nat} {state after : ParseState}
    (turned : turn data i state = some (.stop after)) (inside : i < data.length) :
    Ends data i state (.parsed after) := by
  intro turns enough
  cases turns with
  | zero => omega
  | succ turns => simp only [loop, if_pos inside, turned]

theorem ends_invalid {data : Bytes} {i : Nat} {state after : ParseState}
    (turned : turn data i state = some (.invalid after)) (inside : i < data.length) :
    Ends data i state (.invalid after) := by
  intro turns enough
  cases turns with
  | zero => omega
  | succ turns => simp only [loop, if_pos inside, turned]

/-- How the loop ends from a place that holds to what is legal from there. -/
def Accepts (data : Bytes) (i : Nat) (state : ParseState) : Prop :=
  (∃ final stored, Ends data i state (.parsed final) ∧ storePair final = some stored ∧
      LegalFrom data i) ∨
    ∃ final, Ends data i state (.invalid final) ∧ ¬ LegalFrom data i

theorem accepts_onwards {data : Bytes} {i j : Nat} {state after : ParseState}
    (leads : Leads data i state j after) (same : LegalFrom data i ↔ LegalFrom data j)
    (later : Accepts data j after) : Accepts data i state := by
  rcases later with ⟨final, stored, ends, kept, legal⟩ | ⟨final, ends, broken⟩
  · exact .inl ⟨final, stored, leads _ ends, kept, same.mpr legal⟩
  · exact .inr ⟨final, leads _ ends, fun legal => broken (same.mp legal)⟩

/-- The loop ends from every place, and it fails exactly at an escape without its digits. -/
theorem loop_accepts {data : Bytes} {i : Nat} {state : ParseState} (sound : Sound data i state)
    (clear : Clear data i) (inside : i ≤ data.length) : Accepts data i state := by
  -- On what is left of the body, for an escape takes three bytes of it at once.
  induction left : data.length - i using Nat.strong_induction_on generalizing i state
  rename_i _ ih
  subst left
  by_cases ended : data.length ≤ i
  · obtain ⟨stored, kept, _⟩ := storePair_sound sound inside
    exact .inl ⟨state, stored, ends_done state ended, kept, legal_end (by omega)⟩
  · obtain ⟨c, here⟩ : ∃ c, data[i]? = some c := ⟨_, List.getElem?_eq_getElem (by omega)⟩
    have within : i < data.length := Nat.lt_of_not_le ended
    by_cases plain : c = 37
    · rw [plain] at here
      have starts := (clear_starts clear).mpr here
      rcases turn_percent sound here with
        ⟨high, low, first, second, read⟩ | ⟨near, after, turned, still⟩
      · have length := (List.getElem?_eq_some_iff.mp second).1
        have escape := legal_escape starts first second
        rcases read with ⟨digits, after, turned, more⟩ | ⟨broken, turned⟩
        · refine accepts_onwards (leads_turn turned within (by omega)) ?_
            (ih (data.length - (i + 3)) (by omega) more (clear_behind starts) (by omega) rfl)
          rw [escape, and_iff_right digits]
        · exact .inr ⟨state, ends_invalid turned within, fun legal => broken (escape.mp legal).1⟩
      · obtain ⟨stored, kept, _⟩ := storePair_sound still inside
        exact .inl ⟨after, stored, ends_stop turned within, kept, legal_end near⟩
    · have other : data[i]? ≠ some 37 := by
        rw [here]
        exact fun same => plain (Option.some.inj same)
      obtain ⟨after, turned, more⟩ := turn_plain sound here plain
      exact accepts_onwards (leads_turn turned within (Nat.lt_succ_self i)) (legal_plain other)
        (ih (data.length - (i + 1)) (by omega) more (clear_next clear other) within rfl)

/-! ### The reply -/

theorem start_sound (body : Bytes) (postValues : StringMap) :
    Sound body 0 ⟨List.replicate (body.length + 1) 0, 0, none, false, postValues⟩ :=
  ⟨⟨[], List.length_replicate, rfl, Nat.le_refl _, holds_nil _⟩, fun _ none => by cases none⟩

/-- `parsePost` ends without an access out of bounds, and its reply says whether the length
is in range and every escape that has two bytes behind it has two digits. -/
theorem parsePost_reply (body : Bytes) (postValues : StringMap) :
    ∃ result, parsePost (some body) postValues = some result ∧
      (result.reply = .replyOk ↔
        (1 ≤ body.length ∧ body.length ≤ 4095) ∧ LegalFrom body 0) := by
  by_cases refused : maxPostBodyLen ≤ body.length ∨ body.length < 1
  · refine ⟨_, if_pos refused, ?_⟩
    constructor
    · exact fun same => by cases same
    · rintro ⟨fits, _⟩
      rw [maxPostBodyLen] at refused
      omega
  · have fits : 1 ≤ body.length ∧ body.length ≤ 4095 := by
      rw [maxPostBodyLen] at refused
      omega
    have enough : body.length ≤ 0 + body.length := Nat.le_add_left ..
    rcases loop_accepts (start_sound body postValues) (clear_zero body) (Nat.zero_le _) with
      ⟨final, stored, ends, kept, legal⟩ | ⟨final, ends, broken⟩
    · refine ⟨⟨.replyOk, [], stored.postValues⟩, ?_, ?_⟩
      · simp only [parsePost, if_neg refused, ends _ enough, kept, Option.map_some]
      · exact ⟨fun _ => ⟨fits, legal⟩, fun _ => rfl⟩
    · refine ⟨returnError 625 (bytes "invalid percent encoding") final.postValues, ?_, ?_⟩
      · simp only [parsePost, if_neg refused, ends _ enough]
      · constructor
        · exact fun same => by cases same
        · exact fun legal => absurd legal.2 broken

/-- A body that ends within an escape is accepted. -/
theorem parsePost_cut_escape :
    ¬ ∀ (body : Bytes) (postValues : StringMap),
      (∃ result, parsePost (some body) postValues = some result ∧ result.reply = .replyOk) ↔
        (1 ≤ body.length ∧ body.length ≤ 4095) ∧
          ∀ i, startsEscape body i = true → ∃ high low, body[i + 1]? = some high ∧
            body[i + 2]? = some low ∧ isXDigit high = true ∧ isXDigit low = true := by
  intro exact
  have accepted : ∃ result, parsePost (some (bytes "%")) ∅ = some result ∧
      result.reply = .replyOk := ⟨_, rfl, rfl⟩
  obtain ⟨_, escapes⟩ := (exact (bytes "%") ∅).mp accepted
  obtain ⟨_, _, first, _⟩ := escapes 0 rfl
  cases first

end OClock.PostAcceptance
