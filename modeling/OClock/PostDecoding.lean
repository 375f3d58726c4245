import OClock.FormEncoding
import OClock.PostParser

/-!
`parsePost` undoes every form encoding. The loop is followed from one place in
the body to a later one; what carries it is what the buffer holds from its start
on, whatever earlier pairs have left behind that.
-/

namespace OClock.PostDecoding
open Text Buffer PostParser FormEncoding

/-- From place `i` the loop ends in `outcome`, given turns enough for the rest of the body. -/
def Ends (data : Bytes) (i : Nat) (state : ParseState) (outcome : Outcome) : Prop :=
  ∀ turns, data.length ≤ i + turns → loop data turns i state = some outcome

/-- What the loop does from place `i` is what it does from place `j`. -/
def Leads (data : Bytes) (i : Nat) (state : ParseState) (j : Nat) (after : ParseState) : Prop :=
  ∀ outcome, Ends data j after outcome → Ends data i state outcome

theorem ends_done {data : Bytes} {i : Nat} (state : ParseState) (ended : data.length ≤ i) :
    Ends data i state (.parsed state) := by
  intro turns _
  have last : ¬ i < data.length := Nat.not_lt.mpr ended
  cases turns <;> simp [loop, last]

theorem leads_refl (data : Bytes) (i : Nat) (state : ParseState) : Leads data i state i state :=
  fun _ ends => ends

theorem Leads.trans {data : Bytes} {i j k : Nat} {state middle after : ParseState}
    (first : Leads data i state j middle) (second : Leads data j middle k after) :
    Leads data i state k after :=
  fun outcome ends => first outcome (second outcome ends)

theorem leads_turn {data : Bytes} {i j : Nat} {state after : ParseState}
    (turned : turn data i state = some (.next j after)) (inside : i < data.length)
    (onwards : i < j) : Leads data i state j after := by
  intro outcome ends turns enough
  cases turns with
  | zero => omega
  | succ turns =>
      simp only [loop, if_pos inside, turned]
      exact ends turns (by omega)

/-! ### The buffer -/

/-- At place `i` of the body the buffer holds `written` and is filled up to there. -/
structure Filled (data : Bytes) (i : Nat) (state : ParseState) (written : Bytes) : Prop where
  size : state.tmpBuffer.length = data.length + 1
  offset : state.tmpBufferOffset = written.length
  within : written.length ≤ i
  holds : Holds state.tmpBuffer written

theorem filled_poke {data : Bytes} {i : Nat} {state : ParseState} {written : Bytes}
    (filled : Filled data i state written) (inside : i ≤ data.length) (byte : UInt8) :
    ∃ buffer, poke state.tmpBuffer state.tmpBufferOffset byte = some buffer ∧
      buffer.length = data.length + 1 ∧ Holds buffer (written ++ [byte]) := by
  have room : written.length < state.tmpBuffer.length := by
    have within := filled.within
    rw [filled.size]
    omega
  obtain ⟨buffer, poked, holds⟩ := holds_poke filled.holds room byte
  rw [filled.offset]
  exact ⟨buffer, poked, (poke_length poked).trans filled.size, holds⟩

theorem append_filled {data : Bytes} {i : Nat} {state : ParseState} {written : Bytes}
    (filled : Filled data i state written) (inside : i < data.length) (ch : UInt8) {j : Nat}
    (onwards : i < j) :
    ∃ buffer, append state ch = some { state with
        tmpBuffer := buffer, tmpBufferOffset := state.tmpBufferOffset + 1 } ∧
      Filled data j { state with
        tmpBuffer := buffer, tmpBufferOffset := state.tmpBufferOffset + 1 } (written ++ [ch]) := by
  obtain ⟨buffer, poked, size, holds⟩ := filled_poke filled (Nat.le_of_lt inside) ch
  have within := filled.within
  refine ⟨buffer, by simp [append, poked], size, ?_, ?_, holds⟩
  · simp [filled.offset]
  · simp only [List.length_append, List.length_singleton]
    omega

theorem startValue_filled {data : Bytes} {i : Nat} {state : ParseState} {key : Bytes}
    (filled : Filled data i state key) (inside : i < data.length) :
    ∃ buffer, startValue state = some { state with
        tmpBuffer := buffer, tmpBufferOffset := state.tmpBufferOffset + 1
        currValue := some (key.length + 1), gettingValuePortion := true } ∧
      Filled data (i + 1) { state with
        tmpBuffer := buffer, tmpBufferOffset := state.tmpBufferOffset + 1
        currValue := some (key.length + 1), gettingValuePortion := true } (key ++ [0]) := by
  obtain ⟨middle, poked, size, holds⟩ := filled_poke filled (Nat.le_of_lt inside) 0
  have within := filled.within
  have room : (key ++ [0]).length < middle.length := by
    simp only [List.length_append, List.length_singleton, size]
    omega
  obtain ⟨buffer, second, ends⟩ := holds_poke holds room 0
  have place : state.tmpBufferOffset + 1 = (key ++ [0]).length := by simp [filled.offset]
  have count : key.length + 1 = (key ++ [0]).length := by simp
  refine ⟨buffer, ?_, (poke_length second).trans size, place, ?_, holds_prefix ends⟩
  · rw [← place] at second
    rw [← filled.offset]
    simp [startValue, poked, second]
  · rw [← count]
    omega

theorem startPair_filled {data : Bytes} (state : ParseState) (i : Nat)
    (size : state.tmpBuffer.length = data.length + 1) :
    ∃ buffer, startPair state = some { state with
        tmpBuffer := buffer, tmpBufferOffset := 0, currValue := none
        gettingValuePortion := false } ∧
      Filled data i { state with
        tmpBuffer := buffer, tmpBufferOffset := 0, currValue := none
        gettingValuePortion := false } [] := by
  have room : ([] : Bytes).length < state.tmpBuffer.length := by
    rw [size]
    exact Nat.succ_pos _
  obtain ⟨buffer, poked, _⟩ := holds_poke (holds_nil state.tmpBuffer) room 0
  rw [List.length_nil] at poked
  exact ⟨buffer, by simp [startPair, poked], (poke_length poked).trans size, rfl, Nat.zero_le _,
    holds_nil buffer⟩

/-- A name, leftovers of the piece and a value in the buffer. -/
theorem storePair_last {data : Bytes} {i : Nat} {state : ParseState} {key value more : Bytes}
    (filled : Filled data i state (key ++ 0 :: more ++ value)) (inside : i ≤ data.length)
    (pointer : state.currValue = some (key ++ 0 :: more).length)
    (getting : state.gettingValuePortion = true)
    (named : key ≠ []) (clean : 0 ∉ key ∧ 0 ∉ value) :
    ∃ stored, storePair state = some stored ∧
      stored.tmpBuffer.length = data.length + 1 ∧
      stored.postValues = state.postValues.insert key value := by
  obtain ⟨buffer, poked, size, holds⟩ := filled_poke filled inside 0
  have head : ∃ first, peek state.tmpBuffer 0 = some first ∧ first ≠ 0 := by
    obtain ⟨rest, same⟩ := filled.holds
    cases key with
    | nil => exact absurd rfl named
    | cons first tail =>
        refine ⟨first, by simp [peek, ← same], ?_⟩
        rintro rfl
        exact clean.1 List.mem_cons_self
  obtain ⟨first, peeked, filledFirst⟩ := head
  have valueText : currValueText { state with tmpBuffer := buffer } = some value := by
    simp only [currValueText, pointer]
    exact holds_cString clean.2 holds
  have keyText : cString buffer 0 = some key := by
    have start : Holds buffer ([] ++ key ++ [0]) := by
      have whole : key ++ 0 :: more ++ value ++ [0] =
          ([] ++ key ++ [0]) ++ (more ++ value ++ [0]) := by simp
      rw [whole] at holds
      exact holds_prefix holds
    exact holds_cString clean.1 start
  refine ⟨{ state with
    tmpBuffer := buffer, postValues := state.postValues.insert key value }, ?_, size, rfl⟩
  simp only [getting] at valueText
  simp [storePair, getting, peeked, filledFirst, poked, keyText, valueText]

/-- A pair in the buffer goes into the map as it was decoded. -/
theorem storePair_filled {data : Bytes} {i : Nat} {state : ParseState} {key value : Bytes}
    (filled : Filled data i state (key ++ [0] ++ value)) (inside : i ≤ data.length)
    (pointer : state.currValue = some (key.length + 1)) (getting : state.gettingValuePortion = true)
    (named : key ≠ []) (clean : 0 ∉ key ∧ 0 ∉ value) :
    ∃ stored, storePair state = some stored ∧
      stored.tmpBuffer.length = data.length + 1 ∧
      stored.postValues = state.postValues.insert key value :=
  @storePair_last data i state key value [] filled inside
    (by rw [pointer, List.length_append]; rfl) getting named clean

/-! ### One turn -/

theorem peek_here {data rest : Bytes} {i : Nat} {byte : UInt8}
    (here : data.drop i = byte :: rest) : peek data i = some byte := by
  rw [peek, ← List.head?_drop, here]
  rfl

theorem drop_after {data code rest : Bytes} {i : Nat} (here : data.drop i = code ++ rest) :
    data.drop (i + code.length) = rest := by
  rw [← List.drop_drop, here, List.drop_left]

theorem drop_inside {data rest : Bytes} {i : Nat} {byte : UInt8}
    (here : data.drop i = byte :: rest) : i < data.length := by
  by_contra beyond
  rw [List.drop_of_length_le (Nat.le_of_not_lt beyond)] at here
  cases here

/-- One turn decodes one byte, however it was written. -/
theorem turn_encoded {byte : UInt8} {code : Bytes} (encoded : EncodesByte byte code)
    {data rest : Bytes} {i : Nat} (here : data.drop i = code ++ rest) (state : ParseState) :
    turn data i state = (append state byte).map (Turn.next (i + code.length)) := by
  cases encoded with
  | literal _ plain =>
      have first := peek_here here
      simp only [turn, first, plus, equals, ampersand, percent, plain, Option.bind_eq_bind,
        Option.bind_some, if_false]
      cases append state byte <;> rfl
  | plus =>
      have first := peek_here here
      simp only [turn, first, plus, Option.bind_eq_bind, Option.bind_some, if_true, space]
      cases append state 32 <;> rfl
  | escaped high low digits =>
      have first := peek_here here
      have second : peek data (i + 1) = some high :=
        peek_here (@drop_after data [37] _ i here)
      have third : peek data (i + 2) = some low :=
        peek_here (@drop_after data [37, high] _ i here)
      have room : ¬ (data.length : Int) - 2 ≤ i := by
        have last := drop_inside (@drop_after data [37, high] _ i here)
        simp only [List.length_cons, List.length_nil] at last
        omega
      simp only [turn, first, second, third, Option.bind_eq_bind, Option.bind_some, room,
        digits.1, digits.2]
      cases append state (hexByte high low) <;> rfl

theorem encoded_length {byte : UInt8} {code : Bytes} (encoded : EncodesByte byte code) :
    0 < code.length := by
  cases encoded <;> simp

theorem turn_equals {data rest : Bytes} {i : Nat} (here : data.drop i = 61 :: rest)
    (state : ParseState) :
    turn data i state = (startValue state).map (Turn.next (i + 1)) := by
  simp only [turn, peek_here here, plus, equals, Option.bind_eq_bind, Option.bind_some]
  cases startValue state <;> rfl

theorem turn_ampersand {data rest : Bytes} {i : Nat} (here : data.drop i = 38 :: rest)
    (state : ParseState) :
    turn data i state = ((storePair state).bind startPair).map (Turn.next (i + 1)) := by
  simp only [turn, peek_here here, plus, equals, ampersand, Option.bind_eq_bind, Option.bind_some]
  cases stored : storePair state with
  | none => rfl
  | some after =>
      simp only [Option.bind_some]
      cases startPair after <;> rfl

/-! ### Texts, pairs, bodies -/

/-- The loop over an encoded text appends the text to the buffer. -/
theorem text_leads {text code : Bytes} (encoded : EncodesText text code) {data rest : Bytes}
    {i : Nat} (here : data.drop i = code ++ rest) {state : ParseState} {written : Bytes}
    (filled : Filled data i state written) :
    ∃ buffer offset,
      Filled data (i + code.length) { state with
        tmpBuffer := buffer, tmpBufferOffset := offset } (written ++ text) ∧
      Leads data i state (i + code.length) { state with
        tmpBuffer := buffer, tmpBufferOffset := offset } := by
  induction encoded generalizing i state written with
  | nil =>
      refine ⟨state.tmpBuffer, state.tmpBufferOffset, ?_, leads_refl _ _ _⟩
      rw [List.append_nil]
      exact filled
  | @cons byte byteCode text rest' first _ ih =>
      rw [List.append_assoc] at here
      have positive := encoded_length first
      have inside : i < data.length := by
        by_contra beyond
        rw [List.drop_of_length_le (Nat.le_of_not_lt beyond)] at here
        have empty := (List.append_eq_nil_iff.mp here.symm).1
        rw [empty] at positive
        exact Nat.lt_irrefl _ positive
      have onwards : i < i + byteCode.length := Nat.lt_add_of_pos_right positive
      obtain ⟨middle, appended, held⟩ := append_filled filled inside byte onwards
      obtain ⟨buffer, offset, final, leads⟩ := ih (drop_after here) held
      -- One turn of the loop reads a byte in either of its spellings.
      have turned : turn data i state = some (.next (i + byteCode.length) { state with
          tmpBuffer := middle, tmpBufferOffset := state.tmpBufferOffset + 1 }) := by
        rw [turn_encoded first here, appended]
        rfl
      refine ⟨buffer, offset, ?_, ?_⟩
      · rw [List.append_assoc] at final
        rw [List.length_append, ← Nat.add_assoc]
        exact final
      · rw [List.length_append, ← Nat.add_assoc]
        exact (leads_turn turned inside onwards).trans leads

/-- Behind a text and a `=` the loop reads a value, whatever it read before. -/
theorem equals_leads {text code : Bytes} (encoded : EncodesText text code) {data rest : Bytes}
    {i : Nat} (here : data.drop i = code ++ 61 :: rest) {state : ParseState} {written : Bytes}
    (filled : Filled data i state written) :
    data.drop (i + code.length + 1) = rest ∧ ∃ buffer offset,
      Filled data (i + code.length + 1) { state with
        tmpBuffer := buffer, tmpBufferOffset := offset
        currValue := some ((written ++ text).length + 1)
        gettingValuePortion := true } (written ++ text ++ [0]) ∧
      Leads data i state (i + code.length + 1) { state with
        tmpBuffer := buffer, tmpBufferOffset := offset
        currValue := some ((written ++ text).length + 1), gettingValuePortion := true } := by
  obtain ⟨before, offset, read, leads⟩ := text_leads encoded here filled
  have atEquals := drop_after here
  have inside := drop_inside atEquals
  obtain ⟨buffer, started, opened⟩ := startValue_filled read inside
  have turned := turn_equals atEquals { state with tmpBuffer := before, tmpBufferOffset := offset }
  rw [started, Option.map_some] at turned
  have onwards := leads_turn turned inside (Nat.lt_succ_self _)
  exact ⟨@drop_after data [61] _ _ atEquals, buffer, _, opened, leads.trans onwards⟩

/-- The loop over `key=value` leaves the pair in the buffer. -/
theorem pair_leads {key value keyCode valueCode : Bytes} (encodedKey : EncodesText key keyCode)
    (encodedValue : EncodesText value valueCode) {data rest : Bytes} {i : Nat}
    (here : data.drop i = keyCode ++ 61 :: (valueCode ++ rest)) {state : ParseState}
    (filled : Filled data i state []) :
    ∃ buffer offset,
      Filled data (i + keyCode.length + 1 + valueCode.length) { state with
        tmpBuffer := buffer, tmpBufferOffset := offset
        currValue := some (key.length + 1), gettingValuePortion := true } (key ++ [0] ++ value) ∧
      Leads data i state (i + keyCode.length + 1 + valueCode.length) { state with
        tmpBuffer := buffer, tmpBufferOffset := offset
        currValue := some (key.length + 1), gettingValuePortion := true } := by
  obtain ⟨atValue, _, _, opened, keyLeads⟩ := equals_leads encodedKey here filled
  obtain ⟨buffer, offset, final, valueLeads⟩ := text_leads encodedValue atValue opened
  exact ⟨buffer, offset, final, keyLeads.trans valueLeads⟩

/-- From the start of a pair the loop runs to the end of the body, and the pairs it
met are then in the map. -/
theorem pairs_lead {pairs : List (Bytes × Bytes)} {code : Bytes}
    (encoded : EncodesPairs pairs code) (named : ∀ pair ∈ pairs, pair.1 ≠ [])
    (clean : ∀ pair ∈ pairs, 0 ∉ pair.1 ∧ 0 ∉ pair.2) {data : Bytes} {i : Nat}
    (here : data.drop i = code) {state : ParseState} (filled : Filled data i state []) :
    ∃ final stored, Ends data i state (.parsed final) ∧ storePair final = some stored ∧
      stored.postValues =
        pairs.foldl (fun values pair => values.insert pair.1 pair.2) state.postValues := by
  -- The last pair ends where the body ends; every other one ends at an ampersand.
  induction encoded generalizing i state with
  | @last key value keyCode valueCode encodedKey encodedValue =>
      rw [← List.append_nil valueCode] at here
      obtain ⟨buffer, offset, final, leads⟩ := pair_leads encodedKey encodedValue here filled
      have ended : i + keyCode.length + 1 + valueCode.length = data.length := by
        have rest := congrArg List.length here
        have start : i < data.length := by
          by_contra beyond
          rw [List.drop_of_length_le (Nat.le_of_not_lt beyond)] at here
          simp at here
        simp only [List.length_drop, List.length_append, List.length_cons, List.append_nil] at rest
        omega
      have member := List.mem_singleton_self (key, value)
      obtain ⟨stored, kept, _, values⟩ := storePair_filled final (Nat.le_of_eq ended) rfl rfl
        (named _ member) (clean _ member)
      exact ⟨_, stored, leads _ (ends_done _ (Nat.le_of_eq ended.symm)), kept, values⟩
  | @more key value keyCode valueCode code rest encodedKey encodedValue _ ih =>
      obtain ⟨buffer, offset, pair, leads⟩ := pair_leads encodedKey encodedValue here filled
      have atEquals : data.drop (i + keyCode.length) = 61 :: (valueCode ++ 38 :: code) :=
        drop_after here
      have atValue : data.drop (i + keyCode.length + 1) = valueCode ++ 38 :: code :=
        @drop_after data [61] _ _ atEquals
      have atAmpersand := drop_after atValue
      have inside := drop_inside atAmpersand
      have member : (key, value) ∈ (key, value) :: rest := List.mem_cons_self
      obtain ⟨stored, kept, size, inserted⟩ := storePair_filled pair (Nat.le_of_lt inside) rfl rfl
        (named _ member) (clean _ member)
      obtain ⟨fresh, restarted, opened⟩ := startPair_filled stored
        (i + keyCode.length + 1 + valueCode.length + 1) size
      have turned := turn_ampersand atAmpersand { state with
        tmpBuffer := buffer, tmpBufferOffset := offset
        currValue := some (key.length + 1), gettingValuePortion := true }
      rw [kept, Option.bind_some, restarted, Option.map_some] at turned
      have onwards := leads_turn turned inside (Nat.lt_succ_self _)
      obtain ⟨final, last, ends, ended, values⟩ := ih
        (fun pair inRest => named pair (List.mem_cons_of_mem _ inRest))
        (fun pair inRest => clean pair (List.mem_cons_of_mem _ inRest))
        (@drop_after data [38] _ _ atAmpersand) opened
      refine ⟨final, last, leads _ (onwards _ ends), ended, ?_⟩
      rw [values, List.foldl_cons, ← inserted]

/-- Decoding gives back the pairs that were encoded, whatever encoding was chosen. -/
theorem parsePost_decodes (pairs : List (Bytes × Bytes)) (named : ∀ pair ∈ pairs, pair.1 ≠ [])
    (clean : ∀ pair ∈ pairs, 0 ∉ pair.1 ∧ 0 ∉ pair.2) (body : Bytes)
    (encoded : EncodesPairs pairs body)
    (fits : 1 ≤ body.length ∧ body.length ≤ 4095) :
    ∃ result, parsePost (some body) ∅ = some result ∧ result.reply = .replyOk ∧
      ∀ key, result.postValues[key]? = lastValue pairs key := by
  have start : Filled body 0 ⟨List.replicate (body.length + 1) 0, 0, none, false, ∅⟩ [] :=
    ⟨List.length_replicate, rfl, Nat.le_refl _, holds_nil _⟩
  obtain ⟨final, stored, ends, kept, values⟩ := pairs_lead encoded named clean rfl start
  have looped := ends body.length (Nat.le_add_left ..)
  have accepted : ¬ (maxPostBodyLen ≤ body.length ∨ body.length < 1) := by
    rw [maxPostBodyLen]
    omega
  refine ⟨⟨.replyOk, [], stored.postValues⟩, ?_, rfl, ?_⟩
  · simp only [parsePost, if_neg accepted, looped, kept, Option.map_some]
  · intro key
    rw [values, OrderedMap.lookup_insert_all, lastValue]
    simp

theorem parsePost_decodes_sample :
    ∃ result, parsePost (some (bytes "k=%41&k=b+")) ∅ = some result ∧ result.reply = .replyOk ∧
      ∀ key, result.postValues[key]? =
        lastValue [(bytes "k", bytes "A"), (bytes "k", bytes "b ")] key := by
  have key : EncodesText (bytes "k") (bytes "k") := .cons (.literal 107 (by decide)) .nil
  have first : EncodesText (bytes "A") (bytes "%41") := .cons (.escaped 52 49 (by decide)) .nil
  have second : EncodesText (bytes "b ") (bytes "b+") :=
    .cons (.literal 98 (by decide)) (.cons .plus .nil)
  exact parsePost_decodes _ (by decide) (by decide) _ (.more key first (.last key second))
    (by decide)

end OClock.PostDecoding
