import OClock.FormDecoding
import OClock.PostDecoding

/-!
`parsePost` over every body whose escapes are whole: piece by piece the loop leaves a name
and a value in its buffer. Every `=` of a piece starts the value anew.
-/

namespace OClock.PostForms
open Text Buffer PostParser FormEncoding FormDecoding PostDecoding

/-- What the loop keeps of a piece. -/
def keptPair (piece : Bytes) : Option (Bytes × Bytes) :=
  match piece.dropWhile (· != 61) with
  | [] => none
  | _ :: value =>
      some (decodeText (piece.takeWhile (· != 61)), decodeText (value.rtakeWhile (· != 61)))

def keptNamed (piece : Bytes) : Option (Bytes × Bytes) :=
  (keptPair piece).filter fun pair => pair.1 ≠ []

theorem keptPair_cut {name : Bytes} (plain : 61 ∉ name) (value : Bytes) :
    keptPair (name ++ 61 :: value) =
      some (decodeText name, decodeText (value.rtakeWhile (· != 61))) := by
  obtain ⟨taken, dropped⟩ := before_equals plain value
  rw [keptPair, taken, dropped]

theorem keptNamed_none {piece : Bytes} (plain : 61 ∉ piece) : keptNamed piece = none := by
  rw [keptNamed, keptPair, without_equals plain]
  rfl

theorem rtakeWhile_plain {text : Bytes} (plain : 61 ∉ text) :
    text.rtakeWhile (· != 61) = text := by
  rw [List.rtakeWhile_eq_self_iff]
  exact fun c inside => bne_iff_ne.mpr fun same => plain (same ▸ inside)

theorem rtakeWhile_cut (text after : Bytes) :
    (text ++ 61 :: after).rtakeWhile (· != 61) = after.rtakeWhile (· != 61) := by
  induction after using List.reverseRecOn with
  | nil => exact List.rtakeWhile_concat_neg _ _ _ (by decide)
  | append_singleton rest c ih =>
      rw [← List.cons_append, ← List.append_assoc, List.rtakeWhile_concat,
        List.rtakeWhile_concat, ih]

/-! ### The loop over a piece -/

/-- From behind a `=` to the end of the piece. -/
theorem value_leads {data : Bytes} (tail : Bytes) (escaped : Escaped tail) (piece : 38 ∉ tail)
    {before rest : Bytes} {i : Nat} (here : data.drop i = tail ++ rest) {state : ParseState}
    (filled : Filled data i state before) (pointer : state.currValue = some before.length)
    (getting : state.gettingValuePortion = true) :
    ∃ after more, Leads data i state (i + tail.length) after ∧
      Filled data (i + tail.length) after
        (before ++ more ++ decodeText (tail.rtakeWhile (· != 61))) ∧
      after.currValue = some (before ++ more).length ∧ after.gettingValuePortion = true ∧
      after.postValues = state.postValues := by
  -- The part of the value up to another `=` stays in the buffer, and the value starts behind it.
  induction size : tail.length using Nat.strong_induction_on generalizing tail before i state
  rename_i _ ih
  subst size
  by_cases another : 61 ∈ tail
  · obtain ⟨segment, later, rfl, plain⟩ := cut_at another
    rw [List.append_assoc, List.cons_append] at here
    have whole := escaped_before escaped (by decide)
    simp only [List.mem_append, List.mem_cons, not_or] at piece
    obtain ⟨atLater, _, _, opened, leads⟩ :=
      equals_leads (decode_encodes whole plain piece.1) here filled
    obtain ⟨after, more, arrives, final, last, still, values⟩ :=
      ih later.length (by simp; omega) later (escaped_behind escaped) piece.2.2 atLater opened
        (by simp [Nat.add_assoc]) rfl rfl
    have place : i + (segment ++ 61 :: later).length = i + segment.length + 1 + later.length := by
      simp only [List.length_append, List.length_cons]
      omega
    have written : before ++ decodeText segment ++ [0] ++ more =
        before ++ (decodeText segment ++ [0] ++ more) := by simp
    rw [place, rtakeWhile_cut]
    rw [written] at final last
    exact ⟨after, _, leads.trans arrives, final, last, still, values⟩
  · obtain ⟨buffer, offset, read, leads⟩ :=
      text_leads (decode_encodes escaped another piece) here filled
    refine ⟨_, [], leads, ?_, ?_, getting, rfl⟩
    · rw [rtakeWhile_plain another, List.append_nil]
      exact read
    · rw [List.append_nil]
      exact pointer

/-- Over a whole piece, the loop and what is then stored of it. -/
theorem piece_leads {data piece rest : Bytes} {i : Nat} (inside : i ≤ data.length)
    (here : data.drop i = piece ++ rest) (escaped : Escaped piece) (clean : 0 ∉ piece)
    (whole : 38 ∉ piece) {state : ParseState} (filled : Filled data i state [])
    (key : state.gettingValuePortion = false) :
    ∃ after stored, Leads data i state (i + piece.length) after ∧ storePair after = some stored ∧
      stored.tmpBuffer.length = data.length + 1 ∧
      stored.postValues = insertAll state.postValues (keptNamed piece).toList := by
  have room : i + piece.length ≤ data.length := by
    have length := congrArg List.length here
    rw [List.length_drop, List.length_append] at length
    omega
  by_cases pair : 61 ∈ piece
  · obtain ⟨name, tail, rfl, plain⟩ := cut_at pair
    rw [List.append_assoc, List.cons_append] at here
    have named := escaped_before escaped (by decide)
    have remains : Escaped tail := escaped_behind escaped
    simp only [List.mem_append, List.mem_cons, not_or] at whole clean
    obtain ⟨atValue, _, _, opened, leads⟩ :=
      equals_leads (decode_encodes named plain whole.1) here filled
    obtain ⟨after, more, arrives, final, pointer, getting, values⟩ :=
      value_leads tail remains whole.2.2 atValue opened (by simp) rfl
    have place : i + (name ++ 61 :: tail).length = i + name.length + 1 + tail.length := by
      simp only [List.length_append, List.length_cons]
      omega
    have written : [] ++ decodeText name ++ [0] ++ more = decodeText name ++ 0 :: more := by simp
    rw [written] at final pointer
    rw [place] at room ⊢
    have found := keptPair_cut plain tail
    have last : tail.rtakeWhile (· != 61) <:+ tail := List.rtakeWhile_suffix _ _
    have valueClean : 0 ∉ decodeText (tail.rtakeWhile (· != 61)) := by
      obtain ⟨early, cut⟩ := last
      rw [← cut] at remains clean
      simp only [List.mem_append, not_or] at clean
      exact decode_clean (escaped_suffix remains) clean.2.2.2
    by_cases nameless : decodeText name = []
    · -- The key is empty, so the buffer starts with its terminator.
      have first : peek after.tmpBuffer 0 = some 0 := by
        obtain ⟨leftover, same⟩ := final.holds
        rw [nameless] at same
        simp [peek, ← same]
      have dropped : keptNamed (name ++ 61 :: tail) = none := by
        rw [keptNamed, found]
        simp [nameless]
      refine ⟨after, after, leads.trans arrives, ?_, final.size, ?_⟩
      · simp [storePair, getting, first]
      · rw [dropped, values]
        rfl
    · obtain ⟨stored, kept, size, inserted⟩ := storePair_last final room pointer getting nameless
        ⟨decode_clean named clean.1, valueClean⟩
      have there : keptNamed (name ++ 61 :: tail) =
          some (decodeText name, decodeText (tail.rtakeWhile (· != 61))) := by
        rw [keptNamed, found]
        simp [nameless]
      refine ⟨after, stored, leads.trans arrives, kept, size, ?_⟩
      rw [inserted, there, values]
      rfl
  · obtain ⟨buffer, offset, read, leads⟩ :=
      text_leads (decode_encodes escaped pair whole) here filled
    -- Without a `=` no value has begun, so that nothing is stored.
    refine ⟨_, _, leads, if_neg (by simp [key]), read.size, ?_⟩
    rw [keptNamed_none pair]
    rfl

theorem join_cons (piece next : Bytes) (rest : List Bytes) :
    [38].intercalate (piece :: next :: rest) = piece ++ 38 :: [38].intercalate (next :: rest) := by
  simp [List.intercalate]

/-- The loop from the start of a piece to the end of the body. -/
theorem pieces_lead {data : Bytes} (pieces : List Bytes) (nonempty : pieces ≠ [])
    (whole : ∀ piece ∈ pieces, 38 ∉ piece) (escaped : Escaped ([38].intercalate pieces))
    (clean : 0 ∉ [38].intercalate pieces) {i : Nat} (inside : i ≤ data.length)
    (here : data.drop i = [38].intercalate pieces) {state : ParseState}
    (filled : Filled data i state []) (key : state.gettingValuePortion = false) :
    ∃ final stored, Ends data i state (.parsed final) ∧ storePair final = some stored ∧
      stored.postValues = insertAll state.postValues (pieces.filterMap keptNamed) := by
  induction pieces generalizing i state with
  | nil => exact absurd rfl nonempty
  | cons piece rest ih =>
      have mine := whole piece List.mem_cons_self
      cases rest with
      | nil =>
          simp only [List.intercalate_singleton] at here escaped clean
          rw [← List.append_nil piece] at here
          obtain ⟨after, stored, leads, kept, _, values⟩ :=
            piece_leads inside here escaped clean mine filled key
          have ended : data.length ≤ i + piece.length := by
            have length := congrArg List.length here
            rw [List.length_drop, List.append_nil] at length
            omega
          refine ⟨after, stored, leads _ (ends_done _ ended), kept, ?_⟩
          exact values.trans (insertAll_piece keptNamed state.postValues piece [])
      | cons next rest =>
          rw [join_cons] at here escaped clean
          simp only [List.mem_append, List.mem_cons, not_or] at clean
          obtain ⟨after, stored, leads, kept, size, values⟩ :=
            piece_leads inside here (escaped_before escaped (by decide)) clean.1 mine filled key
          have atAmpersand := drop_after here
          have within := drop_inside atAmpersand
          obtain ⟨buffer, restarted, opened⟩ := startPair_filled stored (i + piece.length + 1) size
          have turned := turn_ampersand atAmpersand after
          rw [kept, Option.bind_some, restarted, Option.map_some] at turned
          have onwards := leads_turn turned within (Nat.lt_succ_self _)
          obtain ⟨final, last, ends, ended, more⟩ := ih (List.cons_ne_nil _ _)
            (fun other there => whole other (List.mem_cons_of_mem _ there))
            (escaped_behind escaped) clean.2.2
            (Nat.succ_le_of_lt within) (@drop_after data [38] _ _ atAmpersand) opened rfl
          refine ⟨final, last, leads _ (onwards _ ends), ended, ?_⟩
          dsimp only at more
          rw [more, values, insertAll_piece]

/-- A body whose escapes are whole is accepted, and read piece by piece. -/
theorem parsePost_keeps {body : Bytes} (escaped : Escaped body) (clean : 0 ∉ body)
    (fits : 1 ≤ body.length ∧ body.length ≤ 4095) :
    parsePost (some body) ∅ =
      some ⟨.replyOk, [], insertAll ∅ ((body.splitOn 38).filterMap keptNamed)⟩ := by
  have start : Filled body 0 ⟨List.replicate (body.length + 1) 0, 0, none, false, ∅⟩ [] :=
    ⟨List.length_replicate, rfl, Nat.le_refl _, holds_nil _⟩
  have joined : [38].intercalate (body.splitOn 38) = body := List.intercalate_splitOn 38
  obtain ⟨final, stored, ends, kept, values⟩ := pieces_lead (body.splitOn 38)
    (List.splitOn_ne_nil 38 body) (fun _ => mem_splitOn) (joined.symm ▸ escaped) (joined.symm ▸ clean)
    (Nat.zero_le _) joined.symm start rfl
  have looped := ends body.length (Nat.le_add_left ..)
  have accepted : ¬ (maxPostBodyLen ≤ body.length ∨ body.length < 1) := by
    rw [maxPostBodyLen]
    omega
  simp only [parsePost, if_neg accepted, looped, kept, Option.map_some, values]

/-! ### Against the definition -/

/-- The last piece of every name holds one `=`. -/
def LastPlain (body : Bytes) : Prop :=
  ∀ before piece after name value, body.splitOn 38 = before ++ piece :: after →
    namedPair piece = some (name, value) →
    (∀ later ∈ after, (namedPair later).map Prod.fst ≠ some name) → piece.count 61 = 1

theorem same_names (piece : Bytes) :
    (namedPair piece).map Prod.fst = (keptNamed piece).map Prod.fst := by
  by_cases pair : 61 ∈ piece
  · obtain ⟨name, value, rfl, plain⟩ := cut_at pair
    rw [namedPair, keptNamed, pairOf_cut plain, keptPair_cut plain]
    rw [Option.filter_some, Option.filter_some]
    by_cases nameless : decodeText name = [] <;> simp [nameless]
  · rw [namedPair, pairOf_none pair, keptNamed_none pair]
    rfl

/-- A value that goes on behind another `=` is longer than what is kept of it. -/
theorem kept_shorter {value : Bytes} (escaped : Escaped value) (another : 61 ∈ value) :
    (decodeText (value.rtakeWhile (· != 61))).length < (decodeText value).length := by
  induction size : value.length using Nat.strong_induction_on generalizing value
  rename_i _ ih
  subst size
  obtain ⟨segment, later, rfl, plain⟩ := cut_at another
  have remains : Escaped later := escaped_behind escaped
  rw [rtakeWhile_cut, decode_equals (escaped_before escaped (by decide)), List.length_append,
    List.length_cons]
  by_cases more : 61 ∈ later
  · have shorter := ih later.length (by simp; omega) remains more rfl
    omega
  · rw [rtakeWhile_plain more]
    omega

theorem same_pair {piece name value : Bytes} (escaped : Escaped piece)
    (here : namedPair piece = some (name, value)) :
    keptNamed piece = some (name, value) ↔ piece.count 61 = 1 := by
  have pair : 61 ∈ piece := by
    by_contra none
    rw [namedPair, pairOf_none none] at here
    cases here
  obtain ⟨key, rest, rfl, plain⟩ := cut_at pair
  have remains : Escaped rest := escaped_behind escaped
  rw [namedPair, pairOf_cut plain, Option.filter_some] at here
  rw [keptNamed, keptPair_cut plain, Option.filter_some]
  split at here
  · next named =>
    cases here
    have count : (key ++ 61 :: rest).count 61 = rest.count 61 + 1 := by
      rw [List.count_append, List.count_eq_zero_of_not_mem plain, List.count_cons_self, Nat.zero_add]
    rw [if_pos named, count, Nat.add_eq_right, List.count_eq_zero]
    constructor
    · intro same another
      have equal := congrArg List.length (Prod.mk.inj (Option.some.inj same)).2
      exact absurd equal (Nat.ne_of_lt (kept_shorter remains another))
    · intro alone
      rw [rtakeWhile_plain alone]
  · cases here

theorem mem_escaped {pieces : List Bytes} (escaped : Escaped ([38].intercalate pieces))
    {piece : Bytes} (inside : piece ∈ pieces) : Escaped piece := by
  induction pieces with
  | nil => cases inside
  | cons first rest ih =>
      cases rest with
      | nil =>
          rw [List.mem_singleton.mp inside]
          rwa [List.intercalate_singleton] at escaped
      | cons next rest =>
          rw [join_cons] at escaped
          rcases List.mem_cons.mp inside with rfl | there
          · exact escaped_before escaped (by decide)
          · exact ih (escaped_behind escaped) there

/-- A body whose escapes are whole is read as the form data it is exactly when the last piece
of every name holds one `=`: the loop takes every other `=` for the start of the value. -/
theorem parsePost_reads_form {body : Bytes} (escaped : Escaped body) (clean : 0 ∉ body)
    (fits : 1 ≤ body.length ∧ body.length ≤ 4095) :
    (∃ result, parsePost (some body) ∅ = some result ∧ result.postValues = formValues body) ↔
      LastPlain body := by
  have reads := parsePost_keeps escaped clean fits
  have same : (∃ result, parsePost (some body) ∅ = some result ∧
      result.postValues = formValues body) ↔
        ∀ key, lastValue ((body.splitOn 38).filterMap namedPair) key =
          lastValue ((body.splitOn 38).filterMap keptNamed) key := by
    rw [reads]
    constructor
    · rintro ⟨result, found, equal⟩ key
      cases found
      have values := congrArg (fun values : StringMap => values[key]?) equal
      simp only [formValues, insertAll_lookup] at values
      simpa using values.symm
    · intro values
      refine ⟨_, rfl, Std.ExtTreeMap.ext_getElem? fun key => ?_⟩
      rw [formValues, insertAll_lookup, insertAll_lookup, values key]
  have joined : Escaped ([38].intercalate (body.splitOn 38)) := by
    rw [List.intercalate_splitOn]
    exact escaped
  rw [same, same_values same_names]
  constructor
  · intro agree before piece after name value cut here last
    have inside : piece ∈ body.splitOn 38 := by simp [cut]
    exact (same_pair (mem_escaped joined inside) here).mp
      (agree before piece after name value cut here last)
  · intro plain before piece after name value cut here last
    have inside : piece ∈ body.splitOn 38 := by simp [cut]
    exact (same_pair (mem_escaped joined inside) here).mpr
      (plain before piece after name value cut here last)

theorem escaped_escape {high low : UInt8} {rest : Bytes}
    (digits : isXDigit high = true ∧ isXDigit low = true ∧ hexByte high low ≠ 0)
    (escaped : Escaped rest) : Escaped (37 :: high :: low :: rest) := by
  rintro before after cut
  have plain : ∀ c, isXDigit c = true → c ≠ 37 := by
    rintro c digit rfl
    cases digit
  rcases before with _ | ⟨x, _ | ⟨y, _ | ⟨z, before⟩⟩⟩
  · cases cut
    exact ⟨high, low, rest, rfl, digits⟩
  · cases cut
    exact absurd rfl (plain 37 digits.1)
  · cases cut
    exact absurd rfl (plain 37 digits.2.1)
  · cases cut
    exact escaped before after rfl

theorem escaped_clear {text : Bytes} (plain : 37 ∉ text) : Escaped text := by
  rintro before after rfl
  exact absurd (List.mem_append_right _ List.mem_cons_self) plain

/-- Of `a=b=c` the loop keeps the value `c`. -/
theorem parsePost_second_equals :
    ¬ ∀ body : Bytes, Escaped body → 0 ∉ body → 1 ≤ body.length ∧ body.length ≤ 4095 →
      ∃ result, parsePost (some body) ∅ = some result ∧ result.postValues = formValues body := by
  intro reads
  have escaped : Escaped (bytes "a=b=c") := escaped_clear (by decide)
  obtain ⟨result, found, equal⟩ := reads (bytes "a=b=c") escaped (by decide) (by decide)
  rw [parsePost_keeps escaped (by decide) (by decide)] at found
  cases found
  have values := congrArg (fun values : StringMap => values[bytes "a"]?) equal
  simp only [formValues, insertAll_lookup] at values
  revert values
  rw [Std.ExtTreeMap.getElem?_empty]
  decide

theorem parsePost_reads_form_sample :
    (∃ result, parsePost (some (bytes "%41=b=c&A=d")) ∅ = some result ∧
      result.postValues = formValues (bytes "%41=b=c&A=d")) ↔ LastPlain (bytes "%41=b=c&A=d") := by
  refine parsePost_reads_form ?_ (by decide) (by decide)
  have rest : Escaped (bytes "=b=c&A=d") := escaped_clear (by decide)
  exact @escaped_escape 52 49 _ (by decide) rest

end OClock.PostForms
