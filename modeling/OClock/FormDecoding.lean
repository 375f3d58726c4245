import Mathlib.Data.List.DropRight
import OClock.FormEncoding

/-!
What `application/x-www-form-urlencoded` data means: pieces between `&`, each a name and a
value that its first `=` parts, and of a name that comes several times the last value.
-/

namespace OClock.FormDecoding
open Text FormEncoding

/-- `+` is a space, and an escape the byte of its two digits. -/
def decodeText : Bytes → Bytes
  | 37 :: high :: low :: rest => hexByte high low :: decodeText rest
  | 43 :: rest => 32 :: decodeText rest
  | c :: rest => c :: decodeText rest
  | [] => []

/-- The name and the value of a piece that has a `=`. -/
def pairOf (piece : Bytes) : Option (Bytes × Bytes) :=
  match piece.dropWhile (· != 61) with
  | [] => none
  | _ :: value => some (decodeText (piece.takeWhile (· != 61)), decodeText value)

/-- A piece without a name does not count. -/
def namedPair (piece : Bytes) : Option (Bytes × Bytes) :=
  (pairOf piece).filter fun pair => pair.1 ≠ []

def insertAll (values : StringMap) (pairs : List (Bytes × Bytes)) : StringMap :=
  pairs.foldl (fun values pair => values.insert pair.1 pair.2) values

def formValues (body : Bytes) : StringMap := insertAll ∅ ((body.splitOn 38).filterMap namedPair)

/-- Every `%` starts an escape of a byte that is not NUL. -/
def Escaped (text : Bytes) : Prop :=
  ∀ before after, text = before ++ 37 :: after → ∃ high low rest, after = high :: low :: rest ∧
    isXDigit high = true ∧ isXDigit low = true ∧ hexByte high low ≠ 0

/-! ### Escapes -/

theorem escaped_suffix {before text : Bytes} (escaped : Escaped (before ++ text)) :
    Escaped text := by
  rintro early after rfl
  exact escaped (before ++ early) after (List.append_assoc ..).symm

theorem escaped_behind {text after : Bytes} {c : UInt8} (escaped : Escaped (text ++ c :: after)) :
    Escaped after := @escaped_suffix (text ++ [c]) after (by simpa using escaped)

/-- An escape does not reach over a byte that is no digit. -/
theorem escaped_before {text after : Bytes} {c : UInt8} (escaped : Escaped (text ++ c :: after))
    (stop : isXDigit c = false) : Escaped text := by
  rintro early later rfl
  obtain ⟨high, low, rest, cut, first, second, byte⟩ := escaped early (later ++ c :: after)
    (by simp)
  rcases later with _ | ⟨x, _ | ⟨y, later⟩⟩
  · cases cut
    rw [stop] at first
    cases first
  · cases cut
    rw [stop] at second
    cases second
  · cases cut
    exact ⟨_, _, later, rfl, first, second, byte⟩

theorem escape_digits {high low : UInt8} {rest : Bytes}
    (escaped : Escaped (37 :: high :: low :: rest)) :
    isXDigit high = true ∧ isXDigit low = true ∧ hexByte high low ≠ 0 := by
  obtain ⟨_, _, _, cut, digits⟩ := escaped [] _ rfl
  cases cut
  exact digits

/-- A byte that starts no escape is no `%`. -/
theorem escaped_plain {c : UInt8} {rest : Bytes} (escaped : Escaped (c :: rest))
    (plain : ∀ high low more, c = 37 → rest = high :: low :: more → False) : c ≠ 37 := by
  rintro rfl
  obtain ⟨high, low, more, cut, _⟩ := escaped [] rest rfl
  exact plain high low more rfl cut

/-- Text without separators encodes what it is decoded to. -/
theorem decode_encodes {text : Bytes} (escaped : Escaped text) (pair : 61 ∉ text)
    (piece : 38 ∉ text) : EncodesText (decodeText text) text := by
  fun_induction decodeText text with
  | case1 high low rest ih =>
      obtain ⟨first, second, _⟩ := escape_digits escaped
      have later : Escaped rest := @escaped_suffix [37, high, low] rest escaped
      simp only [List.mem_cons, not_or] at pair piece
      exact .cons (.escaped high low ⟨first, second⟩) (ih later pair.2.2.2 piece.2.2.2)
  | case2 rest ih =>
      have later : Escaped rest := @escaped_suffix [43] rest escaped
      simp only [List.mem_cons, not_or] at pair piece
      exact .cons .plus (ih later pair.2 piece.2)
  | case3 c rest broken other ih =>
      have later : Escaped rest := @escaped_suffix [c] rest escaped
      simp only [List.mem_cons, not_or] at pair piece
      have percent := escaped_plain escaped broken
      exact .cons (.literal c ⟨other, Ne.symm pair.1, Ne.symm piece.1, percent⟩)
        (ih later pair.2 piece.2)
  | case4 => exact .nil

theorem decode_clean {text : Bytes} (escaped : Escaped text) (clean : 0 ∉ text) :
    0 ∉ decodeText text := by
  fun_induction decodeText text with
  | case1 high low rest ih =>
      obtain ⟨_, _, byte⟩ := escape_digits escaped
      have later : Escaped rest := @escaped_suffix [37, high, low] rest escaped
      simp only [List.mem_cons, not_or] at clean ⊢
      exact ⟨Ne.symm byte, ih later clean.2.2.2⟩
  | case2 rest ih =>
      have later : Escaped rest := @escaped_suffix [43] rest escaped
      simp only [List.mem_cons, not_or] at clean ⊢
      exact ⟨by decide, ih later clean.2⟩
  | case3 c rest broken other ih =>
      have later : Escaped rest := @escaped_suffix [c] rest escaped
      simp only [List.mem_cons, not_or] at clean ⊢
      exact ⟨clean.1, ih later clean.2⟩
  | case4 => exact clean

theorem decode_equals {text : Bytes} (escaped : Escaped text) (after : Bytes) :
    decodeText (text ++ 61 :: after) = decodeText text ++ 61 :: decodeText after := by
  fun_induction decodeText text with
  | case1 high low rest ih =>
      have later : Escaped rest := @escaped_suffix [37, high, low] rest escaped
      simp only [List.cons_append, decodeText, ih later]
  | case2 rest ih =>
      have later : Escaped rest := @escaped_suffix [43] rest escaped
      simp only [List.cons_append, decodeText, ih later]
  | case3 c rest broken other ih =>
      have later : Escaped rest := @escaped_suffix [c] rest escaped
      have percent := escaped_plain escaped broken
      have head : ∀ more, decodeText (c :: more) = c :: decodeText more := by
        intro more
        rw [decodeText]
        · exact fun _ _ _ same => absurd same percent
        · exact other
      rw [List.cons_append, head, ih later, List.cons_append]
  | case4 => rfl

/-! ### Separators -/

theorem cut_at {c : UInt8} {text : Bytes} (inside : c ∈ text) :
    ∃ before after, text = before ++ c :: after ∧ c ∉ before :=
  List.eq_append_cons_of_mem inside

theorem before_equals {name : Bytes} (plain : 61 ∉ name) (value : Bytes) :
    (name ++ 61 :: value).takeWhile (· != 61) = name ∧
      (name ++ 61 :: value).dropWhile (· != 61) = 61 :: value := by
  have stays : ∀ c ∈ name, (c != 61) = true := by
    intro c inside
    exact bne_iff_ne.mpr fun same => plain (same ▸ inside)
  constructor
  · rw [List.takeWhile_append_of_pos stays]
    exact List.append_nil _
  · rw [List.dropWhile_append_of_pos stays]
    rfl

theorem pairOf_cut {name : Bytes} (plain : 61 ∉ name) (value : Bytes) :
    pairOf (name ++ 61 :: value) = some (decodeText name, decodeText value) := by
  obtain ⟨taken, dropped⟩ := before_equals plain value
  rw [pairOf, taken, dropped]

theorem without_equals {piece : Bytes} (plain : 61 ∉ piece) :
    piece.dropWhile (· != 61) = [] := by
  rw [List.dropWhile_eq_nil_iff]
  exact fun c inside => bne_iff_ne.mpr fun same => plain (same ▸ inside)

theorem pairOf_none {piece : Bytes} (plain : 61 ∉ piece) : pairOf piece = none := by
  rw [pairOf, without_equals plain]

/-! ### The last value of a name -/

theorem insertAll_lookup (values : StringMap) (pairs : List (Bytes × Bytes)) (key : Bytes) :
    (insertAll values pairs)[key]? = (lastValue pairs key).or values[key]? :=
  OrderedMap.lookup_insert_all pairs values key

theorem insertAll_piece (read : Bytes → Option (Bytes × Bytes)) (values : StringMap)
    (piece : Bytes) (rest : List Bytes) :
    insertAll (insertAll values (read piece).toList) (rest.filterMap read) =
      insertAll values ((piece :: rest).filterMap read) := by
  cases found : read piece with
  | none => rw [List.filterMap_cons_none found, Option.toList_none]; rfl
  | some pair => rw [List.filterMap_cons_some found, Option.toList_some]; rfl

/-- No piece holds the separator. -/
theorem mem_splitOn {c : UInt8} {text piece : Bytes} (inside : piece ∈ text.splitOn c) :
    c ∉ piece := by
  induction text generalizing piece with
  | nil =>
      rw [List.splitOn_nil, List.mem_singleton] at inside
      rw [inside]
      exact List.not_mem_nil
  | cons head rest ih =>
      rw [List.splitOn_cons_eq_if_modifyHead] at inside
      split at inside
      · rcases List.mem_cons.mp inside with rfl | there
        · exact List.not_mem_nil
        · exact ih there
      · next other =>
        cases cut : rest.splitOn c with
        | nil => exact absurd cut (List.splitOn_ne_nil c rest)
        | cons first more =>
            rw [cut] at inside ih
            rcases List.mem_cons.mp inside with rfl | there
            · rw [List.mem_cons, not_or]
              exact ⟨fun same => other (beq_iff_eq.mpr same.symm), ih List.mem_cons_self⟩
            · exact ih (List.mem_cons_of_mem _ there)

variable {read other : Bytes → Option (Bytes × Bytes)}

theorem lastValue_absent {pairs : List (Bytes × Bytes)} {name : Bytes}
    (absent : ∀ pair ∈ pairs, pair.1 ≠ name) : lastValue pairs name = none := by
  rw [lastValue, Option.map_eq_none_iff, List.find?_eq_none]
  intro pair inside
  simpa using absent pair (List.mem_reverse.mp inside)

theorem lastValue_cut {before piece after : _} {name value : Bytes}
    (here : read piece = some (name, value))
    (last : ∀ later ∈ after, (read later).map Prod.fst ≠ some name) :
    lastValue ((before ++ piece :: after).filterMap read) name = some value := by
  have none_later : lastValue (after.filterMap read) name = none := by
    apply lastValue_absent
    intro pair inside same
    obtain ⟨later, there, reads⟩ := List.mem_filterMap.mp inside
    apply last later there
    rw [reads, Option.map_some, same]
  rw [lastValue, Option.map_eq_none_iff] at none_later
  simp [lastValue, List.filterMap_append, here, List.find?_append, none_later]

/-- Of the pieces with a name one is the last. -/
theorem last_piece {pieces : List Bytes} {name : Bytes} (named : ∃ piece ∈ pieces,
    (read piece).map Prod.fst = some name) : ∃ before piece after,
      pieces = before ++ piece :: after ∧ (read piece).map Prod.fst = some name ∧
        ∀ later ∈ after, (read later).map Prod.fst ≠ some name := by
  induction pieces with
  | nil =>
      obtain ⟨piece, inside, _⟩ := named
      cases inside
  | cons head rest ih =>
      by_cases later : ∃ piece ∈ rest, (read piece).map Prod.fst = some name
      · obtain ⟨before, piece, after, rfl, here, last⟩ := ih later
        exact ⟨head :: before, piece, after, rfl, here, last⟩
      · obtain ⟨piece, inside, here⟩ := named
        rcases List.mem_cons.mp inside with rfl | there
        · exact ⟨[], piece, rest, rfl, here, fun other there same => later ⟨other, there, same⟩⟩
        · exact absurd ⟨piece, there, here⟩ later

/-- Two readings of the pieces that find the same names leave the same values exactly when
they agree on the last piece of every name. -/
theorem same_values {pieces : List Bytes}
    (names : ∀ piece, (read piece).map Prod.fst = (other piece).map Prod.fst) :
    (∀ key, lastValue (pieces.filterMap read) key = lastValue (pieces.filterMap other) key) ↔
      ∀ before piece after name value, pieces = before ++ piece :: after →
        read piece = some (name, value) →
        (∀ later ∈ after, (read later).map Prod.fst ≠ some name) →
        other piece = some (name, value) := by
  constructor
  · rintro same before piece after name value rfl here last
    have named := names piece
    rw [here, Option.map_some] at named
    obtain ⟨⟨_, found⟩, there, rfl⟩ := Option.map_eq_some_iff.mp named.symm
    have left := @lastValue_cut read before piece after _ _ here last
    have right := @lastValue_cut other before piece after _ _ there
      fun later inside => names later ▸ last later inside
    rw [same, right] at left
    rw [there, Option.some.inj left]
  · intro agree key
    by_cases named : ∃ piece ∈ pieces, (read piece).map Prod.fst = some key
    · obtain ⟨before, piece, after, rfl, here, last⟩ := last_piece named
      obtain ⟨⟨_, value⟩, reads, rfl⟩ := Option.map_eq_some_iff.mp here
      have reads' := agree before piece after _ value rfl reads last
      rw [lastValue_cut reads last, lastValue_cut reads'
        fun later inside => names later ▸ last later inside]
    · have absent : ∀ reading : Bytes → Option (Bytes × Bytes),
          (∀ piece, (read piece).map Prod.fst = (reading piece).map Prod.fst) →
          lastValue (pieces.filterMap reading) key = none := by
        intro reading alike
        apply lastValue_absent
        rintro ⟨_, value⟩ inside rfl
        obtain ⟨piece, there, reads⟩ := List.mem_filterMap.mp inside
        exact named ⟨piece, there, by rw [alike, reads]; rfl⟩
      rw [absent read fun _ => rfl, absent other names]

end OClock.FormDecoding
