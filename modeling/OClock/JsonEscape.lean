import OClock.StatusDocument

/-!
What `jsonEscape` writes is one string literal that reads back as the bytes it was written for,
whatever stands next to what.
-/

namespace OClock.JsonEscape
open Text JsonGrammar JsonDecoder StatusReport StatusDocument

/-- Whether the byte after a text is escaped by a backslash that is not escaped itself. -/
def escaping (before : Bool) (text : Bytes) : Bool :=
  text.foldl (fun escaped c => c == 92 && !escaped) before

/-- Whether every quote is escaped. -/
def quotesEscaped : Bool → Bytes → Bool
  | _, [] => true
  | escaped, c :: rest => (escaped || c != 34) && quotesEscaped (c == 92 && !escaped) rest

theorem escaping_append (before : Bool) (first second : Bytes) :
    escaping before (first ++ second) = escaping (escaping before first) second :=
  List.foldl_append

theorem quotesEscaped_append (before : Bool) (first second : Bytes) :
    quotesEscaped before (first ++ second) =
      (quotesEscaped before first && quotesEscaped (escaping before first) second) := by
  induction first generalizing before with
  | nil => rfl
  | cons c rest ih =>
      rw [List.cons_append, quotesEscaped, quotesEscaped, ih, Bool.and_assoc]
      rfl

theorem quote_escaped {before : Bool} {text : Bytes} (all : quotesEscaped before text = true) :
    ∀ front back, text = front ++ 34 :: back → escaping before front = true := by
  induction text generalizing before with
  | nil =>
      intro front back cut
      exact absurd cut.symm (List.append_ne_nil_of_right_ne_nil _ (List.cons_ne_nil _ _))
  | cons c rest ih =>
      rw [quotesEscaped, Bool.and_eq_true] at all
      intro front back cut
      cases front with
      | nil =>
          have quote : c = 34 := (List.cons.inj cut).1
          have here := all.1
          rwa [quote, bne_self_eq_false, Bool.or_false] at here
      | cons first front =>
          obtain ⟨same, behind⟩ := List.cons.inj cut
          rw [same] at all
          exact ih all.2 front back behind

/-- After each escaped byte the reader of the escapes is where it was before it. -/
theorem jsonEscapeByte_sound (byte : UInt8) :
    let text := jsonEscapeByte byte
    quotesEscaped false text = true ∧ escaping false text = false ∧ ∀ c ∈ text, 32 ≤ c := by
  have all : ∀ n < 256,
      let text := jsonEscapeByte (UInt8.ofNat n)
      (quotesEscaped false text && !escaping false text && text.all fun c => 32 ≤ c) = true := by
    decide +kernel
  have here := all byte.toNat byte.toNat_lt
  rw [UInt8.ofNat_toNat, Bool.and_eq_true, Bool.and_eq_true, Bool.not_eq_true',
    List.all_eq_true] at here
  obtain ⟨⟨quotes, resumed⟩, printable⟩ := here
  exact ⟨quotes, resumed, fun c inside => of_decide_eq_true (printable c inside)⟩

theorem jsonEscape_escaped (value : Bytes) :
    quotesEscaped false (jsonEscape value) = true ∧ escaping false (jsonEscape value) = false := by
  induction value with
  | nil => exact ⟨rfl, rfl⟩
  | cons c rest ih =>
      obtain ⟨quotes, resumed, _⟩ := jsonEscapeByte_sound c
      have whole : jsonEscape (c :: rest) = jsonEscapeByte c ++ jsonEscape rest :=
        List.flatMap_cons
      rw [whole, quotesEscaped_append, escaping_append, quotes, resumed]
      exact ih

theorem jsonEscape_printable (value : Bytes) : ∀ c ∈ jsonEscape value, 32 ≤ c := by
  intro c inside
  obtain ⟨byte, _, written⟩ := List.mem_flatMap.mp inside
  exact (jsonEscapeByte_sound byte).2.2 c written

/-- A text denotes one string at most. -/
theorem stringText_unique {value other text : Bytes} (left : StringText value text)
    (right : StringText other text) : value = other := by
  have first := readString_append left []
  have second := readString_append right []
  rw [first] at second
  exact (Prod.mk.inj (Option.some.inj second)).1

theorem jsonEscape_injective {value other : Bytes} (same : jsonEscape value = jsonEscape other) :
    value = other := by
  have text := jsonEscape_text value
  rw [same] at text
  exact stringText_unique text (jsonEscape_text other)

/-- The literal of `s` is a string of the grammar, it is read as `s` and as nothing else; what
stands between its quotes has no control byte and no quote that is not escaped, and is written
for `s` alone. -/
theorem jsonEscape_lossless (s : Bytes) :
    let literal := bytes "\"" ++ jsonEscape s ++ bytes "\""
    Denotes (.value (.str s)) literal ∧ decode literal = some (.str s) ∧
      (∀ value, DenotesText value literal → value = .str s) ∧
      (∀ c ∈ jsonEscape s, 32 ≤ c) ∧
      (∀ front back, jsonEscape s = front ++ 34 :: back → escaping false front = true) ∧
      ∀ t, jsonEscape s = jsonEscape t → s = t := by
  intro literal
  have denotes : Denotes (.value (.str s)) literal := appendJsonString_denotes s
  have none : Space [] := List.forall_mem_nil _
  have whole : DenotesText (.str s) literal := by
    have text := DenotesText.text none denotes none
    rwa [List.append_nil] at text
  refine ⟨denotes, decode_denoted whole, fun value read => denotes_unique read whole,
    jsonEscape_printable s, ?_, fun t same => jsonEscape_injective same⟩
  exact quote_escaped (jsonEscape_escaped s).1

end OClock.JsonEscape
