import OClock.Text

/-!
What `std::getline` and the extraction operators take from a stream of bytes, in the C locale.
-/

namespace OClock.TextStreams
open Text

def newline : UInt8 := 10

/-- The lines that `std::getline` delivers, one call after the other. -/
def lines : Bytes → List Bytes
  | [] => []
  | c :: rest =>
      if c = newline then [] :: lines rest
      else
        match lines rest with
        | [] => [[c]]
        | line :: more => (c :: line) :: more

/-- `>>` into a string: the next word, and what follows it. -/
def extractWord (text : Bytes) : Option (Bytes × Bytes) :=
  let solid := text.dropWhile isSpace
  if solid = [] then none
  else some (solid.takeWhile fun c => !isSpace c, solid.dropWhile fun c => !isSpace c)

/-- `>>` into three strings. -/
def extractThree (text : Bytes) : Option (Bytes × Bytes × Bytes) :=
  (extractWord text).bind fun first =>
    (extractWord first.2).bind fun second =>
      (extractWord second.2).map fun third => (first.1, second.1, third.1)

/-- `ULLONG_MAX` -/
def unsignedLongLongMax : Nat := 18446744073709551615

/-- `>>` into an `unsigned long long` in base ten. A number that does not fit fails, and a minus
sign negates in the type of the result. -/
def extractUnsigned (text : Bytes) : Option UInt64 :=
  let signed := readSign (text.dropWhile isSpace)
  let digits := signed.2.takeWhile isDigit
  if digits = [] then none
  else if unsignedLongLongMax < decimalValue digits then none
  else some (if signed.1 then -UInt64.ofNat (decimalValue digits)
    else UInt64.ofNat (decimalValue digits))

/-- The words of a text, with blanks between them. -/
def words (text : Bytes) : List Bytes := (text.splitOnP isSpace).filter fun word => !word.isEmpty

example : lines (bytes "a\n\nb") = [bytes "a", [], bytes "b"] := by decide

example : [extractUnsigned (bytes " 12 kB"), extractUnsigned (bytes "-1"),
    extractUnsigned (bytes "18446744073709551616"), extractUnsigned (bytes "kB")] =
      [some 12, some 18446744073709551615, none, none] := by decide

/-! ### Words -/

theorem words_nil : words [] = [] := rfl

theorem words_blank {c : UInt8} (blank : isSpace c = true) (rest : Bytes) :
    words (c :: rest) = words rest := by
  rw [words, List.splitOnP_cons_eq_if_modifyHead, if_pos blank]
  rfl

theorem words_skip (text : Bytes) : words (text.dropWhile isSpace) = words text := by
  induction text with
  | nil => rfl
  | cons c rest ih =>
      by_cases blank : isSpace c = true
      · rw [List.dropWhile_cons_of_pos blank, words_blank blank, ih]
      · rw [List.dropWhile_cons_of_neg blank]

/-- A word that starts a text goes on up to the next blank. -/
theorem words_solid {c : UInt8} (solid : isSpace c = false) (rest : Bytes) :
    words (c :: rest) = (c :: rest.takeWhile fun c => !isSpace c) ::
      words (rest.dropWhile fun c => !isSpace c) := by
  have split : ∀ text : Bytes, text.splitOnP isSpace =
      (text.takeWhile fun c => !isSpace c) ::
        ((text.dropWhile fun c => !isSpace c).splitOnP isSpace).tail := by
    intro text
    induction text with
    | nil => rfl
    | cons c rest ih =>
        cases blank : isSpace c with
        | true => simp [List.splitOnP_cons_eq_if_modifyHead, blank]
        | false =>
            rw [List.splitOnP_cons_eq_if_modifyHead, blank, ih]
            simp [blank]
  have tail : ∀ text : Bytes, words (text.dropWhile fun c => !isSpace c) =
      (((text.dropWhile fun c => !isSpace c).splitOnP isSpace).tail).filter
        fun word => !word.isEmpty := by
    intro text
    rw [words]
    cases left : text.dropWhile fun c => !isSpace c with
    | nil => rfl
    | cons c rest =>
        have blank : isSpace c = true := by
          have stops := List.head?_dropWhile_not (fun c => !isSpace c) text
          simpa [left] using stops
        simp [List.splitOnP_cons_eq_if_modifyHead, blank]
  rw [tail, words, split]
  simp [solid]

/-- Extracting takes the words one after the other. -/
theorem words_extract (text : Bytes) :
    words text = match extractWord text with
      | none => []
      | some (word, rest) => word :: words rest := by
  rw [← words_skip, extractWord]
  cases left : text.dropWhile isSpace with
  | nil => rfl
  | cons c rest =>
      have solid : isSpace c = false := by
        have stops := List.head?_dropWhile_not isSpace text
        simpa [left] using stops
      simp [words_solid solid, solid]

theorem extractThree_iff (text first second third : Bytes) :
    extractThree text = some (first, second, third) ↔
      ∃ more, words text = first :: second :: third :: more := by
  rw [extractThree, words_extract text]
  cases extractWord text with
  | none => simp
  | some word =>
      rw [Option.bind_some]
      dsimp only
      rw [words_extract word.2]
      cases extractWord word.2 with
      | none => simp
      | some next =>
          rw [Option.bind_some]
          dsimp only
          rw [words_extract next.2]
          cases extractWord next.2 with
          | none => simp
          | some last => simp

end OClock.TextStreams
