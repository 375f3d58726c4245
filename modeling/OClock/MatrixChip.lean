import OClock.SelectChain

/-!
The chip of the LED matrix as far as its memory is concerned. A transaction begins with
three bits; after 101 come seven bits of an address, the highest first, and then groups
of four bits for that address and the ones behind it, the lowest first.
-/

namespace OClock.MatrixChip
open SelectChain

inductive Phase where
  | id (bits : List Bool)
  | address (bits : List Bool)
  | word (address : Nat) (bits : List Bool)
  | other

structure Chip where
  phase : Phase
  ram : Nat → BitVec 4

def number (bits : List Bool) : Nat := bits.foldl (fun value bit => 2 * value + bit.toNat) 0

/-- A group of bits as it is stored. -/
def nibble (bits : List Bool) : BitVec 4 := BitVec.ofNat 4 (number bits.reverse)

def sample (bit : Bool) (chip : Chip) : Chip :=
  match chip.phase with
  | .id bits =>
      let bits := bits ++ [bit]
      if bits.length < 3 then { chip with phase := .id bits }
      else if bits = [true, false, true] then { chip with phase := .address [] }
      else { chip with phase := .other }
  | .address bits =>
      let bits := bits ++ [bit]
      if bits.length < 7 then { chip with phase := .address bits }
      else { chip with phase := .word (number bits) [] }
  | .word address bits =>
      let bits := bits ++ [bit]
      if bits.length < 4 then { chip with phase := .word address bits }
      else
        { phase := .word (address + 1) []
          ram := Function.update chip.ram address (nibble bits) }
  | .other => chip

def chipKind : Kind Chip where
  start chip := { chip with phase := .id [] }
  sample := sample

/-! ### Parts of a transaction -/

theorem sample_word (ram : Nat → BitVec 4) (address : Nat) (a b c d : Bool) :
    sampledBits chipKind ⟨.word address [], ram⟩ [a, b, c, d] =
      ⟨.word (address + 1) [], Function.update ram address (nibble [a, b, c, d])⟩ := rfl

/-- The start of a transaction that writes to the memory. -/
theorem sample_header (ram : Nat → BitVec 4) (a b c d e f g : Bool) :
    sampledBits chipKind ⟨.id [], ram⟩ [true, false, true, a, b, c, d, e, f, g] =
      ⟨.word (number [a, b, c, d, e, f, g]) [], ram⟩ := rfl

/-- The bits of a transaction up to the first word. -/
def seen : Phase → Nat
  | .id bits => bits.length
  | .address bits => 3 + bits.length
  | .word _ bits => 10 + bits.length
  | .other => 0

theorem sample_seen (bit : Bool) (chip : Chip) (early : seen chip.phase < 13) :
    (sample bit chip).ram = chip.ram ∧ seen (sample bit chip).phase ≤ seen chip.phase + 1 := by
  obtain ⟨phase, ram⟩ := chip
  cases phase with
  | id bits =>
      simp only [sample, List.length_append, List.length_singleton]
      split
      · exact ⟨rfl, by simp [seen]⟩
      · split
        · refine ⟨rfl, ?_⟩
          simp only [seen, List.length_nil]
          omega
        · exact ⟨rfl, by simp [seen]⟩
  | address bits =>
      simp only [sample, List.length_append, List.length_singleton]
      split
      · refine ⟨rfl, ?_⟩
        simp only [seen, List.length_append, List.length_singleton]
        omega
      · refine ⟨rfl, ?_⟩
        simp only [seen, List.length_nil]
        omega
  | word address bits =>
      have room : bits.length + 1 < 4 := by
        simp only [seen] at early
        omega
      simp only [sample, List.length_append, List.length_singleton, room, if_true]
      refine ⟨trivial, ?_⟩
      simp only [seen, List.length_append, List.length_singleton]
      omega
  | other => exact ⟨rfl, by simp [sample, seen]⟩

/-- Before it changes the memory, a chip has seen an address and a word. -/
theorem sample_short (chip : Chip) {bits : List Bool}
    (short : seen chip.phase + bits.length ≤ 13) :
    (sampledBits chipKind chip bits).ram = chip.ram := by
  induction bits generalizing chip with
  | nil => rfl
  | cons bit rest ih =>
      rw [List.length_cons] at short
      obtain ⟨ram, phase⟩ := sample_seen bit chip (by omega)
      exact (ih (sample bit chip) (by omega)).trans ram

/-- The memory changes with the last bit of a word only. -/
theorem sample_word_part (ram : Nat → BitVec 4) (address : Nat) (a b c d : Bool)
    {before : List Bool} (part : before <+: [a, b, c, d]) :
    (sampledBits chipKind ⟨.word address [], ram⟩ before).ram = ram ∨
      (sampledBits chipKind ⟨.word address [], ram⟩ before).ram =
        Function.update ram address (nibble [a, b, c, d]) := by
  by_cases short : before.length ≤ 3
  · exact .inl (sample_short _ (by simp only [seen, List.length_nil]; omega))
  · have whole := part.eq_of_length_le (by simp only [List.length_cons, List.length_nil]; omega)
    rw [whole]
    exact .inr rfl

/-- A transaction that begins otherwise leaves the memory alone. -/
theorem sample_other (ram : Nat → BitVec 4) (bits : List Bool) :
    sampledBits chipKind ⟨.other, ram⟩ bits = ⟨.other, ram⟩ := by
  induction bits with
  | nil => rfl
  | cons bit rest ih => exact ih

/-- A transaction of commands, at every moment. -/
theorem sample_command_part (ram : Nat → BitVec 4) {bits before : List Bool}
    (part : before <+: [true, false, false] ++ bits) :
    (sampledBits chipKind ⟨.id [], ram⟩ before).ram = ram := by
  by_cases short : before.length ≤ 3
  · exact sample_short _ (by simp only [seen, List.length_nil]; omega)
  · have long : [true, false, false].length ≤ before.length := by
      simp only [List.length_cons, List.length_nil]
      omega
    obtain ⟨rest, rfl⟩ := List.prefix_of_prefix_length_le (List.prefix_append _ bits) part long
    exact congrArg Chip.ram (sample_other ram rest)

end OClock.MatrixChip
