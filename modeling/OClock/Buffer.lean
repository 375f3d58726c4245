import Mathlib.Data.List.Basic
import Mathlib.Tactic.Linarith

/-!
Byte arrays as C code uses them: accesses that are out of bounds and strings
without a terminator have no result. A buffer that is filled from its start holds
what was written so far, and leftovers of earlier use behind it.
-/

namespace OClock.Buffer

def peek (buffer : List UInt8) (index : Nat) : Option UInt8 := buffer[index]?

def poke (buffer : List UInt8) (index : Nat) (byte : UInt8) : Option (List UInt8) :=
  if index < buffer.length then some (buffer.set index byte) else none

/-- The bytes from `start` up to the terminator. -/
def cString (buffer : List UInt8) (start : Nat) : Option (List UInt8) :=
  let text := (buffer.drop start).takeWhile (· != 0)
  if start + text.length < buffer.length then some text else none

theorem poke_length {buffer after : List UInt8} {index : Nat} {byte : UInt8}
    (poked : poke buffer index byte = some after) : after.length = buffer.length := by
  unfold poke at poked
  split at poked
  · cases poked
    exact List.length_set
  · cases poked

theorem poke_at (before after : List UInt8) (old byte : UInt8) :
    poke (before ++ old :: after) before.length byte = some (before ++ byte :: after) := by
  simp [poke]

theorem cString_at (before text after : List UInt8) (clean : 0 ∉ text) :
    cString (before ++ (text ++ 0 :: after)) before.length = some text := by
  have taken : (text ++ 0 :: after).takeWhile (· != 0) = text := by
    rw [List.takeWhile_append_of_pos]
    · simp
    · intro byte member
      have different : byte ≠ 0 := fun same => clean (same ▸ member)
      simpa using different
  simp [cString, taken]

/-- Up to a terminator behind its start there is a string. -/
theorem cString_some {buffer : List UInt8} {start stop : Nat} (before : start ≤ stop)
    (terminated : buffer[stop]? = some 0) : ∃ text, cString buffer start = some text := by
  have inside : (0 : UInt8) ∈ buffer.drop start := by
    apply @List.mem_of_getElem? _ _ (stop - start)
    rw [List.getElem?_drop, Nat.add_sub_cancel' before, terminated]
  obtain ⟨text, rest, cut, clean⟩ := List.eq_append_cons_of_mem inside
  have whole : buffer.take start ++ (text ++ 0 :: rest) = buffer := by
    rw [← cut, List.take_append_drop]
  have place : (buffer.take start).length = start := by
    have length := (List.getElem?_eq_some_iff.mp terminated).1
    rw [List.length_take]
    omega
  have found := cString_at (buffer.take start) text rest clean
  rw [whole, place] at found
  exact ⟨text, found⟩

/-- The buffer holds `written` from its start on. -/
def Holds (buffer written : List UInt8) : Prop := written <+: buffer

theorem holds_nil (buffer : List UInt8) : Holds buffer [] := List.nil_prefix

/-- Writing at the end of what was written. -/
theorem holds_poke {buffer written : List UInt8} (holds : Holds buffer written)
    (room : written.length < buffer.length) (byte : UInt8) :
    ∃ after, poke buffer written.length byte = some after ∧ Holds after (written ++ [byte]) := by
  obtain ⟨rest, rfl⟩ := holds
  cases rest with
  | nil => simp at room
  | cons old rest =>
      exact ⟨_, poke_at written rest old byte, rest, by simp⟩

/-- A string that was written with its terminator is read back. -/
theorem holds_cString {buffer before text : List UInt8} (clean : 0 ∉ text)
    (holds : Holds buffer (before ++ text ++ [0])) :
    cString buffer before.length = some text := by
  obtain ⟨rest, rfl⟩ := holds
  have same : before ++ text ++ [0] ++ rest = before ++ (text ++ 0 :: rest) := by simp
  rw [same]
  exact cString_at before text rest clean

theorem holds_prefix {buffer written more : List UInt8} (holds : Holds buffer (written ++ more)) :
    Holds buffer written := (List.prefix_append written more).trans holds

end OClock.Buffer
