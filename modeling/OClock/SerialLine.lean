import Mathlib.Data.List.Basic
import Mathlib.Logic.Function.Basic

/-!
Synchronous serial lines. A bus is a record of the levels its lines were driven
to, and what a receiver samples is the data line at every rising edge of the clock.
-/

namespace OClock.SerialLine

structure Write (Line : Type) where
  line : Line
  level : Bool
  deriving DecidableEq

variable {Line : Type} [DecidableEq Line]

def drive (levels : Line → Bool) (write : Write Line) : Line → Bool :=
  Function.update levels write.line write.level

def replay (levels : Line → Bool) (writes : List (Write Line)) : Line → Bool :=
  writes.foldl drive levels

def rises (clock : Line) (levels : Line → Bool) (write : Write Line) : Bool :=
  write.line = clock && write.level && !levels clock

/-- The levels of the data line at the rising edges of the clock. -/
def sampled (data clock : Line) : (Line → Bool) → List (Write Line) → List Bool
  | _, [] => []
  | levels, write :: rest =>
      if rises clock levels write then
        levels data :: sampled data clock (drive levels write) rest
      else sampled data clock (drive levels write) rest

/-- A clock pulse of a line that rests low. -/
def pulse (clock : Line) : List (Write Line) := [⟨clock, true⟩, ⟨clock, false⟩]

@[simp] theorem replay_nil (levels : Line → Bool) : replay levels [] = levels := rfl

@[simp] theorem replay_cons (levels : Line → Bool) (write : Write Line)
    (rest : List (Write Line)) :
    replay levels (write :: rest) = replay (drive levels write) rest := rfl

@[simp] theorem replay_append (levels : Line → Bool) (first second : List (Write Line)) :
    replay levels (first ++ second) = replay (replay levels first) second :=
  List.foldl_append

@[simp] theorem sampled_nil (data clock : Line) (levels : Line → Bool) :
    sampled data clock levels [] = [] := rfl

theorem sampled_append (data clock : Line) (levels : Line → Bool)
    (first second : List (Write Line)) :
    sampled data clock levels (first ++ second) =
      sampled data clock levels first ++ sampled data clock (replay levels first) second := by
  induction first generalizing levels with
  | nil => rfl
  | cons write rest ih =>
      simp only [List.cons_append, sampled, replay_cons]
      split
      · rw [ih, List.cons_append]
      · exact ih _

@[simp] theorem drive_same (levels : Line → Bool) (line : Line) (level : Bool) :
    drive levels ⟨line, level⟩ line = level := by
  simp [drive]

@[simp] theorem drive_other {line other : Line} (different : other ≠ line)
    (levels : Line → Bool) (level : Bool) :
    drive levels ⟨line, level⟩ other = levels other := by
  simp [drive, different]

/-- Driving a line to the level it has changes nothing. -/
theorem drive_idle (levels : Line → Bool) (line : Line) :
    drive levels ⟨line, levels line⟩ = levels := Function.update_eq_self line levels

@[simp] theorem drive_drive (levels : Line → Bool) (line : Line) (first second : Bool) :
    drive (drive levels ⟨line, first⟩) ⟨line, second⟩ = drive levels ⟨line, second⟩ := by
  simp [drive]

/-- A line other than the clock does not make a receiver sample. -/
theorem sampled_other {data clock line : Line} (different : line ≠ clock)
    (levels : Line → Bool) (level : Bool) (rest : List (Write Line)) :
    sampled data clock levels (⟨line, level⟩ :: rest) =
      sampled data clock (drive levels ⟨line, level⟩) rest := by
  simp [sampled, rises, different]

/-- Nor does a clock that is driven low. -/
theorem sampled_low (data clock : Line) (levels : Line → Bool) (rest : List (Write Line)) :
    sampled data clock levels (⟨clock, false⟩ :: rest) =
      sampled data clock (drive levels ⟨clock, false⟩) rest := by
  simp [sampled, rises]

theorem replay_pulse {clock : Line} {levels : Line → Bool} (low : levels clock = false) :
    replay levels (pulse clock) = levels := by
  rw [pulse, replay_cons, replay_cons, replay_nil, drive_drive, ← low, drive_idle]

theorem sampled_pulse (data : Line) {clock : Line} {levels : Line → Bool}
    (low : levels clock = false) : sampled data clock levels (pulse clock) = [levels data] := by
  simp [pulse, sampled, rises, low]

/-- Pulses while the data line rests. -/
theorem sampled_pulses (data : Line) {clock : Line} {levels : Line → Bool}
    (low : levels clock = false) (count : Nat) :
    replay levels (List.replicate count (pulse clock)).flatten = levels ∧
      sampled data clock levels (List.replicate count (pulse clock)).flatten =
        List.replicate count (levels data) := by
  induction count with
  | zero => exact ⟨rfl, rfl⟩
  | succ count ih =>
      rw [List.replicate_succ, List.flatten_cons, replay_append, sampled_append,
        replay_pulse low, sampled_pulse data low]
      exact ⟨ih.1, by rw [ih.2]; rfl⟩

/-! ### Bytes -/

/-- The bits of a byte, the highest first. -/
def byteBits (byte : UInt8) : List Bool :=
  [128, 64, 32, 16, 8, 4, 2, 1].map fun bit => byte &&& bit != 0

def bytesBits (bytes : List UInt8) : List Bool := bytes.flatMap byteBits

theorem bytesBits_append (first second : List UInt8) :
    bytesBits (first ++ second) = bytesBits first ++ bytesBits second := List.flatMap_append

theorem zeroes_bits (count : Nat) :
    bytesBits (List.replicate count 0) = List.replicate (count * 8) false := by
  induction count with
  | zero => rfl
  | succ count ih =>
      have zero : byteBits 0 = List.replicate 8 false := by decide
      rw [List.replicate_succ, bytesBits, List.flatMap_cons, ← bytesBits, ih, zero,
        List.replicate_append_replicate]
      congr 1
      omega

end OClock.SerialLine
