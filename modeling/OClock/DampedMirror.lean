import Mathlib.Tactic.Linarith
import OClock.LabelledRun

/-!
A switch mirrored through a queue. Every change of the switch is put into the queue; the
mirror takes the changes out in order and tells them, but after it told `true` a damper
keeps it from telling `true` again for `period` ticks. A `false` is told only where `true`
was told last.
-/

namespace OClock.DampedMirror
open LabelledRun

structure Mirror where
  current : Bool
  pending : List Bool
  /-- What the mirror told last. -/
  shown : Bool
  /-- Whether the damper lets the next `true` pass. -/
  armed : Bool
  left : Nat

def Mirror.start : Mirror := ⟨false, [], false, true, 0⟩

inductive Label where
  | silent
  | tick
  | told (value : Bool)
  deriving DecidableEq

inductive Move (period : Nat) : Mirror → Label → Mirror → Prop
  | silent (mirror : Mirror) : Move period mirror .silent mirror
  | change (mirror : Mirror) : Move period mirror .silent
      { mirror with
        current := !mirror.current
        pending := mirror.pending ++ [!mirror.current] }
  | tick (mirror : Mirror) : Move period mirror .tick
      { mirror with left := mirror.left - 1, armed := mirror.armed || mirror.left == 1 }
  | off {mirror : Mirror} {rest : List Bool} (next : mirror.pending = false :: rest)
      (shown : mirror.shown = true) : Move period mirror (.told false)
      { mirror with pending := rest, shown := false }
  | skipOff {mirror : Mirror} {rest : List Bool} (next : mirror.pending = false :: rest)
      (hidden : mirror.shown = false) : Move period mirror .silent { mirror with pending := rest }
  | on {mirror : Mirror} {rest : List Bool} (next : mirror.pending = true :: rest)
      (armed : mirror.armed = true) : Move period mirror (.told true)
      { mirror with pending := rest, shown := true, armed := false, left := period }
  | skipOn {mirror : Mirror} {rest : List Bool} (next : mirror.pending = true :: rest)
      (damped : mirror.armed = false) : Move period mirror .silent { mirror with pending := rest }

/-! The changes in the queue lead from the one taken last to the switch as it is. -/

def Follows (last : Bool) : List Bool → Bool → Prop
  | [], current => last = current
  | next :: rest, current => next = !last ∧ Follows next rest current

theorem follows_concat {last current : Bool} {pending : List Bool}
    (follows : Follows last pending current) : Follows last (pending ++ [!current]) (!current) := by
  induction pending generalizing last with
  | nil => exact ⟨congrArg _ (Eq.symm follows), rfl⟩
  | cons next rest ih => exact ⟨follows.1, ih follows.2⟩

/-- `true` was told last only if it was also taken last. -/
def Sound (mirror : Mirror) : Prop :=
  ∃ last, Follows last mirror.pending mirror.current ∧ (mirror.shown = true → last = true)

theorem start_sound : Sound Mirror.start := ⟨false, rfl, fun told => by cases told⟩

theorem move_sound {period : Nat} {mirror next : Mirror} {label : Label}
    (move : Move period mirror label next) (sound : Sound mirror) : Sound next := by
  obtain ⟨last, follows, shown⟩ := sound
  cases move with
  | silent => exact ⟨last, follows, shown⟩
  | change => exact ⟨last, follows_concat follows, shown⟩
  | tick => exact ⟨last, follows, shown⟩
  | off taken =>
      rw [taken] at follows
      exact ⟨false, follows.2, nofun⟩
  | skipOff taken hidden =>
      rw [taken] at follows
      exact ⟨false, follows.2, fun told => absurd (hidden.symm.trans told) Bool.false_ne_true⟩
  | on taken =>
      rw [taken] at follows
      exact ⟨true, follows.2, fun _ => rfl⟩
  | skipOn taken =>
      rw [taken] at follows
      exact ⟨true, follows.2, fun _ => rfl⟩

theorem run_sound {period : Nat} {labels : List Label} {mirror : Mirror}
    (run : Run (Move period) Mirror.start labels mirror) : Sound mirror :=
  run.invariant (fun _ mirror => Sound mirror) start_sound
    fun _ _ _ _ _ move sound => move_sound move sound

/-- A mirror that is about to tell `true` does not show it. -/
theorem hidden_before_on {mirror : Mirror} {rest : List Bool} (sound : Sound mirror)
    (next : mirror.pending = true :: rest) : mirror.shown = false := by
  obtain ⟨last, follows, shown⟩ := sound
  rw [next] at follows
  cases told : mirror.shown with
  | false => rfl
  | true =>
      have same := follows.1
      rw [shown told] at same
      cases same

/-! What is told alternates. -/

def toldBy : Label → Option Bool
  | .told value => some value
  | _ => none

def told (labels : List Label) : List Bool := labels.filterMap toldBy

/-- `true`, `false`, `true` and so on. -/
def alternating (n : Nat) : List Bool := (List.range n).map fun k => k % 2 == 0

theorem alternating_succ (n : Nat) : alternating (n + 1) = alternating n ++ [n % 2 == 0] := by
  simp [alternating, List.range_succ]

theorem told_concat (labels : List Label) (label : Label) :
    told (labels ++ [label]) = told labels ++ (toldBy label).toList := by
  rw [told, List.filterMap_append]
  cases value : toldBy label <;> simp [told, value]

/-- One more told value, where the mirror did not show it. -/
theorem told_next {labels : List Label} {shown value : Bool}
    (alternates : told labels = alternating (told labels).length)
    (flag : shown = ((told labels).length % 2 == 1)) (turns : value = !shown) :
    told (labels ++ [.told value]) = alternating (told (labels ++ [.told value])).length ∧
      value = ((told (labels ++ [.told value])).length % 2 == 1) := by
  have one : told (labels ++ [.told value]) = told labels ++ [value] := told_concat labels _
  have parity : value = ((told labels).length % 2 == 0) := by
    rw [turns, flag]
    rcases Nat.mod_two_eq_zero_or_one (told labels).length with even | odd
    · simp [even]
    · simp [odd]
  rw [one, List.length_append, List.length_singleton, alternating_succ, ← alternates, ← parity]
  refine ⟨rfl, ?_⟩
  rw [parity]
  rcases Nat.mod_two_eq_zero_or_one (told labels).length with even | odd
  · rw [Nat.add_mod, even]
    rfl
  · rw [Nat.add_mod, odd]
    rfl

theorem run_alternates {period : Nat} {labels : List Label} {mirror : Mirror}
    (run : Run (Move period) Mirror.start labels mirror) :
    told labels = alternating (told labels).length ∧
      mirror.shown = ((told labels).length % 2 == 1) := by
  refine run.invariant (fun labels mirror => told labels = alternating (told labels).length ∧
    mirror.shown = ((told labels).length % 2 == 1)) ⟨rfl, rfl⟩ ?_
  rintro labels mirror label next run move ⟨alternates, flag⟩
  have quiet : told (labels ++ [.silent]) = told labels ∧ told (labels ++ [.tick]) = told labels := by
    constructor <;> rw [told_concat] <;> exact List.append_nil _
  cases move with
  | silent => exact quiet.1.symm ▸ ⟨alternates, flag⟩
  | change => exact quiet.1.symm ▸ ⟨alternates, flag⟩
  | tick => exact quiet.2.symm ▸ ⟨alternates, flag⟩
  | skipOff => exact quiet.1.symm ▸ ⟨alternates, flag⟩
  | skipOn => exact quiet.1.symm ▸ ⟨alternates, flag⟩
  | off _ shown => exact told_next alternates flag (by rw [shown]; rfl)
  | on taken => exact told_next alternates flag (by rw [hidden_before_on (run_sound run) taken]; rfl)

/-- Once everything is taken and the switch is off, nothing is left told but `false`. -/
theorem run_settles {period : Nat} {labels : List Label} {mirror : Mirror}
    (run : Run (Move period) Mirror.start labels mirror) (taken : mirror.pending = [])
    (off : mirror.current = false) : ∀ value ∈ (told labels).getLast?, value = false := by
  obtain ⟨alternates, flag⟩ := run_alternates run
  obtain ⟨last, follows, shown⟩ := run_sound run
  rw [taken] at follows
  have hidden : mirror.shown = false := by
    cases told : mirror.shown with
    | false => rfl
    | true =>
        have same : true = false := (shown told).symm.trans (Eq.trans follows off)
        cases same
  intro value last
  rw [hidden] at flag
  rw [alternates] at last
  cases n : (DampedMirror.told labels).length with
  | zero => simp [n, alternating] at last
  | succ k =>
      rw [n, alternating_succ, List.getLast?_concat] at last
      cases last
      rw [n] at flag
      have even : (k + 1) % 2 ≠ 1 := by simpa using flag.symm
      have odd : k % 2 ≠ 0 := by omega
      simpa using odd

/-! The values `true` are told at least a period apart. -/

/-- The number of ticks so far, and the ticks at which `true` was told. -/
def note (clock : Nat × List Nat) : Label → Nat × List Nat
  | .silent => clock
  | .tick => (clock.1 + 1, clock.2)
  | .told value => (clock.1, if value then clock.2 ++ [clock.1] else clock.2)

def clock (labels : List Label) : Nat × List Nat := labels.foldl note (0, [])

theorem clock_concat (labels : List Label) (label : Label) :
    clock (labels ++ [label]) = note (clock labels) label := by
  rw [clock, List.foldl_append]
  rfl

theorem clock_length (labels : List Label) :
    (clock labels).2.length = (told labels).count true := by
  induction labels using List.reverseRecOn with
  | nil => rfl
  | append_singleton labels label ih =>
      rw [clock_concat, told_concat, List.count_append, ← ih]
      cases label with
      | told value => cases value <;> simp [note, toldBy]
      | _ => rfl

structure Spaced (period : Nat) (clock : Nat × List Nat) (mirror : Mirror) : Prop where
  resting : mirror.armed = true → mirror.left = 0
  running : ∀ time ∈ clock.2, time + period ≤ clock.1 + mirror.left
  apart : clock.2.Pairwise fun earlier later => earlier + period ≤ later

theorem run_spaced {period : Nat} {labels : List Label} {mirror : Mirror}
    (run : Run (Move period) Mirror.start labels mirror) : Spaced period (clock labels) mirror := by
  refine run.invariant (fun labels mirror => Spaced period (clock labels) mirror)
    ⟨fun _ => rfl, List.forall_mem_nil _, List.Pairwise.nil⟩ ?_
  rintro labels mirror label next _ move ⟨resting, running, apart⟩
  rw [clock_concat]
  cases move with
  | silent => exact ⟨resting, running, apart⟩
  | change => exact ⟨resting, running, apart⟩
  | skipOff => exact ⟨resting, running, apart⟩
  | skipOn => exact ⟨resting, running, apart⟩
  | off => exact ⟨resting, running, apart⟩
  | tick =>
      refine ⟨fun armed => ?_, fun time member => ?_, apart⟩
      -- The damper is armed when its last tick has passed, and not before.
      · rcases Bool.or_eq_true .. ▸ armed with before | last
        · exact Nat.sub_eq_zero_of_le (resting before ▸ Nat.zero_le 1)
        · exact Nat.sub_eq_zero_of_le (Nat.le_of_eq (eq_of_beq last))
      · have := running time member
        change time + period ≤ (clock labels).1 + 1 + (mirror.left - 1)
        omega
  | on _ armed =>
      -- The damper had run out, so every earlier `true` is a period behind.
      have rested := resting armed
      refine ⟨nofun, fun time member => ?_, ?_⟩
      · rcases List.mem_append.mp member with early | now
        · have := running time early
          exact Nat.le_trans this (by rw [rested]; exact Nat.le_add_right _ _)
        · rw [List.mem_singleton.mp now]
          exact Nat.le_refl _
      · refine List.pairwise_append.mpr ⟨apart, List.pairwise_singleton .., ?_⟩
        intro time early now member
        have := running time early
        rw [rested] at this
        rw [List.mem_singleton.mp member]
        exact this

end OClock.DampedMirror
