import OClock.LabelledRun

/-!
A flag that a periodic timer raises, and a caller that may call only after taking the flag
down. The timer counts a tick down in one step and raises the flag in another; the caller
takes the flag in one step and calls in another. Whatever happens in between, the ticks pay
for the calls: a period buys one.
-/

namespace OClock.PeriodicDamper
open LabelledRun

structure Damper where
  /-- The tick has begun and is not counted yet. -/
  ahead : Bool
  /-- The period is over and the flag not raised yet. -/
  due : Bool
  flag : Bool
  /-- The caller has taken the flag and not called yet. -/
  held : Bool
  /-- What is left of the period; nothing while the timer does not run. -/
  left : Nat

/-- The flag stands before the first period. -/
def Damper.new : Damper := ⟨false, false, true, false, 0⟩

inductive Label where
  | silent
  | tick
  | taken
  | called
  deriving DecidableEq

inductive Move (period : Nat) : Damper → Label → Damper → Prop
  | silent (damper : Damper) : Move period damper .silent damper
  | start {damper : Damper} (stopped : damper.left = 0) :
      Move period damper .silent { damper with left := period }
  | idle {damper : Damper} (stopped : damper.left = 0) : Move period damper .tick damper
  | tick {damper : Damper} (runs : 0 < damper.left) (counted : damper.ahead = false)
      (settled : damper.due = false) : Move period damper .tick { damper with ahead := true }
  | count {damper : Damper} (ahead : damper.ahead = true) (more : 1 < damper.left) :
      Move period damper .silent { damper with ahead := false, left := damper.left - 1 }
  | expire {damper : Damper} (ahead : damper.ahead = true) (last : damper.left = 1) :
      Move period damper .silent { damper with ahead := false, due := true, left := period }
  | raise {damper : Damper} (due : damper.due = true) :
      Move period damper .silent { damper with due := false, flag := true }
  | take {damper : Damper} (up : damper.flag = true) (free : damper.held = false) :
      Move period damper .taken { damper with flag := false, held := true }
  | call {damper : Damper} (held : damper.held = true) :
      Move period damper .called { damper with held := false }

structure Sound (period : Nat) (damper : Damper) : Prop where
  within : damper.left ≤ period
  runs : damper.ahead = true → 0 < damper.left
  fresh : damper.due = true → damper.left = period ∧ damper.ahead = false

theorem new_sound (period : Nat) : Sound period .new := ⟨Nat.zero_le _, nofun, nofun⟩

theorem move_sound {period : Nat} (positive : 0 < period) {damper next : Damper} {label : Label}
    (move : Move period damper label next) (sound : Sound period damper) : Sound period next := by
  cases move with
  | silent => exact sound
  | start stopped =>
      refine ⟨Nat.le_refl _, fun _ => positive, fun due => ⟨rfl, ?_⟩⟩
      exact (sound.fresh due).2
  | idle => exact sound
  | tick runs counted settled =>
      refine ⟨sound.within, fun _ => runs, fun due => ?_⟩
      exact absurd (settled.symm.trans due) Bool.false_ne_true
  | count ahead more =>
      refine ⟨Nat.le_trans (Nat.sub_le _ _) sound.within, nofun, fun due => ?_⟩
      exact absurd ((sound.fresh due).2.symm.trans ahead) Bool.false_ne_true
  | expire => exact ⟨Nat.le_refl _, nofun, fun _ => ⟨rfl, rfl⟩⟩
  | raise => exact ⟨sound.within, sound.runs, nofun⟩
  | take => exact ⟨sound.within, sound.runs, sound.fresh⟩
  | call => exact ⟨sound.within, sound.runs, sound.fresh⟩

theorem run_sound {period : Nat} (positive : 0 < period) {labels : List Label} {damper : Damper}
    (run : Run (Move period) .new labels damper) : Sound period damper :=
  run.invariant (fun _ damper => Sound period damper) (new_sound period)
    fun _ _ _ _ _ move sound => move_sound positive move sound

/-! What the ticks so far have paid and nobody has taken yet. -/

def credit (period : Nat) (damper : Damper) : Nat :=
  period * (damper.flag.toNat + damper.due.toNat) + (period - damper.left) + damper.ahead.toNat

theorem credit_bound {period : Nat} {damper : Damper} (sound : Sound period damper) :
    credit period damper ≤ period * damper.flag.toNat + period := by
  obtain ⟨within, runs, fresh⟩ := sound
  unfold credit
  cases due : damper.due with
  | true =>
      obtain ⟨left, counted⟩ := fresh due
      simp [left, counted, Nat.mul_add]
  | false =>
      cases ahead : damper.ahead with
      | true =>
          have some := runs ahead
          simp only [Bool.toNat_true, Bool.toNat_false, Nat.add_zero]
          omega
      | false => simp

theorem move_credit {period : Nat} {damper next : Damper} {label : Label}
    (move : Move period damper label next) (sound : Sound period damper) :
    credit period next + period * [label].count .taken ≤
      credit period damper + [label].count .tick := by
  have within := sound.within
  cases move with
  | silent => exact Nat.le_refl _
  | start stopped => simp [credit, stopped]
  | idle => simp [credit]
  | tick runs counted settled => simp [credit, counted]
  | count ahead more =>
      simp [credit, ahead]
      omega
  | expire ahead last =>
      have settled : damper.due = false := by
        cases due : damper.due with
        | true => exact absurd ((sound.fresh due).2.symm.trans ahead) Bool.false_ne_true
        | false => rfl
      simp [credit, ahead, last, settled, Nat.mul_add]
      omega
  | raise due =>
      cases up : damper.flag with
      | false => simp [credit, due, up]
      | true =>
          -- The flag stood already: this period is lost.
          simp [credit, due, up]
          omega
  | take up free =>
      simp [credit, up, Nat.mul_add]
      omega
  | call => simp [credit]

theorem run_credit {period : Nat} (positive : 0 < period) {labels : List Label}
    {start damper : Damper} (sound : Sound period start)
    (run : Run (Move period) start labels damper) : Sound period damper ∧
      credit period damper + period * labels.count .taken ≤
        credit period start + labels.count .tick := by
  refine run.invariant (fun labels damper => Sound period damper ∧
    credit period damper + period * labels.count .taken ≤
      credit period start + labels.count .tick) ⟨sound, Nat.le_refl _⟩ ?_
  rintro labels damper label next _ move ⟨fine, paid⟩
  refine ⟨move_sound positive move fine, ?_⟩
  have more := move_credit move fine
  rw [List.count_append, List.count_append, Nat.mul_add]
  omega

theorem run_calls {period : Nat} {labels : List Label} {start damper : Damper}
    (run : Run (Move period) start labels damper) :
    labels.count .called + damper.held.toNat = labels.count .taken + start.held.toNat := by
  refine run.invariant (fun labels damper =>
    labels.count .called + damper.held.toNat = labels.count .taken + start.held.toNat) rfl ?_
  intro labels damper label next _ move same
  rw [List.count_append, List.count_append]
  cases move with
  | take up free => simp [free] at same ⊢; omega
  | call held => simp [held] at same ⊢; omega
  | _ => simpa using same

/-- Of the takes in a row, all but the first are paid by ticks since that first. -/
theorem taken_spaced {period : Nat} (positive : 0 < period) {before between after : List Label}
    {damper : Damper}
    (run : Run (Move period) .new (before ++ .taken :: (between ++ .taken :: after)) damper) :
    period * between.count .taken ≤ between.count .tick := by
  obtain ⟨left, right, earlier, move, rest⟩ := run.around
  obtain ⟨middle, last, first, again, -⟩ := rest.around
  have sound := move_sound positive move (run_sound positive earlier)
  have down : right.flag = false := by
    cases move
    rfl
  have most := credit_bound sound
  obtain ⟨-, paid⟩ := run_credit positive sound (first.step again)
  rw [down, Bool.toNat_false, Nat.mul_zero, Nat.zero_add] at most
  rw [List.count_append, List.count_append, List.count_singleton_self, Nat.mul_add] at paid
  simp only [List.count_singleton, beq_iff_eq, reduceCtorEq, if_false] at paid
  omega

/-- A call may come long after its take, so that one more period may be spent before it. -/
theorem called_spaced {period : Nat} (positive : 0 < period) {before between after : List Label}
    {damper : Damper}
    (run : Run (Move period) .new (before ++ .called :: (between ++ .called :: after)) damper) :
    period * between.count .called ≤ between.count .tick + period := by
  obtain ⟨left, right, earlier, move, rest⟩ := run.around
  obtain ⟨middle, last, first, again, -⟩ := rest.around
  have sound := move_sound positive move (run_sound positive earlier)
  have most := credit_bound sound
  have flag := Nat.mul_le_mul_left period (Bool.toNat_le right.flag)
  obtain ⟨-, paid⟩ := run_credit positive sound (first.step again)
  have calls := run_calls (first.step again)
  have empty : right.held = false ∧ last.held = false := by
    constructor
    · cases move
      rfl
    · cases again
      rfl
  rw [empty.1, empty.2, Bool.toNat_false, Nat.add_zero, Nat.add_zero, List.count_append,
    List.count_singleton_self] at calls
  rw [← calls, List.count_append, Nat.mul_add] at paid
  simp only [List.count_singleton, beq_iff_eq, reduceCtorEq, if_false] at paid
  omega

end OClock.PeriodicDamper
