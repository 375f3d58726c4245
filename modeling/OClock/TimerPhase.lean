import Mathlib.Data.Real.Basic
import OClock.TimerSchedule

/-!
When a timer fires, in time and not in ticks. The ticks come at instants that are at least one
sleep apart; a service is started at an instant of its own, somewhere before the next tick.
-/

namespace OClock.TimerPhase
open TimerTable TimerSchedule

/-- The thread sleeps for a tick between two passes, or longer. -/
def Paced (instants : ℕ → ℝ) : Prop := ∀ k, instants k + millisPerTick ≤ instants (k + 1)

/-- The service that `call` starts at instant `start` is left alone from then on and sees its next
tick at `first`: no tick triggers it before its interval is over. -/
def NeverEarly (timerTick : TimerTick) (call : Call) (ref : ServiceRef) (interval : Int)
    (start first : ℝ) : Prop :=
  ∀ (after : List Call) (instants : ℕ → ℝ), Scheduled timerTick (call :: after) →
    (∀ event ∈ ownEvents ref (step timerTick call).2 after, event = .tick) →
    Paced instants → instants 0 = first →
    ∀ k count, (firings ref (Machine.run step (step timerTick call).2 after).1)[k]? = some count →
      count ≠ 0 → start + interval ≤ instants k

/-- The call starts the service at `ref`. -/
def Starts (timerTick : TimerTick) (ref : ServiceRef) (call : Call) : Prop :=
  ownEvent ref timerTick call = some .start ∨ ownEvent ref timerTick call = some (.register true)

theorem paced_sum {instants : ℕ → ℝ} (paced : Paced instants) (k : ℕ) :
    instants 0 + 12 * k ≤ instants k := by
  induction k with
  | zero => simp
  | succ k ih =>
      have next := paced k
      simp only [millisPerTick] at next
      push_cast at next ⊢
      linarith

/-- Ticks that come as fast as the thread can make them. -/
theorem fastest_paced (first : ℝ) : Paced fun k => first + 12 * (k : ℝ) := by
  intro k
  simp only [millisPerTick]
  push_cast
  linarith

/-- A division in whole ticks leaves the remainder of the interval out. -/
theorem whole_ticks {interval : Int} (nonnegative : 0 ≤ interval) :
    12 * ((interval / 12).toNat : ℝ) = interval - ((interval % 12 : Int) : ℝ) := by
  have whole : ((interval / 12).toNat : Int) = interval / 12 :=
    Int.toNat_of_nonneg (Int.ediv_nonneg nonnegative (by decide))
  have split := Int.mul_ediv_add_emod interval 12
  have same : 12 * ((interval / 12).toNat : Int) = interval - interval % 12 := by omega
  exact_mod_cast congrArg (Int.cast (R := ℝ)) same

theorem due_late {ticks : ℕ} {periodic : Bool} {k : ℕ}
    (due : Countdown.Due (1 + ticks) periodic (k + 1)) : ticks ≤ k := by
  cases periodic with
  | false =>
      have same : k + 1 = 1 + ticks := due
      omega
  | true =>
      have divides : 1 + ticks ∣ k + 1 := due
      have bound := Nat.le_of_dvd (Nat.succ_pos k) divides
      omega

/-! ### A start, and the ticks after it -/

theorem start_loads {timerTick : TimerTick} (valid : WellFormed timerTick) {call : Call}
    {ref : ServiceRef} (starts : Starts timerTick ref call) {interval : Int} {periodic : Bool}
    {state : Own} (holds : Holds timerTick ref interval periodic state) :
    WellFormed (step timerTick call).2 ∧ ∃ registered,
      Holds (step timerTick call).2 ref interval periodic ⟨registered, ticksFor interval⟩ := by
  have noTick : ∀ order, call = .tick order → Iterates timerTick order := by
    rintro order rfl
    rcases starts with tick | tick <;> cases tick
  have moved := (own_step valid call noTick holds).2
  refine ⟨step_wellformed valid call noTick, ?_⟩
  rcases starts with started | registers
  · rw [started] at moved
    exact ⟨_, moved⟩
  · rw [registers] at moved
    exact ⟨_, moved⟩

theorem starts_scheduled {timerTick : TimerTick} {call : Call} {ref : ServiceRef}
    (starts : Starts timerTick ref call) {after : List Call}
    (later : Scheduled (step timerTick call).2 after) : Scheduled timerTick (call :: after) := by
  cases call with
  | tick other => rcases starts with tick | tick <;> cases tick
  | register target start => exact later
  | start cookie => exact later
  | unregister cookie => exact later

theorem ticks_alone (ref : ServiceRef) (timerTick : TimerTick) (order : List TimerTickId) (n : ℕ) :
    ownEvents ref timerTick (List.replicate n (.tick order)) = List.replicate n .tick := by
  induction n generalizing timerTick with
  | zero => rfl
  | succ n ih =>
      rw [List.replicate_succ, ownEvents, ih]
      rfl

theorem ticks_scheduled {timerTick : TimerTick} (valid : WellFormed timerTick)
    {order : List TimerTickId} (iterates : Iterates timerTick order) (n : ℕ) :
    Scheduled timerTick (List.replicate n (.tick order)) := by
  induction n generalizing timerTick with
  | zero => trivial
  | succ n ih =>
      refine ⟨iterates, ih (tick_wellformed valid iterates) ?_⟩
      rw [Iterates, step, tick_table valid iterates]
      exact iterates

/-- The tick that brings a counter just loaded to zero. -/
theorem last_tick_fires {timerTick : TimerTick} (valid : WellFormed timerTick)
    {order : List TimerTickId} (iterates : Iterates timerTick order) {ref : ServiceRef}
    {interval : Int} {periodic registered : Bool} (nonnegative : 0 ≤ interval)
    (holds : Holds timerTick ref interval periodic ⟨registered, ticksFor interval⟩) :
    (firings ref (Machine.run step timerTick
      (List.replicate (1 + (interval / 12).toNat) (.tick order))).1)[(interval / 12).toNat]? =
        some 1 := by
  obtain ⟨fired, _⟩ := own_run timerTick valid _ (ticks_scheduled valid iterates _) holds
  have due : Countdown.Due (ticksFor interval) periodic ((interval / 12).toNat + 1) := by
    rw [ticksFor_nonnegative nonnegative, Nat.add_comm 1]
    cases periodic with
    | false => exact rfl
    | true => exact Nat.dvd_refl _
  have fires := (Countdown.fires_iff_due _ periodic _ (ticksFor_positive interval)).mpr due
  rw [fired, ticks_alone, ownRun_ticks]
  simp [fires]

/-- What a division in whole ticks leaves out has to pass before the first tick comes. -/
theorem never_early_iff {timerTick : TimerTick} (valid : WellFormed timerTick) {call : Call}
    {ref : ServiceRef} (starts : Starts timerTick ref call) {interval : Int} {periodic : Bool}
    {state : Own} (nonnegative : 0 ≤ interval)
    (holds : Holds timerTick ref interval periodic state) (start first : ℝ) :
    NeverEarly timerTick call ref interval start first ↔
      ((interval % millisPerTick : Int) : ℝ) ≤ first - start := by
  obtain ⟨nextValid, registered, loaded⟩ := start_loads valid starts holds
  have whole := whole_ticks nonnegative
  rw [millisPerTick]
  constructor
  · intro never
    let order := (step timerTick call).2.timerTickServices.keys
    have iterates : Iterates (step timerTick call).2 order := .refl order
    have runs := starts_scheduled starts
      (ticks_scheduled nextValid iterates (1 + (interval / 12).toNat))
    have alone : ∀ event ∈ ownEvents ref (step timerTick call).2
        (List.replicate (1 + (interval / 12).toNat) (.tick order)), event = .tick := by
      rw [ticks_alone]
      exact fun event member => List.eq_of_mem_replicate member
    have fired := last_tick_fires nextValid iterates nonnegative loaded
    have late := never _ _ runs alone (fastest_paced first) (by simp) _ 1 fired Nat.one_ne_zero
    linarith
  · intro phase after instants runs alone paced begins k count tick fires
    obtain ⟨_, later⟩ := scheduled_step runs
    obtain ⟨fired, _⟩ := own_run _ nextValid after later loaded
    rw [fired] at tick
    have due := loaded_fires interval periodic registered _ alone k count tick
    by_cases here : Countdown.Due (ticksFor interval) periodic (k + 1)
    · rw [ticksFor_nonnegative nonnegative] at here
      have enough : ((interval / 12).toNat : ℝ) ≤ k := Nat.cast_le.mpr (due_late here)
      have passed := paced_sum paced k
      linarith
    · rw [if_neg here] at due
      exact absurd due fires

/-- In every run, a service that is started is triggered early by no pace of the ticks if and only
if its next tick comes no earlier than the remainder of its interval in whole ticks. -/
theorem started_never_early_iff (objects : ServiceRef → Option (Int × Bool))
    (before : List Call) (scheduled : Scheduled (boot objects) before) (ref : ServiceRef)
    (interval : Int) (periodic : Bool) (constructed : objects ref = some (interval, periodic))
    (nonnegative : 0 ≤ interval) (call : Call)
    (starts : Starts (Machine.run step (boot objects) before).2 ref call) (start first : ℝ) :
    NeverEarly (Machine.run step (boot objects) before).2 call ref interval start first ↔
      ((interval % millisPerTick : Int) : ℝ) ≤ first - start := by
  have valid := run_wellformed (boot objects) before (boot_wellformed objects) scheduled
  obtain ⟨_, holds⟩ := own_run (boot objects) (boot_wellformed objects) before scheduled
    (boot_holds objects constructed)
  exact never_early_iff valid starts nonnegative holds start first

/-- One periodic service of one second, at reference 0. -/
def oneSecond (ref : ServiceRef) : Option (Int × Bool) :=
  if ref = 0 then some (1000, true) else none

theorem one_second_in_time : NeverEarly (boot oneSecond) (.register 0 true) 0 1000 0 4 := by
  have exact := started_never_early_iff oneSecond [] trivial 0 1000 true rfl (by decide)
    (.register 0 true) (Or.inr rfl) 0 4
  apply exact.mpr
  norm_num [millisPerTick]

/-- A second that starts a millisecond before a tick is over after 997 milliseconds. -/
theorem one_second_early : ¬ NeverEarly (boot oneSecond) (.register 0 true) 0 1000 0 1 := by
  rw [never_early_iff (boot_wellformed oneSecond) (Or.inr rfl) (by decide)
    (boot_holds oneSecond rfl)]
  norm_num [millisPerTick]

end OClock.TimerPhase
