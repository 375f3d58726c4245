import Mathlib.Data.List.DropRight
import OClock.LabelledRun
import OClock.Text

/-!
The main loop of `oclock-wifi-watchdog.sh`. A round is one probe of the gateway and what the
script does about it. The bounds are stated over the history of the rounds alone; the four
variables of the script are shown to say what that history says.
-/

namespace OClock.WifiWatchdog
open Text LabelledRun

/-- Seconds between probes. -/
def probeInterval : Nat := 30

def failSoft : Nat := 4
def failHard : Nat := 8

/-- Seconds between two hard recoveries. -/
def cooldown : Int := 600

/-- Whether the gateway answered, and what `date +%s` says where the script asks for it. -/
structure Probe where
  reachable : Bool
  now : Int

inductive Action where
  | log (message : Bytes)
  | softRecover
  | hardRecover
  deriving DecidableEq

structure Watchdog where
  fails : Nat
  armed : Bool
  softDone : Bool
  lastHard : Int
  wasDown : Bool

def start : Watchdog := ⟨0, false, false, 0, false⟩

structure Round where
  probe : Probe
  actions : List Action

def reached (watchdog : Watchdog) : Watchdog × List Action :=
  let armedNow := if watchdog.armed then []
    else [Action.log (bytes "armed: gateway reachable, watchdog is now active")]
  let recovered := if watchdog.wasDown then
      [Action.log (bytes ("RECOVERED: gateway reachable again after " ++
        toString (watchdog.fails * probeInterval) ++ "s"))]
    else []
  ({ watchdog with fails := 0, armed := true, softDone := false, wasDown := false },
    armedNow ++ recovered)

/-- The recovery of an armed watchdog, once the failed probe is counted. -/
def recover (watchdog : Watchdog) (now : Int) : Watchdog × List Action :=
  if failHard ≤ watchdog.fails ∧ cooldown ≤ now - watchdog.lastHard then
    ({ watchdog with lastHard := now, fails := 0, softDone := false }, [.hardRecover])
  else if failSoft ≤ watchdog.fails ∧ watchdog.softDone = false then
    ({ watchdog with softDone := true }, [.softRecover])
  else (watchdog, [])

def missed (watchdog : Watchdog) (now : Int) : Watchdog × List Action :=
  let unreachable := if watchdog.wasDown then []
    else [Action.log (bytes "gateway unreachable (probe 1)")]
  let counted := { watchdog with fails := watchdog.fails + 1, wasDown := true }
  if counted.armed then
    let recovered := recover counted now
    (recovered.1, unreachable ++ recovered.2)
  else (counted, unreachable)

def turn (watchdog : Watchdog) (probe : Probe) : Watchdog × List Action :=
  if probe.reachable then reached watchdog else missed watchdog probe.now

def rounds (watchdog : Watchdog) : List Probe → List Round
  | [] => []
  | probe :: later =>
      ⟨probe, (turn watchdog probe).2⟩ :: rounds (turn watchdog probe).1 later

/-- What the script has done after the probes. -/
def history (probes : List Probe) : List Round := rounds start probes

/-! ### What is wanted -/

def Round.soft (round : Round) : Bool := round.actions.contains .softRecover

def Round.hard (round : Round) : Bool := round.actions.contains .hardRecover

def Round.recovers (round : Round) : Prop := round.soft = true ∨ round.hard = true

/-- The rounds that failed since the last success or hard recovery. -/
def stretch (rounds : List Round) : List Round :=
  rounds.rtakeWhile fun round => !round.probe.reachable && !round.hard

/-- The round is the one that follows `before`. -/
def At (rounds before : List Round) (round : Round) : Prop := before ++ [round] <+: rounds

/-- One soft recovery, in the fourth of the rounds. -/
def SoftAtFourth (rounds : List Round) : Prop :=
  ∀ i round, rounds[i]? = some round →
    round.actions.count .softRecover = if i = 3 then 1 else 0

structure Conservative (rounds : List Round) : Prop where
  /-- No recovery before the first success. -/
  armed : ∀ before round, At rounds before round → round.recovers →
    ∃ earlier ∈ before, earlier.probe.reachable = true
  /-- A recovery comes with a failed probe. -/
  failed : ∀ before round, At rounds before round → round.recovers → round.probe.reachable = false
  /-- Two hard recoveries in a row are a cooldown apart. -/
  spaced : ∀ before first between second, At rounds (before ++ first :: between) second →
    first.hard = true → second.hard = true → (∀ round ∈ between, round.hard = false) →
    600 ≤ second.probe.now - first.probe.now
  /-- A hard recovery follows eight failures, and one soft recovery, at the fourth of them. -/
  hard : ∀ before round, At rounds before round → round.hard = true →
    8 ≤ (stretch before).length + 1 ∧ SoftAtFourth (stretch before ++ [round])
  /-- A soft recovery comes with the fourth failure. -/
  soft : ∀ before round, At rounds before round → round.soft = true →
    (stretch before).length + 1 = 4
  /-- Up to the third failure nothing is done. -/
  short : ∀ before round, At rounds before round → (stretch before).length + 1 < 4 →
    ¬ round.recovers

/-! ### One round -/

def Step (watchdog : Watchdog) (round : Round) (next : Watchdog) : Prop :=
  next = (turn watchdog round.probe).1 ∧ round.actions = (turn watchdog round.probe).2

/-- What a round can do. -/
inductive Moves (watchdog : Watchdog) (round : Round) : Watchdog → Prop
  | reached (reachable : round.probe.reachable = true)
      (silent : round.actions.count .softRecover = 0 ∧ round.hard = false) :
      Moves watchdog round ⟨0, true, false, watchdog.lastHard, false⟩
  | hard (failed : round.probe.reachable = false) (armed : watchdog.armed = true)
      (enough : 8 ≤ watchdog.fails + 1) (cool : 600 ≤ round.probe.now - watchdog.lastHard)
      (acts : round.actions.count .softRecover = 0 ∧ round.hard = true) :
      Moves watchdog round ⟨0, true, false, round.probe.now, true⟩
  | soft (failed : round.probe.reachable = false) (armed : watchdog.armed = true)
      (enough : 4 ≤ watchdog.fails + 1) (first : watchdog.softDone = false)
      (acts : round.actions.count .softRecover = 1 ∧ round.hard = false) :
      Moves watchdog round ⟨watchdog.fails + 1, true, true, watchdog.lastHard, true⟩
  | idle (failed : round.probe.reachable = false)
      (rest : watchdog.armed = true → 4 ≤ watchdog.fails + 1 → watchdog.softDone = true)
      (silent : round.actions.count .softRecover = 0 ∧ round.hard = false) :
      Moves watchdog round
        ⟨watchdog.fails + 1, watchdog.armed, watchdog.softDone, watchdog.lastHard, true⟩

/-- What is logged does not count. -/
theorem round_logs {round : Round} {logs rest : List Action} (acts : round.actions = logs ++ rest)
    (only : ∀ action ∈ logs, ∃ message, action = .log message) :
    round.actions.count .softRecover = rest.count .softRecover ∧
      round.hard = rest.contains .hardRecover := by
  have none : Action.softRecover ∉ logs ∧ Action.hardRecover ∉ logs := by
    constructor
    · intro inside
      obtain ⟨_, same⟩ := only _ inside
      cases same
    · intro inside
      obtain ⟨_, same⟩ := only _ inside
      cases same
  constructor
  · rw [acts, List.count_append, List.count_eq_zero_of_not_mem none.1, Nat.zero_add]
  · simp [Round.hard, acts, none.2]

theorem if_logs {condition : Prop} [Decidable condition] {first second : List Action}
    (left : ∀ action ∈ first, ∃ message, action = .log message)
    (right : ∀ action ∈ second, ∃ message, action = .log message) :
    ∀ action ∈ (if condition then first else second), ∃ message, action = .log message := by
  split
  · exact left
  · exact right

theorem one_log (message : Bytes) :
    ∀ action ∈ [Action.log message], ∃ message, action = .log message :=
  List.forall_mem_singleton.mpr ⟨message, rfl⟩

theorem reached_moves {watchdog : Watchdog} {round : Round}
    (reachable : round.probe.reachable = true) (acts : round.actions = (reached watchdog).2) :
    Moves watchdog round (reached watchdog).1 := by
  rw [reached, ← List.append_nil (_ ++ _)] at acts
  refine .reached reachable (round_logs acts (List.forall_mem_append.mpr ⟨?_, ?_⟩))
  · exact if_logs (List.forall_mem_nil _) (one_log _)
  · exact if_logs (one_log _) (List.forall_mem_nil _)

theorem missed_moves {watchdog : Watchdog} {round : Round}
    (failed : round.probe.reachable = false)
    (acts : round.actions = (missed watchdog round.probe.now).2) :
    Moves watchdog round (missed watchdog round.probe.now).1 := by
  obtain ⟨fails, armed, softDone, lastHard, wasDown⟩ := watchdog
  have logs := @if_logs (wasDown = true) _ _ _ (List.forall_mem_nil _)
    (one_log (bytes "gateway unreachable (probe 1)"))
  cases armed with
  | false =>
      rw [missed, ← List.append_nil (ite _ _ _)] at acts
      exact .idle failed (fun wrong => by cases wrong) (round_logs acts logs)
  | true =>
      simp only [missed, if_true, recover] at acts ⊢
      -- The hard recovery is tried first; where it is not due yet the soft one may be.
      by_cases hard : failHard ≤ fails + 1 ∧ cooldown ≤ round.probe.now - lastHard
      · rw [if_pos hard] at acts ⊢
        exact .hard failed rfl hard.1 hard.2 (round_logs acts logs)
      · rw [if_neg hard] at acts ⊢
        by_cases soft : failSoft ≤ fails + 1 ∧ softDone = false
        · rw [if_pos soft] at acts ⊢
          exact .soft failed rfl soft.1 soft.2 (round_logs acts logs)
        · rw [if_neg soft] at acts ⊢
          refine .idle failed (fun _ enough => ?_) (round_logs acts logs)
          by_contra fresh
          exact soft ⟨enough, Bool.not_eq_true _ ▸ fresh⟩

theorem step_moves {watchdog next : Watchdog} {round : Round} (step : Step watchdog round next) :
    Moves watchdog round next := by
  obtain ⟨rfl, acts⟩ := step
  cases reachable : round.probe.reachable with
  | true =>
      rw [turn, if_pos reachable] at acts ⊢
      exact reached_moves reachable acts
  | false =>
      rw [turn, if_neg (by simp [reachable])] at acts ⊢
      exact missed_moves reachable acts

/-! ### The variables and the history -/

theorem stretch_reached {rounds : List Round} {round : Round}
    (ends : round.probe.reachable = true ∨ round.hard = true) : stretch (rounds ++ [round]) = [] := by
  apply List.rtakeWhile_concat_neg _ _ _
  rcases ends with reachable | hard
  · simp [reachable]
  · simp [hard]

theorem stretch_failed {rounds : List Round} {round : Round}
    (failed : round.probe.reachable = false) (mild : round.hard = false) :
    stretch (rounds ++ [round]) = stretch rounds ++ [round] :=
  List.rtakeWhile_concat_pos _ _ _ (by simp [failed, mild])

/-- What the variables say of the rounds. -/
structure Says (rounds : List Round) (watchdog : Watchdog) : Prop where
  armed : watchdog.armed = true → ∃ round ∈ rounds, round.probe.reachable = true
  fails : watchdog.fails = (stretch rounds).length
  softDone : watchdog.softDone = true ↔ watchdog.armed = true ∧ 4 ≤ watchdog.fails
  softs : watchdog.armed = true → SoftAtFourth (stretch rounds)
  lastHard : ∀ before first between, rounds = before ++ first :: between → first.hard = true →
    (∀ round ∈ between, round.hard = false) → watchdog.lastHard = first.probe.now

theorem says_start : Says [] start where
  armed wrong := by cases wrong
  fails := rfl
  softDone := by simp [start]
  softs wrong := by cases wrong
  lastHard before first between cut :=
    absurd cut.symm (List.append_ne_nil_of_right_ne_nil _ (List.cons_ne_nil _ _))

theorem soft_concat {rounds : List Round} {round : Round} (fourth : SoftAtFourth rounds)
    (last : round.actions.count .softRecover = if rounds.length = 3 then 1 else 0) :
    SoftAtFourth (rounds ++ [round]) := by
  intro i other found
  rcases Nat.lt_trichotomy i rounds.length with inside | rfl | beyond
  · rw [List.getElem?_append_left inside] at found
    exact fourth i other found
  · rw [List.getElem?_concat_length] at found
    cases found
    exact last
  · have outside : (rounds ++ [round]).length ≤ i := by
      simp only [List.length_append, List.length_singleton]
      omega
    rw [List.getElem?_eq_none outside] at found
    cases found

theorem lastHard_mild {rounds : List Round} {round : Round} {watchdog : Watchdog}
    (held : Says rounds watchdog) (mild : round.hard = false) {before between : List Round}
    {first : Round} (cut : rounds ++ [round] = before ++ first :: between) (hard : first.hard = true)
    (quiet : ∀ round ∈ between, round.hard = false) : watchdog.lastHard = first.probe.now := by
  rcases concat_cut cut with ⟨_, rfl, _⟩ | ⟨earlier, rfl, whole⟩
  · rw [mild] at hard
    cases hard
  · exact held.lastHard before first earlier whole hard fun other inside =>
      quiet other (List.mem_append_left _ inside)

/-- A soft recovery that is still to come belongs to the fourth failure. -/
theorem Says.third {rounds : List Round} {watchdog : Watchdog} (held : Says rounds watchdog)
    (armed : watchdog.armed = true) (enough : 4 ≤ watchdog.fails + 1)
    (first : watchdog.softDone = false) : watchdog.fails = 3 := by
  have fewer : ¬ 4 ≤ watchdog.fails := by
    intro many
    rw [held.softDone.mpr ⟨armed, many⟩] at first
    cases first
  omega

theorem says_keeps {rounds : List Round} {round : Round} {watchdog next : Watchdog}
    (held : Says rounds watchdog) (moves : Moves watchdog round next) :
    Says (rounds ++ [round]) next := by
  have still : watchdog.armed = true → ∃ round' ∈ rounds ++ [round],
      round'.probe.reachable = true := by
    intro armed
    obtain ⟨earlier, inside, reachable⟩ := held.armed armed
    exact ⟨earlier, List.mem_append_left _ inside, reachable⟩
  have fails := held.fails
  cases moves with
  | reached reachable silent =>
      -- A success starts a new stretch, and so does a hard recovery.
      have empty := @stretch_reached rounds round (.inl reachable)
      refine ⟨fun _ => ⟨round, by simp, reachable⟩, by rw [empty]; rfl, by simp, fun _ => ?_,
        fun _ _ _ => lastHard_mild held silent.2⟩
      rw [empty]
      exact fun _ _ found => by cases found
  | hard failed armed enough cool acts =>
      have empty := @stretch_reached rounds round (.inr acts.2)
      refine ⟨fun _ => still armed, by rw [empty]; rfl, by simp, fun _ => ?_, ?_⟩
      · rw [empty]
        exact fun _ _ found => by cases found
      · intro before first between cut _ quiet
        rcases concat_cut cut with ⟨_, rfl, _⟩ | ⟨earlier, rfl, _⟩
        · rfl
        · have mild := quiet round (by simp)
          rw [acts.2] at mild
          cases mild
  | soft failed armed enough first acts =>
      have more := @stretch_failed rounds round failed acts.2
      have third := held.third armed enough first
      refine ⟨fun _ => still armed, ?_, by simpa using enough, fun _ => ?_,
        fun _ _ _ => lastHard_mild held acts.2⟩
      · rw [more, List.length_append, ← fails]
        rfl
      · rw [more]
        exact soft_concat (held.softs armed) (by rw [← fails, if_pos third, acts.1])
  | idle failed rest silent =>
      have more := @stretch_failed rounds round failed silent.2
      refine ⟨still, ?_, ?_, fun armed => ?_, fun _ _ _ => lastHard_mild held silent.2⟩
      · rw [more, List.length_append, ← fails]
        rfl
      · constructor
        · intro done
          obtain ⟨armed, many⟩ := held.softDone.mp done
          exact ⟨armed, Nat.le_succ_of_le many⟩
        · exact fun both => rest both.1 both.2
      -- At the fourth failure the soft recovery would still have been to come.
      · have other : watchdog.fails ≠ 3 := fun third => by
          have done := rest armed (by omega)
          have many := (held.softDone.mp done).2
          omega
        rw [more]
        exact soft_concat (held.softs armed) (by rw [← fails, if_neg other, silent.1])

/-! ### Every history -/

theorem rounds_run (watchdog : Watchdog) (probes : List Probe) :
    ∃ last, Run Step watchdog (rounds watchdog probes) last := by
  induction probes generalizing watchdog with
  | nil => exact ⟨watchdog, .start⟩
  | cons probe later ih =>
      obtain ⟨last, run⟩ := ih (turn watchdog probe).1
      have first : Step watchdog ⟨probe, (turn watchdog probe).2⟩ (turn watchdog probe).1 :=
        ⟨rfl, rfl⟩
      exact ⟨last, (Run.one first).append run⟩

/-- What a round of a history finds, and what it can do. -/
theorem round_finds {probes : List Probe} {before : List Round} {round : Round}
    (here : At (history probes) before round) :
    ∃ watchdog next, Says before watchdog ∧ Moves watchdog round next := by
  obtain ⟨later, whole⟩ := here
  obtain ⟨last, run⟩ := rounds_run start probes
  rw [history] at whole
  rw [← whole, List.append_assoc] at run
  obtain ⟨left, right, earlier, step, _⟩ := run.around
  refine ⟨left, right, ?_, step_moves step⟩
  exact earlier.invariant Says says_start fun _ _ _ _ _ moves held => says_keeps held (step_moves moves)

theorem soft_count {round : Round} :
    round.soft = true ↔ round.actions.count .softRecover ≠ 0 := by
  rw [Round.soft, List.contains_iff_mem, ← List.count_pos_iff, Nat.pos_iff_ne_zero]

/-- What a round that recovers found. -/
theorem recovery_finds {probes : List Probe} {before : List Round} {round : Round}
    (here : At (history probes) before round) (recovers : round.recovers) :
    ∃ watchdog, Says before watchdog ∧ watchdog.armed = true ∧ round.probe.reachable = false ∧
      ((round.hard = true ∧ round.actions.count .softRecover = 0 ∧ 8 ≤ watchdog.fails + 1 ∧
          600 ≤ round.probe.now - watchdog.lastHard) ∨
        (round.hard = false ∧ round.actions.count .softRecover = 1 ∧ watchdog.fails = 3)) := by
  obtain ⟨watchdog, next, held, moves⟩ := round_finds here
  have silence : ¬ (round.actions.count .softRecover = 0 ∧ round.hard = false) := by
    rintro ⟨count, mild⟩
    rcases recovers with soft | hard
    · exact soft_count.mp soft count
    · rw [mild] at hard
      cases hard
  cases moves with
  | reached _ silent => exact absurd silent silence
  | hard failed armed enough cool acts =>
      exact ⟨watchdog, held, armed, failed, .inl ⟨acts.2, acts.1, enough, cool⟩⟩
  | soft failed armed enough first acts =>
      have third := held.third armed enough first
      exact ⟨watchdog, held, armed, failed, .inr ⟨acts.2, acts.1, third⟩⟩
  | idle _ _ silent => exact absurd silent silence

theorem history_conservative (probes : List Probe) : Conservative (history probes) where
  armed before round here recovers := by
    obtain ⟨watchdog, held, armed, _⟩ := recovery_finds here recovers
    exact held.armed armed
  failed before round here recovers := by
    obtain ⟨_, _, _, failed, _⟩ := recovery_finds here recovers
    exact failed
  spaced before first between second here left right quiet := by
    obtain ⟨watchdog, held, _, _, ⟨_, _, _, cool⟩ | ⟨mild, _⟩⟩ := recovery_finds here (.inr right)
    · rwa [held.lastHard before first between rfl left quiet] at cool
    · rw [mild] at right
      cases right
  hard before round here hard := by
    obtain ⟨watchdog, held, armed, _, ⟨_, none, enough, _⟩ | ⟨mild, _⟩⟩ :=
      recovery_finds here (.inr hard)
    · have many := held.fails
      refine ⟨many ▸ enough, soft_concat (held.softs armed) ?_⟩
      rw [none, if_neg (by omega)]
    · rw [mild] at hard
      cases hard
  soft before round here soft := by
    obtain ⟨watchdog, held, _, _, ⟨_, none, _⟩ | ⟨_, _, third⟩⟩ := recovery_finds here (.inl soft)
    · exact absurd none (soft_count.mp soft)
    · rw [← held.fails, third]
  short before round here few recovers := by
    obtain ⟨watchdog, held, _, _, ⟨_, _, enough, _⟩ | ⟨_, _, third⟩⟩ := recovery_finds here recovers
    · rw [held.fails] at enough
      omega
    · rw [held.fails] at third
      omega

/-- The watchdog is conservative over every sequence of probes and every clock, and up to
every probe of one that does not end. -/
theorem watchdog_conservative :
    (∀ probes : List Probe, Conservative (history probes)) ∧
      ∀ (probes : Nat → Probe) (count : Nat),
        Conservative (history ((List.range count).map probes)) :=
  ⟨history_conservative, fun _ _ => history_conservative _⟩

example : (history (⟨true, 600⟩ :: List.replicate 8 ⟨false, 900⟩)).map (fun round =>
    (round.soft, round.hard)) = [(false, false), (false, false), (false, false), (false, false),
      (true, false), (false, false), (false, false), (false, false), (false, true)] := by decide

end OClock.WifiWatchdog
