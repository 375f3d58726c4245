import Mathlib.Data.List.Count
import Mathlib.Data.List.Nodup
import Mathlib.Logic.Function.Basic
import OClock.Countdown
import OClock.LabelledRun

/-!
A loop that a periodic alarm wakes. Others post jobs to it; a pass handles at most one of them
and then looks at its bells, each of which rings with a period of its own. A bell that rings
again before the loop looked has rung once. The timer visits the bells in any order, between
any two steps of the loop. In the end the loop gives up its object and its bells, one after
another, and jobs that come too late are thrown away.
-/

namespace OClock.TickedLoop
open LabelledRun

variable {Job Bell : Type}

/-- The bells of a pass are looked at in their order. -/
structure Design (Bell : Type) where
  alarm : Bell
  pass : List Bell
  period : Bell → Nat
  positive : ∀ bell, 0 < period bell
  apart : alarm ∉ pass
  distinct : pass.Nodup
  complete : ∀ bell, bell = alarm ∨ bell ∈ pass

def Design.bells (design : Design Bell) : List Bell := design.alarm :: design.pass

theorem mem_bells (design : Design Bell) (bell : Bell) : bell ∈ design.bells :=
  List.mem_cons.mpr (design.complete bell)

theorem bells_nodup (design : Design Bell) : design.bells.Nodup :=
  List.nodup_cons.mpr ⟨design.apart, design.distinct⟩

inductive Place (Bell : Type) where
  | top
  | waiting
  | woken
  | working
  | looking (rest : List Bell)
  | ended
  /-- The object is deleted, and these bells are still to be given up. -/
  | closing (rest : List Bell)
  | gone

/-- A pass holds the lock from the first to the last thing that it does. -/
def Place.locked : Place Bell → Bool
  | .working | .looking _ => true
  | _ => false

/-- The object has not been deleted. -/
def Place.keeps : Place Bell → Bool
  | .closing _ | .gone => false
  | _ => true

/-- The bells that a tick visits. -/
def Design.registered (design : Design Bell) : Place Bell → List Bell
  | .closing rest => rest
  | .gone => []
  | _ => design.bells

theorem registered_keeps (design : Design Bell) {place : Place Bell} (keeps : place.keeps = true)
    (bell : Bell) : bell ∈ design.registered place := by
  cases place with
  | closing _ | gone => cases keeps
  | _ => exact mem_bells design bell

structure State (Job Bell : Type) where
  jobs : List Job
  rung : Bell → Bool
  left : Bell → Nat
  /-- The bells that the tick under way has yet to visit. -/
  unvisited : List Bell
  place : Place Bell

inductive Label (Job Bell : Type) where
  | post (job : Job)
  | tick
  | visit (bell : Bell) (rings missed : Bool)
  | go
  | wake
  | handle (job : Option Job)
  | fast
  | look (bell : Bell) (rung : Bool)
  | leave
  | stop
  | delete
  | unregister (bell : Bell)
  | discard (jobs : List Job)

/-! ### What a history says -/

def Label.posted : Label Job Bell → Option Job
  | .post job => some job
  | _ => none

def Label.handled : Label Job Bell → Option Job
  | .handle job => job
  | _ => none

def Label.discarded : Label Job Bell → List Job
  | .discard jobs => jobs
  | _ => []

def Label.isTick : Label Job Bell → Bool
  | .tick => true
  | _ => false

def Label.isHandle : Label Job Bell → Bool
  | .handle _ => true
  | _ => false

def posted (history : List (Label Job Bell)) : List Job := history.filterMap Label.posted
def handled (history : List (Label Job Bell)) : List Job := history.filterMap Label.handled
def discarded (history : List (Label Job Bell)) : List Job := history.flatMap Label.discarded
def ticks (history : List (Label Job Bell)) : Nat := history.countP Label.isTick
def passes (history : List (Label Job Bell)) : Nat := history.countP Label.isHandle

section

variable {start state next : State Job Bell} {history : List (Label Job Bell)}
  {label : Label Job Bell}

theorem posted_concat : posted (history ++ [label]) = posted history ++ label.posted.toList := by
  rw [posted, List.filterMap_append]
  cases label <;> rfl

theorem handled_concat :
    handled (history ++ [label]) = handled history ++ label.handled.toList := by
  rw [handled, List.filterMap_append]
  cases label with
  | handle job => cases job <;> rfl
  | _ => rfl

theorem discarded_concat :
    discarded (history ++ [label]) = discarded history ++ label.discarded := by
  simp [discarded]

/-- A label that says nothing about jobs. -/
structure Quiet (label : Label Job Bell) : Prop where
  posted : label.posted = none
  handled : label.handled = none
  discarded : label.discarded = []
  pass : label.isHandle = false

theorem countP_concat (counts : Label Job Bell → Bool) :
    (history ++ [label]).countP counts = history.countP counts + (counts label).toNat := by
  rw [List.countP_append, List.countP_singleton]
  cases counts label <;> rfl

theorem ticks_cut {first second : List (Label Job Bell)} {job : Option Job} :
    ticks (first ++ .handle job :: second) = ticks first + ticks second := by
  rw [ticks, List.countP_append, List.countP_cons_of_neg Bool.false_ne_true]
  rfl

/-- Jobs are handled in the order in which they came; what is left is thrown away once. -/
structure Queued (start : State Job Bell) (history : List (Label Job Bell))
    (state : State Job Bell) : Prop where
  order : start.jobs ++ posted history = handled history ++ discarded history ++ state.jobs
  early : state.place ≠ .gone → discarded history = []
  /-- Every pass takes a job until those that there were at the start are done. -/
  busy : start.jobs.length ≤ (handled history).length ∨ (handled history).length = passes history

theorem queued_quiet (queued : Queued start history state) (quiet : Quiet label)
    (jobs : next.jobs = state.jobs) (there : next.place ≠ .gone → state.place ≠ .gone) :
    Queued start (history ++ [label]) next := by
  obtain ⟨order, early, busy⟩ := queued
  refine ⟨?_, fun here => ?_, ?_⟩
  · rw [posted_concat, handled_concat, discarded_concat, quiet.posted, quiet.handled,
      quiet.discarded, jobs]
    simpa using order
  · rw [discarded_concat, quiet.discarded, early (there here)]
    rfl
  · rw [handled_concat, passes, countP_concat, quiet.handled, quiet.pass]
    simpa [passes] using busy

end

/-! ### The counters of the bells -/

section

variable (design : Design Bell)

def State.counted (state : State Job Bell) (bell : Bell) : Bool × Nat :=
  Countdown.tick (design.period bell) true (state.left bell)

/-- Every bell has ticks left, and none is visited twice in a tick. -/
structure Sound (state : State Job Bell) : Prop where
  positive : ∀ bell, 0 < state.left bell
  loaded : ∀ bell, state.left bell ≤ design.period bell
  distinct : state.unvisited.Nodup
  apart : ∀ rest, state.place = .looking rest → design.alarm ∉ rest

variable {design} {state : State Job Bell}

/-- A visit takes a tick off, and loads the bell that it rings. -/
theorem counted_left (sound : Sound design state) (bell : Bell) :
    1 + (state.counted design bell).2 =
        (state.counted design bell).1.toNat * design.period bell + state.left bell ∧
      0 < (state.counted design bell).2 ∧
        (state.counted design bell).2 ≤ design.period bell := by
  have running := sound.positive bell
  have loaded := sound.loaded bell
  have positive := design.positive bell
  unfold State.counted Countdown.tick
  rw [if_pos running]
  by_cases last : state.left bell - 1 = 0
  · simp only [last, if_true, Bool.toNat_true]
    omega
  · simp only [last, if_false, Bool.toNat_false]
    omega

end

/-! ### The steps -/

variable [DecidableEq Bell] (design : Design Bell)

def State.visited (state : State Job Bell) (bell : Bell) (rest : List Bell) : State Job Bell :=
  { state with
    left := Function.update state.left bell (state.counted design bell).2
    rung :=
      if (state.counted design bell).1 then Function.update state.rung bell true else state.rung
    unvisited := rest }

inductive Step : State Job Bell → Label Job Bell → State Job Bell → Prop
  | post {state : State Job Bell} (job : Job) (free : state.place.locked = false)
      (there : state.place ≠ .gone) :
      Step state (.post job) { state with jobs := state.jobs ++ [job] }
  | tick {state : State Job Bell} {order : List Bell} (done : state.unvisited = [])
      (distinct : order.Nodup) (all : ∀ bell, bell ∈ order ↔ bell ∈ design.registered state.place) :
      Step state .tick { state with unvisited := order }
  | visit {state : State Job Bell} {bell : Bell} {rest : List Bell}
      (next : state.unvisited = bell :: rest) :
      Step state
        (.visit bell (state.counted design bell).1
          ((state.counted design bell).1 && state.rung bell))
        (state.visited design bell rest)
  | go {state : State Job Bell} (top : state.place = .top) :
      Step state .go { state with place := .waiting }
  | wake {state : State Job Bell} (waiting : state.place = .waiting)
      (rung : state.rung design.alarm = true) :
      Step state .wake
        { state with rung := Function.update state.rung design.alarm false, place := .woken }
  | handle {state : State Job Bell} (woken : state.place = .woken) :
      Step state (.handle state.jobs.head?)
        { state with jobs := state.jobs.tail, place := .working }
  | fast {state : State Job Bell} (working : state.place = .working) :
      Step state .fast { state with place := .looking design.pass }
  | look {state : State Job Bell} {bell : Bell} {rest : List Bell}
      (looking : state.place = .looking (bell :: rest)) :
      Step state (.look bell (state.rung bell))
        { state with rung := Function.update state.rung bell false, place := .looking rest }
  | leave {state : State Job Bell} (looking : state.place = .looking []) :
      Step state .leave { state with place := .top }
  | stop {state : State Job Bell} (top : state.place = .top) :
      Step state .stop { state with place := .ended }
  | delete {state : State Job Bell} (ended : state.place = .ended) :
      Step state .delete { state with place := .closing design.bells }
  /-- No bell is given up during a tick. -/
  | unregister {state : State Job Bell} {bell : Bell} {rest : List Bell}
      (closing : state.place = .closing (bell :: rest)) (done : state.unvisited = []) :
      Step state (.unregister bell) { state with place := .closing rest }
  /-- What was posted too late is thrown away. -/
  | discard {state : State Job Bell} (closed : state.place = .closing []) :
      Step state (.discard state.jobs) { state with jobs := [], place := .gone }

def Label.visits (bell : Bell) : Label Job Bell → Bool
  | .visit visited _ _ => visited = bell
  | _ => false

def Label.rings (bell : Bell) : Label Job Bell → Bool
  | .visit visited rings _ => visited = bell && rings
  | _ => false

/-- The bell had rung already. -/
def Label.misses (bell : Bell) : Label Job Bell → Bool
  | .visit visited _ missed => visited = bell && missed
  | _ => false

/-- The loop takes notice of the bell. -/
def Label.hears (bell : Bell) : Label Job Bell → Bool
  | .wake => design.alarm = bell
  | .look looked rung => looked = bell && rung
  | _ => false

def visits (bell : Bell) (history : List (Label Job Bell)) : Nat :=
  history.countP (Label.visits bell)

def rings (bell : Bell) (history : List (Label Job Bell)) : Nat :=
  history.countP (Label.rings bell)

def missed (bell : Bell) (history : List (Label Job Bell)) : Nat :=
  history.countP (Label.misses bell)

def heard (bell : Bell) (history : List (Label Job Bell)) : Nat :=
  history.countP (Label.hears design bell)

/-! ### The jobs -/

section Jobs

variable {design : Design Bell} {start state next : State Job Bell}
  {history : List (Label Job Bell)} {label : Label Job Bell}

theorem queued_step (queued : Queued start history state) (step : Step design state label next) :
    Queued start (history ++ [label]) next := by
  have quiet (same : Quiet label) (jobs : next.jobs = state.jobs)
      (there : next.place ≠ .gone → state.place ≠ .gone) :
      Queued start (history ++ [label]) next := queued_quiet queued same jobs there
  obtain ⟨order, early, busy⟩ := queued
  cases step with
  | post job free there =>
      refine ⟨?_, ?_, ?_⟩
      · rw [posted_concat, handled_concat, discarded_concat, ← List.append_assoc, order]
        simp [Label.posted, Label.handled, Label.discarded]
      · intro here
        simpa [discarded_concat, Label.discarded] using early here
      · simpa [handled_concat, passes, countP_concat, Label.handled, Label.isHandle] using busy
  | handle woken =>
      -- Nothing has been thrown away yet, so the head of the queue is the next of the order.
      have none := early (by rw [woken]; exact nofun)
      rw [none, List.append_nil] at order
      refine ⟨?_, ?_, ?_⟩
      · rw [posted_concat, handled_concat, discarded_concat, none]
        simp only [Label.posted, Label.handled, Label.discarded, Option.toList_none,
          List.append_nil, order, List.append_assoc]
        cases state.jobs <;> rfl
      · intro _
        rw [discarded_concat, none]
        rfl
      · rw [handled_concat, passes, countP_concat]
        cases waiting : state.jobs with
        | nil =>
            rw [waiting, List.append_nil] at order
            refine .inl ?_
            have all := congrArg List.length order
            rw [List.length_append] at all
            simp only [Label.handled, List.head?_nil, Option.toList_none, List.append_nil]
            omega
        | cons job rest =>
            refine busy.imp (fun done => ?_) fun each => ?_
            · exact done.trans (by simp)
            · simp [Label.handled, Label.isHandle, each, passes]
  | discard closed =>
      have none := early (by rw [closed]; exact nofun)
      refine ⟨?_, fun here => absurd rfl here, ?_⟩
      · rw [posted_concat, handled_concat, discarded_concat]
        simpa [Label.posted, Label.handled, Label.discarded] using order
      · simpa [handled_concat, passes, countP_concat, Label.handled, Label.isHandle] using busy
  | tick done distinct all => exact quiet ⟨rfl, rfl, rfl, rfl⟩ rfl id
  | visit unvisited => exact quiet ⟨rfl, rfl, rfl, rfl⟩ rfl id
  | go here | wake here | fast here | look here | leave here | stop here | delete here
  | unregister here =>
      exact quiet ⟨rfl, rfl, rfl, rfl⟩ rfl (fun _ => by rw [here]; exact nofun)

end Jobs

/-! ### The bells -/

def State.awaits (state : State Job Bell) (bell : Bell) : Nat := state.unvisited.count bell

/-- What is counted of the bells: nothing that rings is lost but where the bell had rung. -/
structure Counted (start : State Job Bell) (history : List (Label Job Bell))
    (state : State Job Bell) : Prop where
  visited : ∀ bell, visits bell history + state.awaits bell ≤ ticks history + start.awaits bell
  registered : ∀ bell ∈ design.registered state.place,
    visits bell history + state.awaits bell = ticks history + start.awaits bell
  rung : ∀ bell, visits bell history + state.left bell =
    rings bell history * design.period bell + start.left bell
  heard : ∀ bell, heard design bell history + missed bell history + (state.rung bell).toNat =
    rings bell history + (start.rung bell).toNat

/-- A label that says nothing about bells. -/
structure Silent (label : Label Job Bell) : Prop where
  tick : label.isTick = false
  visits : ∀ bell, label.visits bell = false
  rings : ∀ bell, label.rings bell = false
  misses : ∀ bell, label.misses bell = false
  hears : ∀ bell, label.hears design bell = false

section Bells

variable {design : Design Bell} {start state next : State Job Bell}
  {history : List (Label Job Bell)} {label : Label Job Bell}

theorem sound_step (sound : Sound design state) (step : Step design state label next) :
    Sound design next := by
  have counted := counted_left sound
  obtain ⟨positive, loaded, distinct, apart⟩ := sound
  cases step with
  | post | go | wake | handle | leave | stop | delete | unregister | discard =>
      exact ⟨positive, loaded, distinct, by first | exact apart | exact fun _ here => nomatch here⟩
  | tick done different all => exact ⟨positive, loaded, different, apart⟩
  | @visit bell rest unvisited =>
      rw [unvisited] at distinct
      refine ⟨fun other => ?_, fun other => ?_, distinct.of_cons, apart⟩
      · rw [State.visited]
        by_cases hit : other = bell
        · subst hit
          simpa using (counted other).2.1
        · simpa [hit] using positive other
      · rw [State.visited]
        by_cases hit : other = bell
        · subst hit
          simpa using (counted other).2.2
        · simpa [hit] using loaded other
  | fast working =>
      refine ⟨positive, loaded, distinct, ?_⟩
      rintro _ ⟨⟩
      exact design.apart
  | look looking =>
      refine ⟨positive, loaded, distinct, ?_⟩
      rintro _ ⟨⟩
      exact fun later => apart _ looking (List.mem_cons_of_mem _ later)

/-- Bells are only given up. -/
theorem registered_step (step : Step design state label next) {bell : Bell}
    (there : bell ∈ design.registered next.place) : bell ∈ design.registered state.place := by
  cases step with
  | unregister closing _ =>
      rw [closing]
      exact List.mem_cons_of_mem _ there
  | discard => cases there
  | go here | wake here | handle here | fast here | look here | leave here | stop here
  | delete here =>
      rw [here]
      exact mem_bells design bell
  | post | tick | visit => exact there

theorem counted_silent (counted : Counted design start history state)
    (silent : Silent design label) (step : Step design state label next)
    (unvisited : next.unvisited = state.unvisited)
    (left : next.left = state.left) (rung : next.rung = state.rung) :
    Counted design start (history ++ [label]) next := by
  obtain ⟨visited, registered, rang, heard⟩ := counted
  refine ⟨fun bell => ?_, fun bell there => ?_, fun bell => ?_, fun bell => ?_⟩
  · simpa only [visits, ticks, countP_concat, silent.tick, silent.visits, State.awaits, unvisited,
      Bool.toNat_false, Nat.add_zero]
      using visited bell
  · simpa only [visits, ticks, countP_concat, silent.tick, silent.visits, State.awaits, unvisited,
      Bool.toNat_false, Nat.add_zero]
      using registered bell (registered_step step there)
  · simpa only [visits, rings, countP_concat, silent.visits, silent.rings, left,
      Bool.toNat_false, Nat.add_zero] using rang bell
  · simpa only [TickedLoop.heard, missed, rings, countP_concat, silent.hears, silent.misses,
      silent.rings, rung, Bool.toNat_false, Nat.add_zero] using heard bell

theorem counted_visit {bell : Bell} {rest : List Bell}
    (counted : Counted design start history state) (sound : Sound design state)
    (unvisited : state.unvisited = bell :: rest) :
    Counted design start
      (history ++ [.visit bell (state.counted design bell).1
        ((state.counted design bell).1 && state.rung bell)]) (state.visited design bell rest) := by
  obtain ⟨visited, registered, rang, heard⟩ := counted
  have one : ∀ other, state.awaits other =
      (state.visited design bell rest).awaits other + (decide (bell = other)).toNat := by
    intro other
    rw [State.awaits, unvisited, List.count_cons]
    by_cases hit : bell = other <;> simp [State.awaits, State.visited, hit]
  refine ⟨fun other => ?_, fun other there => ?_, fun other => ?_, fun other => ?_⟩
  · have before := visited other
    have awaited := one other
    simp only [visits, ticks, countP_concat, Label.visits, Label.isTick, Bool.toNat_false,
      Nat.add_zero] at before ⊢
    omega
  · have before := registered other there
    have awaited := one other
    simp only [visits, ticks, countP_concat, Label.visits, Label.isTick, Bool.toNat_false,
      Nat.add_zero] at before ⊢
    omega
  · have before := rang other
    have taken := (counted_left sound bell).1
    simp only [visits, rings, countP_concat, State.visited, Label.visits, Label.rings] at before ⊢
    by_cases hit : other = bell
    · subst hit
      simp only [decide_true, Bool.true_and, Bool.toNat_true, Function.update_self, Nat.add_mul]
      omega
    · simpa [hit, Ne.symm hit] using before
  · have before := heard other
    simp only [TickedLoop.heard, missed, rings, countP_concat, State.visited, Label.hears,
      Label.misses, Label.rings, Bool.toNat_false, Nat.add_zero] at before ⊢
    by_cases hit : other = bell
    · subst hit
      cases (state.counted design other).1 with
      | false => simpa using before
      | true =>
          simp only [decide_true, Bool.true_and, if_true, Function.update_self, Bool.toNat_true]
          omega
    · have same : (if (state.counted design bell).1 then Function.update state.rung bell true
          else state.rung) other = state.rung other := by
        split
        · exact Function.update_of_ne hit _ _
        · rfl
      rw [same]
      simpa [Ne.symm hit] using before

/-- A bell that the loop has heard is silent again. -/
theorem counted_heard {bell : Bell} (counted : Counted design start history state)
    (notices : ∀ other, label.hears design other = (decide (bell = other) && state.rung bell))
    (quiet : label.isTick = false ∧ ∀ other, label.visits other = false ∧
      label.rings other = false ∧ label.misses other = false)
    (step : Step design state label next) (unvisited : next.unvisited = state.unvisited)
    (left : next.left = state.left)
    (rung : next.rung = Function.update state.rung bell false) :
    Counted design start (history ++ [label]) next := by
  obtain ⟨visited, registered, rang, heard⟩ := counted
  obtain ⟨tick, others⟩ := quiet
  refine ⟨fun other => ?_, fun other there => ?_, fun other => ?_, fun other => ?_⟩
  · simpa only [visits, ticks, countP_concat, tick, (others other).1, State.awaits, unvisited,
      Bool.toNat_false, Nat.add_zero] using visited other
  · simpa only [visits, ticks, countP_concat, tick, (others other).1, State.awaits, unvisited,
      Bool.toNat_false, Nat.add_zero] using registered other (registered_step step there)
  · simpa only [visits, rings, countP_concat, (others other).1, (others other).2.1, left,
      Bool.toNat_false, Nat.add_zero] using rang other
  · have before := heard other
    simp only [TickedLoop.heard, missed, rings, countP_concat, notices, (others other).2.1,
      (others other).2.2, rung, Bool.toNat_false, Nat.add_zero] at before ⊢
    by_cases hit : other = bell
    · subst hit
      simp only [decide_true, Bool.true_and, Function.update_self, Bool.toNat_false]
      omega
    · simpa [hit, Ne.symm hit] using before

theorem counted_step (counted : Counted design start history state) (sound : Sound design state)
    (step : Step design state label next) : Counted design start (history ++ [label]) next := by
  have silent (same : Silent design label) (unvisited : next.unvisited = state.unvisited)
      (left : next.left = state.left) (rung : next.rung = state.rung) :
      Counted design start (history ++ [label]) next :=
    counted_silent counted same step unvisited left rung
  have moved := step
  cases step with
  | post | go | handle | fast | leave | stop | delete | unregister | discard =>
      exact silent ⟨rfl, fun _ => rfl, fun _ => rfl, fun _ => rfl, fun _ => rfl⟩ rfl rfl rfl
  | @tick order done distinct all =>
      obtain ⟨visited, registered, rang, heard⟩ := counted
      refine ⟨fun bell => ?_, fun bell there => ?_, fun bell => ?_, fun bell => ?_⟩
      · have before := visited bell
        rw [State.awaits, done, List.count_nil] at before
        have one := List.nodup_iff_count_le_one.mp distinct bell
        simp only [visits, ticks, countP_concat, State.awaits, Label.visits, Label.isTick,
          Bool.toNat_false, Bool.toNat_true] at before ⊢
        omega
      · have before := registered bell there
        rw [State.awaits, done, List.count_nil] at before
        have one := List.count_eq_one_of_mem distinct ((all bell).mpr there)
        simp only [visits, ticks, countP_concat, State.awaits, Label.visits, Label.isTick,
          Bool.toNat_false, Bool.toNat_true, one] at before ⊢
        omega
      · simpa only [visits, rings, countP_concat, Label.visits, Label.rings, Bool.toNat_false,
          Nat.add_zero] using rang bell
      · simpa only [TickedLoop.heard, missed, rings, countP_concat, Label.hears, Label.misses,
          Label.rings, Bool.toNat_false, Nat.add_zero] using heard bell
  | visit unvisited => exact counted_visit counted sound unvisited
  | wake waiting rung =>
      refine counted_heard counted (fun other => ?_) ⟨rfl, fun _ => ⟨rfl, rfl, rfl⟩⟩ moved rfl rfl
        rfl
      rw [rung, Bool.and_true]
      rfl
  | look looking =>
      exact counted_heard counted (fun _ => rfl) ⟨rfl, fun _ => ⟨rfl, rfl, rfl⟩⟩ moved rfl rfl
        rfl

theorem run_sound (sound : Sound design start) (run : Run (Step design) start history state) :
    Sound design state :=
  run.invariant (fun _ state => Sound design state) sound
    fun _ _ _ _ _ step sound => sound_step sound step

theorem run_counted (sound : Sound design start) (run : Run (Step design) start history state) :
    Counted design start history state := by
  have both : Counted design start history state ∧ Sound design state := by
    refine run.invariant (fun history state => Counted design start history state ∧
      Sound design state) ⟨⟨fun _ => Nat.le_refl _, fun _ _ => rfl, fun _ => ?_, fun _ => ?_⟩,
      sound⟩ ?_
    · simp [visits, rings]
    · rfl
    · exact fun _ _ _ _ _ step held => ⟨counted_step held.1 held.2 step, sound_step held.2 step⟩
  exact both.1

theorem run_queued (run : Run (Step design) start history state) :
    Queued start history state :=
  run.invariant (Queued start) ⟨by simp [posted, handled, discarded], fun _ => rfl, .inr rfl⟩
    fun _ _ _ _ _ step queued => queued_step queued step

theorem awaits_le (sound : Sound design state) (bell : Bell) : state.awaits bell ≤ 1 :=
  List.nodup_iff_count_le_one.mp sound.distinct bell

/-- Of a bell the loop hears at most two rings more than periods went by. -/
theorem heard_most (sound : Sound design start) (run : Run (Step design) start history state)
    (bell : Bell) :
    heard design bell history * design.period bell ≤ ticks history + 2 * design.period bell := by
  obtain ⟨visited, -, rung, heard⟩ := run_counted sound run
  have after := run_sound sound run
  have visits := visited bell
  have rings := rung bell
  have hears := heard bell
  have first := sound.positive bell
  have full := after.loaded bell
  have before := awaits_le sound bell
  have flag := Bool.toNat_le (start.rung bell)
  have few : TickedLoop.heard design bell history ≤ TickedLoop.rings bell history + 1 := by omega
  have grown := Nat.mul_le_mul_right (design.period bell) few
  rw [Nat.add_mul] at grown
  omega

/-- As long as it has the bell, it hears or misses at most two less. -/
theorem heard_least (sound : Sound design start) (run : Run (Step design) start history state)
    {bell : Bell} (there : bell ∈ design.registered state.place) :
    ticks history ≤
      (heard design bell history + missed bell history + 2) * design.period bell := by
  obtain ⟨-, registered, rung, heard⟩ := run_counted sound run
  have after := run_sound sound run
  have visits := registered bell there
  have rings := rung bell
  have hears := heard bell
  have most := sound.loaded bell
  have last := after.positive bell
  have later := awaits_le after bell
  have flagged := Bool.toNat_le (state.rung bell)
  have many : TickedLoop.rings bell history ≤
      TickedLoop.heard design bell history + missed bell history + 1 := by omega
  have grown := Nat.mul_le_mul_right (design.period bell) many
  rw [Nat.add_mul _ 1] at grown
  rw [Nat.add_mul _ 2]
  omega

/-! ### How soon a job is handled -/

def Place.wakes : Place Bell → Nat
  | .woken => 1
  | _ => 0

/-- There is one pass for every alarm that was heard. -/
theorem passes_step (sound : Sound design state) (step : Step design state label next)
    (same : passes history + state.place.wakes =
      heard design design.alarm history + start.place.wakes) :
    passes (history ++ [label]) + next.place.wakes =
      heard design design.alarm (history ++ [label]) + start.place.wakes := by
  have apart := sound.apart
  rw [passes, heard] at same ⊢
  rw [countP_concat, countP_concat]
  cases step with
  | handle woken =>
      simp only [Place.wakes, woken, Label.isHandle, Label.hears] at same ⊢
      simpa using same
  | wake waiting rung =>
      simp only [Place.wakes, waiting, Label.isHandle, Label.hears, decide_true, Bool.toNat_true,
        Bool.toNat_false] at same ⊢
      omega
  | @look bell rest looking =>
      -- The alarm is not among the bells that a pass looks at.
      have other : bell ≠ design.alarm := fun hit => apart _ looking (hit ▸ List.mem_cons_self)
      simp only [Place.wakes, looking, Label.isHandle, Label.hears] at same ⊢
      simpa [other] using same
  | post | tick | visit =>
      simpa [Place.wakes, State.visited, Label.isHandle, Label.hears] using same
  | go here | fast here | leave here | stop here | delete here | unregister here | discard here =>
      simp only [Place.wakes, here, Label.isHandle, Label.hears] at same ⊢
      simpa using same

theorem run_passes (sound : Sound design start) (run : Run (Step design) start history state) :
    passes history + state.place.wakes = heard design design.alarm history + start.place.wakes := by
  refine run.invariant (fun history state =>
    passes history + state.place.wakes =
      heard design design.alarm history + start.place.wakes) rfl ?_
  intro _ _ _ _ run step same
  exact passes_step (run_sound sound run) step same

/-- A job is handled in its turn, whatever is posted after it. -/
theorem handled_in_turn (run : Run (Step design) start history state) {k : Nat}
    (handles : k < (handled history).length) :
    (handled history)[k]? = (start.jobs ++ posted history)[k]? := by
  rw [(run_queued run).order, List.append_assoc, List.getElem?_append_left handles]

/-- While no alarm is missed the passes keep up with it. -/
theorem few_passes_in_time (sound : Sound design start)
    (run : Run (Step design) start history state) (keeps : state.place.keeps = true)
    (prompt : missed design.alarm history = 0) :
    ticks history ≤ (passes history + 3) * design.period design.alarm := by
  have passed := run_passes sound run
  have heard := heard_least sound run (registered_keeps design keeps design.alarm)
  have one : state.place.wakes ≤ 1 := by cases state.place <;> simp [Place.wakes]
  refine heard.trans (Nat.mul_le_mul_right _ ?_)
  omega

/-- Every pass takes a job while there is one. -/
theorem handled_soon (run : Run (Step design) start history state) {k : Nat}
    (waits : k < start.jobs.length) (enough : k < passes history) :
    k < (handled history).length := by
  rcases (run_queued run).busy with done | each
  · exact Nat.lt_of_lt_of_le waits done
  · exact each ▸ enough

theorem heard_cut {first second : List (Label Job Bell)} {job : Option Job} {bell : Bell} :
    heard design bell (first ++ .handle job :: second) =
      heard design bell first + heard design bell second := by
  rw [heard, List.countP_append, List.countP_cons_of_neg Bool.false_ne_true]
  rfl

theorem missed_cut {first second : List (Label Job Bell)} {job : Option Job} {bell : Bell} :
    missed bell (first ++ .handle job :: second) = missed bell first + missed bell second := by
  rw [missed, List.countP_append, List.countP_cons_of_neg Bool.false_ne_true]
  rfl

/-- The pass that handles a job, after as many passes as there were jobs before it. -/
theorem handled_at (run : Run (Step design) start history state) {job : Job} {k : Nat}
    (waits : start.jobs[k]? = some job) (handles : k < (handled history).length) :
    ∃ before after, history = before ++ .handle (some job) :: after ∧
      (handled before).length = k ∧ passes before = k := by
  obtain ⟨inside, _⟩ := List.getElem?_eq_some_iff.mp waits
  induction run with
  | start => cases handles
  | @step history state label next run moves ih =>
      -- The job was handled before this step, or it is this step that handles it.
      by_cases earlier : k < (handled history).length
      · obtain ⟨before, after, rfl, passed⟩ := ih earlier
        exact ⟨before, after ++ [label], by simp, passed⟩
      have turn := handled_in_turn (run.step moves) handles
      rw [List.getElem?_append_left inside, waits, handled_concat] at turn
      rw [handled_concat, List.length_append] at handles
      have each : (handled history).length = passes history :=
        (run_queued run).busy.resolve_left (by omega)
      cases label with
      | handle taken =>
          cases taken with
          | none => exact absurd handles (by simpa [Label.handled] using earlier)
          | some taken =>
              have last : (handled history).length = k := by
                simp only [Label.handled, Option.toList_some, List.length_singleton] at handles
                omega
              rw [List.getElem?_append_right (by omega), last, Nat.sub_self] at turn
              cases turn
              exact ⟨history, [], rfl, last, by omega⟩
      | _ => exact absurd handles (by simpa [Label.handled] using earlier)

end Bells

/-! ### A schedule that is played -/

section Played

/-- Who takes the next step. -/
inductive Choice (Job : Type) where
  | poster (job : Job)
  | timer
  | loop
  | stopper

/-- Every tick goes over the bells in the one order. -/
def advance (design : Design Bell) (state : State Job Bell) :
    Choice Job → Option (Label Job Bell × State Job Bell)
  | .poster job =>
      match state.place with
      | .working | .looking _ | .gone => none
      | _ => some (.post job, { state with jobs := state.jobs ++ [job] })
  | .timer =>
      match state.unvisited with
      | [] =>
          some (.tick, { state with
            unvisited := design.bells.filter (· ∈ design.registered state.place) })
      | bell :: rest =>
          some (.visit bell (state.counted design bell).1
            ((state.counted design bell).1 && state.rung bell), state.visited design bell rest)
  | .loop =>
      match state.place with
      | .top => some (.go, { state with place := .waiting })
      | .waiting =>
          if state.rung design.alarm = true then
            some (.wake, { state with
              rung := Function.update state.rung design.alarm false
              place := .woken })
          else none
      | .woken =>
          some (.handle state.jobs.head?, { state with jobs := state.jobs.tail, place := .working })
      | .working => some (.fast, { state with place := .looking design.pass })
      | .looking (bell :: rest) =>
          some (.look bell (state.rung bell),
            { state with rung := Function.update state.rung bell false, place := .looking rest })
      | .looking [] => some (.leave, { state with place := .top })
      | .ended => some (.delete, { state with place := .closing design.bells })
      | .closing (bell :: rest) =>
          if state.unvisited = [] then
            some (.unregister bell, { state with place := .closing rest })
          else none
      | .closing [] => some (.discard state.jobs, { state with jobs := [], place := .gone })
      | .gone => none
  | .stopper =>
      match state.place with
      | .top => some (.stop, { state with place := .ended })
      | _ => none

def play (design : Design Bell) :
    List (Choice Job) → State Job Bell → Option (List (Label Job Bell) × State Job Bell)
  | [], state => some ([], state)
  | choice :: rest, state =>
      (advance design state choice).bind fun first =>
        (play design rest first.2).map fun later => (first.1 :: later.1, later.2)

variable {design : Design Bell} {state next : State Job Bell} {label : Label Job Bell}

theorem advance_step {choice : Choice Job}
    (moves : advance design state choice = some (label, next)) :
    Step design state label next := by
  obtain ⟨jobs, rung, left, unvisited, place⟩ := state
  cases choice with
  | poster job =>
      cases place <;> dsimp only [advance] at moves <;> cases moves <;> exact .post job rfl nofun
  | timer =>
      cases unvisited <;> dsimp only [advance] at moves <;> cases moves
      · refine .tick rfl ((bells_nodup design).filter _) fun bell => ?_
        rw [List.mem_filter, decide_eq_true_iff]
        exact and_iff_right (mem_bells design bell)
      · exact .visit rfl
  | loop =>
      cases place with
      | top =>
          cases moves
          exact .go rfl
      | waiting =>
          dsimp only [advance] at moves
          by_cases alarmed : rung design.alarm = true
          · rw [if_pos alarmed] at moves
            cases moves
            exact .wake rfl alarmed
          · rw [if_neg alarmed] at moves
            cases moves
      | woken =>
          cases moves
          exact .handle rfl
      | working =>
          cases moves
          exact .fast rfl
      | looking rest =>
          cases rest with
          | nil =>
              cases moves
              exact .leave rfl
          | cons bell rest =>
              cases moves
              exact .look rfl
      | ended =>
          cases moves
          exact .delete rfl
      | closing rest =>
          cases rest with
          | nil =>
              cases moves
              exact .discard rfl
          | cons bell rest =>
              dsimp only [advance] at moves
              by_cases idle : unvisited = []
              · rw [if_pos idle] at moves
                cases moves
                exact .unregister rfl idle
              · rw [if_neg idle] at moves
                cases moves
      | gone => cases moves
  | stopper =>
      cases place <;> dsimp only [advance] at moves <;> cases moves
      exact .stop rfl

theorem play_run {choices : List (Choice Job)} {history : List (Label Job Bell)}
    (plays : play design choices state = some (history, next)) :
    Run (Step design) state history next := by
  induction choices generalizing state history with
  | nil =>
      cases plays
      exact .start
  | cons choice rest ih =>
      obtain ⟨⟨label, middle⟩, moves, later⟩ := Option.bind_eq_some_iff.mp plays
      obtain ⟨⟨labels, last⟩, played, same⟩ := Option.map_eq_some_iff.mp later
      cases same
      exact (Run.one (advance_step moves)).append (ih played)

end Played

/-! ### What the loop drives -/

section Driven

variable {Object Remains : Type} {calls : Object → Label Job Bell → Object → Prop}
  {destroy : Object → Remains}

/-- A loop and the object that it calls, and what is left of the object in the end. -/
inductive Drives (design : Design Bell) (calls : Object → Label Job Bell → Object → Prop)
    (destroy : Object → Remains) :
    State Job Bell × (Object ⊕ Remains) → Label Job Bell →
      State Job Bell × (Object ⊕ Remains) → Prop
  | step {state next : State Job Bell} {object after : Object} {label : Label Job Bell} :
      Step design state label next → label ≠ .delete → calls object label after →
      Drives design calls destroy (state, .inl object) label (next, .inl after)
  | delete {state next : State Job Bell} {object : Object} :
      Step design state .delete next →
      Drives design calls destroy (state, .inl object) .delete (next, .inr (destroy object))
  | closed {state next : State Job Bell} {remains : Remains} {label : Label Job Bell} :
      Step design state label next →
      Drives design calls destroy (state, .inr remains) label (next, .inr remains)

variable {design : Design Bell} {start posted reached : State Job Bell × (Object ⊕ Remains)}
  {history : List (Label Job Bell)}

theorem driven_loop (run : Run (Drives design calls destroy) start history reached) :
    Run (Step design) start.1 history reached.1 := by
  induction run with
  | start => exact .start
  | step _ moves ih =>
      cases moves with
      | step loop _ _ | delete loop | closed loop => exact ih.step loop

theorem drive (total : ∀ object label, ∃ after, calls object label after)
    {state next : State Job Bell} (run : Run (Step design) state history next)
    (owned : Object ⊕ Remains) :
    ∃ after, Run (Drives design calls destroy) (state, owned) history (next, after) := by
  induction run with
  | start => exact ⟨owned, .start⟩
  | @step _ _ label _ _ moves ih =>
      obtain ⟨middle, earlier⟩ := ih
      cases middle with
      | inr remains => exact ⟨_, earlier.step (.closed moves)⟩
      | inl object =>
          by_cases last : label = .delete
          · subst last
            exact ⟨_, earlier.step (.delete moves)⟩
          · obtain ⟨after, called⟩ := total object label
            exact ⟨_, earlier.step (.step moves last called)⟩

theorem keeps_step {state next : State Job Bell} {label : Label Job Bell}
    (step : Step design state label next) (other : label ≠ .delete) :
    next.place.keeps = state.place.keeps := by
  cases step with
  | post | tick | visit => rfl
  | go here | wake here | handle here | fast here | look here | leave here | stop here
  | unregister here | discard here =>
      rw [here]
      rfl
  | delete => exact absurd rfl other

/-- The object is there as long as it is called. -/
theorem run_keeps (first : start.2.isLeft = start.1.place.keeps)
    (run : Run (Drives design calls destroy) start history reached) :
    reached.2.isLeft = reached.1.place.keeps := by
  induction run with
  | start => exact first
  | step _ moves ih =>
      cases moves with
      | step loop other _ => exact ih.trans (keeps_step loop other).symm
      | delete loop =>
          cases loop
          rfl
      | closed loop =>
          -- A thread that has deleted its object does not delete it again.
          refine ih.trans (keeps_step loop ?_).symm
          rintro rfl
          cases loop with
          | delete ended => exact Bool.noConfusion (ih.trans (by rw [ended]))

/-- A schedule that can be played is a run of the loop with its object. -/
theorem play_driven (total : ∀ object label, ∃ after, calls object label after)
    (first : start.2.isLeft = start.1.place.keeps) {choices : List (Choice Job)}
    {seen : List (Label Job Bell) × State Job Bell → Prop} [DecidablePred seen]
    (plays : (play design choices start.1).any (fun result => seen result) = true) :
    ∃ history reached, Run (Drives design calls destroy) start history reached ∧
      seen (history, reached.1) ∧ reached.2.isLeft = reached.1.place.keeps := by
  obtain ⟨⟨history, next⟩, played, holds⟩ := (Option.any_eq_true _ _).mp plays
  obtain ⟨owned, run⟩ := drive total (play_run played) start.2
  exact ⟨history, _, run, of_decide_eq_true holds, run_keeps first run⟩

/-- What every call keeps holds of the object as long as it is there. -/
theorem run_object (holds : List (Label Job Bell) → Object → Prop) {state : State Job Bell}
    {object : Object} (first : holds [] object)
    (keeps : ∀ history label object after, holds history object → calls object label after →
      holds (history ++ [label]) after)
    (run : Run (Drives design calls destroy) (state, .inl object) history reached) :
    ∀ now, reached.2 = .inl now → holds history now := by
  induction run with
  | start =>
      rintro now ⟨⟩
      exact first
  | step _ moves ih =>
      cases moves with
      | step _ _ called =>
          rintro now ⟨⟩
          exact keeps _ _ _ _ (ih _ rfl) called
      | delete | closed => exact nofun

/-- What the destructor leaves stays. -/
theorem run_remains (holds : Remains → Prop) (destroyed : ∀ object, holds (destroy object))
    (first : ∀ remains, start.2 = .inr remains → holds remains)
    (run : Run (Drives design calls destroy) start history reached) :
    ∀ remains, reached.2 = .inr remains → holds remains := by
  induction run with
  | start => exact first
  | step _ moves ih =>
      cases moves with
      | step => exact nofun
      | delete =>
          rintro remains ⟨⟩
          exact destroyed _
      | closed =>
          rintro remains ⟨⟩
          exact ih _ rfl

theorem post_sound {job : Job} (sound : Sound design start.1)
    (post : Drives design calls destroy start (.post job) posted) :
    posted.1.jobs = start.1.jobs ++ [job] ∧ Sound design posted.1 := by
  cases post with
  | step loop _ _ | closed loop =>
      refine ⟨?_, sound_step sound loop⟩
      cases loop with
      | post => rfl

theorem handle_place {state next : State Job Bell} {job : Option Job}
    (step : Step design state (.handle job) next) : state.place = .woken := by
  generalize made : Label.handle job = label at step
  cases step with
  | handle woken => exact woken
  | _ => cases made

/-- A job that was posted is handled by the pass after those that its predecessors take. -/
theorem posted_handled {job : Job} (sound : Sound design start.1)
    (post : Drives design calls destroy start (.post job) posted)
    (run : Run (Drives design calls destroy) posted history reached)
    (enough : start.1.jobs.length < passes history) :
    ∃ first second, history = first ++ .handle (some job) :: second ∧
      handled first = start.1.jobs ∧ passes first = start.1.jobs.length ∧
      (missed design.alarm first = 0 →
        ticks first ≤ (start.1.jobs.length + 3) * design.period design.alarm) := by
  obtain ⟨jobs, sound⟩ := post_sound sound post
  have inside : start.1.jobs.length < posted.1.jobs.length := by rw [jobs]; simp
  have waits : posted.1.jobs[start.1.jobs.length]? = some job := by rw [jobs]; simp
  obtain ⟨first, second, rfl, turns, passed⟩ := handled_at (driven_loop run) waits
    (handled_soon (driven_loop run) inside enough)
  refine ⟨first, second, rfl, ?_, passed, fun prompt => ?_⟩
  · have order := (run_queued (driven_loop run)).order
    rw [jobs, TickedLoop.handled, List.filterMap_append, List.filterMap_cons] at order
    simp only [Label.handled, List.append_assoc, List.cons_append] at order
    exact (List.append_inj_left order turns.symm).symm
  · obtain ⟨middle, next, earlier, turn, _⟩ := (driven_loop run).around
    have going : middle.place.keeps = true := by rw [handle_place turn]; rfl
    exact passed ▸ few_passes_in_time sound earlier going prompt

/-- The pass that handles a job which was posted, and what comes after it. -/
theorem handled_next {job : Job} {first second : List (Label Job Bell)}
    (sound : Sound design start.1) (kept : start.2.isLeft = start.1.place.keeps)
    (post : Drives design calls destroy start (.post job) posted)
    (run : Run (Drives design calls destroy) posted (first ++ .handle (some job) :: second) reached)
    (turn : handled first = start.1.jobs) :
    ∃ object after state, calls object (.handle (some job)) after ∧ Sound design state ∧
      Run (Drives design calls destroy) (state, .inl after) second reached ∧
      handled second <+: TickedLoop.posted (first ++ .handle (some job) :: second) := by
  obtain ⟨jobs, ready⟩ := post_sound sound post
  have order := (run_queued (driven_loop run)).order
  rw [jobs, TickedLoop.handled, List.filterMap_append, List.filterMap_cons] at order
  simp only [Label.handled, List.append_assoc, List.cons_append] at order
  obtain ⟨-, same⟩ := List.append_inj order (congrArg List.length turn).symm
  obtain ⟨middle, next, earlier, moves, later⟩ := run.around
  have there := run_sound ready (driven_loop earlier)
  have owned := run_keeps kept ((Run.one post).append earlier)
  have few : handled second <+: TickedLoop.posted (first ++ .handle (some job) :: second) :=
    ⟨_, (List.cons.inj same).2.symm⟩
  cases moves with
  | step loop other called => exact ⟨_, _, _, called, sound_step there loop, later, few⟩
  | closed loop =>
      rw [handle_place loop] at owned
      cases owned

end Driven

end OClock.TickedLoop
