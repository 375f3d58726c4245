import OClock.Machine
import OClock.TimerTable

/-!
Runs of the timer table. What happens to one service in a run is the sequence of
its own events: the calls that reached it and the ticks. Its firings are those
of a counter driven by that sequence alone.
-/

namespace OClock.TimerSchedule
open Text TimerTable

inductive Call where
  | register (ref : ServiceRef) (start : Bool)
  | start (cookie : TimerTickId)
  | unregister (cookie : TimerTickId)
  | tick (order : List TimerTickId)

inductive Answer where
  | registered (result : Except Bytes TimerTickId)
  | started (found : Bool)
  | unregistered
  | ticked (fired : List ServiceRef)

def step (timerTick : TimerTick) : Call → Answer × TimerTick
  | .register ref start =>
      let result := registerTimerTickService timerTick ref start
      (.registered result.1, result.2)
  | .start cookie =>
      let result := startTimerTickService timerTick cookie
      (.started result.1, result.2)
  | .unregister cookie => (.unregistered, unregisterTimerTickService timerTick cookie)
  | .tick order =>
      let result := tick timerTick order
      (.ticked result.1, result.2)

/-- Every tick of the calls goes over the table as it is then, in some order. -/
def Scheduled : TimerTick → List Call → Prop
  | _, [] => True
  | timerTick, .tick order :: rest =>
      Iterates timerTick order ∧ Scheduled (step timerTick (.tick order)).2 rest
  | timerTick, call :: rest => Scheduled (step timerTick call).2 rest

/-- Constructed services, none of them registered. -/
def boot (objects : ServiceRef → Option (Int × Bool)) : TimerTick :=
  TimerTick.new fun ref => (objects ref).map fun object => .new object.1 object.2

theorem boot_wellformed (objects : ServiceRef → Option (Int × Bool)) :
    WellFormed (boot objects) := by
  apply new_wellformed
  intro ref service present
  obtain ⟨object, _, rfl⟩ := Option.map_eq_some_iff.mp present
  exact ⟨rfl, rfl⟩

theorem scheduled_step {timerTick : TimerTick} {call : Call} {rest : List Call}
    (scheduled : Scheduled timerTick (call :: rest)) :
    (∀ order, call = .tick order → Iterates timerTick order) ∧
      Scheduled (step timerTick call).2 rest := by
  cases call with
  | tick order => exact ⟨fun _ same => by cases same; exact scheduled.1, scheduled.2⟩
  | _ => exact ⟨fun _ same => (by cases same), scheduled⟩

theorem step_wellformed {timerTick : TimerTick} (valid : WellFormed timerTick) (call : Call)
    (iterates : ∀ order, call = .tick order → Iterates timerTick order) :
    WellFormed (step timerTick call).2 := by
  cases call with
  | register ref start => exact register_wellformed valid ref start
  | start cookie => exact start_wellformed valid cookie
  | unregister cookie => exact unregister_wellformed valid cookie
  | tick order => exact tick_wellformed valid (iterates order rfl)

theorem run_wellformed (timerTick : TimerTick) (calls : List Call)
    (valid : WellFormed timerTick) (scheduled : Scheduled timerTick calls) :
    WellFormed (Machine.run step timerTick calls).2 := by
  induction calls generalizing timerTick with
  | nil => exact valid
  | cons call rest ih =>
      obtain ⟨iterates, later⟩ := scheduled_step scheduled
      exact ih _ (step_wellformed valid call iterates) later

/-! The events of one service. -/

inductive OwnEvent where
  | register (start : Bool)
  | start
  | unregister
  | tick
  deriving DecidableEq

/-- What a call does to the service at `ref`, if it reaches it. -/
def ownEvent (ref : ServiceRef) (timerTick : TimerTick) : Call → Option OwnEvent
  | .register target start =>
      if target = ref ∧ (timerTick.memory ref).any (fun service => !service.getIsRegistered)
      then some (.register start) else none
  | .start cookie =>
      if timerTick.timerTickServices[cookie]? = some ref then some .start else none
  | .unregister cookie =>
      if timerTick.timerTickServices[cookie]? = some ref then some .unregister else none
  | .tick _ => some .tick

def ownEvents (ref : ServiceRef) : TimerTick → List Call → List OwnEvent
  | _, [] => []
  | timerTick, call :: rest =>
      (ownEvent ref timerTick call).toList ++ ownEvents ref (step timerTick call).2 rest

/-- How often `ref` was triggered, tick by tick. -/
def firings (ref : ServiceRef) : List Answer → List Nat
  | [] => []
  | .ticked fired :: rest => fired.count ref :: firings ref rest
  | _ :: rest => firings ref rest

/-- The part of a service that its own events change. -/
structure Own where
  registered : Bool
  ticksLeft : Nat

def own (service : TimerTickService) : Own := ⟨service.getIsRegistered, service.ticksLeft⟩

def ownStep (interval : Int) (periodic : Bool) (state : Own) : OwnEvent → List Nat × Own
  | .register start =>
      ([], ⟨true, if start then ticksFor interval else state.ticksLeft⟩)
  | .start => ([], ⟨state.registered, ticksFor interval⟩)
  | .unregister => ([], ⟨false, 0⟩)
  | .tick =>
      let counted := Countdown.tick (ticksFor interval) periodic state.ticksLeft
      ([if counted.1 then 1 else 0], ⟨state.registered, counted.2⟩)

def ownRun (interval : Int) (periodic : Bool) : Own → List OwnEvent → List Nat × Own
  | state, [] => ([], state)
  | state, event :: rest =>
      let now := ownStep interval periodic state event
      let later := ownRun interval periodic now.2 rest
      (now.1 ++ later.1, later.2)

/-- The service at `ref` is a counter of `interval` and `periodic` in state `state`. -/
def Holds (timerTick : TimerTick) (ref : ServiceRef) (interval : Int) (periodic : Bool)
    (state : Own) : Prop :=
  ∃ service, timerTick.memory ref = some service ∧ service.interval = interval ∧
    service.periodic = periodic ∧ own service = state

/-- A call moves a service as the events of the service say. -/
def Moves (timerTick : TimerTick) (call : Call) (ref : ServiceRef)
    (service : TimerTickService) : Prop :=
  let moved := ownRun service.interval service.periodic (own service)
    (ownEvent ref timerTick call).toList
  firings ref [(step timerTick call).1] = moved.1 ∧
    Holds (step timerTick call).2 ref service.interval service.periodic moved.2

theorem holds_same {timerTick : TimerTick} {ref : ServiceRef} {service : TimerTickService}
    (held : timerTick.memory ref = some service) :
    Holds timerTick ref service.interval service.periodic (own service) :=
  ⟨service, held, rfl, rfl, rfl⟩

theorem register_moves {timerTick : TimerTick} (valid : WellFormed timerTick)
    (target : ServiceRef) (start : Bool) {ref : ServiceRef} {service : TimerTickService}
    (held : timerTick.memory ref = some service) :
    Moves timerTick (.register target start) ref service := by
  unfold Moves
  rcases register_cases valid target start with
    ⟨message, refused⟩ | ⟨other, present, fresh, accepted⟩
  · have quiet : ¬ (target = ref ∧
        (timerTick.memory ref).any (fun service => !service.getIsRegistered) = true) := by
      rintro ⟨rfl, unregistered⟩
      simp only [held, Option.any_some, Bool.not_eq_true', TimerTickService.getIsRegistered,
        bne_eq_false_iff_eq] at unregistered
      rw [register_accepts valid start held unregistered] at refused
      cases refused
    -- A refused registration found its service registered, which is no event of its own.
    simp only [step, refused, ownEvent, if_neg quiet]
    exact ⟨rfl, holds_same held⟩
  · by_cases hit : target = ref
    · rw [hit, held] at present
      cases present
      have reached : target = ref ∧
          (timerTick.memory ref).any (fun service => !service.getIsRegistered) = true :=
        ⟨hit, by simp [held, TimerTickService.getIsRegistered, fresh]⟩
      have real : timerTick.nextTimerTickId ≠ nullCookie := Nat.ne_of_gt valid.counting
      simp only [step, accepted, ownEvent, if_pos reached]
      subst hit
      refine ⟨rfl, _, Function.update_self .., rfl, rfl, ?_⟩
      cases start <;> simp [own, ownRun, ownStep, TimerTickService.getIsRegistered, real]
    · have quiet : ¬ (target = ref ∧
          (timerTick.memory ref).any (fun service => !service.getIsRegistered) = true) :=
        fun reached => hit reached.1
      simp only [step, accepted, ownEvent, if_neg quiet]
      exact ⟨rfl, holds_same ((Function.update_of_ne (Ne.symm hit) ..).trans held)⟩

theorem start_moves {timerTick : TimerTick} (valid : WellFormed timerTick)
    (cookie : TimerTickId) {ref : ServiceRef} {service : TimerTickService}
    (held : timerTick.memory ref = some service) :
    Moves timerTick (.start cookie) ref service := by
  unfold Moves
  rcases start_cases valid cookie with
    ⟨absent, same⟩ | ⟨target, other, found, present, carries, same⟩
  · simp only [step, same, ownEvent, absent]
    exact ⟨rfl, holds_same held⟩
  · simp only [step, same, ownEvent, found, Option.some.injEq]
    by_cases hit : target = ref
    · subst hit
      rw [held] at present
      cases present
      rw [if_pos rfl]
      exact ⟨rfl, _, write_same .., rfl, rfl, rfl⟩
    · rw [if_neg hit]
      exact ⟨rfl, holds_same ((write_other _ _ _ (Ne.symm hit)).trans held)⟩

theorem unregister_moves {timerTick : TimerTick} (valid : WellFormed timerTick)
    (cookie : TimerTickId) {ref : ServiceRef} {service : TimerTickService}
    (held : timerTick.memory ref = some service) :
    Moves timerTick (.unregister cookie) ref service := by
  unfold Moves
  rcases unregister_cases valid cookie with
    ⟨absent, same⟩ | ⟨target, other, found, present, carries, same⟩
  · simp only [step, same, ownEvent, absent]
    exact ⟨rfl, holds_same held⟩
  · simp only [step, same, ownEvent, found, Option.some.injEq]
    by_cases hit : target = ref
    · subst hit
      rw [held] at present
      cases present
      rw [if_pos rfl]
      exact ⟨rfl, _, Function.update_self .., rfl, rfl, rfl⟩
    · rw [if_neg hit]
      exact ⟨rfl, holds_same ((Function.update_of_ne (Ne.symm hit) ..).trans held)⟩

theorem tick_moves {timerTick : TimerTick} (valid : WellFormed timerTick)
    {order : List TimerTickId} (iterates : Iterates timerTick order) {ref : ServiceRef}
    {service : TimerTickService} (held : timerTick.memory ref = some service) :
    Moves timerTick (.tick order) ref service := by
  unfold Moves
  have fires := tick_fired valid iterates held
  have stored := tick_memory valid iterates ref
  rw [held, Option.map_some] at stored
  simp only [step, ownEvent, firings, fires, service_tick_fires, Option.toList_some, ownRun,
    ownStep, List.append_nil]
  refine ⟨rfl, _, stored, ?_⟩
  by_cases registered : service.cookie = nullCookie
  · have idle := valid.idle ref service held registered
    simp [idle_service_tick idle, own, idle, Countdown.idle_tick]
  · simp [service_tick_left service registered, own, TimerTickService.getIsRegistered]

/-- One call moves a service as its own event says, and not at all without one. -/
theorem own_step {timerTick : TimerTick} (valid : WellFormed timerTick) (call : Call)
    (iterates : ∀ order, call = .tick order → Iterates timerTick order)
    {ref : ServiceRef} {interval : Int} {periodic : Bool} {state : Own}
    (holds : Holds timerTick ref interval periodic state) :
    let moved := ownRun interval periodic state (ownEvent ref timerTick call).toList
    firings ref [(step timerTick call).1] = moved.1 ∧
      Holds (step timerTick call).2 ref interval periodic moved.2 := by
  obtain ⟨service, held, rfl, rfl, rfl⟩ := holds
  cases call with
  | register target start => exact register_moves valid target start held
  | start cookie => exact start_moves valid cookie held
  | unregister cookie => exact unregister_moves valid cookie held
  | tick order => exact tick_moves valid (iterates order rfl) held

/-! One call, for a service that is known to hold some state. -/

theorem holds_call {timerTick : TimerTick} (valid : WellFormed timerTick)
    {call : Call} {ref : ServiceRef} {interval : Int} {periodic : Bool} {state : Own}
    (theirs : ownEvent ref timerTick call = none)
    (holds : Holds timerTick ref interval periodic state) :
    WellFormed (step timerTick call).2 ∧
      Holds (step timerTick call).2 ref interval periodic state := by
  have noTick : ∀ order, call = .tick order → Iterates timerTick order := by
    rintro order rfl
    cases theirs
  refine ⟨step_wellformed valid call noTick, ?_⟩
  have kept := (own_step valid call noTick holds).2
  rwa [theirs] at kept

/-- Registering services leaves a service of another reference as it is. -/
theorem holds_register {timerTick : TimerTick} (valid : WellFormed timerTick)
    {target ref : ServiceRef} (other : target ≠ ref) (start : Bool) {interval : Int}
    {periodic : Bool} {state : Own} (holds : Holds timerTick ref interval periodic state) :
    WellFormed (step timerTick (.register target start)).2 ∧
      Holds (step timerTick (.register target start)).2 ref interval periodic state :=
  holds_call valid (if_neg fun both => other both.1) holds

theorem holds_registered {timerTick : TimerTick} (valid : WellFormed timerTick)
    {ref : ServiceRef} (start : Bool) {interval : Int} {periodic : Bool}
    (holds : Holds timerTick ref interval periodic ⟨false, 0⟩) :
    WellFormed (step timerTick (.register ref start)).2 ∧
      Holds (step timerTick (.register ref start)).2 ref interval periodic
        ⟨true, if start then ticksFor interval else 0⟩ := by
  have noTick : ∀ order, Call.register ref start = .tick order → Iterates timerTick order :=
    fun _ same => by cases same
  refine ⟨step_wellformed valid _ noTick, ?_⟩
  have own := (own_step valid (.register ref start) noTick holds).2
  obtain ⟨service, held, _, _, state⟩ := holds
  have fresh : service.getIsRegistered = false := congrArg Own.registered state
  have reached : ownEvent ref timerTick (.register ref start) = some (.register start) :=
    if_pos ⟨rfl, by simp [held, fresh]⟩
  rwa [reached] at own

/-- Services registered one after the other. -/
def registrations (services : List (ServiceRef × Bool)) : List Call :=
  services.map fun service => .register service.1 service.2

theorem registrations_hold {timerTick : TimerTick} (valid : WellFormed timerTick)
    (services : List (ServiceRef × Bool)) {ref : ServiceRef} {interval : Int} {periodic : Bool}
    {state : Own} (other : ref ∉ services.map Prod.fst)
    (holds : Holds timerTick ref interval periodic state) :
    WellFormed (Machine.run step timerTick (registrations services)).2 ∧
      Holds (Machine.run step timerTick (registrations services)).2 ref interval periodic state := by
  induction services generalizing timerTick with
  | nil => exact ⟨valid, holds⟩
  | cons service rest ih =>
      rw [List.map_cons, List.mem_cons, not_or] at other
      obtain ⟨fine, kept⟩ := holds_register valid (Ne.symm other.1) service.2 holds
      exact ih fine other.2 kept

/-- Each of the services ends up registered, and counting if it was started. -/
theorem registrations_register {timerTick : TimerTick} (valid : WellFormed timerTick)
    (services : List (ServiceRef × Bool)) (once : (services.map Prod.fst).Nodup)
    {ref : ServiceRef} {start : Bool} (member : (ref, start) ∈ services) {interval : Int}
    {periodic : Bool} (holds : Holds timerTick ref interval periodic ⟨false, 0⟩) :
    WellFormed (Machine.run step timerTick (registrations services)).2 ∧
      Holds (Machine.run step timerTick (registrations services)).2 ref interval periodic
        ⟨true, if start then ticksFor interval else 0⟩ := by
  induction services generalizing timerTick with
  | nil => cases member
  | cons service rest ih =>
      obtain ⟨fresh, later⟩ := List.nodup_cons.mp once
      rcases List.mem_cons.mp member with rfl | behind
      · obtain ⟨fine, kept⟩ := holds_registered valid start holds
        exact registrations_hold fine rest fresh kept
      · have listed : ref ∈ rest.map Prod.fst := List.mem_map.mpr ⟨_, behind, rfl⟩
        have other : service.1 ≠ ref := fun same => fresh (same ▸ listed)
        obtain ⟨fine, kept⟩ := holds_register valid other service.2 holds
        exact ih fine later behind kept

theorem holds_tick {timerTick : TimerTick} (valid : WellFormed timerTick)
    {order : List TimerTickId} (iterates : Iterates timerTick order) {ref : ServiceRef}
    {interval : Int} {periodic registered : Bool} {left : Nat}
    (holds : Holds timerTick ref interval periodic ⟨registered, left⟩) :
    Holds (tick timerTick order).2 ref interval periodic
        ⟨registered, (Countdown.tick (ticksFor interval) periodic left).2⟩ ∧
      (tick timerTick order).1.count ref = if left = 1 then 1 else 0 := by
  obtain ⟨fires, later⟩ := own_step valid (.tick order)
    (fun _ same => by cases same; exact iterates) holds
  simp only [step, ownEvent, Option.toList_some, ownRun, ownStep, firings, List.append_nil,
    List.cons.injEq, and_true, Countdown.tick_fires_iff] at fires later
  exact ⟨later, fires⟩

theorem ownRun_append (interval : Int) (periodic : Bool) (state : Own)
    (first second : List OwnEvent) :
    ownRun interval periodic state (first ++ second) =
      ((ownRun interval periodic state first).1 ++
        (ownRun interval periodic (ownRun interval periodic state first).2 second).1,
        (ownRun interval periodic (ownRun interval periodic state first).2 second).2) := by
  induction first generalizing state with
  | nil => rfl
  | cons event rest ih => simp [ownRun, ih]

theorem firings_cons (ref : ServiceRef) (answer : Answer) (rest : List Answer) :
    firings ref (answer :: rest) = firings ref [answer] ++ firings ref rest := by
  cases answer <;> rfl

/-- Over a whole run a service does what its own events make it do. -/
theorem own_run (timerTick : TimerTick) (valid : WellFormed timerTick) (calls : List Call)
    (scheduled : Scheduled timerTick calls) {ref : ServiceRef} {interval : Int}
    {periodic : Bool} {state : Own} (holds : Holds timerTick ref interval periodic state) :
    let moved := ownRun interval periodic state (ownEvents ref timerTick calls)
    firings ref (Machine.run step timerTick calls).1 = moved.1 ∧
      Holds (Machine.run step timerTick calls).2 ref interval periodic moved.2 := by
  induction calls generalizing timerTick state with
  | nil => exact ⟨rfl, holds⟩
  | cons call rest ih =>
      obtain ⟨iterates, later⟩ := scheduled_step scheduled
      obtain ⟨fires, next⟩ := own_step valid call iterates holds
      obtain ⟨tail, final⟩ := ih _ (step_wellformed valid call iterates) later next
      simp only [Machine.run_cons, ownEvents, ownRun_append]
      rw [firings_cons, fires, tail]
      exact ⟨rfl, final⟩

/-! A counter that is left alone. -/

theorem ownRun_ticks (interval : Int) (periodic : Bool) (registered : Bool) (left n : Nat) :
    ownRun interval periodic ⟨registered, left⟩ (List.replicate n .tick) =
      ((List.range n).map fun k =>
          if Countdown.fires (ticksFor interval) periodic left k then 1 else 0,
        ⟨registered, Countdown.leftAfter (ticksFor interval) periodic left n⟩) := by
  induction n with
  | zero => rfl
  | succ n ih =>
      rw [List.replicate_succ', ownRun_append, ih]
      simp only [ownRun, ownStep, List.range_succ, List.map_append, List.map_cons, List.map_nil,
        List.append_nil]
      rfl

theorem only_ticks {events : List OwnEvent} (alone : ∀ event ∈ events, event = .tick) :
    events = List.replicate events.length .tick :=
  List.eq_replicate_iff.mpr ⟨rfl, alone⟩

/-- A counter just loaded fires at the ticks it is due. -/
theorem loaded_fires (interval : Int) (periodic : Bool) (registered : Bool)
    (events : List OwnEvent) (alone : ∀ event ∈ events, event = .tick) (k : Nat) (count : Nat)
    (tick : (ownRun interval periodic ⟨registered, ticksFor interval⟩ events).1[k]? =
      some count) :
    count = if Countdown.Due (ticksFor interval) periodic (k + 1) then 1 else 0 := by
  rw [only_ticks alone, ownRun_ticks] at tick
  simp only [List.getElem?_map, Option.map_eq_some_iff] at tick
  obtain ⟨index, found, rfl⟩ := tick
  obtain ⟨_, rfl⟩ := List.getElem?_eq_some_iff.mp found
  simp only [List.getElem_range,
    Countdown.fires_iff_due _ periodic k (ticksFor_positive interval)]

/-- A counter at rest does not fire until it is started. -/
theorem unstarted_silent (interval : Int) (periodic : Bool) (registered : Bool)
    (events : List OwnEvent)
    (unstarted : ∀ event ∈ events, event ≠ .start ∧ event ≠ .register true) :
    ∀ count ∈ (ownRun interval periodic ⟨registered, 0⟩ events).1, count = 0 := by
  induction events generalizing registered with
  | nil => simp [ownRun]
  | cons event rest ih =>
      have later : ∀ event ∈ rest, event ≠ .start ∧ event ≠ .register true :=
        fun e member => unstarted e (List.mem_cons_of_mem event member)
      have now := unstarted event List.mem_cons_self
      cases event with
      | start => exact absurd rfl now.1
      | register start =>
          cases start with
          | true => exact absurd rfl now.2
          | false => simpa [ownRun, ownStep] using ih true later
      | unregister => simpa [ownRun, ownStep] using ih false later
      | tick => simpa [ownRun, ownStep, Countdown.idle_tick] using ih registered later

theorem boot_holds (objects : ServiceRef → Option (Int × Bool)) {ref : ServiceRef}
    {interval : Int} {periodic : Bool} (constructed : objects ref = some (interval, periodic)) :
    Holds (boot objects) ref interval periodic ⟨false, 0⟩ :=
  ⟨.new interval periodic, by simp [boot, TimerTick.new, constructed], rfl, rfl, rfl⟩

/-- What is left of a service that is not registered. -/
theorem unregistered_rests {timerTick : TimerTick} (valid : WellFormed timerTick)
    {ref : ServiceRef} {interval : Int} {periodic : Bool} {state : Own}
    (holds : Holds timerTick ref interval periodic state) (out : state.registered = false) :
    state.ticksLeft = 0 := by
  obtain ⟨service, held, _, _, rfl⟩ := holds
  apply valid.idle ref service held
  simpa [own, TimerTickService.getIsRegistered] using out

theorem register_reaches {timerTick : TimerTick} {call : Call} {ref : ServiceRef}
    {interval : Int} {periodic : Bool} {state : Own} {start : Bool}
    (holds : Holds timerTick ref interval periodic state)
    (reached : ownEvent ref timerTick call = some (.register start)) :
    state.registered = false := by
  obtain ⟨service, held, _, _, rfl⟩ := holds
  cases call with
  | register target started =>
      simp only [ownEvent] at reached
      split at reached
      · rename_i hit
        simpa [held, own] using hit.2
      · cases reached
  | start cookie =>
      simp only [ownEvent] at reached
      split at reached <;> cases reached
  | unregister cookie =>
      simp only [ownEvent] at reached
      split at reached <;> cases reached
  | tick order => cases reached

theorem ticksFor_nonnegative {interval : Int} (nonnegative : 0 ≤ interval) :
    ticksFor interval = 1 + (interval / 12).toNat := by
  simp [ticksFor, nonnegative, millisPerTick]

/-- In every run a service that is started, for the first time or again, fires
from then on at exactly the multiples of its period, or once if it is one-shot;
registered without a start it stays silent until it is started; and its firings
depend on its own events alone, not on the other services nor on the order in
which the table is gone over. -/
theorem services_fire_on_schedule (objects : ServiceRef → Option (Int × Bool))
    (before : List Call) (scheduled : Scheduled (boot objects) before) (ref : ServiceRef)
    (interval : Int) (periodic : Bool) (constructed : objects ref = some (interval, periodic)) :
    let now := (Machine.run step (boot objects) before).2
    (∀ call after, 0 ≤ interval → Scheduled now (call :: after) →
      ownEvent ref now call = some .start ∨ ownEvent ref now call = some (.register true) →
      (∀ event ∈ ownEvents ref (step now call).2 after, event = .tick) →
      ∀ k count, (firings ref (Machine.run step (step now call).2 after).1)[k]? = some count →
        count = if Countdown.Due (1 + (interval / 12).toNat) periodic (k + 1) then 1 else 0) ∧
    (∀ call after, Scheduled now (call :: after) →
      ownEvent ref now call = some (.register false) →
      (∀ event ∈ ownEvents ref (step now call).2 after,
        event ≠ .start ∧ event ≠ .register true) →
      ∀ count ∈ firings ref (Machine.run step (step now call).2 after).1, count = 0) ∧
    (∀ objects' before', Scheduled (boot objects') before' → objects' ref = objects ref →
      ownEvents ref (boot objects') before' = ownEvents ref (boot objects) before →
      firings ref (Machine.run step (boot objects') before').1 =
        firings ref (Machine.run step (boot objects) before).1) := by
  have bootValid := boot_wellformed objects
  have bootHolds := boot_holds objects constructed
  have valid := run_wellformed (boot objects) before bootValid scheduled
  obtain ⟨fired, holds⟩ := own_run (boot objects) bootValid before scheduled bootHolds
  refine ⟨?_, ?_, ?_⟩
  · intro call after nonnegative runs starts alone k count tick
    obtain ⟨iterates, later⟩ := scheduled_step runs
    obtain ⟨_, loaded⟩ := own_step valid call iterates holds
    have nextValid := step_wellformed valid call iterates
    obtain ⟨fires, _⟩ := own_run _ nextValid after later loaded
    rw [fires] at tick
    rw [← ticksFor_nonnegative nonnegative]
    rcases starts with start | registers
    · simp only [start, Option.toList_some, ownRun, ownStep] at tick
      exact loaded_fires interval periodic _ _ alone k count tick
    · simp only [registers, Option.toList_some, ownRun, ownStep, if_true] at tick
      exact loaded_fires interval periodic _ _ alone k count tick
  · intro call after runs registers unstarted
    obtain ⟨iterates, later⟩ := scheduled_step runs
    obtain ⟨_, waiting⟩ := own_step valid call iterates holds
    have nextValid := step_wellformed valid call iterates
    obtain ⟨fires, _⟩ := own_run _ nextValid after later waiting
    -- A service that is registered without a start has no tick left to count.
    have rests := unregistered_rests valid holds (register_reaches holds registers)
    rw [fires]
    simp only [registers, Option.toList_some, ownRun, ownStep, Bool.false_eq_true, if_false, rests]
    exact unstarted_silent interval periodic true _ unstarted
  · intro objects' before' scheduled' alike same
    have bootHolds' := boot_holds objects' (alike.trans constructed)
    obtain ⟨fired', _⟩ := own_run (boot objects') (boot_wellformed objects') before' scheduled'
      bootHolds'
    rw [fired, fired', same]

/-- One periodic service of 24 milliseconds, at reference 0. -/
def oneService (ref : ServiceRef) : Option (Int × Bool) := if ref = 0 then some (24, true) else none

theorem services_fire_on_schedule_sample :
    let started := (step (boot oneService) (.register 0 true)).2
    let ticks : List Call := [.tick [1], .tick [1], .tick [1]]
    (firings 0 (Machine.run step started ticks).1)[2]? = some 1 ∧
      1 = if Countdown.Due (1 + ((24 : Int) / 12).toNat) true (2 + 1) then 1 else 0 := by
  intro started ticks
  have fired : (firings 0 (Machine.run step started ticks).1)[2]? = some 1 := by decide
  refine ⟨fired, ?_⟩
  exact (services_fire_on_schedule oneService [] trivial 0 24 true rfl).1 (.register 0 true) ticks
    (by decide) ⟨.refl _, .refl _, .refl _, trivial⟩ (Or.inr rfl) (by decide) 2 1 fired

end OClock.TimerSchedule
