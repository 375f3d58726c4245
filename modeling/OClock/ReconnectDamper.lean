import OClock.MqttPhases
import OClock.PeriodicDamper

/-!
The damper of the reconnections in the two threads. Its countdown is part of the timer
table, its flag is taken by the MQTT thread right before `mosquitto_connect`.
-/

namespace OClock.ReconnectDamper
open InboxRegistry TimerTable TimerSchedule MqttLoop LabelledRun MqttThreads MqttTurns MqttPhases
open PeriodicDamper (Damper Move Label)

/-- The thread has taken the flag and is about to connect. -/
def holding : MqttAt → Bool
  | .connecting => true
  | _ => false

/-- The timer thread is about to raise the flag. -/
def due : TimerAt → Bool
  | .triggering ref _ => ref == timerTickReconnectDamper
  | _ => false

/-- The entries that the pass has not reached. -/
def ahead : TimerAt → List TimerTickId
  | .sleeping => []
  | .passing rest | .triggering _ rest | .queueing rest => rest

def labelOf : Event → Label
  | .tick => .tick
  | .exchanged ref expired =>
      if ref = timerTickReconnectDamper ∧ expired = true then .taken else .silent
  | .called .connect => .called
  | _ => .silent

theorem label_other {ref : ServiceRef} (other : ref ≠ timerTickReconnectDamper)
    (expired : Bool) : labelOf (.exchanged ref expired) = .silent := by
  simp [labelOf, other]

structure Shows (world : World) (damper : Damper) : Prop where
  sound : PeriodicDamper.Sound reconnectTicks damper
  table : WellFormed world.shared.timerTick
  counter : Holds world.shared.timerTick timerTickReconnectDamper reconnectDamperInterval true
    ⟨decide (0 < damper.left), damper.left⟩
  flag : world.shared.expired timerTickReconnectDamper = damper.flag
  held : holding world.mqtt = damper.held
  due : due world.timer = damper.due
  once : (ahead world.timer).Nodup
  ahead : cookieOf world.shared timerTickReconnectDamper ∈ ahead world.timer ↔
    damper.ahead = true
  /-- The service is never registered without being started. -/
  planned : ∀ rest, world.mqtt = .registering rest → (timerTickReconnectDamper, false) ∉ rest

theorem start_shows (others : ServiceRef → Option (Int × Bool)) (port keepAlive : Int32) :
    Shows (World.start others port keepAlive) .new where
  sound := PeriodicDamper.new_sound _
  table := boot_wellformed (objects others)
  counter := boot_holds (objects others) rfl
  flag := rfl
  held := rfl
  due := rfl
  once := List.nodup_nil
  ahead := by simp [World.start, ReconnectDamper.ahead, Damper.new]
  planned rest same := by
    cases same
    decide

/-! Steps that leave the damper alone. -/

/-- What a step of the MQTT thread does to the damper, when it does nothing. -/
theorem shows_same {world next : World} {damper : Damper} (shows : Shows world damper)
    (table : next.shared.timerTick = world.shared.timerTick)
    (flag : next.shared.expired timerTickReconnectDamper =
      world.shared.expired timerTickReconnectDamper)
    (timer : next.timer = world.timer) (held : holding next.mqtt = holding world.mqtt)
    (planned : ∀ rest, next.mqtt = .registering rest → (timerTickReconnectDamper, false) ∉ rest) :
    Shows next damper where
  sound := shows.sound
  table := table ▸ shows.table
  counter := table ▸ shows.counter
  flag := flag.trans shows.flag
  held := held.trans shows.held
  due := timer ▸ shows.due
  once := timer ▸ shows.once
  ahead := by
    rw [timer, cookieOf, table]
    exact shows.ahead
  planned := planned

theorem asleep {world : World} {damper : Damper} (shows : Shows world damper)
    (free : world.timer = .sleeping) : damper.ahead = false := by
  have none := shows.ahead
  rw [free] at none
  simpa [ReconnectDamper.ahead] using none

/-- A call to the table, which is open only while the timer thread sleeps. -/
theorem shows_call {world next : World} {damper : Damper} (shows : Shows world damper)
    (free : world.timer = .sleeping) (timer : next.timer = world.timer)
    (table : WellFormed next.shared.timerTick)
    (counter : Holds next.shared.timerTick timerTickReconnectDamper reconnectDamperInterval true
      ⟨decide (0 < damper.left), damper.left⟩)
    (flag : next.shared.expired timerTickReconnectDamper =
      world.shared.expired timerTickReconnectDamper)
    (held : holding next.mqtt = holding world.mqtt)
    (planned : ∀ rest, next.mqtt = .registering rest → (timerTickReconnectDamper, false) ∉ rest) :
    Shows next damper where
  sound := shows.sound
  table := table
  counter := counter
  flag := flag.trans shows.flag
  held := held.trans shows.held
  due := timer ▸ shows.due
  once := timer ▸ shows.once
  ahead := by simp [timer, free, ReconnectDamper.ahead, asleep shows free]
  planned := planned

/-- A cookie leads to no service but its own. -/
theorem cookie_other {shared : Shared} (valid : WellFormed shared.timerTick)
    {ref other : ServiceRef} (different : ref ≠ other) :
    shared.timerTick.timerTickServices[cookieOf shared other]? ≠ some ref := by
  cases held : shared.timerTick.memory other with
  | none => simp [cookieOf, held, null_absent valid]
  | some service =>
      have cookie : cookieOf shared other = service.cookie := by simp [cookieOf, held]
      rw [cookie]
      by_cases out : service.cookie = nullCookie
      · simp [out, null_absent valid]
      · rw [valid.carried other service held out]
        exact fun same => different (Option.some.inj same).symm

theorem act_shows {world : World} {damper : Damper} (shows : Shows world damper)
    {action : Action} {rest : List Action}
    (stands : world.mqtt = .doing (action :: rest))
    (free : action = .startMotionDamper → world.timer = .sleeping) :
    Shows
      { world with
        mqtt := .doing rest
        client := (action.act world.client world.shared).1
        shared := (action.act world.client world.shared).2 } damper := by
  have held : holding (.doing rest) = holding world.mqtt := by rw [stands]; rfl
  cases action with
  | startMotionDamper =>
      have other : ownEvent timerTickReconnectDamper world.shared.timerTick
          (.start (cookieOf world.shared timerTickMotionDamper)) = none :=
        if_neg (cookie_other shows.table (by decide))
      obtain ⟨table, counter⟩ := holds_call shows.table other shows.counter
      exact shows_call shows (free rfl) rfl table counter rfl held nofun
  | _ => exact shows_same shows rfl rfl rfl held nofun

/-- A flag that is taken, or one of another service. -/
theorem exchange_other (shared : Shared) {ref : ServiceRef}
    (other : ref ≠ timerTickReconnectDamper) :
    (getAndResetExpired shared ref).2.expired timerTickReconnectDamper =
      shared.expired timerTickReconnectDamper := Function.update_of_ne (Ne.symm other) ..

/-! Steps that move the damper. -/

theorem periodTicks_positive : 0 < reconnectTicks := by decide

/-- What a step is to the damper. -/
def Simulates (damper : Damper) (label : Label) (next : World) : Prop :=
  ∃ after, Move reconnectTicks damper label after ∧ Shows next after

theorem simulates_same {next : World} {damper : Damper} (shows : Shows next damper) :
    Simulates damper .silent next := ⟨damper, .silent damper, shows⟩

theorem register_simulates {world : World} {damper : Damper} (shows : Shows world damper)
    {ref : ServiceRef} {start : Bool} {rest : List (ServiceRef × Bool)}
    (stands : world.mqtt = .registering ((ref, start) :: rest))
    (free : world.timer = .sleeping) : Simulates damper .silent
      { world with
        mqtt := .registering rest
        shared := { world.shared with
          timerTick := (registerTimerTickService world.shared.timerTick ref start).2 } } := by
  have planned := shows.planned _ stands
  have held : holding (.registering rest) = holding world.mqtt := by rw [stands]; rfl
  have later : ∀ others, MqttAt.registering rest = .registering others →
      (timerTickReconnectDamper, false) ∉ others := by
    rintro others same
    cases same
    exact fun member => planned (List.mem_cons_of_mem _ member)
  by_cases own : ref = timerTickReconnectDamper
  · subst own
    have starts : start = true := by
      cases start with
      | true => rfl
      | false => exact absurd List.mem_cons_self planned
    subst starts
    by_cases runs : 0 < damper.left
    -- A service that is registered already is refused.
    · have refused : ownEvent timerTickReconnectDamper world.shared.timerTick
          (.register timerTickReconnectDamper true) = none := by
        obtain ⟨service, present, _, _, state⟩ := shows.counter
        have registered : service.getIsRegistered = true :=
          (congrArg Own.registered state).trans (decide_eq_true runs)
        simp [ownEvent, present, registered]
      obtain ⟨table, counter⟩ := holds_call shows.table refused shows.counter
      exact simulates_same (shows_call shows free rfl table counter rfl held later)
    · have stopped : damper.left = 0 := Nat.eq_zero_of_not_pos runs
      have counter := shows.counter
      rw [stopped] at counter
      obtain ⟨table, counting⟩ := holds_registered shows.table true counter
      simp only [if_true, reconnectTicks_eq] at counting
      have move := @Move.start reconnectTicks damper stopped
      refine ⟨_, move, PeriodicDamper.move_sound periodTicks_positive move shows.sound, table,
        counting, shows.flag, held.trans shows.held, shows.due, shows.once, ?_, later⟩
      simp [ReconnectDamper.ahead, free, asleep shows free]
  · obtain ⟨table, counter⟩ := holds_register shows.table own start shows.counter
    exact simulates_same (shows_call shows free rfl table counter rfl held later)

theorem tick_simulates {world : World} {damper : Damper} (shows : Shows world damper)
    (wakes : world.timer = .sleeping) {order : List TimerTickId}
    (iterates : TimerTable.Iterates world.shared.timerTick order) :
    Simulates damper .tick { world with timer := .passing order } := by
  have counted := asleep shows wakes
  have settled : damper.due = false := by
    rw [← shows.due, wakes]
    rfl
  obtain ⟨service, present, _, _, state⟩ := id shows.counter
  have cookie : cookieOf world.shared timerTickReconnectDamper = service.cookie := by
    simp [cookieOf, present]
  have visits := iterates_visits shows.table iterates present
  by_cases runs : 0 < damper.left
  · have registered : service.cookie ≠ nullCookie := (registered_iff service).mp
      ((congrArg Own.registered state).trans (decide_eq_true runs))
    have move := @Move.tick reconnectTicks damper runs counted settled
    refine ⟨_, move, PeriodicDamper.move_sound periodTicks_positive move shows.sound,
      shows.table, shows.counter, shows.flag, shows.held, settled.symm,
      iterates_distinct iterates, ?_, shows.planned⟩
    simp only [ReconnectDamper.ahead, iff_true]
    exact cookie ▸ (visits.mpr registered).2
  · have stopped : damper.left = 0 := Nat.eq_zero_of_not_pos runs
    have unregistered : service.cookie = nullCookie := by
      have out := (congrArg Own.registered state).trans (decide_eq_false runs)
      simpa [own, TimerTickService.getIsRegistered] using out
    refine ⟨_, .idle stopped, shows.sound, shows.table, shows.counter, shows.flag, shows.held,
      settled.symm, iterates_distinct iterates, ?_, shows.planned⟩
    -- The null cookie is not in the table.
    simp only [ReconnectDamper.ahead, counted, Bool.false_eq_true, iff_false, cookie, unregistered]
    intro listed
    have inTable := iterates.mem_iff.mp listed
    rw [Std.ExtTreeMap.mem_keys, Std.ExtTreeMap.mem_iff_isSome_getElem?,
      null_absent shows.table] at inTable
    cases inTable

/-- The cookie of the damper leads to the damper, and no other cookie does. -/
theorem damper_cookie {shared : Shared} (valid : WellFormed shared.timerTick)
    {service : TimerTickService}
    (present : shared.timerTick.memory timerTickReconnectDamper = some service)
    {cookie : TimerTickId} {ref : ServiceRef}
    (found : shared.timerTick.timerTickServices[cookie]? = some ref) :
    cookieOf shared timerTickReconnectDamper = cookie ↔ ref = timerTickReconnectDamper := by
  have own : cookieOf shared timerTickReconnectDamper = service.cookie := by
    simp [cookieOf, present]
  rw [own]
  constructor
  · rintro rfl
    have listed := valid.carried _ service present (valid.issued _ ref found).1
    exact Option.some.inj (found.symm.trans listed)
  · rintro rfl
    obtain ⟨other, stored, carries⟩ := valid.points cookie _ found
    rw [present] at stored
    cases stored
    exact carries

theorem entry_other {world : World} {damper : Damper} (shows : Shows world damper)
    {cookie : TimerTickId} {rest : List TimerTickId}
    (reaches : world.timer = .passing (cookie :: rest))
    {next : World} (apart : cookieOf world.shared timerTickReconnectDamper ≠ cookie)
    (same : cookieOf next.shared timerTickReconnectDamper =
      cookieOf world.shared timerTickReconnectDamper)
    (table : WellFormed next.shared.timerTick)
    (counter : Holds next.shared.timerTick timerTickReconnectDamper reconnectDamperInterval true
      ⟨decide (0 < damper.left), damper.left⟩)
    (flag : next.shared.expired timerTickReconnectDamper =
      world.shared.expired timerTickReconnectDamper)
    (mqtt : next.mqtt = world.mqtt) (quiet : due next.timer = false)
    (passed : ReconnectDamper.ahead next.timer = rest) : Simulates damper .silent next := by
  have once := shows.once
  have listed := shows.ahead
  have settled := shows.due
  rw [reaches] at once listed settled
  refine simulates_same ⟨shows.sound, table, counter, flag.trans shows.flag, mqtt ▸ shows.held,
    quiet.trans settled, ?_, ?_, mqtt ▸ shows.planned⟩
  · rw [passed]
    exact (List.nodup_cons.mp once).2
  · rw [passed, same, ← listed]
    simp [ReconnectDamper.ahead, apart]

theorem countdown_last (period : Nat) : Countdown.tick period true 1 = (true, period) := rfl

theorem countdown_more (period : Nat) {left : Nat} (more : 1 < left) :
    Countdown.tick period true left = (false, left - 1) := by
  have running : 0 < left := Nat.lt_trans Nat.zero_lt_one more
  have again : ¬ left - 1 = 0 := by omega
  simp [Countdown.tick, running, again]

/-- The entry of the damper itself. -/
theorem entry_own {world : World} {damper : Damper} (shows : Shows world damper)
    {cookie : TimerTickId} {rest : List TimerTickId}
    (reaches : world.timer = .passing (cookie :: rest)) {service : TimerTickService}
    (found : world.shared.timerTick.timerTickServices[cookie]? = some timerTickReconnectDamper)
    (present : world.shared.timerTick.memory timerTickReconnectDamper = some service)
    (interval : service.interval = reconnectDamperInterval) (periodic : service.periodic = true)
    (state : own service = ⟨decide (0 < damper.left), damper.left⟩)
    (table : WellFormed (world.shared.timerTick.write timerTickReconnectDamper service.tick.2)) :
    Simulates damper .silent
      { world with
        timer := .after rest (if service.tick.1 then [timerTickReconnectDamper] else [])
        shared := { world.shared with timerTick :=
          world.shared.timerTick.write timerTickReconnectDamper service.tick.2 } } := by
  have mine : cookieOf world.shared timerTickReconnectDamper = cookie :=
    (damper_cookie shows.table present found).mpr rfl
  have carries : service.cookie = cookie := by simpa [cookieOf, present] using mine
  have registered : service.cookie ≠ nullCookie := carries ▸ (shows.table.issued _ _ found).1
  have listed := shows.ahead
  have once := shows.once
  have settled := shows.due
  rw [reaches] at listed once settled
  obtain ⟨fresh, later⟩ := List.nodup_cons.mp once
  have here : damper.ahead = true := listed.mp (mine ▸ List.mem_cons_self)
  have left : service.ticksLeft = damper.left := congrArg Own.ticksLeft state
  have fires := service_tick_fires service
  have counts := service_tick_left service registered
  rw [interval, periodic, left, reconnectTicks_eq] at fires counts
  have again : service.tick.2.cookie = cookie := (service_tick_cookie service).trans carries
  let after : Shared := { world.shared with
    timerTick := world.shared.timerTick.write timerTickReconnectDamper service.tick.2 }
  have passed : cookieOf after timerTickReconnectDamper = cookie := by
    simp [after, cookieOf, again]
  have state (ticksLeft : Nat) (some : 0 < ticksLeft)
      (next : service.tick.2 = ⟨reconnectDamperInterval, true, service.cookie, ticksLeft⟩) :
      Holds (world.shared.timerTick.write timerTickReconnectDamper service.tick.2)
        timerTickReconnectDamper reconnectDamperInterval true
        ⟨decide (0 < ticksLeft), ticksLeft⟩ := by
    refine ⟨_, write_same .., ?_, ?_, ?_⟩ <;> rw [next]
    simp [own, TimerTickService.getIsRegistered, registered, some]
  -- The entry counts down, or the period is over and starts again.
  by_cases last : damper.left = 1
  · rw [last, countdown_last] at fires counts
    rw [fires]
    have move := @Move.expire reconnectTicks damper here last
    refine ⟨_, move, PeriodicDamper.move_sound periodTicks_positive move shows.sound, table,
      state _ periodTicks_positive counts, shows.flag, shows.held, rfl, later, ?_,
      shows.planned⟩
    rw [passed]
    simpa [TimerAt.after, ReconnectDamper.ahead] using fresh
  · have more : 1 < damper.left := by
      have runs := shows.sound.runs here
      omega
    rw [countdown_more _ more] at fires counts
    rw [fires]
    have some : 0 < damper.left - 1 := Nat.sub_pos_of_lt more
    have move := @Move.count reconnectTicks damper here more
    refine ⟨_, move, PeriodicDamper.move_sound periodTicks_positive move shows.sound, table,
      state _ some counts, shows.flag, shows.held, settled, later, ?_, shows.planned⟩
    rw [passed]
    simpa [TimerAt.after, ReconnectDamper.ahead] using fresh

theorem entry_simulates {world : World} {damper : Damper} (shows : Shows world damper)
    {cookie : TimerTickId} {rest : List TimerTickId}
    (reaches : world.timer = .passing (cookie :: rest)) : Simulates damper .silent
      { world with
        timer := .after rest (tickEntry ([], world.shared.timerTick) cookie).1
        shared := { world.shared with
          timerTick := (tickEntry ([], world.shared.timerTick) cookie).2 } } := by
  have valid := tickEntry_wellformed shows.table [] cookie
  obtain ⟨service, present, interval, periodic, state⟩ := id shows.counter
  rcases tickEntry_cases shows.table [] cookie with
    ⟨absent, same⟩ | ⟨ref, other, found, stored, carries, same⟩
  · rw [same]
    refine entry_other shows reaches ?_ rfl shows.table shows.counter rfl rfl rfl rfl
    -- A cookie that the pass has still to reach is one of the table.
    intro mine
    have listed := shows.ahead
    rw [reaches, mine] at listed
    have runs := shows.sound.runs (listed.mp List.mem_cons_self)
    have registered : service.cookie ≠ nullCookie := (registered_iff service).mp
      ((congrArg Own.registered state).trans (decide_eq_true runs))
    have entry := shows.table.carried _ service present registered
    have own : cookieOf world.shared timerTickReconnectDamper = service.cookie := by
      simp [cookieOf, present]
    rw [← own, mine, absent] at entry
    cases entry
  · rw [same] at valid ⊢
    by_cases own : ref = timerTickReconnectDamper
    · subst own
      rw [present] at stored
      cases stored
      exact entry_own shows reaches found present interval periodic state valid
    · have apart : cookieOf world.shared timerTickReconnectDamper ≠ cookie :=
        fun mine => own ((damper_cookie shows.table present found).mp mine)
      have kept : (world.shared.timerTick.write ref other.tick.2).memory
          timerTickReconnectDamper = world.shared.timerTick.memory timerTickReconnectDamper :=
        write_other _ _ _ (Ne.symm own)
      refine entry_other shows reaches apart ?_ valid ?_ rfl rfl ?_ ?_
      · simp only [cookieOf, kept]
      · exact ⟨service, kept.trans present, interval, periodic, state⟩
      · split
        · exact beq_eq_false_iff_ne.mpr own
        · rfl
      · split <;> rfl

/-- A point of the program at which the thread neither registers nor holds the flag. -/
structure Elsewhere (mqtt : MqttAt) : Prop where
  free : holding mqtt = false
  registered : ∀ rest, mqtt ≠ .registering rest

/-- The MQTT thread goes on, and leaves the table and the flag as they are. -/
theorem moves_on {world next : World} {damper : Damper} (shows : Shows world damper)
    (table : next.shared.timerTick = world.shared.timerTick)
    (flag : next.shared.expired timerTickReconnectDamper =
      world.shared.expired timerTickReconnectDamper)
    (timer : next.timer = world.timer) (before : holding world.mqtt = false)
    (after : Elsewhere next.mqtt) : Simulates damper .silent next :=
  simulates_same (shows_same shows table flag timer (after.free.trans before.symm)
    fun rest same => absurd same (after.registered rest))

/-- The timer thread goes on within its pass. -/
theorem passes_on {world next : World} {damper : Damper} (shows : Shows world damper)
    (table : next.shared.timerTick = world.shared.timerTick)
    (flag : next.shared.expired timerTickReconnectDamper =
      world.shared.expired timerTickReconnectDamper)
    (rest : ahead next.timer = ahead world.timer) (quiet : due next.timer = due world.timer)
    (mqtt : next.mqtt = world.mqtt) : Simulates damper .silent next := by
  refine simulates_same ⟨shows.sound, table ▸ shows.table, table ▸ shows.counter,
    flag.trans shows.flag, mqtt ▸ shows.held, quiet.trans shows.due, rest ▸ shows.once, ?_,
    mqtt ▸ shows.planned⟩
  rw [rest, cookieOf, table]
  exact shows.ahead

theorem askDamper_simulates {world : World} {damper : Damper} (shows : Shows world damper)
    {rc : Int32} (stands : world.mqtt = .unconnected rc) : Simulates damper
      (labelOf (.exchanged timerTickReconnectDamper
        (world.shared.expired timerTickReconnectDamper)))
      { world with
        mqtt := if world.shared.expired timerTickReconnectDamper then .connecting
          else .doing [.storeRc rc]
        shared := (getAndResetExpired world.shared timerTickReconnectDamper).2 } := by
  have free : damper.held = false := by
    rw [← shows.held, stands]
    rfl
  have lowered : (getAndResetExpired world.shared timerTickReconnectDamper).2.expired
      timerTickReconnectDamper = false := by
    simp only [getAndResetExpired, Function.update_self]
  cases up : world.shared.expired timerTickReconnectDamper with
  | true =>
      have move := @Move.take reconnectTicks damper (shows.flag.symm.trans up) free
      refine ⟨_, move, PeriodicDamper.move_sound periodTicks_positive move shows.sound,
        shows.table, shows.counter, lowered, rfl, shows.due, shows.once, shows.ahead, ?_⟩
      intro rest same
      cases same
  | false =>
      have before : holding world.mqtt = false := shows.held.trans free
      have after : Elsewhere (.doing [.storeRc rc]) := ⟨rfl, fun _ same => by cases same⟩
      exact moves_on shows rfl (lowered.trans up.symm) rfl before after

theorem setExpired_simulates {world : World} {damper : Damper} (shows : Shows world damper)
    {ref : ServiceRef} {rest : List TimerTickId} (triggers : world.timer = .triggering ref rest) :
    Simulates damper .silent
      { world with
        timer := .passing rest
        shared := { world.shared with
          expired := Function.update world.shared.expired ref true } } := by
  have settled := shows.due
  have listed := shows.ahead
  have once := shows.once
  rw [triggers] at settled listed once
  by_cases own : ref = timerTickReconnectDamper
  · subst own
    have move := @Move.raise reconnectTicks damper settled.symm
    exact ⟨_, move, PeriodicDamper.move_sound periodTicks_positive move shows.sound,
      shows.table, shows.counter, by simp only [Function.update_self], shows.held, rfl, once,
      listed, shows.planned⟩
  · refine passes_on shows rfl (Function.update_of_ne (Ne.symm own) ..) ?_ ?_ rfl
    · rw [triggers]
      rfl
    · rw [triggers]
      exact (beq_eq_false_iff_ne.mpr own).symm

theorem step_simulates {world next : World} {event : Event} (step : Step world event next)
    {damper : Damper} (shows : Shows world damper) : Simulates damper (labelOf event) next := by
  cases step with
  | register stands free => exact register_simulates shows stands free
  | act stands plain free => exact simulates_same (act_shows shows stands free)
  | tick wakes iterates => exact tick_simulates shows wakes iterates
  | entry reaches => exact entry_simulates shows reaches
  | setExpired triggers => exact setExpired_simulates shows triggers
  -- The message of the loop is no business of the damper.
  | test triggers =>
      refine passes_on shows rfl rfl ?_ ?_ rfl <;> rw [triggers] <;> split <;> rfl
  | queue queues =>
      refine passes_on shows rfl rfl ?_ ?_ rfl <;> rw [queues] <;> rfl
  | passed done =>
      refine passes_on shows rfl rfl ?_ ?_ rfl <;> rw [done] <;> rfl
  | tell => exact passes_on shows rfl rfl rfl rfl rfl
  | timerCall free theirs =>
      obtain ⟨table, counter⟩ := holds_call shows.table
        (theirs timerTickReconnectDamper (by decide)) shows.counter
      refine simulates_same (shows_call shows free rfl ?_ ?_ rfl rfl shows.planned)
      · exact table
      · exact counter
  | callback => exact simulates_same (shows_same shows rfl rfl rfl rfl shows.planned)
  | askDamper stands => exact askDamper_simulates shows stands
  | connect stands =>
      have held : damper.held = true := by
        rw [← shows.held, stands]
        rfl
      have move := @Move.call reconnectTicks damper held
      exact ⟨_, move, PeriodicDamper.move_sound periodTicks_positive move shows.sound,
        shows.table, shows.counter, shows.flag, rfl, shows.due, shows.once, shows.ahead, nofun⟩
  | motionOn stands =>
      rw [label_other (by decide)]
      exact moves_on shows rfl (exchange_other _ (by decide)) rfl (by rw [stands]; rfl)
        ⟨rfl, nofun⟩
  | askReport stands =>
      rw [label_other (by decide)]
      refine moves_on shows rfl (exchange_other _ (by decide)) rfl (by rw [stands]; rfl) ?_
      dsimp only
      split <;> exact ⟨rfl, nofun⟩
  | registered stands | raise stands | receive stands | leave stands | lower stands
  | motionOff stands | display stands | noop stands | loop stands | loopReturns stands
  | countTick stands | skipReport stands | missed stands | connected stands
  | connectReturns stands | countAttempt stands | publish stands | publishReturns stands
  | handled stands => exact moves_on shows rfl rfl rfl (by rw [stands]; rfl) ⟨rfl, nofun⟩

theorem run_shows {others : ServiceRef → Option (Int × Bool)} {port keepAlive : Int32}
    {history : List Event} {world : World}
    (run : Run Step (World.start others port keepAlive) history world) :
    ∃ damper, Run (Move reconnectTicks) .new (history.map labelOf) damper ∧
      Shows world damper :=
  run.simulates Shows labelOf (start_shows others port keepAlive)
    fun _ _ _ _ step shows => step_simulates step shows

end OClock.ReconnectDamper
