import Mathlib.Data.List.Count
import Mathlib.Tactic.Linarith
import OClock.Countdown
import OClock.OrderedMap
import OClock.Text

/-!
The timer table of timerTick.cpp. A service object lives in `memory` at its
reference and carries its own cookie; the table leads from a cookie to the
reference, as the pointers of the source do. Cookies are issued from a counter
that is taken without the wrap of `unsigned long long`, which TimerCookies has:
the two tables are one until 2^64 - 1 services have been registered.
-/

namespace OClock.TimerTable
open Text

abbrev TimerTickId := Nat
abbrev ServiceRef := Nat

def nullCookie : TimerTickId := 0

def millisPerTick : Int := 12

structure TimerTickService where
  interval : Int
  periodic : Bool
  cookie : TimerTickId
  ticksLeft : Nat
  deriving DecidableEq, Repr

def TimerTickService.new (interval : Int) (periodic : Bool) : TimerTickService :=
  ⟨interval, periodic, nullCookie, 0⟩

def TimerTickService.getIsRegistered (service : TimerTickService) : Bool :=
  service.cookie != nullCookie

def TimerTickService.getIsExpired (service : TimerTickService) : Bool :=
  service.ticksLeft == 0

structure TimerTick where
  nextTimerTickId : TimerTickId
  timerTickServices : OrderedMap TimerTickId ServiceRef
  memory : ServiceRef → Option TimerTickService

/-- The table of a new `TimerTick`, over objects that exist already. -/
def TimerTick.new (memory : ServiceRef → Option TimerTickService) : TimerTick :=
  ⟨nullCookie + 1, ∅, memory⟩

def TimerTick.write (timerTick : TimerTick) (ref : ServiceRef)
    (service : TimerTickService) : TimerTick :=
  { timerTick with memory := Function.update timerTick.memory ref (some service) }

/-- The object at `ref` is deleted. -/
def TimerTick.free (timerTick : TimerTick) (ref : ServiceRef) : TimerTick :=
  { timerTick with memory := Function.update timerTick.memory ref none }

/-- `1 + interval / millisPerTick`, or one tick for a negative interval. -/
def ticksFor (interval : Int) : Nat :=
  if 0 ≤ interval then 1 + (interval / millisPerTick).toNat else 1

def TimerTickService.startTimerTickService2 (service : TimerTickService) : TimerTickService :=
  { service with ticksLeft := ticksFor service.interval }

/-- The error of an access through a reference that leads to no live object. -/
def danglingService : Bytes := bytes "no such TimerTickService"

def doubleRegister (cookie : TimerTickId) : Bytes :=
  bytes ("double register or invalid cookie for: " ++ toString cookie)

def registerTimerTickService (timerTick : TimerTick) (ref : ServiceRef) (start : Bool) :
    Except Bytes TimerTickId × TimerTick :=
  match timerTick.memory ref with
  | none => (.error danglingService, timerTick)
  | some service =>
      if service.getIsRegistered then
        (.error (doubleRegister service.cookie), timerTick)
      else
        let cookie := timerTick.nextTimerTickId
        let service := { service with cookie := cookie }
        let issued :=
          { timerTick.write ref service with nextTimerTickId := timerTick.nextTimerTickId + 1 }
        if cookie = nullCookie then
          (.error (bytes "too many timerTickServices?"), issued)
        else if issued.timerTickServices.contains cookie then
          (.error (bytes ("could not insert TimerTickService for: " ++ toString cookie)), issued)
        else
          let inserted :=
            { issued with timerTickServices := issued.timerTickServices.insert cookie ref }
          if start then (.ok cookie, inserted.write ref service.startTimerTickService2)
          else (.ok cookie, inserted)

def startTimerTickService (timerTick : TimerTick) (cookie : TimerTickId) : Bool × TimerTick :=
  match timerTick.timerTickServices[cookie]? with
  | none => (false, timerTick)
  | some ref =>
      match timerTick.memory ref with
      | none => (false, timerTick)
      | some service => (true, timerTick.write ref service.startTimerTickService2)

def unregisterTimerTickService (timerTick : TimerTick) (cookie : TimerTickId) : TimerTick :=
  match timerTick.timerTickServices[cookie]? with
  | none => timerTick
  | some ref =>
      let erased :=
        { timerTick with timerTickServices := timerTick.timerTickServices.erase cookie }
      match timerTick.memory ref with
      | none => erased
      | some service => erased.write ref { service with cookie := nullCookie, ticksLeft := 0 }

/-- The body of the loop over the table: whether `expireTrigger` is called, and
the service afterwards. -/
def TimerTickService.tick (service : TimerTickService) : Bool × TimerTickService :=
  if 0 < service.ticksLeft then
    let service := { service with ticksLeft := service.ticksLeft - 1 }
    if service.ticksLeft = 0 then
      (true, if service.periodic && service.getIsRegistered then service.startTimerTickService2
        else service)
    else (false, service)
  else (false, service)

/-- One entry of the table. The references whose `expireTrigger` has been called
in this tick are collected in the order of the calls. -/
def tickEntry (state : List ServiceRef × TimerTick) (cookie : TimerTickId) :
    List ServiceRef × TimerTick :=
  match state.2.timerTickServices[cookie]? with
  | none => state
  | some ref =>
      match state.2.memory ref with
      | none => state
      | some service =>
          let ticked := service.tick
          (if ticked.1 then state.1 ++ [ref] else state.1, state.2.write ref ticked.2)

/-- One pass of `runThreadLoop` over the table, in the iteration order `order`. -/
def tick (timerTick : TimerTick) (order : List TimerTickId) : List ServiceRef × TimerTick :=
  order.foldl tickEntry ([], timerTick)

/-! A service seen alone is a counter. -/

@[simp] theorem ticksFor_positive (interval : Int) : 0 < ticksFor interval := by
  unfold ticksFor
  split <;> omega

theorem registered_iff (service : TimerTickService) :
    service.getIsRegistered = true ↔ service.cookie ≠ nullCookie := by
  simp [TimerTickService.getIsRegistered]

@[simp] theorem start_cookie (service : TimerTickService) :
    service.startTimerTickService2.cookie = service.cookie := rfl

theorem service_tick_cookie (service : TimerTickService) :
    service.tick.2.cookie = service.cookie := by
  unfold TimerTickService.tick
  by_cases running : 0 < service.ticksLeft
  · by_cases last : service.ticksLeft - 1 = 0
    · simp only [running, last, if_true]
      split <;> rfl
    · simp [running, last]
  · simp [running]

theorem service_tick_fixed (service : TimerTickService) :
    service.tick.2.interval = service.interval ∧ service.tick.2.periodic = service.periodic := by
  unfold TimerTickService.tick
  by_cases running : 0 < service.ticksLeft
  · by_cases last : service.ticksLeft - 1 = 0
    · simp only [running, last, if_true]
      split <;> exact ⟨rfl, rfl⟩
    · simp [running, last]
  · simp [running]

theorem service_tick_fires (service : TimerTickService) :
    service.tick.1 =
      (Countdown.tick (ticksFor service.interval) service.periodic service.ticksLeft).1 := by
  unfold TimerTickService.tick Countdown.tick
  by_cases running : 0 < service.ticksLeft
  · by_cases last : service.ticksLeft - 1 = 0 <;> simp [running, last]
  · simp [running]

/-- A registered service counts down like a counter of its own period. -/
theorem service_tick_left (service : TimerTickService)
    (registered : service.cookie ≠ nullCookie) :
    service.tick.2 = { service with ticksLeft :=
      (Countdown.tick (ticksFor service.interval) service.periodic service.ticksLeft).2 } := by
  unfold TimerTickService.tick Countdown.tick
  by_cases running : 0 < service.ticksLeft
  · by_cases last : service.ticksLeft - 1 = 0
    · by_cases again : service.periodic = true
      · simp [running, last, again, TimerTickService.getIsRegistered, registered,
          TimerTickService.startTimerTickService2]
      · simp [running, last, again]
    · simp [running, last]
  · simp [running]

/-! Cookies in the table and cookies in the services agree. -/

structure WellFormed (timerTick : TimerTick) : Prop where
  points : ∀ cookie ref, timerTick.timerTickServices[cookie]? = some ref →
    ∃ service, timerTick.memory ref = some service ∧ service.cookie = cookie
  carried : ∀ ref service, timerTick.memory ref = some service →
    service.cookie ≠ nullCookie → timerTick.timerTickServices[service.cookie]? = some ref
  issued : ∀ cookie ref, timerTick.timerTickServices[cookie]? = some ref →
    cookie ≠ nullCookie ∧ cookie < timerTick.nextTimerTickId
  idle : ∀ ref service, timerTick.memory ref = some service →
    service.cookie = nullCookie → service.ticksLeft = 0
  counting : nullCookie < timerTick.nextTimerTickId

theorem new_wellformed (memory : ServiceRef → Option TimerTickService)
    (constructed : ∀ ref service, memory ref = some service →
      service.cookie = nullCookie ∧ service.ticksLeft = 0) :
    WellFormed (TimerTick.new memory) where
  points cookie ref found := by simp [TimerTick.new] at found
  carried ref service present registered :=
    absurd (constructed ref service present).1 registered
  issued cookie ref found := by simp [TimerTick.new] at found
  idle ref service present _ := (constructed ref service present).2
  counting := by simp [TimerTick.new]

section Write
variable (timerTick : TimerTick) (ref : ServiceRef) (service : TimerTickService)

@[simp] theorem write_same : (timerTick.write ref service).memory ref = some service := by
  simp [TimerTick.write]

theorem write_other {other : ServiceRef} (different : other ≠ ref) :
    (timerTick.write ref service).memory other = timerTick.memory other := by
  simp [TimerTick.write, different]

@[simp] theorem write_table : (timerTick.write ref service).timerTickServices =
    timerTick.timerTickServices := rfl

@[simp] theorem write_next : (timerTick.write ref service).nextTimerTickId =
    timerTick.nextTimerTickId := rfl

end Write

/-- Rewriting a service without touching its cookie keeps the agreement, as
long as an unregistered one is left idle. -/
theorem write_wellformed {timerTick : TimerTick} (valid : WellFormed timerTick)
    {ref : ServiceRef} {before after : TimerTickService}
    (present : timerTick.memory ref = some before) (same : after.cookie = before.cookie)
    (rests : after.cookie = nullCookie → after.ticksLeft = 0) :
    WellFormed (timerTick.write ref after) where
  points cookie owner found := by
    obtain ⟨service, stored, carries⟩ := valid.points cookie owner found
    by_cases hit : owner = ref
    · subst hit
      rw [present] at stored
      cases stored
      exact ⟨after, write_same .., same.trans carries⟩
    · exact ⟨service, (write_other _ _ _ hit).trans stored, carries⟩
  carried owner service stored registered := by
    by_cases hit : owner = ref
    · subst hit
      rw [write_same] at stored
      cases stored
      rw [same] at registered ⊢
      exact valid.carried owner before present registered
    · rw [write_other _ _ _ hit] at stored
      exact valid.carried owner service stored registered
  issued cookie owner found := valid.issued cookie owner found
  idle owner service stored unregistered := by
    by_cases hit : owner = ref
    · subst hit
      rw [write_same] at stored
      cases stored
      exact rests unregistered
    · rw [write_other _ _ _ hit] at stored
      exact valid.idle owner service stored unregistered
  counting := valid.counting

/-! What each call can do, said once. -/

/-- The state after a registration that was accepted. -/
def registered (timerTick : TimerTick) (ref : ServiceRef) (service : TimerTickService)
    (start : Bool) : TimerTick where
  nextTimerTickId := timerTick.nextTimerTickId + 1
  timerTickServices := timerTick.timerTickServices.insert timerTick.nextTimerTickId ref
  memory := Function.update timerTick.memory ref (some { service with
    cookie := timerTick.nextTimerTickId
    ticksLeft := if start then ticksFor service.interval else service.ticksLeft })

theorem next_unused {timerTick : TimerTick} (valid : WellFormed timerTick) :
    timerTick.timerTickServices[timerTick.nextTimerTickId]? = none := by
  cases taken : timerTick.timerTickServices[timerTick.nextTimerTickId]? with
  | none => rfl
  | some ref => exact absurd (valid.issued _ ref taken).2 (Nat.lt_irrefl _)

theorem register_accepts {timerTick : TimerTick} (valid : WellFormed timerTick)
    {ref : ServiceRef} {service : TimerTickService} (start : Bool)
    (present : timerTick.memory ref = some service) (fresh : service.cookie = nullCookie) :
    registerTimerTickService timerTick ref start =
      (.ok timerTick.nextTimerTickId, registered timerTick ref service start) := by
  have real : timerTick.nextTimerTickId ≠ nullCookie := Nat.ne_of_gt valid.counting
  have unused : timerTick.timerTickServices.contains timerTick.nextTimerTickId = false := by
    rw [OrderedMap.contains_lookup, next_unused valid]
    rfl
  have unregistered : service.getIsRegistered = false := by
    simp [TimerTickService.getIsRegistered, fresh]
  cases start <;>
    simp [registerTimerTickService, present, unregistered, real, unused, registered,
      TimerTick.write, TimerTickService.startTimerTickService2]

theorem register_refuses {timerTick : TimerTick} {ref : ServiceRef}
    {service : TimerTickService} (start : Bool)
    (present : timerTick.memory ref = some service) (taken : service.cookie ≠ nullCookie) :
    registerTimerTickService timerTick ref start =
      (.error (doubleRegister service.cookie), timerTick) := by
  simp [registerTimerTickService, present, TimerTickService.getIsRegistered, taken]

theorem register_cases {timerTick : TimerTick} (valid : WellFormed timerTick)
    (ref : ServiceRef) (start : Bool) :
    (∃ message, registerTimerTickService timerTick ref start = (.error message, timerTick)) ∨
      ∃ service, timerTick.memory ref = some service ∧ service.cookie = nullCookie ∧
        registerTimerTickService timerTick ref start =
          (.ok timerTick.nextTimerTickId, registered timerTick ref service start) := by
  cases present : timerTick.memory ref with
  | none => exact Or.inl ⟨danglingService, by simp [registerTimerTickService, present]⟩
  | some service =>
      by_cases fresh : service.cookie = nullCookie
      · exact Or.inr ⟨service, rfl, fresh, register_accepts valid start present fresh⟩
      · exact Or.inl ⟨_, register_refuses start present fresh⟩

theorem start_cases {timerTick : TimerTick} (valid : WellFormed timerTick)
    (cookie : TimerTickId) :
    (timerTick.timerTickServices[cookie]? = none ∧
      startTimerTickService timerTick cookie = (false, timerTick)) ∨
    ∃ ref service, timerTick.timerTickServices[cookie]? = some ref ∧
      timerTick.memory ref = some service ∧ service.cookie = cookie ∧
      startTimerTickService timerTick cookie =
        (true, timerTick.write ref service.startTimerTickService2) := by
  cases found : timerTick.timerTickServices[cookie]? with
  | none => exact Or.inl ⟨rfl, by simp [startTimerTickService, found]⟩
  | some ref =>
      obtain ⟨service, present, carries⟩ := valid.points cookie ref found
      exact Or.inr ⟨ref, service, rfl, present, carries,
        by simp [startTimerTickService, found, present]⟩

/-- The state after a table entry has been taken out. -/
def unregistered (timerTick : TimerTick) (ref : ServiceRef)
    (service : TimerTickService) : TimerTick where
  nextTimerTickId := timerTick.nextTimerTickId
  timerTickServices := timerTick.timerTickServices.erase service.cookie
  memory := Function.update timerTick.memory ref
    (some { service with cookie := nullCookie, ticksLeft := 0 })

theorem unregister_cases {timerTick : TimerTick} (valid : WellFormed timerTick)
    (cookie : TimerTickId) :
    (timerTick.timerTickServices[cookie]? = none ∧
      unregisterTimerTickService timerTick cookie = timerTick) ∨
    ∃ ref service, timerTick.timerTickServices[cookie]? = some ref ∧
      timerTick.memory ref = some service ∧ service.cookie = cookie ∧
      unregisterTimerTickService timerTick cookie = unregistered timerTick ref service := by
  cases found : timerTick.timerTickServices[cookie]? with
  | none => exact Or.inl ⟨rfl, by simp [unregisterTimerTickService, found]⟩
  | some ref =>
      obtain ⟨service, present, carries⟩ := valid.points cookie ref found
      refine Or.inr ⟨ref, service, rfl, present, carries, ?_⟩
      simp [unregisterTimerTickService, found, present, unregistered, TimerTick.write, carries]

theorem tickEntry_cases {timerTick : TimerTick} (valid : WellFormed timerTick)
    (fired : List ServiceRef) (cookie : TimerTickId) :
    (timerTick.timerTickServices[cookie]? = none ∧
      tickEntry (fired, timerTick) cookie = (fired, timerTick)) ∨
    ∃ ref service, timerTick.timerTickServices[cookie]? = some ref ∧
      timerTick.memory ref = some service ∧ service.cookie = cookie ∧
      tickEntry (fired, timerTick) cookie =
        (if service.tick.1 then fired ++ [ref] else fired,
          timerTick.write ref service.tick.2) := by
  cases found : timerTick.timerTickServices[cookie]? with
  | none => exact Or.inl ⟨rfl, by simp [tickEntry, found]⟩
  | some ref =>
      obtain ⟨service, present, carries⟩ := valid.points cookie ref found
      exact Or.inr ⟨ref, service, rfl, present, carries, by simp [tickEntry, found, present]⟩

/-! Every call keeps the agreement. -/

theorem registered_wellformed {timerTick : TimerTick} (valid : WellFormed timerTick)
    {ref : ServiceRef} {service : TimerTickService} (start : Bool)
    (present : timerTick.memory ref = some service) (fresh : service.cookie = nullCookie) :
    WellFormed (registered timerTick ref service start) where
  points cookie owner found := by
    simp only [registered, OrderedMap.lookup_insert] at found ⊢
    split at found
    · rename_i same
      cases found
      exact ⟨_, Function.update_self .., same⟩
    · obtain ⟨other, stored, carries⟩ := valid.points cookie owner found
      have different : owner ≠ ref := by
        rintro rfl
        rw [present] at stored
        cases stored
        exact (valid.issued cookie owner found).1 (carries.symm.trans fresh)
      exact ⟨other, (Function.update_of_ne different ..).trans stored, carries⟩
  carried owner other stored carries := by
    simp only [registered, OrderedMap.lookup_insert] at stored ⊢
    by_cases hit : owner = ref
    · subst hit
      rw [Function.update_self] at stored
      cases stored
      simp
    · rw [Function.update_of_ne hit] at stored
      have held := valid.carried owner other stored carries
      have older := (valid.issued _ owner held).2
      rw [if_neg (Nat.ne_of_gt older)]
      exact held
  issued cookie owner found := by
    simp only [registered, OrderedMap.lookup_insert] at found ⊢
    split at found
    · rename_i same
      subst same
      exact ⟨Nat.ne_of_gt valid.counting, Nat.lt_succ_self _⟩
    · have older := valid.issued cookie owner found
      exact ⟨older.1, Nat.lt_succ_of_lt older.2⟩
  idle owner other stored unregistered := by
    by_cases hit : owner = ref
    · subst hit
      simp only [registered, Function.update_self, Option.some.injEq] at stored
      subst stored
      exact absurd unregistered (Nat.ne_of_gt valid.counting)
    · simp only [registered, Function.update_of_ne hit] at stored
      exact valid.idle owner other stored unregistered
  counting := Nat.lt_succ_of_lt valid.counting

/-- Whatever is written over a service, the entries left once its cookie is erased still lead to
services that carry them. -/
theorem erased_points {timerTick : TimerTick} (valid : WellFormed timerTick)
    {ref : ServiceRef} {service : TimerTickService}
    (present : timerTick.memory ref = some service) {cookie : TimerTickId}
    {owner : ServiceRef}
    (listed : (timerTick.timerTickServices.erase service.cookie)[cookie]? = some owner)
    (value : Option TimerTickService) :
    ∃ other, Function.update timerTick.memory ref value owner = some other ∧
      other.cookie = cookie := by
  obtain ⟨different, before⟩ := OrderedMap.lookup_erase_some listed
  obtain ⟨other, stored, carries⟩ := valid.points cookie owner before
  have elsewhere : owner ≠ ref := by
    rintro rfl
    rw [present] at stored
    cases stored
    exact different carries
  exact ⟨other, (Function.update_of_ne elsewhere ..).trans stored, carries⟩

theorem unregistered_wellformed {timerTick : TimerTick} (valid : WellFormed timerTick)
    {ref : ServiceRef} {service : TimerTickService}
    (found : timerTick.timerTickServices[service.cookie]? = some ref)
    (present : timerTick.memory ref = some service) :
    WellFormed (unregistered timerTick ref service) where
  points _ _ listed := erased_points valid present listed _
  carried owner other stored carries := by
    simp only [unregistered, OrderedMap.lookup_erase] at stored ⊢
    by_cases hit : owner = ref
    · subst hit
      rw [Function.update_self] at stored
      cases stored
      exact absurd rfl carries
    · rw [Function.update_of_ne hit] at stored
      have held := valid.carried owner other stored carries
      have different : service.cookie ≠ other.cookie := by
        intro same
        rw [← same, found] at held
        cases held
        exact hit rfl
      rw [if_neg different]
      exact held
  issued cookie owner listed := valid.issued cookie owner (OrderedMap.lookup_erase_some listed).2
  idle owner other stored unregistered := by
    by_cases hit : owner = ref
    · subst hit
      simp only [TimerTable.unregistered, Function.update_self, Option.some.injEq] at stored
      subst stored
      rfl
    · simp only [TimerTable.unregistered, Function.update_of_ne hit] at stored
      exact valid.idle owner other stored unregistered
  counting := valid.counting

theorem register_wellformed {timerTick : TimerTick} (valid : WellFormed timerTick)
    (ref : ServiceRef) (start : Bool) :
    WellFormed (registerTimerTickService timerTick ref start).2 := by
  rcases register_cases valid ref start with ⟨message, refused⟩ | ⟨service, present, fresh, same⟩
  · rw [refused]
    exact valid
  · rw [same]
    exact registered_wellformed valid start present fresh

theorem start_wellformed {timerTick : TimerTick} (valid : WellFormed timerTick)
    (cookie : TimerTickId) : WellFormed (startTimerTickService timerTick cookie).2 := by
  rcases start_cases valid cookie with ⟨_, same⟩ | ⟨ref, service, found, present, carries, same⟩
  · rw [same]
    exact valid
  · rw [same]
    apply write_wellformed valid present (start_cookie service)
    intro unregistered
    exact absurd (carries.symm.trans unregistered) (valid.issued cookie ref found).1

theorem unregister_wellformed {timerTick : TimerTick} (valid : WellFormed timerTick)
    (cookie : TimerTickId) : WellFormed (unregisterTimerTickService timerTick cookie) := by
  rcases unregister_cases valid cookie with
    ⟨_, same⟩ | ⟨ref, service, found, present, carries, same⟩
  · rw [same]
    exact valid
  · rw [same]
    subst carries
    exact unregistered_wellformed valid found present

theorem tickEntry_wellformed {timerTick : TimerTick} (valid : WellFormed timerTick)
    (fired : List ServiceRef) (cookie : TimerTickId) :
    WellFormed (tickEntry (fired, timerTick) cookie).2 := by
  rcases tickEntry_cases valid fired cookie with
    ⟨_, same⟩ | ⟨ref, service, found, present, carries, same⟩
  · rw [same]
    exact valid
  · rw [same]
    apply write_wellformed valid present (service_tick_cookie service)
    intro unregistered
    rw [service_tick_cookie, carries] at unregistered
    exact absurd unregistered (valid.issued cookie ref found).1

/-! Objects that come and go with a service in them. -/

/-- A new object holds an unregistered service at rest. -/
theorem allocate_wellformed {timerTick : TimerTick} (valid : WellFormed timerTick)
    {ref : ServiceRef} (unused : timerTick.memory ref = none) (interval : Int)
    (periodic : Bool) : WellFormed (timerTick.write ref (.new interval periodic)) where
  points cookie owner found := by
    obtain ⟨service, stored, carries⟩ := valid.points cookie owner found
    have different : owner ≠ ref := by
      rintro rfl
      rw [unused] at stored
      cases stored
    exact ⟨service, (write_other _ _ _ different).trans stored, carries⟩
  carried owner service stored carries := by
    by_cases hit : owner = ref
    · subst hit
      rw [write_same] at stored
      cases stored
      exact absurd rfl carries
    · rw [write_other _ _ _ hit] at stored
      exact valid.carried owner service stored carries
  issued := valid.issued
  idle owner service stored rests := by
    by_cases hit : owner = ref
    · subst hit
      rw [write_same] at stored
      cases stored
      rfl
    · rw [write_other _ _ _ hit] at stored
      exact valid.idle owner service stored rests
  counting := valid.counting

/-- The state after a service has been unregistered and its object deleted. -/
def released (timerTick : TimerTick) (ref : ServiceRef)
    (service : TimerTickService) : TimerTick where
  nextTimerTickId := timerTick.nextTimerTickId
  timerTickServices := timerTick.timerTickServices.erase service.cookie
  memory := Function.update timerTick.memory ref none

theorem null_absent {timerTick : TimerTick} (valid : WellFormed timerTick) :
    timerTick.timerTickServices[nullCookie]? = none := by
  cases taken : timerTick.timerTickServices[nullCookie]? with
  | none => rfl
  | some ref => exact absurd rfl (valid.issued _ ref taken).1

/-- The unregistration in a destructor is idempotent: for a service that is not
registered it finds nothing under the null cookie. -/
theorem unregister_free {timerTick : TimerTick} (valid : WellFormed timerTick)
    {ref : ServiceRef} {service : TimerTickService}
    (present : timerTick.memory ref = some service) :
    (unregisterTimerTickService timerTick service.cookie).free ref =
      released timerTick ref service := by
  by_cases fresh : service.cookie = nullCookie
  · have absent := null_absent valid
    have unchanged : timerTick.timerTickServices.erase nullCookie =
        timerTick.timerTickServices := by
      apply Std.ExtTreeMap.ext_getElem?
      intro cookie
      rw [OrderedMap.lookup_erase]
      split
      · rename_i same
        rw [← same, absent]
      · rfl
    simp [unregisterTimerTickService, fresh, absent, released, unchanged, TimerTick.free]
  · have found := valid.carried ref service present fresh
    simp [unregisterTimerTickService, found, present, released, TimerTick.free, TimerTick.write]

theorem released_wellformed {timerTick : TimerTick} (valid : WellFormed timerTick)
    {ref : ServiceRef} {service : TimerTickService}
    (present : timerTick.memory ref = some service) :
    WellFormed (released timerTick ref service) where
  points _ _ listed := erased_points valid present listed _
  carried owner other stored carries := by
    simp only [released, OrderedMap.lookup_erase] at stored ⊢
    by_cases hit : owner = ref
    · subst hit
      rw [Function.update_self] at stored
      cases stored
    · rw [Function.update_of_ne hit] at stored
      have held := valid.carried owner other stored carries
      -- The cookie of another registered service leads to that service.
      have different : service.cookie ≠ other.cookie := by
        intro same
        have mine := valid.carried ref service present (same ▸ carries)
        rw [same, held] at mine
        cases mine
        exact hit rfl
      rw [if_neg different]
      exact held
  issued cookie owner listed := valid.issued cookie owner (OrderedMap.lookup_erase_some listed).2
  idle owner other stored rests := by
    by_cases hit : owner = ref
    · subst hit
      simp only [released, Function.update_self] at stored
      cases stored
    · simp only [released, Function.update_of_ne hit] at stored
      exact valid.idle owner other stored rests
  counting := valid.counting

/-! One pass over the table ticks every service once, in whatever order the
entries come. -/

/-- Whether a service has its turn among the entries of `order`. -/
def Visited (order : List TimerTickId) (service : TimerTickService) : Prop :=
  service.cookie ≠ nullCookie ∧ service.cookie ∈ order

instance (order : List TimerTickId) (service : TimerTickService) :
    Decidable (Visited order service) := by
  unfold Visited
  infer_instance

theorem visited_later {timerTick : TimerTick} (valid : WellFormed timerTick)
    {cookie : TimerTickId} (rest : List TimerTickId) {ref : ServiceRef}
    {service : TimerTickService} (held : timerTick.memory ref = some service)
    (elsewhere : timerTick.timerTickServices[cookie]? ≠ some ref) :
    Visited (cookie :: rest) service ↔ Visited rest service := by
  simp only [Visited, List.mem_cons]
  constructor
  · rintro ⟨registered, here | later⟩
    · have listed := valid.carried ref service held registered
      rw [here] at listed
      exact absurd listed elsewhere
    · exact ⟨registered, later⟩
  · rintro ⟨registered, later⟩
    exact ⟨registered, Or.inr later⟩

theorem fold_tickEntry (order : List TimerTickId) (distinct : order.Nodup)
    (fired : List ServiceRef) (timerTick : TimerTick) (valid : WellFormed timerTick) :
    WellFormed (order.foldl tickEntry (fired, timerTick)).2 ∧
    (order.foldl tickEntry (fired, timerTick)).2.timerTickServices =
      timerTick.timerTickServices ∧
    (order.foldl tickEntry (fired, timerTick)).2.nextTimerTickId =
      timerTick.nextTimerTickId ∧
    ∀ ref,
      (order.foldl tickEntry (fired, timerTick)).2.memory ref =
        (timerTick.memory ref).map (fun service =>
          if Visited order service then service.tick.2 else service) ∧
      (order.foldl tickEntry (fired, timerTick)).1.count ref = fired.count ref +
        ((timerTick.memory ref).elim 0 fun service =>
          if Visited order service ∧ service.tick.1 = true then 1 else 0) := by
  induction order generalizing fired timerTick with
  | nil =>
      refine ⟨valid, rfl, rfl, fun ref => ?_⟩
      cases held : timerTick.memory ref <;> simp [Visited, held]
  | cons cookie rest ih =>
      obtain ⟨unseen, distinct⟩ := List.nodup_cons.mp distinct
      have nextValid := tickEntry_wellformed valid fired cookie
      rw [List.foldl_cons]
      rcases tickEntry_cases valid fired cookie with
        ⟨absent, same⟩ | ⟨turn, service, found, present, carries, same⟩
      · rw [same]
        obtain ⟨after, table, next, each⟩ := ih distinct fired timerTick valid
        refine ⟨after, table, next, fun ref => ?_⟩
        obtain ⟨stored, fires⟩ := each ref
        rw [stored, fires]
        cases held : timerTick.memory ref with
        | none => simp
        | some other =>
            have later : Visited (cookie :: rest) other ↔ Visited rest other :=
              visited_later valid rest held (by simp [absent])
            simp [later]
      · rw [same] at nextValid ⊢
        obtain ⟨after, table, next, each⟩ := ih distinct _ _ nextValid
        refine ⟨after, table, next, fun ref => ?_⟩
        obtain ⟨stored, fires⟩ := each ref
        rw [stored, fires]
        -- A cookie stands once in the order, so no later turn visits this service again.
        by_cases hit : ref = turn
        · subst hit
          have real := (valid.issued cookie ref found).1
          have here : Visited (cookie :: rest) service := by simp [Visited, carries, real]
          have once : ¬ Visited rest service.tick.2 := by
            simp [Visited, service_tick_cookie, carries, unseen]
          by_cases firing : service.tick.1 = true <;>
            simp [present, here, once, firing]
        · rw [write_other _ _ _ hit]
          have skip : (if service.tick.1 = true then fired ++ [turn] else fired).count ref =
              fired.count ref := by
            by_cases firing : service.tick.1 = true <;> simp [firing, Ne.symm hit]
          rw [skip]
          cases held : timerTick.memory ref with
          | none => simp
          | some other =>
              have elsewhere : timerTick.timerTickServices[cookie]? ≠ some ref := by
                rw [found]
                exact fun same => hit (Option.some.inj same).symm
              have later := visited_later valid rest held elsewhere
              simp [later]

/-- An iteration order of the table lists every entry once. -/
def Iterates (timerTick : TimerTick) (order : List TimerTickId) : Prop :=
  order.Perm timerTick.timerTickServices.keys

theorem iterates_distinct {timerTick : TimerTick} {order : List TimerTickId}
    (iterates : Iterates timerTick order) : order.Nodup :=
  iterates.nodup_iff.mpr Std.ExtTreeMap.nodup_keys

theorem iterates_visits {timerTick : TimerTick} (valid : WellFormed timerTick)
    {order : List TimerTickId} (iterates : Iterates timerTick order) {ref : ServiceRef}
    {service : TimerTickService} (held : timerTick.memory ref = some service) :
    Visited order service ↔ service.cookie ≠ nullCookie := by
  constructor
  · exact fun visited => visited.1
  · intro registered
    refine ⟨registered, iterates.mem_iff.mpr ?_⟩
    rw [Std.ExtTreeMap.mem_keys, Std.ExtTreeMap.mem_iff_isSome_getElem?,
      valid.carried ref service held registered]
    rfl

theorem idle_service_tick {service : TimerTickService} (idle : service.ticksLeft = 0) :
    service.tick = (false, service) := by
  simp [TimerTickService.tick, idle]

theorem tick_wellformed {timerTick : TimerTick} (valid : WellFormed timerTick)
    {order : List TimerTickId} (iterates : Iterates timerTick order) :
    WellFormed (tick timerTick order).2 :=
  (fold_tickEntry order (iterates_distinct iterates) [] timerTick valid).1

theorem tick_table {timerTick : TimerTick} (valid : WellFormed timerTick)
    {order : List TimerTickId} (iterates : Iterates timerTick order) :
    (tick timerTick order).2.timerTickServices = timerTick.timerTickServices :=
  (fold_tickEntry order (iterates_distinct iterates) [] timerTick valid).2.1

theorem tick_next {timerTick : TimerTick} (valid : WellFormed timerTick)
    {order : List TimerTickId} (iterates : Iterates timerTick order) :
    (tick timerTick order).2.nextTimerTickId = timerTick.nextTimerTickId :=
  (fold_tickEntry order (iterates_distinct iterates) [] timerTick valid).2.2.1

theorem tick_memory {timerTick : TimerTick} (valid : WellFormed timerTick)
    {order : List TimerTickId} (iterates : Iterates timerTick order) (ref : ServiceRef) :
    (tick timerTick order).2.memory ref =
      (timerTick.memory ref).map fun service => service.tick.2 := by
  rw [tick, ((fold_tickEntry order (iterates_distinct iterates) [] timerTick valid).2.2.2 ref).1]
  cases held : timerTick.memory ref with
  | none => rfl
  | some service =>
      by_cases registered : service.cookie = nullCookie
      · have still := idle_service_tick (valid.idle ref service held registered)
        simp [still]
      · simp [iterates_visits valid iterates held, registered]

/-- `expireTrigger` runs once for each service whose countdown this tick ends,
and for no other. -/
theorem tick_fired {timerTick : TimerTick} (valid : WellFormed timerTick)
    {order : List TimerTickId} (iterates : Iterates timerTick order) {ref : ServiceRef}
    {service : TimerTickService} (held : timerTick.memory ref = some service) :
    (tick timerTick order).1.count ref = if service.tick.1 = true then 1 else 0 := by
  rw [tick, ((fold_tickEntry order (iterates_distinct iterates) [] timerTick valid).2.2.2 ref).2,
    held]
  by_cases registered : service.cookie = nullCookie
  · have still := idle_service_tick (valid.idle ref service held registered)
    simp [still]
  · simp [iterates_visits valid iterates held, registered]

/-- The table after a tick does not depend on the iteration order. -/
theorem tick_order_irrelevant {timerTick : TimerTick} (valid : WellFormed timerTick)
    {left right : List TimerTickId} (first : Iterates timerTick left)
    (second : Iterates timerTick right) :
    (tick timerTick left).2 = (tick timerTick right).2 := by
  have table := (tick_table valid first).trans (tick_table valid second).symm
  have next := (tick_next valid first).trans (tick_next valid second).symm
  have memory : (tick timerTick left).2.memory = (tick timerTick right).2.memory := by
    funext ref
    rw [tick_memory valid first, tick_memory valid second]
  cases leftEnd : (tick timerTick left).2
  cases rightEnd : (tick timerTick right).2
  rw [leftEnd, rightEnd] at table next memory
  simp only at table next memory
  rw [table, next, memory]

end OClock.TimerTable
