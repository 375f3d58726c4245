import OClock.LabelledRun
import OClock.TimerSchedule

/-!
Who a cookie belongs to, over whole runs of the timer table. The counter that issues the cookies
is stored in 64 bits here; a run with fewer calls than it has values never wraps it, and is a run
of the unbounded counter.
-/

namespace OClock.TimerCookies
open Text TimerTable TimerSchedule LabelledRun

/-- A call with the counter as an `unsigned long long` keeps it. -/
def storedStep (timerTick : TimerTick) (call : Call) : Answer × TimerTick :=
  let moved := step timerTick call
  (moved.1, { moved.2 with nextTimerTickId := moved.2.nextTimerTickId % 2 ^ 64 })

/-- A call that was made, with its answer. -/
structure Made where
  call : Call
  answer : Answer

/-- One call of a run. A tick goes over the entries of the table in some order. -/
def Turn (timerTick : TimerTick) (made : Made) (next : TimerTick) : Prop :=
  (∀ order, made.call = .tick order → Iterates timerTick order) ∧
    storedStep timerTick made.call = (made.answer, next)

/-- The cookie that a call issued, and the service that got it. -/
def issuedBy : Made → Option (TimerTickId × ServiceRef)
  | ⟨.register ref _, .registered (.ok cookie)⟩ => some (cookie, ref)
  | _ => none

def issued (history : List Made) : List (TimerTickId × ServiceRef) := history.filterMap issuedBy

/-- A cookie that was issued to a service which does not carry it any more. -/
def Stale (history : List Made) (timerTick : TimerTick) (cookie : TimerTickId) : Prop :=
  ∃ ref service, (cookie, ref) ∈ issued history ∧ timerTick.memory ref = some service ∧
    service.cookie ≠ cookie

/-- Registering the service succeeds, with a cookie that was never used. -/
def Registers (history : List Made) (timerTick : TimerTick) (ref : ServiceRef) (start : Bool) :
    Prop :=
  let made := storedStep timerTick (.register ref start)
  ∃ cookie, made.1 = .registered (.ok cookie) ∧ cookie ≠ nullCookie ∧
    cookie ∉ (issued history).map Prod.fst ∧ made.2.timerTickServices[cookie]? = some ref

/-! ### Books -/

/-- The cookies issued so far are the numbers below the counter, each registered service got the
one it carries, and a call moves the counter by one at most. -/
structure Books (history : List Made) (timerTick : TimerTick) : Prop where
  valid : WellFormed timerTick
  cookies : (issued history).map Prod.fst = List.range' 1 (timerTick.nextTimerTickId - 1)
  owners : ∀ ref service, timerTick.memory ref = some service → service.cookie ≠ nullCookie →
    (service.cookie, ref) ∈ issued history
  paced : timerTick.nextTimerTickId ≤ history.length + 1

theorem issued_append (history : List Made) (made : Made) :
    issued (history ++ [made]) = issued history ++ (issuedBy made).toList := by
  unfold issued
  rw [List.filterMap_append]
  cases given : issuedBy made <;> simp [given]

theorem boot_books (objects : ServiceRef → Option (Int × Bool)) : Books [] (boot objects) where
  valid := boot_wellformed objects
  cookies := rfl
  owners ref service held registered := by
    obtain ⟨object, _, rfl⟩ := Option.map_eq_some_iff.mp held
    exact absurd rfl registered
  paced := Nat.le_refl _

section Step
variable {history : List Made} {timerTick : TimerTick}

/-- A call that issues nothing and leaves registered only services that were. -/
theorem books_quiet (books : Books history timerTick) {made : Made} {next : TimerTick}
    (nothing : issuedBy made = none) (valid : WellFormed next)
    (counter : next.nextTimerTickId = timerTick.nextTimerTickId)
    (kept : ∀ ref service, next.memory ref = some service → service.cookie ≠ nullCookie →
      ∃ before, timerTick.memory ref = some before ∧ before.cookie = service.cookie) :
    Books (history ++ [made]) next where
  valid := valid
  cookies := by
    rw [issued_append, nothing, counter, Option.toList_none, List.append_nil]
    exact books.cookies
  owners ref service held registered := by
    obtain ⟨before, stored, same⟩ := kept ref service held registered
    rw [issued_append, nothing, Option.toList_none, List.append_nil, ← same]
    exact books.owners ref before stored (same ▸ registered)
  paced := by
    rw [counter, List.length_append]
    exact Nat.le_succ_of_le books.paced

theorem registered_books (books : Books history timerTick) {ref : ServiceRef}
    {service : TimerTickService} (start : Bool) (present : timerTick.memory ref = some service)
    (fresh : service.cookie = nullCookie) :
    Books (history ++ [⟨.register ref start, .registered (.ok timerTick.nextTimerTickId)⟩])
      (registered timerTick ref service start) where
  valid := registered_wellformed books.valid start present fresh
  cookies := by
    have counting : 1 ≤ timerTick.nextTimerTickId := books.valid.counting
    have grown := (Nat.sub_add_cancel counting).symm
    have last : 1 + 1 * (timerTick.nextTimerTickId - 1) = timerTick.nextTimerTickId := by
      rw [Nat.one_mul, Nat.add_sub_cancel' counting]
    simp only [issued_append, issuedBy, Option.toList_some, List.map_append, List.map_cons,
      List.map_nil, books.cookies, registered, Nat.add_sub_cancel]
    conv_rhs => rw [grown, List.range'_concat, last]
  owners owner other stored carries := by
    rw [issued_append]
    by_cases hit : owner = ref
    · subst hit
      simp only [registered, Function.update_self, Option.some.injEq] at stored
      subst stored
      exact List.mem_append_right _ (List.mem_singleton.mpr rfl)
    · simp only [registered, Function.update_of_ne hit] at stored
      exact List.mem_append_left _ (books.owners owner other stored carries)
  paced := by
    rw [List.length_append]
    exact Nat.succ_le_succ books.paced

theorem books_step (books : Books history timerTick) (call : Call)
    (iterates : ∀ order, call = .tick order → Iterates timerTick order) :
    Books (history ++ [⟨call, (step timerTick call).1⟩]) (step timerTick call).2 := by
  have valid := step_wellformed books.valid call iterates
  cases call with
  | register ref start =>
      rcases register_cases books.valid ref start with
        ⟨message, refused⟩ | ⟨service, present, fresh, accepted⟩
      · simp only [step, refused] at valid ⊢
        exact books_quiet books rfl valid rfl fun _ service held _ => ⟨service, held, rfl⟩
      · simp only [step, accepted]
        exact registered_books books start present fresh
  | start cookie =>
      rcases start_cases books.valid cookie with
        ⟨_, same⟩ | ⟨target, service, _, present, _, same⟩
      · simp only [step, same] at valid ⊢
        exact books_quiet books rfl valid rfl fun _ service held _ => ⟨service, held, rfl⟩
      · simp only [step, same] at valid ⊢
        refine books_quiet books rfl valid rfl fun ref after held _ => ?_
        by_cases hit : ref = target
        · subst hit
          rw [write_same] at held
          cases held
          exact ⟨service, present, rfl⟩
        · rw [write_other _ _ _ hit] at held
          exact ⟨after, held, rfl⟩
  | unregister cookie =>
      rcases unregister_cases books.valid cookie with
        ⟨_, same⟩ | ⟨target, service, _, present, _, same⟩
      · simp only [step, same] at valid ⊢
        exact books_quiet books rfl valid rfl fun _ service held _ => ⟨service, held, rfl⟩
      · simp only [step, same] at valid ⊢
        refine books_quiet books rfl valid rfl fun ref after held carries => ?_
        by_cases hit : ref = target
        · subst hit
          simp only [unregistered, Function.update_self, Option.some.injEq] at held
          subst held
          exact absurd rfl carries
        · simp only [unregistered, Function.update_of_ne hit] at held
          exact ⟨after, held, rfl⟩
  | tick order =>
      have orderly := iterates order rfl
      refine books_quiet books rfl valid (tick_next books.valid orderly) fun ref after held _ => ?_
      simp only [step, tick_memory books.valid orderly] at held
      obtain ⟨service, stored, rfl⟩ := Option.map_eq_some_iff.mp held
      exact ⟨service, stored, (service_tick_cookie service).symm⟩

/-! ### What the books say -/

theorem cookies_once (books : Books history timerTick) :
    ((issued history).map Prod.fst).Nodup := by
  rw [books.cookies]
  exact List.nodup_range'

theorem issued_real (books : Books history timerTick) {cookie : TimerTickId} {ref : ServiceRef}
    (given : (cookie, ref) ∈ issued history) : cookie ≠ nullCookie := by
  have listed : cookie ∈ (issued history).map Prod.fst := List.mem_map_of_mem given
  rw [books.cookies, List.mem_range'_1] at listed
  exact Nat.ne_of_gt listed.1

theorem issued_owner (books : Books history timerTick) {cookie : TimerTickId}
    {first second : ServiceRef} (left : (cookie, first) ∈ issued history)
    (right : (cookie, second) ∈ issued history) : first = second :=
  congrArg Prod.snd (List.inj_on_of_nodup_map (cookies_once books) left right rfl)

theorem table_iff (books : Books history timerTick) (cookie : TimerTickId) (ref : ServiceRef) :
    timerTick.timerTickServices[cookie]? = some ref ↔
      cookie ≠ nullCookie ∧ ∃ service, timerTick.memory ref = some service ∧
        service.cookie = cookie := by
  constructor
  · intro found
    exact ⟨(books.valid.issued cookie ref found).1, books.valid.points cookie ref found⟩
  · rintro ⟨real, service, held, rfl⟩
    exact books.valid.carried ref service held real

/-- A stale cookie leads nowhere: it was issued once, to a service that has lost it. -/
theorem stale_absent (books : Books history timerTick) {cookie : TimerTickId}
    (stale : Stale history timerTick cookie) :
    timerTick.timerTickServices[cookie]? = none := by
  obtain ⟨ref, service, given, held, lost⟩ := stale
  cases found : timerTick.timerTickServices[cookie]? with
  | none => rfl
  | some other =>
      obtain ⟨real, carrier, stored, rfl⟩ := (table_iff books cookie other).mp found
      -- Who carries it now got it from a registration, and there was only one.
      have same := issued_owner books given (books.owners other carrier stored real)
      subst same
      rw [held] at stored
      cases stored
      exact absurd rfl lost

theorem next_never_used (books : Books history timerTick) :
    timerTick.nextTimerTickId ∉ (issued history).map Prod.fst := by
  have counting : 1 ≤ timerTick.nextTimerTickId := books.valid.counting
  rw [books.cookies, List.mem_range'_1, Nat.add_sub_cancel' counting]
  exact fun inside => Nat.lt_irrefl _ inside.2

theorem fresh_registers (books : Books history timerTick) {ref : ServiceRef}
    {service : TimerTickService} (held : timerTick.memory ref = some service)
    (fresh : service.cookie = nullCookie) (start : Bool) :
    Registers history timerTick ref start := by
  have accepted := register_accepts books.valid start held fresh
  refine ⟨timerTick.nextTimerTickId, ?_, Nat.ne_of_gt books.valid.counting,
    next_never_used books, ?_⟩
  · simp only [storedStep, step, accepted]
  · simp only [storedStep, step, accepted]
    exact OrderedMap.lookup_insert_self _ _ _

end Step

/-! ### The counter as it is stored -/

theorem storedStep_exact {timerTick : TimerTick} {call : Call}
    (room : (step timerTick call).2.nextTimerTickId < 2 ^ 64) :
    storedStep timerTick call = step timerTick call := by
  simp only [storedStep, Nat.mod_eq_of_lt room]

theorem run_books (objects : ServiceRef → Option (Int × Bool)) {history : List Made}
    {timerTick : TimerTick} (run : Run Turn (boot objects) history timerTick)
    (short : history.length < 2 ^ 64 - 1) : Books history timerTick := by
  refine run.invariant (fun history timerTick => history.length < 2 ^ 64 - 1 →
    Books history timerTick) (fun _ => boot_books objects) ?_ short
  rintro history timerTick ⟨call, answer⟩ next _ ⟨iterates, made⟩ ih short
  rw [List.length_append, List.length_singleton] at short
  have books := books_step (ih (Nat.lt_of_succ_lt short)) call iterates
  -- The counter is at most one more than the number of calls, so storing it loses nothing.
  have room : (step timerTick call).2.nextTimerTickId < 2 ^ 64 := by
    refine Nat.lt_of_le_of_lt books.paced ?_
    rw [List.length_append, List.length_singleton]
    omega
  rw [storedStep_exact room] at made
  rwa [made] at books

/-! ### Calls between two moments of a run -/

section Calls
variable {history : List Made} {timerTick : TimerTick}

/-- A cookie under which the table has nothing reaches no service. -/
theorem absent_untouched {cookie : TimerTickId}
    (absent : timerTick.timerTickServices[cookie]? = none)
    (room : timerTick.nextTimerTickId < 2 ^ 64) :
    storedStep timerTick (.start cookie) = (.started false, timerTick) ∧
      storedStep timerTick (.unregister cookie) = (.unregistered, timerTick) := by
  have started : step timerTick (.start cookie) = (.started false, timerTick) := by
    simp only [step, startTimerTickService, absent]
  have removed : step timerTick (.unregister cookie) = (.unregistered, timerTick) := by
    simp only [step, unregisterTimerTickService, absent]
  constructor
  · rw [storedStep_exact (by rwa [started]), started]
  · rw [storedStep_exact (by rwa [removed]), removed]

theorem register_twice {ref : ServiceRef} {service : TimerTickService} (start : Bool)
    (held : timerTick.memory ref = some service) (taken : service.cookie ≠ nullCookie)
    (room : timerTick.nextTimerTickId < 2 ^ 64) :
    storedStep timerTick (.register ref start) =
      (.registered (.error (doubleRegister service.cookie)), timerTick) := by
  have refused : step timerTick (.register ref start) =
      (.registered (.error (doubleRegister service.cookie)), timerTick) := by
    simp only [step, register_refuses start held taken]
  rw [storedStep_exact (by rwa [refused]), refused]

/-- Once unregistered through its cookie, a service can be registered again. -/
theorem registers_again (books : Books history timerTick) {ref : ServiceRef}
    {service : TimerTickService} (held : timerTick.memory ref = some service)
    (taken : service.cookie ≠ nullCookie) (room : timerTick.nextTimerTickId < 2 ^ 64)
    (start : Bool) :
    Registers history (storedStep timerTick (.unregister service.cookie)).2 ref start := by
  have listed := books.valid.carried ref service held taken
  have removed : unregisterTimerTickService timerTick service.cookie =
      unregistered timerTick ref service := by
    simp [unregisterTimerTickService, listed, held, unregistered, TimerTick.write]
  have moved : step timerTick (.unregister service.cookie) =
      (.unregistered, unregistered timerTick ref service) := by
    rw [step, removed]
  have stored := storedStep_exact (by rw [moved]; exact room)
  -- The unregistration is one more call of the run, and issues nothing.
  have later := books_step books (.unregister service.cookie) fun _ same => by cases same
  rw [moved] at later
  have again := fresh_registers later (Function.update_self ..) rfl start
  rw [stored, moved]
  simpa only [Registers, issued_append, issuedBy, Option.toList_none, List.append_nil] using again

end Calls

/-- In every run of fewer than `2 ^ 64 - 1` calls: no cookie is issued twice or is the null
cookie; each registered service carries the cookie it was issued, and no other service carries it;
the table leads from each cookie to the service that carries it and holds nothing else; starting
or unregistering under a null or stale cookie changes nothing; registering a registered service
throws and changes nothing; and a service that is not registered, or has just been unregistered,
can be registered, under a cookie that was never used. -/
theorem cookies_identify_services (objects : ServiceRef → Option (Int × Bool))
    {history : List Made} {timerTick : TimerTick}
    (run : Run Turn (boot objects) history timerTick) (short : history.length < 2 ^ 64 - 1) :
    (((issued history).map Prod.fst).Nodup ∧
      ∀ cookie ref, (cookie, ref) ∈ issued history → cookie ≠ nullCookie) ∧
    (∀ ref service, timerTick.memory ref = some service → service.getIsRegistered = true →
      (service.cookie, ref) ∈ issued history ∧
      ∀ other stored, timerTick.memory other = some stored → stored.cookie = service.cookie →
        other = ref) ∧
    (∀ cookie ref, timerTick.timerTickServices[cookie]? = some ref ↔
      cookie ≠ nullCookie ∧ ∃ service, timerTick.memory ref = some service ∧
        service.cookie = cookie) ∧
    (∀ cookie, cookie = nullCookie ∨ Stale history timerTick cookie →
      storedStep timerTick (.start cookie) = (.started false, timerTick) ∧
      storedStep timerTick (.unregister cookie) = (.unregistered, timerTick)) ∧
    (∀ ref service start, timerTick.memory ref = some service →
      service.getIsRegistered = true →
      storedStep timerTick (.register ref start) =
          (.registered (.error (doubleRegister service.cookie)), timerTick) ∧
        Registers history (storedStep timerTick (.unregister service.cookie)).2 ref start) ∧
    ∀ ref service start, timerTick.memory ref = some service →
      service.getIsRegistered = false → Registers history timerTick ref start := by
  have books := run_books objects run short
  have room : timerTick.nextTimerTickId < 2 ^ 64 := by
    refine Nat.lt_of_le_of_lt books.paced ?_
    omega
  refine ⟨⟨cookies_once books, fun cookie ref given => issued_real books given⟩, ?_,
    table_iff books, ?_, ?_, ?_⟩
  · intro ref service held registered
    have real := (registered_iff service).mp registered
    refine ⟨books.owners ref service held real, ?_⟩
    intro other stored present same
    have mine := books.owners other stored present (same ▸ real)
    rw [same] at mine
    exact issued_owner books mine (books.owners ref service held real)
  · rintro cookie (rfl | stale)
    · exact absent_untouched (null_absent books.valid) room
    · exact absent_untouched (stale_absent books stale) room
  · intro ref service start held registered
    have real := (registered_iff service).mp registered
    exact ⟨register_twice start held real room, registers_again books held real room start⟩
  · intro ref service start held unregistered
    have null : service.cookie = nullCookie := by
      simpa [TimerTickService.getIsRegistered] using unregistered
    exact fresh_registers books held null start

/-- A service that was unregistered and registered again is not reached under its old cookie. -/
theorem old_cookie_rests :
    let calls : List Call := [.register 0 true, .unregister 1, .register 0 true]
    let after := (Machine.run storedStep (boot oneService) calls).2
    storedStep after (.start 1) = (.started false, after) := by
  intro calls after
  let history : List Made := [⟨.register 0 true, .registered (.ok 1)⟩,
    ⟨.unregister 1, .unregistered⟩, ⟨.register 0 true, .registered (.ok 2)⟩]
  have run : Run Turn (boot oneService) history after :=
    .step (.step (.step .start ⟨nofun, rfl⟩) ⟨nofun, rfl⟩) ⟨nofun, rfl⟩
  have stale : Stale history after 1 :=
    ⟨0, ⟨24, true, 2, 3⟩, List.mem_cons_self, rfl, by decide⟩
  exact ((cookies_identify_services oneService run (by decide)).2.2.2.1 1 (Or.inr stale)).1

end OClock.TimerCookies
