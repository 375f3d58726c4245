import OClock.InboxDelivery

/-!
What one broadcast puts into each inbox, and in which order the broadcasts arrive. The lock
numbers the broadcasts; every inbox sees those numbers go up.
-/

namespace OClock.InboxMessaging
open InboxRegistry LabelledRun InboxDelivery

/-- The entries that a broadcast has still to reach. -/
def ahead (number : Nat) (system : System) : List ThreadId :=
  match system.guard with
  | some call => if call.number = number then call.ahead else []
  | none => []

/-- The broadcast an event belongs to. -/
def Event.number : Event → Option Nat
  | .locked number .. | .visited number .. | .unlocked number => some number
  | _ => none

/-- An event of no broadcast. -/
structure Unrelated (event : Event) : Prop where
  direct : ∀ inbox, (event.put inbox).bind Prod.fst = none
  locks : ∀ number msg threadIdFrom, event ≠ .locked number msg threadIdFrom
  unlocks : ∀ number, event ≠ .unlocked number

theorem unrelated_of {event : Event} (direct : ∀ inbox, (event.put inbox).bind Prod.fst = none)
    (number : Event.number event = none) : Unrelated event := by
  refine ⟨direct, ?_, ?_⟩
  · rintro number msg threadIdFrom rfl
    cases number
  · rintro number rfl
    cases number

theorem step_cases {system next : System} {event : Event} (step : Step system event next) :
    (∃ msg threadIdFrom order, system.guard = none ∧ Iterates system.inboxes order ∧
      event = .locked system.broadcasts msg threadIdFrom ∧
      next.guard = some ⟨system.broadcasts, msg, threadIdFrom, order⟩ ∧
      next.broadcasts = system.broadcasts + 1) ∨
    (∃ call threadId rest, system.guard = some call ∧ call.ahead = threadId :: rest ∧
      event = .visited call.number call.msg call.threadIdFrom threadId ∧
      next.guard = some { call with ahead := rest } ∧ next.broadcasts = system.broadcasts) ∨
    (∃ call, system.guard = some call ∧ call.ahead = [] ∧ event = .unlocked call.number ∧
      next.guard = none ∧ next.broadcasts = system.broadcasts) ∨
    (Unrelated event ∧ next.guard = system.guard ∧ next.broadcasts = system.broadcasts) := by
  cases step with
  | lock free msg threadIdFrom iterates =>
      exact Or.inl ⟨msg, threadIdFrom, _, free, iterates, rfl, rfl, rfl⟩
  | visit held reaches => exact Or.inr (Or.inl ⟨_, _, _, held, reaches, rfl, rfl, rfl⟩)
  | unlock held done => exact Or.inr (Or.inr (Or.inl ⟨_, held, done, rfl, rfl, rfl⟩))
  | addMessage present msg =>
      refine Or.inr (Or.inr (Or.inr ⟨unrelated_of (fun inbox => ?_) rfl, rfl, rfl⟩))
      simp only [Event.put]
      split <;> rfl
  | getInbox => exact Or.inr (Or.inr (Or.inr ⟨unrelated_of (fun _ => rfl) rfl, rfl, rfl⟩))
  | getMessage => exact Or.inr (Or.inr (Or.inr ⟨unrelated_of (fun _ => rfl) rfl, rfl, rfl⟩))
  | waitForMessage => exact Or.inr (Or.inr (Or.inr ⟨unrelated_of (fun _ => rfl) rfl, rfl, rfl⟩))

theorem numbers_concat (inbox : ThreadId) (events : List Event) (event : Event) :
    numbers inbox (events ++ [event]) =
      numbers inbox events ++ ((event.put inbox).bind Prod.fst).toList := by
  rw [numbers, puts_concat, List.filterMap_append]
  cases added : event.put inbox with
  | none => rfl
  | some put => cases origin : put.1 <;> simp [numbers, origin]

theorem numbers_other {inbox : ThreadId} {event : Event}
    (other : (event.put inbox).bind Prod.fst = none) (events : List Event) :
    numbers inbox (events ++ [event]) = numbers inbox events := by
  rw [numbers_concat, other]
  exact List.append_nil _

theorem share_other {inbox : ThreadId} {event : Event} {number : Nat}
    (other : (event.put inbox).bind Prod.fst ≠ some number) (events : List Event) :
    share inbox number (events ++ [event]) = share inbox number events := by
  rw [share, puts_concat, List.filter_append]
  cases added : event.put inbox with
  | none => simp [share]
  | some put =>
      rw [added] at other
      have differs : (put.1 == some number) = false := by simpa using other
      simp [share, differs]

theorem share_absent {inbox : ThreadId} {number : Nat} {events : List Event}
    (absent : number ∉ numbers inbox events) : share inbox number events = [] := by
  simpa [mem_numbers] using absent

/-- What a turn of the loop puts into an inbox. -/
theorem visited_put (call : Broadcast) (threadId inbox : ThreadId) :
    (Event.visited call.number call.msg call.threadIdFrom threadId).put inbox =
      if threadId = inbox ∧ threadId ≠ call.threadIdFrom then some (some call.number, call.msg)
      else none := rfl

theorem put_number {event : Event} {inbox : ThreadId} {number : Nat}
    (put : (event.put inbox).bind Prod.fst = some number) : Event.number event = some number := by
  cases event with
  | visited own msg threadIdFrom threadId =>
      simp only [Event.put] at put
      split at put
      · exact put
      · cases put
  | addMessage threadId msg =>
      simp only [Event.put] at put
      split at put <;> cases put
  | _ => cases put

theorem numbers_event {inbox : ThreadId} {number : Nat} {events : List Event}
    (member : number ∈ numbers inbox events) : ∃ event ∈ events, Event.number event = some number := by
  obtain ⟨put, inside, origin⟩ := List.mem_filterMap.mp member
  obtain ⟨event, here, added⟩ := List.mem_filterMap.mp inside
  exact ⟨event, here, put_number (by rw [added]; exact origin)⟩

/-- The lock hands out one number after the other. -/
theorem step_number {system next : System} {event : Event} (sound : Sound system)
    (step : Step system event next) : system.broadcasts ≤ next.broadcasts ∧
      ∀ number, Event.number event = some number → number < next.broadcasts := by
  cases step with
  | lock => exact ⟨Nat.le_succ _, fun number same => Option.some.inj same ▸ Nat.lt_succ_self _⟩
  | visit held =>
      refine ⟨Nat.le_refl _, fun number same => ?_⟩
      exact Option.some.inj same ▸ sound.newest _ held ▸ Nat.lt_succ_self _
  | unlock held =>
      refine ⟨Nat.le_refl _, fun number same => ?_⟩
      exact Option.some.inj same ▸ sound.newest _ held ▸ Nat.lt_succ_self _
  | _ => exact ⟨Nat.le_refl _, nofun⟩

theorem run_number {events : List Event} {system : System}
    (run : Run Step System.new events system) :
    ∀ event ∈ events, ∀ number, Event.number event = some number → number < system.broadcasts := by
  refine run.invariant (fun events system => ∀ event ∈ events, ∀ number,
    Event.number event = some number → number < system.broadcasts)
    (List.forall_mem_nil _) ?_
  intro events system event next run step older other member number belongs
  obtain ⟨grows, new⟩ := step_number (run_sound run) step
  rcases List.mem_append.mp member with early | last
  · exact Nat.lt_of_lt_of_le (older other early number belongs) grows
  · exact new number (List.mem_singleton.mp last ▸ belongs)

/-- The broadcast that holds the lock has not ended, nor reached what lies ahead of it. -/
def Underway (events : List Event) (system : System) : Prop :=
  ∀ call, system.guard = some call → Event.unlocked call.number ∉ events ∧
    ∀ threadId ∈ call.ahead, call.number ∉ numbers threadId events

theorem step_underway {events : List Event} {system next : System} {event : Event}
    (run : Run Step System.new events system) (step : Step system event next)
    (underway : Underway events system) : Underway (events ++ [event]) next := by
  intro now holds
  rcases step_cases step with
    ⟨msg, threadIdFrom, order, free, iterates, rfl, guard, count⟩ |
    ⟨call, target, rest, held, reaches, rfl, guard, count⟩ |
    ⟨call, held, done, rfl, guard, count⟩ | ⟨unrelated, guard, count⟩ <;> rw [guard] at holds
  · -- The new number is above all that were handed out.
    cases holds
    have new : ∀ event ∈ events, Event.number event ≠ some system.broadcasts :=
      fun event member same => Nat.lt_irrefl _ (run_number run event member _ same)
    refine ⟨fun member => ?_, fun threadId _ member => ?_⟩
    · rcases List.mem_append.mp member with early | last
      · exact new _ early rfl
      · cases List.mem_singleton.mp last
    · rw [numbers_other rfl] at member
      obtain ⟨event, here, same⟩ := numbers_event member
      exact new event here same
  · cases holds
    obtain ⟨goes, fresh⟩ := underway call held
    refine ⟨fun member => ?_, fun threadId inside member => ?_⟩
    · rcases List.mem_append.mp member with early | last
      · exact goes early
      · cases List.mem_singleton.mp last
    · have once := List.nodup_cons.mp (reaches ▸ (run_sound run).once call held)
      have apart : target ≠ threadId := fun same => once.1 (same ▸ inside)
      rw [numbers_other (by rw [visited_put, if_neg fun both => apart both.1]; rfl)] at member
      exact fresh threadId (reaches ▸ List.mem_cons_of_mem _ inside) member
  · cases holds
  · obtain ⟨goes, fresh⟩ := underway now holds
    refine ⟨fun member => ?_, fun threadId inside => ?_⟩
    · rcases List.mem_append.mp member with early | last
      · exact goes early
      · exact unrelated.unlocks _ (List.mem_singleton.mp last).symm
    · rw [numbers_other (unrelated.direct threadId)]
      exact fresh threadId inside

theorem run_underway {events : List Event} {system : System}
    (run : Run Step System.new events system) : Underway events system :=
  run.invariant Underway (fun _ held => by cases held)
    fun _ _ _ _ run step underway => step_underway run step underway

/-- The broadcasts reach an inbox in the order in which they took the lock. -/
theorem run_ascends {events : List Event} {system : System}
    (run : Run Step System.new events system) (inbox : ThreadId) :
    (numbers inbox events).Pairwise (· < ·) := by
  refine run.invariant (fun events _ => (numbers inbox events).Pairwise (· < ·))
    List.Pairwise.nil ?_
  intro events system event next run step ascends
  rcases step_cases step with
    ⟨msg, threadIdFrom, order, free, iterates, rfl, guard, count⟩ |
    ⟨call, target, rest, held, reaches, rfl, guard, count⟩ |
    ⟨call, held, done, rfl, guard, count⟩ | ⟨unrelated, guard, count⟩
  · rwa [numbers_other rfl]
  · rw [numbers_concat, visited_put]
    split
    · next hit =>
        refine List.pairwise_append.mpr ⟨ascends, List.pairwise_singleton .., ?_⟩
        intro number member last same
        obtain ⟨event, here, belongs⟩ := numbers_event member
        -- Earlier visits carry lower numbers: the holder of the lock has the newest one, and it
        -- has not been here.
        have low := run_number run event here number belongs
        have newest := (run_sound run).newest call held
        have new := (run_underway run call held).2 target (reaches ▸ List.mem_cons_self)
        have differs : number ≠ call.number := fun hits => new (hit.1 ▸ hits ▸ member)
        rw [List.mem_singleton.mp same]
        omega
    · exact (List.append_nil _).symm ▸ ascends
  · rwa [numbers_other rfl]
  · rwa [numbers_other (unrelated.direct inbox)]

/-- What is known of a broadcast from the moment it took the lock: which inboxes there were,
and that each of them but the sender's has the message, or lies ahead. -/
structure Reaches (before events : List Event) (number : Nat) (msg : InboxMsg)
    (threadIdFrom : ThreadId) (system : System) : Prop where
  call : ∀ call, system.guard = some call → call.number = number →
    call.msg = msg ∧ call.threadIdFrom = threadIdFrom ∧
      ∀ threadId ∈ call.ahead, Event.getInbox threadId ∈ before
  given : ∀ threadId, share threadId number events =
    if .getInbox threadId ∈ before ∧ threadId ≠ threadIdFrom ∧ threadId ∉ ahead number system then
      [(some number, msg)] else []

theorem ahead_held {system : System} {call : Broadcast} (held : system.guard = some call) :
    ahead call.number system = call.ahead := by
  simp [ahead, held]

theorem ahead_other {system : System} {number : Nat}
    (other : ∀ call, system.guard = some call → call.number ≠ number) :
    ahead number system = [] := by
  cases held : system.guard with
  | none => simp [ahead, held]
  | some call => simp [ahead, held, other call held]

theorem lock_reaches {events : List Event} {system next : System} {msg : InboxMsg}
    {threadIdFrom : ThreadId} {order : List ThreadId} (run : Run Step System.new events system)
    (iterates : Iterates system.inboxes order)
    (guard : next.guard = some ⟨system.broadcasts, msg, threadIdFrom, order⟩) :
    Reaches events (events ++ [.locked system.broadcasts msg threadIdFrom]) system.broadcasts msg
      threadIdFrom next where
  call call held _ := by
    rw [guard] at held
    cases held
    exact ⟨rfl, rfl, fun threadId member =>
      (run_isSome run threadId).mp ((iterates.every threadId).mp member)⟩
  given threadId := by
    have absent : system.broadcasts ∉ numbers threadId events := by
      intro member
      obtain ⟨event, here, belongs⟩ := numbers_event member
      exact Nat.lt_irrefl _ (run_number run event here _ belongs)
    rw [share_other (by simp [Event.put]), share_absent absent, if_neg]
    rintro ⟨made, _, behind⟩
    rw [ahead_held guard] at behind
    exact behind ((iterates.every threadId).mpr ((run_isSome run threadId).mpr made))

theorem visit_reaches {before events : List Event} {number : Nat} {msg : InboxMsg}
    {threadIdFrom target : ThreadId} {system next : System} {call : Broadcast}
    {rest : List ThreadId} (sound : Sound system)
    (reaches : Reaches before events number msg threadIdFrom system)
    (held : system.guard = some call) (loop : call.ahead = target :: rest)
    (guard : next.guard = some { call with ahead := rest }) :
    Reaches before (events ++ [.visited call.number call.msg call.threadIdFrom target])
      number msg threadIdFrom next := by
  have once := List.nodup_cons.mp (loop ▸ sound.once call held)
  -- The visit moves one inbox from what lies ahead to what was given.
  by_cases own : call.number = number
  · subst own
    obtain ⟨sameMsg, sameFrom, made⟩ := reaches.call call held rfl
    refine ⟨fun now holds _ => ?_, fun threadId => ?_⟩
    · rw [guard] at holds
      cases holds
      exact ⟨sameMsg, sameFrom, fun threadId member =>
        made threadId (loop ▸ List.mem_cons_of_mem _ member)⟩
    · have left : ahead call.number next = rest := ahead_held guard
      have given := reaches.given threadId
      rw [ahead_held held, loop] at given
      rw [share, puts_concat, List.filter_append, ← share, given, left, visited_put]
      by_cases hit : target = threadId
      · subst hit
        have here := made target (loop ▸ List.mem_cons_self)
        by_cases sender : target = threadIdFrom
        · simp [sender, sameFrom]
        · simp [sender, sameFrom, here, once.1, sameMsg]
      · have apart : threadId ∉ target :: rest ↔ threadId ∉ rest := by
          simp [List.mem_cons, Ne.symm hit]
        simp only [apart, hit, false_and, if_false, Option.toList_none, List.filter_nil,
          List.append_nil]
  · refine ⟨fun now holds same => ?_, fun threadId => ?_⟩
    · rw [guard] at holds
      cases holds
      exact absurd same own
    · have none : ahead number next = [] := ahead_other fun now holds => by
        rw [guard] at holds
        cases holds
        exact own
      have before : ahead number system = [] := ahead_other fun now holds => by
        rw [held] at holds
        cases holds
        exact own
      rw [share_other, reaches.given threadId, none, before]
      rw [visited_put]
      split
      · exact fun same => own (Option.some.inj same)
      · exact (Option.some_ne_none number).symm

/-- A step of no broadcast, or of another one, leaves what is known of a broadcast. -/
theorem other_reaches {before events : List Event} {number : Nat} {msg : InboxMsg}
    {threadIdFrom : ThreadId} {system next : System} {event : Event}
    (reaches : Reaches before events number msg threadIdFrom system)
    (other : ∀ inbox, (event.put inbox).bind Prod.fst = none)
    (same : ahead number next = ahead number system)
    (call : ∀ call, next.guard = some call → call.number = number → system.guard = some call) :
    Reaches before (events ++ [event]) number msg threadIdFrom next where
  call now holds hit := reaches.call now (call now holds hit) hit
  given threadId := by
    have direct : (event.put threadId).bind Prod.fst ≠ some number := by
      rw [other]
      exact (Option.some_ne_none number).symm
    rw [share_other direct, reaches.given threadId, same]

theorem run_reaches {events : List Event} {system : System}
    (run : Run Step System.new events system) :
    ∀ before after number msg threadIdFrom,
      events = before ++ .locked number msg threadIdFrom :: after →
        Reaches before events number msg threadIdFrom system := by
  refine run.invariant (fun events system => ∀ before after number msg threadIdFrom,
    events = before ++ .locked number msg threadIdFrom :: after →
      Reaches before events number msg threadIdFrom system) ?_ ?_
  · intro before after number msg threadIdFrom cut
    simp at cut
  intro events system event next run step known before after number msg threadIdFrom cut
  rcases concat_cut cut with ⟨rfl, rfl, rfl⟩ | ⟨earlier, rfl, rfl⟩
  · rcases step_cases step with
      ⟨other, sender, order, free, iterates, same, guard, count⟩ |
      ⟨call, target, rest, held, reaches, same, guard, count⟩ |
      ⟨call, held, done, same, guard, count⟩ | ⟨unrelated, guard, count⟩
    · cases same
      exact lock_reaches run iterates guard
    · cases same
    · cases same
    · exact absurd rfl (unrelated.locks number msg threadIdFrom)
  · have reaches := known before earlier number msg threadIdFrom rfl
    have begun := run_number run (.locked number msg threadIdFrom) (by simp) number rfl
    rcases step_cases step with
      ⟨other, sender, order, free, iterates, rfl, guard, count⟩ |
      ⟨call, target, rest, held, loop, rfl, guard, count⟩ |
      ⟨call, held, done, rfl, guard, count⟩ | ⟨unrelated, guard, count⟩
    · -- The lock goes to a later broadcast.
      have later : ∀ call, next.guard = some call → call.number ≠ number := by
        intro call holds
        rw [guard] at holds
        cases holds
        exact Nat.ne_of_gt begun
      refine other_reaches reaches (fun _ => rfl) ?_ fun call holds hit =>
        absurd hit (later call holds)
      rw [ahead_other later, ahead_other fun call holds => by rw [free] at holds; cases holds]
    · exact visit_reaches (run_sound run) reaches held loop guard
    · -- Nothing lies ahead of a broadcast that ends.
      refine other_reaches reaches (fun _ => rfl) ?_ fun call holds _ => by
        rw [guard] at holds
        cases holds
      rw [ahead_other fun call holds => by rw [guard] at holds; cases holds]
      by_cases own : call.number = number
      · rw [← own, ahead_held held, done]
      · rw [ahead_other fun now holds => by rw [held] at holds; cases holds; exact own]
    · refine other_reaches reaches unrelated.direct ?_ fun call holds _ => guard ▸ holds
      simp only [ahead, guard]

/-- Whatever the schedule: what was taken out of an inbox, followed by what it holds, is
what was put into it; a broadcast that has ended put its message once into every inbox that
there was, but the sender's; and two broadcasts arrive everywhere in one order. The counter
tells the length of the queue modulo 2^32. -/
theorem inbox_messaging {events : List Event} {system : System}
    (run : Run Step System.new events system) :
    (∀ threadId inbox, system.inboxes threadId = some inbox →
      (puts threadId events).map Prod.snd = takes threadId events ++ inbox.msgs ∧
        inbox.getMsgCount.toNat = inbox.msgs.length % 2 ^ 32) ∧
    (∀ threadId, (system.inboxes threadId).isSome = true ↔ Event.getInbox threadId ∈ events) ∧
    (∀ before after number msg threadIdFrom,
      events = before ++ .locked number msg threadIdFrom :: after →
        Event.unlocked number ∈ after → ∀ threadId, share threadId number events =
          if Event.getInbox threadId ∈ before ∧ threadId ≠ threadIdFrom then
            [(some number, msg)] else []) ∧
    (∀ left right first second,
      first ∈ numbers left events → second ∈ numbers left events →
      first ∈ numbers right events → second ∈ numbers right events →
        ([first, second].Sublist (numbers left events) ↔
          [first, second].Sublist (numbers right events))) := by
  refine ⟨fun threadId inbox present => ⟨?_, ?_⟩, run_isSome run, ?_, ?_⟩
  · rw [run_queue run threadId, queue_of_some present]
  · rw [Inbox.getMsgCount, (run_sound run).counted threadId inbox present, UInt32.toNat_ofNat']
  · intro before after number msg threadIdFrom cut gone threadId
    have ended : Event.unlocked number ∈ events := by
      rw [cut]
      exact List.mem_append_right _ (List.mem_cons_of_mem _ gone)
    have free : ahead number system = [] := ahead_other fun call held same =>
      (run_underway run call held).1 (same ▸ ended)
    rw [(run_reaches run before after number msg threadIdFrom cut).given threadId, free]
    simp
  · intro left right first second inLeft alsoLeft inRight alsoRight
    rw [ascending_pair (run_ascends run left) inLeft alsoLeft,
      ascending_pair (run_ascends run right) inRight alsoRight]

theorem inbox_messaging_sample :
    let msg := InboxMsg.ofType .displayBrightLow
    ∃ events system, Run Step System.new events system ∧
      Event.addMessage .mqttClient Inbox.timerTickMessage ∈ events ∧
      share .mqttClient 0 events = [(some 0, msg)] ∧ share .display 0 events = [] := by
  intro msg
  let before : List Event := [.getInbox .display, .getInbox .mqttClient]
  let after : List Event := [.visited 0 msg .display .display,
    .addMessage .mqttClient Inbox.timerTickMessage, .visited 0 msg .display .mqttClient, .unlocked 0]
  have made : Run Step System.new before _ :=
    .step (.one (.getInbox rfl .display)) (.getInbox rfl .mqttClient)
  have locked := made.step (.lock rfl msg .display (entries_iterates _))
  have first := locked.step (.visit rfl rfl)
  have direct := first.step (@Step.addMessage _ .mqttClient _ rfl Inbox.timerTickMessage)
  have second := direct.step (.visit rfl rfl)
  have called := second.step (.unlock rfl rfl)
  have delivered := (inbox_messaging called).2.2.1 before after 0 msg .display rfl (by decide)
  exact ⟨_, _, called, by decide, delivered .mqttClient, delivered .display⟩

/-- One inbox with `n` messages in it. -/
def flooded (n : Nat) : System :=
  ⟨Inboxes.write (fun _ => none) .display ⟨List.replicate n Inbox.timerTickMessage, UInt32.ofNat n⟩,
    none, 0⟩

theorem flooded_inbox (n : Nat) : (flooded n).inboxes .display =
    some ⟨List.replicate n Inbox.timerTickMessage, UInt32.ofNat n⟩ := by
  simp only [flooded, write_same]

theorem flooded_step (n : Nat) :
    Step (flooded n) (.addMessage .display Inbox.timerTickMessage) (flooded (n + 1)) := by
  have present := flooded_inbox n
  have step := Step.addMessage present Inbox.timerTickMessage
  rw [addMessageTo_of_some present, Inbox.addMessage, ← List.replicate_succ'] at step
  have count : UInt32.ofNat n + 1 = UInt32.ofNat (n + 1) := (UInt32.ofNat_add n 1).symm
  rw [count] at step
  simpa only [flooded, Inboxes.write, Function.update_idem] using step

/-- After 2^32 messages that nobody reads the counter is back at zero. -/
theorem msgCount_wraps :
    ∃ system inbox, Run Step System.new
        (.getInbox .display :: List.replicate (2 ^ 32) (.addMessage .display Inbox.timerTickMessage))
        system ∧
      system.inboxes .display = some inbox ∧ inbox.getMsgCount.toNat ≠ inbox.msgs.length := by
  have made : Run Step System.new [.getInbox .display] (flooded 0) := .one (.getInbox rfl .display)
  have run := made.append (.replicate flooded _ flooded_step (2 ^ 32))
  refine ⟨_, _, run, flooded_inbox _, ?_⟩
  rw [Inbox.getMsgCount, UInt32.toNat_ofNat', List.length_replicate]
  decide

/-! A broadcast that no other thread interrupts is the loop of the source. -/

theorem visits_run (msg : InboxMsg) (threadIdFrom : ThreadId) (number : Nat) :
    ∀ (order : List ThreadId) (inboxes : Inboxes) (broadcasts : Nat), ∃ events,
      Run Step ⟨inboxes, some ⟨number, msg, threadIdFrom, order⟩, broadcasts⟩ events
        ⟨broadcastOver order inboxes msg threadIdFrom, some ⟨number, msg, threadIdFrom, []⟩,
          broadcasts⟩
  | [], _, _ => ⟨[], .start⟩
  | threadId :: rest, inboxes, broadcasts => by
      obtain ⟨events, later⟩ := visits_run msg threadIdFrom number rest
        (broadcastEntry msg threadIdFrom inboxes threadId) broadcasts
      exact ⟨_, .append (.one (.visit rfl rfl)) later⟩

theorem broadcast_uninterrupted (inboxes : Inboxes) (broadcasts : Nat) (msg : InboxMsg)
    (threadIdFrom : ThreadId) :
    ∃ events, Run Step ⟨inboxes, none, broadcasts⟩ events
      ⟨broadcast inboxes msg threadIdFrom, none, broadcasts + 1⟩ := by
  obtain ⟨events, loop⟩ := visits_run msg threadIdFrom broadcasts inboxes.entries inboxes
    (broadcasts + 1)
  exact ⟨_, .append (.one (.lock rfl msg threadIdFrom (entries_iterates inboxes)))
    (.step loop (.unlock rfl rfl))⟩

end OClock.InboxMessaging
