import OClock.Threads

/-!
The end of the process. `main` broadcasts Terminate to every thread but the timer, joins
them, and only then stops the timer. Whatever the schedule, each inbox gets that message
once, and its thread leaves the loop by taking it.
-/

namespace OClock.Shutdown
open InboxRegistry LabelledRun Threads

def isTerminate (msg : InboxMsg) : Bool := msg.inboxMsgType == .terminate

def HasTerminate (msgs : List InboxMsg) : Prop := ∃ msg ∈ msgs, msg.inboxMsgType = .terminate

/-- The messages that a thread has taken from its inbox. -/
def taken (threadId : ThreadId) (history : List Event) : List InboxMsg :=
  history.flatMap (Event.taken threadId)

def Consumed (threadId : ThreadId) (history : List Event) : Prop :=
  HasTerminate (taken threadId history)

def Unread (threadId : ThreadId) (system : System) : Prop :=
  HasTerminate (queue system.registry.inboxes threadId)

/-- `main` has returned from its broadcast. -/
def Broadcast : MainAt → Prop
  | .joining _ | .sending | .joiningTimerTick | .joined => True
  | _ => False

/-- `main` has put its message into the inbox of a thread. -/
def sent (system : System) (threadId : ThreadId) : Bool :=
  match system.main with
  | .broadcasting _ =>
      decide (threadId ≠ .timerTick) &&
        system.registry.guard.all fun call => decide (threadId ∉ call.ahead)
  | .joining _ | .sending => decide (threadId ≠ .timerTick)
  | .joiningTimerTick | .joined => true
  | _ => false

def terminates (msgs : List InboxMsg) : Nat := msgs.countP isTerminate

theorem terminates_append (left right : List InboxMsg) :
    terminates (left ++ right) = terminates left + terminates right := List.countP_append

theorem terminates_pos {msgs : List InboxMsg} : 0 < terminates msgs ↔ HasTerminate msgs := by
  simp [terminates, HasTerminate, isTerminate, List.countP_pos_iff]

def unread (system : System) (threadId : ThreadId) : Nat :=
  terminates (queue system.registry.inboxes threadId)

/-- The others that `main` has joined. -/
def Joined : MainAt → ThreadId → Prop
  | .joining rest, threadId => threadId ∉ rest
  | .sending, _ | .joiningTimerTick, _ | .joined, _ => True
  | _, _ => False

/-- Who holds the lock: `main`, with Terminate, or one of the threads, with something else. -/
structure Held (system : System) : Prop where
  mine : ∀ number, system.main = .broadcasting number → ∃ ahead,
    system.registry.guard = some ⟨number, terminateMsg, .timerTick, ahead⟩
  theirs : ∀ threadId number, system.workers threadId = .telling number →
    ∃ msg ahead, isTerminate msg = false ∧
      system.registry.guard = some ⟨number, msg, threadId, ahead⟩
  whose : ∀ call, system.registry.guard = some call → isTerminate call.msg = true →
    system.main = .broadcasting call.number

structure Sound (system : System) : Prop where
  registry : InboxDelivery.Sound system.registry
  present : ∀ threadId ≠ .ignore, (system.registry.inboxes threadId).isSome = true ∨
    ∃ rest, system.main = .creating rest ∧ threadId ∈ rest
  held : Held system
  joined : ∀ threadId ∈ others, Joined system.main threadId →
    system.workers threadId = .finished
  /-- Terminate is in the inbox from the moment `main` puts it there until its thread leaves
  the loop. -/
  account : ∀ threadId ≠ .ignore, unread system threadId +
    (system.workers threadId).outside.toNat = (sent system threadId).toNat

theorem announces_other {threadId : ThreadId} {msg : InboxMsg}
    (announced : msg.inboxMsgType ∈ announces threadId) : isTerminate msg = false := by
  simp only [isTerminate, beq_eq_false_iff_ne]
  intro same
  rw [same] at announced
  cases threadId <;> exact absurd announced (by decide)

/-- What one thread does to the messages of all. -/
theorem worker_messages {actor : ThreadId} {before after : WorkerAt} {event : Event}
    (move : WorkerMove actor before event after) (threadId : ThreadId) :
    terminates (event.put threadId) = 0 ∧
      (if threadId = actor then before.outside.toNat else 0) + terminates (event.taken threadId) =
        (if threadId = actor then after.outside.toNat else 0) ∧
      (event.discarded threadId = [] ∨ threadId = actor ∧ before.outside = true) := by
  have ofTaken (msg : InboxMsg) : (WorkerAt.onMessage msg).outside.toNat = terminates [msg] := by
    by_cases stop : msg.inboxMsgType = .terminate <;>
      simp [WorkerAt.onMessage, stop, WorkerAt.outside, terminates, isTerminate]
  cases move with
  | tick timer service =>
      refine ⟨?_, by simp [Event.taken, InboxDelivery.Event.took, terminates], Or.inl rfl⟩
      simp only [Event.put, InboxDelivery.Event.put]
      split <;> rfl
  | clear =>
      refine ⟨rfl, by simp [Event.taken, terminates, WorkerAt.outside], ?_⟩
      by_cases own : threadId = actor
      · exact Or.inr ⟨own, rfl⟩
      · exact Or.inl (if_neg (Ne.symm own))
  | getMessage polls | waitForMessage sleeps =>
      have head : WorkerAt.outside .looping = false := rfl
      refine ⟨rfl, ?_, Or.inl rfl⟩
      by_cases own : threadId = actor
      · simp [Event.taken, InboxDelivery.Event.took, own, ofTaken, head]
      · simp [Event.taken, InboxDelivery.Event.took, own, Ne.symm own, terminates]
  | _ =>
      refine ⟨rfl, ?_, Or.inl rfl⟩
      simp [Event.taken, InboxDelivery.Event.took, terminates, WorkerAt.outside]

/-! The lock. -/

/-- While `main` broadcasts, no thread does. -/
theorem alone {system : System} (held : Held system) {number : Nat}
    (broadcasting : system.main = .broadcasting number) (threadId : ThreadId) (other : Nat) :
    system.workers threadId ≠ .telling other := by
  intro telling
  obtain ⟨ahead, guard⟩ := held.mine number broadcasting
  obtain ⟨msg, behind, others, same⟩ := held.theirs threadId other telling
  rw [guard, Option.some.injEq, InboxDelivery.Broadcast.mk.injEq] at same
  rw [← same.2.1] at others
  cases others

/-- A thread leaves the lock alone while another holds it. -/
theorem worker_guard {system : System} {actor : ThreadId} {event : Event} {after : WorkerAt}
    {registry : InboxDelivery.System} {call : InboxDelivery.Broadcast}
    (guard : system.registry.guard = some call)
    (silent : ∀ number, system.workers actor ≠ .telling number)
    (move : WorkerMove actor (system.workers actor) event after)
    (effect : Effect system.registry event registry) :
    registry.guard = system.registry.guard := by
  generalize workerAt : system.workers actor = before at move
  cases move with
  | lock =>
      cases effect with
      | operation step =>
          cases step with
          | lock free => cases guard.symm.trans free
  | unlock => exact absurd workerAt (silent _)
  | _ => exact effect_guard effect rfl

theorem launched_eq {event : Event} {workers : ThreadId → WorkerAt} {threadId : ThreadId}
    {workerAt : WorkerAt} (running : workerAt ≠ .starting)
    (same : launched event workers threadId = workerAt) : workers threadId = workerAt := by
  unfold launched at same
  split at same
  · next started =>
      by_cases hit : threadId = started
      · rw [hit, Function.update_self] at same
        exact absurd same.symm running
      · rwa [Function.update_of_ne hit] at same
  · exact same

theorem main_held {system : System} {event : Event} {main : MainAt}
    {registry : InboxDelivery.System} (held : Held system)
    (move : MainMove system.main event main) (effect : Effect system.registry event registry) :
    Held ⟨registry, main, launched event system.workers⟩ := by
  have telling {threadId : ThreadId} {number : Nat}
      (tells : launched event system.workers threadId = .telling number) :
      system.workers threadId = .telling number := launched_eq nofun tells
  generalize mainAt : system.main = before at move
  cases move with
  | lock =>
      -- The lock was free, so that no thread was broadcasting.
      cases effect with
      | operation step =>
          cases step with
          | lock free =>
              refine ⟨?_, ?_, ?_⟩
              · rintro number same
                cases same
                exact ⟨_, rfl⟩
              · intro threadId number tells
                obtain ⟨_, _, _, guard⟩ := held.theirs threadId number (telling tells)
                cases guard.symm.trans free
              · rintro call same -
                cases same
                rfl
  | unlock =>
      cases effect with
      | operation step =>
          cases step with
          | unlock guard done =>
              refine ⟨nofun, ?_, nofun⟩
              intro threadId number tells
              exact absurd (telling tells) (alone held mainAt threadId number)
  | _ =>
      have same := effect_guard effect rfl
      refine ⟨nofun, ?_, ?_⟩
      · intro threadId number tells
        simpa only [same] using held.theirs threadId number (telling tells)
      · intro call guard terminate
        have busy := held.whose call (same ▸ guard) terminate
        cases mainAt.symm.trans busy

theorem telling_locks {actor : ThreadId} {before : WorkerAt} {event : Event} {number : Nat}
    (move : WorkerMove actor before event (.telling number)) :
    ∃ msg : InboxMsg, msg.inboxMsgType ∈ announces actor ∧
      event = .inbox (.locked number msg actor) := by
  generalize told : WorkerAt.telling number = after at move
  cases move with
  | lock announced =>
      cases told
      exact ⟨_, announced, rfl⟩
  | getMessage | waitForMessage =>
      unfold WorkerAt.onMessage at told
      split at told <;> cases told
  | _ => cases told

theorem worker_held {system : System} {actor : ThreadId} {event : Event} {after : WorkerAt}
    {registry : InboxDelivery.System} (held : Held system)
    (move : WorkerMove actor (system.workers actor) event after)
    (effect : Effect system.registry event registry) :
    Held ⟨registry, system.main, Function.update system.workers actor after⟩ := by
  have kept : ∀ number, system.main = .broadcasting number →
      registry.guard = system.registry.guard := by
    intro number broadcasting
    obtain ⟨ahead, guard⟩ := held.mine number broadcasting
    exact worker_guard guard (alone held broadcasting actor) move effect
  refine ⟨?_, ?_, ?_⟩
  · intro number broadcasting
    obtain ⟨ahead, guard⟩ := held.mine number broadcasting
    exact ⟨ahead, (kept number broadcasting).trans guard⟩
  · intro threadId number tells
    by_cases own : threadId = actor
    · subst own
      simp only [Function.update_self] at tells
      subst tells
      obtain ⟨msg, announced, rfl⟩ := telling_locks move
      cases effect with
      | operation step =>
          cases step with
          | lock => exact ⟨msg, _, announces_other announced, rfl⟩
    · simp only [Function.update_of_ne own] at tells
      obtain ⟨msg, ahead, other, guard⟩ := held.theirs threadId number tells
      refine ⟨msg, ahead, other, (worker_guard guard ?_ move effect).trans guard⟩
      -- The holder of the lock is named in its call.
      intro second telling
      obtain ⟨_, _, _, same⟩ := held.theirs actor second telling
      rw [guard, Option.some.injEq, InboxDelivery.Broadcast.mk.injEq] at same
      exact own same.2.2.1
  · intro call guard terminate
    generalize workerAt : system.workers actor = before at move
    cases move with
    | lock announced =>
        cases effect with
        | operation step =>
            cases step with
            | lock =>
                cases guard
                cases terminate.symm.trans (announces_other announced)
    | unlock =>
        cases effect with
        | operation step =>
            cases step with
            | unlock => cases guard
    | _ => exact held.whose call ((effect_guard effect rfl) ▸ guard) terminate

theorem visit_held {system : System} {number : Nat} {msg : InboxMsg}
    {threadIdFrom target : ThreadId} {registry : InboxDelivery.System} (held : Held system)
    (effect :
      Effect system.registry (.inbox (.visited number msg threadIdFrom target)) registry) :
    Held { system with registry := registry } := by
  cases effect with
  | operation step =>
      cases step with
      | visit guard reaches =>
          refine ⟨?_, ?_, ?_⟩
          · intro number broadcasting
            obtain ⟨ahead, same⟩ := held.mine number broadcasting
            cases guard.symm.trans same
            exact ⟨_, rfl⟩
          · intro threadId number tells
            obtain ⟨msg, ahead, other, same⟩ := held.theirs threadId number tells
            cases guard.symm.trans same
            exact ⟨msg, _, other, rfl⟩
          · rintro call same terminate
            cases same
            have busy := held.whose _ guard terminate
            exact busy

theorem step_held {system next : System} {event : Event} (held : Held system)
    (step : Step system event next) : Held next := by
  cases step with
  | main move effect => exact main_held held move effect
  | worker actor move effect => exact worker_held held move effect
  | visit effect => exact visit_held held effect
  | bind effect =>
      have same := effect_guard effect rfl
      exact ⟨by simpa only [same] using held.mine, by simpa only [same] using held.theirs,
        by simpa only [same] using held.whose⟩

/-! What `main` has sent. -/

theorem sent_registry {system : System} (quiet : ∀ number, system.main ≠ .broadcasting number)
    (registry : InboxDelivery.System) (workers : ThreadId → WorkerAt) (threadId : ThreadId) :
    sent ⟨registry, system.main, workers⟩ threadId = sent system threadId := by
  unfold sent
  cases mainAt : system.main with
  | broadcasting number => exact absurd mainAt (quiet number)
  | _ => rfl

theorem sent_guard {system : System} {registry : InboxDelivery.System}
    (same : registry.guard = system.registry.guard) (workers : ThreadId → WorkerAt)
    (threadId : ThreadId) :
    sent ⟨registry, system.main, workers⟩ threadId = sent system threadId := by
  simp only [sent, same]

theorem main_sent {system : System} {event : Event} {main : MainAt}
    {registry : InboxDelivery.System} (sound : Sound system)
    (move : MainMove system.main event main) (effect : Effect system.registry event registry)
    (workers : ThreadId → WorkerAt) {threadId : ThreadId} (thread : threadId ≠ .ignore) :
    (sent system threadId).toNat + terminates (event.put threadId) =
      (sent ⟨registry, main, workers⟩ threadId).toNat := by
  generalize mainAt : system.main = before at move
  cases move with
  | lock =>
      -- The broadcast is over every inbox, and there is one for each thread.
      have present : (system.registry.inboxes threadId).isSome = true := by
        apply (sound.present threadId thread).resolve_right
        rintro ⟨rest, creating, -⟩
        cases mainAt.symm.trans creating
      cases effect with
      | operation step =>
          cases step with
          | lock free _ _ iterates =>
              have listed := (iterates.every threadId).mpr present
              simp [sent, mainAt, listed, Event.put, InboxDelivery.Event.put, terminates]
  | unlock =>
      cases effect with
      | operation step =>
          cases step with
          | unlock guard done =>
              simp [sent, mainAt, guard, done, Event.put, InboxDelivery.Event.put, terminates]
  | send =>
      by_cases timer : threadId = .timerTick
      · subst timer
        simp [sent, mainAt, Event.put, InboxDelivery.Event.put, terminates, isTerminate,
          terminateMsg, InboxMsg.ofType]
      · simp [sent, mainAt, timer, Ne.symm timer, Event.put, InboxDelivery.Event.put, terminates]
  | _ => simp [sent, mainAt, Event.put, InboxDelivery.Event.put, terminates]

theorem worker_sent {system : System} {actor : ThreadId} {event : Event} {after : WorkerAt}
    {registry : InboxDelivery.System} (held : Held system)
    (move : WorkerMove actor (system.workers actor) event after)
    (effect : Effect system.registry event registry) (workers : ThreadId → WorkerAt)
    (threadId : ThreadId) :
    sent ⟨registry, system.main, workers⟩ threadId = sent system threadId := by
  by_cases busy : ∃ number, system.main = .broadcasting number
  · obtain ⟨number, broadcasting⟩ := busy
    obtain ⟨ahead, guard⟩ := held.mine number broadcasting
    exact sent_guard (worker_guard guard (alone held broadcasting actor) move effect) ..
  · exact sent_registry (fun number same => busy ⟨number, same⟩) ..

theorem visit_sent {system : System} {number : Nat} {msg : InboxMsg}
    {threadIdFrom target : ThreadId} {registry : InboxDelivery.System} (sound : Sound system)
    (effect :
      Effect system.registry (.inbox (.visited number msg threadIdFrom target)) registry)
    (threadId : ThreadId) :
    (sent system threadId).toNat + terminates
        ((Event.inbox (.visited number msg threadIdFrom target)).put threadId) =
      (sent { system with registry := registry } threadId).toNat := by
  cases effect with
  | operation step =>
      cases step with
      | @visit call _ rest guard reaches =>
          -- Nobody but `main` broadcasts a message to terminate.
          by_cases terminate : isTerminate call.msg = true
          · have broadcasting := sound.held.whose call guard terminate
            obtain ⟨ahead, same⟩ := sound.held.mine _ broadcasting
            have once := sound.registry.once call guard
            rw [reaches, List.nodup_cons] at once
            rw [guard, Option.some.injEq] at same
            have msg : call.msg = terminateMsg := congrArg InboxDelivery.Broadcast.msg same
            have threadIdFrom : call.threadIdFrom = .timerTick :=
              congrArg InboxDelivery.Broadcast.threadIdFrom same
            have one : terminates [terminateMsg] = 1 := rfl
            have none : terminates [] = 0 := rfl
            by_cases hit : target = threadId
            · subst hit
              by_cases timer : target = .timerTick <;>
                simp [sent, broadcasting, guard, reaches, once.1, msg, threadIdFrom, timer, one,
                  none, Event.put, InboxDelivery.Event.put]
            · simp [sent, broadcasting, guard, reaches, hit, Ne.symm hit, none, Event.put,
                InboxDelivery.Event.put]
          · have quiet : ∀ number, system.main ≠ .broadcasting number := by
              intro number broadcasting
              obtain ⟨ahead, same⟩ := sound.held.mine number broadcasting
              rw [guard, Option.some.injEq] at same
              exact terminate (same ▸ rfl)
            have none : terminates ((Event.inbox
                (.visited call.number call.msg call.threadIdFrom target)).put threadId) = 0 := by
              simp only [Event.put, InboxDelivery.Event.put]
              split <;> simp [terminates, terminate]
            rw [none, Nat.add_zero]
            exact congrArg Bool.toNat (sent_registry quiet ..).symm

theorem step_sent {system next : System} {event : Event} (sound : Sound system)
    (step : Step system event next) {threadId : ThreadId} (thread : threadId ≠ .ignore) :
    (sent system threadId).toNat + terminates (event.put threadId) =
      (sent next threadId).toNat := by
  cases step with
  | main move effect => exact main_sent sound move effect _ thread
  | worker actor move effect =>
      rw [(worker_messages move threadId).1, Nat.add_zero]
      exact congrArg Bool.toNat (worker_sent sound.held move effect _ threadId).symm
  | visit effect => exact visit_sent sound effect threadId
  | bind effect => exact congrArg Bool.toNat (sent_guard (effect_guard effect rfl) ..).symm

/-! Who has left the loop. -/

theorem main_messages {before after : MainAt} {event : Event} (move : MainMove before event after)
    (threadId : ThreadId) : event.taken threadId = [] ∧ event.discarded threadId = [] := by
  cases move <;> exact ⟨rfl, rfl⟩

/-- A thread that `main` starts had not left its loop. -/
theorem launched_outside {system : System} {event : Event} {main : MainAt} (sound : Sound system)
    (move : MainMove system.main event main) {threadId : ThreadId} (thread : threadId ≠ .ignore) :
    (launched event system.workers threadId).outside =
      (system.workers threadId).outside := by
  generalize mainAt : system.main = before at move
  cases move with
  | @start started rest =>
      by_cases hit : threadId = started
      · subst hit
        have account := sound.account threadId thread
        have unsent : sent system threadId = false := by simp only [sent, mainAt]
        rw [unsent, Bool.toNat_false, Nat.add_eq_zero_iff, Bool.toNat_eq_zero] at account
        simp only [launched, Function.update_self]
        exact account.2.symm
      · simp only [launched, Function.update_of_ne hit]
  | _ => rfl

theorem step_outside {system next : System} {event : Event} (sound : Sound system)
    (step : Step system event next) {threadId : ThreadId} (thread : threadId ≠ .ignore) :
    (system.workers threadId).outside.toNat + terminates (event.taken threadId) =
      (next.workers threadId).outside.toNat := by
  cases step with
  | main move effect =>
      rw [(main_messages move threadId).1, launched_outside sound move thread]
      rfl
  | worker actor move effect =>
      have messages := (worker_messages move threadId).2.1
      by_cases own : threadId = actor
      · subst own
        simpa using messages
      · simpa [own] using messages
  | visit => rfl
  | bind => rfl

theorem effect_unread {system : System} {event : Event} {registry : InboxDelivery.System}
    (sound : InboxDelivery.Sound system.registry)
    (effect : Effect system.registry event registry) (main : MainAt)
    (workers : ThreadId → WorkerAt) (threadId : ThreadId) :
    unread system threadId + terminates (event.put threadId) =
      terminates (event.taken threadId) + terminates (event.discarded threadId) +
        unread ⟨registry, main, workers⟩ threadId := by
  have moved := congrArg terminates (effect_queue sound effect threadId)
  simpa only [unread, terminates_append] using moved

theorem step_unread {system next : System} {event : Event} (sound : Sound system)
    (step : Step system event next) (threadId : ThreadId) :
    unread system threadId + terminates (event.put threadId) =
      terminates (event.taken threadId) + terminates (event.discarded threadId) +
        unread next threadId := by
  cases step with
  | main move effect => exact effect_unread sound.registry effect ..
  | worker actor move effect => exact effect_unread sound.registry effect ..
  | visit effect => exact effect_unread sound.registry effect ..
  | bind effect => exact effect_unread sound.registry effect ..

/-- A thread clears its inbox after it has left the loop: Terminate is gone from it then. -/
theorem step_discarded {system next : System} {event : Event} (sound : Sound system)
    (step : Step system event next) {threadId : ThreadId} (thread : threadId ≠ .ignore) :
    terminates (event.discarded threadId) = 0 := by
  have moved := step_unread sound step threadId
  cases step with
  | main move effect => rw [(main_messages move threadId).2]; rfl
  | worker actor move effect =>
      obtain ⟨silent, -, either⟩ := worker_messages move threadId
      rcases either with none | ⟨rfl, left⟩
      · rw [none]
        rfl
      · have account := sound.account threadId thread
        have once := Bool.toNat_le (sent system threadId)
        rw [left, Bool.toNat_true] at account
        omega
  | visit => rfl
  | bind => rfl

theorem step_account {system next : System} {event : Event} (sound : Sound system)
    (step : Step system event next) {threadId : ThreadId} (thread : threadId ≠ .ignore) :
    unread next threadId + (next.workers threadId).outside.toNat =
      (sent next threadId).toNat := by
  have account := sound.account threadId thread
  have moved := step_unread sound step threadId
  have kept := step_discarded sound step thread
  have left := step_outside sound step thread
  have told := step_sent sound step thread
  omega

theorem step_present {system next : System} {event : Event} (sound : Sound system)
    (step : Step system event next) {threadId : ThreadId} (thread : threadId ≠ .ignore) :
    (next.registry.inboxes threadId).isSome = true ∨
      ∃ rest, next.main = .creating rest ∧ threadId ∈ rest := by
  rcases sound.present threadId thread with here | ⟨rest, creating, listed⟩
  · apply Or.inl
    cases step with
    | main move effect => exact (effect_isSome effect threadId).mpr (Or.inl here)
    | worker actor move effect => exact (effect_isSome effect threadId).mpr (Or.inl here)
    | visit effect => exact (effect_isSome effect threadId).mpr (Or.inl here)
    | bind effect => exact (effect_isSome effect threadId).mpr (Or.inl here)
  · cases step with
    | main move effect =>
        rw [creating] at move
        cases move with
        | create =>
            rcases List.mem_cons.mp listed with rfl | later
            · exact Or.inl ((effect_isSome effect threadId).mpr (Or.inr rfl))
            · exact Or.inr ⟨_, rfl, later⟩
        | created => cases listed
    | worker => exact Or.inr ⟨rest, creating, listed⟩
    | visit => exact Or.inr ⟨rest, creating, listed⟩
    | bind => exact Or.inr ⟨rest, creating, listed⟩

/-- A thread that has returned does nothing more. -/
theorem finished_stays {actor : ThreadId} {before after : WorkerAt} {event : Event}
    (move : WorkerMove actor before event after) : before ≠ .finished := by
  cases move <;> exact nofun

theorem finished_returns {actor : ThreadId} {before : WorkerAt} {event : Event}
    (move : WorkerMove actor before event .finished) : event = .returned actor := by
  generalize done : WorkerAt.finished = after at move
  cases move with
  | finish => rfl
  | finishCleared => rfl
  | getMessage | waitForMessage =>
      unfold WorkerAt.onMessage at done
      split at done <;> cases done
  | _ => cases done

theorem step_joined {system next : System} {event : Event} (sound : Sound system)
    (step : Step system event next) {threadId : ThreadId} (other : threadId ∈ others)
    (joined : Joined next.main threadId) : next.workers threadId = .finished := by
  cases step with
  | main move effect finished =>
      have earlier := sound.joined threadId other
      generalize system.main = before at move earlier
      cases move with
      | unlock => exact absurd other joined
      | @join reached rest =>
          by_cases hit : threadId = reached
          · exact hit ▸ finished reached rfl
          · exact earlier fun listed => (List.mem_cons.mp listed).elim hit joined
      | getInbox => exact earlier (List.not_mem_nil)
      | send => exact earlier trivial
      | joinTimerTick => exact earlier trivial
      | _ => exact joined.elim
  | worker actor move effect =>
      have done := sound.joined threadId other joined
      have another : threadId ≠ actor := by
        rintro rfl
        exact finished_stays move done
      exact (Function.update_of_ne another ..).trans done
  | visit => exact sound.joined threadId other joined
  | bind => exact sound.joined threadId other joined

theorem step_sound {system next : System} {event : Event} (sound : Sound system)
    (step : Step system event next) : Sound next where
  registry := by
    cases step with
    | main move effect => exact effect_sound sound.registry effect
    | worker actor move effect => exact effect_sound sound.registry effect
    | visit effect => exact effect_sound sound.registry effect
    | bind effect => exact effect_sound sound.registry effect
  present _ := step_present sound step
  held := step_held sound.held step
  joined _ := step_joined sound step
  account _ := step_account sound step

theorem new_sound : Sound System.new where
  registry := InboxDelivery.new_sound
  present threadId thread := by
    refine Or.inr ⟨threadIds, rfl, ?_⟩
    cases threadId <;> first | decide | exact absurd rfl thread
  held := ⟨nofun, nofun, nofun⟩
  joined _ _ := False.elim
  account _ _ := rfl

theorem run_sound {history : List Event} {system : System}
    (run : Run Step System.new history system) : Sound system :=
  run.invariant (fun _ system => Sound system) new_sound
    fun _ _ _ _ _ step sound => step_sound sound step

theorem taken_concat (threadId : ThreadId) (history : List Event) (event : Event) :
    taken threadId (history ++ [event]) = taken threadId history ++ event.taken threadId := by
  simp [taken]

/-- No event takes a message and puts one. -/
theorem takes_puts {event : Event} {threadId other : ThreadId}
    (takes : HasTerminate (event.taken threadId)) : event.put other = [] := by
  obtain ⟨msg, member, -⟩ := takes
  cases event with
  | inbox event =>
      cases event with
      | getMessage | waitForMessage => rfl
      | _ => cases member
  | _ => cases member

theorem run_taken {history : List Event} {system : System}
    (run : Run Step System.new history system) {threadId : ThreadId}
    (thread : threadId ≠ .ignore) :
    terminates (taken threadId history) = (system.workers threadId).outside.toNat := by
  refine run.invariant (fun history system => terminates (taken threadId history) =
    (system.workers threadId).outside.toNat) rfl ?_
  intro history system event next run step same
  rw [taken_concat, terminates_append, same, step_outside (run_sound run) step thread]

theorem run_returned {history : List Event} {system : System}
    (run : Run Step System.new history system) {threadId : ThreadId}
    (finished : system.workers threadId = .finished) : Event.returned threadId ∈ history := by
  revert finished
  refine run.invariant (fun history system => system.workers threadId = .finished →
    Event.returned threadId ∈ history) (fun finished => by cases finished) ?_
  intro history system event next _ step earlier finished
  rw [List.mem_append, List.mem_singleton]
  cases step with
  | main move effect =>
      exact Or.inl (earlier (launched_eq nofun finished))
  | @worker _ _ actor after move effect =>
      by_cases own : threadId = actor
      · subst own
        simp only [Function.update_self] at finished
        exact Or.inr (finished_returns (finished ▸ move)).symm
      · simp only [Function.update_of_ne own] at finished
        exact Or.inl (earlier finished)
  | visit => exact Or.inl (earlier finished)
  | bind => exact Or.inl (earlier finished)

theorem step_cleared {system next : System} {threadId : ThreadId} {discarded : List InboxMsg}
    (step : Step system (.cleared threadId discarded) next) : waits threadId = true := by
  cases step with
  | main move =>
      generalize system.main = before at move
      cases move
  | worker actor move =>
      generalize system.workers actor = before at move
      cases move with
      | clear sleeps => exact sleeps

theorem mem_others {threadId : ThreadId} (other : threadId ∈ others) :
    threadId ≠ .ignore ∧ threadId ≠ .timerTick := by
  constructor <;> rintro rfl <;> exact absurd other (by decide)

/-- Nothing but `main` past its second message lets the timer take Terminate. -/
theorem sent_timerTick {system : System} (told : sent system .timerTick = true)
    (threadId : ThreadId) : Joined system.main threadId := by
  unfold sent at told
  cases mainAt : system.main <;> rw [mainAt] at told <;> trivial

/-- Whatever was sent to a thread was taken by it or is unread. -/
theorem told_threads {history : List Event} {system : System}
    (run : Run Step System.new history system) (broadcast : Broadcast system.main)
    {threadId : ThreadId} (other : threadId ∈ others) :
    Consumed threadId history ∨ Unread threadId system := by
  obtain ⟨thread, another⟩ := mem_others other
  have told : sent system threadId = true := by
    cases mainAt : system.main <;> rw [mainAt] at broadcast <;>
      first | exact broadcast.elim | simp [sent, mainAt, another]
  have account := (run_sound run).account threadId thread
  rw [told, ← run_taken run thread, Bool.toNat_true] at account
  rcases Nat.eq_zero_or_pos (terminates (taken threadId history)) with none | some
  · exact Or.inr (terminates_pos.mp (show 0 < unread system threadId by omega))
  · exact Or.inl (terminates_pos.mp some)

theorem cleared_clean {history : List Event} {system : System}
    (run : Run Step System.new history system) {threadId : ThreadId} {discarded : List InboxMsg}
    (cleared : Event.cleared threadId discarded ∈ history) : ¬ HasTerminate discarded := by
  obtain ⟨before, after, rfl⟩ := List.append_of_mem cleared
  obtain ⟨left, right, earlier, step, -⟩ := run.around
  have thread : threadId ≠ .ignore := by
    rintro rfl
    cases step_cleared step
  have none := step_discarded (run_sound earlier) step thread
  rw [Event.discarded, if_pos rfl] at none
  exact fun some => Nat.ne_of_gt (terminates_pos.mpr some) none

theorem left_consumed {history : List Event} {system : System}
    (run : Run Step System.new history system) {threadId : ThreadId}
    (listed : threadId ∈ threadIds) (left : (system.workers threadId).outside = true) :
    Consumed threadId history := by
  have thread : threadId ≠ .ignore := by
    rintro rfl
    exact absurd listed (by decide)
  have one := run_taken run thread
  rw [left, Bool.toNat_true] at one
  exact terminates_pos.mp (one ▸ Nat.one_pos)

/-- When the timer takes its message, `main` has joined every other thread. -/
theorem timer_last {before after : List Event} {event : Event} {system : System}
    (run : Run Step System.new (before ++ event :: after) system)
    (takes : HasTerminate (event.taken .timerTick)) {threadId : ThreadId}
    (other : threadId ∈ others) : Event.returned threadId ∈ before := by
  obtain ⟨left, right, earlier, step, -⟩ := run.around
  have thread : ThreadId.timerTick ≠ .ignore := by decide
  -- The timer had not left its loop, and one message was there to be taken.
  have account := (run_sound earlier).account .timerTick thread
  have moved := step_unread (run_sound earlier) step .timerTick
  have gone := step_outside (run_sound earlier) step thread
  have once := Bool.toNat_le (right.workers .timerTick).outside
  have some := terminates_pos.mpr takes
  have quiet : terminates (event.put .timerTick) = 0 := by
    rw [takes_puts takes]
    rfl
  have told : sent left .timerTick = true := by
    rw [← Bool.toNat_eq_one]
    have bound := Bool.toNat_le (sent left .timerTick)
    omega
  exact run_returned earlier
    ((run_sound earlier).joined threadId other (sent_timerTick told threadId))

/-- Every thread but the timer gets the message of the broadcast, every thread leaves its
loop by taking one, nobody throws one away, and the timer stops last. -/
theorem no_thread_misses_terminate {history : List Event} {system : System}
    (run : Run Step System.new history system) :
    (Broadcast system.main → ∀ threadId ∈ others,
      Consumed threadId history ∨ Unread threadId system) ∧
    (∀ threadId discarded, Event.cleared threadId discarded ∈ history →
      ¬ HasTerminate discarded) ∧
    (∀ threadId ∈ threadIds, (system.workers threadId).outside = true →
      Consumed threadId history) ∧
    (∀ before event after, history = before ++ event :: after →
      HasTerminate (event.taken .timerTick) →
      ∀ threadId ∈ others, Event.returned threadId ∈ before) := by
  refine ⟨?_, ?_, ?_, ?_⟩
  · exact fun broadcast _ other => told_threads run broadcast other
  · exact fun _ _ cleared => cleared_clean run cleared
  · exact fun _ listed left => left_consumed run listed left
  · rintro before event after rfl takes threadId other
    exact timer_last run takes other

/-! `main` alone: nothing that the threads do is needed to get as far as the joins. -/

theorem creates (rest : List ThreadId) {system : System} (creating : system.main = .creating rest)
    (free : system.registry.guard = none) : ∃ history next, Run Step system history next ∧
      next.main = .creating [] ∧ next.registry.guard = none ∧ next.workers = system.workers := by
  induction rest generalizing system with
  | nil => exact ⟨[], system, .start, creating, free, rfl⟩
  | cons threadId rest ih =>
      obtain ⟨after, moves, creating, free, same⟩ : ∃ after,
          Step system (.inbox (.getInbox threadId)) after ∧ after.main = .creating rest ∧
            after.registry.guard = none ∧ after.workers = system.workers :=
        ⟨_, .main (creating ▸ .create) (.operation (.getInbox free threadId)) nofun, rfl, free,
          rfl⟩
      obtain ⟨history, next, run, there, still, kept⟩ := ih creating free
      exact ⟨_, next, (Run.one moves).append run, there, still, kept.trans same⟩

theorem starts (rest : List ThreadId) {system : System} (starting : system.main = .starting rest)
    (free : system.registry.guard = none)
    (inside : ∀ threadId, (system.workers threadId).outside = false) :
    ∃ history next, Run Step system history next ∧ next.main = .starting [] ∧
      next.registry.guard = none ∧ ∀ threadId, (next.workers threadId).outside = false := by
  induction rest generalizing system with
  | nil => exact ⟨[], system, .start, starting, free, inside⟩
  | cons started rest ih =>
      obtain ⟨after, moves, starting, free, launches⟩ : ∃ after,
          Step system (.started started) after ∧ after.main = .starting rest ∧
            after.registry.guard = none ∧
            after.workers = Function.update system.workers started .starting :=
        ⟨_, .main (starting ▸ .start) .started nofun, rfl, free, rfl⟩
      have fresh (threadId : ThreadId) : (after.workers threadId).outside = false := by
        rw [launches]
        by_cases hit : threadId = started
        · rw [hit, Function.update_self]
          rfl
        · rw [Function.update_of_ne hit]
          exact inside threadId
      obtain ⟨history, next, run, there, still, kept⟩ := ih starting free fresh
      exact ⟨_, next, (Run.one moves).append run, there, still, kept⟩

theorem visits (ahead : List ThreadId) {system : System} {call : InboxDelivery.Broadcast}
    (guard : system.registry.guard = some call) (reaches : call.ahead = ahead) :
    ∃ history next, Run Step system history next ∧ next.main = system.main ∧
      next.workers = system.workers ∧
      next.registry.guard = some { call with ahead := [] } := by
  induction ahead generalizing system call with
  | nil => exact ⟨[], system, .start, rfl, rfl, by rw [guard, ← reaches]⟩
  | cons threadId rest ih =>
      obtain ⟨after, event, moves, there, same, held⟩ : ∃ after event,
          Step system event after ∧ after.main = system.main ∧
            after.workers = system.workers ∧
            after.registry.guard = some { call with ahead := rest } :=
        ⟨_, _, .visit (.operation (.visit guard reaches)), rfl, rfl, rfl⟩
      obtain ⟨history, next, run, still, kept, done⟩ := ih held rfl
      exact ⟨_, next, (Run.one moves).append run, still.trans there, kept.trans same, done⟩

theorem broadcasts : ∃ history system, Run Step System.new history system ∧
    system.main = .joining others ∧ ∀ threadId, (system.workers threadId).outside = false := by
  obtain ⟨_, made, first, creating, free, absent⟩ :=
    creates threadIds (rfl : System.new.main = .creating threadIds) rfl
  obtain ⟨after, created, starting, still, same⟩ : ∃ after, Step made .ran after ∧
      after.main = .starting threadIds ∧ after.registry.guard = none ∧
      after.workers = made.workers :=
    ⟨_, .main (creating ▸ .created) .ran nofun, rfl, free, rfl⟩
  obtain ⟨_, ready, second, started, unlocked, inside⟩ :=
    starts threadIds starting still fun threadId => by rw [same, absent]; rfl
  obtain ⟨server, serves, serving, idle, kept⟩ : ∃ after, Step ready .ran after ∧
      after.main = .serving ∧ after.registry.guard = none ∧ after.workers = ready.workers :=
    ⟨_, .main (started ▸ .serve) .ran nofun, rfl, unlocked, rfl⟩
  obtain ⟨locker, number, event, locks, busy, quiet, call, held⟩ : ∃ after number event,
      Step server event after ∧ after.main = .broadcasting number ∧
        after.workers = server.workers ∧ ∃ call, after.registry.guard = some call ∧
          call.number = number :=
    ⟨_, _, _, .main (serving ▸ .lock) (.operation (.lock idle terminateMsg .timerTick
      (entries_iterates _))) nofun, rfl, rfl, _, rfl, rfl⟩
  obtain ⟨_, told, third, broadcasting, silent, done⟩ := visits _ held.1 rfl
  obtain ⟨ended, event, unlocks, joining, left⟩ : ∃ after event, Step told event after ∧
      after.main = .joining others ∧ after.workers = told.workers := by
    refine ⟨_, _, .main ?_ (.operation (.unlock done rfl)) nofun, rfl, rfl⟩
    rw [broadcasting, busy, ← held.2]
    exact .unlock
  have run := ((first.step created).append second).step serves
  refine ⟨_, ended, ((run.step locks).append third).step unlocks, joining, fun threadId => ?_⟩
  rw [left, silent, quiet, kept]
  exact inside threadId

/-- `main` can broadcast before a single thread has run: the message waits for each. -/
theorem no_thread_misses_terminate_unstarted : ∃ history system,
    Run Step System.new history system ∧ system.main = .joining others ∧
      ∀ threadId ∈ others, Unread threadId system := by
  obtain ⟨history, system, run, joining, inside⟩ := broadcasts
  refine ⟨history, system, run, joining, fun threadId other => ?_⟩
  have either := (no_thread_misses_terminate run).1 (joining ▸ trivial) threadId other
  refine either.resolve_left fun consumed => ?_
  have none := run_taken run (mem_others other).1
  rw [inside threadId] at none
  exact Nat.ne_of_gt (terminates_pos.mpr consumed) none

end OClock.Shutdown
