import OClock.InboxRegistry
import OClock.LabelledRun

/-!
The inboxes under any schedule. A broadcast holds the lock of the registry over its whole
loop; between two turns of that loop other threads put messages into inboxes and take them
out. Only `getInbox` and the next broadcast wait for the lock.
-/

namespace OClock.InboxDelivery
open InboxRegistry LabelledRun

/-- The call of `broadcast` that holds the lock: its number, and the entries that its loop
has not reached. -/
structure Broadcast where
  number : Nat
  msg : InboxMsg
  threadIdFrom : ThreadId
  ahead : List ThreadId

structure System where
  inboxes : Inboxes
  guard : Option Broadcast
  /-- How many broadcasts have taken the lock. -/
  broadcasts : Nat

def System.new : System := ⟨fun _ => none, none, 0⟩

inductive Event where
  | getInbox (threadId : ThreadId)
  | locked (number : Nat) (msg : InboxMsg) (threadIdFrom : ThreadId)
  | visited (number : Nat) (msg : InboxMsg) (threadIdFrom threadId : ThreadId)
  | unlocked (number : Nat)
  | addMessage (threadId : ThreadId) (msg : InboxMsg)
  | getMessage (threadId : ThreadId) (msg : Option InboxMsg)
  | waitForMessage (threadId : ThreadId) (msg : InboxMsg)
  deriving DecidableEq

inductive Step : System → Event → System → Prop
  | getInbox {system : System} (free : system.guard = none) (threadId : ThreadId) :
      Step system (.getInbox threadId)
        { system with inboxes := InboxRegistry.getInbox system.inboxes threadId }
  | lock {system : System} (free : system.guard = none) (msg : InboxMsg)
      (threadIdFrom : ThreadId) {order : List ThreadId}
      (iterates : Iterates system.inboxes order) :
      Step system (.locked system.broadcasts msg threadIdFrom)
        { system with
          guard := some ⟨system.broadcasts, msg, threadIdFrom, order⟩
          broadcasts := system.broadcasts + 1 }
  | visit {system : System} {call : Broadcast} {threadId : ThreadId} {rest : List ThreadId}
      (held : system.guard = some call) (reaches : call.ahead = threadId :: rest) :
      Step system (.visited call.number call.msg call.threadIdFrom threadId)
        { system with
          inboxes := broadcastEntry call.msg call.threadIdFrom system.inboxes threadId
          guard := some { call with ahead := rest } }
  | unlock {system : System} {call : Broadcast} (held : system.guard = some call)
      (done : call.ahead = []) :
      Step system (.unlocked call.number) { system with guard := none }
  | addMessage {system : System} {threadId : ThreadId} {inbox : Inbox}
      (present : system.inboxes threadId = some inbox) (msg : InboxMsg) :
      Step system (.addMessage threadId msg)
        { system with inboxes := addMessageTo system.inboxes threadId msg }
  | getMessage {system : System} {threadId : ThreadId} {inbox : Inbox}
      (present : system.inboxes threadId = some inbox) :
      Step system (.getMessage threadId inbox.getMessage.1)
        { system with inboxes := system.inboxes.write threadId inbox.getMessage.2 }
  | waitForMessage {system : System} {threadId : ThreadId} {inbox after : Inbox}
      {msg : InboxMsg} (present : system.inboxes threadId = some inbox)
      (ready : inbox.waitForMessage = some (msg, after)) :
      Step system (.waitForMessage threadId msg)
        { system with inboxes := system.inboxes.write threadId after }

/-- What an event puts into an inbox, with the number of the broadcast it belongs to. -/
def Event.put (inbox : ThreadId) : Event → Option (Option Nat × InboxMsg)
  | .visited number msg threadIdFrom threadId =>
      if threadId = inbox ∧ threadId ≠ threadIdFrom then some (some number, msg) else none
  | .addMessage threadId msg => if threadId = inbox then some (none, msg) else none
  | _ => none

/-- What a consumer of an inbox receives. -/
def Event.took (inbox : ThreadId) : Event → Option InboxMsg
  | .getMessage threadId msg => if threadId = inbox then msg else none
  | .waitForMessage threadId msg => if threadId = inbox then some msg else none
  | _ => none

def puts (inbox : ThreadId) (events : List Event) : List (Option Nat × InboxMsg) :=
  events.filterMap (Event.put inbox)

def takes (inbox : ThreadId) (events : List Event) : List InboxMsg :=
  events.filterMap (Event.took inbox)

/-- The broadcasts that reached an inbox, in the order in which they did. -/
def numbers (inbox : ThreadId) (events : List Event) : List Nat :=
  (puts inbox events).filterMap Prod.fst

/-- What one broadcast has put into an inbox. -/
def share (inbox : ThreadId) (number : Nat) (events : List Event) :
    List (Option Nat × InboxMsg) := (puts inbox events).filter fun put => put.1 == some number

theorem puts_concat (inbox : ThreadId) (events : List Event) (event : Event) :
    puts inbox (events ++ [event]) = puts inbox events ++ (event.put inbox).toList := by
  rw [puts, List.filterMap_append]
  cases put : event.put inbox <;> simp [puts, put]

theorem takes_concat (inbox : ThreadId) (events : List Event) (event : Event) :
    takes inbox (events ++ [event]) = takes inbox events ++ (event.took inbox).toList := by
  rw [takes, List.filterMap_append]
  cases took : event.took inbox <;> simp [takes, took]

theorem mem_numbers {inbox : ThreadId} {number : Nat} {events : List Event} :
    number ∈ numbers inbox events ↔ share inbox number events ≠ [] := by
  simp [numbers, share, List.mem_filterMap]

/-! Each inbox is a queue. -/

theorem queue_getInbox (inboxes : Inboxes) (created threadId : ThreadId) :
    queue (InboxRegistry.getInbox inboxes created) threadId = queue inboxes threadId := by
  cases present : inboxes created with
  | some inbox => rw [getInbox_of_some present]
  | none =>
      rw [getInbox_of_none present]
      by_cases hit : threadId = created
      · subst hit
        simp [queue, present, Inbox.new]
      · simp [queue, write_other _ _ _ hit]

/-- `getMessage` does what `waitForMessage` does, or finds nothing and changes nothing. -/
theorem getMessage_cases (inbox : Inbox) :
    inbox.getMessage = (none, inbox) ∨
      ∃ msg after, inbox.waitForMessage = some (msg, after) ∧
        inbox.getMessage = (some msg, after) := by
  unfold Inbox.getMessage Inbox.waitForMessage
  cases inbox.msgs with
  | nil => exact Or.inl rfl
  | cons msg rest => exact Or.inr ⟨msg, _, rfl, rfl⟩

theorem write_back {inboxes : Inboxes} {threadId : ThreadId} {inbox : Inbox}
    (present : inboxes threadId = some inbox) : inboxes.write threadId inbox = inboxes := by
  rw [Inboxes.write, ← present, Function.update_eq_self]

/-- The loop of the broadcast that holds the lock is over entries of the table. -/
structure Sound (system : System) : Prop where
  counted : ∀ threadId inbox, system.inboxes threadId = some inbox → Counted inbox
  once : ∀ call, system.guard = some call → call.ahead.Nodup
  entries : ∀ call, system.guard = some call →
    ∀ threadId ∈ call.ahead, (system.inboxes threadId).isSome = true
  newest : ∀ call, system.guard = some call → call.number + 1 = system.broadcasts

/-- Only `getInbox` makes an inbox, and no inbox goes away. -/
theorem step_isSome {system next : System} {event : Event} (step : Step system event next)
    (threadId : ThreadId) :
    (next.inboxes threadId).isSome = true ↔
      (system.inboxes threadId).isSome = true ∨ event = .getInbox threadId := by
  cases step with
  | getInbox free created =>
      cases present : system.inboxes created with
      | some inbox =>
          simp only [getInbox_of_some present, Event.getInbox.injEq]
          exact ⟨Or.inl, fun either => either.elim id fun same => same ▸ present ▸ rfl⟩
      | none =>
          simp only [getInbox_of_none present, Event.getInbox.injEq]
          by_cases hit : threadId = created
          · subst hit
            simp
          · simp [write_other _ _ _ hit, Ne.symm hit]
  | lock => simp
  | visit =>
      simp only [broadcastEntry, reduceCtorEq, or_false]
      split
      · rw [addMessageTo_isSome]
      · rfl
  | unlock => simp
  | addMessage => simp [addMessageTo_isSome]
  | getMessage present => simp [write_isSome present]
  | waitForMessage present => simp [write_isSome present]

theorem addMessageTo_counted {inboxes : Inboxes}
    (counted : ∀ threadId inbox, inboxes threadId = some inbox → Counted inbox)
    (target : ThreadId) (msg : InboxMsg) :
    ∀ threadId inbox, addMessageTo inboxes target msg threadId = some inbox → Counted inbox := by
  intro threadId inbox found
  rw [addMessageTo_inbox] at found
  obtain ⟨before, held, rfl⟩ := Option.map_eq_some_iff.mp found
  split
  · exact addMessage_counted (counted threadId before held) msg
  · exact counted threadId before held

theorem write_counted {inboxes : Inboxes}
    (counted : ∀ threadId inbox, inboxes threadId = some inbox → Counted inbox)
    (target : ThreadId) {after : Inbox} (fine : Counted after) :
    ∀ threadId inbox, inboxes.write target after threadId = some inbox → Counted inbox := by
  intro threadId inbox found
  by_cases hit : threadId = target
  · rw [hit, write_same] at found
    exact Option.some.inj found ▸ fine
  · exact counted threadId inbox ((write_other _ _ _ hit).symm.trans found)

theorem waited_counted {inbox after : Inbox} {msg : InboxMsg} (counted : Counted inbox)
    (ready : inbox.waitForMessage = some (msg, after)) : Counted after := by
  obtain ⟨queued, count⟩ := waitForMessage_takes ready
  have fine := taken_counted counted queued
  rwa [← count] at fine

theorem step_counted {system next : System} {event : Event} (step : Step system event next)
    (counted : ∀ threadId inbox, system.inboxes threadId = some inbox → Counted inbox) :
    ∀ threadId inbox, next.inboxes threadId = some inbox → Counted inbox := by
  cases step with
  | getInbox free created =>
      cases present : system.inboxes created with
      | some inbox => simpa only [getInbox_of_some present] using counted
      | none =>
          simp only [getInbox_of_none present]
          exact write_counted counted created new_counted
  | lock => exact counted
  | visit =>
      simp only [broadcastEntry]
      split
      · exact addMessageTo_counted counted _ _
      · exact counted
  | unlock => exact counted
  | addMessage => exact addMessageTo_counted counted _ _
  | @getMessage threadId inbox present =>
      rcases getMessage_cases inbox with nothing | ⟨msg, after, ready, taken⟩
      · simpa only [nothing, write_back present] using counted
      · simp only [taken]
        exact write_counted counted threadId (waited_counted (counted _ _ present) ready)
  | @waitForMessage threadId inbox after msg present ready =>
      exact write_counted counted threadId (waited_counted (counted _ _ present) ready)

theorem new_sound : Sound System.new := ⟨nofun, nofun, nofun, nofun⟩

theorem step_sound {system next : System} {event : Event} (sound : Sound system)
    (step : Step system event next) : Sound next := by
  have stays : ∀ threadId, (system.inboxes threadId).isSome = true →
      (next.inboxes threadId).isSome = true :=
    fun threadId here => (step_isSome step threadId).mpr (Or.inl here)
  refine ⟨step_counted step sound.counted, ?_, ?_, ?_⟩ <;> intro call held <;> cases step
  case refine_1.lock iterates => cases held; exact iterates.once
  case refine_1.visit before reaches =>
    cases held
    exact (List.nodup_cons.mp (reaches ▸ sound.once _ before)).2
  case refine_2.lock iterates => cases held; exact fun threadId => (iterates.every threadId).mp
  case refine_2.visit before reaches =>
    cases held
    exact fun threadId member => stays threadId
      (sound.entries _ before threadId (reaches ▸ List.mem_cons_of_mem _ member))
  case refine_3.lock => cases held; rfl
  case refine_3.visit before reaches =>
    have newest := sound.newest _ before
    cases held
    exact newest
  all_goals first
    | exact sound.once _ held
    | exact sound.newest _ held
    | exact fun threadId member => stays threadId (sound.entries _ held threadId member)
    | cases held

/-- What comes in goes to the end, what goes out comes from the front. -/
theorem step_queue {system next : System} {event : Event} (sound : Sound system)
    (step : Step system event next) (threadId : ThreadId) :
    queue system.inboxes threadId ++ (event.put threadId).toList.map Prod.snd =
      (event.took threadId).toList ++ queue next.inboxes threadId := by
  cases step with
  | getInbox free created =>
      simp only [queue_getInbox, Event.put, Event.took]
      exact List.append_nil _
  | lock => exact List.append_nil _
  | @visit call target rest held reaches =>
      have entry := sound.entries _ held target (reaches ▸ List.mem_cons_self)
      simp only [broadcastEntry, Event.put, Event.took]
      by_cases own : target = call.threadIdFrom
      · simp [own]
      · rw [if_pos own, queue_addMessageTo entry]
        by_cases hit : target = threadId <;> simp [hit, own]
        simp [← hit, own]
  | unlock => exact List.append_nil _
  | @addMessage target inbox present msg =>
      simp only [Event.put, Event.took]
      rw [queue_addMessageTo (by rw [present]; rfl)]
      by_cases hit : target = threadId <;> simp [hit]
  | @getMessage target inbox present =>
      rcases getMessage_cases inbox with nothing | ⟨msg, after, ready, taken⟩
      · simp [nothing, write_back present, Event.put, Event.took]
      · simp only [taken, Event.put, Event.took]
        rw [queue_taken present (waitForMessage_takes ready).1 threadId]
        by_cases hit : target = threadId <;> simp [hit]
  | @waitForMessage target inbox after msg present ready =>
      simp only [Event.put, Event.took]
      rw [queue_taken present (waitForMessage_takes ready).1 threadId]
      by_cases hit : target = threadId <;> simp [hit]

theorem run_sound {events : List Event} {system : System}
    (run : Run Step System.new events system) : Sound system :=
  run.invariant (fun _ system => Sound system) new_sound
    fun _ _ _ _ _ step sound => step_sound sound step

theorem run_queue {events : List Event} {system : System}
    (run : Run Step System.new events system) (threadId : ThreadId) :
    (puts threadId events).map Prod.snd = takes threadId events ++ queue system.inboxes threadId := by
  refine run.invariant (fun events system => (puts threadId events).map Prod.snd =
    takes threadId events ++ queue system.inboxes threadId) rfl ?_
  intro events system event next run step same
  rw [puts_concat, takes_concat, List.map_append, same, List.append_assoc,
    step_queue (run_sound run) step, List.append_assoc]

theorem run_isSome {events : List Event} {system : System}
    (run : Run Step System.new events system) (threadId : ThreadId) :
    (system.inboxes threadId).isSome = true ↔ Event.getInbox threadId ∈ events := by
  refine run.invariant (fun events system => (system.inboxes threadId).isSome = true ↔
    Event.getInbox threadId ∈ events) (by simp [System.new]) ?_
  intro events system event next _ step same
  rw [step_isSome step threadId, same, List.mem_append, List.mem_singleton, @eq_comm _ event]

end OClock.InboxDelivery
