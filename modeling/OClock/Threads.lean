import OClock.DisplayChanges
import OClock.InboxDelivery
import OClock.MotionSensor

/-!
`main` and the seven threads that it starts. Each follows a program of its own; they meet in
the inboxes and at the lock of the registry, and `main` waits for a thread only to join it.
Every operation on an inbox is one step. What a loop does between two of them is not told
here, only the messages that it may put somewhere; nothing waits for the timer.
-/

namespace OClock.Threads
open InboxRegistry LabelledRun

def terminateMsg : InboxMsg := .ofType .terminate

inductive Event where
  | inbox (event : InboxDelivery.Event)
  | cleared (threadId : ThreadId) (discarded : List InboxMsg)
  | started (threadId : ThreadId)
  | returned (threadId : ThreadId)
  | joined (threadId : ThreadId)
  | ran
  deriving DecidableEq

/-- Where `main` stands; a loop over the threads keeps those that it has not reached. -/
inductive MainAt where
  | creating (rest : List ThreadId)
  | starting (rest : List ThreadId)
  | serving
  | broadcasting (number : Nat)
  | joining (rest : List ThreadId)
  | sending
  | joiningTimerTick
  | joined
  deriving DecidableEq

/-- Where a thread stands. A thread is `looping` at the head of its loop, and `leaving` once
it has left the loop. -/
inductive WorkerAt where
  | absent
  | starting
  | looping
  | working
  | telling (number : Nat)
  | leaving
  | cleared
  | finished
  deriving DecidableEq

/-- The threads that `main` joins before it stops the timer. -/
def others : List ThreadId := threadIds.filter (· ≠ .timerTick)

/-- From the creation of the inboxes to the last join. `pulsar_main` has returned when `main`
leaves `serving`, which it may do at once. -/
inductive MainMove : MainAt → Event → MainAt → Prop
  | create {threadId : ThreadId} {rest : List ThreadId} :
      MainMove (.creating (threadId :: rest)) (.inbox (.getInbox threadId)) (.creating rest)
  | created : MainMove (.creating []) .ran (.starting threadIds)
  | start {threadId : ThreadId} {rest : List ThreadId} :
      MainMove (.starting (threadId :: rest)) (.started threadId) (.starting rest)
  | serve : MainMove (.starting []) .ran .serving
  | lock {number : Nat} :
      MainMove .serving (.inbox (.locked number terminateMsg .timerTick)) (.broadcasting number)
  | unlock {number : Nat} :
      MainMove (.broadcasting number) (.inbox (.unlocked number)) (.joining others)
  | join {threadId : ThreadId} {rest : List ThreadId} :
      MainMove (.joining (threadId :: rest)) (.joined threadId) (.joining rest)
  | getInbox : MainMove (.joining []) (.inbox (.getInbox .timerTick)) .sending
  | send : MainMove .sending (.inbox (.addMessage .timerTick terminateMsg)) .joiningTimerTick
  | joinTimerTick : MainMove .joiningTimerTick (.joined .timerTick) .joined

/-- The loops that sleep in `waitForMessage`, and clear their inbox after the loop. The other
five poll with `getMessage`. -/
def waits : ThreadId → Bool
  | .mqttClient | .dictionary => true
  | _ => false

/-- What the work of a loop may broadcast. -/
def announces : ThreadId → List InboxMsgType
  | .display =>
      [.displayBrightHigh, .displayBrightLow, .displayModeNothing, .displayModeBasicClock,
        .displayModeMessage]
  | .motionSensor => [.motionOn, .motionOff]
  | _ => []

/-- The inboxes that hear of the timer: its services of the kind `TimerTickServiceMessage`. -/
def ticked : List ThreadId := [.mqttClient, .dictionary]

/-- Whether a thread has left its loop. -/
def WorkerAt.outside : WorkerAt → Bool
  | .leaving | .cleared | .finished => true
  | _ => false

def WorkerAt.onMessage (msg : InboxMsg) : WorkerAt :=
  if msg.inboxMsgType = .terminate then .leaving else .working

/-- A thread that `main` has started, up to its return. -/
inductive WorkerMove (threadId : ThreadId) : WorkerAt → Event → WorkerAt → Prop
  | getInbox : WorkerMove threadId .starting (.inbox (.getInbox threadId)) .looping
  -- The client looks its inbox up in its constructor, which another thread may have run.
  | bound (client : threadId = .mqttClient) : WorkerMove threadId .starting .ran .looping
  | nothing (polls : waits threadId = false) :
      WorkerMove threadId .looping (.inbox (.getMessage threadId none)) .working
  | getMessage (polls : waits threadId = false) {msg : InboxMsg} :
      WorkerMove threadId .looping (.inbox (.getMessage threadId (some msg))) (.onMessage msg)
  | waitForMessage (sleeps : waits threadId = true) {msg : InboxMsg} :
      WorkerMove threadId .looping (.inbox (.waitForMessage threadId msg)) (.onMessage msg)
  | lock {msg : InboxMsg} (announced : msg.inboxMsgType ∈ announces threadId) {number : Nat} :
      WorkerMove threadId .working (.inbox (.locked number msg threadId)) (.telling number)
  | unlock {number : Nat} :
      WorkerMove threadId (.telling number) (.inbox (.unlocked number)) .working
  | tick (timer : threadId = .timerTick) {target : ThreadId} (service : target ∈ ticked) :
      WorkerMove threadId .working (.inbox (.addMessage target Inbox.timerTickMessage)) .working
  | again : WorkerMove threadId .working .ran .looping
  | clear (sleeps : waits threadId = true) {discarded : List InboxMsg} :
      WorkerMove threadId .leaving (.cleared threadId discarded) .cleared
  | finish (polls : waits threadId = false) :
      WorkerMove threadId .leaving (.returned threadId) .finished
  | finishCleared : WorkerMove threadId .cleared (.returned threadId) .finished

/-- What an event does to the inboxes. -/
inductive Effect : InboxDelivery.System → Event → InboxDelivery.System → Prop
  | operation {registry after : InboxDelivery.System} {event : InboxDelivery.Event}
      (step : InboxDelivery.Step registry event after) : Effect registry (.inbox event) after
  | clear {registry : InboxDelivery.System} {threadId : ThreadId} {inbox : Inbox}
      (present : registry.inboxes threadId = some inbox) :
      Effect registry (.cleared threadId inbox.msgs)
        { registry with inboxes := registry.inboxes.write threadId inbox.clear }
  | started {registry : InboxDelivery.System} {threadId : ThreadId} :
      Effect registry (.started threadId) registry
  | returned {registry : InboxDelivery.System} {threadId : ThreadId} :
      Effect registry (.returned threadId) registry
  | joined {registry : InboxDelivery.System} {threadId : ThreadId} :
      Effect registry (.joined threadId) registry
  | ran {registry : InboxDelivery.System} : Effect registry .ran registry

structure System where
  registry : InboxDelivery.System
  main : MainAt
  workers : ThreadId → WorkerAt

def System.new : System := ⟨.new, .creating threadIds, fun _ => .absent⟩

def launched (event : Event) (workers : ThreadId → WorkerAt) : ThreadId → WorkerAt :=
  match event with
  | .started threadId => Function.update workers threadId .starting
  | _ => workers

inductive Step : System → Event → System → Prop
  | main {system : System} {event : Event} {main : MainAt} {registry : InboxDelivery.System}
      (move : MainMove system.main event main) (effect : Effect system.registry event registry)
      (finished : ∀ threadId, event = .joined threadId → system.workers threadId = .finished) :
      Step system event ⟨registry, main, launched event system.workers⟩
  | worker {system : System} {event : Event} {registry : InboxDelivery.System}
      (threadId : ThreadId) {workerAt : WorkerAt}
      (move : WorkerMove threadId (system.workers threadId) event workerAt)
      (effect : Effect system.registry event registry) :
      Step system event
        ⟨registry, system.main, Function.update system.workers threadId workerAt⟩
  /-- A turn of the loop of the broadcast that holds the lock, whoever called it. -/
  | visit {system : System} {number : Nat} {msg : InboxMsg} {threadIdFrom threadId : ThreadId}
      {registry : InboxDelivery.System}
      (effect :
        Effect system.registry (.inbox (.visited number msg threadIdFrom threadId)) registry) :
      Step system (.inbox (.visited number msg threadIdFrom threadId))
        { system with registry := registry }
  /-- The first call of `MqttClient::bind`, which any thread may make. -/
  | bind {system : System} {registry : InboxDelivery.System}
      (effect : Effect system.registry (.inbox (.getInbox .mqttClient)) registry) :
      Step system (.inbox (.getInbox .mqttClient)) { system with registry := registry }

/-! What goes into an inbox and what goes out. -/

def Event.put (threadId : ThreadId) : Event → List InboxMsg
  | .inbox event => (event.put threadId).toList.map Prod.snd
  | _ => []

def Event.taken (threadId : ThreadId) : Event → List InboxMsg
  | .inbox event => (event.took threadId).toList
  | _ => []

def Event.discarded (threadId : ThreadId) : Event → List InboxMsg
  | .cleared owner discarded => if owner = threadId then discarded else []
  | _ => []

theorem effect_queue {registry after : InboxDelivery.System} {event : Event}
    (sound : InboxDelivery.Sound registry) (effect : Effect registry event after)
    (threadId : ThreadId) :
    queue registry.inboxes threadId ++ event.put threadId =
      event.taken threadId ++ event.discarded threadId ++ queue after.inboxes threadId := by
  cases effect with
  | operation step =>
      simpa only [Event.put, Event.taken, Event.discarded, List.append_nil] using
        InboxDelivery.step_queue sound step threadId
  | @clear owner inbox present =>
      simp only [Event.put, Event.taken, Event.discarded, List.append_nil, List.nil_append]
      by_cases hit : threadId = owner
      · subst hit
        simp [queue, present, Inbox.clear]
      · simp [queue, write_other _ _ _ hit, Ne.symm hit]
  | _ => exact List.append_nil _

theorem effect_isSome {registry after : InboxDelivery.System} {event : Event}
    (effect : Effect registry event after) (threadId : ThreadId) :
    (after.inboxes threadId).isSome = true ↔
      (registry.inboxes threadId).isSome = true ∨ event = .inbox (.getInbox threadId) := by
  cases effect with
  | operation step =>
      rw [InboxDelivery.step_isSome step threadId, Event.inbox.injEq]
  | clear present => simp [write_isSome present]
  | _ => simp

theorem effect_sound {registry after : InboxDelivery.System} {event : Event}
    (sound : InboxDelivery.Sound registry) (effect : Effect registry event after) :
    InboxDelivery.Sound after := by
  cases effect with
  | operation step => exact InboxDelivery.step_sound sound step
  | @clear owner inbox present =>
      refine ⟨InboxDelivery.write_counted sound.counted owner new_counted, sound.once, ?_,
        sound.newest⟩
      intro call held threadId member
      exact (write_isSome present _ threadId).trans (sound.entries call held threadId member)
  | _ => exact sound

/-- Whether an event concerns the lock of the registry. -/
def Event.locks : Event → Bool
  | .inbox (.locked ..) | .inbox (.visited ..) | .inbox (.unlocked _) => true
  | _ => false

theorem effect_guard {registry after : InboxDelivery.System} {event : Event}
    (effect : Effect registry event after) (quiet : event.locks = false) :
    after.guard = registry.guard := by
  cases effect with
  | operation step => cases step <;> first | rfl | cases quiet
  | _ => rfl

/-! What the two loops broadcast, they announce. -/

theorem change_announced (inboxes : Inboxes) (change : DisplayInternal.Change) :
    ∃ msg : InboxMsg, msg.inboxMsgType ∈ announces .display ∧
      DisplayChanges.announce inboxes change = broadcast inboxes msg .display := by
  refine ⟨_, ?_, rfl⟩
  cases change with
  | entered displayMode => cases displayMode <;> decide
  | dimmed roomIsDark => cases roomIsDark <;> decide

theorem motion_announced (motionInfo : StatusReport.MotionInfo) (inboxes : Inboxes) :
    ∃ msg : InboxMsg, msg.inboxMsgType ∈ announces .motionSensor ∧
      MotionSensor.notifyMotionSensorChange motionInfo inboxes =
        broadcast inboxes msg .motionSensor := by
  refine ⟨_, ?_, rfl⟩
  cases moved : motionInfo.currMotionDetected <;> simp [announces]

end OClock.Threads
