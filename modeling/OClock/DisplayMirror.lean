import OClock.DisplayChanges
import OClock.LabelledRun
import OClock.MessageMirror
import OClock.MqttLoop

/-!
The display thread and the MQTT loop under any schedule, with the motion sensor, the timer
thread and the requests around them. A pass of the display thread holds the lock of the
display, through which alone other threads see its mode and its brightness: the calls of the
pass are steps, and the messages they broadcast may be handled between them. A turn of the
loop, from the message it takes to what it publishes, is a step.
-/

namespace OClock.DisplayMirror
open Text InboxRegistry StatusReport TimerTable MotionSensor MqttLoop
open DisplayInternal DisplayChanges LabelledRun MessageMirror

structure World where
  motionInfo : MotionInfo
  client : MqttClient
  shared : Shared
  display : Display
  /-- `internal` has been constructed. -/
  booted : Bool
  displayTodos : List DisplayTodo

/-- Every inbox is there and empty. The display thread has yet to construct its display. -/
def World.start (client : MqttClient) (timerTick : TimerTick) (expired : ServiceRef → Bool) :
    World where
  motionInfo := cleared
  client := client
  shared := ⟨createInboxes, timerTick, expired⟩
  display := .static
  booted := false
  displayTodos := []

def World.scene (world : World) : Scene := ⟨world.display, world.shared.inboxes, []⟩

def World.withInboxes (world : World) (inboxes : Inboxes) : World :=
  { world with shared := { world.shared with inboxes := inboxes } }

/-- A call of the display thread is done. -/
def World.leave (world : World) (scene : Scene) : World :=
  { world.withInboxes scene.inboxes with display := scene.display }

inductive Event where
  | display (changes : List Change)
  | handled (calls : List MqttLoop.Call)
  | other

inductive Step : World → Event → World → Prop
  | construct (world : World) (cold : world.booted = false) :
      Step world (.display (initDisplay world.scene).changes)
        { world.leave (initDisplay world.scene) with booted := true }
  | enqueueDisplayTodo (world : World) (displayTodo : DisplayTodo) :
      Step world .other { world with displayTodos := world.displayTodos ++ [displayTodo] }
  | checkTodoList (world : World) {displayTodo : DisplayTodo} {rest : List DisplayTodo}
      {surroundings : Surroundings} (booted : world.booted = true)
      (front : world.displayTodos = displayTodo :: rest)
      (motion : surroundings.motionInfo = world.motionInfo) :
      Step world (.display (handleTodo surroundings world.scene displayTodo).changes)
        { world.leave (handleTodo surroundings world.scene displayTodo) with displayTodos := rest }
  | displayTick (world : World) (cadence : Cadence) {surroundings : Surroundings}
      (booted : world.booted = true) (motion : surroundings.motionInfo = world.motionInfo) :
      Step world (.display (displayTick cadence surroundings world.scene).changes)
        (world.leave (displayTick cadence surroundings world.scene))
  /-- The end of `displayTick1sec`. -/
  | updateDim (world : World) {surroundings : Surroundings} (booted : world.booted = true)
      (motion : surroundings.motionInfo = world.motionInfo) :
      Step world (.display (updateDim surroundings world.scene).changes)
        (world.leave (updateDim surroundings world.scene))
  /-- Another thread looks into its own inbox. -/
  | getMessage (world : World) {threadId : ThreadId} {inbox : Inbox}
      (own : threadId ≠ .mqttClient) (present : world.shared.inboxes threadId = some inbox) :
      Step world .other
        (world.withInboxes (world.shared.inboxes.write threadId inbox.getMessage.2))
  | checkMotionSensor (world : World) (currMotionDetected : Bool) :
      Step world .other
        { world.withInboxes
            (checkMotionSensor world.motionInfo world.shared.inboxes currMotionDetected).2.2 with
          motionInfo :=
            (checkMotionSensor world.motionInfo world.shared.inboxes currMotionDetected).2.1 }
  | timerTick (world : World) (order : List TimerTickId) :
      Step world .other
        { world with shared :=
            timerTickPass world.client.readyForTimerTickServiceMessage world.shared order }
  | timerCall (world : World) (call : TimerSchedule.Call) :
      Step world .other
        { world with shared := { world.shared with
            timerTick := (TimerSchedule.step world.shared.timerTick call).2 } }
  | handle (world : World) {answers : Answers} {msg : InboxMsg} {turn : Turn}
      (runs : loopTurn answers world.client world.shared = some (msg, turn)) :
      Step world (.handled turn.calls)
        { world with client := turn.client, shared := turn.shared }

/-! ### What a history says -/

def Event.changes : Event → List Change
  | .display changes => changes
  | .handled _ | .other => []

def Event.calls : Event → List MqttLoop.Call
  | .handled calls => calls
  | .display _ | .other => []

def changes (events : List Event) : List Change := events.flatMap Event.changes

/-- The modes entered since boot. -/
def entered (events : List Event) : List DisplayMode := (changes events).filterMap modeOf

/-- The changes of the brightness since boot. -/
def dims (events : List Event) : List Bool := (changes events).filterMap darkOf

/-- What the loop handed to `doPublish` on a topic. -/
def published (topic : Bytes) (events : List Event) : List Bytes :=
  payloadsOn topic (events.flatMap Event.calls)

def modePayload : DisplayMode → Bytes
  | .nothing => bytes "screen_saver"
  | .basicClock => bytes "clock"
  | .message => bytes "message"

def dimPayload (roomIsDark : Bool) : Bytes := if roomIsDark then bytes "low" else bytes "high"

/-- The display has no mode until it is constructed. -/
def currentMode (world : World) : Option DisplayMode :=
  if world.booted then some (getDisplayMode world.display) else none

def pending (world : World) : List InboxMsg := queue world.shared.inboxes .mqttClient

/-! ### What a step adds -/

def readOn (topic : Bytes) (msg : InboxMsg) : Option Bytes := payloadFor topic msg.inboxMsgType

/-- The changes as they are published on a topic. -/
def payloadsOf (topic : Bytes) (changes : List Change) : List Bytes :=
  changes.filterMap fun change => payloadFor topic (inboxMsgTypeOf change)

theorem mode_payloads (changes : List Change) :
    payloadsOf topicDisplayMode changes = (changes.filterMap modeOf).map modePayload := by
  rw [payloadsOf, List.map_filterMap]
  congr 1
  funext change
  rcases change with (_ | _ | _) | (_ | _) <;> rfl

theorem dim_payloads (changes : List Change) :
    payloadsOf topicDisplayIntensity changes = (changes.filterMap darkOf).map dimPayload := by
  rw [payloadsOf, List.map_filterMap]
  congr 1
  funext change
  rcases change with (_ | _ | _) | (_ | _) <;> rfl

theorem mode_unread {inboxMsgType : InboxMsgType} (other : inboxMsgType ∉
    [.displayModeNothing, .displayModeBasicClock, .displayModeMessage]) :
    payloadFor topicDisplayMode inboxMsgType = none := by
  cases inboxMsgType <;> first | rfl | exact absurd (by decide) other

theorem dim_unread {inboxMsgType : InboxMsgType}
    (other : inboxMsgType ∉ [.displayBrightHigh, .displayBrightLow]) :
    payloadFor topicDisplayIntensity inboxMsgType = none := by
  cases inboxMsgType <;> first | rfl | exact absurd (by decide) other

/-- The messages of the changes, in order, behind what waits in the inbox of the loop. -/
theorem told_queue (changes : List Change) {inboxes : Inboxes}
    (present : (inboxes .mqttClient).isSome = true) :
    queue (changes.foldl announce inboxes) .mqttClient =
        queue inboxes .mqttClient ++
          changes.map (fun change => .ofType (inboxMsgTypeOf change)) ∧
      (changes.foldl announce inboxes .mqttClient).isSome = true := by
  induction changes generalizing inboxes with
  | nil => exact ⟨(List.append_nil _).symm, present⟩
  | cons change rest ih =>
      have kept : (announce inboxes change .mqttClient).isSome = true := by
        rw [announce, broadcast_isSome]
        exact present
      obtain ⟨queued, stays⟩ := ih kept
      refine ⟨?_, stays⟩
      rw [List.foldl_cons, queued, announce, queue_broadcast present, if_neg (by decide),
        List.append_assoc]
      rfl

theorem told_payloads (topic : Bytes) (changes : List Change) :
    (changes.map fun change => InboxMsg.ofType (inboxMsgTypeOf change)).filterMap (readOn topic) =
      payloadsOf topic changes := List.filterMap_map

/-- The loop is behind the display by what waits in its inbox, and the changes so far give the
mode and the brightness. -/
structure Mirrored (events : List Event) (world : World) : Prop where
  present : (world.shared.inboxes .mqttClient).isSome = true
  mirrors : ∀ topic, topic = topicDisplayMode ∨ topic = topicDisplayIntensity →
    Mirrors (readOn topic) (published topic events) (pending world)
      (payloadsOf topic (changes events))
  mode : currentMode world = (entered events).getLast?
  first : (entered events).head? = if world.booted then some .message else none
  dark : world.display.roomIsDark = latest darkOf (changes events) false

@[simp] theorem changes_concat (events : List Event) (event : Event) :
    changes (events ++ [event]) = changes events ++ event.changes := by
  simp [changes]

@[simp] theorem published_concat (topic : Bytes) (events : List Event) (event : Event) :
    published topic (events ++ [event]) =
      published topic events ++ payloadsOn topic event.calls := by
  simp [published]

/-- Nothing of the display moves, and what is put into the inbox does not concern it. -/
theorem mirrored_other {events : List Event} {world next : World} (held : Mirrored events world)
    (booted : next.booted = world.booted) (display : next.display = world.display)
    (present : (next.shared.inboxes .mqttClient).isSome = true) {msgs : List InboxMsg}
    (queued : pending next = pending world ++ msgs)
    (silent : ∀ msg ∈ msgs, displayPublication msg.inboxMsgType = none) :
    Mirrored (events ++ [.other]) next := by
  have unread : ∀ topic, msgs.filterMap (readOn topic) = [] := by
    intro topic
    apply List.filterMap_eq_nil_iff.mpr
    intro msg there
    rw [readOn, payloadFor, silent msg there]
    rfl
  have same : changes (events ++ [.other]) = changes events := by
    rw [changes_concat]
    exact List.append_nil _
  refine ⟨present, ?_, ?_, ?_, ?_⟩
  · intro topic ours
    have put := (held.mirrors topic ours).put msgs
    rw [unread, List.append_nil] at put
    rw [published_concat, queued, same]
    exact (List.append_nil (published topic events)).symm ▸ put
  · rw [currentMode, booted, display, entered, same]
    exact held.mode
  · rw [entered, same, booted]
    exact held.first
  · rw [display, same]
    exact held.dark

theorem entered_display (events : List Event) (news : List Change) :
    entered (events ++ [.display news]) = entered events ++ news.filterMap modeOf := by
  rw [entered, changes_concat, List.filterMap_append]
  rfl

/-- A call of the display thread, after which the mode is the last one entered. -/
theorem mirrored_call {events : List Event} {world next : World} (held : Mirrored events world)
    {scene : Scene} (tells : Tells world.scene scene)
    (left : next.display = scene.display ∧ next.shared.inboxes = scene.inboxes ∧
      next.booted = true)
    (mode : some (getDisplayMode scene.display) =
      (entered (events ++ [.display scene.changes])).getLast?)
    (first : (entered (events ++ [.display scene.changes])).head? = some .message) :
    Mirrored (events ++ [.display scene.changes]) next := by
  obtain ⟨news, log, told, _, dark⟩ := tells
  obtain ⟨display, inboxes, booted⟩ := left
  obtain ⟨queued, present⟩ := told_queue news held.present
  have logged : scene.changes = news := log
  have more : changes (events ++ [.display scene.changes]) = changes events ++ news := by
    rw [changes_concat, logged]
    rfl
  -- Every assignment of the mode or the dimming comes with one message of its kind.
  have put_there : pending next = pending world ++
      news.map (fun change => .ofType (inboxMsgTypeOf change)) := by
    rw [pending, inboxes, told]
    exact queued
  refine ⟨?_, ?_, ?_, ?_, ?_⟩
  · rw [inboxes, told]
    exact present
  · intro topic ours
    have put := (held.mirrors topic ours).put
      (news.map fun change => .ofType (inboxMsgTypeOf change))
    rw [told_payloads, ← put_there] at put
    rw [published_concat, more, payloadsOf, List.filterMap_append]
    exact (List.append_nil (published topic events)).symm ▸ put
  · rw [currentMode, booted, if_pos rfl, display]
    exact mode
  · rw [booted, if_pos rfl]
    exact first
  · rw [display, dark, more, latest_append, ← held.dark]
    rfl

theorem mirrored_display {events : List Event} {world next : World} (held : Mirrored events world)
    {scene : Scene} (tells : Tells world.scene scene) (booted : world.booted = true)
    (left : next.display = scene.display ∧ next.shared.inboxes = scene.inboxes ∧
      next.booted = true) :
    Mirrored (events ++ [.display scene.changes]) next := by
  obtain ⟨news, log, _, mode, _⟩ := id tells
  have logged : scene.changes = news := log
  have before : some (getDisplayMode world.display) = (entered events).getLast? := by
    rw [← held.mode, currentMode, if_pos booted]
  apply mirrored_call held tells left
  · rw [logged, entered_display, List.getLast?_append, ← before, mode, latest]
    cases (news.filterMap modeOf).getLast? <;> rfl
  · have earlier := held.first
    rw [if_pos booted] at earlier
    rw [entered_display, List.head?_append, earlier]
    rfl

theorem mirrored_construct {events : List Event} {world : World} (held : Mirrored events world)
    (cold : world.booted = false) :
    Mirrored (events ++ [.display (initDisplay world.scene).changes])
      { world.leave (initDisplay world.scene) with booted := true } := by
  obtain ⟨log, _, mode, _⟩ := changeDisplayMode_enters .message none _
  -- Before the construction no mode was entered, so the boot message is the first.
  have none_yet : entered events = [] := by
    have last := held.mode
    rw [currentMode, cold] at last
    exact List.getLast?_eq_none_iff.mp last.symm
  have boot : entered (events ++ [.display (initDisplay world.scene).changes]) = [.message] := by
    rw [entered_display, none_yet]
    exact congrArg (List.filterMap modeOf) log
  apply mirrored_call held (initDisplay_tells world.scene) ⟨rfl, rfl, rfl⟩
  · rw [boot]
    exact congrArg some mode
  · rw [boot]
    rfl

/-- A turn of the loop publishes what it took. -/
theorem mirrored_turn {events : List Event} {world : World} (held : Mirrored events world)
    {answers : Answers} {msg : InboxMsg} {turn : Turn}
    (runs : loopTurn answers world.client world.shared = some (msg, turn)) :
    Mirrored (events ++ [.handled turn.calls])
      { world with client := turn.client, shared := turn.shared } := by
  obtain ⟨after, handled, handles, rfl, taken, present⟩ := loopTurn_cases runs
  have inboxes : handled.ready.shared.inboxes = after := handle_inboxes handles
  have same : changes (events ++ [.handled handled.ready.calls]) = changes events := by
    rw [changes_concat]
    exact List.append_nil _
  refine ⟨?_, ?_, ?_, ?_, ?_⟩
  · rw [inboxes]
    exact present
  · intro topic ours
    have pended : pending world = msg :: queue after .mqttClient := taken
    have mirrors := held.mirrors topic ours
    rw [pended] at mirrors
    have read := handle_payloads ours handles
    rw [published_concat, pending, inboxes, same]
    rw [show payloadsOn topic (Event.handled handled.ready.calls).calls =
      (readOn topic msg).toList from read]
    exact mirrors.take
  · rw [entered, same]
    exact held.mode
  · rw [entered, same]
    exact held.first
  · rw [same]
    exact held.dark

theorem mirrored_start (client : MqttClient) (timerTick : TimerTick)
    (expired : ServiceRef → Bool) : Mirrored [] (.start client timerTick expired) where
  present := rfl
  mirrors _ _ := rfl
  mode := rfl
  first := rfl
  dark := rfl

theorem mirrored_getMessage {events : List Event} {world : World} (held : Mirrored events world)
    {threadId : ThreadId} (own : threadId ≠ .mqttClient) (inbox : Inbox) :
    Mirrored (events ++ [.other])
      (world.withInboxes (world.shared.inboxes.write threadId inbox)) := by
  have apart : world.shared.inboxes.write threadId inbox .mqttClient =
      world.shared.inboxes .mqttClient := write_other _ _ _ own.symm
  have queued : pending (world.withInboxes (world.shared.inboxes.write threadId inbox)) =
      pending world ++ [] := by
    rw [List.append_nil]
    exact congrArg (fun held : Option Inbox => (held.map Inbox.msgs).getD []) apart
  have present := (congrArg Option.isSome apart).trans held.present
  exact mirrored_other held rfl rfl present queued (List.forall_mem_nil _)

/-- The sensor broadcasts what the display topics do not hear. -/
theorem mirrored_sensor {events : List Event} {world : World} (held : Mirrored events world)
    (reading : Bool) :
    Mirrored (events ++ [.other])
      { world.withInboxes (checkMotionSensor world.motionInfo world.shared.inboxes reading).2.2 with
        motionInfo := (checkMotionSensor world.motionInfo world.shared.inboxes reading).2.1 } := by
  by_cases same : world.motionInfo.currMotionDetected = reading
  · have quiet : (checkMotionSensor world.motionInfo world.shared.inboxes reading).2.2 =
        world.shared.inboxes := by simp only [checkMotionSensor, if_pos same]
    rw [quiet]
    exact mirrored_other held rfl rfl held.present (List.append_nil _).symm (List.forall_mem_nil _)
  · have told : (checkMotionSensor world.motionInfo world.shared.inboxes reading).2.2 =
        notifyMotionSensorChange { world.motionInfo with currMotionDetected := reading }
          world.shared.inboxes := by simp only [checkMotionSensor, if_neg same]
    rw [told]
    refine mirrored_other held rfl rfl ?_ (queue_broadcast held.present _ _) ?_
    · exact (broadcast_isSome _ _ _ _).trans held.present
    · intro msg there
      cases reading <;> (cases List.mem_singleton.mp there; rfl)

theorem mirrored_step {events : List Event} {world next : World} {event : Event}
    (moves : Step world event next) (held : Mirrored events world) :
    Mirrored (events ++ [event]) next := by
  cases moves with
  | construct cold => exact mirrored_construct held cold
  | enqueueDisplayTodo displayTodo =>
      exact mirrored_other held rfl rfl held.present (List.append_nil _).symm (List.forall_mem_nil _)
  | checkTodoList booted front motion =>
      exact mirrored_display held (handleTodo_tells _ _ _) booted ⟨rfl, rfl, booted⟩
  | displayTick cadence booted motion =>
      exact mirrored_display held (displayTick_tells _ _ _) booted ⟨rfl, rfl, booted⟩
  | updateDim booted motion =>
      exact mirrored_display held (updateDim_tells _ _) booted ⟨rfl, rfl, booted⟩
  | getMessage own present => exact mirrored_getMessage held own _
  | checkMotionSensor currMotionDetected => exact mirrored_sensor held currMotionDetected
  | timerTick order =>
      obtain ⟨k, queued, present⟩ := timerTickPass_queue
        world.client.readyForTimerTickServiceMessage world.shared order held.present
      refine mirrored_other held rfl rfl present queued ?_
      intro msg there
      rw [List.eq_of_mem_replicate there]
      rfl
  | timerCall call =>
      exact mirrored_other held rfl rfl held.present (List.append_nil _).symm (List.forall_mem_nil _)
  | handle runs => exact mirrored_turn held runs

theorem mirrored {client : MqttClient} {timerTick : TimerTick} {expired : ServiceRef → Bool}
    {events : List Event} {world : World}
    (run : Run Step (.start client timerTick expired) events world) : Mirrored events world :=
  run.invariant Mirrored (mirrored_start client timerTick expired)
    fun _ _ _ _ _ moves held => mirrored_step moves held

/-- In every run the loop has published, on each topic of the display, the first of the modes
entered and of the changes of the brightness; boot entered the first mode. While no message
of the display waits in its inbox, its last word on each topic is the present state. -/
theorem display_mirror {client : MqttClient} {timerTick : TimerTick}
    {expired : ServiceRef → Bool} {events : List Event} {world : World}
    (run : Run Step (.start client timerTick expired) events world) :
    published topicDisplayMode events <+: (entered events).map modePayload ∧
    published topicDisplayIntensity events <+: (dims events).map dimPayload ∧
    (entered events).head? = (if world.booted then some .message else none) ∧
    ((∀ msg ∈ pending world, msg.inboxMsgType ∉
        [.displayModeNothing, .displayModeBasicClock, .displayModeMessage]) →
      (published topicDisplayMode events).getLast? = (currentMode world).map modePayload) ∧
    ((∀ msg ∈ pending world, msg.inboxMsgType ∉ [.displayBrightHigh, .displayBrightLow]) →
      ((published topicDisplayIntensity events).getLast?).getD (bytes "high") =
        dimPayload world.display.roomIsDark) := by
  have held := mirrored run
  have modes := held.mirrors topicDisplayMode (Or.inl rfl)
  have brightness := held.mirrors topicDisplayIntensity (Or.inr rfl)
  rw [mode_payloads] at modes
  rw [dim_payloads] at brightness
  refine ⟨modes.behind, brightness.behind, held.first, ?_, ?_⟩
  · intro quiet
    have all : published topicDisplayMode events = (entered events).map modePayload :=
      modes.caught_up fun msg there => mode_unread (quiet msg there)
    rw [all, List.getLast?_map, held.mode]
  · intro quiet
    have all : published topicDisplayIntensity events = (dims events).map dimPayload :=
      brightness.caught_up fun msg there => dim_unread (quiet msg there)
    rw [all, List.getLast?_map, held.dark, latest, dims]
    cases ((changes events).filterMap darkOf).getLast? <;> rfl

/-- A dark and quiet room. -/
def night : Surroundings := ⟨cleared, 0, fun _ => [], fun _ => 0⟩

/-- Boot and the first call of `updateDim`, before the loop has handled anything. -/
def bootedAtNight : World :=
  let booted : World := World.start ⟨default, false, true⟩ (TimerSchedule.boot fun _ => none)
    fun _ => false
  let shown : World := { booted.leave (initDisplay booted.scene) with booted := true }
  shown.leave (updateDim night shown.scene)

theorem display_mirror_sample : ∃ events world,
    Run Step (.start ⟨default, false, true⟩ (TimerSchedule.boot fun _ => none) fun _ => false)
      events world ∧
    (published topicDisplayMode events).getLast? = some (bytes "message") ∧
    ((published topicDisplayIntensity events).getLast?).getD (bytes "high") = bytes "low" := by
  have shown : Run Step _ _ bootedAtNight :=
    (Run.one (.construct _ rfl)).step (@Step.updateDim _ night rfl rfl)
  have queued : queue bootedAtNight.shared.inboxes .mqttClient =
      [.ofType .displayModeMessage, .ofType .displayBrightLow] := rfl
  obtain ⟨first, runs, left⟩ := @loopTurn_runs bootedAtNight.client _ _ _ queued nofun
  obtain ⟨second, runsAgain, empty⟩ := @loopTurn_runs first.client _ _ _ left nofun
  have run := (shown.step (.handle _ runs)).step (.handle _ runsAgain)
  obtain ⟨_, _, _, mode, dark⟩ := display_mirror run
  have quiet : ∀ types : List InboxMsgType, ∀ msg ∈ queue second.shared.inboxes .mqttClient,
      msg.inboxMsgType ∉ types := by
    rw [empty]
    exact fun _ => List.forall_mem_nil _
  exact ⟨_, _, run, mode (quiet _), dark (quiet _)⟩

end OClock.DisplayMirror
