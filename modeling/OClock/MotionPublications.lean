import OClock.DampedMirror
import OClock.MotionSensor
import OClock.MqttLoop

/-!
The motion sensor, the timer thread and the MQTT loop under any schedule, among other
threads that broadcast messages of their own and use services of their own.
-/

namespace OClock.MotionPublications
open Text InboxRegistry StatusReport TimerTable TimerSchedule MotionSensor MqttLoop
open LabelledRun DampedMirror

structure World where
  motionInfo : MotionInfo
  client : MqttClient
  shared : Shared

/-- The table with the services of the loop registered as `runThreadLoop` does. -/
def registeredTable (others : ServiceRef → Option (Int × Bool)) : TimerTick :=
  (Machine.run TimerSchedule.step (boot (objects others))
    [.register timerTickServiceMqttLoop true, .register timerTickPeriodicReport true,
      .register timerTickReconnectDamper true, .register timerTickMotionDamper false]).2

def construct (mqttBrokerPort mqttKeepAlive : Int32) : MqttClientInfo where
  mqttBrokerPort := mqttBrokerPort
  mqttKeepAlive := mqttKeepAlive
  mqttBrokerConnected := false
  lastLoopRc := 0
  connectAttempts := 0
  connects := 0
  disconnects := 0
  publishes := 0
  publishedMotions := 0
  publishesDropped := 0
  publishCallbacks := 0
  messages := 0
  ticks := 0

/-- Every inbox is there and empty, and the loop waits for its first message. Both dampers
are constructed expired. -/
def World.start (others : ServiceRef → Option (Int × Bool))
    (mqttBrokerPort mqttKeepAlive : Int32) : World where
  motionInfo := cleared
  client := ⟨construct mqttBrokerPort mqttKeepAlive, false, true⟩
  shared := ⟨createInboxes, registeredTable others,
    fun ref => ref == timerTickReconnectDamper || ref == timerTickMotionDamper⟩

inductive Event where
  | checked (currMotionDetected : Bool)
  | tick
  | timerCall (call : TimerSchedule.Call)
  | broadcast (msg : InboxMsg) (threadIdFrom : ThreadId)
  | handled (msg : InboxMsg) (calls : List MqttLoop.Call)

inductive Step : World → Event → World → Prop
  | checkMotionSensor (world : World) (currMotionDetected : Bool) :
      Step world (.checked currMotionDetected)
        { world with
          motionInfo :=
            (checkMotionSensor world.motionInfo world.shared.inboxes currMotionDetected).2.1
          shared := { world.shared with inboxes :=
            (checkMotionSensor world.motionInfo world.shared.inboxes currMotionDetected).2.2 } }
  | tick (world : World) {order : List TimerTickId}
      (iterates : TimerTable.Iterates world.shared.timerTick order) :
      Step world .tick
        { world with shared :=
            timerTickPass world.client.readyForTimerTickServiceMessage world.shared order }
  /-- Another thread registers, starts or unregisters a service that is not the loop's. -/
  | timerCall (world : World) {call : TimerSchedule.Call}
      (theirs : ∀ ref ≤ timerTickMotionDamper, ownEvent ref world.shared.timerTick call = none) :
      Step world (.timerCall call)
        { world with shared := { world.shared with
            timerTick := (TimerSchedule.step world.shared.timerTick call).2 } }
  /-- Only the sensor tells of motions, and no thread is told to end. -/
  | broadcast (world : World) {msg : InboxMsg} (threadIdFrom : ThreadId)
      (other : msg.inboxMsgType ∉ [.motionOn, .motionOff, .terminate]) :
      Step world (.broadcast msg threadIdFrom)
        { world with shared := { world.shared with
            inboxes := InboxRegistry.broadcast world.shared.inboxes msg threadIdFrom } }
  | handle (world : World) {answers : Answers} {msg : InboxMsg} {turn : Turn}
      (runs : loopTurn answers world.client world.shared = some (msg, turn)) :
      Step world (.handled msg turn.calls)
        { world with client := turn.client, shared := turn.shared }

/-- What an event publishes on the topic of the motions. -/
def Event.motions : Event → List Bytes
  | .handled _ calls => payloadsOn topicMotion calls
  | _ => []

def motions (events : List Event) : List Bytes := events.flatMap Event.motions

/-- The number of ticks so far, and the ticks at which a motion was published. -/
def stamp (clock : Nat × List Nat) : Event → Nat × List Nat
  | .tick => (clock.1 + 1, clock.2)
  | event => (clock.1, clock.2 ++
      (event.motions.filter (· == bytes "on")).map fun _ => clock.1)

def motionTimes (events : List Event) : List Nat := (events.foldl stamp (0, [])).2

/-- Whether a message tells of a motion, and of which. -/
def motionOf (msg : InboxMsg) : Option Bool :=
  match msg.inboxMsgType with
  | .motionOn => some true
  | .motionOff => some false
  | _ => none

def pendingMotions (world : World) : List Bool :=
  (queue world.shared.inboxes .mqttClient).filterMap motionOf

/-! A turn of the loop, seen from the topic of the motions. -/

/-- A turn that has nothing to do with motions. -/
structure Quiet (before after : Turn) : Prop where
  calls : payloadsOn topicMotion after.calls = payloadsOn topicMotion before.calls
  flag : after.client.publishedMotionOn = before.client.publishedMotionOn
  count : after.client.mqttClientInfo.publishedMotions =
    before.client.mqttClientInfo.publishedMotions
  table : after.shared.timerTick = before.shared.timerTick
  damper : after.shared.expired timerTickMotionDamper = before.shared.expired timerTickMotionDamper

theorem callbacks_motions (callbacks : List Callback) (info : MqttClientInfo) :
    (callbacks.foldl Callback.run info).publishedMotions = info.publishedMotions := by
  induction callbacks generalizing info with
  | nil => rfl
  | cons callback rest ih =>
      rw [List.foldl_cons, ih]
      cases callback <;> rfl

theorem doPublish_quiet {before turn : Turn} (quiet : Quiet before turn) (answers : Answers)
    {topic : Bytes} (other : topic ≠ topicMotion) (payload : Bytes) (retain : Bool) :
    Quiet before (doPublish answers turn topic payload retain) where
  calls := by rw [doPublish_payloads, if_neg other, List.append_nil, quiet.calls]
  flag := quiet.flag
  count := quiet.count
  table := quiet.table
  damper := quiet.damper

theorem handle_quiet {answers : Answers} {turn next : Turn} {inboxMsgType : InboxMsgType}
    (other : inboxMsgType ∉ [.motionOn, .motionOff])
    (handled : handle answers turn inboxMsgType = some next) : Quiet turn next := by
  have same : Quiet turn turn := ⟨rfl, rfl, rfl, rfl, rfl⟩
  cases inboxMsgType <;> cases handled
  case timerTickMessage =>
    refine handleTimerTickMessage_keeps answers (Quiet turn) ?_ ?_ ?_ ?_ ?_ same
    · intro next quiet
      refine ⟨?_, quiet.flag, ?_, quiet.table, quiet.damper⟩
      · rw [← quiet.calls, mosquittoLoop, payloadsOn_append]
        exact List.append_nil _
      · rw [← quiet.count, mosquittoLoop]
        exact callbacks_motions answers.callbacks next.client.mqttClientInfo
    · intro next quiet
      refine ⟨?_, quiet.flag, quiet.count, quiet.table, quiet.damper⟩
      rw [← quiet.calls, mosquittoConnect, payloadsOn_append]
      exact List.append_nil _
    · intro next ref flag quiet
      refine ⟨quiet.calls, quiet.flag, quiet.count, quiet.table, ?_⟩
      rw [← quiet.damper]
      exact Function.update_of_ne (by rcases flag with rfl | rfl <;> decide) ..
    · rintro next topic payload (rfl | rfl) quiet
      · exact doPublish_quiet quiet answers (by decide) payload false
      · exact doPublish_quiet quiet answers (by decide) payload false
    · exact fun next rc quiet => ⟨quiet.calls, quiet.flag, quiet.count, quiet.table, quiet.damper⟩
  case motionOn => exact absurd (by decide) other
  case motionOff => exact absurd (by decide) other
  case noop => exact same
  all_goals exact doPublish_quiet same answers (by decide) _ true

/-! The damper in the timer table. -/

theorem damper_tick {timerTick : TimerTick} (valid : WellFormed timerTick)
    {order : List TimerTickId} (iterates : TimerTable.Iterates timerTick order) {ref : ServiceRef}
    {interval : Int} {registered : Bool} {left : Nat}
    (holds : Holds timerTick ref interval false ⟨registered, left⟩) :
    Holds (TimerTable.tick timerTick order).2 ref interval false ⟨registered, left - 1⟩ ∧
      (ref ∈ (TimerTable.tick timerTick order).1 ↔ left = 1) := by
  obtain ⟨later, fires⟩ := holds_tick valid iterates holds
  rw [Countdown.one_shot_tick] at later
  refine ⟨later, ?_⟩
  rw [← List.count_pos_iff, fires]
  split <;> simp_all

theorem holds_start {shared : Shared} (valid : WellFormed shared.timerTick) {ref : ServiceRef}
    {interval : Int} {periodic : Bool} {left : Nat}
    (holds : Holds shared.timerTick ref interval periodic ⟨true, left⟩) :
    Holds (startTimerTickService shared.timerTick (cookieOf shared ref)).2 ref interval periodic
      ⟨true, ticksFor interval⟩ := by
  obtain ⟨service, held, _, _, state⟩ := id holds
  have registered : service.cookie ≠ nullCookie :=
    (registered_iff service).mp (congrArg Own.registered state)
  have cookie : cookieOf shared ref = service.cookie := by simp [cookieOf, held]
  have reached : ownEvent ref shared.timerTick (.start (cookieOf shared ref)) = some .start := by
    rw [ownEvent, cookie, valid.carried ref service held registered, if_pos rfl]
  have started := (own_step valid (.start (cookieOf shared ref))
    (fun _ same => by cases same) holds).2
  rw [reached] at started
  exact started

/-- The damper is registered without being started. -/
theorem registered_damper (others : ServiceRef → Option (Int × Bool)) :
    WellFormed (registeredTable others) ∧ Holds (registeredTable others) timerTickMotionDamper
      motionDamperInterval false ⟨true, 0⟩ :=
  registrations_register (boot_wellformed (objects others))
    [(timerTickServiceMqttLoop, true), (timerTickPeriodicReport, true),
      (timerTickReconnectDamper, true), (timerTickMotionDamper, false)] (by decide)
    (show (timerTickMotionDamper, false) ∈ _ by simp) (boot_holds (objects others) rfl)

/-! The world seen as a mirror of the sensor. -/

/-- What a run of the mirror tells of a world. -/
structure Shows (world : World) (mirror : Mirror) : Prop where
  here : (world.shared.inboxes .mqttClient).isSome = true
  current : world.motionInfo.currMotionDetected = mirror.current
  pending : pendingMotions world = mirror.pending
  shown : world.client.publishedMotionOn = mirror.shown
  armed : world.shared.expired timerTickMotionDamper = mirror.armed
  table : WellFormed world.shared.timerTick
  damper : Holds world.shared.timerTick timerTickMotionDamper motionDamperInterval false
    ⟨true, mirror.left⟩

/-- What an event is to the mirror. -/
def Event.label : Event → Label
  | .tick => .tick
  | event =>
      match event.motions with
      | [] => .silent
      | payload :: _ => .told (payload == bytes "on")

def dampedTicks : Nat := 50001

theorem dampedTicks_eq : ticksFor motionDamperInterval = dampedTicks := by decide

theorem start_shows (others : ServiceRef → Option (Int × Bool)) (port keepAlive : Int32) :
    Shows (World.start others port keepAlive) Mirror.start := by
  have empty : createInboxes .mqttClient = some .new := created_inboxes nofun
  obtain ⟨table, damper⟩ := registered_damper others
  constructor <;> dsimp only [World.start, Mirror.start]
  · rw [empty]
    rfl
  · rfl
  · rw [pendingMotions]
    dsimp only
    rw [queue_of_some empty]
    rfl
  · decide
  · exact table
  · exact damper

/-- What the other threads send is no motion. -/
theorem queued_others {world : World} {msgs : List InboxMsg} {inboxes : Inboxes}
    (quiet : msgs.filterMap motionOf = [])
    (queued : queue inboxes .mqttClient = queue world.shared.inboxes .mqttClient ++ msgs) :
    (queue inboxes .mqttClient).filterMap motionOf = pendingMotions world := by
  rw [queued, List.filterMap_append, quiet, List.append_nil]
  rfl

theorem motionOf_other {msg : InboxMsg}
    (other : msg.inboxMsgType ∉ [.motionOn, .motionOff]) : motionOf msg = none := by
  unfold motionOf
  split
  · next same => simp [same] at other
  · next same => simp [same] at other
  · rfl

theorem check_changes {world : World} {mirror : Mirror} (shows : Shows world mirror)
    {reading : Bool} (changed : reading = !mirror.current) :
    let checked := checkMotionSensor world.motionInfo world.shared.inboxes reading
    let info := { world.motionInfo with currMotionDetected := reading }
    Shows ⟨checked.2.1, world.client, { world.shared with inboxes := checked.2.2 }⟩
        { mirror with current := !mirror.current, pending := mirror.pending ++ [!mirror.current] } ∧
      queue checked.2.2 .mqttClient = queue world.shared.inboxes .mqttClient ++
        [⟨if reading = true then .motionOn else .motionOff, payloadOf info⟩] := by
  intro checked info
  let msg : InboxMsg := ⟨if reading = true then .motionOn else .motionOff, payloadOf info⟩
  have differs : world.motionInfo.currMotionDetected ≠ reading := by
    rw [shows.current, changed]
    exact (Bool.not_ne_self _).symm
  have told : checked.2.2 = InboxRegistry.broadcast world.shared.inboxes msg .motionSensor := by
    simp only [checked, checkMotionSensor, if_neg differs]
    rfl
  have known := check_motion world.motionInfo world.shared.inboxes reading
  have queued := queue_broadcast shows.here msg .motionSensor
  rw [if_neg (by decide)] at queued
  rw [told]
  refine ⟨⟨?_, known.trans changed, ?_, shows.shown, shows.armed, shows.table, shows.damper⟩, queued⟩
  · rw [broadcast_isSome]
    exact shows.here
  · rw [pendingMotions, queued, List.filterMap_append, ← changed]
    congr 1
    · exact shows.pending
    · cases reading <;> rfl

theorem check_simulates {world : World} {mirror : Mirror} (shows : Shows world mirror)
    (reading : Bool) :
    let checked := checkMotionSensor world.motionInfo world.shared.inboxes reading
    ∃ after, Move dampedTicks mirror .silent after ∧
      Shows ⟨checked.2.1, world.client, { world.shared with inboxes := checked.2.2 }⟩ after := by
  intro checked
  -- The sensor tells only a reading that differs from the last one.
  by_cases changed : reading = !mirror.current
  · exact ⟨_, .change mirror, (check_changes shows changed).1⟩
  · have same : world.motionInfo.currMotionDetected = reading := by
      rw [shows.current]
      cases reading <;> cases now : mirror.current <;> simp_all
    have untouched : checked.2.2 = world.shared.inboxes := by
      simp only [checked, checkMotionSensor, if_pos same]
    have known := check_motion world.motionInfo world.shared.inboxes reading
    refine ⟨mirror, .silent mirror, ?_⟩
    rw [untouched]
    exact ⟨shows.here, known.trans (same.symm.trans shows.current), shows.pending, shows.shown,
      shows.armed, shows.table, shows.damper⟩

theorem tick_shows {world : World} {mirror : Mirror} (shows : Shows world mirror)
    {order : List TimerTickId}
    (iterates : TimerTable.Iterates world.shared.timerTick order) (ready : Bool) :
    Shows { world with shared := timerTickPass ready world.shared order }
      { mirror with left := mirror.left - 1, armed := mirror.armed || mirror.left == 1 } := by
  obtain ⟨k, queued, here⟩ := timerTickPass_queue ready world.shared order shows.here
  obtain ⟨left, fires⟩ := damper_tick shows.table iterates shows.damper
  refine ⟨here, shows.current, ?_, shows.shown, ?_, ?_, ?_⟩
  · have quiet : (List.replicate k Inbox.timerTickMessage).filterMap motionOf = [] := by
      rw [List.filterMap_eq_nil_iff]
      exact fun msg member => List.eq_of_mem_replicate member ▸ rfl
    exact (queued_others quiet queued).trans shows.pending
  -- The flag rises when the damper fires, which is when its last tick is used up.
  · have flag := timerTickPass_expired ready world.shared order
      (show timerTickMotionDamper ≠ timerTickServiceMqttLoop by decide)
    rw [shows.armed] at flag
    refine flag.trans (congrArg _ ?_)
    rw [Bool.eq_iff_iff, decide_eq_true_iff, beq_iff_eq]
    exact fires
  · rw [timerTickPass_table]
    exact tick_wellformed shows.table iterates
  · rw [timerTickPass_table]
    exact left

def payloadText (value : Bool) : Bytes := if value then bytes "on" else bytes "off"

/-- A turn of the loop, seen from the mirror. -/
structure TurnShows (world : World) (mirror : Mirror) (turn : Turn) (label : Label) : Prop where
  timeless : label ≠ .tick
  moves : ∃ after, Move dampedTicks mirror label after ∧
    Shows ⟨world.motionInfo, turn.client, turn.shared⟩ after
  tells : payloadsOn topicMotion turn.calls =
    (toldBy label).toList.map payloadText
  counts : turn.client.mqttClientInfo.publishedMotions =
    world.client.mqttClientInfo.publishedMotions + if label = .told true then 1 else 0

theorem motionOff_shows {world : World} {mirror : Mirror} (shows : Shows world mirror)
    (answers : Answers) {inboxes : Inboxes} (here : (inboxes .mqttClient).isSome = true)
    (pending : pendingMotions world =
      false :: (queue inboxes .mqttClient).filterMap motionOf) :
    ∃ label, TurnShows world mirror (handleMotionOff answers
      ⟨[], world.client, { world.shared with inboxes := inboxes }⟩).ready label := by
  have next := shows.pending.symm.trans pending
  let taken : Turn := ⟨[], world.client, { world.shared with inboxes := inboxes }⟩
  -- An off is published only after an on.
  cases flag : world.client.publishedMotionOn with
  | true =>
      have shown := shows.shown.symm.trans flag
      have told : handleMotionOff answers taken = _ := if_pos flag
      rw [told]
      refine ⟨.told false, nofun,
        ⟨_, .off next shown, here, shows.current, rfl, rfl, ?_, ?_, ?_⟩, ?_, ?_⟩
      · exact shows.armed
      · exact shows.table
      · exact shows.damper
      · exact doPublish_payloads answers taken topicMotion topicMotion (bytes "off") true
      · exact (UInt32.add_zero _).symm
  | false =>
      have hidden := shows.shown.symm.trans flag
      have silent : handleMotionOff answers taken = taken := if_neg (by simp [taken, flag])
      rw [silent]
      refine ⟨.silent, nofun,
        ⟨_, .skipOff next hidden, here, shows.current, rfl, shows.shown, ?_, ?_, ?_⟩, rfl, ?_⟩
      · exact shows.armed
      · exact shows.table
      · exact shows.damper
      · exact (UInt32.add_zero _).symm

theorem motionOn_shows {world : World} {mirror : Mirror} (shows : Shows world mirror)
    (answers : Answers) {inboxes : Inboxes} (here : (inboxes .mqttClient).isSome = true)
    (pending : pendingMotions world =
      true :: (queue inboxes .mqttClient).filterMap motionOf) :
    ∃ label, TurnShows world mirror (handleMotionOn answers
      ⟨[], world.client, { world.shared with inboxes := inboxes }⟩).ready label := by
  have next := shows.pending.symm.trans pending
  let taken : Turn := ⟨[], world.client, { world.shared with inboxes := inboxes }⟩
  let asked : Turn := (takeFlag taken timerTickMotionDamper).2
  have reset : asked.shared.expired timerTickMotionDamper = false := by
    simp only [asked, takeFlag, getAndResetExpired, Function.update_self]
  -- The flag of the damper is taken whether or not the message is published.
  cases flag : world.shared.expired timerTickMotionDamper with
  | true =>
      have armed := shows.armed.symm.trans flag
      have told : handleMotionOn answers taken = publishMotionOn answers asked := if_pos flag
      rw [told]
      refine ⟨.told true, nofun,
        ⟨_, .on next armed, here, shows.current, rfl, rfl, reset, ?_, ?_⟩, ?_, ?_⟩
      · exact start_wellformed shows.table _
      · have started := @holds_start asked.shared shows.table _ _ _ _ shows.damper
        rw [dampedTicks_eq] at started
        exact started
      · apply (publishMotionOn_payloads answers asked topicMotion).trans
        rw [if_pos rfl, if_neg (by decide)]
        rfl
      · rw [if_pos rfl]
        rfl
  | false =>
      have damped := shows.armed.symm.trans flag
      have silent : handleMotionOn answers taken = asked := if_neg (by
        rw [show (takeFlag taken timerTickMotionDamper).1 = _ from flag]
        exact Bool.false_ne_true)
      rw [silent]
      refine ⟨.silent, nofun,
        ⟨_, .skipOn next damped, here, shows.current, rfl, shows.shown, ?_, ?_, ?_⟩, rfl, ?_⟩
      · exact reset.trans damped.symm
      · exact shows.table
      · exact shows.damper
      · exact (UInt32.add_zero _).symm

/-- A turn over a message of another kind. -/
theorem quiet_shows {world : World} {mirror : Mirror} (shows : Shows world mirror)
    {answers : Answers} {msg : InboxMsg} {turn : Turn}
    (runs : loopTurn answers world.client world.shared = some (msg, turn))
    (other : msg.inboxMsgType ∉ [.motionOn, .motionOff]) :
    Shows ⟨world.motionInfo, turn.client, turn.shared⟩ mirror ∧
      payloadsOn topicMotion turn.calls = [] ∧
      turn.client.mqttClientInfo.publishedMotions =
        world.client.mqttClientInfo.publishedMotions := by
  obtain ⟨inboxes, handled, done, rfl, queued, here⟩ := loopTurn_cases runs
  have quiet := handle_quiet other done
  have same : handled.shared.inboxes = inboxes := handle_inboxes done
  refine ⟨⟨?_, shows.current, ?_, quiet.flag.trans shows.shown, quiet.damper.trans shows.armed,
    quiet.table.symm ▸ shows.table, quiet.table.symm ▸ shows.damper⟩, quiet.calls, quiet.count⟩
  · exact (congrArg (fun inboxes : Inboxes => (inboxes .mqttClient).isSome) same).trans here
  · have pending : (queue inboxes .mqttClient).filterMap motionOf = pendingMotions world := by
      rw [pendingMotions, queued, List.filterMap_cons, motionOf_other other]
    exact (congrArg (fun inboxes => (queue inboxes .mqttClient).filterMap motionOf) same).trans
      (pending.trans shows.pending)

/-- A turn publishes what the mirror tells. -/
theorem turn_shows {world : World} {mirror : Mirror} (shows : Shows world mirror)
    {answers : Answers} {msg : InboxMsg} {turn : Turn}
    (runs : loopTurn answers world.client world.shared = some (msg, turn)) :
    ∃ label, TurnShows world mirror turn label := by
  by_cases motion : msg.inboxMsgType ∈ [.motionOn, .motionOff]
  · obtain ⟨inboxes, handled, done, rfl, queued, here⟩ := loopTurn_cases runs
    rcases List.mem_cons.mp motion with on | rest
    · rw [on] at done
      cases done
      apply motionOn_shows shows answers here
      rw [pendingMotions, queued, List.filterMap_cons, motionOf, on]
    · have off := List.mem_singleton.mp rest
      rw [off] at done
      cases done
      apply motionOff_shows shows answers here
      rw [pendingMotions, queued, List.filterMap_cons, motionOf, off]
  · obtain ⟨after, calls, count⟩ := quiet_shows shows runs motion
    exact ⟨.silent, nofun, ⟨mirror, .silent mirror, after⟩, calls, count.trans (by simp)⟩

/-- What a step is to the mirror, to the topic and to the counter. -/
structure StepShows (world : World) (event : Event) (next : World) (mirror : Mirror) : Prop where
  moves : ∃ after, Move dampedTicks mirror event.label after ∧ Shows next after
  tells : event.motions = (toldBy event.label).toList.map payloadText
  counts : next.client.mqttClientInfo.publishedMotions =
    world.client.mqttClientInfo.publishedMotions + if event.label = .told true then 1 else 0
  ticks : event.label = .tick ↔ event = .tick

theorem handled_label {msg : InboxMsg} {calls : List MqttLoop.Call} {label : Label}
    (timeless : label ≠ .tick)
    (tells : payloadsOn topicMotion calls = (toldBy label).toList.map payloadText) :
    (Event.handled msg calls).label = label := by
  have text : bytes "on" == bytes "on" ∧ (bytes "off" == bytes "on") = false := by decide
  simp only [Event.label, Event.motions, tells]
  cases label with
  | silent => rfl
  | tick => exact absurd rfl timeless
  | told value =>
      cases value with
      | true => exact congrArg Label.told text.1
      | false => exact congrArg Label.told text.2

theorem step_shows {world next : World} {event : Event} {mirror : Mirror}
    (step : Step world event next) (shows : Shows world mirror) :
    StepShows world event next mirror := by
  have still : ∀ count : UInt32, count = count + 0 := fun count => (UInt32.add_zero count).symm
  cases step with
  | checkMotionSensor reading =>
      exact ⟨check_simulates shows reading, rfl, still _, by simp [Event.label, Event.motions]⟩
  | tick iterates =>
      exact ⟨⟨_, .tick mirror, tick_shows shows iterates _⟩, rfl, still _, by simp [Event.label]⟩
  | timerCall theirs =>
      obtain ⟨table, damper⟩ := holds_call shows.table (theirs _ (Nat.le_refl _)) shows.damper
      exact ⟨⟨mirror, .silent mirror, shows.here, shows.current, shows.pending, shows.shown,
        shows.armed, table, damper⟩, rfl, still _, by simp [Event.label, Event.motions]⟩
  | @broadcast msg threadIdFrom other =>
      refine ⟨⟨mirror, .silent mirror, ?_, shows.current, ?_, shows.shown, shows.armed,
        shows.table, shows.damper⟩, rfl, still _, by simp [Event.label, Event.motions]⟩
      · exact (broadcast_isSome ..).trans shows.here
      · have quiet : (if ThreadId.mqttClient = threadIdFrom then [] else [msg]).filterMap motionOf =
            [] := by
          split
          · rfl
          · have silent := motionOf_other fun motion =>
              other (List.mem_append_left [.terminate] motion)
            rw [List.filterMap_cons, silent]
            rfl
        exact (queued_others quiet (queue_broadcast shows.here msg threadIdFrom)).trans shows.pending
  | @handle answers msg turn runs =>
      obtain ⟨label, timeless, moves, tells, counts⟩ := turn_shows shows runs
      have same : (Event.handled msg turn.calls).label = label := handled_label timeless tells
      refine ⟨same ▸ moves, ?_, ?_, ?_⟩
      · rw [same]
        exact tells
      · rw [same]
        exact counts
      · rw [same]
        exact ⟨fun hit => absurd hit timeless, nofun⟩

section Runs
variable {others : ServiceRef → Option (Int × Bool)} {port keepAlive : Int32}
  {events : List Event} {world : World}

theorem run_shows (run : Run Step (World.start others port keepAlive) events world) :
    ∃ mirror, Run (Move dampedTicks) Mirror.start (events.map Event.label) mirror ∧
      Shows world mirror :=
  run.simulates Shows Event.label (start_shows others port keepAlive)
    fun _ _ _ _ step shows => (step_shows step shows).moves

/-- What holds of every step of a run, seen from the mirror, is gathered event by event. -/
theorem run_step (holds : List Event → World → Prop)
    (initial : holds [] (World.start others port keepAlive))
    (keeps : ∀ events world event next mirror, StepShows world event next mirror →
      holds events world → holds (events ++ [event]) next)
    (run : Run Step (World.start others port keepAlive) events world) : holds events world := by
  apply run.invariant holds initial
  intro events world event next run step held
  obtain ⟨mirror, _, shows⟩ := run_shows run
  exact keeps events world event next mirror (step_shows step shows) held

theorem run_motions (run : Run Step (World.start others port keepAlive) events world) :
    motions events = (told (events.map Event.label)).map payloadText := by
  refine run_step (fun events _ =>
    motions events = (told (events.map Event.label)).map payloadText) rfl ?_ run
  intro events world event next mirror shows same
  rw [List.map_append, List.map_singleton, told_concat, List.map_append, ← same, ← shows.tells,
    motions, List.flatMap_append, List.flatMap_singleton]
  rfl

theorem run_clock (run : Run Step (World.start others port keepAlive) events world) :
    events.foldl stamp (0, []) = clock (events.map Event.label) := by
  refine run_step (fun events _ =>
    events.foldl stamp (0, []) = clock (events.map Event.label)) rfl ?_ run
  intro events world event next mirror shows same
  rw [List.map_append, List.map_singleton, clock_concat, List.foldl_append, same]
  have onOff : (bytes "off" == bytes "on") = false := by decide
  cases event with
  | tick => rfl
  | handled msg calls =>
      have tells := shows.tells
      have timeless := shows.ticks
      simp only [List.foldl_cons, List.foldl_nil, stamp, tells]
      cases label : (Event.handled msg calls).label with
      | silent => simp [toldBy, note]
      | tick => cases timeless.mp label
      | told value => cases value <;> simp [toldBy, note, payloadText, onOff]
  | _ => simp [stamp, Event.motions, Event.label, note]

theorem run_count (run : Run Step (World.start others port keepAlive) events world) :
    world.client.mqttClientInfo.publishedMotions =
      UInt32.ofNat ((told (events.map Event.label)).count true) := by
  refine run_step (fun events world => world.client.mqttClientInfo.publishedMotions =
    UInt32.ofNat ((told (events.map Event.label)).count true)) rfl ?_ run
  intro events world event next mirror shows same
  rw [shows.counts, same, List.map_append, List.map_singleton, told_concat, List.count_append]
  cases label : event.label with
  | silent => simp [toldBy]
  | tick => simp [toldBy]
  | told value => cases value <;> simp [toldBy, UInt32.ofNat_add]

end Runs

/-- `on`, `off`, `on` and so on. -/
def alternation (n : Nat) : List Bytes := (alternating n).map payloadText

/-- Whatever the readings and the schedule: the motions are published in turns, two `on` at
least 50001 ticks apart; once the loop has seen all motions and there is none, `off` was the
last word. The counter tells how often `on` was published modulo 2^32. -/
theorem motion_publications {others : ServiceRef → Option (Int × Bool)} {port keepAlive : Int32}
    {events : List Event} {world : World}
    (run : Run Step (World.start others port keepAlive) events world) :
    motions events = alternation (motions events).length ∧
    (motionTimes events).Pairwise (fun earlier later => earlier + 50001 ≤ later) ∧
    (motionTimes events).length = (motions events).count (bytes "on") ∧
    world.client.mqttClientInfo.publishedMotions.toNat =
      (motions events).count (bytes "on") % 2 ^ 32 ∧
    ((∀ msg ∈ queue world.shared.inboxes .mqttClient,
        msg.inboxMsgType ∉ [.motionOn, .motionOff]) →
      world.motionInfo.currMotionDetected = false →
        ∀ payload ∈ (motions events).getLast?, payload = bytes "off") := by
  obtain ⟨mirror, seen, shows⟩ := run_shows run
  have same := run_motions run
  have times : motionTimes events = (clock (events.map Event.label)).2 :=
    congrArg Prod.snd (run_clock run)
  have count : (motions events).count (bytes "on") = (told (events.map Event.label)).count true := by
    rw [same]
    exact List.count_map_of_injective _ payloadText (by decide) true
  refine ⟨?_, ?_, ?_, ?_, fun taken off payload last => ?_⟩
  · rw [same, List.length_map, alternation, ← (run_alternates seen).1]
  · rw [times]
    exact (run_spaced seen).apart
  · rw [times, clock_length, count]
  · rw [run_count run, UInt32.toNat_ofNat', count]
  · have none : mirror.pending = [] := by
      rw [← shows.pending, pendingMotions, List.filterMap_eq_nil_iff]
      exact fun msg member => motionOf_other (taken msg member)
    rw [same, List.getLast?_map] at last
    obtain ⟨value, final, text⟩ := Option.map_eq_some_iff.mp last
    rw [run_settles seen none (shows.current.symm.trans off) value final] at text
    exact text.symm

/-! A cycle of the switch: on, off, and the time of the damper. -/

theorem on_only {period : Nat} {mirror next : Mirror} {label : Label}
    (move : Move period mirror label next) (pending : mirror.pending = [true])
    (armed : mirror.armed = true) (taken : next.pending = []) : label = .told true ∧
      next = { mirror with pending := [], shown := true, armed := false, left := period } := by
  cases move with
  | on queued => simp_all
  | skipOn _ damped => simp_all
  | _ => simp_all

theorem off_only {period : Nat} {mirror next : Mirror} {label : Label}
    (move : Move period mirror label next) (pending : mirror.pending = [false])
    (shown : mirror.shown = true) (taken : next.pending = []) : label = .told false ∧
      next = { mirror with pending := [], shown := false } := by
  cases move with
  | off queued => simp_all
  | skipOff _ hidden => simp_all
  | _ => simp_all

/-- Some run leads to a view, tells these values on its way and leaves such an inbox. -/
def Leads (world : World) (mirror : Mirror) (values : List Bool)
    (inbox : List InboxMsg → Prop) : Prop :=
  ∃ events after, Run Step world events after ∧ Shows after mirror ∧
    told (events.map Event.label) = values ∧ inbox (queue after.shared.inboxes .mqttClient)

def TimerOnly (msgs : List InboxMsg) : Prop :=
  ∃ n, msgs = List.replicate n Inbox.timerTickMessage

def OneMotion (inboxMsgType : InboxMsgType) (msgs : List InboxMsg) : Prop :=
  ∃ payload, msgs = [⟨inboxMsgType, payload⟩]

theorem Leads.append {world : World} {mirror later : Mirror} {values more : List Bool}
    {inbox rest : List InboxMsg → Prop} (first : Leads world mirror values inbox)
    (second : ∀ world, Shows world mirror → inbox (queue world.shared.inboxes .mqttClient) →
      Leads world later more rest) : Leads world later (values ++ more) rest := by
  obtain ⟨events, middle, run, shows, tells, queued⟩ := first
  obtain ⟨others, after, further, last, alsoTells, left⟩ := second middle shows queued
  refine ⟨events ++ others, after, run.append further, last, ?_, left⟩
  rw [List.map_append, told, List.filterMap_append]
  exact congrArg₂ (· ++ ·) tells alsoTells

theorem leads_one {world next : World} {event : Event} {mirror : Mirror} {values : List Bool}
    {inbox : List InboxMsg → Prop} (step : Step world event next) (shows : Shows next mirror)
    (tells : (toldBy event.label).toList = values)
    (queued : inbox (queue next.shared.inboxes .mqttClient)) : Leads world mirror values inbox := by
  refine ⟨[event], next, .one step, shows, ?_, queued⟩
  rw [← tells]
  exact told_concat [] event.label

/-- The loop takes the timer messages off its inbox. -/
theorem leads_drained {world : World} {mirror : Mirror} (shows : Shows world mirror)
    (queued : TimerOnly (queue world.shared.inboxes .mqttClient)) :
    Leads world mirror [] (· = []) := by
  obtain ⟨n, queued⟩ := queued
  induction n generalizing world with
  | zero => exact ⟨[], world, .start, shows, rfl, queued⟩
  | succ n ih =>
      obtain ⟨turn, runs, left⟩ := @loopTurn_runs world.client _ _ _ queued nofun
      obtain ⟨kept, calls, _⟩ := quiet_shows shows runs (by decide)
      have one : Leads world mirror [] (· = List.replicate n Inbox.timerTickMessage) := by
        refine leads_one (.handle world runs) kept ?_ left
        rw [@handled_label _ _ .silent nofun calls]
        rfl
      exact one.append fun _ => ih

theorem leads_checked {world : World} {mirror : Mirror} (shows : Shows world mirror)
    {reading : Bool} (changed : reading = !mirror.current)
    (empty : queue world.shared.inboxes .mqttClient = []) : Leads world
      { mirror with current := !mirror.current, pending := mirror.pending ++ [!mirror.current] }
      [] (OneMotion (if reading = true then .motionOn else .motionOff)) := by
  obtain ⟨after, queued⟩ := check_changes shows changed
  rw [empty] at queued
  exact leads_one (.checkMotionSensor world reading) after rfl ⟨_, queued⟩

theorem leads_on {world : World} {mirror : Mirror} (shows : Shows world mirror)
    (pending : mirror.pending = [true]) (armed : mirror.armed = true)
    (queued : OneMotion .motionOn (queue world.shared.inboxes .mqttClient)) : Leads world
      { mirror with pending := [], shown := true, armed := false, left := dampedTicks }
      [true] (· = []) := by
  obtain ⟨payload, queued⟩ := queued
  obtain ⟨turn, runs, left⟩ := @loopTurn_runs world.client _ _ _ queued nofun
  have step := step_shows (.handle world runs) shows
  obtain ⟨after, move, later⟩ := step.moves
  have taken : after.pending = [] := later.pending.symm.trans (by rw [pendingMotions, left]; rfl)
  obtain ⟨label, rfl⟩ := on_only move pending armed taken
  exact leads_one (.handle world runs) later (by rw [label]; rfl) left

theorem leads_off {world : World} {mirror : Mirror} (shows : Shows world mirror)
    (pending : mirror.pending = [false]) (shown : mirror.shown = true)
    (queued : OneMotion .motionOff (queue world.shared.inboxes .mqttClient)) :
    Leads world { mirror with pending := [], shown := false } [false] (· = []) := by
  obtain ⟨payload, queued⟩ := queued
  obtain ⟨turn, runs, left⟩ := @loopTurn_runs world.client _ _ _ queued nofun
  have step := step_shows (.handle world runs) shows
  obtain ⟨after, move, later⟩ := step.moves
  have taken : after.pending = [] := later.pending.symm.trans (by rw [pendingMotions, left]; rfl)
  obtain ⟨label, rfl⟩ := off_only move pending shown taken
  exact leads_one (.handle world runs) later (by rw [label]; rfl) left

theorem leads_tick {world : World} {mirror : Mirror} (shows : Shows world mirror)
    (queued : TimerOnly (queue world.shared.inboxes .mqttClient)) : Leads world
      { mirror with left := mirror.left - 1, armed := mirror.armed || mirror.left == 1 }
      [] TimerOnly := by
  obtain ⟨n, queued⟩ := queued
  have order : TimerTable.Iterates world.shared.timerTick _ := List.Perm.refl _
  obtain ⟨more, added, _⟩ := timerTickPass_queue
    world.client.readyForTimerTickServiceMessage world.shared _ shows.here
  rw [queued, List.replicate_append_replicate] at added
  exact leads_one (.tick world order) (tick_shows shows order _) rfl ⟨_, added⟩

/-- Timer messages pile up until the damper has run out. -/
theorem leads_rested {world : World} {mirror : Mirror} (k : Nat) (left : mirror.left = k + 1)
    (shows : Shows world mirror) (queued : TimerOnly (queue world.shared.inboxes .mqttClient)) :
    Leads world { mirror with left := 0, armed := true } [] TimerOnly := by
  induction k generalizing world mirror with
  | zero =>
      have ticked := leads_tick shows queued
      rw [left] at ticked
      simpa using ticked
  | succ k ih =>
      have ticked := leads_tick shows queued
      rw [left] at ticked
      refine ticked.append fun world shows queued => ?_
      have rested := ih rfl shows queued
      exact rested

/-- One cycle ends where it began. -/
theorem leads_cycle {world : World} (shows : Shows world Mirror.start)
    (queued : TimerOnly (queue world.shared.inboxes .mqttClient)) :
    Leads world Mirror.start [true, false] TimerOnly := by
  have drained := leads_drained shows queued
  have risen := drained.append fun _ shows empty => @leads_checked _ _ shows true rfl empty
  have on := risen.append fun _ shows queued => leads_on shows rfl rfl queued
  have fallen := on.append fun _ shows empty => @leads_checked _ _ shows false rfl empty
  have off := fallen.append fun _ shows queued => leads_off shows rfl rfl queued
  exact off.append fun _ shows empty => leads_rested 50000 rfl shows ⟨0, empty⟩

theorem leads_cycles (others : ServiceRef → Option (Int × Bool)) (port keepAlive : Int32)
    (n : Nat) : ∃ values, values.count true = n ∧
      Leads (World.start others port keepAlive) Mirror.start values TimerOnly := by
  induction n with
  | zero =>
      have shows := start_shows others port keepAlive
      have empty : createInboxes .mqttClient = some .new := created_inboxes nofun
      exact ⟨[], rfl, [], _, .start, shows, rfl, 0, queue_of_some empty⟩
  | succ n ih =>
      obtain ⟨values, count, leads⟩ := ih
      refine ⟨values ++ [true, false], ?_, leads.append fun _ => leads_cycle⟩
      rw [List.count_append, count]
      rfl

theorem motion_publications_sample : ∃ events world,
    Run Step (World.start (fun _ => none) 1883 60) events world ∧
      motions events = [bytes "on", bytes "off", bytes "on", bytes "off"] ∧
      (∃ first second, motionTimes events = [first, second] ∧ first + 50001 ≤ second) ∧
      world.client.mqttClientInfo.publishedMotions.toNat = 2 := by
  have shows := start_shows (fun _ => none) 1883 60
  have empty : createInboxes .mqttClient = some .new := created_inboxes nofun
  have cycles := (leads_cycle shows ⟨0, queue_of_some empty⟩).append fun _ => leads_cycle
  obtain ⟨events, world, run, _, tells, _⟩ := cycles
  obtain ⟨_, apart, times, count, _⟩ := motion_publications run
  have told : motions events = [bytes "on", bytes "off", bytes "on", bytes "off"] := by
    rw [run_motions run, tells]
    rfl
  have twice : (motions events).count (bytes "on") = 2 := by
    rw [told]
    decide
  rw [twice] at times count
  obtain ⟨first, second, pair⟩ := List.length_eq_two.mp times
  rw [pair] at apart
  refine ⟨events, world, run, told, ⟨first, second, pair, ?_⟩, count⟩
  exact (List.pairwise_cons.mp apart).1 second (List.mem_singleton.mpr rfl)

/-- After 2^32 cycles the counter is back at zero. -/
theorem publishedMotions_wraps : ∃ events world,
    Run Step (World.start (fun _ => none) 1883 60) events world ∧
      world.client.mqttClientInfo.publishedMotions.toNat ≠ (motions events).count (bytes "on") := by
  obtain ⟨values, count, events, world, run, _, tells, _⟩ :=
    leads_cycles (fun _ => none) 1883 60 (2 ^ 32)
  have on : (motions events).count (bytes "on") = 2 ^ 32 := by
    rw [run_motions run, tells, ← count]
    exact List.count_map_of_injective _ payloadText (by decide) true
  refine ⟨events, world, run, ?_⟩
  rw [on, run_count run, tells, count, UInt32.toNat_ofNat']
  decide

end OClock.MotionPublications
