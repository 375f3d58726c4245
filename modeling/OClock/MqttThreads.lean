import OClock.MotionPublications

/-!
The MQTT thread and the timer thread, step by step. Every call of libmosquitto begins in one
step and returns in another, and so do the test of `readyForTimerTickServiceMessage` and the
message that it lets through. The timer thread holds the lock of its table over a whole
pass; whoever needs the table waits for it.
-/

namespace OClock.MqttThreads
open Text CommonUtils InboxRegistry TimerTable MqttLoop LabelledRun

/-- What is left to do for a message. -/
inductive Action where
  | publish (topic payload : Bytes) (retain : Bool)
  | setPublishedMotionOn (value : Bool)
  | startMotionDamper
  | countMotion
  | storeRc (rc : Int32)

/-- Where the MQTT thread stands. -/
inductive MqttAt where
  | registering (rest : List (ServiceRef × Bool))
  | raising
  | waiting
  | received (inboxMsgType : InboxMsgType)
  | lowered
  | looping
  | looped (rc : Int32)
  | counted (rc : Int32)
  | unreported (rc : Int32)
  | unconnected (rc : Int32)
  | connecting
  | inConnect
  | attempted (rc : Int32)
  | doing (rest : List Action)
  | publishing (rest : List Action)
  | left

/-- The services in the order in which the thread registers them, and whether it starts them. -/
def services : List (ServiceRef × Bool) :=
  [(timerTickServiceMqttLoop, true), (timerTickPeriodicReport, true),
    (timerTickReconnectDamper, true), (timerTickMotionDamper, false)]

/-- Where the timer thread stands, with the entries that its pass has not reached. -/
inductive TimerAt where
  | sleeping
  | passing (rest : List TimerTickId)
  | triggering (ref : ServiceRef) (rest : List TimerTickId)
  | queueing (rest : List TimerTickId)

structure World where
  client : MqttClient
  shared : Shared
  mqtt : MqttAt
  timer : TimerAt

/-- Every inbox is there and empty, and no service is registered yet. Both dampers are
constructed expired. -/
def World.start (others : ServiceRef → Option (Int × Bool))
    (mqttBrokerPort mqttKeepAlive : Int32) : World where
  client := ⟨MotionPublications.construct mqttBrokerPort mqttKeepAlive, false, false⟩
  shared := ⟨createInboxes, TimerSchedule.boot (objects others),
    fun ref => ref == timerTickReconnectDamper || ref == timerTickMotionDamper⟩
  mqtt := .registering services
  timer := .sleeping

inductive Event where
  | tick
  | tested (ready : Bool)
  | exchanged (ref : ServiceRef) (expired : Bool)
  | received (msg : InboxMsg)
  | called (call : Call)
  | ran
  deriving DecidableEq

/-- Callbacks come while the thread is in a call of libmosquitto. -/
def MqttAt.inCall : MqttAt → Bool
  | .looping | .inConnect | .publishing _ => true
  | _ => false

def Action.publishes : Action → Bool
  | .publish .. => true
  | _ => false

def setReady (client : MqttClient) (ready : Bool) : MqttClient :=
  { client with readyForTimerTickServiceMessage := ready }

def published (client : MqttClient) (rc : Int32) : MqttClient :=
  { client with mqttClientInfo := { client.mqttClientInfo with
      publishesDropped :=
        if rc ≠ mosqErrSuccess then client.mqttClientInfo.publishesDropped + 1
        else client.mqttClientInfo.publishesDropped
      publishes := client.mqttClientInfo.publishes + 1 } }

/-- Everything but a publication is done in one step. -/
def Action.act (client : MqttClient) (shared : Shared) : Action → MqttClient × Shared
  | .publish .. => (client, shared)
  | .setPublishedMotionOn value => ({ client with publishedMotionOn := value }, shared)
  | .startMotionDamper =>
      (client, { shared with timerTick := (startTimerTickService shared.timerTick
        (cookieOf shared timerTickMotionDamper)).2 })
  | .countMotion =>
      ({ client with mqttClientInfo := { client.mqttClientInfo with
        publishedMotions := client.mqttClientInfo.publishedMotions + 1 } }, shared)
  | .storeRc rc =>
      ({ client with mqttClientInfo := { client.mqttClientInfo with lastLoopRc := rc } }, shared)

def motionOffActions (client : MqttClient) : List Action :=
  if client.publishedMotionOn then
    [.publish topicMotion (bytes "off") true, .setPublishedMotionOn false]
  else []

def motionOnActions (expired : Bool) (currTimestamp : Bytes) : List Action :=
  if expired then
    [.publish topicMotion (bytes "on") true, .setPublishedMotionOn true,
      .publish topicMotionDetected currTimestamp true, .startMotionDamper, .countMotion]
  else []

def reportActions (answers : Answers) (rc : Int32) : List Action :=
  [.publish topicLightSensor ((decimalInt (int32 answers.lightValue.toNat)).take 5) false,
    .publish topicStatus (StatusReport.renderStatusJson answers.snapshot) false, .storeRc rc]

/-- The timer thread after an entry: it triggers the service whose time has come. -/
def TimerAt.after (rest : List TimerTickId) : List ServiceRef → TimerAt
  | [] => .passing rest
  | ref :: _ => .triggering ref rest

inductive Step : World → Event → World → Prop
  | register {world : World} {ref : ServiceRef} {start : Bool} {rest : List (ServiceRef × Bool)}
      (stands : world.mqtt = .registering ((ref, start) :: rest))
      (free : world.timer = .sleeping) :
      Step world .ran
        { world with
          mqtt := .registering rest
          shared := { world.shared with
            timerTick := (registerTimerTickService world.shared.timerTick ref start).2 } }
  | registered {world : World} (stands : world.mqtt = .registering []) :
      Step world .ran { world with mqtt := .raising }
  | raise {world : World} (stands : world.mqtt = .raising) :
      Step world .ran { world with mqtt := .waiting, client := setReady world.client true }
  | receive {world : World} (stands : world.mqtt = .waiting) {msg : InboxMsg} {inbox : Inbox}
      (ready : (world.shared.inboxes .mqttClient).bind Inbox.waitForMessage = some (msg, inbox)) :
      Step world (.received msg)
        { world with
          mqtt := .received msg.inboxMsgType
          shared := { world.shared with inboxes := world.shared.inboxes.write .mqttClient inbox } }
  | leave {world : World} (stands : world.mqtt = .received .terminate) :
      Step world .ran { world with mqtt := .left }
  | lower {world : World} (stands : world.mqtt = .received .timerTickMessage) :
      Step world .ran { world with mqtt := .lowered, client := setReady world.client false }
  | motionOff {world : World} (stands : world.mqtt = .received .motionOff) :
      Step world .ran { world with mqtt := .doing (motionOffActions world.client) }
  | motionOn {world : World} (stands : world.mqtt = .received .motionOn) (currTimestamp : Bytes) :
      Step world (.exchanged timerTickMotionDamper (world.shared.expired timerTickMotionDamper))
        { world with
          mqtt := .doing
            (motionOnActions (world.shared.expired timerTickMotionDamper) currTimestamp)
          shared := (getAndResetExpired world.shared timerTickMotionDamper).2 }
  | display {world : World} {inboxMsgType : InboxMsgType} {topic payload : Bytes}
      (stands : world.mqtt = .received inboxMsgType)
      (told : displayPublication inboxMsgType = some (topic, payload)) :
      Step world .ran { world with mqtt := .doing [.publish topic payload true] }
  | noop {world : World} (stands : world.mqtt = .received .noop) :
      Step world .ran { world with mqtt := .doing [] }
  | loop {world : World} (stands : world.mqtt = .lowered) :
      Step world (.called .loop) { world with mqtt := .looping }
  | callback {world : World} (inside : world.mqtt.inCall = true) (callback : Callback) :
      Step world .ran
        { world with client := { world.client with
            mqttClientInfo := callback.run world.client.mqttClientInfo } }
  | loopReturns {world : World} (stands : world.mqtt = .looping) (rc : Int32) :
      Step world .ran { world with mqtt := .looped rc }
  | countTick {world : World} {rc : Int32} (stands : world.mqtt = .looped rc) :
      Step world .ran
        { world with
          mqtt := .counted rc
          client := { world.client with mqttClientInfo := { world.client.mqttClientInfo with
            ticks := world.client.mqttClientInfo.ticks + 1 } } }
  | askReport {world : World} {rc : Int32} (stands : world.mqtt = .counted rc)
      (success : rc = mosqErrSuccess) (answers : Answers) :
      Step world
        (.exchanged timerTickPeriodicReport (world.shared.expired timerTickPeriodicReport))
        { world with
          mqtt := if world.shared.expired timerTickPeriodicReport then
              .doing (reportActions answers rc)
            else .unreported rc
          shared := (getAndResetExpired world.shared timerTickPeriodicReport).2 }
  | skipReport {world : World} {rc : Int32} (stands : world.mqtt = .counted rc)
      (failed : rc ≠ mosqErrSuccess) : Step world .ran { world with mqtt := .unreported rc }
  | missed {world : World} {rc : Int32} (stands : world.mqtt = .unreported rc)
      (lost : rc = mosqErrNoConn ∨ world.client.mqttClientInfo.mqttBrokerConnected = false) :
      Step world .ran { world with mqtt := .unconnected rc }
  | connected {world : World} {rc : Int32} (stands : world.mqtt = .unreported rc)
      (held : ¬ (rc = mosqErrNoConn ∨ world.client.mqttClientInfo.mqttBrokerConnected = false)) :
      Step world .ran { world with mqtt := .doing [.storeRc rc] }
  | askDamper {world : World} {rc : Int32} (stands : world.mqtt = .unconnected rc) :
      Step world
        (.exchanged timerTickReconnectDamper (world.shared.expired timerTickReconnectDamper))
        { world with
          mqtt := if world.shared.expired timerTickReconnectDamper then .connecting
            else .doing [.storeRc rc]
          shared := (getAndResetExpired world.shared timerTickReconnectDamper).2 }
  | connect {world : World} (stands : world.mqtt = .connecting) :
      Step world (.called .connect) { world with mqtt := .inConnect }
  | connectReturns {world : World} (stands : world.mqtt = .inConnect) (rc : Int32) :
      Step world .ran { world with mqtt := .attempted rc }
  | countAttempt {world : World} {rc : Int32} (stands : world.mqtt = .attempted rc) :
      Step world .ran
        { world with
          mqtt := .doing [.storeRc rc]
          client := { world.client with mqttClientInfo := { world.client.mqttClientInfo with
            connectAttempts := world.client.mqttClientInfo.connectAttempts + 1 } } }
  | publish {world : World} {topic payload : Bytes} {retain : Bool} {rest : List Action}
      (stands : world.mqtt = .doing (.publish topic payload retain :: rest)) :
      Step world (.called (.publish topic (cText payload) retain))
        { world with mqtt := .publishing rest }
  | publishReturns {world : World} {rest : List Action} (stands : world.mqtt = .publishing rest)
      (rc : Int32) :
      Step world .ran { world with mqtt := .doing rest, client := published world.client rc }
  | act {world : World} {action : Action} {rest : List Action}
      (stands : world.mqtt = .doing (action :: rest)) (plain : action.publishes = false)
      (free : action = .startMotionDamper → world.timer = .sleeping) :
      Step world .ran
        { world with
          mqtt := .doing rest
          client := (action.act world.client world.shared).1
          shared := (action.act world.client world.shared).2 }
  | handled {world : World} (stands : world.mqtt = .doing []) :
      Step world .ran { world with mqtt := .raising }
  -- The timer thread.
  | tick {world : World} (wakes : world.timer = .sleeping) {order : List TimerTickId}
      (iterates : TimerTable.Iterates world.shared.timerTick order) :
      Step world .tick { world with timer := .passing order }
  | entry {world : World} {cookie : TimerTickId} {rest : List TimerTickId}
      (reaches : world.timer = .passing (cookie :: rest)) :
      Step world .ran
        { world with
          timer := .after rest (tickEntry ([], world.shared.timerTick) cookie).1
          shared := { world.shared with
            timerTick := (tickEntry ([], world.shared.timerTick) cookie).2 } }
  | setExpired {world : World} {ref : ServiceRef} {rest : List TimerTickId}
      (triggers : world.timer = .triggering ref rest) (other : ref ≠ timerTickServiceMqttLoop) :
      Step world .ran
        { world with
          timer := .passing rest
          shared := { world.shared with
            expired := Function.update world.shared.expired ref true } }
  | test {world : World} {rest : List TimerTickId}
      (triggers : world.timer = .triggering timerTickServiceMqttLoop rest) :
      Step world (.tested world.client.readyForTimerTickServiceMessage)
        { world with
          timer := if world.client.readyForTimerTickServiceMessage then .queueing rest
            else .passing rest }
  | queue {world : World} {rest : List TimerTickId} (queues : world.timer = .queueing rest) :
      Step world .ran
        { world with
          timer := .passing rest
          shared := { world.shared with
            inboxes := addMessageTo world.shared.inboxes .mqttClient Inbox.timerTickMessage } }
  | passed {world : World} (done : world.timer = .passing []) :
      Step world .ran { world with timer := .sleeping }
  /-- A turn of the loop of somebody's broadcast. -/
  | tell {world : World} (threadId : ThreadId) {msg : InboxMsg}
      (other : msg.inboxMsgType ≠ .timerTickMessage) :
      Step world .ran
        { world with shared := { world.shared with
            inboxes := addMessageTo world.shared.inboxes threadId msg } }
  /-- Another thread registers, starts or unregisters a service that is not the loop's. -/
  | timerCall {world : World} (free : world.timer = .sleeping) {call : TimerSchedule.Call}
      (theirs : ∀ ref ≤ timerTickMotionDamper,
        TimerSchedule.ownEvent ref world.shared.timerTick call = none) :
      Step world .ran
        { world with shared := { world.shared with
            timerTick := (TimerSchedule.step world.shared.timerTick call).2 } }

def Event.call : Event → Option Call
  | .called call => some call
  | _ => none

/-- The calls of libmosquitto in a history. -/
def calls (history : List Event) : List Call := history.filterMap Event.call

def ticks (history : List Event) : Nat := history.count .tick

/-- The events of the timer thread. -/
def Event.ofTimer : Event → Bool
  | .tick | .tested _ | .ran => true
  | _ => false

theorem calls_append (before after : List Event) :
    calls (before ++ after) = calls before ++ calls after := List.filterMap_append ..

theorem ticks_append (before after : List Event) :
    ticks (before ++ after) = ticks before + ticks after := List.count_append

theorem calls_timer {history : List Event} (timer : history.all Event.ofTimer = true) :
    calls history = [] := by
  rw [calls, List.filterMap_eq_nil_iff]
  intro event member
  have own := List.all_eq_true.mp timer event member
  cases event <;> first | rfl | cases own

end OClock.MqttThreads
