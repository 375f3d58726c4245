import OClock.CommonUtils
import OClock.InboxRegistry
import OClock.StatusReport
import OClock.TimerSchedule

/-!
The loop of mqttClient.cpp, message by message. What libmosquitto, the clock and the other
singletons answer is given for each message. A flag of a `TimerTickServiceBool` stands
outside the timer table, under the reference of its service.
-/

namespace OClock.MqttLoop
open Text CommonUtils InboxRegistry StatusReport TimerTable

def topicPrefix : Bytes := bytes "/officeClock/"
def topicLightSensor : Bytes := topicPrefix ++ bytes "light"
def topicDisplayIntensity : Bytes := topicPrefix ++ bytes "display_intensity"
def topicDisplayMode : Bytes := topicPrefix ++ bytes "display_mode"
def topicMotion : Bytes := topicPrefix ++ bytes "motion"
def topicMotionDetected : Bytes := topicPrefix ++ bytes "last_motion"
def topicStatus : Bytes := topicPrefix ++ bytes "status"

/-! The services of the loop. -/

def timerTickServiceMqttLoop : ServiceRef := 0
def timerTickPeriodicReport : ServiceRef := 1
def timerTickReconnectDamper : ServiceRef := 2
def timerTickMotionDamper : ServiceRef := 3

def mqttLoopInterval : Int := 445
def periodicReportInterval : Int := (5 * 60 + 13) * 1000
def reconnectDamperInterval : Int := 7 * 1000
def motionDamperInterval : Int := 10 * 60 * 1000

/-- The service objects: those of the loop, and those of the other threads behind them. -/
def objects (others : ServiceRef → Option (Int × Bool)) : ServiceRef → Option (Int × Bool)
  | 0 => some (mqttLoopInterval, true)
  | 1 => some (periodicReportInterval, true)
  | 2 => some (reconnectDamperInterval, true)
  | 3 => some (motionDamperInterval, false)
  | other + 4 => others other

/-- What the threads share: the inboxes, the timer table and the flags of its services. -/
structure Shared where
  inboxes : Inboxes
  timerTick : TimerTick
  expired : ServiceRef → Bool

/-- `getCookie` -/
def cookieOf (shared : Shared) (ref : ServiceRef) : TimerTickId :=
  ((shared.timerTick.memory ref).map TimerTickService.cookie).getD nullCookie

/-- The flag is exchanged for `false`. -/
def getAndResetExpired (shared : Shared) (ref : ServiceRef) : Bool × Shared :=
  (shared.expired ref, { shared with expired := Function.update shared.expired ref false })

/-- The service of the loop sends it a message if it is ready for one; every other service
sets its flag. -/
def expireTrigger (ready : Bool) (shared : Shared) (ref : ServiceRef) : Shared :=
  if ref = timerTickServiceMqttLoop then
    if ready then
      { shared with inboxes := addMessageTo shared.inboxes .mqttClient Inbox.timerTickMessage }
    else shared
  else { shared with expired := Function.update shared.expired ref true }

def triggerAll (ready : Bool) (shared : Shared) (fired : List ServiceRef) : Shared :=
  fired.foldl (expireTrigger ready) shared

/-- One tick of the timer thread, over the table in the order `order`. -/
def timerTickPass (ready : Bool) (shared : Shared) (order : List TimerTickId) : Shared :=
  let ticked := tick shared.timerTick order
  triggerAll ready { shared with timerTick := ticked.2 } ticked.1

/-- What the loop keeps between its messages. -/
structure MqttClient where
  mqttClientInfo : MqttClientInfo
  publishedMotionOn : Bool
  readyForTimerTickServiceMessage : Bool

/-- The calls of libmosquitto that the loop makes. -/
inductive Call where
  | loop
  | connect
  | publish (topic payload : Bytes) (retain : Bool)
  deriving DecidableEq

/-- What libmosquitto calls back from `mosquitto_loop`. -/
inductive Callback where
  | onConnect (rc : Int)
  | onDisconnect
  | onPublish
  | onMessage

/-- The answers while one message is handled. -/
structure Answers where
  mosquittoLoop : Int32
  callbacks : List Callback
  mosquittoConnect : Int32
  mosquittoPublish : Bytes → Int32
  lightValue : UInt32
  snapshot : StatusSnapshot
  currTimestamp : Bytes

def Callback.run (mqttClientInfo : MqttClientInfo) : Callback → MqttClientInfo
  | .onConnect rc =>
      { mqttClientInfo with
        connects := mqttClientInfo.connects + 1
        mqttBrokerConnected := rc == 0 }
  | .onDisconnect =>
      { mqttClientInfo with
        disconnects := mqttClientInfo.disconnects + 1
        mqttBrokerConnected := false }
  | .onPublish =>
      { mqttClientInfo with publishCallbacks := mqttClientInfo.publishCallbacks + 1 }
  | .onMessage => { mqttClientInfo with messages := mqttClientInfo.messages + 1 }

def mosqErrSuccess : Int32 := 0
def mosqErrNoConn : Int32 := 4

/-- The state while a message is handled, and the calls made so far. -/
structure Turn where
  calls : List Call
  client : MqttClient
  shared : Shared

def Turn.setInfo (turn : Turn) (mqttClientInfo : MqttClientInfo) : Turn :=
  { turn with client := { turn.client with mqttClientInfo := mqttClientInfo } }

/-- The payload is read as a C string. -/
def doPublish (answers : Answers) (turn : Turn) (topic payload : Bytes) (retain : Bool) : Turn :=
  let info := turn.client.mqttClientInfo
  let counted : MqttClientInfo :=
    { info with
      publishesDropped :=
        if answers.mosquittoPublish topic ≠ mosqErrSuccess then info.publishesDropped + 1
        else info.publishesDropped
      publishes := info.publishes + 1 }
  { turn.setInfo counted with calls := turn.calls ++ [.publish topic (cText payload) retain] }

def doPeriodicReport (answers : Answers) (turn : Turn) : Turn :=
  let lightValueBuffer := (decimalInt (int32 answers.lightValue.toNat)).take 5
  let light := doPublish answers turn topicLightSensor lightValueBuffer false
  doPublish answers light topicStatus (renderStatusJson answers.snapshot) false

/-- `mosquitto_loop`, what it calls back, and the count of the ticks. -/
def mosquittoLoop (answers : Answers) (turn : Turn) : Turn :=
  let info := answers.callbacks.foldl Callback.run turn.client.mqttClientInfo
  { turn with
    calls := turn.calls ++ [.loop]
    client := { turn.client with
      mqttClientInfo := { info with ticks := info.ticks + 1 }
      readyForTimerTickServiceMessage := false } }

/-- `mosquitto_connect` and the count of the attempts. -/
def mosquittoConnect (turn : Turn) : Turn :=
  let info := turn.client.mqttClientInfo
  { turn.setInfo { info with connectAttempts := info.connectAttempts + 1 } with
    calls := turn.calls ++ [.connect] }

/-- `getAndResetExpired` in the course of a turn. -/
def takeFlag (turn : Turn) (ref : ServiceRef) : Bool × Turn :=
  let flag := getAndResetExpired turn.shared ref
  (flag.1, { turn with shared := flag.2 })

/-- The flag of the report is asked for after a loop that succeeded. -/
def reportDue (answers : Answers) (turn : Turn) : Bool × Turn :=
  if answers.mosquittoLoop = mosqErrSuccess then takeFlag turn timerTickPeriodicReport
  else (false, turn)

/-- The flag of the damper is asked for without a connection. The result of the last call
goes with what is left. -/
def reconnect (answers : Answers) (turn : Turn) : Int32 × Turn :=
  if answers.mosquittoLoop = mosqErrNoConn ∨
      turn.client.mqttClientInfo.mqttBrokerConnected = false then
    let damper := takeFlag turn timerTickReconnectDamper
    if damper.1 then (answers.mosquittoConnect, mosquittoConnect damper.2)
    else (answers.mosquittoLoop, damper.2)
  else (answers.mosquittoLoop, turn)

/-- The message of the service of the loop. -/
def handleTimerTickMessage (answers : Answers) (turn : Turn) : Turn :=
  let report := reportDue answers (mosquittoLoop answers turn)
  let handled : Int32 × Turn :=
    if report.1 then (answers.mosquittoLoop, doPeriodicReport answers report.2)
    else reconnect answers report.2
  handled.2.setInfo { handled.2.client.mqttClientInfo with lastLoopRc := handled.1 }

def handleMotionOff (answers : Answers) (turn : Turn) : Turn :=
  if turn.client.publishedMotionOn then
    let off := doPublish answers turn topicMotion (bytes "off") true
    { off with client := { off.client with publishedMotionOn := false } }
  else turn

/-- Both publications of a motion, after which the damper starts again. -/
def publishMotionOn (answers : Answers) (turn : Turn) : Turn :=
  let on := doPublish answers turn topicMotion (bytes "on") true
  let flagged : Turn := { on with client := { on.client with publishedMotionOn := true } }
  let detected := doPublish answers flagged topicMotionDetected answers.currTimestamp true
  let started := startTimerTickService detected.shared.timerTick
    (cookieOf detected.shared timerTickMotionDamper)
  let info := detected.client.mqttClientInfo
  { detected.setInfo { info with publishedMotions := info.publishedMotions + 1 } with
    shared := { detected.shared with timerTick := started.2 } }

def handleMotionOn (answers : Answers) (turn : Turn) : Turn :=
  let damper := takeFlag turn timerTickMotionDamper
  if damper.1 then publishMotionOn answers damper.2 else damper.2

/-- The `switch` of the loop; nothing when the loop is left. -/
def handle (answers : Answers) (turn : Turn) : InboxMsgType → Option Turn
  | .terminate => none
  | .timerTickMessage => some (handleTimerTickMessage answers turn)
  | .motionOff => some (handleMotionOff answers turn)
  | .motionOn => some (handleMotionOn answers turn)
  | .displayBrightHigh =>
      some (doPublish answers turn topicDisplayIntensity (bytes "high") true)
  | .displayBrightLow => some (doPublish answers turn topicDisplayIntensity (bytes "low") true)
  | .displayModeNothing => some (doPublish answers turn topicDisplayMode (bytes "screen_saver") true)
  | .displayModeBasicClock => some (doPublish answers turn topicDisplayMode (bytes "clock") true)
  | .displayModeMessage => some (doPublish answers turn topicDisplayMode (bytes "message") true)
  | .noop => some turn

/-- Before it waits for the next message the loop is ready for a timer message again. -/
def Turn.ready (turn : Turn) : Turn :=
  { turn with client := { turn.client with readyForTimerTickServiceMessage := true } }

/-- One turn of the loop, if there is a message and it does not end the loop. -/
def loopTurn (answers : Answers) (client : MqttClient) (shared : Shared) :
    Option (InboxMsg × Turn) :=
  match (shared.inboxes .mqttClient).bind Inbox.waitForMessage with
  | none => none
  | some (msg, inbox) =>
      let received := { shared with inboxes := shared.inboxes.write .mqttClient inbox }
      (handle answers ⟨[], client, received⟩ msg.inboxMsgType).map fun handled =>
        (msg, handled.ready)

/-- What is published on a topic, in order. -/
def Call.payloadOn (topic : Bytes) : Call → Option Bytes
  | .publish target payload _ => if target = topic then some payload else none
  | _ => none

def payloadsOn (topic : Bytes) (calls : List Call) : List Bytes :=
  calls.filterMap (Call.payloadOn topic)

@[simp] theorem payloadsOn_append (topic : Bytes) (before after : List Call) :
    payloadsOn topic (before ++ after) = payloadsOn topic before ++ payloadsOn topic after :=
  List.filterMap_append ..

theorem doPublish_payloads (answers : Answers) (turn : Turn) (topic target payload : Bytes)
    (retain : Bool) : payloadsOn topic (doPublish answers turn target payload retain).calls =
      payloadsOn topic turn.calls ++ if target = topic then [cText payload] else [] := by
  unfold doPublish
  rw [payloadsOn_append]
  by_cases hit : target = topic <;> simp [payloadsOn, Call.payloadOn, hit]

/-! What a message makes the loop do. -/

/-- What a message of the display is published as. -/
def displayPublication : InboxMsgType → Option (Bytes × Bytes)
  | .displayBrightHigh => some (topicDisplayIntensity, bytes "high")
  | .displayBrightLow => some (topicDisplayIntensity, bytes "low")
  | .displayModeNothing => some (topicDisplayMode, bytes "screen_saver")
  | .displayModeBasicClock => some (topicDisplayMode, bytes "clock")
  | .displayModeMessage => some (topicDisplayMode, bytes "message")
  | _ => none

def payloadFor (topic : Bytes) (inboxMsgType : InboxMsgType) : Option Bytes :=
  (displayPublication inboxMsgType).bind fun told => if told.1 = topic then some told.2 else none

/-- What every part of the handling of a timer message keeps, the whole of it keeps. -/
theorem handleTimerTickMessage_keeps (answers : Answers) (keeps : Turn → Prop)
    (loop : ∀ turn, keeps turn → keeps (mosquittoLoop answers turn))
    (connect : ∀ turn, keeps turn → keeps (mosquittoConnect turn))
    (flag : ∀ turn, ∀ ref, ref = timerTickPeriodicReport ∨ ref = timerTickReconnectDamper →
      keeps turn → keeps (takeFlag turn ref).2)
    (publish : ∀ turn topic payload, topic = topicLightSensor ∨ topic = topicStatus →
      keeps turn → keeps (doPublish answers turn topic payload false))
    (rc : ∀ turn lastLoopRc, keeps turn → keeps (turn.setInfo
      { turn.client.mqttClientInfo with lastLoopRc := lastLoopRc }))
    {turn : Turn} (start : keeps turn) : keeps (handleTimerTickMessage answers turn) := by
  have asked : keeps (reportDue answers (mosquittoLoop answers turn)).2 := by
    unfold reportDue
    split
    · exact flag _ _ (Or.inl rfl) (loop turn start)
    · exact loop turn start
  have connected : keeps (reconnect answers (reportDue answers (mosquittoLoop answers turn)).2).2 := by
    have damped := flag _ timerTickReconnectDamper (Or.inr rfl) asked
    unfold reconnect
    split
    · dsimp only
      split
      · exact connect _ damped
      · exact damped
    · exact asked
  unfold handleTimerTickMessage
  apply rc _ _
  split
  · exact publish _ _ _ (Or.inr rfl) (publish _ _ _ (Or.inl rfl) asked)
  · exact connected

/-- The calls of a timer message are on the two topics of the report. -/
theorem handleTimerTickMessage_payloads (answers : Answers) (turn : Turn) {topic : Bytes}
    (light : topicLightSensor ≠ topic) (status : topicStatus ≠ topic) :
    payloadsOn topic (handleTimerTickMessage answers turn).calls = payloadsOn topic turn.calls := by
  refine handleTimerTickMessage_keeps answers
    (fun next => payloadsOn topic next.calls = payloadsOn topic turn.calls) ?_ ?_ ?_ ?_ ?_ rfl
  · intro next same
    rw [← same, mosquittoLoop, payloadsOn_append]
    exact List.append_nil _
  · intro next same
    rw [← same, mosquittoConnect, payloadsOn_append]
    exact List.append_nil _
  · exact fun next ref _ same => same
  · rintro next other payload (rfl | rfl) same
    · rw [doPublish_payloads, if_neg light, List.append_nil, same]
    · rw [doPublish_payloads, if_neg status, List.append_nil, same]
  · exact fun next _ same => same

theorem publishMotionOn_payloads (answers : Answers) (turn : Turn) (topic : Bytes) :
    payloadsOn topic (publishMotionOn answers turn).calls =
      payloadsOn topic turn.calls ++ (if topicMotion = topic then [bytes "on"] else []) ++
        if topicMotionDetected = topic then [cText answers.currTimestamp] else [] := by
  apply (doPublish_payloads answers _ topic topicMotionDetected answers.currTimestamp true).trans
  congr 1
  exact doPublish_payloads answers turn topic topicMotion (bytes "on") true

/-- A topic of the display hears of the messages of the display and of nothing else. -/
theorem handle_payloads {answers : Answers} {turn next : Turn} {inboxMsgType : InboxMsgType}
    {topic : Bytes} (ours : topic = topicDisplayMode ∨ topic = topicDisplayIntensity)
    (handled : handle answers turn inboxMsgType = some next) :
    payloadsOn topic next.calls =
      payloadsOn topic turn.calls ++ (payloadFor topic inboxMsgType).toList := by
  have apart : topicLightSensor ≠ topic ∧ topicStatus ≠ topic ∧ topicMotion ≠ topic ∧
      topicMotionDetected ≠ topic := by
    rcases ours with rfl | rfl <;> decide
  obtain ⟨light, status, motion, detected⟩ := apart
  cases inboxMsgType <;> cases handled
  case timerTickMessage =>
    rw [handleTimerTickMessage_payloads answers turn light status]
    exact (List.append_nil _).symm
  case motionOn =>
    unfold handleMotionOn
    dsimp only
    split
    · rw [publishMotionOn_payloads, if_neg motion, if_neg detected]
      exact List.append_nil _
    · exact (List.append_nil _).symm
  case motionOff =>
    unfold handleMotionOff
    split
    · exact (doPublish_payloads answers turn topic topicMotion (bytes "off") true).trans
        (by rw [if_neg motion]; rfl)
    · exact (List.append_nil _).symm
  case noop => exact (List.append_nil _).symm
  all_goals
    rw [doPublish_payloads]
    congr 1
    simp only [payloadFor, displayPublication, Option.bind_some]
    split <;> rfl

/-- No message is put anywhere while one is handled. -/
theorem handle_inboxes {answers : Answers} {turn next : Turn} {inboxMsgType : InboxMsgType}
    (handled : handle answers turn inboxMsgType = some next) :
    next.shared.inboxes = turn.shared.inboxes := by
  cases inboxMsgType <;> cases handled
  case timerTickMessage =>
    exact handleTimerTickMessage_keeps answers
      (fun next => next.shared.inboxes = turn.shared.inboxes) (fun _ same => same)
      (fun _ same => same) (fun _ _ _ same => same) (fun _ _ _ _ same => same)
      (fun _ _ same => same) rfl
  case motionOn =>
    unfold handleMotionOn
    dsimp only
    split <;> rfl
  case motionOff =>
    unfold handleMotionOff
    split <;> rfl
  all_goals rfl

/-! A turn of the loop, and a tick of the timer thread. -/

/-- A turn takes the first message of the inbox and handles it. -/
theorem loopTurn_cases {answers : Answers} {client : MqttClient} {shared : Shared}
    {msg : InboxMsg} {turn : Turn} (runs : loopTurn answers client shared = some (msg, turn)) :
    ∃ after handled, handle answers ⟨[], client, { shared with inboxes := after }⟩
        msg.inboxMsgType = some handled ∧ turn = handled.ready ∧
      queue shared.inboxes .mqttClient = msg :: queue after .mqttClient ∧
      (after .mqttClient).isSome = true := by
  unfold loopTurn at runs
  split at runs
  · cases runs
  · next taken inbox ready =>
      obtain ⟨before, present, waits⟩ := Option.bind_eq_some_iff.mp ready
      obtain ⟨handled, done, same⟩ := Option.map_eq_some_iff.mp runs
      cases same
      refine ⟨_, handled, done, rfl, ?_, ?_⟩
      · rw [queue_taken present (waitForMessage_takes waits).1 .mqttClient, if_pos rfl]
        rfl
      · rw [InboxRegistry.write_same]
        rfl

/-- The answers of a library whose calls succeed, and which calls nothing back. -/
def smooth : Answers where
  mosquittoLoop := mosqErrSuccess
  callbacks := []
  mosquittoConnect := mosqErrSuccess
  mosquittoPublish _ := mosqErrSuccess
  lightValue := 0
  snapshot := default
  currTimestamp := []

/-- A message that does not end the loop can be handled. -/
theorem loopTurn_runs {client : MqttClient} {shared : Shared} {msg : InboxMsg}
    {rest : List InboxMsg} (queued : queue shared.inboxes .mqttClient = msg :: rest)
    (goes : msg.inboxMsgType ≠ .terminate) :
    ∃ turn, loopTurn smooth client shared = some (msg, turn) ∧
      queue turn.shared.inboxes .mqttClient = rest := by
  obtain ⟨inbox, present⟩ : ∃ inbox, shared.inboxes .mqttClient = some inbox := by
    cases present : shared.inboxes .mqttClient with
    | none => simp [queue, present] at queued
    | some inbox => exact ⟨inbox, rfl⟩
  rw [queue_of_some present] at queued
  have waits : inbox.waitForMessage = some (msg, ⟨rest, inbox.msgCount - 1⟩) := by
    simp only [Inbox.waitForMessage, queued]
  obtain ⟨handled, done⟩ : ∃ handled, handle smooth ⟨[], client, { shared with
      inboxes := shared.inboxes.write .mqttClient ⟨rest, inbox.msgCount - 1⟩ }⟩
      msg.inboxMsgType = some handled := by
    cases kind : msg.inboxMsgType
    case terminate => exact absurd kind goes
    all_goals exact ⟨_, rfl⟩
  refine ⟨handled.ready, ?_, ?_⟩
  · simp only [loopTurn, present, Option.bind_some, waits, done, Option.map_some]
  · exact (congrArg (fun inboxes => queue inboxes .mqttClient) (handle_inboxes done)).trans
      (queue_of_some (InboxRegistry.write_same ..))

theorem expireTrigger_queue (ready : Bool) (shared : Shared) (ref : ServiceRef)
    (present : (shared.inboxes .mqttClient).isSome = true) :
    queue (expireTrigger ready shared ref).inboxes .mqttClient =
        queue shared.inboxes .mqttClient ++
          List.replicate (if ready then [ref].count timerTickServiceMqttLoop else 0)
            Inbox.timerTickMessage ∧
      ((expireTrigger ready shared ref).inboxes .mqttClient).isSome = true := by
  unfold expireTrigger
  by_cases loop : ref = timerTickServiceMqttLoop
  · cases ready with
    | true =>
        simp only [if_true, loop, List.count_singleton_self]
        constructor
        · rw [queue_addMessageTo present, if_pos rfl]
          rfl
        · rw [addMessageTo_isSome]
          exact present
    | false => simpa [loop] using present
  · simpa [loop] using present

/-- Services that expire put timer messages into the inbox of the loop, and nothing else: one
for each time that the service of the loop is triggered, if the loop is ready. -/
theorem triggerAll_queue (ready : Bool) (shared : Shared) (fired : List ServiceRef)
    (present : (shared.inboxes .mqttClient).isSome = true) :
    queue (triggerAll ready shared fired).inboxes .mqttClient =
        queue shared.inboxes .mqttClient ++
          List.replicate (if ready then fired.count timerTickServiceMqttLoop else 0)
            Inbox.timerTickMessage ∧
      ((triggerAll ready shared fired).inboxes .mqttClient).isSome = true := by
  induction fired generalizing shared with
  | nil => exact ⟨by simp [triggerAll], present⟩
  | cons ref rest ih =>
      obtain ⟨queued, kept⟩ := expireTrigger_queue ready shared ref present
      obtain ⟨later, stays⟩ := ih (expireTrigger ready shared ref) kept
      refine ⟨?_, stays⟩
      have both : (ref :: rest).count timerTickServiceMqttLoop =
          [ref].count timerTickServiceMqttLoop + rest.count timerTickServiceMqttLoop := by
        rw [← List.count_append, List.singleton_append]
      rw [triggerAll, List.foldl_cons, ← triggerAll, later, queued, List.append_assoc,
        List.replicate_append_replicate, both]
      cases ready <;> rfl

theorem expireTrigger_table (ready : Bool) (shared : Shared) (ref : ServiceRef) :
    (expireTrigger ready shared ref).timerTick = shared.timerTick := by
  unfold expireTrigger
  split
  · split <;> rfl
  · rfl

theorem triggerAll_table (ready : Bool) (shared : Shared) (fired : List ServiceRef) :
    (triggerAll ready shared fired).timerTick = shared.timerTick := by
  induction fired generalizing shared with
  | nil => rfl
  | cons ref rest ih =>
      rw [triggerAll, List.foldl_cons, ← triggerAll, ih, expireTrigger_table]

theorem triggerAll_expired (ready : Bool) (shared : Shared) (fired : List ServiceRef)
    {ref : ServiceRef} (other : ref ≠ timerTickServiceMqttLoop) :
    (triggerAll ready shared fired).expired ref = (shared.expired ref || decide (ref ∈ fired)) := by
  induction fired generalizing shared with
  | nil => simp [triggerAll]
  | cons fires rest ih =>
      rw [triggerAll, List.foldl_cons, ← triggerAll, ih]
      unfold expireTrigger
      by_cases loop : fires = timerTickServiceMqttLoop
      · have apart : ref ≠ fires := loop ▸ other
        rw [if_pos loop]
        split <;> simp [apart]
      · rw [if_neg loop]
        by_cases hit : ref = fires <;> simp [hit]

theorem timerTickPass_messages (ready : Bool) (shared : Shared) (order : List TimerTickId)
    (present : (shared.inboxes .mqttClient).isSome = true) :
    queue (timerTickPass ready shared order).inboxes .mqttClient =
        queue shared.inboxes .mqttClient ++ List.replicate
          (if ready then (tick shared.timerTick order).1.count timerTickServiceMqttLoop else 0)
          Inbox.timerTickMessage ∧
      ((timerTickPass ready shared order).inboxes .mqttClient).isSome = true :=
  triggerAll_queue ready _ _ present

/-- A tick puts timer messages into the inbox of the loop, and nothing else. -/
theorem timerTickPass_queue (ready : Bool) (shared : Shared) (order : List TimerTickId)
    (present : (shared.inboxes .mqttClient).isSome = true) :
    ∃ k, queue (timerTickPass ready shared order).inboxes .mqttClient =
        queue shared.inboxes .mqttClient ++ List.replicate k Inbox.timerTickMessage ∧
      ((timerTickPass ready shared order).inboxes .mqttClient).isSome = true :=
  ⟨_, timerTickPass_messages ready shared order present⟩

theorem timerTickPass_table (ready : Bool) (shared : Shared) (order : List TimerTickId) :
    (timerTickPass ready shared order).timerTick = (tick shared.timerTick order).2 :=
  triggerAll_table ready _ _

/-- A tick sets the flags of the services whose time has come. -/
theorem timerTickPass_expired (ready : Bool) (shared : Shared) (order : List TimerTickId)
    {ref : ServiceRef} (other : ref ≠ timerTickServiceMqttLoop) :
    (timerTickPass ready shared order).expired ref =
      (shared.expired ref || decide (ref ∈ (tick shared.timerTick order).1)) :=
  triggerAll_expired ready _ _ other

end OClock.MqttLoop
