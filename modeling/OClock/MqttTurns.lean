import OClock.MqttThreads

/-!
The two threads alone. A turn of the MQTT thread that nothing interrupts is a turn of the
loop, and a pass of the timer thread that nothing interrupts is a tick of the table.
-/

namespace OClock.MqttTurns
open Text CommonUtils InboxRegistry TimerTable MqttLoop LabelledRun MqttThreads

/-- The world at a point of a turn, the timer asleep. -/
def at_ (turn : Turn) (mqtt : MqttAt) : World := ⟨turn.client, turn.shared, mqtt, .sleeping⟩

/-- The thread can go from one point of a turn to another by itself. -/
def Goes (before : Turn) (mqtt : MqttAt) (after : Turn) (next : MqttAt) : Prop :=
  ∃ history, Run Step (at_ before mqtt) history (at_ after next) ∧
    after.calls = before.calls ++ calls history ∧ ticks history = 0

theorem Goes.refl (turn : Turn) (mqtt : MqttAt) : Goes turn mqtt turn mqtt :=
  ⟨[], .start, (List.append_nil _).symm, rfl⟩

theorem Goes.trans {first second third : Turn} {mqtt next last : MqttAt}
    (left : Goes first mqtt second next) (right : Goes second next third last) :
    Goes first mqtt third last := by
  obtain ⟨before, goes, log, none⟩ := left
  obtain ⟨after, further, log', none'⟩ := right
  refine ⟨before ++ after, goes.append further, ?_, ?_⟩
  · rw [log', log, calls_append, List.append_assoc]
  · rw [ticks_append, none, none']

theorem goes_one {before after : Turn} {mqtt next : MqttAt} {event : Event}
    (step : Step (at_ before mqtt) event (at_ after next))
    (log : after.calls = before.calls ++ event.call.toList) (silent : event ≠ .tick) :
    Goes before mqtt after next := by
  refine ⟨[event], .one step, ?_, ?_⟩
  · rw [log, calls, List.filterMap_cons]
    cases event.call <;> rfl
  · exact List.count_singleton.trans (if_neg (by simpa using silent))

/-- A step that makes no call of its own. -/
theorem goes_silent {before after : Turn} {mqtt next : MqttAt}
    (step : Step (at_ before mqtt) .ran (at_ after next)) (log : after.calls = before.calls) :
    Goes before mqtt after next :=
  goes_one step (log.trans (List.append_nil _).symm) nofun

def perform (answers : Answers) (turn : Turn) : Action → Turn
  | .publish topic payload retain => doPublish answers turn topic payload retain
  | action => ⟨turn.calls, (action.act turn.client turn.shared).1,
      (action.act turn.client turn.shared).2⟩

theorem goes_publish (answers : Answers) (turn : Turn) (topic payload : Bytes) (retain : Bool)
    (rest : List Action) :
    Goes turn (.doing (.publish topic payload retain :: rest))
      (doPublish answers turn topic payload retain) (.doing rest) := by
  have begins : Goes turn (.doing (.publish topic payload retain :: rest))
      ⟨turn.calls ++ [.publish topic (cText payload) retain], turn.client, turn.shared⟩
      (.publishing rest) := goes_one (.publish rfl) rfl nofun
  exact begins.trans (goes_silent (.publishReturns rfl (answers.mosquittoPublish topic)) rfl)

theorem goes_actions (answers : Answers) (actions : List Action) (turn : Turn) :
    Goes turn (.doing actions) (actions.foldl (perform answers) turn) (.doing []) := by
  induction actions generalizing turn with
  | nil => exact .refl turn _
  | cons action rest ih =>
      refine Goes.trans ?_ (ih (perform answers turn action))
      cases action with
      | publish topic payload retain => exact goes_publish answers turn topic payload retain rest
      | _ => exact goes_silent (.act rfl rfl fun _ => rfl) rfl

theorem goes_callbacks (callbacks : List Callback) {turn : Turn} {mqtt : MqttAt}
    (inside : mqtt.inCall = true) :
    Goes turn mqtt (turn.setInfo (callbacks.foldl Callback.run turn.client.mqttClientInfo))
      mqtt := by
  induction callbacks generalizing turn with
  | nil => exact .refl turn _
  | cons callback rest ih =>
      have first : Goes turn mqtt (turn.setInfo (callback.run turn.client.mqttClientInfo)) mqtt :=
        goes_silent (.callback inside callback) rfl
      exact first.trans ih

theorem goes_loop (answers : Answers) (turn : Turn) :
    Goes turn (.received .timerTickMessage) (mosquittoLoop answers turn)
      (.counted answers.mosquittoLoop) := by
  have lowers : Goes turn (.received .timerTickMessage)
      { turn with client := setReady turn.client false } .lowered :=
    goes_silent (.lower rfl) rfl
  have begins : Goes { turn with client := setReady turn.client false } .lowered
      ⟨turn.calls ++ [.loop], setReady turn.client false, turn.shared⟩ .looping :=
    goes_one (.loop rfl) rfl nofun
  have called := (lowers.trans begins).trans (goes_callbacks answers.callbacks rfl)
  have returns := called.trans (goes_silent (.loopReturns rfl answers.mosquittoLoop) rfl)
  exact returns.trans (goes_silent (.countTick rfl) rfl)

def storeRc (turn : Turn) (rc : Int32) : Turn :=
  turn.setInfo { turn.client.mqttClientInfo with lastLoopRc := rc }

theorem goes_storeRc (turn : Turn) (rc : Int32) :
    Goes turn (.doing [.storeRc rc]) (storeRc turn rc) (.doing []) := by
  have stores := @Step.act (at_ turn (.doing [.storeRc rc])) (.storeRc rc) [] rfl rfl nofun
  exact goes_silent stores rfl

theorem goes_connect (answers : Answers) (turn : Turn) :
    Goes turn .connecting (storeRc (mosquittoConnect turn) answers.mosquittoConnect)
      (.doing []) := by
  let called : Turn := ⟨turn.calls ++ [.connect], turn.client, turn.shared⟩
  have begins : Goes turn .connecting called .inConnect := goes_one (.connect rfl) rfl nofun
  have returns : Goes called .inConnect called (.attempted answers.mosquittoConnect) :=
    goes_silent (.connectReturns rfl answers.mosquittoConnect) rfl
  have counts : Goes called (.attempted answers.mosquittoConnect) (mosquittoConnect turn)
      (.doing [.storeRc answers.mosquittoConnect]) := goes_silent (.countAttempt rfl) rfl
  exact ((begins.trans returns).trans counts).trans (goes_storeRc ..)

theorem goes_reconnect (answers : Answers) (turn : Turn) :
    Goes turn (.unreported answers.mosquittoLoop)
      (storeRc (reconnect answers turn).2 (reconnect answers turn).1) (.doing []) := by
  unfold reconnect
  split
  · next lost =>
      have missed : Goes turn (.unreported answers.mosquittoLoop) turn
          (.unconnected answers.mosquittoLoop) := goes_silent (.missed rfl lost) rfl
      have asks : Goes turn (.unconnected answers.mosquittoLoop)
          (takeFlag turn timerTickReconnectDamper).2
          (if turn.shared.expired timerTickReconnectDamper then .connecting
            else .doing [.storeRc answers.mosquittoLoop]) :=
        goes_one (.askDamper rfl) (List.append_nil _).symm nofun
      apply (missed.trans asks).trans
      cases up : turn.shared.expired timerTickReconnectDamper with
      | true =>
          simp only [takeFlag, getAndResetExpired, up]
          exact goes_connect answers _
      | false =>
          simp only [takeFlag, getAndResetExpired, up]
          exact goes_storeRc ..
  · next held =>
      have connected : Goes turn (.unreported answers.mosquittoLoop) turn
          (.doing [.storeRc answers.mosquittoLoop]) := goes_silent (.connected rfl held) rfl
      exact connected.trans (goes_storeRc ..)

theorem goes_timerTick (answers : Answers) (turn : Turn) :
    Goes turn (.received .timerTickMessage) (handleTimerTickMessage answers turn)
      (.doing []) := by
  apply (goes_loop answers turn).trans
  unfold handleTimerTickMessage
  generalize mosquittoLoop answers turn = looped
  unfold reportDue
  split
  · next success =>
      have asks : Goes looped (.counted answers.mosquittoLoop)
          (takeFlag looped timerTickPeriodicReport).2
          (if looped.shared.expired timerTickPeriodicReport then
            .doing (reportActions answers answers.mosquittoLoop)
          else .unreported answers.mosquittoLoop) :=
        goes_one (.askReport rfl success answers) (List.append_nil _).symm nofun
      apply asks.trans
      cases up : looped.shared.expired timerTickPeriodicReport with
      | true =>
          simp only [takeFlag, getAndResetExpired, up]
          exact goes_actions answers (reportActions answers answers.mosquittoLoop) _
      | false =>
          simp only [takeFlag, getAndResetExpired, up]
          exact goes_reconnect answers _
  · next failed =>
      have skips : Goes looped (.counted answers.mosquittoLoop) looped
          (.unreported answers.mosquittoLoop) := goes_silent (.skipReport rfl failed) rfl
      exact skips.trans (goes_reconnect answers looped)

theorem goes_motionOff (answers : Answers) (turn : Turn) :
    Goes turn (.received .motionOff) (handleMotionOff answers turn) (.doing []) := by
  have chooses : Goes turn (.received .motionOff) turn (.doing (motionOffActions turn.client)) :=
    goes_silent (.motionOff rfl) rfl
  apply chooses.trans
  unfold handleMotionOff motionOffActions
  split
  · exact goes_actions answers _ turn
  · exact .refl turn _

theorem goes_motionOn (answers : Answers) (turn : Turn) :
    Goes turn (.received .motionOn) (handleMotionOn answers turn) (.doing []) := by
  have asks : Goes turn (.received .motionOn) (takeFlag turn timerTickMotionDamper).2
      (.doing (motionOnActions (turn.shared.expired timerTickMotionDamper)
        answers.currTimestamp)) :=
    goes_one (.motionOn rfl answers.currTimestamp) (List.append_nil _).symm nofun
  apply asks.trans
  unfold handleMotionOn motionOnActions
  cases up : turn.shared.expired timerTickMotionDamper with
  | true =>
      simp only [takeFlag, getAndResetExpired, up]
      exact goes_actions answers _ _
  | false =>
      simp only [takeFlag, getAndResetExpired, up]
      exact .refl _ _

theorem goes_display (answers : Answers) (turn : Turn) {inboxMsgType : InboxMsgType}
    {topic payload : Bytes} (told : displayPublication inboxMsgType = some (topic, payload)) :
    Goes turn (.received inboxMsgType) (doPublish answers turn topic payload true)
      (.doing []) := by
  have chooses : Goes turn (.received inboxMsgType) turn (.doing [.publish topic payload true]) :=
    goes_silent (.display rfl told) rfl
  exact chooses.trans (goes_publish answers turn topic payload true [])

theorem goes_handle {answers : Answers} {turn next : Turn} {inboxMsgType : InboxMsgType}
    (handled : handle answers turn inboxMsgType = some next) :
    Goes turn (.received inboxMsgType) next (.doing []) := by
  cases inboxMsgType <;> cases handled
  case timerTickMessage => exact goes_timerTick answers turn
  case motionOff => exact goes_motionOff answers turn
  case motionOn => exact goes_motionOn answers turn
  case noop => exact goes_silent (.noop rfl) rfl
  all_goals exact goes_display answers turn rfl

/-- Uninterrupted, the thread does what a turn of the loop does. -/
theorem goes_turn {answers : Answers} {client : MqttClient} {shared : Shared} {msg : InboxMsg}
    {turn : Turn} (runs : loopTurn answers client shared = some (msg, turn)) :
    Goes ⟨[], client, shared⟩ .waiting turn .waiting := by
  unfold loopTurn at runs
  split at runs
  · cases runs
  · next taken inbox ready =>
      obtain ⟨handled, done, same⟩ := Option.map_eq_some_iff.mp runs
      cases same
      have receives : Goes ⟨[], client, shared⟩ .waiting
          ⟨[], client, { shared with inboxes := shared.inboxes.write .mqttClient inbox }⟩
          (.received msg.inboxMsgType) := goes_one (.receive rfl ready) rfl nofun
      have ends : Goes handled (.doing []) handled .raising := goes_silent (.handled rfl) rfl
      exact ((receives.trans (goes_handle done)).trans ends).trans (goes_silent (.raise rfl) rfl)

/-! A pass of the timer thread that nothing interrupts. -/

/-- What has expired before does not matter to the entries that follow. -/
theorem tickEntry_fired (state : List ServiceRef × TimerTick) (cookie : TimerTickId) :
    tickEntry state cookie =
      (state.1 ++ (tickEntry ([], state.2) cookie).1, (tickEntry ([], state.2) cookie).2) := by
  unfold tickEntry
  dsimp only
  split
  · simp
  · split
    · simp
    · split <;> simp

theorem fold_fired (order : List TimerTickId) (state : List ServiceRef × TimerTick) :
    order.foldl tickEntry state =
      (state.1 ++ (tick state.2 order).1, (tick state.2 order).2) := by
  induction order generalizing state with
  | nil => simp [tick]
  | cons cookie rest ih =>
      have later : tick state.2 (cookie :: rest) =
          rest.foldl tickEntry (tickEntry ([], state.2) cookie) := rfl
      rw [List.foldl_cons, later, ih, ih, tickEntry_fired state]
      simp only [List.append_assoc]

/-- The table and what its services trigger do not meet. -/
theorem expireTrigger_passes (ready : Bool) (shared : Shared) (ref : ServiceRef)
    (timerTick : TimerTick) :
    { expireTrigger ready shared ref with timerTick := timerTick } =
      expireTrigger ready { shared with timerTick := timerTick } ref := by
  unfold expireTrigger
  split
  · split <;> rfl
  · rfl

theorem triggerAll_passes (ready : Bool) (shared : Shared) (fired : List ServiceRef)
    (timerTick : TimerTick) :
    { triggerAll ready shared fired with timerTick := timerTick } =
      triggerAll ready { shared with timerTick := timerTick } fired := by
  induction fired generalizing shared with
  | nil => rfl
  | cons ref rest ih =>
      rw [triggerAll, List.foldl_cons, ← triggerAll, ih, expireTrigger_passes]
      rfl

theorem tickEntry_one (timerTick : TimerTick) (cookie : TimerTickId) :
    (tickEntry ([], timerTick) cookie).1.length ≤ 1 := by
  unfold tickEntry
  dsimp only
  split
  · exact Nat.zero_le _
  · split
    · exact Nat.zero_le _
    · split <;> simp

theorem timerTickPass_cons (ready : Bool) (shared : Shared) (cookie : TimerTickId)
    (rest : List TimerTickId) :
    timerTickPass ready shared (cookie :: rest) =
      timerTickPass ready
        (triggerAll ready { shared with timerTick := (tickEntry ([], shared.timerTick) cookie).2 }
          (tickEntry ([], shared.timerTick) cookie).1) rest := by
  have whole : tick shared.timerTick (cookie :: rest) =
      rest.foldl tickEntry (tickEntry ([], shared.timerTick) cookie) := rfl
  unfold timerTickPass
  dsimp only
  rw [whole, fold_fired, triggerAll_table]
  generalize tickEntry ([], shared.timerTick) cookie = first
  generalize tick first.2 rest = second
  dsimp only
  rw [triggerAll, List.foldl_append, ← triggerAll, ← triggerAll]
  exact congrArg (triggerAll ready · second.1)
    (triggerAll_passes ready { shared with timerTick := first.2 } first.1 second.2).symm

theorem goes_trigger (client : MqttClient) (shared : Shared) (mqtt : MqttAt) (ref : ServiceRef)
    (rest : List TimerTickId) : ∃ history,
    Run Step ⟨client, shared, mqtt, .triggering ref rest⟩ history
      ⟨client, expireTrigger client.readyForTimerTickServiceMessage shared ref, mqtt,
        .passing rest⟩ ∧ history.all Event.ofTimer = true ∧ ticks history = 0 := by
  unfold expireTrigger
  split
  · next loop =>
      subst loop
      have tests := @Step.test
        ⟨client, shared, mqtt, .triggering timerTickServiceMqttLoop rest⟩ rest rfl
      cases ready : client.readyForTimerTickServiceMessage with
      | true =>
          simp only [ready, if_true] at tests ⊢
          exact ⟨_, (Run.one tests).step (.queue rfl), rfl, rfl⟩
      | false =>
          simp only [ready, Bool.false_eq_true, if_false] at tests ⊢
          exact ⟨_, .one tests, rfl, rfl⟩
  · next other => exact ⟨_, .one (.setExpired rfl other), rfl, rfl⟩

theorem goes_entries (client : MqttClient) (mqtt : MqttAt) (order : List TimerTickId)
    (shared : Shared) : ∃ history,
    Run Step ⟨client, shared, mqtt, .passing order⟩ history
      ⟨client, timerTickPass client.readyForTimerTickServiceMessage shared order, mqtt,
        .passing []⟩ ∧ history.all Event.ofTimer = true ∧ ticks history = 0 := by
  induction order generalizing shared with
  | nil => exact ⟨[], .start, rfl, rfl⟩
  | cons cookie rest ih =>
      rw [timerTickPass_cons]
      have entry := @Step.entry ⟨client, shared, mqtt, .passing (cookie :: rest)⟩ cookie rest rfl
      obtain ⟨fired, atMost⟩ : ∃ fired, (tickEntry ([], shared.timerTick) cookie).1 = fired ∧
          fired.length ≤ 1 := ⟨_, rfl, tickEntry_one shared.timerTick cookie⟩
      simp only [atMost.1] at entry ⊢
      match fired, atMost.2 with
      | [], _ =>
          obtain ⟨history, run, none, silent⟩ := ih _
          exact ⟨_, (Run.one entry).append run, none, silent⟩
      | [ref], _ =>
          obtain ⟨before, triggers, quiet, still⟩ := goes_trigger client _ mqtt ref rest
          obtain ⟨history, run, none, silent⟩ := ih _
          refine ⟨_, ((Run.one entry).append triggers).append run, ?_, ?_⟩
          · rw [List.all_append, List.all_append, quiet, none]
            rfl
          · rw [ticks_append, ticks_append, still, silent]
            rfl

/-- Uninterrupted, the timer thread ticks as the table does. -/
theorem goes_pass (client : MqttClient) (mqtt : MqttAt) {shared : Shared}
    {order : List TimerTickId} (iterates : TimerTable.Iterates shared.timerTick order) :
    ∃ history, Run Step ⟨client, shared, mqtt, .sleeping⟩ history
      ⟨client, timerTickPass client.readyForTimerTickServiceMessage shared order, mqtt,
        .sleeping⟩ ∧ history.all Event.ofTimer = true ∧ ticks history = 1 := by
  obtain ⟨history, run, none, silent⟩ := goes_entries client mqtt order shared
  refine ⟨_, ((Run.one (.tick rfl iterates)).append run).step (.passed rfl), ?_, ?_⟩
  · rw [List.all_append, List.all_append, none]
    rfl
  · rw [ticks_append, ticks_append, silent]
    rfl

end OClock.MqttTurns
