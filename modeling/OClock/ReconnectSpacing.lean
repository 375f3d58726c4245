import OClock.ReconnectDamper

/-!
How far apart the connects of the MQTT thread are. The timer raises the flag of the damper
every 584 ticks whether anybody waits for it or not, so it is the resets of the flag that are
spaced, and of two resets in a row the first may be of a flag that has stood for long.
-/

namespace OClock.ReconnectSpacing
open InboxRegistry TimerTable MqttLoop LabelledRun MqttThreads MqttTurns MqttPhases
open ReconnectDamper

/-- The flag of the damper is found raised, and is lowered. -/
def reset : Event := .exchanged timerTickReconnectDamper true

def connect : Event := .called .connect

def resets (history : List Event) : Nat := history.count reset

def connects (history : List Event) : Nat := history.count connect

theorem labelOf_tick (event : Event) : labelOf event = .tick ↔ event = .tick := by
  cases event with
  | exchanged ref expired =>
      simp only [labelOf]
      split <;> simp
  | called call => cases call <;> simp [labelOf]
  | _ => simp [labelOf]

theorem labelOf_taken (event : Event) : labelOf event = .taken ↔ event = reset := by
  cases event with
  | exchanged ref expired => simp [labelOf, reset]
  | called call => cases call <;> simp [labelOf, reset]
  | _ => simp [labelOf, reset]

theorem labelOf_called (event : Event) : labelOf event = .called ↔ event = connect := by
  cases event with
  | exchanged ref expired =>
      simp only [labelOf, connect]
      split <;> simp
  | called call => cases call <;> simp [labelOf, connect]
  | _ => simp [labelOf, connect]

/-- A label that stands for a single event is counted as that event. -/
theorem count_labels {label : PeriodicDamper.Label} {event : Event}
    (own : ∀ other, labelOf other = label ↔ other = event) (history : List Event) :
    (history.map labelOf).count label = history.count event := by
  rw [List.count_eq_countP, List.countP_map, List.count_eq_countP]
  refine List.countP_congr fun other _ => ?_
  simp only [Function.comp_apply, beq_iff_eq, own other]

/-! A broker that cannot be reached. -/

def unreachable : Answers :=
  { smooth with mosquittoLoop := mosqErrNoConn, mosquittoConnect := mosqErrNoConn }

theorem unreachable_connects {turn : Turn}
    (up : turn.shared.expired timerTickReconnectDamper = true) :
    handleTimerTickMessage unreachable turn =
      storeRc (mosquittoConnect
        (takeFlag (mosquittoLoop unreachable turn) timerTickReconnectDamper).2) mosqErrNoConn := by
  have flag : (takeFlag (mosquittoLoop unreachable turn) timerTickReconnectDamper).1 = true := up
  have report : reportDue unreachable (mosquittoLoop unreachable turn) =
      (false, mosquittoLoop unreachable turn) := if_neg (by decide)
  have reconnects : reconnect unreachable (mosquittoLoop unreachable turn) =
      (mosqErrNoConn, mosquittoConnect
        (takeFlag (mosquittoLoop unreachable turn) timerTickReconnectDamper).2) := by
    have lost : unreachable.mosquittoLoop = mosqErrNoConn := rfl
    simp only [reconnect, lost, true_or, if_true, flag]
    rfl
  simp only [handleTimerTickMessage, report, reconnects, Bool.false_eq_true, if_false]
  rfl

/-- The timer message of a loop without a connection, the flag of the damper raised. -/
theorem unreachable_turn (client : MqttClient) {shared : Shared} {phase : Phase}
    (inPhase : InPhase shared phase) (one : phase.unread = 1) (up : phase.expired = true) :
    ∃ turn, loopTurn unreachable client shared = some (Inbox.timerTickMessage, turn) ∧
      turn.calls = [.loop, .connect] ∧ turn.client.readyForTimerTickServiceMessage = true ∧
      InPhase turn.shared { phase with expired := false, unread := 0 } := by
  obtain ⟨inbox, present⟩ := Option.isSome_iff_exists.mp inPhase.here
  have queued : inbox.msgs = [Inbox.timerTickMessage] := by
    have queued := inPhase.inbox
    rwa [queue_of_some present, one] at queued
  have waits : inbox.waitForMessage =
      some (Inbox.timerTickMessage, ⟨[], inbox.msgCount - 1⟩) := by
    simp only [Inbox.waitForMessage, queued]
  let received : Shared :=
    { shared with inboxes := shared.inboxes.write .mqttClient ⟨[], inbox.msgCount - 1⟩ }
  let looped := mosquittoLoop unreachable ⟨[], client, received⟩
  let connected := mosquittoConnect (takeFlag looped timerTickReconnectDamper).2
  have handled : handle unreachable ⟨[], client, received⟩ Inbox.timerTickMessage.inboxMsgType =
      some (storeRc connected mosqErrNoConn) :=
    congrArg some (unreachable_connects (inPhase.expired.trans up))
  refine ⟨(storeRc connected mosqErrNoConn).ready, ?_, ?_, ?_, ?_⟩
  · simp only [loopTurn, present, Option.bind_some, waits]
    rw [handled]
    rfl
  · rfl
  · rfl
  · have down : (getAndResetExpired looped.shared timerTickReconnectDamper).2.expired
        timerTickReconnectDamper = false := by
      simp only [getAndResetExpired, Function.update_self]
    have empty : received.inboxes .mqttClient = some ⟨[], inbox.msgCount - 1⟩ := by
      simp only [received, InboxRegistry.write_same]
    exact ⟨inPhase.table, inPhase.loop, inPhase.damper, down, queue_of_some empty,
      congrArg Option.isSome empty⟩

/-- A history that makes a call is cut at it. -/
theorem calls_cut {history : List Event} {earlier later : List Call} {call : Call}
    (all : calls history = earlier ++ call :: later) : ∃ before after,
    history = before ++ .called call :: after ∧ calls before = earlier ∧ calls after = later := by
  obtain ⟨before, rest, rfl, first, second⟩ := List.filterMap_eq_append_iff.mp all
  obtain ⟨skipped, event, after, rfl, silent, own, last⟩ := List.filterMap_eq_cons_iff.mp second
  have called : event = .called call := by
    cases event with
    | called other => exact congrArg Event.called (Option.some.inj own)
    | _ => cases own
  refine ⟨before ++ skipped, after, ?_, ?_, last⟩
  · rw [called, List.append_assoc]
  · rw [calls_append, calls, first, calls, List.filterMap_eq_nil_iff.mpr silent, List.append_nil]

theorem connects_calls (history : List Event) :
    connects history = (calls history).count .connect := by
  induction history with
  | nil => rfl
  | cons event rest ih =>
      have same : connects (event :: rest) = connects [event] + connects rest := by
        rw [← List.singleton_append, connects, List.count_append]
        rfl
      rw [same, ih, ← List.singleton_append (l := rest), calls_append, List.count_append]
      cases event with
      | called call => cases call <;> rfl
      | _ => rfl

/-- The loop connects in the course of a turn, no tick coming in between. -/
theorem goes_connects (client : MqttClient) {shared : Shared} {phase : Phase}
    (inPhase : InPhase shared phase) (one : phase.unread = 1) (up : phase.expired = true) :
    ∃ before after turn,
      Run Step ⟨client, shared, .waiting, .sleeping⟩ (before ++ connect :: after)
        ⟨(turn : Turn).client, turn.shared, .waiting, .sleeping⟩ ∧
      connects before = 0 ∧ connects after = 0 ∧ ticks before + ticks after = 0 ∧
      turn.client.readyForTimerTickServiceMessage = true ∧
      InPhase turn.shared { phase with expired := false, unread := 0 } := by
  obtain ⟨turn, runs, called, ready, there⟩ := unreachable_turn client inPhase one up
  obtain ⟨history, goes, log, silent⟩ := goes_turn runs
  have all : calls history = [.loop] ++ .connect :: [] := log.symm.trans called
  obtain ⟨before, after, rfl, first, last⟩ := calls_cut all
  refine ⟨before, after, turn, goes, ?_, ?_, ?_, ready, there⟩
  · rw [connects_calls, first]
    rfl
  · rw [connects_calls, last]
    rfl
  · rw [ticks_append] at silent
    have none : ticks (Event.called .connect :: after) = ticks after :=
      List.count_cons_of_ne (by decide)
    omega

theorem connects_timer {history : List Event} (timer : history.all Event.ofTimer = true) :
    connects history = 0 := by
  rw [connects_calls, calls_timer timer]
  rfl

/-- The loop waits while the timer ticks, and connects at the message that comes of it. -/
theorem goes_waits_connects (client : MqttClient) {shared : Shared} {phase next : Phase}
    (ready : client.readyForTimerTickServiceMessage = true) (inPhase : InPhase shared phase)
    (n : Nat) (passes : phase.passes true n = next) (one : next.unread = 1)
    (up : next.expired = true) : ∃ before after turn,
      Run Step ⟨client, shared, .waiting, .sleeping⟩ (before ++ connect :: after)
        ⟨(turn : Turn).client, turn.shared, .waiting, .sleeping⟩ ∧
      connects before = 0 ∧ connects after = 0 ∧ ticks before = n ∧ ticks after = 0 ∧
      turn.client.readyForTimerTickServiceMessage = true ∧
      InPhase turn.shared { next with expired := false, unread := 0 } := by
  obtain ⟨waiting, shared, waits, there, timer, ticked⟩ := goes_passes client .waiting n inPhase
  rw [ready, passes] at there
  obtain ⟨before, after, turn, turns, none, last, silent, again, ends⟩ :=
    goes_connects client there one up
  refine ⟨waiting ++ before, after, turn, ?_, ?_, last, ?_, by omega, again, ends⟩
  · rw [List.append_assoc]
    exact waits.append turns
  · have all : connects (waiting ++ before) = connects waiting + connects before :=
      List.count_append
    rw [all, connects_timer timer, none]
  · rw [ticks_append, ticked]
    omega

/-- The first connect takes the flag that has stood since the damper was constructed, in the
last 38 ticks of the period; the flag is raised again 14 ticks later. -/
theorem goes_twice (others : ServiceRef → Option (Int × Bool)) (port keepAlive : Int32) :
    ∃ before between after world, Run Step (World.start others port keepAlive)
        (before ++ connect :: (between ++ connect :: after)) world ∧
      connects between = 0 ∧ ticks between = 38 := by
  obtain ⟨boot, _, boots, registered, -⟩ := goes_registered others port keepAlive
  -- The timer is ahead: it ticks before the loop has said that it is ready for a message.
  obtain ⟨late, _, delays, inPhase, -⟩ := goes_passes _ .raising 532 registered
  have raises := (boots.append delays).step (.raise rfl)
  have long : Phase.registered.passes false 532 = ⟨38, 52, true, 0⟩ := by decide +kernel
  rw [show (World.start others port keepAlive).client.readyForTimerTickServiceMessage = false
    from rfl, long] at inPhase
  have stands : Phase.passes true 38 ⟨38, 52, true, 0⟩ = ⟨38, 14, true, 1⟩ := by decide +kernel
  have fires : Phase.passes true 38 ⟨38, 14, false, 0⟩ = ⟨38, 560, true, 1⟩ := by decide +kernel
  obtain ⟨before, between, first, connecting, -, silent, -, still, ready, there⟩ :=
    goes_waits_connects (setReady _ true) rfl inPhase 38 stands rfl rfl
  obtain ⟨more, after, last, again, none, -, ticked, -⟩ :=
    goes_waits_connects _ ready there 38 fires rfl rfl
  have whole := (raises.append connecting).append again
  have cut : boot ++ late ++ [.ran] ++ (before ++ connect :: between) ++
      (more ++ connect :: after) = boot ++ late ++ [.ran] ++ before ++
        connect :: (between ++ more ++ connect :: after) := by
    simp only [List.append_assoc, List.cons_append]
  refine ⟨_, _, _, _, cut ▸ whole, ?_, ?_⟩
  · have all : connects (between ++ more) = connects between + connects more :=
      List.count_append
    rw [all, silent, none]
  · rw [ticks_append, still, ticked]

/-- Every connect follows a reset of its own. From a reset to the second one after it, and
from a connect to the third one after it, the timer ticks through a whole period. -/
theorem reconnects_damped {others : ServiceRef → Option (Int × Bool)} {port keepAlive : Int32}
    {history : List Event} {world : World}
    (run : Run Step (World.start others port keepAlive) history world) :
    (connects history ≤ resets history ∧ resets history ≤ connects history + 1) ∧
    (∀ before between after, history = before ++ reset :: (between ++ reset :: after) →
      reconnectTicks * resets between ≤ ticks between) ∧
    ∀ before between after, history = before ++ connect :: (between ++ connect :: after) →
      reconnectTicks * connects between ≤ ticks between + reconnectTicks := by
  obtain ⟨damper, moves, -⟩ := run_shows run
  refine ⟨?_, fun before between after cut => ?_, fun before between after cut => ?_⟩
  -- A reset whose connect has not come yet is held.
  · have calls := PeriodicDamper.run_calls moves
    rw [count_labels labelOf_called, count_labels labelOf_taken] at calls
    have held := Bool.toNat_le damper.held
    have free : PeriodicDamper.Damper.new.held.toNat = 0 := rfl
    simp only [connects, resets]
    omega
  · have taken : labelOf reset = .taken := (labelOf_taken reset).mpr rfl
    rw [cut, List.map_append, List.map_cons, List.map_append, List.map_cons, taken] at moves
    have spaced := PeriodicDamper.taken_spaced periodTicks_positive moves
    rwa [count_labels labelOf_taken, count_labels labelOf_tick] at spaced
  · have called : labelOf connect = .called := (labelOf_called connect).mpr rfl
    rw [cut, List.map_append, List.map_cons, List.map_append, List.map_cons, called] at moves
    have spaced := PeriodicDamper.called_spaced periodTicks_positive moves
    rwa [count_labels labelOf_called, count_labels labelOf_tick] at spaced

theorem reconnects_damped_twice : ∃ history world,
    Run Step (World.start (fun _ => none) 1883 60) history world ∧
      2 ≤ connects history ∧ connects history ≤ resets history := by
  obtain ⟨before, between, after, world, run, -⟩ := goes_twice (fun _ => none) 1883 60
  refine ⟨_, world, run, ?_, (reconnects_damped run).1.1⟩
  rw [connects, List.count_append, List.count_cons_self, List.count_append, List.count_cons_self]
  omega

/-- Two connects in a row, with 38 ticks between them. -/
theorem connects_close : ∃ before between after world,
    Run Step (World.start (fun _ => none) 1883 60)
        (before ++ connect :: (between ++ connect :: after)) world ∧
      connects between = 0 ∧ ticks between < 584 := by
  obtain ⟨before, between, after, world, run, none, ticked⟩ := goes_twice (fun _ => none) 1883 60
  exact ⟨before, between, after, world, run, none, by omega⟩

end OClock.ReconnectSpacing
