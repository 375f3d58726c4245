import OClock.MqttTurns

/-!
The timer thread ticking on while the MQTT thread stands still, by the clocks of two of its
services: that of the loop, and that of the damper of the reconnections.
-/

namespace OClock.MqttPhases
open InboxRegistry TimerTable TimerSchedule MqttLoop LabelledRun MqttThreads MqttTurns

def loopTicks : Nat := 38

def reconnectTicks : Nat := 584

theorem loopTicks_eq : ticksFor mqttLoopInterval = loopTicks := by decide

theorem reconnectTicks_eq : ticksFor reconnectDamperInterval = reconnectTicks := by decide

structure Phase where
  /-- What is left to count for the service of the loop. -/
  loop : Nat
  damper : Nat
  expired : Bool
  unread : Nat
  deriving DecidableEq

def Phase.pass (ready : Bool) (phase : Phase) : Phase where
  loop := (Countdown.tick loopTicks true phase.loop).2
  damper := (Countdown.tick reconnectTicks true phase.damper).2
  expired := phase.expired || phase.damper == 1
  unread := phase.unread + if ready && phase.loop == 1 then 1 else 0

def Phase.passes (ready : Bool) : Nat → Phase → Phase
  | 0, phase => phase
  | n + 1, phase => Phase.passes ready n (phase.pass ready)

/-- The inbox of the loop holds timer messages and nothing else. -/
structure InPhase (shared : Shared) (phase : Phase) : Prop where
  table : WellFormed shared.timerTick
  loop : Holds shared.timerTick timerTickServiceMqttLoop mqttLoopInterval true ⟨true, phase.loop⟩
  damper : Holds shared.timerTick timerTickReconnectDamper reconnectDamperInterval true
    ⟨true, phase.damper⟩
  expired : shared.expired timerTickReconnectDamper = phase.expired
  inbox : queue shared.inboxes .mqttClient =
    List.replicate phase.unread Inbox.timerTickMessage
  here : (shared.inboxes .mqttClient).isSome = true

theorem pass_phase {shared : Shared} {phase : Phase} (inPhase : InPhase shared phase)
    {order : List TimerTickId} (iterates : TimerTable.Iterates shared.timerTick order)
    (ready : Bool) : InPhase (timerTickPass ready shared order) (phase.pass ready) := by
  obtain ⟨loop, loops⟩ := holds_tick inPhase.table iterates inPhase.loop
  obtain ⟨damper, expires⟩ := holds_tick inPhase.table iterates inPhase.damper
  obtain ⟨queued, here⟩ := timerTickPass_messages ready shared order inPhase.here
  refine ⟨?_, ?_, ?_, ?_, ?_, here⟩
  · rw [timerTickPass_table]
    exact tick_wellformed inPhase.table iterates
  · rw [timerTickPass_table]
    exact loop
  · rw [timerTickPass_table]
    exact damper
  · have flag := timerTickPass_expired ready shared order
      (show timerTickReconnectDamper ≠ timerTickServiceMqttLoop by decide)
    rw [inPhase.expired] at flag
    refine flag.trans (congrArg _ ?_)
    rw [Bool.eq_iff_iff, decide_eq_true_iff, beq_iff_eq, ← List.count_pos_iff, expires]
    split <;> simp_all
  · rw [queued, inPhase.inbox, List.replicate_append_replicate, loops]
    congr 2
    cases ready <;> simp

theorem goes_passes (client : MqttClient) (mqtt : MqttAt) (n : Nat) {shared : Shared}
    {phase : Phase} (inPhase : InPhase shared phase) : ∃ history after,
    Run Step ⟨client, shared, mqtt, .sleeping⟩ history ⟨client, after, mqtt, .sleeping⟩ ∧
      InPhase after (phase.passes client.readyForTimerTickServiceMessage n) ∧
      history.all Event.ofTimer = true ∧ ticks history = n := by
  induction n generalizing shared phase with
  | zero => exact ⟨[], shared, .start, inPhase, rfl, rfl⟩
  | succ n ih =>
      obtain ⟨first, pass, none, one⟩ := goes_pass client mqtt (List.Perm.refl _)
      obtain ⟨rest, after, run, there, silent, more⟩ :=
        ih (pass_phase inPhase (List.Perm.refl _) client.readyForTimerTickServiceMessage)
      refine ⟨first ++ rest, after, pass.append run, there, ?_, ?_⟩
      · rw [List.all_append, none, silent]
        rfl
      · rw [ticks_append, one, more, Nat.add_comm]

/-! The beginning: the thread registers its services. -/

theorem goes_registrations (client : MqttClient) (services : List (ServiceRef × Bool))
    (shared : Shared) : ∃ history,
    Run Step ⟨client, shared, .registering services, .sleeping⟩ history
      ⟨client, { shared with timerTick :=
        (Machine.run TimerSchedule.step shared.timerTick (registrations services)).2 },
        .raising, .sleeping⟩ ∧ history.all Event.ofTimer = true ∧ ticks history = 0 := by
  induction services generalizing shared with
  | nil => exact ⟨_, .one (.registered rfl), rfl, rfl⟩
  | cons service rest ih =>
      have registers := @Step.register
        ⟨client, shared, .registering (service :: rest), .sleeping⟩ _ _ _ rfl rfl
      obtain ⟨history, run, none, silent⟩ := ih _
      refine ⟨_, (Run.one registers).append run, ?_, ?_⟩
      · rw [List.all_append, none]
        rfl
      · rw [ticks_append, silent]
        rfl

/-- The thread has just registered its services. -/
def Phase.registered : Phase := ⟨loopTicks, reconnectTicks, true, 0⟩

theorem goes_registered (others : ServiceRef → Option (Int × Bool)) (port keepAlive : Int32) :
    ∃ history shared, Run Step (World.start others port keepAlive) history
        ⟨(World.start others port keepAlive).client, shared, .raising, .sleeping⟩ ∧
      InPhase shared .registered ∧ history.all Event.ofTimer = true ∧ ticks history = 0 := by
  obtain ⟨history, run, none, silent⟩ := goes_registrations
    (World.start others port keepAlive).client services
    ⟨createInboxes, boot (objects others), (World.start others port keepAlive).shared.expired⟩
  have empty : createInboxes .mqttClient = some .new := created_inboxes nofun
  have bootLoop : Holds (boot (objects others)) timerTickServiceMqttLoop mqttLoopInterval true
      ⟨false, 0⟩ := boot_holds (objects others) rfl
  have bootDamper : Holds (boot (objects others)) timerTickReconnectDamper
      reconnectDamperInterval true ⟨false, 0⟩ := boot_holds (objects others) rfl
  obtain ⟨valid, loop⟩ := registrations_register (boot_wellformed (objects others)) services
    (by decide) (show (timerTickServiceMqttLoop, true) ∈ services by decide) bootLoop
  obtain ⟨-, damper⟩ := registrations_register (boot_wellformed (objects others)) services
    (by decide) (show (timerTickReconnectDamper, true) ∈ services by decide) bootDamper
  simp only [if_true, loopTicks_eq] at loop
  simp only [if_true, reconnectTicks_eq] at damper
  -- The table itself is not looked into any further.
  dsimp only at run
  generalize (Machine.run TimerSchedule.step (boot (objects others))
    (registrations services)).2 = table at run valid loop damper
  exact ⟨history, _, run, ⟨valid, loop, damper, rfl, queue_of_some empty,
    congrArg Option.isSome empty⟩, none, silent⟩

end OClock.MqttPhases
