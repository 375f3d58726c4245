import OClock.MqttPhases

/-!
The timer messages that wait for the MQTT loop. Each passed a test of the flag
`readyForTimerTickServiceMessage`; the flag is up from the head of the loop until a timer
message is handled, also while the loop is busy with a message of another kind.
-/

namespace OClock.TimerBacklog
open InboxRegistry TimerTable MqttLoop LabelledRun MqttThreads MqttTurns MqttPhases

def isTimerTick (msg : InboxMsg) : Bool := msg.inboxMsgType == .timerTickMessage

def unread (world : World) : Nat :=
  (queue world.shared.inboxes .mqttClient).countP isTimerTick

/-- The message that was let through and is not queued yet. -/
def underway : TimerAt → Nat
  | .queueing _ => 1
  | _ => 0

def takes : Event → Bool
  | .received msg => isTimerTick msg
  | _ => false

def taken (history : List Event) : Nat := history.countP takes

def message : Event → Option InboxMsg
  | .received msg => some msg
  | _ => none

/-- The message that the loop took last. -/
def latest (history : List Event) : Option InboxMsg := (history.filterMap message).getLast?

/-- The loop lowered the flag for a timer message and has not come back to the head of the
`while`, or it has never come there. -/
def Lowered (history : List Event) : MqttAt → Prop
  | .registering _ => True
  | .waiting | .received _ | .left => False
  | _ => (latest history).all isTimerTick = true

/-- Whether a timer message was let through that the loop has not taken yet. -/
def owesAfter (owes : Bool) : Event → Bool
  | .tested ready => owes || ready
  | .received msg => owes && !isTimerTick msg
  | _ => owes

def owes (history : List Event) : Bool := history.foldl owesAfter false

/-- Whenever its service expires, the loop is busy with a timer message, or it has taken one
since the last time that it was found elsewhere. -/
def Prompt (history : List Event) (world : World) (event : Event) : Prop :=
  ∀ ready, event = .tested ready → Lowered history world.mqtt ∨ owes history = false

inductive PromptRun (start : World) : List Event → World → Prop
  | start : PromptRun start [] start
  | step {history : List Event} {world next : World} {event : Event} :
      PromptRun start history world → Step world event next → Prompt history world event →
      PromptRun start (history ++ [event]) next

def Here (world : World) : Prop := (world.shared.inboxes .mqttClient).isSome = true

theorem taken_append (before after : List Event) :
    taken (before ++ after) = taken before + taken after := List.countP_append

theorem act_inboxes (client : MqttClient) (shared : Shared) (action : Action) :
    (action.act client shared).2.inboxes = shared.inboxes := by
  cases action <;> rfl

theorem after_underway (rest : List TimerTickId) (fired : List ServiceRef) :
    underway (.after rest fired) = 0 := by
  cases fired <;> rfl

theorem step_here {world next : World} {event : Event} (step : Step world event next)
    (here : Here world) : Here next := by
  unfold Here at here ⊢
  cases step with
  | receive stands ready =>
      simp only [InboxRegistry.write_same]
      rfl
  | act => rwa [act_inboxes]
  | queue => rwa [addMessageTo_isSome]
  | tell => rwa [addMessageTo_isSome]
  | _ => exact here

/-- A timer message waits from the test that lets it through until the loop takes it. -/
theorem step_unread {world next : World} {event : Event} (step : Step world event next)
    (here : Here world) :
    unread next + underway next.timer + taken [event] =
      unread world + underway world.timer + [event].count (.tested true) := by
  unfold Here at here
  cases step with
  | @receive stands msg inbox ready =>
      -- The message that is taken was the first of the queue.
      obtain ⟨before, present, waits⟩ := Option.bind_eq_some_iff.mp ready
      have queued := queue_taken present (waitForMessage_takes waits).1 .mqttClient
      rw [if_pos rfl] at queued
      cases kind : isTimerTick msg with
      | true =>
          simp [unread, queued, taken, takes, kind]
          omega
      | false => simp [unread, queued, taken, takes, kind]
  | act => simp [unread, act_inboxes, taken, takes]
  | entry reaches =>
      have none : underway world.timer = 0 := by
        rw [reaches]
        rfl
      simp [unread, after_underway, none, taken, takes]
  | setExpired triggers => simp [unread, triggers, underway, taken, takes]
  | test triggers =>
      cases world.client.readyForTimerTickServiceMessage <;>
        simp [unread, triggers, underway, taken, takes]
  | queue queues =>
      have one : isTimerTick Inbox.timerTickMessage = true := rfl
      simp [unread, queue_addMessageTo here, queues, one, underway, taken, takes]
  | passed done => simp [unread, done, underway, taken, takes]
  | tick wakes => simp [unread, wakes, underway, taken, takes]
  | @tell threadId msg other =>
      have silent : isTimerTick msg = false := by simpa [isTimerTick] using other
      by_cases hit : threadId = .mqttClient
      · subst hit
        simp [unread, queue_addMessageTo here, silent, taken, takes]
      · have same : addMessageTo world.shared.inboxes threadId msg .mqttClient =
            world.shared.inboxes .mqttClient := by
          rw [addMessageTo_inbox]
          simp [Ne.symm hit]
        simp [unread, queue, same, taken, takes]
  | _ => simp [unread, getAndResetExpired, taken, takes]

theorem run_here {start world : World} {history : List Event}
    (run : Run Step start history world) (here : Here start) : Here world :=
  run.invariant (fun _ world => Here world) here fun _ _ _ _ _ step here => step_here step here

/-- No timer message is lost and none comes from elsewhere. -/
theorem run_unread {start world : World} {history : List Event}
    (run : Run Step start history world) (here : Here start) :
    unread world + underway world.timer + taken history =
      unread start + underway start.timer + history.count (.tested true) := by
  refine run.invariant (fun history world => unread world + underway world.timer +
    taken history = unread start + underway start.timer + history.count (.tested true)) rfl ?_
  intro history world event next run step same
  have more := step_unread step (run_here run here)
  rw [taken_append, List.count_append]
  omega

theorem start_here (others : ServiceRef → Option (Int × Bool)) (port keepAlive : Int32) :
    Here (World.start others port keepAlive) :=
  congrArg Option.isSome (created_inboxes (show ThreadId.mqttClient ≠ .ignore by decide))

theorem start_unread (others : ServiceRef → Option (Int × Bool)) (port keepAlive : Int32) :
    unread (World.start others port keepAlive) = 0 := by
  have empty : createInboxes .mqttClient = some .new := created_inboxes nofun
  rw [unread]
  exact congrArg (List.countP isTimerTick) (queue_of_some empty)

theorem PromptRun.run {start world : World} {history : List Event}
    (run : PromptRun start history world) : Run Step start history world := by
  induction run with
  | start => exact .start
  | step _ step _ ih => exact ih.step step

/-! ### The flag -/

theorem latest_received (history : List Event) (msg : InboxMsg) :
    latest (history ++ [.received msg]) = some msg := by
  rw [latest, List.filterMap_append]
  exact List.getLast?_concat

theorem latest_other (history : List Event) {event : Event} (none : message event = none) :
    latest (history ++ [event]) = latest history := by
  rw [latest, List.filterMap_append, List.filterMap_cons_none none, List.filterMap_nil,
    List.append_nil, latest]

/-- How the flag goes with the place of the loop and the message that it took last. -/
def Flagged (latest : Option InboxMsg) (ready : Bool) : MqttAt → Prop
  | .registering _ => ready = false ∧ latest = none
  | .waiting | .left => ready = true
  | .received inboxMsgType =>
      ready = true ∧ ∃ msg, latest = some msg ∧ msg.inboxMsgType = inboxMsgType
  | .raising | .doing _ | .publishing _ => ready = !latest.all isTimerTick
  | _ => ready = false ∧ latest.all isTimerTick = true

theorem flagged_down {last : Option InboxMsg} {ready : Bool}
    (flagged : ready = false ∧ last.all isTimerTick = true) :
    ready = !last.all isTimerTick := by
  rw [flagged.1, flagged.2]
  rfl

/-- A message of another kind is handled with the flag up. -/
theorem flagged_up {last : Option InboxMsg} {ready : Bool} {inboxMsgType : InboxMsgType}
    (flagged : ready = true ∧ ∃ msg, last = some msg ∧ msg.inboxMsgType = inboxMsgType)
    (other : inboxMsgType ≠ .timerTickMessage) : ready = !last.all isTimerTick := by
  obtain ⟨up, msg, rfl, rfl⟩ := flagged
  rw [up, Option.all_some, isTimerTick, beq_eq_false_iff_ne.mpr other]
  rfl

theorem step_flagged {history : List Event} {world next : World} {event : Event}
    (step : Step world event next)
    (flagged : Flagged (latest history) world.client.readyForTimerTickServiceMessage world.mqtt) :
    Flagged (latest (history ++ [event])) next.client.readyForTimerTickServiceMessage
      next.mqtt := by
  cases step with
  | receive stands =>
      rw [latest_received]
      rw [stands] at flagged
      exact ⟨flagged, _, rfl, rfl⟩
  | registered stands =>
      rw [latest_other _ rfl]
      rw [stands] at flagged
      obtain ⟨down, none⟩ := flagged
      rw [none]
      exact down
  | lower stands =>
      rw [latest_other _ rfl]
      rw [stands] at flagged
      obtain ⟨-, msg, last, kind⟩ := flagged
      rw [last]
      exact ⟨rfl, decide_eq_true kind⟩
  | motionOff stands | motionOn stands | noop stands =>
      rw [latest_other _ rfl]
      rw [stands] at flagged
      exact flagged_up flagged nofun
  | display stands told =>
      rw [latest_other _ rfl]
      rw [stands] at flagged
      refine flagged_up flagged ?_
      rintro rfl
      cases told
  | connected stands | countAttempt stands =>
      rw [latest_other _ rfl]
      rw [stands] at flagged
      exact flagged_down flagged
  | @askReport rc stands =>
      rw [latest_other _ rfl]
      rw [stands] at flagged
      dsimp only
      split
      · exact flagged_down flagged
      · exact flagged
  | askDamper stands =>
      rw [latest_other _ rfl]
      rw [stands] at flagged
      dsimp only
      split
      · exact flagged
      · exact flagged_down flagged
  | @act action rest stands =>
      rw [latest_other _ rfl]
      rw [stands] at flagged
      cases action <;> exact flagged
  | register stands | raise stands | leave stands | loop stands | loopReturns stands
  | countTick stands | skipReport stands | missed stands | connect stands | connectReturns stands
  | publish stands | publishReturns stands | handled stands =>
      rw [latest_other _ rfl]
      rw [stands] at flagged
      first | exact flagged | exact flagged.1 | rfl
  | _ =>
      rw [latest_other _ rfl]
      exact flagged

theorem run_flagged {others : ServiceRef → Option (Int × Bool)} {port keepAlive : Int32}
    {history : List Event} {world : World}
    (run : Run Step (World.start others port keepAlive) history world) :
    Flagged (latest history) world.client.readyForTimerTickServiceMessage world.mqtt := by
  refine run.invariant
    (fun history world =>
      Flagged (latest history) world.client.readyForTimerTickServiceMessage world.mqtt)
    ?_ fun _ _ _ _ _ step flagged => step_flagged step flagged
  exact ⟨rfl, rfl⟩

/-- The flag is down while a timer message is handled, and at no other time. -/
theorem flag_lowered {others : ServiceRef → Option (Int × Bool)} {port keepAlive : Int32}
    {history : List Event} {world : World}
    (run : Run Step (World.start others port keepAlive) history world) :
    world.client.readyForTimerTickServiceMessage = false ↔ Lowered history world.mqtt := by
  have flagged := run_flagged run
  cases stands : world.mqtt with
  | registering rest =>
      rw [stands] at flagged
      exact iff_of_true flagged.1 trivial
  | waiting | left =>
      rw [stands] at flagged
      exact iff_of_false (by rw [show _ = true from flagged]; decide) id
  | received inboxMsgType =>
      rw [stands] at flagged
      exact iff_of_false (by rw [flagged.1]; decide) id
  | raising | doing rest | publishing rest =>
      rw [stands] at flagged
      rw [show _ = _ from flagged, Bool.not_eq_false']
      exact Iff.rfl
  | lowered | looping | looped rc | counted rc | unreported rc | unconnected rc | connecting
  | inConnect | attempted rc =>
      rw [stands] at flagged
      exact iff_of_true flagged.1 flagged.2

/-! ### The messages that wait -/

theorem test_finds {world next : World} {ready : Bool} (step : Step world (.tested ready) next) :
    ready = world.client.readyForTimerTickServiceMessage ∧ underway world.timer = 0 := by
  generalize found : Event.tested ready = event at step
  cases step with
  | test triggers =>
      rw [Event.tested.injEq] at found
      exact ⟨found, by rw [triggers]; rfl⟩
  | _ => cases found

/-- A test that finds the flag up is followed by its message. -/
theorem tested_queues {world next : World} (step : Step world (.tested true) next) :
    next.shared = world.shared ∧ ∃ rest, next.timer = .queueing rest := by
  generalize found : Event.tested true = event at step
  cases step with
  | @test rest triggers =>
      rw [Event.tested.injEq] at found
      refine ⟨rfl, rest, ?_⟩
      simp only [← found, if_true]
  | _ => cases found

theorem queueing_queues {world : World} {rest : List TimerTickId}
    (queues : world.timer = .queueing rest) (here : Here world) :
    ∃ last, Step world .ran last ∧ unread last = unread world + 1 := by
  unfold Here at here
  have one : isTimerTick Inbox.timerTickMessage = true := rfl
  exact ⟨_, .queue queues, by simp [unread, queue_addMessageTo here, one]⟩

theorem owes_concat (history : List Event) (event : Event) :
    owes (history ++ [event]) = owesAfter (owes history) event := List.foldl_concat ..

/-- In a run that keeps to the condition a message is owed exactly when one is on its way. -/
theorem promptRun_owes {others : ServiceRef → Option (Int × Bool)} {port keepAlive : Int32}
    {history : List Event} {world : World}
    (run : PromptRun (World.start others port keepAlive) history world) :
    unread world + underway world.timer = (owes history).toNat := by
  induction run with
  | start =>
      rw [start_unread]
      rfl
  | @step history world next event run step prompt ih =>
      have more := step_unread step (run_here run.run (start_here ..))
      rw [owes_concat]
      cases event with
      | tested ready =>
          rw [(test_finds step).1] at more prompt ⊢
          cases up : world.client.readyForTimerTickServiceMessage with
          | false =>
              rw [up, List.count_singleton] at more
              simpa [owesAfter, taken, takes, ih] using more
          | true =>
              -- The flag is up, so the loop is not busy with a timer message.
              have busy : ¬ Lowered history world.mqtt := fun lowered =>
                Bool.false_ne_true (((flag_lowered run.run).mpr lowered).symm.trans up)
              have none := (prompt _ rfl).resolve_left busy
              rw [up, List.count_singleton_self] at more
              rw [none] at ih ⊢
              simp [owesAfter, taken, takes] at more ih ⊢
              omega
      | received msg =>
          have silent : [Event.received msg].count (.tested true) = 0 := rfl
          rw [silent] at more
          cases kind : isTimerTick msg with
          | false => simpa [owesAfter, taken, takes, kind, ih] using more
          | true =>
              simp only [taken, List.countP_singleton, takes, kind, if_true] at more
              have one := Bool.toNat_le (owes history)
              simp only [owesAfter, kind, Bool.not_true, Bool.and_false, Bool.toNat_false]
              omega
      | tick | exchanged | called | ran => simpa [owesAfter, taken, takes, ih] using more

/-- While the loop takes a timer message between any two expiries that find it elsewhere than in
the handling of one, at most one waits; an expiry that comes before that makes two wait. -/
theorem backlog_bounded {others : ServiceRef → Option (Int × Bool)} {port keepAlive : Int32}
    {history : List Event} {world : World}
    (run : PromptRun (World.start others port keepAlive) history world) :
    unread world ≤ 1 ∧
      ∀ ready next, Step world (.tested ready) next →
        ¬ Prompt history world (.tested ready) → ∃ last, Step next .ran last ∧ 1 < unread last := by
  have owed := promptRun_owes run
  have one := Bool.toNat_le (owes history)
  refine ⟨by omega, fun ready next step late => ?_⟩
  have busy : ¬ Lowered history world.mqtt := fun lowered => late fun _ _ => .inl lowered
  have owing : owes history = true := by
    rw [← Bool.not_eq_false]
    exact fun none => late fun _ _ => .inr none
  obtain ⟨found, idle⟩ := test_finds step
  have up : ready = true := by
    rw [← Bool.not_eq_false, found]
    exact fun down => busy ((flag_lowered run.run).mp down)
  rw [up] at step
  rw [owing, idle, Bool.toNat_true] at owed
  obtain ⟨same, rest, queues⟩ := tested_queues step
  obtain ⟨last, queued, more⟩ :=
    queueing_queues queues (step_here step (run_here run.run (start_here ..)))
  have before : unread next = unread world := by rw [unread, same, unread]
  exact ⟨last, queued, by omega⟩

/-! Runs in which the services of the loop are registered and nothing but the timer moves. -/

theorem phase_unread {shared : Shared} {phase : Phase} (inPhase : InPhase shared phase)
    (client : MqttClient) (mqtt : MqttAt) (timer : TimerAt) :
    unread ⟨client, shared, mqtt, timer⟩ = phase.unread := by
  rw [unread, inPhase.inbox, List.countP_replicate]
  rfl

theorem taken_timer {history : List Event} (timer : history.all Event.ofTimer = true) :
    taken history = 0 := by
  rw [taken, List.countP_eq_zero]
  intro event inside takesOne
  have own := List.all_eq_true.mp timer event inside
  cases event <;> first | cases takesOne | cases own

theorem owes_untested {history : List Event} (none : history.count (.tested true) = 0) :
    owes history = false := by
  induction history using List.reverseRecOn with
  | nil => rfl
  | append_singleton history event ih =>
      rw [List.count_append] at none
      rw [owes_concat, ih (by omega)]
      cases event with
      | tested ready => cases ready <;> simp_all [owesAfter]
      | _ => rfl

/-- One message let through is never too many. -/
theorem prompt_once {others : ServiceRef → Option (Int × Bool)} {port keepAlive : Int32}
    {history : List Event} {world : World}
    (run : Run Step (World.start others port keepAlive) history world)
    (once : history.count (.tested true) ≤ 1) :
    PromptRun (World.start others port keepAlive) history world := by
  induction run with
  | start => exact .start
  | @step history world event next run step ih =>
      rw [List.count_append] at once
      refine .step (ih (by omega)) step fun ready same => ?_
      subst same
      cases ready with
      | false => exact .inl ((flag_lowered run).mp (test_finds step).1.symm)
      | true =>
          rw [List.count_singleton_self] at once
          exact .inr (owes_untested (by omega))

theorem goes_waiting (others : ServiceRef → Option (Int × Bool)) (port keepAlive : Int32) :
    ∃ history shared, Run Step (World.start others port keepAlive) history
        ⟨setReady (World.start others port keepAlive).client true, shared, .waiting, .sleeping⟩ ∧
      InPhase shared .registered ∧ history.all Event.ofTimer = true := by
  obtain ⟨history, shared, run, inPhase, timer, -⟩ := goes_registered others port keepAlive
  refine ⟨_, shared, run.step (.raise rfl), inPhase, ?_⟩
  rw [List.all_append, timer]
  rfl

/-- The loop takes the only message, lowers the flag and calls `mosquitto_loop`. -/
theorem goes_looping (client : MqttClient) {shared : Shared} {phase : Phase}
    (inPhase : InPhase shared phase) (one : phase.unread = 1) : ∃ after,
    Run Step ⟨client, shared, .waiting, .sleeping⟩
        [.received Inbox.timerTickMessage, .ran, .called .loop]
        ⟨setReady client false, after, .looping, .sleeping⟩ ∧
      InPhase after { phase with unread := 0 } := by
  obtain ⟨inbox, present⟩ := Option.isSome_iff_exists.mp inPhase.here
  have waits : inbox.msgs = [Inbox.timerTickMessage] := by
    have queued := inPhase.inbox
    rwa [queue_of_some present, one] at queued
  have ready : (shared.inboxes .mqttClient).bind Inbox.waitForMessage =
      some (Inbox.timerTickMessage, ⟨[], inbox.msgCount - 1⟩) := by
    rw [present]
    simp [Inbox.waitForMessage, waits]
  have takes := @Step.receive ⟨client, shared, .waiting, .sleeping⟩ rfl _ _ ready
  refine ⟨_, ((Run.one takes).step (.lower rfl)).step (.loop rfl), inPhase.table, inPhase.loop,
    inPhase.damper, inPhase.expired, ?_, ?_⟩
  · exact queue_of_some (InboxRegistry.write_same ..)
  · simp only [InboxRegistry.write_same]
    rfl

theorem setReady_ready (client : MqttClient) (ready : Bool) :
    (setReady client ready).readyForTimerTickServiceMessage = ready := rfl

/-- With the flag down no pass of the timer thread adds a message. -/
theorem passes_unread (n : Nat) (phase : Phase) : (phase.passes false n).unread = phase.unread := by
  induction n generalizing phase with
  | zero => rfl
  | succ n ih => exact ih (phase.pass false)

/-- While `mosquitto_loop` lasts for 76 ticks the flag is down, and nothing is queued behind the
message that the loop has taken. -/
theorem backlog_bounded_looping : ∃ history world,
    PromptRun (World.start (fun _ => none) 1883 60) history world ∧ world.mqtt = .looping ∧
      76 ≤ ticks history ∧ history.count (.tested true) = 1 ∧ unread world ≤ 1 := by
  obtain ⟨before, shared, run, inPhase, early⟩ := goes_waiting (fun _ => none) 1883 60
  obtain ⟨first, middle, passes, there, quiet, -⟩ := goes_passes _ .waiting 38 inPhase
  have one : (Phase.registered.passes true 38).unread = 1 := by decide +kernel
  rw [setReady_ready] at there
  generalize Phase.registered.passes true 38 = phase at one there
  obtain ⟨_, takes, empty⟩ := goes_looping _ there one
  obtain ⟨second, last, more, still, late, slow⟩ :=
    goes_passes (setReady (World.start (fun _ => none) 1883 60).client false) .looping 76 empty
  have whole := ((run.append passes).append takes).append more
  have counted := run_unread whole (start_here ..)
  rw [setReady_ready] at still
  rw [phase_unread still, passes_unread] at counted
  have one : taken (before ++ first ++ [.received Inbox.timerTickMessage, .ran, .called .loop] ++
      second) = 1 := by
    rw [taken_append, taken_append, taken_append, taken_timer early, taken_timer quiet,
      taken_timer late]
    rfl
  rw [one, start_unread] at counted
  have once : List.count (.tested true) (before ++ first ++
      [.received Inbox.timerTickMessage, .ran, .called .loop] ++ second) = 1 := by
    simpa [World.start, underway] using counted.symm
  have prompt := prompt_once whole once.le
  refine ⟨_, _, prompt, rfl, ?_, once, (backlog_bounded prompt).1⟩
  rw [ticks_append, slow]
  exact Nat.le_add_left ..

/-- The loop takes a message of another kind and is busy with it. -/
theorem goes_received (client : MqttClient) {shared : Shared} {phase : Phase}
    (inPhase : InPhase shared phase) (empty : phase.unread = 0) {msg : InboxMsg}
    (other : msg.inboxMsgType ≠ .timerTickMessage) : ∃ history after,
    Run Step ⟨client, shared, .waiting, .sleeping⟩ history
      ⟨client, after, .received msg.inboxMsgType, .sleeping⟩ ∧ InPhase after phase := by
  obtain ⟨inbox, present⟩ := Option.isSome_iff_exists.mp inPhase.here
  have none : inbox.msgs = [] := by
    have queued := inPhase.inbox
    rwa [queue_of_some present, empty] at queued
  have told : addMessageTo shared.inboxes .mqttClient msg .mqttClient =
      some (inbox.addMessage msg) := by
    rw [addMessageTo_of_some present, InboxRegistry.write_same]
  have ready : (addMessageTo shared.inboxes .mqttClient msg .mqttClient).bind
      Inbox.waitForMessage = some (msg, ⟨[], inbox.msgCount + 1 - 1⟩) := by
    rw [told]
    simp [Inbox.waitForMessage, Inbox.addMessage, none]
  have tells := @Step.tell ⟨client, shared, .waiting, .sleeping⟩ .mqttClient msg other
  refine ⟨_, _, (Run.one tells).step (.receive rfl ready), inPhase.table, inPhase.loop,
    inPhase.damper, inPhase.expired, ?_, ?_⟩
  · rw [empty]
    exact queue_of_some (InboxRegistry.write_same ..)
  · simp only [InboxRegistry.write_same]
    rfl

/-- While a single `mosquitto_publish` lasts for 76 ticks, two timer messages are queued. -/
theorem backlog_overflows : ∃ history world,
    Run Step (World.start (fun _ => none) 1883 60) history world ∧
      world.mqtt = .publishing [] ∧ 1 < unread world := by
  obtain ⟨_, _, run, registered, -⟩ := goes_waiting (fun _ => none) 1883 60
  obtain ⟨_, _, busy, inPhase⟩ := @goes_received _ _ _ registered rfl
    (.ofType .displayBrightHigh) nofun
  have calls := ((run.append busy).step (.display rfl rfl)).step (.publish rfl)
  obtain ⟨_, _, passes, there, -⟩ := goes_passes _ (.publishing []) 76 inPhase
  have two : (Phase.registered.passes true 76).unread = 2 := by decide +kernel
  refine ⟨_, _, calls.append passes, rfl, ?_⟩
  rw [phase_unread there]
  exact two ▸ Nat.lt_succ_self 1

end OClock.TimerBacklog
