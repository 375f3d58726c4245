import OClock.MessageTimeout
import OClock.TickedLoop

/-!
The thread of display.cpp between the web server, whose POSTs it takes one a pass, and the
timer, whose ticks pass at any point of the loop.
-/

namespace OClock.DisplayThread
open Text DisplayInternal MessagePost MessageRun MessageTimeout TimerTable LabelledRun TickedLoop

/-- The services that `runThreadLoop` registers, by the tick that they stand for. -/
def interval : Cadence → Int
  | .fast => millisPerTick
  | .ms100 => 100
  | .ms250 => 250
  | .ms500 => 500
  | .sec1 => 1000
  | .sec5 => 5000
  | .sec10 => 10000
  | .sec25 => 25000
  | .min1 => 60000

def runThreadLoop : Design Cadence where
  alarm := .fast
  pass := [.ms100, .ms250, .ms500, .sec1, .sec5, .sec10, .sec25, .min1]
  period cadence := ticksFor (interval cadence)
  positive cadence := ticksFor_positive (interval cadence)
  apart := by decide
  distinct := by decide
  complete cadence := by cases cadence <;> decide

abbrev Event := Label DisplayTodo Cadence

/-- What the loop calls `internal` for, whatever the surroundings are. Other threads only take
the messages that the calls broadcast. -/
def Calls (scene : Scene) : Event → Scene → Prop
  | .handle (some displayTodo), after =>
      ∃ surroundings, after = handleTodo surroundings scene displayTodo
  | .fast, after => ∃ surroundings, after = tickOf (.fast, surroundings) scene
  | .look cadence true, after => ∃ surroundings, after = tickOf (cadence, surroundings) scene
  | _, after => after.display = scene.display

/-- The statics outlive `internal`, whose destructor only clears the chips. -/
def destroy (scene : Scene) : Scene := scene

abbrev World := State DisplayTodo Cadence × (Scene ⊕ Scene)

abbrev Step : World → Event → World → Prop := Drives runThreadLoop Calls destroy

/-- The services are registered and `internal` is constructed; POSTs may wait already. -/
structure Launched (world : World) : Prop where
  sound : Sound runThreadLoop world.1
  top : world.1.place = .top
  constructed : ∃ inboxes, world.2 = .inl (initDisplay ⟨.static, inboxes, []⟩)

theorem launched_keeps {world : World} (launched : Launched world) :
    world.2.isLeft = world.1.place.keeps := by
  obtain ⟨-, top, inboxes, constructed⟩ := launched
  rw [constructed, top]
  rfl

section

variable {start reached : World} {history : List Event}

/-- The message has been left, or so many seconds of its timeout are gone. -/
def Passed (timeout : UInt32) (seconds : Nat) (scene : Scene) : Prop :=
  getDisplayMode scene.display ≠ .message ∨
    ∃ left, Counting left scene ∧ left ≠ 0 ∧ left.toNat + seconds = timeout.toNat

theorem passed_same {timeout : UInt32} {seconds : Nat} {scene after : Scene}
    (passed : Passed timeout seconds scene) (same : after.display = scene.display) :
    Passed timeout seconds after := by
  rcases passed with gone | ⟨left, ⟨mode, data, callback⟩, some, counted⟩
  · exact .inl (same ▸ gone)
  · exact .inr ⟨left, ⟨same ▸ mode, same ▸ data, same ▸ callback⟩, some, counted⟩

theorem passed_tick {timeout : UInt32} {seconds : Nat} {scene : Scene}
    (passed : Passed timeout seconds scene) (limited : timeout ≠ forever) (tick : Tick) :
    Passed timeout (seconds + (isSecond tick).toNat) (tickOf tick scene) := by
  rcases passed with gone | ⟨left, counting, some, counted⟩
  · exact .inl (left_stays tick gone)
  · have finite : left ≠ forever := by
      rintro rfl
      have top : forever.toNat = 4294967295 := rfl
      have below := timeout.toNat_lt
      exact limited (UInt32.toNat_inj.mp (by omega))
    refine (run_counting counting some finite [tick]).imp_right ?_
    rintro ⟨further, still, positive, taken⟩
    refine ⟨further, still, positive, ?_⟩
    rw [List.countP_singleton] at taken
    cases second : isSecond tick <;> simp [second] at taken ⊢ <;> omega

def posts : DisplayTodo → Bool
  | .handleMsgModePost _ => true
  | _ => false

theorem passed_calls {timeout : UInt32} {seconds : Nat} {scene after : Scene} {label : Event}
    (passed : Passed timeout seconds scene) (limited : timeout ≠ forever)
    (calls : Calls scene label after)
    (alone : ∀ displayTodo, label.handled = some displayTodo → posts displayTodo = false) :
    Passed timeout (seconds + (label.hears runThreadLoop .sec1).toNat) after := by
  cases label with
  | handle displayTodo =>
      cases displayTodo with
      | none => exact passed_same passed calls
      | some displayTodo =>
          obtain ⟨surroundings, rfl⟩ := calls
          cases displayTodo with
          | handleMsgModePost postValues => cases alone _ rfl
          | _ => exact passed
  | fast =>
      obtain ⟨surroundings, rfl⟩ := calls
      exact passed_tick passed limited (.fast, surroundings)
  | look cadence rung =>
      cases rung with
      | false =>
          simpa [Label.hears] using passed_same passed calls
      | true =>
          obtain ⟨surroundings, rfl⟩ := calls
          simpa [Label.hears, isSecond] using passed_tick passed limited (cadence, surroundings)
  | _ => exact passed_same passed calls

theorem run_passed {timeout : UInt32} {state : State DisplayTodo Cadence} {scene : Scene}
    (passed : Passed timeout 0 scene) (limited : timeout ≠ forever)
    (run : Run Step (state, .inl scene) history reached)
    (alone : ∀ displayTodo ∈ handled history, posts displayTodo = false) :
    ∀ now, reached.2 = .inl now → Passed timeout (heard runThreadLoop .sec1 history) now := by
  have all := run_object (fun history scene =>
    (∀ displayTodo ∈ handled history, posts displayTodo = false) →
      Passed timeout (heard runThreadLoop .sec1 history) scene) (fun _ => passed) ?_ run
  · exact fun now there => all now there alone
  · intro history label object after counted calls alone
    rw [handled_concat] at alone
    rw [heard, countP_concat]
    refine passed_calls (counted fun other there => alone other (List.mem_append_left _ there))
      limited calls fun other there => alone other (List.mem_append_right _ ?_)
    rw [there]
    exact List.mem_singleton_self other

end

theorem fast_ticks : runThreadLoop.period runThreadLoop.alarm = 2 := rfl

theorem second_ticks : runThreadLoop.period .sec1 = 84 := rfl

/-- From any run of the thread, the timer and the web server: a message that no later POST
replaces is handled after the POSTs that it finds waiting, which cost a pass each, and the passes
keep up with the timer while no fast tick rings unheard. It has been left once the thread has
heard as many one-second services as its timeout says; if none rings unheard, these take one
second more than the timeout at most. -/
theorem posted_message_in_time {start world posted reached : World}
    {before after : List Event} {postValues : StringMap} (launched : Launched start)
    (run : Run Step start before world)
    (post : Step world (.post (.handleMsgModePost postValues)) posted)
    (later : Run Step posted after reached) (some : postedTimeout postValues ≠ 0)
    (limited : postedTimeout postValues ≠ forever)
    (alone : ∀ displayTodo ∈ TickedLoop.posted after, posts displayTodo = false) :
    (world.1.jobs.length < passes after →
      ∃ first second, after = first ++ .handle (.some (.handleMsgModePost postValues)) :: second ∧
        handled first = world.1.jobs ∧ passes first = world.1.jobs.length ∧
        (missed .fast first = 0 → ticks first ≤ (world.1.jobs.length + 3) * 2)) ∧
      ∀ scene, reached.2 = .inl scene →
        (missed .fast after = 0 → ticks after ≤ (passes after + 3) * 2) ∧
        ∀ first second,
          after = first ++ .handle (.some (.handleMsgModePost postValues)) :: second →
          handled first = world.1.jobs →
            ((postedTimeout postValues).toNat ≤ heard runThreadLoop .sec1 second →
              getDisplayMode scene.display ≠ .message) ∧
            (missed .sec1 second = 0 →
              ((postedTimeout postValues).toNat + 1) * 84 < ticks second →
                getDisplayMode scene.display ≠ .message) := by
  have sound := run_sound launched.sound (driven_loop run)
  have kept := run_keeps (launched_keeps launched) run
  have kept' := run_keeps kept ((Run.one post).append later)
  refine ⟨posted_handled sound post later, fun scene there => ?_⟩
  rw [there] at kept'
  refine ⟨few_passes_in_time (post_sound sound post).2 (driven_loop later) kept'.symm,
    fun first second cut turn => ?_⟩
  rw [cut] at later alone
  obtain ⟨object, after, state, ⟨surroundings, made⟩, ready, rest, replaced⟩ :=
    handled_next sound kept post later turn
  have begins : Passed (postedTimeout postValues) 0 after :=
    .inr ⟨_, made ▸ post_counting postValues surroundings object, some, rfl⟩
  have passed := run_passed begins limited rest
    (fun other there => alone other (replaced.subset there)) scene there
  have done (many : (postedTimeout postValues).toNat ≤ heard runThreadLoop .sec1 second) :
      getDisplayMode scene.display ≠ .message := by
    rcases passed with gone | ⟨left, _, positive, counted⟩
    · exact gone
    · -- Each second takes one off what is left, and nothing is left of so many.
      have more := mt UInt32.toNat_inj.mp positive
      change left.toNat ≠ 0 at more
      omega
  refine ⟨done, fun heardAll late => done ?_⟩
  have least := heard_least ready (driven_loop rest)
    (registered_keeps runThreadLoop kept'.symm .sec1)
  rw [second_ticks] at least
  omega

/-- A message for a second. -/
def secondTodo : DisplayTodo :=
  .handleMsgModePost ((∅ : StringMap).insert (bytes "timeout") (bytes "1"))

def imgTodo : DisplayTodo :=
  .handleImgBackgroundPost ((∅ : StringMap).insert (bytes "index") (bytes "3"))

def quiet : Surroundings := ⟨default, 0, fun _ => [], fun _ => 0⟩

def idle : State DisplayTodo Cadence := ⟨[], fun _ => false, runThreadLoop.period, [], .top⟩

def launch (jobs : List DisplayTodo) : World :=
  ({ idle with jobs := jobs }, .inl (initDisplay ⟨.static, InboxRegistry.createInboxes, []⟩))

/-- Rounds of two ticks and a pass. -/
def rounds (n : Nat) : List (Choice DisplayTodo) :=
  .loop :: (List.replicate n (List.replicate 20 .timer ++ List.replicate 13 .loop)).flatten

/-- A last pass, and the end of the thread with a tick and a POST in it. -/
def ending : List (Choice DisplayTodo) :=
  List.replicate 20 .timer ++ List.replicate 12 .loop ++ .stopper :: List.replicate 5 .loop ++
    List.replicate 6 .timer ++ .poster imgTodo :: List.replicate 6 .loop

theorem calls_total (scene : Scene) (label : Event) : ∃ after, Calls scene label after := by
  cases label with
  | handle displayTodo =>
      cases displayTodo with
      | none => exact ⟨scene, rfl⟩
      | some displayTodo => exact ⟨_, quiet, rfl⟩
  | fast => exact ⟨_, quiet, rfl⟩
  | look cadence rung =>
      cases rung with
      | false => exact ⟨scene, rfl⟩
      | true => exact ⟨_, quiet, rfl⟩
  | _ => exact ⟨scene, rfl⟩

theorem launch_launched (jobs : List DisplayTodo) : Launched (launch jobs) := by
  refine ⟨⟨fun cadence => ?_, fun _ => Nat.le_refl _, List.nodup_nil, nofun⟩, rfl,
    InboxRegistry.createInboxes, rfl⟩
  exact runThreadLoop.positive cadence

theorem rounds_played :
    (play runThreadLoop (rounds 90) (launch [imgTodo, secondTodo]).1).any (fun result =>
      ticks result.1 = 180 ∧ passes result.1 = 90 ∧ TickedLoop.posted result.1 = [] ∧
        missed .fast result.1 = 0 ∧ missed .sec1 result.1 = 0 ∧
        result.2.place.keeps = true) = true := by
  decide +kernel

/-- One POST finds another waiting, one waits when the thread is gone, and the nine services hear
the timer until the thread gives them up. -/
theorem ending_played :
    (play runThreadLoop (.poster secondTodo :: rounds 44) (launch [imgTodo]).1).any (fun result =>
      ticks result.1 = 88 ∧ (handled result.1).length = 2 ∧ result.2.place.keeps = true) = true ∧
    (play runThreadLoop (.poster secondTodo :: (rounds 44 ++ ending)) (launch [imgTodo]).1).any
      (fun result => ticks result.1 = 91 ∧ (handled result.1).length = 2 ∧
        discarded result.1 ≠ [] ∧ result.2.place.keeps = false) = true := by
  decide +kernel

theorem posted_message_sample : ∃ before after, ∃ reached : World, ∃ scene,
    Step (launch [imgTodo]) (.post secondTodo) (launch [imgTodo, secondTodo]) ∧
      Run Step (launch [imgTodo, secondTodo]) (before ++ .handle (some secondTodo) :: after)
        reached ∧
      handled before = [imgTodo] ∧ 168 < ticks after ∧ reached.2 = .inl scene ∧
      getDisplayMode scene.display ≠ .message := by
  have waits : Run Step (launch []) [.post imgTodo] (launch [imgTodo]) :=
    .one (.step (.post imgTodo rfl nofun) nofun rfl)
  have post : Step (launch [imgTodo]) (.post secondTodo) (launch [imgTodo, secondTodo]) :=
    .step (.post secondTodo rfl nofun) nofun rfl
  obtain ⟨history, reached, later, ⟨count, each, alone, prompt, all, here⟩, owned⟩ :=
    play_driven calls_total (launched_keeps (launch_launched _)) rounds_played
  obtain ⟨scene, there⟩ := Sum.isLeft_iff.mp (owned.trans here)
  have one : postedTimeout ((∅ : StringMap).insert (bytes "timeout") (bytes "1")) = 1 := by
    decide +kernel
  obtain ⟨handles, leaves⟩ := posted_message_in_time (launch_launched []) waits post later
    (by rw [one]; decide) (by rw [one]; decide) (by simp [alone])
  obtain ⟨before, after, rfl, turn, -, brief⟩ := handles (by rw [each]; decide)
  rw [ticks_cut] at count
  rw [missed_cut] at prompt all
  have soon : ticks before ≤ 8 := brief (Nat.eq_zero_of_add_eq_zero_right prompt)
  refine ⟨before, after, reached, scene, post, later, turn, by omega, there, ?_⟩
  refine ((leaves scene there).2 before after rfl turn).2
    (Nat.eq_zero_of_add_eq_zero_left all) ?_
  rw [one]
  change (1 + 1) * 84 < ticks after
  omega

end OClock.DisplayThread
