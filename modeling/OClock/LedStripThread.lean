import OClock.LedStripTimeout
import OClock.TickedLoop

/-!
The thread of ledStrip.cpp between the web server, whose POSTs it takes one a pass, and the
timer, whose ticks pass at any point of the loop. How long a posted mode lasts is said in
ticks of the timer.
-/

namespace OClock.LedStripThread
open Text LedStripInternal LedStripTimeout TimerTable LabelledRun TickedLoop
open Lpd8806 (Strip clearPixelColors)

/-- The services that `runThreadLoop` registers. -/
inductive Service where
  | fastTick
  | tick1sec
  | tick10sec
  | tick1min
  deriving DecidableEq

def interval : Service → Int
  | .fastTick => millisPerTick
  | .tick1sec => 1000
  | .tick10sec => 10000
  | .tick1min => 60000

def runThreadLoop : Design Service where
  alarm := .fastTick
  pass := [.tick1sec, .tick10sec, .tick1min]
  period service := ticksFor (interval service)
  positive service := ticksFor_positive (interval service)
  apart := by decide
  distinct := by decide
  complete service := by cases service <;> decide

/-- What the loop calls `internal` for. -/
def inputOf : Label StringMap Service → Option Input
  | .handle (some postValues) => some (.doHandleModePost postValues)
  | .fast => some .fastTick
  | .look .tick1sec true => some .tick1sec
  | .look .tick10sec true => some .tick10sec
  | .look .tick1min true => some .tick1min
  | _ => none

def Calls (info : Info) (label : Label StringMap Service) (after : Info) : Prop :=
  match inputOf label with
  | none => after = info
  | some input => after = (LedStripInternal.step info input).2

/-- The destructor of `internal`; the strip is deleted after it. -/
def destroy (info : Info) : Strip := (clearPixelColorsAndShow info).2.lpd8806

abbrev World := State StringMap Service × (Info ⊕ Strip)

abbrev Step : World → Label StringMap Service → World → Prop :=
  Drives runThreadLoop Calls destroy

/-- The services are registered and `internal` is constructed; POSTs may wait already. -/
structure Launched (world : World) : Prop where
  sound : Sound runThreadLoop world.1
  top : world.1.place = .top
  constructed : ∃ transport n statics random,
    world.2 = .inl (construct transport n statics random).2

theorem launched_keeps {world : World} (launched : Launched world) :
    world.2.isLeft = world.1.place.keeps := by
  obtain ⟨-, top, transport, n, statics, random, constructed⟩ := launched
  rw [constructed, top]
  rfl

section

variable {start reached : World} {history : List (Label StringMap Service)}

theorem input_second (label : Label StringMap Service) :
    (inputOf label).any isSecond = label.hears runThreadLoop .tick1sec := by
  cases label with
  | handle job => cases job <;> rfl
  | look service rung => cases service <;> cases rung <;> rfl
  | _ => rfl

theorem input_accepts {label : Label StringMap Service} {input : Input}
    (calls : inputOf label = some input)
    (alone : ∀ other, label.handled = some other → acceptedMode other = none) :
    accepts input = false := by
  cases label with
  | handle job =>
      cases job with
      | none => cases calls
      | some postValues =>
          cases calls
          simp [accepts, alone postValues rfl]
  | look service rung => cases service <;> cases rung <;> cases calls <;> rfl
  | fast =>
      cases calls
      rfl
  | _ => cases calls

theorem calls_stand {m seconds : Nat} {T : Option Nat} {info after : Info}
    {label : Label StringMap Service} (stands : Stands m T seconds info)
    (calls : Calls info label after)
    (alone : ∀ other, label.handled = some other → acceptedMode other = none) :
    Stands m T (seconds + (label.hears runThreadLoop .tick1sec).toNat) after := by
  have second := input_second label
  unfold Calls at calls
  cases given : inputOf label with
  | none =>
      rw [given] at second calls
      rw [← second, calls]
      exact stands
  | some input =>
      rw [given] at second calls
      rw [← second, calls, Option.any_some]
      have next := step_stands stands (input_accepts given alone)
      cases same : isSecond input <;> rw [same] at next <;> exact next

/-- A mode stands where the seconds that the thread heard have brought it. -/
theorem run_stand {m : Nat} {T : Option Nat} {state : State StringMap Service} {info : Info}
    (stands : Stands m T 0 info) (run : Run Step (state, .inl info) history reached)
    (alone : ∀ other ∈ handled history, acceptedMode other = none) :
    ∀ now, reached.2 = .inl now → Stands m T (heard runThreadLoop .tick1sec history) now := by
  have all := run_object (fun history info =>
    (∀ other ∈ handled history, acceptedMode other = none) →
      Stands m T (heard runThreadLoop .tick1sec history) info) (fun _ => stands) ?_ run
  · exact fun now there => all now there alone
  · intro history label object after stood calls alone
    rw [handled_concat] at alone
    rw [heard, countP_concat]
    refine calls_stand (stood fun other there => alone other (List.mem_append_left _ there))
      calls fun other there => alone other (List.mem_append_right _ ?_)
    rw [there]
    exact List.mem_singleton_self other

theorem run_off (launched : Launched start) (run : Run Step start history reached) :
    ∀ strip, reached.2 = .inr strip → Off strip := by
  refine run_remains Off (fun info => showStrip_off (clearPixelColors_off info.lpd8806)) ?_ run
  obtain ⟨-, -, transport, n, statics, random, constructed⟩ := launched
  rw [constructed]
  exact nofun

theorem accepted_stands {postValues : StringMap} {m : Nat}
    (accepted : acceptedMode postValues = some m) (info : Info) :
    Stands m (secondsFor postValues) 0 (doHandleModePost postValues info).2 := by
  obtain ⟨index, secs⟩ := accepted_changes accepted info
  have given := timeoutOf_seconds postValues
  unfold Stands
  cases timeout : secondsFor postValues with
  | none =>
      rw [timeout] at given
      exact ⟨index, secs.symm ▸ given⟩
  | some T =>
      rw [timeout] at given
      dsimp only at given ⊢
      rw [if_pos (Nat.zero_le T)]
      exact ⟨index, by rw [secs, given]; simp⟩

end

theorem fast_ticks : runThreadLoop.period runThreadLoop.alarm = 2 := rfl

theorem second_ticks : runThreadLoop.period .tick1sec = 84 := rfl

/-- From any run of the thread, the timer and the web server, the end of the program included: a
POST of a mode that no later POST replaces is handled after those that it finds waiting, which
cost a pass each, and the passes keep up with the timer while no fast tick rings unheard. The
strip is then in that mode until the thread hears more than `T` one-second services, which takes
`T - 1` of their periods at least and, if none rings unheard, `T + 2` at most; and the end of the
thread leaves it off. -/
theorem posted_mode_in_time {start world posted reached : World}
    {before after : List (Label StringMap Service)} {postValues : StringMap} {m T : Nat}
    (launched : Launched start) (run : Run Step start before world)
    (post : Step world (.post postValues) posted) (later : Run Step posted after reached)
    (accepted : acceptedMode postValues = some m) (timeout : secondsFor postValues = some T)
    (alone : ∀ other ∈ TickedLoop.posted after, acceptedMode other = none) :
    (world.1.jobs.length < passes after →
      ∃ first second, after = first ++ .handle (some postValues) :: second ∧
        handled first = world.1.jobs ∧ passes first = world.1.jobs.length ∧
        (missed .fastTick first = 0 → ticks first ≤ (world.1.jobs.length + 3) * 2)) ∧
      (∀ info, reached.2 = .inl info →
        (missed .fastTick after = 0 → ticks after ≤ (passes after + 3) * 2) ∧
        ∀ first second, after = first ++ .handle (some postValues) :: second →
          handled first = world.1.jobs →
            (heard runThreadLoop .tick1sec second ≤ T → info.currModeIndex = m) ∧
              (T < heard runThreadLoop .tick1sec second →
                info.currModeIndex = 0 ∧ Off info.lpd8806) ∧
              (ticks second + 84 < T * 84 → info.currModeIndex = m) ∧
              (missed .tick1sec second = 0 → (T + 2) * 84 < ticks second →
                info.currModeIndex = 0 ∧ Off info.lpd8806)) ∧
      ∀ strip, reached.2 = .inr strip → Off strip := by
  have sound := run_sound launched.sound (driven_loop run)
  have kept := run_keeps (launched_keeps launched) run
  have kept' := run_keeps kept ((Run.one post).append later)
  refine ⟨posted_handled sound post later, fun info there => ?_,
    run_off launched ((run.step post).append later)⟩
  rw [there] at kept'
  refine ⟨few_passes_in_time (post_sound sound post).2 (driven_loop later) kept'.symm,
    fun first second cut turn => ?_⟩
  rw [cut] at later alone
  obtain ⟨object, after, state, calls, ready, rest, replaced⟩ :=
    handled_next sound kept post later turn
  -- No later POST is accepted, so only the seconds that are heard move the countdown on.
  have stands : Stands m (some T) (heard runThreadLoop .tick1sec second) info := by
    refine run_stand ?_ rest (fun other there => alone other (replaced.subset there)) info there
    rw [show after = (doHandleModePost postValues object).2 from calls, ← timeout]
    exact accepted_stands accepted object
  have early (few : heard runThreadLoop .tick1sec second ≤ T) : info.currModeIndex = m := by
    unfold Stands at stands
    dsimp only at stands
    rw [if_pos few] at stands
    exact stands.1
  have late (many : T < heard runThreadLoop .tick1sec second) :
      info.currModeIndex = 0 ∧ Off info.lpd8806 := by
    unfold Stands at stands
    dsimp only at stands
    rw [if_neg (Nat.not_le.mpr many)] at stands
    exact ⟨stands.index, stands.off⟩
  refine ⟨early, late, fun few => early ?_, fun heardAll many => late ?_⟩
  · have most := heard_most ready (driven_loop rest) .tick1sec
    rw [second_ticks] at most
    omega
  · have least := heard_least ready (driven_loop rest)
      (registered_keeps runThreadLoop kept'.symm .tick1sec)
    rw [second_ticks] at least
    omega

def fillForm : StringMap := (∅ : StringMap).insert ledStripParamLedStripMode (bytes "2")

/-- Two seconds of the scan mode. -/
def scanForm : StringMap :=
  ((∅ : StringMap).insert ledStripParamLedStripMode (bytes "4")).insert ledStripParamTimeout
    (bytes "2")

def idle : State StringMap Service := ⟨[], fun _ => false, runThreadLoop.period, [], .top⟩

def launch (jobs : List StringMap) : World :=
  ({ idle with jobs := jobs }, .inl (construct .spiOutput 240 .new fun _ => 0).2)

/-- Rounds of two ticks and a pass. -/
def rounds (n : Nat) : List (Choice StringMap) :=
  .loop :: (List.replicate n (List.replicate 10 .timer ++ List.replicate 8 .loop)).flatten

/-- A last pass, and the end of the thread. -/
def ending : List (Choice StringMap) :=
  List.replicate 10 .timer ++ List.replicate 7 .loop ++ .stopper :: List.replicate 6 .loop

theorem calls_total (info : Info) (label : Label StringMap Service) :
    ∃ after, Calls info label after := by
  unfold Calls
  cases inputOf label with
  | none => exact ⟨info, rfl⟩
  | some input => exact ⟨_, rfl⟩

theorem launch_launched (jobs : List StringMap) : Launched (launch jobs) := by
  refine ⟨⟨fun service => ?_, fun _ => Nat.le_refl _, List.nodup_nil, nofun⟩, rfl, .spiOutput, 240,
    .new, fun _ => 0, rfl⟩
  exact runThreadLoop.positive service

theorem early_played :
    (play runThreadLoop (rounds 30) (launch [fillForm, scanForm]).1).any (fun result =>
      ticks result.1 = 60 ∧ passes result.1 = 30 ∧ posted result.1 = [] ∧
        result.2.place.keeps = true) = true := by
  decide +kernel

theorem late_played :
    (play runThreadLoop (rounds 175) (launch [fillForm, scanForm]).1).any (fun result =>
      ticks result.1 = 350 ∧ passes result.1 = 175 ∧ posted result.1 = [] ∧
        missed .fastTick result.1 = 0 ∧ missed .tick1sec result.1 = 0 ∧
        result.2.place.keeps = true) = true := by
  decide +kernel

theorem ending_played :
    (play runThreadLoop (rounds 30 ++ ending) (launch [fillForm, scanForm]).1).any (fun result =>
      posted result.1 = [] ∧ result.2.place.keeps = false) = true := by
  decide +kernel

theorem posted_mode_sample : ∃ first second third, ∃ early late ended : World,
    Step (launch [fillForm]) (.post scanForm) (launch [fillForm, scanForm]) ∧
      Run Step (launch [fillForm, scanForm]) first early ∧
      (∃ before after info, first = before ++ .handle (some scanForm) :: after ∧
        handled before = [fillForm] ∧ early.2 = .inl info ∧ info.currModeIndex = 4) ∧
      Run Step (launch [fillForm, scanForm]) second late ∧ ticks second = 350 ∧
      (∃ info, late.2 = .inl info ∧ info.currModeIndex = 0 ∧ Off info.lpd8806) ∧
      Run Step (launch [fillForm, scanForm]) third ended ∧
      ∃ strip, ended.2 = .inr strip ∧ Off strip := by
  have waits : Run Step (launch []) [.post fillForm] (launch [fillForm]) :=
    .one (.step (.post fillForm rfl nofun) nofun rfl)
  have post : Step (launch [fillForm]) (.post scanForm) (launch [fillForm, scanForm]) :=
    .step (.post scanForm rfl nofun) nofun rfl
  have accepted : acceptedMode scanForm = some 4 := by decide +kernel
  have timeout : secondsFor scanForm = some 2 := by decide +kernel
  have kept := launched_keeps (launch_launched [fillForm, scanForm])
  obtain ⟨first, early, soon, ⟨sixty, thirty, alone, here⟩, owned⟩ :=
    play_driven calls_total kept early_played
  obtain ⟨second, late, long, ⟨many, each, alone', prompt, all, here'⟩, owned'⟩ :=
    play_driven calls_total kept late_played
  obtain ⟨third, ended, whole, ⟨alone'', gone⟩, owned''⟩ :=
    play_driven calls_total kept ending_played
  obtain ⟨now, there⟩ := Sum.isLeft_iff.mp (owned.trans here)
  obtain ⟨last, there'⟩ := Sum.isLeft_iff.mp (owned'.trans here')
  obtain ⟨strip, left⟩ := Sum.isRight_iff.mp (Sum.isLeft_eq_false.mp (owned''.trans gone))
  obtain ⟨handles, stays, -⟩ := posted_mode_in_time (launch_launched []) waits post soon accepted
    timeout (by simp [alone])
  obtain ⟨before, after, rfl, turn, -, -⟩ := handles (by rw [thirty]; decide)
  obtain ⟨handles', stays', -⟩ := posted_mode_in_time (launch_launched []) waits post long accepted
    timeout (by simp [alone'])
  obtain ⟨before', after', rfl, turn', -, brief⟩ := handles' (by rw [each]; decide)
  refine ⟨_, _, third, early, late, ended, post, soon, ⟨before, after, now, rfl, turn, there, ?_⟩,
    long, many, ⟨last, there', ?_⟩, whole, strip, left, ?_⟩
  · rw [ticks_cut] at sixty
    exact ((stays now there).2 before after rfl turn).2.2.1 (by omega)
  · rw [ticks_cut] at many
    rw [missed_cut] at all prompt
    have soon' : ticks before' ≤ 8 := brief (Nat.eq_zero_of_add_eq_zero_right prompt)
    exact ((stays' last there').2 before' after' rfl turn').2.2.2
      (Nat.eq_zero_of_add_eq_zero_left all) (by omega)
  · exact (posted_mode_in_time (launch_launched []) waits post whole accepted timeout
      (by simp [alone''])).2.2 strip left

end OClock.LedStripThread
