import OClock.WatchedRuns

/-!
The time that the face of the clock was told. Its seconds are drawn twice a second and the rest of
the time only now and then, from readings of their own.
-/

namespace OClock.FaceTime
open Ht1632 (bufferSecondary)
open MatrixPixels DrawCalls ClockFace FrameBuffers TextPixels FacePicture FaceUpdates
open DisplayInternal DisplayChanges DisplayPanel DisplayScreen Watching WatchedRuns LabelledRun

/-! ### Readings of the clock -/

/-- `localtime_r` of the seconds since the epoch: a time zone is whole minutes away, and changes
with a minute. -/
structure LocalTime (localtime : Nat → Tm) : Prop where
  valid : ∀ time, (localtime time).Valid
  sec : ∀ time, (localtime time).tmSec = (time % 60 : Nat)
  minute : ∀ first second, first / 60 = second / 60 →
    { localtime first with tmSec := 0 } = { localtime second with tmSec := 0 }

/-- The two readings of a call, less than a minute apart and not before any earlier one. -/
structure Reads (localtime : Nat → Tm) (now first second : Nat) (moment : Moment) : Prop where
  seconds : moment.seconds = localtime first
  slow : moment.slow = localtime second
  later : now ≤ first
  order : first ≤ second
  soon : second < first + 60

/-- The time of the last reading, and that of the last half-second tick. Two such ticks are not
more than a second apart. -/
inductive Timely (localtime : Nat → Tm) (boot : Nat) : List Event → Nat → Nat → Prop where
  | start : Timely localtime boot [] boot boot
  | halfSecond {events : List Event} {now last first second : Nat} {moment : Moment}
      (earlier : Timely localtime boot events now last)
      (reads : Reads localtime now first second moment) (paced : first ≤ last + 1) :
      Timely localtime boot (events ++ [.call (.displayTick .ms500) moment]) second first
  | call {events : List Event} {now last first second : Nat} {call : Call} {moment : Moment}
      (earlier : Timely localtime boot events now last)
      (reads : Reads localtime now first second moment) (other : call ≠ .displayTick .ms500) :
      Timely localtime boot (events ++ [.call call moment]) second last
  | dictionary {events : List Event} {now last : Nat} (op : DictionaryRun.Op)
      (earlier : Timely localtime boot events now last) :
      Timely localtime boot (events ++ [.dictionary op]) now last

variable {localtime : Nat → Tm} {start now last : Nat}

theorem Timely.order {events : List Event} (timely : Timely localtime start events now last) :
    last ≤ now := by
  induction timely with
  | start => exact Nat.le_refl _
  | halfSecond _ reads _ _ => exact reads.order
  | call _ reads _ ih => exact Nat.le_trans ih (Nat.le_trans reads.later reads.order)
  | dictionary _ _ ih => exact ih

theorem Timely.timed (zone : LocalTime localtime) {events : List Event}
    (timely : Timely localtime start events now last) : ∀ event ∈ events, TimedEvent event := by
  have read : ∀ {now first second : Nat} {moment : Moment},
      Reads localtime now first second moment → Timed moment := by
    intro now first second moment reads
    exact ⟨reads.seconds ▸ zone.valid first, reads.slow ▸ zone.valid second⟩
  induction timely with
  | start =>
      intro event inside
      cases inside
  | halfSecond _ reads _ ih | call _ reads _ ih =>
      intro event inside
      rcases List.mem_append.mp inside with before | same
      · exact ih event before
      · rw [List.mem_singleton.mp same]
        exact read reads
  | dictionary op _ ih =>
      intro event inside
      rcases List.mem_append.mp inside with before | same
      · exact ih event before
      · rw [List.mem_singleton.mp same]
        trivial

/-! ### What the face was told -/

/-- The face is that of a moment, with the seconds of a later tick in the same minute. -/
def Told (localtime : Nat → Tm) (now last : Nat) (face : Face) : Prop :=
  ∃ refresh, face.refreshed = localtime refresh ∧ refresh ≤ now ∧ last / 60 ≤ refresh / 60 ∧
    ∀ timeInfo ∈ face.seconds, timeInfo = localtime last ∧ refresh / 60 = last / 60

def ToldAll (localtime : Nat → Tm) (now last : Nat) (showing : Showing) : Prop :=
  ∀ face, showing = .clock face → Told localtime now last face

variable {first second : Nat} {moment : Moment} {showing : Showing} {face : Face}

theorem Told.later (told : Told localtime now last face) {later : Nat} (order : now ≤ later) :
    Told localtime later last face := by
  obtain ⟨refresh, same, before, minute, seconds⟩ := told
  exact ⟨refresh, same, Nat.le_trans before order, minute, seconds⟩

theorem refreshed_told (reads : Reads localtime now first second moment) (order : last ≤ now)
    (dictionary : DictionaryStore.Dictionary) :
    Told localtime second last (refreshedFace moment.slow dictionary) := by
  have later : last ≤ second := Nat.le_trans order (Nat.le_trans reads.later reads.order)
  refine ⟨second, reads.slow, Nat.le_refl _, Nat.div_le_div_right later, ?_⟩
  intro timeInfo none
  cases none

/-- At the first second of a minute the face is refreshed, and before that it is of the minute of
the tick before. -/
theorem seconds_told (zone : LocalTime localtime)
    (reads : Reads localtime now first second moment) (paced : first ≤ last + 1)
    (dictionary : DictionaryStore.Dictionary) (told : Told localtime now last face) :
    Told localtime second first (secondsFace moment dictionary face) := by
  obtain ⟨refresh, same, before, minute, -⟩ := told
  have order := reads.order
  have later := reads.later
  have soon := reads.soon
  have sec : moment.seconds.tmSec = (first % 60 : Nat) := by
    rw [reads.seconds]
    exact zone.sec first
  have seconds : ∀ timeInfo ∈ (secondsFace moment dictionary face).seconds,
      timeInfo = localtime first := by
    intro timeInfo there
    cases there
    exact reads.seconds
  by_cases turns : first % 60 = 0
  · have zero : moment.seconds.tmSec = 0 := by omega
    have minutes : second / 60 = first / 60 := by omega
    refine ⟨second, ?_, Nat.le_refl _, by omega,
      fun timeInfo there => ⟨seconds timeInfo there, minutes⟩⟩
    unfold secondsFace
    rw [if_pos zero]
    exact reads.slow
  · have running : ¬ moment.seconds.tmSec = 0 := by omega
    have minutes : refresh / 60 = first / 60 := by omega
    refine ⟨refresh, ?_, by omega, by omega,
      fun timeInfo there => ⟨seconds timeInfo there, minutes⟩⟩
    unfold secondsFace
    rw [if_neg running]
    exact same

theorem enteredAll_told (reads : Reads localtime now first second moment) (order : last ≤ now)
    (changes : List Change) (dictionary : DictionaryStore.Dictionary)
    (told : ToldAll localtime second last showing) :
    ToldAll localtime second last (enteredAll moment changes dictionary showing) := by
  induction changes generalizing dictionary showing with
  | nil => exact told
  | cons change rest ih =>
      refine ih _ ?_
      cases change with
      | dimmed roomIsDark => exact told
      | entered displayMode =>
          intro face same
          cases displayMode with
          | message => cases same
          | nothing => cases same
          | basicClock =>
              cases same
              exact refreshed_told reads order dictionary

/-- The other ticks keep the time or read it anew. -/
theorem ticked_told (reads : Reads localtime now first second moment) (order : last ≤ now)
    {cadence : Cadence} (other : cadence ≠ .ms500) (screen : Screen) {seen : Seen}
    (told : ToldAll localtime now last seen.showing) :
    ToldAll localtime second last (seen.ticked cadence moment screen).showing := by
  have later : now ≤ second := Nat.le_trans reads.later reads.order
  have kept : ToldAll localtime second last seen.showing :=
    fun face same => (told face same).later later
  obtain ⟨showing, past⟩ := seen
  cases showing with
  | message => cases cadence <;> exact kept
  | nothing dot =>
      cases cadence
      case sec1 =>
        unfold Seen.ticked
        dsimp only
        split
        · exact kept
        · intro face same
          cases same
      all_goals exact kept
  | clock face =>
      cases cadence
      case ms500 => exact absurd rfl other
      case ms250 =>
        intro animated same
        cases same
        exact kept face rfl
      case sec10 =>
        intro refreshed same
        cases same
        exact refreshed_told reads order screen.dictionary
      all_goals exact kept

/-! ### Runs -/

variable {arrays : Fonts.FontArrays}

/-- A step of the display keeps what the face was told. -/
theorem call_told (reads : Reads localtime now first second moment) (order : last ≤ now)
    {call : Call} (other : call ≠ .displayTick .ms500) (before after : Screen) {seen : Seen}
    (told : ToldAll localtime now last seen.showing) :
    ToldAll localtime second last (watch before (.call call moment) after seen).showing := by
  cases call with
  | displayTick cadence =>
      refine enteredAll_told reads order _ _ (ticked_told reads order ?_ _ told)
      rintro rfl
      exact other rfl
  | handleTodo displayTodo =>
      have later : now ≤ second := Nat.le_trans reads.later reads.order
      exact enteredAll_told reads order _ _ fun face same => (told face same).later later

theorem run_told (bits : FourBits arrays) (blank : BlankSpace arrays) (zone : LocalTime localtime)
    (memory : Fin 3 → Ht1632.Cells) (panel : MatrixPanel.Panel) (moment : Moment)
    {events : List Event} (timely : Timely localtime start events now last) {state : World × Seen}
    (run : Run (Watched arrays) (Watched.start arrays memory panel moment) events state) :
    ToldAll localtime now last state.2.showing := by
  induction timely generalizing state with
  | start =>
      intro face same
      generalize none : ([] : List Event) = events at run
      cases run with
      | start => cases same
      | step _ _ => exact absurd none (List.concat_ne_nil _ _).symm
  | @halfSecond events now last first second moment earlier reads paced ih =>
      obtain ⟨⟨world, seen⟩, ran, moves⟩ := run.last
      have followed := run_follows bits blank (start_follows arrays memory panel _)
        (earlier.timed zone) ran
      obtain ⟨_, ⟨served⟩⟩ := moves
      intro shown clock
      obtain ⟨face, dictionary, -, same, rfl, -⟩ :=
        halfSecond_clock served followed.agrees.mode clock
      exact seconds_told zone reads paced dictionary (ih ran face same)
  | call earlier reads other ih =>
      obtain ⟨⟨world, seen⟩, ran, moves⟩ := run.last
      obtain ⟨_, moved⟩ := moves
      exact call_told reads earlier.order other _ _ (ih ran)
  | dictionary op earlier ih =>
      obtain ⟨⟨world, seen⟩, ran, moves⟩ := run.last
      have kept := ih ran
      obtain ⟨_, moved⟩ := moves
      exact kept

end OClock.FaceTime
