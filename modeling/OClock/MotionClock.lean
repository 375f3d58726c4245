import OClock.DisplayChanges
import OClock.SteadySamples

/-!
The time since the last change of the motion, as the sensor counts it in hours, minutes and
seconds, and what the clock of the display makes of it.
-/

namespace OClock.MotionClock
open InboxRegistry StatusReport MotionSensor SteadySamples DisplayInternal
open DisplayChanges (changeDisplayMode_enters)

/-! ### The clock of the sensor -/

/-- The sensor after a sequence of readings, from the first one it ever makes. -/
def sampled (inboxes : Inboxes) (samples : List Bool) : MotionInfo × Inboxes :=
  samples.foldl (fun sensor reading => (checkMotionSensor sensor.1 sensor.2 reading).2)
    (cleared, inboxes)

/-- `lastChangedHour * 3600 + lastChangedMin * 60 + lastChangedSec` -/
def lastChanged (motionInfo : MotionInfo) : Nat :=
  motionInfo.lastChangedHour.toNat * 3600 + motionInfo.lastChangedMin.toNat * 60 +
    motionInfo.lastChangedSec.toNat

/-- The record shows so many readings without a change. The hours stop at the last one while
minutes and seconds go on. -/
structure Shows (reading : Bool) (count : Nat) (motionInfo : MotionInfo) : Prop where
  motion : motionInfo.currMotionDetected = reading
  seconds : motionInfo.lastChangedSec.toNat = count % 60
  minutes : motionInfo.lastChangedMin.toNat = count / 60 % 60
  hours : motionInfo.lastChangedHour.toNat = min (count / 3600) 254

theorem toNat_succ {value : UInt8} (small : value.toNat < 255) :
    (value + 1).toNat = value.toNat + 1 := by
  rw [UInt8.toNat_add]
  exact Nat.mod_eq_of_lt (by simpa using Nat.succ_lt_succ small)

/-- A counter that stays below sixty is past its last value when it has come to sixty. -/
theorem carries_iff {value : UInt8} {count : Nat} (counts : value.toNat = count % 60) :
    59 < value + 1 ↔ count % 60 = 59 := by
  rw [UInt8.lt_iff_toNat_lt, toNat_succ (by omega), counts]
  change 59 < _ ↔ _
  omega

/-- The hours stop at 254. -/
theorem hours_saturate {value : UInt8} {hours : Nat} (counts : value.toNat = min hours 254) :
    (if value < 254 then value + 1 else value).toNat = min (hours + 1) 254 := by
  have bound : value < 254 ↔ value.toNat < 254 := UInt8.lt_iff_toNat_lt
  by_cases more : value < 254
  · have small := bound.mp more
    rw [if_pos more, toNat_succ (by omega)]
    omega
  · have full := mt bound.mpr more
    rw [if_neg more]
    omega

/-- One reading more: the carries run through seconds and minutes, and end at the hours. -/
theorem unchanged_shows {reading : Bool} {count : Nat} {motionInfo : MotionInfo}
    (shows : Shows reading count motionInfo) :
    Shows reading (count + 1) (unchanged motionInfo) := by
  obtain ⟨motion, seconds, minutes, hours⟩ := shows
  have second := toNat_succ (by omega : motionInfo.lastChangedSec.toNat < 255)
  have minute := toNat_succ (by omega : motionInfo.lastChangedMin.toNat < 255)
  unfold unchanged
  dsimp only
  -- A carry starts at the last second of a minute, and goes on at the last one of an hour.
  by_cases secondsCarry : count % 60 = 59
  · rw [if_pos ((carries_iff seconds).mpr secondsCarry)]
    by_cases minutesCarry : count / 60 % 60 = 59
    · rw [if_pos ((carries_iff minutes).mpr minutesCarry)]
      have hour : (count + 1) / 3600 = count / 3600 + 1 := by omega
      refine ⟨motion, ?_, ?_, ?_⟩
      · change 0 = _
        omega
      · change 0 = _
        omega
      · rw [hour]
        exact hours_saturate hours
    · rw [if_neg (fun more => minutesCarry ((carries_iff minutes).mp more))]
      refine ⟨motion, ?_, ?_, ?_⟩
      · change 0 = _
        omega
      · change (motionInfo.lastChangedMin + 1).toNat = _
        omega
      · change motionInfo.lastChangedHour.toNat = _
        omega
  · rw [if_neg (fun more => secondsCarry ((carries_iff seconds).mp more))]
    refine ⟨motion, ?_, ?_, ?_⟩
    · change (motionInfo.lastChangedSec + 1).toNat = _
      omega
    · change motionInfo.lastChangedMin.toNat = _
      omega
    · change motionInfo.lastChangedHour.toNat = _
      omega

theorem checked_shows {samples : List Bool} {motionInfo : MotionInfo}
    (shows : Shows (latest false samples) (steady false samples) motionInfo)
    (inboxes : Inboxes) (reading : Bool) :
    Shows (latest false (samples ++ [reading])) (steady false (samples ++ [reading]))
      (checkMotionSensor motionInfo inboxes reading).2.1 := by
  rw [latest_append, steady_append]
  unfold checkMotionSensor
  rw [shows.motion]
  by_cases same : latest false samples = reading
  · rw [if_pos same, if_pos same.symm, ← same]
    exact unchanged_shows shows
  · rw [if_neg same, if_neg (fun equal => same equal.symm)]
    exact ⟨rfl, rfl, rfl, rfl⟩

/-- Whatever the readings were, the record shows the number of the unchanged ones. -/
theorem sampled_shows (inboxes : Inboxes) (samples : List Bool) :
    Shows (latest false samples) (steady false samples) (sampled inboxes samples).1 := by
  induction samples using List.reverseRecOn with
  | nil => exact ⟨rfl, rfl, rfl, rfl⟩
  | append_singleton samples reading ih =>
      rw [sampled, List.foldl_append]
      exact checked_shows ih _ reading

theorem lastChanged_eq {reading : Bool} {count : Nat} {motionInfo : MotionInfo}
    (shows : Shows reading count motionInfo) :
    lastChanged motionInfo = min (count / 3600) 254 * 3600 + count % 3600 := by
  obtain ⟨-, seconds, minutes, hours⟩ := shows
  unfold lastChanged
  omega

/-- The readings without a change for which hours, minutes and seconds are all at their last
value. -/
def lastMoment : Nat := 254 * 3600 + 59 * 60 + 59

/-- The clock is exact until it is full, and then stays full. -/
def Exact (inboxes : Inboxes) (samples : List Bool) : Prop :=
  lastChanged (sampled inboxes samples).1 = min (steady false samples) lastMoment

/-- The clock is exact at every reading, and does not go down between equal ones. -/
def RunsExactly (inboxes : Inboxes) (samples : List Bool) : Prop :=
  ∀ past, past <+: samples → Exact inboxes past ∧
    ∀ reading, past ++ [reading] <+: samples → reading = latest false past →
      lastChanged (sampled inboxes past).1 ≤
        lastChanged (sampled inboxes (past ++ [reading])).1

theorem exact_iff (inboxes : Inboxes) (samples : List Bool) :
    Exact inboxes samples ↔ steady false samples ≤ lastMoment ∨
      steady false samples % 3600 = 3599 := by
  unfold Exact lastMoment
  rw [lastChanged_eq (sampled_shows inboxes samples)]
  omega

/-- While nothing changed for less than 255 hours, no reading sets the clock back. -/
theorem lastChanged_grows (inboxes : Inboxes) {samples : List Bool} {reading : Bool}
    (same : reading = latest false samples)
    (early : steady false (samples ++ [reading]) ≤ lastMoment) :
    lastChanged (sampled inboxes samples).1 ≤
      lastChanged (sampled inboxes (samples ++ [reading])).1 := by
  rw [lastChanged_eq (sampled_shows inboxes samples), lastChanged_eq (sampled_shows inboxes _)]
  rw [steady_append, if_pos same] at early ⊢
  unfold lastMoment at early
  omega

/-- The clock of the sensor is exact as long as it is not full; past that it shows the truth
once an hour, and falls back by an hour after each time. -/
theorem saturating_clock_iff (inboxes : Inboxes) (samples : List Bool) :
    (Exact inboxes samples ↔ steady false samples ≤ lastMoment ∨
        steady false samples % 3600 = 3599) ∧
      (RunsExactly inboxes samples ↔
        ∀ past, past <+: samples → steady false past ≤ lastMoment) := by
  refine ⟨exact_iff inboxes samples, ?_, ?_⟩
  · intro exact past earlier
    -- A longer count has come by the first one that is too long.
    by_contra late
    obtain ⟨first, before, met⟩ := steady_met false past (Nat.lt_of_not_le late)
    have shown := (exact first (before.trans earlier)).1
    rw [exact_iff, met] at shown
    revert shown
    decide
  · intro early past earlier
    refine ⟨(exact_iff inboxes past).mpr (Or.inl (early past earlier)), ?_⟩
    intro reading later same
    exact lastChanged_grows inboxes same (early _ later)

/-- After 255 hours without motion the clock is back at 254 hours. -/
theorem clock_falls_back :
    ¬ Exact createInboxes (List.replicate 918000 false) ∧
      lastChanged (sampled createInboxes (List.replicate 917999 false)).1 = 917999 ∧
      lastChanged (sampled createInboxes (List.replicate 918000 false)).1 = 914400 := by
  have shown : ∀ count, lastChanged (sampled createInboxes (List.replicate count false)).1 =
      min (count / 3600) 254 * 3600 + count % 3600 := by
    intro count
    have shows := sampled_shows createInboxes (List.replicate count false)
    rw [(steady_replicate false count).2] at shows
    exact lastChanged_eq shows
  refine ⟨?_, shown _, shown _⟩
  rw [exact_iff, (steady_replicate false _).2]
  decide

/-! ### The quiet minutes of the display -/

/-- The sensor and the display, with the inboxes between them in the scene. -/
structure World where
  motionInfo : MotionInfo
  scene : Scene

inductive Event where
  | checked (currMotionDetected : Bool)
  | displayTick500ms (surroundings : Surroundings)
  /-- Whatever else is done to the display and to the inboxes. -/
  | elsewhere (scene : Scene)

def World.surroundings (world : World) (surroundings : Surroundings) : Surroundings :=
  { surroundings with motionInfo := (getMotionValue world.motionInfo).2 }

def World.step (world : World) : Event → World
  | .checked currMotionDetected =>
      let checked := checkMotionSensor world.motionInfo world.scene.inboxes currMotionDetected
      ⟨checked.2.1, { world.scene with inboxes := checked.2.2 }⟩
  | .displayTick500ms surroundings =>
      { world with scene := displayTick500ms (world.surroundings surroundings) world.scene }
  | .elsewhere scene => { world with scene := scene }

def World.boot (scene : Scene) : World := ⟨cleared, scene⟩

def runWorld (scene : Scene) (events : List Event) : World :=
  events.foldl World.step (World.boot scene)

def Event.reading : Event → Option Bool
  | .checked currMotionDetected => some currMotionDetected
  | .displayTick500ms _ | .elsewhere _ => none

def readings (events : List Event) : List Bool := events.filterMap Event.reading

def World.mode (world : World) : DisplayMode := getDisplayMode world.scene.display

theorem readings_append (events : List Event) (event : Event) :
    readings (events ++ [event]) = readings events ++ event.reading.toList := by
  cases event <;> simp [readings, Event.reading]

/-- What is done to the display does not reach the sensor. -/
theorem runWorld_shows (scene : Scene) (events : List Event) :
    Shows (latest false (readings events)) (steady false (readings events))
      (runWorld scene events).motionInfo := by
  induction events using List.reverseRecOn with
  | nil => exact ⟨rfl, rfl, rfl, rfl⟩
  | append_singleton events event ih =>
      rw [readings_append, runWorld, List.foldl_append]
      change Shows _ _ ((runWorld scene events).step event).motionInfo
      cases event with
      | checked reading => exact checked_shows ih _ reading
      | displayTick500ms _ | elsewhere _ =>
          rw [Event.reading, Option.toList_none, List.append_nil]
          exact ih

/-- The counters of a quiet sensor tell sixteen minutes from less. -/
theorem quiet_iff {reading : Bool} {count : Nat} {motionInfo : MotionInfo}
    (shows : Shows reading count motionInfo) :
    15 < motionInfo.lastChangedMin ∨ 0 < motionInfo.lastChangedHour ↔ 960 ≤ count := by
  obtain ⟨-, -, minutes, hours⟩ := shows
  rw [UInt8.lt_iff_toNat_lt, UInt8.lt_iff_toNat_lt, minutes, hours]
  change 15 < _ ∨ 0 < _ ↔ _
  omega

theorem modeBasicClockFast_leaves (surroundings : Surroundings) (scene : Scene)
    (mode : getDisplayMode scene.display = .basicClock) :
    getDisplayMode (modeBasicClockFast surroundings scene).display ≠ .basicClock ↔
      surroundings.motionInfo.currMotionDetected = false ∧
        (15 < surroundings.motionInfo.lastChangedMin ∨
          0 < surroundings.motionInfo.lastChangedHour) := by
  unfold modeBasicClockFast
  dsimp only
  split
  · next quiet =>
    have left := (changeDisplayMode_enters .nothing none scene).2.2.1
    refine ⟨fun _ => quiet, fun _ => ?_⟩
    rw [left]
    decide
  · next busy => exact ⟨fun left => absurd mode left, fun quiet => absurd quiet busy⟩

/-- The clock gives way to the screen saver at a tick after sixteen minutes without motion,
and at no other. -/
theorem screen_saver_iff (scene : Scene) (events : List Event) (surroundings : Surroundings)
    (inClock : (runWorld scene events).mode = .basicClock) :
    ((runWorld scene events).step (.displayTick500ms surroundings)).mode ≠ .basicClock ↔
      latest false (readings events) = false ∧ 960 ≤ steady false (readings events) := by
  have shows := runWorld_shows scene events
  have handler : displayTick500ms ((runWorld scene events).surroundings surroundings)
      (runWorld scene events).scene = modeBasicClockFast
        ((runWorld scene events).surroundings surroundings) (runWorld scene events).scene := by
    unfold DisplayInternal.displayTick500ms displayTick
    rw [← World.mode, inClock]
    rfl
  have leaves := modeBasicClockFast_leaves ((runWorld scene events).surroundings surroundings)
    (runWorld scene events).scene inClock
  rw [World.step, World.mode, handler, leaves]
  exact and_congr (by rw [← shows.motion]; rfl) (quiet_iff shows)

/-- A clock that nobody comes by for sixteen minutes. -/
def clockScene : Scene := changeDisplayMode .basicClock none ⟨.static, createInboxes, []⟩

theorem quiet_readings (count : Nat) :
    readings (List.replicate count (.checked false)) = List.replicate count false := by
  induction count with
  | zero => rfl
  | succ count ih => rw [List.replicate_succ, List.replicate_succ, ← ih]; rfl

theorem checked_mode (scene : Scene) (count : Nat) :
    (runWorld scene (List.replicate count (.checked false))).mode =
      getDisplayMode scene.display := by
  induction count with
  | zero => rfl
  | succ count ih =>
      rw [List.replicate_succ', runWorld, List.foldl_append]
      exact ih

theorem clock_gives_way :
    ((runWorld clockScene (List.replicate 960 (.checked false))).step
      (.displayTick500ms ⟨cleared, 0, fun _ => [], fun _ => 0⟩)).mode ≠ .basicClock := by
  apply (screen_saver_iff clockScene _ _ (checked_mode clockScene 960)).mpr
  rw [quiet_readings, (steady_replicate false 960).1, (steady_replicate false 960).2]
  exact ⟨rfl, Nat.le_refl _⟩

end OClock.MotionClock
