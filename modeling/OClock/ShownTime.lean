import OClock.ShownPixels

/-!
The time that the panel shows. The seconds are drawn twice a second and the rest of the time only
now and then; what stands side by side is still the time of one reading of the clock.
-/

namespace OClock.ShownTime
open Ht1632 (bufferSecondary)
open MatrixPixels DrawCalls ClockFace FrameBuffers TextPixels FacePicture FaceUpdates
open DisplayInternal DisplayChanges DisplayPanel DisplayScreen Watching WatchedRuns FaceTime
open ShownPixels LabelledRun FontData

variable {arrays : Fonts.FontArrays} {localtime : Nat → Tm} {start now last : Nat} {face : Face}

/-! ### Runs -/

/-- The seen display goes along with any run. -/
theorem watched_run {origin world : World} {events : List Event}
    (run : Run (Step arrays) origin events world) (first : Seen) :
    ∃ seen, Run (Watched arrays) (origin, first) events (world, seen) := by
  induction run with
  | start => exact ⟨first, .start⟩
  | step _ moves ih =>
      obtain ⟨seen, ran⟩ := ih
      exact ⟨_, .step ran (.step seen moves)⟩

theorem steps_run {origin state : World × Seen} {events : List Event}
    (run : Run (Watched arrays) origin events state) :
    Run (Step arrays) origin.1 events state.1 := by
  induction run with
  | start => exact .start
  | step _ moves ih =>
      obtain ⟨_, moved⟩ := moves
      exact .step ih moved

/-! ### The panel -/

/-- The texts that tell the time of a moment, in their boxes. -/
def timeParts (timeInfo : Tm) : Parts
  | .time => some (.drawText (timeText timeInfo) 0 0 Fonts.font16x8)
  | .amPm => some (.drawText (amPmText timeInfo) 39 9 Fonts.font5x4)
  | .seconds => some (.drawText (secondsText timeInfo) 39 0 Fonts.font5x4)
  | .weekDay => some (.drawText (weekDayStr timeInfo) 49 0 Fonts.font7x5)
  | .greenDate | .redDate => some (.drawText (dateText timeInfo) 49 8 Fonts.font8x4)
  | _ => none

theorem told_parts (zone : LocalTime localtime) (told : Told localtime now last face)
    {timeInfo : Tm} (seconds : face.seconds = some timeInfo) {slot : Slot} {call : MatrixCall}
    (part : timeParts (localtime last) slot = some call) : face.parts slot = some call := by
  obtain ⟨refresh, same, -, -, counted⟩ := told
  obtain ⟨rfl, minutes⟩ := counted timeInfo seconds
  have minute := zone.minute refresh last minutes
  rw [Tm.mk.injEq] at minute
  obtain ⟨-, min, hour, mday, mon, wday⟩ := minute
  have texts : timeText face.refreshed = timeText (localtime last) ∧
      amPmText face.refreshed = amPmText (localtime last) ∧
      weekDayStr face.refreshed = weekDayStr (localtime last) ∧
      dateText face.refreshed = dateText (localtime last) := by
    rw [same]
    unfold timeText amPmText weekDayStr dateText monthStr hourOf
    rw [min, hour, mday, mon, wday]
    exact ⟨rfl, rfl, rfl, rfl⟩
  obtain ⟨time, amPm, weekDay, date⟩ := texts
  cases slot
  case time | amPm | weekDay | greenDate | redDate | seconds =>
    cases part
    simp only [Face.parts, time, amPm, weekDay, date, seconds, Option.map_some]
  all_goals cases part

/-- In its box a part of the face is shown alone. -/
theorem part_shown {parts : Parts} {display : Ht1632.Display} (on : parts.On arrays display)
    {slot : Slot} {call : MatrixCall} (part : parts slot = some call) {x : Fin 128} {y : Fin 16}
    (inside : slot.box.Holds x y) :
    Lit display (slot.board, x, y) ↔ inkOf arrays call x y = true := by
  refine (Overlay.Layout.Shows.inside on (⟨rfl, inside⟩ : face.region slot (slot.board, x, y))).trans ?_
  constructor
  · rintro ⟨-, other, there, dot⟩
    rw [part] at there
    cases there
    exact dot
  · intro dot
    exact ⟨rfl, call, part, dot⟩

/-- In any run whose ticks of half a second read the clock at most a second apart: as soon as the
seconds stand on the clock, its boxes hold the whole time of the last such tick, hours, minutes, day
and date included; and right after the tick the chips show it. -/
theorem panel_tells_time (bits : FourBits arrays) (blank : BlankSpace arrays)
    (zone : LocalTime localtime) (memory : Fin 3 → Ht1632.Cells) (panel : MatrixPanel.Panel)
    (moment : Moment) {events : List Event} (timely : Timely localtime start events now last)
    {world : World} (run : Run (Step arrays) (.start arrays memory panel moment) events world)
    (clock : getDisplayMode world.screen.panel.scene.display = .basicClock) :
    (∀ x y, Slot.seconds.box.Holds (x : Fin 128) (y : Fin 16) →
      pixel (world.matrix.display.mem Slot.seconds.board) (x : Nat) (y : Nat) = true →
      ∀ slot call, timeParts (localtime last) slot = some call →
        ∀ (x : Fin 128) (y : Fin 16), slot.box.Holds x y →
          (pixel (world.matrix.display.mem slot.board) (x : Nat) (y : Nat) = true ↔
            inkOf arrays call x y = true)) ∧
    ∀ before tick, events = before ++ [.call (.displayTick .ms500) tick] →
      ∀ slot call, timeParts (localtime last) slot = some call →
        ∀ (x : Fin 128) (y : Fin 16), slot.box.Holds x y →
          (chipPixel world.matrix.panel slot.board (x : Nat) (y : Nat) = true ↔
            inkOf arrays call x y = true) := by
  obtain ⟨seen, ran⟩ := watched_run run ⟨.message, []⟩
  have timed := timely.timed zone
  have told := run_told bits blank zone memory panel moment timely ran
  have followed := run_follows bits blank (start_follows arrays memory panel moment) timed ran
  have mode : seen.showing.mode = .basicClock := followed.agrees.mode.symm.trans clock
  obtain ⟨shown, same⟩ : ∃ shown, seen.showing = .clock shown := by
    cases same : seen.showing with
    | clock shown => exact ⟨shown, rfl⟩
    | message | nothing _ =>
        rw [same] at mode
        cases mode
  have on := followed.agrees.on
  dsimp only at on
  rw [same] at on
  have whole : ∀ timeInfo, shown.seconds = some timeInfo →
      ∀ slot call, timeParts (localtime last) slot = some call →
        ∀ (x : Fin 128) (y : Fin 16), slot.box.Holds x y →
          (pixel (world.matrix.display.mem slot.board) (x : Nat) (y : Nat) = true ↔
            inkOf arrays call x y = true) := by
    intro timeInfo seconds slot call part x y inside
    exact part_shown on.2 (told_parts zone (told shown same) seconds part) inside
  constructor
  · intro x y inside lit
    have dot := (Overlay.Layout.Shows.inside on.2
      (⟨rfl, inside⟩ : face.region .seconds (Slot.seconds.board, x, y))).mp lit
    obtain ⟨-, call, part, -⟩ := dot
    obtain ⟨timeInfo, seconds, -⟩ := Option.map_eq_some_iff.mp part
    exact whole timeInfo seconds
  · rintro before tick rfl slot call part x y inside
    obtain ⟨seconds, chips⟩ :=
      run_halfSecond bits blank (start_follows arrays memory panel moment) timed ran same
    have board : slot.board ≠ bufferSecondary := by cases slot <;> decide
    rw [chips _ board]
    exact whole _ seconds slot call part x y inside

/-- The left of the first 0 of the seconds, and the top of the 1 of 12:00. -/
theorem noon_lit : inkOf fontData (.drawText (secondsText noon) 39 0 Fonts.font5x4) 39 1 = true ∧
    inkOf fontData (.drawText (timeText noon) 0 0 Fonts.font16x8) 4 0 = true := by decide +kernel

theorem panel_tells_time_boot :
    ∃ world, Run (Step fontData)
        (.start fontData (fun _ => Vector.replicate Ht1632.addrSpaceSize 0) switchedOff still)
        (bootSeconds ++ [halfSecond]) world ∧
      pixel (world.matrix.display.mem Slot.seconds.board) 39 1 = true ∧
      pixel (world.matrix.display.mem Slot.time.board) 4 0 = true ∧
      chipPixel world.matrix.panel Slot.time.board 4 0 = true ∧
      ∀ slot call, timeParts noon slot = some call →
        ∀ (x : Fin 128) (y : Fin 16), slot.box.Holds x y →
          (pixel (world.matrix.display.mem slot.board) (x : Nat) (y : Nat) = true ↔
              inkOf fontData call x y = true) ∧
            (chipPixel world.matrix.panel slot.board (x : Nat) (y : Nat) = true ↔
              inkOf fontData call x y = true) := by
  obtain ⟨world, seen, watched, -, scene⟩ := runs_go_on fontData
    (fun _ => Vector.replicate Ht1632.addrSpaceSize 0) switchedOff still
    (bootSeconds ++ [halfSecond])
  have timed := bootSeconds_timed halfSecond (atNoon_timed MessageColumns.quiet)
  have mode := (congrArg (fun scene => getDisplayMode scene.display) scene).trans bootSeconds_mode
  obtain ⟨buffers, chips⟩ := panel_tells_time fontData_bits fontData_blank utc_localTime _
    switchedOff still bootSeconds_timely (steps_run watched) mode
  have shown := chips bootSeconds still rfl
  have followed := run_follows fontData_bits fontData_blank (start_follows _ _ _ _) timed watched
  obtain ⟨face, clock⟩ : ∃ face, seen.showing = .clock face := by
    have agreed : seen.showing.mode = .basicClock := followed.agrees.mode.symm.trans mode
    cases same : seen.showing with
    | clock face => exact ⟨face, rfl⟩
    | message | nothing _ =>
        rw [same] at agreed
        cases agreed
  -- The seconds are on the chips, and the chips show the buffers.
  have same := (run_halfSecond fontData_bits fontData_blank (start_follows _ _ _ _) timed watched
    clock).2
  have inside : Slot.seconds.box.Holds (39 : Fin 128) (1 : Fin 16) := by
    constructor <;> decide
  have corner : Slot.time.box.Holds (4 : Fin 128) (0 : Fin 16) := by
    constructor <;> decide
  have seconds := (shown .seconds _ rfl 39 1 inside).mpr noon_lit.1
  have time := (shown .time _ rfl 4 0 corner).mpr noon_lit.2
  have lit := (same _ (by decide) 39 1).symm.trans seconds
  refine ⟨world, steps_run watched, lit, (same _ (by decide) 4 0).symm.trans time, time, ?_⟩
  intro slot call part x y holds
  exact ⟨buffers 39 1 inside lit slot call part x y holds, shown slot call part x y holds⟩

end OClock.ShownTime
