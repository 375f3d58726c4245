import OClock.ClockAnimations
import OClock.LabelledRun

/-!
How long the car of the basic clock is shown after the last motion in the garage. The counter
of the animation goes on in the calls that find one of the keys, and only in those.
-/

namespace OClock.GarageMotion
open Text DictionaryStore ClockAnimations

/-! ### What a call does to the counter -/

def nextCounter (sighting : Sighting) (counter : Nat) : Nat :=
  if sighting.on then 1 else if sighting.found then min animationsAfterOff (counter + 1) else counter

/-- A call that drives the car: the keys are there and the window is open. -/
def Drives (sighting : Sighting) (counter : Nat) : Prop :=
  sighting.on = true ∨ sighting.found = true ∧ counter < animationsAfterOff

theorem on_found {sighting : Sighting} (on : sighting.on = true) : sighting.found = true := by
  simp only [Sighting.on, isOn, Bool.or_eq_true, Bool.and_eq_true] at on
  simp only [Sighting.found, Bool.or_eq_true]
  exact on.imp (fun either => either.imp And.left And.left) And.left

theorem driveCar_spec (sighting : Sighting) (car : Car)
    (bounded : car.animationCounter ≤ animationsAfterOff) :
    (driveCar sighting car).2.animationCounter = nextCounter sighting car.animationCounter ∧
      ((driveCar sighting car).1.isSome = true ↔ Drives sighting car.animationCounter) := by
  have moves : ∀ car : Car, (showCar car).2.animationCounter = car.animationCounter := by
    intro car
    unfold showCar
    dsimp only
    split <;> rfl
  unfold driveCar nextCounter Drives
  -- A call that finds no key returns before it counts.
  cases found : sighting.found with
  | false =>
      have off : sighting.on = false := by
        by_contra on
        rw [on_found (Bool.eq_true_of_not_eq_false on)] at found
        cases found
      simp [off]
  | true =>
      cases sighting.on with
      | true => simp [moves, animationsAfterOff]
      | false =>
          by_cases closed : animationsAfterOff ≤ car.animationCounter
          · simp [closed]
            omega
          · simp [closed, moves]
            omega

/-! ### The counter after a history of calls -/

def counterAfter (calls : List Call) : Nat :=
  calls.foldl (fun counter call => nextCounter call.sighting counter) animationsAfterOff

theorem nextCounter_bounded (sighting : Sighting) {counter : Nat}
    (bounded : counter ≤ animationsAfterOff) :
    nextCounter sighting counter ≤ animationsAfterOff := by
  unfold nextCounter
  split
  · decide
  · split
    · exact Nat.min_le_left ..
    · exact bounded

theorem counterAfter_append (calls : List Call) (call : Call) :
    counterAfter (calls ++ [call]) = nextCounter call.sighting (counterAfter calls) :=
  List.foldl_append ..

theorem counterAfter_bounded (calls : List Call) : counterAfter calls ≤ animationsAfterOff := by
  induction calls using List.reverseRecOn with
  | nil => exact Nat.le_refl _
  | append_singleton calls call ih =>
      rw [counterAfter_append]
      exact nextCounter_bounded _ ih

/-- Since the last motion the calls that found a key were counted, and no others. -/
theorem counterAfter_since {before between : List Call} {motion : Call}
    (on : motion.sighting.on = true) (quiet : ∀ other ∈ between, other.sighting.on = false) :
    counterAfter (before ++ motion :: between) =
      min animationsAfterOff (1 + between.countP (·.sighting.found)) := by
  induction between using List.reverseRecOn with
  | nil =>
      rw [counterAfter_append, nextCounter, if_pos on]
      rfl
  | append_singleton between call ih =>
      have earlier := ih fun other inside => quiet other (List.mem_append_left _ inside)
      have off := quiet call (List.mem_append_right _ List.mem_cons_self)
      rw [← List.cons_append, ← List.append_assoc, counterAfter_append, earlier, nextCounter, off,
        List.countP_append, List.countP_singleton]
      cases call.sighting.found <;> simp
      omega

theorem counterAfter_never {calls : List Call}
    (quiet : ∀ other ∈ calls, other.sighting.on = false) :
    counterAfter calls = animationsAfterOff := by
  induction calls using List.reverseRecOn with
  | nil => rfl
  | append_singleton calls call ih =>
      have earlier := ih fun other inside => quiet other (List.mem_append_left _ inside)
      have off := quiet call (List.mem_append_right _ List.mem_cons_self)
      rw [counterAfter_append, earlier, nextCounter, off]
      cases call.sighting.found <;> simp

/-- A history without any motion, or with a last one. -/
theorem last_motion (calls : List Call) :
    (∀ other ∈ calls, other.sighting.on = false) ∨
      ∃ before motion between, calls = before ++ motion :: between ∧
        motion.sighting.on = true ∧ ∀ other ∈ between, other.sighting.on = false := by
  induction calls using List.reverseRecOn with
  | nil => exact Or.inl fun other inside => by cases inside
  | append_singleton calls call ih =>
      cases on : call.sighting.on with
      | true => exact Or.inr ⟨calls, call, [], rfl, on, fun other inside => by cases inside⟩
      | false =>
          have still : ∀ {others : List Call}, (∀ other ∈ others, other.sighting.on = false) →
              ∀ other ∈ others ++ [call], other.sighting.on = false := by
            intro others quiet other inside
            rcases List.mem_append.mp inside with earlier | last
            · exact quiet other earlier
            · rw [List.mem_singleton.mp last]
              exact on
          rcases ih with quiet | ⟨before, motion, between, rfl, moved, quiet⟩
          · exact Or.inl (still quiet)
          · exact Or.inr ⟨before, motion, between ++ [call], by simp, moved, still quiet⟩

/-! ### Runs -/

/-- Every call of a history drives the car by the counter that the calls before it left. -/
def Played (calls : List Call) : Prop :=
  ∀ before call after, calls = before ++ call :: after →
    (call.car.isSome = true ↔ Drives call.sighting (counterAfter before))

theorem played_append {calls : List Call} {call : Call} (played : Played calls)
    (drives : call.car.isSome = true ↔ Drives call.sighting (counterAfter calls)) :
    Played (calls ++ [call]) := by
  intro before other after cut
  rcases LabelledRun.concat_cut cut with ⟨rfl, rfl, rfl⟩ | ⟨earlier, rfl, rfl⟩
  · exact drives
  · exact played before other earlier rfl

theorem calls_append (events : List Event) (event : Event) :
    calls (events ++ [event]) = calls events ++
      ((step (Machine.run step ⟨.initial, .new⟩ events).2 event).1).toList := by
  unfold calls
  rw [Machine.run_append, List.filterMap_append]
  cases event <;> rfl

/-- The call that the handler makes in a world. -/
def called (world : World) : Call :=
  (modeBasicClockSDoUpDownAnimation world.animations world.dictionary).1

theorem calls_played (events : List Event) :
    (Machine.run step ⟨.initial, .new⟩ events).2.animations.car.animationCounter =
        counterAfter (calls events) ∧ Played (calls events) := by
  induction events using List.reverseRecOn with
  | nil => exact ⟨rfl, fun before call after cut => absurd cut (by simp [calls])⟩
  | append_singleton events event ih =>
      obtain ⟨counts, played⟩ := ih
      rw [calls_append, Machine.run_append]
      generalize Machine.run step ⟨.initial, .new⟩ events = reached at counts
      cases event with
      | dictionary op => simpa [step] using ⟨counts, played⟩
      | displayTick250ms =>
          have bounded := counterAfter_bounded (calls events)
          rw [← counts] at bounded
          obtain ⟨moved, drives⟩ := driveCar_spec (called reached.2).sighting
            reached.2.animations.car bounded
          rw [counts] at moved drives
          refine ⟨?_, played_append played drives⟩
          exact moved.trans (counterAfter_append _ (called reached.2)).symm

/-! ### The window -/

/-- The last 80 calls of a history. -/
def lastCalls (calls : List Call) : List Call := calls.drop (calls.length - 80)

/-- The car is drawn only when one of the last 80 calls, with the one that draws, saw motion. -/
def FollowsMotion (calls : List Call) : Prop :=
  ∀ before call after, calls = before ++ call :: after → call.car.isSome = true →
    ∃ recent ∈ lastCalls (before ++ [call]), recent.sighting.on = true

/-- A key that is found, but not on, 80 calls or more after the last motion was there in the
meantime: at least 79 of the calls in between found one. -/
def KeysStay (calls : List Call) : Prop :=
  ∀ before motion between call after, calls = before ++ motion :: (between ++ call :: after) →
    motion.sighting.on = true → (∀ other ∈ between, other.sighting.on = false) →
    call.sighting.found = true → call.sighting.on = false → 79 ≤ between.length →
    79 ≤ between.countP (·.sighting.found)

theorem lastCalls_long {before recent : List Call} (long : 80 ≤ recent.length) :
    ∀ call ∈ lastCalls (before ++ recent), call ∈ recent := by
  intro call inside
  have past : before.length ≤ (before ++ recent).length - 80 := by
    rw [List.length_append]
    omega
  rw [lastCalls, List.drop_append, List.drop_eq_nil_of_le past, List.nil_append] at inside
  exact List.mem_of_mem_drop inside

theorem lastCalls_short {before recent : List Call} (short : recent.length ≤ 80) :
    ∀ call ∈ recent, call ∈ lastCalls (before ++ recent) := by
  intro call inside
  rw [lastCalls, List.drop_append_of_le_length (by rw [List.length_append]; omega)]
  exact List.mem_append_right _ inside

theorem lastCalls_itself (before : List Call) (call : Call) : call ∈ lastCalls (before ++ [call]) :=
  lastCalls_short (by rw [List.length_singleton]; decide) call List.mem_cons_self

theorem follows_iff {calls : List Call} (played : Played calls) :
    FollowsMotion calls ↔ KeysStay calls := by
  constructor
  · intro follows before motion between call after cut on quiet found off long
    -- With fewer calls counted the window would still be open.
    by_contra few
    have shape : calls = (before ++ motion :: between) ++ call :: after := by simpa using cut
    have counts := @counterAfter_since before _ _ on quiet
    have drives : Drives call.sighting (counterAfter (before ++ motion :: between)) := by
      refine Or.inr ⟨found, ?_⟩
      rw [counts, animationsAfterOff]
      omega
    obtain ⟨recent, near, moved⟩ := follows _ _ _ shape ((played _ _ _ shape).mpr drives)
    have window : before ++ motion :: between ++ [call] =
        (before ++ [motion]) ++ (between ++ [call]) := by simp
    rw [window] at near
    have inside := lastCalls_long (by rw [List.length_append, List.length_singleton]; omega)
      recent near
    rcases List.mem_append.mp inside with middle | last
    · rw [quiet recent middle] at moved
      cases moved
    · rw [List.mem_singleton.mp last, off] at moved
      cases moved
  · intro stays before call after cut drawn
    rcases (played _ _ _ cut).mp drawn with on | ⟨found, more⟩
    · exact ⟨call, lastCalls_itself before call, on⟩
    · rcases last_motion before with quiet | ⟨earlier, motion, between, rfl, on, quiet⟩
      · rw [counterAfter_never quiet] at more
        exact absurd more (Nat.lt_irrefl _)
      · rw [counterAfter_since on quiet, animationsAfterOff] at more
        cases onNow : call.sighting.on with
        | true => exact ⟨call, lastCalls_itself _ call, onNow⟩
        | false =>
            have short : between.length < 79 := by
              by_contra long
              have many := stays earlier motion between call after (by simpa using cut) on quiet
                found onNow (by omega)
              omega
            refine ⟨motion, ?_, on⟩
            have window : earlier ++ motion :: between ++ [call] =
                earlier ++ (motion :: (between ++ [call])) := by simp
            rw [window]
            refine lastCalls_short ?_ motion List.mem_cons_self
            rw [List.length_cons, List.length_append, List.length_singleton]
            omega

/-- Whatever is done to the dictionary, the car follows recent motion exactly when no key comes
back, switched off, while the calls without one are forgotten. -/
theorem car_follows_motion_iff (events : List Event) :
    FollowsMotion (calls events) ↔ KeysStay (calls events) :=
  follows_iff (calls_played events).2

/-- Motion that is forgotten for twenty seconds and comes back as `off`. -/
def forgottenMotion : List Event :=
  [.dictionary (.add dictionaryTopicGarageMotion1 (bytes "on") (-1)), .displayTick250ms,
      .dictionary (.remove dictionaryTopicGarageMotion1)] ++
    (List.replicate 79 .displayTick250ms ++
      [.dictionary (.add dictionaryTopicGarageMotion1 (bytes "off") (-1)), .displayTick250ms])

/-- The last call draws the car, though the last 80 calls saw no motion. -/
theorem motion_forgotten : ¬ FollowsMotion (calls forgottenMotion) := by
  intro follows
  have drawn : (calls forgottenMotion).getLast?.any (·.car.isSome) = true := by decide +kernel
  have quiet : ∀ recent ∈ lastCalls (calls forgottenMotion), recent.sighting.on = false := by
    decide +kernel
  rw [Option.any_eq_true] at drawn
  obtain ⟨call, last, car⟩ := drawn
  obtain ⟨before, cut⟩ := List.getLast?_eq_some_iff.mp last
  obtain ⟨recent, near, on⟩ := follows before _ [] cut car
  rw [← cut] at near
  rw [quiet recent near] at on
  cases on

end OClock.GarageMotion
