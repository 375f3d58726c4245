import OClock.InboxRegistry
import OClock.LabelledRun
import OClock.LightSensor

/-!
The automatic dimming of displayInternal.cpp over the samples of the light sensor. A call of
`updateDim` shares nothing with the thread of the sensor but the values that it averages
under their lock, once, so that samples and calls take turns.
-/

namespace OClock.Dimming
open InboxRegistry LightSensor LabelledRun SlidingWindow

/-- What the function does to the matrix and to the registry, in order. -/
inductive DimCall where
  | setBrightness (brightnessParam : Int)
  | broadcast (inboxMsgType : InboxMsgType) (threadIdFrom : ThreadId)
  deriving DecidableEq

def currRoomIsDark (lastRoomIsDark : Bool) (lightValue : UInt32) : Bool :=
  if lastRoomIsDark then decide (lightValue < darkRoomThresholdHighWaterMark)
  else decide (lightValue < darkRoomThresholdLowWaterMark)

/-- The calls made for a change. -/
def dimCalls (currRoomIsDark : Bool) : List DimCall :=
  [.setBrightness (if currRoomIsDark then 1 else 16),
    .broadcast (if currRoomIsDark then .displayBrightLow else .displayBrightHigh) .display]

/-- The new `roomIsDark`, and the calls made. -/
def updateDim (lastRoomIsDark : Bool) (lightValue : UInt32) : Bool × List DimCall :=
  let currRoomIsDark := currRoomIsDark lastRoomIsDark lightValue
  if lastRoomIsDark = currRoomIsDark then (lastRoomIsDark, [])
  else (currRoomIsDark, dimCalls currRoomIsDark)

structure World where
  lightValues : LightValues
  roomIsDark : Bool

/-- The HT1632 comes up bright. -/
def World.start : World := ⟨[], false⟩

inductive Event where
  | doSensorRead (currRead0 currRead1 : Int)
  | updateDim (lightValue : UInt32) (lastRoomIsDark currRoomIsDark : Bool) (calls : List DimCall)
  deriving DecidableEq

inductive Step : World → Event → World → Prop
  | doSensorRead {world : World} {analogInput : AnalogInput} {lightValues : LightValues} :
      doSensorRead analogInput world.lightValues = .ok lightValues →
      Step world (.doSensorRead (analogInput.readAnalog 0) (analogInput.readAnalog 1))
        { world with lightValues := lightValues }
  | updateDim {world : World} {lightValue : UInt32} {currRoomIsDark : Bool}
      {calls : List DimCall} :
      getLightValue world.lightValues = lightValue →
      updateDim world.roomIsDark lightValue = (currRoomIsDark, calls) →
      Step world (.updateDim lightValue world.roomIsDark currRoomIsDark calls)
        { world with roomIsDark := currRoomIsDark }

/-! ### What a history says -/

def storedBy : Event → Option Int
  | .doSensorRead currRead0 currRead1 => some (Int.tdiv (currRead0 + currRead1) 2)
  | .updateDim .. => none

/-- The samples, oldest first. -/
def stored (history : List Event) : List Int := history.filterMap storedBy

def darkBy (dark : Bool) : Event → Bool
  | .doSensorRead .. => dark
  | .updateDim _ _ currRoomIsDark _ => currRoomIsDark

/-- The display is bright until a call says otherwise. -/
def darkAfter (history : List Event) : Bool := history.foldl darkBy false

def isChange : Event → Bool
  | .doSensorRead .. => false
  | .updateDim _ lastRoomIsDark currRoomIsDark _ => lastRoomIsDark != currRoomIsDark

def DimCall.message : DimCall → Option InboxMsgType
  | .setBrightness _ => none
  | .broadcast inboxMsgType _ => some inboxMsgType

def broadcastsBy : Event → List InboxMsgType
  | .doSensorRead .. => []
  | .updateDim _ _ _ calls => calls.filterMap DimCall.message

def broadcasts (history : List Event) : List InboxMsgType := history.flatMap broadcastsBy

/-- Low, High, Low, and so on. -/
def alternate (count : Nat) : List InboxMsgType :=
  (List.range count).map fun i => if i % 2 = 0 then .displayBrightLow else .displayBrightHigh

/-! ### One step -/

theorem updateDim_eq (lastRoomIsDark : Bool) (lightValue : UInt32) :
    updateDim lastRoomIsDark lightValue =
      (currRoomIsDark lastRoomIsDark lightValue,
        if lastRoomIsDark = currRoomIsDark lastRoomIsDark lightValue then []
        else dimCalls (currRoomIsDark lastRoomIsDark lightValue)) := by
  unfold updateDim
  dsimp only
  split
  · next same => rw [← same]
  · rfl

theorem becomes_dark (lightValue : UInt32) :
    currRoomIsDark false lightValue = true ↔ lightValue < 460 := decide_eq_true_iff

theorem becomes_bright (lightValue : UInt32) :
    currRoomIsDark true lightValue = false ↔ 600 ≤ lightValue :=
  decide_eq_false_iff_not.trans UInt32.not_lt

/-- What the samples so far and the last call have left. -/
structure Told (history : List Event) (world : World) : Prop where
  window : world.lightValues = (stored history).rtake maxLightValuesSize
  inRange : ∀ value ∈ stored history, InRange value
  dark : world.roomIsDark = darkAfter history
  alternates : broadcasts history = alternate (broadcasts history).length
  parity : world.roomIsDark = decide ((broadcasts history).length % 2 = 1)

@[simp] theorem stored_append (history later : List Event) :
    stored (history ++ later) = stored history ++ stored later := List.filterMap_append

theorem darkAfter_concat (history : List Event) (event : Event) :
    darkAfter (history ++ [event]) = darkBy (darkAfter history) event := by
  rw [darkAfter, List.foldl_append]
  rfl

theorem broadcasts_concat (history : List Event) (event : Event) :
    broadcasts (history ++ [event]) = broadcasts history ++ broadcastsBy event := by
  simp [broadcasts]

theorem alternate_succ (count : Nat) :
    alternate (count + 1) = alternate count ++
      [if count % 2 = 0 then .displayBrightLow else .displayBrightHigh] := by
  simp [alternate, List.range_succ]

theorem told_sample {history : List Event} {world : World} (told : Told history world)
    {analogInput : AnalogInput} {lightValues : LightValues}
    (read : doSensorRead analogInput world.lightValues = .ok lightValues) :
    Told (history ++ [.doSensorRead (analogInput.readAnalog 0) (analogInput.readAnalog 1)])
      { world with lightValues := lightValues } := by
  obtain ⟨within, rfl⟩ := doSensorRead_ok read
  have silent := broadcasts_concat history
    (.doSensorRead (analogInput.readAnalog 0) (analogInput.readAnalog 1))
  rw [broadcastsBy, List.append_nil] at silent
  constructor
  · rw [stored_append, told.window]
    exact push_latest (by decide) _ _
  · intro value there
    rw [stored_append] at there
    rcases List.mem_append.mp there with earlier | last
    · exact told.inRange value earlier
    · exact List.mem_singleton.mp last ▸ within
  · rw [darkAfter_concat]
    exact told.dark
  · rw [silent]
    exact told.alternates
  · rw [silent]
    exact told.parity

theorem told_call {history : List Event} {world : World} (told : Told history world)
    (lightValue : UInt32) :
    Told (history ++ [.updateDim lightValue world.roomIsDark
        (updateDim world.roomIsDark lightValue).1 (updateDim world.roomIsDark lightValue).2])
      { world with roomIsDark := (updateDim world.roomIsDark lightValue).1 } := by
  rw [updateDim_eq]
  generalize currRoomIsDark world.roomIsDark lightValue = curr
  have unsampled : ∀ calls, stored (history ++
      [.updateDim lightValue world.roomIsDark curr calls]) = stored history := by
    intro calls
    rw [stored_append]
    exact List.append_nil _
  have said : broadcasts (history ++ [.updateDim lightValue world.roomIsDark curr
      (if world.roomIsDark = curr then [] else dimCalls curr)]) = broadcasts history ++
        if world.roomIsDark = curr then [] else
          [if curr then .displayBrightLow else .displayBrightHigh] := by
    rw [broadcasts_concat]
    split <;> rfl
  have parity := told.parity
  refine ⟨?_, ?_, ?_, ?_, ?_⟩
  · rw [unsampled]
    exact told.window
  · rw [unsampled]
    exact told.inRange
  · rw [darkAfter_concat]
    rfl
  -- The parity of the broadcasts tells which of the two comes next.
  · rw [said]
    split
    · rw [List.append_nil]
      exact told.alternates
    · next changed =>
      rw [List.length_append, List.length_singleton, alternate_succ, ← told.alternates]
      congr 2
      cases curr <;> simp_all
  · rw [said]
    split
    · next same =>
      rw [List.append_nil, ← same]
      exact told.parity
    · next changed =>
      rw [List.length_append, List.length_singleton]
      cases curr <;> simp_all <;> omega

theorem told {history : List Event} {world : World} (run : Run Step .start history world) :
    Told history world := by
  refine run.invariant Told ⟨rfl, List.forall_mem_nil _, rfl, rfl, rfl⟩ ?_
  intro history world event next _ moves held
  cases moves with
  | doSensorRead read => exact told_sample held read
  | updateDim average decided =>
      have call := told_call held (getLightValue world.lightValues)
      rw [average, decided] at call
      exact call

/-! ### Between two changes -/

theorem quiet_dark {world : World} {history : List Event} {later : World}
    (run : Run Step world history later) (quiet : ∀ event ∈ history, isChange event = false) :
    later.roomIsDark = world.roomIsDark := by
  induction run with
  | start => rfl
  | step _ moves ih =>
      have before := ih fun event there => quiet event (List.mem_append_left _ there)
      have last := quiet _ (List.mem_append_right _ List.mem_cons_self)
      cases moves with
      | doSensorRead _ => exact before
      | updateDim _ _ =>
          simp only [isChange, bne_eq_false_iff_eq] at last
          exact last ▸ before

/-- A change is decided on an average that is past the threshold of its side. -/
theorem change_light {world next : World} {event : Event} (moves : Step world event next)
    (change : isChange event = true) :
    next.lightValues = world.lightValues ∧
      (world.roomIsDark = false ∧ next.roomIsDark = true ∧ getLightValue world.lightValues < 460 ∨
      world.roomIsDark = true ∧ next.roomIsDark = false ∧
        600 ≤ getLightValue world.lightValues) := by
  cases moves with
  | doSensorRead _ => cases change
  | updateDim average decided =>
      refine ⟨rfl, ?_⟩
      simp only [isChange, bne_iff_ne] at change
      rw [updateDim_eq] at decided
      obtain ⟨decided, _⟩ := Prod.mk.inj decided
      subst average decided
      cases dark : world.roomIsDark with
      | false =>
          rw [dark] at change
          have turned := Bool.eq_true_of_not_eq_false (Ne.symm change)
          exact Or.inl ⟨rfl, turned, (becomes_dark _).mp turned⟩
      | true =>
          rw [dark] at change
          have turned := Bool.eq_false_of_not_eq_true (Ne.symm change)
          exact Or.inr ⟨rfl, turned, (becomes_bright _).mp turned⟩

/-- The average of ten samples crosses the gap between the thresholds in two samples at
the soonest: one of them moves the sum by 1023, and the sums lie 1401 apart. -/
theorem two_samples {samples more : List Int} (ten : 10 ≤ samples.length)
    (within : ∀ value ∈ samples ++ more, InRange value)
    (crosses : getLightValue (samples.rtake 10) < 460 ∧
        600 ≤ getLightValue ((samples ++ more).rtake 10) ∨
      600 ≤ getLightValue (samples.rtake 10) ∧
        getLightValue ((samples ++ more).rtake 10) < 460) :
    2 ≤ more.length := by
  have average : ∀ stream : List Int, 10 ≤ stream.length → (∀ value ∈ stream, InRange value) →
      ((getLightValue (stream.rtake 10)).toNat : Int) = (stream.rtake 10).sum / 10 := by
    intro stream full inside
    apply getLightValue_full
    · exact fun value there => inside value (List.mem_of_mem_drop there)
    · rw [List.rtake, List.length_drop, maxLightValuesSize]
      omega
  have first := average samples ten fun value there => within value (List.mem_append_left _ there)
  have second := average (samples ++ more)
    (by rw [List.length_append]; omega) within
  have near := latest_sum_near (by decide) ten more within
  rw [abs_le, nsmul_eq_mul] at near
  unfold maxAdcValue at near
  simp only [UInt32.lt_iff_toNat_lt, UInt32.le_iff_toNat_le] at crosses
  have low : (460 : UInt32).toNat = 460 := rfl
  have high : (600 : UInt32).toNat = 600 := rfl
  omega

/-- What a call in a history was decided by, and what it did. -/
theorem call_decided {earlier later : List Event} {world : World} {lightValue : UInt32}
    {lastRoomIsDark currRoomIsDark : Bool} {calls : List DimCall}
    (run : Run Step .start
      (earlier ++ .updateDim lightValue lastRoomIsDark currRoomIsDark calls :: later) world) :
    lightValue = getLightValue ((stored earlier).rtake 10) ∧
      lastRoomIsDark = darkAfter earlier ∧
      (currRoomIsDark, calls) = updateDim lastRoomIsDark lightValue := by
  obtain ⟨left, _, before, moves, _⟩ := run.around
  have held := told before
  cases moves with
  | updateDim average decided =>
      refine ⟨?_, held.dark, decided.symm⟩
      rw [← average, held.window]
      rfl

/-- Samples between two changes that no other change parts. -/
theorem samples_between {earlier between later : List Event} {first second : Event}
    {world : World}
    (run : Run Step .start (earlier ++ first :: between ++ second :: later) world)
    (firstChange : isChange first = true) (secondChange : isChange second = true)
    (quiet : ∀ event ∈ between, isChange event = false) (ten : 10 ≤ (stored earlier).length) :
    2 ≤ (stored between).length := by
  obtain ⟨right, _, before, secondMoves, _⟩ := run.around
  obtain ⟨left, middle, origin, firstMoves, rest⟩ := before.around
  have heldLeft := told origin
  have heldRight := told before
  have same := quiet_dark rest quiet
  obtain ⟨unsampled, firstLight⟩ := change_light firstMoves firstChange
  obtain ⟨_, secondLight⟩ := change_light secondMoves secondChange
  have samples : stored (earlier ++ first :: between) = stored earlier ++ stored between := by
    cases first with
    | doSensorRead _ _ => cases firstChange
    | updateDim _ _ _ _ => exact List.filterMap_append
  have within := heldRight.inRange
  rw [samples] at within
  apply two_samples ten within
  rw [heldLeft.window] at firstLight
  rw [heldRight.window, samples] at secondLight
  rw [same] at secondLight
  -- Consecutive changes go opposite ways: the first one left the state that the second ends.
  rcases firstLight with ⟨_, dark, low⟩ | ⟨_, bright, high⟩
  · rcases secondLight with ⟨still, _⟩ | ⟨_, _, high⟩
    · exact absurd (dark.symm.trans still) (by decide)
    · exact Or.inl ⟨low, high⟩
  · rcases secondLight with ⟨_, _, low⟩ | ⟨still, _⟩
    · exact Or.inr ⟨high, low⟩
    · exact absurd (bright.symm.trans still) (by decide)

/-- The display follows the average of the latest ten samples with hysteresis. Every call is
decided by the average and the state before it, every change is one `setBrightness` and one
broadcast, the broadcasts alternate, and no single sample takes it there and back. -/
theorem dimming_hysteresis {history : List Event} {world : World}
    (run : Run Step .start history world) :
    world.roomIsDark = darkAfter history ∧
    (∀ earlier later lightValue lastRoomIsDark currRoomIsDark calls,
      history = earlier ++
        .updateDim lightValue lastRoomIsDark currRoomIsDark calls :: later →
      lightValue = getLightValue ((stored earlier).rtake 10) ∧
      lastRoomIsDark = darkAfter earlier ∧
      (lastRoomIsDark = false → (currRoomIsDark = true ↔ lightValue < 460)) ∧
      (lastRoomIsDark = true → (currRoomIsDark = false ↔ 600 ≤ lightValue)) ∧
      calls = if lastRoomIsDark = currRoomIsDark then []
        else [.setBrightness (if currRoomIsDark then 1 else 16),
          .broadcast (if currRoomIsDark then .displayBrightLow else .displayBrightHigh)
            .display]) ∧
    broadcasts history = alternate (broadcasts history).length ∧
    (∀ earlier first between second later,
      history = earlier ++ first :: between ++ second :: later →
      isChange first = true → isChange second = true →
      (∀ event ∈ between, isChange event = false) →
      10 ≤ (stored earlier).length → 2 ≤ (stored between).length) := by
  have whole := told run
  refine ⟨whole.dark, ?_, whole.alternates, ?_⟩
  · rintro earlier later lightValue lastRoomIsDark currRoomIsDark calls rfl
    obtain ⟨average, before, decided⟩ := call_decided run
    rw [updateDim_eq] at decided
    obtain ⟨rfl, rfl⟩ := Prod.mk.inj decided
    refine ⟨average, before, ?_, ?_, rfl⟩
    · rintro rfl
      exact becomes_dark lightValue
    · rintro rfl
      exact becomes_bright lightValue
  · rintro earlier first between second later rfl
    exact samples_between run

/-- A converter with one reading on both channels. -/
def steady (value : Fin 1024) : AnalogInput :=
  ⟨fun _ => value.val, fun _ => by unfold maxAdcValue; omega⟩

def samples (values : List (Fin 1024)) : List Event :=
  values.map fun value => .doSensorRead value.val value.val

theorem run_samples (world : World) (values : List (Fin 1024)) :
    Run Step world (samples values)
      { world with
        lightValues := values.foldl (fun window value =>
          push maxLightValuesSize window (Int.tdiv (value.val + value.val) 2))
          world.lightValues } := by
  induction values using List.reverseRecOn with
  | nil => exact .start
  | append_singleton values value ih =>
      rw [samples, List.map_append, List.foldl_append]
      refine .step ih (@Step.doSensorRead _ (steady value) _ ?_)
      unfold doSensorRead steady
      dsimp only
      rw [if_neg (by omega)]
      rfl

def evening : List Event := samples [0, 0, 574, 574, 574, 574, 574, 574, 574, 574]
def lampOn : List Event := samples [1023, 1023]
def turned (lightValue : UInt32) (currRoomIsDark : Bool) : Event :=
  .updateDim lightValue (!currRoomIsDark) currRoomIsDark (dimCalls currRoomIsDark)

/-- Two samples can take the display back. -/
theorem dimming_hysteresis_sample : ∃ world,
    Run Step .start (evening ++ turned 459 true :: lampOn ++ [turned 663 false]) world ∧
      world.roomIsDark = false ∧ 2 ≤ (stored lampOn).length := by
  have dark : Run Step .start (evening ++ [turned 459 true]) _ :=
    .step (run_samples .start [0, 0, 574, 574, 574, 574, 574, 574, 574, 574])
      (@Step.updateDim _ 459 true (dimCalls true) rfl rfl)
  have lit : Run Step .start (evening ++ [turned 459 true] ++ lampOn ++ [turned 663 false]) _ :=
    .step (dark.append (run_samples _ [1023, 1023]))
      (@Step.updateDim _ 663 false (dimCalls false) rfl rfl)
  rw [List.append_assoc evening] at lit
  have held := dimming_hysteresis lit
  exact ⟨_, lit, held.1, held.2.2.2 evening _ lampOn _ [] rfl rfl rfl (by decide) (by decide)⟩

end OClock.Dimming
