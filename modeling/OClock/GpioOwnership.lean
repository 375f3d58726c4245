import OClock.GpiodV2

/-!
Ownership of the line requests: what the backend holds is what `lines_` lists, whichever
call of the library fails.
-/

namespace OClock.GpioOwnership
open GpiodV2

def Effect.grant : Effect → Option Request
  | .granted request .. => some request
  | _ => none

def Effect.release : Effect → Option Request
  | .released request => some request
  | _ => none

def granted (effects : List Effect) : List Request := effects.filterMap Effect.grant

def released (effects : List Effect) : List Request := effects.filterMap Effect.release

theorem granted_append (before after : List Effect) :
    granted (before ++ after) = granted before ++ granted after := List.filterMap_append ..

theorem released_append (before after : List Effect) :
    released (before ++ after) = released before ++ released after := List.filterMap_append ..

/-- The requests granted and not released are those of the lines, one for a pin. -/
structure Owns (gpio : GpiodV2Gpio) (effects : List Effect) : Prop where
  older : ∀ request ∈ granted effects, request < gpio.nextRequest
  once : (granted effects).Nodup
  gone : (released effects).Nodup
  owed : ∀ request ∈ released effects, request ∈ granted effects
  held : ∀ request, request ∈ granted effects ∧ request ∉ released effects ↔
    ∃ (pin : Int) (line : Line), gpio.lines[pin]? = some line ∧ line.request = request
  apart : ∀ (pin other : Int) (line twin : Line), gpio.lines[pin]? = some line →
    gpio.lines[other]? = some twin → line.request = twin.request → pin = other

theorem owns_none {gpio : GpiodV2Gpio} (none : gpio.lines = ∅) : Owns gpio [] := by
  have absent : ∀ (pin : Int) (line : Line), gpio.lines[pin]? ≠ some line := by
    intro pin line found
    simp [none] at found
  refine ⟨List.forall_mem_nil _, List.nodup_nil, List.nodup_nil, List.forall_mem_nil _,
    fun request => ?_, ?_⟩
  · constructor
    · rintro ⟨inside, _⟩
      cases inside
    · rintro ⟨pin, line, found, _⟩
      exact absurd found (absent pin line)
  · intro pin other line twin found
    exact absurd found (absent pin line)

/-- Effects that grant and release nothing. -/
theorem owns_append {gpio : GpiodV2Gpio} {effects more : List Effect} (owns : Owns gpio effects)
    (grants : granted more = []) (releases : released more = []) :
    Owns gpio (effects ++ more) := by
  have same : granted (effects ++ more) = granted effects := by
    rw [granted_append, grants, List.append_nil]
  have alike : released (effects ++ more) = released effects := by
    rw [released_append, releases, List.append_nil]
  obtain ⟨older, once, gone, owed, held, apart⟩ := owns
  rw [← same] at older once owed held
  rw [← alike] at gone owed held
  exact ⟨older, once, gone, owed, held, apart⟩

/-! ### A configuration -/

theorem releaseOld_lines (gpio : GpiodV2Gpio) (pin other : Int) :
    (releaseOld gpio pin).2.lines[other]? = if pin = other then none else gpio.lines[other]? := by
  unfold releaseOld
  cases found : gpio.lines[pin]? with
  | none =>
      by_cases hit : pin = other
      · subst hit
        simp [found]
      · simp [hit]
  | some old => exact OrderedMap.lookup_erase ..

theorem releaseOld_released (gpio : GpiodV2Gpio) (pin : Int) :
    released (releaseOld gpio pin).1 = (gpio.lines[pin]?).toList.map Line.request := by
  unfold releaseOld
  cases gpio.lines[pin]? <;> rfl

theorem releaseOld_granted (gpio : GpiodV2Gpio) (pin : Int) :
    granted (releaseOld gpio pin).1 = [] := by
  unfold releaseOld
  cases gpio.lines[pin]? <;> rfl

theorem releaseOld_kept (gpio : GpiodV2Gpio) (pin : Int) :
    (releaseOld gpio pin).2.nextRequest = gpio.nextRequest ∧
      (releaseOld gpio pin).2.chip = gpio.chip ∧
      (releaseOld gpio pin).2.lineCount = gpio.lineCount := by
  unfold releaseOld
  cases gpio.lines[pin]? <;> exact ⟨rfl, rfl, rfl⟩

theorem releaseOld_owns {gpio : GpiodV2Gpio} {effects : List Effect} (owns : Owns gpio effects)
    (pin : Int) : Owns (releaseOld gpio pin).2 (effects ++ (releaseOld gpio pin).1) := by
  have lines := releaseOld_lines gpio pin
  have grants : granted (effects ++ (releaseOld gpio pin).1) = granted effects := by
    rw [granted_append, releaseOld_granted, List.append_nil]
  have releases := releaseOld_released gpio pin
  have kept := (releaseOld_kept gpio pin).1
  cases found : gpio.lines[pin]? with
  | none =>
      have idle : releaseOld gpio pin = ([], gpio) := by simp [releaseOld, found]
      rw [idle, List.append_nil]
      exact owns
  | some old =>
      rw [found, Option.toList_some, List.map_singleton] at releases
      -- The request of the pin is held, so it was not released before.
      have owned := (owns.held old.request).mpr ⟨pin, old, found, rfl⟩
      refine ⟨?_, ?_, ?_, ?_, fun request => ?_, ?_⟩
      · rw [grants, kept]
        exact owns.older
      · rw [grants]
        exact owns.once
      · rw [released_append, releases]
        exact List.concat_eq_append ▸ owns.gone.concat owned.2
      · intro request inside
        rw [released_append, releases, List.mem_append, List.mem_singleton] at inside
        rw [grants]
        rcases inside with before | rfl
        · exact owns.owed request before
        · exact owned.1
      · rw [grants, released_append, releases, List.mem_append, List.mem_singleton]
        constructor
        · rintro ⟨inside, kept⟩
          rw [not_or] at kept
          obtain ⟨other, line, listed, same⟩ := (owns.held request).mp ⟨inside, kept.1⟩
          refine ⟨other, line, ?_, same⟩
          rw [lines, if_neg, listed]
          rintro rfl
          rw [found] at listed
          cases listed
          exact kept.2 same.symm
        · rintro ⟨other, line, listed, same⟩
          rw [lines] at listed
          split at listed
          · cases listed
          · rename_i different
            have still := (owns.held request).mpr ⟨other, line, listed, same⟩
            refine ⟨still.1, ?_⟩
            rintro (before | rfl)
            · exact still.2 before
            · exact different (owns.apart pin other old line found listed same.symm)
      · intro one other line twin first second same
        rw [lines] at first second
        split at first
        · cases first
        · split at second
          · cases second
          · exact owns.apart one other line twin first second same

/-- The line of a new request. -/
def grantLine (gpio : GpiodV2Gpio) (pin : Int) (direction : LineDirection) : GpiodV2Gpio :=
  { gpio with
    lines := gpio.lines.insertIfNew pin ⟨gpio.nextRequest, direction⟩
    nextRequest := gpio.nextRequest + 1 }

theorem grantLine_lines {gpio : GpiodV2Gpio} {pin : Int} (absent : gpio.lines[pin]? = none)
    (direction : LineDirection) (other : Int) :
    (grantLine gpio pin direction).lines[other]? =
      if pin = other then some ⟨gpio.nextRequest, direction⟩ else gpio.lines[other]? :=
  OrderedMap.lookup_insertIfNew gpio.lines _ absent other

theorem grantLine_owns {gpio : GpiodV2Gpio} {effects : List Effect} (owns : Owns gpio effects)
    {pin : Int} (absent : gpio.lines[pin]? = none) (direction : LineDirection)
    (initialValue : GpioValue) :
    Owns (grantLine gpio pin direction)
      (effects ++ [.granted gpio.nextRequest pin direction initialValue]) := by
  have fresh : gpio.nextRequest ∉ granted effects :=
    fun inside => Nat.lt_irrefl _ (owns.older _ inside)
  have lines := grantLine_lines absent direction
  have grants : granted (effects ++ [.granted gpio.nextRequest pin direction initialValue]) =
      granted effects ++ [gpio.nextRequest] := granted_append ..
  have releases : released (effects ++ [.granted gpio.nextRequest pin direction initialValue]) =
      released effects := by
    rw [released_append]
    exact List.append_nil _
  -- The request of another pin is an older one.
  have elsewhere : ∀ (other : Int) (line : Line), gpio.lines[other]? = some line →
      line.request ≠ gpio.nextRequest := by
    intro other line listed same
    have owned := (owns.held line.request).mpr ⟨other, line, listed, rfl⟩
    exact fresh (same ▸ owned.1)
  refine ⟨?_, ?_, ?_, ?_, fun request => ?_, ?_⟩
  · intro request inside
    rw [grants, List.mem_append, List.mem_singleton] at inside
    rcases inside with before | rfl
    · exact Nat.lt_succ_of_lt (owns.older request before)
    · exact Nat.lt_succ_self _
  · rw [grants]
    exact List.concat_eq_append ▸ owns.once.concat fresh
  · rw [releases]
    exact owns.gone
  · intro request inside
    rw [releases] at inside
    rw [grants, List.mem_append]
    exact .inl (owns.owed request inside)
  · rw [grants, releases, List.mem_append, List.mem_singleton]
    constructor
    · rintro ⟨before | rfl, kept⟩
      · obtain ⟨other, line, listed, same⟩ := (owns.held request).mp ⟨before, kept⟩
        refine ⟨other, line, ?_, same⟩
        rw [lines, if_neg, listed]
        rintro rfl
        rw [absent] at listed
        cases listed
      · exact ⟨pin, _, by rw [lines, if_pos rfl], rfl⟩
    · rintro ⟨other, line, listed, same⟩
      rw [lines] at listed
      split at listed
      · cases listed
        subst same
        exact ⟨.inr rfl, fun inside => fresh (owns.owed _ inside)⟩
      · have owned := (owns.held request).mpr ⟨other, line, listed, same⟩
        exact ⟨.inl owned.1, owned.2⟩
  · intro one other line twin first second same
    rw [lines] at first second
    split at first
    · split at second
      · rename_i here there
        exact here.symm.trans there
      · cases first
        exact absurd same.symm (elsewhere other twin second)
    · split at second
      · cases second
        exact absurd same (elsewhere one line first)
      · exact owns.apart one other line twin first second same

def InRange (lineCount : Nat) (pin : Int) : Prop := 0 ≤ pin ∧ pin < lineCount

instance (lineCount : Nat) (pin : Int) : Decidable (InRange lineCount pin) := by
  unfold InRange
  infer_instance

/-- A configuration is refused, or releases the old request and then fails or requests the
line. -/
theorem configure_cases {gpio : GpiodV2Gpio} (ready : gpio.chip = true) (pin : Int)
    (direction : LineDirection) (initialValue : GpioValue) (attempt : Attempt) :
    (¬InRange gpio.lineCount pin ∧ ∃ error,
      configure gpio pin direction initialValue attempt = (refused error, gpio)) ∨
    (InRange gpio.lineCount pin ∧ ∃ error,
      configure gpio pin direction initialValue attempt =
        (⟨.error error, (releaseOld gpio pin).1⟩, (releaseOld gpio pin).2)) ∨
    (InRange gpio.lineCount pin ∧
      configure gpio pin direction initialValue attempt =
        (⟨.ok none, (releaseOld gpio pin).1 ++
            [.granted (releaseOld gpio pin).2.nextRequest pin direction initialValue]⟩,
          grantLine (releaseOld gpio pin).2 pin direction)) := by
  unfold configure ensureInitialized
  rw [if_pos ready]
  by_cases outside : pin < 0 ∨ (gpio.lineCount : Int) ≤ pin
  · refine .inl ⟨fun inside => ?_, _, if_pos outside⟩
    rcases outside with below | above
    · exact Int.not_lt.mpr inside.1 below
    · exact Int.not_lt.mpr above inside.2
  · have inside : InRange gpio.lineCount pin := by
      rw [not_or] at outside
      exact ⟨Int.not_lt.mp outside.1, Int.not_le.mp outside.2⟩
    simp only [if_neg outside]
    cases failedStep direction attempt with
    | some operation => exact .inr (.inl ⟨inside, _, rfl⟩)
    | none => exact .inr (.inr ⟨inside, rfl⟩)

/-! ### Reads and writes -/

theorem getConfiguredLine_found {gpio : GpiodV2Gpio} (ready : gpio.chip = true) {pin : Int}
    {direction : LineDirection} (operation : Text.Bytes) {line : Line}
    (listed : gpio.lines[pin]? = some line) (same : line.direction = direction) :
    getConfiguredLine gpio pin direction operation = .ok line := by
  unfold getConfiguredLine ensureInitialized
  simp only [if_pos ready, listed, if_pos same]

theorem getConfiguredLine_missing {gpio : GpiodV2Gpio} (ready : gpio.chip = true) {pin : Int}
    {direction : LineDirection} (operation : Text.Bytes)
    (missing : (gpio.lines[pin]?).map Line.direction ≠ some direction) :
    ∃ error, getConfiguredLine gpio pin direction operation = .error error := by
  unfold getConfiguredLine ensureInitialized
  rw [if_pos ready]
  cases listed : gpio.lines[pin]? with
  | none => exact ⟨_, rfl⟩
  | some line =>
      rw [listed] at missing
      have different : line.direction ≠ direction := fun same => missing (congrArg some same)
      simp only [if_neg different]
      exact ⟨_, rfl⟩

theorem read_quiet (gpio : GpiodV2Gpio) (pin errorNumber : Int) (value : GpioValue) :
    granted (read gpio pin errorNumber value).effects = [] ∧
      released (read gpio pin errorNumber value).effects = [] := by
  unfold GpiodV2.read
  cases getConfiguredLine gpio pin .input (Text.bytes "read") <;> exact ⟨rfl, rfl⟩

theorem write_quiet (gpio : GpiodV2Gpio) (pin : Int) (value : GpioValue) (errorNumber : Int) :
    granted (write gpio pin value errorNumber).effects = [] ∧
      released (write gpio pin value errorNumber).effects = [] := by
  unfold write
  cases getConfiguredLine gpio pin .output (Text.bytes "write") <;> exact ⟨rfl, rfl⟩

/-! ### Runs -/

def Call.pin : Call → Int
  | .configureInput pin _ | .configureOutput pin _ _ | .read pin _ _ | .write pin _ _ => pin

/-- The direction a call asks for, `none` for reads and writes. -/
def Call.asks : Call → Option LineDirection
  | .configureInput _ _ => some .input
  | .configureOutput _ _ _ => some .output
  | _ => none

def Outcome.succeeded (outcome : Outcome) : Bool := outcome.result.isOk

/-- What the most recent configuration of a pin in range gave it: its direction, `none` when
the configuration failed. -/
def attempted (lineCount : Nat) (pin : Int) (last : Option LineDirection)
    (entry : Call × Outcome) : Option LineDirection :=
  match Call.asks entry.1 with
  | none => last
  | some direction =>
      if Call.pin entry.1 = pin ∧ InRange lineCount pin then
        if Outcome.succeeded entry.2 then some direction else none
      else last

def lastAttempt (lineCount : Nat) (pin : Int) (entries : List (Call × Outcome)) :
    Option LineDirection := entries.foldl (attempted lineCount pin) none

/-- The state after some effects, when the last attempts are known. -/
structure Sound (lineCount : Nat) (gpio : GpiodV2Gpio) (effects : List Effect)
    (last : Int → Option LineDirection) : Prop where
  ready : gpio.chip = true
  count : gpio.lineCount = lineCount
  owns : Owns gpio effects
  directions : ∀ pin : Int, (gpio.lines[pin]?).map Line.direction = last pin

theorem releaseOld_absent (gpio : GpiodV2Gpio) (pin : Int) :
    (releaseOld gpio pin).2.lines[pin]? = none := by rw [releaseOld_lines, if_pos rfl]

theorem configure_sound {lineCount : Nat} {gpio : GpiodV2Gpio} {effects : List Effect}
    {last : Int → Option LineDirection} (sound : Sound lineCount gpio effects last) (pin : Int)
    (direction : LineDirection) (initialValue : GpioValue) (attempt : Attempt) :
    Sound lineCount (configure gpio pin direction initialValue attempt).2
      (effects ++ (configure gpio pin direction initialValue attempt).1.effects)
      fun other => if pin = other ∧ InRange lineCount other then
        if Outcome.succeeded (configure gpio pin direction initialValue attempt).1 then
          some direction else none
        else last other := by
  have absent := releaseOld_absent gpio pin
  obtain ⟨_, chip, count⟩ := releaseOld_kept gpio pin
  have owned := releaseOld_owns sound.owns pin
  -- Out of range nothing happens; otherwise the old request goes first, even when the new one
  -- is refused.
  rcases configure_cases sound.ready pin direction initialValue attempt with
    ⟨outside, error, result⟩ | ⟨inside, error, result⟩ | ⟨inside, result⟩
  · rw [result]
    refine ⟨sound.ready, sound.count, owns_append sound.owns rfl rfl, fun other => ?_⟩
    rw [sound.count] at outside
    rw [if_neg (by rintro ⟨rfl, inside⟩; exact outside inside), sound.directions]
  · rw [result]
    refine ⟨chip.trans sound.ready, count.trans sound.count, owned, fun other => ?_⟩
    rw [sound.count] at inside
    rw [releaseOld_lines]
    by_cases hit : pin = other
    · subst hit
      rw [if_pos rfl, if_pos ⟨rfl, inside⟩]
      rfl
    · rw [if_neg hit, if_neg (fun both => hit both.1), sound.directions]
  · rw [result]
    refine ⟨chip.trans sound.ready, count.trans sound.count, ?_, fun other => ?_⟩
    · rw [← List.append_assoc]
      exact grantLine_owns owned absent direction initialValue
    · rw [sound.count] at inside
      rw [grantLine_lines absent]
      by_cases hit : pin = other
      · subst hit
        rw [if_pos rfl, if_pos ⟨rfl, inside⟩]
        rfl
      · rw [if_neg hit, if_neg (fun both => hit both.1), releaseOld_lines, if_neg hit,
          sound.directions]

theorem step_sound {lineCount : Nat} {gpio : GpiodV2Gpio} {effects : List Effect}
    {last : Int → Option LineDirection} (sound : Sound lineCount gpio effects last)
    (call : Call) :
    Sound lineCount (step gpio call).2 (effects ++ (step gpio call).1.effects)
      fun pin => attempted lineCount pin (last pin) (call, (step gpio call).1) := by
  cases call with
  | configureInput pin attempt => exact configure_sound sound pin .input .low attempt
  | configureOutput pin initialValue attempt =>
      exact configure_sound sound pin .output initialValue attempt
  | read pin errorNumber value =>
      obtain ⟨grants, releases⟩ := read_quiet gpio pin errorNumber value
      exact ⟨sound.ready, sound.count, owns_append sound.owns grants releases,
        sound.directions⟩
  | write pin value errorNumber =>
      obtain ⟨grants, releases⟩ := write_quiet gpio pin value errorNumber
      exact ⟨sound.ready, sound.count, owns_append sound.owns grants releases,
        sound.directions⟩

/-- Every effect of some answers, in order. -/
def effectsOf (outcomes : List Outcome) : List Effect := outcomes.flatMap Outcome.effects

theorem run_sound (calls : List Call) {lineCount : Nat} {gpio : GpiodV2Gpio}
    {effects : List Effect} {last : Int → Option LineDirection}
    (sound : Sound lineCount gpio effects last) :
    Sound lineCount (Machine.run step gpio calls).2
      (effects ++ effectsOf (Machine.run step gpio calls).1)
      fun pin => (calls.zip (Machine.run step gpio calls).1).foldl (attempted lineCount pin)
        (last pin) := by
  induction calls generalizing gpio effects last with
  | nil =>
      rw [show effects ++ effectsOf (Machine.run step gpio []).1 = effects from
        List.append_nil effects]
      exact sound
  | cons call rest ih =>
      have later := ih (step_sound sound call)
      rw [List.append_assoc] at later
      exact later

/-! ### Destruction -/

theorem destroy_released (gpio : GpiodV2Gpio) :
    released (destroy gpio) = gpio.lines.toList.map fun entry => entry.2.request := by
  unfold destroy releaseLines released
  rw [List.filterMap_map, ← List.filterMap_eq_map]
  rfl

theorem mem_destroy_released (gpio : GpiodV2Gpio) (request : Request) :
    request ∈ released (destroy gpio) ↔
      ∃ (pin : Int) (line : Line), gpio.lines[pin]? = some line ∧ line.request = request := by
  simp only [destroy_released, List.mem_map, Prod.exists,
    Std.ExtTreeMap.mem_toList_iff_getElem?_eq_some]

theorem destroy_once {gpio : GpiodV2Gpio} {effects : List Effect} (owns : Owns gpio effects) :
    (released (destroy gpio)).Nodup := by
  rw [destroy_released]
  refine List.pairwise_map.mpr
    (Std.ExtTreeMap.distinct_keys_toList.imp_of_mem fun {first second} one two apart same => ?_)
  have here := Std.ExtTreeMap.mem_toList_iff_getElem?_eq_some.mp one
  have there := Std.ExtTreeMap.mem_toList_iff_getElem?_eq_some.mp two
  have alike := owns.apart first.1 second.1 first.2 second.2 here there same
  rw [alike] at apart
  exact apart Std.ReflCmp.compare_self

/-- Destruction releases what is still held. -/
theorem destroy_settles {gpio : GpiodV2Gpio} {effects : List Effect} (owns : Owns gpio effects) :
    (released (effects ++ destroy gpio)).Perm (granted effects) := by
  rw [released_append]
  -- What is still held was not released, so nothing is released twice.
  have apart : (released effects ++ released (destroy gpio)).Nodup := by
    refine List.nodup_append.mpr ⟨owns.gone, destroy_once owns, ?_⟩
    intro request before other after
    rintro rfl
    have owned := (owns.held request).mpr ((mem_destroy_released gpio request).mp after)
    exact owned.2 before
  refine (List.perm_ext_iff_of_nodup apart owns.once).mpr fun request => ?_
  rw [List.mem_append, mem_destroy_released, ← owns.held]
  constructor
  · rintro (before | ⟨inside, _⟩)
    · exact owns.owed request before
    · exact inside
  · intro inside
    by_cases before : request ∈ released effects
    · exact .inl before
    · exact .inr ⟨inside, before⟩

/-! ### The contract of the backend -/

/-- The request a call replaces: the old one of a pin in range that it configures. -/
def replaced (gpio : GpiodV2Gpio) (call : Call) : List Request :=
  if Call.asks call ≠ none ∧ InRange gpio.lineCount (Call.pin call) then
    (gpio.lines[Call.pin call]?).toList.map Line.request
  else []

theorem configure_released {gpio : GpiodV2Gpio} (ready : gpio.chip = true) (pin : Int)
    (direction : LineDirection) (initialValue : GpioValue) (attempt : Attempt) :
    released (configure gpio pin direction initialValue attempt).1.effects =
      if InRange gpio.lineCount pin then (gpio.lines[pin]?).toList.map Line.request else [] := by
  rcases configure_cases ready pin direction initialValue attempt with
    ⟨outside, error, result⟩ | ⟨inside, error, result⟩ | ⟨inside, result⟩
  · rw [result, if_neg outside]
    rfl
  · rw [result, if_pos inside]
    exact releaseOld_released gpio pin
  · rw [result, if_pos inside, released_append, releaseOld_released]
    exact List.append_nil _

theorem step_released {gpio : GpiodV2Gpio} (ready : gpio.chip = true) (call : Call) :
    released (step gpio call).1.effects = replaced gpio call := by
  unfold replaced
  cases call with
  | configureInput pin attempt =>
      simp only [Call.asks, Call.pin, ne_eq, reduceCtorEq, not_false_eq_true, true_and]
      exact configure_released ready pin .input .low attempt
  | configureOutput pin initialValue attempt =>
      simp only [Call.asks, Call.pin, ne_eq, reduceCtorEq, not_false_eq_true, true_and]
      exact configure_released ready pin .output initialValue attempt
  | read pin errorNumber value => exact (read_quiet gpio pin errorNumber value).2
  | write pin value errorNumber => exact (write_quiet gpio pin value errorNumber).2

theorem configure_other {gpio : GpiodV2Gpio} (ready : gpio.chip = true) {pin other : Int}
    (different : pin ≠ other) (direction : LineDirection) (initialValue : GpioValue)
    (attempt : Attempt) :
    (configure gpio pin direction initialValue attempt).2.lines[other]? =
      gpio.lines[other]? := by
  have kept : (releaseOld gpio pin).2.lines[other]? = gpio.lines[other]? := by
    rw [releaseOld_lines, if_neg different]
  rcases configure_cases ready pin direction initialValue attempt with
    ⟨outside, error, result⟩ | ⟨inside, error, result⟩ | ⟨inside, result⟩
  · rw [result]
  · rw [result, kept]
  · rw [result, grantLine_lines (releaseOld_absent gpio pin), if_neg different, kept]

theorem step_other {gpio : GpiodV2Gpio} (ready : gpio.chip = true) (call : Call) {other : Int}
    (different : Call.pin call ≠ other) :
    (step gpio call).2.lines[other]? = gpio.lines[other]? := by
  cases call with
  | configureInput pin attempt => exact configure_other ready different .input .low attempt
  | configureOutput pin initialValue attempt =>
      exact configure_other ready different .output initialValue attempt
  | read pin errorNumber value => rfl
  | write pin value errorNumber => rfl

/-- What holds of the lines in a state that some effects led to. -/
structure OwnedExactly (gpio : GpiodV2Gpio) (effects : List Effect)
    (last : Int → Option LineDirection) : Prop where
  held : ∀ request, request ∈ granted effects ∧ request ∉ released effects ↔
    ∃ (pin : Int) (line : Line), gpio.lines[pin]? = some line ∧ line.request = request
  onePerPin : ∀ (pin other : Int) (line twin : Line), gpio.lines[pin]? = some line →
    gpio.lines[other]? = some twin → line.request = twin.request → pin = other
  grantedOnce : (granted effects).Nodup
  releasedOnce : (released (effects ++ destroy gpio)).Perm (granted effects)
  releasedByNext : ∀ call, released (step gpio call).1.effects = replaced gpio call
  writes : ∀ pin value errorNumber, last pin = some .output → ∃ line,
    gpio.lines[pin]? = some line ∧
      (write gpio pin value errorNumber).effects = [.valueWritten line.request pin value]
  writesRefused : ∀ pin value errorNumber, last pin ≠ some .output → ∃ error,
    write gpio pin value errorNumber = refused error
  reads : ∀ pin errorNumber value, last pin = some .input → ∃ line,
    gpio.lines[pin]? = some line ∧
      (GpiodV2.read gpio pin errorNumber value).effects = [.valueRead line.request pin]
  readsRefused : ∀ pin errorNumber value, last pin ≠ some .input → ∃ error,
    GpiodV2.read gpio pin errorNumber value = refused error
  failedKeeps : ∀ call error, (step gpio call).1.result = .error error →
    ∀ other : Int, other ≠ Call.pin call → (step gpio call).2.lines[other]? = gpio.lines[other]?

theorem sound_exact {lineCount : Nat} {gpio : GpiodV2Gpio} {effects : List Effect}
    {last : Int → Option LineDirection} (sound : Sound lineCount gpio effects last) :
    OwnedExactly gpio effects last := by
  have found : ∀ (pin : Int) (direction : LineDirection), last pin = some direction →
      ∃ line, gpio.lines[pin]? = some line ∧ line.direction = direction := by
    intro pin direction given
    exact Option.map_eq_some_iff.mp ((sound.directions pin).trans given)
  have missing : ∀ (pin : Int) (direction : LineDirection), last pin ≠ some direction →
      (gpio.lines[pin]?).map Line.direction ≠ some direction := by
    intro pin direction given
    rw [sound.directions pin]
    exact given
  refine ⟨sound.owns.held, sound.owns.apart, sound.owns.once, destroy_settles sound.owns,
    step_released sound.ready, ?_, ?_, ?_, ?_, ?_⟩
  · intro pin value errorNumber given
    obtain ⟨line, listed, same⟩ := found pin .output given
    refine ⟨line, listed, ?_⟩
    unfold write
    rw [getConfiguredLine_found sound.ready _ listed same]
  · intro pin value errorNumber given
    obtain ⟨error, refusal⟩ :=
      getConfiguredLine_missing sound.ready (Text.bytes "write") (missing pin .output given)
    refine ⟨error, ?_⟩
    unfold write
    rw [refusal]
  · intro pin errorNumber value given
    obtain ⟨line, listed, same⟩ := found pin .input given
    refine ⟨line, listed, ?_⟩
    unfold GpiodV2.read
    rw [getConfiguredLine_found sound.ready _ listed same]
  · intro pin errorNumber value given
    obtain ⟨error, refusal⟩ :=
      getConfiguredLine_missing sound.ready (Text.bytes "read") (missing pin .input given)
    refine ⟨error, ?_⟩
    unfold GpiodV2.read
    rw [refusal]
  · intro call error _ other different
    exact step_other sound.ready call (Ne.symm different)

theorem discoverChip_found {gpio found : GpiodV2Gpio} {host : Host}
    (result : discoverChip gpio host = .ok found) :
    found.chip = true ∧ found.lines = gpio.lines := by
  unfold discoverChip at result
  split at result
  · cases result
  · split at result
    · cases result
      exact ⟨rfl, rfl⟩
    · cases result

theorem tryInitialize_ready {gpio ready : GpiodV2Gpio} {host : Host}
    (result : tryInitialize gpio host = .ok ready) :
    ready.chip = true ∧ ready.lines = gpio.lines := by
  unfold tryInitialize at result
  split at result
  · cases result
  · rename_i found discovered
    split at result
    · cases result
    · split at result
      · cases result
      · cases result
        exact discoverChip_found discovered

theorem initializeGpio_ready (valueIo : ValueIo) (host : Host)
    (ready : (initializeGpio (.new valueIo) host).1 = true) :
    (initializeGpio (.new valueIo) host).2.1 = [] ∧
      (initializeGpio (.new valueIo) host).2.2.chip = true ∧
      (initializeGpio (.new valueIo) host).2.2.lines = ∅ := by
  have closed : ¬(GpiodV2Gpio.new valueIo).chip = true := Bool.false_ne_true
  unfold initializeGpio at ready ⊢
  rw [if_neg closed] at ready ⊢
  cases result : tryInitialize (.new valueIo) host with
  | error error => simp [result] at ready
  | ok found =>
      obtain ⟨chip, lines⟩ := tryInitialize_ready result
      exact ⟨rfl, chip, lines⟩

/-- After a successful `initialize`, in every state of every run of calls. -/
theorem lines_owned (valueIo : ValueIo) (host : Host)
    (ready : (initializeGpio (.new valueIo) host).1 = true) (calls : List Call) :
    let begun := (initializeGpio (.new valueIo) host).2
    let run := Machine.run step begun.2 calls
    OwnedExactly run.2 (begun.1 ++ effectsOf run.1)
      fun pin => lastAttempt begun.2.lineCount pin (calls.zip run.1) := by
  intro begun run
  obtain ⟨quiet, chip, none⟩ := initializeGpio_ready valueIo host ready
  have start : Sound begun.2.lineCount begun.2 begun.1 fun _ => Option.none := by
    refine ⟨chip, rfl, ?_, fun pin => ?_⟩
    · rw [show begun.1 = [] from quiet]
      exact owns_none none
    · rw [show begun.2.lines = ∅ from none]
      rfl
  exact sound_exact (run_sound calls start)

/-- A board whose controller is the expected one. -/
def board : Host where
  paths := .ok [⟨Text.bytes "/dev/gpiochip0", true, some (some expectedChipLabel, 54)⟩]
  lineName := fun offset => .ok (some (Text.bytes "GPIO" ++ Text.decimal offset))
  valueIo := .ok ()

def libgpiodValueIo : ValueIo := ⟨Text.bytes "libgpiod value ioctl", none⟩

def granting : Attempt := ⟨true, true, true, true, true, true, true, 0⟩

def busy : Attempt := { granting with requestLines := false, errno := 16 }

/-- Line 17 is configured and written, then its second configuration fails. -/
def busyCalls : List Call :=
  [.configureOutput 17 .low granting, .write 17 .high 0, .configureInput 17 busy, .read 17 0 .low]

theorem board_ready : (initializeGpio (.new libgpiodValueIo) board).1 = true := by
  decide

theorem lines_owned_sample :
    let begun := (initializeGpio (.new libgpiodValueIo) board).2
    let run := Machine.run step begun.2 busyCalls
    OwnedExactly run.2 (begun.1 ++ effectsOf run.1)
      fun pin => lastAttempt begun.2.lineCount pin (busyCalls.zip run.1) :=
  lines_owned libgpiodValueIo board board_ready busyCalls

end OClock.GpioOwnership
