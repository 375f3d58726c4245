import OClock.DisplayPanel
import OClock.MessageTimeout
import OClock.TextPixels

/-!
A message that scrolls is shown in passes, each of which moves the text by one column at every
fast tick until its last column has left the screen. After the passes asked for, the callback
ends the message.
-/

namespace OClock.MessagePasses
open Text Fonts DisplayInternal DisplayChanges DrawCalls MessagePost MessageRun MessageTimeout
open MessageFrame DisplayPanel

def isFast (tick : Tick) : Bool := tick.1 = .fast

/-- How often the basic clock was entered. -/
def entries (scene : Scene) : Nat := scene.changes.count (.entered .basicClock)

/-- How often a tick takes the message to the basic clock, which is what its callback does. -/
def completes (tick : Tick) (scene : Scene) : Nat :=
  if getDisplayMode scene.display = .message then entries (tickOf tick scene) - entries scene
  else 0

def completions : List Tick → Scene → Nat
  | [], _ => 0
  | tick :: rest, scene => completes tick scene + completions rest (tickOf tick scene)

/-! ### The passes of a message -/

/-- The font of a pass: a message may change it from pass to pass. -/
def passFont (data : ModeMessageData) : Nat → Font
  | 0 => data.font
  | k + 1 => if data.alternateFont then getNextFont (passFont data k) else passFont data k

def passWidth (data : ModeMessageData) (k : Nat) : Int :=
  getTextWidth data.msg (getFontWidth (passFont data k)) 1

/-- The fast ticks of a pass. -/
def passLength (data : ModeMessageData) (k : Nat) : Nat := (passWidth data k + outSize).toNat

/-- The fast ticks before a pass. -/
def passStart (data : ModeMessageData) : Nat → Nat
  | 0 => 0
  | k + 1 => passStart data k + passLength data k

theorem passLength_eq (data : ModeMessageData) (k : Nat) :
    (passLength data k : Int) = passWidth data k + outSize := by
  have width := (getTextWidth_range data.msg (passFont data k)).1
  rw [← passWidth] at width
  exact Int.toNat_of_nonneg (by rw [outSize]; omega)

theorem passStart_mono (data : ModeMessageData) {k l : Nat} (before : k ≤ l) :
    passStart data k ≤ passStart data l := by
  induction before with
  | refl => exact Nat.le_refl _
  | step _ ih => exact Nat.le_trans ih (Nat.le_add_right _ _)

/-! ### One tick -/

/-- What neither the scrolling nor the bouncing touches. -/
def fixedOf (data : ModeMessageData) :
    Bytes × Bool × Bool × UInt32 × Bool × Bool × UInt32 × Option CompletedCallback :=
  (data.msg, data.incrementX, data.alternateFont, data.displayColor, data.blink,
    data.blinkBlankInEffect, data.timeout, data.completedCallback)

/-- A message that scrolls, is neither blinking nor limited in time, and has a callback. -/
structure Scrolls (data : ModeMessageData) : Prop where
  incrementX : data.incrementX = true
  blink : data.blink = false
  blank : data.blinkBlankInEffect = false
  timeout : data.timeout = forever
  callback : data.completedCallback = some .changeDisplayModeBasicClock

/-- Whether the message bounces, and where it is when it does not. -/
def Level (shown data : ModeMessageData) : Prop :=
  (data.incrementY = 0 ↔ shown.incrementY = 0) ∧
    (shown.incrementY = 0 → data.currYFactor = shown.currYFactor)

/-- `j` fast ticks of pass `k` are over, and so many repeats are left. -/
structure InPass (shown : ModeMessageData) (repeats : Int) (k j : Nat) (scene : Scene) : Prop where
  mode : getDisplayMode scene.display = .message
  fixed : fixedOf scene.display.modeMessageData = fixedOf shown
  level : Level shown scene.display.modeMessageData
  currX : scene.display.modeMessageData.currX = j
  font : scene.display.modeMessageData.font = passFont shown k
  wd : scene.display.modeMessageData.wd = passWidth shown k
  repeats : scene.display.modeMessageData.repeats = repeats - k

/-- While the message scrolls, bouncing only moves it up and down. -/
theorem bounce_scrolling {display : Display}
    (scrolling : display.modeMessageData.incrementX = true) :
    ∃ currYFactor incrementY, bounce display =
        display.withData { display.modeMessageData with
          currYFactor := currYFactor, incrementY := incrementY } ∧
      (incrementY = 0 ↔ display.modeMessageData.incrementY = 0) ∧
      (display.modeMessageData.incrementY = 0 →
        currYFactor = display.modeMessageData.currYFactor) := by
  unfold bounce
  dsimp only
  split
  · next moving =>
    split
    · exact ⟨_, -display.modeMessageData.incrementY, rfl, by omega, fun none => absurd none moving⟩
    · split
      · unfold turnAround
        dsimp only [Display.withData]
        rw [if_pos scrolling]
        exact ⟨_, -display.modeMessageData.incrementY, rfl, by omega,
          fun none => absurd none moving⟩
      · exact ⟨_, display.modeMessageData.incrementY, rfl, Iff.rfl,
          fun none => absurd none moving⟩
  · exact ⟨_, _, rfl, Iff.rfl, fun _ => rfl⟩

variable {shown : ModeMessageData} {repeats : Int} {k j : Nat} {scene : Scene}

/-- Bouncing does not leave the pass. -/
theorem bounced_inPass (scrolls : Scrolls shown) (inPass : InPass shown repeats k j scene) :
    InPass shown repeats k j { scene with display := bounce scene.display } := by
  have scrolling : scene.display.modeMessageData.incrementX = true :=
    (congrArg (fun fixed => fixed.2.1) inPass.fixed).trans scrolls.incrementX
  obtain ⟨currYFactor, incrementY, bounced, still, same⟩ := bounce_scrolling scrolling
  rw [bounced]
  exact ⟨inPass.mode, inPass.fixed, ⟨still.trans inPass.level.1,
    fun none => (same (inPass.level.1.mpr none)).trans (inPass.level.2 none)⟩,
    inPass.currX, inPass.font, inPass.wd, inPass.repeats⟩

theorem InPass.fixed_data (inPass : InPass shown repeats k j scene) (scrolls : Scrolls shown) :
    Scrolls scene.display.modeMessageData := by
  obtain ⟨incrementX, blink, blank, timeout, callback⟩ := scrolls
  have fixed := inPass.fixed
  simp only [fixedOf, Prod.mk.injEq] at fixed
  obtain ⟨_, sameX, _, _, sameBlink, sameBlank, sameTimeout, sameCallback⟩ := fixed
  exact ⟨sameX.trans incrementX, sameBlink.trans blink, sameBlank.trans blank,
    sameTimeout.trans timeout, sameCallback.trans callback⟩

theorem fast_within (scrolls : Scrolls shown) (inPass : InPass shown repeats k j scene)
    (more : j + 1 < passLength shown k) :
    InPass shown repeats k (j + 1) (modeMessageFast scene) ∧
      (modeMessageFast scene).changes = scene.changes := by
  have length := passLength_eq shown k
  have inside : ¬ scene.display.modeMessageData.wd + outSize ≤
      scene.display.modeMessageData.currX + 1 := by
    rw [inPass.wd, inPass.currX]
    omega
  let moved := scene.display.withData
    { scene.display.modeMessageData with currX := scene.display.modeMessageData.currX + 1 }
  have scrolled : scroll scene.display = (false, moved) := by
    unfold scroll
    dsimp only
    rw [if_pos (inPass.fixed_data scrolls).incrementX, if_neg inside]
  have stepped : InPass shown repeats k (j + 1) { scene with display := moved } :=
    ⟨inPass.mode, inPass.fixed, inPass.level, congrArg (· + 1) inPass.currX, inPass.font,
      inPass.wd, inPass.repeats⟩
  unfold modeMessageFast
  rw [scrolled]
  exact ⟨bounced_inPass scrolls stepped, rfl⟩

/-- At the end of a pass the text starts over, with the font of the next pass. -/
theorem scroll_end (scrolls : Scrolls shown) (inPass : InPass shown repeats k j scene)
    (last : j + 1 = passLength shown k) :
    scroll scene.display = countRepeat { scene.display with
      modeMessageDataColorEffect := scene.display.modeMessageDataColorEffect + 1
      modeMessageData := { scene.display.modeMessageData with
        currX := 0, font := passFont shown (k + 1), wd := passWidth shown (k + 1) } } := by
  have length := passLength_eq shown k
  have ended : scene.display.modeMessageData.wd + outSize ≤
      scene.display.modeMessageData.currX + 1 := by
    rw [inPass.wd, inPass.currX]
    omega
  have fixed := inPass.fixed
  simp only [fixedOf, Prod.mk.injEq] at fixed
  obtain ⟨msg, _, alternateFont, _⟩ := fixed
  unfold scroll
  dsimp only
  rw [if_pos (inPass.fixed_data scrolls).incrementX, if_pos ended]
  congr 1
  unfold wrapText Display.withData passWidth
  dsimp only [passFont]
  rw [← alternateFont, ← msg, ← inPass.font]
  -- Without another font the width is not measured again, and is the one of this pass.
  split
  · rfl
  · next same =>
    have wd := inPass.wd
    rw [passWidth, ← msg, ← inPass.font] at wd
    rw [← wd]

theorem fast_wraps (scrolls : Scrolls shown) (inPass : InPass shown repeats k j scene)
    (last : j + 1 = passLength shown k) (more : k < repeats) :
    InPass shown repeats (k + 1) 0 (modeMessageFast scene) ∧
      (modeMessageFast scene).changes = scene.changes := by
  have left := inPass.repeats
  let wrapped : Display := { scene.display with
    modeMessageDataColorEffect := scene.display.modeMessageDataColorEffect + 1
    modeMessageData := { scene.display.modeMessageData with
      currX := 0
      font := passFont shown (k + 1)
      wd := passWidth shown (k + 1)
      repeats := scene.display.modeMessageData.repeats - 1 } }
  have scrolled : scroll scene.display = (false, wrapped) := by
    rw [scroll_end scrolls inPass last]
    unfold countRepeat
    dsimp only
    rw [if_pos (by rw [left, repeatForever]; omega), if_neg (by rw [left]; omega)]
    rfl
  have stepped : InPass shown repeats (k + 1) 0 { scene with display := wrapped } :=
    ⟨inPass.mode, inPass.fixed, inPass.level, rfl, rfl, rfl,
      (congrArg (· - 1) left).trans (by push_cast; omega)⟩
  unfold modeMessageFast
  rw [scrolled]
  exact ⟨bounced_inPass scrolls stepped, rfl⟩

/-- After the last pass the callback is called, and enters the basic clock. -/
theorem fast_completes (scrolls : Scrolls shown) (inPass : InPass shown repeats k j scene)
    (last : j + 1 = passLength shown k) (all : repeats = k) :
    getDisplayMode (modeMessageFast scene).display = .basicClock ∧
      (modeMessageFast scene).changes = scene.changes ++ [.entered .basicClock] := by
  have callback := (inPass.fixed_data scrolls).callback
  have scrolled : ∃ display, scroll scene.display = (true, display) ∧
      display.modeMessageData.completedCallback = some .changeDisplayModeBasicClock := by
    rw [scroll_end scrolls inPass last]
    unfold countRepeat
    dsimp only
    rw [if_pos (by rw [inPass.repeats, repeatForever]; omega),
      if_pos (by rw [inPass.repeats]; omega)]
    exact ⟨_, rfl, callback⟩
  obtain ⟨display, scrolled, callback⟩ := scrolled
  unfold modeMessageFast
  rw [scrolled]
  dsimp only
  rw [callback]
  obtain ⟨log, _, mode, _⟩ := changeDisplayMode_enters .basicClock
    display.modeMessageData.completedCallbackParam { scene with display := display }
  exact ⟨mode, log⟩

/-- Dimming is no entry. -/
theorem tickOf_entries (tick : Tick) (scene : Scene) :
    entries (tickOf tick scene) = entries (displayTick tick.1 tick.2 scene) := by
  obtain ⟨cadence, surroundings⟩ := tick
  cases cadence
  case sec1 =>
    change entries (updateDim surroundings (displayTick .sec1 surroundings scene)) = _
    unfold entries updateDim
    dsimp only
    split
    · rfl
    · exact List.count_append.trans (Nat.add_zero _)
  all_goals rfl

/-- A tick of another cadence leaves the pass alone. -/
theorem other_inPass (scrolls : Scrolls shown) (inPass : InPass shown repeats k j scene)
    {tick : Tick} (other : isFast tick = false) :
    InPass shown repeats k j (tickOf tick scene) ∧ completes tick scene = 0 := by
  obtain ⟨_, blink, _, timeout, _⟩ := inPass.fixed_data scrolls
  have still : displayTick tick.1 tick.2 scene = scene := by
    obtain ⟨cadence, surroundings⟩ := tick
    rw [displayTick, inPass.mode]
    cases cadence
    case fast => cases other
    case ms250 =>
      change modeMessageCheckBlink scene = scene
      rw [modeMessageCheckBlink, blink]
      rfl
    case sec1 =>
      change modeMessageCheckTimeout scene = scene
      rw [modeMessageCheckTimeout, timeout]
      rfl
    all_goals rfl
  constructor
  · obtain ⟨_, data, _⟩ := tickOf_display tick scene
    have mode := tickOf_mode tick scene
    rw [still] at data mode
    refine ⟨mode.trans inPass.mode, ?_, ?_, ?_, ?_, ?_, ?_⟩ <;> rw [data]
    exacts [inPass.fixed, inPass.level, inPass.currX, inPass.font, inPass.wd, inPass.repeats]
  · rw [completes, if_pos inPass.mode, tickOf_entries, still, Nat.sub_self]

/-! ### Runs -/

theorem completions_append (first second : List Tick) (scene : Scene) :
    completions (first ++ second) scene =
      completions first scene + completions second (runTicks first scene) := by
  induction first generalizing scene with
  | nil => exact (Nat.zero_add _).symm
  | cons tick rest ih =>
      rw [List.cons_append, completions, completions, ih, Nat.add_assoc]
      rfl

theorem completions_concat (ticks : List Tick) (tick : Tick) (scene : Scene) :
    completions (ticks ++ [tick]) scene =
      completions ticks scene + completes tick (runTicks ticks scene) :=
  completions_append ticks [tick] scene

theorem fast_concat (ticks : List Tick) (tick : Tick) :
    (ticks ++ [tick]).countP isFast = ticks.countP isFast + if isFast tick then 1 else 0 := by
  rw [List.countP_append, List.countP_singleton]

theorem completes_left (tick : Tick) {scene : Scene}
    (left : getDisplayMode scene.display ≠ .message) : completes tick scene = 0 := if_neg left

/-- A fast tick while the message is shown. -/
theorem tickOf_fast {tick : Tick} (fast : isFast tick = true) {scene : Scene}
    (mode : getDisplayMode scene.display = .message) :
    tickOf tick scene = modeMessageFast scene := by
  obtain ⟨cadence, surroundings⟩ := tick
  have same : cadence = .fast := of_decide_eq_true fast
  subst same
  change displayTick .fast surroundings scene = _
  rw [displayTick, mode]
  rfl

theorem fast_silent {tick : Tick} (fast : isFast tick = true) {scene : Scene}
    (mode : getDisplayMode scene.display = .message)
    (silent : (modeMessageFast scene).changes = scene.changes) : completes tick scene = 0 := by
  rw [completes, if_pos mode, tickOf_fast fast mode, entries, silent]
  exact Nat.sub_self _

/-- So many fast ticks of the message are over. -/
def Stands (shown : ModeMessageData) (repeats n : Nat) (scene : Scene) : Prop :=
  ∃ k j, (k ≤ repeats ∧ j < passLength shown k ∧ passStart shown k + j = n) ∧
    InPass shown repeats k j scene

theorem passLength_pos (data : ModeMessageData) (k : Nat) : 0 < passLength data k := by
  have length := passLength_eq data k
  have width := (getTextWidth_range data.msg (passFont data k)).1
  rw [← passWidth] at width
  rw [outSize] at length
  omega

/-- A tick moves on within the pass or to the next one, and completes nothing before the last. -/
theorem tick_stands {limit n : Nat} (scrolls : Scrolls shown) (stands : Stands shown limit n scene)
    (tick : Tick) (more : n + (if isFast tick then 1 else 0) < passStart shown (limit + 1)) :
    Stands shown limit (n + if isFast tick then 1 else 0) (tickOf tick scene) ∧
      completes tick scene = 0 := by
  obtain ⟨k, j, ⟨early, within, rfl⟩, inPass⟩ := stands
  cases fast : isFast tick with
  | false =>
      obtain ⟨still, silent⟩ := other_inPass scrolls inPass fast
      exact ⟨⟨k, j, ⟨early, within, rfl⟩, still⟩, silent⟩
  | true =>
      rw [fast, if_pos rfl] at more
      rw [if_pos rfl, tickOf_fast fast inPass.mode]
      by_cases last : j + 1 = passLength shown k
      · have turn : passStart shown (k + 1) = passStart shown k + passLength shown k := rfl
        have later : k < limit := by
          by_contra finished
          have whole : k = limit := by omega
          subst whole
          omega
        obtain ⟨next, none⟩ := fast_wraps scrolls inPass last (by exact_mod_cast later)
        exact ⟨⟨k + 1, 0, ⟨later, passLength_pos shown _, by omega⟩, next⟩,
          fast_silent fast inPass.mode none⟩
      · obtain ⟨next, none⟩ := fast_within scrolls inPass (by omega)
        exact ⟨⟨k, j + 1, ⟨early, by omega, by omega⟩, next⟩, fast_silent fast inPass.mode none⟩

theorem run_stands {limit : Nat} (scrolls : Scrolls shown) (start : InPass shown limit 0 0 scene)
    (ticks : List Tick) (few : ticks.countP isFast < passStart shown (limit + 1)) :
    Stands shown limit (ticks.countP isFast) (runTicks ticks scene) ∧
      completions ticks scene = 0 := by
  induction ticks using List.reverseRecOn with
  | nil => exact ⟨⟨0, 0, ⟨Nat.zero_le _, passLength_pos shown 0, rfl⟩, start⟩, rfl⟩
  | append_singleton ticks tick ih =>
      rw [fast_concat] at few ⊢
      obtain ⟨stands, none⟩ := ih (by omega)
      obtain ⟨next, silent⟩ := tick_stands scrolls stands tick few
      rw [runTicks_concat, completions_concat, none, silent]
      exact ⟨next, rfl⟩

/-- The pass that the fast ticks so far have come to. -/
theorem run_inPass {limit k : Nat} (scrolls : Scrolls shown) (start : InPass shown limit 0 0 scene)
    (early : k ≤ limit) {ticks : List Tick} (begun : passStart shown k ≤ ticks.countP isFast)
    (within : ticks.countP isFast < passStart shown (k + 1)) :
    InPass shown limit k (ticks.countP isFast - passStart shown k) (runTicks ticks scene) ∧
      completions ticks scene = 0 := by
  have few := Nat.lt_of_lt_of_le within (passStart_mono shown (Nat.succ_le_succ early))
  obtain ⟨⟨l, j, ⟨_, inside, place⟩, inPass⟩, none⟩ := run_stands scrolls start ticks few
  have next : passStart shown (l + 1) = passStart shown l + passLength shown l := rfl
  -- The passes follow each other, so no two of them hold the same tick.
  have same : l = k := by
    rcases Nat.lt_trichotomy l k with less | equal | more
    · have mono := passStart_mono shown (Nat.succ_le_of_lt less)
      rw [Nat.succ_eq_add_one] at mono
      omega
    · exact equal
    · have mono := passStart_mono shown (Nat.succ_le_of_lt more)
      rw [Nat.succ_eq_add_one] at mono
      omega
  subst same
  have offset : ticks.countP isFast - passStart shown l = j := by omega
  rw [offset]
  exact ⟨inPass, none⟩

/-- The fast tick that ends the last pass. -/
theorem last_completes {limit n : Nat} (scrolls : Scrolls shown)
    (stands : Stands shown limit n scene) (last : n + 1 = passStart shown (limit + 1))
    {tick : Tick} (fast : isFast tick = true) :
    completes tick scene = 1 ∧ getDisplayMode (tickOf tick scene).display = .basicClock := by
  obtain ⟨k, j, ⟨early, within, rfl⟩, inPass⟩ := stands
  have whole : k = limit := by
    by_contra before
    have turn : passStart shown (k + 1) = passStart shown k + passLength shown k := rfl
    have later := @passStart_mono shown (k + 1) limit (by omega)
    have positive := passLength_pos shown limit
    have next : passStart shown (limit + 1) = passStart shown limit + passLength shown limit := rfl
    omega
  subst whole
  have turn : passStart shown (k + 1) = passStart shown k + passLength shown k := rfl
  obtain ⟨mode, log⟩ := fast_completes scrolls inPass (by omega) rfl
  rw [completes, if_pos inPass.mode, tickOf_fast fast inPass.mode, entries, log, List.count_append,
    entries, Nat.add_sub_cancel_left]
  exact ⟨rfl, mode⟩

/-- Once the passes are over the callback has been called once, and is not called again. -/
theorem run_completed {limit : Nat} (scrolls : Scrolls shown)
    (start : InPass shown limit 0 0 scene) (ticks : List Tick)
    (finished : passStart shown (limit + 1) ≤ ticks.countP isFast) :
    completions ticks scene = 1 ∧ getDisplayMode (runTicks ticks scene).display ≠ .message := by
  induction ticks using List.reverseRecOn with
  | nil =>
      have first : 0 < passStart shown (limit + 1) := Nat.add_pos_right _ (passLength_pos shown _)
      exact absurd finished (Nat.not_le.mpr first)
  | append_singleton ticks tick ih =>
      rw [runTicks_concat, completions_concat]
      -- The passes were over before this tick, or it is the one that ends the last of them.
      by_cases before : passStart shown (limit + 1) ≤ ticks.countP isFast
      · obtain ⟨once, left⟩ := ih before
        rw [once, completes_left tick left]
        exact ⟨rfl, left_stays tick left⟩
      · rw [fast_concat] at finished
        have fast : isFast tick = true := by
          by_contra other
          rw [if_neg other] at finished
          omega
        rw [if_pos fast] at finished
        obtain ⟨stands, none⟩ := run_stands scrolls start ticks (by omega)
        obtain ⟨completed, mode⟩ := last_completes scrolls stands (by omega) fast
        rw [none, completed, mode]
        exact ⟨rfl, by decide⟩

end OClock.MessagePasses
