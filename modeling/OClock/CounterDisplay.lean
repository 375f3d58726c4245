import OClock.BitDisplay
import OClock.ScanColors

/-!
What the binary counter shows. The loop over the pixels ends with the highest bit of the value, and
the pixels above it keep what an earlier frame has left there: nothing, until the value wraps.
-/

namespace OClock.CounterDisplay
open Text CommonUtils LedStripInternal LedStripTimeout StripRuns BitDisplay
open Lpd8806 (Strip Transport packedColor nullColor getPixelColor clearPixelColors showStrip)
open StripTransport (Color stored_low)
open StripReadBack (pack pack_value pack_inj getPixelColor_shown getPixelChannels_shown)
open ScanDots (colorOf)
open ScanColors (seven shows_channels wantedColor_asked)

/-! ### Colours -/

theorem packedColor_pack (r g b : UInt8) :
    packedColor r g b = pack (g ||| 0x80) (r ||| 0x80) (b ||| 0x80) := by
  rw [packedColor, pack, UInt8.toUInt32_or b, UInt32.or_assoc _ b.toUInt32]
  rfl

theorem colorOf_pack (first second third : UInt8) :
    colorOf (pack first second third) = ⟨second, first, third⟩ := by
  have value := pack_value first second third
  have low := third.toNat_lt
  have middle := second.toNat_lt
  have high := first.toNat_lt
  have red : ((pack first second third) >>> 8).toUInt8 = second := by
    apply UInt8.toNat_inj.mp
    rw [UInt32.toNat_toUInt8, UInt32.toNat_shiftRight, value, Nat.shiftRight_eq_div_pow]
    simp only [UInt32.reduceToNat, Nat.reduceMod, Nat.reducePow]
    omega
  have green : ((pack first second third) >>> 16).toUInt8 = first := by
    apply UInt8.toNat_inj.mp
    rw [UInt32.toNat_toUInt8, UInt32.toNat_shiftRight, value, Nat.shiftRight_eq_div_pow]
    simp only [UInt32.reduceToNat, Nat.reduceMod, Nat.reducePow]
    omega
  have blue : (pack first second third).toUInt8 = third := by
    apply UInt8.toNat_inj.mp
    rw [UInt32.toNat_toUInt8, value]
    omega
  rw [colorOf, red, green, blue]

theorem seven_packed (r g b : UInt8) :
    seven (colorOf (packedColor r g b)) = (r &&& 0x7f, g &&& 0x7f, b &&& 0x7f) := by
  rw [packedColor_pack, colorOf_pack]
  exact congrArg₂ Prod.mk (stored_low r) (congrArg₂ Prod.mk (stored_low g) (stored_low b))

theorem channel_dark (value : Int) : channelOf value &&& 0x7f = 0 ↔ value % 128 = 0 := by
  have byte : (channelOf value).toNat = (value % 256).toNat := by
    rw [channelOf, UInt8.ofInt, UInt8.toNat_ofNat']
    omega
  have low : (channelOf value &&& 0x7f).toNat = (value % 256).toNat % 128 := by
    rw [UInt8.toNat_and, byte]
    exact Nat.and_two_pow_sub_one_eq_mod _ 7
  rw [← UInt8.toNat_inj, low, UInt8.toNat_zero]
  omega

/-- A colour of three numbers, one of which shows in 7 bits. -/
structure Explicit (params : StringMap) (red green blue : Int) : Prop where
  redText : stoiAuto (colorParam params (bytes "red")) = some red
  greenText : stoiAuto (colorParam params (bytes "green")) = some green
  blueText : stoiAuto (colorParam params (bytes "blue")) = some blue
  visible : ¬ (red % 128 = 0 ∧ green % 128 = 0 ∧ blue % 128 = 0)

theorem explicit_visible {params : StringMap} {red green blue : Int}
    (explicit : Explicit params red green blue) :
    seven (colorOf (getPixelColorParam params)) ≠ (0, 0, 0) := by
  intro dark
  rw [getPixelColorParam, explicit.redText, explicit.greenText, explicit.blueText] at dark
  dsimp only at dark
  rw [seven_packed, Prod.mk.injEq, Prod.mk.injEq, channel_dark, channel_dark, channel_dark] at dark
  exact explicit.visible dark

theorem null_dark : seven (colorOf nullColor) = (0, 0, 0) := by decide

theorem visible_asked {color : UInt32} (visible : seven (colorOf color) ≠ (0, 0, 0)) :
    color ≠ nullColor := by
  rintro rfl
  exact visible null_dark

/-! ### Lights -/

/-- A pixel that is not off. -/
def lights (strip : Strip) (p : Nat) : Bool := getPixelColor strip (pixel p) != 0

theorem unlit_off (q : UInt16) : (seven (unlit q) != (0, 0, 0)) = false :=
  bne_eq_false_iff_eq.mpr (ScanColors.seven_unlit q)

theorem pixel_at {p : Nat} (small : p < 65536) : (pixel p).toNat = p := by
  have place := pixel_toNat (Int.natCast_nonneg p) (by omega)
  omega

section Short
variable {n : UInt16} (short : n.toNat ≤ 21845)
include short

theorem lights_shows {colors : UInt16 → Color} {strip : Strip} (shows_ : Shows n colors strip)
    {p : Nat} (below : p < n.toNat) :
    lights strip p = (seven (colors (pixel p)) != (0, 0, 0)) := by
  have place : (pixel p).toNat = p := pixel_at (by omega)
  have inside : pixel p < n := UInt16.lt_iff_toNat_lt.mpr (by rwa [place])
  have counted : pixel p < strip.numLEDs := shows_.count ▸ inside
  have channels := shows_channels shows_ inside
  have whole : (pixel p).toNat * 3 % 65536 = (pixel p).toNat * 3 := Nat.mod_eq_of_lt (by omega)
  have off : (0 : UInt32) = pack 0 0 0 := by decide
  rw [getPixelChannels_shown counted] at channels
  rw [lights, getPixelColor_shown counted, whole, ← channels, Bool.eq_iff_iff, bne_iff_ne,
    bne_iff_ne, off]
  apply not_congr
  rw [pack_inj, Prod.mk.injEq, Prod.mk.injEq, and_left_comm]

end Short

/-! ### The loop over the pixels -/

/-- The colours after `turns` pixels from `i` on were visited with the bits of a value. -/
def drawn (color : UInt32) (turns i value : Nat) (colors : UInt16 → Color) (q : UInt16) : Color :=
  if (i ≤ q.toNat ∧ q.toNat < i + turns) ∧ 2 ^ (q.toNat - i) ≤ value then
    if value.testBit (q.toNat - i) then colorOf color else unlit q
  else colors q

/-- The pixel `i` has got the lowest bit, and the next ones get the bits of the half. -/
theorem drawn_succ (color : UInt32) (turns i : Nat) {value : Nat} (left : value ≠ 0)
    (colors : UInt16 → Color) :
    drawn color turns (i + 1) (value / 2) (fun q =>
        if q.toNat = i then if value.testBit 0 then colorOf color else unlit q else colors q) =
      drawn color (turns + 1) i value colors := by
  funext q
  rw [drawn, drawn]
  rcases lt_trichotomy q.toNat i with before | here | after
  · rw [if_neg (by omega), if_neg (by omega), if_neg (by omega)]
  · have lowest : q.toNat - i = 0 := by omega
    have reached : (i ≤ q.toNat ∧ q.toNat < i + (turns + 1)) ∧ 2 ^ 0 ≤ value :=
      ⟨by omega, Nat.pos_of_ne_zero left⟩
    rw [if_neg (by omega), if_pos here, lowest, if_pos reached]
  · obtain ⟨d, place⟩ := Nat.exists_eq_add_of_lt after
    have next : q.toNat - i = d + 1 := by omega
    have rest : q.toNat - (i + 1) = d := by omega
    have half : 2 ^ d ≤ value / 2 ↔ 2 ^ (d + 1) ≤ value := by
      rw [Nat.pow_succ, Nat.le_div_iff_mul_le (by decide)]
    have inside : (i + 1 ≤ q.toNat ∧ q.toNat < i + 1 + turns) ↔
        (i ≤ q.toNat ∧ q.toNat < i + (turns + 1)) := by omega
    have apart : ¬ q.toNat = i := by omega
    simp only [next, rest, half, inside, Nat.testBit_add_one, if_neg apart]

theorem low_bit (value : UInt64) : value &&& 1 = 0 ↔ value.toNat.testBit 0 = false := by
  have low : (value &&& 1).toNat = value.toNat % 2 := by
    rw [UInt64.toNat_and]
    exact Nat.and_one_is_mod _
  rw [← UInt64.toNat_inj, low, Nat.testBit_zero, decide_eq_false_iff_not, UInt64.toNat_zero]
  omega

theorem record_bit (color : UInt32) (value : UInt64) {i : Nat} (small : i < 65536) (q : UInt16)
    (old : Color) :
    StripTransport.record q old (.setPackedColor (pixel i) (if value &&& 1 = 0 then 0 else color)) =
      if q.toNat = i then if value.toNat.testBit 0 then colorOf color else unlit q else old := by
  have place : pixel i = q ↔ q.toNat = i := by
    rw [← UInt16.toNat_inj, pixel_at small, eq_comm]
  simp only [StripTransport.record, place]
  cases bit : value.toNat.testBit 0 with
  | false =>
      rw [if_pos ((low_bit value).mpr bit)]
      rfl
  | true =>
      have odd : value &&& 1 ≠ 0 := by
        intro even
        rw [(low_bit value).mp even] at bit
        cases bit
      rw [if_neg odd]
      rfl

theorem counterPixels_shows {n : UInt16} (color : UInt32) (turns i : Nat)
    (room : i + turns ≤ 65536) (value : UInt64) {colors : UInt16 → Color} {strip : Strip}
    (shows_ : Shows n colors strip) :
    Shows n (drawn color turns i value.toNat colors) (counterPixels color turns i value strip) := by
  induction turns generalizing i value colors strip with
  | zero =>
      apply shows_congr shows_
      intro q _
      rw [drawn, if_neg]
      omega
  | succ turns ih =>
      rw [counterPixels]
      by_cases done : value = 0
      · rw [if_pos done]
        apply shows_congr shows_
        intro q _
        have positive := Nat.two_pow_pos (q.toNat - i)
        have zero : value.toNat = 0 := by rw [done, UInt64.toNat_zero]
        rw [drawn, if_neg]
        omega
      · rw [if_neg done]
        apply shows_congr (ih (i + 1) (by omega) _ (op_shows shows_ (.setPackedColor _ _)))
        intro q _
        have half : (value >>> 1).toNat = value.toNat / 2 := by
          rw [UInt64.toNat_shiftRight]
          rfl
        have left : value.toNat ≠ 0 := fun zero => done (UInt64.toNat_inj.mp zero)
        rw [half, ← drawn_succ color turns i left]
        congr 1
        funext q
        exact record_bit color value (by omega) q (colors q)

theorem counterPixels_lights {n : UInt16} (short : n.toNat ≤ 21845) {color : UInt32}
    (visible : seven (colorOf color) ≠ (0, 0, 0)) {strip : Strip} (whole : Whole n strip)
    (value : UInt64) {p : Nat} (below : p < n.toNat) :
    lights (counterPixels color (n.toNat - 1) 0 value strip) p =
      if p < n.toNat - 1 then redraw value.toNat (lights strip) p else lights strip p := by
  obtain ⟨count, colors, holds⟩ := whole
  have before : Shows n colors strip := ⟨count, holds⟩
  have after := counterPixels_shows color (n.toNat - 1) 0 (by omega) value before
  have place : (pixel p).toNat = p := pixel_at (by omega)
  rw [lights_shows short after below, redraw, lights_shows short before below, drawn, place,
    Nat.sub_zero, Nat.zero_add]
  by_cases inside : p < n.toNat - 1
  · by_cases reached : 2 ^ p ≤ value.toNat
    · rw [if_pos ⟨⟨Nat.zero_le p, inside⟩, reached⟩, if_pos inside, if_pos reached]
      cases value.toNat.testBit p with
      | false => exact unlit_off (pixel p)
      | true => exact bne_iff_ne.mpr visible
    · rw [if_neg fun both => reached both.2, if_pos inside, if_neg reached]
  · rw [if_neg fun both => inside both.1.2, if_neg inside]

/-! ### One call -/

/-- The last pixel is lit, and the ones before it are what a counter that was drawn at every count
up to this one has left there. -/
structure Displays (n : UInt16) (count : Nat) (info : Info) : Prop where
  whole : Whole n info.lpd8806
  value : info.statics.currentCounterValue.toNat = count % 2 ^ 64
  bits : ∀ p < n.toNat - 1, lights info.lpd8806 p = shown 64 count p
  last : lights info.lpd8806 (n.toNat - 1) = true

theorem countUp_params (info : Info) : (countUp info).params = info.params := by
  rw [countUp]
  dsimp only
  split <;> rfl

theorem main_strip {info : Info} (asked : getPixelColorParam info.params ≠ nullColor) :
    (modeBinaryCounterMain info).2.lpd8806 = (showStrip (counterPixels
      (getPixelColorParam info.params) (numPixels info - 1) 0
      (countUp info).statics.currentCounterValue (countUp info).lpd8806)).2 := by
  have params := countUp_params info
  have color : (wantedColor (countUp info)).1 = getPixelColorParam info.params := by
    rw [wantedColor_asked (by rwa [params]), params]
  rw [← color]
  rfl

theorem main_statics (info : Info) :
    (modeBinaryCounterMain info).2.statics = (countUp info).statics :=
  wantedColor_statics (countUp info)

section Call
variable {n : UInt16} (short : n.toNat ≤ 21845) {info : Info} (whole : Whole n info.lpd8806)

include short in
theorem showStrip_lights {strip : Strip} (whole : Whole n strip) {p : Nat} (below : p < n.toNat) :
    lights (showStrip strip).2 p = lights strip p := by
  obtain ⟨count, colors, holds⟩ := whole
  rw [lights_shows short ⟨count, holds⟩ below, lights_shows short (show_shows ⟨count, holds⟩) below]

include short whole

/-- A call draws the value that it has counted to. -/
theorem main_displays (two : 2 ≤ n.toNat)
    (visible : seven (colorOf (getPixelColorParam info.params)) ≠ (0, 0, 0)) {count : Nat}
    (value : (countUp info).statics.currentCounterValue.toNat = count % 2 ^ 64)
    (bits : ∀ p < n.toNat - 1,
      redraw (count % 2 ^ 64) (lights (countUp info).lpd8806) p = shown 64 count p)
    (last : lights (countUp info).lpd8806 (n.toNat - 1) = true) :
    Displays n count (modeBinaryCounterMain info).2 := by
  have counted := countUp_whole whole
  have length : numPixels info = n.toNat := congrArg UInt16.toNat whole.count
  have pixels := counterPixels_whole (getPixelColorParam info.params) (n.toNat - 1) 0
    (countUp info).statics.currentCounterValue counted
  have lit : ∀ p < n.toNat, lights (modeBinaryCounterMain info).2.lpd8806 p =
      if p < n.toNat - 1 then redraw (count % 2 ^ 64) (lights (countUp info).lpd8806) p
      else lights (countUp info).lpd8806 p := by
    intro p below
    rw [main_strip (visible_asked visible), length, showStrip_lights short pixels below,
      counterPixels_lights short visible counted _ below, value]
  constructor
  · exact modeBinaryCounterMain_paints n info whole
  · rw [main_statics, value]
  · intro p below
    rw [lit p (by omega), if_pos below, bits p below]
  · rw [lit _ (by omega), if_neg (Nat.lt_irrefl _), last]

omit short in
theorem last_light (two : 2 ≤ n.toNat) : lights info.lpd8806 (n.toNat - 1) =
    (getPixelColor info.lpd8806 (pixel ((numPixels info : Int) - 1)) != 0) := by
  have length : numPixels info = n.toNat := congrArg UInt16.toNat whole.count
  have last : ((n.toNat - 1 : Nat) : Int) = (numPixels info : Int) - 1 := by omega
  rw [lights, last]

omit whole in
/-- A counter that begins lights the last pixel of a dark strip. -/
theorem reset_lights {strip : Strip} (whole : Whole n strip) {p : Nat} (below : p < n.toNat) :
    lights (Lpd8806.setPackedColor (clearPixelColors strip) (pixel ((n.toNat - 1 : Nat) : Int))
      (packedColor 1 1 1)) p = decide (p = n.toNat - 1) := by
  have fresh := op_shows (clear_dark whole)
    (.setPackedColor (pixel ((n.toNat - 1 : Nat) : Int)) (packedColor 1 1 1))
  have place : pixel ((n.toNat - 1 : Nat) : Int) = pixel p ↔ p = n.toNat - 1 := by
    rw [← UInt16.toNat_inj, pixel_at (by omega), pixel_at (by omega), eq_comm]
  apply (lights_shows short fresh below).trans
  simp only [StripTransport.record, place]
  by_cases here : p = n.toNat - 1
  · rw [if_pos here, decide_eq_true here]
    decide
  · rw [if_neg here, decide_eq_false here]
    exact unlit_off (pixel p)

/-- A counter whose last pixel is off begins with the value it was given. -/
theorem first_call (two : 2 ≤ n.toNat)
    (visible : seven (colorOf (getPixelColorParam info.params)) ≠ (0, 0, 0))
    (off : lights info.lpd8806 (n.toNat - 1) = false) :
    Displays n (initialValue info.params).toNat (modeBinaryCounterMain info).2 := by
  have small := (initialValue info.params).toNat_lt
  have length : numPixels info = n.toNat := congrArg UInt16.toNat whole.count
  have last : (numPixels info : Int) - 1 = ((n.toNat - 1 : Nat) : Int) := by omega
  have unset : getPixelColor info.lpd8806 (pixel ((numPixels info : Int) - 1)) = 0 := by
    rw [last_light whole two] at off
    exact bne_eq_false_iff_eq.mp off
  have reset : countUp info = { info with
      lpd8806 := Lpd8806.setPackedColor (clearPixelColors info.lpd8806)
        (pixel ((n.toNat - 1 : Nat) : Int)) (packedColor 1 1 1)
      statics := { info.statics with currentCounterValue := initialValue info.params } } := by
    rw [countUp]
    dsimp only
    rw [if_pos unset, last]
  have lit : ∀ p < n.toNat, lights (countUp info).lpd8806 p = decide (p = n.toNat - 1) := by
    intro p below
    rw [reset]
    exact reset_lights short whole below
  apply main_displays short whole two visible
  · rw [reset, Nat.mod_eq_of_lt small]
  · intro p below
    have dark : lights (countUp info).lpd8806 p = false := by
      rw [lit p (by omega), decide_eq_false (by omega)]
    rw [Nat.mod_eq_of_lt small, shown_first small, ← redraw_dark, redraw, redraw, dark]
  · rw [lit _ (by omega), decide_eq_true rfl]

/-- A counter whose last pixel is lit counts on. -/
theorem next_call (two : 2 ≤ n.toNat)
    (visible : seven (colorOf (getPixelColorParam info.params)) ≠ (0, 0, 0)) {count : Nat}
    (displays : Displays n count info) :
    Displays n (count + 1) (modeBinaryCounterMain info).2 := by
  have set : getPixelColor info.lpd8806 (pixel ((numPixels info : Int) - 1)) ≠ 0 := by
    have lit := displays.last
    rw [last_light whole two] at lit
    exact bne_iff_ne.mp lit
  have counts : countUp info = { info with statics := { info.statics with
      currentCounterValue := info.statics.currentCounterValue + 1 } } := by
    rw [countUp]
    dsimp only
    rw [if_neg set]
  apply main_displays short whole two visible
  · have one : (1 : UInt64).toNat = 1 := rfl
    rw [counts]
    dsimp only
    rw [UInt64.toNat_add, displays.value, one, Nat.mod_add_mod]
  · intro p below
    have before : lights (countUp info).lpd8806 p = shown 64 count p := by
      rw [counts]
      exact displays.bits p below
    rw [← redraw_shown, redraw, redraw, before]
  · rw [counts]
    exact displays.last

end Call

/-! ### A stay in the mode -/

/-- The steps that call `modeBinaryCounterMain`. -/
def counts (info : Info) : Input → Bool
  | .fastTick => info.currModeIndex = 5 ∧ extraIs info "fast" = true
  | .tick1sec => info.currModeIndex = 5
  | _ => false

/-- How many steps of a run call it. -/
def calls : Info → List Input → Nat
  | _, [] => 0
  | info, input :: rest =>
      (if counts info input = true then 1 else 0) + calls (step info input).2 rest

theorem counts_mode {info : Info} {input : Input} (called : counts info input = true) :
    info.currModeIndex = 5 := by
  cases input with
  | fastTick => exact (of_decide_eq_true called).1
  | tick1sec => exact of_decide_eq_true called
  | doHandleModePost postValues => cases called
  | tick10sec => cases called
  | tick1min => cases called

theorem counter_handler {info : Info} (counter : info.currModeIndex = 5) {input : Input}
    (tick : ∀ postValues, input ≠ .doHandleModePost postValues) :
    runHandler (tickHandler (currMode info) input) info =
      if counts info input = true then modeBinaryCounterMain info else ([], info) := by
  have mode : currMode info = modeBinaryCounter := currMode_index (by rw [counter]; rfl)
  rw [mode]
  cases input with
  | doHandleModePost postValues => exact absurd rfl (tick postValues)
  | fastTick =>
      have runs : extraIs info "fast" = true ↔ counts info .fastTick = true := by
        simp [counts, counter]
      rw [← ite_cond_congr (propext runs)]
      rfl
  | tick1sec =>
      have runs : counts info .tick1sec = true := decide_eq_true counter
      rw [if_pos runs]
      rfl
  | tick10sec => rfl
  | tick1min => rfl

/-- What the calls since the mode was entered have left. -/
def After (n : UInt16) (postValues : StringMap) : Nat → Info → Prop
  | 0, info => Dark n info.lpd8806
  | k + 1, info => Displays n ((initialValue postValues).toNat + k) info

/-- Until the next POST: the binary counter with the values it was asked for, or the manual mode
after the timeout. -/
inductive Staying (n : UInt16) (postValues : StringMap) (called : Nat) (info : Info) : Prop where
  | counting (index : info.currModeIndex = 5) (params : info.params = postValues)
      (after : After n postValues called info)
  | manual (index : info.currModeIndex = 0)

section Stay
variable {n : UInt16} {postValues : StringMap} {called : Nat} {info : Info}

theorem after_secs (after : After n postValues called info) (secs : Int) :
    After n postValues called { info with secsUntilGoingToManualMode := secs } := by
  cases called with
  | zero => exact after
  | succ k => exact ⟨after.whole, after.value, after.bits, after.last⟩

theorem dark_lights {strip : Strip} (short : n.toNat ≤ 21845) (dark : Dark n strip) {p : Nat}
    (below : p < n.toNat) : lights strip p = false := by
  rw [lights_shows short dark below]
  exact unlit_off (pixel p)

variable (two : 2 ≤ n.toNat) (short : n.toNat ≤ 21845)
  (visible : seven (colorOf (getPixelColorParam postValues)) ≠ (0, 0, 0))
include two short visible

theorem call_after (params : info.params = postValues) (after : After n postValues called info) :
    After n postValues (called + 1) (modeBinaryCounterMain info).2 := by
  subst params
  cases called with
  | zero =>
      have off : lights info.lpd8806 (n.toNat - 1) = false := dark_lights short after (by omega)
      exact first_call short (shows_whole after) two visible off
  | succ k => exact next_call short after.whole two visible after

theorem step_staying (staying : Staying n postValues called info) {input : Input}
    (quiet : accepts input = false) :
    Staying n postValues ((if counts info input = true then 1 else 0) + called)
      (step info input).2 := by
  have valid : info.currModeIndex < allModes.length := by
    have modes : allModes.length = 6 := rfl
    cases staying with
    | counting index => omega
    | manual index => omega
  rcases quiet_cases valid quiet with ⟨rejected, rfl, same⟩ | ⟨tick, ticked⟩
  · have idle : ¬ counts info (.doHandleModePost rejected) = true := Bool.false_ne_true
    rw [same, if_neg idle, Nat.zero_add]
    exact staying
  · have kept := tick_same info input
    cases staying with
    | counting index params after =>
        have later : After n postValues ((if counts info input = true then 1 else 0) + called)
            (runHandler (tickHandler (currMode info) input) info).2 := by
          rw [counter_handler index tick]
          by_cases calls : counts info input = true
          · rw [if_pos calls, if_pos calls, Nat.add_comm]
            exact call_after two short visible params after
          · rw [if_neg calls, if_neg calls, Nat.zero_add]
            exact after
        cases ticked with
        | runs secs result =>
            rw [result]
            exact .counting (kept.index.trans index) (kept.params.trans params)
              (after_secs later secs)
        | ends _ result =>
            rw [result]
            exact .manual rfl
    | manual index => exact .manual (manual_stays ticked index)

theorem run_staying (inputs : List Input) (quiet : ∀ input ∈ inputs, accepts input = false)
    (staying : Staying n postValues called info) :
    Staying n postValues (calls info inputs + called) (Machine.run step info inputs).2 := by
  induction inputs generalizing info called with
  | nil =>
      rw [calls, Nat.zero_add]
      exact staying
  | cons input rest ih =>
      obtain ⟨here, later⟩ := List.forall_mem_cons.mp quiet
      have next := ih later (step_staying two short visible staying here)
      rw [calls, Nat.add_comm _ (calls _ rest), Nat.add_assoc]
      exact next

end Stay

/-- The counter begins on a dark strip if the POST changes the mode or asks for it. -/
theorem entered_dark {n : UInt16} {info : Info} (good : Good n info) {postValues : StringMap}
    (enters : info.currModeIndex ≠ 5 ∨ shouldClearAllPixels postValues = true) :
    Dark n (entered postValues 5 info).lpd8806 := by
  rw [entered, clearing]
  dsimp only
  rw [if_pos enters]
  exact cleared_dark good.whole

theorem initialValue_read {params : StringMap} {text : Bytes} {start : Int}
    (extra : getParamValue params ledStripParamExtra = some text)
    (reads : stollAuto text = some start) :
    (initialValue params).toNat = (start % 2 ^ 64).toNat := by
  rw [initialValue, extra]
  dsimp only
  rw [reads, Option.map_some, Option.getD_some, UInt64.ofInt, UInt64.toNat_ofNat']
  omega

/-- Every pixel before the last one that has a bit of the value shows it, and the last one is
lit. -/
def Right (n : UInt16) (value : Nat) (strip : Strip) : Prop :=
  (∀ p < min 64 (n.toNat - 1), lights strip p = value.testBit p) ∧
    lights strip (n.toNat - 1) = true

theorem displays_right {n : UInt16} (two : 2 ≤ n.toNat) {count : Nat} {info : Info}
    (displays : Displays n count info) : Right n (count % 2 ^ 64) info.lpd8806 ↔
      count < 2 ^ 64 ∨ 2 ^ (min 64 (n.toNat - 1) - 1) ≤ count % 2 ^ 64 := by
  rw [← shown_right_iff (by omega) (Nat.min_le_left 64 (n.toNat - 1)) count, Right]
  constructor
  · rintro ⟨bits, _⟩ p below
    rw [← displays.bits p (by omega), bits p below]
  · intro bits
    refine ⟨fun p below => ?_, displays.last⟩
    rw [displays.bits p (by omega), bits p below]

/-- After any history, a stay in the mode with a value and a colour that can be read: call `k + 1`
shows the value that it has counted to if and only if the count has not wrapped on its way there,
or has come back to the highest pixel. -/
theorem counter_shows_iff (transport : Transport) (n : UInt16) (two : 2 ≤ n.toNat)
    (short : n.toNat ≤ 21845) (statics : Statics) (random : Random) (history : List Input)
    (postValues : StringMap) (accepted : acceptedMode postValues = some 5) {text : Bytes}
    {start : Int} (extra : getParamValue postValues ledStripParamExtra = some text)
    (reads : stollAuto text = some start) {red green blue : Int}
    (explicit : Explicit postValues red green blue) (inputs : List Input)
    (quiet : ∀ input ∈ inputs, accepts input = false) (k : Nat) :
    let info := (Machine.run step (construct transport n statics random).2 history).2
    let begun := (step info (.doHandleModePost postValues)).2
    let now := (Machine.run step begun inputs).2
    (info.currModeIndex ≠ 5 ∨ shouldClearAllPixels postValues = true) →
    calls begun inputs = k → ∀ input, counts now input = true →
      (Right n ((start + k) % 2 ^ 64).toNat (modeBinaryCounterMain now).2.lpd8806 ↔
        (start % 2 ^ 64).toNat + k < 2 ^ 64 ∨
          2 ^ (min 64 (n.toNat - 1) - 1) ≤ ((start + k) % 2 ^ 64).toNat) := by
  intro info begun now enters called input calling
  have good : Good n info := run_good (construct_good transport n statics random) history
  have posted : begun = entered postValues 5 info := congrArg Prod.snd (post_step good.valid accepted)
  have visible := explicit_visible explicit
  have fresh : Staying n postValues 0 begun := by
    rw [posted]
    exact .counting rfl rfl (entered_dark good enters)
  have staying := run_staying two short visible inputs quiet fresh
  rw [called, Nat.add_zero] at staying
  cases staying with
  | manual index =>
      have counter := counts_mode calling
      rw [index] at counter
      cases counter
  | counting _ params after =>
      have displays := call_after two short visible params after
      have right := displays_right two displays
      have value : ((start % 2 ^ 64).toNat + k) % 2 ^ 64 = ((start + k) % 2 ^ 64).toNat := by
        omega
      rw [initialValue_read extra reads, value] at right
      exact right

/-- A POST that asks for the counter from a value on, in red. -/
def counterPost (start : String) : StringMap :=
  (((∅ : StringMap).insert (bytes "ledStripMode") (bytes "5")).insert (bytes "extraParam")
    (bytes start)).insert (bytes "red") (bytes "127")

/-- The second call of a counter from 5 on. -/
theorem counter_shows_six :
    let begun := (step (construct .spiOutput 8 Statics.new fun _ => 0).2
      (.doHandleModePost (counterPost "5"))).2
    Right 8 6 (modeBinaryCounterMain (Machine.run step begun [.tick1sec]).2).2.lpd8806 := by
  have extra : getParamValue (counterPost "5") ledStripParamExtra = some (bytes "5") := by decide
  have reads : stollAuto (bytes "5") = some 5 := by decide
  have explicit : Explicit (counterPost "5") 127 0 0 :=
    ⟨by decide, by decide, by decide, by decide⟩
  exact (counter_shows_iff .spiOutput 8 (by decide) (by decide) Statics.new (fun _ => 0) []
    (counterPost "5") (by decide) extra reads explicit [.tick1sec] (by decide) 1
    (.inl (by decide)) (by decide) .tick1sec (by decide)).mpr (.inl (by decide))

/-- The second call of a counter from -1 on: the value is 0, and every pixel is lit. -/
theorem counter_wraps_lit :
    let begun := (step (construct .spiOutput 8 Statics.new fun _ => 0).2
      (.doHandleModePost (counterPost "-1"))).2
    let now := (Machine.run step begun [.tick1sec]).2
    calls begun [.tick1sec] = 1 ∧ counts now .tick1sec = true ∧
      ¬ Right 8 ((-1 + 1) % 2 ^ 64 : Int).toNat (modeBinaryCounterMain now).2.lpd8806 := by
  intro begun now
  refine ⟨by decide, by decide, ?_⟩
  rintro ⟨bits, _⟩
  have first := bits 0 (by decide)
  exact absurd first (by decide +kernel)

end OClock.CounterDisplay
