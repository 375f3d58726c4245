import Mathlib.Data.List.Chain
import OClock.StripRuns

/-!
The frames of the pastel mode. A call goes over the strip once from its cursor on and writes the
colours of one ramp; the next call starts a pixel later with the same colours.
-/

namespace OClock.PastelFrames
open Text CommonUtils LedStripInternal LedStripTimeout StripRuns
open Lpd8806 (Strip Transport setPixelColor showStrip)
open StripTransport (Color Lit stored stored_low)

/-! ### The ramp -/

/-- What a turn of the loop leaves to the next one. -/
def turned (pastel : Pastel) : Pastel :=
  { pastelNext pastel with repeats := (pastelNext pastel).repeats + 1 }

def rampBefore : Nat → Pastel
  | 0 => pastelStart
  | t + 1 => turned (rampBefore t)

/-- The colour that turn `t` writes. -/
def rampColor (t : Nat) : Color :=
  ⟨(pastelNext (rampBefore t)).r, (pastelNext (rampBefore t)).g, (pastelNext (rampBefore t)).b⟩

/-- After `t` steps red has gone up, then blue down, then green up, 63 steps each. -/
structure OnRamp (t : Nat) (pastel : Pastel) : Prop where
  within : t ≤ 189
  count : pastel.repeats = t
  red : pastel.r.toNat = 63 + min t 63
  blue : pastel.b.toNat = 127 - min (t - 63) 63
  green : pastel.g.toNat = 63 + min (t - 126) 63

def Channel (value : UInt8) : Prop := 63 ≤ value.toNat ∧ value.toNat ≤ 127

structure Within (color : Color) : Prop where
  red : Channel color.red
  green : Channel color.green
  blue : Channel color.blue

/-- A turn moves one step up the ramp, or back to its foot. -/
theorem turned_ramp {t : Nat} {pastel : Pastel} (ramp : OnRamp t pastel) :
    Within ⟨(pastelNext pastel).r, (pastelNext pastel).g, (pastelNext pastel).b⟩ ∧
      OnRamp (if t = 189 then 0 else t + 1) (turned pastel) := by
  obtain ⟨within, count, red, blue, green⟩ := ramp
  have up : ∀ value : UInt8, value.toNat < 127 → (value + 1).toNat = value.toNat + 1 := by
    intro value room
    rw [UInt8.toNat_add]
    exact Nat.mod_eq_of_lt (by simp only [UInt8.reduceToNat]; omega)
  have down : ∀ value : UInt8, 0 < value.toNat → (value - 1).toNat = value.toNat - 1 := by
    intro value some
    exact UInt8.toNat_sub_of_le _ _ (UInt8.le_iff_toNat_le.mpr some)
  rw [turned, pastelNext, count]
  by_cases first : t < 63
  · have step := up pastel.r (by omega)
    rw [if_pos (by omega), if_neg (by omega)]
    refine ⟨⟨⟨?_, ?_⟩, ⟨?_, ?_⟩, ?_, ?_⟩, by omega, ?_, ?_, ?_, ?_⟩ <;> dsimp only <;> omega
  · by_cases second : t < 126
    · have step := down pastel.b (by omega)
      rw [if_neg (by omega), if_pos (by omega), if_neg (by omega)]
      refine ⟨⟨⟨?_, ?_⟩, ⟨?_, ?_⟩, ?_, ?_⟩, by omega, ?_, ?_, ?_, ?_⟩ <;> dsimp only <;> omega
    · by_cases third : t < 189
      · have step := up pastel.g (by omega)
        rw [if_neg (by omega), if_neg (by omega), if_pos (by omega), if_neg (by omega)]
        refine ⟨⟨⟨?_, ?_⟩, ⟨?_, ?_⟩, ?_, ?_⟩, by omega, ?_, ?_, ?_, ?_⟩ <;> dsimp only <;> omega
      · rw [if_neg (by omega), if_neg (by omega), if_neg (by omega), if_pos (by omega)]
        have foot : Channel 63 := ⟨by decide, by decide⟩
        exact ⟨⟨foot, foot, by decide, by decide⟩, by decide, by decide, by decide, by decide,
          by decide⟩

theorem ramp_found (t : Nat) : ∃ s, OnRamp s (rampBefore t) := by
  induction t with
  | zero => exact ⟨0, by decide, by decide, by decide, by decide, by decide⟩
  | succ t ih =>
      obtain ⟨s, ramp⟩ := ih
      exact ⟨_, (turned_ramp ramp).2⟩

theorem rampColor_within (t : Nat) : Within (rampColor t) := by
  obtain ⟨s, ramp⟩ := ramp_found t
  exact (turned_ramp ramp).1

/-! ### The loop -/

/-- The pixels that the loop writes, in their order, with their colours. -/
def writes (n : Nat) : Nat → Nat → Int → List (Int × Color)
  | 0, _, _ => []
  | turns + 1, t, currPixel =>
      (currPixel, rampColor t) :: writes n turns (t + 1) (wrapPixel n (currPixel + 1))

def write (strip : Strip) (written : Int × Color) : Strip :=
  setPixelColor strip (pixel written.1) written.2.red written.2.green written.2.blue

theorem pastelLoop_writes (n turns t : Nat) (currPixel : Int) (strip : Strip) :
    (pastelLoop n turns (rampBefore t) currPixel strip).2 =
      (writes n turns t currPixel).foldl write strip := by
  induction turns generalizing t currPixel strip with
  | zero => rfl
  | succ turns ih => exact ih (t + 1) _ _

theorem wrapPixel_next {n c : Nat} (below : c < n) :
    wrapPixel n ((c : Int) + 1) = ((c + 1) % n : Nat) := by
  rw [wrapPixel]
  by_cases last : c + 1 = n
  · rw [if_pos (by omega), last, Nat.mod_self]
    rfl
  · rw [if_neg (by omega), Nat.mod_eq_of_lt (by omega)]
    rfl

theorem pastelLoop_cursor {n c : Nat} (below : c < n) (turns : Nat) (pastel : Pastel)
    (strip : Strip) : (pastelLoop n turns pastel c strip).1 = ((c + turns) % n : Nat) := by
  induction turns generalizing c pastel strip with
  | zero => exact congrArg Nat.cast (Nat.mod_eq_of_lt below).symm
  | succ turns ih =>
      have next := ih (Nat.mod_lt (c + 1) (Nat.zero_lt_of_lt below))
      rw [pastelLoop, wrapPixel_next below, next, Nat.mod_add_mod, Nat.add_assoc, Nat.add_comm 1]

/-- Turn `k` of the loop writes the pixel `k` places after the cursor. -/
theorem writes_places {n c : Nat} (below : c < n) (turns t : Nat) :
    writes n turns t c =
      (List.range turns).map fun k => (Int.ofNat ((c + k) % n), rampColor (t + k)) := by
  induction turns generalizing c t with
  | zero => rfl
  | succ turns ih =>
      rw [writes, wrapPixel_next below, ih (Nat.mod_lt _ (Nat.zero_lt_of_lt below)),
        List.range_succ_eq_map, List.map_cons, List.map_map]
      refine List.cons_eq_cons.mpr ⟨?_, ?_⟩
      · rw [Nat.add_zero, Nat.add_zero, Nat.mod_eq_of_lt below]
        rfl
      · apply List.map_congr_left
        intro k _
        rw [Function.comp_apply, Nat.mod_add_mod, Nat.add_assoc, Nat.add_comm 1 k,
          Nat.add_assoc t, Nat.add_comm 1 k]

/-- The turn that writes pixel `i` from cursor `c` on. -/
def turnOf (n c i : Nat) : Nat := if c ≤ i then i - c else i + n - c

theorem turnOf_place {n c i k : Nat} (cursor : c < n) (place : i < n) (turn : k < n) :
    (c + k) % n = i ↔ turnOf n c i = k := by
  rw [turnOf]
  by_cases wraps : c + k < n
  · rw [Nat.mod_eq_of_lt wraps]
    split <;> omega
  · rw [Nat.mod_eq_sub_mod (by omega), Nat.mod_eq_of_lt (by omega)]
    split <;> omega

theorem turnOf_below {n c i : Nat} (cursor : c < n) (place : i < n) : turnOf n c i < n := by
  rw [turnOf]
  split <;> omega

/-- Going once round from any cursor visits every pixel once. -/
theorem writes_once {n c : Nat} (below : c < n) :
    ((writes n n 0 c).map Prod.fst).Perm ((List.range n).map Int.ofNat) := by
  have places : (writes n n 0 c).map Prod.fst =
      ((List.range n).map fun k => (c + k) % n).map Int.ofNat := by
    rw [writes_places below, List.map_map, List.map_map]
    rfl
  rw [places]
  apply List.Perm.map
  apply (List.perm_ext_iff_of_nodup ?_ List.nodup_range).mpr
  · intro i
    rw [List.mem_map, List.mem_range]
    constructor
    · rintro ⟨k, _, rfl⟩
      exact Nat.mod_lt _ (Nat.zero_lt_of_lt below)
    · intro place
      have turn := turnOf_below below place
      exact ⟨turnOf n c i, List.mem_range.mpr turn, (turnOf_place below place turn).mpr rfl⟩
  · apply List.Nodup.map_on _ List.nodup_range
    intro first one second other same
    have place := Nat.mod_lt (c + second) (Nat.zero_lt_of_lt below)
    rw [List.mem_range] at one other
    rw [← (turnOf_place below place one).mp same, (turnOf_place below place other).mp rfl]

/-! ### The frame -/

/-- The colour of a pixel after one more write. -/
def repaint (i : UInt16) (color : Color) (written : Int × Color) : Color :=
  if pixel written.1 = i then written.2 else color

theorem writes_shows {n : UInt16} {colors : UInt16 → Color} {strip : Strip}
    (shows_ : Shows n colors strip) (written : List (Int × Color)) :
    Shows n (fun i => written.foldl (repaint i) (colors i)) (written.foldl write strip) := by
  induction written generalizing colors strip with
  | nil => exact shows_
  | cons first rest ih => exact ih (op_shows shows_ (.setPixelColor ..))

theorem pixel_place {m : Nat} (small : m < 65536) (i : UInt16) :
    pixel (Int.ofNat m) = i ↔ m = i.toNat := by
  have value : ((pixel (Int.ofNat m)).toNat : Int) = m :=
    pixel_toNat (Int.natCast_nonneg m) (Int.ofNat_lt.mpr small)
  rw [← UInt16.toNat_inj, Int.ofNat_inj.mp value]

/-- Before its turn a pixel is as it was, and from then on it has the colour of that turn. -/
theorem round_color {n c : Nat} (below : c < n) (small : n ≤ 65535) {i : UInt16}
    (place : i.toNat < n) (before : Color) {turns : Nat} (part : turns ≤ n) :
    (writes n turns 0 c).foldl (repaint i) before =
      if turnOf n c i.toNat < turns then rampColor (turnOf n c i.toNat) else before := by
  rw [writes_places below]
  induction turns with
  | zero => rw [if_neg (Nat.not_lt_zero _), List.range_zero, List.map_nil, List.foldl_nil]
  | succ turns ih =>
      have now : pixel (Int.ofNat ((c + turns) % n)) = i ↔ turnOf n c i.toNat = turns := by
        rw [pixel_place (by have := Nat.mod_lt (c + turns) (Nat.zero_lt_of_lt below); omega)]
        exact turnOf_place below place (by omega)
      rw [List.range_succ, List.map_append, List.foldl_append, ih (by omega), List.map_singleton,
        List.foldl_cons, List.foldl_nil, repaint, Nat.zero_add]
      by_cases turn : turnOf n c i.toNat = turns
      · rw [if_pos (now.mpr turn), if_pos (by omega), turn]
      · rw [if_neg (mt now.mp turn)]
        by_cases earlier : turnOf n c i.toNat < turns
        · rw [if_pos earlier, if_pos (by omega)]
        · rw [if_neg earlier, if_neg (by omega)]

/-- The frame of a call that starts at cursor `c`. -/
def pastelColors (n c : Nat) (i : UInt16) : Color := rampColor (turnOf n c i.toNat)

theorem modePastelMain_frame {n : UInt16} {info : Info} (whole : Whole n info.lpd8806) {c : Nat}
    (cursor : info.statics.currPixel = c) (below : c < n.toNat) :
    ∃ frame, (modePastelMain info).1 = [.show frame] ∧
      Shows n (pastelColors n.toNat c) frame ∧
      (modePastelMain info).2.statics.currPixel = ((c + 1) % n.toNat : Nat) := by
  obtain ⟨count, colors, holds⟩ := whole
  have length : numPixels info = n.toNat := congrArg UInt16.toNat count
  refine ⟨(pastelLoop n.toNat n.toNat (rampBefore 0) c info.lpd8806).2, ?_, ?_, ?_⟩
  · rw [modePastelMain, length, cursor]
    rfl
  · rw [pastelLoop_writes]
    refine shows_congr (writes_shows ⟨count, holds⟩ _) fun i place => ?_
    have inside := UInt16.lt_iff_toNat_lt.mp place
    rw [round_color below (Nat.le_of_lt_succ n.toNat_lt) inside _ (Nat.le_refl _),
      if_pos (turnOf_below below inside)]
    rfl
  · rw [modePastelMain, length, cursor]
    dsimp only
    rw [pastelLoop_cursor below, Nat.add_mod_right, Nat.mod_eq_of_lt below, pastelShiftPixels,
      wrapPixel_next below]

/-! ### Rotation -/

/-- Every pixel of the old frame is one place further on in the new one. -/
def Rotated (n : Nat) (old new : Strip) : Prop :=
  ∀ i < n, ∀ k < 3, ∃ byte, old.pixels[3 * i + k]? = some byte ∧
    new.pixels[3 * ((i + 1) % n) + k]? = some byte

theorem turnOf_next {n c i : Nat} (cursor : c < n) (place : i < n) :
    turnOf n ((c + 1) % n) ((i + 1) % n) = turnOf n c i := by
  have next : ∀ m < n, (m + 1) % n = if m + 1 = n then 0 else m + 1 := by
    intro m below
    by_cases last : m + 1 = n
    · rw [if_pos last, last, Nat.mod_self]
    · rw [if_neg last, Nat.mod_eq_of_lt (by omega)]
  rw [next c cursor, next i place, turnOf, turnOf]
  by_cases lastCursor : c + 1 = n
  · rw [if_pos lastCursor]
    split <;> split <;> split <;> omega
  · rw [if_neg lastCursor]
    split <;> split <;> split <;> omega

theorem colors_rotated {n : UInt16} {c : Nat} (cursor : c < n.toNat) {old new : Strip}
    (before : Shows n (pastelColors n.toNat c) old)
    (after : Shows n (pastelColors n.toNat ((c + 1) % n.toNat)) new) :
    Rotated n.toNat old new := by
  intro i place k third
  have bound := n.toNat_lt
  have next := Nat.mod_lt (i + 1) (Nat.zero_lt_of_lt cursor)
  have here : (UInt16.ofNat i).toNat = i := UInt16.toNat_ofNat_of_lt' (by
    unfold UInt16.size
    omega)
  have there : (UInt16.ofNat ((i + 1) % n.toNat)).toNat = (i + 1) % n.toNat :=
    UInt16.toNat_ofNat_of_lt' (by
      unfold UInt16.size
      omega)
  obtain ⟨green, red, blue⟩ := before.holds.lit (UInt16.ofNat i)
    (UInt16.lt_iff_toNat_lt.mpr (by rwa [before.count, here]))
  obtain ⟨green', red', blue'⟩ := after.holds.lit (UInt16.ofNat ((i + 1) % n.toNat))
    (UInt16.lt_iff_toNat_lt.mpr (by rwa [after.count, there]))
  rw [pastelColors, here] at green red blue
  rw [pastelColors, there, turnOf_next cursor place] at green' red' blue'
  have cases : k = 0 ∨ k = 1 ∨ k = 2 := by omega
  rcases cases with rfl | rfl | rfl
  · exact ⟨_, green, green'⟩
  · exact ⟨_, red, red'⟩
  · exact ⟨_, blue, blue'⟩

/-! ### The calls of a run -/

/-- The value of the extra parameter that makes a tick draw. -/
def tickExtra : Input → String
  | .doHandleModePost _ => ""
  | .fastTick => "fast"
  | .tick1sec => "1sec"
  | .tick10sec => "10sec"
  | .tick1min => "1min"

/-- The state in which a step calls `modePastelMain`, if it does. -/
def pastelCalled (info : Info) : Input → Option Info
  | .doHandleModePost postValues =>
      if acceptedMode postValues = some 1 then some (entered postValues 1 info) else none
  | input =>
      if info.currModeIndex = 1 ∧ extraIs info (tickExtra input) = true then some info else none

def pastelCalls : Info → List Input → List Info
  | _, [] => []
  | info, input :: rest =>
      (pastelCalled info input).toList ++ pastelCalls (step info input).2 rest

abbrev cursorOf (statics : Statics) : Int := statics.currPixel

theorem handles_keep {m : Nat} {mode : Mode} (found : allModes[m]? = some mode) (other : m ≠ 1)
    {handler : Handler} (handles : Handles mode handler) : Keeps cursorOf handler := by
  refine table_handles (fun m handler => m ≠ 1 → Keeps cursorOf handler) ?_ ?_ ?_ ?_ ?_ ?_ ?_ ?_
    found handles other
  · exact fun _ value _ keeps away => whenExtra_keeps cursorOf value (keeps away)
  · exact fun _ => none_keeps cursorOf
  · exact fun wrong => absurd rfl wrong
  · exact fun _ => modeFillInit_keeps cursorOf
  · exact fun _ => modeRainbowMain_keeps cursorOf fun _ _ => rfl
  · exact fun _ => modeScanFast_keeps cursorOf fun _ _ _ _ => rfl
  · exact fun _ => modeScanMain_keeps cursorOf fun _ _ _ _ => rfl
  · exact fun _ => modeBinaryCounterMain_keeps cursorOf fun _ _ => rfl

theorem tick_keeps {info : Info} (valid : info.currModeIndex < allModes.length)
    (other : info.currModeIndex ≠ 1) (input : Input) :
    Keeps cursorOf (runHandler (tickHandler (currMode info) input)) :=
  run_tick (Keeps cursorOf) (none_keeps cursorOf) valid
    (fun _ found _ handles => handles_keep found other handles) input

theorem init_keeps {m : Nat} (other : m ≠ 1) :
    Keeps cursorOf (runHandler (allModes[m]?.bind Mode.handlerInit)) :=
  run_init (Keeps cursorOf) (none_keeps cursorOf) fun _ found _ handles =>
    handles_keep found other handles

/-- What a step has to do with `modePastelMain`, and with its cursor. -/
abbrev Pastelled (info : Info) (input : Input) : Option Info → Prop :=
  Calls modePastelMain cursorOf info input

theorem tick_pastelled {info : Info} (valid : info.currModeIndex < allModes.length)
    {input : Input} (tick : ∀ postValues, input ≠ .doHandleModePost postValues)
    (ticked : Ticked info input) :
    Pastelled info input
      (if info.currModeIndex = 1 ∧ extraIs info (tickExtra input) = true then some info
        else none) := by
  by_cases pastel : info.currModeIndex = 1
  · have mode : currMode info = modePastel := currMode_index (by rw [pastel]; rfl)
    have handler : tickHandler modePastel input =
        some (whenExtra (tickExtra input) modePastelMain) := by
      cases input with
      | doHandleModePost postValues => exact absurd rfl (tick postValues)
      | fastTick => rfl
      | tick1sec => rfl
      | tick10sec => rfl
      | tick1min => rfl
    by_cases extra : extraIs info (tickExtra input) = true
    · rw [if_pos ⟨pastel, extra⟩]
      apply tick_calls ticked
      rw [mode, handler]
      exact if_pos extra
    · rw [if_neg fun both => extra both.2]
      have idle : whenExtra (tickExtra input) modePastelMain info = ([], info) := if_neg extra
      apply tick_elsewhere ticked
      rw [mode, handler, runHandler, idle]
  · rw [if_neg fun both => pastel both.1]
    exact tick_elsewhere ticked (tick_keeps valid pastel input info)

theorem step_pastelled {info : Info} (valid : info.currModeIndex < allModes.length)
    (input : Input) : Pastelled info input (pastelCalled info input) := by
  rcases step_cases valid input with
    ⟨postValues, rfl, rejected, same⟩ | ⟨postValues, m, rfl, accepted, same⟩ | ⟨tick, ticked⟩
  · rw [pastelCalled, rejected]
    apply Calls.elsewhere
    rw [same]
  · rw [pastelCalled, accepted]
    by_cases pastel : m = 1
    · subst pastel
      rw [if_pos rfl]
      refine .called (clearing postValues 1 info).1 [] (entered_statics postValues 1 info)
        (fun _ whole => clearing_whole whole postValues 1) ?_ ?_
      · rw [same, List.append_nil]
        rfl
      · rw [same]
        rfl
    · rw [if_neg fun wrong => pastel (Option.some.inj wrong)]
      apply Calls.elsewhere
      rw [same]
      exact (init_keeps pastel _).trans (congrArg cursorOf (entered_statics postValues m info))
  · have result := tick_pastelled valid tick ticked
    cases input with
    | doHandleModePost postValues => exact absurd rfl (tick postValues)
    | fastTick => exact result
    | tick1sec => exact result
    | tick10sec => exact result
    | tick1min => exact result

/-! ### Every run -/

/-- What a call writes. -/
def callWrites (called : Info) : List (Int × Color) :=
  writes (numPixels called) (numPixels called) 0 called.statics.currPixel

/-- A call writes every pixel once and then shows the strip. -/
structure Painted (n : UInt16) (called : Info) : Prop where
  once : ((callWrites called).map Prod.fst).Perm ((List.range n.toNat).map Int.ofNat)
  within : ∀ written ∈ callWrites called, Within written.2
  shown : (modePastelMain called).1 = [.show ((callWrites called).foldl write called.lpd8806)]

def pastelFrames (info : Info) (inputs : List Input) : List Strip :=
  (pastelCalls info inputs).flatMap fun called => frames (modePastelMain called).1

theorem called_painted {n : UInt16} {called : Info} (whole : Whole n called.lpd8806) {c : Nat}
    (cursor : called.statics.currPixel = c) (below : c < n.toNat) : Painted n called := by
  have length : numPixels called = n.toNat := congrArg UInt16.toNat whole.count
  refine ⟨?_, ?_, ?_⟩
  · rw [callWrites, length, cursor]
    exact writes_once below
  · intro written member
    rw [callWrites, length, cursor, writes_places below] at member
    obtain ⟨k, _, rfl⟩ := List.mem_map.mp member
    exact rampColor_within _
  · rw [callWrites, ← pastelLoop_writes]
    rfl

theorem frame_channels {n : UInt16} {c : Nat} {frame : Strip}
    (shows_ : Shows n (pastelColors n.toNat c) frame) {place : Nat} (inside : place < n.toNat * 3) :
    Channel (StripReadBack.shown frame place) := by
  have seven : ∀ value : UInt8, value.toNat ≤ 127 → value &&& 0x7f = value := by
    intro value small
    apply UInt8.toNat_inj.mp
    rw [UInt8.toNat_and]
    exact (Nat.and_two_pow_sub_one_eq_mod _ 7).trans (Nat.mod_eq_of_lt (by omega))
  have kept : ∀ value : UInt8, Channel value → Channel (stored value &&& 0x7f) := by
    intro value channel
    rwa [stored_low, seven value channel.2]
  have bound := n.toNat_lt
  have here : (UInt16.ofNat (place / 3)).toNat = place / 3 := UInt16.toNat_ofNat_of_lt' (by
    unfold UInt16.size
    omega)
  obtain ⟨green, red, blue⟩ := shows_.holds.lit (UInt16.ofNat (place / 3))
    (UInt16.lt_iff_toNat_lt.mpr (by rw [shows_.count, here]; omega))
  rw [here] at green red blue
  have within := rampColor_within (turnOf n.toNat c (place / 3))
  rw [pastelColors, here] at green red blue
  rw [StripReadBack.shown, List.getD_eq_getElem?_getD]
  have third : place = 3 * (place / 3) ∨ place = 3 * (place / 3) + 1 ∨
      place = 3 * (place / 3) + 2 := by omega
  rcases third with first | second | third
  · rw [first, green]
    exact kept _ within.green
  · rw [second, red]
    exact kept _ within.red
  · rw [third, blue]
    exact kept _ within.blue

/-- From a cursor on, the calls paint, and each frame is the one before moved by a pixel. -/
theorem run_frames {n : UInt16} (inputs : List Input) {info : Info} (good : Good n info) {c : Nat}
    (cursor : info.statics.currPixel = c) (below : c < n.toNat) :
    (∀ called ∈ pastelCalls info inputs, Painted n called) ∧
      (pastelFrames info inputs).IsChain (Rotated n.toNat) ∧
      (∀ frame ∈ pastelFrames info inputs, ∀ place < n.toNat * 3,
        Channel (StripReadBack.shown frame place)) ∧
      ∀ frame ∈ (pastelFrames info inputs).head?, Shows n (pastelColors n.toNat c) frame := by
  induction inputs generalizing info c with
  | nil => exact ⟨List.forall_mem_nil _, .nil, List.forall_mem_nil _, nofun⟩
  | cons input rest ih =>
      have later := step_good good input
      have pastelled := step_pastelled good.valid input
      rw [pastelFrames, pastelCalls]
      cases called : pastelCalled info input with
      | none =>
          rw [called] at pastelled
          cases pastelled with
          | elsewhere kept => exact ih later (kept.trans cursor) below
      | some start =>
          rw [called] at pastelled
          cases pastelled with
          | called before after same whole shown moved =>
              have here := whole n good.whole
              have place : start.statics.currPixel = c := by rw [same, cursor]
              obtain ⟨frame, drawn, colors, next⟩ := modePastelMain_frame here place below
              obtain ⟨painted, chain, channels, first⟩ := ih later
                (by rw [moved, next]) (Nat.mod_lt _ (Nat.zero_lt_of_lt below))
              have one : frames (modePastelMain start).1 = [frame] := by
                rw [drawn]
                rfl
              rw [Option.toList_some, List.flatMap_append, List.flatMap_singleton, one]
              refine ⟨?_, ?_, ?_, ?_⟩
              · exact List.forall_mem_cons.mpr ⟨called_painted here place below, painted⟩
              · exact chain.cons fun later member => colors_rotated below colors (first later member)
              · exact List.forall_mem_cons.mpr ⟨fun _ inside => frame_channels colors inside, channels⟩
              · rintro _ ⟨⟩
                exact colors

/-- In every run each call of `modePastelMain` writes every pixel once before it shows the strip,
its frame is the one of the call before moved by one pixel, whatever ran in between, and no channel
leaves 63 to 127. -/
theorem pastel_moves_by_one (transport : Transport) (n : UInt16) (statics : Statics)
    (start : 0 ≤ statics.currPixel) (inside : statics.currPixel < n.toNat) (random : Random)
    (inputs : List Input) :
    let info := (construct transport n statics random).2
    (∀ before input after, inputs = before ++ input :: after →
      Pastelled (Machine.run step info before).2 input
        (pastelCalled (Machine.run step info before).2 input)) ∧
    (∀ called ∈ pastelCalls info inputs, Painted n called) ∧
    (pastelFrames info inputs).IsChain (Rotated n.toNat) ∧
    ∀ frame ∈ pastelFrames info inputs, ∀ place < n.toNat * 3,
      Channel (StripReadBack.shown frame place) := by
  intro info
  have good : Good n info := construct_good transport n statics random
  have cursor : info.statics.currPixel = statics.currPixel.toNat := (Int.toNat_of_nonneg start).symm
  obtain ⟨painted, chain, channels, _⟩ := run_frames inputs good cursor (by omega)
  refine ⟨?_, painted, chain, channels⟩
  intro before input after _
  exact step_pastelled (run_good good before).valid input

def pastelPost : StringMap :=
  ((∅ : StringMap).insert (bytes "ledStripMode") (bytes "1")).insert (bytes "extraParam")
    (bytes "fast")

/-- A strip of two pixels that turns to the pastel mode and gets two ticks that draw. -/
theorem pastel_moves_by_one_sample :
    let info := (construct .spiOutput 2 Statics.new fun _ => 0).2
    let inputs := [.doHandleModePost pastelPost, .fastTick, .tick1sec, .fastTick]
    (pastelFrames info inputs).map Strip.pixels =
        [[191, 192, 255, 191, 193, 255], [191, 193, 255, 191, 192, 255],
          [191, 192, 255, 191, 193, 255]] ∧
      (pastelFrames info inputs).IsChain (Rotated (2 : UInt16).toNat) :=
  ⟨by decide, (pastel_moves_by_one .spiOutput 2 Statics.new (by decide) (by decide) _ _).2.2.1⟩

end OClock.PastelFrames
