import OClock.ScanDots

/-!
The colour of the scan mode. It is chosen where the sweep starts and outlives the mode; a POST
that asks for another one while the dot is elsewhere has to wait for the end of the sweep.
-/

namespace OClock.ScanColors
open Text CommonUtils LedStripInternal LedStripTimeout StripRuns SweepWalk ScanDots
open Lpd8806 (Strip Transport getPixelChannels nullColor)
open StripTransport (Color stored_low)
open StripReadBack (shown getPixelChannels_shown)

/-! ### Colours of frames -/

/-- What a colour shows: red, green and blue in 7 bits. -/
def seven (color : Color) : UInt8 × UInt8 × UInt8 :=
  (color.red &&& 0x7f, color.green &&& 0x7f, color.blue &&& 0x7f)

/-- Every pixel that is lit has the colour that was asked for. -/
def InColor (n : UInt16) (asked : UInt32) (frame : Strip) : Prop :=
  ∀ p < n, getPixelChannels frame p ≠ (0, 0, 0) →
    getPixelChannels frame p = seven (colorOf asked)

theorem shows_channels {n : UInt16} {colors : UInt16 → Color} {frame : Strip}
    (shows_ : Shows n colors frame) {p : UInt16} (below : p < n) :
    getPixelChannels frame p = seven (colors p) := by
  have inside : p < frame.numLEDs := shows_.count ▸ below
  obtain ⟨green, red, blue⟩ := shows_.holds.lit p inside
  have byte : ∀ {place : Nat} {channel : UInt8},
      frame.pixels[place]? = some (StripTransport.stored channel) →
        shown frame place = channel &&& 0x7f := by
    intro place channel here
    rw [shown, List.getD_eq_getElem?_getD, here]
    exact stored_low channel
  rw [getPixelChannels_shown inside, Nat.mul_comm, byte green, byte red, byte blue]
  rfl

theorem seven_unlit (p : UInt16) : seven (unlit p) = (0, 0, 0) := by
  simp [seven, unlit]

theorem dark_inColor {n : UInt16} {frame : Strip} (dark : Dark n frame) (asked : UInt32) :
    InColor n asked frame := by
  intro p below lit
  rw [shows_channels dark below] at lit
  exact absurd (seven_unlit _) lit

/-- A colour that shows nothing, or what was asked for. -/
def Harmless (asked c : UInt32) : Prop :=
  seven (colorOf c) = (0, 0, 0) ∨ seven (colorOf c) = seven (colorOf asked)

theorem dot_inColor {n : UInt16} {asked c : UInt32} (harmless : Harmless asked c) {p : Int}
    {frame : Strip} (dot : DotFrame n c p frame) : InColor n asked frame := by
  intro q below lit
  rw [shows_channels dot below, dotOn] at lit ⊢
  by_cases here : pixel p = q
  · rw [if_pos here] at lit ⊢
    rcases harmless with dark | same
    · exact absurd dark lit
    · exact same
  · rw [if_neg here] at lit
    exact absurd (seven_unlit _) lit

theorem dots_inColor {n : UInt16} {asked c : UInt32} (harmless : Harmless asked c)
    {places : List Int} {dots : List Strip} (each : List.Forall₂ (DotFrame n c) places dots) :
    ∀ frame ∈ dots, InColor n asked frame := by
  induction each with
  | nil => exact List.forall_mem_nil _
  | cons dot _ ih => exact List.forall_mem_cons.mpr ⟨dot_inColor harmless dot, ih⟩

/-! ### Which colour a call uses -/

theorem wantedColor_asked {info : Info} (asked : getPixelColorParam info.params ≠ nullColor) :
    (wantedColor info).1 = getPixelColorParam info.params := by
  rw [wantedColor]
  dsimp only
  rw [if_neg asked]

theorem scanColor_harmless {info : Info} (asked : getPixelColorParam info.params ≠ nullColor)
    (ok : info.statics.i = 0 ∨ Harmless (getPixelColorParam info.params) info.statics.color) :
    Harmless (getPixelColorParam info.params) (scanColor info).statics.color := by
  rw [scanColor]
  by_cases start : info.statics.i = 0
  · rw [if_pos start]
    dsimp only
    rw [wantedColor_asked asked]
    exact .inr rfl
  · rw [if_neg start]
    exact ok.resolve_left start

/-- The values of the extra parameter with which the scan mode draws at all. -/
def Draws (params : StringMap) : Prop :=
  isParamSet params ledStripParamExtra = false ∨
    isParamSetTo params ledStripParamExtra (bytes "") = true ∨
    isParamSetTo params ledStripParamExtra (bytes "1sec") = true ∨
    isParamSetTo params ledStripParamExtra (bytes "10sec") = true ∨
    isParamSetTo params ledStripParamExtra (bytes "1min") = true

theorem scans_draws {info : Info} {input : Input} (runs : scans info input = true) :
    Draws info.params := by
  cases input with
  | doHandleModePost postValues => cases runs
  | fastTick =>
      rcases (of_decide_eq_true runs).2 with unset | empty
      · exact .inl unset
      · exact .inr (.inl empty)
  | tick1sec => exact .inr (.inr (.inl (of_decide_eq_true runs).2))
  | tick10sec => exact .inr (.inr (.inr (.inl (of_decide_eq_true runs).2)))
  | tick1min => exact .inr (.inr (.inr (.inr (of_decide_eq_true runs).2)))

theorem draws_scans {info : Info} (scan : info.currModeIndex = 4) (draws : Draws info.params) :
    ∃ input, accepts input = false ∧ scans info input = true := by
  rcases draws with unset | empty | second | tenth | minute
  · exact ⟨.fastTick, rfl, decide_eq_true ⟨scan, .inl unset⟩⟩
  · exact ⟨.fastTick, rfl, decide_eq_true ⟨scan, .inr empty⟩⟩
  · exact ⟨.tick1sec, rfl, decide_eq_true ⟨scan, second⟩⟩
  · exact ⟨.tick10sec, rfl, decide_eq_true ⟨scan, tenth⟩⟩
  · exact ⟨.tick1min, rfl, decide_eq_true ⟨scan, minute⟩⟩

/-! ### A stay in the scan mode -/

/-- No frame of the mode shows another colour: the dot is where the colour is chosen, or the one it
has does no harm, or the mode does not draw. -/
def Safe (asked : UInt32) (params : StringMap) (statics : Statics) : Prop :=
  statics.i = 0 ∨ Harmless asked statics.color ∨ ¬ Draws params

/-- Until the next POST: the scan mode with the values it was asked for, or the manual mode after
the timeout. -/
inductive Staying (n : UInt16) (postValues : StringMap) (info : Info) : Prop where
  | scan (ready : Ready n info) (index : info.currModeIndex = 4)
      (params : info.params = postValues)
      (safe : Safe (getPixelColorParam postValues) postValues info.statics)
  | manual (ready : Ready n info) (index : info.currModeIndex = 0)

section Stay
variable {n : UInt16} {postValues : StringMap} {info : Info}
  (asked : getPixelColorParam postValues ≠ nullColor)
include asked

/-- A call shows the colour that was asked for, or none, and leaves one that does no harm. -/
theorem call_inColor (ready : Ready n info) (params : info.params = postValues)
    (safe : Safe (getPixelColorParam postValues) postValues info.statics) {input : Input}
    (runs : scans info input = true) :
    (∀ frame ∈ frames (modeScanMain info).1, InColor n (getPixelColorParam postValues) frame) ∧
      Safe (getPixelColorParam postValues) postValues (modeScanMain info).2.statics := by
  subst params
  have draws := scans_draws runs
  have ok : info.statics.i = 0 ∨
      Harmless (getPixelColorParam info.params) info.statics.color := by
    rcases safe with start | harmless | idle
    · exact .inl start
    · exact .inr harmless
    · exact absurd draws idle
  have harmless := scanColor_harmless asked ok
  have scanned := modeScanMain_scanned (ready.dark (scans_mode runs).1)
  obtain ⟨dots, rest, split, each, after⟩ := scanned.shown
  constructor
  · intro frame member
    rw [split, List.mem_append] at member
    rcases member with dot | dark
    · exact dots_inColor harmless each frame dot
    · exact dark_inColor (after frame dark) _
  · rw [Safe, scanned.color]
    exact .inr (.inl harmless)

theorem tick_staying (two : 2 ≤ n.toNat) (staying : Staying n postValues info) {input : Input}
    (tick : ∀ postValues, input ≠ .doHandleModePost postValues) (ticked : Ticked info input) :
    (∀ frame ∈ frames (step info input).1, InColor n (getPixelColorParam postValues) frame) ∧
      Staying n postValues (step info input).2 := by
  have ready : Ready n info := by
    cases staying with
    | scan ready => exact ready
    | manual ready => exact ready
  have later := step_ready two ready input
  have same := tick_same info input
  obtain ⟨tail, split, dark⟩ := tick_frames ready.good ticked
  rw [split]
  cases staying with
  | scan _ index params safe =>
      have handler := scan_handler index tick
      have ran : (∀ frame ∈ frames (runHandler (tickHandler (currMode info) input) info).1,
            InColor n (getPixelColorParam postValues) frame) ∧
          Safe (getPixelColorParam postValues) postValues
            (runHandler (tickHandler (currMode info) input) info).2.statics := by
        rw [handler]
        by_cases runs : scans info input = true
        · rw [if_pos runs]
          exact call_inColor asked ready params safe runs
        · rw [if_neg runs]
          exact ⟨List.forall_mem_nil _, safe⟩
      constructor
      · intro frame member
        rw [List.mem_append] at member
        rcases member with drawn | ended
        · exact ran.1 frame drawn
        · exact dark_inColor (dark frame ended) _
      · cases ticked with
        | runs secs result =>
            rw [result] at later ⊢
            exact .scan later (same.index.trans index) (same.params.trans params) ran.2
        | ends _ result =>
            rw [result] at later ⊢
            exact .manual later rfl
  | manual _ index =>
      have mode : currMode info = modeManual := currMode_index (by rw [index]; rfl)
      have idle : runHandler (tickHandler (currMode info) input) info = ([], info) := by
        rw [mode]
        cases input <;> rfl
      constructor
      · intro frame member
        rw [idle] at member
        exact dark_inColor (dark frame member) _
      · exact .manual later (manual_stays ticked index)

theorem step_staying (two : 2 ≤ n.toNat) (staying : Staying n postValues info) {input : Input}
    (quiet : accepts input = false) :
    (∀ frame ∈ frames (step info input).1, InColor n (getPixelColorParam postValues) frame) ∧
      Staying n postValues (step info input).2 := by
  have valid : info.currModeIndex < allModes.length := by
    cases staying with
    | scan ready => exact ready.good.valid
    | manual ready => exact ready.good.valid
  rcases quiet_cases valid quiet with ⟨_, _, same⟩ | ⟨tick, ticked⟩
  · rw [same]
    exact ⟨List.forall_mem_nil _, staying⟩
  · exact tick_staying asked two staying tick ticked

theorem run_staying (two : 2 ≤ n.toNat) (inputs : List Input)
    (quiet : ∀ input ∈ inputs, accepts input = false) (staying : Staying n postValues info) :
    ∀ outputs ∈ (Machine.run step info inputs).1, ∀ frame ∈ frames outputs,
      InColor n (getPixelColorParam postValues) frame := by
  induction inputs generalizing info with
  | nil => exact List.forall_mem_nil _
  | cons input rest ih =>
      obtain ⟨here, later⟩ := List.forall_mem_cons.mp quiet
      obtain ⟨shown, next⟩ := step_staying asked two staying here
      exact List.forall_mem_cons.mpr ⟨shown, ih later next⟩

end Stay

/-! ### The POST -/

/-- A POST into the scan mode shows nothing but a dark strip. -/
theorem post_scan {n : UInt16} {info : Info} (ready : Ready n info) {postValues : StringMap}
    (accepted : acceptedMode postValues = some 4) :
    (∀ frame ∈ frames (step info (.doHandleModePost postValues)).1, Dark n frame) ∧
      (step info (.doHandleModePost postValues)).2 = entered postValues 4 info := by
  have result := post_step ready.good.valid accepted
  rw [result]
  refine ⟨?_, rfl⟩
  intro frame member
  rw [frames_append, List.mem_append] at member
  rcases member with cleared | begun
  · rw [clearing] at cleared
    split at cleared
    · cases List.mem_singleton.mp cleared
      exact clear_dark ready.good.whole
    · cases cleared
  · cases begun

/-- The first dot of a call has the colour that is latched, unless the dot is at the start. -/
theorem first_dot {n : UInt16} {info : Info} (ready : Ready n info)
    (away : info.statics.i ≠ 0) {input : Input} (runs : scans info input = true) :
    ∃ frame ∈ frames (modeScanMain info).1,
      DotFrame n info.statics.color info.statics.i frame := by
  have scanned := modeScanMain_scanned (ready.dark (scans_mode runs).1)
  obtain ⟨dots, rest, split, each, _⟩ := scanned.shown
  have color : (scanColor info).statics.color = info.statics.color := by
    rw [scanColor, if_neg away]
  have some : ∃ more, visits n.toNat (ledsVisitedPerFrame + 1) (placeOf info.statics) =
      more + 1 := by
    rw [visits]
    split
    · exact ⟨0, rfl⟩
    · exact ⟨_, rfl⟩
  obtain ⟨more, count⟩ := some
  rw [scanColor_place, color, count, trace_succ] at each
  cases each with
  | cons dot _ =>
      refine ⟨_, ?_, dot⟩
      rw [split]
      exact List.mem_append_left rest List.mem_cons_self

/-- A lit dot shows the colour that is latched. -/
theorem dot_wrong {n : UInt16} {info : Info} (ready : Ready n info) {asked : UInt32}
    (harmful : ¬ Harmless asked info.statics.color) {frame : Strip}
    (dot : DotFrame n info.statics.color info.statics.i frame) : ¬ InColor n asked frame := by
  intro right
  have bound := n.toNat_lt
  obtain ⟨low, high, _⟩ := ready.inside
  have low : 0 ≤ info.statics.i := low
  have high : info.statics.i < n.toNat := high
  have place := pixel_toNat low (by omega)
  have below : pixel info.statics.i < n := UInt16.lt_iff_toNat_lt.mpr (by omega)
  have here := shows_channels dot below
  rw [dotOn, if_pos rfl] at here
  have same := right _ below
  rw [here] at same
  apply harmful
  by_cases dark : seven (colorOf info.statics.color) = (0, 0, 0)
  · exact .inl dark
  · exact .inr (same dark)

section Post
variable {n : UInt16} (two : 2 ≤ n.toNat) {info : Info} (ready : Ready n info)
  {postValues : StringMap} (accepted : acceptedMode postValues = some 4)
include two ready accepted

theorem entered_ready : Ready n (entered postValues 4 info) := by
  have later := step_ready two ready (.doHandleModePost postValues)
  rwa [(post_scan ready accepted).2] at later

/-- A stay that is not safe has a tick that shows another colour. -/
theorem unsafe_shows (harmful : ¬ Safe (getPixelColorParam postValues) postValues info.statics) :
    ∃ input, accepts input = false ∧
      ∃ frame ∈ frames (step (step info (.doHandleModePost postValues)).2 input).1,
        ¬ InColor n (getPixelColorParam postValues) frame := by
  rw [Safe, not_or, not_or, not_not] at harmful
  obtain ⟨away, wrong, draws⟩ := harmful
  have later := entered_ready two ready accepted
  have statics := entered_statics postValues 4 info
  rw [(post_scan ready accepted).2]
  have scan : (entered postValues 4 info).currModeIndex = 4 := rfl
  have params : Draws (entered postValues 4 info).params := draws
  obtain ⟨input, quiet, runs⟩ := draws_scans scan params
  rw [← statics] at away wrong
  obtain ⟨frame, member, dot⟩ := first_dot later away runs
  refine ⟨input, quiet, frame, ?_, dot_wrong later wrong dot⟩
  have calls := step_calls later.good.valid input
  rw [if_pos runs] at calls
  cases calls with
  | called before after _ _ shown _ =>
      rw [shown, frames_append, frames_append]
      exact List.mem_append_left _ (List.mem_append_right _ member)

theorem safe_stays (asked : getPixelColorParam postValues ≠ nullColor)
    (safe : Safe (getPixelColorParam postValues) postValues info.statics) (inputs : List Input)
    (quiet : ∀ input ∈ inputs, accepts input = false) :
    ∀ outputs ∈ (Machine.run step info (.doHandleModePost postValues :: inputs)).1,
      ∀ frame ∈ frames outputs, InColor n (getPixelColorParam postValues) frame := by
  obtain ⟨dark, after⟩ := post_scan ready accepted
  have later := entered_ready two ready accepted
  refine List.forall_mem_cons.mpr ⟨fun frame member => dark_inColor (dark frame member) _, ?_⟩
  apply run_staying asked two inputs quiet
  rw [after]
  apply Staying.scan later rfl rfl
  rw [entered_statics]
  exact safe

end Post

/-- After any history, all frames that follow a POST into the scan mode, up to the next one that is
accepted, keep to the colour it asks for if and only if the dot is at the start of the strip then,
or the colour of an earlier scan shows nothing or the same, or the mode is asked not to draw. -/
theorem scan_uses_asked_iff (transport : Transport) (n : UInt16) (two : 2 ≤ n.toNat)
    (statics : Statics) (inside : Inside n.toNat (placeOf statics)) (random : Random)
    (history : List Input) (postValues : StringMap) (accepted : acceptedMode postValues = some 4)
    (asked : getPixelColorParam postValues ≠ nullColor) :
    let info := (Machine.run step (construct transport n statics random).2 history).2
    (∀ inputs : List Input, (∀ input ∈ inputs, accepts input = false) →
      ∀ outputs ∈ (Machine.run step info (.doHandleModePost postValues :: inputs)).1,
        ∀ frame ∈ frames outputs, InColor n (getPixelColorParam postValues) frame) ↔
      info.statics.i = 0 ∨ Harmless (getPixelColorParam postValues) info.statics.color ∨
        ¬ Draws postValues := by
  intro info
  have ready : Ready n info :=
    run_ready two (construct_ready transport n inside random) history
  constructor
  · intro right
    by_contra harmful
    obtain ⟨input, quiet, frame, member, wrong⟩ := unsafe_shows two ready accepted harmful
    apply wrong
    exact right [input] (List.forall_mem_singleton.mpr quiet) _
      (List.mem_cons_of_mem _ List.mem_cons_self) frame member
  · exact safe_stays two ready accepted asked

/-- A POST that asks for a mode in a colour. -/
def colorPost (mode red blue : String) : StringMap :=
  (((∅ : StringMap).insert (bytes "ledStripMode") (bytes mode)).insert (bytes "red")
    (bytes red)).insert (bytes "blue") (bytes blue)

theorem scan_uses_asked_sample :
    let start := (construct .spiOutput 240 Statics.new fun _ => 0).2
    ∀ inputs : List Input, (∀ input ∈ inputs, accepts input = false) →
      ∀ outputs ∈ (Machine.run step start
        (.doHandleModePost (colorPost "4" "0" "127") :: inputs)).1,
        ∀ frame ∈ frames outputs,
          InColor 240 (getPixelColorParam (colorPost "4" "0" "127")) frame :=
  (scan_uses_asked_iff .spiOutput 240 (by decide) Statics.new ⟨by decide, by decide, by decide⟩
    (fun _ => 0) [] (colorPost "4" "0" "127") (by decide) (by decide)).mpr (.inl rfl)

/-- A red scan that is left after one tick, and a blue one that starts red in its middle. -/
theorem blue_scan_shows_red :
    let start := (construct .spiOutput 240 Statics.new fun _ => 0).2
    let left := (Machine.run step start [.doHandleModePost (colorPost "4" "127" "0"), .fastTick,
      .doHandleModePost (colorPost "0" "0" "0")]).2
    ¬ ∀ inputs : List Input, (∀ input ∈ inputs, accepts input = false) →
      ∀ outputs ∈ (Machine.run step left
        (.doHandleModePost (colorPost "4" "0" "127") :: inputs)).1,
        ∀ frame ∈ frames outputs,
          InColor 240 (getPixelColorParam (colorPost "4" "0" "127")) frame := by
  intro start left right
  have two : 2 ≤ (240 : UInt16).toNat := by decide
  have ready : Ready 240 left := run_ready two
    (construct_ready .spiOutput 240 ⟨by decide, by decide, by decide⟩ _) _
  have away : left.statics.i = 12 := by decide +kernel
  have red : seven (colorOf left.statics.color) = (127, 0, 0) := by decide +kernel
  have harmful : ¬ Safe (getPixelColorParam (colorPost "4" "0" "127"))
      (colorPost "4" "0" "127") left.statics := by
    rintro (start | (dark | blue) | idle)
    · rw [away] at start
      cases start
    · rw [red] at dark
      cases dark
    · rw [red] at blue
      exact absurd blue (by decide)
    · exact idle (.inl (by decide))
  obtain ⟨input, quiet, frame, member, wrong⟩ := unsafe_shows two ready (by decide) harmful
  apply wrong
  exact right [input] (List.forall_mem_singleton.mpr quiet) _
    (List.mem_cons_of_mem _ List.mem_cons_self) frame member

end OClock.ScanColors
