import OClock.StripRuns
import OClock.SweepWalk

/-!
The dot of the scan mode. Its place and direction outlive a call and a visit to the mode; the
strip is dark whenever no dot is shown.
-/

namespace OClock.ScanDots
open Text CommonUtils LedStripInternal LedStripTimeout StripRuns SweepWalk
open Lpd8806 (Strip Transport)
open StripTransport (Color)

def placeOf (statics : Statics) : Place := ⟨statics.i, statics.iIncrement⟩

/-- The turns of a loop, which breaks when the dot would leave the start of the strip. -/
def visits (n : Nat) : Nat → Place → Nat
  | 0, _ => 0
  | turns + 1, place =>
      if place.i + place.iIncrement = -1 then 1 else visits n turns (walk n place) + 1

def colorOf (c : UInt32) : Color := ⟨(c >>> 8).toUInt8, (c >>> 16).toUInt8, c.toUInt8⟩

/-- One pixel has the colour, and every other one is off. -/
def dotOn (c : UInt32) (p : Int) (i : UInt16) : Color :=
  if pixel p = i then colorOf c else unlit i

abbrev DotFrame (n : UInt16) (c : UInt32) (p : Int) (frame : Strip) : Prop :=
  Shows n (dotOn c p) frame

/-! ### One turn -/

theorem scanDot_shows {n : UInt16} {info : Info} (dark : Dark n info.lpd8806) :
    ∃ frame, frames (scanDot info).1 = [frame] ∧
      DotFrame n info.statics.color info.statics.i frame ∧ Dark n (scanDot info).2.lpd8806 := by
  have drawn := op_shows dark (.setPackedColor (pixel info.statics.i) info.statics.color)
  have erased := op_shows (show_shows drawn) (.setPackedColor (pixel info.statics.i) 0)
  refine ⟨_, rfl, drawn, shows_congr erased fun i _ => ?_⟩
  dsimp only [StripTransport.record]
  by_cases dot : pixel info.statics.i = i
  · rw [if_pos dot]
    rfl
  · rw [if_neg dot, if_neg dot]

theorem scanTurn_walk {n : Nat} {statics : Statics}
    (inner : statics.i + statics.iIncrement ≠ -1) :
    placeOf (scanTurn n statics) = walk n (placeOf statics) := by
  rw [walk, placeOf, placeOf]
  dsimp only
  rw [if_neg inner, scanTurn]
  by_cases top : statics.i + statics.iIncrement = n
  · rw [if_pos top, if_pos top]
  · rw [if_neg top, if_neg top]

theorem scanTurn_color (n : Nat) (statics : Statics) :
    (scanTurn n statics).color = statics.color := by
  rw [scanTurn]
  split <;> rfl

/-! ### One call -/

/-- What the loop shows: a dot at each place of the walk, and then possibly a dark strip. -/
structure Scanned (n : UInt16) (turns : Nat) (before : Info) (outputs : List Output)
    (after : Info) : Prop where
  shown : ∃ dots rest, frames outputs = dots ++ rest ∧
    List.Forall₂ (DotFrame n before.statics.color)
      (trace n.toNat (visits n.toNat turns (placeOf before.statics)) (placeOf before.statics))
      dots ∧
    ∀ frame ∈ rest, Dark n frame
  dark : Dark n after.lpd8806
  moved : placeOf after.statics =
    (walk n.toNat)^[visits n.toNat turns (placeOf before.statics)] (placeOf before.statics)
  color : after.statics.color = before.statics.color

/-- The strip and the variables with which the loop goes on after a turn. -/
def moved (info : Info) : Info :=
  { (scanDot info).2 with statics := scanTurn (numPixels info) info.statics }

theorem scanLoop_more (turns : Nat) {info : Info}
    (inner : info.statics.i + info.statics.iIncrement ≠ -1) :
    frames (scanLoop (turns + 1) info).1 =
        frames (scanDot info).1 ++ frames (scanLoop turns (moved info)).1 ∧
      (scanLoop (turns + 1) info).2 = (scanLoop turns (moved info)).2 := by
  rw [scanLoop]
  dsimp only
  rw [if_neg inner]
  cases turns with
  | zero => exact ⟨(List.append_nil _).symm, rfl⟩
  | succ turns =>
      rw [if_neg (Nat.succ_ne_zero turns)]
      exact ⟨frames_append _ _, rfl⟩

theorem scanLoop_scanned (turns : Nat) {n : UInt16} {info : Info} (dark : Dark n info.lpd8806) :
    Scanned n turns info (scanLoop turns info).1 (scanLoop turns info).2 := by
  induction turns generalizing info with
  | zero => exact ⟨⟨[], [], rfl, .nil, List.forall_mem_nil _⟩, dark, rfl, rfl⟩
  | succ turns ih =>
      obtain ⟨frame, shown, dot, erased⟩ := scanDot_shows dark
      by_cases bottom : info.statics.i + info.statics.iIncrement = -1
      · have one : visits n.toNat (turns + 1) (placeOf info.statics) = 1 := if_pos bottom
        have whole := shows_whole erased
        rw [scanLoop]
        dsimp only
        rw [if_pos bottom]
        refine ⟨⟨[frame], [Lpd8806.clearPixelColors (scanDot info).2.lpd8806], ?_, ?_, ?_⟩,
          clearPixelColorsAndShow_dark _ whole, ?_, rfl⟩
        · rw [frames_append, shown]
          rfl
        · rw [one]
          exact .cons dot .nil
        · exact List.forall_mem_singleton.mpr (clear_dark whole)
        · rw [one, Function.iterate_one, walk, placeOf, placeOf]
          dsimp only
          rw [if_pos bottom]
          rfl
      · have more : visits n.toNat (turns + 1) (placeOf info.statics) =
            visits n.toNat turns (walk n.toNat (placeOf info.statics)) + 1 := if_neg bottom
        have length : numPixels info = n.toNat := congrArg UInt16.toNat dark.count
        have next : placeOf (moved info).statics = walk n.toNat (placeOf info.statics) := by
          rw [moved, length]
          exact scanTurn_walk bottom
        have color : (moved info).statics.color = info.statics.color :=
          scanTurn_color (numPixels info) info.statics
        have rests : Dark n (moved info).lpd8806 := erased
        obtain ⟨⟨dots, rest, split, each, after⟩, dark', place, kept⟩ := ih rests
        obtain ⟨outputs, final⟩ := scanLoop_more turns bottom
        rw [next, color] at each
        rw [next] at place
        refine ⟨⟨frame :: dots, rest, ?_, ?_, after⟩, ?_, ?_, ?_⟩
        · rw [outputs, shown, split]
          rfl
        · rw [more, trace_succ]
          exact .cons dot each
        · rwa [final]
        · rw [final, place, more, Function.iterate_succ_apply]
        · rw [final, kept, color]

theorem scanColor_place (info : Info) :
    placeOf (scanColor info).statics = placeOf info.statics := by
  rw [scanColor]
  split <;> rfl

/-- A call starts with the colour that it has chosen, if the dot is at the start. -/
theorem modeScanMain_scanned {n : UInt16} {info : Info} (dark : Dark n info.lpd8806) :
    Scanned n (ledsVisitedPerFrame + 1) (scanColor info) (modeScanMain info).1
      (modeScanMain info).2 := by
  apply scanLoop_scanned
  rwa [scanColor_strip]

/-! ### The calls of a run -/

/-- The steps that call `modeScanMain`. -/
def scans (info : Info) : Input → Bool
  | .doHandleModePost _ => false
  | .fastTick => info.currModeIndex = 4 ∧
      (isParamSet info.params ledStripParamExtra = false ∨ extraIs info "" = true)
  | .tick1sec => info.currModeIndex = 4 ∧ extraIs info "1sec" = true
  | .tick10sec => info.currModeIndex = 4 ∧ extraIs info "10sec" = true
  | .tick1min => info.currModeIndex = 4 ∧ extraIs info "1min" = true

/-- The variables of the scan mode. -/
abbrev scanPart (statics : Statics) : UInt32 × Place := (statics.color, placeOf statics)

abbrev ScanCalls (info : Info) (input : Input) : Option Info → Prop :=
  Calls modeScanMain scanPart info input

theorem handles_keep {m : Nat} {mode : Mode} (found : allModes[m]? = some mode) (other : m ≠ 4)
    {handler : Handler} (handles : Handles mode handler) : Keeps scanPart handler := by
  refine table_handles (fun m handler => m ≠ 4 → Keeps scanPart handler) ?_ ?_ ?_ ?_ ?_ ?_ ?_ ?_
    found handles other
  · exact fun _ value _ keeps away => whenExtra_keeps scanPart value (keeps away)
  · exact fun _ => none_keeps scanPart
  · exact fun _ => modePastelMain_keeps scanPart fun _ _ => rfl
  · exact fun _ => modeFillInit_keeps scanPart
  · exact fun _ => modeRainbowMain_keeps scanPart fun _ _ => rfl
  · exact fun wrong => absurd rfl wrong
  · exact fun wrong => absurd rfl wrong
  · exact fun _ => modeBinaryCounterMain_keeps scanPart fun _ _ => rfl

theorem tick_keeps {info : Info} (valid : info.currModeIndex < allModes.length)
    (other : info.currModeIndex ≠ 4) (input : Input) :
    Keeps scanPart (runHandler (tickHandler (currMode info) input)) :=
  run_tick (Keeps scanPart) (none_keeps scanPart) valid
    (fun _ found _ handles => handles_keep found other handles) input

/-- The scan mode begins without a function of its own. -/
theorem init_keeps (m : Nat) : Keeps scanPart (runHandler (allModes[m]?.bind Mode.handlerInit)) := by
  by_cases scan : m = 4
  · subst scan
    exact none_keeps scanPart
  · exact run_init (Keeps scanPart) (none_keeps scanPart) fun _ found _ handles =>
      handles_keep found scan handles

/-- In the scan mode a tick calls `modeScanMain` or does nothing. -/
theorem scan_handler {info : Info} (scan : info.currModeIndex = 4) {input : Input}
    (tick : ∀ postValues, input ≠ .doHandleModePost postValues) :
    runHandler (tickHandler (currMode info) input) info =
      if scans info input = true then modeScanMain info else ([], info) := by
  have mode : currMode info = modeScan := currMode_index (by rw [scan]; rfl)
  rw [mode]
  cases input with
  | doHandleModePost postValues => exact absurd rfl (tick postValues)
  | fastTick =>
      have runs : (!isParamSet info.params ledStripParamExtra || extraIs info "") = true ↔
          scans info .fastTick = true := by
        simp [scans, scan]
      rw [← ite_cond_congr (propext runs)]
      rfl
  | tick1sec =>
      have runs : extraIs info "1sec" = true ↔ scans info .tick1sec = true := by
        simp [scans, scan]
      rw [← ite_cond_congr (propext runs)]
      rfl
  | tick10sec =>
      have runs : extraIs info "10sec" = true ↔ scans info .tick10sec = true := by
        simp [scans, scan]
      rw [← ite_cond_congr (propext runs)]
      rfl
  | tick1min =>
      have runs : extraIs info "1min" = true ↔ scans info .tick1min = true := by
        simp [scans, scan]
      rw [← ite_cond_congr (propext runs)]
      rfl

theorem scans_mode {info : Info} {input : Input} (runs : scans info input = true) :
    info.currModeIndex = 4 ∧ ∀ postValues, input ≠ .doHandleModePost postValues := by
  cases input with
  | doHandleModePost postValues => cases runs
  | fastTick => exact ⟨(of_decide_eq_true runs).1, nofun⟩
  | tick1sec => exact ⟨(of_decide_eq_true runs).1, nofun⟩
  | tick10sec => exact ⟨(of_decide_eq_true runs).1, nofun⟩
  | tick1min => exact ⟨(of_decide_eq_true runs).1, nofun⟩

theorem step_calls {info : Info} (valid : info.currModeIndex < allModes.length) (input : Input) :
    ScanCalls info input (if scans info input = true then some info else none) := by
  rcases step_cases valid input with
    ⟨postValues, rfl, _, same⟩ | ⟨postValues, m, rfl, _, same⟩ | ⟨tick, ticked⟩
  · apply Calls.elsewhere
    rw [same]
  · apply Calls.elsewhere
    rw [same]
    exact (init_keeps m _).trans (congrArg scanPart (entered_statics postValues m info))
  · by_cases scan : info.currModeIndex = 4
    · have handler := scan_handler scan tick
      by_cases runs : scans info input = true
      · rw [if_pos runs] at handler ⊢
        exact tick_calls ticked handler
      · rw [if_neg runs] at handler ⊢
        apply tick_elsewhere ticked
        rw [handler]
    · rw [if_neg fun runs => scan (scans_mode runs).1]
      exact tick_elsewhere ticked (tick_keeps valid scan input info)

/-! ### Every state -/

/-- The dot is on the strip, which is dark between the calls. -/
structure Ready (n : UInt16) (info : Info) : Prop where
  good : Good n info
  inside : Inside n.toNat (placeOf info.statics)
  dark : info.currModeIndex = 4 → Dark n info.lpd8806

/-- A POST that ends in the scan mode leaves a dark strip. -/
theorem entered_dark {n : UInt16} {info : Info} (ready : Ready n info) (postValues : StringMap) :
    Dark n (entered postValues 4 info).lpd8806 := by
  rw [entered, clearing]
  dsimp only
  by_cases clears : info.currModeIndex ≠ 4 ∨ shouldClearAllPixels postValues = true
  · rw [if_pos clears]
    exact cleared_dark ready.good.whole
  · rw [if_neg clears]
    rw [not_or, not_not] at clears
    exact ready.dark clears.1

theorem step_dark {n : UInt16} {info : Info} (ready : Ready n info) (input : Input)
    (scan : (step info input).2.currModeIndex = 4) : Dark n (step info input).2.lpd8806 := by
  rcases step_cases ready.good.valid input with
    ⟨_, _, _, same⟩ | ⟨postValues, m, rfl, accepted, same⟩ | ⟨tick, ticked⟩
  · rw [same] at scan ⊢
    exact ready.dark scan
  · have index : (step info (.doHandleModePost postValues)).2.currModeIndex = m :=
      (accepted_changes accepted info).1
    have four : m = 4 := index.symm.trans scan
    subst four
    rw [same]
    exact entered_dark ready postValues
  · cases ticked with
    | runs secs same =>
        rw [same] at scan ⊢
        have before : info.currModeIndex = 4 := (tick_same info input).index.symm.trans scan
        have dark := ready.dark before
        have result : Dark n (runHandler (tickHandler (currMode info) input) info).2.lpd8806 := by
          rw [scan_handler before tick]
          split
          · exact (modeScanMain_scanned dark).dark
          · exact dark
        exact result
    | ends _ same =>
        rw [same] at scan
        cases scan

theorem step_inside {n : UInt16} (two : 2 ≤ n.toNat) {info : Info} (ready : Ready n info)
    (input : Input) : Inside n.toNat (placeOf (step info input).2.statics) := by
  have calls := step_calls ready.good.valid input
  by_cases runs : scans info input = true
  · rw [if_pos runs] at calls
    cases calls with
    | called _ _ _ _ _ moved =>
        have scanned := modeScanMain_scanned (ready.dark (scans_mode runs).1)
        rw [moved, scanned.moved, scanColor_place]
        exact iterate_inside two ready.inside _
  · rw [if_neg runs] at calls
    cases calls with
    | elsewhere kept =>
        rw [(Prod.mk.inj kept).2]
        exact ready.inside

theorem step_ready {n : UInt16} (two : 2 ≤ n.toNat) {info : Info} (ready : Ready n info)
    (input : Input) : Ready n (step info input).2 :=
  ⟨step_good ready.good input, step_inside two ready input, step_dark ready input⟩

theorem run_ready {n : UInt16} (two : 2 ≤ n.toNat) {info : Info} (ready : Ready n info)
    (inputs : List Input) : Ready n (Machine.run step info inputs).2 :=
  Machine.run_invariant step (Ready n) (fun _ input ready => step_ready two ready input) info
    inputs ready

theorem construct_ready (transport : Transport) (n : UInt16) {statics : Statics}
    (inside : Inside n.toNat (placeOf statics)) (random : Random) :
    Ready n (construct transport n statics random).2 :=
  ⟨construct_good transport n statics random, inside, nofun⟩

/-! ### Every run -/

/-- The positions that a step shows. -/
def stepDots (info : Info) (input : Input) : List Int :=
  if scans info input = true then
    trace (numPixels info) (visits (numPixels info) (ledsVisitedPerFrame + 1)
      (placeOf info.statics)) (placeOf info.statics)
  else []

def runDots : Info → List Input → List Int
  | _, [] => []
  | info, input :: rest => stepDots info input ++ runDots (step info input).2 rest

/-- The positions of a run are those of one walk. -/
theorem runDots_trace {n : UInt16} (two : 2 ≤ n.toNat) (inputs : List Input) {info : Info}
    (ready : Ready n info) :
    ∃ count, runDots info inputs = trace n.toNat count (placeOf info.statics) := by
  induction inputs generalizing info with
  | nil => exact ⟨0, rfl⟩
  | cons input rest ih =>
      obtain ⟨count, later⟩ := ih (step_ready two ready input)
      have length : numPixels info = n.toNat := congrArg UInt16.toNat ready.good.whole.count
      have calls := step_calls ready.good.valid input
      rw [runDots, stepDots, later, length]
      by_cases runs : scans info input = true
      · rw [if_pos runs] at calls ⊢
        cases calls with
        | called _ _ _ _ _ moved =>
            have scanned := modeScanMain_scanned (ready.dark (scans_mode runs).1)
            rw [moved, scanned.moved, scanColor_place, ← trace_add]
            exact ⟨_, rfl⟩
      · rw [if_neg runs] at calls ⊢
        cases calls with
        | elsewhere kept =>
            rw [(Prod.mk.inj kept).2]
            exact ⟨count, rfl⟩

/-- Whenever the loop of the step shows the strip, one position has just got the current colour and
every other pixel is off. What the call shows besides is a dark strip. -/
def OneDot (n : UInt16) (info : Info) (input : Input) : Prop :=
  ∃ dots rest, frames (modeScanMain info).1 = dots ++ rest ∧
    List.Forall₂ (DotFrame n (modeScanMain info).2.statics.color) (stepDots info input) dots ∧
    ∀ frame ∈ rest, Dark n frame

theorem step_oneDot {n : UInt16} {info : Info} (ready : Ready n info) {input : Input}
    (runs : scans info input = true) : OneDot n info input := by
  have length : numPixels info = n.toNat := congrArg UInt16.toNat ready.good.whole.count
  have scanned := modeScanMain_scanned (ready.dark (scans_mode runs).1)
  obtain ⟨dots, rest, split, each, after⟩ := scanned.shown
  rw [scanColor_place] at each
  refine ⟨dots, rest, split, ?_, after⟩
  rw [scanned.color, stepDots, if_pos runs, length]
  exact each

/-- In every run of POSTs and ticks, from whatever place the dot was left at, the scan mode shows
one dot at a time: on the strip, next to the one before or there again, and at every position once
between one end of the strip and the other. -/
theorem scan_moves_one_dot (transport : Transport) (n : UInt16) (two : 2 ≤ n.toNat)
    (statics : Statics) (inside : Inside n.toNat (placeOf statics)) (random : Random)
    (inputs : List Input) :
    let info := (construct transport n statics random).2
    (∀ before input after, inputs = before ++ input :: after →
      let now := (Machine.run step info before).2
      ScanCalls now input (if scans now input = true then some now else none) ∧
      (scans now input = true → OneDot n now input) ∧
      Inside n.toNat (placeOf (step now input).2.statics)) ∧
    (∀ p ∈ runDots info inputs, 0 ≤ p ∧ p < n.toNat) ∧
    (runDots info inputs).IsChain Close ∧
    ∀ before stretch after first middle last,
      runDots info inputs = before ++ (stretch ++ after) →
      Sweep n.toNat stretch first middle last →
      stretch.Perm ((List.range n.toNat).map Int.ofNat) := by
  intro info
  have start : Ready n info := construct_ready transport n inside random
  obtain ⟨count, walked⟩ := runDots_trace two inputs start
  rw [walked]
  refine ⟨?_, trace_inside two start.inside count, trace_close two start.inside count, ?_⟩
  · intro before input after _ now
    have ready : Ready n now := run_ready two start before
    exact ⟨step_calls ready.good.valid input, step_oneDot ready, step_inside two ready input⟩
  · intro before stretch after first middle last cut sweep
    exact sweep_perm two start.inside cut sweep

def scanPost : StringMap := (∅ : StringMap).insert (bytes "ledStripMode") (bytes "4")

/-- Two ticks on a strip of three pixels. -/
theorem scan_moves_one_dot_sample :
    let info := (construct .spiOutput 3 Statics.new fun _ => 0).2
    let inputs := [.doHandleModePost scanPost, .fastTick, .fastTick]
    runDots info inputs = [0, 1, 2, 1, 0, 0, 1, 2, 1, 0] ∧ (runDots info inputs).IsChain Close := by
  refine ⟨by decide, ?_⟩
  exact (scan_moves_one_dot .spiOutput 3 (by decide) Statics.new
    ⟨by decide, by decide, by decide⟩ _ _).2.2.1

end OClock.ScanDots
