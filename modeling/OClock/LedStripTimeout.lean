import OClock.LedStripInternal

/-!
The timeout of the LED strip's modes. Only a POST and the end of a countdown change the mode;
whatever the functions of the modes draw leaves the countdown alone.
-/

namespace OClock.LedStripTimeout
open Text CommonUtils LedStripInternal
open Lpd8806 (Strip Transport bytesPerLed clearPixelColors showStrip)

/-- Nothing but the pixels, the statics and the random numbers differs. -/
structure Same (before after : Info) : Prop where
  index : after.currModeIndex = before.currModeIndex
  secs : after.secsUntilGoingToManualMode = before.secsUntilGoingToManualMode
  params : after.params = before.params

theorem same_refl (info : Info) : Same info info := ⟨rfl, rfl, rfl⟩

theorem same_trans {first second third : Info} (early : Same first second)
    (late : Same second third) : Same first third :=
  ⟨late.index.trans early.index, late.secs.trans early.secs, late.params.trans early.params⟩

/-- A handler that only draws. -/
def Draws (handler : Handler) : Prop := ∀ info, Same info (handler info).2

theorem showFrame_draws : Draws showFrame := fun _ => ⟨rfl, rfl, rfl⟩

theorem whenExtra_draws (value : String) {handler : Handler} (draws : Draws handler) :
    Draws (whenExtra value handler) := by
  intro info
  unfold whenExtra
  split
  · exact draws info
  · exact same_refl info

theorem wantedColor_same (info : Info) : Same info (wantedColor info).2 := by
  unfold wantedColor
  dsimp only
  split <;> exact ⟨rfl, rfl, rfl⟩

theorem modePastelMain_draws : Draws modePastelMain := fun _ => ⟨rfl, rfl, rfl⟩

theorem fillPixels_same (bounds : UInt64 × UInt64) (pixels : List Nat) (color : UInt32)
    (info : Info) : Same info (fillPixels bounds pixels color info) := by
  induction pixels generalizing color info with
  | nil => exact same_refl info
  | cons i rest ih =>
      unfold fillPixels
      split
      · exact ih color info
      · dsimp only
        split
        · refine same_trans ?_ (ih _ _)
          exact ⟨rfl, rfl, rfl⟩
        · refine same_trans ?_ (ih _ _)
          exact ⟨rfl, rfl, rfl⟩

theorem modeFillInit_draws : Draws modeFillInit := by
  intro info
  unfold modeFillInit
  exact same_trans (same_trans (wantedColor_same info) (fillPixels_same ..)) (showFrame_draws _)

theorem modeRainbowMain_draws : Draws modeRainbowMain := fun _ => ⟨rfl, rfl, rfl⟩

theorem scanDot_draws : Draws scanDot := fun _ => ⟨rfl, rfl, rfl⟩

theorem scanLoop_draws (turns : Nat) : Draws (scanLoop turns) := by
  induction turns with
  | zero => exact same_refl
  | succ turns ih =>
      intro info
      have dot := scanDot_draws info
      rw [scanLoop]
      generalize scanDot info = shown at dot ⊢
      obtain ⟨index, secs, params⟩ := dot
      dsimp only
      split
      · exact ⟨index, secs, params⟩
      · split
        · exact ⟨index, secs, params⟩
        · refine same_trans ?_ (ih _)
          exact ⟨index, secs, params⟩

theorem modeScanMain_draws : Draws modeScanMain := by
  intro info
  have colored : Same info (scanColor info) := by
    unfold scanColor
    split
    · exact same_trans (wantedColor_same info) ⟨rfl, rfl, rfl⟩
    · exact same_refl info
  exact same_trans colored (scanLoop_draws _ _)

theorem modeScanFast_draws : Draws modeScanFast := by
  intro info
  unfold modeScanFast
  split
  · exact modeScanMain_draws info
  · exact same_refl info

theorem modeBinaryCounterMain_draws : Draws modeBinaryCounterMain := by
  intro info
  have counted : Same info (countUp info) := by
    unfold countUp
    dsimp only
    split <;> exact ⟨rfl, rfl, rfl⟩
  exact same_trans (same_trans counted (wantedColor_same _)) ⟨rfl, rfl, rfl⟩

/-- Every handler of a mode only draws. -/
structure ModeDraws (mode : Mode) : Prop where
  init : Draws (runHandler mode.handlerInit)
  fast : Draws (runHandler mode.handlerTickFast)
  sec : Draws (runHandler mode.handlerTick1Sec)
  tenSec : Draws (runHandler mode.handlerTick10Sec)
  min : Draws (runHandler mode.handlerTick1Min)

theorem allModes_draw : ∀ mode ∈ allModes, ModeDraws mode := by
  have none : Draws (runHandler none) := same_refl
  simp only [allModes, List.forall_mem_cons]
  refine ⟨⟨same_refl, none, none, none, none⟩, ⟨modePastelMain_draws, ?_, ?_, ?_, ?_⟩,
    ⟨modeFillInit_draws, none, none, none, none⟩, ⟨modeRainbowMain_draws, ?_, ?_, ?_,
      modeRainbowMain_draws⟩, ⟨none, modeScanFast_draws, ?_, ?_, ?_⟩,
    ⟨none, ?_, modeBinaryCounterMain_draws, none, none⟩, List.forall_mem_nil _⟩
  · exact whenExtra_draws _ modePastelMain_draws
  · exact whenExtra_draws _ modePastelMain_draws
  · exact whenExtra_draws _ modePastelMain_draws
  · exact whenExtra_draws _ modePastelMain_draws
  · exact whenExtra_draws _ modeRainbowMain_draws
  · exact whenExtra_draws _ modeRainbowMain_draws
  · exact whenExtra_draws _ modeRainbowMain_draws
  · exact whenExtra_draws _ modeScanMain_draws
  · exact whenExtra_draws _ modeScanMain_draws
  · exact whenExtra_draws _ modeScanMain_draws
  · exact whenExtra_draws _ modeBinaryCounterMain_draws

theorem currMode_draws (info : Info) : ModeDraws (currMode info) := by
  apply allModes_draw _
  unfold currMode
  cases found : allModes[info.currModeIndex]? with
  | none => exact List.mem_cons_self
  | some mode => exact List.mem_of_getElem? found

/-! ### POSTs -/

/-- The index of the mode that a POST asks for: a number between 0 and 5. -/
def acceptedMode (postValues : StringMap) : Option Nat :=
  match postValues[ledStripParamLedStripMode]? with
  | none => none
  | some text =>
      match stoi text with
      | none => none
      | some value => if 0 ≤ value ∧ value ≤ 5 then some value.toNat else none

/-- The seconds a POST gives its mode, `none` for ever. -/
def secondsFor (postValues : StringMap) : Option Nat :=
  match postValues[ledStripParamTimeout]? with
  | none => none
  | some text =>
      if text = [] then none
      else
        match stoiAuto text with
        | none => some 0
        | some value => if value < 0 then none else some value.toNat

/-- The mode at an index of the table. -/
def indexOf (mode : LedStripMode) : Option Nat :=
  allModes.findIdx? fun entry => entry.ledStripMode = mode

theorem ofInt_index (value : Int) :
    (LedStripMode.ofInt value).bind indexOf =
      if 0 ≤ value ∧ value ≤ 5 then some value.toNat else none := by
  by_cases inside : 0 ≤ value ∧ value ≤ 5
  · have values : value = 0 ∨ value = 1 ∨ value = 2 ∨ value = 3 ∨ value = 4 ∨ value = 5 := by
      omega
    rw [if_pos inside]
    rcases values with rfl | rfl | rfl | rfl | rfl | rfl <;> rfl
  · rw [if_neg inside]
    unfold LedStripMode.ofInt
    split
    all_goals first
      | rfl
      | exact absurd (by decide) inside

theorem wantedMode_index (postValues : StringMap) :
    (wantedMode postValues).bind indexOf = acceptedMode postValues := by
  unfold wantedMode acceptedMode getParamValue
  cases postValues[ledStripParamLedStripMode]? with
  | none => rfl
  | some text =>
      cases text with
      | nil => rfl
      | cons c rest =>
          dsimp only
          rw [List.isEmpty_cons, if_neg Bool.false_ne_true]
          cases stoi (c :: rest) with
          | none => rfl
          | some value => exact ofInt_index value

theorem changeLedStripMode_missing {mode : LedStripMode} (missing : indexOf mode = none)
    (params : StringMap) (info : Info) : changeLedStripMode mode params info = ([], info) := by
  unfold indexOf at missing
  unfold changeLedStripMode
  rw [missing]

theorem changeLedStripMode_found {mode : LedStripMode} {i : Nat} (found : indexOf mode = some i)
    (params : StringMap) (info : Info) :
    let changed := (changeLedStripMode mode params info).2
    changed.currModeIndex = i ∧ changed.secsUntilGoingToManualMode = timeoutOf params ∧
      changed.params = params := by
  have listed : ∃ entry, allModes[i]? = some entry ∧ ModeDraws entry := by
    have inside := (List.findIdx?_eq_some_iff_getElem.mp found).1
    exact ⟨_, List.getElem?_eq_getElem inside, allModes_draw _ (List.getElem_mem inside)⟩
  obtain ⟨entry, at_, draws⟩ := listed
  unfold indexOf at found
  unfold changeLedStripMode
  rw [found]
  dsimp only
  rw [at_, Option.bind_some]
  obtain ⟨index, secs, kept⟩ := draws.init _
  exact ⟨index, secs, kept⟩

/-- A POST without a mode of the table changes nothing and shows nothing. -/
theorem rejected_unchanged {postValues : StringMap} (rejected : acceptedMode postValues = none)
    (info : Info) : doHandleModePost postValues info = ([], info) := by
  have index := wantedMode_index postValues
  rw [rejected] at index
  unfold doHandleModePost
  cases wanted : wantedMode postValues with
  | none => rfl
  | some mode =>
      rw [wanted, Option.bind_some] at index
      exact changeLedStripMode_missing index postValues info

theorem accepted_changes {postValues : StringMap} {m : Nat}
    (accepted : acceptedMode postValues = some m) (info : Info) :
    let changed := (doHandleModePost postValues info).2
    changed.currModeIndex = m ∧ changed.secsUntilGoingToManualMode = timeoutOf postValues := by
  have index := wantedMode_index postValues
  rw [accepted] at index
  unfold doHandleModePost
  cases wanted : wantedMode postValues with
  | none =>
      rw [wanted] at index
      cases index
  | some mode =>
      rw [wanted, Option.bind_some] at index
      obtain ⟨at_, secs, _⟩ := changeLedStripMode_found index postValues info
      exact ⟨at_, secs⟩

theorem timeoutOf_seconds (postValues : StringMap) :
    match secondsFor postValues with
    | none => timeoutOf postValues < 0
    | some T => timeoutOf postValues = T := by
  unfold secondsFor timeoutOf getParamValue
  cases postValues[ledStripParamTimeout]? with
  | none => exact Int.negSucc_lt_zero 0
  | some text =>
      cases text with
      | nil => exact Int.negSucc_lt_zero 0
      | cons c rest =>
          dsimp only
          rw [List.isEmpty_cons, if_neg Bool.false_ne_true, if_neg (List.cons_ne_nil c rest)]
          cases stoiAuto (c :: rest) with
          | none => rfl
          | some value =>
              by_cases negative : value < 0
              · simp [negative]
              · simp only [negative, if_false, Option.getD_some]
                omega

/-! ### The end of a countdown -/

/-- Every pixel is off. -/
def Off (strip : Strip) : Prop :=
  ∀ k < strip.numLEDs.toNat * bytesPerLed, strip.pixels[k]? = some 0x80

/-- What a tick showed last has every pixel off. -/
def ShownOff (outputs : List Output) : Prop :=
  ∃ strip, outputs.getLast? = some (.show strip) ∧ Off strip

/-- The strip rests in the manual mode, off and with no timeout pending. -/
structure Expired (info : Info) : Prop where
  index : info.currModeIndex = 0
  secs : info.secsUntilGoingToManualMode = noTimeout
  off : Off info.lpd8806

theorem clearPixelColors_off (strip : Strip) : Off (clearPixelColors strip) := by
  intro k inside
  unfold clearPixelColors at inside ⊢
  split at inside
  · rename_i none
    rw [none] at inside
    exact absurd inside (Nat.not_lt_zero _)
  · rename_i some
    rw [if_neg some]
    dsimp only at inside ⊢
    rw [List.getElem?_append_left (by rwa [List.length_replicate]), List.getElem?_replicate,
      if_pos inside]

theorem showStrip_off {strip : Strip} (off : Off strip) : Off (showStrip strip).2 := by
  unfold showStrip
  split
  · exact off
  · dsimp only
    split <;> exact off

theorem expire (info : Info) :
    ShownOff (changeLedStripMode .manual expiredParams info).1 ∧
      Expired (changeLedStripMode .manual expiredParams info).2 := by
  have found : indexOf .manual = some 0 := rfl
  obtain ⟨index, secs, _⟩ := changeLedStripMode_found found expiredParams info
  have clear : shouldClearAllPixels expiredParams = true := by decide
  have never : timeoutOf expiredParams = noTimeout := by decide
  have off := clearPixelColors_off info.lpd8806
  have result : (changeLedStripMode .manual expiredParams info).1 =
        [.show (clearPixelColors info.lpd8806)] ∧
      (changeLedStripMode .manual expiredParams info).2.lpd8806 =
        (showStrip (clearPixelColors info.lpd8806)).2 := by
    unfold indexOf at found
    unfold changeLedStripMode
    rw [found]
    dsimp only
    rw [if_pos (.inr clear)]
    exact ⟨rfl, rfl⟩
  refine ⟨⟨_, by rw [result.1]; rfl, off⟩, index, secs.trans never, ?_⟩
  rw [result.2]
  exact showStrip_off off

/-! ### Runs -/

/-- The POSTs that change the mode. -/
def accepts : Input → Bool
  | .doHandleModePost postValues => (acceptedMode postValues).isSome
  | _ => false

def isSecond : Input → Bool
  | .tick1sec => true
  | _ => false

/-- Where a mode stands that was given some seconds, after some one-second ticks. -/
def Stands (m : Nat) (T : Option Nat) (seconds : Nat) (info : Info) : Prop :=
  match T with
  | none => info.currModeIndex = m ∧ info.secsUntilGoingToManualMode < 0
  | some T =>
      if seconds ≤ T then
        info.currModeIndex = m ∧ info.secsUntilGoingToManualMode = (T : Int) - seconds
      else Expired info

theorem stands_same {m : Nat} {T : Option Nat} {seconds : Nat} {before after : Info}
    (stands : Stands m T seconds before) (same : Same before after)
    (strip : Expired before → after.lpd8806 = before.lpd8806) : Stands m T seconds after := by
  unfold Stands at stands ⊢
  cases T with
  | none => exact ⟨same.index.trans stands.1, same.secs.symm ▸ stands.2⟩
  | some T =>
      dsimp only at stands ⊢
      split at stands
      · rename_i early
        rw [if_pos early]
        exact ⟨same.index.trans stands.1, same.secs.trans stands.2⟩
      · rename_i late
        rw [if_neg late]
        refine ⟨same.index.trans stands.index, same.secs.trans stands.secs, ?_⟩
        rw [strip stands]
        exact stands.off

/-- In the manual mode no tick has a handler. -/
theorem expired_idle {info : Info} (expired : Expired info) :
    currMode info = modeManual := by
  unfold currMode
  rw [expired.index]
  rfl

theorem handler_stands {m : Nat} {T : Option Nat} {seconds : Nat} {info : Info}
    (stands : Stands m T seconds info) (handler : Mode → Option Handler)
    (draws : Draws (runHandler (handler (currMode info)))) (idle : handler modeManual = none) :
    Stands m T seconds (runHandler (handler (currMode info)) info).2 := by
  refine stands_same stands (draws info) fun expired => ?_
  rw [expired_idle expired, idle]
  rfl

theorem checkIfModeTimedOut_never {info : Info} (never : info.secsUntilGoingToManualMode < 0) :
    checkIfModeTimedOut info = ([], info) := if_pos never

theorem checkIfModeTimedOut_counts {info : Info} (counts : 0 < info.secsUntilGoingToManualMode) :
    checkIfModeTimedOut info = ([], { info with
      secsUntilGoingToManualMode := info.secsUntilGoingToManualMode - 1 }) := by
  unfold checkIfModeTimedOut
  rw [if_neg (by omega)]
  dsimp only
  rw [if_neg (by omega)]

theorem checkIfModeTimedOut_ends {info : Info} (ends : info.secsUntilGoingToManualMode = 0) :
    checkIfModeTimedOut info = changeLedStripMode .manual expiredParams { info with
      secsUntilGoingToManualMode := info.secsUntilGoingToManualMode - 1 } := by
  unfold checkIfModeTimedOut
  rw [if_neg (by omega)]
  dsimp only
  rw [if_pos (by omega)]

theorem checkIfModeTimedOut_stands {m : Nat} {T : Option Nat} {seconds : Nat} {info : Info}
    (stands : Stands m T seconds info) :
    Stands m T (seconds + 1) (checkIfModeTimedOut info).2 := by
  unfold Stands at stands ⊢
  cases T with
  | none =>
      rw [checkIfModeTimedOut_never stands.2]
      exact stands
  | some T =>
      dsimp only at stands ⊢
      -- The strip times out at the second that finds the count at zero, and counts no further.
      rcases Nat.lt_trichotomy seconds T with before | rfl | after
      · rw [if_pos (by omega)] at stands
        rw [if_pos (by omega), checkIfModeTimedOut_counts (by omega)]
        exact ⟨stands.1, by dsimp only; omega⟩
      · rw [if_pos (Nat.le_refl _)] at stands
        rw [if_neg (by omega), checkIfModeTimedOut_ends (by omega)]
        exact (expire _).2
      · rw [if_neg (by omega)] at stands
        have never : info.secsUntilGoingToManualMode < 0 := by
          rw [stands.secs]
          decide
        rw [if_neg (by omega), checkIfModeTimedOut_never never]
        exact stands

theorem step_stands {m : Nat} {T : Option Nat} {seconds : Nat} {info : Info}
    (stands : Stands m T seconds info) {input : Input} (quiet : accepts input = false) :
    Stands m T (seconds + if isSecond input then 1 else 0) (step info input).2 := by
  have draws := currMode_draws info
  cases input with
  | doHandleModePost postValues =>
      have rejected : acceptedMode postValues = none := Option.isNone_iff_eq_none.mp
        (by simpa [accepts, Option.isSome_eq_false_iff] using quiet)
      have same : step info (.doHandleModePost postValues) = ([], info) :=
        rejected_unchanged rejected info
      rw [same]
      exact stands
  | fastTick => exact handler_stands stands Mode.handlerTickFast draws.fast rfl
  | tick1sec =>
      exact checkIfModeTimedOut_stands
        (handler_stands stands Mode.handlerTick1Sec draws.sec rfl)
  | tick10sec => exact handler_stands stands Mode.handlerTick10Sec draws.tenSec rfl
  | tick1min => exact handler_stands stands Mode.handlerTick1Min draws.min rfl

theorem run_stands {m : Nat} {T : Option Nat} (inputs : List Input)
    (quiet : ∀ input ∈ inputs, accepts input = false) {seconds : Nat} {info : Info}
    (stands : Stands m T seconds info) :
    Stands m T (seconds + inputs.countP isSecond) (Machine.run step info inputs).2 := by
  induction inputs generalizing seconds info with
  | nil => exact stands
  | cons input rest ih =>
      obtain ⟨here, later⟩ := List.forall_mem_cons.mp quiet
      have next := ih later (step_stands stands here)
      rw [List.countP_cons, Nat.add_comm (rest.countP isSecond), ← Nat.add_assoc]
      exact next

/-- The tick that ends a countdown. -/
theorem last_tick {m T : Nat} {info : Info} (stands : Stands m (some T) T info) :
    ShownOff (step info .tick1sec).1 := by
  have secs : info.secsUntilGoingToManualMode = 0 := by
    unfold Stands at stands
    dsimp only at stands
    rw [if_pos (Nat.le_refl _)] at stands
    omega
  have same := (currMode_draws info).sec info
  have ends := checkIfModeTimedOut_ends (same.secs.trans secs)
  obtain ⟨strip, shown, off⟩ := (expire { (runHandler (currMode info).handlerTick1Sec info).2 with
    secsUntilGoingToManualMode :=
      (runHandler (currMode info).handlerTick1Sec info).2.secsUntilGoingToManualMode - 1 }).1
  refine ⟨strip, ?_, off⟩
  have outputs : (step info .tick1sec).1 = (runHandler (currMode info).handlerTick1Sec info).1 ++
      (checkIfModeTimedOut (runHandler (currMode info).handlerTick1Sec info).2).1 := rfl
  rw [outputs, ends, List.getLast?_append, shown]
  rfl

/-- The index always names a mode. -/
theorem step_valid {info : Info} (valid : info.currModeIndex < allModes.length)
    (input : Input) : (step info input).2.currModeIndex < allModes.length := by
  have draws := currMode_draws info
  cases input with
  | doHandleModePost postValues =>
      cases accepted : acceptedMode postValues with
      | none =>
          rw [show step info (.doHandleModePost postValues) = ([], info) from
            rejected_unchanged accepted info]
          exact valid
      | some m =>
          have index := wantedMode_index postValues
          rw [accepted] at index
          obtain ⟨mode, _, found⟩ := Option.bind_eq_some_iff.mp index
          have changed : (step info (.doHandleModePost postValues)).2.currModeIndex = m :=
            (accepted_changes accepted info).1
          rw [changed]
          exact (List.findIdx?_eq_some_iff_getElem.mp found).1
  | fastTick => exact (draws.fast info).index ▸ valid
  | tick1sec =>
      have same := draws.sec info
      have kept : (runHandler (currMode info).handlerTick1Sec info).2.currModeIndex <
          allModes.length := same.index ▸ valid
      -- Only the second that ends a countdown moves the index, to the manual mode.
      rcases lt_trichotomy
          (runHandler (currMode info).handlerTick1Sec info).2.secsUntilGoingToManualMode 0 with
        never | ends | counts
      · have result := checkIfModeTimedOut_never never
        exact (congrArg (fun out => out.2.currModeIndex) result).symm ▸ kept
      · have result := checkIfModeTimedOut_ends ends
        have zero := (expire { (runHandler (currMode info).handlerTick1Sec info).2 with
          secsUntilGoingToManualMode :=
            (runHandler (currMode info).handlerTick1Sec info).2.secsUntilGoingToManualMode -
              1 }).2.index
        rw [← result] at zero
        exact zero.symm ▸ Nat.zero_lt_succ _
      · have result := checkIfModeTimedOut_counts counts
        exact (congrArg (fun out => out.2.currModeIndex) result).symm ▸ kept
  | tick10sec => exact (draws.tenSec info).index ▸ valid
  | tick1min => exact (draws.min info).index ▸ valid

theorem construct_valid (transport : Transport) (n : UInt16) (statics : Statics)
    (random : Random) :
    (construct transport n statics random).2.currModeIndex < allModes.length := by
  have found : indexOf .rainbow = some 3 := rfl
  have index := (changeLedStripMode_found found initialParams
    (showFrame ⟨Strip.new transport n, 0, noTimeout, ∅, statics, random⟩).2).1
  exact index.symm ▸ (by decide : 3 < allModes.length)

/-- In every run from construction: the index is valid, a POST without a mode of the table
changes nothing, and an accepted POST with a timeout keeps its mode for that many seconds and
leaves a dark strip in the manual mode at the next one; without a timeout the mode stays. -/
theorem mode_honours_timeout (transport : Transport) (n : UInt16) (statics : Statics)
    (random : Random) (before : List Input) :
    let info := (Machine.run step (construct transport n statics random).2 before).2
    info.currModeIndex < allModes.length ∧
    (∀ postValues, acceptedMode postValues = none →
      step info (.doHandleModePost postValues) = ([], info)) ∧
    ∀ postValues m, acceptedMode postValues = some m →
      ∀ inputs : List Input, (∀ input ∈ inputs, accepts input = false) →
        let posted := (step info (.doHandleModePost postValues)).2
        let reached := (Machine.run step posted inputs).2
        let seconds := inputs.countP isSecond
        match secondsFor postValues with
        | none => reached.currModeIndex = m
        | some T =>
            (seconds ≤ T → reached.currModeIndex = m) ∧
            (seconds = T → ShownOff (step reached .tick1sec).1) ∧
            (T < seconds → reached.currModeIndex = 0 ∧ Off reached.lpd8806 ∧
              reached.secsUntilGoingToManualMode = noTimeout) := by
  intro info
  refine ⟨?_, fun postValues rejected => rejected_unchanged rejected info, ?_⟩
  · exact Machine.run_invariant step (fun info => info.currModeIndex < allModes.length)
      (fun _ input valid => step_valid valid input) _ before
      (construct_valid transport n statics random)
  · intro postValues m accepted inputs quiet posted reached seconds
    obtain ⟨index, secs⟩ := accepted_changes accepted info
    have given := timeoutOf_seconds postValues
    have start : Stands m (secondsFor postValues) 0 posted := by
      unfold Stands
      cases timeout : secondsFor postValues with
      | none =>
          rw [timeout] at given
          exact ⟨index, secs.symm ▸ given⟩
      | some T =>
          rw [timeout] at given
          dsimp only at given ⊢
          rw [if_pos (Nat.zero_le T)]
          exact ⟨index, by rw [show posted.secsUntilGoingToManualMode = _ from secs, given]; simp⟩
    have stands := run_stands inputs quiet start
    rw [Nat.zero_add] at stands
    cases timeout : secondsFor postValues with
    | none =>
        rw [timeout] at stands
        exact stands.1
    | some T =>
        rw [timeout] at stands
        refine ⟨fun early => ?_, fun last => ?_, fun late => ?_⟩
        · unfold Stands at stands
          dsimp only at stands
          rw [if_pos early] at stands
          exact stands.1
        · have now : inputs.countP isSecond = T := last
          rw [now] at stands
          exact last_tick stands
        · unfold Stands at stands
          dsimp only at stands
          rw [if_neg (Nat.not_le.mpr late)] at stands
          exact ⟨stands.index, stands.off, stands.secs⟩

end OClock.LedStripTimeout
