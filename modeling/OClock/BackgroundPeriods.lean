import OClock.Decimal
import OClock.DisplayPanel

/-!
The animations of the background over runs from boot. The tickers are bytes, so a phase keeps
its period across the wrap of its ticker only when it divides 256.
-/

namespace OClock.BackgroundPeriods
open Text CommonUtils Decimal DisplayInternal DrawCalls Slots Backgrounds BackgroundTables
open MessageFrame MessagePost DisplayPanel

/-- The number of the animation step that goes with a cadence. -/
def stepOf : Cadence → Option UInt32
  | .fast => some 1
  | .ms100 => some 2
  | .ms250 => some 3
  | .ms500 => some 4
  | .sec1 => some 5
  | .sec5 => some 6
  | .sec10 => some 7
  | .sec25 | .min1 => none

def tickerOf (tickers : Tickers) : Cadence → UInt8
  | .fast => tickers.fast
  | .ms100 => tickers.ms100
  | .ms250 => tickers.ms250
  | .ms500 => tickers.ms500
  | .sec1 => tickers.sec1
  | .sec5 => tickers.sec5
  | .sec10 => tickers.sec10
  | .sec25 | .min1 => 0

def isTick (cadence : Cadence) (called : Called) : Bool :=
  match called.1 with
  | .displayTick other => other = cadence
  | .handleTodo _ => false

/-- The ticks of a cadence among some calls. -/
def ticksOf (cadence : Cadence) (calls : List Called) : Nat := calls.countP (isTick cadence)

/-! ### The tickers of a run -/

variable {cadence : Cadence} {step : UInt32}

theorem ofStep_tickerOf (paced : stepOf cadence = some step) (tickers : Tickers) :
    tickers.ofStep step = some (tickerOf tickers cadence) := by
  cases cadence <;> cases paced <;> rfl

theorem countTick_ticker (paced : stepOf cadence = some step) (tickers : Tickers)
    (other : Cadence) : tickerOf (countTick tickers other) cadence =
      if other = cadence then tickerOf tickers cadence + 1 else tickerOf tickers cadence := by
  cases cadence <;> cases paced <;> cases other <;> rfl

theorem serve_tickers {panel after : Panel} {called : Called} {drawn : List DrawCall}
    (served : serve panel called = some (drawn, after)) :
    after.tickers = match called.1 with
      | .displayTick cadence => countTick panel.tickers cadence
      | .handleTodo _ => panel.tickers := by
  obtain ⟨call, surroundings⟩ := called
  unfold serve at served
  cases call with
  | displayTick other =>
      obtain ⟨_, _, same⟩ := Option.map_eq_some_iff.mp served
      rw [← (Prod.mk.inj same).2]
      rfl
  | handleTodo displayTodo =>
      obtain ⟨_, _, same⟩ := Option.map_eq_some_iff.mp served
      rw [← (Prod.mk.inj same).2]

/-- A ticker counts the ticks of its cadence, and wraps. -/
theorem runFrom_ticker (paced : stepOf cadence = some step) (calls : List Called)
    {panel after : Panel} {drawn : List (List DrawCall)}
    (ran : runFrom panel calls = some (drawn, after)) :
    tickerOf after.tickers cadence =
      tickerOf panel.tickers cadence + UInt8.ofNat (ticksOf cadence calls) := by
  induction calls generalizing panel drawn with
  | nil =>
      cases ran
      exact (UInt8.add_zero _).symm
  | cons called rest ih =>
      simp only [runFrom, Option.bind_eq_bind, Option.bind_eq_some_iff, Option.pure_def,
        Option.some.injEq, Prod.mk.injEq] at ran
      obtain ⟨⟨here, middle⟩, served, ⟨later, final⟩, more, _, rfl⟩ := ran
      have counted : ticksOf cadence (called :: rest) =
          ticksOf cadence rest + if isTick cadence called then 1 else 0 := List.countP_cons
      rw [ih more, serve_tickers served, counted]
      obtain ⟨call, surroundings⟩ := called
      cases call with
      | handleTodo displayTodo => rfl
      | displayTick other =>
          dsimp only
          rw [countTick_ticker paced, isTick]
          dsimp only
          by_cases same : other = cadence
          · rw [if_pos same, if_pos (decide_eq_true same), UInt8.ofNat_add, UInt8.add_assoc,
              UInt8.add_comm 1]
            rfl
          · rw [if_neg same, if_neg (by simpa using same), Nat.add_zero]

theorem boot_ticker (cadence : Cadence) : tickerOf Panel.boot.tickers cadence = 0 := by
  cases cadence <;> rfl

/-- At a redraw a ticker shows the ticks since boot, with the tick that draws among them. -/
theorem redraw_ticker (paced : stepOf cadence = some step) {calls : List Called} {panel : Panel}
    (ran : RunsTo calls panel) (surroundings : Surroundings) :
    tickerOf (countTick panel.tickers .fast) cadence =
      UInt8.ofNat (ticksOf cadence (calls ++ [(.displayTick .fast, surroundings)])) := by
  obtain ⟨_, ran⟩ := ran
  rw [countTick_ticker paced, runFrom_ticker paced calls ran, boot_ticker, UInt8.zero_add, ticksOf,
    ticksOf, List.countP_append, List.countP_singleton, isTick]
  dsimp only
  by_cases same : Cadence.fast = cadence
  · rw [if_pos same, if_pos (decide_eq_true same), UInt8.ofNat_add]
    rfl
  · rw [if_neg same, if_neg (by simpa using same), Nat.add_zero]

/-! ### A slot in a frame -/

/-- A frame is the bare one, with the calls of a slot put in. -/
def Drawn (own bare frame : List DrawCall) : Prop :=
  ∃ front back, bare = front ++ back ∧ frame = front ++ own ++ back

/-- The calls of a slot are drawn when they are due, and else the frame is as without it. -/
def DrawnWhen (due : Prop) (own bare frame : List DrawCall) : Prop :=
  (Drawn own bare frame ↔ due) ∧ (frame = bare ↔ ¬ due)

theorem drawnWhen_iff {due due' : Prop} {own bare frame : List DrawCall}
    (promised : DrawnWhen due own bare frame) (actual : DrawnWhen due' own bare frame) :
    due ↔ due' :=
  promised.1.symm.trans actual.1

theorem drawnWhen_own {due : Prop} [Decidable due] {own front back : List DrawCall}
    (some : own ≠ []) :
    DrawnWhen due own (front ++ back) (front ++ (if due then own else []) ++ back) := by
  have longer : ∀ first second : List DrawCall, front ++ back = first ++ second →
      front ++ back ≠ first ++ own ++ second := by
    intro first second same equal
    have lengths := congrArg List.length equal
    rw [same, List.length_append, List.length_append, List.length_append] at lengths
    have long := List.length_pos_iff.mpr some
    omega
  unfold DrawnWhen Drawn
  split
  · next shown =>
    refine ⟨iff_of_true ⟨front, back, rfl, rfl⟩ shown, iff_of_false ?_ (not_not.mpr shown)⟩
    exact fun same => longer front back rfl same.symm
  · next quiet =>
    rw [List.append_nil]
    refine ⟨iff_of_false ?_ quiet, iff_of_true rfl quiet⟩
    rintro ⟨first, second, same, drawn⟩
    exact longer first second same drawn

/-- Where one item of a list adds nothing, its calls are left out of all of them. -/
theorem flatMap_without {Item : Type} [DecidableEq Item] {items : List Item} {item : Item}
    (nodup : items.Nodup) (inside : item ∈ items) (calls : Item → List DrawCall) :
    ∃ front back, items.flatMap calls = front ++ calls item ++ back ∧
      items.flatMap (fun other => if other = item then [] else calls other) = front ++ back := by
  obtain ⟨before, after, rfl⟩ := List.append_of_mem inside
  rw [List.nodup_middle, List.nodup_cons, List.mem_append, not_or] at nodup
  have same : ∀ others : List Item, item ∉ others →
      others.flatMap (fun other => if other = item then [] else calls other) =
        others.flatMap calls := by
    intro others apart
    refine List.flatMap_congr fun other listed => if_neg ?_
    rintro rfl
    exact apart listed
  refine ⟨before.flatMap calls, after.flatMap calls, ?_, ?_⟩
  · rw [List.flatMap_append, List.flatMap_cons, List.append_assoc]
  · rw [List.flatMap_append, List.flatMap_cons, if_pos rfl, List.nil_append, same _ nodup.1.1,
      same _ nodup.1.2]

/-- A loop that draws, with the slot and with the slot switched off. -/
theorem eachSlot_without {Item : Type} {count : Nat} {turn : Item → Option (List DrawCall)}
    {off : Item → Item} (quiet : ∀ item, turn (off item) = some []) {table : Vector Item count}
    (turns : ∀ slot : Fin count, ∃ calls, turn (table.get slot) = some calls)
    (slot : Fin count) {own : List DrawCall} (drawn : turn (table.get slot) = some own) :
    ∃ front back, eachSlot turn table = some (front ++ own ++ back) ∧
      eachSlot turn (update off slot table) = some (front ++ back) := by
  choose calls turns using turns
  obtain ⟨front, back, whole, without⟩ :=
    flatMap_without (List.nodup_finRange count) (List.mem_finRange slot) calls
  have same : calls slot = own := Option.some.inj ((turns slot).symm.trans drawn)
  refine ⟨front, back, ?_, ?_⟩
  · rw [eachSlot_eq turns, whole, same]
  · rw [← without]
    refine eachSlot_eq fun other => ?_
    rw [Slots.update_slot]
    by_cases here : other = slot
    · rw [if_pos (congrArg Fin.val here), if_pos here]
      exact quiet _
    · rw [if_neg (Fin.val_ne_of_ne here), if_neg here]
      exact turns other

def imgOff (img : BackgroundImg) : BackgroundImg := { img with enabled := false }

def messageOff (message : BackgroundMessage) : BackgroundMessage :=
  { message with enabled := false }

/-- The panel with an image switched off. -/
def withoutImg (panel : Panel) (slot : Fin backgroundImgCount) : Panel :=
  { panel with
    tables := { panel.tables with backgroundImg := update imgOff slot panel.tables.backgroundImg } }

/-- The panel with a message of the background switched off. -/
def withoutMessage (panel : Panel) (slot : Fin backgroundMessageCount) : Panel :=
  { panel with
    tables := { panel.tables with
      backgroundMessage := update messageOff slot panel.tables.backgroundMessage } }

theorem drawBackground_call (tickers : Tickers) (background : Background) (call : DrawCall) :
    ∃ calls, drawBackground tickers background (some call) = some calls := by
  obtain ⟨animated, animates⟩ := willAnimate_some tickers background.animation
  exact ⟨_, drawBackground_eq animates call⟩

theorem drawMessage_call (tickers : Tickers) {message : BackgroundMessage}
    (ended : HasText message) : ∃ calls, drawMessage tickers message = some calls := by
  obtain ⟨call, read, _⟩ := messageCall_some ended
  rw [drawMessage, read]
  exact drawBackground_call ..

/-- The images stand behind the text and the messages, and before the confetti. -/
theorem frame_img {panel : Panel} (wellFormed : WellFormed panel.tables)
    (shown : getDisplayMode panel.scene.display = .message) (surroundings : Surroundings)
    (slot : Fin backgroundImgCount) {own : List DrawCall}
    (drawn : drawImg (countTick panel.tickers .fast) (panel.tables.backgroundImg.get slot) =
      some own) :
    ∃ front back, frameOf panel surroundings = some (front ++ own ++ back) ∧
      frameOf (withoutImg panel slot) surroundings = some (front ++ back) := by
  let display := panel.scene.display
  obtain ⟨messages, written, _⟩ := messages_some (countTick panel.tickers .fast) wellFormed.texts
  obtain ⟨front, back, painted, without⟩ :=
    @eachSlot_without _ _ (drawImg (countTick panel.tickers .fast)) imgOff (fun _ => rfl)
      panel.tables.backgroundImg (fun _ => drawBackground_call ..) slot own drawn
  refine ⟨(.clearAll :: textCalls display.modeMessageDataColorEffect display.modeMessageData) ++
      messages ++ front,
    back ++ (confettiCalls display.modeMessageData.confetti surroundings.random ++ [.renderAll]),
    ?_, ?_⟩
  · rw [frameOf_redraw shown, redraw, messageFrame, written, drawBackgroundImgs, painted]
    simp [display]
  · have same : getDisplayMode (withoutImg panel slot).scene.display = .message := shown
    rw [frameOf_redraw same, redraw, messageFrame, withoutImg, written, drawBackgroundImgs,
      without]
    simp [display]

theorem frame_message {panel : Panel} (wellFormed : WellFormed panel.tables)
    (shown : getDisplayMode panel.scene.display = .message) (surroundings : Surroundings)
    (slot : Fin backgroundMessageCount) {own : List DrawCall}
    (drawn : drawMessage (countTick panel.tickers .fast)
      (panel.tables.backgroundMessage.get slot) = some own) :
    ∃ front back, frameOf panel surroundings = some (front ++ own ++ back) ∧
      frameOf (withoutMessage panel slot) surroundings = some (front ++ back) := by
  let display := panel.scene.display
  obtain ⟨images, painted, _⟩ :=
    images_some (countTick panel.tickers .fast) panel.tables.backgroundImg
  obtain ⟨front, back, written, without⟩ :=
    @eachSlot_without _ _ (drawMessage (countTick panel.tickers .fast)) messageOff (fun _ => rfl)
      panel.tables.backgroundMessage (fun other => drawMessage_call _ (wellFormed.texts other))
      slot own drawn
  refine ⟨(.clearAll :: textCalls display.modeMessageDataColorEffect display.modeMessageData) ++
      front,
    back ++ (images ++
      (confettiCalls display.modeMessageData.confetti surroundings.random ++ [.renderAll])),
    ?_, ?_⟩
  · rw [frameOf_redraw shown, redraw, messageFrame, drawBackgroundMessages, written, painted]
    simp [display]
  · have same : getDisplayMode (withoutMessage panel slot).scene.display = .message := shown
    rw [frameOf_redraw same, redraw, messageFrame, withoutMessage, drawBackgroundMessages,
      without, painted]
    simp [display]

/-! ### The law -/

def Animates (background : Background) (animation : Animation) : Prop :=
  background.enabled = true ∧ background.animation = animation

/-- What a redraw shows of the images and the messages with an animation. -/
def AnimatedWhen (due : Prop) (animation : Animation) (panel : Panel)
    (surroundings : Surroundings) : Prop :=
  (∀ slot : Fin backgroundImgCount,
    Animates (panel.tables.backgroundImg.get slot).toBackground animation →
      ∃ bare frame, frameOf (withoutImg panel slot) surroundings = some bare ∧
        frameOf panel surroundings = some frame ∧
        DrawnWhen due (onBoards (panel.tables.backgroundImg.get slot).displayColor
          (imgCall (panel.tables.backgroundImg.get slot))) bare frame) ∧
  ∀ slot : Fin backgroundMessageCount,
    Animates (panel.tables.backgroundMessage.get slot).toBackground animation →
      ∃ call bare frame, messageCall (panel.tables.backgroundMessage.get slot) = some call ∧
        frameOf (withoutMessage panel slot) surroundings = some bare ∧
        frameOf panel surroundings = some frame ∧
        DrawnWhen due (onBoards (panel.tables.backgroundMessage.get slot).displayColor call)
          bare frame

/-- At every redraw of a run from boot the enabled images and messages with an animation are
drawn exactly when the number of ticks of its cadence is the value modulo the phase. -/
def Periodic (cadence : Cadence) (animation : Animation) : Prop :=
  ∀ calls panel surroundings, RunsTo calls panel →
    getDisplayMode panel.scene.display = .message →
    ∀ n, n = ticksOf cadence (calls ++ [(.displayTick .fast, surroundings)]) → 1 ≤ n →
      AnimatedWhen (n % animation.animationStepPhase.toNat =
        animation.animationStepPhaseValue.toNat) animation panel surroundings

theorem ticker_iff (n : Nat) (phase value : UInt8) :
    UInt8.ofNat n % phase = value ↔ n % 256 % phase.toNat = value.toNat := by
  rw [← UInt8.toNat_inj, UInt8.toNat_mod, UInt8.toNat_ofNat']

/-- An animated record is drawn when its ticker, as a byte, is due. -/
theorem animated_turn {tickers : Tickers} {background : Background} {animation : Animation}
    (animates : Animates background animation) {n : Nat}
    (paced : tickers.ofStep animation.animationStep = some (UInt8.ofNat n))
    (divisor : animation.animationStepPhase ≠ 0) (call : DrawCall) :
    drawBackground tickers background (some call) =
      some (if n % 256 % animation.animationStepPhase.toNat =
          animation.animationStepPhaseValue.toNat
        then onBoards background.displayColor call else []) := by
  obtain ⟨enabled, same⟩ := animates
  have animated : willAnimate tickers background.animation =
      some (UInt8.ofNat n % animation.animationStepPhase == animation.animationStepPhaseValue) := by
    rw [same, willAnimate, if_neg divisor, paced]
    dsimp only
    rw [remainder, if_neg divisor]
    rfl
  rw [drawBackground_eq animated, enabled, Bool.true_and]
  simp only [beq_iff_eq, ticker_iff]

/-- The law holds with the number of ticks as the ticker shows it. -/
theorem animated_byte {animation : Animation}
    (paced : stepOf cadence = some animation.animationStep)
    (divisor : animation.animationStepPhase ≠ 0) {calls : List Called} {panel : Panel}
    (ran : RunsTo calls panel)
    (shown : getDisplayMode panel.scene.display = .message) (surroundings : Surroundings) {n : Nat}
    (count : n = ticksOf cadence (calls ++ [(.displayTick .fast, surroundings)])) :
    AnimatedWhen (n % 256 % animation.animationStepPhase.toNat =
      animation.animationStepPhaseValue.toNat) animation panel surroundings := by
  have wellFormed := runsTo_wellFormed ran
  have ticker := ofStep_tickerOf paced (countTick panel.tickers .fast)
  rw [redraw_ticker paced ran surroundings, ← count] at ticker
  constructor
  · intro slot animates
    obtain ⟨front, back, frame, bare⟩ := frame_img wellFormed shown surroundings slot
      (animated_turn animates ticker divisor (imgCall _))
    exact ⟨_, _, bare, frame, drawnWhen_own (onBoards_nonempty _ _)⟩
  · intro slot animates
    obtain ⟨call, read, _⟩ := messageCall_some (wellFormed.texts slot)
    have turn := animated_turn animates ticker divisor call
    rw [← read] at turn
    obtain ⟨front, back, frame, bare⟩ := frame_message wellFormed shown surroundings slot turn
    exact ⟨call, _, _, read, bare, frame, drawnWhen_own (onBoards_nonempty _ _)⟩

theorem dividing_periodic {animation : Animation}
    (paced : stepOf cadence = some animation.animationStep)
    (divisor : animation.animationStepPhase ≠ 0)
    (divides : animation.animationStepPhase.toNat ∣ 256) : Periodic cadence animation := by
  intro calls panel surroundings ran shown n count _
  have animated := animated_byte paced divisor ran shown surroundings count
  rwa [Nat.mod_mod_of_dvd n divides] at animated

/-! ### Past the wrap -/

/-- A form for the first image. -/
def imgForm (step phase value : Bytes) : StringMap :=
  ((((∅ : StringMap).insert (bytes "enabled") (bytes "1")).insert
    (bytes "animationStep") step).insert (bytes "animationPhase") phase).insert
    (bytes "animationPhaseValue") value

def animatedForm (animation : Animation) : StringMap :=
  imgForm (decimal animation.animationStep.toNat) (decimal animation.animationStepPhase.toNat)
    (decimal animation.animationStepPhaseValue.toNat)

def animatedImg (animation : Animation) : BackgroundImg := ⟨⟨true, 0, 0, 0, animation⟩, 0⟩

theorem imgForm_list (step phase value : Bytes) : (imgForm step phase value).toList =
    [(bytes "animationPhase", phase), (bytes "animationPhaseValue", value),
      (bytes "animationStep", step), (bytes "enabled", bytes "1")] := rfl

theorem imgForm_stored (step phase value : Bytes) (table : ImgTable) :
    doHandleImgBackgroundPost (imgForm step phase value) table =
      store table 0 (animatedImg ⟨UInt32.ofNat (strtoul (cText step)),
        UInt8.ofNat (strtoul (cText phase)), UInt8.ofNat (strtoul (cText value))⟩) := by
  unfold doHandleImgBackgroundPost handlePost
  rw [imgForm_list]
  simp only [List.foldl_cons, List.foldl_nil]
  generalize cText step = step
  generalize cText phase = phase
  generalize cText value = value
  rfl

theorem decimal_read {value : Nat} (small : value < 4294967296) :
    strtoul (cText (decimal value)) = value := by
  rw [cText_decimal]
  exact strtoul_decimal (Nat.le_trans (Nat.le_of_lt small) (by decide))

theorem animatedForm_stored (animation : Animation) (table : ImgTable) :
    doHandleImgBackgroundPost (animatedForm animation) table =
      store table 0 (animatedImg animation) := by
  obtain ⟨step, phase, value⟩ := animation
  have small : ∀ byte : UInt8, byte.toNat < 4294967296 := fun byte =>
    Nat.lt_trans byte.toNat_lt (by decide)
  rw [animatedForm, imgForm_stored, decimal_read step.toNat_lt, decimal_read (small _),
    decimal_read (small _), UInt32.ofNat_toNat, UInt8.ofNat_toNat, UInt8.ofNat_toNat]

/-- So many ticks, and then an image and a message to draw it behind are posted. -/
def ticksThenPosts (cadence : Cadence) (animation : Animation) (surroundings : Surroundings)
    (turns : Nat) : List Called :=
  List.replicate turns (.displayTick cadence, surroundings) ++
    [(.handleTodo (.handleImgBackgroundPost (animatedForm animation)), surroundings),
      (.handleTodo (.handleMsgModePost ∅), surroundings)]

theorem ticksThenPosts_ran (cadence : Cadence) (animation : Animation)
    (surroundings : Surroundings) (turns : Nat) :
    ∃ panel, RunsTo (ticksThenPosts cadence animation surroundings turns) panel ∧
      getDisplayMode panel.scene.display = .message ∧
      panel.tables.backgroundImg[(0 : Fin backgroundImgCount)] = animatedImg animation := by
  obtain ⟨drawn, middle, ran, _⟩ := runFrom_some
    (List.replicate turns ((.displayTick cadence, surroundings) : Called)) boot_wellFormed
  obtain ⟨table, stored, slots⟩ :=
    @store_some _ _ middle.tables.backgroundImg 0 (animatedImg animation) (by decide)
  let after : Panel :=
    { middle with
      scene := doHandleMsgModePost ∅ surroundings middle.scene
      tables := { middle.tables with backgroundImg := table } }
  have posted : runFrom middle
      [(.handleTodo (.handleImgBackgroundPost (animatedForm animation)), surroundings),
        (.handleTodo (.handleMsgModePost ∅), surroundings)] = some ([[], []], after) := by
    have image : handleTables surroundings middle.tables
        (.handleImgBackgroundPost (animatedForm animation)) =
        some { middle.tables with backgroundImg := table } := by
      rw [handleTables, handle, animatedForm_stored, stored]
      rfl
    rw [runFrom, serve]
    dsimp only
    rw [image]
    rfl
  refine ⟨after, ⟨_, runFrom_append ran posted⟩, post_mode .., ?_⟩
  exact (slots 0).trans (if_pos rfl)

theorem ticksThenPosts_count (cadence : Cadence) (animation : Animation)
    (surroundings : Surroundings) (turns : Nat) :
    ticksOf cadence (ticksThenPosts cadence animation surroundings turns ++
        [(.displayTick .fast, surroundings)]) =
      turns + if Cadence.fast = cadence then 1 else 0 := by
  have own : isTick cadence ((.displayTick cadence, surroundings) : Called) = true :=
    decide_eq_true rfl
  rw [ticksOf, ticksThenPosts, List.countP_append, List.countP_append, List.countP_replicate,
    if_pos own, List.countP_singleton]
  simp [isTick]

/-- After 256 ticks and as many as the value the image is drawn once more. -/
theorem periodic_divides {animation : Animation}
    (paced : stepOf cadence = some animation.animationStep)
    (below : animation.animationStepPhaseValue < animation.animationStepPhase)
    (periodic : Periodic cadence animation) : animation.animationStepPhase.toNat ∣ 256 := by
  let surroundings : Surroundings := ⟨default, 0, fun _ => [], fun _ => 0⟩
  let value := animation.animationStepPhaseValue.toNat
  have enough : ∃ turns, turns + (if Cadence.fast = cadence then 1 else 0) = 256 + value :=
    ⟨256 + value - if Cadence.fast = cadence then 1 else 0, by split <;> omega⟩
  obtain ⟨turns, enough⟩ := enough
  have smaller : value < animation.animationStepPhase.toNat := UInt8.lt_iff_toNat_lt.mp below
  have divisor : animation.animationStepPhase ≠ 0 := by
    intro zero
    rw [zero] at smaller
    exact Nat.not_lt_zero _ smaller
  have byte : value < 256 := animation.animationStepPhaseValue.toNat_lt
  obtain ⟨panel, ran, shown, stored⟩ :=
    ticksThenPosts_ran cadence animation surroundings turns
  have count : 256 + value = ticksOf cadence (ticksThenPosts cadence animation surroundings turns ++
      [(.displayTick .fast, surroundings)]) := by
    rw [ticksThenPosts_count, enough]
  have animates : Animates panel.tables.backgroundImg[(0 : Fin backgroundImgCount)].toBackground
      animation := by
    rw [stored]
    exact ⟨rfl, rfl⟩
  obtain ⟨bare, frame, without, redrawn, promised⟩ :=
    (periodic _ panel surroundings ran shown (256 + value) count (by omega)).1 0 animates
  obtain ⟨_, _, without', redrawn', actual⟩ :=
    (animated_byte paced divisor ran shown surroundings count).1 0 animates
  obtain rfl := Option.some.inj (without.symm.trans without')
  obtain rfl := Option.some.inj (redrawn.symm.trans redrawn')
  -- The ticker has wrapped and shows the value, so the image is drawn at this tick.
  have due : (256 + value) % 256 % animation.animationStepPhase.toNat = value := by
    rw [Nat.add_mod_left, Nat.mod_eq_of_lt byte, Nat.mod_eq_of_lt smaller]
  have same : (256 + value) % animation.animationStepPhase.toNat = value :=
    (drawnWhen_iff promised actual).mpr due
  have multiple := @Nat.dvd_sub_mod animation.animationStepPhase.toNat (256 + value)
  rw [same, Nat.add_sub_cancel] at multiple
  exact multiple

/-- The animations keep their period for ever exactly when their phase divides 256. -/
theorem periodic_iff {cadence : Cadence} {animation : Animation}
    (paced : stepOf cadence = some animation.animationStep)
    (below : animation.animationStepPhaseValue < animation.animationStepPhase) :
    Periodic cadence animation ↔ animation.animationStepPhase.toNat ∣ 256 := by
  refine ⟨periodic_divides paced below, dividing_periodic paced ?_⟩
  intro zero
  rw [zero] at below
  exact UInt8.not_lt_zero below

theorem periodic_iff_quarter : Periodic .sec1 ⟨5, 4, 1⟩ ↔ (4 : UInt8).toNat ∣ 256 :=
  @periodic_iff .sec1 ⟨5, 4, 1⟩ rfl (by decide)

/-- An image that is to be drawn at every third fast tick. -/
theorem thirds_drift : ¬ Periodic .fast ⟨1, 3, 0⟩ := fun periodic =>
  absurd (@periodic_divides .fast ⟨1, 3, 0⟩ rfl (by decide) periodic) (by decide)

end OClock.BackgroundPeriods
