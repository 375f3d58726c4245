import OClock.MatrixTalk

/-!
The protocol on the bus of the matrix over whole runs, whatever the select chain and the
chips held before.
-/

namespace OClock.MatrixProtocol
open SerialLine SelectChain Trace SelectLog MatrixChip Ht1632 MatrixPanel MatrixTalk

abbrev LoggedPanel := Bus (Logged Chip) numActiveChips

abbrev panelAct : LoggedPanel → Write Line → LoggedPanel := SelectChain.act (logging chipKind)

/-- At every rising edge of the strobe exactly one of the chips is selected. -/
def OneAtEachStrobe : LoggedPanel → List (Write Line) → Prop
  | _, [] => True
  | panel, write :: rest =>
      (rises .wr panel.levels write = true → ∃ c < numActiveChips, Only panel.chain c) ∧
        OneAtEachStrobe (panelAct panel write) rest

theorem strobes_one {panel : LoggedPanel} {writes : List (Write Line)}
    (through : Throughout panelAct OneStrobed panel writes) : OneAtEachStrobe panel writes := by
  induction writes generalizing panel with
  | nil => trivial
  | cons write rest ih =>
      refine ⟨fun rise => ?_, ih through.2⟩
      have parts := rise
      simp only [rises, Bool.and_eq_true, decide_eq_true_eq, Bool.not_eq_true'] at parts
      obtain ⟨⟨strobe, high⟩, _⟩ := parts
      have calm : rises .clk panel.levels write = false := by simp [rises, strobe]
      -- The edge itself moves no stage, so the chip selected after it was selected before.
      have chain : (panelAct panel write).chain = panel.chain := by
        simp only [panelAct, SelectChain.act, calm, Bool.false_eq_true, if_false, rise, if_true]
        rfl
      have level : (panelAct panel write).levels .wr = true := by
        rw [act_levels, ← strobe, ← high]
        exact drive_same ..
      obtain ⟨c, inside, only⟩ := throughout_start through.2 level
      exact ⟨c, inside, chain ▸ only⟩

theorem one_append {panel : LoggedPanel} {first second : List (Write Line)}
    (early : OneAtEachStrobe panel first)
    (late : OneAtEachStrobe (final panelAct panel first) second) :
    OneAtEachStrobe panel (first ++ second) := by
  induction first generalizing panel with
  | nil => exact late
  | cons write rest ih => exact ⟨early.1, ih early.2 late⟩

/-! ### Calls -/

inductive Call where
  | begin (memory : Fin 3 → Cells)
  | op (op : Op)

/-- `begin` allocates the buffers before it touches a pin. -/
def serve : Call → Method
  | .begin memory =>
      block [change fun display => { display with mem := memory }, beginDisplay]
  | .op op => perform op

def serveAll (calls : List Call) : Method := each observe serve calls

/-- Every chip has heard well formed transactions only. -/
def Formed (panel : LoggedPanel) : Prop :=
  ∀ c, ∀ transaction ∈ transactions (panel.devices c), WellFormed transaction

/-- Between two calls. -/
structure Settled (display : Display) (panel : LoggedPanel) : Prop where
  rests : Rests panel.levels
  off : Unselected panel.chain
  formed : Formed panel
  level : InLevels display
  pwm : ∀ c < numActiveChips,
    lastPwm (transactions (panel.devices c)) = pwmLevel display.brightness

theorem said_formed {panel done : LoggedPanel} {items : List Item} (formed : Formed panel)
    (said : Said panel items done) (proper : Proper items) : Formed done := by
  intro c transaction member
  rw [said.heard] at member
  rcases List.mem_append.mp member with before | heard
  · exact formed c transaction before
  · obtain ⟨item, inside, here⟩ := List.mem_flatMap.mp heard
    cases item with
    | none => cases here
    | some session =>
        obtain ⟨other, bits⟩ := session
        simp only [heardIn] at here
        split at here
        · rw [List.mem_singleton.mp here]
          exact proper.formed other bits inside
        · cases here

/-- One operation. -/
theorem tells_settled {display : Display} {events : List Event} {items : List Item}
    (tells : Tells display events items) {panel : LoggedPanel} (settled : Settled display panel) :
    OneAtEachStrobe panel (pinsOf events) ∧
      Settled (final observe display events) (final panelAct panel (pinsOf events)) := by
  rw [tells.pins]
  obtain ⟨through, said⟩ := talk_said chipKind tells.proper.within settled.rests
  refine ⟨strobes_one through, said.rests, ?_, said_formed settled.formed said tells.proper,
    tells.level, fun c chip => ?_⟩
  · rcases tells.proper.closed with rfl | closed
    · exact settled.off
    · exact talk_closed chipKind closed tells.proper.within settled.rests
  · rw [said.heard, lastPwm_append, settled.pwm c chip]
    exact tells.pwm c chip

/-- The levels of the four `configureOutput` calls. -/
def outputs : List (Write Line) := [⟨.cs, true⟩, ⟨.wr, false⟩, ⟨.data, false⟩, ⟨.clk, false⟩]

theorem outputs_quiet (panel : LoggedPanel) :
    OneAtEachStrobe panel outputs ∧ Rests (final panelAct panel outputs).levels ∧
      (final panelAct panel outputs).devices = panel.devices := by
  refine ⟨?_, ⟨rfl, rfl⟩, ?_⟩
  · simp [outputs, OneAtEachStrobe, rises]
  · simp [outputs, panelAct, SelectChain.act, rises]

/-- `begin` after its calls of `configureOutput`. -/
theorem begin_tells {display : Display} (level : InLevels display) :
    ∃ events items, beginDisplay display = pins outputs display ++ events ∧
      Tells display events items ∧ Closed items ∧
      Loud (final observe display events).brightness items := by
  let boards : Method := block
    [each observe (fun i : Int => block [drawTarget i, clear, render]) [0, 1, 2], drawTarget 0]
  have speaks : Speaks boards := by
    apply speaks_block
    simp only [List.forall_mem_cons]
    refine ⟨speaks_each fun i _ => speaks_block ?_, drawTarget_speaks 0, List.forall_mem_nil _⟩
    simp only [List.forall_mem_cons]
    exact ⟨drawTarget_speaks i, clear_speaks, render_speaks, List.forall_mem_nil _⟩
  obtain ⟨items, start, some, loud⟩ := initializeChips_tells level
  obtain ⟨more, rest⟩ := speaks _ start.level
  have whole := tells_append start rest
  refine ⟨_, _, ?_, whole, ?_, fun c chip => ?_⟩
  · have events : beginDisplay display = pins outputs display ++
        andThen observe initializeChips boards (final observe display (pins outputs display)) :=
      rfl
    rw [events, observe_pins]
    rfl
  · rcases whole.proper.closed with none | closed
    · exact absurd (List.append_eq_nil_iff.mp none).1 some
    · exact closed
  · have pwm := whole.pwm c chip
    rw [heard_append, lastPwm_append, loud c chip] at pwm ⊢
    rw [← pwm]
    cases lastPwm (heard c more) <;> rfl

/-- `begin` needs nothing from the chain or from the levels. -/
theorem begin_settled (memory : Fin 3 → Cells) {display : Display} (level : InLevels display)
    {panel : LoggedPanel} (formed : Formed panel) :
    OneAtEachStrobe panel (pinsOf (serve (.begin memory) display)) ∧
      Settled (final observe display (serve (.begin memory) display))
        (final panelAct panel (pinsOf (serve (.begin memory) display))) := by
  let allocated : Display := { display with mem := memory }
  obtain ⟨events, items, same, tells, closed, loud⟩ :=
    @begin_tells allocated level
  have call : serve (.begin memory) display = .set allocated :: beginDisplay allocated := by
    simp only [serve, block, each, andThen, change, id, List.append_nil]
    rfl
  have writes : pinsOf (serve (.begin memory) display) =
      outputs ++ talk numActiveChips items := by
    rw [call, same, ← tells.pins, ← pinsOf_pins outputs allocated, ← pinsOf_append]
    rfl
  have seen : final observe display (serve (.begin memory) display) =
      final observe allocated events := by
    rw [call, same, final_cons, final_append]
    exact congrArg (final observe · events) (observe_pins outputs allocated allocated)
  -- The pins turn to outputs without a strobe, whatever the chips heard before.
  obtain ⟨quiet, rests, devices⟩ := outputs_quiet panel
  obtain ⟨through, said⟩ := talk_said chipKind tells.proper.within rests
  have heardAll : ∀ c, transactions ((final panelAct (final panelAct panel outputs)
      (talk numActiveChips items)).devices c) =
        transactions (panel.devices c) ++ heard c items := by
    intro c
    rw [said.heard, devices]
  have kept : Formed (final panelAct panel outputs) := by
    intro c transaction member
    rw [devices] at member
    exact formed c transaction member
  rw [writes, seen, final_append]
  refine ⟨one_append quiet (strobes_one through), said.rests,
    talk_closed chipKind closed tells.proper.within rests, said_formed kept said tells.proper,
    tells.level, fun c chip => ?_⟩
  rw [heardAll, lastPwm_append]
  exact loud_or loud _ chip

theorem serve_settled (call : Call) {display : Display} {panel : LoggedPanel}
    (settled : Settled display panel) :
    OneAtEachStrobe panel (pinsOf (serve call display)) ∧
      Settled (final observe display (serve call display))
        (final panelAct panel (pinsOf (serve call display))) := by
  cases call with
  | begin memory => exact begin_settled memory settled.level settled.formed
  | op op =>
      obtain ⟨items, tells⟩ := perform_speaks op display settled.level
      exact tells_settled tells settled

theorem serveAll_cons (call : Call) (rest : List Call) (display : Display) :
    serveAll (call :: rest) display =
      serve call display ++ serveAll rest (final observe display (serve call display)) := rfl

theorem serveAll_settled (calls : List Call) {display : Display} {panel : LoggedPanel}
    (settled : Settled display panel) :
    OneAtEachStrobe panel (pinsOf (serveAll calls display)) ∧
      Settled (final observe display (serveAll calls display))
        (final panelAct panel (pinsOf (serveAll calls display))) := by
  induction calls generalizing display panel with
  | nil => exact ⟨trivial, settled⟩
  | cons call rest ih =>
      obtain ⟨now, next⟩ := serve_settled call settled
      obtain ⟨later, last⟩ := ih next
      rw [serveAll_cons, pinsOf_append, final_append, final_append]
      exact ⟨one_append now later, last⟩

/-- The recorded panel is the panel that draws. -/
theorem forget_run (panel : Panel) (writes : List (Write Line)) :
    forget (final panelAct (logged panel) writes) = final (SelectChain.act chipKind) panel writes :=
  forget_final chipKind (logged panel) writes

/-- In every run that begins with `begin`, from any panel: a strobe finds exactly one chip
selected, and after each call no chip is selected, every transaction that a chip has heard is
well formed, and the last PWM command of every chip is the one for the stored brightness. -/
theorem protocol_well_formed (unset memory : Fin 3 → Cells) (panel : Panel)
    (calls : List Call) :
    let events := serveAll (.begin memory :: calls) (Display.new unset)
    let display := final observe (Display.new unset) events
    let reached := final panelAct (logged panel) (pinsOf events)
    OneAtEachStrobe (logged panel) (pinsOf events) ∧
      Unselected reached.chain ∧
      (∀ c < numActiveChips, ∀ transaction ∈ transactions (reached.devices c),
        WellFormed transaction) ∧
      ∀ c < numActiveChips, ∃ level, lastPwm (transactions (reached.devices c)) = some level ∧
        (level : Int) + 1 = display.brightness := by
  intro events display reached
  have level : InLevels (Display.new unset) := by
    constructor <;> simp [Display.new]
  have formed : Formed (logged panel) := by
    intro c transaction member
    cases member
  obtain ⟨now, next⟩ := begin_settled memory level formed
  obtain ⟨later, last⟩ := serveAll_settled calls next
  have split := serveAll_cons (.begin memory) calls (Display.new unset)
  have settled : Settled display reached := by
    unfold display reached events
    rw [split, pinsOf_append, final_append, final_append]
    exact last
  refine ⟨?_, settled.off, fun c _ => settled.formed c, fun c chip => ⟨_, settled.pwm c chip, ?_⟩⟩
  · unfold events
    rw [split, pinsOf_append]
    exact one_append now later
  · have bounds := settled.level
    unfold InLevels at bounds
    omega

end OClock.MatrixProtocol
