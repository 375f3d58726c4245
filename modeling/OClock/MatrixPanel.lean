import OClock.MatrixChip
import OClock.MatrixDrawing

/-!
The driver together with the sixteen chips it talks to, and the pin writes that leave
the memories of the chips alone.
-/

namespace OClock.MatrixPanel
open SerialLine SelectChain Trace MatrixChip Ht1632 MatrixDrawing

abbrev Panel := Bus Chip numActiveChips

structure World where
  display : Display
  panel : Panel

def World.act (world : World) : Event → World
  | .pin write => { world with panel := SelectChain.act chipKind world.panel write }
  | .set display => { world with display }
  | .delay _ => world

theorem act_display (world : World) (event : Event) :
    (world.act event).display = observe world.display event := by
  cases event <;> rfl

/-- The low four bits of a cell are what a chip stores. -/
def lowNibble (cell : UInt8) : BitVec 4 := cell.toBitVec.setWidth 4

def rams (panel : Panel) (c : Nat) : Nat → BitVec 4 := (panel.devices c).ram

/-- The cells of a board are in the chips, 32 for each, behind those of the boards before. -/
def Shows (world : World) (t : Fin 3) (i : Nat) : Prop :=
  rams world.panel (i / 32) (i % 32 + t * 32) = lowNibble (load (world.display.mem t) i)

/-- A cell that is not shown will be rewritten. -/
def Covered (world : World) : Prop :=
  ∀ t ≠ bufferSecondary, ∀ i < addrSpaceSize, needs world.display t i = true ∨ Shows world t i

structure Good (world : World) : Prop where
  rests : Rests world.panel.levels
  covered : Covered world

abbrev KeepsGood (method : Method) : Prop := Keeps World.display World.act Good Covered method

def after (method : Method) (world : World) : World :=
  outcome World.display World.act method world

@[simp] theorem after_block_nil (world : World) : after (block []) world = world := rfl

@[simp] theorem after_block_cons (statement : Method) (rest : List Method) (world : World) :
    after (block (statement :: rest)) world = after (block rest) (after statement world) :=
  outcome_andThen act_display statement (block rest) world

@[simp] theorem after_change (moved : Display → Display) (world : World) :
    after (change moved) world = { world with display := moved world.display } := rfl

theorem block_through {holds : World → Prop} {statement : Method} {rest : List Method}
    {world : World} (early : Throughout World.act holds world (statement world.display))
    (late : Throughout World.act holds (after statement world)
      (block rest (after statement world).display)) :
    Throughout World.act holds world (block (statement :: rest) world.display) :=
  throughout_andThen act_display early late

/-! ### Methods that write no pins -/

theorem touches_covered {world : World} {display : Display} (covered : Covered world)
    (touches : Touches world.display display) : Covered { world with display } := by
  intro t shown i inside
  rcases touches t shown i with rewrite | ⟨calm, same⟩
  · exact .inl rewrite
  · rcases covered t shown i inside with rewrite | shows
    · rw [rewrite] at calm
      cases calm
    · refine .inr ?_
      unfold Shows at shows ⊢
      rw [shows, ← same]

theorem change_keeps {moved : Display → Display}
    (touches : ∀ display, Touches display (moved display)) : KeepsGood (change moved) := by
  intro world good
  have covered := touches_covered good.covered (touches world.display)
  exact ⟨⟨good.covered, covered⟩, good.rests, covered⟩

theorem pause_keeps (milliseconds : Int) : KeepsGood (pause milliseconds) :=
  fun _ good => ⟨⟨good.covered, good.covered⟩, good⟩

theorem nothing_keeps : KeepsGood (fun _ => []) := keeps_nothing fun _ good => good.covered

theorem block_keeps {statements : List Method}
    (keeps : ∀ statement ∈ statements, KeepsGood statement) : KeepsGood (block statements) :=
  keeps_each act_display (fun _ good => good.covered) statements keeps

theorem each_keeps {Index : Type} {body : Index → Method} {indices : List Index}
    (keeps : ∀ index, KeepsGood (body index)) : KeepsGood (each observe body indices) :=
  keeps_each act_display (fun _ good => good.covered) indices fun index _ => keeps index

/-! ### Pin writes -/

theorem pins_after (writes : List (Write Line)) (world : World) :
    after (pins writes) world =
      { world with panel := final (SelectChain.act chipKind) world.panel writes } := by
  induction writes generalizing world with
  | nil => rfl
  | cons write rest ih => exact ih (world.act (.pin write))

theorem pins_through {holds : World → Prop} {writes : List (Write Line)} {world : World}
    (through : Throughout (SelectChain.act chipKind)
      (fun panel => holds { world with panel }) world.panel writes) :
    Throughout World.act holds world (pins writes world.display) := by
  induction writes generalizing world with
  | nil => exact through
  | cons write rest ih =>
      exact ⟨through.1, @ih (world.act (.pin write)) through.2⟩

/-- Pin writes that leave the memories alone at every moment. -/
def Silent (writes : List (Write Line)) : Prop :=
  ∀ panel : Panel, Rests panel.levels →
    Throughout (SelectChain.act chipKind) (fun passed => rams passed = rams panel) panel writes ∧
      Rests (final (SelectChain.act chipKind) panel writes).levels

theorem silent_nil : Silent [] := fun _ rests => ⟨rfl, rests⟩

theorem silent_append {first second : List (Write Line)} (early : Silent first)
    (late : Silent second) : Silent (first ++ second) := by
  intro panel rests
  obtain ⟨before, middle⟩ := early panel rests
  obtain ⟨after, finish⟩ := late _ middle
  have same : rams (final (SelectChain.act chipKind) panel first) = rams panel :=
    throughout_end before
  rw [final_append]
  exact ⟨throughout_append before (same ▸ after), finish⟩

theorem silent_flatMap {Index : Type} {part : Index → List (Write Line)} (indices : List Index)
    (silent : ∀ index ∈ indices, Silent (part index)) : Silent (indices.flatMap part) := by
  induction indices with
  | nil => exact silent_nil
  | cons index rest ih =>
      rw [List.flatMap_cons]
      exact silent_append (silent index List.mem_cons_self)
        (ih fun other member => silent other (List.mem_cons_of_mem index member))

/-- The memories as they are seen from a display decide what is covered. -/
theorem covered_rams {world : World} (covered : Covered world) {panel : Panel}
    (same : rams panel = rams world.panel) : Covered { world with panel } := by
  intro t shown i inside
  have shows := covered t shown i inside
  unfold Shows at shows ⊢
  rwa [← same] at shows

theorem silent_keeps {writes : List (Write Line)} (silent : Silent writes) :
    KeepsGood (pins writes) := by
  intro world good
  obtain ⟨through, rests⟩ := silent world.panel good.rests
  have covered : Throughout (SelectChain.act chipKind)
      (fun panel => Covered { world with panel }) world.panel writes :=
    throughout_mono (fun _ same => covered_rams good.covered same) through
  have finished : Good (after (pins writes) world) := by
    rw [pins_after]
    exact ⟨rests, throughout_end covered⟩
  exact ⟨pins_through covered, finished⟩

/-! ### Selecting a chip -/

theorem unstrobed_rams {writes : List (Write Line)} (unstrobed : ∀ write ∈ writes, write.line ≠ .wr)
    (panel : Panel) :
    Throughout (SelectChain.act chipKind) (fun passed => rams passed = rams panel) panel writes :=
  throughout_mono (fun _ same => funext same)
    (unstrobed_views Chip.ram (fun _ => rfl) writes unstrobed panel)

theorem select_none : select 0 = unselect numActiveChips := rfl

theorem select_chip (c : Nat) :
    select ((c : Int) + 1) = unselect numActiveChips ++ choose c := by
  have positive : ¬ (c : Int) + 1 < 0 := by omega
  have other : ¬ (c : Int) + 1 = 0 := by omega
  have moves : ((c : Int) + 1).toNat - 1 = c := by omega
  rw [select, if_neg positive, if_neg other, moves]
  rfl

theorem select_none_silent : Silent (select 0) :=
  fun panel rests => ⟨unstrobed_rams (unselect_unstrobed _) panel,
    (unselect_final chipKind rests).1⟩

/-- A chip that was selected waits for the first bits of a transaction. -/
structure Opened (before : Panel) (c : Nat) (panel : Panel) : Prop where
  rests : Rests panel.levels
  only : Only panel.chain c
  chip : panel.devices c = ⟨.id [], rams before c⟩
  rams : rams panel = rams before

theorem select_opens {c : Nat} (inside : c < numActiveChips) {panel : Panel}
    (rests : Rests panel.levels) :
    Throughout (SelectChain.act chipKind) (fun passed => rams passed = rams panel) panel
        (select ((c : Int) + 1)) ∧
      Opened panel c (final (SelectChain.act chipKind) panel (select ((c : Int) + 1))) := by
  have unstrobed : ∀ write ∈ select ((c : Int) + 1), write.line ≠ Line.wr := by
    rw [select_chip]
    intro write member
    exact (List.mem_append.mp member).elim (unselect_unstrobed _ write) (choose_unstrobed c write)
  have through := unstrobed_rams unstrobed panel
  have same : rams (final (SelectChain.act chipKind) panel (select ((c : Int) + 1))) = rams panel :=
    throughout_end through
  obtain ⟨calm, none⟩ := unselect_final chipKind rests
  obtain ⟨resting, chosen⟩ := choose_final chipKind calm none inside
  rw [← final_append, ← select_chip] at resting chosen
  obtain ⟨device, started⟩ := chosen.started
  refine ⟨through, resting, chosen.only, ?_, same⟩
  have ram := congrFun same c
  simp only [rams, started] at ram
  rw [started, rams, ← ram]
  rfl

/-! ### Commands -/

/-- The bits of a number, the highest first. -/
def highBits (data : Nat) : Nat → List Bool
  | 0 => []
  | j + 1 => (data &&& 1 <<< j != 0) :: highBits data j

theorem writeData_strobes (data len : Nat) : writeData data len = strobes (highBits data len) := by
  induction len with
  | zero => rfl
  | succ j ih =>
      rw [writeData, ih]
      rfl

def Strobed (writes : List (Write Line)) : Prop := ∃ bits, writes = strobes bits

theorem strobed_append {first second : List (Write Line)} (early : Strobed first)
    (late : Strobed second) : Strobed (first ++ second) := by
  obtain ⟨bits, rfl⟩ := early
  obtain ⟨more, rfl⟩ := late
  exact ⟨bits ++ more, List.flatMap_append.symm⟩

theorem writeCommand_strobed (data : Nat) : Strobed (writeCommand data) := by
  have bit : Strobed writeSingleBit := ⟨[false], (List.append_nil _).symm⟩
  exact strobed_append ⟨_, writeData_strobes data cmdLen⟩ bit

theorem rams_update {before passed : Panel} {c : Nat} {chip : Chip}
    (devices : passed.devices = Function.update before.devices c chip) :
    rams passed = Function.update (rams before) c chip.ram := by
  funext other
  by_cases here : other = c
  · subst here
    simp [rams, devices]
  · simp [rams, devices, here]

/-- A transaction of commands. -/
theorem command_silent {c : Nat} (inside : c < numActiveChips) {commands : List (Write Line)}
    (strobed : Strobed commands) :
    Silent (select ((c : Int) + 1) ++ (writeData idCmd idLen ++ commands)) := by
  intro panel rests
  obtain ⟨bits, rfl⟩ := strobed
  obtain ⟨before, opened⟩ := select_opens inside rests
  have sent : writeData idCmd idLen ++ strobes bits = strobes ([true, false, false] ++ bits) := by
    rw [writeData_strobes, strobes, strobes, strobes, List.flatMap_append]
    rfl
  have through := strobes_through chipKind ([true, false, false] ++ bits) opened.rests opened.only
  have after := (strobes_final chipKind ([true, false, false] ++ bits) opened.rests opened.only).1
  rw [sent, final_append]
  refine ⟨throughout_append before (throughout_mono ?_ through), after⟩
  rintro passed ⟨seen, part, devices⟩
  have kept := sample_command_part (rams panel c) part
  rw [opened.chip] at devices
  rw [rams_update devices, kept, opened.rams, Function.update_eq_self]

theorem eachChip_silent {session : List (Write Line)}
    (silent : ∀ c < numActiveChips, Silent (select ((c : Int) + 1) ++ session)) :
    Silent (eachChip session) :=
  silent_flatMap _ fun c member => silent c (List.mem_range.mp member)

/-- A method that reads the state first. -/
theorem reads_keeps {method : Display → Method} (keeps : ∀ display, KeepsGood (method display)) :
    KeepsGood (fun display => method display display) :=
  fun world good => keeps world.display world good

theorem session_silent {commands : List (Write Line)} (strobed : Strobed commands) :
    Silent (eachChip (writeData idCmd idLen ++ (commands ++ select 0))) := by
  refine eachChip_silent fun c inside => ?_
  have closed := silent_append (command_silent inside strobed) select_none_silent
  simpa only [List.append_assoc] using closed

theorem brightness_touches (brightness : Int) (display : Display) :
    Touches display { display with brightness } := touches_same rfl rfl

theorem startCommands_silent (display : Display) : Silent (eachChip (startCommands display)) := by
  have strobed := strobed_append (writeCommand_strobed cmdSysdis)
    (strobed_append (writeCommand_strobed cmdComs00)
    (strobed_append (writeCommand_strobed cmdRcclk)
    (strobed_append (writeCommand_strobed cmdSysen)
    (strobed_append (writeCommand_strobed cmdLedon)
    (strobed_append (writeCommand_strobed (cmdPwm display.brightness))
    (writeCommand_strobed cmdBloff))))))
  have silent := session_silent strobed
  simpa only [startCommands, List.append_assoc] using silent

theorem initializeChips_keeps : KeepsGood initializeChips := by
  have all : ∀ display : Display,
      Touches display { display with globalNeedsRewriting := fun _ => true } :=
    fun _ => touches_of fun _ _ => .inl rfl
  apply block_keeps
  simp only [List.forall_mem_cons]
  exact ⟨silent_keeps select_none_silent,
    reads_keeps fun display => silent_keeps (startCommands_silent display), change_keeps all,
    List.forall_mem_nil _⟩

theorem silent_rests {writes : List (Write Line)} (silent : Silent writes) {world : World}
    (rests : Rests world.panel.levels) : Rests (after (pins writes) world).panel.levels := by
  rw [pins_after]
  exact (silent world.panel rests).2

theorem commands_rest {writes : Display → List (Write Line)}
    (silent : ∀ display, Silent (writes display)) {world : World}
    (rests : Rests world.panel.levels) :
    Rests (after (fun display => pins (writes display) display) world).panel.levels :=
  silent_rests (silent world.display) rests

theorem global_covered {world : World}
    (all : ∀ t, world.display.globalNeedsRewriting t = true) : Covered world :=
  fun t _ i _ => .inl (needs_global (all t) i)

/-- Once the chips were set up, every cell needs rewriting. -/
theorem initializeChips_good {world : World} (rests : Rests world.panel.levels) :
    Good (after initializeChips world) := by
  have first := silent_rests select_none_silent rests
  have second := commands_rest startCommands_silent first
  rw [initializeChips, after_block_cons, after_block_cons, after_block_cons, after_block_nil,
    after_change]
  refine ⟨?_, global_covered fun _ => rfl⟩
  dsimp only
  exact second

theorem blank_keeps : KeepsGood blank := by
  have silent := session_silent (writeCommand_strobed cmdLedoff)
  apply block_keeps
  simp only [List.forall_mem_cons]
  refine ⟨silent_keeps select_none_silent, silent_keeps ?_, List.forall_mem_nil _⟩
  simpa only [List.append_assoc] using silent

theorem setBrightness_keeps (brightnessParam : Int) :
    KeepsGood (setBrightness brightnessParam) := by
  unfold setBrightness
  split
  · exact nothing_keeps
  · have commands : ∀ display : Display, Silent
        (eachChip (writeData idCmd idLen ++ writeCommand (cmdPwm display.brightness))) :=
      fun _ => eachChip_silent fun _ inside => command_silent inside (writeCommand_strobed _)
    apply block_keeps
    simp only [List.forall_mem_cons]
    exact ⟨change_keeps (brightness_touches brightnessParam),
      reads_keeps fun display => silent_keeps (commands display),
      silent_keeps select_none_silent, List.forall_mem_nil _⟩

end OClock.MatrixPanel
