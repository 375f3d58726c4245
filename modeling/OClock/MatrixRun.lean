import OClock.MatrixRefresh

/-!
Runs of the matrix driver after `begin`: the chips show the buffers after a render, and
at every moment a cell that they do not show is marked for rewriting.
-/

namespace OClock.MatrixRun
open SerialLine SelectChain Trace MatrixChip Ht1632 MatrixDrawing MatrixPanel MatrixRefresh

/-! ### Every method keeps the invariant -/

theorem drawTarget_keeps (targetBuffer : Int) : KeepsGood (drawTarget targetBuffer) :=
  change_keeps (setTarget_touches targetBuffer)

theorem clear_keeps : KeepsGood clear := change_keeps clearTarget_touches

theorem render_keeps : KeepsGood render := by
  intro world good
  have idle : render world.display = [] →
      Throughout World.act Covered world (render world.display) ∧ Good (after render world) := by
    intro nothing
    unfold after outcome
    rw [nothing]
    exact ⟨good.covered, good⟩
  cases target : world.display.tgtBuffer with
  | none => exact idle (by simp only [render, target])
  | some t =>
      by_cases board : t = bufferSecondary
      · exact idle (by simp only [render, target, if_pos board])
      · obtain ⟨through, kept, _⟩ := render_board good target board
        exact ⟨through, kept⟩

theorem restoreTarget_keeps (saveTarget : Option (Fin 3)) :
    KeepsGood (restoreTarget saveTarget) := by
  cases saveTarget with
  | none => exact nothing_keeps
  | some saveTarget => exact drawTarget_keeps saveTarget

theorem eachBoard_keeps {body : Method} (keeps : KeepsGood body) : KeepsGood (eachBoard body) := by
  intro world
  refine @block_keeps [each observe (fun i : Int => block [drawTarget i, body]) [0, 1, 2],
    restoreTarget world.display.tgtBuffer] ?_ world
  simp only [List.forall_mem_cons]
  refine ⟨each_keeps fun i => block_keeps ?_, restoreTarget_keeps _, List.forall_mem_nil _⟩
  simp only [List.forall_mem_cons]
  exact ⟨drawTarget_keeps i, keeps, List.forall_mem_nil _⟩

theorem fade_keeps (t : Fin 3) (time brightnessSave : Int) :
    KeepsGood (fade t time brightnessSave) := by
  have dims : ∀ levels : List Int, KeepsGood
      (each observe (fun i => block [setBrightness i, pause (time.tdiv 32)]) levels) := by
    intro levels
    refine each_keeps fun i => block_keeps ?_
    simp only [List.forall_mem_cons]
    exact ⟨setBrightness_keeps i, pause_keeps _, List.forall_mem_nil _⟩
  apply block_keeps
  simp only [List.forall_mem_cons]
  exact ⟨dims _, clear_keeps, render_keeps, pause_keeps _, change_keeps (swapBuffers_touches t),
    render_keeps, pause_keeps _, dims _, setBrightness_keeps _, List.forall_mem_nil _⟩

theorem transition_keeps (mode time : Int) : KeepsGood (transition mode time) := by
  intro world good
  have choice : ∃ method, KeepsGood method ∧
      transition mode time world.display = method world.display := by
    unfold transition
    cases world.display.tgtBuffer with
    | none => exact ⟨_, nothing_keeps, rfl⟩
    | some t =>
        dsimp only
        split
        · exact ⟨_, nothing_keeps, rfl⟩
        · split
          · exact ⟨_, fade_keeps t time _, rfl⟩
          · exact ⟨_, change_keeps (transitionCells_touches mode t), rfl⟩
  obtain ⟨method, keeps, same⟩ := choice
  unfold outcome
  rw [same]
  exact keeps world good

theorem drawText_touches (text : List UInt8) (x y : Int) (font : Font) (gutterSpace : Int)
    (display : Display) :
    Touches display (if y + font.fontHeight < 0 ∨ y ≥ comSize then display
      else copyText font y gutterSpace text x display) := by
  split
  · exact touches_refl display
  · exact copyText_touches font y gutterSpace text x display

theorem perform_keeps (op : Op) : KeepsGood (perform op) := by
  cases op with
  | setPixel x y datum => exact change_keeps (paintPixel_touches x y datum)
  | drawImage image => exact change_keeps (copyImage_touches image)
  | drawText text x y font gutterSpace =>
      exact change_keeps (drawText_touches text x y font gutterSpace)
  | clear => exact clear_keeps
  | clearAll => exact eachBoard_keeps clear_keeps
  | drawTarget targetBuffer => exact drawTarget_keeps targetBuffer
  | transition mode time => exact transition_keeps mode time
  | setBrightness brightnessParam => exact setBrightness_keeps brightnessParam
  | blank => exact blank_keeps
  | render => exact render_keeps
  | renderAll => exact eachBoard_keeps render_keeps
  | reinit =>
      apply block_keeps
      simp only [List.forall_mem_cons]
      exact ⟨initializeChips_keeps, eachBoard_keeps render_keeps, List.forall_mem_nil _⟩

/-! ### All boards -/

theorem setTarget_board (t : Fin 3) (display : Display) :
    setTarget t display = { display with tgtBuffer := some t } := by
  have inside : (0 : Int) ≤ (t : Nat) ∧ ((t : Nat) : Int) < 3 := by omega
  unfold setTarget
  rw [dif_pos inside]
  rfl

/-- Which board is the target does not matter for what is shown. -/
theorem setTarget_shown {targetBuffer : Int} {world : World} {t : Fin 3} (shown : Shown world t) :
    Shown (after (drawTarget targetBuffer) world) t := by
  rw [drawTarget, after_change]
  unfold setTarget
  split
  · exact shown
  · exact shown

theorem render_others {world : World} (good : Good world) {s t : Fin 3}
    (target : world.display.tgtBuffer = some t) (other : s ≠ t) (shown : Shown world s) :
    Shown (after render world) s := by
  by_cases board : t = bufferSecondary
  · have idle : render world.display = [] := by simp only [render, target, if_pos board]
    unfold after outcome
    rw [idle]
    exact shown
  · obtain ⟨_, _, _, others, _⟩ := render_board good target board
    exact fun i inside => others s other i (shown i inside)

/-- One turn of the loop of `renderAll`. -/
theorem board_shown {world : World} (good : Good world) (t : Fin 3) {i : Int}
    (number : i = (t : Nat)) :
    let passed := after (block [drawTarget i, render]) world
    Good passed ∧ (t ≠ bufferSecondary → Shown passed t) ∧
      ∀ s ≠ t, Shown world s → Shown passed s := by
  subst number
  have aimed := (drawTarget_keeps (t : Nat) world good).2
  have target : (after (drawTarget (t : Nat)) world).display.tgtBuffer = some t := by
    rw [drawTarget, after_change, setTarget_board]
  dsimp only
  rw [after_block_cons, after_block_cons, after_block_nil]
  exact ⟨(render_keeps _ aimed).2, fun board => (render_board aimed target board).2.2.1,
    fun s other shown => render_others aimed target other (setTarget_shown shown)⟩

theorem after_each_nil {Index : Type} (body : Index → Method) (world : World) :
    after (each observe body []) world = world := rfl

theorem after_each_cons {Index : Type} (body : Index → Method) (i : Index) (rest : List Index)
    (world : World) :
    after (each observe body (i :: rest)) world =
      after (each observe body rest) (after (body i) world) :=
  outcome_andThen act_display (body i) (each observe body rest) world

theorem restoreTarget_shown (saveTarget : Option (Fin 3)) {world : World} {t : Fin 3}
    (shown : Shown world t) : Shown (after (restoreTarget saveTarget) world) t := by
  cases saveTarget with
  | none => exact shown
  | some saveTarget => exact setTarget_shown shown

theorem after_eachBoard (body : Method) (world : World) :
    after (eachBoard body) world =
      after (block [each observe (fun i : Int => block [drawTarget i, body]) [0, 1, 2],
        restoreTarget world.display.tgtBuffer]) world := rfl

theorem eachBoard_shown {world : World} (good : Good world) {t : Fin 3}
    (board : t ≠ bufferSecondary) : Shown (after (eachBoard render) world) t := by
  obtain ⟨first, green, _⟩ := @board_shown _ good 0 0 rfl
  obtain ⟨second, red, kept⟩ := @board_shown _ first 1 1 rfl
  obtain ⟨_, _, both⟩ := @board_shown _ second 2 2 rfl
  rw [after_eachBoard, after_block_cons, after_block_cons, after_block_nil, after_each_cons,
    after_each_cons, after_each_cons, after_each_nil]
  refine restoreTarget_shown _ (both t board ?_)
  have boards : ∀ t : Fin 3, t ≠ bufferSecondary → t = 0 ∨ t = 1 := by decide
  rcases boards t board with rfl | rfl
  · exact kept 0 (by decide) (green (by decide))
  · exact red (by decide)

/-! ### Runs -/

theorem outputs_rest (panel : Panel) :
    Rests (final (SelectChain.act chipKind) panel
      [⟨.cs, true⟩, ⟨.wr, false⟩, ⟨.data, false⟩, ⟨.clk, false⟩]).levels :=
  ⟨rfl, rfl⟩

theorem beginDisplay_good (memory : Fin 3 → Cells) (panel : Panel) :
    Good (after beginDisplay ⟨Display.new memory, panel⟩) := by
  have boards : KeepsGood (block
      [each observe (fun i : Int => block [drawTarget i, clear, render]) [0, 1, 2],
        drawTarget 0]) := by
    apply block_keeps
    simp only [List.forall_mem_cons]
    refine ⟨each_keeps fun i => block_keeps ?_, drawTarget_keeps 0, List.forall_mem_nil _⟩
    simp only [List.forall_mem_cons]
    exact ⟨drawTarget_keeps i, clear_keeps, render_keeps, List.forall_mem_nil _⟩
  rw [beginDisplay, after_block_cons, after_block_cons, pins_after]
  exact (boards _ (initializeChips_good (outputs_rest panel))).2

theorem performAll_keeps (ops : List Op) : KeepsGood (performAll ops) :=
  each_keeps perform_keeps

theorem after_performAll (ops : List Op) (last : Op) (world : World) :
    after (performAll (ops ++ [last])) world =
      after (perform last) (after (performAll ops) world) := by
  unfold performAll
  induction ops generalizing world with
  | nil => rw [List.nil_append, after_each_cons, after_each_nil, after_each_nil]
  | cons op later ih => rw [List.cons_append, after_each_cons, after_each_cons, ih]

theorem reinit_shown {world : World} (good : Good world) {t : Fin 3}
    (board : t ≠ bufferSecondary) : Shown (after reinit world) t := by
  rw [reinit, after_block_cons, after_block_cons, after_block_nil]
  exact eachBoard_shown (initializeChips_keeps world good).2 board

/-- The cell of an address of a chip. -/
theorem shows_cell {world : World} {t : Fin 3} {c a : Nat} (low : a < 32)
    (shows : Shows world t (32 * c + a)) :
    rams world.panel c (a + 32 * t) = lowNibble (load (world.display.mem t) (32 * c + a)) := by
  have chip : (32 * c + a) / 32 = c := by omega
  have address : (32 * c + a) % 32 = a := by omega
  unfold Shows at shows
  rw [chip, address, Nat.mul_comm] at shows
  exact shows

/-- After `begin`, whatever the chips and the allocated buffers held before: right after
`renderAll` or `reinit` every chip shows both boards, and at every moment of a run a cell
that is not shown carries its mark or that of its board. -/
theorem panel_shows_buffers (memory : Fin 3 → Cells) (panel : Panel) (ops : List Op) :
    let start := after beginDisplay ⟨Display.new memory, panel⟩
    (∀ before last rest, ops = before ++ last :: rest → last = .renderAll ∨ last = .reinit →
      let world := after (performAll (before ++ [last])) start
      ∀ t ≠ bufferSecondary, ∀ c < numActiveChips, ∀ a < 32,
        rams world.panel c (a + 32 * t) =
          lowNibble (load (world.display.mem t) (32 * c + a))) ∧
    ∀ events rest, performAll ops start.display = events ++ rest →
      let world := final World.act start events
      ∀ t ≠ bufferSecondary, ∀ c < numActiveChips, ∀ a < 32,
        rams world.panel c (a + 32 * t) ≠
            lowNibble (load (world.display.mem t) (32 * c + a)) →
          load (world.display.mem t) (32 * c + a) &&& maskNeedsRewriting ≠ 0 ∨
            world.display.globalNeedsRewriting t = true := by
  intro start
  have good : Good start := beginDisplay_good memory panel
  have cell : ∀ c < numActiveChips, ∀ a < 32, 32 * c + a < addrSpaceSize := by
    intro c chip a low
    unfold numActiveChips at chip
    unfold addrSpaceSize
    omega
  constructor
  · intro before last rest _ refresh world t board c chip a low
    have kept := (performAll_keeps before start good).2
    have shown : Shown world t := by
      have split : world = after (perform last) (after (performAll before) start) :=
        after_performAll before last start
      rw [split]
      rcases refresh with rfl | rfl
      · exact eachBoard_shown kept board
      · exact reinit_shown kept board
    exact shows_cell low (shown _ (cell c chip a low))
  · intro events rest whole world t board c chip a low stale
    have through := (performAll_keeps ops start good).1
    rw [whole] at through
    have covered : Covered world := throughout_moment through
    rcases covered t board _ (cell c chip a low) with rewrite | shows
    · simp only [needs, needsRewriting, Bool.or_eq_true, bne_iff_ne] at rewrite
      exact rewrite.symm
    · exact absurd (shows_cell low shows) stale

end OClock.MatrixRun
