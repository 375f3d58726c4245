import OClock.MatrixPanel

/-!
`render` brings the chips up to date: the loop over the cells of a board stores every
cell that needs it at its place, whichever runs of cells it merges.
-/

namespace OClock.MatrixRefresh
open SerialLine SelectChain Trace MatrixChip Ht1632 MatrixDrawing MatrixPanel

/-! ### Words and addresses -/

/-- The bits of a cell, the lowest first. -/
def lowBits (data : Nat) : List Bool :=
  [data &&& 1 != 0, data >>> 1 &&& 1 != 0, data >>> 1 >>> 1 &&& 1 != 0,
    data >>> 1 >>> 1 >>> 1 &&& 1 != 0]

theorem writeDataRev_strobes (data : Nat) :
    writeDataRev data wordLen = strobes (lowBits data) := rfl

theorem lowBits_nibble : ∀ cell : BitVec 8,
    nibble (lowBits (UInt8.ofBitVec cell).toNat) = lowNibble (UInt8.ofBitVec cell) := by
  decide

theorem highBits_number : ∀ address < 64, number (highBits address addrLen) = address := by
  decide

/-! ### What the loop has stored -/

/-- The memories after the loop over the cells before `i` of a board. -/
def drawn (display : Display) (t : Fin 3) (before : Nat → Nat → BitVec 4) (i : Nat) :
    Nat → Nat → BitVec 4 := fun c address =>
  let cell := c * 32 + (address - t * 32)
  if t * 32 ≤ address ∧ address < t * 32 + 32 ∧ cell < i ∧ needs display t cell = true then
    lowNibble (load (display.mem t) cell)
  else before c address

theorem drawn_zero (display : Display) (t : Fin 3) (before : Nat → Nat → BitVec 4) :
    drawn display t before 0 = before := by
  funext c address
  simp [drawn]

/-- A cell that needs no rewriting is not stored. -/
theorem drawn_skip {display : Display} {t : Fin 3} {i : Nat} (calm : needs display t i = false)
    (before : Nat → Nat → BitVec 4) :
    drawn display t before (i + 1) = drawn display t before i := by
  funext c address
  by_cases here : c * 32 + (address - t * 32) = i
  · simp [drawn, here, calm]
  · have before : c * 32 + (address - t * 32) < i + 1 ↔ c * 32 + (address - t * 32) < i := by omega
    simp only [drawn, before]

theorem drawn_other (display : Display) (t : Fin 3) (before : Nat → Nat → BitVec 4)
    {i c address : Nat} (other : ¬ (c = i / 32 ∧ address = i % 32 + t * 32)) :
    drawn display t before (i + 1) c address = drawn display t before i c address := by
  unfold drawn
  by_cases board : t * 32 ≤ address ∧ address < t * 32 + 32
  · have apart : c * 32 + (address - t * 32) < i + 1 ↔ c * 32 + (address - t * 32) < i := by omega
    simp only [apart]
  · have out : ∀ rest : Prop, ¬ (t * 32 ≤ address ∧ address < t * 32 + 32 ∧ rest) :=
      fun _ inside => board ⟨inside.1, inside.2.1⟩
    simp only [out, if_false]

/-- Any other cell is stored at its place. -/
theorem drawn_store {display : Display} {t : Fin 3} {i : Nat} (rewrite : needs display t i = true)
    (before : Nat → Nat → BitVec 4) :
    drawn display t before (i + 1) =
      Function.update (drawn display t before i) (i / 32)
        (Function.update (drawn display t before i (i / 32)) (i % 32 + t * 32)
          (lowNibble (load (display.mem t) i))) := by
  funext c address
  by_cases chip : c = i / 32
  · subst chip
    rw [Function.update_self]
    by_cases place : address = i % 32 + t * 32
    · subst place
      have cell : i / 32 * 32 + (i % 32 + t * 32 - t * 32) = i := by omega
      have board : t * 32 ≤ i % 32 + (t : Nat) * 32 ∧ i % 32 + (t : Nat) * 32 < t * 32 + 32 := by
        omega
      rw [Function.update_self, drawn, cell, if_pos ⟨board.1, board.2, Nat.lt_succ_self i, rewrite⟩]
    · rw [Function.update_of_ne place, drawn_other _ _ _ fun same => place same.2]
  · rw [Function.update_of_ne chip, drawn_other _ _ _ fun same => chip same.1]

/-! ### The loop -/

/-- Before the turn for cell `i`: an open chip waits for the word behind the last one. -/
structure Turn (display : Display) (t : Fin 3) (before : Nat → Nat → BitVec 4) (i : Nat)
    (nChipOpen : Option Nat) (panel : Panel) : Prop where
  rests : Rests panel.levels
  rams : rams panel = drawn display t before i
  opened : ∀ nChip, nChipOpen = some nChip → ∃ c < numActiveChips, nChip = c + 1 ∧
    Only panel.chain c ∧ c * 32 < i ∧ i ≤ c * 32 + 32 ∧
    (panel.devices c).phase = .word (i - c * 32 + t * 32) []

/-- The only selected chip waits for the word of an address. -/
structure Waits (c address : Nat) (panel : Panel) : Prop where
  rests : Rests panel.levels
  only : Only panel.chain c
  phase : (panel.devices c).phase = .word address []

/-- A chip that waits for a word stores the cell. -/
theorem word_stored {display : Display} {t : Fin 3} {before : Nat → Nat → BitVec 4} {i : Nat}
    (inside : i < addrSpaceSize) (rewrite : needs display t i = true) {panel : Panel}
    (waits : Waits (i / 32) (i % 32 + t * 32) panel)
    (same : rams panel = drawn display t before i) :
    Throughout (SelectChain.act chipKind) (fun passed => rams passed = drawn display t before i ∨
        rams passed = drawn display t before (i + 1)) panel
        (writeDataRev (load (display.mem t) i).toNat wordLen) ∧
      Turn display t before (i + 1) (some (i / 32 + 1)) (final (SelectChain.act chipKind) panel
        (writeDataRev (load (display.mem t) i).toNat wordLen)) := by
  obtain ⟨rests, only, phase⟩ := waits
  rw [writeDataRev_strobes]
  have chip : panel.devices (i / 32) =
      ⟨.word (i % 32 + t * 32) [], drawn display t before i (i / 32)⟩ := by
    rw [← phase, ← same]
    rfl
  have word := lowBits_nibble (load (display.mem t) i).toBitVec
  obtain ⟨resting, chain, devices⟩ := strobes_final chipKind
    (lowBits (load (display.mem t) i).toNat) rests only
  have through := strobes_through chipKind (lowBits (load (display.mem t) i).toNat) rests only
  rw [chip, lowBits, sample_word, ← lowBits] at devices
  have stored := rams_update devices
  rw [same] at stored
  have next := drawn_store rewrite before
  rw [← word] at next
  refine ⟨throughout_mono ?_ through, resting, stored.trans next.symm, ?_⟩
  · rintro passed ⟨seen, part, changed⟩
    rw [chip] at changed
    have now := rams_update changed
    rw [same] at now
    -- Only the fourth bit stores the word, so the memory has the old word or the new one.
    rcases sample_word_part _ _ _ _ _ _ part with kept | last
    · rw [kept, Function.update_eq_self] at now
      exact .inl now
    · rw [last] at now
      exact .inr (now.trans next.symm)
  · intro nChip opened
    have chips : i / 32 < numActiveChips := by
      unfold addrSpaceSize at inside
      unfold numActiveChips
      omega
    have address : i + 1 - i / 32 * 32 + t * 32 = i % 32 + t * 32 + 1 := by omega
    refine ⟨i / 32, chips, (Option.some.inj opened).symm, chain ▸ only, by omega, by omega, ?_⟩
    rw [address, devices, Function.update_self]

theorem header_strobes (address : Nat) :
    writeData idWr idLen ++ writeData address addrLen =
      strobes ([true, false, true] ++ highBits address addrLen) := by
  have first : writeData idWr idLen = strobes [true, false, true] := by
    rw [writeData_strobes]
    rfl
  rw [first, writeData_strobes, strobes, strobes, strobes, List.flatMap_append]

theorem header_sampled (ram : Nat → BitVec 4) {address : Nat} (small : address < 64) :
    sampledBits chipKind ⟨.id [], ram⟩ ([true, false, true] ++ highBits address addrLen) =
      ⟨.word address [], ram⟩ := by
  have back := highBits_number address small
  have bits : ∃ a b c d e f g, highBits address addrLen = [a, b, c, d, e, f, g] :=
    ⟨_, _, _, _, _, _, _, rfl⟩
  obtain ⟨a, b, c, d, e, f, g, same⟩ := bits
  rw [same] at back ⊢
  rw [← back]
  exact sample_header ram a b c d e f g

theorem highBits_length (data len : Nat) : (highBits data len).length = len := by
  induction len with
  | zero => rfl
  | succ j ih => rw [highBits, List.length_cons, ih]

/-- The header of a transaction that writes cells of a board from `i` on. -/
def header (t : Fin 3) (i : Nat) : List (Write Line) :=
  select ((i / 32 : Nat) + 1) ++ writeData idWr idLen ++ writeData (i % 32 + t * 32) addrLen

theorem header_opens {t : Fin 3} (shown : t ≠ bufferSecondary) {i : Nat}
    (inside : i < addrSpaceSize) {panel : Panel} (rests : Rests panel.levels) :
    Throughout (SelectChain.act chipKind) (fun passed => rams passed = rams panel) panel
        (header t i) ∧
      Waits (i / 32) (i % 32 + t * 32) (final (SelectChain.act chipKind) panel (header t i)) := by
  have chips : i / 32 < numActiveChips := by
    unfold addrSpaceSize at inside
    unfold numActiveChips
    omega
  have small : i % 32 + t * 32 < 64 := by
    have board : t.val ≠ 2 := fun same => shown (Fin.ext same)
    omega
  have bits : header t i = select ((i / 32 : Nat) + 1) ++
      strobes ([true, false, true] ++ highBits (i % 32 + t * 32) addrLen) := by
    rw [header, List.append_assoc, header_strobes]
  generalize i % 32 + t * 32 = address at *
  obtain ⟨before, opened⟩ := select_opens chips rests
  have through := strobes_through chipKind
    ([true, false, true] ++ highBits address addrLen) opened.rests opened.only
  obtain ⟨resting, chain, devices⟩ := strobes_final chipKind
    ([true, false, true] ++ highBits address addrLen) opened.rests opened.only
  have early : ∀ seen, seen <+: [true, false, true] ++ highBits address addrLen →
      (sampledBits chipKind ⟨.id [], rams panel (i / 32)⟩ seen).ram = rams panel (i / 32) := by
    intro seen part
    have length := part.length_le
    simp only [List.length_append, List.length_cons, List.length_nil, highBits_length] at length
    unfold addrLen at length
    exact sample_short _ (by simp only [MatrixChip.seen, List.length_nil]; omega)
  rw [opened.chip, header_sampled _ small] at devices
  rw [bits, final_append]
  have alone := opened.only
  rw [← chain] at alone
  refine ⟨throughout_append before (throughout_mono ?_ through), resting, alone, ?_⟩
  · rintro passed ⟨seen, part, changed⟩
    rw [opened.chip] at changed
    rw [rams_update changed, early seen part, opened.rams, Function.update_eq_self]
  · rw [devices, Function.update_self]

theorem renderCell_turn {display : Display} {t : Fin 3} (shown : t ≠ bufferSecondary)
    {before : Nat → Nat → BitVec 4} {i : Nat} (inside : i < addrSpaceSize)
    {nChipOpen : Option Nat} {panel : Panel} (turn : Turn display t before i nChipOpen panel) :
    let now := renderCell t (display.globalNeedsRewriting t) (display.mem t) i nChipOpen
    Throughout (SelectChain.act chipKind) (fun passed => rams passed = drawn display t before i ∨
        rams passed = drawn display t before (i + 1)) panel now.1 ∧
      Turn display t before (i + 1) now.2 (final (SelectChain.act chipKind) panel now.1) := by
  have kind := Bool.eq_false_or_eq_true (needs display t i)
  -- Three cases: the chip of the cell is open, it has to be opened, or the cell is calm and
  -- closes whatever is open.
  rcases kind with rewrite | calm
  · by_cases open_ : nChipOpen = some (i / 32 + 1)
    · have word : renderCell t (display.globalNeedsRewriting t) (display.mem t) i nChipOpen =
          (writeDataRev (load (display.mem t) i).toNat wordLen, some (i / 32 + 1)) := by
        unfold needs at rewrite
        simp [renderCell, rewrite, open_]
      obtain ⟨c, _, same, only, low, high, phase⟩ := turn.opened _ open_
      have chip : c = i / 32 := by omega
      subst chip
      have address : i - i / 32 * 32 + t * 32 = i % 32 + t * 32 := by omega
      rw [address] at phase
      rw [word]
      exact word_stored inside rewrite ⟨turn.rests, only, phase⟩ turn.rams
    · have word : renderCell t (display.globalNeedsRewriting t) (display.mem t) i nChipOpen =
          (header t i ++ writeDataRev (load (display.mem t) i).toNat wordLen,
            some (i / 32 + 1)) := by
        unfold needs at rewrite
        simp [renderCell, rewrite, open_, header]
      obtain ⟨through, waits⟩ := header_opens shown inside turn.rests
      have same : rams (final (SelectChain.act chipKind) panel (header t i)) =
          drawn display t before i := (throughout_end through).trans turn.rams
      obtain ⟨stored, next⟩ := word_stored inside rewrite waits same
      rw [word]
      dsimp only
      rw [final_append]
      refine ⟨throughout_append (throughout_mono ?_ through) stored, next⟩
      exact fun passed kept => .inl (kept.trans turn.rams)
  · have quiet : ∃ writes, Silent writes ∧
        renderCell t (display.globalNeedsRewriting t) (display.mem t) i nChipOpen =
          (writes, none) := by
      unfold needs at calm
      refine ⟨if nChipOpen = none then [] else select 0, ?_, by simp [renderCell, calm]⟩
      split
      · exact silent_nil
      · exact select_none_silent
    obtain ⟨writes, silent, word⟩ := quiet
    obtain ⟨through, rests⟩ := silent panel turn.rests
    have same : rams (final (SelectChain.act chipKind) panel writes) = drawn display t before i :=
      (throughout_end through).trans turn.rams
    rw [word]
    refine ⟨throughout_mono ?_ through, rests, ?_, nofun⟩
    · exact fun passed kept => .inl (kept.trans turn.rams)
    · rw [drawn_skip calm]
      exact same

/-- The loop, from the cell `i` on. -/
theorem renderFrom_draws {display : Display} {t : Fin 3} (shown : t ≠ bufferSecondary)
    {before : Nat → Nat → BitVec 4} (count i : Nat) (whole : i + count = addrSpaceSize)
    {nChipOpen : Option Nat} {panel : Panel} (turn : Turn display t before i nChipOpen panel) :
    let writes := renderFrom t (display.globalNeedsRewriting t) (display.mem t) count i nChipOpen
    Throughout (SelectChain.act chipKind)
        (fun passed => ∃ k, rams passed = drawn display t before k) panel writes ∧
      Rests (final (SelectChain.act chipKind) panel writes).levels ∧
      rams (final (SelectChain.act chipKind) panel writes) =
        drawn display t before addrSpaceSize := by
  induction count generalizing i nChipOpen panel with
  | zero =>
      have close : Silent (if nChipOpen = none then [] else select 0) := by
        split
        · exact silent_nil
        · exact select_none_silent
      obtain ⟨through, rests⟩ := close panel turn.rests
      have last : i = addrSpaceSize := whole
      have same := (throughout_end through).trans turn.rams
      rw [last] at same
      exact ⟨throughout_mono (fun _ kept => ⟨i, kept.trans turn.rams⟩) through, rests, same⟩
  | succ count ih =>
      obtain ⟨through, next⟩ := renderCell_turn shown (by omega : i < addrSpaceSize) turn
      obtain ⟨later, rests, same⟩ := ih (i + 1) (by omega) next
      simp only [renderFrom, final_append]
      refine ⟨throughout_append (throughout_mono ?_ through) later, rests, same⟩
      rintro passed (kept | stored)
      · exact ⟨i, kept⟩
      · exact ⟨i + 1, stored⟩

/-! ### A board after `render` -/

theorem drawn_at (display : Display) (t : Fin 3) (before : Nat → Nat → BitVec 4) (k i : Nat) :
    drawn display t before k (i / 32) (i % 32 + t * 32) =
      if i < k ∧ needs display t i = true then lowNibble (load (display.mem t) i)
      else before (i / 32) (i % 32 + t * 32) := by
  have cell : i / 32 * 32 + (i % 32 + t * 32 - t * 32) = i := by omega
  have board : t * 32 ≤ i % 32 + (t : Nat) * 32 ∧ i % 32 + (t : Nat) * 32 < t * 32 + 32 := by omega
  rw [drawn, cell]
  simp only [board.1, board.2, true_and]

theorem drawn_elsewhere (display : Display) {t s : Fin 3} (other : s ≠ t)
    (before : Nat → Nat → BitVec 4) (k c i : Nat) :
    drawn display t before k c (i % 32 + s * 32) = before c (i % 32 + s * 32) := by
  have apart : s.val ≠ t.val := fun same => other (Fin.ext same)
  have out : ¬ (t * 32 ≤ i % 32 + (s : Nat) * 32 ∧ i % 32 + (s : Nat) * 32 < t * 32 + 32) := by
    omega
  rw [drawn, if_neg]
  exact fun inside => out ⟨inside.1, inside.2.1⟩

/-- A board that is shown. -/
def Shown (world : World) (t : Fin 3) : Prop := ∀ i < addrSpaceSize, Shows world t i

theorem drawn_covered {world : World} (covered : Covered world) (t : Fin 3) {k : Nat}
    {panel : Panel} (same : rams panel = drawn world.display t (rams world.panel) k) :
    Covered { world with panel } := by
  intro s shown i inside
  rcases covered s shown i inside with rewrite | shows
  · exact .inl rewrite
  · refine .inr ?_
    unfold Shows at shows ⊢
    rw [same]
    by_cases here : s = t
    · subst here
      rw [drawn_at]
      split
      · rfl
      · exact shows
    · rw [drawn_elsewhere _ here]
      exact shows

/-- After the loop the board is shown, and the others are as they were. -/
theorem drawn_shown {world : World} (covered : Covered world) {t : Fin 3}
    (shown : t ≠ bufferSecondary) {panel : Panel}
    (same : rams panel = drawn world.display t (rams world.panel) addrSpaceSize) :
    Shown { world with panel } t ∧
      ∀ s ≠ t, ∀ i, Shows world s i → Shows { world with panel } s i := by
  refine ⟨fun i inside => ?_, fun s other i shows => ?_⟩
  · unfold Shows
    rw [same, drawn_at]
    split
    · rfl
    · rename_i calm
      rcases covered t shown i inside with rewrite | shows
      · exact absurd ⟨inside, rewrite⟩ calm
      · exact shows
  · unfold Shows at shows ⊢
    rw [same, drawn_elsewhere _ other]
    exact shows

theorem withGlobal_covered {world : World} (covered : Covered world) {t : Fin 3}
    (shown : Shown world t) :
    Covered { world with display := withGlobal world.display t false } := by
  intro s board i inside
  by_cases here : s = t
  · subst here
    exact .inr (shown i inside)
  · have same : needs (withGlobal world.display t false) s i = needs world.display s i := by
      simp [needs, withGlobal, here]
    rcases covered s board i inside with rewrite | shows
    · exact .inl (same.trans rewrite)
    · exact .inr shows

/-- The pin writes of `render`. -/
def renderWrites (display : Display) (t : Fin 3) : List (Write Line) :=
  select 0 ++ renderFrom t (display.globalNeedsRewriting t) (display.mem t) addrSpaceSize 0 none

theorem renderWrites_draw {world : World} (rests : Rests world.panel.levels) {t : Fin 3}
    (board : t ≠ bufferSecondary) :
    Throughout (SelectChain.act chipKind)
        (fun passed => ∃ k, rams passed = drawn world.display t (rams world.panel) k)
        world.panel (renderWrites world.display t) ∧
      Rests (final (SelectChain.act chipKind) world.panel (renderWrites world.display t)).levels ∧
      rams (final (SelectChain.act chipKind) world.panel (renderWrites world.display t)) =
        drawn world.display t (rams world.panel) addrSpaceSize := by
  obtain ⟨through, calm⟩ := select_none_silent world.panel rests
  have start : ∀ passed : Panel, rams passed = rams world.panel →
      rams passed = drawn world.display t (rams world.panel) 0 := by
    intro passed same
    rw [same, drawn_zero]
  have turn : Turn world.display t (rams world.panel) 0 none
      (final (SelectChain.act chipKind) world.panel (select 0)) :=
    ⟨calm, start _ (throughout_end through), nofun⟩
  obtain ⟨later, resting, same⟩ := renderFrom_draws board addrSpaceSize 0 (Nat.zero_add _) turn
  rw [renderWrites, final_append]
  have early := throughout_mono (fun passed kept => (⟨0, start passed kept⟩ :
    ∃ k, rams passed = drawn world.display t (rams world.panel) k)) through
  exact ⟨throughout_append early later, resting, same⟩

/-- `render` of a board, from its first pin write to its last statement. -/
theorem render_board {world : World} (good : Good world) {t : Fin 3}
    (target : world.display.tgtBuffer = some t) (board : t ≠ bufferSecondary) :
    Throughout World.act Covered world (render world.display) ∧
      Good (after render world) ∧ Shown (after render world) t ∧
      (∀ s ≠ t, ∀ i, Shows world s i → Shows (after render world) s i) ∧
      (after render world).display = withGlobal world.display t false := by
  have method : render world.display = block [pins (renderWrites world.display t),
      change fun display => withGlobal display t false] world.display := by
    simp only [render, target, if_neg board, renderWrites]
  obtain ⟨through, resting, same⟩ := renderWrites_draw good.rests board
  have pinned := pins_after (renderWrites world.display t) world
  have covers := pins_through (throughout_mono (fun panel ⟨k, stored⟩ =>
    (drawn_covered good.covered t stored : Covered { world with panel })) through)
  generalize final (SelectChain.act chipKind) world.panel (renderWrites world.display t) = panel
    at resting same pinned
  obtain ⟨shown, others⟩ := drawn_shown good.covered board same
  have drawnCovered := drawn_covered good.covered t same
  have covered := withGlobal_covered drawnCovered shown
  have done : after render world = ⟨withGlobal world.display t false, panel⟩ := by
    have both : after (block [pins (renderWrites world.display t),
        change fun display => withGlobal display t false]) world =
          ⟨withGlobal world.display t false, panel⟩ := by
      rw [after_block_cons, pinned, after_block_cons, after_block_nil, after_change]
    exact (congrArg (final World.act world) method).trans both
  rw [done, method]
  refine ⟨block_through covers ?_, ⟨resting, covered⟩, shown, others, rfl⟩
  rw [pinned]
  exact ⟨drawnCovered, covered⟩

end OClock.MatrixRefresh
