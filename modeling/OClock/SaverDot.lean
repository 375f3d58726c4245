import OClock.FacePicture
import OClock.FaceUpdates

/-!
The pixel of the empty mode: it walks over all pixels in all colors, and it is all that there is.
-/

namespace OClock.SaverDot
open Ht1632 MatrixPixels DrawCalls ClockFace FrameBuffers FacePicture FaceUpdates
open DisplayInternal (displayColorYellow)

/-! ### The walk -/

/-- The colors change first, then the rows of the source, which are the columns of the panel. -/
def dotAt (n : Nat) : Saver := ⟨(n / 3 % 128 : Nat), (n / 384 % 16 : Nat), UInt8.ofNat (n % 3)⟩

def saverPeriod : Nat := 6144

theorem dotAt_initial : dotAt 0 = Saver.initial := rfl

theorem color_of {n color : Nat} (same : n % 3 = color) : (dotAt n).color = UInt8.ofNat color :=
  congrArg UInt8.ofNat same

theorem color_next {n : Nat} (stays : ¬ (n + 1) % 3 = 0) :
    (dotAt n).color + 1 = UInt8.ofNat ((n + 1) % 3) ∧
      ¬ (dotAt n).color + 1 > UInt8.ofNat displayColorYellow.toNat := by
  have cases : n % 3 = 0 ∨ n % 3 = 1 := by omega
  rcases cases with same | same
  · have next : (n + 1) % 3 = 1 := by omega
    rw [color_of same, next]
    decide
  · have next : (n + 1) % 3 = 2 := by omega
    rw [color_of same, next]
    decide

theorem color_wraps {n : Nat} (wraps : (n + 1) % 3 = 0) :
    (dotAt n).color + 1 > UInt8.ofNat displayColorYellow.toNat := by
  have same : n % 3 = 2 := by omega
  rw [color_of same]
  decide

/-- One turn of the statics is one step of the walk. -/
theorem dotAt_next (n : Nat) : (dotAt n).next = dotAt (n + 1) := by
  unfold Saver.next
  dsimp only
  by_cases wraps : (n + 1) % 3 = 0
  · rw [if_pos (color_wraps wraps)]
    by_cases row : n / 3 % 128 = 127
    · have beyond : (dotAt n).row + 1 ≥ Fonts.outSize := by
        change ((n / 3 % 128 : Nat) : Int) + 1 ≥ 128
        omega
      rw [if_pos beyond]
      by_cases col : n / 384 % 16 = 15
      · have start : (dotAt n).col + 1 ≥ Fonts.comSize := by
          change ((n / 384 % 16 : Nat) : Int) + 1 ≥ 16
          omega
        have first : (n + 1) / 3 % 128 = 0 ∧ (n + 1) / 384 % 16 = 0 := by omega
        rw [if_pos start, dotAt, wraps, first.1, first.2]
        rfl
      · have further : ¬ (dotAt n).col + 1 ≥ Fonts.comSize := by
          change ¬ ((n / 384 % 16 : Nat) : Int) + 1 ≥ 16
          omega
        have next : (n + 1) / 3 % 128 = 0 ∧ (n + 1) / 384 % 16 = n / 384 % 16 + 1 := by omega
        rw [if_neg further, dotAt, dotAt, wraps, next.1, next.2]
        rfl
    · have under : ¬ (dotAt n).row + 1 ≥ Fonts.outSize := by
        change ¬ ((n / 3 % 128 : Nat) : Int) + 1 ≥ 128
        omega
      have next : (n + 1) / 3 % 128 = n / 3 % 128 + 1 ∧ (n + 1) / 384 % 16 = n / 384 % 16 := by
        omega
      rw [if_neg under, dotAt, dotAt, wraps, next.1, next.2]
      rfl
  · obtain ⟨color, stays⟩ := color_next wraps
    have next : (n + 1) / 3 % 128 = n / 3 % 128 ∧ (n + 1) / 384 % 16 = n / 384 % 16 := by omega
    rw [if_neg stays, color, dotAt, dotAt, next.1, next.2]

/-- Within a period the walk comes to each pixel in each color, and only once. -/
theorem dotAt_visits (n : Nat) (x : Fin 128) (y : Fin 16) (color : Fin 3) :
    ∃! i, i < saverPeriod ∧ dotAt (n + i) = ⟨(x : Nat), (y : Nat), UInt8.ofNat color⟩ := by
  have spot : ∀ m, dotAt m = ⟨(x : Nat), (y : Nat), UInt8.ofNat color⟩ ↔
      m % saverPeriod = 3 * (x.val + 128 * y.val) + color.val := by
    intro m
    have shade : UInt8.ofNat (m % 3) = UInt8.ofNat color.val ↔ m % 3 = color.val := by
      have small := color.isLt
      rw [← UInt8.toNat_inj, UInt8.toNat_ofNat', UInt8.toNat_ofNat']
      omega
    have inside := x.isLt
    have above := y.isLt
    have few := color.isLt
    unfold saverPeriod
    rw [dotAt, Saver.mk.injEq, shade]
    omega
  have total : 3 * (x.val + 128 * y.val) + color.val < saverPeriod := by
    have inside := x.isLt
    have above := y.isLt
    have few := color.isLt
    unfold saverPeriod
    omega
  refine ⟨(3 * (x.val + 128 * y.val) + color.val + saverPeriod - n % saverPeriod) % saverPeriod, ?_, ?_⟩
  · dsimp only
    rw [spot]
    unfold saverPeriod at total ⊢
    omega
  · rintro i ⟨small, there⟩
    rw [spot] at there
    unfold saverPeriod at total small there ⊢
    omega

/-! ### The picture -/

/-- Yellow is both green and red. -/
def Lights (saver : Saver) (point : Point) : Prop :=
  point.1 ≠ bufferSecondary ∧ (saver.color = UInt8.ofNat displayColorYellow.toNat ∨ saver.color = UInt8.ofNat point.1) ∧
    saver.row = (point.2.1 : Nat) ∧ saver.col = (point.2.2 : Nat)

variable {arrays : Fonts.FontArrays} {display : Display}

/-- The pixel of a board comes on top of what was there. -/
theorem saverBoard_lights (n : Nat) {t : Fin 3} (board : t ≠ bufferSecondary) (point : Point) :
    Lit (strokes arrays display (saverBoard (dotAt n) t)) point ↔
      Lit display point ∨ point.1 = t ∧ Lights (dotAt n) point := by
  unfold saverBoard
  split
  · next off =>
    constructor
    · exact Or.inl
    · rintro (lit | ⟨rfl, _, here, _⟩)
      · exact lit
      · exact (here.elim off.1 off.2).elim
  · next on =>
    have color : (dotAt n).color = UInt8.ofNat displayColorYellow.toNat ∨
        (dotAt n).color = UInt8.ofNat t := by
      by_contra neither
      exact on (not_or.mp neither)
    have painted := pixel_painted arrays ⟨n / 3 % 128, Nat.mod_lt _ (by decide)⟩
      ⟨n / 384 % 16, Nat.mod_lt _ (by decide)⟩ true
    have aimed : (stroke arrays display (.drawTarget (t : Nat))).tgtBuffer = some t := by
      change (setTarget (t : Nat) display).tgtBuffer = some t
      rw [MatrixRun.setTarget_board]
    have quiet : Quiet (.drawTarget (t : Nat)) := trivial
    have kept := quiet_mem arrays quiet display
    obtain ⟨s, x, y⟩ := point
    rw [Lit, Lit, ← kept]
    by_cases here : s = t ∧ x.val = n / 3 % 128 ∧ y.val = n / 384 % 16
    · obtain ⟨rfl, column, row⟩ := here
      have value := painted.inside _ s aimed x y ⟨Fin.ext column, Fin.ext row⟩
      constructor
      · intro _
        refine .inr ⟨rfl, board, color, ?_, ?_⟩
        · exact congrArg Int.ofNat column.symm
        · exact congrArg Int.ofNat row.symm
      · intro _
        exact value
    · have value := painted.outside _ t aimed s x y (by
        rintro ⟨board, column, row⟩
        exact here ⟨board, congrArg Fin.val column, congrArg Fin.val row⟩)
      constructor
      · intro lit
        exact .inl (value.symm.trans lit)
      · rintro (lit | ⟨same, _, _, column, row⟩)
        · exact value.trans lit
        · exact absurd ⟨same, (Int.ofNat.inj column).symm, (Int.ofNat.inj row).symm⟩ here

/-- There is nothing else on the panel. -/
theorem saver_lights (n : Nat) (point : Point) :
    Lit (strokes arrays display (saverCalls (dotAt n))) point ↔ Lights (dotAt n) point := by
  have calls : saverCalls (dotAt n) = [.clearAll] ++ saverBoard (dotAt n) (0 : Fin 3) ++
      saverBoard (dotAt n) (1 : Fin 3) ++ [.renderAll] := rfl
  have dark : ¬ Lit (stroke arrays display .clearAll) point := by
    intro lit
    obtain ⟨slot, -, call, none, -⟩ := ((clearAll_on arrays display).lit point).mp lit
    cases none
  have rendered : ∀ display : Display, Lit (strokes arrays display [.renderAll]) point ↔
      Lit display point := by
    intro display
    have quiet : Quiet .renderAll := trivial
    change Lit (stroke arrays display .renderAll) point ↔ _
    rw [Lit, quiet_mem arrays quiet, Lit]
  rw [calls, strokes_append, strokes_append, strokes_append, rendered,
    saverBoard_lights n (by decide), saverBoard_lights n (by decide)]
  constructor
  · rintro ((lit | ⟨-, here⟩) | ⟨-, here⟩)
    · exact absurd lit dark
    · exact here
    · exact here
  · intro here
    have boards : ∀ t : Fin 3, t ≠ bufferSecondary → t = 0 ∨ t = 1 := by decide
    rcases boards point.1 here.1 with green | red
    · exact .inl (.inr ⟨green, here⟩)
    · exact .inr ⟨red, here⟩

end OClock.SaverDot
