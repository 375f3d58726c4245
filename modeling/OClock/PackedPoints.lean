import Mathlib.Logic.Function.Basic

/-!
Points that share cells of a memory. Each point has an address and a place inside of the cell
there, and no two points have both in common. A store that sets one place of a cell and keeps
the others is an update of the points at one point.
-/

namespace OClock.PackedPoints

variable {Point Address Place Cell Value : Type*}

structure Packing (Point Address Place Cell Value : Type*) where
  address : Point → Address
  place : Point → Place
  look : Cell → Place → Value
  apart : ∀ first second, address first = address second → place first = place second →
    first = second

namespace Packing

variable (packing : Packing Point Address Place Cell Value)

/-- The value that the memory holds for a point. -/
def read (memory : Address → Cell) (point : Point) : Value :=
  packing.look (memory (packing.address point)) (packing.place point)

/-- One place of a cell is set, and the others stay. -/
structure Sets (place : Place) (value : Value) (before after : Cell) : Prop where
  here : packing.look after place = value
  others : ∀ other, other ≠ place → packing.look after other = packing.look before other

variable {packing}

theorem read_update [DecidableEq Point] [DecidableEq Address] {memory : Address → Cell}
    {point : Point} {cell : Cell} {value : Value}
    (sets : packing.Sets (packing.place point) value (memory (packing.address point)) cell) :
    packing.read (Function.update memory (packing.address point) cell) =
      Function.update (packing.read memory) point value := by
  funext other
  by_cases hit : other = point
  · subst hit
    simpa only [read, Function.update_self] using sets.here
  · rw [Function.update_of_ne hit, read, read]
    by_cases shared : packing.address other = packing.address point
    · have different : packing.place other ≠ packing.place point :=
        fun same => hit (packing.apart other point shared same)
      rw [shared, Function.update_self, sets.others _ different]
    · rw [Function.update_of_ne shared]

/-- A cell that shows the same at all places holds the same points. -/
theorem read_alike [DecidableEq Address] {memory : Address → Cell} {address : Address}
    {cell : Cell} (alike : ∀ place, packing.look cell place = packing.look (memory address) place) :
    packing.read (Function.update memory address cell) = packing.read memory := by
  funext point
  rw [read, read]
  by_cases hit : packing.address point = address
  · rw [hit, Function.update_self, alike]
  · rw [Function.update_of_ne hit]

/-- What is read of a memory that is wiped on some of its addresses. -/
theorem read_wiped {memory : Address → Cell} {wiped : Address → Prop} [DecidablePred wiped]
    {cell : Cell} {value : Value} (empty : ∀ place, packing.look cell place = value)
    (point : Point) :
    packing.read (fun address => if wiped address then cell else memory address) point =
      if wiped (packing.address point) then value else packing.read memory point := by
  rw [read, read]
  split
  · exact empty _
  · rfl

end Packing

end OClock.PackedPoints
