import Mathlib.Logic.Function.Basic

/-!
A picture made of parts, each of which has a region of its own. Painting a part anew changes
that part only, as long as the paint covers what the part showed before.
-/

namespace OClock.Overlay

universe u v

/-- Regions that do not meet. -/
structure Layout (Slot : Type u) (Point : Type v) where
  region : Slot → Point → Prop
  apart : ∀ first second point, region first point → region second point → first = second

variable {Slot : Type u} {Point : Type v}

/-- The picture is lit where one of the parts is, and no part leaves its region. -/
structure Layout.Shows (layout : Layout Slot Point) (ink : Slot → Point → Prop)
    (picture : Point → Prop) : Prop where
  within : ∀ slot point, ink slot point → layout.region slot point
  lit : ∀ point, picture point ↔ ∃ slot, ink slot point

variable {layout : Layout Slot Point} {ink : Slot → Point → Prop} {picture : Point → Prop}

theorem shows_dark (dark : ∀ point, ¬ picture point) :
    layout.Shows (fun _ _ => False) picture where
  within _ _ false := false.elim
  lit point := by
    constructor
    · intro lit
      exact absurd lit (dark point)
    · rintro ⟨_, false⟩
      exact false.elim

theorem Layout.Shows.congr (shows : layout.Shows ink picture) {other : Slot → Point → Prop}
    (same : ∀ slot point, ink slot point ↔ other slot point) : layout.Shows other picture where
  within slot point there := shows.within slot point ((same slot point).mpr there)
  lit point := (shows.lit point).trans (exists_congr fun slot => same slot point)

theorem Layout.Shows.same (shows : layout.Shows ink picture) {after : Point → Prop}
    (same : ∀ point, after point ↔ picture point) : layout.Shows ink after where
  within := shows.within
  lit point := (same point).trans (shows.lit point)

/-- In its own region a part is all that there is. -/
theorem Layout.Shows.inside (shows : layout.Shows ink picture) {slot : Slot} {point : Point}
    (here : layout.region slot point) : picture point ↔ ink slot point := by
  rw [shows.lit]
  constructor
  · rintro ⟨other, there⟩
    have same := layout.apart other slot point (shows.within other point there) here
    exact same ▸ there
  · intro there
    exact ⟨slot, there⟩

/-- Some points are wiped. -/
theorem Layout.Shows.wipe (shows : layout.Shows ink picture) {wiped after : Point → Prop}
    (dark : ∀ point, after point ↔ picture point ∧ ¬ wiped point) :
    layout.Shows (fun slot point => ink slot point ∧ ¬ wiped point) after where
  within slot point there := shows.within slot point there.1
  lit point := by
    rw [dark, shows.lit]
    constructor
    · rintro ⟨⟨slot, there⟩, kept⟩
      exact ⟨slot, there, kept⟩
    · rintro ⟨slot, there, kept⟩
      exact ⟨⟨slot, there⟩, kept⟩

variable [DecidableEq Slot]

/-- A part is painted anew over an area of its region. -/
theorem Layout.Shows.paint (shows : layout.Shows ink picture) (slot : Slot)
    (area dots : Point → Prop) {after : Point → Prop} (fits : ∀ point, area point → layout.region slot point)
    (covers : ∀ point, ink slot point → area point)
    (inside : ∀ point, area point → (after point ↔ dots point))
    (outside : ∀ point, ¬ area point → (after point ↔ picture point)) :
    layout.Shows (Function.update ink slot fun point => area point ∧ dots point) after where
  within other point there := by
    by_cases own : other = slot
    · subst own
      rw [Function.update_self] at there
      exact fits point there.1
    · rw [Function.update_of_ne own] at there
      exact shows.within other point there
  lit point := by
    by_cases painted : area point
    · -- No other part has a dot where this one is painted.
      rw [inside point painted]
      constructor
      · intro dot
        exact ⟨slot, by rw [Function.update_self]; exact ⟨painted, dot⟩⟩
      · rintro ⟨other, there⟩
        by_cases own : other = slot
        · subst own
          rw [Function.update_self] at there
          exact there.2
        · rw [Function.update_of_ne own] at there
          exact absurd (layout.apart other slot point (shows.within other point there)
            (fits point painted)) own
    · rw [outside point painted, shows.lit]
      constructor
      · rintro ⟨other, there⟩
        by_cases own : other = slot
        · subst own
          exact absurd (covers point there) painted
        · exact ⟨other, by rwa [Function.update_of_ne own]⟩
      · rintro ⟨other, there⟩
        by_cases own : other = slot
        · subst own
          rw [Function.update_self] at there
          exact absurd there.1 painted
        · rw [Function.update_of_ne own] at there
          exact ⟨other, there⟩

end OClock.Overlay
