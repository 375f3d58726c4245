import Mathlib.Logic.Function.Basic
import Mathlib.Tactic.Linarith

/-!
A map whose entries vanish by themselves. The map keeps a clock and, for each
key, the moment its value vanishes; a lookup never sees a vanished value. What a
client can ever learn of the map is the lease of each key: its value and the
ticks it still has.
-/

namespace OClock.ExpiringMap

universe u v
variable {κ : Type u} {α : Type v}

structure Lease (α : Type v) where
  value : α
  left : Option Nat

/-- A lease one tick later. -/
def Lease.age (lease : Lease α) : Option (Lease α) :=
  match lease.left with
  | none => some lease
  | some left => if 1 < left then some { lease with left := some (left - 1) } else none

structure Entry (α : Type v) where
  value : α
  deadline : Option Nat

/-- What an entry still has at the moment `now`. -/
def Entry.lease (now : Nat) (entry : Entry α) : Option (Lease α) :=
  match entry.deadline with
  | none => some ⟨entry.value, none⟩
  | some deadline => if now < deadline then some ⟨entry.value, some (deadline - now)⟩ else none

structure TimedMap (κ : Type u) (α : Type v) where
  now : Nat
  entries : κ → Option (Entry α)

def empty : TimedMap κ α := ⟨0, fun _ => none⟩

def lease (map : TimedMap κ α) (key : κ) : Option (Lease α) :=
  (map.entries key).bind (Entry.lease map.now)

def lookup (map : TimedMap κ α) (key : κ) : Option α := (lease map key).map Lease.value

/-- The value stays for `duration` ticks, or for ever. -/
def insert [DecidableEq κ] (map : TimedMap κ α) (key : κ) (value : α)
    (duration : Option Nat) : TimedMap κ α :=
  { map with entries :=
      Function.update map.entries key (some ⟨value, duration.map (map.now + ·)⟩) }

def erase [DecidableEq κ] (map : TimedMap κ α) (key : κ) : TimedMap κ α :=
  { map with entries := Function.update map.entries key none }

def clear (map : TimedMap κ α) : TimedMap κ α := { map with entries := fun _ => none }

def advance (map : TimedMap κ α) : TimedMap κ α := { map with now := map.now + 1 }

/-! Each operation as a change of the leases. -/

theorem lease_empty : lease (empty : TimedMap κ α) = fun _ => none := rfl

theorem lease_insert [DecidableEq κ] (map : TimedMap κ α) (key : κ) (value : α)
    (duration : Option Nat) (lasting : ∀ ticks, duration = some ticks → 0 < ticks) :
    lease (insert map key value duration) =
      Function.update (lease map) key (some ⟨value, duration⟩) := by
  funext other
  by_cases hit : other = key
  · subst hit
    cases duration with
    | none => simp [lease, insert, Entry.lease]
    | some ticks =>
        have positive := lasting ticks rfl
        simp [lease, insert, Entry.lease, positive]
  · simp [lease, insert, hit]

theorem lease_erase [DecidableEq κ] (map : TimedMap κ α) (key : κ) :
    lease (erase map key) = Function.update (lease map) key none := by
  funext other
  by_cases hit : other = key
  · subst hit
    simp [lease, erase]
  · simp [lease, erase, hit]

theorem lease_clear (map : TimedMap κ α) : lease (clear map) = fun _ => none := rfl

theorem lease_advance (map : TimedMap κ α) :
    lease (advance map) = fun key => (lease map key).bind Lease.age := by
  funext key
  cases stored : map.entries key with
  | none => simp [lease, advance, stored]
  | some entry =>
      cases timed : entry.deadline with
      | none => simp [lease, advance, stored, Entry.lease, timed, Lease.age]
      | some deadline =>
          simp only [lease, advance, stored, Option.bind_some, Entry.lease, timed]
          by_cases still : map.now + 1 < deadline
          · have more : 1 < deadline - map.now := by omega
            have rest : deadline - (map.now + 1) = deadline - map.now - 1 := by omega
            have alive : map.now < deadline := by omega
            simp [still, alive, Lease.age, more, rest]
          · by_cases alive : map.now < deadline
            · have last : ¬ 1 < deadline - map.now := by omega
              simp [still, alive, Lease.age, last]
            · simp [still, alive]

/-! A value vanishes at its deadline and at no other tick. -/

def advances (map : TimedMap κ α) : Nat → TimedMap κ α
  | 0 => map
  | ticks + 1 => advance (advances map ticks)

theorem advances_eq (map : TimedMap κ α) (ticks : Nat) :
    advances map ticks = { map with now := map.now + ticks } := by
  induction ticks with
  | zero => rfl
  | succ ticks ih => rw [advances, ih, advance, Nat.add_assoc]

theorem lookup_later [DecidableEq κ] (map : TimedMap κ α) (key : κ) (value : α)
    (duration ticks : Nat) :
    lookup (advances (insert map key value (some duration)) ticks) key =
      if ticks < duration then some value else none := by
  rw [advances_eq]
  by_cases still : ticks < duration <;> simp [lookup, lease, insert, Entry.lease, still]

theorem lookup_for_ever [DecidableEq κ] (map : TimedMap κ α) (key : κ) (value : α)
    (ticks : Nat) : lookup (advances (insert map key value none) ticks) key = some value := by
  rw [advances_eq]
  simp [lookup, lease, insert, Entry.lease]

/-! The next key. -/

section Order
variable [Ord κ]

/-- `next` is the least key above `key` among the present ones. -/
structure IsNext (present : κ → Option α) (key next : κ) (value : α) : Prop where
  here : present next = some value
  above : compare key next = .lt
  least : ∀ other stored, present other = some stored → compare key other = .lt →
    compare other next ≠ .lt

/-- There is no present key above `key`. -/
def IsLast (present : κ → Option α) (key : κ) : Prop :=
  ∀ other stored, present other = some stored → compare key other ≠ .lt

theorem IsNext.not_last {present : κ → Option α} {key next : κ} {value : α}
    (step : IsNext present key next value) : ¬ IsLast present key :=
  fun last => last next value step.here step.above

open Classical in
noncomputable def next (present : κ → Option α) (key : κ) : Option (κ × α) :=
  if step : ∃ found : κ × α, IsNext present key found.1 found.2 then some step.choose else none

theorem next_of_isLast {present : κ → Option α} {key : κ} (last : IsLast present key) :
    next present key = none := by
  rw [next, dif_neg]
  rintro ⟨found, step⟩
  exact step.not_last last

variable [Std.LawfulEqOrd κ] [Std.TransOrd κ]

theorem IsNext.unique {present : κ → Option α} {key left right : κ} {first second : α}
    (one : IsNext present key left first) (two : IsNext present key right second) :
    left = right ∧ first = second := by
  have below := two.least left first one.here one.above
  have above := one.least right second two.here two.above
  have same : left = right := by
    cases order : compare left right with
    | lt => exact absurd order below
    | eq => exact Std.LawfulEqOrd.eq_of_compare order
    | gt => exact absurd (Std.OrientedCmp.lt_of_gt order) above
  subst same
  exact ⟨rfl, Option.some.inj (one.here.symm.trans two.here)⟩

theorem next_of_isNext {present : κ → Option α} {key found : κ} {value : α}
    (step : IsNext present key found value) : next present key = some (found, value) := by
  have some_step : ∃ found : κ × α, IsNext present key found.1 found.2 := ⟨(found, value), step⟩
  rw [next, dif_pos some_step]
  obtain ⟨sameKey, sameValue⟩ := some_step.choose_spec.unique step
  exact congrArg some (Prod.ext sameKey sameValue)

end Order

end OClock.ExpiringMap
