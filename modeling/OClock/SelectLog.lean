import OClock.SelectChain

/-!
Devices on a select chain that record what they sample, a transaction for each time they
are selected. Pin writes that select devices and send them bits are told by the sessions
they hold.
-/

namespace OClock.SelectLog
open SerialLine SelectChain Trace

structure Logged (Device : Type) where
  device : Device
  past : List (List Bool)
  current : List Bool

variable {Device : Type} {count : Nat}

def logging (kind : Kind Device) : Kind (Logged Device) where
  start logged := ⟨kind.start logged.device, logged.past ++ [logged.current], []⟩
  sample bit logged := ⟨kind.sample bit logged.device, logged.past, logged.current ++ [bit]⟩

/-- A bus whose devices have recorded nothing. -/
def logged (bus : Bus Device count) : Bus (Logged Device) count :=
  ⟨bus.levels, bus.chain, fun i => ⟨bus.devices i, [], []⟩⟩

def forget (bus : Bus (Logged Device) count) : Bus Device count :=
  ⟨bus.levels, bus.chain, fun i => (bus.devices i).device⟩

/-- The transactions in which a device has sampled anything. -/
def transactions (logged : Logged Device) : List (List Bool) :=
  (logged.past ++ [logged.current]).filter fun bits => !bits.isEmpty

variable {kind : Kind Device}

/-- The record changes nothing for the devices. -/
theorem forget_act (kind : Kind Device) (bus : Bus (Logged Device) count) (write : Write Line) :
    forget (act (logging kind) bus write) = act kind (forget bus) write := by
  unfold act
  by_cases clock : rises .clk bus.levels write = true
  · have same : rises .clk (forget bus).levels write = true := clock
    rw [if_pos clock, if_pos same]
    unfold forget shifted
    congr 1
    funext i
    dsimp only
    split <;> rfl
  · have other : ¬rises .clk (forget bus).levels write = true := clock
    rw [if_neg clock, if_neg other]
    by_cases strobe : rises .wr bus.levels write = true
    · have same : rises .wr (forget bus).levels write = true := strobe
      rw [if_pos strobe, if_pos same]
      unfold forget strobed
      congr 1
      funext i
      dsimp only
      split <;> rfl
    · have still : ¬rises .wr (forget bus).levels write = true := strobe
      rw [if_neg strobe, if_neg still]
      rfl

theorem forget_final (kind : Kind Device) (bus : Bus (Logged Device) count)
    (writes : List (Write Line)) :
    forget (final (act (logging kind)) bus writes) = final (act kind) (forget bus) writes := by
  induction writes generalizing bus with
  | nil => rfl
  | cons write rest ih => rw [final_cons, final_cons, ih, forget_act]

theorem transactions_start (logged : Logged Device) :
    transactions ((logging kind).start logged) = transactions logged := by
  unfold transactions logging
  rw [List.filter_append]
  exact List.append_nil _

theorem sampledBits_logging (kind : Kind Device) (bits : List Bool) (logged : Logged Device) :
    sampledBits (logging kind) logged bits =
      ⟨sampledBits kind logged.device bits, logged.past, logged.current ++ bits⟩ := by
  induction bits generalizing logged with
  | nil => simp [sampledBits]
  | cons bit rest ih =>
      have next := ih ((logging kind).sample bit logged)
      unfold sampledBits at next ⊢
      rw [List.foldl_cons, next]
      simp [logging]

/-! ### Sessions -/

/-- Bits for one device, or a moment at which no device is selected. -/
abbrev Item := Option (Nat × List Bool)

def spoken (count : Nat) : Item → List (Write Line)
  | none => unselect count
  | some (c, bits) => unselect count ++ choose c ++ strobes bits

def talk (count : Nat) (items : List Item) : List (Write Line) := items.flatMap (spoken count)

theorem talk_append (first second : List Item) :
    talk count (first ++ second) = talk count first ++ talk count second := List.flatMap_append

/-- The bits of an item that a device samples. -/
def heardIn (c : Nat) : Item → List (List Bool)
  | none => []
  | some (other, bits) => if other = c ∧ bits ≠ [] then [bits] else []

def heard (c : Nat) (items : List Item) : List (List Bool) := items.flatMap (heardIn c)

theorem heard_append (c : Nat) (first second : List Item) :
    heard c (first ++ second) = heard c first ++ heard c second := List.flatMap_append

/-- Every item is for a device of the chain. -/
def Within (count : Nat) (items : List Item) : Prop :=
  ∀ c bits, some (c, bits) ∈ items → c < count

/-- While the strobe is high, exactly one device is selected. -/
def OneStrobed (bus : Bus Device count) : Prop :=
  bus.levels .wr = true → ∃ c < count, Only bus.chain c

theorem act_levels (kind : Kind Device) (bus : Bus Device count) (write : Write Line) :
    (act kind bus write).levels = drive bus.levels write := rfl

theorem unstrobed_low (kind : Kind Device) {writes : List (Write Line)}
    (unstrobed : ∀ write ∈ writes, write.line ≠ .wr) {bus : Bus Device count}
    (low : bus.levels .wr = false) :
    Throughout (act kind) (fun passed => passed.levels .wr = false) bus writes := by
  induction writes generalizing bus with
  | nil => exact low
  | cons write rest ih =>
      refine ⟨low, ih (fun other member => unstrobed other (List.mem_cons_of_mem write member)) ?_⟩
      rw [act_levels]
      exact (drive_other (unstrobed write List.mem_cons_self).symm bus.levels write.level).trans low

theorem unclocked_chain (kind : Kind Device) {writes : List (Write Line)}
    (unclocked : ∀ write ∈ writes, write.line ≠ .clk) (bus : Bus Device count) :
    Throughout (act kind) (fun passed => passed.chain = bus.chain) bus writes := by
  induction writes generalizing bus with
  | nil => rfl
  | cons write rest ih =>
      have calm : rises .clk bus.levels write = false := by
        simp [rises, unclocked write List.mem_cons_self]
      have same : (act kind bus write).chain = bus.chain := by
        simp only [act, calm, Bool.false_eq_true, if_false]
        split <;> rfl
      refine ⟨rfl, throughout_mono (fun passed kept => kept.trans same) (ih ?_ _)⟩
      exact fun other member => unclocked other (List.mem_cons_of_mem write member)

theorem strobes_unclocked (bits : List Bool) : ∀ write ∈ strobes bits, write.line ≠ Line.clk := by
  intro write member
  obtain ⟨bit, _, inside⟩ := List.mem_flatMap.mp member
  simp only [strobe, pulse, List.mem_cons, List.not_mem_nil, or_false] at inside
  rcases inside with rfl | rfl | rfl <;> simp

theorem unstrobed_quiet (kind : Kind Device) {writes : List (Write Line)}
    (unstrobed : ∀ write ∈ writes, write.line ≠ .wr) {bus : Bus (Logged Device) count}
    (rests : Rests bus.levels) :
    Throughout (act (logging kind)) OneStrobed bus writes ∧
      ∀ c, transactions ((final (act (logging kind)) bus writes).devices c) =
        transactions (bus.devices c) := by
  refine ⟨throughout_mono ?_ (unstrobed_low (logging kind) unstrobed rests.wr), ?_⟩
  · intro passed low high
    rw [low] at high
    cases high
  · exact throughout_end (unstrobed_views transactions transactions_start writes unstrobed bus)

/-- After an item: the strobe and the clock rest, and each device has heard what was for it. -/
structure Said (bus : Bus (Logged Device) count) (items : List Item)
    (done : Bus (Logged Device) count) : Prop where
  rests : Rests done.levels
  heard : ∀ c, transactions (done.devices c) = transactions (bus.devices c) ++ heard c items

theorem transactions_heard {start : Logged Device} (bits : List Bool)
    (fresh : start.current = []) :
    transactions (sampledBits (logging kind) start bits) =
      transactions start ++ if bits ≠ [] then [bits] else [] := by
  rw [sampledBits_logging]
  unfold transactions
  rw [fresh, List.nil_append, List.filter_append, List.filter_append, List.append_assoc]
  cases bits <;> rfl

/-- One session: the device is selected, and all other devices hear nothing. -/
theorem session_said (kind : Kind Device) {c : Nat} (inside : c < count) (bits : List Bool)
    {bus : Bus (Logged Device) count} (rests : Rests bus.levels) :
    Throughout (act (logging kind)) OneStrobed bus (spoken count (some (c, bits))) ∧
      Said bus [some (c, bits)]
        (final (act (logging kind)) bus (spoken count (some (c, bits)))) := by
  have unstrobed : ∀ write ∈ unselect count ++ choose c, write.line ≠ .wr := by
    intro write member
    exact (List.mem_append.mp member).elim (unselect_unstrobed count write)
      (choose_unstrobed c write)
  obtain ⟨early, same⟩ := unstrobed_quiet kind unstrobed rests
  obtain ⟨calm, none⟩ := unselect_final (logging kind) rests
  obtain ⟨resting, chosen⟩ := choose_final (logging kind) calm none inside
  rw [← final_append] at resting chosen
  have chain := unclocked_chain (logging kind) (strobes_unclocked bits)
    (final (act (logging kind)) bus (unselect count ++ choose c))
  obtain ⟨silent, _, devices⟩ := strobes_final (logging kind) bits resting chosen.only
  have one : Throughout (act (logging kind)) OneStrobed
      (final (act (logging kind)) bus (unselect count ++ choose c)) (strobes bits) :=
    throughout_mono (fun _ kept _ => ⟨c, inside, kept ▸ chosen.only⟩) chain
  obtain ⟨device, started⟩ := chosen.started
  unfold spoken
  rw [final_append]
  refine ⟨throughout_append early one, silent, fun other => ?_⟩
  rw [devices]
  -- The selection that opened the session started an empty transaction.
  by_cases hit : c = other
  · subst hit
    have fresh : ((final (act (logging kind)) bus (unselect count ++ choose c)).devices
        c).current = [] := by
      rw [started]
      rfl
    rw [Function.update_self, transactions_heard bits fresh, same]
    by_cases empty : bits = [] <;> simp [SelectLog.heard, heardIn, empty]
  · rw [Function.update_of_ne (Ne.symm hit), same]
    simp [SelectLog.heard, heardIn, hit]

theorem item_said (kind : Kind Device) {item : Item} (inside : Within count [item])
    {bus : Bus (Logged Device) count} (rests : Rests bus.levels) :
    Throughout (act (logging kind)) OneStrobed bus (spoken count item) ∧
      Said bus [item] (final (act (logging kind)) bus (spoken count item)) := by
  cases item with
  | none =>
      obtain ⟨quiet, same⟩ := unstrobed_quiet kind (unselect_unstrobed count) rests
      refine ⟨quiet, (unselect_final (logging kind) rests).1, fun c => ?_⟩
      exact (same c).trans (List.append_nil _).symm
  | some session =>
      obtain ⟨c, bits⟩ := session
      exact session_said kind (inside c bits (List.mem_singleton.mpr rfl)) bits rests

theorem talk_said (kind : Kind Device) {items : List Item} (inside : Within count items)
    {bus : Bus (Logged Device) count} (rests : Rests bus.levels) :
    Throughout (act (logging kind)) OneStrobed bus (talk count items) ∧
      Said bus items (final (act (logging kind)) bus (talk count items)) := by
  induction items generalizing bus with
  | nil =>
      refine ⟨fun high => ?_, rests, fun c => (List.append_nil _).symm⟩
      rw [rests.wr] at high
      cases high
  | cons item rest ih =>
      have first : Within count [item] := fun c bits member =>
        inside c bits (List.mem_singleton.mp member ▸ List.mem_cons_self)
      obtain ⟨early, said⟩ := item_said kind first rests
      obtain ⟨late, done⟩ := ih (fun c bits member =>
        inside c bits (List.mem_cons_of_mem item member)) said.rests
      have split : talk count (item :: rest) = spoken count item ++ talk count rest :=
        List.flatMap_cons
      rw [split, final_append]
      refine ⟨throughout_append early late, done.rests, fun c => ?_⟩
      rw [done.heard, said.heard, List.append_assoc, ← heard_append]
      rfl

/-- A talk that ends with no device selected. -/
def Closed (items : List Item) : Prop := ∃ before, items = before ++ [none]

theorem talk_closed (kind : Kind Device) {items : List Item} (closed : Closed items)
    (inside : Within count items) {bus : Bus (Logged Device) count} (rests : Rests bus.levels) :
    Unselected (final (act (logging kind)) bus (talk count items)).chain := by
  obtain ⟨before, rfl⟩ := closed
  have early : Within count before := fun c bits member =>
    inside c bits (List.mem_append_left [none] member)
  have middle := (talk_said kind early rests).2.rests
  rw [talk_append, final_append]
  have last : talk count [none] = unselect count := List.append_nil _
  rw [last]
  exact (unselect_final (logging kind) middle).2

theorem closed_append {first second : List Item} (closed : Closed second) :
    Closed (first ++ second) := by
  obtain ⟨before, rfl⟩ := closed
  exact ⟨first ++ before, (List.append_assoc ..).symm⟩

end OClock.SelectLog
