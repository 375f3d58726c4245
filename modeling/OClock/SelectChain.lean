import OClock.SerialLine
import OClock.Trace

/-!
Devices on one strobed data line, of which a shift register selects some. The register
is fed by the level of the select line at every rising edge of its clock; a device is
selected while its stage is low, starts over when it becomes selected, and samples the
data line at every rising edge of the strobe.
-/

namespace OClock.SelectChain
open SerialLine Trace

inductive Line where
  | cs
  | wr
  | data
  | clk
  deriving DecidableEq

structure Chain (count : Nat) where
  stages : List Bool
  length : stages.length = count

structure Kind (Device : Type) where
  start : Device → Device
  sample : Bool → Device → Device

structure Bus (Device : Type) (count : Nat) where
  levels : Line → Bool
  chain : Chain count
  devices : Nat → Device

variable {Device View : Type} {count : Nat}

def Chain.shift (level : Bool) (chain : Chain count) : Chain count :=
  ⟨(level :: chain.stages).take count, by simp [chain.length]⟩

def Chain.selects (chain : Chain count) (i : Nat) : Bool := chain.stages[i]? == some false

def shifted (kind : Kind Device) (bus : Bus Device count) : Bus Device count :=
  let chain := bus.chain.shift (bus.levels .cs)
  { bus with
    chain := chain
    devices := fun i =>
      if chain.selects i && !bus.chain.selects i then kind.start (bus.devices i)
      else bus.devices i }

def strobed (kind : Kind Device) (bus : Bus Device count) : Bus Device count :=
  { bus with
    devices := fun i =>
      if bus.chain.selects i then kind.sample (bus.levels .data) (bus.devices i)
      else bus.devices i }

def act (kind : Kind Device) (bus : Bus Device count) (write : Write Line) : Bus Device count :=
  let reacted :=
    if rises .clk bus.levels write then shifted kind bus
    else if rises .wr bus.levels write then strobed kind bus
    else bus
  { reacted with levels := drive bus.levels write }

/-! ### The register -/

theorem selects_first (chain : Chain count) (level : Bool) (some : 0 < count) :
    (chain.shift level).selects 0 = !level := by
  obtain ⟨rest, rfl⟩ := Nat.exists_eq_succ_of_ne_zero (Nat.ne_of_gt some)
  cases level <;> simp [Chain.shift, Chain.selects]

theorem selects_next (chain : Chain count) (level : Bool) {i : Nat} (inside : i + 1 < count) :
    (chain.shift level).selects (i + 1) = chain.selects i := by
  simp [Chain.shift, Chain.selects, inside]

theorem selects_outside (chain : Chain count) {i : Nat} (outside : count ≤ i) :
    chain.selects i = false := by
  have none : chain.stages[i]? = none := List.getElem?_eq_none (by rw [chain.length]; exact outside)
  simp [Chain.selects, none]

def Unselected (chain : Chain count) : Prop := ∀ i, chain.selects i = false

/-- Exactly one stage is low. -/
def Only (chain : Chain count) (c : Nat) : Prop := ∀ i, chain.selects i = decide (i = c)

theorem unselected_only {chain : Chain count} (none : Unselected chain) (some : 0 < count) :
    Only (chain.shift false) 0 := by
  intro i
  cases i with
  | zero => rw [selects_first chain false some]; rfl
  | succ i =>
      by_cases inside : i + 1 < count
      · rw [selects_next chain false inside, none i]
        rfl
      · rw [selects_outside _ (Nat.le_of_not_lt inside)]
        rfl

theorem only_next {chain : Chain count} {c : Nat} (only : Only chain c) (room : c + 1 < count) :
    Only (chain.shift true) (c + 1) := by
  intro i
  cases i with
  | zero => rw [selects_first chain true (Nat.zero_lt_of_lt room)]; rfl
  | succ i =>
      by_cases inside : i + 1 < count
      · rw [selects_next chain true inside, only i]
        simp
      · have other : i + 1 ≠ c + 1 := by omega
        rw [selects_outside _ (Nat.le_of_not_lt inside), decide_eq_false other]

/-! ### Clock and strobe -/

/-- Between two operations the clock and the strobe are low. -/
structure Rests (levels : Line → Bool) : Prop where
  clk : levels .clk = false
  wr : levels .wr = false

theorem rests_drive {levels : Line → Bool} (rests : Rests levels) {line : Line}
    (clk : .clk ≠ line) (wr : .wr ≠ line) (level : Bool) : Rests (drive levels ⟨line, level⟩) :=
  ⟨(drive_other clk levels level).trans rests.clk, (drive_other wr levels level).trans rests.wr⟩

variable {kind : Kind Device}

theorem pulse_final {bus : Bus Device count} (rests : Rests bus.levels) :
    final (act kind) bus (pulse .clk) = shifted kind bus := by
  have low := drive_idle bus.levels .clk
  rw [rests.clk] at low
  simp [pulse, act, rises, rests.clk, shifted, low]

/-- A bit on the data line with a strobe. -/
def strobe (bit : Bool) : List (Write Line) := ⟨.data, bit⟩ :: pulse .wr

def sampledBit (kind : Kind Device) (bit : Bool) (bus : Bus Device count) : Bus Device count :=
  { bus with
    levels := drive bus.levels ⟨.data, bit⟩
    devices := fun i =>
      if bus.chain.selects i then kind.sample bit (bus.devices i) else bus.devices i }

theorem strobe_final {bus : Bus Device count} (rests : Rests bus.levels) (bit : Bool) :
    final (act kind) bus (strobe bit) = sampledBit kind bit bus := by
  have resting := (rests_drive rests (by decide) (by decide) bit : Rests (drive _ ⟨.data, bit⟩)).wr
  have low := drive_idle (drive bus.levels ⟨.data, bit⟩) .wr
  rw [resting] at low
  simp [strobe, pulse, act, rises, strobed, resting, sampledBit, low]

theorem cs_final (bus : Bus Device count) (level : Bool) :
    act kind bus ⟨.cs, level⟩ = { bus with levels := drive bus.levels ⟨.cs, level⟩ } := by
  simp [act, rises]

/-- As long as no strobe is given, the devices keep what their start keeps. -/
theorem unstrobed_views (view : Device → View)
    (keeps : ∀ device, view (kind.start device) = view device)
    (writes : List (Write Line)) (unstrobed : ∀ write ∈ writes, write.line ≠ .wr)
    (bus : Bus Device count) :
    Throughout (act kind) (fun passed => ∀ i, view (passed.devices i) = view (bus.devices i))
      bus writes := by
  induction writes generalizing bus with
  | nil => exact fun _ => rfl
  | cons write rest ih =>
      have calm : rises .wr bus.levels write = false := by
        simp [rises, unstrobed write List.mem_cons_self]
      have step : ∀ i, view ((act kind bus write).devices i) = view (bus.devices i) := by
        intro i
        simp only [act, calm]
        split
        · simp only [shifted]
          split
          · exact keeps _
          · rfl
        · rfl
      refine ⟨fun _ => rfl, throughout_mono ?_ (ih (fun other member =>
        unstrobed other (List.mem_cons_of_mem write member)) (act kind bus write))⟩
      exact fun passed same i => (same i).trans (step i)

/-! ### Selecting -/

def pulses (number : Nat) : List (Write Line) := (List.replicate number (pulse .clk)).flatten

/-- As many pulses as there are stages push the level of the select line into all of them. -/
def unselect (count : Nat) : List (Write Line) := ⟨.cs, true⟩ :: pulses count

/-- One low level is pushed in and moved on to its stage. -/
def choose (c : Nat) : List (Write Line) :=
  ⟨.cs, false⟩ :: (pulse .clk ++ ⟨.cs, true⟩ :: pulses c)

theorem pulses_unstrobed (number : Nat) : ∀ write ∈ pulses number, write.line ≠ .wr := by
  intro write member
  simp only [pulses, pulse, List.mem_flatten, List.mem_replicate] at member
  obtain ⟨_, ⟨_, rfl⟩, inside⟩ := member
  simp only [List.mem_cons, List.not_mem_nil, or_false] at inside
  rcases inside with rfl | rfl <;> decide

theorem unselect_unstrobed (count : Nat) : ∀ write ∈ unselect count, write.line ≠ .wr := by
  intro write member
  rcases List.mem_cons.mp member with rfl | inside
  · decide
  · exact pulses_unstrobed count write inside

theorem choose_unstrobed (c : Nat) : ∀ write ∈ choose c, write.line ≠ .wr := by
  intro write member
  simp only [choose, pulse, List.mem_cons, List.mem_append, List.not_mem_nil, or_false] at member
  rcases member with rfl | (rfl | rfl) | rfl | inside
  · decide
  · decide
  · decide
  · decide
  · exact pulses_unstrobed c write inside

theorem pulses_final (holds : Nat → Bus Device count → Prop) (limit : Nat)
    (step : ∀ k bus, k < limit → holds k bus → holds (k + 1) (shifted kind bus))
    {number k : Nat} (within : k + number = limit) {bus : Bus Device count}
    (rests : Rests bus.levels) (start : holds k bus) :
    (final (act kind) bus (pulses number)).levels = bus.levels ∧
      holds limit (final (act kind) bus (pulses number)) := by
  induction number generalizing k bus with
  | zero =>
      subst within
      exact ⟨rfl, start⟩
  | succ number ih =>
      have next := step k bus (by omega) start
      rw [pulses, List.replicate_succ, List.flatten_cons, final_append, pulse_final rests, ← pulses]
      exact ih (by omega) rests next

/-- The first stages are high, and the next level will be. -/
structure Raised (k : Nat) (bus : Bus Device count) : Prop where
  cs : bus.levels .cs = true
  off : ∀ i < k, bus.chain.selects i = false

theorem raised_next {k : Nat} (inside : k < count) {bus : Bus Device count}
    (raised : Raised k bus) : Raised (k + 1) (shifted kind bus) := by
  refine ⟨raised.cs, fun i below => ?_⟩
  simp only [shifted, raised.cs]
  cases i with
  | zero => exact selects_first _ true (Nat.zero_lt_of_lt inside)
  | succ i => rw [selects_next _ true (by omega), raised.off i (by omega)]

theorem unselect_final (kind : Kind Device) {bus : Bus Device count} (rests : Rests bus.levels) :
    Rests (final (act kind) bus (unselect count)).levels ∧
      Unselected (final (act kind) bus (unselect count)).chain := by
  have calm := rests_drive rests (by decide : .clk ≠ Line.cs) (by decide) true
  have start : Raised 0 { bus with levels := drive bus.levels ⟨.cs, true⟩ } :=
    ⟨drive_same bus.levels .cs true, fun i below => absurd below (Nat.not_lt_zero i)⟩
  have step : ∀ k (passed : Bus Device count), k < count → Raised k passed →
      Raised (k + 1) (shifted kind passed) := fun _ _ inside => raised_next inside
  obtain ⟨levels, raised⟩ := pulses_final Raised count step (Nat.zero_add count) calm start
  rw [unselect, final_cons, cs_final]
  refine ⟨levels ▸ calm, fun i => ?_⟩
  by_cases inside : i < count
  · exact raised.off i inside
  · exact selects_outside _ (Nat.le_of_not_lt inside)

/-- The device of the only low stage has started over. -/
structure Chosen (kind : Kind Device) (c : Nat) (bus : Bus Device count) : Prop where
  cs : bus.levels .cs = true
  only : Only bus.chain c
  started : ∃ device, bus.devices c = kind.start device

theorem shifted_started {bus : Bus Device count} {c : Nat} (was : bus.chain.selects c = false)
    (now : (bus.chain.shift (bus.levels .cs)).selects c = true) :
    (shifted kind bus).devices c = kind.start (bus.devices c) := by
  simp [shifted, was, now]

theorem chosen_next {c : Nat} (room : c + 1 < count) {bus : Bus Device count}
    (chosen : Chosen kind c bus) : Chosen kind (c + 1) (shifted kind bus) := by
  have next := only_next chosen.only room
  rw [← chosen.cs] at next
  have was : bus.chain.selects (c + 1) = false := by
    rw [chosen.only]
    simp
  -- A pulse moves the selection on, and the next device starts a session.
  have now : (bus.chain.shift (bus.levels .cs)).selects (c + 1) = true := by
    rw [next]
    simp
  exact ⟨chosen.cs, next, _, shifted_started was now⟩

theorem choose_final (kind : Kind Device) {bus : Bus Device count} (rests : Rests bus.levels)
    (none : Unselected bus.chain) {c : Nat} (inside : c < count) :
    Rests (final (act kind) bus (choose c)).levels ∧
      Chosen kind c (final (act kind) bus (choose c)) := by
  have some : 0 < count := Nat.zero_lt_of_lt inside
  have fed := rests_drive rests (by decide : .clk ≠ Line.cs) (by decide) false
  have calm := rests_drive fed (by decide : .clk ≠ Line.cs) (by decide) true
  have low : drive bus.levels ⟨.cs, false⟩ .cs = false := drive_same _ _ _
  have first := unselected_only none some
  let pushed := shifted kind { bus with levels := drive bus.levels ⟨.cs, false⟩ }
  have start : Chosen kind 0 { pushed with levels := drive pushed.levels ⟨.cs, true⟩ } := by
    refine ⟨drive_same pushed.levels .cs true, ?_, bus.devices 0, ?_⟩
    · simpa only [pushed, shifted, low] using first
    · simp [pushed, shifted, low, none 0, first 0]
  have step : ∀ k (passed : Bus Device count), k < c → Chosen kind k passed →
      Chosen kind (k + 1) (shifted kind passed) := fun _ _ below => chosen_next (by omega)
  obtain ⟨levels, chosen⟩ := pulses_final (Chosen kind) c step (Nat.zero_add c) calm start
  rw [choose, final_cons, cs_final, final_append, pulse_final fed, final_cons, cs_final]
  exact ⟨levels ▸ calm, chosen⟩

/-! ### Sending bits -/

def strobes (bits : List Bool) : List (Write Line) := bits.flatMap strobe

def sampledBits (kind : Kind Device) (device : Device) (bits : List Bool) : Device :=
  bits.foldl (fun device bit => kind.sample bit device) device

theorem sampledBit_devices {c : Nat} {bus : Bus Device count} (only : Only bus.chain c)
    (bit : Bool) :
    (sampledBit kind bit bus).devices =
      Function.update bus.devices c (kind.sample bit (bus.devices c)) := by
  funext i
  by_cases hit : i = c
  · subst hit
    simp [sampledBit, only i]
  · simp [sampledBit, only i, hit]

/-- The chosen device samples every bit, and nothing else changes. -/
theorem strobes_final (kind : Kind Device) {c : Nat} (bits : List Bool)
    {bus : Bus Device count} (rests : Rests bus.levels) (only : Only bus.chain c) :
    let done := final (act kind) bus (strobes bits)
    Rests done.levels ∧ done.chain = bus.chain ∧
      done.devices = Function.update bus.devices c (sampledBits kind (bus.devices c) bits) := by
  induction bits generalizing bus with
  | nil => exact ⟨rests, rfl, (Function.update_eq_self c bus.devices).symm⟩
  | cons bit rest ih =>
      have calm := rests_drive rests (by decide : .clk ≠ Line.data) (by decide) bit
      obtain ⟨resting, chain, devices⟩ := @ih (sampledBit kind bit bus) calm only
      have same : final (act kind) bus (strobes (bit :: rest)) =
          final (act kind) (sampledBit kind bit bus) (strobes rest) := by
        rw [strobes, List.flatMap_cons, final_append, strobe_final rests]
        rfl
      dsimp only
      rw [same]
      refine ⟨resting, chain, devices.trans ?_⟩
      rw [sampledBit_devices only, Function.update_self, Function.update_idem]
      rfl

theorem strobe_through (holds : (Nat → Device) → Prop) {bus : Bus Device count}
    (rests : Rests bus.levels) (bit : Bool) (before : holds bus.devices)
    (after : holds (sampledBit kind bit bus).devices) :
    Throughout (act kind) (fun passed => holds passed.devices) bus (strobe bit) := by
  have resting := (rests_drive rests (by decide) (by decide) bit : Rests (drive _ ⟨.data, bit⟩)).wr
  simp only [sampledBit] at after
  simp [strobe, pulse, Throughout, act, rises, strobed, resting, before, after]

/-- At every moment the chosen device has sampled the first ones of the bits. -/
theorem strobes_through (kind : Kind Device) {c : Nat} (bits : List Bool)
    {bus : Bus Device count} (rests : Rests bus.levels) (only : Only bus.chain c) :
    Throughout (act kind) (fun passed => ∃ before, before <+: bits ∧ passed.devices =
      Function.update bus.devices c (sampledBits kind (bus.devices c) before))
      bus (strobes bits) := by
  induction bits generalizing bus with
  | nil => exact ⟨[], List.nil_prefix, (Function.update_eq_self c bus.devices).symm⟩
  | cons bit rest ih =>
      have calm := rests_drive rests (by decide : .clk ≠ Line.data) (by decide) bit
      have now := @sampledBit_devices _ _ kind _ _ only bit
      have first := @strobe_through _ _ kind (fun devices => ∃ before, before <+: bit :: rest ∧
        devices = Function.update bus.devices c (sampledBits kind (bus.devices c) before))
        bus rests bit
      rw [strobes, List.flatMap_cons]
      refine throughout_append (first ?_ ?_) ?_
      · exact ⟨[], List.nil_prefix, (Function.update_eq_self c bus.devices).symm⟩
      · exact ⟨[bit], by simp, now⟩
      · rw [strobe_final rests]
        refine throughout_mono ?_ (@ih (sampledBit kind bit bus) calm only)
        rintro passed ⟨before, inside, devices⟩
        refine ⟨bit :: before, List.cons_prefix_cons.mpr ⟨rfl, inside⟩, devices.trans ?_⟩
        rw [now, Function.update_self, Function.update_idem]
        rfl

end OClock.SelectChain
