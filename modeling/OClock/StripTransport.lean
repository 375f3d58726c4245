import OClock.Lpd8806

/-!
The two transports of the LED strip put the same bits on the wire, and a frame holds
the colours that were written.
-/

namespace OClock.StripTransport
open SerialLine Lpd8806

/-! ### What a strip receives -/

def driven : Effect → List (Write Line)
  | .configureOutput line level | .write line level => [⟨line, level⟩]
  | .transfer _ => []

def wire (effects : List Effect) : List (Write Line) := effects.flatMap driven

def transferred : Effect → List UInt8
  | .transfer bytes => bytes
  | .configureOutput _ _ | .write _ _ => []

def sent (effects : List Effect) : List UInt8 := effects.flatMap transferred

/-- The bits sampled during each of some calls. -/
def received : (Line → Bool) → List (List Effect) → List (List Bool)
  | _, [] => []
  | levels, call :: rest =>
      sampled .datapin .clkpin levels (wire call) :: received (replay levels (wire call)) rest

structure Color where
  red : UInt8
  green : UInt8
  blue : UInt8

/-- The colour of a pixel after one more call. -/
def record (i : UInt16) (color : Color) : Op → Color
  | .setPixelColor n r g b => if n = i then ⟨r, g, b⟩ else color
  | .setPackedColor n c =>
      if n = i then ⟨(c >>> 8).toUInt8, (c >>> 16).toUInt8, c.toUInt8⟩ else color
  | .clearPixelColors => ⟨0, 0, 0⟩
  | .showStrip => color

def lastWritten (ops : List Op) (i : UInt16) : Color := ops.foldl (record i) ⟨0, 0, 0⟩

/-! ### The bits of a call -/

theorem wire_append (first second : List Effect) :
    wire (first ++ second) = wire first ++ wire second := List.flatMap_append

/-- The clock rests low, and the cached level is the level of the data pin. -/
structure Cached (currDatapinValue : Option Bool) (levels : Line → Bool) : Prop where
  rests : levels .clkpin = false
  data : ∀ level, currDatapinValue = some level → levels .datapin = level

theorem showBit_wire (p bit : UInt8) (currDatapinValue : Option Bool) (levels : Line → Bool)
    (cached : Cached currDatapinValue levels) :
    let shown := showBit p bit currDatapinValue
    sampled .datapin .clkpin levels (wire shown.1) = [p &&& bit != 0] ∧
      Cached shown.2 (replay levels (wire shown.1)) := by
  have low := cached.rests
  dsimp only
  by_cases known : currDatapinValue = some (p &&& bit != 0)
  · have level := cached.data _ known
    have same : wire (showBit p bit currDatapinValue).1 = pulse .clkpin := by
      simp [showBit, known, wire, driven, pulse]
    rw [same, sampled_pulse _ low, replay_pulse low, level]
    exact ⟨rfl, low, fun _ shown => level.trans (Option.some.inj shown)⟩
  · have same : wire (showBit p bit currDatapinValue).1 =
        ⟨.datapin, p &&& bit != 0⟩ :: pulse .clkpin := by
      simp [showBit, known, wire, driven, pulse]
    have rests : drive levels ⟨.datapin, p &&& bit != 0⟩ .clkpin = false := by
      rw [drive_other (by decide), low]
    rw [same, sampled_other (by decide), replay_cons, sampled_pulse _ rests, replay_pulse rests,
      drive_same]
    exact ⟨rfl, rests, fun _ shown => (drive_same _ _ _).trans (Option.some.inj shown)⟩

theorem showBits_wire (p : UInt8) (bits : List UInt8) (currDatapinValue : Option Bool)
    (levels : Line → Bool) (cached : Cached currDatapinValue levels) :
    let shown := showBits p bits currDatapinValue
    sampled .datapin .clkpin levels (wire shown.1) = bits.map (fun bit => p &&& bit != 0) ∧
      Cached shown.2 (replay levels (wire shown.1)) := by
  induction bits generalizing currDatapinValue levels with
  | nil => exact ⟨rfl, cached⟩
  | cons bit rest ih =>
      obtain ⟨now, kept⟩ := showBit_wire p bit currDatapinValue levels cached
      obtain ⟨later, final⟩ := ih _ _ kept
      simp only [showBits, wire_append, sampled_append, replay_append, List.map_cons]
      exact ⟨by rw [now, later]; rfl, final⟩

theorem showBytes_wire (bytes : List UInt8) (currDatapinValue : Option Bool)
    (levels : Line → Bool) (cached : Cached currDatapinValue levels) :
    let shown := showBytes bytes.length bytes currDatapinValue
    sampled .datapin .clkpin levels (wire shown) = bytesBits bytes ∧
      replay levels (wire shown) .clkpin = false := by
  induction bytes generalizing currDatapinValue levels with
  | nil => exact ⟨rfl, cached.rests⟩
  | cons p rest ih =>
      obtain ⟨now, kept⟩ := showBits_wire p _ currDatapinValue levels cached
      obtain ⟨later, final⟩ := ih _ _ kept
      simp only [List.length_cons, showBytes, wire_append, sampled_append, replay_append]
      exact ⟨by rw [now, later]; rfl, final⟩

theorem latchClocks_wire (count : Nat) :
    wire (latchClocks count) = (List.replicate count (pulse .clkpin)).flatten := by
  induction count with
  | zero => rfl
  | succ count ih =>
      rw [List.replicate_succ, List.flatten_cons, ← ih]
      rfl

/-- The latch of the pins is the latch of the SPI output. -/
theorem latch_wire (strip : Strip) (levels : Line → Bool) (rests : levels .clkpin = false) :
    sampled .datapin .clkpin levels (wire (bitBangLatchSignal strip)) =
        bytesBits (List.replicate (latchByteCount strip) 0) ∧
      replay levels (wire (bitBangLatchSignal strip)) .clkpin = false := by
  have small : (strip.numLEDs.toNat + 31) / 32 * 8 % 65536 = latchByteCount strip * 8 := by
    have bound := strip.numLEDs.toNat_lt
    unfold latchByteCount
    omega
  have same : wire (bitBangLatchSignal strip) =
      ⟨.datapin, false⟩ ::
        (List.replicate (latchByteCount strip * 8) (pulse Line.clkpin)).flatten := by
    rw [← latchClocks_wire, ← small]
    rfl
  have low : drive levels ⟨.datapin, false⟩ .clkpin = false := by
    rw [drive_other (by decide), rests]
  obtain ⟨ends, pulses⟩ := sampled_pulses Line.datapin low (latchByteCount strip * 8)
  rw [same, sampled_other (by decide), replay_cons, pulses, ends, drive_same, zeroes_bits]
  exact ⟨rfl, low⟩

theorem begin_wire (strip : Strip) (levels : Line → Bool) :
    sampled .datapin .clkpin levels (wire (startBitbang strip)) =
        bytesBits (sent (transferSpiLatch strip)) ∧
      replay levels (wire (startBitbang strip)) .clkpin = false := by
  have low : drive (drive levels ⟨.datapin, false⟩) ⟨.clkpin, false⟩ .clkpin = false :=
    drive_same _ _ _
  obtain ⟨latch, rests⟩ := latch_wire strip _ low
  have latched : sent (transferSpiLatch strip) = List.replicate (latchByteCount strip) 0 := by
    unfold transferSpiLatch
    cases latchByteCount strip with
    | zero => rfl
    | succ count => simp [sent, transferred, List.replicate_succ]
  have same : wire (startBitbang strip) =
      ⟨.datapin, false⟩ :: ⟨.clkpin, false⟩ :: wire (bitBangLatchSignal strip) := rfl
  rw [same, sampled_other (by decide), sampled_low, replay_cons, replay_cons, latched]
  exact ⟨latch, rests⟩

/-! ### The pixels -/

/-- A stored byte: the top bit is set, and the others are those of the channel. -/
def stored (channel : UInt8) : UInt8 := channel ||| 0x80

theorem stored_bits : ∀ channel : BitVec 8,
    stored (UInt8.ofBitVec channel) &&& 0x80 = 0x80 ∧
      stored (UInt8.ofBitVec channel) &&& 0x7f = UInt8.ofBitVec channel &&& 0x7f := by
  decide

theorem stored_top (channel : UInt8) : stored channel &&& 0x80 = 0x80 :=
  (stored_bits channel.toBitVec).1

theorem stored_low (channel : UInt8) : stored channel &&& 0x7f = channel &&& 0x7f :=
  (stored_bits channel.toBitVec).2

/-- The three bytes of a pixel. -/
def Lit (pixels : List UInt8) (i : Nat) (color : Color) : Prop :=
  pixels[3 * i]? = some (stored color.green) ∧ pixels[3 * i + 1]? = some (stored color.red) ∧
    pixels[3 * i + 2]? = some (stored color.blue)

structure Holds (strip : Strip) (colors : UInt16 → Color) : Prop where
  length : strip.pixels.length = strip.numLEDs.toNat * 3
  lit : ∀ i < strip.numLEDs, Lit strip.pixels i.toNat (colors i)

theorem set_triple {pixels : List UInt8} {p : Nat} (inside : p + 2 < pixels.length)
    (first second third : UInt8) (k : Nat) :
    (((pixels.set p first).set (p + 1) second).set (p + 2) third)[k]? =
      if k = p then some first else if k = p + 1 then some second
      else if k = p + 2 then some third else pixels[k]? := by
  simp only [List.getElem?_set, List.length_set]
  grind

theorem replicate_lit {i count : Nat} (inside : i < count) (rest : List UInt8) :
    Lit (List.replicate (count * 3) 0x80 ++ rest) i ⟨0, 0, 0⟩ := by
  have off : stored 0 = 0x80 := by decide
  have byte : ∀ k < count * 3, (List.replicate (count * 3) 0x80 ++ rest)[k]? = some (stored 0) := by
    intro k below
    rw [List.getElem?_append_left (by simpa using below), List.getElem?_replicate_of_lt below, off]
  exact ⟨byte _ (by omega), byte _ (by omega), byte _ (by omega)⟩

theorem new_numLEDs (transport : Transport) (n : UInt16) :
    (Strip.new transport n).numLEDs = n := by
  unfold Strip.new updateLength
  by_cases some : 0 < n
  · rw [if_pos some]
  · have zero : n = 0 := UInt16.le_zero_iff.mp (UInt16.not_lt.mp some)
    rw [if_neg some, zero]

theorem new_transport (transport : Transport) (n : UInt16) :
    (Strip.new transport n).transport = transport := by
  unfold Strip.new updateLength
  split <;> rfl

theorem new_holds (transport : Transport) (n : UInt16) :
    Holds (Strip.new transport n) (lastWritten []) := by
  unfold Strip.new updateLength
  by_cases some : 0 < n
  · rw [if_pos some]
    refine ⟨List.length_replicate, fun i below => ?_⟩
    have lit := replicate_lit (UInt16.lt_iff_toNat_lt.mp below) []
    rwa [List.append_nil] at lit
  · rw [if_neg some]
    exact ⟨rfl, fun i below => absurd below UInt16.not_lt_zero⟩

theorem storePixel_holds {strip : Strip} {colors : UInt16 → Color} (holds : Holds strip colors)
    (n : UInt16) (color : Color) :
    Holds (storePixel strip n (stored color.green) (stored color.red) (stored color.blue))
      fun i => if n = i then color else colors i := by
  unfold storePixel
  by_cases inside : n < strip.numLEDs
  · rw [if_pos inside]
    have room : n.toNat * bytesPerLed + 2 < strip.pixels.length := by
      have below := UInt16.lt_iff_toNat_lt.mp inside
      rw [holds.length, bytesPerLed]
      omega
    constructor
    · simp only [List.length_set]
      exact holds.length
    · intro i below
      -- The three bytes of a pixel lie apart from those of every other one.
      by_cases hit : n = i
      · simp only [Lit, set_triple room]
        simp [hit, bytesPerLed, Nat.mul_comm]
      · have apart : n.toNat ≠ i.toNat := fun same => hit (UInt16.toNat_inj.mp same)
        have kept : ∀ k < 3, (((strip.pixels.set (n.toNat * bytesPerLed) (stored color.green)).set
            (n.toNat * bytesPerLed + 1) (stored color.red)).set (n.toNat * bytesPerLed + 2)
            (stored color.blue))[3 * i.toNat + k]? = strip.pixels[3 * i.toNat + k]? := by
          intro k third
          rw [set_triple room, if_neg, if_neg, if_neg] <;> unfold bytesPerLed <;> omega
        obtain ⟨green, red, blue⟩ := holds.lit i below
        rw [if_neg hit]
        exact ⟨(kept 0 (by decide)).trans green, (kept 1 (by decide)).trans red,
          (kept 2 (by decide)).trans blue⟩
  · rw [if_neg inside]
    refine ⟨holds.length, fun i below => ?_⟩
    have other : n ≠ i := fun same => inside (same ▸ below)
    rw [if_neg other]
    exact holds.lit i below

theorem clearPixelColors_holds {strip : Strip} {colors : UInt16 → Color}
    (holds : Holds strip colors) : Holds (clearPixelColors strip) fun _ => ⟨0, 0, 0⟩ := by
  unfold clearPixelColors
  by_cases none : strip.numLEDs = 0
  · rw [if_pos none]
    exact ⟨holds.length, fun i below => absurd (none ▸ below) UInt16.not_lt_zero⟩
  · rw [if_neg none]
    refine ⟨?_, fun i below => replicate_lit (UInt16.lt_iff_toNat_lt.mp below) _⟩
    simp [holds.length, bytesPerLed]

theorem showStrip_holds {strip : Strip} {colors : UInt16 → Color} (holds : Holds strip colors) :
    Holds (showStrip strip).2 colors := by
  unfold showStrip
  by_cases none : strip.numLEDs = 0
  · rw [if_pos none]
    exact holds
  · rw [if_neg none]
    cases strip.transport with
    | spiOutput => exact ⟨holds.length, holds.lit⟩
    | gpio => exact ⟨holds.length, holds.lit⟩

theorem step_holds {strip : Strip} {colors : UInt16 → Color} (holds : Holds strip colors)
    (op : Op) : Holds (step strip op).2 fun i => record i (colors i) op := by
  cases op with
  | setPixelColor n r g b => exact storePixel_holds holds n ⟨r, g, b⟩
  | setPackedColor n c =>
      have high : ∀ word : UInt32, (word ||| 0x80).toUInt8 = stored word.toUInt8 :=
        fun word => UInt32.toUInt8_or word 0x80
      simp only [step, setPackedColor, high]
      exact storePixel_holds holds n ⟨(c >>> 8).toUInt8, (c >>> 16).toUInt8, c.toUInt8⟩
  | clearPixelColors => exact clearPixelColors_holds holds
  | showStrip => exact showStrip_holds holds

theorem step_numLEDs (strip : Strip) (op : Op) :
    (step strip op).2.numLEDs = strip.numLEDs ∧ (step strip op).2.transport = strip.transport := by
  cases op with
  | setPixelColor n r g b =>
      simp only [step, setPixelColor, storePixel]
      split <;> exact ⟨rfl, rfl⟩
  | setPackedColor n c =>
      simp only [step, setPackedColor, storePixel]
      split <;> exact ⟨rfl, rfl⟩
  | clearPixelColors =>
      simp only [step, clearPixelColors]
      split <;> exact ⟨rfl, rfl⟩
  | showStrip =>
      simp only [step, showStrip]
      split
      · exact ⟨rfl, rfl⟩
      · split <;> exact ⟨rfl, rfl⟩

theorem run_holds {strip : Strip} {colors : UInt16 → Color} (holds : Holds strip colors)
    (ops : List Op) :
    Holds (Machine.run step strip ops).2 fun i => ops.foldl (record i) (colors i) := by
  induction ops generalizing strip colors with
  | nil => exact holds
  | cons op rest ih => exact ih (step_holds holds op)

theorem run_numLEDs (strip : Strip) (ops : List Op) :
    (Machine.run step strip ops).2.numLEDs = strip.numLEDs ∧
      (Machine.run step strip ops).2.transport = strip.transport := by
  induction ops generalizing strip with
  | nil => exact ⟨rfl, rfl⟩
  | cons op rest ih =>
      obtain ⟨count, transport⟩ := step_numLEDs strip op
      obtain ⟨later, kept⟩ := ih (step strip op).2
      exact ⟨later.trans count, kept.trans transport⟩

theorem holds_top {strip : Strip} {colors : UInt16 → Color} (holds : Holds strip colors) :
    ∀ byte ∈ strip.pixels, byte &&& 0x80 = 0x80 := by
  intro byte member
  obtain ⟨k, inside, found⟩ := List.getElem_of_mem member
  have count := strip.numLEDs.toNat_lt
  have length := holds.length
  have i : (UInt16.ofNat (k / 3)).toNat = k / 3 := UInt16.toNat_ofNat_of_lt' (by
    unfold UInt16.size
    omega)
  have below : UInt16.ofNat (k / 3) < strip.numLEDs := UInt16.lt_iff_toNat_lt.mpr (by omega)
  obtain ⟨green, red, blue⟩ := holds.lit _ below
  rw [i] at green red blue
  have here : strip.pixels[k]? = some byte := by rw [List.getElem?_eq_getElem inside, found]
  have third : k = 3 * (k / 3) ∨ k = 3 * (k / 3) + 1 ∨ k = 3 * (k / 3) + 2 := by omega
  rcases third with place | place | place
  · rw [place, green] at here
    exact Option.some.inj here ▸ stored_top _
  · rw [place, red] at here
    exact Option.some.inj here ▸ stored_top _
  · rw [place, blue] at here
    exact Option.some.inj here ▸ stored_top _

/-! ### Both transports -/

/-- The two strips hold the same pixels, and the clock pin of the one rests. -/
structure Paired (pins spi : Strip) (colors : UInt16 → Color) (levels : Line → Bool) : Prop where
  gpio : pins.transport = .gpio
  same : spi = { pins with transport := .spiOutput }
  fits : pins.numLEDs.toNat * 3 ≤ 65535
  holds : Holds pins colors
  rests : levels .clkpin = false

theorem showStrip_paired {pins spi : Strip} {colors : UInt16 → Color} {levels : Line → Bool}
    (paired : Paired pins spi colors levels) :
    sampled .datapin .clkpin levels (wire (showStrip pins).1) =
        bytesBits (sent (showStrip spi).1) ∧
      replay levels (wire (showStrip pins).1) .clkpin = false ∧
      (showStrip spi).2 = { (showStrip pins).2 with transport := .spiOutput } := by
  obtain ⟨pinned, rfl, fits, ⟨length, _⟩, rests⟩ := paired
  unfold showStrip
  by_cases empty : pins.numLEDs = 0
  · rw [if_pos empty, if_pos empty]
    exact ⟨rfl, rests, rfl⟩
  · simp only [empty, if_false, pinned]
    have whole : pins.numLEDs.toNat * bytesPerLed = pins.pixels.length := length.symm
    have small : pins.pixels.length % 65536 = pins.pixels.length := Nat.mod_eq_of_lt (by omega)
    have cached : Cached none levels := ⟨rests, by rintro _ ⟨⟩⟩
    obtain ⟨data, low⟩ := showBytes_wire pins.pixels none levels cached
    obtain ⟨latch, ends⟩ := latch_wire pins _ low
    rw [whole, small, wire_append, sampled_append, replay_append, data, latch, List.take_length,
      ← bytesBits_append]
    refine ⟨?_, ends, trivial⟩
    simp [sent, transferred, latchByteCount]

theorem step_paired {pins spi : Strip} {colors : UInt16 → Color} {levels : Line → Bool}
    (paired : Paired pins spi colors levels) (op : Op) :
    sampled .datapin .clkpin levels (wire (step pins op).1) = bytesBits (sent (step spi op).1) ∧
      Paired (step pins op).2 (step spi op).2 (fun i => record i (colors i) op)
        (replay levels (wire (step pins op).1)) := by
  have count := step_numLEDs pins op
  have moved : sampled .datapin .clkpin levels (wire (step pins op).1) =
        bytesBits (sent (step spi op).1) ∧
      replay levels (wire (step pins op).1) .clkpin = false ∧
      (step spi op).2 = { (step pins op).2 with transport := .spiOutput } := by
    cases op with
    | showStrip => exact showStrip_paired paired
    | setPixelColor n r g b =>
        refine ⟨rfl, paired.rests, ?_⟩
        rw [paired.same]
        simp only [step, setPixelColor, storePixel]
        split <;> rfl
    | setPackedColor n c =>
        refine ⟨rfl, paired.rests, ?_⟩
        rw [paired.same]
        simp only [step, setPackedColor, storePixel]
        split <;> rfl
    | clearPixelColors =>
        refine ⟨rfl, paired.rests, ?_⟩
        rw [paired.same]
        simp only [step, clearPixelColors]
        split <;> rfl
  exact ⟨moved.1, count.2.trans paired.gpio, moved.2.2, count.1 ▸ paired.fits,
    step_holds paired.holds op, moved.2.1⟩

theorem run_received {pins spi : Strip} {colors : UInt16 → Color} {levels : Line → Bool}
    (paired : Paired pins spi colors levels) (ops : List Op) :
    received levels (Machine.run step pins ops).1 =
      (Machine.run step spi ops).1.map fun call => bytesBits (sent call) := by
  induction ops generalizing pins spi colors levels with
  | nil => rfl
  | cons op rest ih =>
      obtain ⟨now, kept⟩ := step_paired paired op
      simp only [Machine.run_cons, received, List.map_cons]
      rw [now, ih kept]

theorem calls_received (n : UInt16) (fits : 3 * n.toNat ≤ 65535) (levels : Line → Bool)
    (ops : List Op) :
    received levels (calls .gpio n ops) =
      (calls .spiOutput n ops).map fun call => bytesBits (sent call) := by
  have pinned := new_transport .gpio n
  have same : Strip.new .spiOutput n = { Strip.new .gpio n with transport := .spiOutput } := by
    unfold Strip.new updateLength
    split <;> rfl
  have first : beginStrip (Strip.new .gpio n) = startBitbang (Strip.new .gpio n) := by
    rw [beginStrip, pinned]
  have second : beginStrip (Strip.new .spiOutput n) = transferSpiLatch (Strip.new .gpio n) := by
    rw [same]
    rfl
  obtain ⟨latch, rests⟩ := begin_wire (Strip.new .gpio n) levels
  have paired : Paired (Strip.new .gpio n) (Strip.new .spiOutput n) (lastWritten [])
      (replay levels (wire (startBitbang (Strip.new .gpio n)))) :=
    ⟨pinned, same, by rw [new_numLEDs]; omega, new_holds .gpio n, rests⟩
  simp only [calls, received, List.map_cons, first, second]
  rw [latch, run_received paired ops]

theorem showStrip_frame {strip : Strip} {colors : UInt16 → Color}
    (spi : strip.transport = .spiOutput) (holds : Holds strip colors) :
    (showStrip strip).1 = if strip.numLEDs = 0 then []
      else [.transfer (strip.pixels ++ List.replicate (latchByteCount strip) 0)] := by
  have whole : strip.numLEDs.toNat * bytesPerLed = strip.pixels.length := holds.length.symm
  unfold showStrip
  split
  · rfl
  · simp only [spi, whole, List.take_length]

/-- A frame is the pixels and the latch. -/
theorem show_frame (n : UInt16) (before after : List Op) :
    ∃ pixels : List UInt8,
      (calls .spiOutput n (before ++ .showStrip :: after))[before.length + 1]? =
        some (if n = 0 then []
          else [.transfer (pixels ++ List.replicate ((n.toNat + 31) / 32) 0)]) ∧
      pixels.length = 3 * n.toNat ∧ (∀ byte ∈ pixels, byte &&& 0x80 = 0x80) ∧
      ∀ i < n, Lit pixels i.toNat (lastWritten before i) := by
  obtain ⟨count, transport⟩ := run_numLEDs (Strip.new .spiOutput n) before
  have holds := run_holds (new_holds .spiOutput n) before
  rw [new_numLEDs] at count
  refine ⟨(Machine.run step (Strip.new .spiOutput n) before).2.pixels, ?_, ?_, ?_, ?_⟩
  · have place := Machine.run_outputs_length step (Strip.new .spiOutput n) before
    rw [calls, List.getElem?_cons_succ, Machine.run_append, Machine.run_cons,
      List.getElem?_append_right (Nat.le_of_eq place), place, Nat.sub_self,
      List.getElem?_cons_zero]
    have shown := showStrip_frame (transport.trans (new_transport .spiOutput n)) holds
    rw [latchByteCount, count] at shown
    exact congrArg some shown
  · rw [holds.length, count, Nat.mul_comm]
  · exact holds_top holds
  · intro i below
    exact holds.lit i (by rwa [count])

/-- The bits that are clocked out on the pins during `begin` and every call after it are
those of the bytes that the other constructor hands to its SPI output, whatever levels the
pins had before; and every frame holds the colours written last. -/
theorem transports_agree (n : UInt16) (fits : 3 * n.toNat ≤ 65535) (levels : Line → Bool)
    (ops : List Op) :
    received levels (calls .gpio n ops) =
        (calls .spiOutput n ops).map (fun call => bytesBits (sent call)) ∧
      ∀ before after, ops = before ++ .showStrip :: after →
        ∃ pixels : List UInt8,
          (calls .spiOutput n ops)[before.length + 1]? =
            some (if n = 0 then []
              else [.transfer (pixels ++ List.replicate ((n.toNat + 31) / 32) 0)]) ∧
          pixels.length = 3 * n.toNat ∧ (∀ byte ∈ pixels, byte &&& 0x80 = 0x80) ∧
          ∀ i < n, ∃ green red blue, pixels[3 * i.toNat]? = some green ∧
            pixels[3 * i.toNat + 1]? = some red ∧ pixels[3 * i.toNat + 2]? = some blue ∧
            green &&& 0x7f = (lastWritten before i).green &&& 0x7f ∧
            red &&& 0x7f = (lastWritten before i).red &&& 0x7f ∧
            blue &&& 0x7f = (lastWritten before i).blue &&& 0x7f := by
  refine ⟨calls_received n fits levels ops, ?_⟩
  rintro before after rfl
  obtain ⟨pixels, frame, length, top, lit⟩ := show_frame n before after
  refine ⟨pixels, frame, length, top, fun i below => ?_⟩
  obtain ⟨green, red, blue⟩ := lit i below
  exact ⟨_, _, _, green, red, blue, stored_low _, stored_low _, stored_low _⟩

/-- A strip of two pixels, of which one is written twice. -/
theorem transports_agree_sample :
    let ops := [Op.setPixelColor 0 1 2 3, .setPackedColor 1 0x040506, .showStrip,
      .setPixelColor 0 7 8 9, .showStrip]
    received (fun _ => true) (calls .gpio 2 ops) =
        (calls .spiOutput 2 ops).map (fun call => bytesBits (sent call)) ∧
      (calls .spiOutput 2 ops).map sent =
        [[0], [], [], [0x82, 0x81, 0x83, 0x84, 0x85, 0x86, 0], [],
          [0x88, 0x87, 0x89, 0x84, 0x85, 0x86, 0]] :=
  ⟨(transports_agree 2 (by decide) _ _).1, by decide⟩

end OClock.StripTransport
