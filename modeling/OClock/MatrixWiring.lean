import OClock.GpioOwnership
import OClock.MatrixPanel

/-!
The wires of the matrix. `begin` configures four lines and asks the backend for the
register path; a pin write of the driver is a store of a mask then, and a call of
`gpio.write` when the backend declines.
-/

namespace OClock.MatrixWiring
open GpiodV2 hiding Line
open GpioOwnership SerialLine SelectChain Ht1632 Trace

/-- One value for each line of the matrix. -/
structure ForLines (Value : Type) where
  cs : Value
  wr : Value
  data : Value
  clk : Value

def ForLines.of {Value : Type} (values : ForLines Value) : Line → Value
  | .cs => values.cs
  | .wr => values.wr
  | .data => values.data
  | .clk => values.clk

/-- How the driver reaches its lines. -/
structure Wiring where
  pins : ForLines Int
  masks : ForLines UInt32
  burstReady : Bool

/-- A call of `gpio.write`, or a store into one of the registers. -/
inductive Access where
  | gpioWrite (bcmGpio : Int) (value : GpioValue)
  | setRegister (mask : UInt32)
  | clearRegister (mask : UInt32)
  deriving DecidableEq

/-- `GpioBurstPins::write` -/
def burstWrite (mask : UInt32) (value : GpioValue) : Access :=
  if value = .high then .setRegister mask else .clearRegister mask

def gpioValue (level : Bool) : GpioValue := if level then .high else .low

def pinWrite (wiring : Wiring) (write : Write Line) : Access :=
  if wiring.burstReady then burstWrite (wiring.masks.of write.line) (gpioValue write.level)
  else .gpioWrite (wiring.pins.of write.line) (gpioValue write.level)

/-- `GpioBurstPins::valid` -/
def valid (registers : BurstRegisters) : Bool :=
  registers.setRegister ≠ 0 && registers.clearRegister ≠ 0

/-- The calls of `configureOutput` up to the first one that throws. -/
def configureOutputs (gpio : GpiodV2Gpio) :
    List (Int × GpioValue × Attempt) → Except GpioError GpiodV2Gpio
  | [] => .ok gpio
  | (bcmGpio, initialValue, attempt) :: rest =>
      let configured := configureOutput gpio bcmGpio initialValue attempt
      match configured.1.result with
      | .error error => .error error
      | .ok _ => configureOutputs configured.2 rest

/-- `begin` up to the first pin write. -/
def beginPins (gpio : GpiodV2Gpio) (pins : ForLines Int) (attempts : ForLines Attempt) :
    Except GpioError Wiring :=
  match configureOutputs gpio [(pins.cs, .high, attempts.cs), (pins.wr, .low, attempts.wr),
      (pins.data, .low, attempts.data), (pins.clk, .low, attempts.clk)] with
  | .error error => .error error
  | .ok owned =>
      match acquireBurst owned [pins.cs, pins.wr, pins.data, pins.clk] with
      | some (registers, [maskCS, maskWR, maskDATA, maskCLK]) =>
          if valid registers then .ok ⟨pins, ⟨maskCS, maskWR, maskDATA, maskCLK⟩, true⟩
          else .ok ⟨pins, ⟨0, 0, 0, 0⟩, false⟩
      | _ => .ok ⟨pins, ⟨0, 0, 0, 0⟩, false⟩

/-- What the pin writes among some events do. -/
def accesses (wiring : Wiring) (events : List Event) : List Access :=
  events.filterMap fun event =>
    match event with
    | .pin write => some (pinWrite wiring write)
    | .set _ | .delay _ => none

/-! ### What a store drives -/

def inMask (mask : UInt32) (bcmGpio : Nat) : Bool := mask.toNat.testBit bcmGpio

/-- The lines of a mask, in the order of its bits. -/
def linesOf (mask : UInt32) : List Nat := (List.range 32).filter (inMask mask)

/-- The writes of single lines that an access stands for. -/
def writesOf : Access → List (Int × GpioValue)
  | .gpioWrite bcmGpio value => [(bcmGpio, value)]
  | .setRegister mask => (linesOf mask).map fun (line : Nat) => ((line : Int), .high)
  | .clearRegister mask => (linesOf mask).map fun (line : Nat) => ((line : Int), .low)

def Access.isStore : Access → Bool
  | .gpioWrite _ _ => false
  | _ => true

/-- The levels of all lines after an access. -/
def driven (levels : Int → GpioValue) (access : Access) : Int → GpioValue :=
  (writesOf access).foldl (fun levels write => Function.update levels write.1 write.2) levels

theorem linesOf_mask : ∀ bcmGpio < 32,
    linesOf (1 <<< UInt32.ofNat bcmGpio) = [bcmGpio] := by
  decide

theorem writesOf_burst {bcmGpio : Int} (supported : supportsOffset bcmGpio = true)
    (value : GpioValue) :
    writesOf (burstWrite (maskForOffset bcmGpio) value) = [(bcmGpio, value)] := by
  simp only [supportsOffset, Bool.and_eq_true, decide_eq_true_eq] at supported
  have line : ((bcmGpio.toNat : Nat) : Int) = bcmGpio := Int.toNat_of_nonneg supported.1
  have lines : linesOf (maskForOffset bcmGpio) = [bcmGpio.toNat] :=
    linesOf_mask bcmGpio.toNat (by omega)
  unfold burstWrite
  cases value with
  | low =>
      rw [if_neg (by decide), writesOf, lines, List.map_singleton, line]
  | high =>
      rw [if_pos rfl, writesOf, lines, List.map_singleton, line]

theorem isStore_burst (mask : UInt32) (value : GpioValue) :
    (burstWrite mask value).isStore = true := by
  unfold burstWrite
  split <;> rfl

/-! ### begin -/

/-- The masks belong to the pins. -/
def Matched (wiring : Wiring) : Prop :=
  wiring.burstReady = true → ∀ line,
    supportsOffset (wiring.pins.of line) = true ∧
      wiring.masks.of line = maskForOffset (wiring.pins.of line)

theorem burstMask_some {gpio : GpiodV2Gpio} {bcmGpio : Int} {mask : UInt32}
    (granted : burstMask gpio bcmGpio = some mask) :
    supportsOffset bcmGpio = true ∧ mask = maskForOffset bcmGpio := by
  unfold burstMask at granted
  split at granted
  · cases granted
  · split at granted
    · cases granted
    · split at granted
      · cases granted
      · rename_i supported
        cases granted
        exact ⟨by simpa using supported, rfl⟩

theorem acquireBurst_some {gpio : GpiodV2Gpio} {pins : ForLines Int}
    {registers : BurstRegisters} {masks : List UInt32}
    (acquired : acquireBurst gpio [pins.cs, pins.wr, pins.data, pins.clk] =
      some (registers, masks)) :
    gpio.valueIo.burstRegisters = some registers ∧
      ∃ maskCS maskWR maskDATA maskCLK, masks = [maskCS, maskWR, maskDATA, maskCLK] ∧
        burstMask gpio pins.cs = some maskCS ∧ burstMask gpio pins.wr = some maskWR ∧
        burstMask gpio pins.data = some maskDATA ∧ burstMask gpio pins.clk = some maskCLK := by
  unfold acquireBurst at acquired
  rw [if_neg (by simp)] at acquired
  split at acquired
  · cases acquired
  · rename_i given exposed
    obtain ⟨handed, each, same⟩ := Option.map_eq_some_iff.mp acquired
    cases same
    refine ⟨exposed, ?_⟩
    simp only [List.mapM_cons, List.mapM_nil, Option.bind_eq_bind, Option.pure_def,
      Option.bind_eq_some_iff, Option.some.injEq] at each
    obtain ⟨maskCS, cs, _, ⟨maskWR, wr, _, ⟨maskDATA, data, _, ⟨maskCLK, clk, _, rfl, rfl⟩, rfl⟩,
      rfl⟩, rfl⟩ := each
    exact ⟨maskCS, maskWR, maskDATA, maskCLK, rfl, cs, wr, data, clk⟩

theorem beginPins_matched {gpio : GpiodV2Gpio} {pins : ForLines Int}
    {attempts : ForLines Attempt} {wiring : Wiring}
    (begun : beginPins gpio pins attempts = .ok wiring) :
    wiring.pins = pins ∧ Matched wiring := by
  unfold beginPins at begun
  split at begun
  · cases begun
  · split at begun
    · rename_i acquired
      split at begun
      · cases begun
        refine ⟨rfl, fun _ line => ?_⟩
        obtain ⟨_, _, _, _, _, same, cs, wr, data, clk⟩ := acquireBurst_some acquired
        cases same
        cases line with
        | cs => exact burstMask_some cs
        | wr => exact burstMask_some wr
        | data => exact burstMask_some data
        | clk => exact burstMask_some clk
      · cases begun
        exact ⟨rfl, nofun⟩
    · cases begun
      exact ⟨rfl, nofun⟩

def IsOutput (gpio : GpiodV2Gpio) (bcmGpio : Int) : Prop :=
  (gpio.lines[bcmGpio]?).map GpiodV2.Line.direction = some .output

theorem configureOutput_done {gpio : GpiodV2Gpio} {bcmGpio : Int} {initialValue : GpioValue}
    {attempt : Attempt} {result : Option GpioValue}
    (done : (configureOutput gpio bcmGpio initialValue attempt).1.result = .ok result) :
    let configured := (configureOutput gpio bcmGpio initialValue attempt).2
    configured.valueIo = gpio.valueIo ∧ IsOutput configured bcmGpio ∧
      ∀ other, IsOutput gpio other → IsOutput configured other := by
  unfold configureOutput at done ⊢
  by_cases ready : gpio.chip = true
  · rcases configure_cases ready bcmGpio .output initialValue attempt with
      ⟨_, error, same⟩ | ⟨_, error, same⟩ | ⟨_, same⟩
    · rw [same] at done
      cases done
    · rw [same] at done
      cases done
    · have absent := releaseOld_absent gpio bcmGpio
      rw [same]
      refine ⟨?_, ?_, fun other output => ?_⟩
      · unfold grantLine releaseOld
        split <;> rfl
      · unfold IsOutput
        rw [grantLine_lines absent, if_pos rfl]
        rfl
      · unfold IsOutput at output ⊢
        rw [grantLine_lines absent, releaseOld_lines]
        split
        · rfl
        · exact output
  · have closed : ensureInitialized gpio bcmGpio (Text.bytes "configure") = .error _ :=
      if_neg ready
    unfold configure at done
    rw [closed] at done
    cases done

theorem configureOutputs_done {calls : List (Int × GpioValue × Attempt)}
    {gpio owned : GpiodV2Gpio} (done : configureOutputs gpio calls = .ok owned) :
    owned.valueIo = gpio.valueIo ∧ (∀ call ∈ calls, IsOutput owned call.1) ∧
      ∀ other, IsOutput gpio other → IsOutput owned other := by
  induction calls generalizing gpio with
  | nil =>
      cases done
      exact ⟨rfl, List.forall_mem_nil _, fun _ output => output⟩
  | cons call rest ih =>
      obtain ⟨bcmGpio, initialValue, attempt⟩ := call
      unfold configureOutputs at done
      dsimp only at done
      split at done
      · cases done
      · rename_i result first
        obtain ⟨valueIo, here, kept⟩ := configureOutput_done first
        obtain ⟨same, later, keeps⟩ := ih done
        refine ⟨same.trans valueIo, ?_, fun other output => keeps other (kept other output)⟩
        rw [List.forall_mem_cons]
        exact ⟨keeps bcmGpio here, later⟩

theorem burstMask_output {gpio : GpiodV2Gpio} {bcmGpio : Int} (output : IsOutput gpio bcmGpio)
    (supported : supportsOffset bcmGpio = true) :
    burstMask gpio bcmGpio = some (maskForOffset bcmGpio) := by
  unfold burstMask
  obtain ⟨line, listed, direction⟩ := Option.map_eq_some_iff.mp output
  simp [listed, direction, supported]

/-- A backend that exposes its registers accepts four pins of the first bank. -/
theorem beginPins_ready {gpio : GpiodV2Gpio} {pins : ForLines Int}
    {attempts : ForLines Attempt} {wiring : Wiring}
    (begun : beginPins gpio pins attempts = .ok wiring)
    (supported : ∀ line, supportsOffset (pins.of line) = true) :
    wiring.burstReady = gpio.valueIo.burstRegisters.any valid := by
  unfold beginPins at begun
  split at begun
  · cases begun
  · rename_i owned configured
    obtain ⟨valueIo, outputs, _⟩ := configureOutputs_done configured
    simp only [List.forall_mem_cons, List.not_mem_nil, false_implies, implies_true,
      and_true] at outputs
    obtain ⟨cs, wr, data, clk⟩ := outputs
    have masks : acquireBurst owned [pins.cs, pins.wr, pins.data, pins.clk] =
        gpio.valueIo.burstRegisters.map fun registers =>
          (registers, [maskForOffset pins.cs, maskForOffset pins.wr, maskForOffset pins.data,
            maskForOffset pins.clk]) := by
      unfold acquireBurst
      rw [if_neg (by simp), valueIo]
      cases gpio.valueIo.burstRegisters with
      | none => rfl
      | some registers =>
          simp only [List.mapM_cons, List.mapM_nil, burstMask_output cs (supported .cs),
            burstMask_output wr (supported .wr), burstMask_output data (supported .data),
            burstMask_output clk (supported .clk)]
          rfl
    rw [masks] at begun
    cases exposed : gpio.valueIo.burstRegisters with
    | none =>
        rw [exposed] at begun
        cases begun
        rfl
    | some registers =>
        rw [exposed] at begun
        simp only [Option.map_some] at begun
        rw [Option.any_some]
        split at begun
        · rename_i usable
          cases begun
          exact usable.symm
        · rename_i useless
          cases begun
          exact (Bool.eq_false_iff.mpr useless).symm

/-! ### Runs -/

theorem pinWrite_burst {wiring : Wiring} (matched : Matched wiring)
    (ready : wiring.burstReady = true) (write : Write Line) :
    writesOf (pinWrite wiring write) = [(wiring.pins.of write.line, gpioValue write.level)] := by
  obtain ⟨supported, same⟩ := matched ready write.line
  unfold pinWrite
  rw [if_pos ready, same]
  exact writesOf_burst supported _

theorem pinWrite_declined {wiring : Wiring} (declined : wiring.burstReady = false)
    (write : Write Line) :
    pinWrite wiring write = .gpioWrite (wiring.pins.of write.line) (gpioValue write.level) := by
  unfold pinWrite
  rw [if_neg (by rw [declined]; exact Bool.false_ne_true)]

theorem pinWrite_writes {wiring : Wiring} (matched : Matched wiring) (write : Write Line) :
    writesOf (pinWrite wiring write) = [(wiring.pins.of write.line, gpioValue write.level)] := by
  cases ready : wiring.burstReady with
  | false =>
      rw [pinWrite_declined ready]
      rfl
  | true => exact pinWrite_burst matched ready write

theorem mem_accesses {wiring : Wiring} {events : List Event} {access : Access}
    (inside : access ∈ accesses wiring events) :
    ∃ write, access = pinWrite wiring write := by
  obtain ⟨event, _, made⟩ := List.mem_filterMap.mp inside
  cases event with
  | pin write => exact ⟨write, (Option.some.inj made).symm⟩
  | set display => cases made
  | delay milliseconds => cases made

theorem accesses_writes {wiring fallback : Wiring} (matched : Matched wiring)
    (plain : Matched fallback) (same : wiring.pins = fallback.pins) (events : List Event) :
    (accesses wiring events).flatMap writesOf = (accesses fallback events).flatMap writesOf := by
  induction events with
  | nil => rfl
  | cons event rest ih =>
      cases event with
      | pin write =>
          have split : ∀ wires : Wiring, accesses wires (.pin write :: rest) =
              pinWrite wires write :: accesses wires rest := fun _ => rfl
          rw [split, split, List.flatMap_cons, List.flatMap_cons, pinWrite_writes matched,
            pinWrite_writes plain, ih, same]
      | set display => exact ih
      | delay milliseconds => exact ih

/-- The display after `begin`. -/
def begunDisplay (memory : Fin 3 → Cells) : Display :=
  final observe (Display.new memory) (beginDisplay (Display.new memory))

/-- The register path of a backend that accepts and the `gpio.write` path of one that declines
write the same levels to the same pins in the same order, and no store touches another pin. -/
theorem burst_writes_same {gpio fallback : GpiodV2Gpio} {pins : ForLines Int}
    {attempts others : ForLines Attempt} {wiring plain : Wiring}
    (begun : beginPins gpio pins attempts = .ok wiring)
    (declined : beginPins fallback pins others = .ok plain)
    (declines : plain.burstReady = false) (supported : ∀ line, supportsOffset (pins.of line) = true)
    (memory : Fin 3 → Cells) (ops : List Op) :
    let events := performAll ops (begunDisplay memory)
    wiring.burstReady = gpio.valueIo.burstRegisters.any valid ∧
    (wiring.burstReady = true →
      (∀ access ∈ accesses wiring events, access.isStore = true) ∧
      (accesses wiring events).flatMap writesOf = (accesses plain events).flatMap writesOf ∧
      ∀ access ∈ accesses wiring events, ∀ levels bcmGpio, (∀ line, pins.of line ≠ bcmGpio) →
        driven levels access bcmGpio = levels bcmGpio) ∧
    (wiring.burstReady = false → accesses wiring events = accesses plain events) ∧
    ∀ access ∈ accesses plain events, ∃ line level, access = .gpioWrite (pins.of line) level := by
  intro events
  obtain ⟨same, matched⟩ := beginPins_matched begun
  obtain ⟨alike, kept⟩ := beginPins_matched declined
  have paired : wiring.pins = plain.pins := same.trans alike.symm
  -- Both wirings have the same pins, so they differ only in how a write is carried out.
  refine ⟨beginPins_ready begun supported, fun ready => ⟨?_, ?_, ?_⟩, fun refused => ?_, ?_⟩
  · intro access inside
    obtain ⟨write, rfl⟩ := mem_accesses inside
    unfold pinWrite
    rw [if_pos ready]
    exact isStore_burst _ _
  · exact accesses_writes matched kept paired events
  · intro access inside levels bcmGpio outside
    obtain ⟨write, rfl⟩ := mem_accesses inside
    unfold driven
    rw [pinWrite_burst matched ready, same]
    exact Function.update_of_ne (Ne.symm (outside write.line)) _ _
  · have writes : pinWrite wiring = pinWrite plain := by
      funext write
      rw [pinWrite_declined refused, pinWrite_declined declines, paired]
    unfold accesses
    rw [writes]
  · intro access inside
    obtain ⟨write, rfl⟩ := mem_accesses inside
    exact ⟨write.line, _, by rw [pinWrite_declined declines, alike]⟩

/-- The mapped registers of a board, at the offsets 0x1c and 0x28. -/
def mmapValueIo : ValueIo := ⟨Text.bytes "BCM2835 /dev/gpiomem", some ⟨0x2020001c, 0x20200028⟩⟩

def onBoard (valueIo : ValueIo) : GpiodV2Gpio := (initializeGpio (.new valueIo) board).2.2

def matrixPins : ForLines Int := ⟨6, 13, 19, 26⟩

def allGranting : ForLines Attempt := ⟨granting, granting, granting, granting⟩

def burstWiring : Wiring := ⟨matrixPins, ⟨0x40, 0x2000, 0x80000, 0x4000000⟩, true⟩

def plainWiring : Wiring := ⟨matrixPins, ⟨0, 0, 0, 0⟩, false⟩

theorem burst_writes_same_board :
    let events := performAll [.setPixel 3 5 true, .renderAll]
      (begunDisplay fun _ => .replicate addrSpaceSize 0)
    (accesses burstWiring events).flatMap writesOf =
      (accesses plainWiring events).flatMap writesOf := by
  have begun : beginPins (onBoard mmapValueIo) matrixPins allGranting = .ok burstWiring := rfl
  have declined : beginPins (onBoard libgpiodValueIo) matrixPins allGranting =
      .ok plainWiring := rfl
  have supported : ∀ line, supportsOffset (matrixPins.of line) = true := by
    intro line
    cases line <;> rfl
  have both := burst_writes_same begun declined rfl supported
    (fun _ => .replicate addrSpaceSize 0) [.setPixel 3 5 true, .renderAll]
  exact (both.2.1 rfl).2.1

end OClock.MatrixWiring
