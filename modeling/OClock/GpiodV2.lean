import OClock.Machine
import OClock.OrderedMap
import OClock.Text

/-!
The libgpiod backend of gpiodV2Gpio.cpp. Every call of the library may fail: what the
library answers comes with each call. A request it grants is one it never granted before.
-/

namespace OClock.GpiodV2
open Text

inductive GpioValue where
  | low
  | high
  deriving DecidableEq

/-- `gpiod_line_direction` -/
inductive LineDirection where
  | input
  | output
  deriving DecidableEq

/-- A `gpiod_line_request`, by its number among all that the library grants: it hands out pointers,
of which none is granted again while it is held. -/
abbrev Request := Nat

structure Line where
  request : Request
  direction : LineDirection
  deriving DecidableEq

/-- The registers of a value backend, 0 for a null pointer. -/
structure BurstRegisters where
  setRegister : Nat
  clearRegister : Nat
  deriving DecidableEq

/-- The parts of `GpiodValueIo` that do not depend on a line. -/
structure ValueIo where
  description : Bytes
  burstRegisters : Option BurstRegisters

def enoent : Int := 2
def eio : Int := 5
def enodev : Int := 19
def einval : Int := 22
def erange : Int := 34

structure GpioError where
  operation : Bytes
  chipPath : Bytes
  bcmGpio : Int
  errorNumber : Int
  deriving DecidableEq

/-- The message of `gpioError`. -/
def GpioError.what (strerror : Int → Bytes) (error : GpioError) : Bytes :=
  bytes "libgpiod " ++ error.operation ++ bytes " failed" ++
  (if error.chipPath.isEmpty then [] else bytes " on " ++ error.chipPath) ++
  (if 0 ≤ error.bcmGpio then bytes " BCM GPIO " ++ decimalInt error.bcmGpio else []) ++
  (if error.errorNumber ≠ 0 then bytes ": " ++ strerror error.errorNumber else [])

/-- `chip` says whether `chip_` is not null; `nextRequest` is what the library grants next. -/
structure GpiodV2Gpio where
  chip : Bool
  chipPath : Bytes
  lineCount : Nat
  lines : OrderedMap Int Line
  valueIo : ValueIo
  nextRequest : Request

def GpiodV2Gpio.new (valueIo : ValueIo) : GpiodV2Gpio := ⟨false, [], 0, ∅, valueIo, 0⟩

def gpioError (gpio : GpiodV2Gpio) (operation : Bytes) (bcmGpio errorNumber : Int) : GpioError :=
  ⟨operation, gpio.chipPath, bcmGpio, errorNumber⟩

/-! ### initialize -/

def expectedChipLabel : Bytes := bytes "pinctrl-bcm2835"

def requiredOffsets : List Nat := [4, 6, 10, 13, 17, 19, 20, 21, 22, 26, 27]

def greatestRequiredOffset : Nat := 27

/-- A path that `glob` found: whether it opens, and its label and number of lines when it
has them. -/
structure Candidate where
  path : Bytes
  opens : Bool
  info : Option (Option Bytes × Nat)

/-- What the library and the value backend answer during `initialize`. -/
structure Host where
  paths : Except Int (List Candidate)
  lineName : Nat → Except Int (Option Bytes)
  valueIo : Except Bytes Unit

def matchesChip (candidate : Candidate) : Bool :=
  candidate.opens && candidate.info.any fun info =>
    info.1 == some expectedChipLabel && decide (greatestRequiredOffset < info.2)

def discoverChip (gpio : GpiodV2Gpio) (host : Host) : Except GpioError GpiodV2Gpio :=
  match host.paths with
  | .error errorNumber =>
      .error ⟨bytes "chip discovery (no /dev/gpiochip* devices)", [], -1, errorNumber⟩
  | .ok paths =>
      match paths.find? matchesChip with
      | some ⟨path, _, some (_, lineCount)⟩ =>
          .ok { gpio with chip := true, chipPath := path, lineCount }
      | _ => .error ⟨bytes "chip discovery (label pinctrl-bcm2835 not found)", [], -1, enodev⟩

def validateOffset (gpio : GpiodV2Gpio) (host : Host) (offset : Nat) : Except GpioError Unit :=
  if gpio.lineCount ≤ offset then .error (gpioError gpio (bytes "line validation") offset erange)
  else
    match host.lineName offset with
    | .error errno => .error (gpioError gpio (bytes "line-info lookup") offset errno)
    | .ok name =>
        let expectedName := bytes "GPIO" ++ decimal offset
        if name = some expectedName then .ok ()
        else
          .error (gpioError gpio (bytes "line-name validation (expected " ++ expectedName ++
            bytes ")") offset einval)

def validateRequiredOffsets (gpio : GpiodV2Gpio) (host : Host) : Except GpioError Unit :=
  requiredOffsets.forM (validateOffset gpio host)

/-- Why `initialize` gives up. -/
inductive InitializeError where
  | gpio (error : GpioError)
  | valueIo (message : Bytes)

def tryInitialize (gpio : GpiodV2Gpio) (host : Host) : Except InitializeError GpiodV2Gpio :=
  match discoverChip gpio host with
  | .error error => .error (.gpio error)
  | .ok found =>
      match validateRequiredOffsets found host with
      | .error error => .error (.gpio error)
      | .ok () =>
          match host.valueIo with
          | .error valueIoError =>
              .error (.valueIo (gpio.valueIo.description ++ bytes " initialization failed: " ++
                valueIoError))
          | .ok () => .ok found

/-- What the backend does to the library and to its value path. -/
inductive Effect where
  | granted (request : Request) (bcmGpio : Int) (direction : LineDirection)
      (initialValue : GpioValue)
  | released (request : Request)
  | valueRead (request : Request) (bcmGpio : Int)
  | valueWritten (request : Request) (bcmGpio : Int) (value : GpioValue)
  deriving DecidableEq

/-- `gpiod_line_request_release` of every line, in the order of the pins. -/
def releaseLines (gpio : GpiodV2Gpio) : List Effect × GpiodV2Gpio :=
  (gpio.lines.toList.map fun entry => .released entry.2.request, { gpio with lines := ∅ })

/-- The message of a failure goes to the error output. -/
def initializeGpio (gpio : GpiodV2Gpio) (host : Host) : Bool × List Effect × GpiodV2Gpio :=
  if gpio.chip then (true, [], gpio)
  else
    match tryInitialize gpio host with
    | .ok ready => (true, [], ready)
    | .error _ =>
        let released := releaseLines gpio
        (false, released.1,
          { released.2 with chip := false, chipPath := [], lineCount := 0 })

/-- The destructor. -/
def destroy (gpio : GpiodV2Gpio) : List Effect := (releaseLines gpio).1

/-! ### Lines -/

/-- What the library answers while a line is configured, and `errno` after a failure. -/
structure Attempt where
  settingsNew : Bool
  lineConfigNew : Bool
  requestConfigNew : Bool
  setDirection : Bool
  setOutputValue : Bool
  addLineSettings : Bool
  requestLines : Bool
  errno : Int

/-- The first step of a configuration that fails, if one does. -/
def failedStep (direction : LineDirection) (attempt : Attempt) : Option Bytes :=
  if !attempt.settingsNew || !attempt.lineConfigNew || !attempt.requestConfigNew then
    some (bytes "request allocation")
  else if !attempt.setDirection then some (bytes "direction setup")
  else if direction = .output && !attempt.setOutputValue then some (bytes "initial-value setup")
  else if !attempt.addLineSettings then some (bytes "line configuration")
  else if !attempt.requestLines then some (bytes "line request")
  else none

structure Outcome where
  result : Except GpioError (Option GpioValue)
  effects : List Effect

def refused (error : GpioError) : Outcome := ⟨.error error, []⟩

def ensureInitialized (gpio : GpiodV2Gpio) (bcmGpio : Int) (operation : Bytes) :
    Except GpioError Unit :=
  if gpio.chip then .ok ()
  else .error (gpioError gpio (operation ++ bytes " (backend not initialized)") bcmGpio enodev)

/-- The old request of a pin goes first. -/
def releaseOld (gpio : GpiodV2Gpio) (bcmGpio : Int) : List Effect × GpiodV2Gpio :=
  match gpio.lines[bcmGpio]? with
  | none => ([], gpio)
  | some old => ([.released old.request], { gpio with lines := gpio.lines.erase bcmGpio })

def configure (gpio : GpiodV2Gpio) (bcmGpio : Int) (direction : LineDirection)
    (initialValue : GpioValue) (attempt : Attempt) : Outcome × GpiodV2Gpio :=
  match ensureInitialized gpio bcmGpio (bytes "configure") with
  | .error error => (refused error, gpio)
  | .ok () =>
      if bcmGpio < 0 ∨ (gpio.lineCount : Int) ≤ bcmGpio then
        (refused (gpioError gpio (bytes "configure") bcmGpio erange), gpio)
      else
        let old := releaseOld gpio bcmGpio
        match failedStep direction attempt with
        | some operation =>
            (⟨.error (gpioError gpio operation bcmGpio attempt.errno), old.1⟩, old.2)
        | none =>
            let request := old.2.nextRequest
            (⟨.ok none, old.1 ++ [.granted request bcmGpio direction initialValue]⟩,
              { old.2 with
                lines := old.2.lines.insertIfNew bcmGpio ⟨request, direction⟩
                nextRequest := request + 1 })

def configureInput (gpio : GpiodV2Gpio) (bcmGpio : Int) (attempt : Attempt) :
    Outcome × GpiodV2Gpio := configure gpio bcmGpio .input .low attempt

def configureOutput (gpio : GpiodV2Gpio) (bcmGpio : Int) (initialValue : GpioValue)
    (attempt : Attempt) : Outcome × GpiodV2Gpio :=
  configure gpio bcmGpio .output initialValue attempt

def getConfiguredLine (gpio : GpiodV2Gpio) (bcmGpio : Int) (direction : LineDirection)
    (operation : Bytes) : Except GpioError Line :=
  match ensureInitialized gpio bcmGpio operation with
  | .error error => .error error
  | .ok () =>
      let missing := gpioError gpio (operation ++ bytes " (line not configured for " ++
        (if direction = .input then bytes "input)" else bytes "output)")) bcmGpio einval
      match gpio.lines[bcmGpio]? with
      | none => .error missing
      | some line => if line.direction = direction then .ok line else .error missing

/-- The value backend answers with an error number, 0 for none, and a value. -/
def read (gpio : GpiodV2Gpio) (bcmGpio errorNumber : Int) (value : GpioValue) : Outcome :=
  match getConfiguredLine gpio bcmGpio .input (bytes "read") with
  | .error error => refused error
  | .ok line =>
      ⟨if errorNumber ≠ 0 then
          .error (gpioError gpio (gpio.valueIo.description ++ bytes " read") bcmGpio errorNumber)
        else .ok (some value),
        [.valueRead line.request bcmGpio]⟩

def write (gpio : GpiodV2Gpio) (bcmGpio : Int) (value : GpioValue) (errorNumber : Int) :
    Outcome :=
  match getConfiguredLine gpio bcmGpio .output (bytes "write") with
  | .error error => refused error
  | .ok line =>
      ⟨if errorNumber ≠ 0 then
          .error (gpioError gpio (gpio.valueIo.description ++ bytes " write") bcmGpio errorNumber)
        else .ok none,
        [.valueWritten line.request bcmGpio value]⟩

/-! ### The register path -/

/-- `Bcm2835GpioRegisters::supportsOffset` -/
def supportsOffset (bcmGpio : Int) : Bool := 0 ≤ bcmGpio && bcmGpio < 32

/-- `Bcm2835GpioRegisters::maskForOffset` -/
def maskForOffset (bcmGpio : Int) : UInt32 := 1 <<< UInt32.ofNat bcmGpio.toNat

def burstMask (gpio : GpiodV2Gpio) (bcmGpio : Int) : Option UInt32 :=
  match gpio.lines[bcmGpio]? with
  | none => none
  | some line =>
      if line.direction ≠ .output then none
      else if !supportsOffset bcmGpio then none
      else some (maskForOffset bcmGpio)

/-- The masks go by the position of their pins, for all pins or for none. -/
def acquireBurst (gpio : GpiodV2Gpio) (bcmGpios : List Int) :
    Option (BurstRegisters × List UInt32) :=
  if bcmGpios = [] then none
  else
    match gpio.valueIo.burstRegisters with
    | none => none
    | some registers => (bcmGpios.mapM (burstMask gpio)).map fun masks => (registers, masks)

/-! ### Runs -/

inductive Call where
  | configureInput (bcmGpio : Int) (attempt : Attempt)
  | configureOutput (bcmGpio : Int) (initialValue : GpioValue) (attempt : Attempt)
  | read (bcmGpio errorNumber : Int) (value : GpioValue)
  | write (bcmGpio : Int) (value : GpioValue) (errorNumber : Int)

def step (gpio : GpiodV2Gpio) : Call → Outcome × GpiodV2Gpio
  | .configureInput bcmGpio attempt => configureInput gpio bcmGpio attempt
  | .configureOutput bcmGpio initialValue attempt =>
      configureOutput gpio bcmGpio initialValue attempt
  | .read bcmGpio errorNumber value => (read gpio bcmGpio errorNumber value, gpio)
  | .write bcmGpio value errorNumber => (write gpio bcmGpio value errorNumber, gpio)

end OClock.GpiodV2
