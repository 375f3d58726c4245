import OClock.GpiodV2
import OClock.Dialogs

/-!
The transport of linuxSpidevOutput.cpp. Every call of the kernel may fail; an exception is the
error of `ExceptT`. The guard of the mutex makes each method one program.
-/

namespace OClock.LinuxSpidev
open Text GpiodV2

abbrev Fd := Nat

def eintr : Int := 4
def e2big : Int := 7
def eexist : Int := 17
def globNoMatch : Int := 3

def stripSpeedHz : UInt32 := 2000000
def stripBitsPerWord : UInt32 := 8

/-- What `configure` sets and reads back. -/
inductive Setting where
  | mode32
  | bitsPerWord
  | lsbFirst
  | maxSpeedHz
  deriving DecidableEq

def wanted : Setting → UInt32
  | .mode32 | .lsbFirst => 0
  | .bitsPerWord => stripBitsPerWord
  | .maxSpeedHz => stripSpeedHz

structure SpiError where
  operation : Bytes
  path : Bytes
  errorNumber : Int
  deriving DecidableEq

/-- The message of `spiError`. -/
def SpiError.what (strerror : Int → Bytes) (error : SpiError) : Bytes :=
  bytes "spidev " ++ error.operation ++ bytes " failed" ++
  (if error.path.isEmpty then [] else bytes " on " ++ error.path) ++
  (if error.errorNumber ≠ 0 then bytes ": " ++ strerror error.errorNumber else [])

/-- The calls of the kernel and of the C library. -/
inductive Syscall where
  | glob (pattern : Bytes)
  | globfree
  | realpath (path : Bytes)
  | stat (path : Bytes)
  | openDevice (path : Bytes)
  | close (fd : Fd)
  | writeSetting (fd : Fd) (setting : Setting) (value : UInt32)
  | readSetting (fd : Fd) (setting : Setting)
  | message (fd : Fd) (data : Bytes)
  | printError (error : SpiError)

/-- An error is `errno`, and the result of `glob`. -/
def Answer : Syscall → Type
  | .glob _ => Except Int (List Bytes)
  | .realpath _ => Except Int Bytes
  | .stat _ => Except Int Bool
  | .openDevice _ => Except Int Fd
  | .writeSetting .. => Except Int Unit
  | .readSetting .. => Except Int UInt32
  | .message .. => Except Int Nat
  | .globfree | .close _ | .printError _ => Unit

abbrev Asks := Dialog Answer
abbrev Throws := ExceptT SpiError Asks

def glob (pattern : Bytes) : Asks (Except Int (List Bytes)) := Dialog.request (Syscall.glob pattern)
def globfree : Asks Unit := Dialog.request Syscall.globfree
def realpath (path : Bytes) : Asks (Except Int Bytes) := Dialog.request (Syscall.realpath path)
def stat (path : Bytes) : Asks (Except Int Bool) := Dialog.request (Syscall.stat path)
def openDevice (path : Bytes) : Asks (Except Int Fd) := Dialog.request (Syscall.openDevice path)
def close (fd : Fd) : Asks Unit := Dialog.request (Syscall.close fd)
def writeSetting (fd : Fd) (setting : Setting) (value : UInt32) : Asks (Except Int Unit) :=
  Dialog.request (Syscall.writeSetting fd setting value)
def readSetting (fd : Fd) (setting : Setting) : Asks (Except Int UInt32) :=
  Dialog.request (Syscall.readSetting fd setting)
def printError (error : SpiError) : Asks Unit := Dialog.request (Syscall.printError error)

/-- A signal interrupts the call. -/
def interrupted : Except Int Nat → Bool
  | .error errno => errno == eintr
  | .ok _ => false

/-- The call is made again for as long as it is interrupted. -/
def sendMessage (fd : Fd) (data : Bytes) : Asks (Except Int Nat) :=
  Dialog.retrying (Syscall.message fd data) interrupted

/-- No descriptor is the `fd_` of -1. -/
structure LinuxSpidevOutput where
  fd : Option Fd
  devicePath : Bytes

def LinuxSpidevOutput.new : LinuxSpidevOutput := ⟨none, []⟩

def spiDevicesPattern : Bytes := bytes "/sys/bus/spi/devices/spi*.*"
def stripDeviceTreeSuffix : Bytes := bytes "/oclock-strip-spi/lpd8806@0"

def endsWith (value suffix : Bytes) : Bool := suffix.isSuffixOf value

/-- A call whose failure is thrown, with `errno`. -/
def orThrow {α : Type} (operation path : Bytes) (call : Asks (Except Int α)) : Throws α := do
  match ← call with
  | .ok value => pure value
  | .error errno => throw ⟨operation, path, errno⟩

def resolvedPath (path : Bytes) : Throws Bytes :=
  orThrow (bytes "Device Tree discovery") path (realpath path)

/-- One turn of the loop over the children. What it throws is caught. -/
def matchChild (found : List Bytes) (child : Bytes) : Asks (List Bytes) := do
  match ← (resolvedPath (child ++ bytes "/of_node")).run with
  | .ok resolved =>
      pure (if endsWith resolved stripDeviceTreeSuffix then found ++ [child] else found)
  | .error _ => pure found

/-- What follows the last slash. -/
def childName (path : Bytes) : Bytes := (path.reverse.takeWhile fun c => c != 47).reverse

def discoverStripDevice : Throws Bytes := do
  match ← glob spiDevicesPattern with
  | .error result =>
      globfree
      throw ⟨bytes "discovery (no SPI children)", spiDevicesPattern,
        if result = globNoMatch then enoent else eio⟩
  | .ok paths =>
      let found ← (paths.foldlM matchChild [] : Asks (List Bytes))
      globfree
      match found with
      | [sysfsPath] =>
          if (childName sysfsPath).take 3 ≠ bytes "spi" ∨ (childName sysfsPath).length ≤ 3 then
            throw ⟨bytes "discovery (unexpected SPI child name)", sysfsPath, einval⟩
          else pure (bytes "/dev/spidev" ++ (childName sysfsPath).drop 3)
      | _ =>
          throw ⟨bytes "discovery (expected exactly one Office Clock strip child)",
            spiDevicesPattern, if found.isEmpty then enodev else eexist⟩

def writeWanted (fd : Fd) (devicePath : Bytes) (setting : Setting) (operation : Bytes) :
    Throws Unit :=
  orThrow operation devicePath (writeSetting fd setting (wanted setting))

def readBack (fd : Fd) (devicePath : Bytes) (setting : Setting) : Throws UInt32 :=
  orThrow (bytes "configuration verification") devicePath (readSetting fd setting)

def configure (fd : Fd) (devicePath : Bytes) : Throws Unit := do
  writeWanted fd devicePath .mode32 (bytes "mode configuration")
  writeWanted fd devicePath .bitsPerWord (bytes "word-size configuration")
  writeWanted fd devicePath .lsbFirst (bytes "bit-order configuration")
  writeWanted fd devicePath .maxSpeedHz (bytes "speed configuration")
  let actualMode ← readBack fd devicePath .mode32
  let actualBits ← readBack fd devicePath .bitsPerWord
  let actualLsbFirst ← readBack fd devicePath .lsbFirst
  let actualSpeed ← readBack fd devicePath .maxSpeedHz
  if actualMode ≠ wanted .mode32 ∨ actualBits ≠ wanted .bitsPerWord ∨
      actualLsbFirst ≠ wanted .lsbFirst ∨ actualSpeed ≠ wanted .maxSpeedHz then
    throw ⟨bytes "configuration verification (unexpected values)", devicePath, einval⟩
  else pure ()

/-- The path of the device, up to the call of `open`. -/
def lookUp : Throws Bytes := do
  let devicePath ← discoverStripDevice
  let isCharacterDevice ← orThrow (bytes "device lookup") devicePath (stat devicePath)
  if isCharacterDevice then pure devicePath
  else throw ⟨bytes "device validation (not a character device)", devicePath, enodev⟩

/-- The handler of the exceptions of `initialize`. -/
def giveUp (fd : Option Fd) (error : SpiError) : Asks (Bool × LinuxSpidevOutput) := do
  printError error
  fd.forM close
  pure (false, .new)

def openOutput : Asks (Bool × LinuxSpidevOutput) := do
  match ← lookUp.run with
  | .error error => giveUp none error
  | .ok devicePath =>
      match ← openDevice devicePath with
      | .error errno => giveUp none ⟨bytes "open", devicePath, errno⟩
      | .ok fd =>
          match ← (configure fd devicePath).run with
          | .error error => giveUp (some fd) error
          | .ok () => pure (true, ⟨some fd, devicePath⟩)

def initializeOutput (output : LinuxSpidevOutput) : Asks (Bool × LinuxSpidevOutput) :=
  if output.fd.isSome then pure (true, output) else openOutput

/-- `data` and `length`: a null pointer has a length all the same. -/
inductive Buffer where
  | null (length : Nat)
  | holding (data : Bytes)

def uint32Max : Nat := 4294967295

/-- A payload that passed the checks. -/
def sendPayload (fd : Fd) (devicePath data : Bytes) : Throws Unit := do
  let result ← orThrow (bytes "transfer") devicePath (sendMessage fd data)
  if (result : Int) ≠ int32 data.length then
    throw ⟨bytes "transfer (short write)", devicePath, eio⟩
  else pure ()

def transfer (output : LinuxSpidevOutput) (buffer : Buffer) : Throws Unit :=
  match output.fd, buffer with
  | none, _ => throw ⟨bytes "transfer (transport not initialized)", output.devicePath, enodev⟩
  | some _, .null length =>
      if length ≠ 0 then throw ⟨bytes "transfer (data is missing)", output.devicePath, einval⟩
      else pure ()
  | some fd, .holding data =>
      if uint32Max < data.length then
        throw ⟨bytes "transfer (payload is too large)", output.devicePath, e2big⟩
      else if data = [] then pure ()
      else sendPayload fd output.devicePath data

/-- The destructor. -/
def destroy (output : LinuxSpidevOutput) : Asks Unit := output.fd.forM close

/-! ### A life of the object -/

inductive Call where
  | initializeOutput
  | transfer (buffer : Buffer)

inductive Reply where
  | initialized (result : Bool)
  | transferred (result : Except SpiError Unit)

/-- The replies so far, and the object. -/
def perform (state : List Reply × LinuxSpidevOutput) (call : Call) :
    Asks (List Reply × LinuxSpidevOutput) :=
  match call with
  | .initializeOutput => do
      let answered ← initializeOutput state.2
      pure (state.1 ++ [.initialized answered.1], answered.2)
  | .transfer buffer => do
      let result ← (transfer state.2 buffer).run
      pure (state.1 ++ [.transferred result], state.2)

def life (calls : List Call) : Asks (List Reply) := do
  let state ← calls.foldlM perform ([], .new)
  destroy state.2
  pure state.1

end OClock.LinuxSpidev
