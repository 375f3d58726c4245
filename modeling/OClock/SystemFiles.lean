import OClock.LoggedSteps
import OClock.StatusReport
import OClock.TextStreams

/-!
The readers of /proc/loadavg and /proc/meminfo in statusReport.cpp. A file that cannot be opened
has no content.
-/

namespace OClock.SystemFiles
open Text TextStreams StatusReport LoggedSteps

/-! ### A load average -/

/-- Leaves room for two more digits in 32 bits. -/
def maxWhole : UInt32 := 42949671

/-- `(Int32U) (token[i] - '0')` -/
def digitOf (c : UInt8) : UInt32 := UInt32.ofNat (digitValue c)

/-- The loop over the whole part, and what it leaves of the token. -/
def readWhole : UInt32 → Bytes → Option (UInt32 × Bytes)
  | whole, [] => some (whole, [])
  | whole, c :: rest =>
      if isDigit c then
        if (maxWhole - digitOf c) / 10 < whole then none
        else readWhole (whole * 10 + digitOf c) rest
      else some (whole, c :: rest)

/-- The loop over the fraction: the number of its digits, its value, and what is left. -/
def readFraction : Nat → UInt32 → Bytes → Option (Nat × UInt32 × Bytes)
  | fractionDigits, fraction, [] => some (fractionDigits, fraction, [])
  | fractionDigits, fraction, c :: rest =>
      if isDigit c then
        if 2 < fractionDigits + 1 then none
        else readFraction (fractionDigits + 1) (fraction * 10 + digitOf c) rest
      else some (fractionDigits, fraction, c :: rest)

/-- What follows the whole part. -/
def fractionOf : Bytes → Option UInt32
  | [] => some 0
  | c :: rest =>
      if c ≠ 46 then none
      else
        match readFraction 0 0 rest with
        | none => none
        | some (fractionDigits, fraction, junk) =>
            if fractionDigits = 0 then none
            else
              let fraction := if fractionDigits = 1 then fraction * 10 else fraction
              if junk ≠ [] then none else some fraction

def readHundredths (token : Bytes) : Option UInt32 :=
  if token = [] then none
  else
    match readWhole 0 token with
    | none => none
    | some (whole, rest) =>
        -- No digit was read.
        if rest = token then none
        else (fractionOf rest).map fun fraction => whole * 100 + fraction

def parseHundredths (token : Bytes) (hundredths : UInt32) : Bool × UInt32 :=
  match readHundredths token with
  | none => (false, hundredths)
  | some value => (true, value)

example : [readHundredths (bytes "0.14"), readHundredths (bytes "12.3"), readHundredths (bytes "7"),
    readHundredths (bytes "1."), readHundredths (bytes "1.234")] =
      [some 14, some 1230, some 700, none, none] := by decide

/-! ### The same with the exact results of its operations -/

/-- An operation of 32 bits, which is logged with the result it has without a wrap. -/
def uint32 (exact : Int) : LoggedSteps Int UInt32 := did exact (some (UInt32.ofInt exact))

def signed (value : UInt32) : Int := value.toNat

/-- `value * 10 + digit` -/
def shiftedLogged (value digit : UInt32) : LoggedSteps Int UInt32 := do
  let tens ← uint32 (signed value * 10)
  uint32 (signed tens + signed digit)

def readWholeLogged : UInt32 → Bytes → LoggedSteps Int (Option (UInt32 × Bytes))
  | whole, [] => return some (whole, [])
  | whole, c :: rest =>
      if isDigit c then do
        let room ← uint32 (signed maxWhole - signed (digitOf c))
        if room / 10 < whole then return none
        else readWholeLogged (← shiftedLogged whole (digitOf c)) rest
      else return some (whole, c :: rest)

def readFractionLogged : Nat → UInt32 → Bytes → LoggedSteps Int (Option (Nat × UInt32 × Bytes))
  | fractionDigits, fraction, [] => return some (fractionDigits, fraction, [])
  | fractionDigits, fraction, c :: rest =>
      if isDigit c then
        if 2 < fractionDigits + 1 then return none
        else do
          readFractionLogged (fractionDigits + 1) (← shiftedLogged fraction (digitOf c)) rest
      else return some (fractionDigits, fraction, c :: rest)

def fractionOfLogged : Bytes → LoggedSteps Int (Option UInt32)
  | [] => return some 0
  | c :: rest =>
      if c ≠ 46 then return none
      else do
        match ← readFractionLogged 0 0 rest with
        | none => return none
        | some (fractionDigits, fraction, junk) =>
            if fractionDigits = 0 then return none
            else
              let fraction ←
                if fractionDigits = 1 then uint32 (signed fraction * 10) else pure fraction
              if junk ≠ [] then return none else return some fraction

def readHundredthsLogged (token : Bytes) : LoggedSteps Int (Option UInt32) :=
  if token = [] then return none
  else do
    match ← readWholeLogged 0 token with
    | none => return none
    | some (whole, rest) =>
        if rest = token then return none
        else
          match ← fractionOfLogged rest with
          | none => return none
          | some fraction =>
              let hundreds ← uint32 (signed whole * 100)
              return some (← uint32 (signed hundreds + signed fraction))

/-! ### The files -/

/-- Each token is parsed into its field, up to the first one that is refused. -/
def parseLoads (systemStatus : SystemStatus) (oneMinute fiveMinute fifteenMinute : Bytes) :
    Bool × SystemStatus :=
  let one := parseHundredths oneMinute systemStatus.loadAvg1Hundredths
  let systemStatus := { systemStatus with loadAvg1Hundredths := one.2 }
  if !one.1 then (false, systemStatus)
  else
    let five := parseHundredths fiveMinute systemStatus.loadAvg5Hundredths
    let systemStatus := { systemStatus with loadAvg5Hundredths := five.2 }
    if !five.1 then (false, systemStatus)
    else
      let fifteen := parseHundredths fifteenMinute systemStatus.loadAvg15Hundredths
      (fifteen.1, { systemStatus with loadAvg15Hundredths := fifteen.2 })

def readLoadAverages (systemStatus : SystemStatus) (loadavg : Option Bytes) :
    Bool × SystemStatus :=
  match loadavg.bind fun content => (lines content).head? with
  | none => (false, systemStatus)
  | some line =>
      match extractThree line with
      | none => (false, systemStatus)
      | some (oneMinute, fiveMinute, fifteenMinute) =>
          parseLoads systemStatus oneMinute fiveMinute fifteenMinute

def colon : UInt8 := 58

def parseMeminfoLine (line name : Bytes) (value : UInt64) : Bool × UInt64 :=
  match line.findIdx? (· = colon) with
  | none => (false, value)
  | some i =>
      if line.take i ≠ name then (false, value)
      else
        match extractUnsigned (line.drop (i + 1)) with
        | none => (false, value)
        | some parsed => (true, parsed)

structure MemScan where
  haveFree : Bool
  haveAvailable : Bool
  haveTotal : Bool
  systemStatus : SystemStatus

/-- One line of the file. The first name that matches is not looked for any more. -/
def scanLine (scan : MemScan) (line : Bytes) : MemScan :=
  let total := parseMeminfoLine line (bytes "MemTotal") scan.systemStatus.memTotalKb
  if !scan.haveTotal && total.1 then
    { scan with
      haveTotal := true, systemStatus := { scan.systemStatus with memTotalKb := total.2 } }
  else
    let free := parseMeminfoLine line (bytes "MemFree") scan.systemStatus.memFreeKb
    if !scan.haveFree && free.1 then
      { scan with
        haveFree := true, systemStatus := { scan.systemStatus with memFreeKb := free.2 } }
    else
      let available :=
        parseMeminfoLine line (bytes "MemAvailable") scan.systemStatus.memAvailableKb
      if !scan.haveAvailable && available.1 then
        { scan with
          haveAvailable := true
          systemStatus := { scan.systemStatus with memAvailableKb := available.2 } }
      else scan

def readMemInfo (systemStatus : SystemStatus) (meminfo : Option Bytes) : Bool × SystemStatus :=
  match meminfo with
  | none => (false, systemStatus)
  | some content =>
      let scan := (lines content).foldl scanLine ⟨false, false, false, systemStatus⟩
      (scan.haveFree && scan.haveTotal, scan.systemStatus)

/-- The `memset` of a record. -/
def SystemStatus.zero : SystemStatus := ⟨false, 0, 0, 0, false, 0, 0, 0⟩

/-- What was parsed of a half that is not valid does not stay. -/
def dropPartial (systemStatus : SystemStatus) : SystemStatus :=
  let systemStatus :=
    if !systemStatus.loadValid then
      { systemStatus with
        loadAvg1Hundredths := 0, loadAvg5Hundredths := 0, loadAvg15Hundredths := 0 }
    else systemStatus
  if !systemStatus.memValid then
    { systemStatus with memFreeKb := 0, memAvailableKb := 0, memTotalKb := 0 }
  else systemStatus

/-- Whether both halves are valid, and the record. Nothing of the caller's record is left. -/
def readSystemStatus (loadavg meminfo : Option Bytes) : Bool × SystemStatus :=
  let load := readLoadAverages SystemStatus.zero loadavg
  let loaded := { load.2 with loadValid := load.1 }
  let mem := readMemInfo loaded meminfo
  let systemStatus := dropPartial { mem.2 with memValid := mem.1 }
  (systemStatus.loadValid && systemStatus.memValid, systemStatus)

end OClock.SystemFiles
