import OClock.Hundredths

/-!
`readSystemStatus` takes each half of the status from its own file, all of it or nothing, and
the memory from the first line of each name.
-/

namespace OClock.SystemReading
open Text TextStreams Decimal JsonGrammar StatusReport SystemFiles
open JsonDecoder (readDigits_append readSign_append)

/-! ### What the files say -/

/-- A line that starts with a name, a colon and an unsigned number. -/
def MemLine (name : Bytes) (value : Nat) (line : Bytes) : Prop :=
  ∃ blanks digits rest, line = name ++ colon :: (blanks ++ (digits ++ rest)) ∧
    (∀ c ∈ blanks, isSpace c = true) ∧ digits ≠ [] ∧ AllDigits digits ∧
    (∀ c, rest.head? = some c → isDigit c = false) ∧ decimalValue digits = value ∧
    value < 18446744073709551616

/-- The value on the first line of a name that has one. -/
def FirstLine (content name : Bytes) (value : Nat) : Prop :=
  ∃ before line after, lines content = before ++ line :: after ∧ MemLine name value line ∧
    ∀ other ∈ before, ∀ value, ¬ MemLine name value other

def HasLine (content name : Bytes) : Prop :=
  ∃ line ∈ lines content, ∃ value, MemLine name value line

def memNames : List Bytes := [bytes "MemTotal", bytes "MemFree", bytes "MemAvailable"]

/-- No value of the three names has a sign. -/
def Unsigned (content : Bytes) : Prop :=
  ∀ name ∈ memNames, ∀ value, name ++ colon :: value ∈ lines content →
    ∀ c, (value.dropWhile isSpace).head? = some c → c ≠ 43 ∧ c ≠ 45

/-- The three words at the start of the first line, each of which is accepted. -/
def LoadRead (loadavg : Option Bytes) (one five fifteen : UInt32) : Prop :=
  ∃ content line later first second third more, loadavg = some content ∧
    lines content = line :: later ∧ words line = first :: second :: third :: more ∧
    parseHundredths first 0 = (true, one) ∧ parseHundredths second 0 = (true, five) ∧
    parseHundredths third 0 = (true, fifteen)

/-! ### One line -/

/-- What a line gives for a name. -/
def lineValue (name line : Bytes) : Option UInt64 :=
  match line.findIdx? (· = colon) with
  | none => none
  | some i => if line.take i ≠ name then none else extractUnsigned (line.drop (i + 1))

theorem parseMeminfoLine_value (line name : Bytes) (value : UInt64) :
    parseMeminfoLine line name value =
      ((lineValue name line).isSome, (lineValue name line).getD value) := by
  rw [parseMeminfoLine, lineValue]
  cases line.findIdx? (· = colon) with
  | none => rfl
  | some i =>
      by_cases other : line.take i ≠ name
      · simp only [if_pos other]
        rfl
      · simp only [if_neg other]
        cases extractUnsigned (line.drop (i + 1)) <;> rfl

/-- A line has one name. -/
theorem lineValue_other {name other line : Bytes} (different : other ≠ name) {value : UInt64}
    (read : lineValue name line = some value) : lineValue other line = none := by
  rw [lineValue] at read ⊢
  cases found : line.findIdx? (· = colon) with
  | none => rfl
  | some i =>
      rw [found] at read
      dsimp only at read ⊢
      by_cases same : line.take i ≠ name
      · rw [if_pos same] at read
        cases read
      · rw [if_pos (by rw [not_not.mp same]; exact Ne.symm different)]

theorem cut_colon {name value : Bytes} (plain : colon ∉ name) :
    (name ++ colon :: value).findIdx? (· = colon) = some name.length := by
  rw [List.findIdx?_append, List.findIdx?_eq_none_iff.mpr]
  · simp [List.findIdx?_cons]
  · intro c inside
    rw [decide_eq_false_iff_not]
    rintro rfl
    exact plain inside

theorem lineValue_cut {name : Bytes} (plain : colon ∉ name) (value : Bytes) :
    lineValue name (name ++ colon :: value) = extractUnsigned value := by
  rw [lineValue, cut_colon plain]
  dsimp only
  rw [List.take_left, if_neg (not_not.mpr rfl), List.drop_append, List.drop_of_length_le
    (Nat.le_succ _), Nat.add_sub_cancel_left]
  rfl

theorem lineValue_some {name line : Bytes} {value : UInt64}
    (read : lineValue name line = some value) :
    ∃ text, line = name ++ colon :: text ∧ extractUnsigned text = some value := by
  rw [lineValue] at read
  cases found : line.findIdx? (· = colon) with
  | none =>
      rw [found] at read
      cases read
  | some i =>
      rw [found] at read
      dsimp only at read
      by_cases other : line.take i ≠ name
      · rw [if_pos other] at read
        cases read
      · rw [if_neg other] at read
        obtain ⟨inside, here, _⟩ := List.findIdx?_eq_some_iff_getElem.mp found
        have mark : (line)[i] = colon := of_decide_eq_true here
        refine ⟨line.drop (i + 1), ?_, read⟩
        rw [← not_not.mp other, ← mark, ← List.drop_eq_getElem_cons inside,
          List.take_append_drop]

/-! ### The number on it -/

theorem extractUnsigned_read {blanks digits rest : Bytes} (blank : ∀ c ∈ blanks, isSpace c = true)
    (some : digits ≠ []) (all : AllDigits digits)
    (stops : ∀ c, rest.head? = Option.some c → isDigit c = false)
    (fits : decimalValue digits < 18446744073709551616) :
    extractUnsigned (blanks ++ (digits ++ rest)) =
      Option.some (UInt64.ofNat (decimalValue digits)) := by
  obtain ⟨first, others, same⟩ := List.exists_cons_of_ne_nil some
  have lead : isDigit first = true := all first (same ▸ List.mem_cons_self)
  obtain ⟨solid, minus, plus, _⟩ := digit_byte lead
  have skipped : (blanks ++ (digits ++ rest)).dropWhile isSpace = digits ++ rest := by
    rw [List.dropWhile_append_of_pos blank, same, List.cons_append,
      List.dropWhile_cons_of_neg (by simp [solid])]
  have unsigned : readSign (digits ++ rest) = (false, digits ++ rest) := by
    refine readSign_append .none fun c head => ?_
    rw [same] at head
    cases head
    exact ⟨minus, plus⟩
  have taken := (Prod.mk.inj (readDigits_append all stops)).1
  have max : unsignedLongLongMax = 18446744073709551615 := rfl
  rw [extractUnsigned, skipped, unsigned]
  dsimp only
  rw [taken, if_neg some, if_neg (by omega), if_neg Bool.false_ne_true]

theorem memLine_value {name line : Bytes} (plain : colon ∉ name) {value : Nat}
    (written : MemLine name value line) : lineValue name line = some (UInt64.ofNat value) := by
  obtain ⟨blanks, digits, rest, rfl, blank, some, all, stops, rfl, fits⟩ := written
  rw [lineValue_cut plain]
  exact extractUnsigned_read blank some all stops fits

theorem value_memLine {name line : Bytes} {value : UInt64}
    (unsigned : ∀ text, line = name ++ colon :: text →
      ∀ c, (text.dropWhile isSpace).head? = some c → c ≠ 43 ∧ c ≠ 45)
    (read : lineValue name line = some value) : MemLine name value.toNat line := by
  obtain ⟨text, rfl, number⟩ := lineValue_some read
  have bare : readSign (text.dropWhile isSpace) = (false, text.dropWhile isSpace) :=
    readSign_append .none fun c head => (unsigned text rfl c head).symm
  rw [extractUnsigned, bare] at number
  dsimp only at number
  have max : unsignedLongLongMax = 18446744073709551615 := rfl
  by_cases empty : (text.dropWhile isSpace).takeWhile isDigit = []
  · rw [if_pos empty] at number
    cases number
  · rw [if_neg empty] at number
    by_cases large :
        unsignedLongLongMax < decimalValue ((text.dropWhile isSpace).takeWhile isDigit)
    · rw [if_pos large] at number
      cases number
    · rw [if_neg large, if_neg Bool.false_ne_true] at number
      have same := Option.some.inj number
      have exact : (UInt64.ofNat
          (decimalValue ((text.dropWhile isSpace).takeWhile isDigit))).toNat =
            decimalValue ((text.dropWhile isSpace).takeWhile isDigit) := by
        rw [UInt64.toNat_ofNat']
        omega
      refine ⟨text.takeWhile isSpace, (text.dropWhile isSpace).takeWhile isDigit,
        (text.dropWhile isSpace).dropWhile isDigit, ?_, fun c => List.mem_takeWhile_imp, empty,
        fun c => List.mem_takeWhile_imp, ?_, ?_, by have := value.toNat_lt; omega⟩
      · rw [List.takeWhile_append_dropWhile, List.takeWhile_append_dropWhile]
      · intro c head
        have stops := List.head?_dropWhile_not isDigit (text.dropWhile isSpace)
        rw [head] at stops
        exact stops
      · rw [← same, exact]

/-! ### The lines of a file -/

def found (name : Bytes) (fileLines : List Bytes) : Option UInt64 :=
  fileLines.findSome? (lineValue name)

/-- What has been found of each name. -/
def scanOf (systemStatus : SystemStatus) (total free available : Option UInt64) : MemScan :=
  ⟨free.isSome, available.isSome, total.isSome, { systemStatus with
    memTotalKb := total.getD systemStatus.memTotalKb
    memFreeKb := free.getD systemStatus.memFreeKb
    memAvailableKb := available.getD systemStatus.memAvailableKb }⟩

/-- Each name takes its first value, whatever the line says to the others. -/
theorem scanLine_found (systemStatus : SystemStatus) (total free available : Option UInt64)
    (line : Bytes) :
    scanLine (scanOf systemStatus total free available) line =
      scanOf systemStatus (total.or (lineValue (bytes "MemTotal") line))
        (free.or (lineValue (bytes "MemFree") line))
        (available.or (lineValue (bytes "MemAvailable") line)) := by
  have totalFree : bytes "MemFree" ≠ bytes "MemTotal" := by decide
  have totalAvailable : bytes "MemAvailable" ≠ bytes "MemTotal" := by decide
  have freeAvailable : bytes "MemAvailable" ≠ bytes "MemFree" := by decide
  simp only [scanLine, parseMeminfoLine_value, scanOf]
  -- At most one of the three names is the one of the line.
  cases isTotal : lineValue (bytes "MemTotal") line with
  | some value =>
      rw [lineValue_other totalFree isTotal, lineValue_other totalAvailable isTotal]
      cases total <;> cases free <;> cases available <;> rfl
  | none =>
      cases isFree : lineValue (bytes "MemFree") line with
      | some value =>
          rw [lineValue_other freeAvailable isFree]
          cases total <;> cases free <;> cases available <;> rfl
      | none =>
          cases lineValue (bytes "MemAvailable") line <;> cases total <;> cases free <;>
            cases available <;> rfl

theorem scan_found (systemStatus : SystemStatus) (fileLines : List Bytes) :
    fileLines.foldl scanLine ⟨false, false, false, systemStatus⟩ =
      scanOf systemStatus (found (bytes "MemTotal") fileLines)
        (found (bytes "MemFree") fileLines) (found (bytes "MemAvailable") fileLines) := by
  induction fileLines using List.reverseRecOn with
  | nil => rfl
  | append_singleton earlier line ih =>
      rw [List.foldl_append, List.foldl_cons, List.foldl_nil, ih, scanLine_found]
      simp only [found, List.findSome?_append, List.findSome?_singleton]

/-! ### Found and written -/

theorem name_plain {name : Bytes} (member : name ∈ memNames) : colon ∉ name := by
  simp only [memNames, List.mem_cons, List.not_mem_nil, or_false] at member
  rcases member with rfl | rfl | rfl <;> decide

theorem found_first {content name : Bytes} (unsigned : Unsigned content)
    (member : name ∈ memNames) {value : UInt64} (first : found name (lines content) = some value) :
    FirstLine content name value.toNat := by
  obtain ⟨before, line, after, cut, here, none⟩ := List.findSome?_eq_some_iff.mp first
  have inside : line ∈ lines content := by
    rw [cut]
    exact List.mem_append_right before List.mem_cons_self
  refine ⟨before, line, after, cut, ?_, ?_⟩
  · refine value_memLine (fun text same => ?_) here
    rw [same] at inside
    exact unsigned name member text inside
  · intro other earlier value written
    have read := memLine_value (name_plain member) written
    rw [none other earlier] at read
    cases read

theorem found_none {content name : Bytes} (member : name ∈ memNames)
    (missing : found name (lines content) = none) : ¬ HasLine content name := by
  rintro ⟨line, inside, value, written⟩
  have read := memLine_value (name_plain member) written
  rw [List.findSome?_eq_none_iff.mp missing line inside] at read
  cases read

theorem first_has {content name : Bytes} {value : Nat} (first : FirstLine content name value) :
    HasLine content name := by
  obtain ⟨before, line, after, cut, written, _⟩ := first
  refine ⟨line, ?_, value, written⟩
  rw [cut]
  exact List.mem_append_right before List.mem_cons_self

theorem found_iff {content name : Bytes} (unsigned : Unsigned content) (member : name ∈ memNames) :
    (found name (lines content)).isSome = true ↔ HasLine content name := by
  cases first : found name (lines content) with
  | none => simp [found_none member first]
  | some value => simp [first_has (found_first unsigned member first)]

/-! ### The load averages -/

theorem parseHundredths_other {token : Bytes} {before : UInt32}
    (accepted : (parseHundredths token before).1 = true) (other : UInt32) :
    parseHundredths token other = (true, (parseHundredths token before).2) := by
  unfold parseHundredths at accepted ⊢
  cases read : readHundredths token with
  | none =>
      rw [read] at accepted
      cases accepted
  | some value => rfl

/-- The record with other load averages. -/
def withLoads (systemStatus : SystemStatus) (one five fifteen : UInt32) : SystemStatus :=
  { systemStatus with
    loadAvg1Hundredths := one, loadAvg5Hundredths := five, loadAvg15Hundredths := fifteen }

theorem parseLoads_spec (systemStatus : SystemStatus) (first second third : Bytes) :
    ∃ one five fifteen, (parseLoads systemStatus first second third).2 =
        withLoads systemStatus one five fifteen ∧
      ((parseLoads systemStatus first second third).1 = true →
        parseHundredths first 0 = (true, one) ∧ parseHundredths second 0 = (true, five) ∧
          parseHundredths third 0 = (true, fifteen)) ∧
      ∀ one five fifteen, parseHundredths first 0 = (true, one) →
        parseHundredths second 0 = (true, five) → parseHundredths third 0 = (true, fifteen) →
        (parseLoads systemStatus first second third).1 = true := by
  have accepts : ∀ {token : Bytes} {value : UInt32} (before : UInt32),
      parseHundredths token 0 = (true, value) → (parseHundredths token before).1 = true := by
    intro token value before parsed
    rw [parseHundredths_other (congrArg Prod.fst parsed) before]
  rw [parseLoads]
  dsimp only
  cases one : (parseHundredths first systemStatus.loadAvg1Hundredths).1 with
  | false =>
      refine ⟨_, _, _, rfl, ?_, ?_⟩
      · intro accepted
        cases accepted
      · intro _ _ _ parsed _ _
        rw [accepts _ parsed] at one
        cases one
  | true =>
      cases five : (parseHundredths second systemStatus.loadAvg5Hundredths).1 with
      | false =>
          refine ⟨_, _, _, rfl, ?_, ?_⟩
          · intro accepted
            cases accepted
          · intro _ _ _ _ parsed _
            rw [accepts _ parsed] at five
            cases five
      | true =>
          refine ⟨_, _, _, rfl, ?_, ?_⟩
          · intro fifteen
            exact ⟨parseHundredths_other one 0, parseHundredths_other five 0,
              parseHundredths_other fifteen 0⟩
          · intro _ _ _ _ _ parsed
            exact accepts _ parsed

theorem loadRead_iff (loadavg : Option Bytes) (one five fifteen : UInt32) :
    LoadRead loadavg one five fifteen ↔ ∃ line first second third,
      (loadavg.bind fun content => (lines content).head?) = some line ∧
        extractThree line = some (first, second, third) ∧ parseHundredths first 0 = (true, one) ∧
        parseHundredths second 0 = (true, five) ∧ parseHundredths third 0 = (true, fifteen) := by
  constructor
  · rintro ⟨content, line, later, first, second, third, more, rfl, top, split, accepted⟩
    refine ⟨line, first, second, third, ?_, (extractThree_iff ..).mpr ⟨more, split⟩, accepted⟩
    rw [Option.bind_some, top]
    rfl
  · rintro ⟨line, first, second, third, top, split, accepted⟩
    obtain ⟨content, rfl, head⟩ := Option.bind_eq_some_iff.mp top
    obtain ⟨more, three⟩ := (extractThree_iff ..).mp split
    obtain ⟨later, all⟩ := List.head?_eq_some_iff.mp head
    exact ⟨content, line, later, first, second, third, more, rfl, all, three, accepted⟩

theorem readLoadAverages_spec (systemStatus : SystemStatus) (loadavg : Option Bytes) :
    ∃ one five fifteen, (readLoadAverages systemStatus loadavg).2 =
        withLoads systemStatus one five fifteen ∧
      ((readLoadAverages systemStatus loadavg).1 = true → LoadRead loadavg one five fifteen) ∧
      ∀ one five fifteen, LoadRead loadavg one five fifteen →
        (readLoadAverages systemStatus loadavg).1 = true := by
  unfold readLoadAverages
  simp only [loadRead_iff]
  cases (loadavg.bind fun content => (lines content).head?) with
  | none =>
      refine ⟨_, _, _, rfl, ?_, ?_⟩
      · intro accepted
        cases accepted
      · rintro one five fifteen ⟨_, _, _, _, none, _⟩
        cases none
  | some line =>
      dsimp only
      cases split : extractThree line with
      | none =>
          refine ⟨_, _, _, rfl, ?_, ?_⟩
          · intro accepted
            cases accepted
          · rintro one five fifteen ⟨_, _, _, _, same, three, _⟩
            rw [← Option.some.inj same, split] at three
            cases three
      | some tokens =>
          obtain ⟨first, second, third⟩ := tokens
          obtain ⟨one, five, fifteen, result, sound, complete⟩ :=
            parseLoads_spec systemStatus first second third
          refine ⟨one, five, fifteen, result,
            fun accepted => ⟨line, first, second, third, rfl, split, sound accepted⟩, ?_⟩
          rintro one five fifteen ⟨_, _, _, _, same, three, ones, fives, fifteens⟩
          rw [← Option.some.inj same, split] at three
          cases three
          exact complete one five fifteen ones fives fifteens

/-! ### The memory -/

theorem readMemInfo_found (systemStatus : SystemStatus) (content : Bytes) :
    readMemInfo systemStatus (some content) =
      ((found (bytes "MemFree") (lines content)).isSome &&
          (found (bytes "MemTotal") (lines content)).isSome,
        (scanOf systemStatus (found (bytes "MemTotal") (lines content))
          (found (bytes "MemFree") (lines content))
          (found (bytes "MemAvailable") (lines content))).systemStatus) := by
  rw [readMemInfo, scan_found]
  rfl

/-! ### Both halves -/

/-- Each half from its own reader, and nothing of a half that is not valid. -/
def halves (load mem : Bool × SystemStatus) : SystemStatus where
  loadValid := load.1
  loadAvg1Hundredths := if load.1 then load.2.loadAvg1Hundredths else 0
  loadAvg5Hundredths := if load.1 then load.2.loadAvg5Hundredths else 0
  loadAvg15Hundredths := if load.1 then load.2.loadAvg15Hundredths else 0
  memValid := mem.1
  memFreeKb := if mem.1 then mem.2.memFreeKb else 0
  memAvailableKb := if mem.1 then mem.2.memAvailableKb else 0
  memTotalKb := if mem.1 then mem.2.memTotalKb else 0

theorem readSystemStatus_parts (loadavg meminfo : Option Bytes) :
    (readSystemStatus loadavg meminfo).2 =
      halves (readLoadAverages SystemStatus.zero loadavg)
        (readMemInfo SystemStatus.zero meminfo) := by
  obtain ⟨one, five, fifteen, read, _⟩ := readLoadAverages_spec SystemStatus.zero loadavg
  rw [readSystemStatus, halves]
  dsimp only
  rw [read]
  cases meminfo with
  | none => cases (readLoadAverages SystemStatus.zero loadavg).1 <;> rfl
  | some content =>
      rw [readMemInfo_found, readMemInfo_found]
      cases (readLoadAverages SystemStatus.zero loadavg).1 <;>
        cases found (bytes "MemFree") (lines content) <;>
        cases found (bytes "MemTotal") (lines content) <;> rfl

/-- What the memory half has to be for the file. -/
structure MemRead (meminfo : Option Bytes) (status : SystemStatus) : Prop where
  valid : status.memValid = true ↔ ∃ content, meminfo = some content ∧
    HasLine content (bytes "MemTotal") ∧ HasLine content (bytes "MemFree")
  total : status.memValid = true → ∀ content, meminfo = some content →
    FirstLine content (bytes "MemTotal") status.memTotalKb.toNat
  free : status.memValid = true → ∀ content, meminfo = some content →
    FirstLine content (bytes "MemFree") status.memFreeKb.toNat
  available : status.memValid = true → ∀ content, meminfo = some content →
    FirstLine content (bytes "MemAvailable") status.memAvailableKb.toNat ∨
      ¬ HasLine content (bytes "MemAvailable") ∧ status.memAvailableKb = 0
  dropped : status.memValid = false →
    status.memTotalKb = 0 ∧ status.memFreeKb = 0 ∧ status.memAvailableKb = 0

/-- What the load half has to be for the file. -/
structure LoadHalf (loadavg : Option Bytes) (status : SystemStatus) : Prop where
  valid : status.loadValid = true ↔ ∃ one five fifteen, LoadRead loadavg one five fifteen
  values : status.loadValid = true → LoadRead loadavg status.loadAvg1Hundredths
    status.loadAvg5Hundredths status.loadAvg15Hundredths
  dropped : status.loadValid = false → status.loadAvg1Hundredths = 0 ∧
    status.loadAvg5Hundredths = 0 ∧ status.loadAvg15Hundredths = 0

theorem halves_load (loadavg : Option Bytes) (mem : Bool × SystemStatus) :
    LoadHalf loadavg (halves (readLoadAverages SystemStatus.zero loadavg) mem) := by
  obtain ⟨one, five, fifteen, read, sound, complete⟩ :=
    readLoadAverages_spec SystemStatus.zero loadavg
  rw [halves]
  cases valid : (readLoadAverages SystemStatus.zero loadavg).1 with
  | false =>
      constructor
      · constructor
        · intro accepted
          cases accepted
        · rintro ⟨one, five, fifteen, written⟩
          rw [complete one five fifteen written] at valid
          cases valid
      · intro accepted
        cases accepted
      · intro _
        exact ⟨rfl, rfl, rfl⟩
  | true =>
      rw [read]
      constructor
      · constructor
        · intro _
          exact ⟨one, five, fifteen, sound valid⟩
        · intro _
          rfl
      · intro _
        exact sound valid
      · intro rejected
        cases rejected

theorem memTotal_name : bytes "MemTotal" ∈ memNames := List.mem_cons_self
theorem memFree_name : bytes "MemFree" ∈ memNames := List.mem_cons_of_mem _ List.mem_cons_self
theorem memAvailable_name : bytes "MemAvailable" ∈ memNames :=
  List.mem_cons_of_mem _ (List.mem_cons_of_mem _ List.mem_cons_self)

theorem readMemInfo_valid (meminfo : Option Bytes)
    (unsigned : ∀ content, meminfo = some content → Unsigned content) :
    (readMemInfo SystemStatus.zero meminfo).1 = true ↔ ∃ content, meminfo = some content ∧
      HasLine content (bytes "MemTotal") ∧ HasLine content (bytes "MemFree") := by
  cases meminfo with
  | none => simp [readMemInfo]
  | some content =>
      have text := unsigned content rfl
      have total := found_iff text memTotal_name
      have free := found_iff text memFree_name
      simp [readMemInfo_found, total, free, and_comm]

theorem halves_mem (load : Bool × SystemStatus) (meminfo : Option Bytes)
    (unsigned : ∀ content, meminfo = some content → Unsigned content) :
    MemRead meminfo (halves load (readMemInfo SystemStatus.zero meminfo)) := by
  have valid := readMemInfo_valid meminfo unsigned
  rw [halves]
  cases accepted : (readMemInfo SystemStatus.zero meminfo).1 with
  | false =>
      rw [accepted] at valid
      constructor
      · exact valid
      · intro wrong
        cases wrong
      · intro wrong
        cases wrong
      · intro wrong
        cases wrong
      · intro _
        exact ⟨rfl, rfl, rfl⟩
  | true =>
      rw [accepted] at valid
      obtain ⟨content, rfl, hasTotal, hasFree⟩ := valid.mp rfl
      have text := unsigned content rfl
      obtain ⟨total, totalFound⟩ :=
        Option.isSome_iff_exists.mp ((found_iff text memTotal_name).mpr hasTotal)
      obtain ⟨free, freeFound⟩ :=
        Option.isSome_iff_exists.mp ((found_iff text memFree_name).mpr hasFree)
      rw [readMemInfo_found, totalFound, freeFound]
      constructor
      · exact valid
      · rintro _ _ ⟨⟩
        exact found_first text memTotal_name totalFound
      · rintro _ _ ⟨⟩
        exact found_first text memFree_name freeFound
      · rintro _ _ ⟨⟩
        cases available : found (bytes "MemAvailable") (lines content) with
        | none => exact .inr ⟨found_none memAvailable_name available, rfl⟩
        | some value => exact .inl (found_first text memAvailable_name available)
      · intro wrong
        cases wrong

/-- Two records with one memory half. -/
def SameMem (one other : SystemStatus) : Prop :=
  one.memValid = other.memValid ∧ one.memTotalKb = other.memTotalKb ∧
    one.memFreeKb = other.memFreeKb ∧ one.memAvailableKb = other.memAvailableKb

def SameLoad (one other : SystemStatus) : Prop :=
  one.loadValid = other.loadValid ∧ one.loadAvg1Hundredths = other.loadAvg1Hundredths ∧
    one.loadAvg5Hundredths = other.loadAvg5Hundredths ∧
    one.loadAvg15Hundredths = other.loadAvg15Hundredths

/-- Each half is all or nothing of its own file, in any order of the lines. -/
theorem readSystemStatus_halves (loadavg meminfo : Option Bytes)
    (unsigned : ∀ content, meminfo = some content → Unsigned content) :
    MemRead meminfo (readSystemStatus loadavg meminfo).2 ∧
      LoadHalf loadavg (readSystemStatus loadavg meminfo).2 ∧
      (∀ other, SameMem (readSystemStatus loadavg meminfo).2 (readSystemStatus other meminfo).2) ∧
      ∀ other, SameLoad (readSystemStatus loadavg meminfo).2 (readSystemStatus loadavg other).2 := by
  refine ⟨?_, ?_, ?_, ?_⟩
  · rw [readSystemStatus_parts]
    exact halves_mem _ meminfo unsigned
  · rw [readSystemStatus_parts]
    exact halves_load loadavg _
  · intro other
    rw [readSystemStatus_parts, readSystemStatus_parts]
    exact ⟨rfl, rfl, rfl, rfl⟩
  · intro other
    rw [readSystemStatus_parts, readSystemStatus_parts]
    exact ⟨rfl, rfl, rfl, rfl⟩

theorem readSystemStatus_example :
    (∀ content, some (bytes "MemFree: 5\nMemTotal: 7 kB\n") = some content → Unsigned content) ∧
      MemRead (some (bytes "MemFree: 5\nMemTotal: 7 kB\n"))
        (readSystemStatus (some (bytes "0.14 0.09 0.05 1/2"))
          (some (bytes "MemFree: 5\nMemTotal: 7 kB\n"))).2 := by
  have unsigned : ∀ content, some (bytes "MemFree: 5\nMemTotal: 7 kB\n") = some content →
      Unsigned content := by
    rintro _ ⟨⟩ name member value inside c head
    have free : bytes "MemFree" = [77, 101, 109, 70, 114, 101, 101] := by decide
    have total : bytes "MemTotal" = [77, 101, 109, 84, 111, 116, 97, 108] := by decide
    have available : bytes "MemAvailable" =
      [77, 101, 109, 65, 118, 97, 105, 108, 97, 98, 108, 101] := by decide
    have all : lines (bytes "MemFree: 5\nMemTotal: 7 kB\n") =
      [[77, 101, 109, 70, 114, 101, 101, 58, 32, 53],
        [77, 101, 109, 84, 111, 116, 97, 108, 58, 32, 55, 32, 107, 66]] := by decide
    rw [all] at inside
    simp only [memNames, List.mem_cons, List.not_mem_nil, or_false] at member
    rcases member with rfl | rfl | rfl
    · simp [total, colon] at inside
      rw [inside] at head
      simp [isSpace] at head
      simp [← head]
    · simp [free, colon] at inside
      rw [inside] at head
      simp [isSpace] at head
      simp [← head]
    · simp [available] at inside
  exact ⟨unsigned, (readSystemStatus_halves _ _ unsigned).1⟩

end OClock.SystemReading
