import OClock.StatusDocument

/-!
The text page of statusReport.cpp next to the JSON document. The page is a sequence of
texts and of numerals, each of which stands for a field of the document; both pages are
read by the same decoder.
-/

namespace OClock.StatusText
open Text JsonGrammar DictionaryStore StatusReport StatusDocument

/-- A number of the document: a hit count, by the position of its handler, or the member at
the end of a path of names. -/
inductive Field where
  | hits (index : Nat)
  | member (path : List Bytes)
  deriving DecidableEq

/-- What `renderStatusText` appends at a time. -/
inductive Part where
  | plain (text : Bytes)
  | numeral (field : Field) (digits : Bytes)

def Part.printed : Part → Bytes
  | .plain text => text
  | .numeral _ digits => digits

def yesNo (value : Bool) : Bytes := if value then bytes "yes" else bytes "no"

def numeralLine (label group name : String) (numeral : Bytes) : List Part :=
  [.plain (bytes label), .numeral (.member [bytes group, bytes name]) numeral,
    .plain (bytes "\n")]

def counterLine (label group name : String) (counter : UInt32) : List Part :=
  numeralLine label group name (appendInt (int32 counter.toNat))

/-- `std::to_string` of an unsigned number. -/
def hitParts (index : Nat) (hits : Bytes × UInt32) : List Part :=
  [.plain (bytes "hitCount: " ++ hits.1 ++ bytes " = "),
    .numeral (.hits index) (decimal hits.2.toNat), .plain (bytes "\n")]

def handlerParts (snapshot : StatusSnapshot) : List Part :=
  if snapshot.webHandlerAvailable then
    (snapshot.handlerHits.mapIdx hitParts).flatten ++ [.plain (bytes "\n")]
  else []

def sensorParts (snapshot : StatusSnapshot) : List Part :=
  [.plain (bytes "motion: " ++
      (if snapshot.motion.currMotionDetected then bytes "y" else bytes "n") ++ bytes "\n"),
    .plain (bytes "motion_last_change: "),
    .numeral (.member [bytes "motion", bytes "last_change_hour"])
      (appendInt snapshot.motion.lastChangedHour.toNat), .plain (bytes ":"),
    .numeral (.member [bytes "motion", bytes "last_change_min"])
      (appendInt snapshot.motion.lastChangedMin.toNat), .plain (bytes ":"),
    .numeral (.member [bytes "motion", bytes "last_change_sec"])
      (appendInt snapshot.motion.lastChangedSec.toNat), .plain (bytes "\n"),
    .plain (bytes "light_sensor: "),
    .numeral (.member [bytes "light_sensor"]) (appendInt (int32 snapshot.lightValue.toNat)),
    .plain (bytes "\n"),
    .plain (bytes "display_mode: " ++ snapshot.displayMode ++ bytes "\n"),
    .plain (bytes "display_dimmed: " ++ yesNo snapshot.displayDimmed ++ bytes "\n"),
    .plain (bytes "led_strip_mode: " ++ snapshot.ledStripMode ++ bytes "\n"),
    .plain (bytes "\n")]

def loadNumeral (name : String) (hundredths : UInt32) : Part :=
  .numeral (.member [bytes "system", bytes "cpu_load", bytes name]) (appendLoad hundredths)

def loadParts (systemStatus : SystemStatus) : List Part :=
  .plain (bytes "cpu_load: ") ::
    ((if systemStatus.loadValid then
      [loadNumeral "1min" systemStatus.loadAvg1Hundredths, .plain (bytes " "),
        loadNumeral "5min" systemStatus.loadAvg5Hundredths, .plain (bytes " "),
        loadNumeral "15min" systemStatus.loadAvg15Hundredths]
    else [.plain (bytes "unavailable")]) ++ [.plain (bytes "\n")])

def memoryParts (memValid : Bool) (memory : String × UInt64) : List Part :=
  [.plain (bytes memory.1 ++ bytes ": "),
    if memValid then
      .numeral (.member [bytes "system", bytes memory.1]) (appendUInt64 memory.2)
    else .plain (bytes "unavailable"),
    .plain (bytes "\n")]

/-- `renderTextSystem` -/
def systemParts (systemStatus : SystemStatus) : List Part :=
  loadParts systemStatus ++
    [("mem_free_kb", systemStatus.memFreeKb), ("mem_available_kb", systemStatus.memAvailableKb),
      ("mem_total_kb", systemStatus.memTotalKb)].flatMap (memoryParts systemStatus.memValid)

def mqttParts (snapshot : StatusSnapshot) : List Part :=
  let mqtt := snapshot.mqtt
  [.plain (bytes "\n"),
    .plain (bytes "mqttBrokerConnected: " ++ yesNo mqtt.mqttBrokerConnected ++ bytes "\n"),
    .plain (bytes "mqttLastLoopRc: "),
    .numeral (.member [bytes "mqtt", bytes "last_loop_rc"]) (appendInt mqtt.lastLoopRc.toInt),
    .plain (bytes " (" ++ snapshot.mqttLastLoopRcStr ++ bytes ")\n"),
    .plain (bytes "mqttBrokerIp: " ++ snapshot.mqttBrokerIp ++ bytes "\n")] ++
  numeralLine "mqttBrokerPort: " "mqtt" "broker_port" (appendInt mqtt.mqttBrokerPort.toInt) ++
  numeralLine "mqttKeepAlive (secs): " "mqtt" "keep_alive_secs"
    (appendInt mqtt.mqttKeepAlive.toInt) ++
  counterLine "mqttConnectAttempts: " "mqtt" "connect_attempts" mqtt.connectAttempts ++
  counterLine "mqttConnects: " "mqtt" "connects" mqtt.connects ++
  counterLine "mqttDisconnects: " "mqtt" "disconnects" mqtt.disconnects ++
  counterLine "mqttPublishes: " "mqtt" "publishes" mqtt.publishes ++
  counterLine "mqttPublishedMotions: " "mqtt" "published_motions" mqtt.publishedMotions ++
  counterLine "mqttPublishesDropped: " "mqtt" "publishes_dropped" mqtt.publishesDropped ++
  counterLine "mqttPublishCallbacks: " "mqtt" "publish_callbacks" mqtt.publishCallbacks ++
  counterLine "mqttMessages: " "mqtt" "messages" mqtt.messages ++
  counterLine "mqttTicks: " "mqtt" "ticks" mqtt.ticks

def entryParts (entries : List (Bytes × Bytes)) : List Part :=
  if entries.isEmpty then []
  else
    .plain (bytes "\n") :: entries.map fun entry =>
      .plain (bytes "dict: " ++ entry.1 ++ bytes " => " ++ entry.2 ++ bytes "\n")

def dictionaryParts (snapshot : StatusSnapshot) : List Part :=
  let status := snapshot.dictionaryStatus
  .plain (bytes "\n") ::
    (numeralLine "dictSize: " "dictionary" "size"
      (appendInt (int32 snapshot.dictionarySize.toNat)) ++
    counterLine "dictTicks: " "dictionary" "ticks" status.ticks ++
    counterLine "dictAdds: " "dictionary" "adds" status.entriesAdded ++
    counterLine "dictRemoves: " "dictionary" "removes" status.entriesRemoved ++
    counterLine "dictExpires: " "dictionary" "expires" status.entriesExpired) ++
  entryParts snapshot.dictionaryEntries

def statusTextParts (snapshot : StatusSnapshot) : List Part :=
  .plain (bytes "Stats and status\n\n") ::
    (handlerParts snapshot ++ sensorParts snapshot ++ systemParts snapshot.system ++
      mqttParts snapshot ++ dictionaryParts snapshot)

def renderStatusText (snapshot : StatusSnapshot) : Bytes :=
  (statusTextParts snapshot).flatMap Part.printed

/-! ### The numbers of both pages -/

def asNumber : JValue → Option ℚ
  | .num value => some value
  | _ => none

def memberOf (name : Bytes) : JValue → Option JValue
  | .obj members => (members.find? fun member => member.1 = name).map Prod.snd
  | _ => none

def follow : List Bytes → JValue → Option JValue
  | [], value => some value
  | name :: rest, value => (memberOf name value).bind (follow rest)

def memberAt (index : Nat) : JValue → Option JValue
  | .obj members => members[index]?.map Prod.snd
  | _ => none

def fieldOf (document : JValue) : Field → Option JValue
  | .member path => follow path document
  | .hits index => (follow [bytes "handlers", bytes "hits"] document).bind (memberAt index)

/-- The number a reader of the JSON page finds in a field. -/
def jsonNumber (snapshot : StatusSnapshot) (field : Field) : Option ℚ :=
  (JsonDecoder.decode (renderStatusJson snapshot)).bind fun document =>
    (fieldOf document field).bind asNumber

/-- The number a numeral of the text page reads as. -/
def numberOf (numeral : Bytes) : Option ℚ := (JsonDecoder.decode numeral).bind asNumber

/-- Every numeral of the text page is the number of its field in the JSON page. -/
def Agree (snapshot : StatusSnapshot) : Prop :=
  ∀ field numeral, .numeral field numeral ∈ statusTextParts snapshot →
    ∃ value, numberOf numeral = some value ∧ jsonNumber snapshot field = some value

theorem numberOf_denoted {value : ℚ} {numeral : Bytes}
    (denotes : Denotes (.value (.num value)) numeral) : numberOf numeral = some value := by
  have whole : DenotesText (.num value) numeral := by
    have none : JsonGrammar.Space [] := List.forall_mem_nil _
    have text := DenotesText.text none denotes none
    rwa [List.nil_append, List.append_nil] at text
  unfold numberOf
  rw [JsonDecoder.decode_denoted whole]
  rfl

/-! ### Fields that agree -/

/-- A part of the text page that the JSON page does not contradict. -/
def Matched (snapshot : StatusSnapshot) : Part → Prop
  | .plain _ => True
  | .numeral field digits =>
      ∃ value, numberOf digits = some value ∧ jsonNumber snapshot field = some value

theorem agree_matched (snapshot : StatusSnapshot) :
    Agree snapshot ↔ ∀ part ∈ statusTextParts snapshot, Matched snapshot part := by
  constructor
  · intro agree part member
    cases part with
    | plain text => trivial
    | numeral field digits => exact agree field digits member
  · intro matched field digits member
    exact matched _ member

theorem jsonNumber_field (snapshot : StatusSnapshot) (field : Field) :
    jsonNumber snapshot field = (fieldOf (statusDocument snapshot) field).bind asNumber := by
  unfold jsonNumber
  rw [JsonDecoder.decode_denoted (status_text snapshot)]
  rfl

theorem matched_value {snapshot : StatusSnapshot} {field : Field} {digits : Bytes} {value : ℚ}
    (denotes : Denotes (.value (.num value)) digits)
    (found : fieldOf (statusDocument snapshot) field = some (.num value)) :
    Matched snapshot (.numeral field digits) := by
  refine ⟨value, numberOf_denoted denotes, ?_⟩
  rw [jsonNumber_field, found]
  rfl

theorem matched_int {snapshot : StatusSnapshot} {field : Field} {value : Int}
    (found : fieldOf (statusDocument snapshot) field = some (number value)) :
    Matched snapshot (.numeral field (appendInt value)) :=
  matched_value (appendInt_denotes value) found

theorem matched_line {snapshot : StatusSnapshot} (label group name : String) {value : Int}
    (found : fieldOf (statusDocument snapshot) (.member [bytes group, bytes name]) =
      some (number value)) :
    ∀ part ∈ numeralLine label group name (appendInt value), Matched snapshot part := by
  simp only [numeralLine, List.forall_mem_cons]
  exact ⟨trivial, matched_int found, trivial, List.forall_mem_nil _⟩

theorem sensorParts_matched (snapshot : StatusSnapshot) :
    ∀ part ∈ sensorParts snapshot, Matched snapshot part := by
  simp only [sensorParts, List.forall_mem_cons]
  exact ⟨trivial, trivial, matched_int rfl, trivial, matched_int rfl, trivial, matched_int rfl,
    trivial, trivial, matched_int rfl, trivial, trivial, trivial, trivial, trivial,
    List.forall_mem_nil _⟩

theorem loadParts_matched (snapshot : StatusSnapshot) :
    ∀ part ∈ loadParts snapshot.system, Matched snapshot part := by
  have system : follow [bytes "system", bytes "cpu_load"] (statusDocument snapshot) =
      some (loadDocument snapshot.system) := rfl
  have found : ∀ name : String, fieldOf (statusDocument snapshot)
      (.member [bytes "system", bytes "cpu_load", bytes name]) =
        memberOf (bytes name) (loadDocument snapshot.system) := by
    intro name
    have path : follow [bytes "system", bytes "cpu_load", bytes name] (statusDocument snapshot) =
        (follow [bytes "system", bytes "cpu_load"] (statusDocument snapshot)).bind
          (follow [bytes name]) := rfl
    rw [fieldOf, path, system, Option.bind_some, follow]
    cases memberOf (bytes name) (loadDocument snapshot.system) <;> rfl
  unfold loadParts
  rw [List.forall_mem_cons, List.forall_mem_append]
  refine ⟨trivial, ?_, List.forall_mem_singleton.mpr trivial⟩
  cases valid : snapshot.system.loadValid with
  | false => exact List.forall_mem_singleton.mpr trivial
  | true =>
      have values : loadDocument snapshot.system =
          .obj [(bytes "1min", hundredths snapshot.system.loadAvg1Hundredths),
            (bytes "5min", hundredths snapshot.system.loadAvg5Hundredths),
            (bytes "15min", hundredths snapshot.system.loadAvg15Hundredths)] := if_pos valid
      simp only [if_true, List.forall_mem_cons, loadNumeral]
      refine ⟨matched_value (appendLoad_denotes _) ?_, trivial,
        matched_value (appendLoad_denotes _) ?_, trivial,
        matched_value (appendLoad_denotes _) ?_, List.forall_mem_nil _⟩
      · rw [found, values]
        rfl
      · rw [found, values]
        rfl
      · rw [found, values]
        rfl

theorem memoryParts_matched {snapshot : StatusSnapshot} (name : String) (value : UInt64)
    (found : fieldOf (statusDocument snapshot) (.member [bytes "system", bytes name]) =
      some (memoryDocument snapshot.system.memValid value)) :
    ∀ part ∈ memoryParts snapshot.system.memValid (name, value), Matched snapshot part := by
  simp only [memoryParts, List.forall_mem_cons]
  refine ⟨trivial, ?_, trivial, List.forall_mem_nil _⟩
  cases valid : snapshot.system.memValid with
  | false => trivial
  | true =>
      rw [valid] at found
      exact matched_value (appendInt_denotes value.toNat) found

theorem systemParts_matched (snapshot : StatusSnapshot) :
    ∀ part ∈ systemParts snapshot.system, Matched snapshot part := by
  unfold systemParts
  simp only [List.forall_mem_append, List.flatMap_cons, List.flatMap_nil]
  exact ⟨loadParts_matched snapshot, memoryParts_matched _ _ rfl, memoryParts_matched _ _ rfl,
    memoryParts_matched _ _ rfl, List.forall_mem_nil _⟩

theorem mqttParts_matched (snapshot : StatusSnapshot) :
    ∀ part ∈ mqttParts snapshot, Matched snapshot part := by
  unfold mqttParts counterLine
  simp only [List.forall_mem_append, List.forall_mem_cons, List.append_assoc]
  exact ⟨⟨trivial, trivial, trivial, matched_int rfl, trivial, trivial, List.forall_mem_nil _⟩,
    matched_line _ _ _ rfl, matched_line _ _ _ rfl, matched_line _ _ _ rfl, matched_line _ _ _ rfl,
    matched_line _ _ _ rfl, matched_line _ _ _ rfl, matched_line _ _ _ rfl, matched_line _ _ _ rfl,
    matched_line _ _ _ rfl, matched_line _ _ _ rfl, matched_line _ _ _ rfl⟩

theorem entryParts_matched (snapshot : StatusSnapshot) (entries : List (Bytes × Bytes)) :
    ∀ part ∈ entryParts entries, Matched snapshot part := by
  unfold entryParts
  split
  · nofun
  · rw [List.forall_mem_cons]
    refine ⟨trivial, fun part member => ?_⟩
    obtain ⟨entry, _, rfl⟩ := List.mem_map.mp member
    trivial

theorem dictionaryParts_matched (snapshot : StatusSnapshot) :
    ∀ part ∈ dictionaryParts snapshot, Matched snapshot part := by
  unfold dictionaryParts counterLine
  simp only [List.cons_append, List.forall_mem_append, List.forall_mem_cons, List.append_assoc]
  exact ⟨trivial, matched_line _ _ _ rfl, matched_line _ _ _ rfl, matched_line _ _ _ rfl,
    matched_line _ _ _ rfl, matched_line _ _ _ rfl, entryParts_matched snapshot _⟩

/-! ### Hit counts -/

theorem int32_small {value : Nat} (fits : value < 4294967296) :
    int32 value = value ↔ value < 2147483648 := by
  unfold int32
  rw [Int.bmod_def]
  split <;> omega

theorem hits_found {snapshot : StatusSnapshot} (available : snapshot.webHandlerAvailable = true)
    {index : Nat} {hits : Bytes × UInt32} (here : snapshot.handlerHits[index]? = some hits) :
    fieldOf (statusDocument snapshot) (.hits index) = some (counterDocument hits.2) := by
  have found : follow [bytes "handlers", bytes "hits"] (statusDocument snapshot) =
      some (hitsDocument snapshot) := rfl
  rw [fieldOf, found, Option.bind_some]
  unfold hitsDocument memberAt
  rw [if_pos available]
  simp [List.getElem?_map, here]

/-- One handler: the text page prints its count, the JSON page its cast. -/
theorem hits_matched {snapshot : StatusSnapshot} (available : snapshot.webHandlerAvailable = true)
    {index : Nat} {hits : Bytes × UInt32} (here : snapshot.handlerHits[index]? = some hits) :
    Matched snapshot (.numeral (.hits index) (decimal hits.2.toNat)) ↔
      hits.2.toNat < 2147483648 := by
  have printed : numberOf (decimal hits.2.toNat) = some ((hits.2.toNat : ℤ) : ℚ) :=
    numberOf_denoted (appendInt_denotes hits.2.toNat)
  have read : jsonNumber snapshot (.hits index) = some ((int32 hits.2.toNat : ℤ) : ℚ) := by
    rw [jsonNumber_field, hits_found available here]
    rfl
  rw [← int32_small (UInt32.toNat_lt hits.2)]
  constructor
  · rintro ⟨value, left, right⟩
    rw [printed] at left
    rw [read] at right
    have same := Option.some.inj (right.trans left.symm)
    exact_mod_cast same
  · intro same
    exact ⟨_, printed, by rw [read, same]⟩

theorem handlerParts_matched {snapshot : StatusSnapshot}
    (available : snapshot.webHandlerAvailable = true) :
    (∀ part ∈ handlerParts snapshot, Matched snapshot part) ↔
      ∀ hits ∈ snapshot.handlerHits, hits.2.toNat < 2147483648 := by
  unfold handlerParts
  rw [if_pos available, List.forall_mem_append]
  constructor
  · rintro ⟨matched, _⟩ hits member
    obtain ⟨index, here⟩ := List.getElem?_of_mem member
    refine (hits_matched available here).mp (matched _ ?_)
    refine List.mem_flatten.mpr ⟨hitParts index hits, ?_, ?_⟩
    · have listed : (snapshot.handlerHits.mapIdx hitParts)[index]? =
          some (hitParts index hits) := by
        rw [List.getElem?_mapIdx, here]
        rfl
      exact List.mem_of_getElem? listed
    · simp [hitParts]
  · intro small
    refine ⟨fun part member => ?_, List.forall_mem_singleton.mpr trivial⟩
    obtain ⟨parts, listed, inside⟩ := List.mem_flatten.mp member
    obtain ⟨index, bound, rfl⟩ := List.mem_mapIdx.mp listed
    have here : snapshot.handlerHits[index]? = some snapshot.handlerHits[index] :=
      List.getElem?_eq_getElem bound
    have count := small _ (List.getElem_mem bound)
    simp only [hitParts, List.mem_cons, List.not_mem_nil, or_false] at inside
    rcases inside with rfl | rfl | rfl
    · trivial
    · exact (hits_matched available here).mpr count
    · trivial

/-- With the web handler up, the pages agree exactly while every hit count fits an `int`. -/
theorem pages_agree_iff (snapshot : StatusSnapshot)
    (available : snapshot.webHandlerAvailable = true) :
    Agree snapshot ↔ ∀ hits ∈ snapshot.handlerHits, hits.2.toNat < 2147483648 := by
  rw [agree_matched, ← handlerParts_matched available]
  unfold statusTextParts
  simp only [List.forall_mem_cons, List.forall_mem_append]
  constructor
  · rintro ⟨_, ⟨⟨⟨handlers, _⟩, _⟩, _⟩, _⟩
    exact handlers
  · intro handlers
    exact ⟨trivial, ⟨⟨⟨handlers, sensorParts_matched snapshot⟩, systemParts_matched snapshot⟩,
      mqttParts_matched snapshot⟩, dictionaryParts_matched snapshot⟩

/-- A clock that was just started, with one handler. -/
def startedWith (hits : UInt32) : StatusSnapshot where
  webHandlerAvailable := true
  handlerHits := [(bytes "/status (get)", hits)]
  motion := ⟨false, 0, 0, 0⟩
  lightValue := 0
  displayMode := bytes "clock"
  displayDimmed := false
  ledStripMode := bytes "off"
  mqtt := ⟨1883, 60, false, 0, 0, 0, 0, 0, 0, 0, 0, 0, 0⟩
  mqttBrokerIp := bytes "localhost"
  mqttLastLoopRcStr := []
  dictionaryStatus := ⟨0, 0, 0, 0⟩
  dictionarySize := 0
  dictionaryEntries := []
  system := ⟨false, 0, 0, 0, false, 0, 0, 0⟩

theorem pages_agree_started :
    Agree (startedWith 7) ↔ ∀ hits ∈ (startedWith 7).handlerHits, hits.2.toNat < 2147483648 :=
  pages_agree_iff (startedWith 7) rfl

/-- At 2^31 hits the text page prints 2147483648 and the JSON page -2147483648. -/
theorem pages_disagree :
    ¬∀ snapshot : StatusSnapshot, snapshot.webHandlerAvailable = true → Agree snapshot := by
  intro always
  obtain ⟨value, printed, read⟩ := always (startedWith 2147483648) rfl (.hits 0)
    (decimal 2147483648) (by simp [statusTextParts, handlerParts, hitParts, startedWith])
  have text : numberOf (decimal 2147483648) = some ((2147483648 : ℤ) : ℚ) :=
    numberOf_denoted (appendInt_denotes 2147483648)
  have json : jsonNumber (startedWith 2147483648) (.hits 0) = some ((-2147483648 : ℤ) : ℚ) := by
    have listed : (startedWith 2147483648).handlerHits[0]? =
        some (bytes "/status (get)", 2147483648) := rfl
    have cast : int32 (2147483648 : UInt32).toNat = -2147483648 := by decide
    rw [jsonNumber_field, hits_found rfl listed, Option.bind_some, counterDocument, cast]
    rfl
  rw [text] at printed
  rw [json] at read
  have same := Option.some.inj (printed.trans read.symm)
  norm_num at same

end OClock.StatusText
