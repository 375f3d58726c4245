import OClock.Buffer
import OClock.JsonDecoder
import OClock.JsonLayout
import OClock.StatusReport

/-!
The JSON document of the status page denotes the snapshot, whatever bytes its
strings hold.
-/

namespace OClock.StatusDocument
open Text JsonGrammar JsonLayout DictionaryStore StatusReport

/-! ### The document that is meant -/

def number (value : Int) : JValue := .num value

def hundredths (value : UInt32) : JValue := .num ((value.toNat : ℚ) / 100)

def loadDocument (systemStatus : SystemStatus) : JValue :=
  if systemStatus.loadValid then
    .obj [(bytes "1min", hundredths systemStatus.loadAvg1Hundredths),
      (bytes "5min", hundredths systemStatus.loadAvg5Hundredths),
      (bytes "15min", hundredths systemStatus.loadAvg15Hundredths)]
  else .null

def memoryDocument (memValid : Bool) (value : UInt64) : JValue :=
  if memValid then number value.toNat else .null

def systemDocument (systemStatus : SystemStatus) : JValue :=
  .obj [(bytes "cpu_load", loadDocument systemStatus),
    (bytes "mem_free_kb", memoryDocument systemStatus.memValid systemStatus.memFreeKb),
    (bytes "mem_available_kb", memoryDocument systemStatus.memValid systemStatus.memAvailableKb),
    (bytes "mem_total_kb", memoryDocument systemStatus.memValid systemStatus.memTotalKb)]

def motionDocument (motion : MotionInfo) : JValue :=
  .obj [(bytes "detected", .bool motion.currMotionDetected),
    (bytes "last_change_hour", number motion.lastChangedHour.toNat),
    (bytes "last_change_min", number motion.lastChangedMin.toNat),
    (bytes "last_change_sec", number motion.lastChangedSec.toNat)]

def counterDocument (counter : UInt32) : JValue := number (int32 counter.toNat)

def mqttDocument (snapshot : StatusSnapshot) : JValue :=
  .obj ([(bytes "broker_connected", .bool snapshot.mqtt.mqttBrokerConnected),
    (bytes "broker_ip", .str snapshot.mqttBrokerIp),
    (bytes "broker_port", number snapshot.mqtt.mqttBrokerPort.toInt),
    (bytes "keep_alive_secs", number snapshot.mqtt.mqttKeepAlive.toInt),
    (bytes "last_loop_rc", number snapshot.mqtt.lastLoopRc.toInt),
    (bytes "last_loop_rc_str", .str snapshot.mqttLastLoopRcStr)] ++
    (mqttCounters snapshot.mqtt).map fun counter => (counter.1, counterDocument counter.2))

def entriesDocument (entries : List (Bytes × Bytes)) : JValue :=
  .obj (entries.map fun entry => (entry.1, .str entry.2))

def dictionaryDocument (snapshot : StatusSnapshot) : JValue :=
  .obj [(bytes "size", number (int32 snapshot.dictionarySize.toNat)),
    (bytes "ticks", counterDocument snapshot.dictionaryStatus.ticks),
    (bytes "adds", counterDocument snapshot.dictionaryStatus.entriesAdded),
    (bytes "removes", counterDocument snapshot.dictionaryStatus.entriesRemoved),
    (bytes "expires", counterDocument snapshot.dictionaryStatus.entriesExpired),
    (bytes "entries", entriesDocument snapshot.dictionaryEntries)]

def hitsDocument (snapshot : StatusSnapshot) : JValue :=
  .obj (if snapshot.webHandlerAvailable then
    snapshot.handlerHits.map fun hits => (hits.1, counterDocument hits.2) else [])

def statusDocument (snapshot : StatusSnapshot) : JValue :=
  .obj [(bytes "version", number 1),
    (bytes "system", systemDocument snapshot.system),
    (bytes "motion", motionDocument snapshot.motion),
    (bytes "light_sensor", counterDocument snapshot.lightValue),
    (bytes "display", .obj [(bytes "mode", .str snapshot.displayMode),
      (bytes "dimmed", .bool snapshot.displayDimmed)]),
    (bytes "led_strip", .obj [(bytes "mode", .str snapshot.ledStripMode)]),
    (bytes "mqtt", mqttDocument snapshot),
    (bytes "dictionary", dictionaryDocument snapshot),
    (bytes "handlers", .obj [(bytes "hits", hitsDocument snapshot)])]

/-! ### Strings -/

theorem lowerHex_digits : ∀ byte : BitVec 8, byte.toNat < 32 →
    let c := UInt8.ofBitVec byte
    isXDigit (lowerHexDigit (c / 16)) = true ∧ isXDigit (lowerHexDigit (c % 16)) = true ∧
      codeUnitBytes (codeUnit 48 48 (lowerHexDigit (c / 16)) (lowerHexDigit (c % 16))) = [c] := by
  decide

theorem jsonEscapeByte_text (c : UInt8) : CharText [c] (jsonEscapeByte c) := by
  unfold jsonEscapeByte
  split
  · rename_i quote
    subst quote
    exact .simple 34 34 (by decide)
  split
  · rename_i backslash
    subst backslash
    exact .simple 92 92 (by decide)
  split
  · rename_i backspace
    subst backspace
    exact .simple 98 8 (by decide)
  split
  · rename_i feed
    subst feed
    exact .simple 102 12 (by decide)
  split
  · rename_i newline
    subst newline
    exact .simple 110 10 (by decide)
  split
  · rename_i carriage
    subst carriage
    exact .simple 114 13 (by decide)
  split
  · rename_i tab
    subst tab
    exact .simple 116 9 (by decide)
  split
  · rename_i control
    obtain ⟨high, low, back⟩ := lowerHex_digits c.toBitVec control
    have char := CharText.unicode 48 48 (lowerHexDigit (c / 16)) (lowerHexDigit (c % 16))
      ⟨by decide, by decide, high, low⟩
    rw [back] at char
    exact char
  · rename_i quote backslash _ _ _ _ _ printable
    exact .plain c ⟨UInt8.not_lt.mp printable, quote, backslash⟩

theorem jsonEscape_text (value : Bytes) : StringText value (jsonEscape value) := by
  induction value with
  | nil => exact .nil
  | cons c rest ih => exact .cons (jsonEscapeByte_text c) ih

theorem appendJsonString_denotes (value : Bytes) :
    Denotes (.value (.str value)) (appendJsonString value) := by
  rw [appendJsonString, List.append_assoc]
  exact .str (jsonEscape_text value)

theorem appendLoad_denotes (value : UInt32) :
    Denotes (.value (hundredths value)) (appendLoad value) :=
  denotes_hundredths value.toNat

theorem appendInt_denotes (value : Int) : Denotes (.value (number value)) (appendInt value) :=
  denotes_int value

theorem counter_denotes (counter : UInt32) :
    Denotes (.value (counterDocument counter)) (appendInt (int32 counter.toNat)) :=
  denotes_int (int32 counter.toNat)

/-! ### Members in lines -/

/-- A printed name and a printed value of a member. -/
structure Line (line : Bytes × Bytes) (member : Bytes × JValue) : Prop where
  name : Denotes (.value (.str member.1)) line.1
  value : Denotes (.value member.2) line.2

theorem members_denote {indent before close : Bytes} {lines : List (Bytes × Bytes)}
    {members : List (Bytes × JValue)} (printed : List.Forall₂ Line lines members)
    (nonempty : lines ≠ []) (blank : Space indent) (lead : Space before)
    (closing : closes (10 :: close) = true) :
    Denotes (.fields members) (before ++ (renderMembers indent lines ++ close)) := by
  induction printed generalizing before with
  | nil => exact absurd rfl nonempty
  | @cons line member rest others here later ih =>
      obtain ⟨name, value⟩ := line
      obtain ⟨member, document⟩ := member
      have indented : Space (before ++ indent) := fun c inside =>
        (List.mem_append.mp inside).elim (lead c) (blank c)
      have none : Space [] := List.forall_mem_nil _
      have gap : Space [32] := by decide
      cases here.name with
      | @str _ nameText string =>
          cases later with
          | nil =>
              have last := denotes_end (10 :: close) closing
              have field := Denotes.field indented string none gap here.value last
              simpa [renderMembers, bytes] using field
          | cons next more =>
              have newline : Space [10] := by decide
              have others := Denotes.nextField none (ih (List.cons_ne_nil _ _) newline)
              have field := Denotes.field indented string none gap here.value others
              simpa [renderMembers, bytes] using field

theorem lines_map {α : Type} (entries : List α) (line : α → Bytes × Bytes)
    (member : α → Bytes × JValue) (printed : ∀ entry, Line (line entry) (member entry)) :
    List.Forall₂ Line (entries.map line) (entries.map member) := by
  induction entries with
  | nil => exact .nil
  | cons entry rest ih => exact .cons (printed entry) ih

/-! ### The parts of the document -/

theorem load_text (systemStatus : SystemStatus) :
    Denotes (.value (loadDocument systemStatus))
      (if systemStatus.loadValid then
        bytes "\x7b\"1min\": " ++ appendLoad systemStatus.loadAvg1Hundredths ++
        bytes ", \"5min\": " ++ appendLoad systemStatus.loadAvg5Hundredths ++
        bytes ", \"15min\": " ++ appendLoad systemStatus.loadAvg15Hundredths ++ bytes "\x7d"
      else bytes "null") := by
  unfold loadDocument
  split
  · simp only [List.append_assoc]
    exact .obj
      (denotes_field (bytes "\"1min\": ") (by decide) (appendLoad_denotes _)
      (denotes_next (bytes ", \"5min\": ") (by decide) (appendLoad_denotes _)
      (denotes_next (bytes ", \"15min\": ") (by decide) (appendLoad_denotes _)
      (denotes_end (bytes "\x7d") (by decide)))))
  · exact .null

theorem memory_text (memValid : Bool) (value : UInt64) :
    Denotes (.value (memoryDocument memValid value))
      (if memValid then appendUInt64 value else bytes "null") := by
  unfold memoryDocument
  split
  · exact denotes_nat value.toNat
  · exact .null

theorem system_text (systemStatus : SystemStatus) :
    ∃ text, Denotes (.value (systemDocument systemStatus)) text ∧
      renderJsonSystem systemStatus = bytes "  \"system\": " ++ (text ++ bytes ",\n") := by
  refine ⟨_, .obj
    (denotes_field (bytes "\n    \"cpu_load\": ") (by decide) (load_text systemStatus)
    (denotes_next (bytes ",\n    \"mem_free_kb\": ") (by decide) (memory_text _ _)
    (denotes_next (bytes ",\n    \"mem_available_kb\": ") (by decide) (memory_text _ _)
    (denotes_next (bytes ",\n    \"mem_total_kb\": ") (by decide) (memory_text _ _)
    (denotes_end (bytes "\n  \x7d") (by decide)))))), ?_⟩
  simp only [renderJsonSystem, renderMemory, renderMembers, List.map_cons, List.map_nil,
    List.append_assoc, List.cons_append]
  rfl

theorem motion_text (motion : MotionInfo) :
    Denotes (.value (motionDocument motion))
      (123 :: (bytes "\n    \"detected\": " ++ (appendJsonBool motion.currMotionDetected ++
        (bytes ",\n    \"last_change_hour\": " ++ (appendInt motion.lastChangedHour.toNat ++
        (bytes ",\n    \"last_change_min\": " ++ (appendInt motion.lastChangedMin.toNat ++
        (bytes ",\n    \"last_change_sec\": " ++ (appendInt motion.lastChangedSec.toNat ++
        bytes "\n  \x7d"))))))))) :=
  .obj
    (denotes_field _ (by decide) (denotes_bool _)
    (denotes_next _ (by decide) (appendInt_denotes _)
    (denotes_next _ (by decide) (appendInt_denotes _)
    (denotes_next _ (by decide) (appendInt_denotes _)
    (denotes_end _ (by decide))))))

/-- Counters come after other members, each behind a comma. -/
theorem counters_text (counters : List (Bytes × UInt32))
    (plain : ∀ counter ∈ counters, plainName counter.1 = true) {close : Bytes}
    (closing : closes close = true) :
    Denotes (.moreFields (counters.map fun counter => (counter.1, counterDocument counter.2)))
      (counters.flatMap (fun counter =>
        bytes ",\n    \"" ++ counter.1 ++ bytes "\": " ++ appendInt (int32 counter.2.toNat)) ++
        close) := by
  induction counters with
  | nil => exact denotes_end close closing
  | cons counter rest ih =>
      have later := ih fun other member => plain other (List.mem_cons_of_mem counter member)
      have name := plainName_text (plain counter List.mem_cons_self)
      have none : Space [] := List.forall_mem_nil _
      have indent : Space [10, 32, 32, 32, 32] := by decide
      have gap : Space [32] := by decide
      have value := counter_denotes counter.2
      simp only [List.flatMap_cons, List.map_cons, List.append_assoc] at later ⊢
      have field := Denotes.field indent name none gap value later
      exact .nextField none field

theorem mqttCounters_plain (mqtt : MqttClientInfo) :
    ∀ counter ∈ mqttCounters mqtt, plainName counter.1 = true := by
  simp only [mqttCounters, List.forall_mem_cons]
  decide

theorem mqtt_text (snapshot : StatusSnapshot) :
    ∃ text, Denotes (.value (mqttDocument snapshot)) text ∧
      renderJsonMqtt snapshot = bytes "  \"mqtt\": " ++ (text ++ bytes ",\n") := by
  refine ⟨_, .obj
    (denotes_field (bytes "\n    \"broker_connected\": ") (by decide) (denotes_bool _)
    (denotes_next (bytes ",\n    \"broker_ip\": ") (by decide) (appendJsonString_denotes _)
    (denotes_next (bytes ",\n    \"broker_port\": ") (by decide) (appendInt_denotes _)
    (denotes_next (bytes ",\n    \"keep_alive_secs\": ") (by decide) (appendInt_denotes _)
    (denotes_next (bytes ",\n    \"last_loop_rc\": ") (by decide) (appendInt_denotes _)
    (denotes_next (bytes ",\n    \"last_loop_rc_str\": ") (by decide)
      (appendJsonString_denotes _)
    (counters_text (mqttCounters snapshot.mqtt) (mqttCounters_plain _)
      (by decide : closes (bytes "\n  \x7d") = true)))))))), ?_⟩
  simp only [renderJsonMqtt, appendJsonBool, List.append_assoc, List.cons_append]
  rfl

theorem entries_text (entries : List (Bytes × Bytes)) :
    ∃ text, Denotes (.value (entriesDocument entries)) text ∧
      bytes "\x7b" ++ (if entries.isEmpty then bytes "\x7d\n"
        else bytes "\n" ++ (renderJsonPairs entries (bytes "      ") ++ bytes "    \x7d\n")) =
      text ++ bytes "\n" := by
  cases entries with
  | nil => exact ⟨_, .obj (denotes_none (bytes "\x7d") (by decide)), rfl⟩
  | cons entry rest =>
      have printed := lines_map (entry :: rest)
        (fun entry => (appendJsonString entry.1, appendJsonString entry.2))
        (fun entry => (entry.1, JValue.str entry.2))
        fun entry => ⟨appendJsonString_denotes entry.1, appendJsonString_denotes entry.2⟩
      have newline : Space (bytes "\n") := by decide
      have indent : Space (bytes "      ") := by decide
      refine ⟨_, .obj (members_denote printed (List.cons_ne_nil _ _) indent newline
        (by decide : closes (10 :: bytes "    \x7d") = true)), ?_⟩
      simp only [renderJsonPairs, List.isEmpty_cons, List.append_assoc, List.cons_append]
      rfl

theorem hits_text (snapshot : StatusSnapshot) :
    ∃ text, Denotes (.value (hitsDocument snapshot)) text ∧
      bytes "\x7b" ++ (if !snapshot.webHandlerAvailable || snapshot.handlerHits.isEmpty
        then bytes "\x7d\x7d\n"
        else bytes "\n" ++ (renderHits snapshot.handlerHits ++ bytes "  \x7d\x7d\n")) =
      text ++ bytes "\x7d\n" := by
  unfold hitsDocument
  cases snapshot.webHandlerAvailable with
  | false => exact ⟨_, .obj (denotes_none (bytes "\x7d") (by decide)), rfl⟩
  | true =>
      cases snapshot.handlerHits with
      | nil => exact ⟨_, .obj (denotes_none (bytes "\x7d") (by decide)), rfl⟩
      | cons hits rest =>
          have printed := lines_map (hits :: rest)
            (fun hits => (appendJsonString hits.1, appendInt (int32 hits.2.toNat)))
            (fun hits => (hits.1, counterDocument hits.2)) fun hits => by
              refine ⟨appendJsonString_denotes hits.1, ?_⟩
              dsimp only
              exact counter_denotes hits.2
          have newline : Space (bytes "\n") := by decide
          have indent : Space (bytes "    ") := by decide
          refine ⟨_, .obj (members_denote printed (List.cons_ne_nil _ _) indent newline
            (by decide : closes (10 :: bytes "  \x7d") = true)), ?_⟩
          simp only [renderHits, List.isEmpty_cons, Bool.not_true, Bool.or_self, List.append_assoc,
            List.cons_append]
          rfl

theorem dictionary_text (snapshot : StatusSnapshot) (entries : Bytes)
    (denotes : Denotes (.value (entriesDocument snapshot.dictionaryEntries)) entries) :
    Denotes (.value (dictionaryDocument snapshot))
      (123 :: (bytes "\n    \"size\": " ++ (appendInt (int32 snapshot.dictionarySize.toNat) ++
        (bytes ",\n    \"ticks\": " ++
          (appendInt (int32 snapshot.dictionaryStatus.ticks.toNat) ++
        (bytes ",\n    \"adds\": " ++
          (appendInt (int32 snapshot.dictionaryStatus.entriesAdded.toNat) ++
        (bytes ",\n    \"removes\": " ++
          (appendInt (int32 snapshot.dictionaryStatus.entriesRemoved.toNat) ++
        (bytes ",\n    \"expires\": " ++
          (appendInt (int32 snapshot.dictionaryStatus.entriesExpired.toNat) ++
        (bytes ",\n    \"entries\": " ++ (entries ++ bytes "\n  \x7d"))))))))))))) :=
  .obj
    (denotes_field _ (by decide) (appendInt_denotes _)
    (denotes_next _ (by decide) (appendInt_denotes _)
    (denotes_next _ (by decide) (appendInt_denotes _)
    (denotes_next _ (by decide) (appendInt_denotes _)
    (denotes_next _ (by decide) (appendInt_denotes _)
    (denotes_next _ (by decide) denotes
    (denotes_end _ (by decide))))))))

theorem display_text (snapshot : StatusSnapshot) :
    Denotes (.value (.obj [(bytes "mode", .str snapshot.displayMode),
        (bytes "dimmed", .bool snapshot.displayDimmed)]))
      (123 :: (bytes "\"mode\": " ++ (appendJsonString snapshot.displayMode ++
        (bytes ", \"dimmed\": " ++ (appendJsonBool snapshot.displayDimmed ++ bytes "\x7d"))))) :=
  .obj
    (denotes_field _ (by decide) (appendJsonString_denotes _)
    (denotes_next _ (by decide) (denotes_bool _)
    (denotes_end _ (by decide))))

theorem ledStrip_text (mode : Bytes) :
    Denotes (.value (.obj [(bytes "mode", .str mode)]))
      (123 :: (bytes "\"mode\": " ++ (appendJsonString mode ++ bytes "\x7d"))) :=
  .obj
    (denotes_field _ (by decide) (appendJsonString_denotes _)
    (denotes_end _ (by decide)))

theorem handlers_text {hits : JValue} {text : Bytes} (denotes : Denotes (.value hits) text) :
    Denotes (.value (.obj [(bytes "hits", hits)]))
      (123 :: (bytes "\"hits\": " ++ (text ++ bytes "\x7d"))) :=
  .obj
    (denotes_field _ (by decide) denotes
    (denotes_end _ (by decide)))

/-! ### The whole document -/

/-- The brace of an object printed with the text in front of it. -/
theorem opened_brace (lead : Bytes) {printed text close : Bytes}
    (same : bytes "\x7b" ++ printed = text ++ close) (rest : Bytes) :
    lead ++ bytes "\x7b" ++ (printed ++ rest) = lead ++ (text ++ (close ++ rest)) := by
  rw [List.append_assoc, ← List.append_assoc (bytes "\x7b"), same, List.append_assoc]

set_option maxRecDepth 4000 in
theorem document_text (snapshot : StatusSnapshot) :
    ∃ text, Denotes (.value (statusDocument snapshot)) text ∧
      renderStatusJson snapshot = text ++ bytes "\n" := by
  obtain ⟨systemText, system, systemSame⟩ := system_text snapshot.system
  obtain ⟨mqttText, mqtt, mqttSame⟩ := mqtt_text snapshot
  obtain ⟨entriesText, entries, entriesSame⟩ := entries_text snapshot.dictionaryEntries
  obtain ⟨hitsText, hits, hitsSame⟩ := hits_text snapshot
  have document : Denotes (.value (statusDocument snapshot)) _ := .obj
    (denotes_field (bytes "\n  \"version\": ") (by decide) (appendInt_denotes statusJsonVersion)
    (denotes_next (bytes ",\n  \"system\": ") (by decide) system
    (denotes_next (bytes ",\n  \"motion\": ") (by decide) (motion_text snapshot.motion)
    (denotes_next (bytes ",\n  \"light_sensor\": ") (by decide)
      (counter_denotes snapshot.lightValue)
    (denotes_next (bytes ",\n  \"display\": ") (by decide) (display_text snapshot)
    (denotes_next (bytes ",\n  \"led_strip\": ") (by decide)
      (ledStrip_text snapshot.ledStripMode)
    (denotes_next (bytes ",\n  \"mqtt\": ") (by decide) mqtt
    (denotes_next (bytes ",\n  \"dictionary\": ") (by decide)
      (dictionary_text snapshot entriesText entries)
    (denotes_next (bytes ",\n  \"handlers\": ") (by decide) (handlers_text hits)
    (denotes_end (bytes "\n\x7d") (by decide)))))))))))
  refine ⟨_, document, ?_⟩
  have dictionary := opened_brace (bytes ",\n    \"entries\": ") entriesSame
  have handlers := opened_brace (bytes "  \"handlers\": \x7b\"hits\": ") hitsSame
  unfold renderStatusJson
  rw [systemSame, mqttSame]
  simp only [List.append_assoc]
  rw [show bytes ",\n    \"entries\": \x7b" = bytes ",\n    \"entries\": " ++ bytes "\x7b" from rfl,
    dictionary, show bytes "  \"handlers\": \x7b\"hits\": \x7b" =
      bytes "  \"handlers\": \x7b\"hits\": " ++ bytes "\x7b" from rfl, handlers]
  simp only [List.append_assoc, List.cons_append]
  rfl

theorem status_text (snapshot : StatusSnapshot) :
    DenotesText (statusDocument snapshot) (renderStatusJson snapshot) := by
  obtain ⟨text, denotes, printed⟩ := document_text snapshot
  have none : Space [] := List.forall_mem_nil _
  have newline : Space (bytes "\n") := by decide
  rw [printed]
  exact .text none denotes newline

theorem load_null (systemStatus : SystemStatus) :
    loadDocument systemStatus = .null ↔ systemStatus.loadValid = false := by
  unfold loadDocument
  cases systemStatus.loadValid with
  | false => simp
  | true => simp

theorem memory_null (memValid : Bool) (value : UInt64) :
    memoryDocument memValid value = .null ↔ memValid = false := by
  unfold memoryDocument number
  cases memValid with
  | false => simp
  | true => simp

/-- A document and its terminator are a C string. -/
theorem denoted_cString {value : JValue} {text : Bytes} (denotes : DenotesText value text) :
    Buffer.cString (text ++ [0]) 0 = some text :=
  Buffer.cString_at [] text [] (text_clean denotes)

/-- The grammar accepts the text of every snapshot and leaves only one reading of it, the
snapshot; the text is a C string of its own size. -/
theorem renderStatusJson_lossless (snapshot : StatusSnapshot) :
    DenotesText (statusDocument snapshot) (renderStatusJson snapshot) ∧
      (∀ document, DenotesText document (renderStatusJson snapshot) →
        document = statusDocument snapshot) ∧
      JsonDecoder.decode (renderStatusJson snapshot) = some (statusDocument snapshot) ∧
      (0 : UInt8) ∉ renderStatusJson snapshot ∧
      Buffer.cString (renderStatusJson snapshot ++ [0]) 0 = some (renderStatusJson snapshot) ∧
      (loadDocument snapshot.system = .null ↔ snapshot.system.loadValid = false) ∧
      ∀ value, memoryDocument snapshot.system.memValid value = .null ↔
        snapshot.system.memValid = false := by
  have denotes := status_text snapshot
  exact ⟨denotes, fun document other => JsonDecoder.denotes_unique other denotes,
    JsonDecoder.decode_denoted denotes, text_clean denotes, denoted_cString denotes,
    load_null snapshot.system, memory_null snapshot.system.memValid⟩

end OClock.StatusDocument
