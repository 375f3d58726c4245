import OClock.DictionaryStore

/-!
The snapshot of statusReport.h and the renderer of the JSON document in
statusReport.cpp. `int` is 32 bits wide, so a counter is printed after its cast. The
braces of the printed text are spelled `\x7b` and `\x7d`.
-/

namespace OClock.StatusReport
open Text DictionaryStore

structure MotionInfo where
  currMotionDetected : Bool
  lastChangedSec : UInt8
  lastChangedMin : UInt8
  lastChangedHour : UInt8
  deriving Inhabited

structure MqttClientInfo where
  mqttBrokerPort : Int32
  mqttKeepAlive : Int32
  mqttBrokerConnected : Bool
  lastLoopRc : Int32
  connectAttempts : UInt32
  connects : UInt32
  disconnects : UInt32
  publishes : UInt32
  publishedMotions : UInt32
  publishesDropped : UInt32
  publishCallbacks : UInt32
  messages : UInt32
  ticks : UInt32
  deriving Inhabited

structure SystemStatus where
  loadValid : Bool
  loadAvg1Hundredths : UInt32
  loadAvg5Hundredths : UInt32
  loadAvg15Hundredths : UInt32
  memValid : Bool
  memFreeKb : UInt64
  memAvailableKb : UInt64
  memTotalKb : UInt64
  deriving Inhabited

structure StatusSnapshot where
  webHandlerAvailable : Bool
  handlerHits : List (Bytes × UInt32)
  motion : MotionInfo
  lightValue : UInt32
  displayMode : Bytes
  displayDimmed : Bool
  ledStripMode : Bytes
  mqtt : MqttClientInfo
  mqttBrokerIp : Bytes
  mqttLastLoopRcStr : Bytes
  dictionaryStatus : DictionaryStatus UInt32
  dictionarySize : UInt64
  dictionaryEntries : List (Bytes × Bytes)
  system : SystemStatus
  deriving Inhabited

def statusJsonVersion : Int := 1

/-! ### Numbers and strings -/

/-- `%d`. The 24 bytes of the text hold every number the program prints. -/
def appendInt (value : Int) : Bytes := decimalInt value

def appendUInt64 (value : UInt64) : Bytes := decimal value.toNat

/-- `%lu.%02lu` -/
def appendLoad (hundredths : UInt32) : Bytes :=
  decimal (hundredths.toNat / 100) ++ bytes "." ++ twoDigits (hundredths.toNat % 100)

/-- `%04x` of a byte -/
def unicodeEscape (c : UInt8) : Bytes :=
  bytes "\\u00" ++ [lowerHexDigit (c / 16), lowerHexDigit (c % 16)]

def jsonEscapeByte (c : UInt8) : Bytes :=
  if c = 34 then bytes "\\\""
  else if c = 92 then bytes "\\\\"
  else if c = 8 then bytes "\\b"
  else if c = 12 then bytes "\\f"
  else if c = 10 then bytes "\\n"
  else if c = 13 then bytes "\\r"
  else if c = 9 then bytes "\\t"
  else if c < 32 then unicodeEscape c
  else [c]

def jsonEscape (value : Bytes) : Bytes := value.flatMap jsonEscapeByte

def appendJsonString (value : Bytes) : Bytes := bytes "\"" ++ jsonEscape value ++ bytes "\""

def appendJsonBool (value : Bool) : Bytes := if value then bytes "true" else bytes "false"

/-! ### The parts of the document -/

/-- The loops over members of an object: each has its indent, its name as it was
printed and its value, and ends a line. -/
def renderMembers (indent : Bytes) : List (Bytes × Bytes) → Bytes
  | [] => []
  | (name, value) :: rest =>
      indent ++ name ++ bytes ": " ++ value ++
        (if rest.isEmpty then bytes "\n" else bytes ",\n") ++ renderMembers indent rest

def renderMemory (memValid : Bool) (values : List (Bytes × UInt64)) : Bytes :=
  renderMembers (bytes "    ") (values.map fun value =>
    (bytes "\"" ++ value.1 ++ bytes "\"",
      if memValid then appendUInt64 value.2 else bytes "null"))

def renderJsonSystem (systemStatus : SystemStatus) : Bytes :=
  bytes "  \"system\": \x7b\n" ++
  bytes "    \"cpu_load\": " ++
  (if systemStatus.loadValid then
    bytes "\x7b\"1min\": " ++ appendLoad systemStatus.loadAvg1Hundredths ++
    bytes ", \"5min\": " ++ appendLoad systemStatus.loadAvg5Hundredths ++
    bytes ", \"15min\": " ++ appendLoad systemStatus.loadAvg15Hundredths ++ bytes "\x7d"
  else bytes "null") ++
  bytes ",\n" ++
  renderMemory systemStatus.memValid
    [(bytes "mem_free_kb", systemStatus.memFreeKb),
      (bytes "mem_available_kb", systemStatus.memAvailableKb),
      (bytes "mem_total_kb", systemStatus.memTotalKb)] ++
  bytes "  \x7d,\n"

def mqttCounters (mqtt : MqttClientInfo) : List (Bytes × UInt32) :=
  [(bytes "connect_attempts", mqtt.connectAttempts), (bytes "connects", mqtt.connects),
    (bytes "disconnects", mqtt.disconnects), (bytes "publishes", mqtt.publishes),
    (bytes "published_motions", mqtt.publishedMotions),
    (bytes "publishes_dropped", mqtt.publishesDropped),
    (bytes "publish_callbacks", mqtt.publishCallbacks), (bytes "messages", mqtt.messages),
    (bytes "ticks", mqtt.ticks)]

def renderJsonMqtt (snapshot : StatusSnapshot) : Bytes :=
  bytes "  \"mqtt\": \x7b\n" ++
  bytes "    \"broker_connected\": " ++ appendJsonBool snapshot.mqtt.mqttBrokerConnected ++
  bytes ",\n    \"broker_ip\": " ++ appendJsonString snapshot.mqttBrokerIp ++
  bytes ",\n    \"broker_port\": " ++ appendInt snapshot.mqtt.mqttBrokerPort.toInt ++
  bytes ",\n    \"keep_alive_secs\": " ++ appendInt snapshot.mqtt.mqttKeepAlive.toInt ++
  bytes ",\n    \"last_loop_rc\": " ++ appendInt snapshot.mqtt.lastLoopRc.toInt ++
  bytes ",\n    \"last_loop_rc_str\": " ++ appendJsonString snapshot.mqttLastLoopRcStr ++
  (mqttCounters snapshot.mqtt).flatMap (fun counter =>
    bytes ",\n    \"" ++ counter.1 ++ bytes "\": " ++ appendInt (int32 counter.2.toNat)) ++
  bytes "\n  \x7d,\n"

def renderJsonPairs (entries : List (Bytes × Bytes)) (indent : Bytes) : Bytes :=
  renderMembers indent (entries.map fun entry =>
    (appendJsonString entry.1, appendJsonString entry.2))

def renderHits (handlerHits : List (Bytes × UInt32)) : Bytes :=
  renderMembers (bytes "    ") (handlerHits.map fun hits =>
    (appendJsonString hits.1, appendInt (int32 hits.2.toNat)))

def renderStatusJson (snapshot : StatusSnapshot) : Bytes :=
  bytes "\x7b\n" ++
  bytes "  \"version\": " ++ appendInt statusJsonVersion ++ bytes ",\n" ++
  renderJsonSystem snapshot.system ++
  bytes "  \"motion\": \x7b\n" ++
  bytes "    \"detected\": " ++ appendJsonBool snapshot.motion.currMotionDetected ++
  bytes ",\n    \"last_change_hour\": " ++ appendInt snapshot.motion.lastChangedHour.toNat ++
  bytes ",\n    \"last_change_min\": " ++ appendInt snapshot.motion.lastChangedMin.toNat ++
  bytes ",\n    \"last_change_sec\": " ++ appendInt snapshot.motion.lastChangedSec.toNat ++
  bytes "\n  \x7d,\n" ++
  bytes "  \"light_sensor\": " ++ appendInt (int32 snapshot.lightValue.toNat) ++ bytes ",\n" ++
  bytes "  \"display\": \x7b\"mode\": " ++ appendJsonString snapshot.displayMode ++
  bytes ", \"dimmed\": " ++ appendJsonBool snapshot.displayDimmed ++ bytes "\x7d,\n" ++
  bytes "  \"led_strip\": \x7b\"mode\": " ++ appendJsonString snapshot.ledStripMode ++
  bytes "\x7d,\n" ++
  renderJsonMqtt snapshot ++
  bytes "  \"dictionary\": \x7b\n" ++
  bytes "    \"size\": " ++ appendInt (int32 snapshot.dictionarySize.toNat) ++
  bytes ",\n    \"ticks\": " ++ appendInt (int32 snapshot.dictionaryStatus.ticks.toNat) ++
  bytes ",\n    \"adds\": " ++ appendInt (int32 snapshot.dictionaryStatus.entriesAdded.toNat) ++
  bytes ",\n    \"removes\": " ++
    appendInt (int32 snapshot.dictionaryStatus.entriesRemoved.toNat) ++
  bytes ",\n    \"expires\": " ++
    appendInt (int32 snapshot.dictionaryStatus.entriesExpired.toNat) ++
  bytes ",\n    \"entries\": \x7b" ++
  (if snapshot.dictionaryEntries.isEmpty then bytes "\x7d\n"
  else bytes "\n" ++ renderJsonPairs snapshot.dictionaryEntries (bytes "      ") ++
    bytes "    \x7d\n") ++
  bytes "  \x7d,\n" ++
  bytes "  \"handlers\": \x7b\"hits\": \x7b" ++
  (if !snapshot.webHandlerAvailable || snapshot.handlerHits.isEmpty then bytes "\x7d\x7d\n"
  else bytes "\n" ++ renderHits snapshot.handlerHits ++ bytes "  \x7d\x7d\n") ++
  bytes "\x7d\n"

end OClock.StatusReport
