import OClock.InboxRegistry
import OClock.StatusReport

/-!
The motion sensor of motionSensor.cpp. What its pin reads is given; a change is told to the
other threads before the clock of the last change goes back to zero.
-/

namespace OClock.MotionSensor
open InboxRegistry StatusReport

/-- `memset` of the record. -/
def cleared : MotionInfo := ⟨false, 0, 0, 0⟩

/-- One more reading like the last one. -/
def unchanged (motionInfo : MotionInfo) : MotionInfo :=
  let lastChangedSec := motionInfo.lastChangedSec + 1
  if lastChangedSec > 59 then
    let lastChangedMin := motionInfo.lastChangedMin + 1
    if lastChangedMin > 59 then
      { motionInfo with
        lastChangedSec := 0
        lastChangedMin := 0
        lastChangedHour := if motionInfo.lastChangedHour < 254 then motionInfo.lastChangedHour + 1
          else motionInfo.lastChangedHour }
    else { motionInfo with lastChangedSec := 0, lastChangedMin := lastChangedMin }
  else { motionInfo with lastChangedSec := lastChangedSec }

/-- `memcpy` of the record into the payload. -/
def payloadOf (motionInfo : MotionInfo) : Vector UInt8 maxPayloadSize :=
  let cleared : Vector UInt8 64 := Vector.replicate 64 0
  (((cleared.set 0 (if motionInfo.currMotionDetected then 1 else 0)).set 1
    motionInfo.lastChangedSec).set 2 motionInfo.lastChangedMin).set 3 motionInfo.lastChangedHour

def notifyMotionSensorChange (motionInfo : MotionInfo) (inboxes : Inboxes) : Inboxes :=
  broadcast inboxes
    ⟨if motionInfo.currMotionDetected then .motionOn else .motionOff, payloadOf motionInfo⟩
    .motionSensor

/-- Whether the sensor changed, and what it leaves. -/
def checkMotionSensor (motionInfo : MotionInfo) (inboxes : Inboxes) (currMotionDetected : Bool) :
    Bool × MotionInfo × Inboxes :=
  if motionInfo.currMotionDetected = currMotionDetected then
    (false, unchanged motionInfo, inboxes)
  else
    let changed := { motionInfo with currMotionDetected := currMotionDetected }
    (true, { changed with lastChangedSec := 0, lastChangedMin := 0, lastChangedHour := 0 },
      notifyMotionSensorChange changed inboxes)

/-- The reading, and the copy of the record that the caller asks for. -/
def getMotionValue (motionInfo : MotionInfo) : Bool × MotionInfo :=
  (motionInfo.currMotionDetected, motionInfo)

theorem unchanged_motion (motionInfo : MotionInfo) :
    (unchanged motionInfo).currMotionDetected = motionInfo.currMotionDetected := by
  unfold unchanged
  dsimp only
  split
  · split <;> rfl
  · rfl

/-- The sensor knows what it read last. -/
theorem check_motion (motionInfo : MotionInfo) (inboxes : Inboxes) (reading : Bool) :
    (checkMotionSensor motionInfo inboxes reading).2.1.currMotionDetected = reading := by
  unfold checkMotionSensor
  by_cases same : motionInfo.currMotionDetected = reading
  · rw [if_pos same]
    exact (unchanged_motion motionInfo).trans same
  · rw [if_neg same]

end OClock.MotionSensor
