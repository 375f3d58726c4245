import OClock.InboxRegistry
import OClock.LockOrder

/-!
Which mutexes each function of the program takes, and under which it calls what. A function is
told here by its scopes alone: what it computes is dropped, so that any branch may be taken,
any loop goes round as often as it likes, and any statement may throw.
-/

namespace OClock.Locking
open LockOrder OClock.InboxRegistry

inductive Mutex where
  | inboxRegistry
  | inbox (threadId : ThreadId)
  | webHandlerInternal
  | mqttClient
  | lightSensor
  | motionSensor
  | dictionary
  | dictionaryStatus
  | timerTick
  | timerTickServiceCv (threadId : ThreadId)
  | display
  | ledStrip
  | gpioLock
  | gpio
  | spiOutput
  | analogInput
  | random
  deriving DecidableEq

abbrev Code := Script Mutex

/-- A body under a lock in which nothing else locks. -/
def locked (mutex : Mutex) : Code := .guarded mutex .skip

def maybe (code : Code) : Code := .either .skip code

/-- `cv.wait(lck, condition)`: the mutex is free while the thread sleeps. -/
def waitOn (mutex : Mutex) : Code := .seq (.loop (.seq (locked mutex) .sleep)) (locked mutex)

/-! Inboxes. -/

def Inbox.addMessage (threadId : ThreadId) : Code := locked (.inbox threadId)
def Inbox.waitForMessage (threadId : ThreadId) : Code := waitOn (.inbox threadId)
def Inbox.getMessage (threadId : ThreadId) : Code := locked (.inbox threadId)
def Inbox.clear (threadId : ThreadId) : Code := locked (.inbox threadId)

def InboxRegistry.bind : Code := locked .inboxRegistry
def InboxRegistry.getInbox : Code := locked .inboxRegistry

def InboxRegistry.broadcast : Code :=
  .guarded .inboxRegistry (.loop (.anyOf (threadIds.map Inbox.addMessage)))

def InboxRegistry.shutdown : Code :=
  .guarded .inboxRegistry (.loop (.anyOf (threadIds.map Inbox.clear)))

/-! The timer. -/

def TimerTick.bind : Code := locked .timerTick
def TimerTick.shutdown : Code := locked .timerTick
def TimerTick.registerTimerTickService : Code := locked .timerTick
def TimerTick.startTimerTickService : Code := locked .timerTick
def TimerTick.unregisterTimerTickService : Code := locked .timerTick
def TimerTick.registerTimerTickMainThread : Code := locked .timerTick

def TimerTickServiceCv.expireTrigger (threadId : ThreadId) : Code :=
  locked (.timerTickServiceCv threadId)
def TimerTickServiceCv.wait (threadId : ThreadId) : Code := waitOn (.timerTickServiceCv threadId)
def TimerTickServiceMessage.expireTrigger (threadId : ThreadId) : Code :=
  maybe (Inbox.addMessage threadId)

/-- The callbacks of every service that some thread registers. -/
def TimerTickService.expireTrigger : Code :=
  .anyOf (.skip ::
    ([ThreadId.display, .ledStrip, .lightSensor, .motionSensor].map
        TimerTickServiceCv.expireTrigger ++
      [ThreadId.mqttClient, .dictionary].map TimerTickServiceMessage.expireTrigger))

def TimerTick.runThreadLoop : Code :=
  .inOrder [InboxRegistry.bind, InboxRegistry.getInbox,
    .loop (.seq (Inbox.getMessage .timerTick)
      (.guarded .timerTick (.loop (maybe TimerTickService.expireTrigger)))),
    Inbox.getMessage .timerTick]

def timerTickMain : Code :=
  .inOrder [TimerTick.registerTimerTickMainThread, TimerTick.bind, TimerTick.runThreadLoop]

/-! The dictionary. -/

def DictionaryData.new : Code := maybe (.seq TimerTick.bind TimerTick.registerTimerTickService)
def DictionaryData.delete : Code := .seq TimerTick.bind TimerTick.unregisterTimerTickService

def Dictionary.bind : Code := locked .dictionary
def Dictionary.registerMainThread : Code := locked .dictionary
def Dictionary.size : Code := locked .dictionary
def Dictionary.getDictionaryStatus : Code := locked .dictionaryStatus

def Dictionary.removeAt : Code := .seq DictionaryData.delete (locked .dictionaryStatus)

def Dictionary.get : Code :=
  .guarded .dictionary (maybe (.seq (locked .dictionaryStatus) Dictionary.removeAt))

def Dictionary.add : Code :=
  .guarded .dictionary (maybe (.seq Dictionary.get
    (maybe (.seq DictionaryData.new (locked .dictionaryStatus)))))

def Dictionary.remove : Code := .guarded .dictionary (maybe Dictionary.removeAt)

def Dictionary.clear : Code :=
  .guarded .dictionary (.seq (.loop DictionaryData.delete) (locked .dictionaryStatus))

def Dictionary.getNext : Code := .guarded .dictionary (.loop Dictionary.get)
def Dictionary.getFirst : Code := Dictionary.getNext

def Dictionary.shutdown : Code := .guarded .dictionary (maybe Dictionary.clear)

def Dictionary.purgeExpiredDictionaryEntries : Code :=
  .seq Dictionary.getFirst (.loop Dictionary.getNext)

def Dictionary.parsePostRequest : Code :=
  maybe (.seq (maybe (.either Dictionary.clear Dictionary.remove))
    (maybe (.attempt (.seq .skip Dictionary.add))))

def Dictionary.runThreadLoop : Code :=
  .inOrder [InboxRegistry.bind, InboxRegistry.getInbox, TimerTick.bind,
    TimerTick.registerTimerTickService,
    .loop (.seq (Inbox.waitForMessage .dictionary)
      (maybe (.seq Dictionary.purgeExpiredDictionaryEntries (locked .dictionaryStatus)))),
    Inbox.waitForMessage .dictionary,
    TimerTick.unregisterTimerTickService, Inbox.clear .dictionary]

def dictionaryMain : Code :=
  .inOrder [Dictionary.registerMainThread, Dictionary.bind, Dictionary.runThreadLoop]

/-! The pins and the two sensors. -/

def Gpio.initialize : Code := locked .gpio
def Gpio.configureInput : Code := locked .gpio
def Gpio.configureOutput : Code := locked .gpio
def Gpio.read : Code := locked .gpio
def Gpio.write : Code := locked .gpio
def Gpio.acquireBurst : Code := locked .gpio

def SpiOutput.initialize : Code := locked .spiOutput
def SpiOutput.transfer : Code := locked .spiOutput

def AnalogInput.initialize : Code := locked .analogInput
def AnalogInput.readAnalog : Code := locked .analogInput

def getRandomNumber : Code := maybe (locked .random)

def LightSensor.bind : Code := locked .lightSensor
def LightSensor.shutdown : Code := locked .lightSensor
def LightSensor.registerMainThread : Code := locked .lightSensor
def LightSensor.getLightValue : Code := locked .lightSensor

def LightSensor.doSensorRead : Code :=
  .inOrder [AnalogInput.readAnalog, AnalogInput.readAnalog, locked .lightSensor]

def LightSensor.runThreadLoop : Code :=
  .inOrder [TimerTick.bind, TimerTick.registerTimerTickService, InboxRegistry.bind,
    InboxRegistry.getInbox,
    .loop (.inOrder [Inbox.getMessage .lightSensor, TimerTickServiceCv.wait .lightSensor,
      LightSensor.doSensorRead]),
    Inbox.getMessage .lightSensor, TimerTick.unregisterTimerTickService]

def lightSensorMain : Code :=
  .inOrder [LightSensor.registerMainThread, LightSensor.bind, LightSensor.runThreadLoop]

def MotionSensor.bind : Code := .guarded .motionSensor (maybe InboxRegistry.bind)
def MotionSensor.shutdown : Code := locked .motionSensor
def MotionSensor.registerMainThread : Code := locked .motionSensor
def MotionSensor.getMotionValue : Code := locked .motionSensor
def MotionSensor.notifyMotionSensorChange : Code := InboxRegistry.broadcast

def MotionSensor.checkMotionSensor : Code :=
  .guarded .motionSensor (.seq Gpio.read (maybe MotionSensor.notifyMotionSensorChange))

def MotionSensor.runThreadLoop : Code :=
  .inOrder [TimerTick.bind, TimerTick.registerTimerTickService, InboxRegistry.getInbox,
    .guarded .gpioLock Gpio.configureInput,
    .loop (.inOrder [Inbox.getMessage .motionSensor, TimerTickServiceCv.wait .motionSensor,
      MotionSensor.checkMotionSensor]),
    Inbox.getMessage .motionSensor, TimerTick.unregisterTimerTickService]

def motionSensorMain : Code :=
  .inOrder [MotionSensor.registerMainThread, MotionSensor.bind, MotionSensor.runThreadLoop]

/-! The matrix. The burst path of a write takes no lock. -/

def HT1632Class.pinWrite : Code := maybe Gpio.write
def HT1632Class.outputCLK_Pulse : Code := .seq HT1632Class.pinWrite HT1632Class.pinWrite

def HT1632Class.select : Code :=
  .guarded .gpioLock (.either
    (.seq HT1632Class.pinWrite (.loop HT1632Class.outputCLK_Pulse))
    (.inOrder [HT1632Class.pinWrite, .loop HT1632Class.outputCLK_Pulse, HT1632Class.pinWrite,
      HT1632Class.outputCLK_Pulse, HT1632Class.pinWrite, .loop HT1632Class.outputCLK_Pulse]))

def HT1632Class.writeData : Code :=
  .guarded .gpioLock
    (.loop (.inOrder [HT1632Class.pinWrite, HT1632Class.pinWrite, HT1632Class.pinWrite]))

def HT1632Class.writeDataRev : Code := HT1632Class.writeData

def HT1632Class.writeSingleBit : Code :=
  .guarded .gpioLock
    (.inOrder [HT1632Class.pinWrite, HT1632Class.pinWrite, HT1632Class.pinWrite])

def HT1632Class.writeCommand : Code :=
  .guarded .gpioLock (.seq HT1632Class.writeData HT1632Class.writeSingleBit)

def HT1632Class.initialize : Code :=
  .guarded .gpioLock (.seq HT1632Class.select
    (.loop (.inOrder [HT1632Class.select, HT1632Class.writeData, HT1632Class.writeCommand,
      HT1632Class.writeCommand, HT1632Class.writeCommand, HT1632Class.writeCommand,
      HT1632Class.writeCommand, HT1632Class.writeCommand, HT1632Class.writeCommand,
      HT1632Class.select])))

def HT1632Class.render : Code :=
  .guarded .gpioLock (maybe (.inOrder [HT1632Class.select,
    .loop (.either
      (.seq (maybe (.inOrder [HT1632Class.select, HT1632Class.writeData, HT1632Class.writeData]))
        HT1632Class.writeDataRev)
      (maybe HT1632Class.select)),
    maybe HT1632Class.select]))

def HT1632Class.renderAll : Code := .loop HT1632Class.render

def HT1632Class.reinit : Code := .seq HT1632Class.initialize (.loop HT1632Class.render)

def HT1632Class.blank : Code :=
  .guarded .gpioLock (.seq HT1632Class.select
    (.loop (.inOrder [HT1632Class.select, HT1632Class.writeData, HT1632Class.writeCommand,
      HT1632Class.select])))

def HT1632Class.setBrightness : Code :=
  .guarded .gpioLock (maybe (.seq
    (.loop (.inOrder [HT1632Class.select, HT1632Class.writeData, HT1632Class.writeCommand]))
    HT1632Class.select))

def HT1632Class.begin : Code :=
  .guarded .gpioLock (.inOrder [Gpio.configureOutput, Gpio.configureOutput, Gpio.configureOutput,
    Gpio.configureOutput, Gpio.acquireBurst, HT1632Class.initialize, .loop HT1632Class.render])

/-! The display. -/

/-- A change of the mode. Only the clock locks anything in its `handlerInit`, to look two
entries up. -/
def changeDisplayMode : Code :=
  maybe (.inOrder [HT1632Class.renderAll, maybe (.seq Dictionary.get Dictionary.get),
    InboxRegistry.broadcast])

def modeBasicClockSlow : Code := .seq Dictionary.get Dictionary.get

def modeBasicClockSDoUpDownAnimation : Code :=
  .inOrder [Dictionary.get, maybe HT1632Class.render, Dictionary.get, maybe HT1632Class.render,
    Dictionary.get, Dictionary.get, Dictionary.get, maybe HT1632Class.render]

def updateMotionDetectedPixel : Code :=
  .seq MotionSensor.getMotionValue (maybe HT1632Class.renderAll)

def modeBasicClockFast : Code :=
  .seq MotionSensor.getMotionValue
    (.either changeDisplayMode (.seq (maybe modeBasicClockSlow) updateMotionDetectedPixel))

def modeMessageFast : Code :=
  .inOrder [.loop getRandomNumber, HT1632Class.renderAll, maybe changeDisplayMode]

def modeMessageCheckTimeout : Code := maybe changeDisplayMode

def modeNothingCheckMotion : Code :=
  .seq MotionSensor.getMotionValue (.either changeDisplayMode HT1632Class.renderAll)

def updateDim : Code :=
  .seq LightSensor.getLightValue
    (maybe (.seq HT1632Class.setBrightness InboxRegistry.broadcast))

def DisplayInternalInfo.new : Code :=
  .inOrder [Dictionary.bind, MotionSensor.bind, LightSensor.bind, InboxRegistry.bind,
    changeDisplayMode]

def DisplayInternalInfo.delete : Code := .seq HT1632Class.renderAll HT1632Class.blank

def DisplayInternal.displayTickFast : Code := maybe modeMessageFast
def DisplayInternal.displayTick250ms : Code := maybe modeBasicClockSDoUpDownAnimation
def DisplayInternal.displayTick500ms : Code :=
  .seq (maybe HT1632Class.reinit) (maybe modeBasicClockFast)
def DisplayInternal.displayTick1sec : Code :=
  .seq (.anyOf [modeMessageCheckTimeout, modeNothingCheckMotion]) updateDim
def DisplayInternal.displayTick10sec : Code := maybe modeBasicClockSlow

def DisplayInternal.doHandleMsgModePost : Code :=
  .seq (.loop (maybe (.either getRandomNumber Dictionary.get))) changeDisplayMode
def DisplayInternal.doHandleMsgBackgroundPost : Code := .loop (maybe Dictionary.get)

def Display.bind : Code := locked .display
def Display.shutdown : Code := locked .display
def Display.registerMainThread : Code := locked .display
def Display.enqueueDisplayTodo : Code := locked .display
def Display.dequeueDisplayTodo : Code := locked .display
def Display.getInternalDisplayMode : Code := locked .display
def Display.getInternalDisplayDimmed : Code := locked .display

def Display.checkTodoList : Code :=
  .seq Display.dequeueDisplayTodo
    (.anyOf [.skip, DisplayInternal.doHandleMsgModePost,
      DisplayInternal.doHandleMsgBackgroundPost])

/-- The nine services of the loop are registered before it and given back after it. -/
def Display.runThreadLoop : Code :=
  .inOrder [TimerTick.bind, .loop TimerTick.registerTimerTickService, InboxRegistry.bind,
    InboxRegistry.getInbox, HT1632Class.begin, DisplayInternalInfo.new,
    .loop (.inOrder [Inbox.getMessage .display, TimerTickServiceCv.wait .display,
      .guarded .display (.inOrder [Display.checkTodoList, DisplayInternal.displayTickFast,
        maybe DisplayInternal.displayTick250ms, maybe DisplayInternal.displayTick500ms,
        maybe DisplayInternal.displayTick1sec, maybe DisplayInternal.displayTick10sec])]),
    Inbox.getMessage .display, DisplayInternalInfo.delete,
    .loop TimerTick.unregisterTimerTickService]

def displayMain : Code :=
  .inOrder [Display.registerMainThread, Display.bind, Display.runThreadLoop]

/-! The LED strip. -/

def LPD8806.bitBangLatchSignal : Code := .seq Gpio.write (.loop (.seq Gpio.write Gpio.write))

def LPD8806.startBitbang : Code :=
  .guarded .gpioLock
    (.inOrder [Gpio.configureOutput, Gpio.configureOutput, LPD8806.bitBangLatchSignal])

def LPD8806.transferSpiLatch : Code := maybe SpiOutput.transfer

def LPD8806.begin : Code :=
  .either (.guarded .gpioLock LPD8806.transferSpiLatch) LPD8806.startBitbang

def LPD8806.updatePins : Code :=
  .guarded .gpioLock (maybe (.seq (maybe (.seq Gpio.configureInput Gpio.configureInput))
    (maybe LPD8806.startBitbang)))

def LPD8806.show : Code :=
  .guarded .gpioLock (.anyOf [SpiOutput.transfer,
    .seq (.loop (.inOrder [maybe Gpio.write, Gpio.write, Gpio.write]))
      LPD8806.bitBangLatchSignal])

def modeFillInit : Code := .inOrder [maybe getRandomNumber, .loop (maybe getRandomNumber), LPD8806.show]
def modePastelMain : Code := LPD8806.show
def modeRainbowMain : Code := LPD8806.show
def modeScanMain : Code :=
  .inOrder [maybe getRandomNumber, .loop LPD8806.show, maybe LPD8806.show]
def modeBinaryCounterMain : Code := .seq (maybe getRandomNumber) LPD8806.show

def changeLedStripMode : Code :=
  maybe (.seq (maybe LPD8806.show) (.anyOf [modePastelMain, modeFillInit, modeRainbowMain]))

def checkIfModeTimedOut : Code := maybe changeLedStripMode

def LedStripInternal.new : Code := .inOrder [LPD8806.begin, LPD8806.show, changeLedStripMode]
def LedStripInternal.delete : Code := LPD8806.show

/-- What the handlers of the four ticks choose from. -/
def LedStripInternal.tick : Code :=
  .anyOf [modePastelMain, modeRainbowMain, modeScanMain, modeBinaryCounterMain]

def LedStripInternal.tick1sec : Code := .seq LedStripInternal.tick checkIfModeTimedOut

def LedStripInternal.doHandleModePost : Code := maybe (.attempt (.seq .skip changeLedStripMode))

def LedStrip.bind : Code := locked .ledStrip
def LedStrip.shutdown : Code := locked .ledStrip
def LedStrip.registerMainThread : Code := locked .ledStrip
def LedStrip.enqueueMsgModePost : Code := locked .ledStrip
def LedStrip.dequeueLedStripTodo : Code := locked .ledStrip
def LedStrip.getInternalLedStripMode : Code := locked .ledStrip
def LedStrip.getLedStripModeStr : Code := locked .ledStrip

def LedStrip.checkTodoList : Code :=
  .seq LedStrip.dequeueLedStripTodo (maybe LedStripInternal.doHandleModePost)

def LedStrip.runThreadLoop : Code :=
  .inOrder [TimerTick.bind, .loop TimerTick.registerTimerTickService, InboxRegistry.bind,
    InboxRegistry.getInbox, maybe LPD8806.updatePins, LedStripInternal.new,
    .loop (.inOrder [Inbox.getMessage .ledStrip, TimerTickServiceCv.wait .ledStrip,
      .guarded .ledStrip (.inOrder [LedStrip.checkTodoList, LedStripInternal.tick,
        maybe LedStripInternal.tick1sec, maybe LedStripInternal.tick,
        maybe LedStripInternal.tick])]),
    Inbox.getMessage .ledStrip, LedStripInternal.delete,
    .loop TimerTick.unregisterTimerTickService]

def ledStripMain : Code :=
  .inOrder [LedStrip.registerMainThread, LedStrip.bind, LedStrip.runThreadLoop]

/-! The client of the broker and the web server. -/

def MqttClient.bind : Code :=
  .guarded .mqttClient
    (maybe (.inOrder [InboxRegistry.bind, InboxRegistry.getInbox, LightSensor.bind]))
def MqttClient.shutdown : Code := locked .mqttClient
def MqttClient.registerMainThread : Code := locked .mqttClient
def MqttClient.getMqttClientInfo : Code := locked .mqttClient

/-- A call of the library, which may run any of the four callbacks. -/
def mosquitto : Code := .loop (locked .mqttClient)

def MqttClient.doPublish : Code := .seq mosquitto (locked .mqttClient)

def WebHandlerInternal.bind : Code := locked .webHandlerInternal
def WebHandlerInternal.bindIfExists : Code := locked .webHandlerInternal
def WebHandlerInternal.findWebHandler : Code := locked .webHandlerInternal
def WebHandlerInternal.getHandlerHits : Code := locked .webHandlerInternal
def WebHandlerInternal.shutdown : Code := locked .webHandlerInternal

/-- The constructors of the handlers bind what they post to. -/
def WebHandlerInternal.start : Code :=
  .guarded .webHandlerInternal
    (.inOrder [Display.bind, Display.bind, Display.bind, LedStrip.bind, Dictionary.bind])

def gatherStatusSnapshot : Code :=
  .inOrder [WebHandlerInternal.bindIfExists, maybe WebHandlerInternal.getHandlerHits,
    MotionSensor.bind, MotionSensor.getMotionValue, LightSensor.bind, LightSensor.getLightValue,
    Display.bind, Display.getInternalDisplayMode, Display.getInternalDisplayDimmed,
    LedStrip.bind, LedStrip.getInternalLedStripMode, MqttClient.bind,
    MqttClient.getMqttClientInfo, Dictionary.bind, Dictionary.getDictionaryStatus,
    Dictionary.size, Dictionary.getFirst, .loop Dictionary.getNext]

def MqttClient.doPeriodicReport : Code :=
  .inOrder [LightSensor.getLightValue, MqttClient.doPublish, gatherStatusSnapshot,
    MqttClient.doPublish]

def MqttClient.runThreadLoop : Code :=
  .inOrder [TimerTick.bind, .loop TimerTick.registerTimerTickService,
    .loop (.seq (Inbox.waitForMessage .mqttClient) (.anyOf [
      .inOrder [mosquitto, locked .mqttClient,
        maybe (.either MqttClient.doPeriodicReport (.seq mosquitto (locked .mqttClient))),
        maybe (locked .mqttClient)],
      MqttClient.doPublish,
      .inOrder [MqttClient.doPublish, MqttClient.doPublish, TimerTick.startTimerTickService,
        locked .mqttClient]])),
    Inbox.waitForMessage .mqttClient, mosquitto,
    .loop TimerTick.unregisterTimerTickService, Inbox.clear .mqttClient]

def mqttClientMain : Code :=
  .inOrder [MqttClient.registerMainThread, MqttClient.bind, MqttClient.runThreadLoop]

/-- What the handlers do; the other pages lock nothing. -/
def WebHandler.process : Code :=
  .anyOf [gatherStatusSnapshot, Display.enqueueDisplayTodo, LedStrip.enqueueMsgModePost,
    .seq LedStrip.bind (.loop LedStrip.getLedStripModeStr), Dictionary.parsePostRequest]

def WebHandlerInternal.process : Code :=
  .inOrder [WebHandlerInternal.findWebHandler, maybe WebHandlerInternal.findWebHandler,
    maybe WebHandlerInternal.findWebHandler, WebHandler.process]

def handleRequest : Code :=
  .attempt (.seq WebHandlerInternal.bindIfExists (maybe WebHandlerInternal.process))

/-! The threads. A worker of the web server sleeps between two requests. -/

def workerMain : Code := .loop (.seq .sleep handleRequest)

/-- `main` sleeps in `pulsar_main` and in each join; the devices lock once more when they go. -/
def main : Code :=
  .inOrder [InboxRegistry.bind, Gpio.initialize, maybe SpiOutput.initialize,
    AnalogInput.initialize, WebHandlerInternal.bind, WebHandlerInternal.start,
    .loop InboxRegistry.getInbox, .loop .sleep, InboxRegistry.broadcast, .loop .sleep,
    InboxRegistry.getInbox, Inbox.addMessage .timerTick, .sleep, LightSensor.shutdown,
    MotionSensor.shutdown, WebHandlerInternal.shutdown, Display.shutdown, LedStrip.shutdown,
    MqttClient.shutdown, Dictionary.shutdown, TimerTick.shutdown, InboxRegistry.shutdown,
    maybe (locked .spiOutput), locked .gpio]

def threadMain : ThreadId → Code
  | .display => displayMain
  | .ledStrip => ledStripMain
  | .lightSensor => lightSensorMain
  | .motionSensor => motionSensorMain
  | .mqttClient => mqttClientMain
  | .dictionary => dictionaryMain
  | .timerTick => timerTickMain
  | .ignore => .skip

/-- The threads of the program: `main`, those that it starts, and the web server's workers. -/
inductive Role where
  | main
  | thread (threadId : ThreadId)
  | worker (number : Nat)
  deriving DecidableEq

/-- A thread sleeps until it has been started. -/
def code : Role → Code
  | .main => Locking.main
  | .thread threadId => .seq .sleep (threadMain threadId)
  | .worker _ => workerMain

/-- The order that the nesting of the scopes follows. The mutexes of single objects are not
recursive. -/
def discipline : Discipline Mutex where
  rank
    | .webHandlerInternal => 0
    | .display | .ledStrip | .mqttClient => 1
    | .motionSensor | .dictionary => 2
    | .lightSensor | .inboxRegistry | .timerTick | .dictionaryStatus | .gpioLock => 3
    | .inbox _ | .timerTickServiceCv _ | .gpio | .spiOutput | .analogInput | .random => 4
  recursive
    | .inbox _ | .timerTickServiceCv _ | .gpio | .spiOutput | .analogInput | .random => false
    | _ => true

theorem rank_le (mutex : Mutex) : discipline.rank mutex ≤ 4 := by
  cases mutex <;> first | exact Nat.le_refl _ | exact Nat.le_of_ble_eq_true rfl

theorem code_keeps (role : Role) : discipline.keeps [] (code role) = true := by
  cases role with
  | main => decide +kernel
  | thread threadId => cases threadId <;> decide +kernel
  | worker number =>
      have kept : discipline.keeps [] workerMain = true := by decide +kernel
      exact kept

/-- Whatever the threads do and in whatever order, no mutex is held by two of them, one that
sleeps holds none, and one that waits for a mutex waits, by way of its holders, for a thread that
can go on. -/
theorem mutexes_never_deadlock {schedule : List Role} {system : System Mutex Role}
    (run : LabelledRun.Run (Step discipline.recursive) (launch code) schedule system) :
    Exclusive system ∧ ∀ role, (Asleep (system role) → held (system role) = []) ∧
      (system role ≠ [] → ¬ Asleep (system role) →
        ∃ active, Relation.ReflTransGen (WaitsFor system) role active ∧
          Active discipline system active) := by
  have holds := run_disciplined code_keeps run
  exact ⟨holds.exclusive, fun role => ⟨asleep_holds_nothing (holds.sound role),
    fun unfinished awake => disciplined_progress holds rank_le unfinished awake⟩⟩

/-- A move that does not depend on the other threads, in a run. -/
theorem run_move {schedule : List Role} {system : System Mutex Role} {role : Role}
    {before after : Stack Mutex}
    (run : LabelledRun.Run (Step discipline.recursive) (launch code) schedule
      (Function.update system role before))
    (move : Move discipline.recursive
      (TakenByOthers (Function.update system role before) role) before after) :
    LabelledRun.Run (Step discipline.recursive) (launch code) (schedule ++ [role])
      (Function.update system role after) := by
  have same : Function.update (Function.update system role before) role after =
      Function.update system role after := Function.update_idem ..
  rw [← same]
  refine .step run (.move ?_)
  rw [Function.update_self]
  exact move

/-- What a worker still has to do, behind the first lock of a request. -/
def requested : Stack Mutex :=
  [.run (maybe WebHandlerInternal.process), .handler, .run workerMain]

/-- A worker comes to the lock of its first request. -/
theorem worker_asks {schedule : List Role} {system : System Mutex Role} (number : Nat)
    (run : LabelledRun.Run (Step discipline.recursive) (launch code) schedule system)
    (idle : system (.worker number) = [.run workerMain]) : ∃ more,
      LabelledRun.Run (Step discipline.recursive) (launch code) (schedule ++ more)
        (Function.update system (.worker number)
          (.run WebHandlerInternal.bindIfExists :: requested)) := by
  rw [← Function.update_eq_self (.worker number) system, idle] at run
  have moved := run_move (run_move (run_move (run_move (run_move run .again) .seq) .wake)
    .attempt) .seq
  simp only [List.append_assoc] at moved
  exact ⟨_, moved⟩

/-- Two workers begin a request, and the second waits for the mutex that the first one holds. -/
theorem mutexes_never_deadlock_workers :
    ∃ schedule system active,
      LabelledRun.Run (Step discipline.recursive) (launch code) schedule system ∧
      .webHandlerInternal ∈ held (system (.worker 0)) ∧
      WaitsFor system (.worker 1) (.worker 0) ∧ Exclusive system ∧
      Relation.ReflTransGen (WaitsFor system) (.worker 1) active ∧
      Active discipline system active := by
  obtain ⟨first, asks⟩ := worker_asks 0 .start rfl
  have free : ¬ TakenByOthers (Function.update (launch code) (.worker 0)
      (.run WebHandlerInternal.bindIfExists :: requested)) (.worker 0)
      Mutex.webHandlerInternal := by
    rintro ⟨other, apart, holds⟩
    rw [Function.update_of_ne apart] at holds
    exact absurd holds List.not_mem_nil
  have holding := run_move asks (.acquire free fun _ => rfl)
  obtain ⟨second, waiting⟩ := worker_asks 1 holding rfl
  obtain ⟨exclusive, progress⟩ := mutexes_never_deadlock waiting
  obtain ⟨active, chain, goes⟩ := (progress (.worker 1)).2 (List.cons_ne_nil _ _) (by
    rintro ⟨rest, same⟩
    cases same)
  refine ⟨_, _, active, waiting, List.mem_cons_self, ?_, exclusive, chain, goes⟩
  exact ⟨by decide, .webHandlerInternal, ⟨_, _, rfl⟩, List.mem_cons_self⟩

end OClock.Locking
