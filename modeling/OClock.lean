import OClock.Machine
import OClock.TimerSchedule
import OClock.DictionaryRequests
import OClock.ConcurrentTraversal
import OClock.PostDecoding
import OClock.StatusText
import OClock.StripTransport
import OClock.MatrixChip
import OClock.MatrixRun
import OClock.StatusGather
import OClock.MatrixProtocol
import OClock.GpioOwnership
import OClock.MatrixWiring
import OClock.LedStripTimeout
import OClock.InboxMessaging
import OClock.MotionPublications
import OClock.Dimming
import OClock.DisplayMirror
import OClock.PostForms
import OClock.PostAcceptance
import OClock.WifiWatchdog
import OClock.MatrixPixels
import OClock.ImageColumn
import OClock.ImagePixels
import OClock.TextCulling
import OClock.TextBounds
import OClock.Threads
import OClock.Shutdown
import OClock.PeriodicDamper
import OClock.MqttThreads
import OClock.MqttTurns
import OClock.MqttPhases
import OClock.TimerBacklog
import OClock.ReconnectDamper
import OClock.ReconnectSpacing
import OClock.MotionClock
import OClock.ClockAnimations
import OClock.GarageMotion
import OClock.LastWrite
import OClock.MessagePost
import OClock.MessageRun
import OClock.MessageTimeout
import OClock.DictionaryReadBack
import OClock.LoggedSteps
import OClock.Slots
import OClock.DrawCalls
import OClock.Backgrounds
import OClock.BackgroundTables
import OClock.BackgroundSlots
import OClock.MessageFrame
import OClock.DisplayPanel
import OClock.BackgroundPeriods
import OClock.TextPixels
import OClock.MessagePasses
import OClock.MessageColumns
import OClock.ExactSums
import OClock.DrawSums
import OClock.DrawRange
import OClock.MessageSums
import OClock.MessageRange
import OClock.BackgroundRange
import OClock.MessageOverflow
import OClock.PostAccesses
import OClock.JsonEscape
import OClock.TextStreams
import OClock.SystemFiles
import OClock.Hundredths
import OClock.SystemReading
import OClock.TimerPhase
import OClock.StripReadBack
import OClock.StripRuns
import OClock.PastelFrames
import OClock.SweepWalk
import OClock.ScanDots
import OClock.ScanColors
import OClock.BitDisplay
import OClock.CounterDisplay
import OClock.BouncingPoint
import OClock.MessageBounce
import OClock.TimerCookies
import OClock.PackedPoints
import OClock.FrameBuffers
import OClock.LockOrder
import OClock.Locking
import OClock.Dialogs
import OClock.LinuxSpidev
import OClock.SpidevLife
import OClock.TickedLoop
import OClock.LedStripThread
import OClock.DisplayThread
import OClock.WebHandlerInternal
import OClock.WebServer
import OClock.StatusRequests
import OClock.ReportedHits
import OClock.PostedTodos
import OClock.ServedEntries
import OClock.Overlay
import OClock.ClockFace
import OClock.DisplayScreen
import OClock.FacePicture
import OClock.FaceTexts
import OClock.FaceUpdates
import OClock.SaverDot
import OClock.Watching
import OClock.WatchedRuns
import OClock.ShownPixels
import OClock.ShownTime
