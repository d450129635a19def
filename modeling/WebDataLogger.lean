import WebDataLogger.TransitionRuns
import WebDataLogger.WrappedTime
import WebDataLogger.StableQueue
import WebDataLogger.KernelClock
import WebDataLogger.KernelClockRuns
import WebDataLogger.PeriodicTasks
import WebDataLogger.HealthMonitor
import WebDataLogger.HealthMonitorInterleaving
import WebDataLogger.HealthMonitorCheckIns
import WebDataLogger.FlatStore
import WebDataLogger.RingLog
import WebDataLogger.EepromDriver
import WebDataLogger.EepromRefinement
import WebDataLogger.PolledIo
import WebDataLogger.Lpi2cMaster
import WebDataLogger.Lpi2cWire
import WebDataLogger.EepromBus
import WebDataLogger.EepromWire
import WebDataLogger.SegmentedSpace
import WebDataLogger.HeapFour
import WebDataLogger.HeapFourSegments
import WebDataLogger.HeapFourRuns
import WebDataLogger.SlotRing
import WebDataLogger.CountedWakeups
import WebDataLogger.KernelQueue
import WebDataLogger.KernelQueueItems
import WebDataLogger.KernelQueueWakeups
import WebDataLogger.DataLogger
import WebDataLogger.DataLoggerRuns
import WebDataLogger.DataLoggerResets
import WebDataLogger.CivilCalendar
import WebDataLogger.CText
import WebDataLogger.RealTimeClock
import WebDataLogger.RealTimeClockRuns
import WebDataLogger.SensorData
import WebDataLogger.SensorPipeline
import WebDataLogger.SampleCoherence
import WebDataLogger.HttpMessage
import WebDataLogger.HttpAssets
import WebDataLogger.WebService
import WebDataLogger.HttpConnections
import WebDataLogger.HttpSegmentation
import WebDataLogger.IndicatorService
import WebDataLogger.RemoteControl
import WebDataLogger.I2cArbitration
import WebDataLogger.ReceiveTimeouts
import WebDataLogger.StackStartup
import WebDataLogger.RequestRouter
import WebDataLogger.EepromSelfTest
import WebDataLogger.TimestampChain
import WebDataLogger.JsonText
import WebDataLogger.ControlCommand
import WebDataLogger.DecimalTruncation
import WebDataLogger.Dashboard
import WebDataLogger.ResponseLengths
import WebDataLogger.SensorCalibration
import WebDataLogger.LwipTimeouts
import WebDataLogger.LwipTimeoutsClock
import WebDataLogger.LwipTimeoutsRuns
import WebDataLogger.LwipCyclicTimers
