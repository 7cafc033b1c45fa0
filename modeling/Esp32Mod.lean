import Esp32Mod.StepMachine
import Esp32Mod.RingBuffer
import Esp32Mod.Mailbox
import Esp32Mod.EventRings
import Esp32Mod.Errors
import Esp32Mod.Ota
import Esp32Mod.Alarm
import Esp32Mod.AlarmSlots
import Esp32Mod.AlarmEvents
import Esp32Mod.UartAsync
import Esp32Mod.UartSession
import Esp32Mod.UartIdle
import Esp32Mod.EventSignal
import Esp32Mod.BleScan
import Esp32Mod.BleAdvertising
import Esp32Mod.TerminalEvents
import Esp32Mod.Buffer
import Esp32Mod.GattTable
import Esp32Mod.BleLongRead
import Esp32Mod.BlePendingReads
import Esp32Mod.FallibleSteps
import Esp32Mod.WifiBringUp
import Esp32Mod.WifiSoftAp
import Esp32Mod.WifiDisconnect
import Esp32Mod.WifiScan
import Esp32Mod.SpiDevice
import Esp32Mod.SharedPool
import Esp32Mod.Pwm
import Esp32Mod.PwmIsolation
import Esp32Mod.PwmSharing
import Esp32Mod.Adc
import Esp32Mod.AdcUnits
import Esp32Mod.Watchdog
import Esp32Mod.CalendarEvents
import Esp32Mod.AcquireRelease
import Esp32Mod.Ethernet
import Esp32Mod.EthernetBringUp
import Esp32Mod.EthernetLink
import Esp32Mod.BleConnections
import Esp32Mod.BleConnecting
import Esp32Mod.CalendarAbsolute
import Esp32Mod.StorageRouting
import Esp32Mod.RmtReceive
import Esp32Mod.UartBreak
import Esp32Mod.UartNotify
import Esp32Mod.ManagedGate
import Esp32Mod.ManagedSlots
import Esp32Mod.GpioInterrupt
import Esp32Mod.PwmFailure
import Esp32Mod.SerialBringUp
import Esp32Mod.OtaStream
import Esp32Mod.Checked
import Esp32Mod.Tiling
import Esp32Mod.SpiTransfer
import Esp32Mod.SpiTiling
import Esp32Mod.SpiBitOrder
import Esp32Mod.Gregorian
import Esp32Mod.CalendarRoundTrip
import Esp32Mod.AtomicStore
import Esp32Mod.GattValues
import Esp32Mod.GattAtomic
import Esp32Mod.GattIdentifiers
import Esp32Mod.Delay
import Esp32Mod.Sleep
import Esp32Mod.LittlefsMount
import Esp32Mod.Stuffing
import Esp32Mod.UartNewline
import Esp32Mod.BitFields
import Esp32Mod.RmtSymbols
import Esp32Mod.HandleLife
import Esp32Mod.AdcTables
import Esp32Mod.AdcCalibration
import Esp32Mod.AlarmClock
import Esp32Mod.Ownership
import Esp32Mod.I2c
import Esp32Mod.Nvs
import Esp32Mod.NvsStore
import Esp32Mod.RmtChannels
import Esp32Mod.UartRead
import Esp32Mod.KeyedStreams
import Esp32Mod.BleClient
import Esp32Mod.GcWorker
import Esp32Mod.FileSystem
import Esp32Mod.CallProtocol
import Esp32Mod.BleAdapter
import Esp32Mod.BleLifecycle
