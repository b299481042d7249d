import UartBridge.Lib.Run
import UartBridge.Lib.Serial
import UartBridge.DataBuffer
import UartBridge.Crc8
import UartBridge.Client.PortWorker
import UartBridge.Client.Connection
import UartBridge.Firmware.UARTWorker
import UartBridge.Firmware.UDPServer
import UartBridge.Client.UDPTransport
import UartBridge.Lib.Framing
import UartBridge.Client.TCPTransport
import UartBridge.Client.DataProcessor
import UartBridge.Firmware.MainLoop
import UartBridge.System.PackageLayout
import UartBridge.System.Pipeline
import UartBridge.System.Disposal
import UartBridge.System.UdpSequence
import UartBridge.System.UdpReplacement
import UartBridge.System.UdpFollow
import UartBridge.System.SessionAgreement
import UartBridge.System.FlowControl
import UartBridge.System.DownlinkIsolation
import UartBridge.System.CounterField
import UartBridge.Lib.TwoChannels
import UartBridge.System.Collect
import UartBridge.System.SessionTag
import UartBridge.System.DownlinkOrder
import UartBridge.System.UplinkSessions
import UartBridge.System.ClientReassembly
import UartBridge.System.PassLink
import UartBridge.System.SendFraming
import UartBridge.System.Reassembly
import UartBridge.System.PackageRoundTrip
import UartBridge.Lib.BoundedFifo
import UartBridge.System.RingFifo
import UartBridge.System.PortIsolation
import UartBridge.Lib.LockOrder
import UartBridge.System.ClientLocks
import UartBridge.System.UsedSize
import UartBridge.System.WriterThread
import UartBridge.System.Confirmation
import UartBridge.System.PortRequests
import UartBridge.System.Aggregation
import UartBridge.System.UartDiscipline
import UartBridge.System.UdpDatagrams
import UartBridge.System.TcpClose
import UartBridge.Lib.CyclicCode
import UartBridge.System.Checksum
import UartBridge.System.PollTimer
import UartBridge.System.PackageBounds
import UartBridge.System.UdpState
import UartBridge.Client.PTYListener
import UartBridge.System.PtyOpen
import UartBridge.System.WakeUp
import UartBridge.TestUtil.LoopbackTester
import UartBridge.System.Loopback
import UartBridge.Client.MessageBroker
import UartBridge.System.BrokerCalls
import UartBridge.System.Broker
import UartBridge.Client.Messages
import UartBridge.System.ClientMessages
import UartBridge.System.Reconnect
import UartBridge.System.MemorySafety
import UartBridge.System.KeepAlive
import UartBridge.Client.Timer
import UartBridge.System.Ticks
import UartBridge.Lib.Decimal
import UartBridge.Client.OptionsParser
import UartBridge.Client.Main
import UartBridge.Lib.Fallible
import UartBridge.System.CommandLine
import UartBridge.System.Arguments
import UartBridge.System.BoardCalls
import UartBridge.Lib.LossyFifo
import UartBridge.System.Wires
import UartBridge.LoopbackFirmware.MainLoop
import UartBridge.System.Echo
import UartBridge.Client.Workers
import UartBridge.System.Shutdown
import UartBridge.System.LocalClient
import UartBridge.System.RoundTrip
