import ModbusGateway.Library.Execution
import ModbusGateway.Library.Proactor
import ModbusGateway.Library.Transaction
import ModbusGateway.Library.Dispatch
import ModbusGateway.Library.Slot
import ModbusGateway.Library.Claims
import ModbusGateway.Library.Framing
import ModbusGateway.Library.Registry
import ModbusGateway.Library.Journal
import ModbusGateway.Library.Throws
import ModbusGateway.Library.SignedArithmetic
import ModbusGateway.Library.FlagWord
import ModbusGateway.Common.LimitQueue
import ModbusGateway.Common.QueueRuns
import ModbusGateway.Asio
import ModbusGateway.Message.ModbusMessage
import ModbusGateway.Modbus
import ModbusGateway.ModbusFrame
import ModbusGateway.Config.Json
import ModbusGateway.Config.ParserException
import ModbusGateway.Config.Convertors
import ModbusGateway.Config.Extractor
import ModbusGateway.Config.Config
import ModbusGateway.Config.Reading
import ModbusGateway.Config.Format
import ModbusGateway.Config.Acceptance
import ModbusGateway.Config.Numbers
import ModbusGateway.Config.ErrorPath
import ModbusGateway.Config.Rejection
import ModbusGateway.Transport.Master
import ModbusGateway.Transport.ModbusTcpClient
import ModbusGateway.Transport.TcpClientInvariant
import ModbusGateway.Transport.TcpClientProgress
import ModbusGateway.Transport.TcpClientReplies
import ModbusGateway.Transport.TcpClientTimeout
import ModbusGateway.Transport.TcpClientRelay
import ModbusGateway.Transport.TcpClientConnect
import ModbusGateway.Transport.ModbusRtuMaster
import ModbusGateway.Transport.RtuMasterProgress
import ModbusGateway.Transport.RtuMasterBus
import ModbusGateway.Transport.MasterTimeout
import ModbusGateway.Transport.MasterView
import ModbusGateway.Transport.MasterQueue
import ModbusGateway.Transport.ExpiredRequests
import ModbusGateway.Transport.MasterFraming
import ModbusGateway.Transport.MasterHistory
import ModbusGateway.Transport.MasterAccounts
import ModbusGateway.Transport.MasterWork
import ModbusGateway.Transport.MasterCustody
import ModbusGateway.Config.Expiry
import ModbusGateway.Config.Documents
import ModbusGateway.Config.Members
import ModbusGateway.Transport.Router
import ModbusGateway.Transport.ModbusTcpConnection
import ModbusGateway.Transport.ModbusRtuSlave
import ModbusGateway.Transport.RtuOptions
import ModbusGateway.Transport.SlaveSession
import ModbusGateway.Transport.RefusedReplies
import ModbusGateway.Transport.SlaveFraming
import ModbusGateway.Transport.TcpConnectionReplies
import ModbusGateway.Transport.RtuSlaveReplies
import ModbusGateway.Transport.WholeFrames
import ModbusGateway.Transport.ModbusTcpServer
import ModbusGateway.Transport.TcpServerAccept
import ModbusGateway.Transport.TcpServerIsolation
import ModbusGateway.Transport.TcpServerTable
import ModbusGateway.Transport.TcpServerStop
import ModbusGateway.Gateway.MakeRouter
import ModbusGateway.Gateway.RouterBounds
import ModbusGateway.Gateway.Ambiguity
import ModbusGateway.Gateway.System
import ModbusGateway.Gateway.Transparency
import ModbusGateway.Gateway.Network
import ModbusGateway.Gateway.Participants
import ModbusGateway.Gateway.NetworkInvariant
import ModbusGateway.Gateway.EndToEnd
import ModbusGateway.Gateway.Whereabouts
import ModbusGateway.Gateway.Rest
import ModbusGateway.Gateway.Listening
import ModbusGateway.Gateway.Alone
import ModbusGateway.Gateway.Startup
import ModbusGateway.Gateway.ConfiguredRuns
