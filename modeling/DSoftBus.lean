import DSoftBus.Auth.Completion
import DSoftBus.Auth.KeyIsolation
import DSoftBus.Auth.OptionLookup
import DSoftBus.Auth.PeerIdentity
import DSoftBus.Common.PermissionEntry
import DSoftBus.Common.QueueFifo
import DSoftBus.Common.SequenceVerificationReplay
import DSoftBus.Conn.BleConnection
import DSoftBus.Conn.BleRoundTrip
import DSoftBus.Conn.BleSendQueue
import DSoftBus.Conn.BleSoundness
import DSoftBus.Conn.BrCongestion
import DSoftBus.Conn.BrConnect
import DSoftBus.Conn.BrFraming
import DSoftBus.Conn.BrSendOrder
import DSoftBus.Conn.TcpFraming
import DSoftBus.DFile.FileIntegrity
import DSoftBus.DFile.FinishedTransfers
import DSoftBus.DFile.Renegotiation
import DSoftBus.DFile.SendBlockList
import DSoftBus.DFile.TcpLink
import DSoftBus.DFile.TransferEnd
import DSoftBus.Disc.BleDiscovery
import DSoftBus.Disc.LocalInterface
import DSoftBus.Lnn.ConnectionAddr
import DSoftBus.Lnn.ConnectionFsmAnswers
import DSoftBus.Lnn.LedgerConnections
import DSoftBus.Lnn.OnlineNodes
import DSoftBus.Lnn.MasterElectNetwork
import DSoftBus.Lnn.NetBuilderOnline
import DSoftBus.Lnn.StateMachine
import DSoftBus.Trans.PendingSends
import DSoftBus.Trans.ProxyIds
import DSoftBus.Trans.ProxyIsolation
import DSoftBus.Trans.ProxyLengths
import DSoftBus.Trans.ProxyLifeCycle
import DSoftBus.Trans.ProxyWaiting
import DSoftBus.Trans.SessionServer
import DSoftBus.Trans.StreamPacket
import DSoftBus.Trans.TdcFraming
import DSoftBus.Trans.TdcServerFraming
