import Xash3d.Lib.Bytes
import Xash3d.Lib.Expiry
import Xash3d.Lib.Run
import Xash3d.Protocol.Cursor
import Xash3d.Protocol.Text
import Xash3d.Lib.Flags
import Xash3d.Protocol.ServerInfo
import Xash3d.Protocol.Filter
import Xash3d.Protocol.Net.Admin
import Xash3d.Protocol.Net.Game
import Xash3d.Protocol.Net.Master
import Xash3d.Master.Addr
import Xash3d.Master.Config
import Xash3d.Master.TimedHashMap
import Xash3d.Master.Clock
import Xash3d.Master.ExpiringMap
import Xash3d.Master.MasterServer
import Xash3d.Master.Run
import Xash3d.Master.Registration
import Xash3d.Master.Cap
import Xash3d.Lib.Window
import Xash3d.Master.RateLimit
import Xash3d.Master.Query
import Xash3d.Master.Admin
import Xash3d.Master.Blocklist
import Xash3d.Master.Reload
import Xash3d.Protocol.QueryRoundTrip
import Xash3d.Protocol.InfoRoundTrip
import Xash3d.Protocol.Net.Info2
import Xash3d.Protocol.Info2RoundTrip
import Xash3d.Lib.Last
import Xash3d.Protocol.Selection
import Xash3d.Master.UpdateMessage
import Xash3d.Lib.Hoare
import Xash3d.Observer.Connection
import Xash3d.Observer.Observer
import Xash3d.Observer.Moves
import Xash3d.Observer.Run
import Xash3d.Observer.Keys
import Xash3d.Observer.Mirror
import Xash3d.Observer.InfoTimeout
import Xash3d.Observer.Detection
import Xash3d.Lib.Framing
import Xash3d.Protocol.BrokerStream
import Xash3d.Protocol.BrokerRoundTrip
import Xash3d.Master.AdminDispatch
import Xash3d.Protocol.Keyless
import Xash3d.Protocol.BrokerUsize
import Xash3d.Query.ServerResult
import Xash3d.Observer.Watched
import Xash3d.Query.QueryServersInfo
import Xash3d.Query.EarlyExit
import Xash3d.Protocol.Grammar
import Xash3d.Observer.Filter
import Xash3d.Protocol.MapIter
import Xash3d.Protocol.Players
import Xash3d.Protocol.Terminators
import Xash3d.Lib.Str
import Xash3d.Master.Garbage
import Xash3d.Master.Restart
import Xash3d.Protocol.Buffers
import Xash3d.Protocol.CursorOps
import Xash3d.Lib.Faults
import Xash3d.Protocol.Checked
import Xash3d.Protocol.CheckedBroker
import Xash3d.Protocol.CheckedDecoders
import Xash3d.Protocol.CheckedPackets
import Xash3d.Protocol.Color
import Xash3d.Protocol.Unsafe
import Xash3d.Observer.Task
import Xash3d.Protocol.TrimColor
import Xash3d.Protocol.LogText
import Xash3d.Protocol.EmptyList
import Xash3d.Protocol.Args
import Xash3d.Master.Stats
import Xash3d.Observer.Pending
import Xash3d.Observer.Rounds
import Xash3d.Lib.Network
import Xash3d.Lib.Spaced
import Xash3d.Lib.Noninterference
import Xash3d.Master.Replies
import Xash3d.Master.Listed
import Xash3d.Master.AdminRuns
import Xash3d.Master.Isolation
import Xash3d.Observer.Requests
import Xash3d.Network.Client
import Xash3d.Network.Listing
import Xash3d.Admin.SendCommand
import Xash3d.Network.Command
import Xash3d.Lib.Potential
import Xash3d.Master.Main
import Xash3d.Master.StatsThread
import Xash3d.Master.Counted
