import Hyperdriver.Foundation.Progress
import Hyperdriver.Foundation.Poll
import Hyperdriver.Foundation.Behaviour
import Hyperdriver.Foundation.Layers
import Hyperdriver.Foundation.ByteSource
import Hyperdriver.Foundation.ReadBuf
import Hyperdriver.Foundation.BorrowedBuf
import Hyperdriver.Foundation.AsciiCase
import Hyperdriver.Foundation.KeyedPool
import Hyperdriver.Foundation.Handles
import Hyperdriver.Foundation.Leases
import Hyperdriver.Foundation.Deferred
import Hyperdriver.Foundation.Instances
import Hyperdriver.Foundation.FuturesUnordered
import Hyperdriver.Foundation.Pacing
import Hyperdriver.Foundation.SwapTrace
import Hyperdriver.Foundation.SwapLedger
import Hyperdriver.Foundation.SwapServices
import Hyperdriver.Foundation.SharedServices
import Hyperdriver.Bridge.TokioIo
import Hyperdriver.Server.Rewind
import Hyperdriver.Server.ReadVersion
import Hyperdriver.Server.Sniffing
import Hyperdriver.Server.Upgradable
import Hyperdriver.Http.Uri
import Hyperdriver.Http.Message
import Hyperdriver.Service.Host
import Hyperdriver.Service.Checks
import Hyperdriver.Service.Nominated
import Hyperdriver.Service.Middleware
import Hyperdriver.Client.Executor
import Hyperdriver.Client.Connection
import Hyperdriver.Client.Protocol
import Hyperdriver.Client.Dispatch
import Hyperdriver.Client.Http1Form
import Hyperdriver.Client.Key
import Hyperdriver.Client.Requests
import Hyperdriver.Client.Tls
import Hyperdriver.Client.Unix
import Hyperdriver.Client.Dns
import Hyperdriver.Client.Resolver
import Hyperdriver.Client.ServerName
import Hyperdriver.Client.Handle
import Hyperdriver.Server.Sni
import Hyperdriver.Server.ConnectionInfo
import Hyperdriver.Server.TlsConnectionInfo
import Hyperdriver.Server.TlsInfoRequests
import Hyperdriver.Server.LayeredInfo
import Hyperdriver.Server.ValidatedRequests
import Hyperdriver.EndToEnd.NamedServer
import Hyperdriver.EndToEnd.NamedEndpoint
import Hyperdriver.Service.SwapReadiness
import Hyperdriver.Server.ServedRequests
import Hyperdriver.Server.Connecting
import Hyperdriver.HappyEyeballs.EyeballSet
import Hyperdriver.HappyEyeballs.Outcome
import Hyperdriver.HappyEyeballs.Finish
import Hyperdriver.HappyEyeballs.Concurrency
import Hyperdriver.HappyEyeballs.Pacing
import Hyperdriver.HappyEyeballs.Timeliness
import Hyperdriver.HappyEyeballs.Interrupted
import Hyperdriver.HappyEyeballs.Sessions
