import RnsProxy.Library.Execution
import RnsProxy.Library.Progress
import RnsProxy.Library.Framing
import RnsProxy.Library.Rules
import RnsProxy.Frame
import RnsProxy.ConnectPayload
import RnsProxy.Reassembly
import RnsProxy.Resync
import RnsProxy.Filter
import RnsProxy.FilterList
import RnsProxy.Mux
import RnsProxy.LinkFailure
import RnsProxy.Wire
import RnsProxy.Relay
import RnsProxy.Session
import RnsProxy.Stages
import RnsProxy.Endpoint
import RnsProxy.Bookkeeping
import RnsProxy.Grammar
import RnsProxy.SessionTable
import RnsProxy.Server
import RnsProxy.Mediation
import RnsProxy.ClosedLink
import RnsProxy.EventLoop
import RnsProxy.Projection
import RnsProxy.ForbiddenSources
import RnsProxy.Replies
import RnsProxy.Ownership
import RnsProxy.Isolation
import RnsProxy.Admission
import RnsProxy.Client
import RnsProxy.Dispatch
import RnsProxy.Backoff
import RnsProxy.SessionIds
import RnsProxy.CleanCut
import RnsProxy.StrayEvents
import RnsProxy.LiveSessions
import RnsProxy.OrphanedSession
import RnsProxy.Stream
import RnsProxy.ReplyAddress
import RnsProxy.Transport
import RnsProxy.Tunnel
import RnsProxy.Delivery
import RnsProxy.Coherence
import RnsProxy.Conservation
import RnsProxy.Datagrams
import RnsProxy.Ends
import RnsProxy.Requests
import RnsProxy.Backpressure
import RnsProxy.Draining
import RnsProxy.Settling
import RnsProxy.Pairing
import RnsProxy.Completion
import RnsProxy.Shutdown
import RnsProxy.LostLink
import RnsProxy.PortForwarding
import RnsProxy.OrderlyClose
import RnsProxy.Deployment
import RnsProxy.Numbering
import RnsProxy.EndToEnd
import RnsProxy.UdpSessions
import RnsProxy.Routing
import RnsProxy.Hearing
import RnsProxy.Network
import RnsProxy.Upstream
import RnsProxy.Reconnection
import RnsProxy.Downstream
import RnsProxy.Listening
