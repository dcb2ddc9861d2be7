import PiDaemon.Multiplexer.Capacity
import PiDaemon.Multiplexer.Teardown
import PiDaemon.Multiplexer.Leases
import PiDaemon.Multiplexer.Generations
import PiDaemon.Multiplexer.OpenDurable
import PiDaemon.Scheduler.Regress
import PiDaemon.Rpc.Replay
import PiDaemon.Rpc.Commands
import PiDaemon.ToolAdapter.Accounting
import PiDaemon.ToolAdapter.Registry
import PiDaemon.ToolAdapter.Paths
import PiDaemon.Terminal.Grid
import PiDaemon.Ownership.Status
import PiDaemon.Drafts.Restart
import PiDaemon.Drafts.Visible
import PiDaemon.Authorization.Authority
import PiDaemon.Authorization.References
import PiDaemon.Authorization.Disclosure
import PiDaemon.Streams.Bookkeeping
import PiDaemon.Streams.Backlog
import PiDaemon.Shadow.Retention
import PiDaemon.Viewing.RemoteCoherence
import PiDaemon.Viewing.Convergence
import PiDaemon.Watchdog.Recoveries
import PiDaemon.Watchdog.Supervision
import PiDaemon.Browser.Validity
import PiDaemon.Server.Delivery
import PiDaemon.Bridge.Answers
import PiDaemon.Durability.Tickets
import PiDaemon.Durability.Admission
import PiDaemon.Durability.Reconciling
import PiDaemon.Durability.Retention
import PiDaemon.Transcript.Coherence
import PiDaemon.Android.Resume
import PiDaemon.Android.Agreement
import PiDaemon.Scheduler.Selection
import PiDaemon.Protocol.Outbound
import PiDaemon.Catalog.Listing
import PiDaemon.Protocol.LineCodec
import PiDaemon.Terminal.Splits
import PiDaemon.Projector.Joining
