import GatewaySshd.Db.Heartbeat
import GatewaySshd.Db.Concurrent
import GatewaySshd.Db.Ownership
import GatewaySshd.Auth.Restrictions
import GatewaySshd.Auth.Administrator
import GatewaySshd.Mesh.Transparency
import GatewaySshd.Mesh.Refusal
import GatewaySshd.Mesh.Proxy
import GatewaySshd.Presence.Departure
import GatewaySshd.Presence.Return
import GatewaySshd.Presence.Kick
import GatewaySshd.Presence.Staleness
import GatewaySshd.Node.Loops
import GatewaySshd.Node.Closing
import GatewaySshd.Node.Addressing
import GatewaySshd.Node.PeerLifecycle
import GatewaySshd.Node.Confinement
import GatewaySshd.Node.Lookup
import GatewaySshd.Node.Routing
import GatewaySshd.Node.Caches
import GatewaySshd.Node.Payloads
import GatewaySshd.Node.Legacy
import GatewaySshd.Node.Tunnels
import GatewaySshd.Node.Freshness
import GatewaySshd.Presence.Login
import GatewaySshd.Presence.Aging
import GatewaySshd.Proxy.Replies
import GatewaySshd.Proxy.Bridge
import GatewaySshd.Proxy.Connect
import GatewaySshd.Proxy.Target
import GatewaySshd.Node.RouteAge
import GatewaySshd.Node.Usage
import GatewaySshd.Node.Formation
import GatewaySshd.Cli.Completion
import GatewaySshd.Cli.Parts
import GatewaySshd.Proxy.Chain
import GatewaySshd.Cli.Keys
import GatewaySshd.Db.Dsn
import GatewaySshd.Db.Loading
import GatewaySshd.Node.Quoting
import GatewaySshd.Node.Dispatch
import GatewaySshd.Presence.Recovery
import GatewaySshd.Cli.Api
