import PhosphorNetworkd.Types
import PhosphorNetworkd.EthernetInterface
import PhosphorNetworkd.Manager.Basic
import PhosphorNetworkd.Manager.Ops
import PhosphorNetworkd.Manager.Frame
import PhosphorNetworkd.Netlink
import PhosphorNetworkd.Registry.Run
import PhosphorNetworkd.Registry.Replay
import PhosphorNetworkd.Registry.Mirror
import PhosphorNetworkd.Registry.Filters
import PhosphorNetworkd.Registry.Objects
import PhosphorNetworkd.Registry.Cache
import PhosphorNetworkd.Registry.Coherence
import PhosphorNetworkd.Registry.Race
import PhosphorNetworkd.Supervisor
import PhosphorNetworkd.Registry.Gateways
import PhosphorNetworkd.Reload
import PhosphorNetworkd.Daemon
import PhosphorNetworkd.Startup
