/-
# PhosphorNetworkd.Netlink — `rtnetlink_server.cpp`: from kernel messages to registry calls.

`handler` dispatches one decoded message to the `Manager` and catches what it throws, so a
message the registry refuses (an address for an unknown link) leaves the registry as it was.
`Server.init` feeds the four start-up dumps through it and `eventHandler` every message of a
drained socket. The decoders (`intfFromRtm`, `addrFromRtm`, `neighFromRtm`, `gatewayFromRtm`)
are not among the sources: messages arrive decoded, and a route message carries what
`gatewayFromRtm` returned, a default route's link and gateway or nothing.
-/
import PhosphorNetworkd.Manager.Ops

namespace PhosphorNetworkd

/-- A decoded rtnetlink message, by `hdr.nlmsg_type`. -/
inductive RtMsg where
  | newLink (info : InterfaceInfo)
  | delLink (info : InterfaceInfo)
  | newRoute (gw : Option (Nat × InAnyAddr))
  | delRoute (gw : Option (Nat × InAnyAddr))
  | newAddr (info : AddressInfo)
  | delAddr (info : AddressInfo)
  | newNeigh (info : NeighborInfo)
  | delNeigh (info : NeighborInfo)
  deriving DecidableEq, Repr

namespace Netlink

variable (env : Env)

/-- `catch (const std::exception& e)`: a thrown `std::runtime_error` is logged and the registry
stays as the throwing call found it (each call throws before it writes). `std::abort` and
undefined behaviour are not exceptions and go through. -/
def catchStd (s : Manager) : Except Exn Manager → Except Exn Manager
  | .error (.runtimeError _) => .ok s
  | r => r

@[simp] theorem catchStd_ok (s t : Manager) : catchStd s (.ok t) = .ok t := rfl

@[simp] theorem catchStd_runtimeError (s : Manager) (w : String) :
    catchStd s (.error (.runtimeError w)) = .ok s := rfl

/-- `rthandler`: only a default route reaches the registry. -/
def rthandler (gw : Option (Nat × InAnyAddr)) (cb : Nat → InAnyAddr → Except Exn Manager)
    (s : Manager) : Except Exn Manager :=
  match gw with
  | some (ifidx, addr) => cb ifidx addr
  | none => .ok s

/-- `netlink::handler`. -/
def handler (s : Manager) : RtMsg → Except Exn Manager
  | .newLink info => catchStd s (s.addInterface env info)
  | .delLink info => catchStd s (s.removeInterface info)
  | .newRoute gw => catchStd s (rthandler gw (s.addDefGw env) s)
  | .delRoute gw => catchStd s (rthandler gw (s.removeDefGw env) s)
  | .newAddr info => catchStd s (s.addAddress info)
  | .delAddr info => catchStd s (s.removeAddress info)
  | .newNeigh info => catchStd s (s.addNeighbor info)
  | .delNeigh info => catchStd s (s.removeNeighbor info)

/-- `handler` over messages in arrival order, stopping at an abort or undefined behaviour. -/
def handleAll : Manager → List RtMsg → Except Exn Manager
  | s, [] => .ok s
  | s, m :: ms => (handler env s m).bind (handleAll · ms)

/-- `netlink::Server::Server`: the `RTM_GETLINK`, `RTM_GETADDR`, `RTM_GETROUTE` and
`RTM_GETNEIGH` dumps, in that order, every reply handled as it arrives. -/
def Server.init (s : Manager) (links addrs routes neighs : List RtMsg) : Except Exn Manager :=
  handleAll env s (links ++ addrs ++ routes ++ neighs)

/-- `eventHandler`: after a readiness event the socket is read until it would block, and every
message of every read is handled before the loop polls again. -/
def eventHandler (s : Manager) (reads : List (List RtMsg)) : Except Exn Manager :=
  handleAll env s reads.flatten

end Netlink

end PhosphorNetworkd
