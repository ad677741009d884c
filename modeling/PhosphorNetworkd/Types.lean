/-
# PhosphorNetworkd.Types — the netlink records the interface registry is built from.

`InterfaceInfo`, `AddressInfo` and `NeighborInfo` are the decoded `RTM_*LINK`, `RTM_*ADDR` and
`RTM_*NEIGH` messages that `netlink::handler` hands to the `Manager`; `AllIntfInfo` is the
per-link aggregate the registry keeps in `intfInfo`. Their declarations (`types.hpp`) are not
among the sources, so the fields are the ones the spec lists (§3), with the C++ widths.

The C++ keeps every map in a `std::unordered_map`. A map here is a function into `Option`, so
two maps are equal exactly when they agree at every key, as `operator==` on unordered maps has
it. The kernel link index is `unsigned`; it is only ever compared, never computed with, so it is
a `Nat`.
-/
import Mathlib.Data.Finset.Basic

namespace PhosphorNetworkd

/-! ## §1 — addresses -/

/-- `stdplus::In4Addr`. -/
abbrev In4Addr := BitVec 32

/-- `stdplus::In6Addr`. -/
abbrev In6Addr := BitVec 128

/-- `stdplus::EtherAddr`. -/
abbrev EtherAddr := BitVec 48

/-- `stdplus::InAnyAddr`, the `std::variant` of the two address families. -/
inductive InAnyAddr where
  | in4 (a : In4Addr)
  | in6 (a : In6Addr)
  deriving DecidableEq, Repr

/-- `stdplus::SubnetAny`: an address with its prefix length, the key of `AllIntfInfo.addrs`. -/
structure SubnetAny where
  addr : InAnyAddr
  pfx : UInt8
  deriving DecidableEq, Repr

/-! ## §2 — kernel constants the registry tests -/

/-- `ARPHRD_ETHER` (`<net/if_arp.h>`): the only link type the registry admits. -/
def arphrdEther : UInt16 := 1

/-- `IFA_F_DEPRECATED` (`<linux/if_addr.h>`). -/
def ifaFDeprecated : UInt32 := 0x20

/-- `NUD_PERMANENT` (`<linux/neighbour.h>`). -/
def nudPermanent : UInt16 := 0x80

/-! ## §3 — decoded netlink records -/

/-- A decoded `RTM_NEWLINK`/`RTM_DELLINK`. -/
structure InterfaceInfo where
  type : UInt16
  idx : Nat
  flags : UInt32
  name : Option String := none
  mac : Option EtherAddr := none
  mtu : Option UInt32 := none
  parentIdx : Option Nat := none
  kind : Option String := none
  vlanId : Option UInt16 := none
  deriving DecidableEq, Repr

/-- A decoded `RTM_NEWADDR`/`RTM_DELADDR`. -/
structure AddressInfo where
  ifidx : Nat
  ifaddr : SubnetAny
  scope : UInt8
  flags : UInt32
  deriving DecidableEq, Repr

/-- A decoded `RTM_NEWNEIGH`/`RTM_DELNEIGH`. -/
structure NeighborInfo where
  ifidx : Nat
  state : UInt16
  addr : Option InAnyAddr := none
  mac : Option EtherAddr := none
  deriving DecidableEq, Repr

/-- Everything the registry has seen of one link. `AllIntfInfo{info}` in the C++ is
`{ intf := info }`: no gateway, no address, no neighbour. -/
structure AllIntfInfo where
  intf : InterfaceInfo
  defgw4 : Option In4Addr := none
  defgw6 : Option In6Addr := none
  addrs : SubnetAny → Option AddressInfo := fun _ => none
  staticNeighs : InAnyAddr → Option NeighborInfo := fun _ => none

/-! ## §4 — what the registry reads from outside the sources -/

/-- The two inputs of the registry that live outside the sources: the static ignore list
`internal::getIgnoredInterfaces()` returns, and `stdplus::toStr`, which renders a gateway for
the `DefaultGateway`/`DefaultGateway6` properties. Every result below holds for each of them. -/
structure Env where
  ignoredInterfaces : List String
  toStr : InAnyAddr → String

/-- The name filter of `addInterface`: the link has a name, and it is on the ignore list. -/
def Env.ignores (env : Env) : Option String → Bool
  | some n => n ∈ env.ignoredInterfaces
  | none => false

end PhosphorNetworkd
