/-
# PhosphorNetworkd.EthernetInterface — the per-link object the registry owns.

`EthernetInterface` is not among the sources; the spec treats it as a contract (§2, the
per-interface object): the registry constructs it from an `AllIntfInfo`, the link's
configuration and the managed flag, and afterwards only calls `updateInfo`, `addAddr`,
`addStaticNeigh`, the two gateway setters and erases from its `addrs`/`staticNeighbors` maps.
The object here keeps exactly the state those calls read and write; each call is a keyed
update, so the registry's results do not depend on more of the class than the spec promises.
-/
import PhosphorNetworkd.Types

namespace PhosphorNetworkd

/-- Modelled from the spec: the state of an `EthernetInterface` that the registry reaches.
`nicEnabled` is the `enabled` argument of the constructor. -/
structure EthernetInterface where
  interfaceName : String
  info : InterfaceInfo
  nicEnabled : Bool
  addrs : SubnetAny → Option AddressInfo
  staticNeighbors : InAnyAddr → Option NeighborInfo
  defaultGateway : String
  defaultGateway6 : String

namespace EthernetInterface

/-- Modelled from the spec: the constructor `EthernetInterface(bus, manager, info, objPath,
config, enabled)`. It takes its name from `*info.intf.name` (passed here as `name`), copies
the addresses, static neighbours and gateways the registry recorded, and keeps `enabled`. -/
def new (toStr : InAnyAddr → String) (info : AllIntfInfo) (name : String) (enabled : Bool) :
    EthernetInterface where
  interfaceName := name
  info := info.intf
  nicEnabled := enabled
  addrs := info.addrs
  staticNeighbors := info.staticNeighs
  defaultGateway := (info.defgw4.map fun a => toStr (.in4 a)).getD ""
  defaultGateway6 := (info.defgw6.map fun a => toStr (.in6 a)).getD ""

/-- Modelled from the spec: `updateInfo(info)` refreshes the kernel-reported properties. -/
def updateInfo (intf : InterfaceInfo) (o : EthernetInterface) : EthernetInterface :=
  { o with info := intf }

/-- Modelled from the spec: `addAddr(info)` adds or refreshes the address keyed by its subnet. -/
def addAddr (a : AddressInfo) (o : EthernetInterface) : EthernetInterface :=
  { o with addrs := Function.update o.addrs a.ifaddr (some a) }

/-- Modelled from the spec: `addStaticNeigh(info)` adds or refreshes the neighbour keyed by its
address (the registry only passes neighbours that carry one). -/
def addStaticNeigh (n : NeighborInfo) (o : EthernetInterface) : EthernetInterface :=
  match n.addr with
  | some a => { o with staticNeighbors := Function.update o.staticNeighbors a (some n) }
  | none => o

@[simp] theorem new_interfaceName (toStr) (info : AllIntfInfo) (name enabled) :
    (new toStr info name enabled).interfaceName = name := rfl

@[simp] theorem new_nicEnabled (toStr) (info : AllIntfInfo) (name enabled) :
    (new toStr info name enabled).nicEnabled = enabled := rfl

@[simp] theorem new_info (toStr) (info : AllIntfInfo) (name enabled) :
    (new toStr info name enabled).info = info.intf := rfl

@[simp] theorem updateInfo_interfaceName (intf) (o : EthernetInterface) :
    (o.updateInfo intf).interfaceName = o.interfaceName := rfl

@[simp] theorem updateInfo_nicEnabled (intf) (o : EthernetInterface) :
    (o.updateInfo intf).nicEnabled = o.nicEnabled := rfl

/-- Refreshing twice is refreshing with the second report. -/
@[simp] theorem updateInfo_updateInfo (intf intf') (o : EthernetInterface) :
    (o.updateInfo intf).updateInfo intf' = o.updateInfo intf' := rfl

/-- A freshly built object already carries the report it was built from. -/
@[simp] theorem updateInfo_new (toStr) (info : AllIntfInfo) (name enabled) :
    (new toStr info name enabled).updateInfo info.intf = new toStr info name enabled := rfl

@[simp] theorem updateInfo_info (intf) (o : EthernetInterface) : (o.updateInfo intf).info = intf :=
  rfl

@[simp] theorem addAddr_nicEnabled (a : AddressInfo) (o : EthernetInterface) :
    (o.addAddr a).nicEnabled = o.nicEnabled := rfl

@[simp] theorem addAddr_interfaceName (a : AddressInfo) (o : EthernetInterface) :
    (o.addAddr a).interfaceName = o.interfaceName := rfl

@[simp] theorem addAddr_info (a : AddressInfo) (o : EthernetInterface) : (o.addAddr a).info = o.info :=
  rfl

@[simp] theorem addStaticNeigh_interfaceName (n : NeighborInfo) (o : EthernetInterface) :
    (o.addStaticNeigh n).interfaceName = o.interfaceName := by
  unfold addStaticNeigh
  split <;> rfl

@[simp] theorem addStaticNeigh_info (n : NeighborInfo) (o : EthernetInterface) :
    (o.addStaticNeigh n).info = o.info := by
  unfold addStaticNeigh
  split <;> rfl

@[simp] theorem addStaticNeigh_nicEnabled (n : NeighborInfo) (o : EthernetInterface) :
    (o.addStaticNeigh n).nicEnabled = o.nicEnabled := by
  unfold addStaticNeigh
  split <;> rfl

@[simp] theorem addAddr_addAddr (a : AddressInfo) (o : EthernetInterface) :
    (o.addAddr a).addAddr a = o.addAddr a := by
  simp [addAddr, Function.update_idem]

@[simp] theorem addStaticNeigh_addStaticNeigh (n : NeighborInfo) (o : EthernetInterface) :
    (o.addStaticNeigh n).addStaticNeigh n = o.addStaticNeigh n := by
  unfold addStaticNeigh
  cases n.addr <;> simp [Function.update_idem]

end EthernetInterface

end PhosphorNetworkd
