/-
# PhosphorNetworkd.Manager.Ops — the registry operations of `network_manager.cpp`.

One definition per `Manager` method the kernel and the link supervisor drive, in the order of
the source: `createInterface`, `addInterface`, `removeInterface`, `addAddress`, `removeAddress`,
`addNeighbor`, `removeNeighbor`, `addDefGw`, `removeDefGw`, `vlan` and `handleAdminState`.
Each returns the new registry, or how it stopped (`Exn`): a thrown `std::runtime_error`, an
IPC error, the `std::abort` of `removeInterface`, or a call through a dangling pointer.
Logging has no effect on the registry and is left out.
-/
import PhosphorNetworkd.Manager.Basic

namespace PhosphorNetworkd

namespace AllIntfInfo

/-- `defgw4.emplace(addr)` or `defgw6.emplace(addr)`, by the family of `addr`. -/
def setDefGw (a : AllIntfInfo) : InAnyAddr → AllIntfInfo
  | .in4 g => { a with defgw4 := some g }
  | .in6 g => { a with defgw6 := some g }

/-- `if (defgw4 == addr) defgw4.reset();`, or the same for `defgw6`. -/
def resetDefGw (a : AllIntfInfo) : InAnyAddr → AllIntfInfo
  | .in4 g => if a.defgw4 = some g then { a with defgw4 := none } else a
  | .in6 g => if a.defgw6 = some g then { a with defgw6 := none } else a

@[simp] theorem setDefGw_intf (a : AllIntfInfo) (g : InAnyAddr) : (a.setDefGw g).intf = a.intf := by
  cases g <;> rfl

@[simp] theorem resetDefGw_intf (a : AllIntfInfo) (g : InAnyAddr) : (a.resetDefGw g).intf = a.intf := by
  cases g <;> simp only [resetDefGw] <;> split_ifs <;> rfl

@[simp] theorem setDefGw_addrs (a : AllIntfInfo) (g : InAnyAddr) : (a.setDefGw g).addrs = a.addrs := by
  cases g <;> rfl

@[simp] theorem setDefGw_staticNeighs (a : AllIntfInfo) (g : InAnyAddr) :
    (a.setDefGw g).staticNeighs = a.staticNeighs := by
  cases g <;> rfl

@[simp] theorem resetDefGw_addrs (a : AllIntfInfo) (g : InAnyAddr) :
    (a.resetDefGw g).addrs = a.addrs := by
  cases g <;> simp only [resetDefGw] <;> split_ifs <;> rfl

@[simp] theorem resetDefGw_staticNeighs (a : AllIntfInfo) (g : InAnyAddr) :
    (a.resetDefGw g).staticNeighs = a.staticNeighs := by
  cases g <;> simp only [resetDefGw] <;> split_ifs <;> rfl

end AllIntfInfo

namespace EthernetInterface

/-- The `std::visit` of `addDefGw` on the object: `defaultGateway(toStr(addr))` for an IPv4
gateway, `defaultGateway6(toStr(addr))` for an IPv6 one. -/
def setDefGw (toStr : InAnyAddr → String) (o : EthernetInterface) : InAnyAddr → EthernetInterface
  | .in4 g => { o with defaultGateway := toStr (.in4 g) }
  | .in6 g => { o with defaultGateway6 := toStr (.in6 g) }

/-- The `std::visit` of `removeDefGw` on the object: the property is cleared only while it
still shows the gateway being removed. -/
def resetDefGw (toStr : InAnyAddr → String) (o : EthernetInterface) :
    InAnyAddr → EthernetInterface
  | .in4 g => if o.defaultGateway = toStr (.in4 g) then { o with defaultGateway := "" } else o
  | .in6 g => if o.defaultGateway6 = toStr (.in6 g) then { o with defaultGateway6 := "" } else o

@[simp] theorem setDefGw_nicEnabled (toStr : InAnyAddr → String) (o : EthernetInterface)
    (g : InAnyAddr) : (o.setDefGw toStr g).nicEnabled = o.nicEnabled := by
  cases g <;> rfl

@[simp] theorem resetDefGw_nicEnabled (toStr : InAnyAddr → String) (o : EthernetInterface)
    (g : InAnyAddr) : (o.resetDefGw toStr g).nicEnabled = o.nicEnabled := by
  cases g <;> simp only [resetDefGw] <;> split_ifs <;> rfl

@[simp] theorem setDefGw_interfaceName (toStr : InAnyAddr → String) (o : EthernetInterface)
    (g : InAnyAddr) : (o.setDefGw toStr g).interfaceName = o.interfaceName := by
  cases g <;> rfl

@[simp] theorem setDefGw_info (toStr : InAnyAddr → String) (o : EthernetInterface) (g : InAnyAddr) :
    (o.setDefGw toStr g).info = o.info := by
  cases g <;> rfl

@[simp] theorem resetDefGw_interfaceName (toStr : InAnyAddr → String) (o : EthernetInterface)
    (g : InAnyAddr) : (o.resetDefGw toStr g).interfaceName = o.interfaceName := by
  cases g <;> simp only [resetDefGw] <;> split_ifs <;> rfl

@[simp] theorem resetDefGw_info (toStr : InAnyAddr → String) (o : EthernetInterface)
    (g : InAnyAddr) : (o.resetDefGw toStr g).info = o.info := by
  cases g <;> simp only [resetDefGw] <;> split_ifs <;> rfl

@[simp] theorem setDefGw_addrs (toStr : InAnyAddr → String) (o : EthernetInterface)
    (g : InAnyAddr) : (o.setDefGw toStr g).addrs = o.addrs := by
  cases g <;> rfl

@[simp] theorem setDefGw_staticNeighbors (toStr : InAnyAddr → String) (o : EthernetInterface)
    (g : InAnyAddr) : (o.setDefGw toStr g).staticNeighbors = o.staticNeighbors := by
  cases g <;> rfl

@[simp] theorem resetDefGw_addrs (toStr : InAnyAddr → String) (o : EthernetInterface)
    (g : InAnyAddr) : (o.resetDefGw toStr g).addrs = o.addrs := by
  cases g <;> simp only [resetDefGw] <;> split_ifs <;> rfl

@[simp] theorem resetDefGw_staticNeighbors (toStr : InAnyAddr → String) (o : EthernetInterface)
    (g : InAnyAddr) : (o.resetDefGw toStr g).staticNeighbors = o.staticNeighbors := by
  cases g <;> simp only [resetDefGw] <;> split_ifs <;> rfl

end EthernetInterface

namespace Manager

variable (env : Env)

/-- Record `a` as everything known of link `i`. -/
@[simps]
def setInfo (s : Manager) (i : Nat) (a : AllIntfInfo) : Manager :=
  { s with intfInfo := Function.update s.intfInfo i (some a) }

/-- The tail of `createInterface`: parse the link's configuration file, construct the object,
`interfaces.insert_or_assign(name, ...)` (which destroys an object already under `name`) and
`interfacesByIdx.insert_or_assign(idx, ptr)`. -/
@[simps]
def construct (info : AllIntfInfo) (enabled : Bool) (name : String) (s : Manager) : Manager :=
  { s with
    interfaces := s.interfaces.insert name ⟨s.nextAddr, .new env.toStr info name enabled⟩
    interfacesByIdx := Function.update s.interfacesByIdx info.intf.idx (some s.nextAddr)
    nextAddr := s.nextAddr + 1 }

/-- `Manager::createInterface`. -/
def createInterface (info : AllIntfInfo) (enabled : Bool) (s : Manager) : Except Exn Manager :=
  if info.intf.idx ∈ s.ignoredIntf then .ok s else
  match s.interfacesByIdx info.intf.idx with
  | some p =>
    match s.findObj p with
    | none => .error .useAfterFree
    | some e =>
      match info.intf.name with
      | some name =>
        if name ≠ e.2.obj.interfaceName then
          .ok (construct env info enabled name
            { s with
              interfaces := s.interfaces.erase e.2.obj.interfaceName
              interfacesByIdx := Function.update s.interfacesByIdx info.intf.idx none })
        else .ok (s.setObj e (e.2.obj.updateInfo info.intf))
      | none => .ok (s.setObj e (e.2.obj.updateInfo info.intf))
  | none =>
    match info.intf.name with
    | some name =>
      match s.interfaces.lookup name with
      | some x => .ok (s.setObj ⟨name, x⟩ (x.obj.updateInfo info.intf))
      | none => .ok (construct env info enabled name s)
    | none => .ok s

/-- What `addInterface` records for the link: the stored aggregate with `intf = info`, or a
new `AllIntfInfo{info}`. -/
def linkInfo (s : Manager) (info : InterfaceInfo) : AllIntfInfo :=
  match s.intfInfo info.idx with
  | some a => { a with intf := info }
  | none => { intf := info }

/-- `Manager::addInterface`. -/
def addInterface (info : InterfaceInfo) (s : Manager) : Except Exn Manager :=
  if info.type ≠ arphrdEther then .ok { s with ignoredIntf := insert info.idx s.ignoredIntf }
  else if env.ignores info.name then .ok { s with ignoredIntf := insert info.idx s.ignoredIntf }
  else
    let all := s.linkInfo info
    let s := s.setInfo info.idx all
    match s.systemdNetworkdEnabled info.idx with
    | some b => createInterface env all b s
    | none => .ok s

/-- The entry `removeInterface` erases (`nit`): by name when the message carries one, after
the desync check against the by-index pointer; otherwise the one the loop finds for that
pointer. -/
def removeTarget (info : InterfaceInfo) (s : Manager) : Except Exn (Option String) :=
  match info.name with
  | some name =>
    match s.interfaces.lookup name, s.interfacesByIdx info.idx with
    | some x, some p =>
      if x.addr ≠ p then .error (.abort "Removed interface desync detected") else .ok (some name)
    | some _, none => .ok (some name)
    | none, _ => .ok none
  | none => .ok (((s.interfacesByIdx info.idx).bind s.findObj).map (·.1))

/-- `Manager::removeInterface`. -/
def removeInterface (info : InterfaceInfo) (s : Manager) : Except Exn Manager :=
  (removeTarget info s).map fun nit =>
    let s := match s.interfacesByIdx info.idx with
      | some _ => { s with interfacesByIdx := Function.update s.interfacesByIdx info.idx none }
      | none => { s with ignoredIntf := s.ignoredIntf.erase info.idx }
    let s := match nit with
      | some k => { s with interfaces := s.interfaces.erase k }
      | none => s
    { s with intfInfo := Function.update s.intfInfo info.idx none }

/-- `Manager::addAddress`. -/
def addAddress (info : AddressInfo) (s : Manager) : Except Exn Manager :=
  if info.flags &&& ifaFDeprecated ≠ 0 then .ok s else
  match s.intfInfo info.ifidx with
  | some a =>
    (s.setInfo info.ifidx { a with addrs := Function.update a.addrs info.ifaddr (some info) }).forIdx
      info.ifidx (·.addAddr info)
  | none =>
    if info.ifidx ∈ s.ignoredIntf then .ok s
    else .error (.runtimeError ("Interface `" ++ toString info.ifidx ++ "` not found for addr"))

/-- `Manager::removeAddress`. Unlike its siblings it looks at `interfacesByIdx` first, and
touches `intfInfo` only for a link that has an object. -/
def removeAddress (info : AddressInfo) (s : Manager) : Except Exn Manager :=
  match s.interfacesByIdx info.ifidx with
  | some p =>
    (s.withObj p fun o => { o with addrs := Function.update o.addrs info.ifaddr none }).map
      fun s =>
        match s.intfInfo info.ifidx with
        | some a => s.setInfo info.ifidx { a with addrs := Function.update a.addrs info.ifaddr none }
        | none => s
  | none => .ok s

/-- `Manager::addNeighbor`. -/
def addNeighbor (info : NeighborInfo) (s : Manager) : Except Exn Manager :=
  if info.state &&& nudPermanent = 0 then .ok s else
  match info.addr with
  | none => .ok s
  | some addr =>
    match s.intfInfo info.ifidx with
    | some a =>
      (s.setInfo info.ifidx
        { a with staticNeighs := Function.update a.staticNeighs addr (some info) }).forIdx
        info.ifidx (·.addStaticNeigh info)
    | none =>
      if info.ifidx ∈ s.ignoredIntf then .ok s
      else .error (.runtimeError ("Interface `" ++ toString info.ifidx ++ "` not found for neigh"))

/-- `Manager::removeNeighbor`. -/
def removeNeighbor (info : NeighborInfo) (s : Manager) : Except Exn Manager :=
  match info.addr with
  | none => .ok s
  | some addr =>
    match s.intfInfo info.ifidx with
    | some a =>
      (s.setInfo info.ifidx { a with staticNeighs := Function.update a.staticNeighs addr none }).forIdx
        info.ifidx fun o => { o with staticNeighbors := Function.update o.staticNeighbors addr none }
    | none => .ok s

/-- `Manager::addDefGw`. For an unknown link it only logs. -/
def addDefGw (ifidx : Nat) (addr : InAnyAddr) (s : Manager) : Except Exn Manager :=
  match s.intfInfo ifidx with
  | some a =>
    (s.setInfo ifidx (a.setDefGw addr)).forIdx ifidx (·.setDefGw env.toStr addr)
  | none => .ok s

/-- `Manager::removeDefGw`. -/
def removeDefGw (ifidx : Nat) (addr : InAnyAddr) (s : Manager) : Except Exn Manager :=
  match s.intfInfo ifidx with
  | some a =>
    (s.setInfo ifidx (a.resetDefGw addr)).forIdx ifidx (·.resetDefGw env.toStr addr)
  | none => .ok s

/-- `Manager::vlan`: the checks made before `it->second->createVLAN(id)`. The result is the
parent's entry and the `uint16_t` id `createVLAN` receives. -/
def vlan (interfaceName : String) (id : UInt32) (s : Manager) : Except Exn (IntfPtr × UInt16) :=
  if id = 0 ∨ id ≥ 4095 then .error (.invalidArgument "VLANId" (toString id))
  else
    match s.interfaces.lookup interfaceName with
    | none => .error (.resourceNotFound interfaceName)
    | some x => .ok (x, id.toUInt16)

/-- `Manager::handleAdminState`. Per the spec (§9), the unfinished `if (exist config)` arm of
the source, which does not compile, is treated as absent: the registry follows the working
`createInterface(it->second, managed)` call. -/
def handleAdminState (state : String) (ifidx : Nat) (s : Manager) : Except Exn Manager :=
  if state = "initialized" ∨ state = "linger" then
    .ok { s with systemdNetworkdEnabled := Function.update s.systemdNetworkdEnabled ifidx none }
  else
    let managed := decide (state ≠ "unmanaged")
    let s := { s with
      systemdNetworkdEnabled := Function.update s.systemdNetworkdEnabled ifidx (some managed) }
    match s.intfInfo ifidx with
    | some a => createInterface env a managed s
    | none => .ok s

end Manager

end PhosphorNetworkd
