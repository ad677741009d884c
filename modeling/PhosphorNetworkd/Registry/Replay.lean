/-
# PhosphorNetworkd.Registry.Replay — delivering an add event twice is delivering it once.

The multicast subscription is made before the start-up dumps, so the kernel can deliver the
same `RTM_NEW*` message twice, and the link supervisor can repeat a report. Each add operation
is idempotent on the whole registry, objects and allocator included: a repeated `NEWLINK`
finds the object its first delivery created or renamed and only refreshes it with the same
report, a repeated address, neighbour or gateway rewrites the same keys with the same values.
The laws hold from every registry, not only the reachable ones, and survive the `catch` of
`netlink::handler`, because a call that throws has not written anything.
-/
import PhosphorNetworkd.Registry.Run
import PhosphorNetworkd.Manager.Frame

namespace PhosphorNetworkd

namespace Manager

variable (env : Env)

/-! ## §1 — one law per add operation -/

theorem addInterface_replay (info : InterfaceInfo) (s : Manager) :
    (s.addInterface env info).bind (·.addInterface env info) = s.addInterface env info := by
  unfold addInterface
  split_ifs with ht hn
  · simp [Except.bind, addInterface, ht]
  · simp [Except.bind, addInterface, hn]
  · simp only [setInfo_systemdNetworkdEnabled]
    have hL := linkInfo_intf s info
    split
    · rename_i b hb
      conv_rhs => rw [← createInterface_createInterface env _ b b]
      refine bind_congr_ok fun t h => ?_
      have fr := createInterface_poolFrame env h
      have hi : t.intfInfo info.idx = some (s.linkInfo info) := by simp [fr.intfInfo]
      simp [addInterface, ht, hn, linkInfo_of_eq hi hL, setInfo_of_eq hi,
        fr.systemdNetworkdEnabled, hb]
    · rename_i hb
      have hi : (s.setInfo info.idx (s.linkInfo info)).intfInfo info.idx =
          some (s.linkInfo info) := by simp
      simp [Except.bind, addInterface, ht, hn, linkInfo_of_eq hi hL, setInfo_of_eq hi, hb]

/-- An address already recorded for its link is recorded again unchanged; what remains is
the call through the link's pointer. -/
theorem addAddress_of_recorded {t : Manager} {info : AddressInfo} {a : AllIntfInfo}
    (hd : ¬ info.flags &&& ifaFDeprecated ≠ 0) (hi : t.intfInfo info.ifidx = some a)
    (hk : a.addrs info.ifaddr = some info) :
    t.addAddress info = t.forIdx info.ifidx (·.addAddr info) := by
  have ha : { a with addrs := Function.update a.addrs info.ifaddr (some info) } = a := by
    simp [← hk]
  simp only [addAddress, hd, if_false, hi, ha, setInfo_of_eq hi]

theorem addAddress_replay (info : AddressInfo) (s : Manager) :
    (s.addAddress info).bind (·.addAddress info) = s.addAddress info := by
  by_cases hd : info.flags &&& ifaFDeprecated ≠ 0
  · simp [addAddress, hd, Except.bind]
  cases ha : s.intfInfo info.ifidx with
  | none => by_cases hig : info.ifidx ∈ s.ignoredIntf <;> simp [addAddress, hd, ha, hig, Except.bind]
  | some a =>
    have first : s.addAddress info = (s.setInfo info.ifidx
        { a with addrs := Function.update a.addrs info.ifaddr (some info) }).forIdx info.ifidx
        (·.addAddr info) := by
      simp only [addAddress, hd, if_false, ha]
    rw [first]
    conv_rhs => rw [← forIdx_forIdx _ _ (EthernetInterface.addAddr_addAddr info)]
    refine bind_congr_ok fun t h => ?_
    have hi : t.intfInfo info.ifidx =
        some { a with addrs := Function.update a.addrs info.ifaddr (some info) } := by
      simp [(forIdx_poolFrame h).intfInfo]
    exact addAddress_of_recorded hd hi (by simp)

theorem addNeighbor_of_recorded {t : Manager} {info : NeighborInfo} {k : InAnyAddr}
    {a : AllIntfInfo} (hp : ¬ info.state &&& nudPermanent = 0) (hk : info.addr = some k)
    (hi : t.intfInfo info.ifidx = some a) (hn : a.staticNeighs k = some info) :
    t.addNeighbor info = t.forIdx info.ifidx (·.addStaticNeigh info) := by
  have ha : { a with staticNeighs := Function.update a.staticNeighs k (some info) } = a := by
    simp [← hn]
  simp only [addNeighbor, hp, if_false, hk, hi, ha, setInfo_of_eq hi]

theorem addNeighbor_replay (info : NeighborInfo) (s : Manager) :
    (s.addNeighbor info).bind (·.addNeighbor info) = s.addNeighbor info := by
  by_cases hp : info.state &&& nudPermanent = 0
  · simp [addNeighbor, hp, Except.bind]
  cases hk : info.addr with
  | none => simp [addNeighbor, hp, hk, Except.bind]
  | some k =>
    cases ha : s.intfInfo info.ifidx with
    | none =>
      by_cases hig : info.ifidx ∈ s.ignoredIntf <;> simp [addNeighbor, hp, hk, ha, hig, Except.bind]
    | some a =>
      have first : s.addNeighbor info = (s.setInfo info.ifidx
          { a with staticNeighs := Function.update a.staticNeighs k (some info) }).forIdx
          info.ifidx (·.addStaticNeigh info) := by
        simp only [addNeighbor, hp, if_false, hk, ha]
      rw [first]
      conv_rhs => rw [← forIdx_forIdx _ _ (EthernetInterface.addStaticNeigh_addStaticNeigh info)]
      refine bind_congr_ok fun t h => ?_
      have hi : t.intfInfo info.ifidx =
          some { a with staticNeighs := Function.update a.staticNeighs k (some info) } := by
        simp [(forIdx_poolFrame h).intfInfo]
      exact addNeighbor_of_recorded hp hk hi (by simp)

@[simp] theorem setDefGw_setDefGw (a : AllIntfInfo) (g : InAnyAddr) :
    (a.setDefGw g).setDefGw g = a.setDefGw g := by
  cases g <;> rfl

@[simp] theorem EthernetInterface.setDefGw_setDefGw (toStr : InAnyAddr → String)
    (o : EthernetInterface) (g : InAnyAddr) :
    (o.setDefGw toStr g).setDefGw toStr g = o.setDefGw toStr g := by
  cases g <;> rfl

theorem addDefGw_replay (ifidx : Nat) (addr : InAnyAddr) (s : Manager) :
    (s.addDefGw env ifidx addr).bind (·.addDefGw env ifidx addr) = s.addDefGw env ifidx addr := by
  cases ha : s.intfInfo ifidx with
  | none => simp [addDefGw, ha, Except.bind]
  | some a =>
    simp only [addDefGw, ha]
    conv_rhs => rw [← forIdx_forIdx _ _ (EthernetInterface.setDefGw_setDefGw env.toStr · addr)]
    refine bind_congr_ok fun t h => ?_
    have hi : t.intfInfo ifidx = some (a.setDefGw addr) := by simp [(forIdx_poolFrame h).intfInfo]
    simp only [hi, setDefGw_setDefGw, setInfo_of_eq hi]

theorem handleAdminState_replay (state : String) (ifidx : Nat) (s : Manager) :
    (s.handleAdminState env state ifidx).bind (·.handleAdminState env state ifidx) =
      s.handleAdminState env state ifidx := by
  unfold handleAdminState
  split_ifs with hs
  · simp [Except.bind, hs, Function.update_idem]
  have hset : ∀ (m : Bool) (t : Manager), t.systemdNetworkdEnabled ifidx = some m →
      { t with systemdNetworkdEnabled := Function.update t.systemdNetworkdEnabled ifidx (some m) }
        = t := fun m t h => by
    cases t; simp_all
  dsimp only
  split
  · rename_i a ha
    conv_rhs => rw [← createInterface_createInterface env a _ (decide (state ≠ "unmanaged"))]
    refine bind_congr_ok fun t h => ?_
    have fr := createInterface_poolFrame env h
    rw [hset _ t (by simp [fr.systemdNetworkdEnabled]), fr.intfInfo]
    simp [ha]
  · rename_i ha
    simp [Except.bind, hs, ha, Function.update_idem]

end Manager

/-! ## §2 — through `netlink::handler`, for every add event -/

/-- A law of a registry call survives the `catch` around it: a call that throws leaves the
registry unchanged, so its repetition throws again and is caught again. -/
theorem catchStd_replay (op : Manager → Except Exn Manager) (s : Manager)
    (h : (op s).bind op = op s) :
    (Netlink.catchStd s (op s)).bind (fun t => Netlink.catchStd t (op t)) =
      Netlink.catchStd s (op s) := by
  cases hs : op s with
  | error e => cases e <;> simp [Netlink.catchStd, Except.bind, hs]
  | ok t =>
    have ht : op t = .ok t := by simpa [hs, Except.bind] using h
    simp [Netlink.catchStd, Except.bind, ht]

/-- The events a second delivery of which the registry absorbs: `NEWLINK`, `NEWADDR`,
`NEWNEIGH`, `NEWROUTE` and a supervisor report. -/
def Event.IsAdd : Event → Prop
  | .rtnetlink (.newLink _) | .rtnetlink (.newAddr _) | .rtnetlink (.newNeigh _)
  | .rtnetlink (.newRoute _) | .adminState _ _ => True
  | _ => False

/-- **Replaying an add event is a no-op on the registry**: from every registry, processing a
`NEWLINK`, `NEWADDR`, `NEWNEIGH`, default-route `NEWROUTE` or `AdministrativeState` event twice
in a row ends exactly as processing it once — the same tables, the same objects under the same
names and indices, the same allocator, or the same abort. -/
theorem step_replay (env : Env) (s : Manager) (e : Event) (he : e.IsAdd) :
    (step env s e).bind (step env · e) = step env s e := by
  rcases e with (info | info | gw | gw | info | info | info | info) | ⟨state, ifidx⟩ <;>
    simp only [Event.IsAdd] at he
  · exact catchStd_replay _ s (Manager.addInterface_replay env info s)
  · refine catchStd_replay (fun s => Netlink.rthandler gw (s.addDefGw env) s) s ?_
    rcases gw with _ | ⟨ifidx, addr⟩
    · rfl
    · exact Manager.addDefGw_replay env ifidx addr s
  · exact catchStd_replay _ s (Manager.addAddress_replay info s)
  · exact catchStd_replay _ s (Manager.addNeighbor_replay info s)
  · exact Manager.handleAdminState_replay env state ifidx s

/-- Link 1 is managed and has its object; a second delivery of its `NEWLINK` is absorbed. -/
theorem step_replay_newLink :
    ∃ s, run ⟨[], fun _ => ""⟩ Manager.empty
        [.adminState "configured" 1, .rtnetlink (.newLink (ether 1 "eth0"))] = .ok s ∧
      s.interfacesByIdx 1 = some 0 ∧ (Event.rtnetlink (.newLink (ether 1 "eth0"))).IsAdd ∧
      (step ⟨[], fun _ => ""⟩ s (.rtnetlink (.newLink (ether 1 "eth0")))).bind
          (step ⟨[], fun _ => ""⟩ · (.rtnetlink (.newLink (ether 1 "eth0")))) =
        step ⟨[], fun _ => ""⟩ s (.rtnetlink (.newLink (ether 1 "eth0"))) :=
  ⟨_, rfl, rfl, trivial, step_replay _ _ _ trivial⟩

end PhosphorNetworkd
