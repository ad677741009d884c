/-
# PhosphorNetworkd.Registry.Filters — what `intfInfo` can hold, in every reachable registry.

`addAddress` drops deprecated addresses and `addNeighbor` neighbours that are not permanent or
carry no address; each files what it keeps under its own key at its own link. Nothing else
writes the two maps but their erasing siblings, `addInterface` keeps them when it refreshes a
link and starts them empty for a new one, and the object pool never touches `intfInfo`. The
mirror (`mirrorStep`) keeps the filters event by event, and the registry does to `intfInfo`
what the mirror does or nothing, so every record of every reachable registry passes the
ingestion filters (`intfInfo_filtered`).
-/
import PhosphorNetworkd.Registry.Mirror

namespace PhosphorNetworkd

/-- The record of link `i` is filed under the link's own index and holds only what the
ingestion filters let through. -/
structure AllIntfInfo.Filtered (i : Nat) (a : AllIntfInfo) : Prop where
  intf : a.intf.idx = i
  addrs : ∀ k x, a.addrs k = some x → k = x.ifaddr ∧ x.ifidx = i ∧ x.flags &&& ifaFDeprecated = 0
  staticNeighs : ∀ k n, a.staticNeighs k = some n →
    n.addr = some k ∧ n.ifidx = i ∧ n.state &&& nudPermanent ≠ 0

namespace AllIntfInfo.Filtered

variable {i : Nat} {a : AllIntfInfo}

theorem fresh (info : InterfaceInfo) : AllIntfInfo.Filtered info.idx { intf := info } :=
  ⟨rfl, by simp, by simp⟩

theorem setIntf (h : a.Filtered i) {info : InterfaceInfo} (hi : info.idx = i) :
    Filtered i { a with intf := info } :=
  ⟨hi, h.addrs, h.staticNeighs⟩

theorem addAddr (h : a.Filtered i) {x : AddressInfo} (hi : x.ifidx = i)
    (hd : x.flags &&& ifaFDeprecated = 0) :
    Filtered i { a with addrs := Function.update a.addrs x.ifaddr (some x) } := by
  refine ⟨h.intf, fun k y hy => ?_, h.staticNeighs⟩
  by_cases hk : k = x.ifaddr
  · subst hk; simp at hy; subst hy; exact ⟨rfl, hi, hd⟩
  · simp [hk] at hy; exact h.addrs k y hy

theorem eraseAddr (h : a.Filtered i) (k : SubnetAny) :
    Filtered i { a with addrs := Function.update a.addrs k none } := by
  refine ⟨h.intf, fun k' y hy => ?_, h.staticNeighs⟩
  by_cases hk : k' = k
  · subst hk; simp at hy
  · simp [hk] at hy; exact h.addrs k' y hy

theorem addNeigh (h : a.Filtered i) {n : NeighborInfo} {k : InAnyAddr} (hk : n.addr = some k)
    (hi : n.ifidx = i) (hp : n.state &&& nudPermanent ≠ 0) :
    Filtered i { a with staticNeighs := Function.update a.staticNeighs k (some n) } := by
  refine ⟨h.intf, h.addrs, fun k' m hm => ?_⟩
  by_cases hk' : k' = k
  · subst hk'; simp at hm; subst hm; exact ⟨hk, hi, hp⟩
  · simp [hk'] at hm; exact h.staticNeighs k' m hm

theorem eraseNeigh (h : a.Filtered i) (k : InAnyAddr) :
    Filtered i { a with staticNeighs := Function.update a.staticNeighs k none } := by
  refine ⟨h.intf, h.addrs, fun k' m hm => ?_⟩
  by_cases hk' : k' = k
  · subst hk'; simp at hm
  · simp [hk'] at hm; exact h.staticNeighs k' m hm

theorem setDefGw (h : a.Filtered i) (g : InAnyAddr) : Filtered i (a.setDefGw g) := by
  cases g <;> exact ⟨h.intf, h.addrs, h.staticNeighs⟩

theorem resetDefGw (h : a.Filtered i) (g : InAnyAddr) : Filtered i (a.resetDefGw g) := by
  cases g <;> simp only [AllIntfInfo.resetDefGw] <;> split_ifs <;> exact ⟨h.intf, h.addrs, h.staticNeighs⟩

end AllIntfInfo.Filtered

/-- Every record of the table `m` is fit for its link. -/
def InfoFiltered (m : Nat → Option AllIntfInfo) : Prop :=
  ∀ i a, m i = some a → a.Filtered i

namespace InfoFiltered

variable {m : Nat → Option AllIntfInfo}

theorem update (h : InfoFiltered m) {i : Nat} {a : AllIntfInfo} (ha : a.Filtered i) :
    InfoFiltered (Function.update m i (some a)) := by
  intro j b hb
  by_cases hj : j = i
  · subst hj; simp at hb; exact hb ▸ ha
  · simp [hj] at hb; exact h j b hb

theorem erase (h : InfoFiltered m) (i : Nat) : InfoFiltered (Function.update m i none) := by
  intro j b hb
  by_cases hj : j = i
  · subst hj; simp at hb
  · simp [hj] at hb; exact h j b hb

end InfoFiltered

/-! ## §2 — the filters hold along every run -/

theorem mirrorStep_filtered {env : Env} {m : Nat → Option AllIntfInfo} (h : InfoFiltered m) (e : Event) :
    InfoFiltered (mirrorStep env m e) := by
  rcases e with (info | info | gw | gw | info | info | info | info) | ⟨state, i⟩ <;>
    simp only [mirrorStep]
  · -- NEWLINK
    split_ifs
    · exact h
    · refine h.update ?_
      split <;> rename_i ha
      · exact (h _ _ ha).setIntf rfl
      · exact .fresh info
  · -- DELLINK
    exact h.erase _
  · -- NEWROUTE
    rcases gw with _ | ⟨i, g⟩
    · exact h
    · dsimp only
      cases ha : m i
      · exact h
      · exact h.update ((h _ _ ha).setDefGw g)
  · -- DELROUTE
    rcases gw with _ | ⟨i, g⟩
    · exact h
    · dsimp only
      cases ha : m i
      · exact h
      · exact h.update ((h _ _ ha).resetDefGw g)
  · -- NEWADDR
    split
    · next a ha =>
      split_ifs with hd
      · exact h
      · exact h.update ((h _ _ ha).addAddr rfl (not_not.mp hd))
    · exact h
  · -- DELADDR
    split
    · next a ha => exact h.update ((h _ _ ha).eraseAddr _)
    · exact h
  · -- NEWNEIGH
    split
    · next k a hk ha =>
      split_ifs with hn
      · exact h
      · exact h.update ((h _ _ ha).addNeigh hk rfl hn)
    · exact h
  · -- DELNEIGH
    split
    · next k a _ ha => exact h.update ((h _ _ ha).eraseNeigh k)
    · exact h
  · -- a supervisor report
    exact h

theorem Manager.step_filtered {env : Env} {s s' : Manager} {e : Event}
    (h : InfoFiltered s.intfInfo) (hs : step env s e = .ok s') : InfoFiltered s'.intfInfo := by
  rw [step_intfInfo hs]
  split
  · exact h
  · exact mirrorStep_filtered h e

theorem Reachable.infoFiltered {env : Env} {s : Manager} (h : Reachable env s) :
    InfoFiltered s.intfInfo := by
  induction h with
  | empty => intro i a ha; cases ha
  | step _ hs ih => exact Manager.step_filtered ih hs

/-- **Every record of every reachable registry passes the ingestion filters**: its addresses
are filed under their own prefix, belong to its link and are not deprecated; its static
neighbours are filed under their own address, belong to its link and are permanent. -/
theorem intfInfo_filtered {env : Env} {s : Manager} (h : Reachable env s) {i : Nat}
    {a : AllIntfInfo} (ha : s.intfInfo i = some a) :
    (∀ k x, a.addrs k = some x → k = x.ifaddr ∧ x.ifidx = i ∧ x.flags &&& ifaFDeprecated = 0) ∧
    (∀ k n, a.staticNeighs k = some n →
      n.addr = some k ∧ n.ifidx = i ∧ n.state &&& nudPermanent ≠ 0) :=
  let hf := h.infoFiltered i a ha
  ⟨hf.addrs, hf.staticNeighs⟩

/-- The address link 1 reports after coming up is recorded, and passes the filters. -/
theorem intfInfo_filtered_newAddr :
    ∃ s a, Reachable ⟨[], fun _ => ""⟩ s ∧ s.intfInfo 1 = some a ∧
      a.addrs (sampleAddr 1).ifaddr = some (sampleAddr 1) ∧
      ((∀ k x, a.addrs k = some x → k = x.ifaddr ∧ x.ifidx = 1 ∧ x.flags &&& ifaFDeprecated = 0) ∧
        (∀ k n, a.staticNeighs k = some n →
          n.addr = some k ∧ n.ifidx = 1 ∧ n.state &&& nudPermanent ≠ 0)) :=
  have hr := Reachable.run ⟨[], fun _ => ""⟩ .empty (rfl : run ⟨[], fun _ => ""⟩ Manager.empty
    [.rtnetlink (.newLink (ether 1 "eth0")), .rtnetlink (.newAddr (sampleAddr 1))] = .ok _)
  ⟨_, _, hr, rfl, rfl, intfInfo_filtered hr rfl⟩

end PhosphorNetworkd
