/-
# PhosphorNetworkd.Registry.Cache — the object bound at a link caches the link's record.

Every operation that writes a link's record makes the matching change to the link's object, if
it has one: `addAddress`, `removeAddress`, `addNeighbor` and `removeNeighbor` (spec §4.4: the
registry "mirrors the change into the per-interface object if one exists"), the two gateway
operations, and `createInterface`, which builds an object from the record it is handed. So a
relation `R` between an object and its link's record holds of every object at a bound address
in every reachable registry, once each of these updates keeps `R` (`KeptRel`,
`Reachable.cached`). The addresses and static neighbours are one such relation
(`object_mirrors_record`); the default gateways, shown as text, another
(`Registry/Gateways.lean`).

The argument needs the object pool to be well formed: addresses come from the allocator and
are never reused, so no two names own objects at one address and no address is bound at two
indices. A call through a link's pointer then reaches that link's object and no other, and a
dangling pointer reaches nothing.
-/
import PhosphorNetworkd.Registry.Objects

namespace PhosphorNetworkd

/-- What a table with entry `i` cleared still maps, it mapped before, away from `i`. -/
theorem update_none_eq_some {α : Type} {f : Nat → Option α} {i j : Nat} {c : α}
    (h : Function.update f i none j = some c) : j ≠ i ∧ f j = some c := by
  by_cases hji : j = i
  · subst hji; simp at h
  · exact ⟨hji, by rwa [Function.update_noteq hji] at h⟩

/-- The object holds exactly the addresses and the static neighbours of the record. -/
def EthernetInterface.Caches (o : EthernetInterface) (a : AllIntfInfo) : Prop :=
  o.addrs = a.addrs ∧ o.staticNeighbors = a.staticNeighs

namespace Manager

/-- A relation between an object and its link's record that the registry's updates keep: the
constructor relates the object it builds to the record it is handed, a new report on either
side keeps it, and so does each pair of updates an operation makes to a record and to the
object bound at its link. -/
structure KeptRel (env : Env) (R : EthernetInterface → AllIntfInfo → Prop) : Prop where
  new : ∀ a name b, R (.new env.toStr a name b) a
  updateInfo : ∀ o a intf, R o a → R (o.updateInfo intf) a
  setIntf : ∀ o a intf, R o a → R o { a with intf := intf }
  addAddr : ∀ o a (info : AddressInfo), R o a →
    R (o.addAddr info) { a with addrs := Function.update a.addrs info.ifaddr (some info) }
  eraseAddr : ∀ o a k, R o a →
    R { o with addrs := Function.update o.addrs k none }
      { a with addrs := Function.update a.addrs k none }
  addNeigh : ∀ o a (info : NeighborInfo) k, info.addr = some k → R o a →
    R (o.addStaticNeigh info) { a with staticNeighs := Function.update a.staticNeighs k (some info) }
  eraseNeigh : ∀ o a k, R o a →
    R { o with staticNeighbors := Function.update o.staticNeighbors k none }
      { a with staticNeighs := Function.update a.staticNeighs k none }
  setDefGw : ∀ o a g, R o a → R (o.setDefGw env.toStr g) (a.setDefGw g)
  resetDefGw : ∀ o a g, R o a → R (o.resetDefGw env.toStr g) (a.resetDefGw g)

/-- The object pool is well formed, and every object at a bound address is related by `R` to
the record of the index it is bound at. -/
structure Cached (R : EthernetInterface → AllIntfInfo → Prop) (s : Manager) : Prop where
  owned_lt : ∀ n x, s.interfaces.lookup n = some x → x.addr < s.nextAddr
  owned_inj : ∀ n n' x x', s.interfaces.lookup n = some x → s.interfaces.lookup n' = some x' →
    x.addr = x'.addr → n = n'
  bound_lt : ∀ i p, s.interfacesByIdx i = some p → p < s.nextAddr
  bound_inj : ∀ i j p, s.interfacesByIdx i = some p → s.interfacesByIdx j = some p → i = j
  mirror : ∀ i n x, s.interfacesByIdx i = some x.addr → s.interfaces.lookup n = some x →
    ∃ a, s.intfInfo i = some a ∧ R x.obj a

variable (env : Env) {R : EthernetInterface → AllIntfInfo → Prop} {s s' : Manager}

/-! ## §1 — the pool operations keep the cache -/

theorem Cached.empty : Cached R Manager.empty where
  owned_lt _ _ h := by simp [Manager.empty] at h
  owned_inj _ _ _ _ h := by simp [Manager.empty] at h
  bound_lt _ _ h := by cases h
  bound_inj _ _ _ h := by cases h
  mirror _ _ _ h := by cases h

theorem lookup_of_erase {k n : String} {x : IntfPtr} (h : (s.interfaces.erase k).lookup n = some x) :
    s.interfaces.lookup n = some x := by
  by_cases hn : n = k
  · subst hn; simp at h
  · rwa [AList.lookup_erase_ne hn] at h

/-- Destroying an object keeps the cache: the pointers to it dangle and reach nothing. -/
theorem Cached.erase (h : Cached R s) (k : String) :
    Cached R { s with interfaces := s.interfaces.erase k } where
  owned_lt n x hx := h.owned_lt n x (lookup_of_erase hx)
  owned_inj n n' x x' hx hx' := h.owned_inj n n' x x' (lookup_of_erase hx) (lookup_of_erase hx')
  bound_lt := h.bound_lt
  bound_inj := h.bound_inj
  mirror i n x hb hx := h.mirror i n x hb (lookup_of_erase hx)

/-- Unbinding an index keeps the cache. -/
theorem Cached.unbind (h : Cached R s) (i : Nat) :
    Cached R { s with interfacesByIdx := Function.update s.interfacesByIdx i none } where
  owned_lt := h.owned_lt
  owned_inj := h.owned_inj
  bound_lt j p hj := h.bound_lt j p (update_none_eq_some hj).2
  bound_inj j k p hj hk := h.bound_inj j k p (update_none_eq_some hj).2 (update_none_eq_some hk).2
  mirror j n x hj hx := h.mirror j n x (update_none_eq_some hj).2 hx

/-- Rewriting a record keeps the cache when the objects bound at its index are related to the
new record. -/
theorem Cached.setInfo (h : Cached R s) {i : Nat} {a' : AllIntfInfo}
    (ha : ∀ n x, s.interfacesByIdx i = some x.addr → s.interfaces.lookup n = some x → R x.obj a') :
    Cached R (s.setInfo i a') where
  owned_lt := h.owned_lt
  owned_inj := h.owned_inj
  bound_lt := h.bound_lt
  bound_inj := h.bound_inj
  mirror j n x hb hx := by
    by_cases hji : j = i
    · subst hji; exact ⟨a', by simp, ha n x hb hx⟩
    · simpa [hji] using h.mirror j n x hb hx

/-- Erasing the record of an unbound index keeps the cache. -/
theorem Cached.eraseInfo (h : Cached R s) {i : Nat} (hb : s.interfacesByIdx i = none) :
    Cached R { s with intfInfo := Function.update s.intfInfo i none } where
  owned_lt := h.owned_lt
  owned_inj := h.owned_inj
  bound_lt := h.bound_lt
  bound_inj := h.bound_inj
  mirror j n x hj hx := by
    have hji : j ≠ i := by rintro rfl; rw [hb] at hj; cases hj
    simpa [hji] using h.mirror j n x hj hx

theorem owned_lt_setObj (h : Cached R s) {e : IntfEntry} {o : EthernetInterface}
    (he : s.interfaces.lookup e.1 = some e.2) {n : String} {x : IntfPtr}
    (hx : (s.setObj e o).interfaces.lookup n = some x) : x.addr < s.nextAddr := by
  rcases lookup_setObj hx with ⟨-, rfl⟩ | hx
  · exact h.owned_lt e.1 e.2 he
  · exact h.owned_lt n x hx

theorem owned_inj_setObj (h : Cached R s) {e : IntfEntry} {o : EthernetInterface}
    (he : s.interfaces.lookup e.1 = some e.2) {n n' : String} {x x' : IntfPtr}
    (hx : (s.setObj e o).interfaces.lookup n = some x)
    (hx' : (s.setObj e o).interfaces.lookup n' = some x') (hxx : x.addr = x'.addr) : n = n' := by
  rcases lookup_setObj hx with ⟨rfl, rfl⟩ | hx <;> rcases lookup_setObj hx' with ⟨rfl, rfl⟩ | hx'
  · rfl
  · exact h.owned_inj _ _ e.2 x' he hx' hxx
  · exact h.owned_inj _ _ x e.2 hx he hxx
  · exact h.owned_inj _ _ _ _ hx hx' hxx

/-- Replacing an object by one related to every record the old one was related to keeps the
cache. -/
theorem Cached.setObj (h : Cached R s) {e : IntfEntry} {o : EthernetInterface}
    (he : s.interfaces.lookup e.1 = some e.2) (ho : ∀ a, R e.2.obj a → R o a) :
    Cached R (s.setObj e o) where
  owned_lt _ _ hx := owned_lt_setObj h he hx
  owned_inj _ _ _ _ hx hx' := owned_inj_setObj h he hx hx'
  bound_lt := h.bound_lt
  bound_inj := h.bound_inj
  mirror i n x hb hx := by
    rcases lookup_setObj hx with ⟨-, rfl⟩ | hx
    · obtain ⟨a, ha, hr⟩ := h.mirror i e.1 e.2 hb he
      exact ⟨a, ha, ho a hr⟩
    · exact h.mirror i n x hb hx

/-- A call through the pointer bound at `i` that relates the object to the record it writes
there keeps the cache: no other index is bound to that object, and no other name owns it. -/
theorem Cached.setInfo_setObj (h : Cached R s) {i : Nat} {e : IntfEntry} {a' : AllIntfInfo}
    {o : EthernetInterface} (hb : s.interfacesByIdx i = some e.2.addr)
    (he : s.interfaces.lookup e.1 = some e.2) (ho : R o a') :
    Cached R ((s.setInfo i a').setObj e o) where
  owned_lt _ _ hx := owned_lt_setObj h he hx
  owned_inj _ _ _ _ hx hx' := owned_inj_setObj h he hx hx'
  bound_lt := h.bound_lt
  bound_inj := h.bound_inj
  mirror j n x hj hx := by
    by_cases hn : n = e.1
    · -- the object the call rewrote: it is bound at `i` only
      subst hn
      simp only [setObj_interfaces, AList.lookup_insert, Option.some_inj] at hx
      subst hx
      obtain rfl := h.bound_inj _ _ _ hj hb
      exact ⟨a', by simp, ho⟩
    · -- another object: not at the rewritten address, so not bound at `i`
      rw [setObj_interfaces, AList.lookup_insert_ne hn] at hx
      have hji : j ≠ i := by
        rintro rfl
        exact hn (h.owned_inj _ _ _ _ hx he (Option.some_inj.mp (hj.symm.trans hb)))
      simpa [hji] using h.mirror j n x hj hx

theorem Cached.withIgnored (h : Cached R s) (g : Finset Nat) :
    Cached R { s with ignoredIntf := g } :=
  ⟨h.owned_lt, h.owned_inj, h.bound_lt, h.bound_inj, h.mirror⟩

theorem Cached.withEnabled (h : Cached R s) (f : Nat → Option Bool) :
    Cached R { s with systemdNetworkdEnabled := f } :=
  ⟨h.owned_lt, h.owned_inj, h.bound_lt, h.bound_inj, h.mirror⟩

/-- After `construct`, an index is bound to the fresh address if it is the link's, and as
before otherwise. -/
theorem construct_interfacesByIdx_eq_some {a : AllIntfInfo} {b : Bool} {name : String}
    {j p : Nat} :
    (Manager.construct env a b name s).interfacesByIdx j = some p ↔
      (j = a.intf.idx ∧ p = s.nextAddr) ∨ (j ≠ a.intf.idx ∧ s.interfacesByIdx j = some p) := by
  by_cases hj : j = a.intf.idx
  · subst hj; simp [eq_comm]
  · simp [hj]

/-- Constructing an object from the record of its index keeps the cache: the object gets a
fresh address, bound at that index only. -/
theorem Cached.construct (hK : KeptRel env R) (h : Cached R s) {a : AllIntfInfo} {b : Bool}
    {name : String} (ha : s.intfInfo a.intf.idx = some a) :
    Cached R (construct env a b name s) where
  owned_lt n x hx := by
    rcases lookup_construct env hx with ⟨-, rfl⟩ | hx
    · exact Nat.lt_succ_self _
    · exact Nat.lt_succ_of_lt (h.owned_lt n x hx)
  owned_inj n n' x x' hx hx' hxx := by
    rcases lookup_construct env hx with ⟨rfl, rfl⟩ | hy <;>
      rcases lookup_construct env hx' with ⟨rfl, rfl⟩ | hy'
    · rfl
    · exact absurd hxx (h.owned_lt _ _ hy').ne'
    · exact absurd hxx (h.owned_lt _ _ hy).ne
    · exact h.owned_inj _ _ _ _ hy hy' hxx
  bound_lt i p hp := by
    rcases (construct_interfacesByIdx_eq_some env).mp hp with ⟨-, rfl⟩ | ⟨-, hp⟩
    · exact Nat.lt_succ_self _
    · exact Nat.lt_succ_of_lt (h.bound_lt i p hp)
  bound_inj i j p hi hj := by
    rcases (construct_interfacesByIdx_eq_some env).mp hi with ⟨rfl, rfl⟩ | ⟨-, hi⟩ <;>
      rcases (construct_interfacesByIdx_eq_some env).mp hj with ⟨rfl, hp⟩ | ⟨-, hj⟩
    · rfl
    · exact absurd (h.bound_lt _ _ hj) (lt_irrefl _)
    · exact absurd (hp ▸ h.bound_lt _ _ hi) (lt_irrefl _)
    · exact h.bound_inj i j p hi hj
  mirror i n x hb hx := by
    rcases lookup_construct env hx with ⟨-, rfl⟩ | hx <;>
      rcases (construct_interfacesByIdx_eq_some env).mp hb with ⟨rfl, hp⟩ | ⟨-, hb⟩
    · -- the new object, bound at the link's index
      exact ⟨a, ha, hK.new a name b⟩
    · exact absurd (h.bound_lt _ _ hb) (lt_irrefl _)
    · exact absurd (hp ▸ h.owned_lt _ _ hx) (lt_irrefl _)
    · exact h.mirror i n x hb hx

/-! ## §2 — the operations keep the cache -/

section Ops

variable {env}

/-- **`createInterface`, handed the record of its link, keeps the cache.** -/
theorem Cached.createInterface (hK : KeptRel env R) (h : Cached R s) {a : AllIntfInfo} {b : Bool}
    (ha : s.intfInfo a.intf.idx = some a) (hc : s.createInterface env a b = .ok s') :
    Cached R s' := by
  rcases createInterface_cases env hc with rfl | ⟨e, he, rfl⟩ | ⟨name, t, rfl, rfl | ⟨k, rfl⟩⟩
  · exact h
  · exact h.setObj he fun a' => hK.updateInfo _ a' _
  · exact h.construct env hK ha
  · exact ((h.erase k).unbind _).construct env hK ha

/-- A record update made through the link's pointer keeps the cache when the call relates the
object to the new record. -/
theorem Cached.forIdx (h : Cached R s) {i : Nat} {a a' : AllIntfInfo}
    {f : EthernetInterface → EthernetInterface} (hi : s.intfInfo i = some a)
    (hs : (s.setInfo i a').forIdx i f = .ok s') (hf : ∀ o, R o a → R (f o) a') : Cached R s' := by
  rcases forIdx_eq_ok.mp hs with ⟨hb, rfl⟩ | ⟨p, e, hb, he, rfl⟩
  · exact h.setInfo fun n x hb' _ => by rw [setInfo_interfacesByIdx] at hb; rw [hb] at hb'; cases hb'
  · obtain ⟨hl, rfl⟩ := findObj_spec he
    obtain ⟨a0, ha0, hr⟩ := h.mirror i e.1 e.2 hb hl
    rw [hi, Option.some_inj] at ha0
    subst ha0
    exact h.setInfo_setObj hb hl (hf _ hr)

theorem Cached.addInterface (hK : KeptRel env R) (h : Cached R s) {info : InterfaceInfo}
    (hs : s.addInterface env info = .ok s') : Cached R s' := by
  have hl : Cached R (s.setInfo info.idx (s.linkInfo info)) := h.setInfo fun n x hb hx => by
    obtain ⟨a, ha, hr⟩ := h.mirror _ n x hb hx
    rw [linkInfo, ha]
    exact hK.setIntf _ a info hr
  rcases addInterface_cases env hs with ⟨-, rfl⟩ | ⟨-, ⟨-, rfl⟩ | ⟨b, -, hs⟩⟩
  · exact h.withIgnored _
  · exact hl
  · exact hl.createInterface hK (by simp [linkInfo_intf]) hs

theorem Cached.removeInterface (h : Cached R s) {info : InterfaceInfo}
    (hs : s.removeInterface info = .ok s') : Cached R s' := by
  obtain ⟨nit, -, rfl⟩ := Except.map_eq_ok.mp hs
  dsimp only
  have hi := h.withIgnored (s.ignoredIntf.erase info.idx)
  have hu := h.unbind info.idx
  cases hb : s.interfacesByIdx info.idx <;> rcases nit with _ | k <;> dsimp only
  · exact hi.eraseInfo hb
  · exact (hi.erase k).eraseInfo hb
  · exact hu.eraseInfo (by simp)
  · exact (hu.erase k).eraseInfo (by simp)

theorem Cached.addAddress (hK : KeptRel env R) (h : Cached R s) {info : AddressInfo}
    (hs : s.addAddress info = .ok s') : Cached R s' := by
  unfold Manager.addAddress at hs
  by_cases hd : info.flags &&& ifaFDeprecated ≠ 0
  · rw [if_pos hd] at hs; cases hs; exact h
  rw [if_neg hd] at hs
  split at hs
  · rename_i a ha
    exact h.forIdx ha hs fun o => hK.addAddr o a info
  · split_ifs at hs; cases hs; exact h

theorem Cached.removeAddress (hK : KeptRel env R) (h : Cached R s) {info : AddressInfo}
    (hs : s.removeAddress info = .ok s') : Cached R s' := by
  unfold Manager.removeAddress at hs
  split at hs
  · rename_i p hp
    obtain ⟨t, hw, rfl⟩ := Except.map_eq_ok.mp hs
    obtain ⟨e, he, rfl⟩ := withObj_eq_ok.mp hw
    obtain ⟨hl, rfl⟩ := findObj_spec he
    obtain ⟨a, ha, hr⟩ := h.mirror _ _ _ hp hl
    simp only [setObj_intfInfo, ha]
    exact h.setInfo_setObj hp hl (hK.eraseAddr _ a _ hr)
  · cases hs; exact h

theorem Cached.addNeighbor (hK : KeptRel env R) (h : Cached R s) {info : NeighborInfo}
    (hs : s.addNeighbor info = .ok s') : Cached R s' := by
  unfold Manager.addNeighbor at hs
  by_cases hp : info.state &&& nudPermanent = 0
  · rw [if_pos hp] at hs; cases hs; exact h
  rw [if_neg hp] at hs
  split at hs
  · cases hs; exact h
  · rename_i k hk
    split at hs
    · rename_i a ha
      exact h.forIdx ha hs fun o => hK.addNeigh o a info k hk
    · split_ifs at hs; cases hs; exact h

theorem Cached.removeNeighbor (hK : KeptRel env R) (h : Cached R s) {info : NeighborInfo}
    (hs : s.removeNeighbor info = .ok s') : Cached R s' := by
  unfold Manager.removeNeighbor at hs
  split at hs
  · cases hs; exact h
  · split at hs
    · rename_i a ha
      exact h.forIdx ha hs fun o => hK.eraseNeigh o a _
    · cases hs; exact h

theorem Cached.rthandler (h : Cached R s) {gw : Option (Nat × InAnyAddr)}
    {f : AllIntfInfo → InAnyAddr → AllIntfInfo}
    {g : EthernetInterface → InAnyAddr → EthernetInterface}
    (hfg : ∀ o r a, R o r → R (g o a) (f r a))
    (hs : Netlink.rthandler gw (fun i a => match s.intfInfo i with
      | some r => (s.setInfo i (f r a)).forIdx i (g · a)
      | none => .ok s) s = .ok s') :
    Cached R s' := by
  rcases gw with _ | ⟨i, a⟩
  · cases hs; exact h
  · simp only [Netlink.rthandler] at hs
    split at hs
    · rename_i r hr
      exact h.forIdx hr hs fun o => hfg o r a
    · cases hs; exact h

theorem Cached.handleAdminState (hK : KeptRel env R) (hk : InfoFiltered s.intfInfo)
    (h : Cached R s) {st : String} {i : Nat} (hs : s.handleAdminState env st i = .ok s') :
    Cached R s' := by
  rcases handleAdminState_cases env hs with ⟨_, rfl⟩ | ⟨a, b, ha, hs⟩
  · exact h.withEnabled _
  · exact (h.withEnabled _).createInterface hK (by rw [(hk i a ha).intf]; exact ha) hs

theorem Cached.catchStd (h : Cached R s) {r : Except Exn Manager}
    (hr : ∀ t, r = .ok t → Cached R t) (hc : Netlink.catchStd s r = .ok s') : Cached R s' := by
  rcases r with e | t
  · cases e <;> cases hc
    exact h
  · cases hc; exact hr _ rfl

/-- **A step keeps the cache**, from a registry whose records are filed under their indices. -/
theorem Cached.step (hK : KeptRel env R) (hk : InfoFiltered s.intfInfo) (h : Cached R s)
    {e : Event} (hs : step env s e = .ok s') : Cached R s' := by
  rcases e with (info | info | gw | gw | info | info | info | info) | ⟨st, i⟩
  · exact h.catchStd (fun _ ht => h.addInterface hK ht) hs
  · exact h.catchStd (fun _ ht => h.removeInterface ht) hs
  · exact h.catchStd (fun _ ht => h.rthandler hK.setDefGw ht) hs
  · exact h.catchStd (fun _ ht => h.rthandler hK.resetDefGw ht) hs
  · exact h.catchStd (fun _ ht => h.addAddress hK ht) hs
  · exact h.catchStd (fun _ ht => h.removeAddress hK ht) hs
  · exact h.catchStd (fun _ ht => h.addNeighbor hK ht) hs
  · exact h.catchStd (fun _ ht => h.removeNeighbor hK ht) hs
  · exact h.handleAdminState hK hk hs

end Ops

/-- Every update keeps an object caching its link's addresses and static neighbours. -/
theorem keptRel_caches : KeptRel env EthernetInterface.Caches where
  new _ _ _ := ⟨rfl, rfl⟩
  updateInfo _ _ _ h := h
  setIntf _ _ _ h := h
  addAddr _ _ _ h := ⟨by simp only [EthernetInterface.addAddr, h.1], h.2⟩
  eraseAddr _ _ _ h := ⟨by simp only [h.1], h.2⟩
  addNeigh o _ info k hk h := by
    simp only [EthernetInterface.addStaticNeigh, hk]
    exact ⟨h.1, by simp only [h.2]⟩
  eraseNeigh _ _ _ h := ⟨h.1, by simp only [h.2]⟩
  setDefGw _ _ _ h := ⟨by simp [h.1], by simp [h.2]⟩
  resetDefGw _ _ _ h := ⟨by simp [h.1], by simp [h.2]⟩

end Manager

/-- **Every reachable registry caches `R`**, for a relation `R` that every update keeps. -/
theorem Reachable.cached {env : Env} {R : EthernetInterface → AllIntfInfo → Prop}
    (hK : Manager.KeptRel env R) {s : Manager} (h : Reachable env s) : Manager.Cached R s := by
  induction h with
  | empty => exact .empty
  | step hr hs ih => exact ih.step hK hr.infoFiltered hs

/-- In every reachable registry no two names own objects at one address. -/
theorem Reachable.owned_inj {env : Env} {s : Manager} (h : Reachable env s) :
    ∀ n n' x x', s.interfaces.lookup n = some x → s.interfaces.lookup n' = some x' →
      x.addr = x'.addr → n = n' :=
  (h.cached (Manager.keptRel_caches env)).owned_inj

/-- **The object bound at a link caches the link's record.** In every reachable registry, the
object that owns the address bound at index `i` holds exactly the addresses and the static
neighbours of the record of link `i`: every change the kernel reports for a link reaches the
link's object, and no change for one link reaches another link's object. An object that
`createInterface` finds by name and reuses without binding it (lines 221-228) is bound at no
index, so nothing here holds of it, and it stops following any record. -/
theorem object_mirrors_record {env : Env} {s : Manager} (h : Reachable env s) {i : Nat}
    {n : String} {x : IntfPtr} (hb : s.interfacesByIdx i = some x.addr)
    (hx : s.interfaces.lookup n = some x) :
    ∃ a, s.intfInfo i = some a ∧ x.obj.addrs = a.addrs ∧ x.obj.staticNeighbors = a.staticNeighs :=
  (h.cached (Manager.keptRel_caches env)).mirror i n x hb hx

/-- Link 1 is managed, comes up as `eth0` and reports an address: the address reaches its
object, which holds what the link's record holds. -/
theorem object_mirrors_record_eth0 :
    ∃ s x, Reachable ⟨[], fun _ => ""⟩ s ∧ s.interfaces.lookup "eth0" = some x ∧
      s.interfacesByIdx 1 = some x.addr ∧
      x.obj.addrs (sampleAddr 1).ifaddr = some (sampleAddr 1) ∧
      ∃ a, s.intfInfo 1 = some a ∧ x.obj.addrs = a.addrs ∧
        x.obj.staticNeighbors = a.staticNeighs :=
  have hr := Reachable.run ⟨[], fun _ => ""⟩ .empty (rfl : run ⟨[], fun _ => ""⟩ Manager.empty
    [.adminState "configured" 1, .rtnetlink (.newLink (ether 1 "eth0")),
      .rtnetlink (.newAddr (sampleAddr 1))] = .ok _)
  ⟨_, _, hr, rfl, rfl, rfl, @object_mirrors_record _ _ hr 1 "eth0" _ rfl rfl⟩

end PhosphorNetworkd
