/-
# PhosphorNetworkd.Manager.Frame — what `createInterface` and a call through a pointer touch.

The two ways the registry reaches its objects, `createInterface` and a call through a
by-index pointer (`withObj`), change only the object pool: `interfaces`, `interfacesByIdx` and
the allocator (`PoolFrame`). `createInterface` is idempotent, whatever flag the second call
carries, because its first call leaves the link's object findable at its index or under its
name with the reported info; and the flag it is given reaches only the object it constructs
(`createInterface_shape`). It binds or unbinds only its link's index (`createInterface_byIdx`).

`addInterface_cases` and `handleAdminState_cases` say everything the two callers of
`createInterface` can do, guards included; the invariant proofs of the registry rest on them and
on these facts instead of unfolding the operations.
-/
import PhosphorNetworkd.Manager.Ops

namespace PhosphorNetworkd

namespace Manager

/-- `s'` differs from `s` at most in the object pool. -/
structure PoolFrame (s s' : Manager) : Prop where
  intfInfo : s'.intfInfo = s.intfInfo
  ignoredIntf : s'.ignoredIntf = s.ignoredIntf
  systemdNetworkdEnabled : s'.systemdNetworkdEnabled = s.systemdNetworkdEnabled

theorem PoolFrame.refl (s : Manager) : PoolFrame s s := ⟨rfl, rfl, rfl⟩

/-- What a registry is apart from the contents of its objects: its tables, its allocator, and
the address each name owns, in iteration order. -/
def shape (s : Manager) :
    List (String × Nat) × (Nat → Option Nat) × Finset Nat × (Nat → Option AllIntfInfo) ×
      (Nat → Option Bool) × Nat :=
  (s.interfaces.entries.map fun e => (e.1, e.2.addr), s.interfacesByIdx, s.ignoredIntf,
    s.intfInfo, s.systemdNetworkdEnabled, s.nextAddr)

variable (env : Env)

theorem setInfo_of_eq {s : Manager} {i : Nat} {a : AllIntfInfo} (h : s.intfInfo i = some a) :
    s.setInfo i a = s := by
  cases s
  simp_all [setInfo]

@[simp] theorem setInfo_setInfo (s : Manager) (i : Nat) (a a' : AllIntfInfo) :
    (s.setInfo i a).setInfo i a' = s.setInfo i a' := by
  simp [setInfo, Function.update_idem]

theorem linkInfo_intf (s : Manager) (info : InterfaceInfo) : (s.linkInfo info).intf = info := by
  unfold linkInfo
  split <;> rfl

/-- A link already recorded with this report is recorded again unchanged. -/
theorem linkInfo_of_eq {s : Manager} {info : InterfaceInfo} {a : AllIntfInfo}
    (h : s.intfInfo info.idx = some a) (hi : a.intf = info) : s.linkInfo info = a := by
  subst hi
  unfold linkInfo
  rw [h]

theorem withObj_poolFrame {s s' : Manager} {p : Nat} {f : EthernetInterface → EthernetInterface}
    (h : s.withObj p f = .ok s') : PoolFrame s s' := by
  obtain ⟨e, -, rfl⟩ := withObj_eq_ok.mp h
  exact ⟨rfl, rfl, rfl⟩

theorem forIdx_poolFrame {s s' : Manager} {i : Nat} {f : EthernetInterface → EthernetInterface}
    (h : s.forIdx i f = .ok s') : PoolFrame s s' := by
  rcases forIdx_eq_ok.mp h with ⟨-, rfl⟩ | ⟨p, e, -, -, rfl⟩ <;> exact ⟨rfl, rfl, rfl⟩

/-- **What `createInterface` can do**: nothing; refresh the info of an object it finds, at its
index or under the reported name; or construct a new object, after destroying and unbinding the
link's old one when the link was renamed. -/
theorem createInterface_cases {s s' : Manager} {a : AllIntfInfo} {b : Bool}
    (h : s.createInterface env a b = .ok s') :
    s' = s ∨
      (∃ e : IntfEntry, s.interfaces.lookup e.1 = some e.2 ∧
        s' = s.setObj e (e.2.obj.updateInfo a.intf)) ∨
      ∃ name t, s' = construct env a b name t ∧
        (t = s ∨ ∃ k, t = { s with
          interfaces := s.interfaces.erase k
          interfacesByIdx := Function.update s.interfacesByIdx a.intf.idx none }) := by
  unfold createInterface at h
  split_ifs at h
  · exact .inl (Except.ok.inj h).symm
  split at h
  · split at h
    · cases h
    · rename_i e he
      have hl := (findObj_spec he).1
      split at h
      · split_ifs at h
        · exact .inr (.inr ⟨_, _, (Except.ok.inj h).symm, .inr ⟨_, rfl⟩⟩)
        · exact .inr (.inl ⟨e, hl, (Except.ok.inj h).symm⟩)
      · exact .inr (.inl ⟨e, hl, (Except.ok.inj h).symm⟩)
  · split at h
    · split at h
      · rename_i n _ _ x hx
        exact .inr (.inl ⟨⟨n, x⟩, hx, (Except.ok.inj h).symm⟩)
      · exact .inr (.inr ⟨_, _, (Except.ok.inj h).symm, .inl rfl⟩)
    · exact .inl (Except.ok.inj h).symm

theorem createInterface_poolFrame {s s' : Manager} {a : AllIntfInfo} {b : Bool}
    (h : s.createInterface env a b = .ok s') : PoolFrame s s' := by
  rcases createInterface_cases env h with rfl | ⟨e, -, rfl⟩ | ⟨name, t, rfl, rfl | ⟨k, rfl⟩⟩ <;>
    exact ⟨rfl, rfl, rfl⟩

/-- `createInterface` binds or unbinds only its link's index. -/
theorem createInterface_byIdx {s s' : Manager} {a : AllIntfInfo} {b : Bool}
    (h : s.createInterface env a b = .ok s') {j : Nat} (hj : j ≠ a.intf.idx) :
    s'.interfacesByIdx j = s.interfacesByIdx j := by
  rcases createInterface_cases env h with rfl | ⟨e, -, rfl⟩ | ⟨name, t, rfl, rfl | ⟨k, rfl⟩⟩
  · rfl
  · rfl
  all_goals simp [hj]

/-- **What `addInterface` can do**: mark a link that is not Ethernet or is ignored by name as
ignored; otherwise record it and, if a supervisor state is recorded for it, hand the record to
`createInterface` with that state. -/
theorem addInterface_cases {s s' : Manager} {info : InterfaceInfo}
    (h : s.addInterface env info = .ok s') :
    ((info.type ≠ arphrdEther ∨ env.ignores info.name) ∧
        s' = { s with ignoredIntf := insert info.idx s.ignoredIntf }) ∨
      ¬ (info.type ≠ arphrdEther ∨ env.ignores info.name) ∧
        ((s.systemdNetworkdEnabled info.idx = none ∧ s' = s.setInfo info.idx (s.linkInfo info)) ∨
          ∃ b, s.systemdNetworkdEnabled info.idx = some b ∧
            (s.setInfo info.idx (s.linkInfo info)).createInterface env (s.linkInfo info) b =
              .ok s') := by
  unfold addInterface at h
  split_ifs at h with ht hn
  · exact .inl ⟨.inl ht, (Except.ok.inj h).symm⟩
  · exact .inl ⟨.inr hn, (Except.ok.inj h).symm⟩
  · refine .inr ⟨not_or.mpr ⟨ht, hn⟩, ?_⟩
    dsimp only at h
    split at h
    · rename_i b hb
      exact .inr ⟨b, hb, h⟩
    · rename_i hb
      exact .inl ⟨hb, (Except.ok.inj h).symm⟩

/-- **What `handleAdminState` can do**: rewrite the recorded supervisor states and, for a link
with a record, hand the record to `createInterface` with the reported state. -/
theorem handleAdminState_cases {s s' : Manager} {st : String} {i : Nat}
    (h : s.handleAdminState env st i = .ok s') :
    (∃ e, s' = { s with systemdNetworkdEnabled := e }) ∨
      ∃ a b, s.intfInfo i = some a ∧ createInterface env a b
        { s with systemdNetworkdEnabled := Function.update s.systemdNetworkdEnabled i (some b) } =
          .ok s' := by
  unfold handleAdminState at h
  split_ifs at h
  · exact .inl ⟨_, (Except.ok.inj h).symm⟩
  · dsimp only at h
    split at h
    · rename_i a ha
      exact .inr ⟨a, _, ha, h⟩
    · exact .inl ⟨_, (Except.ok.inj h).symm⟩

/-- A report for a link with no record only records the supervisor state. -/
theorem handleAdminState_unrecorded {s : Manager} {st : String} {i : Nat}
    (hi : s.intfInfo i = none) :
    s.handleAdminState env st i = .ok
      { s with
        systemdNetworkdEnabled := Function.update s.systemdNetworkdEnabled i
          (if st = "initialized" ∨ st = "linger" then none else some (decide (st ≠ "unmanaged"))) } := by
  unfold handleAdminState
  split_ifs <;> simp [hi]

/-! ## Operations that never throw

Only `addAddress` and `addNeighbor` throw a `std::runtime_error`; every other operation either
returns or stops with an abort or undefined behaviour, so the `catch` of `netlink::handler`
passes its result through (`Netlink.catchStd_of_noThrow`). -/

/-- `r` is not a thrown `std::runtime_error`. -/
def NoThrow (r : Except Exn Manager) : Prop := ∀ w, r ≠ .error (.runtimeError w)

theorem withObj_noThrow (s : Manager) (p : Nat) (f : EthernetInterface → EthernetInterface) :
    NoThrow (s.withObj p f) := by
  intro w; unfold withObj; split <;> simp

theorem forIdx_noThrow (s : Manager) (i : Nat) (f : EthernetInterface → EthernetInterface) :
    NoThrow (s.forIdx i f) := by
  intro w; unfold forIdx; split
  · exact withObj_noThrow s _ f w
  · simp

theorem createInterface_noThrow (a : AllIntfInfo) (b : Bool) (s : Manager) :
    NoThrow (s.createInterface env a b) := by
  intro w; unfold createInterface; split_ifs <;> (repeat' split) <;> simp

theorem addInterface_noThrow (info : InterfaceInfo) (s : Manager) :
    NoThrow (s.addInterface env info) := by
  intro w; unfold addInterface; split_ifs
  · simp
  · simp
  · dsimp only; split
    · exact createInterface_noThrow env _ _ _ w
    · simp

theorem removeInterface_noThrow (info : InterfaceInfo) (s : Manager) :
    NoThrow (s.removeInterface info) := by
  intro w; unfold removeInterface removeTarget
  split <;> (repeat' split) <;> simp [Except.map]

theorem removeAddress_noThrow (info : AddressInfo) (s : Manager) :
    NoThrow (s.removeAddress info) := by
  intro w; unfold removeAddress; split
  · rename_i p _
    have := withObj_noThrow s p (fun o => { o with addrs := Function.update o.addrs info.ifaddr none }) w
    revert this
    cases s.withObj _ _ <;> simp [Except.map]
  · simp

theorem removeNeighbor_noThrow (info : NeighborInfo) (s : Manager) :
    NoThrow (s.removeNeighbor info) := by
  intro w; unfold removeNeighbor; (repeat' split) <;> simp [forIdx_noThrow _ _ _ w]

theorem addDefGw_noThrow (i : Nat) (g : InAnyAddr) (s : Manager) : NoThrow (s.addDefGw env i g) := by
  intro w; unfold addDefGw; split <;> simp [forIdx_noThrow _ _ _ w]

theorem removeDefGw_noThrow (i : Nat) (g : InAnyAddr) (s : Manager) :
    NoThrow (s.removeDefGw env i g) := by
  intro w; unfold removeDefGw; split <;> simp [forIdx_noThrow _ _ _ w]

/-- The object `construct` registers is the first one found at its address. -/
@[simp] theorem findObj_construct (a : AllIntfInfo) (b : Bool) (n : String) (s : Manager) :
    (construct env a b n s).findObj s.nextAddr =
      some ⟨n, ⟨s.nextAddr, .new env.toStr a n b⟩⟩ := by
  simp [findObj, construct, AList.insert_entries]

@[simp] theorem setObj_construct (a : AllIntfInfo) (b : Bool) (n : String) (s : Manager) :
    (construct env a b n s).setObj ⟨n, ⟨s.nextAddr, .new env.toStr a n b⟩⟩
      (.new env.toStr a n b) = construct env a b n s := by
  simp [setObj, construct, AList.insert_insert]

/-- **`createInterface` is idempotent**, and a repeated call ignores its flag: after the first
call the link's object is found, under the reported name, with the reported info. -/
theorem createInterface_createInterface (a : AllIntfInfo) (b b' : Bool) (s : Manager) :
    (s.createInterface env a b).bind (·.createInterface env a b') = s.createInterface env a b := by
  unfold createInterface
  split_ifs with hig
  · simp [Except.bind, createInterface, hig]
  split
  · rename_i p hp
    split
    · rfl
    · rename_i e he
      obtain ⟨-, rfl⟩ := findObj_spec he
      split
      · rename_i n hn
        split_ifs with hne
        · simp [Except.bind, createInterface, hig, hn]
        · simp [Except.bind, createInterface, hig, hn, hp, hne]
      · rename_i hn
        simp [Except.bind, createInterface, hig, hn, hp]
  · rename_i hp
    split
    · rename_i n hn
      split
      · rename_i x hx
        simp [Except.bind, createInterface, hig, hn, hp, setObj, AList.lookup_insert,
          AList.insert_insert]
      · simp [Except.bind, createInterface, hig, hn]
    · simp [Except.bind, createInterface, hig, hp]

/-- **The flag reaches only the object `createInterface` constructs.** -/
theorem createInterface_shape (a : AllIntfInfo) (b b' : Bool) (s : Manager) :
    (s.createInterface env a b).map shape = (s.createInterface env a b').map shape := by
  unfold createInterface
  split_ifs
  · rfl
  all_goals (repeat' split) <;> simp [Except.map, shape, construct, AList.insert_entries]

end Manager

end PhosphorNetworkd
