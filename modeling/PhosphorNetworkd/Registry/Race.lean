/-
# PhosphorNetworkd.Registry.Race — a `NEWLINK` and a supervisor report for one link, in either order.

The kernel's `NEWLINK` and the link supervisor's `AdministrativeState` report reach the registry
through two callbacks that are not ordered with respect to each other. On a reachable registry
coherent with the kernel's live links, for a `NEWLINK` the kernel can emit, the race is harmless
(`addInterface_handleAdminState`): whichever comes first, the registry ends with the same names
owning objects, each bound at the same indices, and the same `intfInfo`, `ignoredIntf` and
`systemdNetworkdEnabled` (`SamePool`). The orders may differ in the addresses the pool hands
out and in what the objects hold.

Three things break it (`addInterface_handleAdminState_race`). A withdrawal (`initialized`,
`linger`) that meets a recorded state keeps the `NEWLINK` from creating the object it would
have created. A `NEWLINK` that the ignore list catches, for a link with a record, comes too late
for the object the report creates from the record. And on a registry that a rename of a
withdrawn link has put out of step with the live links (`removeInterface_desync`), the report
hands `createInterface` a name that another link's stale object holds.

Both orders are `createInterface` calls on the link's records (`addInterface_then_report`,
`report_then_addInterface`). The `NEWLINK` first hands over the new record, with the recorded flag
and then the reported one; the second call finds what the first left, and the first call's flag
reaches only the object it builds. The report first hands over the old record and then the new
one. For a link with a record one lemma about `createInterface` closes the gap
(`createInterface_absorb`): the old record and then the new one end with the pool the new one
alone gives, when the object bound at the link's index is filed under the old name and, when there
is none, neither name owns an object. Coherence gives both.

The ignore branch of `addInterface` only records the index: renaming a managed link onto an
ignored name leaves the index both ignored and tracked (`ignored_overlaps`).
-/
import PhosphorNetworkd.Registry.Coherence

namespace PhosphorNetworkd

namespace Manager

/-- The object that `s` owns under the name `n` is the one bound at index `i`. -/
def BoundAt (s : Manager) (i : Nat) (n : String) : Prop :=
  ∃ x, s.interfaces.lookup n = some x ∧ s.interfacesByIdx i = some x.addr

/-- `r` and `r'` hold the same object pool as far as names show it, and the same tables: the
same names in `interfaces`, in the same order, each bound at the same indices, and the same
`intfInfo`, `ignoredIntf` and `systemdNetworkdEnabled`. The addresses of the objects and what
they hold are not compared. -/
structure SamePool (r r' : Manager) : Prop where
  names : r.interfaces.keys = r'.interfaces.keys
  boundAt : ∀ i n, r.BoundAt i n ↔ r'.BoundAt i n
  intfInfo : r.intfInfo = r'.intfInfo
  ignoredIntf : r.ignoredIntf = r'.ignoredIntf
  systemdNetworkdEnabled : r.systemdNetworkdEnabled = r'.systemdNetworkdEnabled

/-! ## §1 — the pool as names show it -/

theorem boundAt_iff {s : Manager} {i : Nat} {n : String} :
    s.BoundAt i n ↔ ∃ p, (n, p) ∈ s.interfaces.entries.map (fun e => (e.1, e.2.addr)) ∧
      s.interfacesByIdx i = some p := by
  constructor
  · rintro ⟨x, hx, hb⟩
    exact ⟨x.addr, List.mem_map.mpr ⟨⟨n, x⟩, AList.mem_lookup_iff.mp hx, rfl⟩, hb⟩
  · rintro ⟨p, hp, hb⟩
    obtain ⟨⟨m, x⟩, hx, he⟩ := List.mem_map.mp hp
    obtain ⟨rfl, rfl⟩ := Prod.mk.inj he
    exact ⟨x, AList.mem_lookup_iff.mpr hx, hb⟩

/-- Filing an object under `y` at an address `q` above every address in use, and binding `i` to
it: which name is bound where does not depend on `q`. -/
theorem boundAt_insert {r s : Manager} {i q : Nat} {y : String} {o : EthernetInterface}
    (hI : r.interfaces = s.interfaces.insert y ⟨q, o⟩)
    (hB : r.interfacesByIdx = Function.update s.interfacesByIdx i (some q))
    (hlt : ∀ j p, s.interfacesByIdx j = some p → p < q)
    (hlt' : ∀ n v, s.interfaces.lookup n = some v → v.addr < q) (j : Nat) (n : String) :
    r.BoundAt j n ↔ (n = y ∧ j = i) ∨ (n ≠ y ∧ j ≠ i ∧ s.BoundAt j n) := by
  unfold BoundAt
  rw [hI, hB]
  by_cases hn : n = y <;> by_cases hj : j = i
  · subst hn hj
    simp
  · subst hn
    simp only [AList.lookup_insert, Function.update_noteq hj, Option.some.injEq, exists_eq_left',
      hj, and_false, ne_eq, not_true_eq_false, false_and, or_self, iff_false]
    exact fun h => lt_irrefl q (hlt j q h)
  · subst hj
    simp only [AList.lookup_insert_ne hn, Function.update_same, Option.some.injEq, hn, and_true,
      false_and, ne_eq, not_true_eq_false, and_false, or_self, iff_false, not_exists, not_and]
    exact fun v hv hq => (hlt' n v hv).ne hq.symm
  · simp [hn, hj, AList.lookup_insert_ne hn, Function.update_noteq hj]

namespace SamePool

variable {r r' r'' : Manager}

theorem refl (r : Manager) : SamePool r r := ⟨rfl, fun _ _ => .rfl, rfl, rfl, rfl⟩

theorem symm (h : SamePool r r') : SamePool r' r :=
  ⟨h.names.symm, fun i n => (h.boundAt i n).symm, h.intfInfo.symm, h.ignoredIntf.symm,
    h.systemdNetworkdEnabled.symm⟩

theorem trans (h : SamePool r r') (h' : SamePool r' r'') : SamePool r r'' :=
  ⟨h.names.trans h'.names, fun i n => (h.boundAt i n).trans (h'.boundAt i n),
    h.intfInfo.trans h'.intfInfo, h.ignoredIntf.trans h'.ignoredIntf,
    h.systemdNetworkdEnabled.trans h'.systemdNetworkdEnabled⟩

/-- Registries of one shape hold the same pool. -/
theorem of_shape (h : shape r = shape r') : SamePool r r' := by
  simp only [shape, Prod.mk.injEq] at h
  obtain ⟨he, hb, hg, hi, hs, -⟩ := h
  refine ⟨?_, fun i n => by rw [boundAt_iff, boundAt_iff, he, hb], hi, hg, hs⟩
  simpa [AList.keys, List.keys, Function.comp_def] using congrArg (List.map Prod.fst) he

theorem setInfo (h : SamePool r r') (i : Nat) (a : AllIntfInfo) :
    SamePool (r.setInfo i a) (r'.setInfo i a) :=
  ⟨h.names, h.boundAt, by simp only [Manager.setInfo, h.intfInfo],
    h.ignoredIntf,
    h.systemdNetworkdEnabled⟩

theorem withEnabled (h : SamePool r r') (f : Nat → Option Bool) :
    SamePool { r with systemdNetworkdEnabled := f } { r' with systemdNetworkdEnabled := f } :=
  ⟨h.names, h.boundAt, h.intfInfo, h.ignoredIntf, rfl⟩

end SamePool

variable (env : Env)

/-! ## §2 — spec lemmas -/

/-- `createInterface` neither reads nor writes `systemdNetworkdEnabled`. -/
theorem createInterface_withEnabled (f : Nat → Option Bool) (a : AllIntfInfo) (b : Bool)
    (s : Manager) :
    createInterface env a b { s with systemdNetworkdEnabled := f } =
      (createInterface env a b s).map fun r => { r with systemdNetworkdEnabled := f } := by
  unfold createInterface
  simp only [findObj]
  split_ifs
  · rfl
  all_goals (repeat' split) <;> rfl

/-- `createInterface` neither reads nor writes `intfInfo`. -/
theorem createInterface_setInfo (i : Nat) (c a : AllIntfInfo) (b : Bool) (s : Manager) :
    createInterface env a b (s.setInfo i c) = (createInterface env a b s).map (·.setInfo i c) := by
  unfold createInterface
  simp only [findObj, setInfo]
  split_ifs
  · rfl
  all_goals (repeat' split) <;> rfl

/-- `createInterface` returns when the link's binding, if it has one, reaches an owned object. -/
theorem createInterface_ok {s : Manager} {a : AllIntfInfo} (b : Bool)
    (h : ∀ p, s.interfacesByIdx a.intf.idx = some p → s.Owns p) :
    ∃ t, s.createInterface env a b = .ok t := by
  unfold createInterface
  split_ifs
  · exact ⟨s, rfl⟩
  split
  · rename_i p hp
    obtain ⟨e, he⟩ := Option.isSome_iff_exists.mp (owns_iff_findObj.mp (h p hp))
    simp only [he]
    split
    · split_ifs <;> exact ⟨_, rfl⟩
    · exact ⟨_, rfl⟩
  · (repeat' split) <;> exact ⟨_, rfl⟩

/-- A report that is not a withdrawal, for a recorded link, is `createInterface` on the record
with the reported flag, the state recorded around it. -/
theorem handleAdminState_recorded {s : Manager} {st : String} {i : Nat} {a : AllIntfInfo}
    (ha : s.intfInfo i = some a) (hw : ¬ (st = "initialized" ∨ st = "linger")) :
    s.handleAdminState env st i = (s.createInterface env a (decide (st ≠ "unmanaged"))).map
      fun r => { r with
        systemdNetworkdEnabled :=
          Function.update s.systemdNetworkdEnabled i (some (decide (st ≠ "unmanaged"))) } := by
  unfold handleAdminState
  rw [if_neg hw]
  dsimp only
  simp only [ha]
  exact createInterface_withEnabled env _ a _ s

/-- A withdrawal for a link with no supervisor state changes nothing. -/
theorem handleAdminState_withdrawn {s : Manager} {st : String} {i : Nat}
    (hw : st = "initialized" ∨ st = "linger") (hn : s.systemdNetworkdEnabled i = none) :
    s.handleAdminState env st i = .ok s := by
  unfold handleAdminState
  rw [if_pos hw, ← hn, Function.update_eq_self]

theorem addInterface_of_ignored {info : InterfaceInfo}
    (hT : info.type ≠ arphrdEther ∨ env.ignores info.name) (s : Manager) :
    s.addInterface env info = .ok { s with ignoredIntf := insert info.idx s.ignoredIntf } := by
  unfold addInterface
  rcases hT with h | h <;> simp [h]

/-- A `NEWLINK` of a tracked link records it and, when the supervisor state is known, hands the
record to `createInterface` with it. -/
theorem addInterface_tracked {info : InterfaceInfo}
    (hT : ¬ (info.type ≠ arphrdEther ∨ env.ignores info.name)) (s : Manager) :
    s.addInterface env info =
      (s.systemdNetworkdEnabled info.idx).elim (.ok (s.setInfo info.idx (s.linkInfo info)))
        fun b => (s.setInfo info.idx (s.linkInfo info)).createInterface env (s.linkInfo info) b := by
  obtain ⟨hT1, hT2⟩ := not_or.mp hT
  simp only [addInterface, hT1, hT2, Bool.false_eq_true, if_false, setInfo_systemdNetworkdEnabled]
  cases s.systemdNetworkdEnabled info.idx <;> rfl

theorem linkInfo_of_some {s : Manager} {info : InterfaceInfo} {a : AllIntfInfo}
    (h : s.intfInfo info.idx = some a) : s.linkInfo info = { a with intf := info } := by
  rw [linkInfo, h]

@[simp] theorem linkInfo_withEnabled (s : Manager) (f : Nat → Option Bool) (info : InterfaceInfo) :
    ({ s with systemdNetworkdEnabled := f } : Manager).linkInfo info = s.linkInfo info := rfl

/-- A `NEWLINK` of a tracked link with a record and a supervisor state hands the refreshed
record to `createInterface` with that state. -/
theorem addInterface_recorded {info : InterfaceInfo}
    (hT : ¬ (info.type ≠ arphrdEther ∨ env.ignores info.name)) {s : Manager} {a : AllIntfInfo}
    (ha : s.intfInfo info.idx = some a) {b : Bool} (hb : s.systemdNetworkdEnabled info.idx = some b) :
    s.addInterface env info =
      (s.setInfo info.idx { a with intf := info }).createInterface env { a with intf := info } b := by
  rw [addInterface_tracked env hT, linkInfo_of_some ha, hb]
  rfl

/-! ## §3 — the old record, then the new one -/

theorem erase_insert_self (l : AList fun _ : String => IntfPtr) (n : String) (v : IntfPtr) :
    (l.insert n v).erase n = l.erase n :=
  AList.ext (List.kerase_cons_eq rfl : List.kerase n (⟨n, v⟩ :: l.entries.kerase n) = _)

theorem erase_of_lookup {l : AList fun _ : String => IntfPtr} {n : String}
    (h : l.lookup n = none) : l.erase n = l :=
  AList.ext <| List.kerase_of_not_mem_keys (AList.lookup_eq_none.mp h)

/-- The refresh of the object bound at a link, filed under its own name, is lost in the next
`createInterface` for the link, which refreshes or replaces that object itself. -/
theorem createInterface_setObj {s : Manager} {a : AllIntfInfo} {b : Bool} {e : IntfEntry}
    (c : InterfaceInfo) (hig : a.intf.idx ∉ s.ignoredIntf)
    (hb : s.interfacesByIdx a.intf.idx = some e.2.addr) (he : s.findObj e.2.addr = some e)
    (hn : e.2.obj.interfaceName = e.1) :
    (s.setObj e (e.2.obj.updateInfo c)).createInterface env a b = s.createInterface env a b := by
  unfold createInterface
  simp only [setObj_ignoredIntf, setObj_interfacesByIdx, hig, if_false, hb, findObj_setObj, he,
    EthernetInterface.updateInfo_interfaceName]
  split
  · split_ifs
    · simp only [setObj, hn, erase_insert_self]
    · simp only [setObj_setObj, EthernetInterface.updateInfo_updateInfo]
  · simp only [setObj_setObj, EthernetInterface.updateInfo_updateInfo]

/-- **The old record, then the new one, is the new one alone.** Handing link `a.intf.idx` its
old record `a` and then its new record `a'` ends with the pool that handing over `a'` alone
gives, when the object bound at the link's index is filed under the old record's name `x` and,
when the link has no object, neither `x` nor the new name `y` owns one. -/
theorem createInterface_absorb {s : Manager} (a a' : AllIntfInfo) {x y : String} (m : Bool)
    (hidx : a'.intf.idx = a.intf.idx) (hx : a.intf.name = some x) (hy : a'.intf.name = some y)
    (hbound : ∀ p, s.interfacesByIdx a.intf.idx = some p →
      ∃ v, s.findObj p = some ⟨x, v⟩ ∧ v.obj.interfaceName = x)
    (hfree : s.interfacesByIdx a.intf.idx = none →
      s.interfaces.lookup x = none ∧ s.interfaces.lookup y = none)
    (hlt : ∀ j p, s.interfacesByIdx j = some p → p < s.nextAddr)
    (hlt' : ∀ n v, s.interfaces.lookup n = some v → v.addr < s.nextAddr) :
    ∃ r r', (s.createInterface env a m).bind (·.createInterface env a' m) = .ok r ∧
      s.createInterface env a' m = .ok r' ∧ SamePool r r' := by
  by_cases hig : a.intf.idx ∈ s.ignoredIntf
  · -- an ignored link: both calls leave the registry alone
    have h0 : ∀ c : AllIntfInfo, c.intf.idx = a.intf.idx → s.createInterface env c m = .ok s :=
      fun c hc => by simp [createInterface, hc, hig]
    exact ⟨s, s, by rw [h0 a rfl]; exact h0 a' hidx, h0 a' hidx, .refl s⟩
  have hig' : a'.intf.idx ∉ s.ignoredIntf := hidx ▸ hig
  cases hb : s.interfacesByIdx a.intf.idx with
  | some p =>
    -- the link's object is refreshed, and the refresh is lost in the second call
    obtain ⟨v, hf, hv⟩ := hbound p hb
    obtain rfl := (findObj_spec hf).2
    obtain ⟨r', hr'⟩ := createInterface_ok env m fun q hq => ⟨x, v, (findObj_spec hf).1,
      Option.some_inj.mp ((hidx ▸ hb).symm.trans hq)⟩
    have h1 : s.createInterface env a m = .ok (s.setObj ⟨x, v⟩ (v.obj.updateInfo a.intf)) := by
      simp [createInterface, hig, hb, hf, hx, hv]
    refine ⟨r', r', ?_, hr', .refl r'⟩
    rw [h1]
    exact (@createInterface_setObj env s a' m ⟨x, v⟩ a.intf hig' (hidx ▸ hb) hf hv).trans hr'
  | none =>
    -- the first call constructs the object under `x`, which the second refreshes or renames
    obtain ⟨hlx, hly⟩ := hfree hb
    have h1 : s.createInterface env a m = .ok (construct env a m x s) := by
      simp [createInterface, hig, hb, hx, hlx]
    have hr' : s.createInterface env a' m = .ok (construct env a' m y s) := by
      simp [createInterface, hig, hidx, hb, hy, hly]
    rw [h1]
    by_cases hyx : y = x
    · -- the name stays: the object is refreshed
      subst hyx
      refine ⟨(construct env a m y s).setObj ⟨y, ⟨s.nextAddr, .new env.toStr a y m⟩⟩
          ((EthernetInterface.new env.toStr a y m).updateInfo a'.intf), _, ?_, hr', .of_shape ?_⟩
      · simp [Except.bind, createInterface, hidx, hig, hy]
      · simp [shape, construct, setObj, AList.insert_entries, hidx]
    · -- a new name: the object is rebuilt under it, one address on
      refine ⟨{ s with
          interfaces := s.interfaces.insert y ⟨s.nextAddr + 1, .new env.toStr a' y m⟩
          interfacesByIdx := Function.update s.interfacesByIdx a.intf.idx (some (s.nextAddr + 1))
          nextAddr := s.nextAddr + 2 }, _, ?_, hr', ⟨?_, fun j n => ?_, rfl, rfl, rfl⟩⟩
      · simp only [Except.bind, createInterface, construct_ignoredIntf, hidx, hig, if_false,
          construct_interfacesByIdx, Function.update_same, findObj_construct, hy,
          EthernetInterface.new_interfaceName, ne_eq, hyx, not_false_eq_true, if_true]
        simp only [construct, erase_insert_self, erase_of_lookup hlx, Function.update_idem, hidx]
      · simp [construct]
      · rw [boundAt_insert rfl rfl (fun j p h => Nat.lt_succ_of_lt (hlt j p h))
            (fun n v h => Nat.lt_succ_of_lt (hlt' n v h)),
          @boundAt_insert (construct env a' m y s) s a.intf.idx s.nextAddr y _ rfl
            (by simp only [construct, hidx]) hlt hlt' j n]

/-! ## §4 — the two orders -/

section Orders

variable {env} {info : InterfaceInfo} {st : String} {s : Manager}

/-- A `NEWLINK` that the ignore list catches and a report, for a link with no record, touch one
table each. -/
theorem ignored_commutes (hT : info.type ≠ arphrdEther ∨ env.ignores info.name)
    (hi : s.intfInfo info.idx = none) :
    ∃ r, (s.addInterface env info).bind (·.handleAdminState env st info.idx) = .ok r ∧
      (s.handleAdminState env st info.idx).bind (·.addInterface env info) = .ok r := by
  rw [addInterface_of_ignored env hT, handleAdminState_unrecorded env hi]
  exact ⟨_, @handleAdminState_unrecorded env _ st info.idx hi, addInterface_of_ignored env hT _⟩

/-- A withdrawal for a link with no supervisor state changes nothing, before or after the
`NEWLINK`. -/
theorem withdrawal_commutes (hT : ¬ (info.type ≠ arphrdEther ∨ env.ignores info.name))
    (hW : st = "initialized" ∨ st = "linger") (hn : s.systemdNetworkdEnabled info.idx = none) :
    (s.addInterface env info).bind (·.handleAdminState env st info.idx) =
        .ok (s.setInfo info.idx (s.linkInfo info)) ∧
      (s.handleAdminState env st info.idx).bind (·.addInterface env info) =
        .ok (s.setInfo info.idx (s.linkInfo info)) := by
  constructor
  · rw [addInterface_tracked env hT, hn]
    exact @handleAdminState_withdrawn env _ st info.idx hW hn
  · rw [handleAdminState_withdrawn env hW hn]
    show s.addInterface env info = _
    rw [addInterface_tracked env hT, hn]
    rfl

/-- The `NEWLINK` first: `createInterface` on the link's new record, with the recorded flag if
there is one, and then with the reported flag, which finds what the first call left; the first
call's flag reaches only the object it builds. -/
theorem addInterface_then_report (hT : ¬ (info.type ≠ arphrdEther ∨ env.ignores info.name))
    (hW : ¬ (st = "initialized" ∨ st = "linger")) {r0 : Manager}
    (h0 : s.createInterface env (s.linkInfo info) (decide (st ≠ "unmanaged")) = .ok r0) :
    ∃ r, SamePool r r0 ∧ (s.addInterface env info).bind (·.handleAdminState env st info.idx) =
      .ok { r.setInfo info.idx (s.linkInfo info) with
        systemdNetworkdEnabled := Function.update s.systemdNetworkdEnabled info.idx
          (some (decide (st ≠ "unmanaged"))) } := by
  rw [addInterface_tracked env hT]
  cases hb : s.systemdNetworkdEnabled info.idx with
  | none =>
    refine ⟨r0, .refl r0,
      (@handleAdminState_recorded env _ st info.idx (s.linkInfo info) ?_ hW).trans ?_⟩
    · simp
    rw [createInterface_setInfo, h0]
    rfl
  | some b =>
    -- the first call's object is found again, whatever flag it was built with
    obtain ⟨r1, h1, hs⟩ := Except.map_eq_ok.mp
      ((createInterface_shape env (s.linkInfo info) b _ s).trans (by rw [h0]; rfl))
    have h11 : r1.createInterface env (s.linkInfo info) (decide (st ≠ "unmanaged")) = .ok r1 := by
      simpa [h1, Except.bind] using
        createInterface_createInterface env (s.linkInfo info) b (decide (st ≠ "unmanaged")) s
    refine ⟨r1, .of_shape hs, ?_⟩
    simp only [Option.elim]
    rw [createInterface_setInfo, h1]
    refine (@handleAdminState_recorded env _ st info.idx (s.linkInfo info) ?_ hW).trans ?_
    · simp
    rw [createInterface_setInfo, h11]
    simp only [Except.map, setInfo, (createInterface_poolFrame env h1).systemdNetworkdEnabled]

/-- The report first, for a link with no record: it records the state, and the `NEWLINK` hands
its new record to `createInterface` with it. -/
theorem report_then_addInterface_unrecorded
    (hT : ¬ (info.type ≠ arphrdEther ∨ env.ignores info.name)) (hi : s.intfInfo info.idx = none)
    (hW : ¬ (st = "initialized" ∨ st = "linger")) :
    (s.handleAdminState env st info.idx).bind (·.addInterface env info) =
      (s.createInterface env (s.linkInfo info) (decide (st ≠ "unmanaged"))).map fun r =>
        { r.setInfo info.idx (s.linkInfo info) with
          systemdNetworkdEnabled := Function.update s.systemdNetworkdEnabled info.idx
            (some (decide (st ≠ "unmanaged"))) } := by
  rw [handleAdminState_unrecorded env hi, if_neg hW]
  refine (addInterface_tracked env hT _).trans ?_
  simp only [linkInfo_withEnabled, Function.update_same, Option.elim]
  rw [createInterface_setInfo, createInterface_withEnabled]
  cases s.createInterface env (s.linkInfo info) (decide (st ≠ "unmanaged")) <;> rfl

/-- For a link with no record, both orders return when the link's binding reaches an object,
and hold the same pool. -/
theorem report_commutes_unrecorded {k : LiveLinks} (ht : Tables k s)
    (hT : ¬ (info.type ≠ arphrdEther ∨ env.ignores info.name)) (hi : s.intfInfo info.idx = none)
    (hW : ¬ (st = "initialized" ∨ st = "linger")) :
    ∃ r r', (s.addInterface env info).bind (·.handleAdminState env st info.idx) = .ok r ∧
      (s.handleAdminState env st info.idx).bind (·.addInterface env info) = .ok r' ∧
      SamePool r r' := by
  obtain ⟨r0, h0⟩ : ∃ r0, s.createInterface env (s.linkInfo info) (decide (st ≠ "unmanaged")) =
      .ok r0 := createInterface_ok env _ fun _ hp => ht.owns hp
  obtain ⟨r, hr, hA⟩ := addInterface_then_report hT hW h0
  exact ⟨_, _, hA, by rw [report_then_addInterface_unrecorded hT hi hW, h0]; rfl,
    (hr.setInfo _ _).withEnabled _⟩

/-- The report first, for a recorded link: `createInterface` on the old record `a` with the
reported flag, then the `NEWLINK`'s `createInterface` on the new record with it. -/
theorem report_then_addInterface (hT : ¬ (info.type ≠ arphrdEther ∨ env.ignores info.name))
    {a : AllIntfInfo} (ha : s.intfInfo info.idx = some a)
    (hW : ¬ (st = "initialized" ∨ st = "linger")) :
    (s.handleAdminState env st info.idx).bind (·.addInterface env info) =
      ((s.createInterface env a (decide (st ≠ "unmanaged"))).bind
        (·.createInterface env { a with intf := info } (decide (st ≠ "unmanaged")))).map fun r =>
          { r.setInfo info.idx { a with intf := info } with
            systemdNetworkdEnabled := Function.update s.systemdNetworkdEnabled info.idx
              (some (decide (st ≠ "unmanaged"))) } := by
  rw [handleAdminState_recorded env ha hW]
  cases h : s.createInterface env a (decide (st ≠ "unmanaged")) with
  | error e => rfl
  | ok r =>
    refine (@addInterface_recorded env info hT _ a ?_ _ (Function.update_same _ _ _)).trans ?_
    · exact (congrFun (createInterface_poolFrame env h).intfInfo _).trans ha
    rw [createInterface_setInfo, createInterface_withEnabled]
    show _ = Except.map _ (r.createInterface env _ _)
    cases r.createInterface env { a with intf := info } (decide (st ≠ "unmanaged")) <;> rfl

/-- **For a recorded link the race is harmless** on a reachable registry coherent with the live
links, for a `NEWLINK` the kernel can emit and a report that is not a withdrawal: the record's
name is the one the link's object is filed under, and when the link has no object neither that
name nor the new one owns one. -/
theorem report_commutes_recorded {k : LiveLinks} (hr : Reachable env s) (hc : Coherent k s)
    (hk : k.Distinct) (hadm : k.admits (.rtnetlink (.newLink info)) = true)
    (hT : ¬ (info.type ≠ arphrdEther ∨ env.ignores info.name)) {a : AllIntfInfo}
    (ha : s.intfInfo info.idx = some a) (hW : ¬ (st = "initialized" ∨ st = "linger")) :
    ∃ r r', (s.addInterface env info).bind (·.handleAdminState env st info.idx) = .ok r ∧
      (s.handleAdminState env st info.idx).bind (·.addInterface env info) = .ok r' ∧
      SamePool r r' := by
  -- the record's name `x` is live at the link, and no other live link holds the new name `y`
  obtain ⟨x, hx, hxk⟩ := hc.recorded _ a ha
  have hai : a.intf.idx = info.idx := (hr.infoFiltered info.idx a ha).intf
  rcases hy : info.name with _ | y
  · simp [LiveLinks.admits, hy] at hadm
  have hfy : ∀ l ∈ k, l.1 = info.idx ∨ l.2 ≠ y := by simpa [LiveLinks.admits, hy] using hadm
  have hcache := hr.cached (keptRel_caches env)
  rw [← hai] at hxk
  have hbound : ∀ p, s.interfacesByIdx a.intf.idx = some p →
      ∃ v, s.findObj p = some ⟨x, v⟩ ∧ v.obj.interfaceName = x := fun p hb => by
    obtain ⟨v, hv, -, hf⟩ := hc.toTables.findObj hk hr.owned_inj hb hxk
    exact ⟨v, hf, hc.named x v hv⟩
  have hfree : s.interfacesByIdx a.intf.idx = none →
      s.interfaces.lookup x = none ∧ s.interfaces.lookup y = none := fun hb => by
    -- an owned name is a live link's, bound at that link's index
    have hown : ∀ n v, s.interfaces.lookup n = some v → ∀ j, (j, n) ∈ k → j ≠ a.intf.idx :=
      fun n v hv j hj hji => by
        obtain ⟨j', hj', hb'⟩ := hc.owned n v hv
        obtain rfl := hk.name _ _ _ hj hj'
        rw [hji, hb] at hb'
        cases hb'
    constructor
    · exact Option.eq_none_iff_forall_not_mem.mpr fun v hv => hown x v hv _ hxk rfl
    · refine Option.eq_none_iff_forall_not_mem.mpr fun v hv => ?_
      obtain ⟨j, hj, -⟩ := hc.owned y v hv
      rcases hfy _ hj with hji | hne
      · exact hown y v hv j hj (hji.trans hai.symm)
      · exact hne rfl
  obtain ⟨r0, r0', h0, h0', hp⟩ := createInterface_absorb env a { a with intf := info }
    (decide (st ≠ "unmanaged")) hai.symm hx hy hbound hfree hcache.bound_lt hcache.owned_lt
  obtain ⟨r, hr', hA⟩ := addInterface_then_report hT hW (by rwa [linkInfo_of_some ha])
  rw [linkInfo_of_some ha] at hA
  exact ⟨_, _, hA, by rw [report_then_addInterface hT ha hW, h0]; rfl,
    ((hr'.trans hp.symm).setInfo _ _).withEnabled _⟩

end Orders

end Manager

/-! ## §5 — the race -/

/-- **A `NEWLINK` and a supervisor report for one link commute** on a reachable registry
coherent with the kernel's live links `k`, for a `NEWLINK` the kernel can emit, unless the
report withdraws a recorded supervisor state or the ignore list catches the `NEWLINK` of a
recorded link. Both orders return, and end with the same names owning objects, each bound at
the same indices, and the same `intfInfo`, `ignoredIntf` and `systemdNetworkdEnabled`. -/
theorem addInterface_handleAdminState {env : Env} {k : LiveLinks} {s : Manager}
    (hr : Reachable env s) (hc : Manager.Coherent k s) (hk : k.Distinct) {info : InterfaceInfo}
    (hadm : k.admits (.rtnetlink (.newLink info)) = true) (st : String)
    (hW : st = "initialized" ∨ st = "linger" → s.systemdNetworkdEnabled info.idx = none)
    (hT : info.type ≠ arphrdEther ∨ env.ignores info.name → s.intfInfo info.idx = none) :
    ∃ r r', (s.addInterface env info).bind (·.handleAdminState env st info.idx) = .ok r ∧
      (s.handleAdminState env st info.idx).bind (·.addInterface env info) = .ok r' ∧
      Manager.SamePool r r' := by
  by_cases hTi : info.type ≠ arphrdEther ∨ env.ignores info.name
  · obtain ⟨r, hA, hH⟩ := Manager.ignored_commutes hTi (hT hTi)
    exact ⟨r, r, hA, hH, .refl r⟩
  by_cases hWi : st = "initialized" ∨ st = "linger"
  · obtain ⟨hA, hH⟩ := Manager.withdrawal_commutes hTi hWi (hW hWi)
    exact ⟨_, _, hA, hH, .refl _⟩
  cases hi : s.intfInfo info.idx with
  | none => exact Manager.report_commutes_unrecorded hc.toTables hTi hi hWi
  | some a => exact Manager.report_commutes_recorded hr hc hk hadm hTi hi hWi

/-- Link 1 is managed and up as `eth0`; it comes up again as `eth1` while the supervisor
reports it `configured` once more. -/
theorem addInterface_handleAdminState_rename :
    ∃ s, run ⟨[], fun _ => ""⟩ Manager.empty
        [.adminState "configured" 1, .rtnetlink (.newLink (ether 1 "eth0"))] = .ok s ∧
      ∃ r r', (s.addInterface ⟨[], fun _ => ""⟩ (ether 1 "eth1")).bind
          (·.handleAdminState ⟨[], fun _ => ""⟩ "configured" 1) = .ok r ∧
        (s.handleAdminState ⟨[], fun _ => ""⟩ "configured" 1).bind
          (·.addInterface ⟨[], fun _ => ""⟩ (ether 1 "eth1")) = .ok r' ∧
        Manager.SamePool r r' := by
  have hks : KernelStream [] [.adminState "configured" 1, .rtnetlink (.newLink (ether 1 "eth0"))] =
    true := by decide
  obtain ⟨s, hs, hc⟩ := (Manager.Coherent.empty []).run ⟨[], fun _ => ""⟩ .empty .nil hks
    (by decide)
  exact ⟨s, hs, addInterface_handleAdminState (Reachable.run _ .empty hs) hc
    (LiveLinks.Distinct.nil.afterAll hks) (by decide) "configured" (fun h => absurd h (by decide))
    (fun h => absurd h (by decide))⟩

/-- **Three races that do not commute.** (1) With link 1 reported managed, its first `NEWLINK`
followed by an `initialized` report leaves an object under `eth0`, the report followed by the
`NEWLINK` none. (2) With `usb0` on the ignore list and link 1 up as `eth0` with no state, a
rename onto `usb0` followed by a `configured` report leaves no object, the report followed by
the rename one under `eth0`. (3) After the stream that renames the withdrawn links 1 and 2 from
`a` to `c` and from `b` to `a`, a kernel stream, link 2 comes up as `e` while the supervisor
reports it `configured`: with the `NEWLINK` first, link 1's old object under `a` survives; with
the report first, the report's stale name `a` destroys it. -/
theorem addInterface_handleAdminState_race :
    (∃ s, run ⟨[], fun _ => ""⟩ Manager.empty [.adminState "configured" 1] = .ok s ∧
      ∃ r r', (s.addInterface ⟨[], fun _ => ""⟩ (ether 1 "eth0")).bind
          (·.handleAdminState ⟨[], fun _ => ""⟩ "initialized" 1) = .ok r ∧
        (s.handleAdminState ⟨[], fun _ => ""⟩ "initialized" 1).bind
          (·.addInterface ⟨[], fun _ => ""⟩ (ether 1 "eth0")) = .ok r' ∧
        "eth0" ∈ r.interfaces.keys ∧ "eth0" ∉ r'.interfaces.keys) ∧
    (∃ s, run ⟨["usb0"], fun _ => ""⟩ Manager.empty [.rtnetlink (.newLink (ether 1 "eth0"))] =
        .ok s ∧
      ∃ r r', (s.addInterface ⟨["usb0"], fun _ => ""⟩ (ether 1 "usb0")).bind
          (·.handleAdminState ⟨["usb0"], fun _ => ""⟩ "configured" 1) = .ok r ∧
        (s.handleAdminState ⟨["usb0"], fun _ => ""⟩ "configured" 1).bind
          (·.addInterface ⟨["usb0"], fun _ => ""⟩ (ether 1 "usb0")) = .ok r' ∧
        "eth0" ∉ r.interfaces.keys ∧ "eth0" ∈ r'.interfaces.keys) ∧
    KernelStream [] (desyncRun.take 8 ++ [.rtnetlink (.newLink (ether 2 "e"))]) = true ∧
    (∃ s, run ⟨[], fun _ => ""⟩ Manager.empty (desyncRun.take 8) = .ok s ∧
      ∃ r r', (s.addInterface ⟨[], fun _ => ""⟩ (ether 2 "e")).bind
          (·.handleAdminState ⟨[], fun _ => ""⟩ "configured" 2) = .ok r ∧
        (s.handleAdminState ⟨[], fun _ => ""⟩ "configured" 2).bind
          (·.addInterface ⟨[], fun _ => ""⟩ (ether 2 "e")) = .ok r' ∧
        "a" ∈ r.interfaces.keys ∧ "a" ∉ r'.interfaces.keys) :=
  ⟨⟨_, rfl, _, _, rfl, rfl, by decide, by decide⟩, ⟨_, rfl, _, _, rfl, rfl, by decide, by decide⟩,
    by decide, ⟨_, rfl, _, _, rfl, rfl, by decide, by decide⟩⟩

/-! ## §6 — the ignore branch keeps the record -/

/-- No index is both ignored and tracked. -/
def Manager.IgnoreSeparate (s : Manager) : Prop :=
  ∀ i ∈ s.ignoredIntf, s.intfInfo i = none ∧ s.interfacesByIdx i = none

/-- Link 1 is managed as `eth0` and renamed to the ignored `usb0`. -/
def ignoredRun : List Event :=
  [.adminState "configured" 1, .rtnetlink (.newLink (ether 1 "eth0")),
   .rtnetlink (.newLink (ether 1 "usb0"))]

/-- **The ignore set meets the tracked indices.** With `usb0` on the ignore list, renaming a
managed link onto it leaves its record and its binding next to its entry in `ignoredIntf`; its
`DELLINK` then erases record and binding but not the entry, so the index stays ignored. -/
theorem ignored_overlaps (toStr : InAnyAddr → String) :
    KernelStream [] (ignoredRun ++ [.rtnetlink (.delLink (ether 1 "usb0"))]) = true ∧
    ∃ s, run ⟨["usb0"], toStr⟩ Manager.empty ignoredRun = .ok s ∧ ¬ s.IgnoreSeparate ∧
      ∃ s', step ⟨["usb0"], toStr⟩ s (.rtnetlink (.delLink (ether 1 "usb0"))) = .ok s' ∧
        1 ∈ s'.ignoredIntf :=
  ⟨by decide, _, rfl, fun h => Option.noConfusion (h 1 (Finset.mem_insert_self _ _)).1, _, rfl,
    Finset.mem_insert_self _ _⟩

end PhosphorNetworkd
