/-
# PhosphorNetworkd.Startup — the daemon's start-up exposes every managed Ethernet link.

`main` constructs the manager before the netlink server. The manager's constructor asks for the
state of each link `ListLinks` reported; a `Get` that fails stops the daemon. Otherwise each
report arrives while no link is known yet, so it only fills `systemdNetworkdEnabled`
(`run_reports_enabled`). The server's constructor then handles the kernel's link dump: each
`NEWLINK` of an Ethernet link whose name is not ignored finds its link's state already recorded,
and `addInterface` constructs the link's object at once. The address, route and neighbour dumps
that follow touch no link's report, no state and not the ignore set (§1).

So when the link dump lists each link once under its own name (§2), the registry after start-up
holds an object for exactly the dumped links that should have one (`startup_exposes`): every
dumped Ethernet link whose name is not ignored and whose state is neither `initialized` nor
`linger` has an object under its name, bound at its index and carrying the dumped report; and
every bound index is a dumped link's, bound to the object under that link's name.
-/
import PhosphorNetworkd.Daemon

namespace PhosphorNetworkd

variable {env : Env}

/-! ## §1 — what a step does to a link's report, its state and the ignore set -/

/-- The link a `NEWLINK` or `DELLINK` is about. -/
def Event.linkIdx : Event → Option Nat
  | .rtnetlink (.newLink info) | .rtnetlink (.delLink info) => some info.idx
  | _ => none

/-- A run keeps every property that each of its steps keeps. -/
theorem run_preserves (P : Manager → Prop) {s s' : Manager} {es : List Event}
    (hstep : ∀ e ∈ es, ∀ t t', step env t e = .ok t' → P t → P t')
    (hr : run env s es = .ok s') (h : P s) : P s' := by
  induction es generalizing s with
  | nil => cases hr; exact h
  | cons e es ih =>
    simp only [run, Except.bind] at hr
    split at hr
    · cases hr
    · exact ih (fun e' he' => hstep e' (List.mem_cons_of_mem _ he')) hr
        (hstep e (List.mem_cons_self _ _) _ _ ‹_› h)

theorem run_append_eq_ok {s s' : Manager} {es es' : List Event}
    (h : run env s (es ++ es') = .ok s') : ∃ t, run env s es = .ok t ∧ run env t es' = .ok s' := by
  induction es generalizing s with
  | nil => exact ⟨s, rfl, h⟩
  | cons e es ih =>
    rw [List.cons_append, run] at h
    rw [run]
    cases ht : step env s e with
    | error x => rw [ht] at h; cases h
    | ok t => rw [ht] at h; exact ih h

theorem run_cons_eq_ok {s s' : Manager} {e : Event} {es : List Event}
    (h : run env s (e :: es) = .ok s') : ∃ t, step env s e = .ok t ∧ run env t es = .ok s' := by
  rw [run] at h
  cases ht : step env s e with
  | error x => rw [ht] at h; cases h
  | ok t => rw [ht] at h; exact ⟨t, rfl, h⟩

/-- A run through the event `e`: the run before it, the step at it, and the run after it. -/
theorem run_middle {s s' : Manager} {pre post : List Event} {e : Event}
    (h : run env s (pre ++ e :: post) = .ok s') :
    ∃ t t', run env s pre = .ok t ∧ step env t e = .ok t' ∧ run env t' post = .ok s' := by
  obtain ⟨t, h1, h2⟩ := run_append_eq_ok h
  obtain ⟨t', h3, h4⟩ := run_cons_eq_ok h2
  exact ⟨t, t', h1, h3, h4⟩

theorem map_intf_update {m : Nat → Option AllIntfInfo} {j : Nat} {a b : AllIntfInfo}
    (ha : m j = some a) (hb : b.intf = a.intf) (i : Nat) :
    (Function.update m j (some b) i).map (·.intf) = (m i).map (·.intf) := by
  by_cases hij : i = j
  · subst hij; simp [ha, hb]
  · rw [Function.update_noteq hij]

theorem map_intf_elim {m : Nat → Option AllIntfInfo} {j : Nat} {f : AllIntfInfo → AllIntfInfo}
    (hf : ∀ a, (f a).intf = a.intf) (i : Nat) :
    (((m j).elim m fun a => Function.update m j (some (f a))) i).map (·.intf) =
      (m i).map (·.intf) := by
  cases ha : m j with
  | none => rfl
  | some a => exact map_intf_update ha (hf a) i

/-- The mirror rewrites a link's report only at that link's own `NEWLINK` and `DELLINK`. -/
theorem mirrorStep_intf {m : Nat → Option AllIntfInfo} {e : Event} {i : Nat}
    (hi : e.linkIdx ≠ some i) : (mirrorStep env m e i).map (·.intf) = (m i).map (·.intf) := by
  rcases e with (info | info | gw | gw | info | info | info | info) | _
  · have hne : i ≠ info.idx := fun h => hi (by rw [h]; rfl)
    simp only [mirrorStep]
    split_ifs <;> simp only [Function.update_noteq hne]
  · have hne : i ≠ info.idx := fun h => hi (by rw [h]; rfl)
    simp only [mirrorStep, Function.update_noteq hne]
  · -- a default route: the link's gateways
    rcases gw with _ | ⟨j, g⟩
    exacts [rfl, map_intf_elim (AllIntfInfo.setDefGw_intf · g) i]
  · rcases gw with _ | ⟨j, g⟩
    exacts [rfl, map_intf_elim (AllIntfInfo.resetDefGw_intf · g) i]
  · -- an address: the link's addresses
    simp only [mirrorStep]
    cases ha : m info.ifidx with
    | none => rfl
    | some a => dsimp only; split_ifs; exacts [rfl, map_intf_update ha (by rfl) i]
  · simp only [mirrorStep]
    cases ha : m info.ifidx with
    | none => rfl
    | some a => exact map_intf_update ha (by rfl) i
  · -- a neighbour: the link's static neighbours
    simp only [mirrorStep]
    cases info.addr with
    | none => rfl
    | some k =>
      cases ha : m info.ifidx with
      | none => rfl
      | some a => dsimp only; split_ifs; exacts [rfl, map_intf_update ha (by rfl) i]
  · simp only [mirrorStep]
    cases info.addr with
    | none => rfl
    | some k =>
      cases ha : m info.ifidx with
      | none => rfl
      | some a => exact map_intf_update ha (by rfl) i
  · rfl

/-- A step rewrites a link's report only at that link's own `NEWLINK` and `DELLINK`. -/
theorem step_intf {s s' : Manager} {e : Event} (hs : step env s e = .ok s') {i : Nat}
    (hi : e.linkIdx ≠ some i) : (s'.intfInfo i).map (·.intf) = (s.intfInfo i).map (·.intf) := by
  rw [Manager.step_intfInfo hs]
  split
  · rfl
  · exact mirrorStep_intf hi

/-- The `NEWLINK` of an Ethernet link whose name is not ignored makes the message the link's
report. -/
theorem step_newLink_intf {s s' : Manager} {info : InterfaceInfo}
    (hs : step env s (.rtnetlink (.newLink info)) = .ok s') (ht : info.type = arphrdEther)
    (hn : env.ignores info.name = false) : (s'.intfInfo info.idx).map (·.intf) = some info := by
  rw [Manager.step_intfInfo hs]
  simp only [Manager.skipsDelAddr, Bool.false_eq_true, if_false, mirrorStep, ht, ne_eq,
    not_true_eq_false, hn, or_self, Function.update_same, Option.map_some', Option.some.injEq]
  split <;> rfl

/-- What `handleAdminState` records for a link reported in `state`. -/
def reportedEnabled (state : String) : Option Bool :=
  if state = "initialized" ∨ state = "linger" then none else some (decide (state ≠ "unmanaged"))

theorem Manager.handleAdminState_enabled {s s' : Manager} {st : String} {i : Nat}
    (h : s.handleAdminState env st i = .ok s') :
    s'.systemdNetworkdEnabled = Function.update s.systemdNetworkdEnabled i (reportedEnabled st) := by
  unfold handleAdminState at h
  unfold reportedEnabled
  split_ifs at h with hw
  · cases h; rw [if_pos hw]
  · rw [if_neg hw]
    dsimp only at h
    split at h
    · exact (createInterface_poolFrame env h).systemdNetworkdEnabled
    · cases h; rfl

/-- A link's state changes only at a report for that link. -/
theorem step_enabled {s s' : Manager} {e : Event} (hs : step env s e = .ok s') {i : Nat}
    (hi : ∀ st, e ≠ .adminState st i) : s'.systemdNetworkdEnabled i = s.systemdNetworkdEnabled i := by
  rcases e with m | ⟨st, j⟩
  · rw [Manager.netlink_systemdNetworkdEnabled hs]
  · have hj : i ≠ j := fun h => hi st (by rw [h])
    rw [Manager.handleAdminState_enabled hs, Function.update_noteq hj]

/-- **What a step does to the ignore set**: it gains a link only at that link's `NEWLINK`, when
the link is not Ethernet or its name is ignored. -/
theorem step_ignoredIntf {s s' : Manager} {e : Event} (hs : step env s e = .ok s') {j : Nat}
    (hj : j ∈ s'.ignoredIntf) :
    j ∈ s.ignoredIntf ∨ ∃ info, e = .rtnetlink (.newLink info) ∧ info.idx = j ∧
      (info.type ≠ arphrdEther ∨ env.ignores info.name) := by
  rcases e with m | ⟨st, i⟩
  swap
  · -- a supervisor report
    rcases Manager.handleAdminState_cases env hs with ⟨_, rfl⟩ | ⟨a, b, -, hs⟩
    · exact .inl hj
    · exact .inl ((Manager.createInterface_poolFrame env hs).ignoredIntf ▸ hj)
  cases hl : m.isLink
  · exact .inl ((Manager.netlink_ptrFrame env hl hs).ignoredIntf ▸ hj)
  rcases m with info | info | _ | _ | _ | _ | _ | _ <;> try cases hl
  · -- `NEWLINK`
    rw [step, Netlink.handler, Netlink.catchStd_of_noThrow (Manager.addInterface_noThrow _ _ _)] at hs
    rcases Manager.addInterface_cases env hs with ⟨hig, rfl⟩ | ⟨-, ⟨-, rfl⟩ | ⟨b, -, hs⟩⟩
    · rcases Finset.mem_insert.mp hj with rfl | hj
      · exact .inr ⟨info, rfl, rfl, hig⟩
      · exact .inl hj
    · exact .inl hj
    · exact .inl ((Manager.createInterface_poolFrame env hs).ignoredIntf ▸ hj)
  · -- `DELLINK`: the ignore set only loses the link
    rw [step, Netlink.handler,
      Netlink.catchStd_of_noThrow (Manager.removeInterface_noThrow _ _)] at hs
    obtain ⟨nit, -, rfl⟩ := Except.map_eq_ok.mp hs
    refine .inl ?_
    cases hb : s.interfacesByIdx info.idx <;> cases nit <;> simp only [hb] at hj
    all_goals first | exact hj | exact Finset.mem_of_mem_erase hj

/-! ## §2 — the start-up dumps as a kernel stream -/

theorem linkIdx_of_not_isLink {m : RtMsg} (hm : m.isLink = false) : (Event.rtnetlink m).linkIdx = none := by
  cases m <;> first | rfl | cases hm

/-- Address, route and neighbour messages leave the live links alone. -/
theorem nonLink_stream {ms : List RtMsg} (hm : ∀ m ∈ ms, m.isLink = false) (k : LiveLinks) :
    KernelStream k (ms.map .rtnetlink) = true ∧ RenameFree k (ms.map .rtnetlink) = true ∧
      (ms.map Event.rtnetlink).foldl LiveLinks.after k = k := by
  induction ms with
  | nil => exact ⟨rfl, rfl, rfl⟩
  | cons m ms ih =>
    have hl := hm m (List.mem_cons_self _ _)
    obtain ⟨h1, h2, h3⟩ := ih fun m' hm' => hm m' (List.mem_cons_of_mem _ hm')
    have ha : k.admits (.rtnetlink m) = true ∧ k.renames (.rtnetlink m) = false := by
      cases m <;> first | exact ⟨rfl, rfl⟩ | cases hl
    simp only [List.map_cons, KernelStream, RenameFree, List.foldl_cons,
      LiveLinks.after_of_not_isLink hl, ha.1, ha.2, h1, h2, h3, Bool.not_false, Bool.and_self,
      and_self]

/-- **A link dump is a stream the kernel can emit.** A dump that lists each link once, under
names that no live link and no other dumped link holds, renames no live link, and afterwards
only the links that were live or dumped are live. -/
theorem linkDump_stream {infos : List InterfaceInfo} (hidx : (infos.map (·.idx)).Nodup)
    (hnames : (infos.map (·.name)).Nodup) (hnamed : ∀ info ∈ infos, info.name.isSome)
    {k : LiveLinks} (hk : ∀ l ∈ k, ∀ info ∈ infos, l.1 ≠ info.idx ∧ info.name ≠ some l.2) :
    KernelStream k ((infos.map .newLink).map .rtnetlink) = true ∧
      RenameFree k ((infos.map .newLink).map .rtnetlink) = true ∧
      ∀ l ∈ ((infos.map .newLink).map .rtnetlink).foldl LiveLinks.after k,
        l ∈ k ∨ ∃ info ∈ infos, info.idx = l.1 ∧ info.name = some l.2 := by
  induction infos generalizing k with
  | nil => exact ⟨rfl, rfl, fun l hl => .inl hl⟩
  | cons info infos ih =>
    obtain ⟨n, hn⟩ := Option.isSome_iff_exists.mp (hnamed info (List.mem_cons_self _ _))
    rw [List.map_cons, List.nodup_cons] at hidx hnames
    have hinfo := fun l hl => hk l hl info (List.mem_cons_self _ _)
    -- after the `NEWLINK`, the link is live under its name, and the rest of the dump is fresh
    have hk' : ∀ l ∈ (info.idx, n) :: k.filter (·.1 ≠ info.idx), ∀ info' ∈ infos,
        l.1 ≠ info'.idx ∧ info'.name ≠ some l.2 := by
      intro l hl info' hi'
      rcases List.mem_cons.mp hl with rfl | hl
      · refine ⟨fun h => hidx.1 ?_, fun h => hnames.1 ?_⟩
        · dsimp only at h; rw [h]; exact List.mem_map_of_mem _ hi'
        · dsimp only at h; rw [hn, ← h]; exact List.mem_map_of_mem _ hi'
      · exact hk l (List.mem_filter.mp hl).1 info' (List.mem_cons_of_mem _ hi')
    obtain ⟨h1, h2, h3⟩ := ih hidx.2 hnames.2 (fun i hi => hnamed i (List.mem_cons_of_mem _ hi)) hk'
    have hadm : k.admits (.rtnetlink (.newLink info)) = true := by
      simp only [LiveLinks.admits, hn, List.all_eq_true, decide_eq_true_eq]
      exact fun l hl => .inr fun h => (hinfo l hl).2 (h ▸ hn)
    have hren : k.renames (.rtnetlink (.newLink info)) = false := by
      simp only [LiveLinks.renames, List.any_eq_false, decide_eq_true_eq, not_and]
      exact fun l hl h => absurd h (hinfo l hl).1
    refine ⟨?_, ?_, fun l hl => ?_⟩
    · simp only [List.map_cons, KernelStream, hadm, LiveLinks.after_newLink hn, h1, Bool.and_self]
    · simp only [List.map_cons, RenameFree, hren, LiveLinks.after_newLink hn, h2, Bool.not_false,
        Bool.and_self]
    · rw [List.map_cons, List.map_cons, List.foldl_cons, LiveLinks.after_newLink hn] at hl
      rcases h3 l hl with hl | ⟨info', hi', h⟩
      · rcases List.mem_cons.mp hl with rfl | hl
        · exact .inr ⟨info, List.mem_cons_self _ _, rfl, hn⟩
        · exact .inl (List.mem_filter.mp hl).1
      · exact .inr ⟨info', List.mem_cons_of_mem _ hi', h⟩

/-- **The start-up dumps are a kernel stream that renames no live link**, from no live link:
the link dump, then dumps that hold no link message. Afterwards every live link is a dumped
one. -/
theorem startupDump_stream {infos : List InterfaceInfo} {rest : List RtMsg}
    (hidx : (infos.map (·.idx)).Nodup) (hnames : (infos.map (·.name)).Nodup)
    (hnamed : ∀ info ∈ infos, info.name.isSome) (hrest : ∀ m ∈ rest, m.isLink = false) :
    KernelStream [] ((infos.map .newLink).map .rtnetlink ++ rest.map .rtnetlink) = true ∧
      RenameFree [] ((infos.map .newLink).map .rtnetlink ++ rest.map .rtnetlink) = true ∧
      ∀ l ∈ ((infos.map RtMsg.newLink).map Event.rtnetlink ++ rest.map Event.rtnetlink).foldl
        LiveLinks.after [],
        ∃ info ∈ infos, info.idx = l.1 ∧ info.name = some l.2 := by
  obtain ⟨hsL, hnL, hkL⟩ :=
    linkDump_stream hidx hnames hnamed fun l hl => absurd hl (List.not_mem_nil l)
  obtain ⟨hsR, hnR, hkR⟩ := nonLink_stream hrest
    (((infos.map RtMsg.newLink).map Event.rtnetlink).foldl LiveLinks.after [])
  rw [kernelStream_append, renameFree_append, List.foldl_append, hsL, hsR, hnL, hnR, hkR]
  exact ⟨rfl, rfl, fun l hl => (hkL l hl).resolve_left (List.not_mem_nil l)⟩

/-! ## §3 — the registry after start-up -/

/-- **The constructor leaves each reported link with the state of its report.** -/
theorem run_reports_enabled {links : List (Nat × Option String)}
    (hlinks : (links.map Prod.fst).Nodup) {i : Nat} {st : String} (hst : (i, some st) ∈ links)
    {s s' : Manager} (h : run env s (linkReports links) = .ok s') :
    s'.systemdNetworkdEnabled i = reportedEnabled st := by
  obtain ⟨pre, post, rfl⟩ := List.append_of_mem hst
  rw [List.map_append, List.map_cons, List.nodup_middle, List.nodup_cons] at hlinks
  simp only [linkReports, List.filterMap_append, List.filterMap_cons, Option.map_some'] at h
  obtain ⟨t, t', -, ht', hpost⟩ := run_middle h
  -- the reports after the link's own are about other links
  refine run_preserves (fun t => t.systemdNetworkdEnabled i = reportedEnabled st)
    (fun e he u u' hu hu' => ?_) hpost ?_
  · obtain ⟨⟨j, r⟩, hl, he⟩ := List.mem_filterMap.mp he
    obtain ⟨st', -, rfl⟩ := Option.map_eq_some'.mp he
    refine (step_enabled hu fun st'' he' => hlinks.1 ?_).trans hu'
    have hl' := List.mem_map_of_mem Prod.fst hl
    rw [(Event.adminState.inj he').2] at hl'
    exact List.mem_append_right _ hl'
  · show t'.systemdNetworkdEnabled i = _
    rw [Manager.handleAdminState_enabled ht']
    exact Function.update_same _ _ _

/-- Kernel messages leave every link's state alone. -/
theorem run_rtnetlink_enabled {ms : List RtMsg} {s s' : Manager}
    (h : run env s (ms.map .rtnetlink) = .ok s') : s'.systemdNetworkdEnabled = s.systemdNetworkdEnabled :=
  run_preserves (fun t => t.systemdNetworkdEnabled = s.systemdNetworkdEnabled)
    (fun e he _ _ hu hu' => by
      obtain ⟨m, -, rfl⟩ := List.mem_map.mp he
      exact (Manager.netlink_systemdNetworkdEnabled hu).trans hu') h rfl

/-- **After the start-up dumps, a dumped Ethernet link whose name is not ignored has the dumped
message as its report**: its `NEWLINK` records it, and no later message of the dumps is about
the link. -/
theorem run_dump_intf {infos : List InterfaceInfo} (hidx : (infos.map (·.idx)).Nodup)
    {rest : List RtMsg} (hrest : ∀ m ∈ rest, m.isLink = false) {info : InterfaceInfo}
    (hinfo : info ∈ infos) (ht : info.type = arphrdEther) (hig : env.ignores info.name = false)
    {s s' : Manager}
    (h : run env s ((infos.map .newLink).map .rtnetlink ++ rest.map .rtnetlink) = .ok s') :
    (s'.intfInfo info.idx).map (·.intf) = some info := by
  obtain ⟨pre, post, rfl⟩ := List.append_of_mem hinfo
  rw [List.map_append, List.map_cons, List.nodup_middle, List.nodup_cons] at hidx
  rw [List.map_append, List.map_cons, List.map_append, List.map_cons, List.append_assoc,
    List.cons_append, ← List.map_append] at h
  obtain ⟨t, t', -, ht', hpost⟩ := run_middle h
  refine run_preserves (fun t => (t.intfInfo info.idx).map (·.intf) = some info)
    (fun e he u u' hu hu' => (step_intf hu ?_).trans hu') hpost (step_newLink_intf ht' ht hig)
  rcases List.mem_append.mp (List.map_append _ _ _ ▸ he) with he | he
  · -- the `NEWLINK` of a later link
    obtain ⟨m, hm, rfl⟩ := List.mem_map.mp he
    obtain ⟨info', hi', rfl⟩ := List.mem_map.mp hm
    intro h
    exact hidx.1 (List.mem_append_right _ (Option.some.inj h ▸ List.mem_map_of_mem _ hi'))
  · -- a message that is not a link message
    obtain ⟨m, hm, rfl⟩ := List.mem_map.mp he
    rw [linkIdx_of_not_isLink (hrest m hm)]
    exact Option.noConfusion

/-- **A run keeps an Ethernet link whose name is not ignored out of the ignore set**, when the
link's only `NEWLINK` in the run is its own. -/
theorem run_not_ignored {info : InterfaceInfo} (ht : info.type = arphrdEther)
    (hig : env.ignores info.name = false) {es : List Event}
    (hes : ∀ info', .rtnetlink (.newLink info') ∈ es → info'.idx = info.idx → info' = info)
    {s s' : Manager} (h : run env s es = .ok s') (hs : info.idx ∉ s.ignoredIntf) :
    info.idx ∉ s'.ignoredIntf := by
  refine run_preserves (fun t => info.idx ∉ t.ignoredIntf) (fun e he u u' hu hu' hin => ?_) h hs
  rcases step_ignoredIntf hu hin with hin | ⟨info', rfl, hi', hT⟩
  · exact hu' hin
  · obtain rfl := hes info' he hi'
    rcases hT with hT | hT
    · exact hT ht
    · rw [hig] at hT; cases hT

/-- A `NEWLINK` of the start-up dumps is one of the link dump's. -/
theorem mem_dump_newLink {infos : List InterfaceInfo} {rest : List RtMsg}
    (hrest : ∀ m ∈ rest, m.isLink = false) {info : InterfaceInfo}
    (h : Event.rtnetlink (.newLink info) ∈ (infos.map RtMsg.newLink).map Event.rtnetlink ++
      rest.map Event.rtnetlink) : info ∈ infos := by
  rcases List.mem_append.mp h with h | h
  · obtain ⟨m, hm, he⟩ := List.mem_map.mp h
    obtain ⟨info', hi, rfl⟩ := List.mem_map.mp hm
    cases he
    exact hi
  · obtain ⟨m, hm, he⟩ := List.mem_map.mp h
    cases he
    cases hrest _ hm

/-- **Start-up exposes every managed Ethernet link, and no other.** Take a `ListLinks` reply
that lists each link once, a link dump that lists each link once under its own name, and
address, route and neighbour dumps that hold no link message. When the `Get` of every link's
state returned, after the manager's and the netlink server's constructors every dumped Ethernet
link whose name is not ignored and whose reported state is neither `initialized` nor `linger`
has an object: under its name, bound at its index, and carrying the dumped report; and every
bound index is a dumped link's, bound to the object under that link's name. When one `Get`
failed, the daemon stops before the server is constructed. -/
theorem startup_exposes {links : List (Nat × Option String)} {infos : List InterfaceInfo}
    {dumpAddrs dumpRoutes dumpNeighs : List RtMsg}
    (hlinks : (links.map Prod.fst).Nodup) (hidx : (infos.map (·.idx)).Nodup)
    (hnames : (infos.map (·.name)).Nodup) (hnamed : ∀ info ∈ infos, info.name.isSome)
    (hrest : ∀ m ∈ dumpAddrs ++ dumpRoutes ++ dumpNeighs, m.isLink = false) :
    if links.all (·.2.isSome) then
      ∃ s, daemon env links (infos.map .newLink) dumpAddrs dumpRoutes dumpNeighs [] = .ok s ∧
        (∀ info ∈ infos, ∀ n st, info.name = some n → info.type = arphrdEther →
          env.ignores info.name = false → (info.idx, some st) ∈ links →
          ¬ (st = "initialized" ∨ st = "linger") →
          ∃ x, s.interfaces.lookup n = some x ∧ s.interfacesByIdx info.idx = some x.addr ∧
            x.obj.info = info) ∧
        ∀ i p, s.interfacesByIdx i = some p → ∃ info ∈ infos, ∃ n x, info.idx = i ∧
          info.name = some n ∧ s.interfaces.lookup n = some x ∧ x.addr = p
    else daemon env links (infos.map .newLink) dumpAddrs dumpRoutes dumpNeighs [] =
      .error .sdBusError := by
  split_ifs with hget
  swap
  · exact daemon_getFailed env (Bool.eq_false_iff.mpr hget) _ _ _ _ _
  -- the manager's constructor: supervisor reports only
  obtain ⟨hs0, hn0, hk0⟩ := linkReports_stream [] links
  obtain ⟨s0, h0, hc0⟩ := (Manager.Coherent.empty []).run env .empty .nil hs0 hn0
  rw [hk0] at hc0
  -- the server's constructor: the link dump, then the dumps that hold no link message
  have hdump : (infos.map RtMsg.newLink ++ dumpAddrs ++ dumpRoutes ++ dumpNeighs).map
      Event.rtnetlink = (infos.map RtMsg.newLink).map .rtnetlink ++
        (dumpAddrs ++ dumpRoutes ++ dumpNeighs).map .rtnetlink := by
    simp only [List.map_append, List.append_assoc]
  obtain ⟨hs, hn, hk⟩ := startupDump_stream hidx hnames hnamed hrest
  obtain ⟨s1, h1, hc1⟩ := hc0.run env (Reachable.run env .empty h0) .nil hs hn
  refine ⟨s1, daemon_eq_ok env hget h0 (hdump ▸ h1) rfl,
    fun info hinfo n st hname ht hig hst hw => ?_, fun i p hp => ?_⟩
  · -- the link is recorded, reported and not ignored, so the registry's coherence gives its object
    have hb := (congrFun (run_rtnetlink_enabled (hdump ▸ h1)) info.idx).trans
      (run_reports_enabled hlinks hst h0)
    obtain ⟨a, ha, rfl⟩ := Option.map_eq_some'.mp (run_dump_intf hidx hrest hinfo ht hig h1)
    have hg := run_not_ignored ht hig
      (fun info' he hi' => List.inj_on_of_nodup_map hidx (mem_dump_newLink hrest he) hinfo hi') h1
      (run_not_ignored ht hig (fun _ he _ => by
          obtain ⟨l, -, he⟩ := List.mem_filterMap.mp he
          obtain ⟨_, -, he⟩ := Option.map_eq_some'.mp he
          cases he)
        h0 (Finset.not_mem_empty _))
    rw [reportedEnabled, if_neg hw] at hb
    exact hc1.current _ a n _ ha hname hb hg
  · -- a bound index is a live link's, and the live links are the dumped ones
    obtain ⟨m, x, hm, hx, rfl⟩ := hc1.bound i p hp
    obtain ⟨info, hinfo, rfl, hname⟩ := hk _ hm
    exact ⟨info, hinfo, m, x, rfl, hname, hx, rfl⟩

/-- `ListLinks` reports link 1 `configured` and link 2 `unmanaged`; the kernel dumps both as
Ethernet links, and an address of link 1. -/
theorem startup_exposes_eth0 :
    ∃ s, daemon ⟨[], fun _ => ""⟩ [(1, some "configured"), (2, some "unmanaged")]
        ([ether 1 "eth0", ether 2 "eth1"].map .newLink) [.newAddr (sampleAddr 1)] [] [] [] = .ok s ∧
      (∀ info ∈ [ether 1 "eth0", ether 2 "eth1"], ∀ n st, info.name = some n →
        info.type = arphrdEther → Env.ignores ⟨[], fun _ => ""⟩ info.name = false →
        (info.idx, some st) ∈ [(1, some "configured"), (2, some "unmanaged")] →
        ¬ (st = "initialized" ∨ st = "linger") →
        ∃ x, s.interfaces.lookup n = some x ∧ s.interfacesByIdx info.idx = some x.addr ∧
          x.obj.info = info) ∧
      ∀ i p, s.interfacesByIdx i = some p → ∃ info ∈ [ether 1 "eth0", ether 2 "eth1"], ∃ n x,
        info.idx = i ∧ info.name = some n ∧ s.interfaces.lookup n = some x ∧ x.addr = p := by
  have h := @startup_exposes ⟨[], fun _ => ""⟩ [(1, some "configured"), (2, some "unmanaged")]
    [ether 1 "eth0", ether 2 "eth1"] [.newAddr (sampleAddr 1)] [] [] (by decide) (by decide)
    (by decide) (by decide) (by decide)
  have hget : [(1, some "configured"), (2, some "unmanaged")].all (·.2.isSome) = true := rfl
  rwa [if_pos hget] at h

end PhosphorNetworkd
