/-
# PhosphorNetworkd.Registry.Coherence — a kernel that never renames a live link keeps the registry coherent.

The registry's two pointer tables fall out of step only through a rename (§3): a `NEWLINK` that
gives a live link a new name while the link's object cannot follow it leaves the object under
the old name, where a later link of that name finds it. Nothing else breaks them.
Along every kernel stream in which no live link is renamed, with any supervisor reports
interleaved, every step returns, so `removeInterface` never reaches its desync abort and no call
goes through a dangling pointer; and the registry stays `Coherent` with the kernel's live links
(`renameFree_coherent`):

* each object is owned under the name of a live link, bound at that link's index, and carries
  that name as its `interfaceName`; each binding reaches such an object (`Tables`);
* each record is a live link's, under the link's name (`Recorded`);
* each recorded link that the supervisor has reported and that is not ignored has its object,
  under the record's name, bound at its index and showing the link's latest report (`Current`).

The last point is the lifecycle rule of the spec (§3): the object pool is the supervisor states
intersected with the records, for the links the registry does not ignore. A stream that renames a
withdrawn link breaks it, and a later `DELLINK` reaches the desync abort (`removeInterface_desync`).

The proof is one lemma per operation. The central one, `Tables.createInterface`, says what
`createInterface` does for a live link under its own name: it cannot take the rename branch,
because the object bound at the link's index is filed under the link's name, and it cannot
reuse another link's object, because no other live link holds the name.
-/
import PhosphorNetworkd.Registry.Cache

namespace PhosphorNetworkd

/-! ## §1 — the kernel's link table -/

namespace LiveLinks

/-- No two live links share an index or a name, as in the kernel's link table. -/
structure Distinct (k : LiveLinks) : Prop where
  idx : ∀ i n n', (i, n) ∈ k → (i, n') ∈ k → n = n'
  name : ∀ i i' n, (i, n) ∈ k → (i', n) ∈ k → i = i'

/-- Whether `e` renames a live link: a `NEWLINK` for a live index that does not carry the
link's current name. -/
def renames (k : LiveLinks) : Event → Bool
  | .rtnetlink (.newLink info) => k.any fun l => l.1 = info.idx ∧ info.name ≠ some l.2
  | _ => false

theorem after_newLink {k : LiveLinks} {info : InterfaceInfo} {n : String}
    (hn : info.name = some n) :
    k.after (.rtnetlink (.newLink info)) = (info.idx, n) :: k.filter (·.1 ≠ info.idx) := by
  simp [after, hn]

/-- Only link messages change the live links. -/
theorem after_of_not_isLink {k : LiveLinks} {m : RtMsg} (hm : m.isLink = false) :
    k.after (.rtnetlink m) = k := by
  cases m <;> first | rfl | cases hm

theorem Distinct.nil : Distinct [] :=
  ⟨fun _ _ _ h => absurd h (List.not_mem_nil _), fun _ _ _ h => absurd h (List.not_mem_nil _)⟩

theorem Distinct.filter {k : LiveLinks} (h : k.Distinct) (p : Nat × String → Bool) :
    Distinct (k.filter p) :=
  ⟨fun i n n' hn hn' => h.idx i n n' (List.mem_of_mem_filter hn) (List.mem_of_mem_filter hn'),
    fun i i' n hi hi' => h.name i i' n (List.mem_of_mem_filter hi) (List.mem_of_mem_filter hi')⟩

/-- A link that comes up under a name no other live link holds keeps the table distinct. -/
theorem Distinct.newLink {k : LiveLinks} (h : k.Distinct) {i : Nat} {n : String}
    (hfree : ∀ l ∈ k, l.1 = i ∨ l.2 ≠ n) : Distinct ((i, n) :: k.filter (·.1 ≠ i)) := by
  constructor
  · intro j m m' hm hm'
    simp only [List.mem_cons, Prod.mk.injEq, List.mem_filter, decide_eq_true_eq] at hm hm'
    rcases hm with ⟨hj, hmn⟩ | ⟨hm, hj⟩ <;> rcases hm' with ⟨hj', hmn'⟩ | ⟨hm', hj'⟩
    · exact hmn.trans hmn'.symm
    · exact absurd hj hj'
    · exact absurd hj' hj
    · exact h.idx j m m' hm hm'
  · intro j j' m hm hm'
    simp only [List.mem_cons, Prod.mk.injEq, List.mem_filter, decide_eq_true_eq] at hm hm'
    rcases hm with ⟨hj, hmn⟩ | ⟨hm, hj⟩ <;> rcases hm' with ⟨hj', hmn'⟩ | ⟨hm', hj'⟩
    · exact hj.trans hj'.symm
    · exact absurd hmn ((hfree _ hm').resolve_left hj')
    · exact absurd hmn' ((hfree _ hm).resolve_left hj)
    · exact h.name j j' m hm hm'

/-- The kernel's link table stays distinct along the events it admits. -/
theorem Distinct.after {k : LiveLinks} (h : k.Distinct) {e : Event} (ha : k.admits e = true) :
    (k.after e).Distinct := by
  rcases e with (info | info | _ | _ | _ | _ | _ | _) | _
  · rcases hn : info.name with _ | n
    · simp [admits, hn] at ha
    · simp only [admits, hn, List.all_eq_true, decide_eq_true_eq] at ha
      rw [after_newLink hn]
      exact h.newLink ha
  · exact h.filter _
  all_goals exact h

/-- The kernel's link table stays distinct along every stream the kernel can emit. -/
theorem Distinct.afterAll {k : LiveLinks} (h : k.Distinct) {es : List Event}
    (hs : KernelStream k es = true) : Distinct (es.foldl LiveLinks.after k) := by
  induction es generalizing k with
  | nil => exact h
  | cons e es ih =>
    simp only [KernelStream, Bool.and_eq_true] at hs
    exact ih (h.after hs.1) hs.2

end LiveLinks

/-- Whether no `NEWLINK` of the stream `es` renames a live link, starting with the links `k`
live. -/
def RenameFree : LiveLinks → List Event → Bool
  | _, [] => true
  | k, e :: es => !k.renames e && RenameFree (k.after e) es

theorem kernelStream_append (k : LiveLinks) (es es' : List Event) :
    KernelStream k (es ++ es') = (KernelStream k es && KernelStream (es.foldl LiveLinks.after k) es') := by
  induction es generalizing k with
  | nil => simp [KernelStream]
  | cons e es ih => simp [KernelStream, ih, Bool.and_assoc]

theorem renameFree_append (k : LiveLinks) (es es' : List Event) :
    RenameFree k (es ++ es') = (RenameFree k es && RenameFree (es.foldl LiveLinks.after k) es') := by
  induction es generalizing k with
  | nil => simp [RenameFree]
  | cons e es ih => simp [RenameFree, ih, Bool.and_assoc]

/-- The constructor's supervisor reports leave the live links alone. -/
theorem linkReports_stream (k : LiveLinks) (links : List (Nat × Option String)) :
    KernelStream k (linkReports links) = true ∧ RenameFree k (linkReports links) = true ∧
      (linkReports links).foldl LiveLinks.after k = k := by
  induction links with
  | nil => exact ⟨rfl, rfl, rfl⟩
  | cons l _ ih => obtain ⟨_, _ | _⟩ := l <;> exact ih

/-! ## §2 — coherence -/

namespace Manager

/-- The pointer tables agree with the live links `k`: every object is owned under the name of a
live link, bound at that link's index, and carries that name; every binding reaches such an
object. -/
structure Tables (k : LiveLinks) (s : Manager) : Prop where
  owned : ∀ n x, s.interfaces.lookup n = some x →
    ∃ i, (i, n) ∈ k ∧ s.interfacesByIdx i = some x.addr
  bound : ∀ i p, s.interfacesByIdx i = some p →
    ∃ n x, (i, n) ∈ k ∧ s.interfaces.lookup n = some x ∧ x.addr = p
  named : ∀ n x, s.interfaces.lookup n = some x → x.obj.interfaceName = n

/-- Every record is a live link's, under the link's name. -/
def Recorded (k : LiveLinks) (s : Manager) : Prop :=
  ∀ i a, s.intfInfo i = some a → ∃ n, a.intf.name = some n ∧ (i, n) ∈ k

/-- Link `i`, when it has a record, a supervisor state and is not ignored, has its object under
the record's name, bound at `i` and showing the latest report of the link. -/
def Current (s : Manager) (i : Nat) : Prop :=
  ∀ a n b, s.intfInfo i = some a → a.intf.name = some n → s.systemdNetworkdEnabled i = some b →
    i ∉ s.ignoredIntf →
    ∃ x, s.interfaces.lookup n = some x ∧ s.interfacesByIdx i = some x.addr ∧ x.obj.info = a.intf

/-- The registry is coherent with the live links `k`. -/
structure Coherent (k : LiveLinks) (s : Manager) extends Tables k s : Prop where
  recorded : Recorded k s
  current : ∀ i, s.Current i

variable (env : Env) {k k' : LiveLinks} {s s' : Manager}

theorem Tables.of_eq {t : Manager} (h : Tables k s) (hl : t.interfaces = s.interfaces)
    (hb : t.interfacesByIdx = s.interfacesByIdx) : Tables k t where
  owned n x hx := by rw [hb]; exact h.owned n x (hl ▸ hx)
  bound i p hp := by rw [hl]; exact h.bound i p (hb ▸ hp)
  named n x hx := h.named n x (hl ▸ hx)

theorem Current.of_eq {t : Manager} {i : Nat} (h : s.Current i) (hi : t.intfInfo i = s.intfInfo i)
    (hs : t.systemdNetworkdEnabled i = s.systemdNetworkdEnabled i)
    (hg : t.ignoredIntf = s.ignoredIntf) (hl : t.interfaces = s.interfaces)
    (hb : t.interfacesByIdx = s.interfacesByIdx) : t.Current i := by
  intro a n b ha hn hsb hig
  rw [hi] at ha; rw [hs] at hsb; rw [hg] at hig
  rw [hl, hb]
  exact h a n b ha hn hsb hig

/-! ### The tables -/

namespace Tables

theorem mono (h : Tables k s) (hk : ∀ l ∈ k, l ∈ k') : Tables k' s where
  owned n x hx := let ⟨i, hi, hb⟩ := h.owned n x hx; ⟨i, hk _ hi, hb⟩
  bound i p hp := let ⟨n, x, hn, hx, hp⟩ := h.bound i p hp; ⟨n, x, hk _ hn, hx, hp⟩
  named := h.named

/-- A bound address is owned. -/
theorem owns (h : Tables k s) {i p : Nat} (hb : s.interfacesByIdx i = some p) : s.Owns p :=
  let ⟨n, x, _, hx, hp⟩ := h.bound i p hb; ⟨n, x, hx, hp⟩

/-- The object bound at a live link's index is the one owned under the link's name, and the
first the pool finds at its address. -/
theorem findObj (h : Tables k s) (hk : k.Distinct)
    (hinj : ∀ n n' x x', s.interfaces.lookup n = some x → s.interfaces.lookup n' = some x' →
      x.addr = x'.addr → n = n')
    {i p : Nat} {n : String} (hb : s.interfacesByIdx i = some p) (hn : (i, n) ∈ k) :
    ∃ x, s.interfaces.lookup n = some x ∧ x.addr = p ∧ s.findObj p = some ⟨n, x⟩ := by
  obtain ⟨m, x, hm, hx, rfl⟩ := h.bound i p hb
  obtain rfl := hk.idx i m n hm hn
  obtain ⟨e, he⟩ := Option.isSome_iff_exists.mp (owns_iff_findObj.mp (h.owns hb))
  obtain ⟨hl, ha⟩ := findObj_spec he
  obtain rfl := hinj _ _ _ _ hl hx ha
  exact ⟨e.2, hl, ha, he⟩

theorem setObj (h : Tables k s) {e : IntfEntry} {o : EthernetInterface}
    (he : s.interfaces.lookup e.1 = some e.2) (ho : o.interfaceName = e.2.obj.interfaceName) :
    Tables k (s.setObj e o) where
  owned n x hx := by
    rcases lookup_setObj hx with ⟨rfl, rfl⟩ | hx
    · exact h.owned e.1 e.2 he
    · exact h.owned n x hx
  bound i p hp := by
    obtain ⟨n, x, hn, hx, rfl⟩ := h.bound i p hp
    by_cases hne : n = e.1
    · subst hne
      rw [he, Option.some_inj] at hx
      subst hx
      exact ⟨_, { e.2 with obj := o }, hn, by simp, rfl⟩
    · exact ⟨n, x, hn, by rw [setObj_interfaces, AList.lookup_insert_ne hne, hx], rfl⟩
  named n x hx := by
    rcases lookup_setObj hx with ⟨rfl, rfl⟩ | hx
    · exact ho.trans (h.named _ _ he)
    · exact h.named n x hx

theorem construct (h : Tables k s) {a : AllIntfInfo} {b : Bool} {n : String}
    (hb : s.interfacesByIdx a.intf.idx = none) (hl : s.interfaces.lookup n = none)
    (hn : (a.intf.idx, n) ∈ k) : Tables k (Manager.construct env a b n s) where
  owned m x hx := by
    rcases lookup_construct env hx with ⟨rfl, rfl⟩ | hx
    · exact ⟨_, hn, by simp⟩
    · obtain ⟨j, hj, hbj⟩ := h.owned m x hx
      have hji : j ≠ a.intf.idx := by rintro rfl; rw [hb] at hbj; cases hbj
      exact ⟨j, hj, by simp [hji, hbj]⟩
  bound j p hp := by
    rcases (construct_interfacesByIdx_eq_some env).mp hp with ⟨rfl, rfl⟩ | ⟨-, hp⟩
    · exact ⟨n, ⟨s.nextAddr, .new env.toStr a n b⟩, hn, by simp, rfl⟩
    · obtain ⟨m, x, hm, hx, rfl⟩ := h.bound j _ hp
      have hmn : m ≠ n := by rintro rfl; rw [hl] at hx; cases hx
      exact ⟨m, x, hm, by rw [construct_interfaces, AList.lookup_insert_ne hmn, hx], rfl⟩
  named m x hx := by
    rcases lookup_construct env hx with ⟨rfl, rfl⟩ | hx
    · rfl
    · exact h.named m x hx

/-- **`createInterface` for a live link under its own name returns**, and keeps the tables: it
leaves an ignored link alone, refreshes the object already bound at the link's index, or
constructs one for a link that has none. No other name and no other index changes. -/
theorem createInterface (h : Tables k s) (hk : k.Distinct)
    (hinj : ∀ n n' x x', s.interfaces.lookup n = some x → s.interfaces.lookup n' = some x' →
      x.addr = x'.addr → n = n')
    {a : AllIntfInfo} {n : String} (hn : a.intf.name = some n) (hl : (a.intf.idx, n) ∈ k)
    (b : Bool) :
    ∃ s', s.createInterface env a b = .ok s' ∧ Tables k s' ∧
      (∀ m, m ≠ n → s'.interfaces.lookup m = s.interfaces.lookup m) ∧
      (∀ j, j ≠ a.intf.idx → s'.interfacesByIdx j = s.interfacesByIdx j) ∧
      (a.intf.idx ∉ s.ignoredIntf → ∃ x, s'.interfaces.lookup n = some x ∧
        s'.interfacesByIdx a.intf.idx = some x.addr ∧ x.obj.info = a.intf) := by
  by_cases hig : a.intf.idx ∈ s.ignoredIntf
  · exact ⟨s, by simp [Manager.createInterface, hig], h, fun _ _ => rfl, fun _ _ => rfl,
      fun h' => absurd hig h'⟩
  cases hb : s.interfacesByIdx a.intf.idx with
  | some p =>
    -- the link's object: filed under the link's name, so no rename
    obtain ⟨x, hx, rfl, hf⟩ := h.findObj hk hinj hb hl
    refine ⟨s.setObj ⟨n, x⟩ (x.obj.updateInfo a.intf), ?_, h.setObj hx rfl, fun m hm => ?_,
      fun _ _ => rfl, fun _ => ⟨{ x with obj := x.obj.updateInfo a.intf }, by simp, hb, rfl⟩⟩
    · simp [Manager.createInterface, hig, hb, hf, hn, h.named n x hx]
    · simp [hm]
  | none =>
    -- no object: the name is free, since no other live link holds it
    have hnone : s.interfaces.lookup n = none := by
      cases hx : s.interfaces.lookup n with
      | none => rfl
      | some x =>
        obtain ⟨j, hj, hbj⟩ := h.owned n x hx
        obtain rfl := hk.name _ _ _ hj hl
        rw [hb] at hbj
        cases hbj
    refine ⟨Manager.construct env a b n s, ?_, h.construct env hb hnone hl, fun m hm => ?_,
      fun j hj => ?_, fun _ => ⟨⟨s.nextAddr, .new env.toStr a n b⟩, by simp, by simp, rfl⟩⟩
    · simp [Manager.createInterface, hig, hb, hn, hnone]
    · simp [hm]
    · simp [hj]

end Tables

/-! ### The operations keep the registry coherent -/

namespace Coherent

theorem mono (h : Coherent k s) (hk : ∀ l ∈ k, l ∈ k') : Coherent k' s :=
  { h.toTables.mono hk with
    recorded := fun i a ha => let ⟨n, hn, hi⟩ := h.recorded i a ha; ⟨n, hn, hk _ hi⟩
    current := h.current }

theorem empty (k : LiveLinks) : Coherent k Manager.empty where
  owned _ _ h := by simp [Manager.empty] at h
  bound _ _ h := by cases h
  named _ _ h := by simp [Manager.empty] at h
  recorded _ _ h := by cases h
  current _ _ _ _ h := by cases h

/-- `createInterface`, handed the record of link `i` on a registry that is coherent except at
`i`, returns a coherent registry. -/
theorem create {i : Nat} (hcur : ∀ j, j ≠ i → s.Current j) (ht : Tables k s)
    (hrec : Recorded k s) (hk : k.Distinct)
    (hinj : ∀ n n' x x', s.interfaces.lookup n = some x → s.interfaces.lookup n' = some x' →
      x.addr = x'.addr → n = n')
    {a : AllIntfInfo} (ha : s.intfInfo i = some a) (hai : a.intf.idx = i) (b : Bool) :
    ∃ s', s.createInterface env a b = .ok s' ∧ Coherent k s' := by
  obtain ⟨n, hn, hl⟩ := hrec i a ha
  subst hai
  obtain ⟨s', hs, ht', hlk, hbj, hnew⟩ := ht.createInterface env hk hinj hn hl b
  have hpf := createInterface_poolFrame env hs
  refine ⟨s', hs, ht', fun j c hc => hrec j c (by rwa [hpf.intfInfo] at hc),
    fun j c m b' hc hm hb' hj => ?_⟩
  rw [hpf.intfInfo] at hc
  rw [hpf.systemdNetworkdEnabled] at hb'
  rw [hpf.ignoredIntf] at hj
  by_cases hji : j = a.intf.idx
  · -- the link handed over: `createInterface` made its object current
    subst hji
    rw [ha, Option.some_inj] at hc
    subst hc
    rw [hn, Option.some_inj] at hm
    subst hm
    exact hnew hj
  · -- another link: its name is not the one handed over, and its binding is untouched
    obtain ⟨x, hx, hbx, hxi⟩ := hcur j hji c m b' hc hm hb' hj
    have hmn : m ≠ n := by
      rintro rfl
      obtain ⟨m', hm', hjm⟩ := hrec j c hc
      rw [hm, Option.some_inj] at hm'
      subst hm'
      exact hji (hk.name _ _ _ hjm hl)
    exact ⟨x, (hlk m hmn).trans hx, (hbj j hji).trans hbx, hxi⟩

/-- Rewriting a record without changing its link report keeps the registry coherent. -/
theorem setInfo (h : Coherent k s) {i : Nat} {a a' : AllIntfInfo} (ha : s.intfInfo i = some a)
    (hi : a'.intf = a.intf) : Coherent k (s.setInfo i a') := by
  refine ⟨h.toTables.of_eq rfl rfl, fun j c hc => ?_, fun j => ?_⟩ <;> by_cases hj : j = i
  · subst hj
    simp only [setInfo_intfInfo, Function.update_same, Option.some_inj] at hc
    subst hc
    rw [hi]
    exact h.recorded _ a ha
  · exact h.recorded j c (by simpa [hj] using hc)
  · subst hj
    intro c n b hc
    simp only [setInfo_intfInfo, Function.update_same, Option.some_inj] at hc
    subst hc
    rw [hi]
    exact h.current _ a n b ha
  · exact (h.current j).of_eq (by simp [hj]) rfl rfl rfl rfl

theorem ignore (h : Coherent k s) (i : Nat) :
    Coherent k { s with ignoredIntf := insert i s.ignoredIntf } :=
  ⟨h.toTables.of_eq rfl rfl, h.recorded, fun j a n b ha hn hb hj =>
    h.current j a n b ha hn hb fun h' => hj (Finset.mem_insert_of_mem h')⟩

/-- Replacing an object by one with the same name and report keeps the registry coherent. -/
theorem setObj (h : Coherent k s) {e : IntfEntry} {o : EthernetInterface}
    (he : s.interfaces.lookup e.1 = some e.2) (ho : o.interfaceName = e.2.obj.interfaceName)
    (hi : o.info = e.2.obj.info) : Coherent k (s.setObj e o) :=
  { h.toTables.setObj he ho with
    recorded := h.recorded
    current := fun j a n b ha hn hb hj => by
      obtain ⟨x, hx, hbx, hxi⟩ := h.current j a n b ha hn hb hj
      by_cases hne : n = e.1
      · subst hne
        rw [he, Option.some_inj] at hx
        subst hx
        exact ⟨{ e.2 with obj := o }, by simp, hbx, hi.trans hxi⟩
      · exact ⟨x, by rw [setObj_interfaces, AList.lookup_insert_ne hne, hx], hbx, hxi⟩ }

/-- A call through a pointer to an owned object, keeping the object's name and report, returns
and keeps the registry coherent. -/
theorem withObj (h : Coherent k s) {p : Nat} (hp : s.Owns p)
    (f : EthernetInterface → EthernetInterface)
    (hf : ∀ o, (f o).interfaceName = o.interfaceName ∧ (f o).info = o.info) :
    ∃ s', s.withObj p f = .ok s' ∧ Coherent k s' := by
  obtain ⟨e, he⟩ := Option.isSome_iff_exists.mp (owns_iff_findObj.mp hp)
  exact ⟨_, by simp [Manager.withObj, he], h.setObj (findObj_spec he).1 (hf _).1 (hf _).2⟩

theorem forIdx (h : Coherent k s) (i : Nat) (f : EthernetInterface → EthernetInterface)
    (hf : ∀ o, (f o).interfaceName = o.interfaceName ∧ (f o).info = o.info) :
    ∃ s', s.forIdx i f = .ok s' ∧ Coherent k s' := by
  cases hb : s.interfacesByIdx i with
  | none => exact ⟨s, by simp [Manager.forIdx, hb], h⟩
  | some p => simpa [Manager.forIdx, hb] using h.withObj (h.owns hb) f hf

theorem exists_catchStd {r : Except Exn Manager} (h : ∃ s', r = .ok s' ∧ Coherent k s') :
    ∃ s', Netlink.catchStd s r = .ok s' ∧ Coherent k s' :=
  let ⟨s', hr, hc⟩ := h; ⟨s', by rw [hr]; rfl, hc⟩

theorem addAddress (h : Coherent k s) (info : AddressInfo) :
    ∃ s', Netlink.catchStd s (s.addAddress info) = .ok s' ∧ Coherent k s' := by
  unfold Manager.addAddress
  by_cases hd : info.flags &&& ifaFDeprecated ≠ 0
  · rw [if_pos hd]; exact ⟨s, rfl, h⟩
  rw [if_neg hd]
  cases ha : s.intfInfo info.ifidx with
  | some a => exact exists_catchStd ((h.setInfo ha (by rfl)).forIdx _ _ fun _ => ⟨rfl, rfl⟩)
  | none => dsimp only; split_ifs <;> exact ⟨s, rfl, h⟩

theorem removeAddress (h : Coherent k s) (info : AddressInfo) :
    ∃ s', s.removeAddress info = .ok s' ∧ Coherent k s' := by
  unfold Manager.removeAddress
  cases hb : s.interfacesByIdx info.ifidx with
  | none => exact ⟨s, rfl, h⟩
  | some p =>
    obtain ⟨t, ht, hc⟩ := h.withObj (h.owns hb)
      (fun o => { o with addrs := Function.update o.addrs info.ifaddr none }) fun _ => ⟨rfl, rfl⟩
    simp only [ht, Except.map]
    cases ha : t.intfInfo info.ifidx with
    | none => exact ⟨t, rfl, hc⟩
    | some a =>
      exact ⟨t.setInfo info.ifidx { a with addrs := Function.update a.addrs info.ifaddr none }, rfl,
        hc.setInfo ha rfl⟩

theorem addNeighbor (h : Coherent k s) (info : NeighborInfo) :
    ∃ s', Netlink.catchStd s (s.addNeighbor info) = .ok s' ∧ Coherent k s' := by
  unfold Manager.addNeighbor
  by_cases hp : info.state &&& nudPermanent = 0
  · rw [if_pos hp]; exact ⟨s, rfl, h⟩
  rw [if_neg hp]
  cases info.addr with
  | none => exact ⟨s, rfl, h⟩
  | some addr =>
    dsimp only
    cases ha : s.intfInfo info.ifidx with
    | some a => exact exists_catchStd ((h.setInfo ha (by rfl)).forIdx _ _ fun _ => ⟨by simp, by simp⟩)
    | none => dsimp only; split_ifs <;> exact ⟨s, rfl, h⟩

theorem removeNeighbor (h : Coherent k s) (info : NeighborInfo) :
    ∃ s', s.removeNeighbor info = .ok s' ∧ Coherent k s' := by
  unfold Manager.removeNeighbor
  cases info.addr with
  | none => exact ⟨s, rfl, h⟩
  | some addr =>
    dsimp only
    cases ha : s.intfInfo info.ifidx with
    | some a => exact (h.setInfo ha (by rfl)).forIdx _ _ fun _ => ⟨rfl, rfl⟩
    | none => exact ⟨s, rfl, h⟩

theorem addDefGw (h : Coherent k s) (i : Nat) (g : InAnyAddr) :
    ∃ s', s.addDefGw env i g = .ok s' ∧ Coherent k s' := by
  unfold Manager.addDefGw
  cases ha : s.intfInfo i with
  | some a => exact (h.setInfo ha (by simp)).forIdx _ _ fun _ => ⟨by simp, by simp⟩
  | none => exact ⟨s, rfl, h⟩

theorem removeDefGw (h : Coherent k s) (i : Nat) (g : InAnyAddr) :
    ∃ s', s.removeDefGw env i g = .ok s' ∧ Coherent k s' := by
  unfold Manager.removeDefGw
  cases ha : s.intfInfo i with
  | some a => exact (h.setInfo ha (by simp)).forIdx _ _ fun _ => ⟨by simp, by simp⟩
  | none => exact ⟨s, rfl, h⟩

theorem rthandler (h : Coherent k s) (gw : Option (Nat × InAnyAddr))
    {cb : Nat → InAnyAddr → Except Exn Manager} (hcb : ∀ i g, ∃ s', cb i g = .ok s' ∧ Coherent k s') :
    ∃ s', Netlink.rthandler gw cb s = .ok s' ∧ Coherent k s' := by
  rcases gw with _ | ⟨i, g⟩
  · exact ⟨s, rfl, h⟩
  · exact hcb i g

/-- **A message that is not a link message is handled** on a coherent registry, which stays
coherent: its calls through pointers reach owned objects, and a refused address or neighbour is
caught. -/
theorem handler_of_not_isLink (h : Coherent k s) {m : RtMsg} (hm : m.isLink = false) :
    ∃ s', Netlink.handler env s m = .ok s' ∧ Coherent k s' := by
  rcases m with info | info | gw | gw | info | info | info | info
  · cases hm
  · cases hm
  · exact exists_catchStd (h.rthandler gw (h.addDefGw env))
  · exact exists_catchStd (h.rthandler gw (h.removeDefGw env))
  · exact h.addAddress info
  · exact exists_catchStd (h.removeAddress info)
  · exact h.addNeighbor info
  · exact exists_catchStd (h.removeNeighbor info)

/-- **A `NEWLINK` that renames no live link is handled**, and the registry is coherent with the
live links after it. -/
theorem addInterface (h : Coherent k s) (hk : k.Distinct)
    (hinj : ∀ n n' x x', s.interfaces.lookup n = some x → s.interfaces.lookup n' = some x' →
      x.addr = x'.addr → n = n')
    {info : InterfaceInfo} {n : String} (hn : info.name = some n)
    (hfree : ∀ l ∈ k, l.1 = info.idx ∨ l.2 ≠ n) (hkeep : ∀ l ∈ k, l.1 = info.idx → l.2 = n) :
    ∃ s', s.addInterface env info = .ok s' ∧
      Coherent ((info.idx, n) :: k.filter (·.1 ≠ info.idx)) s' := by
  have hc : Coherent ((info.idx, n) :: k.filter (·.1 ≠ info.idx)) s := h.mono fun l hl => by
    by_cases hi : l.1 = info.idx
    · exact List.mem_cons.mpr (.inl (Prod.ext hi (hkeep l hl hi)))
    · exact List.mem_cons_of_mem _ (List.mem_filter.mpr ⟨hl, decide_eq_true hi⟩)
  unfold Manager.addInterface
  split_ifs
  · exact ⟨_, rfl, hc.ignore _⟩
  · exact ⟨_, rfl, hc.ignore _⟩
  -- the link is recorded under its name, and every other link stays as it was
  have hrec : Recorded ((info.idx, n) :: k.filter (·.1 ≠ info.idx))
      (s.setInfo info.idx (s.linkInfo info)) := by
    intro j c hj
    by_cases hji : j = info.idx
    · subst hji
      simp only [setInfo_intfInfo, Function.update_same, Option.some_inj] at hj
      subst hj
      exact ⟨n, by rw [linkInfo_intf, hn], List.mem_cons_self _ _⟩
    · exact hc.recorded j c (by simpa [hji] using hj)
  have hcur : ∀ j, j ≠ info.idx → (s.setInfo info.idx (s.linkInfo info)).Current j :=
    fun j hj => (hc.current j).of_eq (by simp [hj]) rfl rfl rfl rfl
  simp only [setInfo_systemdNetworkdEnabled]
  cases hb : s.systemdNetworkdEnabled info.idx with
  | none =>
    refine ⟨_, rfl, hc.toTables.of_eq rfl rfl, hrec, fun j => ?_⟩
    by_cases hji : j = info.idx
    · subst hji
      intro _ _ b _ _ hb'
      rw [setInfo_systemdNetworkdEnabled, hb] at hb'
      cases hb'
    · exact hcur j hji
  | some b =>
    refine create env hcur ?_ hrec (hk.newLink hfree) hinj (by simp) (by rw [linkInfo_intf]) b
    exact hc.toTables.of_eq rfl rfl

/-- A registry that agrees with `s` away from link `i` and its name `n`, and keeps no object
under `n`, no binding at `i` and no record of `i`, is coherent with the live links without
`i`. -/
theorem remove (h : Coherent k s) (hk : k.Distinct) {i : Nat} {n : String} (hl : (i, n) ∈ k)
    {t : Manager} (hI : ∀ m, t.interfaces.lookup m = if m = n then none else s.interfaces.lookup m)
    (hB : t.interfacesByIdx = Function.update s.interfacesByIdx i none)
    (hR : t.intfInfo = Function.update s.intfInfo i none)
    (hS : t.systemdNetworkdEnabled = s.systemdNetworkdEnabled)
    (hG : ∀ j, j ≠ i → j ∉ t.ignoredIntf → j ∉ s.ignoredIntf) :
    Coherent (k.filter (·.1 ≠ i)) t := by
  -- another live link has another index and another name
  have hname : ∀ j m, (j, m) ∈ k → j ≠ i → m ≠ n :=
    fun j m hj hji hmn => hji (hk.name _ _ _ (hmn ▸ hj) hl)
  have hidx : ∀ j m, (j, m) ∈ k → m ≠ n → j ≠ i :=
    fun j m hj hmn hji => hmn (hk.idx _ _ _ (hji ▸ hj) hl)
  have hmem : ∀ j m, (j, m) ∈ k → j ≠ i → (j, m) ∈ k.filter (·.1 ≠ i) :=
    fun j m hj hji => List.mem_filter.mpr ⟨hj, decide_eq_true hji⟩
  refine ⟨⟨fun m y hy => ?_, fun j p hp => ?_, fun m y hy => ?_⟩, fun j c hc => ?_,
    fun j c m b hc hm hb hg => ?_⟩
  · rw [hI] at hy
    split_ifs at hy with hmn
    obtain ⟨j, hj, hbj⟩ := h.owned m y hy
    have hji := hidx j m hj hmn
    exact ⟨j, hmem j m hj hji, by rw [hB, Function.update_noteq hji, hbj]⟩
  · rw [hB] at hp
    obtain ⟨hji, hp⟩ := update_none_eq_some hp
    obtain ⟨m, y, hm, hy, rfl⟩ := h.bound j p hp
    exact ⟨m, y, hmem j m hm hji, by rw [hI, if_neg (hname j m hm hji), hy], rfl⟩
  · rw [hI] at hy
    split_ifs at hy
    exact h.named m y hy
  · rw [hR] at hc
    obtain ⟨hji, hc⟩ := update_none_eq_some hc
    obtain ⟨m, hm, hjm⟩ := h.recorded j c hc
    exact ⟨m, hm, hmem j m hjm hji⟩
  · rw [hR] at hc
    obtain ⟨hji, hc⟩ := update_none_eq_some hc
    rw [hS] at hb
    obtain ⟨x, hx, hbx, hxi⟩ := h.current j c m b hc hm hb (hG j hji hg)
    obtain ⟨m', hm', hjm⟩ := h.recorded j c hc
    rw [hm, Option.some_inj] at hm'
    subst hm'
    exact ⟨x, by rw [hI, if_neg (hname j _ hjm hji), hx], by rw [hB, Function.update_noteq hji, hbx],
      hxi⟩

/-- **A `DELLINK` of a live link under its name is handled**: the name lookup and the index
lookup find the same object or none, so there is no desync abort, and the registry is coherent
with the live links without it. -/
theorem removeInterface (h : Coherent k s) (hk : k.Distinct) {info : InterfaceInfo} {n : String}
    (hn : info.name = some n) (hl : (info.idx, n) ∈ k) :
    ∃ s', s.removeInterface info = .ok s' ∧ Coherent (k.filter (·.1 ≠ info.idx)) s' := by
  have hboth : (∃ x, s.interfaces.lookup n = some x ∧ s.interfacesByIdx info.idx = some x.addr) ∨
      (s.interfaces.lookup n = none ∧ s.interfacesByIdx info.idx = none) := by
    cases hx : s.interfaces.lookup n with
    | some x =>
      obtain ⟨j, hj, hbj⟩ := h.owned n x hx
      obtain rfl := hk.name _ _ _ hj hl
      exact .inl ⟨x, rfl, hbj⟩
    | none =>
      refine .inr ⟨rfl, ?_⟩
      cases hb : s.interfacesByIdx info.idx with
      | none => rfl
      | some p =>
        obtain ⟨m, y, hm, hy, -⟩ := h.bound _ p hb
        obtain rfl := hk.idx _ _ _ hm hl
        rw [hx] at hy
        cases hy
  unfold Manager.removeInterface removeTarget
  rcases hboth with ⟨x, hx, hb⟩ | ⟨hx, hb⟩
  · simp only [hn, hx, hb, ne_eq, not_true_eq_false, if_false, Except.map, Except.ok.injEq,
      exists_eq_left']
    refine h.remove hk hl (fun m => ?_) rfl rfl rfl fun _ _ => id
    by_cases hm : m = n
    · subst hm; simp
    · simp [hm, AList.lookup_erase_ne hm]
  · simp only [hn, hx, hb, Except.map, Except.ok.injEq, exists_eq_left']
    refine h.remove hk hl (fun m => ?_) (by rw [← hb, Function.update_eq_self]) rfl rfl
      fun j hj hg hg' => hg (Finset.mem_erase.mpr ⟨hj, hg'⟩)
    split_ifs with hm
    · subst hm; exact hx
    · rfl

theorem handleAdminState (h : Coherent k s) (hk : k.Distinct)
    (hinj : ∀ n n' x x', s.interfaces.lookup n = some x → s.interfaces.lookup n' = some x' →
      x.addr = x'.addr → n = n')
    (hf : InfoFiltered s.intfInfo) (st : String) (i : Nat) :
    ∃ s', s.handleAdminState env st i = .ok s' ∧ Coherent k s' := by
  have hcur : ∀ (e : Option Bool) j, j ≠ i →
      Manager.Current { s with systemdNetworkdEnabled := Function.update s.systemdNetworkdEnabled i e } j :=
    fun e j hj => (h.current j).of_eq rfl (by simp [hj]) rfl rfl rfl
  unfold Manager.handleAdminState
  split_ifs
  · -- a withdrawal: link `i` has no state any more
    refine ⟨_, rfl, h.toTables.of_eq rfl rfl, h.recorded, fun j => ?_⟩
    by_cases hji : j = i
    · subst hji; intro _ _ _ _ _ hb; simp at hb
    · exact hcur none j hji
  · dsimp only
    cases ha : s.intfInfo i with
    | none =>
      refine ⟨_, rfl, h.toTables.of_eq rfl rfl, h.recorded, fun j => ?_⟩
      by_cases hji : j = i
      · subst hji; intro _ _ _ ha'; exact Option.noConfusion (ha'.symm.trans ha)
      · exact hcur _ j hji
    | some a =>
      refine create env (hcur _) ?_ h.recorded hk hinj ha (hf i a ha).intf _
      exact h.toTables.of_eq rfl rfl

/-- **One event of a kernel stream that renames no live link is handled**, from a reachable
coherent registry, which stays coherent with the live links after it. -/
theorem step (hr : Reachable env s) (h : Coherent k s) (hk : k.Distinct) {e : Event}
    (ha : k.admits e = true) (hn : k.renames e = false) :
    ∃ s', step env s e = .ok s' ∧ Coherent (k.after e) s' := by
  have hinj := hr.owned_inj
  rcases e with m | ⟨st, i⟩
  swap
  · exact h.handleAdminState env hk hinj hr.infoFiltered st i
  cases hm : m.isLink
  · rw [LiveLinks.after_of_not_isLink hm]
    exact h.handler_of_not_isLink env hm
  rcases m with info | info | _ | _ | _ | _ | _ | _
  · -- `NEWLINK`
    rcases hname : info.name with _ | n
    · simp [LiveLinks.admits, hname] at ha
    simp only [LiveLinks.admits, hname, List.all_eq_true, decide_eq_true_eq] at ha
    simp only [LiveLinks.renames, hname, List.any_eq_false, decide_eq_true_eq, not_and, ne_eq,
      Option.some_inj, not_not] at hn
    rw [LiveLinks.after_newLink hname]
    obtain ⟨s', hs, hc⟩ := h.addInterface env hk hinj hname ha fun l hl hi => (hn l hl hi).symm
    exact ⟨s', by simp only [PhosphorNetworkd.step, Netlink.handler, hs, Netlink.catchStd_ok], hc⟩
  · -- `DELLINK`
    rcases hname : info.name with _ | n
    · simp [LiveLinks.admits, hname] at ha
    simp only [LiveLinks.admits, hname, decide_eq_true_eq] at ha
    obtain ⟨s', hs, hc⟩ := h.removeInterface hk hname ha
    exact ⟨s', by simp only [PhosphorNetworkd.step, Netlink.handler, hs, Netlink.catchStd_ok], hc⟩
  all_goals cases hm

/-- The run lemma: a kernel stream that renames no live link runs to its end. -/
theorem run (hr : Reachable env s) (h : Coherent k s) (hk : k.Distinct) {es : List Event}
    (hs : KernelStream k es = true) (hn : RenameFree k es = true) :
    ∃ s', run env s es = .ok s' ∧ Coherent (es.foldl LiveLinks.after k) s' := by
  induction es generalizing s k with
  | nil => exact ⟨s, rfl, h⟩
  | cons e es ih =>
    simp only [KernelStream, RenameFree, Bool.and_eq_true, Bool.not_eq_true'] at hs hn
    obtain ⟨s1, h1, hc1⟩ := h.step env hr hk hs.1 hn.1
    obtain ⟨s', h', hc'⟩ := ih (hr.step h1) hc1 (hk.after hs.1) hs.2 hn.2
    exact ⟨s', by rw [PhosphorNetworkd.run, h1]; exact h', hc'⟩

end Coherent

end Manager

/-! ## §3 — the theorem -/

/-- **A kernel that never renames a live link keeps the registry coherent.** From any reachable
registry coherent with the kernel's live links `k`, along every kernel stream in which no
`NEWLINK` renames a live link, with any supervisor reports for any indices interleaved, every
step returns: no `removeInterface` reaches the desync abort and no call goes through a
dangling pointer. The registry at the end is coherent with the links then live: its objects are
exactly owned under live links' names and bound at their indices, its records are live links',
and every recorded link the supervisor has reported and the registry does not ignore has its
object, showing the link's latest report. -/
theorem renameFree_coherent {env : Env} {k : LiveLinks} {s : Manager} (hr : Reachable env s)
    (hk : k.Distinct) (hc : Manager.Coherent k s) {es : List Event}
    (hs : KernelStream k es = true) (hn : RenameFree k es = true) :
    ∃ s', run env s es = .ok s' ∧ Manager.Coherent (es.foldl LiveLinks.after k) s' :=
  hc.run env hr hk hs hn

/-- Links 1 and 2 come up as `eth0` and `eth1`, link 1 managed; link 1 reports an address and
goes away, and its name comes back on link 3, which the supervisor reports unmanaged. -/
def reuseRun : List Event :=
  [.adminState "configured" 1, .rtnetlink (.newLink (ether 1 "eth0")),
   .rtnetlink (.newLink (ether 2 "eth1")), .rtnetlink (.newAddr (sampleAddr 1)),
   .rtnetlink (.delLink (ether 1 "eth0")), .rtnetlink (.newLink (ether 3 "eth0")),
   .adminState "unmanaged" 3]

theorem renameFree_coherent_reuse :
    ∃ s', run ⟨[], fun _ => ""⟩ Manager.empty reuseRun = .ok s' ∧
      Manager.Coherent (reuseRun.foldl LiveLinks.after []) s' :=
  renameFree_coherent .empty .nil (.empty []) (by decide) (by decide)

/-! ### A rename breaks coherence

Without the rename-free hypothesis the theorem fails. A `NEWLINK` that renames a link while its
supervisor state is withdrawn updates the record and leaves the object under the old name,
bound at the link's index, while the kernel frees the old name for the next link. -/

/-- Links 1 and 2 are managed as `a` and `b`; both states are withdrawn, link 1 is renamed `c`
and link 2 takes the free name `a`; then link 2 goes away. -/
def desyncRun : List Event :=
  [.adminState "configured" 1, .rtnetlink (.newLink (ether 1 "a")),
   .adminState "configured" 2, .rtnetlink (.newLink (ether 2 "b")),
   .adminState "initialized" 1, .rtnetlink (.newLink (ether 1 "c")),
   .adminState "initialized" 2, .rtnetlink (.newLink (ether 2 "a")),
   .rtnetlink (.delLink (ether 2 "a"))]

/-- **`removeInterface` aborts on a kernel stream.** Before the last event the name `a` owns the
object bound at index 1, whose link is now named `c`; the `DELLINK` of link 2 under `a` finds
that object by name and link 2's own object by index, and stops the daemon. -/
theorem removeInterface_desync (toStr : InAnyAddr → String) :
    KernelStream [] desyncRun = true ∧
    (∃ s, run ⟨[], toStr⟩ Manager.empty (desyncRun.take 8) = .ok s ∧
      (s.interfaces.lookup "a").map (·.addr) = some 0 ∧ s.interfacesByIdx 1 = some 0 ∧
      (s.intfInfo 1).bind (·.intf.name) = some "c") ∧
    run ⟨[], toStr⟩ Manager.empty desyncRun = .error (.abort "Removed interface desync detected") :=
  ⟨by decide, ⟨_, rfl, rfl, rfl, rfl⟩, rfl⟩

end PhosphorNetworkd
