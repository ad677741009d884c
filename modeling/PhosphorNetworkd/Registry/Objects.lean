/-
# PhosphorNetworkd.Registry.Objects — which objects a step keeps, and which it constructs.

An `EthernetInterface` gets its managed flag once, from the `enabled` argument of its
constructor, and no method the registry calls on it afterwards (`updateInfo`, `addAddr`,
`addStaticNeigh`, the gateway setters, the erasers) touches the flag. The only constructor call
is in `createInterface`, which runs with the supervisor state recorded for the link at that
moment. So after every step each object is either one the registry already owned, with the flag
it had, or the single object the step constructed, at the allocator's address, bound at its
link's index and flagged with the state now recorded for that link (`step_nicEnabled`).

A later report for a link that already has an object therefore changes the recorded state and
not the object's flag (`handleAdminState_keeps_flag`): the by-index objects do not follow the
supervisor state.

The address, neighbour and gateway messages only call through by-index pointers and keep the
bindings (`PtrFrame`). An index is bound only by `createInterface`, which is always handed the
record of its link, and `removeInterface` erases binding and record together, so every index
bound in a reachable registry has a record filed under it (`byIdx_recorded`). A binding need not
reach an object, though: `removeInterface` destroys the object under the name its `DELLINK`
carries, and after a rename while the link's state was withdrawn that is the object bound at
another link's index (`byIdx_dangles`).

Kernel messages never write the supervisor states, and a constructed object carries the state
recorded for its link; so until the supervisor reports, the kernel's messages construct no
object (`netlink_constructs_no_object`).
-/
import PhosphorNetworkd.Registry.Filters

namespace PhosphorNetworkd

/-- Whether `m` is a link message, the only kind that constructs, binds or unbinds an object. -/
def RtMsg.isLink : RtMsg → Bool
  | .newLink _ | .delLink _ => true
  | _ => false

namespace Manager

/-- `s` owns an object at `x`'s address with `x`'s managed flag. -/
def HadObj (s : Manager) (x : IntfPtr) : Prop :=
  ∃ n y, s.interfaces.lookup n = some y ∧ y.addr = x.addr ∧ y.obj.nicEnabled = x.obj.nicEnabled

/-- Every object of `s'` is one `s` owned, with its flag. -/
def KeepsObjs (s s' : Manager) : Prop :=
  ∀ n x, s'.interfaces.lookup n = some x → s.HadObj x

variable (env : Env) {s s' : Manager}

/-! ## §1 — the pool operations -/

theorem KeepsObjs.of_interfaces (h : s'.interfaces = s.interfaces) : KeepsObjs s s' :=
  fun n x hx => ⟨n, x, h ▸ hx, rfl, rfl⟩

theorem KeepsObjs.of_erase {k : String} (h : s'.interfaces = s.interfaces.erase k) :
    KeepsObjs s s' := by
  intro n x hx
  rw [h] at hx
  by_cases hn : n = k
  · subst hn; simp at hx
  · exact ⟨n, x, by rwa [AList.lookup_erase_ne hn] at hx, rfl, rfl⟩

theorem lookup_setObj {e : IntfEntry} {o : EthernetInterface} {n : String} {x : IntfPtr}
    (h : (s.setObj e o).interfaces.lookup n = some x) :
    (n = e.1 ∧ x = { e.2 with obj := o }) ∨ s.interfaces.lookup n = some x := by
  by_cases hn : n = e.1
  · subst hn; simp [AList.lookup_insert] at h; exact .inl ⟨rfl, h.symm⟩
  · exact .inr (by rwa [setObj_interfaces, AList.lookup_insert_ne hn] at h)

theorem lookup_construct {a : AllIntfInfo} {b : Bool} {name n : String} {x : IntfPtr}
    (h : (construct env a b name s).interfaces.lookup n = some x) :
    (n = name ∧ x = ⟨s.nextAddr, .new env.toStr a name b⟩) ∨ s.interfaces.lookup n = some x := by
  by_cases hn : n = name
  · subst hn; simp [AList.lookup_insert] at h; exact .inl ⟨rfl, h.symm⟩
  · exact .inr (by rwa [construct_interfaces, AList.lookup_insert_ne hn] at h)

theorem keepsObjs_setObj {e : IntfEntry} {o : EthernetInterface}
    (he : s.interfaces.lookup e.1 = some e.2) (ho : o.nicEnabled = e.2.obj.nicEnabled) :
    KeepsObjs s (s.setObj e o) := by
  intro n x hx
  rcases lookup_setObj hx with ⟨-, rfl⟩ | hx
  · exact ⟨e.1, e.2, he, rfl, ho.symm⟩
  · exact ⟨n, x, hx, rfl, rfl⟩

/-- `s'` is `s` after calls through by-index pointers and updates of records: the same
bindings, ignore set and supervisor states, and every object of `s'` one that `s` owned, with
its flag. -/
structure PtrFrame (s s' : Manager) : Prop where
  byIdx : s'.interfacesByIdx = s.interfacesByIdx
  ignoredIntf : s'.ignoredIntf = s.ignoredIntf
  systemdNetworkdEnabled : s'.systemdNetworkdEnabled = s.systemdNetworkdEnabled
  objs : KeepsObjs s s'

theorem PtrFrame.refl (s : Manager) : PtrFrame s s := ⟨rfl, rfl, rfl, .of_interfaces rfl⟩

theorem PtrFrame.of_setInfo {i : Nat} {a : AllIntfInfo} (h : PtrFrame (s.setInfo i a) s') :
    PtrFrame s s' := ⟨h.byIdx, h.ignoredIntf, h.systemdNetworkdEnabled, h.objs⟩

theorem ptrFrame_withObj {p : Nat} {f : EthernetInterface → EthernetInterface}
    (h : s.withObj p f = .ok s') (hf : ∀ o, (f o).nicEnabled = o.nicEnabled) : PtrFrame s s' := by
  obtain ⟨e, he, rfl⟩ := withObj_eq_ok.mp h
  exact ⟨rfl, rfl, rfl, keepsObjs_setObj (findObj_spec he).1 (hf _)⟩

theorem ptrFrame_forIdx {i : Nat} {f : EthernetInterface → EthernetInterface}
    (h : s.forIdx i f = .ok s') (hf : ∀ o, (f o).nicEnabled = o.nicEnabled) : PtrFrame s s' := by
  rcases forIdx_eq_ok.mp h with ⟨-, rfl⟩ | ⟨p, e, -, he, rfl⟩
  · exact .refl _
  · exact ⟨rfl, rfl, rfl, keepsObjs_setObj (findObj_spec he).1 (hf _)⟩

/-- **What `createInterface` does to the objects**: it keeps every object with its flag, except
the one it may construct at the allocator's address, bound at the link's index, from the link's
record and with the flag it was given. -/
theorem createInterface_objects {a : AllIntfInfo} {b : Bool}
    (h : s.createInterface env a b = .ok s') {n : String} {x : IntfPtr}
    (hx : s'.interfaces.lookup n = some x) :
    s.HadObj x ∨ (x.addr = s.nextAddr ∧ s'.interfacesByIdx a.intf.idx = some x.addr ∧
      x.obj.nicEnabled = b ∧ x.obj.info = a.intf) := by
  rcases createInterface_cases env h with rfl | ⟨e, he, rfl⟩ | ⟨name, t, rfl, ht⟩
  · exact .inl ⟨n, x, hx, rfl, rfl⟩
  · exact .inl (keepsObjs_setObj he (by simp) n x hx)
  · -- a construction, after at most the destruction of the link's old object
    have hkt : KeepsObjs s t ∧ t.nextAddr = s.nextAddr := by
      rcases ht with rfl | ⟨k, rfl⟩
      · exact ⟨.of_interfaces rfl, rfl⟩
      · exact ⟨.of_erase rfl, rfl⟩
    rcases lookup_construct env hx with ⟨-, rfl⟩ | hx
    · exact .inr ⟨hkt.2, by simp [hkt.2], rfl, rfl⟩
    · exact .inl (hkt.1 n x hx)

/-! ## §2 — one step -/

/-- The `catch` of `netlink::handler` keeps what its call keeps, for any reflexive relation:
a call that throws left the registry as it was. -/
theorem catchStd_of {R : Manager → Manager → Prop} (hs : R s s) {r : Except Exn Manager}
    (hr : ∀ t, r = .ok t → R s t) (h : Netlink.catchStd s r = .ok s') : R s s' := by
  rcases r with e | t
  · cases e <;> cases h
    exact hs
  · cases h; exact hr _ rfl

theorem removeInterface_keepsObjs {info : InterfaceInfo} (h : s.removeInterface info = .ok s') :
    KeepsObjs s s' := by
  obtain ⟨nit, -, rfl⟩ := Except.map_eq_ok.mp h
  dsimp only
  split <;> split <;> first | exact .of_erase rfl | exact .of_interfaces rfl

theorem addAddress_ptrFrame {info : AddressInfo} (h : s.addAddress info = .ok s') :
    PtrFrame s s' := by
  unfold addAddress at h
  by_cases hd : info.flags &&& ifaFDeprecated ≠ 0
  · rw [if_pos hd] at h; cases h; exact .refl s
  rw [if_neg hd] at h
  split at h
  · exact .of_setInfo (ptrFrame_forIdx h (fun _ => rfl))
  · split_ifs at h; cases h; exact .refl s

theorem removeAddress_ptrFrame {info : AddressInfo} (h : s.removeAddress info = .ok s') :
    PtrFrame s s' := by
  unfold removeAddress at h
  split at h
  · obtain ⟨t, hw, rfl⟩ := Except.map_eq_ok.mp h
    have ht := ptrFrame_withObj hw (fun _ => rfl)
    split
    · exact ⟨ht.byIdx, ht.ignoredIntf, ht.systemdNetworkdEnabled, ht.objs⟩
    · exact ht
  · cases h; exact .refl s

theorem addNeighbor_ptrFrame {info : NeighborInfo} (h : s.addNeighbor info = .ok s') :
    PtrFrame s s' := by
  unfold addNeighbor at h
  by_cases hp : info.state &&& nudPermanent = 0
  · rw [if_pos hp] at h; cases h; exact .refl s
  rw [if_neg hp] at h
  split at h
  · cases h; exact .refl s
  · split at h
    · exact .of_setInfo (ptrFrame_forIdx h (by simp))
    · split_ifs at h; cases h; exact .refl s

theorem removeNeighbor_ptrFrame {info : NeighborInfo} (h : s.removeNeighbor info = .ok s') :
    PtrFrame s s' := by
  unfold removeNeighbor at h
  split at h
  · cases h; exact .refl s
  · split at h
    · exact .of_setInfo (ptrFrame_forIdx h (fun _ => rfl))
    · cases h; exact .refl s

/-- A default-route message calls through the link's pointer, or does nothing. -/
theorem rthandler_ptrFrame {gw : Option (Nat × InAnyAddr)}
    {f : AllIntfInfo → InAnyAddr → AllIntfInfo}
    {g : EthernetInterface → InAnyAddr → EthernetInterface}
    (hg : ∀ o a, (g o a).nicEnabled = o.nicEnabled)
    (h : Netlink.rthandler gw (fun i a => match s.intfInfo i with
      | some r => (s.setInfo i (f r a)).forIdx i (g · a)
      | none => .ok s) s = .ok s') :
    PtrFrame s s' := by
  rcases gw with _ | ⟨i, a⟩
  · cases h; exact .refl s
  · simp only [Netlink.rthandler] at h
    split at h
    · exact .of_setInfo (ptrFrame_forIdx h (fun o => hg o a))
    · cases h; exact .refl s

/-- **The address, neighbour and gateway messages only call through a by-index pointer.** -/
theorem netlink_ptrFrame {m : RtMsg} (hm : m.isLink = false)
    (h : Netlink.handler env s m = .ok s') : PtrFrame s s' := by
  cases m with
  | newLink info => cases hm
  | delLink info => cases hm
  | newRoute gw => exact catchStd_of (.refl s) (fun _ ht => rthandler_ptrFrame (by simp) ht) h
  | delRoute gw => exact catchStd_of (.refl s) (fun _ ht => rthandler_ptrFrame (by simp) ht) h
  | newAddr info => exact catchStd_of (.refl s) (fun _ ht => addAddress_ptrFrame ht) h
  | delAddr info => exact catchStd_of (.refl s) (fun _ ht => removeAddress_ptrFrame ht) h
  | newNeigh info => exact catchStd_of (.refl s) (fun _ ht => addNeighbor_ptrFrame ht) h
  | delNeigh info => exact catchStd_of (.refl s) (fun _ ht => removeNeighbor_ptrFrame ht) h

/-- The disjunction `step_objects` states, for the object `x` of `s'`. -/
def KeptOrNew (s s' : Manager) (x : IntfPtr) : Prop :=
  s.HadObj x ∨ (x.addr = s.nextAddr ∧ s'.interfacesByIdx x.obj.info.idx = some x.addr ∧
    s'.systemdNetworkdEnabled x.obj.info.idx = some x.obj.nicEnabled)

theorem addInterface_objects {info : InterfaceInfo} (h : s.addInterface env info = .ok s')
    {n : String} {x : IntfPtr} (hx : s'.interfaces.lookup n = some x) : KeptOrNew s s' x := by
  rcases addInterface_cases env h with ⟨-, rfl⟩ | ⟨-, ⟨-, rfl⟩ | ⟨b, hb, h⟩⟩
  · exact .inl ⟨n, x, hx, rfl, rfl⟩
  · exact .inl ⟨n, x, hx, rfl, rfl⟩
  · rcases createInterface_objects env h hx with hx | ⟨h1, h2, h3, h4⟩
    · exact .inl hx
    · refine .inr ⟨h1, h4 ▸ h2, ?_⟩
      rw [h4, (createInterface_poolFrame env h).systemdNetworkdEnabled, h3, linkInfo_intf]
      exact hb

theorem handleAdminState_objects (hk : InfoFiltered s.intfInfo) {st : String} {i : Nat}
    (h : s.handleAdminState env st i = .ok s') {n : String} {x : IntfPtr}
    (hx : s'.interfaces.lookup n = some x) : KeptOrNew s s' x := by
  rcases handleAdminState_cases env h with ⟨_, rfl⟩ | ⟨a, b, ha, h⟩
  · exact .inl ⟨n, x, hx, rfl, rfl⟩
  · rcases createInterface_objects env h hx with hx | ⟨h1, h2, h3, h4⟩
    · exact .inl hx
    · refine .inr ⟨h1, h4 ▸ h2, ?_⟩
      rw [h4, (createInterface_poolFrame env h).systemdNetworkdEnabled, (hk i a ha).intf, h3]
      simp

/-- **What a step does to the objects**, from a registry whose records are filed under their
own indices. -/
theorem step_objects (hk : InfoFiltered s.intfInfo) {e : Event} (hs : step env s e = .ok s')
    {n : String} {x : IntfPtr} (hx : s'.interfaces.lookup n = some x) : KeptOrNew s s' x := by
  rcases e with m | ⟨st, i⟩
  · by_cases hm : ∃ info, m = .newLink info
    · obtain ⟨info, rfl⟩ := hm
      rw [step, Netlink.handler, Netlink.catchStd_of_noThrow (addInterface_noThrow _ _ _)] at hs
      exact addInterface_objects env hs hx
    · refine .inl ?_
      cases hl : m.isLink
      · exact (netlink_ptrFrame env hl hs).objs n x hx
      · rcases m with info | info | _ | _ | _ | _ | _ | _ <;> cases hl
        · exact absurd ⟨info, rfl⟩ hm
        · exact catchStd_of (.of_interfaces rfl) (fun _ ht => removeInterface_keepsObjs ht) hs n x hx
  · exact handleAdminState_objects env hk hs hx

end Manager

/-- **An object's managed flag is the supervisor state recorded when it was constructed.**
After any step from a reachable registry, every object is either one the registry owned before,
at the same address and with the same flag, or the one object the step constructed: at the
allocator's address, bound at its link's index, and flagged with the state recorded for that
link. No step changes the flag of an object that exists. -/
theorem step_nicEnabled {env : Env} {s s' : Manager} {e : Event} (h : Reachable env s)
    (hs : step env s e = .ok s') {n : String} {x : IntfPtr}
    (hx : s'.interfaces.lookup n = some x) :
    (∃ n' y, s.interfaces.lookup n' = some y ∧ y.addr = x.addr ∧
        y.obj.nicEnabled = x.obj.nicEnabled) ∨
      (x.addr = s.nextAddr ∧ s'.interfacesByIdx x.obj.info.idx = some x.addr ∧
        s'.systemdNetworkdEnabled x.obj.info.idx = some x.obj.nicEnabled) :=
  Manager.step_objects env h.infoFiltered hs hx

/-- The `NEWLINK` of a managed link constructs its object flagged as managed. -/
theorem step_nicEnabled_newLink :
    ∃ s s' x, Reachable ⟨[], fun _ => ""⟩ s ∧
      step ⟨[], fun _ => ""⟩ s (.rtnetlink (.newLink (ether 1 "eth0"))) = .ok s' ∧
      s'.interfaces.lookup "eth0" = some x ∧
      ((∃ n' y, s.interfaces.lookup n' = some y ∧ y.addr = x.addr ∧
          y.obj.nicEnabled = x.obj.nicEnabled) ∨
        (x.addr = s.nextAddr ∧ s'.interfacesByIdx x.obj.info.idx = some x.addr ∧
          s'.systemdNetworkdEnabled x.obj.info.idx = some x.obj.nicEnabled)) :=
  have hr := Reachable.run ⟨[], fun _ => ""⟩ .empty
    (rfl : run ⟨[], fun _ => ""⟩ Manager.empty [.adminState "configured" 1] = .ok _)
  ⟨_, _, _, hr, rfl, rfl,
    @step_nicEnabled _ _ _ (.rtnetlink (.newLink (ether 1 "eth0"))) hr rfl "eth0" _ rfl⟩

/-- **A report does not reach an existing object.** Link 1 is managed and has its object; the
supervisor then reports it `unmanaged`: the state recorded for index 1 becomes `false`, and the
object bound there keeps the flag `true` it was constructed with. -/
theorem handleAdminState_keeps_flag :
    ∃ s, run ⟨[], fun _ => ""⟩ Manager.empty [.adminState "configured" 1,
        .rtnetlink (.newLink (ether 1 "eth0")), .adminState "unmanaged" 1] = .ok s ∧
      s.systemdNetworkdEnabled 1 = some false ∧ s.interfacesByIdx 1 = some 0 ∧
      (s.findObj 0).map (·.2.obj.nicEnabled) = some true :=
  ⟨_, rfl, rfl, rfl, rfl⟩

/-! ## §3 — every binding has a record -/

namespace Manager

variable (env : Env) {s s' : Manager}

/-- Every index bound in `interfacesByIdx` has a record in `intfInfo`. -/
def ByIdxRecorded (s : Manager) : Prop :=
  ∀ i, (s.interfacesByIdx i).isSome → (s.intfInfo i).isSome

theorem ByIdxRecorded.setInfo (h : s.ByIdxRecorded) (i : Nat) (a : AllIntfInfo) :
    (s.setInfo i a).ByIdxRecorded := by
  intro j hj
  by_cases hji : j = i
  · subst hji; simp
  · simpa [hji] using h j hj

/-- Away from link messages the mirror only rewrites records it already has. -/
theorem mirrorStep_isSome {m : RtMsg} (hl : m.isLink = false) {t : Nat → Option AllIntfInfo}
    {j : Nat} (hj : (t j).isSome) : (mirrorStep env t (.rtnetlink m) j).isSome := by
  have upd : ∀ i a, (Function.update t i (some a) j).isSome := by
    intro i a
    by_cases hji : j = i
    · subst hji; simp
    · simpa [hji] using hj
  rcases m with _ | _ | (_ | ⟨i, g⟩) | (_ | ⟨i, g⟩) | info | info | info | info <;> cases hl <;>
    simp only [mirrorStep]
  -- each message either leaves the table or rewrites the record it found at its link
  all_goals first
    | exact hj
    | (cases t i <;> first | exact hj | exact upd _ _)
    | (cases info.addr <;> cases t info.ifidx <;> (try split_ifs) <;> first | exact hj | exact upd _ _)
    | (cases t info.ifidx <;> (try split_ifs) <;> first | exact hj | exact upd _ _)

theorem createInterface_byIdxRecorded {a : AllIntfInfo} {b : Bool}
    (hc : s.createInterface env a b = .ok s') (h : s.ByIdxRecorded)
    (ha : (s.intfInfo a.intf.idx).isSome) : s'.ByIdxRecorded := by
  intro j hj
  rw [(createInterface_poolFrame env hc).intfInfo]
  by_cases hji : j = a.intf.idx
  · exact hji ▸ ha
  · exact h j (createInterface_byIdx env hc hji ▸ hj)

theorem addInterface_byIdxRecorded {info : InterfaceInfo} (h : s.ByIdxRecorded)
    (hs : s.addInterface env info = .ok s') : s'.ByIdxRecorded := by
  have ht := h.setInfo info.idx (s.linkInfo info)
  rcases addInterface_cases env hs with ⟨-, rfl⟩ | ⟨-, ⟨-, rfl⟩ | ⟨b, -, hs⟩⟩
  · exact h
  · exact ht
  · exact createInterface_byIdxRecorded env hs ht (by simp [linkInfo_intf])

/-- `removeInterface` unbinds the link's index and no other. -/
theorem removeInterface_byIdx {info : InterfaceInfo} (hs : s.removeInterface info = .ok s')
    (j : Nat) : s'.interfacesByIdx j = if j = info.idx then none else s.interfacesByIdx j := by
  obtain ⟨nit, -, rfl⟩ := Except.map_eq_ok.mp hs
  dsimp only
  by_cases hji : j = info.idx
  · subst hji
    cases hb : s.interfacesByIdx info.idx <;> cases nit <;> simp [hb]
  · cases s.interfacesByIdx info.idx <;> cases nit <;> simp [hji]

theorem removeInterface_byIdxRecorded {info : InterfaceInfo} (h : s.ByIdxRecorded)
    (hs : s.removeInterface info = .ok s') : s'.ByIdxRecorded := by
  intro j hj
  rw [removeInterface_byIdx hs] at hj
  rw [removeInterface_intfInfo hs]
  split_ifs at hj with hji
  · cases hj
  · rw [Function.update_noteq hji]; exact h j hj

theorem handleAdminState_byIdxRecorded (hk : InfoFiltered s.intfInfo) (h : s.ByIdxRecorded)
    {st : String} {i : Nat} (hs : s.handleAdminState env st i = .ok s') : s'.ByIdxRecorded := by
  rcases handleAdminState_cases env hs with ⟨_, rfl⟩ | ⟨a, b, ha, hs⟩
  · exact h
  · exact createInterface_byIdxRecorded env hs h (by simp [(hk i a ha).intf, ha])

theorem step_byIdxRecorded (hk : InfoFiltered s.intfInfo) (h : s.ByIdxRecorded) {e : Event}
    (hs : step env s e = .ok s') : s'.ByIdxRecorded := by
  rcases e with m | ⟨st, i⟩
  · cases hl : m.isLink
    · -- calls through pointers: the same bindings, and every record kept
      intro j hj
      rw [(netlink_ptrFrame env hl hs).byIdx] at hj
      rw [step_intfInfo hs]
      split
      · exact h j hj
      · exact mirrorStep_isSome env hl (h j hj)
    · rcases m with info | info | _ | _ | _ | _ | _ | _ <;> cases hl
      · rw [step, Netlink.handler, Netlink.catchStd_of_noThrow (addInterface_noThrow _ _ _)] at hs
        exact addInterface_byIdxRecorded env h hs
      · rw [step, Netlink.handler, Netlink.catchStd_of_noThrow (removeInterface_noThrow _ _)] at hs
        exact removeInterface_byIdxRecorded h hs
  · exact handleAdminState_byIdxRecorded env hk h hs

end Manager

theorem Reachable.byIdxRecorded {env : Env} {s : Manager} (h : Reachable env s) :
    s.ByIdxRecorded := by
  induction h with
  | empty => intro i hi; cases hi
  | step hr hs ih => exact Manager.step_byIdxRecorded _ hr.infoFiltered ih hs

/-- **Every bound index has a record.** In every reachable registry an index bound in
`interfacesByIdx` has a record in `intfInfo`, filed under that index: `createInterface` binds
only the index of the record it is handed, and `removeInterface` erases the binding with the
record. -/
theorem byIdx_recorded {env : Env} {s : Manager} (h : Reachable env s) {i p : Nat}
    (hp : s.interfacesByIdx i = some p) : ∃ a, s.intfInfo i = some a ∧ a.intf.idx = i := by
  obtain ⟨a, ha⟩ := Option.isSome_iff_exists.mp (h.byIdxRecorded i (by simp [hp]))
  exact ⟨a, ha, (h.infoFiltered i a ha).intf⟩

/-- Link 1, managed and up, is bound and recorded under index 1. -/
theorem byIdx_recorded_eth0 :
    ∃ s a, Reachable ⟨[], fun _ => ""⟩ s ∧ s.interfacesByIdx 1 = some 0 ∧
      s.intfInfo 1 = some a ∧ a.intf.idx = 1 :=
  have hr := Reachable.run ⟨[], fun _ => ""⟩ .empty (rfl : run ⟨[], fun _ => ""⟩ Manager.empty
    [.adminState "configured" 1, .rtnetlink (.newLink (ether 1 "eth0"))] = .ok _)
  let ⟨a, ha⟩ := @byIdx_recorded _ _ hr 1 0 rfl
  ⟨_, a, hr, rfl, ha⟩

/-! ### A binding need not reach an object

`removeInterface` erases the binding and the record of its link together, but it destroys the
object under the name the `DELLINK` carries, which need not be the object bound at that link's
index. -/

namespace Manager

/-- Every by-index pointer reaches an object that `interfaces` owns. -/
def ByIdxOwned (s : Manager) : Prop :=
  ∀ i p, s.interfacesByIdx i = some p → s.Owns p

end Manager

/-- Link 1 is managed as `eth0`, its state is withdrawn and it is renamed `eth1`; link 2 comes
up as `eth0` and goes away. -/
def danglingRun : List Event :=
  [.adminState "configured" 1, .rtnetlink (.newLink (ether 1 "eth0")),
   .adminState "initialized" 1, .rtnetlink (.newLink (ether 1 "eth1")),
   .rtnetlink (.newLink (ether 2 "eth0")), .rtnetlink (.delLink (ether 2 "eth0"))]

/-- **The by-index map can dangle.** After `danglingRun`, a kernel stream, index 1 still points
at the object that link 2's `DELLINK` destroyed under the name `eth0`, and the next address of
link 1 is a call through that pointer. -/
theorem byIdx_dangles (toStr : InAnyAddr → String) :
    KernelStream [] danglingRun = true ∧
    ∃ s, run ⟨[], toStr⟩ Manager.empty danglingRun = .ok s ∧ ¬ s.ByIdxOwned ∧
      step ⟨[], toStr⟩ s (.rtnetlink (.newAddr (sampleAddr 1))) = .error .useAfterFree :=
  ⟨by decide, _, rfl, fun h => Manager.findObj_eq_none.mp (by rfl) (h 1 0 rfl), rfl⟩

/-! ## §4 — the kernel alone constructs no object -/

namespace Manager

variable {env : Env} {s s' : Manager}

theorem KeepsObjs.trans {t : Manager} (h : KeepsObjs s t) (h' : KeepsObjs t s') : KeepsObjs s s' := by
  intro n x hx
  obtain ⟨n', y, hy, ha, hf⟩ := h' n x hx
  obtain ⟨n'', z, hz, ha', hf'⟩ := h n' y hy
  exact ⟨n'', z, hz, ha'.trans ha, hf'.trans hf⟩

/-- Kernel messages never write the supervisor states. -/
theorem netlink_systemdNetworkdEnabled {m : RtMsg} (h : Netlink.handler env s m = .ok s') :
    s'.systemdNetworkdEnabled = s.systemdNetworkdEnabled := by
  cases hl : m.isLink
  · exact (netlink_ptrFrame env hl h).systemdNetworkdEnabled
  · rcases m with info | info | _ | _ | _ | _ | _ | _ <;> cases hl
    · rw [Netlink.handler, Netlink.catchStd_of_noThrow (addInterface_noThrow _ _ _)] at h
      rcases addInterface_cases env h with ⟨-, rfl⟩ | ⟨-, ⟨-, rfl⟩ | ⟨b, -, h⟩⟩
      · rfl
      · rfl
      · exact (createInterface_poolFrame env h).systemdNetworkdEnabled
    · rw [Netlink.handler, Netlink.catchStd_of_noThrow (removeInterface_noThrow _ _)] at h
      obtain ⟨nit, -, rfl⟩ := Except.map_eq_ok.mp h
      dsimp only
      split <;> split <;> rfl

end Manager

end PhosphorNetworkd
