/-
# PhosphorNetworkd.Daemon — `main`: a kernel that never renames a link never stops the daemon.

`main` constructs the manager, whose constructor asks the link supervisor for the state of each
link `ListLinks` reported and hands it to `handleAdminState`, then the netlink server, whose
constructor handles the kernel's four dumps, and runs the event loop. The loop hands the
registry two kinds of input: a readable netlink socket, drained by `eventHandler`, and a
`PropertiesChanged` signal of the link supervisor, served by `adminStateChanged`.

The constructor's `Get` of a link's state stands outside its `try`: when one fails, the
`SdBusError` leaves the constructor and `main` returns 1 (`daemon_getFailed`). Otherwise each
input is a stream of `step`s: a drain is the stream of its messages (`handleAll_eq_run`), and a
signal is one report or nothing (`adminStateChanged_step`). So when every `Get` returns and the
kernel's messages, from the start-up dumps through every drain, rename no live link, the daemon
never stops and its registry stays coherent with the live links (`daemon_renameFree_coherent`).
-/
import PhosphorNetworkd.Supervisor
import PhosphorNetworkd.Registry.Coherence

namespace PhosphorNetworkd

variable (env : Env)

/-- What the event loop hands the registry. -/
inductive LoopInput where
  /-- The netlink socket became readable; the messages of each read, until it would block. -/
  | netlink (reads : List (List RtMsg))
  /-- A `PropertiesChanged` signal on the object path `obj`, with the changed properties. -/
  | propertiesChanged (obj : List Char) (values : String → Option String)

/-- One input, by the callback that serves it. -/
def serve (s : Manager) : LoopInput → Except Exn Manager
  | .netlink reads => Netlink.eventHandler env s reads
  | .propertiesChanged obj values => adminStateChanged env obj values s

/-- `main`, as far as the registry goes: the manager's constructor with the links `ListLinks`
reported and what the `Get` of each link's state returned, the netlink server's start-up dumps,
then the loop's inputs in order, stopping at an abort, undefined behaviour or an uncaught
`SdBusError`. -/
def daemon (links : List (Nat × Option String))
    (dumpLinks dumpAddrs dumpRoutes dumpNeighs : List RtMsg) (inputs : List LoopInput) :
    Except Exn Manager := do
  let s ← Manager.new env links
  let s ← Netlink.Server.init env s dumpLinks dumpAddrs dumpRoutes dumpNeighs
  inputs.foldlM (serve env) s

/-! ## §1 — each callback is a stream of steps -/

/-- **A drain is the stream of its messages.** -/
theorem handleAll_eq_run (s : Manager) (ms : List RtMsg) :
    Netlink.handleAll env s ms = run env s (ms.map .rtnetlink) := by
  induction ms generalizing s with
  | nil => rfl
  | cons m ms ih => simp only [Netlink.handleAll, List.map_cons, run, step, ih]

/-- **A signal is one supervisor report, or nothing**: a signal that carries no
`AdministrativeState`, or whose path does not parse, leaves the registry as it was. -/
theorem adminStateChanged_step (obj : List Char) (values : String → Option String) (s : Manager) :
    adminStateChanged env obj values s = .ok s ∨
      ∃ st i, adminStateChanged env obj values s = step env s (.adminState st i) := by
  unfold adminStateChanged
  split
  · exact .inl rfl
  · split
    · exact .inr ⟨_, _, rfl⟩
    · exact .inl rfl

/-- **A failed `Get` stops the daemon at start-up**: the constructor's loop stands outside its
`try`, so the `SdBusError` leaves `main`. -/
theorem daemon_getFailed {links : List (Nat × Option String)} (h : links.all (·.2.isSome) = false)
    (dumpLinks dumpAddrs dumpRoutes dumpNeighs : List RtMsg) (inputs : List LoopInput) :
    daemon env links dumpLinks dumpAddrs dumpRoutes dumpNeighs inputs = .error .sdBusError := by
  simp only [daemon, Manager.new, bind, Except.bind,
    @Manager.handleLinks_eq_error env links h Manager.empty fun _ => rfl]

/-- When every `Get` returned, the daemon runs the constructor's supervisor reports, the
server's dumps and the loop's inputs, one after the other. -/
theorem daemon_eq_ok {links : List (Nat × Option String)} (hget : links.all (·.2.isSome) = true)
    {dumpLinks dumpAddrs dumpRoutes dumpNeighs : List RtMsg} {inputs : List LoopInput}
    {s0 s1 s2 : Manager} (h0 : run env .empty (linkReports links) = .ok s0)
    (h1 : run env s0 ((dumpLinks ++ dumpAddrs ++ dumpRoutes ++ dumpNeighs).map .rtnetlink) = .ok s1)
    (h2 : inputs.foldlM (serve env) s1 = .ok s2) :
    daemon env links dumpLinks dumpAddrs dumpRoutes dumpNeighs inputs = .ok s2 := by
  simp only [daemon, Manager.new, Manager.handleLinks_eq_run env hget, h0, Netlink.Server.init,
    handleAll_eq_run, h1, h2, bind, Except.bind]

/-! ## §2 — a kernel that never renames a link never stops the daemon -/

variable {env}

/-- The kernel's messages an input hands the registry. -/
def LoopInput.messages : LoopInput → List RtMsg
  | .netlink reads => reads.flatten
  | .propertiesChanged _ _ => []

/-- Every kernel message the daemon handles, in order: the four start-up dumps, then the
messages of each drain. -/
def kernelEvents (dumpLinks dumpAddrs dumpRoutes dumpNeighs : List RtMsg)
    (inputs : List LoopInput) : List Event :=
  (dumpLinks ++ dumpAddrs ++ dumpRoutes ++ dumpNeighs ++ inputs.flatMap LoopInput.messages).map
    .rtnetlink

/-- The loop's inputs, on a reachable coherent registry, are all served when their kernel
messages rename no live link: a drain is a stream of steps, and a signal is one supervisor
report or nothing. -/
theorem Manager.Coherent.serveAll {k : LiveLinks} {s : Manager} (hr : Reachable env s)
    (h : Manager.Coherent k s) (hk : k.Distinct) (inputs : List LoopInput)
    (hs : KernelStream k ((inputs.flatMap LoopInput.messages).map .rtnetlink) = true)
    (hn : RenameFree k ((inputs.flatMap LoopInput.messages).map .rtnetlink) = true) :
    ∃ s', inputs.foldlM (serve env) s = .ok s' ∧
      Manager.Coherent (((inputs.flatMap LoopInput.messages).map .rtnetlink).foldl LiveLinks.after k) s' := by
  induction inputs generalizing s k with
  | nil => exact ⟨s, rfl, h⟩
  | cons inp inputs ih =>
    rw [List.flatMap_cons, List.map_append, kernelStream_append, Bool.and_eq_true] at hs
    rw [List.flatMap_cons, List.map_append, renameFree_append, Bool.and_eq_true] at hn
    rw [List.flatMap_cons, List.map_append, List.foldl_append]
    have hone : ∃ t, serve env s inp = .ok t ∧ Reachable env t ∧
        Manager.Coherent ((inp.messages.map .rtnetlink).foldl LiveLinks.after k) t := by
      cases inp with
      | netlink reads =>
        obtain ⟨t, ht, hc⟩ := h.run env hr hk hs.1 hn.1
        exact ⟨t, by rw [serve, Netlink.eventHandler, handleAll_eq_run]; exact ht, hr.run _ ht, hc⟩
      | propertiesChanged obj values =>
        rcases adminStateChanged_step env obj values s with he | ⟨st, i, he⟩
        · exact ⟨s, he, hr, h⟩
        · obtain ⟨t, ht, hc⟩ := h.step env hr hk (show k.admits (.adminState st i) = true from rfl) rfl
          exact ⟨t, he.trans ht, .step hr ht, hc⟩
    obtain ⟨t, ht, hrt, hct⟩ := hone
    obtain ⟨s', hs', hc'⟩ := ih hrt hct (hk.afterAll hs.1) hs.2 hn.2
    exact ⟨s', by rw [List.foldlM_cons, ht]; exact hs', hc'⟩

/-- **A kernel that never renames a link never stops the daemon.** Whatever links `ListLinks`
reported at start-up, if the kernel's messages, from the start-up dumps through every drain,
form a stream the kernel can emit from its live links `k` in which no `NEWLINK` renames a live
link, then: when the `Get` of every link's state returned, the daemon never aborts and never
calls through a dangling pointer, with any supervisor signals interleaved, and its registry is
coherent with the links live at the end; when one `Get` failed, the daemon stops at start-up
with that `SdBusError`. -/
theorem daemon_renameFree_coherent {env : Env} {k : LiveLinks} (hk : k.Distinct)
    {links : List (Nat × Option String)} {dumpLinks dumpAddrs dumpRoutes dumpNeighs : List RtMsg}
    {inputs : List LoopInput}
    (hs : KernelStream k (kernelEvents dumpLinks dumpAddrs dumpRoutes dumpNeighs inputs) = true)
    (hn : RenameFree k (kernelEvents dumpLinks dumpAddrs dumpRoutes dumpNeighs inputs) = true) :
    if links.all (·.2.isSome) then
      ∃ s, daemon env links dumpLinks dumpAddrs dumpRoutes dumpNeighs inputs = .ok s ∧
        Manager.Coherent
          ((kernelEvents dumpLinks dumpAddrs dumpRoutes dumpNeighs inputs).foldl LiveLinks.after k) s
    else daemon env links dumpLinks dumpAddrs dumpRoutes dumpNeighs inputs = .error .sdBusError := by
  split_ifs with hget
  swap
  · exact daemon_getFailed env (Bool.eq_false_iff.mpr hget) _ _ _ _ _
  -- the constructor: supervisor reports only
  obtain ⟨hs0, hn0, hk0⟩ := linkReports_stream k links
  obtain ⟨s0, h0, hc0⟩ := (Manager.Coherent.empty k).run env .empty hk hs0 hn0
  rw [hk0] at hc0
  have hr0 := Reachable.run env .empty h0
  -- the start-up dumps, then the loop
  unfold kernelEvents at hs hn ⊢
  rw [List.map_append, kernelStream_append, Bool.and_eq_true] at hs
  rw [List.map_append, renameFree_append, Bool.and_eq_true] at hn
  rw [List.map_append, List.foldl_append]
  obtain ⟨s1, h1, hc1⟩ := hc0.run env hr0 hk hs.1 hn.1
  obtain ⟨s2, h2, hc2⟩ := hc1.serveAll (hr0.run _ h1) (hk.afterAll hs.1) inputs hs.2 hn.2
  exact ⟨s2, daemon_eq_ok env hget h0 h1 h2, hc2⟩

/-- Link 1 is live as `eth0` when the daemon starts and reported managed; the dumps bring it up
with an address; the supervisor then reports it unmanaged, link 2 comes up as `eth1` and link 1
goes away. -/
theorem daemon_renameFree_coherent_eth0 :
    ∃ s, daemon ⟨[], fun _ => ""⟩ [(1, some "configured")] [.newLink (ether 1 "eth0")]
        [.newAddr (sampleAddr 1)] [] []
        [.propertiesChanged (linkPath 1)
          (fun p => if p = "AdministrativeState" then some "unmanaged" else none),
         .netlink [[.newLink (ether 2 "eth1")], [.delLink (ether 1 "eth0")]]] = .ok s ∧
      Manager.Coherent
        ((kernelEvents [.newLink (ether 1 "eth0")] [.newAddr (sampleAddr 1)] [] []
          [.propertiesChanged (linkPath 1)
            (fun p => if p = "AdministrativeState" then some "unmanaged" else none),
           .netlink [[.newLink (ether 2 "eth1")], [.delLink (ether 1 "eth0")]]]).foldl
          LiveLinks.after [(1, "eth0")]) s := by
  have h := @daemon_renameFree_coherent ⟨[], fun _ => ""⟩ [(1, "eth0")]
    ⟨fun _ _ _ h h' => by simp_all, fun _ _ _ h h' => by simp_all⟩ [(1, some "configured")]
    [.newLink (ether 1 "eth0")] [.newAddr (sampleAddr 1)] [] []
    [.propertiesChanged (linkPath 1)
      (fun p => if p = "AdministrativeState" then some "unmanaged" else none),
     .netlink [[.newLink (ether 2 "eth1")], [.delLink (ether 1 "eth0")]]] (by decide) (by decide)
  have hget : [(1, some "configured")].all (·.2.isSome) = true := rfl
  rwa [if_pos hget] at h

end PhosphorNetworkd
