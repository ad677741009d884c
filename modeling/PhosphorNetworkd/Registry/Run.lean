/-
# PhosphorNetworkd.Registry.Run — the registry as a state machine over its two event sources.

The registry has two inputs that are not ordered with respect to each other (spec §5): the
kernel's rtnetlink messages and the link supervisor's `AdministrativeState` reports. `step`
takes one event of either kind, `run` a stream of them, and `Reachable` is every registry a
stream can produce from the empty one the constructor starts with. `KernelStream` singles out
the streams in which the link events are ones the kernel can emit: a `NEWLINK` gives its link
a name no other live link holds, and a `DELLINK` names a live link by its current name.
-/
import PhosphorNetworkd.Netlink
import PhosphorNetworkd.Manager.Frame

namespace PhosphorNetworkd

/-- One input of the registry. `adminState state ifidx` is a report of the link supervisor,
from the constructor's enumeration or a `PropertiesChanged` signal. -/
inductive Event where
  | rtnetlink (m : RtMsg)
  | adminState (state : String) (ifidx : Nat)
  deriving DecidableEq, Repr

variable (env : Env)

/-- One event, as its callback processes it. -/
def step (s : Manager) : Event → Except Exn Manager
  | .rtnetlink m => Netlink.handler env s m
  | .adminState state ifidx => s.handleAdminState env state ifidx

/-- A stream of events, stopping at an abort or undefined behaviour. -/
def run : Manager → List Event → Except Exn Manager
  | s, [] => .ok s
  | s, e :: es => (step env s e).bind (run · es)

/-- The registries some stream of events produces from the empty one. -/
inductive Reachable : Manager → Prop
  | empty : Reachable Manager.empty
  | step {s s' : Manager} {e : Event} : Reachable s → step env s e = .ok s' → Reachable s'

/-- The constructor's loop over the links `ListLinks` reported: for each, in order, the `Get` of
its `AdministrativeState`, then `handleAdminState` with the value. A link carries what its `Get`
returned, `none` when the call failed; the loop stands outside the constructor's `try`, so that
`SdBusError` leaves the constructor. -/
def Manager.handleLinks : Manager → List (Nat × Option String) → Except Exn Manager
  | s, [] => .ok s
  | s, (ifidx, some state) :: links =>
    (s.handleAdminState env state ifidx).bind (Manager.handleLinks · links)
  | _, (_, none) :: _ => .error .sdBusError

/-- `Manager::Manager`, as far as the registry goes: the loop over the links `ListLinks`
reported, from the empty registry. A `ListLinks` that fails is caught ("systemd-network not
being ready") and leaves the list empty. -/
def Manager.new (links : List (Nat × Option String)) : Except Exn Manager :=
  Manager.empty.handleLinks env links

/-- The supervisor reports that the constructor's `Get`s delivered, in order. -/
def linkReports (links : List (Nat × Option String)) : List Event :=
  links.filterMap fun l => l.2.map (.adminState · l.1)

theorem Reachable.run {s s' : Manager} {es : List Event} (h : Reachable env s)
    (hr : run env s es = .ok s') : Reachable env s' := by
  induction es generalizing s with
  | nil => cases hr; exact h
  | cons e es ih =>
    simp only [PhosphorNetworkd.run, Except.bind] at hr
    split at hr
    · cases hr
    · exact ih (.step h ‹_›) hr

/-- **When every `Get` returns, the constructor's loop is the stream of their reports.** -/
theorem Manager.handleLinks_eq_run {links : List (Nat × Option String)}
    (h : links.all (·.2.isSome) = true) (s : Manager) :
    s.handleLinks env links = run env s (linkReports links) := by
  induction links generalizing s with
  | nil => rfl
  | cons l links ih =>
    obtain ⟨i, _ | st⟩ := l
    · simp at h
    · simp only [List.all_cons, Bool.and_eq_true] at h
      simp only [Manager.handleLinks, linkReports, List.filterMap_cons, Option.map_some', run,
        step, ih h.2]

/-- **A `Get` that fails stops the constructor**, on a registry with no record: every report
before it only records a supervisor state. -/
theorem Manager.handleLinks_eq_error {links : List (Nat × Option String)}
    (h : links.all (·.2.isSome) = false) {s : Manager} (hs : ∀ i, s.intfInfo i = none) :
    s.handleLinks env links = .error .sdBusError := by
  induction links generalizing s with
  | nil => cases h
  | cons l links ih =>
    obtain ⟨i, _ | st⟩ := l
    · rfl
    · simp only [List.all_cons, Option.isSome_some, Bool.true_and] at h
      rw [Manager.handleLinks, Manager.handleAdminState_unrecorded env (hs i)]
      exact ih h fun j => hs j

/-- The `catch` of `netlink::handler` passes through a result that is not a thrown
`std::runtime_error`. -/
theorem Netlink.catchStd_of_noThrow {s : Manager} {r : Except Exn Manager}
    (h : Manager.NoThrow r) : Netlink.catchStd s r = r := by
  cases r with
  | error e => cases e <;> simp_all [Netlink.catchStd, Manager.NoThrow]
  | ok => rfl

/-! ## Streams the kernel can produce -/

/-- The kernel's live links: index and current name. -/
abbrev LiveLinks := List (Nat × String)

namespace LiveLinks

/-- Whether the kernel can emit `e` while the links `k` are live. -/
def admits (k : LiveLinks) : Event → Bool
  | .rtnetlink (.newLink info) =>
    match info.name with
    | some n => k.all fun l => l.1 = info.idx ∨ l.2 ≠ n
    | none => false
  | .rtnetlink (.delLink info) =>
    match info.name with
    | some n => (info.idx, n) ∈ k
    | none => false
  | _ => true

/-- The live links after `e`. -/
def after (k : LiveLinks) : Event → LiveLinks
  | .rtnetlink (.newLink info) =>
    match info.name with
    | some n => (info.idx, n) :: k.filter (·.1 ≠ info.idx)
    | none => k
  | .rtnetlink (.delLink info) => k.filter (·.1 ≠ info.idx)
  | _ => k

end LiveLinks

/-- A stream whose link events the kernel can emit, starting with the links `k` live;
addresses, neighbours, routes and supervisor reports are unconstrained. -/
def KernelStream : LiveLinks → List Event → Bool
  | _, [] => true
  | k, e :: es => k.admits e && KernelStream (k.after e) es

/-! ## Sample inputs -/

/-- A report of the Ethernet link `idx` under the name `name`. -/
def ether (idx : Nat) (name : String) : InterfaceInfo :=
  { type := arphrdEther, idx, flags := 0, name := some name }

/-- An IPv4 address `10.0.0.1/24` of link `idx`. -/
def sampleAddr (idx : Nat) : AddressInfo :=
  { ifidx := idx, ifaddr := ⟨.in4 0x0a000001, 24⟩, scope := 0, flags := 0 }

end PhosphorNetworkd
