/-
# PhosphorNetworkd.Manager.Basic — the registry's state, its owning and borrowed pointers.

`Manager` owns every `EthernetInterface` through `interfaces` (name ↦ `std::unique_ptr`) and
keeps a second, borrowed view `interfacesByIdx` (index ↦ raw pointer). The model gives each
object the address it was allocated at: `interfaces` holds the address together with the
object, `interfacesByIdx` holds only the address. Erasing or overwriting an entry of
`interfaces` destroys its object, so a by-index address that no entry carries any more
dangles, and calling through it is undefined behaviour (`Exn.useAfterFree`).

`interfaces` is an `AList`, a list without duplicate keys, so the one loop of the source over
it (`removeInterface`, when the message has no name) is a `List.find?` in iteration order.
-/
import PhosphorNetworkd.EthernetInterface
import Mathlib.Data.List.AList

namespace PhosphorNetworkd

/-- How a registry operation ends when it does not return normally. -/
inductive Exn where
  /-- `throw std::runtime_error(what)`; `netlink::handler` catches and logs it. -/
  | runtimeError (what : String)
  /-- `elog<InvalidArgument>(ARGUMENT_NAME(argumentName), ARGUMENT_VALUE(argumentValue))`. -/
  | invalidArgument (argumentName argumentValue : String)
  /-- `elog<ResourceNotFound>(RESOURCE(resource))`. -/
  | resourceNotFound (resource : String)
  /-- `std::abort()` after printing `diagnostic` on `stderr`. -/
  | abort (diagnostic : String)
  /-- A call through an `interfacesByIdx` pointer whose object was destroyed. -/
  | useAfterFree
  /-- A D-Bus call failed with `sdbusplus::exception::SdBusError` where no `catch` of the daemon
  takes it: it leaves `main`, which prints it and returns 1. -/
  | sdBusError
  deriving DecidableEq, Repr

/-- An owning `std::unique_ptr<EthernetInterface>`: the object and the address it lives at.
Addresses come from a counter and are never reused. -/
structure IntfPtr where
  addr : Nat
  obj : EthernetInterface

/-- An entry of `interfaces`: a name and the pointer it owns. -/
abbrev IntfEntry := (_ : String) × IntfPtr

/-- The data members of `Manager` that the core reads and writes. `nextAddr` is the
allocator: the address the next `std::make_unique<EthernetInterface>` returns. -/
structure Manager where
  interfaces : AList fun _ : String => IntfPtr
  interfacesByIdx : Nat → Option Nat
  ignoredIntf : Finset Nat
  intfInfo : Nat → Option AllIntfInfo
  systemdNetworkdEnabled : Nat → Option Bool
  nextAddr : Nat

/-- Two continuations that agree on every value a computation can return give the same
result after it. -/
theorem bind_congr_ok {ε α β : Type} {r : Except ε α} {f g : α → Except ε β}
    (h : ∀ t, r = .ok t → f t = g t) : r.bind f = r.bind g := by
  cases r <;> simp [Except.bind, h]

theorem Except.map_eq_ok {ε α β : Type} {f : α → β} {r : Except ε α} {b : β} :
    r.map f = .ok b ↔ ∃ a, r = .ok a ∧ f a = b := by
  cases r <;> simp [Except.map]

namespace Manager

/-- The registry before the constructor's first `handleAdminState`. -/
def empty : Manager where
  interfaces := ∅
  interfacesByIdx := fun _ => none
  ignoredIntf := ∅
  intfInfo := fun _ => none
  systemdNetworkdEnabled := fun _ => none
  nextAddr := 0

/-- The entry of `interfaces` that owns the object at address `p`, the first in iteration
order: the loop `for (nit = interfaces.begin(); ...) if (nit->second.get() == iit->second)`
of `removeInterface`, and the object a call through a by-index pointer reaches. -/
def findObj (s : Manager) (p : Nat) : Option IntfEntry :=
  s.interfaces.entries.find? (·.2.addr == p)

/-- Store `o` as the object of entry `e`, at the same name and address. -/
@[simps]
def setObj (s : Manager) (e : IntfEntry) (o : EthernetInterface) : Manager :=
  { s with interfaces := s.interfaces.insert e.1 { e.2 with obj := o } }

/-- `it->second->f(...)` through the by-index pointer `p`: `f` runs on the object that
`interfaces` owns at `p`, and when none does the call is undefined behaviour. -/
def withObj (s : Manager) (p : Nat) (f : EthernetInterface → EthernetInterface) :
    Except Exn Manager :=
  match s.findObj p with
  | some e => .ok (s.setObj e (f e.2.obj))
  | none => .error .useAfterFree

/-- `if (auto it = interfacesByIdx.find(i); it != interfacesByIdx.end()) it->second->f(...);`,
the idiom every address, neighbour and gateway operation ends with. -/
def forIdx (s : Manager) (i : Nat) (f : EthernetInterface → EthernetInterface) :
    Except Exn Manager :=
  match s.interfacesByIdx i with
  | some p => s.withObj p f
  | none => .ok s

/-- Some entry of `interfaces` owns the object at address `p`. -/
def Owns (s : Manager) (p : Nat) : Prop :=
  ∃ n x, s.interfaces.lookup n = some x ∧ x.addr = p

/-! ## §1 — what `findObj` finds -/

theorem findObj_spec {s : Manager} {p : Nat} {e : IntfEntry} (h : s.findObj p = some e) :
    s.interfaces.lookup e.1 = some e.2 ∧ e.2.addr = p :=
  ⟨AList.mem_lookup_iff.mpr (List.mem_of_find?_eq_some h), by simpa using List.find?_some h⟩

theorem findObj_eq_none {s : Manager} {p : Nat} :
    s.findObj p = none ↔ ¬ s.Owns p := by
  simp only [findObj, List.find?_eq_none, beq_iff_eq, Owns, not_exists, not_and]
  constructor
  · intro h n x hx
    exact h ⟨n, x⟩ (AList.mem_lookup_iff.mp hx)
  · intro h e he
    exact h e.1 e.2 (AList.mem_lookup_iff.mpr he)

theorem owns_iff_findObj {s : Manager} {p : Nat} : s.Owns p ↔ (s.findObj p).isSome := by
  rw [← not_iff_not, findObj_eq_none.symm.eq, Option.not_isSome_iff_eq_none]

/-- A stored object is the first entry found at its address: `AList.insert` puts it first. -/
@[simp] theorem findObj_setObj (s : Manager) (e : IntfEntry) (o : EthernetInterface) :
    (s.setObj e o).findObj e.2.addr = some ⟨e.1, { e.2 with obj := o }⟩ := by
  simp [findObj, setObj, AList.insert_entries]

@[simp] theorem setObj_setObj (s : Manager) (e : IntfEntry) (o o' : EthernetInterface) :
    (s.setObj e o).setObj ⟨e.1, { e.2 with obj := o }⟩ o' = s.setObj e o' := by
  simp [setObj, AList.insert_insert]

/-! ## §2 — calls through a by-index pointer -/

theorem withObj_eq_ok {s s' : Manager} {p : Nat} {f : EthernetInterface → EthernetInterface} :
    s.withObj p f = .ok s' ↔ ∃ e, s.findObj p = some e ∧ s' = s.setObj e (f e.2.obj) := by
  unfold withObj
  split <;> simp_all [eq_comm]

/-- **Repeating an idempotent call through a pointer is making it once.** -/
theorem withObj_withObj (s : Manager) (p : Nat) {f : EthernetInterface → EthernetInterface}
    (hf : ∀ o, f (f o) = f o) : (s.withObj p f).bind (·.withObj p f) = s.withObj p f := by
  unfold withObj
  split
  · rename_i e he
    have hp := (findObj_spec he).2
    subst hp
    simp [Except.bind, withObj, hf]
  · rfl

theorem forIdx_eq_ok {s s' : Manager} {i : Nat} {f : EthernetInterface → EthernetInterface} :
    s.forIdx i f = .ok s' ↔ (s.interfacesByIdx i = none ∧ s' = s) ∨
      ∃ p e, s.interfacesByIdx i = some p ∧ s.findObj p = some e ∧ s' = s.setObj e (f e.2.obj) := by
  unfold forIdx
  split <;> rename_i hp
  · simp [withObj_eq_ok, hp]
  · simp [hp, eq_comm]

theorem forIdx_forIdx (s : Manager) (i : Nat) {f : EthernetInterface → EthernetInterface}
    (hf : ∀ o, f (f o) = f o) : (s.forIdx i f).bind (·.forIdx i f) = s.forIdx i f := by
  unfold forIdx
  split
  · rename_i p hp
    conv_rhs => rw [← withObj_withObj s p hf]
    refine bind_congr_ok fun t h => ?_
    obtain ⟨e, -, rfl⟩ := withObj_eq_ok.mp h
    simp [hp]
  · simp [Except.bind, *]

end Manager

end PhosphorNetworkd
