/-
# PhosphorNetworkd.Registry.Gateways — the object bound at a link shows the link's gateways.

`addDefGw` and `removeDefGw` update a link's record and then the link's object if it has one.
The two halves compare differently. The record holds each default gateway as an address, and
`removeDefGw` resets it when it is the address removed. The object holds it as text, `toStr` of
the address, and `removeDefGw` clears it when the text is the text of the address removed. The
constructor of `EthernetInterface` writes the record's gateways as text, and no other call
touches them.

So when `toStr` prints distinct addresses distinctly, showing the record's gateways is a
relation that every update keeps (`keptRel_showsGw`): comparing the text decides what comparing
the addresses decides. The cache invariant of `Registry/Cache.lean` then gives that the object
at a link's bound address shows exactly the default gateways of the link's record
(`object_shows_gateways`).
-/
import PhosphorNetworkd.Registry.Cache
import PhosphorNetworkd.Supervisor

namespace PhosphorNetworkd

/-- The object `o` shows the default gateways of the record `a`: each as `toStr` of its
address, or empty when the record has none, as the constructor writes them. -/
def EthernetInterface.ShowsGw (toStr : InAnyAddr → String) (o : EthernetInterface)
    (a : AllIntfInfo) : Prop :=
  o.defaultGateway = (a.defgw4.map fun g => toStr (.in4 g)).getD "" ∧
    o.defaultGateway6 = (a.defgw6.map fun g => toStr (.in6 g)).getD ""

namespace EthernetInterface

variable {toStr : InAnyAddr → String} {o : EthernetInterface} {a : AllIntfInfo}

theorem showsGw_new (toStr : InAnyAddr → String) (a : AllIntfInfo) (name : String) (b : Bool) :
    (EthernetInterface.new toStr a name b).ShowsGw toStr a := ⟨rfl, rfl⟩

theorem ShowsGw.setDefGw (h : o.ShowsGw toStr a) (g : InAnyAddr) :
    (o.setDefGw toStr g).ShowsGw toStr (a.setDefGw g) := by
  cases g with
  | in4 g => exact ⟨rfl, h.2⟩
  | in6 g => exact ⟨h.1, rfl⟩

/-- For an injective rendering `f`, clearing the text `t` shown for the recorded gateway `r`
when it is the text of `g` is resetting `r` when it is `g`. -/
theorem clear_text {α : Type} [DecidableEq α] {f : α → String} (hf : ∀ g g', f g = f g' → g = g')
    {t : String} {r : Option α} (h : t = (r.map f).getD "") (g : α) :
    (if t = f g then "" else t) = ((if r = some g then none else r).map f).getD "" := by
  subst h
  cases r with
  | none => simp
  | some g' =>
    by_cases hg : g' = g
    · simp [hg]
    · simp [hg, show f g' ≠ f g from fun h => hg (hf _ _ h)]

/-- **Clearing the text of the gateway removed is resetting the gateway removed**, for a
`toStr` that prints distinct addresses distinctly. -/
theorem ShowsGw.resetDefGw (hinj : ∀ g g', toStr g = toStr g' → g = g')
    (h : o.ShowsGw toStr a) (g : InAnyAddr) :
    (o.resetDefGw toStr g).ShowsGw toStr (a.resetDefGw g) := by
  obtain ⟨h4, h6⟩ := h
  -- each reset clears one family's field on each side, under an `if`
  cases g <;> constructor <;> simp only [EthernetInterface.resetDefGw,
    AllIntfInfo.resetDefGw, apply_ite EthernetInterface.defaultGateway,
    apply_ite EthernetInterface.defaultGateway6, apply_ite AllIntfInfo.defgw4,
    apply_ite AllIntfInfo.defgw6, ite_self]
  case in4.left g => exact clear_text (fun g g' h => InAnyAddr.in4.inj (hinj _ _ h)) h4 g
  case in6.right g => exact clear_text (fun g g' h => InAnyAddr.in6.inj (hinj _ _ h)) h6 g
  all_goals assumption

end EthernetInterface

/-- **Every update keeps an object showing its link's gateways**, for a `toStr` that prints
distinct addresses distinctly. -/
theorem Manager.keptRel_showsGw {env : Env} (hinj : ∀ g g', env.toStr g = env.toStr g' → g = g') :
    Manager.KeptRel env (EthernetInterface.ShowsGw env.toStr) where
  new a name b := EthernetInterface.showsGw_new env.toStr a name b
  updateInfo _ _ _ h := h
  setIntf _ _ _ h := h
  addAddr _ _ _ h := h
  eraseAddr _ _ _ h := h
  addNeigh o _ info _ _ h := by
    unfold EthernetInterface.addStaticNeigh
    split <;> exact h
  eraseNeigh _ _ _ h := h
  setDefGw _ _ g h := h.setDefGw g
  resetDefGw _ _ g h := h.resetDefGw hinj g

/-- **The object bound at a link shows the link's default gateways.** For a `toStr` that prints
distinct addresses distinctly, in every reachable registry the object that owns the address
bound at index `i` shows as its `DefaultGateway` and `DefaultGateway6` exactly the text of the
gateways in the record of link `i`, and the empty text where the record has none. -/
theorem object_shows_gateways {env : Env} (hinj : ∀ g g', env.toStr g = env.toStr g' → g = g')
    {s : Manager} (h : Reachable env s) {i : Nat} {n : String} {x : IntfPtr}
    (hb : s.interfacesByIdx i = some x.addr) (hx : s.interfaces.lookup n = some x) :
    ∃ a, s.intfInfo i = some a ∧
      x.obj.defaultGateway = (a.defgw4.map fun g => env.toStr (.in4 g)).getD "" ∧
      x.obj.defaultGateway6 = (a.defgw6.map fun g => env.toStr (.in6 g)).getD "" :=
  (h.cached (Manager.keptRel_showsGw hinj)).mirror i n x hb hx

/-- A rendering of gateways that prints distinct addresses distinctly: the family, then the
address as a decimal number. -/
def decimalToStr : InAnyAddr → String
  | .in4 a => ⟨'4' :: ':' :: Nat.toDigits 10 a.toNat⟩
  | .in6 a => ⟨'6' :: ':' :: Nat.toDigits 10 a.toNat⟩

/-- Decimal digits name one number: `StrToInt` reads each back (`strToInt_toDigits`). -/
theorem toDigits_inj {m n : Nat} (h : Nat.toDigits 10 m = Nat.toDigits 10 n) : m = n := by
  have hm := strToInt_toDigits (m + n) m
  rw [h, strToInt_toDigits, if_pos (by omega), if_pos (by omega)] at hm
  exact (Except.ok.inj hm).symm

theorem decimalToStr_inj : ∀ g g', decimalToStr g = decimalToStr g' → g = g'
  | .in4 a, .in4 b, h | .in6 a, .in6 b, h => by
    have h := congrArg String.data h
    simp only [decimalToStr, List.cons.injEq, true_and] at h
    rw [BitVec.eq_of_toNat_eq (toDigits_inj h)]
  | .in4 _, .in6 _, h | .in6 _, .in4 _, h =>
    absurd (List.head_eq_of_cons_eq (congrArg String.data h)) (by decide)

/-- Link 1 is managed, comes up as `eth0`, gains the default route via `0.0.0.1`, and a route
via another gateway is deleted: its object still shows `0.0.0.1`, as its record holds it. -/
theorem object_shows_gateways_eth0 :
    ∃ s x, Reachable ⟨[], decimalToStr⟩ s ∧ s.interfaces.lookup "eth0" = some x ∧
      s.interfacesByIdx 1 = some x.addr ∧ x.obj.defaultGateway = decimalToStr (.in4 1) ∧
      ∃ a, s.intfInfo 1 = some a ∧
        x.obj.defaultGateway = (a.defgw4.map fun g => decimalToStr (.in4 g)).getD "" ∧
        x.obj.defaultGateway6 = (a.defgw6.map fun g => decimalToStr (.in6 g)).getD "" :=
  have hr := Reachable.run ⟨[], decimalToStr⟩ .empty (rfl : run ⟨[], decimalToStr⟩ Manager.empty
    [.adminState "configured" 1, .rtnetlink (.newLink (ether 1 "eth0")),
      .rtnetlink (.newRoute (some (1, .in4 1))), .rtnetlink (.delRoute (some (1, .in4 2)))] = .ok _)
  ⟨_, _, hr, rfl, rfl, rfl,
    @object_shows_gateways ⟨[], decimalToStr⟩ decimalToStr_inj _ hr 1 "eth0" _ rfl rfl⟩

end PhosphorNetworkd
