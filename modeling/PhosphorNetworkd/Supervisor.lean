/-
# PhosphorNetworkd.Supervisor — link object paths and the `AdministrativeState` callback.

The constructor asks the link supervisor for each link's state at the object path
`/org/freedesktop/network1/link/_3<decimal index>` (`linkPath`, written by
`IntToStr<10, unsigned>`), and hands the state to `handleAdminState` with the index `ListLinks`
reported. Later changes arrive as `PropertiesChanged` signals on the same paths, and the
callback (`adminStateChanged`) reads the index back from the path (`pathIfidx`): the text after
the last `/` and two more characters, converted by `StrToInt<10, uint16_t>`.

The conversion is exact below `2^16` and throws above it (`pathIfidx_linkPath`): a report on the
path of link `i` reaches link `i` when `i` fits a `uint16_t`, and is dropped otherwise
(`adminStateChanged_linkPath`), although the constructor handled that link's initial state
under its full index (`adminStateChanged_drops_wide_index`).

`StrToInt` belongs to the `stdplus` library, which is not among the sources: `strToInt` models
its contract (decimal digits, accumulated with an overflow check against the type's maximum).
-/
import Mathlib.Data.Nat.Digits
import PhosphorNetworkd.Registry.Run

namespace PhosphorNetworkd

/-! ## §1 — the path the constructor builds, and the one the callback parses -/

/-- `stdplus::strCat("/org/freedesktop/network1/link/_3"sv, tsh(ifidx))`, as characters. -/
def linkPath (ifidx : Nat) : List Char :=
  "/org/freedesktop/network1/link/_3".toList ++ Nat.toDigits 10 ifidx

/-- `std::string_view::rfind(c)`: the index of the last `c`, or `npos`. -/
def rfind (c : Char) : List Char → Option Nat
  | [] => none
  | x :: xs =>
    match rfind c xs with
    | some i => some (i + 1)
    | none => if x = c then some 0 else none

/-- How `StrToInt` refuses its input. Modelled from the library's contract. -/
inductive StrToIntError where
  | empty
  | invalidNumeral
  | overflow
  deriving DecidableEq, Repr

/-- One digit of `StrToInt<10, T>`: the value so far times ten plus the digit, refused when it
passes the type's maximum `max`. Modelled from the library's contract. -/
def decStep (max acc : Nat) (c : Char) : Except StrToIntError Nat :=
  if c.isDigit then
    if max < acc * 10 + (c.toNat - '0'.toNat) then .error .overflow
    else .ok (acc * 10 + (c.toNat - '0'.toNat))
  else .error .invalidNumeral

/-- `StrToInt<10, T>` for an unsigned `T` whose maximum is `max`. Modelled from the library's
contract. -/
def strToInt (max : Nat) (str : List Char) : Except StrToIntError Nat :=
  if str.isEmpty then .error .empty else str.foldlM (decStep max) 0

/-- How the callback's path parsing throws. -/
inductive PathError where
  /-- `throw std::invalid_argument("Invalid obj path")`. -/
  | invalidObjPath
  /-- What `StrToInt<10, uint16_t>` throws. -/
  | strToInt (e : StrToIntError)
  deriving DecidableEq, Repr

/-- The index the `PropertiesChanged` callback reads from the object path `obj`. -/
def pathIfidx (obj : List Char) : Except PathError UInt16 :=
  match rfind '/' obj with
  | none => .error .invalidObjPath
  | some sep =>
    if sep + 3 > obj.length then .error .invalidObjPath
    else match strToInt 65535 (obj.drop (sep + 3)) with
      | .ok v => .ok v.toUInt16
      | .error e => .error (.strToInt e)

/-- The `systemdNetworkdEnabledMatch` callback, for a signal on `obj` whose changed properties
are `values`: a report of `AdministrativeState` goes to `handleAdminState` under the index read
from the path; a path that does not parse is logged and dropped. -/
def adminStateChanged (env : Env) (obj : List Char) (values : String → Option String)
    (s : Manager) : Except Exn Manager :=
  match values "AdministrativeState" with
  | none => .ok s
  | some state =>
    match pathIfidx obj with
    | .ok ifidx => s.handleAdminState env state ifidx.toNat
    | .error _ => .ok s

/-! ## §2 — decimal digits read back -/

theorem rfind_eq_none {c : Char} {ys : List Char} (hy : c ∉ ys) : rfind c ys = none := by
  induction ys with
  | nil => rfl
  | cons y ys ih =>
    simp only [List.mem_cons, not_or] at hy
    simp [rfind, ih hy.2, Ne.symm hy.1]

theorem rfind_append {c : Char} {ys : List Char} (hy : c ∉ ys) (xs : List Char) :
    rfind c (xs ++ ys) = rfind c xs := by
  induction xs with
  | nil => exact rfind_eq_none hy
  | cons x xs ih => simp [rfind, ih]

/-- The characters `Nat.digitChar` writes for a decimal digit are digits, worth that digit. -/
theorem digitChar_decimal : ∀ d < 10,
    (Nat.digitChar d).isDigit = true ∧ (Nat.digitChar d).toNat - '0'.toNat = d := by
  decide

theorem toDigitsCore_ne_nil (fuel n : Nat) (ds : List Char) :
    Nat.toDigitsCore 10 (fuel + 1) n ds ≠ [] := by
  induction fuel generalizing n ds with
  | zero => simp only [Nat.toDigitsCore]; split <;> simp
  | succ fuel ih => rw [Nat.toDigitsCore]; split
                    · simp
                    · exact ih _ _

theorem toDigitsCore_not_mem (fuel n : Nat) {ds : List Char} (h : '/' ∉ ds) :
    '/' ∉ Nat.toDigitsCore 10 fuel n ds := by
  induction fuel generalizing n ds with
  | zero => exact h
  | succ fuel ih =>
    have hd : Nat.digitChar (n % 10) ≠ '/' := by
      have := (digitChar_decimal (n % 10) (Nat.mod_lt _ (by decide))).1
      intro he; rw [he] at this; exact absurd this (by decide)
    have h' : '/' ∉ Nat.digitChar (n % 10) :: ds := by simp [h, Ne.symm hd]
    rw [Nat.toDigitsCore]; split
    · exact h'
    · exact ih _ h'

theorem decStep_digitChar (max acc : Nat) {d : Nat} (hd : d < 10) :
    decStep max acc (Nat.digitChar d) =
      if max < acc * 10 + d then .error .overflow else .ok (acc * 10 + d) := by
  obtain ⟨h1, h2⟩ := digitChar_decimal d hd
  simp only [decStep, h1, h2, if_true]

/-- **`StrToInt` reads back what `toDigitsCore` wrote**: the digits of `n`, followed by digits
`ds`, are the fold over `ds` started from `n` when `n` fits, and an overflow when it does not. -/
theorem foldlM_toDigitsCore (max : Nat) (fuel n : Nat) (ds : List Char) (hn : n < fuel) :
    (Nat.toDigitsCore 10 fuel n ds).foldlM (decStep max) 0 =
      if n ≤ max then ds.foldlM (decStep max) n else .error .overflow := by
  induction fuel generalizing n ds with
  | zero => omega
  | succ fuel ih =>
    have hd : n % 10 < 10 := Nat.mod_lt _ (by decide)
    rw [Nat.toDigitsCore]
    by_cases h0 : n / 10 = 0
    · -- the last digit: it is `n` itself
      rw [if_pos h0, List.foldlM_cons, decStep_digitChar max 0 hd,
        show 0 * 10 + n % 10 = n by omega]
      split_ifs <;> first | rfl | omega
    · -- the prefix `n / 10` is read first, then the digit `n % 10`
      rw [if_neg h0, ih (n / 10) _ (by omega), List.foldlM_cons, decStep_digitChar max _ hd,
        Nat.div_add_mod' n 10]
      split_ifs <;> first | rfl | omega

theorem strToInt_toDigits (max n : Nat) :
    strToInt max (Nat.toDigits 10 n) = if n ≤ max then .ok n else .error .overflow := by
  have hne : (Nat.toDigits 10 n).isEmpty = false := by
    rw [List.isEmpty_eq_false_iff_exists_mem]
    obtain ⟨x, xs, h⟩ := List.exists_cons_of_ne_nil (toDigitsCore_ne_nil n n [])
    exact ⟨x, by rw [Nat.toDigits, h]; exact List.mem_cons_self _ _⟩
  rw [strToInt, hne, if_neg Bool.false_ne_true, Nat.toDigits, foldlM_toDigitsCore _ _ _ _ (by omega)]
  split_ifs <;> rfl

/-! ## §3 — the round trip, and where it breaks -/

/-- **Reading the index back from a link path**: the callback recovers the index exactly when
it fits a `uint16_t`, and throws an overflow otherwise. -/
theorem pathIfidx_linkPath (i : Nat) :
    pathIfidx (linkPath i) = if i ≤ 65535 then .ok i.toUInt16 else .error (.strToInt .overflow) := by
  have hsep : rfind '/' (linkPath i) = some 30 := by
    rw [linkPath, Nat.toDigits, rfind_append (toDigitsCore_not_mem _ _ (List.not_mem_nil _))]
    rfl
  have hdrop : (linkPath i).drop (30 + 3) = Nat.toDigits 10 i := by
    rw [linkPath]; exact List.drop_left' rfl
  have hlen : ¬ 30 + 3 > (linkPath i).length := by
    simp [linkPath]
  rw [pathIfidx, hsep]
  simp only [hlen, if_false, hdrop, strToInt_toDigits]
  split_ifs <;> rfl

/-- **A report on a link's path reaches that link exactly when its index fits a `uint16_t`.**
For every index `i`, the callback on the path the constructor builds for link `i` is
`handleAdminState` for link `i` when `i ≤ 65535`; above, `StrToInt` overflows, the exception is
logged, and the registry is left as it was. -/
theorem adminStateChanged_linkPath (env : Env) (i : Nat) (state : String) (s : Manager) :
    adminStateChanged env (linkPath i)
        (fun p => if p = "AdministrativeState" then some state else none) s =
      if i ≤ 65535 then s.handleAdminState env state i else .ok s := by
  rw [adminStateChanged, if_pos rfl, pathIfidx_linkPath]
  split_ifs with h
  · dsimp only
    rw [UInt16.toNat_ofNat_of_lt (show i < 65536 by omega)]
  · rfl

/-- **Reports for a link whose index does not fit a `uint16_t` are lost.** The constructor
records link `65536` as managed under its full index; the callback cannot read that index back
from the link's path (`StrToInt<10, uint16_t>` overflows, and the exception is logged), so the
link's later `unmanaged` report leaves the registry as it was. -/
theorem adminStateChanged_drops_wide_index (env : Env) :
    pathIfidx (linkPath 65536) = .error (.strToInt .overflow) ∧
    ∃ s, Manager.new env [(65536, some "configured")] = .ok s ∧
      s.systemdNetworkdEnabled 65536 = some true ∧
      adminStateChanged env (linkPath 65536)
        (fun p => if p = "AdministrativeState" then some "unmanaged" else none) s = .ok s := by
  have hp : pathIfidx (linkPath 65536) = .error (.strToInt .overflow) := by
    rw [pathIfidx_linkPath, if_neg (by decide)]
  refine ⟨hp, _, rfl, rfl, ?_⟩
  rw [adminStateChanged, if_pos rfl, hp]

/-! ## §4 — every path the callback accepts -/

/-- One digit of `StrToInt<10, T>` accumulated: the value so far times ten plus the digit. -/
def decAcc (acc : Nat) (c : Char) : Nat := acc * 10 + (c.toNat - '0'.toNat)

/-- The value of the decimal digits `ds`, most significant first. -/
def decValue (ds : List Char) : Nat := ds.foldl decAcc 0

theorem decStep_eq (max acc : Nat) (c : Char) :
    decStep max acc c =
      if c.isDigit then (if max < decAcc acc c then .error .overflow else .ok (decAcc acc c))
      else .error .invalidNumeral := rfl

theorem le_foldl_decAcc (ds : List Char) (acc : Nat) : acc ≤ ds.foldl decAcc acc := by
  induction ds generalizing acc with
  | nil => exact le_rfl
  | cons c ds ih => exact le_trans (by unfold decAcc; omega) (ih (decAcc acc c))

/-- The conversion loop from a value that fits: it succeeds exactly on digits whose value
fits, since a value only grows as digits are read. -/
theorem foldlM_decStep {max acc v : Nat} (hacc : acc ≤ max) (ds : List Char) :
    ds.foldlM (decStep max) acc = .ok v ↔
      (∀ c ∈ ds, c.isDigit = true) ∧ ds.foldl decAcc acc ≤ max ∧ v = ds.foldl decAcc acc := by
  induction ds generalizing acc with
  | nil =>
    simp only [List.foldlM_nil, List.foldl_nil, List.not_mem_nil, false_implies, implies_true,
      true_and]
    exact ⟨fun h => ⟨hacc, (Except.ok.inj h).symm⟩, fun h => h.2 ▸ rfl⟩
  | cons c ds ih =>
    rw [List.foldlM_cons, List.foldl_cons, decStep_eq]
    by_cases hd : c.isDigit = true
    · by_cases ho : max < decAcc acc c
      · -- the digit overflows, and so does every longer prefix
        have := le_foldl_decAcc ds (decAcc acc c)
        simp only [hd, ho, if_true, bind, Except.bind, reduceCtorEq, false_iff, not_and]
        omega
      · simp only [hd, ho, if_true, if_false, bind, Except.bind]
        rw [ih (by omega)]
        simp [hd]
    · simp [hd, bind, Except.bind]

/-- **What `StrToInt<10, T>` accepts**: a nonempty string of decimal digits whose value fits
the type's maximum, read as that value. -/
theorem strToInt_eq_ok {max v : Nat} {ds : List Char} :
    strToInt max ds = .ok v ↔
      ds ≠ [] ∧ (∀ c ∈ ds, c.isDigit = true) ∧ decValue ds ≤ max ∧ v = decValue ds := by
  cases ds with
  | nil => simp [strToInt]
  | cons c ds =>
    simp only [strToInt, List.isEmpty_cons, Bool.false_eq_true, if_false, ne_eq, reduceCtorEq,
      not_false_eq_true, true_and, decValue]
    exact foldlM_decStep (Nat.zero_le _) _

theorem not_mem_of_rfind_eq_none {c : Char} {xs : List Char} (h : rfind c xs = none) : c ∉ xs := by
  induction xs with
  | nil => exact List.not_mem_nil c
  | cons x xs ih =>
    rw [rfind] at h
    cases hr : rfind c xs with
    | some j => rw [hr] at h; cases h
    | none =>
      rw [hr] at h
      split_ifs at h with hx
      simp [Ne.symm hx, ih hr]

/-- `rfind` finds the last occurrence. -/
theorem rfind_eq_some {c : Char} {xs : List Char} {i : Nat} :
    rfind c xs = some i ↔ ∃ pre suf, xs = pre ++ c :: suf ∧ c ∉ suf ∧ i = pre.length := by
  constructor
  · induction xs generalizing i with
    | nil => intro h; cases h
    | cons x xs ih =>
      intro h
      rw [rfind] at h
      cases hr : rfind c xs with
      | some j =>
        rw [hr] at h
        cases h
        obtain ⟨pre, suf, rfl, hs, rfl⟩ := ih hr
        exact ⟨x :: pre, suf, rfl, hs, rfl⟩
      | none =>
        rw [hr] at h
        split_ifs at h with hx
        cases h
        exact ⟨[], xs, by rw [hx]; rfl, not_mem_of_rfind_eq_none hr, rfl⟩
  · rintro ⟨pre, suf, rfl, hs, rfl⟩
    induction pre with
    | nil => simp [rfind, rfind_eq_none hs]
    | cons x pre ih => simp [rfind, ih]

/-- The callback's parse from the last `/`: fewer than two characters after it are refused,
and what follows the first two is converted. -/
theorem pathIfidx_lastSegment (pre : List Char) {suf : List Char} (hs : '/' ∉ suf) :
    pathIfidx (pre ++ '/' :: suf) =
      if suf.length < 2 then .error .invalidObjPath
      else match strToInt 65535 (suf.drop 2) with
        | .ok v => .ok v.toUInt16
        | .error e => .error (.strToInt e) := by
  rw [pathIfidx, rfind_eq_some.mpr ⟨pre, suf, rfl, hs, rfl⟩]
  dsimp only
  by_cases hl : suf.length < 2
  · rw [if_pos hl, if_pos (by simp; omega)]
  · rw [if_neg hl, if_neg (by simp; omega), List.drop_append_eq_append_drop,
      List.drop_eq_nil_of_le (by omega)]
    simp

/-- **Every path the `AdministrativeState` callback accepts.** The callback reads an index from
exactly the paths whose text after the last `/` is two characters other than `/` followed by a
nonempty string of decimal digits worth at most `65535`, and the index is that value. Nothing
else of the path is checked: the prefix is arbitrary, the two characters need not be the `_3`
escape the constructor writes, and leading zeros are read. -/
theorem pathIfidx_eq_ok {obj : List Char} {v : UInt16} :
    pathIfidx obj = .ok v ↔
      ∃ pre c₁ c₂ ds, obj = pre ++ '/' :: c₁ :: c₂ :: ds ∧ c₁ ≠ '/' ∧ c₂ ≠ '/' ∧ ds ≠ [] ∧
        (∀ c ∈ ds, c.isDigit = true) ∧ decValue ds ≤ 65535 ∧ v.toNat = decValue ds := by
  constructor
  · intro h
    cases hr : rfind '/' obj with
    | none => rw [pathIfidx, hr] at h; cases h
    | some sep =>
      obtain ⟨pre, suf, rfl, hsuf, rfl⟩ := rfind_eq_some.mp hr
      rw [pathIfidx_lastSegment pre hsuf] at h
      -- at least two characters follow the last `/`
      rcases suf with _ | ⟨c₁, _ | ⟨c₂, ds⟩⟩
      · simp at h
      · simp at h
      simp only [List.length_cons, List.drop_succ_cons, List.drop_zero] at h
      cases hw : strToInt 65535 ds with
      | error e => rw [hw] at h; cases h
      | ok w =>
        rw [hw] at h
        cases h
        obtain ⟨hne, hdig, hle, rfl⟩ := strToInt_eq_ok.mp hw
        simp only [List.mem_cons, not_or] at hsuf
        exact ⟨pre, c₁, c₂, ds, rfl, Ne.symm hsuf.1, Ne.symm hsuf.2.1, hne, hdig, hle,
          UInt16.toNat_ofNat_of_lt (show decValue ds < 65536 by omega)⟩
  · rintro ⟨pre, c₁, c₂, ds, rfl, h₁, h₂, hne, hdig, hle, hv⟩
    have hsuf : '/' ∉ c₁ :: c₂ :: ds := by
      simp only [List.mem_cons, not_or]
      exact ⟨Ne.symm h₁, Ne.symm h₂, fun h => absurd (hdig _ h) (by decide)⟩
    rw [pathIfidx_lastSegment pre hsuf]
    simp only [List.length_cons, List.drop_succ_cons, List.drop_zero,
      strToInt_eq_ok.mpr ⟨hne, hdig, hle, rfl⟩]
    exact congrArg Except.ok
      (UInt16.toNat.inj ((UInt16.toNat_ofNat_of_lt (show decValue ds < 65536 by omega)).trans hv.symm))

/-- The escape is not checked: a last segment `xy007` is read as link 7. -/
example : pathIfidx "/org/freedesktop/network1/link/xy007".toList = .ok 7 := rfl

end PhosphorNetworkd
