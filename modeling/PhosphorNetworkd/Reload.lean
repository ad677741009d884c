/-
# PhosphorNetworkd.Reload — the deferred reload: its timer, and one firing of its callback.

`Manager`'s constructor gives the reload executor a callback that walks `reloadPreHooks`, clears
it, calls the supervisor's `Reload`, clears `reloadPostHooks` if that failed, walks
`reloadPostHooks`, and clears it. A hook may append hooks to either list while it runs
(`addReloadPreHook`, `addReloadPostHook`); the loops are range-`for` loops, whose end is taken
when the loop starts.

What one firing does (`reloadCallback_eq`): every pre-hook pending at the start runs once, in
order; if `Reload` succeeded, so does every post-hook pending at the start, and after them every
post-hook a pre-hook appended; afterwards `reloadPostHooks` is empty and `reloadPreHooks` holds
what the post-hooks appended. So a post-hook appended by a pre-hook runs in the same firing and
is not pending afterwards (`reloadCallback_runs_appended`). A hook that appends to the list its
own loop walks invalidates that loop's end iterator, and the model stops there.

When the callback runs is up to `main`'s `TimerExecutor`: `schedule()` re-arms a one-shot timer
a fixed delay (3 s) ahead, and the event loop runs the callback at its first wake past the
expiry. The callback runs at a wake exactly when the last `schedule()` call is a full delay
back and no wake since came after the delay (`fires_iff`): a burst of calls, each within the
delay of the one before, fires once, a delay after the last of them.
-/
import Mathlib.Data.List.Basic

namespace PhosphorNetworkd

/-- What a hook does when it runs: the hooks it appends to `reloadPreHooks` and to
`reloadPostHooks`. A throw is caught and logged by the loop, and what the hook appended before
it stays, so a throw adds nothing to this description. -/
structure HookRun (Hook : Type) where
  addPre : List Hook
  addPost : List Hook
  deriving DecidableEq, Repr

/-- The two hook lists, and the hooks run so far in this firing. -/
structure ReloadState (Hook : Type) where
  reloadPreHooks : List Hook
  reloadPostHooks : List Hook
  ran : List Hook
  deriving DecidableEq, Repr

variable {Hook : Type} (act : Hook → HookRun Hook)

/-- The list a loop walks: `reloadPreHooks` when `pre`, `reloadPostHooks` otherwise. -/
def HookRun.onWalked (pre : Bool) (r : HookRun Hook) : List Hook :=
  if pre then r.addPre else r.addPost

@[simp] theorem HookRun.onWalked_true (r : HookRun Hook) : r.onWalked true = r.addPre := rfl

@[simp] theorem HookRun.onWalked_false (r : HookRun Hook) : r.onWalked false = r.addPost := rfl

/-- `for (auto& hook : list) { try { hook(); } catch (...) {} }` over the hooks `hs` the list
held when the loop began. A hook that appends to the list being walked invalidates the loop's
end iterator; the model stops there (`none`). -/
def runHooks (pre : Bool) : List Hook → ReloadState Hook → Option (ReloadState Hook)
  | [], t => some t
  | h :: hs, t =>
    if ((act h).onWalked pre).isEmpty then
      runHooks pre hs
        { reloadPreHooks := t.reloadPreHooks ++ (act h).addPre
          reloadPostHooks := t.reloadPostHooks ++ (act h).addPost
          ran := t.ran ++ [h] }
    else none

/-- The callback of the reload executor; `reloadOk` is whether the `Reload` call returned. -/
def reloadCallback (reloadOk : Bool) (t : ReloadState Hook) : Option (ReloadState Hook) := do
  let t ← runHooks act true t.reloadPreHooks t
  let t := { t with reloadPreHooks := [] }
  let t := if reloadOk then t else { t with reloadPostHooks := [] }
  let t ← runHooks act false t.reloadPostHooks t
  pure { t with reloadPostHooks := [] }

/-! ## §1 — one loop -/

/-- **A loop runs its hooks in order and collects what they append**, unless one of them
appends to the list being walked. -/
theorem runHooks_eq (pre : Bool) (hs : List Hook) (t : ReloadState Hook) :
    runHooks act pre hs t =
      if hs.all fun h => ((act h).onWalked pre).isEmpty then
        some { reloadPreHooks := t.reloadPreHooks ++ hs.flatMap (act · |>.addPre)
               reloadPostHooks := t.reloadPostHooks ++ hs.flatMap (act · |>.addPost)
               ran := t.ran ++ hs }
      else none := by
  induction hs generalizing t with
  | nil => simp [runHooks]
  | cons h hs ih =>
    rw [runHooks, List.all_cons]
    by_cases hh : ((act h).onWalked pre).isEmpty
    · rw [if_pos hh, ih, hh, Bool.true_and]
      simp [List.append_assoc]
    · rw [if_neg hh, Bool.eq_false_iff.mpr hh, Bool.false_and, if_neg Bool.false_ne_true]

/-! ## §2 — one firing -/

/-- The post-hooks the pre-hooks `hs` append. -/
def appendedPost (hs : List Hook) : List Hook := hs.flatMap (act · |>.addPost)

/-- **What one firing does.** Unless a hook appends to the list its loop walks: the pending
pre-hooks run, in order; if `Reload` succeeded, the pending post-hooks and then the post-hooks
the pre-hooks appended run, in order; `reloadPostHooks` ends empty, and `reloadPreHooks` holds
what the post-hooks appended. -/
theorem reloadCallback_eq (reloadOk : Bool) (t : ReloadState Hook) :
    reloadCallback act reloadOk t =
      if (t.reloadPreHooks.all fun h => (act h).addPre.isEmpty) &&
          (!reloadOk || (t.reloadPostHooks ++ appendedPost act t.reloadPreHooks).all
            fun h => (act h).addPost.isEmpty) then
        some
          { reloadPreHooks := if reloadOk then
              (t.reloadPostHooks ++ appendedPost act t.reloadPreHooks).flatMap (act · |>.addPre)
              else []
            reloadPostHooks := []
            ran := t.ran ++ t.reloadPreHooks ++
              (if reloadOk then t.reloadPostHooks ++ appendedPost act t.reloadPreHooks else []) }
      else none := by
  have hpre : ∀ hs : List Hook, (hs.all fun h => (act h).addPre.isEmpty) →
      hs.flatMap (act · |>.addPre) = [] := by
    intro hs h; simpa [List.flatMap_eq_nil_iff] using h
  unfold reloadCallback
  rw [runHooks_eq]
  by_cases h1 : t.reloadPreHooks.all fun h => (act h).addPre.isEmpty
  · simp only [HookRun.onWalked_true, if_true, h1, Bool.true_and, Option.bind_eq_bind,
      Option.some_bind]
    cases reloadOk
    · simp [runHooks_eq, hpre _ h1]
    · simp only [runHooks_eq, HookRun.onWalked_false, if_true, Bool.not_true, Bool.false_or,
        appendedPost]
      split_ifs <;> simp [hpre _ h1]
  · simp [h1]

/-- Hook `1` appends hook `2` to `reloadPostHooks`; no hook appends anything else. -/
def appendsPostHook : Nat → HookRun Nat
  | 1 => ⟨[], [2]⟩
  | _ => ⟨[], []⟩

/-- **A hook appended during a firing runs in it, and is not pending afterwards.** With pre-hook
`1` pending and `Reload` succeeding, the post-hook `2` that hook `1` appends runs in the same
firing, and after it both lists are empty. -/
theorem reloadCallback_runs_appended :
    reloadCallback appendsPostHook true ⟨[1], [], []⟩ = some ⟨[], [], [1, 2]⟩ := by
  decide

/-! ## §3 — the timer that defers the callback -/

/-- One iteration of the event loop as the reload timer sees it: a `schedule()` call at `now`,
or the loop waking at `now` and dispatching the sources that are due. Times are milliseconds on
the monotonic clock. -/
inductive LoopEvent where
  | schedule (now : Nat)
  | wake (now : Nat)
  deriving DecidableEq, Repr

/-- `TimerExecutor`: the delay `schedule()` arms the timer with, and the timer's expiry on the
monotonic clock (`none` while it is off). The timer's behaviour is the one `sdeventplus`
documents for `restartOnce` and a one-shot source; that library is not among the sources. -/
structure TimerExecutor where
  delay : Nat
  expiry : Option Nat
  deriving DecidableEq, Repr

namespace TimerExecutor

/-- `TimerExecutor(event, delay)`: the timer is created off. -/
def new (delay : Nat) : TimerExecutor := ⟨delay, none⟩

/-- `main`'s executor, `TimerExecutor reload(event, std::chrono::seconds(3))`. -/
def main : TimerExecutor := new 3000

/-- `schedule()`: `timer.restartOnce(delay)` arms the timer to fire once, `delay` from now, in
place of any expiry it had. -/
def schedule (t : TimerExecutor) (now : Nat) : TimerExecutor :=
  { t with expiry := some (now + t.delay) }

/-- The loop waking at `now`: an armed timer whose expiry has passed runs its callback and, being
one-shot, turns off. The flag says whether the callback ran. -/
def dispatch (t : TimerExecutor) (now : Nat) : TimerExecutor × Bool :=
  match t.expiry with
  | some d => if d ≤ now then ({ t with expiry := none }, true) else (t, false)
  | none => (t, false)

/-- The executor after the loop events `es`. -/
def after (t : TimerExecutor) : List LoopEvent → TimerExecutor
  | [] => t
  | .schedule now :: es => (t.schedule now).after es
  | .wake now :: es => (t.dispatch now).1.after es

/-- Whether the loop's wake at `now`, after the events `es`, runs the reload callback. -/
def fires (t : TimerExecutor) (es : List LoopEvent) (now : Nat) : Bool :=
  ((t.after es).dispatch now).2

/-- The events `es` are wakes, all before `d`. -/
def Early (d : Nat) (es : List LoopEvent) : Prop :=
  ∀ e ∈ es, ∃ w, e = .wake w ∧ w < d

variable {t : TimerExecutor}

theorem dispatch_delay (now : Nat) : (t.dispatch now).1.delay = t.delay := by
  unfold dispatch; split <;> (try split) <;> rfl

theorem after_delay (es : List LoopEvent) : (t.after es).delay = t.delay := by
  induction es generalizing t with
  | nil => rfl
  | cons e es ih => cases e <;> simp only [after, ih, dispatch_delay]; rfl

theorem dispatch_fired {now : Nat} : (t.dispatch now).2 = true ↔ ∃ d, t.expiry = some d ∧ d ≤ now := by
  unfold dispatch; split <;> (try split_ifs) <;> simp_all

theorem dispatch_expiry {now d : Nat} :
    (t.dispatch now).1.expiry = some d ↔ t.expiry = some d ∧ now < d := by
  rcases ht : t.expiry with _ | d'
  · simp [dispatch, ht]
  · by_cases hn : d' ≤ now
    · simp only [dispatch, ht, if_pos hn, reduceCtorEq, Option.some_inj, false_iff, not_and]
      rintro rfl; omega
    · simp only [dispatch, ht, if_neg hn, Option.some_inj]
      exact ⟨fun h => ⟨h, h ▸ by omega⟩, And.left⟩

theorem after_append (es es' : List LoopEvent) : t.after (es ++ es') = (t.after es).after es' := by
  induction es generalizing t with
  | nil => rfl
  | cons e es ih => cases e <;> exact ih

/-- Wakes before the expiry leave it armed. -/
theorem after_early {d : Nat} (h : t.expiry = some d) {es : List LoopEvent} (he : Early d es) :
    (t.after es).expiry = some d := by
  induction es generalizing t with
  | nil => exact h
  | cons e es ih =>
    obtain ⟨w, rfl, hw⟩ := he e (List.mem_cons_self _ _)
    exact ih (dispatch_expiry.mpr ⟨h, hw⟩) fun e' he' => he e' (List.mem_cons_of_mem _ he')

/-- An armed expiry is the one the last `schedule()` set, and no wake since has passed it, or
it was there from the start and no `schedule()` came. -/
theorem expiry_after {es : List LoopEvent} {d : Nat} (h : (t.after es).expiry = some d) :
    (t.expiry = some d ∧ Early d es) ∨
      ∃ a t0 b, es = a ++ .schedule t0 :: b ∧ d = t0 + t.delay ∧ Early d b := by
  induction es generalizing t with
  | nil => exact .inl ⟨h, fun _ he => absurd he (List.not_mem_nil _)⟩
  | cons e es ih =>
    cases e with
    | schedule t0 =>
      rcases ih h with ⟨he, hb⟩ | ⟨a, t1, b, rfl, hd, hb⟩
      · exact .inr ⟨[], t0, es, rfl, (Option.some.inj he).symm, hb⟩
      · exact .inr ⟨.schedule t0 :: a, t1, b, rfl, hd, hb⟩
    | wake w =>
      rcases ih h with ⟨he, hb⟩ | ⟨a, t1, b, rfl, hd, hb⟩
      · obtain ⟨he, hw⟩ := dispatch_expiry.mp he
        refine .inl ⟨he, fun e he' => ?_⟩
        rcases List.mem_cons.mp he' with rfl | he'
        · exact ⟨w, rfl, hw⟩
        · exact hb e he'
      · exact .inr ⟨.wake w :: a, t1, b, rfl, by rw [hd, dispatch_delay], hb⟩

/-- **The debounce.** The loop's wake at `now` runs the reload callback exactly when the last
`schedule()` call, at `t0`, came at least the quiet period `delay` before `now`, and every wake
since came before the quiet period was over. A reload never fires early, a due one is not
skipped, and calls that each come within the quiet period of the one before collapse into one
firing, a quiet period after the last of them. -/
theorem fires_iff (delay : Nat) (es : List LoopEvent) (now : Nat) :
    (new delay).fires es now = true ↔
      ∃ a t0 b, es = a ++ .schedule t0 :: b ∧ t0 + delay ≤ now ∧ Early (t0 + delay) b := by
  rw [fires, dispatch_fired]
  constructor
  · rintro ⟨d, hd, hn⟩
    rcases expiry_after hd with ⟨h0, -⟩ | ⟨a, t0, b, rfl, rfl, hb⟩
    · cases h0
    · exact ⟨a, t0, b, rfl, hn, hb⟩
  · rintro ⟨a, t0, b, rfl, hn, hb⟩
    refine ⟨t0 + delay, ?_, hn⟩
    rw [after_append, after]
    exact after_early (congrArg (some <| t0 + ·) (after_delay a)) hb

/-- Calls at 0 s, 1 s and 2 s, with `main`'s quiet period of 3 s: a wake at 5 s runs the
reload, one at 4.999 s does not. -/
example : main.fires [.schedule 0, .schedule 1000, .schedule 2000] 5000 = true ∧
    main.fires [.schedule 0, .schedule 1000, .schedule 2000] 4999 = false := by
  decide

end TimerExecutor

end PhosphorNetworkd
