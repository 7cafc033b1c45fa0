/-
Esp32Mod/StepMachine.lean

Step machines: the common shape of every concurrent model of this development.
A machine is a state type, an action type, a set of initial states and a partial
step function: `step s a = none` says that action `a` is not enabled in `s`.
Everything nondeterministic (which task moves, what a driver call answers, when
the hardware acts) is part of the action, so the step itself is a function and a
concrete run can be evaluated.

Two notions of reachability:

* `Reachable M s` — some run leads to `s`;
* `ReachableIn M ok s` — some run all of whose steps satisfy `ok` leads to `s`.

The second one is what a conditional safety theorem is about: `ok s a` is a
condition on the state before the step and on the action taken, and the
induction rule `ReachableIn.invariant` hands it to every step.

`RunIn` is such a run with its actions.  If every step lowers a measure, there are
no more steps than that (`RunIn.length_le`).
-/
import Mathlib.Order.Nat
import Mathlib.Tactic.Common

namespace StepMachine

/-- A machine over states `σ` and actions `α`. -/
structure Machine (σ α : Type*) where
  init : σ → Prop
  step : σ → α → Option σ

namespace Machine

variable {σ α : Type*} {M : Machine σ α}

/-! ### Reachability -/

/-- `s` is reached by a run whose steps all satisfy `ok`. -/
inductive ReachableIn (M : Machine σ α) (ok : σ → α → Prop) : σ → Prop
  | init {s} : M.init s → ReachableIn M ok s
  | step {s a s'} : ReachableIn M ok s → ok s a → M.step s a = some s' → ReachableIn M ok s'

/-- `s` is reached by some run. -/
abbrev Reachable (M : Machine σ α) : σ → Prop := M.ReachableIn fun _ _ => True

variable {ok : σ → α → Prop}

/-- **The invariant rule.**  What holds initially and is preserved by every step
that satisfies the condition holds in every state reached under it. -/
theorem ReachableIn.invariant {I : σ → Prop} {s : σ} (h : M.ReachableIn ok s)
    (hinit : ∀ s, M.init s → I s)
    (hstep : ∀ s a s', I s → ok s a → M.step s a = some s' → I s') : I s := by
  induction h with
  | init h₀ => exact hinit _ h₀
  | step _ hok hs ih => exact hstep _ _ _ ih hok hs

/-- A run under a condition is a run under a weaker one. -/
theorem ReachableIn.mono {ok' : σ → α → Prop} {s : σ} (h : M.ReachableIn ok s)
    (himp : ∀ s a, ok s a → ok' s a) : M.ReachableIn ok' s := by
  induction h with
  | init h₀ => exact .init h₀
  | step _ hok hs ih => exact ih.step (himp _ _ hok) hs

/-! ### Runs -/

/-- Perform a list of actions; `none` as soon as one of them is not enabled. -/
def run (M : Machine σ α) : σ → List α → Option σ
  | s, [] => some s
  | s, a :: as => (M.step s a).bind fun s' => run M s' as

theorem run_cons {s s₁ : σ} {a : α} {as : List α} (h : M.step s a = some s₁) :
    M.run s (a :: as) = M.run s₁ as := by
  rw [run, h, Option.bind_some]

/-- A run from a reached state, each step of which satisfies the condition,
reaches its last state. -/
theorem ReachableIn.run {s s' : σ} {as : List α} (h : M.ReachableIn (fun _ _ => True) s)
    (hr : M.run s as = some s') : M.Reachable s' := by
  induction as generalizing s with
  | nil => obtain rfl := Option.some.inj hr; exact h
  | cons a as ih =>
    obtain ⟨s₁, hs₁, hr₁⟩ := Option.bind_eq_some_iff.mp hr
    exact ih (.step h trivial hs₁) hr₁

/-- Run a list of actions from an initial state: the last state is reachable. -/
theorem reachable_of_run {s s' : σ} {as : List α} (h : M.init s) (hr : M.run s as = some s') :
    M.Reachable s' :=
  ReachableIn.run (.init h) hr

/-- Evaluate a run: if its last state passes a test, some reachable state does. -/
theorem exists_reachable_of_run {s : σ} (as : List α) (p : σ → Bool) (h : M.init s)
    (hr : (M.run s as).any p = true) : ∃ s', M.Reachable s' ∧ p s' = true := by
  obtain ⟨s', hs', hp⟩ := (Option.any_eq_true p _).mp hr
  exact ⟨s', reachable_of_run h hs', hp⟩

/-- The machine whose steps all satisfy a condition. -/
def within (M : Machine σ α) (ok : σ → α → Bool) : Machine σ α where
  init := M.init
  step s a := if ok s a then M.step s a else none

/-- Its runs are the runs under the condition. -/
theorem reachableIn_of_within {ok : σ → α → Bool} {s : σ} (h : (M.within ok).Reachable s) :
    M.ReachableIn (fun s a => ok s a = true) s := by
  refine h.invariant (fun _ hinit => .init hinit) ?_
  intro s a s' hs _ hstep
  obtain ⟨hok, hstep⟩ := Option.ite_none_right_eq_some.mp hstep
  exact hs.step hok hstep

/-- The actions lead from one state to the other, and every step satisfies the condition. -/
inductive RunIn (M : Machine σ α) (ok : σ → α → Prop) : σ → List α → σ → Prop
  | nil (s) : RunIn M ok s [] s
  | cons {s a s₁ as s'} : ok s a → M.step s a = some s₁ → RunIn M ok s₁ as s' →
      RunIn M ok s (a :: as) s'

/-- A run under the condition from a state reached under it. -/
theorem ReachableIn.append {s s' : σ} {as : List α} (h : M.ReachableIn ok s)
    (hr : M.RunIn ok s as s') : M.ReachableIn ok s' := by
  induction hr with
  | nil s => exact h
  | cons hok hs₁ _ ih => exact ih (h.step hok hs₁)

/-- **The measure rule.**  A run is not longer than the measure of its first state. -/
theorem RunIn.length_le {I : σ → Prop} (measure : σ → Nat) {s s' : σ} {as : List α}
    (h : M.RunIn ok s as s') (hs : I s)
    (hstep : ∀ s a s', I s → ok s a → M.step s a = some s' → I s' ∧ measure s' < measure s) :
    as.length ≤ measure s := by
  induction h with
  | nil s => exact Nat.zero_le _
  | cons hok hs₁ _ ih =>
    obtain ⟨hinv, hless⟩ := hstep _ _ _ hs hok hs₁
    have hle := ih hinv
    rw [List.length_cons]
    omega

end Machine

end StepMachine
