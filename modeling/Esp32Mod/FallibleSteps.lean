/-
Esp32Mod/FallibleSteps.lean

Sequences of steps that may fail, as a start-up routine makes them: each step has a result,
and an effect on the state if the result says that it has succeeded; the first step that fails
ends the sequence with its result.

`run` performs the steps.  `run_ok_iff` says when a sequence succeeds, `run_all_ok` what it
has done then, and `run_invariant` is the rule for what holds wherever it ends.
-/
import Mathlib.Tactic.Common

namespace FallibleSteps

variable {ε σ : Type*}

/-- A step with its result, and what it does where it succeeds. -/
structure Step (ε σ : Type*) where
  result : ε
  effect : σ → σ

/-- A step that only fails or succeeds. -/
def check (result : ε) : Step ε σ := ⟨result, id⟩

variable [DecidableEq ε] {ok : ε} {steps : List (Step ε σ)} {s : σ}

/-- Perform the steps up to the first that fails. -/
def run (ok : ε) : List (Step ε σ) → σ → ε × σ
  | [], s => (ok, s)
  | step :: steps, s => if step.result = ok then run ok steps (step.effect s) else (step.result, s)

/-- The effects of all steps. -/
def effects (steps : List (Step ε σ)) (s : σ) : σ := steps.foldl (fun s step => step.effect s) s

theorem run_cons_ok {step : Step ε σ} (h : step.result = ok) :
    run ok (step :: steps) s = run ok steps (step.effect s) :=
  if_pos h

theorem run_cons_failed {step : Step ε σ} (h : step.result ≠ ok) :
    run ok (step :: steps) s = (step.result, s) :=
  if_neg h

/-- A sequence succeeds if each of its steps does. -/
theorem run_ok_iff : (run ok steps s).1 = ok ↔ ∀ step ∈ steps, step.result = ok := by
  induction steps generalizing s with
  | nil => simp [run]
  | cons step steps ih =>
    by_cases h : step.result = ok
    · rw [run_cons_ok h, ih]
      simp [h]
    · rw [run_cons_failed h]
      simp [h]

theorem run_all_ok (h : ∀ step ∈ steps, step.result = ok) :
    run ok steps s = (ok, effects steps s) := by
  induction steps generalizing s with
  | nil => rfl
  | cons step steps ih =>
    rw [run_cons_ok (h step List.mem_cons_self)]
    exact ih fun step' hmem => h step' (List.mem_cons_of_mem _ hmem)

/-- **Whatever the steps keep holds wherever the sequence ends.** -/
theorem run_invariant (I : σ → Prop) (hs : I s)
    (hstep : ∀ step ∈ steps, ∀ s, I s → I (step.effect s)) : I (run ok steps s).2 := by
  induction steps generalizing s with
  | nil => exact hs
  | cons step steps ih =>
    by_cases h : step.result = ok
    · rw [run_cons_ok h]
      exact ih (hstep step List.mem_cons_self s hs)
        fun step' hmem => hstep step' (List.mem_cons_of_mem _ hmem)
    · rw [run_cons_failed h]
      exact hs

end FallibleSteps
