/-
Esp32Mod/AtomicStore.lean

A store of values under keys, of which each value is stored as a whole.

A run is the list of its stores, each with the number of the call that made it.  A call that has
failed counts for nothing, so `recent` replays the stores of the others: it is what an atomic
store holds after the run (`recent_concat`).  A call may fail if it has stored nothing but what
was there (`Unchanging`); then no value is lost (`Unchanging.recent_fail`).
-/
import Mathlib.Data.List.Induction
import Mathlib.Logic.Function.Basic
import Mathlib.Tactic.Common

namespace AtomicStore

/-- A store, with the number of the call that makes it. -/
structure Store (κ ν : Type*) where
  number : Nat
  key : κ
  value : ν

variable {κ ν : Type*} [DecidableEq κ]

/-- What is stored after one more store. -/
def Store.apply (failed : List Nat) (values : κ → ν) (e : Store κ ν) : κ → ν :=
  if e.number ∈ failed then values else Function.update values e.key e.value

/-- Under each key the value most recently stored by a call that has not failed. -/
def recent (initial : κ → ν) (failed : List Nat) (stores : List (Store κ ν)) : κ → ν :=
  stores.foldl (Store.apply failed) initial

variable {initial : κ → ν} {failed : List Nat} {stores : List (Store κ ν)} {e : Store κ ν}
  {n : Nat} {key : κ}

theorem recent_concat : recent initial failed (stores ++ [e]) =
    e.apply failed (recent initial failed stores) :=
  List.foldl_append

theorem recent_concat_self (h : e.number ∉ failed) :
    recent initial failed (stores ++ [e]) e.key = e.value := by
  rw [recent_concat, Store.apply, if_neg h, Function.update_self]

theorem recent_concat_of_ne (h : key ≠ e.key) :
    recent initial failed (stores ++ [e]) key = recent initial failed stores key := by
  rw [recent_concat, Store.apply]
  split
  · rfl
  · exact Function.update_of_ne h ..

/-- What call `n` has stored was there already. -/
def Unchanging (initial : κ → ν) (failed : List Nat) (stores : List (Store κ ν)) (n : Nat) : Prop :=
  ∀ before e after, stores = before ++ e :: after → e.number = n →
    recent initial failed before e.key = e.value

theorem unchanging_of_fresh (h : ∀ e ∈ stores, e.number ≠ n) :
    Unchanging initial failed stores n := by
  rintro before e after rfl hnumber
  exact absurd hnumber (h e (List.mem_append_right _ List.mem_cons_self))

/-- The same in the run up to some store. -/
theorem Unchanging.of_append {stores' : List (Store κ ν)}
    (h : Unchanging initial failed (stores ++ stores') n) :
    Unchanging initial failed stores n := by
  rintro before e after rfl hnumber
  exact h before e (after ++ stores') (by rw [List.append_assoc, List.cons_append]) hnumber

theorem Unchanging.take (h : Unchanging initial failed stores n) (count : Nat) :
    Unchanging initial failed (stores.take count) n := by
  rw [← List.take_append_drop count stores] at h
  exact h.of_append

/-- One more store, by another call. -/
theorem Unchanging.concat (h : Unchanging initial failed stores n) (hnumber : e.number ≠ n) :
    Unchanging initial failed (stores ++ [e]) n := by
  intro before e' after hsplit hnumber'
  rcases List.eq_nil_or_concat after with rfl | ⟨after, last, rfl⟩
  · obtain ⟨-, hlast⟩ := List.append_inj' hsplit rfl
    obtain rfl := (List.cons.inj hlast).1
    exact absurd hnumber' hnumber
  · rw [List.concat_eq_append, ← List.cons_append, ← List.append_assoc] at hsplit
    exact h before e' after (List.append_inj' hsplit rfl).1 hnumber'

/-- **A call that has changed nothing may fail.** -/
theorem Unchanging.recent_fail (h : Unchanging initial failed stores n) :
    recent initial (n :: failed) stores = recent initial failed stores := by
  induction stores using List.reverseRecOn with
  | nil => rfl
  | append_singleton stores e ih =>
    rw [recent_concat, recent_concat, ih h.of_append]
    by_cases hnumber : e.number = n
    · have hsame := h stores e [] rfl hnumber
      rw [Store.apply, if_pos (List.mem_cons.mpr (Or.inl hnumber)), Store.apply, ← hsame,
        Function.update_eq_self, ite_self]
    · simp only [Store.apply, List.mem_cons, hnumber, false_or]

/-- When it has failed, too, nothing has changed. -/
theorem Unchanging.fail (h : Unchanging initial failed stores n) {m : Nat}
    (hm : Unchanging initial failed stores m) : Unchanging initial (n :: failed) stores m := by
  rintro before e after rfl hnumber
  rw [h.of_append.recent_fail]
  exact hm before e after rfl hnumber

theorem unchanging_cons_iff :
    Unchanging initial (n :: failed) stores n ↔ Unchanging initial failed stores n := by
  refine ⟨fun h => ?_, fun h => h.fail h⟩
  induction stores using List.reverseRecOn with
  | nil => exact unchanging_of_fresh fun e hmem => absurd hmem List.not_mem_nil
  | append_singleton stores e ih =>
    have hbefore := ih h.of_append
    intro before e' after hsplit hnumber
    have hvalue := h before e' after hsplit hnumber
    rwa [Unchanging.recent_fail (n := n)] at hvalue
    rcases List.eq_nil_or_concat after with rfl | ⟨after, last, rfl⟩
    · exact (List.append_inj' hsplit rfl).1 ▸ hbefore
    · rw [List.concat_eq_append, ← List.cons_append, ← List.append_assoc] at hsplit
      exact ((List.append_inj' hsplit rfl).1 ▸ hbefore).of_append

end AtomicStore
