/-
Esp32Mod/PackedTable.lean

Tables of fixed capacity whose entries are kept together: `count` of the `n` cells are in
use, and they are the first ones.  An entry is added behind the last one, and removed by
moving the last one into its place.  The order of the entries is therefore not kept, and a
table is known by its contents up to permutation.

* `contents_push` — a new entry comes last;
* `contents_removeAt` — removing puts no entry in, and takes exactly one out;
* `find_eq_some`, `find_eq_none` — what the search for an entry answers.
-/
import Mathlib.Data.List.FinRange
import Mathlib.Data.List.Perm.Basic
import Mathlib.Logic.Function.Basic
import Mathlib.Tactic.Common

namespace PackedTable

/-- The first `count` of the `n` cells are in use. -/
structure Packed (α : Type*) (n : ℕ) where
  cells : Fin n → α
  count : ℕ
  count_le : count ≤ n

namespace Packed

variable {α : Type*} {n : ℕ} (p : Packed α n)

/-- The cells that are in use. -/
def contents : List α :=
  List.ofFn fun i : Fin p.count => p.cells (i.castLE p.count_le)

/-- All cells stay as they are, and none is in use. -/
def clear : Packed α n := { p with count := 0, count_le := Nat.zero_le n }

/-- Nothing is added to a table that is full. -/
def push (x : α) : Packed α n :=
  if h : p.count < n then
    { cells := Function.update p.cells ⟨p.count, h⟩ x, count := p.count + 1, count_le := h }
  else p

/-- The last cell in use moves into the place of one that goes. -/
def removeAt (i : Fin n) : Packed α n where
  cells := Function.update p.cells i (p.cells ⟨p.count - 1,
    lt_of_le_of_lt (Nat.sub_le_sub_right p.count_le 1) (Nat.sub_lt i.pos Nat.one_pos)⟩)
  count := p.count - 1
  count_le := (Nat.sub_le _ _).trans p.count_le

/-- The first cell in use that holds `x`. -/
def find [DecidableEq α] (x : α) : Option (Fin n) :=
  (List.finRange n).find? fun i => decide (i.val < p.count ∧ p.cells i = x)

variable {p} {x : α} {i : Fin n}

@[simp] theorem length_contents : p.contents.length = p.count := List.length_ofFn

@[simp] theorem contents_clear : p.clear.contents = [] := rfl

theorem getElem_contents {k : ℕ} (hk : k < p.contents.length) :
    p.contents[k] = p.cells ⟨k, (length_contents (p := p) ▸ hk).trans_le p.count_le⟩ :=
  List.getElem_ofFn hk

theorem mem_contents : x ∈ p.contents ↔ ∃ i : Fin n, i.val < p.count ∧ p.cells i = x := by
  rw [contents, List.mem_ofFn]
  constructor
  · rintro ⟨i, hi⟩
    exact ⟨i.castLE p.count_le, i.isLt, hi⟩
  · rintro ⟨i, hlt, hi⟩
    exact ⟨⟨i, hlt⟩, hi⟩

/-- Without repetition, a cell in use is known by its entry. -/
theorem eq_of_cells_eq (hnodup : p.contents.Nodup) {i j : Fin n} (hi : i.val < p.count)
    (hj : j.val < p.count) (h : p.cells i = p.cells j) : i = j := by
  have hij : (⟨i, hi⟩ : Fin p.count) = ⟨j, hj⟩ := List.nodup_ofFn.mp hnodup h
  exact Fin.ext (Fin.mk.inj hij)

/-! ### Adding -/

/-- **A new entry comes last.** -/
theorem contents_push (h : p.count < n) (x : α) : (p.push x).contents = p.contents ++ [x] := by
  rw [push, dif_pos h]
  apply List.ext_getElem
  · rw [length_contents, List.length_append, length_contents, List.length_singleton]
  · intro k hk _
    rw [length_contents] at hk
    rw [getElem_contents, List.getElem_append]
    split
    -- an earlier cell is not touched
    · next hlt =>
      rw [length_contents] at hlt
      rw [getElem_contents]
      exact Function.update_of_ne (fun heq => hlt.ne (Fin.mk.inj heq)) _ _
    · next hge =>
      rw [length_contents] at hge
      have heq : k = p.count := le_antisymm (Nat.lt_succ_iff.mp hk) (not_lt.mp hge)
      subst heq
      rw [List.getElem_singleton]
      exact Function.update_self ..

/-! ### Removing -/

/-- The last entry of a list takes the place of the entry at `k`. -/
theorem cons_dropLast_set_perm {init : List α} {last : α} {k : ℕ}
    (hk : k < (init ++ [last]).length) :
    ((init ++ [last])[k] :: ((init ++ [last]).set k last).dropLast).Perm (init ++ [last]) := by
  rcases Nat.lt_or_ge k init.length with hlt | hge
  · rw [List.getElem_append_left hlt, List.set_append_left _ _ hlt, List.dropLast_concat]
    calc (init[k] :: init.set k last).Perm (init[k] :: last :: init.eraseIdx k) :=
          (List.set_perm_cons_eraseIdx hlt last).cons _
      List.Perm _ (last :: init[k] :: init.eraseIdx k) := List.Perm.swap ..
      List.Perm _ (last :: init) := (List.getElem_cons_eraseIdx_perm hlt).cons _
      List.Perm _ (init ++ [last]) := (List.perm_append_singleton last init).symm
  -- the last entry itself
  · rw [List.length_append, List.length_singleton] at hk
    obtain rfl : k = init.length := le_antisymm (Nat.lt_succ_iff.mp hk) hge
    rw [List.getElem_concat_length rfl, List.set_append_right _ _ le_rfl, Nat.sub_self,
      List.set_cons_zero, List.dropLast_concat]
    exact (List.perm_append_singleton last init).symm

/-- The table without its last entry, once that has been copied over the one that goes. -/
theorem contents_removeAt_eq (i : Fin n) (hne : p.contents ≠ []) :
    (p.removeAt i).contents = (p.contents.set i.val (p.contents.getLast hne)).dropLast := by
  have hlast := (List.getLast_eq_getElem hne).trans (getElem_contents _)
  apply List.ext_getElem
  · rw [length_contents, List.length_dropLast, List.length_set, length_contents]
    rfl
  · intro k hk _
    rw [getElem_contents, List.getElem_dropLast, List.getElem_set]
    show Function.update p.cells i _ _ = _
    simp only [hlast, getElem_contents, length_contents, Function.update_apply, Fin.ext_iff,
      eq_comm]

/-- **Removing takes out the entry of the cell**, and no other. -/
theorem contents_removeAt (hi : i.val < p.count) :
    (p.cells i :: (p.removeAt i).contents).Perm p.contents := by
  have hlen : i.val < p.contents.length := by rwa [length_contents]
  have hne : p.contents ≠ [] := List.ne_nil_of_length_pos (Nat.zero_lt_of_lt hlen)
  have hlast := List.dropLast_concat_getLast hne
  have hperm := cons_dropLast_set_perm (k := i.val) (hlast.symm ▸ hlen)
  rw [contents_removeAt_eq i hne]
  simp only [hlast, getElem_contents] at hperm
  exact hperm

/-! ### Searching -/

section Find

variable [DecidableEq α]

theorem find_eq_some (h : p.find x = some i) : i.val < p.count ∧ p.cells i = x :=
  of_decide_eq_true
    (List.find?_some (p := fun i : Fin n => decide (i.val < p.count ∧ p.cells i = x)) h)

theorem find_eq_none (h : p.find x = none) : x ∉ p.contents := by
  rw [mem_contents]
  rintro ⟨i, hi⟩
  exact List.find?_eq_none.mp h i (List.mem_finRange i) (decide_eq_true hi)

end Find

end Packed

end PackedTable
