/-
Esp32Mod/Buffer.lean

Fixed-size arrays that are filled piece by piece, as by `memcpy(value + d, bytes, n)`.

`blit v d xs` is `v` with `xs` written from position `d` on.  `Starts v xs` says that `v`
begins with `xs`; appending a piece right after what is there appends it to the list
(`Starts.blit`), which is how a value that arrives in pieces is put together.

`assemble v pieces` is what is left in `v` when pieces have been written at arbitrary
positions: each cell comes from a piece that covers it (`assemble_cell`), and pieces that
follow on each other leave no gap (`Contiguous.covered`).
-/
import Mathlib.Data.List.Infix
import Mathlib.Tactic.Common

namespace Buffer

variable {α : Type*} {n : Nat}

/-- `xs` written into `v` from position `d` on; what does not fit is left out. -/
def blit (v : Vector α n) (d : Nat) (xs : List α) : Vector α n :=
  Vector.ofFn fun i => if h : d ≤ i ∧ i - d < xs.length then xs[i - d] else v[i]

theorem getElem_blit (v : Vector α n) (d : Nat) (xs : List α) (i : Nat) (hi : i < n) :
    (blit v d xs)[i] = if h : d ≤ i ∧ i - d < xs.length then xs[i - d] else v[i] := by
  simp only [blit, Vector.getElem_ofFn, Fin.getElem_fin]

/-- Inside the piece, the piece. -/
theorem blit_inside {v : Vector α n} {d j : Nat} {xs : List α} (hj : j < xs.length)
    (hi : d + j < n) : (blit v d xs)[d + j] = xs[j] := by
  have hd : d ≤ d + j ∧ d + j - d < xs.length := by omega
  rw [getElem_blit, dif_pos hd]
  congr 1
  omega

/-- Outside the piece, what was there. -/
theorem blit_outside {v : Vector α n} {d i : Nat} {xs : List α} (hi : i < n)
    (h : i < d ∨ d + xs.length ≤ i) : (blit v d xs)[i] = v[i] := by
  rw [getElem_blit, dif_neg (by omega)]

/-! ### What an array begins with -/

/-- `v` begins with `xs`. -/
def Starts (v : Vector α n) (xs : List α) : Prop :=
  ∀ i (hi : i < xs.length), ∃ hn : i < n, v[i] = xs[i]

theorem starts_nil (v : Vector α n) : Starts v [] := by
  intro i hi
  exact absurd hi (Nat.not_lt_zero i)

theorem Starts.length_le {v : Vector α n} {xs : List α} (h : Starts v xs) : xs.length ≤ n := by
  by_contra hlt
  obtain ⟨hn, -⟩ := h n (by omega)
  exact Nat.lt_irrefl n hn

theorem Starts.toList_take {v : Vector α n} {xs : List α} (h : Starts v xs) :
    v.toList.take xs.length = xs := by
  have hle := h.length_le
  apply List.ext_getElem
  · rw [List.length_take, Vector.length_toList]
    omega
  · intro i _ hi
    obtain ⟨hn, hv⟩ := h i hi
    rw [List.getElem_take, Vector.getElem_toList, hv]

/-- **A piece written right after `xs` is appended to it.** -/
theorem Starts.blit {v : Vector α n} {xs : List α} (h : Starts v xs) (ys : List α)
    (hfit : xs.length + ys.length ≤ n) : Starts (blit v xs.length ys) (xs ++ ys) := by
  intro i hi
  rw [List.length_append] at hi
  refine ⟨by omega, ?_⟩
  rcases Nat.lt_or_ge i xs.length with hlt | hge
  · obtain ⟨hn, hv⟩ := h i hlt
    rw [blit_outside hn (Or.inl hlt), hv, List.getElem_append_left hlt]
  · obtain ⟨j, rfl⟩ := Nat.exists_eq_add_of_le hge
    rw [blit_inside (by omega) (by omega), List.getElem_append_right (by omega)]
    congr 1
    omega

/-! ### Pieces at arbitrary positions -/

/-- The pieces, each a position and what is written there, one after another. -/
def assemble (v : Vector α n) (pieces : List (Nat × List α)) : Vector α n :=
  pieces.foldl (fun v piece => blit v piece.1 piece.2) v

theorem assemble_append (v : Vector α n) (pieces : List (Nat × List α)) (piece : Nat × List α) :
    assemble v (pieces ++ [piece]) = blit (assemble v pieces) piece.1 piece.2 :=
  List.foldl_append

/-- The piece covers position `k`. -/
def Covers (piece : Nat × List α) (k : Nat) : Prop :=
  piece.1 ≤ k ∧ k < piece.1 + piece.2.length

/-- A piece among `pieces` has `x` for position `k`. -/
def Brought (pieces : List (Nat × List α)) (k : Nat) (x : α) : Prop :=
  ∃ piece ∈ pieces, Covers piece k ∧ piece.2[k - piece.1]? = some x

/-- No piece covers position `k`. -/
def Gap (pieces : List (Nat × List α)) (k : Nat) : Prop := ∀ piece ∈ pieces, ¬ Covers piece k

/-- **Where a cell comes from**: from a piece that covers it, or from before. -/
theorem assemble_cell (v : Vector α n) (pieces : List (Nat × List α)) {k : Nat} (hk : k < n) :
    Brought pieces k (assemble v pieces)[k] ∨
      Gap pieces k ∧ (assemble v pieces)[k] = v[k] := by
  induction pieces using List.reverseRecOn with
  | nil => exact Or.inr ⟨fun _ hmem => absurd hmem List.not_mem_nil, rfl⟩
  | append_singleton pieces piece ih =>
    simp only [assemble_append]
    rcases Classical.em (Covers piece k) with hcovers | hnot
    · -- the last piece
      refine Or.inl ⟨piece, List.mem_append_right _ (List.mem_singleton_self piece), hcovers, ?_⟩
      have hinside : piece.1 ≤ k ∧ k - piece.1 < piece.2.length := by
        unfold Covers at hcovers
        omega
      rw [getElem_blit, dif_pos hinside, List.getElem?_eq_getElem]
    · have hsame : (blit (assemble v pieces) piece.1 piece.2)[k] = (assemble v pieces)[k] := by
        apply blit_outside
        unfold Covers at hnot
        omega
      rw [hsame]
      rcases ih with ⟨piece', hmem, hbrought⟩ | ⟨hgap, hold⟩
      · exact Or.inl ⟨piece', List.mem_append_left _ hmem, hbrought⟩
      · refine Or.inr ⟨?_, hold⟩
        intro piece' hmem
        rcases List.mem_append.mp hmem with hmem | hmem
        · exact hgap piece' hmem
        · obtain rfl := List.mem_singleton.mp hmem
          exact hnot

/-- How far the pieces go. -/
def reach (pieces : List (Nat × List α)) : Nat :=
  pieces.foldl (fun r piece => max r (piece.1 + piece.2.length)) 0

theorem reach_append (pieces : List (Nat × List α)) (piece : Nat × List α) :
    reach (pieces ++ [piece]) = max (reach pieces) (piece.1 + piece.2.length) :=
  List.foldl_append

/-- Each piece begins inside, or right behind, what the pieces before it cover. -/
def Contiguous (pieces : List (Nat × List α)) : Prop :=
  ∀ before piece after, pieces = before ++ piece :: after → piece.1 ≤ reach before

/-- **Contiguous pieces cover everything up to where they go.** -/
theorem Contiguous.covered {pieces : List (Nat × List α)} (h : Contiguous pieces) {k : Nat}
    (hk : k < reach pieces) : ¬ Gap pieces k := by
  induction pieces using List.reverseRecOn with
  | nil => exact absurd hk (Nat.not_lt_zero k)
  | append_singleton pieces piece ih =>
    intro hgap
    have hbegins : piece.1 ≤ reach pieces := h pieces piece [] rfl
    have hnot := hgap piece (List.mem_append_right _ (List.mem_singleton_self piece))
    have hbefore : Contiguous pieces := by
      intro before piece' after heq
      exact h before piece' (after ++ [piece]) (by rw [heq, List.append_assoc, List.cons_append])
    rw [reach_append] at hk
    unfold Covers at hnot
    apply ih hbefore
    · omega
    · intro piece' hmem
      exact hgap piece' (List.mem_append_left _ hmem)

end Buffer
