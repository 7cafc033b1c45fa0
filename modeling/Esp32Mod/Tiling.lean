/-
Esp32Mod/Tiling.lean

A buffer that is gone through piece by piece.

`Tiles a pieces b` says that the pieces are not empty and follow on each other from `a` to `b`.
So they lie in there (`Tiles.inside`), and what they cut out of a list is the part from `a` to `b`
(`Tiles.flatMap_slice`).
-/
import Mathlib.Algebra.Order.Ring.Nat
import Mathlib.Data.List.TakeDrop
import Mathlib.Tactic.Common

namespace Tiling

/-- Where a piece begins, and how long it is. -/
structure Piece where
  offset : Nat
  length : Nat
  deriving DecidableEq

/-- The pieces lead from the first place to the last, none is empty and none leaves a gap. -/
inductive Tiles : Nat → List Piece → Nat → Prop
  | nil (a : Nat) : Tiles a [] a
  | cons {a b n : Nat} {pieces : List Piece} (hpos : 0 < n) (htiles : Tiles (a + n) pieces b) :
      Tiles a (⟨a, n⟩ :: pieces) b

/-- The piece as a part of something that begins `d` places earlier. -/
def Piece.shift (d : Nat) (p : Piece) : Piece := ⟨d + p.offset, p.length⟩

/-- What the piece cuts out of a list. -/
def Piece.slice {α : Type*} (xs : List α) (p : Piece) : List α := (xs.drop p.offset).take p.length

variable {a b c n : Nat} {pieces pieces' : List Piece}

theorem Tiles.append (h : Tiles a pieces b) (h' : Tiles b pieces' c) :
    Tiles a (pieces ++ pieces') c := by
  induction h with
  | nil a => exact h'
  | cons hpos _ ih => exact .cons hpos (ih h')

/-- One more piece. -/
theorem Tiles.concat (h : Tiles a pieces b) (hpos : 0 < n) :
    Tiles a (pieces ++ [⟨b, n⟩]) (b + n) :=
  h.append (.cons hpos (.nil _))

theorem Tiles.le (h : Tiles a pieces b) : a ≤ b := by
  induction h with
  | nil a => exact Nat.le_refl a
  | cons hpos _ ih => omega

theorem Tiles.shift (h : Tiles a pieces b) (d : Nat) :
    Tiles (d + a) (pieces.map (Piece.shift d)) (d + b) := by
  induction h with
  | nil a => exact .nil _
  | cons hpos _ ih => exact .cons hpos (by rwa [Nat.add_assoc])

theorem Tiles.inside (h : Tiles a pieces b) {p : Piece} (hp : p ∈ pieces) :
    0 < p.length ∧ a ≤ p.offset ∧ p.offset + p.length ≤ b := by
  induction h with
  | nil a => exact absurd hp List.not_mem_nil
  | cons hpos htiles ih =>
    have hle := htiles.le
    rcases List.mem_cons.mp hp with rfl | hp
    · exact ⟨hpos, Nat.le_refl _, hle⟩
    · have := ih hp
      omega

theorem Tiles.sum_length (h : Tiles a pieces b) : a + (pieces.map Piece.length).sum = b := by
  induction h with
  | nil a => rfl
  | cons hpos _ ih => rw [List.map_cons, List.sum_cons, ← Nat.add_assoc, ih]

/-- **The pieces put together.** -/
theorem Tiles.flatMap_slice {α : Type*} (h : Tiles a pieces b) (xs : List α) :
    pieces.flatMap (Piece.slice xs) = (xs.drop a).take (b - a) := by
  induction h with
  | nil a => rw [Nat.sub_self, List.take_zero, List.flatMap_nil]
  | @cons a b n pieces hpos htiles ih =>
    have hle := htiles.le
    have hlength : b - a = n + (b - (a + n)) := by omega
    rw [List.flatMap_cons, ih, Piece.slice, ← List.drop_drop, hlength, List.take_add]

end Tiling
