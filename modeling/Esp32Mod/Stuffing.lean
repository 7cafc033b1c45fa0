/-
Esp32Mod/Stuffing.lean

Lists in which one element, the mark, gets another before it, and nothing else is changed.

`unstuff` takes away whatever stands right before a mark.  That is what `stuff` has put there,
provided that it is no mark itself (`unstuff_stuff`); so the stuffed list says what it was made
from (`stuff_injective`).
-/
import Mathlib.Data.List.Basic
import Mathlib.Tactic.Common

namespace Stuffing

variable {α : Type*} [DecidableEq α] {escape mark x : α} {xs ys : List α}

/-- `escape` before every `mark`. -/
def stuff (escape mark : α) (xs : List α) : List α :=
  xs.flatMap fun x => if x = mark then [escape, x] else [x]

/-- Without the element before every `mark`. -/
def unstuff (mark : α) : List α → List α
  | [] => []
  | [x] => [x]
  | x :: y :: ys => if y = mark then unstuff mark (y :: ys) else x :: unstuff mark (y :: ys)

theorem stuff_nil : stuff escape mark [] = [] := rfl

theorem stuff_cons_mark (xs : List α) :
    stuff escape mark (mark :: xs) = escape :: mark :: stuff escape mark xs := by
  rw [stuff, List.flatMap_cons, if_pos rfl]
  rfl

theorem stuff_cons_other (h : x ≠ mark) (xs : List α) :
    stuff escape mark (x :: xs) = x :: stuff escape mark xs := by
  rw [stuff, List.flatMap_cons, if_neg h]
  rfl

/-- A stuffed list does not begin with a mark. -/
theorem head_stuff (h : escape ≠ mark) (xs : List α) :
    (stuff escape mark xs).head? ≠ some mark := by
  cases xs with
  | nil => exact (Option.some_ne_none mark).symm
  | cons x xs =>
    by_cases hx : x = mark
    · rw [hx, stuff_cons_mark, List.head?_cons]
      exact fun heq => h (Option.some.inj heq)
    · rw [stuff_cons_other hx, List.head?_cons]
      exact fun heq => hx (Option.some.inj heq)

theorem unstuff_cons (h : ys.head? ≠ some mark) (x : α) :
    unstuff mark (x :: ys) = x :: unstuff mark ys := by
  cases ys with
  | nil => rfl
  | cons y ys => exact if_neg fun hy => h (congrArg some hy)

/-- **What has been stuffed in is taken out again.** -/
theorem unstuff_stuff (h : escape ≠ mark) (xs : List α) :
    unstuff mark (stuff escape mark xs) = xs := by
  induction xs with
  | nil => rfl
  | cons x xs ih =>
    have hrest := unstuff_cons (head_stuff h xs) x
    by_cases hx : x = mark
    · subst hx
      rw [stuff_cons_mark, unstuff, if_pos rfl, hrest, ih]
    · rw [stuff_cons_other hx, hrest, ih]

theorem stuff_injective (h : escape ≠ mark) : (stuff escape mark).Injective :=
  Function.LeftInverse.injective (unstuff_stuff h)

end Stuffing
