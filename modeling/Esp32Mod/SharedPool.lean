/-
Esp32Mod/SharedPool.lean

Resources that are shared and counted: each holder has at most one resource, and each resource
keeps the number of its holders.  An assignment is a function from holders to resources,
`none` for a holder that has none.

`Counted.acquire` and `Counted.release` are the two ways in which a count moves; the other
lemmas say what an exact count tells: that a resource is free, that a holder has it alone, that
the count stays below the number of holders.
-/
import Mathlib.Data.Fintype.Card
import Mathlib.Logic.Function.Basic

namespace SharedPool

variable {ι κ : Type*} [Fintype ι] [DecidableEq κ]

/-- The holders of a resource. -/
def holders (assigned : ι → Option κ) (k : κ) : Finset ι :=
  Finset.univ.filter fun i => assigned i = some k

/-- Every resource knows how many holders it has. -/
def Counted (assigned : ι → Option κ) (count : κ → ℕ) : Prop :=
  ∀ k, count k = (holders assigned k).card

variable {assigned : ι → Option κ} {count : κ → ℕ} {i j : ι} {k : κ}

theorem mem_holders : i ∈ holders assigned k ↔ assigned i = some k := by
  rw [holders, Finset.mem_filter]
  exact ⟨fun h => h.2, fun h => ⟨Finset.mem_univ i, h⟩⟩

/-! ### How the holders change -/

section Changes

variable [DecidableEq ι]

theorem holders_acquire : holders (Function.update assigned i (some k)) k =
    insert i (holders assigned k) := by
  ext j
  rw [Finset.mem_insert, mem_holders, mem_holders]
  by_cases hj : j = i
  · rw [hj, Function.update_self]
    exact ⟨fun _ => Or.inl rfl, fun _ => rfl⟩
  · rw [Function.update_of_ne hj]
    exact ⟨Or.inr, fun h => h.resolve_left hj⟩

theorem holders_release : holders (Function.update assigned i none) k =
    (holders assigned k).erase i := by
  ext j
  rw [Finset.mem_erase, mem_holders, mem_holders]
  by_cases hj : j = i
  · rw [hj, Function.update_self]
    exact ⟨(fun h => nomatch h), fun h => absurd rfl h.1⟩
  · rw [Function.update_of_ne hj]
    exact ⟨fun h => ⟨hj, h⟩, fun h => h.2⟩

/-- Another resource keeps its holders. -/
theorem holders_of_ne {o : Option κ} (hold : assigned i ≠ some k) (hnew : o ≠ some k) :
    holders (Function.update assigned i o) k = holders assigned k := by
  ext j
  rw [mem_holders, mem_holders]
  by_cases hj : j = i
  · rw [hj, Function.update_self]
    exact ⟨fun h => absurd h hnew, fun h => absurd h hold⟩
  · rw [Function.update_of_ne hj]

/-! ### How the counts change -/

/-- **A holder without a resource takes one.** -/
theorem Counted.acquire (h : Counted assigned count) (hi : assigned i = none) (k : κ) :
    Counted (Function.update assigned i (some k)) (Function.update count k (count k + 1)) := by
  intro k'
  by_cases hk : k' = k
  -- the resource that is taken has one holder more
  · have hmem : i ∉ holders assigned k := by
      rw [mem_holders, hi]
      exact fun h => nomatch h
    rw [hk, Function.update_self, holders_acquire, Finset.card_insert_of_notMem hmem, ← h k]
  · have hnew : some k ≠ some k' := fun heq => hk (Option.some.inj heq).symm
    rw [Function.update_of_ne hk, holders_of_ne (by rw [hi]; exact fun h => nomatch h) hnew]
    exact h k'

/-- **A holder gives its resource back.** -/
theorem Counted.release (h : Counted assigned count) (hi : assigned i = some k) :
    Counted (Function.update assigned i none) (Function.update count k (count k - 1)) := by
  intro k'
  by_cases hk : k' = k
  · rw [hk, Function.update_self, holders_release, Finset.card_erase_of_mem (mem_holders.mpr hi),
      ← h k]
  · have hold : assigned i ≠ some k' := by
      rw [hi]
      exact fun heq => hk (Option.some.inj heq).symm
    have hnew : (none : Option κ) ≠ some k' := fun heq => nomatch heq
    rw [Function.update_of_ne hk, holders_of_ne hold hnew]
    exact h k'

end Changes

/-! ### What a count tells -/

theorem Counted.pos_iff (h : Counted assigned count) : 0 < count k ↔ ∃ i, assigned i = some k := by
  rw [h k, Finset.card_pos]
  constructor
  · rintro ⟨i, hi⟩
    exact ⟨i, mem_holders.mp hi⟩
  · rintro ⟨i, hi⟩
    exact ⟨i, mem_holders.mpr hi⟩

/-- While someone has no resource, no count reaches the number of holders. -/
theorem Counted.lt_card (h : Counted assigned count) (hi : assigned i = none) (k : κ) :
    count k < Fintype.card ι := by
  rw [h k]
  apply Finset.card_lt_univ_of_notMem (x := i)
  rw [mem_holders, hi]
  exact fun h => nomatch h

/-- A count of one: the resource is held alone. -/
theorem Counted.sole (h : Counted assigned count) (hk : count k ≤ 1) (hi : assigned i = some k)
    (hj : assigned j = some k) : i = j := by
  rw [h k] at hk
  exact Finset.card_le_one.mp hk i (mem_holders.mpr hi) j (mem_holders.mpr hj)

/-- Where nobody holds anything, every count is zero. -/
theorem Counted.idle (h : Counted assigned count) (hnone : ∀ i, assigned i = none) (k : κ) :
    count k = 0 := by
  apply Nat.eq_zero_of_not_pos
  rw [h.pos_iff]
  rintro ⟨i, hi⟩
  rw [hnone i] at hi
  cases hi

end SharedPool
