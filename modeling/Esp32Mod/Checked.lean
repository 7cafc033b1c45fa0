/-
Esp32Mod/Checked.lean

Checked computations: what a C program does as far as C defines it.  A result is an `Option`, and
`none` stands for what is undefined: a signed 32-bit expression that overflows (`int32`), memory
read or written outside of its block (`load`, `store`), and a loop that does not come to an end.

A loop is its body, `σ → Option (Pass σ ρ)`: one pass ends in the next state, or leaves the loop
with a result.  `loop` performs passes as long as there is fuel.  `loop_spec` is the rule: an
invariant, and a measure that every pass lowers, and then the loop ends and is defined;
`loop_sound` is for a loop that ends when something else lets it.  More fuel than is needed changes
nothing (`loop_fuel`).  A loop of which every pass goes on has no result (`loop_diverges`).  `Ends` is
what comes to its end with enough fuel.
-/
import Mathlib.Algebra.Order.Ring.Int
import Mathlib.Data.List.TakeDrop
import Mathlib.Tactic.Common

namespace Checked

/-! ### Signed arithmetic -/

/-- The value of a signed 32-bit expression. -/
def int32 (x : Int) : Option Int := if -2 ^ 31 ≤ x ∧ x < 2 ^ 31 then some x else none

theorem int32_eq {x : Int} (hlow : -2 ^ 31 ≤ x) (hhigh : x < 2 ^ 31) : int32 x = some x :=
  if_pos ⟨hlow, hhigh⟩

/-! ### Memory -/

section Memory

variable {α : Type*}

/-- `n` cells of a block, from `offset` on. -/
def load (block : List α) (offset n : Nat) : Option (List α) :=
  if offset + n ≤ block.length then some ((block.drop offset).take n) else none

/-- A block with `xs` from `offset` on. -/
def overwrite (block : List α) (offset : Nat) (xs : List α) : List α :=
  block.take offset ++ xs ++ block.drop (offset + xs.length)

/-- Write within the block, or not at all. -/
def store (block : List α) (offset : Nat) (xs : List α) : Option (List α) :=
  if offset + xs.length ≤ block.length then some (overwrite block offset xs) else none

variable {block xs ys : List α} {offset n : Nat}

theorem load_eq (h : offset + n ≤ block.length) :
    load block offset n = some ((block.drop offset).take n) :=
  if_pos h

theorem store_eq (h : offset + xs.length ≤ block.length) :
    store block offset xs = some (overwrite block offset xs) :=
  if_pos h

theorem overwrite_nil : overwrite block offset [] = block := by
  rw [overwrite, List.append_nil, List.length_nil, Nat.add_zero, List.take_append_drop]

theorem length_overwrite (h : offset + xs.length ≤ block.length) :
    (overwrite block offset xs).length = block.length := by
  simp only [overwrite, List.length_append, List.length_take, List.length_drop]
  omega

/-- **What is stored right behind `xs` is stored with it.** -/
theorem overwrite_overwrite (h : offset + xs.length ≤ block.length) :
    overwrite (overwrite block offset xs) (offset + xs.length) ys =
      overwrite block offset (xs ++ ys) := by
  have hfront : (block.take offset ++ xs).length = offset + xs.length := by
    rw [List.length_append, List.length_take]
    omega
  unfold overwrite
  rw [List.take_left' hfront, List.drop_append, hfront, List.drop_eq_nil_of_le (by omega),
    List.nil_append, List.drop_drop, List.length_append]
  simp only [List.append_assoc]
  congr 4
  omega

theorem drop_overwrite_zero (xs : List α) :
    overwrite block 0 xs = xs ++ block.drop xs.length := by
  rw [overwrite, List.take_zero, List.nil_append, Nat.zero_add]

end Memory

/-! ### Loops -/

/-- How a pass of a loop ends. -/
inductive Pass (σ ρ : Type*)
  | next (s : σ)
  | done (r : ρ)

variable {σ ρ : Type*} {body : σ → Option (Pass σ ρ)}

/-- Passes from `s` on, as long as there is fuel. -/
def loop (body : σ → Option (Pass σ ρ)) : Nat → σ → Option ρ
  | 0, _ => none
  | fuel + 1, s =>
    match body s with
    | none => none
    | some (.next s') => loop body fuel s'
    | some (.done r) => some r

/-- **The rule of a loop**: from the invariant a pass is defined; it keeps the invariant and lowers
the measure, or its result is right. -/
theorem loop_spec {I : σ → Prop} {Q : ρ → Prop} (measure : σ → Nat)
    (hbody : ∀ s, I s → (∃ s', body s = some (.next s') ∧ I s' ∧ measure s' < measure s) ∨
      ∃ r, body s = some (.done r) ∧ Q r)
    {s : σ} (hs : I s) {fuel : Nat} (hfuel : measure s < fuel) :
    ∃ r, loop body fuel s = some r ∧ Q r := by
  induction fuel generalizing s with
  | zero => exact absurd hfuel (Nat.not_lt_zero _)
  | succ fuel ih =>
    rcases hbody s hs with ⟨s', hpass, hs', hless⟩ | ⟨r, hpass, hr⟩
    · obtain ⟨r, hloop, hr⟩ := ih hs' (by omega)
      exact ⟨r, by rw [loop, hpass]; exact hloop, hr⟩
    · exact ⟨r, by rw [loop, hpass], hr⟩

/-- **The rule of a loop that has come to its end**, whatever made it end. -/
theorem loop_sound {I : σ → Prop} {Q : ρ → Prop}
    (hnext : ∀ s s', I s → body s = some (.next s') → I s')
    (hdone : ∀ s r, I s → body s = some (.done r) → Q r)
    {s : σ} {r : ρ} {fuel : Nat} (hs : I s) (h : loop body fuel s = some r) : Q r := by
  induction fuel generalizing s with
  | zero => exact nomatch h
  | succ fuel ih =>
    rw [loop] at h
    split at h
    · exact nomatch h
    · next s' hpass => exact ih (hnext s s' hs hpass) h
    · next r' hpass =>
      obtain rfl := Option.some.inj h
      exact hdone s r' hs hpass

/-- A loop that has come to its end does not need more fuel. -/
theorem loop_fuel {s : σ} {r : ρ} {fuel more : Nat} (h : loop body fuel s = some r)
    (hmore : fuel ≤ more) : loop body more s = some r := by
  induction fuel generalizing s more with
  | zero => exact nomatch h
  | succ fuel ih =>
    obtain ⟨more, rfl⟩ := Nat.exists_eq_add_of_le' (Nat.lt_of_lt_of_le fuel.succ_pos hmore)
    rw [loop] at h ⊢
    split at h
    · exact nomatch h
    · exact ih h (by omega)
    · exact h

/-- A loop each of whose passes goes on does not come to its end. -/
theorem loop_diverges {I : σ → Prop} (hbody : ∀ s, I s → ∃ s', body s = some (.next s') ∧ I s')
    {s : σ} (hs : I s) (fuel : Nat) : loop body fuel s = none := by
  induction fuel generalizing s with
  | zero => rfl
  | succ fuel ih =>
    obtain ⟨s', hpass, hs'⟩ := hbody s hs
    rw [loop, hpass]
    exact ih hs'

/-- The result does not depend on the fuel. -/
theorem loop_unique {s : σ} {r r' : ρ} {fuel fuel' : Nat} (h : loop body fuel s = some r)
    (h' : loop body fuel' s = some r') : r = r' := by
  have hmore := loop_fuel h (Nat.le_max_left fuel fuel')
  have hmore' := loop_fuel h' (Nat.le_max_right fuel fuel')
  exact Option.some.inj (hmore.symm.trans hmore')

/-! ### Computations that end -/

/-- With so much fuel or more, there is one result. -/
def Ends {α : Type*} (f : Nat → Option α) : Prop := ∃ fuel r, ∀ more, fuel ≤ more → f more = some r

theorem Ends.of_some {α : Type*} (r : α) : Ends fun _ => some r := ⟨0, r, fun _ _ => rfl⟩

theorem Ends.of_loop {I : σ → Prop} (measure : σ → Nat)
    (hbody : ∀ s, I s → (∃ s', body s = some (.next s') ∧ I s' ∧ measure s' < measure s) ∨
      ∃ r, body s = some (.done r))
    {s : σ} (hs : I s) : Ends fun fuel => loop body fuel s := by
  obtain ⟨r, hr, -⟩ := loop_spec (Q := fun _ => True) measure
    (fun s hs => (hbody s hs).imp_right fun ⟨r, hr⟩ => ⟨r, hr, trivial⟩) hs (Nat.lt_succ_self _)
  exact ⟨_, r, fun _ hmore => loop_fuel hr hmore⟩

theorem Ends.bind {α β : Type*} {f : Nat → Option α} {g : Nat → α → Option β} (h : Ends f)
    (hg : ∀ r, Ends fun fuel => g fuel r) : Ends fun fuel => (f fuel).bind (g fuel) := by
  obtain ⟨fuel, r, hf⟩ := h
  obtain ⟨fuel', r', hg⟩ := hg r
  refine ⟨max fuel fuel', r', fun more hmore => ?_⟩
  show (f more).bind (g more) = _
  rw [hf more (by omega), Option.bind_some]
  exact hg more (by omega)

theorem Ends.map {α β : Type*} {f : Nat → Option α} (g : α → β) (h : Ends f) :
    Ends fun fuel => (f fuel).map g := by
  obtain ⟨fuel, r, hf⟩ := h
  exact ⟨fuel, g r, fun more hmore => congrArg (Option.map g) (hf more hmore)⟩

end Checked
