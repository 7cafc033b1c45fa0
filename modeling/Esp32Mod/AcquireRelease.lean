/-
Esp32Mod/AcquireRelease.lean

Resources that rest on one another.  `needs r` lists what `r` rests on, and a log of acquisitions
and releases is checked one entry after the other: nothing is acquired twice or before what it
rests on, nothing is released that is not held or that something held still rests on.

`perform` does the checking and computes what is held at the end, which never lacks what it rests
on (`perform_closed`).  In a log that leaves nothing behind every acquisition has its release
(`count_release`); `perform_releases` and `perform_acquires_then` are how such logs are found.
-/
import Mathlib.Data.Finset.Basic
import Mathlib.Data.Finset.Lattice.Lemmas
import Mathlib.Data.List.Nodup

namespace AcquireRelease

/-- What is logged of a resource. -/
inductive Action (ρ : Type*)
  | acquire (r : ρ)
  | release (r : ρ)
  deriving DecidableEq

variable {ρ : Type*} [DecidableEq ρ] {needs : ρ → List ρ}

/-- What is held after one entry. -/
def act (needs : ρ → List ρ) (held : Finset ρ) : Action ρ → Option (Finset ρ)
  | .acquire r =>
    if r ∉ held ∧ ∀ p ∈ needs r, p ∈ held then some (insert r held) else none
  | .release r =>
    if r ∈ held ∧ ∀ q ∈ held, r ∉ needs q then some (held.erase r) else none

/-- What is held after the whole log; `none` if an entry is not allowed. -/
def perform (needs : ρ → List ρ) : Finset ρ → List (Action ρ) → Option (Finset ρ)
  | held, [] => some held
  | held, a :: as => (act needs held a).bind fun held => perform needs held as

variable {held held' : Finset ρ} {as bs : List (Action ρ)} {xs ys : List ρ} {r : ρ}

theorem perform_append : perform needs held (as ++ bs) =
    (perform needs held as).bind fun held => perform needs held bs := by
  induction as generalizing held with
  | nil => rfl
  | cons a as ih =>
    show (act needs held a).bind _ = ((act needs held a).bind _).bind _
    cases act needs held a with
    | none => rfl
    | some held => exact ih

theorem act_acquire_some (h : act needs held (.acquire r) = some held') :
    r ∉ held ∧ held' = insert r held := by
  rw [act] at h
  split at h
  next hallowed => exact ⟨hallowed.1, (Option.some.inj h).symm⟩
  next => cases h

theorem act_release_some (h : act needs held (.release r) = some held') :
    r ∈ held ∧ held' = held.erase r := by
  rw [act] at h
  split at h
  next hallowed => exact ⟨hallowed.1, (Option.some.inj h).symm⟩
  next => cases h

/-- What is held rests on what is held. -/
def Closed (needs : ρ → List ρ) (held : Finset ρ) : Prop :=
  ∀ r ∈ held, ∀ p ∈ needs r, p ∈ held

theorem act_closed (hclosed : Closed needs held) {a : Action ρ}
    (h : act needs held a = some held') : Closed needs held' := by
  cases a with
  | acquire x =>
    rw [act] at h
    split at h
    next hallowed =>
      obtain rfl := Option.some.inj h
      intro r hr p hp
      rcases Finset.mem_insert.mp hr with rfl | hr
      · exact Finset.mem_insert_of_mem (hallowed.2 p hp)
      · exact Finset.mem_insert_of_mem (hclosed r hr p hp)
    next => cases h
  | release x =>
    rw [act] at h
    split at h
    next hallowed =>
      obtain rfl := Option.some.inj h
      intro r hr p hp
      have hheld : r ∈ held := (Finset.mem_erase.mp hr).2
      refine Finset.mem_erase.mpr ⟨?_, hclosed r hheld p hp⟩
      -- what is released is needed by nothing that stays
      rintro rfl
      exact hallowed.2 r hheld hp
    next => cases h

/-- **Nothing is ever held without what it rests on.** -/
theorem perform_closed (hclosed : Closed needs held) (h : perform needs held as = some held') :
    Closed needs held' := by
  induction as generalizing held with
  | nil =>
    obtain rfl := Option.some.inj h
    exact hclosed
  | cons a as ih =>
    obtain ⟨held₁, hact, hrest⟩ := Option.bind_eq_some_iff.mp h
    exact ih (act_closed hclosed hact) hrest

/-! ### Acquiring and releasing in order -/

/-- Acquisitions only add to what is held. -/
theorem perform_acquires (h : perform needs held (xs.map .acquire) = some held') :
    held' = held ∪ xs.toFinset := by
  induction xs generalizing held with
  | nil =>
    obtain rfl := Option.some.inj h
    rw [List.toFinset_nil, Finset.union_empty]
  | cons x xs ih =>
    obtain ⟨held₁, hact, hrest⟩ := Option.bind_eq_some_iff.mp h
    obtain ⟨-, rfl⟩ := act_acquire_some hact
    rw [ih hrest, List.toFinset_cons, Finset.insert_union, Finset.union_insert]

/-- What can be acquired in order can be acquired up to any point. -/
theorem perform_acquires_append (h : perform needs ∅ ((xs ++ ys).map .acquire) = some held') :
    perform needs ∅ (xs.map .acquire) = some xs.toFinset := by
  rw [List.map_append, perform_append] at h
  obtain ⟨held, hfirst, -⟩ := Option.bind_eq_some_iff.mp h
  rw [hfirst, perform_acquires hfirst, Finset.empty_union]

/-- **Released in an order in which nothing is needed by what follows, all goes.** -/
theorem perform_releases (hnodup : xs.Nodup) (hself : ∀ x ∈ xs, x ∉ needs x)
    (horder : xs.Pairwise fun x y => x ∉ needs y) :
    perform needs xs.toFinset (xs.map .release) = some ∅ := by
  induction xs with
  | nil => rfl
  | cons x xs ih =>
    obtain ⟨hx, hnodup⟩ := List.nodup_cons.mp hnodup
    obtain ⟨hlater, horder⟩ := List.pairwise_cons.mp horder
    -- nothing in the list needs its head, neither the head itself nor what follows
    have hact : act needs (x :: xs).toFinset (.release x) = some xs.toFinset := by
      have hallowed : x ∈ (x :: xs).toFinset ∧ ∀ q ∈ (x :: xs).toFinset, x ∉ needs q := by
        refine ⟨List.mem_toFinset.mpr List.mem_cons_self, ?_⟩
        intro q hq
        rcases List.mem_cons.mp (List.mem_toFinset.mp hq) with rfl | hq
        · exact hself q List.mem_cons_self
        · exact hlater q hq
      have herase : (x :: xs).toFinset.erase x = xs.toFinset := by
        rw [List.toFinset_cons, Finset.erase_insert]
        rwa [List.mem_toFinset]
      show (if _ then _ else _) = _
      rw [if_pos hallowed, herase]
    show (act needs (x :: xs).toFinset (.release x)).bind _ = some ∅
    rw [hact]
    exact ih hnodup (fun y hy => hself y (List.mem_cons_of_mem x hy)) horder

/-- Acquire `xs`, the beginning of an order that works, and release the same in another order. -/
theorem perform_acquires_then (h : perform needs ∅ ((xs ++ ys).map .acquire) = some held')
    {zs : List ρ} (hsame : zs.toFinset = xs.toFinset) (hnodup : zs.Nodup)
    (hself : ∀ z ∈ zs, z ∉ needs z) (horder : zs.Pairwise fun x y => x ∉ needs y) :
    perform needs ∅ (xs.map .acquire ++ zs.map .release) = some ∅ := by
  rw [perform_append, perform_acquires_append h, ← hsame]
  exact perform_releases hnodup hself horder

/-! ### Counting -/

/-- Every acquisition is released, or still held. -/
theorem count_acquire (h : perform needs held as = some held') (r : ρ) :
    as.count (.acquire r) + (if r ∈ held then 1 else 0) =
      as.count (.release r) + (if r ∈ held' then 1 else 0) := by
  -- the first entry changes what is held, the rest is the hypothesis
  induction as generalizing held with
  | nil =>
    obtain rfl := Option.some.inj h
    rfl
  | cons a as ih =>
    obtain ⟨held₁, hact, hrest⟩ := Option.bind_eq_some_iff.mp h
    have hcount := ih hrest
    cases a with
    | acquire x =>
      obtain ⟨hx, rfl⟩ := act_acquire_some hact
      rw [List.count_cons, List.count_cons_of_ne (by simp)]
      by_cases hr : x = r
      · subst hr
        simp only [Finset.mem_insert_self, if_true, hx, if_false, beq_self_eq_true] at hcount ⊢
        omega
      · have hmem : r ∈ insert x held ↔ r ∈ held := by
          rw [Finset.mem_insert]
          exact ⟨fun hor => hor.resolve_left (Ne.symm hr), Or.inr⟩
        simp only [hmem] at hcount
        have hbeq : (Action.acquire x == Action.acquire r) = false := by
          simpa using hr
        simp only [hbeq, Bool.false_eq_true, if_false]
        omega
    | release x =>
      obtain ⟨hx, rfl⟩ := act_release_some hact
      rw [List.count_cons_of_ne (by simp), List.count_cons]
      by_cases hr : x = r
      · subst hr
        simp only [Finset.mem_erase, ne_eq, not_true_eq_false, false_and, if_false, hx, if_true,
          beq_self_eq_true] at hcount ⊢
        omega
      · have hmem : r ∈ held.erase x ↔ r ∈ held := by
          rw [Finset.mem_erase]
          exact ⟨fun hand => hand.2, fun hr' => ⟨Ne.symm hr, hr'⟩⟩
        simp only [hmem] at hcount
        have hbeq : (Action.release x == Action.release r) = false := by
          simpa using hr
        simp only [hbeq, Bool.false_eq_true, if_false]
        omega

/-- **A log that leaves nothing behind releases what it acquires, each time once.** -/
theorem count_release (h : perform needs ∅ as = some ∅) (r : ρ) :
    as.count (.release r) = as.count (.acquire r) := by
  have hcount := count_acquire h r
  simp only [Finset.notMem_empty, if_false, Nat.add_zero] at hcount
  exact hcount.symm

/-- Acquired in an order without repetition, nothing is acquired twice. -/
theorem count_acquire_le_one (hnodup : xs.Nodup) (zs : List ρ) (r : ρ) :
    (xs.map Action.acquire ++ zs.map Action.release).count (.acquire r) ≤ 1 := by
  have hnone : (zs.map Action.release).count (Action.acquire r) = 0 := by
    rw [List.count_eq_zero, List.mem_map]
    rintro ⟨z, -, hz⟩
    cases hz
  have hmap : (xs.map Action.acquire).Nodup := hnodup.map fun x y h => Action.acquire.inj h
  rw [List.count_append, hnone, Nat.add_zero]
  exact List.nodup_iff_count_le_one.mp hmap _

end AcquireRelease
