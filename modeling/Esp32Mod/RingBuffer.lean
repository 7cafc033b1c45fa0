/-
Esp32Mod/RingBuffer.lean

Power-of-two ring buffers with free-running 32-bit counters, and the bounded
FIFO they implement.

A ring keeps two counters, `put` and `get`, that are only ever incremented and
wrap modulo `2 ^ 32`.  The slot of counter value `i` is `i &&& (size - 1)`, and the
number of stored items is the wrapping difference `put - get`.  The layout is the
usual one for lock-protected queues in C; what makes it correct is that the
capacity is a power of two, so the masks of `size` consecutive counter values are
distinct even across the wrap (`Capacity.index_inj`).

`Capacity` and `Ring` carry their well-formedness: a capacity is a power of two
below `2 ^ 32`, and a ring holds at most `size` items.  `Ring.contents` is the
abstraction function.  The specification lemmas say what each operation does to
the contents:

* `contents_push`, `contents_pop` — one item in at the back, one out at the front;
* `drain_fst`, `contents_drain` — take items until `n` are taken or none is left;
* `fill_fst`, `contents_fill` — push items until one does not fit.
-/
import Mathlib.Data.Nat.ModEq
import Mathlib.Tactic.Common

namespace RingBuffer

/-! ### Capacities -/

/-- A ring size: a power of two that a 32-bit counter can express. -/
structure Capacity where
  size : UInt32
  pow : ∃ k, k < 32 ∧ size.toNat = 2 ^ k

namespace Capacity

/-- The usual test in C for a power of two. -/
def ofPowerOfTwo (size : UInt32) (h : 2 ≤ size ∧ size &&& (size - 1) = 0) : Capacity where
  size := size
  pow := by
    have hle : 2 ≤ size.toNat := UInt32.le_iff_toNat_le.mp h.1
    have hmask : size.toNat &&& (size.toNat - 1) = 0 := by
      have hone : (1 : UInt32) ≤ size := UInt32.le_iff_toNat_le.mpr (by show 1 ≤ size.toNat; omega)
      have hand := congrArg UInt32.toNat h.2
      rwa [UInt32.toNat_and, UInt32.toNat_sub_of_le _ _ hone] at hand
    obtain ⟨k, hk⟩ := (Nat.and_sub_one_eq_zero_iff_isPowerOfTwo (by omega)).mp hmask
    refine ⟨k, ?_, hk⟩
    -- a larger exponent does not fit
    have hlt : 2 ^ k < 2 ^ 32 := hk ▸ size.toNat_lt
    exact (Nat.pow_lt_pow_iff_right (by decide)).mp hlt

variable (c : Capacity)

theorem size_pos : 0 < c.size.toNat := by
  obtain ⟨k, -, hk⟩ := c.pow
  rw [hk]
  exact Nat.two_pow_pos k

/-- The slot of counter value `i`. -/
def index (i : UInt32) : UInt32 := i &&& (c.size - 1)

theorem toNat_index (i : UInt32) : (c.index i).toNat = i.toNat % c.size.toNat := by
  obtain ⟨k, -, hk⟩ := c.pow
  have hmask : (c.size - 1).toNat = 2 ^ k - 1 := by
    have hpos := c.size_pos
    have hle : (1 : UInt32) ≤ c.size := UInt32.le_iff_toNat_le.mpr hpos
    rw [UInt32.toNat_sub_of_le _ _ hle, hk]
    rfl
  rw [index, UInt32.toNat_and, hmask, Nat.and_two_pow_sub_one_eq_mod, hk]

/-- Since the size divides `2 ^ 32`, the wrap of the counter does not disturb the slots. -/
theorem toNat_index_add (i : UInt32) (n : Nat) :
    (c.index (i + UInt32.ofNat n)).toNat = (i.toNat + n) % c.size.toNat := by
  obtain ⟨k, hk32, hk⟩ := c.pow
  have hdvd : c.size.toNat ∣ 2 ^ 32 := by rw [hk]; exact Nat.pow_dvd_pow 2 (Nat.le_of_lt hk32)
  rw [toNat_index, UInt32.toNat_add, UInt32.toNat_ofNat', Nat.mod_mod_of_dvd _ hdvd, Nat.add_mod,
    Nat.mod_mod_of_dvd _ hdvd, ← Nat.add_mod]

/-- Fewer than `size` consecutive counter values have pairwise distinct slots. -/
theorem index_inj {i : UInt32} {m n : Nat} (hm : m < n) (hn : n < m + c.size.toNat) :
    c.index (i + UInt32.ofNat m) ≠ c.index (i + UInt32.ofNat n) := by
  intro h
  have hmod := congrArg UInt32.toNat h
  rw [toNat_index_add, toNat_index_add] at hmod
  have hdvd : c.size.toNat ∣ n - m := by
    have := (Nat.modEq_iff_dvd' (by omega : i.toNat + m ≤ i.toNat + n)).mp hmod
    rwa [show i.toNat + n - (i.toNat + m) = n - m by omega] at this
  exact absurd (Nat.le_of_dvd (by omega) hdvd) (by omega)

end Capacity

/-! ### Rings -/

/-- A ring over capacity `c`: storage, the two counters, and at most `c.size` items. -/
structure Ring (α : Type*) (c : Capacity) where
  slots : UInt32 → α
  put : UInt32
  get : UInt32
  bounded : put - get ≤ c.size

namespace Ring

variable {α : Type*} {c : Capacity}

/-- The number of stored items, as a wrapping difference. -/
def count (r : Ring α c) : UInt32 := r.put - r.get

/-- The stored items, oldest first. -/
def contents (r : Ring α c) : List α :=
  (List.range r.count.toNat).map fun i => r.slots (c.index (r.get + UInt32.ofNat i))

@[simp] theorem length_contents (r : Ring α c) : r.contents.length = r.count.toNat := by
  simp [contents]

theorem count_le (r : Ring α c) : r.count ≤ c.size := r.bounded

theorem length_contents_le (r : Ring α c) : r.contents.length ≤ c.size.toNat := by
  rw [length_contents]
  exact UInt32.le_iff_toNat_le.mp r.count_le

/-- The counters coincide exactly when nothing is stored. -/
theorem get_eq_put_iff (r : Ring α c) : r.get = r.put ↔ r.contents = [] := by
  have hp := r.put.toNat_lt
  have hg := r.get.toNat_lt
  rw [← List.length_eq_zero_iff, length_contents, count, UInt32.toNat_sub, ← UInt32.toNat_inj]
  omega

/-- The writer's counter is `count` steps ahead of the reader's. -/
theorem put_eq (r : Ring α c) : r.put = r.get + UInt32.ofNat r.count.toNat := by
  rw [UInt32.ofNat_toNat, count, UInt32.add_comm, UInt32.sub_add_cancel]

/-- An empty ring with both counters at zero. -/
def empty [Inhabited α] (c : Capacity) : Ring α c where
  slots := fun _ => default
  put := 0
  get := 0
  bounded := UInt32.le_iff_toNat_le.mpr (Nat.zero_le _)

@[simp] theorem contents_empty [Inhabited α] : (empty c : Ring α c).contents = [] :=
  ((empty c).get_eq_put_iff).mp rfl

/-- Both counters back at zero; the slots keep what is in them. -/
def clear (r : Ring α c) : Ring α c where
  slots := r.slots
  put := 0
  get := 0
  bounded := UInt32.le_iff_toNat_le.mpr (Nat.zero_le _)

@[simp] theorem contents_clear (r : Ring α c) : r.clear.contents = [] :=
  (r.clear.get_eq_put_iff).mp rfl

/-! ### One item in, one item out -/

theorem count_push_toNat {p g s : UInt32} (h : ¬ s ≤ p - g) :
    (p + 1 - g).toNat = (p - g).toNat + 1 := by
  have hp := p.toNat_lt
  have hg := g.toNat_lt
  have hs := s.toNat_lt
  simp only [UInt32.le_iff_toNat_le, UInt32.toNat_sub, UInt32.toNat_add, UInt32.toNat_one] at *
  omega

theorem count_pop_toNat {p g : UInt32} (h : ¬ g = p) :
    (p - (g + 1)).toNat + 1 = (p - g).toNat := by
  have hp := p.toNat_lt
  have hg := g.toNat_lt
  simp only [UInt32.toNat_sub, UInt32.toNat_add, UInt32.toNat_one, ← UInt32.toNat_inj] at *
  omega

/-- Store `x` in the slot of `put` and advance `put`; for a ring that is not full. -/
def push (r : Ring α c) (x : α) (h : ¬ c.size ≤ r.put - r.get) : Ring α c where
  slots := Function.update r.slots (c.index r.put) x
  put := r.put + 1
  get := r.get
  bounded := by
    rw [UInt32.le_iff_toNat_le, count_push_toNat h]
    rw [UInt32.le_iff_toNat_le] at h
    omega

theorem contents_push (r : Ring α c) (x : α) (h : ¬ c.size ≤ r.put - r.get) :
    (r.push x h).contents = r.contents ++ [x] := by
  have hcount : (r.push x h).count.toNat = r.count.toNat + 1 := count_push_toNat h
  have hlt : r.count.toNat < c.size.toNat := by
    rw [UInt32.le_iff_toNat_le] at h
    exact Nat.lt_of_not_le h
  rw [contents, hcount, List.range_succ, List.map_append]
  congr 1
  · refine List.map_congr_left fun i hi => ?_
    rw [List.mem_range] at hi
    -- an older item lies in another slot than the one just written
    have hne := c.index_inj (i := r.get) hi (by omega)
    rw [← put_eq] at hne
    exact Function.update_of_ne hne x r.slots
  · have hput : r.get + UInt32.ofNat r.count.toNat = r.put := r.put_eq.symm
    simp only [List.map_cons, List.map_nil, push, hput, Function.update_self]

/-- Advance `get` past the oldest item; for a ring that is not empty. -/
def pop (r : Ring α c) (h : ¬ r.get = r.put) : Ring α c where
  slots := r.slots
  put := r.put
  get := r.get + 1
  bounded := by
    have hb := r.bounded
    have hpop := count_pop_toNat h
    rw [UInt32.le_iff_toNat_le] at hb ⊢
    omega

theorem contents_pop (r : Ring α c) (h : ¬ r.get = r.put) :
    r.contents = r.slots (c.index r.get) :: (r.pop h).contents := by
  have hcount : (r.pop h).count.toNat + 1 = r.count.toNat := count_pop_toNat h
  rw [contents, ← hcount, List.range_succ_eq_map, List.map_cons, List.map_map]
  congr 1
  · simp
  · refine List.map_congr_left fun i _ => ?_
    have hi : r.get + UInt32.ofNat (i + 1) = r.get + 1 + UInt32.ofNat i := by
      rw [UInt32.ofNat_add, UInt32.add_comm (UInt32.ofNat i), ← UInt32.add_assoc]
      rfl
    simp only [Function.comp_apply, Nat.succ_eq_add_one, hi, pop]

/-! ### The operations of a bounded FIFO -/

/-- The oldest item and the ring without it, unless the ring is empty. -/
def take (r : Ring α c) : Option (α × Ring α c) :=
  if h : r.get = r.put then none else some (r.slots (c.index r.get), r.pop h)

theorem full_iff (r : Ring α c) :
    c.size ≤ r.put - r.get ↔ r.contents.length = c.size.toNat := by
  have hle := r.length_contents_le
  rw [UInt32.le_iff_toNat_le]
  rw [length_contents] at *
  rw [count] at *
  omega

theorem take_eq_none_iff (r : Ring α c) : r.take = none ↔ r.contents = [] := by
  rw [← r.get_eq_put_iff]
  by_cases h : r.get = r.put <;> simp [take, h]

theorem contents_of_take {r r' : Ring α c} {x : α} (h : r.take = some (x, r')) :
    r.contents = x :: r'.contents := by
  by_cases he : r.get = r.put
  · simp [take, he] at h
  · rw [take, dif_neg he] at h
    obtain ⟨rfl, rfl⟩ := Prod.mk.inj (Option.some.inj h)
    exact contents_pop r he

/-! ### Copy loops -/

/-- Take items until `n` are taken or the ring is empty. -/
def drain : Nat → Ring α c → List α × Ring α c
  | 0, r => ([], r)
  | n + 1, r =>
    match r.take with
    | none => ([], r)
    | some (x, r') => (x :: (drain n r').1, (drain n r').2)

/-- What a drain of at most `n` items yields, and what it leaves behind. -/
theorem drain_spec (n : Nat) (r : Ring α c) :
    (drain n r).1 = r.contents.take n ∧ (drain n r).2.contents = r.contents.drop n := by
  induction n generalizing r with
  | zero => simp [drain]
  | succ n ih =>
    rcases h : r.take with - | ⟨x, r'⟩
    · simp [drain, h, r.take_eq_none_iff.mp h]
    · simp [drain, h, contents_of_take h, ih r']

@[simp] theorem drain_fst (n : Nat) (r : Ring α c) : (drain n r).1 = r.contents.take n :=
  (drain_spec n r).1

@[simp] theorem contents_drain (n : Nat) (r : Ring α c) :
    (drain n r).2.contents = r.contents.drop n :=
  (drain_spec n r).2

/-- Push items in order until one does not fit; the number says how many did. -/
def fill : List α → Ring α c → Nat × Ring α c
  | [], r => (0, r)
  | x :: xs, r =>
    if h : c.size ≤ r.put - r.get then (0, r)
    else ((fill xs (r.push x h)).1 + 1, (fill xs (r.push x h)).2)

/-- A fill stores the longest prefix for which there is room. -/
theorem fill_spec (xs : List α) (r : Ring α c) :
    (fill xs r).1 = min xs.length (c.size.toNat - r.contents.length) ∧
      (fill xs r).2.contents = r.contents ++ xs.take (fill xs r).1 := by
  induction xs generalizing r with
  | nil => simp [fill]
  | cons x xs ih =>
    by_cases h : c.size ≤ r.put - r.get
    · have hlen := r.full_iff.mp h
      simp only [fill, dif_pos h, hlen, Nat.sub_self, Nat.min_zero, List.take_zero,
        List.append_nil, and_self]
    · have hlt : r.contents.length < c.size.toNat :=
        lt_of_le_of_ne r.length_contents_le fun he => h (r.full_iff.mpr he)
      obtain ⟨hcount, hcontents⟩ := ih (r.push x h)
      rw [contents_push] at hcount hcontents
      rw [fill, dif_neg h]
      refine ⟨?_, ?_⟩
      · simp only [hcount, List.length_append, List.length_cons, List.length_nil]
        omega
      · rw [hcontents, List.take_succ_cons, List.append_assoc, List.singleton_append]

theorem fill_fst (xs : List α) (r : Ring α c) :
    (fill xs r).1 = min xs.length (c.size.toNat - r.contents.length) :=
  (fill_spec xs r).1

theorem fill_fst_le (xs : List α) (r : Ring α c) : (fill xs r).1 ≤ xs.length := by
  rw [fill_fst]
  exact Nat.min_le_left _ _

theorem contents_fill (xs : List α) (r : Ring α c) :
    (fill xs r).2.contents = r.contents ++ xs.take (fill xs r).1 :=
  (fill_spec xs r).2

end Ring

end RingBuffer
