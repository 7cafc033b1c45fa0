/-
Esp32Mod/BitFields.lean

Numbers that are made of fields of bits.

`pack` puts values side by side, each in a field of its own width, the first one lowest; `unpack`
cuts a number into fields of given widths.  Values that fit into their fields come back
(`unpack_pack`), and so does a number that fits into the fields together (`pack_unpack`).

A program shifts and masks.  Putting a field above what is there already is an addition
(`or_shiftLeft`), and taking one out is a division with remainder (`shiftRight_and_mask`).
-/
import Mathlib.Algebra.BigOperators.Group.List.Basic
import Mathlib.Algebra.Order.Ring.Nat
import Mathlib.Tactic.Common

namespace BitFields

/-- A field has a width and a value. -/
def pack : List (Nat × Nat) → Nat
  | [] => 0
  | (width, value) :: fields => value + 2 ^ width * pack fields

/-- The fields of a word, the lowest first. -/
def unpack : List Nat → Nat → List Nat
  | [], _ => []
  | width :: widths, x => x % 2 ^ width :: unpack widths (x / 2 ^ width)

/-- **The values come back.** -/
theorem unpack_pack {fields : List (Nat × Nat)} (h : ∀ field ∈ fields, field.2 < 2 ^ field.1) :
    unpack (fields.map Prod.fst) (pack fields) = fields.map Prod.snd := by
  induction fields with
  | nil => rfl
  | cons field fields ih =>
    obtain ⟨width, value⟩ := field
    have hvalue : value < 2 ^ width := h _ List.mem_cons_self
    have hmod : (value + 2 ^ width * pack fields) % 2 ^ width = value := by
      rw [Nat.add_mul_mod_self_left, Nat.mod_eq_of_lt hvalue]
    have hdiv : (value + 2 ^ width * pack fields) / 2 ^ width = pack fields := by
      rw [Nat.add_mul_div_left _ _ (Nat.two_pow_pos width), Nat.div_eq_of_lt hvalue, Nat.zero_add]
    rw [List.map_cons, List.map_cons, pack, unpack, hmod, hdiv,
      ih fun field hfield => h field (List.mem_cons_of_mem _ hfield)]

/-- **The number comes back.** -/
theorem pack_unpack {widths : List Nat} {x : Nat} (h : x < 2 ^ widths.sum) :
    pack (widths.zip (unpack widths x)) = x := by
  induction widths generalizing x with
  | nil =>
    rw [List.sum_nil, Nat.pow_zero, Nat.lt_one_iff] at h
    exact h.symm
  | cons width widths ih =>
    -- the other fields hold the quotient
    rw [List.sum_cons, Nat.pow_add] at h
    rw [unpack, List.zip_cons_cons, pack, ih (Nat.div_lt_of_lt_mul h)]
    exact Nat.mod_add_div x (2 ^ width)

/-- A field above the others. -/
theorem or_shiftLeft {x width : Nat} (h : x < 2 ^ width) (value : Nat) :
    x ||| value <<< width = x + 2 ^ width * value := by
  rw [Nat.or_comm, ← Nat.shiftLeft_add_eq_or_of_lt h, Nat.shiftLeft_eq, Nat.mul_comm, Nat.add_comm]

theorem shiftRight_and_mask (x shift width : Nat) :
    x >>> shift &&& (2 ^ width - 1) = x / 2 ^ shift % 2 ^ width := by
  rw [Nat.and_two_pow_sub_one_eq_mod, Nat.shiftRight_eq_div_pow]

end BitFields
