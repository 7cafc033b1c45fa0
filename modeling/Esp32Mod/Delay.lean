/-
Esp32Mod/Delay.lean

`bmx_embedded_delay` (`runtime.mod/native/esp32_runtime.c`): how long it blocks.

The time is that of any ordered field, in seconds, and tick interrupts come at the multiples of
the tick period.  `vTaskDelay` returns at one of them, so the first tick of a delay is only what
the phase of the call leaves of it; and the conversion to ticks rounds down.  Both make the delay
shorter, and nothing makes up for them except the minimum of one tick.

Main results:

* `delay_blocks_iff` — the delay is long enough just for whole ticks from a tick interrupt on, and
  for part of one tick that begins early enough in it;
* `delay_cut_short` — 1 ms that takes 0.05 ms, and 19 ms that take 10 ms.
-/
import Mathlib.Algebra.Order.Floor.Ring
import Mathlib.Data.Rat.Floor
import Mathlib.Tactic.FieldSimp
import Mathlib.Tactic.Linarith
import Mathlib.Tactic.NormNum

namespace Esp32Mod

/-- `pdMS_TO_TICKS`, in arithmetic that is wide enough. -/
def pdMsToTicks (tickRate milliseconds : Nat) : Nat := milliseconds * tickRate / 1000

/-- The ticks that `vTaskDelay` is called with. -/
def bmxEmbeddedDelay (tickRate : Nat) (milliseconds : Int32) : Option Nat :=
  if milliseconds ≤ 0 then none
  else
    let ticks := pdMsToTicks tickRate milliseconds.toUInt32.toNat
    some (if ticks ≠ 0 then ticks else 1)

section Time

variable {𝕜 : Type*} [Field 𝕜] [LinearOrder 𝕜] [IsStrictOrderedRing 𝕜] [FloorRing 𝕜]

/-- When `vTaskDelay` returns, called at `time`: at the `ticks`-th tick interrupt after it. -/
def vTaskDelay (tickRate : Nat) (time : 𝕜) (ticks : Nat) : 𝕜 :=
  (⌊time * tickRate⌋ + ticks) / tickRate

/-- When the delay returns. -/
def delayReturns (tickRate : Nat) (milliseconds : Int32) (time : 𝕜) : 𝕜 :=
  match bmxEmbeddedDelay tickRate milliseconds with
  | none => time
  | some ticks => vTaskDelay tickRate time ticks

/-- The part of the tick period that has passed. -/
def phase (tickRate : Nat) (time : 𝕜) : 𝕜 := Int.fract (time * tickRate)

variable {tickRate : Nat} {milliseconds : Int32}

theorem phase_nonneg (tickRate : Nat) (time : 𝕜) : 0 ≤ phase tickRate time := Int.fract_nonneg _

omit [IsStrictOrderedRing 𝕜] in
/-- `vTaskDelay` takes its ticks less the phase. -/
theorem vTaskDelay_eq (hrate : 0 < tickRate) (time : 𝕜) (ticks : Nat) :
    vTaskDelay tickRate time ticks = time + (ticks - phase tickRate time) / tickRate := by
  have hne : (tickRate : 𝕜) ≠ 0 := Nat.cast_ne_zero.mpr (Nat.ne_of_gt hrate)
  have hfloor : (⌊time * tickRate⌋ : 𝕜) = time * tickRate - phase tickRate time :=
    (Int.self_sub_fract _).symm
  unfold vTaskDelay
  rw [hfloor]
  field_simp
  ring

theorem toNat_milliseconds (hpos : 0 < milliseconds) :
    milliseconds.toInt = milliseconds.toUInt32.toNat := by
  have hvalue : milliseconds.toInt = milliseconds.toBitVec.toInt := rfl
  have hbits : milliseconds.toUInt32.toNat = milliseconds.toBitVec.toNat := rfl
  rw [Int32.lt_iff_toInt_lt, hvalue, BitVec.toInt_eq_toNat_cond] at hpos
  rw [hvalue, hbits, BitVec.toInt_eq_toNat_cond]
  have hzero : (0 : Int32).toInt = 0 := rfl
  split at hpos
  next hlow => rw [if_pos hlow]
  next hhigh => omega

/-- A delay of `ticks` is long enough if what the phase leaves of it is. -/
theorem vTaskDelay_blocks_iff (hrate : 0 < tickRate) (time : 𝕜) (ticks n : Nat) :
    time + n / 1000 ≤ vTaskDelay tickRate time ticks ↔
      (n * tickRate : 𝕜) ≤ 1000 * (ticks - phase tickRate time) := by
  have hpos : (0 : 𝕜) < tickRate := Nat.cast_pos.mpr hrate
  rw [vTaskDelay_eq hrate, add_le_add_iff_left, div_le_div_iff₀ (by norm_num) hpos, mul_comm 1000]

/-- The ticks that fit into `x` thousandths of a tick period, less the phase, are only enough if
nothing is lost. -/
theorem ticks_enough_iff {x : Nat} {p : 𝕜} (hp : 0 ≤ p) :
    (x : 𝕜) ≤ 1000 * ((x / 1000 : Nat) - p) ↔ 1000 ∣ x ∧ p = 0 := by
  have hdown : x / 1000 * 1000 ≤ x := Nat.div_mul_le_self x 1000
  rw [Nat.dvd_iff_div_mul_eq]
  generalize x / 1000 = ticks at hdown ⊢
  have hcast : ((ticks * 1000 : Nat) : 𝕜) ≤ (x : 𝕜) := Nat.cast_le.mpr hdown
  push_cast at hcast
  constructor
  · intro h
    have hzero : p = 0 := by linarith
    subst hzero
    have hup : (x : 𝕜) ≤ ((ticks * 1000 : Nat) : 𝕜) := by
      push_cast
      linarith
    exact ⟨Nat.le_antisymm hdown (Nat.cast_le.mp hup), rfl⟩
  · rintro ⟨hexact, rfl⟩
    have heq : ((ticks * 1000 : Nat) : 𝕜) = (x : 𝕜) := congrArg _ hexact
    push_cast at heq
    linarith

/-- **How long a delay blocks.**  It is long enough if it is a whole number of ticks and begins
with one, or if it is shorter than a tick and the rest of the tick period is enough. -/
theorem delay_blocks_iff (hrate : 0 < tickRate) (hpos : 0 < milliseconds) (time : 𝕜) :
    time + milliseconds.toInt / 1000 ≤ delayReturns tickRate milliseconds time ↔
      (1000 ∣ milliseconds.toInt * tickRate ∧ phase tickRate time = 0) ∨
        (milliseconds.toInt * tickRate < 1000 ∧
          (milliseconds.toInt * tickRate : 𝕜) ≤ 1000 * (1 - phase tickRate time)) := by
  have hnat := toNat_milliseconds hpos
  have hnotle : ¬ milliseconds ≤ 0 := Int32.not_le.mpr hpos
  have hphase := phase_nonneg tickRate time
  unfold delayReturns bmxEmbeddedDelay pdMsToTicks
  -- from here on `n` is the number of milliseconds, `p` the phase and `x` the ticks times 1000
  rw [if_neg hnotle]
  rw [Int32.lt_iff_toInt_lt, hnat] at hpos
  rw [hnat]
  generalize milliseconds.toUInt32.toNat = n at hpos ⊢
  have hproduct : 0 < n * tickRate := Nat.mul_pos (Int.natCast_pos.mp hpos) hrate
  dsimp only
  rw [Int.cast_natCast, vTaskDelay_blocks_iff hrate, ← Nat.cast_mul, ← Nat.cast_mul]
  generalize phase tickRate time = p at hphase ⊢
  generalize n * tickRate = x at hproduct ⊢
  have hdvd : (1000 : Int) ∣ (x : Int) ↔ 1000 ∣ x := Int.natCast_dvd_natCast
  have hless : (x : Int) < 1000 ↔ x < 1000 := Int.ofNat_lt
  rw [hdvd, hless]
  by_cases hshort : x < 1000
  · -- the minimum of one tick
    have hnot : ¬ 1000 ∣ x := Nat.not_dvd_of_pos_of_lt hproduct hshort
    rw [Nat.div_eq_of_lt hshort, if_neg (not_not_intro rfl), Nat.cast_one]
    constructor
    · exact fun h => Or.inr ⟨hshort, h⟩
    · rintro (⟨h, -⟩ | ⟨-, h⟩)
      · exact absurd h hnot
      · exact h
  · -- the conversion rounds down
    have hticks : x / 1000 ≠ 0 := by omega
    rw [if_pos hticks, ticks_enough_iff hphase]
    exact ⟨Or.inl, fun h => h.resolve_right fun hboth => hshort hboth.1⟩

end Time

/-- Right at a tick interrupt. -/
theorem delay_blocks_iff_twenty :
    (0 : ℚ) + Int32.toInt 20 / 1000 ≤ delayReturns 100 20 0 ↔
      (1000 ∣ Int32.toInt 20 * (100 : Nat) ∧ phase 100 (0 : ℚ) = 0) ∨
        (Int32.toInt 20 * (100 : Nat) < 1000 ∧
          (Int32.toInt 20 * (100 : Nat) : ℚ) ≤ 1000 * (1 - phase 100 (0 : ℚ))) :=
  delay_blocks_iff (by decide) (by decide) 0

/-- At 100 ticks a second: 1 ms just before a tick interrupt, and 19 ms from one on. -/
theorem delay_cut_short :
    delayReturns 100 1 (199 / 20000 : ℚ) = 199 / 20000 + 5 / 100000 ∧
      ¬ (199 / 20000 : ℚ) + Int32.toInt 1 / 1000 ≤ delayReturns 100 1 (199 / 20000) ∧
      delayReturns 100 19 (0 : ℚ) = 10 / 1000 ∧
      ¬ (0 : ℚ) + Int32.toInt 19 / 1000 ≤ delayReturns 100 19 0 := by
  have hone : bmxEmbeddedDelay 100 1 = some 1 := by decide
  have hnineteen : bmxEmbeddedDelay 100 19 = some 1 := by decide
  have hfloor : ⌊(199 / 20000 : ℚ) * (100 : Nat)⌋ = 0 := by
    rw [Int.floor_eq_iff]
    norm_num
  have hshort : delayReturns 100 1 (199 / 20000 : ℚ) = 199 / 20000 + 5 / 100000 := by
    unfold delayReturns vTaskDelay
    rw [hone]
    dsimp only
    rw [hfloor]
    norm_num
  have hlong : delayReturns 100 19 (0 : ℚ) = 10 / 1000 := by
    unfold delayReturns vTaskDelay
    rw [hnineteen]
    norm_num
  have hmilliseconds : Int32.toInt 1 = 1 ∧ Int32.toInt 19 = 19 := by decide
  rw [hshort, hlong, hmilliseconds.1, hmilliseconds.2]
  norm_num

end Esp32Mod
