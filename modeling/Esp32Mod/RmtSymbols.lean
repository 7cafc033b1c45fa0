/-
Esp32Mod/RmtSymbols.lean

The symbols of the RMT peripheral and their transmission.  A symbol is two pairs of a duration and
a level in a word of 32 bits.  `hardware.mod/rmt.mod/rmt.bmx` makes one and takes it apart,
`native/esp32_rmt.c` checks each word and copies them for the driver.

`rmtLayout` is where the fields lie.  A word that is made is these fields packed
(`toNat_makeSymbol`), and what the accessors return is the word unpacked (`accessors_eq_unpack`).

Main result:

* `rmt_symbols` — making and taking apart are inverse on the valid words, and words are
  transmitted all together or not at all.
-/
import Esp32Mod.BitFields
import Esp32Mod.Checked
import Esp32Mod.Errors

namespace Esp32Mod

open BitFields Checked

/-! ### Symbols -/

/-- `UInt(level <> 0)`. -/
def rmtLevel (level : Int32) : UInt32 := if level ≠ 0 then 1 else 0

/-- Two durations of 15 bits, each with a level above it; 0 for a duration that does not fit. -/
def rmtMakeSymbol (duration0 : UInt32) (level0 : Int32) (duration1 : UInt32) (level1 : Int32) :
    UInt32 :=
  if duration0 = 0 ∨ duration0 > 32767 ∨ duration1 = 0 ∨ duration1 > 32767 then 0
  else duration0 ||| (rmtLevel level0 <<< 15) ||| (duration1 <<< 16) ||| (rmtLevel level1 <<< 31)

/-- The first duration. -/
def rmtSymbolDuration0 (symbol : UInt32) : UInt32 := symbol &&& 0x7fff

/-- The level of the first duration. -/
def rmtSymbolLevel0 (symbol : UInt32) : Int32 := ((symbol >>> 15) &&& 1).toInt32

/-- The second duration. -/
def rmtSymbolDuration1 (symbol : UInt32) : UInt32 := (symbol >>> 16) &&& 0x7fff

/-- The level of the second duration. -/
def rmtSymbolLevel1 (symbol : UInt32) : Int32 := (symbol >>> 31).toInt32

/-- Neither of the durations is 0. -/
def bmxRmtValidSymbol (word : UInt32) : Bool :=
  word &&& 0x7fff != 0 && (word >>> 16) &&& 0x7fff != 0

/-- `rmt_symbol_word_t`. -/
structure RmtSymbolWord where
  val : UInt32
  deriving DecidableEq

/-- A word is the symbol's `val`. -/
def bmxRmtSymbol (word : UInt32) : RmtSymbolWord := ⟨word⟩

/-! ### Transmission -/

/-- A call of `rmt_transmit`: what it sends, and `eot_level`. -/
structure RmtTransmission where
  payload : List RmtSymbolWord
  eotLevel : UInt32

/-- What `malloc` returns, with the contents of the memory, and what the driver answers. -/
structure RmtTransmitResults where
  malloc : Option (Nat → RmtSymbolWord)
  transmit : EspErr := espOk
  waitAllDone : EspErr := espOk

/-- What a call has returned and sent. -/
structure RmtTransmitRun where
  result : EspErr
  transmissions : List RmtTransmission

/-- The variables of the copy loop. -/
structure SymbolCopy where
  i : UInt32
  symbols : List RmtSymbolWord

def rmtCopyPass (words : List UInt32) (count : UInt32) (p : SymbolCopy) :
    Option (Pass SymbolCopy (Option (List RmtSymbolWord))) :=
  if p.i < count then do
    let word ← words[p.i.toNat]?
    -- `free(symbols)`, whatever has been copied
    if bmxRmtValidSymbol word = false then return .done none
    let symbols ← store p.symbols p.i.toNat [bmxRmtSymbol word]
    return .next ⟨p.i + 1, symbols⟩
  else some (.done (some p.symbols))

/-- `words` is the memory at the pointer, if that is not null. -/
def bmxEsp32RmtTransmitSymbols (handle : Bool) (words : Option (List UInt32)) (count : UInt32)
    (endLevel : Int32) (r : RmtTransmitResults) : Option RmtTransmitRun :=
  if handle = false ∨ words.isNone ∨ count = 0 ∨ count > 16384 ∨
      (endLevel ≠ 0 ∧ endLevel ≠ 1) then some ⟨espErrInvalidArg, []⟩
  else
    match r.malloc with
    | none => some ⟨espErrNoMem, []⟩
    | some memory => do
      let copied ← loop (rmtCopyPass (words.getD []) count) (count.toNat + 1)
        ⟨0, (List.range count.toNat).map memory⟩
      match copied with
      | none => return ⟨espErrInvalidArg, []⟩
      | some symbols =>
        let payload ← load symbols 0 count.toNat
        return ⟨if r.transmit = espOk then r.waitAllDone else r.transmit,
          [⟨payload, endLevel.toUInt32⟩]⟩

/-! ### The statement -/

/-- `1` to `32767`. -/
def RmtDuration (duration : UInt32) : Prop := 1 ≤ duration ∧ duration ≤ 32767

/-- A valid symbol that says this. -/
structure RmtSays (symbol duration0 : UInt32) (level0 : Int32) (duration1 : UInt32)
    (level1 : Int32) : Prop where
  valid : bmxRmtValidSymbol symbol = true
  duration0 : rmtSymbolDuration0 symbol = duration0
  level0 : rmtSymbolLevel0 symbol = if level0 ≠ 0 then 1 else 0
  duration1 : rmtSymbolDuration1 symbol = duration1
  level1 : rmtSymbolLevel1 symbol = if level1 ≠ 0 then 1 else 0

/-- What can be transmitted. -/
structure RmtTransmittable (words : List UInt32) (count : UInt32) (endLevel : Int32) : Prop where
  number : 1 ≤ count ∧ count ≤ 16384
  valid : ∀ word ∈ words.take count.toNat, bmxRmtValidSymbol word = true
  level : endLevel = 0 ∨ endLevel = 1

/-! ### Words -/

section Words

variable {word duration0 duration1 : UInt32} {level0 level1 : Int32}

/-- The widths of the fields. -/
def rmtLayout : List Nat := [15, 1, 15, 1]

theorem rmtDuration_iff {duration : UInt32} :
    RmtDuration duration ↔ 1 ≤ duration.toNat ∧ duration.toNat ≤ 32767 := by
  rw [RmtDuration, UInt32.le_iff_toNat_le, UInt32.le_iff_toNat_le]
  rfl

theorem toNat_rmtLevel_lt (level : Int32) : (rmtLevel level).toNat < 2 := by
  unfold rmtLevel
  split <;> decide

/-- Durations that are no durations. -/
theorem not_durations_iff :
    (duration0 = 0 ∨ duration0 > 32767 ∨ duration1 = 0 ∨ duration1 > 32767) ↔
      ¬ (RmtDuration duration0 ∧ RmtDuration duration1) := by
  rw [rmtDuration_iff, rmtDuration_iff, ← UInt32.toNat_inj, ← UInt32.toNat_inj, gt_iff_lt,
    gt_iff_lt, UInt32.lt_iff_toNat_lt, UInt32.lt_iff_toNat_lt]
  have h0 : (0 : UInt32).toNat = 0 := rfl
  have hmax : (32767 : UInt32).toNat = 32767 := rfl
  omega

/-- **A symbol is its four fields.** -/
theorem toNat_makeSymbol (h0 : RmtDuration duration0) (h1 : RmtDuration duration1) :
    (rmtMakeSymbol duration0 level0 duration1 level1).toNat =
      pack [(15, duration0.toNat), (1, (rmtLevel level0).toNat), (15, duration1.toNat),
        (1, (rmtLevel level1).toNat)] := by
  have hlevel0 := toNat_rmtLevel_lt level0
  have hlevel1 := toNat_rmtLevel_lt level1
  rw [rmtMakeSymbol, if_neg (not_durations_iff.not.mpr (not_not_intro ⟨h0, h1⟩))]
  rw [rmtDuration_iff] at h0 h1
  have hword : ∀ {value : UInt32} {shift : Nat}, value.toNat * 2 ^ shift < 2 ^ 32 →
      value.toNat <<< shift % 2 ^ 32 = value.toNat <<< shift := by
    intro value shift h
    rw [Nat.shiftLeft_eq, Nat.mod_eq_of_lt h]
  have h15 : (15 : UInt32).toNat % 32 = 15 := rfl
  have h16 : (16 : UInt32).toNat % 32 = 16 := rfl
  have h31 : (31 : UInt32).toNat % 32 = 31 := rfl
  -- the fields from the lowest one on, each above what is there
  have hlow : duration0.toNat ||| (rmtLevel level0).toNat <<< 15 =
      duration0.toNat + 2 ^ 15 * (rmtLevel level0).toNat := or_shiftLeft (by omega) _
  have hmiddle : (duration0.toNat + 2 ^ 15 * (rmtLevel level0).toNat) |||
      duration1.toNat <<< 16 = _ := or_shiftLeft (by omega) _
  rw [UInt32.toNat_or, UInt32.toNat_or, UInt32.toNat_or, UInt32.toNat_shiftLeft,
    UInt32.toNat_shiftLeft, UInt32.toNat_shiftLeft, h15, h16, h31, hword (by omega),
    hword (by omega), hword (by omega), hlow, hmiddle, or_shiftLeft (by omega)]
  simp only [pack]
  omega

/-- The bits of a level. -/
def levelBit0 (word : UInt32) : UInt32 := (word >>> 15) &&& 1
/-- The level bit of the second half. -/
def levelBit1 (word : UInt32) : UInt32 := word >>> 31

/-- **The accessors take the word apart.** -/
theorem accessors_eq_unpack (word : UInt32) :
    [(rmtSymbolDuration0 word).toNat, (levelBit0 word).toNat, (rmtSymbolDuration1 word).toNat,
      (levelBit1 word).toNat] = unpack rmtLayout word.toNat := by
  have hword := word.toNat_lt
  have hd0 : (rmtSymbolDuration0 word).toNat = word.toNat % 2 ^ 15 := by
    rw [rmtSymbolDuration0, UInt32.toNat_and]
    exact Nat.and_two_pow_sub_one_eq_mod _ 15
  have hl0 : (levelBit0 word).toNat = word.toNat / 2 ^ 15 % 2 ^ 1 := by
    rw [levelBit0, UInt32.toNat_and, UInt32.toNat_shiftRight]
    exact shiftRight_and_mask _ 15 1
  have hd1 : (rmtSymbolDuration1 word).toNat = word.toNat / 2 ^ 16 % 2 ^ 15 := by
    rw [rmtSymbolDuration1, UInt32.toNat_and, UInt32.toNat_shiftRight]
    exact shiftRight_and_mask _ 16 15
  have hl1 : (levelBit1 word).toNat = word.toNat / 2 ^ 31 := by
    rw [levelBit1, UInt32.toNat_shiftRight]
    exact Nat.shiftRight_eq_div_pow _ 31
  rw [hd0, hl0, hd1, hl1, rmtLayout]
  simp only [unpack, List.cons.injEq, and_true, true_and]
  omega

theorem valid_iff : bmxRmtValidSymbol word = true ↔
    rmtSymbolDuration0 word ≠ 0 ∧ rmtSymbolDuration1 word ≠ 0 := by
  rw [bmxRmtValidSymbol, Bool.and_eq_true, bne_iff_ne, bne_iff_ne]
  rfl

theorem toInt32_rmtLevel (level : Int32) :
    (rmtLevel level).toInt32 = if level ≠ 0 then 1 else 0 := by
  unfold rmtLevel
  split <;> rfl

theorem rmtDuration_ne_zero {duration : UInt32} (h : RmtDuration duration) : duration ≠ 0 := by
  rintro rfl
  exact absurd h.1 (by decide)

/-- What has been made says what it was made from. -/
theorem makeSymbol_says (h0 : RmtDuration duration0) (h1 : RmtDuration duration1) :
    RmtSays (rmtMakeSymbol duration0 level0 duration1 level1) duration0 level0 duration1 level1 := by
  have hfit : ∀ field ∈ [(15, duration0.toNat), (1, (rmtLevel level0).toNat),
      (15, duration1.toNat), (1, (rmtLevel level1).toNat)], field.2 < 2 ^ field.1 := by
    have hlevel0 := toNat_rmtLevel_lt level0
    have hlevel1 := toNat_rmtLevel_lt level1
    have hduration0 := (rmtDuration_iff.mp h0).2
    have hduration1 := (rmtDuration_iff.mp h1).2
    intro field hfield
    simp only [List.mem_cons, List.not_mem_nil, or_false] at hfield
    rcases hfield with rfl | rfl | rfl | rfl <;> dsimp only <;> omega
  have hfields := accessors_eq_unpack (rmtMakeSymbol duration0 level0 duration1 level1)
  rw [toNat_makeSymbol h0 h1] at hfields
  have hall := hfields.trans (unpack_pack hfit)
  simp only [List.map_cons, List.map_nil, List.cons.injEq, and_true, UInt32.toNat_inj] at hall
  obtain ⟨hd0, hl0, hd1, hl1⟩ := hall
  refine ⟨valid_iff.mpr ⟨?_, ?_⟩, hd0, ?_, hd1, ?_⟩
  · rw [hd0]
    exact rmtDuration_ne_zero h0
  · rw [hd1]
    exact rmtDuration_ne_zero h1
  · rw [← toInt32_rmtLevel, ← hl0]
    rfl
  · rw [← toInt32_rmtLevel, ← hl1]
    rfl

theorem makeSymbol_ne_zero_iff : rmtMakeSymbol duration0 level0 duration1 level1 ≠ 0 ↔
    RmtDuration duration0 ∧ RmtDuration duration1 := by
  constructor
  · intro hne
    by_contra hnot
    exact hne (if_pos (not_durations_iff.mpr hnot))
  · rintro ⟨h0, h1⟩ hzero
    have hsays : RmtSays (rmtMakeSymbol duration0 level0 duration1 level1) duration0 level0
        duration1 level1 := makeSymbol_says h0 h1
    rw [hzero] at hsays
    exact rmtDuration_ne_zero h0 hsays.duration0.symm

/-- The fields are as long as the layout says. -/
theorem accessors_lt (word : UInt32) :
    (rmtSymbolDuration0 word).toNat < 2 ^ 15 ∧ (levelBit0 word).toNat < 2 ∧
      (rmtSymbolDuration1 word).toNat < 2 ^ 15 ∧ (levelBit1 word).toNat < 2 := by
  have hfields := accessors_eq_unpack word
  rw [rmtLayout] at hfields
  simp only [unpack, List.cons.injEq, and_true] at hfields
  omega

theorem rmtDuration_of_ne_zero {duration : UInt32} (h : duration ≠ 0)
    (hsmall : duration.toNat < 2 ^ 15) : RmtDuration duration := by
  rw [Ne, ← UInt32.toNat_inj] at h
  have hzero : (0 : UInt32).toNat = 0 := rfl
  rw [rmtDuration_iff]
  omega

/-- A level that has been read is made into its bit again. -/
theorem rmtLevel_toInt32 {bit : UInt32} (h : bit.toNat < 2) : rmtLevel bit.toInt32 = bit := by
  have hbit : bit = 0 ∨ bit = 1 := by
    rw [← UInt32.toNat_inj, ← UInt32.toNat_inj]
    have h0 : (0 : UInt32).toNat = 0 := rfl
    have h1 : (1 : UInt32).toNat = 1 := rfl
    omega
  rcases hbit with rfl | rfl <;> rfl

/-- **A valid word is made from its fields.** -/
theorem makeSymbol_accessors (h : bmxRmtValidSymbol word = true) :
    rmtMakeSymbol (rmtSymbolDuration0 word) (rmtSymbolLevel0 word) (rmtSymbolDuration1 word)
      (rmtSymbolLevel1 word) = word := by
  obtain ⟨hd0, hd1⟩ := valid_iff.mp h
  obtain ⟨hsmall0, hbit0, hsmall1, hbit1⟩ := accessors_lt word
  have hlevel0 : rmtLevel (rmtSymbolLevel0 word) = levelBit0 word := rmtLevel_toInt32 hbit0
  have hlevel1 : rmtLevel (rmtSymbolLevel1 word) = levelBit1 word := rmtLevel_toInt32 hbit1
  have hpack : pack (rmtLayout.zip (unpack rmtLayout word.toNat)) = word.toNat :=
    pack_unpack word.toNat_lt
  rw [← accessors_eq_unpack] at hpack
  rw [← UInt32.toNat_inj, toNat_makeSymbol (rmtDuration_of_ne_zero hd0 hsmall0)
    (rmtDuration_of_ne_zero hd1 hsmall1), hlevel0, hlevel1]
  exact hpack

end Words

/-! ### The copy -/

section Copy

variable {words : List UInt32} {count : UInt32} {k : Nat} {memory : List RmtSymbolWord}

/-- The copy is at word `k`, and all words before are valid. -/
structure SymbolCopy.At (p : SymbolCopy) (words : List UInt32) (count : UInt32)
    (memory : List RmtSymbolWord) (k : Nat) : Prop where
  i : p.i.toNat = k
  le : k ≤ count.toNat
  symbols : p.symbols = overwrite memory 0 ((words.take k).map bmxRmtSymbol)
  valid : ∀ word ∈ words.take k, bmxRmtValidSymbol word = true

/-- How the loop ends. -/
def CopyRight (words : List UInt32) (count : UInt32) (copied : Option (List RmtSymbolWord)) :
    Prop :=
  (copied = some ((words.take count.toNat).map bmxRmtSymbol) ∧
    ∀ word ∈ words.take count.toNat, bmxRmtValidSymbol word = true) ∨
  (copied = none ∧ ∃ word ∈ words.take count.toNat, bmxRmtValidSymbol word = false)

theorem take_succ_map (hk : k < words.length) :
    (words.take (k + 1)).map bmxRmtSymbol =
      (words.take k).map bmxRmtSymbol ++ [bmxRmtSymbol words[k]] := by
  rw [List.take_succ_eq_append_getElem hk, List.map_append]
  rfl

/-- One more word is stored behind the others. -/
theorem store_next (hk : k < words.length) (hmemory : k < memory.length) :
    store (overwrite memory 0 ((words.take k).map bmxRmtSymbol)) k [bmxRmtSymbol words[k]] =
      some (overwrite memory 0 ((words.take (k + 1)).map bmxRmtSymbol)) := by
  have hlength : ((words.take k).map bmxRmtSymbol).length = k := by
    rw [List.length_map, List.length_take, Nat.min_eq_left hk.le]
  have hbefore : 0 + ((words.take k).map bmxRmtSymbol).length ≤ memory.length := by omega
  have hroom : k + [bmxRmtSymbol words[k]].length ≤
      (overwrite memory 0 ((words.take k).map bmxRmtSymbol)).length := by
    rw [length_overwrite hbefore, List.length_singleton]
    exact hmemory
  have hbehind : 0 + ((words.take k).map bmxRmtSymbol).length = k := by omega
  rw [store_eq hroom, take_succ_map hk, ← overwrite_overwrite hbefore, hbehind]

/-- A pass copies a word, or it is the last. -/
theorem SymbolCopy.At.pass {p : SymbolCopy} (h : p.At words count memory k)
    (hwords : count.toNat ≤ words.length) (hmemory : memory.length = count.toNat) :
    (k < count.toNat ∧ ∃ p', rmtCopyPass words count p = some (.next p') ∧
      p'.At words count memory (k + 1)) ∨
    ∃ copied, rmtCopyPass words count p = some (.done copied) ∧ CopyRight words count copied := by
  obtain ⟨hi, hle, hsymbols, hvalid⟩ := h
  have hcount := count.toNat_lt
  have hlt : p.i < count ↔ k < count.toNat := by rw [UInt32.lt_iff_toNat_lt, hi]
  unfold rmtCopyPass
  by_cases hin : k < count.toNat
  · have hk : k < words.length := by omega
    rw [if_pos (hlt.mpr hin), hi, List.getElem?_eq_getElem hk]
    dsimp only [Option.bind_eq_bind, Option.bind_some]
    by_cases hword : bmxRmtValidSymbol words[k] = true
    · rw [if_neg (fun h => Bool.false_ne_true (h.symm.trans hword)), hsymbols,
        store_next hk (by omega)]
      refine Or.inl ⟨hin, _, rfl, ?_, hin, rfl, ?_⟩
      · have h1 : (1 : UInt32).toNat = 1 := rfl
        dsimp only
        rw [UInt32.toNat_add, hi, h1]
        omega
      · intro word hmem
        rw [List.take_succ_eq_append_getElem hk] at hmem
        rcases List.mem_append.mp hmem with hmem | hmem
        · exact hvalid word hmem
        · rwa [List.mem_singleton.mp hmem]
    · rw [Bool.not_eq_true] at hword
      rw [if_pos hword]
      refine Or.inr ⟨_, rfl, Or.inr ⟨rfl, words[k], ?_, hword⟩⟩
      rw [List.mem_take_iff_getElem]
      exact ⟨k, by omega, rfl⟩
  · obtain rfl : k = count.toNat := by omega
    rw [if_neg (mt hlt.mp hin)]
    -- the block is as long as the copy, so nothing of its old contents is left
    refine Or.inr ⟨_, rfl, Or.inl ⟨?_, hvalid⟩⟩
    have hlength : ((words.take count.toNat).map bmxRmtSymbol).length = memory.length := by
      rw [List.length_map, List.length_take, Nat.min_eq_left hwords, hmemory]
    rw [hsymbols, drop_overwrite_zero, hlength, List.drop_length, List.append_nil]

/-- **The copy is complete, or there is a word that is not valid.** -/
theorem copy_spec (hwords : count.toNat ≤ words.length) (hmemory : memory.length = count.toNat) :
    ∃ copied, loop (rmtCopyPass words count) (count.toNat + 1) ⟨0, memory⟩ = some copied ∧
      CopyRight words count copied := by
  apply loop_spec (I := fun p => ∃ k, p.At words count memory k)
    (fun p => count.toNat - p.i.toNat)
  · rintro p ⟨k, hat⟩
    rcases hat.pass hwords hmemory with ⟨hin, p', hpass, hat'⟩ | ⟨copied, hpass, hright⟩
    · refine Or.inl ⟨p', hpass, ⟨k + 1, hat'⟩, ?_⟩
      rw [hat.i, hat'.i]
      omega
    · exact Or.inr ⟨copied, hpass, hright⟩
  · refine ⟨0, rfl, Nat.zero_le _, ?_, fun word hmem => absurd hmem List.not_mem_nil⟩
    rw [List.take_zero, List.map_nil, overwrite_nil]
  · exact Nat.lt_succ_of_le (Nat.sub_le _ _)

end Copy

/-! ### The transmission -/

section Transmit

variable {words : List UInt32} {count : UInt32} {endLevel : Int32} {r : RmtTransmitResults}

/-- What the call asks for is possible, as far as that can be seen without the words. -/
def RmtRequest (count : UInt32) (endLevel : Int32) : Prop :=
  (1 ≤ count ∧ count ≤ 16384) ∧ (endLevel = 0 ∨ endLevel = 1)

theorem not_request_iff :
    (count = 0 ∨ count > 16384 ∨ (endLevel ≠ 0 ∧ endLevel ≠ 1)) ↔ ¬ RmtRequest count endLevel := by
  have hzero : count = 0 ↔ ¬ 1 ≤ count := by
    rw [← UInt32.toNat_inj, UInt32.le_iff_toNat_le]
    have h0 : (0 : UInt32).toNat = 0 := rfl
    have h1 : (1 : UInt32).toNat = 1 := rfl
    omega
  rw [RmtRequest, not_and_or, not_and_or, not_or, ← hzero, UInt32.not_le, or_assoc, gt_iff_lt]

theorem transmittable_iff : RmtTransmittable words count endLevel ↔ RmtRequest count endLevel ∧
    ∀ word ∈ words.take count.toNat, bmxRmtValidSymbol word = true :=
  ⟨fun h => ⟨⟨h.number, h.level⟩, h.valid⟩, fun h => ⟨h.1.1, h.2, h.1.2⟩⟩

/-- A call that does not get as far as the words. -/
theorem transmit_nothing {handle : Bool} {source : Option (List UInt32)}
    (h : handle = false ∨ source = none ∨ r.malloc = none) :
    ∃ run, bmxEsp32RmtTransmitSymbols handle source count endLevel r = some run ∧
      run.transmissions = [] := by
  unfold bmxEsp32RmtTransmitSymbols
  split
  next => exact ⟨_, rfl, rfl⟩
  next hrequest =>
    rw [not_or, not_or] at hrequest
    have hmalloc : r.malloc = none := by
      rcases h with h | h | h
      · exact absurd h hrequest.1
      · exact absurd (Option.isNone_iff_eq_none.mpr h) hrequest.2.1
      · exact h
    rw [hmalloc]
    exact ⟨_, rfl, rfl⟩

theorem transmit_refused (h : ¬ RmtRequest count endLevel) :
    bmxEsp32RmtTransmitSymbols true (some words) count endLevel r =
      some ⟨espErrInvalidArg, []⟩ :=
  if_pos (Or.inr (Or.inr (not_request_iff.mpr h)))

/-- **All words or none.** -/
theorem transmit_spec {memory : Nat → RmtSymbolWord} (hmalloc : r.malloc = some memory)
    (hwords : count.toNat ≤ 16384 → count.toNat ≤ words.length) :
    (RmtTransmittable words count endLevel ∧
      bmxEsp32RmtTransmitSymbols true (some words) count endLevel r =
        some ⟨if r.transmit = espOk then r.waitAllDone else r.transmit,
          [⟨(words.take count.toNat).map bmxRmtSymbol, endLevel.toUInt32⟩]⟩) ∨
    (¬ RmtTransmittable words count endLevel ∧
      bmxEsp32RmtTransmitSymbols true (some words) count endLevel r =
        some ⟨espErrInvalidArg, []⟩) := by
  -- a request that is refused does not look at the words
  by_cases hrequest : RmtRequest count endLevel
  · have hlong := hwords (UInt32.le_iff_toNat_le.mp hrequest.1.2)
    obtain ⟨copied, hloop, hright⟩ := copy_spec hlong
      (show ((List.range count.toNat).map memory).length = count.toNat by
        rw [List.length_map, List.length_range])
    have hpass : ¬ (true = false ∨ (some words).isNone = true ∨ count = 0 ∨ count > 16384 ∨
        (endLevel ≠ 0 ∧ endLevel ≠ 1)) := by
      rintro (h | h | h)
      · exact Bool.false_ne_true h.symm
      · exact Bool.false_ne_true h
      · exact not_request_iff.mp h hrequest
    unfold bmxEsp32RmtTransmitSymbols
    rw [if_neg hpass, hmalloc]
    dsimp only [Option.getD_some]
    rw [hloop]
    -- the copy has gone through, or met a word that is not valid
    rcases hright with ⟨rfl, hvalid⟩ | ⟨rfl, word, hmem, hword⟩
    · refine Or.inl ⟨transmittable_iff.mpr ⟨hrequest, hvalid⟩, ?_⟩
      have hlength : ((words.take count.toNat).map bmxRmtSymbol).length = count.toNat := by
        rw [List.length_map, List.length_take, Nat.min_eq_left hlong]
      have hload : load ((words.take count.toNat).map bmxRmtSymbol) 0 count.toNat =
          some ((words.take count.toNat).map bmxRmtSymbol) := by
        rw [load_eq (by omega), List.drop_zero, List.take_of_length_le hlength.le]
      dsimp only [Option.bind_eq_bind, Option.bind_some]
      rw [hload]
      rfl
    · refine Or.inr ⟨fun h => ?_, rfl⟩
      exact Bool.false_ne_true (hword.symm.trans (h.valid word hmem))
  · exact Or.inr ⟨fun h => hrequest (transmittable_iff.mp h).1, transmit_refused hrequest⟩

/-- **Symbols are made, checked and taken apart by one layout**, over all words; and words are
handed to the driver all together, in their order, or not at all. -/
theorem rmt_symbols :
    (∀ (duration0 : UInt32) (level0 : Int32) (duration1 : UInt32) (level1 : Int32),
      (rmtMakeSymbol duration0 level0 duration1 level1 ≠ 0 ↔
        RmtDuration duration0 ∧ RmtDuration duration1) ∧
      (rmtMakeSymbol duration0 level0 duration1 level1 ≠ 0 →
        RmtSays (rmtMakeSymbol duration0 level0 duration1 level1) duration0 level0 duration1
          level1)) ∧
    (∀ word, bmxRmtValidSymbol word = true →
      rmtMakeSymbol (rmtSymbolDuration0 word) (rmtSymbolLevel0 word) (rmtSymbolDuration1 word)
        (rmtSymbolLevel1 word) = word) ∧
    (∀ (words : List UInt32) (count : UInt32) (endLevel : Int32) (r : RmtTransmitResults)
        (memory : Nat → RmtSymbolWord),
      r.malloc = some memory → (count.toNat ≤ 16384 → count.toNat ≤ words.length) →
      ∃ run, bmxEsp32RmtTransmitSymbols true (some words) count endLevel r = some run ∧
        (run.transmissions =
            [⟨(words.take count.toNat).map bmxRmtSymbol, endLevel.toUInt32⟩] ↔
          RmtTransmittable words count endLevel) ∧
        (¬ RmtTransmittable words count endLevel → run.transmissions = [])) ∧
    ∀ (handle : Bool) (words : Option (List UInt32)) (count : UInt32) (endLevel : Int32)
      (r : RmtTransmitResults), handle = false ∨ words = none ∨ r.malloc = none →
      ∃ run, bmxEsp32RmtTransmitSymbols handle words count endLevel r = some run ∧
        run.transmissions = [] := by
  refine ⟨fun _ _ _ _ => ⟨makeSymbol_ne_zero_iff, fun hne => ?_⟩,
    fun _ h => makeSymbol_accessors h, fun words count endLevel r memory hmalloc hwords => ?_,
    fun _ _ _ _ _ h => transmit_nothing h⟩
  · obtain ⟨h0, h1⟩ := makeSymbol_ne_zero_iff.mp hne
    exact makeSymbol_says h0 h1
  · rcases transmit_spec hmalloc hwords with ⟨hok, hrun⟩ | ⟨hbad, hrun⟩
    · exact ⟨_, hrun, iff_of_true rfl hok, fun h => absurd hok h⟩
    · exact ⟨_, hrun, iff_of_false (List.cons_ne_nil _ _).symm hbad, fun _ => rfl⟩

/-- Two pulses, the line low afterwards. -/
theorem rmt_symbols_pulses : ∃ run, bmxEsp32RmtTransmitSymbols true
      (some [rmtMakeSymbol 20 1 30 0, rmtMakeSymbol 40 1 50 0]) 2 0
      { malloc := some fun _ => ⟨0⟩ } = some run ∧
    run.transmissions =
      [⟨[⟨rmtMakeSymbol 20 1 30 0⟩, ⟨rmtMakeSymbol 40 1 50 0⟩], 0⟩] := by
  obtain ⟨run, hrun, hsent, -⟩ := rmt_symbols.2.2.1
    [rmtMakeSymbol 20 1 30 0, rmtMakeSymbol 40 1 50 0] 2 0 { malloc := some fun _ => ⟨0⟩ } _ rfl
    (by decide)
  have hvalid : ∀ word ∈ [rmtMakeSymbol 20 1 30 0, rmtMakeSymbol 40 1 50 0],
      bmxRmtValidSymbol word = true :=
    List.forall_mem_cons.mpr ⟨rfl, List.forall_mem_singleton.mpr rfl⟩
  exact ⟨run, hrun, hsent.mpr ⟨by decide, hvalid, Or.inl rfl⟩⟩

end Transmit

end Esp32Mod
