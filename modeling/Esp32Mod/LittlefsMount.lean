/-
Esp32Mod/LittlefsMount.lean

When LittleFS is formatted (`storage.mod/filesystem.mod/native/esp32_filesystem.c`): the mount with
its scan for a blank partition, the unmount and the explicit format, with every call that they
make to the driver and every read of the partition.

The scan goes through the partition in blocks of 256 bytes, and stops at a read that fails and at
a byte that is not `0xff`.  Its offset is a `size_t`, of 32 bits.  Behind the last 256 bytes that
32 bits can address it would begin again: `mountsSafely_iff` says when, and that no partition of a
flash chip is that long.

Main results:

* `littlefs_mount_safe` — a mount ends and reads each byte once, it formats nothing but a partition
  that it has found blank, and a run of mounts and unmounts nothing that is not blank.
-/
import Esp32Mod.Checked
import Esp32Mod.StorageRouting
import Esp32Mod.Tiling

namespace Esp32Mod

open StepMachine Machine Checked Tiling

/-! ### The scan -/

/-- A partition of the flash. -/
structure StoragePartition where
  size : UInt32
  content : Nat → UInt8

/-- The partition that is found, and what `esp_partition_read` returns at an offset. -/
structure FlashAnswers where
  partition : Option StoragePartition
  read : UInt32 → EspErr

/-- The offset, and the pieces of the partition that have been read. -/
structure BlankScan where
  offset : UInt32
  reads : List Piece

/-- A pass of the loop of `bmx_littlefs_blank`. -/
def bmxLittlefsBlankPass (p : StoragePartition) (read : UInt32 → EspErr) (s : BlankScan) :
    Option (Pass BlankScan (Bool × List Piece)) :=
  if s.offset < p.size then
    let size := p.size - s.offset
    let size := if size > 256 then 256 else size
    let reads := s.reads ++ [⟨s.offset.toNat, size.toNat⟩]
    if read s.offset ≠ espOk then some (.done (false, reads))
    else if (List.range size.toNat).any (fun index => p.content (s.offset.toNat + index) != 0xff)
    then some (.done (false, reads))
    -- from `0xffffff00` on this is 0 again
    else some (.next ⟨s.offset + 256, reads⟩)
  else some (.done (true, s.reads))

/-- What it returns, and what it has read; `none` if the fuel does not last. -/
def bmxLittlefsBlank (fuel : Nat) (flash : FlashAnswers) : Option (Bool × List Piece) :=
  match flash.partition with
  | none => some (false, [])
  | some p => loop (bmxLittlefsBlankPass p flash.read) fuel ⟨0, []⟩

/-! ### The calls -/

/-- A call of the driver, and its result. -/
inductive LittlefsCall
  | register (formatIfMountFailed : Bool) (result : EspErr)
  | unregister (result : EspErr)
  | format (result : EspErr)
  deriving DecidableEq

/-- What a call has done. -/
structure LittlefsRun where
  result : Int32
  native : NativeStorage
  calls : List LittlefsCall
  reads : List Piece

/-- A return without a call of the driver. -/
def LittlefsRun.quiet (r : Int32 × NativeStorage) : LittlefsRun := ⟨r.1, r.2, [], []⟩

namespace NativeStorage

/-- A mount of a volume that is not mounted, when `format_if_mount_failed` is known. -/
def littlefsRegister (s : NativeStorage) (format : Bool) (reads : List Piece)
    (r : StorageResults) : LittlefsRun :=
  let result := r.littlefsRegister format
  ⟨(s.record .littleFS true result).1, (s.record .littleFS true result).2,
    [.register format result], reads⟩

/-- A blank partition may be formatted; `none` where the fuel runs out. -/
def littlefsMountRun (s : NativeStorage) (fuel : Nat) (formatBlank : Int32)
    (flash : FlashAnswers) (r : StorageResults) : Option LittlefsRun :=
  if s.mounted .littleFS = true then some (.quiet (s.bmxFsSetError .littleFS 0))
  else if formatBlank = 0 then some (s.littlefsRegister false [] r)
  else (bmxLittlefsBlank fuel flash).map fun scan => s.littlefsRegister scan.1 scan.2 r

/-- A volume that is not mounted is no error. -/
def littlefsUnmountRun (s : NativeStorage) (r : StorageResults) : LittlefsRun :=
  if s.mounted .littleFS = false then .quiet (s.bmxFsSetError .littleFS 0)
  else { LittlefsRun.quiet (s.record .littleFS false r.littlefsUnregister) with
    calls := [.unregister r.littlefsUnregister] }

/-- `esp_littlefs_format`, and the mount after it, which may not format. -/
def littlefsFormatUnmountedRun (s : NativeStorage) (r : StorageResults) : LittlefsRun :=
  if r.littlefsFormat = espOk then
    let run :=
      if s.mounted .littleFS = true then .quiet (s.bmxFsSetError .littleFS 0)
      else s.littlefsRegister false [] r
    { run with calls := .format r.littlefsFormat :: run.calls }
  else { LittlefsRun.quiet (s.bmxFsSetError .littleFS (-r.littlefsFormat)) with
    calls := [.format r.littlefsFormat] }

/-- A mounted volume is unmounted before, and mounted again after. -/
def littlefsFormatRun (s : NativeStorage) (r : StorageResults) : LittlefsRun :=
  if s.mounted .littleFS = true then
    let run := s.littlefsUnmountRun r
    if run.result ≠ 0 then run
    else
      let formatted := run.native.littlefsFormatUnmountedRun r
      { formatted with calls := run.calls ++ formatted.calls }
  else s.littlefsFormatUnmountedRun r

end NativeStorage

/-- The calls of the application. -/
inductive LittlefsAction
  | mount (formatBlank : Int32) (fuel : Nat) (flash : FlashAnswers) (r : StorageResults)
  | unmount (r : StorageResults)
  | format (r : StorageResults)

/-- The statics, and the calls of the driver so far. -/
structure LittlefsSystem where
  native : NativeStorage
  calls : List LittlefsCall

/-- Note what a call has done. -/
def LittlefsSystem.after (s : LittlefsSystem) (run : LittlefsRun) : LittlefsSystem :=
  ⟨run.native, s.calls ++ run.calls⟩

/-- `MountLittleFS`, `UnmountLittleFS` and `FormatLittleFS`; a mount whose scan does not end is no
step. -/
def littlefsMachine : Machine LittlefsSystem LittlefsAction where
  init s := s.native.mounted .littleFS = false ∧ s.calls = []
  step s
    | .mount formatBlank fuel flash r =>
      (s.native.littlefsMountRun fuel formatBlank flash r).map s.after
    | .unmount r => some (s.after (s.native.littlefsUnmountRun r))
    | .format r => some (s.after (s.native.littlefsFormatRun r))

/-! ### The statement -/

/-- Every byte has been read once, successfully, as `0xff`. -/
structure FoundBlank (p : StoragePartition) (read : UInt32 → EspErr) (reads : List Piece) :
    Prop where
  tiles : Tiles 0 reads p.size.toNat
  content : ∀ i, i < p.size.toNat → p.content i = 0xff
  read : ∀ piece ∈ reads, read (UInt32.ofNat piece.offset) = espOk

/-- What a mount has done: reads in the partition, none of a byte twice, and registrations, which
format only what has been found blank. -/
structure LittlefsRun.Safe (run : LittlefsRun) (formatBlank : Int32) (flash : FlashAnswers) :
    Prop where
  reads : run.reads = [] ∨ ∃ p, flash.partition = some p ∧
    ∃ n, n ≤ p.size.toNat ∧ Tiles 0 run.reads n
  calls : ∀ call ∈ run.calls, ∃ format result, call = .register format result ∧
    (format = true → formatBlank ≠ 0 ∧
      ∃ p, flash.partition = some p ∧ FoundBlank p flash.read run.reads)

namespace NativeStorage

/-- A mount ends, and what it does is safe. -/
structure MountsSafely (s : NativeStorage) (formatBlank : Int32) (flash : FlashAnswers)
    (r : StorageResults) : Prop where
  ends : ∃ fuel, (s.littlefsMountRun fuel formatBlank flash r).isSome = true
  safe : ∀ fuel run, s.littlefsMountRun fuel formatBlank flash r = some run →
    run.Safe formatBlank flash

end NativeStorage

/-- A blank partition that ends within the last 256 bytes of the 32 bits. -/
structure StoragePartition.Wraps (p : StoragePartition) (read : UInt32 → EspErr) : Prop where
  size : 2 ^ 32 - 256 < p.size.toNat
  content : ∀ i, i < p.size.toNat → p.content i = 0xff
  read : ∀ k, 256 * k < p.size.toNat → read (UInt32.ofNat (256 * k)) = espOk

/-- The mount scans such a partition. -/
def NativeStorage.Wraps (s : NativeStorage) (formatBlank : Int32) (flash : FlashAnswers) : Prop :=
  s.mounted .littleFS = false ∧ formatBlank ≠ 0 ∧
    ∃ p, flash.partition = some p ∧ p.Wraps flash.read

/-- A partition lies in the flash chip, behind the bootloader and the partition table; the chips
have megabytes. -/
def FlashAnswers.InChip (flash : FlashAnswers) : Prop :=
  ∀ p, flash.partition = some p → p.size.toNat ≤ 2 ^ 32 - 256

/-- The driver may write a new filesystem. -/
def LittlefsCall.Formats : LittlefsCall → Prop
  | .register formatIfMountFailed _ => formatIfMountFailed = true
  | .unregister _ => False
  | .format _ => True

/-- Whether the driver has the volume mounted after a call. -/
def driverAfter (mounted : Bool) : LittlefsCall → Bool
  | .register _ result => if result = espOk then true else mounted
  | .unregister result => if result = espOk then false else mounted
  | .format _ => mounted

/-- Whether the driver has the volume after the calls. -/
def driverMounted (calls : List LittlefsCall) : Bool := calls.foldl driverAfter false

/-- No format of a mounted volume. -/
def FormatsUnmounted : Bool → List LittlefsCall → Prop
  | _, [] => True
  | mounted, call :: calls =>
    (∀ result, call = .format result → mounted = false) ∧
      FormatsUnmounted (driverAfter mounted call) calls

/-- A mount that finds a byte in the partition, if it finds the partition; no explicit format. -/
def HoldsData (_ : LittlefsSystem) : LittlefsAction → Prop
  | .mount _ _ flash _ =>
    ∀ p, flash.partition = some p → ∃ i, i < p.size.toNat ∧ p.content i ≠ 0xff
  | .unmount _ => True
  | .format _ => False

/-! ### The scan -/

section Scan

variable {p : StoragePartition} {read : UInt32 → EspErr}

/-- Block `k` is read, and blank. -/
def BlockBlank (p : StoragePartition) (read : UInt32 → EspErr) (k : Nat) : Prop :=
  read (UInt32.ofNat (256 * k)) = espOk ∧
    ∀ i, 256 * k ≤ i → i < 256 * (k + 1) → i < p.size.toNat → p.content i = 0xff

/-- The scan is at the beginning of block `k`. -/
structure BlankScan.At (s : BlankScan) (p : StoragePartition) (read : UInt32 → EspErr)
    (k : Nat) : Prop where
  offset : s.offset.toNat = 256 * k
  tiles : Tiles 0 s.reads (min (256 * k) p.size.toNat)
  blank : ∀ j, j < k → BlockBlank p read j
  read : ∀ piece ∈ s.reads, read (UInt32.ofNat piece.offset) = espOk

/-- What the scan returns is right. -/
structure ScanRight (p : StoragePartition) (read : UInt32 → EspErr) (r : Bool × List Piece) :
    Prop where
  inside : ∃ n, n ≤ p.size.toNat ∧ Tiles 0 r.2 n
  blank : r.1 = true → FoundBlank p read r.2

/-- The length of the block that is read. -/
theorem toNat_blockSize {offset : UInt32} (hlt : offset.toNat < p.size.toNat) :
    (if p.size - offset > 256 then 256 else p.size - offset).toNat =
      min 256 (p.size.toNat - offset.toNat) := by
  have hsub : (p.size - offset).toNat = p.size.toNat - offset.toNat :=
    UInt32.toNat_sub_of_le _ _ (UInt32.le_iff_toNat_le.mpr (Nat.le_of_lt hlt))
  have h256 : (256 : UInt32).toNat = 256 := rfl
  split
  next hlong =>
    rw [gt_iff_lt, UInt32.lt_iff_toNat_lt, hsub, h256] at hlong
    omega
  next hshort =>
    rw [gt_iff_lt, UInt32.lt_iff_toNat_lt, hsub, h256] at hshort
    omega

/-- Looking for a byte of block `k` that is not blank. -/
theorem any_not_blank_iff {k size : Nat} (hsize : size = min 256 (p.size.toNat - 256 * k)) :
    ((List.range size).any fun index => p.content (256 * k + index) != 0xff) = true ↔
      ∃ i, 256 * k ≤ i ∧ i < 256 * (k + 1) ∧ i < p.size.toNat ∧ p.content i ≠ 0xff := by
  simp only [List.any_eq_true, List.mem_range, bne_iff_ne]
  constructor
  · rintro ⟨index, hindex, hbyte⟩
    exact ⟨256 * k + index, by omega, by omega, by omega, hbyte⟩
  · rintro ⟨i, hfrom, hto, hin, hbyte⟩
    refine ⟨i - 256 * k, by omega, ?_⟩
    rwa [Nat.add_sub_cancel' hfrom]

/-- What is read of block `k`. -/
def StoragePartition.block (p : StoragePartition) (k : Nat) : Piece :=
  ⟨256 * k, min 256 (p.size.toNat - 256 * k)⟩

section Pass

variable {s : BlankScan} {k : Nat}

theorem offset_lt_iff (hoffset : s.offset.toNat = 256 * k) :
    s.offset < p.size ↔ 256 * k < p.size.toNat := by
  rw [UInt32.lt_iff_toNat_lt, hoffset]

/-- What the pass tests at the block. -/
theorem blockBlank_iff_pass (hoffset : s.offset.toNat = 256 * k) :
    BlockBlank p read k ↔ read s.offset = espOk ∧
      ((List.range (p.block k).length).any fun index =>
        p.content (256 * k + index) != 0xff) ≠ true := by
  have hname : UInt32.ofNat (256 * k) = s.offset := by rw [← hoffset, UInt32.ofNat_toNat]
  have hlength : (p.block k).length = min 256 (p.size.toNat - 256 * k) := rfl
  rw [BlockBlank, hname, Ne, any_not_blank_iff hlength]
  refine and_congr_right fun _ => ⟨?_, ?_⟩
  · rintro hblank ⟨i, hfrom, hto, hi, hne⟩
    exact hne (hblank i hfrom hto hi)
  · intro hnone i hfrom hto hi
    by_contra hne
    exact hnone ⟨i, hfrom, hto, hi, hne⟩

/-- Behind the last block. -/
theorem blankPass_end (hoffset : s.offset.toNat = 256 * k) (hend : p.size.toNat ≤ 256 * k) :
    bmxLittlefsBlankPass p read s = some (.done (true, s.reads)) :=
  if_neg (mt (offset_lt_iff hoffset).mp (Nat.not_lt.mpr hend))

/-- At a block. -/
theorem blankPass_block (hoffset : s.offset.toNat = 256 * k) (hin : 256 * k < p.size.toNat) :
    bmxLittlefsBlankPass p read s =
      if read s.offset ≠ espOk then some (.done (false, s.reads ++ [p.block k]))
      else if (List.range (p.block k).length).any fun index =>
        p.content (256 * k + index) != 0xff
      then some (.done (false, s.reads ++ [p.block k]))
      else some (.next ⟨s.offset + 256, s.reads ++ [p.block k]⟩) := by
  have hlt : s.offset.toNat < p.size.toNat := by rwa [hoffset]
  have hlength := toNat_blockSize hlt
  unfold bmxLittlefsBlankPass
  rw [if_pos ((offset_lt_iff hoffset).mpr hin)]
  dsimp only
  rw [hlength, hoffset]
  rfl

theorem blankPass_next (hoffset : s.offset.toNat = 256 * k) (hin : 256 * k < p.size.toNat)
    (hblank : BlockBlank p read k) :
    bmxLittlefsBlankPass p read s =
      some (.next ⟨s.offset + 256, s.reads ++ [p.block k]⟩) := by
  obtain ⟨hok, hbytes⟩ := (blockBlank_iff_pass hoffset).mp hblank
  rw [blankPass_block hoffset hin, if_neg (not_not_intro hok), if_neg hbytes]

theorem blankPass_stop (hoffset : s.offset.toNat = 256 * k) (hin : 256 * k < p.size.toNat)
    (hbad : ¬ BlockBlank p read k) :
    bmxLittlefsBlankPass p read s = some (.done (false, s.reads ++ [p.block k])) := by
  rw [blankPass_block hoffset hin]
  by_cases hok : read s.offset = espOk
  · have hbytes := not_not.mp (fun h => hbad ((blockBlank_iff_pass hoffset).mpr ⟨hok, h⟩))
    rw [if_neg (not_not_intro hok), if_pos hbytes]
  · rw [if_pos hok]

end Pass

theorem block_end {k n : Nat} (hin : 256 * k < n) :
    256 * k + min 256 (n - 256 * k) = min (256 * (k + 1)) n := by
  rcases Nat.le_total 256 (n - 256 * k) with hlong | hshort
  · rw [Nat.min_eq_left hlong, Nat.min_eq_left (by omega), Nat.mul_succ]
  · rw [Nat.min_eq_right hshort, Nat.min_eq_right (by omega), Nat.add_sub_cancel' hin.le]

/-- With one more block the pieces still tile. -/
theorem tiles_block {reads : List Piece} {k : Nat} (hin : 256 * k < p.size.toNat)
    (htiles : Tiles 0 reads (min (256 * k) p.size.toNat)) :
    Tiles 0 (reads ++ [p.block k]) (min (256 * (k + 1)) p.size.toNat) := by
  rw [Nat.min_eq_left hin.le] at htiles
  rw [← block_end hin]
  exact htiles.concat (by omega)

/-- A pass at block `k`: it ends the scan, or the block is blank and the scan goes on. -/
theorem BlankScan.At.pass {s : BlankScan} {k : Nat} (h : s.At p read k) :
    (∃ r, bmxLittlefsBlankPass p read s = some (.done r) ∧ ScanRight p read r) ∨
    (256 * k < p.size.toNat ∧ BlockBlank p read k ∧
      bmxLittlefsBlankPass p read s =
        some (.next ⟨s.offset + 256, s.reads ++ [p.block k]⟩)) := by
  by_cases hin : 256 * k < p.size.toNat
  · by_cases hblank : BlockBlank p read k
    · exact Or.inr ⟨hin, hblank, blankPass_next h.offset hin hblank⟩
    · refine Or.inl ⟨_, blankPass_stop h.offset hin hblank, ?_, ?_⟩
      · exact ⟨_, Nat.min_le_right _ _, tiles_block hin h.tiles⟩
      · exact fun hblank => absurd hblank Bool.false_ne_true
  · have hend := Nat.not_lt.mp hin
    have htiles := h.tiles
    rw [Nat.min_eq_right hend] at htiles
    refine Or.inl ⟨_, blankPass_end h.offset hend, ⟨_, Nat.le_refl _, htiles⟩,
      fun _ => ⟨htiles, ?_, h.read⟩⟩
    -- every byte is in a block before
    intro i hi
    exact (h.blank (i / 256) (by omega)).2 i (by omega) (by omega) hi

/-- The scan comes to an end at block `k`, if not before. -/
def StopsAt (p : StoragePartition) (read : UInt32 → EspErr) (k : Nat) : Prop :=
  k < 2 ^ 24 ∧ (p.size.toNat ≤ 256 * k ∨ ¬ BlockBlank p read k)

theorem toNat_next_offset {offset : UInt32} {k : Nat} (h : offset.toNat = 256 * k) :
    (offset + 256).toNat = 256 * ((k + 1) % 2 ^ 24) := by
  have h256 : (256 : UInt32).toNat = 256 := rfl
  rw [UInt32.toNat_add, h, h256]
  omega

/-- The next block, if its offset has 32 bits. -/
theorem BlankScan.At.next {s : BlankScan} {k : Nat} (h : s.At p read k) (hk : k + 1 < 2 ^ 24)
    (hin : 256 * k < p.size.toNat) (hblank : BlockBlank p read k) :
    BlankScan.At ⟨s.offset + 256, s.reads ++ [p.block k]⟩ p read (k + 1) := by
  refine ⟨?_, tiles_block hin h.tiles, ?_, ?_⟩
  · dsimp only
    rw [toNat_next_offset h.offset, Nat.mod_eq_of_lt hk]
  · intro j hj
    rcases Nat.lt_succ_iff_lt_or_eq.mp hj with hj | rfl
    · exact h.blank j hj
    · exact hblank
  · intro piece hpiece
    rcases List.mem_append.mp hpiece with hpiece | hpiece
    · exact h.read piece hpiece
    · obtain rfl := List.mem_singleton.mp hpiece
      exact hblank.1

theorem scan_at_zero : BlankScan.At ⟨0, []⟩ p read 0 := by
  refine ⟨rfl, ?_, fun j hj => absurd hj (Nat.not_lt_zero j),
    fun piece hpiece => absurd hpiece List.not_mem_nil⟩
  rw [Nat.mul_zero, Nat.zero_min]
  exact .nil 0

/-- **The scan ends**, and is right, if there is a block to stop at. -/
theorem scan_ends {N : Nat} (hN : StopsAt p read N) :
    ∃ r, loop (bmxLittlefsBlankPass p read) (N + 1) ⟨0, []⟩ = some r ∧ ScanRight p read r := by
  apply loop_spec (I := fun s => ∃ k, k ≤ N ∧ s.At p read k) (Q := ScanRight p read)
    (fun s => N - s.offset.toNat / 256)
  · rintro s ⟨k, hk, hat⟩
    rcases hat.pass with ⟨r, hpass, hright⟩ | ⟨hin, hblank, hpass⟩
    · exact Or.inr ⟨r, hpass, hright⟩
    · -- the scan goes on, so block `N` is still ahead
      have hlast : k ≠ N := by
        rintro rfl
        rcases hN.2 with hend | hbad
        · exact absurd hend (Nat.not_le.mpr hin)
        · exact hbad hblank
      have hsmall := hN.1
      have hnext := hat.next (by omega) hin hblank
      refine Or.inl ⟨_, hpass, ⟨k + 1, by omega, hnext⟩, ?_⟩
      have hoffset := hat.offset
      have hoffset' := hnext.offset
      dsimp only at hoffset' ⊢
      omega
  · exact ⟨0, Nat.zero_le N, scan_at_zero⟩
  · exact Nat.lt_succ_of_le (Nat.sub_le N _)

/-- If there is none, the scan goes on for ever. -/
theorem scan_diverges (h : ∀ k, ¬ StopsAt p read k) (fuel : Nat) :
    loop (bmxLittlefsBlankPass p read) fuel ⟨0, []⟩ = none := by
  apply loop_diverges (I := fun s => ∃ k, k < 2 ^ 24 ∧ s.offset.toNat = 256 * k)
  · rintro s ⟨k, hk, hoffset⟩
    -- only the offset matters: what has been read grows
    have hgoes : 256 * k < p.size.toNat ∧ BlockBlank p read k := by
      by_contra hstops
      rw [not_and_or, Nat.not_lt] at hstops
      exact h k ⟨hk, hstops⟩
    exact ⟨_, blankPass_next hoffset hgoes.1 hgoes.2, (k + 1) % 2 ^ 24,
      Nat.mod_lt _ (by decide), toNat_next_offset hoffset⟩
  · exact ⟨0, by decide, rfl⟩

/-- There is no block to stop at exactly if the scan wraps around. -/
theorem wraps_iff : p.Wraps read ↔ ∀ k, ¬ StopsAt p read k := by
  have hsize := p.size.toNat_lt
  constructor
  · rintro ⟨hlong, hcontent, hread⟩ k ⟨hk, hend | hbad⟩
    · omega
    · exact hbad ⟨hread k (by omega), fun i _ _ hi => hcontent i hi⟩
  · intro h
    have hgoes : ∀ k, k < 2 ^ 24 → 256 * k < p.size.toNat ∧ BlockBlank p read k := by
      intro k hk
      by_contra hstops
      rw [not_and_or, Nat.not_lt] at hstops
      exact h k ⟨hk, hstops⟩
    have hlast := (hgoes (2 ^ 24 - 1) (by decide)).1
    refine ⟨by omega, fun i hi => ?_, fun k hk => (hgoes k (by omega)).2.1⟩
    exact (hgoes (i / 256) (by omega)).2.2 i (by omega) (by omega) hi

/-- What the scan returns is right, however long it has taken. -/
theorem scan_right {fuel : Nat} {r : Bool × List Piece}
    (h : loop (bmxLittlefsBlankPass p read) fuel ⟨0, []⟩ = some r) : ScanRight p read r := by
  by_cases hstops : ∃ N, StopsAt p read N
  · obtain ⟨N, hN⟩ := hstops
    obtain ⟨r', hr', hright⟩ := scan_ends hN
    rwa [loop_unique h hr']
  · rw [scan_diverges (not_exists.mp hstops)] at h
    exact absurd h.symm (Option.some_ne_none r)

/-- The scan ends unless it wraps around. -/
theorem scan_ends_iff :
    (∃ fuel, (loop (bmxLittlefsBlankPass p read) fuel ⟨0, []⟩).isSome = true) ↔
      ¬ p.Wraps read := by
  rw [wraps_iff]
  constructor
  · rintro ⟨fuel, hsome⟩ hwraps
    rw [scan_diverges hwraps] at hsome
    exact Bool.false_ne_true hsome
  · intro hends
    obtain ⟨N, hN⟩ := not_forall_not.mp hends
    obtain ⟨r, hr, -⟩ := scan_ends hN
    exact ⟨N + 1, by rw [hr]; rfl⟩

end Scan

/-! ### A mount -/

section Mount

variable {s : NativeStorage} {formatBlank : Int32} {flash : FlashAnswers} {r : StorageResults}
  {fuel : Nat} {run : LittlefsRun}

theorem blank_ends_iff :
    (∃ fuel, (bmxLittlefsBlank fuel flash).isSome = true) ↔
      ¬ ∃ p, flash.partition = some p ∧ p.Wraps flash.read := by
  unfold bmxLittlefsBlank
  cases flash.partition with
  | none => exact iff_of_true ⟨0, rfl⟩ (by rintro ⟨p, hp, -⟩; exact Option.some_ne_none p hp.symm)
  | some p =>
    refine scan_ends_iff.trans (not_congr ⟨fun h => ⟨p, rfl, h⟩, ?_⟩)
    rintro ⟨p', hp', h⟩
    rwa [Option.some.inj hp']

theorem blank_right {scan : Bool × List Piece} (h : bmxLittlefsBlank fuel flash = some scan) :
    scan = (false, []) ∨
      ∃ p, flash.partition = some p ∧ ScanRight p flash.read scan := by
  unfold bmxLittlefsBlank at h
  split at h
  next => exact Or.inl (Option.some.inj h).symm
  next p hp => exact Or.inr ⟨p, hp, scan_right h⟩

/-- A mount that has not scanned anything. -/
theorem safe_of_unscanned (hreads : run.reads = [])
    (hcalls : ∀ call ∈ run.calls, ∃ result, call = .register false result) :
    run.Safe formatBlank flash := by
  refine ⟨Or.inl hreads, fun call hcall => ?_⟩
  obtain ⟨result, hregister⟩ := hcalls call hcall
  exact ⟨false, result, hregister, fun h => absurd h Bool.false_ne_true⟩

theorem safe_quiet (result : Int32 × NativeStorage) :
    (LittlefsRun.quiet result).Safe formatBlank flash :=
  safe_of_unscanned rfl fun _ hcall => absurd hcall List.not_mem_nil

theorem safe_unformatted : (s.littlefsRegister false [] r).Safe formatBlank flash :=
  safe_of_unscanned rfl fun _ hcall => ⟨_, List.mem_singleton.mp hcall⟩

theorem safe_scanned (hformat : formatBlank ≠ 0) {scan : Bool × List Piece}
    (h : bmxLittlefsBlank fuel flash = some scan) :
    (s.littlefsRegister scan.1 scan.2 r).Safe formatBlank flash := by
  rcases blank_right h with rfl | ⟨p, hp, hright⟩
  · exact safe_unformatted
  · refine ⟨Or.inr ⟨p, hp, hright.inside⟩, fun call hcall => ?_⟩
    exact ⟨_, _, List.mem_singleton.mp hcall,
      fun hblank => ⟨hformat, p, hp, hright.blank hblank⟩⟩

/-- A mount formats nothing but what it has found blank. -/
theorem mountRun_safe (h : s.littlefsMountRun fuel formatBlank flash r = some run) :
    run.Safe formatBlank flash := by
  unfold NativeStorage.littlefsMountRun at h
  split at h
  next =>
    obtain rfl := Option.some.inj h
    exact safe_quiet _
  next =>
    split at h
    next =>
      obtain rfl := Option.some.inj h
      exact safe_unformatted
    next hformat =>
      obtain ⟨scan, hscan, rfl⟩ := Option.map_eq_some_iff.mp h
      exact safe_scanned hformat hscan

/-- The mount ends unless it scans a partition that wraps around. -/
theorem mountRun_ends_iff :
    (∃ fuel, (s.littlefsMountRun fuel formatBlank flash r).isSome = true) ↔
      ¬ s.Wraps formatBlank flash := by
  unfold NativeStorage.littlefsMountRun NativeStorage.Wraps
  by_cases hmounted : s.mounted .littleFS = true
  · refine iff_of_true ⟨0, by rw [if_pos hmounted]; rfl⟩ fun h => ?_
    exact Bool.false_ne_true (h.1.symm.trans hmounted)
  · by_cases hformat : formatBlank = 0
    · exact iff_of_true ⟨0, by rw [if_neg hmounted, if_pos hformat]; rfl⟩ fun h => h.2.1 hformat
    · simp only [if_neg hmounted, if_neg hformat, Option.isSome_map, blank_ends_iff]
      rw [Bool.not_eq_true] at hmounted
      exact not_congr ⟨fun h => ⟨hmounted, hformat, h⟩, fun h => h.2.2⟩

theorem mountsSafely_iff : s.MountsSafely formatBlank flash r ↔ ¬ s.Wraps formatBlank flash :=
  ⟨fun h => mountRun_ends_iff.mp h.ends,
    fun h => ⟨mountRun_ends_iff.mpr h, fun _ _ hrun => mountRun_safe hrun⟩⟩

end Mount

/-! ### The operations without their trace -/

section Erasure

variable {s : NativeStorage} {formatBlank : Int32} {flash : FlashAnswers} {r : StorageResults}
  {fuel : Nat} {run : LittlefsRun}

/-- A mount is one in which `bmx_littlefs_blank` returns what the scan has found. -/
theorem mountRun_erase (h : s.littlefsMountRun fuel formatBlank flash r = some run) :
    ∃ blank, (∀ scan, bmxLittlefsBlank fuel flash = some scan → blank = scan.1) ∧
      (run.result, run.native) =
        s.bmxEsp32LittlefsMount (decide (formatBlank ≠ 0)) { r with blank } := by
  unfold NativeStorage.littlefsMountRun at h
  unfold NativeStorage.bmxEsp32LittlefsMount
  refine ⟨((bmxLittlefsBlank fuel flash).getD (false, [])).1, ?_, ?_⟩
  · intro scan hscan
    rw [hscan, Option.getD_some]
  · by_cases hmounted : s.mounted .littleFS = true
    · rw [if_pos hmounted] at h ⊢
      obtain rfl := Option.some.inj h
      rfl
    · rw [if_neg hmounted] at h ⊢
      by_cases hformat : formatBlank = 0
      · rw [if_pos hformat] at h
        rw [decide_eq_false (not_not_intro hformat)]
        obtain rfl := Option.some.inj h
        rfl
      · rw [if_neg hformat] at h
        rw [decide_eq_true hformat]
        obtain ⟨scan, hscan, rfl⟩ := Option.map_eq_some_iff.mp h
        rw [hscan]
        rfl

theorem unmountRun_erase :
    ((s.littlefsUnmountRun r).result, (s.littlefsUnmountRun r).native) =
      s.bmxEsp32LittlefsUnmount r := by
  unfold NativeStorage.littlefsUnmountRun NativeStorage.bmxEsp32LittlefsUnmount
  split <;> rfl

theorem formatUnmountedRun_erase :
    ((s.littlefsFormatUnmountedRun r).result, (s.littlefsFormatUnmountedRun r).native) =
      s.littlefsFormatUnmounted r := by
  unfold NativeStorage.littlefsFormatUnmountedRun NativeStorage.littlefsFormatUnmounted
    NativeStorage.bmxEsp32LittlefsMount
  split
  next => split <;> rfl
  next => rfl

theorem formatRun_erase :
    ((s.littlefsFormatRun r).result, (s.littlefsFormatRun r).native) =
      s.bmxEsp32LittlefsFormat r := by
  unfold NativeStorage.littlefsFormatRun NativeStorage.bmxEsp32LittlefsFormat
  split
  next =>
    rw [← unmountRun_erase]
    dsimp only
    split
    next => rfl
    next => exact formatUnmountedRun_erase
  next => exact formatUnmountedRun_erase

end Erasure

/-! ### The driver -/

section Driver

variable {s : NativeStorage} {r : StorageResults} {run : LittlefsRun} {mounted : Bool}
  {calls calls' : List LittlefsCall}

theorem formatsUnmounted_append :
    FormatsUnmounted mounted (calls ++ calls') ↔
      FormatsUnmounted mounted calls ∧
        FormatsUnmounted (calls.foldl driverAfter mounted) calls' := by
  induction calls generalizing mounted with
  | nil => exact (and_iff_right trivial).symm
  | cons call calls ih =>
    rw [List.cons_append, FormatsUnmounted, FormatsUnmounted, ih, and_assoc, List.foldl_cons]

/-- The record follows the driver, and nothing is formatted while it is mounted. -/
structure LittlefsRun.Follows (run : LittlefsRun) (s : NativeStorage) : Prop where
  mounted : run.native.mounted .littleFS = run.calls.foldl driverAfter (s.mounted .littleFS)
  formats : FormatsUnmounted (s.mounted .littleFS) run.calls

theorem follows_quiet (error : Int32) :
    (LittlefsRun.quiet (s.bmxFsSetError .littleFS error)).Follows s :=
  ⟨rfl, trivial⟩

theorem record_littleFS (mounted : Bool) (result : EspErr) :
    (s.record .littleFS mounted result).2.mounted .littleFS =
      if result = espOk then mounted else s.mounted .littleFS := by
  unfold NativeStorage.record
  split
  next => exact Function.update_self StorageVolume.littleFS mounted s.mounted
  next => rfl

theorem follows_register (format : Bool) (reads : List Piece) :
    (s.littlefsRegister format reads r).Follows s := by
  refine ⟨record_littleFS true _, fun result h => ?_, trivial⟩
  exact LittlefsCall.noConfusion h

theorem follows_mountRun {fuel : Nat} {formatBlank : Int32} {flash : FlashAnswers}
    (h : s.littlefsMountRun fuel formatBlank flash r = some run) : run.Follows s := by
  unfold NativeStorage.littlefsMountRun at h
  split at h
  next =>
    obtain rfl := Option.some.inj h
    exact follows_quiet 0
  next =>
    split at h
    next =>
      obtain rfl := Option.some.inj h
      exact follows_register false []
    next =>
      obtain ⟨scan, -, rfl⟩ := Option.map_eq_some_iff.mp h
      exact follows_register scan.1 scan.2

theorem follows_unmountRun : (s.littlefsUnmountRun r).Follows s := by
  unfold NativeStorage.littlefsUnmountRun
  split
  next => exact follows_quiet 0
  next =>
    refine ⟨record_littleFS false _, fun result h => ?_, trivial⟩
    exact LittlefsCall.noConfusion h

/-- A format before what is done to a volume that is not mounted. -/
theorem LittlefsRun.Follows.format (h : run.Follows s) (hmounted : s.mounted .littleFS = false)
    (result : EspErr) : ({ run with calls := .format result :: run.calls }).Follows s :=
  ⟨h.mounted, fun _ _ => hmounted, h.formats⟩

theorem follows_formatUnmountedRun (h : s.mounted .littleFS = false) :
    (s.littlefsFormatUnmountedRun r).Follows s := by
  unfold NativeStorage.littlefsFormatUnmountedRun
  split
  next =>
    dsimp only
    split
    next => exact (follows_quiet 0).format h _
    next => exact (follows_register false []).format h _
  next => exact (follows_quiet _).format h _

/-- An unmount that returns zero has unmounted. -/
theorem unmountRun_unmounted (h : (s.littlefsUnmountRun r).result = 0) :
    (s.littlefsUnmountRun r).native.mounted .littleFS = false := by
  have herase := unmountRun_erase (s := s) (r := r)
  have hresult := congrArg Prod.fst herase
  have hnative := congrArg Prod.snd herase
  dsimp only at hresult hnative
  rw [hnative, NativeStorage.littlefsUnmount_mounted, Function.update_self, ← hresult, h]
  rfl

/-- One run after another. -/
theorem LittlefsRun.Follows.append {next : LittlefsRun} (h : run.Follows s)
    (hnext : next.Follows run.native) :
    ({ next with calls := run.calls ++ next.calls }).Follows s := by
  obtain ⟨hmounted, hformats⟩ := h
  obtain ⟨hmounted', hformats'⟩ := hnext
  rw [hmounted] at hmounted' hformats'
  exact ⟨by rw [List.foldl_append]; exact hmounted',
    formatsUnmounted_append.mpr ⟨hformats, hformats'⟩⟩

theorem follows_formatRun : (s.littlefsFormatRun r).Follows s := by
  unfold NativeStorage.littlefsFormatRun
  split
  next =>
    dsimp only
    split
    next => exact follows_unmountRun
    next hresult =>
      have hunmounted := unmountRun_unmounted (not_not.mp hresult)
      exact follows_unmountRun.append (follows_formatUnmountedRun hunmounted)
  next hmounted => exact follows_formatUnmountedRun ((Bool.not_eq_true _).mp hmounted)

end Driver

/-! ### The runs -/

/-- A step is the run of an operation. -/
theorem littlefs_step_run {s s' : LittlefsSystem} {a : LittlefsAction}
    (h : littlefsMachine.step s a = some s') : ∃ run, s' = s.after run ∧ run.Follows s.native := by
  cases a with
  | mount formatBlank fuel flash r =>
    obtain ⟨run, hrun, rfl⟩ := Option.map_eq_some_iff.mp h
    exact ⟨run, rfl, follows_mountRun hrun⟩
  | unmount r => exact ⟨_, (Option.some.inj h).symm, follows_unmountRun⟩
  | format r => exact ⟨_, (Option.some.inj h).symm, follows_formatRun⟩

/-- The record is what the driver has mounted. -/
theorem littlefs_follows {s : LittlefsSystem} (h : littlefsMachine.Reachable s) :
    s.native.mounted .littleFS = driverMounted s.calls ∧ FormatsUnmounted false s.calls := by
  apply h.invariant
  · rintro s ⟨hmounted, hcalls⟩
    rw [hmounted, hcalls]
    exact ⟨rfl, trivial⟩
  · rintro s a s' ⟨hmounted, hformats⟩ - hstep
    obtain ⟨run, rfl, hrun⟩ := littlefs_step_run hstep
    obtain ⟨hmounted', hformats'⟩ := hrun
    rw [hmounted] at hmounted' hformats'
    refine ⟨?_, formatsUnmounted_append.mpr ⟨hformats, hformats'⟩⟩
    rw [driverMounted, LittlefsSystem.after, List.foldl_append]
    exact hmounted'

theorem unmountRun_calls {s : NativeStorage} {r : StorageResults} :
    ∀ call ∈ (s.littlefsUnmountRun r).calls, ∃ result, call = .unregister result := by
  unfold NativeStorage.littlefsUnmountRun
  intro call hcall
  split at hcall
  next => exact absurd hcall List.not_mem_nil
  next => exact ⟨_, List.mem_singleton.mp hcall⟩

/-- Only `FormatLittleFS` calls `esp_littlefs_format`. -/
theorem littlefs_format_explicit {s s' : LittlefsSystem} {a : LittlefsAction}
    (h : littlefsMachine.step s a = some s') :
    ∃ calls, s'.calls = s.calls ++ calls ∧
      ∀ result, .format result ∈ calls → ∃ r, a = .format r := by
  cases a with
  | mount formatBlank fuel flash r =>
    obtain ⟨run, hrun, rfl⟩ := Option.map_eq_some_iff.mp h
    refine ⟨run.calls, rfl, fun result hformat => ?_⟩
    obtain ⟨format, result', hcall, -⟩ := (mountRun_safe hrun).calls _ hformat
    exact LittlefsCall.noConfusion hcall
  | unmount r =>
    refine ⟨_, congrArg LittlefsSystem.calls (Option.some.inj h).symm, fun result hformat => ?_⟩
    obtain ⟨result', hcall⟩ := unmountRun_calls _ hformat
    exact LittlefsCall.noConfusion hcall
  | format r =>
    exact ⟨_, congrArg LittlefsSystem.calls (Option.some.inj h).symm, fun _ _ => ⟨r, rfl⟩⟩

/-- Mounts and unmounts of a partition that holds data do not format it. -/
theorem littlefs_keeps_data {s : LittlefsSystem} (h : littlefsMachine.ReachableIn HoldsData s) :
    ∀ call ∈ s.calls, ¬ call.Formats := by
  apply h.invariant
  · rintro s ⟨-, hcalls⟩ call hcall
    rw [hcalls] at hcall
    exact absurd hcall List.not_mem_nil
  · intro s a s' hkept hdata hstep
    cases a with
    | mount formatBlank fuel flash r =>
      obtain ⟨run, hrun, rfl⟩ := Option.map_eq_some_iff.mp hstep
      intro call hcall
      rcases List.mem_append.mp hcall with hcall | hcall
      · exact hkept call hcall
      · obtain ⟨format, result, rfl, hblank⟩ := (mountRun_safe hrun).calls call hcall
        intro hformat
        -- a blank scan has seen every byte, the one with data too
        obtain ⟨-, p, hp, hfound⟩ := hblank hformat
        obtain ⟨i, hi, hbyte⟩ := hdata p hp
        exact hbyte (hfound.content i hi)
    | unmount r =>
      obtain rfl := Option.some.inj hstep
      intro call hcall
      rcases List.mem_append.mp hcall with hcall | hcall
      · exact hkept call hcall
      · obtain ⟨result, rfl⟩ := unmountRun_calls call hcall
        exact id
    | format r => exact absurd hdata id

/-- The offset does not wrap around within a chip. -/
theorem FlashAnswers.InChip.not_wraps {flash : FlashAnswers} (h : flash.InChip)
    (s : NativeStorage) (formatBlank : Int32) : ¬ s.Wraps formatBlank flash := by
  rintro ⟨-, -, p, hp, hwraps⟩
  exact absurd hwraps.size (Nat.not_lt.mpr (h p hp))

/-- **A mount formats no data.**  It ends, and what it formats it has found blank, byte for byte;
only `FormatLittleFS` formats otherwise, a volume that is not mounted; and mounts and unmounts
never format a partition that holds data. -/
theorem littlefs_mount_safe (s : NativeStorage) (formatBlank : Int32) (flash : FlashAnswers)
    (r : StorageResults) (hchip : flash.InChip) :
    s.MountsSafely formatBlank flash r ∧
    (∀ s, littlefsMachine.Reachable s →
      s.native.mounted .littleFS = driverMounted s.calls ∧ FormatsUnmounted false s.calls) ∧
    (∀ s a s', littlefsMachine.step s a = some s' →
      ∃ calls, s'.calls = s.calls ++ calls ∧
        ∀ result, .format result ∈ calls → ∃ r, a = .format r) ∧
    ∀ s, littlefsMachine.ReachableIn HoldsData s → ∀ call ∈ s.calls, ¬ call.Formats :=
  ⟨mountsSafely_iff.mpr (hchip.not_wraps s formatBlank),
    fun _ h => littlefs_follows h, fun _ _ _ h => littlefs_format_explicit h,
    fun _ h => littlefs_keeps_data h⟩

/-- A blank partition, all of which can be read. -/
def blankFlash (size : UInt32) : FlashAnswers where
  partition := some ⟨size, fun _ => 0xff⟩
  read _ := espOk

/-- A partition of 300 bytes. -/
theorem littlefs_mount_safe_short :
    storageReset.state.native.MountsSafely 1 (blankFlash 300) {} := by
  refine (littlefs_mount_safe _ _ _ _ fun p hp => ?_).1
  obtain rfl := Option.some.inj hp
  decide

end Esp32Mod
