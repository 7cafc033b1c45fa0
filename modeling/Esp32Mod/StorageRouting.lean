/-
Esp32Mod/StorageRouting.lean

The two storage volumes and the choice of the default one.  The native layer
(`storage.mod/filesystem.mod/native/esp32_filesystem.c`) mounts, unmounts and formats; the
BlitzMax modules keep a second record of what is mounted, updated from the results, and route
plain paths to a default backend.

`chosen` is what the default is meant to follow, and not in the source: the volume that has been
selected by name and is mounted still.  `SetDefaultStorageVolume` folds the name it is given by
`Trim` and `ToLower`, which are a parameter here.

Main results:

* `storage_routing` — the two records agree and the default is the one that is meant, unless a
  `FormatLittleFS` could not unmount the volume first;
* `storage_routing_drifted` — after such a call LittleFS is mounted and nothing is routed to it.
-/
import Esp32Mod.StepMachine
import Esp32Mod.Errors

namespace Esp32Mod

open StepMachine Machine

/-- `ESP32_STORAGE_LITTLEFS` and `ESP32_STORAGE_SD`. -/
inductive StorageVolume
  | littleFS
  | sd
  deriving DecidableEq

/-! ### The native layer -/

/-- `bmx_fs_mounted`, `bmx_fs_error` and whether `bmx_sd_card` is set. -/
structure NativeStorage where
  mounted : StorageVolume → Bool
  error : StorageVolume → Int32
  card : Bool

/-- What the drivers answer.  `blank` is `bmx_littlefs_blank`; a mount is told whether it may
format. -/
structure StorageResults where
  blank : Bool := false
  littlefsRegister : Bool → EspErr := fun _ => espOk
  littlefsUnregister : EspErr := espOk
  littlefsFormat : EspErr := espOk
  sdmmcMount : Bool → EspErr := fun _ => espOk
  sdcardUnmount : EspErr := espOk
  sdcardFormat : EspErr := espOk

namespace NativeStorage

/-- Record the error of a volume, which is also the result. -/
def bmxFsSetError (s : NativeStorage) (volume : StorageVolume) (error : Int32) :
    Int32 × NativeStorage :=
  (error, { s with error := Function.update s.error volume error })

/-- Write the mount flag of a volume. -/
def setMounted (s : NativeStorage) (volume : StorageVolume) (mounted : Bool) : NativeStorage :=
  { s with mounted := Function.update s.mounted volume mounted }

/-- What follows a driver call: the record if it succeeded, and its error. -/
def record (s : NativeStorage) (volume : StorageVolume) (mounted : Bool) (result : EspErr) :
    Int32 × NativeStorage :=
  let s := if result = espOk then s.setMounted volume mounted else s
  s.bmxFsSetError volume (if result = espOk then 0 else -result)

/-- A blank partition is formatted on the way if the caller allows it. -/
def bmxEsp32LittlefsMount (s : NativeStorage) (formatBlank : Bool) (r : StorageResults) :
    Int32 × NativeStorage :=
  if s.mounted .littleFS = true then s.bmxFsSetError .littleFS 0
  else s.record .littleFS true (r.littlefsRegister (formatBlank && r.blank))

/-- An unmounted volume is left alone, with result 0. -/
def bmxEsp32LittlefsUnmount (s : NativeStorage) (r : StorageResults) : Int32 × NativeStorage :=
  if s.mounted .littleFS = false then s.bmxFsSetError .littleFS 0
  else s.record .littleFS false r.littlefsUnregister

/-- `esp_littlefs_format`, and the mount after it. -/
def littlefsFormatUnmounted (s : NativeStorage) (r : StorageResults) : Int32 × NativeStorage :=
  if r.littlefsFormat = espOk then s.bmxEsp32LittlefsMount false r
  else s.bmxFsSetError .littleFS (-r.littlefsFormat)

/-- A mounted volume is unmounted first, and left as it is when that fails. -/
def bmxEsp32LittlefsFormat (s : NativeStorage) (r : StorageResults) : Int32 × NativeStorage :=
  if s.mounted .littleFS = true then
    let (result, s) := s.bmxEsp32LittlefsUnmount r
    if result ≠ 0 then (result, s) else s.littlefsFormatUnmounted r
  else s.littlefsFormatUnmounted r

/-- `sdmmc` tells whether the board profile has a slot. -/
def bmxEsp32SdcardMount (s : NativeStorage) (sdmmc formatIfFailed : Bool) (r : StorageResults) :
    Int32 × NativeStorage :=
  if s.mounted .sd = true then s.bmxFsSetError .sd 0
  else if sdmmc = true then
    let result := r.sdmmcMount formatIfFailed
    let s := if result = espOk then { s with card := true } else s
    s.record .sd true result
  else s.bmxFsSetError .sd (-espErrNotSupported)

/-- An unmounted card is left alone, with result 0. -/
def bmxEsp32SdcardUnmount (s : NativeStorage) (r : StorageResults) : Int32 × NativeStorage :=
  if s.mounted .sd = false then s.bmxFsSetError .sd 0
  else
    let s := if r.sdcardUnmount = espOk then { s with card := false } else s
    s.record .sd false r.sdcardUnmount

/-- Only a mounted card can be formatted, and it stays mounted. -/
def bmxEsp32SdcardFormat (s : NativeStorage) (r : StorageResults) : Int32 × NativeStorage :=
  if s.mounted .sd = false ∨ s.card = false then s.bmxFsSetError .sd (-espErrInvalidState)
  else s.bmxFsSetError .sd (if r.sdcardFormat = espOk then 0 else -r.sdcardFormat)

end NativeStorage

/-! ### The BlitzMax modules -/

/-- The globals of the three modules.  The default backend is one of the two volumes' or Null. -/
structure StorageState where
  native : NativeStorage
  littleFSMounted : Bool
  sdMounted : Bool
  defaultExplicit : Bool
  backend : Option StorageVolume

namespace StorageState

/-- What the modules take for mounted. -/
def mounted (s : StorageState) : StorageVolume → Bool
  | .littleFS => s.littleFSMounted
  | .sd => s.sdMounted

/-- Write the flag of a module. -/
def setMounted (s : StorageState) (volume : StorageVolume) (mounted : Bool) : StorageState :=
  match volume with
  | .littleFS => { s with littleFSMounted := mounted }
  | .sd => { s with sdMounted := mounted }

/-- `_ESP32StorageMountChanged`: losing the default volume ends its selection, and without a
selection LittleFS comes before SD. -/
def storageMountChanged (s : StorageState) (volume : StorageVolume) (mounted : Bool) :
    StorageState :=
  let s := s.setMounted volume mounted
  let s :=
    if mounted = false ∧ s.backend = some volume then { s with defaultExplicit := false } else s
  if s.defaultExplicit = true then s
  else
    { s with backend :=
        if s.littleFSMounted = true then some .littleFS
        else if s.sdMounted = true then some .sd
        else none }

/-- Select a volume by its protocol; `fold` is `Trim`, then `ToLower`. -/
def setDefaultStorageVolume (s : StorageState) (fold : String → String) (protocol : String) :
    Bool × StorageState :=
  let protocol := fold protocol
  if protocol = "littlefs" ∧ s.littleFSMounted = true then
    (true, { s with backend := some .littleFS, defaultExplicit := true })
  else if protocol = "sd" ∧ s.sdMounted = true then
    (true, { s with backend := some .sd, defaultExplicit := true })
  else (false, s)

/-- The module takes the volume for mounted exactly when the call succeeds. -/
def mountLittleFS (s : StorageState) (formatBlank : Bool) (r : StorageResults) :
    Bool × StorageState :=
  let (result, native) := s.native.bmxEsp32LittlefsMount formatBlank r
  let mounted := decide (result = 0)
  (mounted, { s with native }.storageMountChanged .littleFS mounted)

/-- A failing unmount leaves the module's flag. -/
def unmountLittleFS (s : StorageState) (r : StorageResults) : Bool × StorageState :=
  let (result, native) := s.native.bmxEsp32LittlefsUnmount r
  let s := { s with native }
  if result = 0 then (true, s.storageMountChanged .littleFS false) else (false, s)

/-- The volume is taken for mounted exactly when the call succeeds, whatever failed. -/
def formatLittleFS (s : StorageState) (r : StorageResults) : Bool × StorageState :=
  let (result, native) := s.native.bmxEsp32LittlefsFormat r
  let result := decide (result = 0)
  (result, { s with native }.storageMountChanged .littleFS result)

/-- As for LittleFS. -/
def mountSDCard (s : StorageState) (sdmmc formatIfMountFailed : Bool) (r : StorageResults) :
    Bool × StorageState :=
  let (result, native) := s.native.bmxEsp32SdcardMount sdmmc formatIfMountFailed r
  let mounted := decide (result = 0)
  (mounted, { s with native }.storageMountChanged .sd mounted)

/-- As for LittleFS. -/
def unmountSDCard (s : StorageState) (r : StorageResults) : Bool × StorageState :=
  let (result, native) := s.native.bmxEsp32SdcardUnmount r
  let s := { s with native }
  if result = 0 then (true, s.storageMountChanged .sd false) else (false, s)

/-- Formatting the card changes no flag. -/
def formatSDCard (s : StorageState) (r : StorageResults) : Bool × StorageState :=
  let (result, native) := s.native.bmxEsp32SdcardFormat r
  (decide (result = 0), { s with native })

end StorageState

/-! ### Calls -/

/-- A call of the three modules, with what the drivers answer to it. -/
inductive StorageCall
  | mountLittleFS (formatBlank : Bool) (r : StorageResults)
  | unmountLittleFS (r : StorageResults)
  | formatLittleFS (r : StorageResults)
  | mountSDCard (formatIfMountFailed : Bool) (r : StorageResults)
  | unmountSDCard (r : StorageResults)
  | formatSDCard (r : StorageResults)
  | setDefaultStorageVolume (protocol : String)

/-- The state, and the volume that was selected by name and is mounted still. -/
structure StorageSystem where
  state : StorageState
  chosen : Option StorageVolume

section Calls

variable (sdmmc : Bool) (fold : String → String)

/-- The result of a call, and the state after it. -/
def storageResult (s : StorageState) : StorageCall → Bool × StorageState
  | .mountLittleFS formatBlank r => s.mountLittleFS formatBlank r
  | .unmountLittleFS r => s.unmountLittleFS r
  | .formatLittleFS r => s.formatLittleFS r
  | .mountSDCard formatIfMountFailed r => s.mountSDCard sdmmc formatIfMountFailed r
  | .unmountSDCard r => s.unmountSDCard r
  | .formatSDCard r => s.formatSDCard r
  | .setDefaultStorageVolume protocol => s.setDefaultStorageVolume fold protocol

/-- A selection counts when the call succeeds, and ends when its volume is unmounted. -/
def storageCall (s : StorageSystem) (a : StorageCall) : StorageSystem :=
  let (result, state) := storageResult sdmmc fold s.state a
  let chosen :=
    match a with
    | .setDefaultStorageVolume protocol =>
      if result = false then s.chosen
      else if fold protocol = "littlefs" then some .littleFS else some .sd
    | _ => s.chosen
  ⟨state, chosen.filter state.native.mounted⟩

end Calls

/-- Nothing is mounted and nothing selected. -/
def storageReset : StorageSystem where
  state := {
    native := { mounted := fun _ => false, error := fun _ => 0, card := false }
    littleFSMounted := false
    sdMounted := false
    defaultExplicit := false
    backend := none }
  chosen := none

/-- Any calls in any order. -/
def storageMachine (sdmmc : Bool) (fold : String → String) : Machine StorageSystem StorageCall where
  init s := s = storageReset
  step s a := some (storageCall sdmmc fold s a)

/-! ### The routing that is meant -/

/-- LittleFS whenever it is mounted, otherwise SD. -/
def fallbackVolume (mounted : StorageVolume → Bool) : Option StorageVolume :=
  if mounted .littleFS = true then some .littleFS
  else if mounted .sd = true then some .sd else none

/-- The selection that is in force, and the fallback without one. -/
def routedVolume (mounted : StorageVolume → Bool) (chosen : Option StorageVolume) :
    Option StorageVolume :=
  chosen.or (fallbackVolume mounted)

/-- The modules know what is mounted, and the default is what it is meant to be. -/
structure StorageSystem.Agrees (s : StorageSystem) : Prop where
  mounted : s.state.mounted = s.state.native.mounted
  chosen : ∀ volume, s.chosen = some volume → s.state.native.mounted volume = true
  backend : s.state.backend = routedVolume s.state.native.mounted s.chosen
  explicit : s.state.defaultExplicit = s.chosen.isSome

/-- A `FormatLittleFS` that cannot unmount the mounted volume. -/
def StorageSystem.Drifts (s : StorageSystem) : StorageCall → Prop
  | .formatLittleFS r =>
    s.state.native.mounted .littleFS = true ∧ r.littlefsUnregister ≠ espOk
  | _ => False

theorem neg_eq_zero_iff {result : Int32} : -result = 0 ↔ result = 0 := by
  rw [← Int32.neg_inj, Int32.neg_neg, Int32.neg_zero]

/-! ### The mounts of the native layer

A mount and an unmount succeed exactly if the volume ends up as they want it. -/

namespace NativeStorage

variable {s : NativeStorage} {volume : StorageVolume} {mounted : Bool}

theorem mounted_eq_update (h : s.mounted volume = mounted) :
    s.mounted = Function.update s.mounted volume mounted := by
  rw [← h, Function.update_eq_self]

/-- Recording the result of a driver that is asked for what is not so yet. -/
theorem record_mounted (result : EspErr) (h : s.mounted volume = !mounted) :
    (s.record volume mounted result).2.mounted = Function.update s.mounted volume
      (if (s.record volume mounted result).1 = 0 then mounted else !mounted) := by
  unfold record
  by_cases hresult : result = espOk
  · simp only [hresult, if_true]
    rfl
  · have herror : ¬ -result = 0 := fun hzero => hresult (neg_eq_zero_iff.mp hzero)
    simp only [hresult, if_false, bmxFsSetError, herror]
    exact mounted_eq_update h

theorem littlefsMount_mounted (formatBlank : Bool) (r : StorageResults) :
    (s.bmxEsp32LittlefsMount formatBlank r).2.mounted = Function.update s.mounted .littleFS
      (decide ((s.bmxEsp32LittlefsMount formatBlank r).1 = 0)) := by
  unfold bmxEsp32LittlefsMount
  split
  next hmounted => exact mounted_eq_update hmounted
  next hmounted =>
    rw [record_mounted _ (Bool.eq_false_iff.mpr hmounted)]
    rfl

theorem littlefsUnmount_mounted (r : StorageResults) :
    (s.bmxEsp32LittlefsUnmount r).2.mounted = Function.update s.mounted .littleFS
      (decide ((s.bmxEsp32LittlefsUnmount r).1 ≠ 0)) := by
  unfold bmxEsp32LittlefsUnmount
  split
  next hmounted => exact mounted_eq_update hmounted
  next hmounted =>
    rw [record_mounted _ ((Bool.not_eq_false _).mp hmounted)]
    simp only [Bool.if_false_left, Bool.not_false, Bool.and_true, ne_eq, decide_not]

theorem littlefsUnmount_keeps {r : StorageResults} (h : (s.bmxEsp32LittlefsUnmount r).1 ≠ 0) :
    (s.bmxEsp32LittlefsUnmount r).2.mounted = s.mounted := by
  have hmounted : s.mounted .littleFS = true := by
    by_contra hunmounted
    exact h (by rw [bmxEsp32LittlefsUnmount, if_pos (Bool.eq_false_iff.mpr hunmounted)]; rfl)
  rw [littlefsUnmount_mounted, decide_eq_true h]
  exact (mounted_eq_update hmounted).symm

/-- An unmount of a mounted volume does what the driver does. -/
theorem littlefsUnmount_eq_zero_iff (h : s.mounted .littleFS = true) (r : StorageResults) :
    (s.bmxEsp32LittlefsUnmount r).1 = 0 ↔ r.littlefsUnregister = espOk := by
  simp only [bmxEsp32LittlefsUnmount, h, Bool.true_eq_false, if_false, record]
  by_cases hresult : r.littlefsUnregister = espOk
  · simp only [hresult, if_true, bmxFsSetError]
  · simp only [hresult, if_false, bmxFsSetError, iff_false]
    exact fun hzero => hresult (neg_eq_zero_iff.mp hzero)

/-- Formatting a volume that is not mounted mounts it, or fails. -/
theorem formatUnmounted_mounted (h : s.mounted .littleFS = false) (r : StorageResults) :
    (s.littlefsFormatUnmounted r).2.mounted = Function.update s.mounted .littleFS
      (decide ((s.littlefsFormatUnmounted r).1 = 0)) := by
  unfold littlefsFormatUnmounted
  split
  next => exact littlefsMount_mounted false r
  next hformat =>
    have herror : ¬ -r.littlefsFormat = 0 := fun hzero => hformat (neg_eq_zero_iff.mp hzero)
    simp only [bmxFsSetError, herror, decide_false]
    exact mounted_eq_update h

theorem littlefsFormat_mounted {r : StorageResults}
    (h : s.mounted .littleFS = true → r.littlefsUnregister = espOk) :
    (s.bmxEsp32LittlefsFormat r).2.mounted = Function.update s.mounted .littleFS
      (decide ((s.bmxEsp32LittlefsFormat r).1 = 0)) := by
  unfold bmxEsp32LittlefsFormat
  split
  next hmounted =>
    have hzero := (littlefsUnmount_eq_zero_iff hmounted r).mpr (h hmounted)
    have hunmounted := littlefsUnmount_mounted (s := s) r
    simp only [hzero, ne_eq, not_true_eq_false, decide_false, if_false] at hunmounted ⊢
    rw [formatUnmounted_mounted (by rw [hunmounted, Function.update_self]), hunmounted,
      Function.update_idem]
  next hmounted => exact formatUnmounted_mounted (Bool.eq_false_iff.mpr hmounted) r

/-- The volume that could not be unmounted is mounted, and the format has failed. -/
theorem littlefsFormat_stuck {r : StorageResults} (h : s.mounted .littleFS = true)
    (hstuck : r.littlefsUnregister ≠ espOk) :
    (s.bmxEsp32LittlefsFormat r).1 ≠ 0 ∧
      (s.bmxEsp32LittlefsFormat r).2.mounted .littleFS = true := by
  have herror : (s.bmxEsp32LittlefsUnmount r).1 ≠ 0 :=
    fun hzero => hstuck ((littlefsUnmount_eq_zero_iff h r).mp hzero)
  simp only [bmxEsp32LittlefsFormat, h, if_true, if_pos herror]
  refine ⟨herror, ?_⟩
  rw [littlefsUnmount_mounted, Function.update_self]
  exact decide_eq_true herror

theorem sdcardMount_mounted (sdmmc formatIfFailed : Bool) (r : StorageResults) :
    (s.bmxEsp32SdcardMount sdmmc formatIfFailed r).2.mounted = Function.update s.mounted .sd
      (decide ((s.bmxEsp32SdcardMount sdmmc formatIfFailed r).1 = 0)) := by
  unfold bmxEsp32SdcardMount
  split
  next hmounted => exact mounted_eq_update hmounted
  next hmounted =>
    have hmounted := Bool.eq_false_iff.mpr hmounted
    split
    next =>
      dsimp only
      split
      next => exact record_mounted (s := { s with card := true }) _ hmounted
      next => exact record_mounted _ hmounted
    next => exact mounted_eq_update hmounted

theorem sdcardUnmount_mounted (r : StorageResults) :
    (s.bmxEsp32SdcardUnmount r).2.mounted = Function.update s.mounted .sd
      (decide ((s.bmxEsp32SdcardUnmount r).1 ≠ 0)) := by
  unfold bmxEsp32SdcardUnmount
  split
  next hmounted => exact mounted_eq_update hmounted
  next hmounted =>
    have hmounted := (Bool.not_eq_false _).mp hmounted
    dsimp only
    split
    next =>
      rw [record_mounted (s := { s with card := false }) _ hmounted]
      simp only [Bool.if_false_left, Bool.not_false, Bool.and_true, ne_eq, decide_not]
    next =>
      rw [record_mounted _ hmounted]
      simp only [Bool.if_false_left, Bool.not_false, Bool.and_true, ne_eq, decide_not]

theorem sdcardUnmount_keeps {r : StorageResults} (h : (s.bmxEsp32SdcardUnmount r).1 ≠ 0) :
    (s.bmxEsp32SdcardUnmount r).2.mounted = s.mounted := by
  have hmounted : s.mounted .sd = true := by
    by_contra hunmounted
    exact h (by rw [bmxEsp32SdcardUnmount, if_pos (Bool.eq_false_iff.mpr hunmounted)]; rfl)
  rw [sdcardUnmount_mounted, decide_eq_true h]
  exact (mounted_eq_update hmounted).symm

theorem sdcardFormat_mounted (r : StorageResults) :
    (s.bmxEsp32SdcardFormat r).2.mounted = s.mounted := by
  unfold bmxEsp32SdcardFormat
  split <;> rfl

end NativeStorage

/-! ### The modules follow -/

section Modules

variable {s : StorageSystem} {native : NativeStorage} {volume : StorageVolume} {mounted : Bool}

@[simp] theorem setMounted_backend (s : StorageState) :
    (s.setMounted volume mounted).backend = s.backend := by
  cases volume <;> rfl

@[simp] theorem setMounted_explicit (s : StorageState) :
    (s.setMounted volume mounted).defaultExplicit = s.defaultExplicit := by
  cases volume <;> rfl

@[simp] theorem setMounted_native (s : StorageState) :
    (s.setMounted volume mounted).native = s.native := by
  cases volume <;> rfl

theorem setMounted_mounted (s : StorageState) :
    (s.setMounted volume mounted).mounted = Function.update s.mounted volume mounted := by
  funext v
  cases volume <;> cases v <;> rfl

/-- The modules' records after a change, whatever the default was. -/
theorem mountChanged_records (s : StorageState) :
    (s.storageMountChanged volume mounted).native = s.native ∧
      (s.storageMountChanged volume mounted).mounted =
        Function.update s.mounted volume mounted := by
  rw [← setMounted_mounted]
  unfold StorageState.storageMountChanged
  dsimp only
  split_ifs <;> exact ⟨setMounted_native s, rfl⟩

/-- Unmounting the default ends its selection. -/
theorem mountChanged_explicit (s : StorageState) :
    (s.storageMountChanged volume mounted).defaultExplicit =
      if mounted = false ∧ s.backend = some volume then false else s.defaultExplicit := by
  unfold StorageState.storageMountChanged
  simp only [setMounted_backend]
  by_cases hunmounted : mounted = false ∧ s.backend = some volume
  · rw [if_pos hunmounted, if_pos hunmounted]
    rfl
  · rw [if_neg hunmounted, if_neg hunmounted]
    split <;> exact setMounted_explicit s

/-- The default stays where it is selected, and else is found again. -/
theorem mountChanged_backend (s : StorageState) :
    (s.storageMountChanged volume mounted).backend =
      if (s.storageMountChanged volume mounted).defaultExplicit = true then s.backend
      else fallbackVolume (s.storageMountChanged volume mounted).mounted := by
  rw [mountChanged_explicit]
  unfold StorageState.storageMountChanged fallbackVolume StorageState.mounted
  simp only [setMounted_backend]
  split_ifs <;> simp_all

/-- A change of the mounts that the modules hear of. -/
theorem mountChanged_agrees (h : s.Agrees)
    (hnative : native.mounted = Function.update s.state.native.mounted volume mounted) :
    StorageSystem.Agrees ⟨{ s.state with native }.storageMountChanged volume mounted,
      s.chosen.filter
        ({ s.state with native }.storageMountChanged volume mounted).native.mounted⟩ := by
  have hrecords := @mountChanged_records volume mounted { s.state with native }
  rw [hrecords.1]
  have hexplicit : ({ s.state with native }.storageMountChanged volume mounted).defaultExplicit =
      (s.chosen.filter native.mounted).isSome := by
    rw [mountChanged_explicit]
    simp only [h.backend, h.explicit, hnative]
    cases hchosen : s.chosen with
    | none => simp
    | some w =>
      -- the chosen volume is forgotten if it is the one that goes
      by_cases hvolume : w = volume
      · subst hvolume
        cases mounted <;> simp [routedVolume, Option.filter]
      · simp [routedVolume, Option.filter, h.chosen w hchosen, hvolume]
  constructor
  case mounted =>
    rw [hrecords.2, hrecords.1]
    exact (congrArg (Function.update · volume mounted) h.mounted).trans hnative.symm
  case chosen =>
    intro w hw
    rw [hrecords.1]
    exact (Option.filter_eq_some_iff.mp hw).2
  case explicit => exact hexplicit
  case backend =>
    rw [mountChanged_backend, hexplicit, hrecords.1, hrecords.2]
    have hmounted : Function.update s.state.mounted volume mounted = native.mounted := by
      rw [h.mounted, hnative]
    change (if _ then _ else fallbackVolume (Function.update s.state.mounted volume mounted)) = _
    rw [hmounted]
    cases hfilter : s.chosen.filter native.mounted with
    | none => rfl
    | some w =>
      have hchosen := (Option.filter_eq_some_iff.mp hfilter).1
      simp only [Option.isSome_some, if_true, h.backend, hchosen, routedVolume, Option.some_or]

/-- A call of the native layer that leaves the mounts alone. -/
theorem keep_agrees (h : s.Agrees) (hnative : native.mounted = s.state.native.mounted) :
    StorageSystem.Agrees ⟨{ s.state with native }, s.chosen.filter native.mounted⟩ := by
  have hfilter : s.chosen.filter native.mounted = s.chosen := by
    cases hchosen : s.chosen with
    | none => rfl
    | some w => simp only [Option.filter, hnative, h.chosen w hchosen, if_true]
  rw [hfilter]
  exact ⟨h.mounted.trans hnative.symm, fun w hw => by rw [hnative, h.chosen w hw],
    by rw [hnative]; exact h.backend, h.explicit⟩

/-- A selection by name. -/
theorem select_agrees (h : s.Agrees) (hmounted : s.state.native.mounted volume = true) :
    StorageSystem.Agrees ⟨{ s.state with backend := some volume, defaultExplicit := true },
      (some volume).filter s.state.native.mounted⟩ := by
  rw [Option.filter_some_pos hmounted]
  exact ⟨h.mounted, fun w hw => by rw [← Option.some.inj hw, hmounted], rfl, rfl⟩

end Modules

/-! ### Every call, every run -/

section Calls

variable {sdmmc : Bool} {fold : String → String} {s : StorageSystem}

theorem setDefaultStorageVolume_cases (s : StorageState) (fold : String → String)
    (protocol : String) :
    (fold protocol = "littlefs" ∧ s.littleFSMounted = true ∧
        s.setDefaultStorageVolume fold protocol =
          (true, { s with backend := some .littleFS, defaultExplicit := true })) ∨
      (fold protocol = "sd" ∧ s.sdMounted = true ∧
        s.setDefaultStorageVolume fold protocol =
          (true, { s with backend := some .sd, defaultExplicit := true })) ∨
      s.setDefaultStorageVolume fold protocol = (false, s) := by
  unfold StorageState.setDefaultStorageVolume
  dsimp only
  split_ifs with hlittleFS hsd
  · exact .inl ⟨hlittleFS.1, hlittleFS.2, rfl⟩
  · exact .inr (.inl ⟨hsd.1, hsd.2, rfl⟩)
  · exact .inr (.inr rfl)

/-- LittleFS is mounted still, and the modules take it for unmounted. -/
theorem formatLittleFS_forgets {r : StorageResults} (h : s.Drifts (.formatLittleFS r)) :
    (storageCall sdmmc fold s (.formatLittleFS r)).state.native.mounted .littleFS = true ∧
      (storageCall sdmmc fold s (.formatLittleFS r)).state.mounted .littleFS = false := by
  obtain ⟨herror, hstuck⟩ := NativeStorage.littlefsFormat_stuck h.1 h.2
  simp only [storageCall, storageResult, StorageState.formatLittleFS, mountChanged_records,
    Function.update_self, herror, decide_false]
  exact ⟨hstuck, trivial⟩

/-- **One step.**  The records agree after a call exactly if it does not drift. -/
theorem storageCall_agrees_iff (h : s.Agrees) (a : StorageCall) :
    (storageCall sdmmc fold s a).Agrees ↔ ¬ s.Drifts a := by
  cases a with
  | mountLittleFS formatBlank r =>
    exact iff_of_true
      (mountChanged_agrees h (NativeStorage.littlefsMount_mounted formatBlank r)) not_false
  | unmountLittleFS r =>
    refine iff_of_true ?_ not_false
    have hmounted := NativeStorage.littlefsUnmount_mounted (s := s.state.native) r
    simp only [storageCall, storageResult, StorageState.unmountLittleFS]
    split
    next hzero =>
      simp only [hzero, ne_eq, not_true_eq_false, decide_false] at hmounted
      exact mountChanged_agrees h hmounted
    next hzero => exact keep_agrees h (NativeStorage.littlefsUnmount_keeps hzero)
  | formatLittleFS r =>
    -- the only call that can drift: its unmount fails, and it records one all the same
    by_cases hdrifts : s.Drifts (.formatLittleFS r)
    · refine iff_of_false (fun hagrees => ?_) (not_not.mpr hdrifts)
      obtain ⟨hstuck, hforgotten⟩ := formatLittleFS_forgets hdrifts
      exact Bool.true_eq_false.mp (hstuck.symm.trans
        ((congrFun hagrees.mounted .littleFS).symm.trans hforgotten))
    · refine iff_of_true (mountChanged_agrees h (NativeStorage.littlefsFormat_mounted ?_)) hdrifts
      intro hmounted
      by_contra hunregister
      exact hdrifts ⟨hmounted, hunregister⟩
  | mountSDCard formatIfMountFailed r =>
    exact iff_of_true
      (mountChanged_agrees h (NativeStorage.sdcardMount_mounted sdmmc formatIfMountFailed r))
      not_false
  | unmountSDCard r =>
    refine iff_of_true ?_ not_false
    have hmounted := NativeStorage.sdcardUnmount_mounted (s := s.state.native) r
    simp only [storageCall, storageResult, StorageState.unmountSDCard]
    split
    next hzero =>
      simp only [hzero, ne_eq, not_true_eq_false, decide_false] at hmounted
      exact mountChanged_agrees h hmounted
    next hzero => exact keep_agrees h (NativeStorage.sdcardUnmount_keeps hzero)
  | formatSDCard r =>
    exact iff_of_true (keep_agrees h (NativeStorage.sdcardFormat_mounted r)) not_false
  | setDefaultStorageVolume protocol =>
    refine iff_of_true ?_ not_false
    rcases setDefaultStorageVolume_cases s.state fold protocol with
      ⟨hname, hmounted, hset⟩ | ⟨hname, hmounted, hset⟩ | hset
    · simp only [storageCall, storageResult, hset, hname, if_true, Bool.true_eq_false, if_false]
      exact select_agrees h ((congrFun h.mounted .littleFS).symm.trans hmounted)
    · have hsd : ¬ "sd" = "littlefs" := by decide
      simp only [storageCall, storageResult, hset, hname, hsd, Bool.true_eq_false, if_false]
      exact select_agrees h ((congrFun h.mounted .sd).symm.trans hmounted)
    · simp only [storageCall, storageResult, hset, if_true]
      exact keep_agrees h rfl

theorem storageReset_agrees : storageReset.Agrees where
  mounted := by
    funext volume
    cases volume <;> rfl
  chosen := nofun
  backend := rfl
  explicit := rfl

theorem agrees_of_reachable
    (h : (storageMachine sdmmc fold).ReachableIn (fun s a => ¬ s.Drifts a) s) : s.Agrees := by
  refine h.invariant (fun s hs => by rw [hs]; exact storageReset_agrees) ?_
  intro s a s' hagrees hok hs
  rw [← Option.some.inj hs]
  exact (storageCall_agrees_iff hagrees a).mpr hok

/-- What agreement says of the default. -/
theorem StorageSystem.Agrees.default (h : s.Agrees) :
    (∀ volume, s.state.backend = some volume → s.state.native.mounted volume = true) ∧
      (s.state.backend = none → ∀ volume, s.state.native.mounted volume = false) := by
  rw [h.backend, routedVolume]
  cases hchosen : s.chosen with
  | some volume =>
    rw [Option.some_or]
    exact ⟨fun w hw => by rw [← Option.some.inj hw, h.chosen volume hchosen], nofun⟩
  | none =>
    rw [Option.none_or, fallbackVolume]
    split_ifs with hlittleFS hsd
    · exact ⟨fun w hw => by rw [← Option.some.inj hw, hlittleFS], nofun⟩
    · exact ⟨fun w hw => by rw [← Option.some.inj hw, hsd], nofun⟩
    · refine ⟨nofun, fun _ volume => ?_⟩
      cases volume with
      | littleFS => exact Bool.eq_false_iff.mpr hlittleFS
      | sd => exact Bool.eq_false_iff.mpr hsd

/-- **Storage routing.**  Without a format that could not unmount the volume first: the modules
take a volume for mounted exactly if it is; the default is a mounted volume, and Null only if there
is none; a volume selected by name stays the default while it is mounted, and without a selection
it is LittleFS if that is mounted, and SD otherwise.  And one such format is the end of it. -/
theorem storage_routing
    (h : (storageMachine sdmmc fold).ReachableIn (fun s a => ¬ s.Drifts a) s) :
    (∀ volume, s.state.mounted volume = s.state.native.mounted volume) ∧
      (∀ volume, s.state.backend = some volume → s.state.native.mounted volume = true) ∧
      (s.state.backend = none → ∀ volume, s.state.native.mounted volume = false) ∧
      (∀ volume, s.chosen = some volume → s.state.backend = some volume) ∧
      (s.chosen = none → s.state.backend = fallbackVolume s.state.native.mounted) ∧
      ∀ a, s.Drifts a →
        ∃ volume, (storageCall sdmmc fold s a).state.native.mounted volume = true ∧
          (storageCall sdmmc fold s a).state.mounted volume = false := by
  have hagrees := agrees_of_reachable h
  refine ⟨congrFun hagrees.mounted, hagrees.default.1, hagrees.default.2, ?_, ?_, ?_⟩
  · intro volume hchosen
    rw [hagrees.backend, hchosen, routedVolume, Option.some_or]
  · intro hchosen
    rw [hagrees.backend, hchosen, routedVolume, Option.none_or]
  · intro a hdrifts
    cases a with
    | formatLittleFS r => exact ⟨.littleFS, formatLittleFS_forgets hdrifts⟩
    | _ => exact hdrifts.elim

end Calls

/-- SD is mounted beside LittleFS, and selected. -/
theorem storage_routing_selected :
    ∃ s : StorageSystem, s.state.native.mounted .littleFS = true ∧
      s.state.backend = some .sd := by
  let first := storageCall true id storageReset (.mountLittleFS true {})
  let second := storageCall true id first (.mountSDCard false {})
  let third := storageCall true id second (.setDefaultStorageVolume "sd")
  have hfirst : (storageMachine true id).ReachableIn (fun s a => ¬ s.Drifts a) first :=
    .step (a := .mountLittleFS true {}) (.init rfl) (by exact not_false) rfl
  have hsecond : (storageMachine true id).ReachableIn (fun s a => ¬ s.Drifts a) second :=
    .step (a := .mountSDCard false {}) hfirst (by exact not_false) rfl
  have hthird : (storageMachine true id).ReachableIn (fun s a => ¬ s.Drifts a) third :=
    .step (a := .setDefaultStorageVolume "sd") hsecond (by exact not_false) rfl
  exact ⟨third, by decide, (storage_routing hthird).2.2.2.1 .sd (by decide)⟩

/-- The volume cannot be unmounted for a format; it is mounted still, and the default is Null. -/
theorem storage_routing_drifted : ∃ s, (storageMachine true id).Reachable s ∧
    s.state.native.mounted .littleFS = true ∧ s.state.littleFSMounted = false ∧
      s.state.backend = none := by
  obtain ⟨s, hs, hp⟩ := exists_reachable_of_run (M := storageMachine true id)
    [.mountLittleFS true {}, .formatLittleFS { littlefsUnregister := espErrInvalidState }]
    (fun s => decide (s.state.native.mounted .littleFS = true ∧ s.state.littleFSMounted = false ∧
      s.state.backend = none)) rfl (by decide)
  exact ⟨s, hs, of_decide_eq_true hp⟩

end Esp32Mod
