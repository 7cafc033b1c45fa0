/-
Esp32Mod/GattAtomic.lean

Whether the GATT values are an atomic store.  Each store and each snapshot is in one critical
section, so no read sees a mixture, and a write of the host reports its errors before it stores.

`set_value` looks at the flags, and whether the host is synchronised, only after its store
(`ReportsLate`).  The error then comes with a value that has been stored, and that may have been
read.  This is the only exception.

Main results:

* `gatt_values_atomic` — without such a call the values are an atomic store, and with one they
  are not;
* `gatt_values_late` — a `set_value` that reports an error, and the value that it has left.
-/
import Esp32Mod.GattValues

namespace Esp32Mod

open StepMachine Machine AtomicStore

namespace GattValues

/-! ### The statement -/

/-- `k` is the record of an identifier. -/
def Known (s : GattValues) (k : Fin 32) : Prop :=
  k.val < s.registered.table.characteristicCount.toNat

/-- What the read has found is the value most recently stored, at that moment, by a call that has
not reported an error. -/
structure ReadsRecent (s : GattValues) (r : GattRead) : Prop where
  length : r.length = (recent s.initial s.failed (s.stores.take r.stores) r.k).length
  bytes : ∀ bytes, r.bytes = some bytes →
    bytes = (recent s.initial s.failed (s.stores.take r.stores) r.k).drop r.offset

/-- The values are those of an atomic store. -/
structure Atomic (s : GattValues) : Prop where
  bounded : ∀ k, s.Known k → (s.gatt.characteristic k).length ≤ (s.gatt.characteristic k).capacity ∧
    (s.gatt.characteristic k).capacity ≤ 512
  value : ∀ k, s.Known k → (s.gatt.characteristic k).bytes = recent s.initial s.failed s.stores k
  reads : ∀ r ∈ s.reads, s.ReadsRecent r
  /-- A call that has reported an error has changed nothing. -/
  failed : ∀ n ∈ s.failed, Unchanging s.initial s.failed s.stores n

/-- A step changes values by one store only. -/
def StoresWhole (s s' : GattValues) : Prop :=
  (s'.stores = s.stores ∧ ∀ k, (s'.gatt.characteristic k).bytes = (s.gatt.characteristic k).bytes ∧
    (s'.gatt.characteristic k).length = (s.gatt.characteristic k).length) ∨
  ∃ e, s'.stores = s.stores ++ [e] ∧ s'.gatt = s.gatt.store e.key e.value

/-- `set_value` has changed the value, and finds now that it cannot notify anyone. -/
def ReportsLate (s : GattValues) : GattValueAction → Prop
  | .app => ∃ k number, s.app = .notifying k number ∧
      ((s.gatt.characteristic k).flags &&& (bmxBleGattNotify ||| bmxBleGattIndicate) = 0 ∨
        s.gatt.synced k = false) ∧
      ¬ Unchanging s.initial s.failed s.stores number
  | _ => False

variable {s s' : GattValues} {k : Fin 32} {bytes : List UInt8} {n : Nat}

/-! ### The values of the records -/

theorem bytes_length {c : BMXBLEGATTCharacteristic} (h : c.length.toNat ≤ 512) :
    c.bytes.length = c.length.toNat := by
  unfold BMXBLEGATTCharacteristic.bytes
  rw [List.length_take, Vector.length_toList]
  exact Nat.min_eq_left h

theorem length_store (c : BMXBLEGATTCharacteristic) (h : bytes.length ≤ 512) :
    (c.store bytes).length.toNat = bytes.length :=
  UInt16.toNat_ofNat_of_lt' (Nat.lt_of_le_of_lt h (by decide))

/-- What has been stored is read back. -/
theorem bytes_store (c : BMXBLEGATTCharacteristic) (h : bytes.length ≤ 512) :
    (c.store bytes).bytes = bytes := by
  have hstarts := (Buffer.starts_nil c.value).blit bytes (by rwa [List.length_nil, Nat.zero_add])
  unfold BMXBLEGATTCharacteristic.bytes
  rw [length_store c h]
  exact hstarts.toList_take

/-- The check after the store of `set_value`. -/
theorem notifySubscribers_ne_ok_iff (s : BleGatt) (k : Fin 32) :
    s.notifySubscribers k ≠ .ok ↔
      (s.characteristic k).flags &&& (bmxBleGattNotify ||| bmxBleGattIndicate) = 0 ∨
        s.synced k = false := by
  unfold BleGatt.notifySubscribers
  split
  next hflags => exact iff_of_true (by decide) (Or.inl hflags)
  next hflags =>
    split
    next hsynced => exact iff_of_true (by decide) (Or.inr hsynced)
    next hsynced => exact iff_of_false (not_not_intro rfl) (not_or.mpr ⟨hflags, hsynced⟩)

/-! ### The invariant -/

/-- The tables are as they were registered, up to values and handles. -/
structure SameShape (t t' : GattTable) : Prop where
  count : t'.characteristicCount = t.characteristicCount
  defs : t'.characteristicDefs = t.characteristicDefs
  identifier : ∀ k, (t'.characteristics k).identifier = (t.characteristics k).identifier
  capacity : ∀ k, (t'.characteristics k).capacity = (t.characteristics k).capacity
  flags : ∀ k, (t'.characteristics k).flags = (t.characteristics k).flags
  uuid : ∀ k, (t'.characteristics k).uuid = (t.characteristics k).uuid

theorem SameShape.store {t : GattTable} {g : BleGatt} (h : SameShape t g.table) (k : Fin 32)
    (bytes : List UInt8) : SameShape t (g.store k bytes).table :=
  ⟨h.count, h.defs,
    fun l => (g.store_other k bytes (·.identifier) (fun _ => rfl) l).trans (h.identifier l),
    fun l => (g.store_other k bytes (·.capacity) (fun _ => rfl) l).trans (h.capacity l),
    fun l => (g.store_other k bytes (·.flags) (fun _ => rfl) l).trans (h.flags l),
    fun l => (g.store_other k bytes (·.uuid) (fun _ => rfl) l).trans (h.uuid l)⟩

/-- The invariant without the tasks. -/
structure Core (s : GattValues) : Prop where
  registered : gattMachine.Reachable s.registered
  shape : SameShape s.registered.table s.gatt.table
  bounded : ∀ k, s.Known k → (s.gatt.characteristic k).length ≤ (s.gatt.characteristic k).capacity
  value : ∀ k, s.Known k → (s.gatt.characteristic k).bytes = recent s.initial s.failed s.stores k
  reads : ∀ r ∈ s.reads, r.stores ≤ s.stores.length ∧ s.ReadsRecent r
  failed : ∀ n ∈ s.failed, n < s.calls ∧ Unchanging s.initial s.failed s.stores n
  stores : ∀ e ∈ s.stores, e.number < s.calls

/-- The call has neither stored nor failed. -/
structure Fresh (s : GattValues) (n : Nat) : Prop where
  lt : n < s.calls
  not_failed : n ∉ s.failed
  not_stored : ∀ e ∈ s.stores, e.number ≠ n

/-- The bytes fit into the record. -/
def Accepts (s : GattValues) (k : Fin 32) (bytes : List UInt8) : Prop :=
  s.Known k ∧ bytes.length ≤ (s.registered.table.characteristics k).capacity.toNat

/-- What the application's call knows of the values. -/
def AppOk (s : GattValues) : GattAppTask → Prop
  | .idle => True
  | .storing k bytes _ number => s.Accepts k bytes ∧ s.Fresh number
  | .notifying _ number => number < s.calls
  | .reading k _ number => s.Known k ∧ s.Fresh number

/-- What the host's access knows of the values. -/
def HostOk (s : GattValues) : GattHostTask → Prop
  | .idle => True
  | .storing k bytes number => s.Accepts k bytes ∧ s.Fresh number
  | .reading k request number => s.Known k ∧ s.Fresh number ∧
      ∃ context, request.context = some context ∧ context.op = .readChr

end GattValues

/-- The number of the application's call. -/
def GattAppTask.number : GattAppTask → Option Nat
  | .idle => none
  | .storing _ _ _ number | .notifying _ number | .reading _ _ number => some number

/-- The number of the host's access. -/
def GattHostTask.number : GattHostTask → Option Nat
  | .idle => none
  | .storing _ _ number | .reading _ _ number => some number

namespace GattValues

/-- The two calls know what they need, and are two. -/
structure Inv (s : GattValues) : Prop where
  core : s.Core
  app : s.AppOk s.app
  host : s.HostOk s.host
  apart : ∀ n, s.app.number = some n → s.host.number ≠ some n

variable {s s' : GattValues} {k : Fin 32} {bytes : List UInt8} {n : Nat}

/-- What a task relies on concerns its own call. -/
theorem AppOk.mono {task : GattAppTask} (h : s.AppOk task) (hregistered : s'.registered = s.registered)
    (hcalls : s.calls ≤ s'.calls)
    (hfresh : ∀ n, task.number = some n → s.Fresh n → s'.Fresh n) : s'.AppOk task := by
  cases task with
  | idle => trivial
  | storing k bytes notifySubscribers number =>
    refine ⟨?_, hfresh number rfl h.2⟩
    unfold Accepts Known
    rw [hregistered]
    exact h.1
  | notifying k number => exact Nat.lt_of_lt_of_le h hcalls
  | reading k a number =>
    refine ⟨?_, hfresh number rfl h.2⟩
    unfold Known
    rw [hregistered]
    exact h.1

theorem HostOk.mono {task : GattHostTask} (h : s.HostOk task)
    (hregistered : s'.registered = s.registered)
    (hfresh : ∀ n, task.number = some n → s.Fresh n → s'.Fresh n) : s'.HostOk task := by
  cases task with
  | idle => trivial
  | storing k bytes number =>
    refine ⟨?_, hfresh number rfl h.2⟩
    unfold Accepts Known
    rw [hregistered]
    exact h.1
  | reading k request number =>
    obtain ⟨hk, hnumber, hrequest⟩ := h
    refine ⟨?_, hfresh number rfl hnumber, hrequest⟩
    unfold Known
    rw [hregistered]
    exact hk

namespace Core

theorem well (h : s.Core) : s.registered.table.WellFormed :=
  (GattSystem.reachable_keeps h.registered).1

theorem capacity_le (h : s.Core) (hk : s.Known k) :
    (s.registered.table.characteristics k).capacity.toNat ≤ 512 :=
  UInt16.le_iff_toNat_le.mp (h.well.capacity_le k hk)

theorem length_le (h : s.Core) (hk : s.Known k) : (s.gatt.characteristic k).length.toNat ≤ 512 := by
  have hlength := UInt16.le_iff_toNat_le.mp (h.bounded k hk)
  have hcapacity := h.capacity_le hk
  rw [← h.shape.capacity k] at hcapacity
  exact hlength.trans hcapacity

theorem atomic (h : s.Core) : s.Atomic := by
  refine ⟨fun k hk => ⟨h.bounded k hk, ?_⟩, h.value, fun r hr => (h.reads r hr).2,
    fun n hn => (h.failed n hn).2⟩
  show (s.gatt.table.characteristics k).capacity ≤ 512
  rw [h.shape.capacity k]
  exact h.well.capacity_le k hk

/-! ### What the pieces of a step keep -/

theorem called (h : s.Core) : s.called.Core :=
  ⟨h.registered, h.shape, h.bounded, h.value,
    fun r hr => ⟨(h.reads r hr).1, (h.reads r hr).2.length, (h.reads r hr).2.bytes⟩,
    fun n hn => ⟨Nat.lt_succ_of_lt (h.failed n hn).1, (h.failed n hn).2⟩,
    fun e he => Nat.lt_succ_of_lt (h.stores e he)⟩

/-- **A call that has changed nothing may report an error.** -/
theorem fail (h : s.Core) (hlt : n < s.calls)
    (hunchanging : Unchanging s.initial s.failed s.stores n) : (s.fail n).Core := by
  refine ⟨h.registered, h.shape, h.bounded, ?_, ?_, ?_, h.stores⟩
  · intro k hk
    exact (h.value k hk).trans (congrFun hunchanging.recent_fail k).symm
  · intro r hr
    obtain ⟨hcount, hlength, hbytes⟩ := h.reads r hr
    have hsame := congrFun (hunchanging.take r.stores).recent_fail r.k
    refine ⟨hcount, ?_, ?_⟩
    · exact hlength.trans (congrArg List.length hsame.symm)
    · intro bytes hsome
      exact (hbytes bytes hsome).trans (congrArg (List.drop r.offset) hsame.symm)
  · intro m hm
    rcases List.mem_cons.mp hm with rfl | hm
    · exact ⟨hlt, hunchanging.fail hunchanging⟩
    · exact ⟨(h.failed m hm).1, hunchanging.fail (h.failed m hm).2⟩

/-- **A whole value is stored.** -/
theorem store (h : s.Core) (haccepts : s.Accepts k bytes) (hfresh : s.Fresh n) :
    (s.store k bytes n).Core := by
  obtain ⟨hk, hfits⟩ := haccepts
  have hsmall : bytes.length ≤ 512 := hfits.trans (h.capacity_le hk)
  have hshape := h.shape.store k bytes
  refine ⟨h.registered, hshape, ?_, ?_, ?_, ?_, ?_⟩
  · intro l hl
    show ((s.gatt.store k bytes).characteristic l).length ≤
      ((s.gatt.store k bytes).characteristic l).capacity
    rcases eq_or_ne l k with rfl | hne
    · -- the value that is stored, and then the others, which keep theirs
      have hcapacity := hshape.capacity l
      rw [show ((s.gatt.store l bytes).characteristic l).capacity = _ from hcapacity,
        BleGatt.store_self, UInt16.le_iff_toNat_le, length_store _ hsmall]
      exact hfits
    · rw [BleGatt.store_of_ne _ _ _ hne]
      exact h.bounded l hl
  · intro l hl
    show ((s.gatt.store k bytes).characteristic l).bytes =
      recent s.initial s.failed (s.stores ++ [⟨n, k, bytes⟩]) l
    rcases eq_or_ne l k with rfl | hne
    · rw [BleGatt.store_self, bytes_store _ hsmall]
      exact (recent_concat_self (e := ⟨n, l, bytes⟩) hfresh.not_failed).symm
    · rw [BleGatt.store_of_ne _ _ _ hne, recent_concat_of_ne hne]
      exact h.value l hl
  · intro r hr
    obtain ⟨hcount, hlength, hbytes⟩ := h.reads r hr
    -- a read has seen the stores before it
    have htake : (s.store k bytes n).stores.take r.stores = s.stores.take r.stores :=
      List.take_append_of_le_length hcount
    have hgrown : s.stores.length ≤ (s.store k bytes n).stores.length :=
      (List.sublist_append_left ..).length_le
    refine ⟨hcount.trans hgrown, ?_, ?_⟩
    · rw [htake]
      exact hlength
    · rw [htake]
      exact hbytes
  · intro m hm
    refine ⟨(h.failed m hm).1, (h.failed m hm).2.concat ?_⟩
    rintro rfl
    exact hfresh.not_failed hm
  · intro e he
    rcases List.mem_append.mp he with he | he
    · exact h.stores e he
    · obtain rfl := List.mem_singleton.mp he
      exact hfresh.lt

/-- **A snapshot is the value most recently stored.** -/
theorem log (h : s.Core) (hk : s.Known k) {offset : Nat} {bytes : Option (List UInt8)}
    (hbytes : ∀ b, bytes = some b → b = (s.gatt.characteristic k).bytes.drop offset) :
    (s.log k offset bytes).Core := by
  refine ⟨h.registered, h.shape, h.bounded, h.value, ?_, h.failed, h.stores⟩
  intro r hr
  rcases List.mem_append.mp hr with hr | hr
  · exact ⟨(h.reads r hr).1, (h.reads r hr).2.length, (h.reads r hr).2.bytes⟩
  · obtain rfl := List.mem_singleton.mp hr
    have hvalue := h.value k hk
    refine ⟨Nat.le_refl _, ?_, ?_⟩
    · show (s.gatt.characteristic k).length.toNat =
        (recent s.initial s.failed (s.stores.take s.stores.length) k).length
      rw [List.take_length, ← hvalue, bytes_length (h.length_le hk)]
    · show ∀ b, bytes = some b →
        b = (recent s.initial s.failed (s.stores.take s.stores.length) k).drop offset
      rw [List.take_length, ← hvalue]
      exact hbytes

theorem sync (h : s.Core) (initialized ready : Bool) (valueHandles : Fin 32 → UInt16) :
    Core { s with gatt := ⟨s.gatt.table.assign valueHandles, initialized, ready⟩ } :=
  ⟨h.registered, ⟨h.shape.count, h.shape.defs, h.shape.identifier, h.shape.capacity,
    h.shape.flags, h.shape.uuid⟩, h.bounded, h.value,
    fun r hr => ⟨(h.reads r hr).1, (h.reads r hr).2.length, (h.reads r hr).2.bytes⟩,
    h.failed, h.stores⟩

end Core

theorem Core.tasks (h : s.Core) (app : GattAppTask) (host : GattHostTask) :
    Core { s with app := app, host := host } :=
  ⟨h.registered, h.shape, h.bounded, h.value,
    fun r hr => ⟨(h.reads r hr).1, (h.reads r hr).2.length, (h.reads r hr).2.bytes⟩,
    h.failed, h.stores⟩

/-! ### Calls that have not stored -/

namespace Fresh

variable {m : Nat}

theorem called (h : s.Fresh n) : s.called.Fresh n :=
  ⟨Nat.lt_succ_of_lt h.lt, h.not_failed, h.not_stored⟩

theorem fail (h : s.Fresh n) (hne : n ≠ m) : (s.fail m).Fresh n := by
  refine ⟨h.lt, ?_, h.not_stored⟩
  intro hmem
  rcases List.mem_cons.mp hmem with heq | hmem
  · exact hne heq
  · exact h.not_failed hmem

theorem store (h : s.Fresh n) (hne : n ≠ m) (k : Fin 32) (bytes : List UInt8) :
    (s.store k bytes m).Fresh n := by
  refine ⟨h.lt, h.not_failed, ?_⟩
  intro e he
  rcases List.mem_append.mp he with he | he
  · exact h.not_stored e he
  · obtain rfl := List.mem_singleton.mp he
    exact hne.symm

theorem unchanging (h : s.Fresh n) : Unchanging s.initial s.failed s.stores n :=
  unchanging_of_fresh h.not_stored

end Fresh

/-- The number of a new call. -/
theorem Core.fresh (h : s.Core) : s.called.Fresh s.calls := by
  refine ⟨Nat.lt_succ_self _, ?_, ?_⟩
  · intro hmem
    exact Nat.lt_irrefl _ (h.failed _ hmem).1
  · intro e he heq
    exact Nat.lt_irrefl _ (heq ▸ h.stores e he)

theorem AppOk.lt {task : GattAppTask} (h : s.AppOk task) (hn : task.number = some n) :
    n < s.calls := by
  cases task with
  | idle => exact absurd hn (Option.some_ne_none n).symm
  | storing k bytes notifySubscribers number => exact Option.some.inj hn ▸ h.2.lt
  | notifying k number => exact Option.some.inj hn ▸ h
  | reading k a number => exact Option.some.inj hn ▸ h.2.lt

theorem HostOk.lt {task : GattHostTask} (h : s.HostOk task) (hn : task.number = some n) :
    n < s.calls := by
  cases task with
  | idle => exact absurd hn (Option.some_ne_none n).symm
  | storing k bytes number => exact Option.some.inj hn ▸ h.2.lt
  | reading k request number => exact Option.some.inj hn ▸ h.2.1.lt

/-! ### The lookup -/

theorem lookup_eq_some_iff {t : GattTable} (hcount : t.characteristicCount.toNat ≤ 32)
    {identifier : UInt16} : bmxBleGattCharacteristic t identifier = some k ↔
      identifier.toNat = k.val + 1 ∧ k.val < t.characteristicCount.toNat := by
  have hzero : identifier = 0 ↔ identifier.toNat = 0 := UInt16.toNat_inj.symm
  unfold bmxBleGattCharacteristic
  split
  next hrefused =>
    rw [hzero, UInt16.lt_iff_toNat_lt] at hrefused
    apply iff_of_false (Option.some_ne_none k).symm
    omega
  next hknown =>
    rw [hzero, UInt16.lt_iff_toNat_lt] at hknown
    rw [dif_pos (by omega), Option.some.injEq, Fin.ext_iff]
    dsimp only
    omega

theorem Core.lookup (h : s.Core) {identifier : UInt16}
    (hk : bmxBleGattCharacteristic s.gatt.table identifier = some k) : s.Known k := by
  have hcount := h.well.count_le
  rw [← h.shape.count] at hcount
  have hlt := ((lookup_eq_some_iff hcount).mp hk).2
  unfold Known
  rwa [← h.shape.count]

theorem GattSetArgs_bytes_length (a : GattSetArgs) : a.bytes.length ≤ a.valueLength.toNat := by
  unfold GattSetArgs.bytes
  split
  · exact Nat.zero_le _
  · rw [List.length_map, List.length_range]

/-- What `set_value` accepts fits. -/
theorem accept_fits {t : GattTable} {a : GattSetArgs} (hk : a.accept t = some k) :
    bmxBleGattCharacteristic t (gattIdentifier a.characteristicId) = some k ∧
      a.bytes.length ≤ (t.characteristics k).capacity.toNat := by
  unfold GattSetArgs.accept at hk
  split at hk
  · exact absurd hk (Option.some_ne_none k).symm
  next l hlookup =>
    split at hk
    · exact absurd hk (Option.some_ne_none k).symm
    next hfits =>
      obtain rfl := Option.some.inj hk
      exact ⟨hlookup, (GattSetArgs_bytes_length a).trans (Nat.not_lt.mp (not_or.mp hfits).1)⟩

/-- What a peer writes fits: a packet that is too long is refused. -/
theorem access_fits {r : GattRequest} {context : BleGattAccessCtxt}
    (hcontext : r.context = some context) (hop : context.op = .writeChr)
    {c : BMXBLEGATTCharacteristic} (hresult : (r.access (some c)).result.isSome ≠ true) :
    context.om.data.length ≤ c.capacity.toNat := by
  by_contra hlong
  apply hresult
  have hcapacity : c.capacity < context.om.pktlen := by
    rw [UInt16.lt_iff_toNat_lt, OsMbuf.toNat_pktlen]
    exact Nat.not_le.mp hlong
  unfold GattRequest.access bmxBleGattAccess bmxBleGattWrite
  rw [hcontext]
  simp only [hop, hcapacity, if_true, Option.isSome_some]

theorem Core.accept (h : s.Core) {a : GattSetArgs} (hk : a.accept s.gatt.table = some k) :
    s.Accepts k a.bytes := by
  obtain ⟨hlookup, hfits⟩ := accept_fits hk
  refine ⟨h.lookup hlookup, ?_⟩
  rwa [← h.shape.capacity]

/-- The argument of a registered callback is a record. -/
theorem Core.argument (h : s.Core) {service : Fin 8} {j : Fin 9}
    (hcb : (s.gatt.table.characteristicDefs service j).accessCb = true)
    (harg : (s.gatt.table.characteristicDefs service j).arg = some k) : s.Known k := by
  rw [h.shape.defs] at hcb harg
  by_cases hfilled : s.registered.table.Filled service j
  · obtain ⟨l, hl, -, hdef⟩ := h.well.defs_filled service j hfilled
    rw [hdef] at harg
    exact Option.some.inj harg ▸ hl
  · rw [h.well.defs_zero service j hfilled] at hcb
    exact absurd hcb (by decide)

/-! ### The steps -/

namespace Inv

theorem enter_failed (h : s.Inv) : (s.called.fail s.calls).Inv := by
  have hfresh := h.core.fresh
  refine ⟨h.core.called.fail hfresh.lt hfresh.unchanging, ?_, ?_, h.apart⟩
  · refine h.app.mono rfl (Nat.le_succ _) fun n hn hold => hold.called.fail ?_
    exact Nat.ne_of_lt (h.app.lt hn)
  · refine h.host.mono rfl fun n hn hold => hold.called.fail ?_
    exact Nat.ne_of_lt (h.host.lt hn)

theorem enter_app (h : s.Inv) {task : GattAppTask} (htask : s.called.AppOk task)
    (hnumber : task.number = some s.calls) : Inv { s.called with app := task } := by
  refine ⟨h.core.called.tasks task s.host, ?_, ?_, ?_⟩
  · exact htask.mono rfl (Nat.le_refl _) fun n _ hold => ⟨hold.lt, hold.not_failed, hold.not_stored⟩
  · exact h.host.mono rfl fun n _ hold =>
      ⟨hold.called.lt, hold.not_failed, hold.not_stored⟩
  · intro n hn hhost
    have hlt := h.host.lt hhost
    have heq : some s.calls = some n := hnumber.symm.trans hn
    exact absurd (Option.some.inj heq) (Nat.ne_of_gt hlt)

theorem enter_host (h : s.Inv) {task : GattHostTask} (htask : s.called.HostOk task)
    (hnumber : task.number = some s.calls) : Inv { s.called with host := task } := by
  refine ⟨h.core.called.tasks s.app task, ?_, ?_, ?_⟩
  · exact h.app.mono rfl (Nat.le_succ _) fun n _ hold =>
      ⟨hold.called.lt, hold.not_failed, hold.not_stored⟩
  · exact htask.mono rfl fun n _ hold => ⟨hold.lt, hold.not_failed, hold.not_stored⟩
  · intro n hn hhost
    have hlt := h.app.lt hn
    have heq : some s.calls = some n := hnumber.symm.trans hhost
    exact absurd (Option.some.inj heq) (Nat.ne_of_gt hlt)

theorem enterSet (h : s.Inv) (a : GattSetArgs) : (s.enterSet a).Inv := by
  unfold GattValues.enterSet
  split
  · exact h.enter_failed
  next k hk => exact h.enter_app ⟨h.core.accept hk, h.core.fresh⟩ rfl

theorem enterGet (h : s.Inv) (a : GattGetArgs) : (s.enterGet a).Inv := by
  unfold GattValues.enterGet
  split
  · exact h.enter_failed
  next k hk =>
    split
    · exact h.enter_failed
    · exact h.enter_app ⟨h.core.lookup hk, h.core.fresh⟩ rfl

theorem enterAccess (h : s.Inv) (request : GattRequest) {argument : Option (Fin 32)}
    (hargument : ∀ k, argument = some k → s.Known k) : (s.enterAccess request argument).Inv := by
  unfold GattValues.enterAccess
  split
  next k context hcontext =>
    have hk := hargument k rfl
    split
    next hop => exact h.enter_host ⟨hk, h.core.fresh, context, hcontext, hop⟩ rfl
    next hop =>
      split
      · exact h.enter_failed
      next hresult =>
        refine h.enter_host ⟨⟨hk, ?_⟩, h.core.fresh⟩ rfl
        have hfits := access_fits hcontext hop hresult
        rwa [BleGatt.characteristic, h.core.shape.capacity] at hfits
    next hop => exact h.enter_failed
  · exact h.enter_failed

/-- The store of `set_value`, after which the task is `task`. -/
theorem store_app (h : s.Inv) {notifySubscribers : Int32}
    (happ : s.app = .storing k bytes notifySubscribers n) {task : GattAppTask}
    (htask : task = .idle ∨ task = .notifying k n) :
    Inv { s.store k bytes n with app := task } := by
  have hpending := h.app
  rw [happ] at hpending
  have hapart := h.apart n (happ ▸ rfl)
  refine ⟨(h.core.store hpending.1 hpending.2).tasks task s.host, ?_, ?_, ?_⟩
  · rcases htask with rfl | rfl
    · trivial
    · exact hpending.2.lt
  · refine h.host.mono rfl fun m hm hold => ?_
    have hstored := hold.store (m := n) (fun heq => hapart (heq ▸ hm)) k bytes
    exact ⟨hstored.lt, hstored.not_failed, hstored.not_stored⟩
  · intro m hm
    rcases htask with rfl | rfl
    · exact absurd hm (Option.some_ne_none m).symm
    · exact (Option.some.inj hm : n = m) ▸ hapart

theorem store_host (h : s.Inv) (hhost : s.host = .storing k bytes n) :
    Inv { s.store k bytes n with host := .idle } := by
  have hpending := h.host
  rw [hhost] at hpending
  refine ⟨(h.core.store hpending.1 hpending.2).tasks s.app .idle, ?_, trivial, ?_⟩
  · refine h.app.mono rfl (Nat.le_refl _) fun m hm hold => ?_
    have hstored := hold.store (m := n)
      (fun heq => h.apart m hm (by rw [hhost, heq]; rfl)) k bytes
    exact ⟨hstored.lt, hstored.not_failed, hstored.not_stored⟩
  · intro m _ hm
    exact absurd hm (Option.some_ne_none m).symm

/-- The application's call ends. -/
theorem end_app (h : s.Inv) : Inv { s with app := .idle } := by
  refine ⟨h.core.tasks .idle s.host, trivial, ?_, ?_⟩
  · exact h.host.mono rfl fun m _ hold => ⟨hold.lt, hold.not_failed, hold.not_stored⟩
  · intro m hm
    exact absurd hm (Option.some_ne_none m).symm

theorem end_host (h : s.Inv) : Inv { s with host := .idle } := by
  refine ⟨h.core.tasks s.app .idle, ?_, trivial, ?_⟩
  · exact h.app.mono rfl (Nat.le_refl _) fun m _ hold =>
      ⟨hold.lt, hold.not_failed, hold.not_stored⟩
  · intro m _ hm
    exact absurd hm (Option.some_ne_none m).symm

/-- A call that is no longer under way reports its error. -/
theorem fail (h : s.Inv) (hlt : n < s.calls)
    (hunchanging : Unchanging s.initial s.failed s.stores n) (happ : s.app.number ≠ some n)
    (hhost : s.host.number ≠ some n) : (s.fail n).Inv := by
  refine ⟨h.core.fail hlt hunchanging, ?_, ?_, h.apart⟩
  · exact h.app.mono rfl (Nat.le_refl _) fun m hm hold => hold.fail (m := n) fun heq =>
      happ (heq ▸ hm)
  · exact h.host.mono rfl fun m hm hold => hold.fail (m := n) fun heq =>
      hhost (heq ▸ hm)

theorem log (h : s.Inv) (hk : s.Known k) {offset : Nat} {bytes : Option (List UInt8)}
    (hbytes : ∀ b, bytes = some b → b = (s.gatt.characteristic k).bytes.drop offset) :
    (s.log k offset bytes).Inv := by
  refine ⟨h.core.log hk hbytes, ?_, ?_, h.apart⟩
  · exact h.app.mono rfl (Nat.le_refl _) fun m _ hold =>
      ⟨hold.lt, hold.not_failed, hold.not_stored⟩
  · exact h.host.mono rfl fun m _ hold => ⟨hold.lt, hold.not_failed, hold.not_stored⟩

theorem stepApp (h : s.Inv) (hok : ¬ s.ReportsLate .app) (hstep : s.stepApp = some s') :
    s'.Inv := by
  unfold GattValues.stepApp at hstep
  split at hstep
  · exact absurd hstep (Option.some_ne_none s').symm
  next k bytes notifySubscribers n happ =>
    obtain rfl := Option.some.inj hstep
    apply h.store_app happ
    split
    · exact Or.inl rfl
    · exact Or.inr rfl
  next k n happ =>
    obtain rfl := Option.some.inj hstep
    dsimp only
    split
    next hlate =>
      have hpending := h.app
      rw [happ] at hpending
      -- a failure after the store: the condition says that it has not changed the value
      refine h.end_app.fail hpending ?_ (Option.some_ne_none n).symm (h.apart n (happ ▸ rfl))
      by_contra hchanged
      exact hok ⟨k, n, happ, (notifySubscribers_ne_ok_iff s.gatt k).mp hlate, hchanged⟩
    · exact h.end_app
  next k a n happ =>
    obtain rfl := Option.some.inj hstep
    have hpending := h.app
    rw [happ] at hpending
    -- what a read copies is what is stored in that moment
    have hbytes : ∀ b, (s.gatt.readValue k a).bytes = some b →
        b = (s.gatt.characteristic k).bytes.drop 0 := by
      intro b hb
      unfold BleGatt.readValue at hb
      dsimp only at hb
      split at hb
      · exact (Option.some.inj hb).symm
      · exact absurd hb (Option.some_ne_none b).symm
    have hlogged := h.log hpending.1 hbytes
    dsimp only
    split
    · exact hlogged.end_app.fail hpending.2.lt hpending.2.unchanging (Option.some_ne_none n).symm
        (h.apart n (happ ▸ rfl))
    · exact hlogged.end_app

theorem stepHost (h : s.Inv) (hstep : s.stepHost = some s') : s'.Inv := by
  unfold GattValues.stepHost at hstep
  split at hstep
  · exact absurd hstep (Option.some_ne_none s').symm
  next k bytes n hhost =>
    obtain rfl := Option.some.inj hstep
    exact h.store_host hhost
  next k request n hhost =>
    obtain rfl := Option.some.inj hstep
    have hpending := h.host
    rw [hhost] at hpending
    obtain ⟨hk, hfresh, context, hcontext, hop⟩ := hpending
    split
    · refine h.end_host.fail hfresh.lt hfresh.unchanging ?_ (Option.some_ne_none n).symm
      intro happ
      exact h.apart n happ (hhost ▸ rfl)
    next hresult =>
      refine h.end_host.log hk ?_
      intro b hb
      obtain rfl := Option.some.inj hb
      unfold GattRequest.access bmxBleGattAccess at hresult ⊢
      rw [hcontext] at hresult ⊢
      simp only [hop] at hresult ⊢
      split at hresult
      · exact absurd rfl hresult
      next hoffset =>
        rw [if_neg hoffset]
        split at hresult
        next happends =>
          rw [if_pos happends]
          rfl
        next happends => exact absurd rfl hresult

theorem step {a : GattValueAction} (h : s.Inv) (hok : ¬ s.ReportsLate a)
    (hstep : s.step a = some s') : s'.Inv := by
  cases a with
  | setValue a =>
    unfold GattValues.step at hstep
    dsimp only at hstep
    split at hstep
    · exact Option.some.inj hstep ▸ h.enterSet a
    · exact absurd hstep (Option.some_ne_none s').symm
  | getValue a =>
    unfold GattValues.step at hstep
    dsimp only at hstep
    split at hstep
    · exact Option.some.inj hstep ▸ h.enterGet a
    · exact absurd hstep (Option.some_ne_none s').symm
  | app => exact h.stepApp hok hstep
  | access service j request =>
    unfold GattValues.step at hstep
    dsimp only at hstep
    split at hstep
    · split at hstep
      next hcb =>
        exact Option.some.inj hstep ▸ h.enterAccess request fun k hk => h.core.argument hcb hk
      · exact absurd hstep (Option.some_ne_none s').symm
    · exact absurd hstep (Option.some_ne_none s').symm
  | host => exact h.stepHost hstep
  | sync initialized ready valueHandles =>
    obtain rfl := Option.some.inj hstep
    refine ⟨h.core.sync initialized ready valueHandles, ?_, ?_, h.apart⟩
    · exact h.app.mono rfl (Nat.le_refl _) fun m _ hold =>
        ⟨hold.lt, hold.not_failed, hold.not_stored⟩
    · exact h.host.mono rfl fun m _ hold => ⟨hold.lt, hold.not_failed, hold.not_stored⟩

end Inv

theorem inv_of_init (h : gattValueMachine.init s) : s.Inv := by
  obtain ⟨hregistered, ⟨initialized, ready, hgatt⟩, happ, hhost, hstores, hfailed, hreads⟩ := h
  have hwell := (GattSystem.reachable_keeps hregistered).1
  refine ⟨⟨hregistered, ?_, ?_, ?_, ?_, ?_, ?_⟩, ?_, ?_, ?_⟩
  · rw [hgatt]
    exact ⟨rfl, rfl, fun _ => rfl, fun _ => rfl, fun _ => rfl, fun _ => rfl⟩
  · rw [hgatt]
    exact hwell.length_le
  · rw [hgatt, hstores]
    exact fun _ _ => rfl
  · rw [hreads]
    exact fun r hr => absurd hr List.not_mem_nil
  · rw [hfailed]
    exact fun n hn => absurd hn List.not_mem_nil
  · rw [hstores]
    exact fun e he => absurd he List.not_mem_nil
  · rw [happ]
    trivial
  · rw [hhost]
    trivial
  · rw [happ]
    exact fun n hn => absurd hn (Option.some_ne_none n).symm

/-- After such a call the values are not those of an atomic store. -/
theorem ReportsLate.not_atomic {a : GattValueAction} (h : s.ReportsLate a)
    (hstep : s.step a = some s') : ¬ s'.Atomic := by
  cases a with
  | app =>
    obtain ⟨k, n, happ, hlate, hchanged⟩ := h
    have hnext : s.stepApp = some ({ s with app := .idle }.fail n) := by
      unfold stepApp
      rw [happ]
      exact congrArg some (if_pos ((notifySubscribers_ne_ok_iff s.gatt k).mpr hlate))
    obtain rfl := Option.some.inj (hnext.symm.trans hstep)
    intro hatomic
    exact hchanged (unchanging_cons_iff.mp (hatomic.failed n List.mem_cons_self))
  | _ => exact h.elim

/-- What a step does to the statics: nothing, a store, or the host has been started or stopped. -/
def Frame (s s' : GattValues) : Prop :=
  s'.registered = s.registered ∧
    ((s'.stores = s.stores ∧ (s'.gatt = s.gatt ∨ ∃ initialized ready valueHandles,
        s'.gatt = ⟨s.gatt.table.assign valueHandles, initialized, ready⟩)) ∨
      ∃ e, s'.stores = s.stores ++ [e] ∧ s'.gatt = s.gatt.store e.key e.value)

theorem frame_same (hregistered : s'.registered = s.registered) (hstores : s'.stores = s.stores)
    (hgatt : s'.gatt = s.gatt) : s.Frame s' :=
  ⟨hregistered, Or.inl ⟨hstores, Or.inl hgatt⟩⟩

theorem step_frame {a : GattValueAction} (hstep : s.step a = some s') : s.Frame s' := by
  unfold step at hstep
  -- only the two stores change the values; all other steps change a task or the log of answers
  split at hstep
  next a =>
    split at hstep
    · obtain rfl := Option.some.inj hstep
      unfold enterSet
      split <;> exact frame_same rfl rfl rfl
    · exact absurd hstep (Option.some_ne_none s').symm
  next a =>
    split at hstep
    · obtain rfl := Option.some.inj hstep
      unfold enterGet
      split
      · exact frame_same rfl rfl rfl
      · split <;> exact frame_same rfl rfl rfl
    · exact absurd hstep (Option.some_ne_none s').symm
  · unfold stepApp at hstep
    split at hstep
    · exact absurd hstep (Option.some_ne_none s').symm
    · obtain rfl := Option.some.inj hstep
      exact ⟨rfl, Or.inr ⟨_, rfl, rfl⟩⟩
    · obtain rfl := Option.some.inj hstep
      dsimp only
      split <;> exact frame_same rfl rfl rfl
    · obtain rfl := Option.some.inj hstep
      dsimp only
      split <;> exact frame_same rfl rfl rfl
  next service j request =>
    split at hstep
    · dsimp only at hstep
      split at hstep
      · obtain rfl := Option.some.inj hstep
        unfold enterAccess
        split
        · split
          · exact frame_same rfl rfl rfl
          · split <;> exact frame_same rfl rfl rfl
          · exact frame_same rfl rfl rfl
        · exact frame_same rfl rfl rfl
      · exact absurd hstep (Option.some_ne_none s').symm
    · exact absurd hstep (Option.some_ne_none s').symm
  · unfold stepHost at hstep
    split at hstep
    · exact absurd hstep (Option.some_ne_none s').symm
    · obtain rfl := Option.some.inj hstep
      exact ⟨rfl, Or.inr ⟨_, rfl, rfl⟩⟩
    · obtain rfl := Option.some.inj hstep
      split <;> exact frame_same rfl rfl rfl
  · obtain rfl := Option.some.inj hstep
    exact ⟨rfl, Or.inl ⟨rfl, Or.inr ⟨_, _, _, rfl⟩⟩⟩

theorem Frame.storesWhole (h : s.Frame s') : s.StoresWhole s' := by
  obtain ⟨-, ⟨hstores, hgatt | ⟨initialized, ready, valueHandles, hgatt⟩⟩ | hstore⟩ := h
  · exact Or.inl ⟨hstores, fun k => by rw [hgatt]; exact ⟨rfl, rfl⟩⟩
  · exact Or.inl ⟨hstores, fun k => by rw [hgatt]; exact ⟨rfl, rfl⟩⟩
  · exact Or.inr hstore

/-- The tables keep their shape in every run. -/
theorem Frame.shape (h : s.Frame s') (hshape : SameShape s.registered.table s.gatt.table) :
    SameShape s'.registered.table s'.gatt.table := by
  obtain ⟨hregistered, ⟨-, hgatt | ⟨initialized, ready, valueHandles, hgatt⟩⟩ | ⟨e, -, hgatt⟩⟩ := h
  · rw [hregistered, hgatt]
    exact hshape
  · rw [hregistered, hgatt]
    exact ⟨hshape.count, hshape.defs, hshape.identifier, hshape.capacity, hshape.flags,
      hshape.uuid⟩
  · rw [hregistered, hgatt]
    exact hshape.store e.key e.value

theorem shape_of_reachable (h : gattValueMachine.Reachable s) :
    gattMachine.Reachable s.registered ∧ SameShape s.registered.table s.gatt.table := by
  apply h.invariant (I := fun s => gattMachine.Reachable s.registered ∧
    SameShape s.registered.table s.gatt.table)
  · intro s hinit
    exact ⟨(inv_of_init hinit).core.registered, (inv_of_init hinit).core.shape⟩
  · intro s a s' hs _ hstep
    have hframe := step_frame hstep
    exact ⟨hframe.1 ▸ hs.1, hframe.shape hs.2⟩

end GattValues

theorem gatt_values_inv {s : GattValues}
    (h : gattValueMachine.ReachableIn (fun s a => ¬ s.ReportsLate a) s) : s.Inv :=
  h.invariant (fun _ => GattValues.inv_of_init) fun _ _ _ hs hok hstep => hs.step hok hstep

/-- **The values are an atomic store** in every run in which no `set_value` reports an error after
having changed a value, and they cease to be one just with such a step. -/
theorem gatt_values_atomic (s : GattValues)
    (h : gattValueMachine.ReachableIn (fun s a => ¬ s.ReportsLate a) s) :
    s.Atomic ∧ ∀ a s', s.step a = some s' →
      s.StoresWhole s' ∧ (s'.Atomic ↔ ¬ s.ReportsLate a) := by
  have hinv := gatt_values_inv h
  refine ⟨hinv.core.atomic, ?_⟩
  intro a s' hstep
  refine ⟨(GattValues.step_frame hstep).storesWhole, ?_, ?_⟩
  · intro hatomic hlate
    exact hlate.not_atomic hstep hatomic
  · intro hok
    exact (hinv.step hok hstep).core.atomic

/-- The tables with one characteristic, which can notify and has the value 100. -/
def batteryValues : GattValues where
  registered := (gattMachine.run {} gattBattery).getD {}
  gatt := { table := ((gattMachine.run {} gattBattery).getD {}).table }

theorem batteryValues_init : gattValueMachine.init batteryValues := by
  have hrun : gattMachine.run {} gattBattery = some batteryValues.registered := rfl
  exact ⟨reachable_of_run rfl hrun, ⟨false, false, rfl⟩, rfl, rfl, rfl, rfl, rfl⟩

/-- Store 7, with `notifySubscribers` as given. -/
def setSeven (notifySubscribers : Int32) : GattSetArgs := ⟨1, some fun _ => 7, 1, notifySubscribers⟩

theorem gatt_values_atomic_set : ∃ s : GattValues, s.stores.length = 1 ∧ s.Atomic ∧
    ∀ a s', s.step a = some s' → s.StoresWhole s' ∧ (s'.Atomic ↔ ¬ s.ReportsLate a) := by
  have hentered : gattValueMachine.ReachableIn (fun s a => ¬ s.ReportsLate a)
      { batteryValues.called with app := .storing 0 [7] 0 0 } :=
    (ReachableIn.init batteryValues_init).step (a := .setValue (setSeven 0)) id rfl
  have hstored : gattValueMachine.ReachableIn (fun s a => ¬ s.ReportsLate a)
      { batteryValues.called.store 0 [7] 0 with app := .idle } := by
    refine hentered.step (a := .app) ?_ rfl
    rintro ⟨k, n, happ, -⟩
    exact absurd happ (by simp)
  exact ⟨_, rfl, gatt_values_atomic _ hstored⟩

/-- The host is not synchronised, so the call reports an error, and the value is 7 from then
on. -/
theorem gatt_values_late : ∃ s, gattValueMachine.Reachable s ∧
    s.initial 0 = [100] ∧ (s.gatt.characteristic 0).bytes = [7] ∧ s.failed = [0] ∧
    ¬ s.Atomic := by
  obtain ⟨s, hs, htest⟩ := exists_reachable_of_run (M := gattValueMachine)
    [.setValue (setSeven 1), .app, .app]
    (fun s => decide (s.initial 0 = [100] ∧ (s.gatt.characteristic 0).bytes = [7] ∧
      s.failed = [0] ∧ s.registered.table.characteristicCount = 1 ∧
      recent s.initial s.failed s.stores 0 = [100])) batteryValues_init (by decide +kernel)
  obtain ⟨hinitial, hbytes, hfailed, hcount, hrecent⟩ := of_decide_eq_true htest
  refine ⟨s, hs, hinitial, hbytes, hfailed, ?_⟩
  intro hatomic
  have hknown : s.Known 0 := by
    unfold GattValues.Known
    rw [hcount]
    decide
  have hvalue := hatomic.value 0 hknown
  rw [hbytes, hrecent] at hvalue
  exact absurd hvalue (by decide)

end Esp32Mod
