/-
Esp32Mod/GattTable.lean

The GATT tables of the BLE adapter (`network.mod/ble.mod/native/esp32_ble.c`), which NimBLE
walks when the host starts: `bmx_embedded_ble_gatt_reset`,
`bmx_embedded_ble_gatt_add_service` and `bmx_embedded_ble_gatt_add_characteristic`.

A pointer into one of the tables is the index of the entry, `none` being null.  A call is
given the value of `bmx_ble_initialized`, and `ble_uuid_from_str` as a function that may
answer anything and write anything.

`GattSystem` records, outside the source, which identifiers have been handed out since the
last reset and what they named then.

Main results:

* `gatt_table_wellFormed` — after any sequence of calls the tables are well formed, the
  identifiers name what they named, and a call that fails changes nothing registered.
-/
import Esp32Mod.Buffer
import Esp32Mod.Errors
import Esp32Mod.StepMachine
import Mathlib.Algebra.BigOperators.Fin

namespace Esp32Mod

open StepMachine Machine

/-! ### The tables -/

/-- `ble_uuid_any_t`. -/
structure BleUuid where
  type : UInt8 := 0
  value : Vector UInt8 16 := Vector.replicate 16 0
  deriving DecidableEq

/-- A characteristic, as the adapter keeps it. -/
structure BMXBLEGATTCharacteristic where
  identifier : UInt16 := 0
  valueHandle : UInt16 := 0
  capacity : UInt16 := 0
  length : UInt16 := 0
  flags : UInt32 := 0
  uuid : BleUuid := {}
  value : Vector UInt8 512 := Vector.replicate 512 0
  deriving DecidableEq

/-- The types of a service definition. -/
inductive BleGattSvcType
  /-- `BLE_GATT_SVC_TYPE_END`, which is 0 -/
  | last
  | primary
  deriving DecidableEq

/-- `struct ble_gatt_svc_def`. -/
structure BleGattSvcDef where
  type : BleGattSvcType := .last
  /-- an entry of `bmx_ble_gatt_service_uuids` -/
  uuid : Option (Fin 8) := none
  /-- a row of `bmx_ble_gatt_characteristic_defs` -/
  characteristics : Option (Fin 8) := none
  deriving DecidableEq

/-- The bits of `ble_gatt_chr_flags` that the adapter sets. -/
inductive BleGattChrFlag
  | read | write | notify | indicate | writeNoRsp | readEnc | readAuthen | writeEnc | writeAuthen
  | notifyIndicateEnc | notifyIndicateAuthen
  deriving DecidableEq

/-- `struct ble_gatt_chr_def`. -/
structure BleGattChrDef where
  /-- the UUID of an entry of `bmx_ble_gatt_characteristics` -/
  uuid : Option (Fin 32) := none
  /-- `access_cb` is `bmx_ble_gatt_access`. -/
  accessCb : Bool := false
  arg : Option (Fin 32) := none
  flags : List BleGattChrFlag := []
  /-- the value handle of an entry of `bmx_ble_gatt_characteristics` -/
  valHandle : Option (Fin 32) := none
  deriving DecidableEq

/-- The tables of the GATT server. -/
structure GattTable where
  services : Fin 9 → BleGattSvcDef := fun _ => {}
  characteristicDefs : Fin 8 → Fin 9 → BleGattChrDef := fun _ _ => {}
  serviceUuids : Fin 8 → BleUuid := fun _ => {}
  characteristics : Fin 32 → BMXBLEGATTCharacteristic := fun _ => {}
  characteristicCounts : Fin 8 → UInt8 := fun _ => 0
  serviceCount : UInt16 := 0
  characteristicCount : UInt16 := 0

/-- `BLE_HS_ENOMEM`. -/
def bleHsEnomem : Int32 := 6

/-- `BMX_BLE_GATT_READ` and the other flags, with what they stand for in the host. -/
def bmxBleGattFlags : List (UInt32 × BleGattChrFlag) :=
  [(0x01, .read), (0x02, .write), (0x04, .notify), (0x08, .indicate), (0x10, .writeNoRsp),
   (0x20, .readEnc), (0x40, .readAuthen), (0x80, .writeEnc), (0x100, .writeAuthen),
   (0x200, .notifyIndicateEnc), (0x400, .notifyIndicateAuthen)]

/-- The flags of NimBLE for those of the application. -/
def bmxBleGattNativeFlags (flags : UInt32) : List BleGattChrFlag :=
  bmxBleGattFlags.filterMap fun f => if flags &&& f.1 ≠ 0 then some f.2 else none

/-- `valid_flags`. -/
def bmxBleGattValidFlags : UInt32 := bmxBleGattFlags.foldl (fun mask f => mask ||| f.1) 0

example : bmxBleGattValidFlags = 0x7ff := by decide

/-! ### The calls -/

/-- `ble_uuid_from_str`: the text, what is in the UUID, and what it returns and leaves there. -/
abbrev BleUuidFromStr := List UInt8 → BleUuid → BleHs × BleUuid

/-- The text of a UUID; what `ble_uuid_from_str` does is an argument. -/
def bmxBleParseUuid (fromStr : BleUuidFromStr) (bytes : Option (List UInt8)) (length : UInt32)
    (uuid : BleUuid) : BleHs × BleUuid :=
  match bytes with
  | none => (.einval, uuid)
  | some text =>
    if length = 0 ∨ 36 < length then (.einval, uuid) else fromStr (text.take length.toNat) uuid

/-- What a call returns, the identifier that it stores, and the tables after it. -/
structure GattAnswer where
  result : BleHs
  id : Option Int32
  table : GattTable

/-- A call that leaves the table as it is. -/
def GattTable.refuse (t : GattTable) (result : BleHs) : GattAnswer := ⟨result, none, t⟩

/-- The table is emptied while the adapter is not initialized. -/
def bmxEmbeddedBleGattReset (t : GattTable) (initialized : Bool) : GattAnswer :=
  if initialized then t.refuse .ebusy else ⟨.ok, none, {}⟩

/-- `serviceId` tells whether the pointer for the identifier is there. -/
structure GattServiceArgs where
  uuid : Option (List UInt8)
  uuidLength : UInt32
  serviceId : Bool

/-- The tables with one more service. -/
def GattTable.addService (t : GattTable) (index : Fin 8) : GattTable :=
  { t with
    services := Function.update t.services index.castSucc
      { type := .primary, uuid := some index, characteristics := some index }
    serviceCount := t.serviceCount + 1 }

/-- A service is entered behind the last one. -/
def bmxEmbeddedBleGattAddService (t : GattTable) (initialized : Bool) (fromStr : BleUuidFromStr)
    (a : GattServiceArgs) : GattAnswer :=
  if a.serviceId = false then t.refuse .einval
  else if initialized then t.refuse .ebusy
  else if h : t.serviceCount.toNat < 8 then
    let index : Fin 8 := ⟨t.serviceCount.toNat, h⟩
    let parsed := bmxBleParseUuid fromStr a.uuid a.uuidLength (t.serviceUuids index)
    -- parsed in place, before the service is counted
    let t := { t with serviceUuids := Function.update t.serviceUuids index parsed.2 }
    if parsed.1 ≠ .ok then t.refuse parsed.1
    else ⟨.ok, some (Int32.ofNat (index.val + 1)), t.addService index⟩
  else t.refuse (.other bleHsEnomem)

/-- The arguments of `gatt_add_characteristic`. -/
structure GattCharacteristicArgs where
  serviceId : Int32
  uuid : Option (List UInt8)
  uuidLength : UInt32
  flags : UInt32
  value : Option (List UInt8)
  valueLength : UInt32
  capacity : UInt32
  characteristicId : Bool

/-- The arguments that are refused with `BLE_HS_EINVAL`. -/
def GattCharacteristicArgs.invalid (a : GattCharacteristicArgs) (serviceCount : UInt16) : Bool :=
  decide (a.serviceId ≤ 0) || decide ((serviceCount.toNat : Int) < a.serviceId.toInt) ||
    a.flags == 0 || (a.flags &&& ~~~bmxBleGattValidFlags) != 0 ||
    a.capacity == 0 || decide (512 < a.capacity) || decide (a.capacity < a.valueLength) ||
    (a.valueLength != 0 && a.value.isNone)

/-- The record of a new characteristic, over what is in its place. -/
def BMXBLEGATTCharacteristic.define (c : BMXBLEGATTCharacteristic) (identifier : UInt16)
    (a : GattCharacteristicArgs) : BMXBLEGATTCharacteristic :=
  { c with
    identifier
    capacity := a.capacity.toUInt16
    length := a.valueLength.toUInt16
    flags := a.flags
    value := Buffer.blit c.value 0 ((a.value.getD []).take a.valueLength.toNat) }

/-- The definition that points to record `k`. -/
def BleGattChrDef.of (k : Fin 32) (flags : UInt32) : BleGattChrDef :=
  { uuid := some k, accessCb := true, arg := some k, flags := bmxBleGattNativeFlags flags,
    valHandle := some k }

/-- The tables with one more characteristic: record `k`, definition `j` of service `s`. -/
def GattTable.register (t : GattTable) (s : Fin 8) (j : Fin 9) (k : Fin 32)
    (a : GattCharacteristicArgs) : GattTable :=
  { t with
    characteristics := Function.update t.characteristics k
      ((t.characteristics k).define (t.characteristicCount + 1) a)
    characteristicDefs := Function.update t.characteristicDefs s
      (Function.update (t.characteristicDefs s) j (.of k a.flags))
    characteristicCounts := Function.update t.characteristicCounts s
      (t.characteristicCounts s + 1)
    characteristicCount := t.characteristicCount + 1 }

/-- A characteristic is entered behind the last one of its service. -/
def bmxEmbeddedBleGattAddCharacteristic (t : GattTable) (initialized : Bool)
    (fromStr : BleUuidFromStr) (a : GattCharacteristicArgs) : GattAnswer :=
  if a.characteristicId = false then t.refuse .einval
  else if initialized then t.refuse .ebusy
  else if a.invalid t.serviceCount then t.refuse .einval
  else if hs : (a.serviceId - 1).toInt.toNat < 8 then
    let s : Fin 8 := ⟨(a.serviceId - 1).toInt.toNat, hs⟩
    if h : (t.characteristicCounts s).toNat < 8 ∧ t.characteristicCount.toNat < 32 then
      let j : Fin 9 := ⟨(t.characteristicCounts s).toNat, by omega⟩
      let k : Fin 32 := ⟨t.characteristicCount.toNat, h.2⟩
      let parsed := bmxBleParseUuid fromStr a.uuid a.uuidLength (t.characteristics k).uuid
      let t := { t with
        characteristics := Function.update t.characteristics k
          { t.characteristics k with uuid := parsed.2 } }
      if parsed.1 ≠ .ok then t.refuse parsed.1
      else ⟨.ok, some (Int32.ofNat (t.characteristicCount + 1).toNat), t.register s j k a⟩
    else t.refuse (.other bleHsEnomem)
  -- no index beyond the last service, of at most eight, passes the check of the arguments
  else t.refuse .einval

/-! ### Well-formed tables -/

namespace GattTable

/-- Definition `j` of service `s` is one of the registered. -/
def Filled (t : GattTable) (s : Fin 8) (j : Fin 9) : Prop :=
  j.val < (t.characteristicCounts s).toNat

/-- Definition `j` of service `s` stands for record `k`. -/
def Defines (t : GattTable) (k : Fin 32) (p : Fin 8 × Fin 9) : Prop :=
  t.Filled p.1 p.2 ∧ t.characteristicDefs p.1 p.2 = .of k (t.characteristics k).flags

/-- What NimBLE relies on when it walks the tables. -/
structure WellFormed (t : GattTable) : Prop where
  serviceCount_le : t.serviceCount.toNat ≤ 8
  counts_le : ∀ s, (t.characteristicCounts s).toNat ≤ 8
  count_le : t.characteristicCount.toNat ≤ 32
  counts_sum : ∑ s, (t.characteristicCounts s).toNat = t.characteristicCount.toNat
  services_filled : ∀ i : Fin 8, i.val < t.serviceCount.toNat →
    t.services i.castSucc = { type := .primary, uuid := some i, characteristics := some i }
  services_zero : ∀ i : Fin 9, t.serviceCount.toNat ≤ i.val → t.services i = {}
  counts_zero : ∀ s : Fin 8, t.serviceCount.toNat ≤ s.val → t.characteristicCounts s = 0
  /-- a definition that is filled stands for a registered record -/
  defs_filled : ∀ s j, t.Filled s j →
    ∃ k : Fin 32, k.val < t.characteristicCount.toNat ∧ t.Defines k (s, j)
  /-- the entries behind them are zero, the terminator first -/
  defs_zero : ∀ s j, ¬ t.Filled s j → t.characteristicDefs s j = {}
  /-- and a registered record has one definition -/
  owner : ∀ k : Fin 32, k.val < t.characteristicCount.toNat → ∃! p, t.Defines k p
  identifier : ∀ k : Fin 32, k.val < t.characteristicCount.toNat →
    (t.characteristics k).identifier.toNat = k.val + 1
  length_le : ∀ k : Fin 32, k.val < t.characteristicCount.toNat →
    (t.characteristics k).length ≤ (t.characteristics k).capacity
  capacity_le : ∀ k : Fin 32, k.val < t.characteristicCount.toNat →
    (t.characteristics k).capacity ≤ 512

/-- Everything registered is the same in both tables. -/
structure SameRegistered (t t' : GattTable) : Prop where
  serviceCount : t'.serviceCount = t.serviceCount
  characteristicCount : t'.characteristicCount = t.characteristicCount
  characteristicCounts : t'.characteristicCounts = t.characteristicCounts
  services : t'.services = t.services
  characteristicDefs : t'.characteristicDefs = t.characteristicDefs
  serviceUuids : ∀ i : Fin 8, i.val < t.serviceCount.toNat → t'.serviceUuids i = t.serviceUuids i
  characteristics : ∀ k : Fin 32, k.val < t.characteristicCount.toNat →
    t'.characteristics k = t.characteristics k

theorem SameRegistered.refl (t : GattTable) : t.SameRegistered t := by
  refine ⟨?_, ?_, ?_, ?_, ?_, ?_, ?_⟩ <;> intros <;> rfl

/-- The record that a definition stands for is its argument. -/
theorem Defines.unique {t : GattTable} {k l : Fin 32} {p : Fin 8 × Fin 9} (hk : t.Defines k p)
    (hl : t.Defines l p) : k = l := by
  have h : (BleGattChrDef.of k (t.characteristics k).flags).arg
      = (BleGattChrDef.of l (t.characteristics l).flags).arg := by
    rw [← hk.2, ← hl.2]
  exact Option.some.inj h

theorem wellFormed_zero : WellFormed {} := by
  have hempty : ∀ k : Fin 32, ¬ k.val < ({} : GattTable).characteristicCount.toNat := by
    intro k
    exact Nat.not_lt_zero k.val
  refine ⟨by decide, by intro s; show (0 : Nat) ≤ 8; omega, by decide, ?_, ?_, ?_, ?_, ?_, ?_, ?_, ?_, ?_, ?_⟩
  · exact Finset.sum_const_zero
  · intro i hi
    exact absurd hi (Nat.not_lt_zero i.val)
  · intro i _
    rfl
  · intro s _
    rfl
  · intro s j hj
    exact absurd hj (Nat.not_lt_zero j.val)
  · intro s j _
    rfl
  · intro k hk
    exact absurd hk (hempty k)
  · intro k hk
    exact absurd hk (hempty k)
  · intro k hk
    exact absurd hk (hempty k)
  · intro k hk
    exact absurd hk (hempty k)

variable {t t' : GattTable}

/-- What NimBLE relies on concerns what is registered only. -/
theorem WellFormed.of_same (h : t.WellFormed) (hsame : t.SameRegistered t') : t'.WellFormed := by
  have hfilled : ∀ s j, t'.Filled s j ↔ t.Filled s j := by
    intro s j
    unfold Filled
    rw [hsame.characteristicCounts]
  have hdefines : ∀ k : Fin 32, k.val < t.characteristicCount.toNat →
      ∀ p, t'.Defines k p ↔ t.Defines k p := by
    intro k hk p
    unfold Defines
    rw [hfilled, hsame.characteristicDefs, hsame.characteristics k hk]
  -- each clause of `WellFormed` in its order
  constructor
  · rw [hsame.serviceCount]
    exact h.serviceCount_le
  · rw [hsame.characteristicCounts]
    exact h.counts_le
  · rw [hsame.characteristicCount]
    exact h.count_le
  · rw [hsame.characteristicCounts, hsame.characteristicCount]
    exact h.counts_sum
  · rw [hsame.serviceCount, hsame.services]
    exact h.services_filled
  · rw [hsame.serviceCount, hsame.services]
    exact h.services_zero
  · rw [hsame.serviceCount, hsame.characteristicCounts]
    exact h.counts_zero
  · intro s j hj
    obtain ⟨k, hk, hdef⟩ := h.defs_filled s j ((hfilled s j).mp hj)
    rw [hsame.characteristicCount]
    exact ⟨k, hk, (hdefines k hk _).mpr hdef⟩
  · intro s j hj
    rw [hsame.characteristicDefs]
    exact h.defs_zero s j (mt (hfilled s j).mpr hj)
  · intro k hk
    rw [hsame.characteristicCount] at hk
    simp only [hdefines k hk]
    exact h.owner k hk
  · intro k hk
    rw [hsame.characteristicCount] at hk
    rw [hsame.characteristics k hk]
    exact h.identifier k hk
  · intro k hk
    rw [hsame.characteristicCount] at hk
    rw [hsame.characteristics k hk]
    exact h.length_le k hk
  · intro k hk
    rw [hsame.characteristicCount] at hk
    rw [hsame.characteristics k hk]
    exact h.capacity_le k hk

/-! ### One more service -/

theorem toNat_count_succ {c : UInt16} (h : c.toNat < 32) : (c + 1).toNat = c.toNat + 1 := by
  rw [UInt16.toNat_add]
  have : (1 : UInt16).toNat = 1 := rfl
  omega

theorem WellFormed.addService (h : t.WellFormed) {index : Fin 8}
    (hindex : index.val = t.serviceCount.toNat) : (t.addService index).WellFormed := by
  have hlt := index.isLt
  have hcount : (t.addService index).serviceCount.toNat = t.serviceCount.toNat + 1 :=
    toNat_count_succ (by omega)
  have hother : ∀ i : Fin 9, i.val ≠ index.val →
      (t.addService index).services i = t.services i := by
    intro i hi
    apply Function.update_of_ne
    intro heq
    exact hi (congrArg Fin.val heq)
  refine ⟨?_, h.counts_le, h.count_le, h.counts_sum, ?_, ?_, ?_, h.defs_filled, h.defs_zero,
    h.owner, h.identifier, h.length_le, h.capacity_le⟩
  · omega
  · intro i hi
    rcases Nat.lt_or_ge i.val t.serviceCount.toNat with hold | hnew
    · rw [hother i.castSucc (by show i.val ≠ index.val; omega)]
      exact h.services_filled i hold
    · obtain rfl : i = index := Fin.ext (by omega)
      exact Function.update_self ..
  · intro i hi
    rw [hother i (by omega)]
    exact h.services_zero i (by omega)
  · intro s hs
    exact h.counts_zero s (by omega)

/-! ### One more characteristic -/

section Register

variable {s : Fin 8} {j : Fin 9} {k : Fin 32} {a : GattCharacteristicArgs}

theorem register_record_of_ne {l : Fin 32} (hl : l ≠ k) :
    (t.register s j k a).characteristics l = t.characteristics l :=
  Function.update_of_ne hl ..

theorem register_record_self : (t.register s j k a).characteristics k =
    (t.characteristics k).define (t.characteristicCount + 1) a :=
  Function.update_self ..

theorem register_def_self : (t.register s j k a).characteristicDefs s j = .of k a.flags := by
  show Function.update t.characteristicDefs s _ s j = _
  rw [Function.update_self, Function.update_self]

theorem register_def_of_ne {s' : Fin 8} {j' : Fin 9} (hne : (s', j') ≠ (s, j)) :
    (t.register s j k a).characteristicDefs s' j' = t.characteristicDefs s' j' := by
  show Function.update t.characteristicDefs s _ s' j' = _
  by_cases hs : s' = s
  · subst hs
    rw [Function.update_self]
    apply Function.update_of_ne
    intro hj
    exact hne (by rw [hj])
  · rw [Function.update_of_ne hs]

theorem register_counts (hcount : (t.characteristicCounts s).toNat < 8) (s' : Fin 8) :
    ((t.register s j k a).characteristicCounts s').toNat
      = (t.characteristicCounts s').toNat + if s' = s then 1 else 0 := by
  show (Function.update t.characteristicCounts s _ s').toNat = _
  by_cases hs : s' = s
  · subst hs
    rw [Function.update_self, if_pos rfl, UInt8.toNat_add]
    have : (1 : UInt8).toNat = 1 := rfl
    omega
  · rw [Function.update_of_ne hs, if_neg hs, Nat.add_zero]

/-- The definitions that are filled now. -/
theorem register_filled (hj : j.val = (t.characteristicCounts s).toNat)
    (hcount : (t.characteristicCounts s).toNat < 8) (s' : Fin 8) (j' : Fin 9) :
    (t.register s j k a).Filled s' j' ↔ t.Filled s' j' ∨ (s', j') = (s, j) := by
  unfold Filled
  rw [register_counts hcount, Prod.mk.injEq]
  by_cases hs : s' = s
  · subst hs
    rw [if_pos rfl, Fin.ext_iff]
    constructor
    · intro hlt
      rcases Nat.lt_or_ge j'.val (t.characteristicCounts s').toNat with hold | hnew
      · exact Or.inl hold
      · exact Or.inr ⟨rfl, by omega⟩
    · rintro (hold | ⟨-, heq⟩) <;> omega
  · rw [if_neg hs]
    constructor
    · intro hlt
      exact Or.inl hlt
    · rintro (hold | ⟨heq, -⟩)
      · exact hold
      · exact absurd heq hs

/-- The definition of an old record is where it was. -/
theorem register_defines (hj : j.val = (t.characteristicCounts s).toNat)
    (hcount : (t.characteristicCounts s).toNat < 8) {l : Fin 32} (hl : l ≠ k)
    (p : Fin 8 × Fin 9) : (t.register s j k a).Defines l p ↔ t.Defines l p := by
  obtain ⟨s', j'⟩ := p
  unfold Defines
  rw [register_filled hj hcount, register_record_of_ne hl]
  by_cases hp : (s', j') = (s, j)
  · obtain ⟨rfl, rfl⟩ := Prod.mk.inj hp
    constructor
    · rintro ⟨-, hdef⟩
      have harg := congrArg BleGattChrDef.arg hdef
      rw [register_def_self] at harg
      exact absurd (Option.some.inj harg).symm hl
    · rintro ⟨hfilled, -⟩
      have hlt : j'.val < (t.characteristicCounts s').toNat := hfilled
      omega
  · rw [register_def_of_ne hp]
    simp only [hp, or_false]

/-- What holds of every old record and of the new one. -/
theorem register_records {P : Fin 32 → BMXBLEGATTCharacteristic → Prop}
    (hk : k.val = t.characteristicCount.toNat)
    (hold : ∀ l : Fin 32, l.val < t.characteristicCount.toNat → P l (t.characteristics l))
    (hnew : P k ((t.characteristics k).define (t.characteristicCount + 1) a)) :
    ∀ l : Fin 32, l.val < (t.register s j k a).characteristicCount.toNat →
      P l ((t.register s j k a).characteristics l) := by
  intro l hl
  have hcount : (t.register s j k a).characteristicCount.toNat =
      t.characteristicCount.toNat + 1 := toNat_count_succ (by omega)
  rcases eq_or_ne l k with rfl | hne
  · rw [register_record_self]
    exact hnew
  · rw [register_record_of_ne hne]
    have hval : l.val ≠ k.val := fun heq => hne (Fin.ext heq)
    exact hold l (by omega)

/-- The new definition stands for the new record. -/
theorem register_defines_self (hj : j.val = (t.characteristicCounts s).toNat)
    (hcount : (t.characteristicCounts s).toNat < 8) : (t.register s j k a).Defines k (s, j) := by
  refine ⟨(register_filled hj hcount s j).mpr (Or.inr rfl), ?_⟩
  rw [register_def_self, register_record_self]
  rfl

/-- Each old record has its definition still, and the new one has the new definition. -/
theorem WellFormed.register_owner (h : t.WellFormed)
    (hj : j.val = (t.characteristicCounts s).toNat)
    (hcount : (t.characteristicCounts s).toNat < 8) (hk : k.val = t.characteristicCount.toNat)
    {l : Fin 32} (hl : l.val < t.characteristicCount.toNat + 1) :
    ∃! p, (t.register s j k a).Defines l p := by
  have hne : ∀ m : Fin 32, m.val < t.characteristicCount.toNat → m ≠ k := by
    rintro m hm rfl
    omega
  rcases Nat.lt_or_ge l.val t.characteristicCount.toNat with hold | hlast
  · simp only [register_defines hj hcount (hne l hold)]
    exact h.owner l hold
  · obtain rfl : l = k := Fin.ext (by omega)
    refine ⟨(s, j), register_defines_self hj hcount, ?_⟩
    rintro ⟨s', j'⟩ ⟨hfilled, hdef⟩
    -- an old definition stands for an old record
    rcases (register_filled hj hcount s' j').mp hfilled with hold | hp
    · obtain ⟨m, hm, hdef'⟩ := h.defs_filled s' j' hold
      have heq := ((register_defines (a := a) hj hcount (hne m hm) _).mpr hdef').unique
        ⟨hfilled, hdef⟩
      exact absurd heq (hne m hm)
    · exact hp

theorem WellFormed.register (h : t.WellFormed) (hs : s.val < t.serviceCount.toNat)
    (hj : j.val = (t.characteristicCounts s).toNat)
    (hcount : (t.characteristicCounts s).toNat < 8)
    (hk : k.val = t.characteristicCount.toNat)
    (hlength : a.valueLength ≤ a.capacity) (hcapacity : a.capacity ≤ 512) :
    (t.register s j k a).WellFormed := by
  have htotal : (t.register s j k a).characteristicCount.toNat
      = t.characteristicCount.toNat + 1 := toNat_count_succ (by omega)
  have hne : ∀ l : Fin 32, l.val < t.characteristicCount.toNat → l ≠ k := by
    rintro l hl rfl
    omega
  have hsmall : a.valueLength.toNat ≤ a.capacity.toNat ∧ a.capacity.toNat ≤ 512 :=
    ⟨UInt32.le_iff_toNat_le.mp hlength, UInt32.le_iff_toNat_le.mp hcapacity⟩
  -- the new entry is `k`; each clause holds of the old entries, which are others, and of `k`
  refine ⟨h.serviceCount_le, ?_, ?_, ?_, h.services_filled, h.services_zero, ?_, ?_, ?_, ?_, ?_,
    ?_, ?_⟩
  · intro s'
    rw [register_counts hcount]
    have hle := h.counts_le s'
    split
    · next heq =>
      subst heq
      omega
    · omega
  · rw [htotal]
    omega
  · simp only [register_counts hcount, Finset.sum_add_distrib, h.counts_sum,
      Finset.sum_ite_eq', Finset.mem_univ, if_true, htotal]
  · intro s' hs'
    have hs₀ : t.serviceCount.toNat ≤ s'.val := hs'
    have hne : s' ≠ s := by
      rintro rfl
      omega
    show Function.update t.characteristicCounts s _ s' = 0
    rw [Function.update_of_ne hne]
    exact h.counts_zero s' hs₀
  · intro s' j' hfilled
    rcases (register_filled hj hcount s' j').mp hfilled with hold | hp
    · -- a definition that was filled keeps its entry
      obtain ⟨l, hl, hdef⟩ := h.defs_filled s' j' hold
      exact ⟨l, by omega, (register_defines hj hcount (hne l hl) _).mpr hdef⟩
    · rw [hp]
      exact ⟨k, by omega, register_defines_self hj hcount⟩
  · intro s' j' hfilled
    have hboth := mt (register_filled hj hcount s' j').mpr hfilled
    rw [not_or] at hboth
    rw [register_def_of_ne hboth.2]
    exact h.defs_zero s' j' hboth.1
  · intro l hl
    exact h.register_owner hj hcount hk (htotal ▸ hl)
  · refine register_records (P := fun l record => record.identifier.toNat = l.val + 1) hk
      h.identifier ?_
    rw [hk]
    exact toNat_count_succ (by omega)
  · refine register_records (P := fun _ record => record.length ≤ record.capacity) hk
      h.length_le ?_
    rw [UInt16.le_iff_toNat_le]
    show a.valueLength.toUInt16.toNat ≤ a.capacity.toUInt16.toNat
    rw [UInt32.toNat_toUInt16, UInt32.toNat_toUInt16]
    omega
  · refine register_records (P := fun _ record => record.capacity ≤ 512) hk h.capacity_le ?_
    rw [UInt16.le_iff_toNat_le]
    show a.capacity.toUInt16.toNat ≤ (512 : UInt16).toNat
    rw [UInt32.toNat_toUInt16]
    have : (512 : UInt16).toNat = 512 := rfl
    omega

end Register

/-! ### What a call does -/

/-- Everything registered in `t` is registered in `t'`. -/
structure Extends (t t' : GattTable) : Prop where
  serviceCount : t.serviceCount.toNat ≤ t'.serviceCount.toNat
  characteristicCount : t.characteristicCount.toNat ≤ t'.characteristicCount.toNat
  services : ∀ i : Fin 8, i.val < t.serviceCount.toNat →
    t'.services i.castSucc = t.services i.castSucc ∧ t'.serviceUuids i = t.serviceUuids i
  characteristics : ∀ k : Fin 32, k.val < t.characteristicCount.toNat →
    t'.characteristics k = t.characteristics k
  characteristicDefs : ∀ s j, t.Filled s j →
    t'.Filled s j ∧ t'.characteristicDefs s j = t.characteristicDefs s j

theorem Extends.trans {t₁ t₂ t₃ : GattTable} (h : t₁.Extends t₂) (h' : t₂.Extends t₃) :
    t₁.Extends t₃ := by
  have hs := h.serviceCount
  have hc := h.characteristicCount
  refine ⟨hs.trans h'.serviceCount, hc.trans h'.characteristicCount, ?_, ?_, ?_⟩
  · intro i hi
    obtain ⟨h₁, h₂⟩ := h.services i hi
    obtain ⟨h₁', h₂'⟩ := h'.services i (by omega)
    exact ⟨h₁'.trans h₁, h₂'.trans h₂⟩
  · intro k hk
    exact (h'.characteristics k (by omega)).trans (h.characteristics k hk)
  · intro s j hj
    obtain ⟨h₁, h₂⟩ := h.characteristicDefs s j hj
    obtain ⟨h₁', h₂'⟩ := h'.characteristicDefs s j h₁
    exact ⟨h₁', h₂'.trans h₂⟩

theorem SameRegistered.extends (h : t.SameRegistered t') : t.Extends t' := by
  refine ⟨by rw [h.serviceCount], by rw [h.characteristicCount], ?_, h.characteristics, ?_⟩
  · intro i hi
    exact ⟨by rw [h.services], h.serviceUuids i hi⟩
  · intro s j hj
    unfold Filled
    rw [h.characteristicCounts, h.characteristicDefs]
    exact ⟨hj, rfl⟩

/-- `id` is the identifier of a service. -/
def ServiceId (t : GattTable) (id : Int32) : Prop :=
  ∃ i : Fin 8, i.val < t.serviceCount.toNat ∧ id.toInt = i.val + 1

/-- `id` is the identifier of a characteristic, also in its record. -/
def CharacteristicId (t : GattTable) (id : Int32) : Prop :=
  ∃ k : Fin 32, k.val < t.characteristicCount.toNat ∧ id.toInt = k.val + 1 ∧
    (t.characteristics k).identifier.toNat = k.val + 1

theorem toInt_ofNat_small {m : Nat} (hm : m < 1000) : (Int32.ofNat m).toInt = m := by
  rw [Int32.toInt_ofNat_of_lt]
  omega

theorem addService_extends {index : Fin 8} (hindex : index.val = t.serviceCount.toNat) :
    t.Extends (t.addService index) := by
  have hlt := index.isLt
  have hcount : (t.addService index).serviceCount.toNat = t.serviceCount.toNat + 1 :=
    toNat_count_succ (by omega)
  refine ⟨by omega, Nat.le_refl _, ?_, fun _ _ => rfl, fun _ _ hj => ⟨hj, rfl⟩⟩
  intro i hi
  refine ⟨?_, rfl⟩
  apply Function.update_of_ne
  intro heq
  have := congrArg Fin.val heq
  rw [Fin.val_castSucc, Fin.val_castSucc] at this
  omega

theorem register_extends {s : Fin 8} {j : Fin 9} {k : Fin 32} {a : GattCharacteristicArgs}
    (hj : j.val = (t.characteristicCounts s).toNat)
    (hcount : (t.characteristicCounts s).toNat < 8) (hk : k.val = t.characteristicCount.toNat) :
    t.Extends (t.register s j k a) := by
  have htotal : (t.register s j k a).characteristicCount.toNat
      = t.characteristicCount.toNat + 1 := toNat_count_succ (by omega)
  refine ⟨Nat.le_refl _, by omega, fun _ _ => ⟨rfl, rfl⟩, ?_, ?_⟩
  · intro l hl
    apply register_record_of_ne
    rintro rfl
    omega
  · intro s' j' hfilled
    refine ⟨(register_filled hj hcount s' j').mpr (Or.inl hfilled), register_def_of_ne ?_⟩
    intro hp
    obtain ⟨rfl, rfl⟩ := Prod.mk.inj hp
    have hlt : j'.val < (t.characteristicCounts s').toNat := hfilled
    omega

/-- A call that fails changes nothing registered; one that returns 0 keeps the tables well
formed and what is registered, and its identifier names an entry. -/
def Keeps (t : GattTable) (Id : GattTable → Int32 → Prop) (r : GattAnswer) : Prop :=
  (r.result ≠ .ok → t.SameRegistered r.table) ∧
    (r.result = .ok → r.table.WellFormed ∧ t.Extends r.table ∧ ∃ id, r.id = some id ∧ Id r.table id)

theorem keeps_refuse {Id : GattTable → Int32 → Prop} {result : BleHs} (hresult : result ≠ .ok)
    (h : t.SameRegistered t') : t.Keeps Id (t'.refuse result) := by
  refine ⟨fun _ => h, ?_⟩
  intro hok
  exact absurd hok hresult

theorem keeps_addService (h : t.WellFormed) (initialized : Bool) (fromStr : BleUuidFromStr)
    (a : GattServiceArgs) :
    t.Keeps ServiceId (bmxEmbeddedBleGattAddService t initialized fromStr a) := by
  unfold bmxEmbeddedBleGattAddService
  split
  · exact keeps_refuse (by decide) (.refl t)
  split
  · exact keeps_refuse (by decide) (.refl t)
  split
  · next hlt =>
    let index : Fin 8 := ⟨t.serviceCount.toNat, hlt⟩
    let parsed := bmxBleParseUuid fromStr a.uuid a.uuidLength (t.serviceUuids index)
    let t₁ := { t with serviceUuids := Function.update t.serviceUuids index parsed.2 }
    -- the UUID goes into the entry behind the registered ones
    have hsame : t.SameRegistered t₁ := by
      refine ⟨rfl, rfl, rfl, rfl, rfl, ?_, fun _ _ => rfl⟩
      intro i hi
      apply Function.update_of_ne
      intro heq
      rw [heq] at hi
      exact Nat.lt_irrefl _ hi
    show t.Keeps ServiceId
      (if parsed.1 ≠ .ok then t₁.refuse parsed.1
        else ⟨.ok, some (Int32.ofNat (index.val + 1)), t₁.addService index⟩)
    split
    · next hparsed => exact keeps_refuse hparsed hsame
    · refine ⟨fun hne => absurd rfl hne, fun _ => ?_⟩
      have hwell : (t₁.addService index).WellFormed := (h.of_same hsame).addService rfl
      refine ⟨hwell, hsame.extends.trans (addService_extends rfl), _, rfl, index, ?_, ?_⟩
      · show t.serviceCount.toNat < (t.serviceCount + 1).toNat
        rw [toNat_count_succ (by omega)]
        omega
      · rw [toInt_ofNat_small (by omega)]
        rfl
  · exact keeps_refuse (by decide) (.refl t)

/-- What is checked of the arguments of a characteristic. -/
theorem of_not_invalid {a : GattCharacteristicArgs} {count : UInt16}
    (h : ¬ a.invalid count = true) : (a.serviceId - 1).toInt.toNat < count.toNat ∧
      a.capacity ≤ 512 ∧ a.valueLength ≤ a.capacity := by
  simp only [GattCharacteristicArgs.invalid, Bool.or_eq_true, decide_eq_true_eq, not_or] at h
  obtain ⟨⟨⟨⟨⟨⟨⟨hpos, hle⟩, -⟩, -⟩, -⟩, hcapacity⟩, hlength⟩, -⟩ := h
  rw [Int32.le_iff_toInt_le] at hpos
  have hzero : (0 : Int32).toInt = 0 := rfl
  have hone : (1 : Int32).toInt = 1 := rfl
  have hindex : (a.serviceId - 1).toInt = a.serviceId.toInt - 1 := by
    rw [Int32.toInt_sub_of_le, hone]
    · decide
    · rw [Int32.le_iff_toInt_le]
      omega
  exact ⟨by omega, UInt32.not_lt.mp hcapacity, UInt32.not_lt.mp hlength⟩

theorem keeps_addCharacteristic (h : t.WellFormed) (initialized : Bool)
    (fromStr : BleUuidFromStr) (a : GattCharacteristicArgs) :
    t.Keeps CharacteristicId (bmxEmbeddedBleGattAddCharacteristic t initialized fromStr a) := by
  unfold bmxEmbeddedBleGattAddCharacteristic
  split
  · exact keeps_refuse (by decide) (.refl t)
  split
  · exact keeps_refuse (by decide) (.refl t)
  split
  · exact keeps_refuse (by decide) (.refl t)
  next hvalid =>
  obtain ⟨hservice, hcapacity, hlength⟩ := of_not_invalid hvalid
  split
  · next hs =>
    let s : Fin 8 := ⟨(a.serviceId - 1).toInt.toNat, hs⟩
    dsimp only
    split
    · next hroom =>
      have hcount : (t.characteristicCounts s).toNat < 8 := hroom.1
      let j : Fin 9 := ⟨(t.characteristicCounts s).toNat, by omega⟩
      let k : Fin 32 := ⟨t.characteristicCount.toNat, hroom.2⟩
      let parsed := bmxBleParseUuid fromStr a.uuid a.uuidLength (t.characteristics k).uuid
      let t₁ := { t with
        characteristics := Function.update t.characteristics k
          { t.characteristics k with uuid := parsed.2 } }
      -- the UUID goes into the record behind the registered ones
      have hsame : t.SameRegistered t₁ := by
        refine ⟨rfl, rfl, rfl, rfl, rfl, fun _ _ => rfl, ?_⟩
        intro l hl
        apply Function.update_of_ne
        intro heq
        rw [heq] at hl
        exact Nat.lt_irrefl _ hl
      show t.Keeps CharacteristicId
        (if parsed.1 ≠ .ok then t₁.refuse parsed.1
          else ⟨.ok, some (Int32.ofNat (t₁.characteristicCount + 1).toNat),
            t₁.register s j k a⟩)
      split
      · next hparsed => exact keeps_refuse hparsed hsame
      · refine ⟨fun hne => absurd rfl hne, fun _ => ?_⟩
        have hwell : (t₁.register s j k a).WellFormed :=
          (h.of_same hsame).register hservice rfl hcount rfl hlength hcapacity
        have hext : t₁.Extends (t₁.register s j k a) := register_extends rfl hcount rfl
        have hid : (t₁.characteristicCount + 1).toNat = k.val + 1 := toNat_count_succ hroom.2
        have hk : k.val < (t₁.register s j k a).characteristicCount.toNat := by
          show k.val < (t₁.characteristicCount + 1).toNat
          omega
        refine ⟨hwell, hsame.extends.trans hext, _, rfl, k, hk, ?_, hwell.identifier k hk⟩
        rw [hid, toInt_ofNat_small (by omega)]
        rfl
    · exact keeps_refuse (by decide) (.refl t)
  · exact keeps_refuse (by decide) (.refl t)

end GattTable

/-! ### Runs of calls -/

/-- The calls that register. -/
inductive GattCall
  | reset
  | addService (fromStr : BleUuidFromStr) (a : GattServiceArgs)
  | addCharacteristic (fromStr : BleUuidFromStr) (a : GattCharacteristicArgs)

/-- The result of a call, and the table it leaves. -/
def GattTable.answer (t : GattTable) (initialized : Bool) : GattCall → GattAnswer
  | .reset => bmxEmbeddedBleGattReset t initialized
  | .addService fromStr a => bmxEmbeddedBleGattAddService t initialized fromStr a
  | .addCharacteristic fromStr a => bmxEmbeddedBleGattAddCharacteristic t initialized fromStr a

/-- The tables, and the identifiers handed out since the last reset, each with the tables of
that moment. -/
structure GattSystem where
  table : GattTable := {}
  serviceIds : List (Int32 × GattTable) := []
  characteristicIds : List (Int32 × GattTable) := []

namespace GattSystem

/-- Note what a call that has returned 0 has handed out. -/
def note (s : GattSystem) (r : GattAnswer) : GattCall → GattSystem
  | .reset => { table := r.table }
  | .addService _ _ =>
    { s with
      table := r.table
      serviceIds := s.serviceIds ++ r.id.toList.map fun id => (id, r.table) }
  | .addCharacteristic _ _ =>
    { s with
      table := r.table
      characteristicIds := s.characteristicIds ++ r.id.toList.map fun id => (id, r.table) }

/-- The system when a call has returned. -/
def after (s : GattSystem) (r : GattAnswer) (call : GattCall) : GattSystem :=
  if r.result = .ok then s.note r call else { s with table := r.table }

/-- A call, while the adapter is initialized or not. -/
def step (s : GattSystem) (a : Bool × GattCall) : Option GattSystem :=
  some (s.after (s.table.answer a.1 a.2) a.2)

end GattSystem

/-- An action is a call, with the value of `bmx_ble_initialized`. -/
def gattMachine : Machine GattSystem (Bool × GattCall) where
  init s := s = {}
  step := GattSystem.step

namespace GattSystem

/-- Every identifier handed out names an entry, and what was registered then is unchanged. -/
structure IdsValid (s : GattSystem) : Prop where
  services : ∀ r ∈ s.serviceIds, r.2.ServiceId r.1 ∧ r.2.Extends s.table
  characteristics : ∀ r ∈ s.characteristicIds, r.2.CharacteristicId r.1 ∧ r.2.Extends s.table

variable {s : GattSystem} {r : GattAnswer}

theorem IdsValid.extends (h : s.IdsValid) (hext : s.table.Extends r.table) :
    IdsValid { s with table := r.table } := by
  constructor
  · intro x hx
    obtain ⟨hid, hold⟩ := h.services x hx
    exact ⟨hid, hold.trans hext⟩
  · intro x hx
    obtain ⟨hid, hold⟩ := h.characteristics x hx
    exact ⟨hid, hold.trans hext⟩

theorem IdsValid.fresh {t : GattTable} : IdsValid { table := t } := by
  constructor <;> intro x hx <;> exact absurd hx List.not_mem_nil

/-- A new identifier joins the valid ones. -/
theorem valid_append {Id : GattTable → Int32 → Prop} {ids : List (Int32 × GattTable)}
    {t : GattTable} (hold : ∀ x ∈ ids, Id x.2 x.1 ∧ x.2.Extends t) {id : Int32} (hid : Id t id) :
    ∀ x ∈ ids ++ [(id, t)], Id x.2 x.1 ∧ x.2.Extends t := by
  intro x hx
  rcases List.mem_append.mp hx with hx | hx
  · exact hold x hx
  · obtain rfl := List.mem_singleton.mp hx
    exact ⟨hid, (GattTable.SameRegistered.refl t).extends⟩

theorem after_failed (hwell : s.table.WellFormed) (hids : s.IdsValid) {call : GattCall}
    (hne : r.result ≠ .ok) (hsame : s.table.SameRegistered r.table) :
    (s.after r call).table.WellFormed ∧ (s.after r call).IdsValid := by
  rw [after, if_neg hne]
  exact ⟨hwell.of_same hsame, hids.extends hsame.extends⟩

theorem after_addService (hwell : s.table.WellFormed) (hids : s.IdsValid)
    {fromStr : BleUuidFromStr} {a : GattServiceArgs}
    (hkeeps : s.table.Keeps GattTable.ServiceId r) :
    (s.after r (.addService fromStr a)).table.WellFormed ∧
      (s.after r (.addService fromStr a)).IdsValid := by
  by_cases hok : r.result = .ok
  · obtain ⟨hwell', hext, id, hid, hvalid⟩ := hkeeps.2 hok
    rw [after, if_pos hok, note, hid]
    have hold := hids.extends hext
    exact ⟨hwell', valid_append hold.services hvalid, hold.characteristics⟩
  · exact after_failed hwell hids hok (hkeeps.1 hok)

theorem after_addCharacteristic (hwell : s.table.WellFormed) (hids : s.IdsValid)
    {fromStr : BleUuidFromStr} {a : GattCharacteristicArgs}
    (hkeeps : s.table.Keeps GattTable.CharacteristicId r) :
    (s.after r (.addCharacteristic fromStr a)).table.WellFormed ∧
      (s.after r (.addCharacteristic fromStr a)).IdsValid := by
  by_cases hok : r.result = .ok
  · obtain ⟨hwell', hext, id, hid, hvalid⟩ := hkeeps.2 hok
    rw [after, if_pos hok, note, hid]
    have hold := hids.extends hext
    exact ⟨hwell', hold.services, valid_append hold.characteristics hvalid⟩
  · exact after_failed hwell hids hok (hkeeps.1 hok)

/-- A call keeps the tables well formed and the identifiers valid. -/
theorem step_keeps (hwell : s.table.WellFormed) (hids : s.IdsValid) {a : Bool × GattCall}
    {s' : GattSystem} (hs : s.step a = some s') : s'.table.WellFormed ∧ s'.IdsValid := by
  obtain ⟨initialized, call⟩ := a
  obtain rfl := Option.some.inj hs
  cases call with
  | reset =>
    cases initialized with
    | true => exact ⟨hwell, hids⟩
    | false => exact ⟨GattTable.wellFormed_zero, .fresh⟩
  | addService fromStr a =>
    exact after_addService hwell hids (GattTable.keeps_addService hwell initialized fromStr a)
  | addCharacteristic fromStr a =>
    exact after_addCharacteristic hwell hids
      (GattTable.keeps_addCharacteristic hwell initialized fromStr a)

end GattSystem

/-- After any sequence of calls the tables are well formed and the identifiers valid. -/
theorem GattSystem.reachable_keeps {s : GattSystem} (h : gattMachine.Reachable s) :
    s.table.WellFormed ∧ s.IdsValid := by
  apply h.invariant (I := fun s => s.table.WellFormed ∧ s.IdsValid)
  · intro s hinit
    obtain rfl : s = {} := hinit
    exact ⟨GattTable.wellFormed_zero, .fresh⟩
  · intro s a s' hs _ hstep
    exact GattSystem.step_keeps hs.1 hs.2 hstep

/-- A call that fails leaves everything registered as it was. -/
theorem GattTable.WellFormed.failed_call {t : GattTable} (h : t.WellFormed) (initialized : Bool)
    (call : GattCall) (hfail : (t.answer initialized call).result ≠ .ok) :
    t.SameRegistered (t.answer initialized call).table := by
  cases call with
  | reset =>
    cases initialized with
    | true => exact .refl t
    | false => exact absurd rfl hfail
  | addService fromStr a => exact (keeps_addService h initialized fromStr a).1 hfail
  | addCharacteristic fromStr a => exact (keeps_addCharacteristic h initialized fromStr a).1 hfail

/-- **After any sequence of calls** the tables are well formed, every identifier handed out
since the last reset names what it named then, and a call that fails changes nothing
registered. -/
theorem gatt_table_wellFormed (s : GattSystem) (h : gattMachine.Reachable s) :
    s.table.WellFormed ∧ s.IdsValid ∧
      ∀ initialized call, (s.table.answer initialized call).result ≠ .ok →
        s.table.SameRegistered (s.table.answer initialized call).table := by
  obtain ⟨hwell, hids⟩ := GattSystem.reachable_keeps h
  exact ⟨hwell, hids, hwell.failed_call⟩

/-- One service with one characteristic, `180F` and `2A19`. -/
def gattBattery : List (Bool × GattCall) :=
  let fromStr : BleUuidFromStr := fun text _ =>
    (.ok, { type := 16, value := Buffer.blit (Vector.replicate 16 0) 0 text })
  [(false, .addService fromStr ⟨some [0x31, 0x38, 0x30, 0x46], 4, true⟩),
   (false, .addCharacteristic fromStr
      ⟨1, some [0x32, 0x41, 0x31, 0x39], 4, 0x05, some [100], 1, 1, true⟩)]

theorem gatt_table_wellFormed_battery : ∃ s : GattSystem,
    s.table.characteristicCount = 1 ∧ s.table.WellFormed ∧ s.IdsValid ∧
      ∀ initialized call, (s.table.answer initialized call).result ≠ .ok →
        s.table.SameRegistered (s.table.answer initialized call).table := by
  obtain ⟨s, hs, hcount⟩ := exists_reachable_of_run (M := gattMachine) gattBattery
    (fun s : GattSystem => decide (s.table.characteristicCount = 1)) (s := {}) rfl (by decide)
  exact ⟨s, of_decide_eq_true hcount, gatt_table_wellFormed s hs⟩

end Esp32Mod
