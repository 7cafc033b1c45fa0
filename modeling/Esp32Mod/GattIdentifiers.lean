/-
Esp32Mod/GattIdentifiers.lean

Which characteristic an identifier reaches.  `bmx_embedded_ble_gatt_add_characteristic` returns
1, 2, and so on, and the interface passes an `int32_t`; but `bmx_ble_gatt_characteristic` takes a
`uint16_t`, so only the low 16 bits are looked up.  An identifier that is none reaches a
characteristic if its low 16 bits are one.

Main results:

* `gatt_identifiers` — an identifier acts on its own characteristic only, unless it is none and
  its low 16 bits are one;
* `gatt_identifier_alias` — 65537 is as good as 1.
-/
import Esp32Mod.GattAtomic

namespace Esp32Mod

open StepMachine Machine

/-! ### The statement -/

/-- The handle of the value that is sent. -/
def GattSent.handle : GattSent → UInt16
  | .chrUpdated handle | .notify _ handle | .indicate _ handle => handle

namespace BleGatt

/-- Calls with this identifier act on record `k`, and on nothing else. -/
structure ActsOn (s : BleGatt) (id : Int32) (k : Fin 32) : Prop where
  found : bmxBleGattCharacteristic s.table (gattIdentifier id) = some k
  setValue : ∀ a : GattSetArgs, a.characteristicId = id →
    ((bmxEmbeddedBleGattSetValue s a).2.1 = s ∨
      (bmxEmbeddedBleGattSetValue s a).2.1 = s.store k a.bytes) ∧
    (∀ l, l ≠ k →
      (bmxEmbeddedBleGattSetValue s a).2.1.characteristic l = s.characteristic l) ∧
    ∀ sent ∈ (bmxEmbeddedBleGattSetValue s a).2.2,
      sent.handle = (s.characteristic k).valueHandle
  getValue : ∀ a : GattGetArgs, a.characteristicId = id →
    bmxEmbeddedBleGattGetValue s a = { result := .einval } ∨
      bmxEmbeddedBleGattGetValue s a = s.readValue k a
  notify : ∀ (a : GattNotifyArgs) (mtu : UInt16) (result : BleHs), a.characteristicId = id →
    ∀ sent ∈ (bmxEmbeddedBleGattNotify s a mtu result).2,
      sent.handle = (s.characteristic k).valueHandle

/-- Calls with this identifier return `BLE_HS_EINVAL`, store nothing and send nothing. -/
structure Refuses (s : BleGatt) (id : Int32) : Prop where
  setValue : ∀ a : GattSetArgs, a.characteristicId = id →
    bmxEmbeddedBleGattSetValue s a = (.einval, s, [])
  getValue : ∀ a : GattGetArgs, a.characteristicId = id →
    bmxEmbeddedBleGattGetValue s a = { result := .einval }
  notify : ∀ (a : GattNotifyArgs) (mtu : UInt16) (result : BleHs), a.characteristicId = id →
    bmxEmbeddedBleGattNotify s a mtu result = (.einval, [])

end BleGatt

/-- `add_characteristic` returned `id` when it had registered record `k`, which is still as it
was registered. -/
def GattSystem.Returned (s : GattSystem) (id : Int32) (k : Fin 32) : Prop :=
  ∃ t, (id, t) ∈ s.characteristicIds ∧ t.characteristicCount.toNat = k.val + 1 ∧
    s.table.characteristics k = t.characteristics k

namespace GattValues

/-- `id` is one of the identifiers 1, 2, … of the registered characteristics. -/
def Identifies (s : GattValues) (id : Int) : Prop :=
  1 ≤ id ∧ id ≤ s.gatt.table.characteristicCount.toNat

/-- An identifier acts on the characteristic that it was returned for, and any other number on
none. -/
def OwnOnly (s : GattValues) (id : Int32) : Prop :=
  (s.Identifies id.toInt → ∃ k, s.registered.Returned id k ∧ s.gatt.ActsOn id k) ∧
    (¬ s.Identifies id.toInt → s.gatt.Refuses id)

end GattValues

/-! ### The identifiers that are returned -/

theorem refuse_ne_ok {t : GattTable} {result : BleHs} (h : result ≠ .ok) :
    (t.refuse result).result ≠ .ok := h

/-- A new characteristic has the new count as its identifier. -/
theorem addCharacteristic_ok {t : GattTable} {initialized : Bool} {fromStr : BleUuidFromStr}
    {a : GattCharacteristicArgs}
    (hok : (bmxEmbeddedBleGattAddCharacteristic t initialized fromStr a).result = .ok) :
    ∃ t', bmxEmbeddedBleGattAddCharacteristic t initialized fromStr a =
        ⟨.ok, some (Int32.ofNat (t.characteristicCount.toNat + 1)), t'⟩ ∧
      t'.characteristicCount.toNat = t.characteristicCount.toNat + 1 := by
  unfold bmxEmbeddedBleGattAddCharacteristic at hok ⊢
  split at hok
  · exact absurd hok (refuse_ne_ok (by decide))
  split at hok
  · exact absurd hok (refuse_ne_ok (by decide))
  split at hok
  · exact absurd hok (refuse_ne_ok (by decide))
  next hpointer hinitialized hvalid =>
  rw [if_neg hpointer, if_neg hinitialized, if_neg hvalid]
  split at hok
  next hs =>
    rw [dif_pos hs]
    dsimp only at hok ⊢
    split at hok
    next hroom =>
      rw [dif_pos hroom]
      have hcount := GattTable.toNat_count_succ hroom.2
      split at hok
      next hparsed => exact absurd hok hparsed
      next hparsed =>
        rw [if_neg hparsed]
        exact ⟨_, by rw [hcount], hcount⟩
    · exact absurd hok (refuse_ne_ok (by decide))
  · exact absurd hok (refuse_ne_ok (by decide))

namespace GattSystem

variable {s s' : GattSystem}

/-- Every registered characteristic has been returned. -/
def AllReturned (s : GattSystem) : Prop :=
  ∀ k : Fin 32, k.val < s.table.characteristicCount.toNat →
    ∃ t, (Int32.ofNat (k.val + 1), t) ∈ s.characteristicIds ∧
      t.characteristicCount.toNat = k.val + 1

theorem AllReturned.mono (h : s.AllReturned)
    (hcount : s'.table.characteristicCount = s.table.characteristicCount)
    (hids : s'.characteristicIds = s.characteristicIds) : s'.AllReturned := by
  unfold AllReturned
  rw [hcount, hids]
  exact h

theorem AllReturned.step (h : s.AllReturned) (hwell : s.table.WellFormed) {a : Bool × GattCall}
    (hstep : s.step a = some s') : s'.AllReturned := by
  obtain ⟨initialized, call⟩ := a
  obtain rfl := Option.some.inj hstep
  by_cases hok : (s.table.answer initialized call).result = .ok
  · unfold after
    rw [if_pos hok]
    -- only `add_characteristic` registers something that has an identifier
    cases call with
    | reset =>
      cases initialized with
      | true => exact absurd hok (refuse_ne_ok (by decide))
      | false => exact fun k hk => absurd hk (Nat.not_lt_zero _)
    | addService fromStr a =>
      refine h.mono ?_ rfl
      show (bmxEmbeddedBleGattAddService s.table initialized fromStr a).table.characteristicCount = _
      unfold bmxEmbeddedBleGattAddService
      split
      · rfl
      split
      · rfl
      split
      · dsimp only
        split <;> rfl
      · rfl
    | addCharacteristic fromStr a =>
      obtain ⟨t', hanswer, hcount⟩ := addCharacteristic_ok hok
      intro k hk
      have hanswer' : s.table.answer initialized (.addCharacteristic fromStr a) = _ := hanswer
      rw [hanswer'] at hk ⊢
      have hk' : k.val < s.table.characteristicCount.toNat + 1 := hcount ▸ hk
      rcases Nat.lt_succ_iff_lt_or_eq.mp hk' with hold | hnew
      · obtain ⟨t, hmem, ht⟩ := h k hold
        exact ⟨t, List.mem_append_left _ hmem, ht⟩
      · refine ⟨t', List.mem_append_right _ ?_, by omega⟩
        rw [hnew]
        exact List.mem_singleton_self _
  · -- a failed call registers nothing
    have hsame := hwell.failed_call initialized call hok
    unfold after
    rw [if_neg hok]
    exact h.mono hsame.characteristicCount rfl

theorem allReturned_of_reachable (h : gattMachine.Reachable s) : s.AllReturned := by
  have hboth : s.AllReturned ∧ s.table.WellFormed ∧ s.IdsValid := by
    apply h.invariant (I := fun s => s.AllReturned ∧ s.table.WellFormed ∧ s.IdsValid)
    · intro s hinit
      obtain rfl : s = {} := hinit
      exact ⟨fun k hk => absurd hk (Nat.not_lt_zero _), GattTable.wellFormed_zero, .fresh⟩
    · intro s a s' hs _ hstep
      exact ⟨hs.1.step hs.2.1 hstep, GattSystem.step_keeps hs.2.1 hs.2.2 hstep⟩
  exact hboth.1

/-- The identifier of record `k`. -/
theorem returned_of_reachable (h : gattMachine.Reachable s) {k : Fin 32}
    (hk : k.val < s.table.characteristicCount.toNat) {id : Int32} (hid : id.toInt = k.val + 1) :
    s.Returned id k := by
  obtain ⟨t, hmem, hcount⟩ := allReturned_of_reachable h k hk
  have hvalid := ((reachable_keeps h).2.characteristics _ hmem).2
  have hsmall : (Int32.ofNat (k.val + 1)).toInt = k.val + 1 :=
    GattTable.toInt_ofNat_small (by omega)
  obtain rfl : id = Int32.ofNat (k.val + 1) := Int32.toInt_inj.mp (hid.trans hsmall.symm)
  have hnewest : k.val < t.characteristicCount.toNat := by omega
  exact ⟨t, hmem, hcount, hvalid.characteristics k hnewest⟩

end GattSystem

/-! ### The lookup -/

/-- The conversion keeps the low 16 bits. -/
theorem toNat_gattIdentifier (id : Int32) : ((gattIdentifier id).toNat : Int) = id.toInt % 65536 := by
  have hlow : (gattIdentifier id).toNat = id.toBitVec.toNat % 65536 := UInt32.toNat_toUInt16 _
  have hvalue : id.toInt = id.toBitVec.toInt := rfl
  rw [hlow, hvalue, BitVec.toInt_eq_toNat_cond]
  split <;> omega

namespace BleGatt

variable {s : BleGatt} {id : Int32} {k : Fin 32}

/-- A `set_value` stores into the record or not at all, and sends from its handle. -/
theorem setValue_of_found (a : GattSetArgs)
    (h : bmxBleGattCharacteristic s.table (gattIdentifier a.characteristicId) = some k) :
    ((bmxEmbeddedBleGattSetValue s a).2.1 = s ∨
      (bmxEmbeddedBleGattSetValue s a).2.1 = s.store k a.bytes) ∧
    (∀ l, l ≠ k →
      (bmxEmbeddedBleGattSetValue s a).2.1.characteristic l = s.characteristic l) ∧
    ∀ sent ∈ (bmxEmbeddedBleGattSetValue s a).2.2,
      sent.handle = (s.characteristic k).valueHandle := by
  have hsame : ∀ l, l ≠ k → (s.store k a.bytes).characteristic l = s.characteristic l :=
    fun l hl => store_of_ne s k a.bytes hl
  have hhandle : ((s.store k a.bytes).characteristic k).valueHandle =
      (s.characteristic k).valueHandle := s.store_other k a.bytes (·.valueHandle) (fun _ => rfl) k
  unfold bmxEmbeddedBleGattSetValue GattSetArgs.accept
  rw [h]
  dsimp only
  by_cases hrefused : (s.table.characteristics k).capacity.toNat < a.valueLength.toNat ∨
      (a.valueLength ≠ 0 ∧ a.value.isNone = true)
  · rw [if_pos hrefused]
    exact ⟨Or.inl rfl, fun _ _ => rfl, fun m hm => absurd hm List.not_mem_nil⟩
  · rw [if_neg hrefused]
    dsimp only
    -- it is stored before it is known whether it can be sent
    split
    · exact ⟨Or.inr rfl, hsame, fun m hm => absurd hm List.not_mem_nil⟩
    split
    · exact ⟨Or.inr rfl, hsame, fun m hm => absurd hm List.not_mem_nil⟩
    · refine ⟨Or.inr rfl, hsame, ?_⟩
      intro sent hsent
      obtain rfl := List.mem_singleton.mp hsent
      exact hhandle

theorem getValue_of_found (a : GattGetArgs)
    (h : bmxBleGattCharacteristic s.table (gattIdentifier a.characteristicId) = some k) :
    bmxEmbeddedBleGattGetValue s a = { result := .einval } ∨
      bmxEmbeddedBleGattGetValue s a = s.readValue k a := by
  unfold bmxEmbeddedBleGattGetValue
  rw [h]
  dsimp only
  split
  · exact Or.inl rfl
  · exact Or.inr rfl

/-- A `notify` sends from the handle of the record. -/
theorem notify_of_found (a : GattNotifyArgs) (mtu : UInt16) (result : BleHs)
    (h : bmxBleGattCharacteristic s.table (gattIdentifier a.characteristicId) = some k) :
    ∀ sent ∈ (bmxEmbeddedBleGattNotify s a mtu result).2,
      sent.handle = (s.characteristic k).valueHandle := by
  intro sent hsent
  unfold bmxEmbeddedBleGattNotify at hsent
  rw [h] at hsent
  dsimp only at hsent
  generalize (if a.indication ≠ 0 then bmxBleGattIndicate else bmxBleGattNotify) = requiredFlag
    at hsent
  split at hsent
  · exact absurd hsent List.not_mem_nil
  split at hsent
  · exact absurd hsent List.not_mem_nil
  split at hsent
  · -- to all subscribers
    split at hsent
    · exact absurd hsent List.not_mem_nil
    · obtain rfl := List.mem_singleton.mp hsent
      rfl
  split at hsent
  · exact absurd hsent List.not_mem_nil
  split at hsent
  · exact absurd hsent List.not_mem_nil
  split at hsent
  · exact absurd hsent List.not_mem_nil
  · obtain rfl := List.mem_singleton.mp hsent
    split <;> rfl

theorem actsOn_of_found (h : bmxBleGattCharacteristic s.table (gattIdentifier id) = some k) :
    s.ActsOn id k := by
  refine ⟨h, ?_, ?_, ?_⟩
  · rintro a rfl
    exact setValue_of_found a h
  · rintro a rfl
    exact getValue_of_found a h
  · rintro a mtu result rfl
    exact notify_of_found a mtu result h

theorem refuses_of_none (h : bmxBleGattCharacteristic s.table (gattIdentifier id) = none) :
    s.Refuses id := by
  refine ⟨?_, ?_, ?_⟩
  · rintro a rfl
    unfold bmxEmbeddedBleGattSetValue GattSetArgs.accept
    rw [h]
  · rintro a rfl
    unfold bmxEmbeddedBleGattGetValue
    rw [h]
  · rintro a mtu result rfl
    unfold bmxEmbeddedBleGattNotify
    rw [h]

/-- What is found answers, if only with its length. -/
theorem Refuses.not_found (h : s.Refuses id) :
    bmxBleGattCharacteristic s.table (gattIdentifier id) = none := by
  have hget := h.getValue ⟨id, false, 0, true⟩ rfl
  unfold bmxEmbeddedBleGattGetValue at hget
  cases hfound : bmxBleGattCharacteristic s.table (gattIdentifier id) with
  | none => rfl
  | some k =>
    dsimp only at hget
    rw [hfound] at hget
    exact absurd (congrArg GattGetAnswer.length hget) (Option.some_ne_none _)

end BleGatt

/-! ### Every identifier -/

namespace GattValues

variable {s : GattValues}

/-- The low 16 bits of `id` are an identifier only if `id` is. -/
def NoAlias (s : GattValues) (id : Int32) : Prop :=
  s.Identifies id.toInt ∨ ¬ s.Identifies (id.toInt % 65536)

/-- The lookup succeeds just for low 16 bits that are an identifier. -/
theorem found_iff (hcount : s.gatt.table.characteristicCount.toNat ≤ 32) {id : Int32} {k : Fin 32} :
    bmxBleGattCharacteristic s.gatt.table (gattIdentifier id) = some k ↔
      id.toInt % 65536 = k.val + 1 ∧ k.val < s.gatt.table.characteristicCount.toNat := by
  rw [lookup_eq_some_iff hcount, ← toNat_gattIdentifier]
  omega

theorem not_found_iff (hcount : s.gatt.table.characteristicCount.toNat ≤ 32) {id : Int32} :
    bmxBleGattCharacteristic s.gatt.table (gattIdentifier id) = none ↔
      ¬ s.Identifies (id.toInt % 65536) := by
  unfold Identifies
  constructor
  · rintro hnone ⟨hfrom, hto⟩
    have hfound : bmxBleGattCharacteristic s.gatt.table (gattIdentifier id) =
        some ⟨(id.toInt % 65536).toNat - 1, by omega⟩ :=
      (found_iff hcount).mpr ⟨by dsimp only; omega, by dsimp only; omega⟩
    exact absurd (hnone.symm.trans hfound) (Option.some_ne_none _).symm
  · intro hnot
    cases hfound : bmxBleGattCharacteristic s.gatt.table (gattIdentifier id) with
    | none => rfl
    | some k =>
      obtain ⟨hlow, hk⟩ := (found_iff hcount).mp hfound
      omega

end GattValues

/-- **Identifiers and characteristics.**  An identifier acts on the characteristic that it was
returned for and any other number on none, except a number that is no identifier and whose low
16 bits are one.  Numbers other than these do not share a characteristic. -/
theorem gatt_identifiers (s : GattValues) (h : gattValueMachine.Reachable s) :
    (∀ id, s.OwnOnly id ↔ s.NoAlias id) ∧
      ∀ id id' k, s.NoAlias id → s.NoAlias id' → s.gatt.ActsOn id k → s.gatt.ActsOn id' k →
        id = id' := by
  obtain ⟨hregistered, hshape⟩ := GattValues.shape_of_reachable h
  have hcount : s.gatt.table.characteristicCount.toNat ≤ 32 := by
    rw [hshape.count]
    exact (GattSystem.reachable_keeps hregistered).1.count_le
  constructor
  · intro id
    constructor
    · intro hown
      -- a number that is no identifier and acts on none is no alias either
      rcases Classical.em (s.Identifies id.toInt) with hid | hid
      · exact Or.inl hid
      · exact Or.inr ((GattValues.not_found_iff hcount).mp (hown.2 hid).not_found)
    · intro halias
      refine ⟨?_, ?_⟩
      · rintro ⟨hfrom, hto⟩
        have hk : id.toInt.toNat - 1 < 32 := by omega
        -- an identifier was returned when its characteristic was registered
        have hreturned : s.registered.Returned id ⟨id.toInt.toNat - 1, hk⟩ := by
          apply GattSystem.returned_of_reachable hregistered
          · rw [← hshape.count]
            dsimp only
            omega
          · dsimp only
            omega
        refine ⟨_, hreturned, BleGatt.actsOn_of_found ((GattValues.found_iff hcount).mpr ?_)⟩
        dsimp only
        omega
      · intro hid
        exact BleGatt.refuses_of_none
          ((GattValues.not_found_iff hcount).mpr (halias.resolve_left hid))
  · intro id id' k halias halias' hacts hacts'
    obtain ⟨hlow, hk⟩ := (GattValues.found_iff hcount).mp hacts.found
    obtain ⟨hlow', -⟩ := (GattValues.found_iff hcount).mp hacts'.found
    -- without aliases both are identifiers, and of the same characteristic
    have hid : s.Identifies id.toInt := halias.resolve_right (not_not_intro ⟨by omega, by omega⟩)
    have hid' : s.Identifies id'.toInt :=
      halias'.resolve_right (not_not_intro ⟨by omega, by omega⟩)
    obtain ⟨hfrom, hto⟩ := hid
    obtain ⟨hfrom', hto'⟩ := hid'
    exact Int32.toInt_inj.mp (by omega)

theorem gatt_identifiers_battery :
    (∀ id, batteryValues.OwnOnly id ↔ batteryValues.NoAlias id) ∧
      ∀ id id' k, batteryValues.NoAlias id → batteryValues.NoAlias id' →
        batteryValues.gatt.ActsOn id k → batteryValues.gatt.ActsOn id' k → id = id' :=
  gatt_identifiers batteryValues (.init batteryValues_init)

/-- 65537 was never returned, and stores into the only characteristic, as 1 does. -/
theorem gatt_identifier_alias : ∃ s, gattValueMachine.Reachable s ∧
    (∀ r ∈ s.registered.characteristicIds, r.1 = 1) ∧
    (bmxEmbeddedBleGattSetValue s.gatt ⟨65537, some fun _ => 7, 1, 0⟩).1 = .ok ∧
    ((bmxEmbeddedBleGattSetValue s.gatt ⟨65537, some fun _ => 7, 1, 0⟩).2.1.characteristic
      0).bytes = [7] ∧
    ¬ s.OwnOnly 65537 := by
  refine ⟨batteryValues, .init batteryValues_init, by decide +kernel, by decide +kernel,
    by decide +kernel, ?_⟩
  intro hown
  have hrefuses := hown.2 fun hid => absurd hid.2 (by decide +kernel)
  exact absurd (hrefuses.getValue ⟨65537, false, 0, true⟩ rfl) (by decide +kernel)

end Esp32Mod
