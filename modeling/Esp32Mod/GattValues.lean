/-
Esp32Mod/GattValues.lean

The values of the GATT characteristics (`network.mod/ble.mod/native/esp32_ble.c`), once the tables
of `GattTable` have been registered: `bmx_embedded_ble_gatt_set_value`, `get_value` and `notify`
for the application, and `bmx_ble_gatt_access` of `BleLongRead` for the host.

Two tasks use them, and each access to a value is in a critical section of its own.  So every
function is there twice: as a whole, and cut at its critical section for the interleaving
(`gattValueMachine`).  Both are made of the same pieces (`setValue_run`, `access_run`).

Pointers are parameters, `none` for null; the application's bytes are a function of the offset.
Outside the source the system records the stores, the calls that have reported an error, and
what has been read.

Main results:

* `setValue_run`, `getValue_run`, `access_run` — a call without interruption is a run of its steps.
-/
import Esp32Mod.AtomicStore
import Esp32Mod.BleLongRead

namespace Esp32Mod

open StepMachine Machine AtomicStore

/-- `BLE_HS_ENOTCONN` and `BLE_HS_ENOTSUP`. -/
def bleHsEnotconn : Int32 := 7
def bleHsEnotsup : Int32 := 8

/-- The bits of a characteristic's flags that let it be sent. -/
def bmxBleGattNotify : UInt32 := 0x04
def bmxBleGattIndicate : UInt32 := 0x08

/-! ### The values -/

/-- The critical section that stores a value and its length. -/
def BMXBLEGATTCharacteristic.store (c : BMXBLEGATTCharacteristic) (bytes : List UInt8) :
    BMXBLEGATTCharacteristic :=
  { c with value := Buffer.blit c.value 0 bytes, length := UInt16.ofNat bytes.length }

/-- The statics. -/
structure BleGatt where
  table : GattTable := {}
  initialized : Bool := false
  ready : Bool := false

/-- What goes out to subscribers and connections. -/
inductive GattSent
  | chrUpdated (handle : UInt16)
  | notify (connectionHandle handle : UInt16)
  | indicate (connectionHandle handle : UInt16)
  deriving DecidableEq

/-- The entry of an identifier, which counts from 1. -/
def bmxBleGattCharacteristic (t : GattTable) (identifier : UInt16) : Option (Fin 32) :=
  if identifier = 0 ∨ t.characteristicCount < identifier then none
  else
    -- the count is at most 32
    if h : identifier.toNat - 1 < 32 then some ⟨identifier.toNat - 1, h⟩ else none

/-- The conversion of the interface's `int32_t` to the parameter of the lookup. -/
def gattIdentifier (characteristicId : Int32) : UInt16 := characteristicId.toUInt32.toUInt16

namespace BleGatt

/-- An entry of the table. -/
def characteristic (s : BleGatt) (k : Fin 32) : BMXBLEGATTCharacteristic :=
  s.table.characteristics k

/-- Write the value of an entry. -/
def store (s : BleGatt) (k : Fin 32) (bytes : List UInt8) : BleGatt :=
  { s with
    table := { s.table with
      characteristics :=
        Function.update s.table.characteristics k ((s.characteristic k).store bytes) } }

/-- Whether something can be sent for the characteristic. -/
def synced (s : BleGatt) (k : Fin 32) : Bool :=
  s.initialized && s.ready && (s.characteristic k).valueHandle != 0

end BleGatt

/-! ### The calls of the application -/

/-- The arguments of `gatt_set_value`. -/
structure GattSetArgs where
  characteristicId : Int32
  value : Option (Nat → UInt8)
  valueLength : UInt32
  notifySubscribers : Int32

namespace GattSetArgs

/-- The characteristic, if the arguments are accepted. -/
def accept (a : GattSetArgs) (t : GattTable) : Option (Fin 32) :=
  match bmxBleGattCharacteristic t (gattIdentifier a.characteristicId) with
  | none => none
  | some k =>
    if (t.characteristics k).capacity.toNat < a.valueLength.toNat ∨
        (a.valueLength ≠ 0 ∧ a.value.isNone = true) then none
    else some k

/-- What is copied from the caller. -/
def bytes (a : GattSetArgs) : List UInt8 :=
  match a.value with
  | none => []
  | some value => (List.range a.valueLength.toNat).map value

end GattSetArgs

/-- `set_value` after its critical section, if there are subscribers to notify. -/
def BleGatt.notifySubscribers (s : BleGatt) (k : Fin 32) : BleHs :=
  if (s.characteristic k).flags &&& (bmxBleGattNotify ||| bmxBleGattIndicate) = 0 then
    .other bleHsEnotsup
  else if s.synced k = false then .enotsynced
  else .ok

/-- The value is stored before the checks of a notification, whose failure leaves it stored. -/
def bmxEmbeddedBleGattSetValue (s : BleGatt) (a : GattSetArgs) : BleHs × BleGatt × List GattSent :=
  match a.accept s.table with
  | none => (.einval, s, [])
  | some k =>
    let s := s.store k a.bytes
    if a.notifySubscribers = 0 then (.ok, s, [])
    else if s.notifySubscribers k ≠ .ok then (s.notifySubscribers k, s, [])
    else (.ok, s, [.chrUpdated (s.characteristic k).valueHandle])

/-- The arguments of `gatt_get_value`. -/
structure GattGetArgs where
  characteristicId : Int32
  /-- Whether there is a buffer. -/
  value : Bool
  capacity : UInt32
  /-- Whether the pointer for the length is there. -/
  valueLength : Bool

/-- What `get_value` returns, and what it has stored through its pointers. -/
structure GattGetAnswer where
  result : BleHs
  length : Option UInt16 := none
  bytes : Option (List UInt8) := none
  deriving DecidableEq

/-- `get_value` from its critical section on. -/
def BleGatt.readValue (s : BleGatt) (k : Fin 32) (a : GattGetArgs) : GattGetAnswer where
  result :=
    if a.value = false then (if a.capacity = 0 then .ok else .einval)
    else if (s.characteristic k).length.toNat ≤ a.capacity.toNat then .ok
    else .other bleHsEmsgsize
  length := some (s.characteristic k).length
  bytes :=
    if a.value = true ∧ (s.characteristic k).length.toNat ≤ a.capacity.toNat then
      some (s.characteristic k).bytes
    else none

/-- The length is told in any case, the value if it fits. -/
def bmxEmbeddedBleGattGetValue (s : BleGatt) (a : GattGetArgs) : GattGetAnswer :=
  match bmxBleGattCharacteristic s.table (gattIdentifier a.characteristicId) with
  | none => { result := .einval }
  | some k => if a.valueLength = false then { result := .einval } else s.readValue k a

/-- The arguments of `gatt_notify`. -/
structure GattNotifyArgs where
  characteristicId : Int32
  connectionHandle : Int32
  indication : Int32

/-- `mtu` is the answer of `ble_att_mtu`, `result` that of `ble_gatts_indicate` or
`ble_gatts_notify`. -/
def bmxEmbeddedBleGattNotify (s : BleGatt) (a : GattNotifyArgs) (mtu : UInt16) (result : BleHs) :
    BleHs × List GattSent :=
  match bmxBleGattCharacteristic s.table (gattIdentifier a.characteristicId) with
  | none => (.einval, [])
  | some k =>
    let requiredFlag := if a.indication ≠ 0 then bmxBleGattIndicate else bmxBleGattNotify
    let handle := (s.characteristic k).valueHandle
    if (s.characteristic k).flags &&& requiredFlag = 0 then (.other bleHsEnotsup, [])
    else if s.synced k = false then (.enotsynced, [])
    else if a.connectionHandle < 0 then
      if a.indication ≠ 0 then (.einval, []) else (.ok, [.chrUpdated handle])
    else if a.connectionHandle > 65535 then (.einval, [])
    else if mtu ≤ 3 then (.other bleHsEnotconn, [])
    else if (s.characteristic k).length > mtu - 3 then (.other bleHsEmsgsize, [])
    else
      let connectionHandle := gattIdentifier a.connectionHandle
      (result, [if a.indication ≠ 0 then .indicate connectionHandle handle
        else .notify connectionHandle handle])

/-! ### The interleaving -/

/-- The task of the application; `number` is that of its call. -/
inductive GattAppTask
  | idle
  | storing (k : Fin 32) (bytes : List UInt8) (notifySubscribers : Int32) (number : Nat)
  /-- The value has been stored. -/
  | notifying (k : Fin 32) (number : Nat)
  | reading (k : Fin 32) (a : GattGetArgs) (number : Nat)

/-- A call of the access callback: its arguments, and what the host's own functions answer. -/
structure GattRequest where
  connectionHandle : UInt16
  context : Option BleGattAccessCtxt
  appends : Bool
  flat : FlatAnswer

/-- The whole call, for a record. -/
def GattRequest.access (r : GattRequest) (characteristic : Option BMXBLEGATTCharacteristic) :
    GattAccess :=
  bmxBleGattAccess r.connectionHandle r.context characteristic r.appends r.flat

/-- The host task. -/
inductive GattHostTask
  | idle
  | storing (k : Fin 32) (bytes : List UInt8) (number : Nat)
  | reading (k : Fin 32) (request : GattRequest) (number : Nat)

/-- A read: the length it has found, the bytes it has given back from `offset` on, and how many
stores there had been. -/
structure GattRead where
  k : Fin 32
  offset : Nat
  length : Nat
  bytes : Option (List UInt8)
  stores : Nat

/-- The table, a call of the application and an access of the host, and what they have done. -/
structure GattValues where
  /-- The registration, which is over. -/
  registered : GattSystem
  gatt : BleGatt
  app : GattAppTask := .idle
  host : GattHostTask := .idle
  calls : Nat := 0
  stores : List (Store (Fin 32) (List UInt8)) := []
  /-- The calls that have reported an error. -/
  failed : List Nat := []
  reads : List GattRead := []

/-- The steps of the application and of the host, which go on beside each other. -/
inductive GattValueAction
  | setValue (a : GattSetArgs)
  | getValue (a : GattGetArgs)
  /-- The next step of the application. -/
  | app
  /-- The host calls the callback of definition `j` of service `service`. -/
  | access (service : Fin 8) (j : Fin 9) (request : GattRequest)
  /-- The next step of the host. -/
  | host
  /-- The host is started, synchronised, reset or stopped. -/
  | sync (initialized ready : Bool) (valueHandles : Fin 32 → UInt16)

namespace GattTable

/-- The value handles that the host assigns. -/
def assign (t : GattTable) (valueHandles : Fin 32 → UInt16) : GattTable :=
  { t with
    characteristics := fun k => { t.characteristics k with valueHandle := valueHandles k } }

end GattTable

namespace GattValues

/-- A call begins. -/
def called (s : GattValues) : GattValues := { s with calls := s.calls + 1 }

/-- Note a call that has not touched a value. -/
def fail (s : GattValues) (number : Nat) : GattValues := { s with failed := number :: s.failed }

/-- The critical section of a store. -/
def store (s : GattValues) (k : Fin 32) (bytes : List UInt8) (number : Nat) : GattValues :=
  { s with gatt := s.gatt.store k bytes, stores := s.stores ++ [⟨number, k, bytes⟩] }

/-- A read has found the length and gives back `bytes`, if any. -/
def log (s : GattValues) (k : Fin 32) (offset : Nat) (bytes : Option (List UInt8)) : GattValues :=
  { s with
    reads := s.reads ++
      [⟨k, offset, (s.gatt.characteristic k).length.toNat, bytes, s.stores.length⟩] }

/-- A call with arguments that it accepts goes on to its store. -/
def enterSet (s : GattValues) (a : GattSetArgs) : GattValues :=
  match a.accept s.gatt.table with
  | none => s.called.fail s.calls
  | some k => { s.called with app := .storing k a.bytes a.notifySubscribers s.calls }

/-- A call with arguments that it accepts goes on to its read. -/
def enterGet (s : GattValues) (a : GattGetArgs) : GattValues :=
  match bmxBleGattCharacteristic s.gatt.table (gattIdentifier a.characteristicId) with
  | none => s.called.fail s.calls
  | some k =>
    if a.valueLength = false then s.called.fail s.calls
    else { s.called with app := .reading k a s.calls }

/-- The application's critical section, or what follows it. -/
def stepApp (s : GattValues) : Option GattValues :=
  match s.app with
  | .idle => none
  | .storing k bytes notifySubscribers number =>
    let task := if notifySubscribers = 0 then .idle else .notifying k number
    some { s.store k bytes number with app := task }
  | .notifying k number =>
    let s := { s with app := .idle }
    some (if s.gatt.notifySubscribers k ≠ .ok then s.fail number else s)
  | .reading k a number =>
    let answer := s.gatt.readValue k a
    let s := { s.log k 0 answer.bytes with app := .idle }
    some (if answer.result ≠ .ok then s.fail number else s)

/-- A read goes on with its critical section, and a write if its checks have passed. -/
def enterAccess (s : GattValues) (request : GattRequest) (argument : Option (Fin 32)) :
    GattValues :=
  match argument, request.context with
  | some k, some context =>
    match context.op with
    | .readChr => { s.called with host := .reading k request s.calls }
    | .writeChr =>
      if (request.access (some (s.gatt.characteristic k))).result.isSome = true then
        s.called.fail s.calls
      else { s.called with host := .storing k context.om.data s.calls }
    | .other => s.called.fail s.calls
  | _, _ => s.called.fail s.calls

/-- The host's critical section. -/
def stepHost (s : GattValues) : Option GattValues :=
  match s.host with
  | .idle => none
  | .storing k bytes number => some { s.store k bytes number with host := .idle }
  | .reading k request number =>
    let answer := request.access (some (s.gatt.characteristic k))
    let offset := (request.context.map fun context => context.offset.toNat).getD 0
    let s := { s with host := .idle }
    some (if answer.result.isSome = true then s.fail number
      else s.log k offset (some answer.appended))

/-- Each of the two has at most one call under way. -/
def step (s : GattValues) : GattValueAction → Option GattValues
  | .setValue a =>
    match s.app with
    | .idle => some (s.enterSet a)
    | _ => none
  | .getValue a =>
    match s.app with
    | .idle => some (s.enterGet a)
    | _ => none
  | .app => s.stepApp
  | .access service j request =>
    match s.host with
    | .idle =>
      let definition := s.gatt.table.characteristicDefs service j
      if definition.accessCb = true then some (s.enterAccess request definition.arg) else none
    | _ => none
  | .host => s.stepHost
  | .sync initialized ready valueHandles =>
    some { s with gatt := ⟨s.gatt.table.assign valueHandles, initialized, ready⟩ }

/-- What the characteristics were registered with. -/
def initial (s : GattValues) (k : Fin 32) : List UInt8 :=
  (s.registered.table.characteristics k).bytes

end GattValues

/-- The tables have been registered by any calls; no call is in progress. -/
def gattValueMachine : Machine GattValues GattValueAction where
  init s := gattMachine.Reachable s.registered ∧
    (∃ initialized ready, s.gatt = ⟨s.registered.table, initialized, ready⟩) ∧
    s.app = .idle ∧ s.host = .idle ∧ s.stores = [] ∧ s.failed = [] ∧ s.reads = []
  step := GattValues.step

namespace BleGatt

variable (s : BleGatt) (k : Fin 32) (bytes : List UInt8)

@[simp] theorem store_self :
    (s.store k bytes).characteristic k = (s.characteristic k).store bytes :=
  Function.update_self ..

theorem store_of_ne {l : Fin 32} (h : l ≠ k) :
    (s.store k bytes).characteristic l = s.characteristic l :=
  Function.update_of_ne h ..

/-- Nothing but the value and the length. -/
theorem store_other {α : Type*} (f : BMXBLEGATTCharacteristic → α)
    (hf : ∀ c : BMXBLEGATTCharacteristic, f (c.store bytes) = f c) (l : Fin 32) :
    f ((s.store k bytes).characteristic l) = f (s.characteristic l) := by
  by_cases hl : l = k
  · subst hl
    rw [store_self, hf]
  · rw [store_of_ne s k bytes hl]

end BleGatt

/-! ### A call without interruption -/

/-- The checks of a write, and its store, are the access callback. -/
theorem GattRequest.access_write {r : GattRequest} {context : BleGattAccessCtxt}
    (hcontext : r.context = some context) (hop : context.op = .writeChr)
    (c : BMXBLEGATTCharacteristic) :
    (r.access (some c)).characteristic = some
      (if (r.access (some c)).result.isSome = true then c else c.store context.om.data) := by
  unfold GattRequest.access bmxBleGattAccess
  rw [hcontext]
  simp only [hop]
  unfold bmxBleGattWrite
  split
  · rfl
  · split
    · rfl
    · show some _ = some (c.store context.om.data)
      unfold BMXBLEGATTCharacteristic.store OsMbuf.pktlen
      rw [UInt16.ofNatLT_eq_ofNat]

theorem GattRequest.access_read {r : GattRequest} {context : BleGattAccessCtxt}
    (hcontext : r.context = some context) (hop : context.op = .readChr)
    (c : BMXBLEGATTCharacteristic) : (r.access (some c)).characteristic = some c := by
  unfold GattRequest.access bmxBleGattAccess
  rw [hcontext]
  simp only [hop]
  split
  · rfl
  · split <;> rfl

namespace GattValues

/-- The call that begins in `s` has ended in `s'`, with an error or without. -/
structure Ended (s s' : GattValues) (error : Bool) : Prop where
  app : s'.app = .idle
  host : s'.host = .idle
  failed : s'.failed = if error = true then s.calls :: s.failed else s.failed

/-- **A call of `set_value` without interruption is a run of its steps.** -/
theorem setValue_run (s : GattValues) (happ : s.app = .idle) (hhost : s.host = .idle)
    (a : GattSetArgs) : ∃ actions s', gattValueMachine.run s (.setValue a :: actions) = some s' ∧
      s.Ended s' ((bmxEmbeddedBleGattSetValue s.gatt a).1 != .ok) ∧
      s'.gatt = (bmxEmbeddedBleGattSetValue s.gatt a).2.1 := by
  have henter : gattValueMachine.step s (.setValue a) = some (s.enterSet a) := by
    simp only [gattValueMachine, step, happ]
  unfold enterSet at henter
  unfold bmxEmbeddedBleGattSetValue
  cases haccept : a.accept s.gatt.table with
  | none =>
    rw [haccept] at henter
    exact ⟨[], _, run_cons henter, ⟨happ, hhost, rfl⟩, rfl⟩
  | some k =>
    rw [haccept] at henter
    dsimp only at henter ⊢
    -- the store
    let task : GattAppTask := if a.notifySubscribers = 0 then .idle else .notifying k s.calls
    have hstore : gattValueMachine.step
        { s.called with app := .storing k a.bytes a.notifySubscribers s.calls } .app =
        some { s.called.store k a.bytes s.calls with app := task } := rfl
    by_cases hnotify : a.notifySubscribers = 0
    · have htask : task = .idle := if_pos hnotify
      rw [if_pos hnotify]
      exact ⟨[.app], _, (run_cons henter).trans (run_cons hstore), ⟨htask, hhost, rfl⟩, rfl⟩
    · have htask : task = .notifying k s.calls := if_neg hnotify
      rw [htask] at hstore
      rw [if_neg hnotify]
      -- the checks after it
      by_cases hok : (s.gatt.store k a.bytes).notifySubscribers k = .ok
      · have hcheck : gattValueMachine.step
            { s.called.store k a.bytes s.calls with app := .notifying k s.calls } .app =
            some { s.called.store k a.bytes s.calls with app := .idle } :=
          congrArg some (if_neg (not_not_intro hok))
        rw [if_neg (not_not_intro hok)]
        exact ⟨[.app, .app], _, (run_cons henter).trans ((run_cons hstore).trans (run_cons hcheck)),
          ⟨rfl, hhost, rfl⟩, rfl⟩
      · have hcheck : gattValueMachine.step
            { s.called.store k a.bytes s.calls with app := .notifying k s.calls } .app =
            some ({ s.called.store k a.bytes s.calls with app := .idle }.fail s.calls) :=
          congrArg some (if_pos hok)
        rw [if_pos hok]
        exact ⟨[.app, .app], _, (run_cons henter).trans ((run_cons hstore).trans (run_cons hcheck)),
          ⟨rfl, hhost, (if_pos (bne_iff_ne.mpr hok)).symm⟩, rfl⟩

/-- **A call of `get_value` without interruption is a run of its steps.** -/
theorem getValue_run (s : GattValues) (happ : s.app = .idle) (hhost : s.host = .idle)
    (a : GattGetArgs) : ∃ actions s', gattValueMachine.run s (.getValue a :: actions) = some s' ∧
      s.Ended s' ((bmxEmbeddedBleGattGetValue s.gatt a).result != .ok) ∧ s'.gatt = s.gatt ∧
      s'.reads.map (fun r => (r.length, r.bytes)) = s.reads.map (fun r => (r.length, r.bytes)) ++
        (bmxEmbeddedBleGattGetValue s.gatt a).length.toList.map fun length =>
          (length.toNat, (bmxEmbeddedBleGattGetValue s.gatt a).bytes) := by
  have henter : gattValueMachine.step s (.getValue a) = some (s.enterGet a) := by
    simp only [gattValueMachine, step, happ]
  unfold enterGet at henter
  unfold bmxEmbeddedBleGattGetValue
  cases hk : bmxBleGattCharacteristic s.gatt.table (gattIdentifier a.characteristicId) with
  | none =>
    rw [hk] at henter
    exact ⟨[], _, run_cons henter, ⟨happ, hhost, rfl⟩, rfl, (List.append_nil _).symm⟩
  | some k =>
    rw [hk] at henter
    dsimp only at henter ⊢
    by_cases hlength : a.valueLength = false
    · rw [if_pos hlength] at henter ⊢
      exact ⟨[], _, run_cons henter, ⟨happ, hhost, rfl⟩, rfl, (List.append_nil _).symm⟩
    · rw [if_neg hlength] at henter ⊢
      -- the read is one critical section, whose answer the call returns
      let after : GattValues :=
        { s.called.log k 0 (s.gatt.readValue k a).bytes with app := .idle }
      by_cases hok : (s.gatt.readValue k a).result = .ok
      · have hread : gattValueMachine.step { s.called with app := .reading k a s.calls } .app =
            some after := congrArg some (if_neg (not_not_intro hok))
        rw [hok]
        exact ⟨[.app], _, (run_cons henter).trans (run_cons hread), ⟨rfl, hhost, rfl⟩, rfl,
          List.map_append⟩
      · have hread : gattValueMachine.step { s.called with app := .reading k a s.calls } .app =
            some (after.fail s.calls) := congrArg some (if_pos hok)
        exact ⟨[.app], _, (run_cons henter).trans (run_cons hread),
          ⟨rfl, hhost, (if_pos (bne_iff_ne.mpr hok)).symm⟩, rfl, List.map_append⟩

/-- **A call of the access callback without interruption is a run of its steps.** -/
theorem access_run (s : GattValues) (happ : s.app = .idle) (hhost : s.host = .idle)
    {service : Fin 8} {j : Fin 9} {k : Fin 32} (request : GattRequest)
    (hdefinition : (s.gatt.table.characteristicDefs service j).accessCb = true ∧
      (s.gatt.table.characteristicDefs service j).arg = some k) :
    ∃ actions s', gattValueMachine.run s (.access service j request :: actions) = some s' ∧
      s.Ended s' (request.access (some (s.gatt.characteristic k))).result.isSome ∧
      (request.access (some (s.gatt.characteristic k))).characteristic =
        some (s'.gatt.characteristic k) := by
  have henter : gattValueMachine.step s (.access service j request) =
      some (s.enterAccess request (some k)) := by
    simp only [gattValueMachine, step, hhost, hdefinition.1, hdefinition.2, if_true]
  obtain ⟨connectionHandle, context, appends, flat⟩ := request
  cases context with
  -- no context, or another operation: the callback ends where it begins
  | none => exact ⟨[], _, run_cons henter, ⟨happ, hhost, rfl⟩, rfl⟩
  | some context =>
    obtain ⟨op, om, offset⟩ := context
    cases op with
    | other => exact ⟨[], _, run_cons henter, ⟨happ, hhost, rfl⟩, rfl⟩
    | readChr =>
      let request : GattRequest := ⟨connectionHandle, some ⟨.readChr, om, offset⟩, appends, flat⟩
      have hsame := request.access_read rfl rfl (s.gatt.characteristic k)
      cases hresult : (request.access (some (s.gatt.characteristic k))).result with
      | none =>
        -- the packet takes the value
        have hread : gattValueMachine.step
            { s.called with host := .reading k request s.calls } .host = some
              { s.called.log k offset.toNat
                  (some (request.access (some (s.gatt.characteristic k))).appended) with
                host := .idle } :=
          congrArg some (if_neg (by simp [called, hresult]))
        exact ⟨[.host], _, (run_cons henter).trans (run_cons hread), ⟨happ, rfl, rfl⟩, hsame⟩
      | some err =>
        -- there is no room in the packet
        have hread : gattValueMachine.step
            { s.called with host := .reading k request s.calls } .host =
              some ({ s.called with host := .idle }.fail s.calls) :=
          congrArg some (if_pos (by simp [called, hresult]))
        exact ⟨[.host], _, (run_cons henter).trans (run_cons hread), ⟨happ, rfl, rfl⟩, hsame⟩
    | writeChr =>
      let request : GattRequest := ⟨connectionHandle, some ⟨.writeChr, om, offset⟩, appends, flat⟩
      -- a write that is refused does not reach its critical section
      have hstored := request.access_write rfl rfl (s.gatt.characteristic k)
      dsimp only [enterAccess] at henter
      cases hresult : (request.access (some (s.gatt.characteristic k))).result with
      | none =>
        rw [if_neg (by simp [request, hresult])] at henter
        rw [hresult] at hstored
        refine ⟨[.host], _, (run_cons henter).trans (run_cons rfl), ⟨happ, rfl, rfl⟩, ?_⟩
        exact hstored.trans (congrArg some (BleGatt.store_self ..).symm)
      | some err =>
        rw [if_pos (by simp [request, hresult])] at henter
        rw [hresult] at hstored
        exact ⟨[], _, run_cons henter, ⟨happ, hhost, rfl⟩, hstored⟩

end GattValues

end Esp32Mod
