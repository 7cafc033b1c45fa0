/-
Esp32Mod/TerminalEvents.lean

Terminal notifications: the events that tell an application that an operation it has
started is over.  On the Wi-Fi side this is the last event of `bmx_wifi_scan_done`
(`network.mod/wifi.mod/native/esp32_wifi.c`); on the BLE side these are the scan and
connection events of `bmx_ble_gap_event` and what the GATT client callbacks submit
when they are done (`network.mod/ble.mod/native/esp32_ble.c`).

They go through the same rings of 64 events as the results before them.  A callback is
modelled by the events that it passes to `bmx_wifi_queue` or `bmx_ble_queue`, in order;
the application takes events at any time between two of these calls.

Main results:

* `terminal_notifications` — a terminal notification that finds fewer than 64 events
  waiting is returned by the take that follows those of the events ahead of it; one that
  finds 64 is dropped and counted, as any event is;
* `scan_complete_dropped` — so it can be lost.
-/
import Esp32Mod.EventRings

namespace Esp32Mod

open RingBuffer

/-! ### Wi-Fi scan results -/

/-- `wifi_auth_mode_t`, as far as the adapter tells its values apart. -/
inductive WifiAuthMode
  | authOpen | wep | wpaPsk | wpa2Psk | wpaWpa2Psk | wpa3Psk | wpa2Wpa3Psk | other
  deriving DecidableEq

/-- The bits of the security of a network. -/
def bmxWifiSecurity : WifiAuthMode → UInt8
  | .authOpen => 0
  | .wep => 1
  | .wpaPsk => 2
  | .wpa2Psk => 4
  | .wpaWpa2Psk => 2 ||| 4
  | .wpa3Psk => 8
  | .wpa2Wpa3Psk => 4 ||| 8
  | .other => 0xff

/-- `wifi_ap_record_t`, as far as it is read. -/
structure WifiApRecord where
  ssid : Vector UInt8 33
  bssid : Vector UInt8 6
  primary : UInt8
  rssi : Int8
  authmode : WifiAuthMode

/-- The first `n` bytes of `source`, in a zeroed array. -/
def copied (n : Nat) (source : List UInt8) {size : Nat} : Vector UInt8 size :=
  Vector.ofFn fun i => if i < n then source.getD i 0 else 0

/-- The length of a C string, as far as it is looked at. -/
def strnlen (text : List UInt8) (limit : Nat) : Nat :=
  ((text.take limit).takeWhile (· ≠ 0)).length

/-- The event of a network that a scan has found. -/
def wifiScanResult (record : WifiApRecord) : BMXWiFiEvent :=
  let length := strnlen record.ssid.toList 32
  { kind := .scanResult
    ssidLength := length.toUInt8
    ssid := copied length record.ssid.toList
    bssid := record.bssid
    channel := record.primary.toUInt16
    rssi := record.rssi.toInt16
    security := bmxWifiSecurity record.authmode }

/-- The loop over the records, up to the first that cannot be read. -/
def wifiScanResults (record : Nat → Option WifiApRecord) : Nat → Nat → List BMXWiFiEvent
  | 0, _ => []
  | available + 1, index =>
    match record index with
    | none => []
    | some r => wifiScanResult r :: wifiScanResults record available (index + 1)

/-- The last event of a scan. -/
def wifiScanComplete : BMXWiFiEvent := { kind := .scanComplete }

/-- `apNum` is `none` if `esp_wifi_scan_get_ap_num` fails. -/
def bmxWifiScanDone (apNum : Option UInt16) (record : Nat → Option WifiApRecord) :
    List BMXWiFiEvent :=
  (match apNum with
    | none => []
    | some available => wifiScanResults record available.toNat 0) ++ [wifiScanComplete]

/-! ### BLE notifications -/

/-- `ble_addr_t`. -/
structure BleAddr where
  type : UInt8
  val : Vector UInt8 6

/-- Addresses are stored in reverse. -/
def bmxBleCopyAddress (event : BMXBLEEvent) (address : BleAddr) : BMXBLEEvent :=
  { event with addressType := address.type, address := address.val.reverse }

/-- `struct ble_gap_conn_desc`, as far as it is read. -/
structure BleConnDesc where
  role : UInt8
  peerOtaAddr : BleAddr

/-- `BLE_GAP_ROLE_MASTER`. -/
def bleGapRoleMaster : UInt8 := 0

/-- `BLE_GAP_EVENT_CONNECT`; `found` is the answer of `ble_gap_conn_find`. -/
def bleConnected (status : Int32) (connHandle : UInt16) (outbound : Bool)
    (found : Option BleConnDesc) : BMXBLEEvent :=
  let queued : BMXBLEEvent := { kind := .connected, status, connectionHandle := connHandle }
  if status = 0 then
    match found with
    | none => queued
    | some description =>
      { bmxBleCopyAddress queued description.peerOtaAddr with properties := description.role }
  else if outbound then { queued with properties := bleGapRoleMaster }
  else queued

/-- `BLE_GAP_EVENT_DISCONNECT`. -/
def bleDisconnected (reason : Int32) (connHandle : UInt16) (conn : BleConnDesc) : BMXBLEEvent :=
  { bmxBleCopyAddress { kind := .disconnected, status := reason, connectionHandle := connHandle }
      conn.peerOtaAddr with properties := conn.role }

/-- The code of `BLE_HS_EDONE`. -/
def bleHsEdone : Int32 := 14

/-- The status of an operation that is over. -/
def bleDoneStatus (status : Int32) : Int32 := if status = bleHsEdone then 0 else status

/-- `text` is what `ble_uuid_to_str` writes. -/
def bmxBleQueueUuid (event : BMXBLEEvent) (text : List UInt8) : BMXBLEEvent :=
  { event with dataLength := text.length.toUInt16, data := copied text.length text }

/-- A discovery callback: the item that was found, or the end of the discovery. -/
def bleDiscovery {β : Type} (event : BMXBLEEvent) (complete : BleEventKind)
    (found : β → BMXBLEEvent) (status : Int32) (item : Option β) : BMXBLEEvent :=
  match item with
  | some x =>
    if status = 0 then found x
    else { event with kind := complete, status := bleDoneStatus status }
  | none => { event with kind := complete, status := bleDoneStatus status }

/-- `struct ble_gatt_svc`. -/
structure BleGattSvc where
  startHandle : UInt16
  endHandle : UInt16
  uuid : List UInt8

/-- The event of a service, or of the end of the discovery. -/
def bmxBleClientServiceCallback (connectionHandle : UInt16) (status : Int32)
    (service : Option BleGattSvc) : BMXBLEEvent :=
  let event : BMXBLEEvent := { kind := .serviceDiscovered, connectionHandle }
  bleDiscovery event .serviceDiscoveryComplete
    (fun x => bmxBleQueueUuid
      { event with attributeId := x.startHandle, attributeEnd := x.endHandle } x.uuid)
    status service

/-- `struct ble_gatt_chr`. -/
structure BleGattChr where
  defHandle : UInt16
  valHandle : UInt16
  properties : UInt8
  uuid : List UInt8

/-- The event of a characteristic, or of the end of the discovery. -/
def bmxBleClientCharacteristicCallback (connectionHandle : UInt16) (status : Int32)
    (characteristic : Option BleGattChr) (parent : UInt16) : BMXBLEEvent :=
  let event : BMXBLEEvent :=
    { kind := .characteristicDiscovered, connectionHandle, parentAttribute := parent }
  bleDiscovery event .characteristicDiscoveryComplete
    (fun x => bmxBleQueueUuid
      { event with
        attributeId := x.defHandle, attributeEnd := x.valHandle, properties := x.properties }
      x.uuid)
    status characteristic

/-- `struct ble_gatt_dsc`. -/
structure BleGattDsc where
  handle : UInt16
  uuid : List UInt8

/-- The event of a descriptor, or of the end of the discovery. -/
def bmxBleClientDescriptorCallback (connectionHandle : UInt16) (status : Int32)
    (characteristicValueHandle : UInt16) (descriptor : Option BleGattDsc) : BMXBLEEvent :=
  let event : BMXBLEEvent :=
    { kind := .descriptorDiscovered, connectionHandle
      parentAttribute := characteristicValueHandle }
  bleDiscovery event .descriptorDiscoveryComplete
    (fun x => bmxBleQueueUuid { event with attributeId := x.handle } x.uuid) status descriptor

/-- The slot of a read. -/
structure BMXBLEClientRead where
  active : Bool
  connectionHandle : UInt16
  attributeHandle : UInt16
  startOffset : UInt16
  length : UInt16
  value : Vector UInt8 512

/-- The event of a read that is over, whose slot is free again. -/
def bmxBleClientReadComplete (read : BMXBLEClientRead) (status : Int32) :
    BMXBLEEvent × BMXBLEClientRead :=
  ({ kind := .readComplete
     connectionHandle := read.connectionHandle
     attributeId := read.attributeHandle
     status := bleDoneStatus status
     dataLength := read.length
     data := copied read.length.toNat read.value.toList },
    { read with active := false })

/-- The event of a write that is over. -/
def bmxBleClientWriteCallback (connectionHandle : UInt16) (status : Int32) (attributeHandle : UInt16) :
    BMXBLEEvent :=
  { kind := .writeComplete, connectionHandle, attributeId := attributeHandle, status }

/-- What ends an operation that the application has started. -/
inductive BleTerminal
  /-- `bmx_ble_queue_status(BMX_BLE_SCAN_COMPLETE, status)` -/
  | scanComplete (status : Int32)
  | connected (status : Int32) (connHandle : UInt16) (outbound : Bool)
    (found : Option BleConnDesc)
  | disconnected (reason : Int32) (connHandle : UInt16) (conn : BleConnDesc)
  | readComplete (read : BMXBLEClientRead) (status : Int32)
  | writeComplete (connectionHandle : UInt16) (status : Int32) (attributeHandle : UInt16)
  | servicesDone (connectionHandle : UInt16) (status : Int32)
  | characteristicsDone (connectionHandle : UInt16) (status : Int32) (parent : UInt16)
  | descriptorsDone (connectionHandle : UInt16) (status : Int32)
    (characteristicValueHandle : UInt16)

/-- The event that is submitted. -/
def BleTerminal.event : BleTerminal → BMXBLEEvent
  | scanComplete status => { kind := .scanComplete, status }
  | connected status connHandle outbound found => bleConnected status connHandle outbound found
  | disconnected reason connHandle conn => bleDisconnected reason connHandle conn
  | readComplete read status => (bmxBleClientReadComplete read status).1
  | writeComplete connectionHandle status attributeHandle =>
    bmxBleClientWriteCallback connectionHandle status attributeHandle
  | servicesDone connectionHandle status =>
    bmxBleClientServiceCallback connectionHandle status none
  | characteristicsDone connectionHandle status parent =>
    bmxBleClientCharacteristicCallback connectionHandle status none parent
  | descriptorsDone connectionHandle status characteristicValueHandle =>
    bmxBleClientDescriptorCallback connectionHandle status characteristicValueHandle none

/-- The kinds that end an operation. -/
def BleEventKind.terminal : BleEventKind → Bool
  | scanComplete | connected | disconnected | readComplete | writeComplete
  | serviceDiscoveryComplete | characteristicDiscoveryComplete
  | descriptorDiscoveryComplete => true
  | _ => false

/-- Every terminal notification has a terminal kind. -/
theorem BleTerminal.kind_terminal (t : BleTerminal) : t.event.kind.terminal = true := by
  cases t with
  | connected status connHandle outbound found =>
    simp only [event, bleConnected]
    split
    · cases found <;> rfl
    · split <;> rfl
  | _ => rfl

/-- A discovery goes on exactly while its callback gets an item without an error. -/
theorem bleDiscovery_terminal_iff {β : Type} {event : BMXBLEEvent} {complete : BleEventKind}
    {found : β → BMXBLEEvent} (hcomplete : complete.terminal = true)
    (hfound : ∀ x, (found x).kind.terminal = false) (status : Int32) (item : Option β) :
    (bleDiscovery event complete found status item).kind.terminal = true ↔
      ¬ (status = 0 ∧ item.isSome = true) := by
  cases item with
  | none => simp [bleDiscovery, hcomplete]
  | some x =>
    by_cases hstatus : status = 0
    · simp [bleDiscovery, hstatus, hfound]
    · simp [bleDiscovery, hstatus, hcomplete]

/-- Each of the three discovery callbacks does so. -/
theorem discovery_terminal_iff (connectionHandle : UInt16) (status : Int32) :
    (∀ service, (bmxBleClientServiceCallback connectionHandle status service).kind.terminal = true ↔
      ¬ (status = 0 ∧ service.isSome = true)) ∧
    (∀ characteristic parent, (bmxBleClientCharacteristicCallback connectionHandle status
      characteristic parent).kind.terminal = true ↔
        ¬ (status = 0 ∧ characteristic.isSome = true)) ∧
    ∀ descriptor parent, (bmxBleClientDescriptorCallback connectionHandle status parent
      descriptor).kind.terminal = true ↔ ¬ (status = 0 ∧ descriptor.isSome = true) :=
  ⟨fun service => bleDiscovery_terminal_iff rfl (fun _ => rfl) status service,
    fun characteristic _ => bleDiscovery_terminal_iff rfl (fun _ => rfl) status characteristic,
    fun descriptor _ => bleDiscovery_terminal_iff rfl (fun _ => rfl) status descriptor⟩

/-! ### Full and not full -/

/-- What becomes of an event `e` that is posted to a ring of `c.size` events in state `m`. -/
structure PostOutcome {α ο : Type} {c : Capacity} (q : QueueOps α ο (Mailbox α c)) (out : α → ο)
    (e : α) (m : Mailbox α c) : Prop where
  /-- The take after those of the waiting events returns it, whatever else happens. -/
  kept : m.ring.count.toNat < c.size.toNat → (q.post e m).1 = true ∧
    ∀ ops : List (Op α), m.ring.count.toNat < ops.countP Op.isTake →
      ((q.performAll m (.post e :: ops)).1.filterMap Answer.item?)[m.ring.count.toNat]? =
        some (out e)
  /-- A full ring keeps its events and counts this one. -/
  dropped : m.ring.count.toNat = c.size.toNat →
    q.post e m = (false, { m with dropped := bumpSaturating m.dropped })

theorem postOutcome {α ο : Type} {c : Capacity} {q : QueueOps α ο (Mailbox α c)} {out : α → ο}
    (hq : RefinesFifo q c.size.toNat some out) (hpost : ∀ e m, q.post e m = m.post e) (e : α)
    (m : Mailbox α c) : PostOutcome q out e m := by
  refine ⟨?_, ?_⟩
  · intro hroom
    refine ⟨?_, fun ops htakes => hq.handed_out rfl m hroom ops htakes⟩
    rw [hpost]
    exact (m.post_of_lt e (by rwa [Ring.length_contents])).1
  · intro hfull
    rw [hpost]
    exact m.post_of_full e (by rwa [Ring.length_contents])

/-! ### A scan between takes -/

/-- The events of a scan that is interleaved with takes: the last post is its completion. -/
theorem split_scan {results : List BMXWiFiEvent} {ops : List (Op BMXWiFiEvent)}
    (hops : ops.filterMap Op.posted? = results ++ [wifiScanComplete]) :
    ∃ before after, ops = before ++ .post wifiScanComplete :: after ∧
      before.filterMap Op.posted? = results := by
  obtain ⟨first, second, rfl, hfirst, hsecond⟩ := List.filterMap_eq_append_iff.mp hops
  obtain ⟨takes, op, after, rfl, htakes, hop, -⟩ := List.filterMap_eq_cons_iff.mp hsecond
  obtain rfl : op = .post wifiScanComplete := by
    cases op with
    | post e => rw [Option.some.inj hop]
    | take => cases hop
  refine ⟨first ++ takes, after, by rw [List.append_assoc], ?_⟩
  rw [List.filterMap_append, hfirst, List.filterMap_eq_nil_iff.mpr htakes, List.append_nil]

/-- A scan that fits into the ring is completed: whatever is taken meanwhile, 64 takes after
it are enough to get its completion. -/
theorem scan_complete_taken (m : WifiRing) (apNum : Option UInt16)
    (record : Nat → Option WifiApRecord) (ops after : List (Op BMXWiFiEvent))
    (hops : ops.filterMap Op.posted? = bmxWifiScanDone apNum record)
    (hfits : m.ring.count.toNat + (bmxWifiScanDone apNum record).length ≤ 64)
    (htakes : 64 ≤ after.countP Op.isTake) :
    wifiScanComplete.taken ∈ (wifiOps.performAll m (ops ++ after)).1.filterMap Answer.item? := by
  obtain ⟨before, rest, rfl, hbefore⟩ := split_scan hops
  have hcount := wifi_refines_fifo.count_le m before
  have hlength : (bmxWifiScanDone apNum record).length =
      (before.filterMap Op.posted?).length + 1 := by
    rw [hbefore]
    exact List.length_append
  rw [List.append_assoc, List.cons_append, QueueOps.performAll_append, List.filterMap_append]
  -- when the completion is posted there is room, whatever was taken before
  refine List.mem_append_right _ (List.mem_of_getElem? (wifi_refines_fifo.handed_out rfl
    (wifiOps.performAll m before).2 (by omega) (rest ++ after) ?_))
  rw [List.countP_append]
  omega

/-! ### Main results -/

/-- **Terminal notifications.**  On the BLE and on the Wi-Fi ring, in any state: with fewer
than 64 events waiting a terminal notification is stored, and returned by the take that
follows those of the waiting events; with 64 waiting it is dropped and counted.  A Wi-Fi scan
that fits into the ring is always completed. -/
theorem terminal_notifications :
    (∀ (t : BleTerminal) (m : BleRing), PostOutcome bleOps BMXBLEEvent.taken t.event m) ∧
    (∀ m : WifiRing, PostOutcome wifiOps BMXWiFiEvent.taken wifiScanComplete m) ∧
    ∀ (m : WifiRing) (apNum : Option UInt16) (record : Nat → Option WifiApRecord)
      (ops after : List (Op BMXWiFiEvent)),
      ops.filterMap Op.posted? = bmxWifiScanDone apNum record →
      m.ring.count.toNat + (bmxWifiScanDone apNum record).length ≤ 64 →
      64 ≤ after.countP Op.isTake →
      wifiScanComplete.taken ∈ (wifiOps.performAll m (ops ++ after)).1.filterMap Answer.item? :=
  ⟨fun t m => postOutcome ble_refines_fifo (fun _ _ => rfl) t.event m,
    fun m => postOutcome wifi_refines_fifo (fun _ _ => rfl) wifiScanComplete m,
    scan_complete_taken⟩

/-- A ring whose counters wrap next, with 61 events waiting. -/
def occupiedWifiRing : WifiRing where
  ring := { slots := fun _ => { kind := .linkState }, put := 57, get := 0xfffffffc,
            bounded := by decide }
  dropped := 3

/-- A network that a scan has found. -/
def scannedNetwork : WifiApRecord where
  ssid := copied 4 [104, 111, 109, 101]
  bssid := copied 6 [1, 2, 3, 4, 5, 6]
  primary := 11
  rssi := -40
  authmode := .wpa2Psk

/-- A scan with two results on a ring that is nearly full, with takes in between. -/
theorem terminal_notifications_occupied :
    wifiScanComplete.taken ∈ (wifiOps.performAll occupiedWifiRing
      ([.post (wifiScanResult scannedNetwork), .take, .post (wifiScanResult scannedNetwork), .take, .take,
        .post wifiScanComplete] ++ List.replicate 64 .take)).1.filterMap Answer.item? :=
  terminal_notifications.2.2 occupiedWifiRing (some 2) (fun _ => some scannedNetwork)
    [.post (wifiScanResult scannedNetwork), .take, .post (wifiScanResult scannedNetwork), .take, .take,
      .post wifiScanComplete] (List.replicate 64 .take) rfl (by decide) (by decide)

/-- A ring of 64 scan results, all of them waiting. -/
def fullWifiRing : WifiRing where
  ring := { slots := fun _ => { kind := .scanResult }, put := 64, get := 0, bounded := by decide }
  dropped := 0

/-- The completion of a scan is dropped by a full ring, and no take ever returns one. -/
theorem scan_complete_dropped :
    bmxWifiScanDone (some 0) (fun _ => none) = [wifiScanComplete] ∧
    ∀ k, wifiScanComplete.taken ∉ (wifiOps.performAll fullWifiRing
      (.post wifiScanComplete :: List.replicate k .take)).1.filterMap Answer.item? := by
  refine ⟨rfl, ?_⟩
  intro k hmem
  let dropping : WifiRing := { fullWifiRing with dropped := 1 }
  have hanswers : (wifiOps.performAll fullWifiRing
      (.post wifiScanComplete :: List.replicate k .take)).1.filterMap Answer.item? =
      (wifiOps.performAll dropping (List.replicate k .take)).1.filterMap Answer.item? := rfl
  rw [hanswers, wifi_refines_fifo.delivered] at hmem
  obtain ⟨e, he, htaken⟩ := List.mem_map.mp hmem
  obtain rfl := BMXWiFiEvent.taken_injective htaken
  rcases Ledger.mem_accepted_performAll _ _ _ _ _ (List.mem_of_mem_take he) with hold | ⟨a, ha, -⟩
  · -- only scan results are waiting
    obtain ⟨i, -, hi⟩ := List.mem_map.mp hold
    have hkind : WifiEventKind.scanResult = .scanComplete := congrArg BMXWiFiEvent.kind hi
    cases hkind
  · obtain ⟨op, hop, hposted⟩ := List.mem_filterMap.mp ha
    rw [List.eq_of_mem_replicate hop] at hposted
    cases hposted

end Esp32Mod
