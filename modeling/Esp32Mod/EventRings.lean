/-
Esp32Mod/EventRings.lean

The four native event rings: the deferred events of the runtime
(`runtime.mod/native/esp32_events.c`), and the rings of the BLE, Wi-Fi and Ethernet
adapters (`esp32_ble.c`, `esp32_wifi.c`, `esp32_ethernet.c`).

Each ring is a static array of 32, 64, 64 or 16 records with two free-running
`uint32_t` counters and a drop counter, accessed only inside one critical section, so
each of them is a `RingBuffer.Mailbox`.  What differs is the record that is stored,
the record that a take copies out, and that the deferred ring refuses token 0.

An operation below is the body of one critical section.  The wake-up that follows
a successful post is modelled in `Esp32Mod.EventSignal`.

Main result: `event_rings_refine_fifo` — each ring is a bounded FIFO of its
capacity, for every content and every counter value it starts with.
-/
import Esp32Mod.Mailbox

namespace Esp32Mod

open RingBuffer

/-! ### Deferred events -/

/-- `BMX_ESP32_EVENT_CAPACITY`. -/
def bmxEsp32EventCapacity : Capacity := ⟨32, 5, by decide, rfl⟩

/-- A record of the deferred ring: the token of the poster, and its four payload words. -/
structure BMXESP32DeferredEvent where
  token : UInt32
  eventData : UInt32
  eventMods : UInt32
  eventX : UInt32
  eventY : UInt32
  deriving DecidableEq, Inhabited

/-- `bmx_esp32_deferred_events` with its put, get and dropped counters. -/
abbrev DeferredRing := Mailbox BMXESP32DeferredEvent bmxEsp32EventCapacity

/-- The body of the critical section that every post shares. -/
def bmxEsp32EventPostLocked (token eventData eventMods eventX eventY : UInt32)
    (m : DeferredRing) : Bool × DeferredRing :=
  m.post { token, eventData, eventMods, eventX, eventY }

/-- A post from a task.  Token 0 is refused outside the section and not counted. -/
def bmxEmbeddedEventPostEx (token eventData eventMods eventX eventY : UInt32)
    (m : DeferredRing) : Bool × DeferredRing :=
  if token = 0 then (false, m)
  else bmxEsp32EventPostLocked token eventData eventMods eventX eventY m

/-- The short form: `detail` is the `x` of the event, and the other words are 0. -/
def bmxEmbeddedEventPost (token eventData detail : UInt32) (m : DeferredRing) :
    Bool × DeferredRing :=
  bmxEmbeddedEventPostEx token eventData 0 detail 0 m

/-- A post from an interrupt, with the same checks. -/
def bmxEmbeddedEventPostFromIsrEx (token eventData eventMods eventX eventY : UInt32)
    (m : DeferredRing) : Bool × DeferredRing :=
  if token = 0 then (false, m)
  else bmxEsp32EventPostLocked token eventData eventMods eventX eventY m

/-- The short form of a post from an interrupt. -/
def bmxEmbeddedEventPostFromIsr (token eventData detail : UInt32) (m : DeferredRing) :
    Bool × DeferredRing :=
  bmxEmbeddedEventPostFromIsrEx token eventData 0 detail 0 m

/-- The five out-parameters receive the five fields. -/
def bmxEmbeddedEventTake (m : DeferredRing) : Option (BMXESP32DeferredEvent × DeferredRing) :=
  m.take

/-- The number of events waiting, as the difference of two counters that may have wrapped. -/
def bmxEmbeddedEventPending (m : DeferredRing) : UInt32 := m.ring.put - m.ring.get

/-- The drop counter, which stops at its largest value. -/
def bmxEmbeddedEventDropped (m : DeferredRing) : UInt32 := m.dropped

/-- The four ways to post a deferred event. -/
inductive DeferredPost
  | post (token eventData detail : UInt32)
  | postEx (token eventData eventMods eventX eventY : UInt32)
  | postFromIsr (token eventData detail : UInt32)
  | postFromIsrEx (token eventData eventMods eventX eventY : UInt32)

/-- The record a post asks to store. -/
def DeferredPost.event : DeferredPost → BMXESP32DeferredEvent
  | post token eventData detail | postFromIsr token eventData detail =>
    ⟨token, eventData, 0, detail, 0⟩
  | postEx token eventData eventMods eventX eventY
  | postFromIsrEx token eventData eventMods eventX eventY =>
    ⟨token, eventData, eventMods, eventX, eventY⟩

/-- The function of the source that makes the post. -/
def DeferredPost.call : DeferredPost → DeferredRing → Bool × DeferredRing
  | post token eventData detail => bmxEmbeddedEventPost token eventData detail
  | postEx token eventData eventMods eventX eventY =>
    bmxEmbeddedEventPostEx token eventData eventMods eventX eventY
  | postFromIsr token eventData detail => bmxEmbeddedEventPostFromIsr token eventData detail
  | postFromIsrEx token eventData eventMods eventX eventY =>
    bmxEmbeddedEventPostFromIsrEx token eventData eventMods eventX eventY

theorem DeferredPost.call_eq (p : DeferredPost) (m : DeferredRing) :
    p.call m = if p.event.token = 0 then (false, m) else m.post p.event := by
  cases p <;> rfl

/-- The deferred ring as its clients see it. -/
def deferredOps : QueueOps DeferredPost BMXESP32DeferredEvent DeferredRing where
  post := DeferredPost.call
  take := bmxEmbeddedEventTake

/-! ### BLE events -/

/-- `BMX_BLE_EVENT_CAPACITY`. -/
def bmxBleEventCapacity : Capacity := ⟨64, 6, by decide, rfl⟩

/-- The `kind` constants of `esp32_ble.c`. -/
inductive BleEventKind
  | ready | scanResult | scanComplete | reset | connected | disconnected | gattWrite
  | gattSubscribe | advComplete | serviceDiscovered | serviceDiscoveryComplete
  | characteristicDiscovered | characteristicDiscoveryComplete | descriptorDiscovered
  | descriptorDiscoveryComplete | readComplete | writeComplete | notification | mtuChanged
  | gattUpdateComplete | securityChanged | passkeyAction | connectionUpdated | phyUpdated
  deriving DecidableEq, Inhabited

/-- `BMX_BLE_READY` is 1, `BMX_BLE_SCAN_RESULT` is 2, and so on. -/
def BleEventKind.code (k : BleEventKind) : Int := k.ctorIdx + 1

/-- A record of the BLE ring.  Each kind fills the fields it needs and leaves the others zero. -/
structure BMXBLEEvent where
  kind : BleEventKind
  status : Int32 := 0
  addressType : UInt8 := 0
  address : Vector UInt8 6 := Vector.replicate 6 0
  eventType : UInt8 := 0
  rssi : Int8 := 0
  dataLength : UInt16 := 0
  data : Vector UInt8 512 := Vector.replicate 512 0
  connectionHandle : UInt16 := 0
  attributeId : UInt16 := 0
  notifications : UInt8 := 0
  indications : UInt8 := 0
  attributeEnd : UInt16 := 0
  parentAttribute : UInt16 := 0
  properties : UInt8 := 0
  deriving DecidableEq, Inhabited

/-- `bmx_ble_events` with its put, get and dropped counters. -/
abbrev BleRing := Mailbox BMXBLEEvent bmxBleEventCapacity

/-- The out-parameters of `bmx_embedded_ble_take_event`, all but the two buffers `int32_t`. -/
structure BleTaken where
  kind : Int
  status : Int
  addressType : Int
  address : Vector UInt8 6
  eventType : Int
  rssi : Int
  data : Vector UInt8 512
  dataLength : Int
  connectionHandle : Int
  attributeId : Int
  notifications : Int
  indications : Int
  attributeEnd : Int
  parentAttribute : Int
  properties : Int
  deriving DecidableEq

/-- What a take copies out: every field, widened to its out-parameter. -/
def BMXBLEEvent.taken (e : BMXBLEEvent) : BleTaken where
  kind := e.kind.code
  status := e.status.toInt
  addressType := e.addressType.toNat
  address := e.address
  eventType := e.eventType.toNat
  rssi := e.rssi.toInt
  data := e.data
  dataLength := e.dataLength.toNat
  connectionHandle := e.connectionHandle.toNat
  attributeId := e.attributeId.toNat
  notifications := e.notifications.toNat
  indications := e.indications.toNat
  attributeEnd := e.attributeEnd.toNat
  parentAttribute := e.parentAttribute.toNat
  properties := e.properties.toNat

/-- The critical section of `bmx_ble_queue`. -/
def bmxBleQueue (event : BMXBLEEvent) (m : BleRing) : Bool × BleRing := m.post event

/-- The critical section of a take, and the copying after it. -/
def bmxEmbeddedBleTakeEvent (m : BleRing) : Option (BleTaken × BleRing) :=
  m.take.map fun p => (p.1.taken, p.2)

/-- The drop counter of the BLE ring. -/
def bmxEmbeddedBleDroppedEvents (m : BleRing) : UInt32 := m.dropped

/-- The BLE ring as its clients see it. -/
def bleOps : QueueOps BMXBLEEvent BleTaken BleRing where
  post := bmxBleQueue
  take := bmxEmbeddedBleTakeEvent

/-! ### Wi-Fi events -/

/-- `BMX_WIFI_EVENT_CAPACITY`. -/
def bmxWifiEventCapacity : Capacity := ⟨64, 6, by decide, rfl⟩

/-- The `kind` constants of `esp32_wifi.c`. -/
inductive WifiEventKind
  | scanResult | scanComplete | linkState
  deriving DecidableEq, Inhabited

/-- `BMX_WIFI_SCAN_RESULT` is 1, and so on. -/
def WifiEventKind.code (k : WifiEventKind) : Int := k.ctorIdx + 1

/-- A record of the Wi-Fi ring: a network that was found, or a state of the link. -/
structure BMXWiFiEvent where
  kind : WifiEventKind
  ssidLength : UInt8 := 0
  ssid : Vector UInt8 32 := Vector.replicate 32 0
  bssid : Vector UInt8 6 := Vector.replicate 6 0
  channel : UInt16 := 0
  rssi : Int16 := 0
  security : UInt8 := 0
  linkStatus : Int32 := 0
  address : UInt32 := 0
  netmask : UInt32 := 0
  gateway : UInt32 := 0
  deriving DecidableEq, Inhabited

/-- `bmx_wifi_events` with its put, get and dropped counters. -/
abbrev WifiRing := Mailbox BMXWiFiEvent bmxWifiEventCapacity

/-- The out-parameters of `bmx_embedded_wifi_take_event`. -/
structure WifiTaken where
  kind : Int
  ssid : Vector UInt8 32
  ssidLength : Int
  bssid : Vector UInt8 6
  channel : Int
  rssi : Int
  security : Int
  linkStatus : Int
  address : UInt32
  netmask : UInt32
  gateway : UInt32
  deriving DecidableEq

/-- What a take copies out. -/
def BMXWiFiEvent.taken (e : BMXWiFiEvent) : WifiTaken where
  kind := e.kind.code
  ssid := e.ssid
  ssidLength := e.ssidLength.toNat
  bssid := e.bssid
  channel := e.channel.toNat
  rssi := e.rssi.toInt
  security := e.security.toNat
  linkStatus := e.linkStatus.toInt
  address := e.address
  netmask := e.netmask
  gateway := e.gateway

/-- The critical section of `bmx_wifi_queue`. -/
def bmxWifiQueue (event : BMXWiFiEvent) (m : WifiRing) : Bool × WifiRing := m.post event

/-- The critical section of a take, and the copying after it. -/
def bmxEmbeddedWifiTakeEvent (m : WifiRing) : Option (WifiTaken × WifiRing) :=
  m.take.map fun p => (p.1.taken, p.2)

/-- The drop counter of the Wi-Fi ring. -/
def bmxEmbeddedWifiDroppedEvents (m : WifiRing) : UInt32 := m.dropped

/-- The Wi-Fi ring as its clients see it. -/
def wifiOps : QueueOps BMXWiFiEvent WifiTaken WifiRing where
  post := bmxWifiQueue
  take := bmxEmbeddedWifiTakeEvent

/-! ### Ethernet events -/

/-- `BMX_ETHERNET_EVENT_CAPACITY`. -/
def bmxEthernetEventCapacity : Capacity := ⟨16, 4, by decide, rfl⟩

/-- A record of the Ethernet ring: the link as it is when the event is queued. -/
structure BMXEthernetEvent where
  kind : Int32 := 0
  linkStatus : Int32 := 0
  address : UInt32 := 0
  netmask : UInt32 := 0
  gateway : UInt32 := 0
  mac : Vector UInt8 6 := Vector.replicate 6 0
  speed : Int32 := 0
  fullDuplex : Int32 := 0
  deriving DecidableEq, Inhabited

/-- `bmx_ethernet_events` with its put, get and dropped counters. -/
abbrev EthernetRing := Mailbox BMXEthernetEvent bmxEthernetEventCapacity

/-- The critical section of `bmx_ethernet_queue`. -/
def bmxEthernetQueue (event : BMXEthernetEvent) (m : EthernetRing) : Bool × EthernetRing :=
  m.post event

/-- The eight out-parameters have the types of the eight fields. -/
def bmxEmbeddedEthernetTakeEvent (m : EthernetRing) :
    Option (BMXEthernetEvent × EthernetRing) :=
  m.take

/-- The drop counter of the Ethernet ring. -/
def bmxEmbeddedEthernetDroppedEvents (m : EthernetRing) : UInt32 := m.dropped

/-- The Ethernet ring as its clients see it. -/
def ethernetOps : QueueOps BMXEthernetEvent BMXEthernetEvent EthernetRing where
  post := bmxEthernetQueue
  take := bmxEmbeddedEthernetTakeEvent

/-! ### Taking an event loses nothing -/

theorem BleEventKind.code_injective : Function.Injective BleEventKind.code := by
  intro k k' h
  cases k <;> cases k' <;> first | rfl | exact absurd h (by decide)

theorem WifiEventKind.code_injective : Function.Injective WifiEventKind.code := by
  intro k k' h
  cases k <;> cases k' <;> first | rfl | exact absurd h (by decide)

theorem BMXBLEEvent.taken_injective : Function.Injective BMXBLEEvent.taken := by
  intro e e' h
  cases e
  cases e'
  simp only [BMXBLEEvent.taken, BleTaken.mk.injEq, Int.natCast_inj, UInt8.toNat_inj,
    UInt16.toNat_inj, Int8.toInt_inj, Int32.toInt_inj, BleEventKind.code_injective.eq_iff] at h
  simp only [h]

theorem BMXWiFiEvent.taken_injective : Function.Injective BMXWiFiEvent.taken := by
  intro e e' h
  cases e
  cases e'
  simp only [BMXWiFiEvent.taken, WifiTaken.mk.injEq, Int.natCast_inj, UInt8.toNat_inj,
    UInt16.toNat_inj, Int16.toInt_inj, Int32.toInt_inj, WifiEventKind.code_injective.eq_iff] at h
  simp only [h]

/-! ### The rings are bounded FIFOs -/

/-- The event a post stores: none if its token is 0. -/
def DeferredPost.stored? (p : DeferredPost) : Option BMXESP32DeferredEvent :=
  if p.event.token = 0 then none else some p.event

theorem deferred_refines_fifo : RefinesFifo deferredOps 32 DeferredPost.stored? id :=
  Mailbox.refinesFifo (c := bmxEsp32EventCapacity)
    (fun p m => by
      show p.call m = _
      rw [p.call_eq, DeferredPost.stored?]
      split <;> rfl)
    fun _ => Option.map_id'.symm

theorem ble_refines_fifo : RefinesFifo bleOps 64 some BMXBLEEvent.taken :=
  Mailbox.refinesFifo (c := bmxBleEventCapacity) (fun _ _ => rfl) fun _ => rfl

theorem wifi_refines_fifo : RefinesFifo wifiOps 64 some BMXWiFiEvent.taken :=
  Mailbox.refinesFifo (c := bmxWifiEventCapacity) (fun _ _ => rfl) fun _ => rfl

theorem ethernet_refines_fifo : RefinesFifo ethernetOps 16 some id :=
  Mailbox.refinesFifo (c := bmxEthernetEventCapacity) (fun _ _ => rfl)
    fun _ => Option.map_id'.symm

/-- **The four event rings are bounded FIFOs** of 32, 64, 64 and 16 events, from every
content and every value of the counters.  What a take copies out determines the
event that was posted, the queries read the counters the refinement speaks of, and
a deferred post with token 0 changes nothing. -/
theorem event_rings_refine_fifo :
    (RefinesFifo deferredOps 32 DeferredPost.stored? id ∧
      RefinesFifo bleOps 64 some BMXBLEEvent.taken ∧
      RefinesFifo wifiOps 64 some BMXWiFiEvent.taken ∧
      RefinesFifo ethernetOps 16 some id) ∧
    (Function.Injective BMXBLEEvent.taken ∧ Function.Injective BMXWiFiEvent.taken) ∧
    ((∀ m, bmxEmbeddedEventPending m = m.ring.count) ∧
      (∀ m, bmxEmbeddedEventDropped m = m.dropped) ∧
      (∀ m, bmxEmbeddedBleDroppedEvents m = m.dropped) ∧
      (∀ m, bmxEmbeddedWifiDroppedEvents m = m.dropped) ∧
      ∀ m, bmxEmbeddedEthernetDroppedEvents m = m.dropped) ∧
    ∀ (p : DeferredPost) (m : DeferredRing),
      p.call m = if p.event.token = 0 then (false, m) else m.post p.event :=
  ⟨⟨deferred_refines_fifo, ble_refines_fifo, wifi_refines_fifo, ethernet_refines_fifo⟩,
    ⟨BMXBLEEvent.taken_injective, BMXWiFiEvent.taken_injective⟩,
    ⟨fun _ => rfl, fun _ => rfl, fun _ => rfl, fun _ => rfl, fun _ => rfl⟩,
    DeferredPost.call_eq⟩

end Esp32Mod
