/-
Esp32Mod/BleAdapter.lean

What the BLE adapter (`network.mod/ble.mod/native/esp32_ble.c`) calls NimBLE with: in
`bmx_embedded_ble_initialize` and `bmx_embedded_ble_deinitialize`, for its GAP procedures, for
connections, bonds, the client procedures and reads of a GATT client, and for values that have
changed, and from its GAP handler.

The protocol is NimBLE's.  Its port is set up, configured, told its services, and started; while it
runs it is called and calls back; then it is stopped and torn down.  After a `nimble_port_deinit`
that fails nothing is known of it any more.

A call of the application is one step, and so is a call-back.  The event ring, the slots of pending
reads and the list of connections are in `Esp32Mod.TerminalEvents`, `Esp32Mod.BlePendingReads` and
`Esp32Mod.BleConnections`; a client read is told here whether it finds a slot.  Calls that only look
at what the adapter has are left out.

Main results: `clientWrite_request` and `gattNotify_values` — a write and a notification, which ask
NimBLE more than once, are those of `Esp32Mod.BleClient` and `Esp32Mod.GattValues`.
-/
import Esp32Mod.BleClient
import Esp32Mod.CallProtocol

namespace Esp32Mod

open CallProtocol StepMachine

/-! ### Calls of NimBLE -/

/-- The `bmx_ble_security_*` statics, once they are configured. -/
structure BleSecurity where
  ioCapability : UInt8
  bonding : Bool
  authentication : Bool
  secureConnections : Bool
  secureConnectionsOnly : Bool
  deriving DecidableEq

/-- `struct ble_gap_upd_params`; `min_ce_len` and `max_ce_len` are 0. -/
structure BleUpdParams where
  itvlMin : UInt16
  itvlMax : UInt16
  latency : UInt16
  supervisionTimeout : UInt16
  deriving DecidableEq

/-- `struct ble_sm_io`, by its action. -/
inductive BleSmIo
  | passkey (input : Bool) (passkey : UInt32)
  | numcmp (accept : Bool)
  deriving DecidableEq

/-- The calls of NimBLE that the adapter makes, with the arguments that matter. -/
inductive NimbleCall
  | nvsFlashInit
  | nvsFlashErase
  | portInit
  /-- the assignments to `ble_hs_cfg` -/
  | configure (security : Option BleSecurity)
  /-- `ble_svc_gap_init` and `ble_svc_gatt_init` -/
  | svcInit
  | deviceNameSet (name : List UInt8)
  | countCfg (table : GattTable)
  | addSvcs (table : GattTable)
  | freertosInit
  | portStop
  | portDeinit
  | ensureAddr
  | inferAuto
  | disc (duration : Int32) (passive filterDuplicates : Bool)
  | discCancel
  /-- the service whose UUID is advertised, 0 for none -/
  | advSetFields (service : Int32)
  | advRspSetFields
  | advStart (duration : Int32) (connectable : Bool)
  | advStop
  | connect (peer : BleAddr) (duration : Int32)
  | connCancel
  | terminate (handle : UInt16)
  | exchangeMtu (handle : UInt16)
  | attMtu (handle : UInt16)
  | connFind (handle : UInt16)
  | connRssi (handle : UInt16)
  | readLePhy (handle : UInt16)
  | updateParams (handle : UInt16) (parameters : BleUpdParams)
  | setPreferedLePhy (handle : UInt16) (txPhyMask rxPhyMask : UInt8) (codedPreference : UInt16)
  | securityInitiate (handle : UInt16)
  | injectIo (handle : UInt16) (response : BleSmIo)
  | bondedPeers
  | unpair (peer : BleAddr)
  | deletePeer (peer : BleAddr)
  /-- `ble_hs_mbuf_from_flat` -/
  | mbufFromFlat (length : UInt32)
  | gattc (request : GattcCall)
  /-- `ble_gattc_read_long` -/
  | readLong (request : ReadRequest)
  | gatts (sent : GattSent)

/-- A call, and whether it answered 0. -/
structure NimbleEntry where
  call : NimbleCall
  ok : Bool

/-- Where the port of NimBLE stands. -/
inductive NimblePhase
  | off
  | initialised
  | running
  | stopped
  /-- A `nimble_port_deinit` has failed. -/
  | lost
  deriving DecidableEq

/-- What NimBLE knows; `table` is what of the tables does not change while it runs. -/
structure NimbleState where
  phase : NimblePhase
  security : Option BleSecurity
  table : Option GattTable

/-! ### The protocol -/

/-- `BLE_HS_IO_DISPLAY_ONLY` to `BLE_HS_IO_KEYBOARD_DISPLAY`, and no demand without support. -/
def BleSecurity.Valid (security : BleSecurity) : Prop :=
  security.ioCapability ≤ 4 ∧ (security.secureConnectionsOnly = true →
    security.secureConnections = true)

/-- Units of 1.25 ms and of 10 ms, as the specification has them. -/
structure BleUpdParams.Valid (parameters : BleUpdParams) : Prop where
  min : 6 ≤ parameters.itvlMin.toNat
  ordered : parameters.itvlMin.toNat ≤ parameters.itvlMax.toNat
  max : parameters.itvlMax.toNat ≤ 3200
  latency : parameters.latency.toNat ≤ 499
  supervisionTimeout : 10 ≤ parameters.supervisionTimeout.toNat ∧
    parameters.supervisionTimeout.toNat ≤ 3200

/-- How many services NimBLE has been told of. -/
def NimbleState.services (t : NimbleState) : Nat := (t.table.map (·.serviceCount.toNat)).getD 0

/-- Attribute handles begin with 1, and a range of them is one. -/
def GattcCall.Valid : GattcCall → Prop
  | .discAllSvcs _ => True
  | .discAllChrs _ startHandle endHandle _ => 1 ≤ startHandle ∧ startHandle ≤ endHandle
  | .discAllDscs _ startHandle endHandle => 1 ≤ startHandle ∧ startHandle < endHandle
  | .writeLong _ attrHandle _ _ _ | .writeFlat _ attrHandle _ _ | .writeNoRspFlat _ attrHandle _ =>
    1 ≤ attrHandle

/-- What may be said to a NimBLE that runs: what the adapter checks is in the ranges of the
specification.  Connection handles are checked for their 16 bits only, and durations not at all. -/
def NimbleCall.Valid (t : NimbleState) : NimbleCall → Prop
  | .advSetFields service => 0 ≤ service ∧ service.toInt ≤ t.services
  | .connect peer _ => peer.type ≤ 3
  | .updateParams _ parameters => parameters.Valid
  | .setPreferedLePhy _ txPhyMask rxPhyMask codedPreference =>
    (0 < txPhyMask ∧ txPhyMask ≤ 7) ∧ (0 < rxPhyMask ∧ rxPhyMask ≤ 7) ∧ codedPreference ≤ 2
  | .injectIo _ (.passkey _ passkey) => passkey ≤ 999999
  | .mbufFromFlat length => length ≤ 512
  | .gattc request => request.Valid
  | .readLong request => 1 ≤ request.attributeHandle
  | .gatts sent => 1 ≤ sent.handle
  | _ => True

/-- What NimBLE asks of a call: the phase, and arguments in range. -/
def nimbleAllowed (t : NimbleState) (e : NimbleEntry) : Prop :=
  match e.call with
  | .nvsFlashInit | .nvsFlashErase => True
  | .portInit => t.phase = .off
  | .configure security =>
    t.phase = .initialised ∧ ∀ security', security = some security' → security'.Valid
  | .svcInit | .freertosInit => t.phase = .initialised
  | .deviceNameSet name => t.phase = .initialised ∧ name.length ≤ 248 ∧ 0 ∉ name
  | .countCfg table | .addSvcs table => t.phase = .initialised ∧ table.WellFormed
  | .portDeinit => t.phase = .initialised ∨ t.phase = .stopped
  | call => t.phase = .running ∧ call.Valid t

/-- A record without its value and without the handle that NimBLE gives to that. -/
def BMXBLEGATTCharacteristic.shape (c : BMXBLEGATTCharacteristic) : BMXBLEGATTCharacteristic :=
  { c with valueHandle := 0, length := 0, value := Vector.replicate 512 0 }

/-- What of the tables does not change while NimBLE runs. -/
def GattTable.shape (t : GattTable) : GattTable :=
  { t with characteristics := fun k => (t.characteristics k).shape }

/-- What a call leaves behind; one that fails leaves it as it was, but for a teardown. -/
def nimbleAfter (t : NimbleState) (e : NimbleEntry) : NimbleState :=
  match e.call, e.ok with
  | .portInit, true => { t with phase := .initialised, table := none }
  | .configure security, _ => { t with security := security.or t.security }
  | .addSvcs table, true => { t with table := some table.shape }
  | .freertosInit, _ => { t with phase := .running }
  | .portStop, true => { t with phase := .stopped }
  | .portDeinit, true => { t with phase := .off, table := none }
  | .portDeinit, false => { t with phase := .lost }
  | _, _ => t

/-- The calls in order, as the port asks for them. -/
def nimbleProtocol : Protocol NimbleState NimbleEntry := ⟨nimbleAllowed, nimbleAfter⟩

/-! ### The adapter -/

/-- The statics, except for the event ring, the pending reads and the connection table. -/
structure BleAdapter where
  initialized : Bool := false
  ready : Bool := false
  scanActive : Bool := false
  advertisingActive : Bool := false
  advertisingAutoRestart : Bool := false
  advertisingService : Int32 := 0
  advertisingDuration : UInt32 := 0
  advertisingConnectable : Bool := false
  connecting : Bool := false
  security : Option BleSecurity := none
  gatt : GattTable := {}

/-- What `ble_gap_conn_find` finds. -/
structure BleConnDescription where
  role : UInt8
  peerOtaAddr : BleAddr
  peerIdAddr : BleAddr
  connItvl : UInt16
  connLatency : UInt16
  supervisionTimeout : UInt16
  encrypted : Bool
  authenticated : Bool
  bonded : Bool
  keySize : UInt8

/-- What is answered: by ESP-IDF, by NimBLE, and what some calls bring with the answer. -/
structure NimbleHost (ω : Type) where
  esp : NimbleCall → ω → EspErr × ω
  hs : NimbleCall → ω → BleHs × ω
  found : UInt16 → ω → (BleHs × BleConnDescription) × ω
  rssi : UInt16 → ω → (BleHs × Int8) × ω
  phy : UInt16 → ω → (BleHs × UInt8 × UInt8) × ω
  mtu : UInt16 → ω → UInt16 × ω
  mbuf : UInt32 → ω → Bool × ω
  peers : ω → (BleHs × List BleAddr) × ω

variable {ω α : Type}

/-- A function of the adapter, which calls NimBLE. -/
abbrev BleProgram (ω : Type) := Caller BleAdapter NimbleEntry ω

/-- An `esp_err_t` as the adapter passes it on. -/
def BleHs.ofEsp (result : EspErr) : BleHs := if result = espOk then .ok else .other result

/-- A call that answers with an `esp_err_t`. -/
def espCall (d : NimbleHost ω) (c : NimbleCall) : BleProgram ω EspErr :=
  call (d.esp c) fun result => ⟨c, result = espOk⟩

/-- A call that answers with a return code of the host. -/
def hsCall (d : NimbleHost ω) (c : NimbleCall) : BleProgram ω BleHs :=
  call (d.hs c) fun result => ⟨c, result = .ok⟩

/-- A call without a result. -/
def voidCall (c : NimbleCall) : BleProgram ω Unit := call (fun w => ((), w)) fun _ => ⟨c, true⟩

/-- `ble_gap_conn_find`, with the description it writes. -/
def foundCall (d : NimbleHost ω) (handle : UInt16) : BleProgram ω (BleHs × BleConnDescription) :=
  call (d.found handle) fun result => ⟨.connFind handle, result.1 = .ok⟩

/-- `ble_att_mtu`, which cannot fail. -/
def mtuCall (d : NimbleHost ω) (handle : UInt16) : BleProgram ω UInt16 :=
  call (d.mtu handle) fun _ => ⟨.attMtu handle, true⟩

/-- `BLE_HS_FOREVER` for 0, and otherwise a cast. -/
def bleDuration (duration : UInt32) : Int32 :=
  if duration ≠ 0 then duration.toInt32 else 0x7fffffff

namespace BleAdapter

/-! ### Advertising, and the handlers -/

/-- The UUID of a service that is no 16, 32 or 128 bits is not advertised. -/
def advertises (s : BleAdapter) : Bool :=
  if 0 < s.advertisingService then
    if h : s.advertisingService.toInt.toNat - 1 < 8 then
      [16, 32, 128].contains (s.gatt.serviceUuids ⟨_, h⟩).type
    else false
  else true

/-- The start of advertising with the stored parameters; the first call that fails ends it. -/
def bmxBleStartAdvertisingInternal (d : NimbleHost ω) : BleProgram ω BleHs := do
  let s ← look
  let result ← hsCall d .inferAuto
  if result ≠ .ok then pure result
  else if s.advertises = false then pure .einval
  else
    let result ← hsCall d (.advSetFields s.advertisingService)
    if result ≠ .ok then pure result
    else
      let result ← hsCall d .advRspSetFields
      if result ≠ .ok then pure result
      else
        let result ← hsCall d (.advStart (bleDuration s.advertisingDuration) s.advertisingConnectable)
        if result = .ok then
          change fun s => { s with advertisingActive := true }
          pure result
        else pure result

/-- The GAP events, as far as the handler changes the statics or calls NimBLE. -/
inductive Event
  | discComplete
  | connect (failed : Bool) (connHandle : UInt16)
  | disconnect (slave : Bool)
  | advComplete
  | encChange (connHandle : UInt16)
  | repeatPairing (connHandle : UInt16)
  | connUpdate (connHandle : UInt16)
  | other

/-- 0, `BLE_GAP_REPEAT_PAIRING_RETRY` and `BLE_GAP_REPEAT_PAIRING_IGNORE`. -/
inductive GapReturn
  | ok
  | retry
  | ignore
  deriving DecidableEq

/-- An auto-restart, whose error is queued. -/
def autoRestart (d : NimbleHost ω) (wanted : Bool) : BleProgram ω Unit := do
  let s ← look
  if wanted && s.advertisingAutoRestart then
    let _ ← bmxBleStartAdvertisingInternal d
    pure ()
  else pure ()

/-- The handler of the GAP events. -/
def bmxBleGapEvent (d : NimbleHost ω) : Event → BleProgram ω GapReturn
  | .discComplete => do
    change fun s => { s with scanActive := false }
    pure .ok
  | .connect failed connHandle => do
    change fun s => { s with connecting := false, advertisingActive := false }
    if failed then
      autoRestart d true
      pure .ok
    else
      let _ ← foundCall d connHandle
      pure .ok
  | .disconnect slave => do
    change fun s => { s with advertisingActive := false }
    autoRestart d slave
    pure .ok
  | .advComplete => do
    change fun s => { s with advertisingActive := false }
    pure .ok
  | .encChange connHandle | .connUpdate connHandle => do
    let _ ← foundCall d connHandle
    pure .ok
  | .repeatPairing connHandle => do
    let (result, description) ← foundCall d connHandle
    if result ≠ .ok then pure .ignore
    else
      let result ← hsCall d (.deletePeer description.peerIdAddr)
      pure (if result ≠ .ok then .ignore else .retry)
  | .other => pure .ok

/-- The call-back of a host that has reset itself. -/
def bmxBleOnReset : BleProgram ω Unit :=
  change fun s => { s with
    ready := false, scanActive := false, advertisingActive := false, connecting := false }

/-- The call-back of a host that is in sync with the controller. -/
def bmxBleOnSync (d : NimbleHost ω) : BleProgram ω Unit := do
  let result ← hsCall d .ensureAddr
  if result = .ok then change fun s => { s with ready := true }
  else pure ()

/-! ### Up and down -/

/-- `nvs_flash_init`, after an erase where the partition asks for one. -/
def flashInit (d : NimbleHost ω) (erases : EspErr → Bool) : BleProgram ω EspErr := do
  let result ← espCall d .nvsFlashInit
  if erases result then
    let result ← espCall d .nvsFlashErase
    if result = espOk then espCall d .nvsFlashInit else pure result
  else pure result

/-- What is given back where the name or the services are refused. -/
def giveUp (d : NimbleHost ω) (result : BleHs) : BleProgram ω BleHs := do
  let _ ← espCall d .portDeinit
  pure result

/-- The services, if there are any. -/
def addServices (d : NimbleHost ω) (gatt : GattTable) : BleProgram ω BleHs := do
  if gatt.serviceCount ≠ 0 then
    let result ← hsCall d (.countCfg gatt)
    if result = .ok then hsCall d (.addSvcs gatt) else pure result
  else pure .ok

/-- The name, if there is one, as a C string. -/
def setName (d : NimbleHost ω) (name : List UInt8) (nameLength : UInt32) : BleProgram ω BleHs := do
  if nameLength ≠ 0 then
    hsCall d (.deviceNameSet ((name.take nameLength.toNat).takeWhile (· ≠ 0)))
  else pure .ok

/-- `erases` are `ESP_ERR_NVS_NO_FREE_PAGES` and
`ESP_ERR_NVS_NEW_VERSION_FOUND`.  -/
def bmxEmbeddedBleInitialize (d : NimbleHost ω) (erases : EspErr → Bool)
    (name : Option (List UInt8)) (nameLength : UInt32) : BleProgram ω BleHs := do
  let s ← look
  if s.initialized then pure .ok
  else if 248 < nameLength ∨ (nameLength ≠ 0 ∧ name = none) then pure (.ofEsp espErrInvalidArg)
  else
    let result ← flashInit d erases
    if result ≠ espOk then pure (.ofEsp result)
    else
      let result ← espCall d .portInit
      if result ≠ espOk then pure (.ofEsp result)
      else
        voidCall (.configure s.security)
        voidCall .svcInit
        let result ← setName d (name.getD []) nameLength
        if result ≠ .ok then giveUp d result
        else
          let result ← addServices d s.gatt
          if result ≠ .ok then giveUp d result
          else
            change fun s => { s with
              ready := false, scanActive := false, advertisingActive := false,
              advertisingAutoRestart := false, initialized := true }
            voidCall .freertosInit
            pure .ok

/-- A GAP procedure that is under way is cancelled first; that there is none is no error. -/
def cancelFirst (d : NimbleHost ω) (active : Bool) (c : NimbleCall) : BleProgram ω BleHs := do
  if active then
    let result ← hsCall d c
    pure (if result = .ealready then .ok else result)
  else pure .ok

/-- The procedures are cancelled, then the port is stopped and torn down; a step that fails leaves
the adapter initialized. -/
def bmxEmbeddedBleDeinitialize (d : NimbleHost ω) : BleProgram ω BleHs := do
  let s ← look
  if s.initialized = false then pure .ok
  else
    let result ← cancelFirst d s.scanActive .discCancel
    if result ≠ .ok then pure result
    else
      let result ← cancelFirst d s.connecting .connCancel
      if result ≠ .ok then pure result
      else
        change fun s => { s with connecting := false, advertisingAutoRestart := false }
        let result ← cancelFirst d s.advertisingActive .advStop
        if result ≠ .ok then pure result
        else
          let result ← hsCall d .portStop
          if result ≠ .ok then pure result
          else
            let result ← espCall d .portDeinit
            if result ≠ espOk then pure (.ofEsp result)
            else
              change fun s => { s with
                initialized := false, ready := false, scanActive := false,
                advertisingActive := false, connecting := false }
              pure .ok

/-- Only stored; the next initialization hands it to NimBLE. -/
def bmxEmbeddedBleConfigureSecurity (ioCapability : Int32) (bonding authentication secureConnections
    secureConnectionsOnly : Bool) : BleProgram ω BleHs := do
  let s ← look
  if s.initialized then pure .ebusy
  else if ioCapability < 0 ∨ 4 < ioCapability then pure .einval
  else if secureConnectionsOnly && !secureConnections then pure .einval
  else
    change fun s => { s with security := some {
      ioCapability := ioCapability.toUInt32.toUInt8, bonding, authentication, secureConnections,
      secureConnectionsOnly } }
    pure .ok

/-! ### GAP procedures -/

/-- What a call does while the adapter is initialized and in sync. -/
def whenSynced (k : BleAdapter → BleProgram ω BleHs) : BleProgram ω BleHs := do
  let s ← look
  if !s.initialized || !s.ready then pure .enotsynced else k s

/-- The flag is set after NimBLE has accepted the scan. -/
def bmxEmbeddedBleStartScan (d : NimbleHost ω) (duration : UInt32) (active filterDuplicates : Bool) :
    BleProgram ω BleHs :=
  whenSynced fun s => do
    if s.scanActive then pure .ealready
    else
      let result ← hsCall d .inferAuto
      if result ≠ .ok then pure result
      else
        let result ← hsCall d (.disc (bleDuration duration) (!active) filterDuplicates)
        if result = .ok then
          change fun s => { s with scanActive := true }
          pure result
        else pure result

/-- The flag is cleared before the cancel, and set again if that fails. -/
def bmxEmbeddedBleStopScan (d : NimbleHost ω) : BleProgram ω BleHs :=
  whenSynced fun s => do
    if s.scanActive = false then pure .ok
    else
      change fun s => { s with scanActive := false }
      let result ← hsCall d .discCancel
      if result = .ok then pure result
      else
        change fun s => { s with scanActive := true }
        pure result

/-- The arguments are stored for the restarts, and a failed start gives the restarts up. -/
def bmxEmbeddedBleStartAdvertising (d : NimbleHost ω) (serviceId : Int32) (duration : UInt32)
    (connectable autoRestart : Bool) : BleProgram ω BleHs :=
  whenSynced fun s => do
    if s.advertisingActive then pure .ealready
    else if s.scanActive then pure .ebusy
    else if serviceId < 0 ∨ s.gatt.serviceCount.toNat < serviceId.toInt then pure .einval
    else
      change fun s => { s with
        advertisingService := serviceId, advertisingDuration := duration,
        advertisingConnectable := connectable, advertisingAutoRestart := autoRestart }
      let result ← bmxBleStartAdvertisingInternal d
      if result ≠ .ok then
        change fun s => { s with advertisingAutoRestart := false }
        pure result
      else pure result

/-- The flag is left to the event that tells the end. -/
def bmxEmbeddedBleStopAdvertising (d : NimbleHost ω) : BleProgram ω BleHs :=
  whenSynced fun s => do
    change fun s => { s with advertisingAutoRestart := false }
    if s.advertisingActive = false then pure .ok else hsCall d .advStop

/-- An address of the application, the most significant byte first. -/
def bleAddr (addressType : Int32) (address : Vector UInt8 6) : BleAddr :=
  ⟨addressType.toUInt32.toUInt8, address.reverse⟩

/-- One outbound attempt at a time, and none beside a scan or advertising. -/
def bmxEmbeddedBleConnect (d : NimbleHost ω) (addressType : Int32)
    (address : Option (Vector UInt8 6)) (timeout : UInt32) : BleProgram ω BleHs :=
  whenSynced fun s =>
    match address with
    | none => pure .einval
    | some address => do
      if addressType < 0 ∨ 3 < addressType then pure .einval
      else if s.connecting then pure .ealready
      else if s.scanActive || s.advertisingActive then pure .ebusy
      else
        let result ← hsCall d .inferAuto
        if result ≠ .ok then pure result
        else
          let result ← hsCall d (.connect (bleAddr addressType address) (bleDuration timeout))
          if result = .ok then
            change fun s => { s with connecting := true }
            pure result
          else pure result

/-- The flag is cleared once NimBLE has accepted the cancel. -/
def bmxEmbeddedBleCancelConnect (d : NimbleHost ω) : BleProgram ω BleHs :=
  whenSynced fun s => do
    if s.connecting = false then pure .ok
    else
      let result ← hsCall d .connCancel
      if result = .ok then
        change fun s => { s with connecting := false }
        pure result
      else pure result

/-! ### Connections -/

/-- What a call does with the handle of a connection: the adapter is in sync, the handle fits, and
so do the other arguments. -/
def onConnection (refused : α) (connectionHandle : Int32) (valid : Bool)
    (k : UInt16 → BleProgram ω α) : BleProgram ω α := do
  let s ← look
  if !s.initialized || !s.ready || decide (connectionHandle < 0) ||
      decide (0xffff < connectionHandle) || !valid then pure refused
  else k connectionHandle.toUInt32.toUInt16

/-- `ble_gap_terminate`, with the reason of a user. -/
def bmxEmbeddedBleDisconnect (d : NimbleHost ω) (connectionHandle : Int32) : BleProgram ω BleHs :=
  onConnection .einval connectionHandle true fun handle => hsCall d (.terminate handle)

/-- `ble_gattc_exchange_mtu`. -/
def bmxEmbeddedBleExchangeMtu (d : NimbleHost ω) (connectionHandle : Int32) :
    BleProgram ω BleHs :=
  onConnection .einval connectionHandle true fun handle => hsCall d (.exchangeMtu handle)

/-- 0 where it is not known. -/
def bmxEmbeddedBleConnectionMtu (d : NimbleHost ω) (connectionHandle : Int32) :
    BleProgram ω UInt16 :=
  onConnection 0 connectionHandle true fun handle => mtuCall d handle

/-- What `connection_info` writes through its pointers. -/
structure BleConnectionInfo where
  role : UInt8
  addressType : UInt8
  address : Vector UInt8 6
  intervalUnits : UInt16
  latency : UInt16
  supervisionTimeoutUnits : UInt16

/-- `pointers` tells whether all places for the results are there. -/
def bmxEmbeddedBleConnectionInfo (d : NimbleHost ω) (connectionHandle : Int32) (pointers : Bool) :
    BleProgram ω (BleHs × Option BleConnectionInfo) :=
  onConnection (.einval, none) connectionHandle pointers fun handle => do
    let (result, description) ← foundCall d handle
    if result ≠ .ok then pure (result, none)
    else pure (.ok, some {
      role := description.role
      addressType := description.peerOtaAddr.type
      address := description.peerOtaAddr.val.reverse
      intervalUnits := description.connItvl
      latency := description.connLatency
      supervisionTimeoutUnits := description.supervisionTimeout })

/-- `ble_gap_conn_rssi`. -/
def bmxEmbeddedBleConnectionRssi (d : NimbleHost ω) (connectionHandle : Int32) (pointers : Bool) :
    BleProgram ω (BleHs × Option Int8) :=
  onConnection (.einval, none) connectionHandle pointers fun handle => do
    let (result, rssi) ← call (d.rssi handle) fun result => ⟨.connRssi handle, result.1 = .ok⟩
    pure (result, if result = .ok then some rssi else none)

/-- `ble_gap_read_le_phy`: the transmitter's PHY and the receiver's. -/
def bmxEmbeddedBleConnectionPhy (d : NimbleHost ω) (connectionHandle : Int32) (pointers : Bool) :
    BleProgram ω (BleHs × Option (UInt8 × UInt8)) :=
  onConnection (.einval, none) connectionHandle pointers fun handle => do
    let (result, phy) ← call (d.phy handle) fun result => ⟨.readLePhy handle, result.1 = .ok⟩
    pure (result, if result = .ok then some phy else none)

/-- The intervals in microseconds and the timeout in milliseconds. -/
structure BleUpdRequest where
  minimumIntervalMicroseconds : Int32
  maximumIntervalMicroseconds : Int32
  latency : Int32
  supervisionTimeoutMilliseconds : Int32

/-- The checks of the adapter: whole units, within the limits of the specification. -/
def BleUpdRequest.accepted (r : BleUpdRequest) : Bool :=
  !(decide (r.minimumIntervalMicroseconds < 7500) ||
    decide (4000000 < r.maximumIntervalMicroseconds) ||
    decide (r.maximumIntervalMicroseconds < r.minimumIntervalMicroseconds) ||
    r.minimumIntervalMicroseconds % 1250 != 0 || r.maximumIntervalMicroseconds % 1250 != 0 ||
    decide (r.latency < 0) || decide (499 < r.latency) ||
    decide (r.supervisionTimeoutMilliseconds < 100) ||
    decide (32000 < r.supervisionTimeoutMilliseconds) ||
    r.supervisionTimeoutMilliseconds % 10 != 0)

/-- The units of NimBLE, 1.25 ms and 10 ms. -/
def BleUpdRequest.parameters (r : BleUpdRequest) : BleUpdParams where
  itvlMin := (r.minimumIntervalMicroseconds / 1250).toUInt32.toUInt16
  itvlMax := (r.maximumIntervalMicroseconds / 1250).toUInt32.toUInt16
  latency := r.latency.toUInt32.toUInt16
  supervisionTimeout := (r.supervisionTimeoutMilliseconds / 10).toUInt32.toUInt16

/-- `ble_gap_update_params`. -/
def bmxEmbeddedBleUpdateConnectionParameters (d : NimbleHost ω) (connectionHandle : Int32)
    (request : BleUpdRequest) : BleProgram ω BleHs :=
  onConnection .einval connectionHandle request.accepted fun handle =>
    hsCall d (.updateParams handle request.parameters)

/-- Masks of the three PHYs, with at least one bit. -/
def phyMask (mask : Int32) : Bool := decide (0 < mask) && mask &&& ~~~7 == 0

/-- `ble_gap_set_prefered_le_phy`. -/
def bmxEmbeddedBleSetPreferredPhy (d : NimbleHost ω) (connectionHandle txPhyMask rxPhyMask
    codedPreference : Int32) : BleProgram ω BleHs :=
  onConnection .einval connectionHandle (phyMask txPhyMask && phyMask rxPhyMask &&
      decide (0 ≤ codedPreference) && decide (codedPreference ≤ 2)) fun handle =>
    hsCall d (.setPreferedLePhy handle txPhyMask.toUInt32.toUInt8 rxPhyMask.toUInt32.toUInt8
      codedPreference.toUInt32.toUInt16)

/-! ### Security and bonds -/

/-- `ble_gap_security_initiate`. -/
def bmxEmbeddedBleSecureConnection (d : NimbleHost ω) (connectionHandle : Int32) :
    BleProgram ω BleHs :=
  onConnection .einval connectionHandle true fun handle => hsCall d (.securityInitiate handle)

/-- What `security_state` writes through its pointers. -/
structure BleSecurityState where
  encrypted : Bool
  authenticated : Bool
  bonded : Bool
  keySize : UInt8

/-- Neither of the two flags is looked at. -/
def bmxEmbeddedBleSecurityState (d : NimbleHost ω) (connectionHandle : Int32) (pointers : Bool) :
    BleProgram ω (BleHs × Option BleSecurityState) := do
  if pointers = false ∨ connectionHandle < 0 ∨ 0xffff < connectionHandle then pure (.einval, none)
  else
    let (result, description) ← foundCall d connectionHandle.toUInt32.toUInt16
    if result ≠ .ok then pure (result, none)
    else pure (.ok, some {
      encrypted := description.encrypted
      authenticated := description.authenticated
      bonded := description.bonded
      keySize := description.keySize })

/-- The actions are `BLE_SM_IOACT_INPUT` and `BLE_SM_IOACT_DISP`; every other one is `none`. -/
def bmxEmbeddedBleProvidePasskey (d : NimbleHost ω) (connectionHandle : Int32)
    (input : Option Bool) (passkey : Int32) : BleProgram ω BleHs :=
  onConnection .einval connectionHandle
    (decide (0 ≤ passkey) && decide (passkey ≤ 999999) && input.isSome) fun handle =>
      hsCall d (.injectIo handle (.passkey (input.getD false) passkey.toUInt32))

/-- The answer to a numeric comparison. -/
def bmxEmbeddedBleConfirmPasskey (d : NimbleHost ω) (connectionHandle : Int32) (accept : Bool) :
    BleProgram ω BleHs :=
  onConnection .einval connectionHandle true fun handle =>
    hsCall d (.injectIo handle (.numcmp accept))

/-- `ble_store_util_bonded_peers`. -/
def peersCall (d : NimbleHost ω) : BleProgram ω (BleHs × List BleAddr) :=
  call d.peers fun result => ⟨.bondedPeers, result.1 = .ok⟩

/-- The number of bonds, or an error. -/
def bmxEmbeddedBleBondCount (d : NimbleHost ω) : BleProgram ω (Except BleHs Nat) := do
  let s ← look
  if !s.initialized || !s.ready then pure (.error .enotsynced)
  else
    let (result, peers) ← peersCall d
    pure (if result = .ok then .ok peers.length else .error result)

/-- `BLE_HS_ENOENT`. -/
def enoent : BleHs := .other 5

/-- The bond at an index, the most significant byte of its address first. -/
def bmxEmbeddedBleBond (d : NimbleHost ω) (index : Int32) (pointers : Bool) :
    BleProgram ω (Except BleHs (UInt8 × Vector UInt8 6)) := do
  let s ← look
  if !s.initialized || !s.ready then pure (.error .enotsynced)
  else if index < 0 ∨ pointers = false then pure (.error .einval)
  else
    let (result, peers) ← peersCall d
    if result ≠ .ok then pure (.error result)
    else
      match peers[index.toInt.toNat]? with
      | none => pure (.error enoent)
      | some peer => pure (.ok (peer.type, peer.val.reverse))

/-- `ble_gap_unpair`. -/
def bmxEmbeddedBleForgetBond (d : NimbleHost ω) (addressType : Int32)
    (address : Option (Vector UInt8 6)) : BleProgram ω BleHs :=
  whenSynced fun _ =>
    match address with
    | none => pure .einval
    | some address => do
      if addressType < 0 ∨ 3 < addressType then pure .einval
      else hsCall d (.unpair (bleAddr addressType address))

/-- One after the other, up to the first that fails. -/
def unpairAll (d : NimbleHost ω) : List BleAddr → BleProgram ω BleHs
  | [] => pure .ok
  | peer :: peers => do
    let result ← hsCall d (.unpair peer)
    if result ≠ .ok then pure result else unpairAll d peers

/-- The bonds there are now, up to the first that cannot be forgotten. -/
def bmxEmbeddedBleForgetAllBonds (d : NimbleHost ω) : BleProgram ω BleHs :=
  whenSynced fun _ => do
    let (result, peers) ← peersCall d
    if result ≠ .ok then pure result else unpairAll d peers

/-! ### The GATT client -/

/-- A request that is not refused goes to NimBLE. -/
def gattcCall (d : NimbleHost ω) : Except BleHs GattcCall → BleProgram ω BleHs
  | .error refusal => pure refusal
  | .ok request => hsCall d (.gattc request)

/-- `ble_gattc_disc_all_svcs`. -/
def bmxEmbeddedBleDiscoverServices (d : NimbleHost ω) (connectionHandle : Int32) :
    BleProgram ω BleHs := do
  let s ← look
  gattcCall d (Esp32Mod.bmxEmbeddedBleDiscoverServices s.initialized s.ready connectionHandle)

/-- `ble_gattc_disc_all_chrs`. -/
def bmxEmbeddedBleDiscoverCharacteristics (d : NimbleHost ω)
    (connectionHandle startHandle endHandle : Int32) : BleProgram ω BleHs := do
  let s ← look
  gattcCall d (Esp32Mod.bmxEmbeddedBleDiscoverCharacteristics s.initialized s.ready
    connectionHandle startHandle endHandle)

/-- `ble_gattc_disc_all_dscs`. -/
def bmxEmbeddedBleDiscoverDescriptors (d : NimbleHost ω)
    (connectionHandle valueHandle endHandle : Int32) : BleProgram ω BleHs := do
  let s ← look
  gattcCall d (Esp32Mod.bmxEmbeddedBleDiscoverDescriptors s.initialized s.ready connectionHandle
    valueHandle endHandle)

/-- `free` tells whether there is a slot for the read. -/
def bmxEmbeddedBleClientRead (d : NimbleHost ω) (free : Bool)
    (connectionHandle attributeHandle : Int32) (offset : UInt32) : BleProgram ω BleHs := do
  let s ← look
  match readRequest s.initialized s.ready connectionHandle attributeHandle offset with
  | none => pure .einval
  | some request => if free = false then pure .ebusy else hsCall d (.readLong request)

/-- The memory for a value that is too long for one packet. -/
def writeMemory (d : NimbleHost ω) (mtu : UInt16) (valueLength : UInt32) (response : Int32) :
    BleProgram ω Bool := do
  if mtu ≠ 0 ∧ response ≠ 0 ∧ (shortLimit mtu).toUInt32 < valueLength then
    call (d.mbuf valueLength) fun granted => ⟨.mbufFromFlat valueLength, granted⟩
  else pure true

/-- The MTU is asked for when the arguments have been accepted. -/
def bmxEmbeddedBleClientWrite (d : NimbleHost ω) (connectionHandle attributeHandle : Int32)
    (value : Option (List UInt8)) (valueLength : UInt32) (response : Int32) :
    BleProgram ω BleHs :=
  onConnection .einval connectionHandle (!(decide (attributeHandle ≤ 0) ||
      decide (0xffff < attributeHandle) || decide (512 < valueLength) ||
      (valueLength != 0 && value.isNone))) fun handle => do
    let mtu ← mtuCall d handle
    let mbuf ← writeMemory d mtu valueLength response
    gattcCall d (Esp32Mod.bmxEmbeddedBleClientWrite true true connectionHandle attributeHandle value
      valueLength response { mtu, mbuf })

/-! ### GATT values -/

/-- The statics that the values belong to. -/
def gattValues (s : BleAdapter) : BleGatt := ⟨s.gatt, s.initialized, s.ready⟩

/-- What goes out to subscribers has no result. -/
def sendAll : List GattSent → BleProgram ω Unit
  | [] => pure ()
  | sent :: rest => do
    voidCall (.gatts sent)
    sendAll rest

/-- The store and the notifications of `Esp32Mod.GattValues`, with NimBLE behind them. -/
def bmxEmbeddedBleGattSetValue (a : GattSetArgs) : BleProgram ω BleHs := do
  let s ← look
  let (result, gatt, sent) := Esp32Mod.bmxEmbeddedBleGattSetValue s.gattValues a
  change fun s => { s with gatt := gatt.table }
  sendAll sent
  pure result

/-- The value that is stored goes out, to one connection or, for a notification, to all that
subscribe. -/
def bmxEmbeddedBleGattNotify (d : NimbleHost ω) (a : GattNotifyArgs) : BleProgram ω BleHs := do
  let s ← look
  match bmxBleGattCharacteristic s.gatt (gattIdentifier a.characteristicId) with
  | none => pure .einval
  | some k =>
    let requiredFlag := if a.indication ≠ 0 then bmxBleGattIndicate else bmxBleGattNotify
    let handle := (s.gatt.characteristics k).valueHandle
    if (s.gatt.characteristics k).flags &&& requiredFlag = 0 then pure (.other bleHsEnotsup)
    else if s.gattValues.synced k = false then pure .enotsynced
    else if a.connectionHandle < 0 then
      if a.indication ≠ 0 then pure .einval
      else
        voidCall (.gatts (.chrUpdated handle))
        pure .ok
    else if 0xffff < a.connectionHandle then pure .einval
    else
      let connectionHandle := a.connectionHandle.toUInt32.toUInt16
      let mtu ← mtuCall d connectionHandle
      if mtu ≤ 3 then pure (.other bleHsEnotconn)
      else if mtu - 3 < (s.gatt.characteristics k).length then pure (.other bleHsEmsgsize)
      else if a.indication ≠ 0 then hsCall d (.gatts (.indicate connectionHandle handle))
      else hsCall d (.gatts (.notify connectionHandle handle))

/-- `bmx_ble_gatt_access`, for the record of a definition. -/
def bmxBleGattAccess (service : Fin 8) (j : Fin 9) (request : GattRequest) : BleProgram ω Unit :=
  change fun s =>
    let definition := s.gatt.characteristicDefs service j
    match definition.accessCb, definition.arg with
    | true, some k =>
      let c := s.gatt.characteristics k
      let characteristics := Function.update s.gatt.characteristics k
        ((request.access (some c)).characteristic.getD c)
      { s with gatt := { s.gatt with characteristics } }
    | _, _ => s

/-- NimBLE has started, and has given out the value handles. -/
def gattStarted (valueHandles : Fin 32 → UInt16) : BleProgram ω Unit :=
  change fun s => { s with gatt := s.gatt.assign valueHandles }

/-! ### GATT tables -/

/-- A call that changes the tables, or refuses to. -/
def gattCall (f : GattTable → Bool → GattAnswer) : BleProgram ω BleHs := do
  let s ← look
  let answer := f s.gatt s.initialized
  change fun s => { s with gatt := answer.table }
  pure answer.result

end BleAdapter

/-! ### Runs -/

/-- What can happen: a call of the application, or a call-back while NimBLE runs. -/
inductive BleAction
  | bleInit (name : Option (List UInt8)) (nameLength : UInt32)
  | bleDeinit
  | configureSecurity (ioCapability : Int32) (bonding authentication secureConnections
    secureConnectionsOnly : Bool)
  | gattReset
  | gattAddService (fromStr : BleUuidFromStr) (a : GattServiceArgs)
  | gattAddCharacteristic (fromStr : BleUuidFromStr) (a : GattCharacteristicArgs)
  | startScan (duration : UInt32) (active filterDuplicates : Bool)
  | stopScan
  | startAdvertising (serviceId : Int32) (duration : UInt32) (connectable autoRestart : Bool)
  | stopAdvertising
  | connect (addressType : Int32) (address : Option (Vector UInt8 6)) (timeout : UInt32)
  | cancelConnect
  | disconnect (connectionHandle : Int32)
  | exchangeMtu (connectionHandle : Int32)
  | connectionMtu (connectionHandle : Int32)
  | connectionInfo (connectionHandle : Int32) (pointers : Bool)
  | connectionRssi (connectionHandle : Int32) (pointers : Bool)
  | connectionPhy (connectionHandle : Int32) (pointers : Bool)
  | updateConnectionParameters (connectionHandle : Int32) (request : BleAdapter.BleUpdRequest)
  | setPreferredPhy (connectionHandle txPhyMask rxPhyMask codedPreference : Int32)
  | secureConnection (connectionHandle : Int32)
  | securityState (connectionHandle : Int32) (pointers : Bool)
  | providePasskey (connectionHandle : Int32) (input : Option Bool) (passkey : Int32)
  | confirmPasskey (connectionHandle : Int32) (accept : Bool)
  | bondCount
  | bond (index : Int32) (pointers : Bool)
  | forgetBond (addressType : Int32) (address : Option (Vector UInt8 6))
  | forgetAllBonds
  | discoverServices (connectionHandle : Int32)
  | discoverCharacteristics (connectionHandle startHandle endHandle : Int32)
  | discoverDescriptors (connectionHandle valueHandle endHandle : Int32)
  | clientRead (free : Bool) (connectionHandle attributeHandle : Int32) (offset : UInt32)
  | clientWrite (connectionHandle attributeHandle : Int32) (value : Option (List UInt8))
    (valueLength : UInt32) (response : Int32)
  | gattSetValue (a : GattSetArgs)
  | gattNotify (a : GattNotifyArgs)
  | gapEvent (event : BleAdapter.Event)
  | gattAccess (service : Fin 8) (j : Fin 9) (request : GattRequest)
  | gattStarted (valueHandles : Fin 32 → UInt16)
  | reset
  | sync

/-- A program whose result nobody looks at. -/
def BleProgram.ignore (prog : BleProgram ω α) : BleProgram ω Unit := (fun _ => ()) <$> prog

/-- A call of the application. -/
def BleAction.run (d : NimbleHost ω) (erases : EspErr → Bool) : BleAction → BleProgram ω Unit
  | .bleInit name nameLength =>
    (BleAdapter.bmxEmbeddedBleInitialize d erases name nameLength).ignore
  | .bleDeinit => BleProgram.ignore <| BleAdapter.bmxEmbeddedBleDeinitialize d
  | .configureSecurity ioCapability bonding authentication secureConnections
      secureConnectionsOnly =>
    (BleAdapter.bmxEmbeddedBleConfigureSecurity ioCapability bonding authentication
      secureConnections secureConnectionsOnly).ignore
  | .gattReset => (BleAdapter.gattCall bmxEmbeddedBleGattReset).ignore
  | .gattAddService fromStr a =>
    (BleAdapter.gattCall fun t initialized =>
      bmxEmbeddedBleGattAddService t initialized fromStr a).ignore
  | .gattAddCharacteristic fromStr a =>
    (BleAdapter.gattCall fun t initialized =>
      bmxEmbeddedBleGattAddCharacteristic t initialized fromStr a).ignore
  | .startScan duration active filterDuplicates =>
    (BleAdapter.bmxEmbeddedBleStartScan d duration active filterDuplicates).ignore
  | .stopScan => (BleAdapter.bmxEmbeddedBleStopScan d).ignore
  | .startAdvertising serviceId duration connectable autoRestart =>
    (BleAdapter.bmxEmbeddedBleStartAdvertising d serviceId duration connectable autoRestart).ignore
  | .stopAdvertising => (BleAdapter.bmxEmbeddedBleStopAdvertising d).ignore
  | .connect addressType address timeout =>
    (BleAdapter.bmxEmbeddedBleConnect d addressType address timeout).ignore
  | .cancelConnect => (BleAdapter.bmxEmbeddedBleCancelConnect d).ignore
  | .disconnect connectionHandle =>
    (BleAdapter.bmxEmbeddedBleDisconnect d connectionHandle).ignore
  | .exchangeMtu connectionHandle =>
    (BleAdapter.bmxEmbeddedBleExchangeMtu d connectionHandle).ignore
  | .connectionMtu connectionHandle =>
    (BleAdapter.bmxEmbeddedBleConnectionMtu d connectionHandle).ignore
  | .connectionInfo connectionHandle pointers =>
    (BleAdapter.bmxEmbeddedBleConnectionInfo d connectionHandle pointers).ignore
  | .connectionRssi connectionHandle pointers =>
    (BleAdapter.bmxEmbeddedBleConnectionRssi d connectionHandle pointers).ignore
  | .connectionPhy connectionHandle pointers =>
    (BleAdapter.bmxEmbeddedBleConnectionPhy d connectionHandle pointers).ignore
  | .updateConnectionParameters connectionHandle request =>
    (BleAdapter.bmxEmbeddedBleUpdateConnectionParameters d connectionHandle request).ignore
  | .setPreferredPhy connectionHandle txPhyMask rxPhyMask codedPreference =>
    (BleAdapter.bmxEmbeddedBleSetPreferredPhy d connectionHandle txPhyMask rxPhyMask
      codedPreference).ignore
  | .secureConnection connectionHandle =>
    (BleAdapter.bmxEmbeddedBleSecureConnection d connectionHandle).ignore
  | .securityState connectionHandle pointers =>
    (BleAdapter.bmxEmbeddedBleSecurityState d connectionHandle pointers).ignore
  | .providePasskey connectionHandle input passkey =>
    (BleAdapter.bmxEmbeddedBleProvidePasskey d connectionHandle input passkey).ignore
  | .confirmPasskey connectionHandle accept =>
    (BleAdapter.bmxEmbeddedBleConfirmPasskey d connectionHandle accept).ignore
  | .bondCount => (BleAdapter.bmxEmbeddedBleBondCount d).ignore
  | .bond index pointers => (BleAdapter.bmxEmbeddedBleBond d index pointers).ignore
  | .forgetBond addressType address =>
    (BleAdapter.bmxEmbeddedBleForgetBond d addressType address).ignore
  | .forgetAllBonds => (BleAdapter.bmxEmbeddedBleForgetAllBonds d).ignore
  | .discoverServices connectionHandle =>
    (BleAdapter.bmxEmbeddedBleDiscoverServices d connectionHandle).ignore
  | .discoverCharacteristics connectionHandle startHandle endHandle =>
    (BleAdapter.bmxEmbeddedBleDiscoverCharacteristics d connectionHandle startHandle
      endHandle).ignore
  | .discoverDescriptors connectionHandle valueHandle endHandle =>
    (BleAdapter.bmxEmbeddedBleDiscoverDescriptors d connectionHandle valueHandle endHandle).ignore
  | .clientRead free connectionHandle attributeHandle offset =>
    (BleAdapter.bmxEmbeddedBleClientRead d free connectionHandle attributeHandle offset).ignore
  | .clientWrite connectionHandle attributeHandle value valueLength response =>
    (BleAdapter.bmxEmbeddedBleClientWrite d connectionHandle attributeHandle value valueLength
      response).ignore
  | .gattSetValue a => (BleAdapter.bmxEmbeddedBleGattSetValue a).ignore
  | .gattNotify a => (BleAdapter.bmxEmbeddedBleGattNotify d a).ignore
  | .gapEvent event => (BleAdapter.bmxBleGapEvent d event).ignore
  | .gattAccess service j request => BleAdapter.bmxBleGattAccess service j request
  | .gattStarted valueHandles => BleAdapter.gattStarted valueHandles
  | .reset => BleAdapter.bmxBleOnReset
  | .sync => BleAdapter.bmxBleOnSync d

/-- NimBLE calls back. -/
def BleAction.callBack : BleAction → Bool
  | .gapEvent _ | .gattAccess _ _ _ | .gattStarted _ | .reset | .sync => true
  | _ => false

/-- The adapter, its calls so far, and the world that NimBLE answers from. -/
structure BleSystem (ω : Type) where
  adapter : BleAdapter
  log : List NimbleEntry
  world : ω

/-- What NimBLE knows before it has been called. -/
def nimbleOff : NimbleState := ⟨.off, none, none⟩

/-- Where the calls so far have brought NimBLE. -/
def BleSystem.nimble (s : BleSystem ω) : NimbleState := nimbleProtocol.ends nimbleOff s.log

/-- NimBLE calls back only while it runs.  A run ends with a `nimble_port_deinit` that fails. -/
def BleSystem.enabled (s : BleSystem ω) (a : BleAction) : Bool :=
  decide (s.nimble.phase ≠ .lost) && (!a.callBack || decide (s.nimble.phase = .running))

/-- What a program leaves. -/
def BleSystem.after (s : BleSystem ω) (prog : BleProgram ω Unit) : BleSystem ω :=
  let (_, adapter, log, world) := prog (s.adapter, s.log, s.world)
  ⟨adapter, log, world⟩

/-- Calls of the application and call-backs, in any order that NimBLE can bring about. -/
def bleMachine (d : NimbleHost ω) (erases : EspErr → Bool) : Machine (BleSystem ω) BleAction where
  init s := s.adapter = {} ∧ s.log = []
  step s a :=
    if s.enabled a then some (s.after (a.run d erases)) else none

/-! ### A write and a notification -/

/-- What goes out to subscribers and connections. -/
def sentOf (log : List NimbleEntry) : List GattSent :=
  log.filterMap fun e => match e.call with
    | .gatts sent => some sent
    | _ => none

namespace BleAdapter

/-- The arguments are refused here as they are in `Esp32Mod.BleClient`. -/
theorem refused_iff {s : BleAdapter} {connectionHandle attributeHandle : Int32}
    {value : Option (List UInt8)} {valueLength : UInt32} :
    (!s.initialized || !s.ready || decide (connectionHandle < 0) ||
      decide (0xffff < connectionHandle) || !(!(decide (attributeHandle ≤ 0) ||
        decide (0xffff < attributeHandle) || decide (512 < valueLength) ||
        (valueLength != 0 && value.isNone)))) = true ↔
    s.initialized = false ∨ s.ready = false ∨ connectionHandle < 0 ∨ 65535 < connectionHandle ∨
      attributeHandle ≤ 0 ∨ 65535 < attributeHandle ∨ 512 < valueLength ∨
      (valueLength ≠ 0 ∧ value = none) := by
  simp only [Bool.or_eq_true, Bool.not_eq_true', Bool.not_not, decide_eq_true_iff,
    Bool.and_eq_true, bne_iff_ne, Option.isNone_iff_eq_none, or_assoc]

/-- A write asks NimBLE for what that of `Esp32Mod.BleClient` does, with its answers. -/
theorem clientWrite_request (d : NimbleHost ω) (s : BleAdapter) (log : List NimbleEntry) (w : ω)
    (connectionHandle attributeHandle : Int32) (value : Option (List UInt8)) (valueLength : UInt32)
    (response : Int32) : ∃ (answers : GattcAnswers) (s' : BleAdapter × List NimbleEntry × ω),
    bmxEmbeddedBleClientWrite d connectionHandle attributeHandle value valueLength response
      (s, log, w) =
      gattcCall d (Esp32Mod.bmxEmbeddedBleClientWrite s.initialized s.ready connectionHandle
        attributeHandle value valueLength response answers) s' := by
  by_cases hrefused : s.initialized = false ∨ s.ready = false ∨ connectionHandle < 0 ∨
      65535 < connectionHandle ∨ attributeHandle ≤ 0 ∨ 65535 < attributeHandle ∨
      512 < valueLength ∨ (valueLength ≠ 0 ∧ value = none)
  · refine ⟨{}, (s, log, w), ?_⟩
    rw [Esp32Mod.bmxEmbeddedBleClientWrite, if_pos hrefused]
    show (ite _ _ _ : BleProgram ω BleHs) (s, log, w) = _
    rw [if_pos (refused_iff.mpr hrefused)]
    rfl
  · let asked := mtuCall d connectionHandle.toUInt32.toUInt16 (s, log, w)
    let memory := writeMemory d asked.1 valueLength response asked.2
    refine ⟨{ mtu := asked.1, mbuf := memory.1 }, memory.2, ?_⟩
    show (ite _ _ _ : BleProgram ω BleHs) (s, log, w) = _
    rw [if_neg (mt refused_iff.mp hrefused)]
    have hinit := Bool.not_eq_false _ ▸ (not_or.mp hrefused).1
    have hready := Bool.not_eq_false _ ▸ (not_or.mp (not_or.mp hrefused).2).1
    rw [hinit, hready]
    rfl

section Values

variable (s : BleAdapter) (log : List NimbleEntry) (w : ω)

/-- The program returns what the call does, and sends that. -/
def Agrees (prog : BleProgram ω BleHs) (answer : BleHs × List GattSent) : Prop :=
  (prog (s, log, w)).1 = answer.1 ∧ sentOf (prog (s, log, w)).2.2.1 = sentOf log ++ answer.2

variable {s log w} {yes no prog : BleProgram ω BleHs} {answer answer' : BleHs × List GattSent}

theorem Agrees.ite {c : Prop} [Decidable c] (hyes : c → Agrees s log w yes answer)
    (hno : ¬ c → Agrees s log w no answer') :
    Agrees s log w (if c then yes else no) (if c then answer else answer') := by
  split
  next h => exact hyes h
  next h => exact hno h

theorem agrees_pure (result : BleHs) : Agrees s log w (pure result) (result, []) :=
  ⟨rfl, (List.append_nil _).symm⟩

/-- A call that sends nothing comes first. -/
theorem Agrees.mtu {d : NimbleHost ω} {handle : UInt16} {k : UInt16 → BleProgram ω BleHs}
    (h : Agrees s (log ++ [⟨.attMtu handle, true⟩]) (d.mtu handle w).2 (k (d.mtu handle w).1)
      answer) : Agrees s log w (mtuCall d handle >>= k) answer := by
  refine ⟨h.1, h.2.trans ?_⟩
  unfold sentOf
  rw [List.filterMap_append]
  exact congrArg (· ++ answer.2) (List.append_nil _)

theorem agrees_sends {d : NimbleHost ω} {sent : GattSent} :
    Agrees s log w (hsCall d (.gatts sent)) ((d.hs (.gatts sent) w).1, [sent]) :=
  ⟨rfl, List.filterMap_append⟩

/-- A notification is that of `Esp32Mod.GattValues`, with what NimBLE has answered. -/
theorem gattNotify_values (d : NimbleHost ω) (a : GattNotifyArgs) : ∃ result,
    Agrees s log w (bmxEmbeddedBleGattNotify d a) (Esp32Mod.bmxEmbeddedBleGattNotify s.gattValues a
      (d.mtu a.connectionHandle.toUInt32.toUInt16 w).1 result) := by
  let connectionHandle := a.connectionHandle.toUInt32.toUInt16
  let sent handle : GattSent := if a.indication ≠ 0 then .indicate connectionHandle handle
    else .notify connectionHandle handle
  refine ⟨(((bmxBleGattCharacteristic s.gatt (gattIdentifier a.characteristicId)).map fun k =>
    (d.hs (.gatts (sent (s.gatt.characteristics k).valueHandle))
      (d.mtu connectionHandle w).2).1).getD .ok), ?_⟩
  unfold Esp32Mod.bmxEmbeddedBleGattNotify
  show Agrees s log w (match bmxBleGattCharacteristic s.gatt (gattIdentifier a.characteristicId)
    with | none => _ | some k => _) (match bmxBleGattCharacteristic s.gatt
      (gattIdentifier a.characteristicId) with | none => _ | some k => _)
  cases bmxBleGattCharacteristic s.gatt (gattIdentifier a.characteristicId) with
  | none => exact agrees_pure _
  | some k =>
    refine .ite (fun _ => agrees_pure _) fun _ => .ite (fun _ => agrees_pure _) fun _ => ?_
    refine .ite (fun _ => .ite (fun _ => agrees_pure _) fun _ => ?_) fun _ => ?_
    · exact ⟨rfl, List.filterMap_append⟩
    refine .ite (fun _ => agrees_pure _) fun _ => .mtu ?_
    refine .ite (fun _ => agrees_pure _) fun _ => .ite (fun _ => agrees_pure _) fun _ => ?_
    show Agrees _ _ _ _ ((d.hs (.gatts (sent (s.gatt.characteristics k).valueHandle)) _).1,
      [sent (s.gatt.characteristics k).valueHandle])
    by_cases hindication : a.indication ≠ 0
    · rw [if_pos hindication, show sent _ = _ from if_pos hindication]
      exact agrees_sends
    · rw [if_neg hindication, show sent _ = _ from if_neg hindication]
      exact agrees_sends

end Values
end BleAdapter

end Esp32Mod
