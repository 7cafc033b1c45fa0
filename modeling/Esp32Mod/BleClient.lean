/-
Esp32Mod/BleClient.lean

The GATT client of the BLE adapter (`network.mod/ble.mod/native/esp32_ble.c`): the discoveries and
`bmx_embedded_ble_client_write`.  A call hands a procedure to NimBLE; its callbacks submit events
to the ring of 64, and the application takes them from there.

Several procedures can be going on at a time, and their events come in any order among each other.
An application tells them apart by what an event says: its kind, its connection, and the attribute
that the procedure was started for (`BleKey`).  Reads have their own slots and are in
`BlePendingReads`.

Outside the source, `posted` is what has been submitted, with the procedure it is from; `asked` is
what NimBLE has been called with; and `clashes` are the keys with which a procedure was started
while another one was going on.

Main result: `ble_client` — over all runs each procedure is heard of by its results, in order, and
by one completion, unless the ring was full; and by its key alone, if that has not clashed.
-/
import Esp32Mod.GattIdentifiers
import Esp32Mod.KeyedStreams

namespace Esp32Mod

open StepMachine Machine KeyedStreams RingBuffer

/-! ### Calls -/

/-- What NimBLE is called with; `argument` is the `void *` of the callback. -/
inductive GattcCall
  | discAllSvcs (connHandle : UInt16)
  | discAllChrs (connHandle startHandle endHandle : UInt16) (argument : UInt32)
  | discAllDscs (connHandle startHandle endHandle : UInt16)
  | writeLong (connHandle attrHandle offset : UInt16) (value : List UInt8) (argument : UInt32)
  | writeFlat (connHandle attrHandle : UInt16) (value : List UInt8) (argument : UInt32)
  | writeNoRspFlat (connHandle attrHandle : UInt16) (value : List UInt8)
  deriving DecidableEq

/-- What NimBLE answers in the course of a call. -/
structure GattcAnswers where
  /-- `ble_att_mtu`, 0 for a connection that does not exist -/
  mtu : UInt16 := 0
  /-- `ble_hs_mbuf_from_flat` gets its memory -/
  mbuf : Bool := true
  result : BleHs := .ok

/-- The discovery of all services. -/
def bmxEmbeddedBleDiscoverServices (initialized ready : Bool) (connectionHandle : Int32) :
    Except BleHs GattcCall :=
  if initialized = false ∨ ready = false ∨ connectionHandle < 0 ∨ 65535 < connectionHandle then
    .error .einval
  else .ok (.discAllSvcs connectionHandle.toUInt32.toUInt16)

/-- The discovery of the characteristics between two handles. -/
def bmxEmbeddedBleDiscoverCharacteristics (initialized ready : Bool)
    (connectionHandle startHandle endHandle : Int32) : Except BleHs GattcCall :=
  if initialized = false ∨ ready = false ∨ connectionHandle < 0 ∨ 65535 < connectionHandle ∨
      startHandle ≤ 0 ∨ endHandle < startHandle ∨ 65535 < endHandle then
    .error .einval
  else .ok (.discAllChrs connectionHandle.toUInt32.toUInt16 startHandle.toUInt32.toUInt16
    endHandle.toUInt32.toUInt16 startHandle.toUInt32)

/-- The discovery of the descriptors after a value, up to a handle. -/
def bmxEmbeddedBleDiscoverDescriptors (initialized ready : Bool)
    (connectionHandle valueHandle endHandle : Int32) : Except BleHs GattcCall :=
  if initialized = false ∨ ready = false ∨ connectionHandle < 0 ∨ 65535 < connectionHandle ∨
      valueHandle ≤ 0 ∨ endHandle ≤ valueHandle ∨ 65535 < endHandle then
    .error .einval
  else .ok (.discAllDscs connectionHandle.toUInt32.toUInt16 valueHandle.toUInt32.toUInt16
    endHandle.toUInt32.toUInt16)

/-- What fits into a packet beside its header. -/
def shortLimit (mtu : UInt16) : UInt16 := if 3 < mtu then mtu - 3 else 0

/-- `value` is the memory behind the pointer, `none` for `NULL`. -/
def bmxEmbeddedBleClientWrite (initialized ready : Bool) (connectionHandle attributeHandle : Int32)
    (value : Option (List UInt8)) (valueLength : UInt32) (response : Int32)
    (answers : GattcAnswers) : Except BleHs GattcCall :=
  if initialized = false ∨ ready = false ∨ connectionHandle < 0 ∨ 65535 < connectionHandle ∨
      attributeHandle ≤ 0 ∨ 65535 < attributeHandle ∨ 512 < valueLength ∨
      (valueLength ≠ 0 ∧ value = none) then
    .error .einval
  else
    let connHandle := connectionHandle.toUInt32.toUInt16
    let attrHandle := attributeHandle.toUInt32.toUInt16
    if answers.mtu = 0 then .error (.other bleHsEnotconn)
    else if response ≠ 0 ∧ (shortLimit answers.mtu).toUInt32 < valueLength then
      if answers.mbuf = false then .error (.other bleHsEnomem)
      else .ok (.writeLong connHandle attrHandle 0 ((value.getD []).take valueLength.toNat)
        attributeHandle.toUInt32)
    else if response ≠ 0 then
      .ok (.writeFlat connHandle attrHandle ((value.getD []).take valueLength.toUInt16.toNat)
        attributeHandle.toUInt32)
    else if (shortLimit answers.mtu).toUInt32 < valueLength then .error (.other bleHsEmsgsize)
    else .ok (.writeNoRspFlat connHandle attrHandle
      ((value.getD []).take valueLength.toUInt16.toNat))

/-- A call of the application. -/
inductive BleRequest
  | discoverServices (connectionHandle : Int32)
  | discoverCharacteristics (connectionHandle startHandle endHandle : Int32)
  | discoverDescriptors (connectionHandle valueHandle endHandle : Int32)
  | clientWrite (connectionHandle attributeHandle : Int32) (value : Option (List UInt8))
    (valueLength : UInt32) (response : Int32)
  deriving DecidableEq

/-- What a request asks of NimBLE, or how it is refused. -/
def BleRequest.call (initialized ready : Bool) (answers : GattcAnswers) :
    BleRequest → Except BleHs GattcCall
  | discoverServices connectionHandle =>
    bmxEmbeddedBleDiscoverServices initialized ready connectionHandle
  | discoverCharacteristics connectionHandle startHandle endHandle =>
    bmxEmbeddedBleDiscoverCharacteristics initialized ready connectionHandle startHandle endHandle
  | discoverDescriptors connectionHandle valueHandle endHandle =>
    bmxEmbeddedBleDiscoverDescriptors initialized ready connectionHandle valueHandle endHandle
  | clientWrite connectionHandle attributeHandle value valueLength response =>
    bmxEmbeddedBleClientWrite initialized ready connectionHandle attributeHandle value valueLength
      response answers

/-! ### Callbacks -/

/-- What NimBLE reports to the callback of a procedure. -/
inductive GattcReport
  | service (status : Int32) (service : Option BleGattSvc)
  | characteristic (status : Int32) (characteristic : Option BleGattChr)
  | descriptor (status : Int32) (descriptor : Option BleGattDsc)
  | write (status : Int32)

/-- The event that a callback submits, if the report is one for its procedure. -/
def GattcCall.event? : GattcCall → GattcReport → Option BMXBLEEvent
  | discAllSvcs connHandle, .service status service =>
    some (bmxBleClientServiceCallback connHandle status service)
  | discAllChrs connHandle _ _ argument, .characteristic status characteristic =>
    some (bmxBleClientCharacteristicCallback connHandle status characteristic argument.toUInt16)
  | discAllDscs connHandle startHandle _, .descriptor status descriptor =>
    some (bmxBleClientDescriptorCallback connHandle status startHandle descriptor)
  | writeLong connHandle _ _ _ argument, .write status =>
    some (bmxBleClientWriteCallback connHandle status argument.toUInt16)
  | writeFlat connHandle _ _ argument, .write status =>
    some (bmxBleClientWriteCallback connHandle status argument.toUInt16)
  -- there is no callback: the call itself submits the event when NimBLE has answered 0
  | writeNoRspFlat connHandle attrHandle _, .write status =>
    if status = 0 then
      some { kind := .writeComplete, connectionHandle := connHandle, attributeId := attrHandle }
    else none
  | _, _ => none

/-- `ble_uuid_to_str` writes at most 36 characters. -/
def GattcReport.Texts : GattcReport → Prop
  | service _ found => ∀ x ∈ found, x.uuid.length ≤ 36
  | characteristic _ found => ∀ x ∈ found, x.uuid.length ≤ 36
  | descriptor _ found => ∀ x ∈ found, x.uuid.length ≤ 36
  | write _ => True

instance (r : GattcReport) : Decidable r.Texts := by
  cases r <;> unfold GattcReport.Texts <;> infer_instance

/-! ### What the application hears -/

/-- The kinds of requests, as the events tell them apart. -/
inductive BleGroup
  | services | characteristics | descriptors | write
  deriving DecidableEq

/-- By this an application knows what an event belongs to. -/
structure BleKey where
  group : BleGroup
  connection : Int
  handle : Int
  deriving DecidableEq

/-- What the results of the request can be told by. -/
def BleRequest.key : BleRequest → BleKey
  | discoverServices connectionHandle => ⟨.services, connectionHandle.toInt, 0⟩
  | discoverCharacteristics connectionHandle startHandle _ =>
    ⟨.characteristics, connectionHandle.toInt, startHandle.toInt⟩
  | discoverDescriptors connectionHandle valueHandle _ =>
    ⟨.descriptors, connectionHandle.toInt, valueHandle.toInt⟩
  | clientWrite connectionHandle attributeHandle _ _ _ =>
    ⟨.write, connectionHandle.toInt, attributeHandle.toInt⟩

/-- The key of an event that has been taken. -/
def BleTaken.key? (t : BleTaken) : Option BleKey :=
  if t.kind = BleEventKind.serviceDiscovered.code ∨
      t.kind = BleEventKind.serviceDiscoveryComplete.code then
    some ⟨.services, t.connectionHandle, t.parentAttribute⟩
  else if t.kind = BleEventKind.characteristicDiscovered.code ∨
      t.kind = BleEventKind.characteristicDiscoveryComplete.code then
    some ⟨.characteristics, t.connectionHandle, t.parentAttribute⟩
  else if t.kind = BleEventKind.descriptorDiscovered.code ∨
      t.kind = BleEventKind.descriptorDiscoveryComplete.code then
    some ⟨.descriptors, t.connectionHandle, t.parentAttribute⟩
  else if t.kind = BleEventKind.writeComplete.code then
    some ⟨.write, t.connectionHandle, t.attributeId⟩
  else none

/-- What an event tells of its procedure. -/
inductive BleResult
  | service (startHandle endHandle : Int) (uuid : List UInt8)
  | characteristic (defHandle valHandle properties : Int) (uuid : List UInt8)
  | descriptor (handle : Int) (uuid : List UInt8)
  | done (status : Int)
  deriving DecidableEq

/-- The UUID of what was discovered. -/
def BleTaken.uuid (t : BleTaken) : List UInt8 := t.data.toList.take t.dataLength.toNat

/-- What the event says. -/
def BleTaken.result (t : BleTaken) : BleResult :=
  if t.kind = BleEventKind.serviceDiscovered.code then
    .service t.attributeId t.attributeEnd t.uuid
  else if t.kind = BleEventKind.characteristicDiscovered.code then
    .characteristic t.attributeId t.attributeEnd t.properties t.uuid
  else if t.kind = BleEventKind.descriptorDiscovered.code then .descriptor t.attributeId t.uuid
  else .done t.status

/-- What is to be heard of a discovery: the item, or that and how it has ended. -/
def discoveryResult (status : Int32) : Option BleResult → BleResult
  | some item => if status = 0 then item else .done (bleDoneStatus status).toInt
  | none => .done (bleDoneStatus status).toInt

/-- What the report says. -/
def GattcReport.result : GattcReport → BleResult
  | service status found =>
    discoveryResult status (found.map fun x =>
      .service x.startHandle.toNat x.endHandle.toNat x.uuid)
  | characteristic status found =>
    discoveryResult status (found.map fun x =>
      .characteristic x.defHandle.toNat x.valHandle.toNat x.properties.toNat x.uuid)
  | descriptor status found =>
    discoveryResult status (found.map fun x => .descriptor x.handle.toNat x.uuid)
  | write status => .done status.toInt

/-- The result is the last one. -/
def BleResult.isDone : BleResult → Bool
  | done _ => true
  | _ => false

/-! ### Procedures and the ring -/

/-- A procedure that NimBLE has accepted. -/
structure BleProcedure where
  id : Nat
  request : BleRequest
  call : GattcCall
  reports : List GattcReport
  live : Bool

/-- What is to be heard of a procedure. -/
def BleProcedure.results (p : BleProcedure) : List BleResult := p.reports.map GattcReport.result

/-- An event that has been submitted. -/
structure BlePosted where
  /-- the procedure it is from -/
  source : Option Nat
  event : BMXBLEEvent
  stored : Bool

/-- Where an event comes from, and what it tells. -/
abbrev BleHeard := Option Nat × Option BleKey × BleResult

/-- What of a submitted event the application can hear. -/
def BlePosted.heard (x : BlePosted) : BleHeard :=
  (x.source, x.event.taken.key?, x.event.taken.result)

/-- The ring, the procedures under way, and what has been asked and answered. -/
structure BleClient where
  ring : BleRing
  procedures : List BleProcedure
  posted : List BlePosted
  taken : List BleTaken
  returned : List (BleRequest × BleHs)
  asked : List (BleRequest × GattcAnswers × GattcCall)
  clashes : List BleKey

/-- The steps of the application and of NimBLE. -/
inductive BleClientAction
  | call (initialized ready : Bool) (request : BleRequest) (answers : GattcAnswers)
  /-- NimBLE calls back for procedure `i`. -/
  | report (i : Nat) (r : GattcReport)
  /-- An event that is not of the client is submitted. -/
  | post (event : BMXBLEEvent)
  | take

namespace BleClient

/-- NimBLE has accepted a procedure. -/
def start (s : BleClient) (request : BleRequest) (call : GattcCall) : BleClient :=
  { s with
    procedures := s.procedures ++ [⟨s.procedures.length, request, call, [], true⟩]
    clashes :=
      if s.procedures.any fun p => p.live && decide (p.request.key = request.key) then
        request.key :: s.clashes
      else s.clashes }

/-- Submit an event; the ring may be full. -/
def submit (s : BleClient) (source : Option Nat) (event : BMXBLEEvent) : BleClient :=
  let r := bmxBleQueue event s.ring
  { s with ring := r.2, posted := s.posted ++ [⟨source, event, r.1⟩] }

/-- A call starts a procedure if NimBLE accepts it. -/
def callStep (s : BleClient) (initialized ready : Bool) (request : BleRequest)
    (answers : GattcAnswers) : BleClient :=
  match request.call initialized ready answers with
  | .error refusal => { s with returned := s.returned ++ [(request, refusal)] }
  | .ok call =>
    let s := { s with
      returned := s.returned ++ [(request, answers.result)]
      asked := s.asked ++ [(request, answers, call)] }
    if answers.result = .ok then s.start request call else s

/-- A procedure that has not ended is reported on. -/
def reportStep (s : BleClient) (i : Nat) (r : GattcReport) : Option BleClient :=
  match s.procedures[i]? with
  | none => none
  | some p =>
    if p.live ∧ r.Texts then
      (p.call.event? r).map fun event =>
        { s.submit (some p.id) event with
          procedures :=
            s.procedures.set i { p with reports := p.reports ++ [r], live := !r.result.isDone } }
    else none

/-- In any order. -/
def step (s : BleClient) : BleClientAction → Option BleClient
  | .call initialized ready request answers => some (s.callStep initialized ready request answers)
  | .report i r => s.reportStep i r
  | .post event => if event.taken.key? = none then some (s.submit none event) else none
  | .take => (bmxEmbeddedBleTakeEvent s.ring).map fun r =>
      { s with ring := r.2, taken := s.taken ++ [r.1] }

/-- Nothing has been asked. -/
structure Boot (s : BleClient) : Prop where
  ring : s.ring.ring.contents = []
  dropped : s.ring.dropped = 0
  procedures : s.procedures = []
  posted : s.posted = []
  taken : s.taken = []
  returned : s.returned = []
  asked : s.asked = []
  clashes : s.clashes = []

end BleClient

/-- Any interleaving of calls, reports and takes. -/
def bleClientMachine : Machine BleClient BleClientAction where
  init := BleClient.Boot
  step := BleClient.step

/-! ### The statement -/

/-- The call asks NimBLE for what the application wants, within the limits of the protocol. -/
def GattcCall.Serves (mtu : UInt16) : GattcCall → BleRequest → Prop
  | discAllSvcs connHandle, .discoverServices connectionHandle =>
    connHandle.toNat = connectionHandle.toInt
  | discAllChrs connHandle first last argument,
      .discoverCharacteristics connectionHandle startHandle endHandle =>
    connHandle.toNat = connectionHandle.toInt ∧ first.toNat = startHandle.toInt ∧
      last.toNat = endHandle.toInt ∧ 1 ≤ first ∧ first ≤ last ∧ argument.toUInt16 = first
  | discAllDscs connHandle first last, .discoverDescriptors connectionHandle valueHandle endHandle =>
    connHandle.toNat = connectionHandle.toInt ∧ first.toNat = valueHandle.toInt ∧
      last.toNat = endHandle.toInt ∧ 1 ≤ first ∧ first < last
  | writeLong connHandle attrHandle offset bytes argument,
      .clientWrite connectionHandle attributeHandle value valueLength response =>
    connHandle.toNat = connectionHandle.toInt ∧ attrHandle.toNat = attributeHandle.toInt ∧
      1 ≤ attrHandle ∧ offset = 0 ∧ bytes = (value.getD []).take valueLength.toNat ∧
      bytes.length ≤ 512 ∧ response ≠ 0 ∧ argument.toUInt16 = attrHandle
  | writeFlat connHandle attrHandle bytes argument,
      .clientWrite connectionHandle attributeHandle value valueLength response =>
    connHandle.toNat = connectionHandle.toInt ∧ attrHandle.toNat = attributeHandle.toInt ∧
      1 ≤ attrHandle ∧ bytes = (value.getD []).take valueLength.toNat ∧
      (bytes = [] ∨ bytes.length + 3 ≤ mtu.toNat) ∧ response ≠ 0 ∧ argument.toUInt16 = attrHandle
  | writeNoRspFlat connHandle attrHandle bytes,
      .clientWrite connectionHandle attributeHandle value valueLength response =>
    connHandle.toNat = connectionHandle.toInt ∧ attrHandle.toNat = attributeHandle.toInt ∧
      1 ≤ attrHandle ∧ bytes = (value.getD []).take valueLength.toNat ∧
      (bytes = [] ∨ bytes.length + 3 ≤ mtu.toNat) ∧ response = 0
  | _, _ => False

/-- Only the last result of a procedure is its end, and it has one when the procedure has ended. -/
structure BleProcedure.Ends (p : BleProcedure) : Prop where
  once : ∀ r ∈ p.results.dropLast, r.isDone = false
  ended : p.live = false ↔ ∃ status, p.results.getLast? = some (.done status)

/-- What the application can rely on. -/
structure BleClientSafe (s : BleClient) : Prop where
  asked : ∀ a ∈ s.asked, a.2.2.Serves a.2.1.mtu a.1
  /-- There is a procedure for each call that has returned 0, and for no other. -/
  started : s.procedures.map BleProcedure.request =
    (s.returned.filter fun r => r.2 = .ok).map Prod.fst
  ends : ∀ p ∈ s.procedures, p.Ends
  /-- What a procedure has submitted are its results, under its key. -/
  own : ∀ p ∈ s.procedures, (s.posted.map BlePosted.heard).filter (fun x => x.1 = some p.id) =
    p.results.map fun r => (some p.id, some p.request.key, r)
  /-- The application has had what was stored and does not wait any more. -/
  delivered : s.taken ++ s.ring.ring.contents.map BMXBLEEvent.taken =
    (s.posted.filter BlePosted.stored).map fun x => x.event.taken
  counted : s.ring.dropped.toNat = min (s.posted.countP fun x => !x.stored) (2 ^ 32 - 1)
  /-- As long as nothing has been dropped, a key that has not clashed is enough. -/
  told : (∀ x ∈ s.posted, x.stored = true) → ∀ key ∉ s.clashes,
    ((s.taken ++ s.ring.ring.contents.map BMXBLEEvent.taken).filter
        fun t => t.key? = some key).map BleTaken.result =
      (s.procedures.filter fun p => p.request.key = key).flatMap BleProcedure.results

/-! ### What NimBLE is asked -/

/-- A handle that has been checked survives its conversion. -/
theorem toNat_handle {x : Int32} (hlow : ¬ x < 0) (hhigh : ¬ 65535 < x) :
    (x.toUInt32.toUInt16.toNat : Int) = x.toInt := by
  have hlow' : 0 ≤ x.toInt := Int.not_lt.mp fun h => hlow (Int32.lt_iff_toInt_lt.mpr h)
  have hhigh' : x.toInt ≤ 65535 := Int.not_lt.mp fun h => hhigh (Int32.lt_iff_toInt_lt.mpr h)
  have hcast : (x.toUInt32.toUInt16.toNat : Int) = x.toInt % 65536 := toNat_gattIdentifier x
  omega

/-- A handle that is positive as well is no 0 after its conversion. -/
theorem one_le_handle {x : Int32} (hlow : ¬ x ≤ 0) (hhigh : ¬ 65535 < x) :
    (x.toUInt32.toUInt16.toNat : Int) = x.toInt ∧ 1 ≤ x.toUInt32.toUInt16 := by
  have hpos : 0 < x.toInt := Int.not_le.mp fun h => hlow (Int32.le_iff_toInt_le.mpr h)
  have hcast := toNat_handle (fun h => hlow (Int32.le_of_lt h)) hhigh
  refine ⟨hcast, UInt16.le_iff_toNat_le.mpr ?_⟩
  rw [UInt16.toNat_one]
  omega

/-- What is sent in one packet fits into it. -/
theorem take_fits (bytes : List UInt8) {length : UInt32} {mtu : UInt16} (hlength : ¬ 512 < length)
    (hshort : ¬ (shortLimit mtu).toUInt32 < length) :
    bytes.take length.toUInt16.toNat = bytes.take length.toNat ∧
      (bytes.take length.toUInt16.toNat = [] ∨
        (bytes.take length.toUInt16.toNat).length + 3 ≤ mtu.toNat) := by
  have hlength' : length.toNat ≤ 512 := Nat.not_lt.mp fun h => hlength (UInt32.lt_iff_toNat_lt.mpr h)
  have hcast : length.toUInt16.toNat = length.toNat := by
    rw [UInt32.toNat_toUInt16]
    omega
  have hshort' : length.toNat ≤ (shortLimit mtu).toNat :=
    Nat.not_lt.mp fun h => hshort (UInt32.lt_iff_toNat_lt.mpr h)
  rw [hcast]
  refine ⟨rfl, ?_⟩
  rw [shortLimit] at hshort'
  split at hshort'
  · rename_i hmtu
    have hmtu' : 3 < mtu.toNat := UInt16.lt_iff_toNat_lt.mp hmtu
    have hsub : (mtu - 3).toNat = mtu.toNat - 3 :=
      UInt16.toNat_sub_of_le _ _ (UInt16.le_iff_toNat_le.mpr hmtu'.le)
    refine .inr ?_
    rw [List.length_take]
    omega
  · refine .inl ?_
    rw [Nat.le_zero.mp hshort', List.take_zero]

/-- **NimBLE is asked for what the application wants**, or not at all. -/
theorem BleRequest.serves {request : BleRequest} {initialized ready : Bool} {answers : GattcAnswers}
    {call : GattcCall} (h : request.call initialized ready answers = .ok call) :
    call.Serves answers.mtu request := by
  -- a refusal asks nothing; what is left has passed the checks of its fields
  cases request with
  | discoverServices connectionHandle =>
    simp only [BleRequest.call, bmxEmbeddedBleDiscoverServices] at h
    split at h
    · cases h
    · rename_i hvalid
      simp only [not_or] at hvalid
      obtain ⟨-, -, hlow, hhigh⟩ := hvalid
      obtain rfl := Except.ok.inj h
      exact toNat_handle hlow hhigh
  | discoverCharacteristics connectionHandle startHandle endHandle =>
    simp only [BleRequest.call, bmxEmbeddedBleDiscoverCharacteristics] at h
    split at h
    · cases h
    · rename_i hvalid
      simp only [not_or] at hvalid
      obtain ⟨-, -, hlow, hhigh, hstart, hend, hlast⟩ := hvalid
      obtain rfl := Except.ok.inj h
      have hle : startHandle ≤ endHandle := Int32.not_lt.mp hend
      have hfirst := one_le_handle hstart fun h => hlast (Int32.lt_of_lt_of_le h hle)
      have hlast' := toNat_handle (fun h => hstart
        (Int32.le_of_lt (Int32.lt_of_le_of_lt hle h))) hlast
      -- the casts to 16 bits keep the order
      have hle' := Int32.le_iff_toInt_le.mp hle
      refine ⟨toNat_handle hlow hhigh, hfirst.1, hlast', hfirst.2, ?_, rfl⟩
      rw [UInt16.le_iff_toNat_le]
      omega
  | discoverDescriptors connectionHandle valueHandle endHandle =>
    simp only [BleRequest.call, bmxEmbeddedBleDiscoverDescriptors] at h
    split at h
    · cases h
    · rename_i hvalid
      simp only [not_or] at hvalid
      obtain ⟨-, -, hlow, hhigh, hvalue, hend, hlast⟩ := hvalid
      obtain rfl := Except.ok.inj h
      have hlt : valueHandle < endHandle := Int32.not_le.mp hend
      have hfirst := one_le_handle hvalue fun h => hlast (Int32.lt_trans h hlt)
      have hlast' := toNat_handle (fun h => hvalue (Int32.le_of_lt (Int32.lt_trans hlt h))) hlast
      have hlt' := Int32.lt_iff_toInt_lt.mp hlt
      refine ⟨toNat_handle hlow hhigh, hfirst.1, hlast', hfirst.2, ?_⟩
      rw [UInt16.lt_iff_toNat_lt]
      omega
  | clientWrite connectionHandle attributeHandle value valueLength response =>
    simp only [BleRequest.call, bmxEmbeddedBleClientWrite] at h
    split at h
    · cases h
    · rename_i hvalid
      simp only [not_or] at hvalid
      obtain ⟨-, -, hlow, hhigh, hattribute, hattribute', hlength, -⟩ := hvalid
      have hconnection := toNat_handle hlow hhigh
      have hhandle := one_le_handle hattribute hattribute'
      split at h
      · cases h
      · split at h
        · -- NimBLE splits a long write itself, so only its whole length is bounded
          rename_i hlong
          split at h
          · cases h
          · obtain rfl := Except.ok.inj h
            have hlength' : valueLength.toNat ≤ 512 :=
              Nat.not_lt.mp fun h => hlength (UInt32.lt_iff_toNat_lt.mpr h)
            refine ⟨hconnection, hhandle.1, hhandle.2, rfl, rfl, ?_, hlong.1, rfl⟩
            exact (List.length_take_le _ _).trans hlength'
        · rename_i hlong
          split at h
          · rename_i hresponse
            obtain rfl := Except.ok.inj h
            -- a short one must fit the MTU
            obtain ⟨htake, hfits⟩ := take_fits (value.getD []) hlength
              fun hshort => hlong ⟨hresponse, hshort⟩
            exact ⟨hconnection, hhandle.1, hhandle.2, htake, hfits, hresponse, rfl⟩
          · rename_i hresponse
            split at h
            · cases h
            · rename_i hshort
              obtain rfl := Except.ok.inj h
              obtain ⟨htake, hfits⟩ := take_fits (value.getD []) hlength hshort
              exact ⟨hconnection, hhandle.1, hhandle.2, htake, hfits,
                Classical.not_not.mp hresponse⟩

/-- A refusal is an error. -/
theorem BleRequest.refusal_ne_ok {request : BleRequest} {initialized ready : Bool}
    {answers : GattcAnswers} {refusal : BleHs}
    (h : request.call initialized ready answers = .error refusal) : refusal ≠ .ok := by
  rintro rfl
  cases request with
  | clientWrite =>
    simp only [BleRequest.call, bmxEmbeddedBleClientWrite] at h
    split at h
    · cases h
    · split at h
      · cases h
      · repeat' (split at h <;> try cases h)
  | _ =>
    simp only [BleRequest.call, bmxEmbeddedBleDiscoverServices,
      bmxEmbeddedBleDiscoverCharacteristics, bmxEmbeddedBleDiscoverDescriptors] at h
    split at h <;> cases h

/-! ### What an event tells -/

/-- What is copied out of an event that has been given a text is the text. -/
theorem uuid_queueUuid (event : BMXBLEEvent) {text : List UInt8} (h : text.length ≤ 36) :
    (bmxBleQueueUuid event text).taken.uuid = text := by
  have hlength : ((text.length.toUInt16.toNat : Nat) : Int).toNat = text.length := by
    show (UInt16.ofNat text.length).toNat = text.length
    rw [UInt16.toNat_ofNat']
    omega
  show (copied text.length text : Vector UInt8 512).toList.take _ = text
  rw [show ((bmxBleQueueUuid event text).taken.dataLength).toNat = text.length from hlength,
    copied_toList_take (by omega) le_rfl, List.take_length]

/-- An event is one of its procedure, with what there is to hear. -/
def BMXBLEEvent.Tells (event : BMXBLEEvent) (key : BleKey) (result : BleResult) : Prop :=
  event.taken.key? = some key ∧ event.taken.result = result

/-- A discovery tells of its items and its end if both events are of its kind. -/
theorem bleDiscovery_tells {β : Type} {event : BMXBLEEvent} {complete : BleEventKind}
    {found : β → BMXBLEEvent} {key : BleKey} {item : β → BleResult} {status : Int32} {x : Option β}
    (hdone : ∀ status, BMXBLEEvent.Tells { event with kind := complete, status } key
      (.done status.toInt))
    (hfound : ∀ y ∈ x, (found y).Tells key (item y)) :
    (bleDiscovery event complete found status x).Tells key (discoveryResult status (x.map item)) := by
  cases x with
  | none => exact hdone _
  | some y =>
    by_cases hstatus : status = 0
    · simp only [bleDiscovery, Option.map_some, discoveryResult, if_pos hstatus]
      exact hfound y rfl
    · simp only [bleDiscovery, Option.map_some, discoveryResult, if_neg hstatus]
      exact hdone _

/-- The completion of a write. -/
theorem bleWritten_tells {connHandle attrHandle : UInt16} {connectionHandle attributeHandle : Int32}
    (hconnection : (connHandle.toNat : Int) = connectionHandle.toInt)
    (hhandle : (attrHandle.toNat : Int) = attributeHandle.toInt) (status : Int32) :
    (bmxBleClientWriteCallback connHandle status attrHandle).Tells
      ⟨.write, connectionHandle.toInt, attributeHandle.toInt⟩ (.done status.toInt) := by
  rw [← hconnection, ← hhandle]
  exact ⟨rfl, rfl⟩

/-- **An event tells what NimBLE has reported**, and which call of the application it is for. -/
theorem GattcCall.event_tells {call : GattcCall} {r : GattcReport} {request : BleRequest}
    {mtu : UInt16} {event : BMXBLEEvent} (hserves : call.Serves mtu request) (htexts : r.Texts)
    (h : call.event? r = some event) : event.Tells request.key r.result := by
  -- a call serves a request of its own kind, and its callback gets reports of that kind
  cases call <;> cases request <;> try exact hserves.elim
  all_goals cases r <;> try exact absurd h.symm (Option.some_ne_none event)
  case discAllSvcs.discoverServices.service =>
    obtain rfl := Option.some.inj h
    simp only [BleRequest.key, ← show _ = _ from hserves]
    refine bleDiscovery_tells (fun _ => ⟨rfl, rfl⟩) fun x hx => ⟨rfl, ?_⟩
    exact congrArg (BleResult.service _ _) (uuid_queueUuid _ (htexts x hx))
  case discAllChrs.discoverCharacteristics.characteristic =>
    obtain ⟨hconnection, hfirst, -, -, -, hargument⟩ := hserves
    obtain rfl := Option.some.inj h
    simp only [BleRequest.key, ← hconnection, ← hfirst, ← hargument]
    refine bleDiscovery_tells (fun _ => ⟨rfl, rfl⟩) fun x hx => ⟨rfl, ?_⟩
    exact congrArg (BleResult.characteristic _ _ _) (uuid_queueUuid _ (htexts x hx))
  case discAllDscs.discoverDescriptors.descriptor =>
    obtain ⟨hconnection, hfirst, -⟩ := hserves
    obtain rfl := Option.some.inj h
    simp only [BleRequest.key, ← hconnection, ← hfirst]
    refine bleDiscovery_tells (fun _ => ⟨rfl, rfl⟩) fun x hx => ⟨rfl, ?_⟩
    exact congrArg (BleResult.descriptor _) (uuid_queueUuid _ (htexts x hx))
  case writeLong.clientWrite.write =>
    obtain ⟨hconnection, hhandle, -, -, -, -, -, hargument⟩ := hserves
    obtain rfl := Option.some.inj h
    exact bleWritten_tells hconnection (hargument ▸ hhandle) _
  case writeFlat.clientWrite.write =>
    obtain ⟨hconnection, hhandle, -, -, -, -, hargument⟩ := hserves
    obtain rfl := Option.some.inj h
    exact bleWritten_tells hconnection (hargument ▸ hhandle) _
  case writeNoRspFlat.clientWrite.write status =>
    obtain ⟨hconnection, hhandle, -⟩ := hserves
    rw [event?] at h
    split at h
    · rename_i hstatus
      obtain rfl := Option.some.inj h
      exact hstatus ▸ bleWritten_tells hconnection hhandle 0
    · cases h

/-! ### Two ways to look at the events -/

/-- What has been submitted for a procedure. -/
def BleProcedure.heard (p : BleProcedure) : List BleHeard :=
  p.results.map fun r => (some p.id, some p.request.key, r)

/-- By the procedure they are from, -/
def bleById : View BleProcedure Nat BleHeard where
  key := BleProcedure.id
  emitted := BleProcedure.heard
  live p := p.live = true
  keyOf x := x.1

/-- and by what the application knows. -/
def bleByKey : View BleProcedure BleKey BleHeard where
  key p := p.request.key
  emitted := BleProcedure.heard
  live p := p.live = true
  keyOf x := x.2.1

/-! ### The invariant -/

/-- What has been taken and what waits is what was stored. -/
structure BleClient.Delivered (s : BleClient) : Prop where
  delivered : s.taken ++ s.ring.ring.contents.map BMXBLEEvent.taken =
    (s.posted.filter BlePosted.stored).map fun x => x.event.taken
  counted : s.ring.dropped.toNat = min (s.posted.countP fun x => !x.stored) (2 ^ 32 - 1)

/-- The invariant behind it. -/
structure BleClient.Inv (s : BleClient) : Prop where
  asked : ∀ a ∈ s.asked, a.2.2.Serves a.2.1.mtu a.1
  started : s.procedures.map BleProcedure.request =
    (s.returned.filter fun r => r.2 = .ok).map Prod.fst
  ids : s.procedures.map BleProcedure.id = List.range s.procedures.length
  serves : ∀ p ∈ s.procedures, ∃ mtu, p.call.Serves mtu p.request
  ends : ∀ p ∈ s.procedures, p.Ends
  delivered : s.Delivered
  own : ∀ id, bleById.Attributed s.procedures (s.posted.map BlePosted.heard) id
  exclusive : ∀ key ∉ s.clashes, bleByKey.Exclusive s.procedures key
  told : ∀ key ∉ s.clashes,
    bleByKey.Attributed s.procedures (s.posted.map BlePosted.heard) key

/-- Replace an element by one that looks the same. -/
theorem map_set_eq {α β : Type*} {l : List α} {i : Nat} {a b : α} {f : α → β}
    (h : l[i]? = some a) (hf : f b = f a) : (l.set i b).map f = l.map f := by
  obtain ⟨before, after, rfl, hset⟩ := View.split_at h b
  rw [hset, List.map_append, List.map_append, List.map_cons, List.map_cons, hf]

/-- An element of a list in which one has been replaced. -/
theorem forall_mem_set {α : Type*} {l : List α} {i : Nat} {b : α} {P : α → Prop}
    (hl : ∀ x ∈ l, P x) (hb : P b) : ∀ x ∈ l.set i b, P x := by
  intro x hx
  rcases List.mem_or_eq_of_mem_set hx with hx | rfl
  · exact hl x hx
  · exact hb

namespace BleClient

variable {s s' : BleClient}

theorem Inv.distinct (h : s.Inv) : s.procedures.Pairwise fun p q => bleById.key p ≠ bleById.key q :=
  List.pairwise_map.mp (h.ids ▸ List.nodup_range)

/-! ### The ring -/

theorem Delivered.submit (h : s.Delivered) (source : Option Nat) (event : BMXBLEEvent) :
    (s.submit source event).Delivered := by
  by_cases hroom : s.ring.ring.contents.length < bmxBleEventCapacity.size.toNat
  · obtain ⟨hstored, hcontents, hdropped⟩ := s.ring.post_of_lt event hroom
    have hposted : (s.submit source event).posted = s.posted ++ [⟨source, event, true⟩] := by
      rw [← hstored]
      rfl
    refine ⟨?_, ?_⟩
    · show s.taken ++ (s.ring.post event).2.ring.contents.map BMXBLEEvent.taken = _
      rw [hposted, hcontents, List.map_append, ← List.append_assoc, h.delivered, List.filter_append,
        List.map_append]
      rfl
    · show (s.ring.post event).2.dropped.toNat = _
      rw [hposted, hdropped, h.counted, List.countP_append]
      rfl
  · have hfull : s.ring.ring.contents.length = bmxBleEventCapacity.size.toNat :=
      Nat.le_antisymm s.ring.ring.length_contents_le (Nat.le_of_not_lt hroom)
    have hdrops := Mailbox.post_of_full event hfull
    have hposted : (s.submit source event).posted = s.posted ++ [⟨source, event, false⟩] := by
      show s.posted ++ [⟨source, event, (s.ring.post event).1⟩] = _
      rw [hdrops]
    refine ⟨?_, ?_⟩
    · show s.taken ++ (s.ring.post event).2.ring.contents.map BMXBLEEvent.taken = _
      rw [hposted, hdrops, List.filter_append, List.map_append]
      exact h.delivered.trans (List.append_nil _).symm
    · show (s.ring.post event).2.dropped.toNat = _
      rw [hposted, hdrops, List.countP_append]
      show (bumpSaturating s.ring.dropped).toNat = min (_ + 1) _
      rw [toNat_bumpSaturating, h.counted]
      omega

theorem Delivered.take (h : s.Delivered) {e : BMXBLEEvent} {ring : BleRing}
    (htake : s.ring.take = some (e, ring)) :
    { s with ring, taken := s.taken ++ [e.taken] : BleClient }.Delivered := by
  obtain ⟨hcontents, hdropped⟩ := Mailbox.contents_of_take htake
  refine ⟨?_, hdropped ▸ h.counted⟩
  show (s.taken ++ [e.taken]) ++ ring.ring.contents.map BMXBLEEvent.taken = _
  rw [List.append_assoc, ← h.delivered, hcontents]
  rfl

/-! ### A procedure starts -/

theorem Inv.start (h : s.Inv) {request : BleRequest} {call : GattcCall} {answers : GattcAnswers}
    (hserves : call.Serves answers.mtu request) :
    ({ s with
        returned := s.returned ++ [(request, BleHs.ok)]
        asked := s.asked ++ [(request, answers, call)] }.start request call).Inv where
  asked := by
    intro a ha
    rcases List.mem_append.mp ha with ha | ha
    · exact h.asked a ha
    · obtain rfl := List.mem_singleton.mp ha
      exact hserves
  started := by
    show (s.procedures ++ [_]).map BleProcedure.request =
      ((s.returned ++ [(request, BleHs.ok)]).filter fun r => decide (r.2 = .ok)).map Prod.fst
    rw [List.map_append, h.started, List.filter_append, List.map_append]
    rfl
  ids := by
    show (s.procedures ++ [_]).map BleProcedure.id = List.range (s.procedures ++ [_]).length
    rw [List.map_append, h.ids, List.length_append, List.length_singleton, List.range_succ]
    rfl
  serves := by
    intro p hp
    rcases List.mem_append.mp hp with hp | hp
    · exact h.serves p hp
    · obtain rfl := List.mem_singleton.mp hp
      exact ⟨answers.mtu, hserves⟩
  ends := by
    intro p hp
    rcases List.mem_append.mp hp with hp | hp
    · exact h.ends p hp
    · obtain rfl := List.mem_singleton.mp hp
      exact ⟨(fun r hr => by cases hr), ⟨(fun hlive => by cases hlive), fun ⟨_, hlast⟩ => by
        cases hlast⟩⟩
  delivered := ⟨h.delivered.delivered, h.delivered.counted⟩
  own id := (h.own id).start rfl
  exclusive key hkey := by
    -- if a procedure with that key is alive, the key joins the clashes and claims nothing
    by_cases hclash : (s.procedures.any fun p => p.live && decide (p.request.key = request.key)) =
        true
    · have hkey' : key ∉ request.key :: s.clashes := by
        simpa only [BleClient.start, hclash, if_true] using hkey
      refine (h.exclusive key fun hmem => hkey' (List.mem_cons_of_mem _ hmem)).start ?_
      exact fun hk => absurd (hk ▸ List.mem_cons_self) hkey'
    · have hkey' : key ∉ s.clashes := by
        simpa only [BleClient.start, hclash, if_false, Bool.false_eq_true] using hkey
      refine (h.exclusive key hkey').start fun hk p hp hpk hlive => hclash ?_
      exact List.any_eq_true.mpr ⟨p, hp, (Bool.and_eq_true ..).mpr
        ⟨hlive, decide_eq_true (hpk.trans hk.symm)⟩⟩
  told key hkey := by
    refine (h.told key fun hmem => hkey ?_).start rfl
    simp only [BleClient.start]
    split
    · exact List.mem_cons_of_mem _ hmem
    · exact hmem

/-- A call that starts nothing is one that does not return 0. -/
theorem Inv.refuse (h : s.Inv) {request : BleRequest} {result : BleHs} (hresult : result ≠ .ok)
    {asked : List (BleRequest × GattcAnswers × GattcCall)}
    (hasked : ∀ a ∈ asked, a.2.2.Serves a.2.1.mtu a.1) :
    { s with returned := s.returned ++ [(request, result)], asked : BleClient }.Inv where
  asked := hasked
  started := by
    have hnone : [(request, result)].filter (fun r => r.2 = .ok) = [] :=
      List.filter_cons_of_neg fun hok => hresult (of_decide_eq_true hok)
    rw [List.filter_append, hnone, List.append_nil]
    exact h.started
  ids := h.ids
  serves := h.serves
  ends := h.ends
  delivered := ⟨h.delivered.delivered, h.delivered.counted⟩
  own := h.own
  exclusive := h.exclusive
  told := h.told

theorem Inv.call (h : s.Inv) (initialized ready : Bool) (request : BleRequest)
    (answers : GattcAnswers) : (s.callStep initialized ready request answers).Inv := by
  rw [callStep]
  split
  · rename_i refusal hrefused
    exact h.refuse (BleRequest.refusal_ne_ok hrefused) h.asked
  · rename_i call hcall
    have hserves := BleRequest.serves hcall
    dsimp only
    split
    · rename_i hok
      rw [hok]
      exact h.start hserves
    · rename_i hok
      refine h.refuse hok fun a ha => ?_
      rcases List.mem_append.mp ha with ha | ha
      · exact h.asked a ha
      · obtain rfl := List.mem_singleton.mp ha
        exact hserves

/-! ### A procedure is reported on -/

/-- The results of a procedure that goes on have not had its end. -/
theorem Ends.report {p : BleProcedure} (h : p.Ends) (hlive : p.live = true) (r : GattcReport) :
    { p with reports := p.reports ++ [r], live := !r.result.isDone : BleProcedure }.Ends := by
  have hresults : BleProcedure.results
      { p with reports := p.reports ++ [r], live := !r.result.isDone } =
        p.results ++ [r.result] := List.map_append
  refine ⟨?_, ?_⟩
  · rw [hresults, List.dropLast_concat]
    intro x hx
    rcases List.eq_nil_or_concat p.results with hnil | ⟨front, last, hlast⟩
    · rw [hnil] at hx
      cases hx
    · rw [hlast, List.concat_eq_append] at hx
      rcases List.mem_append.mp hx with hfront | hend
      · exact h.once x (by rwa [hlast, List.concat_eq_append, List.dropLast_concat])
      · obtain rfl := List.mem_singleton.mp hend
        cases hx' : x with
        | done status =>
          have hended := h.ended.mpr ⟨status, by
            rw [hlast, List.concat_eq_append, List.getLast?_concat, hx']⟩
          exact absurd (hlive.symm.trans hended) (by decide)
        | _ => rfl
  · rw [hresults, List.getLast?_concat]
    cases hresult : r.result with
    | done status => exact ⟨fun _ => ⟨status, rfl⟩, fun _ => rfl⟩
    | _ => exact ⟨(fun h => by cases h), fun ⟨_, h⟩ => by cases h⟩

theorem Inv.report (h : s.Inv) {i : Nat} {r : GattcReport} (hs : s.reportStep i r = some s') :
    s'.Inv := by
  rw [reportStep] at hs
  split at hs
  · cases hs
  rename_i p hp
  split at hs
  · rename_i hok
    obtain ⟨hlive, htexts⟩ := hok
    obtain ⟨event, hevent, rfl⟩ := Option.map_eq_some_iff.mp hs
    have hmem := List.mem_of_getElem? hp
    obtain ⟨mtu, hserves⟩ := h.serves p hmem
    obtain ⟨hkey, hresult⟩ := GattcCall.event_tells hserves htexts hevent
    have hheard : (s.submit (some p.id) event).posted.map BlePosted.heard =
        s.posted.map BlePosted.heard ++ [(some p.id, some p.request.key, r.result)] := by
      rw [← hkey, ← hresult]
      exact List.map_append
    -- the procedure after the report: it lives on unless this was its last one
    let q : BleProcedure := { p with reports := p.reports ++ [r], live := !r.result.isDone }
    have hemits : q.heard = p.heard ++ [(some p.id, some p.request.key, r.result)] := by
      show List.map _ (List.map _ (p.reports ++ [r])) = _
      rw [List.map_append, List.map_append]
      rfl
    have hsame : (s.procedures.set i q).map BleProcedure.request =
        s.procedures.map BleProcedure.request := map_set_eq hp rfl
    have hids : (s.procedures.set i q).map BleProcedure.id = s.procedures.map BleProcedure.id :=
      map_set_eq hp rfl
    refine ⟨h.asked, hsame.trans h.started, ?_, forall_mem_set h.serves ⟨mtu, hserves⟩,
      forall_mem_set h.ends (Ends.report (h.ends p hmem) hlive r), ?_, fun id => ?_, fun key hnot => ?_,
      fun key hnot => ?_⟩
    · show (s.procedures.set i q).map BleProcedure.id = List.range (s.procedures.set i q).length
      rw [hids, h.ids, List.length_set]
    · exact ⟨(h.delivered.submit _ event).1, (h.delivered.submit _ event).2⟩
    · rw [hheard]
      exact (h.own id).emit (View.exclusive_of_injective h.distinct id) hp hlive rfl hemits rfl
    · exact (h.exclusive key hnot).set hp rfl fun _ => hlive
    · rw [hheard]
      exact (h.told key hnot).emit (h.exclusive key hnot) hp hlive rfl hemits rfl
  · cases hs

/-! ### Every step -/

theorem Inv.post (h : s.Inv) {event : BMXBLEEvent} (hother : event.taken.key? = none) :
    (s.submit none event).Inv where
  asked := h.asked
  started := h.started
  ids := h.ids
  serves := h.serves
  ends := h.ends
  delivered := h.delivered.submit none event
  own id := by
    show bleById.Attributed s.procedures ((s.posted ++ [_]).map BlePosted.heard) id
    rw [List.map_append]
    exact (h.own id).other fun hid => by cases hid
  exclusive := h.exclusive
  told key hnot := by
    show bleByKey.Attributed s.procedures ((s.posted ++ [_]).map BlePosted.heard) key
    rw [List.map_append]
    exact (h.told key hnot).other fun hkey => by cases hother.symm.trans hkey

theorem Inv.step (h : s.Inv) {a : BleClientAction} (hs : s.step a = some s') : s'.Inv := by
  cases a with
  | call initialized ready request answers =>
    obtain rfl := Option.some.inj hs
    exact h.call initialized ready request answers
  | report i r => exact h.report hs
  | post event =>
    simp only [BleClient.step] at hs
    split at hs
    · rename_i hother
      obtain rfl := Option.some.inj hs
      exact h.post hother
    · cases hs
  | take =>
    obtain ⟨t, ht, rfl⟩ := Option.map_eq_some_iff.mp hs
    obtain ⟨⟨e, ring⟩, htake, rfl⟩ := Option.map_eq_some_iff.mp ht
    exact ⟨h.asked, h.started, h.ids, h.serves, h.ends, h.delivered.take htake, h.own, h.exclusive,
      h.told⟩

theorem Boot.inv (h : s.Boot) : s.Inv := by
  obtain ⟨hring, hdropped, hprocedures, hposted, htaken, hreturned, hasked, hclashes⟩ := h
  refine ⟨?_, ?_, ?_, ?_, ?_, ⟨?_, ?_⟩, fun id => ?_, fun key _ => ?_, fun key _ => ?_⟩
  · rw [hasked]
    exact fun a ha => by cases ha
  · rw [hprocedures, hreturned]
    rfl
  · rw [hprocedures]
    rfl
  · rw [hprocedures]
    exact fun p hp => by cases hp
  · rw [hprocedures]
    exact fun p hp => by cases hp
  · rw [hring, htaken, hposted]
    rfl
  · rw [hdropped, hposted]
    rfl
  · rw [hprocedures, hposted]
    rfl
  · rw [hprocedures]
    exact List.Pairwise.nil
  · rw [hprocedures, hposted]
    rfl

/-! ### The main result -/

theorem Inv.safe (h : s.Inv) : BleClientSafe s where
  asked := h.asked
  started := h.started
  ends := h.ends
  own p hp := (h.own p.id).select_eq h.distinct hp
  delivered := h.delivered.delivered
  counted := h.delivered.counted
  told hall key hnot := by
    have hstored : s.posted.filter BlePosted.stored = s.posted := List.filter_eq_self.mpr hall
    have hselect := congrArg (List.map fun x : BleHeard => x.2.2) (h.told key hnot)
    rw [h.delivered.delivered, hstored, List.filter_map, List.map_map]
    rw [View.select, List.filter_map, List.map_map, List.map_flatMap] at hselect
    refine hselect.trans ?_
    show (s.procedures.filter _).flatMap _ = (s.procedures.filter _).flatMap _
    congr 1
    funext p
    exact (List.map_map ..).trans (List.map_id _)

end BleClient

/-- **The procedures of the client**, over all runs: NimBLE is asked for what the application wants,
with packets that fit; each procedure that is accepted is heard of by its results, in order, and one
completion at the end; what the ring had no room for is counted and nothing else is missing; and
where none was dropped, the key tells apart what belongs to which call, unless it has clashed. -/
theorem ble_client {s : BleClient} (h : bleClientMachine.Reachable s) : BleClientSafe s := by
  have hinv : s.Inv :=
    h.invariant (fun _ hboot => hboot.inv) fun _ _ _ hinv _ hstep => hinv.step hstep
  exact hinv.safe

/-- A discovery of services, and meanwhile a write without response that does not fit and one that
does; the application hears of the write before the discovery has ended. -/
def bleClientRun : List BleClientAction :=
  [.call true true (.discoverServices 5) {},
    .call true true (.clientWrite 5 7 (some (List.replicate 21 1)) 21 0) { mtu := 23 },
    .call true true (.clientWrite 5 7 (some [1, 2]) 2 0) { mtu := 23 },
    .report 0 (.service 0 (some ⟨1, 9, [0x31, 0x38]⟩)),
    .report 1 (.write 0),
    .post { kind := .mtuChanged, connectionHandle := 5 },
    .take, .take,
    .report 0 (.service bleHsEdone none),
    .take]

theorem ble_client_run : ∃ s, bleClientMachine.Reachable s ∧
    s.taken.map (fun t => (t.kind, t.connectionHandle, t.attributeId, t.status)) =
      [(10, 5, 1, 0), (17, 5, 7, 0), (19, 5, 0, 0)] ∧
    s.returned.map Prod.snd = [.ok, .other bleHsEmsgsize, .ok] ∧ s.clashes = [] ∧
    BleClientSafe s := by
  obtain ⟨s, hs, htest⟩ := Machine.exists_reachable_of_run (M := bleClientMachine) bleClientRun
    (fun s => s.taken.map (fun t => (t.kind, t.connectionHandle, t.attributeId, t.status)) =
      [(10, 5, 1, 0), (17, 5, 7, 0), (19, 5, 0, 0)] ∧
      s.returned.map Prod.snd = [.ok, .other bleHsEmsgsize, .ok] ∧ s.clashes = [])
    (s := ⟨⟨Ring.empty bmxBleEventCapacity, 0⟩, [], [], [], [], [], []⟩)
    ⟨rfl, rfl, rfl, rfl, rfl, rfl, rfl, rfl⟩ (by decide)
  obtain ⟨htaken, hreturned, hclashes⟩ := of_decide_eq_true htest
  exact ⟨s, hs, htaken, hreturned, hclashes, ble_client hs⟩

end Esp32Mod
