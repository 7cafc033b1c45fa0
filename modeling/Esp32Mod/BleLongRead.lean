/-
Esp32Mod/BleLongRead.lean

A long read of a characteristic, both ends together
(`network.mod/ble.mod/native/esp32_ble.c`): `bmx_embedded_ble_client_read` and
`bmx_ble_client_read_callback` on the client, `bmx_ble_gatt_access` on the server.

Between them is NimBLE, of which `bleGattcReadLong` says what the adapter relies on: reads
at successive offsets, each answered with at most `mtu - 1` of the bytes that the server
appended and handed to the client callback with its offset; after a shorter answer
`BLE_HS_EDONE`, after an error the error; nothing after a callback that returned nonzero.
It takes fuel, and the main result says how much is enough.

Main results:

* `long_read_agrees` — the read ends with one `READ_COMPLETE`, which holds the value from
  the requested offset on, or an error if the offset is behind the end of the value.
-/
import Esp32Mod.GattTable
import Esp32Mod.TerminalEvents

namespace Esp32Mod

/-! ### Packets -/

/-- A packet of the host; its length is 16 bits. -/
structure OsMbuf where
  data : List UInt8
  small : data.length < 65536

/-- `OS_MBUF_PKTLEN`. -/
def OsMbuf.pktlen (om : OsMbuf) : UInt16 := UInt16.ofNatLT om.data.length om.small

@[simp] theorem OsMbuf.toNat_pktlen (om : OsMbuf) : om.pktlen.toNat = om.data.length := rfl

/-- What `ble_hs_mbuf_to_flat` returns, and how many bytes it has copied. -/
structure FlatAnswer where
  result : Int32
  copied : UInt16

/-- The whole packet is copied. -/
def OsMbuf.flat (om : OsMbuf) : FlatAnswer := ⟨0, om.pktlen⟩

/-! ### The server -/

/-- The ATT errors that the callback answers with. -/
inductive BleAttErr
  | invalidOffset | invalidAttrValueLen | unlikely | insufficientRes
  deriving DecidableEq

/-- The code of an ATT error, as a status of the host: `BLE_HS_ATT_ERR`. -/
def BleAttErr.status : BleAttErr → Int32
  | invalidOffset => 0x100 + 0x07
  | invalidAttrValueLen => 0x100 + 0x0d
  | unlikely => 0x100 + 0x0e
  | insufficientRes => 0x100 + 0x11

/-- The operations, as far as the callback tells them apart. -/
inductive BleGattAccessOp
  | readChr
  | writeChr
  | other
  deriving DecidableEq

/-- `struct ble_gatt_access_ctxt`, as far as it is read. -/
structure BleGattAccessCtxt where
  op : BleGattAccessOp
  om : OsMbuf
  offset : UInt16

/-- What the access callback does: its result (`none` is 0), what it has appended to the
packet, the record after it, and the event it submits. -/
structure GattAccess where
  result : Option BleAttErr
  appended : List UInt8 := []
  characteristic : Option BMXBLEGATTCharacteristic
  event : Option BMXBLEEvent := none

/-- The value of a characteristic. -/
def BMXBLEGATTCharacteristic.bytes (c : BMXBLEGATTCharacteristic) : List UInt8 :=
  c.value.toList.take c.length.toNat

/-- A write that fits is flattened into a buffer, then stored. -/
def bmxBleGattWrite (c : BMXBLEGATTCharacteristic) (connectionHandle : UInt16) (om : OsMbuf)
    (flat : FlatAnswer) : GattAccess :=
  if c.capacity < om.pktlen then ⟨some .invalidAttrValueLen, [], some c, none⟩
  else if flat.result ≠ 0 ∨ flat.copied ≠ om.pktlen then ⟨some .unlikely, [], some c, none⟩
  else
    { result := none
      characteristic := some
        { c with value := Buffer.blit c.value 0 om.data, length := om.pktlen }
      event := some
        { kind := .gattWrite
          connectionHandle
          attributeId := c.identifier
          dataLength := om.pktlen
          data := copied om.data.length om.data } }

/-- `appends` tells whether `os_mbuf_append` succeeds. -/
def bmxBleGattAccess (connectionHandle : UInt16) (context : Option BleGattAccessCtxt)
    (characteristic : Option BMXBLEGATTCharacteristic) (appends : Bool) (flat : FlatAnswer) :
    GattAccess :=
  match characteristic, context with
  | some c, some context =>
    match context.op with
    | .readChr =>
      if c.length < context.offset then ⟨some .invalidOffset, [], some c, none⟩
      else if appends then ⟨none, c.bytes.drop context.offset.toNat, some c, none⟩
      else ⟨some .insufficientRes, [], some c, none⟩
    | .writeChr => bmxBleGattWrite c connectionHandle context.om flat
    | .other => ⟨some .unlikely, [], some c, none⟩
  | characteristic, _ => ⟨some .unlikely, [], characteristic, none⟩

/-! ### The client -/

/-- `BLE_HS_EMSGSIZE` and `BLE_HS_EBADDATA`. -/
def bleHsEmsgsize : Int32 := 4
def bleHsEbaddata : Int32 := 10

/-- What `ble_gattc_read_long` is called with. -/
structure ReadRequest where
  connectionHandle : UInt16
  attributeHandle : UInt16
  offset : UInt16
  deriving DecidableEq

/-- The arguments that `bmx_embedded_ble_client_read` accepts. -/
def readRequest (initialized ready : Bool) (connectionHandle attributeHandle : Int32)
    (offset : UInt32) : Option ReadRequest :=
  if initialized = false ∨ ready = false ∨ connectionHandle < 0 ∨ 65535 < connectionHandle ∨
      attributeHandle ≤ 0 ∨ 65535 < attributeHandle ∨ 65535 < offset then none
  else some ⟨connectionHandle.toUInt32.toUInt16, attributeHandle.toUInt32.toUInt16,
    offset.toUInt16⟩

/-- The slot of a read that is being started. -/
def ReadRequest.slot (q : ReadRequest) : BMXBLEClientRead :=
  { active := true
    connectionHandle := q.connectionHandle
    attributeHandle := q.attributeHandle
    startOffset := q.offset
    length := 0
    value := Vector.replicate 512 0 }

/-- What the host hands to the read callback: a status, and what has been read, at an offset. -/
structure ReadReport where
  status : Int32
  attr : Option (UInt16 × OsMbuf)

/-- Take in a chunk: the read after it, and 0 or the status that the read is completed with. -/
def bmxBleClientReadChunk (read : BMXBLEClientRead) (offset : UInt16) (om : OsMbuf)
    (flat : FlatAnswer) : BMXBLEClientRead × Int32 :=
  let chunkLength := om.pktlen
  if offset < read.startOffset then (read, bleHsEbaddata)
  else
    let destination := offset.toUInt32 - read.startOffset.toUInt32
    if 512 < destination + chunkLength.toUInt32 then (read, bleHsEmsgsize)
    else
      let read := { read with
        value := Buffer.blit read.value destination.toNat (om.data.take flat.copied.toNat) }
      if flat.result ≠ 0 ∨ flat.copied ≠ chunkLength then
        (read, if flat.result ≠ 0 then flat.result else bleHsEbaddata)
      else
        let last := (destination + chunkLength.toUInt32).toUInt16
        (if read.length < last then { read with length := last } else read, 0)

/-- What the callback returns, the read after it, and the event that it submits. -/
abbrev ReadCallbackAnswer := Int32 × BMXBLEClientRead × Option BMXBLEEvent

/-- Complete the read with `status`, and return `result` to the host. -/
def readCompleted (read : BMXBLEClientRead) (status result : Int32) : ReadCallbackAnswer :=
  (result, (bmxBleClientReadComplete read status).2, some (bmxBleClientReadComplete read status).1)

/-- The callback of a read: a chunk is appended, or the read is over. -/
def bmxBleClientReadCallback (read : BMXBLEClientRead) (report : ReadReport)
    (flat : FlatAnswer) : ReadCallbackAnswer :=
  if read.active = false then (0, read, none)
  else
    match report.attr with
    | some (offset, om) =>
      if report.status = 0 then
        let r := bmxBleClientReadChunk read offset om flat
        if r.2 = 0 then (0, r.1, none) else readCompleted r.1 r.2 r.2
      else readCompleted read report.status 0
    | none => readCompleted read report.status 0

/-! ### The host in between -/

/-- The client's side of a read that goes on: its slot, and what has been submitted. -/
structure LongRead where
  read : BMXBLEClientRead
  events : List BMXBLEEvent := []

namespace LongRead

/-- The host calls the client callback. -/
def deliver (s : LongRead) (report : ReadReport) (flat : FlatAnswer) : Int32 × LongRead :=
  let r := bmxBleClientReadCallback s.read report flat
  (r.1, ⟨r.2.1, s.events ++ r.2.2.toList⟩)

end LongRead

/-- The first `mtu - 1` bytes of what the server has appended. -/
def attAnswer (mtu : UInt16) (appended : List UInt8) : OsMbuf where
  data := appended.take (mtu.toNat - 1)
  small := by
    have := mtu.toNat_lt
    rw [List.length_take]
    omega

/-- `ble_gattc_read_long` on a value that does not change; `none` if the fuel does not last. -/
def bleGattcReadLong (c : BMXBLEGATTCharacteristic) (connectionHandle mtu : UInt16) :
    Nat → UInt16 → LongRead → Option LongRead
  | 0, _, _ => none
  | fuel + 1, offset, s =>
    let access := bmxBleGattAccess connectionHandle (some ⟨.readChr, ⟨[], by decide⟩, offset⟩)
      (some c) true ⟨0, 0⟩
    match access.result with
    | some err => some (s.deliver ⟨err.status, none⟩ ⟨0, 0⟩).2
    | none =>
      let answer := attAnswer mtu access.appended
      let r := s.deliver ⟨0, some (offset, answer)⟩ answer.flat
      if r.1 ≠ 0 then some r.2
      else if answer.pktlen < mtu - 1 then some (r.2.deliver ⟨bleHsEdone, none⟩ ⟨0, 0⟩).2
      else bleGattcReadLong c connectionHandle mtu fuel (offset + answer.pktlen) r.2

/-! ### One chunk after another -/

/-- The bytes of an event. -/
def BMXBLEEvent.bytes (e : BMXBLEEvent) : List UInt8 := e.data.toList.take e.dataLength.toNat

theorem copied_toList_take {size m : Nat} {source : List UInt8} (hsize : m ≤ size)
    (hlength : m ≤ source.length) :
    (copied m source : Vector UInt8 size).toList.take m = source.take m := by
  apply List.ext_getElem
  · simp only [List.length_take, Vector.length_toList]
    omega
  · intro i hi _
    rw [List.length_take, Vector.length_toList] at hi
    simp only [List.getElem_take, Vector.getElem_toList, copied, Vector.getElem_ofFn]
    rw [if_pos (by omega), List.getD_eq_getElem?_getD, List.getElem?_eq_getElem (by omega),
      Option.getD_some]

/-- A chunk that starts where the read ends is written there, and the read is longer by it. -/
theorem readChunk_next (read : BMXBLEClientRead) {offset : UInt16} (om : OsMbuf)
    (hoffset : offset.toNat = read.startOffset.toNat + read.length.toNat)
    (hfits : read.length.toNat + om.data.length ≤ 512) :
    ∃ length, length.toNat = read.length.toNat + om.data.length ∧
      bmxBleClientReadChunk read offset om om.flat =
        ({ read with value := Buffer.blit read.value read.length.toNat om.data, length }, 0) := by
  have hdest : (offset.toUInt32 - read.startOffset.toUInt32).toNat = read.length.toNat := by
    have := offset.toNat_lt
    rw [UInt32.toNat_sub_of_le, UInt16.toNat_toUInt32, UInt16.toNat_toUInt32]
    · omega
    · rw [UInt32.le_iff_toNat_le, UInt16.toNat_toUInt32, UInt16.toNat_toUInt32]
      omega
  have hsum : (offset.toUInt32 - read.startOffset.toUInt32 + om.pktlen.toUInt32).toNat
      = read.length.toNat + om.data.length := by
    rw [UInt32.toNat_add, hdest, UInt16.toNat_toUInt32, OsMbuf.toNat_pktlen]
    omega
  have hlast : (offset.toUInt32 - read.startOffset.toUInt32 + om.pktlen.toUInt32).toUInt16.toNat
      = read.length.toNat + om.data.length := by
    rw [UInt32.toNat_toUInt16, hsum]
    omega
  have hstart : ¬ offset < read.startOffset := by
    rw [UInt16.lt_iff_toNat_lt]
    omega
  have hroom : ¬ 512 < offset.toUInt32 - read.startOffset.toUInt32 + om.pktlen.toUInt32 := by
    rw [UInt32.lt_iff_toNat_lt, hsum]
    exact Nat.not_lt.mpr hfits
  have hflat : ¬ (om.flat.result ≠ 0 ∨ om.flat.copied ≠ om.pktlen) := by
    rintro (h | h) <;> exact h rfl
  have htake : om.data.take om.flat.copied.toNat = om.data := List.take_length
  refine ⟨_, hlast, ?_⟩
  simp only [bmxBleClientReadChunk, if_neg hstart, if_neg hroom, if_neg hflat, hdest, htake]
  split
  · rfl
  · next hle =>
    -- an empty chunk
    have : read.length = (offset.toUInt32 - read.startOffset.toUInt32 +
        om.pktlen.toUInt32).toUInt16 := by
      rw [UInt16.lt_iff_toNat_lt] at hle
      apply UInt16.toNat_inj.mp
      omega
    rw [← this]

namespace LongRead

variable {s : LongRead} {c : BMXBLEGATTCharacteristic} {q : ReadRequest} {m : Nat}

/-- The value from the requested offset on. -/
def rest (c : BMXBLEGATTCharacteristic) (q : ReadRequest) : List UInt8 :=
  c.bytes.drop q.offset.toNat

/-- The client has the first `m` bytes of the rest of the value, and the read goes on. -/
structure Has (s : LongRead) (c : BMXBLEGATTCharacteristic) (q : ReadRequest) (m : Nat) : Prop where
  active : s.read.active = true
  connectionHandle : s.read.connectionHandle = q.connectionHandle
  attributeHandle : s.read.attributeHandle = q.attributeHandle
  startOffset : s.read.startOffset = q.offset
  length : s.read.length.toNat = m
  bounded : m ≤ (rest c q).length
  starts : Buffer.Starts s.read.value ((rest c q).take m)
  events : s.events = []

/-- What the adapter submits when the read ends: one completion, with the
handles of the request. -/
structure Ends (s : LongRead) (q : ReadRequest) (event : BMXBLEEvent) : Prop where
  events : s.events = [event]
  kind : event.kind = .readComplete
  connectionHandle : event.connectionHandle = q.connectionHandle
  attributeId : event.attributeId = q.attributeHandle

theorem has_slot (q : ReadRequest) : Has ⟨q.slot, []⟩ c q 0 :=
  ⟨rfl, rfl, rfl, rfl, rfl, Nat.zero_le _, Buffer.starts_nil _, rfl⟩

/-- The next chunk is taken in behind what is there. -/
theorem Has.deliver_chunk (h : s.Has c q m) (hlength : c.length.toNat ≤ 512) {offset : UInt16}
    (hoffset : offset.toNat = q.offset.toNat + m) {om : OsMbuf}
    (hom : om.data = ((rest c q).drop m).take om.data.length) :
    (s.deliver ⟨0, some (offset, om)⟩ om.flat).1 = 0 ∧
      (s.deliver ⟨0, some (offset, om)⟩ om.flat).2.Has c q (m + om.data.length) := by
  have hrest : (rest c q).length ≤ 512 := by
    simp only [rest, BMXBLEGATTCharacteristic.bytes, List.length_drop, List.length_take]
    omega
  have hfits : m + om.data.length ≤ (rest c q).length := by
    have hle := congrArg List.length hom
    rw [List.length_take, List.length_drop] at hle
    have := h.bounded
    omega
  have hlen := h.length
  obtain ⟨length, hnew, hchunk⟩ := readChunk_next s.read om
    (by rw [hoffset, h.startOffset, hlen]) (by omega)
  simp only [deliver, bmxBleClientReadCallback, h.active, hchunk]
  have hpiece := h.starts.blit om.data (by rw [List.length_take_of_le h.bounded]; omega)
  rw [List.length_take_of_le h.bounded, ← hlen] at hpiece
  refine ⟨rfl, rfl, h.connectionHandle, h.attributeHandle, h.startOffset, ?_, hfits, ?_, ?_⟩
  · rw [← hlen]
    exact hnew
  · rw [List.take_add, ← hom, ← hlen]
    exact hpiece
  · rw [h.events]
    rfl

/-- Whatever ends the read submits what is there. -/
theorem Has.deliver_done (h : s.Has c q m) (status : Int32) (flat : FlatAnswer) :
    ∃ event, (s.deliver ⟨status, none⟩ flat).2.Ends q event ∧
      event.status = bleDoneStatus status ∧ event.bytes = (rest c q).take m := by
  have hsize : ((rest c q).take m).length ≤ 512 := h.starts.length_le
  rw [List.length_take_of_le h.bounded] at hsize
  refine ⟨(bmxBleClientReadComplete s.read status).1,
    ⟨?_, rfl, h.connectionHandle, h.attributeHandle⟩, rfl, ?_⟩
  · simp only [deliver, bmxBleClientReadCallback, h.active, h.events]
    rfl
  · show (copied s.read.length.toNat s.read.value.toList : Vector UInt8 512).toList.take
      s.read.length.toNat = _
    rw [h.length, copied_toList_take hsize (by rw [Vector.length_toList]; exact hsize)]
    have htake := h.starts.toList_take
    rwa [List.length_take_of_le h.bounded] at htake

theorem length_rest (hlength : c.length.toNat ≤ 512) :
    (rest c q).length = c.length.toNat - q.offset.toNat := by
  simp only [rest, BMXBLEGATTCharacteristic.bytes, List.length_drop, List.length_take,
    Vector.length_toList]
  omega

/-- What the server appends at the offset that the client has reached. -/
theorem access_rest {connectionHandle offset : UInt16} {om : OsMbuf} {flat : FlatAnswer}
    (hoffset : offset.toNat = q.offset.toNat + m) (hle : offset.toNat ≤ c.length.toNat) :
    bmxBleGattAccess connectionHandle (some ⟨.readChr, om, offset⟩) (some c) true flat
      = ⟨none, (rest c q).drop m, some c, none⟩ := by
  have hinside : ¬ c.length < offset := by
    rw [UInt16.lt_iff_toNat_lt]
    omega
  simp only [bmxBleGattAccess, if_neg hinside, if_true, rest, List.drop_drop, hoffset]

/-- **The read goes on to the end of the value**: what is left decreases with each chunk that
is as long as the MTU allows, and a shorter one is the last. -/
theorem Has.read_ends (connectionHandle : UInt16) {mtu : UInt16} (hlength : c.length.toNat ≤ 512)
    (hmtu : 2 ≤ mtu.toNat) (fuel : Nat) {offset : UInt16} (h : s.Has c q m)
    (hoffset : offset.toNat = q.offset.toNat + m) (hle : q.offset.toNat ≤ c.length.toNat)
    (hfuel : (rest c q).length - m < fuel) :
    ∃ s' event, bleGattcReadLong c connectionHandle mtu fuel offset s = some s' ∧
      s'.Ends q event ∧ event.status = 0 ∧ event.bytes = rest c q := by
  induction fuel generalizing s m offset with
  | zero => exact absurd hfuel (Nat.not_lt_zero _)
  | succ fuel ih =>
    have hrest := length_rest (q := q) hlength
    have hbounded := h.bounded
    simp only [bleGattcReadLong, access_rest (c := c) hoffset (by omega)]
    generalize hanswer : attAnswer mtu ((rest c q).drop m) = answer
    have hdata : answer.data = ((rest c q).drop m).take (mtu.toNat - 1) := by
      rw [← hanswer]
      rfl
    have hcount : answer.data.length = min (mtu.toNat - 1) ((rest c q).length - m) := by
      rw [hdata, List.length_take, List.length_drop]
    have hom : answer.data = ((rest c q).drop m).take answer.data.length := by
      rw [hdata, List.take_eq_take_iff, List.length_take]
      omega
    obtain ⟨hresult, hhas⟩ := h.deliver_chunk hlength hoffset hom
    rw [if_neg (not_not.mpr hresult)]
    have hone : (mtu - 1).toNat = mtu.toNat - 1 := by
      rw [UInt16.toNat_sub_of_le]
      · rfl
      · rw [UInt16.le_iff_toNat_le]
        exact Nat.le_of_succ_le hmtu
    split
    · next hshort =>
      -- all that was left
      rw [UInt16.lt_iff_toNat_lt, OsMbuf.toNat_pktlen, hone] at hshort
      obtain ⟨event, hends, hstatus, hbytes⟩ := hhas.deliver_done bleHsEdone ⟨0, 0⟩
      refine ⟨_, event, rfl, hends, hstatus, ?_⟩
      rw [hbytes, List.take_of_length_le (by omega)]
    · next hlong =>
      rw [UInt16.lt_iff_toNat_lt, OsMbuf.toNat_pktlen, hone] at hlong
      apply ih hhas
      · rw [UInt16.toNat_add, OsMbuf.toNat_pktlen, hoffset]
        have := c.length.toNat_lt
        omega
      · omega

end LongRead

/-- A request that is accepted has the offset of the call. -/
theorem readRequest_offset {initialized ready : Bool} {connectionHandle attributeHandle : Int32}
    {offset : UInt32} {q : ReadRequest}
    (hq : readRequest initialized ready connectionHandle attributeHandle offset = some q) :
    q.offset.toNat = offset.toNat := by
  simp only [readRequest, Option.ite_none_left_eq_some] at hq
  obtain ⟨hvalid, hq⟩ := hq
  obtain rfl := Option.some.inj hq
  simp only [not_or, UInt32.not_lt, UInt32.le_iff_toNat_le] at hvalid
  have hmax : (65535 : UInt32).toNat = 65535 := rfl
  show offset.toUInt16.toNat = offset.toNat
  rw [UInt32.toNat_toUInt16]
  omega

/-- **A long read returns the value from the requested offset on**, or an error if there is no
such offset, whatever the length, the offset and the MTU.  (The least MTU is 23; with 1 there
would be no room for a byte of the value.) -/
theorem long_read_agrees (c : BMXBLEGATTCharacteristic) (hlength : c.length.toNat ≤ 512)
    (mtu : UInt16) (hmtu : 2 ≤ mtu.toNat) (serverConnection : UInt16)
    (connectionHandle attributeHandle : Int32) (offset : UInt32) (q : ReadRequest)
    (hq : readRequest true true connectionHandle attributeHandle offset = some q)
    (fuel : Nat) (hfuel : 513 ≤ fuel) :
    ∃ s event, bleGattcReadLong c serverConnection mtu fuel q.offset ⟨q.slot, []⟩ = some s ∧
      s.Ends q event ∧
      (offset.toNat ≤ c.length.toNat →
        event.status = 0 ∧ event.bytes = c.bytes.drop offset.toNat) ∧
      (c.length.toNat < offset.toNat → event.status ≠ 0) := by
  have hoffset := readRequest_offset hq
  have hhas : LongRead.Has ⟨q.slot, []⟩ c q 0 := LongRead.has_slot q
  rcases Nat.lt_or_ge c.length.toNat offset.toNat with hbehind | hinside
  · -- the server refuses the first read
    have haccess : ∀ om flat, bmxBleGattAccess serverConnection (some ⟨.readChr, om, q.offset⟩)
        (some c) true flat = ⟨some .invalidOffset, [], some c, none⟩ := by
      intro om flat
      have hlt : c.length < q.offset := by
        rw [UInt16.lt_iff_toNat_lt]
        omega
      simp only [bmxBleGattAccess, if_pos hlt]
    obtain ⟨event, hends, hstatus, -⟩ :=
      hhas.deliver_done BleAttErr.invalidOffset.status ⟨0, 0⟩
    obtain ⟨fuel, rfl⟩ := Nat.exists_eq_add_of_le' (Nat.le_trans (by omega : 1 ≤ 513) hfuel)
    refine ⟨_, event, ?_, hends, fun hle => absurd hle (by omega), fun _ => ?_⟩
    · simp only [bleGattcReadLong, haccess]
    · rw [hstatus]
      decide
  · have hrest := LongRead.length_rest (q := q) hlength
    obtain ⟨s, event, hs, hends, hstatus, hbytes⟩ :=
      hhas.read_ends serverConnection hlength hmtu fuel (Nat.add_zero _).symm
        (by omega) (by omega)
    refine ⟨s, event, hs, hends, fun _ => ⟨hstatus, ?_⟩, fun hlt => absurd hlt (by omega)⟩
    rw [hbytes, LongRead.rest, hoffset]

/-- Three bytes from the second on. -/
theorem long_read_agrees_three :
    let c : BMXBLEGATTCharacteristic :=
      { capacity := 3, length := 3, value := Buffer.blit (Vector.replicate 512 0) 0 [1, 2, 3] }
    ∃ s event, bleGattcReadLong c 0 23 513 1 ⟨(⟨0, 5, 1⟩ : ReadRequest).slot, []⟩ = some s ∧
      s.Ends ⟨0, 5, 1⟩ event ∧
      (1 ≤ 3 → event.status = 0 ∧ event.bytes = c.bytes.drop 1) ∧ (3 < 1 → event.status ≠ 0) :=
  long_read_agrees _ (by decide) 23 (by decide) 0 0 5 1 ⟨0, 5, 1⟩ (by decide) 513 (by decide)

end Esp32Mod
