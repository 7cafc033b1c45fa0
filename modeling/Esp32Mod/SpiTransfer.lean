/-
Esp32Mod/SpiTransfer.lean

The blocking transfers of an SPI controller (`runtime.mod/native/esp32_spi.c`): 8-bit and 16-bit
writes, reads and both at once.  All go through `bmx_esp32_spi_transfer`, which cuts a transfer
into transactions of at most 4092 bytes; a read sends one value over and over, from an array of 64
bytes, so it calls that function for every 64 bytes.

Memory is bytes, on a little-endian machine, and an `int32_t` is an integer whose sums and products
have to fit (`Checked.int32`).  What the driver has been given is recorded, with what it answered.

Main result:

* `transfer_spec` — `bmx_esp32_spi_transfer` is defined on buffers that are long enough, and ends
  with all of them or with a transaction that fails.
-/
import Esp32Mod.SpiDevice
import Esp32Mod.Checked
import Esp32Mod.Tiling
import Mathlib.Tactic.SplitIfs

namespace Esp32Mod

open Checked Tiling

/-! ### The driver -/

/-- The memory a pointer points into, and how far into it. -/
structure BytePointer where
  block : List UInt8
  offset : Nat

/-- `spi_transaction_t`: its length in bits, what it sends from, and where in the destination it
receives to. -/
structure SpiTransaction where
  length : UInt32
  txBuffer : Option BytePointer
  rxBuffer : Option Nat

/-- Its length in bytes; it is told in bits. -/
def SpiTransaction.bytes (t : SpiTransaction) : Nat := t.length.toNat / 8

/-- What `spi_device_polling_transmit` answers, and the bytes that come in meanwhile. -/
structure SpiAnswer where
  error : EspErr
  received : Nat → UInt8

/-- A transaction that the driver has been given, with its answer. -/
structure SpiExchange where
  transaction : SpiTransaction
  error : EspErr
  received : List UInt8

/-- All transactions of a call up to here, and the memory at its destination. -/
structure SpiLine where
  exchanges : List SpiExchange
  destination : List UInt8

/-- The bytes that go out. -/
def SpiTransaction.sent (t : SpiTransaction) : Option (List UInt8) :=
  match t.txBuffer with
  | none => some []
  | some pointer => load pointer.block pointer.offset t.bytes

/-- The bytes that come in are stored where the transaction says, if it says so. -/
def spiReceive (destination : List UInt8) (rxBuffer : Option Nat) (received : List UInt8) :
    Option (List UInt8) :=
  match rxBuffer with
  | none => some destination
  | some offset => store destination offset received

/-- `answers i` is for the transaction that comes after `i` others. -/
def spiDevicePollingTransmit (answers : Nat → SpiAnswer) (line : SpiLine) (t : SpiTransaction) :
    Option (EspErr × SpiLine) := do
  let answer := answers line.exchanges.length
  let received := (List.range t.bytes).map answer.received
  let _ ← t.sent
  let destination ← spiReceive line.destination t.rxBuffer received
  return (answer.error, ⟨line.exchanges ++ [⟨t, answer.error, received⟩], destination⟩)

/-! ### The transfer -/

/-- The errors of the transfers. -/
def spiErrorGeneric : Int := -1
def spiErrorInvalidArgument : Int := -5

/-- The transaction for the `chunk` bytes after `transferred` ones. -/
def spiTransaction (source : Option BytePointer) (destination : Option Nat)
    (transferred chunk : Nat) : SpiTransaction where
  length := UInt32.ofNat chunk * 8
  txBuffer := source.map fun p => { p with offset := p.offset + transferred }
  rxBuffer := destination.map fun offset => offset + transferred

/-- One transaction, of at most 4092 bytes. -/
def spiTransferPass (answers : Nat → SpiAnswer) (source : Option BytePointer)
    (destination : Option Nat) (byteLength : Int) (p : Int × SpiLine) :
    Option (Pass (Int × SpiLine) (Int × SpiLine)) :=
  let (transferred, line) := p
  if transferred < byteLength then do
    let chunk ← int32 (byteLength - transferred)
    let chunk := if 4092 < chunk then 4092 else chunk
    let (error, line) ← spiDevicePollingTransmit answers line
      (spiTransaction source destination transferred.toNat chunk.toNat)
    if error ≠ espOk then return .done (spiErrorGeneric, line)
    let transferred ← int32 (transferred + chunk)
    return .next (transferred, line)
  else some (.done (byteLength, line))

/-- Transactions until all bytes are through; `none` where a computation of the source would
overflow. -/
def bmxEsp32SpiTransfer (s : SpiState) (answers : Nat → SpiAnswer) (source : Option BytePointer)
    (destination : Option Nat) (byteLength : Int) (line : SpiLine) : Option (Int × SpiLine) :=
  if s.device = none ∨ byteLength < 0 ∨
      (byteLength ≠ 0 ∧ source = none ∧ destination = none) then
    some (spiErrorInvalidArgument, line)
  else
    loop (spiTransferPass answers source destination byteLength) (byteLength.toNat + 1) (0, line)

/-! ### The six calls

A buffer is the memory at the pointer, if that is not null. -/

/-- The call has been given no buffer, though it has something to transfer. -/
def spiMissing (buffer : Option (List UInt8)) (length : Int32) : Bool :=
  decide (length ≠ 0) && buffer.isNone

/-- A pointer to the first byte. -/
def spiPointer (buffer : Option (List UInt8)) : Option BytePointer := buffer.map fun b => ⟨b, 0⟩

/-- The place of the first byte. -/
def spiOffset (buffer : Option (List UInt8)) : Option Nat := buffer.map fun _ => 0

/-- Before the first transaction. -/
def spiLine (destination : Option (List UInt8)) : SpiLine := ⟨[], destination.getD []⟩

/-- `INT32_MAX / 2`. -/
def spiMaxWords : Int32 := 0x3FFFFFFF

section Calls

variable (s : SpiState) (answers : Nat → SpiAnswer)

/-- Frames of 8 bits, in both directions. -/
def bmxEmbeddedSpiWriteReadBlocking (source destination : Option (List UInt8)) (length : Int32) :
    Option (Int × SpiLine) :=
  if s.dataBits ≠ 8 ∨ length < 0 ∨ spiMissing source length ∨ spiMissing destination length then
    some (spiErrorInvalidArgument, spiLine destination)
  else
    bmxEsp32SpiTransfer s answers (spiPointer source) (spiOffset destination) length.toInt
      (spiLine destination)

/-- Frames of 8 bits that are sent. -/
def bmxEmbeddedSpiWriteBlocking (source : Option (List UInt8)) (length : Int32) :
    Option (Int × SpiLine) :=
  if s.dataBits ≠ 8 ∨ length < 0 ∨ spiMissing source length then
    some (spiErrorInvalidArgument, spiLine none)
  else bmxEsp32SpiTransfer s answers (spiPointer source) none length.toInt (spiLine none)

/-- `uint8_t repeated[64]` and `uint16_t repeated[32]`, with `unit` in each place. -/
def spiRepeated (unit : List UInt8) (count : Nat) : List UInt8 := (List.replicate count unit).flatten

/-- A pass of the loop of a read: at most `capacity` units, of `unit.length` bytes each; `failed`
is what a failure of the transfer returns. -/
def spiRepeatPass (unit : List UInt8) (capacity : Nat) (failed : Int → Int) (length : Int)
    (p : Int × SpiLine) : Option (Pass (Int × SpiLine) (Int × SpiLine)) :=
  let (transferred, line) := p
  if transferred < length then do
    let chunk ← int32 (length - transferred)
    let chunk := if (capacity : Int) < chunk then (capacity : Int) else chunk
    let byteLength ← int32 (chunk * unit.length)
    let (result, line) ← bmxEsp32SpiTransfer s answers (some ⟨spiRepeated unit capacity, 0⟩)
      (some (transferred.toNat * unit.length)) byteLength line
    if result < 0 then return .done (failed result, line)
    let transferred ← int32 (transferred + chunk)
    return .next (transferred, line)
  else some (.done (length, line))

/-- Frames of 8 bits that are received, while one byte is sent again and again. -/
def bmxEmbeddedSpiReadBlocking (repeatedData : UInt32) (destination : Option (List UInt8))
    (length : Int32) : Option (Int × SpiLine) :=
  if s.dataBits ≠ 8 ∨ 0xff < repeatedData ∨ length < 0 ∨ spiMissing destination length then
    some (spiErrorInvalidArgument, spiLine destination)
  else
    loop (spiRepeatPass s answers [repeatedData.toUInt8] 64 (fun _ => spiErrorGeneric) length.toInt)
      (length.toInt.toNat + 1) (0, spiLine destination)

/-- What a 16-bit call returns for the result of the transfer. -/
def spiWordResult (length : Int) (p : Int × SpiLine) : Int × SpiLine :=
  (if p.1 < 0 then p.1 else length, p.2)

/-- Frames of 16 bits, in both directions. -/
def bmxEmbeddedSpiWrite16Read16Blocking (source destination : Option (List UInt8))
    (length : Int32) : Option (Int × SpiLine) :=
  if s.dataBits ≠ 16 ∨ length < 0 ∨ spiMissing source length ∨ spiMissing destination length ∨
      spiMaxWords < length then some (spiErrorInvalidArgument, spiLine destination)
  else do
    let byteLength ← int32 (length.toInt * 2)
    let result ← bmxEsp32SpiTransfer s answers (spiPointer source) (spiOffset destination)
      byteLength (spiLine destination)
    return spiWordResult length.toInt result

/-- Frames of 16 bits that are sent. -/
def bmxEmbeddedSpiWrite16Blocking (source : Option (List UInt8)) (length : Int32) :
    Option (Int × SpiLine) :=
  if s.dataBits ≠ 16 ∨ length < 0 ∨ spiMissing source length ∨ spiMaxWords < length then
    some (spiErrorInvalidArgument, spiLine none)
  else do
    let byteLength ← int32 (length.toInt * 2)
    let result ← bmxEsp32SpiTransfer s answers (spiPointer source) none byteLength (spiLine none)
    return spiWordResult length.toInt result

/-- A `uint16_t` in memory. -/
def wordBytes (word : UInt16) : List UInt8 := [word.toUInt8, (word >>> 8).toUInt8]

/-- Frames of 16 bits that are received, while one word is sent again and again. -/
def bmxEmbeddedSpiRead16Blocking (repeatedData : UInt32) (destination : Option (List UInt8))
    (length : Int32) : Option (Int × SpiLine) :=
  if s.dataBits ≠ 16 ∨ 0xffff < repeatedData ∨ length < 0 ∨ spiMissing destination length then
    some (spiErrorInvalidArgument, spiLine destination)
  else
    loop (spiRepeatPass s answers (wordBytes repeatedData.toUInt16) 32 id length.toInt)
      (length.toInt.toNat + 1) (0, spiLine destination)

end Calls

/-! ### What a call asks for -/

/-- The blocking transfers, with their arguments. -/
inductive SpiBlocking
  | writeRead (source destination : Option (List UInt8)) (length : Int32)
  | write (source : Option (List UInt8)) (length : Int32)
  | read (repeatedData : UInt32) (destination : Option (List UInt8)) (length : Int32)
  | write16Read16 (source destination : Option (List UInt8)) (length : Int32)
  | write16 (source : Option (List UInt8)) (length : Int32)
  | read16 (repeatedData : UInt32) (destination : Option (List UInt8)) (length : Int32)

namespace SpiBlocking

/-- The result of a transfer, and the line it leaves. -/
def perform (s : SpiState) (answers : Nat → SpiAnswer) : SpiBlocking → Option (Int × SpiLine)
  | writeRead source destination length =>
    bmxEmbeddedSpiWriteReadBlocking s answers source destination length
  | write source length => bmxEmbeddedSpiWriteBlocking s answers source length
  | read repeatedData destination length =>
    bmxEmbeddedSpiReadBlocking s answers repeatedData destination length
  | write16Read16 source destination length =>
    bmxEmbeddedSpiWrite16Read16Blocking s answers source destination length
  | write16 source length => bmxEmbeddedSpiWrite16Blocking s answers source length
  | read16 repeatedData destination length =>
    bmxEmbeddedSpiRead16Blocking s answers repeatedData destination length

def length : SpiBlocking → Int32
  | writeRead _ _ length | write _ length | read _ _ length | write16Read16 _ _ length
  | write16 _ length | read16 _ _ length => length

/-- The bytes of one element. -/
def size : SpiBlocking → Nat
  | writeRead _ _ _ | write _ _ | read _ _ _ => 1
  | write16Read16 _ _ _ | write16 _ _ | read16 _ _ _ => 2

/-- The bytes of all frames. -/
def byteLength (call : SpiBlocking) : Nat := call.size * call.length.toInt.toNat

/-- What is sent, where the caller says so. -/
def source : SpiBlocking → Option (List UInt8)
  | writeRead source _ _ | write source _ | write16Read16 source _ _ | write16 source _ => source
  | read _ _ _ | read16 _ _ _ => none

/-- Where what is received goes, if it goes anywhere. -/
def destination : SpiBlocking → Option (List UInt8)
  | writeRead _ destination _ | read _ destination _ | write16Read16 _ destination _
  | read16 _ destination _ => destination
  | write _ _ | write16 _ _ => none

/-- What is to go out: the source, or the repeated value. -/
def stream : SpiBlocking → List UInt8
  | writeRead source _ _ | write source _ | write16Read16 source _ _ | write16 source _ =>
    source.getD []
  | read repeatedData _ length => spiRepeated [repeatedData.toUInt8] length.toInt.toNat
  | read16 repeatedData _ length =>
    spiRepeated (wordBytes repeatedData.toUInt16) length.toInt.toNat

/-- The call is made in the format it is for, with arguments that it takes. -/
def Accepted (s : SpiState) : SpiBlocking → Prop
  | writeRead source destination length =>
    s.dataBits = 8 ∧ 0 ≤ length ∧ (length ≠ 0 → source ≠ none ∧ destination ≠ none)
  | write source length => s.dataBits = 8 ∧ 0 ≤ length ∧ (length ≠ 0 → source ≠ none)
  | read repeatedData destination length =>
    s.dataBits = 8 ∧ repeatedData ≤ 0xff ∧ 0 ≤ length ∧ (length ≠ 0 → destination ≠ none)
  | write16Read16 source destination length =>
    s.dataBits = 16 ∧ 0 ≤ length ∧ (length ≠ 0 → source ≠ none ∧ destination ≠ none) ∧
      length ≤ spiMaxWords
  | write16 source length =>
    s.dataBits = 16 ∧ 0 ≤ length ∧ (length ≠ 0 → source ≠ none) ∧ length ≤ spiMaxWords
  | read16 repeatedData destination length =>
    s.dataBits = 16 ∧ repeatedData ≤ 0xffff ∧ 0 ≤ length ∧ (length ≠ 0 → destination ≠ none)

/-- The buffers of the caller have the length they are said to have. -/
structure BuffersFit (call : SpiBlocking) : Prop where
  source : ∀ block, call.source = some block → call.byteLength ≤ block.length
  destination : ∀ block, call.destination = some block → call.byteLength ≤ block.length

end SpiBlocking

/-- All transactions but the last have succeeded, and that has not. -/
def SpiStopped (exchanges : List SpiExchange) : Prop :=
  ∃ before last, exchanges = before ++ [last] ∧ last.error ≠ espOk ∧
    ∀ e ∈ before, e.error = espOk

/-! ### One transaction -/

section Transfer

variable {answers : Nat → SpiAnswer} {source : Option BytePointer} {destination : Option Nat}
  {memory : List UInt8} {exchanges new : List SpiExchange} {n m : Nat}

theorem bytes_spiTransaction (source : Option BytePointer) (destination : Option Nat)
    (transferred : Nat) {chunk : Nat} (h : chunk ≤ 4092) :
    (spiTransaction source destination transferred chunk).bytes = chunk := by
  have hbits : (UInt32.ofNat chunk * 8).toNat = chunk * 8 := by
    rw [UInt32.toNat_mul, UInt32.toNat_ofNat_of_lt' (show chunk < UInt32.size by
      have : UInt32.size = 4294967296 := rfl
      omega)]
    show chunk * 8 % 2 ^ 32 = chunk * 8
    omega
  show (UInt32.ofNat chunk * 8).toNat / 8 = chunk
  rw [hbits]
  omega

/-- Both buffers have `m` bytes behind the pointers. -/
structure InBounds (source : Option BytePointer) (destination : Option Nat) (memory : List UInt8)
    (m : Nat) : Prop where
  source : ∀ p, source = some p → p.offset + m ≤ p.block.length
  destination : ∀ offset, destination = some offset → offset + m ≤ memory.length

/-- The memory behind a pointer. -/
def spiBehind : Option BytePointer → List UInt8
  | none => []
  | some p => p.block.drop p.offset

/-- The destination when `xs` has come in. -/
def spiStored (memory : List UInt8) (destination : Option Nat) (xs : List UInt8) : List UInt8 :=
  match destination with
  | none => memory
  | some offset => overwrite memory offset xs

theorem length_spiStored (h : InBounds source destination memory m)
    {xs : List UInt8} (hxs : xs.length ≤ m) :
    (spiStored memory destination xs).length = memory.length := by
  cases hdestination : destination with
  | none => rfl
  | some offset =>
    have := h.destination offset hdestination
    exact length_overwrite (by omega)

theorem sent_spiTransaction (h : InBounds source destination memory m)
    {chunk : Nat} (hfit : n + chunk ≤ m) (hchunk : chunk ≤ 4092) :
    (spiTransaction source destination n chunk).sent =
      some (((spiBehind source).drop n).take chunk) := by
  have hbytes := bytes_spiTransaction source destination n hchunk
  cases source with
  | none => rw [spiBehind, List.drop_nil, List.take_nil]; rfl
  | some p =>
    have hp := h.source p rfl
    have hload : load p.block (p.offset + n) chunk =
        some ((p.block.drop (p.offset + n)).take chunk) := load_eq (by omega)
    rw [spiBehind, List.drop_drop]
    show load p.block (p.offset + n) _ = _
    rw [hbytes, hload]

theorem spiReceive_eq (h : InBounds source destination memory m)
    {xs received : List UInt8} (hfit : xs.length + received.length ≤ m) :
    spiReceive (spiStored memory destination xs)
        (destination.map fun offset => offset + xs.length) received =
      some (spiStored memory destination (xs ++ received)) := by
  have hlength : (spiStored memory destination xs).length = memory.length :=
    length_spiStored h (by omega)
  cases destination with
  | none => rfl
  | some offset =>
    have hoffset := h.destination offset rfl
    show store (overwrite memory offset xs) (offset + xs.length) received = _
    rw [store_eq, overwrite_overwrite (by omega)]
    · rfl
    · have hlength : (overwrite memory offset xs).length = _ := hlength
      omega

variable (answers exchanges) in
/-- **A transaction inside the buffers is defined.** -/
theorem pollingTransmit_eq (h : InBounds source destination memory m)
    (xs : List UInt8) {chunk : Nat} (hfit : xs.length + chunk ≤ m) (hchunk : chunk ≤ 4092) :
    let t := spiTransaction source destination xs.length chunk
    let answer := answers exchanges.length
    let received := (List.range chunk).map answer.received
    spiDevicePollingTransmit answers ⟨exchanges, spiStored memory destination xs⟩ t =
      some (answer.error, ⟨exchanges ++ [⟨t, answer.error, received⟩],
        spiStored memory destination (xs ++ received)⟩) := by
  intro t answer received
  have hbytes : t.bytes = chunk := bytes_spiTransaction _ _ _ hchunk
  have hsent : t.sent = some _ := sent_spiTransaction h hfit hchunk
  have hreceive : spiReceive (spiStored memory destination xs) t.rxBuffer received =
      some (spiStored memory destination (xs ++ received)) := by
    apply spiReceive_eq h
    rw [List.length_map, List.length_range]
    exact hfit
  unfold spiDevicePollingTransmit
  dsimp only
  rw [hsent, hbytes, hreceive]
  rfl

/-! ### One call of the transfer -/

/-- `new` are transactions after `exchanges`; together they go through `n` bytes. -/
structure Exchanged (answers : Nat → SpiAnswer) (source : Option BytePointer)
    (destination : Option Nat) (exchanges new : List SpiExchange) (n : Nat) : Prop where
  pieces : ∃ pieces, Tiles 0 pieces n ∧ (∀ p ∈ pieces, p.length ≤ 4092) ∧
    new.map SpiExchange.transaction =
      pieces.map fun p => spiTransaction source destination p.offset p.length
  sent : (new.flatMap fun e => e.transaction.sent.getD []) = (spiBehind source).take n
  received : (new.flatMap SpiExchange.received).length = n
  answered : new.map SpiExchange.error =
    (List.range new.length).map fun i => (answers (exchanges.length + i)).error

/-- The line after the transactions `new`. -/
def spiAfter (exchanges : List SpiExchange) (memory : List UInt8) (destination : Option Nat)
    (new : List SpiExchange) : SpiLine :=
  ⟨exchanges ++ new, spiStored memory destination (new.flatMap SpiExchange.received)⟩

theorem exchanged_nil : Exchanged answers source destination exchanges [] 0 :=
  ⟨⟨[], .nil 0, nofun, rfl⟩, by rw [List.take_zero]; rfl, rfl, rfl⟩

theorem spiAfter_nil : spiAfter exchanges memory destination [] = ⟨exchanges, memory⟩ := by
  unfold spiAfter
  rw [List.append_nil, List.flatMap_nil]
  cases destination with
  | none => rfl
  | some offset => rw [spiStored, overwrite_nil]

/-- The transactions send what their pieces cut out of the source. -/
theorem sent_of_tiles {new : List SpiExchange} {pieces : List Piece}
    (hbounds : InBounds source destination memory m) (htiles : Tiles 0 pieces n) (hn : n ≤ m)
    (hsmall : ∀ p ∈ pieces, p.length ≤ 4092)
    (hmap : new.map SpiExchange.transaction =
      pieces.map fun p => spiTransaction source destination p.offset p.length) :
    (new.flatMap fun e => e.transaction.sent.getD []) = (spiBehind source).take n := by
  have hsent : ∀ p ∈ pieces,
      (spiTransaction source destination p.offset p.length).sent.getD [] =
        p.slice (spiBehind source) := by
    intro p hp
    have hinside := (htiles.inside hp).2.2
    rw [sent_spiTransaction hbounds (by omega) (hsmall p hp)]
    rfl
  calc (new.flatMap fun e => e.transaction.sent.getD [])
      = (new.map SpiExchange.transaction).flatMap fun t => t.sent.getD [] := by
        rw [List.flatMap_map]
    _ = pieces.flatMap (Piece.slice (spiBehind source)) := by
        rw [hmap, List.flatMap_map]
        exact List.flatMap_congr hsent
    _ = (spiBehind source).take n := by
        rw [htiles.flatMap_slice, List.drop_zero, Nat.sub_zero]

/-- **One more transaction.** -/
theorem Exchanged.transmit (h : Exchanged answers source destination exchanges new n)
    (hbounds : InBounds source destination memory m) {chunk : Nat} (hpos : 0 < chunk)
    (hfit : n + chunk ≤ m) (hchunk : chunk ≤ 4092) :
    ∃ e, Exchanged answers source destination exchanges (new ++ [e]) (n + chunk) ∧
      spiDevicePollingTransmit answers (spiAfter exchanges memory destination new)
        (spiTransaction source destination n chunk) =
      some (e.error, spiAfter exchanges memory destination (new ++ [e])) := by
  obtain ⟨pieces, htiles, hsmall, hmap⟩ := h.pieces
  -- `e` is the exchange of the next `chunk` bytes
  let answer := answers (exchanges ++ new).length
  let e : SpiExchange := ⟨spiTransaction source destination n chunk, answer.error,
    (List.range chunk).map answer.received⟩
  have hreceived : (new ++ [e]).flatMap SpiExchange.received =
      new.flatMap SpiExchange.received ++ e.received := by
    rw [List.flatMap_append, List.flatMap_singleton]
  have hsmall' : ∀ p ∈ pieces ++ [Piece.mk n chunk], p.length ≤ 4092 := by
    intro p hp
    rcases List.mem_append.mp hp with hp | hp
    · exact hsmall p hp
    · obtain rfl := List.mem_singleton.mp hp
      exact hchunk
  have hmap' : (new ++ [e]).map SpiExchange.transaction =
      (pieces ++ [Piece.mk n chunk]).map fun p =>
        spiTransaction source destination p.offset p.length := by
    rw [List.map_append, List.map_append, hmap]
    rfl
  have htiles' := htiles.concat hpos
  have hsent := sent_of_tiles hbounds htiles' hfit hsmall' hmap'
  refine ⟨e, ⟨⟨_, htiles', hsmall', hmap'⟩, hsent, ?_, ?_⟩, ?_⟩
  · rw [hreceived, List.length_append, h.received, List.length_map, List.length_range]
  · rw [List.map_append, h.answered, List.length_append, List.length_singleton, List.range_succ,
      List.map_append]
    show _ ++ [(answers (exchanges ++ new).length).error] = _
    rw [List.length_append]
    rfl
  · have htransmit := pollingTransmit_eq answers (exchanges ++ new) hbounds
      (new.flatMap SpiExchange.received) (by rwa [h.received]) hchunk
    rw [h.received] at htransmit
    unfold spiAfter
    rw [htransmit, hreceived, List.append_assoc]

/-- How a transfer of `m` bytes ends. -/
inductive SpiOutcome (result : Int) (new : List SpiExchange) (n m : Nat) : Prop
  | complete (hresult : result = m) (hok : ∀ e ∈ new, e.error = espOk) (hall : n = m)
  | stopped (hresult : result = spiErrorGeneric) (hstopped : SpiStopped new)

/-- The next chunk is what is left, and at most `capacity`. -/
theorem exists_chunk (capacity : Nat) (h : n < m) (hcapacity : 0 < capacity) :
    ∃ chunk : Nat, 0 < chunk ∧ chunk ≤ capacity ∧ n + chunk ≤ m ∧
      (∀ d, d ∣ capacity → d ∣ m → d ∣ n → d ∣ n + chunk) ∧
      (if (capacity : Int) < (m : Int) - n then (capacity : Int) else (m : Int) - n) = chunk := by
  rcases Nat.lt_or_ge capacity (m - n) with hlt | hge
  · refine ⟨capacity, hcapacity, Nat.le_refl _, by omega, ?_, if_pos (by omega)⟩
    exact fun d hd _ hn => Nat.dvd_add hn hd
  · refine ⟨m - n, by omega, hge, by omega, fun d _ hm _ => ?_, ?_⟩
    · rwa [Nat.add_sub_cancel' h.le]
    · rw [if_neg (by omega)]
      omega

theorem transferPass_spec (hbounds : InBounds source destination memory m) (hm : m < 2 ^ 31)
    (h : Exchanged answers source destination exchanges new n) (hn : n < m) :
    ∃ e chunk, 0 < chunk ∧ n + chunk ≤ m ∧
      (∀ d, d ∣ 4092 → d ∣ m → d ∣ n → d ∣ n + chunk) ∧
      Exchanged answers source destination exchanges (new ++ [e]) (n + chunk) ∧
      spiTransferPass answers source destination m
        ((n : Int), spiAfter exchanges memory destination new) =
      some (if e.error ≠ espOk then
          .done (spiErrorGeneric, spiAfter exchanges memory destination (new ++ [e]))
        else .next (((n + chunk : Nat) : Int),
          spiAfter exchanges memory destination (new ++ [e]))) := by
  obtain ⟨chunk, hpos, hsmall, hfit, hwhole, hchunk⟩ := exists_chunk 4092 hn (by decide)
  have hrest : int32 ((m : Int) - n) = some ((m : Int) - n) := int32_eq (by omega) (by omega)
  have hsum : int32 ((n : Int) + chunk) = some ((n : Int) + chunk) :=
    int32_eq (by omega) (by omega)
  obtain ⟨e, hexchanged, htransmit⟩ := h.transmit hbounds hpos hfit hsmall
  refine ⟨e, chunk, hpos, hfit, hwhole, hexchanged, ?_⟩
  unfold spiTransferPass
  dsimp only
  rw [if_pos (Int.ofNat_lt.mpr hn), hrest]
  simp only [Option.bind_eq_bind, Option.bind_some]
  rw [show (4092 : Int) = ((4092 : Nat) : Int) from rfl, hchunk]
  simp only [Int.toNat_natCast, htransmit, Option.bind_some]
  split_ifs
  · rfl
  · rw [hsum]
    rfl

/-- The transfer goes on, and has succeeded so far. -/
inductive SpiGoing (answers : Nat → SpiAnswer) (source : Option BytePointer)
    (destination : Option Nat) (exchanges : List SpiExchange) (memory : List UInt8) (m : Nat) :
    Int × SpiLine → Prop
  | intro {new : List SpiExchange} {n : Nat}
      (h : Exchanged answers source destination exchanges new n) (hn : n ≤ m)
      (hwhole : ∀ d, d ∣ 4092 → d ∣ m → d ∣ n)
      (hok : ∀ e ∈ new, e.error = espOk) : SpiGoing answers source destination exchanges memory m
        ((n : Int), spiAfter exchanges memory destination new)

/-- The transfer has come to its end. -/
inductive SpiEnded (answers : Nat → SpiAnswer) (source : Option BytePointer)
    (destination : Option Nat) (exchanges : List SpiExchange) (memory : List UInt8) (m : Nat) :
    Int × SpiLine → Prop
  | intro {result : Int} {new : List SpiExchange} {n : Nat}
      (h : Exchanged answers source destination exchanges new n) (hn : n ≤ m)
      (hwhole : ∀ d, d ∣ 4092 → d ∣ m → d ∣ n) (houtcome : SpiOutcome result new n m) :
      SpiEnded answers source destination exchanges memory m
        (result, spiAfter exchanges memory destination new)

theorem SpiGoing.pass (hbounds : InBounds source destination memory m) (hm : m < 2 ^ 31)
    {p : Int × SpiLine} (h : SpiGoing answers source destination exchanges memory m p) :
    (∃ p', spiTransferPass answers source destination m p = some (.next p') ∧
      SpiGoing answers source destination exchanges memory m p' ∧
      ((m : Int) - p'.1).toNat < ((m : Int) - p.1).toNat) ∨
    ∃ r, spiTransferPass answers source destination m p = some (.done r) ∧
      SpiEnded answers source destination exchanges memory m r := by
  obtain @⟨new, n, h, hn, hwhole, hok⟩ := h
  rcases Nat.lt_or_ge n m with hlt | hge
  · obtain ⟨e, chunk, hpos, hfit, hwhole', h', hpass⟩ := transferPass_spec hbounds hm h hlt
    have hwhole : ∀ d, d ∣ 4092 → d ∣ m → d ∣ n + chunk :=
      fun d hd hm => hwhole' d hd hm (hwhole d hd hm)
    by_cases herror : e.error = espOk
    · left
      refine ⟨_, by rw [hpass, if_neg (not_not.mpr herror)], .intro h' hfit hwhole ?_, ?_⟩
      · intro e' he'
        rcases List.mem_append.mp he' with he' | he'
        · exact hok e' he'
        · obtain rfl := List.mem_singleton.mp he'
          exact herror
      · show ((m : Int) - (n + chunk : Nat)).toNat < ((m : Int) - n).toNat
        omega
    · right
      exact ⟨_, by rw [hpass, if_pos herror],
        .intro h' hfit hwhole (.stopped rfl ⟨new, e, rfl, herror, hok⟩)⟩
  · right
    obtain rfl : n = m := by omega
    exact ⟨_, if_neg (Int.lt_irrefl _), .intro h hn hwhole (.complete rfl hok rfl)⟩

variable (answers exchanges) in
/-- **A transfer inside the buffers is defined**, and goes through all of them or up to a
transaction that fails. -/
theorem transfer_spec {s : SpiState} (hdevice : s.device ≠ none)
    (hbounds : InBounds source destination memory m) (hm : m < 2 ^ 31)
    (hbuffer : m ≠ 0 → source ≠ none ∨ destination ≠ none) :
    ∃ r, bmxEsp32SpiTransfer s answers source destination m ⟨exchanges, memory⟩ = some r ∧
      SpiEnded answers source destination exchanges memory m r := by
  have hguard : ¬ (s.device = none ∨ (m : Int) < 0 ∨
      ((m : Int) ≠ 0 ∧ source = none ∧ destination = none)) := by
    rintro (hnone | hneg | ⟨hm0, hsource, hdestination⟩)
    · exact hdevice hnone
    · omega
    · exact (hbuffer (by omega)).elim (fun h => h hsource) fun h => h hdestination
  have hstart : SpiGoing answers source destination exchanges memory m (0, ⟨exchanges, memory⟩) := by
    have hgoing : SpiGoing answers source destination exchanges memory m
        (((0 : Nat) : Int), spiAfter exchanges memory destination []) :=
      .intro exchanged_nil (Nat.zero_le m) (fun d _ _ => Nat.dvd_zero d) nofun
    rwa [spiAfter_nil] at hgoing
  rw [bmxEsp32SpiTransfer, if_neg hguard]
  apply loop_spec (fun p => ((m : Int) - p.1).toNat) (fun p h => h.pass hbounds hm) hstart
  show ((m : Int) - 0).toNat < (m : Int).toNat + 1
  omega

end Transfer

end Esp32Mod
