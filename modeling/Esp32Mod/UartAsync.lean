/-
Esp32Mod/UartAsync.lean

The buffered UART (`runtime.mod/native/esp32_uart.c`): two rings between the
application and a worker task, for one controller.

The bottom layer: the `async_*` fields of `BMXESP32UARTState` and the critical sections
that access them, under `bmx_esp32_uart_async_lock`.  A function of the source that
leaves the lock and takes it again is one definition for each section here; sections that
access the buffers take the rings as an argument.  A section of the worker that is
followed by a post to the deferred events returns that post.

`Esp32Mod.UartSession` interleaves the sections, `Esp32Mod.UartIdle` says when the
transmitter is idle.
-/
import Esp32Mod.Mailbox

namespace Esp32Mod

open RingBuffer

/-! ### State -/

/-- The error flags. -/
def bmxEsp32UartErrorFraming : UInt32 := 1
def bmxEsp32UartErrorParity : UInt32 := 2
def bmxEsp32UartErrorBreak : UInt32 := 4
def bmxEsp32UartErrorOverrun : UInt32 := 8

/-- The event types of the driver's queue that the worker tells apart. -/
inductive UartEventType
  | data | frameErr | parityErr | lineBreak | fifoOvf | bufferFull | other
  deriving DecidableEq

/-- The flag of an event of the driver. -/
def bmxEsp32UartEventError : UartEventType → UInt32
  | .frameErr => bmxEsp32UartErrorFraming
  | .parityErr => bmxEsp32UartErrorParity
  | .lineBreak => bmxEsp32UartErrorBreak
  | .fifoOvf | .bufferFull => bmxEsp32UartErrorOverrun
  | .data | .other => 0

/-- The two buffers with their capacities and counters. -/
structure AsyncRings where
  rxCapacity : Capacity
  txCapacity : Capacity
  rx : Ring UInt8 rxCapacity
  tx : Ring UInt8 txCapacity

/-- `rings` is `none` while the buffer pointers are null.  A task handle is the number
of the session whose worker it is. -/
structure BMXESP32UARTState where
  initialized : Bool
  errors : UInt32
  rings : Option AsyncRings
  rxDropped : UInt32
  rxToken : UInt32
  txToken : UInt32
  errorToken : UInt32
  task : Option Nat
  asyncOpen : Bool
  txActive : Bool

/-- A call of `bmx_embedded_event_post`; its detail is the controller. -/
structure UartPost where
  token : UInt32
  eventData : UInt32

/-! ### The worker's sections -/

/-- The section of `bmx_esp32_uart_async_receive`: store what fits, count the rest, and
post an event when the ring was empty before. -/
def asyncReceiveStore (input : List UInt8) (r : AsyncRings) (s : BMXESP32UARTState) :
    Option UartPost × BMXESP32UARTState :=
  let wasEmpty := r.rx.put = r.rx.get
  let m := (⟨r.rx, s.rxDropped⟩ : Mailbox UInt8 r.rxCapacity).postAll input
  let available := m.ring.put - m.ring.get
  (if wasEmpty ∧ available ≠ 0 then some ⟨s.rxToken, available⟩ else none,
    { s with rings := some { r with rx := m.ring }, rxDropped := m.dropped })

/-- What the first section of `bmx_esp32_uart_async_transmit` takes from the ring. -/
structure TransmitChunk where
  output : List UInt8
  becameEmpty : Bool
  token : UInt32

/-- The size of the worker's two stack buffers. -/
def asyncChunkSize : Nat := 64

/-- A chunk of the ring goes to the worker, who sees whether the ring is empty then. -/
def asyncTransmitDrain (r : AsyncRings) (s : BMXESP32UARTState) :
    TransmitChunk × BMXESP32UARTState :=
  let d := Ring.drain asyncChunkSize r.tx
  ({ output := d.1, becameEmpty := d.1 ≠ [] ∧ d.2.get = d.2.put, token := s.txToken },
    { s with rings := some { r with tx := d.2 } })

/-- The section after a failed `uart_write_bytes`. -/
def asyncTransmitFailed (s : BMXESP32UARTState) : UartPost × BMXESP32UARTState :=
  (⟨s.errorToken, bmxEsp32UartErrorOverrun⟩,
    { s with errors := s.errors ||| bmxEsp32UartErrorOverrun })

/-- The section after `uart_wait_tx_done` has returned `ESP_OK`. -/
def asyncTransmitDone (s : BMXESP32UARTState) : UartPost × BMXESP32UARTState :=
  (⟨s.txToken, 0⟩, { s with txActive := false })

/-- The flags are added, and a post tells of them. -/
def asyncWorkerError (errors : UInt32) (s : BMXESP32UARTState) : UartPost × BMXESP32UARTState :=
  (⟨s.errorToken, errors⟩, { s with errors := s.errors ||| errors })

/-- The worker's last section. -/
def asyncWorkerExit (s : BMXESP32UARTState) : BMXESP32UARTState := { s with task := none }

/-! ### The application's sections -/

/-- The checks of `bmx_embedded_uart_async_open`. -/
def AsyncOpenAccepts (s : BMXESP32UARTState)
    (rxCapacity txCapacity rxToken txToken errorToken : UInt32) : Prop :=
  s.initialized ∧ ¬ s.asyncOpen ∧
    (2 ≤ rxCapacity ∧ rxCapacity &&& (rxCapacity - 1) = 0) ∧
    (2 ≤ txCapacity ∧ txCapacity &&& (txCapacity - 1) = 0) ∧
    rxToken ≠ 0 ∧ txToken ≠ 0 ∧ errorToken ≠ 0

instance (s : BMXESP32UARTState) (rxCapacity txCapacity rxToken txToken errorToken : UInt32) :
    Decidable (AsyncOpenAccepts s rxCapacity txCapacity rxToken txToken errorToken) :=
  inferInstanceAs (Decidable (_ ∧ _))

/-- The new rings are published; the counter of dropped bytes starts afresh. -/
def asyncOpenPublish (rxCapacity txCapacity : Capacity) (rxToken txToken errorToken : UInt32)
    (s : BMXESP32UARTState) : BMXESP32UARTState :=
  { s with
    -- new buffers; nothing of an earlier session is in them
    rings := some ⟨rxCapacity, txCapacity, Ring.empty rxCapacity, Ring.empty txCapacity⟩
    rxDropped := 0
    rxToken := rxToken
    txToken := txToken
    errorToken := errorToken
    txActive := false
    asyncOpen := true }

/-- The section after a failed `xTaskCreate`. -/
def asyncOpenUndo (s : BMXESP32UARTState) : BMXESP32UARTState :=
  { s with asyncOpen := false, rings := none }

/-- The worker is told to end. -/
def asyncCloseBegin (s : BMXESP32UARTState) : BMXESP32UARTState := { s with asyncOpen := false }

/-- The rings go, after the worker. -/
def asyncCloseEnd (s : BMXESP32UARTState) : BMXESP32UARTState :=
  { s with rings := none, rxToken := 0, txToken := 0, errorToken := 0 }

/-- The bytes read, or `none` for `BMX_ESP32_UART_INVALID_ARGUMENT`; `destination` says
whether the pointer is not null. -/
def bmxEmbeddedUartAsyncRead (destination : Bool) (capacity : Int32) (s : BMXESP32UARTState) :
    Option (List UInt8) × BMXESP32UARTState :=
  if capacity < 0 ∨ (capacity ≠ 0 ∧ !destination) then (none, s)
  else if !s.asyncOpen then (none, s)
  else
    match s.rings with
    | none => (none, s)
    | some r =>
      let d := Ring.drain capacity.toInt.toNat r.rx
      (some d.1, { s with rings := some { r with rx := d.2 } })

/-- The number of bytes accepted, or `none` for `BMX_ESP32_UART_INVALID_ARGUMENT`;
`source` is the memory at the pointer, if that is not null. -/
def bmxEmbeddedUartAsyncWrite (source : Option (List UInt8)) (length : Int32)
    (s : BMXESP32UARTState) : Option Nat × BMXESP32UARTState :=
  if length < 0 ∨ (length ≠ 0 ∧ source = none) then (none, s)
  else if !s.asyncOpen then (none, s)
  else
    match s.rings with
    | none => (none, s)
    | some r =>
      let f := Ring.fill ((source.getD []).take length.toInt.toNat) r.tx
      (some f.1, { s with
        rings := some { r with tx := f.2 }
        txActive := if f.1 ≠ 0 then true else s.txActive })

/-- A read is refused, or takes the oldest bytes of the receive ring. -/
theorem asyncRead_cases (destination : Bool) (capacity : Int32) (s : BMXESP32UARTState) :
    bmxEmbeddedUartAsyncRead destination capacity s = (none, s) ∨
      ∃ r n, s.asyncOpen = true ∧ s.rings = some r ∧
        bmxEmbeddedUartAsyncRead destination capacity s = (some (Ring.drain n r.rx).1,
          { s with rings := some { r with rx := (Ring.drain n r.rx).2 } }) := by
  unfold bmxEmbeddedUartAsyncRead
  by_cases hargs : capacity < 0 ∨ (capacity ≠ 0 ∧ !destination)
  · exact .inl (if_pos hargs)
  rw [if_neg hargs]
  rcases hopen : s.asyncOpen with - | -
  · exact .inl rfl
  · rcases hr : s.rings with - | r
    · exact .inl rfl
    · exact .inr ⟨r, capacity.toInt.toNat, rfl, rfl, rfl⟩

/-- A write is refused, or its bytes go to the transmit ring until one does not fit. -/
theorem asyncWrite_cases (source : Option (List UInt8)) (length : Int32) (s : BMXESP32UARTState) :
    bmxEmbeddedUartAsyncWrite source length s = (none, s) ∨
      ∃ r, s.asyncOpen = true ∧ s.rings = some r ∧
        let f := Ring.fill ((source.getD []).take length.toInt.toNat) r.tx
        bmxEmbeddedUartAsyncWrite source length s = (some f.1,
          { s with
            rings := some { r with tx := f.2 }
            txActive := if f.1 ≠ 0 then true else s.txActive }) := by
  unfold bmxEmbeddedUartAsyncWrite
  by_cases hargs : length < 0 ∨ (length ≠ 0 ∧ source = none)
  · exact .inl (if_pos hargs)
  rw [if_neg hargs]
  rcases hopen : s.asyncOpen with - | -
  · exact .inl rfl
  · rcases hr : s.rings with - | r
    · exact .inl rfl
    · exact .inr ⟨r, rfl, rfl, rfl⟩

/-! ### Queries -/

/-- A closed controller has nothing to read, and so has one without buffers. -/
def bmxEmbeddedUartAsyncReadAvailable (s : BMXESP32UARTState) : UInt32 :=
  match s.asyncOpen, s.rings with
  | true, some r => r.rx.put - r.rx.get
  | _, _ => 0

/-- The room in the transmit ring, from two counters that may have wrapped. -/
def bmxEmbeddedUartAsyncWriteAvailable (s : BMXESP32UARTState) : UInt32 :=
  match s.asyncOpen, s.rings with
  | true, some r => r.txCapacity.size - (r.tx.put - r.tx.get)
  | _, _ => 0

/-- A session can read what its receive ring holds, and write what its transmit ring has
room for. -/
theorem available_of_open {s : BMXESP32UARTState} {r : AsyncRings} (hopen : s.asyncOpen = true)
    (hr : s.rings = some r) :
    (bmxEmbeddedUartAsyncReadAvailable s).toNat = r.rx.contents.length ∧
      (bmxEmbeddedUartAsyncWriteAvailable s).toNat + r.tx.contents.length =
        r.txCapacity.size.toNat := by
  unfold bmxEmbeddedUartAsyncReadAvailable bmxEmbeddedUartAsyncWriteAvailable
  rw [hopen, hr]
  refine ⟨r.rx.length_contents.symm, ?_⟩
  have hle := UInt32.le_iff_toNat_le.mp r.tx.bounded
  rw [r.tx.length_contents, Ring.count, UInt32.toNat_sub_of_le _ _ r.tx.bounded]
  omega

/-- The bytes that found no room. -/
def bmxEmbeddedUartAsyncRxDropped (s : BMXESP32UARTState) : UInt32 := s.rxDropped

/-- All that was written has been sent. -/
def bmxEmbeddedUartAsyncTxIdle (s : BMXESP32UARTState) : Bool :=
  !s.asyncOpen ||
    match s.rings with
    | none => true
    -- the counters speak of the ring, the flag of the bytes that have left it
    | some r => decide (r.tx.put = r.tx.get) && !s.txActive

end Esp32Mod
