/-
Esp32Mod/UartBreak.lean

The persistent break of a UART (`runtime.mod/native/esp32_uart.c`): `set_break` drives the TX pin
low as a GPIO and keeps writes away until the pin is a UART's again.

The buffered sessions of `Esp32Mod.UartSession` go on beside it; their worker runs between any two
driver calls of `set_break`.  Each call that writes looks at `break_asserted`, but the worker hands
its chunks to `uart_write_bytes` without, so what matters is that it has none.

`route` says what drives a pin.  Only `uart_set_pin` and `gpio_reset_pin` change it, and a driver
call that fails changes nothing.

Main results:

* `uart_break_exclusion` — if a break is asserted only when the worker has nothing to send, and
  nothing is accepted from then on, no byte is handed to the driver before the release;
* `uart_break_leaks` — otherwise the worker's next steps may do it.
-/
import Esp32Mod.UartSession
import Esp32Mod.Errors

namespace Esp32Mod

open RingBuffer StepMachine Machine

/-! ### State -/

/-- What drives a pin. -/
inductive PinRoute
  | unset
  | uart
  | gpio
  deriving DecidableEq

/-- The pins of the target that can be outputs, and all of its pins. -/
structure PinTarget where
  validOutput : UInt32 → Bool
  valid : UInt32 → Bool

/-- The driver call that a `set_break` under way makes next. -/
inductive SetBreakCall
  | idle
  | resetPin
  | setLevel
  | setDirection
  /-- Give the pin back to the UART after a failure. -/
  | restore
  deriving DecidableEq

/-- The other fields of `BMXESP32UARTState`, the pins, and all bytes that have been handed to
`uart_write_bytes` and `uart_write_bytes_with_break`. -/
structure BreakSystem where
  async : UartSystem
  txPin : UInt32
  pinsConfigured : Bool
  translateCrlf : Bool
  breakAsserted : Bool
  setBreak : SetBreakCall
  route : UInt32 → PinRoute
  handed : List UInt8

/-- `BMX_ESP32_UART_INVALID_ARGUMENT`. -/
def uartInvalidArgument : Int32 := -5

/-- What the driver answers to an `init`. -/
structure UartInitResults where
  installed : Bool := false
  paramConfig : EspErr := espOk
  driverInstall : EspErr := espOk
  /-- What `uart_get_baudrate` answers, 0 for a failure. -/
  baudrate : UInt32 := 0

/-- What the driver answers to a `deinit`. -/
structure UartDeinitResults where
  setPin : EspErr := espOk
  driverDelete : EspErr := espOk

namespace BreakSystem

/-- The driver is installed. -/
def initialized (s : BreakSystem) : Bool := s.async.state.initialized

/-- The flag changes and the error flags start afresh. -/
def setInitialized (s : BreakSystem) (initialized : Bool) : BreakSystem :=
  { s with async.state.initialized := initialized, async.state.errors := 0 }

/-- Connect the transmit pin. -/
def routeTx (s : BreakSystem) (route : PinRoute) : BreakSystem :=
  { s with route := Function.update s.route s.txPin route }

/-- A driver call with these bytes, of which the driver takes some. -/
def hand (s : BreakSystem) (source : List UInt8) (taken : Nat) : BreakSystem :=
  { s with
    async.driver := s.async.driver ++ (source.take taken).map fun x => (s.async.session, x)
    handed := s.handed ++ source }

/-! ### Pins and driver -/

/-- Not while a break is asserted. -/
def bmxEsp32UartConfigurePins (t : PinTarget) (s : BreakSystem) (txPin rxPin : UInt32)
    (setPin : EspErr) : Int32 × BreakSystem :=
  if s.breakAsserted = true ∨ 2 ^ 31 ≤ txPin.toNat ∨ 2 ^ 31 ≤ rxPin.toNat ∨
      t.validOutput txPin = false ∨ t.valid rxPin = false then (0, s)
  else if setPin ≠ espOk then (0, s)
  else (1, { s with txPin, pinsConfigured := true }.routeTx .uart)

/-- Refused where a driver is there; otherwise it answers with the rate read back. -/
def bmxEsp32UartInit (s : BreakSystem) (baudrate : UInt32) (r : UartInitResults) :
    UInt32 × BreakSystem :=
  if baudrate = 0 ∨ s.initialized = true ∨ r.installed = true then (0, s)
  else if r.paramConfig ≠ espOk then (0, s)
  else if r.driverInstall ≠ espOk then (0, s)
  else (r.baudrate, { s.setInitialized true with translateCrlf := false, breakAsserted := false })

/-- `set_break` with its first driver call, whose answer is `result`; it returns `none` when there
are more to come. -/
def bmxEsp32UartSetBreak (s : BreakSystem) (enabled : Bool) (result : EspErr) :
    Option Int32 × BreakSystem :=
  if s.initialized = false ∨ s.pinsConfigured = false then (some 0, s)
  else if enabled = true then
    if s.breakAsserted = true then (some 1, s)
    else if result ≠ espOk then (some 0, s)
    else (none, { s with setBreak := .resetPin })
  else if s.breakAsserted = false then (some 1, s)
  else if result ≠ espOk then (some 0, s)
  else (some 1, { s.routeTx .uart with breakAsserted := false })

/-- The later driver calls, up to its return. -/
def proceedSetBreak (s : BreakSystem) (result : EspErr) : Option (Option Int32 × BreakSystem) :=
  match s.setBreak with
  | .idle => none
  | .resetPin =>
    if result ≠ espOk then some (some 0, { s with setBreak := .idle })
    else some (none, { s.routeTx .gpio with setBreak := .setLevel })
  | .setLevel =>
    if result ≠ espOk then some (none, { s with setBreak := .restore })
    else some (none, { s with setBreak := .setDirection })
  | .setDirection =>
    if result ≠ espOk then some (none, { s with setBreak := .restore })
    else some (some 1, { s with breakAsserted := true, setBreak := .idle })
  | .restore =>
    if result ≠ espOk then some (some 0, { s with setBreak := .idle })
    else some (some 0, { s.routeTx .uart with setBreak := .idle })

/-- The first check of `deinit`: a break is released. -/
def releaseBreak (s : BreakSystem) (setPin : EspErr) : Option Int32 × BreakSystem :=
  if s.breakAsserted = true then s.bmxEsp32UartSetBreak false setPin else (some 1, s)

/-- A break is released first; if that fails, so does the call. -/
def bmxEsp32UartDeinit (s : BreakSystem) (r : UartDeinitResults) : Int32 × BreakSystem :=
  if s.initialized = false ∨ s.async.state.asyncOpen = true then (0, s)
  else
    let (released, s) := s.releaseBreak r.setPin
    if released = some 0 then (0, s)
    else if r.driverDelete ≠ espOk then (0, s)
    else (1, { s.setInitialized false with translateCrlf := false, breakAsserted := false })

/-- Only stored. -/
def bmxEsp32UartSetTranslateCrlf (s : BreakSystem) (enabled : Bool) : Int32 × BreakSystem :=
  if s.initialized = false then (0, s) else (1, { s with translateCrlf := enabled })

/-! ### Writes

Nothing that they read changes while they go on, so each is one step. -/

/-- `written` is the driver's answer. -/
def bmxEsp32UartWriteRaw (s : BreakSystem) (source : List UInt8) (written : Nat) :
    Int32 × BreakSystem :=
  if source = [] then (0, s)
  else if s.breakAsserted = true then (-1, s)
  else (if written = source.length then Int32.ofNat source.length else -1, s.hand source written)

/-- Raw writes one after the other, until one fails; `written` holds the answers for them. -/
def writeChunks (s : BreakSystem) : List (List UInt8) → List Nat → Bool × BreakSystem
  | [], _ => (true, s)
  | source :: rest, written =>
    let (result, s) := s.bmxEsp32UartWriteRaw source (written.headD 0)
    if result < 0 then (false, s) else writeChunks s rest written.tail

/-- What a newline cuts the bytes into, and a carriage return with it; `pending` lies between the
last newline and here. -/
def crlfChunks (pending : List UInt8) : List UInt8 → List (List UInt8)
  | [] => [pending].filter (· ≠ [])
  | byte :: rest =>
    if byte ≠ 10 then crlfChunks (pending ++ [byte]) rest
    else [pending].filter (· ≠ []) ++ [13, 10] :: crlfChunks [] rest

/-- The checks that the reads and writes share. -/
def bmxEsp32UartBufferValid (s : BreakSystem) (buffer : Option (List UInt8)) (length : Int32) :
    Prop :=
  s.initialized = true ∧ 0 ≤ length ∧ (length = 0 ∨ buffer ≠ none)

instance (s : BreakSystem) (buffer : Option (List UInt8)) (length : Int32) :
    Decidable (s.bmxEsp32UartBufferValid buffer length) :=
  inferInstanceAs (Decidable (_ ∧ _))

/-- `source` is the memory at the pointer, if that is not null. -/
def bmxEsp32UartWriteBlocking (s : BreakSystem) (source : Option (List UInt8)) (length : Int32)
    (written : List Nat) : Int32 × BreakSystem :=
  if ¬ s.bmxEsp32UartBufferValid source length then (uartInvalidArgument, s)
  else if length = 0 then (0, s)
  else
    let bytes := (source.getD []).take length.toInt.toNat
    if s.translateCrlf = false then s.bmxEsp32UartWriteRaw bytes (written.headD 0)
    else
      let (complete, s) := s.writeChunks (crlfChunks [] bytes) written
      (if complete = true then length else -1, s)

/-- A write of one byte. -/
def bmxEsp32UartPutByte (s : BreakSystem) (value : UInt32) (written : List Nat) :
    Int32 × BreakSystem :=
  if 0xff < value then (0, s)
  else
    let (result, s) := s.bmxEsp32UartWriteBlocking (some [value.toUInt8]) 1 written
    (if result = 1 then 1 else 0, s)

/-- The driver sends the bytes and a break of its own after them. -/
def bmxEsp32UartWriteWithBreak (s : BreakSystem) (source : Option (List UInt8)) (length : Int32)
    (breakBits : UInt32) (written : Nat) : Int32 × BreakSystem :=
  if ¬ s.bmxEsp32UartBufferValid source length ∨ length = 0 ∨ breakBits = 0 ∨ 255 < breakBits ∨
      s.breakAsserted = true then (uartInvalidArgument, s)
  else
    let bytes := (source.getD []).take length.toInt.toNat
    (if Int32.ofNat written = length then length else -1, s.hand bytes written)

end BreakSystem

/-! ### The machine -/

/-- The steps of the application, the worker and the hardware. -/
inductive BreakAction
  /-- A step of the buffered UART: a call of the application, the worker, or the hardware. -/
  | async (a : UartAction)
  | configurePins (txPin rxPin : UInt32) (setPin : EspErr)
  | init (baudrate : UInt32) (r : UartInitResults)
  | deinit (r : UartDeinitResults)
  | setBreak (enabled : Bool) (result : EspErr)
  | proceed (result : EspErr)
  | setTranslateCrlf (enabled : Bool)
  | writeBlocking (source : Option (List UInt8)) (length : Int32) (written : List Nat)
  | putByte (value : UInt32) (written : List Nat)
  | writeWithBreak (source : Option (List UInt8)) (length : Int32) (breakBits : UInt32)
      (written : Nat)

namespace BreakSystem

/-- The bytes that the worker hands to `uart_write_bytes` in this step. -/
def handing (s : BreakSystem) : UartAction → List UInt8
  | .worker k _ => (s.async.worker k).inflight
  | _ => []

/-- A step of the buffered session, and what it hands to the driver. -/
def asyncStep (s : BreakSystem) (a : UartAction) : Option BreakSystem :=
  (s.async.step a).map fun async => { s with async, handed := s.handed ++ s.handing a }

/-- A call, which the application starts when it is in no other. -/
def call (s : BreakSystem) (t : PinTarget) : BreakAction → BreakSystem
  | .configurePins txPin rxPin setPin => (s.bmxEsp32UartConfigurePins t txPin rxPin setPin).2
  | .init baudrate r => (s.bmxEsp32UartInit baudrate r).2
  | .deinit r => (s.bmxEsp32UartDeinit r).2
  | .setBreak enabled result => (s.bmxEsp32UartSetBreak enabled result).2
  | .setTranslateCrlf enabled => (s.bmxEsp32UartSetTranslateCrlf enabled).2
  | .writeBlocking source length written => (s.bmxEsp32UartWriteBlocking source length written).2
  | .putByte value written => (s.bmxEsp32UartPutByte value written).2
  | .writeWithBreak source length breakBits written =>
    (s.bmxEsp32UartWriteWithBreak source length breakBits written).2
  | .async _ | .proceed _ => s

/-- A call waits for a `set_break` or a session call that is under way; the worker and the hardware
do not. -/
def step (t : PinTarget) (s : BreakSystem) : BreakAction → Option BreakSystem
  | .async (.worker k answer) => s.asyncStep (.worker k answer)
  | .async .transmit => s.asyncStep .transmit
  | .async a => if s.setBreak = .idle then s.asyncStep a else none
  | .proceed result => (s.proceedSetBreak result).map Prod.snd
  | a => if s.setBreak = .idle ∧ s.async.app = .idle then some (s.call t a) else none

end BreakSystem

/-- Nothing is initialised, no pin is configured. -/
def breakBoot : BreakSystem where
  async := { uartBoot with state.initialized := false }
  txPin := 0
  pinsConfigured := false
  translateCrlf := false
  breakAsserted := false
  setBreak := .idle
  route := fun _ => .unset
  handed := []

/-- The calls of the application, the worker and the hardware, in any order. -/
def breakMachine (t : PinTarget) : Machine BreakSystem BreakAction where
  init s := s = breakBoot
  step := BreakSystem.step t

/-! ### What the worker has to send -/

/-- Neither the transmit ring nor a worker holds bytes. -/
structure UartSystem.Quiet (s : UartSystem) : Prop where
  ring : ∀ r, s.state.rings = some r → r.tx.contents = []
  inflight : ∀ k, (s.worker k).inflight = []

section Quiet

variable {s s' : UartSystem}

theorem inflight_update {worker : Nat → UartWorker} (h : ∀ k, (worker k).inflight = [])
    {w : UartWorker} (hw : w.inflight = []) (k k' : Nat) :
    (Function.update worker k w k').inflight = [] := by
  by_cases hk : k' = k
  · rw [hk, Function.update_self, hw]
  · rw [Function.update_of_ne hk, h]

/-- A worker that has nothing to send finds nothing to send. -/
theorem quiet_workerStep (h : s.Quiet) {k : Nat} {answer : UartAnswer}
    (hs : s.workerStep k answer = some s') : s'.Quiet := by
  cases workerStep_cases hs with
  | move _ _ _ _ hinflight =>
    exact ⟨h.ring, inflight_update h.inflight (hinflight.trans (h.inflight k)) k⟩
  | @store input r hw hr =>
    refine ⟨fun r' hr' => ?_, inflight_update h.inflight (by split <;> rfl) k⟩
    obtain rfl := Option.some.inj hr'
    exact h.ring r hr
  | @drain r hw hr =>
    have hempty : (asyncTransmitDrain r s.state).1.output = [] := by
      show (Ring.drain asyncChunkSize r.tx).1 = []
      rw [Ring.drain_fst, h.ring r hr, List.take_nil]
    refine ⟨fun r' hr' => ?_, inflight_update h.inflight (by rw [if_pos hempty]; rfl) k⟩
    obtain rfl := Option.some.inj hr'
    show (Ring.drain asyncChunkSize r.tx).2.contents = []
    rw [Ring.contents_drain, h.ring r hr, List.drop_nil]
  | write => exact ⟨h.ring, inflight_update h.inflight (by split <;> rfl) k⟩
  | poll => exact ⟨h.ring, inflight_update h.inflight (by split <;> rfl) k⟩
  | clear => exact ⟨h.ring, inflight_update h.inflight rfl k⟩
  | exit => exact ⟨h.ring, inflight_update h.inflight rfl k⟩

theorem quiet_proceed (h : s.Quiet) {created : Bool} (hs : s.proceed created = some s') :
    s'.Quiet := by
  cases uartProceed_cases hs with
  | created => exact ⟨h.ring, inflight_update h.inflight rfl s.session⟩
  | notCreated | waits | ended => exact ⟨h.ring, h.inflight⟩
  | undone | freed => exact ⟨nofun, h.inflight⟩

/-- A write is to bring no bytes, or to find no session. -/
theorem quiet_call (h : s.Quiet) {a : UartAction}
    (hwrite : ∀ source length, a = .write source length → s.state.asyncOpen = true →
      (source.getD []).take length.toInt.toNat = []) (hs : s.call a = some s') : s'.Quiet := by
  cases uartCall_cases hs with
  | refused => exact h
  | opened =>
    refine ⟨fun r hr => ?_, h.inflight⟩
    obtain rfl := Option.some.inj hr
    exact Ring.contents_empty
  | closed => exact ⟨h.ring, h.inflight⟩
  | @read destination capacity r n hr =>
    refine ⟨fun r' hr' => ?_, h.inflight⟩
    obtain rfl := Option.some.inj hr'
    exact h.ring r hr
  | @write source length r xs hopen hr hxs =>
    refine ⟨fun r' hr' => ?_, h.inflight⟩
    obtain rfl := Option.some.inj hr'
    rw [hxs, hwrite source length rfl hopen]
    exact h.ring r hr

theorem quiet_step (h : s.Quiet) {a : UartAction}
    (hwrite : ∀ source length, a = .write source length → s.state.asyncOpen = true →
      (source.getD []).take length.toInt.toNat = []) (hs : s.step a = some s') : s'.Quiet := by
  cases a with
  | worker k answer => exact quiet_workerStep h hs
  | proceed created => exact quiet_proceed h hs
  | transmit =>
    simp only [UartSystem.step] at hs
    split at hs
    next => exact absurd hs nofun
    next =>
      obtain rfl := Option.some.inj hs
      exact ⟨h.ring, h.inflight⟩
  | openAsync | closeAsync | read | write =>
    simp only [UartSystem.step] at hs
    split_ifs at hs
    exact quiet_call h hwrite hs

/-- The worker and the hardware leave the calls of the application alone. -/
theorem workerStep_keeps {k : Nat} {answer : UartAnswer} (hs : s.workerStep k answer = some s') :
    s'.state.initialized = s.state.initialized ∧ s'.app = s.app ∧
      s'.session = s.session ∧ s'.state.asyncOpen = s.state.asyncOpen := by
  cases workerStep_cases hs <;> exact ⟨rfl, rfl, rfl, rfl⟩

theorem transmit_keeps (hs : s.step .transmit = some s') :
    s'.state.initialized = s.state.initialized ∧ s'.app = s.app := by
  simp only [UartSystem.step] at hs
  split at hs
  next => exact absurd hs nofun
  next =>
    obtain rfl := Option.some.inj hs
    exact ⟨rfl, rfl⟩

theorem step_initialized {a : UartAction} (hs : s.step a = some s') :
    s'.state.initialized = s.state.initialized := by
  cases a with
  | worker k answer => exact (workerStep_keeps hs).1
  | transmit => exact (transmit_keeps hs).1
  | proceed created => cases uartProceed_cases hs <;> rfl
  | openAsync | closeAsync | read | write =>
    simp only [UartSystem.step] at hs
    split_ifs at hs
    cases uartCall_cases hs <;> rfl

/-- A write that brings bytes to an empty ring leaves some there. -/
theorem asyncWrite_accepts {state : BMXESP32UARTState} {r : AsyncRings} {length : Int32}
    {source : Option (List UInt8)} (hopen : state.asyncOpen = true) (hr : state.rings = some r)
    (hempty : r.tx.contents = []) (hbytes : (source.getD []).take length.toInt.toNat ≠ []) :
    ∃ r', (bmxEmbeddedUartAsyncWrite source length state).2.rings = some r' ∧
      r'.tx.contents ≠ [] := by
  have hargs : ¬ (length < 0 ∨ (length ≠ 0 ∧ source = none)) := by
    rintro (hneg | ⟨-, hnone⟩)
    · rw [Int32.lt_iff_toInt_lt] at hneg
      rw [Int.toNat_of_nonpos (Int.le_of_lt hneg), List.take_zero] at hbytes
      exact hbytes rfl
    · rw [hnone, Option.getD_none, List.take_nil] at hbytes
      exact hbytes rfl
  simp only [bmxEmbeddedUartAsyncWrite, if_neg hargs, hopen, Bool.not_true, Bool.false_eq_true,
    if_false, hr]
  refine ⟨_, rfl, ?_⟩
  show (Ring.fill _ r.tx).2.contents ≠ []
  rw [Ring.contents_fill, hempty, List.nil_append, Ring.fill_fst, hempty, ne_eq,
    List.take_eq_nil_iff]
  have hpos := r.txCapacity.size_pos
  have hlength := List.length_pos_iff.mpr hbytes
  rintro (hzero | hnone)
  · rw [List.length_nil] at hzero
    omega
  · exact hbytes hnone

/-- The number of steps to the next `async_transmit`, at most. -/
def UartWorker.distance : UartWorker → Nat
  | .gone | .exit | .drain => 0
  | .event | .readBytes | .error _ => 1
  | .loop | .store _ => 2
  | .clear => 3
  | .poll => 4
  | .sample => 5
  | .writeFailed => 6
  | .write _ => 7

/-- What a step of the worker of an open session comes to. -/
structure UartSystem.Closer (s : UartSystem) (k : Nat) (r : AsyncRings) (s' : UartSystem) : Prop where
  step : s.workerStep k {} = some s'
  distance : (s'.worker k).distance < (s.worker k).distance
  running : s'.worker k ≠ .gone ∧ s'.worker k ≠ .exit
  isOpen : s'.state.asyncOpen = true
  ring : ∃ r', s'.state.rings = some r' ∧ r'.tx.contents = r.tx.contents

/-- It moves on from where it is to `w`. -/
theorem closer_of_move {k : Nat} {r r' : AsyncRings} {w : UartWorker} {next : UartSystem}
    (hstep : s.workerStep k {} = some (next.setWorker k w))
    (hdistance : w.distance < (s.worker k).distance) (hw : w ≠ .gone ∧ w ≠ .exit)
    (hopen : next.state.asyncOpen = true)
    (hr : next.state.rings = some r' ∧ r'.tx.contents = r.tx.contents) :
    s.Closer k r (next.setWorker k w) := by
  have hself : (next.setWorker k w).worker k = w := Function.update_self ..
  exact ⟨hstep, by rwa [hself], by rwa [hself], hopen, r', hr⟩

theorem worker_approaches {k : Nat} {r : AsyncRings} (hopen : s.state.asyncOpen = true)
    (hr : s.state.rings = some r) (hgone : s.worker k ≠ .gone) (hexit : s.worker k ≠ .exit)
    (hdrain : s.worker k ≠ .drain) : ∃ s', s.Closer k r s' := by
  -- when the driver answers nothing, each step brings the worker nearer to its drain
  cases hw : s.worker k
  case gone => exact absurd hw hgone
  case exit => exact absurd hw hexit
  case drain => exact absurd hw hdrain
  case loop =>
    have hstep : s.workerStep k {} = some (s.setWorker k .event) := by
      simp only [UartSystem.workerStep, hw, hopen, if_true]
    exact ⟨_, closer_of_move hstep (by rw [hw]; decide) ⟨nofun, nofun⟩ hopen ⟨hr, rfl⟩⟩
  case event =>
    have hstep : s.workerStep k {} = some (s.setWorker k .drain) := by
      simp only [UartSystem.workerStep, hw, UartWorker.received]
    exact ⟨_, closer_of_move hstep (by rw [hw]; decide) ⟨nofun, nofun⟩ hopen ⟨hr, rfl⟩⟩
  case readBytes =>
    have hstep : s.workerStep k {} = some (s.setWorker k .drain) := by
      simp only [UartSystem.workerStep, hw, if_true]
    exact ⟨_, closer_of_move hstep (by rw [hw]; decide) ⟨nofun, nofun⟩ hopen ⟨hr, rfl⟩⟩
  case store input =>
    have hstep : s.workerStep k {} =
        some (({ s with state := (asyncReceiveStore input r s.state).2 }.setLog
          (UartLog.arriveAll input)).setWorker k
            (if input.length = asyncChunkSize then .readBytes else .drain)) := by
      simp only [UartSystem.workerStep, hw, hr, Option.map_some]
    refine ⟨_, closer_of_move hstep ?_ ?_ hopen ⟨rfl, rfl⟩⟩
    · rw [hw]
      split <;> simp only [UartWorker.distance, Nat.reduceLT]
    · split <;> exact ⟨nofun, nofun⟩
  case error errors =>
    have hstep : s.workerStep k {} =
        some ({ s with state := (asyncWorkerError errors s.state).2 }.setWorker k .drain) := by
      simp only [UartSystem.workerStep, hw]
    exact ⟨_, closer_of_move hstep (by rw [hw]; exact Nat.one_pos) ⟨nofun, nofun⟩ hopen ⟨hr, rfl⟩⟩
  case write output =>
    have hstep : s.workerStep k {} = some (({ s with
        driver := s.driver ++ (output.take 0).map fun x => (s.session, x) }.setLog fun l => { l with
          handed := l.handed ++ output
          failed := l.failed || 0 != output.length }).setWorker k
        (if 0 ≠ output.length then .writeFailed else .sample)) := by
      simp only [UartSystem.workerStep, hw]
    refine ⟨_, closer_of_move hstep ?_ ?_ hopen ⟨hr, rfl⟩⟩
    · rw [hw]
      split <;> simp only [UartWorker.distance, Nat.reduceLT]
    · split <;> exact ⟨nofun, nofun⟩
  case writeFailed =>
    have hstep : s.workerStep k {} =
        some ({ s with state := (asyncTransmitFailed s.state).2 }.setWorker k .sample) := by
      simp only [UartSystem.workerStep, hw]
    exact ⟨_, closer_of_move hstep (by rw [hw]; decide) ⟨nofun, nofun⟩ hopen ⟨hr, rfl⟩⟩
  case sample =>
    have hstep : s.workerStep k {} =
        some (s.setWorker k (if s.state.txActive then .poll else .loop)) := by
      simp only [UartSystem.workerStep, hw]
    refine ⟨_, closer_of_move hstep ?_ ?_ hopen ⟨hr, rfl⟩⟩
    · rw [hw]
      split <;> decide
    · split <;> exact ⟨nofun, nofun⟩
  case poll =>
    have hstep : s.workerStep k {} =
        some (s.setWorker k (if s.driver = [] then .clear else .loop)) := by
      simp only [UartSystem.workerStep, hw]
    refine ⟨_, closer_of_move hstep ?_ ?_ hopen ⟨hr, rfl⟩⟩
    · rw [hw]
      split <;> decide
    · split <;> exact ⟨nofun, nofun⟩
  case clear =>
    have hstep : s.workerStep k {} =
        some ({ s with state := (asyncTransmitDone s.state).2 }.setWorker k .loop) := by
      simp only [UartSystem.workerStep, hw]
    exact ⟨_, closer_of_move hstep (by rw [hw]; decide) ⟨nofun, nofun⟩ hopen ⟨hr, rfl⟩⟩

/-- Bytes in the transmit ring of an open session come to be in the hands of its worker. -/
theorem worker_takes {k : Nat} {r : AsyncRings} (hopen : s.state.asyncOpen = true)
    (hr : s.state.rings = some r) (hrunning : s.worker k ≠ .gone ∧ s.worker k ≠ .exit)
    (hbytes : r.tx.contents ≠ []) :
    ∃ n s', uartMachine.run s (List.replicate n (.worker k {})) = some s' ∧
      (s'.worker k).inflight ≠ [] := by
  -- by the distance from the next `async_transmit`
  induction hd : (s.worker k).distance using Nat.strong_induction_on generalizing s r with
  | _ d ih =>
    subst hd
    by_cases hdrain : s.worker k = .drain
    · have houtput : (asyncTransmitDrain r s.state).1.output ≠ [] := by
        show (Ring.drain asyncChunkSize r.tx).1 ≠ []
        rw [Ring.drain_fst, ne_eq, List.take_eq_nil_iff]
        exact fun hnone => hnone.elim nofun hbytes
      have hstep : s.workerStep k {} =
          some ({ s with state := (asyncTransmitDrain r s.state).2 }.setWorker k
            (.write (asyncTransmitDrain r s.state).1.output)) := by
        simp only [UartSystem.workerStep, hdrain, hr, Option.map_some, if_neg houtput]
      refine ⟨1, _, run_cons hstep, ?_⟩
      show (Function.update s.worker k _ k).inflight ≠ []
      rw [Function.update_self]
      exact houtput
    · obtain ⟨s₁, hstep, hdistance, hrunning₁, hopen₁, r₁, hr₁, hcontents⟩ :=
        worker_approaches hopen hr hrunning.1 hrunning.2 hdrain
      obtain ⟨n, s', hrun, hinflight⟩ := ih _ hdistance hopen₁ hr₁ hrunning₁
        (by rwa [hcontents]) rfl
      exact ⟨n + 1, s', (run_cons hstep).trans hrun, hinflight⟩

end Quiet

/-! ### The break -/

namespace BreakSystem

/-- A break is asserted with bytes on their way, or bytes are accepted while one is. -/
def Leaks (s : BreakSystem) : BreakAction → Prop
  | .async (.write source length) => s.breakAsserted = true ∧ s.async.state.asyncOpen = true ∧
      (source.getD []).take length.toInt.toNat ≠ []
  | .proceed result => s.setBreak = .setDirection ∧ result = espOk ∧ ¬ s.async.Quiet
  | _ => False

/-- The pin goes back to the UART when a break cannot be asserted. -/
def Restores (s : BreakSystem) : BreakAction → Prop
  | .proceed result => s.setBreak = .restore → result = espOk
  | _ => True

/-- What a break that is asserted, released or under way means for the pin and the session. -/
structure Inv (s : BreakSystem) : Prop where
  async : s.async.Inv
  asserted : s.breakAsserted = true → s.initialized = true ∧ s.pinsConfigured = true ∧
    s.route s.txPin = .gpio ∧ s.async.Quiet
  /-- From `gpio_reset_pin` on, a `set_break` has taken the pin. -/
  released : s.breakAsserted = false → s.pinsConfigured = true →
    s.setBreak = .idle ∨ s.setBreak = .resetPin → s.route s.txPin = .uart
  taken : s.setBreak = .setLevel ∨ s.setBreak = .setDirection → s.route s.txPin = .gpio
  busy : s.setBreak ≠ .idle → s.initialized = true ∧ s.pinsConfigured = true ∧
    s.breakAsserted = false ∧ s.async.app = .idle

section Steps

variable {t : PinTarget} {s s' : BreakSystem}

@[simp] theorem routeTx_self (s : BreakSystem) (route : PinRoute) :
    (s.routeTx route).route s.txPin = route :=
  Function.update_self ..

theorem breakBoot_inv : breakBoot.Inv where
  async := uartInv_of_start (.boot _ rfl rfl rfl rfl)
  asserted := nofun
  released := fun _ hpins => nomatch hpins
  taken := fun hcalls => hcalls.elim nofun nofun
  busy := fun hbusy => absurd rfl hbusy

/-- Where no `set_break` is under way. -/
theorem Inv.of_idle (hidle : s.setBreak = .idle) (hasync : s.async.Inv)
    (hasserted : s.breakAsserted = true → s.initialized = true ∧ s.pinsConfigured = true ∧
      s.route s.txPin = .gpio ∧ s.async.Quiet)
    (hreleased : s.breakAsserted = false → s.pinsConfigured = true → s.route s.txPin = .uart) :
    s.Inv :=
  ⟨hasync, hasserted, fun hbreak hpins _ => hreleased hbreak hpins,
    fun hcalls => by rw [hidle] at hcalls; exact hcalls.elim nofun nofun,
    fun hbusy => absurd hidle hbusy⟩

theorem configurePins_inv (h : s.Inv) (hidle : s.setBreak = .idle) (txPin rxPin : UInt32)
    (setPin : EspErr) : (s.bmxEsp32UartConfigurePins t txPin rxPin setPin).2.Inv := by
  unfold bmxEsp32UartConfigurePins
  split_ifs with hrefused hfailed
  · exact h
  · exact h
  · refine .of_idle hidle h.async (fun hbreak => ?_) fun _ _ => routeTx_self _ .uart
    exact absurd (.inl hbreak) hrefused

theorem init_inv (h : s.Inv) (hidle : s.setBreak = .idle) (baudrate : UInt32)
    (r : UartInitResults) : (s.bmxEsp32UartInit baudrate r).2.Inv := by
  unfold bmxEsp32UartInit
  split_ifs with hrefused
  · exact h
  · exact h
  · exact h
  · -- an uninitialised controller has no break
    have hbreak : s.breakAsserted = false := by
      by_contra hbreak
      exact hrefused (.inr (.inl (h.asserted ((Bool.not_eq_false _).mp hbreak)).1))
    exact .of_idle hidle h.async nofun fun _ hpins => h.released hbreak hpins (.inl hidle)

theorem setBreak_inv (h : s.Inv) (hidle : s.setBreak = .idle) (happ : s.async.app = .idle)
    (enabled : Bool) (result : EspErr) : (s.bmxEsp32UartSetBreak enabled result).2.Inv := by
  unfold bmxEsp32UartSetBreak
  split_ifs with hrefused _ hasserted hfailed hreleased hfailed
  · exact h
  · exact h
  · exact h
  · have hbreak := Bool.eq_false_iff.mpr hasserted
    obtain ⟨hinit, hpins⟩ := not_or.mp hrefused
    exact ⟨h.async, h.asserted, fun _ hpins _ => h.released hbreak hpins (.inl hidle),
      fun hcalls => hcalls.elim nofun nofun, fun _ =>
      ⟨(Bool.not_eq_false _).mp hinit, (Bool.not_eq_false _).mp hpins, hbreak, happ⟩⟩
  · exact h
  · exact h
  · exact .of_idle hidle h.async nofun fun _ _ => routeTx_self s .uart

/-- With nothing to send at the end, and the pin given back after a failure. -/
theorem proceedSetBreak_inv (h : s.Inv) {result : EspErr} {returned : Option Int32}
    (hleaks : ¬ s.Leaks (.proceed result)) (hrestores : s.Restores (.proceed result))
    (hs : s.proceedSetBreak result = some (returned, s')) : s'.Inv := by
  unfold proceedSetBreak at hs
  split at hs
  next => exact absurd hs nofun
  next hcall =>
    obtain ⟨hinit, hpins, hbreak, happ⟩ := h.busy (by rw [hcall]; nofun)
    split_ifs at hs <;> obtain ⟨-, rfl⟩ := Prod.mk.inj (Option.some.inj hs)
    · exact .of_idle rfl h.async h.asserted fun _ _ => h.released hbreak hpins (.inr hcall)
    · exact ⟨h.async, fun hasserted => absurd hasserted (Bool.eq_false_iff.mp hbreak),
        fun _ _ hcalls => hcalls.elim nofun nofun, fun _ => routeTx_self s .gpio,
        fun _ => ⟨hinit, hpins, hbreak, happ⟩⟩
  next hcall =>
    obtain ⟨hinit, hpins, hbreak, happ⟩ := h.busy (by rw [hcall]; nofun)
    split_ifs at hs <;> obtain ⟨-, rfl⟩ := Prod.mk.inj (Option.some.inj hs) <;>
      exact ⟨h.async, h.asserted, fun _ _ hcalls => hcalls.elim nofun nofun,
        fun _ => h.taken (.inl hcall), fun _ => ⟨hinit, hpins, hbreak, happ⟩⟩
  next hcall =>
    obtain ⟨hinit, hpins, hbreak, happ⟩ := h.busy (by rw [hcall]; nofun)
    split_ifs at hs with hresult <;> obtain ⟨-, rfl⟩ := Prod.mk.inj (Option.some.inj hs)
    · exact ⟨h.async, h.asserted, fun _ _ hcalls => hcalls.elim nofun nofun,
        fun _ => h.taken (.inr hcall), fun _ => ⟨hinit, hpins, hbreak, happ⟩⟩
    · -- the break is asserted only now, and by the condition with nothing to send
      have hquiet : s.async.Quiet := by
        by_contra hquiet
        exact hleaks ⟨hcall, not_not.mp hresult, hquiet⟩
      exact .of_idle rfl h.async (fun _ => ⟨hinit, hpins, h.taken (.inr hcall), hquiet⟩) nofun
  next hcall =>
    obtain ⟨-, -, hbreak, -⟩ := h.busy (by rw [hcall]; nofun)
    split_ifs at hs with hresult <;> obtain ⟨-, rfl⟩ := Prod.mk.inj (Option.some.inj hs)
    · exact absurd (hrestores hcall) hresult
    · exact .of_idle rfl h.async (fun hasserted => absurd hasserted (Bool.eq_false_iff.mp hbreak))
        fun _ _ => routeTx_self s .uart

/-- Then there is no break, or the release has failed. -/
theorem releaseBreak_inv (h : s.Inv) (hidle : s.setBreak = .idle) (happ : s.async.app = .idle)
    (setPin : EspErr) : (s.releaseBreak setPin).2.Inv ∧
      (s.releaseBreak setPin).2.setBreak = .idle ∧
      ((s.releaseBreak setPin).1 ≠ some 0 → (s.releaseBreak setPin).2.breakAsserted = false) := by
  unfold releaseBreak
  split_ifs with hbreak
  · refine ⟨setBreak_inv h hidle happ false setPin, ?_⟩
    simp only [bmxEsp32UartSetBreak, Bool.false_eq_true, if_false]
    split_ifs with hrefused hreleased hfailed
    · exact ⟨hidle, fun hreturned => absurd rfl hreturned⟩
    · exact ⟨hidle, fun _ => hreleased⟩
    · exact ⟨hidle, fun hreturned => absurd rfl hreturned⟩
    · exact ⟨hidle, fun _ => rfl⟩
  · exact ⟨h, hidle, fun _ => Bool.eq_false_iff.mpr hbreak⟩

theorem deinit_inv (h : s.Inv) (hidle : s.setBreak = .idle) (happ : s.async.app = .idle)
    (r : UartDeinitResults) : (s.bmxEsp32UartDeinit r).2.Inv := by
  obtain ⟨hinv, hidle', hbreak⟩ := releaseBreak_inv h hidle happ r.setPin
  unfold bmxEsp32UartDeinit
  split
  next => exact h
  next =>
    dsimp only
    split_ifs with hfailed
    · exact hinv
    · exact hinv
    · exact .of_idle hidle' hinv.async nofun fun _ hpins =>
        hinv.released (hbreak hfailed) hpins (.inl hidle')

/-! ### Writes look at the break -/

/-- Bytes may go to the driver, and none while a break is asserted. -/
inductive Hands (s : BreakSystem) : BreakSystem → Prop
  | hands (driver : List (Nat × UInt8)) (handed : List UInt8)
      (hbreak : s.breakAsserted = true → handed = s.handed) :
      Hands s { s with async.driver := driver, handed }

theorem Hands.rfl (s : BreakSystem) : s.Hands s := .hands _ _ fun _ => Eq.refl _

theorem Hands.trans {s'' : BreakSystem} (h : s.Hands s') (h' : s'.Hands s'') : s.Hands s'' := by
  obtain ⟨driver, handed, hbreak⟩ := h
  obtain ⟨driver', handed', hbreak'⟩ := h'
  exact .hands driver' handed' fun hasserted => (hbreak' hasserted).trans (hbreak hasserted)

theorem Hands.inv (h : s.Inv) (hs : s.Hands s') : s'.Inv := by
  obtain ⟨driver, handed, -⟩ := hs
  exact ⟨h.async, fun hbreak => by
    obtain ⟨hinit, hpins, hroute, hquiet⟩ := h.asserted hbreak
    exact ⟨hinit, hpins, hroute, hquiet.ring, hquiet.inflight⟩, h.released, h.taken, h.busy⟩

theorem writeRaw_hands (s : BreakSystem) (source : List UInt8) (written : Nat) :
    s.Hands (s.bmxEsp32UartWriteRaw source written).2 := by
  unfold bmxEsp32UartWriteRaw
  split
  next => exact .rfl s
  next =>
    split
    next => exact .rfl s
    next hbreak => exact .hands _ _ fun hasserted => absurd hasserted hbreak

theorem writeChunks_hands (s : BreakSystem) (sources : List (List UInt8)) (written : List Nat) :
    s.Hands (s.writeChunks sources written).2 := by
  induction sources generalizing s written with
  | nil => exact .rfl s
  | cons source rest ih =>
    have hfirst := writeRaw_hands s source (written.headD 0)
    simp only [writeChunks]
    split_ifs
    · exact hfirst
    · exact hfirst.trans (ih _ written.tail)

theorem writeBlocking_hands (s : BreakSystem) (source : Option (List UInt8)) (length : Int32)
    (written : List Nat) : s.Hands (s.bmxEsp32UartWriteBlocking source length written).2 := by
  simp only [bmxEsp32UartWriteBlocking]
  split
  next => exact .rfl s
  next =>
    split
    next => exact .rfl s
    next =>
      split
      next => exact writeRaw_hands s _ _
      next => exact writeChunks_hands s _ written

theorem putByte_hands (s : BreakSystem) (value : UInt32) (written : List Nat) :
    s.Hands (s.bmxEsp32UartPutByte value written).2 := by
  unfold bmxEsp32UartPutByte
  split
  next => exact .rfl s
  next => exact writeBlocking_hands s _ _ written

theorem writeWithBreak_hands (s : BreakSystem) (source : Option (List UInt8)) (length : Int32)
    (breakBits : UInt32) (written : Nat) :
    s.Hands (s.bmxEsp32UartWriteWithBreak source length breakBits written).2 := by
  unfold bmxEsp32UartWriteWithBreak
  split
  next => exact .rfl s
  next hrefused =>
    exact .hands _ _ fun hbreak => absurd (.inr (.inr (.inr (.inr hbreak)))) hrefused

/-! ### Every step keeps the invariant -/

theorem call_inv (h : s.Inv) (hidle : s.setBreak = .idle) (happ : s.async.app = .idle)
    (a : BreakAction) : (s.call t a).Inv := by
  cases a with
  | async | proceed => exact h
  | configurePins txPin rxPin setPin => exact configurePins_inv h hidle txPin rxPin setPin
  | init baudrate r => exact init_inv h hidle baudrate r
  | deinit r => exact deinit_inv h hidle happ r
  | setBreak enabled result => exact setBreak_inv h hidle happ enabled result
  | setTranslateCrlf enabled =>
    simp only [call, bmxEsp32UartSetTranslateCrlf]
    split
    next => exact h
    next => exact ⟨h.async, h.asserted, h.released, h.taken, h.busy⟩
  | writeBlocking source length written =>
    exact (writeBlocking_hands s source length written).inv h
  | putByte value written => exact (putByte_hands s value written).inv h
  | writeWithBreak source length breakBits written =>
    exact (writeWithBreak_hands s source length breakBits written).inv h

/-- A step of the buffered UART, which brings no bytes while a break is asserted. -/
theorem asyncStep_inv (h : s.Inv) {a : UartAction} (hleaks : ¬ s.Leaks (.async a))
    (hbusy : s.setBreak ≠ .idle → ∀ async, s.async.step a = some async → async.app = .idle)
    (hs : s.asyncStep a = some s') : s'.Inv := by
  obtain ⟨async, hasync, rfl⟩ := Option.map_eq_some_iff.mp hs
  have hinit := step_initialized hasync
  refine ⟨uartInv_step h.async hasync, fun hbreak => ?_, h.released, h.taken, fun hcall => ?_⟩
  · obtain ⟨hinitialized, hpins, hroute, hquiet⟩ := h.asserted hbreak
    refine ⟨hinit.trans hinitialized, hpins, hroute, quiet_step hquiet ?_ hasync⟩
    rintro source length rfl hopen
    by_contra hbytes
    exact hleaks ⟨hbreak, hopen, hbytes⟩
  · obtain ⟨hinitialized, hpins, hbreak, -⟩ := h.busy hcall
    exact ⟨hinit.trans hinitialized, hpins, hbreak, hbusy hcall async hasync⟩

theorem step_inv (h : s.Inv) {a : BreakAction} (hleaks : ¬ s.Leaks a) (hrestores : s.Restores a)
    (hs : s.step t a = some s') : s'.Inv := by
  cases a with
  | async a =>
    cases a with
    | worker k answer =>
      exact asyncStep_inv h hleaks (fun hcall async hasync =>
        (workerStep_keeps hasync).2.1.trans (h.busy hcall).2.2.2) hs
    | transmit =>
      exact asyncStep_inv h hleaks (fun hcall async hasync =>
        (transmit_keeps hasync).2.trans (h.busy hcall).2.2.2) hs
    | openAsync | closeAsync | read | write | proceed =>
      simp only [step] at hs
      split_ifs at hs with hidle
      exact asyncStep_inv h hleaks (fun hcall => absurd hidle hcall) hs
  | proceed result =>
    obtain ⟨⟨returned, s₁⟩, hproceed, rfl⟩ := Option.map_eq_some_iff.mp hs
    exact proceedSetBreak_inv h hleaks hrestores hproceed
  | _ =>
    simp only [step] at hs
    split_ifs at hs with hidle
    obtain rfl := Option.some.inj hs
    exact call_inv h hidle.1 hidle.2 _

theorem inv_of_reachable
    (h : (breakMachine t).ReachableIn (fun s a => ¬ s.Leaks a ∧ s.Restores a) s) : s.Inv :=
  h.invariant (fun s hs => by rw [hs]; exact breakBoot_inv)
    fun _ _ _ hinv hok hs => step_inv hinv hok.1 hok.2 hs

theorem setBreak_handed (s : BreakSystem) (enabled : Bool) (result : EspErr) :
    (s.bmxEsp32UartSetBreak enabled result).2.handed = s.handed := by
  unfold bmxEsp32UartSetBreak
  split_ifs <;> rfl

theorem releaseBreak_handed (s : BreakSystem) (setPin : EspErr) :
    (s.releaseBreak setPin).2.handed = s.handed := by
  unfold releaseBreak
  split
  next => exact setBreak_handed s false setPin
  next => rfl

theorem Hands.handed (h : s.Hands s') (hbreak : s.breakAsserted = true) :
    s'.handed = s.handed := by
  obtain ⟨driver, handed, hhanded⟩ := h
  exact hhanded hbreak

theorem call_handed (hbreak : s.breakAsserted = true) (a : BreakAction) :
    (s.call t a).handed = s.handed := by
  cases a with
  | async | proceed => rfl
  | configurePins txPin rxPin setPin =>
    simp only [call, bmxEsp32UartConfigurePins]
    split_ifs <;> rfl
  | init baudrate r =>
    simp only [call, bmxEsp32UartInit]
    split_ifs <;> rfl
  | deinit r =>
    simp only [call, bmxEsp32UartDeinit]
    split
    next => rfl
    next => split_ifs <;> exact releaseBreak_handed s r.setPin
  | setBreak enabled result => exact setBreak_handed s enabled result
  | setTranslateCrlf enabled =>
    simp only [call, bmxEsp32UartSetTranslateCrlf]
    split_ifs <;> rfl
  | writeBlocking source length written =>
    exact (writeBlocking_hands s source length written).handed hbreak
  | putByte value written => exact (putByte_hands s value written).handed hbreak
  | writeWithBreak source length breakBits written =>
    exact (writeWithBreak_hands s source length breakBits written).handed hbreak

theorem asyncStep_handed (h : s.Inv) (hbreak : s.breakAsserted = true) {a : UartAction}
    (hs : s.asyncStep a = some s') : s'.handed = s.handed := by
  obtain ⟨async, hasync, rfl⟩ := Option.map_eq_some_iff.mp hs
  have hnone : s.handing a = [] := by
    cases a with
    | worker k answer => exact (h.asserted hbreak).2.2.2.inflight k
    | _ => rfl
  show s.handed ++ s.handing a = s.handed
  rw [hnone, List.append_nil]

/-- While a break is asserted no step hands bytes to the driver. -/
theorem step_handed (h : s.Inv) (hbreak : s.breakAsserted = true) {a : BreakAction}
    (hs : s.step t a = some s') : s'.handed = s.handed := by
  cases a with
  | async a =>
    cases a with
    | worker | transmit => exact asyncStep_handed h hbreak hs
    | _ =>
      simp only [step] at hs
      split_ifs at hs
      exact asyncStep_handed h hbreak hs
  | proceed result =>
    -- a break that is asserted is not about to be
    obtain ⟨⟨returned, s₁⟩, hproceed, -⟩ := Option.map_eq_some_iff.mp hs
    have hbusy : s.setBreak ≠ .idle := fun hidle => by
      rw [proceedSetBreak, hidle] at hproceed
      exact absurd hproceed nofun
    exact absurd hbreak (Bool.eq_false_iff.mp (h.busy hbusy).2.2.1)
  | _ =>
    simp only [step] at hs
    split_ifs at hs
    obtain rfl := Option.some.inj hs
    exact call_handed hbreak _

/-! ### Leaks -/

/-- The worker runs beside everything else. -/
theorem worker_run (s : BreakSystem) (k n : Nat) {async : UartSystem}
    (hrun : uartMachine.run s.async (List.replicate n (.worker k {})) = some async) :
    ∃ s', (breakMachine t).run s (List.replicate n (.async (.worker k {}))) = some s' ∧
      s'.async = async ∧ s'.breakAsserted = s.breakAsserted := by
  induction n generalizing s with
  | zero => exact ⟨s, rfl, Option.some.inj hrun, rfl⟩
  | succ n ih =>
    obtain ⟨async₁, hstep, hrest⟩ := Option.bind_eq_some_iff.mp hrun
    let next : BreakSystem :=
      { s with async := async₁, handed := s.handed ++ s.handing (.worker k {}) }
    have hasync : s.step t (.async (.worker k {})) = some next := congrArg (Option.map _) hstep
    obtain ⟨s', hrun', hsame⟩ := ih next hrest
    exact ⟨s', (run_cons hasync).trans hrun', hsame⟩

/-- With a break asserted, steps of the worker alone hand bytes to the driver. -/
def LeaksLater (t : PinTarget) (s : BreakSystem) : Prop :=
  ∃ k n s₁ s₂, (breakMachine t).run s (List.replicate n (.async (.worker k {}))) = some s₁ ∧
    s₁.breakAsserted = true ∧ s₁.step t (.async (.worker k {})) = some s₂ ∧ s₂.handed ≠ s₁.handed

theorem leaksLater_of_inflight (hbreak : s.breakAsserted = true) {k n : Nat} {async : UartSystem}
    (hrun : uartMachine.run s.async (List.replicate n (.worker k {})) = some async)
    (hinflight : (async.worker k).inflight ≠ []) : s.LeaksLater t := by
  obtain ⟨s₁, hrun₁, rfl, hbreak₁⟩ := worker_run (t := t) s k n hrun
  obtain ⟨output, hw⟩ : ∃ output, s₁.async.worker k = .write output := by
    cases hw : s₁.async.worker k with
    | write output => exact ⟨output, rfl⟩
    | _ => rw [hw] at hinflight; exact absurd rfl hinflight
  obtain ⟨async₂, hstep⟩ : ∃ async₂, s₁.async.step (.worker k {}) = some async₂ := by
    simp only [UartSystem.step, UartSystem.workerStep, hw]
    exact ⟨_, rfl⟩
  refine ⟨k, n, s₁, _, hrun₁, hbreak₁.trans hbreak, congrArg (Option.map _) hstep, fun hsame => ?_⟩
  exact hinflight (List.append_right_eq_self.mp hsame)

theorem leaksLater_of_ring (h : s.async.Inv) (hbreak : s.breakAsserted = true)
    (happ : s.async.app = .idle) {r : AsyncRings} (hr : s.async.state.rings = some r)
    (hbytes : r.tx.contents ≠ []) : s.LeaksLater t := by
  have hidle := h.1.app
  rw [happ] at hidle
  rcases hidle with ⟨hopen, -, hgone, hexit⟩ | ⟨-, hrings, -⟩
  · obtain ⟨n, async, hrun, hinflight⟩ := worker_takes hopen hr ⟨hgone, hexit⟩ hbytes
    exact leaksLater_of_inflight hbreak hrun hinflight
  · rw [hr] at hrings
    exact absurd hrings nofun

theorem leaksLater_of_not_quiet (h : s.async.Inv) (hbreak : s.breakAsserted = true)
    (happ : s.async.app = .idle) (hquiet : ¬ s.async.Quiet) : s.LeaksLater t := by
  by_cases hring : ∀ r, s.async.state.rings = some r → r.tx.contents = []
  · obtain ⟨k, hinflight⟩ := not_forall.mp fun hinflight => hquiet ⟨hring, hinflight⟩
    exact leaksLater_of_inflight (n := 0) hbreak rfl hinflight
  · push Not at hring
    obtain ⟨r, hr, hbytes⟩ := hring
    exact leaksLater_of_ring h hbreak happ hr hbytes

/-- A leak is one: the worker alone does the rest. -/
theorem leaksLater_of_leaks (h : s.Inv) {a : BreakAction} (hleaks : s.Leaks a)
    (hs : s.step t a = some s') : s'.LeaksLater t := by
  cases a with
  | async a =>
    cases a with
    | write source length =>
      obtain ⟨hbreak, hopen, hbytes⟩ := hleaks
      simp only [step] at hs
      split_ifs at hs
      obtain ⟨async, hasync, rfl⟩ := Option.map_eq_some_iff.mp hs
      have hinv := uartInv_step h.async hasync
      simp only [UartSystem.step, UartSystem.call] at hasync
      split_ifs at hasync with happ
      obtain ⟨r, hr⟩ : ∃ r, s.async.state.rings = some r := by
        rw [← Option.ne_none_iff_exists']
        exact (uartSafe_of_inv h.async).buffers.2 hopen
      obtain rfl := Option.some.inj hasync
      obtain ⟨r', hr', hbytes'⟩ := asyncWrite_accepts hopen hr
        ((h.asserted hbreak).2.2.2.ring r hr) hbytes
      exact leaksLater_of_ring hinv hbreak happ hr' hbytes'
    | _ => exact hleaks.elim
  | proceed result =>
    obtain ⟨hcall, rfl, hquiet⟩ := hleaks
    simp only [step, proceedSetBreak, hcall, ne_eq, not_true_eq_false, if_false] at hs
    obtain rfl := Option.some.inj hs
    exact leaksLater_of_not_quiet h.async rfl (h.busy (by rw [hcall]; nofun)).2.2.2 hquiet
  | _ => exact hleaks.elim

/-- **Break exclusion.**  As long as every break is asserted with nothing to send, and no buffered
write brings bytes while it is: a break that is asserted has its pin on GPIO, and no step hands
bytes to the driver; a break that is not, and is not about to be, has it on the UART.  Otherwise
the worker hands bytes to the driver while the break is asserted, by steps of its own. -/
theorem uart_break_exclusion
    (h : (breakMachine t).ReachableIn (fun s a => ¬ s.Leaks a ∧ s.Restores a) s) :
    (s.breakAsserted = true → s.initialized = true ∧ s.pinsConfigured = true ∧
      s.route s.txPin = .gpio ∧ ∀ a s', s.step t a = some s' → s'.handed = s.handed) ∧
    (s.breakAsserted = false → s.pinsConfigured = true →
      s.setBreak = .idle ∨ s.setBreak = .resetPin → s.route s.txPin = .uart) ∧
    ∀ a s', s.Leaks a → s.step t a = some s' → s'.LeaksLater t := by
  have hinv := inv_of_reachable h
  refine ⟨fun hbreak => ?_, hinv.released, fun a s' hleaks hs => leaksLater_of_leaks hinv hleaks hs⟩
  obtain ⟨hinit, hpins, hroute, -⟩ := hinv.asserted hbreak
  exact ⟨hinit, hpins, hroute, fun a s' hs => step_handed hinv hbreak hs⟩

end Steps

/-- Every pin will do. -/
def anyPin : PinTarget := ⟨fun _ => true, fun _ => true⟩

/-- A break on pin 4, with no session open. -/
theorem uart_break_exclusion_asserted :
    ∃ s : BreakSystem, s.breakAsserted = true ∧ s.route 4 = .gpio := by
  have hconfigured : (breakMachine anyPin).ReachableIn
      (fun s a => ¬ s.Leaks a ∧ s.Restores a) _ :=
    .step (a := .configurePins 4 5 espOk) (.init rfl) (by exact ⟨id, trivial⟩) rfl
  have hready := ReachableIn.step (a := .init 9600 {}) hconfigured (by exact ⟨id, trivial⟩) rfl
  have hwaited := ReachableIn.step (a := .setBreak true espOk) hready (by exact ⟨id, trivial⟩) rfl
  have hreset := ReachableIn.step (a := .proceed espOk) hwaited (by exact ⟨nofun, nofun⟩) rfl
  have hlow := ReachableIn.step (a := .proceed espOk) hreset (by exact ⟨nofun, nofun⟩) rfl
  have hasserted := ReachableIn.step (a := .proceed espOk) hlow
    (by exact ⟨fun hleaks => hleaks.2.2 ⟨nofun, fun _ => rfl⟩, nofun⟩) rfl
  exact ⟨_, rfl, ((uart_break_exclusion hasserted).1 rfl).2.2.1⟩

/-- A byte is written to an open session during a break. -/
def writeDuringBreak : List BreakAction :=
  [.configurePins 4 5 espOk, .init 9600 {}, .async (.openAsync 2 2 1 2 3 true),
    .async (.proceed true), .setBreak true espOk, .proceed espOk, .proceed espOk, .proceed espOk,
    .async (.write (some [65]) 1), .async (.worker 1 {}), .async (.worker 1 {}),
    .async (.worker 1 {})]

theorem uart_break_leaks : ∃ s, (breakMachine anyPin).Reachable s ∧ s.breakAsserted = true ∧
    ∃ a s', s.step anyPin a = some s' ∧ s'.handed ≠ s.handed := by
  obtain ⟨s, hs, hp⟩ := exists_reachable_of_run (M := breakMachine anyPin) writeDuringBreak
    (fun s => s.breakAsserted && (s.step anyPin (.async (.worker 1 { taken := 1 }))).any
      fun s' => s'.handed != s.handed) rfl (by decide)
  obtain ⟨hbreak, hany⟩ := Bool.and_eq_true_iff.mp hp
  obtain ⟨s', hs', hne⟩ := (Option.any_eq_true _ _).mp hany
  exact ⟨s, hs, hbreak, _, s', hs', by simpa using hne⟩

end BreakSystem

end Esp32Mod
