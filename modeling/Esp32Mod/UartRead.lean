/-
Esp32Mod/UartRead.lean

The polled input of a UART (`runtime.mod/native/esp32_uart.c`): the calls that read, look whether
there is something to read, collect the driver's events into error flags, and flush.

While a call is under way bytes arrive, events are queued, and the worker of a buffered session
takes its share of both.  All of this is in the script: `script k` is what happens from driver call
`k - 1` to driver call `k`, with the answer of that call.  A call that has not returned when its
fuel is used up has no result, so what is said below holds of each call that returns.

Main results:

* `uart_input` — over all runs no byte is lost, doubled or moved between the driver and the
  callers, and the error flags are those of all events since they were cleared;
* `uart_input_returns` — a call that has a deadline returns if the clock goes on, and a blocking
  read if each of its waits brings a byte or an error.
-/
import Esp32Mod.Checked
import Esp32Mod.StepMachine
import Esp32Mod.UartBreak

namespace Esp32Mod

open Checked StepMachine Machine

/-! ### The driver -/

/-- What happens up to a driver call, and what the driver answers. -/
structure UartMoment where
  arrives : List UInt8 := []
  queues : List UartEventType := []
  /-- How many bytes and events the worker of a buffered session takes. -/
  workerBytes : Nat := 0
  workerEvents : Nat := 0
  /-- The driver does not take what the worker has to send. -/
  workerFails : Bool := false
  /-- How many bytes `uart_read_bytes` has at most, and `none` for -1. -/
  takes : Option Nat := some 0
  /-- The answer of `uart_flush_input` and `uart_get_buffered_data_len`. -/
  result : EspErr := espOk
  /-- `esp_timer_get_time`. -/
  time : Int := 0

/-- Who has taken bytes out of the driver's buffer. -/
inductive UartTaker
  | call
  | worker
  | flush
  deriving DecidableEq

/-- A controller and its driver.  `moment` counts the driver calls; `arrived`, `pieces` and `since`
are all bytes that have arrived, all pieces that have been taken, and the error flags of all that
has been reported since they were cleared. -/
structure UartInput where
  initialized : Bool
  asyncOpen : Bool
  errors : UInt32
  buffered : List UInt8
  events : List UartEventType
  moment : Nat
  arrived : List UInt8
  pieces : List (UartTaker × List UInt8)
  since : List UInt32

/-- All flags of a list. -/
def uartFlags (flags : List UInt32) : UInt32 := flags.foldr (· ||| ·) 0

namespace UartInput

/-- The bytes that calls have taken. -/
def polled (p : UartInput) : List UInt8 :=
  (p.pieces.filter fun piece => piece.1 = .call).flatMap Prod.snd

/-- `n` bytes of the buffer, or all of them. -/
def take (p : UartInput) (taker : UartTaker) (n : Nat) : UartInput :=
  { p with
    buffered := p.buffered.drop n
    pieces := p.pieces ++ [(taker, p.buffered.take n)] }

/-- What comes in before a driver call. -/
def arrive (m : UartMoment) (p : UartInput) : UartInput :=
  { p with
    buffered := p.buffered ++ m.arrives
    arrived := p.arrived ++ m.arrives
    events := p.events ++ m.queues
    since := p.since ++ m.queues.map bmxEsp32UartEventError }

/-- The worker keeps the flags of each event, and of a driver that takes nothing. -/
def work (m : UartMoment) (p : UartInput) : UartInput :=
  let failed := if m.workerFails = true then [bmxEsp32UartErrorOverrun] else []
  { p.take .worker m.workerBytes with
    events := p.events.drop m.workerEvents
    errors := p.errors |||
      uartFlags ((p.events.take m.workerEvents).map bmxEsp32UartEventError ++ failed)
    since := p.since ++ failed }

variable (script : Nat → UartMoment)

/-- Up to the next driver call. -/
def next (p : UartInput) : UartInput :=
  let p' := { p.arrive (script p.moment) with moment := p.moment + 1 }
  if p.asyncOpen = true then p'.work (script p.moment) else p'

/-- `uart_read_bytes`: -1, or the first bytes that wait, as many as the script says and no more than
there is room for. -/
def uartReadBytes (length : Nat) (p : UartInput) : Option (List UInt8) × UartInput :=
  match (script p.moment).takes with
  | none => (none, p.next script)
  | some n =>
    let n := min n length
    (some ((p.next script).buffered.take n), (p.next script).take .call n)

/-! ### The calls -/

/-- What the calls collect from the queue, which is what the worker does. -/
def collectEvent (errors : UInt32) : UartEventType → UInt32
  | .frameErr => errors ||| bmxEsp32UartErrorFraming
  | .parityErr => errors ||| bmxEsp32UartErrorParity
  | .lineBreak => errors ||| bmxEsp32UartErrorBreak
  | .fifoOvf | .bufferFull => errors ||| bmxEsp32UartErrorOverrun
  | .data | .other => errors

/-- One event of the driver's queue, whose flags are added. -/
def collectPass (p : UartInput) : Pass UartInput UartInput :=
  let p := p.next script
  match p.events with
  | [] => .done p
  | event :: events => .next { p with events, errors := collectEvent p.errors event }

variable (fuel : Nat)

/-- The queue is emptied, unless the worker of a buffered session does so. -/
def bmxEsp32UartCollectEvents (p : UartInput) : Option UartInput :=
  if p.asyncOpen = true then some p
  else loop (fun p => some (p.collectPass script)) fuel p

/-- The checks that the reads share. -/
def bmxEsp32UartBufferValid (p : UartInput) (buffer : Option (List UInt8)) (length : Int32) : Prop :=
  p.initialized = true ∧ 0 ≤ length ∧ (length = 0 ∨ buffer ≠ none)

instance (p : UartInput) (buffer : Option (List UInt8)) (length : Int32) :
    Decidable (p.bmxEsp32UartBufferValid buffer length) :=
  inferInstanceAs (Decidable (_ ∧ _))

end UartInput

/-- The result of a call, and the memory at its pointer. -/
structure UartReturn where
  result : Int
  destination : Option (List UInt8) := none
  deriving DecidableEq

/-- The variables of a reading loop. -/
structure UartReading where
  count : Int
  block : List UInt8
  port : UartInput

namespace UartInput

variable (script : Nat → UartMoment)

/-- The body of a reading loop up to `count += result`; the sum is `none` for an error. -/
def readMore (length : Int32) (r : UartReading) : Option Int × UartReading :=
  let (taken, port) := r.port.uartReadBytes script (length.toInt - r.count).toNat
  match taken with
  | none => (none, { r with count := -1, port })
  | some bytes =>
    let count := r.count + bytes.length
    (some count, ⟨count, overwrite r.block r.count.toNat bytes, port⟩)

/-- One wait for what is missing, without a limit. -/
def readBlockingPass (length : Int32) (r : UartReading) : Pass UartReading UartReading :=
  if r.count < length.toInt then
    match readMore script length r with
    | (none, r) => .done r
    | (some _, r) => .next r
  else .done r

/-- One wait of at most what is left until the deadline. -/
def readTimeoutPass (length : Int32) (deadline : Int) (r : UartReading) :
    Pass UartReading UartReading :=
  if r.count < length.toInt then
    match readMore script length r with
    | (none, r) => .done r
    | (some count, r) =>
      if count = length.toInt then .done r
      else
        let r' := { r with port := r.port.next script }
        if deadline ≤ (script r.port.moment).time then .done r' else .next r'
  else .done r

variable (fuel : Nat)

/-- The end of both loops. -/
def collectRead (destination : Option (List UInt8)) (r : UartReading) :
    Option (UartReturn × UartInput) := do
  let port ← if 0 ≤ r.count then r.port.bmxEsp32UartCollectEvents script fuel else some r.port
  return (⟨r.count, destination.map fun _ => r.block⟩, port)

/-- `destination` is the memory at the pointer, if that is not null. -/
def bmxEsp32UartReadBlocking (destination : Option (List UInt8)) (length : Int32) (p : UartInput) :
    Option (UartReturn × UartInput) :=
  if ¬ p.bmxEsp32UartBufferValid destination length then
    some (⟨uartInvalidArgument.toInt, destination⟩, p)
  else if length = 0 then some (⟨0, destination⟩, p)
  else do
    let r ← loop (fun r => some (readBlockingPass script length r)) fuel ⟨0, destination.getD [], p⟩
    collectRead script fuel destination r

/-- The bytes that have come when the deadline passes. -/
def bmxEsp32UartReadTimeoutUs (destination : Option (List UInt8)) (length : Int32)
    (timeoutUs : UInt32) (p : UartInput) : Option (UartReturn × UartInput) :=
  if ¬ p.bmxEsp32UartBufferValid destination length then
    some (⟨uartInvalidArgument.toInt, destination⟩, p)
  else do
    let deadline := (script p.moment).time + timeoutUs.toNat
    let r ← loop (fun r => some (readTimeoutPass script length deadline r)) fuel
      ⟨0, destination.getD [], p.next script⟩
    collectRead script fuel destination r

/-- The bytes that wait, in one read. -/
def bmxEsp32UartReadAvailable (destination : Option (List UInt8)) (capacity : Int32)
    (p : UartInput) : Option (UartReturn × UartInput) :=
  if ¬ p.bmxEsp32UartBufferValid destination capacity then
    some (⟨uartInvalidArgument.toInt, destination⟩, p)
  else if capacity = 0 then some (⟨0, destination⟩, p)
  else do
    let (_, r) := readMore script capacity ⟨0, destination.getD [], p⟩
    let port ← r.port.bmxEsp32UartCollectEvents script fuel
    return (⟨r.count, destination.map fun _ => r.block⟩, port)

/-- A byte waits. -/
def bmxEsp32UartIsReadable (p : UartInput) : Int × UartInput :=
  if p.initialized = false then (0, p)
  else
    let p' := p.next script
    (if (script p.moment).result = espOk ∧ p'.buffered ≠ [] then 1 else 0, p')

/-- One look at the driver, then at the clock. -/
def isReadableWithinPass (deadline : Int) (p : UartInput) : Pass UartInput (Int × UartInput) :=
  let (readable, p) := p.bmxEsp32UartIsReadable script
  if readable = 1 then .done (1, p)
  else if deadline ≤ (script p.moment).time then .done (0, p.next script)
  else .next (p.next script)

/-- Polls until a byte waits or the deadline passes. -/
def bmxEsp32UartIsReadableWithinUs (timeoutUs : UInt32) (p : UartInput) : Option (Int × UartInput) :=
  if p.initialized = false then some (0, p)
  else
    let deadline := (script p.moment).time + timeoutUs.toNat
    loop (fun p => some (isReadableWithinPass script deadline p)) fuel (p.next script)

/-- The flags, after the queue has been read. -/
def bmxEsp32UartGetErrors (p : UartInput) : Option (UInt32 × UartInput) :=
  if p.initialized = false then some (0, p)
  else do
    let p ← p.bmxEsp32UartCollectEvents script fuel
    return (p.errors, p)

/-- What is still in the queue is reported later. -/
def bmxEsp32UartClearErrors (p : UartInput) : Option UartInput :=
  if p.initialized = false then some p
  else do
    let p ← p.bmxEsp32UartCollectEvents script fuel
    return { p with errors := 0, since := p.events.map bmxEsp32UartEventError }

/-- What waits is thrown away, and with it the events in the queue. -/
def bmxEsp32UartFlushInput (p : UartInput) : Option (Int × UartInput) :=
  if p.initialized = false then some (0, p)
  else
    let p' := p.next script
    if (script p.moment).result ≠ espOk then some (0, p')
    else do
      let p ← (p'.take .flush p'.buffered.length).bmxEsp32UartCollectEvents script fuel
      return (1, p)

end UartInput

/-! ### The machine -/

/-- The input calls of the application. -/
inductive UartInputCall
  | readBlocking (destination : Option (List UInt8)) (length : Int32)
  | readTimeoutUs (destination : Option (List UInt8)) (length : Int32) (timeoutUs : UInt32)
  | readAvailable (destination : Option (List UInt8)) (capacity : Int32)
  | isReadable
  | isReadableWithinUs (timeoutUs : UInt32)
  | getErrors
  | clearErrors
  | flushInput

/-- What the program sees of a call that has no memory. -/
def UartReturn.of (r : Int × UartInput) : UartReturn × UartInput := (⟨r.1, none⟩, r.2)

/-- What a call returns, and the port it leaves; `none` where the fuel runs out. -/
def UartInputCall.run (script : Nat → UartMoment) (fuel : Nat) (p : UartInput) :
    UartInputCall → Option (UartReturn × UartInput)
  | readBlocking destination length => p.bmxEsp32UartReadBlocking script fuel destination length
  | readTimeoutUs destination length timeoutUs =>
    p.bmxEsp32UartReadTimeoutUs script fuel destination length timeoutUs
  | readAvailable destination capacity =>
    p.bmxEsp32UartReadAvailable script fuel destination capacity
  | isReadable => some (UartReturn.of (p.bmxEsp32UartIsReadable script))
  | isReadableWithinUs timeoutUs =>
    (p.bmxEsp32UartIsReadableWithinUs script fuel timeoutUs).map UartReturn.of
  | getErrors => (p.bmxEsp32UartGetErrors script fuel).map fun r => UartReturn.of (r.1.toNat, r.2)
  | clearErrors => (p.bmxEsp32UartClearErrors script fuel).map fun p => UartReturn.of (0, p)
  | flushInput => (p.bmxEsp32UartFlushInput script fuel).map UartReturn.of

/-- A call that has returned, with the input before and after it. -/
structure UartEntry where
  call : UartInputCall
  before : UartInput
  ret : UartReturn
  after : UartInput

/-- The bytes that the call has taken. -/
def UartEntry.took (e : UartEntry) : List UInt8 := e.after.polled.drop e.before.polled.length

/-- The port, and the calls that have been made. -/
structure UartInputSystem where
  input : UartInput
  log : List UartEntry

/-- A call, or the start or end of a buffered session. -/
inductive UartInputAction
  | call (fuel : Nat) (call : UartInputCall)
  /-- A buffered session is opened or closed. -/
  | session (isOpen : Bool)

/-- The pointer of a call is null, or there are as many bytes at it as the call says. -/
def UartInputCall.HasRoom : UartInputCall → Prop
  | readBlocking destination length | readTimeoutUs destination length _
  | readAvailable destination length =>
    ∀ block ∈ destination, length.toInt ≤ block.length
  | _ => True

instance : DecidablePred UartInputCall.HasRoom
  | .readBlocking none _ | .readTimeoutUs none _ _ | .readAvailable none _ =>
    isTrue fun _ h => nomatch h
  | .readBlocking (some block) length | .readTimeoutUs (some block) length _
  | .readAvailable (some block) length =>
    decidable_of_iff (length.toInt ≤ block.length) (by simp [UartInputCall.HasRoom])
  | .isReadable | .isReadableWithinUs _ | .getErrors | .clearErrors | .flushInput =>
    isTrue trivial

namespace UartInputSystem

/-- A call that would write past its buffer is no step. -/
def step (script : Nat → UartMoment) (s : UartInputSystem) : UartInputAction → Option UartInputSystem
  | .call fuel call =>
    if call.HasRoom then
      (call.run script fuel s.input).map fun r =>
        ⟨r.2, s.log ++ [⟨call, s.input, r.1, r.2⟩]⟩
    else none
  | .session isOpen => some { s with input.asyncOpen := isOpen }

end UartInputSystem

/-- The input is as the driver has just been installed. -/
def uartInputMachine (script : Nat → UartMoment) : Machine UartInputSystem UartInputAction where
  init s := ∃ initialized moment, s = ⟨⟨initialized, false, 0, [], [], moment, [], [], []⟩, []⟩
  step := UartInputSystem.step script

/-! ### The statement -/

/-- What a reading call has done with the bytes it took. -/
structure UartEntry.Reads (e : UartEntry) (destination : Option (List UInt8)) (length : Int32) :
    Prop where
  refused : ¬ e.before.bmxEsp32UartBufferValid destination length →
    e.ret = ⟨-5, destination⟩ ∧ e.after = e.before
  few : e.took.length ≤ length.toInt.toNat
  stored : e.ret.destination = destination.map fun block => overwrite block 0 e.took
  counted : 0 ≤ e.ret.result → e.ret.result = e.took.length
  failed : e.before.bmxEsp32UartBufferValid destination length → e.ret.result < 0 →
    e.ret.result = -1

/-- The call has seen the clock at least `timeoutUs` after its start. -/
def UartEntry.TimedOut (script : Nat → UartMoment) (timeoutUs : UInt32) (e : UartEntry) : Prop :=
  ∃ k, e.before.moment < k ∧ k < e.after.moment ∧
    (script e.before.moment).time + timeoutUs.toNat ≤ (script k).time

/-- What a call tells the program. -/
def UartEntry.Honest (script : Nat → UartMoment) (e : UartEntry) : Prop :=
  match e.call with
  | .readBlocking destination length =>
    e.Reads destination length ∧ (0 ≤ e.ret.result → e.ret.result = length.toInt)
  | .readTimeoutUs destination length timeoutUs =>
    e.Reads destination length ∧
      (0 ≤ e.ret.result → e.ret.result < length.toInt → e.TimedOut script timeoutUs)
  | .readAvailable destination capacity => e.Reads destination capacity
  | .isReadable => e.took = [] ∧ (e.ret.result ≠ 0 → e.after.buffered ≠ [])
  | .isReadableWithinUs timeoutUs => e.took = [] ∧
    (e.ret.result ≠ 0 → e.after.buffered ≠ []) ∧
    (e.before.initialized = true → e.ret.result = 0 → e.TimedOut script timeoutUs)
  | .getErrors => e.took = [] ∧
    (e.before.initialized = true → e.before.asyncOpen = false →
      e.ret.result = (uartFlags e.after.since).toNat)
  | .clearErrors => e.took = [] ∧
    (e.before.initialized = true → e.before.asyncOpen = false → e.after.since = [])
  | .flushInput => e.took = []

/-- What holds of the input after each call. -/
structure UartInputSafe (script : Nat → UartMoment) (s : UartInputSystem) : Prop where
  /-- Each byte that has arrived has been taken once, in order, or waits. -/
  whole : s.input.arrived = s.input.pieces.flatMap Prod.snd ++ s.input.buffered
  polled : s.input.polled = s.log.flatMap UartEntry.took
  /-- The flags that are set, and those of the events that wait, are all that was reported. -/
  errors : s.input.errors ||| uartFlags (s.input.events.map bmxEsp32UartEventError) =
    uartFlags s.input.since
  honest : ∀ e ∈ s.log, e.Honest script

/-! ### Bytes and flags -/

theorem uartFlags_append (xs ys : List UInt32) :
    uartFlags (xs ++ ys) = uartFlags xs ||| uartFlags ys := by
  induction xs with
  | nil => exact (UInt32.zero_or).symm
  | cons x xs ih =>
    show x ||| uartFlags (xs ++ ys) = (x ||| uartFlags xs) ||| uartFlags ys
    rw [ih, UInt32.or_assoc]

/-- **The calls and the worker agree** on what an event means. -/
theorem collectEvent_eq (errors : UInt32) (event : UartEventType) :
    UartInput.collectEvent errors event = errors ||| bmxEsp32UartEventError event := by
  cases event
  case data | other => exact UInt32.or_zero.symm
  all_goals rfl

namespace UartInput

variable {script : Nat → UartMoment} {p p' p'' : UartInput} {xs ys : List UInt8}

/-- The bytes and the flags of a port, whether or not a call is under way. -/
structure Sound (p : UartInput) : Prop where
  whole : p.arrived = p.pieces.flatMap Prod.snd ++ p.buffered
  errors : p.errors ||| uartFlags (p.events.map bmxEsp32UartEventError) = uartFlags p.since

/-- From `p` to `p'` the calls have taken `xs`. -/
structure Grows (p : UartInput) (xs : List UInt8) (p' : UartInput) : Prop where
  sound : p.Sound → p'.Sound
  polled : p'.polled = p.polled ++ xs
  initialized : p'.initialized = p.initialized
  asyncOpen : p'.asyncOpen = p.asyncOpen
  moment : p.moment ≤ p'.moment

theorem Grows.rfl : p.Grows [] p := ⟨id, (List.append_nil _).symm, Eq.refl _, Eq.refl _, Nat.le_refl _⟩

theorem Grows.trans (h : p.Grows xs p') (h' : p'.Grows ys p'') : p.Grows (xs ++ ys) p'' where
  sound hp := h'.sound (h.sound hp)
  polled := by rw [h'.polled, h.polled, List.append_assoc]
  initialized := h'.initialized.trans h.initialized
  asyncOpen := h'.asyncOpen.trans h.asyncOpen
  moment := h.moment.trans h'.moment

/-- A part that takes nothing, at the end. -/
theorem Grows.then (h : p.Grows xs p') (h' : p'.Grows [] p'') : p.Grows xs p'' :=
  List.append_nil xs ▸ h.trans h'

theorem polled_take (taker : UartTaker) (n : Nat) :
    (p.take taker n).polled = p.polled ++ if taker = .call then p.buffered.take n else [] := by
  simp only [polled, take, List.filter_append, List.flatMap_append]
  congr 1
  by_cases htaker : taker = .call
  · simp [htaker]
  · simp [htaker]

theorem whole_take (taker : UartTaker) (n : Nat)
    (h : p.arrived = p.pieces.flatMap Prod.snd ++ p.buffered) :
    (p.take taker n).arrived =
      (p.take taker n).pieces.flatMap Prod.snd ++ (p.take taker n).buffered := by
  simp only [take, List.flatMap_append, List.flatMap_singleton, List.append_assoc,
    List.take_append_drop]
  exact h

theorem take_grows (taker : UartTaker) (n : Nat) :
    p.Grows (if taker = .call then p.buffered.take n else []) (p.take taker n) where
  sound h := ⟨whole_take taker n h.whole, h.errors⟩
  polled := polled_take taker n
  initialized := rfl
  asyncOpen := rfl
  moment := Nat.le_refl _

theorem arrive_sound (m : UartMoment) (h : p.Sound) : (p.arrive m).Sound where
  whole := by
    show p.arrived ++ m.arrives = p.pieces.flatMap Prod.snd ++ (p.buffered ++ m.arrives)
    rw [h.whole, List.append_assoc]
  errors := by
    simp only [arrive, List.map_append, uartFlags_append, ← h.errors, UInt32.or_assoc]

theorem work_sound (m : UartMoment) (h : p.Sound) : (p.work m).Sound where
  whole := whole_take .worker m.workerBytes h.whole
  errors := by
    have hevents : uartFlags (p.events.map bmxEsp32UartEventError) =
        uartFlags ((p.events.take m.workerEvents).map bmxEsp32UartEventError) |||
          uartFlags ((p.events.drop m.workerEvents).map bmxEsp32UartEventError) := by
      rw [← uartFlags_append, ← List.map_append, List.take_append_drop]
    have herrors := h.errors
    rw [hevents] at herrors
    simp only [work, uartFlags_append]
    rw [← herrors]
    ac_rfl

theorem next_grows : p.Grows [] (p.next script) := by
  have harrive : p.Grows [] { p.arrive (script p.moment) with moment := p.moment + 1 } := by
    refine ⟨fun h => ?_, (List.append_nil _).symm, Eq.refl _, Eq.refl _, Nat.le_succ _⟩
    exact ⟨(arrive_sound _ h).whole, (arrive_sound _ h).errors⟩
  unfold next
  split
  · refine harrive.then ⟨fun h => work_sound _ h, ?_, Eq.refl _, Eq.refl _, Nat.le_refl _⟩
    exact polled_take .worker _
  · exact harrive

@[simp] theorem next_moment : (p.next script).moment = p.moment + 1 := by
  unfold next
  split <;> rfl

variable (script) in
/-- What a call of `uart_read_bytes` returns is what it has taken. -/
theorem readBytes_grows (length : Nat) :
    p.Grows ((p.uartReadBytes script length).1.getD []) (p.uartReadBytes script length).2 ∧
      ((p.uartReadBytes script length).1.getD []).length ≤ length := by
  unfold uartReadBytes
  split
  · exact ⟨next_grows, Nat.zero_le _⟩
  · refine ⟨next_grows.trans (take_grows .call _), ?_⟩
    show (List.take _ _).length ≤ length
    rw [List.length_take]
    omega

theorem collectPass_empty (h : (p.next script).events = []) :
    p.collectPass script = .done (p.next script) := by
  simp only [collectPass, h]

theorem collectPass_event {event : UartEventType} {events : List UartEventType}
    (h : (p.next script).events = event :: events) :
    p.collectPass script = .next { p.next script with
      events, errors := (p.next script).errors ||| bmxEsp32UartEventError event } := by
  simp only [collectPass, h, collectEvent_eq]

theorem collected_grows {event : UartEventType} {events : List UartEventType}
    (h : p.events = event :: events) :
    p.Grows [] { p with events, errors := p.errors ||| bmxEsp32UartEventError event } := by
  refine ⟨fun hp => ⟨hp.whole, ?_⟩, (List.append_nil _).symm, Eq.refl _, Eq.refl _, Nat.le_refl _⟩
  rw [← hp.errors, h, UInt32.or_assoc]
  rfl

/-- What is collected was reported; nothing is left in the queue. -/
theorem collectEvents_grows {fuel : Nat}
    (h : p.bmxEsp32UartCollectEvents script fuel = some p') :
    p.Grows [] p' ∧ (p.asyncOpen = false → p'.events = []) := by
  unfold bmxEsp32UartCollectEvents at h
  split at h
  · next hopen =>
    obtain rfl := Option.some.inj h
    exact ⟨.rfl, fun hclosed => absurd hopen (hclosed ▸ Bool.false_ne_true)⟩
  · refine loop_sound (I := fun q => p.Grows [] q)
      (Q := fun q => p.Grows [] q ∧ (p.asyncOpen = false → q.events = [])) ?_ ?_ .rfl h
    · intro q q' hq hpass
      cases hevents : (q.next script).events with
      | nil =>
        rw [collectPass_empty hevents] at hpass
        exact nomatch hpass
      | cons event events =>
        rw [collectPass_event hevents] at hpass
        obtain rfl := Pass.next.inj (Option.some.inj hpass)
        exact (hq.then next_grows).then (collected_grows hevents)
    · intro q q' hq hpass
      cases hevents : (q.next script).events with
      | nil =>
        rw [collectPass_empty hevents] at hpass
        obtain rfl := Pass.done.inj (Option.some.inj hpass)
        exact ⟨hq.then next_grows, fun _ => hevents⟩
      | cons event events =>
        rw [collectPass_event hevents] at hpass
        exact nomatch hpass

/-! ### Reading

A loop that began with `block` and `p` has taken `taken` so far, and they are in the block. -/

/-- A read that has taken some bytes: they are in the block, and no more than were asked for. -/
structure Reading (p : UartInput) (block : List UInt8) (length : Int32) (r : UartReading)
    (taken : List UInt8) : Prop where
  grows : p.Grows taken r.port
  few : taken.length ≤ length.toInt.toNat
  block : r.block = overwrite block 0 taken

variable {block : List UInt8} {length : Int32} {r : UartReading} {taken : List UInt8}

variable (script) in
/-- A pass of a loop reads on or fails; then nothing has been taken by it. -/
theorem readMore_spec (h : Reading p block length r taken) (hcount : r.count = taken.length)
    (hblock : length.toInt ≤ block.length) (hless : r.count < length.toInt) :
    (∃ r', readMore script length r = (none, r') ∧ r'.count = -1 ∧
        Reading p block length r' taken) ∨
      ∃ r' taken', readMore script length r = (some r'.count, r') ∧ r'.count = taken'.length ∧
        Reading p block length r' taken' := by
  obtain ⟨hgrows, hfew⟩ := readBytes_grows script (p := r.port)
    (length.toInt - r.count).toNat
  unfold readMore
  revert hgrows hfew
  rcases r.port.uartReadBytes script (length.toInt - r.count).toNat with ⟨_ | bytes, port⟩
  · rintro hgrows -
    exact .inl ⟨_, rfl, rfl, h.grows.then hgrows, h.few, h.block⟩
  · intro hgrows hfew
    refine .inr ⟨⟨r.count + bytes.length, overwrite r.block r.count.toNat bytes, port⟩,
      taken ++ bytes, rfl, ?_, h.grows.trans hgrows, ?_, ?_⟩
    · show r.count + _ = _
      rw [hcount, List.length_append]
      exact (Int.natCast_add _ _).symm
    · show (taken ++ bytes).length ≤ _
      rw [List.length_append]
      change bytes.length ≤ _ at hfew
      omega
    · show overwrite r.block r.count.toNat bytes = _
      rw [h.block, hcount, Int.toNat_natCast]
      have hjoin : overwrite (overwrite block 0 taken) (0 + taken.length) bytes = _ :=
        overwrite_overwrite (by have := h.few; omega)
      rwa [Nat.zero_add] at hjoin

/-- How a reading loop ends. -/
structure ReadEnd (p : UartInput) (block : List UInt8) (length : Int32) (r : UartReading) : Prop where
  ends : ∃ taken, Reading p block length r taken ∧ (0 ≤ r.count → r.count = taken.length)
  failed : r.count < 0 → r.count = -1

theorem Reading.end (h : Reading p block length r taken) (hcount : r.count = taken.length) :
    ReadEnd p block length r :=
  ⟨⟨taken, h, fun _ => hcount⟩, by omega⟩

theorem Reading.full (h : Reading p block length r taken) (hcount : r.count = taken.length)
    (hnonneg : 0 ≤ length.toInt) (hless : ¬ r.count < length.toInt) : r.count = length.toInt := by
  have := h.few
  omega

/-- The state of a loop before a pass. -/
def ReadsOn (p : UartInput) (block : List UInt8) (length : Int32) (r : UartReading) : Prop :=
  ∃ taken, Reading p block length r taken ∧ r.count = taken.length

theorem readsOn_start : ReadsOn p block length ⟨0, block, p⟩ :=
  ⟨[], ⟨.rfl, Nat.zero_le _, overwrite_nil.symm⟩, rfl⟩

theorem readBlocking_end {fuel : Nat} (hblock : length.toInt ≤ block.length)
    (hnonneg : 0 ≤ length.toInt)
    (h : loop (fun r => some (readBlockingPass script length r)) fuel ⟨0, block, p⟩ = some r) :
    ReadEnd p block length r ∧ (0 ≤ r.count → r.count = length.toInt) := by
  refine loop_sound (I := ReadsOn p block length) (Q := fun r => ReadEnd p block length r ∧
    (0 ≤ r.count → r.count = length.toInt)) ?_ ?_ readsOn_start h
  · -- a pass that goes on has taken what it read
    rintro r r' ⟨taken, hr, hcount⟩ hpass
    have hpass := Option.some.inj hpass
    unfold readBlockingPass at hpass
    split at hpass
    · next hless =>
      rcases readMore_spec script hr hcount hblock hless with
        ⟨r₁, hmore, -, -⟩ | ⟨r₁, taken', hmore, hcount', hr'⟩
      · rw [hmore] at hpass
        exact nomatch hpass
      · rw [hmore] at hpass
        obtain rfl := Pass.next.inj hpass
        exact ⟨taken', hr', hcount'⟩
    · exact nomatch hpass
  · -- the last pass: an error, or all the bytes are there
    rintro r r' ⟨taken, hr, hcount⟩ hpass
    have hpass := Option.some.inj hpass
    unfold readBlockingPass at hpass
    split at hpass
    · next hless =>
      rcases readMore_spec script hr hcount hblock hless with
        ⟨r₁, hmore, hfail, hr'⟩ | ⟨r₁, taken', hmore, hcount', hr'⟩
      · rw [hmore] at hpass
        obtain rfl := Pass.done.inj hpass
        exact ⟨⟨⟨taken, hr', by omega⟩, fun _ => hfail⟩, by omega⟩
      · rw [hmore] at hpass
        exact nomatch hpass
    · next hless =>
      obtain rfl := Pass.done.inj hpass
      exact ⟨hr.end hcount, fun _ => hr.full hcount hnonneg hless⟩

/-- The clock has been seen past the deadline. -/
def Late (script : Nat → UartMoment) (deadline : Int) (p p' : UartInput) : Prop :=
  ∃ k, p.moment ≤ k ∧ k < p'.moment ∧ deadline ≤ (script k).time

theorem Late.mono {deadline : Int} (h : Late script deadline p p')
    (hmoment : p'.moment ≤ p''.moment) : Late script deadline p p'' := by
  obtain ⟨k, hlow, hhigh, htime⟩ := h
  exact ⟨k, hlow, hhigh.trans_le hmoment, htime⟩

theorem readTimeout_end {fuel : Nat} {deadline : Int} (hblock : length.toInt ≤ block.length)
    (h : loop (fun r => some (readTimeoutPass script length deadline r)) fuel ⟨0, block, p⟩ =
      some r) :
    ReadEnd p block length r ∧
      (0 ≤ r.count → r.count < length.toInt → Late script deadline p r.port) := by
  refine loop_sound (I := ReadsOn p block length) (Q := fun r => ReadEnd p block length r ∧
    (0 ≤ r.count → r.count < length.toInt → Late script deadline p r.port)) ?_ ?_ readsOn_start h
  · -- a pass that goes on has taken what it read
    rintro r r' ⟨taken, hr, hcount⟩ hpass
    have hpass := Option.some.inj hpass
    unfold readTimeoutPass at hpass
    split at hpass
    · next hless =>
      rcases readMore_spec script hr hcount hblock hless with
        ⟨r₁, hmore, -, -⟩ | ⟨r₁, taken', hmore, hcount', hr'⟩
      · rw [hmore] at hpass
        exact nomatch hpass
      · rw [hmore] at hpass
        dsimp only at hpass
        split at hpass
        · exact nomatch hpass
        · split at hpass
          · exact nomatch hpass
          · obtain rfl := Pass.next.inj hpass
            exact ⟨taken', ⟨hr'.grows.then next_grows, hr'.few, hr'.block⟩, hcount'⟩
    · exact nomatch hpass
  · -- the last pass: an error, all the bytes, or the deadline
    rintro r r' ⟨taken, hr, hcount⟩ hpass
    have hpass := Option.some.inj hpass
    unfold readTimeoutPass at hpass
    split at hpass
    · next hless =>
      rcases readMore_spec script hr hcount hblock hless with
        ⟨r₁, hmore, hfail, hr'⟩ | ⟨r₁, taken', hmore, hcount', hr'⟩
      · rw [hmore] at hpass
        obtain rfl := Pass.done.inj hpass
        exact ⟨⟨⟨taken, hr', by omega⟩, fun _ => hfail⟩, by omega⟩
      · rw [hmore] at hpass
        dsimp only at hpass
        split at hpass
        · obtain rfl := Pass.done.inj hpass
          exact ⟨hr'.end hcount', by omega⟩
        · split at hpass
          · next hlate =>
            obtain rfl := Pass.done.inj hpass
            refine ⟨Reading.end ⟨hr'.grows.then next_grows, hr'.few, hr'.block⟩ hcount',
              fun _ _ => ⟨r₁.port.moment, hr'.grows.moment, ?_, hlate⟩⟩
            rw [next_moment]
            exact Nat.lt_succ_self _
          · exact nomatch hpass
    · next hless =>
      obtain rfl := Pass.done.inj hpass
      exact ⟨hr.end hcount, by omega⟩

theorem collectRead_grows {fuel : Nat} {destination : Option (List UInt8)} {ret : UartReturn}
    (h : collectRead script fuel destination r = some (ret, p')) :
    ret = ⟨r.count, destination.map fun _ => r.block⟩ ∧ r.port.Grows [] p' := by
  unfold collectRead at h
  split at h
  · obtain ⟨p₁, hcollect, hret⟩ := Option.bind_eq_some_iff.mp h
    obtain ⟨rfl, rfl⟩ := Prod.mk.inj (Option.some.inj hret)
    exact ⟨rfl, (collectEvents_grows hcollect).1⟩
  · obtain ⟨rfl, rfl⟩ := Prod.mk.inj (Option.some.inj h)
    exact ⟨rfl, .rfl⟩

end UartInput

/-! ### Calls -/

section Calls

open UartInput

variable {script : Nat → UartMoment} {p q q' : UartInput} {destination : Option (List UInt8)}
  {length : Int32} {taken : List UInt8} {call : UartInputCall} {ret : UartReturn}

theorem UartInput.Grows.took (h : p.Grows taken q) : UartEntry.took ⟨call, p, ret, q⟩ = taken := by
  rw [UartEntry.took, h.polled, List.drop_left]

theorem toInt_nonneg (h : p.bmxEsp32UartBufferValid destination length) : 0 ≤ length.toInt :=
  Int32.le_iff_toInt_le.mp h.2.1

/-- A call that is refused, or has nothing to do. -/
theorem reads_nothing {result : Int}
    (h : p.bmxEsp32UartBufferValid destination length ∧ result = 0 ∨
      ¬ p.bmxEsp32UartBufferValid destination length ∧ result = -5) :
    UartEntry.Reads ⟨call, p, ⟨result, destination⟩, p⟩ destination length := by
  have htook : UartEntry.took ⟨call, p, ⟨result, destination⟩, p⟩ = [] := Grows.rfl.took
  refine ⟨?_, htook ▸ Nat.zero_le _, ?_, ?_, ?_⟩
  · rintro hinvalid
    obtain ⟨hvalid, -⟩ | ⟨-, rfl⟩ := h
    · exact absurd hvalid hinvalid
    · exact ⟨rfl, rfl⟩
  · simp only [htook, overwrite_nil, Option.map_id']
  · rw [htook]
    rintro hresult
    obtain ⟨-, rfl⟩ | ⟨-, rfl⟩ := h
    · rfl
    · exact absurd (show (0 : Int) ≤ -5 from hresult) (by decide)
  · rintro hvalid hresult
    obtain ⟨-, rfl⟩ | ⟨hinvalid, -⟩ := h
    · exact absurd (show (0 : Int) < 0 from hresult) (by decide)
    · exact absurd hvalid hinvalid

theorem reads_of_end {r : UartReading} (hvalid : p.bmxEsp32UartBufferValid destination length)
    (hstart : p.Grows [] q) (hend : ReadEnd q (destination.getD []) length r)
    (hafter : r.port.Grows [] q') :
    UartEntry.Reads ⟨call, p, ⟨r.count, destination.map fun _ => r.block⟩, q'⟩ destination
      length := by
  obtain ⟨taken, hr, hcount⟩ := hend.ends
  have htook : UartEntry.took ⟨call, p, ⟨r.count, destination.map fun _ => r.block⟩, q'⟩ = taken :=
    ((hstart.trans hr.grows).then hafter).took
  refine ⟨fun hinvalid => absurd hvalid hinvalid, htook ▸ hr.few, ?_, htook ▸ hcount,
    fun _ => hend.failed⟩
  rw [htook]
  cases destination with
  | none => rfl
  | some block => exact congrArg some hr.block

theorem room_getD (hvalid : p.bmxEsp32UartBufferValid destination length)
    (hroom : ∀ block ∈ destination, length.toInt ≤ block.length) :
    length.toInt ≤ (destination.getD []).length := by
  cases destination with
  | none =>
    obtain rfl : length = 0 := hvalid.2.2.resolve_right fun h => h rfl
    exact Int.le_refl 0
  | some block => exact hroom block rfl

theorem readBlocking_honest {fuel : Nat} (hroom : ∀ block ∈ destination, length.toInt ≤ block.length)
    (h : p.bmxEsp32UartReadBlocking script fuel destination length = some (ret, q')) :
    UartEntry.Honest script ⟨.readBlocking destination length, p, ret, q'⟩ ∧ ∃ xs, p.Grows xs q' := by
  unfold bmxEsp32UartReadBlocking at h
  split at h
  · next hinvalid =>
    obtain ⟨rfl, rfl⟩ := Prod.mk.inj (Option.some.inj h)
    exact ⟨⟨reads_nothing (.inr ⟨hinvalid, rfl⟩), fun hresult => absurd
      (show 0 ≤ uartInvalidArgument.toInt from hresult) (by decide)⟩, [], .rfl⟩
  · next hvalid =>
    have hvalid := not_not.mp hvalid
    split at h
    · next hzero =>
      obtain ⟨rfl, rfl⟩ := Prod.mk.inj (Option.some.inj h)
      exact ⟨⟨reads_nothing (.inl ⟨hvalid, rfl⟩), fun _ => hzero ▸ rfl⟩, [], .rfl⟩
    · obtain ⟨r, hloop, hcollect⟩ := Option.bind_eq_some_iff.mp h
      obtain ⟨rfl, hafter⟩ := collectRead_grows hcollect
      obtain ⟨hend, hfull⟩ := readBlocking_end (room_getD hvalid hroom) (toInt_nonneg hvalid) hloop
      obtain ⟨taken, hr, -⟩ := hend.ends
      exact ⟨⟨reads_of_end hvalid .rfl hend hafter, hfull⟩, _, hr.grows.then hafter⟩

theorem readTimeout_honest {fuel : Nat} {timeoutUs : UInt32}
    (hroom : ∀ block ∈ destination, length.toInt ≤ block.length)
    (h : p.bmxEsp32UartReadTimeoutUs script fuel destination length timeoutUs = some (ret, q')) :
    UartEntry.Honest script ⟨.readTimeoutUs destination length timeoutUs, p, ret, q'⟩ ∧
      ∃ xs, p.Grows xs q' := by
  unfold bmxEsp32UartReadTimeoutUs at h
  split at h
  · next hinvalid =>
    obtain ⟨rfl, rfl⟩ := Prod.mk.inj (Option.some.inj h)
    exact ⟨⟨reads_nothing (.inr ⟨hinvalid, rfl⟩), fun hresult => absurd
      (show 0 ≤ uartInvalidArgument.toInt from hresult) (by decide)⟩, [], .rfl⟩
  · next hvalid =>
    have hvalid := not_not.mp hvalid
    obtain ⟨r, hloop, hcollect⟩ := Option.bind_eq_some_iff.mp h
    obtain ⟨rfl, hafter⟩ := collectRead_grows hcollect
    obtain ⟨hend, hlate⟩ := readTimeout_end (room_getD hvalid hroom) hloop
    obtain ⟨taken, hr, -⟩ := hend.ends
    refine ⟨⟨reads_of_end hvalid next_grows hend hafter, fun hresult hless => ?_⟩, _,
      next_grows.trans (hr.grows.then hafter)⟩
    obtain ⟨k, hlow, hhigh, htime⟩ := (hlate hresult hless).mono hafter.moment
    exact ⟨k, next_moment.ge.trans hlow, hhigh, htime⟩

theorem readAvailable_honest {fuel : Nat}
    (hroom : ∀ block ∈ destination, length.toInt ≤ block.length)
    (h : p.bmxEsp32UartReadAvailable script fuel destination length = some (ret, q')) :
    UartEntry.Honest script ⟨.readAvailable destination length, p, ret, q'⟩ ∧
      ∃ xs, p.Grows xs q' := by
  unfold bmxEsp32UartReadAvailable at h
  split at h
  · next hinvalid =>
    obtain ⟨rfl, rfl⟩ := Prod.mk.inj (Option.some.inj h)
    exact ⟨reads_nothing (.inr ⟨hinvalid, rfl⟩), [], .rfl⟩
  · next hvalid =>
    have hvalid := not_not.mp hvalid
    split at h
    · obtain ⟨rfl, rfl⟩ := Prod.mk.inj (Option.some.inj h)
      exact ⟨reads_nothing (.inl ⟨hvalid, rfl⟩), [], .rfl⟩
    · next hzero =>
      have hless : 0 < length.toInt := by
        have := toInt_nonneg hvalid
        have : length.toInt ≠ 0 := fun hlength => hzero (Int32.toInt_inj.mp hlength)
        omega
      -- one wait is enough: it takes what is there, or an error
      have hend : ∃ more r, readMore script length ⟨0, destination.getD [], p⟩ = (more, r) ∧
          ReadEnd p (destination.getD []) length r := by
        have hstart : ReadsOn p (destination.getD []) length _ := readsOn_start
        obtain ⟨taken, hr, hcount⟩ := hstart
        rcases readMore_spec script hr hcount (room_getD hvalid hroom) hless with
          ⟨r, hmore, hfail, hr'⟩ | ⟨r, taken', hmore, hcount', hr'⟩
        · exact ⟨_, r, hmore, ⟨⟨taken, hr', by omega⟩, fun _ => hfail⟩⟩
        · exact ⟨_, r, hmore, hr'.end hcount'⟩
      obtain ⟨more, r, hmore, hend⟩ := hend
      rw [hmore] at h
      obtain ⟨p₁, hcollect, hret⟩ := Option.bind_eq_some_iff.mp h
      obtain ⟨rfl, rfl⟩ := Prod.mk.inj (Option.some.inj hret)
      have hafter := (collectEvents_grows hcollect).1
      obtain ⟨taken, hr, -⟩ := hend.ends
      exact ⟨reads_of_end hvalid .rfl hend hafter, _, hr.grows.then hafter⟩

variable (script) in
theorem isReadable_grows : p.Grows [] (p.bmxEsp32UartIsReadable script).2 ∧
    ((p.bmxEsp32UartIsReadable script).1 ≠ 0 →
      (p.bmxEsp32UartIsReadable script).2.buffered ≠ []) := by
  unfold bmxEsp32UartIsReadable
  split
  · exact ⟨.rfl, fun h => absurd rfl h⟩
  · refine ⟨next_grows, fun h => ?_⟩
    dsimp only at h
    split at h
    · next hreadable => exact hreadable.2
    · exact absurd rfl h

theorem isReadableWithin_honest {fuel : Nat} {timeoutUs : UInt32} {result : Int}
    (h : p.bmxEsp32UartIsReadableWithinUs script fuel timeoutUs = some (result, q')) :
    UartEntry.Honest script ⟨.isReadableWithinUs timeoutUs, p, ⟨result, none⟩, q'⟩ ∧
      p.Grows [] q' := by
  unfold bmxEsp32UartIsReadableWithinUs at h
  split at h
  · next hinitialized =>
    obtain ⟨rfl, rfl⟩ := Prod.mk.inj (Option.some.inj h)
    exact ⟨⟨Grows.rfl.took, fun h => absurd rfl h, fun h => absurd (hinitialized.symm.trans h)
      Bool.false_ne_true⟩, .rfl⟩
  · let deadline := (script p.moment).time + timeoutUs.toNat
    have hloop : (p.next script).Grows [] q' ∧ (result ≠ 0 → q'.buffered ≠ []) ∧
        (result = 0 → Late script deadline (p.next script) q') := by
      refine loop_sound (I := fun q => (p.next script).Grows [] q)
        (Q := fun r => (p.next script).Grows [] r.2 ∧ (r.1 ≠ 0 → r.2.buffered ≠ []) ∧
          (r.1 = 0 → Late script deadline (p.next script) r.2)) ?_ ?_ .rfl h
      · -- a pass that goes on takes nothing
        intro q q₁ hq hpass
        have hpass := Option.some.inj hpass
        obtain ⟨hgrows, -⟩ := isReadable_grows script (p := q)
        unfold isReadableWithinPass at hpass
        dsimp only at hpass
        split at hpass
        · exact nomatch hpass
        · split at hpass
          · exact nomatch hpass
          · obtain rfl := Pass.next.inj hpass
            exact (hq.then hgrows).then next_grows
      · -- the last one has found a byte, or looked at the clock too late
        intro q r hq hpass
        have hpass := Option.some.inj hpass
        obtain ⟨hgrows, hreadable⟩ := isReadable_grows script (p := q)
        unfold isReadableWithinPass at hpass
        dsimp only at hpass
        split at hpass
        · next hone =>
          obtain rfl := Pass.done.inj hpass
          exact ⟨hq.then hgrows, fun _ => hreadable (hone ▸ by decide),
            fun h => absurd (show (1 : Int) = 0 from h) (by decide)⟩
        · split at hpass
          · next htime =>
            obtain rfl := Pass.done.inj hpass
            refine ⟨(hq.then hgrows).then next_grows, fun h => absurd rfl h,
              fun _ => ⟨_, (hq.then hgrows).moment, ?_, htime⟩⟩
            rw [next_moment]
            exact Nat.lt_succ_self _
          · exact nomatch hpass
    obtain ⟨hgrows, hreadable, hlate⟩ := hloop
    have hall := next_grows.trans hgrows
    refine ⟨⟨hall.took, hreadable, fun _ hresult => ?_⟩, hall⟩
    obtain ⟨k, hlow, hhigh, htime⟩ := hlate hresult
    exact ⟨k, next_moment.ge.trans hlow, hhigh, htime⟩

theorem getErrors_honest {fuel : Nat} {errors : UInt32} (hsound : p.Sound)
    (h : p.bmxEsp32UartGetErrors script fuel = some (errors, q')) :
    UartEntry.Honest script ⟨.getErrors, p, ⟨errors.toNat, none⟩, q'⟩ ∧ p.Grows [] q' := by
  unfold bmxEsp32UartGetErrors at h
  split at h
  · next hinitialized =>
    obtain ⟨rfl, rfl⟩ := Prod.mk.inj (Option.some.inj h)
    exact ⟨⟨Grows.rfl.took, fun h => absurd (hinitialized.symm.trans h) Bool.false_ne_true⟩, .rfl⟩
  · obtain ⟨q, hcollect, hret⟩ := Option.bind_eq_some_iff.mp h
    obtain ⟨rfl, rfl⟩ := Prod.mk.inj (Option.some.inj hret)
    obtain ⟨hgrows, hempty⟩ := collectEvents_grows hcollect
    refine ⟨⟨hgrows.took, fun _ hclosed => ?_⟩, hgrows⟩
    have herrors := (hgrows.sound hsound).errors
    rw [hempty hclosed] at herrors
    rw [← herrors]
    exact congrArg (fun e : UInt32 => (e.toNat : Int)) UInt32.or_zero.symm

theorem clearErrors_honest {fuel : Nat}
    (h : p.bmxEsp32UartClearErrors script fuel = some q') :
    UartEntry.Honest script ⟨.clearErrors, p, ⟨0, none⟩, q'⟩ ∧ p.Grows [] q' := by
  unfold bmxEsp32UartClearErrors at h
  split at h
  · next hinitialized =>
    obtain rfl := Option.some.inj h
    exact ⟨⟨Grows.rfl.took, fun h => absurd (hinitialized.symm.trans h) Bool.false_ne_true⟩, .rfl⟩
  · obtain ⟨q, hcollect, hret⟩ := Option.bind_eq_some_iff.mp h
    obtain rfl := Option.some.inj hret
    obtain ⟨hgrows, hempty⟩ := collectEvents_grows hcollect
    have hclear : q.Grows [] { q with
        errors := 0, since := q.events.map bmxEsp32UartEventError } :=
      ⟨fun hq => ⟨hq.whole, UInt32.zero_or⟩, (List.append_nil _).symm, rfl, rfl, Nat.le_refl _⟩
    refine ⟨⟨(hgrows.then hclear).took, fun _ hclosed => ?_⟩, hgrows.then hclear⟩
    exact congrArg (List.map bmxEsp32UartEventError) (hempty hclosed)

theorem flushInput_honest {fuel : Nat} {result : Int}
    (h : p.bmxEsp32UartFlushInput script fuel = some (result, q')) :
    UartEntry.Honest script ⟨.flushInput, p, ⟨result, none⟩, q'⟩ ∧ p.Grows [] q' := by
  have hgrows : p.Grows [] q' := by
    unfold bmxEsp32UartFlushInput at h
    split at h
    · obtain ⟨rfl, rfl⟩ := Prod.mk.inj (Option.some.inj h)
      exact .rfl
    · dsimp only at h
      split at h
      · obtain ⟨rfl, rfl⟩ := Prod.mk.inj (Option.some.inj h)
        exact next_grows
      · obtain ⟨q, hcollect, hret⟩ := Option.bind_eq_some_iff.mp h
        obtain ⟨rfl, rfl⟩ := Prod.mk.inj (Option.some.inj hret)
        exact (next_grows.then (take_grows .flush _)).then (collectEvents_grows hcollect).1
  exact ⟨hgrows.took, hgrows⟩

/-- What each call tells, and that no byte is lost in it. -/
theorem call_honest {fuel : Nat} (hsound : p.Sound) (hroom : call.HasRoom)
    (h : call.run script fuel p = some (ret, q')) :
    UartEntry.Honest script ⟨call, p, ret, q'⟩ ∧ ∃ xs, p.Grows xs q' := by
  cases call with
  | readBlocking destination length => exact readBlocking_honest hroom h
  | readTimeoutUs destination length timeoutUs => exact readTimeout_honest hroom h
  | readAvailable destination capacity => exact readAvailable_honest hroom h
  | isReadable =>
    obtain ⟨rfl, rfl⟩ := Prod.mk.inj (Option.some.inj h)
    obtain ⟨hgrows, hreadable⟩ := isReadable_grows script (p := p)
    exact ⟨⟨hgrows.took, hreadable⟩, _, hgrows⟩
  | isReadableWithinUs timeoutUs =>
    obtain ⟨r, hr, hret⟩ := Option.map_eq_some_iff.mp h
    obtain ⟨rfl, rfl⟩ := Prod.mk.inj hret
    exact (isReadableWithin_honest hr).imp_right fun hgrows => ⟨_, hgrows⟩
  | getErrors =>
    obtain ⟨r, hr, hret⟩ := Option.map_eq_some_iff.mp h
    obtain ⟨rfl, rfl⟩ := Prod.mk.inj hret
    exact (getErrors_honest hsound hr).imp_right fun hgrows => ⟨_, hgrows⟩
  | clearErrors =>
    obtain ⟨q, hr, hret⟩ := Option.map_eq_some_iff.mp h
    obtain ⟨rfl, rfl⟩ := Prod.mk.inj hret
    exact (clearErrors_honest hr).imp_right fun hgrows => ⟨_, hgrows⟩
  | flushInput =>
    obtain ⟨r, hr, hret⟩ := Option.map_eq_some_iff.mp h
    obtain ⟨rfl, rfl⟩ := Prod.mk.inj hret
    exact (flushInput_honest hr).imp_right fun hgrows => ⟨_, hgrows⟩

end Calls

/-! ### Runs -/

variable {script : Nat → UartMoment} {s s' : UartInputSystem}

theorem UartInputSafe.step (h : UartInputSafe script s) {a : UartInputAction}
    (hs : s.step script a = some s') : UartInputSafe script s' := by
  cases a with
  | session isOpen =>
    obtain rfl := Option.some.inj hs
    exact ⟨h.whole, h.polled, h.errors, h.honest⟩
  | call fuel call =>
    simp only [UartInputSystem.step] at hs
    split at hs
    · next hroom =>
      obtain ⟨⟨ret, after⟩, hrun, rfl⟩ := Option.map_eq_some_iff.mp hs
      have hsound : s.input.Sound := ⟨h.whole, h.errors⟩
      obtain ⟨hhonest, xs, hgrows⟩ := call_honest hsound hroom hrun
      have hafter := hgrows.sound hsound
      refine ⟨hafter.whole, ?_, hafter.errors, ?_⟩
      · rw [List.flatMap_append, List.flatMap_singleton, hgrows.took, ← h.polled]
        exact hgrows.polled
      · intro e he
        rcases List.mem_append.mp he with he | he
        · exact h.honest e he
        · exact List.mem_singleton.mp he ▸ hhonest
    · exact nomatch hs

/-- **Nothing is lost between the driver and the program.**  In every run, whatever arrives
whenever, and however the driver cuts it: each byte is taken once and in order, by a call, the
worker or a flush, or waits; the bytes that calls took are at the front of their blocks, and are
counted unless the call failed; a blocking read is full and a timed one full or late; and the
error flags are those of all that was reported since they were cleared. -/
theorem uart_input (h : (uartInputMachine script).Reachable s) : UartInputSafe script s := by
  refine h.invariant ?_ fun s a s' hs _ hstep => hs.step hstep
  rintro s ⟨initialized, moment, rfl⟩
  exact ⟨rfl, rfl, UInt32.zero_or, fun e he => nomatch he⟩

/-! ### Calls come to an end -/

/-- The events that are queued at `n` driver calls from `k` on. -/
def queuedFrom (script : Nat → UartMoment) (k : Nat) : Nat → Nat
  | 0 => 0
  | n + 1 => queuedFrom script k n + (script (k + n)).queues.length

/-- The clock goes on, and events are not queued faster than they are collected: however many there
are, some calls later there have been more calls than events. -/
structure UartLively (script : Nat → UartMoment) : Prop where
  clock : ∀ time, ∃ n, ∀ k, n ≤ k → time ≤ (script k).time
  calms : ∀ k events, ∃ n, events + queuedFrom script k (n + 1) ≤ n

/-- The variables of a blocking read when it calls `uart_read_bytes` once more, after `n` calls. -/
def afterReads (script : Nat → UartMoment) (length : Int32) (r : UartReading) : Nat →
    Option UartReading
  | 0 => some r
  | n + 1 =>
    match UartInput.readBlockingPass script length r with
    | .next r => afterReads script length r n
    | .done _ => none

/-- Each `uart_read_bytes` of the read, which waits without end, has -1 or at least one byte. -/
def UartReading.Waits (script : Nat → UartMoment) (length : Int32) (r : UartReading) : Prop :=
  ∀ n r', afterReads script length r n = some r' → r'.count < length.toInt →
    (r'.port.uartReadBytes script (length.toInt - r'.count).toNat).1 ≠ some []

/-- A blocking read waits for its bytes. -/
def UartInputCall.Waits (script : Nat → UartMoment) (p : UartInput) : UartInputCall → Prop
  | .readBlocking destination length =>
    UartReading.Waits script length ⟨0, destination.getD [], p⟩
  | _ => True

section Ends

open UartInput

variable {p : UartInput} {destination : Option (List UInt8)} {length : Int32} {r : UartReading}

variable (script) in
theorem next_events (hclosed : p.asyncOpen = false) :
    (p.next script).events = p.events ++ (script p.moment).queues := by
  rw [next, if_neg (hclosed ▸ Bool.false_ne_true)]
  rfl

/-- After `n` events have been collected, what waits is what has come in meanwhile. -/
theorem collectEvents_ends (hlively : UartLively script) (p : UartInput) :
    Ends fun fuel => p.bmxEsp32UartCollectEvents script fuel := by
  unfold bmxEsp32UartCollectEvents
  cases hopen : p.asyncOpen with
  | true => exact .of_some _
  | false =>
    obtain ⟨n, hn⟩ := hlively.calms p.moment p.events.length
    let I : UartInput → Prop := fun q => q.asyncOpen = false ∧ ∃ j, j ≤ n ∧
      q.moment = p.moment + j ∧
      q.events.length + j = p.events.length + queuedFrom script p.moment j
    have hstart : I p := ⟨hopen, 0, Nat.zero_le _, rfl, rfl⟩
    refine .of_loop (I := I) (fun q => p.moment + n - q.moment) ?_ hstart
    rintro q ⟨hclosed, j, hj, hmoment, hevents⟩
    cases hnext : (q.next script).events with
    | nil => exact .inr ⟨_, congrArg some (collectPass_empty hnext)⟩
    | cons event events =>
      have hlength := congrArg List.length (next_events script hclosed)
      rw [hnext, List.length_cons, List.length_append, hmoment] at hlength
      have hless : j < n := by
        refine Nat.lt_of_le_of_ne hj fun heq => ?_
        subst heq
        rw [queuedFrom] at hn
        omega
      refine .inl ⟨_, congrArg some (collectPass_event hnext),
        ⟨next_grows.asyncOpen.trans hclosed, j + 1, hless, ?_, ?_⟩, ?_⟩
      · show (q.next script).moment = _
        rw [next_moment, hmoment, Nat.add_assoc]
      · show events.length + (j + 1) = _ + (_ + _)
        omega
      · show p.moment + n - (q.next script).moment < _
        rw [next_moment]
        omega

variable (script) in
theorem readBytes_moment (length : Nat) :
    (p.uartReadBytes script length).2.moment = p.moment + 1 := by
  unfold uartReadBytes
  split
  · exact next_moment
  · exact next_moment

variable (script) in
theorem readMore_moment (length : Int32) (r : UartReading) :
    (readMore script length r).2.port.moment = r.port.moment + 1 := by
  have hmoment := readBytes_moment script (p := r.port) (length.toInt - r.count).toNat
  unfold readMore
  revert hmoment
  rcases r.port.uartReadBytes script (length.toInt - r.count).toNat with ⟨_ | bytes, port⟩ <;>
    exact id

/-- A loop whose passes each have more driver calls behind them ends before driver call `n`. -/
theorem readTimeout_ends (hlively : UartLively script) (length : Int32) (deadline : Int)
    (r : UartReading) :
    Ends fun fuel => loop (fun r => some (readTimeoutPass script length deadline r)) fuel r := by
  obtain ⟨n, hn⟩ := hlively.clock deadline
  refine .of_loop (I := fun _ => True) (fun r => n + 1 - r.port.moment) (fun r _ => ?_) trivial
  unfold readTimeoutPass
  split
  · have hmoment := readMore_moment script length r
    revert hmoment
    rcases readMore script length r with ⟨_ | count, r₁⟩
    · exact fun _ => .inr ⟨_, rfl⟩
    · intro hmoment
      dsimp only at hmoment ⊢
      split
      · exact .inr ⟨_, rfl⟩
      · split
        · exact .inr ⟨_, rfl⟩
        · next hearly =>
          have hless : r₁.port.moment < n := Nat.lt_of_not_le fun hle => hearly (hn _ hle)
          refine .inl ⟨_, rfl, trivial, ?_⟩
          show n + 1 - (r₁.port.next script).moment < _
          rw [next_moment]
          omega
  · exact .inr ⟨_, rfl⟩

theorem isReadableWithin_ends (hlively : UartLively script) (deadline : Int) (p : UartInput) :
    Ends fun fuel => loop (fun p => some (isReadableWithinPass script deadline p)) fuel p := by
  obtain ⟨n, hn⟩ := hlively.clock deadline
  refine .of_loop (I := fun _ => True) (fun p => n + 1 - p.moment) (fun p _ => ?_) trivial
  obtain ⟨hgrows, -⟩ := isReadable_grows script (p := p)
  unfold isReadableWithinPass
  dsimp only
  split
  · exact .inr ⟨_, rfl⟩
  · split
    · exact .inr ⟨_, rfl⟩
    · next hearly =>
      have hless : (p.bmxEsp32UartIsReadable script).2.moment < n :=
        Nat.lt_of_not_le fun hle => hearly (hn _ hle)
      have hmoment := hgrows.moment
      refine .inl ⟨_, rfl, trivial, ?_⟩
      rw [next_moment]
      omega

/-- What a pass leaves waits for the rest. -/
theorem UartReading.Waits.next {r' : UartReading} (h : r.Waits script length)
    (hpass : readBlockingPass script length r = .next r') : r'.Waits script length := by
  intro n r'' hreads
  refine h (n + 1) r'' ?_
  rw [afterReads, hpass]
  exact hreads

/-- A read that waits has at least one byte more after each pass. -/
theorem readBlocking_ends (hwaits : r.Waits script length) :
    Ends fun fuel => loop (fun r => some (readBlockingPass script length r)) fuel r := by
  refine .of_loop (fun r => (length.toInt - r.count).toNat) (fun r hr => ?_) hwaits
  cases hpass : readBlockingPass script length r with
  | done r' => exact .inr ⟨r', rfl⟩
  | next r' =>
    refine .inl ⟨r', rfl, hr.next hpass, ?_⟩
    unfold readBlockingPass at hpass
    split at hpass
    · next hless =>
      have hsome := hr 0 r rfl hless
      unfold readMore at hpass
      revert hsome hpass
      rcases r.port.uartReadBytes script (length.toInt - r.count).toNat with ⟨_ | bytes, port⟩
      · intro hpass
        cases hpass
      · intro hpass hsome
        obtain rfl := Pass.next.inj hpass
        have hpos := List.length_pos_iff.mpr (mt (congrArg some) hsome)
        show (length.toInt - (r.count + bytes.length)).toNat < _
        omega
    · cases hpass

theorem collectRead_ends (hlively : UartLively script) (destination : Option (List UInt8))
    (r : UartReading) : Ends fun fuel => collectRead script fuel destination r := by
  unfold collectRead
  split
  · exact (collectEvents_ends hlively r.port).bind fun _ => .of_some _
  · exact .of_some _

/-- **Each call returns**: one with a deadline when the clock has passed it, a blocking read if each
of its waits ends with a byte or an error, whoever else takes bytes meanwhile. -/
theorem uart_input_returns (hlively : UartLively script) (p : UartInput) (call : UartInputCall)
    (hwaits : call.Waits script p) :
    ∃ fuel r, ∀ more, fuel ≤ more → call.run script more p = some r := by
  -- each call is a loop that ends, and then the queue is read, which ends too
  have hcollect := fun p => collectEvents_ends hlively p
  show Ends fun fuel => call.run script fuel p
  cases call with
  | readBlocking destination length =>
    simp only [UartInputCall.run, bmxEsp32UartReadBlocking]
    split
    · exact .of_some _
    · split
      · exact .of_some _
      · exact (readBlocking_ends hwaits).bind fun r => collectRead_ends hlively _ r
  | readTimeoutUs destination length timeoutUs =>
    simp only [UartInputCall.run, bmxEsp32UartReadTimeoutUs]
    split
    · exact .of_some _
    · exact (readTimeout_ends hlively _ _ _).bind fun r => collectRead_ends hlively _ r
  | readAvailable destination capacity =>
    simp only [UartInputCall.run, bmxEsp32UartReadAvailable]
    split
    · exact .of_some _
    · split
      · exact .of_some _
      · exact (hcollect _).bind fun _ => .of_some _
  | isReadable => exact .of_some _
  | isReadableWithinUs timeoutUs =>
    simp only [UartInputCall.run, bmxEsp32UartIsReadableWithinUs]
    split
    · exact .of_some _
    · exact (isReadableWithin_ends hlively _ _).map _
  | getErrors =>
    simp only [UartInputCall.run, bmxEsp32UartGetErrors]
    split
    · exact .of_some _
    · exact ((hcollect _).bind fun _ => .of_some _).map _
  | clearErrors =>
    simp only [UartInputCall.run, bmxEsp32UartClearErrors]
    split
    · exact .of_some _
    · exact ((hcollect _).bind fun _ => .of_some _).map _
  | flushInput =>
    simp only [UartInputCall.run, bmxEsp32UartFlushInput]
    split
    · exact .of_some _
    · split
      · exact .of_some _
      · exact ((hcollect _).bind fun _ => .of_some _).map _

/-- Two bytes wait, a session is open, and the third byte comes with the second wait. -/
theorem uart_input_returns_buffered : ∃ fuel r, ∀ more, fuel ≤ more →
    (UartInputCall.readBlocking (some [0, 0, 0]) 3).run
      (fun k => { arrives := if k = 1 then [3] else [], takes := some 2, time := k }) more
      ⟨true, true, 0, [1, 2], [], 0, [], [], []⟩ = some r := by
  have hqueued : ∀ k n, queuedFrom (fun k =>
      { arrives := if k = 1 then [3] else [], takes := some 2, time := (k : Int) }) k n = 0 := by
    intro k n
    induction n with
    | zero => rfl
    | succ n ih => rw [queuedFrom, ih]; rfl
  refine uart_input_returns ⟨fun time => ⟨time.toNat, fun k hk => ?_⟩, fun k events =>
    ⟨events, by rw [hqueued, Nat.add_zero]⟩⟩ _ _ fun n r hreads hless => ?_
  · show time ≤ (k : Int)
    omega
  · rcases n with _ | _ | _ | n
    · obtain rfl := Option.some.inj hreads
      decide
    · obtain rfl := Option.some.inj hreads
      decide
    · obtain rfl := Option.some.inj hreads
      exact absurd hless (by decide)
    · cases hreads

end Ends

/-- Three bytes arrive with a framing error and a break; a timed read has two of them, the next one
is late, and after the errors have been cleared a blocking read needs a driver call more than its
bytes. -/
def uartScript : Nat → UartMoment
  | 0 => { arrives := [1, 2, 3], queues := [.frameErr, .lineBreak], time := 10 }
  | 1 => { takes := some 9, time := 12 }
  | 6 => { time := 40 }
  | 7 => { takes := some 9 }
  | 8 => { time := 50 }
  | 11 => { takes := some 0 }
  | 12 => { arrives := [4], takes := some 9, queues := [.data] }
  | _ => { time := 20 }

theorem uart_input_script : ∃ s, (uartInputMachine uartScript).Reachable s ∧
    s.log.map UartEntry.ret = [⟨2, some [1, 2]⟩, ⟨5, none⟩, ⟨1, some [3, 0]⟩, ⟨0, none⟩,
      ⟨1, some [4]⟩] ∧ UartInputSafe uartScript s := by
  obtain ⟨s, hs, hlog⟩ := Machine.exists_reachable_of_run (M := uartInputMachine uartScript)
    [.call 9 (.readTimeoutUs (some [0, 0]) 2 5), .call 9 .getErrors,
      .call 9 (.readTimeoutUs (some [0, 0]) 2 5), .call 9 .clearErrors,
      .call 9 (.readBlocking (some [0]) 1)]
    (fun s => s.log.map UartEntry.ret = [⟨2, some [1, 2]⟩, ⟨5, none⟩, ⟨1, some [3, 0]⟩, ⟨0, none⟩,
      ⟨1, some [4]⟩])
    (s := ⟨⟨true, false, 0, [], [], 0, [], [], []⟩, []⟩) ⟨_, _, rfl⟩ (by decide)
  exact ⟨s, hs, of_decide_eq_true hlog, uart_input hs⟩

end Esp32Mod
