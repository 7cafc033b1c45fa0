/-
Esp32Mod/RmtReceive.lean

The receive side of the RMT adapter (`hardware.mod/rmt.mod/native/esp32_rmt.c`): a task starts
receive jobs, polls them and reads their frames, and the receive-done interrupt publishes a frame
in two stores, the count and then `ready`.

The task and the interrupt interleave between any two accesses to the atomics; a step of the task
is one of them, with the plain accesses next to it.  The buffer belongs to the hardware while a
job is armed: it may write any of its words until the interrupt fires, and the copy of
`read_received` goes word by word.

The log keeps what the protocol is about: successful starts, completed frames, successful reads.
They come in rounds of three (`RmtRounds`), and where the log stands in its round says who may do
what.  That is the invariant, and the main result `rmt_receive` reads everything off it.

Only the task acts between the publication of a frame and its read, so `TRMTReceiver.ReadSymbols`,
which makes three calls, is the sequence of them; `readSymbols_published` says what it returns.
-/
import Esp32Mod.StepMachine
import Esp32Mod.Errors
import Mathlib.Data.List.TakeDrop
import Mathlib.Algebra.Order.Ring.Nat

namespace Esp32Mod

open StepMachine Machine

/-! ### The receiver -/

/-- The words of a received frame; `num_symbols` is their number. -/
structure RmtFrame where
  words : List UInt32
  small : words.length < 2 ^ 32

/-- `num_symbols`. -/
def RmtFrame.numSymbols (frame : RmtFrame) : UInt32 := UInt32.ofNat frame.words.length

/-- `BMXRMTReceiver`; its capacity is a parameter. -/
structure BMXRMTReceiver where
  symbols : List UInt32
  count : UInt32
  ready : Bool
  receiving : Bool

/-- Where the task is in its call, if it is in one. -/
inductive RmtTask
  | idle
  /-- `start_receive` has stored the count. -/
  | startReady
  /-- `start_receive` calls the driver. -/
  | startDriver
  /-- `received_count` has seen that a frame is ready. -/
  | loadCount
  /-- So has `read_received`. -/
  | readCount (words : Bool) (capacity : UInt32)
  /-- `read_received` is copying. -/
  | readCopy (count : UInt32) (copied : List UInt32)

/-- How far the callback of the driver has come. -/
inductive RmtIsr
  | idle
  | storeCount (numSymbols : UInt32)
  | storeReady

/-- What the calls return. -/
inductive RmtReturn
  | start (result : EspErr)
  | ready (result : Int32)
  | count (result : UInt32)
  | read (result : EspErr)
  deriving DecidableEq

/-- A successful start, a completed frame, a successful read. -/
inductive RmtEvent
  | started
  | completed (frame : RmtFrame)
  | read (words : List UInt32)

/-- `armed` counts the jobs the driver has accepted and not completed.  The log has its newest
event first. -/
structure RmtSystem where
  receiver : BMXRMTReceiver
  task : RmtTask
  isr : RmtIsr
  armed : Nat
  returned : Option RmtReturn
  log : List RmtEvent

/-- The steps of the application and of the driver. -/
inductive RmtAction
  | startReceive (handle : Bool) (minimumNs maximumNs : UInt32)
  | receiveReady (handle : Bool)
  | receivedCount (handle : Bool)
  | readReceived (handle words : Bool) (capacity : UInt32)
  /-- The next step of the call; `result` is for `rmt_receive`. -/
  | task (result : EspErr)
  | hardware (i : Nat) (word : UInt32)
  | receiveDone (frame : RmtFrame)
  | isr

namespace RmtSystem

/-- The call returns. -/
def ret (s : RmtSystem) (r : RmtReturn) : RmtSystem :=
  { s with task := .idle, returned := some r }

/-! ### Calls

The first step of each, up to its first access to an atomic. -/

/-- The counter is reset before the flag, and the driver asked last. -/
def bmxEsp32RmtStartReceive (s : RmtSystem) (handle : Bool) (minimumNs maximumNs : UInt32) :
    RmtSystem :=
  if handle = false ∨ s.receiver.receiving = true ∨ minimumNs = 0 ∨ maximumNs ≤ minimumNs then
    s.ret (.start espErrInvalidArg)
  else { s with receiver.count := 0, task := .startReady }

/-- One load of the flag. -/
def bmxEsp32RmtReceiveReady (s : RmtSystem) (handle : Bool) : RmtSystem :=
  s.ret (.ready (if handle = true ∧ s.receiver.ready = true then 1 else 0))

/-- The counter is read after the flag. -/
def bmxEsp32RmtReceivedCount (s : RmtSystem) (handle : Bool) : RmtSystem :=
  if handle = false ∨ s.receiver.ready = false then s.ret (.count 0)
  else { s with task := .loadCount }

/-- The counter and the symbols are read after the flag. -/
def bmxEsp32RmtReadReceived (s : RmtSystem) (handle words : Bool) (capacity : UInt32) :
    RmtSystem :=
  if handle = false ∨ s.receiver.ready = false then s.ret (.read espErrInvalidState)
  else { s with task := .readCount words capacity }

section Steps

variable (capacity : UInt32)

/-- A call goes on. -/
def taskStep (s : RmtSystem) (result : EspErr) : Option RmtSystem :=
  match s.task with
  | .idle => none
  | .startReady =>
    some { s with receiver.ready := false, receiver.receiving := true, task := .startDriver }
  | .startDriver =>
    if result = espOk then
      some { s.ret (.start result) with armed := s.armed + 1, log := .started :: s.log }
    else some { s.ret (.start result) with receiver.receiving := false }
  | .loadCount => some (s.ret (.count s.receiver.count))
  | .readCount words destination =>
    let count := s.receiver.count
    if capacity < count ∨ destination < count ∨ (count ≠ 0 ∧ words = false) then
      some (s.ret (.read espErrInvalidSize))
    else some { s with task := .readCopy count [] }
  | .readCopy count copied =>
    if copied.length < count.toNat then
      let word := s.receiver.symbols[copied.length]?.getD 0
      some { s with task := .readCopy count (copied ++ [word]) }
    else
      some { s.ret (.read espOk) with
        receiver.receiving := false, receiver.ready := false, log := .read copied :: s.log }

/-- `bmx_rmt_receive_done`, after the hardware has completed the frame. -/
def isrStep (s : RmtSystem) : Option RmtSystem :=
  match s.isr with
  | .idle => none
  | .storeCount numSymbols =>
    let count := if capacity < numSymbols then capacity else numSymbols
    some { s with receiver.count := count, isr := .storeReady }
  | .storeReady => some { s with receiver.ready := true, isr := .idle }

/-- The frame is in the buffer, as far as it fits, and the interrupt fires. -/
def receiveDone (s : RmtSystem) (frame : RmtFrame) : RmtSystem :=
  { s with
    receiver.symbols := frame.words.take s.receiver.symbols.length ++
      s.receiver.symbols.drop frame.words.length
    armed := s.armed - 1
    isr := .storeCount frame.numSymbols
    log := .completed frame :: s.log }

end Steps

end RmtSystem

/-- A receiver that has just been made. -/
def rmtReset (capacity : UInt32) : RmtSystem where
  receiver := {
    symbols := List.replicate capacity.toNat 0
    count := 0
    ready := false
    receiving := false }
  task := .idle
  isr := .idle
  armed := 0
  returned := none
  log := []

/-- A call begins when none is in progress; `next` is where its first step leads. -/
def RmtSystem.call (s next : RmtSystem) : Option RmtSystem :=
  match s.task with
  | .idle => some next
  | _ => none

/-- The hardware and the interrupt act for an armed job. -/
def rmtStep (capacity : UInt32) (s : RmtSystem) : RmtAction → Option RmtSystem
  | .startReceive handle minimumNs maximumNs =>
    s.call (s.bmxEsp32RmtStartReceive handle minimumNs maximumNs)
  | .receiveReady handle => s.call (s.bmxEsp32RmtReceiveReady handle)
  | .receivedCount handle => s.call (s.bmxEsp32RmtReceivedCount handle)
  | .readReceived handle words destination =>
    s.call (s.bmxEsp32RmtReadReceived handle words destination)
  | .task result => s.taskStep capacity result
  | .hardware i word =>
    if s.armed = 0 then none
    else some { s with receiver.symbols := s.receiver.symbols.set i word }
  | .receiveDone frame =>
    match s.isr with
    | .idle => if s.armed = 0 then none else some (s.receiveDone frame)
    | _ => none
  | .isr => s.isrStep capacity

/-- Any interleaving of calls and callbacks. -/
def rmtMachine (capacity : UInt32) : Machine RmtSystem RmtAction where
  init s := s = rmtReset capacity
  step := rmtStep capacity

/-! ### `TRMTReceiver.ReadSymbols` -/

namespace RmtSystem

/-- The task goes on until its call returns, in at most `fuel` steps. -/
def finish (capacity : UInt32) : Nat → RmtSystem → Option RmtSystem
  | 0, s =>
    match s.task with
    | .idle => some s
    | _ => none
  | fuel + 1, s =>
    match s.task with
    | .idle => some s
    | _ => (s.taskStep capacity espOk).bind (finish capacity fuel)

/-- What the last call has returned, if that was `received_count`. -/
def returnedCount (s : RmtSystem) : UInt32 :=
  match s.returned with
  | some (.count count) => count
  | _ => 0

/-- The words that the last read has copied. -/
def lastRead (s : RmtSystem) : List UInt32 :=
  match s.log with
  | .read words :: _ => words
  | _ => []

/-- The three calls of `ReadSymbols`, one after the other; the first component is the array, with
`none` for `Null`.  The array that is passed on has as many words as the frame, and `Varptr` is
taken only if it has any. -/
def readSymbols (capacity : UInt32) (s : RmtSystem) (handle : Bool) :
    Option (Option (List UInt32) × RmtSystem) :=
  let s := s.bmxEsp32RmtReceiveReady handle
  if s.returned = some (.ready 0) then some (none, s)
  else
    (finish capacity 1 (s.bmxEsp32RmtReceivedCount handle)).bind fun s =>
      let count := s.returnedCount
      (finish capacity (count.toNat + 2)
        (s.bmxEsp32RmtReadReceived handle (count != 0) count)).map fun s =>
          if s.returned = some (.read espOk) then (some s.lastRead, s) else (none, s)

end RmtSystem

/-! ### Rounds -/

/-- What the log has to come to next: a start, a frame, or its read. -/
inductive RmtJob
  | free
  | armed
  | completed (frame : RmtFrame)

/-- The words that `read_received` has to give. -/
def RmtFrame.delivered (frame : RmtFrame) (capacity : UInt32) : List UInt32 :=
  frame.words.take capacity.toNat

/-- Rounds of a start, the frame it is for and the read of that. -/
inductive RmtRounds (capacity : UInt32) : RmtJob → List RmtEvent → Prop
  | nil : RmtRounds capacity .free []
  | started {log} : RmtRounds capacity .free log → RmtRounds capacity .armed (.started :: log)
  | completed {log} (frame : RmtFrame) : RmtRounds capacity .armed log →
      RmtRounds capacity (.completed frame) (.completed frame :: log)
  | read {frame log} : RmtRounds capacity (.completed frame) log →
      RmtRounds capacity .free (.read (frame.delivered capacity) :: log)

namespace RmtRounds

variable {capacity : UInt32} {job : RmtJob} {log newer older : List RmtEvent}

/-- An older part of the log is made of rounds too. -/
theorem suffix (h : RmtRounds capacity job log) (hlog : log = newer ++ older) :
    ∃ job', RmtRounds capacity job' older := by
  induction newer generalizing job log with
  | nil => exact ⟨job, by rwa [hlog] at h⟩
  | cons e newer ih =>
    rw [hlog] at h
    cases h with
    | started h => exact ih h rfl
    | completed frame h => exact ih h rfl
    | read h => exact ih h rfl

/-- A start is the first event, or comes right after a read. -/
theorem before_started (h : RmtRounds capacity job log) (hlog : log = newer ++ .started :: older) :
    older = [] ∨ ∃ words earlier, older = .read words :: earlier := by
  obtain ⟨job', h'⟩ := h.suffix hlog
  cases h' with
  | started h =>
    cases h with
    | nil => exact .inl rfl
    | read h => exact .inr ⟨_, _, rfl⟩

/-- A frame is that of the start right before it. -/
theorem before_completed {frame : RmtFrame} (h : RmtRounds capacity job log)
    (hlog : log = newer ++ .completed frame :: older) : ∃ earlier, older = .started :: earlier := by
  obtain ⟨job', h'⟩ := h.suffix hlog
  cases h' with
  | completed _ h =>
    cases h with
    | started h => exact ⟨_, rfl⟩

/-- A read is that of the frame right before it. -/
theorem before_read {words : List UInt32} (h : RmtRounds capacity job log)
    (hlog : log = newer ++ .read words :: older) :
    ∃ frame earlier, older = .completed frame :: .started :: earlier ∧
      words = frame.delivered capacity := by
  obtain ⟨job', h'⟩ := h.suffix hlog
  cases h' with
  | read h =>
    cases h with
    | completed _ h =>
      cases h with
      | started h => exact ⟨_, _, rfl, rfl⟩

/-- Nothing but its read follows a frame. -/
theorem after_completed {e : RmtEvent} {frame : RmtFrame} (h : RmtRounds capacity job log)
    (hlog : log = newer ++ e :: .completed frame :: older) :
    e = .read (frame.delivered capacity) := by
  obtain ⟨job', h'⟩ := h.suffix hlog
  cases h' with
  | started h => cases h
  | completed _ h => cases h
  | read h =>
    cases h with
    | completed _ h => rfl

end RmtRounds

/-! ### The invariant -/

/-- The count that the interrupt stores. -/
def clampedCount (capacity numSymbols : UInt32) : UInt32 :=
  if capacity < numSymbols then capacity else numSymbols

theorem delivered_length (capacity : UInt32) (frame : RmtFrame) :
    (frame.delivered capacity).length = (clampedCount capacity frame.numSymbols).toNat := by
  have hnum : frame.numSymbols.toNat = frame.words.length := by
    rw [RmtFrame.numSymbols, UInt32.toNat_ofNat']
    exact Nat.mod_eq_of_lt frame.small
  rw [RmtFrame.delivered, List.length_take, clampedCount]
  split
  next h =>
    rw [UInt32.lt_iff_toNat_lt, hnum] at h
    omega
  next h =>
    rw [UInt32.lt_iff_toNat_lt, hnum] at h
    omega

/-- A call that has seen `ready`. -/
def RmtTask.Reading : RmtTask → Prop
  | .loadCount | .readCount _ _ | .readCopy _ _ => True
  | .idle | .startReady | .startDriver => False

/-- A call that will arm a job. -/
def RmtTask.Starting : RmtTask → Prop
  | .startReady | .startDriver => True
  | .idle | .loadCount | .readCount _ _ | .readCopy _ _ => False

/-- What the steps of a call rely on once `ready` is stored. -/
inductive RmtTask.Reads (words : List UInt32) (count : UInt32) : RmtTask → Prop
  | idle : Reads words count .idle
  | loadCount : Reads words count .loadCount
  | readCount (nonNull : Bool) (capacity : UInt32) : Reads words count (.readCount nonNull capacity)
  | readCopy (n : Nat) (h : n ≤ words.length) : Reads words count (.readCopy count (words.take n))

theorem RmtTask.Reads.not_starting {words : List UInt32} {count : UInt32} {task : RmtTask}
    (h : task.Reads words count) : ¬ task.Starting := by
  cases h <;> exact id

/-- The interrupt has the frame, and the task waits for it; or the frame is published. -/
inductive RmtPublishes (capacity : UInt32) (frame : RmtFrame) (s : RmtSystem) : Prop
  | count (hisr : s.isr = .storeCount frame.numSymbols) (hready : s.receiver.ready = false)
      (htask : s.task = .idle)
  | ready (hisr : s.isr = .storeReady) (hready : s.receiver.ready = false) (htask : s.task = .idle)
      (hcount : s.receiver.count = clampedCount capacity frame.numSymbols)
  | done (hisr : s.isr = .idle) (hready : s.receiver.ready = true)
      (hcount : s.receiver.count = clampedCount capacity frame.numSymbols)
      (htask : s.task.Reads (frame.delivered capacity) s.receiver.count)

/-- `start_receive`, before the driver has accepted the job. -/
inductive RmtStarts (s : RmtSystem) : Prop
  | idle (htask : s.task = .idle) (hreceiving : s.receiver.receiving = false)
  | ready (htask : s.task = .startReady) (hreceiving : s.receiver.receiving = false)
  | driver (htask : s.task = .startDriver) (hreceiving : s.receiver.receiving = true)

/-- The receiver at each point of a round. -/
def RmtSystem.At (capacity : UInt32) (s : RmtSystem) : RmtJob → Prop
  | .free => s.armed = 0 ∧ s.isr = .idle ∧ s.receiver.ready = false ∧ RmtStarts s
  | .armed => s.armed = 1 ∧ s.isr = .idle ∧ s.receiver.ready = false ∧
      s.receiver.receiving = true ∧ s.task = .idle
  | .completed frame => s.armed = 0 ∧ s.receiver.receiving = true ∧
      s.receiver.symbols.take (frame.delivered capacity).length = frame.delivered capacity ∧
      RmtPublishes capacity frame s

/-- The size of the buffer, and the round that the log has come to. -/
structure RmtSystem.Inv (capacity : UInt32) (s : RmtSystem) : Prop where
  buffer : s.receiver.symbols.length = capacity.toNat
  job : ∃ job, RmtRounds capacity job s.log ∧ s.At capacity job

section Steps

variable {capacity : UInt32} {s s' : RmtSystem}

theorem rmtReset_inv (capacity : UInt32) : (rmtReset capacity).Inv capacity where
  buffer := List.length_replicate
  job := ⟨.free, .nil, rfl, rfl, rfl, .idle rfl rfl⟩

/-- A frame is published. -/
structure RmtSystem.Published (capacity : UInt32) (frame : RmtFrame) (s : RmtSystem) : Prop where
  rounds : RmtRounds capacity (.completed frame) s.log
  armed : s.armed = 0
  receiving : s.receiver.receiving = true
  symbols : s.receiver.symbols.take (frame.delivered capacity).length = frame.delivered capacity
  isr : s.isr = .idle
  count : s.receiver.count = clampedCount capacity frame.numSymbols
  task : s.task.Reads (frame.delivered capacity) s.receiver.count

theorem published_of_ready (h : s.Inv capacity) (hready : s.receiver.ready = true) :
    ∃ frame, s.Published capacity frame := by
  obtain ⟨-, job, hrounds, hat⟩ := h
  cases job with
  | free => exact absurd hready (Bool.eq_false_iff.mp hat.2.2.1)
  | armed => exact absurd hready (Bool.eq_false_iff.mp hat.2.2.1)
  | completed frame =>
    obtain ⟨harmed, hreceiving, hsymbols, hpublishes⟩ := hat
    cases hpublishes with
    | count _ hwaits => exact absurd hready (Bool.eq_false_iff.mp hwaits)
    | ready _ hwaits => exact absurd hready (Bool.eq_false_iff.mp hwaits)
    | done hisr _ hcount htask =>
      exact ⟨frame, hrounds, harmed, hreceiving, hsymbols, hisr, hcount, htask⟩

/-- Only a published frame is counted or read. -/
theorem ready_of_reading (h : s.Inv capacity) (htask : s.task.Reading) :
    s.receiver.ready = true := by
  obtain ⟨-, job, -, hat⟩ := h
  cases job with
  | free =>
    obtain ⟨-, -, -, hstarts⟩ := hat
    cases hstarts with
    | idle hidle => rw [hidle] at htask; exact htask.elim
    | ready hstart => rw [hstart] at htask; exact htask.elim
    | driver hstart => rw [hstart] at htask; exact htask.elim
  | armed =>
    rw [hat.2.2.2.2] at htask
    exact htask.elim
  | completed frame =>
    obtain ⟨-, -, -, hpublishes⟩ := hat
    cases hpublishes with
    | count _ _ hidle => rw [hidle] at htask; exact htask.elim
    | ready _ _ hidle => rw [hidle] at htask; exact htask.elim
    | done _ hready => exact hready

/-- A call that looks at a published frame moves on, or returns. -/
theorem reading_inv (h : s.Inv capacity) (hready : s.receiver.ready = true) {task : RmtTask}
    {returned : Option RmtReturn}
    (htask : ∀ frame, s.Published capacity frame →
      task.Reads (frame.delivered capacity) s.receiver.count) :
    RmtSystem.Inv capacity { s with task, returned } := by
  obtain ⟨frame, hpublished⟩ := published_of_ready h hready
  exact ⟨h.buffer, .completed frame, hpublished.rounds, hpublished.armed, hpublished.receiving,
    hpublished.symbols, .done hpublished.isr hready hpublished.count (htask frame hpublished)⟩

/-- A call that returns at once. -/
theorem ret_inv (h : s.Inv capacity) (htask : s.task = .idle) (r : RmtReturn) :
    (s.ret r).Inv capacity := by
  obtain ⟨hbuffer, job, hrounds, hat⟩ := h
  refine ⟨hbuffer, job, hrounds, ?_⟩
  cases job with
  | free =>
    obtain ⟨harmed, hisr, hready, hstarts⟩ := hat
    refine ⟨harmed, hisr, hready, ?_⟩
    cases hstarts with
    | idle _ hreceiving => exact .idle rfl hreceiving
    | ready hstart => exact absurd (htask.symm.trans hstart) nofun
    | driver hstart => exact absurd (htask.symm.trans hstart) nofun
  | armed => exact ⟨hat.1, hat.2.1, hat.2.2.1, hat.2.2.2.1, rfl⟩
  | completed frame =>
    obtain ⟨harmed, hreceiving, hsymbols, hpublishes⟩ := hat
    refine ⟨harmed, hreceiving, hsymbols, ?_⟩
    cases hpublishes with
    | count hisr hready => exact .count hisr hready rfl
    | ready hisr hready _ hcount => exact .ready hisr hready rfl hcount
    | done hisr hready hcount => exact .done hisr hready hcount .idle

/-! ### Every step keeps it -/

theorem startReceive_inv (h : s.Inv capacity) (htask : s.task = .idle) (handle : Bool)
    (minimumNs maximumNs : UInt32) :
    (s.bmxEsp32RmtStartReceive handle minimumNs maximumNs).Inv capacity := by
  unfold RmtSystem.bmxEsp32RmtStartReceive
  split
  next => exact ret_inv h htask _
  next haccepted =>
    -- only a free receiver is not receiving
    have hreceiving : s.receiver.receiving = false := by
      by_contra hreceiving
      exact haccepted (.inr (.inl ((Bool.not_eq_false _).mp hreceiving)))
    obtain ⟨hbuffer, job, hrounds, hat⟩ := h
    cases job with
    | free =>
      obtain ⟨harmed, hisr, hready, -⟩ := hat
      exact ⟨hbuffer, .free, hrounds, harmed, hisr, hready, .ready rfl hreceiving⟩
    | armed => exact absurd hat.2.2.2.1 (Bool.eq_false_iff.mp hreceiving)
    | completed frame => exact absurd hat.2.1 (Bool.eq_false_iff.mp hreceiving)

theorem receivedCount_inv (h : s.Inv capacity) (htask : s.task = .idle) (handle : Bool) :
    (s.bmxEsp32RmtReceivedCount handle).Inv capacity := by
  unfold RmtSystem.bmxEsp32RmtReceivedCount
  split
  next => exact ret_inv h htask _
  next hready =>
    have hready := (Bool.not_eq_false _).mp fun hwaits => hready (.inr hwaits)
    exact reading_inv h hready fun _ _ => .loadCount

theorem readReceived_inv (h : s.Inv capacity) (htask : s.task = .idle) (handle words : Bool)
    (destination : UInt32) : (s.bmxEsp32RmtReadReceived handle words destination).Inv capacity := by
  unfold RmtSystem.bmxEsp32RmtReadReceived
  split
  next => exact ret_inv h htask _
  next hready =>
    have hready := (Bool.not_eq_false _).mp fun hwaits => hready (.inr hwaits)
    exact reading_inv h hready fun _ _ => .readCount _ _

/-- No job is armed before the driver is called, and no frame waits. -/
theorem free_of_starting (h : s.Inv capacity) (htask : s.task.Starting) :
    RmtRounds capacity .free s.log ∧ s.At capacity .free := by
  obtain ⟨-, job, hrounds, hat⟩ := h
  cases job with
  | free => exact ⟨hrounds, hat⟩
  | armed =>
    rw [hat.2.2.2.2] at htask
    exact htask.elim
  | completed frame =>
    obtain ⟨-, -, -, hpublishes⟩ := hat
    cases hpublishes with
    | count _ _ hidle => rw [hidle] at htask; exact htask.elim
    | ready _ _ hidle => rw [hidle] at htask; exact htask.elim
    | done _ _ _ hreads => exact absurd htask hreads.not_starting

/-- What a copy has so far is a part of the frame. -/
theorem copied_of_published {frame : RmtFrame} {count : UInt32} {copied : List UInt32}
    (h : s.Published capacity frame) (htask : s.task = .readCopy count copied) :
    count = clampedCount capacity frame.numSymbols ∧
      copied = (frame.delivered capacity).take copied.length ∧
      copied.length ≤ (frame.delivered capacity).length := by
  have hreads := h.task
  rw [htask] at hreads
  cases hreads with
  | readCopy n hn =>
    have hlength : ((frame.delivered capacity).take n).length = n := by
      rw [List.length_take, Nat.min_eq_left hn]
    exact ⟨h.count, by rw [hlength], by rw [hlength]; exact hn⟩

/-- The buffer holds the frame while it is copied. -/
theorem symbol_of_published {frame : RmtFrame} {i : Nat} (h : s.Published capacity frame)
    (hi : i < (frame.delivered capacity).length) :
    (frame.delivered capacity).take i ++ [s.receiver.symbols[i]?.getD 0] =
      (frame.delivered capacity).take (i + 1) := by
  have hsymbol : s.receiver.symbols[i]? = (frame.delivered capacity)[i]? := by
    conv_rhs => rw [← h.symbols]
    rw [List.getElem?_take_of_lt hi]
  rw [hsymbol, List.take_add_one, List.getElem?_eq_getElem hi]
  rfl

theorem taskStep_inv (h : s.Inv capacity) {result : EspErr}
    (hs : s.taskStep capacity result = some s') : s'.Inv capacity := by
  unfold RmtSystem.taskStep at hs
  split at hs
  next => exact absurd hs nofun
  next htask =>
    obtain rfl := Option.some.inj hs
    obtain ⟨hrounds, harmed, hisr, -⟩ := free_of_starting h (by rw [htask]; trivial)
    exact ⟨h.buffer, .free, hrounds, harmed, hisr, rfl, .driver rfl rfl⟩
  next htask =>
    obtain ⟨hrounds, harmed, hisr, hready, hstarts⟩ := free_of_starting h (by rw [htask]; trivial)
    -- the flag was set on the way to the driver
    have hreceiving : s.receiver.receiving = true := by
      cases hstarts with
      | idle hidle => exact absurd (htask.symm.trans hidle) nofun
      | ready hstart => exact absurd (htask.symm.trans hstart) nofun
      | driver _ hreceiving => exact hreceiving
    split at hs
    next =>
      obtain rfl := Option.some.inj hs
      -- the driver has armed the job
      exact ⟨h.buffer, .armed, .started hrounds, by rw [harmed], hisr, hready, hreceiving, rfl⟩
    next =>
      obtain rfl := Option.some.inj hs
      exact ⟨h.buffer, .free, hrounds, harmed, hisr, hready, .idle rfl rfl⟩
  next htask =>
    obtain rfl := Option.some.inj hs
    exact reading_inv h (ready_of_reading h (by rw [htask]; trivial)) fun _ _ => .idle
  next words destination htask =>
    have hready := ready_of_reading h (by rw [htask]; trivial)
    dsimp only at hs
    split at hs
    next =>
      obtain rfl := Option.some.inj hs
      exact reading_inv h hready fun _ _ => .idle
    next =>
      obtain rfl := Option.some.inj hs
      exact reading_inv h hready fun _ _ => .readCopy 0 (Nat.zero_le _)
  next count copied htask =>
    have hready := ready_of_reading h (by rw [htask]; trivial)
    dsimp only at hs
    split at hs
    next hmore =>
      obtain rfl := Option.some.inj hs
      refine reading_inv h hready fun frame hpublished => ?_
      -- what has been copied is the first part of the frame, so the next symbol is its next one
      obtain ⟨hcount, hcopied, hle⟩ := copied_of_published hpublished htask
      rw [hcount, ← delivered_length] at hmore
      rw [hpublished.count, ← hcount, hcopied, List.length_take, Nat.min_eq_left hle,
        symbol_of_published hpublished hmore]
      exact .readCopy _ hmore
    next hdone =>
      obtain rfl := Option.some.inj hs
      obtain ⟨frame, hpublished⟩ := published_of_ready h hready
      obtain ⟨hcount, hcopied, hle⟩ := copied_of_published hpublished htask
      rw [hcount, ← delivered_length] at hdone
      -- all of the frame has been copied
      have hall : copied = frame.delivered capacity := by
        rw [hcopied, List.take_of_length_le (Nat.not_lt.mp hdone)]
      exact ⟨h.buffer, .free, hall ▸ .read hpublished.rounds, hpublished.armed, hpublished.isr, rfl,
        .idle rfl rfl⟩

theorem isrStep_inv (h : s.Inv capacity) (hs : s.isrStep capacity = some s') :
    s'.Inv capacity := by
  obtain ⟨hbuffer, job, hrounds, hat⟩ := h
  -- the interrupt is at work only between a completed frame and its publication
  cases job with
  | free => rw [RmtSystem.isrStep, hat.2.1] at hs; exact absurd hs nofun
  | armed => rw [RmtSystem.isrStep, hat.2.1] at hs; exact absurd hs nofun
  | completed frame =>
    obtain ⟨harmed, hreceiving, hsymbols, hpublishes⟩ := hat
    cases hpublishes with
    | count hisr hready htask =>
      rw [RmtSystem.isrStep, hisr] at hs
      obtain rfl := Option.some.inj hs
      exact ⟨hbuffer, .completed frame, hrounds, harmed, hreceiving, hsymbols,
        .ready rfl hready htask rfl⟩
    | ready hisr hready htask hcount =>
      rw [RmtSystem.isrStep, hisr] at hs
      obtain rfl := Option.some.inj hs
      exact ⟨hbuffer, .completed frame, hrounds, harmed, hreceiving, hsymbols,
        .done rfl rfl hcount (by rw [htask]; exact .idle)⟩
    | done hisr => rw [RmtSystem.isrStep, hisr] at hs; exact absurd hs nofun

/-- What is armed is the job of the last start. -/
theorem armed_of_ne_zero (h : s.Inv capacity) (harmed : s.armed ≠ 0) :
    RmtRounds capacity .armed s.log ∧ s.At capacity .armed := by
  obtain ⟨-, job, hrounds, hat⟩ := h
  cases job with
  | free => exact absurd hat.1 harmed
  | armed => exact ⟨hrounds, hat⟩
  | completed frame => exact absurd hat.1 harmed

theorem hardware_inv (h : s.Inv capacity) (harmed : s.armed ≠ 0) (i : Nat) (word : UInt32) :
    RmtSystem.Inv capacity { s with receiver.symbols := s.receiver.symbols.set i word } := by
  obtain ⟨hrounds, hat⟩ := armed_of_ne_zero h harmed
  exact ⟨by rw [List.length_set]; exact h.buffer, .armed, hrounds, hat⟩

theorem receiveDone_inv (h : s.Inv capacity) (harmed : s.armed ≠ 0) (frame : RmtFrame) :
    (s.receiveDone frame).Inv capacity := by
  obtain ⟨hrounds, hone, -, hready, hreceiving, htask⟩ := armed_of_ne_zero h harmed
  refine ⟨?_, .completed frame, .completed frame hrounds, ?_, hreceiving, ?_,
    .count rfl hready htask⟩
  · simp only [RmtSystem.receiveDone, List.length_append, List.length_take, List.length_drop,
      ← h.buffer]
    omega
  · simp only [RmtSystem.receiveDone, hone]
  · simp only [RmtSystem.receiveDone, h.buffer]
    exact List.take_left

theorem call_some {next : RmtSystem} (hs : s.call next = some s') :
    s.task = .idle ∧ next = s' := by
  unfold RmtSystem.call at hs
  split at hs
  next htask => exact ⟨htask, Option.some.inj hs⟩
  next => exact absurd hs nofun

theorem rmtStep_inv (h : s.Inv capacity) {a : RmtAction} (hs : rmtStep capacity s a = some s') :
    s'.Inv capacity := by
  -- one lemma for each call, then the steps of a call and those of the driver
  cases a with
  | startReceive handle minimumNs maximumNs =>
    obtain ⟨htask, rfl⟩ := call_some hs
    exact startReceive_inv h htask handle minimumNs maximumNs
  | receiveReady handle =>
    obtain ⟨htask, rfl⟩ := call_some hs
    exact ret_inv h htask _
  | receivedCount handle =>
    obtain ⟨htask, rfl⟩ := call_some hs
    exact receivedCount_inv h htask handle
  | readReceived handle words destination =>
    obtain ⟨htask, rfl⟩ := call_some hs
    exact readReceived_inv h htask handle words destination
  | task result => exact taskStep_inv h hs
  | hardware i word =>
    simp only [rmtStep] at hs
    split at hs
    next => exact absurd hs nofun
    next harmed =>
      obtain rfl := Option.some.inj hs
      exact hardware_inv h harmed i word
  | receiveDone frame =>
    simp only [rmtStep] at hs
    split at hs
    next =>
      split at hs
      next => exact absurd hs nofun
      next harmed =>
        obtain rfl := Option.some.inj hs
        exact receiveDone_inv h harmed frame
    next => exact absurd hs nofun
  | isr => exact isrStep_inv h hs

theorem rmtInv_of_reachable (h : (rmtMachine capacity).Reachable s) : s.Inv capacity :=
  h.invariant (fun s hs => by rw [hs]; exact rmtReset_inv capacity)
    fun _ _ _ hinv _ hs => rmtStep_inv hinv hs

/-! ### Reads that fail, and reads that do not -/

/-- A step of `read_received`. -/
def RmtSystem.InRead (s : RmtSystem) : RmtAction → Prop
  | .readReceived _ _ _ => True
  | .task _ => (∃ words destination, s.task = .readCount words destination) ∨
      ∃ count copied, s.task = .readCopy count copied
  | _ => False

/-- Up to the step that returns success, a read changes nothing. -/
theorem inRead_keeps {a : RmtAction} (hs : rmtStep capacity s a = some s') (ha : s.InRead a) :
    (s'.task = .idle ∧ s'.returned = some (.read espOk)) ∨
      s' = { s with task := s'.task, returned := s'.returned } := by
  cases a with
  | readReceived handle words destination =>
    obtain ⟨-, rfl⟩ := call_some hs
    right
    unfold RmtSystem.bmxEsp32RmtReadReceived
    split <;> rfl
  | task result =>
    rcases ha with ⟨words, destination, htask⟩ | ⟨count, copied, htask⟩
    · right
      simp only [rmtStep, RmtSystem.taskStep, htask] at hs
      split at hs <;> exact Option.some.inj hs ▸ rfl
    · simp only [rmtStep, RmtSystem.taskStep, htask] at hs
      split at hs
      next => exact .inr (Option.some.inj hs ▸ rfl)
      next => exact .inl (Option.some.inj hs ▸ ⟨rfl, rfl⟩)
  | _ => exact ha.elim

/-- A copy comes to its end, word by word. -/
theorem copy_run (k : Nat) {count : UInt32} {copied : List UInt32}
    (htask : s.task = .readCopy count copied) (hk : count.toNat = copied.length + k) :
    ∃ s' words, (rmtMachine capacity).run s (List.replicate (k + 1) (.task espOk)) = some s' ∧
      s'.task = .idle ∧ s'.returned = some (.read espOk) ∧ s'.log = .read words :: s.log := by
  induction k generalizing s copied with
  | zero =>
    have hstep : s.taskStep capacity espOk = some { s.ret (.read espOk) with
        receiver.receiving := false, receiver.ready := false, log := .read copied :: s.log } := by
      rw [RmtSystem.taskStep, htask]
      exact if_neg (by omega)
    exact ⟨_, copied, run_cons hstep, rfl, rfl, rfl⟩
  | succ k ih =>
    let word := s.receiver.symbols[copied.length]?.getD 0
    let next : RmtSystem := { s with task := .readCopy count (copied ++ [word]) }
    have hstep : s.taskStep capacity espOk = some next := by
      rw [RmtSystem.taskStep, htask]
      exact if_pos (by omega)
    obtain ⟨s', words, hrun, hidle, hreturned, hlog⟩ := ih (s := next) rfl
      (by rw [List.length_append, List.length_singleton]; omega)
    exact ⟨s', words, (run_cons hstep).trans hrun, hidle, hreturned, hlog⟩

theorem run_inv (h : s.Inv capacity) {as : List RmtAction}
    (hs : (rmtMachine capacity).run s as = some s') : s'.Inv capacity := by
  induction as generalizing s with
  | nil => exact Option.some.inj hs ▸ h
  | cons a as ih =>
    obtain ⟨s₁, hs₁, hrun⟩ := Option.bind_eq_some_iff.mp hs
    exact ih (rmtStep_inv h hs₁) hrun

/-- A published frame can be read, by any call with room for it. -/
theorem read_run (h : s.Inv capacity) (htask : s.task = .idle) (hready : s.receiver.ready = true)
    {words : Bool} {destination : UInt32} (hroom : s.receiver.count ≤ destination)
    (hwords : s.receiver.count ≠ 0 → words = true) :
    ∃ s' delivered, (rmtMachine capacity).run s (.readReceived true words destination ::
        List.replicate (s.receiver.count.toNat + 2) (.task espOk)) = some s' ∧
      s'.task = .idle ∧ s'.returned = some (.read espOk) ∧ s'.log = .read delivered :: s.log := by
  obtain ⟨frame, hpublished⟩ := published_of_ready h hready
  have hcapacity : s.receiver.count ≤ capacity := by
    rw [hpublished.count, clampedCount]
    split
    next => exact UInt32.le_refl _
    next hle => exact UInt32.not_lt.mp hle
  let called : RmtSystem := { s with task := .readCount words destination }
  have hcall : rmtStep capacity s (.readReceived true words destination) = some called := by
    simp only [rmtStep, RmtSystem.call, htask]
    exact congrArg some (if_neg (by simp [hready]))
  let checked : RmtSystem := { s with task := .readCopy s.receiver.count [] }
  have hcheck : called.taskStep capacity espOk = some checked := by
    refine if_neg ?_
    rintro (hlt | hlt | ⟨hne, hnull⟩)
    · exact UInt32.not_lt.mpr hcapacity hlt
    · exact UInt32.not_lt.mpr hroom hlt
    · exact Bool.eq_false_iff.mp hnull (hwords hne)
  obtain ⟨s', delivered, hrun, hrest⟩ :
      ∃ s' delivered, (rmtMachine capacity).run checked
          (List.replicate (s.receiver.count.toNat + 1) (.task espOk)) = some s' ∧ s'.task = .idle ∧
        s'.returned = some (.read espOk) ∧ s'.log = .read delivered :: s.log :=
    copy_run s.receiver.count.toNat rfl (Nat.zero_add _).symm
  exact ⟨s', delivered, (run_cons hcall).trans ((run_cons hcheck).trans hrun), hrest⟩

/-! ### Reading the symbols -/

/-- A frame that has been completed is published when the interrupt is over. -/
theorem published_of_completed (h : s.Inv capacity) {frame : RmtFrame} {older : List RmtEvent}
    (hlog : s.log = .completed frame :: older) (hisr : s.isr = .idle) :
    s.receiver.ready = true ∧ s.Published capacity frame := by
  obtain ⟨-, job, hrounds, hat⟩ := h
  rw [hlog] at hrounds
  cases hrounds with
  | completed _ hstarted =>
    obtain ⟨harmed, hreceiving, hsymbols, hpublishes⟩ := hat
    cases hpublishes with
    | count hstores => exact absurd (hisr.symm.trans hstores) nofun
    | ready hstores => exact absurd (hisr.symm.trans hstores) nofun
    | done _ hready hcount htask =>
      exact ⟨hready, hlog ▸ .completed frame hstarted, harmed, hreceiving, hsymbols, hisr, hcount,
        htask⟩

/-- `receive_ready` tells whether the newest frame is unread and its interrupt is over. -/
theorem ready_iff (h : s.Inv capacity) : s.receiver.ready = true ↔
    ∃ frame older, s.log = .completed frame :: older ∧ s.isr = .idle := by
  constructor
  · intro hready
    obtain ⟨frame, hpublished⟩ := published_of_ready h hready
    have hrounds := hpublished.rounds
    generalize hlog : s.log = log at hrounds
    cases hrounds with
    | completed _ hstarted => exact ⟨frame, _, rfl, hpublished.isr⟩
  · rintro ⟨frame, older, hlog, hisr⟩
    exact (published_of_completed h hlog hisr).1

/-- `received_count` gives the number of words that a read will give. -/
theorem count_of_published {frame : RmtFrame} (h : s.Published capacity frame) :
    s.receiver.count.toNat = (frame.delivered capacity).length := by
  rw [h.count, delivered_length]

/-- Only the task acts while a frame is published: the next step is one of its calls. -/
theorem published_alone {frame : RmtFrame} (h : s.Published capacity frame) {a : RmtAction}
    (hs : rmtStep capacity s a = some s') :
    (∀ i word, a ≠ .hardware i word) ∧ (∀ f, a ≠ .receiveDone f) ∧ a ≠ .isr := by
  cases a with
  | hardware i word =>
    rw [rmtStep, if_pos h.armed] at hs
    cases hs
  | receiveDone f =>
    simp only [rmtStep, h.isr, if_pos h.armed] at hs
    cases hs
  | isr =>
    simp only [rmtStep, RmtSystem.isrStep, h.isr] at hs
    cases hs
  | _ => exact ⟨nofun, nofun, nofun⟩

theorem finish_idle (htask : s.task = .idle) (fuel : Nat) : s.finish capacity fuel = some s := by
  cases fuel with
  | zero => rw [RmtSystem.finish, htask]
  | succ fuel => rw [RmtSystem.finish, htask]

theorem finish_step (hs : s.taskStep capacity espOk = some s') (fuel : Nat) :
    s.finish capacity (fuel + 1) = s'.finish capacity fuel := by
  rw [RmtSystem.finish]
  split
  next htask =>
    -- no step is left of a call that has returned
    rw [RmtSystem.taskStep, htask] at hs
    cases hs
  next => rw [hs, Option.bind_some]

/-- A run of task steps that ends the call is what `finish` does. -/
theorem finish_of_run {k fuel : Nat} (hle : k ≤ fuel)
    (hrun : (rmtMachine capacity).run s (List.replicate k (.task espOk)) = some s')
    (hidle : s'.task = .idle) : s.finish capacity fuel = some s' := by
  induction k generalizing s fuel with
  | zero =>
    obtain rfl := Option.some.inj hrun
    exact finish_idle hidle fuel
  | succ k ih =>
    obtain ⟨fuel, rfl⟩ := Nat.exists_eq_add_of_le' (Nat.lt_of_lt_of_le (Nat.succ_pos k) hle)
    obtain ⟨next, hstep, hrest⟩ := Option.bind_eq_some_iff.mp hrun
    rw [finish_step hstep]
    exact ih (Nat.le_of_succ_le_succ hle) hrest

/-- **`ReadSymbols` of a published frame** returns its words, and the frame is read. -/
theorem readSymbols_published (h : (rmtMachine capacity).Reachable s) {frame : RmtFrame}
    {older : List RmtEvent} (hlog : s.log = .completed frame :: older) (hisr : s.isr = .idle) :
    ∃ s', s.readSymbols capacity true = some (some (frame.delivered capacity), s') ∧
      s'.task = .idle ∧ s'.log = .read (frame.delivered capacity) :: s.log := by
  have hinv := rmtInv_of_reachable h
  obtain ⟨hready, hpublished⟩ := published_of_completed hinv hlog hisr
  -- `Ready` and `ReceivedCount` change nothing but what has been returned
  let count := s.receiver.count
  let counted : RmtSystem := { s with task := .idle, returned := some (.count count) }
  have hanswer : s.bmxEsp32RmtReceiveReady true = s.ret (.ready 1) := by
    rw [RmtSystem.bmxEsp32RmtReceiveReady, if_pos ⟨rfl, hready⟩]
  have hcounts : (s.ret (.ready 1)).bmxEsp32RmtReceivedCount true =
      { s.ret (.ready 1) with task := .loadCount } :=
    if_neg (by simp [RmtSystem.ret, hready])
  have hcount : ((s.ret (.ready 1)).bmxEsp32RmtReceivedCount true).finish capacity 1 =
      some counted := by
    rw [hcounts]
    rfl
  have hinv' : counted.Inv capacity := reading_inv hinv hready fun _ _ => .idle
  have hpointer : count ≠ 0 → (count != 0) = true := bne_iff_ne.mpr
  obtain ⟨s', words, hrun, hidle, hreturned, hread⟩ := read_run hinv' rfl hready
    (UInt32.le_refl count) hpointer
  obtain ⟨called, hcall, hrest⟩ := Option.bind_eq_some_iff.mp hrun
  have hcalled : counted.bmxEsp32RmtReadReceived true (count != 0) count = called :=
    (call_some (s := counted) hcall).2
  have hfinish : called.finish capacity (count.toNat + 2) = some s' :=
    finish_of_run (Nat.le_refl _) hrest hidle
  -- the read gives the frame
  obtain ⟨job', hrounds', -⟩ := (run_inv hinv' hrun).job
  have hlast : s'.log = [] ++ .read words :: s.log := hread
  obtain ⟨frame', earlier, hbefore, hwords⟩ := hrounds'.before_read hlast
  obtain rfl : frame = frame' := by
    have hsame : RmtEvent.completed frame :: older = .completed frame' :: .started :: earlier :=
      hlog.symm.trans hbefore
    injection hsame with hsame
    injection hsame
  rw [hwords] at hread
  refine ⟨s', ?_, hidle, hread⟩
  rw [RmtSystem.readSymbols, hanswer]
  show (if (s.ret (.ready 1)).returned = some (.ready 0) then _ else _) = _
  rw [if_neg nofun, hcount, Option.bind_some]
  show ((counted.bmxEsp32RmtReadReceived true (count != 0) count).finish capacity
    (count.toNat + 2)).map _ = _
  rw [hcalled, hfinish, Option.map_some, if_pos hreturned, RmtSystem.lastRead, hread]

/-- Otherwise it returns `Null` and changes nothing. -/
theorem readSymbols_null {handle : Bool} (h : handle = false ∨ s.receiver.ready = false) :
    s.readSymbols capacity handle = some (none, s.ret (.ready 0)) := by
  have hanswer : s.bmxEsp32RmtReceiveReady handle = s.ret (.ready 0) := by
    rw [RmtSystem.bmxEsp32RmtReceiveReady, if_neg]
    rintro ⟨hhandle, hready⟩
    rcases h with hnull | hwaits
    · exact Bool.false_ne_true (hnull.symm.trans hhandle)
    · exact Bool.false_ne_true (hwaits.symm.trans hready)
  rw [RmtSystem.readSymbols, hanswer]
  exact if_pos rfl

/-! ### The protocol -/

/-- **The receive protocol.**  In every state reached: at most one job is armed, and none while a
frame waits to be read; a read gives the words of the one frame that was completed since the last
start, as many as fit, and the frame is followed by no other read; a read changes nothing until it
succeeds, and a published frame can be read by any call with room for it; a start that the driver
refuses can be repeated. -/
theorem rmt_receive (h : (rmtMachine capacity).Reachable s) :
    s.armed ≤ 1 ∧
    (∀ frame older, s.log = .completed frame :: older → s.armed = 0) ∧
    (∀ newer words older, s.log = newer ++ .read words :: older →
      ∃ frame earlier, older = .completed frame :: .started :: earlier ∧
        words = frame.delivered capacity) ∧
    (∀ newer frame older, s.log = newer ++ .completed frame :: older →
      ∃ earlier, older = .started :: earlier) ∧
    (∀ newer e frame older, s.log = newer ++ e :: .completed frame :: older →
      e = .read (frame.delivered capacity)) ∧
    (∀ newer older, s.log = newer ++ .started :: older →
      older = [] ∨ ∃ words earlier, older = .read words :: earlier) ∧
    (∀ a s', s.InRead a → rmtStep capacity s a = some s' →
      (s'.task = .idle ∧ s'.returned = some (.read espOk)) ∨
        s' = { s with task := s'.task, returned := s'.returned }) ∧
    (∀ words destination, s.task = .idle → s.receiver.ready = true →
      s.receiver.count ≤ destination → (s.receiver.count ≠ 0 → words = true) →
      ∃ s' frame older, (rmtMachine capacity).run s (.readReceived true words destination ::
          List.replicate (s.receiver.count.toNat + 2) (.task espOk)) = some s' ∧
        s'.task = .idle ∧ s'.returned = some (.read espOk) ∧
        s.log = .completed frame :: older ∧
        s'.log = .read (frame.delivered capacity) :: s.log) ∧
    (∀ result s' minimumNs maximumNs, s.task = .startDriver → result ≠ espOk →
      rmtStep capacity s (.task result) = some s' → minimumNs ≠ 0 → minimumNs < maximumNs →
      s'.armed = 0 ∧ s'.returned = some (.start result) ∧
        ∃ s'', rmtStep capacity s' (.startReceive true minimumNs maximumNs) = some s'' ∧
          s''.task = .startReady) := by
  have hinv := rmtInv_of_reachable h
  obtain ⟨job, hrounds, hat⟩ := hinv.job
  -- the log is a list of rounds: start, completed, read
  refine ⟨?_, ?_, fun newer words older => hrounds.before_read,
    fun newer frame older => hrounds.before_completed,
    fun newer e frame older => hrounds.after_completed,
    fun newer older => hrounds.before_started, fun a s' ha hs => inRead_keeps hs ha, ?_, ?_⟩
  · cases job with
    | free => exact hat.1 ▸ Nat.zero_le 1
    | armed => exact hat.1 ▸ Nat.le_refl 1
    | completed frame => exact hat.1 ▸ Nat.zero_le 1
  · intro frame older hlog
    rw [hlog] at hrounds
    cases hrounds with
    | completed _ h => exact hat.1
  · intro words destination htask hready hroom hwords
    -- the call can be run to its end; that run keeps the invariant, which names the frame
    obtain ⟨s', words', hrun, hidle, hreturned, hlog⟩ :=
      read_run hinv htask hready hroom hwords
    obtain ⟨job', hrounds', -⟩ := (run_inv hinv hrun).job
    have hlast : s'.log = [] ++ .read words' :: s.log := hlog
    obtain ⟨frame, earlier, hbefore, hdelivered⟩ := hrounds'.before_read hlast
    exact ⟨s', frame, .started :: earlier, hrun, hidle, hreturned, hbefore, by rw [hlog, hdelivered]⟩
  · intro result s' minimumNs maximumNs htask hresult hs hminimum hmaximum
    obtain ⟨-, harmed, -⟩ := free_of_starting hinv (by rw [htask]; trivial)
    simp only [rmtStep, RmtSystem.taskStep, htask, if_neg hresult] at hs
    obtain rfl := Option.some.inj hs
    refine ⟨harmed, rfl, _, rfl, ?_⟩
    rw [RmtSystem.bmxEsp32RmtStartReceive, if_neg]
    rintro (hnull | hreceiving | hzero | hle)
    · exact absurd hnull nofun
    · exact absurd hreceiving nofun
    · exact hminimum hzero
    · exact UInt32.not_lt.mpr hle hmaximum

end Steps

/-- A frame of two words, received by a receiver with room for one and read. -/
def clippedFrame : List RmtAction :=
  [.startReceive true 1000 5000, .task espOk, .task espOk, .hardware 0 3,
    .receiveDone ⟨[5, 7], by decide⟩, .isr, .isr, .readReceived true true 4,
    .task espOk, .task espOk, .task espOk]

theorem rmt_receive_clipped : ∃ s, (rmtMachine 1).Reachable s ∧ ∃ frame earlier,
    s.log = .read [5] :: .completed frame :: .started :: earlier ∧ [5] = frame.delivered 1 := by
  have hs : (rmtMachine 1).Reachable _ :=
    reachable_of_run rfl (rfl : (rmtMachine 1).run (rmtReset 1) clippedFrame = some _)
  obtain ⟨frame, earlier, hbefore, hwords⟩ := (rmt_receive hs).2.2.1 [] [5] _ rfl
  exact ⟨_, hs, frame, earlier, congrArg (RmtEvent.read [5] :: ·) hbefore, hwords⟩

end Esp32Mod
