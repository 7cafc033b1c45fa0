/-
Esp32Mod/UartSession.lean

Whole sessions of the buffered UART: the application, the worker task and the
hardware, interleaved.

A step is one critical section or one driver call of a worker, one section of the
application, or the hardware sending a byte that the driver holds.  The answers of the
driver, of the allocator and of `xTaskCreate` are part of the action.  The task handle
is stored before the new task runs.  Posting an event changes nothing here.

Each successful `bmx_embedded_uart_async_open` starts a session and each session has its
own log, which is not in the source: the bytes that arrived, each with whether a FIFO
of the requested capacity had room for it then, the bytes read, those accepted for sending
and those handed to the driver.  Workers are numbered by the session that created
them; nothing in the step function keeps a worker of an old session from running.

`UartControl` is the invariant of the open and close handshake, `UartData` that of the
two rings.  Main result: `uart_sessions_refine_fifo`.
-/
import Esp32Mod.StepMachine
import Esp32Mod.UartAsync

namespace Esp32Mod

open RingBuffer StepMachine Machine

/-! ### Tasks -/

/-- What a worker does next. -/
inductive UartWorker
  /-- it was never created, or only `vTaskDelete` is left -/
  | gone
  | loop
  /-- call `xQueueReceive` -/
  | event
  /-- call `uart_read_bytes` -/
  | readBytes
  | store (input : List UInt8)
  | error (errors : UInt32)
  | drain
  /-- call `uart_write_bytes` -/
  | write (output : List UInt8)
  | writeFailed
  /-- read `async_tx_active` -/
  | sample
  /-- call `uart_wait_tx_done` -/
  | poll
  /-- clear `async_tx_active` -/
  | clear
  | exit
  deriving DecidableEq

/-- The bytes between the ring and the driver. -/
def UartWorker.inflight : UartWorker → List UInt8
  | write output => output
  | _ => []

/-- Whether the next step accesses a buffer. -/
def UartWorker.touches : UartWorker → Bool
  | store _ | drain => true
  | _ => false

/-- What follows `xQueueReceive`. -/
def UartWorker.received : Option UartEventType → UartWorker
  | none => .drain
  | some .data => .readBytes
  | some t =>
    let errors := bmxEsp32UartEventError t
    if errors ≠ 0 then .error errors else .drain

theorem UartWorker.received_ne (event : Option UartEventType) :
    received event ≠ .gone ∧ received event ≠ .exit ∧ (received event).inflight = [] := by
  rcases event with - | t
  · exact ⟨nofun, nofun, rfl⟩
  · cases t <;> exact ⟨nofun, nofun, rfl⟩

theorem UartWorker.received_ne_clear (event : Option UartEventType) : received event ≠ .clear := by
  rcases event with - | t
  · nofun
  · cases t <;> nofun

/-- What the application does next. -/
inductive UartApp
  | idle
  /-- call `xTaskCreate` -/
  | create
  | undo
  /-- wait for the worker to clear `async_task` -/
  | closeWait
  | closeFree
  deriving DecidableEq

/-! ### Logs -/

/-- What has happened to the bytes of a session. -/
structure UartLog where
  rxCapacity : Nat
  arrivals : List (UInt8 × Bool)
  reads : List UInt8
  accepted : List UInt8
  handed : List UInt8
  /-- A `uart_write_bytes` of the session failed. -/
  failed : Bool

namespace UartLog

/-- The bytes that arrived while there was room. -/
def kept (l : UartLog) : List UInt8 := (l.arrivals.filter fun a => a.2).map fun a => a.1

/-- The number of bytes that arrived while there was none. -/
def lost (l : UartLog) : Nat := l.arrivals.countP fun a => !a.2

/-- Whether a FIFO of the requested capacity has room. -/
def room (l : UartLog) : Bool := decide (l.kept.length - l.reads.length < l.rxCapacity)

/-- A byte arrives, and finds room or not. -/
def arrive (l : UartLog) (x : UInt8) : UartLog := { l with arrivals := l.arrivals ++ [(x, l.room)] }

/-- One byte after the other. -/
def arriveAll (xs : List UInt8) (l : UartLog) : UartLog := xs.foldl arrive l

/-- A log that starts with the given ring contents. -/
def start (rxCapacity : Nat) (rx tx : List UInt8) : UartLog :=
  ⟨rxCapacity, rx.map fun x => (x, true), [], tx, [], false⟩

/-- The receive side as a ledger. -/
def ledger (l : UartLog) : Ledger UInt8 := ⟨l.kept, l.reads.length, l.lost⟩

end UartLog

/-! ### The system -/

/-- The state, the threads and the history of the sessions. -/
structure UartSystem where
  state : BMXESP32UARTState
  app : UartApp
  worker : Nat → UartWorker
  /-- The number of sessions so far. -/
  session : Nat
  logs : Nat → UartLog
  /-- What the driver holds and what has left it, by session. -/
  driver : List (Nat × UInt8)
  wire : List (Nat × UInt8)

/-- The answers of the driver calls that a worker may make. -/
structure UartAnswer where
  event : Option UartEventType := none
  input : List UInt8 := []
  /-- How many bytes `uart_write_bytes` took. -/
  taken : Nat := 0

/-- The steps of the application, the workers and the hardware. -/
inductive UartAction
  | openAsync (rxCapacity txCapacity rxToken txToken errorToken : UInt32) (buffers : Bool)
  | closeAsync
  | read (destination : Bool) (capacity : Int32)
  | write (source : Option (List UInt8)) (length : Int32)
  /-- The next step of an open or close under way; `created` is the result of `xTaskCreate`. -/
  | proceed (created : Bool)
  | worker (k : Nat) (answer : UartAnswer)
  /-- The hardware sends the oldest byte that the driver holds. -/
  | transmit

namespace UartSystem

/-- Write how far a worker has come. -/
def setWorker (s : UartSystem) (k : Nat) (w : UartWorker) : UartSystem :=
  { s with worker := Function.update s.worker k w }

/-- Write the history of the current session. -/
def setLog (s : UartSystem) (f : UartLog → UartLog) : UartSystem :=
  { s with logs := Function.update s.logs s.session (f (s.logs s.session)) }

/-- One step of worker `k`. -/
def workerStep (s : UartSystem) (k : Nat) (answer : UartAnswer) : Option UartSystem :=
  match s.worker k with
  | .gone => none
  | .loop => some (s.setWorker k (if s.state.asyncOpen then .event else .exit))
  | .event => some (s.setWorker k (.received answer.event))
  | .readBytes =>
    if answer.input = [] then some (s.setWorker k .drain)
    else if answer.input.length ≤ asyncChunkSize then some (s.setWorker k (.store answer.input))
    else none
  | .store input =>
    s.state.rings.map fun r =>
      ({ s with state := (asyncReceiveStore input r s.state).2 }.setLog
        (UartLog.arriveAll input)).setWorker k
        (if input.length = asyncChunkSize then .readBytes else .drain)
  | .error errors =>
    some ({ s with state := (asyncWorkerError errors s.state).2 }.setWorker k .drain)
  | .drain =>
    s.state.rings.map fun r =>
      let d := asyncTransmitDrain r s.state
      { s with state := d.2 }.setWorker k
        (if d.1.output = [] then .sample else .write d.1.output)
  | .write output =>
    some (({ s with
      driver := s.driver ++ (output.take answer.taken).map fun x => (s.session, x) }.setLog
        fun l => { l with
          handed := l.handed ++ output
          failed := l.failed || answer.taken != output.length }).setWorker k
        (if answer.taken ≠ output.length then .writeFailed else .sample))
  | .writeFailed => some ({ s with state := (asyncTransmitFailed s.state).2 }.setWorker k .sample)
  | .sample => some (s.setWorker k (if s.state.txActive then .poll else .loop))
  | .poll => some (s.setWorker k (if s.driver = [] then .clear else .loop))
  | .clear => some ({ s with state := (asyncTransmitDone s.state).2 }.setWorker k .loop)
  | .exit => some ({ s with state := asyncWorkerExit s.state }.setWorker k .gone)

/-- The later steps of an open or a close. -/
def proceed (s : UartSystem) (created : Bool) : Option UartSystem :=
  match s.app with
  | .idle => none
  | .create =>
    if created then
      some ({ s with state := { s.state with task := some s.session }, app := .idle }.setWorker
        s.session .loop)
    else some { s with app := .undo }
  | .undo => some { s with state := asyncOpenUndo s.state, app := .idle }
  | .closeWait => some (if s.state.task = none then { s with app := .closeFree } else s)
  | .closeFree => some { s with state := asyncCloseEnd s.state, app := .idle }

/-- A call that the application starts. -/
def call (s : UartSystem) : UartAction → Option UartSystem
  | .openAsync rxCapacity txCapacity rxToken txToken errorToken buffers =>
    if h : AsyncOpenAccepts s.state rxCapacity txCapacity rxToken txToken errorToken then
      if !buffers then some s
      else
        let rxc := Capacity.ofPowerOfTwo rxCapacity h.2.2.1
        let txc := Capacity.ofPowerOfTwo txCapacity h.2.2.2.1
        some { s with
          state := asyncOpenPublish rxc txc rxToken txToken errorToken s.state
          app := .create
          session := s.session + 1
          logs := Function.update s.logs (s.session + 1) (.start rxCapacity.toNat [] []) }
    else some s
  | .closeAsync =>
    if !s.state.asyncOpen then some s
    else
      some { s with
        state := asyncCloseBegin s.state
        app := if s.state.task = none then .closeFree else .closeWait }
  | .read destination capacity =>
    let a := bmxEmbeddedUartAsyncRead destination capacity s.state
    some ({ s with state := a.2 }.setLog fun l => { l with reads := l.reads ++ a.1.getD [] })
  | .write source length =>
    let a := bmxEmbeddedUartAsyncWrite source length s.state
    some ({ s with state := a.2 }.setLog fun l =>
      { l with accepted := l.accepted ++ (source.getD []).take (a.1.getD 0) })
  | _ => none

/-- The threads take turns in any order. -/
def step (s : UartSystem) : UartAction → Option UartSystem
  | .worker k answer => s.workerStep k answer
  | .proceed created => s.proceed created
  | .transmit =>
    match s.driver with
    | [] => none
    | x :: rest => some { s with driver := rest, wire := s.wire ++ [x] }
  | a => if s.app = .idle then s.call a else none

/-- Nothing is open and nothing has happened. -/
inductive Start : UartSystem → Prop
  | boot (state : BMXESP32UARTState) (hclosed : state.asyncOpen = false)
      (hrings : state.rings = none) (htask : state.task = none) (hdropped : state.rxDropped = 0) :
      Start ⟨state, .idle, fun _ => .gone, 0, fun _ => .start 0 [] [], [], []⟩
  /-- A session is open, with rings whose counters and contents are arbitrary. -/
  | opened (state : BMXESP32UARTState) (r : AsyncRings) (hopen : state.asyncOpen = true)
      (hrings : state.rings = some r) (htask : state.task = some 0) (hdropped : state.rxDropped = 0)
      (hactive : state.txActive = false → r.tx.contents = []) :
      Start ⟨state, .idle, Function.update (fun _ => .gone) 0 .loop, 0,
        fun _ => .start r.rxCapacity.size.toNat r.rx.contents r.tx.contents, [], []⟩

end UartSystem

/-- Any interleaving of the threads. -/
def uartMachine : Machine UartSystem UartAction where
  init := UartSystem.Start
  step := UartSystem.step

/-! ### The open and close handshake -/

/-- What the application relies on between two of its steps. -/
def UartApp.Ok (isOpen hasRings : Bool) (w : UartWorker) : UartApp → Prop
  | .idle => (isOpen = true ∧ hasRings = true ∧ w ≠ .gone ∧ w ≠ .exit) ∨
      (isOpen = false ∧ hasRings = false ∧ w = .gone)
  | .create | .undo => isOpen = true ∧ hasRings = true ∧ w = .gone
  | .closeWait => isOpen = false ∧ hasRings = true
  | .closeFree => isOpen = false ∧ hasRings = true ∧ w = .gone

/-- Only the worker of the current session may be running, and `async_task` says
whether it is. -/
structure UartControl (app : UartApp) (isOpen hasRings : Bool) (task : Option Nat)
    (worker : Nat → UartWorker) (session : Nat) : Prop where
  alone : ∀ k, worker k ≠ .gone → k = session
  task : task = if worker session = .gone then none else some session
  app : app.Ok isOpen hasRings (worker session)

/-! ### The rings -/

/-- The receive ring tracks the ledger of the log, and what was handed to the driver,
what the worker holds and what the transmit ring holds is what was accepted. -/
structure RingsOk (r : AsyncRings) (dropped : UInt32) (l : UartLog) (inflight : List UInt8) :
    Prop where
  capacity : l.rxCapacity = r.rxCapacity.size.toNat
  rx : (⟨r.rx, dropped⟩ : Mailbox UInt8 r.rxCapacity).Tracks l.ledger
  reads : l.reads = l.kept.take l.reads.length
  tx : l.handed ++ inflight ++ r.tx.contents = l.accepted

/-- What remains true of a log when its session is over. -/
def LogOk (l : UartLog) : Prop := l.reads <+: l.kept ∧ l.handed <+: l.accepted

/-- The rings and the counter are those that the histories tell of. -/
structure UartData (rings : Option AsyncRings) (dropped : UInt32) (logs : Nat → UartLog)
    (session : Nat) (inflight : List UInt8) : Prop where
  ok : ∀ r, rings = some r → RingsOk r dropped (logs session) inflight
  dropped : dropped.toNat = min (logs session).lost (2 ^ 32 - 1)
  past : ∀ k, k < session ∨ (k = session ∧ rings = none) → LogOk (logs k)

/-- The invariant of a state. -/
def UartSystem.Inv (s : UartSystem) : Prop :=
  UartControl s.app s.state.asyncOpen s.state.rings.isSome s.state.task s.worker s.session ∧
    UartData s.state.rings s.state.rxDropped s.logs s.session (s.worker s.session).inflight

/-! ### What the sections do to rings and logs -/

namespace UartLog

/-- A byte that arrives is a post to the ledger. -/
theorem ledger_arrive (l : UartLog) (x : UInt8) :
    (l.arrive x).ledger = (l.ledger.post l.rxCapacity x).2 := by
  unfold arrive ledger Ledger.post Ledger.untaken
  by_cases h : l.kept.length - l.reads.length < l.rxCapacity
  · have hroom : l.room = true := decide_eq_true h
    rw [if_pos h]
    simp [kept, lost, hroom]
  · have hroom : l.room = false := decide_eq_false h
    rw [if_neg h]
    simp [kept, lost, hroom]

theorem ledger_arriveAll (xs : List UInt8) (l : UartLog) :
    (l.arriveAll xs).ledger = l.ledger.postAll l.rxCapacity xs := by
  induction xs generalizing l with
  | nil => rfl
  | cons x xs ih =>
    show ((l.arrive x).arriveAll xs).ledger = (l.ledger.post l.rxCapacity x).2.postAll _ xs
    rw [ih, ledger_arrive]
    rfl

/-- Arrivals extend the list of arrivals and nothing else. -/
theorem arriveAll_eq (xs : List UInt8) (l : UartLog) :
    ∃ as, l.arriveAll xs = { l with arrivals := l.arrivals ++ as } := by
  induction xs generalizing l with
  | nil => exact ⟨[], by simp [arriveAll]⟩
  | cons x xs ih =>
    obtain ⟨as, has⟩ := ih (l.arrive x)
    refine ⟨(x, l.room) :: as, ?_⟩
    show (l.arrive x).arriveAll xs = _
    rw [has]
    simp [arrive]

theorem kept_append (l : UartLog) (as : List (UInt8 × Bool)) :
    ∃ more, ({ l with arrivals := l.arrivals ++ as } : UartLog).kept = l.kept ++ more := by
  unfold kept
  rw [List.filter_append, List.map_append]
  exact ⟨_, rfl⟩

end UartLog

section Rings

variable {r : AsyncRings} {dropped : UInt32} {l : UartLog} {inflight : List UInt8}

/-- What was read and what is in the receive ring is what was kept. -/
theorem RingsOk.rx_eq (h : RingsOk r dropped l inflight) : l.reads ++ r.rx.contents = l.kept := by
  have hcontents : r.rx.contents = l.kept.drop l.reads.length := h.rx.contents
  calc l.reads ++ r.rx.contents
      = l.kept.take l.reads.length ++ l.kept.drop l.reads.length := by rw [← h.reads, hcontents]
    _ = l.kept := List.take_append_drop _ _

theorem RingsOk.logOk (h : RingsOk r dropped l inflight) : LogOk l := by
  refine ⟨⟨_, h.rx_eq⟩, ?_⟩
  have htx := h.tx
  rw [List.append_assoc] at htx
  exact ⟨_, htx⟩

/-- The worker stores bytes that arrived. -/
theorem RingsOk.store (h : RingsOk r dropped l inflight) (input : List UInt8) :
    RingsOk { r with rx := ((⟨r.rx, dropped⟩ : Mailbox UInt8 r.rxCapacity).postAll input).ring }
      ((⟨r.rx, dropped⟩ : Mailbox UInt8 r.rxCapacity).postAll input).dropped
      (l.arriveAll input) inflight := by
  have hledger := l.ledger_arriveAll input
  have htracks := h.rx.postAll input
  rw [← h.capacity, ← hledger] at htracks
  obtain ⟨as, has⟩ := l.arriveAll_eq input
  obtain ⟨more, hmore⟩ := l.kept_append as
  have hle : l.reads.length ≤ l.kept.length := h.rx.taken_le
  rw [has] at htracks ⊢
  refine ⟨h.capacity, htracks, ?_, h.tx⟩
  show l.reads = _
  rw [hmore, List.take_append_of_le_length hle]
  exact h.reads

/-- The application reads up to `n` bytes. -/
theorem RingsOk.read (h : RingsOk r dropped l inflight) (n : Nat) :
    RingsOk { r with rx := (Ring.drain n r.rx).2 } dropped
      { l with reads := l.reads ++ (Ring.drain n r.rx).1 } inflight := by
  refine ⟨h.capacity, ?_, ?_, h.tx⟩
  · show Mailbox.Tracks _ ⟨l.kept, (l.reads ++ _).length, l.lost⟩
    rw [List.length_append]
    exact h.rx.drain n
  · have hrx := h.rx_eq
    show l.reads ++ _ = l.kept.take (l.reads ++ _).length
    rw [← hrx, Ring.drain_fst, List.length_append, List.take_length_add_append, List.length_take]
    rcases Nat.le_total n r.rx.contents.length with hn | hn
    · rw [Nat.min_eq_left hn]
    · rw [Nat.min_eq_right hn, List.take_length, List.take_of_length_le hn]

/-- The application sends bytes, of which a prefix is accepted. -/
theorem RingsOk.write (h : RingsOk r dropped l inflight) (xs : List UInt8) :
    RingsOk { r with tx := (Ring.fill xs r.tx).2 } dropped
      { l with accepted := l.accepted ++ xs.take (Ring.fill xs r.tx).1 } inflight := by
  refine ⟨h.capacity, h.rx, h.reads, ?_⟩
  show l.handed ++ inflight ++ (Ring.fill xs r.tx).2.contents = _
  rw [Ring.contents_fill, ← List.append_assoc, h.tx]

/-- The worker takes a chunk from the transmit ring. -/
theorem RingsOk.drain (h : RingsOk r dropped l []) (n : Nat) :
    RingsOk { r with tx := (Ring.drain n r.tx).2 } dropped l (Ring.drain n r.tx).1 := by
  refine ⟨h.capacity, h.rx, h.reads, ?_⟩
  have htx := h.tx
  rw [List.append_nil] at htx
  show l.handed ++ _ ++ (Ring.drain n r.tx).2.contents = _
  rw [Ring.contents_drain, Ring.drain_fst, List.append_assoc, List.take_append_drop, htx]

/-- The worker hands the chunk to the driver. -/
theorem RingsOk.hand {output : List UInt8} (h : RingsOk r dropped l output) (failed : Bool) :
    RingsOk r dropped { l with handed := l.handed ++ output, failed := failed } [] := by
  refine ⟨h.capacity, h.rx, h.reads, ?_⟩
  rw [List.append_nil]
  exact h.tx

end Rings

section Control

variable {app : UartApp} {isOpen hasRings : Bool} {task : Option Nat} {worker : Nat → UartWorker}
  {session : Nat}

theorem alone_update (h : ∀ k, worker k ≠ .gone → k = session) (w : UartWorker) (k : Nat)
    (hk : Function.update worker session w k ≠ .gone) : k = session := by
  by_contra hne
  rw [Function.update_of_ne hne] at hk
  exact hne (h k hk)

/-- While a worker runs there are rings, and no open or close holds them. -/
theorem UartControl.running (h : UartControl app isOpen hasRings task worker session)
    (hw : worker session ≠ .gone) :
    hasRings = true ∧ (app = .idle ∧ isOpen = true ∨ app = .closeWait ∧ isOpen = false) := by
  have happ := h.app
  cases app with
  | idle =>
    rcases happ with ⟨hopen, hrings, -⟩ | ⟨-, -, hgone⟩
    · exact ⟨hrings, .inl ⟨rfl, hopen⟩⟩
    · exact absurd hgone hw
  | create | undo | closeFree => exact absurd happ.2.2 hw
  | closeWait => exact ⟨happ.2, .inr ⟨rfl, happ.1⟩⟩

/-- The running worker takes a step other than its last one. -/
theorem UartControl.move (h : UartControl app isOpen hasRings task worker session)
    (hw : worker session ≠ .gone) {w : UartWorker} (hgone : w ≠ .gone)
    (hexit : isOpen = true → w ≠ .exit) :
    UartControl app isOpen hasRings task (Function.update worker session w) session := by
  refine ⟨alone_update h.alone w, ?_, ?_⟩
  · rw [Function.update_self, if_neg hgone, h.task, if_neg hw]
  · rw [Function.update_self]
    obtain ⟨hrings, ⟨rfl, hopen⟩ | ⟨rfl, hclosed⟩⟩ := h.running hw
    · exact .inl ⟨hopen, hrings, hgone, hexit hopen⟩
    · exact ⟨hclosed, hrings⟩

end Control

section Data

variable {r r' : AsyncRings} {dropped dropped' : UInt32} {logs : Nat → UartLog} {session : Nat}
  {inflight inflight' : List UInt8}

/-- Only the rings and the log of the current session change. -/
theorem UartData.update (h : UartData (some r) dropped logs session inflight) {l : UartLog}
    (hok : RingsOk r' dropped' l inflight') :
    UartData (some r') dropped' (Function.update logs session l) session inflight' := by
  refine ⟨fun q hq => ?_, ?_, fun k hk => ?_⟩
  · obtain rfl := Option.some.inj hq
    rwa [Function.update_self]
  · rw [Function.update_self]
    exact hok.rx.dropped
  · rcases hk with hlt | ⟨-, hnone⟩
    · rw [Function.update_of_ne (Nat.ne_of_lt hlt)]
      exact h.past k (.inl hlt)
    · cases hnone

/-- The same without a change of the log. -/
theorem UartData.same (h : UartData (some r) dropped logs session inflight)
    (hok : RingsOk r' dropped (logs session) inflight') :
    UartData (some r') dropped logs session inflight' := by
  have hupdate := h.update hok
  rwa [Function.update_eq_self] at hupdate

end Data

/-! ### Every step keeps the invariant -/

/-- The running worker moves on without touching anything. -/
theorem UartSystem.Inv.move {s : UartSystem} (h : s.Inv) (hne : s.worker s.session ≠ .gone)
    {w : UartWorker} (hgone : w ≠ .gone) (hexit : s.state.asyncOpen = true → w ≠ .exit)
    (hinflight : w.inflight = (s.worker s.session).inflight) :
    (s.setWorker s.session w).Inv := by
  refine ⟨h.1.move hne hgone hexit, ?_⟩
  show UartData _ _ _ _ (Function.update s.worker s.session w s.session).inflight
  rw [Function.update_self, hinflight]
  exact h.2

/-- The running worker moves on after a section or a driver call that changes the rings
and the log of its session. -/
theorem UartSystem.Inv.update {s : UartSystem} (h : s.Inv) (hne : s.worker s.session ≠ .gone)
    {state : BMXESP32UARTState} {r : AsyncRings} {l : UartLog} {w : UartWorker}
    {inflight : List UInt8} {driver : List (Nat × UInt8)}
    (hstate : state.asyncOpen = s.state.asyncOpen ∧ state.task = s.state.task ∧
      state.rings = some r)
    (hok : RingsOk r state.rxDropped l inflight)
    (hw : w ≠ .gone ∧ w ≠ .exit ∧ w.inflight = inflight) :
    UartSystem.Inv ⟨state, s.app, Function.update s.worker s.session w, s.session,
      Function.update s.logs s.session l, driver, s.wire⟩ := by
  obtain ⟨hopen, htask, hrings⟩ := hstate
  obtain ⟨hgone, hexit, rfl⟩ := hw
  obtain ⟨q, hq⟩ : ∃ q, s.state.rings = some q := Option.isSome_iff_exists.mp (h.1.running hne).1
  have hcontrol := h.1.move hne hgone fun _ => hexit
  have hdata := h.2
  rw [hq] at hcontrol hdata
  refine ⟨?_, ?_⟩
  · show UartControl _ state.asyncOpen state.rings.isSome state.task _ _
    rw [hopen, htask, hrings]
    exact hcontrol
  · show UartData state.rings _ _ _ (Function.update s.worker s.session w s.session).inflight
    rw [Function.update_self, hrings]
    exact hdata.update hok

/-- What a step of worker `k` can do: move on, with an error noted or not, one of the sections that
change the rings or the logs, or end. -/
inductive UartSystem.WorkerSteps (s : UartSystem) (k : Nat) (answer : UartAnswer) :
    UartSystem → Prop
  | move (errors : UInt32) {w : UartWorker} (hgone : w ≠ .gone) (hclear : w ≠ .clear)
      (hexit : s.state.asyncOpen = true → w ≠ .exit)
      (hinflight : w.inflight = (s.worker k).inflight) :
      WorkerSteps s k answer ({ s with state := { s.state with errors } }.setWorker k w)
  | store {input : List UInt8} {r : AsyncRings} (hw : s.worker k = .store input)
      (hr : s.state.rings = some r) : WorkerSteps s k answer
        (({ s with state := (asyncReceiveStore input r s.state).2 }.setLog
          (UartLog.arriveAll input)).setWorker k
            (if input.length = asyncChunkSize then .readBytes else .drain))
  | drain {r : AsyncRings} (hw : s.worker k = .drain) (hr : s.state.rings = some r) :
      WorkerSteps s k answer ({ s with state := (asyncTransmitDrain r s.state).2 }.setWorker k
        (if (asyncTransmitDrain r s.state).1.output = [] then .sample
          else .write (asyncTransmitDrain r s.state).1.output))
  | write {output : List UInt8} (hw : s.worker k = .write output) : WorkerSteps s k answer
      (({ s with
        driver := s.driver ++ (output.take answer.taken).map fun x => (s.session, x) }.setLog
          fun l => { l with
            handed := l.handed ++ output
            failed := l.failed || answer.taken != output.length }).setWorker k
          (if answer.taken ≠ output.length then .writeFailed else .sample))
  | poll (hw : s.worker k = .poll) : WorkerSteps s k answer
      (s.setWorker k (if s.driver = [] then .clear else .loop))
  | clear (hw : s.worker k = .clear) : WorkerSteps s k answer
      ({ s with state := (asyncTransmitDone s.state).2 }.setWorker k .loop)
  | exit (hw : s.worker k = .exit) : WorkerSteps s k answer
      ({ s with state := asyncWorkerExit s.state }.setWorker k .gone)

theorem workerStep_running {s s' : UartSystem} {k : Nat} {answer : UartAnswer}
    (hs : s.workerStep k answer = some s') : s.worker k ≠ .gone := by
  intro hgone
  unfold UartSystem.workerStep at hs
  rw [hgone] at hs
  cases hs

theorem workerStep_cases {s s' : UartSystem} {k : Nat} {answer : UartAnswer}
    (hs : s.workerStep k answer = some s') : s.WorkerSteps k answer s' := by
  have hmove (errors : UInt32) (w : UartWorker) (hw : w ≠ .gone ∧ w ≠ .exit ∧
      w.inflight = (s.worker k).inflight) (hclear : w ≠ .clear) :
      s.WorkerSteps k answer ({ s with state := { s.state with errors } }.setWorker k w) :=
    .move errors hw.1 hclear (fun _ => hw.2.1) hw.2.2
  unfold UartSystem.workerStep at hs
  cases hw : s.worker k <;> simp only [hw] at hs <;> rw [hw] at hmove
  case gone => cases hs
  case loop =>
    obtain rfl := Option.some.inj hs
    -- the worker of a closed session ends
    refine .move s.state.errors ?_ ?_ ?_ ?_
    · split <;> nofun
    · split <;> nofun
    · intro hopen
      rw [if_pos hopen]
      nofun
    · rw [hw]
      split <;> rfl
  case event =>
    obtain rfl := Option.some.inj hs
    exact hmove s.state.errors _ (UartWorker.received_ne answer.event)
      (UartWorker.received_ne_clear _)
  case readBytes =>
    split_ifs at hs <;> obtain rfl := Option.some.inj hs <;>
      exact hmove s.state.errors _ ⟨nofun, nofun, rfl⟩ nofun
  case store input =>
    obtain ⟨r, hr, rfl⟩ := Option.map_eq_some_iff.mp hs
    exact .store hw hr
  case error errors =>
    obtain rfl := Option.some.inj hs
    exact hmove (s.state.errors ||| errors) .drain ⟨nofun, nofun, rfl⟩ nofun
  case drain =>
    obtain ⟨r, hr, rfl⟩ := Option.map_eq_some_iff.mp hs
    exact .drain hw hr
  case write output =>
    obtain rfl := Option.some.inj hs
    exact .write hw
  case writeFailed =>
    obtain rfl := Option.some.inj hs
    exact hmove (s.state.errors ||| bmxEsp32UartErrorOverrun) .sample ⟨nofun, nofun, rfl⟩ nofun
  case sample =>
    obtain rfl := Option.some.inj hs
    apply hmove s.state.errors
    · split <;> exact ⟨nofun, nofun, rfl⟩
    · split <;> nofun
  case poll =>
    obtain rfl := Option.some.inj hs
    exact .poll hw
  case clear =>
    obtain rfl := Option.some.inj hs
    exact .clear hw
  case exit =>
    obtain rfl := Option.some.inj hs
    exact .exit hw

/-- What a later step of an open or a close can do. -/
inductive UartSystem.Proceeds (s : UartSystem) : Bool → UartSystem → Prop
  | created (happ : s.app = .create) : Proceeds s true
      ({ s with state := { s.state with task := some s.session }, app := .idle }.setWorker
        s.session .loop)
  | notCreated (happ : s.app = .create) : Proceeds s false { s with app := .undo }
  | undone {created : Bool} (happ : s.app = .undo) :
      Proceeds s created { s with state := asyncOpenUndo s.state, app := .idle }
  | waits {created : Bool} (happ : s.app = .closeWait) (hrunning : s.state.task ≠ none) :
      Proceeds s created s
  | ended {created : Bool} (happ : s.app = .closeWait) (hnone : s.state.task = none) :
      Proceeds s created { s with app := .closeFree }
  | freed {created : Bool} (happ : s.app = .closeFree) :
      Proceeds s created { s with state := asyncCloseEnd s.state, app := .idle }

theorem uartProceed_cases {s s' : UartSystem} {created : Bool}
    (hs : s.proceed created = some s') : s.Proceeds created s' := by
  unfold UartSystem.proceed at hs
  cases happ : s.app <;> simp only [happ] at hs
  case idle => cases hs
  case create =>
    cases created <;> obtain rfl := Option.some.inj hs
    · exact .notCreated happ
    · exact .created happ
  case undo => exact Option.some.inj hs ▸ .undone happ
  case closeWait =>
    split_ifs at hs with hnone <;> obtain rfl := Option.some.inj hs
    · exact .ended happ hnone
    · exact .waits happ hnone
  case closeFree => exact Option.some.inj hs ▸ .freed happ

/-- What a call of the application can do: nothing, or its first section. -/
inductive UartSystem.Calls (s : UartSystem) : UartAction → UartSystem → Prop
  | refused {a : UartAction} (hread : ∀ destination capacity, a = .read destination capacity →
      (bmxEmbeddedUartAsyncRead destination capacity s.state).1 = none) : Calls s a s
  | opened {rxCapacity txCapacity rxToken txToken errorToken : UInt32}
      (h : AsyncOpenAccepts s.state rxCapacity txCapacity rxToken txToken errorToken) :
      Calls s (.openAsync rxCapacity txCapacity rxToken txToken errorToken true)
        { s with
          state := asyncOpenPublish (Capacity.ofPowerOfTwo rxCapacity h.2.2.1)
            (Capacity.ofPowerOfTwo txCapacity h.2.2.2.1) rxToken txToken errorToken s.state
          app := .create
          session := s.session + 1
          logs := Function.update s.logs (s.session + 1) (.start rxCapacity.toNat [] []) }
  | closed (hopen : s.state.asyncOpen = true) : Calls s .closeAsync
      { s with
        state := asyncCloseBegin s.state
        app := if s.state.task = none then .closeFree else .closeWait }
  | read {destination : Bool} {capacity : Int32} {r : AsyncRings} (n : Nat)
      (hr : s.state.rings = some r) : Calls s (.read destination capacity)
        ({ s with
          state := { s.state with rings := some { r with rx := (Ring.drain n r.rx).2 } } }.setLog
            fun l => { l with reads := l.reads ++ (Ring.drain n r.rx).1 })
  | write {source : Option (List UInt8)} {length : Int32} {r : AsyncRings} {xs : List UInt8}
      (hopen : s.state.asyncOpen = true) (hr : s.state.rings = some r)
      (hxs : xs = (source.getD []).take length.toInt.toNat) : Calls s (.write source length)
        ({ s with
          state := { s.state with
            rings := some { r with tx := (Ring.fill xs r.tx).2 }
            txActive := if (Ring.fill xs r.tx).1 ≠ 0 then true else s.state.txActive } }.setLog
            fun l => { l with accepted := l.accepted ++ xs.take (Ring.fill xs r.tx).1 })

theorem uartCall_cases {s s' : UartSystem} {a : UartAction} (hs : s.call a = some s') :
    s.Calls a s' := by
  unfold UartSystem.call at hs
  cases a with
  | openAsync rxCapacity txCapacity rxToken txToken errorToken buffers =>
    dsimp only at hs
    split_ifs at hs with haccepts hbuffers
    · exact Option.some.inj hs ▸ .refused nofun
    · rw [Bool.not_eq_true, Bool.not_eq_false'] at hbuffers
      obtain rfl := Option.some.inj hs
      exact hbuffers ▸ .opened haccepts
    · exact Option.some.inj hs ▸ .refused nofun
  | closeAsync =>
    dsimp only at hs
    rcases hopen : s.state.asyncOpen with - | -
    · rw [hopen, if_pos Bool.not_false] at hs
      exact Option.some.inj hs ▸ .refused nofun
    · rw [hopen, if_neg (by rw [Bool.not_true]; exact Bool.false_ne_true)] at hs
      exact Option.some.inj hs ▸ .closed hopen
  | read destination capacity =>
    obtain rfl := Option.some.inj hs
    rcases asyncRead_cases destination capacity s.state with he | ⟨r, n, -, hr, he⟩
    · simp only [he, UartSystem.setLog, Option.getD_none, List.append_nil, Function.update_eq_self]
      refine .refused fun destination' capacity' ha => ?_
      cases ha
      rw [he]
    · simp only [he, Option.getD_some]
      exact .read n hr
  | write source length =>
    obtain rfl := Option.some.inj hs
    rcases asyncWrite_cases source length s.state with he | ⟨r, hopen, hr, he⟩
    · simp only [he, UartSystem.setLog, Option.getD_none, List.take_zero, List.append_nil,
        Function.update_eq_self]
      exact .refused nofun
    · -- no more is accepted than there is to write
      have hle := (Ring.fill_fst_le ((source.getD []).take length.toInt.toNat) r.tx).trans
        (List.length_take_le _ _)
      simp only [he, Option.getD_some]
      rw [← Nat.min_eq_left hle, ← List.take_take, Nat.min_eq_left hle]
      exact .write hopen hr rfl
  | proceed | worker | transmit => cases hs

theorem inv_workerStep {s s' : UartSystem} (h : s.Inv) {k : Nat} {answer : UartAnswer}
    (hs : s.workerStep k answer = some s') : s'.Inv := by
  have hne := workerStep_running hs
  obtain rfl := h.1.alone k hne
  have hok := h.2.ok
  cases workerStep_cases hs with
  | move _ hgone _ hexit hinflight => exact h.move hne hgone hexit hinflight
  | @store input r hw hr =>
    refine h.update hne ⟨rfl, rfl, rfl⟩ ((hok r hr).store input) ?_
    rw [hw]
    split <;> exact ⟨nofun, nofun, rfl⟩
  | @drain r hw hr =>
    rw [hw] at hok
    show UartSystem.Inv ⟨_, _, _, _, s.logs, _, _⟩
    rw [← Function.update_eq_self s.session s.logs]
    refine h.update hne ⟨rfl, rfl, rfl⟩ ((hok r hr).drain asyncChunkSize) ?_
    split
    next hempty => exact ⟨nofun, nofun, hempty.symm⟩
    next => exact ⟨nofun, nofun, rfl⟩
  | @write output hw =>
    rw [hw] at hok
    obtain ⟨r, hr⟩ := Option.isSome_iff_exists.mp (h.1.running hne).1
    refine h.update hne ⟨rfl, rfl, hr⟩
      ((hok r hr).hand ((s.logs s.session).failed || answer.taken != output.length)) ?_
    split <;> exact ⟨nofun, nofun, rfl⟩
  | poll hw =>
    apply h.move hne
    · split <;> nofun
    · intro _
      split <;> nofun
    · rw [hw]
      split <;> rfl
  | clear hw => exact h.move hne nofun (fun _ => nofun) (by rw [hw]; rfl)
  | exit hw =>
    -- an open session keeps its worker, so the application is waiting for this step
    obtain ⟨hrings, ⟨happ, hopen⟩ | ⟨happ, hclosed⟩⟩ := h.1.running hne
    · have hidle := h.1.app
      rw [happ, hw] at hidle
      rcases hidle with ⟨-, -, -, hexit⟩ | ⟨-, -, hgone⟩
      · exact absurd rfl hexit
      · cases hgone
    · refine ⟨⟨alone_update h.1.alone .gone, ?_, ?_⟩, ?_⟩
      · show none = if Function.update s.worker s.session .gone s.session = .gone then none else
          some s.session
        rw [Function.update_self, if_pos rfl]
      · show UartApp.Ok _ _ _ s.app
        rw [happ]
        exact ⟨hclosed, hrings⟩
      · show UartData s.state.rings _ _ _ (Function.update s.worker s.session .gone s.session).inflight
        rw [Function.update_self]
        have hdata := h.2
        rw [hw] at hdata
        exact hdata

/-- The later steps of an open or a close. -/
theorem inv_proceed_uart {s s' : UartSystem} (h : s.Inv) {created : Bool}
    (hs : s.proceed created = some s') : s'.Inv := by
  obtain ⟨hc, hd⟩ := h
  have happ := hc.app
  have htask := hc.task
  -- the session ends when its buffers go
  have hend (hgone : s.worker s.session = .gone) :
      UartData none s.state.rxDropped s.logs s.session (s.worker s.session).inflight := by
    refine ⟨nofun, hd.dropped, fun k hk => ?_⟩
    rcases hk with hlt | ⟨rfl, -⟩
    · exact hd.past k (.inl hlt)
    · rcases hr : s.state.rings with - | r
      · exact hd.past s.session (.inr ⟨rfl, hr⟩)
      · exact (hd.ok r hr).logOk
  cases uartProceed_cases hs with
  | created ha =>
    rw [ha] at happ
    obtain ⟨hopen, hrings, hgone⟩ := happ
    refine ⟨⟨alone_update hc.alone .loop, ?_, ?_⟩, ?_⟩
    · show some s.session = if Function.update s.worker s.session .loop s.session = .gone then none
        else some s.session
      rw [Function.update_self, if_neg nofun]
    · show UartApp.Ok _ _ (Function.update s.worker s.session .loop s.session) .idle
      rw [Function.update_self]
      exact .inl ⟨hopen, hrings, nofun, nofun⟩
    · show UartData _ _ _ _ (Function.update s.worker s.session .loop s.session).inflight
      rw [Function.update_self]
      rw [hgone] at hd
      exact hd
  | notCreated ha =>
    rw [ha] at happ
    exact ⟨⟨hc.alone, hc.task, happ⟩, hd⟩
  | undone ha =>
    rw [ha] at happ
    obtain ⟨-, -, hgone⟩ := happ
    exact ⟨⟨hc.alone, hc.task, .inr ⟨rfl, rfl, hgone⟩⟩, hend hgone⟩
  | waits => exact ⟨hc, hd⟩
  | ended ha hnone =>
    rw [ha] at happ
    have hgone : s.worker s.session = .gone := by
      by_contra hne
      rw [htask, if_neg hne] at hnone
      cases hnone
    exact ⟨⟨hc.alone, hc.task, ⟨happ.1, happ.2, hgone⟩⟩, hd⟩
  | freed ha =>
    rw [ha] at happ
    obtain ⟨hclosed, -, hgone⟩ := happ
    exact ⟨⟨hc.alone, hc.task, .inr ⟨hclosed, rfl, hgone⟩⟩, hend hgone⟩

/-- A section of the application that changes the rings and the log of the session. -/
theorem UartSystem.Inv.access {s : UartSystem} (h : s.Inv) {state : BMXESP32UARTState}
    {r r' : AsyncRings} {l : UartLog} (hr : s.state.rings = some r)
    (hstate : state.asyncOpen = s.state.asyncOpen ∧ state.task = s.state.task ∧
      state.rings = some r')
    (hok : RingsOk r' state.rxDropped l (s.worker s.session).inflight) :
    UartSystem.Inv { s with state := state, logs := Function.update s.logs s.session l } := by
  obtain ⟨hopen, htask, hrings⟩ := hstate
  obtain ⟨hc, hd⟩ := h
  rw [hr] at hc hd
  refine ⟨?_, ?_⟩
  · show UartControl _ state.asyncOpen state.rings.isSome state.task _ _
    rw [hopen, htask, hrings]
    exact hc
  · show UartData state.rings _ _ _ _
    rw [hrings]
    exact hd.update hok

/-- The calls of the application. -/
theorem inv_call {s s' : UartSystem} (h : s.Inv) (hidle : s.app = .idle) {a : UartAction}
    (hs : s.call a = some s') : s'.Inv := by
  obtain ⟨hc, hd⟩ := h
  have happ := hc.app
  have htask := hc.task
  rw [hidle] at happ
  cases uartCall_cases hs with
  | refused => exact ⟨hc, hd⟩
  | opened haccepts =>
    -- the session before has no worker any more
    have hclosed : s.state.asyncOpen = false := by simpa using haccepts.2.1
    obtain ⟨hopen, -, -, -⟩ | ⟨-, hrings, hgone⟩ := happ
    · rw [hclosed] at hopen
      cases hopen
    have hnone (k : Nat) : s.worker k = .gone := by
      by_contra hk
      obtain rfl := hc.alone k hk
      exact hk hgone
    refine ⟨⟨fun k hk => absurd (hnone k) hk, ?_, ⟨rfl, rfl, hnone _⟩⟩, ?_⟩
    · show s.state.task = if s.worker (s.session + 1) = .gone then none else _
      rw [htask, if_pos hgone, if_pos (hnone _)]
    · refine ⟨fun r hr => ?_, ?_, fun k hk => ?_⟩
      · obtain rfl := Option.some.inj hr
        show RingsOk _ 0 (Function.update s.logs (s.session + 1) _ (s.session + 1))
          (s.worker (s.session + 1)).inflight
        rw [Function.update_self, hnone]
        exact ⟨rfl, ⟨Nat.zero_le _, Ring.contents_empty, rfl⟩, rfl, Ring.contents_empty⟩
      · show 0 = min (Function.update s.logs (s.session + 1) _ (s.session + 1)).lost _
        rw [Function.update_self]
        rfl
      · rcases hk with hlt | ⟨-, hr⟩
        · show LogOk (Function.update s.logs (s.session + 1) _ k)
          rw [Function.update_of_ne (Nat.ne_of_lt hlt)]
          apply hd.past
          rcases Nat.lt_succ_iff_lt_or_eq.mp hlt with hlt | rfl
          · exact .inl hlt
          · exact .inr ⟨rfl, by simpa using hrings⟩
        · cases hr
  | closed hopen =>
    obtain ⟨-, hrings, hgone, -⟩ | ⟨hclosed, -, -⟩ := happ
    · refine ⟨⟨hc.alone, hc.task, ?_⟩, hd⟩
      have hrunning : s.state.task ≠ none := by
        rw [htask, if_neg hgone]
        exact Option.some_ne_none _
      show UartApp.Ok _ _ _ (if s.state.task = none then .closeFree else .closeWait)
      rw [if_neg hrunning]
      exact ⟨rfl, hrings⟩
    · rw [hopen] at hclosed
      cases hclosed
  | read n hr =>
    exact UartSystem.Inv.access ⟨hc, hd⟩ hr ⟨rfl, rfl, rfl⟩ ((hd.ok _ hr).read n)
  | write _ hr =>
    exact UartSystem.Inv.access ⟨hc, hd⟩ hr ⟨rfl, rfl, rfl⟩ ((hd.ok _ hr).write _)

theorem uartInv_step {s s' : UartSystem} (h : s.Inv) {a : UartAction} (hs : s.step a = some s') :
    s'.Inv := by
  cases a with
  | worker k answer => exact inv_workerStep h hs
  | proceed created => exact inv_proceed_uart h hs
  | transmit =>
    unfold UartSystem.step at hs
    rcases hdriver : s.driver with - | ⟨x, rest⟩ <;> simp only [hdriver] at hs
    · cases hs
    · exact Option.some.inj hs ▸ h
  | openAsync | closeAsync | read | write =>
    unfold UartSystem.step at hs
    dsimp only at hs
    split_ifs at hs with hidle
    exact inv_call h hidle hs

theorem uartInv_of_start {s : UartSystem} (h : s.Start) : s.Inv := by
  -- either no session has been opened, or the first one is open with what its rings hold
  cases h with
  | boot state hclosed hrings htask hdropped =>
    refine ⟨⟨fun k hk => absurd rfl hk, htask, .inr ⟨hclosed, ?_, rfl⟩⟩, ?_⟩
    · rw [hrings]
      rfl
    · refine ⟨fun r hr => ?_, ?_, fun k _ => ⟨List.nil_prefix, List.nil_prefix⟩⟩
      · rw [hrings] at hr
        cases hr
      · show state.rxDropped.toNat = _
        rw [hdropped]
        rfl
  | opened state r hopen hrings htask hdropped hactive =>
    have hkept : (UartLog.start r.rxCapacity.size.toNat r.rx.contents r.tx.contents).kept =
        r.rx.contents := by
      simp [UartLog.kept, UartLog.start, List.filter_map, Function.comp_def]
    have hlost : (UartLog.start r.rxCapacity.size.toNat r.rx.contents r.tx.contents).lost = 0 := by
      simp [UartLog.lost, UartLog.start, List.countP_map, Function.comp_def]
    refine ⟨⟨alone_update (fun _ hk => absurd rfl hk) .loop, ?_, ?_⟩, ?_⟩
    · show state.task = if Function.update (fun _ => UartWorker.gone) 0 .loop 0 = .gone then none
        else some 0
      rw [Function.update_self, if_neg nofun, htask]
    · show UartApp.Ok _ state.rings.isSome
        (Function.update (fun _ => UartWorker.gone) 0 .loop 0) .idle
      rw [Function.update_self, hrings]
      exact .inl ⟨hopen, rfl, nofun, nofun⟩
    · refine ⟨fun q hq => ?_, ?_, fun k hk => ?_⟩
      · obtain rfl := Option.some.inj (hrings.symm.trans hq)
        show RingsOk r state.rxDropped _
          (Function.update (fun _ => UartWorker.gone) 0 .loop 0).inflight
        rw [Function.update_self]
        refine ⟨rfl, ⟨Nat.zero_le _, hkept.symm, ?_⟩, rfl, rfl⟩
        show state.rxDropped.toNat = min (UartLog.lost _) _
        rw [hdropped, hlost]
        rfl
      · show state.rxDropped.toNat = min (UartLog.lost _) _
        rw [hdropped, hlost]
        rfl
      · rcases hk with hlt | ⟨-, hnone⟩
        · exact absurd hlt (Nat.not_lt_zero k)
        · rw [hrings] at hnone
          cases hnone

theorem uartInv_of_reachable {s : UartSystem} (h : uartMachine.Reachable s) : s.Inv :=
  h.invariant (fun _ => uartInv_of_start) fun _ _ _ hs _ hstep => uartInv_step hs hstep

/-! ### Sessions refine bounded FIFOs -/

/-- What whole sessions satisfy, in every state. -/
structure UartSafe (s : UartSystem) : Prop where
  /-- Neither ring ever holds more than its capacity. -/
  bounded : ∀ r, s.state.rings = some r →
    r.rx.put - r.rx.get ≤ r.rxCapacity.size ∧ r.tx.put - r.tx.get ≤ r.txCapacity.size
  /-- What was read and what the receive ring holds are the bytes that arrived while a
  FIFO of the requested capacity had room. -/
  rx : ∀ r, s.state.rings = some r →
    (s.logs s.session).rxCapacity = r.rxCapacity.size.toNat ∧
      (s.logs s.session).reads ++ r.rx.contents = (s.logs s.session).kept
  /-- The others are counted. -/
  dropped : (bmxEmbeddedUartAsyncRxDropped s.state).toNat =
    min (s.logs s.session).lost (2 ^ 32 - 1)
  /-- What was handed to the driver, what is on its way there and what the transmit ring
  holds are the bytes accepted. -/
  tx : ∀ r, s.state.rings = some r →
    (s.logs s.session).handed ++ (s.worker s.session).inflight ++ r.tx.contents =
      (s.logs s.session).accepted
  /-- An open session tells how much it can read, and what its transmit ring has room for. -/
  available : s.state.asyncOpen = true → ∀ r, s.state.rings = some r →
    (bmxEmbeddedUartAsyncReadAvailable s.state).toNat = r.rx.contents.length ∧
      (bmxEmbeddedUartAsyncWriteAvailable s.state).toNat + r.tx.contents.length =
        r.txCapacity.size.toNat
  /-- Sessions that are over read and handed on nothing but bytes of their own. -/
  past : ∀ k, k < s.session → LogOk (s.logs k)
  /-- When a close has returned there are no buffers and no worker is left. -/
  closed : s.app = .idle → s.state.asyncOpen = false →
    s.state.rings = none ∧ ∀ k, s.worker k = .gone
  /-- A worker that accesses a buffer, and an application that has a session open,
  find it there. -/
  buffers : (∀ k, (s.worker k).touches = true → s.state.rings ≠ none) ∧
    (s.state.asyncOpen = true → s.state.rings ≠ none)
  /-- There is at most one worker, and it is that of the current session. -/
  unique : ∀ k, s.worker k ≠ .gone → k = s.session

theorem uartSafe_of_inv {s : UartSystem} (h : s.Inv) : UartSafe s := by
  obtain ⟨hc, hd⟩ := h
  have happ := hc.app
  refine ⟨fun r _ => ⟨r.rx.bounded, r.tx.bounded⟩, fun r hr => ⟨(hd.ok r hr).capacity,
    (hd.ok r hr).rx_eq⟩, hd.dropped, fun r hr => (hd.ok r hr).tx,
    fun hopen r hr => available_of_open hopen hr, fun k hk => hd.past k (.inl hk),
    fun hidle hclosed => ?_, ⟨fun k hk hnone => ?_, fun hopen hnone => ?_⟩, hc.alone⟩
  · rw [hidle] at happ
    obtain ⟨hopen, -⟩ | ⟨-, hrings, hgone⟩ := happ
    · rw [hclosed] at hopen
      cases hopen
    · refine ⟨by simpa using hrings, fun k => ?_⟩
      by_contra hk
      obtain rfl := hc.alone k hk
      exact hk hgone
  · -- a worker at work is that of the current session, which has rings
    have hne : s.worker k ≠ .gone := by
      intro hgone
      rw [hgone] at hk
      cases hk
    obtain rfl := hc.alone k hne
    have hrings := (hc.running hne).1
    rw [hnone] at hrings
    cases hrings
  · rw [hopen, hnone] at happ
    cases ha : s.app <;> rw [ha] at happ
    case idle =>
      obtain ⟨-, hrings, -⟩ | ⟨hclosed, -⟩ := happ
      · cases hrings
      · cases hclosed
    case create => cases happ.2.1
    case undo => cases happ.2.1
    case closeWait => cases happ.1
    case closeFree => cases happ.1

/-- **Sessions of the buffered UART refine bounded FIFOs**, for all capacities, from
all counter values, and over any number of sessions. -/
theorem uart_sessions_refine_fifo (s : UartSystem) (h : uartMachine.Reachable s) : UartSafe s :=
  uartSafe_of_inv (uartInv_of_reachable h)

/-- The state at boot, for an initialised controller. -/
def uartBoot : UartSystem :=
  ⟨⟨true, 0, none, 0, 0, 0, 0, none, false, false⟩, .idle, fun _ => .gone, 0,
    fun _ => .start 0 [] [], [], []⟩

theorem uartBoot_start : uartMachine.init uartBoot := .boot _ rfl rfl rfl rfl

/-- Three bytes are written to a ring of two, and the worker hands on what fitted. -/
theorem uart_sessions_refine_fifo_two_bytes :
    ∃ s, (s.logs s.session).accepted = [1, 2] ∧ (s.logs s.session).handed = [1, 2] ∧
      UartSafe s := by
  obtain ⟨s, hs, hp⟩ := exists_reachable_of_run
    [.openAsync 2 2 1 2 3 true, .proceed true, .write (some [1, 2, 3]) 3, .worker 1 {},
      .worker 1 {}, .worker 1 {}, .worker 1 { taken := 2 }]
    (fun s : UartSystem =>
      decide ((s.logs s.session).accepted = [1, 2] ∧ (s.logs s.session).handed = [1, 2]))
    uartBoot_start (by decide)
  obtain ⟨haccepted, hhanded⟩ := of_decide_eq_true hp
  exact ⟨s, haccepted, hhanded, uart_sessions_refine_fifo s hs⟩

end Esp32Mod
