/-
Esp32Mod/UartIdle.lean

What an idle transmitter of the buffered UART means.

`bmx_embedded_uart_async_tx_idle` answers 1 when the transmit ring is empty and
`async_tx_active` is clear.  The worker clears the flag after `uart_wait_tx_done` has
answered that the driver holds nothing.  That answer is about the driver alone, and it
is old when the flag is cleared: bytes may be in the ring already, or be written to it
before the clearing section.  A later drain takes these bytes to the driver with the flag
clear, and the transmitter looks idle while they are on their way.

`ClearsEarly` is the step that makes this possible.

Main results:

* `uart_idle_means_sent` — without such a step, an idle transmitter has sent everything;
* `uart_idle_not_sent` — with one, it may not have.
-/
import Esp32Mod.UartSession

namespace Esp32Mod

open RingBuffer StepMachine Machine

/-- The bytes of session `n`. -/
def bytesOf (n : Nat) (xs : List (Nat × UInt8)) : List UInt8 :=
  (xs.filter fun x => x.1 = n).map fun x => x.2

@[simp] theorem bytesOf_append (n : Nat) (xs ys : List (Nat × UInt8)) :
    bytesOf n (xs ++ ys) = bytesOf n xs ++ bytesOf n ys := by
  unfold bytesOf
  rw [List.filter_append, List.map_append]

@[simp] theorem bytesOf_tagged (n : Nat) (xs : List UInt8) :
    bytesOf n (xs.map fun x => (n, x)) = xs := by
  simp [bytesOf, List.filter_map, Function.comp_def]

/-- Bytes of earlier sessions only. -/
theorem bytesOf_of_lt {n : Nat} {xs : List (Nat × UInt8)} (h : ∀ x ∈ xs, x.1 < n) :
    bytesOf n xs = [] := by
  unfold bytesOf
  rw [List.map_eq_nil_iff, List.filter_eq_nil_iff]
  intro x hx
  simpa using Nat.ne_of_lt (h x hx)

/-- The worker's poll succeeds while the transmit ring is not empty, or bytes are
written between a successful poll and the section that clears `async_tx_active`. -/
def ClearsEarly (s : UartSystem) : UartAction → Prop
  | .worker k _ => s.worker k = .poll ∧ s.driver = [] ∧
      ∃ r, s.state.rings = some r ∧ r.tx.get ≠ r.tx.put
  | .write source length => (∃ k, s.worker k = .clear) ∧
      (source.getD []).take length.toInt.toNat ≠ []
  | _ => False

/-! ### The invariant -/

/-- What the flag says about the ring, the worker and the driver. -/
structure IdleInv (rings : Option AsyncRings) (active : Bool) (w : UartWorker)
    (driver wire : List (Nat × UInt8)) (l : UartLog) (session : Nat) : Prop where
  tags : ∀ x ∈ wire ++ driver, x.1 ≤ session
  sent : l.failed = false → bytesOf session (wire ++ driver) = l.handed
  quiet : active = false → ∀ r, rings = some r →
    r.tx.contents = [] ∧ w.inflight = [] ∧ bytesOf session driver = []
  clearing : w = .clear → driver = [] ∧ ∀ r, rings = some r → r.tx.contents = []

/-- `IdleInv` of the current session. -/
def UartSystem.IdleInv (s : UartSystem) : Prop :=
  Esp32Mod.IdleInv s.state.rings s.state.txActive (s.worker s.session) s.driver s.wire
    (s.logs s.session) s.session

/-- The worker moves on, and the transmit side stays as it is. -/
theorem IdleInv.move {rings : Option AsyncRings} {active : Bool} {w w' : UartWorker}
    {driver wire : List (Nat × UInt8)} {l : UartLog} {session : Nat}
    (h : Esp32Mod.IdleInv rings active w driver wire l session) {rings' : Option AsyncRings}
    {l' : UartLog}
    (htx : ∀ r', rings' = some r' → ∃ r, rings = some r ∧ r'.tx.contents = r.tx.contents)
    (hl : l'.failed = l.failed ∧ l'.handed = l.handed)
    (hw : w'.inflight = w.inflight) (hclear : w' ≠ .clear) :
    Esp32Mod.IdleInv rings' active w' driver wire l' session := by
  refine ⟨h.tags, ?_, fun hactive r' hr' => ?_, fun hc => absurd hc hclear⟩
  · rw [hl.1, hl.2]
    exact h.sent
  · obtain ⟨r, hr, hcontents⟩ := htx r' hr'
    rw [hcontents, hw]
    exact h.quiet hactive r hr

/-- The worker takes a chunk from the transmit ring: none, if that is empty. -/
theorem IdleInv.drain {r : AsyncRings} {active : Bool} {w w' : UartWorker}
    {driver wire : List (Nat × UInt8)} {l : UartLog} {session : Nat}
    (h : Esp32Mod.IdleInv (some r) active w driver wire l session) (n : Nat)
    (hw : w'.inflight = (Ring.drain n r.tx).1 ∧ w' ≠ .clear) :
    Esp32Mod.IdleInv (some { r with tx := (Ring.drain n r.tx).2 }) active w' driver wire l
      session := by
  refine ⟨h.tags, h.sent, fun hactive r' hr' => ?_, fun hc => absurd hc hw.2⟩
  obtain ⟨hcontents, -, hdriver⟩ := h.quiet hactive r rfl
  obtain rfl := Option.some.inj hr'
  refine ⟨?_, ?_, hdriver⟩
  · show (Ring.drain n r.tx).2.contents = []
    rw [Ring.contents_drain, hcontents, List.drop_nil]
  · rw [hw.1, Ring.drain_fst, hcontents, List.take_nil]

/-- The worker hands a chunk to the driver. -/
theorem IdleInv.hand {rings : Option AsyncRings} {active : Bool} {w' : UartWorker}
    {output : List UInt8} {driver wire : List (Nat × UInt8)} {l : UartLog} {session : Nat}
    (h : Esp32Mod.IdleInv rings active (.write output) driver wire l session) (taken : Nat)
    (hw : w'.inflight = [] ∧ w' ≠ .clear) :
    Esp32Mod.IdleInv rings active w'
      (driver ++ (output.take taken).map fun x => (session, x)) wire
      { l with handed := l.handed ++ output, failed := l.failed || taken != output.length }
      session := by
  refine ⟨fun x hx => ?_, fun hfailed => ?_, fun hactive r hr => ?_, fun hc => absurd hc hw.2⟩
  · rw [← List.append_assoc] at hx
    rcases List.mem_append.mp hx with hold | hnew
    · exact h.tags x hold
    · obtain ⟨y, -, rfl⟩ := List.mem_map.mp hnew
      exact Nat.le_refl _
  · -- the driver has taken the whole chunk
    obtain ⟨hold, htaken⟩ : l.failed = false ∧ taken = output.length := by simpa using hfailed
    rw [← List.append_assoc, bytesOf_append, h.sent hold, bytesOf_tagged, htaken, List.take_length]
  · obtain ⟨hcontents, hinflight, hdriver⟩ := h.quiet hactive r hr
    have hnil : output = [] := hinflight
    rw [bytesOf_append, bytesOf_tagged, hdriver, hnil, List.take_nil]
    exact ⟨hcontents, hw.1, rfl⟩

/-- Putting a state together after a step of the worker. -/
theorem idleInv_worker {state : BMXESP32UARTState} {app : UartApp} {worker : Nat → UartWorker}
    {session : Nat} {logs : Nat → UartLog} {driver wire : List (Nat × UInt8)} {w : UartWorker}
    (h : Esp32Mod.IdleInv state.rings state.txActive w driver wire (logs session) session) :
    UartSystem.IdleInv ⟨state, app, Function.update worker session w, session, logs, driver,
      wire⟩ := by
  show Esp32Mod.IdleInv _ _ (Function.update worker session w session) _ _ _ _
  rwa [Function.update_self]

/-- The same when the log of the session changes too. -/
theorem idleInv_log {state : BMXESP32UARTState} {app : UartApp} {worker : Nat → UartWorker}
    {session : Nat} {logs : Nat → UartLog} {driver wire : List (Nat × UInt8)} {w : UartWorker}
    {l : UartLog}
    (h : Esp32Mod.IdleInv state.rings state.txActive w driver wire l session) :
    UartSystem.IdleInv ⟨state, app, Function.update worker session w, session,
      Function.update logs session l, driver, wire⟩ :=
  idleInv_worker (by rwa [Function.update_self])

/-! ### Every step keeps it -/

theorem idle_workerStep {s s' : UartSystem} (hinv : s.Inv) (h : s.IdleInv) {k : Nat}
    {answer : UartAnswer} (hclear : ¬ ClearsEarly s (.worker k answer))
    (hs : s.workerStep k answer = some s') : s'.IdleInv := by
  -- only the worker of the current session runs
  obtain rfl := hinv.1.alone k (workerStep_running hs)
  cases workerStep_cases hs with
  | move _ _ hnext _ hinflight =>
    exact idleInv_worker (h.move (fun r' hr' => ⟨r', hr', rfl⟩) ⟨rfl, rfl⟩ hinflight hnext)
  | @store input r hw hr =>
    obtain ⟨as, has⟩ := (s.logs s.session).arriveAll_eq input
    refine idleInv_log (h.move (fun r' hr' => ⟨r, hr, ?_⟩) ?_ ?_ ?_)
    · obtain rfl := Option.some.inj hr'
      rfl
    · rw [has]
      exact ⟨rfl, rfl⟩
    · rw [hw]
      split <;> rfl
    · split <;> nofun
  | @drain r hw hr =>
    have hsome := h
    unfold UartSystem.IdleInv at hsome
    rw [hr] at hsome
    refine idleInv_worker (hsome.drain asyncChunkSize ?_)
    split
    next hempty => exact ⟨hempty.symm, nofun⟩
    next => exact ⟨rfl, nofun⟩
  | write hw =>
    have hwrite := h
    unfold UartSystem.IdleInv at hwrite
    rw [hw] at hwrite
    refine idleInv_log (hwrite.hand answer.taken ?_)
    split <;> exact ⟨rfl, nofun⟩
  | poll hw =>
    refine idleInv_worker ⟨h.tags, h.sent, fun hactive r' hr' => ?_, fun hc => ?_⟩
    · obtain ⟨hcontents, -, hdriver⟩ := h.quiet hactive r' hr'
      refine ⟨hcontents, ?_, hdriver⟩
      split <;> rfl
    · split at hc
      next hempty =>
        refine ⟨hempty, fun r' hr' => ?_⟩
        rw [← Ring.get_eq_put_iff]
        -- bytes that came in meanwhile are what the condition excludes
        by_contra hne
        exact hclear ⟨hw, hempty, r', hr', hne⟩
      next => cases hc
  | clear hw =>
    -- the ring and the driver were empty when the flag is cleared
    obtain ⟨hdriver, hcontents⟩ := h.clearing hw
    refine idleInv_worker ⟨h.tags, h.sent, fun _ r' hr' => ⟨hcontents r' hr', rfl, ?_⟩, nofun⟩
    rw [hdriver]
    rfl
  | exit hw =>
    refine idleInv_worker (h.move (fun r' hr' => ⟨r', hr', rfl⟩) ⟨rfl, rfl⟩ ?_ nofun)
    rw [hw]
    rfl

theorem idle_call {s s' : UartSystem} (hinv : s.Inv) (h : s.IdleInv) {a : UartAction}
    (hclear : ¬ ClearsEarly s a) (hs : s.call a = some s') : s'.IdleInv := by
  cases uartCall_cases hs with
  | refused => exact h
  | opened =>
    -- a new session has no worker yet, and none of the bytes on the way are its own
    have hgone : s.worker (s.session + 1) = .gone := by
      by_contra hk
      exact absurd (hinv.1.alone _ hk) (Nat.succ_ne_self _)
    have hold : ∀ x ∈ s.wire ++ s.driver, x.1 < s.session + 1 :=
      fun x hx => Nat.lt_succ_of_le (h.tags x hx)
    have hdriver : ∀ x ∈ s.driver, x.1 < s.session + 1 :=
      fun x hx => hold x (List.mem_append_right _ hx)
    show Esp32Mod.IdleInv _ _ (s.worker (s.session + 1)) _ _
      (Function.update s.logs (s.session + 1) _ (s.session + 1)) _
    rw [Function.update_self, hgone]
    refine ⟨fun x hx => Nat.le_of_lt (hold x hx), fun _ => bytesOf_of_lt hold,
      fun _ r hr => ?_, fun h => UartWorker.noConfusion h⟩
    obtain rfl := Option.some.inj hr
    exact ⟨Ring.contents_empty, rfl, bytesOf_of_lt hdriver⟩
  | closed => exact h
  | @read destination capacity r n hr =>
    rw [← Function.update_eq_self s.session s.worker]
    refine idleInv_log ⟨h.tags, h.sent, fun hactive r' hr' => ?_, fun hc => ?_⟩
    · obtain rfl := Option.some.inj hr'
      exact h.quiet hactive r hr
    · obtain ⟨hdriver, hcontents⟩ := h.clearing hc
      refine ⟨hdriver, fun r' hr' => ?_⟩
      obtain rfl := Option.some.inj hr'
      exact hcontents r hr
  | @write source length r xs _ hr hxs =>
    rw [← Function.update_eq_self s.session s.worker]
    have hcontents' := Ring.contents_fill xs r.tx
    refine idleInv_log ⟨h.tags, h.sent, fun hactive r' hr' => ?_, fun hc => ?_⟩
    · -- the flag is clear after a write only if it was before and nothing was accepted
      obtain rfl := Option.some.inj hr'
      dsimp only at hactive
      split_ifs at hactive with haccepted
      obtain ⟨hcontents, hrest⟩ := h.quiet hactive r hr
      rw [not_not] at haccepted
      rw [haccepted, List.take_zero, List.append_nil, hcontents] at hcontents'
      exact ⟨hcontents', hrest⟩
    · obtain ⟨hdriver, hcontents⟩ := h.clearing hc
      refine ⟨hdriver, fun r' hr' => ?_⟩
      obtain rfl := Option.some.inj hr'
      -- a write that accepts bytes now is what the condition excludes
      have hnothing : xs = [] := by
        by_contra hsome
        exact hclear ⟨⟨_, hc⟩, hxs ▸ hsome⟩
      rw [hnothing, List.take_nil, List.append_nil, hcontents r hr] at hcontents'
      rw [hnothing]
      exact hcontents'

theorem idle_step {s s' : UartSystem} (hinv : s.Inv) (h : s.IdleInv) {a : UartAction}
    (hclear : ¬ ClearsEarly s a) (hs : s.step a = some s') : s'.IdleInv := by
  cases a with
  | worker k answer => exact idle_workerStep hinv h hclear hs
  | proceed created =>
    cases uartProceed_cases hs with
    | created ha =>
      rw [← Function.update_eq_self s.session s.logs]
      refine idleInv_log (h.move (fun r' hr' => ⟨r', hr', rfl⟩) ⟨rfl, rfl⟩ ?_ nofun)
      have happ := hinv.1.app
      rw [ha] at happ
      rw [happ.2.2]
      rfl
    | notCreated | waits | ended => exact h
    | undone | freed => exact ⟨h.tags, h.sent, nofun, fun hc => ⟨(h.clearing hc).1, nofun⟩⟩
  | transmit =>
    unfold UartSystem.step at hs
    rcases hdriver : s.driver with - | ⟨x, rest⟩ <;> simp only [hdriver] at hs
    · cases hs
    · obtain rfl := Option.some.inj hs
      -- a byte leaves the driver for the wire: the order stays
      have hsame : s.wire ++ [x] ++ rest = s.wire ++ s.driver := by
        rw [hdriver, List.append_assoc, List.singleton_append]
      refine ⟨?_, ?_, fun hactive r hr => ?_, fun hc => ?_⟩
      · show ∀ y ∈ s.wire ++ [x] ++ rest, _
        rw [hsame]
        exact h.tags
      · intro hfailed
        show bytesOf _ (s.wire ++ [x] ++ rest) = _
        rw [hsame]
        exact h.sent hfailed
      · obtain ⟨hcontents, hinflight, hnone⟩ := h.quiet hactive r hr
        refine ⟨hcontents, hinflight, ?_⟩
        rw [hdriver, ← List.singleton_append, bytesOf_append] at hnone
        exact (List.append_eq_nil_iff.mp hnone).2
      · -- there is nothing to send
        have hempty := (h.clearing hc).1
        rw [hdriver] at hempty
        cases hempty
  | openAsync | closeAsync | read | write =>
    unfold UartSystem.step at hs
    dsimp only at hs
    split_ifs at hs
    exact idle_call hinv h hclear hs

theorem idleInv_of_start {s : UartSystem} (h : s.Start) : s.IdleInv := by
  cases h with
  | boot state hclosed hrings htask hdropped =>
    refine ⟨nofun, fun _ => rfl, fun _ r hr => ?_, nofun⟩
    cases hrings.symm.trans hr
  | opened state r hopen hrings htask hdropped hactive =>
    show Esp32Mod.IdleInv _ _ (Function.update (fun _ => UartWorker.gone) 0 .loop 0) _ _ _ _
    rw [Function.update_self]
    refine ⟨nofun, fun _ => rfl, fun hquiet q hq => ?_, nofun⟩
    obtain rfl := Option.some.inj (hrings.symm.trans hq)
    exact ⟨hactive hquiet, rfl, rfl⟩

/-! ### Idle means sent -/

/-- In an open session without a failed `uart_write_bytes`, an idle transmitter has sent
every accepted byte; and `async_tx_active` is cleared when nothing is left to send. -/
structure IdleMeansSent (s : UartSystem) : Prop where
  idle : s.state.asyncOpen = true → (s.logs s.session).failed = false →
    bmxEmbeddedUartAsyncTxIdle s.state = true →
    bytesOf s.session s.wire = (s.logs s.session).accepted
  cleared : ∀ k, s.worker k = .clear →
    s.driver = [] ∧ ∀ r, s.state.rings = some r → r.tx.contents = []

/-- **An idle transmitter has sent everything** in every run in which no step lets the
worker clear `async_tx_active` early. -/
theorem uart_idle_means_sent (s : UartSystem)
    (h : uartMachine.ReachableIn (fun s a => ¬ ClearsEarly s a) s) : IdleMeansSent s := by
  have hboth : s.Inv ∧ s.IdleInv :=
    h.invariant (I := fun s => s.Inv ∧ s.IdleInv) (fun _ h₀ => ⟨uartInv_of_start h₀, idleInv_of_start h₀⟩)
      fun _ _ _ hs hclear hstep =>
        ⟨uartInv_step hs.1 hstep, idle_step hs.1 hs.2 hclear hstep⟩
  obtain ⟨hinv, hidle⟩ := hboth
  have hsafe := uartSafe_of_inv hinv
  refine ⟨fun hopen hfailed hanswer => ?_, fun k hk => ?_⟩
  · obtain ⟨r, hr⟩ := Option.ne_none_iff_exists'.mp (hsafe.buffers.2 hopen)
    -- the answer speaks of the counters and the flag
    have hflags : r.tx.put = r.tx.get ∧ s.state.txActive = false := by
      simpa [bmxEmbeddedUartAsyncTxIdle, hopen, hr] using hanswer
    obtain ⟨hcontents, hinflight, hdriver⟩ := hidle.quiet hflags.2 r hr
    have htx := hsafe.tx r hr
    rw [hcontents, hinflight, List.append_nil, List.append_nil] at htx
    have hsent := hidle.sent hfailed
    rw [bytesOf_append, hdriver, List.append_nil] at hsent
    exact hsent.trans htx
  · obtain rfl := hinv.1.alone k (by rw [hk]; nofun)
    exact hidle.clearing hk

/-- A test that no step of `ClearsEarly` passes: a worker polls with an empty transmit ring
only, and nothing is written while the session's worker is about to clear the flag. -/
def UartSystem.clearsLate (s : UartSystem) : UartAction → Bool
  | .worker k _ => s.worker k != .poll || s.state.rings.all fun r => r.tx.get == r.tx.put
  | .write _ _ => s.worker s.session != .clear
  | _ => true

theorem UartSystem.not_clearsEarly {s : UartSystem} {a : UartAction} (hinv : s.Inv)
    (h : s.clearsLate a = true) : ¬ ClearsEarly s a := by
  cases a with
  | worker k answer =>
    rintro ⟨hpoll, -, r, hr, hne⟩
    rw [clearsLate, hpoll, hr] at h
    exact hne (by simpa using h)
  | write source length =>
    rintro ⟨⟨k, hk⟩, -⟩
    -- the worker about to clear the flag is the session's
    obtain rfl := hinv.1.alone k (by simp [hk])
    rw [clearsLate, hk] at h
    cases h
  | _ => exact id

/-- A byte is written, handed over and sent, and the flag is cleared. -/
def promptWrite : List UartAction :=
  [.openAsync 4 4 1 2 3 true, .proceed true, .write (some [65]) 1,
    .worker 1 {}, .worker 1 {}, .worker 1 {}, .worker 1 { taken := 1 }, .transmit,
    .worker 1 {}, .worker 1 {}, .worker 1 {}]

theorem uart_idle_means_sent_opened :
    ∃ s, s.state.asyncOpen = true ∧ bmxEmbeddedUartAsyncTxIdle s.state = true ∧
      s.wire = [(1, 65)] ∧ IdleMeansSent s := by
  obtain ⟨s, hs, hp⟩ := exists_reachable_of_run (M := uartMachine.within UartSystem.clearsLate)
    promptWrite (fun s : UartSystem => decide (s.state.asyncOpen = true ∧
      bmxEmbeddedUartAsyncTxIdle s.state = true ∧ s.wire = [(1, 65)])) uartBoot_start (by decide)
  have hreached : uartMachine.ReachableIn (fun s a => ¬ ClearsEarly s a) s ∧ s.Inv := by
    apply (reachableIn_of_within hs).invariant
      (I := fun s => uartMachine.ReachableIn (fun s a => ¬ ClearsEarly s a) s ∧ s.Inv)
    · intro s hstart
      exact ⟨.init hstart, uartInv_of_start hstart⟩
    · rintro s a s' ⟨hreached, hinv⟩ hlate hstep
      exact ⟨hreached.step (UartSystem.not_clearsEarly hinv hlate) hstep, uartInv_step hinv hstep⟩
  obtain ⟨hopen, hidle, hwire⟩ := of_decide_eq_true hp
  exact ⟨s, hopen, hidle, hwire, uart_idle_means_sent s hreached.1⟩

/-- One byte is sent; a second one is written after the poll and before the flag is
cleared, and drained. -/
def lateWrite : List UartAction :=
  [.openAsync 4 4 1 2 3 true, .proceed true, .write (some [65]) 1,
    .worker 1 {}, .worker 1 {}, .worker 1 {}, .worker 1 { taken := 1 }, .transmit,
    .worker 1 {}, .worker 1 {}, .write (some [66]) 1, .worker 1 {},
    .worker 1 {}, .worker 1 {}, .worker 1 {}]

/-- The transmitter is idle while the second byte is between the ring and the driver. -/
theorem uart_idle_not_sent : ∃ s, uartMachine.Reachable s ∧ ¬ IdleMeansSent s := by
  obtain ⟨s, hs, hp⟩ := exists_reachable_of_run lateWrite
    (fun s : UartSystem => decide (s.state.asyncOpen = true ∧
      (s.logs s.session).failed = false ∧ bmxEmbeddedUartAsyncTxIdle s.state = true ∧
      bytesOf s.session s.wire ≠ (s.logs s.session).accepted))
    uartBoot_start (by decide)
  obtain ⟨hopen, hfailed, hidle, hne⟩ := of_decide_eq_true hp
  exact ⟨s, hs, fun hmeans => hne (hmeans.idle hopen hfailed hidle)⟩

end Esp32Mod
