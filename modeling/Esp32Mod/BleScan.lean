/-
Esp32Mod/BleScan.lean

The scan life cycle of the BLE adapter (`network.mod/ble.mod/native/esp32_ble.c`):
`bmx_embedded_ble_start_scan`, `bmx_embedded_ble_stop_scan` and
`bmx_embedded_ble_deinitialize` on the application task, and the
`BLE_GAP_EVENT_DISC_COMPLETE` case of `bmx_ble_gap_event` on the NimBLE host task.

A step is one access to a flag, one NimBLE call or one call of `bmx_ble_queue`.  The
arguments of a scan go to `ble_gap_disc` only and are left out.  The flags that the
other calls and handlers write (ready, connecting, advertising, auto-restart) may
change at any time.  Of NimBLE the model has `discovering`; what its calls answer is
part of the action.

`started` and `completes` record, outside the source, how many `start_scan` calls
returned 0 and which `SCAN_COMPLETE` statuses were submitted to `bmx_ble_queue`.

Main results:

* `scan_life_cycle` — the flag and the completions are right whenever no call and no
  handler is in progress, in every run whose steps are all `ScanOrderly`;
* `scan_life_cycle_broken` — without the condition they are not.
-/
import Esp32Mod.Errors
import Esp32Mod.StepMachine

namespace Esp32Mod

open StepMachine Machine

/-! ### The scan flag, the host and the handler -/

/-- What the `DISC_COMPLETE` handler does next. -/
inductive DiscHandler
  | idle
  /-- read `bmx_ble_scan_active` into `was_active` -/
  | read (reason : Int32)
  /-- clear `bmx_ble_scan_active` -/
  | clear (reason : Int32) (wasActive : Bool)
  /-- submit `SCAN_COMPLETE` -/
  | queue (reason : Int32)
  deriving DecidableEq

/-- The flag, the discovery and the handler of its end. -/
structure ScanState where
  /-- `bmx_ble_scan_active` -/
  active : Bool
  /-- A discovery runs in the host. -/
  discovering : Bool
  handler : DiscHandler
  started : Nat
  completes : List Int32

namespace ScanState

/-- The discovery ends by itself; the host task calls the handler. -/
def discoveryEnds (s : ScanState) (reason : Int32) : Option ScanState :=
  if s.discovering ∧ s.handler = .idle then
    some { s with discovering := false, handler := .read reason }
  else none

/-- `bmx_ble_queue_status(BMX_BLE_SCAN_COMPLETE, status)`. -/
def complete (s : ScanState) (status : Int32) : ScanState :=
  { s with completes := s.completes ++ [status] }

/-- The handler goes on. -/
def handlerStep (s : ScanState) : Option ScanState :=
  match s.handler with
  | .idle => none
  | .read reason => some { s with handler := .clear reason s.active }
  | .clear reason wasActive =>
    some { s with active := false, handler := if wasActive then .queue reason else .idle }
  | .queue reason => some { s.complete reason with handler := .idle }

/-- `ble_gap_disc`: 0 starts a discovery, and is not answered while one runs. -/
def bleGapDisc (s : ScanState) (answer : BleHs) : Option (BleHs × ScanState) :=
  if answer = .ok then
    if s.discovering then none else some (.ok, { s with discovering := true })
  else some (answer, s)

/-- `ble_gap_disc_cancel`: 0 ends the discovery, and `BLE_HS_EALREADY` says that none runs. -/
def bleGapDiscCancel (s : ScanState) (answer : BleHs) : Option (BleHs × ScanState) :=
  if s.discovering then
    match answer with
    | .ok => some (.ok, { s with discovering := false })
    | .ealready => none
    | answer => some (answer, s)
  else some (.ealready, s)

end ScanState

/-! ### The application task -/

/-- What the application task does next: nothing, or the next access or call of
`start_scan`, `stop_scan` or `deinitialize`. -/
inductive ScanApp
  | idle
  | startInitialized | startReady | startActive | startInfer | startDisc | startSet
  | stopInitialized | stopReady | stopActive | stopClear | stopCancel | stopQueue
  | stopRestore (result : BleHs)
  | deinitInitialized | deinitActive | deinitCancel
  | deinitConnecting | deinitConnCancel | deinitClearConnecting
  | deinitClearAutoRestart | deinitAdvertising | deinitAdvStop
  | deinitPortStop | deinitPortDeinit
  | deinitClearInitialized | deinitClearReady | deinitClearActive
  | deinitClearAdvertising | deinitClearConnectingAgain
  deriving DecidableEq

/-- The scan, the other flags of the adapter and the call under way. -/
structure ScanSystem where
  scan : ScanState
  initialized : Bool
  ready : Bool
  connecting : Bool
  advertisingActive : Bool
  advertisingAutoRestart : Bool
  app : ScanApp
  /-- What the last call returned. -/
  returned : BleHs

/-- The calls that touch the scan. -/
inductive ScanCall
  | startScan | stopScan | deinit

/-- Where a call begins. -/
def ScanCall.entry : ScanCall → ScanApp
  | startScan => .startInitialized
  | stopScan => .stopInitialized
  | deinit => .deinitInitialized

/-- The steps of the application and of the host. -/
inductive ScanAction
  | call (c : ScanCall)
  /-- a step of the application task; NimBLE answers `answer` if it is a call -/
  | app (answer : BleHs)
  | discoveryEnds (reason : Int32)
  | handler
  /-- the other calls and handlers of the adapter write their flags -/
  | others (ready connecting advertisingActive advertisingAutoRestart : Bool)

namespace ScanSystem

/-- The call goes on. -/
def goTo (s : ScanSystem) (pc : ScanApp) : ScanSystem := { s with app := pc }

/-- The call returns. -/
def finish (s : ScanSystem) (result : BleHs) : ScanSystem :=
  { s with app := .idle, returned := result }

/-- Write the flag. -/
def setActive (s : ScanSystem) (value : Bool) : ScanSystem :=
  { s with scan := { s.scan with active := value } }

/-- The flag is set after NimBLE has accepted the discovery. -/
def bmxEmbeddedBleStartScan (s : ScanSystem) (answer : BleHs) : ScanApp → Option ScanSystem
  | .startInitialized => some (if s.initialized then s.goTo .startReady else s.finish .enotsynced)
  | .startReady => some (if s.ready then s.goTo .startActive else s.finish .enotsynced)
  | .startActive => some (if s.scan.active then s.finish .ealready else s.goTo .startInfer)
  | .startInfer => some (if answer = .ok then s.goTo .startDisc else s.finish answer)
  | .startDisc =>
    (s.scan.bleGapDisc answer).map fun r =>
      let s := { s with scan := r.2 }
      if r.1 = .ok then s.goTo .startSet else s.finish r.1
  | .startSet =>
    -- the discovery may be over by now
    let s := (s.setActive true).finish .ok
    some { s with scan := { s.scan with started := s.scan.started + 1 } }
  | _ => none

/-- The steps of a stop. -/
def bmxEmbeddedBleStopScan (s : ScanSystem) (answer : BleHs) : ScanApp → Option ScanSystem
  | .stopInitialized => some (if s.initialized then s.goTo .stopReady else s.finish .enotsynced)
  | .stopReady => some (if s.ready then s.goTo .stopActive else s.finish .enotsynced)
  | .stopActive => some (if s.scan.active then s.goTo .stopClear else s.finish .ok)
  -- cleared before the cancel, and set again if that fails
  | .stopClear => some ((s.setActive false).goTo .stopCancel)
  | .stopCancel =>
    (s.scan.bleGapDiscCancel answer).map fun r =>
      let s := { s with scan := r.2 }
      if r.1 = .ok then s.goTo .stopQueue else s.goTo (.stopRestore r.1)
  | .stopQueue => some ({ s with scan := s.scan.complete 0 }.finish .ok)
  | .stopRestore result => some ((s.setActive true).finish result)
  | _ => none

/-- The steps of a teardown, as far as they touch the scan. -/
def bmxEmbeddedBleDeinitialize (s : ScanSystem) (answer : BleHs) : ScanApp → Option ScanSystem
  | .deinitInitialized => some (if s.initialized then s.goTo .deinitActive else s.finish .ok)
  | .deinitActive => some (s.goTo (if s.scan.active then .deinitCancel else .deinitConnecting))
  | .deinitCancel =>
    (s.scan.bleGapDiscCancel answer).map fun r =>
      let s := { s with scan := r.2 }
      -- after a cancel the flag stays set and no completion is submitted
      if r.1 ≠ .ok ∧ r.1 ≠ .ealready then s.finish r.1 else s.goTo .deinitConnecting
  | .deinitConnecting =>
    some (s.goTo (if s.connecting then .deinitConnCancel else .deinitClearAutoRestart))
  | .deinitConnCancel =>
    some (if answer ≠ .ok ∧ answer ≠ .ealready then s.finish answer
      else s.goTo .deinitClearConnecting)
  | .deinitClearConnecting => some ({ s with connecting := false }.goTo .deinitClearAutoRestart)
  | .deinitClearAutoRestart =>
    some ({ s with advertisingAutoRestart := false }.goTo .deinitAdvertising)
  | .deinitAdvertising =>
    some (s.goTo (if s.advertisingActive then .deinitAdvStop else .deinitPortStop))
  | .deinitAdvStop =>
    some (if answer ≠ .ok ∧ answer ≠ .ealready then s.finish answer else s.goTo .deinitPortStop)
  | .deinitPortStop => some (if answer ≠ .ok then s.finish answer else s.goTo .deinitPortDeinit)
  | .deinitPortDeinit =>
    some (if answer ≠ .ok then s.finish answer else s.goTo .deinitClearInitialized)
  | .deinitClearInitialized => some ({ s with initialized := false }.goTo .deinitClearReady)
  | .deinitClearReady => some ({ s with ready := false }.goTo .deinitClearActive)
  | .deinitClearActive => some ((s.setActive false).goTo .deinitClearAdvertising)
  | .deinitClearAdvertising =>
    some ({ s with advertisingActive := false }.goTo .deinitClearConnectingAgain)
  | .deinitClearConnectingAgain => some ({ s with connecting := false }.finish .ok)
  | _ => none

/-- The next step of the call in progress. -/
def appStep (s : ScanSystem) (answer : BleHs) : Option ScanSystem :=
  (s.bmxEmbeddedBleStartScan answer s.app).or <|
    (s.bmxEmbeddedBleStopScan answer s.app).or (s.bmxEmbeddedBleDeinitialize answer s.app)

/-- The application and the host take turns in any order. -/
def step (s : ScanSystem) : ScanAction → Option ScanSystem
  | .call c => if s.app = .idle then some (s.goTo c.entry) else none
  | .app answer => s.appStep answer
  | .discoveryEnds reason =>
    (s.scan.discoveryEnds reason).map fun scan => { s with scan := scan }
  | .handler => s.scan.handlerStep.map fun scan => { s with scan := scan }
  | .others ready connecting advertisingActive advertisingAutoRestart =>
    some { s with ready, connecting, advertisingActive, advertisingAutoRestart }

/-- No call has been made, and nothing is discovering. -/
structure Boot (s : ScanSystem) : Prop where
  active : s.scan.active = false
  discovering : s.scan.discovering = false
  handler : s.scan.handler = .idle
  started : s.scan.started = 0
  completes : s.scan.completes = []
  app : s.app = .idle

end ScanSystem

/-- Any interleaving of calls and events. -/
def scanMachine : Machine ScanSystem ScanAction where
  init := ScanSystem.Boot
  step := ScanSystem.step

/-! ### The claim and its condition -/

/-- Between calls and handlers the flag tells whether the host is discovering, and every
other scan that was started has been completed. -/
def ScanSystem.LifeCycle (s : ScanSystem) : Prop :=
  s.app = .idle → s.scan.handler = .idle →
    (s.scan.active = true ↔ s.scan.discovering = true) ∧
      s.scan.completes.length + s.scan.discovering.toNat = s.scan.started

/-- The handler will still clear a flag that is set now: it has not read the flag yet, or it
has read that the flag is set. -/
def DiscHandler.live : DiscHandler → Bool
  | read _ => true
  | clear _ wasActive => wasActive
  | _ => false

/-- A discovery runs, or has ended and its handler will still clear the flag. -/
def ScanState.live (s : ScanState) : Bool := s.discovering || s.handler.live

/-- The condition on a step: the flag is set only for a discovery whose end will clear it;
`deinitialize` cancels no discovery; and it does not clear the flag before a handler that
has not read it (nothing is assumed of a handler after `nimble_port_stop`). -/
def ScanOrderly (s : ScanSystem) : ScanAction → Prop
  | .app answer =>
    match s.app with
    | .startSet | .stopRestore _ => s.scan.live = true
    | .deinitCancel => s.scan.discovering = true → answer ≠ .ok
    | .deinitClearActive => ∀ reason, s.scan.handler ≠ .read reason
    | _ => True
  | _ => True

/-! ### The invariant -/

/-- The completions that the host still owes. -/
def DiscHandler.owed : DiscHandler → Nat
  | idle => 0
  | read _ | queue _ => 1
  | clear _ wasActive => wasActive.toNat

/-- The handler has not cleared the flag yet. -/
def DiscHandler.early : DiscHandler → Bool
  | read _ | clear _ _ => true
  | _ => false

namespace ScanState

/-- The completions submitted and those owed by a discovery and by the handler. -/
def accounted (s : ScanState) : Nat :=
  s.completes.length + s.discovering.toNat + s.handler.owed

/-- A discovery runs only when the handler is past its clear, and the handler has found the
flag set. -/
structure Sound (s : ScanState) : Prop where
  alone : s.discovering = true → s.handler.early = false
  found : ∀ reason, s.handler ≠ .clear reason false

end ScanState

/-- Where the calls are in the life of a scan. -/
inductive ScanPhase
  /-- the flag is right -/
  | settled
  /-- `start_scan` has read that the flag is clear -/
  | starting
  /-- `start_scan` is going to set the flag -/
  | begun
  /-- `stop_scan` has cleared the flag -/
  | cancelling
  /-- `stop_scan` has cancelled the discovery -/
  | cancelled
  /-- `deinitialize` is past the scan -/
  | closing
  /-- `deinitialize` has cleared the flag -/
  | closed

/-- What holds of the scan in each phase.  While `start_scan` or `stop_scan` is between its
NimBLE call and its write of the flag, nothing is said of a discovery that is over and whose
handler has not seen the flag set. -/
def ScanPhase.Inv (s : ScanState) : ScanPhase → Prop
  | settled => s.Sound ∧ s.active = s.live ∧ s.started = s.accounted
  | starting => s.Sound ∧ s.active = false ∧ s.live = false ∧ s.started = s.accounted
  | begun => s.active = false ∧ (s.live = true → s.Sound ∧ s.started + 1 = s.accounted)
  | cancelling => s.active = false ∧ (s.live = true → s.Sound ∧ s.started = s.accounted)
  | cancelled => s.Sound ∧ s.active = false ∧ s.live = false ∧ s.started = s.accounted + 1
  | closing => s.Sound ∧ s.active = s.live ∧ s.discovering = false ∧ s.started = s.accounted
  | closed =>
    s.Sound ∧ s.active = false ∧ s.discovering = false ∧ (∀ reason, s.handler ≠ .read reason) ∧
      s.started = s.accounted

/-! ### The host task keeps every phase -/

section Host

variable {s s' : ScanState} {p : ScanPhase}

/-- The host has moved without touching the flag or the accounts. -/
structure ScanState.SameAccounts (s s' : ScanState) : Prop where
  active : s'.active = s.active
  live : s'.live = s.live
  accounted : s'.accounted = s.accounted
  started : s'.started = s.started
  sound : s.Sound → s'.Sound
  settles : s.discovering = false → s'.discovering = false ∧
    ((∀ reason, s.handler ≠ .read reason) → ∀ reason, s'.handler ≠ .read reason)

theorem ScanPhase.Inv.same (h : p.Inv s) (hsame : s.SameAccounts s') : p.Inv s' := by
  obtain ⟨hactive, hlive, haccounted, hstarted, hsound, hover⟩ := hsame
  cases p <;> simp only [ScanPhase.Inv, hactive, hlive, haccounted, hstarted] at h ⊢
  case settled => exact ⟨hsound h.1, h.2⟩
  case starting => exact ⟨hsound h.1, h.2⟩
  case begun => exact ⟨h.1, fun hl => ⟨hsound (h.2 hl).1, (h.2 hl).2⟩⟩
  case cancelling => exact ⟨h.1, fun hl => ⟨hsound (h.2 hl).1, (h.2 hl).2⟩⟩
  case cancelled => exact ⟨hsound h.1, h.2⟩
  case closing => exact ⟨hsound h.1, h.2.1, (hover h.2.2.1).1, h.2.2.2⟩
  case closed =>
    exact ⟨hsound h.1, h.2.1, (hover h.2.2.1).1, (hover h.2.2.1).2 h.2.2.2.1, h.2.2.2.2⟩

/-- No discovery runs before the handler has cleared the flag. -/
theorem ScanPhase.Inv.alone (h : p.Inv s) (hearly : s.handler.early = true) :
    s.discovering = false := by
  have hsound (hs : s.Sound) : s.discovering = false := by
    cases hd : s.discovering with
    | false => rfl
    | true =>
      rw [hs.alone hd] at hearly
      cases hearly
  have hlive (hl : s.live = true → s.Sound) : s.discovering = false := by
    cases hd : s.discovering with
    | false => rfl
    | true => rw [← hd, hsound (hl (by rw [ScanState.live, hd, Bool.true_or]))]
  cases p with
  | begun => exact hlive fun hl => (h.2 hl).1
  | cancelling => exact hlive fun hl => (h.2 hl).1
  | _ => exact hsound h.1

/-- The flag is clear and the discovery is over. -/
theorem ScanPhase.Inv.ended (h : p.Inv s) (hactive : s'.active = false) (hlive : s'.live = false)
    (haccounted : s'.accounted = s.accounted) (hstarted : s'.started = s.started)
    (hsound : s'.Sound) (hdiscovering : s'.discovering = false)
    (hread : ∀ reason, s'.handler ≠ .read reason) : p.Inv s' := by
  cases p <;> simp only [ScanPhase.Inv, hactive, hlive, haccounted, hstarted] at h ⊢
  case settled => exact ⟨hsound, trivial, h.2.2⟩
  case starting => exact ⟨hsound, trivial, trivial, h.2.2.2⟩
  case begun => exact ⟨trivial, nofun⟩
  case cancelling => exact ⟨trivial, nofun⟩
  case cancelled => exact ⟨hsound, trivial, trivial, h.2.2.2⟩
  case closing => exact ⟨hsound, trivial, hdiscovering, h.2.2.2⟩
  case closed => exact ⟨hsound, trivial, hdiscovering, hread, h.2.2.2.2⟩

/-- The handler has found the flag clear, which `start_scan` or `stop_scan` has yet to set. -/
theorem ScanPhase.Inv.missed (h : p.Inv s) (hactive : s.active = false) (hlive : s.live = true)
    (hread : ∃ reason, s.handler = .read reason) (hactive' : s'.active = false)
    (hlive' : s'.live = false) : p.Inv s' := by
  cases p <;> simp only [ScanPhase.Inv, hactive, hlive] at h
  case settled => cases h.2.1
  case starting => cases h.2.2.1
  case begun => exact ⟨hactive', fun hl => absurd hl (by rw [hlive']; nofun)⟩
  case cancelling => exact ⟨hactive', fun hl => absurd hl (by rw [hlive']; nofun)⟩
  case cancelled => cases h.2.2.1
  case closing => cases h.2.1
  case closed =>
    obtain ⟨reason, hreason⟩ := hread
    exact absurd hreason (h.2.2.2.1 reason)

theorem phaseInv_discoveryEnds {reason : Int32} (h : p.Inv s)
    (hs : s.discoveryEnds reason = some s') : p.Inv s' := by
  unfold ScanState.discoveryEnds at hs
  split at hs
  · rename_i hcond
    obtain rfl := Option.some.inj hs
    obtain ⟨hdiscovering, hidle⟩ := hcond
    -- the completion that the discovery owed is now owed by the handler
    refine h.same ⟨rfl, ?_, ?_, rfl, fun _ => ⟨nofun, nofun⟩, ?_⟩
    · rw [ScanState.live, ScanState.live, hdiscovering]
      rfl
    · rw [ScanState.accounted, ScanState.accounted, hdiscovering, hidle]
      rfl
    · intro hover
      rw [hdiscovering] at hover
      cases hover
  · cases hs

theorem phaseInv_handlerStep (h : p.Inv s) (hs : s.handlerStep = some s') : p.Inv s' := by
  unfold ScanState.handlerStep at hs
  cases hh : s.handler <;> simp only [hh] at hs
  case idle => cases hs
  case read reason =>
    obtain rfl := Option.some.inj hs
    have hd : s.discovering = false := h.alone (by rw [hh]; rfl)
    have hlive : s.live = true := by rw [ScanState.live, hh, hd]; rfl
    cases hactive : s.active with
    | true =>
      refine h.same ⟨hactive.symm, ?_, ?_, rfl, fun _ => ⟨?_, nofun⟩,
        fun _ => ⟨hd, fun _ => nofun⟩⟩
      · rw [hlive, ScanState.live]
        exact Bool.or_true _
      · rw [ScanState.accounted, ScanState.accounted, hh]
        rfl
      · intro hon
        rw [show s.discovering = true from hon] at hd
        cases hd
    | false =>
      -- the completion is lost, which only `start_scan` and `stop_scan` bring about
      refine h.missed hactive hlive ⟨reason, hh⟩ rfl ?_
      rw [ScanState.live]
      exact (Bool.or_false _).trans hd
  case clear reason wasActive =>
    obtain rfl := Option.some.inj hs
    have hd : s.discovering = false := h.alone (by rw [hh]; rfl)
    cases wasActive with
    | true =>
      refine h.ended rfl ?_ ?_ rfl ⟨fun _ => rfl, nofun⟩ hd nofun
      · rw [ScanState.live]
        exact (Bool.or_false _).trans hd
      · rw [ScanState.accounted, ScanState.accounted, hh]
        rfl
    | false =>
      refine h.ended rfl ?_ ?_ rfl ⟨fun _ => rfl, nofun⟩ hd nofun
      · rw [ScanState.live]
        exact (Bool.or_false _).trans hd
      · rw [ScanState.accounted, ScanState.accounted, hh]
        rfl
  case queue reason =>
    obtain rfl := Option.some.inj hs
    refine h.same ⟨rfl, ?_, ?_, rfl, fun _ => ⟨fun _ => rfl, nofun⟩, fun hd => ⟨hd, fun _ => nofun⟩⟩
    · rw [ScanState.live, ScanState.live, hh]
      rfl
    · simp only [ScanState.accounted, ScanState.complete, hh, DiscHandler.owed, List.length_append,
        List.length_singleton]
      omega

end Host

/-! ### The calls -/

/-- The phase of the call in progress.  Between calls it is settled, or closed for good. -/
def ScanApp.phase (initialized : Bool) : ScanApp → ScanPhase
  | startReady | startActive | stopReady | stopActive | stopClear | deinitActive
  | deinitCancel => .settled
  | startInfer | startDisc => .starting
  | startSet => .begun
  | stopCancel | stopRestore _ => .cancelling
  | stopQueue => .cancelled
  | deinitConnecting | deinitConnCancel | deinitClearConnecting | deinitClearAutoRestart
  | deinitAdvertising | deinitAdvStop | deinitPortStop | deinitPortDeinit
  | deinitClearInitialized | deinitClearReady | deinitClearActive => .closing
  | deinitClearAdvertising | deinitClearConnectingAgain => .closed
  | idle | startInitialized | stopInitialized | deinitInitialized =>
    if initialized then .settled else .closed

/-- What the call in progress knows of `bmx_ble_initialized`, which only `deinitialize`
writes. -/
def ScanApp.knows : ScanApp → Option Bool
  | idle | startInitialized | stopInitialized | deinitInitialized => none
  | deinitClearReady | deinitClearActive | deinitClearAdvertising
  | deinitClearConnectingAgain => some false
  | _ => some true

/-- What a call has found, and where the scan stands. -/
structure ScanSystem.Inv (s : ScanSystem) : Prop where
  known : ∀ b, s.app.knows = some b → s.initialized = b
  phase : (s.app.phase s.initialized).Inv s.scan

section Phases

variable {s s' : ScanState} {answer result : BleHs}

theorem ScanState.bleGapDisc_cases (h : s.bleGapDisc answer = some (result, s')) :
    (result = .ok ∧ s' = { s with discovering := true }) ∨ (result ≠ .ok ∧ s' = s) := by
  unfold bleGapDisc at h
  split at h
  · split at h
    · cases h
    · cases h
      exact .inl ⟨rfl, rfl⟩
  · rename_i hne
    cases h
    exact .inr ⟨hne, rfl⟩

theorem ScanState.bleGapDiscCancel_cases (h : s.bleGapDiscCancel answer = some (result, s')) :
    (s.discovering = true ∧ answer = .ok ∧ result = .ok ∧ s' = { s with discovering := false }) ∨
      (result ≠ .ok ∧ s' = s ∧ (result = .ealready → s.discovering = false)) := by
  unfold bleGapDiscCancel at h
  split at h
  · rename_i hd
    split at h
    · cases h
      exact .inl ⟨hd, rfl, rfl, rfl⟩
    · cases h
    · rename_i hok hal
      cases h
      exact .inr ⟨hok, rfl, fun he => absurd he hal⟩
  · rename_i hd
    cases h
    exact .inr ⟨nofun, rfl, fun _ => Bool.eq_false_iff.mpr hd⟩

/-- A sound handler that will not clear the flag any more is past its clear. -/
theorem ScanState.Sound.early (h : s.Sound) (hlive : s.live = false) :
    s.discovering = false ∧ s.handler.early = false := by
  obtain ⟨hd, hhandler⟩ := Bool.or_eq_false_iff.mp hlive
  refine ⟨hd, ?_⟩
  cases hh : s.handler with
  | idle => rfl
  | read reason =>
    rw [hh] at hhandler
    cases hhandler
  | clear reason wasActive =>
    cases wasActive with
    | true =>
      rw [hh] at hhandler
      cases hhandler
    | false => exact absurd hh (h.found reason)
  | queue reason => rfl

namespace ScanPhase.Inv

theorem starting_of_settled (h : settled.Inv s) (hactive : s.active = false) : starting.Inv s :=
  ⟨h.1, hactive, h.2.1.symm.trans hactive, h.2.2⟩

theorem settled_of_starting (h : starting.Inv s) : settled.Inv s :=
  ⟨h.1, h.2.1.trans h.2.2.1.symm, h.2.2.2⟩

theorem begun_of_starting (h : starting.Inv s) : begun.Inv { s with discovering := true } := by
  obtain ⟨hsound, hactive, hlive, hstarted⟩ := h
  obtain ⟨hd, hearly⟩ := hsound.early hlive
  refine ⟨hactive, ?_⟩
  intro _
  refine ⟨⟨fun _ => hearly, hsound.found⟩, ?_⟩
  simp only [ScanState.accounted, hd, Bool.toNat_true, Bool.toNat_false] at hstarted ⊢
  omega

/-- `start_scan` sets the flag in time. -/
theorem settled_of_begun (h : begun.Inv s) (hlive : s.live = true) :
    settled.Inv { s with active := true, started := s.started + 1 } :=
  ⟨⟨(h.2 hlive).1.alone, (h.2 hlive).1.found⟩, hlive.symm, (h.2 hlive).2⟩

theorem cancelling_of_settled (h : settled.Inv s) : cancelling.Inv { s with active := false } :=
  ⟨rfl, fun _ => ⟨⟨h.1.alone, h.1.found⟩, h.2.2⟩⟩

theorem cancelled_of_cancelling (h : cancelling.Inv s) (hd : s.discovering = true) :
    cancelled.Inv { s with discovering := false } := by
  obtain ⟨hsound, hstarted⟩ := h.2 (by rw [ScanState.live, hd, Bool.true_or])
  have hearly := hsound.alone hd
  refine ⟨⟨nofun, hsound.found⟩, h.1, ?_, ?_⟩
  · show s.handler.live = false
    cases hh : s.handler <;> rw [hh] at hearly <;> first | rfl | cases hearly
  · simp only [ScanState.accounted, hd, Bool.toNat_true, Bool.toNat_false] at hstarted ⊢
    omega

/-- `stop_scan` restores the flag in time. -/
theorem settled_of_cancelling (h : cancelling.Inv s) (hlive : s.live = true) :
    settled.Inv { s with active := true } :=
  ⟨⟨(h.2 hlive).1.alone, (h.2 hlive).1.found⟩, hlive.symm, (h.2 hlive).2⟩

theorem settled_of_cancelled (h : cancelled.Inv s) (status : Int32) :
    settled.Inv (s.complete status) := by
  obtain ⟨hsound, hactive, hlive, hstarted⟩ := h
  refine ⟨⟨hsound.alone, hsound.found⟩, hactive.trans hlive.symm, ?_⟩
  simp only [ScanState.accounted, ScanState.complete, List.length_append,
    List.length_singleton] at hstarted ⊢
  omega

theorem closing_of_settled (h : settled.Inv s) (hd : s.discovering = false) : closing.Inv s :=
  ⟨h.1, h.2.1, hd, h.2.2⟩

theorem settled_of_closing (h : closing.Inv s) : settled.Inv s :=
  ⟨h.1, h.2.1, h.2.2.2⟩

/-- `deinitialize` clears the flag, which no handler is still to read. -/
theorem closed_of_closing (h : closing.Inv s) (hread : ∀ reason, s.handler ≠ .read reason) :
    closed.Inv { s with active := false } :=
  ⟨⟨h.1.alone, h.1.found⟩, rfl, h.2.2.1, hread, h.2.2.2⟩

end ScanPhase.Inv

end Phases

section Calls

variable {s s' : ScanSystem} {answer : BleHs}

/-- A call that has found the adapter initialised returns. -/
theorem ScanSystem.Inv.idle (happ : s.app = .idle) (hinit : s.initialized = true)
    (h : ScanPhase.settled.Inv s.scan) : s.Inv := by
  refine ⟨?_, ?_⟩
  · intro b hb
    rw [happ] at hb
    cases hb
  · rw [happ, ScanApp.phase, if_pos hinit]
    exact h

/-- The first test of every call. -/
theorem ScanSystem.Inv.enter (h : (ScanApp.idle.phase s.initialized).Inv s.scan) {pc : ScanApp}
    (hphase : pc.phase s.initialized = .settled) (hknows : pc.knows = some true)
    (result : BleHs) : (if s.initialized then s.goTo pc else s.finish result).Inv := by
  split
  · rename_i hinit
    refine ⟨?_, ?_⟩
    · intro b hb
      obtain rfl := Option.some.inj (hknows.symm.trans hb)
      exact hinit
    · show (pc.phase s.initialized).Inv s.scan
      rw [hphase]
      rwa [ScanApp.phase, if_pos hinit] at h
  · exact ⟨nofun, h⟩

/-- The call goes on inside the adapter. -/
theorem ScanSystem.Inv.inside (hinit : s.initialized = true) (hknows : s.app.knows = some true)
    (h : (s.app.phase s.initialized).Inv s.scan) : s.Inv :=
  ⟨fun _ hb => hinit.trans (Option.some.inj (hknows.symm.trans hb)), h⟩

/-- A step of `deinitialize` past the scan that may fail, which ends the call. -/
theorem ScanSystem.Inv.attempt (hinit : s.initialized = true)
    (h : ScanPhase.closing.Inv s.scan) {pc : ScanApp} (hphase : pc.phase s.initialized = .closing)
    (hknows : pc.knows = some true) (failed : Prop) [Decidable failed] (result : BleHs) :
    (if failed then s.finish result else s.goTo pc).Inv := by
  split
  · exact .idle rfl hinit h.settled_of_closing
  · apply ScanSystem.Inv.inside (s := s.goTo pc) hinit hknows
    show (pc.phase s.initialized).Inv s.scan
    rw [hphase]
    exact h

theorem scanInv_startScan (h : s.Inv) (horderly : ScanOrderly s (.app answer))
    (hs : s.bmxEmbeddedBleStartScan answer s.app = some s') : s'.Inv := by
  obtain ⟨hknown, hphase⟩ := h
  unfold ScanSystem.bmxEmbeddedBleStartScan at hs
  unfold ScanOrderly at horderly
  cases happ : s.app <;> simp only [happ, reduceCtorEq] at hs hknown hphase horderly
  case startInitialized =>
    obtain rfl := Option.some.inj hs
    exact .enter hphase rfl rfl _
  case startReady =>
    obtain rfl := Option.some.inj hs
    split
    · exact .inside (hknown true rfl) rfl hphase
    · exact .idle rfl (hknown true rfl) hphase
  case startActive =>
    obtain rfl := Option.some.inj hs
    split
    · exact .idle rfl (hknown true rfl) hphase
    · rename_i hactive
      exact .inside (hknown true rfl) rfl (hphase.starting_of_settled (Bool.eq_false_iff.mpr hactive))
  case startInfer =>
    obtain rfl := Option.some.inj hs
    split
    · exact .inside (hknown true rfl) rfl hphase
    · exact .idle rfl (hknown true rfl) hphase.settled_of_starting
  case startDisc =>
    obtain ⟨⟨result, scan⟩, hdisc, rfl⟩ := Option.map_eq_some_iff.mp hs
    rcases ScanState.bleGapDisc_cases hdisc with ⟨rfl, rfl⟩ | ⟨hne, rfl⟩
    · exact .inside (hknown true rfl) rfl hphase.begun_of_starting
    · rw [if_neg hne]
      exact .idle rfl (hknown true rfl) hphase.settled_of_starting
  case startSet =>
    obtain rfl := Option.some.inj hs
    -- the flag is set for a discovery that still runs, by the condition
    exact .idle rfl (hknown true rfl) (hphase.settled_of_begun horderly)

theorem scanInv_stopScan (h : s.Inv) (horderly : ScanOrderly s (.app answer))
    (hs : s.bmxEmbeddedBleStopScan answer s.app = some s') : s'.Inv := by
  obtain ⟨hknown, hphase⟩ := h
  unfold ScanSystem.bmxEmbeddedBleStopScan at hs
  unfold ScanOrderly at horderly
  cases happ : s.app <;> simp only [happ, reduceCtorEq] at hs hknown hphase horderly
  case stopInitialized =>
    obtain rfl := Option.some.inj hs
    exact .enter hphase rfl rfl _
  case stopReady =>
    obtain rfl := Option.some.inj hs
    split
    · exact .inside (hknown true rfl) rfl hphase
    · exact .idle rfl (hknown true rfl) hphase
  case stopActive =>
    obtain rfl := Option.some.inj hs
    split
    · exact .inside (hknown true rfl) rfl hphase
    · exact .idle rfl (hknown true rfl) hphase
  case stopClear =>
    obtain rfl := Option.some.inj hs
    exact .inside (hknown true rfl) rfl hphase.cancelling_of_settled
  case stopCancel =>
    obtain ⟨⟨result, scan⟩, hcancel, rfl⟩ := Option.map_eq_some_iff.mp hs
    rcases ScanState.bleGapDiscCancel_cases hcancel with ⟨hd, -, rfl, rfl⟩ | ⟨hne, rfl, -⟩
    · exact .inside (hknown true rfl) rfl (hphase.cancelled_of_cancelling hd)
    · rw [if_neg hne]
      exact .inside (hknown true rfl) rfl hphase
  case stopQueue =>
    obtain rfl := Option.some.inj hs
    exact .idle rfl (hknown true rfl) (hphase.settled_of_cancelled 0)
  case stopRestore result =>
    obtain rfl := Option.some.inj hs
    exact .idle rfl (hknown true rfl) (hphase.settled_of_cancelling horderly)

theorem scanInv_deinitialize (h : s.Inv) (horderly : ScanOrderly s (.app answer))
    (hs : s.bmxEmbeddedBleDeinitialize answer s.app = some s') : s'.Inv := by
  obtain ⟨hknown, hphase⟩ := h
  unfold ScanSystem.bmxEmbeddedBleDeinitialize at hs
  unfold ScanOrderly at horderly
  cases happ : s.app <;> simp only [happ, reduceCtorEq] at hs hknown hphase horderly
  case deinitInitialized =>
    obtain rfl := Option.some.inj hs
    exact .enter hphase rfl rfl _
  case deinitActive =>
    obtain rfl := Option.some.inj hs
    split
    · exact .inside (hknown true rfl) rfl hphase
    · rename_i hactive
      -- the flag is not set, so no discovery runs
      have hlive := hphase.2.1.symm.trans (Bool.eq_false_iff.mpr hactive)
      exact .inside (hknown true rfl) rfl (hphase.closing_of_settled (hphase.1.early hlive).1)
  case deinitCancel =>
    obtain ⟨⟨result, scan⟩, hcancel, rfl⟩ := Option.map_eq_some_iff.mp hs
    -- a cancel that succeeds would leave the flag set, which `ScanOrderly` excludes
    rcases ScanState.bleGapDiscCancel_cases hcancel with ⟨hd, hok, -⟩ | ⟨hne, rfl, hover⟩
    · exact absurd hok (horderly hd)
    · split
      · exact .idle rfl (hknown true rfl) hphase
      · rename_i halready
        have hresult : result = .ealready := by
          by_contra hal
          exact halready ⟨hne, hal⟩
        exact .inside (hknown true rfl) rfl (hphase.closing_of_settled (hover hresult))
  case deinitConnecting =>
    obtain rfl := Option.some.inj hs
    split <;> exact .inside (hknown true rfl) rfl hphase
  case deinitConnCancel =>
    obtain rfl := Option.some.inj hs
    exact .attempt (hknown true rfl) hphase rfl rfl _ _
  case deinitClearConnecting =>
    obtain rfl := Option.some.inj hs
    exact .inside (hknown true rfl) rfl hphase
  case deinitClearAutoRestart =>
    obtain rfl := Option.some.inj hs
    exact .inside (hknown true rfl) rfl hphase
  case deinitAdvertising =>
    obtain rfl := Option.some.inj hs
    split <;> exact .inside (hknown true rfl) rfl hphase
  case deinitAdvStop =>
    obtain rfl := Option.some.inj hs
    exact .attempt (hknown true rfl) hphase rfl rfl _ _
  case deinitPortStop =>
    obtain rfl := Option.some.inj hs
    exact .attempt (hknown true rfl) hphase rfl rfl _ _
  case deinitPortDeinit =>
    obtain rfl := Option.some.inj hs
    exact .attempt (hknown true rfl) hphase rfl rfl _ _
  case deinitClearInitialized =>
    obtain rfl := Option.some.inj hs
    exact ⟨fun _ hb => Option.some.inj hb, hphase⟩
  case deinitClearReady =>
    obtain rfl := Option.some.inj hs
    exact ⟨hknown, hphase⟩
  case deinitClearActive =>
    obtain rfl := Option.some.inj hs
    -- the handler is not about to read the flag that is cleared
    exact ⟨hknown, hphase.closed_of_closing horderly⟩
  case deinitClearAdvertising =>
    obtain rfl := Option.some.inj hs
    exact ⟨hknown, hphase⟩
  case deinitClearConnectingAgain =>
    obtain rfl := Option.some.inj hs
    refine ⟨nofun, ?_⟩
    show (if s.initialized then ScanPhase.settled else .closed).Inv s.scan
    rw [hknown false rfl]
    exact hphase

end Calls

/-! ### Main results -/

theorem scanInv_boot {s : ScanSystem} (h : s.Boot) : s.Inv := by
  have hsound : s.scan.Sound := by
    refine ⟨?_, ?_⟩
    · intro _
      rw [h.handler]
      rfl
    · intro reason hclear
      rw [h.handler] at hclear
      cases hclear
  have hstarted : s.scan.started = s.scan.accounted := by
    rw [ScanState.accounted, h.started, h.completes, h.discovering, h.handler]
    rfl
  refine ⟨?_, ?_⟩
  · intro b hb
    rw [h.app] at hb
    cases hb
  · rw [h.app, ScanApp.phase]
    split
    · refine ⟨hsound, ?_, hstarted⟩
      rw [h.active, ScanState.live, h.discovering, h.handler]
      rfl
    · refine ⟨hsound, h.active, h.discovering, ?_, hstarted⟩
      intro reason hread
      rw [h.handler] at hread
      cases hread

theorem scanInv_step {s s' : ScanSystem} {a : ScanAction} (h : s.Inv) (horderly : ScanOrderly s a)
    (hs : s.step a = some s') : s'.Inv := by
  cases a with
  | call c =>
    simp only [ScanSystem.step] at hs
    split at hs
    · rename_i hidle
      obtain rfl := Option.some.inj hs
      have hphase := h.phase
      rw [hidle] at hphase
      cases c <;> exact ⟨nofun, hphase⟩
    · cases hs
  | app answer =>
    rcases Option.or_eq_some_iff.mp hs with hs | ⟨-, hs⟩
    · exact scanInv_startScan h horderly hs
    · rcases Option.or_eq_some_iff.mp hs with hs | ⟨-, hs⟩
      · exact scanInv_stopScan h horderly hs
      · exact scanInv_deinitialize h horderly hs
  | discoveryEnds reason =>
    obtain ⟨scan, hscan, rfl⟩ := Option.map_eq_some_iff.mp hs
    exact ⟨h.known, phaseInv_discoveryEnds h.phase hscan⟩
  | handler =>
    obtain ⟨scan, hscan, rfl⟩ := Option.map_eq_some_iff.mp hs
    exact ⟨h.known, phaseInv_handlerStep h.phase hscan⟩
  | others ready connecting advertisingActive advertisingAutoRestart =>
    obtain rfl := Option.some.inj hs
    exact ⟨h.known, h.phase⟩

/-- **The scan life cycle.**  In every run whose steps are all orderly, the flag and the
number of completions are right whenever no call and no handler is in progress. -/
theorem scan_life_cycle (s : ScanSystem) (h : scanMachine.ReachableIn ScanOrderly s) :
    s.LifeCycle := by
  intro happ hhandler
  have hinv := h.invariant (I := ScanSystem.Inv) (fun _ => scanInv_boot)
    fun _ _ _ hi ho hs => scanInv_step hi ho hs
  have hphase := hinv.phase
  have haccounted : s.scan.accounted = s.scan.completes.length + s.scan.discovering.toNat := by
    rw [ScanState.accounted, hhandler]
    rfl
  rw [happ, ScanApp.phase] at hphase
  split at hphase
  · obtain ⟨-, hactive, hstarted⟩ := hphase
    rw [ScanState.live, hhandler] at hactive
    refine ⟨?_, by rw [hstarted, haccounted]⟩
    rw [hactive]
    simp [DiscHandler.live]
  · obtain ⟨-, hactive, hd, -, hstarted⟩ := hphase
    refine ⟨?_, by rw [hstarted, haccounted]⟩
    rw [hactive, hd]

/-- An initialised and ready adapter. -/
def scanBoot : ScanSystem where
  scan := { active := false, discovering := false, handler := .idle, started := 0, completes := [] }
  initialized := true
  ready := true
  connecting := false
  advertisingActive := false
  advertisingAutoRestart := false
  app := .idle
  returned := .ok

theorem scanBoot_boot : scanBoot.Boot := ⟨rfl, rfl, rfl, rfl, rfl, rfl⟩

/-- `start_scan` up to its write of the flag. -/
def startUpToSet : List ScanAction :=
  .call .startScan :: List.replicate 5 (.app .ok)

/-- The discovery ends and its handler runs before `start_scan` sets the flag. -/
def lateStart : List ScanAction :=
  startUpToSet ++ [.discoveryEnds 0, .handler, .handler, .app .ok]

/-- The handler reads the flag after `stop_scan` has cleared it. -/
def lateStop : List ScanAction :=
  startUpToSet ++ [.app .ok, .call .stopScan, .app .ok, .app .ok, .app .ok, .discoveryEnds 0,
    .app .ok, .handler, .handler, .app .ok, .app .ok]

/-- `deinitialize` cancels the discovery, and `nimble_port_stop` fails. -/
def halfTeardown : List ScanAction :=
  startUpToSet ++ [.app .ok, .call .deinit, .app .ok, .app .ok, .app .ok, .app .ok, .app .ok,
    .app .ok, .app (.other 1)]

/-- A scan is started. -/
theorem scan_life_cycle_started : ∃ s : ScanSystem, s.scan.discovering = true ∧ s.LifeCycle := by
  refine ⟨_, ?_, scan_life_cycle _ (.step (a := .app .ok) (.step (a := .app .ok)
    (.step (a := .app .ok) (.step (a := .app .ok) (.step (a := .app .ok) (.step (a := .app .ok)
      (.step (a := .call .startScan) (.init scanBoot_boot) (by trivial) rfl)
      (by trivial) rfl) (by trivial) rfl) (by trivial) rfl) (by trivial) rfl) (by trivial) rfl)
    ?_ rfl)⟩
  · rfl
  · exact rfl

/-- Nothing is in progress and nothing is discovering, but the flag is set. -/
def ScanSystem.stuck (s : ScanSystem) : Bool :=
  decide (s.app = .idle ∧ s.scan.handler = .idle ∧ s.scan.active = true ∧
    s.scan.discovering = false)

/-- The scan that `start_scan` returned 0 for is over, and the flag says that it still
runs. -/
theorem scan_life_cycle_broken : ∃ s, scanMachine.Reachable s ∧ ¬ s.LifeCycle := by
  obtain ⟨s, hs, hp⟩ := exists_reachable_of_run (M := scanMachine) lateStart ScanSystem.stuck
    scanBoot_boot (by decide)
  obtain ⟨happ, hhandler, hactive, hd⟩ := of_decide_eq_true hp
  refine ⟨s, hs, fun hlife => ?_⟩
  have htrue := (hlife happ hhandler).1.mp hactive
  rw [hd] at htrue
  cases htrue

-- `stop_scan` and `deinitialize` leave the flag behind in the same way
example : ∀ as ∈ [lateStop, halfTeardown],
    (scanMachine.run scanBoot as).any ScanSystem.stuck = true := by decide

end Esp32Mod
