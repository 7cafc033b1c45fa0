/-
Esp32Mod/BleAdvertising.lean

Advertising in the BLE adapter (`network.mod/ble.mod/native/esp32_ble.c`): the calls
`start_advertising`, `stop_advertising`, `connect` and `cancel_connect`, the GAP events
CONNECT, DISCONNECT and ADV_COMPLETE of `bmx_ble_gap_event`, and host resets.

Each call and each handler is one step.  The NimBLE host has its own state, which
changes before the event that tells about it is handled: `pending` are the events that
have not been handled yet.  Advertising ends on a successful `ble_gap_adv_stop`, by
itself, when it yields a connection as slave, and on a reset.

`restartErrors` records, outside the source, every error that an auto-restart reported
and whether the host was advertising then.

Main results:

* `advertising_flag` — the flag is right whenever no event is pending, in every run
  that handles no CONNECT, DISCONNECT or ADV_COMPLETE while the host is advertising;
* `loses_flag` — every such step leaves a host that advertises with a clear flag;
* `advertising_flag_wrong` — such steps happen.
-/
import Esp32Mod.Errors
import Esp32Mod.StepMachine

namespace Esp32Mod

open StepMachine Machine

/-! ### The NimBLE host -/

/-- The role of the device in a connection. -/
inductive BleRole
  | master | slave
  deriving DecidableEq

/-- The `u.type` of a UUID. -/
inductive BleUuidType
  | type16 | type32 | type128 | unknown
  deriving DecidableEq

/-- The GAP events that touch advertising, with what the handler reads of them. -/
inductive GapEvent
  | connect (status : Int32) (connHandle : UInt16)
  | disconnect (reason : Int32) (connHandle : UInt16) (role : BleRole)
  | advComplete (reason : Int32)
  deriving DecidableEq

/-- What the host advertises: the service UUID, `conn_mode` and the duration. -/
structure AdvParameters where
  uuid : Option BleUuidType
  connectable : Bool
  duration : Int32

/-- What the host does for the adapter, and the events it has raised. -/
structure BleHost where
  advertising : Option AdvParameters
  /-- An outbound connection is being made. -/
  outbound : Bool
  links : List (UInt16 × BleRole)
  /-- The events that have not been handled, oldest first. -/
  pending : List GapEvent

namespace BleHost

/-- Another event waits for the handler. -/
def raise (h : BleHost) (e : GapEvent) : BleHost := { h with pending := h.pending ++ [e] }

/-- The host refuses to advertise twice; otherwise `answer` is its result. -/
def bleGapAdvStart (h : BleHost) (p : AdvParameters) (answer : BleHs) : BleHs × BleHost :=
  if h.advertising.isSome then (.ealready, h)
  else if answer = .ok then (.ok, { h with advertising := some p })
  else (answer, h)

/-- A successful stop is followed by ADV_COMPLETE. -/
def bleGapAdvStop (h : BleHost) (answer : BleHs) (reason : Int32) : BleHs × BleHost :=
  if h.advertising.isNone then (.ealready, h)
  else if answer = .ok then (.ok, { h with advertising := none }.raise (.advComplete reason))
  else (answer, h)

/-- One outbound attempt at a time; otherwise `answer` is the host's result. -/
def bleGapConnect (h : BleHost) (answer : BleHs) : BleHs × BleHost :=
  if h.outbound then (.ealready, h)
  else if answer = .ok then (.ok, { h with outbound := true })
  else (answer, h)

/-- The attempt that is cancelled ends with a CONNECT event of its own. -/
def bleGapConnCancel (h : BleHost) (answer : BleHs) : BleHs :=
  if h.outbound then answer else .ealready

/-- The host's own moves. -/
inductive Move
  | advEnds (reason : Int32)
  /-- advertising yields a connection, or fails to -/
  | connectSlave (status : Int32) (connHandle : UInt16)
  | connectMaster (status : Int32) (connHandle : UInt16)
  | linkLost (reason : Int32) (connHandle : UInt16) (role : BleRole)

/-- A connection that was made is kept, one that failed is not. -/
def addLink (h : BleHost) (status : Int32) (connHandle : UInt16) (role : BleRole) : BleHost :=
  if status = 0 then { h with links := (connHandle, role) :: h.links } else h

/-- A move that is possible in the state, with the event it raises. -/
def move (h : BleHost) : Move → Option BleHost
  | .advEnds reason =>
    if h.advertising.isSome then some ({ h with advertising := none }.raise (.advComplete reason))
    else none
  | .connectSlave status connHandle =>
    if h.advertising.any (·.connectable) then
      some (({ h with advertising := none }.addLink status connHandle .slave).raise
        (.connect status connHandle))
    else none
  | .connectMaster status connHandle =>
    if h.outbound then
      some (({ h with outbound := false }.addLink status connHandle .master).raise
        (.connect status connHandle))
    else none
  | .linkLost reason connHandle role =>
    if (connHandle, role) ∈ h.links then
      some ({ h with links := h.links.erase (connHandle, role) }.raise
        (.disconnect reason connHandle role))
    else none

/-- The host loses its connections and stops what it does; no event tells so. -/
def reset (h : BleHost) : BleHost :=
  { h with advertising := none, outbound := false, links := [] }

end BleHost

/-! ### The adapter -/

/-- The host, and the variables of the adapter that concern advertising. -/
structure AdvSystem where
  host : BleHost
  initialized : Bool
  ready : Bool
  scanActive : Bool
  connecting : Bool
  /-- `bmx_ble_advertising_active` -/
  advertisingActive : Bool
  advertisingAutoRestart : Bool
  advertisingService : Int32
  advertisingDuration : UInt32
  advertisingConnectable : Bool
  /-- The types of `bmx_ble_gatt_service_uuids`, as many as there are services. -/
  serviceUuids : List BleUuidType
  restartErrors : List (BleHs × Bool)

/-- What NimBLE answers on the way to `ble_gap_adv_start`. -/
structure AdvAnswers where
  inferAuto : BleHs := .ok
  setFields : BleHs := .ok
  rspSetFields : BleHs := .ok
  start : BleHs := .ok

/-- `BLE_HS_FOREVER`, which is `INT32_MAX`. -/
def bleHsForever : Int32 := 0x7FFFFFFF

namespace AdvSystem

/-- The UUID that is advertised; `none` for no service. -/
def advertisedUuid (s : AdvSystem) : Option BleUuidType :=
  if 0 < s.advertisingService then s.serviceUuids[s.advertisingService.toInt.toNat - 1]? else none

/-- The arguments of `ble_gap_adv_start`, from what the adapter has stored. -/
def advParameters (s : AdvSystem) : AdvParameters where
  uuid := s.advertisedUuid
  connectable := s.advertisingConnectable
  duration := if s.advertisingDuration ≠ 0 then s.advertisingDuration.toInt32 else bleHsForever

/-- Every step may fail, and the flag is set only after the last one. -/
def bmxBleStartAdvertisingInternal (s : AdvSystem) (answers : AdvAnswers) : BleHs × AdvSystem :=
  if answers.inferAuto ≠ .ok then (answers.inferAuto, s)
  else if s.advertisedUuid = some .unknown then (.einval, s)
  else if answers.setFields ≠ .ok then (answers.setFields, s)
  else if answers.rspSetFields ≠ .ok then (answers.rspSetFields, s)
  else
    let r := s.host.bleGapAdvStart s.advParameters answers.start
    if r.1 = .ok then (.ok, { s with host := r.2, advertisingActive := true })
    else (r.1, { s with host := r.2 })

/-- The auto-restart of a handler: an error is reported as ADV_COMPLETE. -/
def restart (s : AdvSystem) (answers : AdvAnswers) : AdvSystem :=
  let r := s.bmxBleStartAdvertisingInternal answers
  if r.1 ≠ .ok then
    { r.2 with restartErrors := r.2.restartErrors ++ [(r.1, s.host.advertising.isSome)] }
  else r.2

/-- The handler of the GAP events, with the answers to its auto-restart. -/
def bmxBleGapEvent (s : AdvSystem) (answers : AdvAnswers) : GapEvent → AdvSystem
  | .connect status _ =>
    -- in either role, and although advertising may go on
    let s := { s with connecting := false, advertisingActive := false }
    if status ≠ 0 ∧ s.advertisingAutoRestart then s.restart answers else s
  | .disconnect _ _ role =>
    -- of any link
    let s := { s with advertisingActive := false }
    if role = .slave ∧ s.advertisingAutoRestart then s.restart answers else s
  | .advComplete _ => { s with advertisingActive := false }

/-- The callback of a host reset. -/
def bmxBleOnReset (s : AdvSystem) : AdvSystem :=
  { s with ready := false, scanActive := false, advertisingActive := false, connecting := false }

/-- `result` is that of `ble_hs_util_ensure_addr`. -/
def bmxBleOnSync (s : AdvSystem) (result : BleHs) : AdvSystem :=
  if result = .ok then { s with ready := true } else s

/-- The parameters are stored before the start, for the restarts; a start that fails gives the
auto-restart up. -/
def bmxEmbeddedBleStartAdvertising (s : AdvSystem) (serviceId : Int32) (duration : UInt32)
    (connectable autoRestart : Bool) (answers : AdvAnswers) : BleHs × AdvSystem :=
  if !s.initialized || !s.ready then (.enotsynced, s)
  else if s.advertisingActive then (.ealready, s)
  else if s.scanActive then (.ebusy, s)
  else if serviceId < 0 ∨ s.serviceUuids.length < serviceId.toInt then (.einval, s)
  else
    let r := { s with
      advertisingService := serviceId
      advertisingDuration := duration
      advertisingConnectable := connectable
      advertisingAutoRestart := autoRestart }.bmxBleStartAdvertisingInternal answers
    if r.1 ≠ .ok then (r.1, { r.2 with advertisingAutoRestart := false }) else r

/-- The auto-restart is given up first.  A clear flag means that there is nothing to stop. -/
def bmxEmbeddedBleStopAdvertising (s : AdvSystem) (answer : BleHs) (reason : Int32) :
    BleHs × AdvSystem :=
  if !s.initialized || !s.ready then (.enotsynced, s)
  else
    let s := { s with advertisingAutoRestart := false }
    if !s.advertisingActive then (.ok, s)
    else
      let r := s.host.bleGapAdvStop answer reason
      (r.1, { s with host := r.2 })

/-- The address types go from `BLE_ADDR_PUBLIC`, 0, to `BLE_ADDR_RANDOM_ID`, 3. -/
def bmxEmbeddedBleConnect (s : AdvSystem) (addressType : Int32)
    (address : Option (Vector UInt8 6)) (inferAuto answer : BleHs) : BleHs × AdvSystem :=
  if !s.initialized || !s.ready then (.enotsynced, s)
  else if address.isNone ∨ addressType < 0 ∨ 3 < addressType then (.einval, s)
  else if s.connecting then (.ealready, s)
  else if s.scanActive || s.advertisingActive then (.ebusy, s)
  else if inferAuto ≠ .ok then (inferAuto, s)
  else
    let r := s.host.bleGapConnect answer
    if r.1 = .ok then (.ok, { s with host := r.2, connecting := true })
    else (r.1, { s with host := r.2 })

/-- The flag is cleared at once, before the CONNECT event of the attempt. -/
def bmxEmbeddedBleCancelConnect (s : AdvSystem) (answer : BleHs) : BleHs × AdvSystem :=
  if !s.initialized || !s.ready then (.enotsynced, s)
  else if !s.connecting then (.ok, s)
  else
    let result := s.host.bleGapConnCancel answer
    (result, if result = .ok then { s with connecting := false } else s)

end AdvSystem

/-- A call of the application, a move of the host, or a callback. -/
inductive AdvAction
  | startAdvertising (serviceId : Int32) (duration : UInt32) (connectable autoRestart : Bool)
    (answers : AdvAnswers)
  | stopAdvertising (answer : BleHs) (reason : Int32)
  | connect (addressType : Int32) (address : Option (Vector UInt8 6)) (inferAuto answer : BleHs)
  | cancelConnect (answer : BleHs)
  | host (m : BleHost.Move)
  /-- the host task handles the oldest event -/
  | deliver (answers : AdvAnswers)
  /-- the host loses its state and calls `bmx_ble_on_reset` -/
  | reset
  | sync (result : BleHs)
  /-- the scan calls and their handler -/
  | scan (active : Bool)

/-- The callbacks run one at a time, and no call is interrupted by them. -/
def AdvSystem.step (s : AdvSystem) : AdvAction → Option AdvSystem
  | .startAdvertising serviceId duration connectable autoRestart answers =>
    some (s.bmxEmbeddedBleStartAdvertising serviceId duration connectable autoRestart answers).2
  | .stopAdvertising answer reason => some (s.bmxEmbeddedBleStopAdvertising answer reason).2
  | .connect addressType address inferAuto answer =>
    some (s.bmxEmbeddedBleConnect addressType address inferAuto answer).2
  | .cancelConnect answer => some (s.bmxEmbeddedBleCancelConnect answer).2
  | .host m => (s.host.move m).map fun h => { s with host := h }
  | .deliver answers =>
    match s.host.pending with
    | [] => none
    | e :: rest => some ({ s with host := { s.host with pending := rest } }.bmxBleGapEvent answers e)
  | .reset =>
    some { s with host := s.host.reset }.bmxBleOnReset
  | .sync result => some (s.bmxBleOnSync result)
  | .scan active => some { s with scanActive := active }

/-- Initialised, with nothing going on in the host. -/
structure AdvSystem.Boot (s : AdvSystem) : Prop where
  advertising : s.host.advertising = none
  pending : s.host.pending = []
  advertisingActive : s.advertisingActive = false
  restartErrors : s.restartErrors = []

/-- Any interleaving of calls, moves and callbacks. -/
def advMachine : Machine AdvSystem AdvAction where
  init := AdvSystem.Boot
  step := AdvSystem.step

/-! ### The claim and its condition -/

/-- The flag tells the truth once every event has been handled, and nothing goes wrong over it. -/
structure AdvSystem.Correct (s : AdvSystem) : Prop where
  flag : s.host.pending = [] → (s.advertisingActive = true ↔ s.host.advertising.isSome = true)
  /-- `stop_advertising` does not answer 0 and leave the host advertising. -/
  stop : ∀ answer reason, (s.bmxEmbeddedBleStopAdvertising answer reason).1 = .ok →
    (s.bmxEmbeddedBleStopAdvertising answer reason).2.host.advertising = none
  /-- No auto-restart has failed because the host was still advertising. -/
  restart : (.ealready, true) ∉ s.restartErrors

/-- An event is handled while the host is advertising. -/
def HandledWhileAdvertising (s : AdvSystem) : AdvAction → Prop
  | .deliver _ => s.host.advertising.isSome = true
  | _ => False

/-! ### The invariant -/

/-- While the host advertises the flag is set; a set flag of a host that does not is going
to be cleared by a pending event. -/
structure AdvFlag (active : Bool) (advertising : Option AdvParameters) (pending : List GapEvent) :
    Prop where
  set : advertising.isSome = true → active = true
  stale : active = true → advertising = none → pending ≠ []

/-- What every step keeps, but those of `HandledWhileAdvertising`. -/
structure AdvSystem.Inv (s : AdvSystem) : Prop where
  flag : AdvFlag s.advertisingActive s.host.advertising s.host.pending
  restart : (.ealready, true) ∉ s.restartErrors

section Flag

variable {active : Bool} {advertising : Option AdvParameters} {pending : List GapEvent}

theorem AdvFlag.off (hactive : active = false) (hoff : advertising = none) :
    AdvFlag active advertising pending := by
  subst hactive hoff
  exact ⟨nofun, nofun⟩

theorem AdvFlag.on (p : AdvParameters) : AdvFlag true (some p) pending :=
  ⟨fun _ => rfl, nofun⟩

/-- Another event is pending. -/
theorem AdvFlag.raise (h : AdvFlag active advertising pending) (e : GapEvent) :
    AdvFlag active advertising (pending ++ [e]) :=
  ⟨h.set, fun _ _ => List.append_ne_nil_of_right_ne_nil _ (List.cons_ne_nil _ _)⟩

/-- Advertising has ended, and an event is pending that tells so. -/
theorem AdvFlag.ended (e : GapEvent) : AdvFlag active none (pending ++ [e]) :=
  ⟨nofun, fun _ _ => List.append_ne_nil_of_right_ne_nil _ (List.cons_ne_nil _ _)⟩

end Flag

/-! ### The calls keep it -/

/-- `ble_gap_adv_start` starts a host that does not advertise, or fails. -/
theorem BleHost.bleGapAdvStart_cases (h : BleHost) (p : AdvParameters) (answer : BleHs) :
    (h.advertising = none ∧ h.bleGapAdvStart p answer = (.ok, { h with advertising := some p })) ∨
      ((h.bleGapAdvStart p answer).1 ≠ .ok ∧ (h.bleGapAdvStart p answer).2 = h) := by
  unfold bleGapAdvStart
  split
  · exact .inr ⟨nofun, rfl⟩
  · rename_i hoff
    split
    · exact .inl ⟨Option.not_isSome_iff_eq_none.mp hoff, rfl⟩
    · exact .inr ⟨‹_›, rfl⟩

namespace AdvSystem

variable {s s' : AdvSystem}

/-- The host starts to advertise and the flag is set, or nothing changes. -/
theorem internal_cases (s : AdvSystem) (answers : AdvAnswers) :
    (s.host.advertising = none ∧ ∃ p, s.bmxBleStartAdvertisingInternal answers =
      (.ok, { s with host := { s.host with advertising := some p }, advertisingActive := true })) ∨
    ((s.bmxBleStartAdvertisingInternal answers).1 ≠ .ok ∧
      (s.bmxBleStartAdvertisingInternal answers).2 = s) := by
  unfold bmxBleStartAdvertisingInternal
  split
  · exact .inr ⟨‹_›, rfl⟩
  split
  · exact .inr ⟨nofun, rfl⟩
  split
  · exact .inr ⟨‹_›, rfl⟩
  split
  · exact .inr ⟨‹_›, rfl⟩
  dsimp only
  split
  · rename_i hok
    rcases s.host.bleGapAdvStart_cases _ _ with ⟨hoff, hstart⟩ | ⟨hne, -⟩
    · rw [hstart]
      exact .inl ⟨hoff, _, rfl⟩
    · exact absurd hok hne
  · rename_i hne
    rcases s.host.bleGapAdvStart_cases _ _ with ⟨-, hstart⟩ | ⟨-, hsame⟩
    · rw [hstart] at hne
      exact absurd rfl hne
    · rw [hsame]
      exact .inr ⟨hne, rfl⟩

theorem inv_internal (h : s.Inv) (answers : AdvAnswers) :
    (s.bmxBleStartAdvertisingInternal answers).2.Inv := by
  rcases s.internal_cases answers with ⟨-, p, hstart⟩ | ⟨-, hsame⟩
  · rw [hstart]
    exact ⟨.on p, h.restart⟩
  · rw [hsame]
    exact h

theorem inv_startAdvertising (h : s.Inv) (serviceId : Int32) (duration : UInt32)
    (connectable autoRestart : Bool) (answers : AdvAnswers) :
    (s.bmxEmbeddedBleStartAdvertising serviceId duration connectable autoRestart answers).2.Inv := by
  have hconfigured : ({ s with
      advertisingService := serviceId
      advertisingDuration := duration
      advertisingConnectable := connectable
      advertisingAutoRestart := autoRestart } : AdvSystem).Inv := ⟨h.flag, h.restart⟩
  have hstarted := inv_internal hconfigured answers
  unfold bmxEmbeddedBleStartAdvertising
  split
  · exact h
  split
  · exact h
  split
  · exact h
  split
  · exact h
  dsimp only
  split
  · exact ⟨hstarted.flag, hstarted.restart⟩
  · exact hstarted

theorem inv_stopAdvertising (h : s.Inv) (answer : BleHs) (reason : Int32) :
    (s.bmxEmbeddedBleStopAdvertising answer reason).2.Inv := by
  unfold bmxEmbeddedBleStopAdvertising
  split
  · exact h
  dsimp only
  split
  · exact ⟨h.flag, h.restart⟩
  unfold BleHost.bleGapAdvStop
  split
  · exact ⟨h.flag, h.restart⟩
  split
  · exact ⟨.ended _, h.restart⟩
  · exact ⟨h.flag, h.restart⟩

theorem inv_connect (h : s.Inv) (addressType : Int32) (address : Option (Vector UInt8 6))
    (inferAuto answer : BleHs) :
    (s.bmxEmbeddedBleConnect addressType address inferAuto answer).2.Inv := by
  have hhost : (s.host.bleGapConnect answer).2.advertising = s.host.advertising ∧
      (s.host.bleGapConnect answer).2.pending = s.host.pending := by
    unfold BleHost.bleGapConnect
    split
    · exact ⟨rfl, rfl⟩
    · split <;> exact ⟨rfl, rfl⟩
  have hflag : AdvFlag s.advertisingActive (s.host.bleGapConnect answer).2.advertising
      (s.host.bleGapConnect answer).2.pending := by
    rw [hhost.1, hhost.2]
    exact h.flag
  unfold bmxEmbeddedBleConnect
  split
  · exact h
  split
  · exact h
  split
  · exact h
  split
  · exact h
  split
  · exact h
  dsimp only
  split <;> exact ⟨hflag, h.restart⟩

theorem inv_cancelConnect (h : s.Inv) (answer : BleHs) :
    (s.bmxEmbeddedBleCancelConnect answer).2.Inv := by
  unfold bmxEmbeddedBleCancelConnect
  split
  · exact h
  split
  · exact h
  dsimp only
  split
  · exact ⟨h.flag, h.restart⟩
  · exact h

end AdvSystem

/-! ### The host and its events keep it -/

@[simp] theorem BleHost.addLink_advertising (h : BleHost) (status : Int32) (connHandle : UInt16)
    (role : BleRole) : (h.addLink status connHandle role).advertising = h.advertising := by
  unfold BleHost.addLink
  split <;> rfl

@[simp] theorem BleHost.addLink_pending (h : BleHost) (status : Int32) (connHandle : UInt16)
    (role : BleRole) : (h.addLink status connHandle role).pending = h.pending := by
  unfold BleHost.addLink
  split <;> rfl

/-- Whatever the host does by itself, it raises an event, and advertising goes on or ends. -/
theorem BleHost.move_cases {h h' : BleHost} {m : Move} (hm : h.move m = some h') :
    ∃ e, h'.pending = h.pending ++ [e] ∧
      (h'.advertising = h.advertising ∨ h'.advertising = none) := by
  cases m with
  | advEnds reason =>
    obtain ⟨-, hmove⟩ := Option.ite_none_right_eq_some.mp hm
    obtain rfl := Option.some.inj hmove
    exact ⟨_, rfl, .inr rfl⟩
  | connectSlave status connHandle =>
    obtain ⟨-, hmove⟩ := Option.ite_none_right_eq_some.mp hm
    obtain rfl := Option.some.inj hmove
    exact ⟨.connect status connHandle, by simp [raise], .inr (by simp [raise])⟩
  | connectMaster status connHandle =>
    obtain ⟨-, hmove⟩ := Option.ite_none_right_eq_some.mp hm
    obtain rfl := Option.some.inj hmove
    exact ⟨.connect status connHandle, by simp [raise], .inl (by simp [raise])⟩
  | linkLost reason connHandle role =>
    obtain ⟨-, hmove⟩ := Option.ite_none_right_eq_some.mp hm
    obtain rfl := Option.some.inj hmove
    exact ⟨_, rfl, .inl rfl⟩

namespace AdvSystem

variable {s s' : AdvSystem}

theorem inv_host (h : s.Inv) {m : BleHost.Move} {host : BleHost} (hm : s.host.move m = some host) :
    ({ s with host := host } : AdvSystem).Inv := by
  obtain ⟨e, hpending, hadvertising⟩ := BleHost.move_cases hm
  refine ⟨?_, h.restart⟩
  show AdvFlag s.advertisingActive host.advertising host.pending
  rw [hpending]
  rcases hadvertising with hsame | hnone
  · rw [hsame]
    exact h.flag.raise e
  · rw [hnone]
    exact .ended e

/-- An auto-restart of a host that does not advertise. -/
theorem inv_restart (h : s.Inv) (hactive : s.advertisingActive = false)
    (hoff : s.host.advertising = none) (answers : AdvAnswers) : (s.restart answers).Inv := by
  unfold restart
  rcases s.internal_cases answers with ⟨-, p, hstart⟩ | ⟨hne, hsame⟩
  · rw [hstart, if_neg (by simp)]
    exact ⟨.on p, h.restart⟩
  · rw [if_pos hne, hsame]
    refine ⟨.off hactive hoff, ?_⟩
    intro hmem
    rcases List.mem_append.mp hmem with hold | hnew
    · exact h.restart hold
    · rw [hoff] at hnew
      simp at hnew

/-- An event that is handled while the host does not advertise. -/
theorem inv_gapEvent (hrestart : (.ealready, true) ∉ s.restartErrors)
    (hoff : s.host.advertising = none) (answers : AdvAnswers) (e : GapEvent) :
    (s.bmxBleGapEvent answers e).Inv := by
  cases e with
  | connect status connHandle =>
    have hinv : ({ s with connecting := false, advertisingActive := false } : AdvSystem).Inv :=
      ⟨.off rfl hoff, hrestart⟩
    simp only [bmxBleGapEvent]
    split
    · exact inv_restart hinv rfl hoff answers
    · exact hinv
  | disconnect reason connHandle role =>
    have hinv : ({ s with advertisingActive := false } : AdvSystem).Inv :=
      ⟨.off rfl hoff, hrestart⟩
    simp only [bmxBleGapEvent]
    split
    · exact inv_restart hinv rfl hoff answers
    · exact hinv
  | advComplete reason => exact ⟨.off rfl hoff, hrestart⟩

theorem inv_step (h : s.Inv) {a : AdvAction} (hquiet : ¬ HandledWhileAdvertising s a)
    (hs : s.step a = some s') : s'.Inv := by
  cases a with
  | startAdvertising serviceId duration connectable autoRestart answers =>
    obtain rfl := Option.some.inj hs
    exact inv_startAdvertising h _ _ _ _ _
  | stopAdvertising answer reason =>
    obtain rfl := Option.some.inj hs
    exact inv_stopAdvertising h _ _
  | connect addressType address inferAuto answer =>
    obtain rfl := Option.some.inj hs
    exact inv_connect h _ _ _ _
  | cancelConnect answer =>
    obtain rfl := Option.some.inj hs
    exact inv_cancelConnect h _
  | host m =>
    obtain ⟨host, hm, rfl⟩ := Option.map_eq_some_iff.mp hs
    exact inv_host h hm
  | deliver answers =>
    -- the condition: no event is handled while the host advertises
    have hoff : s.host.advertising = none := Option.not_isSome_iff_eq_none.mp hquiet
    simp only [step] at hs
    split at hs
    · cases hs
    · obtain rfl := Option.some.inj hs
      refine inv_gapEvent ?_ ?_ answers _
      · exact h.restart
      · exact hoff
  | reset =>
    obtain rfl := Option.some.inj hs
    exact ⟨.off rfl rfl, h.restart⟩
  | sync result =>
    obtain rfl := Option.some.inj hs
    unfold bmxBleOnSync
    split
    · exact ⟨h.flag, h.restart⟩
    · exact h
  | scan active =>
    obtain rfl := Option.some.inj hs
    exact ⟨h.flag, h.restart⟩

theorem Inv.correct (h : s.Inv) : s.Correct := by
  refine ⟨?_, ?_, h.restart⟩
  · intro hpending
    refine ⟨?_, h.flag.set⟩
    intro hactive
    rw [← Option.ne_none_iff_isSome]
    intro hnone
    exact h.flag.stale hactive hnone hpending
  · intro answer reason hok
    unfold bmxEmbeddedBleStopAdvertising at hok ⊢
    split at hok
    · cases hok
    rw [if_neg ‹_›]
    dsimp only at hok ⊢
    split at hok
    · rename_i hclear
      rw [if_pos hclear]
      -- the flag is clear, so nothing is advertised
      apply Option.not_isSome_iff_eq_none.mp
      intro hsome
      rw [h.flag.set hsome] at hclear
      cases hclear
    · rw [if_neg ‹_›]
      unfold BleHost.bleGapAdvStop at hok ⊢
      split at hok
      · cases hok
      rw [if_neg ‹_›]
      split at hok
      · rw [if_pos ‹_›]
        rfl
      · exact absurd hok ‹_›

end AdvSystem

/-! ### Main results -/

/-- **The advertising flag.**  In every run in which no event is handled while the host is
advertising, the flag is right whenever no event is pending, `stop_advertising` does not
answer 0 for a host that goes on, and no auto-restart runs into EALREADY. -/
theorem advertising_flag (s : AdvSystem)
    (h : advMachine.ReachableIn (fun s a => ¬ HandledWhileAdvertising s a) s) : s.Correct :=
  (h.invariant (I := AdvSystem.Inv)
    (fun _ h₀ => ⟨.off h₀.advertisingActive h₀.advertising, by rw [h₀.restartErrors]; nofun⟩)
    fun _ _ _ hi hok hs => AdvSystem.inv_step hi hok hs).correct

/-- An auto-restart of a host that advertises fails and leaves a clear flag clear. -/
theorem AdvSystem.restart_of_advertising {s : AdvSystem} (hactive : s.advertisingActive = false)
    (hon : s.host.advertising.isSome = true) (answers : AdvAnswers) :
    (s.restart answers).advertisingActive = false ∧
      (s.restart answers).host.advertising.isSome = true := by
  unfold AdvSystem.restart
  rcases s.internal_cases answers with ⟨hoff, -⟩ | ⟨hne, hsame⟩
  · rw [hoff] at hon
    cases hon
  · rw [if_pos hne, hsame]
    exact ⟨hactive, hon⟩

/-- Every step that the condition excludes leaves a host that advertises with a clear
flag. -/
theorem loses_flag {s s' : AdvSystem} {a : AdvAction} (ha : HandledWhileAdvertising s a)
    (hs : s.step a = some s') :
    s'.advertisingActive = false ∧ s'.host.advertising.isSome = true := by
  cases a with
  | deliver answers =>
    simp only [AdvSystem.step] at hs
    split at hs
    · cases hs
    rename_i e rest hpending
    obtain rfl := Option.some.inj hs
    cases e with
    | connect status connHandle =>
      simp only [AdvSystem.bmxBleGapEvent]
      split
      · apply AdvSystem.restart_of_advertising
        · rfl
        · exact ha
      · exact ⟨rfl, ha⟩
    | disconnect reason connHandle role =>
      simp only [AdvSystem.bmxBleGapEvent]
      split
      · apply AdvSystem.restart_of_advertising
        · rfl
        · exact ha
      · exact ⟨rfl, ha⟩
    | advComplete reason => exact ⟨rfl, ha⟩
  | _ => exact absurd ha id

/-- An initialised and ready adapter without services. -/
def advBoot : AdvSystem where
  host := { advertising := none, outbound := false, links := [], pending := [] }
  initialized := true
  ready := true
  scanActive := false
  connecting := false
  advertisingActive := false
  advertisingAutoRestart := false
  advertisingService := 0
  advertisingDuration := 0
  advertisingConnectable := false
  serviceUuids := []
  restartErrors := []

theorem advBoot_boot : advBoot.Boot := ⟨rfl, rfl, rfl, rfl⟩

/-- Advertising yields a connection, and the link is lost. -/
theorem advertising_flag_restarted :
    ∃ s : AdvSystem, s.host.advertising.isSome = true ∧ s.host.links = [] ∧ s.Correct := by
  refine ⟨_, ?_, ?_, advertising_flag _
    (.step (a := .deliver {}) (.step (a := .host (.linkLost 0x13 1 .slave))
      (.step (a := .deliver {}) (.step (a := .host (.connectSlave 0 1))
        (.step (a := .startAdvertising 0 0 true true {}) (.init advBoot_boot) (by exact id) rfl)
        (by exact id) rfl) (by exact nofun) rfl) (by exact id) rfl) (by exact nofun) rfl)⟩
  · rfl
  · rfl

/-- A connection is being made, and advertising starts before its CONNECT event. -/
def connectThenAdvertise : List AdvAction :=
  [.connect 0 (some (Vector.replicate 6 0)) .ok .ok, .startAdvertising 0 0 true false {},
    .host (.connectMaster 0 1), .deliver {}]

/-- The host advertises, no event is pending, and the flag is clear. -/
theorem advertising_flag_wrong : ∃ s, advMachine.Reachable s ∧ ¬ s.Correct := by
  obtain ⟨s, hs, hp⟩ := exists_reachable_of_run (M := advMachine) connectThenAdvertise
    (fun s : AdvSystem => decide (s.host.pending = [] ∧ s.advertisingActive = false ∧
      s.host.advertising.isSome = true)) advBoot_boot (by decide)
  obtain ⟨hpending, hactive, hon⟩ := of_decide_eq_true hp
  refine ⟨s, hs, fun hcorrect => ?_⟩
  have htrue := (hcorrect.flag hpending).mpr hon
  rw [hactive] at htrue
  cases htrue

end Esp32Mod
