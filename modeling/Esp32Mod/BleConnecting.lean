/-
Esp32Mod/BleConnecting.lean

Outbound connections of the BLE adapter (`network.mod/ble.mod/native/esp32_ble.c`): the flag
`bmx_ble_connecting`, and the role with which a failed CONNECT event is queued.

The adapter, its calls and the host are those of `BleAdvertising`; only the end of a cancelled
procedure differs.  There it ends with its CONNECT event; here it ends when
`ble_gap_conn_cancel` answers 0, and the event may follow.  The event that CONNECT queues is
`bleConnected`.

Outside the source, `outcomes` tells of each pending event whether it reports the outcome of an
outbound procedure, and `connected` of each handled CONNECT what was queued.

Main results:

* `connecting_flag` — flag, roles and `cancel_connect` are right in every run that handles no
  CONNECT while an outbound procedure is in progress, and no failed one of a peer;
* `disorderly_connect` — every handling of that kind goes wrong at once;
* `connecting_flag_wrong` — it happens.
-/
import Esp32Mod.BleAdvertising
import Esp32Mod.TerminalEvents

namespace Esp32Mod

open StepMachine Machine

/-! ### Events with their origin -/

/-- What a handled CONNECT has queued, and whether it was the outcome of an outbound
procedure. -/
structure ConnectedRecord where
  queued : BMXBLEEvent
  outcome : Bool

/-- The adapter, and whose outcomes its CONNECT events are. -/
structure ConnectSystem where
  adapter : AdvSystem
  outcomes : List Bool
  connected : List ConnectedRecord

/-- The host ends the procedure that is cancelled, perhaps with an event. -/
def BleHost.cancelled (h : BleHost) (event : Option (Int32 × UInt16)) : BleHost :=
  let h := { h with outbound := false }
  match event with
  | some (status, connHandle) => (h.addLink status connHandle .master).raise (.connect status connHandle)
  | none => h

/-- The steps of the adapter and of the host. -/
inductive ConnectAction
  /-- a step of the adapter or of the host, other than the next two -/
  | adapter (a : AdvAction)
  | cancelConnect (answer : BleHs) (event : Option (Int32 × UInt16))
  /-- `found` is the answer of `ble_gap_conn_find` -/
  | deliver (answers : AdvAnswers) (found : Option BleConnDesc)

namespace ConnectSystem

/-- `bmx_embedded_ble_cancel_connect`, and what the host does if it is asked. -/
def cancelConnect (s : ConnectSystem) (answer : BleHs) (event : Option (Int32 × UInt16)) :
    BleHs × ConnectSystem :=
  let r := s.adapter.bmxEmbeddedBleCancelConnect answer
  -- the flag has been cleared exactly if the host answered 0
  if s.adapter.connecting && !r.2.connecting then
    (r.1, { s with
      adapter := { r.2 with host := r.2.host.cancelled event }
      outcomes := s.outcomes ++ List.replicate event.toList.length true })
  else (r.1, { s with adapter := r.2 })

/-- The events that a step has raised are outcomes if it ended an outbound procedure. -/
def adapterStep (s : ConnectSystem) (a : AdvAction) : Option ConnectSystem :=
  (s.adapter.step a).map fun adapter =>
    { s with
      adapter
      outcomes := s.outcomes ++
        List.replicate (adapter.host.pending.length - s.adapter.host.pending.length)
          (s.adapter.host.outbound && !adapter.host.outbound) }

/-- What is noted of a CONNECT event. -/
def record (s : ConnectSystem) (found : Option BleConnDesc) (outcome : Bool) :
    GapEvent → List ConnectedRecord
  | .connect status connHandle =>
    [⟨bleConnected status connHandle s.adapter.connecting found, outcome⟩]
  | _ => []

/-- The first event that waits goes to the handler. -/
def deliver (s : ConnectSystem) (answers : AdvAnswers) (found : Option BleConnDesc) :
    Option ConnectSystem :=
  match s.adapter.host.pending, s.outcomes with
  | e :: _, outcome :: outcomes =>
    (s.adapter.step (.deliver answers)).map fun adapter =>
      { adapter, outcomes, connected := s.connected ++ s.record found outcome e }
  | _, _ => none

/-- Calls and events, in any order. -/
def step (s : ConnectSystem) : ConnectAction → Option ConnectSystem
  | .adapter (.cancelConnect _) => none
  | .adapter (.deliver _) => none
  | .adapter a => s.adapterStep a
  | .cancelConnect answer event => some (s.cancelConnect answer event).2
  | .deliver answers found => s.deliver answers found

/-- Initialised, with nothing going on in the host. -/
structure Boot (s : ConnectSystem) : Prop where
  adapter : s.adapter.Boot
  connecting : s.adapter.connecting = false
  outbound : s.adapter.host.outbound = false
  outcomes : s.outcomes = []
  connected : s.connected = []

end ConnectSystem

/-- Any interleaving of calls and events. -/
def connectMachine : Machine ConnectSystem ConnectAction where
  init := ConnectSystem.Boot
  step := ConnectSystem.step

/-! ### The claim and its condition -/

/-- What the flag and the role of an event say. -/
structure ConnectSystem.Correct (s : ConnectSystem) : Prop where
  flag : s.adapter.host.pending = [] →
    (s.adapter.connecting = true ↔ s.adapter.host.outbound = true)
  /-- A failed CONNECT shows the master role iff it is the outcome of an outbound procedure. -/
  label : ∀ r ∈ s.connected, r.queued.status ≠ 0 →
    (r.queued.properties = bleGapRoleMaster ↔ r.outcome = true)
  /-- `cancel_connect` does not answer 0 and leave the procedure running. -/
  cancel : ∀ answer event, (s.cancelConnect answer event).1 = .ok →
    (s.cancelConnect answer event).2.adapter.host.outbound = false

/-- A CONNECT is handled only while no outbound procedure is in progress, and a failed one
only if it is the outcome of an outbound procedure. -/
def ConnectOrderly (s : ConnectSystem) : ConnectAction → Prop
  | .deliver _ _ =>
    match s.adapter.host.pending, s.outcomes with
    | .connect status _ :: _, outcome :: _ =>
      s.adapter.host.outbound = false ∧ (status ≠ 0 → outcome = true)
    | _, _ => True
  | _ => True

/-! ### The invariant -/

/-- While a procedure is in progress the flag is set; a set flag without a procedure is going
to be cleared by a pending CONNECT. -/
structure ConnectFlag (connecting outbound : Bool) (pending : List GapEvent) : Prop where
  set : outbound = true → connecting = true
  stale : connecting = true → outbound = false →
    ∃ status connHandle, GapEvent.connect status connHandle ∈ pending

/-- The same while events wait. -/
structure ConnectSystem.Inv (s : ConnectSystem) : Prop where
  flag : ConnectFlag s.adapter.connecting s.adapter.host.outbound s.adapter.host.pending
  origins : s.outcomes.length = s.adapter.host.pending.length
  label : ∀ r ∈ s.connected, r.queued.status ≠ 0 →
    (r.queued.properties = bleGapRoleMaster ↔ r.outcome = true)

section Flag

variable {connecting outbound : Bool} {pending : List GapEvent}

theorem ConnectFlag.off (hconnecting : connecting = false) (hoff : outbound = false) :
    ConnectFlag connecting outbound pending := by
  subst hconnecting hoff
  exact ⟨nofun, nofun⟩

theorem ConnectFlag.on : ConnectFlag true true pending := ⟨fun _ => rfl, nofun⟩

/-- More events are pending. -/
theorem ConnectFlag.raise (h : ConnectFlag connecting outbound pending) (es : List GapEvent) :
    ConnectFlag connecting outbound (pending ++ es) := by
  refine ⟨h.set, ?_⟩
  intro hconnecting hoff
  obtain ⟨status, connHandle, hmem⟩ := h.stale hconnecting hoff
  exact ⟨status, connHandle, List.mem_append_left es hmem⟩

/-- The procedure has ended, and the CONNECT that tells so is pending. -/
theorem ConnectFlag.ended (status : Int32) (connHandle : UInt16) :
    ConnectFlag connecting false (pending ++ [.connect status connHandle]) := by
  refine ⟨nofun, ?_⟩
  intro _ _
  exact ⟨status, connHandle, List.mem_append_right _ (List.mem_singleton.mpr rfl)⟩

/-- An event that is no CONNECT is handled. -/
theorem ConnectFlag.handled {e : GapEvent} {rest : List GapEvent}
    (h : ConnectFlag connecting outbound (e :: rest))
    (he : ∀ status connHandle, e ≠ .connect status connHandle) :
    ConnectFlag connecting outbound rest := by
  refine ⟨h.set, ?_⟩
  intro hconnecting hoff
  obtain ⟨status, connHandle, hmem⟩ := h.stale hconnecting hoff
  rcases List.mem_cons.mp hmem with heq | hrest
  · exact absurd heq.symm (he status connHandle)
  · exact ⟨status, connHandle, hrest⟩

end Flag

/-! ### What the steps of the adapter do -/

/-- `ble_gap_connect` starts a procedure, or fails. -/
theorem BleHost.bleGapConnect_cases (h : BleHost) (answer : BleHs) :
    h.bleGapConnect answer = (.ok, { h with outbound := true }) ∨
      ((h.bleGapConnect answer).1 ≠ .ok ∧ (h.bleGapConnect answer).2 = h) := by
  unfold bleGapConnect
  split
  · exact .inr ⟨nofun, rfl⟩
  split
  · exact .inl rfl
  · exact .inr ⟨‹_›, rfl⟩

namespace AdvSystem

/-- The flag and the procedure stay as they are, and the events `es` come behind those that are
pending. -/
structure SameProcedure (s : AdvSystem) (es : List GapEvent) (s' : AdvSystem) : Prop where
  connecting : s'.connecting = s.connecting
  outbound : s'.host.outbound = s.host.outbound
  pending : s'.host.pending = s.host.pending ++ es

variable {s s' : AdvSystem}

theorem SameProcedure.refl (s : AdvSystem) : s.SameProcedure [] s :=
  ⟨rfl, rfl, (List.append_nil _).symm⟩

/-- Starting to advertise has no effect on connections. -/
theorem internal_same (s : AdvSystem) (answers : AdvAnswers) :
    s.SameProcedure [] (s.bmxBleStartAdvertisingInternal answers).2 := by
  rcases s.internal_cases answers with ⟨-, p, hstart⟩ | ⟨-, hsame⟩
  · rw [hstart]
    exact ⟨rfl, rfl, (List.append_nil _).symm⟩
  · rw [hsame]
    exact .refl s

theorem restart_same (s : AdvSystem) (answers : AdvAnswers) :
    s.SameProcedure [] (s.restart answers) := by
  have hinternal := s.internal_same answers
  unfold restart
  dsimp only
  split
  · exact ⟨hinternal.connecting, hinternal.outbound, hinternal.pending⟩
  · exact hinternal

theorem startAdvertising_same (s : AdvSystem) (serviceId : Int32) (duration : UInt32)
    (connectable autoRestart : Bool) (answers : AdvAnswers) : s.SameProcedure []
      (s.bmxEmbeddedBleStartAdvertising serviceId duration connectable autoRestart answers).2 := by
  unfold bmxEmbeddedBleStartAdvertising
  split
  · exact .refl s
  split
  · exact .refl s
  split
  · exact .refl s
  split
  · exact .refl s
  -- the parameters are recorded, and the host is asked
  have hinternal := internal_same { s with
    advertisingService := serviceId
    advertisingDuration := duration
    advertisingConnectable := connectable
    advertisingAutoRestart := autoRestart } answers
  dsimp only
  split
  · exact ⟨hinternal.connecting, hinternal.outbound, hinternal.pending⟩
  · exact ⟨hinternal.connecting, hinternal.outbound, hinternal.pending⟩

theorem stopAdvertising_same (s : AdvSystem) (answer : BleHs) (reason : Int32) :
    ∃ es, s.SameProcedure es (s.bmxEmbeddedBleStopAdvertising answer reason).2 := by
  have hsame : s.SameProcedure [] { s with advertisingAutoRestart := false } :=
    ⟨rfl, rfl, (List.append_nil _).symm⟩
  unfold bmxEmbeddedBleStopAdvertising
  split
  · exact ⟨[], .refl s⟩
  dsimp only
  split
  · exact ⟨[], hsame⟩
  unfold BleHost.bleGapAdvStop
  split
  · exact ⟨[], hsame⟩
  split
  · exact ⟨[.advComplete reason], rfl, rfl, rfl⟩
  · exact ⟨[], hsame⟩

/-- `connect` starts a procedure and sets the flag, or changes nothing. -/
theorem connect_cases (s : AdvSystem) (addressType : Int32)
    (address : Option (Vector UInt8 6)) (inferAuto answer : BleHs) :
    (s.bmxEmbeddedBleConnect addressType address inferAuto answer).2 =
      { s with host := { s.host with outbound := true }, connecting := true } ∨
    (s.bmxEmbeddedBleConnect addressType address inferAuto answer).2 = s := by
  unfold bmxEmbeddedBleConnect
  split
  · exact .inr rfl
  split
  · exact .inr rfl
  split
  · exact .inr rfl
  split
  · exact .inr rfl
  split
  · exact .inr rfl
  rcases s.host.bleGapConnect_cases answer with hstart | ⟨hne, hsame⟩
  · rw [hstart]
    exact .inl rfl
  · dsimp only
    rw [if_neg hne, hsame]
    exact .inr rfl

/-- `cancel_connect` clears a set flag if the host answers 0, or changes nothing. -/
theorem cancelConnect_cases (s : AdvSystem) (answer : BleHs) :
    (s.connecting = true ∧
      s.bmxEmbeddedBleCancelConnect answer = (.ok, { s with connecting := false })) ∨
    ((s.bmxEmbeddedBleCancelConnect answer).2 = s ∧
      ((s.bmxEmbeddedBleCancelConnect answer).1 = .ok → s.connecting = false)) := by
  unfold bmxEmbeddedBleCancelConnect
  split
  · exact .inr ⟨rfl, nofun⟩
  split
  next hidle => exact .inr ⟨rfl, fun _ => by simpa using hidle⟩
  next hconnecting =>
    have hset : s.connecting = true := by simpa using hconnecting
    dsimp only
    split
    next hok => exact .inl ⟨hset, by rw [hok]⟩
    next hne => exact .inr ⟨rfl, fun hok => absurd hok hne⟩

/-- A handled event clears the flag if it is a CONNECT, and leaves it otherwise. -/
theorem gapEvent_same (s : AdvSystem) (answers : AdvAnswers) (e : GapEvent) :
    SameProcedure
      (match e with
        | .connect _ _ => { s with connecting := false }
        | _ => s)
      [] (s.bmxBleGapEvent answers e) := by
  cases e with
  | connect status connHandle =>
    simp only [bmxBleGapEvent]
    split
    · have hrestart := restart_same { s with connecting := false, advertisingActive := false } answers
      exact ⟨hrestart.connecting, hrestart.outbound, hrestart.pending⟩
    · exact ⟨rfl, rfl, (List.append_nil _).symm⟩
  | disconnect reason connHandle role =>
    simp only [bmxBleGapEvent]
    split
    · have hrestart := restart_same { s with advertisingActive := false } answers
      exact ⟨hrestart.connecting, hrestart.outbound, hrestart.pending⟩
    · exact ⟨rfl, rfl, (List.append_nil _).symm⟩
  | advComplete reason => exact ⟨rfl, rfl, (List.append_nil _).symm⟩

end AdvSystem

/-! ### What CONNECT queues -/

theorem bleConnected_status (status : Int32) (connHandle : UInt16) (outbound : Bool)
    (found : Option BleConnDesc) : (bleConnected status connHandle outbound found).status = status := by
  unfold bleConnected
  split
  · split <;> rfl
  · split <;> rfl

/-- The zeroed properties of a failed attempt are the master role, whoever has made it. -/
theorem bleConnected_failed {status : Int32} (h : status ≠ 0) (connHandle : UInt16)
    (outbound : Bool) (found : Option BleConnDesc) :
    (bleConnected status connHandle outbound found).properties = bleGapRoleMaster := by
  unfold bleConnected
  rw [if_neg h]
  split <;> rfl

/-! ### The steps keep the invariant -/

@[simp] theorem BleHost.addLink_outbound (h : BleHost) (status : Int32) (connHandle : UInt16)
    (role : BleRole) : (h.addLink status connHandle role).outbound = h.outbound := by
  unfold BleHost.addLink
  split <;> rfl

/-- The host ends its outbound procedure with a CONNECT, or leaves it alone. -/
theorem BleHost.move_procedure {h h' : BleHost} {m : Move} (hm : h.move m = some h') :
    (h'.outbound = h.outbound ∧ ∃ e, h'.pending = h.pending ++ [e]) ∨
      (h'.outbound = false ∧ ∃ status connHandle,
        h'.pending = h.pending ++ [.connect status connHandle]) := by
  cases m with
  | advEnds reason =>
    obtain ⟨-, hmove⟩ := Option.ite_none_right_eq_some.mp hm
    obtain rfl := Option.some.inj hmove
    exact .inl ⟨rfl, _, rfl⟩
  | connectSlave status connHandle =>
    obtain ⟨-, hmove⟩ := Option.ite_none_right_eq_some.mp hm
    obtain rfl := Option.some.inj hmove
    exact .inl ⟨by simp [raise], .connect status connHandle, by simp [raise]⟩
  | connectMaster status connHandle =>
    obtain ⟨-, hmove⟩ := Option.ite_none_right_eq_some.mp hm
    obtain rfl := Option.some.inj hmove
    exact .inr ⟨by simp [raise], status, connHandle, by simp [raise]⟩
  | linkLost reason connHandle role =>
    obtain ⟨-, hmove⟩ := Option.ite_none_right_eq_some.mp hm
    obtain rfl := Option.some.inj hmove
    exact .inl ⟨rfl, _, rfl⟩

theorem BleHost.cancelled_cases (h : BleHost) (event : Option (Int32 × UInt16)) :
    (h.cancelled event).outbound = false ∧ ∃ es, (h.cancelled event).pending = h.pending ++ es ∧
      es.length = event.toList.length := by
  cases event with
  | none => exact ⟨rfl, [], (List.append_nil _).symm, rfl⟩
  | some e =>
    obtain ⟨status, connHandle⟩ := e
    refine ⟨?_, [.connect status connHandle], ?_, rfl⟩
    · simp [cancelled, raise]
    · simp [cancelled, raise]

namespace ConnectSystem

variable {s s' : ConnectSystem}

/-- A step of the adapter that keeps the flag right and raises events at most. -/
theorem Inv.adapter (h : s.Inv) {a : AdvAction} (hs : s.adapterStep a = some s')
    (heffect : ∀ adapter, s.adapter.step a = some adapter →
      ConnectFlag adapter.connecting adapter.host.outbound adapter.host.pending ∧
        ∃ es, adapter.host.pending = s.adapter.host.pending ++ es) : s'.Inv := by
  obtain ⟨adapter, hstep, rfl⟩ := Option.map_eq_some_iff.mp hs
  obtain ⟨hflag, es, hpending⟩ := heffect adapter hstep
  refine ⟨hflag, ?_, h.label⟩
  show (s.outcomes ++ List.replicate _ _).length = adapter.host.pending.length
  rw [List.length_append, List.length_replicate, h.origins, hpending, List.length_append,
    Nat.add_sub_cancel_left]

theorem Inv.adapter_same (h : s.Inv) {a : AdvAction} (hs : s.adapterStep a = some s')
    {adapter : AdvSystem} {es : List GapEvent} (hstep : s.adapter.step a = some adapter)
    (hsame : s.adapter.SameProcedure es adapter) : s'.Inv := by
  apply h.adapter hs
  intro adapter' hstep'
  obtain rfl := Option.some.inj (hstep.symm.trans hstep')
  refine ⟨?_, es, hsame.pending⟩
  rw [hsame.connecting, hsame.outbound, hsame.pending]
  exact h.flag.raise es

theorem Inv.connect (h : s.Inv) {addressType : Int32}
    {address : Option (Vector UInt8 6)} {inferAuto answer : BleHs}
    (hs : s.adapterStep (.connect addressType address inferAuto answer) = some s') :
    s'.Inv := by
  apply h.adapter hs
  intro adapter hstep
  obtain rfl := Option.some.inj hstep
  rcases s.adapter.connect_cases addressType address inferAuto answer with hstart | hsame
  · rw [hstart]
    exact ⟨.on, [], (List.append_nil _).symm⟩
  · rw [hsame]
    exact ⟨h.flag, [], (List.append_nil _).symm⟩

theorem Inv.host (h : s.Inv) {m : BleHost.Move}
    (hs : s.adapterStep (.host m) = some s') : s'.Inv := by
  apply h.adapter hs
  intro adapter hstep
  obtain ⟨host, hm, rfl⟩ := Option.map_eq_some_iff.mp hstep
  rcases BleHost.move_procedure hm with ⟨hsame, e, hpending⟩ | ⟨hoff, status, connHandle, hpending⟩
  · refine ⟨?_, [e], hpending⟩
    show ConnectFlag s.adapter.connecting host.outbound host.pending
    rw [hsame, hpending]
    exact h.flag.raise [e]
  · refine ⟨?_, _, hpending⟩
    show ConnectFlag s.adapter.connecting host.outbound host.pending
    rw [hoff, hpending]
    exact .ended status connHandle

theorem Inv.cancelConnect (h : s.Inv) (answer : BleHs)
    (event : Option (Int32 × UInt16)) : (s.cancelConnect answer event).2.Inv := by
  unfold ConnectSystem.cancelConnect
  rcases s.adapter.cancelConnect_cases answer with ⟨hset, hdone⟩ | ⟨hsame, -⟩
  · rw [hdone]
    simp only [hset, Bool.not_false, Bool.and_self, if_true]
    obtain ⟨hoff, es, hpending, hlength⟩ := BleHost.cancelled_cases s.adapter.host event
    refine ⟨.off rfl hoff, ?_, h.label⟩
    show (s.outcomes ++ List.replicate _ true).length = (s.adapter.host.cancelled event).pending.length
    rw [hpending, List.length_append, List.length_append, List.length_replicate, h.origins, hlength]
  · dsimp only
    rw [hsame]
    -- the host has not been asked, or has refused
    simp only [Bool.and_not_self, Bool.false_eq_true, if_false]
    exact ⟨h.flag, h.origins, h.label⟩

/-- What a handled CONNECT shows is right if it is handled in order. -/
theorem label_record {status : Int32} {connHandle : UInt16} {found : Option BleConnDesc}
    {outcome : Bool} (hlabel : status ≠ 0 → outcome = true) :
    ∀ r ∈ s.record found outcome (.connect status connHandle), r.queued.status ≠ 0 →
      (r.queued.properties = bleGapRoleMaster ↔ r.outcome = true) := by
  intro r hr hstatus
  obtain rfl := List.mem_singleton.mp hr
  rw [bleConnected_status] at hstatus
  rw [bleConnected_failed hstatus]
  exact ⟨fun _ => hlabel hstatus, fun _ => rfl⟩

theorem Inv.deliver (h : s.Inv) {answers : AdvAnswers} {found : Option BleConnDesc}
    (hok : ConnectOrderly s (.deliver answers found))
    (hs : s.deliver answers found = some s') : s'.Inv := by
  unfold ConnectSystem.deliver at hs
  split at hs
  next e rest outcome outcomes hpending houtcomes =>
    obtain ⟨adapter, hstep, rfl⟩ := Option.map_eq_some_iff.mp hs
    simp only [AdvSystem.step, hpending] at hstep
    obtain rfl := Option.some.inj hstep
    have hflag := h.flag
    have horigins := h.origins
    rw [hpending] at hflag horigins
    rw [houtcomes] at horigins
    -- the handler may restart advertising, which is not about connecting
    have hsame := AdvSystem.gapEvent_same
      { s.adapter with host := { s.adapter.host with pending := rest } } answers e
    refine ⟨?_, ?_, ?_⟩
    · show ConnectFlag _ _ _
      rw [hsame.connecting, hsame.outbound, hsame.pending, List.append_nil]
      cases e with
      | connect status connHandle =>
        -- the flag goes with any CONNECT, so the condition asks that no attempt is under way
        simp only [ConnectOrderly, hpending, houtcomes] at hok
        exact .off rfl hok.1
      | disconnect reason connHandle role => exact hflag.handled fun _ _ h => GapEvent.noConfusion h
      | advComplete reason => exact hflag.handled fun _ _ h => GapEvent.noConfusion h
    · show outcomes.length = _
      rw [hsame.pending, List.append_nil]
      have hlength := Nat.succ.inj horigins
      cases e <;> exact hlength
    · intro r hr
      rcases List.mem_append.mp hr with hold | hnew
      · exact h.label r hold
      · cases e with
        | connect status connHandle =>
          simp only [ConnectOrderly, hpending, houtcomes] at hok
          exact label_record hok.2 r hnew
        | disconnect reason connHandle role => cases hnew
        | advComplete reason => cases hnew
  · cases hs

theorem Inv.step (h : s.Inv) {a : ConnectAction} (hok : ConnectOrderly s a)
    (hs : s.step a = some s') : s'.Inv := by
  cases a with
  | adapter a =>
    cases a with
    | startAdvertising serviceId duration connectable autoRestart answers =>
      exact h.adapter_same hs rfl (s.adapter.startAdvertising_same _ _ _ _ _)
    | stopAdvertising answer reason =>
      obtain ⟨es, hsame⟩ := s.adapter.stopAdvertising_same answer reason
      exact h.adapter_same hs rfl hsame
    | connect addressType address inferAuto answer => exact h.connect hs
    | cancelConnect answer => cases hs
    | host m => exact h.host hs
    | deliver answers => cases hs
    | reset =>
      apply h.adapter hs
      intro adapter hstep
      obtain rfl := Option.some.inj hstep
      exact ⟨.off rfl rfl, [], (List.append_nil _).symm⟩
    | sync result =>
      refine h.adapter_same hs rfl (?_ : s.adapter.SameProcedure [] _)
      unfold AdvSystem.bmxBleOnSync
      split
      · exact ⟨rfl, rfl, (List.append_nil _).symm⟩
      · exact .refl _
    | scan active => exact h.adapter_same hs rfl ⟨rfl, rfl, (List.append_nil _).symm⟩
  | cancelConnect answer event =>
    obtain rfl := Option.some.inj hs
    exact h.cancelConnect answer event
  | deliver answers found => exact h.deliver hok hs

theorem Boot.inv (h : s.Boot) : s.Inv := by
  refine ⟨.off h.connecting h.outbound, ?_, ?_⟩
  · rw [h.outcomes, h.adapter.pending]
    rfl
  · rw [h.connected]
    exact nofun

theorem Inv.correct (h : s.Inv) : s.Correct := by
  refine ⟨?_, h.label, ?_⟩
  · intro hpending
    refine ⟨?_, h.flag.set⟩
    intro hconnecting
    rw [← Bool.not_eq_false]
    intro hoff
    obtain ⟨status, connHandle, hmem⟩ := h.flag.stale hconnecting hoff
    rw [hpending] at hmem
    cases hmem
  · intro answer event hok
    unfold ConnectSystem.cancelConnect at hok ⊢
    rcases s.adapter.cancelConnect_cases answer with ⟨hset, hdone⟩ | ⟨hsame, hclear⟩
    · rw [hdone]
      simp only [hset, Bool.not_false, Bool.and_self, if_true]
      exact (BleHost.cancelled_cases s.adapter.host event).1
    · dsimp only at hok ⊢
      rw [hsame, Bool.and_not_self] at hok ⊢
      simp only [Bool.false_eq_true, if_false] at hok ⊢
      -- nothing to cancel: the flag is clear, so no procedure is in progress
      rw [← Bool.not_eq_true]
      intro hoff
      exact absurd ((h.flag.set hoff).symm.trans (hclear hok)) (by decide)

end ConnectSystem

/-! ### Main results -/

/-- **The connecting flag.**  In every run that handles no CONNECT while an outbound procedure
is in progress, and no failed one that is not its outcome, the flag tells whether a procedure
is in progress whenever no event is pending, the failed CONNECT events show the master role
exactly if they are outcomes of an outbound procedure, and `cancel_connect` answers 0 only if
none is in progress afterwards. -/
theorem connecting_flag (s : ConnectSystem) (h : connectMachine.ReachableIn ConnectOrderly s) :
    s.Correct :=
  (h.invariant (I := ConnectSystem.Inv) (fun _ h₀ => h₀.inv)
    fun _ _ _ hi hok hs => hi.step hok hs).correct

/-- Every handling that the condition excludes goes wrong: it leaves a host with a procedure in
progress and a clear flag, or it shows the wrong role. -/
theorem disorderly_connect {s s' : ConnectSystem} {answers : AdvAnswers}
    {found : Option BleConnDesc} (hs : s.deliver answers found = some s')
    (hd : ¬ ConnectOrderly s (.deliver answers found)) :
    (s'.adapter.connecting = false ∧ s'.adapter.host.outbound = true) ∨
      ∃ r ∈ s'.connected, r.queued.status ≠ 0 ∧
        ¬ (r.queued.properties = bleGapRoleMaster ↔ r.outcome = true) := by
  unfold ConnectSystem.deliver at hs
  split at hs
  next e rest outcome outcomes hpending houtcomes =>
    obtain ⟨adapter, hstep, rfl⟩ := Option.map_eq_some_iff.mp hs
    simp only [AdvSystem.step, hpending] at hstep
    obtain rfl := Option.some.inj hstep
    simp only [ConnectOrderly, hpending, houtcomes] at hd
    cases e with
    | connect status connHandle =>
      have hsame := AdvSystem.gapEvent_same
        { s.adapter with host := { s.adapter.host with pending := rest } } answers
        (.connect status connHandle)
      by_cases hout : s.adapter.host.outbound = true
      · exact .inl ⟨hsame.connecting, hsame.outbound.trans hout⟩
      · have hwrong : ¬ (status ≠ 0 → outcome = true) :=
          fun hlabel => hd ⟨Bool.not_eq_true _ ▸ hout, hlabel⟩
        obtain ⟨hstatus, houtcome⟩ := Classical.not_imp.mp hwrong
        refine .inr ⟨_, List.mem_append_right _ (List.mem_singleton.mpr rfl), ?_, ?_⟩
        · rw [bleConnected_status]
          exact hstatus
        · exact fun hright => houtcome (hright.mp (bleConnected_failed hstatus _ _ _))
    | disconnect reason connHandle role => exact absurd trivial hd
    | advComplete reason => exact absurd trivial hd
  · cases hs

/-- An initialised and ready adapter. -/
def connectBoot : ConnectSystem := ⟨advBoot, [], []⟩

theorem connectBoot_boot : connectBoot.Boot := ⟨advBoot_boot, rfl, rfl, rfl, rfl⟩

/-- Six zeros. -/
def anyAddress : Option (Vector UInt8 6) := some (Vector.replicate 6 0)

/-- An attempt that fails. -/
theorem connecting_flag_failed : ∃ s : ConnectSystem,
    s.connected = [⟨{ kind := .connected, status := 13 }, true⟩] ∧ s.adapter.connecting = false ∧
      s.Correct := by
  have hboot : connectMachine.ReachableIn ConnectOrderly connectBoot := .init connectBoot_boot
  have hconnect := hboot.step (a := .adapter (.connect 0 anyAddress .ok .ok)) (by exact trivial) rfl
  have hfails := hconnect.step (a := .adapter (.host (.connectMaster 13 0))) (by exact trivial) rfl
  have hhandled := hfails.step (a := .deliver {} none) (by exact ⟨rfl, fun _ => rfl⟩) rfl
  exact ⟨_, rfl, rfl, connecting_flag _ hhandled⟩

/-- A peer connects to our advertising while a connection is being made. -/
def peerWhileConnecting : List ConnectAction :=
  [.adapter (.connect 0 anyAddress .ok .ok), .adapter (.startAdvertising 0 0 true false {}),
    .adapter (.host (.connectSlave 0 1)), .deliver {} none]

/-- The procedure goes on, the flag is clear, and `cancel_connect` answers 0. -/
theorem connecting_flag_wrong : ∃ s, connectMachine.Reachable s ∧ ¬ s.Correct := by
  obtain ⟨s, hs, hp⟩ := exists_reachable_of_run (M := connectMachine) peerWhileConnecting
    (fun s : ConnectSystem => decide (s.adapter.host.pending = [] ∧
      s.adapter.connecting = false ∧ s.adapter.host.outbound = true)) connectBoot_boot (by decide)
  obtain ⟨hpending, hclear, hon⟩ := of_decide_eq_true hp
  refine ⟨s, hs, fun hcorrect => ?_⟩
  have htrue := (hcorrect.flag hpending).mpr hon
  rw [hclear] at htrue
  cases htrue

end Esp32Mod
