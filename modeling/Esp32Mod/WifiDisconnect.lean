/-
Esp32Mod/WifiDisconnect.lean

Why a Wi-Fi connection has ended (`network.mod/wifi.mod/native/esp32_wifi.c`):
`bmx_embedded_wifi_connect` and `bmx_embedded_wifi_disconnect` on the application task, and
the events of the station in `bmx_wifi_handle` on the event task.  One flag,
`bmx_wifi_explicit_disconnect`, is to tell a requested end from any other.

A step is one access to the flag, one driver call or one call of `bmx_wifi_queue_link`.  The
driver has an association (or an attempt at one) or not, and posts one event for each that
ends, in order.  An event carries, outside the source, whether the end was requested.

Main results:

* `disconnects_attributed` — every end is reported for what it was, in every run whose steps
  are all `StationOrderly`;
* `disconnects_misattributed` — without the condition it is not.
-/
import Esp32Mod.WifiSoftAp

namespace Esp32Mod

open StepMachine Machine

/-! ### Reasons and reports -/

/-- The states of the link. -/
def wifiLinkUp : Int32 := 3
def wifiLinkFailed : Int32 := -1
def wifiLinkNoNetwork : Int32 := -2
def wifiLinkBadAuthentication : Int32 := -3

/-- `wifi_err_reason_t`, as far as the adapter tells its values apart. -/
inductive WifiReason
  | noApFound | noApFoundWithCompatibleSecurity | noApFoundInAuthmodeThreshold
  | noApFoundInRssiThreshold
  | authExpire | assocNotAuthed | fourWayHandshakeTimeout | groupKeyUpdateTimeout
  | ieIn4WayDiffers | auth8021XFailed | authFail | handshakeTimeout
  | other (code : UInt8)
  deriving DecidableEq

/-- The state that the reason of a disconnect stands for. -/
def bmxWifiDisconnectStatus : WifiReason → Int32
  | .noApFound | .noApFoundWithCompatibleSecurity | .noApFoundInAuthmodeThreshold
  | .noApFoundInRssiThreshold => wifiLinkNoNetwork
  | .authExpire | .assocNotAuthed | .fourWayHandshakeTimeout | .groupKeyUpdateTimeout
  | .ieIn4WayDiffers | .auth8021XFailed | .authFail | .handshakeTimeout =>
    wifiLinkBadAuthentication
  | .other _ => wifiLinkFailed

/-- `WIFI_EVENT_STA_DISCONNECTED`; `requested` says that `bmx_embedded_wifi_disconnect` has
ended the connection. -/
structure StationEnd where
  requested : Bool
  reason : WifiReason
  deriving DecidableEq

/-- What the end is to be reported as. -/
def StationEnd.status (e : StationEnd) : Int32 :=
  if e.requested then wifiLinkDown else bmxWifiDisconnectStatus e.reason

/-! ### The two tasks and the driver -/

/-- The arguments of `wifi_connect`. -/
structure StationArgs where
  ssid : Option (List UInt8)
  ssidLength : UInt32
  password : Option (List UInt8)
  passwordLength : UInt32
  authentication : UInt32

/-- The arguments that `bmx_embedded_wifi_connect` accepts; without a password the
authentication is not looked at. -/
def StationArgs.valid (a : StationArgs) : Bool :=
  a.ssid.isSome && a.ssidLength != 0 && decide (a.ssidLength ≤ 32) &&
    decide (a.passwordLength ≤ 64) && (a.passwordLength == 0 || a.password.isSome) &&
    (a.passwordLength == 0 || (bmxWifiAuthentication a.authentication).isSome)

/-- What the application task does next. -/
inductive StationApp
  | idle
  | connectClear | connectLink | connectDriver
  | disconnectSet | disconnectDriver | disconnectClear
  deriving DecidableEq

/-- What the event task does next about the end of a connection. -/
inductive StationHandler
  | idle
  | read (e : StationEnd)
  | clear (e : StationEnd) (status : Int32)
  | queue (e : StationEnd) (status : Int32)
  deriving DecidableEq

/-- The flag and the link, the call and the handler under way, and the events. -/
structure StationSystem where
  explicitDisconnect : Bool
  linkStatus : Int32
  app : StationApp
  handler : StationHandler
  /-- The driver has an association, or attempts one. -/
  associated : Bool
  /-- posted, and not yet handled -/
  posted : List StationEnd
  reports : List (StationEnd × Int32)

/-- The steps of the application, of the driver and of the event task. -/
inductive StationAction
  /-- `config` is the result of `esp_wifi_set_config` -/
  | connect (initialized : Bool) (a : StationArgs) (config : EspErr)
  | disconnect (initialized : Bool)
  /-- a step of the call in progress; the driver answers `answer`, and a requested end has
  `reason` -/
  | app (answer : EspErr) (reason : WifiReason)
  /-- an association or an attempt ends by itself -/
  | ends (reason : WifiReason)
  /-- the event task takes the next event -/
  | take
  | handler
  /-- any other event of the station -/
  | link (status : Int32)

namespace StationSystem

/-- The calls that are refused do nothing. -/
def callStep (s : StationSystem) (accepted : Bool) (pc : StationApp) : Option StationSystem :=
  if s.app = .idle then some { s with app := if accepted then pc else .idle } else none

/-- The call goes on. -/
def appStep (s : StationSystem) (answer : EspErr) (reason : WifiReason) :
    StationApp → Option StationSystem
  | .idle => none
  | .connectClear => some { s with explicitDisconnect := false, app := .connectLink }
  | .connectLink => some { s with linkStatus := wifiLinkDown, app := .connectDriver }
  | .connectDriver =>
    some { s with associated := s.associated || answer == espOk, app := .idle }
  | .disconnectSet => some { s with explicitDisconnect := true, app := .disconnectDriver }
  | .disconnectDriver =>
    if answer = espOk then
      -- without an association there is nothing to end
      if s.associated then
        some { s with
          associated := false, posted := s.posted ++ [⟨true, reason⟩], app := .idle }
      else some { s with app := .idle }
    else some { s with app := .disconnectClear }
  | .disconnectClear => some { s with explicitDisconnect := false, app := .idle }

/-- An association ends by itself. -/
def endStep (s : StationSystem) (reason : WifiReason) : Option StationSystem :=
  if s.associated then
    some { s with associated := false, posted := s.posted ++ [⟨false, reason⟩] }
  else none

/-- The event task takes the first event. -/
def takeStep (s : StationSystem) : Option StationSystem :=
  match s.handler, s.posted with
  | .idle, e :: posted => some { s with handler := .read e, posted := posted }
  | _, _ => none

/-- The status that the flag gives an end. -/
def readStatus (s : StationSystem) (e : StationEnd) : Int32 :=
  if s.explicitDisconnect then wifiLinkDown else bmxWifiDisconnectStatus e.reason

/-- The handler goes on: it reads the flag, clears it and submits. -/
def handlerStep (s : StationSystem) : StationHandler → Option StationSystem
  | .idle => none
  | .read e => some { s with handler := .clear e (s.readStatus e) }
  | .clear e status => some { s with explicitDisconnect := false, handler := .queue e status }
  | .queue e status =>
    some { s with linkStatus := status, handler := .idle, reports := s.reports ++ [(e, status)] }

/-- The three tasks take turns in any order. -/
def step (s : StationSystem) : StationAction → Option StationSystem
  | .connect initialized a config =>
    s.callStep (initialized && a.valid && config == espOk) .connectClear
  | .disconnect initialized => s.callStep initialized .disconnectSet
  | .app answer reason => s.appStep answer reason s.app
  | .ends reason => s.endStep reason
  | .take => s.takeStep
  | .handler => s.handlerStep s.handler
  | .link status =>
    if s.handler = .idle then some { s with linkStatus := status } else none

/-- The adapter has been initialized, and nothing has been called since. -/
structure Boot (s : StationSystem) : Prop where
  explicitDisconnect : s.explicitDisconnect = false
  app : s.app = .idle
  handler : s.handler = .idle
  posted : s.posted = []
  reports : s.reports = []

end StationSystem

/-- Any interleaving of calls and events. -/
def stationMachine : Machine StationSystem StationAction where
  init := StationSystem.Boot
  step := StationSystem.step

/-! ### The claim and its condition -/

/-- Every end is reported for what it was. -/
def StationSystem.Attributed (s : StationSystem) : Prop := ∀ r ∈ s.reports, r.2 = r.1.status

/-- The event for which the flag has not been read yet. -/
def StationHandler.reading : StationHandler → List StationEnd
  | read e => [e]
  | _ => []

/-- The event task has read the flag and is going to clear it. -/
def StationHandler.clearing : StationHandler → Bool
  | clear _ _ => true
  | _ => false

namespace StationSystem

/-- The ends for which the flag has not been read yet. -/
def unread (s : StationSystem) : List StationEnd := s.handler.reading ++ s.posted

/-- None of them was requested. -/
def NoneRequested (s : StationSystem) : Prop := ∀ e ∈ s.unread, e.requested = false

end StationSystem

/-- The condition on a step: the flag is cleared only while no requested end is unread; it is
set only while no other end is unread and the event task is not about to clear it; and no
association ends by itself while it is set. -/
def StationOrderly (s : StationSystem) : StationAction → Prop
  | .app _ _ =>
    match s.app with
    | .connectClear | .disconnectClear => s.NoneRequested
    | .disconnectSet => (∀ e ∈ s.unread, e.requested = true) ∧ s.handler.clearing = false
    | _ => True
  | .ends _ => s.explicitDisconnect = false
  | _ => True

/-! ### The invariant -/

namespace StationSystem

/-- The one unread end, if there is one, was requested. -/
def OnlyRequested (s : StationSystem) : Prop :=
  s.unread = [] ∨ s.associated = false ∧ ∃ e, s.unread = [e] ∧ e.requested = true

/-- What the flag says of the events that are still to be handled. -/
structure Inv (s : StationSystem) : Prop where
  /-- the flag belongs to the one unread end -/
  set : s.explicitDisconnect = true → s.OnlyRequested
  notSet : s.explicitDisconnect = false → s.NoneRequested
  clearing : s.handler.clearing = true → s.NoneRequested
  connecting : s.app = .connectLink ∨ s.app = .connectDriver → s.explicitDisconnect = false
  disconnecting : s.app = .disconnectDriver → s.associated = true →
    s.explicitDisconnect = true ∧ s.unread = [] ∧ s.handler.clearing = false
  status : ∀ e status, s.handler = .clear e status ∨ s.handler = .queue e status →
    status = e.status
  reports : s.Attributed

variable {s s' : StationSystem}

theorem Boot.inv (h : s.Boot) : s.Inv := by
  obtain ⟨hflag, happ, hhandler, hposted, hreports⟩ := h
  have hunread : s.unread = [] := by
    rw [unread, hhandler, hposted]
    rfl
  have hnone : s.NoneRequested := by
    intro e he
    rw [hunread] at he
    exact absurd he List.not_mem_nil
  refine ⟨fun _ => Or.inl hunread, fun _ => hnone, fun _ => hnone, fun _ => hflag, ?_, ?_, ?_⟩
  · intro hpc
    rw [happ] at hpc
    cases hpc
  · intro e status hpc
    rw [hhandler] at hpc
    rcases hpc with hpc | hpc <;> cases hpc
  · intro r hr
    rw [hreports] at hr
    exact absurd hr List.not_mem_nil

/-- A step of the call that neither touches the flag nor posts an event. -/
theorem Inv.moves (h : s.Inv) {pc : StationApp} (linkStatus : Int32)
    (hconnecting : pc = .connectLink ∨ pc = .connectDriver → s.explicitDisconnect = false)
    (hdisconnecting : pc ≠ .disconnectDriver) :
    Inv { s with linkStatus := linkStatus, app := pc } :=
  ⟨h.set, h.notSet, h.clearing, hconnecting, fun hpc => absurd hpc hdisconnecting, h.status,
    h.reports⟩

/-- The call clears the flag. -/
theorem Inv.clears (h : s.Inv) (hnone : s.NoneRequested) {pc : StationApp}
    (hpc : pc ≠ .disconnectDriver) : Inv { s with explicitDisconnect := false, app := pc } :=
  ⟨fun hset => (nomatch hset), fun _ => hnone, h.clearing, fun _ => rfl,
    fun heq => absurd heq hpc, h.status, h.reports⟩

theorem OnlyRequested.unread_nil (h : s.OnlyRequested) (hassociated : s.associated = true) :
    s.unread = [] := by
  rcases h with hunread | ⟨hended, -⟩
  · exact hunread
  · rw [hassociated] at hended
    cases hended

/-- The call sets the flag: what is unread, if anything, is the end of an earlier request. -/
theorem Inv.sets (h : s.Inv) (hrequested : ∀ e ∈ s.unread, e.requested = true)
    (hclearing : s.handler.clearing = false) :
    Inv { s with explicitDisconnect := true, app := .disconnectDriver } := by
  have honly : s.OnlyRequested := by
    cases hflag : s.explicitDisconnect with
    | true => exact h.set hflag
    | false =>
      left
      apply List.eq_nil_iff_forall_not_mem.mpr
      intro e he
      have hnot := h.notSet hflag e he
      rw [hrequested e he] at hnot
      cases hnot
  refine ⟨fun _ => honly, fun hunset => (nomatch hunset), h.clearing, ?_, ?_, h.status, h.reports⟩
  · rintro (hpc | hpc) <;> cases hpc
  · intro _ hassociated
    exact ⟨rfl, OnlyRequested.unread_nil honly hassociated, hclearing⟩

theorem unread_append (s : StationSystem) (e : StationEnd) :
    s.handler.reading ++ (s.posted ++ [e]) = s.unread ++ [e] :=
  (List.append_assoc _ _ _).symm

/-- The driver ends the association on request. -/
theorem Inv.request (h : s.Inv) (happ : s.app = .disconnectDriver) (hassociated : s.associated = true)
    (reason : WifiReason) :
    Inv { s with associated := false, posted := s.posted ++ [⟨true, reason⟩], app := .idle } := by
  obtain ⟨hset, hunread, hclearing⟩ := h.disconnecting happ hassociated
  refine ⟨?_, ?_, ?_, ?_, ?_, h.status, h.reports⟩
  · intro _
    refine Or.inr ⟨rfl, ⟨true, reason⟩, ?_, rfl⟩
    show s.handler.reading ++ (s.posted ++ [⟨true, reason⟩]) = [⟨true, reason⟩]
    rw [unread_append, hunread]
    rfl
  · intro hunset
    exact absurd (hset.symm.trans hunset) (by decide)
  · intro hclear
    exact absurd (hclearing.symm.trans hclear) (by decide)
  · rintro (hpc | hpc) <;> cases hpc
  · intro hpc
    cases hpc

theorem Inv.app_step (h : s.Inv) {answer : EspErr} {reason : WifiReason}
    (hok : StationOrderly s (.app answer reason)) (hs : s.appStep answer reason s.app = some s') :
    s'.Inv := by
  -- one case for each place of the call
  cases happ : s.app <;> simp only [happ, appStep, reduceCtorEq] at hs <;>
    simp only [StationOrderly, happ] at hok
  case connectClear =>
    obtain rfl := Option.some.inj hs
    exact h.clears hok (by decide)
  case connectLink =>
    obtain rfl := Option.some.inj hs
    exact h.moves wifiLinkDown (fun _ => h.connecting (Or.inl happ)) (by decide)
  case connectDriver =>
    obtain rfl := Option.some.inj hs
    have hflag := h.connecting (Or.inr happ)
    refine ⟨?_, fun _ => h.notSet hflag, h.clearing, fun _ => hflag, ?_, h.status, h.reports⟩
    · intro hset
      exact absurd (hflag.symm.trans hset) (by decide)
    · intro hpc
      cases hpc
  case disconnectSet =>
    obtain rfl := Option.some.inj hs
    exact h.sets hok.1 hok.2
  case disconnectDriver =>
    split at hs
    · split at hs
      · next hassociated =>
        obtain rfl := Option.some.inj hs
        -- the driver posts the end that was requested
        exact h.request happ hassociated reason
      · obtain rfl := Option.some.inj hs
        exact h.moves s.linkStatus (by rintro (hpc | hpc) <;> cases hpc) (by decide)
    · obtain rfl := Option.some.inj hs
      exact h.moves s.linkStatus (by rintro (hpc | hpc) <;> cases hpc) (by decide)
  case disconnectClear =>
    obtain rfl := Option.some.inj hs
    exact h.clears hok (by decide)

theorem Inv.call (h : s.Inv) {accepted : Bool} {pc : StationApp}
    (hpc : pc = .connectClear ∨ pc = .disconnectSet) (hs : s.callStep accepted pc = some s') :
    s'.Inv := by
  unfold callStep at hs
  split at hs
  · obtain rfl := Option.some.inj hs
    apply h.moves s.linkStatus
    · rcases hpc with rfl | rfl <;> cases accepted <;> rintro (hpc | hpc) <;> cases hpc
    · rcases hpc with rfl | rfl <;> cases accepted <;> decide
  · cases hs

/-- An association ends by itself while the flag is not set. -/
theorem Inv.ends (h : s.Inv) {reason : WifiReason} (hflag : s.explicitDisconnect = false)
    (hs : s.endStep reason = some s') : s'.Inv := by
  have hmore : s.NoneRequested →
      ∀ e ∈ s.handler.reading ++ (s.posted ++ [⟨false, reason⟩]), e.requested = false := by
    intro hnone e he
    rw [unread_append] at he
    rcases List.mem_append.mp he with he | he
    · exact hnone e he
    · obtain rfl := List.mem_singleton.mp he
      rfl
  unfold endStep at hs
  split at hs
  · obtain rfl := Option.some.inj hs
    refine ⟨?_, fun _ => hmore (h.notSet hflag), fun hclear => hmore (h.clearing hclear),
      h.connecting, fun _ hassociated => (nomatch hassociated), h.status, h.reports⟩
    intro hset
    exact absurd (hflag.symm.trans hset) (by decide)
  · cases hs

/-- The event task takes an event, which stays unread. -/
theorem Inv.take (h : s.Inv) (hs : s.takeStep = some s') : s'.Inv := by
  unfold takeStep at hs
  split at hs
  · next e posted hhandler hposted =>
    obtain rfl := Option.some.inj hs
    have hunread : s.unread = e :: posted := by
      rw [unread, hhandler, hposted]
      rfl
    have hset := h.set
    have hnotSet := h.notSet
    have hdisconnecting := h.disconnecting
    simp only [OnlyRequested, NoneRequested, hunread] at hset hnotSet hdisconnecting
    refine ⟨hset, hnotSet, fun hclear => (nomatch hclear), h.connecting, ?_, ?_, h.reports⟩
    · intro happ hassociated
      obtain ⟨-, hnil, -⟩ := hdisconnecting happ hassociated
      cases hnil
    · rintro e' status (hpc | hpc) <;> cases hpc
  · cases hs

/-- **The flag is read for the event that it belongs to.** -/
theorem Inv.read (h : s.Inv) {e : StationEnd} (hhandler : s.handler = .read e) :
    Inv { s with handler := .clear e (s.readStatus e) } := by
  have hunread : s.unread = e :: s.posted := by
    rw [unread, hhandler]
    rfl
  have hmem : e ∈ s.unread := by
    rw [hunread]
    exact List.mem_cons_self
  -- a set flag belongs to the one unread end, a clear one to none
  rcases Bool.eq_false_or_eq_true s.explicitDisconnect with hflag | hflag
  · obtain ⟨hended, e', honly, hrequested⟩ := (h.set hflag).resolve_left (by
      rw [hunread]
      exact List.cons_ne_nil _ _)
    rw [hunread, List.cons.injEq] at honly
    obtain ⟨rfl, hposted⟩ := honly
    have hnone : ∀ e' ∈ s.posted, e'.requested = false := by
      rw [hposted]
      exact fun _ he' => absurd he' List.not_mem_nil
    refine ⟨fun _ => Or.inl hposted, fun _ => hnone, fun _ => hnone, h.connecting, ?_, ?_, h.reports⟩
    · intro _ hassociated
      exact absurd (hended.symm.trans hassociated) (by decide)
    · rintro e' status (hpc | hpc)
      · obtain ⟨rfl, rfl⟩ := StationHandler.clear.inj hpc
        rw [StationEnd.status, if_pos hrequested, readStatus, if_pos hflag]
      · cases hpc
  · have hnot := h.notSet hflag
    have hnone : ∀ e' ∈ s.posted, e'.requested = false := by
      intro e' he'
      apply hnot
      rw [hunread]
      exact List.mem_cons_of_mem _ he'
    refine ⟨?_, fun _ => hnone, fun _ => hnone, h.connecting, ?_, ?_, h.reports⟩
    · intro hset
      exact absurd (hflag.symm.trans hset) (by decide)
    · intro happ hassociated
      have hset := (h.disconnecting happ hassociated).1
      exact absurd (hflag.symm.trans hset) (by decide)
    · rintro e' status (hpc | hpc)
      · obtain ⟨rfl, rfl⟩ := StationHandler.clear.inj hpc
        rw [StationEnd.status, hnot _ hmem, readStatus, hflag]
      · cases hpc

theorem Inv.handler_step (h : s.Inv) (hs : s.handlerStep s.handler = some s') : s'.Inv := by
  cases hhandler : s.handler <;> simp only [hhandler, handlerStep, reduceCtorEq] at hs
  case read e =>
    obtain rfl := Option.some.inj hs
    exact h.read hhandler
  case clear e status =>
    obtain rfl := Option.some.inj hs
    have hclear : s.handler.clearing = true := by
      rw [hhandler]
      rfl
    -- no requested end waits while the flag is cleared, so it is cleared for none
    have hnone := h.clearing hclear
    simp only [NoneRequested, unread, hhandler] at hnone
    refine ⟨fun hset => (nomatch hset), fun _ => hnone, fun hpc => (nomatch hpc), fun _ => rfl, ?_,
      ?_, h.reports⟩
    · intro happ hassociated
      have hnot := (h.disconnecting happ hassociated).2.2
      exact absurd (hclear.symm.trans hnot) (by decide)
    · rintro e' status' (hpc | hpc)
      · cases hpc
      · obtain ⟨rfl, rfl⟩ := StationHandler.queue.inj hpc
        exact h.status _ _ (Or.inl hhandler)
  case queue e status =>
    obtain rfl := Option.some.inj hs
    have hset := h.set
    have hnotSet := h.notSet
    have hdisconnecting := h.disconnecting
    simp only [OnlyRequested, NoneRequested, unread, hhandler] at hset hnotSet hdisconnecting
    refine ⟨hset, hnotSet, fun hpc => (nomatch hpc), h.connecting, hdisconnecting, ?_, ?_⟩
    · rintro e' status' (hpc | hpc) <;> cases hpc
    · intro r hr
      rcases List.mem_append.mp hr with hr | hr
      · exact h.reports r hr
      · obtain rfl := List.mem_singleton.mp hr
        exact h.status e status (Or.inr hhandler)

/-- Every step that meets the condition keeps the invariant. -/
theorem Inv.step (h : s.Inv) {a : StationAction} (hok : StationOrderly s a)
    (hs : s.step a = some s') : s'.Inv := by
  cases a with
  | connect initialized a config => exact h.call (Or.inl rfl) hs
  | disconnect initialized => exact h.call (Or.inr rfl) hs
  | app answer reason => exact h.app_step hok hs
  | ends reason => exact h.ends hok hs
  | take => exact h.take hs
  | handler => exact h.handler_step hs
  | link status =>
    simp only [StationSystem.step, Option.ite_none_right_eq_some] at hs
    obtain ⟨-, hs⟩ := hs
    obtain rfl := Option.some.inj hs
    exact ⟨h.set, h.notSet, h.clearing, h.connecting, h.disconnecting, h.status, h.reports⟩

end StationSystem

/-- **Every end of a connection is reported for what it was**, in every run whose steps are all
`StationOrderly`. -/
theorem disconnects_attributed (s : StationSystem)
    (h : stationMachine.ReachableIn StationOrderly s) : s.Attributed := by
  have hinv : s.Inv := by
    apply h.invariant (I := StationSystem.Inv)
    · intro s hboot
      exact hboot.inv
    · intro s a s' hinv hok hstep
      exact hinv.step hok hstep
  exact hinv.reports

/-- A state after `initialize`. -/
def stationBoot : StationSystem := ⟨false, wifiLinkDown, .idle, .idle, false, [], []⟩

theorem stationBoot_boot : stationBoot.Boot := ⟨rfl, rfl, rfl, rfl, rfl⟩

/-- A network without a password. -/
def homeNetwork : StationArgs := ⟨some [0x41], 1, none, 0, 0⟩

/-- A connection that is ended on request. -/
theorem disconnects_attributed_requested : ∃ s : StationSystem,
    s.reports = [(⟨true, .other 8⟩, wifiLinkDown)] ∧ s.Attributed := by
  refine ⟨_, ?_, disconnects_attributed _ (.step (a := .handler) (.step (a := .handler)
    (.step (a := .handler) (.step (a := .take) (.step (a := .app espOk (.other 8))
    (.step (a := .app espOk (.other 8)) (.step (a := .disconnect true)
    (.init (s := ⟨false, wifiLinkUp, .idle, .idle, true, [], []⟩) ⟨rfl, rfl, rfl, rfl, rfl⟩)
    ?_ rfl) ?_ rfl) ?_ rfl) ?_ rfl) ?_ rfl) ?_ rfl) ?_ rfl)⟩
  · rfl
  · trivial
  · exact ⟨fun _ he => absurd he List.not_mem_nil, rfl⟩
  · trivial
  · trivial
  · trivial
  · trivial
  · trivial

/-- A reconnect: the flag is cleared by `connect` before the event of the disconnect. -/
def reconnect : List StationAction :=
  [.connect true homeNetwork espOk, .app espOk (.other 0), .app espOk (.other 0),
   .app espOk (.other 0),
   .disconnect true, .app espOk (.other 0), .app espOk (.other 8),
   .connect true homeNetwork espOk, .app espOk (.other 0),
   .take, .handler, .handler, .handler]

/-- **The end that was requested is reported as a failure.** -/
theorem disconnects_misattributed : ∃ s, stationMachine.Reachable s ∧ ¬ s.Attributed := by
  obtain ⟨s, hs, hreport⟩ := exists_reachable_of_run (M := stationMachine) reconnect
    (fun s : StationSystem => decide (s.reports = [(⟨true, .other 8⟩, wifiLinkFailed)]))
    stationBoot_boot (by decide)
  refine ⟨s, hs, ?_⟩
  intro h
  have hstatus := h (⟨true, .other 8⟩, wifiLinkFailed)
    (by rw [of_decide_eq_true hreport]; exact List.mem_singleton_self _)
  exact absurd hstatus (by decide)

end Esp32Mod
