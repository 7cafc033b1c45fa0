/-
Esp32Mod/Watchdog.lean

The watchdog of the native runtime (`runtime.mod/native/esp32_watchdog.c`), which subscribes the
calling task to the task watchdog of ESP-IDF.  Three flags remember what `enable` has done, and
`disable` undoes as much: it takes the subscription back first, and the initialisation or the
configuration after that.

The task watchdog is in one of three situations for the calling task.  A call that the situation
rules out fails with the documented error; otherwise its result is an argument.

Main results:

* `watchdog_guarding` — unless a `disable` stops halfway, an active watchdog guards the task, and
  a `disable` that succeeds leaves what the `enable` found;
* `watchdog_unguarded` — a `disable` that stops halfway leaves an active watchdog without a task,
  and every later `enable` succeeds all the same.
-/
import Esp32Mod.StepMachine
import Esp32Mod.Errors

namespace Esp32Mod

open StepMachine Machine

/-! ### The task watchdog -/

/-- What the calling task can find the task watchdog to be. -/
inductive TwdtSituation
  | uninitialized
  | initialized
  /-- Initialised, with the calling task subscribed. -/
  | subscribed
  deriving DecidableEq

/-- `esp_task_wdt_config_t`. -/
structure TwdtConfig where
  timeoutMs : UInt32
  idleCoreMask : UInt32
  triggerPanic : Bool
  deriving DecidableEq

/-- The task watchdog, as one task sees it. -/
structure Twdt where
  situation : TwdtSituation
  config : TwdtConfig
  deriving DecidableEq

/-- For the calling task. -/
def espTaskWdtStatus (w : Twdt) : EspErr :=
  match w.situation with
  | .uninitialized => espErrInvalidState
  | .initialized => espErrNotFound
  | .subscribed => espOk

/-- Fails as the status does. -/
def espTaskWdtReset (w : Twdt) : EspErr := espTaskWdtStatus w

/-- Only once; `result` is the answer where it is possible. -/
def espTaskWdtInit (w : Twdt) (config : TwdtConfig) (result : EspErr) : EspErr × Twdt :=
  match w.situation with
  | .uninitialized => (result, if result = espOk then ⟨.initialized, config⟩ else w)
  | .initialized | .subscribed => (espErrInvalidState, w)

/-- Only after the initialization. -/
def espTaskWdtReconfigure (w : Twdt) (config : TwdtConfig) (result : EspErr) : EspErr × Twdt :=
  match w.situation with
  | .uninitialized => (espErrInvalidState, w)
  | .initialized | .subscribed => (result, if result = espOk then { w with config } else w)

/-- A task is subscribed once. -/
def espTaskWdtAdd (w : Twdt) (result : EspErr) : EspErr × Twdt :=
  match w.situation with
  | .uninitialized => (espErrInvalidState, w)
  | .initialized => (result, if result = espOk then { w with situation := .subscribed } else w)
  | .subscribed => (espErrInvalidArg, w)

/-- Only a subscribed task is deleted. -/
def espTaskWdtDelete (w : Twdt) (result : EspErr) : EspErr × Twdt :=
  match w.situation with
  | .uninitialized => (espErrInvalidState, w)
  | .initialized => (espErrNotFound, w)
  | .subscribed => (result, if result = espOk then { w with situation := .initialized } else w)

/-- Refused while a task is subscribed; another task may be the reason for a failure. -/
def espTaskWdtDeinit (w : Twdt) (result : EspErr) : EspErr × Twdt :=
  match w.situation with
  | .initialized => (result, if result = espOk then { w with situation := .uninitialized } else w)
  | .uninitialized | .subscribed => (espErrInvalidState, w)

section Twdt

variable {w : Twdt} {config : TwdtConfig} {result : EspErr}

theorem status_eq_ok_iff : espTaskWdtStatus w = espOk ↔ w.situation = .subscribed := by
  unfold espTaskWdtStatus
  cases w.situation <;> decide

theorem status_eq_invalidState_iff :
    espTaskWdtStatus w = espErrInvalidState ↔ w.situation = .uninitialized := by
  unfold espTaskWdtStatus
  cases w.situation <;> decide

theorem init_of (h : w.situation = .uninitialized) : espTaskWdtInit w config result =
    (result, if result = espOk then ⟨.initialized, config⟩ else w) := by
  simp only [espTaskWdtInit, h]

theorem reconfigure_of (h : w.situation ≠ .uninitialized) :
    espTaskWdtReconfigure w config result =
      (result, if result = espOk then { w with config } else w) := by
  unfold espTaskWdtReconfigure
  split
  next huninitialized => exact absurd huninitialized h
  next => rfl
  next => rfl

theorem reconfigure_keeps (w : Twdt) (config : TwdtConfig) (result : EspErr) :
    ∃ config', (espTaskWdtReconfigure w config result).2 = { w with config := config' } := by
  by_cases huninitialized : w.situation = .uninitialized
  · exact ⟨w.config, by simp only [espTaskWdtReconfigure, huninitialized]; rw [← huninitialized]⟩
  · rw [reconfigure_of huninitialized]
    dsimp only
    split
    · exact ⟨config, rfl⟩
    · exact ⟨w.config, rfl⟩

theorem add_of (h : w.situation = .initialized) : espTaskWdtAdd w result =
    (result, if result = espOk then { w with situation := .subscribed } else w) := by
  simp only [espTaskWdtAdd, h]

theorem delete_of (h : w.situation = .subscribed) : espTaskWdtDelete w result =
    (result, if result = espOk then { w with situation := .initialized } else w) := by
  simp only [espTaskWdtDelete, h]

theorem deinit_of (h : w.situation = .initialized) : espTaskWdtDeinit w result =
    (result, if result = espOk then { w with situation := .uninitialized } else w) := by
  simp only [espTaskWdtDeinit, h]

end Twdt

/-! ### The module -/

/-- The `CONFIG_ESP_TASK_WDT` values of the project. -/
structure WatchdogTarget where
  checkIdleTaskCpu0 : Bool
  checkIdleTaskCpu1 : Bool
  timeoutS : UInt32
  panic : Bool

/-- `BMX_ESP32_WATCHDOG_MAXIMUM_DELAY_MS`. -/
def watchdogMaximumDelayMs : UInt32 := 0xFFFFFFFF / 4

/-- The idle tasks that the configuration watches. -/
def bmxEsp32WatchdogDefaultIdleMask (t : WatchdogTarget) : UInt32 :=
  let mask : UInt32 := if t.checkIdleTaskCpu0 then 1 else 0
  if t.checkIdleTaskCpu1 then mask ||| 2 else mask

/-- The configuration for a delay. -/
def bmxEsp32WatchdogConfig (t : WatchdogTarget) (delayMs : UInt32) (triggerPanic : Bool) :
    TwdtConfig :=
  ⟨delayMs, bmxEsp32WatchdogDefaultIdleMask t, triggerPanic⟩

/-- `defaults`: what the project has configured. -/
def watchdogDefaults (t : WatchdogTarget) : TwdtConfig :=
  bmxEsp32WatchdogConfig t (t.timeoutS * 1000) t.panic

/-- The statics of `esp32_watchdog.c`, and the task watchdog. -/
structure WatchdogState where
  active : Bool
  addedTask : Bool
  initialized : Bool
  twdt : Twdt

/-- What the calls of an `enable` answer, the undoing included. -/
structure WatchdogEnableResults where
  init : EspErr := espOk
  reconfigure : EspErr := espOk
  add : EspErr := espOk
  deinit : EspErr := espOk
  defaults : EspErr := espOk

/-- `enable` of an inactive watchdog, up to the task watchdog having the configuration. -/
def watchdogConfigure (s : WatchdogState) (config : TwdtConfig) (r : WatchdogEnableResults) :
    Bool × WatchdogState :=
  if espTaskWdtStatus s.twdt = espErrInvalidState then
    let (result, twdt) := espTaskWdtInit s.twdt config r.init
    if result ≠ espOk then (false, { s with twdt })
    else (true, { s with twdt, initialized := true })
  else
    let (result, twdt) := espTaskWdtReconfigure s.twdt config r.reconfigure
    (decide (result = espOk), { s with twdt })

/-- The rest of `enable`: the task is added unless it had been before. -/
def watchdogSubscribe (t : WatchdogTarget) (s : WatchdogState) (status : EspErr)
    (r : WatchdogEnableResults) : Int32 × WatchdogState :=
  if status ≠ espOk then
    let (result, twdt) := espTaskWdtAdd s.twdt r.add
    if result ≠ espOk then
      if s.initialized = true then
        (0, { s with twdt := (espTaskWdtDeinit twdt r.deinit).2, initialized := false })
      else (0, { s with twdt := (espTaskWdtReconfigure twdt (watchdogDefaults t) r.defaults).2 })
    else (1, { s with twdt, addedTask := true, active := true })
  else (1, { s with active := true })

/-- A guard that is on gets another delay; otherwise the task is subscribed, after an initialization
where there is none. -/
def bmxEmbeddedWatchdogEnable (t : WatchdogTarget) (s : WatchdogState) (delayMs : UInt32)
    (r : WatchdogEnableResults) : Int32 × WatchdogState :=
  if delayMs = 0 ∨ watchdogMaximumDelayMs < delayMs then (0, s)
  else
    let config := bmxEsp32WatchdogConfig t delayMs true
    if s.active = true then
      let (result, twdt) := espTaskWdtReconfigure s.twdt config r.reconfigure
      (if result = espOk then 1 else 0, { s with twdt })
    else
      let status := espTaskWdtStatus s.twdt
      let (configured, s) := watchdogConfigure s config r
      if configured = false then (0, s) else watchdogSubscribe t s status r

/-- What the calls of a `disable` answer. -/
structure WatchdogDisableResults where
  delete : EspErr := espOk
  deinit : EspErr := espOk
  reconfigure : EspErr := espOk

/-- `disable`, once the subscription is taken back. -/
def watchdogRestore (t : WatchdogTarget) (s : WatchdogState) (r : WatchdogDisableResults) :
    Int32 × WatchdogState :=
  let (result, s) :=
    if s.initialized = true then
      let (result, twdt) := espTaskWdtDeinit s.twdt r.deinit
      (result, { s with twdt, initialized := if result = espOk then false else s.initialized })
    else
      let (result, twdt) := espTaskWdtReconfigure s.twdt (watchdogDefaults t) r.reconfigure
      (result, { s with twdt })
  if result ≠ espOk then (0, s) else (1, { s with active := false })

/-- The task is deleted first, then the watchdog put back as it was found. -/
def bmxEmbeddedWatchdogDisable (t : WatchdogTarget) (s : WatchdogState)
    (r : WatchdogDisableResults) : Int32 × WatchdogState :=
  if s.active = false then (1, s)
  else if s.addedTask = true then
    let (result, twdt) := espTaskWdtDelete s.twdt r.delete
    if result ≠ espOk then (0, { s with twdt })
    else watchdogRestore t { s with twdt, addedTask := false } r
  else watchdogRestore t s r

/-- Succeeds only for a task that is guarded. -/
def bmxEmbeddedWatchdogFeed (s : WatchdogState) : Int32 :=
  if s.active = false ∨ espTaskWdtStatus s.twdt ≠ espOk then 0
  else if espTaskWdtReset s.twdt = espOk then 1 else 0

/-- Both by the flag and by the task watchdog. -/
def bmxEmbeddedWatchdogIsEnabled (s : WatchdogState) : Int32 :=
  if s.active = true ∧ espTaskWdtStatus s.twdt = espOk then 1 else 0

/-! ### Runs of calls -/

/-- The calls of the application. -/
inductive WatchdogCall
  | enable (delayMs : UInt32) (r : WatchdogEnableResults)
  | disable (r : WatchdogDisableResults)
  | feed

/-- The state after a call; its result is dropped. -/
def watchdogCall (t : WatchdogTarget) (s : WatchdogState) : WatchdogCall → WatchdogState
  | .enable delayMs r => (bmxEmbeddedWatchdogEnable t s delayMs r).2
  | .disable r => (bmxEmbeddedWatchdogDisable t s r).2
  | .feed => s

/-- Beside the state, the situation that the last `enable` of an inactive watchdog has found. -/
structure WatchdogSession where
  state : WatchdogState
  before : TwdtSituation

/-- A call, and what it found when it began to guard. -/
def watchdogSessionCall (t : WatchdogTarget) (s : WatchdogSession) (a : WatchdogCall) :
    WatchdogSession where
  state := watchdogCall t s.state a
  before := match a with
    | .enable delayMs r =>
      if s.state.active = false ∧ (bmxEmbeddedWatchdogEnable t s.state delayMs r).1 = 1 then
        s.state.twdt.situation
      else s.before
    | .disable _ | .feed => s.before

/-- The task watchdog may be in any situation when the program starts. -/
def watchdogMachine (t : WatchdogTarget) : Machine WatchdogSession WatchdogCall where
  init s := ∃ w, s = ⟨⟨false, false, false, w⟩, w.situation⟩
  step s a := some (watchdogSessionCall t s a)

namespace WatchdogState

/-- An active watchdog has its task subscribed. -/
def Guarded (s : WatchdogState) : Prop :=
  s.active = true → s.twdt.situation = .subscribed

/-- A `disable` that takes the subscription back, and fails after that. -/
def Drops (s : WatchdogState) (r : WatchdogDisableResults) : Prop :=
  s.active = true ∧ s.addedTask = true ∧ r.delete = espOk ∧
    (if s.initialized = true then r.deinit else r.reconfigure) ≠ espOk

end WatchdogState

/-- The call is a `disable` that deletes the task and then fails. -/
def WatchdogCall.Drops (s : WatchdogState) : WatchdogCall → Prop
  | .disable r => s.Drops r
  | .enable _ _ | .feed => False

namespace WatchdogState

variable {t : WatchdogTarget} {s : WatchdogState} {before : TwdtSituation}

/-! ### Enabling -/

/-- The situation once the task watchdog is initialised. -/
def readied : TwdtSituation → TwdtSituation
  | .uninitialized => .initialized
  | situation => situation

/-- What `enable` leaves of an inactive watchdog that it cannot start. -/
structure Idle (s : WatchdogState) : Prop where
  active : s.active = false
  added : s.addedTask = false
  initialized : s.initialized = false

/-- The first half of `enable`: it fails and leaves the flags, or the task watchdog is initialised
with the new configuration. -/
theorem configure_cases (h : s.Idle) (config : TwdtConfig) (r : WatchdogEnableResults) :
    (∃ s', watchdogConfigure s config r = (false, s') ∧ s'.Idle) ∨
      watchdogConfigure s config r = (true, ⟨false, false,
        decide (s.twdt.situation = .uninitialized), ⟨readied s.twdt.situation, config⟩⟩) := by
  obtain ⟨active, addedTask, initialized, w⟩ := s
  obtain ⟨rfl, rfl, rfl⟩ := h
  unfold watchdogConfigure
  simp only [status_eq_invalidState_iff]
  by_cases huninitialized : w.situation = .uninitialized
  · simp only [huninitialized, if_true, init_of huninitialized, decide_true]
    by_cases hinit : r.init = espOk
    · right
      simp only [hinit, ne_eq, not_true_eq_false, if_false, if_true, readied]
    · left
      simp only [hinit, ne_eq, not_false_eq_true, if_true, if_false]
      exact ⟨_, rfl, rfl, rfl, rfl⟩
  · simp only [huninitialized, if_false, reconfigure_of huninitialized, decide_false]
    by_cases hreconfigure : r.reconfigure = espOk
    · right
      have hsame : readied w.situation = w.situation := by
        cases hsituation : w.situation with
        | uninitialized => exact absurd hsituation huninitialized
        | initialized => rfl
        | subscribed => rfl
      simp only [hreconfigure, decide_true, if_true, hsame]
    · left
      simp only [hreconfigure, decide_false, if_false]
      exact ⟨_, rfl, rfl, rfl, rfl⟩

/-- The second half: a task that was not subscribed is added, or what the first half has done is
undone. -/
theorem subscribe_cases (t : WatchdogTarget) (situation : TwdtSituation) (config : TwdtConfig)
    (w : Twdt) (hw : w.situation = situation) (r : WatchdogEnableResults) :
    (∃ s', watchdogSubscribe t ⟨false, false, decide (situation = .uninitialized),
        ⟨readied situation, config⟩⟩ (espTaskWdtStatus w) r = (0, s') ∧ s'.Idle) ∨
      watchdogSubscribe t ⟨false, false, decide (situation = .uninitialized),
        ⟨readied situation, config⟩⟩ (espTaskWdtStatus w) r =
          (1, ⟨true, decide (situation ≠ .subscribed), decide (situation = .uninitialized),
            ⟨.subscribed, config⟩⟩) := by
  unfold watchdogSubscribe
  simp only [ne_eq, status_eq_ok_iff, hw]
  by_cases hsubscribed : situation = .subscribed
  · right
    subst hsubscribed
    rfl
  have hready : readied situation = .initialized := by
    cases situation with
    | uninitialized => rfl
    | initialized => rfl
    | subscribed => exact absurd rfl hsubscribed
  simp only [hsubscribed, not_false_eq_true, if_true, decide_true,
    add_of (w := ⟨readied situation, config⟩) hready]
  by_cases hadd : r.add = espOk
  · right
    simp only [hadd, not_true_eq_false, if_false, if_true]
  · left
    simp only [hadd, not_false_eq_true, if_true, if_false]
    split
    · exact ⟨_, rfl, rfl, rfl, rfl⟩
    next hkept => exact ⟨_, rfl, rfl, rfl, Bool.eq_false_iff.mpr hkept⟩

/-- **`enable` of an inactive watchdog** leaves it inactive, or has the task subscribed and
remembers the situation. -/
theorem enable_cases (h : s.Idle) (delayMs : UInt32) (r : WatchdogEnableResults) :
    (∃ s', bmxEmbeddedWatchdogEnable t s delayMs r = (0, s') ∧ s'.Idle) ∨
      bmxEmbeddedWatchdogEnable t s delayMs r = (1, ⟨true,
        decide (s.twdt.situation ≠ .subscribed), decide (s.twdt.situation = .uninitialized),
        ⟨.subscribed, bmxEsp32WatchdogConfig t delayMs true⟩⟩) := by
  unfold bmxEmbeddedWatchdogEnable
  split
  · exact Or.inl ⟨s, rfl, h⟩
  simp only [h.active, Bool.false_eq_true, if_false]
  rcases s.configure_cases h (bmxEsp32WatchdogConfig t delayMs true) r with
    ⟨s', hfailed, hidle⟩ | hdone
  · rw [hfailed]
    exact Or.inl ⟨s', rfl, hidle⟩
  · rw [hdone]
    exact subscribe_cases t s.twdt.situation _ s.twdt rfl r

/-- `enable` of an active watchdog changes at most the configuration. -/
theorem enable_active (hactive : s.active = true) (delayMs : UInt32)
    (r : WatchdogEnableResults) : ∃ config, (bmxEmbeddedWatchdogEnable t s delayMs r).2 =
      { s with twdt := { s.twdt with config } } := by
  unfold bmxEmbeddedWatchdogEnable
  split
  · exact ⟨s.twdt.config, rfl⟩
  obtain ⟨config, hkeeps⟩ := reconfigure_keeps s.twdt (bmxEsp32WatchdogConfig t delayMs true)
    r.reconfigure
  exact ⟨config, congrArg (fun twdt => { s with twdt }) hkeeps⟩

/-! ### Disabling -/

/-- What the flags say of an active watchdog: what the situation was before. -/
structure Remembers (s : WatchdogState) (before : TwdtSituation) : Prop where
  active : s.active = true
  subscribed : s.twdt.situation = .subscribed
  initialized : s.initialized = true ↔ before = .uninitialized
  added : s.addedTask = true ↔ before ≠ .subscribed

theorem restore_initialized (hinitialized : s.initialized = true)
    (hsituation : s.twdt.situation = .initialized) (r : WatchdogDisableResults) :
    watchdogRestore t s r = if r.deinit = espOk then
      (1, { s with active := false, initialized := false
                   twdt := { s.twdt with situation := .uninitialized } }) else (0, s) := by
  unfold watchdogRestore
  simp only [hinitialized, if_true, deinit_of hsituation]
  by_cases hdeinit : r.deinit = espOk
  · simp only [hdeinit, ne_eq, not_true_eq_false, if_false, if_true]
  · simp only [hdeinit, ne_eq, not_false_eq_true, if_true, if_false]
    rw [← hinitialized]

theorem restore_reconfigured (hinitialized : s.initialized = false)
    (hsituation : s.twdt.situation ≠ .uninitialized) (r : WatchdogDisableResults) :
    watchdogRestore t s r = if r.reconfigure = espOk then
      (1, { s with active := false, twdt := { s.twdt with config := watchdogDefaults t } })
        else (0, s) := by
  unfold watchdogRestore
  simp only [hinitialized, Bool.false_eq_true, if_false, reconfigure_of hsituation]
  by_cases hreconfigure : r.reconfigure = espOk
  · simp only [hreconfigure, ne_eq, not_true_eq_false, if_false, if_true]
  · simp only [hreconfigure, ne_eq, not_false_eq_true, if_true, if_false]
    rw [← hinitialized]

/-- How `disable` of an active watchdog can end. -/
inductive Ends (t : WatchdogTarget) (s : WatchdogState) (before : TwdtSituation)
    (r : WatchdogDisableResults) (result : Int32 × WatchdogState) : Prop
  | kept (hok : ¬ s.Drops r) (hfailed : result.1 = 0) (hremembers : result.2.Remembers before)
  | dropped (hdrops : s.Drops r) (hfailed : result.1 = 0) (hactive : result.2.active = true)
      (hsituation : result.2.twdt.situation = .initialized)
  | done (hok : ¬ s.Drops r) (hdone : result.1 = 1) (hidle : result.2.Idle)
      (hsituation : result.2.twdt.situation = before)
      (hconfig : before = .uninitialized ∨ result.2.twdt.config = watchdogDefaults t)

theorem disable_cases (h : s.Remembers before) (r : WatchdogDisableResults) :
    s.Ends t before r (bmxEmbeddedWatchdogDisable t s r) := by
  obtain ⟨active, addedTask, initialized, w⟩ := s
  obtain ⟨rfl, hsubscribed, hinitialized, hadded⟩ := h
  dsimp only at hsubscribed hinitialized hadded
  unfold bmxEmbeddedWatchdogDisable
  simp only [Bool.true_eq_false, if_false, delete_of hsubscribed]
  cases addedTask with
  | false =>
    have hbefore : before = .subscribed := by
      by_contra hne
      exact nomatch hadded.mpr hne
    have hflag : initialized = false := by
      rw [← Bool.not_eq_true, hinitialized, hbefore]
      decide
    have hok : ¬ Drops ⟨true, false, initialized, w⟩ r := fun hdrops => nomatch hdrops.2.1
    have hready : w.situation ≠ .uninitialized := by
      rw [hsubscribed]
      decide
    simp only [Bool.false_eq_true, if_false]
    rw [restore_reconfigured hflag hready]
    split
    · exact .done hok rfl ⟨rfl, rfl, hflag⟩ (hsubscribed.trans hbefore.symm) (Or.inr rfl)
    · exact .kept hok rfl ⟨rfl, hsubscribed, hinitialized, hadded⟩
  | true =>
    have hbefore := hadded.mp rfl
    simp only [if_true]
    by_cases hdelete : r.delete = espOk
    -- the subscription is gone, and the rest may fail
    · simp only [hdelete, ne_eq, not_true_eq_false, if_false, if_true]
      cases initialized with
      | true =>
        have huninitialized := hinitialized.mp rfl
        rw [restore_initialized rfl rfl]
        split
        next hdeinit =>
          refine .done ?_ rfl ⟨rfl, rfl, rfl⟩ huninitialized.symm (Or.inl huninitialized)
          exact fun hdrops => hdrops.2.2.2 hdeinit
        next hdeinit => exact .dropped ⟨rfl, rfl, hdelete, hdeinit⟩ rfl rfl rfl
      | false =>
        have hready : before = .initialized := by
          cases hsituation : before with
          | uninitialized => exact nomatch hinitialized.mpr hsituation
          | initialized => rfl
          | subscribed => exact absurd hsituation hbefore
        have hinitialized : TwdtSituation.initialized ≠ .uninitialized := by decide
        rw [restore_reconfigured rfl hinitialized]
        split
        next hreconfigure =>
          refine .done ?_ rfl ⟨rfl, rfl, rfl⟩ hready.symm (Or.inr rfl)
          exact fun hdrops => hdrops.2.2.2 hreconfigure
        next hreconfigure => exact .dropped ⟨rfl, rfl, hdelete, hreconfigure⟩ rfl rfl rfl
    · simp only [hdelete, ne_eq, not_false_eq_true, if_true, if_false]
      exact .kept (fun hdrops => hdelete hdrops.2.2.1) rfl ⟨rfl, hsubscribed, hinitialized, hadded⟩

/-! ### Runs -/

theorem Remembers.guarded (h : s.Remembers before) : s.Guarded := fun _ => h.subscribed

theorem Idle.guarded (h : s.Idle) : s.Guarded := by
  intro hactive
  rw [h.active] at hactive
  cases hactive

theorem Remembers.enable (h : s.Remembers before) (delayMs : UInt32)
    (r : WatchdogEnableResults) : (bmxEmbeddedWatchdogEnable t s delayMs r).2.Remembers before := by
  obtain ⟨config, hkeeps⟩ := enable_active (t := t) h.active delayMs r
  rw [hkeeps]
  exact ⟨h.active, h.subscribed, h.initialized, h.added⟩

/-- The flags after a start. -/
theorem remembers_started (situation : TwdtSituation) (config : TwdtConfig) :
    Remembers ⟨true, decide (situation ≠ .subscribed), decide (situation = .uninitialized),
      ⟨.subscribed, config⟩⟩ situation :=
  ⟨rfl, rfl, decide_eq_true_iff, decide_eq_true_iff⟩

/-- A watchdog that guards its task answers so. -/
theorem Remembers.feed (h : s.Remembers before) :
    bmxEmbeddedWatchdogIsEnabled s = 1 ∧ bmxEmbeddedWatchdogFeed s = 1 := by
  have hstatus := status_eq_ok_iff.mpr h.subscribed
  have hreset : espTaskWdtReset s.twdt = espOk := hstatus
  constructor
  · exact if_pos ⟨h.active, hstatus⟩
  · simp only [bmxEmbeddedWatchdogFeed, h.active, hstatus, hreset, Bool.true_eq_false, ne_eq,
      not_true_eq_false, or_self, if_false, if_true]

end WatchdogState

namespace WatchdogSession

open WatchdogState

variable {t : WatchdogTarget} {s : WatchdogSession}

/-- The watchdog is idle, or remembers the situation that its `enable` has found. -/
def Sound (s : WatchdogSession) : Prop :=
  s.state.Idle ∨ s.state.Remembers s.before

theorem Sound.guarded (h : s.Sound) : s.state.Guarded :=
  h.elim Idle.guarded Remembers.guarded

theorem Sound.enable (h : s.Sound) (delayMs : UInt32) (r : WatchdogEnableResults) :
    (watchdogSessionCall t s (.enable delayMs r)).Sound := by
  rcases h with hidle | hremembers
  · rcases enable_cases (t := t) hidle delayMs r with ⟨s', hfailed, hidle'⟩ | hdone
    · left
      show (bmxEmbeddedWatchdogEnable t s.state delayMs r).2.Idle
      rw [hfailed]
      exact hidle'
    · right
      show (bmxEmbeddedWatchdogEnable t s.state delayMs r).2.Remembers (if _ then _ else _)
      rw [hdone, if_pos ⟨hidle.active, rfl⟩]
      exact remembers_started _ _
  · right
    show (bmxEmbeddedWatchdogEnable t s.state delayMs r).2.Remembers (if _ then _ else _)
    rw [if_neg (fun hstarts => absurd (hremembers.active.symm.trans hstarts.1) (by decide))]
    exact hremembers.enable delayMs r

theorem disable_idle (h : s.state.Idle) (r : WatchdogDisableResults) :
    bmxEmbeddedWatchdogDisable t s.state r = (1, s.state) := by
  simp only [bmxEmbeddedWatchdogDisable, h.active, if_true]

theorem Sound.disable (h : s.Sound) {r : WatchdogDisableResults} (hok : ¬ s.state.Drops r) :
    (watchdogSessionCall t s (.disable r)).Sound := by
  unfold watchdogSessionCall watchdogCall
  rcases h with hidle | hremembers
  · left
    dsimp only
    rw [disable_idle hidle]
    exact hidle
  · cases disable_cases (t := t) hremembers r with
    | kept _ _ hremembers' => exact Or.inr hremembers'
    | dropped hdrops => exact absurd hdrops hok
    | done _ _ hidle' => exact Or.inl hidle'

theorem Sound.call (h : s.Sound) {a : WatchdogCall} (hok : ¬ a.Drops s.state) :
    (watchdogSessionCall t s a).Sound := by
  cases a with
  | enable delayMs r => exact h.enable delayMs r
  | disable r => exact h.disable hok
  | feed => exact h

/-- **A call keeps the task guarded if and only if it does not drop the task.** -/
theorem Sound.guarded_iff (h : s.Sound) (a : WatchdogCall) :
    (watchdogCall t s.state a).Guarded ↔ ¬ a.Drops s.state := by
  refine ⟨?_, fun hok => (h.call (t := t) hok).guarded⟩
  intro hguarded hdrops
  cases a with
  | disable r =>
    rcases h with hidle | hremembers
    · exact absurd (hidle.active.symm.trans hdrops.1) (by decide)
    · cases disable_cases (t := t) hremembers r with
      | kept hok => exact hok hdrops
      | dropped _ _ hactive hsituation =>
        exact absurd (hsituation.symm.trans (hguarded hactive)) (by decide)
      | done hok => exact hok hdrops
  | enable => exact hdrops
  | feed => exact hdrops

end WatchdogSession

/-- **The watchdog guards its task.**  Unless a `disable` has dropped the task, an active watchdog
has it subscribed; an `enable` that returns 1 is followed by a working feed; a `disable` that
returns 0 without dropping the task leaves it guarded; and one that returns 1 leaves the task
watchdog as the `enable` has found it, or with the configuration of the project. -/
theorem watchdog_guarding (t : WatchdogTarget) (s : WatchdogSession)
    (h : (watchdogMachine t).ReachableIn (fun s a => ¬ a.Drops s.state) s) :
    s.state.Guarded ∧
    (∀ delayMs r, (bmxEmbeddedWatchdogEnable t s.state delayMs r).1 = 1 →
      bmxEmbeddedWatchdogIsEnabled (bmxEmbeddedWatchdogEnable t s.state delayMs r).2 = 1 ∧
        bmxEmbeddedWatchdogFeed (bmxEmbeddedWatchdogEnable t s.state delayMs r).2 = 1) ∧
    (∀ r, ¬ s.state.Drops r → (bmxEmbeddedWatchdogDisable t s.state r).1 = 0 →
      bmxEmbeddedWatchdogIsEnabled (bmxEmbeddedWatchdogDisable t s.state r).2 = 1 ∧
        bmxEmbeddedWatchdogFeed (bmxEmbeddedWatchdogDisable t s.state r).2 = 1) ∧
    (∀ r, s.state.active = true → (bmxEmbeddedWatchdogDisable t s.state r).1 = 1 →
      (bmxEmbeddedWatchdogDisable t s.state r).2.twdt.situation = s.before ∧
        (s.before = .uninitialized ∨
          (bmxEmbeddedWatchdogDisable t s.state r).2.twdt.config = watchdogDefaults t)) ∧
    ∀ a : WatchdogCall, (watchdogCall t s.state a).Guarded ↔ ¬ a.Drops s.state := by
  -- between the calls the guard is off, or it remembers what it found
  have hs : s.Sound := by
    apply h.invariant (I := WatchdogSession.Sound)
    · rintro s ⟨w, rfl⟩
      exact Or.inl ⟨rfl, rfl, rfl⟩
    · intro s a s' hs hok hstep
      obtain rfl := Option.some.inj hstep
      exact hs.call hok
  refine ⟨hs.guarded, ?_, ?_, ?_, hs.guarded_iff⟩
  · intro delayMs r hdone
    rcases hs with hidle | hremembers
    · rcases WatchdogState.enable_cases (t := t) hidle delayMs r with ⟨s', hfailed, _⟩ | hstarted
      · rw [hfailed] at hdone
        exact absurd hdone (show (0 : Int32) ≠ 1 by decide)
      · rw [hstarted]
        exact (WatchdogState.remembers_started _ _).feed
    · exact (hremembers.enable delayMs r).feed
  · intro r hok hfailed
    rcases hs with hidle | hremembers
    · rw [WatchdogSession.disable_idle hidle] at hfailed
      exact absurd hfailed (show (1 : Int32) ≠ 0 by decide)
    · cases WatchdogState.disable_cases (t := t) hremembers r with
      | kept _ _ hremembers' => exact hremembers'.feed
      | dropped hdrops => exact absurd hdrops hok
      | done _ hdone =>
        rw [hfailed] at hdone
        exact absurd hdone (by decide)
  · intro r hactive hdone
    rcases hs with hidle | hremembers
    · exact absurd (hidle.active.symm.trans hactive) (by decide)
    · cases WatchdogState.disable_cases (t := t) hremembers r with
      | kept _ hfailed =>
        rw [hdone] at hfailed
        exact absurd hfailed (by decide)
      | dropped _ hfailed =>
        rw [hdone] at hfailed
        exact absurd hfailed (by decide)
      | done _ _ _ hsituation hconfig => exact ⟨hsituation, hconfig⟩

/-- Both idle tasks checked, five seconds, no panic. -/
def defaultWatchdog : WatchdogTarget := ⟨true, true, 5, false⟩

/-- Enabled where the task watchdog was not initialised. -/
def startedWatchdog : WatchdogSession :=
  watchdogSessionCall defaultWatchdog
    ⟨⟨false, false, false, ⟨.uninitialized, ⟨0, 0, false⟩⟩⟩, .uninitialized⟩ (.enable 250 {})

theorem watchdog_guarding_started : startedWatchdog.state.active = true ∧
    bmxEmbeddedWatchdogFeed startedWatchdog.state = 1 ∧
    (bmxEmbeddedWatchdogDisable defaultWatchdog startedWatchdog.state {}).2.twdt.situation =
      .uninitialized := by
  have hreachable : (watchdogMachine defaultWatchdog).ReachableIn
      (fun s a => ¬ a.Drops s.state) startedWatchdog := by
    refine .step (.init ⟨_, rfl⟩) ?_ rfl
    exact not_false
  have hall := watchdog_guarding defaultWatchdog startedWatchdog hreachable
  exact ⟨rfl, by decide, (hall.2.2.2.1 {} rfl rfl).1⟩

/-- The subscription is taken back, and then the task watchdog cannot be deinitialised. -/
def droppedWatchdog : WatchdogSession :=
  watchdogSessionCall defaultWatchdog startedWatchdog (.disable { deinit := espErrInvalidState })

/-- The failed `disable` leaves the task unguarded, and the next `enable` returns 1. -/
theorem watchdog_unguarded :
    (watchdogMachine defaultWatchdog).Reachable droppedWatchdog ∧
    (bmxEmbeddedWatchdogDisable defaultWatchdog startedWatchdog.state
      { deinit := espErrInvalidState }).1 = 0 ∧
    ¬ droppedWatchdog.state.Guarded ∧
    (bmxEmbeddedWatchdogEnable defaultWatchdog droppedWatchdog.state 250 {}).1 = 1 ∧
    bmxEmbeddedWatchdogFeed
      (bmxEmbeddedWatchdogEnable defaultWatchdog droppedWatchdog.state 250 {}).2 = 0 := by
  refine ⟨.step (.step (.init ⟨_, rfl⟩) trivial rfl) trivial rfl, by decide, ?_, by decide, by decide⟩
  intro hguarded
  exact absurd (hguarded rfl) (by decide)

end Esp32Mod
