/-
Esp32Mod/Calendar.lean

The calendar of the native runtime (`runtime.mod/native/esp32_calendar.c`): the system clock, and
one absolute alarm on a one-shot `esp_timer`.  `set_alarm` turns the target into a delay once, and
the timer counts it on the monotonic clock.

Each function is there twice.  As a whole it is translated from the source, with the results of
what it calls as arguments.  For the interleaving with the timer task it is cut into its critical
sections and timer calls, and the two are made of the same pieces (`setAlarm_run`,
`disableAlarm_run`).  One task calls; the timer task takes an expiry from the timer, which is
inactive from then on, and runs the callback later.

Times are in microseconds.  Calendar years end with 9999, so no sum overflows.

Beside the statics, the state keeps which alarm the timer waits for, the one that has been set
last, and a record of every event that was counted.

Main results:

* `setAlarm_run`, `disableAlarm_run` — a call without interruption is a run of its steps;
* `step_cases` — what a step can do.
-/
import Esp32Mod.StepMachine
import Esp32Mod.Errors
import Mathlib.Algebra.Order.Ring.Int

namespace Esp32Mod

open StepMachine Machine

/-! ### Date-times -/

/-- `BMXESP32CalendarDateTime`. -/
structure CalendarDateTime where
  year : Int32
  month : Int32
  day : Int32
  hour : Int32
  minute : Int32
  second : Int32
  millisecond : Int32
  utc : Int32
  offset : Int32
  dst : Int32

/-- `struct timeval`. -/
structure Timeval where
  sec : Int
  usec : Int

/-- Since the epoch. -/
def Timeval.microseconds (time : Timeval) : Int := time.sec * 1000000 + time.usec

/-- 0 for a month that there is not. -/
def bmxEsp32CalendarDaysInMonth (year month : Int32) : Int32 :=
  if month < 1 ∨ month > 12 then 0
  else
    let days : List Int32 := [31, 28, 31, 30, 31, 30, 31, 31, 30, 31, 30, 31]
    let result := days.getD (month - 1).toInt.toNat 0
    if month = 2 ∧ ((year % 4 = 0 ∧ year % 100 ≠ 0) ∨ year % 400 = 0) then result + 1 else result

/-- The fields are a date and a time of the years 1970 to 9999. -/
def bmxEsp32CalendarValid : Option CalendarDateTime → Bool
  | none => false
  | some value =>
    decide (value.year ≥ 1970 ∧ value.year ≤ 9999 ∧ value.month ≥ 1 ∧ value.month ≤ 12 ∧
      value.day ≥ 1 ∧ value.day ≤ bmxEsp32CalendarDaysInMonth value.year value.month ∧
      value.hour ≥ 0 ∧ value.hour ≤ 23 ∧ value.minute ≥ 0 ∧ value.minute ≤ 59 ∧
      value.second ≥ 0 ∧ value.second ≤ 59 ∧ value.millisecond ≥ 0 ∧ value.millisecond ≤ 999)

/-- The days from 1970-01-01 to the first of January of `year`. -/
def daysBeforeYear (year : Int) : Int :=
  365 * (year - 1970) + ((year - 1) / 4 - (year - 1) / 100 + (year - 1) / 400) - 477

/-- The days of the year before the month begins. -/
def daysBeforeMonth (year month : Int32) : Int :=
  ((List.range (month.toInt.toNat - 1)).map fun m =>
    (bmxEsp32CalendarDaysInMonth year (Int32.ofNat (m + 1))).toInt).sum

/-- The C function, of the fields of `struct tm` as the date-time has them. -/
def timegm (value : CalendarDateTime) : Int :=
  let days := daysBeforeYear value.year.toInt + daysBeforeMonth value.year value.month +
    (value.day.toInt - 1)
  ((days * 24 + value.hour.toInt) * 60 + value.minute.toInt) * 60 + value.second.toInt

example : timegm ⟨2000, 3, 1, 0, 0, 0, 0, 1, 0, 0⟩ = 951868800 := by decide

/-- The instant of valid fields; `timegm` answers -1 for an error. -/
def bmxEsp32CalendarToTimeval (value : Option CalendarDateTime) : Option Timeval :=
  match value with
  | none => none
  | some fields =>
    if bmxEsp32CalendarValid value = false then none
    else
      let seconds := timegm fields
      if seconds = -1 then none
      else
        let seconds :=
          if fields.utc = 0 then
            let seconds := seconds - fields.offset.toInt * 60
            if fields.dst = 1 then seconds - 3600 else seconds
          else seconds
        some ⟨seconds, (fields.millisecond * 1000).toInt⟩

/-- Second `second` of 1970, for the runs below. -/
def secondOf1970 (second : Int32) : CalendarDateTime := ⟨1970, 1, 1, 0, 0, second, 0, 1, 0, 0⟩

/-! ### The statics and the timer -/

/-- The statics of `esp32_calendar.c`. -/
structure CalendarState where
  /-- Whether the timer has been created. -/
  alarm : Bool
  alarmEvents : UInt32
  stopped : Bool
  alarmWakes : Bool
  alarmWakeDeadline : Int

/-- A call of `set_alarm`: its number, its target and whether it wakes. -/
structure CalendarAlarm where
  number : Nat
  target : Int
  wakes : Bool
  deriving DecidableEq

/-- The timer while it is active. -/
structure CalendarTimer where
  alarm : CalendarAlarm
  expiry : Int

/-- An event that was counted: the alarm whose expiry caused it, the one that was set last and
not disabled, and the clock. -/
structure CalendarCount where
  cause : CalendarAlarm
  recent : Option CalendarAlarm
  clock : Int

/-- The statics, the clocks and the timer that they drive. -/
structure Calendar where
  state : CalendarState
  clock : Int
  monotonic : Int
  timer : Option CalendarTimer
  /-- The alarm whose expiry the timer task has taken, and not yet run the callback for. -/
  dispatched : Option CalendarAlarm
  calls : Nat
  /-- The alarm that was set last and not disabled. -/
  recent : Option CalendarAlarm
  /-- The same alarm until it expires. -/
  current : Option CalendarAlarm
  counted : List CalendarCount

/-! ### Critical sections and timer calls -/

namespace Calendar

/-- `gettimeofday`. -/
def now (s : Calendar) : Timeval := ⟨s.clock / 1000000, s.clock % 1000000⟩

/-- The timer is created once. -/
def bmxEsp32CalendarAlarmCreate (s : Calendar) (create : EspErr) : Bool × Calendar :=
  if s.state.alarm = true then (true, s)
  else (decide (create = espOk), { s with
    state := { s.state with alarm := decide (create = espOk) } })

/-- An expiry that the timer task has taken stays taken. -/
def espTimerStop (s : Calendar) : Calendar := { s with timer := none }

/-- No expiry waits to be taken. -/
def clearEvents (s : Calendar) : Calendar :=
  { s with state := { s.state with alarmEvents := 0 } }

/-- Whether the alarm ends a sleep, and when. -/
def storeWake (s : Calendar) (wakes : Bool) (delay : Int) : Calendar :=
  { s with
    state := { s.state with
      alarmWakes := wakes
      alarmWakeDeadline := if wakes = true then s.monotonic + delay else 0 } }

/-- No alarm ends a sleep. -/
def clearWake (s : Calendar) : Calendar :=
  { s with state := { s.state with alarmWakes := false, alarmWakeDeadline := 0 } }

/-- `esp_timer_start_once` with `ESP_OK`, and `set_alarm` returns 1. -/
def armed (s : Calendar) (alarm : CalendarAlarm) (delay : Int) : Calendar :=
  { s with
    timer := some ⟨alarm, s.monotonic + delay⟩
    recent := some alarm
    current := some alarm }

/-- The section of `disable_alarm`, which returns after it. -/
def disabled (s : Calendar) : Calendar :=
  { s.clearEvents.clearWake with recent := none, current := none }

/-- An active timer is not started again. -/
def espTimerStartOnce (s : Calendar) (start : EspErr) : EspErr :=
  if s.timer.isSome = true then espErrInvalidState else start

/-- For the expiry of `alarm`. -/
def bmxEsp32CalendarAlarmCallback (s : Calendar) (alarm : CalendarAlarm) : Calendar :=
  { s with
    state := { s.state with
      alarmEvents := if s.state.alarmEvents ≠ 0xFFFFFFFF then s.state.alarmEvents + 1
        else s.state.alarmEvents
      alarmWakes := false
      alarmWakeDeadline := 0 }
    dispatched := none
    counted := if s.state.alarmEvents ≠ 0xFFFFFFFF then
      s.counted ++ [⟨alarm, s.recent, s.clock⟩] else s.counted }

end Calendar

/-- The delay of `set_alarm`. -/
def calendarDelay (target now : Timeval) : Int :=
  (target.sec - now.sec) * 1000000 + (target.usec - now.usec)

/-! ### The functions -/

/-- `CalendarStart` and `CalendarSet`; `settimeofday` says that the call returns 0. -/
def bmxEsp32CalendarStart (s : Calendar) (value : Option CalendarDateTime)
    (settimeofday : Bool) : Int32 × Calendar :=
  match bmxEsp32CalendarToTimeval value with
  | none => (0, s)
  | some time =>
    if settimeofday = false then (0, s)
    else (1, { s with clock := time.microseconds, state := { s.state with stopped := false } })

/-- The clock can be read and has not been stopped. -/
def bmxEsp32CalendarIsRunning (s : Calendar) (gettimeofday : Bool) : Bool :=
  if s.state.stopped = true then false else gettimeofday && decide (0 ≤ s.now.sec)

/-- What the calls of a `set_alarm` answer. -/
structure CalendarSetResults where
  gettimeofday : Bool := true
  create : EspErr := espOk
  start : EspErr := espOk

/-- `set_alarm` from its first critical section on. -/
def calendarArm (s : Calendar) (alarm : CalendarAlarm) (delay : Int) (start : EspErr) :
    Int32 × Calendar :=
  let s := s.clearEvents
  let s := s.storeWake alarm.wakes delay
  if s.espTimerStartOnce start ≠ espOk then (0, s.clearWake) else (1, s.armed alarm delay)

/-- The timer is started with the time that is left until the instant. -/
def bmxEsp32CalendarSetAlarm (s : Calendar) (value : Option CalendarDateTime)
    (wakeFromLowPower : Int32) (r : CalendarSetResults) : Int32 × Calendar :=
  match bmxEsp32CalendarToTimeval value with
  | none => (0, s)
  | some target =>
    if r.gettimeofday = false then (0, s)
    else
      let delay := calendarDelay target s.now
      let alarm : CalendarAlarm := ⟨s.calls, target.microseconds, wakeFromLowPower != 0⟩
      let s := { s with calls := s.calls + 1 }
      let (created, s) := s.bmxEsp32CalendarAlarmCreate r.create
      if created = false then (0, s)
      else if delay ≤ 0 then (0, s)
      else
        let s := if s.timer.isSome = true then s.espTimerStop else s
        calendarArm s alarm delay r.start

/-- A timer that runs is stopped first. -/
def bmxEsp32CalendarDisableAlarm (s : Calendar) : Calendar :=
  let s := if s.state.alarm = true ∧ s.timer.isSome = true then s.espTimerStop else s
  s.disabled

/-- The alarm goes, and the clock counts as stopped. -/
def bmxEsp32CalendarStop (s : Calendar) : Calendar :=
  let s := bmxEsp32CalendarDisableAlarm s
  { s with state := { s.state with stopped := true } }

/-- `now` is the monotonic clock after the critical section. -/
def bmxEsp32CalendarWakeDelayUs (s : CalendarState) (now : Int) : Int :=
  if s.alarmWakes = false ∨ s.alarmWakeDeadline = 0 then -1
  else
    let remaining := s.alarmWakeDeadline - now
    if 0 < remaining then remaining else 1

/-- Read and cleared. -/
def bmxEsp32CalendarTakeAlarmEvents (s : Calendar) : UInt32 × Calendar :=
  (s.state.alarmEvents, s.clearEvents)

/-- The wake-up delay of `bmx_esp32_power_light_sleep`; without one the timer does not wake. -/
def bmxEsp32PowerLightSleepDelay (s : CalendarState) (now requestedDelayUs : Int) : Option Int :=
  let calendarDelayUs := bmxEsp32CalendarWakeDelayUs s now
  let wakeDelayUs :=
    if 0 < calendarDelayUs ∧ (requestedDelayUs < 0 ∨ calendarDelayUs < requestedDelayUs) then
      calendarDelayUs
    else requestedDelayUs
  if 0 < wakeDelayUs then some wakeDelayUs else none

/-! ### The interleaving -/

/-- What `set_alarm` does next. -/
inductive CalendarSetStep
  | create | isActive | stop | clearEvents | storeWake | start | clearWake
  deriving DecidableEq

/-- What `disable_alarm` does next. -/
inductive CalendarDisableStep
  | isActive | stop | clear
  deriving DecidableEq

/-- The task that calls. -/
inductive CalendarTask
  | idle
  | setting (next : CalendarSetStep) (alarm : CalendarAlarm) (delay : Int)
  /-- `stopping` for a call from `CalendarStop`. -/
  | disabling (next : CalendarDisableStep) (stopping : Bool)
  deriving DecidableEq

/-- The calendar, and how far a call has come. -/
structure CalendarSystem where
  calendar : Calendar
  task : CalendarTask

namespace Calendar

/-- The next step of `set_alarm`, and what comes after it. -/
def setStep (s : Calendar) (next : CalendarSetStep) (alarm : CalendarAlarm) (delay : Int)
    (result : EspErr) : CalendarSystem :=
  match next with
  | .create =>
    let (created, s) := s.bmxEsp32CalendarAlarmCreate result
    if created = false then ⟨s, .idle⟩
    else if delay ≤ 0 then ⟨s, .idle⟩
    else ⟨s, .setting .isActive alarm delay⟩
  | .isActive =>
    if s.timer.isSome = true then ⟨s, .setting .stop alarm delay⟩
    else ⟨s, .setting .clearEvents alarm delay⟩
  | .stop => ⟨s.espTimerStop, .setting .clearEvents alarm delay⟩
  | .clearEvents => ⟨s.clearEvents, .setting .storeWake alarm delay⟩
  | .storeWake => ⟨s.storeWake alarm.wakes delay, .setting .start alarm delay⟩
  | .start =>
    if s.espTimerStartOnce result ≠ espOk then ⟨s, .setting .clearWake alarm delay⟩
    else ⟨s.armed alarm delay, .idle⟩
  | .clearWake => ⟨s.clearWake, .idle⟩

/-- The next step of `disable_alarm`; after the last one `CalendarStop` stops the clock. -/
def disableStep (s : Calendar) (next : CalendarDisableStep) (stopping : Bool) : CalendarSystem :=
  match next with
  | .isActive =>
    if s.state.alarm = true ∧ s.timer.isSome = true then ⟨s, .disabling .stop stopping⟩
    else ⟨s, .disabling .clear stopping⟩
  | .stop => ⟨s.espTimerStop, .disabling .clear stopping⟩
  | .clear =>
    ⟨if stopping = true then { s.disabled with state := { s.disabled.state with stopped := true } }
      else s.disabled, .idle⟩

/-- The timer task takes the expiry of the timer. -/
def expire (s : Calendar) : Option Calendar :=
  match s.dispatched, s.timer with
  | none, some timer =>
    if timer.expiry ≤ s.monotonic then
      some { s with
        timer := none
        dispatched := some timer.alarm
        current := if s.current = some timer.alarm then none else s.current }
    else none
  | _, _ => none

/-- Time passes on both clocks. -/
def advance (s : Calendar) (duration : Nat) : Calendar :=
  { s with clock := s.clock + duration, monotonic := s.monotonic + duration }

/-- The statics at boot; the clocks may have any value. -/
def boot (clock monotonic : Int) : Calendar where
  state := ⟨false, 0, false, false, 0⟩
  clock := clock
  monotonic := monotonic
  timer := none
  dispatched := none
  calls := 0
  recent := none
  current := none
  counted := []

end Calendar

/-- What time, the application and the timer task do. -/
inductive CalendarAction
  | advance (duration : Nat)
  | start (value : Option CalendarDateTime) (settimeofday : Bool)
  | setAlarm (value : Option CalendarDateTime) (wakeFromLowPower : Int32) (gettimeofday : Bool)
  | disableAlarm (stopping : Bool)
  | takeAlarmEvents
  /-- The next step of the call in progress; `result` is that of the call it makes, if any. -/
  | proceed (result : EspErr)
  | expire
  | callback

namespace CalendarSystem

/-- The beginning of a call. -/
def enter (s : Calendar) : CalendarAction → Option CalendarSystem
  | .start value settimeofday => some ⟨(bmxEsp32CalendarStart s value settimeofday).2, .idle⟩
  | .setAlarm value wakeFromLowPower gettimeofday =>
    match bmxEsp32CalendarToTimeval value with
    | none => some ⟨s, .idle⟩
    | some target =>
      if gettimeofday = false then some ⟨s, .idle⟩
      else
        some ⟨{ s with calls := s.calls + 1 },
          .setting .create ⟨s.calls, target.microseconds, wakeFromLowPower != 0⟩
            (calendarDelay target s.now)⟩
  | .disableAlarm stopping => some ⟨s, .disabling .isActive stopping⟩
  | .takeAlarmEvents => some ⟨(bmxEsp32CalendarTakeAlarmEvents s).2, .idle⟩
  | _ => none

/-- A call starts when there is none; the timer does not wait for it. -/
def step (s : CalendarSystem) : CalendarAction → Option CalendarSystem
  | .advance duration => some { s with calendar := s.calendar.advance duration }
  | .proceed result =>
    match s.task with
    | .idle => none
    | .setting next alarm delay => some (s.calendar.setStep next alarm delay result)
    | .disabling next stopping => some (s.calendar.disableStep next stopping)
  | .expire => s.calendar.expire.map fun calendar => { s with calendar }
  | .callback => s.calendar.dispatched.map fun alarm =>
      { s with calendar := s.calendar.bmxEsp32CalendarAlarmCallback alarm }
  | a =>
    match s.task with
    | .idle => enter s.calendar a
    | _ => none

end CalendarSystem

/-- From any setting of the clocks. -/
def calendarMachine : Machine CalendarSystem CalendarAction where
  init s := ∃ clock monotonic, 0 ≤ monotonic ∧ s = ⟨.boot clock monotonic, .idle⟩
  step := CalendarSystem.step

namespace CalendarSystem

/-- What a step can do. -/
inductive Steps (s : CalendarSystem) : CalendarAction → CalendarSystem → Prop
  | advance (duration : Nat) :
      Steps s (.advance duration) { s with calendar := s.calendar.advance duration }
  | setting {next : CalendarSetStep} {alarm : CalendarAlarm} {delay : Int}
      (htask : s.task = .setting next alarm delay) (result : EspErr) :
      Steps s (.proceed result) (s.calendar.setStep next alarm delay result)
  | disabling {next : CalendarDisableStep} {stopping : Bool}
      (htask : s.task = .disabling next stopping) (result : EspErr) :
      Steps s (.proceed result) (s.calendar.disableStep next stopping)
  | expire {calendar : Calendar} (hexpire : s.calendar.expire = some calendar) :
      Steps s .expire { s with calendar }
  | callback {alarm : CalendarAlarm} (hdispatched : s.calendar.dispatched = some alarm) :
      Steps s .callback { s with calendar := s.calendar.bmxEsp32CalendarAlarmCallback alarm }
  | enter {a : CalendarAction} {s' : CalendarSystem} (hidle : s.task = .idle)
      (henter : enter s.calendar a = some s') : Steps s a s'

theorem step_cases {s s' : CalendarSystem} {a : CalendarAction} (hstep : s.step a = some s') :
    s.Steps a s' := by
  have hcall : ∀ a, (match s.task with
      | .idle => enter s.calendar a
      | _ => none) = some s' → s.Steps a s' := by
    intro a ha
    split at ha
    next hidle => exact .enter hidle ha
    next => cases ha
  cases a with
  | advance duration =>
    obtain rfl := Option.some.inj hstep
    exact .advance duration
  | proceed result =>
    dsimp only [step] at hstep
    split at hstep
    next => cases hstep
    next htask =>
      obtain rfl := Option.some.inj hstep
      exact .setting htask result
    next htask =>
      obtain rfl := Option.some.inj hstep
      exact .disabling htask result
  | expire =>
    obtain ⟨calendar, hexpire, rfl⟩ := Option.map_eq_some_iff.mp hstep
    exact .expire hexpire
  | callback =>
    obtain ⟨alarm, hdispatched, rfl⟩ := Option.map_eq_some_iff.mp hstep
    exact .callback hdispatched
  | start value settimeofday => exact hcall _ hstep
  | setAlarm value wakeFromLowPower gettimeofday => exact hcall _ hstep
  | disableAlarm stopping => exact hcall _ hstep
  | takeAlarmEvents => exact hcall _ hstep

end CalendarSystem

/-! ### Whole calls as runs -/

namespace Calendar

variable {s s' : Calendar}

/-- The call in progress comes to its end, with `s'`. -/
def Finishes (s : CalendarSystem) (s' : Calendar) : Prop :=
  ∃ results : List EspErr, calendarMachine.run s (results.map .proceed) = some ⟨s', .idle⟩

theorem Finishes.idle (s : Calendar) : Finishes ⟨s, .idle⟩ s := ⟨[], rfl⟩

theorem Finishes.setting {next : CalendarSetStep} {alarm : CalendarAlarm} {delay : Int}
    (result : EspErr) (h : Finishes (s.setStep next alarm delay result) s') :
    Finishes ⟨s, .setting next alarm delay⟩ s' := by
  obtain ⟨results, hrun⟩ := h
  exact ⟨result :: results, hrun⟩

theorem Finishes.disabling {next : CalendarDisableStep} {stopping : Bool}
    (h : Finishes (s.disableStep next stopping) s') :
    Finishes ⟨s, .disabling next stopping⟩ s' := by
  obtain ⟨results, hrun⟩ := h
  exact ⟨espOk :: results, hrun⟩

theorem finishes_arm (s : Calendar) (alarm : CalendarAlarm) (delay : Int) (start : EspErr) :
    Finishes ⟨s, .setting .clearEvents alarm delay⟩ (calendarArm s alarm delay start).2 := by
  apply Finishes.setting espOk
  apply Finishes.setting espOk
  apply Finishes.setting start
  unfold calendarArm setStep
  dsimp only
  split
  · exact .setting espOk (.idle _)
  · exact .idle _

/-- **A call of `set_alarm` without interruption is a run of its steps.** -/
theorem setAlarm_run (s : Calendar) (value : Option CalendarDateTime) (wakeFromLowPower : Int32)
    (r : CalendarSetResults) : ∃ actions, calendarMachine.run ⟨s, .idle⟩ actions =
      some ⟨(bmxEsp32CalendarSetAlarm s value wakeFromLowPower r).2, .idle⟩ := by
  unfold bmxEsp32CalendarSetAlarm
  cases htarget : bmxEsp32CalendarToTimeval value with
  | none => exact ⟨[], rfl⟩
  | some target =>
  cases hget : r.gettimeofday with
  | false => exact ⟨[], rfl⟩
  | true =>
  simp only [Bool.true_eq_false, if_false]
  generalize hdelay : calendarDelay target s.now = delay
  generalize halarm : CalendarAlarm.mk s.calls target.microseconds (wakeFromLowPower != 0) = alarm
  -- after the entry the call finishes by its own steps
  have henter : ∀ s', Finishes ⟨{ s with calls := s.calls + 1 }, .setting .create alarm delay⟩ s' →
      ∃ actions, calendarMachine.run ⟨s, .idle⟩ actions = some ⟨s', .idle⟩ := by
    rintro s' ⟨results, hrun⟩
    refine ⟨.setAlarm value wakeFromLowPower true :: results.map .proceed, ?_⟩
    have hstep : calendarMachine.step ⟨s, .idle⟩ (.setAlarm value wakeFromLowPower true) =
        some ⟨{ s with calls := s.calls + 1 }, .setting .create alarm delay⟩ := by
      simp only [calendarMachine, CalendarSystem.step, CalendarSystem.enter, htarget,
        Bool.true_eq_false, if_false, hdelay, halarm]
    rw [Machine.run, hstep]
    exact hrun
  apply henter
  apply Finishes.setting r.create
  dsimp only [setStep]
  generalize Calendar.bmxEsp32CalendarAlarmCreate { s with calls := s.calls + 1 } r.create = created
  obtain ⟨created, s⟩ := created
  dsimp only
  split
  · exact .idle s
  split
  · exact .idle s
  apply Finishes.setting espOk
  dsimp only [setStep]
  split
  next hactive =>
    apply Finishes.setting espOk
    exact s.espTimerStop.finishes_arm alarm delay r.start
  next => exact s.finishes_arm alarm delay r.start

/-- `disable_alarm` finishes, for itself or within `CalendarStop`. -/
theorem finishes_disable (s : Calendar) (stopping : Bool) :
    Finishes ⟨s, .disabling .isActive stopping⟩
      (if stopping = true then bmxEsp32CalendarStop s else bmxEsp32CalendarDisableAlarm s) := by
  apply Finishes.disabling
  unfold bmxEsp32CalendarStop bmxEsp32CalendarDisableAlarm
  dsimp only [disableStep]
  split
  · exact .disabling (.disabling (.idle _))
  · exact .disabling (.idle _)

/-- **A call of `disable_alarm` or of `CalendarStop` without interruption is a run of its
steps.** -/
theorem disableAlarm_run (s : Calendar) (stopping : Bool) :
    ∃ actions, calendarMachine.run ⟨s, .idle⟩ (.disableAlarm stopping :: actions) = some
      ⟨if stopping = true then bmxEsp32CalendarStop s else bmxEsp32CalendarDisableAlarm s,
        .idle⟩ := by
  obtain ⟨results, hrun⟩ := s.finishes_disable stopping
  exact ⟨results.map .proceed, hrun⟩

end Calendar

end Esp32Mod
