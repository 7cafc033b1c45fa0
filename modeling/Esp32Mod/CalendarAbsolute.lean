/-
Esp32Mod/CalendarAbsolute.lean

Whether a calendar alarm is absolute.  `set_alarm` measures the delay once, and the two clocks run
side by side from then on, so the alarm is not early unless the system clock is set.
`CalendarStart` and `CalendarSet` set it and leave the timer as it is.

`SetsBack` is a write after which the timer, or an expiry in flight, comes before the target.

A `set_alarm` that returns 0 has left everything alone, with one exception: by the time
`esp_timer_start_once` fails it has stopped the earlier alarm, cleared the count and the wake
fields.

Main results:

* `calendar_alarm_absolute` — without such a write no event is counted before its target, and a
  failed `set_alarm` keeps what was there unless it got that far with something to lose;
* `calendar_alarm_relative` — an alarm that is half a second early, and one that is lost;
* `calendar_alarm_early` — such a write is followed by an event before its target.
-/
import Esp32Mod.Calendar

namespace Esp32Mod

open StepMachine Machine

/-- The clock is set to a time at which the timer, or the expiry in flight, is too early. -/
inductive SetsBack (s : CalendarSystem) : CalendarAction → Prop
  | timer {value : Option CalendarDateTime} {time : Timeval} {timer : CalendarTimer}
      (htime : bmxEsp32CalendarToTimeval value = some time)
      (htimer : s.calendar.timer = some timer)
      (hearly : time.microseconds + max 0 (timer.expiry - s.calendar.monotonic) <
        timer.alarm.target) : SetsBack s (.start value true)
  | dispatched {value : Option CalendarDateTime} {time : Timeval} {alarm : CalendarAlarm}
      (htime : bmxEsp32CalendarToTimeval value = some time)
      (hdispatched : s.calendar.dispatched = some alarm)
      (hearly : time.microseconds < alarm.target) : SetsBack s (.start value true)

namespace Calendar

/-- The alarm, its count and its wake setting are as they were. -/
structure KeepsAlarm (s s' : Calendar) : Prop where
  timer : s'.timer = s.timer
  events : s'.state.alarmEvents = s.state.alarmEvents
  wakes : s'.state.alarmWakes = s.state.alarmWakes
  deadline : s'.state.alarmWakeDeadline = s.state.alarmWakeDeadline

/-- There is nothing to lose: no alarm, no event, no wake-up. -/
structure Bare (s : Calendar) : Prop where
  timer : s.timer = none
  events : s.state.alarmEvents = 0
  wakes : s.state.alarmWakes = false
  deadline : s.state.alarmWakeDeadline = 0

/-- A `set_alarm` that comes as far as starting the timer and fails there, with something to
lose. -/
def Loses (s : Calendar) (value : Option CalendarDateTime) (r : CalendarSetResults) : Prop :=
  ∃ target, bmxEsp32CalendarToTimeval value = some target ∧ r.gettimeofday = true ∧
    (s.state.alarm = true ∨ r.create = espOk) ∧ 0 < calendarDelay target s.now ∧
    r.start ≠ espOk ∧ ¬ s.Bare

variable {s s' : Calendar}

/-! ### The targets -/

/-- Neither the timer nor the expiry in flight is early, and no event was. -/
structure OnTime (s : Calendar) : Prop where
  timer : ∀ timer, s.timer = some timer →
    timer.alarm.target ≤ s.clock + max 0 (timer.expiry - s.monotonic)
  dispatched : ∀ alarm, s.dispatched = some alarm → alarm.target ≤ s.clock
  counted : ∀ e ∈ s.counted, e.cause.target ≤ e.clock

/-- The delay of a call in progress reaches its target. -/
def TaskOnTime (s : Calendar) : CalendarTask → Prop
  | .setting _ alarm delay => alarm.target ≤ s.clock + delay
  | .idle | .disabling _ _ => True

/-- The delay is what is left to the target. -/
theorem calendarDelay_now (s : Calendar) (target : Timeval) :
    calendarDelay target s.now = target.microseconds - s.clock := by
  unfold calendarDelay now Timeval.microseconds
  dsimp only
  omega

/-- The clocks, the expiry in flight and the record are as before, and the timer at most
stopped. -/
structure Quiet (s s' : Calendar) : Prop where
  clock : s'.clock = s.clock
  monotonic : s'.monotonic = s.monotonic
  timer : ∀ timer, s'.timer = some timer → s.timer = some timer
  dispatched : s'.dispatched = s.dispatched
  counted : s'.counted = s.counted

theorem OnTime.quiet (h : s.OnTime) (hquiet : s.Quiet s') : s'.OnTime := by
  refine ⟨?_, ?_, ?_⟩
  · intro timer htimer
    rw [hquiet.clock, hquiet.monotonic]
    exact h.timer timer (hquiet.timer timer htimer)
  · rw [hquiet.dispatched, hquiet.clock]
    exact h.dispatched
  · rw [hquiet.counted]
    exact h.counted

theorem quiet_create (s : Calendar) (create : EspErr) :
    s.Quiet (s.bmxEsp32CalendarAlarmCreate create).2 := by
  unfold bmxEsp32CalendarAlarmCreate
  split <;> exact ⟨rfl, rfl, fun _ => id, rfl, rfl⟩

/-- **Time passes on both clocks**: what is left to the expiry goes to the system clock. -/
theorem OnTime.advance (h : s.OnTime) (duration : Nat) : (s.advance duration).OnTime := by
  refine ⟨?_, ?_, h.counted⟩
  · intro timer htimer
    have htarget := h.timer timer htimer
    show timer.alarm.target ≤ s.clock + duration + max 0 (timer.expiry - (s.monotonic + duration))
    omega
  · intro alarm halarm
    have htarget := h.dispatched alarm halarm
    show alarm.target ≤ s.clock + duration
    omega

theorem OnTime.expire (h : s.OnTime) (hexpire : s.expire = some s') : s'.OnTime := by
  unfold Calendar.expire at hexpire
  split at hexpire
  next timer _ htimer =>
    split at hexpire
    next hexpired =>
      obtain rfl := Option.some.inj hexpire
      refine ⟨nofun, ?_, h.counted⟩
      intro alarm halarm
      obtain rfl := Option.some.inj halarm
      have htarget := h.timer timer htimer
      show timer.alarm.target ≤ s.clock
      omega
    next => cases hexpire
  next => cases hexpire

theorem OnTime.callback (h : s.OnTime) {alarm : CalendarAlarm}
    (hdispatched : s.dispatched = some alarm) :
    (s.bmxEsp32CalendarAlarmCallback alarm).OnTime := by
  refine ⟨h.timer, nofun, ?_⟩
  intro e he
  unfold bmxEsp32CalendarAlarmCallback at he
  dsimp only at he
  split at he
  · rcases List.mem_append.mp he with he | he
    · exact h.counted e he
    · rw [List.mem_singleton.mp he]
      exact h.dispatched alarm hdispatched
  · exact h.counted e he

theorem OnTime.armed (h : s.OnTime) {alarm : CalendarAlarm} {delay : Int}
    (htarget : alarm.target ≤ s.clock + delay) : (s.armed alarm delay).OnTime := by
  refine ⟨?_, h.dispatched, h.counted⟩
  intro timer htimer
  obtain rfl := Option.some.inj htimer
  show alarm.target ≤ s.clock + max 0 (s.monotonic + delay - s.monotonic)
  omega

end Calendar

namespace CalendarSystem

open Calendar

variable {s s' : CalendarSystem}

/-- What is armed, taken or under way is on time. -/
structure Punctual (s : CalendarSystem) : Prop where
  onTime : s.calendar.OnTime
  task : s.calendar.TaskOnTime s.task

theorem Punctual.setStep {calendar : Calendar} {next : CalendarSetStep} {alarm : CalendarAlarm}
    {delay : Int} (h : Punctual ⟨calendar, .setting next alarm delay⟩) (result : EspErr) :
    (calendar.setStep next alarm delay result).Punctual := by
  obtain ⟨honTime, htask⟩ := h
  dsimp only at honTime
  have htarget : alarm.target ≤ calendar.clock + delay := htask
  -- until the timer is started nothing is armed; then the delay has not passed yet
  cases next with
  | create =>
    have hquiet := calendar.quiet_create result
    have hcreated := honTime.quiet hquiet
    unfold Calendar.setStep
    dsimp only
    split
    · exact ⟨hcreated, trivial⟩
    split
    · exact ⟨hcreated, trivial⟩
    · refine ⟨hcreated, ?_⟩
      show alarm.target ≤ _ + delay
      rw [hquiet.clock]
      exact htarget
  | isActive =>
    unfold Calendar.setStep
    dsimp only
    split
    · exact ⟨honTime, htarget⟩
    · exact ⟨honTime, htarget⟩
  | stop => exact ⟨honTime.quiet ⟨rfl, rfl, nofun, rfl, rfl⟩, htarget⟩
  | clearEvents => exact ⟨honTime.quiet ⟨rfl, rfl, fun _ => id, rfl, rfl⟩, htarget⟩
  | storeWake => exact ⟨honTime.quiet ⟨rfl, rfl, fun _ => id, rfl, rfl⟩, htarget⟩
  | start =>
    unfold Calendar.setStep
    dsimp only
    split
    · exact ⟨honTime, htarget⟩
    · exact ⟨honTime.armed htarget, trivial⟩
  | clearWake => exact ⟨honTime.quiet ⟨rfl, rfl, fun _ => id, rfl, rfl⟩, trivial⟩

theorem Punctual.disableStep {calendar : Calendar} {next : CalendarDisableStep} {stopping : Bool}
    (h : Punctual ⟨calendar, .disabling next stopping⟩) :
    (calendar.disableStep next stopping).Punctual := by
  have honTime : calendar.OnTime := h.onTime
  cases next with
  | isActive =>
    unfold Calendar.disableStep
    dsimp only
    split
    · exact ⟨honTime, trivial⟩
    · exact ⟨honTime, trivial⟩
  | stop => exact ⟨honTime.quiet ⟨rfl, rfl, nofun, rfl, rfl⟩, trivial⟩
  | clear =>
    unfold Calendar.disableStep
    dsimp only
    split
    · exact ⟨honTime.quiet ⟨rfl, rfl, fun _ => id, rfl, rfl⟩, trivial⟩
    · exact ⟨honTime.quiet ⟨rfl, rfl, fun _ => id, rfl, rfl⟩, trivial⟩

/-- The clock is set, and nothing becomes early by it. -/
theorem Punctual.start {calendar : Calendar} (h : Punctual ⟨calendar, .idle⟩)
    {value : Option CalendarDateTime} {settimeofday : Bool}
    (hok : ¬ SetsBack ⟨calendar, .idle⟩ (.start value settimeofday)) :
    Punctual ⟨(bmxEsp32CalendarStart calendar value settimeofday).2, .idle⟩ := by
  have honTime : calendar.OnTime := h.onTime
  unfold bmxEsp32CalendarStart
  split
  · exact h
  next time htime =>
  cases settimeofday with
  | false => exact h
  | true =>
    refine ⟨⟨?_, ?_, honTime.counted⟩, trivial⟩
    · intro timer htimer
      exact Int.not_lt.mp fun hearly => hok (.timer htime htimer hearly)
    · intro alarm halarm
      exact Int.not_lt.mp fun hearly => hok (.dispatched htime halarm hearly)

theorem Punctual.enter {calendar : Calendar} (h : Punctual ⟨calendar, .idle⟩) {a : CalendarAction}
    (hok : ¬ SetsBack ⟨calendar, .idle⟩ a) (henter : enter calendar a = some s') : s'.Punctual := by
  have honTime : calendar.OnTime := h.onTime
  cases a with
  | start value settimeofday =>
    obtain rfl := Option.some.inj henter
    exact h.start hok
  | setAlarm value wakeFromLowPower gettimeofday =>
    unfold CalendarSystem.enter at henter
    dsimp only at henter
    split at henter
    · obtain rfl := Option.some.inj henter
      exact h
    split at henter
    · obtain rfl := Option.some.inj henter
      exact h
    next target _ _ =>
      obtain rfl := Option.some.inj henter
      refine ⟨honTime.quiet ⟨rfl, rfl, fun _ => id, rfl, rfl⟩, ?_⟩
      show target.microseconds ≤ calendar.clock + calendarDelay target calendar.now
      rw [calendarDelay_now]
      omega
  | disableAlarm stopping =>
    obtain rfl := Option.some.inj henter
    exact ⟨honTime, trivial⟩
  | takeAlarmEvents =>
    obtain rfl := Option.some.inj henter
    exact ⟨honTime.quiet ⟨rfl, rfl, fun _ => id, rfl, rfl⟩, trivial⟩
  | advance duration => cases henter
  | proceed result => cases henter
  | expire => cases henter
  | callback => cases henter

/-- What a call in progress needs of the clock: that it does not go back. -/
theorem taskOnTime_of_le {calendar calendar' : Calendar} {task : CalendarTask}
    (h : calendar.TaskOnTime task) (hclock : calendar.clock ≤ calendar'.clock) :
    calendar'.TaskOnTime task := by
  cases task with
  | idle => trivial
  | setting next alarm delay =>
    have htarget : alarm.target ≤ calendar.clock + delay := h
    show alarm.target ≤ calendar'.clock + delay
    omega
  | disabling next stopping => trivial

theorem expire_clock {calendar calendar' : Calendar} (h : calendar.expire = some calendar') :
    calendar'.clock = calendar.clock := by
  unfold Calendar.expire at h
  split at h
  · split at h
    · obtain rfl := Option.some.inj h
      rfl
    · cases h
  · cases h

theorem Punctual.step {a : CalendarAction} (h : s.Punctual) (hok : ¬ SetsBack s a)
    (hstep : s.step a = some s') : s'.Punctual := by
  cases step_cases hstep with
  | advance duration =>
    refine ⟨h.onTime.advance duration, taskOnTime_of_le h.task ?_⟩
    show s.calendar.clock ≤ s.calendar.clock + duration
    omega
  | setting htask result =>
    obtain ⟨calendar, task⟩ := s
    obtain rfl : task = _ := htask
    exact h.setStep result
  | disabling htask result =>
    obtain ⟨calendar, task⟩ := s
    obtain rfl : task = _ := htask
    exact h.disableStep
  | expire hexpire =>
    have hclock := Int.le_of_eq (expire_clock hexpire).symm
    exact ⟨h.onTime.expire hexpire, taskOnTime_of_le h.task hclock⟩
  | callback hdispatched =>
    exact ⟨h.onTime.callback hdispatched, taskOnTime_of_le h.task (Int.le_refl _)⟩
  | enter hidle henter =>
    obtain ⟨calendar, task⟩ := s
    obtain rfl : task = _ := hidle
    exact h.enter hok henter

end CalendarSystem

/-! ### A failed `set_alarm` -/

namespace Calendar

variable {s : Calendar}

/-- Once the timer is stopped, the call fails exactly where starting it does. -/
theorem arm_failed_iff (hstopped : s.timer = none) (alarm : CalendarAlarm) (delay : Int)
    (start : EspErr) : (calendarArm s alarm delay start).1 = 0 ↔ start ≠ espOk := by
  have hstart : (s.clearEvents.storeWake alarm.wakes delay).espTimerStartOnce start = start := by
    unfold espTimerStartOnce
    rw [show (s.clearEvents.storeWake alarm.wakes delay).timer = none from hstopped]
    rfl
  unfold calendarArm
  dsimp only
  rw [hstart]
  split
  next hfailed => exact iff_of_true rfl hfailed
  next hdone => exact iff_of_false (show (1 : Int32) ≠ 0 by decide) hdone

/-- A call that fails there leaves nothing. -/
theorem arm_bare (hstopped : s.timer = none) {alarm : CalendarAlarm} {delay : Int}
    {start : EspErr} (hfailed : (calendarArm s alarm delay start).1 = 0) :
    (calendarArm s alarm delay start).2.Bare := by
  unfold calendarArm at hfailed ⊢
  dsimp only at hfailed ⊢
  split_ifs at hfailed ⊢ with hstart
  · exact ⟨hstopped, rfl, rfl, rfl⟩
  · exact absurd hfailed (show (1 : Int32) ≠ 0 by decide)

theorem KeepsAlarm.refl (s : Calendar) : s.KeepsAlarm s := ⟨rfl, rfl, rfl, rfl⟩

/-- What is bare afterwards is kept if and only if it was bare before. -/
theorem Bare.keepsAlarm_iff {s' : Calendar} (h : s'.Bare) : s.KeepsAlarm s' ↔ s.Bare := by
  constructor
  · intro hkeeps
    exact ⟨hkeeps.timer.symm.trans h.timer, hkeeps.events.symm.trans h.events,
      hkeeps.wakes.symm.trans h.wakes, hkeeps.deadline.symm.trans h.deadline⟩
  · intro hbare
    exact ⟨h.timer.trans hbare.timer.symm, h.events.trans hbare.events.symm,
      h.wakes.trans hbare.wakes.symm, h.deadline.trans hbare.deadline.symm⟩

/-- Creating the timer fails or not, and keeps the alarm. -/
theorem create_keeps (s : Calendar) (create : EspErr) :
    s.KeepsAlarm (s.bmxEsp32CalendarAlarmCreate create).2 ∧
      ((s.bmxEsp32CalendarAlarmCreate create).1 = true ↔
        s.state.alarm = true ∨ create = espOk) := by
  unfold bmxEsp32CalendarAlarmCreate
  split
  next halarm => exact ⟨.refl s, iff_of_true rfl (Or.inl halarm)⟩
  next hnew =>
    refine ⟨⟨rfl, rfl, rfl, rfl⟩, ?_⟩
    rw [decide_eq_true_iff]
    exact ⟨Or.inr, fun h => h.resolve_left hnew⟩

/-- The condition, of the target that the value names. -/
theorem loses_iff {value : Option CalendarDateTime} {target : Timeval} {r : CalendarSetResults}
    (htarget : bmxEsp32CalendarToTimeval value = some target) (hget : r.gettimeofday = true) :
    s.Loses value r ↔ (s.state.alarm = true ∨ r.create = espOk) ∧
      0 < calendarDelay target s.now ∧ r.start ≠ espOk ∧ ¬ s.Bare := by
  constructor
  · rintro ⟨other, hother, _, h⟩
    obtain rfl := Option.some.inj (htarget.symm.trans hother)
    exact h
  · exact fun h => ⟨target, htarget, hget, h⟩

/-- **A `set_alarm` that returns 0** keeps what was there, unless it comes as far as starting the
timer with something to lose. -/
theorem setAlarm_keeps_iff (s : Calendar) (value : Option CalendarDateTime)
    (wakeFromLowPower : Int32) (r : CalendarSetResults)
    (hfailed : (bmxEsp32CalendarSetAlarm s value wakeFromLowPower r).1 = 0) :
    s.KeepsAlarm (bmxEsp32CalendarSetAlarm s value wakeFromLowPower r).2 ↔ ¬ s.Loses value r := by
  unfold bmxEsp32CalendarSetAlarm at hfailed ⊢
  cases htarget : bmxEsp32CalendarToTimeval value with
  | none =>
    refine iff_of_true (.refl s) ?_
    rintro ⟨target, hsome, _⟩
    exact absurd (htarget.symm.trans hsome) nofun
  | some target =>
  rw [htarget] at hfailed
  cases hget : r.gettimeofday with
  | false =>
    refine iff_of_true (.refl s) ?_
    rintro ⟨_, _, htrue, _⟩
    exact absurd (hget.symm.trans htrue) (by decide)
  | true =>
  simp only [hget, Bool.true_eq_false, if_false] at hfailed ⊢
  rw [loses_iff htarget hget]
  have hcreate := Calendar.create_keeps { s with calls := s.calls + 1 } r.create
  generalize Calendar.bmxEsp32CalendarAlarmCreate { s with calls := s.calls + 1 } r.create =
    result at hcreate hfailed ⊢
  obtain ⟨created, created'⟩ := result
  obtain ⟨hkeeps, hcreated⟩ := hcreate
  have hkept : s.KeepsAlarm created' :=
    ⟨hkeeps.timer, hkeeps.events, hkeeps.wakes, hkeeps.deadline⟩
  dsimp only at hfailed hcreated ⊢
  cases created with
  | false =>
    refine iff_of_true hkept ?_
    rintro ⟨halarm, _⟩
    exact absurd (hcreated.mpr halarm) (by decide)
  | true =>
  have halarm := hcreated.mp rfl
  by_cases hpast : calendarDelay target s.now ≤ 0
  · simp only [Bool.true_eq_false, if_false, hpast, if_true]
    refine iff_of_true hkept ?_
    rintro ⟨_, hfuture, _⟩
    omega
  simp only [Bool.true_eq_false, if_false, hpast] at hfailed ⊢
  generalize hstopped : (if created'.timer.isSome = true then created'.espTimerStop else created') =
    stopped at hfailed ⊢
  have htimer : stopped.timer = none := by
    rw [← hstopped]
    split
    · rfl
    next hinactive => exact Option.not_isSome_iff_eq_none.mp hinactive
  -- what is left is bare, so it was kept only if there was nothing before
  have hstart := (arm_failed_iff htimer _ _ _).mp hfailed
  rw [(arm_bare htimer hfailed).keepsAlarm_iff]
  constructor
  · exact fun hbare hlost => hlost.2.2.2 hbare
  · intro hkept
    by_contra hlost
    exact hkept ⟨halarm, by omega, hstart, hlost⟩

end Calendar

/-- **The alarm is absolute** as long as no write sets the clock back before its target: no event
was counted while the clock read earlier than the target.  A `set_alarm` that returns 0 keeps the
alarm, the count and the wake setting exactly when it does not fail with something to lose. -/
theorem calendar_alarm_absolute (s : CalendarSystem)
    (h : calendarMachine.ReachableIn (fun s a => ¬ SetsBack s a) s) :
    (∀ e ∈ s.calendar.counted, e.cause.target ≤ e.clock) ∧
    ∀ (value : Option CalendarDateTime) (wakeFromLowPower : Int32) (r : CalendarSetResults),
      (bmxEsp32CalendarSetAlarm s.calendar value wakeFromLowPower r).1 = 0 →
      (s.calendar.KeepsAlarm (bmxEsp32CalendarSetAlarm s.calendar value wakeFromLowPower r).2 ↔
        ¬ s.calendar.Loses value r) := by
  have hs : s.Punctual := by
    apply h.invariant (I := CalendarSystem.Punctual)
    · rintro s ⟨clock, monotonic, _, rfl⟩
      exact ⟨⟨nofun, nofun, nofun⟩, trivial⟩
    · intro s a s' hs hok hstep
      exact hs.step hok hstep
  exact ⟨hs.onTime.counted, s.calendar.setAlarm_keeps_iff⟩

/-- An alarm whose event was counted, and a `set_alarm` for the same time after it. -/
theorem calendar_alarm_absolute_set : ∃ s : CalendarSystem,
    (∃ e ∈ s.calendar.counted, e.cause.target = 1000000 ∧ 1000000 ≤ e.clock) ∧
    s.calendar.KeepsAlarm
      (bmxEsp32CalendarSetAlarm s.calendar (some (secondOf1970 1)) 0 {}).2 := by
  have hboot : calendarMachine.ReachableIn (fun s a => ¬ SetsBack s a) ⟨.boot 0 0, .idle⟩ :=
    .init ⟨0, 0, Int.le_refl 0, rfl⟩
  have hset := hboot.step (a := .setAlarm (some (secondOf1970 1)) 0 true) nofun rfl
  have hcreate := hset.step (a := .proceed espOk) nofun rfl
  have hactive := hcreate.step (a := .proceed espOk) nofun rfl
  have hclear := hactive.step (a := .proceed espOk) nofun rfl
  have hstore := hclear.step (a := .proceed espOk) nofun rfl
  have hstart := hstore.step (a := .proceed espOk) nofun rfl
  have hadvance := hstart.step (a := .advance 1000000) nofun rfl
  have hexpire := hadvance.step (a := .expire) nofun rfl
  have hcallback := hexpire.step (a := .callback) nofun rfl
  obtain ⟨hcounted, hkeeps⟩ := calendar_alarm_absolute _ hcallback
  have hevent := hcounted ⟨⟨0, 1000000, false⟩, some ⟨0, 1000000, false⟩, 1000000⟩
    (List.mem_singleton_self _)
  refine ⟨_, ⟨_, List.mem_singleton_self _, rfl, hevent⟩, (hkeeps _ 0 {} (by decide)).mpr ?_⟩
  rintro ⟨_, _, _, _, _, hfailed, _⟩
  exact hfailed rfl

/-- An alarm for second 1 is set in second 0, which is set once more when half of it has
passed. -/
def earlyEvent : List CalendarAction :=
  [.setAlarm (some (secondOf1970 1)) 0 true, .proceed espOk, .proceed espOk, .proceed espOk,
    .proceed espOk, .proceed espOk, .advance 500000, .start (some (secondOf1970 0)) true,
    .advance 500000, .expire, .callback]

/-- An alarm that wakes is set for second 1. -/
def armedAlarm : List CalendarAction :=
  [.setAlarm (some (secondOf1970 1)) 1 true, .proceed espOk, .proceed espOk, .proceed espOk,
    .proceed espOk, .proceed espOk]

/-- An event is counted half a second early, and a `set_alarm` that fails to start the timer loses
the alarm before it. -/
theorem calendar_alarm_relative :
    (∃ s, calendarMachine.Reachable s ∧
      ∃ e ∈ s.calendar.counted, e.cause.target = 1000000 ∧ e.clock = 500000) ∧
    ∃ s, calendarMachine.Reachable s ∧ s.task = .idle ∧
      (bmxEsp32CalendarSetAlarm s.calendar (some (secondOf1970 2)) 0
        { start := espErrInvalidState }).1 = 0 ∧
      ¬ s.calendar.KeepsAlarm (bmxEsp32CalendarSetAlarm s.calendar (some (secondOf1970 2)) 0
        { start := espErrInvalidState }).2 := by
  have hboot : calendarMachine.init ⟨.boot 0 0, .idle⟩ := ⟨0, 0, Int.le_refl 0, rfl⟩
  obtain ⟨s, hs, hp⟩ := exists_reachable_of_run earlyEvent (fun s : CalendarSystem =>
    decide (∃ e ∈ s.calendar.counted, e.cause.target = 1000000 ∧ e.clock = 500000)) hboot
      (by decide)
  have hset : calendarMachine.run ⟨.boot 0 0, .idle⟩ armedAlarm = some _ := rfl
  refine ⟨⟨s, hs, of_decide_eq_true hp⟩, _, reachable_of_run hboot hset, rfl, by decide, ?_⟩
  intro hkeeps
  exact absurd hkeeps.wakes (by decide)

/-! ### Setting the clock back -/

namespace Calendar

variable {s : Calendar}

/-- An event was counted before its target. -/
def CountedEarly (s : Calendar) : Prop := ∃ e ∈ s.counted, e.clock < e.cause.target

/-- The callback of an expiry that is early, while the count is not at its end. -/
theorem callback_early {alarm : CalendarAlarm} (hearly : s.clock < alarm.target)
    (hevents : s.state.alarmEvents ≠ 0xFFFFFFFF) :
    (s.bmxEsp32CalendarAlarmCallback alarm).CountedEarly := by
  refine ⟨⟨alarm, s.recent, s.clock⟩, ?_, hearly⟩
  unfold bmxEsp32CalendarAlarmCallback
  dsimp only
  rw [if_pos hevents]
  exact List.mem_append_right _ (List.mem_singleton_self _)

/-- The expiry of the timer, taken when `duration` has passed. -/
def expired (s : Calendar) (timer : CalendarTimer) (duration : Nat) : Calendar :=
  { s.advance duration with
    timer := none
    dispatched := some timer.alarm
    current := if s.current = some timer.alarm then none else s.current }

/-- A timer that is early: time passes until it expires, and its callback counts. -/
theorem timer_early {timer : CalendarTimer} (htimer : s.timer = some timer)
    (hdispatched : s.dispatched = none) (hevents : s.state.alarmEvents ≠ 0xFFFFFFFF)
    (hearly : s.clock + max 0 (timer.expiry - s.monotonic) < timer.alarm.target) :
    ∃ actions s', calendarMachine.run ⟨s, .idle⟩ actions = some ⟨s', .idle⟩ ∧ s'.CountedEarly := by
  generalize hduration : (timer.expiry - s.monotonic).toNat = duration
  have hexpire : (s.advance duration).expire = some (s.expired timer duration) := by
    have htimer' : (s.advance duration).timer = some timer := htimer
    have hdispatched' : (s.advance duration).dispatched = none := hdispatched
    have hexpired : timer.expiry ≤ (s.advance duration).monotonic := by
      show timer.expiry ≤ s.monotonic + duration
      omega
    unfold Calendar.expire
    rw [htimer', hdispatched']
    exact if_pos hexpired
  have hclock : (s.expired timer duration).clock < timer.alarm.target := by
    show s.clock + duration < timer.alarm.target
    omega
  refine ⟨[.advance duration, .expire, .callback],
    (s.expired timer duration).bmxEsp32CalendarAlarmCallback timer.alarm, ?_,
    callback_early hclock hevents⟩
  have hstep : calendarMachine.step ⟨s.advance duration, .idle⟩ .expire =
      some ⟨s.expired timer duration, .idle⟩ := by
    show (s.advance duration).expire.map _ = _
    rw [hexpire]
    rfl
  show (calendarMachine.step ⟨s.advance duration, .idle⟩ .expire).bind _ = _
  rw [hstep]
  rfl

/-- An early event after one more action. -/
theorem early_cons {a : CalendarAction} {s' : Calendar}
    (hstep : calendarMachine.step ⟨s, .idle⟩ a = some ⟨s', .idle⟩)
    (h : ∃ actions s'', calendarMachine.run ⟨s', .idle⟩ actions = some ⟨s'', .idle⟩ ∧
      s''.CountedEarly) :
    ∃ actions s'', calendarMachine.run ⟨s, .idle⟩ (a :: actions) = some ⟨s'', .idle⟩ ∧
      s''.CountedEarly := by
  obtain ⟨actions, s'', hrun, hearly⟩ := h
  refine ⟨actions, s'', ?_, hearly⟩
  rw [Machine.run, hstep]
  exact hrun

theorem callback_step {alarm : CalendarAlarm} (hdispatched : s.dispatched = some alarm) :
    calendarMachine.step ⟨s, .idle⟩ .callback =
      some ⟨s.bmxEsp32CalendarAlarmCallback alarm, .idle⟩ := by
  show s.dispatched.map _ = _
  rw [hdispatched]
  rfl

/-- An expiry in flight that is early. -/
theorem dispatched_early {alarm : CalendarAlarm} (hdispatched : s.dispatched = some alarm)
    (hevents : s.state.alarmEvents = 0) (hearly : s.clock < alarm.target) :
    ∃ actions s', calendarMachine.run ⟨s, .idle⟩ actions = some ⟨s', .idle⟩ ∧ s'.CountedEarly := by
  obtain ⟨actions, s', hrun, hs'⟩ := early_cons (callback_step hdispatched)
    ⟨[], _, rfl, callback_early hearly (by rw [hevents]; decide)⟩
  exact ⟨_, s', hrun, hs'⟩

/-- The callback of the expiry in flight, if there is one, is no obstacle to an early timer. -/
theorem timer_early_after {timer : CalendarTimer} (htimer : s.timer = some timer)
    (hevents : s.state.alarmEvents = 0)
    (hearly : s.clock + max 0 (timer.expiry - s.monotonic) < timer.alarm.target) :
    ∃ actions s', calendarMachine.run ⟨s, .idle⟩ actions = some ⟨s', .idle⟩ ∧ s'.CountedEarly := by
  cases hdispatched : s.dispatched with
  | none => exact timer_early htimer hdispatched (by rw [hevents]; decide) hearly
  | some alarm =>
    have hcounted : (s.bmxEsp32CalendarAlarmCallback alarm).state.alarmEvents = 1 := by
      unfold bmxEsp32CalendarAlarmCallback
      dsimp only
      rw [hevents]
      decide
    obtain ⟨actions, s', hrun, hs'⟩ := early_cons (callback_step hdispatched) <|
      timer_early (s := s.bmxEsp32CalendarAlarmCallback alarm) htimer rfl
        (by rw [hcounted]; decide) hearly
    exact ⟨_, s', hrun, hs'⟩

end Calendar

/-- **A write that sets the clock back** is followed, in some run, by an event before its target. -/
theorem calendar_alarm_early {calendar : Calendar} {value : Option CalendarDateTime}
    (h : SetsBack ⟨calendar, .idle⟩ (.start value true)) :
    ∃ actions s', calendarMachine.run ⟨calendar, .idle⟩ (.start value true :: actions) =
      some ⟨s', .idle⟩ ∧ s'.CountedEarly := by
  have hstart : ∀ time, bmxEsp32CalendarToTimeval value = some time →
      bmxEsp32CalendarStart calendar value true = (1, { calendar with
        clock := time.microseconds, state := { calendar.state with stopped := false } }) := by
    intro time htime
    unfold bmxEsp32CalendarStart
    rw [htime]
    rfl
  apply Calendar.early_cons rfl
  -- the count is taken first, so that it is not at its end
  have htake : calendarMachine.step ⟨(bmxEsp32CalendarStart calendar value true).2, .idle⟩
      .takeAlarmEvents =
        some ⟨(bmxEsp32CalendarStart calendar value true).2.clearEvents, .idle⟩ := rfl
  obtain ⟨actions, s', hrun, hs'⟩ := Calendar.early_cons htake <| by
    cases h with
    | timer htime htimer hearly =>
      rw [hstart _ htime]
      exact Calendar.timer_early_after htimer rfl hearly
    | dispatched htime hdispatched hearly =>
      rw [hstart _ htime]
      exact Calendar.dispatched_early hdispatched rfl hearly
  exact ⟨_, s', hrun, hs'⟩

end Esp32Mod
