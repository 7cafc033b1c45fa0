/-
Esp32Mod/CalendarEvents.lean

Which alarm a counted calendar event belongs to, and whether the alarm that was set wakes the
chip.  The callback carries no generation (those of `Alarm` do), and it clears the wake fields
whatever alarm they are of.  `set_alarm` and `disable_alarm` stop the timer and do not wait for
an expiry that the timer task has already taken.

`Overtakes` lists the steps by which a call gets ahead of such an expiry.

Main results:

* `calendar_alarm_attribution` — without such a step every event is that of the alarm that was set
  last, none is counted after a `disable_alarm`, and an alarm that wakes keeps its wake-up;
* `calendar_alarm_overtaken` — an event after a `disable_alarm`, and an alarm without its wake-up.
-/
import Esp32Mod.Calendar

namespace Esp32Mod

open StepMachine Machine

/-- The steps by which a call gets ahead of an expiry, or gives up the alarm it has stopped. -/
inductive Overtakes (s : CalendarSystem) : CalendarAction → Prop
  /-- `disable_alarm` returns before the callback of an expiry. -/
  | disable {stopping : Bool} {result : EspErr} (htask : s.task = .disabling .clear stopping)
      (hdispatched : s.calendar.dispatched ≠ none) : Overtakes s (.proceed result)
  /-- `set_alarm` starts the timer before the callback of an earlier expiry. -/
  | start {alarm : CalendarAlarm} {delay : Int} (htask : s.task = .setting .start alarm delay)
      (hdispatched : s.calendar.dispatched ≠ none) : Overtakes s (.proceed espOk)
  /-- `set_alarm` starts the timer after that callback has cleared what it had stored. -/
  | cleared {alarm : CalendarAlarm} {delay : Int} (htask : s.task = .setting .start alarm delay)
      (hwakes : alarm.wakes = true) (hcleared : s.calendar.state.alarmWakes = false) :
      Overtakes s (.proceed espOk)
  /-- `set_alarm` has stopped an alarm that wakes, and cannot start the timer again. -/
  | lost {alarm earlier : CalendarAlarm} {delay : Int} {result : EspErr}
      (htask : s.task = .setting .start alarm delay) (hresult : result ≠ espOk)
      (hcurrent : s.calendar.current = some earlier) (hwakes : earlier.wakes = true) :
      Overtakes s (.proceed result)

/-- Before any alarm has been set, nothing is in flight that a call could get ahead of. -/
theorem not_overtakes {s : CalendarSystem} {a : CalendarAction}
    (hdispatched : s.calendar.dispatched = none) (hcurrent : s.calendar.current = none)
    (hstored : ∀ alarm delay, s.task = .setting .start alarm delay →
      s.calendar.state.alarmWakes = true) : ¬ Overtakes s a := by
  intro h
  cases h with
  | disable _ hflight => exact hflight hdispatched
  | start _ hflight => exact hflight hdispatched
  | cleared htask _ hcleared =>
    exact absurd ((hstored _ _ htask).symm.trans hcleared) (by decide)
  | lost _ _ hearlier =>
    rw [hcurrent] at hearlier
    cases hearlier

/-- `set_alarm` has stored the wake fields of its own alarm over those of the one before. -/
def CalendarTask.stored : CalendarTask → Bool
  | .setting .start _ _ | .setting .clearWake _ _ => true
  | _ => false

/-! ### The invariant -/

/-- The wake fields hold a wake-up. -/
structure CalendarState.Stored (s : CalendarState) : Prop where
  wakes : s.alarmWakes = true
  deadline : s.alarmWakeDeadline ≠ 0

namespace Calendar

/-- An alarm that wakes has its wake-up until it expires. -/
def WakeKept (s : Calendar) : Prop :=
  ∀ alarm, s.current = some alarm → alarm.wakes = true → s.state.Stored

/-- The timer has been created, for a target that is not past. -/
structure Ready (s : Calendar) (delay : Int) : Prop where
  delay : 0 < delay
  alarm : s.state.alarm = true

/-- What holds at each step of a call. -/
def TaskOk (s : Calendar) : CalendarTask → Prop
  | .idle | .setting .create _ _ | .disabling .isActive _ | .disabling .stop _ => s.WakeKept
  | .setting .isActive _ delay | .setting .stop _ delay => s.Ready delay ∧ s.WakeKept
  | .setting .clearEvents _ delay | .setting .storeWake _ delay =>
    s.Ready delay ∧ s.timer = none ∧ s.WakeKept
  | .setting .start alarm delay => s.Ready delay ∧ s.timer = none ∧
      (alarm.wakes = true → s.state.alarmWakes = true → s.state.alarmWakeDeadline ≠ 0)
  | .setting .clearWake _ _ => ∀ earlier, s.current = some earlier → earlier.wakes = false
  | .disabling .clear _ => s.timer = none ∧ s.WakeKept

/-- The timer and the timer task hold the alarm that was set last, and every event was its. -/
structure Attributed (s : Calendar) : Prop where
  monotonic : 0 ≤ s.monotonic
  created : s.timer ≠ none → s.state.alarm = true
  timer : ∀ timer, s.timer = some timer → s.recent = some timer.alarm
  current : ∀ alarm, s.current = some alarm → s.recent = some alarm
  dispatched : ∀ alarm, s.dispatched = some alarm → s.recent = some alarm ∧ s.current = none
  events : s.recent = none → s.state.alarmEvents = 0
  counted : ∀ e ∈ s.counted, e.recent = some e.cause

variable {s s' : Calendar} {task : CalendarTask}

theorem WakeKept.of_current (h : s.current = none) : s.WakeKept := by
  intro alarm halarm
  rw [h] at halarm
  cases halarm

theorem TaskOk.wakeKept (h : s.TaskOk task) (hstored : task.stored = false) : s.WakeKept := by
  cases task with
  | idle => exact h
  | setting next alarm delay =>
    cases next with
    | create => exact h
    | isActive => exact h.2
    | stop => exact h.2
    | clearEvents => exact h.2.2
    | storeWake => exact h.2.2
    | start => cases hstored
    | clearWake => cases hstored
  | disabling next stopping =>
    cases next with
    | isActive => exact h
    | stop => exact h
    | clear => exact h.2

/-- A step of the timer task, or of time: no alarm becomes current, no timer active, and the wake
fields are cleared at most. -/
theorem TaskOk.mono (h : s.TaskOk task) (hkept : s.WakeKept → s'.WakeKept)
    (hcurrent : ∀ alarm, s'.current = some alarm → s.current = some alarm)
    (htimer : s.timer = none → s'.timer = none)
    (halarm : s.state.alarm = true → s'.state.alarm = true)
    (hstate : s'.state.alarmWakes = true → s.state.alarmWakes = true ∧
      s'.state.alarmWakeDeadline = s.state.alarmWakeDeadline) : s'.TaskOk task := by
  have hready : ∀ {delay}, s.Ready delay → s'.Ready delay :=
    fun hready => ⟨hready.delay, halarm hready.alarm⟩
  cases task with
  | idle => exact hkept h
  | setting next alarm delay =>
    cases next with
    | create => exact hkept h
    | isActive => exact ⟨hready h.1, hkept h.2⟩
    | stop => exact ⟨hready h.1, hkept h.2⟩
    | clearEvents => exact ⟨hready h.1, htimer h.2.1, hkept h.2.2⟩
    | storeWake => exact ⟨hready h.1, htimer h.2.1, hkept h.2.2⟩
    | start =>
      refine ⟨hready h.1, htimer h.2.1, ?_⟩
      intro hwakes hstored
      obtain ⟨hstored', hdeadline⟩ := hstate hstored
      rw [hdeadline]
      exact h.2.2 hwakes hstored'
    | clearWake => exact fun earlier hearlier => h earlier (hcurrent earlier hearlier)
  | disabling next stopping =>
    cases next with
    | isActive => exact hkept h
    | stop => exact hkept h
    | clear => exact ⟨htimer h.1, hkept h.2⟩

/-! ### The timer task -/

theorem Attributed.expire (h : s.Attributed) (hexpire : s.expire = some s') :
    s'.Attributed ∧ s'.current = none ∧ s'.timer = none ∧ s'.state = s.state := by
  unfold Calendar.expire at hexpire
  split at hexpire
  next timer hnone htimer =>
    split at hexpire
    · obtain rfl := Option.some.inj hexpire
      have hrecent := h.timer timer htimer
      have hcurrent : (if s.current = some timer.alarm then none else s.current) = none := by
        split
        · rfl
        next hother =>
          rw [Option.eq_none_iff_forall_ne_some]
          intro alarm halarm
          exact hother (halarm.trans ((h.current alarm halarm).symm.trans hrecent))
      refine ⟨⟨h.monotonic, fun hne => absurd rfl hne, nofun, ?_, ?_, h.events, h.counted⟩,
        hcurrent, rfl, rfl⟩
      · intro alarm halarm
        exact absurd (hcurrent.symm.trans halarm) nofun
      · intro alarm halarm
        obtain rfl := Option.some.inj halarm
        exact ⟨hrecent, hcurrent⟩
    · cases hexpire
  next => cases hexpire

theorem Attributed.callback (h : s.Attributed) {alarm : CalendarAlarm}
    (hdispatched : s.dispatched = some alarm) :
    (s.bmxEsp32CalendarAlarmCallback alarm).Attributed := by
  obtain ⟨hrecent, _⟩ := h.dispatched alarm hdispatched
  refine ⟨h.monotonic, h.created, h.timer, h.current, nofun, ?_, ?_⟩
  · intro hnone
    rw [show s.recent = none from hnone] at hrecent
    cases hrecent
  · intro e he
    unfold bmxEsp32CalendarAlarmCallback at he
    dsimp only at he
    split at he
    · rcases List.mem_append.mp he with he | he
      · exact h.counted e he
      · rw [List.mem_singleton.mp he]
        exact hrecent
    · exact h.counted e he

/-! ### The steps of the calls -/

/-- Only the clock, the flags outside the wake fields and the count have changed. -/
structure Same (s s' : Calendar) : Prop where
  monotonic : s.monotonic ≤ s'.monotonic
  alarm : s.state.alarm = true → s'.state.alarm = true
  timer : s'.timer = s.timer
  dispatched : s'.dispatched = s.dispatched
  recent : s'.recent = s.recent
  current : s'.current = s.current
  counted : s'.counted = s.counted
  wakes : s'.state.alarmWakes = s.state.alarmWakes
  deadline : s'.state.alarmWakeDeadline = s.state.alarmWakeDeadline
  events : s'.state.alarmEvents = s.state.alarmEvents ∨ s'.state.alarmEvents = 0

theorem Attributed.same (h : s.Attributed) (hsame : s.Same s') : s'.Attributed := by
  refine ⟨Int.le_trans h.monotonic hsame.monotonic, ?_, ?_, ?_, ?_, ?_, ?_⟩
  · rw [hsame.timer]
    exact fun hactive => hsame.alarm (h.created hactive)
  · rw [hsame.timer, hsame.recent]
    exact h.timer
  · rw [hsame.current, hsame.recent]
    exact h.current
  · rw [hsame.dispatched, hsame.recent, hsame.current]
    exact h.dispatched
  · intro hnone
    rw [hsame.recent] at hnone
    rcases hsame.events with heq | hzero
    · rw [heq]
      exact h.events hnone
    · exact hzero
  · rw [hsame.counted]
    exact h.counted

theorem WakeKept.same (h : s.WakeKept) (hsame : s.Same s') : s'.WakeKept := by
  intro alarm halarm hwakes
  rw [hsame.current] at halarm
  obtain ⟨hstored, hdeadline⟩ := h alarm halarm hwakes
  exact ⟨hsame.wakes.trans hstored, by rw [hsame.deadline]; exact hdeadline⟩

theorem same_create (s : Calendar) (create : EspErr) :
    s.Same (s.bmxEsp32CalendarAlarmCreate create).2 := by
  unfold bmxEsp32CalendarAlarmCreate
  split
  · exact ⟨Int.le_refl _, id, rfl, rfl, rfl, rfl, rfl, rfl, rfl, Or.inl rfl⟩
  next hnew =>
    exact ⟨Int.le_refl _, fun halarm => absurd halarm hnew, rfl, rfl, rfl, rfl, rfl, rfl, rfl,
      Or.inl rfl⟩

/-- A timer that could be created is there. -/
theorem create_done {create : EspErr} (h : (s.bmxEsp32CalendarAlarmCreate create).1 ≠ false) :
    (s.bmxEsp32CalendarAlarmCreate create).2.state.alarm = true := by
  unfold bmxEsp32CalendarAlarmCreate at h ⊢
  split
  next halarm => exact halarm
  next hnew =>
    rw [if_neg hnew, Bool.ne_false_iff] at h
    exact h

theorem same_clearEvents (s : Calendar) : s.Same s.clearEvents :=
  ⟨Int.le_refl _, id, rfl, rfl, rfl, rfl, rfl, rfl, rfl, Or.inr rfl⟩

/-- The timer is stopped; the alarm stays the current one. -/
theorem Attributed.stop (h : s.Attributed) : s.espTimerStop.Attributed :=
  ⟨h.monotonic, fun hne => absurd rfl hne, nofun, h.current, h.dispatched, h.events, h.counted⟩

/-- The wake fields are no concern of the attribution. -/
theorem Attributed.wake (h : s.Attributed) (wakes : Bool) (deadline : Int) :
    Attributed { s with state := { s.state with
      alarmWakes := wakes, alarmWakeDeadline := deadline } } :=
  ⟨h.monotonic, h.created, h.timer, h.current, h.dispatched, h.events, h.counted⟩

/-- A started timer: nothing is in flight that could be taken for it. -/
theorem Attributed.armed (h : s.Attributed) (hdispatched : s.dispatched = none) {delay : Int}
    (hready : s.Ready delay) (alarm : CalendarAlarm) : (s.armed alarm delay).Attributed := by
  refine ⟨h.monotonic, fun _ => hready.alarm, ?_, fun _ halarm => halarm, ?_, nofun, h.counted⟩
  · intro timer htimer
    obtain rfl := Option.some.inj htimer
    rfl
  · intro earlier hearlier
    exact absurd (hdispatched.symm.trans hearlier) nofun

theorem Attributed.disabled (h : s.Attributed) (hdispatched : s.dispatched = none)
    (htimer : s.timer = none) : s.disabled.Attributed := by
  refine ⟨h.monotonic, fun hactive => absurd htimer hactive, ?_, nofun, ?_, fun _ => rfl,
    h.counted⟩
  · intro timer hactive
    exact absurd (htimer.symm.trans hactive) nofun
  · intro alarm halarm
    exact absurd (hdispatched.symm.trans halarm) nofun

end Calendar

namespace CalendarSystem

open Calendar

variable {s s' : CalendarSystem}

/-- What is armed, taken or under way is what the events will be of. -/
structure Inv (s : CalendarSystem) : Prop where
  attributed : s.calendar.Attributed
  task : s.calendar.TaskOk s.task

section SetAlarm

variable {calendar : Calendar} {alarm : CalendarAlarm} {delay : Int} {result : EspErr}

/-- The timer is created, or the call ends. -/
theorem Inv.create (h : Inv ⟨calendar, .setting .create alarm delay⟩) :
    (calendar.setStep .create alarm delay result).Inv := by
  obtain ⟨hattributed, htask⟩ := h
  dsimp only at hattributed htask
  have hsame := calendar.same_create result
  have hattributed' := hattributed.same hsame
  have hkept := WakeKept.same htask hsame
  unfold Calendar.setStep
  dsimp only
  split
  · exact ⟨hattributed', hkept⟩
  next hcreated =>
  split
  · exact ⟨hattributed', hkept⟩
  next hdelay => exact ⟨hattributed', ⟨Int.not_le.mp hdelay, create_done hcreated⟩, hkept⟩

/-- The timer is started, with nothing in flight and the wake fields as the call has stored
them; or it is not, and no earlier alarm is lost that wakes. -/
theorem Inv.start (h : Inv ⟨calendar, .setting .start alarm delay⟩)
    (hok : ¬ Overtakes ⟨calendar, .setting .start alarm delay⟩ (.proceed result)) :
    (calendar.setStep .start alarm delay result).Inv := by
  obtain ⟨hattributed, hready, htimer, hdeadline⟩ := h
  dsimp only at hattributed hready htimer hdeadline
  have hstart : calendar.espTimerStartOnce result = result := by
    rw [espTimerStartOnce, htimer]
    rfl
  unfold Calendar.setStep
  dsimp only
  rw [hstart]
  split
  next hfailed =>
    refine ⟨hattributed, ?_⟩
    intro earlier hearlier
    rw [← Bool.not_eq_true]
    exact fun hwakes => hok (.lost rfl hfailed hearlier hwakes)
  next hstarted =>
    rw [not_not] at hstarted
    subst hstarted
    have hdispatched : calendar.dispatched = none := by
      by_contra hflight
      exact hok (.start rfl hflight)
    refine ⟨hattributed.armed hdispatched hready alarm, ?_⟩
    intro current hcurrent hwakes
    obtain rfl := Option.some.inj hcurrent
    have hstored : calendar.state.alarmWakes = true := by
      rw [← Bool.not_eq_false]
      exact fun hcleared => hok (.cleared rfl hwakes hcleared)
    exact ⟨hstored, hdeadline hwakes hstored⟩

theorem Inv.setStep {next : CalendarSetStep} (h : Inv ⟨calendar, .setting next alarm delay⟩)
    (hok : ¬ Overtakes ⟨calendar, .setting next alarm delay⟩ (.proceed result)) :
    (calendar.setStep next alarm delay result).Inv := by
  have hattributed : calendar.Attributed := h.attributed
  have htask := h.task
  dsimp only at htask
  cases next with
  | create => exact h.create
  | isActive =>
    unfold Calendar.setStep
    dsimp only
    split
    · exact ⟨hattributed, htask⟩
    next hinactive =>
      rw [Option.not_isSome_iff_eq_none] at hinactive
      exact ⟨hattributed, htask.1, hinactive, htask.2⟩
  | stop => exact ⟨hattributed.stop, ⟨htask.1.delay, htask.1.alarm⟩, rfl, htask.2⟩
  | clearEvents =>
    have hsame := calendar.same_clearEvents
    exact ⟨hattributed.same hsame, ⟨htask.1.delay, htask.1.alarm⟩, htask.2.1,
      WakeKept.same htask.2.2 hsame⟩
  | storeWake =>
    refine ⟨hattributed.wake _ _, ⟨htask.1.delay, htask.1.alarm⟩, htask.2.1, ?_⟩
    intro hwakes _
    -- the deadline is after the start, so it is not the 0 of no deadline
    show (if alarm.wakes = true then calendar.monotonic + delay else 0) ≠ 0
    rw [if_pos hwakes]
    have hdelay := htask.1.delay
    have hmonotonic := hattributed.monotonic
    omega
  | start => exact h.start hok
  | clearWake =>
    refine ⟨hattributed.wake false 0, ?_⟩
    intro earlier hearlier hwakes
    exact absurd (hwakes.symm.trans (htask earlier hearlier)) (by decide)

end SetAlarm

theorem Inv.disableStep {calendar : Calendar} {next : CalendarDisableStep} {stopping : Bool}
    (h : Inv ⟨calendar, .disabling next stopping⟩) {result : EspErr}
    (hok : ¬ Overtakes ⟨calendar, .disabling next stopping⟩ (.proceed result)) :
    (calendar.disableStep next stopping).Inv := by
  obtain ⟨hattributed, htask⟩ := h
  dsimp only at hattributed htask
  cases next with
  | isActive =>
    unfold Calendar.disableStep
    dsimp only
    split
    · exact ⟨hattributed, htask⟩
    next hinactive =>
      refine ⟨hattributed, ?_, htask⟩
      show calendar.timer = none
      by_contra hactive
      exact hinactive ⟨hattributed.created hactive, Option.isSome_iff_ne_none.mpr hactive⟩
  | stop => exact ⟨hattributed.stop, rfl, htask⟩
  | clear =>
    have hdispatched : calendar.dispatched = none := by
      by_contra hflight
      exact hok (.disable rfl hflight)
    have hdisabled := hattributed.disabled hdispatched htask.1
    have hkept : calendar.disabled.WakeKept := WakeKept.of_current rfl
    unfold Calendar.disableStep
    dsimp only
    split
    · have hsame : calendar.disabled.Same { calendar.disabled with
          state := { calendar.disabled.state with stopped := true } } :=
        ⟨Int.le_refl _, id, rfl, rfl, rfl, rfl, rfl, rfl, rfl, Or.inl rfl⟩
      exact ⟨hdisabled.same hsame, hkept.same hsame⟩
    · exact ⟨hdisabled, hkept⟩

/-- A call begins, or is one section only. -/
theorem Inv.enter {calendar : Calendar} (h : Inv ⟨calendar, .idle⟩) {a : CalendarAction}
    (henter : enter calendar a = some s') : s'.Inv := by
  obtain ⟨hattributed, htask⟩ := h
  dsimp only at hattributed htask
  -- setting the clock, and numbering a call, change nothing that an event is attributed by
  cases a with
  | start value settimeofday =>
    obtain rfl := Option.some.inj henter
    have hsame : calendar.Same (bmxEsp32CalendarStart calendar value settimeofday).2 := by
      unfold bmxEsp32CalendarStart
      split
      · exact ⟨Int.le_refl _, id, rfl, rfl, rfl, rfl, rfl, rfl, rfl, Or.inl rfl⟩
      · split <;> exact ⟨Int.le_refl _, id, rfl, rfl, rfl, rfl, rfl, rfl, rfl, Or.inl rfl⟩
    exact ⟨hattributed.same hsame, WakeKept.same htask hsame⟩
  | setAlarm value wakeFromLowPower gettimeofday =>
    have hsame : calendar.Same { calendar with calls := calendar.calls + 1 } :=
      ⟨Int.le_refl _, id, rfl, rfl, rfl, rfl, rfl, rfl, rfl, Or.inl rfl⟩
    unfold CalendarSystem.enter at henter
    dsimp only at henter
    split at henter
    · obtain rfl := Option.some.inj henter
      exact ⟨hattributed, htask⟩
    split at henter
    · obtain rfl := Option.some.inj henter
      exact ⟨hattributed, htask⟩
    · obtain rfl := Option.some.inj henter
      exact ⟨hattributed.same hsame, WakeKept.same htask hsame⟩
  | disableAlarm stopping =>
    obtain rfl := Option.some.inj henter
    exact ⟨hattributed, htask⟩
  | takeAlarmEvents =>
    obtain rfl := Option.some.inj henter
    have hsame := calendar.same_clearEvents
    exact ⟨hattributed.same hsame, WakeKept.same htask hsame⟩
  | advance duration => cases henter
  | proceed result => cases henter
  | expire => cases henter
  | callback => cases henter

/-- Time passes. -/
theorem Inv.advance (h : s.Inv) (duration : Nat) :
    Inv { s with calendar := s.calendar.advance duration } := by
  have hsame : s.calendar.Same (s.calendar.advance duration) := by
    refine ⟨?_, id, rfl, rfl, rfl, rfl, rfl, rfl, rfl, Or.inl rfl⟩
    show s.calendar.monotonic ≤ s.calendar.monotonic + duration
    omega
  exact ⟨h.attributed.same hsame, h.task.mono (fun hkept => hkept.same hsame)
    (fun _ halarm => halarm) id id fun hwakes => ⟨hwakes, rfl⟩⟩

theorem Inv.step {a : CalendarAction} (h : s.Inv) (hok : ¬ Overtakes s a)
    (hstep : s.step a = some s') : s'.Inv := by
  cases step_cases hstep with
  | advance duration => exact h.advance duration
  | setting htask result =>
    obtain ⟨calendar, task⟩ := s
    obtain rfl : task = _ := htask
    exact h.setStep hok
  | disabling htask result =>
    obtain ⟨calendar, task⟩ := s
    obtain rfl : task = _ := htask
    exact h.disableStep hok
  | expire hexpire =>
    obtain ⟨hattributed, hcurrent, htimer, hstate⟩ := h.attributed.expire hexpire
    refine ⟨hattributed, h.task.mono (fun _ => WakeKept.of_current hcurrent) ?_
      (fun _ => htimer) ?_ ?_⟩
    · intro alarm halarm
      exact absurd (hcurrent.symm.trans halarm) nofun
    · rw [hstate]
      exact id
    · rw [hstate]
      exact fun hwakes => ⟨hwakes, rfl⟩
  | callback hdispatched =>
    have hcurrent := (h.attributed.dispatched _ hdispatched).2
    exact ⟨h.attributed.callback hdispatched, h.task.mono
      (fun _ => WakeKept.of_current hcurrent) (fun _ halarm => halarm) id id nofun⟩
  | enter hidle henter =>
    obtain ⟨calendar, task⟩ := s
    obtain rfl : task = _ := hidle
    exact h.enter henter

end CalendarSystem

/-- With a wake-up stored, light sleep arms its own. -/
theorem CalendarState.Stored.wakes_up {s : CalendarState} (h : s.Stored) (now : Int) :
    bmxEsp32CalendarWakeDelayUs s now ≠ -1 ∧ ∀ requested : Int, requested ≠ 0 →
      ∃ delay, bmxEsp32PowerLightSleepDelay s now requested = some delay ∧
        delay ≤ bmxEsp32CalendarWakeDelayUs s now := by
  have hstored : ¬ (s.alarmWakes = false ∨ s.alarmWakeDeadline = 0) := by
    rintro (hfalse | hzero)
    · exact absurd (h.wakes.symm.trans hfalse) (by decide)
    · exact h.deadline hzero
  have hpos : 0 < bmxEsp32CalendarWakeDelayUs s now := by
    unfold bmxEsp32CalendarWakeDelayUs
    rw [if_neg hstored]
    dsimp only
    split <;> omega
  refine ⟨by omega, ?_⟩
  intro requested hrequested
  unfold bmxEsp32PowerLightSleepDelay
  generalize bmxEsp32CalendarWakeDelayUs s now = calendarDelay at hpos
  dsimp only
  by_cases hearlier : 0 < calendarDelay ∧ (requested < 0 ∨ calendarDelay < requested)
  · rw [if_pos hearlier, if_pos hpos]
    exact ⟨calendarDelay, rfl, Int.le_refl _⟩
  · rw [if_neg hearlier, if_pos (by omega)]
    exact ⟨requested, rfl, by omega⟩

/-- **Events and wake-ups belong to the alarm that was set last.**  As long as no call gets ahead
of an expiry, every event that was counted was caused by the alarm that was set last and not
disabled; after a `disable_alarm` none is pending; and an alarm that wakes, and has neither expired
nor been disabled, has a wake-up, which light sleep arms, until a `set_alarm` replaces it. -/
theorem calendar_alarm_attribution (s : CalendarSystem)
    (h : calendarMachine.ReachableIn (fun s a => ¬ Overtakes s a) s) :
    (∀ e ∈ s.calendar.counted, e.recent = some e.cause) ∧
    (s.calendar.recent = none → s.calendar.state.alarmEvents = 0) ∧
    (s.task.stored = false → ∀ alarm, s.calendar.current = some alarm → alarm.wakes = true →
      ∀ now, bmxEsp32CalendarWakeDelayUs s.calendar.state now ≠ -1 ∧
        ∀ requested : Int, requested ≠ 0 →
          ∃ delay, bmxEsp32PowerLightSleepDelay s.calendar.state now requested = some delay ∧
            delay ≤ bmxEsp32CalendarWakeDelayUs s.calendar.state now) := by
  have hs : s.Inv := by
    apply h.invariant (I := CalendarSystem.Inv)
    · rintro s ⟨clock, monotonic, hmonotonic, rfl⟩
      refine ⟨⟨hmonotonic, fun hne => absurd rfl hne, nofun, nofun, nofun, fun _ => rfl, nofun⟩, ?_⟩
      exact Calendar.WakeKept.of_current rfl
    · intro s a s' hs hok hstep
      exact hs.step hok hstep
  refine ⟨hs.attributed.counted, hs.attributed.events, ?_⟩
  intro hstored alarm hcurrent hwakes now
  exact (hs.task.wakeKept hstored alarm hcurrent hwakes).wakes_up now

/-- An alarm that wakes has been set. -/
theorem calendar_alarm_attribution_set : ∃ s : CalendarSystem, s.task = .idle ∧
    s.calendar.current = some ⟨0, 1000000, true⟩ ∧
      bmxEsp32CalendarWakeDelayUs s.calendar.state 0 ≠ -1 := by
  have hboot : calendarMachine.ReachableIn (fun s a => ¬ Overtakes s a) ⟨.boot 0 0, .idle⟩ :=
    .init ⟨0, 0, Int.le_refl 0, rfl⟩
  have hset := hboot.step (a := .setAlarm (some (secondOf1970 1)) 1 true)
    (not_overtakes rfl rfl nofun) rfl
  have hcreate := hset.step (a := .proceed espOk) (not_overtakes rfl rfl nofun) rfl
  have hactive := hcreate.step (a := .proceed espOk) (not_overtakes rfl rfl nofun) rfl
  have hclear := hactive.step (a := .proceed espOk) (not_overtakes rfl rfl nofun) rfl
  have hstore := hclear.step (a := .proceed espOk) (not_overtakes rfl rfl nofun) rfl
  have hstart := hstore.step (a := .proceed espOk) (not_overtakes rfl rfl fun _ _ _ => rfl) rfl
  exact ⟨_, rfl, rfl, ((calendar_alarm_attribution _ hstart).2.2 rfl _ rfl rfl 0).1⟩

/-- An alarm that wakes is set, and its second passes. -/
def setFirstAlarm : List CalendarAction :=
  [.setAlarm (some (secondOf1970 1)) 1 true, .proceed espOk, .proceed espOk, .proceed espOk,
    .proceed espOk, .proceed espOk, .advance 1000000]

/-- It expires, it is disabled, and its callback comes last. -/
def lateEvent : List CalendarAction :=
  setFirstAlarm ++ [.expire, .disableAlarm false, .proceed espOk, .proceed espOk, .callback]

/-- It expires, and its callback comes between the store and the start of the next alarm. -/
def lostWake : List CalendarAction :=
  setFirstAlarm ++ [.expire, .setAlarm (some (secondOf1970 3)) 1 true, .proceed espOk,
    .proceed espOk, .proceed espOk, .proceed espOk, .callback, .proceed espOk]

/-- An event is pending although the alarm was disabled, and an alarm that wakes has no wake-up. -/
theorem calendar_alarm_overtaken :
    (∃ s, calendarMachine.Reachable s ∧ s.task = .idle ∧ s.calendar.recent = none ∧
      s.calendar.state.alarmEvents = 1) ∧
    ∃ s, calendarMachine.Reachable s ∧ s.task = .idle ∧
      s.calendar.current = some ⟨1, 3000000, true⟩ ∧
      bmxEsp32CalendarWakeDelayUs s.calendar.state s.calendar.monotonic = -1 := by
  have hboot : calendarMachine.init ⟨.boot 0 0, .idle⟩ := ⟨0, 0, Int.le_refl 0, rfl⟩
  obtain ⟨s, hs, hp⟩ := exists_reachable_of_run lateEvent (fun s : CalendarSystem =>
    decide (s.task = .idle ∧ s.calendar.recent = none ∧ s.calendar.state.alarmEvents = 1)) hboot
      (by decide)
  obtain ⟨s', hs', hp'⟩ := exists_reachable_of_run lostWake (fun s : CalendarSystem =>
    decide (s.task = .idle ∧ s.calendar.current = some ⟨1, 3000000, true⟩ ∧
      bmxEsp32CalendarWakeDelayUs s.calendar.state s.calendar.monotonic = -1)) hboot (by decide)
  exact ⟨⟨s, hs, of_decide_eq_true hp⟩, s', hs', of_decide_eq_true hp'⟩

end Esp32Mod
