/-
Esp32Mod/AlarmClock.lean

The arithmetic of the alarms (`runtime.mod/native/esp32_time.c`).  The deadline of an alarm is
moved on by every callback, in unsigned words and without a look at the clock, and the time that
remains is cast to signed ones.

The machine runs the tasks of `Esp32Mod.AlarmEvents` beside a clock.  The timers are left out of
account: a step may replace all that `esp_timer` holds, so a callback can come to any slot at any
time.  Outside the source the state records what each slot was scheduled for, and how many
callbacks have found that alarm ARMED; a run is in time if none of them comes before it is due.

Main results:

* `AlarmSchedule.OnTime.due_le` — a schedule that is followed in time is never further ahead of
  the clock than its delay or its interval;
* `alarm_remaining` — so no deadline wraps, and the remaining time is exact in both widths;
* `alarm_remaining_invalid_context` — outside of a valid context it is -1 for any alarm.
-/
import Esp32Mod.AlarmEvents
import Mathlib.Algebra.Order.Ring.Int

namespace Esp32Mod

open StepMachine Machine

variable {c : AlarmCapacity}

/-! ### Schedules -/

/-- What an alarm is scheduled for, and the callbacks since then. -/
structure AlarmSchedule where
  start : Nat
  delay : Nat
  interval : Nat
  callbacks : Nat

namespace AlarmSchedule

/-- When the next callback is due. -/
def due (alarm : AlarmSchedule) : Nat := alarm.start + alarm.delay + alarm.callbacks * alarm.interval

/-- One callback more. -/
def next (alarm : AlarmSchedule) : AlarmSchedule := { alarm with callbacks := alarm.callbacks + 1 }

/-- What `bmx_esp32_alarm_schedule` accepts. -/
structure Accepted (alarm : AlarmSchedule) : Prop where
  delay : 0 < alarm.delay
  horizon : alarm.start + alarm.delay < 2 ^ 63
  interval : alarm.interval < 2 ^ 63

/-- The alarm has been scheduled, and its last callback was due. -/
structure OnTime (alarm : AlarmSchedule) (clock : Nat) : Prop where
  started : alarm.start ≤ clock
  last : alarm.callbacks ≠ 0 →
    alarm.start + alarm.delay + (alarm.callbacks - 1) * alarm.interval ≤ clock

variable {alarm : AlarmSchedule} {clock clock' : Nat}

theorem due_next (alarm : AlarmSchedule) : alarm.next.due = alarm.due + alarm.interval := by
  show alarm.start + alarm.delay + (alarm.callbacks + 1) * alarm.interval = _
  rw [Nat.succ_mul, due]
  omega

theorem Accepted.due_pos (h : alarm.Accepted) : 0 < alarm.due := by
  have hdelay := h.delay
  rw [due]
  omega

theorem OnTime.mono (h : alarm.OnTime clock) (hle : clock ≤ clock') : alarm.OnTime clock' :=
  ⟨h.started.trans hle, fun hfired => (h.last hfired).trans hle⟩

/-- A callback that comes when it is due. -/
theorem OnTime.next (h : alarm.OnTime clock) (hdue : alarm.due ≤ clock) :
    alarm.next.OnTime clock :=
  ⟨h.started, fun _ => hdue⟩

/-- **A schedule that is followed in time is not far ahead of the clock.** -/
theorem OnTime.due_le (h : alarm.OnTime clock) :
    alarm.due ≤ clock + max alarm.delay alarm.interval := by
  have hstarted := h.started
  rw [due]
  rcases hcount : alarm.callbacks with - | k
  · -- no callback yet: the delay is ahead
    have hdelay := Nat.le_max_left alarm.delay alarm.interval
    omega
  · -- the last callback was due, one interval ago
    have hlast := h.last (by omega)
    rw [hcount, Nat.add_sub_cancel] at hlast
    have hinterval := Nat.le_max_right alarm.delay alarm.interval
    rw [Nat.succ_mul]
    omega

theorem Accepted.ahead_lt (h : alarm.Accepted) : max alarm.delay alarm.interval < 2 ^ 63 := by
  have hhorizon := h.horizon
  exact Nat.max_lt.mpr ⟨by omega, h.interval⟩

/-- No deadline wraps. -/
theorem OnTime.due_lt (h : alarm.OnTime clock) (haccepted : alarm.Accepted)
    (hclock : clock < 2 ^ 63) : alarm.due < 2 ^ 64 := by
  have hdue := h.due_le
  have hmax := haccepted.ahead_lt
  omega

end AlarmSchedule

/-! ### Tasks and a clock -/

/-- The tasks, the clock, and what each armed alarm was scheduled for. -/
structure AlarmClock (c : AlarmCapacity) where
  tasks : AlarmTasks c
  clock : UInt64
  alarms : Fin c.size → Option AlarmSchedule

/-- The steps of the tasks, of the timers and of the clock. -/
inductive AlarmClockStep (c : AlarmCapacity)
  | task (a : AlarmTaskStep c)
  /-- The timers, and the expiry that the timer task has taken, are anything. -/
  | espTimer (timers : Fin c.size → EspTimer) (dispatched : Option (Fin c.size × TimerStart))
  | tick (clock : UInt64)

namespace AlarmClock

/-- What the slots are scheduled for, after a step of the tasks. -/
def noted (s : AlarmClock c) : AlarmTaskStep c → Fin c.size → Option AlarmSchedule
  | .schedule contextValid now delayUs intervalUs =>
    if alarmAcceptable contextValid now delayUs intervalUs = true then
      match scheduleReserve s.tasks.table now delayUs intervalUs with
      | none => s.alarms
      | some (i, _) =>
        Function.update s.alarms i (some ⟨now.toNat, delayUs.toNat, intervalUs.toNat, 0⟩)
    else s.alarms
  | .callback =>
    match s.tasks.dispatched with
    | none => s.alarms
    | some (i, _) =>
      -- a callback that does not find the slot ARMED is not one of its alarm
      if (s.tasks.table.slots i).state = .armed then
        Function.update s.alarms i ((s.alarms i).map AlarmSchedule.next)
      else s.alarms
  | _ => s.alarms

/-- The clock may be anything after a step. -/
def step (s : AlarmClock c) : AlarmClockStep c → Option (AlarmClock c)
  | .task a => (s.tasks.step a).map fun tasks => { s with tasks := tasks, alarms := s.noted a }
  | .espTimer timers dispatched =>
    some { s with tasks := { s.tasks with timers := timers, dispatched := dispatched } }
  | .tick clock => some { s with clock := clock }

/-- The clock goes on, below `2 ^ 63`; `schedule` has read it before it reserves the slot; and no
callback of an alarm comes before it is due. -/
def InTime (s : AlarmClock c) : AlarmClockStep c → Prop
  | .tick clock => s.clock ≤ clock ∧ clock.toNat < 2 ^ 63
  | .task (.schedule _ now _ _) => now ≤ s.clock
  | .task .callback => ∀ i st alarm, s.tasks.dispatched = some (i, st) →
      (s.tasks.table.slots i).state = .armed → s.alarms i = some alarm →
      alarm.due ≤ s.clock.toNat
  | _ => True

end AlarmClock

/-- From a clock below 2^63 microseconds. -/
def alarmClockMachine (c : AlarmCapacity) : Machine (AlarmClock c) (AlarmClockStep c) where
  init s := s.tasks = .boot ∧ s.clock.toNat < 2 ^ 63 ∧ s.alarms = fun _ => none
  step := AlarmClock.step

/-! ### What the sections do to the deadlines -/

/-- No deadline and no interval changes, and no slot comes into use but one that is to be
armed. -/
structure Steady (arming : Option (Fin c.size)) (t t' : AlarmTable c) : Prop where
  interval : ∀ i, (t'.slots i).intervalUs = (t.slots i).intervalUs
  deadline : ∀ i, (t'.slots i).nextDeadlineUs = (t.slots i).nextDeadlineUs
  used : ∀ i, (t'.slots i).state ≠ .free → (t.slots i).state ≠ .free ∨ arming = some i

theorem Steady.refl (arming : Option (Fin c.size)) (t : AlarmTable c) : Steady arming t t :=
  ⟨fun _ => rfl, fun _ => rfl, fun _ => .inl⟩

theorem steady_set {arming : Option (Fin c.size)} (t : AlarmTable c) (i : Fin c.size)
    {f : BMXESP32AlarmSlot → BMXESP32AlarmSlot}
    (hinterval : (f (t.slots i)).intervalUs = (t.slots i).intervalUs)
    (hdeadline : (f (t.slots i)).nextDeadlineUs = (t.slots i).nextDeadlineUs)
    (hused : (f (t.slots i)).state ≠ .free → (t.slots i).state ≠ .free ∨ arming = some i) :
    Steady arming t (t.set i f) := by
  refine ⟨?_, ?_, ?_⟩ <;> intro j <;> by_cases hj : j = i
  · rw [hj, t.slots_set_self, hinterval]
  · rw [t.slots_set_of_ne hj]
  · rw [hj, t.slots_set_self, hdeadline]
  · rw [t.slots_set_of_ne hj]
  · rw [hj, t.slots_set_self]
    exact hused
  · rw [t.slots_set_of_ne hj]
    exact .inl

theorem steady_cancelBegin {t t' : AlarmTable c} {handle : Int32} {i : Fin c.size}
    {wasArmed : Bool} (h : cancelBegin t handle = some (i, wasArmed, t')) :
    Steady none t t' := by
  rcases hi : bmxEsp32AlarmSlotLocked t handle with - | j
  · simp [cancelBegin, hi] at h
  have hused := (slotLocked_eq_some_iff.mp hi).2.2
  simp only [cancelBegin, hi] at h
  split_ifs at h
  obtain ⟨rfl, -, rfl⟩ := by simpa using h
  exact steady_set t j rfl rfl fun _ => .inl hused

theorem steady_takeBegin (t : AlarmTable c) (handle : Int32) :
    Steady none t (takeBegin t handle).2.2 := by
  rcases hi : bmxEsp32AlarmSlotLocked t handle with - | i
  · simp only [takeBegin, hi]
    exact .refl none t
  have hused := (slotLocked_eq_some_iff.mp hi).2.2
  simp only [takeBegin, hi]
  split
  · exact steady_set (f := fun slot => { slot with pending := 0, state := .releasing }) t i rfl rfl
      fun _ => .inl hused
  · exact steady_set (f := fun slot => { slot with pending := 0 }) t i rfl rfl fun _ => .inl hused

/-- No later step of a call touches a deadline. -/
theorem steady_proceed {s s' : AlarmTasks c} {result : EspErr} (hs : s.proceed result = some s') :
    Steady s.owner.arming s.table s'.table := by
  refine ⟨fun i => (proceed_leaves hs i).interval, fun i => (proceed_leaves hs i).deadline, ?_⟩
  intro i hused
  rcases (proceed_leaves hs i).state with hsame | hfree | ⟨-, harming⟩
  · exact .inl (hsame ▸ hused)
  · exact absurd hfree hused
  · exact .inr harming

theorem arming_proceed {s s' : AlarmTasks c} {result : EspErr} (hs : s.proceed result = some s')
    {i : Fin c.size} (hi : s'.owner.arming = some i) : s.owner.arming = some i := by
  cases howner : s.owner <;> simp only [AlarmTasks.proceed, howner, Option.some.injEq] at hs
  case idle => cases hs
  case create | start =>
    split at hs <;> obtain rfl := Option.some.inj hs
    · cases hi
    · exact hi
  case cancelWait | takeWait =>
    split at hs <;> obtain rfl := Option.some.inj hs
    · rwa [howner] at hi
    · cases hi
  all_goals
    subst hs
    cases hi

/-- What `schedule` writes into the slot that it reserves. -/
theorem scheduleReserve_slots {t t' : AlarmTable c} {now delayUs intervalUs : UInt64}
    {i : Fin c.size} (h : scheduleReserve t now delayUs intervalUs = some (i, t')) :
    (t'.slots i).intervalUs = intervalUs ∧ (t'.slots i).nextDeadlineUs = now + delayUs ∧
      ∀ j, j ≠ i → t'.slots j = t.slots j := by
  obtain ⟨j, -, he⟩ := Option.map_eq_some_iff.mp h
  obtain ⟨rfl, rfl⟩ := Prod.mk.inj he
  refine ⟨?_, ?_, fun k hk => t.slots_set_of_ne hk _⟩
  · rw [t.slots_set_self]
  · rw [t.slots_set_self]

/-- The checks of `schedule` bound what it writes. -/
theorem accepted_of_acceptable {contextValid : Bool} {now delayUs intervalUs : UInt64}
    (h : alarmAcceptable contextValid now delayUs intervalUs = true) (hnow : now.toNat < 2 ^ 63) :
    AlarmSchedule.Accepted ⟨now.toNat, delayUs.toNat, intervalUs.toNat, 0⟩ := by
  have hmax : int64Max.toNat = 2 ^ 63 - 1 := rfl
  have hsub : (int64Max - now).toNat = 2 ^ 63 - 1 - now.toNat := by
    rw [UInt64.toNat_sub_of_le, hmax]
    rw [UInt64.le_iff_toNat_le, hmax]
    omega
  simp only [alarmAcceptable, Bool.and_eq_true, Bool.not_eq_true', decide_eq_false_iff_not,
    not_or, gt_iff_lt, UInt64.not_lt, UInt64.le_iff_toNat_le, hsub, hmax] at h
  obtain ⟨⟨hdelay, -, hinterval, -⟩, hhorizon⟩ := h
  have hpos : delayUs.toNat ≠ 0 := fun h0 => hdelay (UInt64.toNat_inj.mp h0)
  refine ⟨?_, ?_, ?_⟩
  · show 0 < delayUs.toNat
    omega
  · show now.toNat + delayUs.toNat < 2 ^ 63
    omega
  · show intervalUs.toNat < 2 ^ 63
    omega

/-! ### The invariant -/

/-- The slot has the deadline that its alarm is due at, and the clock has not left the alarm
behind. -/
structure AlarmSchedule.Kept (alarm : AlarmSchedule) (clock : Nat) (slot : BMXESP32AlarmSlot) :
    Prop where
  accepted : alarm.Accepted
  onTime : alarm.OnTime clock
  interval : slot.intervalUs.toNat = alarm.interval
  deadline : slot.nextDeadlineUs.toNat = alarm.due

/-- A callback moves the deadline on by one interval, which cannot wrap: it was due. -/
theorem AlarmSchedule.Kept.callback {alarm : AlarmSchedule} {clock : Nat} {t : AlarmTable c}
    {i : Fin c.size} (h : alarm.Kept clock (t.slots i)) (hclock : clock < 2 ^ 63)
    (harmed : (t.slots i).state = .armed) (hdue : alarm.due ≤ clock) :
    alarm.next.Kept clock ((bmxEsp32AlarmCallback t i).slots i) := by
  have haccepted : alarm.next.Accepted := ⟨h.accepted.delay, h.accepted.horizon, h.accepted.interval⟩
  have honTime := h.onTime.next hdue
  have hlt := honTime.due_lt haccepted hclock
  rw [AlarmSchedule.due_next] at hlt
  rw [bmxEsp32AlarmCallback, if_pos harmed, t.slots_set_self]
  dsimp only
  split
  · refine ⟨haccepted, honTime, h.interval, ?_⟩
    show ((t.slots i).nextDeadlineUs + (t.slots i).intervalUs).toNat = _
    rw [UInt64.toNat_add, h.deadline, h.interval, AlarmSchedule.due_next]
    exact Nat.mod_eq_of_lt hlt
  next honce =>
    have hzero : alarm.interval = 0 := by
      rw [← h.interval, not_not.mp honce]
      rfl
    refine ⟨haccepted, honTime, h.interval, ?_⟩
    show (t.slots i).nextDeadlineUs.toNat = _
    rw [h.deadline, AlarmSchedule.due_next, hzero, Nat.add_zero]

/-- A slot that is in use, or about to be, is scheduled, and every schedule is kept. -/
structure AlarmClock.Inv (s : AlarmClock c) : Prop where
  clock : s.clock.toNat < 2 ^ 63
  kept : ∀ i alarm, s.alarms i = some alarm → alarm.Kept s.clock.toNat (s.tasks.table.slots i)
  used : ∀ i, (s.tasks.table.slots i).state ≠ .free → (s.alarms i).isSome = true
  arming : ∀ i, s.tasks.owner.arming = some i → (s.alarms i).isSome = true

namespace AlarmClock

variable {s s' : AlarmClock c}

/-- The tasks take a step that touches no deadline. -/
theorem Inv.steady (h : s.Inv) {tasks : AlarmTasks c}
    (hsteady : Steady s.tasks.owner.arming s.tasks.table tasks.table)
    (harming : ∀ i, tasks.owner.arming = some i → s.tasks.owner.arming = some i) :
    Inv { s with tasks := tasks } := by
  refine ⟨h.clock, ?_, ?_, fun i hi => h.arming i (harming i hi)⟩
  · intro i alarm hi
    obtain ⟨haccepted, honTime, hinterval, hdeadline⟩ := h.kept i alarm hi
    refine ⟨haccepted, honTime, ?_, ?_⟩
    · show (tasks.table.slots i).intervalUs.toNat = _
      rw [hsteady.interval, hinterval]
    · show (tasks.table.slots i).nextDeadlineUs.toNat = _
      rw [hsteady.deadline, hdeadline]
  · intro i hi
    rcases hsteady.used i hi with hused | harmed
    · exact h.used i hused
    · exact h.arming i harmed

theorem Inv.tick (h : s.Inv) {clock : UInt64} (hle : s.clock ≤ clock)
    (hlt : clock.toNat < 2 ^ 63) : Inv { s with clock := clock } := by
  refine ⟨hlt, ?_, h.used, h.arming⟩
  intro i alarm hi
  obtain ⟨haccepted, honTime, hinterval, hdeadline⟩ := h.kept i alarm hi
  exact ⟨haccepted, honTime.mono (UInt64.le_iff_toNat_le.mp hle), hinterval, hdeadline⟩

/-- A slot is reserved for a new alarm. -/
theorem Inv.reserve (h : s.Inv) {contextValid : Bool} {now delayUs intervalUs : UInt64}
    (haccept : alarmAcceptable contextValid now delayUs intervalUs = true)
    (hnow : now ≤ s.clock) {i : Fin c.size} {tasks : AlarmTasks c}
    (hreserve : scheduleReserve s.tasks.table now delayUs intervalUs = some (i, tasks.table))
    (harming : tasks.owner.arming = some i) :
    Inv { s with
      tasks := tasks
      alarms := Function.update s.alarms i
        (some ⟨now.toNat, delayUs.toNat, intervalUs.toNat, 0⟩) } := by
  have hstarted : now.toNat ≤ s.clock.toNat := UInt64.le_iff_toNat_le.mp hnow
  have haccepted := accepted_of_acceptable haccept (hstarted.trans_lt h.clock)
  obtain ⟨hinterval, hdeadline, hsame⟩ := scheduleReserve_slots hreserve
  refine ⟨h.clock, ?_, ?_, ?_⟩
  · intro j alarm hj
    change Function.update s.alarms i _ j = some alarm at hj
    by_cases hji : j = i
    · rw [hji, Function.update_self] at hj
      obtain rfl := Option.some.inj hj
      rw [hji]
      refine ⟨haccepted, ⟨hstarted, fun hfired => absurd rfl hfired⟩, congrArg _ hinterval, ?_⟩
      show (tasks.table.slots i).nextDeadlineUs.toNat = _
      -- the sum that `schedule` stores does not wrap: it has been checked against 2 ^ 63
      have hhorizon := haccepted.horizon
      dsimp only at hhorizon
      rw [hdeadline, UInt64.toNat_add, AlarmSchedule.due, Nat.zero_mul, Nat.add_zero]
      exact Nat.mod_eq_of_lt (by omega)
    · rw [Function.update_of_ne hji] at hj
      show alarm.Kept _ (tasks.table.slots j)
      rw [hsame j hji]
      exact h.kept j alarm hj
  · intro j hj
    change (tasks.table.slots j).state ≠ _ at hj
    show (Function.update s.alarms i _ j).isSome = true
    by_cases hji : j = i
    · rw [hji, Function.update_self]
      rfl
    · rw [hsame j hji] at hj
      rw [Function.update_of_ne hji]
      exact h.used j hj
  · intro j hj
    obtain rfl := Option.some.inj (harming.symm.trans hj)
    show (Function.update s.alarms i _ i).isSome = true
    rw [Function.update_self]
    rfl

theorem Inv.callback (h : s.Inv) {i : Fin c.size} {tasks : AlarmTasks c}
    (htable : tasks.table = bmxEsp32AlarmCallback s.tasks.table i)
    (howner : tasks.owner = s.tasks.owner) (harmed : (s.tasks.table.slots i).state = .armed)
    (hdue : ∀ alarm, s.alarms i = some alarm → alarm.due ≤ s.clock.toNat) :
    Inv { s with
      tasks := tasks
      alarms := Function.update s.alarms i ((s.alarms i).map AlarmSchedule.next) } := by
  have hsame : ∀ j, j ≠ i → tasks.table.slots j = s.tasks.table.slots j := by
    intro j hji
    rw [htable, bmxEsp32AlarmCallback, if_pos harmed, s.tasks.table.slots_set_of_ne hji]
  -- the schedule of slot `i` moves on by one interval; the others stay
  have hscheduled : ∀ j, (s.alarms j).isSome = true →
      (Function.update s.alarms i ((s.alarms i).map AlarmSchedule.next) j).isSome = true := by
    intro j hj
    by_cases hji : j = i
    · rw [hji, Function.update_self, Option.isSome_map, ← hji]
      exact hj
    · rwa [Function.update_of_ne hji]
  refine ⟨h.clock, ?_, ?_, ?_⟩
  · intro j alarm hj
    change Function.update s.alarms i _ j = some alarm at hj
    show alarm.Kept _ (tasks.table.slots j)
    by_cases hji : j = i
    · rw [hji, Function.update_self] at hj
      obtain ⟨old, hold, rfl⟩ := Option.map_eq_some_iff.mp hj
      rw [hji, htable]
      exact (h.kept i old hold).callback h.clock harmed (hdue old hold)
    · rw [Function.update_of_ne hji] at hj
      rw [hsame j hji]
      exact h.kept j alarm hj
  · intro j hj
    change (tasks.table.slots j).state ≠ _ at hj
    apply hscheduled
    by_cases hji : j = i
    · rw [hji]
      apply h.used
      rw [harmed]
      decide
    · rw [hsame j hji] at hj
      exact h.used j hj
  · intro j hj
    exact hscheduled j (h.arming j (howner ▸ hj))

/-- The first section of a call: `schedule` notes what it has reserved a slot for. -/
theorem Inv.enter (h : s.Inv) (hidle : s.tasks.owner = .idle) {a : AlarmTaskStep c}
    (hok : s.InTime (.task a)) {tasks : AlarmTasks c} (hs : s.tasks.enter a = some tasks) :
    Inv { s with tasks := tasks, alarms := s.noted a } := by
  cases enter_cases hs with
  | refused heq hschedule =>
    -- a call that reserves no slot notes nothing
    have hnoted : s.noted a = s.alarms := by
      cases a with
      | schedule contextValid now delayUs intervalUs =>
        simp only [noted]
        split
        next haccept => rw [hschedule rfl haccept]
        next => rfl
      | callback => cases hs
      | _ => rfl
    rw [hnoted, heq]
    exact h
  | @reserved _ _ _ _ i t owner ha haccept hreserve howner heq =>
    subst ha heq
    simp only [noted, haccept, if_true, hreserve]
    refine h.reserve haccept hok hreserve ?_
    rcases howner with rfl | rfl <;> rfl
  | cancelled ha hbegin howner heq =>
    subst ha heq
    refine h.steady (hidle ▸ steady_cancelBegin hbegin) fun j hj => ?_
    rcases howner with rfl | rfl <;> cases hj
  | @taken _ handle owner ha howner heq =>
    subst ha heq
    refine h.steady (hidle ▸ steady_takeBegin s.tasks.table handle) fun j hj => ?_
    rcases howner with rfl | ⟨i, generation, rfl⟩
    · exact hj
    · cases hj

/-- **Every step keeps the schedules**, if it is in time. -/
theorem Inv.step (h : s.Inv) {a : AlarmClockStep c} (hok : s.InTime a)
    (hs : s.step a = some s') : s'.Inv := by
  cases a with
  | espTimer timers dispatched =>
    obtain rfl := Option.some.inj hs
    exact h.steady (.refl _ _) fun _ => id
  | tick clock =>
    obtain rfl := Option.some.inj hs
    exact h.tick hok.1 hok.2
  | task a =>
  obtain ⟨tasks, htasks, rfl⟩ := Option.map_eq_some_iff.mp hs
  cases a with
  | proceed result =>
    exact h.steady (steady_proceed htasks) fun i => arming_proceed htasks
  | expire i =>
    simp only [AlarmTasks.step, AlarmTasks.expire] at htasks
    split at htasks
    · obtain rfl := Option.some.inj htasks
      exact h.steady (.refl _ _) fun _ => id
    · cases htasks
  | callback =>
    rcases hd : s.tasks.dispatched with - | ⟨i, st⟩
    · simp [AlarmTasks.step, AlarmTasks.callback, hd] at htasks
    simp only [AlarmTasks.step, AlarmTasks.callback, hd, Option.some.injEq] at htasks
    simp only [noted, hd]
    split
    next harmed =>
      subst htasks
      -- only here a deadline moves on
      exact h.callback rfl rfl harmed fun alarm hi => hok i st alarm hd harmed hi
    next hidle =>
      subst htasks
      refine h.steady ?_ fun _ => id
      rw [bmxEsp32AlarmCallback, if_neg hidle]
      exact .refl _ _
  | schedule | cancel | takeEvents =>
    cases hidle : s.tasks.owner <;> simp only [AlarmTasks.step, hidle, reduceCtorEq] at htasks
    exact h.enter hidle hok htasks

theorem inv_reachable (h : (alarmClockMachine c).ReachableIn InTime s) : s.Inv := by
  apply h.invariant (I := Inv)
  · rintro s ⟨htasks, hclock, halarms⟩
    refine ⟨hclock, ?_, ?_, ?_⟩ <;> intro i
    · intro alarm hi
      rw [halarms] at hi
      cases hi
    · intro hused
      rw [htasks] at hused
      exact absurd rfl hused
    · intro hi
      rw [htasks] at hi
      cases hi
  · exact fun s a s' hs hok hstep => hs.step hok hstep

end AlarmClock

/-! ### The remaining time -/

/-- The handle is that of an alarm which is ARMED. -/
def IsArmed (t : AlarmTable c) (handle : Int32) : Prop :=
  ∃ i, bmxEsp32AlarmSlotLocked t handle = some i ∧ (t.slots i).state = .armed

section Remaining

variable {t : AlarmTable c} {now : UInt64} {handle : Int32}

theorem remainingUs_of_not_armed (h : ¬ IsArmed t handle) (contextValid : Bool) :
    bmxEsp32AlarmRemainingUs contextValid t now handle = -1 := by
  unfold bmxEsp32AlarmRemainingUs
  split
  · rfl
  cases hi : bmxEsp32AlarmSlotLocked t handle with
  | none => rfl
  | some i =>
    have harmed : (t.slots i).state ≠ .armed := fun harmed => h ⟨i, hi, harmed⟩
    simp only [if_neg harmed]
    rfl

/-- A deadline that is at most `2 ^ 63 - 1` ahead is told exactly. -/
theorem toInt_remainingUs {i : Fin c.size} (hi : bmxEsp32AlarmSlotLocked t handle = some i)
    (harmed : (t.slots i).state = .armed) (hpos : 0 < (t.slots i).nextDeadlineUs.toNat)
    (hahead : (t.slots i).nextDeadlineUs.toNat < now.toNat + 2 ^ 63) :
    (bmxEsp32AlarmRemainingUs true t now handle).toInt =
      max 0 ((t.slots i).nextDeadlineUs.toNat - now.toNat : Int) := by
  have hzero : (t.slots i).nextDeadlineUs ≠ 0 := by
    intro h0
    rw [h0] at hpos
    exact absurd hpos (by decide)
  have hvalue : bmxEsp32AlarmRemainingUs true t now handle =
      if (t.slots i).nextDeadlineUs > now then ((t.slots i).nextDeadlineUs - now).toInt64
      else 0 := by
    simp only [bmxEsp32AlarmRemainingUs, hi, if_pos harmed, if_neg hzero]
    rfl
  rw [hvalue]
  split
  next hlater =>
    have hlt : now.toNat < (t.slots i).nextDeadlineUs.toNat := UInt64.lt_iff_toNat_lt.mp hlater
    have hsub : ((t.slots i).nextDeadlineUs - now).toNat =
        (t.slots i).nextDeadlineUs.toNat - now.toNat :=
      UInt64.toNat_sub_of_le _ _ (UInt64.le_of_lt hlater)
    show ((t.slots i).nextDeadlineUs - now).toBitVec.toInt = _
    rw [BitVec.toInt_eq_toNat_of_lt (by rw [UInt64.toNat_toBitVec]; omega), UInt64.toNat_toBitVec,
      hsub]
    omega
  next hpast =>
    have hle : (t.slots i).nextDeadlineUs.toNat ≤ now.toNat :=
      UInt64.le_iff_toNat_le.mp (UInt64.not_lt.mp hpast)
    show (0 : Int) = _
    omega

theorem remainingMs_of_negative {contextValid : Bool}
    (h : bmxEsp32AlarmRemainingUs contextValid t now handle = -1) :
    bmxEsp32AlarmRemainingMs contextValid t now handle = -1 := by
  rw [bmxEsp32AlarmRemainingMs, h]
  rfl

/-- The milliseconds are cut off at the largest `int32_t`. -/
theorem toInt_remainingMs {contextValid : Bool}
    (h : 0 ≤ (bmxEsp32AlarmRemainingUs contextValid t now handle).toInt) :
    (bmxEsp32AlarmRemainingMs contextValid t now handle).toInt =
      min ((bmxEsp32AlarmRemainingUs contextValid t now handle).toInt / 1000) (2 ^ 31 - 1) := by
  unfold bmxEsp32AlarmRemainingMs
  generalize bmxEsp32AlarmRemainingUs contextValid t now handle = remaining at h ⊢
  have hnonneg : 0 ≤ remaining := by
    rw [Int64.le_iff_toInt_le]
    exact h
  have hword : (remaining.toUInt64.toNat : Int) = remaining.toInt := by
    rw [Int64.toNat_toUInt64_of_le hnonneg, ← Int64.toInt_eq_toNatClampNeg hnonneg]
  have hdiv : (remaining.toUInt64 / 1000).toNat = remaining.toUInt64.toNat / 1000 :=
    UInt64.toNat_div _ _
  dsimp only
  rw [if_neg (Int64.not_lt.mpr hnonneg)]
  split
  next hlarge =>
    have hlt : 0x7fffffff < (remaining.toUInt64 / 1000).toNat := UInt64.lt_iff_toNat_lt.mp hlarge
    show (0x7fffffff : Int) = _
    omega
  next hsmall =>
    have hle : (remaining.toUInt64 / 1000).toNat ≤ 0x7fffffff :=
      UInt64.le_iff_toNat_le.mp (UInt64.not_lt.mp hsmall)
    have hcut : (remaining.toUInt64 / 1000).toUInt32.toNat = (remaining.toUInt64 / 1000).toNat := by
      rw [UInt64.toNat_toUInt32]
      exact Nat.mod_eq_of_lt (by omega)
    show (remaining.toUInt64 / 1000).toUInt32.toBitVec.toInt = _
    rw [BitVec.toInt_eq_toNat_of_lt (by rw [UInt32.toNat_toBitVec]; omega), UInt32.toNat_toBitVec,
      hcut]
    omega

namespace AlarmSchedule

variable {alarm : AlarmSchedule} {clock : Nat}

theorem Kept.deadline_eq {slot : BMXESP32AlarmSlot} (h : alarm.Kept clock slot) :
    slot.nextDeadlineUs.toNat =
      alarm.start + alarm.delay + alarm.callbacks * alarm.interval ∧ slot.nextDeadlineUs ≠ 0 := by
  refine ⟨h.deadline, ?_⟩
  intro hzero
  have hpos := h.accepted.due_pos
  rw [← h.deadline, hzero] at hpos
  exact absurd hpos (by decide)

/-- What an ARMED alarm has left, at any later time. -/
theorem Kept.remaining {i : Fin c.size} (h : alarm.Kept clock (t.slots i))
    (hlook : bmxEsp32AlarmSlotLocked t handle = some i) (harmed : (t.slots i).state = .armed)
    (hle : clock ≤ now.toNat) :
    (bmxEsp32AlarmRemainingUs true t now handle).toInt =
      max 0 ((t.slots i).nextDeadlineUs.toNat - now.toNat : Int) ∧
    0 ≤ (bmxEsp32AlarmRemainingUs true t now handle).toInt ∧
    (bmxEsp32AlarmRemainingUs true t now handle).toInt ≤ max alarm.delay alarm.interval := by
  have hdue := h.onTime.due_le
  have hahead := h.accepted.ahead_lt
  have hpos := h.accepted.due_pos
  rw [← h.deadline] at hdue hpos
  have hexact := toInt_remainingUs hlook harmed hpos (by omega : _ < now.toNat + 2 ^ 63)
  rw [hexact]
  refine ⟨rfl, ?_, ?_⟩
  · omega
  · omega

end AlarmSchedule

end Remaining

/-- **The arithmetic of an alarm cannot wrap** in a run that is in time, and in a valid context the
time that remains is told exactly. -/
theorem alarm_remaining (c : AlarmCapacity) (s : AlarmClock c)
    (h : (alarmClockMachine c).ReachableIn AlarmClock.InTime s) :
    (∀ i, (s.tasks.table.slots i).state ≠ .free → (s.alarms i).isSome = true) ∧
    (∀ i alarm, s.alarms i = some alarm →
      (s.tasks.table.slots i).nextDeadlineUs.toNat =
        alarm.start + alarm.delay + alarm.callbacks * alarm.interval ∧
      (s.tasks.table.slots i).nextDeadlineUs ≠ 0) ∧
    ∀ now : UInt64, s.clock ≤ now → now.toNat < 2 ^ 63 → ∀ contextValid handle,
      (∀ i alarm, contextValid = true → bmxEsp32AlarmSlotLocked s.tasks.table handle = some i →
        (s.tasks.table.slots i).state = .armed → s.alarms i = some alarm →
        (bmxEsp32AlarmRemainingUs contextValid s.tasks.table now handle).toInt =
          max 0 ((s.tasks.table.slots i).nextDeadlineUs.toNat - now.toNat : Int) ∧
        0 ≤ (bmxEsp32AlarmRemainingUs contextValid s.tasks.table now handle).toInt ∧
        (bmxEsp32AlarmRemainingUs contextValid s.tasks.table now handle).toInt ≤
          max alarm.delay alarm.interval) ∧
      (bmxEsp32AlarmRemainingUs contextValid s.tasks.table now handle = -1 ↔
        contextValid = false ∨ ¬ IsArmed s.tasks.table handle) ∧
      (bmxEsp32AlarmRemainingUs contextValid s.tasks.table now handle = -1 →
        bmxEsp32AlarmRemainingMs contextValid s.tasks.table now handle = -1) ∧
      (bmxEsp32AlarmRemainingUs contextValid s.tasks.table now handle ≠ -1 →
        (bmxEsp32AlarmRemainingMs contextValid s.tasks.table now handle).toInt =
          min ((bmxEsp32AlarmRemainingUs contextValid s.tasks.table now handle).toInt / 1000)
            (2 ^ 31 - 1)) := by
  have hs := AlarmClock.inv_reachable h
  refine ⟨hs.used, fun i alarm hi => (hs.kept i alarm hi).deadline_eq, ?_⟩
  intro now hle hlt contextValid handle
  have hle : s.clock.toNat ≤ now.toNat := UInt64.le_iff_toNat_le.mp hle
  -- an ARMED slot has its alarm, so what remains is not negative
  have hnonneg : contextValid = true → IsArmed s.tasks.table handle →
      0 ≤ (bmxEsp32AlarmRemainingUs contextValid s.tasks.table now handle).toInt := by
    rintro rfl ⟨i, hlook, harmed⟩
    have hused : (s.tasks.table.slots i).state ≠ .free := by
      rw [harmed]
      decide
    obtain ⟨alarm, hi⟩ := Option.isSome_iff_exists.mp (hs.used i hused)
    exact ((hs.kept i alarm hi).remaining hlook harmed hle).2.1
  have hnegative : bmxEsp32AlarmRemainingUs contextValid s.tasks.table now handle = -1 ↔
      contextValid = false ∨ ¬ IsArmed s.tasks.table handle := by
    constructor
    · intro hminus
      by_contra hnot
      rw [not_or, Bool.not_eq_false, not_not] at hnot
      have hpositive := hnonneg hnot.1 hnot.2
      rw [hminus] at hpositive
      exact absurd hpositive (by decide)
    · rintro (rfl | hnot)
      · rfl
      · exact remainingUs_of_not_armed hnot contextValid
  refine ⟨?_, hnegative, remainingMs_of_negative, ?_⟩
  · rintro i alarm rfl hlook harmed hi
    exact (hs.kept i alarm hi).remaining hlook harmed hle
  · intro hplus
    rw [ne_eq, hnegative, not_or, Bool.not_eq_false, not_not] at hplus
    exact toInt_remainingMs (hnonneg hplus.1 hplus.2)

namespace AlarmClock

/-- An alarm of a second, and every second from then on, is scheduled and armed at once. -/
def scheduling : List (AlarmClockStep bmxEsp32AlarmCapacity) :=
  [.task (.schedule true 0 1000000 1000000), .task (.proceed espOk), .task (.proceed espOk),
    .task (.proceed espOk)]

/-- It is called back in time, and another half of a second goes by. -/
def callingBack : List (AlarmClockStep bmxEsp32AlarmCapacity) :=
  [.tick 1000000, .task (.expire ⟨0, bmxEsp32AlarmCapacity.pos⟩), .task .callback, .tick 1500000]

/-- The state after `scheduling`. -/
def scheduled : AlarmClock bmxEsp32AlarmCapacity :=
  scheduling.foldl (fun s a => (s.step a).getD s) ⟨.boot, 0, fun _ => none⟩

/-- The state after `callingBack` too. -/
def calledBack : AlarmClock bmxEsp32AlarmCapacity :=
  callingBack.foldl (fun s a => (s.step a).getD s) scheduled

theorem scheduled_reachable :
    (alarmClockMachine bmxEsp32AlarmCapacity).ReachableIn InTime scheduled := by
  have hboot : (alarmClockMachine bmxEsp32AlarmCapacity).ReachableIn InTime
      ⟨.boot, 0, fun _ => none⟩ := .init ⟨rfl, by decide, rfl⟩
  have hrun : (alarmClockMachine bmxEsp32AlarmCapacity).RunIn InTime
      ⟨.boot, 0, fun _ => none⟩ scheduling scheduled :=
    .cons (UInt64.le_refl 0) rfl (.cons trivial rfl (.cons trivial rfl (.cons trivial rfl
      (.nil _))))
  exact hboot.append hrun

theorem calledBack_reachable :
    (alarmClockMachine bmxEsp32AlarmCapacity).ReachableIn InTime calledBack := by
  have hrun : (alarmClockMachine bmxEsp32AlarmCapacity).RunIn InTime scheduled callingBack
      calledBack := by
    refine .cons ⟨by decide, by decide⟩ rfl (.cons trivial rfl (.cons ?_ rfl
      (.cons ⟨by decide, by decide⟩ rfl (.nil _))))
    intro i st alarm hd _ hi
    obtain ⟨rfl, -⟩ := Prod.mk.inj (Option.some.inj hd)
    obtain rfl := Option.some.inj hi
    decide
  exact scheduled_reachable.append hrun

end AlarmClock

/-- The second deadline is half a second away. -/
theorem alarm_remaining_called_back :
    (AlarmClock.calledBack.tasks.table.slots ⟨0, bmxEsp32AlarmCapacity.pos⟩).nextDeadlineUs = 2000000 ∧
      (bmxEsp32AlarmRemainingUs true AlarmClock.calledBack.tasks.table 1500000 257).toInt =
        max 0 (2000000 - 1500000) := by
  have hdeadline : (AlarmClock.calledBack.tasks.table.slots ⟨0, bmxEsp32AlarmCapacity.pos⟩).nextDeadlineUs =
      2000000 := rfl
  refine ⟨hdeadline, ?_⟩
  exact ((alarm_remaining _ _ AlarmClock.calledBack_reachable).2.2 1500000 (by decide) (by decide)
    true 257).1 ⟨0, bmxEsp32AlarmCapacity.pos⟩ ⟨0, 1000000, 1000000, 1⟩ rfl rfl rfl rfl |>.1

/-- Outside of a valid context an ARMED alarm has -1 left. -/
theorem alarm_remaining_invalid_context : ¬ ∀ (c : AlarmCapacity) (s : AlarmClock c),
    (alarmClockMachine c).ReachableIn AlarmClock.InTime s →
    ∀ now : UInt64, s.clock ≤ now → now.toNat < 2 ^ 63 → ∀ contextValid handle,
      (bmxEsp32AlarmRemainingUs contextValid s.tasks.table now handle = -1 ↔
        ¬ IsArmed s.tasks.table handle) := by
  intro hclaim
  have hminus := hclaim _ _ AlarmClock.scheduled_reachable 0 (by decide) (by decide) false 257
  exact hminus.mp rfl ⟨⟨0, bmxEsp32AlarmCapacity.pos⟩, rfl, rfl⟩

end Esp32Mod
