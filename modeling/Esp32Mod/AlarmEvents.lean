/-
Esp32Mod/AlarmEvents.lean

Which timer start an alarm event comes from: the owner task and the timer task,
interleaved.

A step is one critical section or one `esp_timer` call.  The timer task dispatches
an expiry in two steps: it unlinks a one-shot timer or re-queues a periodic one, and
later runs the callback.  `esp_timer_stop` unlinks a queued timer and does not wait for
a callback that is already dispatched.

The callback knows its slot, not its generation.  A state therefore records, for each
start of a timer, the number of the arm of its slot and the handle of the schedule call
that made it, and for each event the arm and the handle to which it was credited.

The two differ in a run that this file ends with: an expiry dispatched before a
cancel is delivered after the slot has been armed again.  `ArmsDispatched` is the
step that makes this possible.

Main results:

* `alarm_events_attributed` — without such a step, every event comes from the start
  made by the schedule call of the alarm it is credited to;
* `alarm_events_misattributed` — with one, an event can come from a cancelled alarm.
-/
import Esp32Mod.Alarm
import Esp32Mod.StepMachine

namespace Esp32Mod

open StepMachine Machine

variable {c : AlarmCapacity}

/-! ### Timers, owner and timer task -/

/-- A start of a slot's timer: the number of the slot's arm that preceded it, and the
handle that the schedule call which makes it returns. -/
structure TimerStart where
  number : Nat
  handle : Int32
  deriving DecidableEq

/-- The `esp_timer` of a slot: the start whose expiry it waits for, if it is active. -/
structure EspTimer where
  queued : Option TimerStart
  periodic : Bool

/-- What the owner task does next. -/
inductive AlarmOwner (c : AlarmCapacity)
  | idle
  /-- call `esp_timer_create` -/
  | create (i : Fin c.size) (generation : UInt32) (intervalUs : UInt64)
  | createFailed (i : Fin c.size)
  | arm (i : Fin c.size) (generation : UInt32) (intervalUs : UInt64)
  /-- call `esp_timer_start_periodic` or `esp_timer_start_once` -/
  | start (i : Fin c.size) (generation : UInt32) (intervalUs : UInt64)
  | startFailed (i : Fin c.size)
  /-- call `esp_timer_stop` -/
  | stop (i : Fin c.size) (generation : UInt32)
  /-- call `esp_timer_is_active`, again and again -/
  | cancelWait (i : Fin c.size) (generation : UInt32)
  | cancelEnd (i : Fin c.size) (generation : UInt32)
  | takeWait (i : Fin c.size) (generation : UInt32)
  | takeEnd (i : Fin c.size) (generation : UInt32)

/-- An event that a callback credited to a slot: the arm and the handle of the slot
at that time, and the start whose expiry caused it. -/
structure AlarmCredit (c : AlarmCapacity) where
  slot : Fin c.size
  arms : Nat
  handle : Int32
  cause : TimerStart

/-- The table, the timers, and the steps that the owner and the timer task have under way. -/
structure AlarmTasks (c : AlarmCapacity) where
  table : AlarmTable c
  timers : Fin c.size → EspTimer
  /-- The expiry that the timer task has taken from its queue. -/
  dispatched : Option (Fin c.size × TimerStart)
  owner : AlarmOwner c
  credits : List (AlarmCredit c)

/-- No alarm, and no timer. -/
def AlarmTasks.boot : AlarmTasks c := ⟨.boot, fun _ => ⟨none, false⟩, none, .idle, []⟩

/-- The steps of the owner, of the timers and of the timer task. -/
inductive AlarmTaskStep (c : AlarmCapacity)
  | schedule (contextValid : Bool) (now delayUs intervalUs : UInt64)
  | cancel (contextValid : Bool) (handle : Int32)
  | takeEvents (contextValid : Bool) (handle : Int32)
  /-- The owner's next step; `result` is that of the timer call it makes, if any. -/
  | proceed (result : EspErr)
  | expire (i : Fin c.size)
  | callback

/-- The first section of a call, if the owner is idle and the checks before it pass. -/
def AlarmTasks.enter (s : AlarmTasks c) : AlarmTaskStep c → Option (AlarmTasks c)
  | .schedule contextValid now delayUs intervalUs =>
    if !alarmAcceptable contextValid now delayUs intervalUs then some s
    else
      match scheduleReserve s.table now delayUs intervalUs with
      | none => some s
      | some (i, t) =>
        let generation := (t.slots i).generation
        some { s with
          table := t
          owner := if (t.slots i).timer then .arm i generation intervalUs
            else .create i generation intervalUs }
  | .cancel contextValid handle =>
    if !contextValid then some s
    else
      match cancelBegin s.table handle with
      | none => some s
      | some (i, wasArmed, t) =>
        let generation := (t.slots i).generation
        some { s with
          table := t
          owner := if wasArmed then .stop i generation else .cancelWait i generation }
  | .takeEvents contextValid handle =>
    if !contextValid then some s
    else
      match takeBegin s.table handle with
      | (_, none, t) => some { s with table := t }
      | (_, some i, t) => some { s with table := t, owner := .takeWait i (t.slots i).generation }
  | _ => none

/-- The later steps of a call. -/
def AlarmTasks.proceed (s : AlarmTasks c) (result : EspErr) : Option (AlarmTasks c) :=
  match s.owner with
  | .idle => none
  | .create i generation intervalUs =>
    if result ≠ espOk then some { s with owner := .createFailed i }
    else some { s with table := scheduleCreated s.table i, owner := .arm i generation intervalUs }
  | .createFailed i | .startFailed i =>
    some { s with table := scheduleFailed s.table i, owner := .idle }
  | .arm i generation intervalUs =>
    some { s with table := scheduleArm s.table i, owner := .start i generation intervalUs }
  | .start i generation intervalUs =>
    if result ≠ espOk then some { s with owner := .startFailed i }
    else
      let made : TimerStart := ⟨s.table.arms i, alarmHandle i generation⟩
      some { s with
        timers := Function.update s.timers i ⟨some made, intervalUs ≠ 0⟩
        owner := .idle }
  | .stop i generation =>
    some { s with
      timers := Function.update s.timers i { s.timers i with queued := none }
      owner := .cancelWait i generation }
  | .cancelWait i generation =>
    if (s.timers i).queued.isSome then some s else some { s with owner := .cancelEnd i generation }
  | .cancelEnd i generation =>
    some { s with table := cancelEnd s.table i generation, owner := .idle }
  | .takeWait i generation =>
    if (s.timers i).queued.isSome then some s else some { s with owner := .takeEnd i generation }
  | .takeEnd i generation =>
    some { s with table := takeEnd s.table i generation, owner := .idle }

/-- The timer task takes an expiry of the timer of slot `i` from its queue. -/
def AlarmTasks.expire (s : AlarmTasks c) (i : Fin c.size) : Option (AlarmTasks c) :=
  match s.dispatched, (s.timers i).queued with
  | none, some st =>
    some { s with
      timers := if (s.timers i).periodic then s.timers
        else Function.update s.timers i { s.timers i with queued := none }
      dispatched := some (i, st) }
  | _, _ => none

/-- The timer task runs the callback of the expiry it has taken. -/
def AlarmTasks.callback (s : AlarmTasks c) : Option (AlarmTasks c) :=
  match s.dispatched with
  | none => none
  | some (i, st) =>
    some { s with
      table := bmxEsp32AlarmCallback s.table i
      dispatched := none
      credits :=
        if (s.table.slots i).state = .armed then
          s.credits ++ [⟨i, s.table.arms i, alarmHandle i (s.table.slots i).generation, st⟩]
        else s.credits }

/-- A call starts when there is none. -/
def AlarmTasks.step (s : AlarmTasks c) : AlarmTaskStep c → Option (AlarmTasks c)
  | .proceed result => s.proceed result
  | .expire i => s.expire i
  | .callback => s.callback
  | a =>
    match s.owner with
    | .idle => s.enter a
    | _ => none

/-- Any interleaving of the owner and the timer task. -/
def alarmTaskMachine (c : AlarmCapacity) : Machine (AlarmTasks c) (AlarmTaskStep c) where
  init s := s = AlarmTasks.boot
  step := AlarmTasks.step

/-- The owner arms a slot of whose timer the timer task holds an expiry. -/
def ArmsDispatched (s : AlarmTasks c) (a : AlarmTaskStep c) : Prop :=
  (∃ result, a = .proceed result) ∧ ∃ i generation intervalUs st,
    s.owner = .arm i generation intervalUs ∧ s.dispatched = some (i, st)

/-- Only a dispatched expiry makes arming a danger. -/
theorem not_armsDispatched {s : AlarmTasks c} {a : AlarmTaskStep c} (h : s.dispatched = none) :
    ¬ ArmsDispatched s a := by
  rintro ⟨-, i, generation, intervalUs, st, -, hd⟩
  rw [h] at hd
  cases hd

/-! ### What the steps of a call do -/

/-- How the first section of a call can end. -/
inductive AlarmTasks.Enters (s : AlarmTasks c) (a : AlarmTaskStep c) (s' : AlarmTasks c) : Prop
  | refused (heq : s' = s)
      (hschedule : ∀ {contextValid now delayUs intervalUs},
        a = .schedule contextValid now delayUs intervalUs →
        alarmAcceptable contextValid now delayUs intervalUs = true →
        scheduleReserve s.table now delayUs intervalUs = none)
  | reserved {contextValid : Bool} {now delayUs intervalUs : UInt64} {i : Fin c.size}
      {t : AlarmTable c} {owner : AlarmOwner c}
      (ha : a = .schedule contextValid now delayUs intervalUs)
      (haccept : alarmAcceptable contextValid now delayUs intervalUs = true)
      (hreserve : scheduleReserve s.table now delayUs intervalUs = some (i, t))
      (howner : owner = .arm i (t.slots i).generation intervalUs ∨
        owner = .create i (t.slots i).generation intervalUs)
      (heq : s' = { s with table := t, owner := owner })
  | cancelled {contextValid : Bool} {handle : Int32} {i : Fin c.size} {wasArmed : Bool}
      {t : AlarmTable c} {owner : AlarmOwner c} (ha : a = .cancel contextValid handle)
      (hbegin : cancelBegin s.table handle = some (i, wasArmed, t))
      (howner : owner = .stop i (t.slots i).generation ∨
        owner = .cancelWait i (t.slots i).generation)
      (heq : s' = { s with table := t, owner := owner })
  | taken {contextValid : Bool} {handle : Int32} {owner : AlarmOwner c}
      (ha : a = .takeEvents contextValid handle)
      (howner : owner = s.owner ∨ ∃ i generation, owner = .takeWait i generation)
      (heq : s' = { s with table := (takeBegin s.table handle).2.2, owner := owner })

theorem enter_cases {s s' : AlarmTasks c} {a : AlarmTaskStep c} (hs : s.enter a = some s') :
    s.Enters a s' := by
  -- a call is refused, or its first critical section begins it
  cases a with
  | schedule contextValid now delayUs intervalUs =>
    rcases haccept : alarmAcceptable contextValid now delayUs intervalUs with - | -
    · simp only [AlarmTasks.enter, haccept, Bool.not_false, if_true, Option.some.injEq] at hs
      refine .refused hs.symm ?_
      intro _ _ _ _ ha hacceptable
      cases ha
      exact absurd (haccept.symm.trans hacceptable) (by decide)
    simp only [AlarmTasks.enter, haccept, Bool.not_true, Bool.false_eq_true, if_false] at hs
    rcases hreserve : scheduleReserve s.table now delayUs intervalUs with - | ⟨i, t⟩ <;>
      simp only [hreserve, Option.some.injEq] at hs
    · refine .refused hs.symm ?_
      intro _ _ _ _ ha _
      cases ha
      exact hreserve
    · refine .reserved rfl haccept hreserve ?_ hs.symm
      split
      · exact .inl rfl
      · exact .inr rfl
  | cancel contextValid handle =>
    rcases contextValid with - | -
    · simp only [AlarmTasks.enter, Bool.not_false, if_true, Option.some.injEq] at hs
      exact .refused hs.symm fun ha => by cases ha
    simp only [AlarmTasks.enter, Bool.not_true, Bool.false_eq_true, if_false] at hs
    rcases hbegin : cancelBegin s.table handle with - | ⟨i, wasArmed, t⟩ <;>
      simp only [hbegin, Option.some.injEq] at hs
    · exact .refused hs.symm fun ha => by cases ha
    · refine .cancelled rfl hbegin ?_ hs.symm
      split
      · exact .inl rfl
      · exact .inr rfl
  | takeEvents contextValid handle =>
    rcases contextValid with - | -
    · simp only [AlarmTasks.enter, Bool.not_false, if_true, Option.some.injEq] at hs
      exact .refused hs.symm fun ha => by cases ha
    simp only [AlarmTasks.enter, Bool.not_true, Bool.false_eq_true, if_false] at hs
    rcases htake : takeBegin s.table handle with ⟨pending, - | i, t⟩ <;>
      simp only [htake, Option.some.injEq] at hs
    · exact .taken rfl (.inl rfl) (by rw [htake]; exact hs.symm)
    · exact .taken rfl (.inr ⟨_, _, rfl⟩) (by rw [htake]; exact hs.symm)
  | proceed | expire | callback => cases hs

/-- The slot that the owner is about to arm. -/
def AlarmOwner.arming : AlarmOwner c → Option (Fin c.size)
  | .create i _ _ | .arm i _ _ => some i
  | _ => none

/-- What a later section of a call leaves to a slot; `arming` says that it is about to be armed. -/
structure Leaves (arming : Prop) (slot slot' : BMXESP32AlarmSlot) : Prop where
  pending : slot'.pending = slot.pending ∨ slot'.pending = 0
  interval : slot'.intervalUs = slot.intervalUs
  deadline : slot'.nextDeadlineUs = slot.nextDeadlineUs
  state : slot'.state = slot.state ∨ slot'.state = .free ∨ slot'.state = .armed ∧ arming

theorem Leaves.refl (arming : Prop) (slot : BMXESP32AlarmSlot) : Leaves arming slot slot :=
  ⟨.inl rfl, rfl, rfl, .inl rfl⟩

theorem leaves_set {arming : Option (Fin c.size)} (t : AlarmTable c) (i : Fin c.size)
    {f : BMXESP32AlarmSlot → BMXESP32AlarmSlot}
    (h : Leaves (arming = some i) (t.slots i) (f (t.slots i))) (j : Fin c.size) :
    Leaves (arming = some j) (t.slots j) ((t.set i f).slots j) := by
  by_cases hj : j = i
  · rw [hj, t.slots_set_self]
    exact h
  · rw [t.slots_set_of_ne hj]
    exact .refl _ _

/-- The later sections of a call touch no deadline, and bring into use the slot at most that has
been reserved. -/
theorem proceed_leaves {s s' : AlarmTasks c} {result : EspErr} (hs : s.proceed result = some s')
    (i : Fin c.size) :
    Leaves (s.owner.arming = some i) (s.table.slots i) (s'.table.slots i) := by
  -- one case for each place of the call; all but one slot stay as they are
  cases howner : s.owner <;> simp only [AlarmTasks.proceed, howner, Option.some.injEq] at hs
  case idle => cases hs
  case create j _ _ =>
    split at hs <;> obtain rfl := Option.some.inj hs
    · exact .refl _ _
    · exact leaves_set (f := fun slot => { slot with timer := true }) s.table j
        ⟨.inl rfl, rfl, rfl, .inl rfl⟩ i
  case createFailed j | startFailed j =>
    subst hs
    exact leaves_set (f := fun slot => { slot with state := .free }) s.table j
      ⟨.inl rfl, rfl, rfl, .inr (.inl rfl)⟩ i
  case arm j _ _ =>
    subst hs
    exact leaves_set (f := fun slot => { slot with state := .armed }) s.table j
      ⟨.inl rfl, rfl, rfl, .inr (.inr ⟨rfl, rfl⟩)⟩ i
  case start | cancelWait | takeWait =>
    split at hs <;> obtain rfl := Option.some.inj hs <;> exact .refl _ _
  case stop =>
    subst hs
    exact .refl _ _
  case cancelEnd j generation =>
    subst hs
    simp only [cancelEnd]
    split
    · exact leaves_set (f := fun slot => { slot with pending := 0, state := .free }) s.table j
        ⟨.inr rfl, rfl, rfl, .inr (.inl rfl)⟩ i
    · exact .refl _ _
  case takeEnd j generation =>
    subst hs
    simp only [takeEnd]
    split
    · exact leaves_set (f := fun slot => { slot with state := .free }) s.table j
        ⟨.inl rfl, rfl, rfl, .inr (.inl rfl)⟩ i
    · exact .refl _ _

/-! ### The invariant -/

/-- The start `st` was made for the current alarm of slot `i`. -/
def AlarmTable.Owns (t : AlarmTable c) (i : Fin c.size) (st : TimerStart) : Prop :=
  st.number = t.arms i ∧ st.handle = alarmHandle i (t.slots i).generation

/-- What the owner relies on between two of its steps. -/
def AlarmOwner.Ok (t : AlarmTable c) (timers : Fin c.size → EspTimer) : AlarmOwner c → Prop
  | .create i generation _ | .arm i generation _ =>
    (t.slots i).state = .reserved ∧ (t.slots i).generation = generation
  | .createFailed i => (t.slots i).state = .reserved
  | .start i generation _ => (timers i).queued = none ∧
    ((t.slots i).state = .armed ∨ (t.slots i).state = .fired) ∧
    (t.slots i).generation = generation
  | .startFailed i | .cancelEnd i _ | .takeEnd i _ => (timers i).queued = none
  | .idle | .stop .. | .cancelWait .. | .takeWait .. => True

/-- A slot whose timer is active is in use, and the timer runs for its current alarm.
So does a dispatched expiry, if the slot is armed when its callback runs. -/
structure AttributionInv (t : AlarmTable c) (timers : Fin c.size → EspTimer)
    (dispatched : Option (Fin c.size × TimerStart)) (credits : List (AlarmCredit c)) : Prop where
  queued : ∀ i st, (timers i).queued = some st → t.Owns i st ∧
    (t.slots i).state ≠ .free ∧ (t.slots i).state ≠ .reserved
  dispatched : ∀ i st, dispatched = some (i, st) → (t.slots i).state = .armed → t.Owns i st
  credits : ∀ k ∈ credits, k.cause.number = k.arms ∧ k.cause.handle = k.handle

section Steps

variable {t t' : AlarmTable c} {timers : Fin c.size → EspTimer}
  {dispatched : Option (Fin c.size × TimerStart)} {credits : List (AlarmCredit c)}

/-- Assignments that keep the generation, do not arm, and do not free a slot with an
active timer. -/
theorem AttributionInv.set (h : AttributionInv t timers dispatched credits) {i : Fin c.size}
    {f : BMXESP32AlarmSlot → BMXESP32AlarmSlot} (ht : t' = t.set i f)
    (hgen : (f (t.slots i)).generation = (t.slots i).generation)
    (hactive : (timers i).queued ≠ none →
      (f (t.slots i)).state ≠ .free ∧ (f (t.slots i)).state ≠ .reserved)
    (harmed : (f (t.slots i)).state = .armed → (t.slots i).state = .armed) :
    AttributionInv t' timers dispatched credits := by
  subst ht
  have howns (j : Fin c.size) (st : TimerStart) (ho : t.Owns j st) : (t.set i f).Owns j st := by
    refine ⟨ho.1, ho.2.trans ?_⟩
    by_cases hj : j = i
    · rw [hj, t.slots_set_self, hgen]
    · rw [t.slots_set_of_ne hj]
  refine ⟨fun j st hq => ?_, fun j st hd ha => ?_, h.credits⟩
  · obtain ⟨ho, hstate⟩ := h.queued j st hq
    refine ⟨howns j st ho, ?_⟩
    by_cases hj : j = i
    · subst hj
      rw [t.slots_set_self]
      exact hactive (by simp [hq])
    · rwa [t.slots_set_of_ne hj]
  · refine howns j st (h.dispatched j st hd ?_)
    by_cases hj : j = i
    · subst hj
      rw [t.slots_set_self] at ha
      exact harmed ha
    · rwa [t.slots_set_of_ne hj] at ha

/-- Freeing a slot whose timer is not active. -/
theorem AttributionInv.free (h : AttributionInv t timers dispatched credits) {i : Fin c.size}
    {f : BMXESP32AlarmSlot → BMXESP32AlarmSlot} (ht : t' = t.set i f)
    (hnone : (timers i).queued = none)
    (hgen : (f (t.slots i)).generation = (t.slots i).generation)
    (hfree : (f (t.slots i)).state = .free) : AttributionInv t' timers dispatched credits := by
  refine h.set ht hgen (fun hactive => absurd hnone hactive) fun harmed => ?_
  rw [hfree] at harmed
  cases harmed

/-- A slot that is free or reserved has no active timer. -/
theorem AttributionInv.inactive (h : AttributionInv t timers dispatched credits) {i : Fin c.size}
    (hi : (t.slots i).state = .free ∨ (t.slots i).state = .reserved) :
    (timers i).queued = none := by
  rcases hq : (timers i).queued with - | st
  · rfl
  · obtain ⟨-, hfree, hreserved⟩ := h.queued i st hq
    exact absurd hi (by simp [hfree, hreserved])

/-- Reserving a free slot. -/
theorem AttributionInv.reserve (h : AttributionInv t timers dispatched credits) {i : Fin c.size}
    {f : BMXESP32AlarmSlot → BMXESP32AlarmSlot} (hfree : (t.slots i).state = .free)
    (hreserved : (f (t.slots i)).state = .reserved) :
    AttributionInv (t.set i f) timers dispatched credits := by
  have hnone := h.inactive (.inl hfree)
  refine ⟨fun j st hq => ?_, fun j st hd ha => ?_, h.credits⟩
  · have hj : j ≠ i := fun he => by simp [he, hnone] at hq
    obtain ⟨⟨hnum, hhandle⟩, hstate⟩ := h.queued j st hq
    simp only [AlarmTable.Owns, t.slots_set_of_ne hj, t.arms_set]
    exact ⟨⟨hnum, hhandle⟩, hstate⟩
  · have hj : j ≠ i := fun he => by
      rw [he, t.slots_set_self, hreserved] at ha
      cases ha
    rw [t.slots_set_of_ne hj] at ha
    simp only [AlarmTable.Owns, t.slots_set_of_ne hj, t.arms_set]
    exact h.dispatched j st hd ha

/-- Arming a reserved slot, when no expiry of its timer is dispatched. -/
theorem AttributionInv.arm (h : AttributionInv t timers dispatched credits) (i : Fin c.size)
    (hreserved : (t.slots i).state = .reserved) (hclear : ∀ st, dispatched ≠ some (i, st)) :
    AttributionInv (scheduleArm t i) timers dispatched credits := by
  have hnone := h.inactive (.inr hreserved)
  refine ⟨fun j st hq => ?_, fun j st hd ha => ?_, h.credits⟩
  · have hj : j ≠ i := fun he => by simp [he, hnone] at hq
    simp only [AlarmTable.Owns, slots_scheduleArm_of_ne t hj, arms_scheduleArm_of_ne t hj]
    exact h.queued j st hq
  · have hj : j ≠ i := fun he => hclear st (he ▸ hd)
    rw [slots_scheduleArm_of_ne t hj] at ha
    simp only [AlarmTable.Owns, slots_scheduleArm_of_ne t hj, arms_scheduleArm_of_ne t hj]
    exact h.dispatched j st hd ha

/-- Starting, stopping or unlinking the timer of a slot. -/
theorem AttributionInv.timer (h : AttributionInv t timers dispatched credits) (i : Fin c.size)
    {timer : EspTimer}
    (hqueued : ∀ st, timer.queued = some st → t.Owns i st ∧
      (t.slots i).state ≠ .free ∧ (t.slots i).state ≠ .reserved) :
    AttributionInv t (Function.update timers i timer) dispatched credits := by
  refine ⟨fun j st hq => ?_, h.dispatched, h.credits⟩
  by_cases hj : j = i
  · subst hj
    rw [Function.update_self] at hq
    exact hqueued st hq
  · rw [Function.update_of_ne hj] at hq
    exact h.queued j st hq

end Steps

/-! ### Every step keeps it -/

/-- The callback keeps what the owner relies on: it changes armed slots only. -/
theorem AlarmOwner.Ok.callback {t : AlarmTable c} {timers : Fin c.size → EspTimer}
    {owner : AlarmOwner c} (h : owner.Ok t timers) (i : Fin c.size) :
    owner.Ok (bmxEsp32AlarmCallback t i) timers := by
  rcases callback_cases t i with he | ⟨hk, harmed, hstate⟩
  · rwa [he]
  · cases owner with
    | create j generation _ | arm j generation _ | createFailed j =>
      have hji : j ≠ i := fun he => by
        simp [AlarmOwner.Ok, he, harmed] at h
      simpa only [AlarmOwner.Ok, hk.elsewhere j hji] using h
    | start j generation _ =>
      obtain ⟨hnone, hj, hgen⟩ := h
      by_cases hji : j = i
      · subst hji
        exact ⟨hnone, hstate, hk.generation.trans hgen⟩
      · simp only [AlarmOwner.Ok, hk.elsewhere j hji]
        exact ⟨hnone, hj, hgen⟩
    | _ => exact h

/-- The owner does not need a timer to be active. -/
theorem AlarmOwner.Ok.unlink {t : AlarmTable c} {timers : Fin c.size → EspTimer}
    {owner : AlarmOwner c} (h : owner.Ok t timers) (i : Fin c.size) :
    owner.Ok t (Function.update timers i { timers i with queued := none }) := by
  have hnone (j : Fin c.size) (hj : (timers j).queued = none) :
      (Function.update timers i { timers i with queued := none } j).queued = none := by
    by_cases hji : j = i
    · rw [hji, Function.update_self]
    · rwa [Function.update_of_ne hji]
  cases owner with
  | start j _ _ => exact ⟨hnone j h.1, h.2⟩
  | startFailed j | cancelEnd j _ | takeEnd j _ => exact hnone j h
  | _ => exact h

/-- The whole invariant of a state. -/
def AlarmTasks.Inv (s : AlarmTasks c) : Prop :=
  AttributionInv s.table s.timers s.dispatched s.credits ∧ s.owner.Ok s.table s.timers

theorem inv_enter {s s' : AlarmTasks c} (h : s.Inv) (hidle : s.owner = .idle) {a : AlarmTaskStep c}
    (hs : s.enter a = some s') : s'.Inv := by
  obtain ⟨hinv, hok⟩ := h
  cases enter_cases hs with
  | refused heq =>
    subst heq
    exact ⟨hinv, hok⟩
  | @reserved _ _ _ _ i _ _ _ _ hreserve howner heq =>
    obtain ⟨hfree, f, rfl, hreserved, -⟩ := scheduleReserve_eq_some hreserve
    subst heq
    -- a reserved slot has a new generation, and no expiry yet
    refine ⟨hinv.reserve hfree hreserved, ?_⟩
    have hslot : ((s.table.set i f).slots i).state = .reserved := by
      rw [s.table.slots_set_self, hreserved]
    rcases howner with rfl | rfl
    · exact ⟨hslot, rfl⟩
    · exact ⟨hslot, rfl⟩
  | cancelled _ hbegin howner heq =>
    obtain rfl := cancelBegin_eq_some hbegin
    subst heq
    refine ⟨hinv.set (f := fun slot => { slot with state := .releasing }) rfl rfl
      (fun _ => ⟨nofun, nofun⟩) nofun, ?_⟩
    rcases howner with rfl | rfl <;> exact trivial
  | @taken _ handle _ _ howner heq =>
    subst heq
    refine ⟨?_, ?_⟩
    · rcases takeBegin_cases s.table handle with ⟨he, -⟩ | ⟨i, f, he, hgen, -, -, hstate⟩
      · dsimp only
        rwa [he]
      · refine hinv.set he hgen (fun hactive => ?_) fun harmed => ?_
        · -- a timer that still runs keeps its slot in use
          obtain ⟨st, hst⟩ := Option.ne_none_iff_exists'.mp hactive
          obtain ⟨-, hused⟩ := hinv.queued i st hst
          rcases hstate with ⟨-, hr⟩ | ⟨-, hr, -⟩
          · rw [hr]
            exact ⟨nofun, nofun⟩
          · rwa [hr]
        · rcases hstate with ⟨-, hr⟩ | ⟨-, hr, -⟩
          · rw [hr] at harmed
            cases harmed
          · rwa [hr] at harmed
    · rcases howner with rfl | ⟨i, generation, rfl⟩
      · rw [hidle]
        exact trivial
      · exact trivial

theorem inv_proceed {s s' : AlarmTasks c} (h : s.Inv) {result : EspErr}
    (hclear : ¬ ArmsDispatched s (.proceed result)) (hs : s.proceed result = some s') :
    s'.Inv := by
  obtain ⟨hinv, hok⟩ := h
  cases howner : s.owner <;> rw [howner] at hok <;>
    simp only [AlarmTasks.proceed, howner, Option.some.injEq] at hs
  case idle => cases hs
  case create i generation intervalUs =>
    obtain ⟨hstate, hgen⟩ := hok
    split_ifs at hs with hresult
    · obtain rfl := Option.some.inj hs
      exact ⟨hinv, hstate⟩
    · obtain rfl := Option.some.inj hs
      -- the slot is not in use yet, so no expiry of it is under way
      have hnone := hinv.inactive (.inr hstate)
      refine ⟨hinv.set (f := fun slot => { slot with timer := true }) rfl rfl
        (fun hactive => absurd hnone hactive) id, ?_, ?_⟩
      · rw [scheduleCreated, s.table.slots_set_self]
        exact hstate
      · rw [scheduleCreated, s.table.slots_set_self]
        exact hgen
  case createFailed i =>
    have hnone := hinv.inactive (.inr hok)
    exact hs ▸ ⟨hinv.free (f := fun slot => { slot with state := .free }) rfl hnone rfl rfl,
      trivial⟩
  case arm i generation intervalUs =>
    obtain ⟨hstate, hgen⟩ := hok
    have hnone := hinv.inactive (.inr hstate)
    subst hs
    -- here a taken expiry would be credited to the new alarm, which the condition excludes
    refine ⟨hinv.arm i hstate fun st hd => hclear ⟨⟨_, rfl⟩, _, _, _, _, howner, hd⟩,
      hnone, .inl ?_, ?_⟩
    · rw [slots_scheduleArm_self]
    · rw [slots_scheduleArm_self]
      exact hgen
  case start i generation intervalUs =>
    obtain ⟨hnone, hstate, hgen⟩ := hok
    split_ifs at hs with hresult
    · obtain rfl := Option.some.inj hs
      exact ⟨hinv, hnone⟩
    · obtain rfl := Option.some.inj hs
      -- the timer carries the handle that the slot has now
      refine ⟨hinv.timer i fun st hst => ?_, trivial⟩
      obtain rfl := Option.some.inj hst
      refine ⟨⟨rfl, ?_⟩, ?_⟩
      · rw [hgen]
      · rcases hstate with hstate | hstate <;> rw [hstate] <;> decide
  case startFailed i =>
    exact hs ▸ ⟨hinv.free (f := fun slot => { slot with state := .free }) rfl hok rfl rfl,
      trivial⟩
  case stop i generation => exact hs ▸ ⟨hinv.timer i nofun, trivial⟩
  case cancelWait i generation =>
    split_ifs at hs with hactive
    · obtain rfl := Option.some.inj hs
      exact ⟨hinv, by rw [howner]; trivial⟩
    · obtain rfl := Option.some.inj hs
      exact ⟨hinv, by simpa [AlarmOwner.Ok] using hactive⟩
  case takeWait i generation =>
    split_ifs at hs with hactive
    · obtain rfl := Option.some.inj hs
      exact ⟨hinv, by rw [howner]; trivial⟩
    · obtain rfl := Option.some.inj hs
      exact ⟨hinv, by simpa [AlarmOwner.Ok] using hactive⟩
  case cancelEnd i generation =>
    subst hs
    refine ⟨?_, trivial⟩
    simp only [cancelEnd]
    split_ifs
    · exact hinv.free (f := fun slot => { slot with pending := 0, state := .free }) rfl hok rfl
        rfl
    · exact hinv
  case takeEnd i generation =>
    subst hs
    refine ⟨?_, trivial⟩
    simp only [takeEnd]
    split_ifs
    · exact hinv.free (f := fun slot => { slot with state := .free }) rfl hok rfl rfl
    · exact hinv

theorem inv_expire {s s' : AlarmTasks c} (h : s.Inv) {i : Fin c.size}
    (hs : s.expire i = some s') : s'.Inv := by
  obtain ⟨hinv, hok⟩ := h
  rcases hd : s.dispatched with - | ⟨j, st⟩
  · rcases hq : (s.timers i).queued with - | st
    · simp [AlarmTasks.expire, hd, hq] at hs
    simp only [AlarmTasks.expire, hd, hq, Option.some.injEq] at hs
    obtain ⟨howns, -⟩ := hinv.queued i st hq
    have htaken (timers : Fin c.size → EspTimer)
        (h : AttributionInv s.table timers s.dispatched s.credits) :
        AttributionInv s.table timers (some (i, st)) s.credits := by
      refine ⟨h.queued, fun j st' he _ => ?_, h.credits⟩
      obtain ⟨rfl, rfl⟩ := Prod.mk.inj (Option.some.inj he)
      exact howns
    subst hs
    by_cases hperiodic : (s.timers i).periodic
    · simp only [if_pos hperiodic]
      exact ⟨htaken _ hinv, hok⟩
    · simp only [if_neg hperiodic]
      exact ⟨htaken _ (hinv.timer i nofun), hok.unlink i⟩
  · simp [AlarmTasks.expire, hd] at hs

theorem inv_callback {s s' : AlarmTasks c} (h : s.Inv) (hs : s.callback = some s') :
    s'.Inv := by
  obtain ⟨hinv, hok⟩ := h
  rcases hd : s.dispatched with - | ⟨i, st⟩
  · simp [AlarmTasks.callback, hd] at hs
  simp only [AlarmTasks.callback, hd, Option.some.injEq] at hs
  subst hs
  refine ⟨?_, hok.callback i⟩
  have hcredits : ∀ k ∈ (if (s.table.slots i).state = .armed then
      s.credits ++ [⟨i, s.table.arms i, alarmHandle i (s.table.slots i).generation, st⟩]
      else s.credits), k.cause.number = k.arms ∧ k.cause.handle = k.handle := by
    split_ifs with harmed
    · intro k hk
      rcases List.mem_append.mp hk with hold | hnew
      · exact hinv.credits k hold
      · obtain rfl := List.mem_singleton.mp hnew
        exact hinv.dispatched i st hd harmed
    · exact hinv.credits
  have hafter : AttributionInv (bmxEsp32AlarmCallback s.table i) s.timers s.dispatched s.credits := by
    rw [bmxEsp32AlarmCallback]
    split_ifs with harmed
    · refine hinv.set rfl ?_ (fun _ => ?_) fun _ => harmed
      · dsimp only
        split_ifs <;> rfl
      · dsimp only
        split_ifs <;> simp [harmed]
    · exact hinv
  exact ⟨hafter.queued, fun _ _ hnone => absurd hnone.symm (Option.some_ne_none _), hcredits⟩

theorem inv_step {s s' : AlarmTasks c} (h : s.Inv) {a : AlarmTaskStep c}
    (hclear : ¬ ArmsDispatched s a) (hs : s.step a = some s') : s'.Inv := by
  cases a with
  | proceed result => exact inv_proceed h hclear hs
  | expire i => exact inv_expire h hs
  | callback => exact inv_callback h hs
  | schedule | cancel | takeEvents =>
    cases hidle : s.owner <;> simp only [AlarmTasks.step, hidle, reduceCtorEq] at hs
    exact inv_enter h hidle hs

/-! ### Every event is credited -/

/-- The slot gets an event: its count grows, its deadline moves on, or it fires. -/
def Credited (old new : BMXESP32AlarmSlot) : Prop :=
  old.pending < new.pending ∨
  (old.state ≠ .free ∧ old.nextDeadlineUs ≠ new.nextDeadlineUs) ∨
  (old.state = .armed ∧ new.state = .fired)

theorem not_credited_self (slot : BMXESP32AlarmSlot) : ¬ Credited slot slot := by
  rintro (h | ⟨-, h⟩ | ⟨h, h'⟩)
  · exact UInt32.lt_irrefl _ h
  · exact h rfl
  · rw [h] at h'
    cases h'

/-- Assignments that give no event. -/
theorem not_credited_set {t : AlarmTable c} {i j : Fin c.size}
    (f : BMXESP32AlarmSlot → BMXESP32AlarmSlot)
    (hpending : (f (t.slots i)).pending = (t.slots i).pending ∨ (f (t.slots i)).pending = 0)
    (hdeadline : (t.slots i).state = .free ∨
      (f (t.slots i)).nextDeadlineUs = (t.slots i).nextDeadlineUs)
    (hstate : (f (t.slots i)).state = .fired → (t.slots i).state ≠ .armed) :
    ¬ Credited (t.slots j) ((t.set i f).slots j) := by
  by_cases hj : j = i
  · subst hj
    rw [t.slots_set_self]
    rintro (h | ⟨hused, h⟩ | ⟨h, h'⟩)
    · rcases hpending with hp | hp <;> rw [hp] at h
      · exact UInt32.lt_irrefl _ h
      · exact UInt32.not_lt_zero h
    · exact hdeadline.elim hused fun he => h he.symm
    · exact hstate h' h
  · rw [t.slots_set_of_ne hj]
    exact not_credited_self _

/-- No step of the owner gives an event. -/
theorem not_credited_enter {s s' : AlarmTasks c} {a : AlarmTaskStep c}
    (hs : s.enter a = some s') (i : Fin c.size) :
    ¬ Credited (s.table.slots i) (s'.table.slots i) := by
  cases enter_cases hs with
  | refused heq =>
    subst heq
    exact not_credited_self _
  | reserved _ _ hreserve _ heq =>
    obtain ⟨hfree, f, rfl, hreserved, hpending, -⟩ := scheduleReserve_eq_some hreserve
    subst heq
    exact not_credited_set f (.inr hpending) (.inl hfree) fun h => by rw [hfree]; nofun
  | cancelled _ hbegin _ heq =>
    obtain rfl := cancelBegin_eq_some hbegin
    subst heq
    exact not_credited_set (fun slot => { slot with state := .releasing }) (.inl rfl) (.inr rfl)
      nofun
  | @taken _ handle _ _ _ heq =>
    subst heq
    dsimp only
    rcases takeBegin_cases s.table handle with ⟨he, -⟩ | ⟨j, f, he, -, hpending, hdeadline, hstate⟩
    · rw [he]
      exact not_credited_self _
    · rw [he]
      refine not_credited_set f (.inr hpending) (.inr hdeadline) fun hfired => ?_
      rcases hstate with ⟨-, hr⟩ | ⟨hne, hr, -⟩
      · rw [hr] at hfired
        cases hfired
      · exact absurd (hr ▸ hfired) hne

theorem not_credited_proceed {s s' : AlarmTasks c} {result : EspErr}
    (hs : s.proceed result = some s') (i : Fin c.size) :
    ¬ Credited (s.table.slots i) (s'.table.slots i) := by
  obtain ⟨hpending, -, hdeadline, hstate⟩ := proceed_leaves hs i
  rintro (h | ⟨-, h⟩ | ⟨harmed, hfired⟩)
  · rcases hpending with hp | hp <;> rw [hp] at h
    · exact UInt32.lt_irrefl _ h
    · exact UInt32.not_lt_zero h
  · exact h hdeadline.symm
  · rw [hfired, harmed] at hstate
    rcases hstate with h | h | ⟨h, -⟩ <;> cases h

/-- **A slot gets an event from a callback only**, and the event is recorded with the
expiry that caused it. -/
theorem credited_logged {s s' : AlarmTasks c} {a : AlarmTaskStep c} (hs : s.step a = some s')
    {i : Fin c.size} (hc : Credited (s.table.slots i) (s'.table.slots i)) :
    ∃ st, s.dispatched = some (i, st) ∧ s'.credits = s.credits ++
      [⟨i, s.table.arms i, alarmHandle i (s.table.slots i).generation, st⟩] := by
  cases a with
  | proceed result => exact absurd hc (not_credited_proceed hs i)
  | schedule | cancel | takeEvents =>
    cases hidle : s.owner <;> simp only [AlarmTasks.step, hidle, reduceCtorEq] at hs
    exact absurd hc (not_credited_enter hs i)
  | expire j =>
    simp only [AlarmTasks.step, AlarmTasks.expire] at hs
    split at hs
    · obtain rfl := Option.some.inj hs
      exact absurd hc (not_credited_self _)
    · cases hs
  | callback =>
    rcases hd : s.dispatched with - | ⟨j, st⟩
    · simp [AlarmTasks.step, AlarmTasks.callback, hd] at hs
    simp only [AlarmTasks.step, AlarmTasks.callback, hd, Option.some.injEq] at hs
    subst hs
    dsimp only at hc ⊢
    by_cases harmed : (s.table.slots j).state = .armed
    · by_cases hi : i = j
      · subst hi
        exact ⟨st, rfl, by rw [if_pos harmed]⟩
      · rw [bmxEsp32AlarmCallback, if_pos harmed, s.table.slots_set_of_ne hi] at hc
        exact absurd hc (not_credited_self _)
    · rw [bmxEsp32AlarmCallback, if_neg harmed] at hc
      exact absurd hc (not_credited_self _)

/-! ### Attribution -/

/-- Every event was credited to the alarm whose schedule call made the start that
expired; and any step that gives a slot an event records it. -/
structure Attributed (s : AlarmTasks c) : Prop where
  own : ∀ k ∈ s.credits, k.cause.number = k.arms ∧ k.cause.handle = k.handle
  logged : ∀ a s', s.step a = some s' → ∀ i, Credited (s.table.slots i) (s'.table.slots i) →
    ∃ st, s.dispatched = some (i, st) ∧ s'.credits = s.credits ++
      [⟨i, s.table.arms i, alarmHandle i (s.table.slots i).generation, st⟩]

/-- **Alarm events are attributed to their own alarm** in every run in which no slot
is armed while an expiry of its timer is dispatched. -/
theorem alarm_events_attributed (s : AlarmTasks c)
    (h : (alarmTaskMachine c).ReachableIn (fun s a => ¬ ArmsDispatched s a) s) :
    Attributed s := by
  have hinv : s.Inv := by
    refine h.invariant (I := AlarmTasks.Inv) (fun s₀ h₀ => ?_)
      fun s a s' hs hclear hstep => inv_step hs hclear hstep
    obtain rfl := h₀
    exact ⟨⟨nofun, nofun, nofun⟩, trivial⟩
  exact ⟨hinv.1.credits, fun _ _ hs _ hc => credited_logged hs hc⟩

/-- A one-shot alarm is scheduled, expires, and gets its event. -/
theorem alarm_events_attributed_one_shot : ∃ s : AlarmTasks bmxEsp32AlarmCapacity,
    (s.credits.any fun k => k.handle == 257) = true ∧ Attributed s := by
  refine ⟨_, ?_, alarm_events_attributed _
    (.step (a := .callback) (.step (a := .expire ⟨0, by decide⟩)
      (.step (a := .proceed espOk) (.step (a := .proceed espOk) (.step (a := .proceed espOk)
        (.step (a := .schedule true 0 1000 0) (.init rfl)
        (not_armsDispatched rfl) rfl) (not_armsDispatched rfl) rfl) (not_armsDispatched rfl) rfl)
        (not_armsDispatched rfl) rfl) (not_armsDispatched rfl) rfl) nofun rfl)⟩
  decide

/-- A periodic alarm is scheduled and its timer expires; it is cancelled before its
callback runs, and its slot is armed for a one-shot alarm. -/
def staleExpiry : List (AlarmTaskStep bmxEsp32AlarmCapacity) :=
  [.schedule true 0 1000 1000, .proceed espOk, .proceed espOk, .proceed espOk,
    .expire ⟨0, by decide⟩,
    .cancel true 257, .proceed espOk, .proceed espOk, .proceed espOk,
    .schedule true 0 5000 0, .proceed espOk, .callback]

/-- The one-shot alarm fires on the expiry of the cancelled one, before its own timer
is started. -/
theorem alarm_events_misattributed :
    ∃ s, (alarmTaskMachine bmxEsp32AlarmCapacity).Reachable s ∧ ¬ Attributed s := by
  obtain ⟨s, hs, hany⟩ := exists_reachable_of_run (M := alarmTaskMachine bmxEsp32AlarmCapacity)
    (s := .boot) staleExpiry (fun s => s.credits.any fun k => k.cause.number != k.arms) rfl
    (by decide)
  obtain ⟨k, hk, hne⟩ := List.any_eq_true.mp hany
  refine ⟨s, hs, fun hattributed => ?_⟩
  simp [(hattributed.own k hk).1] at hne

end Esp32Mod
