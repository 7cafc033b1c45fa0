/-
Esp32Mod/AlarmSlots.lean

Alarm slots and handles over whole calls: schedule, cancel, take_events and the
queries, each run to its end, with timer callbacks between them.

Handles come from the application and are arbitrary, as are the results of
`esp_timer_create` and `esp_timer_start`.  The wait for the timer to become inactive is
not a step here: no other task runs during a call, and the wait changes no slot.

The system carries two lists that are not in the source: the handles of live alarms,
and the released handles, each with the number of times its slot had been armed by then.
`AlarmInv` ties both to the slot table.  A call can do four things to a slot, and the
invariant lemmas follow them: `AlarmInv.touch`, `AlarmInv.release`, `AlarmInv.reserve` and
`AlarmInv.start`.

Main result: `alarm_discipline`.
-/
import Esp32Mod.Alarm
import Esp32Mod.StepMachine
import Mathlib.Algebra.Order.Ring.Nat

namespace Esp32Mod

open StepMachine

variable {c : AlarmCapacity}

/-! ### Whole calls -/

/-- `created` and `started` are the results of `esp_timer_create` and of the start. -/
def bmxEsp32AlarmSchedule (contextValid : Bool) (now delayUs intervalUs : UInt64)
    (created started : EspErr) (t : AlarmTable c) : Int32 × AlarmTable c :=
  if !alarmAcceptable contextValid now delayUs intervalUs then (0, t)
  else
    match scheduleReserve t now delayUs intervalUs with
    | none => (0, t)
    | some (i, t) =>
      if (t.slots i).timer = false ∧ created ≠ espOk then (0, scheduleFailed t i)
      else
        let t := scheduleArm (if (t.slots i).timer then t else scheduleCreated t i) i
        if started ≠ espOk then (0, scheduleFailed t i)
        else (alarmHandle i (t.slots i).generation, t)

/-- 1 where the handle named an alarm, which is released. -/
def bmxEsp32AlarmCancel (contextValid : Bool) (handle : Int32) (t : AlarmTable c) :
    Int32 × AlarmTable c :=
  if !contextValid then (0, t)
  else
    match cancelBegin t handle with
    | none => (0, t)
    | some (i, _, t) => (1, cancelEnd t i (t.slots i).generation)

/-- The expiries so far; a one-shot alarm that has fired is released. -/
def bmxEsp32AlarmTakeEvents (contextValid : Bool) (handle : Int32) (t : AlarmTable c) :
    UInt32 × AlarmTable c :=
  if !contextValid then (0, t)
  else
    match takeBegin t handle with
    | (pending, none, t) => (pending, t)
    | (pending, some i, t) => (pending, takeEnd t i (t.slots i).generation)

/-! ### The system -/

/-- A released handle: its slot, and how often that had been armed. -/
structure ReleasedAlarm (c : AlarmCapacity) where
  handle : Int32
  slot : Fin c.size
  arms : Nat

/-- The table, the handles that are alive and those that have been released. -/
structure AlarmSystem (c : AlarmCapacity) where
  table : AlarmTable c
  live : List Int32
  released : List (ReleasedAlarm c)

/-- No alarm. -/
def AlarmSystem.boot : AlarmSystem c := ⟨.boot, [], []⟩

/-- A call, or a timer callback between calls.  The queries change nothing, so they
are not actions. -/
inductive AlarmCall (c : AlarmCapacity)
  | schedule (contextValid : Bool) (now delayUs intervalUs : UInt64) (created started : EspErr)
  | cancel (contextValid : Bool) (handle : Int32)
  | takeEvents (contextValid : Bool) (handle : Int32)
  | callback (i : Fin c.size)

/-- `handle` is released, and the table is now `t`. -/
def AlarmSystem.release (s : AlarmSystem c) (handle : Int32) (i : Fin c.size)
    (t : AlarmTable c) : AlarmSystem c where
  table := t
  live := s.live.erase handle
  released := ⟨handle, i, t.arms i⟩ :: s.released

/-- A handle is live from the schedule that returns it.  It is released by a cancel
that returns 1, and by a take of the events of a fired alarm. -/
def AlarmSystem.step (s : AlarmSystem c) : AlarmCall c → AlarmSystem c
  | .schedule contextValid now delayUs intervalUs created started =>
    let r := bmxEsp32AlarmSchedule contextValid now delayUs intervalUs created started s.table
    { s with table := r.2, live := if r.1 = 0 then s.live else r.1 :: s.live }
  | .cancel contextValid handle =>
    let r := bmxEsp32AlarmCancel contextValid handle s.table
    match bmxEsp32AlarmSlotLocked s.table handle with
    | none => { s with table := r.2 }
    | some i => if r.1 = 1 then s.release handle i r.2 else { s with table := r.2 }
  | .takeEvents contextValid handle =>
    let r := bmxEsp32AlarmTakeEvents contextValid handle s.table
    match bmxEsp32AlarmSlotLocked s.table handle with
    | none => { s with table := r.2 }
    | some i =>
      if contextValid ∧ (s.table.slots i).state = .fired then s.release handle i r.2
      else { s with table := r.2 }
  | .callback i => { s with table := bmxEsp32AlarmCallback s.table i }

/-- Calls and expiries, one after the other. -/
def alarmMachine (c : AlarmCapacity) : Machine (AlarmSystem c) (AlarmCall c) where
  init s := s = AlarmSystem.boot
  step s a := some (s.step a)

/-! ### What a call does to the table -/

/-- Slot `i` was free and has a new generation.  It was armed, which needs a timer,
unless the timer could not be created. -/
structure Reserves (t t' : AlarmTable c) (i : Fin c.size) : Prop where
  elsewhere : ∀ j, j ≠ i → t'.slots j = t.slots j ∧ t'.arms j = t.arms j
  free : (t.slots i).state = .free
  generation : (t'.slots i).generation = nextGeneration (t.slots i).generation
  armed : (t.slots i).timer = true →
    (t'.slots i).timer = true ∧ t'.arms i = t.arms i + 1

/-- Without a timer the reserved slot is given back. -/
theorem reserves_of_uncreated {t t' : AlarmTable c} {now delayUs intervalUs : UInt64}
    {i : Fin c.size} (h : scheduleReserve t now delayUs intervalUs = some (i, t'))
    (htimer : (t'.slots i).timer = false) : Reserves t (scheduleFailed t' i) i := by
  obtain ⟨hfree, f, rfl, -, -, hgen, hsame⟩ := scheduleReserve_eq_some h
  refine ⟨fun j hj => ⟨?_, rfl⟩, hfree, ?_, fun ht => ?_⟩
  · rw [scheduleFailed, AlarmTable.slots_set_of_ne _ hj, t.slots_set_of_ne hj]
  · rw [scheduleFailed, AlarmTable.slots_set_self, t.slots_set_self, hgen]
  · rw [t.slots_set_self, hsame, ht] at htimer
    cases htimer

/-- With a timer, old or new, the reserved slot is armed. -/
theorem reserves_arm {t t' : AlarmTable c} {now delayUs intervalUs : UInt64}
    {i : Fin c.size} (h : scheduleReserve t now delayUs intervalUs = some (i, t')) :
    let t'' := scheduleArm (if (t'.slots i).timer then t' else scheduleCreated t' i) i
    Reserves t t'' i ∧ (t''.slots i).state = .armed ∧ (t''.slots i).timer = true := by
  obtain ⟨hfree, f, rfl, -, -, hgen, -⟩ := scheduleReserve_eq_some h
  have hmid : ∀ u, u = (if ((t.set i f).slots i).timer then t.set i f
      else scheduleCreated (t.set i f) i) →
      u.arms = t.arms ∧ (∀ j, j ≠ i → u.slots j = t.slots j) ∧
      (u.slots i).generation = nextGeneration (t.slots i).generation ∧
      (u.slots i).timer = true := by
    rintro u rfl
    split_ifs with htimer
    · exact ⟨rfl, fun j hj => t.slots_set_of_ne hj f, by rw [t.slots_set_self, hgen], htimer⟩
    · refine ⟨rfl, fun j hj => ?_, ?_, ?_⟩
      · rw [scheduleCreated, AlarmTable.slots_set_of_ne _ hj, t.slots_set_of_ne hj]
      · rw [scheduleCreated, AlarmTable.slots_set_self, t.slots_set_self, hgen]
      · rw [scheduleCreated, AlarmTable.slots_set_self]
  obtain ⟨harms, helse, hgen', htimer'⟩ := hmid _ rfl
  refine ⟨⟨fun j hj => ⟨?_, ?_⟩, hfree, ?_, fun _ => ⟨?_, ?_⟩⟩, ?_, ?_⟩
  · rw [slots_scheduleArm_of_ne _ hj, helse j hj]
  · rw [arms_scheduleArm_of_ne _ hj, harms]
  · rw [slots_scheduleArm_self, hgen']
  · rw [slots_scheduleArm_self, htimer']
  · rw [arms_scheduleArm_self, harms]
  · rw [slots_scheduleArm_self]
  · rw [slots_scheduleArm_self, htimer']

/-- A failed start gives the reserved slot back. -/
theorem Reserves.failed {t t' : AlarmTable c} {i : Fin c.size} (h : Reserves t t' i) :
    Reserves t (scheduleFailed t' i) i where
  elsewhere j hj := by
    rw [scheduleFailed, t'.slots_set_of_ne hj, t'.arms_set]
    exact h.elsewhere j hj
  free := h.free
  generation := by rw [scheduleFailed, t'.slots_set_self, h.generation]
  armed ht := by
    rw [scheduleFailed, t'.slots_set_self, t'.arms_set]
    exact h.armed ht

/-- **What schedule does**: nothing, or it reserves a free slot, which ends up armed
under the returned handle or free again. -/
theorem schedule_cases (contextValid : Bool) (now delayUs intervalUs : UInt64)
    (created started : EspErr) (t : AlarmTable c) :
    let r := bmxEsp32AlarmSchedule contextValid now delayUs intervalUs created started t
    (r = (0, t) ∧ (alarmAcceptable contextValid now delayUs intervalUs = false ∨
      ∀ i, (t.slots i).state ≠ .free)) ∨
    ∃ i, Reserves t r.2 i ∧
      ((r.1 = 0 ∧ (r.2.slots i).state = .free ∧ (created ≠ espOk ∨ started ≠ espOk)) ∨
        (r.1 = alarmHandle i (r.2.slots i).generation ∧ (r.2.slots i).state = .armed ∧
          (r.2.slots i).timer = true)) := by
  simp only [bmxEsp32AlarmSchedule]
  rcases haccept : alarmAcceptable contextValid now delayUs intervalUs with - | -
  · exact .inl ⟨rfl, .inl rfl⟩
  simp only [Bool.not_true, Bool.false_eq_true, if_false]
  rcases hres : scheduleReserve t now delayUs intervalUs with - | ⟨i, t'⟩
  · refine .inl ⟨rfl, .inr ?_⟩
    rw [scheduleReserve, Option.map_eq_none_iff] at hres
    exact freeSlot_eq_none.mp hres
  · obtain ⟨harm, hstate, htimer⟩ := reserves_arm hres
    refine .inr ⟨i, ?_⟩
    by_cases hcreate : (t'.slots i).timer = false ∧ created ≠ espOk
    · simp only [if_pos hcreate]
      exact ⟨reserves_of_uncreated hres hcreate.1,
        .inl ⟨trivial, by rw [scheduleFailed, t'.slots_set_self], .inl hcreate.2⟩⟩
    · simp only [if_neg hcreate]
      by_cases hstart : started ≠ espOk
      · simp only [if_pos hstart]
        exact ⟨harm.failed,
          .inl ⟨trivial, by rw [scheduleFailed, AlarmTable.slots_set_self], .inr hstart⟩⟩
      · simp only [if_neg hstart]
        exact ⟨harm, .inr ⟨trivial, hstate, htimer⟩⟩

/-- What cancel does to a slot that is armed or fired. -/
theorem cancel_of_slotLocked {t : AlarmTable c} {handle : Int32} {i : Fin c.size}
    (h : bmxEsp32AlarmSlotLocked t handle = some i)
    (hstate : (t.slots i).state = .armed ∨ (t.slots i).state = .fired) :
    let r := bmxEsp32AlarmCancel true handle t
    r.1 = 1 ∧ Keeps t r.2 i ∧ (r.2.slots i).state = .free := by
  simp only [bmxEsp32AlarmCancel, cancelBegin, h, if_pos hstate, Bool.not_true,
    Bool.false_eq_true, if_false, cancelEnd, t.slots_set_self, and_self, if_true, true_and]
  refine ⟨(keeps_set t i rfl rfl).trans (keeps_set _ i rfl rfl), ?_⟩
  rw [AlarmTable.slots_set_self]

/-- What take_events does to a slot it finds. -/
theorem take_of_slotLocked {t : AlarmTable c} {handle : Int32} {i : Fin c.size}
    (h : bmxEsp32AlarmSlotLocked t handle = some i) (htimer : (t.slots i).timer = true) :
    let r := bmxEsp32AlarmTakeEvents true handle t
    Keeps t r.2 i ∧
      (r.2.slots i).state = if (t.slots i).state = .fired then .free else (t.slots i).state := by
  by_cases hfired : (t.slots i).state = .fired
  · simp only [bmxEsp32AlarmTakeEvents, takeBegin, h, if_pos hfired, htimer, Bool.not_true,
      Bool.false_eq_true, if_false, if_true, takeEnd, t.slots_set_self, and_self]
    refine ⟨(keeps_set t i rfl rfl).trans (keeps_set _ i rfl rfl), ?_⟩
    rw [AlarmTable.slots_set_self]
  · simp only [bmxEsp32AlarmTakeEvents, takeBegin, h, if_neg hfired, Bool.not_true,
      Bool.false_eq_true, if_false]
    refine ⟨keeps_set t i rfl rfl, ?_⟩
    rw [AlarmTable.slots_set_self]

/-- Cancel and take_events do nothing under an unknown handle or an invalid context. -/
theorem cancel_of_unknown {t : AlarmTable c} {handle : Int32} {contextValid : Bool}
    (h : contextValid = true → bmxEsp32AlarmSlotLocked t handle = none) :
    bmxEsp32AlarmCancel contextValid handle t = (0, t) := by
  rcases contextValid with - | -
  · rfl
  · simp [bmxEsp32AlarmCancel, cancelBegin, h rfl]

theorem take_of_unknown {t : AlarmTable c} {handle : Int32} {contextValid : Bool}
    (h : contextValid = true → bmxEsp32AlarmSlotLocked t handle = none) :
    bmxEsp32AlarmTakeEvents contextValid handle t = (0, t) := by
  rcases contextValid with - | -
  · rfl
  · simp [bmxEsp32AlarmTakeEvents, takeBegin, h rfl]

/-! ### The invariant -/

/-- A released handle: its generation `g`, and how far the slot has moved on since.
As long as the slot has not been armed again it is free. -/
def ReleasedOk (t : AlarmTable c) (r : ReleasedAlarm c) : Prop :=
  ∃ g, ValidGeneration g ∧ r.handle = alarmHandle r.slot g ∧
    ValidGeneration (t.slots r.slot).generation ∧ (t.slots r.slot).timer = true ∧
    r.arms ≤ t.arms r.slot ∧
    (t.slots r.slot).generation.toNat - 1 =
      (g.toNat - 1 + (t.arms r.slot - r.arms)) % 0x7fffff ∧
    (t.arms r.slot = r.arms → (t.slots r.slot).state = .free)

/-- What the slots say of the handles. -/
structure AlarmInv (t : AlarmTable c) (live : List Int32) (released : List (ReleasedAlarm c)) :
    Prop where
  settled : ∀ i, (t.slots i).state = .free ∨ (t.slots i).state = .armed ∨
    (t.slots i).state = .fired
  alive : ∀ i, (t.slots i).state ≠ .free →
    ValidGeneration (t.slots i).generation ∧ (t.slots i).timer = true
  nodup : live.Nodup
  live_iff : ∀ h, h ∈ live ↔
    ∃ i, (t.slots i).state ≠ .free ∧ h = alarmHandle i (t.slots i).generation
  released : ∀ r ∈ released, ReleasedOk t r

theorem ReleasedOk.keep {t t' : AlarmTable c} {r : ReleasedAlarm c} (h : ReleasedOk t r)
    (hgen : (t'.slots r.slot).generation = (t.slots r.slot).generation)
    (htimer : (t'.slots r.slot).timer = (t.slots r.slot).timer)
    (harms : t'.arms r.slot = t.arms r.slot)
    (hfree : (t.slots r.slot).state = .free → (t'.slots r.slot).state = .free) :
    ReleasedOk t' r := by
  obtain ⟨g, hg, hhandle, hvalid, hhave, hle, hmod, hrest⟩ := h
  refine ⟨g, hg, hhandle, ?_, ?_, ?_, ?_, fun he => hfree (hrest ?_)⟩
  · rwa [hgen]
  · rwa [htimer]
  · rwa [harms]
  · rwa [hgen, harms]
  · rwa [← harms]

theorem ReleasedOk.reserve {t t' : AlarmTable c} {i : Fin c.size} {r : ReleasedAlarm c}
    (h : ReleasedOk t r) (hres : Reserves t t' i) : ReleasedOk t' r := by
  by_cases hi : r.slot = i
  · obtain ⟨g, hg, hhandle, hvalid, hhave, hle, hmod, -⟩ := h
    obtain ⟨htimer, harms⟩ := hres.armed (hi ▸ hhave)
    rw [hi] at hle hmod hvalid
    refine ⟨g, hg, hhandle, ?_, ?_, ?_, ?_, fun he => ?_⟩
    · rw [hi, hres.generation]
      exact validGeneration_next _
    · rwa [hi]
    · rw [hi]
      omega
    · have hnext := nextGeneration_mod hvalid
      have hpos := hvalid.1
      rw [hi, hres.generation, hnext]
      omega
    · rw [hi] at he
      omega
  · obtain ⟨hslot, harms⟩ := hres.elsewhere r.slot hi
    exact h.keep (by rw [hslot]) (by rw [hslot]) harms (by rw [hslot]; exact id)

/-- A released handle is not the handle of its slot, before enough arms. -/
theorem ReleasedOk.stale {t : AlarmTable c} {r : ReleasedAlarm c} (h : ReleasedOk t r)
    (hfew : t.arms r.slot < r.arms + (2 ^ 23 - 1)) {j : Fin c.size}
    (hj : (t.slots j).state ≠ .free) (hvalid : ValidGeneration (t.slots j).generation) :
    r.handle ≠ alarmHandle j (t.slots j).generation := by
  obtain ⟨g, hg, hhandle, -, -, hle, hmod, hrest⟩ := h
  intro he
  obtain ⟨rfl, hgen⟩ := alarmHandle_inj hg hvalid (hhandle ▸ he)
  have hmoved : t.arms r.slot ≠ r.arms := fun heq => hj (hrest heq)
  have hlow := hg.1
  have hhigh := hg.2
  rw [← hgen] at hmod
  omega

section Steps

variable {t t' : AlarmTable c} {live : List Int32} {released : List (ReleasedAlarm c)}
  {i : Fin c.size}

/-- The slot that is looked up under a handle carries that handle. -/
theorem AlarmInv.handle_eq (h : AlarmInv t live released) {handle : Int32}
    (hi : bmxEsp32AlarmSlotLocked t handle = some i) :
    (t.slots i).state ≠ .free ∧ handle = alarmHandle i (t.slots i).generation := by
  have hstate := (slotLocked_eq_some_iff.mp hi).2.2
  exact ⟨hstate, eq_alarmHandle_of_slotLocked hi (h.alive i hstate).1⟩

/-- A slot may go from armed to fired, or change its other fields. -/
theorem AlarmInv.touch (h : AlarmInv t live released) (hk : Keeps t t' i)
    (hsettled : (t'.slots i).state = .free ∨ (t'.slots i).state = .armed ∨
      (t'.slots i).state = .fired)
    (hsame : (t'.slots i).state = .free ↔ (t.slots i).state = .free) :
    AlarmInv t' live released := by
  have hfree (j : Fin c.size) : (t'.slots j).state = .free ↔ (t.slots j).state = .free := by
    by_cases hj : j = i
    · rw [hj, hsame]
    · rw [hk.elsewhere j hj]
  have hgen (j : Fin c.size) : (t'.slots j).generation = (t.slots j).generation := by
    by_cases hj : j = i
    · rw [hj, hk.generation]
    · rw [hk.elsewhere j hj]
  have htimer (j : Fin c.size) : (t'.slots j).timer = (t.slots j).timer := by
    by_cases hj : j = i
    · rw [hj, hk.timer]
    · rw [hk.elsewhere j hj]
  refine ⟨fun j => ?_, fun j hj => ?_, h.nodup, fun x => ?_, fun r hr => ?_⟩
  · by_cases hj : j = i
    · rwa [hj]
    · rw [hk.elsewhere j hj]
      exact h.settled j
  · rw [hgen, htimer]
    exact h.alive j fun hf => hj ((hfree j).mpr hf)
  · simp only [h.live_iff x, ne_eq, hfree, hgen]
  · exact (h.released r hr).keep (hgen _) (htimer _) (by rw [hk.arms]) (hfree _).mpr

/-- A slot may be released. -/
theorem AlarmInv.release (h : AlarmInv t live released) (hk : Keeps t t' i)
    (hlive : (t.slots i).state ≠ .free) (hfree : (t'.slots i).state = .free) :
    AlarmInv t' (live.erase (alarmHandle i (t.slots i).generation))
      (⟨alarmHandle i (t.slots i).generation, i, t'.arms i⟩ :: released) := by
  obtain ⟨hvalid, htimer⟩ := h.alive i hlive
  refine ⟨fun j => ?_, fun j hj => ?_, h.nodup.erase _, fun x => ?_, fun r hr => ?_⟩
  · by_cases hj : j = i
    · rw [hj]
      exact .inl hfree
    · rw [hk.elsewhere j hj]
      exact h.settled j
  · have hji : j ≠ i := fun he => hj (he ▸ hfree)
    rw [hk.elsewhere j hji] at hj ⊢
    exact h.alive j hj
  · rw [h.nodup.mem_erase_iff, h.live_iff x]
    -- the handles of two slots are different
    constructor
    · rintro ⟨hx, j, hj, rfl⟩
      have hji : j ≠ i := fun he => hx (by rw [he])
      refine ⟨j, ?_, ?_⟩ <;> rw [hk.elsewhere j hji]
      exact hj
    · rintro ⟨j, hj, rfl⟩
      have hji : j ≠ i := fun he => hj (he ▸ hfree)
      rw [hk.elsewhere j hji] at hj ⊢
      exact ⟨fun he => hji (alarmHandle_inj (h.alive j hj).1 hvalid he).1, j, hj, rfl⟩
  · rcases List.mem_cons.mp hr with rfl | hr
    · -- the handle that is released now, and then those of before
      refine ⟨_, hvalid, rfl, ?_, ?_, le_rfl, ?_, fun _ => hfree⟩
      · rwa [hk.generation]
      · rwa [hk.timer]
      · have := hvalid.2
        have := hvalid.1
        simp only [hk.generation]
        omega
    · refine (h.released r hr).keep ?_ ?_ (by rw [hk.arms]) ?_
      · by_cases hj : r.slot = i
        · rw [hj, hk.generation]
        · rw [hk.elsewhere _ hj]
      · by_cases hj : r.slot = i
        · rw [hj, hk.timer]
        · rw [hk.elsewhere _ hj]
      · by_cases hj : r.slot = i
        · rw [hj]
          exact fun _ => hfree
        · rw [hk.elsewhere _ hj]
          exact id

/-- A free slot may be reserved and given back. -/
theorem AlarmInv.reserve (h : AlarmInv t live released) (hres : Reserves t t' i)
    (hfree : (t'.slots i).state = .free) : AlarmInv t' live released := by
  refine ⟨fun j => ?_, fun j hj => ?_, h.nodup, fun x => ?_,
    fun r hr => (h.released r hr).reserve hres⟩
  · by_cases hj : j = i
    · rw [hj]
      exact .inl hfree
    · rw [(hres.elsewhere j hj).1]
      exact h.settled j
  · have hji : j ≠ i := fun he => hj (he ▸ hfree)
    rw [(hres.elsewhere j hji).1] at hj ⊢
    exact h.alive j hj
  · rw [h.live_iff x]
    constructor
    · rintro ⟨j, hj, rfl⟩
      have hji : j ≠ i := fun he => hj (he ▸ hres.free)
      refine ⟨j, ?_, ?_⟩ <;> rw [(hres.elsewhere j hji).1]
      exact hj
    · rintro ⟨j, hj, rfl⟩
      have hji : j ≠ i := fun he => hj (he ▸ hfree)
      rw [(hres.elsewhere j hji).1] at hj ⊢
      exact ⟨j, hj, rfl⟩

/-- A free slot may be armed under a new handle. -/
theorem AlarmInv.start (h : AlarmInv t live released) (hres : Reserves t t' i)
    (harmed : (t'.slots i).state = .armed) (htimer : (t'.slots i).timer = true) :
    AlarmInv t' (alarmHandle i (t'.slots i).generation :: live) released := by
  have hvalid : ValidGeneration (t'.slots i).generation := by
    rw [hres.generation]
    exact validGeneration_next _
  have hlive : (t'.slots i).state ≠ .free := by
    rw [harmed]
    decide
  refine ⟨fun j => ?_, fun j hj => ?_, h.nodup.cons fun hmem => ?_, fun x => ?_,
    fun r hr => (h.released r hr).reserve hres⟩
  · by_cases hj : j = i
    · rw [hj]
      exact .inr (.inl harmed)
    · rw [(hres.elsewhere j hj).1]
      exact h.settled j
  · by_cases hji : j = i
    · rw [hji]
      exact ⟨hvalid, htimer⟩
    · rw [(hres.elsewhere j hji).1] at hj ⊢
      exact h.alive j hj
  · -- the new handle is no live one, for those are of other slots
    obtain ⟨j, hj, he⟩ := (h.live_iff _).mp hmem
    obtain ⟨rfl, -⟩ := alarmHandle_inj hvalid (h.alive j hj).1 he
    exact hj hres.free
  · rw [List.mem_cons, h.live_iff x]
    constructor
    · rintro (rfl | ⟨j, hj, rfl⟩)
      · exact ⟨i, hlive, rfl⟩
      · have hji : j ≠ i := fun he => hj (he ▸ hres.free)
        refine ⟨j, ?_, ?_⟩ <;> rw [(hres.elsewhere j hji).1]
        exact hj
    · rintro ⟨j, hj, rfl⟩
      by_cases hji : j = i
      · rw [hji]
        exact .inl rfl
      · rw [(hres.elsewhere j hji).1] at hj ⊢
        exact .inr ⟨j, hj, rfl⟩

end Steps

theorem alarmInv_step {s : AlarmSystem c} (h : AlarmInv s.table s.live s.released)
    (a : AlarmCall c) :
    AlarmInv (s.step a).table (s.step a).live (s.step a).released := by
  cases a with
  | schedule contextValid now delayUs intervalUs created started =>
    simp only [AlarmSystem.step]
    rcases schedule_cases contextValid now delayUs intervalUs created started s.table with
      ⟨hr, -⟩ | ⟨i, hres, ⟨hzero, hfree, -⟩ | ⟨hhandle, harmed, htimer⟩⟩
    · rw [hr]
      exact h
    · rw [if_pos hzero]
      exact h.reserve hres hfree
    · have hvalid := validGeneration_next (s.table.slots i).generation
      rw [← hres.generation] at hvalid
      rw [if_neg (by rw [hhandle]; exact alarmHandle_ne_zero i hvalid), hhandle]
      exact h.start hres harmed htimer
  | cancel contextValid handle =>
    simp only [AlarmSystem.step]
    rcases hi : bmxEsp32AlarmSlotLocked s.table handle with - | i
    · simp only [cancel_of_unknown fun _ => hi]
      exact h
    · -- the handle that was found is the one that the slot has now
      obtain ⟨hlive, rfl⟩ := h.handle_eq hi
      rcases contextValid with - | -
      · exact h
      · obtain ⟨hone, hk, hfree⟩ :=
          cancel_of_slotLocked hi ((h.settled i).resolve_left hlive)
        simp only [if_pos hone, AlarmSystem.release]
        exact h.release hk hlive hfree
  | takeEvents contextValid handle =>
    simp only [AlarmSystem.step]
    rcases hi : bmxEsp32AlarmSlotLocked s.table handle with - | i
    · simp only [take_of_unknown fun _ => hi]
      exact h
    · obtain ⟨hlive, rfl⟩ := h.handle_eq hi
      rcases contextValid with - | -
      · simp only [Bool.false_eq_true, false_and, if_false]
        exact h
      · obtain ⟨hk, hstate⟩ := take_of_slotLocked hi (h.alive i hlive).2
        -- a one-shot alarm that has fired is released with its events
        by_cases hfired : (s.table.slots i).state = .fired
        · rw [if_pos hfired] at hstate
          simp only [hfired, and_self, if_true, AlarmSystem.release]
          exact h.release hk hlive hstate
        · rw [if_neg hfired] at hstate
          simp only [hfired, and_false, if_false]
          exact h.touch hk (by rw [hstate]; exact h.settled i) (by rw [hstate])
  | callback i =>
    rcases callback_cases s.table i with he | ⟨hk, harmed, hstate⟩
    · simp only [AlarmSystem.step, he]
      exact h
    · refine h.touch hk (.inr hstate) ?_
      show ((bmxEsp32AlarmCallback s.table i).slots i).state = .free ↔ _
      rcases hstate with hstate | hstate <;> simp [hstate, harmed]

theorem alarmInv_of_reachable {s : AlarmSystem c} (h : (alarmMachine c).Reachable s) :
    AlarmInv s.table s.live s.released := by
  refine h.invariant (I := fun s => AlarmInv s.table s.live s.released) (fun s₀ h₀ => ?_)
    fun s a s' hs _ hstep => ?_
  · obtain rfl := h₀
    exact ⟨fun _ => .inl rfl, fun _ hne => absurd rfl hne, .nil,
      fun _ => ⟨nofun, fun ⟨_, hne, _⟩ => absurd rfl hne⟩, nofun⟩
  · obtain rfl := Option.some.inj hstep
    exact alarmInv_step hs a

/-! ### The discipline -/

/-- `handle` is rejected by every query, by take_events and by cancel. -/
structure Rejected (t : AlarmTable c) (handle : Int32) : Prop where
  active : ∀ contextValid, bmxEsp32AlarmActive contextValid t handle = false
  pending : ∀ contextValid, bmxEsp32AlarmPendingEvents contextValid t handle = 0
  take : ∀ contextValid, bmxEsp32AlarmTakeEvents contextValid handle t = (0, t)
  remainingUs : ∀ contextValid now, bmxEsp32AlarmRemainingUs contextValid t now handle = -1
  remainingMs : ∀ contextValid now, bmxEsp32AlarmRemainingMs contextValid t now handle = -1
  cancel : ∀ contextValid, bmxEsp32AlarmCancel contextValid handle t = (0, t)

theorem rejected_of_unknown {t : AlarmTable c} {handle : Int32}
    (h : bmxEsp32AlarmSlotLocked t handle = none) : Rejected t handle := by
  have hus (contextValid : Bool) (now : UInt64) :
      bmxEsp32AlarmRemainingUs contextValid t now handle = -1 := by
    simp [bmxEsp32AlarmRemainingUs, h]
  refine ⟨fun _ => ?_, fun _ => ?_, fun _ => take_of_unknown fun _ => h, hus, fun v now => ?_,
    fun _ => cancel_of_unknown fun _ => h⟩
  · simp [bmxEsp32AlarmActive, h]
  · simp [bmxEsp32AlarmPendingEvents, h]
  · simp only [bmxEsp32AlarmRemainingMs, hus]
    rfl

/-- What slots, handles and calls satisfy in every state between calls. -/
structure AlarmDiscipline (s : AlarmSystem c) : Prop where
  /-- No slot is left reserved or releasing. -/
  settled : ∀ i, (s.table.slots i).state = .free ∨ (s.table.slots i).state = .armed ∨
    (s.table.slots i).state = .fired
  /-- Each slot in use belongs to exactly one live handle, and each live handle to one. -/
  owner : ∀ i, (s.table.slots i).state ≠ .free →
    ∃! h, h ∈ s.live ∧ bmxEsp32AlarmSlotLocked s.table h = some i
  slot : ∀ h ∈ s.live, ∃ i, bmxEsp32AlarmSlotLocked s.table h = some i ∧
    (s.table.slots i).state ≠ .free
  positive : ∀ h ∈ s.live, 0 < h
  nodup : s.live.Nodup
  /-- Every other handle is rejected. -/
  rejected : ∀ h, h ∉ s.live → Rejected s.table h
  /-- A released handle is one of these until its slot was armed `2 ^ 23 - 1` times more. -/
  stale : ∀ r ∈ s.released, s.table.arms r.slot < r.arms + (2 ^ 23 - 1) →
    r.handle ∉ s.live
  /-- With acceptable arguments and a succeeding driver, schedule fails only when all
  slots are in use. -/
  full : ∀ contextValid now delayUs intervalUs,
    alarmAcceptable contextValid now delayUs intervalUs = true →
    (bmxEsp32AlarmSchedule contextValid now delayUs intervalUs espOk espOk s.table).1 = 0 →
    ∀ i, (s.table.slots i).state ≠ .free

/-- **Alarm slots and handles keep their discipline** in every run of calls. -/
theorem alarm_discipline (s : AlarmSystem c) (h : (alarmMachine c).Reachable s) :
    AlarmDiscipline s := by
  have hinv := alarmInv_of_reachable h
  have hfound (i : Fin c.size) (hi : (s.table.slots i).state ≠ .free) :
      bmxEsp32AlarmSlotLocked s.table (alarmHandle i (s.table.slots i).generation) = some i :=
    (slotLocked_alarmHandle (hinv.alive i hi).1).mpr ⟨rfl, hi⟩
  refine ⟨hinv.settled, fun i hi => ?_, fun x hx => ?_, fun x hx => ?_, hinv.nodup,
    fun x hx => ?_, fun r hr hfew hmem => ?_, fun v now delayUs intervalUs haccept hzero => ?_⟩
  · refine ⟨_, ⟨(hinv.live_iff _).mpr ⟨i, hi, rfl⟩, hfound i hi⟩, fun x hx => ?_⟩
    exact (hinv.handle_eq hx.2).2
  · obtain ⟨i, hi, rfl⟩ := (hinv.live_iff x).mp hx
    exact ⟨i, hfound i hi, hi⟩
  · obtain ⟨i, hi, rfl⟩ := (hinv.live_iff x).mp hx
    exact bmxEsp32AlarmHandle_pos i (hinv.alive i hi).1
  · refine rejected_of_unknown ?_
    rcases hi : bmxEsp32AlarmSlotLocked s.table x with - | i
    · rfl
    · exact absurd ((hinv.live_iff x).mpr ⟨i, hinv.handle_eq hi⟩) hx
  · obtain ⟨j, hj, he⟩ := (hinv.live_iff _).mp hmem
    exact (hinv.released r hr).stale hfew hj (hinv.alive j hj).1 he
  · rcases schedule_cases v now delayUs intervalUs espOk espOk s.table with
      ⟨-, hrefused | hfull⟩ | ⟨i, hres, ⟨-, -, hfailed⟩ | ⟨hhandle, -, -⟩⟩
    · simp [haccept] at hrefused
    · exact hfull
    · exact absurd hfailed (by simp)
    · have hvalid := validGeneration_next (s.table.slots i).generation
      rw [← hres.generation] at hvalid
      rw [hhandle] at hzero
      exact absurd hzero (alarmHandle_ne_zero i hvalid)

/-- Two alarms are scheduled, the first is cancelled and the second fires. -/
theorem alarm_discipline_two_alarms :
    AlarmDiscipline (((((AlarmSystem.boot (c := bmxEsp32AlarmCapacity)).step
      (.schedule true 0 1000 0 espOk espOk)).step
      (.schedule true 0 2000 0 espOk espOk)).step (.cancel true 257)).step (.callback ⟨1, by decide⟩)) :=
  alarm_discipline _ (.step (.step (.step (.step (.init rfl) trivial rfl) trivial rfl)
    trivial rfl) trivial rfl)

end Esp32Mod
