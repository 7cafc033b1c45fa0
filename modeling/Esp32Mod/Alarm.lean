/-
Esp32Mod/Alarm.lean

Alarms (`runtime.mod/native/esp32_time.c`): the slot table, the handles, and the
critical sections of which every alarm function is composed.

A handle packs the slot number and the generation of the slot, `generation << 8 |
index + 1`.  Each schedule advances the generation of the slot it reserves, from
`0x7fffff` back to 1.

A function of the source that leaves and re-enters the critical section is
one definition for each section here.  `Esp32Mod.AlarmSlots` composes them into whole
calls; `Esp32Mod.AlarmEvents` interleaves them with the timer task.

Main results:

* `toNat_bmxEsp32AlarmHandle`, `bmxEsp32AlarmHandle_pos` — the packing is exact and positive;
* `slotLocked_eq_some_iff` — a handle is looked up exactly in the slot it names.
-/
import Esp32Mod.Errors
import Mathlib.Data.List.FinRange

namespace Esp32Mod

/-! ### Slots -/

/-- The states of a slot. -/
inductive AlarmState
  | free | reserved | armed | fired | releasing
  deriving DecidableEq

/-- A slot of the alarms. -/
structure BMXESP32AlarmSlot where
  state : AlarmState
  pending : UInt32
  generation : UInt32
  /-- Whether `esp_timer_create` has made a timer for the slot. -/
  timer : Bool
  intervalUs : UInt64
  nextDeadlineUs : UInt64
  deriving DecidableEq

/-- `BMX_ESP32_ALARM_CAPACITY`, with the bounds of its static assertion. -/
structure AlarmCapacity where
  size : Nat
  pos : 0 < size
  le_byte : size ≤ 255

/-- The capacity of a build that does not define another one. -/
def bmxEsp32AlarmCapacity : AlarmCapacity := ⟨8, by decide, by decide⟩

variable {c : AlarmCapacity}

/-- `bmx_esp32_alarm_slots`, and how often each slot has been set ARMED; the latter is
not in the source. -/
structure AlarmTable (c : AlarmCapacity) where
  slots : Fin c.size → BMXESP32AlarmSlot
  arms : Fin c.size → Nat

/-- The table at boot: static storage, all zero. -/
def AlarmTable.boot : AlarmTable c where
  slots := fun _ => ⟨.free, 0, 0, false, 0, 0⟩
  arms := fun _ => 0

/-- Assign to fields of one slot. -/
def AlarmTable.set (t : AlarmTable c) (i : Fin c.size)
    (f : BMXESP32AlarmSlot → BMXESP32AlarmSlot) : AlarmTable c :=
  { t with slots := Function.update t.slots i (f (t.slots i)) }

@[simp] theorem AlarmTable.arms_set (t : AlarmTable c) (i : Fin c.size)
    (f : BMXESP32AlarmSlot → BMXESP32AlarmSlot) : (t.set i f).arms = t.arms := rfl

@[simp] theorem AlarmTable.slots_set_self (t : AlarmTable c) (i : Fin c.size)
    (f : BMXESP32AlarmSlot → BMXESP32AlarmSlot) : (t.set i f).slots i = f (t.slots i) :=
  Function.update_self i _ t.slots

theorem AlarmTable.slots_set_of_ne (t : AlarmTable c) {i j : Fin c.size} (h : j ≠ i)
    (f : BMXESP32AlarmSlot → BMXESP32AlarmSlot) : (t.set i f).slots j = t.slots j :=
  Function.update_of_ne h _ t.slots

/-! ### Handles -/

/-- The slot in the low 8 bits, its generation above them. -/
def bmxEsp32AlarmHandle (index generation : UInt32) : Int32 :=
  (generation <<< 8 ||| (index + 1)).toInt32

/-- The handle of slot `i` in generation `generation`. -/
def alarmHandle (i : Fin c.size) (generation : UInt32) : Int32 :=
  bmxEsp32AlarmHandle (UInt32.ofNat i) generation

/-- The slot that a handle names, if its generation is the slot's and the slot is in use. -/
def bmxEsp32AlarmSlotLocked (t : AlarmTable c) (handle : Int32) : Option (Fin c.size) :=
  let encoded := handle.toUInt32
  let slotNumber := encoded &&& 0xff
  let generation := encoded >>> 8
  if h : slotNumber = 0 ∨ slotNumber.toNat > c.size ∨ generation = 0 then none
  else
    let i : Fin c.size := ⟨slotNumber.toNat - 1, by have := c.pos; omega⟩
    if (t.slots i).generation ≠ generation ∨ (t.slots i).state = .free then none else some i

/-- The range of generations that schedule hands out. -/
def ValidGeneration (g : UInt32) : Prop := 1 ≤ g.toNat ∧ g.toNat ≤ 0x7fffff

theorem toNat_index_succ (i : Fin c.size) : (UInt32.ofNat i + 1).toNat = i.val + 1 := by
  have hi := i.isLt
  have hc := c.le_byte
  rw [UInt32.toNat_add, UInt32.toNat_ofNat', UInt32.toNat_one]
  omega

/-- The unsigned value of a handle. -/
theorem toNat_bmxEsp32AlarmHandle (i : Fin c.size) {g : UInt32} (hg : ValidGeneration g) :
    (alarmHandle i g).toUInt32.toNat = g.toNat * 256 + (i.val + 1) := by
  have hi := i.isLt
  have hc := c.le_byte
  have hlow : (UInt32.ofNat i + 1).toNat < 2 ^ 8 := by
    rw [toNat_index_succ]
    omega
  have hshift : (g <<< 8).toNat = g.toNat <<< 8 := by
    have hbound := hg.2
    rw [UInt32.toNat_shiftLeft]
    simp only [UInt32.reduceToNat, Nat.reduceMod, Nat.shiftLeft_eq]
    omega
  show (g <<< 8 ||| (UInt32.ofNat i + 1)).toNat = _
  rw [UInt32.toNat_or, hshift, ← Nat.shiftLeft_add_eq_or_of_lt hlow, Nat.shiftLeft_eq,
    toNat_index_succ]

/-- Handles are positive, since the generation has 23 bits. -/
theorem bmxEsp32AlarmHandle_pos (i : Fin c.size) {g : UInt32} (hg : ValidGeneration g) :
    0 < alarmHandle i g := by
  have hval := toNat_bmxEsp32AlarmHandle i hg
  have hbound := hg.2
  have hi := i.isLt
  have hc := c.le_byte
  have hlt : 2 * (alarmHandle i g).toBitVec.toNat < 2 ^ 32 := by
    have : (alarmHandle i g).toUInt32.toNat = (alarmHandle i g).toBitVec.toNat := rfl
    omega
  rw [Int32.lt_iff_toInt_lt]
  show (0 : Int) < (alarmHandle i g).toBitVec.toInt
  rw [BitVec.toInt_eq_toNat_of_lt hlt]
  have : (alarmHandle i g).toUInt32.toNat = (alarmHandle i g).toBitVec.toNat := rfl
  omega

theorem alarmHandle_ne_zero (i : Fin c.size) {g : UInt32} (hg : ValidGeneration g) :
    alarmHandle i g ≠ 0 := by
  intro h
  have hpos := bmxEsp32AlarmHandle_pos i hg
  rw [h] at hpos
  exact absurd hpos (by decide)

/-- A handle determines its slot and its generation. -/
theorem alarmHandle_inj {i j : Fin c.size} {g g' : UInt32} (hg : ValidGeneration g)
    (hg' : ValidGeneration g') (h : alarmHandle i g = alarmHandle j g') : i = j ∧ g = g' := by
  have hi := i.isLt
  have hj := j.isLt
  have hc := c.le_byte
  have hval := toNat_bmxEsp32AlarmHandle i hg
  rw [h, toNat_bmxEsp32AlarmHandle j hg'] at hval
  exact ⟨Fin.ext (by omega), UInt32.toNat_inj.mp (by omega)⟩

/-- **A lookup finds exactly the slot and generation that the handle packs**, unless
the slot is free. -/
theorem slotLocked_eq_some_iff {t : AlarmTable c} {handle : Int32} {i : Fin c.size} :
    bmxEsp32AlarmSlotLocked t handle = some i ↔
      handle.toUInt32.toNat = (t.slots i).generation.toNat * 256 + (i.val + 1) ∧
      (t.slots i).generation ≠ 0 ∧ (t.slots i).state ≠ .free := by
  have hi := i.isLt
  have hc := c.le_byte
  have hlow : (handle.toUInt32 &&& 0xff).toNat = handle.toUInt32.toNat % 256 := by
    rw [UInt32.toNat_and]
    exact Nat.and_two_pow_sub_one_eq_mod _ 8
  have hhigh : (handle.toUInt32 >>> 8).toNat = handle.toUInt32.toNat / 256 := by
    rw [UInt32.toNat_shiftRight]
    exact Nat.shiftRight_eq_div_pow _ 8
  have hlow0 : handle.toUInt32 &&& 0xff = 0 ↔ handle.toUInt32.toNat % 256 = 0 := by
    rw [← UInt32.toNat_inj, hlow]
    rfl
  have hhigh0 : handle.toUInt32 >>> 8 = 0 ↔ handle.toUInt32.toNat / 256 = 0 := by
    rw [← UInt32.toNat_inj, hhigh]
    rfl
  have hzero : (t.slots i).generation = 0 ↔ (t.slots i).generation.toNat = 0 := by
    rw [← UInt32.toNat_inj]
    rfl
  simp only [bmxEsp32AlarmSlotLocked]
  constructor
  · intro h
    -- the checks of the lookup say what the handle packs
    split_ifs at h with hnull hstale
    have hslot := Option.some.inj h
    have hidx := congrArg Fin.val hslot
    rw [hslot] at hstale
    simp only [not_or, not_not, hlow0, hhigh0, hlow] at hnull hstale hidx
    have hgen := congrArg UInt32.toNat hstale.1
    rw [hhigh] at hgen
    refine ⟨?_, ?_, hstale.2⟩
    · rw [hgen]
      omega
    · rw [ne_eq, hzero, hgen]
      exact hnull.2.2
  · rintro ⟨hval, hgen, hstate⟩
    -- the packed number is in range, so no check fails
    rw [ne_eq, hzero] at hgen
    have hnull : ¬ (handle.toUInt32 &&& 0xff = 0 ∨ (handle.toUInt32 &&& 0xff).toNat > c.size ∨
        handle.toUInt32 >>> 8 = 0) := by
      rw [hlow0, hhigh0, hlow]
      omega
    have hidx : (handle.toUInt32 &&& 0xff).toNat - 1 = i.val := by
      rw [hlow]
      omega
    have hsame : (t.slots i).generation = handle.toUInt32 >>> 8 := by
      rw [← UInt32.toNat_inj, hhigh]
      omega
    simp only [dif_neg hnull, hidx, Fin.eta, hsame, hstate, ne_eq, not_true_eq_false, or_self,
      if_false]

/-- Looking up the handle of slot `i` in generation `g`. -/
theorem slotLocked_alarmHandle {t : AlarmTable c} {i : Fin c.size} {g : UInt32}
    (hg : ValidGeneration g) :
    bmxEsp32AlarmSlotLocked t (alarmHandle i g) = some i ↔
      (t.slots i).generation = g ∧ (t.slots i).state ≠ .free := by
  have hi := i.isLt
  have hc := c.le_byte
  rw [slotLocked_eq_some_iff, toNat_bmxEsp32AlarmHandle i hg]
  constructor
  · rintro ⟨hval, -, hstate⟩
    exact ⟨UInt32.toNat_inj.mp (by omega), hstate⟩
  · rintro ⟨rfl, hstate⟩
    refine ⟨rfl, fun h0 => ?_, hstate⟩
    rw [h0] at hg
    exact absurd hg.1 (by decide)

/-- A handle that is found is the one its slot carries. -/
theorem eq_alarmHandle_of_slotLocked {t : AlarmTable c} {handle : Int32} {i : Fin c.size}
    (h : bmxEsp32AlarmSlotLocked t handle = some i)
    (hg : ValidGeneration (t.slots i).generation) :
    handle = alarmHandle i (t.slots i).generation := by
  have hval := (slotLocked_eq_some_iff.mp h).1
  rw [← toNat_bmxEsp32AlarmHandle i hg, UInt32.toNat_inj] at hval
  exact congrArg UInt32.toInt32 hval

/-! ### The sections of schedule -/

/-- `INT64_MAX`. -/
def int64Max : UInt64 := 0x7fffffffffffffff

/-- The two argument checks that precede the first section. -/
def alarmAcceptable (contextValid : Bool) (now delayUs intervalUs : UInt64) : Bool :=
  !(delayUs = 0 ∨ delayUs > int64Max ∨ intervalUs > int64Max ∨ !contextValid) &&
    !(delayUs > int64Max - now)

/-- Of 23 bits, and never 0. -/
def nextGeneration (generation : UInt32) : UInt32 :=
  if generation + 1 = 0 ∨ generation + 1 > 0x7fffff then 1 else generation + 1

/-- The search loop: the first slot that is free. -/
def freeSlot (t : AlarmTable c) : Option (Fin c.size) :=
  (List.finRange c.size).find? fun candidate => (t.slots candidate).state = .free

/-- The first section reserves a slot. -/
def scheduleReserve (t : AlarmTable c) (now delayUs intervalUs : UInt64) :
    Option (Fin c.size × AlarmTable c) :=
  (freeSlot t).map fun index => (index, t.set index fun slot =>
    { slot with
      -- from here on the handles of the slot's earlier alarms are stale
      generation := nextGeneration slot.generation
      pending := 0
      intervalUs := intervalUs
      nextDeadlineUs := now + delayUs
      state := .reserved })

/-- After `esp_timer_create`. -/
def scheduleCreated (t : AlarmTable c) (i : Fin c.size) : AlarmTable c :=
  t.set i fun slot => { slot with timer := true }

/-- The section that precedes the start of the timer. -/
def scheduleArm (t : AlarmTable c) (i : Fin c.size) : AlarmTable c :=
  { t.set i fun slot => { slot with state := .armed } with
    arms := Function.update t.arms i (t.arms i + 1) }

@[simp] theorem slots_scheduleArm_self (t : AlarmTable c) (i : Fin c.size) :
    (scheduleArm t i).slots i = { t.slots i with state := .armed } :=
  Function.update_self i _ t.slots

@[simp] theorem arms_scheduleArm_self (t : AlarmTable c) (i : Fin c.size) :
    (scheduleArm t i).arms i = t.arms i + 1 := Function.update_self i _ t.arms

theorem slots_scheduleArm_of_ne (t : AlarmTable c) {i j : Fin c.size} (h : j ≠ i) :
    (scheduleArm t i).slots j = t.slots j := Function.update_of_ne h _ t.slots

theorem arms_scheduleArm_of_ne (t : AlarmTable c) {i j : Fin c.size} (h : j ≠ i) :
    (scheduleArm t i).arms j = t.arms j := Function.update_of_ne h _ t.arms

/-- The section after a failed `esp_timer_create` or start. -/
def scheduleFailed (t : AlarmTable c) (i : Fin c.size) : AlarmTable c :=
  t.set i fun slot => { slot with state := .free }

/-! ### The other sections -/

/-- The expiry of a slot's timer. -/
def bmxEsp32AlarmCallback (t : AlarmTable c) (i : Fin c.size) : AlarmTable c :=
  -- the timer knows its slot only, not the generation it was started for
  if (t.slots i).state = .armed then
    t.set i fun slot =>
      let slot := { slot with
        pending := if slot.pending ≠ 0xFFFFFFFF then slot.pending + 1 else slot.pending }
      if slot.intervalUs ≠ 0 then
        { slot with nextDeadlineUs := slot.nextDeadlineUs + slot.intervalUs }
      else { slot with state := .fired }
  else t

/-- The first section of cancel: the slot, and whether it was armed. -/
def cancelBegin (t : AlarmTable c) (handle : Int32) :
    Option (Fin c.size × Bool × AlarmTable c) :=
  match bmxEsp32AlarmSlotLocked t handle with
  | none => none
  | some i =>
    if (t.slots i).state = .armed ∨ (t.slots i).state = .fired then
      some (i, decide ((t.slots i).state = .armed),
        t.set i fun slot => { slot with state := .releasing })
    else none

/-- The last section of cancel. -/
def cancelEnd (t : AlarmTable c) (i : Fin c.size) (generation : UInt32) : AlarmTable c :=
  if (t.slots i).generation = generation ∧ (t.slots i).state = .releasing then
    t.set i fun slot => { slot with pending := 0, state := .free }
  else t

/-- The first section of take_events: the events, and the slot if it is to be released. -/
def takeBegin (t : AlarmTable c) (handle : Int32) : UInt32 × Option (Fin c.size) × AlarmTable c :=
  match bmxEsp32AlarmSlotLocked t handle with
  | none => (0, none, t)
  | some i =>
    if (t.slots i).state = .fired then
      ((t.slots i).pending, if (t.slots i).timer then some i else none,
        t.set i fun slot => { slot with pending := 0, state := .releasing })
    else
      ((t.slots i).pending, none, t.set i fun slot => { slot with pending := 0 })

/-- The last section of take_events. -/
def takeEnd (t : AlarmTable c) (i : Fin c.size) (generation : UInt32) : AlarmTable c :=
  if (t.slots i).generation = generation ∧ (t.slots i).state = .releasing then
    t.set i fun slot => { slot with state := .free }
  else t

/-! ### Queries -/

/-- The handle names an armed alarm. -/
def bmxEsp32AlarmActive (contextValid : Bool) (t : AlarmTable c) (handle : Int32) : Bool :=
  if !contextValid then false
  else
    match bmxEsp32AlarmSlotLocked t handle with
    | none => false
    | some i => decide ((t.slots i).state = .armed)

/-- The expiries that have not been taken. -/
def bmxEsp32AlarmPendingEvents (contextValid : Bool) (t : AlarmTable c) (handle : Int32) : UInt32 :=
  if !contextValid then 0
  else
    match bmxEsp32AlarmSlotLocked t handle with
    | none => 0
    | some i => (t.slots i).pending

/-- The remaining time; the clock is read after the section. -/
def bmxEsp32AlarmRemainingUs (contextValid : Bool) (t : AlarmTable c) (now : UInt64)
    (handle : Int32) : Int64 :=
  if !contextValid then -1
  else
    let deadline :=
      match bmxEsp32AlarmSlotLocked t handle with
      | none => 0
      | some i => if (t.slots i).state = .armed then (t.slots i).nextDeadlineUs else 0
    if deadline = 0 then -1
    else if deadline > now then (deadline - now).toInt64 else 0

/-- In whole milliseconds, at most `INT32_MAX`. -/
def bmxEsp32AlarmRemainingMs (contextValid : Bool) (t : AlarmTable c) (now : UInt64)
    (handle : Int32) : Int32 :=
  let remaining := bmxEsp32AlarmRemainingUs contextValid t now handle
  if remaining < 0 then -1
  else
    let milliseconds := remaining.toUInt64 / 1000
    if milliseconds > 0x7fffffff then 0x7fffffff else milliseconds.toUInt32.toInt32

/-! ### Generations -/

theorem toNat_nextGeneration (g : UInt32) :
    (nextGeneration g).toNat = if g.toNat < 0x7fffff then g.toNat + 1 else 1 := by
  have hlt := g.toNat_lt
  have hsum : (g + 1).toNat = (g.toNat + 1) % 2 ^ 32 := by rw [UInt32.toNat_add, UInt32.toNat_one]
  have hcond : (g + 1 = 0 ∨ g + 1 > 0x7fffff) ↔ ¬ g.toNat < 0x7fffff := by
    rw [← UInt32.toNat_inj, gt_iff_lt, UInt32.lt_iff_toNat_lt, hsum]
    show _ % 2 ^ 32 = 0 ∨ 0x7fffff < _ % 2 ^ 32 ↔ _
    omega
  rw [nextGeneration]
  by_cases hg : g.toNat < 0x7fffff
  · rw [if_neg (by rwa [hcond, not_not]), if_pos hg, hsum]
    omega
  · rw [if_pos (by rwa [hcond]), if_neg hg]
    rfl

theorem validGeneration_next (g : UInt32) : ValidGeneration (nextGeneration g) := by
  rw [ValidGeneration, toNat_nextGeneration]
  split <;> omega

/-- Generations are numbered modulo `2 ^ 23 - 1`. -/
theorem nextGeneration_mod {g : UInt32} (hg : ValidGeneration g) :
    (nextGeneration g).toNat - 1 = g.toNat % 0x7fffff := by
  have hle := hg.2
  rw [toNat_nextGeneration]
  split <;> omega

theorem freeSlot_eq_some {t : AlarmTable c} {i : Fin c.size} (h : freeSlot t = some i) :
    (t.slots i).state = .free := by
  simpa using List.find?_some h

theorem freeSlot_eq_none {t : AlarmTable c} :
    freeSlot t = none ↔ ∀ i, (t.slots i).state ≠ .free := by
  simp [freeSlot, List.find?_eq_none]

/-! ### Assignments to one slot -/

/-- Only slot `i` changes, and it keeps its generation, its timer and its arms. -/
structure Keeps (t t' : AlarmTable c) (i : Fin c.size) : Prop where
  elsewhere : ∀ j, j ≠ i → t'.slots j = t.slots j
  arms : t'.arms = t.arms
  generation : (t'.slots i).generation = (t.slots i).generation
  timer : (t'.slots i).timer = (t.slots i).timer

theorem keeps_set (t : AlarmTable c) (i : Fin c.size)
    {f : BMXESP32AlarmSlot → BMXESP32AlarmSlot}
    (hgen : (f (t.slots i)).generation = (t.slots i).generation)
    (htimer : (f (t.slots i)).timer = (t.slots i).timer) : Keeps t (t.set i f) i where
  elsewhere _ hj := t.slots_set_of_ne hj f
  arms := rfl
  generation := by rw [t.slots_set_self, hgen]
  timer := by rw [t.slots_set_self, htimer]

theorem Keeps.trans {t t' t'' : AlarmTable c} {i : Fin c.size} (h : Keeps t t' i)
    (h' : Keeps t' t'' i) : Keeps t t'' i where
  elsewhere j hj := (h'.elsewhere j hj).trans (h.elsewhere j hj)
  arms := h'.arms.trans h.arms
  generation := h'.generation.trans h.generation
  timer := h'.timer.trans h.timer

/-- What the first section of schedule does. -/
theorem scheduleReserve_eq_some {t t' : AlarmTable c} {now delayUs intervalUs : UInt64}
    {i : Fin c.size} (h : scheduleReserve t now delayUs intervalUs = some (i, t')) :
    (t.slots i).state = .free ∧ ∃ f, t' = t.set i f ∧
      (f (t.slots i)).state = .reserved ∧ (f (t.slots i)).pending = 0 ∧
      (f (t.slots i)).generation = nextGeneration (t.slots i).generation ∧
      (f (t.slots i)).timer = (t.slots i).timer := by
  obtain ⟨j, hj, he⟩ := Option.map_eq_some_iff.mp h
  obtain ⟨rfl, rfl⟩ := Prod.mk.inj he
  exact ⟨freeSlot_eq_some hj, _, rfl, rfl, rfl, rfl, rfl⟩

/-- What the first section of cancel does. -/
theorem cancelBegin_eq_some {t t' : AlarmTable c} {handle : Int32} {i : Fin c.size}
    {wasArmed : Bool} (h : cancelBegin t handle = some (i, wasArmed, t')) :
    t' = t.set i fun slot => { slot with state := .releasing } := by
  rcases hi : bmxEsp32AlarmSlotLocked t handle with - | j
  · simp [cancelBegin, hi] at h
  · simp only [cancelBegin, hi] at h
    split_ifs at h
    obtain ⟨rfl, -, rfl⟩ := by simpa using h
    rfl

/-- What the first section of take_events does: it takes the events, and may begin to
release a fired slot. -/
theorem takeBegin_cases (t : AlarmTable c) (handle : Int32) :
    (takeBegin t handle).2.2 = t ∧ (takeBegin t handle).2.1 = none ∨
      ∃ i f, (takeBegin t handle).2.2 = t.set i f ∧
        (f (t.slots i)).generation = (t.slots i).generation ∧
        (f (t.slots i)).pending = 0 ∧
        (f (t.slots i)).nextDeadlineUs = (t.slots i).nextDeadlineUs ∧
        ((t.slots i).state = .fired ∧ (f (t.slots i)).state = .releasing ∨
          (t.slots i).state ≠ .fired ∧ (f (t.slots i)).state = (t.slots i).state ∧
            (takeBegin t handle).2.1 = none) := by
  rcases hi : bmxEsp32AlarmSlotLocked t handle with - | i
  · simp [takeBegin, hi]
  · refine .inr ⟨i, ?_⟩
    by_cases hfired : (t.slots i).state = .fired
    · simp only [takeBegin, hi, if_pos hfired]
      exact ⟨_, rfl, rfl, rfl, rfl, .inl ⟨hfired, rfl⟩⟩
    · simp only [takeBegin, hi, if_neg hfired]
      exact ⟨_, rfl, rfl, rfl, rfl, .inr ⟨hfired, rfl, trivial⟩⟩

/-- What a callback does. -/
theorem callback_cases (t : AlarmTable c) (i : Fin c.size) :
    bmxEsp32AlarmCallback t i = t ∨
      Keeps t (bmxEsp32AlarmCallback t i) i ∧ (t.slots i).state = .armed ∧
        (((bmxEsp32AlarmCallback t i).slots i).state = .armed ∨
          ((bmxEsp32AlarmCallback t i).slots i).state = .fired) := by
  rw [bmxEsp32AlarmCallback]
  split_ifs with harmed
  · refine .inr ⟨keeps_set t i ?_ ?_, harmed, ?_⟩
    · dsimp only
      split_ifs <;> rfl
    · dsimp only
      split_ifs <;> rfl
    · rw [t.slots_set_self]
      by_cases hperiodic : (t.slots i).intervalUs ≠ 0
      · simp only [if_pos hperiodic]
        exact .inl harmed
      · simp only [if_neg hperiodic]
        exact .inr trivial
  · exact .inl rfl

end Esp32Mod
