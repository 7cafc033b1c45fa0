/-
Esp32Mod/Sleep.lean

`bmx_embedded_sleep_microseconds` (`runtime.mod/native/esp32_runtime.c`): a request of any length,
cut into chunks of at most a minute.  A chunk reads the clock again and again, and sleeps for
most of what remains in `vTaskDelay`, or waits for the rest in `esp_rom_delay_us`.

The machine takes a step for each reading of the clock and each call that blocks, and an action is
the time that the step takes: any time, as the scheduler pleases.  The clock is an `int64_t`, so
there is no step beyond its range.  Outside the source the state records when the call was made,
and the calls that block, with what then remained of the chunk.

Main results:

* `sleep_never_early` — the call does not return before the request has elapsed, the calls that
  block are short enough, and it returns if they take any time at all.
-/
import Esp32Mod.StepMachine
import Mathlib.Algebra.Order.Ring.Nat

namespace Esp32Mod

open StepMachine Machine

/-- `pdMS_TO_TICKS`, whose product has 32 bits. -/
def pdMsToTicks32 (tickRate milliseconds : UInt32) : UInt32 := milliseconds * tickRate / 1000

/-- A call that blocks. -/
inductive SleepCall
  /-- `milliseconds` is the argument of `pdMS_TO_TICKS`. -/
  | vTaskDelay (milliseconds ticks : UInt32)
  | espRomDelayUs (microseconds : UInt32)
  deriving DecidableEq

/-- A pass of the loop in `bmx_esp32_sleep_microseconds_chunk`: the call that it makes, or `none`
if it returns. -/
def bmxEsp32SleepMicrosecondsPass (tickRate microseconds : UInt32) (elapsed : UInt64) :
    Option SleepCall :=
  if elapsed ≥ microseconds.toUInt64 then none
  else
    let remaining := microseconds - elapsed.toUInt32
    if remaining > 2000 then
      let milliseconds := (remaining - 1000) / 1000
      let ticks := pdMsToTicks32 tickRate milliseconds
      if ticks ≠ 0 then some (.vTaskDelay milliseconds ticks)
      else some (.espRomDelayUs remaining)
    else some (.espRomDelayUs remaining)

/-- What the call does next; `microseconds` is what is left of the request. -/
inductive SleepTask
  /-- the condition of the `while` -/
  | request (microseconds : UInt64)
  /-- `started` is read. -/
  | chunk (chunk : UInt32) (microseconds : UInt64)
  | pass (chunk : UInt32) (started : Nat) (microseconds : UInt64)
  | blocked (call : SleepCall) (chunk : UInt32) (started : Nat) (microseconds : UInt64)
  | returned
  deriving DecidableEq

/-- A call that blocks, and the microseconds that remained of the chunk. -/
structure SleepBlock where
  call : SleepCall
  remaining : Nat

/-- A call, its start and its request, and the clock. -/
structure Sleep where
  called : Nat
  request : UInt64
  clock : Nat
  task : SleepTask
  blocks : List SleepBlock := []

/-- The request of `bmx_embedded_sleep_milliseconds`. -/
def bmxEmbeddedSleepMilliseconds (milliseconds : UInt32) : UInt64 := milliseconds.toUInt64 * 1000

namespace Sleep

/-- The next step, at the time `s.clock`. -/
def next (tickRate : UInt32) (s : Sleep) : Sleep :=
  match s.task with
  | .request microseconds =>
    if microseconds = 0 then { s with task := .returned }
    else
      let chunk := if microseconds > 60000000 then 60000000 else microseconds.toUInt32
      { s with task := .chunk chunk microseconds }
  | .chunk chunk microseconds => { s with task := .pass chunk s.clock microseconds }
  | .pass chunk started microseconds =>
    match bmxEsp32SleepMicrosecondsPass tickRate chunk (UInt64.ofNat (s.clock - started)) with
    | none => { s with task := .request (microseconds - chunk.toUInt64) }
    | some call =>
      { s with
        task := .blocked call chunk started microseconds
        blocks := s.blocks ++ [⟨call, chunk.toNat - (s.clock - started)⟩] }
  | .blocked _ chunk started microseconds => { s with task := .pass chunk started microseconds }
  | .returned => s

/-- A step that takes `duration`. -/
def step (tickRate : UInt32) (s : Sleep) (duration : Nat) : Option Sleep :=
  if s.task = .returned ∨ 2 ^ 63 ≤ s.clock + duration then none
  else some (next tickRate { s with clock := s.clock + duration })

end Sleep

/-- A step may take any time, which is its label. -/
def sleepMachine (tickRate : UInt32) : Machine Sleep Nat where
  init s := s.task = .request s.request ∧ s.clock = s.called ∧ s.blocks = []
  step := Sleep.step tickRate

/-! ### The statement -/

/-- The call is short enough for what remains of the chunk. -/
def SleepCall.Bounded (tickRate : UInt32) (remaining : Nat) : SleepCall → Prop
  | .vTaskDelay milliseconds ticks =>
    milliseconds.toNat < 60000 ∧ milliseconds.toNat * tickRate.toNat < 2 ^ 32 ∧ 0 < ticks ∧
      ticks.toNat * 1000000 ≤ (remaining - 1000) * tickRate.toNat
  | .espRomDelayUs microseconds => microseconds.toNat ≤ remaining

namespace Sleep

/-- What holds after each step. -/
structure NeverEarly (tickRate : UInt32) (s : Sleep) : Prop where
  not_early : s.task = .returned → s.called + s.request.toNat ≤ s.clock
  bounded : ∀ b ∈ s.blocks, b.call.Bounded tickRate b.remaining
  /-- A pass returns or blocks. -/
  pass : ∀ chunk started microseconds duration s', s.task = .pass chunk started microseconds →
    s.step tickRate duration = some s' → (∃ microseconds, s'.task = .request microseconds) ∨
      ∃ call, s'.task = .blocked call chunk started microseconds
  /-- Nothing but the range of the clock keeps it from returning. -/
  continues : s.task ≠ .returned → ∀ duration, s.clock + duration < 2 ^ 63 →
    (s.step tickRate duration).isSome = true

/-- A call that blocks takes time. -/
def Advances (s : Sleep) (duration : Nat) : Prop :=
  ∀ call chunk started microseconds, s.task = .blocked call chunk started microseconds →
    1 ≤ duration

end Sleep

/-! ### A pass -/

section Pass

variable {tickRate microseconds : UInt32} {elapsed : UInt64}

theorem pass_none_iff : bmxEsp32SleepMicrosecondsPass tickRate microseconds elapsed = none ↔
    microseconds.toNat ≤ elapsed.toNat := by
  unfold bmxEsp32SleepMicrosecondsPass
  split
  next hdone =>
    rw [ge_iff_le, UInt64.le_iff_toNat_le, UInt32.toNat_toUInt64] at hdone
    exact iff_of_true rfl hdone
  next hearly =>
    rw [ge_iff_le, UInt64.le_iff_toNat_le, UInt32.toNat_toUInt64] at hearly
    apply iff_of_false _ hearly
    dsimp only
    split
    · split <;> exact Option.some_ne_none _
    · exact Option.some_ne_none _

/-- A product that does not wrap. -/
theorem toNat_pdMsToTicks32 {milliseconds : UInt32}
    (hsmall : milliseconds.toNat * tickRate.toNat < 2 ^ 32) :
    (pdMsToTicks32 tickRate milliseconds).toNat = milliseconds.toNat * tickRate.toNat / 1000 := by
  unfold pdMsToTicks32
  rw [UInt32.toNat_div, UInt32.toNat_mul, Nat.mod_eq_of_lt hsmall]
  rfl

/-- What remains of a chunk, of which less has elapsed. -/
theorem toNat_remaining (h : elapsed.toNat < microseconds.toNat) :
    (microseconds - elapsed.toUInt32).toNat = microseconds.toNat - elapsed.toNat := by
  have hsmall := microseconds.toNat_lt
  have hnarrow : elapsed.toUInt32.toNat = elapsed.toNat := by
    rw [UInt64.toNat_toUInt32]
    omega
  rw [UInt32.toNat_sub_of_le, hnarrow]
  rw [UInt32.le_iff_toNat_le, hnarrow]
  exact Nat.le_of_lt h

/-- What a pass calls is short enough. -/
theorem pass_bounded (hrate : tickRate ≤ 1000) (hchunk : microseconds ≤ 60000000)
    {call : SleepCall}
    (h : bmxEsp32SleepMicrosecondsPass tickRate microseconds elapsed = some call) :
    call.Bounded tickRate (microseconds.toNat - elapsed.toNat) := by
  have hlt : ¬ microseconds.toNat ≤ elapsed.toNat :=
    fun hdone => Option.some_ne_none call (h.symm.trans (pass_none_iff.mpr hdone))
  have hremaining := toNat_remaining (Nat.not_le.mp hlt)
  have hsmall : microseconds.toNat ≤ 60000000 := UInt32.le_iff_toNat_le.mp hchunk
  have hrate' : tickRate.toNat ≤ 1000 := UInt32.le_iff_toNat_le.mp hrate
  unfold bmxEsp32SleepMicrosecondsPass at h
  split at h
  · exact absurd h (Option.some_ne_none call).symm
  dsimp only at h
  generalize microseconds - elapsed.toUInt32 = remaining at h hremaining
  rw [← hremaining]
  split at h
  next hlong =>
    have hlong' : 2000 < remaining.toNat := UInt32.lt_iff_toNat_lt.mp hlong
    -- a millisecond is kept back for the tick that has begun
    have hmilliseconds : ((remaining - 1000) / 1000).toNat = (remaining.toNat - 1000) / 1000 := by
      rw [UInt32.toNat_div, UInt32.toNat_sub_of_le]
      · rfl
      · exact UInt32.le_iff_toNat_le.mpr (Nat.le_of_lt (Nat.lt_of_lt_of_le (by decide) hlong'.le))
    generalize (remaining - 1000) / 1000 = milliseconds at h hmilliseconds
    split at h
    next hticks =>
      obtain rfl := Option.some.inj h
      have harg : milliseconds.toNat < 60000 := by omega
      have hproduct : milliseconds.toNat * tickRate.toNat ≤ 60000 * 1000 :=
        Nat.mul_le_mul (Nat.le_of_lt harg) hrate'
      refine ⟨harg, by omega, UInt32.pos_iff_ne_zero.mpr hticks, ?_⟩
      rw [toNat_pdMsToTicks32 (by omega)]
      -- the ticks are rounded down twice
      calc milliseconds.toNat * tickRate.toNat / 1000 * 1000000
          = milliseconds.toNat * tickRate.toNat / 1000 * 1000 * 1000 := by omega
        _ ≤ milliseconds.toNat * tickRate.toNat * 1000 :=
          Nat.mul_le_mul_right _ (Nat.div_mul_le_self _ _)
        _ = milliseconds.toNat * 1000 * tickRate.toNat := Nat.mul_right_comm _ _ _
        _ ≤ (remaining.toNat - 1000) * tickRate.toNat :=
          Nat.mul_le_mul_right _ (by omega)
    next hticks =>
      obtain rfl := Option.some.inj h
      exact Nat.le_refl _
  next hshort =>
    obtain rfl := Option.some.inj h
    exact Nat.le_refl _

end Pass

/-! ### Every step -/

/-- What a step at time `clock` makes of the task, and the calls that it records. -/
inductive StepsTo (tickRate : UInt32) (clock : Nat) :
    SleepTask → SleepTask → List SleepBlock → Prop
  | returns : StepsTo tickRate clock (.request 0) .returned []
  | cuts {microseconds : UInt64} (hne : microseconds ≠ 0) :
      StepsTo tickRate clock (.request microseconds)
        (.chunk (if microseconds > 60000000 then 60000000 else microseconds.toUInt32)
          microseconds) []
  | starts {chunk : UInt32} {microseconds : UInt64} :
      StepsTo tickRate clock (.chunk chunk microseconds) (.pass chunk clock microseconds) []
  | elapsed {chunk : UInt32} {started : Nat} {microseconds : UInt64}
      (hpass : bmxEsp32SleepMicrosecondsPass tickRate chunk (UInt64.ofNat (clock - started)) =
        none) :
      StepsTo tickRate clock (.pass chunk started microseconds)
        (.request (microseconds - chunk.toUInt64)) []
  | blocks {chunk : UInt32} {started : Nat} {microseconds : UInt64} {call : SleepCall}
      (hpass : bmxEsp32SleepMicrosecondsPass tickRate chunk (UInt64.ofNat (clock - started)) =
        some call) :
      StepsTo tickRate clock (.pass chunk started microseconds)
        (.blocked call chunk started microseconds) [⟨call, chunk.toNat - (clock - started)⟩]
  | resumes {call : SleepCall} {chunk : UInt32} {started : Nat} {microseconds : UInt64} :
      StepsTo tickRate clock (.blocked call chunk started microseconds)
        (.pass chunk started microseconds) []

/-- What a step does. -/
theorem Sleep.step_cases {tickRate : UInt32} {s s' : Sleep} {duration : Nat}
    (hstep : s.step tickRate duration = some s') : s.clock + duration < 2 ^ 63 ∧
      ∃ task blocks, StepsTo tickRate (s.clock + duration) s.task task blocks ∧
        s' = ⟨s.called, s.request, s.clock + duration, task, s.blocks ++ blocks⟩ := by
  unfold step at hstep
  split at hstep
  · exact absurd hstep (Option.some_ne_none s').symm
  next hrunning =>
    obtain ⟨hnotReturned, hclock⟩ := not_or.mp hrunning
    obtain rfl := Option.some.inj hstep
    refine ⟨Nat.not_le.mp hclock, ?_⟩
    obtain ⟨called, request, clock, task, log⟩ := s
    cases task with
    | request microseconds =>
      by_cases hzero : microseconds = 0
      · subst hzero
        exact ⟨_, _, .returns, by rw [List.append_nil]; rfl⟩
      · refine ⟨_, _, .cuts hzero, ?_⟩
        unfold next
        dsimp only
        rw [if_neg hzero, List.append_nil]
    | chunk chunk microseconds => exact ⟨_, _, .starts, by rw [List.append_nil]; rfl⟩
    | pass chunk started microseconds =>
      unfold next
      dsimp only
      split
      next hpass => exact ⟨_, _, .elapsed hpass, by rw [List.append_nil]⟩
      next call hpass => exact ⟨_, _, .blocks hpass, rfl⟩
    | blocked call chunk started microseconds =>
      exact ⟨_, _, .resumes, by rw [List.append_nil]; rfl⟩
    | returned => exact absurd rfl hnotReturned

/-- `microseconds` are left of the request, and at `time` the rest has elapsed since the call. -/
structure Left (called : Nat) (request : UInt64) (microseconds : UInt64) (time : Nat) : Prop where
  le : microseconds ≤ request
  elapsed : called + (request.toNat - microseconds.toNat) ≤ time

/-- A chunk is a part of what is left, of at most a minute. -/
structure Part (chunk : UInt32) (microseconds : UInt64) : Prop where
  pos : 0 < chunk.toNat
  small : chunk ≤ 60000000
  le : chunk.toNat ≤ microseconds.toNat

variable {tickRate : UInt32} {called clock duration : Nat} {request microseconds : UInt64}
  {chunk : UInt32} {started : Nat} {task task' : SleepTask} {blocks : List SleepBlock}

/-- The invariant of the task. -/
def SleepTask.Ok (called : Nat) (request : UInt64) (clock : Nat) : SleepTask → Prop
  | .request microseconds => Left called request microseconds clock
  | .chunk chunk microseconds => Left called request microseconds clock ∧ Part chunk microseconds
  | .pass chunk started microseconds =>
    Left called request microseconds started ∧ Part chunk microseconds ∧ started ≤ clock
  | .blocked _ chunk started microseconds =>
    Left called request microseconds started ∧ Part chunk microseconds ∧ started ≤ clock ∧
      clock - started < chunk.toNat
  | .returned => called + request.toNat ≤ clock

theorem Left.mono (h : Left called request microseconds clock) :
    Left called request microseconds (clock + duration) :=
  ⟨h.le, Nat.le_trans h.elapsed (Nat.le_add_right _ _)⟩

theorem toNat_sub_chunk (hpart : Part chunk microseconds) :
    (microseconds - chunk.toUInt64).toNat = microseconds.toNat - chunk.toNat := by
  have hle := hpart.le
  rw [UInt64.toNat_sub_of_le, UInt32.toNat_toUInt64]
  rwa [UInt64.le_iff_toNat_le, UInt32.toNat_toUInt64]

/-- The part of the request that is left when a chunk has elapsed. -/
theorem Left.next_chunk (h : Left called request microseconds started)
    (hpart : Part chunk microseconds) (hdone : started + chunk.toNat ≤ clock) :
    Left called request (microseconds - chunk.toUInt64) clock := by
  have hle := UInt64.le_iff_toNat_le.mp h.le
  have hchunk := hpart.le
  have hsub := toNat_sub_chunk hpart
  have helapsed := h.elapsed
  refine ⟨?_, ?_⟩
  · rw [UInt64.le_iff_toNat_le, hsub]
    omega
  · rw [hsub]
    omega

/-- A chunk of the request. -/
theorem part_of_request (hne : microseconds ≠ 0) :
    Part (if microseconds > 60000000 then 60000000 else microseconds.toUInt32) microseconds := by
  split
  next hlong => exact ⟨by decide, UInt32.le_refl _, Nat.le_of_lt (UInt64.lt_iff_toNat_lt.mp hlong)⟩
  next hshort =>
    have hle : microseconds.toNat ≤ 60000000 :=
      UInt64.le_iff_toNat_le.mp (UInt64.not_lt.mp hshort)
    have hpos : microseconds.toNat ≠ 0 := fun h => hne (UInt64.toNat_inj.mp h)
    have hnarrow : microseconds.toUInt32.toNat = microseconds.toNat := by
      rw [UInt64.toNat_toUInt32]
      omega
    refine ⟨by omega, UInt32.le_iff_toNat_le.mpr ?_, by omega⟩
    rw [hnarrow]
    exact hle

/-- The conversion of the elapsed time is exact. -/
theorem toNat_elapsed (hclock : clock < 2 ^ 63) :
    (UInt64.ofNat (clock - started)).toNat = clock - started :=
  UInt64.toNat_ofNat_of_lt' (by
    have : UInt64.size = 2 ^ 64 := rfl
    omega)

/-- A pass that blocks is before the end of the chunk. -/
theorem not_elapsed {call : SleepCall} (hclock : clock < 2 ^ 63)
    (hpass : bmxEsp32SleepMicrosecondsPass tickRate chunk (UInt64.ofNat (clock - started)) =
      some call) : clock - started < chunk.toNat := by
  rw [← Nat.not_le, ← toNat_elapsed hclock]
  exact fun hdone => Option.some_ne_none call (hpass.symm.trans (pass_none_iff.mpr hdone))

theorem SleepTask.Ok.step (h : task.Ok called request clock) (hclock : clock + duration < 2 ^ 63)
    (hsteps : StepsTo tickRate (clock + duration) task task' blocks) :
    task'.Ok called request (clock + duration) := by
  cases hsteps with
  | returns => exact h.mono.elapsed
  | cuts hne => exact ⟨h.mono, part_of_request hne⟩
  | starts => exact ⟨h.1.mono, h.2, Nat.le_refl _⟩
  | @elapsed chunk started microseconds hpass =>
    obtain ⟨hleft, hpart, hstarted⟩ := h
    rw [pass_none_iff, toNat_elapsed hclock] at hpass
    exact hleft.next_chunk hpart (by omega)
  | blocks hpass =>
    obtain ⟨hleft, hpart, hstarted⟩ := h
    exact ⟨hleft, hpart, Nat.le_trans hstarted (Nat.le_add_right _ _), not_elapsed hclock hpass⟩
  | resumes =>
    obtain ⟨hleft, hpart, hstarted, -⟩ := h
    exact ⟨hleft, hpart, Nat.le_trans hstarted (Nat.le_add_right _ _)⟩

/-- The calls of a step are short enough. -/
theorem StepsTo.bounded (hrate : tickRate ≤ 1000) (h : task.Ok called request clock)
    (hclock : clock + duration < 2 ^ 63)
    (hsteps : StepsTo tickRate (clock + duration) task task' blocks) :
    ∀ b ∈ blocks, b.call.Bounded tickRate b.remaining := by
  cases hsteps with
  | blocks hpass =>
    intro b hb
    obtain rfl := List.mem_singleton.mp hb
    have hbounded := pass_bounded hrate h.2.1.small hpass
    rwa [toNat_elapsed hclock] at hbounded
  | _ => exact fun b hb => absurd hb List.not_mem_nil

namespace Sleep

variable {s s' : Sleep}

/-- The invariant behind it. -/
structure Inv (tickRate : UInt32) (s : Sleep) : Prop where
  task : s.task.Ok s.called s.request s.clock
  bounded : ∀ b ∈ s.blocks, b.call.Bounded tickRate b.remaining

theorem Inv.step (hrate : tickRate ≤ 1000) (h : s.Inv tickRate)
    (hstep : s.step tickRate duration = some s') : s'.Inv tickRate := by
  obtain ⟨hclock, task, blocks, hsteps, rfl⟩ := step_cases hstep
  refine ⟨h.task.step hclock hsteps, ?_⟩
  intro b hb
  rcases List.mem_append.mp hb with hb | hb
  · exact h.bounded b hb
  · exact hsteps.bounded hrate h.task hclock b hb

theorem inv_of_init (h : (sleepMachine tickRate).init s) : s.Inv tickRate := by
  obtain ⟨htask, hclock, hblocks⟩ := h
  refine ⟨?_, ?_⟩
  · rw [htask]
    exact ⟨UInt64.le_refl _, by rw [hclock]; omega⟩
  · rw [hblocks]
    exact fun b hb => absurd hb List.not_mem_nil

/-! ### The end -/

/-- The steps that are left if every call that blocks takes time. -/
def stepsLeft (s : Sleep) : Nat :=
  match s.task with
  | .request microseconds => 5 * microseconds.toNat + 1
  | .chunk _ microseconds => 5 * microseconds.toNat
  | .pass chunk started microseconds =>
    5 * (microseconds.toNat - chunk.toNat) + 2 + 2 * (chunk.toNat - (s.clock - started))
  | .blocked _ chunk started microseconds =>
    5 * (microseconds.toNat - chunk.toNat) + 1 + 2 * (chunk.toNat - (s.clock - started))
  | .returned => 0

theorem stepsLeft_step (h : s.Inv tickRate) (hadvances : s.Advances duration)
    (hstep : s.step tickRate duration = some s') : s'.stepsLeft < s.stepsLeft := by
  obtain ⟨hclock, task, blocks, hsteps, rfl⟩ := step_cases hstep
  obtain ⟨called, request, clock, before, log⟩ := s
  have htask := h.task
  unfold stepsLeft
  dsimp only at hsteps htask ⊢
  cases hsteps with
  | returns => exact Nat.succ_pos _
  | cuts hne => exact Nat.lt_succ_self _
  | starts =>
    have hpos := htask.2.pos
    have hle := htask.2.le
    dsimp only
    omega
  | elapsed hpass =>
    have hsub := toNat_sub_chunk htask.2.1
    dsimp only
    omega
  | blocks hpass =>
    have hearly := not_elapsed hclock hpass
    have hstarted := htask.2.2
    dsimp only at hclock ⊢
    omega
  | resumes =>
    obtain ⟨-, hpart, hstarted, hearly⟩ := htask
    have htime := hadvances _ _ _ _ rfl
    dsimp only
    omega

theorem Inv.neverEarly (h : s.Inv tickRate) : s.NeverEarly tickRate := by
  refine ⟨?_, h.bounded, ?_, ?_⟩
  · intro hreturned
    have htask := h.task
    rw [hreturned] at htask
    exact htask
  · intro chunk started microseconds duration s' hpass hstep
    obtain ⟨-, task, blocks, hsteps, rfl⟩ := step_cases hstep
    rw [hpass] at hsteps
    cases hsteps with
    | elapsed hpass => exact Or.inl ⟨_, rfl⟩
    | blocks hpass => exact Or.inr ⟨_, rfl⟩
  · intro hrunning duration hclock
    unfold Sleep.step
    rw [if_neg (not_or.mpr ⟨hrunning, Nat.not_le.mpr hclock⟩)]
    rfl

end Sleep

theorem toNat_sleepMilliseconds (milliseconds : UInt32) :
    (bmxEmbeddedSleepMilliseconds milliseconds).toNat = 1000 * milliseconds.toNat := by
  have hsmall := milliseconds.toNat_lt
  have hthousand : (1000 : UInt64).toNat = 1000 := rfl
  unfold bmxEmbeddedSleepMilliseconds
  rw [UInt64.toNat_mul, UInt32.toNat_toUInt64, hthousand]
  omega

/-- **A sleep is never early, and ends.**  In every run of a call, at any tick rate up to 1000 and
with any delays: when it has returned, the request has elapsed; each call that blocks is short
enough; each pass returns or blocks.  If every call that blocks takes time, a run has at most
`5 * request + 1` steps. -/
theorem sleep_never_early (tickRate : UInt32) (hrate : 1 ≤ tickRate ∧ tickRate ≤ 1000) :
    (∀ s, (sleepMachine tickRate).Reachable s → s.NeverEarly tickRate) ∧
      (∀ s durations s', (sleepMachine tickRate).init s →
        (sleepMachine tickRate).RunIn Sleep.Advances s durations s' →
          durations.length ≤ 5 * s.request.toNat + 1) ∧
      ∀ milliseconds, (bmxEmbeddedSleepMilliseconds milliseconds).toNat =
        1000 * milliseconds.toNat := by
  refine ⟨?_, ?_, toNat_sleepMilliseconds⟩
  · intro s h
    have hinv : s.Inv tickRate :=
      h.invariant (fun _ => Sleep.inv_of_init) fun _ _ _ hs _ hstep => hs.step hrate.2 hstep
    exact hinv.neverEarly
  · intro s durations s' hinit hrun
    have hlength := hrun.length_le Sleep.stepsLeft (Sleep.inv_of_init hinit) fun s a s' hs hok hstep =>
      ⟨hs.step hrate.2 hstep, Sleep.stepsLeft_step hs hok hstep⟩
    have hstart : s.stepsLeft = 5 * s.request.toNat + 1 := by
      unfold Sleep.stepsLeft
      rw [hinit.1]
    rwa [hstart] at hlength

theorem sleep_never_early_hundred :
    (∀ s, (sleepMachine 100).Reachable s → s.NeverEarly 100) ∧
      (∀ s durations s', (sleepMachine 100).init s →
        (sleepMachine 100).RunIn Sleep.Advances s durations s' →
          durations.length ≤ 5 * s.request.toNat + 1) ∧
      ∀ milliseconds, (bmxEmbeddedSleepMilliseconds milliseconds).toNat =
        1000 * milliseconds.toNat :=
  sleep_never_early 100 (by decide)

end Esp32Mod
