/-
Esp32Mod/Pwm.lean

The pulse-width outputs of the native runtime (`runtime.mod/native/esp32_pwm.c`).  A pin gets a
channel of the LED controller for itself, and a timer that it shares with the pins of the same
frequency; each timer counts its channels.

The state keeps, beside the two static tables, the driver calls that have been made.  The
constants of the target are a `PwmTarget`, and the results of the driver are arguments of each
function; those that the source ignores are left out.

Main result:

* `pwm_allocation` — in every state between calls the tables are `Allocated`: counts, flags,
  resolutions and pins agree; hence giving all pins back frees every channel and timer, and a
  pin is refused without a driver call only if there is nothing left for it.
-/
import Esp32Mod.StepMachine
import Esp32Mod.SharedPool
import Esp32Mod.Errors
import Mathlib.Data.List.FinRange

namespace Esp32Mod

open StepMachine Machine SharedPool

/-! ### The tables -/

/-- `LEDC_CHANNEL_MAX`, `LEDC_TIMER_MAX` and the pins.  A `uint8_t` counts the channels. -/
structure PwmTarget where
  channelMax : Nat
  timerMax : Nat
  isValidOutputGpio : Int32 → Bool
  channelMax_le : channelMax ≤ 255
  timerMax_pos : 0 < timerMax

/-- `timer` is a `uint8_t` that only ever names an entry of the timer table. -/
structure PwmChannel (t : PwmTarget) where
  configured : Bool
  enabled : Bool
  inverted : Bool
  timer : Fin t.timerMax
  resolutionBits : UInt8
  gpio : UInt32
  duty : UInt32

/-- An entry of the timer table; `references` counts the channels that use it. -/
structure PwmTimer where
  used : Bool
  references : UInt8
  resolutionBits : UInt8
  requestedFrequency : UInt32
  achievedFrequency : UInt32

/-- The calls to the driver, with what they are given. -/
inductive LedcCall (t : PwmTarget)
  | findSuitableDutyResolution (frequency : UInt32)
  | timerConfig (timer : Fin t.timerMax) (resolution frequency : UInt32)
  | getFreq (timer : Fin t.timerMax)
  | channelConfig (channel : Fin t.channelMax) (gpio : Int32) (timer : Fin t.timerMax)
      (duty : UInt32) (outputInvert : Bool)
  | deconfigure (channel : Fin t.channelMax)
  | setDuty (channel : Fin t.channelMax) (duty : UInt32)
  | updateDuty (channel : Fin t.channelMax)
  | stop (channel : Fin t.channelMax) (idle : UInt32)
  | gpioResetPin (gpio : UInt32)

/-- The two tables, and the driver calls made so far. -/
structure PwmState (t : PwmTarget) where
  channels : Fin t.channelMax → PwmChannel t
  timers : Fin t.timerMax → PwmTimer
  calls : List (LedcCall t)

variable {t : PwmTarget}

namespace PwmState

/-- Note a call to the driver. -/
def issue (s : PwmState t) (call : LedcCall t) : PwmState t :=
  { s with calls := s.calls ++ [call] }

/-- Change one entry of the channel table. -/
def setChannel (s : PwmState t) (c : Fin t.channelMax) (f : PwmChannel t → PwmChannel t) :
    PwmState t :=
  { s with channels := Function.update s.channels c (f (s.channels c)) }

/-- Change one entry of the timer table. -/
def setTimer (s : PwmState t) (i : Fin t.timerMax) (f : PwmTimer → PwmTimer) : PwmState t :=
  { s with timers := Function.update s.timers i (f (s.timers i)) }

end PwmState

/-! ### Lookup -/

/-- `PWMDutyMaximum`. -/
def pwmDutyMaximum : UInt32 := 65535

/-- The pin is converted to `int` only when it fits. -/
def bmxEmbeddedPwmIsValidPin (t : PwmTarget) (gpio : UInt32) : Bool :=
  decide (gpio ≤ 0x7FFFFFFF) && t.isValidOutputGpio gpio.toInt32

/-- `none` is -1, here and in the two lookups below. -/
def bmxEsp32PwmChannelForGpio (s : PwmState t) (gpio : UInt32) : Option (Fin t.channelMax) :=
  (List.finRange _).find? fun c => (s.channels c).configured && (s.channels c).gpio == gpio

/-- The first channel that no pin has. -/
def bmxEsp32PwmFreeChannel (s : PwmState t) : Option (Fin t.channelMax) :=
  (List.finRange _).find? fun c => !(s.channels c).configured

/-- A timer in use that was asked for this frequency, or else the first unused one. -/
def bmxEsp32PwmTimerForFrequency (s : PwmState t) (frequency : UInt32) :
    Option (Fin t.timerMax) :=
  ((List.finRange _).find? fun i =>
    (s.timers i).used && (s.timers i).requestedFrequency == frequency).or
      ((List.finRange _).find? fun i => !(s.timers i).used)

/-! ### Driver access -/

/-- `resolution`, `config` and `achieved` are the results of `ledc_find_suitable_duty_resolution`,
`ledc_timer_config` and `ledc_get_freq`. -/
structure PwmTimerResults where
  resolution : UInt32 := 10
  config : EspErr := espOk
  achieved : UInt32 := 1000

/-- Set a timer to a frequency, at the best resolution there is.  The result is the frequency that
the driver reports, or 0. -/
def bmxEsp32PwmConfigureTimer (s : PwmState t) (timer : Fin t.timerMax) (frequency : UInt32)
    (r : PwmTimerResults) : UInt32 × PwmState t :=
  let s := s.issue (.findSuitableDutyResolution frequency)
  if r.resolution = 0 then (0, s)
  else
    let s := s.issue (.timerConfig timer r.resolution frequency)
    if r.config ≠ espOk then (0, s)
    else
      let s := s.issue (.getFreq timer)
      if r.achieved = 0 then (0, s)
      else
        -- the table changes only now, with everything known
        (r.achieved, s.setTimer timer fun x => { x with
          used := true, resolutionBits := r.resolution.toUInt8, requestedFrequency := frequency,
          achievedFrequency := r.achieved })

/-- The duty at the resolution of the channel's timer, rounded to nearest; a disabled channel
has 0. -/
def bmxEsp32PwmNativeDuty (channel : PwmChannel t) : UInt32 :=
  if channel.enabled = false then 0
  else
    let maximum : UInt32 := (1 <<< channel.resolutionBits.toUInt32) - 1
    ((channel.duty.toUInt64 * maximum.toUInt64 + pwmDutyMaximum.toUInt64 / 2) /
      pwmDutyMaximum.toUInt64).toUInt32

/-- Configure the channel in the driver, from what the table says of it. -/
def bmxEsp32PwmApplyChannel (s : PwmState t) (c : Fin t.channelMax) (apply : EspErr) :
    Bool × PwmState t :=
  let channel := s.channels c
  (decide (apply = espOk), s.issue (.channelConfig c channel.gpio.toInt32 channel.timer
    (bmxEsp32PwmNativeDuty channel) channel.inverted))

/-- What the driver answers to the two calls of an update. -/
structure PwmDutyResults where
  setDuty : EspErr := espOk
  updateDuty : EspErr := espOk

/-- Pass the duty of the table to the driver, and have it take effect. -/
def bmxEsp32PwmApplyDuty (s : PwmState t) (c : Fin t.channelMax) (r : PwmDutyResults) :
    Bool × PwmState t :=
  let s := s.issue (.setDuty c (bmxEsp32PwmNativeDuty (s.channels c)))
  if r.setDuty ≠ espOk then (false, s)
  else (decide (r.updateDuty = espOk), s.issue (.updateDuty c))

/-- Deconfigure the channel in the driver; the table is the caller's. -/
def bmxEsp32PwmReleaseChannel (s : PwmState t) (c : Fin t.channelMax) (release : EspErr) :
    Bool × PwmState t :=
  (decide (release = espOk), s.issue (.deconfigure c))

/-! ### The setters -/

/-- What the driver answers to a change of frequency. -/
structure PwmFrequencyResults where
  timer : PwmTimerResults := {}
  duty : PwmDutyResults := {}

/-- The result is the frequency achieved, or 0.  A timer that only this pin uses is retuned. -/
def bmxEmbeddedPwmSetPinFrequency (s : PwmState t) (gpio frequency : UInt32)
    (r : PwmFrequencyResults) : UInt32 × PwmState t :=
  match bmxEsp32PwmChannelForGpio s gpio with
  | none => (0, s)
  | some c =>
    let timer := (s.channels c).timer
    if frequency = 0 then (0, s)
    else if (s.timers timer).requestedFrequency = frequency then
      ((s.timers timer).achievedFrequency, s)
    -- a shared timer keeps its frequency
    else if 1 < (s.timers timer).references then (0, s)
    else
      let (achieved, s) := bmxEsp32PwmConfigureTimer s timer frequency r.timer
      if achieved = 0 then (0, s)
      else
        let s := s.setChannel c fun channel =>
          { channel with resolutionBits := (s.timers timer).resolutionBits }
        if (s.channels c).enabled = false then (achieved, s)
        else
          let (applied, s) := bmxEsp32PwmApplyDuty s c r.duty
          (if applied = true then achieved else 0, s)

/-- The frequency that the pin's timer has achieved, 0 for a pin without a channel. -/
def bmxEmbeddedPwmGetPinFrequency (s : PwmState t) (gpio : UInt32) : UInt32 :=
  match bmxEsp32PwmChannelForGpio s gpio with
  | none => 0
  | some c => (s.timers (s.channels c).timer).achievedFrequency

/-- A refused update puts the previous duty back.  A disabled channel only records the new one. -/
def bmxEmbeddedPwmSetPinDuty (s : PwmState t) (gpio duty : UInt32) (r : PwmDutyResults) :
    Int32 × PwmState t :=
  match bmxEsp32PwmChannelForGpio s gpio with
  | none => (0, s)
  | some c =>
    if pwmDutyMaximum < duty then (0, s)
    else
      let previous := (s.channels c).duty
      let s := s.setChannel c fun channel => { channel with duty }
      if (s.channels c).enabled = false then (1, s)
      else
        let (applied, s) := bmxEsp32PwmApplyDuty s c r
        if applied = true then (1, s)
        else (0, s.setChannel c fun channel => { channel with duty := previous })

/-- What the driver answers to a change of polarity. -/
structure PwmPolarityResults where
  release : EspErr := espOk
  apply : EspErr := espOk

/-- The channel is stopped, released and configured anew; if that fails, the previous polarity
is tried again. -/
def bmxEmbeddedPwmSetPinPolarity (s : PwmState t) (gpio : UInt32) (inverted : Int32)
    (r : PwmPolarityResults) : Int32 × PwmState t :=
  match bmxEsp32PwmChannelForGpio s gpio with
  | none => (0, s)
  | some c =>
    let previous := (s.channels c).inverted
    let s := s.issue (.stop c (if previous then 1 else 0))
    let (released, s) := bmxEsp32PwmReleaseChannel s c r.release
    if released = false then (0, s)
    else
      let s := s.setChannel c fun channel => { channel with inverted := inverted != 0 }
      let (applied, s) := bmxEsp32PwmApplyChannel s c r.apply
      if applied = true then (1, s)
      else
        let s := s.setChannel c fun channel => { channel with inverted := previous }
        -- the result of the second attempt is ignored
        (0, (bmxEsp32PwmApplyChannel s c espOk).2)

/-- What the driver answers to a start or a stop. -/
structure PwmEnabledResults where
  duty : PwmDutyResults := {}
  stop : EspErr := espOk

/-- Start with the recorded duty, or stop at the idle level; a failure puts the flag back. -/
def bmxEmbeddedPwmSetPinEnabled (s : PwmState t) (gpio : UInt32) (enabled : Int32)
    (r : PwmEnabledResults) : Int32 × PwmState t :=
  match bmxEsp32PwmChannelForGpio s gpio with
  | none => (0, s)
  | some c =>
    let previous := (s.channels c).enabled
    let s := s.setChannel c fun channel => { channel with enabled := enabled != 0 }
    let (done, s) :=
      if (s.channels c).enabled = true then bmxEsp32PwmApplyDuty s c r.duty
      else (decide (r.stop = espOk),
        s.issue (.stop c (if (s.channels c).inverted then 1 else 0)))
    if done = true then (1, s)
    else (0, s.setChannel c fun channel => { channel with enabled := previous })

/-! ### Taking a pin and giving it back -/

/-- What the driver answers on the way through `init_pin`. -/
structure PwmInitResults where
  timer : PwmTimerResults := {}
  apply : EspErr := espOk
  frequency : PwmFrequencyResults := {}
  polarity : PwmPolarityResults := {}
  duty : PwmDutyResults := {}
  enabled : PwmEnabledResults := {}

/-- `init_pin` of a pin that has a channel. -/
def pwmInitExisting (s : PwmState t) (gpio frequency duty : UInt32) (inverted : Int32)
    (r : PwmInitResults) : UInt32 × PwmState t :=
  let (achieved, s) := bmxEmbeddedPwmSetPinFrequency s gpio frequency r.frequency
  if achieved = 0 then (0, s)
  else
    let (done, s) := bmxEmbeddedPwmSetPinPolarity s gpio inverted r.polarity
    if done = 0 then (0, s)
    else
      let (done, s) := bmxEmbeddedPwmSetPinDuty s gpio duty r.duty
      if done = 0 then (0, s)
      else
        let (done, s) := bmxEmbeddedPwmSetPinEnabled s gpio 1 r.enabled
        if done = 0 then (0, s)
        else (bmxEmbeddedPwmGetPinFrequency s gpio, s)

/-- `init_pin` of a pin that gets channel `c` and timer `i`, once the timer runs. -/
def pwmTakeChannel (s : PwmState t) (c : Fin t.channelMax) (i : Fin t.timerMax)
    (gpio duty : UInt32) (inverted : Int32) (apply : EspErr) : UInt32 × PwmState t :=
  let s := s.setChannel c fun _ =>
    { configured := true, enabled := true, inverted := inverted != 0, timer := i
      resolutionBits := (s.timers i).resolutionBits, gpio, duty }
  let (applied, s) := bmxEsp32PwmApplyChannel s c apply
  if applied = false then
    let s := s.setChannel c fun channel => { channel with configured := false }
    -- a timer without references was configured for this channel
    (0, if (s.timers i).references = 0 then s.setTimer i fun x => { x with used := false } else s)
  else
    ((s.timers i).achievedFrequency,
      s.setTimer i fun x => { x with references := x.references + 1 })

/-- `init_pin` of a pin that has no channel. -/
def pwmInitFresh (s : PwmState t) (gpio frequency duty : UInt32) (inverted : Int32)
    (r : PwmInitResults) : UInt32 × PwmState t :=
  match bmxEsp32PwmFreeChannel s, bmxEsp32PwmTimerForFrequency s frequency with
  | some c, some i =>
    if (s.timers i).used = true then pwmTakeChannel s c i gpio duty inverted r.apply
    else
      let (achieved, s) := bmxEsp32PwmConfigureTimer s i frequency r.timer
      if achieved = 0 then (0, s) else pwmTakeChannel s c i gpio duty inverted r.apply
  | _, _ => (0, s)

/-- A pin that has a channel goes through the setters, any other takes a channel and a timer.
The result is the frequency achieved, or 0. -/
def bmxEmbeddedPwmInitPin (s : PwmState t) (gpio frequency duty : UInt32) (inverted : Int32)
    (r : PwmInitResults) : UInt32 × PwmState t :=
  if bmxEmbeddedPwmIsValidPin t gpio = false ∨ frequency = 0 ∨ pwmDutyMaximum < duty then (0, s)
  else
    match bmxEsp32PwmChannelForGpio s gpio with
    | some _ => pwmInitExisting s gpio frequency duty inverted r
    | none => pwmInitFresh s gpio frequency duty inverted r

/-- Give the pin's channel back, and its timer with the last reference. -/
def bmxEmbeddedPwmDeinitPin (s : PwmState t) (gpio : UInt32) (release : EspErr) :
    Int32 × PwmState t :=
  match bmxEsp32PwmChannelForGpio s gpio with
  | none => (0, s)
  | some c =>
    let timer := (s.channels c).timer
    let s := s.issue (.stop c (if (s.channels c).inverted then 1 else 0))
    let (released, s) := bmxEsp32PwmReleaseChannel s c release
    if released = false then (0, s)
    else
      let s := s.issue (.gpioResetPin gpio)
      let s := s.setChannel c fun channel => { channel with configured := false }
      let s := s.setTimer timer fun x =>
        { x with references := if x.references = 0 then 0 else x.references - 1 }
      (1, s.setTimer timer fun x =>
        { x with used := if x.references = 0 then false else x.used })

/-! ### Runs of calls -/

/-- A call of the module, with what the driver answers to it. -/
inductive PwmCall
  | initPin (gpio frequency duty : UInt32) (inverted : Int32) (r : PwmInitResults)
  | deinitPin (gpio : UInt32) (release : EspErr)
  | setPinFrequency (gpio frequency : UInt32) (r : PwmFrequencyResults)
  | setPinDuty (gpio duty : UInt32) (r : PwmDutyResults)
  | setPinPolarity (gpio : UInt32) (inverted : Int32) (r : PwmPolarityResults)
  | setPinEnabled (gpio : UInt32) (enabled : Int32) (r : PwmEnabledResults)

/-- The state after a call; its result is dropped. -/
def pwmCall (s : PwmState t) : PwmCall → PwmState t
  | .initPin gpio frequency duty inverted r =>
    (bmxEmbeddedPwmInitPin s gpio frequency duty inverted r).2
  | .deinitPin gpio release => (bmxEmbeddedPwmDeinitPin s gpio release).2
  | .setPinFrequency gpio frequency r => (bmxEmbeddedPwmSetPinFrequency s gpio frequency r).2
  | .setPinDuty gpio duty r => (bmxEmbeddedPwmSetPinDuty s gpio duty r).2
  | .setPinPolarity gpio inverted r => (bmxEmbeddedPwmSetPinPolarity s gpio inverted r).2
  | .setPinEnabled gpio enabled r => (bmxEmbeddedPwmSetPinEnabled s gpio enabled r).2

/-- The static tables before the first call. -/
def pwmReset (t : PwmTarget) : PwmState t where
  channels _ := ⟨false, false, false, ⟨0, t.timerMax_pos⟩, 0, 0, 0⟩
  timers _ := ⟨false, 0, 0, 0, 0⟩
  calls := []

/-- Any calls in any order, from the static tables on. -/
def pwmMachine (t : PwmTarget) : Machine (PwmState t) PwmCall where
  init s := s = pwmReset t
  step s a := some (pwmCall s a)

/-- What holds of the two tables between calls. -/
structure PwmState.Allocated (s : PwmState t) : Prop where
  counted : ∀ i, (s.timers i).references.toNat =
    (Finset.univ.filter fun c => (s.channels c).configured = true ∧ (s.channels c).timer = i).card
  used : ∀ i, (s.timers i).used = true ↔ 0 < (s.timers i).references
  resolution : ∀ c, (s.channels c).configured = true →
    (s.channels c).resolutionBits = (s.timers (s.channels c).timer).resolutionBits
  pins : ∀ c d, (s.channels c).configured = true → (s.channels d).configured = true →
    (s.channels c).gpio = (s.channels d).gpio → c = d
  duty : ∀ c, (s.channels c).duty ≤ pwmDutyMaximum

/-- Every channel and every timer is back in the pool. -/
structure PwmState.Pooled (s : PwmState t) : Prop where
  channels : ∀ c, (s.channels c).configured = false
  timers : ∀ i, (s.timers i).used = false ∧ (s.timers i).references = 0

/-- Give the pins back, one after the other; the driver lets go of each. -/
def pwmDeinitAll (s : PwmState t) (gpios : List UInt32) : PwmState t :=
  gpios.foldl (fun s gpio => (bmxEmbeddedPwmDeinitPin s gpio espOk).2) s

/-- Nothing is left for a pin of this frequency: no channel, or no timer. -/
def PwmState.Exhausted (s : PwmState t) (frequency : UInt32) : Prop :=
  (∀ c, (s.channels c).configured = true) ∨
    ∀ i, (∃ c, (s.channels c).configured = true ∧ (s.channels c).timer = i) ∧
      (s.timers i).requestedFrequency ≠ frequency

/-! ### Lookup -/

section Lookup

variable {s : PwmState t} {gpio frequency : UInt32} {c : Fin t.channelMax} {i : Fin t.timerMax}

theorem channelForGpio_some (h : bmxEsp32PwmChannelForGpio s gpio = some c) :
    (s.channels c).configured = true ∧ (s.channels c).gpio = gpio := by
  have hfound := List.find?_some h
  rw [Bool.and_eq_true, beq_iff_eq] at hfound
  exact hfound

theorem channelForGpio_none (h : bmxEsp32PwmChannelForGpio s gpio = none) (c : Fin t.channelMax)
    (hc : (s.channels c).configured = true) : (s.channels c).gpio ≠ gpio := by
  intro hgpio
  have hnot := List.find?_eq_none.mp h c (List.mem_finRange c)
  rw [Bool.and_eq_true, beq_iff_eq] at hnot
  exact hnot ⟨hc, hgpio⟩

theorem freeChannel_some (h : bmxEsp32PwmFreeChannel s = some c) :
    (s.channels c).configured = false := by
  have hfound := List.find?_some h
  rw [Bool.not_eq_true'] at hfound
  exact hfound

theorem freeChannel_none_iff :
    bmxEsp32PwmFreeChannel s = none ↔ ∀ c, (s.channels c).configured = true := by
  unfold bmxEsp32PwmFreeChannel
  rw [List.find?_eq_none]
  constructor
  · intro h c
    have hc := h c (List.mem_finRange c)
    rwa [Bool.not_eq_true', Bool.not_eq_false] at hc
  · intro h c _
    rw [h c]
    decide

theorem timerForFrequency_none_iff : bmxEsp32PwmTimerForFrequency s frequency = none ↔
    ∀ i, (s.timers i).used = true ∧ (s.timers i).requestedFrequency ≠ frequency := by
  unfold bmxEsp32PwmTimerForFrequency
  rw [Option.or_eq_none_iff, List.find?_eq_none, List.find?_eq_none]
  constructor
  · rintro ⟨hother, hused⟩ i
    have hi : (s.timers i).used = true := by
      have hi := hused i (List.mem_finRange i)
      rwa [Bool.not_eq_true', Bool.not_eq_false] at hi
    refine ⟨hi, ?_⟩
    intro hfrequency
    have hnot := hother i (List.mem_finRange i)
    rw [Bool.and_eq_true, beq_iff_eq] at hnot
    exact hnot ⟨hi, hfrequency⟩
  · intro h
    refine ⟨?_, ?_⟩
    · intro i _ hfound
      rw [Bool.and_eq_true, beq_iff_eq] at hfound
      exact (h i).2 hfound.2
    · intro i _
      rw [(h i).1]
      decide

end Lookup

/-! ### Channels as holders of timers -/

/-- The timer that a channel holds. -/
def PwmChannel.held (channel : PwmChannel t) : Option (Fin t.timerMax) :=
  if channel.configured then some channel.timer else none

/-- The reference count as a number. -/
def PwmTimer.count (x : PwmTimer) : ℕ := x.references.toNat

theorem held_eq_some_iff {channel : PwmChannel t} {i : Fin t.timerMax} :
    channel.held = some i ↔ channel.configured = true ∧ channel.timer = i := by
  unfold PwmChannel.held
  cases channel.configured <;> simp

theorem held_eq_none_iff {channel : PwmChannel t} :
    channel.held = none ↔ channel.configured = false := by
  unfold PwmChannel.held
  cases channel.configured <;> simp

namespace PwmState

variable {s s' : PwmState t} {c : Fin t.channelMax} {i : Fin t.timerMax} {channel : PwmChannel t}
  {x : PwmTimer} {gpio : UInt32}

theorem holders_held (s : PwmState t) (i : Fin t.timerMax) :
    holders (fun c => (s.channels c).held) i =
      Finset.univ.filter fun c => (s.channels c).configured = true ∧ (s.channels c).timer = i := by
  ext c
  rw [mem_holders, held_eq_some_iff, Finset.mem_filter]
  exact ⟨fun h => ⟨Finset.mem_univ c, h⟩, fun h => h.2⟩

theorem Allocated.count (h : s.Allocated) :
    Counted (fun c => (s.channels c).held) fun i => (s.timers i).count := by
  intro i
  rw [holders_held]
  exact h.counted i

theorem count_pos_iff : 0 < x.count ↔ 0 < x.references := by
  rw [UInt8.lt_iff_toNat_lt]
  rfl

/-- A timer is used if and only if a configured channel names it. -/
theorem Allocated.used_iff (h : s.Allocated) (i : Fin t.timerMax) : (s.timers i).used = true ↔
    ∃ c, (s.channels c).configured = true ∧ (s.channels c).timer = i := by
  rw [h.used i, ← count_pos_iff, h.count.pos_iff]
  simp only [held_eq_some_iff]

theorem held_update (s : PwmState t) (c : Fin t.channelMax) (channel : PwmChannel t) :
    (fun d => (Function.update s.channels c channel d).held) =
      Function.update (fun d => (s.channels d).held) c channel.held :=
  Function.comp_update PwmChannel.held s.channels c channel

theorem count_update (s : PwmState t) (i : Fin t.timerMax) (x : PwmTimer) :
    (fun k => (Function.update s.timers i x k).count) =
      Function.update (fun k => (s.timers k).count) i x.count :=
  Function.comp_update PwmTimer.count s.timers i x

/-- How the counts follow when one channel and one timer change: the channel keeps what it
holds, takes the timer, or gives it back. -/
inductive Moves (s : PwmState t) (c : Fin t.channelMax) (channel : PwmChannel t)
    (i : Fin t.timerMax) (x : PwmTimer) : Prop
  | keep : channel.held = (s.channels c).held → x.count = (s.timers i).count → Moves s c channel i x
  | take : (s.channels c).held = none → channel.held = some i →
      x.count = (s.timers i).count + 1 → Moves s c channel i x
  | give : (s.channels c).held = some i → channel.held = none →
      x.count = (s.timers i).count - 1 → Moves s c channel i x

theorem Allocated.moves (h : s.Allocated) (hmoves : s.Moves c channel i x) :
    Counted (fun d => (Function.update s.channels c channel d).held)
      fun k => (Function.update s.timers i x k).count := by
  rw [held_update, count_update]
  cases hmoves with
  | keep hheld hcount =>
    rw [hheld, hcount]
    rw [Function.update_eq_self c fun d => (s.channels d).held,
      Function.update_eq_self i fun k => (s.timers k).count]
    exact h.count
  | take hold hnew hcount =>
    rw [hnew, hcount]
    exact h.count.acquire hold i
  | give hold hnew hcount =>
    rw [hnew, hcount]
    exact h.count.release hold

/-- **One channel and one timer change.**  What has to be said of them for the tables to stay
allocated: how the count moves, that the flag of the timer follows it, that the channel has the
resolution of its timer and a pin of its own, and that no other channel sees a new resolution. -/
theorem Allocated.change (h : s.Allocated)
    (hchannels : s'.channels = Function.update s.channels c channel)
    (htimers : s'.timers = Function.update s.timers i x) (hmoves : s.Moves c channel i x)
    (hused : x.used = true ↔ 0 < x.references)
    (hresolution : channel.configured = true →
      channel.resolutionBits = (s'.timers channel.timer).resolutionBits)
    (hpin : channel.configured = true → ∀ d, d ≠ c → (s.channels d).configured = true →
      (s.channels d).gpio ≠ channel.gpio)
    (hothers : x.resolutionBits = (s.timers i).resolutionBits ∨
      ∀ d, d ≠ c → (s.channels d).configured = true → (s.channels d).timer ≠ i)
    (hduty : channel.duty ≤ pwmDutyMaximum) : s'.Allocated := by
  have hself : s'.channels c = channel := by
    rw [hchannels, Function.update_self]
  have hother : ∀ d, d ≠ c → s'.channels d = s.channels d := by
    intro d hd
    rw [hchannels, Function.update_of_ne hd]
  refine ⟨?_, ?_, ?_, ?_, ?_⟩
  · intro k
    rw [← holders_held, hchannels, htimers]
    exact h.moves hmoves k
  -- the flags: only that of the timer that changes is new
  · intro k
    rw [htimers]
    by_cases hk : k = i
    · rw [hk, Function.update_self]
      exact hused
    · rw [Function.update_of_ne hk]
      exact h.used k
  -- the resolutions: another channel of the timer would see the new one
  · intro d hd
    by_cases hdc : d = c
    · rw [hdc, hself] at hd ⊢
      exact hresolution hd
    · rw [hother d hdc] at hd ⊢
      rw [h.resolution d hd, htimers]
      by_cases htimer : (s.channels d).timer = i
      · rw [htimer, Function.update_self]
        exact (hothers.resolve_right fun hnone => hnone d hdc hd htimer).symm
      · rw [Function.update_of_ne htimer]
  -- the pins: two old channels, or an old one and the new
  · intro d e hd he hgpio
    by_cases hdc : d = c <;> by_cases hec : e = c
    · rw [hdc, hec]
    · rw [hdc, hself] at hd hgpio
      rw [hother e hec] at he hgpio
      exact absurd hgpio.symm (hpin hd e hec he)
    · rw [hec, hself] at he hgpio
      rw [hother d hdc] at hd hgpio
      exact absurd hgpio (hpin he d hdc hd)
    · rw [hother d hdc] at hd hgpio
      rw [hother e hec] at he hgpio
      exact h.pins d e hd he hgpio
  · intro d
    by_cases hdc : d = c
    · rw [hdc, hself]
      exact hduty
    · rw [hother d hdc]
      exact h.duty d

/-- Driver calls leave the tables alone. -/
theorem Allocated.withCalls (h : s.Allocated) (calls : List (LedcCall t)) :
    { s with calls }.Allocated :=
  ⟨h.counted, h.used, h.resolution, h.pins, h.duty⟩

/-- A channel that changes in its duty, its polarity or its state only. -/
theorem Allocated.quiet (h : s.Allocated) {f : PwmChannel t → PwmChannel t}
    (hf : (f (s.channels c)).configured = (s.channels c).configured ∧
      (f (s.channels c)).timer = (s.channels c).timer ∧
      (f (s.channels c)).resolutionBits = (s.channels c).resolutionBits ∧
      (f (s.channels c)).gpio = (s.channels c).gpio)
    (hduty : (f (s.channels c)).duty ≤ pwmDutyMaximum) : (s.setChannel c f).Allocated := by
  obtain ⟨hconfigured, htimer, hbits, hgpio⟩ := hf
  apply h.change (c := c) (i := (s.channels c).timer) (x := s.timers (s.channels c).timer) rfl
  · exact (Function.update_eq_self _ _).symm
  · refine .keep ?_ rfl
    unfold PwmChannel.held
    rw [hconfigured, htimer]
  · exact h.used _
  · intro hc
    rw [hbits, htimer]
    exact h.resolution c (hconfigured ▸ hc)
  · intro hc d hd hconfigured' heq
    exact hd (h.pins d c hconfigured' (hconfigured ▸ hc) (heq.trans hgpio))
  · exact Or.inl rfl
  · exact hduty

/-! ### The driver calls -/

/-- `s'` has the tables of `s`, after at least one more driver call. -/
structure Asked (s s' : PwmState t) : Prop where
  channels : s'.channels = s.channels
  timers : s'.timers = s.timers
  calls : s.calls.length < s'.calls.length

theorem asked_issue (s : PwmState t) (call : LedcCall t) : s.Asked (s.issue call) := by
  refine ⟨rfl, rfl, ?_⟩
  show _ < (s.calls ++ [call]).length
  rw [List.length_append]
  exact Nat.lt_succ_self _

theorem Asked.trans {s'' : PwmState t} (h : s.Asked s') (h' : s'.Asked s'') : s.Asked s'' :=
  ⟨h'.channels.trans h.channels, h'.timers.trans h.timers, h.calls.trans h'.calls⟩

theorem Asked.allocated (h : s.Asked s') (hs : s.Allocated) : s'.Allocated := by
  obtain ⟨channels, timers, calls⟩ := s'
  obtain rfl := h.channels
  obtain rfl := h.timers
  exact hs.withCalls calls

theorem asked_applyDuty (s : PwmState t) (c : Fin t.channelMax) (r : PwmDutyResults) :
    s.Asked (bmxEsp32PwmApplyDuty s c r).2 := by
  unfold bmxEsp32PwmApplyDuty
  dsimp only
  split
  · exact asked_issue s _
  · exact (asked_issue s _).trans (asked_issue _ _)

/-- A timer as `configure_timer` leaves it. -/
def configuredTimer (x : PwmTimer) (frequency : UInt32) (r : PwmTimerResults) : PwmTimer :=
  { x with
    used := true, resolutionBits := r.resolution.toUInt8, requestedFrequency := frequency
    achievedFrequency := r.achieved }

/-- `configure_timer` fails and leaves the tables alone, or writes its timer. -/
theorem configureTimer_cases (s : PwmState t) (i : Fin t.timerMax) (frequency : UInt32)
    (r : PwmTimerResults) : ∃ s', s.Asked s' ∧
      (bmxEsp32PwmConfigureTimer s i frequency r = (0, s') ∨
        r.achieved ≠ 0 ∧ bmxEsp32PwmConfigureTimer s i frequency r =
          (r.achieved, s'.setTimer i fun x => configuredTimer x frequency r)) := by
  have hfind := asked_issue s (.findSuitableDutyResolution frequency)
  have hconfig := hfind.trans (asked_issue _ (.timerConfig i r.resolution frequency))
  have hfreq := hconfig.trans (asked_issue _ (.getFreq i))
  by_cases hresolution : r.resolution = 0
  · refine ⟨_, hfind, Or.inl ?_⟩
    simp only [bmxEsp32PwmConfigureTimer, hresolution, if_true]
  by_cases herror : r.config = espOk
  · refine ⟨_, hfreq, ?_⟩
    simp only [bmxEsp32PwmConfigureTimer, hresolution, if_false, herror, ne_eq,
      not_true_eq_false]
    by_cases hachieved : r.achieved = 0
    · exact Or.inl (if_pos hachieved)
    · exact Or.inr ⟨hachieved, if_neg hachieved⟩
  · refine ⟨_, hconfig, Or.inl ?_⟩
    simp only [bmxEsp32PwmConfigureTimer, hresolution, if_false, herror, ne_eq,
      not_false_eq_true, if_true]

/-! ### The setters keep the tables -/

theorem Allocated.setPinDuty (h : s.Allocated) (gpio duty : UInt32) (r : PwmDutyResults) :
    (bmxEmbeddedPwmSetPinDuty s gpio duty r).2.Allocated := by
  unfold bmxEmbeddedPwmSetPinDuty
  split
  · exact h
  next c hlookup =>
  split
  · exact h
  next hmax =>
  have hstored : (s.setChannel c fun channel => { channel with duty }).Allocated :=
    h.quiet ⟨rfl, rfl, rfl, rfl⟩ (UInt32.not_lt.mp hmax)
  dsimp only
  split
  · exact hstored
  · have happlied := (asked_applyDuty _ c r).allocated hstored
    split
    · exact happlied
    · have hrestored := happlied.quiet (c := c)
        (f := fun channel => { channel with duty := (s.channels c).duty }) ⟨rfl, rfl, rfl, rfl⟩
        (h.duty c)
      exact hrestored

theorem Allocated.setPinPolarity (h : s.Allocated) (gpio : UInt32) (inverted : Int32)
    (r : PwmPolarityResults) : (bmxEmbeddedPwmSetPinPolarity s gpio inverted r).2.Allocated := by
  unfold bmxEmbeddedPwmSetPinPolarity
  split
  · exact h
  next c hlookup =>
  have hreleased := ((asked_issue s (.stop c (if (s.channels c).inverted then 1 else 0))).trans
    (asked_issue _ (.deconfigure c))).allocated h
  dsimp only [bmxEsp32PwmReleaseChannel, bmxEsp32PwmApplyChannel]
  split
  · exact hreleased
  · have hstored := hreleased.quiet (c := c)
      (f := fun channel => { channel with inverted := inverted != 0 }) ⟨rfl, rfl, rfl, rfl⟩
      (h.duty c)
    split
    · exact (asked_issue _ _).allocated hstored
    · apply (asked_issue _ _).allocated
      exact ((asked_issue _ _).allocated hstored).quiet ⟨rfl, rfl, rfl, rfl⟩
        (((asked_issue _ _).allocated hstored).duty c)

theorem Allocated.setPinEnabled (h : s.Allocated) (gpio : UInt32) (enabled : Int32)
    (r : PwmEnabledResults) : (bmxEmbeddedPwmSetPinEnabled s gpio enabled r).2.Allocated := by
  unfold bmxEmbeddedPwmSetPinEnabled
  split
  · exact h
  next c hlookup =>
  have hstored : (s.setChannel c fun channel =>
      { channel with enabled := enabled != 0 }).Allocated :=
    h.quiet ⟨rfl, rfl, rfl, rfl⟩ (h.duty c)
  have hrestored : ∀ s' : PwmState t, s'.Allocated →
      (s'.setChannel c fun channel =>
        { channel with enabled := (s.channels c).enabled }).Allocated :=
    fun s' h' => h'.quiet ⟨rfl, rfl, rfl, rfl⟩ (h'.duty c)
  dsimp only
  split
  next =>
    have happlied := (asked_applyDuty _ c r.duty).allocated hstored
    split
    · exact happlied
    · exact hrestored _ happlied
  next =>
    by_cases hstop : r.stop = espOk
    · simp only [hstop, decide_true, if_true]
      exact (asked_issue _ _).allocated hstored
    · simp only [hstop, decide_false, Bool.false_eq_true, if_false]
      exact hrestored _ ((asked_issue _ _).allocated hstored)

/-- A timer with one reference changes its frequency together with its channel. -/
theorem Allocated.retime (h : s.Allocated) (hc : (s.channels c).configured = true)
    (hi : (s.channels c).timer = i) (hsole : ¬ 1 < (s.timers i).references)
    (frequency : UInt32) (r : PwmTimerResults) :
    ((s.setTimer i fun x => configuredTimer x frequency r).setChannel c fun channel =>
      { channel with resolutionBits := r.resolution.toUInt8 }).Allocated := by
  have hheld : (s.channels c).held = some i := held_eq_some_iff.mpr ⟨hc, hi⟩
  have hcount : (s.timers i).count ≤ 1 := by
    rw [UInt8.not_lt, UInt8.le_iff_toNat_le] at hsole
    exact hsole
  refine h.change (c := c) (i := i) (x := configuredTimer (s.timers i) frequency r) rfl rfl
    ?_ ?_ ?_ ?_ ?_ ?_
  · exact .keep rfl rfl
  -- the timer is in use, by the channel itself
  · refine ⟨fun _ => ?_, fun _ => rfl⟩
    show 0 < (s.timers i).references
    rw [← count_pos_iff, h.count.pos_iff]
    exact ⟨c, hheld⟩
  · intro _
    show _ = (Function.update s.timers i _ (s.channels c).timer).resolutionBits
    rw [hi, Function.update_self]
    rfl
  · intro _ d hd hconfigured hgpio
    exact hd (h.pins d c hconfigured hc hgpio)
  · right
    intro d hd hconfigured htimer
    exact hd (h.count.sole hcount (held_eq_some_iff.mpr ⟨hconfigured, htimer⟩) hheld)
  · exact h.duty c

theorem Allocated.setPinFrequency (h : s.Allocated) (gpio frequency : UInt32)
    (r : PwmFrequencyResults) : (bmxEmbeddedPwmSetPinFrequency s gpio frequency r).2.Allocated := by
  unfold bmxEmbeddedPwmSetPinFrequency
  split
  · exact h
  next c hlookup =>
  dsimp only
  split
  · exact h
  split
  · exact h
  split
  · exact h
  next hsole =>
  -- the timer is the pin's alone, so no other channel sees the change
  obtain ⟨s', hasked, hfailed | ⟨hachieved, hdone⟩⟩ :=
    configureTimer_cases s (s.channels c).timer frequency r.timer
  · rw [hfailed]
    exact hasked.allocated h
  · rw [hdone]
    have hretimed : ((s'.setTimer (s.channels c).timer fun x =>
        configuredTimer x frequency r.timer).setChannel c fun channel =>
          { channel with resolutionBits := r.timer.resolution.toUInt8 }).Allocated := by
      apply (hasked.allocated h).retime
      · rw [hasked.channels]
        exact (channelForGpio_some hlookup).1
      · rw [hasked.channels]
      · rw [hasked.timers]
        exact hsole
    have hbits : ((s'.setTimer (s.channels c).timer fun x =>
        configuredTimer x frequency r.timer).timers (s.channels c).timer).resolutionBits =
          r.timer.resolution.toUInt8 := by
      show (Function.update s'.timers _ _ _).resolutionBits = _
      rw [Function.update_self]
      rfl
    simp only [hachieved, if_false, hbits]
    split
    · exact hretimed
    · exact (asked_applyDuty _ c r.duty).allocated hretimed

/-! ### Taking a pin and giving it back -/

theorem Allocated.initExisting (h : s.Allocated) (gpio frequency duty : UInt32) (inverted : Int32)
    (r : PwmInitResults) : (pwmInitExisting s gpio frequency duty inverted r).2.Allocated := by
  have hfrequency := h.setPinFrequency gpio frequency r.frequency
  have hpolarity := hfrequency.setPinPolarity gpio inverted r.polarity
  have hduty := hpolarity.setPinDuty gpio duty r.duty
  have henabled := hduty.setPinEnabled gpio 1 r.enabled
  unfold pwmInitExisting
  dsimp only
  split
  · exact hfrequency
  split
  · exact hpolarity
  split
  · exact hduty
  split
  · exact henabled
  · exact henabled

/-- What a timer has to be for a new channel to take it: in use, with the count it had, and its
resolution changed only if nobody used it before. -/
structure Ready (s : PwmState t) (i : Fin t.timerMax) (x : PwmTimer) : Prop where
  used : x.used = true
  references : x.references = (s.timers i).references
  resolution : x.resolutionBits = (s.timers i).resolutionBits ∨ (s.timers i).used = false

theorem Ready.others (hready : s.Ready i x) (h : s.Allocated) :
    x.resolutionBits = (s.timers i).resolutionBits ∨
      ∀ d, d ≠ c → (s.channels d).configured = true → (s.channels d).timer ≠ i := by
  rcases hready.resolution with hbits | hunused
  · exact Or.inl hbits
  · right
    intro d _ hd htimer
    rw [(h.used_iff i).mpr ⟨d, hd, htimer⟩] at hunused
    cases hunused

/-- A channel that is taken: the count of its timer goes up by one, and does not wrap. -/
theorem Allocated.take (h : s.Allocated) (hfree : (s.channels c).configured = false)
    (hready : s.Ready i x) (hconfigured : channel.configured = true)
    (htimer : channel.timer = i) (hbits : channel.resolutionBits = x.resolutionBits)
    (hpin : ∀ d, (s.channels d).configured = true → (s.channels d).gpio ≠ channel.gpio)
    (hduty : channel.duty ≤ pwmDutyMaximum) (calls : List (LedcCall t)) :
    Allocated ⟨Function.update s.channels c channel,
      Function.update s.timers i { x with references := x.references + 1 }, calls⟩ := by
  have hnone : (s.channels c).held = none := held_eq_none_iff.mpr hfree
  have hcount : (x.references + 1).toNat = (s.timers i).count + 1 := by
    have hlt := h.count.lt_card hnone i
    rw [Fintype.card_fin] at hlt
    have hmax := t.channelMax_le
    rw [UInt8.toNat_add, hready.references]
    -- the free channel keeps the count below the 255 channels
    show ((s.timers i).count + 1) % 256 = _
    omega
  refine h.change (c := c) (i := i) (x := { x with references := x.references + 1 }) rfl rfl
    ?_ ?_ ?_ ?_ ?_ ?_
  · exact .take hnone (held_eq_some_iff.mpr ⟨hconfigured, htimer⟩) hcount
  · refine ⟨fun _ => ?_, fun _ => hready.used⟩
    rw [UInt8.lt_iff_toNat_lt]
    show 0 < (x.references + 1).toNat
    omega
  · intro _
    show _ = (Function.update s.timers i _ channel.timer).resolutionBits
    rw [htimer, Function.update_self]
    exact hbits
  · exact fun _ d _ hd => hpin d hd
  · exact hready.others h
  · exact hduty

/-- A channel that could not be set up is free again, and so is its timer if nobody else uses it. -/
theorem Allocated.giveUp (h : s.Allocated) (hfree : (s.channels c).configured = false)
    (hready : s.Ready i x) (hconfigured : channel.configured = false)
    (hduty : channel.duty ≤ pwmDutyMaximum) (calls : List (LedcCall t)) :
    Allocated ⟨Function.update s.channels c channel,
      Function.update s.timers i (if x.references = 0 then { x with used := false } else x),
      calls⟩ := by
  refine h.change (c := c) (i := i)
    (x := if x.references = 0 then { x with used := false } else x) rfl rfl ?_ ?_ ?_ ?_ ?_ ?_
  · refine .keep ?_ ?_
    · rw [held_eq_none_iff.mpr hconfigured, held_eq_none_iff.mpr hfree]
    · show (if _ then _ else _ : PwmTimer).references.toNat = _
      split <;> exact congrArg UInt8.toNat hready.references
  · split
    next hzero =>
      refine ⟨(fun hfalse => nomatch hfalse), fun hpos => ?_⟩
      rw [UInt8.lt_iff_toNat_lt] at hpos
      have hpos' : (0 : UInt8).toNat < x.references.toNat := hpos
      rw [hzero] at hpos'
      exact absurd hpos' (lt_irrefl _)
    next hnonzero => exact ⟨fun _ => UInt8.pos_iff_ne_zero.mpr hnonzero, fun _ => hready.used⟩
  · exact fun hc => absurd (hconfigured.symm.trans hc) (by decide)
  · exact fun hc => absurd (hconfigured.symm.trans hc) (by decide)
  · have hbits : (if x.references = 0 then { x with used := false } else x).resolutionBits =
        x.resolutionBits := by
      split <;> rfl
    rw [hbits]
    exact hready.others h
  · exact hduty

theorem Allocated.takeChannel (h : s.Allocated) (hfree : (s.channels c).configured = false)
    (hready : s.Ready i x) (hchannels : s'.channels = s.channels)
    (htimers : s'.timers = Function.update s.timers i x) {gpio duty : UInt32}
    (hpin : ∀ d, (s.channels d).configured = true → (s.channels d).gpio ≠ gpio)
    (hduty : duty ≤ pwmDutyMaximum) (inverted : Int32) (apply : EspErr) :
    (pwmTakeChannel s' c i gpio duty inverted apply).2.Allocated := by
  obtain ⟨channels, timers, calls⟩ := s'
  obtain rfl := hchannels
  obtain rfl := htimers
  by_cases happly : apply = espOk
  · simp only [pwmTakeChannel, bmxEsp32PwmApplyChannel, happly, decide_true, Bool.true_eq_false,
      if_false, setChannel, setTimer, issue, Function.update_self, Function.update_idem]
    exact h.take hfree hready rfl rfl rfl hpin hduty _
  · simp only [pwmTakeChannel, bmxEsp32PwmApplyChannel, happly, decide_false, if_true,
      setChannel, setTimer, issue, Function.update_self, Function.update_idem]
    have hgiven : ∀ calls, Allocated ⟨Function.update s.channels c
        ⟨false, true, inverted != 0, i, x.resolutionBits, gpio, duty⟩, _, calls⟩ :=
      h.giveUp hfree hready rfl hduty
    split
    next hzero =>
      rw [if_pos hzero] at hgiven
      exact hgiven _
    next hnonzero =>
      rw [if_neg hnonzero] at hgiven
      exact hgiven _

theorem Allocated.initFresh (h : s.Allocated) {gpio frequency duty : UInt32}
    (hpin : bmxEsp32PwmChannelForGpio s gpio = none) (hduty : duty ≤ pwmDutyMaximum)
    (inverted : Int32) (r : PwmInitResults) :
    (pwmInitFresh s gpio frequency duty inverted r).2.Allocated := by
  unfold pwmInitFresh
  split
  next c i hchannel htimer =>
    have hfree := freeChannel_some hchannel
    split
    next hused =>
      exact h.takeChannel hfree ⟨hused, rfl, Or.inl rfl⟩ rfl (Function.update_eq_self _ _).symm
        (channelForGpio_none hpin) hduty inverted r.apply
    next hunused =>
      obtain ⟨s', hasked, hfailed | ⟨hachieved, hdone⟩⟩ := configureTimer_cases s i frequency r.timer
      · rw [hfailed]
        exact hasked.allocated h
      · rw [hdone]
        simp only [hachieved, if_false]
        apply h.takeChannel hfree (x := configuredTimer (s.timers i) frequency r.timer)
        · exact ⟨rfl, rfl, Or.inr (Bool.eq_false_iff.mpr hunused)⟩
        · exact hasked.channels
        · show Function.update s'.timers i _ = _
          rw [hasked.timers]
        · exact channelForGpio_none hpin
        · exact hduty
  next => exact h

theorem Allocated.initPin (h : s.Allocated) (gpio frequency duty : UInt32) (inverted : Int32)
    (r : PwmInitResults) : (bmxEmbeddedPwmInitPin s gpio frequency duty inverted r).2.Allocated := by
  unfold bmxEmbeddedPwmInitPin
  split
  · exact h
  next hguard =>
  simp only [not_or] at hguard
  split
  · exact h.initExisting gpio frequency duty inverted r
  next hpin => exact h.initFresh hpin (UInt32.not_lt.mp hguard.2.2) inverted r

/-- A timer as `deinit_pin` leaves it. -/
def givenBack (x : PwmTimer) : PwmTimer :=
  let references := if x.references = 0 then 0 else x.references - 1
  { x with references, used := if references = 0 then false else x.used }

theorem count_givenBack (x : PwmTimer) : (givenBack x).count = x.count - 1 := by
  show (if x.references = 0 then 0 else x.references - 1 : UInt8).toNat = x.references.toNat - 1
  split
  next hzero =>
    rw [hzero]
    rfl
  next hnonzero =>
    have hone : (1 : UInt8) ≤ x.references := by
      rw [UInt8.le_iff_toNat_le]
      show 1 ≤ x.references.toNat
      have hpos := UInt8.lt_iff_toNat_lt.mp (UInt8.pos_iff_ne_zero.mpr hnonzero)
      exact hpos
    exact UInt8.toNat_sub_of_le _ _ hone

/-- A pin that is given back, once the driver has let go of it. -/
theorem deinitPin_released (h : bmxEsp32PwmChannelForGpio s gpio = some c) :
    ∃ calls, bmxEmbeddedPwmDeinitPin s gpio espOk =
      (1, ⟨Function.update s.channels c { s.channels c with configured := false },
        Function.update s.timers (s.channels c).timer
          (givenBack (s.timers (s.channels c).timer)), calls⟩) := by
  refine ⟨s.calls ++ [.stop c (if (s.channels c).inverted then 1 else 0)] ++ [.deconfigure c] ++
    [.gpioResetPin gpio], ?_⟩
  simp only [bmxEmbeddedPwmDeinitPin, h, bmxEsp32PwmReleaseChannel, decide_true,
    Bool.true_eq_false, if_false, setChannel, setTimer, issue, Function.update_self,
    Function.update_idem]
  rfl

theorem Allocated.give (h : s.Allocated) (hc : (s.channels c).configured = true)
    (hi : (s.channels c).timer = i) (calls : List (LedcCall t)) :
    Allocated ⟨Function.update s.channels c { s.channels c with configured := false },
      Function.update s.timers i (givenBack (s.timers i)), calls⟩ := by
  have hheld : (s.channels c).held = some i := held_eq_some_iff.mpr ⟨hc, hi⟩
  have hused : (s.timers i).used = true := (h.used_iff i).mpr ⟨c, hc, hi⟩
  refine h.change (c := c) (i := i) (x := givenBack (s.timers i)) rfl rfl ?_ ?_ ?_ ?_ ?_ ?_
  · exact .give hheld (held_eq_none_iff.mpr rfl) (count_givenBack _)
  · rw [UInt8.pos_iff_ne_zero]
    show (if (givenBack (s.timers i)).references = 0 then false else (s.timers i).used) = true ↔ _
    split
    next hzero => exact ⟨(fun hfalse => nomatch hfalse), fun hne => absurd hzero hne⟩
    next hnonzero => exact ⟨fun _ => hnonzero, fun _ => hused⟩
  · exact fun hfalse => nomatch hfalse
  · exact fun hfalse => nomatch hfalse
  · exact Or.inl rfl
  · exact h.duty c

theorem Allocated.deinitPin (h : s.Allocated) (gpio : UInt32) (release : EspErr) :
    (bmxEmbeddedPwmDeinitPin s gpio release).2.Allocated := by
  cases hlookup : bmxEsp32PwmChannelForGpio s gpio with
  | none =>
    simp only [bmxEmbeddedPwmDeinitPin, hlookup]
    exact h
  | some c =>
    by_cases hrelease : release = espOk
    · obtain ⟨calls, hdone⟩ := deinitPin_released hlookup
      rw [hrelease, hdone]
      exact h.give (channelForGpio_some hlookup).1 rfl calls
    · simp only [bmxEmbeddedPwmDeinitPin, hlookup, bmxEsp32PwmReleaseChannel, hrelease,
        decide_false, if_true]
      exact ((asked_issue s _).trans (asked_issue _ _)).allocated h

theorem Allocated.call (h : s.Allocated) (a : PwmCall) : (pwmCall s a).Allocated := by
  cases a with
  | initPin gpio frequency duty inverted r => exact h.initPin gpio frequency duty inverted r
  | deinitPin gpio release => exact h.deinitPin gpio release
  | setPinFrequency gpio frequency r => exact h.setPinFrequency gpio frequency r
  | setPinDuty gpio duty r => exact h.setPinDuty gpio duty r
  | setPinPolarity gpio inverted r => exact h.setPinPolarity gpio inverted r
  | setPinEnabled gpio enabled r => exact h.setPinEnabled gpio enabled r

theorem allocated_reset (t : PwmTarget) : (pwmReset t).Allocated := by
  refine ⟨?_, ?_, ?_, ?_, ?_⟩
  · intro i
    show 0 = _
    rw [eq_comm, Finset.card_eq_zero, Finset.filter_eq_empty_iff]
    exact fun _ _ hfalse => nomatch hfalse.1
  · intro _
    exact ⟨(fun hfalse => nomatch hfalse), fun hfalse => absurd hfalse (UInt8.lt_irrefl 0)⟩
  · exact fun _ hfalse => nomatch hfalse
  · exact fun _ _ hfalse => nomatch hfalse
  · intro _
    show (0 : UInt32) ≤ pwmDutyMaximum
    decide

/-! ### Giving all pins back -/

/-- Whoever is still configured was configured before, with another pin. -/
theorem Allocated.deinitPin_rest (h : s.Allocated) (gpio : UInt32)
    (hc : ((bmxEmbeddedPwmDeinitPin s gpio espOk).2.channels c).configured = true) :
    (bmxEmbeddedPwmDeinitPin s gpio espOk).2.channels c = s.channels c ∧
      (s.channels c).gpio ≠ gpio := by
  cases hlookup : bmxEsp32PwmChannelForGpio s gpio with
  | none =>
    have hrefused : bmxEmbeddedPwmDeinitPin s gpio espOk = (0, s) := by
      simp only [bmxEmbeddedPwmDeinitPin, hlookup]
    rw [hrefused] at hc ⊢
    exact ⟨rfl, channelForGpio_none hlookup c hc⟩
  | some d =>
    obtain ⟨calls, hdone⟩ := deinitPin_released hlookup
    rw [hdone] at hc ⊢
    dsimp only at hc ⊢
    -- the channel that is given back is no longer configured
    have hne : c ≠ d := by
      rintro rfl
      rw [Function.update_self] at hc
      cases hc
    rw [Function.update_of_ne hne] at hc ⊢
    refine ⟨rfl, ?_⟩
    intro hgpio
    obtain ⟨hd, hgpio'⟩ := channelForGpio_some hlookup
    exact hne (h.pins c d hc hd (hgpio.trans hgpio'.symm))

theorem Allocated.deinitAll (h : s.Allocated) (gpios : List UInt32)
    (hgpios : ∀ c, (s.channels c).configured = true → (s.channels c).gpio ∈ gpios) :
    (pwmDeinitAll s gpios).Pooled := by
  induction gpios generalizing s with
  | nil =>
    -- no pin is left, so every count is zero
    have hnone : ∀ c, (s.channels c).configured = false := by
      intro c
      rw [← Bool.not_eq_true]
      exact fun hc => nomatch hgpios c hc
    refine ⟨hnone, ?_⟩
    intro i
    have hcount := h.count.idle (fun c => held_eq_none_iff.mpr (hnone c)) i
    have hzero : (s.timers i).references = 0 := UInt8.toNat_inj.mp hcount
    refine ⟨?_, hzero⟩
    show (s.timers i).used = false
    rw [← Bool.not_eq_true, h.used i, hzero]
    exact UInt8.lt_irrefl 0
  | cons gpio gpios ih =>
    apply ih (h.deinitPin gpio espOk)
    -- whoever is still configured has one of the remaining pins
    intro c hc
    obtain ⟨hsame, hne⟩ := h.deinitPin_rest gpio hc
    rw [hsame] at hc ⊢
    exact (List.mem_cons.mp (hgpios c hc)).resolve_left hne

/-! ### Refusals -/

theorem takeChannel_calls (s : PwmState t) (c : Fin t.channelMax) (i : Fin t.timerMax)
    (gpio duty : UInt32) (inverted : Int32) (apply : EspErr) :
    s.calls.length < (pwmTakeChannel s c i gpio duty inverted apply).2.calls.length := by
  have hlength : ∀ call, s.calls.length < (s.calls ++ [call]).length := by
    intro call
    rw [List.length_append]
    exact Nat.lt_succ_self _
  unfold pwmTakeChannel
  dsimp only [bmxEsp32PwmApplyChannel]
  split
  · dsimp only
    split <;> exact hlength _
  · exact hlength _

/-- A fresh pin with a channel and a timer left for it: the driver is asked. -/
theorem initFresh_calls {frequency : UInt32} (hchannel : bmxEsp32PwmFreeChannel s ≠ none)
    (htimer : bmxEsp32PwmTimerForFrequency s frequency ≠ none) (gpio duty : UInt32)
    (inverted : Int32) (r : PwmInitResults) :
    s.calls.length < (pwmInitFresh s gpio frequency duty inverted r).2.calls.length := by
  unfold pwmInitFresh
  split
  next c i _ _ =>
    split
    · exact takeChannel_calls s c i gpio duty inverted r.apply
    · obtain ⟨s', hasked, hfailed | ⟨hachieved, hdone⟩⟩ := configureTimer_cases s i frequency r.timer
      · rw [hfailed]
        exact hasked.calls
      · rw [hdone]
        simp only [hachieved, if_false]
        have hset : s.calls.length < (s'.setTimer i fun x =>
            configuredTimer x frequency r.timer).calls.length := hasked.calls
        exact hset.trans (takeChannel_calls _ c i gpio duty inverted r.apply)
  next hnone =>
    obtain ⟨c, hc⟩ := Option.ne_none_iff_exists'.mp hchannel
    obtain ⟨i, hi⟩ := Option.ne_none_iff_exists'.mp htimer
    exact (hnone c i hc hi).elim

theorem Allocated.exhausted_iff (h : s.Allocated) (frequency : UInt32) : s.Exhausted frequency ↔
    bmxEsp32PwmFreeChannel s = none ∨ bmxEsp32PwmTimerForFrequency s frequency = none := by
  rw [freeChannel_none_iff, timerForFrequency_none_iff]
  simp only [Exhausted, h.used_iff]

/-- A fresh pin is refused without a driver call if and only if nothing is left for it. -/
theorem Allocated.refused_iff (h : s.Allocated) {gpio frequency duty : UInt32}
    (hvalid : bmxEmbeddedPwmIsValidPin t gpio = true) (hfrequency : frequency ≠ 0)
    (hduty : duty ≤ pwmDutyMaximum) (hpin : bmxEsp32PwmChannelForGpio s gpio = none)
    (inverted : Int32) (r : PwmInitResults) :
    bmxEmbeddedPwmInitPin s gpio frequency duty inverted r = (0, s) ↔ s.Exhausted frequency := by
  have hguard : ¬ (bmxEmbeddedPwmIsValidPin t gpio = false ∨ frequency = 0 ∨
      pwmDutyMaximum < duty) := by
    rintro (hinvalid | hzero | hmax)
    · exact absurd (hvalid.symm.trans hinvalid) (by decide)
    · exact hfrequency hzero
    · exact UInt32.not_lt.mpr hduty hmax
  have hfresh : bmxEmbeddedPwmInitPin s gpio frequency duty inverted r =
      pwmInitFresh s gpio frequency duty inverted r := by
    unfold bmxEmbeddedPwmInitPin
    rw [if_neg hguard, hpin]
  rw [hfresh, h.exhausted_iff]
  constructor
  -- with something left the driver is asked, and the list of calls grows
  · intro hrefused
    by_contra hleft
    rw [not_or] at hleft
    have hcalls := initFresh_calls hleft.1 hleft.2 gpio duty inverted r
    rw [hrefused] at hcalls
    exact lt_irrefl _ hcalls
  · rintro (hnone | hnone)
    · simp only [pwmInitFresh, hnone]
    · simp only [pwmInitFresh, hnone]
      cases bmxEsp32PwmFreeChannel s <;> rfl

/-- Between calls the tables are allocated, whatever calls have been made. -/
theorem allocated_reachable (h : (pwmMachine t).Reachable s) : s.Allocated := by
  apply h.invariant (I := PwmState.Allocated)
  · rintro s rfl
    exact allocated_reset t
  · intro s a s' hs _ hstep
    obtain rfl := Option.some.inj hstep
    exact hs.call a

end PwmState

/-- **The tables stay allocated**, whatever calls are made and however the driver answers.  Hence
giving back every configured pin returns all channels and timers to the pool, and a valid fresh
pin is refused without asking the driver exactly when every channel is configured, or every timer
has a channel and another frequency. -/
theorem pwm_allocation (t : PwmTarget) (s : PwmState t) (h : (pwmMachine t).Reachable s) :
    s.Allocated ∧
    (∀ gpios : List UInt32, (∀ c, (s.channels c).configured = true → (s.channels c).gpio ∈ gpios) →
      (pwmDeinitAll s gpios).Pooled) ∧
    ∀ (gpio frequency duty : UInt32) (inverted : Int32) (r : PwmInitResults),
      bmxEmbeddedPwmIsValidPin t gpio = true → frequency ≠ 0 → duty ≤ pwmDutyMaximum →
      bmxEsp32PwmChannelForGpio s gpio = none →
      (bmxEmbeddedPwmInitPin s gpio frequency duty inverted r = (0, s) ↔
        s.Exhausted frequency) := by
  have hs := PwmState.allocated_reachable h
  refine ⟨hs, hs.deinitAll, ?_⟩
  intro gpio frequency duty inverted r hvalid hfrequency hduty hpin
  exact hs.refused_iff hvalid hfrequency hduty hpin inverted r

/-- Two channels, and one timer for both. -/
def onePwmTimer : PwmTarget := ⟨2, 1, fun _ => true, by decide, by decide⟩

/-- Two pins of one frequency. -/
def twoPwmPins : PwmState onePwmTimer :=
  pwmCall (pwmCall (pwmReset onePwmTimer) (.initPin 4 1000 0 0 {})) (.initPin 5 1000 100 1 {})

theorem pwm_allocation_two_pins : twoPwmPins.Allocated ∧
    (pwmDeinitAll twoPwmPins [4, 5]).Pooled ∧
    bmxEmbeddedPwmInitPin twoPwmPins 6 1000 0 0 {} = (0, twoPwmPins) := by
  have hall := pwm_allocation onePwmTimer twoPwmPins (.step (.step (.init rfl) trivial rfl)
    trivial rfl)
  refine ⟨hall.1, hall.2.1 [4, 5] (by decide), ?_⟩
  exact (hall.2.2 6 1000 0 0 {} rfl (by decide) (by decide) rfl).mpr (Or.inl (by decide))

end Esp32Mod
