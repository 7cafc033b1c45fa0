/-
Esp32Mod/PwmIsolation.lean

What an operation on one pulse-width output leaves alone.  Pins share timers, so the pin of
another channel is safe only because a timer with two references is never configured again.

`Spares b k` is the frame of a channel `b` and a timer `k`: the channel is as it was, the timer
has changed in the count of its channels at most, and no driver call has concerned either.  It
composes, so each function of `Pwm` is followed call by call.

Main result:

* `pwm_isolation` — every operation spares every configured pin but its own.
-/
import Esp32Mod.Pwm

namespace Esp32Mod

open StepMachine Machine SharedPool

variable {t : PwmTarget}

/-! ### What is read of a pin -/

/-- 0 for a pin without a channel. -/
def bmxEmbeddedPwmGetPinDuty (s : PwmState t) (gpio : UInt32) : UInt32 :=
  match bmxEsp32PwmChannelForGpio s gpio with
  | none => 0
  | some c => (s.channels c).duty

/-- A pin without a channel is not inverted. -/
def bmxEmbeddedPwmGetPinPolarity (s : PwmState t) (gpio : UInt32) : Bool :=
  match bmxEsp32PwmChannelForGpio s gpio with
  | none => false
  | some c => (s.channels c).inverted

/-- A pin without a channel is not enabled. -/
def bmxEmbeddedPwmGetPinEnabled (s : PwmState t) (gpio : UInt32) : Bool :=
  match bmxEsp32PwmChannelForGpio s gpio with
  | none => false
  | some c => (s.channels c).enabled

/-- The pin that a call is about. -/
def PwmCall.gpio : PwmCall → UInt32
  | .initPin gpio _ _ _ _ | .deinitPin gpio _ | .setPinFrequency gpio _ _ | .setPinDuty gpio _ _
  | .setPinPolarity gpio _ _ | .setPinEnabled gpio _ _ => gpio

/-! ### What a driver call concerns -/

namespace LedcCall

/-- The channel that a call changes. -/
def channel : LedcCall t → Option (Fin t.channelMax)
  | .channelConfig c _ _ _ _ | .deconfigure c | .setDuty c _ | .updateDuty c | .stop c _ => some c
  | .findSuitableDutyResolution _ | .timerConfig _ _ _ | .getFreq _ | .gpioResetPin _ => none

/-- The timer that a call configures. -/
def configures : LedcCall t → Option (Fin t.timerMax)
  | .timerConfig i _ _ => some i
  | _ => none

/-- The call neither touches channel `b` nor configures timer `k`. -/
def Spares (b : Fin t.channelMax) (k : Fin t.timerMax) (call : LedcCall t) : Prop :=
  call.channel ≠ some b ∧ call.configures ≠ some k

variable {b c : Fin t.channelMax} {i k : Fin t.timerMax} {call : LedcCall t}

theorem spares_of_channel (call : LedcCall t) (hchannel : call.channel = some c) (hc : c ≠ b)
    (hconfigures : call.configures = none) : call.Spares b k := by
  rw [Spares, hchannel, hconfigures]
  exact ⟨fun h => hc (Option.some.inj h), nofun⟩

theorem spares_of_none (call : LedcCall t) (hchannel : call.channel = none)
    (hconfigures : call.configures = none) : call.Spares b k := by
  rw [Spares, hchannel, hconfigures]
  exact ⟨nofun, nofun⟩

theorem spares_timerConfig (hi : i ≠ k) (resolution frequency : UInt32) :
    (timerConfig i resolution frequency).Spares b k :=
  ⟨nofun, fun h => hi (Option.some.inj h)⟩

end LedcCall

namespace PwmState

/-- What a step leaves alone of channel `b` and timer `k`. -/
structure Spares (b : Fin t.channelMax) (k : Fin t.timerMax) (s s' : PwmState t) : Prop where
  channel : s'.channels b = s.channels b
  timer : ∃ references, s'.timers k = { s.timers k with references }
  calls : ∃ issued, s'.calls = s.calls ++ issued ∧ ∀ call ∈ issued, call.Spares b k

variable {b c : Fin t.channelMax} {i k : Fin t.timerMax} {s s' s'' : PwmState t}

theorem Spares.refl (s : PwmState t) : s.Spares b k s :=
  ⟨rfl, ⟨_, rfl⟩, [], (List.append_nil _).symm, nofun⟩

theorem Spares.trans (h : s.Spares b k s') (h' : s'.Spares b k s'') : s.Spares b k s'' := by
  refine ⟨h'.channel.trans h.channel, ?_, ?_⟩
  · obtain ⟨references, htimer⟩ := h.timer
    obtain ⟨references', htimer'⟩ := h'.timer
    exact ⟨references', by rw [htimer', htimer]⟩
  · obtain ⟨issued, hcalls, hspares⟩ := h.calls
    obtain ⟨issued', hcalls', hspares'⟩ := h'.calls
    refine ⟨issued ++ issued', ?_, ?_⟩
    · rw [hcalls', hcalls, List.append_assoc]
    · intro call hcall
      exact (List.mem_append.mp hcall).elim (hspares call) (hspares' call)

/-! ### The single changes -/

theorem spares_issue (s : PwmState t) {call : LedcCall t} (hcall : call.Spares b k) :
    s.Spares b k (s.issue call) := by
  refine ⟨rfl, ⟨_, rfl⟩, [call], rfl, ?_⟩
  intro call' hmem
  rw [List.mem_singleton.mp hmem]
  exact hcall

theorem spares_setChannel (s : PwmState t) (hc : c ≠ b) (f : PwmChannel t → PwmChannel t) :
    s.Spares b k (s.setChannel c f) :=
  ⟨Function.update_of_ne hc.symm _ _, ⟨_, rfl⟩, [], (List.append_nil _).symm, nofun⟩

theorem spares_setTimer (s : PwmState t) (hi : i ≠ k) (f : PwmTimer → PwmTimer) :
    s.Spares b k (s.setTimer i f) := by
  refine ⟨rfl, ⟨(s.timers k).references, ?_⟩, [], (List.append_nil _).symm, nofun⟩
  exact Function.update_of_ne hi.symm _ _

/-- The count of a timer may change, the timer that is spared included. -/
theorem spares_count (s : PwmState t) (i : Fin t.timerMax) (f : PwmTimer → PwmTimer)
    (hf : ∃ references, f (s.timers i) = { s.timers i with references }) :
    s.Spares b k (s.setTimer i f) := by
  by_cases hi : i = k
  · subst hi
    obtain ⟨references, hf⟩ := hf
    refine ⟨rfl, ⟨references, ?_⟩, [], (List.append_nil _).symm, nofun⟩
    show Function.update s.timers i _ i = _
    rw [Function.update_self, hf]
  · exact s.spares_setTimer hi f

/-! ### Driver access -/

theorem spares_configureTimer (s : PwmState t) (hi : i ≠ k) (frequency : UInt32)
    (r : PwmTimerResults) : s.Spares b k (bmxEsp32PwmConfigureTimer s i frequency r).2 := by
  have hfind := s.spares_issue (b := b) (k := k)
    (LedcCall.spares_of_none (.findSuitableDutyResolution frequency) rfl rfl)
  have hconfig := hfind.trans
    (spares_issue _ (LedcCall.spares_timerConfig (b := b) hi r.resolution frequency))
  have hfreq := hconfig.trans (spares_issue _ (LedcCall.spares_of_none (.getFreq i) rfl rfl))
  unfold bmxEsp32PwmConfigureTimer
  dsimp only
  split
  · exact hfind
  split
  · exact hconfig
  split
  · exact hfreq
  · exact hfreq.trans (spares_setTimer _ hi fun x => configuredTimer x frequency r)

theorem spares_applyChannel (s : PwmState t) (hc : c ≠ b) (apply : EspErr) :
    s.Spares b k (bmxEsp32PwmApplyChannel s c apply).2 :=
  s.spares_issue (LedcCall.spares_of_channel _ rfl hc rfl)

theorem spares_applyDuty (s : PwmState t) (hc : c ≠ b) (r : PwmDutyResults) :
    s.Spares b k (bmxEsp32PwmApplyDuty s c r).2 := by
  have hset := s.spares_issue (k := k) (LedcCall.spares_of_channel
    (.setDuty c (bmxEsp32PwmNativeDuty (s.channels c))) rfl hc rfl)
  unfold bmxEsp32PwmApplyDuty
  dsimp only
  split
  · exact hset
  · exact hset.trans (spares_issue _ (LedcCall.spares_of_channel _ rfl hc rfl))

theorem spares_releaseChannel (s : PwmState t) (hc : c ≠ b) (release : EspErr) :
    s.Spares b k (bmxEsp32PwmReleaseChannel s c release).2 :=
  s.spares_issue (LedcCall.spares_of_channel _ rfl hc rfl)

theorem spares_stop (s : PwmState t) (hc : c ≠ b) (idle : UInt32) :
    s.Spares b k (s.issue (.stop c idle)) :=
  s.spares_issue (LedcCall.spares_of_channel _ rfl hc rfl)

/-! ### The setters -/

section Setters

variable {gpio : UInt32}

/-- The channel of a pin is not that of another pin. -/
theorem channelForGpio_ne (h : bmxEsp32PwmChannelForGpio s gpio = some c)
    (hpin : (s.channels b).gpio ≠ gpio) : c ≠ b := by
  rintro rfl
  exact hpin (channelForGpio_some h).2

/-- **A timer with one reference is not the timer of another pin.** -/
theorem Allocated.timer_ne (h : s.Allocated) (hb : (s.channels b).configured = true)
    (hc : (s.channels c).configured = true) (hne : c ≠ b)
    (hsole : ¬ 1 < (s.timers (s.channels c).timer).references) :
    (s.channels c).timer ≠ (s.channels b).timer := by
  intro htimer
  have hcount : (s.timers (s.channels c).timer).count ≤ 1 := by
    rw [UInt8.not_lt, UInt8.le_iff_toNat_le] at hsole
    exact hsole
  exact hne (h.count.sole hcount (held_eq_some_iff.mpr ⟨hc, rfl⟩)
    (held_eq_some_iff.mpr ⟨hb, htimer.symm⟩))

theorem Allocated.spares_setPinFrequency (h : s.Allocated) (hb : (s.channels b).configured = true)
    (hpin : (s.channels b).gpio ≠ gpio) (frequency : UInt32) (r : PwmFrequencyResults) :
    s.Spares b (s.channels b).timer (bmxEmbeddedPwmSetPinFrequency s gpio frequency r).2 := by
  unfold bmxEmbeddedPwmSetPinFrequency
  split
  · exact .refl s
  next c hlookup =>
  have hne := channelForGpio_ne hlookup hpin
  dsimp only
  split
  · exact .refl s
  split
  · exact .refl s
  split
  · exact .refl s
  next hsole =>
  have htimer := h.timer_ne hb (channelForGpio_some hlookup).1 hne hsole
  have hconfigured := s.spares_configureTimer (b := b) htimer frequency r.timer
  split
  · exact hconfigured
  · have hchannel := hconfigured.trans (spares_setChannel _ hne fun channel => { channel with
      resolutionBits := ((bmxEsp32PwmConfigureTimer s (s.channels c).timer frequency
        r.timer).2.timers (s.channels c).timer).resolutionBits })
    split
    · exact hchannel
    · exact hchannel.trans (spares_applyDuty _ hne r.duty)

theorem spares_setPinDuty (s : PwmState t) (hpin : (s.channels b).gpio ≠ gpio) (duty : UInt32)
    (r : PwmDutyResults) : s.Spares b k (bmxEmbeddedPwmSetPinDuty s gpio duty r).2 := by
  unfold bmxEmbeddedPwmSetPinDuty
  split
  · exact .refl s
  next c hlookup =>
  have hne := channelForGpio_ne hlookup hpin
  split
  · exact .refl s
  have hstored := s.spares_setChannel (k := k) hne fun channel => { channel with duty }
  dsimp only
  split
  · exact hstored
  have happlied := hstored.trans (spares_applyDuty _ hne r)
  split
  · exact happlied
  · exact happlied.trans (spares_setChannel _ hne fun channel =>
      { channel with duty := (s.channels c).duty })

theorem spares_setPinPolarity (s : PwmState t) (hpin : (s.channels b).gpio ≠ gpio)
    (inverted : Int32) (r : PwmPolarityResults) :
    s.Spares b k (bmxEmbeddedPwmSetPinPolarity s gpio inverted r).2 := by
  unfold bmxEmbeddedPwmSetPinPolarity
  split
  · exact .refl s
  next c hlookup =>
  have hne := channelForGpio_ne hlookup hpin
  dsimp only
  generalize (if (s.channels c).inverted = true then (1 : UInt32) else 0) = idle
  have hreleased := (s.spares_stop (k := k) hne idle).trans
    (spares_releaseChannel _ hne r.release)
  split
  · exact hreleased
  have happlied := (hreleased.trans (spares_setChannel _ hne
    fun channel => { channel with inverted := inverted != 0 })).trans
      (spares_applyChannel _ hne r.apply)
  split
  · exact happlied
  · exact (happlied.trans (spares_setChannel _ hne fun channel =>
      { channel with inverted := (s.channels c).inverted })).trans
        (spares_applyChannel _ hne espOk)

theorem spares_setPinEnabled (s : PwmState t) (hpin : (s.channels b).gpio ≠ gpio)
    (enabled : Int32) (r : PwmEnabledResults) :
    s.Spares b k (bmxEmbeddedPwmSetPinEnabled s gpio enabled r).2 := by
  unfold bmxEmbeddedPwmSetPinEnabled
  split
  · exact .refl s
  next c hlookup =>
  have hne := channelForGpio_ne hlookup hpin
  have hstored := s.spares_setChannel (k := k) hne
    fun channel => { channel with enabled := enabled != 0 }
  have hrestored : ∀ s' : PwmState t, s'.Spares b k (s'.setChannel c fun channel =>
      { channel with enabled := (s.channels c).enabled }) :=
    fun s' => s'.spares_setChannel hne _
  dsimp only
  split
  next =>
    have happlied := hstored.trans (spares_applyDuty _ hne r.duty)
    split
    · exact happlied
    · exact happlied.trans (hrestored _)
  next =>
    generalize (if ((s.setChannel c fun channel =>
      { channel with enabled := enabled != 0 }).channels c).inverted = true then (1 : UInt32)
        else 0) = idle
    have hstopped := hstored.trans (spares_stop _ hne idle)
    split
    · exact hstopped
    · exact hstopped.trans (hrestored _)

end Setters

/-! ### Taking a pin and giving it back -/

section Pins

variable {gpio : UInt32}

theorem Spares.pin (hspares : s.Spares b k s') (hpin : (s.channels b).gpio ≠ gpio) :
    (s'.channels b).gpio ≠ gpio := by
  rw [hspares.channel]
  exact hpin

theorem Allocated.spares_initExisting (h : s.Allocated) (hb : (s.channels b).configured = true)
    (hpin : (s.channels b).gpio ≠ gpio) (frequency duty : UInt32) (inverted : Int32)
    (r : PwmInitResults) :
    s.Spares b (s.channels b).timer (pwmInitExisting s gpio frequency duty inverted r).2 := by
  have hfrequency := h.spares_setPinFrequency hb hpin frequency r.frequency
  have hpolarity := hfrequency.trans
    (spares_setPinPolarity _ (hfrequency.pin hpin) inverted r.polarity)
  have hduty := hpolarity.trans (spares_setPinDuty _ (hpolarity.pin hpin) duty r.duty)
  have henabled := hduty.trans (spares_setPinEnabled _ (hduty.pin hpin) 1 r.enabled)
  unfold pwmInitExisting
  dsimp only
  split
  · exact hfrequency
  split
  · exact hpolarity
  split
  · exact hduty
  split
  · exact henabled
  · exact henabled

/-- A channel is taken with a timer that is not that of `b`, or has references. -/
theorem spares_takeChannel (s : PwmState t) (hc : c ≠ b)
    (hi : i = k → (s.timers i).references ≠ 0) (gpio duty : UInt32) (inverted : Int32)
    (apply : EspErr) : s.Spares b k (pwmTakeChannel s c i gpio duty inverted apply).2 := by
  unfold pwmTakeChannel
  have happlied := (s.spares_setChannel (k := k) hc fun _ =>
    { configured := true, enabled := true, inverted := inverted != 0, timer := i
      resolutionBits := (s.timers i).resolutionBits, gpio, duty }).trans
        (spares_applyChannel _ hc apply)
  dsimp only
  split
  · have hfreed := happlied.trans (spares_setChannel _ hc fun channel =>
      { channel with configured := false })
    dsimp only
    split
    next hzero =>
      have hne : i ≠ k := fun heq => hi heq hzero
      exact hfreed.trans (spares_setTimer _ hne fun x => { x with used := false })
    next => exact hfreed
  · exact happlied.trans (spares_count _ i (fun x => { x with references := x.references + 1 })
      ⟨_, rfl⟩)

theorem Allocated.spares_initFresh (h : s.Allocated) (hb : (s.channels b).configured = true)
    (gpio frequency duty : UInt32) (inverted : Int32) (r : PwmInitResults) :
    s.Spares b (s.channels b).timer (pwmInitFresh s gpio frequency duty inverted r).2 := by
  have hheld : (s.timers (s.channels b).timer).used = true := (h.used_iff _).mpr ⟨b, hb, rfl⟩
  unfold pwmInitFresh
  split
  next c i hchannel htimer =>
    have hc : c ≠ b := by
      rintro rfl
      rw [freeChannel_some hchannel] at hb
      cases hb
    split
    next hused =>
      apply spares_takeChannel s hc
      rintro rfl
      exact UInt8.pos_iff_ne_zero.mp ((h.used _).mp hused)
    next hunused =>
      have hi : i ≠ (s.channels b).timer := by
        rintro rfl
        exact hunused hheld
      have hconfigured := s.spares_configureTimer (b := b) hi frequency r.timer
      dsimp only
      split
      · exact hconfigured
      · exact hconfigured.trans
          (spares_takeChannel _ hc (fun heq => absurd heq hi) gpio duty inverted r.apply)
  next => exact .refl s

theorem Allocated.spares_initPin (h : s.Allocated) (hb : (s.channels b).configured = true)
    (hpin : (s.channels b).gpio ≠ gpio) (frequency duty : UInt32) (inverted : Int32)
    (r : PwmInitResults) :
    s.Spares b (s.channels b).timer (bmxEmbeddedPwmInitPin s gpio frequency duty inverted r).2 := by
  unfold bmxEmbeddedPwmInitPin
  split
  · exact .refl s
  split
  · exact h.spares_initExisting hb hpin frequency duty inverted r
  · exact h.spares_initFresh hb gpio frequency duty inverted r

/-- A timer that is given back loses a reference, and is freed with the last one. -/
theorem spares_giveTimer (s : PwmState t) (hi : i = k → 1 < (s.timers i).references) :
    s.Spares b k ((s.setTimer i fun x =>
      { x with references := if x.references = 0 then 0 else x.references - 1 }).setTimer i
        fun x => { x with used := if x.references = 0 then false else x.used }) := by
  by_cases htimer : i = k
  · have hcount := s.spares_count (b := b) (k := k) i (fun x =>
      { x with references := if x.references = 0 then 0 else x.references - 1 }) ⟨_, rfl⟩
    refine hcount.trans (spares_count _ i _ ⟨(givenBack (s.timers i)).references, ?_⟩)
    -- a reference is left, so the flag stays
    have hleft : (givenBack (s.timers i)).references ≠ 0 := by
      intro hzero
      have hone : 1 < (s.timers i).count := UInt8.lt_iff_toNat_lt.mp (hi htimer)
      have hcount := count_givenBack (s.timers i)
      rw [PwmTimer.count, hzero, UInt8.toNat_zero] at hcount
      omega
    simp only [setTimer, Function.update_self]
    exact congrArg (fun used => ({ s.timers i with
      references := (givenBack (s.timers i)).references, used } : PwmTimer)) (if_neg hleft)
  · exact (s.spares_setTimer htimer _).trans (spares_setTimer _ htimer _)

theorem Allocated.spares_deinitPin (h : s.Allocated) (hb : (s.channels b).configured = true)
    (hpin : (s.channels b).gpio ≠ gpio) (release : EspErr) :
    s.Spares b (s.channels b).timer (bmxEmbeddedPwmDeinitPin s gpio release).2 := by
  unfold bmxEmbeddedPwmDeinitPin
  split
  · exact .refl s
  next c hlookup =>
  have hne := channelForGpio_ne hlookup hpin
  dsimp only
  generalize (if (s.channels c).inverted = true then (1 : UInt32) else 0) = idle
  have hreleased := (s.spares_stop (k := (s.channels b).timer) hne idle).trans
    (spares_releaseChannel _ hne release)
  split
  · exact hreleased
  have hreset := (hreleased.trans (spares_issue _ (LedcCall.spares_of_none
    (.gpioResetPin gpio) rfl rfl))).trans
      (spares_setChannel _ hne fun channel => { channel with configured := false })
  refine hreset.trans (spares_giveTimer _ ?_)
  intro htimer
  by_contra hsole
  exact h.timer_ne hb (channelForGpio_some hlookup).1 hne hsole htimer

end Pins

/-- **A call spares the channel and the timer of every pin but its own.** -/
theorem Allocated.spares_call (h : s.Allocated) (hb : (s.channels b).configured = true)
    (a : PwmCall) (hpin : (s.channels b).gpio ≠ a.gpio) :
    s.Spares b (s.channels b).timer (pwmCall s a) := by
  cases a with
  | initPin gpio frequency duty inverted r =>
    exact h.spares_initPin hb hpin frequency duty inverted r
  | deinitPin gpio release => exact h.spares_deinitPin hb hpin release
  | setPinFrequency gpio frequency r => exact h.spares_setPinFrequency hb hpin frequency r
  | setPinDuty gpio duty r => exact s.spares_setPinDuty hpin duty r
  | setPinPolarity gpio inverted r => exact s.spares_setPinPolarity hpin inverted r
  | setPinEnabled gpio enabled r => exact s.spares_setPinEnabled hpin enabled r

/-! ### The pin that is left alone -/

/-- What `s'` shares with `s` for a pin of channel `b`: its channel and its timer, what is read
of it, and the driver calls, none of which changes the channel or configures the timer. -/
structure Untouched (gpio : UInt32) (b : Fin t.channelMax) (s s' : PwmState t) : Prop extends
    Spares b (s.channels b).timer s s' where
  lookup : bmxEsp32PwmChannelForGpio s' gpio = some b
  frequency : bmxEmbeddedPwmGetPinFrequency s' gpio = bmxEmbeddedPwmGetPinFrequency s gpio
  duty : bmxEmbeddedPwmGetPinDuty s' gpio = bmxEmbeddedPwmGetPinDuty s gpio
  polarity : bmxEmbeddedPwmGetPinPolarity s' gpio = bmxEmbeddedPwmGetPinPolarity s gpio
  enabled : bmxEmbeddedPwmGetPinEnabled s' gpio = bmxEmbeddedPwmGetPinEnabled s gpio

/-- The lookup of a pin finds the one channel that has it. -/
theorem Allocated.channelForGpio_eq (h : s.Allocated) (hb : (s.channels b).configured = true) :
    bmxEsp32PwmChannelForGpio s (s.channels b).gpio = some b := by
  cases hlookup : bmxEsp32PwmChannelForGpio s (s.channels b).gpio with
  | none => exact absurd rfl (channelForGpio_none hlookup b hb)
  | some c =>
    obtain ⟨hc, hgpio⟩ := channelForGpio_some hlookup
    rw [h.pins c b hc hb hgpio]

theorem Spares.untouched {gpio : UInt32} (hspares : s.Spares b (s.channels b).timer s')
    (h' : s'.Allocated) (hlookup : bmxEsp32PwmChannelForGpio s gpio = some b) :
    s.Untouched gpio b s' := by
  obtain ⟨hb, hgpio⟩ := channelForGpio_some hlookup
  have hlookup' : bmxEsp32PwmChannelForGpio s' gpio = some b := by
    rw [← hgpio, ← hspares.channel]
    exact h'.channelForGpio_eq (by rw [hspares.channel]; exact hb)
  obtain ⟨references, htimer⟩ := hspares.timer
  refine ⟨hspares, hlookup', ?_, ?_, ?_, ?_⟩
  · simp only [bmxEmbeddedPwmGetPinFrequency, hlookup, hlookup', hspares.channel, htimer]
  · simp only [bmxEmbeddedPwmGetPinDuty, hlookup, hlookup', hspares.channel]
  · simp only [bmxEmbeddedPwmGetPinPolarity, hlookup, hlookup', hspares.channel]
  · simp only [bmxEmbeddedPwmGetPinEnabled, hlookup, hlookup', hspares.channel]

end PwmState

/-- **Isolation.**  In every state between calls, every call about one pin, with any arguments
and any answers of the driver, leaves every other configured pin untouched. -/
theorem pwm_isolation (t : PwmTarget) (s : PwmState t) (h : (pwmMachine t).Reachable s)
    (a : PwmCall) (gpio : UInt32) (b : Fin t.channelMax)
    (hlookup : bmxEsp32PwmChannelForGpio s gpio = some b) (hpin : gpio ≠ a.gpio) :
    s.Untouched gpio b (pwmCall s a) := by
  have hs := PwmState.allocated_reachable h
  obtain ⟨hb, hgpio⟩ := channelForGpio_some hlookup
  have hspares := hs.spares_call hb a (by rw [hgpio]; exact hpin)
  exact hspares.untouched (hs.call a) hlookup

/-- Two pins share the timer; giving one back leaves the other. -/
theorem pwm_isolation_shared :
    bmxEsp32PwmChannelForGpio twoPwmPins 4 = some ⟨0, by decide⟩ ∧
      twoPwmPins.Untouched 4 ⟨0, by decide⟩ (pwmCall twoPwmPins (.deinitPin 5 espOk)) :=
  ⟨rfl, pwm_isolation onePwmTimer twoPwmPins (.step (.step (.init rfl) trivial rfl) trivial rfl)
    (.deinitPin 5 espOk) 4 ⟨0, by decide⟩ rfl (by decide)⟩

end Esp32Mod
