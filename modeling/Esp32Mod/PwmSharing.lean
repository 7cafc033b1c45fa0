/-
Esp32Mod/PwmSharing.lean

Pins of one frequency share a timer, as the module documents.  The lookup of `init_pin` sees to
it for a fresh pin: it prefers a timer in use that has the frequency.  `set_pin_frequency` makes
no such lookup.  It configures the timer of the pin again, and another timer may have that
frequency already.

Main results:

* `pwm_sharing` — as long as no call retunes a timer to the frequency of another one, pins of one
  frequency have one timer; and the first such call ends it.
* `pwm_sharing_lost` — two pins of one frequency on two timers.
-/
import Esp32Mod.Pwm
import Mathlib.Algebra.Order.Ring.Nat

namespace Esp32Mod

open StepMachine Machine

variable {t : PwmTarget}

/-! ### Sharing, and the calls that end it -/

/-- The driver configures the timer. -/
def PwmTimerResults.Done (r : PwmTimerResults) : Prop :=
  r.resolution ≠ 0 ∧ r.config = espOk ∧ r.achieved ≠ 0

namespace PwmState

/-- Timer `i` is in use, with this frequency. -/
def Runs (s : PwmState t) (i : Fin t.timerMax) (frequency : UInt32) : Prop :=
  (s.timers i).used = true ∧ (s.timers i).requestedFrequency = frequency

/-- `set_pin_frequency` configures timer `i` again. -/
def Retunes (s : PwmState t) (gpio frequency : UInt32) (r : PwmTimerResults)
    (i : Fin t.timerMax) : Prop :=
  ∃ c, bmxEsp32PwmChannelForGpio s gpio = some c ∧ (s.channels c).timer = i ∧ frequency ≠ 0 ∧
    (s.timers i).requestedFrequency ≠ frequency ∧ ¬ 1 < (s.timers i).references ∧ r.Done

/-- A timer is retuned to the frequency of another one. -/
def Collides (s : PwmState t) (gpio frequency : UInt32) (r : PwmTimerResults) : Prop :=
  ∃ i, s.Retunes gpio frequency r i ∧ ∃ j, s.Runs j frequency

/-- Pins of one frequency have one timer; there are as many timers in use as frequencies. -/
structure Shares (s : PwmState t) : Prop where
  timer : ∀ c d, (s.channels c).configured = true → (s.channels d).configured = true →
    (s.timers (s.channels c).timer).requestedFrequency =
      (s.timers (s.channels d).timer).requestedFrequency →
    (s.channels c).timer = (s.channels d).timer
  number : (Finset.univ.filter fun i => (s.timers i).used = true).card =
    ((Finset.univ.filter fun c => (s.channels c).configured = true).image
      fun c => (s.timers (s.channels c).timer).requestedFrequency).card

end PwmState

/-- The calls that retune: `set_pin_frequency`, and `init_pin` of a pin that has a channel. -/
def PwmCall.Collides (s : PwmState t) : PwmCall → Prop
  | .initPin gpio frequency duty _ r =>
    bmxEmbeddedPwmIsValidPin t gpio = true ∧ duty ≤ pwmDutyMaximum ∧
      s.Collides gpio frequency r.frequency.timer
  | .setPinFrequency gpio frequency r => s.Collides gpio frequency r.timer
  | .deinitPin _ _ | .setPinDuty _ _ _ | .setPinPolarity _ _ _ | .setPinEnabled _ _ _ => False

namespace PwmState

variable {s s' : PwmState t} {c : Fin t.channelMax} {i j : Fin t.timerMax} {x : PwmTimer}
  {gpio frequency duty : UInt32}

/-! ### Sharing as a property of the timers -/

/-- No two timers in use have one frequency. -/
def Separate (s : PwmState t) : Prop :=
  ∀ i j frequency, s.Runs i frequency → s.Runs j frequency → i = j

theorem Separate.of_timers (h : s.Separate) (htimers : s'.timers = s.timers) : s'.Separate := by
  intro i j frequency hi hj
  rw [Runs, htimers] at hi hj
  exact h i j frequency hi hj

/-- One timer changes, and no other one has the frequency that it gets. -/
theorem Separate.change (h : s.Separate) (htimers : s'.timers = Function.update s.timers i x)
    (hx : x.used = true → ∀ j, j ≠ i → ¬ s.Runs j x.requestedFrequency) : s'.Separate := by
  have hself : s'.timers i = x := by
    rw [htimers, Function.update_self]
  have hother : ∀ j, j ≠ i → s'.timers j = s.timers j := by
    intro j hj
    rw [htimers, Function.update_of_ne hj]
  intro j k frequency hj hk
  unfold Runs at hj hk
  by_cases hji : j = i <;> by_cases hki : k = i
  · rw [hji, hki]
  · rw [hji, hself] at hj
    rw [hother k hki, ← hj.2] at hk
    exact absurd hk (hx hj.1 k hki)
  · rw [hki, hself] at hk
    rw [hother j hji, ← hk.2] at hj
    exact absurd hj (hx hk.1 j hji)
  · rw [hother j hji] at hj
    rw [hother k hki] at hk
    exact h j k frequency hj hk

/-- One timer changes in its count, or is freed. -/
theorem Separate.keep (h : s.Separate) (htimers : s'.timers = Function.update s.timers i x)
    (hused : x.used = true → (s.timers i).used = true)
    (hfrequency : x.requestedFrequency = (s.timers i).requestedFrequency) : s'.Separate := by
  apply h.change htimers
  intro hx j hj hruns
  exact hj (h j i _ hruns ⟨hused hx, hfrequency.symm⟩)

/-- The timers in use are those of the configured channels. -/
theorem Allocated.used_eq_image (h : s.Allocated) :
    (Finset.univ.filter fun i => (s.timers i).used = true) =
      (Finset.univ.filter fun c => (s.channels c).configured = true).image
        fun c => (s.channels c).timer := by
  ext i
  simp only [Finset.mem_filter, Finset.mem_univ, true_and, Finset.mem_image]
  exact h.used_iff i

theorem Allocated.shares_iff (h : s.Allocated) : s.Shares ↔ s.Separate := by
  constructor
  · intro hshares i j frequency hi hj
    obtain ⟨c, hc, rfl⟩ := (h.used_iff i).mp hi.1
    obtain ⟨d, hd, rfl⟩ := (h.used_iff j).mp hj.1
    exact hshares.timer c d hc hd (hi.2.trans hj.2.symm)
  · intro hseparate
    have htimer : ∀ c d, (s.channels c).configured = true → (s.channels d).configured = true →
        (s.timers (s.channels c).timer).requestedFrequency =
          (s.timers (s.channels d).timer).requestedFrequency →
        (s.channels c).timer = (s.channels d).timer := by
      intro c d hc hd hfrequency
      exact hseparate _ _ _ ⟨(h.used_iff _).mpr ⟨c, hc, rfl⟩, hfrequency⟩
        ⟨(h.used_iff _).mpr ⟨d, hd, rfl⟩, rfl⟩
    refine ⟨htimer, ?_⟩
    -- the frequencies are the image of the timers in use, one for each
    have himage : ((Finset.univ.filter fun c => (s.channels c).configured = true).image
        fun c => (s.timers (s.channels c).timer).requestedFrequency) =
          (Finset.univ.filter fun i => (s.timers i).used = true).image
            fun i => (s.timers i).requestedFrequency := by
      rw [h.used_eq_image, Finset.image_image]
      rfl
    rw [himage, Finset.card_image_of_injOn]
    intro i hi j hj hfrequency
    simp only [Finset.coe_filter, Finset.mem_univ, true_and, Set.mem_ofPred_eq] at hi hj
    exact hseparate i j _ ⟨hi, hfrequency⟩ ⟨hj, rfl⟩

/-! ### The timers after a call -/

theorem configureTimer_done (s : PwmState t) (i : Fin t.timerMax) (frequency : UInt32)
    {r : PwmTimerResults} (hr : r.Done) : ∃ s', s.Asked s' ∧
      bmxEsp32PwmConfigureTimer s i frequency r =
        (r.achieved, s'.setTimer i fun x => configuredTimer x frequency r) := by
  obtain ⟨hresolution, hconfig, hachieved⟩ := hr
  obtain ⟨s', hasked, hfailed | ⟨_, hdone⟩⟩ := configureTimer_cases s i frequency r
  · simp only [bmxEsp32PwmConfigureTimer, hresolution, if_false, hconfig, ne_eq,
      not_true_eq_false, hachieved, Prod.mk.injEq, false_and] at hfailed
  · exact ⟨s', hasked, hdone⟩

theorem configureTimer_failed (s : PwmState t) (i : Fin t.timerMax) (frequency : UInt32)
    {r : PwmTimerResults} (hr : ¬ r.Done) : ∃ s', s.Asked s' ∧
      bmxEsp32PwmConfigureTimer s i frequency r = (0, s') := by
  obtain ⟨s', hasked, hfailed | ⟨hachieved, hdone⟩⟩ := configureTimer_cases s i frequency r
  · exact ⟨s', hasked, hfailed⟩
  · by_cases hresolution : r.resolution = 0
    · simp only [bmxEsp32PwmConfigureTimer, hresolution, if_true, Prod.mk.injEq,
        hachieved.symm, false_and] at hdone
    by_cases hconfig : r.config = espOk
    · exact absurd ⟨hresolution, hconfig, hachieved⟩ hr
    · simp only [bmxEsp32PwmConfigureTimer, hresolution, if_false, ne_eq, hconfig,
        not_false_eq_true, if_true, Prod.mk.injEq, hachieved.symm, false_and] at hdone

theorem setPinFrequency_retunes {r : PwmFrequencyResults}
    (h : s.Retunes gpio frequency r.timer i) :
    (bmxEmbeddedPwmSetPinFrequency s gpio frequency r).2.timers =
      Function.update s.timers i (configuredTimer (s.timers i) frequency r.timer) := by
  obtain ⟨c, hlookup, rfl, hfrequency, hother, hsole, hdone⟩ := h
  obtain ⟨s', hasked, hconfigured⟩ := configureTimer_done s (s.channels c).timer frequency hdone
  simp only [bmxEmbeddedPwmSetPinFrequency, hlookup, hfrequency, hother, hsole, if_false,
    hconfigured, hdone.2.2]
  have htimers : (s'.setTimer (s.channels c).timer fun x =>
      configuredTimer x frequency r.timer).timers = Function.update s.timers (s.channels c).timer
        (configuredTimer (s.timers (s.channels c).timer) frequency r.timer) := by
    rw [← hasked.timers]
    rfl
  split
  · exact htimers
  · exact (asked_applyDuty _ c r.duty).timers.trans htimers

theorem setPinFrequency_keeps {r : PwmFrequencyResults}
    (h : ∀ i, ¬ s.Retunes gpio frequency r.timer i) :
    (bmxEmbeddedPwmSetPinFrequency s gpio frequency r).2.timers = s.timers := by
  unfold bmxEmbeddedPwmSetPinFrequency
  split
  · rfl
  next c hlookup =>
  dsimp only
  split
  · rfl
  next hfrequency =>
  split
  · rfl
  next hother =>
  split
  · rfl
  next hsole =>
  have hfailed : ¬ r.timer.Done :=
    fun hdone => h _ ⟨c, hlookup, rfl, hfrequency, hother, hsole, hdone⟩
  obtain ⟨s', hasked, hconfigured⟩ :=
    configureTimer_failed s (s.channels c).timer frequency hfailed
  rw [hconfigured]
  exact hasked.timers

theorem setPinDuty_timers (s : PwmState t) (gpio duty : UInt32) (r : PwmDutyResults) :
    (bmxEmbeddedPwmSetPinDuty s gpio duty r).2.timers = s.timers := by
  unfold bmxEmbeddedPwmSetPinDuty
  split
  · rfl
  next c _ =>
  split
  · rfl
  dsimp only
  split
  · rfl
  have happlied := (asked_applyDuty (s.setChannel c fun channel => { channel with duty }) c
    r).timers
  split
  · exact happlied
  · exact happlied

theorem setPinPolarity_timers (s : PwmState t) (gpio : UInt32) (inverted : Int32)
    (r : PwmPolarityResults) :
    (bmxEmbeddedPwmSetPinPolarity s gpio inverted r).2.timers = s.timers := by
  unfold bmxEmbeddedPwmSetPinPolarity
  split
  · rfl
  dsimp only [bmxEsp32PwmReleaseChannel, bmxEsp32PwmApplyChannel]
  split
  · rfl
  split <;> rfl

theorem setPinEnabled_timers (s : PwmState t) (gpio : UInt32) (enabled : Int32)
    (r : PwmEnabledResults) :
    (bmxEmbeddedPwmSetPinEnabled s gpio enabled r).2.timers = s.timers := by
  unfold bmxEmbeddedPwmSetPinEnabled
  split
  · rfl
  next c _ =>
  have happlied := (asked_applyDuty (s.setChannel c fun channel =>
    { channel with enabled := enabled != 0 }) c r.duty).timers
  dsimp only
  split
  · split
    · exact happlied
    · exact happlied
  · by_cases hstop : r.stop = espOk
    · simp only [hstop, decide_true, if_true]
      rfl
    · simp only [hstop, decide_false, Bool.false_eq_true, if_false]
      rfl

/-- `init_pin` of a pin that has a channel changes the timers as `set_pin_frequency` does. -/
theorem initExisting_timers (s : PwmState t) (gpio frequency duty : UInt32) (inverted : Int32)
    (r : PwmInitResults) : (pwmInitExisting s gpio frequency duty inverted r).2.timers =
      (bmxEmbeddedPwmSetPinFrequency s gpio frequency r.frequency).2.timers := by
  have hpolarity := fun s' : PwmState t => s'.setPinPolarity_timers gpio inverted r.polarity
  have hduty := fun s' : PwmState t => s'.setPinDuty_timers gpio duty r.duty
  have henabled := fun s' : PwmState t => s'.setPinEnabled_timers gpio 1 r.enabled
  unfold pwmInitExisting
  dsimp only
  split
  · rfl
  split
  · exact hpolarity _
  split
  · exact (hduty _).trans (hpolarity _)
  have hlast := (henabled _).trans ((hduty _).trans (hpolarity
    (bmxEmbeddedPwmSetPinFrequency s gpio frequency r.frequency).2))
  split
  · exact hlast
  · exact hlast

/-! ### What a call does to sharing -/

theorem Separate.setPinFrequency_iff (h : s.Separate) (r : PwmFrequencyResults) :
    (bmxEmbeddedPwmSetPinFrequency s gpio frequency r).2.Separate ↔
      ¬ s.Collides gpio frequency r.timer := by
  by_cases hretunes : ∃ i, s.Retunes gpio frequency r.timer i
  · obtain ⟨i, hi⟩ := hretunes
    have htimers := setPinFrequency_retunes hi
    constructor
    -- the timer that is retuned and the one that had the frequency
    · rintro hseparate ⟨k, hk, j, hj⟩
      have hne : j ≠ i := by
        rintro rfl
        obtain ⟨_, _, _, _, hother, _⟩ := hi
        exact hother hj.2
      refine hne (hseparate j i frequency ?_ ?_)
      · rw [Runs, htimers, Function.update_of_ne hne]
        exact hj
      · rw [Runs, htimers, Function.update_self]
        exact ⟨rfl, rfl⟩
    · intro hok
      apply h.change htimers
      intro _ j _ hj
      exact hok ⟨i, hi, j, hj⟩
  · rw [not_exists] at hretunes
    refine ⟨?_, fun _ => h.of_timers (setPinFrequency_keeps hretunes)⟩
    rintro _ ⟨i, hi, _⟩
    exact hretunes i hi

/-- The lookup prefers a timer in use that has the frequency. -/
theorem timerForFrequency_some (h : bmxEsp32PwmTimerForFrequency s frequency = some i) :
    s.Runs i frequency ∨ (s.timers i).used = false ∧ ∀ j, ¬ s.Runs j frequency := by
  unfold bmxEsp32PwmTimerForFrequency at h
  rcases Option.or_eq_some_iff.mp h with hfound | ⟨hnone, hfree⟩
  · left
    have hruns := List.find?_some hfound
    rwa [Bool.and_eq_true, beq_iff_eq] at hruns
  · right
    have hunused := List.find?_some hfree
    rw [Bool.not_eq_true'] at hunused
    refine ⟨hunused, ?_⟩
    intro j hj
    have hnot := List.find?_eq_none.mp hnone j (List.mem_finRange j)
    rw [Bool.and_eq_true, beq_iff_eq] at hnot
    exact hnot hj

/-- A channel that is taken, or could not be: its timer counts it, or is freed. -/
theorem Separate.takeChannel (h : s.Separate) (c : Fin t.channelMax) (i : Fin t.timerMax)
    (gpio duty : UInt32) (inverted : Int32) (apply : EspErr) :
    (pwmTakeChannel s c i gpio duty inverted apply).2.Separate := by
  unfold pwmTakeChannel
  dsimp only [bmxEsp32PwmApplyChannel]
  split
  · dsimp only
    split
    · exact h.keep (i := i) rfl nofun rfl
    · exact h.of_timers rfl
  · exact h.keep (i := i) rfl id rfl

theorem Separate.initFresh (h : s.Separate) (gpio frequency duty : UInt32) (inverted : Int32)
    (r : PwmInitResults) : (pwmInitFresh s gpio frequency duty inverted r).2.Separate := by
  unfold pwmInitFresh
  split
  next c i hchannel htimer =>
    split
    · exact h.takeChannel c i gpio duty inverted r.apply
    next hunused =>
      obtain ⟨s', hasked, hfailed | ⟨hachieved, hdone⟩⟩ :=
        configureTimer_cases s i frequency r.timer
      · rw [hfailed]
        exact h.of_timers hasked.timers
      · rw [hdone]
        simp only [hachieved, if_false]
        apply Separate.takeChannel
        have hs' : s'.Separate := h.of_timers hasked.timers
        apply hs'.change rfl
        intro _ j _ hj
        -- nobody had the frequency, or the timer would be in use
        rw [Runs, hasked.timers] at hj
        rcases timerForFrequency_some htimer with hruns | ⟨_, hnone⟩
        · exact hunused hruns.1
        · exact hnone j hj
  next => exact h

theorem Separate.initPin_iff (h : s.Separate) (inverted : Int32) (r : PwmInitResults) :
    (bmxEmbeddedPwmInitPin s gpio frequency duty inverted r).2.Separate ↔
      ¬ (PwmCall.initPin gpio frequency duty inverted r).Collides s := by
  unfold bmxEmbeddedPwmInitPin
  split
  next hguard =>
    refine ⟨?_, fun _ => h⟩
    rintro _ ⟨hvalid, hduty, i, ⟨_, _, _, hfrequency, _⟩, _⟩
    rcases hguard with hinvalid | hzero | hmax
    · exact absurd (hvalid.symm.trans hinvalid) (by decide)
    · exact hfrequency hzero
    · exact UInt32.not_lt.mpr hduty hmax
  next hguard =>
    simp only [not_or, Bool.not_eq_false, UInt32.not_lt] at hguard
    split
    next hlookup =>
      have htimers := initExisting_timers s gpio frequency duty inverted r
      have hsame : (pwmInitExisting s gpio frequency duty inverted r).2.Separate ↔
          (bmxEmbeddedPwmSetPinFrequency s gpio frequency r.frequency).2.Separate :=
        ⟨fun hs => hs.of_timers htimers.symm, fun hs => hs.of_timers htimers⟩
      rw [hsame, h.setPinFrequency_iff]
      exact not_congr ⟨fun hcollides => ⟨hguard.1, hguard.2.2, hcollides⟩, fun hcall => hcall.2.2⟩
    next hnone =>
      refine ⟨?_, fun _ => h.initFresh gpio frequency duty inverted r⟩
      rintro _ ⟨_, _, i, ⟨c, hlookup, _⟩, _⟩
      rw [hnone] at hlookup
      cases hlookup

theorem Separate.deinitPin (h : s.Separate) (gpio : UInt32) (release : EspErr) :
    (bmxEmbeddedPwmDeinitPin s gpio release).2.Separate := by
  cases hlookup : bmxEsp32PwmChannelForGpio s gpio with
  | none =>
    simp only [bmxEmbeddedPwmDeinitPin, hlookup]
    exact h
  | some c =>
    by_cases hrelease : release = espOk
    · obtain ⟨calls, hdone⟩ := deinitPin_released hlookup
      rw [hrelease, hdone]
      refine h.keep (i := (s.channels c).timer) rfl ?_ rfl
      show (if (givenBack (s.timers (s.channels c).timer)).references = 0 then false else
        (s.timers (s.channels c).timer).used) = true → _
      split
      · exact fun hoff => absurd hoff Bool.false_ne_true
      · exact id
    · simp only [bmxEmbeddedPwmDeinitPin, hlookup, bmxEsp32PwmReleaseChannel, hrelease,
        decide_false, if_true]
      exact h.of_timers rfl

/-- **A call keeps the timers separate if and only if it does not collide.** -/
theorem Separate.call_iff (h : s.Separate) (a : PwmCall) :
    (pwmCall s a).Separate ↔ ¬ a.Collides s := by
  cases a with
  | initPin gpio frequency duty inverted r => exact h.initPin_iff inverted r
  | setPinFrequency gpio frequency r => exact h.setPinFrequency_iff r
  | deinitPin gpio release => exact iff_of_true (h.deinitPin gpio release) not_false
  | setPinDuty gpio duty r =>
    exact iff_of_true (h.of_timers (s.setPinDuty_timers gpio duty r)) not_false
  | setPinPolarity gpio inverted r =>
    exact iff_of_true (h.of_timers (s.setPinPolarity_timers gpio inverted r)) not_false
  | setPinEnabled gpio enabled r =>
    exact iff_of_true (h.of_timers (s.setPinEnabled_timers gpio enabled r)) not_false

end PwmState

/-- **Sharing.**  While no call has retuned a timer to the frequency of another one, pins of one
frequency have one timer and there are as many timers in use as frequencies.  From there, a call
keeps it so exactly when it does not retune in that way either. -/
theorem pwm_sharing (t : PwmTarget) (s : PwmState t)
    (h : (pwmMachine t).ReachableIn (fun s a => ¬ a.Collides s) s) :
    s.Shares ∧ ∀ a : PwmCall, (pwmCall s a).Shares ↔ ¬ a.Collides s := by
  have hs := PwmState.allocated_reachable (h.mono fun _ _ _ => trivial)
  have hseparate : s.Separate := by
    apply h.invariant (I := PwmState.Separate)
    · rintro s rfl i j frequency hi hj
      exact nomatch hi.1
    · intro s a s' hseparate hok hstep
      obtain rfl := Option.some.inj hstep
      exact (hseparate.call_iff a).mpr hok
  refine ⟨hs.shares_iff.mpr hseparate, ?_⟩
  intro a
  rw [(hs.call a).shares_iff]
  exact hseparate.call_iff a

/-- Two channels and two timers. -/
def twoPwmTimers : PwmTarget := ⟨2, 2, fun _ => true, onePwmTimer.channelMax_le, by decide⟩

/-- Two pins of two frequencies. -/
def twoPwmFrequencies : PwmState twoPwmTimers :=
  pwmCall (pwmCall (pwmReset twoPwmTimers) (.initPin 4 1000 0 0 {})) (.initPin 5 2000 100 1 {})

theorem pwm_sharing_two : twoPwmFrequencies.Shares := by
  refine (pwm_sharing twoPwmTimers twoPwmFrequencies (.step (.step (.init rfl) ?_ rfl) ?_ rfl)).1
  -- neither pin had a channel before
  · rintro ⟨_, _, i, ⟨c, hlookup, _⟩, _⟩
    cases hlookup
  · rintro ⟨_, _, i, ⟨c, hlookup, _⟩, _⟩
    cases hlookup

/-- The second pin asks for the frequency of the first, and each keeps its own timer. -/
theorem pwm_sharing_lost :
    ¬ ∀ (t : PwmTarget) (s : PwmState t), (pwmMachine t).Reachable s → s.Shares := by
  intro hshares
  have hreachable : (pwmMachine twoPwmTimers).Reachable
      (pwmCall twoPwmFrequencies (.setPinFrequency 5 1000 {})) :=
    .step (.step (.step (.init rfl) trivial rfl) trivial rfl) trivial rfl
  have htimer := (hshares _ _ hreachable).timer ⟨0, by decide⟩ ⟨1, by decide⟩ rfl rfl rfl
  exact absurd htimer (by decide)

end Esp32Mod
