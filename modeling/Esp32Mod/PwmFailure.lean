/-
Esp32Mod/PwmFailure.lean

What a refused call leaves behind (`runtime.mod/native/esp32_pwm.c`).  `PwmRecord` is what is
recorded of one pin, and the setters are written once more on records, with the tables and the
lookups left out.  The native setters do on the tables what these do on the record of the pin;
whether a failure has changed something is then a question about records.

Duty, polarity and enable state are stored first and restored after a failure.  A frequency is not:
the timer table is committed before the duty is written to the channel again.  And `init_pin` of a
pin that has a channel is the four setters in a row, without a way back.

Main results:

* `pwm_failure` — a failing call leaves the record as it was exactly if it `Keeps` it; and no
  channel and no timer is taken by a fresh `init_pin` that fails;
* `pwm_failure_retimed` — the frequency is recorded, and the call has failed.
-/
import Esp32Mod.PwmIsolation
import Esp32Mod.PwmSharing

namespace Esp32Mod

open StepMachine Machine

variable {t : PwmTarget}

/-! ### The record of a pin -/

/-- What the state records of a pin that has a channel. -/
@[ext] structure PwmRecord where
  requestedFrequency : UInt32
  achievedFrequency : UInt32
  resolutionBits : UInt8
  duty : UInt32
  inverted : Bool
  enabled : Bool
  deriving DecidableEq

/-- What a pin does, from its channel and timer. -/
def pwmRecord (channel : PwmChannel t) (timer : PwmTimer) : PwmRecord :=
  ⟨timer.requestedFrequency, timer.achievedFrequency, channel.resolutionBits, channel.duty,
    channel.inverted, channel.enabled⟩

namespace PwmState

/-- What the pin of a channel does. -/
def recordOf (s : PwmState t) (c : Fin t.channelMax) : PwmRecord :=
  pwmRecord (s.channels c) (s.timers (s.channels c).timer)

/-- What a pin does, if it has a channel. -/
def record (s : PwmState t) (gpio : UInt32) : Option PwmRecord :=
  (bmxEsp32PwmChannelForGpio s gpio).map s.recordOf

/-- The timer of the channel serves others too. -/
def shared (s : PwmState t) (c : Fin t.channelMax) : Bool :=
  decide (1 < (s.timers (s.channels c).timer).references)

end PwmState

/-! ### The setters on records -/

/-- Both calls succeed. -/
def PwmDutyResults.Done (r : PwmDutyResults) : Prop := r.setDuty = espOk ∧ r.updateDuty = espOk

/-- Both calls succeed. -/
def PwmPolarityResults.Done (r : PwmPolarityResults) : Prop := r.release = espOk ∧ r.apply = espOk

instance (r : PwmDutyResults) : Decidable r.Done := inferInstanceAs (Decidable (_ ∧ _))

instance (r : PwmPolarityResults) : Decidable r.Done := inferInstanceAs (Decidable (_ ∧ _))

instance (r : PwmTimerResults) : Decidable r.Done := inferInstanceAs (Decidable (_ ∧ _ ∧ _))

namespace PwmRecord

/-- The record with the frequency that the timer has been configured for. -/
def retimed (x : PwmRecord) (frequency : UInt32) (r : PwmTimerResults) : PwmRecord :=
  { x with
    requestedFrequency := frequency, achievedFrequency := r.achieved
    resolutionBits := r.resolution.toUInt8 }

/-- What `set_pin_frequency` makes of the record, and whether it succeeds. -/
def setFrequency (x : PwmRecord) (shared : Bool) (frequency : UInt32) (r : PwmFrequencyResults) :
    Bool × PwmRecord :=
  if frequency = 0 then (false, x)
  else if x.requestedFrequency = frequency then (true, x)
  else if shared = true ∨ ¬ r.timer.Done then (false, x)
  else (decide (x.enabled = false ∨ r.duty.Done), x.retimed frequency r.timer)

/-- What `set_pin_duty` makes of the record. -/
def setDuty (x : PwmRecord) (duty : UInt32) (r : PwmDutyResults) : Bool × PwmRecord :=
  if pwmDutyMaximum < duty ∨ x.enabled = true ∧ ¬ r.Done then (false, x)
  else (true, { x with duty })

/-- What `set_pin_polarity` makes of the record. -/
def setPolarity (x : PwmRecord) (inverted : Bool) (r : PwmPolarityResults) : Bool × PwmRecord :=
  if r.Done then (true, { x with inverted }) else (false, x)

/-- What `set_pin_enabled` makes of the record. -/
def setEnabled (x : PwmRecord) (enabled : Bool) (r : PwmEnabledResults) : Bool × PwmRecord :=
  if enabled = true ∧ r.duty.Done ∨ enabled = false ∧ r.stop = espOk then (true, { x with enabled })
  else (false, x)

/-- `init_pin` of a pin that has a channel, after the frequency. -/
def reapply (x : PwmRecord) (duty : UInt32) (inverted : Bool) (r : PwmInitResults) :
    Bool × PwmRecord :=
  let (done, x) := x.setPolarity inverted r.polarity
  if done = false then (false, x)
  else
    let (done, x) := x.setDuty duty r.duty
    if done = false then (false, x) else x.setEnabled true r.enabled

/-- What a second `init_pin` makes of the record. -/
def init (x : PwmRecord) (shared : Bool) (frequency duty : UInt32) (inverted : Bool)
    (r : PwmInitResults) : Bool × PwmRecord :=
  let (done, x) := x.setFrequency shared frequency r.frequency
  if done = false then (false, x) else x.reapply duty inverted r

end PwmRecord

/-! ### Failure -/

namespace PwmRecord

/-- `set_pin_frequency` does not configure the timer, or nothing fails after that. -/
def FrequencyKeeps (x : PwmRecord) (shared : Bool) (frequency : UInt32) (r : PwmFrequencyResults) :
    Prop :=
  frequency = 0 ∨ x.requestedFrequency = frequency ∨ shared = true ∨ ¬ r.timer.Done ∨
    x.enabled = false ∨ r.duty.Done

/-- `init_pin` is refused with the frequency, or all four setters get what they need, or the setter
that fails comes before the first one that has something to change. -/
def InitKeeps (x : PwmRecord) (shared : Bool) (frequency duty : UInt32) (inverted : Bool)
    (r : PwmInitResults) : Prop :=
  (x.requestedFrequency ≠ frequency ∧ (shared = true ∨ ¬ r.frequency.timer.Done)) ∨
  ((x.requestedFrequency = frequency ∨ x.enabled = false ∨ r.frequency.duty.Done) ∧
    r.polarity.Done ∧ (x.enabled = false ∨ r.duty.Done) ∧ r.enabled.duty.Done) ∨
  (x.requestedFrequency = frequency ∧
    (¬ r.polarity.Done ∨ x.inverted = inverted ∧
      (x.enabled = true ∧ ¬ r.duty.Done ∨ x.duty = duty ∧ ¬ r.enabled.duty.Done)))

end PwmRecord

/-- The call returns 0. -/
def PwmCall.Fails (s : PwmState t) : PwmCall → Prop
  | .initPin gpio frequency duty inverted r =>
    (bmxEmbeddedPwmInitPin s gpio frequency duty inverted r).1 = 0
  | .deinitPin gpio release => (bmxEmbeddedPwmDeinitPin s gpio release).1 = 0
  | .setPinFrequency gpio frequency r => (bmxEmbeddedPwmSetPinFrequency s gpio frequency r).1 = 0
  | .setPinDuty gpio duty r => (bmxEmbeddedPwmSetPinDuty s gpio duty r).1 = 0
  | .setPinPolarity gpio inverted r => (bmxEmbeddedPwmSetPinPolarity s gpio inverted r).1 = 0
  | .setPinEnabled gpio enabled r => (bmxEmbeddedPwmSetPinEnabled s gpio enabled r).1 = 0

/-- No channel and no timer is taken, or given back. -/
def PwmState.SameTaken (s s' : PwmState t) : Prop :=
  (∀ c, (s'.channels c).configured = (s.channels c).configured) ∧
    ∀ i, (s'.timers i).used = (s.timers i).used

/-- If the call fails, the record of its pin is as it was, and a pin that had none takes nothing. -/
def PwmState.FailsClean (s : PwmState t) (a : PwmCall) : Prop :=
  a.Fails s → (pwmCall s a).record a.gpio = s.record a.gpio ∧
    (s.record a.gpio = none → s.SameTaken (pwmCall s a))

/-- What the call needs to be given for a clean failure, or for none. -/
def PwmCall.Keeps (s : PwmState t) : PwmCall → Prop
  | .setPinFrequency gpio frequency r =>
    ∀ c, bmxEsp32PwmChannelForGpio s gpio = some c →
      (s.recordOf c).FrequencyKeeps (s.shared c) frequency r
  | .initPin gpio frequency duty inverted r =>
    bmxEmbeddedPwmIsValidPin t gpio = false ∨ frequency = 0 ∨ pwmDutyMaximum < duty ∨
      ∀ c, bmxEsp32PwmChannelForGpio s gpio = some c →
        (s.recordOf c).InitKeeps (s.shared c) frequency duty (inverted != 0) r
  | _ => True

/-! ### On records -/

namespace PwmRecord

variable {x : PwmRecord} {shared inverted : Bool} {frequency duty : UInt32}

theorem setFrequency_keeps_iff (r : PwmFrequencyResults) :
    ((x.setFrequency shared frequency r).1 = false → (x.setFrequency shared frequency r).2 = x) ↔
      x.FrequencyKeeps shared frequency r := by
  unfold setFrequency FrequencyKeeps
  split_ifs with hzero hsame hrefused
  · exact iff_of_true (fun _ => rfl) (.inl hzero)
  · exact iff_of_true nofun (.inr (.inl hsame))
  · refine iff_of_true (fun _ => rfl) (.inr (.inr ?_))
    exact hrefused.imp_right .inl
  · -- the timer has been configured, for another frequency
    obtain ⟨hsole, hdone⟩ := not_or.mp hrefused
    have hother : x.retimed frequency r.timer ≠ x := fun h => hsame (h ▸ rfl)
    rw [decide_eq_false_iff_not]
    constructor
    · exact fun h => .inr (.inr (.inr (.inr (by_contra fun hfails => hother (h hfails)))))
    · rintro (h | h | h | h | h) hfails
      · exact absurd h hzero
      · exact absurd h hsame
      · exact absurd h hsole
      · exact absurd (not_not.mp hdone) h
      · exact absurd h hfails

theorem reapply_eq (hduty : ¬ pwmDutyMaximum < duty) (r : PwmInitResults) :
    x.reapply duty inverted r =
      if r.polarity.Done then
        if x.enabled = true ∧ ¬ r.duty.Done then (false, { x with inverted })
        else if r.enabled.duty.Done then (true, { x with inverted, duty, enabled := true })
        else (false, { x with inverted, duty })
      else (false, x) := by
  unfold reapply setPolarity
  by_cases hpolarity : r.polarity.Done
  swap
  · rw [if_neg hpolarity, if_neg hpolarity]; rfl
  rw [if_pos hpolarity, if_pos hpolarity]
  by_cases hfails : x.enabled = true ∧ ¬ r.duty.Done
  · rw [if_pos hfails]
    simp only [setDuty, if_pos (.inr hfails : pwmDutyMaximum < duty ∨ _)]
    rfl
  rw [if_neg hfails]
  simp only [setDuty, if_neg (not_or.mpr ⟨hduty, hfails⟩)]
  by_cases henabled : r.enabled.duty.Done
  · simp [setEnabled, henabled]
  · simp [setEnabled, henabled]

/-- The setters after the frequency leave the frequency alone. -/
theorem reapply_frequency (hduty : ¬ pwmDutyMaximum < duty) (r : PwmInitResults) :
    (x.reapply duty inverted r).2.requestedFrequency = x.requestedFrequency ∧
      (x.reapply duty inverted r).2.achievedFrequency = x.achievedFrequency := by
  rw [reapply_eq hduty]
  split_ifs <;> exact ⟨rfl, rfl⟩

theorem reapply_done_iff (hduty : ¬ pwmDutyMaximum < duty) (r : PwmInitResults) :
    (x.reapply duty inverted r).1 = true ↔
      r.polarity.Done ∧ (x.enabled = false ∨ r.duty.Done) ∧ r.enabled.duty.Done := by
  rw [reapply_eq hduty]
  split_ifs with hpolarity hfails henabled
  · refine iff_of_false nofun fun h => ?_
    exact h.2.1.elim (fun hoff => absurd (hoff.symm.trans hfails.1) nofun) hfails.2
  · rw [not_and_or, Bool.not_eq_true, not_not] at hfails
    exact iff_of_true rfl ⟨hpolarity, hfails, henabled⟩
  · exact iff_of_false nofun fun h => henabled h.2.2
  · exact iff_of_false nofun fun h => hpolarity h.1

/-- A failure after the frequency: the setters before it had nothing to change. -/
theorem reapply_keeps_iff (hduty : ¬ pwmDutyMaximum < duty) (r : PwmInitResults) :
    ((x.reapply duty inverted r).1 = false → (x.reapply duty inverted r).2 = x) ↔
      (r.polarity.Done ∧ (x.enabled = false ∨ r.duty.Done) ∧ r.enabled.duty.Done) ∨
      ¬ r.polarity.Done ∨ x.inverted = inverted ∧
        (x.enabled = true ∧ ¬ r.duty.Done ∨ x.duty = duty ∧ ¬ r.enabled.duty.Done) := by
  have hdone : (x.reapply duty inverted r).1 = true ↔
      r.polarity.Done ∧ (x.enabled = false ∨ r.duty.Done) ∧ r.enabled.duty.Done :=
    reapply_done_iff hduty r
  rw [← hdone, reapply_eq hduty]
  split_ifs with hpolarity hfails henabled
  · -- the duty could not be written: the polarity is what has been set
    simp only [forall_const, false_or, not_true, hpolarity]
    constructor
    · exact fun h => ⟨(congrArg PwmRecord.inverted h).symm, .inl hfails⟩
    · rintro ⟨rfl, -⟩
      rfl
  · exact iff_of_true nofun (.inl rfl)
  · -- the channel could not be enabled: the polarity and the duty are
    simp only [forall_const, false_or, not_true, hpolarity]
    constructor
    · exact fun h => ⟨(congrArg PwmRecord.inverted h).symm,
        .inr ⟨(congrArg PwmRecord.duty h).symm, henabled⟩⟩
    · rintro ⟨rfl, h | ⟨rfl, -⟩⟩
      · exact absurd h hfails
      · rfl
  · exact iff_of_true (fun _ => rfl) (.inr (.inl hpolarity))

theorem init_keeps_iff (hfrequency : frequency ≠ 0) (hduty : ¬ pwmDutyMaximum < duty)
    (r : PwmInitResults) :
    ((x.init shared frequency duty inverted r).1 = false →
      (x.init shared frequency duty inverted r).2 = x) ↔
      x.InitKeeps shared frequency duty inverted r := by
  unfold init setFrequency InitKeeps
  rw [if_neg hfrequency]
  by_cases hsame : x.requestedFrequency = frequency
  · -- the frequency is no change
    simp only [hsame, if_true, Bool.true_eq_false, if_false, ne_eq, not_true, false_and, false_or,
      true_or, true_and]
    exact reapply_keeps_iff hduty r
  rw [if_neg hsame]
  by_cases hrefused : shared = true ∨ ¬ r.frequency.timer.Done
  · rw [if_pos hrefused]
    exact iff_of_true (fun _ => rfl) (.inl ⟨hsame, hrefused⟩)
  -- the frequency changes, so that a failure from here on shows
  rw [if_neg hrefused]
  simp only [hsame, hrefused, false_or, false_and, and_false, or_false]
  by_cases happlied : x.enabled = false ∨ r.frequency.duty.Done
  · simp only [happlied, decide_true, Bool.true_eq_false, if_false, true_and]
    have hchanged : ((x.retimed frequency r.frequency.timer).reapply duty inverted r).2 ≠ x :=
      fun h => hsame (h ▸ (reapply_frequency hduty r).1)
    rw [← Bool.not_eq_true, reapply_done_iff hduty]
    exact ⟨fun h => by_contra fun hfails => hchanged (h hfails), fun h hfails => absurd h hfails⟩
  · simp only [happlied, decide_false, if_true, forall_const, false_and, iff_false]
    exact fun h => hsame (h ▸ rfl)

end PwmRecord

/-! ### The tables follow the records -/

namespace PwmState

variable {s s' s'' : PwmState t} {c : Fin t.channelMax} {gpio frequency duty : UInt32}
  {x y : PwmRecord}

/-- In `s'` the record of channel `c` is `x`; channels, pins and counts are those of `s`. -/
structure Becomes (s : PwmState t) (c : Fin t.channelMax) (x : PwmRecord) (s' : PwmState t) :
    Prop where
  pins : ∀ d, (s'.channels d).configured = (s.channels d).configured ∧
    (s'.channels d).gpio = (s.channels d).gpio
  timer : (s'.channels c).timer = (s.channels c).timer
  references : ∀ i, (s'.timers i).references = (s.timers i).references
  record : s'.recordOf c = x

theorem Becomes.refl : s.Becomes c (s.recordOf c) s :=
  ⟨fun _ => ⟨rfl, rfl⟩, rfl, fun _ => rfl, rfl⟩

theorem Becomes.trans (h : s.Becomes c x s') (h' : s'.Becomes c y s'') : s.Becomes c y s'' :=
  ⟨fun d => ⟨(h'.pins d).1.trans (h.pins d).1, (h'.pins d).2.trans (h.pins d).2⟩,
    h'.timer.trans h.timer, fun i => (h'.references i).trans (h.references i), h'.record⟩

theorem Asked.becomes (h : s.Asked s') : s.Becomes c (s.recordOf c) s' := by
  refine ⟨fun d => ?_, ?_, fun i => ?_, ?_⟩
  · rw [h.channels]; exact ⟨rfl, rfl⟩
  · rw [h.channels]
  · rw [h.timers]
  · rw [recordOf, recordOf, h.channels, h.timers]

theorem Asked.becomes_of (h : s'.Asked s'') (h' : s.Becomes c x s') : s.Becomes c x s'' := by
  have hasked := h.becomes (c := c)
  rw [h'.record] at hasked
  exact h'.trans hasked

/-- The channel changes, and stays with its pin and its timer. -/
theorem Becomes.set (h : s.Becomes c x s') {f : PwmChannel t → PwmChannel t}
    {g : PwmRecord → PwmRecord}
    (hf : ∀ channel, (f channel).configured = channel.configured ∧
      (f channel).gpio = channel.gpio ∧ (f channel).timer = channel.timer)
    (hg : ∀ channel timer, pwmRecord (f channel) timer = g (pwmRecord channel timer)) :
    s.Becomes c (g x) (s'.setChannel c f) := by
  refine h.trans ⟨fun d => ?_, ?_, fun _ => rfl, ?_⟩
  · by_cases hd : d = c
    · subst hd
      simp only [setChannel, Function.update_self]
      exact ⟨(hf _).1, (hf _).2.1⟩
    · simp only [setChannel, Function.update_of_ne hd]
      exact ⟨trivial, trivial⟩
  · simp only [setChannel, Function.update_self, (hf _).2.2]
  · rw [← h.record]
    simp only [recordOf, setChannel, Function.update_self, (hf _).2.2, hg]

/-- The lookup follows. -/
theorem Becomes.channelForGpio (h : s.Becomes c x s') (gpio : UInt32) :
    bmxEsp32PwmChannelForGpio s' gpio = bmxEsp32PwmChannelForGpio s gpio := by
  unfold bmxEsp32PwmChannelForGpio
  congr
  funext d
  rw [(h.pins d).1, (h.pins d).2]

theorem Becomes.enabled (h : s.Becomes c x s') : (s'.channels c).enabled = x.enabled :=
  congrArg PwmRecord.enabled h.record

theorem Becomes.shared (h : s.Becomes c x s') : s'.shared c = s.shared c := by
  rw [PwmState.shared, PwmState.shared, h.timer, h.references]

theorem applyDuty_eq (s : PwmState t) (c : Fin t.channelMax) (r : PwmDutyResults) :
    (bmxEsp32PwmApplyDuty s c r).1 = decide r.Done := by
  unfold bmxEsp32PwmApplyDuty PwmDutyResults.Done
  by_cases hset : r.setDuty = espOk <;> simp [hset]

/-- The call on the tables ends as the setter on the record has. -/
structure Follows {α : Type} (s : PwmState t) (c : Fin t.channelMax) (p : Bool × PwmRecord)
    (done failed : α) (q : α × PwmState t) : Prop where
  becomes : s.Becomes c p.2 q.2
  result : q.1 = cond p.1 done failed

theorem setPinDuty_follows (hlookup : bmxEsp32PwmChannelForGpio s gpio = some c)
    (duty : UInt32) (r : PwmDutyResults) :
    s.Follows c ((s.recordOf c).setDuty duty r) 1 0 (bmxEmbeddedPwmSetPinDuty s gpio duty r) := by
  have hstored : s.Becomes c { s.recordOf c with duty }
      (s.setChannel c fun channel => { channel with duty }) :=
    Becomes.refl.set (g := fun x => { x with duty }) (fun _ => ⟨rfl, rfl, rfl⟩) fun _ _ => rfl
  have happlied := (asked_applyDuty _ c r).becomes_of hstored
  simp only [PwmRecord.setDuty, bmxEmbeddedPwmSetPinDuty, hlookup, hstored.enabled, applyDuty_eq,
    decide_eq_true_eq]
  by_cases hmax : pwmDutyMaximum < duty
  · rw [if_pos (.inl hmax), if_pos hmax]
    exact ⟨.refl, rfl⟩
  rw [if_neg hmax]
  by_cases hoff : (s.recordOf c).enabled = false
  · rw [if_pos hoff, if_neg]
    · exact ⟨hstored, rfl⟩
    · exact fun h => h.elim hmax fun hfails => absurd (hoff.symm.trans hfails.1) nofun
  rw [if_neg hoff]
  by_cases hdone : r.Done
  · rw [if_pos hdone, if_neg fun h => h.elim hmax fun hfails => hfails.2 hdone]
    exact ⟨happlied, rfl⟩
  · -- the duty that has been stored is taken back
    have hrestored := happlied.set (g := fun x => { x with duty := (s.channels c).duty })
      (f := fun channel => { channel with duty := (s.channels c).duty })
      (fun _ => ⟨rfl, rfl, rfl⟩) fun _ _ => rfl
    rw [if_neg hdone, if_pos (.inr ⟨Bool.eq_true_of_not_eq_false hoff, hdone⟩)]
    exact ⟨hrestored, rfl⟩

theorem setPinPolarity_follows (hlookup : bmxEsp32PwmChannelForGpio s gpio = some c)
    (inverted : Int32) (r : PwmPolarityResults) :
    s.Follows c ((s.recordOf c).setPolarity (inverted != 0) r) 1 0
      (bmxEmbeddedPwmSetPinPolarity s gpio inverted r) := by
  simp only [PwmRecord.setPolarity, bmxEmbeddedPwmSetPinPolarity, hlookup,
    bmxEsp32PwmReleaseChannel, bmxEsp32PwmApplyChannel, decide_eq_false_iff_not, decide_eq_true_eq]
  have hreleased := ((asked_issue s (.stop c (if (s.channels c).inverted then 1 else 0))).trans
    (asked_issue _ (.deconfigure c))).becomes (c := c)
  have hstored := hreleased.set (g := fun x => { x with inverted := inverted != 0 })
    (f := fun channel => { channel with inverted := inverted != 0 })
    (fun _ => ⟨rfl, rfl, rfl⟩) fun _ _ => rfl
  by_cases hrelease : r.release = espOk
  swap
  · rw [if_pos hrelease, if_neg fun hdone => hrelease hdone.1]
    exact ⟨hreleased, rfl⟩
  rw [if_neg (not_not.mpr hrelease)]
  by_cases happly : r.apply = espOk
  · rw [if_pos happly, if_pos ⟨hrelease, happly⟩]
    exact ⟨(asked_issue _ _).becomes_of hstored, rfl⟩
  · have hrestored := fun call => ((asked_issue _ call).becomes_of hstored).set
      (g := fun x => { x with inverted := (s.channels c).inverted })
      (f := fun channel => { channel with inverted := (s.channels c).inverted })
      (fun _ => ⟨rfl, rfl, rfl⟩) fun _ _ => rfl
    rw [if_neg happly, if_neg fun hdone => happly hdone.2]
    exact ⟨(asked_issue _ _).becomes_of (hrestored _), rfl⟩

theorem setPinEnabled_follows (hlookup : bmxEsp32PwmChannelForGpio s gpio = some c)
    (enabled : Int32) (r : PwmEnabledResults) :
    s.Follows c ((s.recordOf c).setEnabled (enabled != 0) r) 1 0
      (bmxEmbeddedPwmSetPinEnabled s gpio enabled r) := by
  have hstored : s.Becomes c { s.recordOf c with enabled := enabled != 0 }
      (s.setChannel c fun channel => { channel with enabled := enabled != 0 }) :=
    Becomes.refl.set (g := fun x => { x with enabled := enabled != 0 })
      (fun _ => ⟨rfl, rfl, rfl⟩) fun _ _ => rfl
  -- after a failure the old value is stored again
  have hrestored : ∀ s', s.Becomes c { s.recordOf c with enabled := enabled != 0 } s' →
      s.Becomes c (s.recordOf c) (s'.setChannel c fun channel =>
        { channel with enabled := (s.channels c).enabled }) := fun s' h' =>
    h'.set (g := fun x => { x with enabled := (s.channels c).enabled })
      (fun _ => ⟨rfl, rfl, rfl⟩) fun _ _ => rfl
  simp only [PwmRecord.setEnabled, bmxEmbeddedPwmSetPinEnabled, hlookup, hstored.enabled]
  cases hwanted : enabled != 0 with
  | true =>
    rw [hwanted] at hstored hrestored
    have happlied := (asked_applyDuty _ c r.duty).becomes_of hstored
    simp only [if_true, true_and, Bool.true_eq_false, false_and, or_false, applyDuty_eq,
      decide_eq_true_eq]
    by_cases hdone : r.duty.Done
    · rw [if_pos hdone, if_pos hdone]
      exact ⟨happlied, rfl⟩
    · rw [if_neg hdone, if_neg hdone]
      exact ⟨hrestored _ happlied, rfl⟩
  | false =>
    rw [hwanted] at hstored hrestored
    have hstopped := fun call => (asked_issue _ call).becomes_of hstored
    simp only [Bool.false_eq_true, if_false, true_and, false_and, false_or, decide_eq_true_eq]
    by_cases hstop : r.stop = espOk
    · rw [if_pos hstop, if_pos hstop]
      exact ⟨hstopped _, rfl⟩
    · rw [if_neg hstop, if_neg hstop]
      exact ⟨hrestored _ (hstopped _), rfl⟩

/-- A timer that is configured anew, and its channel. -/
theorem Asked.becomes_retimed (h : s.Asked s') (frequency : UInt32) (r : PwmTimerResults) :
    s.Becomes c ((s.recordOf c).retimed frequency r)
      ((s'.setTimer (s.channels c).timer fun x => configuredTimer x frequency r).setChannel c
        fun channel => { channel with resolutionBits := ((s'.setTimer (s.channels c).timer
          fun x => configuredTimer x frequency r).timers (s.channels c).timer).resolutionBits }) := by
  obtain ⟨channels, timers, calls⟩ := s'
  obtain rfl := h.channels
  obtain rfl := h.timers
  refine ⟨fun d => ?_, ?_, fun i => ?_, ?_⟩
  · by_cases hd : d = c
    · subst hd; simp [setChannel, setTimer]
    · simp [setChannel, setTimer, hd]
  · simp [setChannel, setTimer]
  · by_cases hi : i = (s.channels c).timer
    · subst hi; simp [setChannel, setTimer, configuredTimer]
    · simp [setChannel, setTimer, hi]
  · simp [recordOf, setChannel, setTimer, configuredTimer, pwmRecord, PwmRecord.retimed]

/-- `set_pin_frequency` returns what has been achieved. -/
theorem setPinFrequency_follows (hlookup : bmxEsp32PwmChannelForGpio s gpio = some c)
    (frequency : UInt32) (r : PwmFrequencyResults) :
    s.Follows c ((s.recordOf c).setFrequency (s.shared c) frequency r)
      ((s.recordOf c).setFrequency (s.shared c) frequency r).2.achievedFrequency 0
      (bmxEmbeddedPwmSetPinFrequency s gpio frequency r) := by
  simp only [PwmRecord.setFrequency, bmxEmbeddedPwmSetPinFrequency, hlookup]
  -- the tests of the source, in their order; up to the timer nothing is changed
  by_cases hzero : frequency = 0
  · rw [if_pos hzero, if_pos hzero]
    exact ⟨.refl, rfl⟩
  rw [if_neg hzero, if_neg hzero]
  have hrequested : (s.timers (s.channels c).timer).requestedFrequency =
      (s.recordOf c).requestedFrequency := rfl
  rw [hrequested]
  by_cases hsame : (s.recordOf c).requestedFrequency = frequency
  · rw [if_pos hsame, if_pos hsame]
    exact ⟨.refl, rfl⟩
  rw [if_neg hsame, if_neg hsame]
  by_cases hshared : 1 < (s.timers (s.channels c).timer).references
  · rw [if_pos hshared, if_pos (.inl (decide_eq_true hshared))]
    exact ⟨.refl, rfl⟩
  rw [if_neg hshared]
  by_cases hdone : r.timer.Done
  swap
  · obtain ⟨s', hasked, hfailed⟩ := configureTimer_failed s (s.channels c).timer frequency hdone
    rw [hfailed, if_pos (.inr hdone)]
    exact ⟨hasked.becomes, rfl⟩
  -- from here on the timer has the new frequency, also if the duty cannot be updated
  obtain ⟨s', hasked, hconfigured⟩ := configureTimer_done s (s.channels c).timer frequency hdone
  have hretimed := hasked.becomes_retimed (c := c) frequency r.timer
  rw [hconfigured, if_neg fun h => h.elim (fun h => hshared (of_decide_eq_true h)) (· hdone)]
  simp only [hdone.2.2, if_false, applyDuty_eq, decide_eq_true_eq]
  by_cases hoff : (s.recordOf c).enabled = false
  · rw [if_pos (hretimed.enabled.trans hoff)]
    exact ⟨hretimed, by rw [decide_eq_true (.inl hoff)]; rfl⟩
  rw [if_neg fun h => hoff (hretimed.enabled.symm.trans h)]
  refine ⟨(asked_applyDuty _ c r.duty).becomes_of hretimed, ?_⟩
  by_cases happlied : r.duty.Done
  · rw [if_pos happlied, decide_eq_true (.inr happlied)]; rfl
  · rw [if_neg happlied, decide_eq_false (not_or.mpr ⟨hoff, happlied⟩)]; rfl

/-- `init_pin` of a pin that has a channel is `init` on its record; `hachieved` says that the
frequency step does not return 0 for a success. -/
theorem initExisting_follows (hlookup : bmxEsp32PwmChannelForGpio s gpio = some c)
    (frequency duty : UInt32) (inverted : Int32) (r : PwmInitResults)
    (hachieved : ((s.recordOf c).setFrequency (s.shared c) frequency r.frequency).1 = true →
      ((s.recordOf c).setFrequency (s.shared c) frequency r.frequency).2.achievedFrequency ≠ 0) :
    s.Follows c ((s.recordOf c).init (s.shared c) frequency duty (inverted != 0) r)
      ((s.recordOf c).init (s.shared c) frequency duty (inverted != 0) r).2.achievedFrequency 0
      (pwmInitExisting s gpio frequency duty inverted r) := by
  have hone : (1 : Int32) ≠ 0 := by decide
  have hfrequency := setPinFrequency_follows hlookup frequency r.frequency
  unfold pwmInitExisting PwmRecord.init
  generalize (s.recordOf c).setFrequency (s.shared c) frequency r.frequency = p at *
  generalize bmxEmbeddedPwmSetPinFrequency s gpio frequency r.frequency = q at *
  obtain ⟨done, x⟩ := p
  obtain ⟨achieved, s₁⟩ := q
  -- the frequency first; where it fails, the call is over on both sides
  obtain ⟨hbecomes, rfl⟩ := hfrequency
  cases done with
  | false => exact ⟨hbecomes, rfl⟩
  | true =>
  have hpolarity := setPinPolarity_follows ((hbecomes.channelForGpio gpio).trans hlookup) inverted
    r.polarity
  simp only [cond_true, hachieved rfl, if_false, Bool.true_eq_false, PwmRecord.reapply]
  rw [hbecomes.record] at hpolarity
  generalize x.setPolarity (inverted != 0) r.polarity = p at *
  generalize bmxEmbeddedPwmSetPinPolarity s₁ gpio inverted r.polarity = q at *
  obtain ⟨done, x⟩ := p
  obtain ⟨result, s₂⟩ := q
  -- the polarity, of the channel that the frequency has left
  obtain ⟨hbecomes₂, rfl⟩ := hpolarity
  replace hbecomes := hbecomes.trans hbecomes₂
  cases done with
  | false => exact ⟨hbecomes, rfl⟩
  | true =>
  have hduty := setPinDuty_follows ((hbecomes.channelForGpio gpio).trans hlookup) duty r.duty
  simp only [cond_true, Bool.true_eq_false, if_false, hone]
  rw [hbecomes.record] at hduty
  generalize x.setDuty duty r.duty = p at *
  generalize bmxEmbeddedPwmSetPinDuty s₂ gpio duty r.duty = q at *
  obtain ⟨done, x⟩ := p
  obtain ⟨result, s₃⟩ := q
  -- the duty
  obtain ⟨hbecomes₃, rfl⟩ := hduty
  replace hbecomes := hbecomes.trans hbecomes₃
  cases done with
  | false => exact ⟨hbecomes, rfl⟩
  | true =>
  have henabled := setPinEnabled_follows ((hbecomes.channelForGpio gpio).trans hlookup) 1 r.enabled
  simp only [cond_true, Bool.true_eq_false, if_false, hone]
  rw [hbecomes.record, (by decide : ((1 : Int32) != 0) = true)] at henabled
  generalize x.setEnabled true r.enabled = p at *
  generalize bmxEmbeddedPwmSetPinEnabled s₃ gpio 1 r.enabled = q at *
  obtain ⟨done, x⟩ := p
  obtain ⟨result, s₄⟩ := q
  -- the output
  obtain ⟨hbecomes₄, rfl⟩ := henabled
  replace hbecomes := hbecomes.trans hbecomes₄
  cases done with
  | false => exact ⟨hbecomes, rfl⟩
  | true =>
  simp only [cond_true, if_false, hone]
  refine ⟨hbecomes, ?_⟩
  simp only [bmxEmbeddedPwmGetPinFrequency, (hbecomes.channelForGpio gpio).trans hlookup]
  exact congrArg PwmRecord.achievedFrequency hbecomes.record

/-! ### A pin that gets no channel -/

/-- A timer in use has a frequency. -/
def Running (s : PwmState t) : Prop :=
  ∀ i, (s.timers i).used = true → (s.timers i).achievedFrequency ≠ 0

theorem Running.of_timers (h : s.Running) (htimers : s'.timers = s.timers) : s'.Running := by
  intro i
  rw [htimers]
  exact h i

/-- One timer changes, and has a frequency if it is in use. -/
theorem Running.change (h : s.Running) {i : Fin t.timerMax} {timer : PwmTimer}
    (htimers : s'.timers = Function.update s.timers i timer)
    (htimer : timer.used = true → timer.achievedFrequency ≠ 0) : s'.Running := by
  intro k
  rw [htimers]
  by_cases hk : k = i
  · subst hk
    rw [Function.update_self]
    exact htimer
  · rw [Function.update_of_ne hk]
    exact h k

theorem Running.setPinFrequency (h : s.Running) (gpio frequency : UInt32)
    (r : PwmFrequencyResults) : (bmxEmbeddedPwmSetPinFrequency s gpio frequency r).2.Running := by
  by_cases hretunes : ∃ i, s.Retunes gpio frequency r.timer i
  · obtain ⟨i, hi⟩ := hretunes
    obtain ⟨_, _, _, _, _, _, hdone⟩ := id hi
    exact h.change (setPinFrequency_retunes hi) fun _ => hdone.2.2
  · exact h.of_timers (setPinFrequency_keeps (not_exists.mp hretunes))

theorem Running.takeChannel (h : s.Running) (c : Fin t.channelMax) {i : Fin t.timerMax}
    (hused : (s.timers i).used = true) (gpio duty : UInt32) (inverted : Int32) (apply : EspErr) :
    (pwmTakeChannel s c i gpio duty inverted apply).2.Running := by
  unfold pwmTakeChannel
  dsimp only [bmxEsp32PwmApplyChannel]
  split
  · dsimp only
    split
    · exact h.change (i := i) rfl nofun
    · exact h.of_timers rfl
  · exact h.change (i := i) rfl fun _ => h i hused

theorem Running.initFresh (h : s.Running) (gpio frequency duty : UInt32) (inverted : Int32)
    (r : PwmInitResults) : (pwmInitFresh s gpio frequency duty inverted r).2.Running := by
  unfold pwmInitFresh
  split
  next c i _ _ =>
    split
    next hused => exact h.takeChannel c hused gpio duty inverted r.apply
    next =>
      obtain ⟨s', hasked, hfailed | ⟨hachieved, hdone⟩⟩ :=
        configureTimer_cases s i frequency r.timer
      · rw [hfailed]
        exact h.of_timers hasked.timers
      · rw [hdone]
        simp only [hachieved, if_false]
        refine Running.takeChannel (Running.change (h.of_timers hasked.timers) rfl fun _ => hachieved)
          c ?_ gpio duty inverted r.apply
        simp only [setTimer, Function.update_self, configuredTimer]
  next => exact h

theorem Running.call (h : s.Running) (a : PwmCall) : (pwmCall s a).Running := by
  cases a with
  | initPin gpio frequency duty inverted r =>
    simp only [pwmCall, bmxEmbeddedPwmInitPin]
    split
    · exact h
    · split
      · exact (h.setPinFrequency gpio frequency r.frequency).of_timers
          (initExisting_timers s gpio frequency duty inverted r)
      · exact h.initFresh gpio frequency duty inverted r
  | setPinFrequency gpio frequency r => exact h.setPinFrequency gpio frequency r
  | deinitPin gpio release =>
    simp only [pwmCall]
    cases hlookup : bmxEsp32PwmChannelForGpio s gpio with
    | none =>
      simp only [bmxEmbeddedPwmDeinitPin, hlookup]
      exact h
    | some c =>
      by_cases hrelease : release = espOk
      · obtain ⟨calls, hdone⟩ := deinitPin_released hlookup
        rw [hrelease, hdone]
        refine h.change (i := (s.channels c).timer) rfl fun hused => h _ ?_
        simp only [givenBack] at hused
        split_ifs at hused
        · exact hused
        · exact hused
      · simp only [bmxEmbeddedPwmDeinitPin, hlookup, bmxEsp32PwmReleaseChannel, hrelease,
          decide_false, if_true]
        exact h.of_timers rfl
  | setPinDuty gpio duty r => exact h.of_timers (s.setPinDuty_timers gpio duty r)
  | setPinPolarity gpio inverted r => exact h.of_timers (s.setPinPolarity_timers gpio inverted r)
  | setPinEnabled gpio enabled r => exact h.of_timers (s.setPinEnabled_timers gpio enabled r)

theorem running_reachable (h : (pwmMachine t).Reachable s) : s.Running := by
  apply h.invariant (I := PwmState.Running)
  · rintro s rfl i hused
    exact nomatch hused
  · intro s a s' hrunning _ hstep
    obtain rfl := Option.some.inj hstep
    exact hrunning.call a

/-- A channel that could not be set up is free, and its timer if nobody else uses it. -/
theorem takeChannel_fails {i : Fin t.timerMax} (hfree : (s.channels c).configured = false)
    (hachieved : (s.timers i).achievedFrequency ≠ 0) {inverted : Int32} {apply : EspErr}
    (hfails : (pwmTakeChannel s c i gpio duty inverted apply).1 = 0) :
    (∀ d, ((pwmTakeChannel s c i gpio duty inverted apply).2.channels d).configured =
      (s.channels d).configured) ∧
    ∀ k, ((pwmTakeChannel s c i gpio duty inverted apply).2.timers k).used =
      if k = i ∧ (s.timers i).references = 0 then false else (s.timers k).used := by
  unfold pwmTakeChannel at hfails ⊢
  by_cases happly : apply = espOk
  · simp only [bmxEsp32PwmApplyChannel, happly, decide_true, Bool.true_eq_false, if_false] at hfails
    exact absurd hfails hachieved
  simp only [bmxEsp32PwmApplyChannel, happly, decide_false, if_true]
  refine ⟨fun d => ?_, fun k => ?_⟩
  · by_cases hd : d = c
    · subst hd
      split <;> simp only [setTimer, setChannel, issue, Function.update_self, hfree]
    · split <;> simp only [setTimer, setChannel, issue, Function.update_of_ne hd]
  · split
    next hzero =>
      by_cases hk : k = i
      · subst hk
        rw [if_pos ⟨rfl, hzero⟩]
        simp only [setTimer, Function.update_self]
      · rw [if_neg fun h => hk h.1]
        simp only [setTimer, setChannel, issue, Function.update_of_ne hk]
    next hnonzero =>
      rw [if_neg fun h => hnonzero h.2]
      rfl

/-- **A fresh `init_pin` that fails takes nothing.** -/
theorem Allocated.initFresh_fails (h : s.Allocated) (hrunning : s.Running) {inverted : Int32}
    {r : PwmInitResults} (hfails : (pwmInitFresh s gpio frequency duty inverted r).1 = 0) :
    s.SameTaken (pwmInitFresh s gpio frequency duty inverted r).2 := by
  have hrefs : ∀ i, (s.timers i).references = 0 ↔ (s.timers i).used = false := by
    intro i
    rw [← Bool.not_eq_true, h.used i, UInt8.pos_iff_ne_zero, not_not]
  unfold pwmInitFresh at hfails ⊢
  split at hfails
  next c i hchannel htimer =>
    have hfree := freeChannel_some hchannel
    split at hfails
    next hused =>
      rw [if_pos hused]
      obtain ⟨hchannels, htimers⟩ := takeChannel_fails hfree (hrunning i hused) hfails
      refine ⟨hchannels, fun k => ?_⟩
      rw [htimers, if_neg]
      rintro ⟨-, hzero⟩
      exact absurd (((hrefs i).mp hzero).symm.trans hused) nofun
    next hunused =>
      have hoff := Bool.eq_false_iff.mpr hunused
      rw [if_neg hunused]
      obtain ⟨s', hasked, hfailed | ⟨hachieved, hdone⟩⟩ :=
        configureTimer_cases s i frequency r.timer
      · rw [hfailed]
        refine ⟨fun d => ?_, fun k => ?_⟩
        · exact congrArg (fun f => (f d).configured) hasked.channels
        · exact congrArg (fun f => (f k).used) hasked.timers
      · rw [hdone] at hfails ⊢
        simp only [hachieved, if_false] at hfails ⊢
        -- the timer has been configured for nobody, and goes back
        obtain ⟨hchannels, htimers⟩ := takeChannel_fails (s := s'.setTimer i fun x =>
          configuredTimer x frequency r.timer) (by rw [← hfree, ← hasked.channels]; rfl)
          (by simpa [setTimer, configuredTimer] using hachieved) hfails
        refine ⟨fun d => ?_, fun k => ?_⟩
        · rw [hchannels, ← hasked.channels]
          rfl
        · rw [htimers]
          by_cases hk : k = i
          · subst hk
            rw [hoff, if_pos]
            refine ⟨rfl, ?_⟩
            simpa [setTimer, configuredTimer, hasked.timers] using (hrefs k).mpr hoff
          · rw [if_neg fun h => hk h.1, ← hasked.timers]
            simp only [setTimer, Function.update_of_ne hk]
  next => exact ⟨fun _ => rfl, fun _ => rfl⟩

/-! ### Failing calls -/

theorem record_some (hlookup : bmxEsp32PwmChannelForGpio s gpio = some c) :
    s.record gpio = some (s.recordOf c) := by
  rw [record, hlookup]
  rfl

theorem Becomes.record_eq (h : s.Becomes c x s')
    (hlookup : bmxEsp32PwmChannelForGpio s gpio = some c) : s'.record gpio = some x := by
  rw [record_some ((h.channelForGpio gpio).trans hlookup), h.record]

theorem Follows.fails_iff {α : Type} {p : Bool × PwmRecord} {done failed : α} {q : α × PwmState t}
    (h : s.Follows c p done failed q) (hdone : p.1 = true → done ≠ failed) :
    q.1 = failed ↔ p.1 = false := by
  rw [h.result]
  cases hp : p.1 with
  | true => exact iff_of_false (hdone hp) nofun
  | false => exact iff_of_true rfl rfl

/-- A call that does nothing. -/
theorem failsClean_of_eq {a : PwmCall} (h : pwmCall s a = s) : s.FailsClean a := by
  intro _
  rw [h]
  exact ⟨rfl, fun _ => ⟨fun _ => rfl, fun _ => rfl⟩⟩

/-- A call about a pin that has a channel: what matters is the record. -/
theorem failsClean_iff {a : PwmCall} {p : Bool × PwmRecord}
    (hlookup : bmxEsp32PwmChannelForGpio s a.gpio = some c) (hfails : a.Fails s ↔ p.1 = false)
    (hbecomes : s.Becomes c p.2 (pwmCall s a)) :
    s.FailsClean a ↔ (p.1 = false → p.2 = s.recordOf c) := by
  unfold FailsClean
  rw [hfails, hbecomes.record_eq hlookup, record_some hlookup]
  refine imp_congr_right fun _ => ⟨fun h => Option.some.inj h.1, fun h => ⟨congrArg some h, nofun⟩⟩

theorem Allocated.achieved_ne_zero (h : s.Allocated) (hrunning : s.Running)
    (hlookup : bmxEsp32PwmChannelForGpio s gpio = some c) :
    (s.recordOf c).achievedFrequency ≠ 0 :=
  hrunning _ ((h.used_iff _).mpr ⟨c, (channelForGpio_some hlookup).1, rfl⟩)

/-- A pin without a channel gets none. -/
theorem Allocated.initFresh_record (h : s.Allocated)
    (hlookup : bmxEsp32PwmChannelForGpio s gpio = none) {inverted : Int32} {r : PwmInitResults}
    (htaken : s.SameTaken (pwmInitFresh s gpio frequency duty inverted r).2) :
    (pwmInitFresh s gpio frequency duty inverted r).2.record gpio = none := by
  refine Option.map_eq_none_iff.mpr (List.find?_eq_none.mpr fun c _ hfound => ?_)
  rw [Bool.and_eq_true, beq_iff_eq, htaken.1] at hfound
  have hspares := h.spares_initFresh hfound.1 gpio frequency duty inverted r
  exact channelForGpio_none hlookup c hfound.1 (by rw [← hspares.channel]; exact hfound.2)

end PwmState

namespace PwmRecord

variable {x : PwmRecord}

theorem setFrequency_achieved {shared : Bool} {frequency : UInt32} {r : PwmFrequencyResults}
    (hx : x.achievedFrequency ≠ 0) (h : (x.setFrequency shared frequency r).1 = true) :
    (x.setFrequency shared frequency r).2.achievedFrequency ≠ 0 := by
  unfold setFrequency at h ⊢
  split_ifs at h ⊢ with hzero hsame hrefused
  · exact hx
  · exact (not_not.mp (not_or.mp hrefused).2).2.2

theorem init_achieved {shared inverted : Bool} {frequency duty : UInt32} {r : PwmInitResults}
    (hx : x.achievedFrequency ≠ 0) (hduty : ¬ pwmDutyMaximum < duty)
    (h : (x.init shared frequency duty inverted r).1 = true) :
    (x.init shared frequency duty inverted r).2.achievedFrequency ≠ 0 := by
  have hachieved : (x.setFrequency shared frequency r.frequency).1 = true →
      (x.setFrequency shared frequency r.frequency).2.achievedFrequency ≠ 0 :=
    setFrequency_achieved hx
  unfold init at h ⊢
  generalize x.setFrequency shared frequency r.frequency = p at *
  obtain ⟨done, y⟩ := p
  cases done with
  | false => exact absurd h nofun
  | true =>
    simp only [Bool.true_eq_false, if_false]
    rw [(reapply_frequency hduty r).2]
    exact hachieved rfl

theorem setDuty_keeps {duty : UInt32} {r : PwmDutyResults} (h : (x.setDuty duty r).1 = false) :
    (x.setDuty duty r).2 = x := by
  unfold setDuty at h ⊢
  split_ifs at h ⊢ with hfails
  · rfl

theorem setPolarity_keeps {inverted : Bool} {r : PwmPolarityResults}
    (h : (x.setPolarity inverted r).1 = false) : (x.setPolarity inverted r).2 = x := by
  unfold setPolarity at h ⊢
  split_ifs at h ⊢ with hdone
  · rfl

theorem setEnabled_keeps {enabled : Bool} {r : PwmEnabledResults}
    (h : (x.setEnabled enabled r).1 = false) : (x.setEnabled enabled r).2 = x := by
  unfold setEnabled at h ⊢
  split_ifs at h ⊢ with hdone
  · rfl

end PwmRecord

namespace PwmState

variable {s : PwmState t} {gpio frequency duty : UInt32}

theorem Allocated.setPinFrequency_clean_iff (h : s.Allocated) (hrunning : s.Running)
    (r : PwmFrequencyResults) :
    s.FailsClean (.setPinFrequency gpio frequency r) ↔
      (PwmCall.setPinFrequency gpio frequency r).Keeps s := by
  simp only [PwmCall.Keeps]
  cases hlookup : bmxEsp32PwmChannelForGpio s gpio with
  | none =>
    refine iff_of_true (failsClean_of_eq ?_) nofun
    simp only [pwmCall, bmxEmbeddedPwmSetPinFrequency, hlookup]
  | some c =>
    have hfollows := setPinFrequency_follows hlookup frequency r
    have hfails := hfollows.fails_iff
      (PwmRecord.setFrequency_achieved (h.achieved_ne_zero hrunning hlookup))
    rw [failsClean_iff (a := .setPinFrequency gpio frequency r) hlookup hfails hfollows.becomes,
      PwmRecord.setFrequency_keeps_iff]
    simp only [Option.some.injEq, forall_eq']

theorem Allocated.initPin_clean_iff (h : s.Allocated) (hrunning : s.Running) (inverted : Int32)
    (r : PwmInitResults) :
    s.FailsClean (.initPin gpio frequency duty inverted r) ↔
      (PwmCall.initPin gpio frequency duty inverted r).Keeps s := by
  -- a refused call changes nothing, and has nothing to keep
  by_cases hguard : bmxEmbeddedPwmIsValidPin t gpio = false ∨ frequency = 0 ∨ pwmDutyMaximum < duty
  · refine iff_of_true (failsClean_of_eq ?_) ?_
    · simp only [pwmCall, bmxEmbeddedPwmInitPin, if_pos hguard]
    · exact hguard.imp_right fun h => h.imp_right .inl
  obtain ⟨hvalid, hfrequency, hduty⟩ := (not_or.mp hguard).imp_right not_or.mp
  have hkeeps : (PwmCall.initPin gpio frequency duty inverted r).Keeps s ↔
      ∀ c, bmxEsp32PwmChannelForGpio s gpio = some c →
        (s.recordOf c).InitKeeps (s.shared c) frequency duty (inverted != 0) r :=
    (or_iff_right hvalid).trans ((or_iff_right hfrequency).trans (or_iff_right hduty))
  rw [hkeeps]
  cases hlookup : bmxEsp32PwmChannelForGpio s gpio with
  | none =>
    have hcall : bmxEmbeddedPwmInitPin s gpio frequency duty inverted r =
        pwmInitFresh s gpio frequency duty inverted r := by
      rw [bmxEmbeddedPwmInitPin, if_neg hguard, hlookup]
    refine iff_of_true (fun hfails => ?_) nofun
    simp only [PwmCall.Fails, hcall] at hfails
    -- a fresh channel that fails is given back
    have htaken := h.initFresh_fails hrunning hfails
    simp only [pwmCall, hcall, PwmCall.gpio]
    refine ⟨?_, fun _ => htaken⟩
    rw [h.initFresh_record hlookup htaken, record, hlookup]
    rfl
  | some c =>
    have hcall : bmxEmbeddedPwmInitPin s gpio frequency duty inverted r =
        pwmInitExisting s gpio frequency duty inverted r := by
      rw [bmxEmbeddedPwmInitPin, if_neg hguard, hlookup]
    -- a channel that is in use runs at some frequency, so 0 does tell a failure
    have hne := h.achieved_ne_zero hrunning hlookup
    have hfollows := initExisting_follows hlookup frequency duty inverted r
      (PwmRecord.setFrequency_achieved hne)
    rw [← hcall] at hfollows
    have hfails := hfollows.fails_iff (PwmRecord.init_achieved hne hduty)
    rw [failsClean_iff (a := .initPin gpio frequency duty inverted r) hlookup hfails
      hfollows.becomes, PwmRecord.init_keeps_iff hfrequency hduty]
    simp only [Option.some.injEq, forall_eq']

/-- A setter whose failures keep the record. -/
theorem failsClean_of_keeps {a : PwmCall} {p : Bool × PwmRecord} {c : Fin t.channelMax}
    {q : Int32 × PwmState t} (hlookup : bmxEsp32PwmChannelForGpio s a.gpio = some c)
    (hfollows : s.Follows c p 1 0 q) (hcall : q.2 = pwmCall s a) (hfails : a.Fails s ↔ q.1 = 0)
    (hkeeps : p.1 = false → p.2 = s.recordOf c) : s.FailsClean a := by
  have hfalse := hfails.trans (hfollows.fails_iff fun _ => by decide)
  exact (failsClean_iff hlookup hfalse (hcall ▸ hfollows.becomes)).mpr hkeeps

theorem setPinDuty_clean (s : PwmState t) (gpio duty : UInt32) (r : PwmDutyResults) :
    s.FailsClean (.setPinDuty gpio duty r) := by
  cases hlookup : bmxEsp32PwmChannelForGpio s gpio with
  | none =>
    refine failsClean_of_eq ?_
    simp only [pwmCall, bmxEmbeddedPwmSetPinDuty, hlookup]
  | some c =>
    exact failsClean_of_keeps hlookup (setPinDuty_follows hlookup duty r) rfl Iff.rfl
      PwmRecord.setDuty_keeps

theorem setPinPolarity_clean (s : PwmState t) (gpio : UInt32) (inverted : Int32)
    (r : PwmPolarityResults) : s.FailsClean (.setPinPolarity gpio inverted r) := by
  cases hlookup : bmxEsp32PwmChannelForGpio s gpio with
  | none =>
    refine failsClean_of_eq ?_
    simp only [pwmCall, bmxEmbeddedPwmSetPinPolarity, hlookup]
  | some c =>
    exact failsClean_of_keeps hlookup (setPinPolarity_follows hlookup inverted r) rfl Iff.rfl
      PwmRecord.setPolarity_keeps

theorem setPinEnabled_clean (s : PwmState t) (gpio : UInt32) (enabled : Int32)
    (r : PwmEnabledResults) : s.FailsClean (.setPinEnabled gpio enabled r) := by
  cases hlookup : bmxEsp32PwmChannelForGpio s gpio with
  | none =>
    refine failsClean_of_eq ?_
    simp only [pwmCall, bmxEmbeddedPwmSetPinEnabled, hlookup]
  | some c =>
    exact failsClean_of_keeps hlookup (setPinEnabled_follows hlookup enabled r) rfl Iff.rfl
      PwmRecord.setEnabled_keeps

theorem deinitPin_clean (s : PwmState t) (gpio : UInt32) (release : EspErr) :
    s.FailsClean (.deinitPin gpio release) := by
  cases hlookup : bmxEsp32PwmChannelForGpio s gpio with
  | none =>
    refine failsClean_of_eq ?_
    simp only [pwmCall, bmxEmbeddedPwmDeinitPin, hlookup]
  | some c =>
    intro hfails
    simp only [PwmCall.Fails, bmxEmbeddedPwmDeinitPin, hlookup, bmxEsp32PwmReleaseChannel] at hfails
    by_cases hrelease : release = espOk
    · simp only [hrelease, decide_true, Bool.true_eq_false, if_false] at hfails
      exact absurd hfails (by decide)
    · -- the channel has been stopped, and is still the pin's
      have hasked := ((asked_issue s (.stop c (if (s.channels c).inverted then 1 else 0))).trans
        (asked_issue _ (.deconfigure c))).becomes (c := c)
      simp only [pwmCall, bmxEmbeddedPwmDeinitPin, hlookup, bmxEsp32PwmReleaseChannel, hrelease,
        decide_false, if_true, PwmCall.gpio]
      rw [hasked.record_eq hlookup, record_some hlookup]
      exact ⟨rfl, nofun⟩

end PwmState

open PwmState

/-- **A failing call leaves its pin as it was exactly if it is one that keeps it.** -/
theorem pwm_failure (t : PwmTarget) (s : PwmState t) (h : (pwmMachine t).Reachable s)
    (a : PwmCall) : s.FailsClean a ↔ a.Keeps s := by
  have hallocated := allocated_reachable h
  have hrunning := running_reachable h
  cases a with
  | initPin gpio frequency duty inverted r => exact hallocated.initPin_clean_iff hrunning inverted r
  | deinitPin gpio release => exact iff_of_true (s.deinitPin_clean gpio release) trivial
  | setPinFrequency gpio frequency r => exact hallocated.setPinFrequency_clean_iff hrunning r
  | setPinDuty gpio duty r => exact iff_of_true (s.setPinDuty_clean gpio duty r) trivial
  | setPinPolarity gpio inverted r =>
    exact iff_of_true (s.setPinPolarity_clean gpio inverted r) trivial
  | setPinEnabled gpio enabled r =>
    exact iff_of_true (s.setPinEnabled_clean gpio enabled r) trivial

/-- Pin 4 runs at 1 kHz. -/
def pwmPinRunning : PwmState twoPwmTimers :=
  pwmCall (pwmReset twoPwmTimers) (.initPin 4 1000 0 0 {})

/-- The timer cannot be configured for another frequency. -/
theorem pwm_failure_refused :
    (pwmCall pwmPinRunning (.setPinFrequency 4 2000 { timer := { config := espFail } })).record 4 =
      pwmPinRunning.record 4 := by
  have hclean := (pwm_failure twoPwmTimers pwmPinRunning (.step (.init rfl) trivial rfl)
    (.setPinFrequency 4 2000 { timer := { config := espFail } })).mpr
    fun _ _ => .inr (.inr (.inr (.inl (by decide))))
  exact (hclean rfl).1

/-- The timer runs at 2 kHz, and the duty cannot be written to the channel again. -/
theorem pwm_failure_retimed :
    ∃ (t : PwmTarget) (s : PwmState t), (pwmMachine t).Reachable s ∧
      (s.record 4).map PwmRecord.requestedFrequency = some 1000 ∧
      ∃ a : PwmCall, a.gpio = 4 ∧ a.Fails s ∧
        ((pwmCall s a).record 4).map PwmRecord.requestedFrequency = some 2000 ∧
        ¬ s.FailsClean a := by
  refine ⟨twoPwmTimers, pwmPinRunning, .step (.init rfl) trivial rfl, by decide,
    .setPinFrequency 4 2000 { duty := { updateDuty := espFail } }, rfl, rfl, by decide, ?_⟩
  intro hclean
  exact absurd (congrArg (Option.map PwmRecord.requestedFrequency) (hclean rfl).1) (by decide)

end Esp32Mod
