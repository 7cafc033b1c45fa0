/-
Esp32Mod/AdcUnits.lean

Which units of the converter are open.  The first channel of a unit opens it and the last one
closes it, so a unit should be open exactly while it has a configured channel.  `init_pin` opens
the unit and configures the channel in two calls, and does not close the unit again when the
second one fails.

Main results:

* `adc_units` — as long as no `init_pin` strands a unit, the units are those of the configured
  channels, and giving back every pin closes them all; the first `init_pin` that does ends it;
* `adc_units_stranded` — such an `init_pin` shuts the entropy source out.
-/
import Esp32Mod.Adc
import Mathlib.Data.Finset.Basic

namespace Esp32Mod

open StepMachine Machine

variable {t : AdcTarget}

/-- A unit is open if and only if one of its channels is configured. -/
def AdcState.Owned (s : AdcState t) : Prop :=
  ∀ unit, s.units unit = true ↔ ∃ c, s.configured (unit, c) = true

/-- An `init_pin` that opens a unit for a channel that cannot be configured. -/
def AdcCall.Strands (s : AdcState t) : AdcCall → Prop
  | .initPin gpio r => ∃ channel, t.channelOf gpio = some channel ∧
      s.internalEntropyEnabled = false ∧ s.configured channel = false ∧
      s.Strands channel (bmxEsp32AdcDefaultAttenuation t) r
  | _ => False

/-! ### The pins that are held -/

/-- Beside the state, the pins that `init_pin` has returned 1 for, and `deinit_pin` not since. -/
structure AdcSession (t : AdcTarget) where
  state : AdcState t
  held : Finset UInt32

/-- A call, and the pins that have been initialized and not given back. -/
def adcSessionCall (s : AdcSession t) (a : AdcCall) : AdcSession t where
  state := adcCall s.state a
  held := match a with
    | .initPin gpio r =>
      if (bmxEmbeddedAdcInitPin s.state gpio r).1 = 1 then insert gpio s.held else s.held
    | .deinitPin gpio delUnit =>
      if (bmxEmbeddedAdcDeinitPin s.state gpio delUnit).1 = 1 then s.held.erase gpio else s.held
    | _ => s.held

/-- Calls of the application, in any order. -/
def adcSessionMachine (t : AdcTarget) : Machine (AdcSession t) AdcCall where
  init s := s = ⟨adcReset t, ∅⟩
  step s a := some (adcSessionCall s a)

namespace AdcState

variable {s s' : AdcState t} {channel : AdcChannel t} {gpio : UInt32}

/-! ### What the two calls do to the tables -/

/-- How `init_pin` can end. -/
inductive Inits (s : AdcState t) (gpio : UInt32) (r : AdcConfigureResults)
    (result : Int32 × AdcState t) : Prop
  | refused (hok : ¬ (AdcCall.initPin gpio r).Strands s) (hfailed : result.1 = 0)
      (hunits : result.2.units = s.units) (hconfigured : result.2.configured = s.configured)
  | stranded (channel : AdcChannel t) (hstrands : (AdcCall.initPin gpio r).Strands s)
      (hclosed : s.units channel.1 = false) (hfailed : result.1 = 0)
      (hunits : result.2.units = Function.update s.units channel.1 true)
      (hconfigured : result.2.configured = s.configured)
  | done (channel : AdcChannel t) (hchannel : t.channelOf gpio = some channel)
      (hok : ¬ (AdcCall.initPin gpio r).Strands s) (hdone : result.1 = 1)
      (hunits : result.2.units = Function.update s.units channel.1 true)
      (hconfigured : result.2.configured = Function.update s.configured channel true)

/-- The pin determines the channel of the condition. -/
theorem strands_iff (s : AdcState t) {gpio : UInt32} {channel : AdcChannel t}
    (hchannel : t.channelOf gpio = some channel) (r : AdcConfigureResults) :
    (AdcCall.initPin gpio r).Strands s ↔ s.internalEntropyEnabled = false ∧
      s.configured channel = false ∧ s.Strands channel (bmxEsp32AdcDefaultAttenuation t) r := by
  constructor
  · rintro ⟨d, hd, h⟩
    obtain rfl := Option.some.inj (hchannel.symm.trans hd)
    exact h
  · exact fun h => ⟨channel, hchannel, h⟩

theorem initPin_cases (hopened : ∀ channel, s.configured channel = true →
    s.units channel.1 = true) (gpio : UInt32) (r : AdcConfigureResults) :
    s.Inits gpio r (bmxEmbeddedAdcInitPin s gpio r) := by
  unfold bmxEmbeddedAdcInitPin
  rw [pinMapping_eq]
  cases hchannel : t.channelOf gpio with
  | none =>
    refine .refused ?_ rfl (s.looked_units gpio) (s.looked_configured gpio)
    rintro ⟨channel, hsome, _⟩
    cases hchannel.symm.trans hsome
  | some channel =>
    have hstrands := s.strands_iff hchannel r
    simp only [looked_internalEntropyEnabled, looked_configured]
    split
    next hentropy =>
      refine .refused ?_ rfl (s.looked_units gpio) (s.looked_configured gpio)
      rw [hstrands]
      exact fun h => absurd (hentropy.symm.trans h.1) (by decide)
    next hquiet =>
    split
    next hwas =>
      refine .done channel hchannel ?_ rfl ?_ ?_
      · rw [hstrands]
        exact fun h => absurd (hwas.symm.trans h.2.1) (by decide)
      · show (s.looked gpio).units = _
        rw [looked_units, ← hopened channel hwas, Function.update_eq_self]
      · show (s.looked gpio).configured = _
        rw [looked_configured, ← hwas, Function.update_eq_self]
    next hnew =>
    -- the lookup only logs, so both conditions speak of the same tables
    have hsame : (s.looked gpio).Strands channel (bmxEsp32AdcDefaultAttenuation t) r ↔
        (AdcCall.initPin gpio r).Strands s := by
      rw [hstrands, Strands, looked_units]
      exact ⟨fun h => ⟨Bool.eq_false_iff.mpr hquiet, Bool.eq_false_iff.mpr hnew, h⟩,
        fun h => h.2.2⟩
    have hcases := (s.looked gpio).configure_cases channel (bmxEsp32AdcDefaultAttenuation t) r
    generalize bmxEsp32AdcConfigure (s.looked gpio) channel (bmxEsp32AdcDefaultAttenuation t) r =
      result at hcases ⊢
    obtain ⟨done, s'⟩ := result
    cases hcases with
    | refused hok hfailed hunits hconfigured =>
      rw [looked_units] at hunits
      rw [looked_configured] at hconfigured
      obtain rfl : done = false := hfailed
      exact .refused (fun h => hok (hsame.mpr h)) rfl hunits hconfigured
    | stranded hstrand hfailed hunits hconfigured =>
      have hclosed := hstrand.2.1
      rw [looked_units] at hunits hclosed
      rw [looked_configured] at hconfigured
      obtain rfl : done = false := hfailed
      exact .stranded channel (hsame.mp hstrand) hclosed rfl hunits hconfigured
    | done hok hdone hunits hconfigured =>
      rw [looked_units] at hunits
      rw [looked_configured] at hconfigured
      obtain rfl : done = true := hdone
      exact .done channel hchannel (fun h => hok (hsame.mpr h)) rfl hunits hconfigured

/-- How `deinit_pin` can end. -/
inductive Deinits (s : AdcState t) (gpio : UInt32) (result : Int32 × AdcState t) : Prop
  | kept (hfailed : result.1 = 0) (hunits : result.2.units = s.units)
      (hconfigured : result.2.configured = s.configured)
  | left (channel : AdcChannel t) (hchannel : t.channelOf gpio = some channel)
      (hdone : result.1 = 1)
      (hleft : ∃ c, Function.update s.configured channel false (channel.1, c) = true)
      (hunits : result.2.units = s.units)
      (hconfigured : result.2.configured = Function.update s.configured channel false)
  | last (channel : AdcChannel t) (hchannel : t.channelOf gpio = some channel)
      (hdone : result.1 = 1)
      (hlast : ¬ ∃ c, Function.update s.configured channel false (channel.1, c) = true)
      (hunits : result.2.units = Function.update s.units channel.1 false)
      (hconfigured : result.2.configured = Function.update s.configured channel false)

theorem deinitPin_cases (s : AdcState t) (gpio : UInt32) (delUnit : EspErr) :
    s.Deinits gpio (bmxEmbeddedAdcDeinitPin s gpio delUnit) := by
  unfold bmxEmbeddedAdcDeinitPin
  rw [pinMapping_eq]
  cases hchannel : t.channelOf gpio with
  | none => exact .kept rfl (s.looked_units gpio) (s.looked_configured gpio)
  | some channel =>
    simp only [looked_configured]
    split
    · exact .kept rfl (s.looked_units gpio) (s.looked_configured gpio)
    next hwas =>
    rw [Bool.not_eq_false] at hwas
    have hunits := ((s.looked gpio).deleteCalibration_units channel).trans (s.looked_units gpio)
    have hconfigured := ((s.looked gpio).deleteCalibration_configured channel).trans
      (s.looked_configured gpio)
    generalize bmxEsp32AdcDeleteCalibration (s.looked gpio) channel = s' at *
    have hany : ((List.finRange _).any fun candidate =>
        (s'.setConfigured channel false).configured (channel.1, candidate)) = true ↔
          ∃ c, Function.update s.configured channel false (channel.1, c) = true := by
      rw [← hconfigured, List.any_eq_true]
      exact ⟨fun ⟨c, _, hc⟩ => ⟨c, hc⟩, fun ⟨c, hc⟩ => ⟨c, List.mem_finRange c, hc⟩⟩
    have hfewer : (s'.setConfigured channel false).configured =
        Function.update s.configured channel false := by
      rw [← hconfigured]
      rfl
    split
    next hleft => exact .left channel hchannel rfl (hany.mp hleft) hunits hfewer
    next hlast =>
    split
    · refine .kept rfl hunits ?_
      -- the channel is configured again
      show Function.update (s'.setConfigured channel false).configured channel true = _
      rw [hfewer, Function.update_idem, ← hwas, Function.update_eq_self]
    · refine .last channel hchannel rfl (fun h => hlast (hany.mpr h)) ?_ hfewer
      show Function.update s'.units channel.1 false = _
      rw [hunits]

/-- `set_attenuation` of a channel whose unit is open. -/
theorem setAttenuation_tables (hopened : ∀ channel, s.configured channel = true →
    s.units channel.1 = true) (gpio : UInt32) (attenuation : Int32) (r : AdcConfigureResults) :
    (bmxEsp32AdcSetAttenuation s gpio attenuation r).2.units = s.units ∧
      (bmxEsp32AdcSetAttenuation s gpio attenuation r).2.configured = s.configured := by
  unfold bmxEsp32AdcSetAttenuation
  split
  · exact ⟨rfl, rfl⟩
  rw [pinMapping_eq]
  cases t.channelOf gpio with
  | none => exact ⟨s.looked_units gpio, s.looked_configured gpio⟩
  | some channel =>
    simp only [looked_configured]
    split
    · exact ⟨s.looked_units gpio, s.looked_configured gpio⟩
    next hwas =>
    rw [Bool.not_eq_false] at hwas
    have hopen := hopened channel hwas
    have htables : (bmxEsp32AdcConfigure (s.looked gpio) channel attenuation r).2.units =
        s.units ∧ (bmxEsp32AdcConfigure (s.looked gpio) channel attenuation r).2.configured =
          s.configured := by
      cases (s.looked gpio).configure_cases channel attenuation r with
      | refused _ _ hunits hconfigured =>
        exact ⟨hunits.trans (s.looked_units gpio), hconfigured.trans (s.looked_configured gpio)⟩
      | stranded hstrands =>
        -- a unit that is open cannot be stranded
        have hclosed := hstrands.2.1
        rw [looked_units, hopen] at hclosed
        cases hclosed
      | done _ _ hunits hconfigured =>
        rw [hunits, hconfigured, looked_units, looked_configured]
        constructor
        · rw [← hopen, Function.update_eq_self]
        · rw [← hwas, Function.update_eq_self]
    split
    · exact htables
    · exact ⟨(deleteCalibration_units _ channel).trans htables.1,
        (deleteCalibration_configured _ channel).trans htables.2⟩

theorem readRaw_tables (s : AdcState t) (gpio : UInt32) (stored : Bool) (r : AdcReadResults) :
    (bmxEmbeddedAdcReadRaw s gpio stored r).2.units = s.units ∧
      (bmxEmbeddedAdcReadRaw s gpio stored r).2.configured = s.configured := by
  have hlooked := And.intro (s.looked_units gpio) (s.looked_configured gpio)
  unfold bmxEmbeddedAdcReadRaw
  split
  · exact ⟨rfl, rfl⟩
  rw [pinMapping_eq]
  cases t.channelOf gpio with
  | none => exact hlooked
  | some channel =>
    dsimp only
    split
    · exact hlooked
    · exact hlooked

theorem readMillivolts_tables (s : AdcState t) (gpio : UInt32) (stored : Bool)
    (r : AdcReadResults) : (bmxEsp32AdcReadMillivolts s gpio stored r).2.units = s.units ∧
      (bmxEsp32AdcReadMillivolts s gpio stored r).2.configured = s.configured := by
  have hlooked := And.intro (s.looked_units gpio) (s.looked_configured gpio)
  unfold bmxEsp32AdcReadMillivolts
  split
  · exact ⟨rfl, rfl⟩
  rw [pinMapping_eq]
  cases t.channelOf gpio with
  | none => exact hlooked
  | some channel =>
    dsimp only
    split
    · exact hlooked
    have hensured := (s.looked gpio).ensureCalibration_tables channel r.calibration
    have htables := And.intro (hensured.1.trans hlooked.1) (hensured.2.trans hlooked.2)
    split
    · exact htables
    split
    · exact htables
    · exact htables

theorem random_tables (s : AdcState t) :
    ((bmxEsp32RandomEnableInternalEntropy s).units = s.units ∧
      (bmxEsp32RandomEnableInternalEntropy s).configured = s.configured) ∧
    (bmxEsp32RandomDisableInternalEntropy s).units = s.units ∧
      (bmxEsp32RandomDisableInternalEntropy s).configured = s.configured := by
  unfold bmxEsp32RandomEnableInternalEntropy bmxEsp32RandomDisableInternalEntropy
  constructor <;> split <;> exact ⟨rfl, rfl⟩

/-! ### Ownership -/

theorem Owned.opened (h : s.Owned) (channel : AdcChannel t)
    (hchannel : s.configured channel = true) : s.units channel.1 = true :=
  (h channel.1).mpr ⟨channel.2, hchannel⟩

theorem Owned.of_tables (h : s.Owned)
    (htables : s'.units = s.units ∧ s'.configured = s.configured) : s'.Owned := by
  intro unit
  rw [htables.1, htables.2]
  exact h unit

/-- One channel changes, and its unit with it. -/
theorem Owned.change {opened value : Bool} (h : s.Owned)
    (hunits : s'.units = Function.update s.units channel.1 opened)
    (hconfigured : s'.configured = Function.update s.configured channel value)
    (hiff : opened = true ↔ ∃ c, s'.configured (channel.1, c) = true) : s'.Owned := by
  intro unit
  rw [hunits]
  by_cases hunit : unit = channel.1
  · rw [hunit, Function.update_self]
    exact hiff
  · rw [Function.update_of_ne hunit, h unit, hconfigured]
    have hother : ∀ c, ((unit, c) : AdcChannel t) ≠ channel :=
      fun c heq => hunit (congrArg Prod.fst heq)
    simp only [Function.update_of_ne (hother _)]

theorem Owned.initPin_iff (h : s.Owned) (gpio : UInt32) (r : AdcConfigureResults) :
    (bmxEmbeddedAdcInitPin s gpio r).2.Owned ↔ ¬ (AdcCall.initPin gpio r).Strands s := by
  cases initPin_cases h.opened gpio r with
  | refused hok _ hunits hconfigured =>
    exact iff_of_true (h.of_tables ⟨hunits, hconfigured⟩) hok
  | stranded channel hstrands hclosed _ hunits hconfigured =>
    refine iff_of_false ?_ (not_not.mpr hstrands)
    intro howned
    -- the unit is open, and had no channel before
    have hopen : (bmxEmbeddedAdcInitPin s gpio r).2.units channel.1 = true := by
      rw [hunits, Function.update_self]
    obtain ⟨c, hc⟩ := (howned channel.1).mp hopen
    rw [hconfigured] at hc
    exact absurd (hclosed.symm.trans (h.opened (channel.1, c) hc)) (by decide)
  | done channel _ hok _ hunits hconfigured =>
    refine iff_of_true (h.change hunits hconfigured (iff_of_true rfl ⟨channel.2, ?_⟩)) hok
    rw [hconfigured]
    exact Function.update_self _ _ _

theorem Owned.deinitPin (h : s.Owned) (gpio : UInt32) (delUnit : EspErr) :
    (bmxEmbeddedAdcDeinitPin s gpio delUnit).2.Owned := by
  cases s.deinitPin_cases gpio delUnit with
  | kept _ hunits hconfigured => exact h.of_tables ⟨hunits, hconfigured⟩
  | left channel _ _ hleft hunits hconfigured =>
    have hopen : s.units channel.1 = true := by
      obtain ⟨c, hc⟩ := hleft
      by_cases heq : (channel.1, c) = channel
      · rw [heq, Function.update_self] at hc
        cases hc
      · rw [Function.update_of_ne heq] at hc
        exact h.opened (channel.1, c) hc
    have hsame : s.units = Function.update s.units channel.1 true := by
      rw [← hopen, Function.update_eq_self]
    refine h.change (hunits.trans hsame) hconfigured ?_
    rw [hconfigured]
    exact iff_of_true rfl hleft
  | last channel _ _ hlast hunits hconfigured =>
    refine h.change hunits hconfigured ?_
    rw [hconfigured]
    exact iff_of_false (by decide) hlast

/-- **A call keeps ownership if and only if it does not strand a unit.** -/
theorem Owned.call_iff (h : s.Owned) (a : AdcCall) : (adcCall s a).Owned ↔ ¬ a.Strands s := by
  cases a with
  | initPin gpio r => exact h.initPin_iff gpio r
  | deinitPin gpio delUnit => exact iff_of_true (h.deinitPin gpio delUnit) not_false
  | readRaw gpio stored r => exact iff_of_true (h.of_tables (s.readRaw_tables gpio stored r)) not_false
  | setAttenuation gpio attenuation r =>
    exact iff_of_true (h.of_tables (setAttenuation_tables h.opened gpio attenuation r)) not_false
  | readMillivolts gpio stored r =>
    exact iff_of_true (h.of_tables (s.readMillivolts_tables gpio stored r)) not_false
  | enableInternalEntropy => exact iff_of_true (h.of_tables s.random_tables.1) not_false
  | disableInternalEntropy => exact iff_of_true (h.of_tables s.random_tables.2) not_false

end AdcState

/-! ### The pins that are held -/

/-- Every configured channel is that of a pin that is held. -/
def AdcSession.Covered (s : AdcSession t) : Prop :=
  ∀ channel, s.state.configured channel = true → ∃ gpio ∈ s.held, t.channelOf gpio = some channel

namespace AdcSession

variable {s : AdcSession t}

theorem Covered.of_configured {s' : AdcSession t} (h : s.Covered) (hheld : s'.held = s.held)
    (hconfigured : s'.state.configured = s.state.configured) : s'.Covered := by
  intro channel hchannel
  rw [hconfigured] at hchannel
  rw [hheld]
  exact h channel hchannel

theorem Covered.initPin (h : s.Covered) (howned : s.state.Owned) (gpio : UInt32)
    (r : AdcConfigureResults) : (adcSessionCall s (.initPin gpio r)).Covered := by
  have hheld : (adcSessionCall s (.initPin gpio r)).held =
      if (bmxEmbeddedAdcInitPin s.state gpio r).1 = 1 then insert gpio s.held else s.held := rfl
  cases AdcState.initPin_cases howned.opened gpio r with
  | refused _ hfailed _ hconfigured =>
    rw [hfailed, if_neg (by decide)] at hheld
    exact h.of_configured hheld hconfigured
  | stranded _ _ _ hfailed _ hconfigured =>
    rw [hfailed, if_neg (by decide)] at hheld
    exact h.of_configured hheld hconfigured
  | done channel hchannel _ hdone _ hconfigured =>
    rw [hdone, if_pos rfl] at hheld
    intro d hd
    have hd' : Function.update s.state.configured channel true d = true := hconfigured ▸ hd
    rw [hheld]
    by_cases hdc : d = channel
    · exact ⟨gpio, Finset.mem_insert_self _ _, by rw [hdc, hchannel]⟩
    · rw [Function.update_of_ne hdc] at hd'
      obtain ⟨gpio', hgpio', heq⟩ := h d hd'
      exact ⟨gpio', Finset.mem_insert_of_mem hgpio', heq⟩

theorem Covered.deinitPin_done {channel : AdcChannel t} {gpio : UInt32} {delUnit : EspErr}
    (h : s.Covered) (hchannel : t.channelOf gpio = some channel)
    (hdone : (bmxEmbeddedAdcDeinitPin s.state gpio delUnit).1 = 1)
    (hconfigured : (bmxEmbeddedAdcDeinitPin s.state gpio delUnit).2.configured =
      Function.update s.state.configured channel false) :
    (adcSessionCall s (.deinitPin gpio delUnit)).Covered := by
  have hheld : (adcSessionCall s (.deinitPin gpio delUnit)).held = s.held.erase gpio := if_pos hdone
  intro d hd
  have hd' : Function.update s.state.configured channel false d = true := hconfigured ▸ hd
  by_cases hdc : d = channel
  · rw [hdc, Function.update_self] at hd'
    cases hd'
  · rw [Function.update_of_ne hdc] at hd'
    obtain ⟨gpio', hgpio', heq⟩ := h d hd'
    rw [hheld]
    refine ⟨gpio', Finset.mem_erase.mpr ⟨?_, hgpio'⟩, heq⟩
    rintro rfl
    exact hdc (Option.some.inj (heq.symm.trans hchannel))

theorem Covered.deinitPin (h : s.Covered) (gpio : UInt32) (delUnit : EspErr) :
    (adcSessionCall s (.deinitPin gpio delUnit)).Covered := by
  cases s.state.deinitPin_cases gpio delUnit with
  | kept hfailed _ hconfigured =>
    apply h.of_configured _ hconfigured
    show (if (bmxEmbeddedAdcDeinitPin s.state gpio delUnit).1 = 1 then _ else s.held) = _
    rw [hfailed, if_neg (by decide)]
  | left _ hchannel hdone _ _ hconfigured => exact h.deinitPin_done hchannel hdone hconfigured
  | last _ hchannel hdone _ _ hconfigured => exact h.deinitPin_done hchannel hdone hconfigured

theorem Covered.call (h : s.Covered) (howned : s.state.Owned) (a : AdcCall) :
    (adcSessionCall s a).Covered := by
  cases a with
  | initPin gpio r => exact h.initPin howned gpio r
  | deinitPin gpio delUnit => exact h.deinitPin gpio delUnit
  | readRaw gpio stored r => exact h.of_configured rfl (s.state.readRaw_tables gpio stored r).2
  | setAttenuation gpio attenuation r =>
    exact h.of_configured rfl (AdcState.setAttenuation_tables howned.opened gpio attenuation r).2
  | readMillivolts gpio stored r =>
    exact h.of_configured rfl (s.state.readMillivolts_tables gpio stored r).2
  | enableInternalEntropy => exact h.of_configured rfl s.state.random_tables.1.2
  | disableInternalEntropy => exact h.of_configured rfl s.state.random_tables.2.2

end AdcSession

/-- With every unit closed the entropy source can be switched on. -/
theorem enableInternalEntropy_of_closed {s : AdcState t} (h : ∀ unit, s.units unit = false) :
    (bmxEsp32RandomEnableInternalEntropy s).internalEntropyEnabled = true := by
  unfold bmxEsp32RandomEnableInternalEntropy
  split
  next hguard =>
    rw [AdcState.anyInitialized_eq_false.mpr h] at hguard
    exact hguard.resolve_right (by decide)
  next => rfl

/-- **Ownership of the units.**  While no `init_pin` has stranded a unit, a unit is open if and
only if one of its channels is configured.  Then an `init_pin` that fails opens no unit unless it
strands one, with every pin given back all units are closed and the entropy source can be
switched on, and a call keeps ownership exactly when it strands no unit. -/
theorem adc_units (t : AdcTarget) (s : AdcSession t)
    (h : (adcSessionMachine t).ReachableIn (fun s a => ¬ a.Strands s.state) s) :
    s.state.Owned ∧
    (∀ gpio r, ¬ (AdcCall.initPin gpio r).Strands s.state →
      (bmxEmbeddedAdcInitPin s.state gpio r).1 = 0 →
      (bmxEmbeddedAdcInitPin s.state gpio r).2.units = s.state.units) ∧
    (s.held = ∅ → (∀ unit, s.state.units unit = false) ∧
      (bmxEsp32RandomEnableInternalEntropy s.state).internalEntropyEnabled = true) ∧
    ∀ a : AdcCall, (adcCall s.state a).Owned ↔ ¬ a.Strands s.state := by
  -- what is configured has been initialized and not given back
  have hs : s.state.Owned ∧ s.Covered := by
    apply h.invariant (I := fun s => s.state.Owned ∧ s.Covered)
    · rintro s rfl
      exact ⟨fun unit => ⟨nofun, fun ⟨_, hfalse⟩ => nomatch hfalse⟩, nofun⟩
    · rintro s a s' ⟨howned, hcovered⟩ hok hstep
      obtain rfl := Option.some.inj hstep
      exact ⟨(howned.call_iff a).mpr hok, hcovered.call howned a⟩
  obtain ⟨howned, hcovered⟩ := hs
  refine ⟨howned, ?_, ?_, howned.call_iff⟩
  · intro gpio r hok hfailed
    cases AdcState.initPin_cases howned.opened gpio r with
    | refused _ _ hunits _ => exact hunits
    | stranded _ hstrands => exact absurd hstrands hok
    | done _ _ _ hdone =>
      rw [hfailed] at hdone
      exact absurd hdone (by decide)
  · intro hheld
    have hclosed : ∀ unit, s.state.units unit = false := by
      intro unit
      rw [← Bool.not_eq_true, howned unit]
      rintro ⟨c, hc⟩
      obtain ⟨gpio, hgpio, _⟩ := hcovered _ hc
      rw [hheld] at hgpio
      exact absurd hgpio (Finset.notMem_empty gpio)
    exact ⟨hclosed, enableInternalEntropy_of_closed hclosed⟩

/-- Two pins of one unit, the first given back. -/
def oneOfTwoAdcPins : AdcSession oneAdcUnit :=
  adcSessionCall (adcSessionCall (adcSessionCall ⟨adcReset oneAdcUnit, ∅⟩ (.initPin 0 {}))
    (.initPin 1 {})) (.deinitPin 0 espOk)

theorem adc_units_one_left : oneOfTwoAdcPins.state.Owned := by
  refine (adc_units oneAdcUnit oneOfTwoAdcPins
    (.step (.step (.step (.init rfl) ?_ rfl) ?_ rfl) ?_ rfl)).1
  -- the driver configures both channels
  · rintro ⟨_, _, _, _, _, _, _, hfailed⟩
    exact hfailed rfl
  · rintro ⟨_, _, _, _, _, _, _, hfailed⟩
    exact hfailed rfl
  · exact not_false

/-- The channel of the first pin cannot be configured. -/
def strandedAdcUnit : AdcSession oneAdcUnit :=
  adcSessionCall ⟨adcReset oneAdcUnit, ∅⟩ (.initPin 0 { configChannel := espErrInvalidArg })

/-- Nobody holds a pin, and yet the unit is open and the entropy source refused. -/
theorem adc_units_stranded : (adcSessionMachine oneAdcUnit).Reachable strandedAdcUnit ∧
    ¬ strandedAdcUnit.state.Owned ∧ strandedAdcUnit.held = ∅ ∧
    (bmxEsp32RandomEnableInternalEntropy strandedAdcUnit.state).internalEntropyEnabled = false := by
  refine ⟨.step (.init rfl) trivial rfl, ?_, by decide, by decide⟩
  intro howned
  obtain ⟨c, hc⟩ := (howned ⟨0, by decide⟩).mp (by decide)
  exact nomatch hc

end Esp32Mod
