/-
Esp32Mod/AdcCalibration.lean

Calibration is never stale.  The handle of a channel is created lazily, by a read, for the
attenuation that is recorded then; `set_attenuation` records another one before it deletes the
handle, and `deinit_pin` deletes the handle before it knows whether it will succeed.

`AdcTables.Sound` holds between any two of the functions, also within a call: what is recorded has
been accepted, a handle is of the scheme beside it, and every handle is accounted for.
`AdcTables.Fresh`, between the calls, says moreover that no handle is of another attenuation.

Main results:

* `AdcTables.Fresh.call` — every call leaves handles of the present configuration only;
* `AdcTables.Fresh.converts` — a reading is converted by such a handle;
* `adc_calibration_fresh` — both in every run, and every handle is deleted once, by the function of
  its scheme, before it is forgotten.
-/
import Esp32Mod.AdcTables

namespace Esp32Mod

open StepMachine Machine

variable {t : AdcTarget}

/-! ### What the log says -/

/-- The attenuation that each channel is configured with, by one event more. -/
def AdcEvent.accept (event : AdcEvent t) (atten : AdcChannel t → Option Int32) :
    AdcChannel t → Option Int32 :=
  match event with
  | .accepted channel native => Function.update atten channel (some native)
  -- a unit is deleted with its configuration
  | .unitDeleted unit => fun channel => if channel.1 = unit then none else atten channel
  | .cali _ | .reading .. | .converted .. => atten

/-- What `adc_oneshot_config_channel` has accepted last for each channel of a unit that has not
been deleted since. -/
def lastAccepted (events : List (AdcEvent t)) : AdcChannel t → Option Int32 :=
  events.foldl (fun atten event => event.accept atten) fun _ => none

theorem lastAccepted_append (events events' : List (AdcEvent t)) :
    lastAccepted (events ++ events') =
      events'.foldl (fun atten event => event.accept atten) (lastAccepted events) :=
  List.foldl_append

/-- What the event says of handles, if it says something. -/
def AdcEvent.handleEvent : AdcEvent t → Option (HandleLife.Event (AdcCaliHandle t) AdcCaliScheme)
  | .cali event => some event
  | _ => none

/-- What has happened to the handles. -/
def handleEvents (events : List (AdcEvent t)) :
    List (HandleLife.Event (AdcCaliHandle t) AdcCaliScheme) :=
  events.filterMap AdcEvent.handleEvent

theorem handleEvents_append (events events' : List (AdcEvent t)) :
    handleEvents (events ++ events') = handleEvents events ++ handleEvents events' :=
  List.filterMap_append

theorem handleEvents_append_of_none {event : AdcEvent t} (h : event.handleEvent = none)
    (events : List (AdcEvent t)) : handleEvents (events ++ [event]) = handleEvents events := by
  simp [handleEvents, h]

/-- A handle has the number of events that precede its creation. -/
def Numbered (events : List (AdcEvent t)) : Prop :=
  ∀ event ∈ handleEvents events, event.handle.number < events.length

theorem Numbered.append {events new : List (AdcEvent t)} (h : Numbered events)
    (hnew : ∀ event ∈ handleEvents new, event.handle.number < (events ++ new).length) :
    Numbered (events ++ new) := by
  intro event hmem
  rw [handleEvents_append] at hmem
  rcases List.mem_append.mp hmem with hmem | hmem
  · have hlt := h event hmem
    rw [List.length_append]
    omega
  · exact hnew event hmem

theorem Numbered.append_of_none {events : List (AdcEvent t)} (h : Numbered events)
    {event : AdcEvent t} (hnone : event.handleEvent = none) : Numbered (events ++ [event]) := by
  apply h.append
  rw [← List.nil_append [event], handleEvents_append_of_none hnone]
  exact nofun

namespace AdcTables

variable {s s' : AdcTables t} {channel : AdcChannel t} {handle : AdcCaliHandle t}

/-! ### What each function does -/

theorem ensureUnit_eq (s : AdcTables t) (unit : Fin t.periphNum) (newUnit : EspErr) :
    ∃ units, (s.bmxEsp32AdcEnsureUnit unit newUnit).2 = { s with units := units } := by
  unfold bmxEsp32AdcEnsureUnit
  split
  · exact ⟨_, rfl⟩
  split
  · exact ⟨_, rfl⟩
  · exact ⟨_, rfl⟩

/-- `configure` fails with the tables of the channels as they were, or it records what has been
accepted. -/
theorem configure_cases (s : AdcTables t) (channel : AdcChannel t) (attenuation : Int32)
    (r : AdcConfigureResults) :
    (∃ units, s.bmxEsp32AdcConfigure channel attenuation r = (false, { s with units := units })) ∨
    0 ≤ bmxEsp32AdcAttenuationValue t attenuation ∧
      ∃ units, s.bmxEsp32AdcConfigure channel attenuation r = (true, { s with
        units := units
        configured := Function.update s.configured channel true
        attenuation := Function.update s.attenuation channel attenuation.toUInt32.toUInt8
        events := s.events ++ [.accepted channel (bmxEsp32AdcAttenuationValue t attenuation)] }) := by
  unfold bmxEsp32AdcConfigure
  obtain ⟨units, hunits⟩ := s.ensureUnit_eq channel.1 r.newUnit
  generalize s.bmxEsp32AdcEnsureUnit channel.1 r.newUnit = result at hunits ⊢
  obtain ⟨ensured, s'⟩ := result
  obtain rfl := hunits
  dsimp only
  split
  · exact .inl ⟨s.units, rfl⟩
  next hnative =>
  split
  · exact .inl ⟨units, rfl⟩
  split
  · exact .inl ⟨units, rfl⟩
  · exact .inr ⟨Int32.not_lt.mp hnative, units, rfl⟩

/-- How `ensure_calibration` can end. -/
inductive Calibrates (s : AdcTables t) (channel : AdcChannel t)
    (result : Bool × AdcTables t) : Prop
  | kept (handle : AdcCaliHandle t) (hheld : s.calibration channel = some handle)
      (heq : result = (true, s))
  | failed (heq : result = (false, s))
  | created (handle : AdcCaliHandle t) (hempty : s.calibration channel = none)
      (hnumber : handle.number = s.events.length) (hsupported : t.supports handle.scheme = true)
      (hfits : handle.Fits channel) (hatten : handle.atten = s.recordedAtten channel)
      (heq : result = (true, { s with
        calibration := Function.update s.calibration channel (some handle)
        calibrationScheme := Function.update s.calibrationScheme channel handle.scheme.code
        events := s.events ++ [.cali (.created handle)] }))

theorem tryScheme_failed {scheme : UInt8} {config : AdcCaliConfig t} {result : EspErr}
    (h : result ≠ espOk) : s.adcTryScheme channel scheme config result = (false, s) :=
  if_neg h

theorem tryScheme_created (hempty : s.calibration channel = none) (scheme : UInt8)
    (config : AdcCaliConfig t) {result : EspErr} (h : result = espOk) :
    s.adcTryScheme channel scheme config result = (true, { s with
      calibration := Function.update s.calibration channel (some ⟨s.events.length, config⟩)
      calibrationScheme := Function.update s.calibrationScheme channel scheme
      events := s.events ++ [.cali (.created ⟨s.events.length, config⟩)] }) := by
  rw [adcTryScheme, if_pos h]
  simp only [setCalibration, log, hempty]

theorem ensureCalibration_cases (s : AdcTables t) (channel : AdcChannel t)
    (r : AdcCalibrationResults) :
    s.Calibrates channel (s.bmxEsp32AdcEnsureCalibration channel r) := by
  unfold bmxEsp32AdcEnsureCalibration
  cases hempty : s.calibration channel with
  | some handle => exact .kept handle hempty (if_pos rfl)
  | none =>
  have hline : t.lineFittingSupported = true → s.Calibrates channel
      (s.adcTryScheme channel 2 (.lineFitting channel.1 (s.recordedAtten channel))
        r.lineFitting) := by
    intro hsupported
    by_cases hok : r.lineFitting = espOk
    · exact .created ⟨s.events.length, .lineFitting channel.1 (s.recordedAtten channel)⟩ hempty
        rfl hsupported rfl rfl (tryScheme_created hempty 2 _ hok)
    · exact .failed (tryScheme_failed hok)
  -- what is left to do when curve fitting is missing or has failed
  have hrest : s.Calibrates channel (if t.lineFittingSupported = true then
      s.adcTryScheme channel 2 (.lineFitting channel.1 (s.recordedAtten channel)) r.lineFitting
    else (false, s)) := by
    split
    next hsupported => exact hline hsupported
    next => exact .failed rfl
  by_cases hsupported : t.curveFittingSupported = true
  · by_cases hok : r.curveFitting = espOk
    · have hmade := tryScheme_created hempty 1
        (.curveFitting channel (s.recordedAtten channel)) hok
      simp only [hsupported, if_true, hmade]
      exact .created ⟨s.events.length, .curveFitting channel (s.recordedAtten channel)⟩ hempty
        rfl hsupported rfl rfl rfl
    · simp only [hsupported, if_true, tryScheme_failed hok]
      exact hrest
  · simp only [hsupported]
    exact hrest

theorem deleteCalibration_of_none (h : s.calibration channel = none) :
    s.bmxEsp32AdcDeleteCalibration channel = s := by
  rw [bmxEsp32AdcDeleteCalibration, h]

/-! ### What holds between the functions -/

/-- The attenuation of a configured channel is the one that has been accepted, a handle is of the
scheme that is recorded for its channel, and the log accounts for every handle. -/
structure Sound (s : AdcTables t) : Prop where
  accepted : ∀ channel, s.configured channel = true →
    lastAccepted s.events channel = some (s.recordedAtten channel)
  scheme : ∀ channel handle, s.calibration channel = some handle →
    t.supports handle.scheme = true ∧ s.calibrationScheme channel = handle.scheme.code ∧
      handle.Fits channel
  accounted : HandleLife.Accounted AdcCaliHandle.scheme s.calibration (handleEvents s.events)
  numbered : Numbered s.events

/-- The delete function of the handle's scheme is called, and no other. -/
theorem Sound.deleteCalibration_of_some (hs : s.Sound) (h : s.calibration channel = some handle) :
    s.bmxEsp32AdcDeleteCalibration channel = { s with
      calibration := Function.update s.calibration channel none
      calibrationScheme := Function.update s.calibrationScheme channel 0
      events := s.events ++
        [.cali (.deleted handle handle.scheme), .cali (.forgotten handle)] } := by
  obtain ⟨hsupported, hcode, -⟩ := hs.scheme channel handle h
  unfold bmxEsp32AdcDeleteCalibration
  cases hscheme : handle.scheme with
  | curveFitting =>
    rw [hscheme] at hsupported hcode
    have hcurve : t.curveFittingSupported = true ∧ s.calibrationScheme channel = 1 :=
      ⟨hsupported, hcode⟩
    simp [h, hcurve, setCalibration, log]
  | lineFitting =>
    rw [hscheme] at hsupported hcode
    have hline : t.lineFittingSupported = true ∧ s.calibrationScheme channel = 2 :=
      ⟨hsupported, hcode⟩
    simp [h, hline, setCalibration, log]

/-- Reading and converting change nothing that the invariant is about. -/
theorem Sound.log (hs : s.Sound) {event : AdcEvent t} (hnone : event.handleEvent = none)
    (haccept : event.accept (lastAccepted s.events) = lastAccepted s.events) :
    (s.log event).Sound := by
  refine ⟨?_, hs.scheme, ?_, hs.numbered.append_of_none hnone⟩
  · intro channel hconfigured
    show lastAccepted (s.events ++ [event]) channel = _
    rw [lastAccepted_append, List.foldl_cons, haccept]
    exact hs.accepted channel hconfigured
  · show HandleLife.Accounted _ _ (handleEvents (s.events ++ [event]))
    rw [handleEvents_append_of_none hnone]
    exact hs.accounted

/-- An attenuation with a native value fits the byte in which it is recorded. -/
theorem attenuationValue_recorded {attenuation : Int32}
    (h : 0 ≤ bmxEsp32AdcAttenuationValue t attenuation) :
    bmxEsp32AdcAttenuationValue t attenuation.toUInt32.toUInt8.toUInt32.toInt32 =
      bmxEsp32AdcAttenuationValue t attenuation := by
  have hknown : attenuation = 0 ∨ attenuation = 1 ∨ attenuation = 2 ∨ attenuation = 3 := by
    by_contra hunknown
    simp only [not_or] at hunknown
    obtain ⟨h0, h1, h2, h3⟩ := hunknown
    simp only [bmxEsp32AdcAttenuationValue, h0, h1, h2, h3, if_false] at h
    exact absurd h (by decide)
  rcases hknown with rfl | rfl | rfl | rfl <;> rfl

/-- The other channels keep what they were configured with. -/
theorem Sound.configure (hs : s.Sound) (channel : AdcChannel t) (attenuation : Int32)
    (r : AdcConfigureResults) : (s.bmxEsp32AdcConfigure channel attenuation r).2.Sound := by
  rcases s.configure_cases channel attenuation r with ⟨units, heq⟩ | ⟨hnative, units, heq⟩ <;>
    rw [heq]
  · exact ⟨hs.accepted, hs.scheme, hs.accounted, hs.numbered⟩
  refine ⟨?_, hs.scheme, ?_, hs.numbered.append_of_none rfl⟩
  · intro d hd
    show lastAccepted (s.events ++ [_]) d = some (bmxEsp32AdcAttenuationValue t
      (Function.update s.attenuation channel attenuation.toUInt32.toUInt8 d).toUInt32.toInt32)
    rw [lastAccepted_append]
    show Function.update _ channel _ d = _
    by_cases hdc : d = channel
    · rw [hdc, Function.update_self, Function.update_self, attenuationValue_recorded hnative]
    · rw [Function.update_of_ne hdc, Function.update_of_ne hdc]
      exact hs.accepted d ((Function.update_of_ne hdc ..).symm.trans hd)
  · show HandleLife.Accounted _ _ (handleEvents (s.events ++ [_]))
    rw [handleEvents_append_of_none rfl]
    exact hs.accounted

theorem Sound.ensureCalibration (hs : s.Sound) (channel : AdcChannel t)
    (r : AdcCalibrationResults) : (s.bmxEsp32AdcEnsureCalibration channel r).2.Sound := by
  cases s.ensureCalibration_cases channel r with
  | kept handle hheld heq =>
    rw [heq]
    exact hs
  | failed heq =>
    rw [heq]
    exact hs
  | created handle hempty hnumber hsupported hfits hatten heq =>
    rw [heq]
    -- the new handle has a number that no event has had
    have hnew : HandleLife.life handle (handleEvents s.events) = [] := by
      apply HandleLife.life_eq_nil
      rintro event hmem rfl
      exact absurd hnumber (hs.numbered event hmem).ne
    refine ⟨?_, ?_, ?_, ?_⟩
    · intro d hd
      show lastAccepted (s.events ++ [_]) d = _
      rw [lastAccepted_append]
      exact hs.accepted d hd
    · intro d other hd
      change Function.update s.calibration channel (some handle) d = some other at hd
      show _ ∧ Function.update s.calibrationScheme channel handle.scheme.code d = _ ∧ _
      by_cases hdc : d = channel
      · rw [hdc, Function.update_self] at hd
        obtain rfl := Option.some.inj hd
        rw [hdc, Function.update_self]
        exact ⟨hsupported, rfl, hfits⟩
      · rw [Function.update_of_ne hdc] at hd ⊢
        exact hs.scheme d other hd
    · show HandleLife.Accounted _ _ (handleEvents (s.events ++ [_]))
      rw [handleEvents_append]
      exact hs.accounted.create hempty hnew
    · refine hs.numbered.append ?_
      intro event hmem
      rw [List.mem_singleton.mp hmem, List.length_append]
      show handle.number < _
      rw [hnumber]
      exact Nat.lt_succ_self _

theorem Sound.deleteCalibration (hs : s.Sound) (channel : AdcChannel t) :
    (s.bmxEsp32AdcDeleteCalibration channel).Sound := by
  cases hheld : s.calibration channel with
  | none =>
    rw [deleteCalibration_of_none hheld]
    exact hs
  | some handle =>
    rw [hs.deleteCalibration_of_some hheld]
    -- the handle was created, so its number is an old one
    have hnumber : handle.number < s.events.length := by
      refine hs.numbered (.created handle) ?_
      have hmem : .created handle ∈ HandleLife.life handle (handleEvents s.events) := by
        rw [hs.accounted.held channel handle hheld]
        exact List.mem_cons_self
      exact (List.mem_filter.mp hmem).1
    refine ⟨?_, ?_, ?_, ?_⟩
    · intro d hd
      show lastAccepted (s.events ++ [_, _]) d = _
      rw [lastAccepted_append]
      exact hs.accepted d hd
    · intro d other hd
      change Function.update s.calibration channel none d = some other at hd
      show _ ∧ Function.update s.calibrationScheme channel 0 d = _ ∧ _
      -- a channel that still has a handle is another one
      have hdc : d ≠ channel := by
        rintro rfl
        rw [Function.update_self] at hd
        cases hd
      rw [Function.update_of_ne hdc] at hd ⊢
      exact hs.scheme d other hd
    · show HandleLife.Accounted _ _ (handleEvents (s.events ++ [_, _]))
      rw [handleEvents_append]
      exact hs.accounted.release hheld
    · refine hs.numbered.append ?_
      intro event hmem
      have hsame : event.handle = handle := by
        rcases List.mem_cons.mp hmem with rfl | hmem
        · rfl
        · rw [List.mem_singleton.mp hmem]
          rfl
      rw [hsame, List.length_append]
      exact Nat.lt_add_right 2 hnumber

theorem Sound.deleteCalibration_tables (hs : s.Sound) (channel : AdcChannel t) :
    (s.bmxEsp32AdcDeleteCalibration channel).configured = s.configured ∧
    (s.bmxEsp32AdcDeleteCalibration channel).attenuation = s.attenuation ∧
    (s.bmxEsp32AdcDeleteCalibration channel).calibration =
      Function.update s.calibration channel none := by
  cases hheld : s.calibration channel with
  | none =>
    rw [deleteCalibration_of_none hheld]
    exact ⟨rfl, rfl, (hheld ▸ Function.update_eq_self channel s.calibration).symm⟩
  | some handle =>
    rw [hs.deleteCalibration_of_some hheld]
    exact ⟨rfl, rfl, rfl⟩

/-! ### What holds between the calls -/

/-- A channel with a handle is configured, as the handle was created. -/
def Current (s : AdcTables t) (channel : AdcChannel t) : Prop :=
  ∀ handle, s.calibration channel = some handle →
    s.configured channel = true ∧ handle.atten = s.recordedAtten channel

/-- Each handle was made for the attenuation that is in force. -/
structure Fresh (s : AdcTables t) : Prop extends Sound s where
  current : ∀ channel, s.Current channel

/-- Without its handle a channel cannot be stale. -/
theorem Sound.fresh_deleteCalibration (hs : s.Sound) (channel : AdcChannel t)
    (hothers : ∀ d, d ≠ channel → s.Current d) :
    (s.bmxEsp32AdcDeleteCalibration channel).Fresh := by
  obtain ⟨hconfigured, hattenuation, hcalibration⟩ := hs.deleteCalibration_tables channel
  refine ⟨hs.deleteCalibration channel, ?_⟩
  intro d handle hd
  rw [hcalibration] at hd
  have hdc : d ≠ channel := by
    rintro rfl
    rw [Function.update_self] at hd
    cases hd
  rw [Function.update_of_ne hdc] at hd
  rw [hconfigured, recordedAtten, hattenuation]
  exact hothers d hdc handle hd

theorem configure_calibration (s : AdcTables t) (channel : AdcChannel t) (attenuation : Int32)
    (r : AdcConfigureResults) :
    (s.bmxEsp32AdcConfigure channel attenuation r).2.calibration = s.calibration := by
  rcases s.configure_cases channel attenuation r with ⟨units, heq⟩ | ⟨-, units, heq⟩ <;> rw [heq]

/-- `configure` can make stale only the channel it is for, and only when it succeeds. -/
theorem Current.configure {d : AdcChannel t} (h : s.Current d) {attenuation : Int32}
    {r : AdcConfigureResults}
    (hother : d ≠ channel ∨ (s.bmxEsp32AdcConfigure channel attenuation r).1 = false) :
    (s.bmxEsp32AdcConfigure channel attenuation r).2.Current d := by
  rcases s.configure_cases channel attenuation r with ⟨units, heq⟩ | ⟨-, units, heq⟩ <;>
    rw [heq] at hother ⊢
  · exact h
  · have hdc : d ≠ channel := hother.resolve_right Bool.noConfusion
    intro handle hheld
    show Function.update s.configured channel true d = true ∧ _ = bmxEsp32AdcAttenuationValue t
      (Function.update s.attenuation channel attenuation.toUInt32.toUInt8 d).toUInt32.toInt32
    rw [Function.update_of_ne hdc, Function.update_of_ne hdc]
    exact h handle hheld

theorem Fresh.log (hs : s.Fresh) {event : AdcEvent t} (hnone : event.handleEvent = none)
    (haccept : event.accept (lastAccepted s.events) = lastAccepted s.events) :
    (s.log event).Fresh :=
  ⟨hs.toSound.log hnone haccept, hs.current⟩

theorem Fresh.ensureCalibration (hs : s.Fresh) (hconfigured : s.configured channel = true)
    (r : AdcCalibrationResults) : (s.bmxEsp32AdcEnsureCalibration channel r).2.Fresh := by
  refine ⟨hs.toSound.ensureCalibration channel r, ?_⟩
  cases s.ensureCalibration_cases channel r with
  | kept handle hheld heq =>
    rw [heq]
    exact hs.current
  | failed heq =>
    rw [heq]
    exact hs.current
  | created handle hempty hnumber hsupported hfits hatten heq =>
    rw [heq]
    intro d other hd
    change Function.update s.calibration channel (some handle) d = some other at hd
    by_cases hdc : d = channel
    · rw [hdc, Function.update_self] at hd
      obtain rfl := Option.some.inj hd
      rw [hdc]
      exact ⟨hconfigured, hatten⟩
    · rw [Function.update_of_ne hdc] at hd
      exact hs.current d other hd

/-- A channel without a handle is no longer configured. -/
theorem Fresh.unconfigure (hs : s.Fresh) (hnone : s.calibration channel = none) :
    (s.setConfigured channel false).Fresh := by
  have hother : ∀ d, Function.update s.configured channel false d = true →
      s.configured d = true := by
    intro d hd
    by_cases hdc : d = channel
    · rw [hdc, Function.update_self] at hd
      cases hd
    · rwa [Function.update_of_ne hdc] at hd
  refine ⟨⟨fun d hd => hs.accepted d (hother d hd), hs.scheme, hs.accounted, hs.numbered⟩, ?_⟩
  intro d handle hd
  have hdc : d ≠ channel := by
    rintro rfl
    cases hnone.symm.trans hd
  obtain ⟨hconfigured, hatten⟩ := hs.current d handle hd
  exact ⟨(Function.update_of_ne hdc ..).trans hconfigured, hatten⟩

/-- A unit goes with the configuration of its channels, of which none is in use. -/
theorem Fresh.deleteUnit (hs : s.Fresh) {unit : Fin t.periphNum}
    (hunused : ∀ d : AdcChannel t, s.configured d = true → d.1 ≠ unit) :
    ((s.log (.unitDeleted unit)).setUnit unit false).Fresh := by
  refine ⟨⟨?_, hs.scheme, ?_, hs.numbered.append_of_none rfl⟩, hs.current⟩
  · intro d hd
    show lastAccepted (s.events ++ [_]) d = _
    rw [lastAccepted_append]
    show (if d.1 = unit then none else lastAccepted s.events d) = _
    rw [if_neg (hunused d hd)]
    exact hs.accepted d hd
  · show HandleLife.Accounted _ _ (handleEvents (s.events ++ [_]))
    rw [handleEvents_append_of_none rfl]
    exact hs.accounted

/-! ### Each operation -/

theorem Fresh.initPin (hs : s.Fresh) (gpio : UInt32) (lookup : Option (Int × Int))
    (r : AdcConfigureResults) : (s.bmxEmbeddedAdcInitPin gpio lookup r).2.Fresh := by
  unfold bmxEmbeddedAdcInitPin
  cases bmxEsp32AdcPinMapping t gpio lookup with
  | none => exact hs
  | some channel =>
    dsimp only
    split
    · exact hs
    split
    · exact hs
    next hnew =>
    refine ⟨hs.toSound.configure channel _ r, ?_⟩
    intro d
    by_cases hdc : d = channel
    · -- a channel that was not configured has no handle
      intro handle hd
      rw [configure_calibration] at hd
      rw [← hdc] at hnew
      exact absurd (hs.current d handle hd).1 hnew
    · exact (hs.current d).configure (.inl hdc)

theorem Fresh.deinitPin (hs : s.Fresh) (gpio : UInt32) (lookup : Option (Int × Int))
    (delUnit : EspErr) : (s.bmxEmbeddedAdcDeinitPin gpio lookup delUnit).2.Fresh := by
  unfold bmxEmbeddedAdcDeinitPin
  cases bmxEsp32AdcPinMapping t gpio lookup with
  | none => exact hs
  | some channel =>
  dsimp only
  split
  · exact hs
  next hconfigured =>
  rw [Bool.not_eq_false] at hconfigured
  have hdeleted := hs.toSound.fresh_deleteCalibration channel fun d _ => hs.current d
  obtain ⟨hsame, -, hcalibration⟩ := hs.toSound.deleteCalibration_tables channel
  have hnone : (s.bmxEsp32AdcDeleteCalibration channel).calibration channel = none := by
    rw [hcalibration, Function.update_self]
  rw [← hsame] at hconfigured
  generalize s.bmxEsp32AdcDeleteCalibration channel = s' at hdeleted hnone hconfigured ⊢
  split
  · exact hdeleted.unconfigure hnone
  next hlast =>
  split
  · -- the unit could not be deleted, and the channel is configured as before
    have hback : (s'.setConfigured channel false).setConfigured channel true = s' := by
      simp only [setConfigured, Function.update_idem, ← hconfigured, Function.update_eq_self]
    rw [hback]
    exact hdeleted
  · refine (hdeleted.unconfigure hnone).deleteUnit ?_
    intro d hd hunit
    apply hlast
    rw [List.any_eq_true]
    refine ⟨d.2, List.mem_finRange _, ?_⟩
    rw [← hunit]
    exact hd

theorem Fresh.readRaw (hs : s.Fresh) (gpio : UInt32) (lookup : Option (Int × Int))
    (stored : Bool) (r : AdcReadResults) :
    (s.bmxEmbeddedAdcReadRaw gpio lookup stored r).2.Fresh := by
  unfold bmxEmbeddedAdcReadRaw
  split
  · exact hs
  cases bmxEsp32AdcPinMapping t gpio lookup with
  | none => exact hs
  | some channel =>
    dsimp only
    split
    · exact hs
    split
    · exact hs
    · exact hs.log rfl rfl

/-- A new attenuation is accepted first, and then the handle for the old one is deleted. -/
theorem Fresh.setAttenuation (hs : s.Fresh) (gpio : UInt32) (lookup : Option (Int × Int))
    (attenuation : Int32) (r : AdcConfigureResults) :
    (s.bmxEsp32AdcSetAttenuation gpio lookup attenuation r).2.Fresh := by
  unfold bmxEsp32AdcSetAttenuation
  split
  · exact hs
  cases bmxEsp32AdcPinMapping t gpio lookup with
  | none => exact hs
  | some channel =>
    dsimp only
    split
    · exact hs
    have hsound := hs.toSound.configure channel attenuation r
    split
    next hfailed => exact ⟨hsound, fun d => (hs.current d).configure (.inr hfailed)⟩
    next => exact hsound.fresh_deleteCalibration channel fun d hdc =>
      (hs.current d).configure (.inl hdc)

theorem Fresh.readMillivolts (hs : s.Fresh) (gpio : UInt32) (lookup : Option (Int × Int))
    (stored : Bool) (r : AdcReadResults) :
    (s.bmxEsp32AdcReadMillivolts gpio lookup stored r).2.Fresh := by
  unfold bmxEsp32AdcReadMillivolts
  split
  · exact hs
  cases bmxEsp32AdcPinMapping t gpio lookup with
  | none => exact hs
  | some channel =>
    dsimp only
    split
    · exact hs
    next hconfigured =>
    rw [Bool.not_eq_false] at hconfigured
    have hensured := hs.ensureCalibration hconfigured r.calibration
    split
    · exact hensured
    split
    · exact hensured
    split
    · exact hensured.log rfl rfl
    · exact (hensured.log rfl rfl).log rfl rfl

/-- When `ensure_calibration` succeeds the channel has a handle. -/
theorem ensureCalibration_held (s : AdcTables t) (channel : AdcChannel t)
    (r : AdcCalibrationResults) (h : (s.bmxEsp32AdcEnsureCalibration channel r).1 = true) :
    ∃ handle, (s.bmxEsp32AdcEnsureCalibration channel r).2.calibration channel = some handle := by
  cases s.ensureCalibration_cases channel r with
  | kept handle hheld heq =>
    rw [heq]
    exact ⟨handle, hheld⟩
  | failed heq =>
    rw [heq] at h
    cases h
  | created handle _ _ _ _ _ heq =>
    rw [heq]
    exact ⟨handle, Function.update_self ..⟩

/-- The last two events of a read that returns a voltage, and the handle it has used. -/
structure Converts (s : AdcTables t) (channel : AdcChannel t) (reading voltage : Int32)
    (handle : AdcCaliHandle t) (before : List (AdcEvent t)) : Prop where
  events : s.events = before ++ [.reading channel reading, .converted (some handle) reading voltage]
  held : s.calibration channel = some handle
  fits : handle.Fits channel
  accepted : lastAccepted before channel = some handle.atten
  alive : HandleLife.life handle (handleEvents before) = [.created handle]

/-- **A reading is converted by a handle of the configuration it was made with.** -/
theorem Fresh.converts (hs : s.Fresh) {gpio : UInt32} {lookup : Option (Int × Int)}
    {stored : Bool} {r : AdcReadResults} {voltage : Int32}
    (h : (s.bmxEsp32AdcReadMillivolts gpio lookup stored r).1 = some voltage) :
    ∃ channel handle before, bmxEsp32AdcPinMapping t gpio lookup = some channel ∧
      (s.bmxEsp32AdcReadMillivolts gpio lookup stored r).2.Converts channel r.reading voltage
        handle before := by
  unfold bmxEsp32AdcReadMillivolts at h ⊢
  split at h
  · cases h
  next hguard =>
  rw [if_neg hguard]
  cases hpin : bmxEsp32AdcPinMapping t gpio lookup with
  | none =>
    rw [hpin] at h
    cases h
  | some channel =>
  rw [hpin] at h
  dsimp only at h ⊢
  split at h
  · cases h
  next hconfigured =>
  -- the handle is there already, or is made for the attenuation in force
  have hensured := hs.ensureCalibration (Bool.not_eq_false _ ▸ hconfigured) r.calibration
  have hheld := s.ensureCalibration_held channel r.calibration
  rw [if_neg hconfigured]
  generalize s.bmxEsp32AdcEnsureCalibration channel r.calibration = result at h hensured hheld ⊢
  obtain ⟨calibrated, s'⟩ := result
  dsimp only at h hensured hheld ⊢
  split at h
  · cases h
  next hcalibrated =>
  split at h
  · cases h
  next hread =>
  split at h
  · cases h
  next hvoltage =>
  obtain rfl := Option.some.inj h
  -- each test has been passed, so there is a handle
  obtain ⟨handle, hhandle⟩ := hheld (Bool.not_eq_false _ ▸ hcalibrated)
  obtain ⟨hchannel, hatten⟩ := hensured.current channel handle hhandle
  rw [if_neg hcalibrated, if_neg hread, if_neg hvoltage]
  refine ⟨channel, handle, s'.events, rfl, ?_, hhandle, ?_, ?_, ?_⟩
  · show (s'.events ++ [_]) ++ [.converted (s'.calibration channel) _ _] = _
    rw [hhandle, List.append_assoc]
    rfl
  · exact (hensured.scheme channel handle hhandle).2.2
  · rw [hensured.accepted channel hchannel, hatten]
  · exact hensured.accounted.held channel handle hhandle

theorem Fresh.enableInternalEntropy (hs : s.Fresh) :
    s.bmxEsp32RandomEnableInternalEntropy.Fresh := by
  unfold bmxEsp32RandomEnableInternalEntropy
  split
  · exact hs
  · exact ⟨⟨hs.accepted, hs.scheme, hs.accounted, hs.numbered⟩, hs.current⟩

theorem Fresh.disableInternalEntropy (hs : s.Fresh) :
    s.bmxEsp32RandomDisableInternalEntropy.Fresh := by
  unfold bmxEsp32RandomDisableInternalEntropy
  split
  · exact hs
  · exact ⟨⟨hs.accepted, hs.scheme, hs.accounted, hs.numbered⟩, hs.current⟩

/-- **Every call leaves handles of the present configuration only.** -/
theorem Fresh.call (hs : s.Fresh) (a : AdcCall) (lookup : Option (Int × Int)) :
    (s.call a lookup).Fresh := by
  cases a with
  | initPin gpio r => exact hs.initPin gpio lookup r
  | deinitPin gpio delUnit => exact hs.deinitPin gpio lookup delUnit
  | readRaw gpio stored r => exact hs.readRaw gpio lookup stored r
  | setAttenuation gpio attenuation r => exact hs.setAttenuation gpio lookup attenuation r
  | readMillivolts gpio stored r => exact hs.readMillivolts gpio lookup stored r
  | enableInternalEntropy => exact hs.enableInternalEntropy
  | disableInternalEntropy => exact hs.disableInternalEntropy

theorem fresh_reset (t : AdcTarget) : (reset t).Fresh :=
  ⟨⟨nofun, nofun, HandleLife.accounted_empty, nofun⟩, fun _ => nofun⟩

theorem fresh_reachable (h : (adcTablesMachine t).Reachable s) : s.Fresh := by
  apply h.invariant (I := Fresh)
  · rintro s rfl
    exact fresh_reset t
  · intro s a s' hs _ hstep
    obtain rfl := Option.some.inj hstep
    exact hs.call a.1 a.2

end AdcTables

/-- **Calibration is never stale**, whatever calls are made and however the drivers answer. -/
theorem adc_calibration_fresh (t : AdcTarget) (s : AdcTables t)
    (h : (adcTablesMachine t).Reachable s) :
    (∀ channel handle, s.calibration channel = some handle →
      s.configured channel = true ∧
      s.calibrationScheme channel = handle.scheme.code ∧ handle.Fits channel ∧
      handle.atten = s.recordedAtten channel ∧
      lastAccepted s.events channel = some handle.atten) ∧
    (∀ gpio lookup stored r voltage,
      (s.bmxEsp32AdcReadMillivolts gpio lookup stored r).1 = some voltage →
      ∃ channel handle before,
        AdcTables.bmxEsp32AdcPinMapping t gpio lookup = some channel ∧
        (s.bmxEsp32AdcReadMillivolts gpio lookup stored r).2.Converts channel r.reading voltage
          handle before) ∧
    ∀ handle,
      (∃! channel, s.calibration channel = some handle) ∧
        HandleLife.life handle (handleEvents s.events) = [.created handle] ∨
      (∀ channel, s.calibration channel ≠ some handle) ∧
        (HandleLife.life handle (handleEvents s.events) = [] ∨
          HandleLife.life handle (handleEvents s.events) =
            [.created handle, .deleted handle handle.scheme, .forgotten handle]) := by
  have hs := AdcTables.fresh_reachable h
  refine ⟨?_, fun gpio lookup stored r voltage hread => hs.converts hread, ?_⟩
  · intro channel handle hheld
    obtain ⟨hconfigured, hatten⟩ := hs.current channel handle hheld
    obtain ⟨-, hcode, hfits⟩ := hs.scheme channel handle hheld
    refine ⟨hconfigured, hcode, hfits, hatten, ?_⟩
    rw [hs.accepted channel hconfigured, hatten]
  · intro handle
    -- a handle is held by one channel, or has been deleted by the function of its scheme
    by_cases hheld : ∃ channel, s.calibration channel = some handle
    · obtain ⟨channel, hchannel⟩ := hheld
      refine .inl ⟨⟨channel, hchannel, ?_⟩, hs.accounted.held channel handle hchannel⟩
      exact fun d hd => hs.accounted.once d channel handle hd hchannel
    · have hnowhere := not_exists.mp hheld
      exact .inr ⟨hnowhere, hs.accounted.gone handle hnowhere⟩

/-- One unit with two channels, and both schemes. -/
def twoAdcSchemes : AdcTarget := { oneAdcUnit with lineFittingSupported := true }

/-- Pin 0 is read by line fitting, since curve fitting fails, then gets another attenuation and is
read again, by curve fitting. -/
def recalibration : List (AdcCall × Option (Int × Int)) :=
  [(.initPin 0 {}, some (0, 0)),
    (.readMillivolts 0 true { calibration := { curveFitting := espFail } }, some (0, 0)),
    (.setAttenuation 0 1 {}, some (0, 0)), (.readMillivolts 0 true {}, some (0, 0))]

/-- The state after `recalibration`. -/
def recalibrated : AdcTables twoAdcSchemes :=
  recalibration.foldl (fun s a => s.call a.1 a.2) (.reset twoAdcSchemes)

/-- Channel 0 of unit 0. -/
def firstAdcChannel : AdcChannel twoAdcSchemes := (⟨0, by decide⟩, ⟨0, by decide⟩)

theorem adc_calibration_fresh_recalibrated :
    recalibrated.calibration firstAdcChannel = some ⟨7, .curveFitting firstAdcChannel 1⟩ ∧
      lastAccepted recalibrated.events firstAdcChannel = some 1 := by
  have hheld : recalibrated.calibration firstAdcChannel =
      some ⟨7, .curveFitting firstAdcChannel 1⟩ := by decide +kernel
  have hrun : (adcTablesMachine twoAdcSchemes).run (.reset twoAdcSchemes) recalibration =
      some recalibrated := rfl
  have hfresh := adc_calibration_fresh twoAdcSchemes recalibrated (reachable_of_run rfl hrun)
  exact ⟨hheld, (hfresh.1 _ _ hheld).2.2.2.2⟩

end Esp32Mod
