/-
Esp32Mod/AdcTables.lean

The calibration handles of the analogue inputs (`runtime.mod/native/esp32_adc.c`).  A read in
millivolts creates the handle of its channel, by the first scheme that the target supports and
that does not fail; a new attenuation and the end of the pin delete it.

`Esp32Mod.Adc` knows of a handle only whether there is one.  Here the table holds the handles
themselves, each with what it was created with, and a log holds what the drivers have accepted,
created and deleted, read and converted.  Everything that they answer is an argument of each
function, also what `adc_oneshot_io_to_channel` says of the pin.

Main results:

* `AdcTables.erase_call` — without the handles it is the model of `Esp32Mod.Adc`;
* `AdcTables.erase_reachable` — so is a whole run, if the target answers the lookups.
-/
import Esp32Mod.Adc
import Esp32Mod.HandleLife

namespace Esp32Mod

open StepMachine Machine

variable {t : AdcTarget}

/-! ### Handles -/

/-- The two ways to calibrate that ESP-IDF knows. -/
inductive AdcCaliScheme
  | curveFitting | lineFitting
  deriving DecidableEq

/-- The value in `bmx_esp32_adc_calibration_scheme`. -/
def AdcCaliScheme.code : AdcCaliScheme → UInt8
  | .curveFitting => 1
  | .lineFitting => 2

/-- The scheme is compiled in for the target. -/
def AdcTarget.supports (t : AdcTarget) : AdcCaliScheme → Bool
  | .curveFitting => t.curveFittingSupported
  | .lineFitting => t.lineFittingSupported

/-- `adc_cali_curve_fitting_config_t` and `adc_cali_line_fitting_config_t`. -/
inductive AdcCaliConfig (t : AdcTarget)
  | curveFitting (channel : AdcChannel t) (atten : Int32)
  | lineFitting (unit : Fin t.periphNum) (atten : Int32)
  deriving DecidableEq

/-- A handle is known by its creation: no two have the same number. -/
structure AdcCaliHandle (t : AdcTarget) where
  number : Nat
  config : AdcCaliConfig t
  deriving DecidableEq

namespace AdcCaliHandle

/-- The scheme whose create function has made the handle. -/
def scheme (handle : AdcCaliHandle t) : AdcCaliScheme :=
  match handle.config with
  | .curveFitting .. => .curveFitting
  | .lineFitting .. => .lineFitting

/-- The attenuation that the handle was created for. -/
def atten (handle : AdcCaliHandle t) : Int32 :=
  match handle.config with
  | .curveFitting _ atten | .lineFitting _ atten => atten

/-- The handle was created for the channel; line fitting only knows the unit. -/
def Fits (handle : AdcCaliHandle t) (channel : AdcChannel t) : Prop :=
  match handle.config with
  | .curveFitting made _ => made = channel
  | .lineFitting unit _ => unit = channel.1

end AdcCaliHandle

/-! ### The tables -/

/-- What the drivers have done. -/
inductive AdcEvent (t : AdcTarget)
  /-- `adc_oneshot_config_channel` has returned `ESP_OK`. -/
  | accepted (channel : AdcChannel t) (atten : Int32)
  /-- `adc_oneshot_del_unit` has returned `ESP_OK`. -/
  | unitDeleted (unit : Fin t.periphNum)
  /-- A handle is created, one of the delete functions is called with it, or the table that
  held it is overwritten. -/
  | cali (event : HandleLife.Event (AdcCaliHandle t) AdcCaliScheme)
  /-- What `adc_oneshot_read` has stored. -/
  | reading (channel : AdcChannel t) (reading : Int32)
  /-- What `adc_cali_raw_to_voltage` has been given, and has stored. -/
  | converted (handle : Option (AdcCaliHandle t)) (reading voltage : Int32)
  deriving DecidableEq

/-- The static tables of `esp32_adc.c`, and what the drivers have done so far. -/
structure AdcTables (t : AdcTarget) where
  units : Fin t.periphNum → Bool
  configured : AdcChannel t → Bool
  attenuation : AdcChannel t → UInt8
  calibration : AdcChannel t → Option (AdcCaliHandle t)
  calibrationScheme : AdcChannel t → UInt8
  internalEntropyEnabled : Bool
  events : List (AdcEvent t)

namespace AdcTables

/-- Note what a driver has done. -/
def log (s : AdcTables t) (event : AdcEvent t) : AdcTables t :=
  { s with events := s.events ++ [event] }

/-- Write an entry of the table of configured channels. -/
def setConfigured (s : AdcTables t) (channel : AdcChannel t) (value : Bool) : AdcTables t :=
  { s with configured := Function.update s.configured channel value }

/-- Write an entry of the table of unit handles: whether it is set. -/
def setUnit (s : AdcTables t) (unit : Fin t.periphNum) (handle : Bool) : AdcTables t :=
  { s with units := Function.update s.units unit handle }

/-- Both tables are written, and the handle that was there is forgotten. -/
def setCalibration (s : AdcTables t) (channel : AdcChannel t)
    (handle : Option (AdcCaliHandle t)) (scheme : UInt8) : AdcTables t :=
  { s with
    calibration := Function.update s.calibration channel handle
    calibrationScheme := Function.update s.calibrationScheme channel scheme
    events := match s.calibration channel with
      | none => s.events
      | some old => s.events ++ [.cali (.forgotten old)] }

/-! ### Units, channels and calibration -/

/-- `lookup` is what `adc_oneshot_io_to_channel` answers, `none` for any result but `ESP_OK`. -/
def bmxEsp32AdcPinMapping (t : AdcTarget) (gpio : UInt32) (lookup : Option (Int × Int)) :
    Option (AdcChannel t) :=
  if 0x7FFFFFFF < gpio then none
  else lookup.bind fun x => adcChannelInRange t x.1 x.2

/-- Some unit is open. -/
def bmxEsp32AdcAnyInitialized (s : AdcTables t) : Bool :=
  (List.finRange _).any fun unit => s.units unit

/-- Open the unit if it is not open; `newUnit` is the result of `adc_oneshot_new_unit`. -/
def bmxEsp32AdcEnsureUnit (s : AdcTables t) (unit : Fin t.periphNum) (newUnit : EspErr) :
    Bool × AdcTables t :=
  if s.units unit = true then (true, s)
  else if newUnit = espOk then (true, s.setUnit unit true)
  else (false, s)

/-- Have the driver accept an attenuation for a channel, and record it. -/
def bmxEsp32AdcConfigure (s : AdcTables t) (channel : AdcChannel t) (attenuation : Int32)
    (r : AdcConfigureResults) : Bool × AdcTables t :=
  let native := bmxEsp32AdcAttenuationValue t attenuation
  if native < 0 then (false, s)
  else
    let (ensured, s) := s.bmxEsp32AdcEnsureUnit channel.1 r.newUnit
    if ensured = false then (false, s)
    -- a unit that was opened for the channel stays open
    else if r.configChannel ≠ espOk then (false, s)
    else
      let s := (s.log (.accepted channel native)).setConfigured channel true
      (true, { s with
        attenuation := Function.update s.attenuation channel attenuation.toUInt32.toUInt8 })

/-- Delete the channel's handle with the function of its scheme, and forget it. -/
def bmxEsp32AdcDeleteCalibration (s : AdcTables t) (channel : AdcChannel t) : AdcTables t :=
  match s.calibration channel with
  | none => s
  | some handle =>
    let s := if t.curveFittingSupported = true ∧ s.calibrationScheme channel = 1 then
      s.log (.cali (.deleted handle .curveFitting)) else s
    let s := if t.lineFittingSupported = true ∧ s.calibrationScheme channel = 2 then
      s.log (.cali (.deleted handle .lineFitting)) else s
    s.setCalibration channel none 0

/-- The native value of the attenuation that is recorded for a channel. -/
def recordedAtten (s : AdcTables t) (channel : AdcChannel t) : Int32 :=
  bmxEsp32AdcAttenuationValue t (s.attenuation channel).toUInt32.toInt32

/-- One scheme of `bmx_esp32_adc_ensure_calibration`; when it fails the table keeps its null. -/
def adcTryScheme (s : AdcTables t) (channel : AdcChannel t) (scheme : UInt8)
    (config : AdcCaliConfig t) (result : EspErr) : Bool × AdcTables t :=
  if result = espOk then
    let handle : AdcCaliHandle t := ⟨s.events.length, config⟩
    (true, (s.log (.cali (.created handle))).setCalibration channel (some handle) scheme)
  else (false, s)

/-- A handle that is there is kept; otherwise curve fitting is tried first, then line fitting. -/
def bmxEsp32AdcEnsureCalibration (s : AdcTables t) (channel : AdcChannel t)
    (r : AdcCalibrationResults) : Bool × AdcTables t :=
  if (s.calibration channel).isSome = true then (true, s)
  else
    let atten := s.recordedAtten channel
    let (done, s) := if t.curveFittingSupported = true then
      s.adcTryScheme channel 1 (.curveFitting channel atten) r.curveFitting else (false, s)
    if done = true then (true, s)
    else if t.lineFittingSupported = true then
      s.adcTryScheme channel 2 (.lineFitting channel.1 atten) r.lineFitting
    else (false, s)

/-! ### The operations -/

/-- Configure the pin's channel with the default attenuation.  A second call changes nothing. -/
def bmxEmbeddedAdcInitPin (s : AdcTables t) (gpio : UInt32) (lookup : Option (Int × Int))
    (r : AdcConfigureResults) : Int32 × AdcTables t :=
  match bmxEsp32AdcPinMapping t gpio lookup with
  | none => (0, s)
  | some channel =>
    if s.internalEntropyEnabled = true then (0, s)
    else if s.configured channel = true then (1, s)
    else
      let (done, s) := s.bmxEsp32AdcConfigure channel (bmxEsp32AdcDefaultAttenuation t) r
      (if done = true then 1 else 0, s)

/-- Give the channel back, and its unit with the last channel. -/
def bmxEmbeddedAdcDeinitPin (s : AdcTables t) (gpio : UInt32) (lookup : Option (Int × Int))
    (delUnit : EspErr) : Int32 × AdcTables t :=
  match bmxEsp32AdcPinMapping t gpio lookup with
  | none => (0, s)
  | some channel =>
    if s.configured channel = false then (0, s)
    else
      let s := s.bmxEsp32AdcDeleteCalibration channel
      let s := s.setConfigured channel false
      if ((List.finRange _).any fun candidate => s.configured (channel.1, candidate)) = true then
        (1, s)
      -- the channel comes back without its calibration
      else if delUnit ≠ espOk then (0, s.setConfigured channel true)
      else (1, (s.log (.unitDeleted channel.1)).setUnit channel.1 false)

/-- `stored` tells whether the caller has passed a place for the reading, which is `none` when the
call fails. -/
def bmxEmbeddedAdcReadRaw (s : AdcTables t) (gpio : UInt32) (lookup : Option (Int × Int))
    (stored : Bool) (r : AdcReadResults) : Option UInt32 × AdcTables t :=
  if stored = false ∨ s.internalEntropyEnabled = true then (none, s)
  else
    match bmxEsp32AdcPinMapping t gpio lookup with
    | none => (none, s)
    | some channel =>
      if s.configured channel = false then (none, s)
      else if r.read ≠ espOk then (none, s)
      else (some r.reading.toUInt32, s.log (.reading channel r.reading))

/-- Change the attenuation of a configured channel, whose handle is then stale. -/
def bmxEsp32AdcSetAttenuation (s : AdcTables t) (gpio : UInt32) (lookup : Option (Int × Int))
    (attenuation : Int32) (r : AdcConfigureResults) : Int32 × AdcTables t :=
  if s.internalEntropyEnabled = true then (0, s)
  else
    match bmxEsp32AdcPinMapping t gpio lookup with
    | none => (0, s)
    | some channel =>
      if s.configured channel = false then (0, s)
      else
        -- a refused attenuation keeps the calibration, which is still right
        let (done, s) := s.bmxEsp32AdcConfigure channel attenuation r
        if done = false then (0, s) else (1, s.bmxEsp32AdcDeleteCalibration channel)

/-- A reading that is converted with the channel's handle, which is made on the first call. -/
def bmxEsp32AdcReadMillivolts (s : AdcTables t) (gpio : UInt32) (lookup : Option (Int × Int))
    (stored : Bool) (r : AdcReadResults) : Option Int32 × AdcTables t :=
  if stored = false ∨ s.internalEntropyEnabled = true then (none, s)
  else
    match bmxEsp32AdcPinMapping t gpio lookup with
    | none => (none, s)
    | some channel =>
      if s.configured channel = false then (none, s)
      else
        let (calibrated, s) := s.bmxEsp32AdcEnsureCalibration channel r.calibration
        if calibrated = false then (none, s)
        else if r.read ≠ espOk then (none, s)
        else
          let s := s.log (.reading channel r.reading)
          if r.rawToVoltage ≠ espOk then (none, s)
          else (some r.voltage, s.log (.converted (s.calibration channel) r.reading r.voltage))

/-- The entropy source takes the ADC for itself, so no unit may be open. -/
def bmxEsp32RandomEnableInternalEntropy (s : AdcTables t) : AdcTables t :=
  if s.internalEntropyEnabled = true ∨ s.bmxEsp32AdcAnyInitialized = true then s
  else { s with internalEntropyEnabled := true }

/-- The ADC is free again. -/
def bmxEsp32RandomDisableInternalEntropy (s : AdcTables t) : AdcTables t :=
  if s.internalEntropyEnabled = false then s
  else { s with internalEntropyEnabled := false }

/-! ### Runs of calls -/

/-- The state after a call; its result is dropped. -/
def call (s : AdcTables t) (a : AdcCall) (lookup : Option (Int × Int)) : AdcTables t :=
  match a with
  | .initPin gpio r => (s.bmxEmbeddedAdcInitPin gpio lookup r).2
  | .deinitPin gpio delUnit => (s.bmxEmbeddedAdcDeinitPin gpio lookup delUnit).2
  | .readRaw gpio stored r => (s.bmxEmbeddedAdcReadRaw gpio lookup stored r).2
  | .setAttenuation gpio attenuation r =>
    (s.bmxEsp32AdcSetAttenuation gpio lookup attenuation r).2
  | .readMillivolts gpio stored r => (s.bmxEsp32AdcReadMillivolts gpio lookup stored r).2
  | .enableInternalEntropy => s.bmxEsp32RandomEnableInternalEntropy
  | .disableInternalEntropy => s.bmxEsp32RandomDisableInternalEntropy

/-- The static tables before the first call. -/
def reset (t : AdcTarget) : AdcTables t where
  units _ := false
  configured _ := false
  attenuation _ := 0
  calibration _ := none
  calibrationScheme _ := 0
  internalEntropyEnabled := false
  events := []

end AdcTables

/-- An action is a call, with what `adc_oneshot_io_to_channel` answers to it. -/
def adcTablesMachine (t : AdcTarget) : Machine (AdcTables t) (AdcCall × Option (Int × Int)) where
  init s := s = AdcTables.reset t
  step s a := some (s.call a.1 a.2)

/-! ### The tables without the handles -/

/-- What the target answers to the lookup of a call. -/
def AdcCall.lookup (t : AdcTarget) : AdcCall → Option (Int × Int)
  | .initPin gpio _ | .deinitPin gpio _ | .readRaw gpio _ _ | .setAttenuation gpio _ _
  | .readMillivolts gpio _ _ => t.ioToChannel gpio.toInt32
  | .enableInternalEntropy | .disableInternalEntropy => none

namespace AdcTables

variable {s : AdcTables t} {calls : List (AdcIssued t)} {ρ : Type}

/-- The state of `Esp32Mod.Adc`, with the driver calls that led to it. -/
def erase (s : AdcTables t) (calls : List (AdcIssued t)) : AdcState t where
  units := s.units
  configured := s.configured
  attenuation := s.attenuation
  calibration channel := (s.calibration channel).isSome
  calibrationScheme := s.calibrationScheme
  internalEntropyEnabled := s.internalEntropyEnabled
  calls := calls

/-- A function of `Esp32Mod.Adc` returns the same and leaves the same, but for the handles. -/
def Mirrors (result : ρ × AdcState t) (result' : ρ × AdcTables t) : Prop :=
  result.1 = result'.1 ∧ ∃ calls, result.2 = result'.2.erase calls

theorem mirrors_erase (x : ρ) (s : AdcTables t) (calls : List (AdcIssued t)) :
    Mirrors (x, s.erase calls) (x, s) :=
  ⟨rfl, calls, rfl⟩

theorem Mirrors.exists_eq {result : ρ × AdcState t} {result' : ρ × AdcTables t}
    (h : Mirrors result result') :
    ∃ x s calls, result = (x, s.erase calls) ∧ result' = (x, s) := by
  obtain ⟨hsame, calls, hstate⟩ := h
  exact ⟨result'.1, result'.2, calls, Prod.ext hsame hstate, rfl⟩

theorem erase_setCalibration (s : AdcTables t) (calls : List (AdcIssued t))
    (channel : AdcChannel t) (handle : Option (AdcCaliHandle t)) (scheme : UInt8) :
    (s.erase calls).setCalibration channel handle.isSome scheme =
      (s.setCalibration channel handle scheme).erase calls := by
  have hflags := Function.comp_update Option.isSome s.calibration channel handle
  show AdcState.mk .. = AdcState.mk ..
  congr 1
  exact hflags.symm

theorem channelOf_eq (t : AdcTarget) (gpio : UInt32) :
    t.channelOf gpio = bmxEsp32AdcPinMapping t gpio (t.ioToChannel gpio.toInt32) :=
  rfl

theorem erase_looked (s : AdcTables t) (calls : List (AdcIssued t)) (gpio : UInt32) :
    ∃ calls', (s.erase calls).looked gpio = s.erase calls' := by
  unfold AdcState.looked
  split
  · exact ⟨calls, rfl⟩
  · exact ⟨_, rfl⟩

theorem mirrors_ensureUnit (s : AdcTables t) (calls : List (AdcIssued t))
    (unit : Fin t.periphNum) (newUnit : EspErr) :
    Mirrors (Esp32Mod.bmxEsp32AdcEnsureUnit (s.erase calls) unit newUnit)
      (s.bmxEsp32AdcEnsureUnit unit newUnit) := by
  show Mirrors (if s.units unit = true then _ else _) (if s.units unit = true then _ else _)
  split
  · exact mirrors_erase true s calls
  split
  · exact ⟨rfl, _, rfl⟩
  · exact ⟨rfl, _, rfl⟩

theorem mirrors_configure (s : AdcTables t) (calls : List (AdcIssued t))
    (channel : AdcChannel t) (attenuation : Int32) (r : AdcConfigureResults) :
    Mirrors (Esp32Mod.bmxEsp32AdcConfigure (s.erase calls) channel attenuation r)
      (s.bmxEsp32AdcConfigure channel attenuation r) := by
  unfold bmxEsp32AdcConfigure Esp32Mod.bmxEsp32AdcConfigure
  obtain ⟨hensured, calls', hunits⟩ := s.mirrors_ensureUnit calls channel.1 r.newUnit
  dsimp only
  rw [hensured, hunits]
  split
  · exact mirrors_erase false s calls
  split
  · exact ⟨rfl, _, rfl⟩
  split
  · exact ⟨rfl, _, rfl⟩
  · exact ⟨rfl, _, rfl⟩

/-- A driver call that is made under a condition. -/
theorem erase_log_if (s : AdcTables t) (calls : List (AdcIssued t)) {p q : Prop} [Decidable p]
    [Decidable q] (hpq : p ↔ q) (issued : AdcDriverCall t) (event : AdcEvent t) :
    ∃ calls', (if p then (s.erase calls).issue issued else s.erase calls) =
      (if q then s.log event else s).erase calls' := by
  by_cases hq : q
  · rw [if_pos (hpq.mpr hq), if_pos hq]
    exact ⟨_, rfl⟩
  · rw [if_neg (mt hpq.mp hq), if_neg hq]
    exact ⟨_, rfl⟩

theorem erase_deleteCalibration (s : AdcTables t) (calls : List (AdcIssued t))
    (channel : AdcChannel t) :
    ∃ calls', Esp32Mod.bmxEsp32AdcDeleteCalibration (s.erase calls) channel =
      (s.bmxEsp32AdcDeleteCalibration channel).erase calls' := by
  unfold bmxEsp32AdcDeleteCalibration Esp32Mod.bmxEsp32AdcDeleteCalibration
  cases hheld : s.calibration channel with
  | none =>
    have hnull : (s.erase calls).calibration channel = false := congrArg Option.isSome hheld
    rw [if_pos hnull]
    exact ⟨calls, rfl⟩
  | some handle =>
    have hflag : (s.erase calls).calibration channel = true := congrArg Option.isSome hheld
    rw [if_neg (Bool.not_eq_false _ ▸ hflag)]
    have hdeleted := s.erase_log_if calls
      (p := t.curveFittingSupported = true ∧ (s.erase calls).calibrationScheme channel = 1)
      (q := t.curveFittingSupported = true ∧ s.calibrationScheme channel = 1) .rfl
      (.deleteCurveFitting channel) (.cali (.deleted handle .curveFitting))
    dsimp only
    generalize (if t.curveFittingSupported = true ∧ s.calibrationScheme channel = 1 then
      s.log (.cali (.deleted handle .curveFitting)) else s) = s' at hdeleted ⊢
    obtain ⟨curveCalls, hcurve⟩ := hdeleted
    rw [hcurve]
    obtain ⟨lineCalls, hline⟩ := s'.erase_log_if curveCalls
      (p := t.lineFittingSupported = true ∧ (s'.erase curveCalls).calibrationScheme channel = 2)
      (q := t.lineFittingSupported = true ∧ s'.calibrationScheme channel = 2) .rfl
      (.deleteLineFitting channel) (.cali (.deleted handle .lineFitting))
    rw [hline]
    exact ⟨lineCalls, erase_setCalibration _ lineCalls channel none 0⟩

theorem mirrors_tryScheme (s : AdcTables t) (calls : List (AdcIssued t)) (channel : AdcChannel t)
    (scheme : UInt8) (config : AdcCaliConfig t) (create : AdcDriverCall t) (result : EspErr) :
    Mirrors (Esp32Mod.adcTryScheme (s.erase calls) channel scheme create result)
      (s.adcTryScheme channel scheme config result) := by
  unfold adcTryScheme Esp32Mod.adcTryScheme
  dsimp only
  split
  · exact ⟨rfl, _, erase_setCalibration _ _ channel (some _) scheme⟩
  · exact ⟨rfl, _, rfl⟩

theorem mirrors_ensureCalibration (s : AdcTables t) (calls : List (AdcIssued t))
    (channel : AdcChannel t) (r : AdcCalibrationResults) :
    Mirrors (Esp32Mod.bmxEsp32AdcEnsureCalibration (s.erase calls) channel r)
      (s.bmxEsp32AdcEnsureCalibration channel r) := by
  show Mirrors (if (s.calibration channel).isSome = true then _ else _)
    (if (s.calibration channel).isSome = true then _ else _)
  split
  · exact mirrors_erase true s calls
  -- the second scheme starts from what the first one has left
  have hline : ∀ (s' : AdcTables t) (calls' : List (AdcIssued t)), Mirrors
      (if t.lineFittingSupported = true then Esp32Mod.adcTryScheme (s'.erase calls') channel 2
        (.createLineFitting channel.1 (s.recordedAtten channel)) r.lineFitting
      else (false, s'.erase calls'))
      (if t.lineFittingSupported = true then s'.adcTryScheme channel 2
        (.lineFitting channel.1 (s.recordedAtten channel)) r.lineFitting
      else (false, s')) := by
    intro s' calls'
    split
    · exact s'.mirrors_tryScheme calls' channel 2 _ _ r.lineFitting
    · exact mirrors_erase false s' calls'
  by_cases hsupported : t.curveFittingSupported = true
  · obtain ⟨hdone, calls', hcurve⟩ := s.mirrors_tryScheme calls channel 1
      (.curveFitting channel (s.recordedAtten channel))
      (.createCurveFitting channel (s.recordedAtten channel)) r.curveFitting
    simp only [hsupported, if_true]
    show Mirrors (if (Esp32Mod.adcTryScheme (s.erase calls) channel 1
      (.createCurveFitting channel (s.recordedAtten channel)) r.curveFitting).1 = true
        then _ else _) _
    rw [hdone]
    split
    · exact ⟨rfl, calls', hcurve⟩
    · have hrest := hline (s.adcTryScheme channel 1
        (.curveFitting channel (s.recordedAtten channel)) r.curveFitting).2 calls'
      rw [← hcurve] at hrest
      exact hrest
  · simp only [hsupported]
    exact hline s calls

theorem Mirrors.ite {p q : Prop} [Decidable p] [Decidable q] (hpq : p ↔ q)
    {x y : ρ × AdcState t} {x' y' : ρ × AdcTables t} (hx : Mirrors x x') (hy : Mirrors y y') :
    Mirrors (if p then x else y) (if q then x' else y') := by
  by_cases hq : q
  · rw [if_pos (hpq.mpr hq), if_pos hq]
    exact hx
  · rw [if_neg (mt hpq.mp hq), if_neg hq]
    exact hy

theorem mirrors_initPin (s : AdcTables t) (calls : List (AdcIssued t)) (gpio : UInt32)
    (r : AdcConfigureResults) :
    Mirrors (Esp32Mod.bmxEmbeddedAdcInitPin (s.erase calls) gpio r)
      (s.bmxEmbeddedAdcInitPin gpio (t.ioToChannel gpio.toInt32) r) := by
  unfold bmxEmbeddedAdcInitPin Esp32Mod.bmxEmbeddedAdcInitPin
  obtain ⟨calls', hlooked⟩ := s.erase_looked calls gpio
  rw [AdcState.pinMapping_eq, channelOf_eq, hlooked]
  cases bmxEsp32AdcPinMapping t gpio (t.ioToChannel gpio.toInt32) with
  | none => exact mirrors_erase 0 s calls'
  | some channel =>
    obtain ⟨hdone, hstate⟩ := s.mirrors_configure calls' channel
      (bmxEsp32AdcDefaultAttenuation t) r
    refine .ite .rfl (mirrors_erase 0 s calls') (.ite .rfl (mirrors_erase 1 s calls') ?_)
    exact ⟨by simp only [hdone], hstate⟩

theorem mirrors_deinitPin (s : AdcTables t) (calls : List (AdcIssued t)) (gpio : UInt32)
    (delUnit : EspErr) :
    Mirrors (Esp32Mod.bmxEmbeddedAdcDeinitPin (s.erase calls) gpio delUnit)
      (s.bmxEmbeddedAdcDeinitPin gpio (t.ioToChannel gpio.toInt32) delUnit) := by
  unfold bmxEmbeddedAdcDeinitPin Esp32Mod.bmxEmbeddedAdcDeinitPin
  obtain ⟨calls', hlooked⟩ := s.erase_looked calls gpio
  rw [AdcState.pinMapping_eq, channelOf_eq, hlooked]
  cases bmxEsp32AdcPinMapping t gpio (t.ioToChannel gpio.toInt32) with
  | none => exact mirrors_erase 0 s calls'
  | some channel =>
    refine .ite .rfl (mirrors_erase 0 s calls') ?_
    obtain ⟨calls'', hdeleted⟩ := s.erase_deleteCalibration calls' channel
    rw [hdeleted]
    exact .ite .rfl ⟨rfl, _, rfl⟩ (.ite .rfl ⟨rfl, _, rfl⟩ ⟨rfl, _, rfl⟩)

theorem mirrors_readRaw (s : AdcTables t) (calls : List (AdcIssued t)) (gpio : UInt32)
    (stored : Bool) (r : AdcReadResults) :
    Mirrors (Esp32Mod.bmxEmbeddedAdcReadRaw (s.erase calls) gpio stored r)
      (s.bmxEmbeddedAdcReadRaw gpio (t.ioToChannel gpio.toInt32) stored r) := by
  refine .ite .rfl (mirrors_erase none s calls) ?_
  obtain ⟨calls', hlooked⟩ := s.erase_looked calls gpio
  rw [AdcState.pinMapping_eq, channelOf_eq, hlooked]
  cases bmxEsp32AdcPinMapping t gpio (t.ioToChannel gpio.toInt32) with
  | none => exact mirrors_erase none s calls'
  | some channel =>
    refine .ite .rfl (mirrors_erase none s calls') ?_
    dsimp only
    split
    · exact ⟨rfl, _, rfl⟩
    · exact ⟨rfl, _, rfl⟩

theorem mirrors_setAttenuation (s : AdcTables t) (calls : List (AdcIssued t)) (gpio : UInt32)
    (attenuation : Int32) (r : AdcConfigureResults) :
    Mirrors (Esp32Mod.bmxEsp32AdcSetAttenuation (s.erase calls) gpio attenuation r)
      (s.bmxEsp32AdcSetAttenuation gpio (t.ioToChannel gpio.toInt32) attenuation r) := by
  refine .ite .rfl (mirrors_erase 0 s calls) ?_
  obtain ⟨calls', hlooked⟩ := s.erase_looked calls gpio
  rw [AdcState.pinMapping_eq, channelOf_eq, hlooked]
  cases bmxEsp32AdcPinMapping t gpio (t.ioToChannel gpio.toInt32) with
  | none => exact mirrors_erase 0 s calls'
  | some channel =>
    refine .ite .rfl (mirrors_erase 0 s calls') ?_
    obtain ⟨done, s', calls'', hstate, htables⟩ :=
      (s.mirrors_configure calls' channel attenuation r).exists_eq
    rw [hstate, htables]
    exact .ite .rfl ⟨rfl, calls'', rfl⟩ ⟨rfl, s'.erase_deleteCalibration calls'' channel⟩

theorem mirrors_readMillivolts (s : AdcTables t) (calls : List (AdcIssued t)) (gpio : UInt32)
    (stored : Bool) (r : AdcReadResults) :
    Mirrors (Esp32Mod.bmxEsp32AdcReadMillivolts (s.erase calls) gpio stored r)
      (s.bmxEsp32AdcReadMillivolts gpio (t.ioToChannel gpio.toInt32) stored r) := by
  refine .ite .rfl (mirrors_erase none s calls) ?_
  obtain ⟨calls', hlooked⟩ := s.erase_looked calls gpio
  rw [AdcState.pinMapping_eq, channelOf_eq, hlooked]
  cases bmxEsp32AdcPinMapping t gpio (t.ioToChannel gpio.toInt32) with
  | none => exact mirrors_erase none s calls'
  | some channel =>
    refine .ite .rfl (mirrors_erase none s calls') ?_
    obtain ⟨calibrated, s', calls'', hstate, htables⟩ :=
      (s.mirrors_ensureCalibration calls' channel r.calibration).exists_eq
    rw [hstate, htables]
    refine .ite .rfl ⟨rfl, calls'', rfl⟩ (.ite .rfl ⟨rfl, _, rfl⟩ ?_)
    dsimp only
    split
    · exact ⟨rfl, _, rfl⟩
    · exact ⟨rfl, _, rfl⟩

/-- **Without its handles a call is the one of `Esp32Mod.Adc`.** -/
theorem erase_call (s : AdcTables t) (calls : List (AdcIssued t)) (a : AdcCall) :
    ∃ calls', adcCall (s.erase calls) a = (s.call a (a.lookup t)).erase calls' := by
  cases a with
  | initPin gpio r => exact (s.mirrors_initPin calls gpio r).2
  | deinitPin gpio delUnit => exact (s.mirrors_deinitPin calls gpio delUnit).2
  | readRaw gpio stored r => exact (s.mirrors_readRaw calls gpio stored r).2
  | setAttenuation gpio attenuation r => exact (s.mirrors_setAttenuation calls gpio attenuation r).2
  | readMillivolts gpio stored r => exact (s.mirrors_readMillivolts calls gpio stored r).2
  | enableInternalEntropy =>
    show ∃ calls', (if s.internalEntropyEnabled = true ∨ s.bmxEsp32AdcAnyInitialized = true then _
      else _) = erase (if s.internalEntropyEnabled = true ∨ s.bmxEsp32AdcAnyInitialized = true
        then _ else _) calls'
    split
    · exact ⟨calls, rfl⟩
    · exact ⟨_, rfl⟩
  | disableInternalEntropy =>
    show ∃ calls', (if s.internalEntropyEnabled = false then _ else _) =
      erase (if s.internalEntropyEnabled = false then _ else _) calls'
    split
    · exact ⟨calls, rfl⟩
    · exact ⟨_, rfl⟩

/-- A run in which the target answers the lookups is a run of `Esp32Mod.Adc`. -/
theorem erase_reachable
    (h : (adcTablesMachine t).ReachableIn (fun _ a => a.2 = a.1.lookup t) s) :
    ∃ calls, (adcMachine t).Reachable (s.erase calls) := by
  induction h with
  | init h₀ =>
    obtain rfl := h₀
    exact ⟨[], .init rfl⟩
  | @step s a s' _ hlookup hstep ih =>
    obtain ⟨calls, hcalls⟩ := ih
    obtain rfl := Option.some.inj hstep
    obtain ⟨calls', hcall⟩ := s.erase_call calls a.1
    rw [hlookup]
    exact ⟨calls', hcall ▸ hcalls.step trivial rfl⟩

end AdcTables

end Esp32Mod
