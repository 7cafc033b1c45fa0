/-
Esp32Mod/Adc.lean

The analogue inputs and the internal entropy source of the native runtime
(`runtime.mod/native/esp32_adc.c` and `esp32_random.c`).  Both need the one converter of the
chip.  An input opens the unit of its pin, and the unit is closed with its last input; the
entropy source is refused while a unit is open, and the inputs while the entropy source is on.

The state keeps, beside the static tables, the driver calls that have been made, each with what
was open and enabled when it was made.  The constants of the chip are an `AdcTarget`; the other
results of the driver are arguments of each function.  `adc_oneshot_new_unit` writes the handle
only when it succeeds.

Main results:

* `AdcState.Exclusive.call` — every call keeps the two modules apart;
* `adc_entropy_exclusion` — in every state between calls the entropy source is off or all units
  are closed, the drivers of the converter have been asked for pins at most while it was on, and
  it was switched on with all units closed;
* `adc_entropy_lookup` — they have been asked for pins.
-/
import Esp32Mod.StepMachine
import Esp32Mod.Errors
import Mathlib.Data.List.FinRange

namespace Esp32Mod

open StepMachine Machine

/-! ### The tables -/

/-- `SOC_ADC_PERIPH_NUM`, `SOC_ADC_MAX_CHANNEL_NUM`, `SOC_ADC_ATTEN_NUM`, the values of
`adc_atten_t`, the pins of `adc_oneshot_io_to_channel`, and the calibration schemes. -/
structure AdcTarget where
  periphNum : Nat
  maxChannelNum : Nat
  attenNum : UInt32
  attenDb0 : Int32
  attenDb25 : Int32
  attenDb6 : Int32
  attenDb12 : Int32
  /-- `none` is any result but `ESP_OK`. -/
  ioToChannel : Int32 → Option (Int × Int)
  curveFittingSupported : Bool
  lineFittingSupported : Bool

/-- A unit and a channel of it: the index of the tables. -/
abbrev AdcChannel (t : AdcTarget) := Fin t.periphNum × Fin t.maxChannelNum

/-- The calls to the drivers, with what they are given. -/
inductive AdcDriverCall (t : AdcTarget)
  | ioToChannel (gpio : Int32)
  | newUnit (unit : Fin t.periphNum)
  | configChannel (channel : AdcChannel t) (atten : Int32)
  | read (channel : AdcChannel t)
  | delUnit (unit : Fin t.periphNum)
  | createCurveFitting (channel : AdcChannel t) (atten : Int32)
  | createLineFitting (unit : Fin t.periphNum) (atten : Int32)
  | deleteCurveFitting (channel : AdcChannel t)
  | deleteLineFitting (channel : AdcChannel t)
  | rawToVoltage (channel : AdcChannel t) (reading : Int32)
  | bootloaderRandomEnable
  | bootloaderRandomDisable

/-- A call, and whether the entropy source was on and a unit open when it was made. -/
structure AdcIssued (t : AdcTarget) where
  call : AdcDriverCall t
  entropyEnabled : Bool
  unitOpen : Bool

/-- `units` says which handles are not null, `calibration` likewise. -/
structure AdcState (t : AdcTarget) where
  units : Fin t.periphNum → Bool
  configured : AdcChannel t → Bool
  attenuation : AdcChannel t → UInt8
  calibration : AdcChannel t → Bool
  calibrationScheme : AdcChannel t → UInt8
  internalEntropyEnabled : Bool
  calls : List (AdcIssued t)

variable {t : AdcTarget}

/-- Some unit is open. -/
def bmxEsp32AdcAnyInitialized (s : AdcState t) : Bool :=
  (List.finRange _).any fun unit => s.units unit

namespace AdcState

/-- Note a call of a driver, with the state in which it is made. -/
def issue (s : AdcState t) (call : AdcDriverCall t) : AdcState t :=
  { s with calls := s.calls ++ [⟨call, s.internalEntropyEnabled, bmxEsp32AdcAnyInitialized s⟩] }

/-- Write an entry of the table of unit handles: whether it is set. -/
def setUnit (s : AdcState t) (unit : Fin t.periphNum) (handle : Bool) : AdcState t :=
  { s with units := Function.update s.units unit handle }

/-- Write an entry of the table of configured channels. -/
def setConfigured (s : AdcState t) (channel : AdcChannel t) (value : Bool) : AdcState t :=
  { s with configured := Function.update s.configured channel value }

/-- Write an entry of the table of attenuations. -/
def setAttenuation (s : AdcState t) (channel : AdcChannel t) (value : UInt8) : AdcState t :=
  { s with attenuation := Function.update s.attenuation channel value }

/-- Write an entry of the table of calibration handles, and its scheme. -/
def setCalibration (s : AdcState t) (channel : AdcChannel t) (handle : Bool) (scheme : UInt8) :
    AdcState t :=
  { s with
    calibration := Function.update s.calibration channel handle
    calibrationScheme := Function.update s.calibrationScheme channel scheme }

end AdcState

/-! ### Pins and attenuations -/

/-- The range check of `bmx_esp32_adc_pin_mapping`. -/
def adcChannelInRange (t : AdcTarget) (unit channel : Int) : Option (AdcChannel t) :=
  if h : 0 ≤ unit ∧ unit < t.periphNum ∧ 0 ≤ channel ∧ channel < t.maxChannelNum then
    some (⟨unit.toNat, by omega⟩, ⟨channel.toNat, by omega⟩)
  else none

/-- The channel of a pin, if it has one within the sizes of the tables. -/
def bmxEsp32AdcPinMapping (s : AdcState t) (gpio : UInt32) :
    Option (AdcChannel t) × AdcState t :=
  if 0x7FFFFFFF < gpio then (none, s)
  else
    let s := s.issue (.ioToChannel gpio.toInt32)
    match t.ioToChannel gpio.toInt32 with
    | none => (none, s)
    | some (unit, channel) => (adcChannelInRange t unit channel, s)

/-- The native constant, or -1. -/
def bmxEsp32AdcAttenuationValue (t : AdcTarget) (attenuation : Int32) : Int32 :=
  let native : Option Int32 :=
    if attenuation = 0 then some t.attenDb0
    else if attenuation = 1 then some t.attenDb25
    else if attenuation = 2 then some t.attenDb6
    else if attenuation = 3 then some t.attenDb12
    else none
  match native with
  | none => -1
  | some native => if native.toUInt32 < t.attenNum then native else -1

/-- The widest range that the target has. -/
def bmxEsp32AdcDefaultAttenuation (t : AdcTarget) : Int32 :=
  (([3, 2, 1, 0] : List Int32).find? fun attenuation =>
    decide (0 ≤ bmxEsp32AdcAttenuationValue t attenuation)).getD (-1)

/-! ### Units, channels and calibration -/

/-- The results of `adc_oneshot_new_unit` and `adc_oneshot_config_channel`. -/
structure AdcConfigureResults where
  newUnit : EspErr := espOk
  configChannel : EspErr := espOk

/-- Open the unit if it is not open; `newUnit` is the result of `adc_oneshot_new_unit`. -/
def bmxEsp32AdcEnsureUnit (s : AdcState t) (unit : Fin t.periphNum) (newUnit : EspErr) :
    Bool × AdcState t :=
  if s.units unit = true then (true, s)
  else
    let s := s.issue (.newUnit unit)
    if newUnit = espOk then (true, s.setUnit unit true) else (false, s)

/-- Have the driver accept an attenuation for a channel, and record it.  A unit that this opens
stays open where the driver refuses. -/
def bmxEsp32AdcConfigure (s : AdcState t) (channel : AdcChannel t) (attenuation : Int32)
    (r : AdcConfigureResults) : Bool × AdcState t :=
  let native := bmxEsp32AdcAttenuationValue t attenuation
  if native < 0 then (false, s)
  else
    let (ensured, s) := bmxEsp32AdcEnsureUnit s channel.1 r.newUnit
    if ensured = false then (false, s)
    else
      let s := s.issue (.configChannel channel native)
      if r.configChannel ≠ espOk then (false, s)
      else (true, (s.setConfigured channel true).setAttenuation channel attenuation.toUInt32.toUInt8)

/-- Delete the channel's handle with the function of its scheme, and forget it. -/
def bmxEsp32AdcDeleteCalibration (s : AdcState t) (channel : AdcChannel t) : AdcState t :=
  if s.calibration channel = false then s
  else
    let s := if t.curveFittingSupported = true ∧ s.calibrationScheme channel = 1 then
      s.issue (.deleteCurveFitting channel) else s
    let s := if t.lineFittingSupported = true ∧ s.calibrationScheme channel = 2 then
      s.issue (.deleteLineFitting channel) else s
    s.setCalibration channel false 0

/-- What the two schemes answer. -/
structure AdcCalibrationResults where
  curveFitting : EspErr := espOk
  lineFitting : EspErr := espOk

/-- One scheme of `bmx_esp32_adc_ensure_calibration`. -/
def adcTryScheme (s : AdcState t) (channel : AdcChannel t) (scheme : UInt8)
    (create : AdcDriverCall t) (result : EspErr) : Bool × AdcState t :=
  let s := s.issue create
  if result = espOk then (true, s.setCalibration channel true scheme) else (false, s)

/-- A handle that is there is kept; otherwise curve fitting is tried first, then line fitting. -/
def bmxEsp32AdcEnsureCalibration (s : AdcState t) (channel : AdcChannel t)
    (r : AdcCalibrationResults) : Bool × AdcState t :=
  if s.calibration channel = true then (true, s)
  else
    let atten := bmxEsp32AdcAttenuationValue t (s.attenuation channel).toUInt32.toInt32
    let (done, s) := if t.curveFittingSupported = true then
      adcTryScheme s channel 1 (.createCurveFitting channel atten) r.curveFitting else (false, s)
    if done = true then (true, s)
    else if t.lineFittingSupported = true then
      adcTryScheme s channel 2 (.createLineFitting channel.1 atten) r.lineFitting
    else (false, s)

/-! ### The operations -/

/-- Configure the pin's channel with the default attenuation.  A second call changes nothing. -/
def bmxEmbeddedAdcInitPin (s : AdcState t) (gpio : UInt32) (r : AdcConfigureResults) :
    Int32 × AdcState t :=
  match bmxEsp32AdcPinMapping s gpio with
  | (none, s) => (0, s)
  | (some channel, s) =>
    if s.internalEntropyEnabled = true then (0, s)
    else if s.configured channel = true then (1, s)
    else
      let (done, s) := bmxEsp32AdcConfigure s channel (bmxEsp32AdcDefaultAttenuation t) r
      (if done = true then 1 else 0, s)

/-- Give the channel back, and its unit with the last channel. -/
def bmxEmbeddedAdcDeinitPin (s : AdcState t) (gpio : UInt32) (delUnit : EspErr) :
    Int32 × AdcState t :=
  match bmxEsp32AdcPinMapping s gpio with
  | (none, s) => (0, s)
  | (some channel, s) =>
    if s.configured channel = false then (0, s)
    else
      let s := bmxEsp32AdcDeleteCalibration s channel
      let s := s.setConfigured channel false
      if ((List.finRange _).any fun candidate => s.configured (channel.1, candidate)) = true then
        (1, s)
      else
        let s := s.issue (.delUnit channel.1)
        if delUnit ≠ espOk then (0, s.setConfigured channel true)
        else (1, s.setUnit channel.1 false)

/-- `adc_oneshot_read` and what it reads, then `adc_cali_raw_to_voltage` likewise. -/
structure AdcReadResults where
  read : EspErr := espOk
  reading : Int32 := 0
  calibration : AdcCalibrationResults := {}
  rawToVoltage : EspErr := espOk
  voltage : Int32 := 0

/-- `stored` says that `value` is not null; the result is what is stored there with a 1. -/
def bmxEmbeddedAdcReadRaw (s : AdcState t) (gpio : UInt32) (stored : Bool) (r : AdcReadResults) :
    Option UInt32 × AdcState t :=
  if stored = false ∨ s.internalEntropyEnabled = true then (none, s)
  else
    match bmxEsp32AdcPinMapping s gpio with
    | (none, s) => (none, s)
    | (some channel, s) =>
      if s.configured channel = false then (none, s)
      else
        let s := s.issue (.read channel)
        (if r.read ≠ espOk then none else some r.reading.toUInt32, s)

/-- Change the attenuation of a configured channel, whose handle is then stale. -/
def bmxEsp32AdcSetAttenuation (s : AdcState t) (gpio : UInt32) (attenuation : Int32)
    (r : AdcConfigureResults) : Int32 × AdcState t :=
  if s.internalEntropyEnabled = true then (0, s)
  else
    match bmxEsp32AdcPinMapping s gpio with
    | (none, s) => (0, s)
    | (some channel, s) =>
      if s.configured channel = false then (0, s)
      else
        let (done, s) := bmxEsp32AdcConfigure s channel attenuation r
        if done = false then (0, s) else (1, bmxEsp32AdcDeleteCalibration s channel)

/-- A reading that is converted with the channel's handle, which is made on the first call. -/
def bmxEsp32AdcReadMillivolts (s : AdcState t) (gpio : UInt32) (stored : Bool)
    (r : AdcReadResults) : Option Int32 × AdcState t :=
  if stored = false ∨ s.internalEntropyEnabled = true then (none, s)
  else
    match bmxEsp32AdcPinMapping s gpio with
    | (none, s) => (none, s)
    | (some channel, s) =>
      if s.configured channel = false then (none, s)
      else
        let (calibrated, s) := bmxEsp32AdcEnsureCalibration s channel r.calibration
        if calibrated = false then (none, s)
        else
          let s := s.issue (.read channel)
          if r.read ≠ espOk then (none, s)
          else
            let s := s.issue (.rawToVoltage channel r.reading)
            (if r.rawToVoltage ≠ espOk then none else some r.voltage, s)

/-- The entropy source takes the ADC for itself, so no unit may be open. -/
def bmxEsp32RandomEnableInternalEntropy (s : AdcState t) : AdcState t :=
  if s.internalEntropyEnabled = true ∨ bmxEsp32AdcAnyInitialized s = true then s
  else { s.issue .bootloaderRandomEnable with internalEntropyEnabled := true }

/-- The ADC is free again. -/
def bmxEsp32RandomDisableInternalEntropy (s : AdcState t) : AdcState t :=
  if s.internalEntropyEnabled = false then s
  else { s.issue .bootloaderRandomDisable with internalEntropyEnabled := false }

/-! ### Runs of calls -/

/-- The operations, each with what the drivers answer. -/
inductive AdcCall
  | initPin (gpio : UInt32) (r : AdcConfigureResults)
  | deinitPin (gpio : UInt32) (delUnit : EspErr)
  | readRaw (gpio : UInt32) (stored : Bool) (r : AdcReadResults)
  | setAttenuation (gpio : UInt32) (attenuation : Int32) (r : AdcConfigureResults)
  | readMillivolts (gpio : UInt32) (stored : Bool) (r : AdcReadResults)
  | enableInternalEntropy
  | disableInternalEntropy

/-- The state after a call; its result is dropped. -/
def adcCall (s : AdcState t) : AdcCall → AdcState t
  | .initPin gpio r => (bmxEmbeddedAdcInitPin s gpio r).2
  | .deinitPin gpio delUnit => (bmxEmbeddedAdcDeinitPin s gpio delUnit).2
  | .readRaw gpio stored r => (bmxEmbeddedAdcReadRaw s gpio stored r).2
  | .setAttenuation gpio attenuation r => (bmxEsp32AdcSetAttenuation s gpio attenuation r).2
  | .readMillivolts gpio stored r => (bmxEsp32AdcReadMillivolts s gpio stored r).2
  | .enableInternalEntropy => bmxEsp32RandomEnableInternalEntropy s
  | .disableInternalEntropy => bmxEsp32RandomDisableInternalEntropy s

/-- The static tables before the first call. -/
def adcReset (t : AdcTarget) : AdcState t where
  units _ := false
  configured _ := false
  attenuation _ := 0
  calibration _ := false
  calibrationScheme _ := 0
  internalEntropyEnabled := false
  calls := []

/-- Calls of the application, in any order. -/
def adcMachine (t : AdcTarget) : Machine (AdcState t) AdcCall where
  init s := s = adcReset t
  step s a := some (adcCall s a)

/-! ### The two modules apart -/

/-- The calls of the ADC drivers; the others are those of the entropy source. -/
def AdcDriverCall.ofAdc : AdcDriverCall t → Bool
  | .bootloaderRandomEnable | .bootloaderRandomDisable => false
  | _ => true

/-- The names that begin with `adc_oneshot`. -/
def AdcDriverCall.isOneshot : AdcDriverCall t → Bool
  | .ioToChannel _ | .newUnit _ | .configChannel _ _ | .read _ | .delUnit _ => true
  | _ => false

/-- While the entropy source is on, the drivers of the converter are asked for a pin at most,
and it is switched on while no unit is open. -/
structure AdcIssued.Lawful (issued : AdcIssued t) : Prop where
  lookup : issued.entropyEnabled = true → issued.call.ofAdc = true →
    ∃ gpio, issued.call = .ioToChannel gpio
  closed : issued.call = .bootloaderRandomEnable → issued.unitOpen = false

/-- A configured channel has its unit open, no unit is open beside the entropy source, and every
call so far was lawful. -/
structure AdcState.Exclusive (s : AdcState t) : Prop where
  opened : ∀ channel, s.configured channel = true → s.units channel.1 = true
  closed : s.internalEntropyEnabled = true → ∀ unit, s.units unit = false
  calls : ∀ issued ∈ s.calls, issued.Lawful

namespace AdcState

variable {s s' s'' : AdcState t} {channel : AdcChannel t} {call : AdcDriverCall t}

theorem anyInitialized_eq_false :
    bmxEsp32AdcAnyInitialized s = false ↔ ∀ unit, s.units unit = false := by
  rw [bmxEsp32AdcAnyInitialized, List.any_eq_false]
  constructor
  · intro h unit
    exact Bool.eq_false_iff.mpr (h unit (List.mem_finRange unit))
  · intro h unit _
    exact Bool.eq_false_iff.mp (h unit)

/-! ### Steps that only ask -/

/-- Between `s` and `s'` the ADC drivers have been called, with the entropy source as it was. -/
structure Asks (s s' : AdcState t) : Prop where
  entropy : s'.internalEntropyEnabled = s.internalEntropyEnabled
  calls : ∃ issued, s'.calls = s.calls ++ issued ∧
    ∀ i ∈ issued, i.entropyEnabled = s.internalEntropyEnabled ∧ i.call.ofAdc = true

theorem Asks.refl (s : AdcState t) : s.Asks s :=
  ⟨rfl, [], (List.append_nil _).symm, nofun⟩

theorem Asks.trans (h : s.Asks s') (h' : s'.Asks s'') : s.Asks s'' := by
  refine ⟨h'.entropy.trans h.entropy, ?_⟩
  obtain ⟨issued, hcalls, hissued⟩ := h.calls
  obtain ⟨issued', hcalls', hissued'⟩ := h'.calls
  refine ⟨issued ++ issued', ?_, ?_⟩
  · rw [hcalls', hcalls, List.append_assoc]
  · intro i hi
    rcases List.mem_append.mp hi with hi | hi
    · exact hissued i hi
    · rw [← h.entropy]
      exact hissued' i hi

theorem asks_issue (s : AdcState t) (call : AdcDriverCall t) (hcall : call.ofAdc = true) :
    s.Asks (s.issue call) := by
  refine ⟨rfl, [_], rfl, ?_⟩
  intro i hi
  rw [List.mem_singleton.mp hi]
  exact ⟨rfl, hcall⟩

/-- The tables may change: they are not what `Asks` is about. -/
theorem Asks.tables (h : s.Asks s') (hentropy : s''.internalEntropyEnabled =
    s'.internalEntropyEnabled) (hcalls : s''.calls = s'.calls) : s.Asks s'' :=
  ⟨hentropy.trans h.entropy, by rw [hcalls]; exact h.calls⟩

theorem asks_deleteCalibration (s : AdcState t) (channel : AdcChannel t) :
    s.Asks (bmxEsp32AdcDeleteCalibration s channel) := by
  unfold bmxEsp32AdcDeleteCalibration
  have hcurve := s.asks_issue (.deleteCurveFitting channel) rfl
  have hline := fun s' : AdcState t => s'.asks_issue (.deleteLineFitting channel) rfl
  dsimp only
  split
  · exact .refl s
  split <;> split
  · exact (hcurve.trans (hline _)).tables rfl rfl
  · exact hcurve.tables rfl rfl
  · exact (hline s).tables rfl rfl
  · exact (Asks.refl s).tables rfl rfl

theorem asks_tryScheme (s : AdcState t) (channel : AdcChannel t) (scheme : UInt8)
    (call : AdcDriverCall t) (hcall : call.ofAdc = true) (result : EspErr) :
    s.Asks (adcTryScheme s channel scheme call result).2 := by
  have hissued := s.asks_issue call hcall
  unfold adcTryScheme
  dsimp only
  split
  · exact hissued.tables rfl rfl
  · exact hissued

theorem asks_ensureCalibration (s : AdcState t) (channel : AdcChannel t)
    (r : AdcCalibrationResults) : s.Asks (bmxEsp32AdcEnsureCalibration s channel r).2 := by
  unfold bmxEsp32AdcEnsureCalibration
  dsimp only
  split
  · exact .refl s
  generalize bmxEsp32AdcAttenuationValue t (s.attenuation channel).toUInt32.toInt32 = atten
  have hline := fun s' : AdcState t => s'.asks_tryScheme channel 2
    (.createLineFitting channel.1 atten) rfl r.lineFitting
  by_cases hsupported : t.curveFittingSupported = true
  · have hcurve := s.asks_tryScheme channel 1 (.createCurveFitting channel atten) rfl
      r.curveFitting
    simp only [hsupported, if_true]
    split
    · exact hcurve
    split
    · exact hcurve.trans (hline _)
    · exact hcurve
  · simp only [hsupported, if_false, Bool.false_eq_true]
    split
    · exact hline s
    · exact .refl s

theorem asks_ensureUnit (s : AdcState t) (unit : Fin t.periphNum) (newUnit : EspErr) :
    s.Asks (bmxEsp32AdcEnsureUnit s unit newUnit).2 := by
  have hissued := s.asks_issue (.newUnit unit) rfl
  unfold bmxEsp32AdcEnsureUnit
  dsimp only
  split
  · exact .refl s
  split
  · exact hissued.tables rfl rfl
  · exact hissued

theorem asks_configure (s : AdcState t) (channel : AdcChannel t) (attenuation : Int32)
    (r : AdcConfigureResults) : s.Asks (bmxEsp32AdcConfigure s channel attenuation r).2 := by
  have hensured := s.asks_ensureUnit channel.1 r.newUnit
  have hasked := hensured.trans (asks_issue _ (.configChannel channel
    (bmxEsp32AdcAttenuationValue t attenuation)) rfl)
  unfold bmxEsp32AdcConfigure
  dsimp only
  split
  · exact .refl s
  split
  · exact hensured
  split
  · exact hasked
  · exact hasked.tables rfl rfl

/-- With the entropy source off, only the tables have to be looked at. -/
theorem Exclusive.asks (h : s.Exclusive) (hquiet : s.internalEntropyEnabled = false)
    (hasks : s.Asks s')
    (hopened : ∀ channel, s'.configured channel = true → s'.units channel.1 = true) :
    s'.Exclusive := by
  refine ⟨hopened, ?_, ?_⟩
  · rw [hasks.entropy, hquiet]
    exact nofun
  · obtain ⟨issued, hcalls, hissued⟩ := hasks.calls
    rw [hcalls]
    intro i hi
    rcases List.mem_append.mp hi with hi | hi
    · exact h.calls i hi
    · obtain ⟨hentropy, hadc⟩ := hissued i hi
      rw [hquiet] at hentropy
      refine ⟨fun htrue => absurd (hentropy.symm.trans htrue) (by decide), ?_⟩
      intro henable
      rw [henable] at hadc
      cases hadc

/-- A configured channel: the entropy source is off. -/
theorem Exclusive.quiet (h : s.Exclusive) (hchannel : s.configured channel = true) :
    s.internalEntropyEnabled = false := by
  rw [Bool.eq_false_iff]
  intro hentropy
  exact absurd ((h.opened channel hchannel).symm.trans (h.closed hentropy channel.1)) (by decide)

/-! ### The lookup of a pin -/

/-- The state after `bmx_esp32_adc_pin_mapping`. -/
def looked (s : AdcState t) (gpio : UInt32) : AdcState t :=
  if 0x7FFFFFFF < gpio then s else s.issue (.ioToChannel gpio.toInt32)

end AdcState

/-- The channel of a pin. -/
def AdcTarget.channelOf (t : AdcTarget) (gpio : UInt32) : Option (AdcChannel t) :=
  if 0x7FFFFFFF < gpio then none
  else (t.ioToChannel gpio.toInt32).bind fun x => adcChannelInRange t x.1 x.2

namespace AdcState

variable {s s' : AdcState t} {channel : AdcChannel t}

theorem pinMapping_eq (s : AdcState t) (gpio : UInt32) :
    bmxEsp32AdcPinMapping s gpio = (t.channelOf gpio, s.looked gpio) := by
  unfold bmxEsp32AdcPinMapping AdcTarget.channelOf looked
  split
  · rfl
  · dsimp only
    cases t.ioToChannel gpio.toInt32 <;> rfl

@[simp] theorem looked_units (s : AdcState t) (gpio : UInt32) :
    (s.looked gpio).units = s.units := by
  unfold looked
  split <;> rfl

@[simp] theorem looked_configured (s : AdcState t) (gpio : UInt32) :
    (s.looked gpio).configured = s.configured := by
  unfold looked
  split <;> rfl

@[simp] theorem looked_internalEntropyEnabled (s : AdcState t) (gpio : UInt32) :
    (s.looked gpio).internalEntropyEnabled = s.internalEntropyEnabled := by
  unfold looked
  split <;> rfl

/-- The lookup is lawful at any time. -/
theorem Exclusive.looked (h : s.Exclusive) (gpio : UInt32) : (s.looked gpio).Exclusive := by
  refine ⟨?_, ?_, ?_⟩
  · simpa using h.opened
  · simpa using h.closed
  · unfold AdcState.looked
    split
    · exact h.calls
    intro i hi
    rcases List.mem_append.mp hi with hi | hi
    · exact h.calls i hi
    · rw [List.mem_singleton.mp hi]
      exact ⟨fun _ _ => ⟨_, rfl⟩, nofun⟩

/-! ### Each operation -/

theorem ensureUnit_configured (s : AdcState t) (unit : Fin t.periphNum) (newUnit : EspErr) :
    (bmxEsp32AdcEnsureUnit s unit newUnit).2.configured = s.configured := by
  unfold bmxEsp32AdcEnsureUnit
  split
  · rfl
  dsimp only
  split <;> rfl

/-- The unit that is ensured is open, and no other one changes. -/
theorem ensureUnit_units (s : AdcState t) (unit : Fin t.periphNum) (newUnit : EspErr) :
    (bmxEsp32AdcEnsureUnit s unit newUnit).2.units =
      Function.update s.units unit (bmxEsp32AdcEnsureUnit s unit newUnit).1 := by
  unfold bmxEsp32AdcEnsureUnit
  split
  next hopen => rw [← hopen, Function.update_eq_self]
  next hclosed =>
    dsimp only
    split
    · rfl
    · rw [← Bool.eq_false_iff.mpr hclosed, Function.update_eq_self]
      rfl

theorem deleteCalibration_units (s : AdcState t) (channel : AdcChannel t) :
    (bmxEsp32AdcDeleteCalibration s channel).units = s.units := by
  unfold bmxEsp32AdcDeleteCalibration
  split
  · rfl
  dsimp only
  split <;> split <;> rfl

theorem deleteCalibration_configured (s : AdcState t) (channel : AdcChannel t) :
    (bmxEsp32AdcDeleteCalibration s channel).configured = s.configured := by
  unfold bmxEsp32AdcDeleteCalibration
  split
  · rfl
  dsimp only
  split <;> split <;> rfl

theorem tryScheme_tables (s : AdcState t) (channel : AdcChannel t) (scheme : UInt8)
    (create : AdcDriverCall t) (result : EspErr) :
    (adcTryScheme s channel scheme create result).2.units = s.units ∧
      (adcTryScheme s channel scheme create result).2.configured = s.configured := by
  unfold adcTryScheme
  dsimp only
  split <;> exact ⟨rfl, rfl⟩

theorem ensureCalibration_tables (s : AdcState t) (channel : AdcChannel t)
    (r : AdcCalibrationResults) :
    (bmxEsp32AdcEnsureCalibration s channel r).2.units = s.units ∧
      (bmxEsp32AdcEnsureCalibration s channel r).2.configured = s.configured := by
  unfold bmxEsp32AdcEnsureCalibration
  dsimp only
  split
  · exact ⟨rfl, rfl⟩
  generalize bmxEsp32AdcAttenuationValue t (s.attenuation channel).toUInt32.toInt32 = atten
  have hline := fun s' : AdcState t =>
    s'.tryScheme_tables channel 2 (.createLineFitting channel.1 atten) r.lineFitting
  by_cases hsupported : t.curveFittingSupported = true
  · have hcurve := s.tryScheme_tables channel 1 (.createCurveFitting channel atten) r.curveFitting
    simp only [hsupported, if_true]
    split
    · exact hcurve
    split
    · exact ⟨(hline _).1.trans hcurve.1, (hline _).2.trans hcurve.2⟩
    · exact hcurve
  · simp only [hsupported, if_false, Bool.false_eq_true]
    split
    · exact hline s
    · exact ⟨rfl, rfl⟩

/-- `configure` opens the unit, and then fails on the channel. -/
def Strands (s : AdcState t) (channel : AdcChannel t) (attenuation : Int32)
    (r : AdcConfigureResults) : Prop :=
  ¬ bmxEsp32AdcAttenuationValue t attenuation < 0 ∧ s.units channel.1 = false ∧
    r.newUnit = espOk ∧ r.configChannel ≠ espOk

/-- How `configure` can end. -/
inductive Configures (s : AdcState t) (channel : AdcChannel t) (attenuation : Int32)
    (r : AdcConfigureResults) (result : Bool × AdcState t) : Prop
  | refused (hok : ¬ s.Strands channel attenuation r) (hfailed : result.1 = false)
      (hunits : result.2.units = s.units) (hconfigured : result.2.configured = s.configured)
  | stranded (hstrands : s.Strands channel attenuation r) (hfailed : result.1 = false)
      (hunits : result.2.units = Function.update s.units channel.1 true)
      (hconfigured : result.2.configured = s.configured)
  | done (hok : ¬ s.Strands channel attenuation r) (hdone : result.1 = true)
      (hunits : result.2.units = Function.update s.units channel.1 true)
      (hconfigured : result.2.configured = Function.update s.configured channel true)

theorem configure_cases (s : AdcState t) (channel : AdcChannel t) (attenuation : Int32)
    (r : AdcConfigureResults) : s.Configures channel attenuation r
      (bmxEsp32AdcConfigure s channel attenuation r) := by
  have hunits := s.ensureUnit_units channel.1 r.newUnit
  have hconfigured := s.ensureUnit_configured channel.1 r.newUnit
  -- the unit is open in the end if it was, or if the driver opens it
  have hensured : (bmxEsp32AdcEnsureUnit s channel.1 r.newUnit).1 = true ↔
      s.units channel.1 = true ∨ r.newUnit = espOk := by
    unfold bmxEsp32AdcEnsureUnit
    by_cases hopen : s.units channel.1 = true <;> by_cases hnew : r.newUnit = espOk <;>
      simp [hopen, hnew]
  unfold bmxEsp32AdcConfigure
  dsimp only
  split
  next hvalue => exact .refused (fun h => h.1 hvalue) rfl rfl rfl
  next hvalue =>
  split
  next hfailed =>
    rw [hfailed] at hunits
    have hnot : ¬ (s.units channel.1 = true ∨ r.newUnit = espOk) := by
      rw [← hensured, hfailed]
      decide
    rw [not_or, Bool.not_eq_true] at hnot
    refine .refused (fun h => hnot.2 h.2.2.1) rfl ?_ hconfigured
    rw [hunits, ← hnot.1, Function.update_eq_self]
  next hopen =>
    rw [Bool.not_eq_false] at hopen
    rw [hopen] at hunits
    split
    next hchannel =>
      by_cases hwas : s.units channel.1 = true
      · refine .refused (fun h => absurd (hwas.symm.trans h.2.1) (by decide)) rfl ?_ hconfigured
        show (bmxEsp32AdcEnsureUnit s channel.1 r.newUnit).2.units = _
        rw [hunits, ← hwas, Function.update_eq_self]
      · rw [Bool.not_eq_true] at hwas
        have hnew : r.newUnit = espOk :=
          (hensured.mp hopen).resolve_left fun h => absurd (hwas.symm.trans h) (by decide)
        -- opened for this channel, which the driver then refuses
        exact .stranded ⟨hvalue, hwas, hnew, hchannel⟩ rfl hunits hconfigured
    next hchannel =>
      refine .done (fun h => hchannel h.2.2.2) rfl hunits ?_
      show Function.update (bmxEsp32AdcEnsureUnit s channel.1 r.newUnit).2.configured _ _ = _
      rw [hconfigured]

/-- An open unit stays open. -/
theorem opened_update {units : Fin t.periphNum → Bool} {unit : Fin t.periphNum}
    (h : units unit = true) (opened : Fin t.periphNum) :
    Function.update units opened true unit = true := by
  by_cases hunit : unit = opened
  · rw [hunit, Function.update_self]
  · rw [Function.update_of_ne hunit]
    exact h

theorem Exclusive.configure (h : s.Exclusive) (hquiet : s.internalEntropyEnabled = false)
    (channel : AdcChannel t) (attenuation : Int32) (r : AdcConfigureResults) :
    (bmxEsp32AdcConfigure s channel attenuation r).2.Exclusive := by
  apply h.asks hquiet (s.asks_configure channel attenuation r)
  intro d hd
  cases s.configure_cases channel attenuation r with
  | refused _ _ hunits hconfigured =>
    rw [hconfigured] at hd
    rw [hunits]
    exact h.opened d hd
  | stranded _ _ hunits hconfigured =>
    rw [hconfigured] at hd
    rw [hunits]
    exact opened_update (h.opened d hd) channel.1
  | done _ _ hunits hconfigured =>
    rw [hconfigured] at hd
    rw [hunits]
    by_cases hdc : d = channel
    · rw [hdc, Function.update_self]
    · rw [Function.update_of_ne hdc] at hd
      exact opened_update (h.opened d hd) channel.1

theorem Exclusive.deleteCalibration (h : s.Exclusive)
    (hquiet : s.internalEntropyEnabled = false) (channel : AdcChannel t) :
    (bmxEsp32AdcDeleteCalibration s channel).Exclusive := by
  apply h.asks hquiet (s.asks_deleteCalibration channel)
  rw [deleteCalibration_units, deleteCalibration_configured]
  exact h.opened

theorem Exclusive.initPin (h : s.Exclusive) (gpio : UInt32) (r : AdcConfigureResults) :
    (bmxEmbeddedAdcInitPin s gpio r).2.Exclusive := by
  unfold bmxEmbeddedAdcInitPin
  rw [pinMapping_eq]
  have hlooked := h.looked gpio
  cases t.channelOf gpio with
  | none => exact hlooked
  | some channel =>
    dsimp only
    split
    · exact hlooked
    next hquiet =>
    split
    · exact hlooked
    · exact hlooked.configure (Bool.eq_false_iff.mpr hquiet) channel _ r

/-- The last channel of a unit takes the unit with it. -/
theorem Exclusive.deinitPin (h : s.Exclusive) (gpio : UInt32) (delUnit : EspErr) :
    (bmxEmbeddedAdcDeinitPin s gpio delUnit).2.Exclusive := by
  unfold bmxEmbeddedAdcDeinitPin
  rw [pinMapping_eq]
  have hlooked := h.looked gpio
  cases t.channelOf gpio with
  | none => exact hlooked
  | some channel =>
  dsimp only
  split
  · exact hlooked
  next hconfigured =>
  rw [Bool.not_eq_false] at hconfigured
  have hquiet := hlooked.quiet hconfigured
  have hasks := (s.looked gpio).asks_deleteCalibration channel
  have hdeleted := hlooked.deleteCalibration hquiet channel
  have hchannel : (bmxEsp32AdcDeleteCalibration (s.looked gpio) channel).configured channel =
      true := by
    rw [deleteCalibration_configured]
    exact hconfigured
  generalize bmxEsp32AdcDeleteCalibration (s.looked gpio) channel = s' at *
  have hquiet' := hasks.entropy.trans hquiet
  -- with one channel less, every configured one still has its unit
  have hfewer : ∀ d, Function.update s'.configured channel false d = true →
      s'.configured d = true := by
    intro d hd
    by_cases hdc : d = channel
    · rw [hdc, Function.update_self] at hd
      cases hd
    · rwa [Function.update_of_ne hdc] at hd
  split
  · exact hdeleted.asks hquiet' ((Asks.refl _).tables rfl rfl)
      fun d hd => hdeleted.opened d (hfewer d hd)
  next hnone =>
  have hasked : s'.Asks (s'.setConfigured channel false) := (Asks.refl s').tables rfl rfl
  have hasked' := hasked.trans (asks_issue _ (.delUnit channel.1) rfl)
  split
  · refine hdeleted.asks hquiet' (hasked'.tables rfl rfl) ?_
    intro d hd
    by_cases hdc : d = channel
    · rw [hdc]
      exact hdeleted.opened channel hchannel
    · refine hdeleted.opened d (hfewer d ?_)
      rwa [← Function.update_of_ne hdc true (Function.update s'.configured channel false)]
  · refine hdeleted.asks hquiet' (hasked'.tables rfl rfl) ?_
    intro d hd
    -- no channel of this unit is configured any more
    have hunit : d.1 ≠ channel.1 := by
      intro heq
      apply hnone
      rw [List.any_eq_true]
      refine ⟨d.2, List.mem_finRange _, ?_⟩
      rw [← heq]
      exact hd
    show Function.update s'.units channel.1 false d.1 = true
    rw [Function.update_of_ne hunit]
    exact hdeleted.opened d (hfewer d hd)

theorem Exclusive.readRaw (h : s.Exclusive) (gpio : UInt32) (stored : Bool) (r : AdcReadResults) :
    (bmxEmbeddedAdcReadRaw s gpio stored r).2.Exclusive := by
  unfold bmxEmbeddedAdcReadRaw
  split
  · exact h
  rw [pinMapping_eq]
  have hlooked := h.looked gpio
  cases t.channelOf gpio with
  | none => exact hlooked
  | some channel =>
    dsimp only
    split
    · exact hlooked
    next hconfigured =>
    have hquiet := hlooked.quiet (Bool.not_eq_false _ ▸ hconfigured)
    exact hlooked.asks hquiet (asks_issue _ _ rfl) hlooked.opened

theorem Exclusive.setAttenuation (h : s.Exclusive) (gpio : UInt32) (attenuation : Int32)
    (r : AdcConfigureResults) : (bmxEsp32AdcSetAttenuation s gpio attenuation r).2.Exclusive := by
  unfold bmxEsp32AdcSetAttenuation
  split
  · exact h
  next hentropy =>
  rw [pinMapping_eq]
  have hlooked := h.looked gpio
  cases t.channelOf gpio with
  | none => exact hlooked
  | some channel =>
    dsimp only
    split
    · exact hlooked
    have hquiet : (s.looked gpio).internalEntropyEnabled = false := by
      rw [looked_internalEntropyEnabled]
      exact Bool.eq_false_iff.mpr hentropy
    have hconfigure := hlooked.configure hquiet channel attenuation r
    split
    · exact hconfigure
    · apply hconfigure.deleteCalibration
      exact ((s.looked gpio).asks_configure channel attenuation r).entropy.trans hquiet

theorem Exclusive.readMillivolts (h : s.Exclusive) (gpio : UInt32) (stored : Bool)
    (r : AdcReadResults) : (bmxEsp32AdcReadMillivolts s gpio stored r).2.Exclusive := by
  unfold bmxEsp32AdcReadMillivolts
  split
  · exact h
  rw [pinMapping_eq]
  have hlooked := h.looked gpio
  cases t.channelOf gpio with
  | none => exact hlooked
  | some channel =>
    dsimp only
    split
    · exact hlooked
    next hconfigured =>
    have hquiet := hlooked.quiet (Bool.not_eq_false _ ▸ hconfigured)
    have hensured := (s.looked gpio).asks_ensureCalibration channel r.calibration
    have htables := (s.looked gpio).ensureCalibration_tables channel r.calibration
    have hread := hensured.trans (asks_issue _ (.read channel) rfl)
    have hvoltage := hread.trans (asks_issue _ (.rawToVoltage channel r.reading) rfl)
    have hopened : ∀ d, (bmxEsp32AdcEnsureCalibration (s.looked gpio) channel
        r.calibration).2.configured d = true → (bmxEsp32AdcEnsureCalibration (s.looked gpio)
          channel r.calibration).2.units d.1 = true := by
      rw [htables.1, htables.2]
      exact hlooked.opened
    split
    · exact hlooked.asks hquiet hensured hopened
    split
    · exact hlooked.asks hquiet hread hopened
    · exact hlooked.asks hquiet hvoltage hopened

theorem Exclusive.enableInternalEntropy (h : s.Exclusive) :
    (bmxEsp32RandomEnableInternalEntropy s).Exclusive := by
  unfold bmxEsp32RandomEnableInternalEntropy
  split
  · exact h
  next hguard =>
  rw [not_or, Bool.not_eq_true, Bool.not_eq_true] at hguard
  refine ⟨h.opened, fun _ => anyInitialized_eq_false.mp hguard.2, ?_⟩
  intro i hi
  rcases List.mem_append.mp hi with hi | hi
  · exact h.calls i hi
  · rw [List.mem_singleton.mp hi]
    exact ⟨nofun, fun _ => hguard.2⟩

theorem Exclusive.disableInternalEntropy (h : s.Exclusive) :
    (bmxEsp32RandomDisableInternalEntropy s).Exclusive := by
  unfold bmxEsp32RandomDisableInternalEntropy
  split
  · exact h
  refine ⟨h.opened, nofun, ?_⟩
  intro i hi
  rcases List.mem_append.mp hi with hi | hi
  · exact h.calls i hi
  · rw [List.mem_singleton.mp hi]
    exact ⟨nofun, nofun⟩

/-- **Every call keeps the two modules apart.** -/
theorem Exclusive.call (h : s.Exclusive) (a : AdcCall) : (adcCall s a).Exclusive := by
  cases a with
  | initPin gpio r => exact h.initPin gpio r
  | deinitPin gpio delUnit => exact h.deinitPin gpio delUnit
  | readRaw gpio stored r => exact h.readRaw gpio stored r
  | setAttenuation gpio attenuation r => exact h.setAttenuation gpio attenuation r
  | readMillivolts gpio stored r => exact h.readMillivolts gpio stored r
  | enableInternalEntropy => exact h.enableInternalEntropy
  | disableInternalEntropy => exact h.disableInternalEntropy

theorem exclusive_reachable (h : (adcMachine t).Reachable s) : s.Exclusive := by
  apply h.invariant (I := Exclusive)
  · rintro s rfl
    exact ⟨nofun, nofun, nofun⟩
  · intro s a s' hs _ hstep
    obtain rfl := Option.some.inj hstep
    exact hs.call a

end AdcState

/-- **The converter and the entropy source exclude each other**, whatever calls are made and
however the drivers answer. -/
theorem adc_entropy_exclusion (t : AdcTarget) (s : AdcState t) (h : (adcMachine t).Reachable s) :
    (s.internalEntropyEnabled = true → ∀ unit, s.units unit = false) ∧
    (∀ issued ∈ s.calls, issued.entropyEnabled = true → issued.call.ofAdc = true →
      ∃ gpio, issued.call = .ioToChannel gpio) ∧
    ∀ issued ∈ s.calls, issued.call = .bootloaderRandomEnable → issued.unitOpen = false := by
  have hs := AdcState.exclusive_reachable h
  exact ⟨hs.closed, fun issued hi => (hs.calls issued hi).lookup,
    fun issued hi => (hs.calls issued hi).closed⟩

/-- One unit with two channels, for the pins 0 and 1. -/
def oneAdcUnit : AdcTarget := ⟨1, 2, 4, 0, 1, 2, 3, fun gpio => some (0, gpio.toInt), true, false⟩

/-- The entropy source is switched on once the pin is given back. -/
def entropyAfterAdc : AdcState oneAdcUnit :=
  adcCall (adcCall (adcCall (adcReset oneAdcUnit) (.initPin 0 {})) (.deinitPin 0 espOk))
    .enableInternalEntropy

theorem adc_entropy_exclusion_after : entropyAfterAdc.internalEntropyEnabled = true ∧
    ∀ unit, entropyAfterAdc.units unit = false :=
  ⟨rfl, (adc_entropy_exclusion oneAdcUnit entropyAfterAdc
    (.step (.step (.step (.init rfl) trivial rfl) trivial rfl) trivial rfl)).1 rfl⟩

/-- An `init_pin` that is refused for the entropy source has asked for its pin. -/
theorem adc_entropy_lookup : ¬ ∀ (t : AdcTarget) (s : AdcState t), (adcMachine t).Reachable s →
    ∀ issued ∈ s.calls, issued.call.isOneshot = true → issued.entropyEnabled = false := by
  intro hnone
  have hreachable : (adcMachine oneAdcUnit).Reachable
      (adcCall (adcCall (adcReset oneAdcUnit) .enableInternalEntropy) (.initPin 0 {})) :=
    .step (.step (.init rfl) trivial rfl) trivial rfl
  exact absurd (hnone _ _ hreachable ⟨.ioToChannel 0, true, false⟩ (.tail _ (.head _)) rfl)
    (by decide)

end Esp32Mod
