/-
Esp32Mod/SpiDevice.lean

The SPI controllers of the native runtime (`runtime.mod/native/esp32_spi.c`): pins, bring-up and
teardown, clock rate and format.  Every controller has one device on its bus, which is removed
and added again whenever the rate or the format changes.

`SpiHost` is what the driver holds for a controller.  A handle is the number of devices that the
driver had created on this host before; NULL is `none`.  Adding a device that fails leaves the
handle as it is.

Main results:

* `spi_devices` — the driver holds exactly the recorded device, created with the recorded
  parameters, in every run whose steps are all `SpiOrderly`;
* `spi_device_leaked` — the other steps attach a second device;
* `spi_devices_broken` — such a run.
-/
import Esp32Mod.StepMachine
import Esp32Mod.Errors
import Mathlib.Data.List.Basic
import Mathlib.Logic.Function.Basic

namespace Esp32Mod

open StepMachine Machine

/-! ### The driver -/

/-- `spi_device_interface_config_t`, with its one flag `SPI_DEVICE_BIT_LSBFIRST`. -/
structure SpiDeviceConfig where
  mode : UInt8
  clockSpeedHz : Int32
  spicsIoNum : Int32
  lsbFirst : Bool
  queueSize : Nat

/-- A device that the driver holds; no two have the same handle. -/
structure SpiDevice where
  handle : Nat
  config : SpiDeviceConfig

/-- What the driver has for one controller: the bus, its devices, and how many it has created. -/
structure SpiHost where
  bus : Bool
  attached : List SpiDevice
  created : Nat

namespace SpiHost

/-- `spi_bus_add_device`, when it succeeds. -/
def addDevice (h : SpiHost) (config : SpiDeviceConfig) : SpiHost :=
  { h with attached := h.attached ++ [⟨h.created, config⟩], created := h.created + 1 }

/-- `spi_bus_remove_device`, when it succeeds. -/
def removeDevice (h : SpiHost) (handle : Nat) : SpiHost :=
  { h with attached := h.attached.filter fun d => d.handle != handle }

end SpiHost

/-! ### The controllers -/

/-- An entry of `bmx_esp32_spi`; `device` is its handle, `none` for `NULL`. -/
structure SpiState where
  device : Option Nat
  baudrate : UInt32
  rxPin : Int32
  txPin : Int32
  sckPin : Int32
  configured : Bool
  initialized : Bool
  dataBits : UInt8
  polarity : UInt8
  phase : UInt8
  bitOrder : UInt8

/-- The entry of a controller, with the driver behind it. -/
structure SpiController where
  state : SpiState
  host : SpiHost

/-- The target: `SOC_SPI_PERIPH_NUM - 1`, and which pins it has. -/
structure SpiTarget where
  controllerCount : Nat
  isValidGpio : Int32 → Bool
  isValidOutputGpio : Int32 → Bool

/-- `INT_MAX` and `INT32_MAX`. -/
def spiIntMax : UInt32 := 0x7FFFFFFF

/-- The configuration that a device is created with; `mode` packs polarity and phase. -/
def spiDeviceConfig (s : SpiState) : SpiDeviceConfig where
  mode := s.polarity <<< 1 ||| s.phase
  clockSpeedHz := s.baudrate.toInt32
  spicsIoNum := -1
  lsbFirst := s.bitOrder == 0
  queueSize := 1

/-- `add` is the result of `spi_bus_add_device`. -/
def bmxEsp32SpiAddDevice (c : SpiController) (add : EspErr) : Bool × SpiController :=
  if add = espOk then
    (true, ⟨{ c.state with device := some c.host.created },
      c.host.addDevice (spiDeviceConfig c.state)⟩)
  else (false, c)

/-- Remove the device if there is one; `remove` is the result of `spi_bus_remove_device`, and
`none` that it fails. -/
def spiDetach (c : SpiController) (remove : EspErr) : Option SpiController :=
  match c.state.device with
  | none => some c
  | some handle =>
    if remove = espOk then
      some ⟨{ c.state with device := none }, c.host.removeDevice handle⟩
    else none

/-- A device cannot be changed, so it is removed and created anew. -/
def bmxEsp32SpiReconfigure (c : SpiController) (remove add : EspErr) : Bool × SpiController :=
  if c.state.initialized = false then (false, c)
  else
    match spiDetach c remove with
    | none => (false, c)
    | some c => bmxEsp32SpiAddDevice c add

/-- `frequency` is what `spi_device_get_actual_freq` answers, in kHz. -/
def bmxEmbeddedSpiGetBaudrate (c : SpiController) (frequency : EspErr × Int32) : UInt32 :=
  if c.state.device = none ∨ frequency.1 ≠ espOk then 0
  else if 0 < frequency.2 then frequency.2.toUInt32 * 1000 else 0

/-- Three different pins, each of which can do what it is for. -/
def spiPinsValid (t : SpiTarget) (rxPin txPin sckPin : UInt32) : Bool :=
  decide (rxPin ≤ spiIntMax) && decide (txPin ≤ spiIntMax) && decide (sckPin ≤ spiIntMax) &&
    rxPin != txPin && rxPin != sckPin && txPin != sckPin && t.isValidGpio rxPin.toInt32 &&
    t.isValidOutputGpio txPin.toInt32 && t.isValidOutputGpio sckPin.toInt32

/-- Pins can be chosen only while the controller is down. -/
def bmxEmbeddedSpiConfigurePins (t : SpiTarget) (c : SpiController)
    (rxPin txPin sckPin : UInt32) : Int32 × SpiController :=
  if c.state.initialized = true ∨ spiPinsValid t rxPin txPin sckPin = false then (0, c)
  else
    (1, { c with state := { c.state with
      rxPin := rxPin.toInt32, txPin := txPin.toInt32, sckPin := sckPin.toInt32,
      configured := true } })

/-- What the driver answers on the way through an initialization. -/
structure SpiInitResults where
  busInitialize : EspErr := espOk
  addDevice : EspErr := espOk
  busFree : EspErr := espOk
  frequency : EspErr × Int32 := (espOk, 1)

/-- Bring the bus up with one device.  The result is the rate that the driver reports, 0 for a
failure. -/
def bmxEmbeddedSpiInit (c : SpiController) (baudrate : UInt32) (r : SpiInitResults) :
    UInt32 × SpiController :=
  if c.state.configured = false ∨ c.state.initialized = true ∨ baudrate = 0 ∨
      spiIntMax < baudrate then (0, c)
  else if r.busInitialize ≠ espOk then (0, c)
  else
    let c : SpiController :=
      { state := { c.state with
          baudrate, dataBits := 8, polarity := 0, phase := 0, bitOrder := 1, initialized := true }
        host := { c.host with bus := true } }
    let (added, c) := bmxEsp32SpiAddDevice c r.addDevice
    if added = false then
      -- no device is recorded; the result of `spi_bus_free` is ignored
      (0, { state := { c.state with initialized := false }
            host := { c.host with bus := decide (r.busFree ≠ espOk) } })
    else (bmxEmbeddedSpiGetBaudrate c r.frequency, c)

/-- What the driver answers on the way down. -/
structure SpiDeinitResults where
  removeDevice : EspErr := espOk
  busFree : EspErr := espOk

/-- The device goes first, then the bus; either may refuse. -/
def bmxEmbeddedSpiDeinit (c : SpiController) (q : SpiDeinitResults) : Int32 × SpiController :=
  if c.state.initialized = false then (0, c)
  else
    match spiDetach c q.removeDevice with
    | none => (0, c)
    | some c =>
      -- still initialized, now without a device
      if q.busFree ≠ espOk then (0, c)
      else
        (1, { state := { c.state with initialized := false, baudrate := 0 }
              host := { c.host with bus := false } })

/-- `restore` is the result of the `spi_bus_add_device` that follows a failed change. -/
structure SpiChangeResults where
  removeDevice : EspErr := espOk
  addDevice : EspErr := espOk
  restore : EspErr := espOk
  frequency : EspErr × Int32 := (espOk, 1)

/-- What the two setters below do once their arguments are accepted: `store` the new values and
reconfigure the device; if that fails, `undo` it and add the device again. -/
def spiChange (c : SpiController) (store undo : SpiState → SpiState) (r : SpiChangeResults) :
    Bool × SpiController :=
  let (done, c) := bmxEsp32SpiReconfigure { c with state := store c.state } r.removeDevice
    r.addDevice
  if done = true then (true, c)
  -- also after a removal that failed, with the device still in place
  else (false, (bmxEsp32SpiAddDevice { c with state := undo c.state } r.restore).2)

/-- The checks of `bmx_embedded_spi_set_baudrate` on its argument. -/
def spiBaudrateAccepted (c : SpiController) (baudrate : UInt32) : Bool :=
  c.state.initialized && baudrate != 0 && decide (baudrate ≤ spiIntMax)

/-- The result is the rate that the driver reports, or 0. -/
def bmxEmbeddedSpiSetBaudrate (c : SpiController) (baudrate : UInt32) (r : SpiChangeResults) :
    UInt32 × SpiController :=
  if spiBaudrateAccepted c baudrate = false then (0, c)
  else
    let (done, c) := spiChange c (fun s => { s with baudrate })
      (fun s => { s with baudrate := c.state.baudrate }) r
    (if done = true then bmxEmbeddedSpiGetBaudrate c r.frequency else 0, c)

/-- The checks of `bmx_embedded_spi_set_format` on its arguments. -/
def spiFormatAccepted (c : SpiController) (dataBits polarity phase bitOrder : UInt32) : Bool :=
  c.state.initialized && (dataBits == 8 || dataBits == 16) && decide (polarity ≤ 1) &&
    decide (phase ≤ 1) && decide (bitOrder ≤ 1)

/-- `dataBits` is recorded for the transfers only; the driver is not told. -/
def bmxEmbeddedSpiSetFormat (c : SpiController) (dataBits polarity phase bitOrder : UInt32)
    (r : SpiChangeResults) : Int32 × SpiController :=
  if spiFormatAccepted c dataBits polarity phase bitOrder = false then (0, c)
  else
    let (done, c) := spiChange c
      (fun s => { s with
        dataBits := dataBits.toUInt8, polarity := polarity.toUInt8, phase := phase.toUInt8,
        bitOrder := bitOrder.toUInt8 })
      (fun s => { s with
        dataBits := c.state.dataBits, polarity := c.state.polarity, phase := c.state.phase,
        bitOrder := c.state.bitOrder }) r
    (if done = true then 1 else 0, c)

/-! ### Runs of calls -/

/-- A call of the module, with what the driver answers to it. -/
inductive SpiCall
  | configurePins (rxPin txPin sckPin : UInt32)
  | setUp (baudrate : UInt32) (r : SpiInitResults)
  | deinit (q : SpiDeinitResults)
  | setBaudrate (baudrate : UInt32) (r : SpiChangeResults)
  | setFormat (dataBits polarity phase bitOrder : UInt32) (r : SpiChangeResults)

/-- The controller after a call; its result is dropped. -/
def spiCall (t : SpiTarget) (c : SpiController) : SpiCall → SpiController
  | .configurePins rxPin txPin sckPin => (bmxEmbeddedSpiConfigurePins t c rxPin txPin sckPin).2
  | .setUp baudrate r => (bmxEmbeddedSpiInit c baudrate r).2
  | .deinit q => (bmxEmbeddedSpiDeinit c q).2
  | .setBaudrate baudrate r => (bmxEmbeddedSpiSetBaudrate c baudrate r).2
  | .setFormat dataBits polarity phase bitOrder r =>
    (bmxEmbeddedSpiSetFormat c dataBits polarity phase bitOrder r).2

/-- The static table, one entry for each controller. -/
abbrev SpiTable (t : SpiTarget) := Fin t.controllerCount → SpiController

/-- The entry that `bmx_esp32_spi_state` returns. -/
def bmxEsp32SpiState (t : SpiTarget) (controller : Int32) : Option (Fin t.controllerCount) :=
  if h : 0 ≤ controller.toInt ∧ controller.toInt < t.controllerCount then
    some ⟨controller.toInt.toNat, by omega⟩
  else none

/-- A call for a controller that does not exist changes nothing. -/
def spiStep (t : SpiTarget) (m : SpiTable t) (a : Int32 × SpiCall) : Option (SpiTable t) :=
  match bmxEsp32SpiState t a.1 with
  | none => some m
  | some i => some (Function.update m i (spiCall t (m i) a.2))

/-- A controller before its first call. -/
def spiReset : SpiController :=
  ⟨⟨none, 0, 0, 0, 0, false, false, 0, 0, 0, 0⟩, ⟨false, [], 0⟩⟩

/-- Any calls for any controllers, in any order. -/
def spiMachine (t : SpiTarget) : Machine (SpiTable t) (Int32 × SpiCall) where
  init m := m = fun _ => spiReset
  step := spiStep t

/-- The device has been created with these parameters. -/
structure SpiDevice.CreatedWith (d : SpiDevice) (baudrate : UInt32) (polarity phase bitOrder : UInt8) :
    Prop where
  baudrate : d.config.clockSpeedHz.toInt = baudrate.toNat
  polarity : d.config.mode >>> 1 = polarity
  phase : d.config.mode &&& 1 = phase
  bitOrder : (if d.config.lsbFirst then 0 else 1) = bitOrder

/-- The driver holds exactly the recorded device, with the recorded parameters. -/
structure SpiController.Booked (c : SpiController) : Prop where
  held : c.host.attached.map SpiDevice.handle = c.state.device.toList
  up : c.state.device ≠ none → c.state.initialized = true
  created : ∀ d ∈ c.host.attached,
    d.CreatedWith c.state.baudrate c.state.polarity c.state.phase c.state.bitOrder

/-- The device cannot be removed for the change, and is added again nevertheless. -/
def SpiChangeResults.AddsAgain (r : SpiChangeResults) (c : SpiController) : Prop :=
  c.state.device ≠ none ∧ r.removeDevice ≠ espOk ∧ r.restore = espOk

/-- A change that is accepted, cannot remove the device, and adds it again. -/
def SpiCall.Leaks (c : SpiController) : SpiCall → Prop
  | setBaudrate baudrate r => spiBaudrateAccepted c baudrate = true ∧ r.AddsAgain c
  | setFormat dataBits polarity phase bitOrder r =>
    spiFormatAccepted c dataBits polarity phase bitOrder = true ∧ r.AddsAgain c
  | _ => False

/-- The condition on a step: no change that fails to remove the device then adds it again. -/
def SpiOrderly {t : SpiTarget} (m : SpiTable t) (a : Int32 × SpiCall) : Prop :=
  ∀ i ∈ bmxEsp32SpiState t a.1, ¬ a.2.Leaks (m i)

/-! ### Parameters of a device -/

/-- The values that the setters let through. -/
structure SpiState.InRange (s : SpiState) : Prop where
  baudrate : s.baudrate ≤ spiIntMax
  polarity : s.polarity ≤ 1
  phase : s.phase ≤ 1
  bitOrder : s.bitOrder ≤ 1

theorem SpiState.InRange.withDevice {s : SpiState} (h : s.InRange) (device : Option Nat) :
    { s with device }.InRange :=
  ⟨h.baudrate, h.polarity, h.phase, h.bitOrder⟩

theorem le_one_iff (b : UInt8) : b ≤ 1 ↔ b = 0 ∨ b = 1 := by
  rw [UInt8.le_iff_toNat_le, ← UInt8.toNat_inj, ← UInt8.toNat_inj]
  show b.toNat ≤ 1 ↔ b.toNat = 0 ∨ b.toNat = 1
  omega

theorem toInt_toInt32 {n : UInt32} (h : n ≤ spiIntMax) : n.toInt32.toInt = n.toNat := by
  have hlt : n.toNat ≤ 2147483647 := UInt32.le_iff_toNat_le.mp h
  show n.toBitVec.toInt = n.toBitVec.toNat
  have hnat : n.toBitVec.toNat = n.toNat := rfl
  rw [BitVec.toInt_eq_toNat_of_lt]
  omega

/-- In range, a device tells the parameters it has been created with. -/
theorem createdWith_config {s : SpiState} (h : s.InRange) (handle : Nat) :
    SpiDevice.CreatedWith ⟨handle, spiDeviceConfig s⟩ s.baudrate s.polarity s.phase s.bitOrder := by
  have hmode : (s.polarity <<< 1 ||| s.phase) >>> 1 = s.polarity ∧
      (s.polarity <<< 1 ||| s.phase) &&& 1 = s.phase := by
    rcases (le_one_iff _).mp h.polarity with hp | hp <;>
      rcases (le_one_iff _).mp h.phase with hq | hq <;>
      rw [hp, hq] <;> exact ⟨rfl, rfl⟩
  refine ⟨toInt_toInt32 h.baudrate, hmode.1, hmode.2, ?_⟩
  show (if (s.bitOrder == 0) = true then 0 else 1) = s.bitOrder
  rcases (le_one_iff _).mp h.bitOrder with hb | hb <;> rw [hb] <;> rfl

/-! ### Adding and removing -/

variable {c c' : SpiController}

namespace SpiController

/-- No device, neither recorded nor held. -/
structure Bare (c : SpiController) : Prop where
  device : c.state.device = none
  attached : c.host.attached = []

theorem Bare.booked (h : c.Bare) : c.Booked := by
  refine ⟨?_, fun hdevice => absurd h.device hdevice, ?_⟩
  · rw [h.device, h.attached]
    rfl
  · rw [h.attached]
    exact fun d hd => nomatch hd

/-- Adding a device to an initialized controller without one. -/
theorem Bare.add (h : c.Bare) (hup : c.state.initialized = true) (hrange : c.state.InRange)
    (add : EspErr) : (bmxEsp32SpiAddDevice c add).2.Booked := by
  unfold bmxEsp32SpiAddDevice
  split
  · have hattached : (c.host.addDevice (spiDeviceConfig c.state)).attached =
        [⟨c.host.created, spiDeviceConfig c.state⟩] := by
      show c.host.attached ++ _ = _
      rw [h.attached]
      rfl
    refine ⟨?_, fun _ => hup, ?_⟩
    · show (c.host.addDevice _).attached.map _ = [c.host.created]
      rw [hattached]
      rfl
    · intro d hd
      rw [hattached, List.mem_singleton] at hd
      rw [hd]
      exact createdWith_config hrange _
  · exact h.booked

theorem add_state (c : SpiController) (add : EspErr) :
    ∃ device, (bmxEsp32SpiAddDevice c add).2.state = { c.state with device } := by
  unfold bmxEsp32SpiAddDevice
  split
  · exact ⟨_, rfl⟩
  · exact ⟨c.state.device, rfl⟩

/-- Only the recorded device is held, hence none after it has been removed. -/
theorem removed (h : c.host.attached.map SpiDevice.handle = c.state.device.toList) {handle : Nat}
    (hdevice : c.state.device = some handle) : (c.host.removeDevice handle).attached = [] := by
  rw [hdevice] at h
  show c.host.attached.filter _ = []
  rw [List.filter_eq_nil_iff]
  intro d hd
  have hmem : d.handle ∈ [handle] := by
    rw [← Option.toList_some, ← h]
    exact List.mem_map_of_mem hd
  simp [List.mem_singleton.mp hmem]

theorem detach_some (h : c.host.attached.map SpiDevice.handle = c.state.device.toList)
    {remove : EspErr} (hdetach : spiDetach c remove = some c') :
    c'.Bare ∧ c'.state = { c.state with device := none } := by
  unfold spiDetach at hdetach
  split at hdetach
  next hdevice =>
    obtain rfl := Option.some.inj hdetach
    rw [hdevice] at h
    refine ⟨⟨hdevice, List.map_eq_nil_iff.mp h⟩, ?_⟩
    rw [← hdevice]
  next handle hdevice =>
    split at hdetach
    · obtain rfl := Option.some.inj hdetach
      exact ⟨⟨rfl, removed h hdevice⟩, rfl⟩
    · cases hdetach

theorem detach_none_iff {remove : EspErr} :
    spiDetach c remove = none ↔ c.state.device ≠ none ∧ remove ≠ espOk := by
  unfold spiDetach
  split
  next hdevice => simp [hdevice]
  next handle hdevice => simp [hdevice]

/-! ### The calls keep the bookkeeping -/

/-- The invariant: the bookkeeping is right, and the recorded values are in range. -/
structure Sound (c : SpiController) : Prop where
  booked : c.Booked
  range : c.state.InRange

theorem Sound.add (h : c.Bare) (hup : c.state.initialized = true) (hrange : c.state.InRange)
    (add : EspErr) : (bmxEsp32SpiAddDevice c add).2.Sound := by
  refine ⟨h.add hup hrange add, ?_⟩
  obtain ⟨device, hstate⟩ := add_state c add
  rw [hstate]
  exact hrange.withDevice device

/-- A controller that is not initialized has no device. -/
theorem Sound.bare (h : c.Sound) (hdown : c.state.initialized ≠ true) : c.Bare := by
  have hdevice : c.state.device = none := by
    by_contra hdevice
    exact hdown (h.booked.up hdevice)
  refine ⟨hdevice, ?_⟩
  have hheld := h.booked.held
  rw [hdevice] at hheld
  exact List.map_eq_nil_iff.mp hheld

theorem Sound.configurePins (h : c.Sound) (t : SpiTarget) (rxPin txPin sckPin : UInt32) :
    (bmxEmbeddedSpiConfigurePins t c rxPin txPin sckPin).2.Sound := by
  unfold bmxEmbeddedSpiConfigurePins
  split
  · exact h
  · exact ⟨⟨h.booked.held, h.booked.up, h.booked.created⟩,
      h.range.1, h.range.2, h.range.3, h.range.4⟩

theorem Sound.setUp (h : c.Sound) (baudrate : UInt32) (r : SpiInitResults) :
    (bmxEmbeddedSpiInit c baudrate r).2.Sound := by
  unfold bmxEmbeddedSpiInit
  split
  · exact h
  next hguard =>
  simp only [not_or] at hguard
  obtain ⟨-, hdown, -, hmax⟩ := hguard
  split
  · exact h
  have hbare := h.bare hdown
  have hmax' : baudrate ≤ spiIntMax := UInt32.not_lt.mp hmax
  have hzero : (0 : UInt8) ≤ 1 := by decide
  have hone : (1 : UInt8) ≤ 1 := by decide
  by_cases hadd : r.addDevice = espOk
  · have hsound := Sound.add (c := ⟨{ c.state with
        baudrate, dataBits := 8, polarity := 0, phase := 0, bitOrder := 1, initialized := true },
      { c.host with bus := true }⟩) ⟨hbare.device, hbare.attached⟩ rfl
      ⟨hmax', hzero, hzero, hone⟩ r.addDevice
    simp only [bmxEsp32SpiAddDevice, hadd, if_true, Bool.true_eq_false, if_false] at hsound ⊢
    exact hsound
  · simp only [bmxEsp32SpiAddDevice, hadd, if_false, if_true]
    exact ⟨Bare.booked ⟨hbare.device, hbare.attached⟩, hmax', hzero, hzero, hone⟩

theorem Sound.deinit (h : c.Sound) (q : SpiDeinitResults) :
    (bmxEmbeddedSpiDeinit c q).2.Sound := by
  unfold bmxEmbeddedSpiDeinit
  split
  · exact h
  split
  · exact h
  next c' hdetach =>
  obtain ⟨hbare, hstate⟩ := detach_some h.booked.held hdetach
  have hrange : c'.state.InRange := by
    rw [hstate]
    exact h.range.withDevice none
  split
  · exact ⟨hbare.booked, hrange⟩
  · have hzero : (0 : UInt32) ≤ spiIntMax := by decide
    exact ⟨Bare.booked ⟨hbare.device, hbare.attached⟩, hzero, hrange.2, hrange.3, hrange.4⟩

/-- What a setter has to know of its two functions: `store` keeps the rest of the state, and
`undo` takes it back. -/
structure Change (s : SpiState) (store undo : SpiState → SpiState) : Prop where
  device : (store s).device = s.device
  up : (store s).initialized = s.initialized
  range : (store s).InRange
  undoes : ∀ device, undo { store s with device } = { s with device }

variable {store undo : SpiState → SpiState} {r : SpiChangeResults}

/-- A device that cannot be removed: the change is undone, and the device added again. -/
theorem change_stuck (hdevice : (store c.state).device = c.state.device)
    (hundoes : ∀ device, undo { store c.state with device } = { c.state with device })
    (hstuck : c.state.device ≠ none ∧ r.removeDevice ≠ espOk) :
    spiChange c store undo r = (false, (bmxEsp32SpiAddDevice c r.restore).2) := by
  have hundo : undo (store c.state) = c.state := hundoes (store c.state).device ▸ by
    rw [hdevice]
  have hdetach : spiDetach { c with state := store c.state } r.removeDevice = none := by
    rw [detach_none_iff]
    exact ⟨hdevice.symm ▸ hstuck.1, hstuck.2⟩
  have hfailed : bmxEsp32SpiReconfigure { c with state := store c.state } r.removeDevice
      r.addDevice = (false, { c with state := store c.state }) := by
    unfold bmxEsp32SpiReconfigure
    rw [hdetach]
    split <;> rfl
  unfold spiChange
  rw [hfailed]
  simp only [Bool.false_eq_true, if_false, hundo]

/-- The device is gone, or there was none: the new one is added with the values that `store` has
stored, or if that fails with those of before. -/
theorem change_free (hdevice : (store c.state).device = c.state.device)
    (hup : (store c.state).initialized = true)
    (hundoes : ∀ device, undo { store c.state with device } = { c.state with device })
    (hfree : ¬ (c.state.device ≠ none ∧ r.removeDevice ≠ espOk)) :
    ∃ c', spiDetach c r.removeDevice = some c' ∧ spiChange c store undo r =
      if r.addDevice = espOk then
        (true, (bmxEsp32SpiAddDevice
          { c' with state := { store c.state with device := none } } espOk).2)
      else
        (false, (bmxEsp32SpiAddDevice
          { c' with state := { c.state with device := none } } r.restore).2) := by
  obtain ⟨c', hdetach⟩ : ∃ c', spiDetach c r.removeDevice = some c' := by
    rw [← Option.ne_none_iff_exists']
    exact fun hnone => hfree (detach_none_iff.mp hnone)
  refine ⟨c', hdetach, ?_⟩
  -- the device goes whatever values are stored beside it
  have hstored : spiDetach { c with state := store c.state } r.removeDevice =
      some { c' with state := { store c.state with device := none } } := by
    unfold spiDetach at hdetach ⊢
    simp only [hdevice]
    split at hdetach
    next hnone =>
      obtain rfl := Option.some.inj hdetach
      simp only [← hdevice.trans hnone]
    next handle hsome =>
      split at hdetach
      next hremove =>
        obtain rfl := Option.some.inj hdetach
        simp only [hremove, if_true]
      next => cases hdetach
  have hreconfigure : bmxEsp32SpiReconfigure { c with state := store c.state } r.removeDevice
      r.addDevice = bmxEsp32SpiAddDevice
        { c' with state := { store c.state with device := none } } r.addDevice := by
    unfold bmxEsp32SpiReconfigure
    rw [hstored]
    simp only [hup, Bool.true_eq_false, if_false]
  unfold spiChange
  rw [hreconfigure]
  -- if the new device is refused, the old values are stored again and a device added with them
  by_cases hadd : r.addDevice = espOk
  · simp only [bmxEsp32SpiAddDevice, hadd, if_true]
  · simp only [bmxEsp32SpiAddDevice, hadd, if_false, Bool.false_eq_true, hundoes]

theorem Sound.change (h : c.Sound) (hup : c.state.initialized = true)
    (hchange : Change c.state store undo) (hok : ¬ r.AddsAgain c) :
    (spiChange c store undo r).2.Sound := by
  by_cases hstuck : c.state.device ≠ none ∧ r.removeDevice ≠ espOk
  -- nothing is removed, and the condition says that nothing is added
  · have hrestore : r.restore ≠ espOk := fun hrestore => hok ⟨hstuck.1, hstuck.2, hrestore⟩
    rw [change_stuck hchange.device hchange.undoes hstuck]
    simp only [bmxEsp32SpiAddDevice, hrestore, if_false]
    exact h
  -- the device is gone, and each of the two additions finds a controller without one
  · obtain ⟨c', hdetach, hc⟩ := change_free hchange.device (hchange.up.trans hup) hchange.undoes
      hstuck
    have hbare := (detach_some h.booked.held hdetach).1
    rw [hc]
    split
    · exact Sound.add (c := ⟨{ store c.state with device := none }, c'.host⟩) ⟨rfl, hbare.attached⟩
        (hchange.up.trans hup) (hchange.range.withDevice none) espOk
    · exact Sound.add (c := ⟨{ c.state with device := none }, c'.host⟩) ⟨rfl, hbare.attached⟩
        hup (h.range.withDevice none) r.restore

theorem change_baudrate (h : c.Sound) {baudrate : UInt32}
    (haccepted : spiBaudrateAccepted c baudrate = true) :
    c.state.initialized = true ∧ Change c.state (fun s => { s with baudrate })
      (fun s => { s with baudrate := c.state.baudrate }) := by
  simp only [spiBaudrateAccepted, Bool.and_eq_true, decide_eq_true_eq] at haccepted
  obtain ⟨⟨hup, -⟩, hmax⟩ := haccepted
  exact ⟨hup, rfl, rfl, ⟨hmax, h.range.2, h.range.3, h.range.4⟩, fun _ => rfl⟩

theorem toUInt8_le_one {n : UInt32} (h : n ≤ 1) : n.toUInt8 ≤ 1 := by
  rw [UInt8.le_iff_toNat_le, UInt32.toNat_toUInt8]
  have hn : n.toNat ≤ 1 := UInt32.le_iff_toNat_le.mp h
  show n.toNat % 256 ≤ 1
  omega

theorem change_format (h : c.Sound) {dataBits polarity phase bitOrder : UInt32}
    (haccepted : spiFormatAccepted c dataBits polarity phase bitOrder = true) :
    c.state.initialized = true ∧ Change c.state
      (fun s => { s with
        dataBits := dataBits.toUInt8, polarity := polarity.toUInt8, phase := phase.toUInt8,
        bitOrder := bitOrder.toUInt8 })
      (fun s => { s with
        dataBits := c.state.dataBits, polarity := c.state.polarity, phase := c.state.phase,
        bitOrder := c.state.bitOrder }) := by
  simp only [spiFormatAccepted, Bool.and_eq_true, decide_eq_true_eq] at haccepted
  obtain ⟨⟨⟨⟨hup, -⟩, hpolarity⟩, hphase⟩, horder⟩ := haccepted
  exact ⟨hup, rfl, rfl, ⟨h.range.1, toUInt8_le_one hpolarity, toUInt8_le_one hphase,
    toUInt8_le_one horder⟩, fun _ => rfl⟩

theorem Sound.setBaudrate (h : c.Sound) {baudrate : UInt32} {r : SpiChangeResults}
    (hok : ¬ (SpiCall.setBaudrate baudrate r).Leaks c) :
    (bmxEmbeddedSpiSetBaudrate c baudrate r).2.Sound := by
  unfold bmxEmbeddedSpiSetBaudrate
  split
  · exact h
  next haccepted =>
  rw [Bool.not_eq_false] at haccepted
  obtain ⟨hup, hchange⟩ := change_baudrate h haccepted
  exact h.change hup hchange fun hadds => hok ⟨haccepted, hadds⟩

theorem Sound.setFormat (h : c.Sound) {dataBits polarity phase bitOrder : UInt32}
    {r : SpiChangeResults}
    (hok : ¬ (SpiCall.setFormat dataBits polarity phase bitOrder r).Leaks c) :
    (bmxEmbeddedSpiSetFormat c dataBits polarity phase bitOrder r).2.Sound := by
  unfold bmxEmbeddedSpiSetFormat
  split
  · exact h
  next haccepted =>
  rw [Bool.not_eq_false] at haccepted
  obtain ⟨hup, hchange⟩ := change_format h haccepted
  exact h.change hup hchange fun hadds => hok ⟨haccepted, hadds⟩

theorem Sound.call (h : c.Sound) (t : SpiTarget) {a : SpiCall} (hok : ¬ a.Leaks c) :
    (spiCall t c a).Sound := by
  cases a with
  | configurePins rxPin txPin sckPin => exact h.configurePins t rxPin txPin sckPin
  | setUp baudrate r => exact h.setUp baudrate r
  | deinit q => exact h.deinit q
  | setBaudrate baudrate r => exact h.setBaudrate hok
  | setFormat dataBits polarity phase bitOrder r => exact h.setFormat hok

/-- A change that adds the device again while it is still there. -/
theorem change_leaks (h : c.Sound) (hchange : Change c.state store undo) (hadds : r.AddsAgain c) :
    ¬ (spiChange c store undo r).2.Booked := by
  obtain ⟨hdevice, hremove, hrestore⟩ := hadds
  rw [change_stuck hchange.device hchange.undoes ⟨hdevice, hremove⟩]
  simp only [bmxEsp32SpiAddDevice, hrestore, if_true]
  intro hbooked
  have hlength := congrArg List.length hbooked.held
  have hheld := congrArg List.length h.booked.held
  have hone : c.state.device.toList.length = 1 := by
    obtain ⟨handle, hhandle⟩ := Option.ne_none_iff_exists'.mp hdevice
    rw [hhandle]
    rfl
  simp only [List.length_map] at hlength hheld
  -- the old device and the new one, against the one handle that is recorded
  have htwo : (c.host.attached ++ [(⟨c.host.created, spiDeviceConfig c.state⟩ : SpiDevice)]).length =
      1 := hlength
  rw [List.length_append, List.length_singleton] at htwo
  omega

end SpiController

/-- **The driver holds exactly the recorded device** of every controller, in every run in which
no failed change adds the device again without having removed it. -/
theorem spi_devices (t : SpiTarget) (m : SpiTable t)
    (h : (spiMachine t).ReachableIn SpiOrderly m) : ∀ i, (m i).Booked := by
  have hsound : ∀ i, (m i).Sound := by
    apply h.invariant (I := fun m : SpiTable t => ∀ i, (m i).Sound)
    · rintro m rfl i
      have hrange : spiReset.state.InRange := by constructor <;> decide
      exact ⟨SpiController.Bare.booked ⟨rfl, rfl⟩, hrange⟩
    · intro m a m' hm hok hstep
      cases hi : bmxEsp32SpiState t a.1 with
      | none =>
        simp only [spiMachine, spiStep, hi, Option.some.injEq] at hstep
        rw [← hstep]
        exact hm
      | some i =>
        simp only [spiMachine, spiStep, hi, Option.some.injEq] at hstep
        rw [← hstep]
        intro j
        by_cases hj : j = i
        · rw [hj, Function.update_self]
          exact (hm i).call t (hok i hi)
        -- a call does not touch the other controllers
        · rw [Function.update_of_ne hj]
          exact hm j
  exact fun i => (hsound i).booked

/-- **Any other step attaches a second device.** -/
theorem spi_device_leaked (t : SpiTarget) {c : SpiController} (h : c.Sound) {a : SpiCall}
    (hleaks : a.Leaks c) : ¬ (spiCall t c a).Booked := by
  cases a with
  | setBaudrate baudrate r =>
    obtain ⟨haccepted, hadds⟩ := hleaks
    show ¬ (bmxEmbeddedSpiSetBaudrate c baudrate r).2.Booked
    simp only [bmxEmbeddedSpiSetBaudrate, haccepted, Bool.true_eq_false, if_false]
    exact SpiController.change_leaks h (SpiController.change_baudrate h haccepted).2 hadds
  | setFormat dataBits polarity phase bitOrder r =>
    obtain ⟨haccepted, hadds⟩ := hleaks
    show ¬ (bmxEmbeddedSpiSetFormat c dataBits polarity phase bitOrder r).2.Booked
    simp only [bmxEmbeddedSpiSetFormat, haccepted, Bool.true_eq_false, if_false]
    exact SpiController.change_leaks h (SpiController.change_format h haccepted).2 hadds
  | _ => exact hleaks.elim

/-- A target with one controller, and with every pin. -/
def oneSpiController : SpiTarget := ⟨1, fun _ => true, fun _ => true⟩

/-- Its controller. -/
def onlySpiController : Fin oneSpiController.controllerCount := ⟨0, Nat.one_pos⟩

theorem spi_devices_rate_changed : ∃ m : SpiTable oneSpiController,
    (m onlySpiController).state.device = some 1 ∧ ∀ i, (m i).Booked := by
  refine ⟨_, ?_, spi_devices oneSpiController _ (.step (a := (0, .setBaudrate 2000000 {}))
    (.step (a := (0, .setUp 1000000 {})) (.step (a := (0, .configurePins 1 2 3))
      (.init rfl) ?_ rfl) ?_ rfl) ?_ rfl)⟩
  · rfl
  · exact fun _ _ h => h
  · exact fun _ _ h => h
  · intro i hi hleaks
    exact absurd rfl hleaks.2.2.1

/-- The device cannot be removed for a new clock rate, and is added a second time. -/
theorem spi_devices_broken : ∃ m, (spiMachine oneSpiController).Reachable m ∧
    ¬ ∀ i, (m i).Booked := by
  obtain ⟨m, hm, hbroken⟩ := exists_reachable_of_run (M := spiMachine oneSpiController)
    (s := fun _ => spiReset)
    [(0, .configurePins 1 2 3), (0, .setUp 1000000 {}),
      (0, .setBaudrate 2000000 { removeDevice := espErrInvalidState })]
    (fun m : SpiTable oneSpiController =>
      decide ((m onlySpiController).host.attached.length = 2)) rfl (by decide)
  refine ⟨m, hm, ?_⟩
  intro hbooked
  have hlength := congrArg List.length (hbooked onlySpiController).held
  have htwo : (m onlySpiController).host.attached.length = 2 := of_decide_eq_true hbroken
  rw [List.length_map, htwo] at hlength
  have hle := Option.length_toList_le (o := (m onlySpiController).state.device)
  omega

end Esp32Mod
