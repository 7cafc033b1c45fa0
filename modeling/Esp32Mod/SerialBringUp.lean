/-
Esp32Mod/SerialBringUp.lean

What a 0 of the serial bring-up calls says (`runtime.mod/native/esp32_spi.c`, `esp32_uart.c`).
`init` and `set_baudrate` return the rate that has been achieved, and 0 if they fail.

A step that fails is taken back, or has done nothing.  But the rate is read from the driver by a
call of its own, after everything has been committed; it may fail, and an SPI clock below 1 kHz
reads as 0.

Main results:

* `serial_bring_up` — for each of the four calls, a 0 leaves the controller as it was exactly if
  the rate could be read, or was not asked for;
* `spiReadsZero_iff_slow` — which clocks read as 0;
* `serial_bring_up_slow` — an SPI controller is up at 500 Hz, and its `init` has returned 0.
-/
import Esp32Mod.SpiDevice
import Mathlib.Algebra.Order.Ring.Nat

namespace Esp32Mod

open StepMachine Machine

/-! ### The UART -/

/-- What the driver holds for a port: whether it is installed, and the rate it was given last. -/
structure UartPort where
  installed : Bool
  rate : UInt32

/-- The fields of `BMXESP32UARTState` that bring-up sets. -/
structure UartFields where
  eventQueue : Option Nat
  errors : UInt32
  translateCrlf : Bool
  breakAsserted : Bool
  initialized : Bool

/-- The driver of a port may also be installed by others; that of an initialized controller is. -/
structure UartController where
  state : UartFields
  port : UartPort
  up : state.initialized = true → port.installed = true

/-- What the driver answers to an `init`. -/
structure UartBringUpResults where
  paramConfig : EspErr := espOk
  driverInstall : EspErr := espOk
  queue : Nat := 0
  /-- The answer of `uart_get_baudrate`. -/
  baudrate : EspErr × UInt32 := (espOk, 9600)

/-- What the driver answers to a `set_baudrate`. -/
structure UartRateResults where
  setBaudrate : EspErr := espOk
  baudrate : EspErr × UInt32 := (espOk, 9600)

namespace UartController

/-- 0 for a failure. -/
def bmxEsp32UartGetBaudrate (u : UartController) (baudrate : EspErr × UInt32) : UInt32 :=
  if u.state.initialized = false then 0
  else if baudrate.1 = espOk then baudrate.2 else 0

/-- The driver has been given a rate. -/
def withRate (u : UartController) (rate : UInt32) : UartController :=
  ⟨u.state, { u.port with rate }, u.up⟩

/-- The rate that the driver reads back, after the driver has been installed. -/
def bmxEsp32UartInit (u : UartController) (baudrate : UInt32) (r : UartBringUpResults) :
    UInt32 × UartController :=
  if baudrate = 0 ∨ u.state.initialized = true ∨ u.port.installed = true then (0, u)
  else if r.paramConfig ≠ espOk then (0, u)
  else
    let u := u.withRate baudrate
    if r.driverInstall ≠ espOk then (0, u)
    else
      let u : UartController :=
        { state := ⟨some r.queue, 0, false, false, true⟩
          port := { u.port with installed := true }
          up := fun _ => rfl }
      (u.bmxEsp32UartGetBaudrate r.baudrate, u)

/-- The rate that the driver reads back, after it has been set. -/
def bmxEsp32UartSetBaudrate (u : UartController) (baudrate : UInt32) (r : UartRateResults) :
    UInt32 × UartController :=
  if u.state.initialized = false ∨ baudrate = 0 ∨ r.setBaudrate ≠ espOk then (0, u)
  else
    let u := u.withRate baudrate
    (u.bmxEsp32UartGetBaudrate r.baudrate, u)

end UartController

/-! ### Nothing has happened -/

/-- After an `init` that has returned 0: another one will find what this one has found. -/
structure SpiController.NotBroughtUp (c c' : SpiController) : Prop where
  initialized : c'.state.initialized = false
  configured : c'.state.configured = c.state.configured
  attached : c'.host.attached = c.host.attached
  bus : c'.host.bus = true → c.host.bus = true

/-- The driver is as it was, and the controller down. -/
structure UartController.NotBroughtUp (u u' : UartController) : Prop where
  initialized : u'.state.initialized = false
  installed : u'.port.installed = u.port.installed

/-- The recorded device is attached, and runs at this rate. -/
def SpiController.RunsAt (c : SpiController) (baudrate : UInt32) : Prop :=
  ∃ d ∈ c.host.attached, c.state.device = some d.handle ∧ d.config.clockSpeedHz = baudrate.toInt32

/-- After a `set_baudrate` that has returned 0. -/
structure SpiController.RateKept (c c' : SpiController) : Prop where
  initialized : c'.state.initialized = true
  baudrate : c'.state.baudrate = c.state.baudrate
  device : c'.RunsAt c.state.baudrate

/-- The controller is up, with the rate it had. -/
structure UartController.RateKept (u u' : UartController) : Prop where
  initialized : u'.state.initialized = true
  installed : u'.port.installed = true
  rate : u'.port.rate = u.port.rate

/-! ### When a 0 says so -/

/-- The rate of a device reads as 0: the call fails, or the clock is below 1 kHz.  (A product of
exactly `2^32` would be one, too.) -/
def SpiReadsZero (frequency : EspErr × Int32) : Prop :=
  frequency.1 ≠ espOk ∨ frequency.2 ≤ 0 ∨ frequency.2.toUInt32 * 1000 = 0

instance (frequency : EspErr × Int32) : Decidable (SpiReadsZero frequency) :=
  inferInstanceAs (Decidable (_ ∨ _))

/-- The rate that is read back is 0. -/
def UartReadsZero (baudrate : EspErr × UInt32) : Prop := baudrate.1 ≠ espOk ∨ baudrate.2 = 0

/-- `init` does not come to read the rate, or reads one. -/
def SpiController.InitTells (c : SpiController) (baudrate : UInt32) (r : SpiInitResults) : Prop :=
  c.state.configured = false ∨ baudrate = 0 ∨ spiIntMax < baudrate ∨ r.busInitialize ≠ espOk ∨
    r.addDevice ≠ espOk ∨ ¬ SpiReadsZero r.frequency

/-- The arguments are refused and there is a device; or the device stays; or the new one is added,
and its rate reads or is no other; or the old one is added again. -/
def SpiController.RateTells (c : SpiController) (baudrate : UInt32) (r : SpiChangeResults) : Prop :=
  if spiBaudrateAccepted c baudrate = false then c.state.device ≠ none
  else if c.state.device ≠ none ∧ r.removeDevice ≠ espOk then True
  else if r.addDevice = espOk then ¬ SpiReadsZero r.frequency ∨ baudrate = c.state.baudrate
  else r.restore = espOk

/-- The condition of an `init` that tells what it has done. -/
def UartController.InitTells (u : UartController) (baudrate : UInt32) (r : UartBringUpResults) :
    Prop :=
  baudrate = 0 ∨ u.port.installed = true ∨ r.paramConfig ≠ espOk ∨ r.driverInstall ≠ espOk ∨
    ¬ UartReadsZero r.baudrate

/-- The condition of a `set_baudrate` that tells what it has done. -/
def UartController.RateTells (u : UartController) (baudrate : UInt32) (r : UartRateResults) :
    Prop :=
  baudrate = 0 ∨ r.setBaudrate ≠ espOk ∨ ¬ UartReadsZero r.baudrate ∨ baudrate = u.port.rate

/-! ### Reading the rate -/

theorem spiGetBaudrate_eq_zero_iff {c : SpiController} (hdevice : c.state.device ≠ none)
    (frequency : EspErr × Int32) :
    bmxEmbeddedSpiGetBaudrate c frequency = 0 ↔ SpiReadsZero frequency := by
  unfold bmxEmbeddedSpiGetBaudrate SpiReadsZero
  by_cases hread : frequency.1 = espOk
  · rw [if_neg (not_or.mpr ⟨hdevice, not_not.mpr hread⟩), ← Int32.not_lt]
    by_cases hpositive : 0 < frequency.2 <;> simp [hpositive, hread]
  · rw [if_pos (.inr hread)]
    exact iff_of_true rfl (.inl hread)

/-- The driver reports whole kHz, rounded down: what reads as 0 is a clock below 1 kHz. -/
theorem spiReadsZero_iff_slow {hertz : Nat} (h : hertz < 2 ^ 31) :
    SpiReadsZero (espOk, Int32.ofNat (hertz / 1000)) ↔ hertz < 1000 := by
  have hkhz : hertz / 1000 < 2 ^ 31 := by omega
  have hpositive : (Int32.ofNat (hertz / 1000) ≤ 0) ↔ hertz < 1000 := by
    rw [Int32.le_iff_toInt_le, Int32.toInt_ofNat_of_lt hkhz, Int32.toInt_zero]
    omega
  have hproduct : UInt32.ofNat (hertz / 1000) * 1000 = 0 ↔ hertz < 1000 := by
    rw [← UInt32.toNat_inj, UInt32.toNat_mul, UInt32.toNat_ofNat']
    show hertz / 1000 % 2 ^ 32 * 1000 % 2 ^ 32 = 0 ↔ hertz < 1000
    omega
  simp only [SpiReadsZero, Int32.toUInt32_ofNat', hpositive, hproduct, ne_eq, not_true, false_or,
    or_self]

theorem uartGetBaudrate_eq_zero_iff {u : UartController} (hup : u.state.initialized = true)
    (baudrate : EspErr × UInt32) :
    u.bmxEsp32UartGetBaudrate baudrate = 0 ↔ UartReadsZero baudrate := by
  unfold UartController.bmxEsp32UartGetBaudrate UartReadsZero
  rw [if_neg (by rw [hup]; decide)]
  by_cases hread : baudrate.1 = espOk <;> simp [hread]

/-! ### The SPI calls -/

namespace SpiController

variable {c c' : SpiController}

/-- A failed `init` has given the bus back, and no device has been recorded. -/
theorem init_notBroughtUp_iff (hdown : c.state.initialized = false) (baudrate : UInt32)
    {r : SpiInitResults} (hfree : r.busFree = espOk) :
    ((bmxEmbeddedSpiInit c baudrate r).1 = 0 →
      c.NotBroughtUp (bmxEmbeddedSpiInit c baudrate r).2) ↔ c.InitTells baudrate r := by
  unfold bmxEmbeddedSpiInit InitTells
  by_cases hguard : c.state.configured = false ∨ c.state.initialized = true ∨ baudrate = 0 ∨
      spiIntMax < baudrate
  · rw [if_pos hguard]
    refine iff_of_true (fun _ => ⟨hdown, rfl, rfl, id⟩) ?_
    rcases hguard with h | h | h | h
    · exact .inl h
    · exact absurd (hdown.symm.trans h) Bool.false_ne_true
    · exact .inr (.inl h)
    · exact .inr (.inr (.inl h))
  rw [if_neg hguard]
  obtain ⟨hconfigured, -, hzero, hmax⟩ := by simpa only [not_or] using hguard
  by_cases hbus : r.busInitialize = espOk
  swap
  · rw [if_pos hbus]
    exact iff_of_true (fun _ => ⟨hdown, rfl, rfl, id⟩) (.inr (.inr (.inr (.inl hbus))))
  rw [if_neg (not_not.mpr hbus)]
  by_cases hadd : r.addDevice = espOk
  swap
  · simp only [bmxEsp32SpiAddDevice, hadd, if_false, if_true, hfree]
    exact iff_of_true (fun _ => ⟨rfl, rfl, rfl, fun h => absurd h Bool.false_ne_true⟩) (.inr (.inr (.inr (.inr (.inl hadd)))))
  -- the controller is up whatever the rate reads as
  simp only [bmxEsp32SpiAddDevice, hadd, if_true, Bool.true_eq_false, if_false]
  rw [spiGetBaudrate_eq_zero_iff (Option.some_ne_none _)]
  simp only [hconfigured, hzero, hmax, hbus, ne_eq, not_true, Bool.true_eq_false, false_or]
  exact ⟨fun h hreads => absurd (h hreads).initialized.symm Bool.false_ne_true, fun h hreads => absurd hreads h⟩

/-- A device runs at the recorded rate, and only if the controller is initialized. -/
structure Tracked (c : SpiController) : Prop where
  running : c.state.device ≠ none → c.RunsAt c.state.baudrate
  up : c.state.device ≠ none → c.state.initialized = true

theorem RunsAt.device {baudrate : UInt32} (h : c.RunsAt baudrate) : c.state.device ≠ none := by
  obtain ⟨d, -, hdevice, -⟩ := h
  rw [hdevice]
  exact nofun

theorem runsAt_added (c : SpiController) :
    (bmxEsp32SpiAddDevice c espOk).2.RunsAt c.state.baudrate := by
  simp only [bmxEsp32SpiAddDevice, if_true]
  exact ⟨_, List.mem_append_right _ (List.mem_singleton_self _), rfl, rfl⟩

theorem Tracked.bare (h : c.state.device = none) : c.Tracked :=
  ⟨fun hdevice => absurd h hdevice, fun hdevice => absurd h hdevice⟩

theorem Tracked.add (h : c.Tracked) (hup : c.state.initialized = true) (add : EspErr) :
    (bmxEsp32SpiAddDevice c add).2.Tracked := by
  by_cases hadd : add = espOk
  · subst hadd
    exact ⟨fun _ => c.runsAt_added, fun _ => hup⟩
  · simp only [bmxEsp32SpiAddDevice, hadd, if_false]
    exact h

theorem Tracked.change (h : c.Tracked) {store undo : SpiState → SpiState} {r : SpiChangeResults}
    (hup : c.state.initialized = true) (hdevice : (store c.state).device = c.state.device)
    (hkeeps : (store c.state).initialized = c.state.initialized)
    (hundoes : ∀ device, undo { store c.state with device } = { c.state with device }) :
    (spiChange c store undo r).2.Tracked := by
  by_cases hstuck : c.state.device ≠ none ∧ r.removeDevice ≠ espOk
  · rw [change_stuck hdevice hundoes hstuck]
    exact h.add hup r.restore
  · obtain ⟨c', -, hc⟩ := change_free hdevice (hkeeps.trans hup) hundoes hstuck
    rw [hc]
    split
    · exact Tracked.add (c := ⟨{ store c.state with device := none }, c'.host⟩) (.bare rfl)
        (hkeeps.trans hup) espOk
    · exact Tracked.add (c := ⟨{ c.state with device := none }, c'.host⟩) (.bare rfl) hup r.restore

theorem initialized_of_accepted {baudrate : UInt32}
    (h : spiBaudrateAccepted c baudrate = true) : c.state.initialized = true := by
  simp only [spiBaudrateAccepted, Bool.and_eq_true] at h
  exact h.1.1

theorem initialized_of_formatAccepted {dataBits polarity phase bitOrder : UInt32}
    (h : spiFormatAccepted c dataBits polarity phase bitOrder = true) :
    c.state.initialized = true := by
  simp only [spiFormatAccepted, Bool.and_eq_true] at h
  exact h.1.1.1.1

/-- Also after a change that has added a second device. -/
theorem Tracked.call (h : c.Tracked) (t : SpiTarget) (a : SpiCall) : (spiCall t c a).Tracked := by
  cases a with
  | configurePins rxPin txPin sckPin =>
    simp only [spiCall, bmxEmbeddedSpiConfigurePins]
    split
    · exact h
    · exact ⟨h.running, h.up⟩
  | setUp baudrate r =>
    simp only [spiCall, bmxEmbeddedSpiInit]
    split
    · exact h
    next hguard =>
    split
    · exact h
    -- a device means that the bus is up, and then the call was refused
    have hdevice : c.state.device = none := by
      by_contra hdevice
      exact hguard (.inr (.inl (h.up hdevice)))
    by_cases hadd : r.addDevice = espOk
    · simp only [hadd]
      exact ⟨fun _ => runsAt_added _, fun _ => rfl⟩
    · simp only [bmxEsp32SpiAddDevice, hadd, if_false, if_true]
      exact .bare hdevice
  | deinit q =>
    simp only [spiCall, bmxEmbeddedSpiDeinit]
    split
    · exact h
    split
    · exact h
    next c' hdetach =>
    -- the detached state has no device, whether or not there was one
    have hdevice : c'.state.device = none := by
      unfold spiDetach at hdetach
      split at hdetach
      next hnone => exact Option.some.inj hdetach ▸ hnone
      next =>
        split at hdetach
        · exact Option.some.inj hdetach ▸ rfl
        · cases hdetach
    split
    · exact .bare hdevice
    · exact .bare hdevice
  | setBaudrate baudrate r =>
    simp only [spiCall, bmxEmbeddedSpiSetBaudrate]
    split
    · exact h
    next haccepted =>
    rw [Bool.not_eq_false] at haccepted
    exact h.change (initialized_of_accepted haccepted) rfl rfl fun _ => rfl
  | setFormat dataBits polarity phase bitOrder r =>
    simp only [spiCall, bmxEmbeddedSpiSetFormat]
    split
    · exact h
    next haccepted =>
    rw [Bool.not_eq_false] at haccepted
    exact h.change (initialized_of_formatAccepted haccepted) rfl rfl fun _ => rfl

theorem tracked_reachable {t : SpiTarget} {m : SpiTable t} (h : (spiMachine t).Reachable m)
    (i : Fin t.controllerCount) : (m i).Tracked := by
  refine h.invariant (I := fun m : SpiTable t => ∀ i, (m i).Tracked) ?_ ?_ i
  · rintro m rfl i
    exact .bare rfl
  · intro m a m' hm _ hstep j
    simp only [spiMachine, spiStep] at hstep
    split at hstep
    · exact Option.some.inj hstep ▸ hm j
    next i _ =>
    rw [← Option.some.inj hstep]
    by_cases hj : j = i
    · rw [hj, Function.update_self]
      exact (hm i).call t a.2
    · rw [Function.update_of_ne hj]
      exact hm j

/-- A failed `set_baudrate` has put the old rate back if it could. -/
theorem Tracked.rateKept_iff (h : c.Tracked) (hup : c.state.initialized = true)
    (baudrate : UInt32) (r : SpiChangeResults) :
    ((bmxEmbeddedSpiSetBaudrate c baudrate r).1 = 0 →
      c.RateKept (bmxEmbeddedSpiSetBaudrate c baudrate r).2) ↔ c.RateTells baudrate r := by
  unfold bmxEmbeddedSpiSetBaudrate RateTells
  -- a request that is not accepted changes nothing
  by_cases haccepted : spiBaudrateAccepted c baudrate = false
  · rw [if_pos haccepted, if_pos haccepted]
    exact ⟨fun hkept => (hkept rfl).device.device, fun hd _ => ⟨hup, rfl, h.running hd⟩⟩
  rw [if_neg haccepted, if_neg haccepted]
  by_cases hstuck : c.state.device ≠ none ∧ r.removeDevice ≠ espOk
  · -- the device is still there, or there is another one of the same rate
    rw [if_pos hstuck, change_stuck rfl (fun _ => rfl) hstuck]
    refine iff_of_true (fun _ => ?_) trivial
    by_cases hrestore : r.restore = espOk
    · rw [hrestore]
      exact ⟨hup, rfl, c.runsAt_added⟩
    · simp only [bmxEsp32SpiAddDevice, hrestore, if_false]
      exact ⟨hup, rfl, h.running hstuck.1⟩
  rw [if_neg hstuck]
  obtain ⟨c', -, hc⟩ := @change_free c (fun s => { s with baudrate })
    (fun s => { s with baudrate := c.state.baudrate }) r rfl hup (fun _ => rfl) hstuck
  rw [hc]
  -- the old device is gone; the new one has the new rate, or there is none until it is put back
  by_cases hadd : r.addDevice = espOk
  · rw [if_pos hadd, if_pos hadd]
    have hadded := runsAt_added { c' with state := { c.state with baudrate, device := none } }
    simp only [if_true, spiGetBaudrate_eq_zero_iff hadded.device]
    rw [← imp_iff_not_or]
    refine imp_congr_right fun _ => ⟨fun hkept => hkept.baudrate, ?_⟩
    rintro rfl
    exact ⟨hup, rfl, hadded⟩
  · rw [if_neg hadd, if_neg hadd]
    simp only [Bool.false_eq_true, if_false, forall_const]
    constructor
    · intro hkept
      by_contra hrestore
      simp only [bmxEsp32SpiAddDevice, hrestore, if_false] at hkept
      exact absurd rfl hkept.device.device
    · intro hrestore
      rw [hrestore]
      exact ⟨hup, rfl, runsAt_added { c' with state := { c.state with device := none } }⟩

end SpiController

/-! ### The UART calls -/

namespace UartController

theorem init_notBroughtUp_iff (u : UartController) (hdown : u.state.initialized = false)
    (baudrate : UInt32) (r : UartBringUpResults) :
    ((u.bmxEsp32UartInit baudrate r).1 = 0 → u.NotBroughtUp (u.bmxEsp32UartInit baudrate r).2) ↔
      u.InitTells baudrate r := by
  unfold bmxEsp32UartInit InitTells
  by_cases hguard : baudrate = 0 ∨ u.state.initialized = true ∨ u.port.installed = true
  · rw [if_pos hguard]
    refine iff_of_true (fun _ => ⟨hdown, rfl⟩) ?_
    rcases hguard with h | h | h
    · exact .inl h
    · exact absurd (hdown.symm.trans h) Bool.false_ne_true
    · exact .inr (.inl h)
  rw [if_neg hguard]
  obtain ⟨hzero, -, hinstalled⟩ := by simpa only [not_or] using hguard
  by_cases hconfig : r.paramConfig = espOk
  swap
  · rw [if_pos hconfig]
    exact iff_of_true (fun _ => ⟨hdown, rfl⟩) (.inr (.inr (.inl hconfig)))
  rw [if_neg (not_not.mpr hconfig)]
  by_cases hinstall : r.driverInstall = espOk
  swap
  · rw [if_pos hinstall]
    exact iff_of_true (fun _ => ⟨hdown, rfl⟩) (.inr (.inr (.inr (.inl hinstall))))
  -- the driver is installed whatever the rate reads as
  rw [if_neg (not_not.mpr hinstall), uartGetBaudrate_eq_zero_iff rfl]
  simp only [hzero, hinstalled, hconfig, hinstall, ne_eq, not_true, Bool.false_eq_true, false_or]
  exact ⟨fun h hreads => absurd (h hreads).initialized.symm Bool.false_ne_true, fun h hreads => absurd hreads h⟩

theorem rateKept_iff (u : UartController) (hup : u.state.initialized = true) (baudrate : UInt32)
    (r : UartRateResults) :
    ((u.bmxEsp32UartSetBaudrate baudrate r).1 = 0 →
      u.RateKept (u.bmxEsp32UartSetBaudrate baudrate r).2) ↔ u.RateTells baudrate r := by
  unfold bmxEsp32UartSetBaudrate RateTells
  by_cases hguard : u.state.initialized = false ∨ baudrate = 0 ∨ r.setBaudrate ≠ espOk
  · rw [if_pos hguard]
    refine iff_of_true (fun _ => ⟨hup, u.up hup, rfl⟩) ?_
    rcases hguard with h | h | h
    · exact absurd (hup.symm.trans h) nofun
    · exact .inl h
    · exact .inr (.inl h)
  rw [if_neg hguard]
  obtain ⟨-, hzero, hset⟩ := by simpa only [not_or] using hguard
  dsimp only
  rw [uartGetBaudrate_eq_zero_iff (u := u.withRate baudrate) hup, or_iff_right hzero,
    or_iff_right hset, ← imp_iff_not_or]
  refine imp_congr_right fun _ => ⟨fun hkept => hkept.rate, fun hsame => ⟨hup, u.up hup, hsame⟩⟩

end UartController

/-- **A 0 says that nothing has happened exactly if the rate could be read, or was not asked for**:
for both `init` on a controller that is down, given that releasing calls succeed, and for both
`set_baudrate` on one that is up. -/
theorem serial_bring_up (t : SpiTarget) (m : SpiTable t) (h : (spiMachine t).Reachable m)
    (i : Fin t.controllerCount) (u : UartController) (baudrate : UInt32) :
    (∀ r : SpiInitResults, (m i).state.initialized = false → r.busFree = espOk →
      (((bmxEmbeddedSpiInit (m i) baudrate r).1 = 0 →
        (m i).NotBroughtUp (bmxEmbeddedSpiInit (m i) baudrate r).2) ↔
          (m i).InitTells baudrate r)) ∧
    (∀ r : SpiChangeResults, (m i).state.initialized = true →
      (((bmxEmbeddedSpiSetBaudrate (m i) baudrate r).1 = 0 →
        (m i).RateKept (bmxEmbeddedSpiSetBaudrate (m i) baudrate r).2) ↔
          (m i).RateTells baudrate r)) ∧
    (∀ r : UartBringUpResults, u.state.initialized = false →
      (((u.bmxEsp32UartInit baudrate r).1 = 0 →
        u.NotBroughtUp (u.bmxEsp32UartInit baudrate r).2) ↔ u.InitTells baudrate r)) ∧
    ∀ r : UartRateResults, u.state.initialized = true →
      (((u.bmxEsp32UartSetBaudrate baudrate r).1 = 0 →
        u.RateKept (u.bmxEsp32UartSetBaudrate baudrate r).2) ↔ u.RateTells baudrate r) :=
  ⟨fun _ hdown hfree => SpiController.init_notBroughtUp_iff hdown baudrate hfree,
    fun r hup => (SpiController.tracked_reachable h i).rateKept_iff hup baudrate r,
    fun r hdown => u.init_notBroughtUp_iff hdown baudrate r,
    fun r hup => u.rateKept_iff hup baudrate r⟩

/-- A UART that is down, and one that is up at 9600 baud. -/
def downUart : UartController := ⟨⟨none, 0, false, false, false⟩, ⟨false, 0⟩, nofun⟩

/-- A controller that is up, at 9600 bauds. -/
def upUart : UartController := (downUart.bmxEsp32UartInit 9600 {}).2

/-- For each of the four calls, a driver call that fails. -/
theorem serial_bring_up_failed : ∃ m m' : SpiTable oneSpiController,
    (m onlySpiController).NotBroughtUp
      (bmxEmbeddedSpiInit (m onlySpiController) 1000000 { addDevice := espErrNoMem }).2 ∧
    (m' onlySpiController).RateKept
      (bmxEmbeddedSpiSetBaudrate (m' onlySpiController) 2000000 { addDevice := espErrNoMem }).2 ∧
    downUart.NotBroughtUp
      (downUart.bmxEsp32UartInit 115200 { driverInstall := espErrNoMem }).2 ∧
    upUart.RateKept (upUart.bmxEsp32UartSetBaudrate 115200 { setBaudrate := espFail }).2 := by
  have hpins : (spiMachine oneSpiController).Reachable _ :=
    .step (a := (0, .configurePins 1 2 3)) (.init rfl) trivial rfl
  have hup : (spiMachine oneSpiController).Reachable _ :=
    .step (a := (0, .setUp 1000000 {})) hpins trivial rfl
  obtain ⟨hspi, -, -, -⟩ := serial_bring_up _ _ hpins onlySpiController downUart 1000000
  obtain ⟨-, hspiRate, -, -⟩ := serial_bring_up _ _ hup onlySpiController downUart 2000000
  obtain ⟨-, -, huart, -⟩ := serial_bring_up _ _ hpins onlySpiController downUart 115200
  obtain ⟨-, -, -, huartRate⟩ := serial_bring_up _ _ hpins onlySpiController upUart 115200
  refine ⟨_, _, (hspi _ rfl rfl).mpr ?_ rfl, (hspiRate _ rfl).mpr ?_ rfl,
    (huart _ rfl).mpr ?_ rfl, (huartRate _ rfl).mpr ?_ rfl⟩
  · exact .inr (.inr (.inr (.inr (.inl (by decide)))))
  · exact rfl
  · exact .inr (.inr (.inr (.inl (by decide))))
  · exact .inr (.inl (by decide))

/-- The clock runs at 500 Hz, which reads as 0 kHz. -/
theorem serial_bring_up_slow : ∃ m : SpiTable oneSpiController,
    (spiMachine oneSpiController).Reachable m ∧
    (m onlySpiController).state.initialized = false ∧
    ∃ r : SpiInitResults, r.frequency = (espOk, Int32.ofNat (500 / 1000)) ∧ r.busFree = espOk ∧
      (bmxEmbeddedSpiInit (m onlySpiController) 500 r).1 = 0 ∧
      (bmxEmbeddedSpiInit (m onlySpiController) 500 r).2.state.initialized = true ∧
      ¬ (m onlySpiController).NotBroughtUp
        (bmxEmbeddedSpiInit (m onlySpiController) 500 r).2 := by
  refine ⟨_, .step (a := (0, .configurePins 1 2 3)) (.init rfl) trivial rfl, rfl,
    { frequency := (espOk, 0) }, rfl, rfl, rfl, rfl, ?_⟩
  intro hdown
  exact absurd hdown.initialized (by decide)

end Esp32Mod
