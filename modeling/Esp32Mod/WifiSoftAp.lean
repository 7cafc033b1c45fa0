/-
Esp32Mod/WifiSoftAp.lean

The access point of the Wi-Fi adapter (`network.mod/wifi.mod/native/esp32_wifi.c`):
`bmx_esp32_wifi_start_access_point` and `bmx_esp32_wifi_stop_access_point`, beside
`initialize` and `deinitialize`.  The configuration goes to `esp_wifi_set_config` only and is
left out; what is checked before it is not.

Main results:

* `soft_ap_active` — the adapter reports an active access point exactly when the radio is in
  the mode for one, in every run whose steps are all `SoftApOrderly`;
* `soft_ap_restart` — a failed start is what breaks this, and only of an access point that runs;
* `soft_ap_active_broken` — such a run.
-/
import Esp32Mod.TerminalEvents
import Esp32Mod.WifiBringUp

namespace Esp32Mod

open StepMachine Machine FallibleSteps

/-! ### The calls -/

/-- `ESP_ERR_WIFI_NOT_INIT`. -/
def espErrWifiNotInit : EspErr := 0x3001

/-- `none` is `WIFI_AUTH_MAX`. -/
def bmxWifiAuthentication (authentication : UInt32) : Option WifiAuthMode :=
  match authentication.toNat with
  | 0 => some .authOpen
  | 1 => some .wpaPsk
  | 2 => some .wpa2Psk
  | 3 => some .wpaWpa2Psk
  | 4 => some .wpa3Psk
  | 5 => some .wpa2Wpa3Psk
  | _ => none

/-- The arguments of `wifi_start_access_point`. -/
structure SoftApArgs where
  ssid : Option (List UInt8)
  ssidLength : UInt32
  password : Option (List UInt8)
  passwordLength : UInt32
  authentication : UInt32
  channel : UInt32
  maximumConnections : UInt32
  hidden : Int32

/-- The lengths and the numbers are in range. -/
def SoftApArgs.inRange (a : SoftApArgs) : Bool :=
  a.ssid.isSome && a.ssidLength != 0 && decide (a.ssidLength ≤ 32) &&
    decide (a.passwordLength ≤ 63) && (a.passwordLength == 0 || a.password.isSome) &&
    decide (a.channel ≤ 255) && a.maximumConnections != 0 && decide (a.maximumConnections ≤ 255)

/-- The authentication is known and has the password that it needs. -/
def SoftApArgs.authenticates (a : SoftApArgs) : Bool :=
  match bmxWifiAuthentication a.authentication with
  | none | some .wep => false
  | some .authOpen => a.passwordLength == 0
  | some _ => decide (8 ≤ a.passwordLength)

/-- The driver has changed its mode. -/
def WifiModule.setMode (s : WifiModule) (mode : WifiMode) : WifiModule :=
  { s with platform := { s.platform with mode } }

/-- `mode` and `config` are the results of `esp_wifi_set_mode` and `esp_wifi_set_config`,
`rollback` that of `esp_wifi_set_mode` after one of them has failed. -/
def bmxEsp32WifiStartAccessPoint (s : WifiModule) (a : SoftApArgs) (mode config rollback : EspErr) :
    EspErr × WifiModule :=
  if s.initialized = false then (espErrWifiNotInit, s)
  else if a.inRange = false then (espErrInvalidArg, s)
  else if a.authenticates = false then (espErrInvalidArg, s)
  else
    let result := if mode = espOk then config else mode
    let s := if mode = espOk then s.setMode .apsta else s
    if result ≠ espOk then
      -- the flag is left as it is
      (result, if rollback = espOk then s.setMode .sta else s)
    else (espOk, { s with apActive := true })

/-- The flag is cleared once the driver has gone back to the station. -/
def bmxEsp32WifiStopAccessPoint (s : WifiModule) (mode : EspErr) : EspErr × WifiModule :=
  if s.initialized = false then (espErrWifiNotInit, s)
  else if s.apActive = false then (espOk, s)
  else if mode = espOk then (espOk, { s.setMode .sta with apActive := false })
  else (mode, s)

/-- The flag. -/
def bmxEsp32WifiAccessPointActive (s : WifiModule) : Int32 := if s.apActive then 1 else 0

/-! ### Runs of calls -/

/-- The calls of the application. -/
inductive SoftApCall
  | up (country : UInt32) (r : WifiInitResults)
  | down (q : WifiDeinitResults)
  | start (a : SoftApArgs) (mode config : EspErr)
  | stop (mode : EspErr)

/-- The rollback of a failed start succeeds. -/
def softApStep (s : WifiModule) : SoftApCall → Option WifiModule
  | .up country r => some (bmxEmbeddedWifiInitialize s country r).2
  | .down q => some (Esp32Mod.bmxEmbeddedWifiDeinitialize s q).2
  | .start a mode config => some (bmxEsp32WifiStartAccessPoint s a mode config espOk).2
  | .stop mode => some (bmxEsp32WifiStopAccessPoint s mode).2

/-- The machine starts with an adapter that has never been initialized. -/
def softApMachine : Machine WifiModule SoftApCall where
  init s := s.Idle ∧ s.apActive = false ∧ s.platform.mode = .null
  step := softApStep

/-- The access point is reported active exactly when the radio is in the mode for one. -/
def WifiModule.ApReported (s : WifiModule) : Prop :=
  bmxEsp32WifiAccessPointActive s = 1 ↔ s.platform.mode = .apsta

/-- The driver is asked for an access point, and refuses. -/
def SoftApCall.FailsInDriver (s : WifiModule) : SoftApCall → Prop
  | start a mode config =>
    s.initialized = true ∧ a.inRange = true ∧ a.authenticates = true ∧
      ¬ (mode = espOk ∧ config = espOk)
  | _ => False

/-- The condition on a step: no start fails in the driver while an access point runs. -/
def SoftApOrderly (s : WifiModule) (a : SoftApCall) : Prop :=
  ¬ (s.apActive = true ∧ a.FailsInDriver s)

/-! ### The invariant -/

variable {s : WifiModule}

theorem apActive_iff (s : WifiModule) : bmxEsp32WifiAccessPointActive s = 1 ↔ s.apActive = true := by
  unfold bmxEsp32WifiAccessPointActive
  cases s.apActive <;> decide

/-- The flag follows the mode, and is clear while the adapter is not initialized. -/
structure WifiModule.ApSound (s : WifiModule) : Prop where
  follows : s.apActive = true ↔ s.platform.mode = .apsta
  down : s.initialized = false → s.apActive = false

/-- The driver steps choose the station mode, or leave the mode as it is. -/
theorem driverSteps_mode (country : UInt32) (r : WifiInitResults) {p : WifiPlatform}
    (hp : p.mode ≠ .apsta) : (run espOk (wifiDriverSteps country r) p).2.mode ≠ .apsta := by
  apply run_invariant fun p' : WifiPlatform => p'.mode ≠ .apsta
  · exact hp
  · intro step hstep p' hp'
    simp only [wifiDriverSteps, List.mem_cons, List.not_mem_nil, or_false] at hstep
    rcases hstep with rfl | rfl | rfl | rfl | rfl | rfl | rfl <;>
      first
        | exact hp'
        | exact WifiMode.noConfusion

namespace WifiModule

theorem ApSound.off (hflag : s.apActive = false) (hmode : s.platform.mode ≠ .apsta) : s.ApSound := by
  refine ⟨⟨?_, fun h => absurd h hmode⟩, fun _ => hflag⟩
  rw [hflag]
  exact fun h => nomatch h

/-- The mode and the flag of a clear access point. -/
theorem ApSound.mode_of_down (h : s.ApSound) (hdown : s.initialized = false) :
    s.apActive = false ∧ s.platform.mode ≠ .apsta := by
  have hflag := h.down hdown
  refine ⟨hflag, ?_⟩
  intro hmode
  rw [h.follows.mpr hmode] at hflag
  cases hflag

theorem destroySta_keeps (s : WifiModule) : s.destroySta.apActive = s.apActive ∧
    s.destroySta.platform.mode = s.platform.mode := by
  unfold destroySta
  split <;> exact ⟨rfl, rfl⟩

theorem destroyAp_keeps (s : WifiModule) : s.destroyAp.apActive = s.apActive ∧
    s.destroyAp.platform.mode = s.platform.mode := by
  unfold destroyAp
  split <;> exact ⟨rfl, rfl⟩

theorem ApSound.up (h : s.ApSound) (country : UInt32) (r : WifiInitResults) :
    (bmxEmbeddedWifiInitialize s country r).2.ApSound := by
  unfold bmxEmbeddedWifiInitialize
  split
  · exact h
  next hdown =>
  obtain ⟨hflag, hmode⟩ := h.mode_of_down (Bool.eq_false_iff.mpr hdown)
  split
  · exact h
  split
  · exact h
  split
  · exact h
  split
  · exact .off hflag hmode
  split
  · obtain ⟨hkeeps, hkeeps'⟩ := destroySta_keeps ((s.createSta true).createAp false)
    exact .off (hkeeps.trans hflag) (hkeeps' ▸ hmode)
  · have hdriver := driverSteps_mode country r
      (p := ((s.createSta true).createAp true).platform) hmode
    dsimp only
    split
    · exact .off hflag hdriver
    · exact .off rfl hdriver

theorem ApSound.down_call (h : s.ApSound) (q : WifiDeinitResults) :
    (Esp32Mod.bmxEmbeddedWifiDeinitialize s q).2.ApSound := by
  unfold bmxEmbeddedWifiDeinitialize
  split
  · exact h
  next hup =>
  split
  · exact h
  split
  · exact h
  dsimp only
  split
  · exact ⟨h.follows, h.down⟩
  · apply ApSound.off
    · rfl
    · show (destroyAp _).platform.mode ≠ .apsta
      rw [(destroyAp_keeps _).2, (destroySta_keeps _).2]
      exact WifiMode.noConfusion

theorem ApSound.stop (h : s.ApSound) (mode : EspErr) :
    (bmxEsp32WifiStopAccessPoint s mode).2.ApSound := by
  unfold bmxEsp32WifiStopAccessPoint
  split
  · exact h
  split
  · exact h
  split
  · exact .off rfl WifiMode.noConfusion
  · exact h

/-- A start that fails in the driver ends in the station mode. -/
theorem start_failed {a : SoftApArgs} {mode config : EspErr}
    (hfails : (SoftApCall.start a mode config).FailsInDriver s) :
    (bmxEsp32WifiStartAccessPoint s a mode config espOk).2 = s.setMode .sta := by
  obtain ⟨hup, hrange, hauth, hresult⟩ := hfails
  simp only [bmxEsp32WifiStartAccessPoint, hup, hrange, hauth, Bool.true_eq_false, if_false]
  by_cases hmode : mode = espOk
  · have hconfig : config ≠ espOk := fun h => hresult ⟨hmode, h⟩
    simp only [hmode, if_true, ne_eq, hconfig, not_false_eq_true]
    rfl
  · simp only [ne_eq, hmode, if_false, not_false_eq_true, if_true]

/-- A start is refused, or fails in the driver, or succeeds. -/
theorem start_cases (s : WifiModule) (a : SoftApArgs) (mode config : EspErr) :
    (bmxEsp32WifiStartAccessPoint s a mode config espOk).2 = s ∨
      (SoftApCall.start a mode config).FailsInDriver s ∨
      (s.initialized = true ∧ (bmxEsp32WifiStartAccessPoint s a mode config espOk).2 =
        { s.setMode .apsta with apActive := true }) := by
  unfold bmxEsp32WifiStartAccessPoint
  split
  · exact Or.inl rfl
  next hup =>
  split
  · exact Or.inl rfl
  next hrange =>
  split
  · exact Or.inl rfl
  next hauth =>
  rw [Bool.not_eq_false] at hup hrange hauth
  right
  by_cases hresult : mode = espOk ∧ config = espOk
  · obtain ⟨rfl, rfl⟩ := hresult
    exact Or.inr ⟨hup, rfl⟩
  · exact Or.inl ⟨hup, hrange, hauth, hresult⟩

theorem ApSound.start (h : s.ApSound) {a : SoftApArgs} {mode config : EspErr}
    (hok : SoftApOrderly s (.start a mode config)) :
    (bmxEsp32WifiStartAccessPoint s a mode config espOk).2.ApSound := by
  rcases start_cases s a mode config with heq | hfails | ⟨hup, heq⟩
  · rw [heq]
    exact h
  · have hflag : s.apActive = false := by
      rw [← Bool.not_eq_true]
      intro hactive
      exact hok ⟨hactive, hfails⟩
    rw [start_failed hfails]
    exact .off hflag WifiMode.noConfusion
  · rw [heq]
    refine ⟨⟨fun _ => rfl, fun _ => rfl⟩, ?_⟩
    intro hdown
    have hinit : s.initialized = false := hdown
    rw [hup] at hinit
    cases hinit

end WifiModule

/-- **The reported state follows the mode of the radio** in every run in which no start of a
running access point fails in the driver. -/
theorem soft_ap_active (s : WifiModule) (h : softApMachine.ReachableIn SoftApOrderly s) :
    s.ApReported := by
  have hsound : s.ApSound := by
    apply h.invariant (I := WifiModule.ApSound)
    · rintro s ⟨-, hflag, hmode⟩
      exact .off hflag (by rw [hmode]; exact WifiMode.noConfusion)
    · intro s a s' hs hok hstep
      cases a with
      | up country r =>
        obtain rfl := Option.some.inj hstep
        exact hs.up country r
      | down q =>
        obtain rfl := Option.some.inj hstep
        exact hs.down_call q
      | start a mode config =>
        obtain rfl := Option.some.inj hstep
        exact hs.start hok
      | stop mode =>
        obtain rfl := Option.some.inj hstep
        exact hs.stop mode
  unfold WifiModule.ApReported
  rw [apActive_iff]
  exact hsound.follows

/-- **A failed restart leaves the flag set and the mode changed.** -/
theorem soft_ap_restart {a : SoftApArgs} {mode config : EspErr} (hactive : s.apActive = true)
    (hfails : (SoftApCall.start a mode config).FailsInDriver s) :
    ¬ (bmxEsp32WifiStartAccessPoint s a mode config espOk).2.ApReported := by
  rw [WifiModule.start_failed hfails]
  intro hreported
  have hapsta : WifiMode.sta = .apsta := hreported.mp ((apActive_iff _).mpr hactive)
  cases hapsta

/-- A network without a password. -/
def openNetwork : SoftApArgs := ⟨some [0x41], 1, none, 0, 0, 1, 4, 0⟩

theorem soft_ap_active_started : ∃ s : WifiModule, s.apActive = true ∧ s.ApReported := by
  refine ⟨_, ?_, soft_ap_active _ (.step (a := .start openNetwork espOk espOk)
    (.step (a := .up 0 {}) (.init ⟨wifiIdle_idle, rfl, rfl⟩) ?_ rfl) ?_ rfl)⟩
  · rfl
  · exact fun h => h.2
  · exact fun h => h.2.2.2.2 ⟨rfl, rfl⟩

/-- The access point runs, and its restart fails in `esp_wifi_set_config`. -/
theorem soft_ap_active_broken : ∃ s, softApMachine.Reachable s ∧ ¬ s.ApReported := by
  obtain ⟨s, hs, hbroken⟩ := exists_reachable_of_run (M := softApMachine)
    [.up 0 {}, .start openNetwork espOk espOk, .start openNetwork espOk espFail]
    (fun s : WifiModule => decide (s.apActive = true ∧ s.platform.mode = .sta))
    ⟨wifiIdle_idle, rfl, rfl⟩ (by decide)
  refine ⟨s, hs, ?_⟩
  obtain ⟨hactive, hmode⟩ := of_decide_eq_true hbroken
  intro hreported
  have hapsta := hreported.mp ((apActive_iff s).mpr hactive)
  rw [hmode] at hapsta
  cases hapsta

end Esp32Mod
