/-
Esp32Mod/WifiBringUp.lean

Bringing the Wi-Fi adapter up and down (`network.mod/wifi.mod/native/esp32_wifi.c`):
`bmx_embedded_wifi_initialize` and `bmx_embedded_wifi_deinitialize`.

What the ESP-IDF calls return is an argument, one value for each call; a call that fails
changes nothing.  `WifiPlatform` is what they have built: the default network interfaces, the
driver, the handler registrations and the radio.  The stores into the event queue are in
`EventRings`.

Main results:

* `wifi_all_or_nothing` — exactly when a failed `initialize` has released everything, and
  exactly when a failed `deinitialize` leaves the adapter working;
* `wifi_all_or_nothing_broken` — the failures that do not;
* `wifi_idle_or_functional` — in every run without those failures the adapter is released or
  working between two calls.
-/
import Esp32Mod.Errors
import Esp32Mod.FallibleSteps
import Esp32Mod.StepMachine

namespace Esp32Mod

open StepMachine Machine FallibleSteps

/-! ### The platform and the module -/

/-- `wifi_mode_t`. -/
inductive WifiMode
  | null | sta | ap | apsta
  deriving DecidableEq

/-- What ESP-IDF has of the adapter. -/
structure WifiPlatform where
  /-- the default interfaces that exist -/
  staNetifs : Nat
  apNetifs : Nat
  /-- `esp_wifi_init` has built the driver. -/
  driver : Bool
  /-- the registrations of `bmx_wifi_handle` for Wi-Fi events and for IP events -/
  wifiHandlers : Nat
  ipHandlers : Nat
  countryCode : UInt8 × UInt8
  mode : WifiMode
  started : Bool
  deriving DecidableEq

/-- `BMX_WIFI_LINK_DOWN`. -/
def wifiLinkDown : Int32 := 0

/-- The statics of `esp32_wifi.c`, and the platform. -/
structure WifiModule where
  /-- `bmx_wifi_netif` and `bmx_wifi_ap_netif` are not null. -/
  netif : Bool
  apNetif : Bool
  initialized : Bool
  scanActive : Bool
  explicitDisconnect : Bool
  apActive : Bool
  linkStatus : Int32
  platform : WifiPlatform
  deriving DecidableEq

/-- The answers of NVS after which it is erased. -/
def espErrNvsNoFreePages : EspErr := 0x110d
def espErrNvsNewVersionFound : EspErr := 0x1110

/-! ### Up -/

/-- What the calls of `bmx_embedded_wifi_initialize` return; the interfaces are created or not. -/
structure WifiInitResults where
  nvsInit : EspErr := espOk
  nvsErase : EspErr := espOk
  nvsInitAgain : EspErr := espOk
  netifInit : EspErr := espOk
  eventLoop : EspErr := espOk
  staNetif : Bool := true
  apNetif : Bool := true
  wifiInit : EspErr := espOk
  registerWifi : EspErr := espOk
  registerIp : EspErr := espOk
  countryCode : EspErr := espOk
  storage : EspErr := espOk
  mode : EspErr := espOk
  start : EspErr := espOk

/-- `nvs_flash_init`, once more after erasing a partition of another version. -/
def WifiInitResults.nvs (r : WifiInitResults) : EspErr :=
  if r.nvsInit = espErrNvsNoFreePages ∨ r.nvsInit = espErrNvsNewVersionFound then
    if r.nvsErase = espOk then r.nvsInitAgain else r.nvsErase
  else r.nvsInit

/-- `XX` stands for the world, `01`. -/
def wifiCountryCode (country : UInt32) : UInt8 × UInt8 :=
  let code := ((country &&& 0xff).toUInt8, ((country >>> 8) &&& 0xff).toUInt8)
  if code = (0x58, 0x58) then (0x30, 0x31) else code

/-- From `esp_wifi_init` to `esp_wifi_start`. -/
def wifiDriverSteps (country : UInt32) (r : WifiInitResults) : List (Step EspErr WifiPlatform) :=
  [⟨r.wifiInit, fun p => { p with driver := true }⟩,
   ⟨r.registerWifi, fun p => { p with wifiHandlers := p.wifiHandlers + 1 }⟩,
   ⟨r.registerIp, fun p => { p with ipHandlers := p.ipHandlers + 1 }⟩,
   ⟨r.countryCode, fun p => { p with countryCode := wifiCountryCode country }⟩,
   check r.storage,
   ⟨r.mode, fun p => { p with mode := .sta }⟩,
   ⟨r.start, fun p => { p with started := true }⟩]

/-- `esp_netif_create_default_wifi_sta`. -/
def WifiModule.createSta (s : WifiModule) (created : Bool) : WifiModule :=
  { s with
    netif := created
    platform := { s.platform with staNetifs := s.platform.staNetifs + created.toNat } }

/-- `esp_netif_create_default_wifi_ap`. -/
def WifiModule.createAp (s : WifiModule) (created : Bool) : WifiModule :=
  { s with
    apNetif := created
    platform := { s.platform with apNetifs := s.platform.apNetifs + created.toNat } }

/-- `esp_netif_destroy_default_wifi` on an interface that is not null. -/
def WifiModule.destroySta (s : WifiModule) : WifiModule :=
  if s.netif then
    { s with
      netif := false
      platform := { s.platform with staNetifs := s.platform.staNetifs - 1 } }
  else s

/-- The interface of the access point goes, if there is one. -/
def WifiModule.destroyAp (s : WifiModule) : WifiModule :=
  if s.apNetif then
    { s with
      apNetif := false
      platform := { s.platform with apNetifs := s.platform.apNetifs - 1 } }
  else s

/-- The end of a successful `initialize`. -/
def WifiModule.ready (s : WifiModule) : WifiModule :=
  { s with
    scanActive := false
    explicitDisconnect := false
    apActive := false
    linkStatus := wifiLinkDown
    initialized := true }

/-- The two interfaces, then the steps of the driver. -/
def bmxEmbeddedWifiInitialize (s : WifiModule) (country : UInt32) (r : WifiInitResults) :
    EspErr × WifiModule :=
  if s.initialized then (espOk, s)
  else if r.nvs ≠ espOk then (r.nvs, s)
  else if notDone r.netifInit then (r.netifInit, s)
  else if notDone r.eventLoop then (r.eventLoop, s)
  else if r.staNetif = false then (espErrNoMem, s.createSta false)
  else if r.apNetif = false then (espErrNoMem, ((s.createSta true).createAp false).destroySta)
  else
    let s := (s.createSta true).createAp true
    let up := run espOk (wifiDriverSteps country r) s.platform
    let s := { s with platform := up.2 }
    if up.1 ≠ espOk then (up.1, s) else (espOk, s.ready)

/-! ### Down -/

/-- What `bmx_embedded_wifi_deinitialize` learns from outside: how many sockets are open, if the
network module is there, whether the handlers can be unregistered, and the other results. -/
structure WifiDeinitResults where
  activeSockets : Option UInt32 := none
  stop : EspErr := espOk
  unregisterIp : EspErr := espOk
  unregisterWifi : EspErr := espOk
  deinit : EspErr := espOk

/-- Stop the radio and unregister both handlers. -/
def WifiPlatform.quiet (p : WifiPlatform) (r : WifiDeinitResults) : WifiPlatform :=
  { p with
    started := false
    ipHandlers := if r.unregisterIp = espOk then p.ipHandlers - 1 else p.ipHandlers
    wifiHandlers := if r.unregisterWifi = espOk then p.wifiHandlers - 1 else p.wifiHandlers }

/-- `deinitialize` is refused. -/
def WifiModule.busy (s : WifiModule) (r : WifiDeinitResults) : Bool :=
  s.scanActive || r.activeSockets.any (· != 0)

/-- The radio and the handlers, then the driver and the interfaces. -/
def bmxEmbeddedWifiDeinitialize (s : WifiModule) (r : WifiDeinitResults) : EspErr × WifiModule :=
  if s.initialized = false then (espOk, s)
  else if s.busy r then (espErrInvalidState, s)
  else if r.stop ≠ espOk then (r.stop, s)
  else
    let s := { s with platform := s.platform.quiet r }
    if r.deinit ≠ espOk then (r.deinit, s)
    else
      let s := { s with platform := { s.platform with driver := false, mode := .null } }
      let s := s.destroySta.destroyAp
      (espOk, { s with initialized := false, apActive := false, linkStatus := wifiLinkDown })

/-! ### The claim and its condition -/

/-- Nothing is there. -/
structure WifiModule.Idle (s : WifiModule) : Prop where
  initialized : s.initialized = false
  netif : s.netif = false
  apNetif : s.apNetif = false
  staNetifs : s.platform.staNetifs = 0
  apNetifs : s.platform.apNetifs = 0
  driver : s.platform.driver = false
  wifiHandlers : s.platform.wifiHandlers = 0
  ipHandlers : s.platform.ipHandlers = 0
  started : s.platform.started = false

/-- Initialized, with driver, interfaces and both event handlers. -/
structure WifiModule.Functional (s : WifiModule) : Prop where
  initialized : s.initialized = true
  netif : s.netif = true
  apNetif : s.apNetif = true
  staNetifs : s.platform.staNetifs = 1
  apNetifs : s.platform.apNetifs = 1
  driver : s.platform.driver = true
  wifiHandlers : s.platform.wifiHandlers = 1
  ipHandlers : s.platform.ipHandlers = 1

/-- A failed `initialize` has released what it had acquired: the state is the one before. -/
def InitReleases (s : WifiModule) (country : UInt32) (r : WifiInitResults) : Prop :=
  (bmxEmbeddedWifiInitialize s country r).1 ≠ espOk →
    (bmxEmbeddedWifiInitialize s country r).2 = s

/-- A failed `deinitialize` has left everything in place. -/
def DeinitKeeps (s : WifiModule) (r : WifiDeinitResults) : Prop :=
  (Esp32Mod.bmxEmbeddedWifiDeinitialize s r).1 ≠ espOk →
    (Esp32Mod.bmxEmbeddedWifiDeinitialize s r).2.Functional

/-- A call before `esp_wifi_init` fails. -/
def WifiInitResults.StopsEarly (r : WifiInitResults) : Prop :=
  r.nvs ≠ espOk ∨ notDone r.netifInit ∨ notDone r.eventLoop ∨ r.staNetif = false ∨
    r.apNetif = false

/-- No call from `esp_wifi_init` on fails. -/
def WifiInitResults.DriverStarts (r : WifiInitResults) : Prop :=
  r.wifiInit = espOk ∧ r.registerWifi = espOk ∧ r.registerIp = espOk ∧
    r.countryCode = espOk ∧ r.storage = espOk ∧ r.mode = espOk ∧ r.start = espOk

/-- The driver can be taken down once the radio has stopped (or no handler can be
unregistered). -/
def WifiDeinitResults.DriverStops (r : WifiDeinitResults) : Prop :=
  r.deinit = espOk ∨ (r.unregisterIp ≠ espOk ∧ r.unregisterWifi ≠ espOk)

/-! ### When a failed start has released everything -/

variable {s : WifiModule} {country : UInt32} {r : WifiInitResults}

theorem driverSteps_ok (country : UInt32) : (∀ step ∈ wifiDriverSteps country r, step.result = espOk) ↔
    r.DriverStarts := by
  simp only [wifiDriverSteps, List.mem_cons, List.not_mem_nil, or_false, forall_eq_or_imp,
    forall_eq, check]
  rfl

/-- The driver steps do not touch the interfaces. -/
theorem driverSteps_netifs (country : UInt32) (r : WifiInitResults) (p : WifiPlatform) :
    (run espOk (wifiDriverSteps country r) p).2.staNetifs = p.staNetifs ∧
      (run espOk (wifiDriverSteps country r) p).2.apNetifs = p.apNetifs := by
  apply run_invariant fun p' : WifiPlatform => p'.staNetifs = p.staNetifs ∧ p'.apNetifs = p.apNetifs
  · exact ⟨rfl, rfl⟩
  · intro step hstep p' hp'
    simp only [wifiDriverSteps, List.mem_cons, List.not_mem_nil, or_false] at hstep
    rcases hstep with rfl | rfl | rfl | rfl | rfl | rfl | rfl <;> exact hp'

/-- What `initialize` does if it reaches the driver. -/
theorem initialize_driver (hs : s.initialized = false) (hearly : ¬ r.StopsEarly) :
    bmxEmbeddedWifiInitialize s country r =
      let s₁ := (s.createSta true).createAp true
      let up := run espOk (wifiDriverSteps country r) s₁.platform
      if up.1 ≠ espOk then (up.1, { s₁ with platform := up.2 })
      else (espOk, WifiModule.ready { s₁ with platform := up.2 }) := by
  simp only [WifiInitResults.StopsEarly, not_or, not_not] at hearly
  obtain ⟨hnvs, hnetif, hloop, hsta, hap⟩ := hearly
  simp only [bmxEmbeddedWifiInitialize, hs, hnvs, if_neg hnetif, if_neg hloop, hsta, hap,
    Bool.false_eq_true, Bool.true_eq_false, if_false, ne_eq, not_true]

/-- A start that ends before the driver leaves nothing behind. -/
theorem initialize_early (hs : s.Idle) (hearly : r.StopsEarly) :
    (bmxEmbeddedWifiInitialize s country r).2 = s := by
  obtain ⟨netif, apNetif, initialized, scanActive, explicitDisconnect, apActive, linkStatus, p⟩ := s
  obtain ⟨staNetifs, apNetifs, driver, wifiHandlers, ipHandlers, code, mode, started⟩ := p
  obtain ⟨hinitialized, hnetif, hapNetif, hstaNetifs, hapNetifs, -⟩ := hs
  simp only at hinitialized hnetif hapNetif hstaNetifs hapNetifs
  subst hinitialized hnetif hapNetif hstaNetifs hapNetifs
  simp only [bmxEmbeddedWifiInitialize, Bool.false_eq_true, if_false]
  split
  · rfl
  split
  · rfl
  split
  · rfl
  split
  · rfl
  split
  · rfl
  next h₁ h₂ h₃ h₄ h₅ =>
  rcases hearly with h | h | h | h | h
  · exact absurd h h₁
  · exact absurd h h₂
  · exact absurd h h₃
  · exact absurd h h₄
  · exact absurd h h₅

/-- **A failed start has released everything** unless the driver was reached and a step from
there on has failed. -/
theorem initReleases_iff (hs : s.Idle) :
    InitReleases s country r ↔ r.StopsEarly ∨ r.DriverStarts := by
  constructor
  · intro hreleases
    by_cases hearly : r.StopsEarly
    · exact Or.inl hearly
    right
    rw [← driverSteps_ok country,
      ← run_ok_iff (s := ((s.createSta true).createAp true).platform)]
    by_contra hfailed
    -- the interface is still there
    unfold InitReleases at hreleases
    rw [initialize_driver hs.initialized hearly] at hreleases
    simp only [if_pos hfailed] at hreleases
    have hnetifs := congrArg (fun s => s.platform.staNetifs) (hreleases hfailed)
    have hcount := (driverSteps_netifs country r
      ((s.createSta true).createAp true).platform).1
    have hzero := hs.staNetifs
    simp only [WifiModule.createSta, WifiModule.createAp, Bool.toNat_true] at hnetifs hcount
    omega
  · rintro (hearly | hdriver)
    · exact fun _ => initialize_early hs hearly
    · by_cases hearly : r.StopsEarly
      · exact fun _ => initialize_early hs hearly
      intro hne
      rw [initialize_driver hs.initialized hearly] at hne
      simp only [run_all_ok ((driverSteps_ok country).mpr hdriver)] at hne
      exact absurd rfl hne

/-! ### When a failed teardown has left everything in place -/

variable {q : WifiDeinitResults}

/-- `deinitialize` returns an error, and the driver has not been asked. -/
def WifiModule.Refuses (s : WifiModule) (q : WifiDeinitResults) : Prop :=
  s.busy q = true ∨ q.stop ≠ espOk

theorem deinitialize_refused (hs : s.initialized = true) (h : s.Refuses q) :
    (Esp32Mod.bmxEmbeddedWifiDeinitialize s q).2 = s := by
  simp only [Esp32Mod.bmxEmbeddedWifiDeinitialize, hs, Bool.true_eq_false, if_false]
  split
  · rfl
  · next hbusy =>
    rw [if_pos (h.resolve_left hbusy)]

/-- What `deinitialize` does once the radio has stopped. -/
theorem deinitialize_stopped (hs : s.initialized = true) (h : ¬ s.Refuses q)
    (hdeinit : q.deinit ≠ espOk) : bmxEmbeddedWifiDeinitialize s q =
      (q.deinit, { s with platform := s.platform.quiet q }) := by
  obtain ⟨hbusy, hstop⟩ := not_or.mp h
  simp only [Esp32Mod.bmxEmbeddedWifiDeinitialize, hs, Bool.true_eq_false, if_false, if_neg hbusy,
    if_neg hstop, if_pos hdeinit]

theorem deinitialize_done (hs : s.initialized = true) (h : ¬ s.Refuses q)
    (hdeinit : q.deinit = espOk) : (Esp32Mod.bmxEmbeddedWifiDeinitialize s q).1 = espOk := by
  obtain ⟨hbusy, hstop⟩ := not_or.mp h
  simp only [Esp32Mod.bmxEmbeddedWifiDeinitialize, hs, Bool.true_eq_false, if_false, if_neg hbusy,
    if_neg hstop, hdeinit, ne_eq, not_true]

/-- **A failed teardown has left everything in place** unless the driver could not be taken down
after the handlers had been unregistered. -/
theorem deinitKeeps_iff (hs : s.Functional) :
    DeinitKeeps s q ↔ s.Refuses q ∨ q.DriverStops := by
  unfold DeinitKeeps
  by_cases hrefuses : s.Refuses q
  · rw [deinitialize_refused hs.initialized hrefuses]
    exact ⟨fun _ => Or.inl hrefuses, fun _ _ => hs⟩
  by_cases hdeinit : q.deinit = espOk
  · rw [deinitialize_done hs.initialized hrefuses hdeinit]
    exact ⟨fun _ => Or.inr (Or.inl hdeinit), fun _ hne => absurd rfl hne⟩
  rw [deinitialize_stopped hs.initialized hrefuses hdeinit]
  constructor
  · intro hkeeps
    have hfunctional := hkeeps hdeinit
    refine Or.inr (Or.inr ⟨?_, ?_⟩)
    · intro hunregistered
      have hcount := hfunctional.ipHandlers
      simp only [WifiPlatform.quiet, hunregistered, if_true, hs.ipHandlers] at hcount
      omega
    · intro hunregistered
      have hcount := hfunctional.wifiHandlers
      simp only [WifiPlatform.quiet, hunregistered, if_true, hs.wifiHandlers] at hcount
      omega
  · rintro (h | h | ⟨hip, hwifi⟩) _
    · exact absurd h hrefuses
    · exact absurd h hdeinit
    · have hplatform : s.platform.quiet q = { s.platform with started := false } := by
        simp only [WifiPlatform.quiet, if_neg hip, if_neg hwifi]
      rw [hplatform]
      exact ⟨hs.initialized, hs.netif, hs.apNetif, hs.staNetifs, hs.apNetifs, hs.driver,
        hs.wifiHandlers, hs.ipHandlers⟩

/-- **Bring-up and teardown are all-or-nothing exactly then.** -/
theorem wifi_all_or_nothing (idle working : WifiModule) (hidle : idle.Idle)
    (hworking : working.Functional) (country : UInt32) (r : WifiInitResults)
    (q : WifiDeinitResults) :
    (InitReleases idle country r ↔ r.StopsEarly ∨ r.DriverStarts) ∧
      (DeinitKeeps working q ↔ working.Refuses q ∨ q.DriverStops) :=
  ⟨initReleases_iff hidle, deinitKeeps_iff hworking⟩

/-- The adapter before anything has been called. -/
def wifiIdle : WifiModule :=
  ⟨false, false, false, false, false, false, wifiLinkDown, ⟨0, 0, false, 0, 0, (0, 0), .null, false⟩⟩

theorem wifiIdle_idle : wifiIdle.Idle := ⟨rfl, rfl, rfl, rfl, rfl, rfl, rfl, rfl, rfl⟩

/-- The adapter after a successful `initialize`. -/
def wifiWorking : WifiModule := (bmxEmbeddedWifiInitialize wifiIdle 0 {}).2

theorem wifiWorking_functional : wifiWorking.Functional :=
  ⟨rfl, rfl, rfl, rfl, rfl, rfl, rfl, rfl⟩

theorem wifi_all_or_nothing_start :
    (InitReleases wifiIdle 0 {} ↔ ({} : WifiInitResults).StopsEarly ∨
        ({} : WifiInitResults).DriverStarts) ∧
      (DeinitKeeps wifiWorking {} ↔ wifiWorking.Refuses {} ∨
        ({} : WifiDeinitResults).DriverStops) :=
  wifi_all_or_nothing wifiIdle wifiWorking wifiIdle_idle wifiWorking_functional 0 {} {}

/-- **A failed `esp_wifi_init` leaves the interfaces, a failed `esp_wifi_deinit` takes the
handlers.** -/
theorem wifi_all_or_nothing_broken :
    (∃ s country r, WifiModule.Idle s ∧ ¬ InitReleases s country r) ∧
      ∃ s q, WifiModule.Functional s ∧ ¬ DeinitKeeps s q := by
  refine ⟨⟨wifiIdle, 0, { wifiInit := espFail }, wifiIdle_idle, ?_⟩,
    ⟨wifiWorking, { deinit := espFail }, wifiWorking_functional, ?_⟩⟩
  · intro hreleases
    exact absurd (hreleases (by decide)) (by decide)
  · intro hkeeps
    exact absurd (hkeeps (by decide)).ipHandlers (by decide)

/-! ### Runs -/

/-- The two calls, and the changes that others make. -/
inductive WifiUpDown
  | up (country : UInt32) (r : WifiInitResults)
  | down (q : WifiDeinitResults)
  /-- what the other calls and the event task do to the flags -/
  | others (scanActive explicitDisconnect apActive : Bool) (linkStatus : Int32)

/-- The calls come one after the other. -/
def wifiUpDownStep (s : WifiModule) : WifiUpDown → Option WifiModule
  | .up country r => some (bmxEmbeddedWifiInitialize s country r).2
  | .down q => some (Esp32Mod.bmxEmbeddedWifiDeinitialize s q).2
  | .others scanActive explicitDisconnect apActive linkStatus =>
    some { s with scanActive, explicitDisconnect, apActive, linkStatus }

/-- From a module that is down. -/
def wifiUpDownMachine : Machine WifiModule WifiUpDown where
  init := WifiModule.Idle
  step := wifiUpDownStep

/-- No call fails that leaves the adapter half built. -/
def WifiCleanly (s : WifiModule) : WifiUpDown → Prop
  | .up _ r => r.StopsEarly ∨ r.DriverStarts
  | .down q =>
    s.Refuses q ∨ q.unregisterIp = espOk ∧ q.unregisterWifi = espOk ∧ q.deinit = espOk
  | .others _ _ _ _ => True

theorem initialize_functional (hs : s.Idle) (hearly : ¬ r.StopsEarly) (hdriver : r.DriverStarts) :
    (bmxEmbeddedWifiInitialize s country r).2.Functional := by
  rw [initialize_driver hs.initialized hearly]
  simp only [run_all_ok ((driverSteps_ok country).mpr hdriver), ne_eq, not_true, if_false]
  refine ⟨rfl, rfl, rfl, ?_, ?_, rfl, ?_, ?_⟩
  · show s.platform.staNetifs + 1 = 1
    rw [hs.staNetifs]
  · show s.platform.apNetifs + 1 = 1
    rw [hs.apNetifs]
  · show s.platform.wifiHandlers + 1 = 1
    rw [hs.wifiHandlers]
  · show s.platform.ipHandlers + 1 = 1
    rw [hs.ipHandlers]

theorem deinitialize_idle (hs : s.Functional) (h : ¬ s.Refuses q) (hip : q.unregisterIp = espOk)
    (hwifi : q.unregisterWifi = espOk) (hdeinit : q.deinit = espOk) :
    (Esp32Mod.bmxEmbeddedWifiDeinitialize s q).2.Idle := by
  obtain ⟨hbusy, hstop⟩ := not_or.mp h
  simp only [Esp32Mod.bmxEmbeddedWifiDeinitialize, hs.initialized, Bool.true_eq_false, if_false,
    if_neg hbusy, if_neg hstop, hdeinit, ne_eq, not_true, WifiModule.destroySta, hs.netif,
    if_true, WifiModule.destroyAp, hs.apNetif, WifiPlatform.quiet, hip, hwifi]
  refine ⟨rfl, rfl, rfl, ?_, ?_, rfl, ?_, ?_, rfl⟩
  · show s.platform.staNetifs - 1 = 0
    rw [hs.staNetifs]
  · show s.platform.apNetifs - 1 = 0
    rw [hs.apNetifs]
  · show s.platform.wifiHandlers - 1 = 0
    rw [hs.wifiHandlers]
  · show s.platform.ipHandlers - 1 = 0
    rw [hs.ipHandlers]

/-- **Between two calls the adapter is released or working**, in every run in which no call
fails that leaves it half built. -/
theorem wifi_idle_or_functional (s : WifiModule)
    (h : wifiUpDownMachine.ReachableIn WifiCleanly s) : s.Idle ∨ s.Functional := by
  apply h.invariant (I := fun s => s.Idle ∨ s.Functional)
  · intro s hidle
    exact Or.inl hidle
  · intro s a s' hs hclean hstep
    -- each call takes one of the two kinds of states to the other, or back to itself
    cases a with
    | up country r =>
      obtain rfl := Option.some.inj hstep
      rcases hs with hidle | hworking
      · by_cases hearly : r.StopsEarly
        · left
          rw [initialize_early hidle hearly]
          exact hidle
        · exact Or.inr (initialize_functional hidle hearly (hclean.resolve_left hearly))
      · right
        simpa only [bmxEmbeddedWifiInitialize, hworking.initialized, if_true] using hworking
    | down q =>
      obtain rfl := Option.some.inj hstep
      rcases hs with hidle | hworking
      · left
        simpa only [Esp32Mod.bmxEmbeddedWifiDeinitialize, hidle.initialized, if_true] using hidle
      · by_cases hrefuses : s.Refuses q
        · right
          rw [deinitialize_refused hworking.initialized hrefuses]
          exact hworking
        · obtain ⟨hip, hwifi, hdeinit⟩ := hclean.resolve_left hrefuses
          exact Or.inl (deinitialize_idle hworking hrefuses hip hwifi hdeinit)
    | others scanActive explicitDisconnect apActive linkStatus =>
      obtain rfl := Option.some.inj hstep
      rcases hs with hidle | hworking
      · exact Or.inl ⟨hidle.initialized, hidle.netif, hidle.apNetif, hidle.staNetifs,
          hidle.apNetifs, hidle.driver, hidle.wifiHandlers, hidle.ipHandlers, hidle.started⟩
      · exact Or.inr ⟨hworking.initialized, hworking.netif, hworking.apNetif, hworking.staNetifs,
          hworking.apNetifs, hworking.driver, hworking.wifiHandlers, hworking.ipHandlers⟩

end Esp32Mod
