/-
Esp32Mod/WifiScan.lean

The scan life cycle of the Wi-Fi adapter (`network.mod/wifi.mod/native/esp32_wifi.c`):
`bmx_embedded_wifi_start_scan` on the application task, and the `WIFI_EVENT_SCAN_DONE` case of
`bmx_wifi_handle` on the event task.

A step is one access of `start_scan` to a flag, its driver call, or the whole handler; what the
handler submits is `bmxWifiScanDone`.  `initialize` and `deinitialize` are one step each.  They
are those of `Esp32Mod.WifiBringUp` seen from the two flags, with `result` for what its driver
calls come to (`Tracks.up`, `Tracks.down`).

`scanning` counts the scans of the driver that the handler has not been told about yet, and,
outside the source, `started` the calls of `start_scan` that have returned `ESP_OK`.

Main results:

* `wifi_scan_life_cycle` — flag and completions are right between the calls of every run in
  which `start_scan` sets the flag before its scan is over;
* `wifi_scan_stuck` — set later, it stays set for good;
* `wifi_scan_broken` — this happens.
-/
import Esp32Mod.Errors
import Esp32Mod.StepMachine
import Esp32Mod.TerminalEvents
import Esp32Mod.WifiBringUp

namespace Esp32Mod

open StepMachine Machine

/-! ### The two tasks -/

/-- What `start_scan` does next. -/
inductive WifiScanApp
  | idle | readInitialized | readActive | driver | set
  deriving DecidableEq

/-- The flag, the scans of the driver, and what has been asked and submitted. -/
structure WifiScanSystem where
  initialized : Bool
  /-- `bmx_wifi_scan_active` -/
  scanActive : Bool
  scanning : ℕ
  app : WifiScanApp
  /-- What the last call returned. -/
  returned : EspErr
  started : ℕ
  /-- What has been passed to `bmx_wifi_queue`. -/
  submitted : List BMXWiFiEvent

/-- The steps of the application and of the event task. -/
inductive WifiScanAction
  | startScan
  /-- the next step of `start_scan`; `esp_wifi_scan_start` returns `answer` -/
  | app (answer : EspErr)
  /-- the event task handles `WIFI_EVENT_SCAN_DONE` -/
  | scanDone (apNum : Option UInt16) (record : ℕ → Option WifiApRecord)
  | init (result : EspErr)
  | deinit (sockets : ℕ) (result : EspErr)

namespace WifiScanSystem

/-- The call returns. -/
def finish (s : WifiScanSystem) (result : EspErr) : WifiScanSystem :=
  { s with app := .idle, returned := result }

/-- The call goes on; the flag is set after the driver has started. -/
def bmxEmbeddedWifiStartScan (s : WifiScanSystem) (answer : EspErr) :
    WifiScanApp → Option WifiScanSystem
  | .idle => none
  | .readInitialized =>
    some (if s.initialized then { s with app := .readActive } else s.finish espErrInvalidState)
  | .readActive =>
    some (if s.scanActive then s.finish espErrInvalidState else { s with app := .driver })
  | .driver =>
    some (if answer = espOk then { s with scanning := s.scanning + 1, app := .set }
      else s.finish answer)
  | .set =>
    -- the scan may be over by now
    some { s.finish espOk with scanActive := true, started := s.started + 1 }

/-- The handler clears the flag and submits what was found. -/
def handleScanDone (s : WifiScanSystem) (apNum : Option UInt16)
    (record : ℕ → Option WifiApRecord) : Option WifiScanSystem :=
  if 0 < s.scanning then
    some { s with
      scanning := s.scanning - 1
      scanActive := false
      submitted := s.submitted ++ bmxWifiScanDone apNum record }
  else none

/-- No scan is known after an initialization. -/
def bmxEmbeddedWifiInitialize (s : WifiScanSystem) (result : EspErr) : EspErr × WifiScanSystem :=
  if s.initialized then (espOk, s)
  else if result ≠ espOk then (result, s)
  else (espOk, { s with initialized := true, scanActive := false })

/-- `sockets` is `bmx_embedded_net_active_socket_count()`. -/
def bmxEmbeddedWifiDeinitialize (s : WifiScanSystem) (sockets : ℕ) (result : EspErr) :
    EspErr × WifiScanSystem :=
  if !s.initialized then (espOk, s)
  else if s.scanActive then (espErrInvalidState, s)
  else if 0 < sockets then (espErrInvalidState, s)
  else if result ≠ espOk then (result, s)
  else (espOk, { s with initialized := false })

/-- `start_scan`, `initialize` and `deinitialize` are called by one task. -/
def step (s : WifiScanSystem) : WifiScanAction → Option WifiScanSystem
  | .startScan => if s.app = .idle then some { s with app := .readInitialized } else none
  | .app answer => s.bmxEmbeddedWifiStartScan answer s.app
  | .scanDone apNum record => s.handleScanDone apNum record
  | .init result =>
    if s.app = .idle then some (s.bmxEmbeddedWifiInitialize result).2 else none
  | .deinit sockets result =>
    if s.app = .idle then some (s.bmxEmbeddedWifiDeinitialize sockets result).2 else none

/-- The completions that have been submitted. -/
def completes (s : WifiScanSystem) : ℕ := s.submitted.countP (·.kind == .scanComplete)

end WifiScanSystem

/-- Down, and nothing has been asked. -/
def wifiScanBoot : WifiScanSystem where
  initialized := false
  scanActive := false
  scanning := 0
  app := .idle
  returned := espOk
  started := 0
  submitted := []

/-- Any interleaving of calls and events. -/
def wifiScanMachine : Machine WifiScanSystem WifiScanAction where
  init s := s = wifiScanBoot
  step := WifiScanSystem.step

/-! ### The same calls with their driver calls -/

namespace WifiScanSystem

/-- The flags are those of the module. -/
structure Tracks (s : WifiScanSystem) (m : WifiModule) : Prop where
  initialized : s.initialized = m.initialized
  scanActive : s.scanActive = m.scanActive

theorem destroySta_flags (m : WifiModule) : m.destroySta.initialized = m.initialized ∧
    m.destroySta.scanActive = m.scanActive := by
  unfold WifiModule.destroySta
  split <;> exact ⟨rfl, rfl⟩

/-- A successful `initialize` sets one flag and clears the other; a failing one leaves both,
whatever else it has done. -/
theorem initialize_flags (m : WifiModule) (country : UInt32) (r : WifiInitResults)
    (hdown : m.initialized = false) :
    let up := Esp32Mod.bmxEmbeddedWifiInitialize m country r
    up.1 = espOk ∧ up.2.initialized = true ∧ up.2.scanActive = false ∨
      up.1 ≠ espOk ∧ up.2.initialized = false ∧ up.2.scanActive = m.scanActive := by
  have hmemory : espErrNoMem ≠ espOk := by decide
  dsimp only
  unfold Esp32Mod.bmxEmbeddedWifiInitialize
  rw [if_neg (by simp [hdown])]
  split
  next hnvs => exact .inr ⟨hnvs, hdown, rfl⟩
  split
  next hnetif => exact .inr ⟨hnetif.1, hdown, rfl⟩
  split
  next hloop => exact .inr ⟨hloop.1, hdown, rfl⟩
  split
  · exact .inr ⟨hmemory, hdown, rfl⟩
  split
  · obtain ⟨hinitialized, hscan⟩ := destroySta_flags ((m.createSta true).createAp false)
    exact .inr ⟨hmemory, hinitialized.trans hdown, hscan⟩
  · dsimp only
    split
    next hdriver => exact .inr ⟨hdriver, hdown, rfl⟩
    · exact .inl ⟨rfl, rfl, rfl⟩

/-- `initialize` of the two models, with the result of the one as that of the driver calls of
the other. -/
theorem Tracks.up {s : WifiScanSystem} {m : WifiModule} (h : s.Tracks m) (country : UInt32)
    (r : WifiInitResults) :
    let up := Esp32Mod.bmxEmbeddedWifiInitialize m country r
    (s.bmxEmbeddedWifiInitialize up.1).1 = up.1 ∧
      (s.bmxEmbeddedWifiInitialize up.1).2.Tracks up.2 := by
  intro up
  cases hdown : m.initialized with
  | true =>
    have hup : up = (espOk, m) := if_pos hdown
    rw [hup, bmxEmbeddedWifiInitialize, if_pos (h.initialized.trans hdown)]
    exact ⟨rfl, h⟩
  | false =>
    have hskip : ¬ s.initialized = true := by simp [h.initialized, hdown]
    rw [bmxEmbeddedWifiInitialize, if_neg hskip]
    rcases initialize_flags m country r hdown with ⟨hresult, hup, hscan⟩ | ⟨hresult, hup, hscan⟩
    · rw [if_neg (not_not.mpr hresult)]
      exact ⟨hresult.symm, hup.symm, hscan.symm⟩
    · rw [if_pos hresult]
      exact ⟨rfl, h.initialized.trans (hdown.trans hup.symm), h.scanActive.trans hscan.symm⟩

theorem destroyAp_flags (m : WifiModule) : m.destroyAp.scanActive = m.scanActive := by
  unfold WifiModule.destroyAp
  split <;> rfl

/-- A `deinitialize` that is not refused clears the flag exactly if it succeeds. -/
theorem deinitialize_flags (m : WifiModule) (q : WifiDeinitResults) (hup : m.initialized = true)
    (hbusy : ¬ m.busy q = true) :
    let down := Esp32Mod.bmxEmbeddedWifiDeinitialize m q
    down.2.scanActive = m.scanActive ∧
      (down.1 = espOk ∧ down.2.initialized = false ∨ down.1 ≠ espOk ∧ down.2.initialized = true) := by
  dsimp only
  unfold Esp32Mod.bmxEmbeddedWifiDeinitialize
  rw [if_neg (by simp [hup]), if_neg hbusy]
  split
  next hstop => exact ⟨rfl, .inr ⟨hstop, hup⟩⟩
  dsimp only
  split
  next hdeinit => exact ⟨rfl, .inr ⟨hdeinit, hup⟩⟩
  next =>
    refine ⟨?_, .inl ⟨rfl, rfl⟩⟩
    show (WifiModule.destroyAp _).scanActive = m.scanActive
    rw [destroyAp_flags, (destroySta_flags _).2]

/-- A refusal comes from the flag or from the sockets that are open. -/
theorem busy_iff {s : WifiScanSystem} {m : WifiModule} (h : s.Tracks m) (q : WifiDeinitResults) :
    m.busy q = true ↔ s.scanActive = true ∨ 0 < (q.activeSockets.getD 0).toNat := by
  rw [WifiModule.busy, Bool.or_eq_true, h.scanActive]
  cases q.activeSockets with
  | none => simp
  | some sockets => simp [Nat.pos_iff_ne_zero, ← UInt32.toNat_inj]

/-- `deinitialize` of the two models. -/
theorem Tracks.down {s : WifiScanSystem} {m : WifiModule} (h : s.Tracks m)
    (q : WifiDeinitResults) :
    let down := Esp32Mod.bmxEmbeddedWifiDeinitialize m q
    (s.bmxEmbeddedWifiDeinitialize (q.activeSockets.getD 0).toNat down.1).1 = down.1 ∧
      (s.bmxEmbeddedWifiDeinitialize (q.activeSockets.getD 0).toNat down.1).2.Tracks down.2 := by
  intro down
  cases hup : m.initialized with
  | false =>
    have hdown : down = (espOk, m) := if_pos hup
    rw [hdown]
    unfold bmxEmbeddedWifiDeinitialize
    rw [if_pos (by simp [h.initialized, hup])]
    exact ⟨rfl, h⟩
  | true =>
    unfold bmxEmbeddedWifiDeinitialize
    rw [if_neg (by simp [h.initialized, hup])]
    by_cases hbusy : m.busy q = true
    · have hdown : down = (espErrInvalidState, m) :=
        (if_neg (by simp [hup])).trans (if_pos hbusy)
      rw [hdown]
      split
      · exact ⟨rfl, h⟩
      next hscan =>
        rw [if_pos (((busy_iff h q).mp hbusy).resolve_left hscan)]
        exact ⟨rfl, h⟩
    · obtain ⟨hscan, hsockets⟩ := not_or.mp fun hrefused => hbusy ((busy_iff h q).mpr hrefused)
      rw [if_neg hscan, if_neg hsockets]
      obtain ⟨hflag, ⟨hresult, hoff⟩ | ⟨hresult, hon⟩⟩ := deinitialize_flags m q hup hbusy
      · rw [if_neg (not_not.mpr hresult)]
        exact ⟨hresult.symm, hoff.symm, h.scanActive.trans hflag.symm⟩
      · rw [if_pos hresult]
        exact ⟨rfl, h.initialized.trans (hup.trans hon.symm), h.scanActive.trans hflag.symm⟩

end WifiScanSystem

/-! ### The claim and its condition -/

/-- Between calls the flag tells whether a scan is pending in the driver, every other scan that
was started has been completed once, and a scan that is over does not keep `deinitialize`
from working. -/
def WifiScanSystem.LifeCycle (s : WifiScanSystem) : Prop :=
  s.app = .idle →
    (s.scanActive = true ↔ 0 < s.scanning) ∧ s.completes + s.scanning = s.started ∧
      (s.scanning = 0 → (s.bmxEmbeddedWifiDeinitialize 0 espOk).1 = espOk)

/-- `start_scan` sets the flag while the scan is pending. -/
def WifiScanOrderly (s : WifiScanSystem) : WifiScanAction → Prop
  | .app _ => s.app = .set → 0 < s.scanning
  | _ => True

/-! ### What the handler submits -/

theorem wifiScanResults_kind (record : ℕ → Option WifiApRecord) (available index : ℕ) :
    (wifiScanResults record available index).countP (·.kind == .scanComplete) = 0 := by
  induction available generalizing index with
  | zero => rfl
  | succ available ih =>
    rw [wifiScanResults]
    split
    · rfl
    -- a result, and the results behind it
    · rw [List.countP_cons_of_neg (by exact nofun)]
      exact ih (index + 1)

/-- **One completion**, whatever the driver answers. -/
theorem bmxWifiScanDone_completes (apNum : Option UInt16) (record : ℕ → Option WifiApRecord) :
    (bmxWifiScanDone apNum record).countP (·.kind == .scanComplete) = 1 := by
  cases apNum with
  | none => rfl
  | some available =>
    show (wifiScanResults record available.toNat 0 ++ [wifiScanComplete]).countP _ = 1
    rw [List.countP_append, wifiScanResults_kind]
    rfl

/-! ### The invariant -/

/-- What holds at each point of `start_scan`. -/
def WifiScanApp.Inv (active : Bool) (scanning completes started : ℕ) : WifiScanApp → Prop
  | idle | readInitialized | readActive =>
    (active = true ↔ 0 < scanning) ∧ scanning ≤ 1 ∧ completes + scanning = started
  | driver => active = false ∧ scanning = 0 ∧ completes = started
  -- the call is not counted yet
  | set => active = false ∧ scanning ≤ 1 ∧ completes + scanning = started + 1

/-- `start_scan` has found the adapter initialised. -/
def WifiScanApp.entered : WifiScanApp → Bool
  | idle | readInitialized => false
  | readActive | driver | set => true

namespace WifiScanSystem

/-- How far a scan has come, and that there is none while the module is down. -/
structure Inv (s : WifiScanSystem) : Prop where
  phase : s.app.Inv s.scanActive s.scanning s.completes s.started
  off : s.initialized = false → s.app.entered = false ∧ s.scanning = 0

variable {s s' : WifiScanSystem}

/-- The handler completes a pending scan and clears the flag, wherever `start_scan` is. -/
theorem phase_scanDone {app : WifiScanApp} {active : Bool} {scanning completes started : ℕ}
    (h : app.Inv active scanning completes started) (hpending : 0 < scanning) :
    app.Inv false (scanning - 1) (completes + 1) started := by
  have hreading : ((active = true ↔ 0 < scanning) ∧ scanning ≤ 1 ∧
      completes + scanning = started) → ((false = true ↔ 0 < scanning - 1) ∧ scanning - 1 ≤ 1 ∧
      completes + 1 + (scanning - 1) = started) := by
    rintro ⟨-, hle, hcount⟩
    have hone : scanning - 1 = 0 := by omega
    refine ⟨?_, by omega, by omega⟩
    rw [hone]
    exact ⟨nofun, nofun⟩
  cases app with
  | idle => exact hreading h
  | readInitialized => exact hreading h
  | readActive => exact hreading h
  | driver => exact absurd h.2.1 (by omega)
  | set =>
    obtain ⟨-, hle, hcount⟩ := h
    exact ⟨rfl, by omega, by omega⟩

theorem Inv.scanDone (h : s.Inv) {apNum : Option UInt16} {record : ℕ → Option WifiApRecord}
    (hs : s.handleScanDone apNum record = some s') : s'.Inv := by
  obtain ⟨hpending, hs⟩ := Option.ite_none_right_eq_some.mp hs
  obtain rfl := Option.some.inj hs
  refine ⟨?_, ?_⟩
  · have hcompletes : (s.submitted ++ bmxWifiScanDone apNum record).countP
        (·.kind == .scanComplete) = s.completes + 1 := by
      rw [List.countP_append, bmxWifiScanDone_completes]
      rfl
    show s.app.Inv false (s.scanning - 1) (List.countP _ _) s.started
    rw [hcompletes]
    exact phase_scanDone h.phase hpending
  · intro hoff
    obtain ⟨hentered, hnone⟩ := h.off hoff
    rw [hnone] at hpending
    exact absurd hpending (Nat.lt_irrefl 0)

/-- Past the first test the adapter is initialised, and stays so. -/
theorem Inv.on (h : s.Inv) (hentered : s.app.entered = true) : s.initialized ≠ false := by
  intro hoff
  exact absurd ((h.off hoff).1.symm.trans hentered) (by decide)

theorem Inv.app (h : s.Inv) {answer : EspErr} (hok : s.app = .set → 0 < s.scanning)
    (hs : s.bmxEmbeddedWifiStartScan answer s.app = some s') : s'.Inv := by
  have hphase := h.phase
  have hon := h.on
  cases happ : s.app with
  | idle =>
    rw [happ] at hs
    cases hs
  | readInitialized =>
    rw [happ] at hs hphase
    obtain rfl := Option.some.inj hs
    by_cases hinit : s.initialized = true
    · rw [if_pos hinit]
      refine ⟨hphase, ?_⟩
      intro hoff
      exact absurd (hinit.symm.trans hoff) (by decide)
    · rw [if_neg hinit]
      exact ⟨hphase, fun hoff => ⟨rfl, (h.off hoff).2⟩⟩
  | readActive =>
    rw [happ] at hs hphase hon
    obtain rfl := Option.some.inj hs
    by_cases hactive : s.scanActive = true
    · rw [if_pos hactive]
      exact ⟨hphase, fun hoff => absurd hoff (hon rfl)⟩
    -- no scan is pending, since the flag would tell
    · rw [if_neg hactive]
      have hnone : s.scanning = 0 := Nat.eq_zero_of_not_pos fun hlt => hactive (hphase.1.mpr hlt)
      have hcount := hphase.2.2
      rw [hnone] at hcount
      exact ⟨⟨Bool.not_eq_true _ ▸ hactive, hnone, hcount⟩, fun hoff => absurd hoff (hon rfl)⟩
  | driver =>
    rw [happ] at hs hphase hon
    obtain rfl := Option.some.inj hs
    obtain ⟨hactive, hnone, hcount⟩ := hphase
    by_cases hanswer : answer = espOk
    · rw [if_pos hanswer]
      refine ⟨⟨hactive, ?_, ?_⟩, fun hoff => absurd hoff (hon rfl)⟩
      · show s.scanning + 1 ≤ 1
        rw [hnone]
      · show s.completes + (s.scanning + 1) = s.started + 1
        rw [hnone, hcount]
    · rw [if_neg hanswer]
      refine ⟨⟨?_, ?_, ?_⟩, fun hoff => absurd hoff (hon rfl)⟩
      · show s.scanActive = true ↔ 0 < s.scanning
        rw [hactive, hnone]
        exact ⟨nofun, nofun⟩
      · exact hnone.le.trans (Nat.zero_le 1)
      · show s.completes + s.scanning = s.started
        rw [hnone, hcount, Nat.add_zero]
  | set =>
    rw [happ] at hs hphase hon
    obtain rfl := Option.some.inj hs
    have hpending := hok happ
    obtain ⟨-, hle, hcount⟩ := hphase
    exact ⟨⟨⟨fun _ => hpending, fun _ => rfl⟩, hle, hcount⟩, fun hoff => absurd hoff (hon rfl)⟩

theorem Inv.step (h : s.Inv) {a : WifiScanAction} (hok : WifiScanOrderly s a)
    (hs : s.step a = some s') : s'.Inv := by
  cases a with
  | startScan =>
    obtain ⟨hidle, hs⟩ := Option.ite_none_right_eq_some.mp hs
    obtain rfl := Option.some.inj hs
    have hphase := h.phase
    rw [hidle] at hphase
    exact ⟨hphase, fun hoff => ⟨rfl, (h.off hoff).2⟩⟩
  | app answer => exact h.app hok hs
  | scanDone apNum record => exact h.scanDone hs
  | init result =>
    obtain ⟨hidle, hs⟩ := Option.ite_none_right_eq_some.mp hs
    obtain rfl := Option.some.inj hs
    unfold bmxEmbeddedWifiInitialize
    split
    · exact h
    next hinit =>
      split
      · exact h
      · -- the module was down, so no scan is going on
        obtain ⟨hentered, hnone⟩ := h.off (Bool.not_eq_true _ ▸ hinit)
        have hphase := h.phase
        rw [hidle] at hphase
        refine ⟨?_, nofun⟩
        show s.app.Inv false s.scanning s.completes s.started
        rw [hidle, hnone]
        rw [hnone] at hphase
        exact ⟨⟨nofun, nofun⟩, hphase.2⟩
  | deinit sockets result =>
    obtain ⟨hidle, hs⟩ := Option.ite_none_right_eq_some.mp hs
    obtain rfl := Option.some.inj hs
    have hphase := h.phase
    rw [hidle] at hphase
    unfold bmxEmbeddedWifiDeinitialize
    split
    · exact h
    split
    · exact h
    next hclear =>
    split
    · exact h
    split
    · exact h
    · refine ⟨h.phase, fun _ => ⟨?_, ?_⟩⟩
      · show s.app.entered = false
        rw [hidle]
        rfl
      · -- the flag is not set, so no scan is going on
        exact Nat.eq_zero_of_not_pos fun hlt => hclear (hphase.1.mpr hlt)

theorem inv_boot : wifiScanBoot.Inv := ⟨⟨⟨nofun, nofun⟩, Nat.zero_le 1, rfl⟩, fun _ => ⟨rfl, rfl⟩⟩

theorem Inv.lifeCycle (h : s.Inv) : s.LifeCycle := by
  intro hidle
  have hphase := h.phase
  rw [hidle] at hphase
  refine ⟨hphase.1, hphase.2.2, ?_⟩
  intro hnone
  have hclear : s.scanActive = false := by
    rw [← Bool.not_eq_true, hphase.1, hnone]
    exact Nat.lt_irrefl 0
  unfold bmxEmbeddedWifiDeinitialize
  rw [hclear]
  split <;> rfl

end WifiScanSystem

/-! ### Main results -/

/-- **The scan life cycle.**  In every run in which `start_scan` sets the flag while its scan is
pending, the flag is right between calls, every scan has been completed once or is pending,
and `deinitialize` is not refused for a scan that is over. -/
theorem wifi_scan_life_cycle (s : WifiScanSystem)
    (h : wifiScanMachine.ReachableIn WifiScanOrderly s) : s.LifeCycle := by
  apply WifiScanSystem.Inv.lifeCycle
  apply h.invariant (I := WifiScanSystem.Inv)
  · rintro s rfl
    exact WifiScanSystem.inv_boot
  · exact fun _ _ _ hi hok hs => hi.step hok hs

/-! ### A flag that is set too late -/

namespace WifiScanSystem

variable {s s' : WifiScanSystem}

/-- The flag is set, and no scan is pending that would clear it. -/
structure Stuck (s : WifiScanSystem) : Prop where
  initialized : s.initialized = true
  scanActive : s.scanActive = true
  scanning : s.scanning = 0
  app : s.app = .idle ∨ s.app = .readInitialized ∨ s.app = .readActive

/-- No call gets past the flag: `start_scan` and `deinitialize` are refused. -/
theorem Stuck.step (h : s.Stuck) {a : WifiScanAction} (hs : s.step a = some s') : s'.Stuck := by
  obtain ⟨hinit, hactive, hnone, happ⟩ := h
  -- no scan is left to be done, and nothing else clears the flag
  cases a with
  | startScan =>
    obtain ⟨-, hs⟩ := Option.ite_none_right_eq_some.mp hs
    obtain rfl := Option.some.inj hs
    exact ⟨hinit, hactive, hnone, .inr (.inl rfl)⟩
  | app answer =>
    simp only [WifiScanSystem.step] at hs
    rcases happ with happ | happ | happ
    · rw [happ] at hs
      cases hs
    · rw [happ] at hs
      obtain rfl := Option.some.inj hs
      rw [if_pos hinit]
      exact ⟨hinit, hactive, hnone, .inr (.inr rfl)⟩
    · rw [happ] at hs
      obtain rfl := Option.some.inj hs
      rw [if_pos hactive]
      exact ⟨hinit, hactive, hnone, .inl rfl⟩
  | scanDone apNum record =>
    obtain ⟨hpending, -⟩ := Option.ite_none_right_eq_some.mp hs
    rw [hnone] at hpending
    exact absurd hpending (Nat.lt_irrefl 0)
  | init result =>
    obtain ⟨-, hs⟩ := Option.ite_none_right_eq_some.mp hs
    obtain rfl := Option.some.inj hs
    rw [bmxEmbeddedWifiInitialize, if_pos hinit]
    exact ⟨hinit, hactive, hnone, happ⟩
  | deinit sockets result =>
    obtain ⟨-, hs⟩ := Option.ite_none_right_eq_some.mp hs
    obtain rfl := Option.some.inj hs
    rw [WifiScanSystem.bmxEmbeddedWifiDeinitialize, hinit, hactive]
    exact ⟨hinit, hactive, hnone, happ⟩

theorem Stuck.run (h : s.Stuck) {as : List WifiScanAction}
    (hr : wifiScanMachine.run s as = some s') : s'.Stuck := by
  induction as generalizing s with
  | nil =>
    obtain rfl := Option.some.inj hr
    exact h
  | cons a as ih =>
    obtain ⟨s₁, hs₁, hr₁⟩ := Option.bind_eq_some_iff.mp hr
    exact ih (h.step hs₁) hr₁

theorem Stuck.refused (h : s.Stuck) (sockets : ℕ) (result : EspErr) :
    (s.bmxEmbeddedWifiDeinitialize sockets result).1 = espErrInvalidState := by
  rw [WifiScanSystem.bmxEmbeddedWifiDeinitialize, h.initialized, h.scanActive]
  rfl

end WifiScanSystem

/-- **The flag stays set for good** when `start_scan` sets it with no scan pending: whatever is
done from then on, `deinitialize` is refused. -/
theorem wifi_scan_stuck {s s' s'' : WifiScanSystem} {answer : EspErr}
    {as : List WifiScanAction} (hinit : s.initialized = true) (happ : s.app = .set)
    (hover : s.scanning = 0) (hs : s.step (.app answer) = some s')
    (hr : wifiScanMachine.run s' as = some s'') (sockets : ℕ) (result : EspErr) :
    (s''.bmxEmbeddedWifiDeinitialize sockets result).1 = espErrInvalidState := by
  simp only [WifiScanSystem.step, happ] at hs
  obtain rfl := Option.some.inj hs
  have hstuck : WifiScanSystem.Stuck
      { s.finish espOk with scanActive := true, started := s.started + 1 } :=
    ⟨hinit, rfl, hover, .inl rfl⟩
  exact (hstuck.run hr).refused sockets result

/-- A scan without results. -/
theorem wifi_scan_life_cycle_done : ∃ s : WifiScanSystem,
    s.started = 1 ∧ s.submitted = [wifiScanComplete] ∧ s.LifeCycle := by
  have hinit : wifiScanMachine.ReachableIn WifiScanOrderly _ :=
    .step (a := .init espOk) (.init rfl) (by exact trivial) rfl
  have hcall := hinit.step (a := .startScan) (by exact trivial) rfl
  have hfirst := hcall.step (a := .app espOk) (by exact nofun) rfl
  have hsecond := hfirst.step (a := .app espOk) (by exact nofun) rfl
  have hdriver := hsecond.step (a := .app espOk) (by exact nofun) rfl
  have hset := hdriver.step (a := .app espOk) (by exact fun _ => Nat.one_pos) rfl
  have hdone := hset.step (a := .scanDone none fun _ => none) (by exact trivial) rfl
  exact ⟨_, rfl, rfl, wifi_scan_life_cycle _ hdone⟩

/-- The scan is over before `start_scan` sets the flag. -/
def scanOverEarly : List WifiScanAction :=
  [.init espOk, .startScan, .app espOk, .app espOk, .app espOk, .scanDone none fun _ => none,
    .app espOk]

theorem wifi_scan_broken : ∃ s, wifiScanMachine.Reachable s ∧ ¬ s.LifeCycle := by
  obtain ⟨s, hs, hp⟩ := exists_reachable_of_run (M := wifiScanMachine) scanOverEarly
    (fun s : WifiScanSystem => decide (s.app = .idle ∧ s.scanActive = true ∧ s.scanning = 0)) rfl
    (by decide)
  obtain ⟨hidle, hactive, hnone⟩ := of_decide_eq_true hp
  refine ⟨s, hs, fun hcycle => ?_⟩
  have hpending := (hcycle hidle).1.mp hactive
  rw [hnone] at hpending
  exact Nat.lt_irrefl 0 hpending

end Esp32Mod
