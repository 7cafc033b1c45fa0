/-
Esp32Mod/BleLifecycle.lean

The life of the NimBLE host under the BLE adapter: `Sound` ties what the adapter remembers to what
NimBLE knows, and each call and each call-back of `Esp32Mod.BleAdapter` keeps it, if
`nimble_port_deinit` does not fail.

Main results:

* `ble_lifecycle` — over all runs, whatever fails: the protocol is kept, and NimBLE runs with the
  present tables and security exactly while the adapter is initialized, if the state of a
  connection's security is asked for at no other time;
* `security_state_unguarded` — `bmx_embedded_ble_security_state` does not look whether NimBLE runs.
-/
import Esp32Mod.BleAdapter

namespace Esp32Mod

open CallProtocol StepMachine

variable {ω α : Type}

/-! ### The invariant -/

/-- Between two calls: NimBLE runs exactly while the adapter is initialized, and then it has the
tables and the security that the adapter has. -/
structure BleAdapter.Sound (s : BleAdapter) (t : NimbleState) : Prop where
  wellFormed : s.gatt.WellFormed
  secure : ∀ security, s.security = some security → security.Valid
  ready : s.ready = true → s.initialized = true
  /-- A service that is advertised again and again is in the tables. -/
  service : s.advertisingAutoRestart = true → s.initialized = true ∧ 0 ≤ s.advertisingService ∧
    s.advertisingService.toInt ≤ s.gatt.serviceCount.toNat
  down : s.initialized = false → t.phase = .off
  up : s.initialized = true → t.phase = .running
  table : s.initialized = true →
    t.table = if s.gatt.serviceCount ≠ 0 then some s.gatt.shape else none
  security : s.initialized = true → t.security = s.security
  unset : s.security = none → t.security = none

/-- The calls of a NimBLE that runs, which change nothing that it knows. -/
def NimbleCall.gap : NimbleCall → Bool
  | .nvsFlashInit | .nvsFlashErase | .portInit | .configure _ | .svcInit | .deviceNameSet _
  | .countCfg _ | .addSvcs _ | .freertosInit | .portStop | .portDeinit => false
  | _ => true

variable {s : BleAdapter} {t : NimbleState} {c : NimbleCall} {β : Type}
  {post : α → BleAdapter → NimbleState → Prop}

theorem nimbleAllowed_gap (hgap : c.gap = true) (hphase : t.phase = .running) (hvalid : c.Valid t)
    (ok : Bool) : nimbleProtocol.allowed t ⟨c, ok⟩ := by
  cases c
  all_goals first
    | exact ⟨hphase, hvalid⟩
    | cases hgap

theorem nimbleAfter_gap (hgap : c.gap = true) (ok : Bool) : nimbleProtocol.after t ⟨c, ok⟩ = t := by
  cases c
  all_goals first
    | rfl
    | cases hgap

/-- A call of a NimBLE that runs, whatever comes with the answer. -/
theorem Leads.gap {question : ω → β × ω} {ok : β → Bool} {k : β → BleProgram ω α}
    (hgap : c.gap = true) (hphase : t.phase = .running) (hvalid : c.Valid t)
    (hk : ∀ b, Leads nimbleProtocol s t (k b) post) :
    Leads nimbleProtocol s t (call question (fun b => ⟨c, ok b⟩) >>= k) post := by
  refine Leads.call (fun b => nimbleAllowed_gap hgap hphase hvalid _) fun b => ?_
  rw [nimbleAfter_gap hgap]
  exact hk b

/-- A call that is the last thing a program does. -/
theorem Leads.last {prog : BleProgram ω α}
    (h : Leads nimbleProtocol s t (prog >>= pure) post) : Leads nimbleProtocol s t prog post := by
  rwa [bind_pure] at h

namespace BleAdapter

/-- The flags of what is going on do not matter. -/
theorem Sound.activity (h : s.Sound t) (scanActive advertisingActive connecting : Bool) :
    { s with scanActive, advertisingActive, connecting }.Sound t :=
  ⟨h.wellFormed, h.secure, h.ready, h.service, h.down, h.up, h.table, h.security, h.unset⟩

theorem Sound.services (h : s.Sound t) (hinit : s.initialized = true) :
    t.services = s.gatt.serviceCount.toNat := by
  rw [NimbleState.services, h.table hinit]
  split
  · rfl
  next hzero => simpa using (congrArg UInt16.toNat (not_not.mp hzero)).symm

/-- No auto-restart is wanted any more. -/
theorem Sound.calm (h : s.Sound t) : { s with advertisingAutoRestart := false }.Sound t :=
  ⟨h.wellFormed, h.secure, h.ready, (fun hfalse => by cases hfalse), h.down, h.up, h.table,
    h.security, h.unset⟩

variable {d : NimbleHost ω} {refused : α} {connectionHandle : Int32} {valid : Bool}

/-! ### Values change -/

section Records

variable {gatt : GattTable} {f : Fin 32 → BMXBLEGATTCharacteristic} {k : Fin 32}
  {c : BMXBLEGATTCharacteristic}

theorem shape_records (hshape : ∀ k, (f k).shape = (gatt.characteristics k).shape) :
    GattTable.shape { gatt with characteristics := f } = gatt.shape := by
  have hrecords : (fun k => (f k).shape) = fun k => (gatt.characteristics k).shape := funext hshape
  show ({ gatt with characteristics := fun k => (f k).shape } : GattTable) = _
  rw [hrecords]
  rfl

/-- A table is as well formed as before if its records keep their shape. -/
theorem wellFormed_records (h : gatt.WellFormed)
    (hshape : ∀ k, (f k).shape = (gatt.characteristics k).shape)
    (hlength : ∀ k : Fin 32, k.val < gatt.characteristicCount.toNat →
      (f k).length ≤ (gatt.characteristics k).capacity) :
    GattTable.WellFormed { gatt with characteristics := f } := by
  have hidentifier k : (f k).identifier = (gatt.characteristics k).identifier := by
    show (f k).shape.identifier = _
    rw [hshape]
    rfl
  have hcapacity k : (f k).capacity = (gatt.characteristics k).capacity := by
    show (f k).shape.capacity = _
    rw [hshape]
    rfl
  have hflags k : (f k).flags = (gatt.characteristics k).flags := by
    show (f k).shape.flags = _
    rw [hshape]
    rfl
  -- the definitions depend on the flags of the records only
  have hdefines : GattTable.Defines { gatt with characteristics := f } = gatt.Defines := by
    funext k p
    show (_ ∧ _ = BleGattChrDef.of k (f k).flags) = _
    rw [hflags]
    rfl
  refine ⟨h.serviceCount_le, h.counts_le, h.count_le, h.counts_sum, h.services_filled,
    h.services_zero, h.counts_zero, ?_, h.defs_zero, ?_, fun k hk => ?_, fun k hk => ?_,
    fun k hk => ?_⟩
  · rw [hdefines]
    exact h.defs_filled
  · rw [hdefines]
    exact h.owner
  · show (f k).identifier.toNat = _
    rw [hidentifier]
    exact h.identifier k hk
  · show (f k).length ≤ (f k).capacity
    rw [hcapacity]
    exact hlength k hk
  · show (f k).capacity ≤ 512
    rw [hcapacity]
    exact h.capacity_le k hk

theorem length_store_le {bytes : List UInt8} (h : bytes.length ≤ c.capacity.toNat) :
    (c.store bytes).length ≤ c.capacity := by
  have hlt : bytes.length < UInt16.size := h.trans_lt c.capacity.toNat_lt
  show UInt16.ofNat bytes.length ≤ _
  rwa [UInt16.le_iff_toNat_le, UInt16.toNat_ofNat_of_lt' hlt]

/-- NimBLE does not notice what changes in the records. -/
theorem Sound.records (h : s.Sound t) (hshape : ∀ k, (f k).shape = (s.gatt.characteristics k).shape)
    (hlength : ∀ k : Fin 32, k.val < s.gatt.characteristicCount.toNat →
      (f k).length ≤ (s.gatt.characteristics k).capacity) :
    BleAdapter.Sound { s with gatt := { s.gatt with characteristics := f } } t :=
  ⟨wellFormed_records h.wellFormed hshape hlength, h.secure, h.ready, h.service, h.down, h.up,
    fun hinit => (h.table hinit).trans (by rw [shape_records hshape]), h.security, h.unset⟩

/-- A value has been stored. -/
theorem Sound.store (h : s.Sound t) {bytes : List UInt8}
    (hfits : bytes.length ≤ (s.gatt.characteristics k).capacity.toNat) :
    BleAdapter.Sound { s with gatt := (s.gattValues.store k bytes).table } t := by
  refine h.records (fun l => s.gattValues.store_other k bytes (·.shape) (fun _ => rfl) l)
    fun l hl => ?_
  by_cases hlk : l = k
  · subst hlk
    rw [Function.update_self]
    exact length_store_le hfits
  · rw [Function.update_of_ne hlk]
    exact h.wellFormed.length_le l hl

end Records

/-! ### Calls while NimBLE runs -/

theorem startAdvertisingInternal_leads (h : s.Sound t) (hinit : s.initialized = true)
    (hservice : 0 ≤ s.advertisingService ∧
      s.advertisingService.toInt ≤ s.gatt.serviceCount.toNat) :
    Leads nimbleProtocol s t (bmxBleStartAdvertisingInternal d) fun _ s' t' =>
      t' = t ∧ (s' = s ∨ s' = { s with advertisingActive := true }) := by
  have hphase := h.up hinit
  refine Leads.look (Leads.gap rfl hphase trivial fun result => ?_)
  refine Leads.ite (fun _ => Leads.pure ⟨rfl, .inl rfl⟩) fun _ => ?_
  refine Leads.ite (fun _ => Leads.pure ⟨rfl, .inl rfl⟩) fun _ => ?_
  refine Leads.gap rfl hphase ⟨hservice.1, (h.services hinit).symm ▸ hservice.2⟩ fun result => ?_
  refine Leads.ite (fun _ => Leads.pure ⟨rfl, .inl rfl⟩) fun _ => ?_
  refine Leads.gap rfl hphase trivial fun result => ?_
  refine Leads.ite (fun _ => Leads.pure ⟨rfl, .inl rfl⟩) fun _ => ?_
  refine Leads.gap rfl hphase trivial fun result => ?_
  refine Leads.ite (fun _ => ?_) fun _ => Leads.pure ⟨rfl, .inl rfl⟩
  exact Leads.change (Leads.pure ⟨rfl, .inr rfl⟩)

/-- A service that is advertised again is still there. -/
theorem autoRestart_leads (h : s.Sound t) (wanted : Bool) :
    Leads nimbleProtocol s t (autoRestart d wanted) fun _ s' t' => s'.Sound t' := by
  refine Leads.look (Leads.ite (fun hwanted => ?_) fun _ => Leads.pure h)
  obtain ⟨hinit, hservice⟩ := h.service (Bool.and_eq_true _ _ ▸ hwanted).2
  refine (startAdvertisingInternal_leads h hinit hservice).bind ?_
  rintro result s' t' ⟨rfl, rfl | rfl⟩
  · exact Leads.pure h
  · exact Leads.pure (h.activity _ _ _)

theorem found_leads {k : BleHs × BleConnDescription → BleProgram ω α} {handle : UInt16}
    (hphase : t.phase = .running) (hk : ∀ r, Leads nimbleProtocol s t (k r) post) :
    Leads nimbleProtocol s t (foundCall d handle >>= k) post :=
  Leads.gap rfl hphase trivial hk

/-- A call-back keeps the invariant. -/
theorem gapEvent_leads (h : s.Sound t) (hphase : t.phase = .running) (event : Event) :
    Leads nimbleProtocol s t (bmxBleGapEvent d event) fun _ s' t' => s'.Sound t' := by
  cases event with
  | discComplete => exact Leads.change (Leads.pure (h.activity _ _ _))
  | connect failed connHandle =>
    refine Leads.change (Leads.ite (fun _ => ?_) fun _ => ?_)
    · refine (autoRestart_leads (h.activity _ _ _) true).bind fun _ s' t' hs' => ?_
      exact Leads.pure hs'
    · exact found_leads hphase fun _ => Leads.pure (h.activity _ _ _)
  | disconnect slave =>
    refine Leads.change ((autoRestart_leads (h.activity _ _ _) slave).bind fun _ s' t' hs' => ?_)
    exact Leads.pure hs'
  | advComplete => exact Leads.change (Leads.pure (h.activity _ _ _))
  | encChange connHandle => exact found_leads hphase fun _ => Leads.pure h
  | connUpdate connHandle => exact found_leads hphase fun _ => Leads.pure h
  | repeatPairing connHandle =>
    refine found_leads hphase fun r => Leads.ite (fun _ => Leads.pure h) fun _ => ?_
    exact Leads.gap rfl hphase trivial fun _ => Leads.pure h
  | other => exact Leads.pure h

theorem onReset_leads (h : s.Sound t) :
    Leads nimbleProtocol s t (bmxBleOnReset : BleProgram ω Unit) fun _ s' t' => s'.Sound t' := by
  refine Leads.last (Leads.change (Leads.pure ?_))
  exact ⟨h.wellFormed, h.secure, (fun hfalse => by cases hfalse), h.service, h.down, h.up, h.table,
    h.security, h.unset⟩

theorem onSync_leads (h : s.Sound t) (hphase : t.phase = .running) :
    Leads nimbleProtocol s t (bmxBleOnSync d) fun _ s' t' => s'.Sound t' := by
  have hinit : s.initialized = true := by
    by_contra hdown
    have hoff := h.down (Bool.eq_false_iff.mpr hdown)
    rw [hphase] at hoff
    cases hoff
  refine Leads.gap rfl hphase trivial fun result => Leads.ite (fun _ => ?_) fun _ => Leads.pure h
  refine Leads.last (Leads.change (Leads.pure ?_))
  exact ⟨h.wellFormed, h.secure, fun _ => hinit, h.service, h.down, h.up, h.table, h.security,
    h.unset⟩

theorem initialized_of_synced (hsync : ¬ (!s.initialized || !s.ready) = true) :
    s.initialized = true := by
  rw [Bool.or_eq_true, not_or, Bool.not_eq_true', Bool.not_eq_false] at hsync
  exact hsync.1

theorem whenSynced_leads {k : BleAdapter → BleProgram ω BleHs} (h : s.Sound t)
    (hk : s.initialized = true → t.phase = .running →
      Leads nimbleProtocol s t (k s) fun _ s' t' => s'.Sound t') :
    Leads nimbleProtocol s t (whenSynced k) fun _ s' t' => s'.Sound t' := by
  refine Leads.look (Leads.ite (fun _ => Leads.pure h) fun hsync => ?_)
  have hinit := initialized_of_synced hsync
  exact hk hinit (h.up hinit)

theorem onConnection_leads {k : UInt16 → BleProgram ω α} (h : s.Sound t)
    (hk : ∀ handle, valid = true → t.phase = .running →
      Leads nimbleProtocol s t (k handle) fun _ s' t' => s'.Sound t') :
    Leads nimbleProtocol s t (onConnection refused connectionHandle valid k)
      fun _ s' t' => s'.Sound t' := by
  refine Leads.look (Leads.ite (fun _ => Leads.pure h) fun haccepted => ?_)
  simp only [Bool.or_eq_true, not_or, Bool.not_eq_true', Bool.not_eq_false] at haccepted
  exact hk _ haccepted.2 (h.up haccepted.1.1.1.1)

/-! ### Arguments in range -/

theorem toNat_of_range {x : Int32} (h0 : 0 ≤ x.toInt) (h : x.toInt < 2 ^ 16) :
    x.toUInt32.toUInt16.toNat = x.toInt.toNat := by
  rw [UInt32.toNat_toUInt16, Int32.toNat_toUInt32_of_le (Int32.le_iff_toInt_le.mpr h0),
    ← Int32.toNat_toInt]
  exact Nat.mod_eq_of_lt (by omega)

theorem toNat8_of_range {x : Int32} (h0 : 0 ≤ x.toInt) (h : x.toInt < 2 ^ 8) :
    x.toUInt32.toUInt8.toNat = x.toInt.toNat := by
  rw [UInt32.toNat_toUInt8, Int32.toNat_toUInt32_of_le (Int32.le_iff_toInt_le.mpr h0),
    ← Int32.toNat_toInt]
  exact Nat.mod_eq_of_lt (by omega)

/-- A checked number in 8 bits. -/
theorem le_of_not_above {x : Int32} {n : Nat} (h : ¬ (x < 0 ∨ Int32.ofNat n < x)) (hn : n < 2 ^ 8) :
    x.toUInt32.toUInt8 ≤ UInt8.ofNat n := by
  rw [not_or, Int32.not_lt, Int32.not_lt, Int32.le_iff_toInt_le, Int32.le_iff_toInt_le,
    Int32.toInt_ofNat_of_lt (by omega)] at h
  have hlow : 0 ≤ x.toInt := h.1
  rw [UInt8.le_iff_toNat_le, toNat8_of_range hlow (by omega), UInt8.toNat_ofNat_of_lt' hn]
  omega

theorem toInt_div_of_nonneg {x n : Int32} (h0 : 0 ≤ x.toInt) (hn : 0 < n.toInt) :
    (x / n).toInt = x.toInt / n.toInt := by
  rw [Int32.toInt_div, Int.tdiv_eq_ediv_of_nonneg h0]
  have hle := Int.ediv_le_self n.toInt h0
  have hnonneg := Int.ediv_nonneg h0 hn.le
  have hlt := x.toInt_lt
  exact Int.bmod_eq_of_le (by omega) (by omega)

/-- A number without bits above the third is at most 7. -/
theorem le_of_masked {u : UInt32} (h : u &&& ~~~7 = 0) : u ≤ 7 := by
  have hsplit : u = u &&& 7 := by
    calc u = u &&& (7 ||| ~~~7) := by simp
      _ = (u &&& 7) ||| (u &&& ~~~7) := UInt32.eq_of_toBitVec_eq BitVec.and_or_distrib_left
      _ = u &&& 7 := by rw [h, UInt32.or_zero]
  rw [hsplit]
  exact UInt32.and_le_right

theorem phyMask_range {mask : Int32} (h : phyMask mask = true) :
    0 < mask.toUInt32.toUInt8 ∧ mask.toUInt32.toUInt8 ≤ 7 := by
  rw [phyMask, Bool.and_eq_true, decide_eq_true_iff, beq_iff_eq] at h
  have hpos : 0 < mask.toInt := Int32.lt_iff_toInt_lt.mp h.1
  have hmasked : mask.toUInt32 &&& ~~~7 = 0 := congrArg Int32.toUInt32 h.2
  have hle : mask.toInt.toNat ≤ 7 := by
    have hword := UInt32.le_iff_toNat_le.mp (le_of_masked hmasked)
    rwa [Int32.toNat_toUInt32_of_le (Int32.le_of_lt h.1), ← Int32.toNat_toInt] at hword
  have hnat := toNat8_of_range hpos.le (by omega)
  rw [UInt8.lt_iff_toNat_lt, UInt8.le_iff_toNat_le, hnat]
  show 0 < mask.toInt.toNat ∧ mask.toInt.toNat ≤ 7
  omega

/-- **What NimBLE is told is what has been asked for**, in its own units. -/
structure BleUpdRequest.Exact (r : BleUpdRequest) : Prop where
  min : (r.parameters.itvlMin.toNat * 1250 : Int) = r.minimumIntervalMicroseconds.toInt
  max : (r.parameters.itvlMax.toNat * 1250 : Int) = r.maximumIntervalMicroseconds.toInt
  latency : (r.parameters.latency.toNat : Int) = r.latency.toInt
  supervisionTimeout :
    (r.parameters.supervisionTimeout.toNat * 10 : Int) = r.supervisionTimeoutMilliseconds.toInt

/-- A quotient without a rest, in 16 bits. -/
theorem quotient_exact {x n : Int32} (h0 : 0 ≤ x.toInt) (hn : 0 < n.toInt) (hrest : x % n = 0)
    (h : x.toInt / n.toInt < 2 ^ 16) :
    ((x / n).toUInt32.toUInt16.toNat * n.toInt : Int) = x.toInt := by
  have hdiv := toInt_div_of_nonneg h0 hn
  have hmod : x.toInt % n.toInt = 0 := by
    have hzero := congrArg Int32.toInt hrest
    rwa [Int32.toInt_mod, Int.tmod_eq_emod_of_nonneg h0, Int32.toInt_zero] at hzero
  have hnonneg : 0 ≤ (x / n).toInt := hdiv ▸ Int.ediv_nonneg h0 hn.le
  rw [toNat_of_range hnonneg (hdiv ▸ h), Int.toNat_of_nonneg hnonneg, hdiv]
  exact Int.ediv_mul_cancel (Int.dvd_of_emod_eq_zero hmod)

theorem BleUpdRequest.exact {r : BleUpdRequest} (h : r.accepted = true) :
    r.Exact ∧ r.parameters.Valid := by
  simp only [BleUpdRequest.accepted, Bool.not_eq_true', Bool.or_eq_false_iff,
    decide_eq_false_iff_not, bne_eq_false_iff_eq, Int32.not_lt, Int32.le_iff_toInt_le] at h
  obtain ⟨⟨⟨⟨⟨⟨⟨⟨⟨hmin, hmax⟩, hordered⟩, hminrest⟩, hmaxrest⟩, hlatency⟩, hlatency'⟩, htimeout⟩,
    htimeout'⟩, htimeoutrest⟩ := h
  have hmin : 7500 ≤ r.minimumIntervalMicroseconds.toInt := hmin
  have hmax : r.maximumIntervalMicroseconds.toInt ≤ 4000000 := hmax
  have hlatency : 0 ≤ r.latency.toInt := hlatency
  have hlatency' : r.latency.toInt ≤ 499 := hlatency'
  have htimeout : 100 ≤ r.supervisionTimeoutMilliseconds.toInt := htimeout
  have htimeout' : r.supervisionTimeoutMilliseconds.toInt ≤ 32000 := htimeout'
  have hexact : r.Exact := by
    refine ⟨quotient_exact (by omega) (by decide) hminrest ?_,
      quotient_exact (by omega) (by decide) hmaxrest ?_, ?_,
      quotient_exact (by omega) (by decide) htimeoutrest ?_⟩
    · show _ / 1250 < _
      omega
    · show _ / 1250 < _
      omega
    · show (r.latency.toUInt32.toUInt16.toNat : Int) = _
      rw [toNat_of_range hlatency (by omega)]
      omega
    · show _ / 10 < _
      omega
  obtain ⟨hmin₁, hmax₁, hlatency₁, htimeout₁⟩ := hexact
  exact ⟨⟨hmin₁, hmax₁, hlatency₁, htimeout₁⟩,
    ⟨by omega, by omega, by omega, by omega, by omega, by omega⟩⟩

/-! ### The calls of the application -/

theorem startScan_leads (h : s.Sound t) (duration : UInt32) (active filterDuplicates : Bool) :
    Leads nimbleProtocol s t (bmxEmbeddedBleStartScan d duration active filterDuplicates)
      fun _ s' t' => s'.Sound t' := by
  refine whenSynced_leads h fun _ hphase => Leads.ite (fun _ => Leads.pure h) fun _ => ?_
  refine Leads.gap rfl hphase trivial fun _ => Leads.ite (fun _ => Leads.pure h) fun _ => ?_
  refine Leads.gap rfl hphase trivial fun _ => Leads.ite (fun _ => ?_) fun _ => Leads.pure h
  exact Leads.change (Leads.pure (h.activity _ _ _))

theorem stopScan_leads (h : s.Sound t) :
    Leads nimbleProtocol s t (bmxEmbeddedBleStopScan d) fun _ s' t' => s'.Sound t' := by
  refine whenSynced_leads h fun _ hphase => Leads.ite (fun _ => Leads.pure h) fun _ => ?_
  refine Leads.change (Leads.gap rfl hphase trivial fun _ => ?_)
  refine Leads.ite (fun _ => Leads.pure (h.activity _ _ _)) fun _ => ?_
  exact Leads.change (Leads.pure (h.activity _ _ _))

theorem startAdvertising_leads (h : s.Sound t) (serviceId : Int32) (duration : UInt32)
    (connectable autoRestart : Bool) :
    Leads nimbleProtocol s t
      (bmxEmbeddedBleStartAdvertising d serviceId duration connectable autoRestart)
      fun _ s' t' => s'.Sound t' := by
  refine whenSynced_leads h fun hinit _ => Leads.ite (fun _ => Leads.pure h) fun _ => ?_
  refine Leads.ite (fun _ => Leads.pure h) fun _ => Leads.ite (fun _ => Leads.pure h) fun hid => ?_
  have hservice : 0 ≤ serviceId ∧ serviceId.toInt ≤ s.gatt.serviceCount.toNat := by
    rwa [not_or, Int32.not_lt, not_lt] at hid
  have hnew : BleAdapter.Sound { s with
      advertisingService := serviceId, advertisingDuration := duration,
      advertisingConnectable := connectable, advertisingAutoRestart := autoRestart } t :=
    ⟨h.wellFormed, h.secure, h.ready, fun _ => ⟨hinit, hservice⟩, h.down, h.up, h.table,
      h.security, h.unset⟩
  refine Leads.change ((startAdvertisingInternal_leads hnew hinit hservice).bind ?_)
  rintro result s' t' ⟨rfl, hs'⟩
  have hsound : s'.Sound t' := by
    rcases hs' with rfl | rfl
    · exact hnew
    · exact hnew.activity _ _ _
  refine Leads.ite (fun _ => ?_) fun _ => Leads.pure hsound
  exact Leads.change (Leads.pure hsound.calm)

theorem stopAdvertising_leads (h : s.Sound t) :
    Leads nimbleProtocol s t (bmxEmbeddedBleStopAdvertising d) fun _ s' t' => s'.Sound t' := by
  refine whenSynced_leads h fun _ hphase => Leads.change ?_
  refine Leads.ite (fun _ => Leads.pure h.calm) fun _ => ?_
  exact Leads.last (Leads.gap rfl hphase trivial fun _ => Leads.pure h.calm)

theorem connect_leads (h : s.Sound t) (addressType : Int32) (address : Option (Vector UInt8 6))
    (timeout : UInt32) :
    Leads nimbleProtocol s t (bmxEmbeddedBleConnect d addressType address timeout)
      fun _ s' t' => s'.Sound t' := by
  refine whenSynced_leads h fun _ hphase => ?_
  cases address with
  | none => exact Leads.pure h
  | some address =>
    refine Leads.ite (fun _ => Leads.pure h) fun htype => Leads.ite (fun _ => Leads.pure h) fun _ => ?_
    refine Leads.ite (fun _ => Leads.pure h) fun _ => ?_
    refine Leads.gap rfl hphase trivial fun _ => Leads.ite (fun _ => Leads.pure h) fun _ => ?_
    refine Leads.gap rfl hphase (le_of_not_above htype (by decide)) fun _ => ?_
    refine Leads.ite (fun _ => ?_) fun _ => Leads.pure h
    exact Leads.change (Leads.pure (h.activity _ _ _))

theorem cancelConnect_leads (h : s.Sound t) :
    Leads nimbleProtocol s t (bmxEmbeddedBleCancelConnect d) fun _ s' t' => s'.Sound t' := by
  refine whenSynced_leads h fun _ hphase => Leads.ite (fun _ => Leads.pure h) fun _ => ?_
  refine Leads.gap rfl hphase trivial fun _ => Leads.ite (fun _ => ?_) fun _ => Leads.pure h
  exact Leads.change (Leads.pure (h.activity _ _ _))

theorem peers_leads {k : BleHs × List BleAddr → BleProgram ω α} (hphase : t.phase = .running)
    (hk : ∀ r, Leads nimbleProtocol s t (k r) post) :
    Leads nimbleProtocol s t (peersCall d >>= k) post :=
  Leads.gap rfl hphase trivial hk

theorem bondCount_leads (h : s.Sound t) :
    Leads nimbleProtocol s t (bmxEmbeddedBleBondCount d) fun _ s' t' => s'.Sound t' := by
  refine Leads.look (Leads.ite (fun _ => Leads.pure h) fun hsync => ?_)
  exact peers_leads (h.up (initialized_of_synced hsync)) fun _ => Leads.pure h

theorem bond_leads (h : s.Sound t) (index : Int32) (pointers : Bool) :
    Leads nimbleProtocol s t (bmxEmbeddedBleBond d index pointers) fun _ s' t' => s'.Sound t' := by
  refine Leads.look (Leads.ite (fun _ => Leads.pure h) fun hsync => ?_)
  refine Leads.ite (fun _ => Leads.pure h) fun _ => ?_
  refine peers_leads (h.up (initialized_of_synced hsync)) fun r => ?_
  refine Leads.ite (fun _ => Leads.pure h) fun _ => ?_
  cases r.2[index.toInt.toNat]? with
  | none => exact Leads.pure h
  | some peer => exact Leads.pure h

theorem unpairAll_leads (h : s.Sound t) (hphase : t.phase = .running) (peers : List BleAddr) :
    Leads nimbleProtocol s t (unpairAll d peers) fun _ s' t' => s'.Sound t' := by
  induction peers with
  | nil => exact Leads.pure h
  | cons peer peers ih =>
    exact Leads.gap rfl hphase trivial fun _ => Leads.ite (fun _ => Leads.pure h) fun _ => ih

theorem forgetAllBonds_leads (h : s.Sound t) :
    Leads nimbleProtocol s t (bmxEmbeddedBleForgetAllBonds d) fun _ s' t' => s'.Sound t' := by
  refine whenSynced_leads h fun _ hphase => peers_leads hphase fun r => ?_
  exact Leads.ite (fun _ => Leads.pure h) fun _ => unpairAll_leads h hphase r.2

theorem forgetBond_leads (h : s.Sound t) (addressType : Int32)
    (address : Option (Vector UInt8 6)) :
    Leads nimbleProtocol s t (bmxEmbeddedBleForgetBond d addressType address)
      fun _ s' t' => s'.Sound t' := by
  refine whenSynced_leads h fun _ hphase => ?_
  cases address with
  | none => exact Leads.pure h
  | some address =>
    refine Leads.ite (fun _ => Leads.pure h) fun _ => Leads.last ?_
    exact Leads.gap rfl hphase trivial fun _ => Leads.pure h

/-- A connection's security may be asked for while NimBLE runs. -/
theorem securityState_leads (h : s.Sound t) (hinit : s.initialized = true) (pointers : Bool) :
    Leads nimbleProtocol s t (bmxEmbeddedBleSecurityState d connectionHandle pointers)
      fun _ s' t' => s'.Sound t' := by
  refine Leads.ite (fun _ => Leads.pure h) fun _ => found_leads (h.up hinit) fun r => ?_
  exact Leads.ite (fun _ => Leads.pure h) fun _ => Leads.pure h

theorem configureSecurity_leads (h : s.Sound t) (ioCapability : Int32)
    (bonding authentication secureConnections secureConnectionsOnly : Bool) :
    Leads nimbleProtocol s t (bmxEmbeddedBleConfigureSecurity ioCapability bonding authentication
      secureConnections secureConnectionsOnly : BleProgram ω BleHs) fun _ s' t' => s'.Sound t' := by
  refine Leads.look (Leads.ite (fun _ => Leads.pure h) fun hdown => ?_)
  refine Leads.ite (fun _ => Leads.pure h) fun hcapability => ?_
  refine Leads.ite (fun _ => Leads.pure h) fun honly => Leads.change (Leads.pure ?_)
  have hup : s.initialized ≠ true := hdown
  refine ⟨h.wellFormed, ?_, h.ready, h.service, h.down, fun hinit => absurd hinit hup,
    fun hinit => absurd hinit hup, fun hinit => absurd hinit hup, fun hnone => by cases hnone⟩
  intro security hsecurity
  obtain rfl := Option.some.inj hsecurity
  refine ⟨le_of_not_above hcapability (by decide), fun hdemand => ?_⟩
  -- a demand without support has been refused
  cases hsupport : secureConnections with
  | true => rfl
  | false =>
    have hdemand : secureConnectionsOnly = true := hdemand
    rw [hdemand, hsupport] at honly
    exact absurd rfl honly

/-- The tables change only while NimBLE is off. -/
theorem gattCall_leads (h : s.Sound t) {f : GattTable → Bool → GattAnswer}
    (hup : s.initialized = true → (f s.gatt true).table = s.gatt)
    (hdown : (f s.gatt false).table.WellFormed) :
    Leads nimbleProtocol s t (gattCall f : BleProgram ω BleHs) fun _ s' t' => s'.Sound t' := by
  refine Leads.look (Leads.change (Leads.pure ?_))
  by_cases hinit : s.initialized = true
  · have hsame : (f s.gatt s.initialized).table = s.gatt := by
      rw [hinit]
      exact hup hinit
    rw [hsame]
    exact h
  · have hwell : (f s.gatt s.initialized).table.WellFormed := by
      rw [Bool.eq_false_iff.mpr hinit]
      exact hdown
    exact ⟨hwell, h.secure, h.ready, fun hauto => absurd (h.service hauto).1 hinit, h.down, h.up,
      fun hup => absurd hup hinit, h.security, h.unset⟩

theorem gattReset_leads (h : s.Sound t) :
    Leads nimbleProtocol s t (gattCall bmxEmbeddedBleGattReset : BleProgram ω BleHs)
      fun _ s' t' => s'.Sound t' :=
  gattCall_leads h (fun _ => rfl) GattTable.wellFormed_zero

/-- A call that keeps what is registered keeps the tables well formed. -/
theorem wellFormed_of_keeps {gatt : GattTable} {Id : GattTable → Int32 → Prop} {r : GattAnswer}
    (hwell : gatt.WellFormed) (h : gatt.Keeps Id r) : r.table.WellFormed := by
  by_cases hok : r.result = .ok
  · exact (h.2 hok).1
  · exact hwell.of_same (h.1 hok)

theorem gattAddService_leads (h : s.Sound t) (fromStr : BleUuidFromStr) (a : GattServiceArgs) :
    Leads nimbleProtocol s t (gattCall fun gatt initialized =>
      bmxEmbeddedBleGattAddService gatt initialized fromStr a : BleProgram ω BleHs)
      fun _ s' t' => s'.Sound t' := by
  refine gattCall_leads h (fun _ => ?_) (wellFormed_of_keeps h.wellFormed
    (GattTable.keeps_addService h.wellFormed false fromStr a))
  unfold bmxEmbeddedBleGattAddService
  split <;> rfl

theorem gattAddCharacteristic_leads (h : s.Sound t) (fromStr : BleUuidFromStr)
    (a : GattCharacteristicArgs) :
    Leads nimbleProtocol s t (gattCall fun gatt initialized =>
      bmxEmbeddedBleGattAddCharacteristic gatt initialized fromStr a : BleProgram ω BleHs)
      fun _ s' t' => s'.Sound t' := by
  refine gattCall_leads h (fun _ => ?_) (wellFormed_of_keeps h.wellFormed
    (GattTable.keeps_addCharacteristic h.wellFormed false fromStr a))
  unfold bmxEmbeddedBleGattAddCharacteristic
  split <;> rfl

/-! ### The calls for a connection -/

theorem disconnect_leads (h : s.Sound t) :
    Leads nimbleProtocol s t (bmxEmbeddedBleDisconnect d connectionHandle)
      fun _ s' t' => s'.Sound t' :=
  onConnection_leads h fun _ _ hphase =>
    Leads.last (Leads.gap rfl hphase trivial fun _ => Leads.pure h)

theorem exchangeMtu_leads (h : s.Sound t) :
    Leads nimbleProtocol s t (bmxEmbeddedBleExchangeMtu d connectionHandle)
      fun _ s' t' => s'.Sound t' :=
  onConnection_leads h fun _ _ hphase =>
    Leads.last (Leads.gap rfl hphase trivial fun _ => Leads.pure h)

theorem connectionMtu_leads (h : s.Sound t) :
    Leads nimbleProtocol s t (bmxEmbeddedBleConnectionMtu d connectionHandle)
      fun _ s' t' => s'.Sound t' :=
  onConnection_leads h fun _ _ hphase =>
    Leads.last (Leads.gap rfl hphase trivial fun _ => Leads.pure h)

theorem connectionInfo_leads (h : s.Sound t) (pointers : Bool) :
    Leads nimbleProtocol s t (bmxEmbeddedBleConnectionInfo d connectionHandle pointers)
      fun _ s' t' => s'.Sound t' :=
  onConnection_leads h fun _ _ hphase =>
    found_leads hphase fun _ => Leads.ite (fun _ => Leads.pure h) fun _ => Leads.pure h

theorem connectionRssi_leads (h : s.Sound t) (pointers : Bool) :
    Leads nimbleProtocol s t (bmxEmbeddedBleConnectionRssi d connectionHandle pointers)
      fun _ s' t' => s'.Sound t' :=
  onConnection_leads h fun _ _ hphase => Leads.gap rfl hphase trivial fun _ => Leads.pure h

theorem connectionPhy_leads (h : s.Sound t) (pointers : Bool) :
    Leads nimbleProtocol s t (bmxEmbeddedBleConnectionPhy d connectionHandle pointers)
      fun _ s' t' => s'.Sound t' :=
  onConnection_leads h fun _ _ hphase => Leads.gap rfl hphase trivial fun _ => Leads.pure h

theorem updateConnectionParameters_leads (h : s.Sound t) (request : BleUpdRequest) :
    Leads nimbleProtocol s t
      (bmxEmbeddedBleUpdateConnectionParameters d connectionHandle request)
      fun _ s' t' => s'.Sound t' :=
  onConnection_leads h fun _ haccepted hphase =>
    Leads.last (Leads.gap rfl hphase (BleUpdRequest.exact haccepted).2 fun _ => Leads.pure h)

theorem setPreferredPhy_leads (h : s.Sound t) (txPhyMask rxPhyMask codedPreference : Int32) :
    Leads nimbleProtocol s t
      (bmxEmbeddedBleSetPreferredPhy d connectionHandle txPhyMask rxPhyMask codedPreference)
      fun _ s' t' => s'.Sound t' := by
  refine onConnection_leads h fun handle haccepted hphase => Leads.last ?_
  simp only [Bool.and_eq_true, decide_eq_true_iff, Int32.le_iff_toInt_le] at haccepted
  obtain ⟨⟨⟨htx, hrx⟩, hlow⟩, hhigh⟩ := haccepted
  have hlow : 0 ≤ codedPreference.toInt := hlow
  have hhigh : codedPreference.toInt ≤ 2 := hhigh
  refine Leads.gap rfl hphase ⟨phyMask_range htx, phyMask_range hrx, ?_⟩ fun _ => Leads.pure h
  rw [UInt16.le_iff_toNat_le, toNat_of_range hlow (by omega)]
  show codedPreference.toInt.toNat ≤ 2
  omega

theorem secureConnection_leads (h : s.Sound t) :
    Leads nimbleProtocol s t (bmxEmbeddedBleSecureConnection d connectionHandle)
      fun _ s' t' => s'.Sound t' :=
  onConnection_leads h fun _ _ hphase =>
    Leads.last (Leads.gap rfl hphase trivial fun _ => Leads.pure h)

theorem providePasskey_leads (h : s.Sound t) (input : Option Bool) (passkey : Int32) :
    Leads nimbleProtocol s t (bmxEmbeddedBleProvidePasskey d connectionHandle input passkey)
      fun _ s' t' => s'.Sound t' := by
  refine onConnection_leads h fun handle haccepted hphase => Leads.last ?_
  simp only [Bool.and_eq_true, decide_eq_true_iff] at haccepted
  obtain ⟨⟨hlow, hhigh⟩, -⟩ := haccepted
  have hhigh : passkey.toInt ≤ 999999 := Int32.le_iff_toInt_le.mp hhigh
  refine Leads.gap rfl hphase ?_ fun _ => Leads.pure h
  show passkey.toUInt32 ≤ 999999
  rw [UInt32.le_iff_toNat_le, Int32.toNat_toUInt32_of_le hlow, ← Int32.toNat_toInt]
  show passkey.toInt.toNat ≤ 999999
  omega

theorem confirmPasskey_leads (h : s.Sound t) (accept : Bool) :
    Leads nimbleProtocol s t (bmxEmbeddedBleConfirmPasskey d connectionHandle accept)
      fun _ s' t' => s'.Sound t' :=
  onConnection_leads h fun _ _ hphase =>
    Leads.last (Leads.gap rfl hphase trivial fun _ => Leads.pure h)

/-! ### The GATT client -/

/-- What is asked for is in range. -/
theorem valid_of_serves {request : GattcCall} {mtu : UInt16} {asked : BleRequest}
    (h : request.Serves mtu asked) : request.Valid := by
  cases request <;> cases asked <;> try exact h.elim
  case discAllSvcs.discoverServices => trivial
  case discAllChrs.discoverCharacteristics => exact ⟨h.2.2.2.1, h.2.2.2.2.1⟩
  case discAllDscs.discoverDescriptors => exact ⟨h.2.2.2.1, h.2.2.2.2⟩
  case writeLong.clientWrite => exact h.2.2.1
  case writeFlat.clientWrite => exact h.2.2.1
  case writeNoRspFlat.clientWrite => exact h.2.2.1

theorem gattcCall_leads (h : s.Sound t) {asked : BleRequest} {initialized ready : Bool}
    {answers : GattcAnswers} {request : Except BleHs GattcCall}
    (hrequest : asked.call initialized ready answers = request)
    (hphase : ∀ c, request = .ok c → t.phase = .running) :
    Leads nimbleProtocol s t (gattcCall d request) fun _ s' t' => s'.Sound t' := by
  cases request with
  | error refusal => exact Leads.pure h
  | ok c =>
    have hvalid := valid_of_serves (BleRequest.serves hrequest)
    show Leads nimbleProtocol s t (hsCall d (.gattc c)) _
    exact Leads.last (Leads.gap rfl (hphase c rfl) hvalid fun _ => Leads.pure h)

/-- A discovery that is not refused finds NimBLE running. -/
theorem Sound.running_of_call (h : s.Sound t) {asked : BleRequest} {answers : GattcAnswers}
    {c : GattcCall} (hcall : asked.call s.initialized s.ready answers = .ok c) :
    t.phase = .running := by
  refine h.up (by_contra fun hdown => ?_)
  rw [Bool.not_eq_true] at hdown
  rw [hdown] at hcall
  cases asked <;> cases hcall

theorem discover_leads (h : s.Sound t) (asked : BleRequest) :
    Leads nimbleProtocol s t (gattcCall d (asked.call s.initialized s.ready {}))
      fun _ s' t' => s'.Sound t' :=
  gattcCall_leads h rfl fun _ hcall => h.running_of_call hcall

theorem clientRead_leads (h : s.Sound t) (free : Bool) (attributeHandle : Int32)
    (offset : UInt32) :
    Leads nimbleProtocol s t
      (bmxEmbeddedBleClientRead d free connectionHandle attributeHandle offset)
      fun _ s' t' => s'.Sound t' := by
  refine Leads.look ?_
  cases hrequest : readRequest s.initialized s.ready connectionHandle attributeHandle offset with
  | none => exact Leads.pure h
  | some request =>
    unfold readRequest at hrequest
    obtain ⟨haccepted, hrequest⟩ := Option.ite_none_left_eq_some.mp hrequest
    obtain rfl := Option.some.inj hrequest
    simp only [not_or, Bool.not_eq_false] at haccepted
    obtain ⟨hinit, -, -, -, hattribute, hattribute', -⟩ := haccepted
    refine Leads.ite (fun _ => Leads.pure h) fun _ => Leads.last ?_
    exact Leads.gap rfl (h.up hinit) (one_le_handle hattribute hattribute').2 fun _ => Leads.pure h

theorem clientWrite_leads (h : s.Sound t) (attributeHandle : Int32) (value : Option (List UInt8))
    (valueLength : UInt32) (response : Int32) :
    Leads nimbleProtocol s t
      (bmxEmbeddedBleClientWrite d connectionHandle attributeHandle value valueLength response)
      fun _ s' t' => s'.Sound t' := by
  refine onConnection_leads h fun handle haccepted hphase => Leads.gap rfl hphase trivial fun mtu => ?_
  have hlength : valueLength ≤ 512 := by
    simp only [Bool.not_eq_true', Bool.or_eq_false_iff, decide_eq_false_iff_not] at haccepted
    exact UInt32.not_lt.mp haccepted.1.2
  have hrest : ∀ mbuf, Leads nimbleProtocol s t (gattcCall d
      (Esp32Mod.bmxEmbeddedBleClientWrite true true connectionHandle attributeHandle value
        valueLength response { mtu, mbuf })) fun _ s' t' => s'.Sound t' := by
    intro mbuf
    have hrequest : (BleRequest.clientWrite connectionHandle attributeHandle value valueLength
        response).call true true { mtu, mbuf } = _ := rfl
    exact gattcCall_leads h hrequest fun _ _ => hphase
  unfold writeMemory
  split
  · exact Leads.gap rfl hphase hlength hrest
  · exact hrest true

/-! ### GATT values -/

theorem sendAll_leads (hphase : t.phase = .running) {sent : List GattSent}
    (hsent : ∀ x ∈ sent, 1 ≤ x.handle) {k : Unit → BleProgram ω α}
    (hk : Leads nimbleProtocol s t (k ()) post) :
    Leads nimbleProtocol s t (sendAll sent >>= k) post := by
  induction sent with
  | nil => exact hk
  | cons x rest ih =>
    have hrest := ih fun y hy => hsent y (List.mem_cons_of_mem x hy)
    have hvalid : (NimbleCall.gatts x).Valid t := hsent x List.mem_cons_self
    show Leads nimbleProtocol s t ((voidCall (.gatts x) >>= fun _ => sendAll rest) >>= k) post
    rw [bind_assoc]
    exact Leads.gap rfl hphase hvalid fun _ => hrest

/-- A record that is not 0 has a handle that NimBLE has given to it. -/
theorem one_le_of_synced {k : Fin 32} (h : s.Sound t) (hsynced : s.gattValues.synced k ≠ false) :
    t.phase = .running ∧ 1 ≤ (s.gatt.characteristics k).valueHandle := by
  rw [Bool.ne_false_iff, BleGatt.synced, Bool.and_eq_true, Bool.and_eq_true, bne_iff_ne] at hsynced
  refine ⟨h.up hsynced.1.1, UInt16.le_iff_toNat_le.mpr ?_⟩
  exact Nat.pos_of_ne_zero fun hzero => hsynced.2 (UInt16.toNat_inj.mp hzero)

theorem gattSetValue_leads (h : s.Sound t) (a : GattSetArgs) :
    Leads nimbleProtocol s t (bmxEmbeddedBleGattSetValue a : BleProgram ω BleHs)
      fun _ s' t' => s'.Sound t' := by
  refine Leads.look ?_
  unfold Esp32Mod.bmxEmbeddedBleGattSetValue
  cases haccept : a.accept s.gattValues.table with
  | none => exact Leads.change (Leads.pure h)
  | some k =>
    have hstored := h.store (GattValues.accept_fits haccept).2
    dsimp only
    split
    · exact Leads.change (Leads.pure hstored)
    · split
      · exact Leads.change (Leads.pure hstored)
      next hnotified =>
        -- the handle is not 0, or nobody would have been notified
        have hsynced : (s.gattValues.store k a.bytes).synced k ≠ false := fun hfalse =>
          hnotified ((GattValues.notifySubscribers_ne_ok_iff _ k).mpr (.inr hfalse))
        obtain ⟨hphase, hhandle⟩ := one_le_of_synced hstored hsynced
        refine Leads.change (sendAll_leads hphase ?_ (Leads.pure hstored))
        intro x hx
        obtain rfl := List.mem_singleton.mp hx
        exact hhandle

theorem gattNotify_leads (h : s.Sound t) (a : GattNotifyArgs) :
    Leads nimbleProtocol s t (bmxEmbeddedBleGattNotify d a) fun _ s' t' => s'.Sound t' := by
  refine Leads.look ?_
  cases bmxBleGattCharacteristic s.gatt (gattIdentifier a.characteristicId) with
  | none => exact Leads.pure h
  | some k =>
    refine Leads.ite (fun _ => Leads.pure h) fun _ => Leads.ite (fun _ => Leads.pure h) fun hsynced => ?_
    obtain ⟨hphase, hhandle⟩ := one_le_of_synced h hsynced
    refine Leads.ite (fun _ => Leads.ite (fun _ => Leads.pure h) fun _ => ?_) fun _ => ?_
    · exact Leads.gap rfl hphase hhandle fun _ => Leads.pure h
    refine Leads.ite (fun _ => Leads.pure h) fun _ => Leads.gap rfl hphase trivial fun mtu => ?_
    refine Leads.ite (fun _ => Leads.pure h) fun _ => Leads.ite (fun _ => Leads.pure h) fun _ => ?_
    refine Leads.ite (fun _ => Leads.last ?_) fun _ => Leads.last ?_
    · exact Leads.gap rfl hphase hhandle fun _ => Leads.pure h
    · exact Leads.gap rfl hphase hhandle fun _ => Leads.pure h

/-- What a peer does leaves the record, or stores a value that fits. -/
theorem access_stores (request : GattRequest) (c : BMXBLEGATTCharacteristic) :
    (request.access (some c)).characteristic = some c ∨ ∃ bytes, bytes.length ≤ c.capacity.toNat ∧
      (request.access (some c)).characteristic = some (c.store bytes) := by
  cases hcontext : request.context with
  | none =>
    unfold GattRequest.access Esp32Mod.bmxBleGattAccess
    rw [hcontext]
    exact .inl rfl
  | some context =>
    cases hop : context.op with
    | readChr => exact .inl (GattRequest.access_read hcontext hop c)
    | writeChr =>
      have hwrite := GattRequest.access_write hcontext hop c
      split at hwrite
      · exact .inl hwrite
      next hresult => exact .inr ⟨_, GattValues.access_fits hcontext hop hresult, hwrite⟩
    | other =>
      unfold GattRequest.access Esp32Mod.bmxBleGattAccess
      rw [hcontext]
      simp only [hop]
      exact .inl trivial

theorem gattAccess_leads (h : s.Sound t) (service : Fin 8) (j : Fin 9) (request : GattRequest) :
    Leads nimbleProtocol s t (bmxBleGattAccess service j request : BleProgram ω Unit)
      fun _ s' t' => s'.Sound t' := by
  refine Leads.last (Leads.change (Leads.pure ?_))
  dsimp only
  split
  next k _ _ =>
    rcases access_stores request (s.gatt.characteristics k) with hsame | ⟨bytes, hfits, hstored⟩
    · rw [hsame, Option.getD_some, Function.update_eq_self]
      exact h
    · rw [hstored, Option.getD_some]
      exact h.store hfits
  · exact h

theorem gattStarted_leads (h : s.Sound t) (valueHandles : Fin 32 → UInt16) :
    Leads nimbleProtocol s t (gattStarted valueHandles : BleProgram ω Unit)
      fun _ s' t' => s'.Sound t' :=
  Leads.last (Leads.change (Leads.pure
    (h.records (fun _ => rfl) fun k hk => h.wellFormed.length_le k hk)))

/-! ### Up and down -/

/-- What a call leaves that may end with NimBLE lost. -/
def Settled (s : BleAdapter) (t : NimbleState) : Prop := t.phase = .lost ∨ s.Sound t

theorem Sound.off (h : s.Sound t) (hdown : s.initialized = false) {t' : NimbleState}
    (hoff : t'.phase = .off) (hunset : s.security = none → t'.security = none) : s.Sound t' := by
  have hnot : s.initialized ≠ true := by
    rw [hdown]
    exact Bool.false_ne_true
  exact ⟨h.wellFormed, h.secure, h.ready, h.service, fun _ => hoff, fun hup => absurd hup hnot,
    fun hup => absurd hup hnot, fun hup => absurd hup hnot, hunset⟩

/-- The flash is there before NimBLE is. -/
theorem flashInit_leads {erases : EspErr → Bool} {k : EspErr → BleProgram ω α}
    (hk : ∀ result, Leads nimbleProtocol s t (k result) post) :
    Leads nimbleProtocol s t (flashInit d erases >>= k) post := by
  have hflash : Leads nimbleProtocol s t (flashInit d erases) fun _ s' t' => s' = s ∧ t' = t := by
    refine Leads.call (fun _ => trivial) fun result => Leads.ite (fun _ => ?_) fun _ => ?_
    · refine Leads.call (fun _ => trivial) fun result => Leads.ite (fun _ => ?_) fun _ => ?_
      · exact Leads.last (Leads.call (fun _ => trivial) fun _ => Leads.pure ⟨rfl, rfl⟩)
      · exact Leads.pure ⟨rfl, rfl⟩
    · exact Leads.pure ⟨rfl, rfl⟩
  refine hflash.bind ?_
  rintro result s' t' ⟨rfl, rfl⟩
  exact hk result

/-- NimBLE is given back, and is off, or lost. -/
theorem giveUp_leads (h : s.Sound t) (hdown : s.initialized = false) {t' : NimbleState}
    (hphase : t'.phase = .initialised) (hunset : s.security = none → t'.security = none)
    (result : BleHs) :
    Leads nimbleProtocol s t' (giveUp d result) fun _ s'' t'' => s''.Settled t'' := by
  refine Leads.call (fun _ => .inl hphase) fun result => Leads.pure ?_
  show s.Settled (nimbleAfter t' ⟨.portDeinit, decide (result = espOk)⟩)
  cases decide (result = espOk) with
  | true => exact .inr (h.off hdown rfl hunset)
  | false => exact .inl rfl

theorem setName_leads {name : List UInt8} {nameLength : UInt32} (hlength : ¬ 248 < nameLength)
    (hphase : t.phase = .initialised) {k : BleHs → BleProgram ω α}
    (hk : ∀ result, Leads nimbleProtocol s t (k result) post) :
    Leads nimbleProtocol s t (setName d name nameLength >>= k) post := by
  have hname : Leads nimbleProtocol s t (setName d name nameLength)
      fun _ s' t' => s' = s ∧ t' = t := by
    refine Leads.ite (fun _ => Leads.last ?_) fun _ => Leads.pure ⟨rfl, rfl⟩
    refine Leads.call (fun _ => ⟨hphase, ?_, ?_⟩) fun _ => Leads.pure ⟨rfl, rfl⟩
    · -- the buffer takes 248 bytes and the NUL
      have hle := UInt32.le_iff_toNat_le.mp (UInt32.not_lt.mp hlength)
      calc ((name.take nameLength.toNat).takeWhile (· ≠ 0)).length
          ≤ (name.take nameLength.toNat).length := (List.takeWhile_sublist _).length_le
        _ ≤ nameLength.toNat := List.length_take_le ..
        _ ≤ 248 := hle
    · intro hzero
      simpa using List.all_eq_true.mp List.all_takeWhile 0 hzero
  refine hname.bind ?_
  rintro result s' t' ⟨rfl, rfl⟩
  exact hk result

/-- If the services are taken, NimBLE has them. -/
theorem addServices_leads {gatt : GattTable} (hwell : gatt.WellFormed)
    (hphase : t.phase = .initialised) (htable : t.table = none) :
    Leads nimbleProtocol s t (addServices d gatt) fun result s' t' => s' = s ∧
      t'.phase = .initialised ∧ t'.security = t.security ∧ (result = .ok →
        t'.table = if gatt.serviceCount ≠ 0 then some gatt.shape else none) := by
  refine Leads.ite (fun hsome => ?_) fun hnone => ?_
  · refine Leads.call (fun _ => ⟨hphase, hwell⟩) fun result => Leads.ite (fun _ => ?_) fun hne => ?_
    · refine Leads.last (Leads.call (fun _ => ⟨hphase, hwell⟩) fun result => Leads.pure ?_)
      show s = s ∧ (nimbleAfter t ⟨.addSvcs gatt, decide (result = .ok)⟩).phase = _ ∧
        (nimbleAfter t ⟨.addSvcs gatt, decide (result = .ok)⟩).security = _ ∧ _
      by_cases hok : result = .ok
      · rw [decide_eq_true hok, if_pos hsome]
        exact ⟨rfl, hphase, rfl, fun _ => rfl⟩
      · rw [decide_eq_false hok]
        exact ⟨rfl, hphase, rfl, fun hok' => absurd hok' hok⟩
    · exact Leads.pure ⟨rfl, hphase, rfl, fun hok => absurd hok hne⟩
  · exact Leads.pure ⟨rfl, hphase, rfl, fun _ => by rw [if_neg hnone, htable]⟩

theorem initialize_leads (h : s.Sound t) (erases : EspErr → Bool) (name : Option (List UInt8))
    (nameLength : UInt32) :
    Leads nimbleProtocol s t (bmxEmbeddedBleInitialize d erases name nameLength)
      fun _ s' t' => s'.Settled t' := by
  refine Leads.look (Leads.ite (fun _ => Leads.pure (.inr h)) fun hdown => ?_)
  have hdown : s.initialized = false := Bool.eq_false_iff.mpr hdown
  have hphase := h.down hdown
  refine Leads.ite (fun _ => Leads.pure (.inr h)) fun hargs => ?_
  refine flashInit_leads fun _ => Leads.ite (fun _ => Leads.pure (.inr h)) fun _ => ?_
  refine Leads.call (fun _ => hphase) fun result => Leads.ite (fun hne => Leads.pure ?_) fun hok => ?_
  · rw [decide_eq_false hne]
    exact .inr h
  rw [decide_eq_true (not_not.mp hok)]
  refine Leads.call (fun _ => ⟨rfl, h.secure⟩) fun _ => Leads.call (fun _ => rfl) fun _ => ?_
  -- what has been configured before stays, where there is nothing new
  have hsecurity : s.security.or t.security = s.security := by
    cases hset : s.security with
    | none => rw [Option.none_or, h.unset hset]
    | some security => rw [Option.some_or]
  have hunset : s.security = none → s.security.or t.security = none := hsecurity.trans
  refine setName_leads (not_or.mp hargs).1 rfl fun result => ?_
  refine Leads.ite (fun _ => giveUp_leads h hdown rfl hunset result) fun _ => ?_
  refine (addServices_leads h.wellFormed rfl rfl).bind ?_
  rintro result s' t' ⟨rfl, hphase', hsecurity', htable⟩
  refine Leads.ite (fun _ => ?_) fun hok => ?_
  · exact giveUp_leads h hdown hphase' (fun hnone => hsecurity'.trans (hunset hnone)) result
  refine Leads.change (Leads.call (fun _ => hphase') fun _ => Leads.pure (.inr ?_))
  exact ⟨h.wellFormed, h.secure, (fun hfalse => by cases hfalse), (fun hfalse => by cases hfalse),
    (fun hfalse => by cases hfalse), fun _ => rfl, fun _ => htable (not_not.mp hok),
    fun _ => hsecurity'.trans hsecurity, fun hnone => hsecurity'.trans (hunset hnone)⟩

theorem cancelFirst_leads {k : BleHs → BleProgram ω α} {active : Bool} (hgap : c.gap = true)
    (hphase : t.phase = .running) (hvalid : c.Valid t)
    (hk : ∀ result, Leads nimbleProtocol s t (k result) post) :
    Leads nimbleProtocol s t (cancelFirst d active c >>= k) post := by
  have hcancel : Leads nimbleProtocol s t (cancelFirst d active c)
      fun _ s' t' => s' = s ∧ t' = t := by
    refine Leads.ite (fun _ => ?_) fun _ => Leads.pure ⟨rfl, rfl⟩
    exact Leads.gap hgap hphase hvalid fun _ => Leads.pure ⟨rfl, rfl⟩
  refine hcancel.bind ?_
  rintro result s' t' ⟨rfl, rfl⟩
  exact hk result

theorem deinitialize_leads (h : s.Sound t) :
    Leads nimbleProtocol s t (BleAdapter.bmxEmbeddedBleDeinitialize d) fun _ s' t' => s'.Settled t' := by
  refine Leads.look (Leads.ite (fun _ => Leads.pure (.inr h)) fun hup => ?_)
  have hphase := h.up (Bool.not_eq_false _ ▸ hup)
  refine cancelFirst_leads rfl hphase trivial fun _ => ?_
  refine Leads.ite (fun _ => Leads.pure (.inr h)) fun _ => ?_
  refine cancelFirst_leads rfl hphase trivial fun _ => ?_
  refine Leads.ite (fun _ => Leads.pure (.inr h)) fun _ => Leads.change ?_
  have hcalm : BleAdapter.Sound { s with connecting := false, advertisingAutoRestart := false } t :=
    (h.activity s.scanActive s.advertisingActive false).calm
  refine cancelFirst_leads rfl hphase trivial fun _ => ?_
  refine Leads.ite (fun _ => Leads.pure (.inr hcalm)) fun _ => ?_
  refine Leads.call (fun _ => ⟨hphase, trivial⟩) fun result =>
    Leads.ite (fun hne => Leads.pure ?_) fun hok => ?_
  · rw [decide_eq_false hne]
    exact .inr hcalm
  rw [decide_eq_true (not_not.mp hok)]
  refine Leads.call (fun _ => .inr rfl) fun result =>
    Leads.ite (fun hne => Leads.pure (.inl ?_)) fun hok => Leads.change (Leads.pure (.inr ?_))
  · rw [decide_eq_false hne]
    rfl
  rw [decide_eq_true (not_not.mp hok)]
  exact ⟨h.wellFormed, h.secure, (fun hfalse => by cases hfalse), (fun hfalse => by cases hfalse),
    fun _ => rfl, (fun hfalse => by cases hfalse), (fun hfalse => by cases hfalse),
    (fun hfalse => by cases hfalse), h.unset⟩

end BleAdapter

/-! ### Runs -/

/-- Nobody asks for the state of a connection's security while the adapter is down. -/
def BleSystem.asks (s : BleSystem ω) : BleAction → Bool
  | .securityState _ _ => s.adapter.initialized
  | _ => true

/-- One call, as a program without a result. -/
theorem ignore_leads {prog : BleProgram ω α}
    (h : Leads nimbleProtocol s t prog fun _ s' t' => s'.Settled t') :
    Leads nimbleProtocol s t prog.ignore fun _ s' t' => s'.Settled t' :=
  Leads.map h

theorem sound_leads {prog : BleProgram ω α}
    (h : Leads nimbleProtocol s t prog fun _ s' t' => s'.Sound t') :
    Leads nimbleProtocol s t prog.ignore fun _ s' t' => s'.Settled t' :=
  ignore_leads (h.conseq fun _ _ _ hsound => .inr hsound)

variable {d : NimbleHost ω} {erases : EspErr → Bool} {a : BleAction}

open BleAdapter in
/-- What is done in a step keeps the protocol and the invariant. -/
theorem BleAction.run_leads (h : s.Sound t)
    (hasks : ∀ connectionHandle pointers, a = .securityState connectionHandle pointers →
      s.initialized = true)
    (hback : a.callBack = true → t.phase = .running) :
    Leads nimbleProtocol s t (a.run d erases) fun _ s' t' => s'.Settled t' := by
  -- the calls of the application first, then the call-backs, which come only while NimBLE runs
  cases a with
  | bleInit name nameLength => exact ignore_leads (initialize_leads h erases name nameLength)
  | bleDeinit => exact ignore_leads (deinitialize_leads h)
  | configureSecurity io bonding authentication connections only =>
    exact sound_leads (configureSecurity_leads h io bonding authentication connections only)
  | gattReset => exact sound_leads (gattReset_leads h)
  | gattAddService fromStr a => exact sound_leads (gattAddService_leads h fromStr a)
  | gattAddCharacteristic fromStr a => exact sound_leads (gattAddCharacteristic_leads h fromStr a)
  | startScan duration active filter => exact sound_leads (startScan_leads h duration active filter)
  | stopScan => exact sound_leads (stopScan_leads h)
  | startAdvertising service duration connectable autoRestart =>
    exact sound_leads (startAdvertising_leads h service duration connectable autoRestart)
  | stopAdvertising => exact sound_leads (stopAdvertising_leads h)
  | connect addressType address timeout =>
    exact sound_leads (connect_leads h addressType address timeout)
  | cancelConnect => exact sound_leads (cancelConnect_leads h)
  | disconnect handle => exact sound_leads (disconnect_leads h)
  | exchangeMtu handle => exact sound_leads (exchangeMtu_leads h)
  | connectionMtu handle => exact sound_leads (connectionMtu_leads h)
  | connectionInfo handle pointers => exact sound_leads (connectionInfo_leads h pointers)
  | connectionRssi handle pointers => exact sound_leads (connectionRssi_leads h pointers)
  | connectionPhy handle pointers => exact sound_leads (connectionPhy_leads h pointers)
  | updateConnectionParameters handle request =>
    exact sound_leads (updateConnectionParameters_leads h request)
  | setPreferredPhy handle tx rx coded => exact sound_leads (setPreferredPhy_leads h tx rx coded)
  | secureConnection handle => exact sound_leads (secureConnection_leads h)
  | securityState handle pointers =>
    exact sound_leads (securityState_leads h (hasks handle pointers rfl) pointers)
  | providePasskey handle input passkey =>
    exact sound_leads (providePasskey_leads h input passkey)
  | confirmPasskey handle accept => exact sound_leads (confirmPasskey_leads h accept)
  | bondCount => exact sound_leads (bondCount_leads h)
  | bond index pointers => exact sound_leads (bond_leads h index pointers)
  | forgetBond addressType address => exact sound_leads (forgetBond_leads h addressType address)
  | forgetAllBonds => exact sound_leads (forgetAllBonds_leads h)
  | discoverServices handle => exact sound_leads (discover_leads h (.discoverServices handle))
  | discoverCharacteristics handle first last =>
    exact sound_leads (discover_leads h (.discoverCharacteristics handle first last))
  | discoverDescriptors handle first last =>
    exact sound_leads (discover_leads h (.discoverDescriptors handle first last))
  | clientRead free handle attrHandle offset =>
    exact sound_leads (clientRead_leads h free attrHandle offset)
  | clientWrite handle attrHandle value length response =>
    exact sound_leads (clientWrite_leads h attrHandle value length response)
  | gattSetValue a => exact sound_leads (gattSetValue_leads h a)
  | gattNotify a => exact sound_leads (gattNotify_leads h a)
  | gapEvent event => exact sound_leads (gapEvent_leads h (hback rfl) event)
  | gattAccess service j request =>
    exact (gattAccess_leads h service j request).conseq fun _ _ _ hsound => .inr hsound
  | gattStarted valueHandles =>
    exact (gattStarted_leads h valueHandles).conseq fun _ _ _ hsound => .inr hsound
  | reset => exact (onReset_leads h).conseq fun _ _ _ hsound => .inr hsound
  | sync => exact (onSync_leads h (hback rfl)).conseq fun _ _ _ hsound => .inr hsound

/-- **Over all runs**: NimBLE is called by its protocol, and, unless it has been lost, it runs
exactly while the adapter is initialized, with the adapter's tables and security. -/
theorem ble_lifecycle {s : BleSystem ω}
    (h : (bleMachine d erases).ReachableIn (fun s a => s.asks a = true) s) :
    nimbleProtocol.Keeps nimbleOff s.log ∧
      (s.nimble.phase = .lost ∨ s.adapter.Sound s.nimble) := by
  induction h with
  | init hinit =>
    obtain ⟨hadapter, hlog⟩ := hinit
    rw [BleSystem.nimble, hadapter, hlog]
    refine ⟨trivial, .inr ⟨GattTable.wellFormed_zero, ?_, ?_, ?_, fun _ => rfl, ?_, ?_, ?_,
      fun _ => rfl⟩⟩
    all_goals
      intros
      contradiction
  | @step s a s' _ hasks hstep hs =>
    obtain ⟨henabled, hafter⟩ := Option.ite_none_right_eq_some.mp hstep
    obtain rfl := Option.some.inj hafter
    simp only [BleSystem.enabled, Bool.and_eq_true, Bool.or_eq_true, Bool.not_eq_true',
      decide_eq_true_iff] at henabled
    have hsound := hs.2.resolve_left henabled.1
    refine BleAction.run_leads hsound ?_ ?_ s.log s.world nimbleOff hs.1 rfl
    · rintro connectionHandle pointers rfl
      exact hasks
    · intro hback
      refine henabled.2.resolve_left ?_
      rw [hback]
      exact Bool.noConfusion

/-- A host that does everything it is told. -/
def nimbleWorks : NimbleHost Unit where
  esp _ w := (espOk, w)
  hs _ w := (.ok, w)
  found _ w := ((.ok, ⟨0, ⟨0, default⟩, ⟨0, default⟩, 0, 0, 0, true, true, true, 16⟩), w)
  rssi _ w := ((.ok, -40), w)
  phy _ w := ((.ok, 1, 1), w)
  mtu _ w := (23, w)
  mbuf _ w := (true, w)
  peers w := ((.ok, []), w)

/-- A service of 16 bits, with a characteristic to be notified of, is advertised; a client connects,
is asked about, discovered, read, written to and notified, and goes; and the service is advertised
again. -/
theorem ble_lifecycle_restarts : ∃ s : BleSystem Unit, s.nimble.phase = .running ∧
    s.adapter.advertisingActive = true ∧ s.log.length = 26 ∧
    nimbleProtocol.Keeps nimbleOff s.log ∧
      (s.nimble.phase = .lost ∨ s.adapter.Sound s.nimble) := by
  let fromStr : BleUuidFromStr := fun _ uuid => (.ok, { uuid with type := 16 })
  obtain ⟨s, hs, hfound⟩ := Machine.exists_reachable_of_run
    (M := (bleMachine nimbleWorks fun _ => false).within BleSystem.asks)
    [.configureSecurity 3 true true true false, .gattAddService fromStr ⟨some [49], 1, true⟩,
      .gattAddCharacteristic fromStr ⟨1, some [50], 1, 5, none, 0, 2, true⟩,
      .bleInit (some [69, 83, 80]) 3, .gattStarted fun _ => 12, .sync,
      .startAdvertising 1 0 true true, .gapEvent (.connect false 7), .securityState 7 true,
      .discoverServices 7, .clientRead true 7 3 0, .clientWrite 7 3 (some [1, 2]) 2 1,
      .gattSetValue ⟨1, some fun _ => 9, 1, 1⟩, .gattNotify ⟨1, 7, 0⟩,
      .gapEvent (.disconnect true)]
    (fun s => decide (s.nimble.phase = .running) && s.adapter.advertisingActive &&
      s.log.length == 26)
    (s := ⟨{}, [], ()⟩) ⟨rfl, rfl⟩ (by decide)
  rw [Bool.and_eq_true, Bool.and_eq_true, decide_eq_true_iff, beq_iff_eq] at hfound
  exact ⟨s, hfound.1.1, hfound.1.2, hfound.2, ble_lifecycle (Machine.reachableIn_of_within hs)⟩

/-- **The condition is needed**: `bmx_embedded_ble_security_state` asks NimBLE also when it does
not run. -/
theorem security_state_unguarded {s s' : BleSystem ω} {connectionHandle : Int32}
    (hhandle : ¬ (connectionHandle < 0 ∨ 0xffff < connectionHandle))
    (hphase : s.nimble.phase ≠ .running)
    (hstep : (bleMachine d erases).step s (.securityState connectionHandle true) = some s') :
    ¬ nimbleProtocol.Keeps nimbleOff s'.log := by
  obtain ⟨-, hafter⟩ := Option.ite_none_right_eq_some.mp hstep
  obtain rfl := Option.some.inj hafter
  let handle := connectionHandle.toUInt32.toUInt16
  have hlog : (s.after ((BleAction.securityState connectionHandle true).run d erases)).log =
      s.log ++ [⟨.connFind handle, (d.found handle s.world).1.1 = .ok⟩] := by
    show (BleAdapter.bmxEmbeddedBleSecurityState d connectionHandle true
      (s.adapter, s.log, s.world)).2.2.1 = _
    rw [BleAdapter.bmxEmbeddedBleSecurityState,
      if_neg (not_or.mpr ⟨Bool.noConfusion, hhandle⟩)]
    show (ite _ _ _ : BleProgram ω (BleHs × Option BleAdapter.BleSecurityState)) _ |>.2.2.1 = _
    split <;> rfl
  intro hkeeps
  rw [hlog] at hkeeps
  exact hphase (allowed_of_keeps hkeeps).1

end Esp32Mod
