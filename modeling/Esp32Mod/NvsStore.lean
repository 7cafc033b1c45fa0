/-
Esp32Mod/NvsStore.lean

What the methods of a namespace store and find (`runtime.mod/native/esp32_nvs.c`).

`NvsLaws` is what ESP-IDF documents of its store: a value that has been set is there, other keys
are untouched, and what is read is what is there.  `nvs_roundTrip` says that the adapter adds
nothing to that and takes nothing away: what one method has stored under a key is what any other
finds, whatever has been done in between to other keys, whatever fails; and it is found if nothing
fails any more.  A key and a string are their bytes before the first zero; an array and memory of the
program store the same.
-/
import Esp32Mod.Nvs

namespace Esp32Mod

open Ownership

variable {σ ω α : Type}

/-- The bytes that `nvs_get_str` and `nvs_get_blob` write. -/
def NvsValue.stored : NvsValue → List UInt8
  | .str text => text ++ [0]
  | .blob bytes => bytes
  | _ => []

/-- The store that ESP-IDF documents, behind one handle of the driver. -/
structure NvsLaws (d : NvsDriver σ ω) (x : Handle NvsKind)
    (contents : ω → List UInt8 → Option NvsValue) : Prop where
  memory : ∀ w, contents (d.memory w).2 = contents w
  commit : ∀ w, contents (d.commit x w).2 = contents w
  findKey : ∀ key w, contents (d.findKey x key w).2 = contents w
  eraseKey_other : ∀ key w key', key' ≠ key →
    contents (d.eraseKey x key w).2 key' = contents w key'
  set_ok : ∀ key value w, (d.set x key value w).1 = espOk →
    contents (d.set x key value w).2 key = some value
  set_other : ∀ key value w key', key' ≠ key →
    contents (d.set x key value w).2 key' = contents w key'
  getNumber : ∀ key type w, contents (d.getNumber x key type w).2 = contents w
  getNumber_ok : ∀ key type w, (d.getNumber x key type w).1.1 = espOk →
    contents w key = some (d.getNumber x key type w).1.2
  length : ∀ key type w, contents (d.length x key type w).2 = contents w
  length_ok : ∀ key type w, (d.length x key type w).1.1 = espOk →
    ∃ value, contents w key = some value ∧ value.type = type ∧
      value.stored.length = (d.length x key type w).1.2.toNat
  bytes : ∀ key type room w, contents (d.bytes x key type room w).2 = contents w
  bytes_ok : ∀ key type room w, (d.bytes x key type room w).1.1 = espOk →
    ∃ value, contents w key = some value ∧ value.type = type ∧
      value.stored = (d.bytes x key type room w).1.2.1 ∧
      value.stored.length = (d.bytes x key type room w).1.2.2.toNat

/-- As long as the world is calm there is memory, and the driver has what is there. -/
structure NvsCalm (d : NvsDriver σ ω) (x : Handle NvsKind)
    (contents : ω → List UInt8 → Option NvsValue) (calm : ω → Prop) : Prop where
  memory : ∀ w, calm w → (d.memory w).1 = true ∧ calm (d.memory w).2
  getNumber : ∀ key value w, calm w → contents w key = some value →
    value.type ≠ .str → value.type ≠ .blob → (d.getNumber x key value.type w).1.1 = espOk
  length : ∀ key value w, calm w → contents w key = some value →
    value.type = .str ∨ value.type = .blob →
    (d.length x key value.type w).1.1 = espOk ∧ calm (d.length x key value.type w).2
  bytes : ∀ key value room w, calm w → contents w key = some value →
    value.type = .str ∨ value.type = .blob → value.stored.length ≤ room.toNat →
    (d.bytes x key value.type room w).1.1 = espOk

/-! ### Methods with a key -/

variable {d : NvsDriver σ ω} {x : Handle NvsKind}
  {contents : ω → List UInt8 → Option NvsValue} {key : σ} {h : NvsHandle}
  {handle : Option NvsHandle} {nativeKey : Handle NvsKind} {pre : ω → Prop}

/-- The namespace is closed, or this is its handle. -/
def NvsIs (x : Handle NvsKind) (handle : Option NvsHandle) : Prop :=
  ∀ h, handle = some h → h.value = x

theorem nvsCall_ensures {question : ω → α × ω} {mid : α → ω → Prop}
    (hmid : ∀ w, pre w → mid (question w).1 (question w).2) :
    Ensures pre (nvsCall h nativeKey question) mid := fun s hs => hmid s.2 hs

theorem setError_ensures {error : EspErr} :
    Ensures pre (bmxEsp32NvsSetError h error : NvsProgram ω NvsHandle)
      fun h' w => pre w ∧ h' = { h with lastError := error } := fun _ hs => ⟨hs, rfl⟩

theorem utf8_ensures {value : σ} (hmemory : ∀ w, pre w → pre (d.memory w).2) :
    Ensures pre (bmxEsp32NvsUtf8 d value) fun text w =>
      pre w ∧ ∀ y, text = some y → y.kind.bytes = cString (d.utf8 value) := by
  refine Ensures.ask_keeps hmemory fun memory => ?_
  cases memory with
  | false =>
    refine Ensures.pure fun w hw => ⟨hw, fun y hy => ?_⟩
    cases hy
  | true =>
    refine Ensures.acquire fun y hkind => Ensures.pure fun w hw => ⟨hw, ?_⟩
    rintro _ ⟨rfl⟩
    rw [hkind]
    rfl

/-- The key is there, or an error is noted. -/
theorem key_ensures (hmemory : ∀ w, pre w → pre (d.memory w).2) (hx : NvsIs x handle) :
    Ensures pre (bmxEsp32NvsKey d key handle) fun r w => pre w ∧ NvsIs x r.2 ∧
      (r.2 = none ∨ ∃ h, r.2 = some h ∧ (r.1 = none → h.lastError = espErrNoMem)) ∧
      ∀ nativeKey, r.1 = some nativeKey → r.2.isSome ∧
        nativeKey.kind.bytes = cString (d.utf8 key) := by
  cases handle with
  | none => exact Ensures.pure fun w hw => ⟨hw, hx, .inl rfl, fun _ hnone => by cases hnone⟩
  | some h =>
    refine Ensures.bind _ (utf8_ensures hmemory) fun found => ?_
    cases found with
    | none =>
      refine Ensures.bind _ setError_ensures fun h' => Ensures.pure ?_
      rintro w ⟨⟨hw, -⟩, rfl⟩
      refine ⟨hw, ?_, .inr ⟨_, rfl, fun _ => rfl⟩, fun _ hnone => by cases hnone⟩
      rintro _ ⟨rfl⟩
      exact hx h rfl
    | some nativeKey =>
      refine Ensures.pure ?_
      rintro w ⟨hw, hbytes⟩
      refine ⟨hw, hx, .inr ⟨h, rfl, fun hnone => by cases hnone⟩, ?_⟩
      rintro _ ⟨rfl⟩
      exact ⟨rfl, hbytes nativeKey rfl⟩

/-- A method with a key: it fails before the driver is called, or `call` decides. -/
theorem nvsKeyed_ensures {absent : α}
    {call : NvsHandle → Handle NvsKind → NvsProgram ω (EspErr × α)} (post : EspErr × α → ω → Prop)
    (hmemory : ∀ w, pre w → pre (d.memory w).2) (hx : NvsIs x handle)
    (habsent : ∀ error w, error ≠ espOk → pre w → post (error, absent) w)
    (hcall : ∀ h nativeKey, h.value = x → nativeKey.kind.bytes = cString (d.utf8 key) →
      Ensures pre (call h nativeKey) post) :
    Ensures pre (nvsKeyed d key absent call handle) fun r w =>
      post r.1 w ∧ NvsIs x r.2 ∧ r.1.1 = bmxEsp32NvsLastError r.2 := by
  refine Ensures.bind _ (key_ensures hmemory hx) ?_
  rintro ⟨found, handle'⟩
  cases handle' with
  | none =>
    -- no namespace: a key that was allocated is only released
    have hnone : Ensures (fun w => pre w) (pure ((espErrNvsInvalidHandle, absent), none) :
        NvsProgram ω ((EspErr × α) × Option NvsHandle))
        fun r w => post r.1 w ∧ NvsIs x r.2 ∧ r.1.1 = bmxEsp32NvsLastError r.2 := by
      refine Ensures.pure fun w hw => ⟨habsent _ _ (by decide) hw, ?_, rfl⟩
      rintro _ ⟨⟩
    cases found with
    | none => exact hnone.conseq (fun w hw => hw.1) fun _ _ h => h
    | some nativeKey => exact hnone.conseq (fun w hw => hw.1) fun _ _ h => h
  | some h =>
    cases found with
    | none =>
      refine Ensures.use (Ensures.pure ?_)
      rintro w ⟨hw, hx', hnoted, -⟩
      -- no key: the error that has been noted for it is returned
      refine ⟨habsent _ _ ?_ hw, hx', rfl⟩
      obtain hnone | ⟨_, ⟨rfl⟩, hnoted⟩ := hnoted
      · cases hnone
      · rw [hnoted rfl]
        decide
    | some nativeKey =>
      intro s hs
      obtain ⟨hw, hx', -, hbytes⟩ := hs
      have hpost := hcall h nativeKey (hx' h rfl) (hbytes nativeKey rfl).2 s hw
      refine ⟨hpost, ?_, rfl⟩
      rintro _ ⟨rfl⟩
      exact hx' h rfl

/-! ### Reading -/

variable {k : List UInt8} {v : NvsValue}

theorem cString_concat (text : List UInt8) : cString (text ++ [0]) = cString text := by
  induction text with
  | nil => rfl
  | cons b text ih =>
    unfold cString at ih ⊢
    rw [List.cons_append, List.takeWhile_cons, List.takeWhile_cons, ih]

/-- A number that is read is the one that is there. -/
theorem get_ensures {type : NvsType} {place : Bool} (laws : NvsLaws d x contents)
    (hx : NvsIs x handle) (hk : cString (d.utf8 key) = k) :
    Ensures (fun w => contents w k = some v) (bmxNvsGet d key type place handle)
      fun r _ => r.1.1 = espOk → r.1.2 = some v := by
  refine Ensures.imp (nvsKeyed_ensures (fun r _ => r.1 = espOk → r.2 = some v)
    (fun w hw => laws.memory w ▸ hw) hx
    (fun error w herror _ hok => absurd hok herror) ?_) fun r w hr => hr.1
  · intro h nativeKey hvalue hbytes
    rw [hk] at hbytes
    split
    · refine Ensures.bind (fun r _ => r.1 = espOk → r.2 = v) ?_ fun r => ?_
      · refine nvsCall_ensures fun w hw hok => ?_
        rw [hvalue, hbytes] at hok ⊢
        have hsome := laws.getNumber_ok k type w hok
        rw [hw] at hsome
        exact (Option.some.inj hsome).symm
      · exact Ensures.pure fun w hr hok => congrArg some (hr hok)
    · exact Ensures.pure fun w _ hok => absurd hok (by decide)

/-- A string that is read is the one that is there. -/
theorem readString_ensures (laws : NvsLaws d x contents) (hvalue : h.value = x)
    (hbytes : nativeKey.kind.bytes = k) :
    Ensures (fun w => contents w k = some v) (nvsReadString d h nativeKey) fun r _ =>
      r.1 = espOk → ∃ text y, v = .str text ∧ r.2 = some (y, text ++ [0]) := by
  refine Ensures.bind (fun _ w => contents w k = some v)
    (nvsCall_ensures fun w hw => by rw [hvalue, laws.length]; exact hw) ?_
  rintro ⟨error, size⟩
  dsimp only
  split
  · refine Ensures.ask_keeps (fun w hw => laws.memory w ▸ hw) fun memory => ?_
    split
    · refine Ensures.acquire fun y _ => Ensures.use ?_
      refine Ensures.bind (fun r _ => r.1 = espOk → ∃ text, v = .str text ∧
        r.2.1 = text ++ [0]) (nvsCall_ensures fun w hw hok => ?_) ?_
      · rw [hvalue, hbytes] at hok ⊢
        obtain ⟨value, hsome, htype, hstored, -⟩ := laws.bytes_ok k .str size w hok
        obtain rfl := Option.some.inj (hw.symm.trans hsome)
        cases v with
        | str text => exact ⟨text, rfl, hstored.symm⟩
        | _ => cases htype
      · rintro ⟨error, bytes, size⟩
        refine Ensures.pure fun w hr hok => ?_
        obtain ⟨text, rfl, hbytes⟩ := hr hok
        exact ⟨text, y, rfl, by rw [← hbytes]⟩
    · exact Ensures.pure fun w _ hok => absurd hok (by decide)
  next herror => exact Ensures.pure fun w _ hok => absurd hok herror

theorem getString_ensures (laws : NvsLaws d x contents) (hx : NvsIs x handle)
    (hk : cString (d.utf8 key) = k) :
    Ensures (fun w => contents w k = some v) (bmxEsp32NvsGetString d key handle) fun r _ =>
      bmxEsp32NvsLastError r.2 = espOk →
        ∃ text, v = .str text ∧ r.1 = d.ofUtf8 (cString text) := by
  refine Ensures.bind _ (nvsKeyed_ensures _ (fun w hw => laws.memory w ▸ hw) hx
    (fun error w herror _ hok => absurd hok herror) fun h nativeKey hvalue hbytes =>
      readString_ensures laws hvalue (hbytes.trans hk)) ?_
  rintro ⟨⟨error, value⟩, handle'⟩
  rcases value with - | ⟨value, bytes⟩
  · refine Ensures.pure ?_
    rintro w ⟨hr, -, hnoted⟩ hok
    obtain ⟨_, _, -, hnone⟩ := hr (hnoted.trans hok)
    cases hnone
  · dsimp only
    split
    · refine Ensures.use (Ensures.release (Ensures.pure ?_))
      rintro w ⟨hr, -, hnoted⟩ hok
      obtain ⟨text, _, rfl, hsome⟩ := hr (hnoted.trans hok)
      obtain ⟨rfl, rfl⟩ := Prod.mk.inj (Option.some.inj hsome)
      exact ⟨text, rfl, by rw [cString_concat]⟩
    next herror =>
      refine Ensures.release (Ensures.pure ?_)
      rintro w ⟨hr, -, hnoted⟩ hok
      exact absurd (hnoted.trans hok) herror

/-- An array that is read is the bytes that are there. -/
theorem readBlob_ensures (laws : NvsLaws d x contents) (hvalue : h.value = x)
    (hbytes : nativeKey.kind.bytes = k) :
    Ensures (fun w => contents w k = some v) (nvsReadBlob d h nativeKey) fun r _ =>
      r.1 = espOk → v = .blob r.2 := by
  refine Ensures.bind (fun r w => contents w k = some v ∧ (r.1 = espOk →
    v.type = .blob ∧ v.stored.length = r.2.toNat)) (nvsCall_ensures fun w hw => ⟨?_, ?_⟩) ?_
  · rw [hvalue, laws.length]
    exact hw
  · intro hok
    rw [hvalue, hbytes] at hok ⊢
    -- the first call tells the length of what is there
    obtain ⟨value, hsome, htype, hlength⟩ := laws.length_ok k .blob w hok
    obtain rfl := Option.some.inj (hw.symm.trans hsome)
    exact ⟨htype, hlength⟩
  rintro ⟨error, size⟩
  dsimp only
  split
  next hok =>
    split
    · exact Ensures.pure fun w _ hok => absurd hok (by decide)
    split
    next hzero =>
      refine Ensures.pure ?_
      rintro w ⟨-, hlength⟩ -
      obtain ⟨htype, hlength⟩ := hlength hok
      rw [hzero] at hlength
      cases v with
      | blob bytes => exact congrArg NvsValue.blob (List.eq_nil_of_length_eq_zero hlength)
      | _ => cases htype
    refine Ensures.ask_keeps (fun w hw => ⟨laws.memory w ▸ hw.1, hw.2⟩) fun memory => ?_
    split
    · refine Ensures.use ?_
      refine Ensures.bind (fun r _ => r.1 = espOk → v = .blob (nvsFilled size r.2.1))
        (nvsCall_ensures fun w hw hread => ?_) ?_
      · rw [hvalue, hbytes] at hread ⊢
        obtain ⟨htype, hlength⟩ := hw.2 hok
        -- the second one fills an array of that length
        obtain ⟨value, hsome, -, hstored, -⟩ := laws.bytes_ok k .blob size w hread
        obtain rfl := Option.some.inj (hw.1.symm.trans hsome)
        cases v with
        | blob bytes =>
          have hstored' : bytes = _ := hstored
          have hlength' : bytes.length = size.toNat := hlength
          rw [← hstored', nvsFilled, ← hlength', List.take_length, Nat.sub_self]
          simp
        | _ => cases htype
      · rintro ⟨error, bytes, size⟩
        exact Ensures.pure fun w hr => hr
    · exact Ensures.pure fun w _ hok => absurd hok (by decide)
  next herror => exact Ensures.pure fun w _ hok => absurd hok herror

theorem getBlob_ensures (laws : NvsLaws d x contents) (hx : NvsIs x handle)
    (hk : cString (d.utf8 key) = k) :
    Ensures (fun w => contents w k = some v) (bmxEsp32NvsGetBlob d key handle) fun r _ =>
      bmxEsp32NvsLastError r.2 = espOk → v = .blob r.1 := by
  refine Ensures.bind _ (nvsKeyed_ensures _ (fun w hw => laws.memory w ▸ hw) hx
    (fun error w herror _ hok => absurd hok herror) fun h nativeKey hvalue hbytes =>
      readBlob_ensures laws hvalue (hbytes.trans hk)) ?_
  rintro ⟨⟨error, bytes⟩, handle'⟩
  refine Ensures.pure ?_
  rintro w ⟨hr, -, hnoted⟩ hok
  dsimp only
  rw [if_pos (hnoted.trans hok)]
  exact hr (hnoted.trans hok)

/-- Memory of the program gets the bytes that are there, and their number. -/
theorem readMemory_ensures {data : Bool} {capacity : UInt32} (laws : NvsLaws d x contents)
    (hvalue : h.value = x) (hbytes : nativeKey.kind.bytes = k) :
    Ensures (fun w => contents w k = some v) (nvsReadMemory d data capacity h nativeKey)
      fun r _ => r.1 = espOk → ∃ read, r.2 = some read ∧ v = .blob read.bytes ∧
        read.bytes.length = read.actualSize.toNat := by
  refine Ensures.bind (fun r w => contents w k = some v ∧ (r.1 = espOk →
    v.type = .blob ∧ v.stored.length = r.2.toNat)) (nvsCall_ensures fun w hw => ⟨?_, ?_⟩) ?_
  · rw [hvalue, laws.length]
    exact hw
  · intro hok
    rw [hvalue, hbytes] at hok ⊢
    -- the first call tells the length of what is there
    obtain ⟨value, hsome, htype, hlength⟩ := laws.length_ok k .blob w hok
    obtain rfl := Option.some.inj (hw.symm.trans hsome)
    exact ⟨htype, hlength⟩
  rintro ⟨error, required⟩
  dsimp only
  split
  next hok =>
    split
    · exact Ensures.pure fun w _ hok =>
        absurd hok (by decide : espErrNvsInvalidLength ≠ espOk)
    split
    next hzero =>
      refine Ensures.pure ?_
      rintro w ⟨-, hlength⟩ -
      obtain ⟨htype, hlength⟩ := hlength hok
      rw [hzero] at hlength
      cases v with
      | blob bytes =>
        obtain rfl : bytes = [] := List.eq_nil_of_length_eq_zero hlength
        exact ⟨_, rfl, rfl, by rw [hzero]; rfl⟩
      | _ => cases htype
    split
    · refine Ensures.use ?_
      refine Ensures.bind (fun r _ => r.1 = espOk → v = .blob r.2.1 ∧
        r.2.1.length = r.2.2.toNat) (nvsCall_ensures fun w hw hread => ?_) ?_
      · rw [hvalue, hbytes] at hread ⊢
        -- the second one fills the caller's memory, which has room for it
        obtain ⟨value, hsome, htype, hstored, hlength⟩ := laws.bytes_ok k .blob required w hread
        obtain rfl := Option.some.inj (hw.1.symm.trans hsome)
        rw [← hstored]
        cases v with
        | blob bytes => exact ⟨rfl, hlength⟩
        | _ => cases htype
      · rintro ⟨error, bytes, readSize⟩
        exact Ensures.pure fun w hr hok => ⟨_, rfl, hr hok⟩
    · exact Ensures.pure fun w _ hok => absurd hok (by decide : espErrInvalidArg ≠ espOk)
  next herror => exact Ensures.pure fun w _ hok => absurd hok herror

theorem getMemory_ensures {data actualSize : Bool} {capacity : UInt32}
    (laws : NvsLaws d x contents) (hx : NvsIs x handle) (hk : cString (d.utf8 key) = k) :
    Ensures (fun w => contents w k = some v)
      (bmxEsp32NvsGetMemory d key data capacity actualSize handle) fun r _ =>
        r.1.1 = espOk → ∃ read, r.1.2 = some read ∧ v = .blob read.bytes ∧
          read.bytes.length = read.actualSize.toNat := by
  refine Ensures.imp (nvsKeyed_ensures (fun r _ => r.1 = espOk → ∃ read, r.2 = some read ∧
    v = .blob read.bytes ∧ read.bytes.length = read.actualSize.toNat)
    (fun w hw => laws.memory w ▸ hw) hx (fun error w herror _ hok => absurd hok herror) ?_)
    fun r _ hr => hr.1
  intro h nativeKey hvalue hbytes
  split
  · exact readMemory_ensures laws hvalue (hbytes.trans hk)
  · exact Ensures.pure fun w _ hok => absurd hok (by decide)

/-! ### Reading in calm -/

section Calm

variable {calm : ω → Prop}

/-- In a calm world there is memory. -/
theorem memory_calm {P : Prop} {next : Bool → NvsProgram ω α} {post : α → ω → Prop}
    (laws : NvsLaws d x contents) (hcalm : NvsCalm d x contents calm)
    (hnext : Ensures (fun w => (calm w ∧ contents w k = some v) ∧ P) (next true) post) :
    Ensures (fun w => (calm w ∧ contents w k = some v) ∧ P) (ask d.memory >>= next) post := by
  rintro s ⟨⟨hw, hcontents⟩, hP⟩
  obtain ⟨hgranted, hw'⟩ := hcalm.memory s.2 hw
  have hdone := hnext (s.1, (d.memory s.2).2) ⟨⟨hw', laws.memory s.2 ▸ hcontents⟩, hP⟩
  rw [← hgranted] at hdone
  exact hdone

/-- The key is there. -/
theorem key_calm (laws : NvsLaws d x contents) (hcalm : NvsCalm d x contents calm)
    (hk : cString (d.utf8 key) = k) :
    Ensures (fun w => calm w ∧ contents w k = some v) (bmxEsp32NvsKey d key (some h))
      fun r w => (calm w ∧ contents w k = some v) ∧
        ∃ nativeKey, r = (some nativeKey, some h) ∧ nativeKey.kind.bytes = k := by
  refine Ensures.bind (fun found w => (calm w ∧ contents w k = some v) ∧
    ∃ y, found = some y ∧ y.kind.bytes = k) ?_ fun found => ?_
  · refine Ensures.conseq (memory_calm (P := True) laws hcalm ?_) (fun _ hw => ⟨hw, trivial⟩)
      fun _ _ h => h
    refine Ensures.acquire fun y hkind => Ensures.pure fun w hw => ⟨hw.1, y, rfl, ?_⟩
    rw [hkind]
    exact hk
  · rintro s ⟨hw, y, rfl, hbytes⟩
    exact ⟨hw, y, rfl, hbytes⟩

/-- A method with a key comes to `call`. -/
theorem nvsKeyed_calm {absent : α}
    {call : NvsHandle → Handle NvsKind → NvsProgram ω (EspErr × α)} (laws : NvsLaws d x contents)
    (hcalm : NvsCalm d x contents calm) (hk : cString (d.utf8 key) = k)
    (hcall : ∀ nativeKey, nativeKey.kind.bytes = k →
      Ensures (fun w => calm w ∧ contents w k = some v) (call h nativeKey) fun r _ =>
        r.1 = espOk) :
    Ensures (fun w => calm w ∧ contents w k = some v) (nvsKeyed d key absent call (some h))
      fun r _ => r.1.1 = espOk ∧ bmxEsp32NvsLastError r.2 = espOk := by
  refine Ensures.bind _ (key_calm laws hcalm hk) ?_
  rintro ⟨found, handle'⟩ s ⟨hw, nativeKey, heq, hbytes⟩
  obtain ⟨rfl, rfl⟩ := Prod.mk.inj heq
  have hok := hcall nativeKey hbytes s hw
  exact ⟨hok, hok⟩

theorem get_calm (laws : NvsLaws d x contents) (hcalm : NvsCalm d x contents calm)
    (hvalue : h.value = x) (hk : cString (d.utf8 key) = k) (hstr : v.type ≠ .str)
    (hblob : v.type ≠ .blob) :
    Ensures (fun w => calm w ∧ contents w k = some v) (bmxNvsGet d key v.type true (some h))
      fun r _ => r.1.1 = espOk := by
  refine Ensures.imp (nvsKeyed_calm laws hcalm hk fun nativeKey hbytes => ?_) fun r w hr => hr.1
  refine Ensures.bind (fun r _ => r.1 = espOk) (nvsCall_ensures fun w hw => ?_) fun r => ?_
  · rw [hvalue, hbytes]
    exact hcalm.getNumber k v w hw.1 hw.2 hstr hblob
  · exact Ensures.pure fun w hr => hr

/-- The length that is asked for first. -/
theorem length_calm (laws : NvsLaws d x contents) (hcalm : NvsCalm d x contents calm)
    (hvalue : h.value = x) (hbytes : nativeKey.kind.bytes = k) {type : NvsType}
    (htype : v.type = type) (hlong : type = .str ∨ type = .blob) :
    Ensures (fun w => calm w ∧ contents w k = some v)
      (nvsCall h nativeKey (d.length h.value nativeKey.kind.bytes type)) fun r w =>
        (calm w ∧ contents w k = some v) ∧ r.1 = espOk ∧ v.stored.length = r.2.toNat := by
  subst htype
  refine nvsCall_ensures fun w hw => ?_
  rw [hvalue, hbytes]
  obtain ⟨hok, hcalm'⟩ := hcalm.length k v w hw.1 hw.2 hlong
  obtain ⟨value, hsome, -, hlength⟩ := laws.length_ok k v.type w hok
  obtain rfl := Option.some.inj (hw.2.symm.trans hsome)
  exact ⟨⟨hcalm', laws.length k v.type w ▸ hw.2⟩, hok, hlength⟩

/-- The bytes, for which there is room. -/
theorem bytes_calm {room : UInt32} (hcalm : NvsCalm d x contents calm) (hvalue : h.value = x)
    (hbytes : nativeKey.kind.bytes = k) {type : NvsType} (htype : v.type = type)
    (hlong : type = .str ∨ type = .blob) {error : EspErr}
    {next : (EspErr × List UInt8 × UInt32) → EspErr × α} (hnext : ∀ r, (next r).1 = r.1) :
    Ensures (fun w => (calm w ∧ contents w k = some v) ∧ error = espOk ∧
        v.stored.length = room.toNat) (do
      let r ← nvsCall h nativeKey (d.bytes h.value nativeKey.kind.bytes type room)
      pure (next r) : NvsProgram ω (EspErr × α)) fun r _ => r.1 = espOk := by
  subst htype
  refine Ensures.bind (fun r _ => r.1 = espOk) (nvsCall_ensures fun w hw => ?_) fun r => ?_
  · rw [hvalue, hbytes]
    exact hcalm.bytes k v room w hw.1.1 hw.1.2 hlong hw.2.2.le
  · exact Ensures.pure fun w hr => (hnext r).trans hr

theorem readString_calm (laws : NvsLaws d x contents) (hcalm : NvsCalm d x contents calm)
    (hvalue : h.value = x) (hbytes : nativeKey.kind.bytes = k) (htype : v.type = .str) :
    Ensures (fun w => calm w ∧ contents w k = some v) (nvsReadString d h nativeKey)
      fun r _ => r.1 = espOk := by
  refine Ensures.bind _ (length_calm laws hcalm hvalue hbytes htype (.inl rfl)) ?_
  rintro ⟨error, size⟩
  dsimp only
  split
  · refine memory_calm laws hcalm (Ensures.acquire fun y _ => Ensures.use ?_)
    exact bytes_calm hcalm hvalue hbytes htype (.inl rfl) fun _ => rfl
  next herror => exact fun s hs => absurd hs.2.1 herror

theorem getString_calm (laws : NvsLaws d x contents) (hcalm : NvsCalm d x contents calm)
    (hvalue : h.value = x) (hk : cString (d.utf8 key) = k) (htype : v.type = .str) :
    Ensures (fun w => calm w ∧ contents w k = some v) (bmxEsp32NvsGetString d key (some h))
      fun r _ => bmxEsp32NvsLastError r.2 = espOk := by
  refine Ensures.bind _ (nvsKeyed_calm laws hcalm hk fun nativeKey hbytes =>
    readString_calm laws hcalm hvalue hbytes htype) ?_
  rintro ⟨⟨error, value⟩, handle'⟩
  rcases value with - | ⟨value, bytes⟩
  · exact Ensures.pure fun w hr => hr.2
  · dsimp only
    split
    · exact Ensures.use (Ensures.release (Ensures.pure fun w hr => hr.2))
    · exact Ensures.release (Ensures.pure fun w hr => hr.2)

theorem readBlob_calm (laws : NvsLaws d x contents) (hcalm : NvsCalm d x contents calm)
    (hvalue : h.value = x) (hbytes : nativeKey.kind.bytes = k) (htype : v.type = .blob)
    (hfits : v.stored.length ≤ 0x7FFFFFFF) :
    Ensures (fun w => calm w ∧ contents w k = some v) (nvsReadBlob d h nativeKey)
      fun r _ => r.1 = espOk := by
  refine Ensures.bind _ (length_calm laws hcalm hvalue hbytes htype (.inr rfl)) ?_
  rintro ⟨error, size⟩
  dsimp only
  split
  · split
    next hlong =>
      intro s hs
      have hlong' : 0x7FFFFFFF < size.toNat := UInt32.lt_iff_toNat_lt.mp hlong
      omega
    split
    · exact Ensures.pure fun w _ => rfl
    refine memory_calm laws hcalm (Ensures.use ?_)
    exact bytes_calm hcalm hvalue hbytes htype (.inr rfl) fun _ => rfl
  next herror => exact fun s hs => absurd hs.2.1 herror

theorem getBlob_calm (laws : NvsLaws d x contents) (hcalm : NvsCalm d x contents calm)
    (hvalue : h.value = x) (hk : cString (d.utf8 key) = k) (htype : v.type = .blob)
    (hfits : v.stored.length ≤ 0x7FFFFFFF) :
    Ensures (fun w => calm w ∧ contents w k = some v) (bmxEsp32NvsGetBlob d key (some h))
      fun r _ => bmxEsp32NvsLastError r.2 = espOk := by
  refine Ensures.bind _ (nvsKeyed_calm laws hcalm hk fun nativeKey hbytes =>
    readBlob_calm laws hcalm hvalue hbytes htype hfits) ?_
  rintro ⟨⟨error, bytes⟩, handle'⟩
  exact Ensures.pure fun w hr => hr.2

theorem getMemory_calm {data : Bool} {capacity : UInt32} (laws : NvsLaws d x contents)
    (hcalm : NvsCalm d x contents calm) (hvalue : h.value = x) (hk : cString (d.utf8 key) = k)
    (htype : v.type = .blob) (hfits : v.stored.length ≤ capacity.toNat)
    (hdata : data = true ∨ v.stored = []) :
    Ensures (fun w => calm w ∧ contents w k = some v)
      (bmxEsp32NvsGetMemory d key data capacity true (some h)) fun r _ => r.1.1 = espOk := by
  refine Ensures.imp (nvsKeyed_calm laws hcalm hk fun nativeKey hbytes => ?_) fun r w hr => hr.1
  refine Ensures.bind _ (length_calm laws hcalm hvalue hbytes htype (.inr rfl)) ?_
  rintro ⟨error, required⟩
  dsimp only
  split
  · split
    next hlong =>
      intro s hs
      have hlong' := UInt32.lt_iff_toNat_lt.mp hlong
      omega
    split
    · exact Ensures.pure fun w _ => rfl
    next hsome =>
      split
      · exact Ensures.use (bytes_calm hcalm hvalue hbytes htype (.inr rfl) fun _ => rfl)
      next hnone =>
        -- there is no memory for an empty value only
        intro s hs
        have hzero := hs.2.2
        rw [hdata.resolve_left hnone] at hzero
        exact absurd (UInt32.toNat_inj.mp hzero.symm) hsome
  next herror => exact fun s hs => absurd hs.2.1 herror

end Calm

/-! ### Writing -/

/-- The one step of a method with a key that may touch the store leaves other keys alone. -/
theorem keyed_leaves {o : Option NvsValue} {absent : α}
    {call : NvsHandle → Handle NvsKind → NvsProgram ω (EspErr × α)} (laws : NvsLaws d x contents)
    (hx : NvsIs x handle)
    (hcall : ∀ h nativeKey, h.value = x → nativeKey.kind.bytes = cString (d.utf8 key) →
      Ensures (fun w => contents w k = o) (call h nativeKey) fun _ w => contents w k = o) :
    Ensures (fun w => contents w k = o) (nvsKeyed d key absent call handle) fun r w =>
      contents w k = o ∧ NvsIs x r.2 :=
  Ensures.imp (nvsKeyed_ensures (fun _ w => contents w k = o) (fun w hw => laws.memory w ▸ hw) hx
    (fun _ _ _ hw => hw) hcall) fun _ _ hr => ⟨hr.1, hr.2.1⟩

/-! ### Methods -/

/-- The method neither sets nor erases the key. -/
def NvsMethod.Leaves (d : NvsDriver σ ω) (k : List UInt8) : NvsMethod σ → Prop
  | .eraseAll => False
  | .eraseKey key | .setInt key _ | .setUInt key _ | .setLong key _ | .setULong key _
  | .setFloat key _ | .setDouble key _ | .setString key _ | .setBytes key _
  | .setMemory key _ _ => cString (d.utf8 key) ≠ k
  | _ => True

/-- The key and the value that the method stores. -/
def NvsMethod.stores (d : NvsDriver σ ω) : NvsMethod σ → Option (List UInt8 × NvsValue)
  | .setInt key value => some (cString (d.utf8 key), .i32 value)
  | .setUInt key value => some (cString (d.utf8 key), .u32 value)
  | .setLong key value => some (cString (d.utf8 key), .i64 value)
  | .setULong key value => some (cString (d.utf8 key), .u64 value)
  | .setFloat key bits => some (cString (d.utf8 key), .float bits)
  | .setDouble key bits => some (cString (d.utf8 key), .double bits)
  | .setString key value => some (cString (d.utf8 key), .str (cString (d.utf8 value)))
  | .setBytes key (some (_, bytes)) => some (cString (d.utf8 key), .blob bytes)
  | .setMemory key data size =>
    some (cString (d.utf8 key), .blob ((data.getD []).take size.toNat))
  | _ => none

/-- The key that the method reads. -/
def NvsMethod.reads (d : NvsDriver σ ω) : NvsMethod σ → Option (List UInt8)
  | .getInt key _ | .getUInt key _ | .getLong key _ | .getULong key _ | .getFloat key _
  | .getDouble key _ | .tryGetString key | .tryGetBytes key | .getMemory key _ _ _ =>
    some (cString (d.utf8 key))
  | _ => none

/-- A result that is no failure shows the value. -/
def NvsResult.Shows (d : NvsDriver σ ω) (v : NvsValue) : NvsResult σ → Prop
  | .number error value => error = espOk → value = some v
  | .tryString success value =>
    success = true → ∃ text, v = .str text ∧ value = d.ofUtf8 (cString text)
  | .tryBytes success value => success = true → v = .blob value
  | .memory error read => error = espOk → ∃ bytes actualSize,
      read = some ⟨actualSize, bytes⟩ ∧ v = .blob bytes ∧ bytes.length = actualSize.toNat
  | _ => True

/-- The method reads what has the type of the value, and has room for it. -/
def NvsMethod.Takes (v : NvsValue) : NvsMethod σ → Prop
  | .getInt _ place => v.type = .i32 ∧ place = true
  | .getUInt _ place => v.type = .u32 ∧ place = true
  | .getLong _ place => v.type = .i64 ∧ place = true
  | .getULong _ place => v.type = .u64 ∧ place = true
  | .getFloat _ place => v.type = .float ∧ place = true
  | .getDouble _ place => v.type = .double ∧ place = true
  | .tryGetString _ => v.type = .str
  | .tryGetBytes _ => v.type = .blob ∧ v.stored.length ≤ 0x7FFFFFFF
  | .getMemory _ data capacity actualSize => v.type = .blob ∧ v.stored.length ≤ capacity.toNat ∧
      (data = true ∨ v.stored = []) ∧ actualSize = true
  | _ => False

/-- A getter that tells of a success. -/
def NvsResult.Succeeds : NvsResult σ → Prop
  | .number error _ | .memory error _ => error = espOk
  | .tryString success _ | .tryBytes success _ => success = true
  | _ => False

theorem unkeyed_leaves {o : Option NvsValue} {question : Handle NvsKind → ω → EspErr × ω}
    (hx : NvsIs x handle) (hquestion : ∀ w, contents (question x w).2 = contents w) :
    Ensures (fun w => contents w k = o) (nvsUnkeyed question handle) fun r w =>
      contents w k = o ∧ NvsIs x r.2 := by
  cases handle with
  | none => exact Ensures.pure fun w hw => ⟨hw, hx⟩
  | some h =>
    refine Ensures.use (Ensures.use (Ensures.ask_keeps (fun w hw => ?_) fun error => ?_))
    · rw [hx h rfl, hquestion]
      exact hw
    · refine Ensures.bind _ setError_ensures fun h' => Ensures.pure ?_
      rintro w ⟨hw, rfl⟩
      refine ⟨hw, ?_⟩
      rintro _ ⟨rfl⟩
      exact hx h rfl

/-- A call of the driver that leaves the store alone, whatever is made of its answer. -/
theorem nvsCall_leaves {β : Type} {o : Option NvsValue} {question : ω → β × ω}
    {next : β → NvsProgram ω α}
    (hquestion : ∀ w, contents w k = o → contents (question w).2 k = o)
    (hnext : ∀ b, Ensures (fun w => contents w k = o) (next b) fun _ w => contents w k = o) :
    Ensures (fun w => contents w k = o) (nvsCall h nativeKey question >>= next)
      fun _ w => contents w k = o :=
  Ensures.bind (fun _ w => contents w k = o) (nvsCall_ensures hquestion) hnext

/-- A value that is set under another key. -/
theorem set_leaves {o : Option NvsValue} {value : NvsValue} (laws : NvsLaws d x contents)
    (hvalue : h.value = x) (hkey : nativeKey.kind.bytes ≠ k) :
    Ensures (fun w => contents w k = o) (do
      let error ← nvsCall h nativeKey (d.set h.value nativeKey.kind.bytes value)
      pure (error, ()) : NvsProgram ω (EspErr × Unit)) fun _ w => contents w k = o := by
  refine nvsCall_leaves (fun w hw => ?_) fun error => Ensures.pure fun _ hw => hw
  rw [hvalue, laws.set_other _ _ _ _ (Ne.symm hkey)]
  exact hw

/-- Reading leaves the store alone. -/
theorem read_leaves {o : Option NvsValue} {type : NvsType} (laws : NvsLaws d x contents)
    (hvalue : h.value = x) {next : (EspErr × UInt32) → NvsProgram ω α}
    (hnext : ∀ b, Ensures (fun w => contents w k = o) (next b) fun _ w => contents w k = o) :
    Ensures (fun w => contents w k = o)
      (nvsCall h nativeKey (d.length h.value nativeKey.kind.bytes type) >>= next)
      fun _ w => contents w k = o := by
  refine nvsCall_leaves (fun w hw => ?_) hnext
  rw [hvalue, laws.length]
  exact hw

theorem readBytes_leaves {o : Option NvsValue} {type : NvsType} {room : UInt32}
    (laws : NvsLaws d x contents) (hvalue : h.value = x)
    {next : (EspErr × List UInt8 × UInt32) → NvsProgram ω α}
    (hnext : ∀ b, Ensures (fun w => contents w k = o) (next b) fun _ w => contents w k = o) :
    Ensures (fun w => contents w k = o)
      (nvsCall h nativeKey (d.bytes h.value nativeKey.kind.bytes type room) >>= next)
      fun _ w => contents w k = o := by
  refine nvsCall_leaves (fun w hw => ?_) hnext
  rw [hvalue, laws.bytes]
  exact hw

theorem readString_leaves {o : Option NvsValue} (laws : NvsLaws d x contents)
    (hvalue : h.value = x) :
    Ensures (fun w => contents w k = o) (nvsReadString d h nativeKey)
      fun _ w => contents w k = o := by
  refine read_leaves laws hvalue ?_
  rintro ⟨error, size⟩
  dsimp only
  split
  · refine Ensures.ask_keeps (fun w hw => laws.memory w ▸ hw) fun memory => ?_
    split
    · refine Ensures.acquire fun y _ => Ensures.use ?_
      exact readBytes_leaves laws hvalue fun _ => Ensures.pure fun _ hw => hw
    · exact Ensures.pure fun _ hw => hw
  · exact Ensures.pure fun _ hw => hw

theorem readBlob_leaves {o : Option NvsValue} (laws : NvsLaws d x contents)
    (hvalue : h.value = x) :
    Ensures (fun w => contents w k = o) (nvsReadBlob d h nativeKey)
      fun _ w => contents w k = o := by
  refine read_leaves laws hvalue ?_
  rintro ⟨error, size⟩
  dsimp only
  split
  · split
    · exact Ensures.pure fun _ hw => hw
    split
    · exact Ensures.pure fun _ hw => hw
    refine Ensures.ask_keeps (fun w hw => laws.memory w ▸ hw) fun memory => ?_
    split
    · exact Ensures.use (readBytes_leaves laws hvalue fun _ => Ensures.pure fun _ hw => hw)
    · exact Ensures.pure fun _ hw => hw
  · exact Ensures.pure fun _ hw => hw

theorem readMemory_leaves {o : Option NvsValue} {data : Bool} {capacity : UInt32}
    (laws : NvsLaws d x contents) (hvalue : h.value = x) :
    Ensures (fun w => contents w k = o) (nvsReadMemory d data capacity h nativeKey)
      fun _ w => contents w k = o := by
  refine read_leaves laws hvalue ?_
  rintro ⟨error, required⟩
  dsimp only
  split
  · split
    · exact Ensures.pure fun _ hw => hw
    split
    · exact Ensures.pure fun _ hw => hw
    split
    · exact Ensures.use (readBytes_leaves laws hvalue fun _ => Ensures.pure fun _ hw => hw)
    · exact Ensures.pure fun _ hw => hw
  · exact Ensures.pure fun _ hw => hw

theorem getString_leaves {o : Option NvsValue} (laws : NvsLaws d x contents)
    (hx : NvsIs x handle) :
    Ensures (fun w => contents w k = o) (bmxEsp32NvsGetString d key handle) fun r w =>
      contents w k = o ∧ NvsIs x r.2 := by
  refine Ensures.bind _ (keyed_leaves laws hx fun _ _ hvalue _ => readString_leaves laws hvalue) ?_
  rintro ⟨⟨error, value⟩, handle'⟩
  rcases value with - | ⟨value, bytes⟩
  · exact Ensures.pure fun _ hw => hw
  · dsimp only
    split
    · exact Ensures.use (Ensures.release (Ensures.pure fun _ hw => hw))
    · exact Ensures.release (Ensures.pure fun _ hw => hw)

theorem getBlob_leaves {o : Option NvsValue} (laws : NvsLaws d x contents) (hx : NvsIs x handle) :
    Ensures (fun w => contents w k = o) (bmxEsp32NvsGetBlob d key handle) fun r w =>
      contents w k = o ∧ NvsIs x r.2 := by
  refine Ensures.bind _ (keyed_leaves laws hx fun _ _ hvalue _ => readBlob_leaves laws hvalue) ?_
  rintro ⟨⟨error, bytes⟩, handle'⟩
  exact Ensures.pure fun _ hw => hw

/-- What `SetString` does to the store; `post` is what is wanted of it. -/
theorem setString_ensures {value : σ} (post : EspErr → ω → Prop)
    (hmemory : ∀ w, pre w → pre (d.memory w).2) (hx : NvsIs x handle)
    (hfail : ∀ error w, error ≠ espOk → pre w → post error w)
    (hset : ∀ w, pre w →
      post (d.set x (cString (d.utf8 key)) (.str (cString (d.utf8 value))) w).1
        (d.set x (cString (d.utf8 key)) (.str (cString (d.utf8 value))) w).2) :
    Ensures pre (bmxEsp32NvsSetString d key value handle) fun r w =>
      post r.1.1 w ∧ NvsIs x r.2 := by
  have hfailed : ∀ found foundValue handle', Ensures (fun w => pre w ∧ NvsIs x handle')
      (nvsSetStringFailed found foundValue handle' :
        NvsProgram ω ((EspErr × Unit) × Option NvsHandle))
      fun r w => post r.1.1 w ∧ NvsIs x r.2 := by
    intro found foundValue handle'
    cases handle' with
    | none =>
      have hlast : Ensures (fun w => pre w ∧ NvsIs x none)
          (pure ((espErrNvsInvalidHandle, ()), none) :
            NvsProgram ω ((EspErr × Unit) × Option NvsHandle))
          fun r w => post r.1.1 w ∧ NvsIs x r.2 :=
        Ensures.pure fun w hw => ⟨hfail _ _ (by decide) hw.1, hw.2⟩
      -- whichever strings there are, they are released first
      cases found <;> cases foundValue <;> exact fun s hs => hlast _ hs
    | some h =>
      have hlast : Ensures (fun w => pre w ∧ NvsIs x (some h)) (do
          let h ← bmxEsp32NvsSetError h espErrNoMem
          pure ((espErrNoMem, ()), some h) : NvsProgram ω ((EspErr × Unit) × Option NvsHandle))
          fun r w => post r.1.1 w ∧ NvsIs x r.2 := by
        refine Ensures.bind _ setError_ensures fun h' => Ensures.pure ?_
        rintro w ⟨⟨hw, hx'⟩, rfl⟩
        refine ⟨hfail espErrNoMem _ (by decide) hw, ?_⟩
        rintro _ ⟨rfl⟩
        exact hx' h rfl
      cases found <;> cases foundValue <;> exact fun s hs => hlast _ hs
  refine Ensures.bind _ (key_ensures hmemory hx) ?_
  rintro ⟨found, handle'⟩
  refine Ensures.bind (fun foundValue w => (pre w ∧ NvsIs x handle' ∧
    ∀ nativeKey, found = some nativeKey → handle'.isSome ∧
      nativeKey.kind.bytes = cString (d.utf8 key)) ∧
    ∀ y, foundValue = some y → y.kind.bytes = cString (d.utf8 value)) ?_ ?_
  · refine Ensures.conseq (utf8_ensures fun w hw => ⟨hmemory w hw.1, hw.2⟩) ?_ fun _ _ h => h
    rintro w ⟨hw, hx', -, hkey⟩
    exact ⟨hw, hx', hkey⟩
  · intro foundValue
    cases found with
    | none => exact (hfailed _ _ _).conseq (fun w hw => ⟨hw.1.1, hw.1.2.1⟩) fun _ _ h => h
    | some nativeKey =>
      cases foundValue with
      | none => exact (hfailed _ _ _).conseq (fun w hw => ⟨hw.1.1, hw.1.2.1⟩) fun _ _ h => h
      | some nativeValue =>
        cases handle' with
        | none => exact (hfailed _ _ _).conseq (fun w hw => ⟨hw.1.1, hw.1.2.1⟩) fun _ _ h => h
        | some h =>
          -- both strings are there: the store is asked with their bytes
          rintro s ⟨⟨hw, hx', hkey⟩, hbytes⟩
          have hdone := hset s.2 hw
          rw [← (hkey nativeKey rfl).2, ← hbytes nativeValue rfl, ← hx' h rfl] at hdone
          refine ⟨hdone, ?_⟩
          rintro _ ⟨rfl⟩
          exact hx' h rfl

/-- A method that leaves a key alone, as it says. -/
theorem method_leaves {o : Option NvsValue} (laws : NvsLaws d x contents) (hx : NvsIs x handle)
    {call : NvsMethod σ} (hleaves : call.Leaves d k) :
    Ensures (fun w => contents w k = o) (call.run d handle) fun r w =>
      contents w k = o ∧ NvsIs x r.2 := by
  have hset : ∀ {key : σ} {value : NvsValue}, cString (d.utf8 key) ≠ k →
      Ensures (fun w => contents w k = o) (bmxNvsSet d key value handle) fun r w =>
        contents w k = o ∧ NvsIs x r.2 := fun hk =>
    keyed_leaves laws hx fun _ _ hvalue hbytes => set_leaves laws hvalue (hbytes ▸ hk)
  have hget : ∀ {key : σ} {type : NvsType} {place : Bool},
      Ensures (fun w => contents w k = o) (bmxNvsGet d key type place handle) fun r w =>
        contents w k = o ∧ NvsIs x r.2 := by
    intro key type place
    refine keyed_leaves laws hx fun h nativeKey hvalue _ => ?_
    split
    · refine nvsCall_leaves (fun w hw => ?_) fun _ => Ensures.pure fun _ hw => hw
      rw [hvalue, laws.getNumber]
      exact hw
    · exact Ensures.pure fun _ hw => hw
  -- the setters and getters of one number are `hset` and `hget`; each other method has its steps
  cases call with
  | close =>
    cases handle with
    | none => exact Ensures.pure fun w hw => ⟨hw, hx⟩
    | some h =>
      intro s hs
      refine ⟨hs, ?_⟩
      rintro _ ⟨⟩
  | lastError => exact Ensures.pure fun w hw => ⟨hw, hx⟩
  | commit => exact Ensures.map (unkeyed_leaves hx laws.commit)
  | eraseAll => exact hleaves.elim
  | eraseKey key =>
    refine Ensures.map (keyed_leaves laws hx fun h nativeKey hvalue hbytes => ?_)
    refine nvsCall_leaves (fun w hw => ?_) fun _ => Ensures.pure fun _ hw => hw
    rw [hvalue, hbytes, laws.eraseKey_other _ _ _ (Ne.symm hleaves)]
    exact hw
  | valueType key =>
    refine Ensures.map (keyed_leaves laws hx fun h nativeKey hvalue hbytes => ?_)
    refine nvsCall_leaves (fun w hw => ?_) fun _ => Ensures.pure fun _ hw => hw
    rw [hvalue, laws.findKey]
    exact hw
  | setInt key value => exact Ensures.map (hset hleaves)
  | setUInt key value => exact Ensures.map (hset hleaves)
  | setLong key value => exact Ensures.map (hset hleaves)
  | setULong key value => exact Ensures.map (hset hleaves)
  | setFloat key bits => exact Ensures.map (hset hleaves)
  | setDouble key bits => exact Ensures.map (hset hleaves)
  | setString key value =>
    -- its two strings are allocated before the store is touched
    refine Ensures.map (setString_ensures (fun _ w => contents w k = o)
      (fun w hw => laws.memory w ▸ hw) hx (fun _ _ _ hw => hw) fun w hw => ?_)
    rw [laws.set_other _ _ _ _ (Ne.symm hleaves)]
    exact hw
  | setBytes key value =>
    refine Ensures.map (keyed_leaves laws hx fun h nativeKey hvalue hbytes => ?_)
    split
    · split
      · exact set_leaves laws hvalue (hbytes ▸ hleaves)
      · exact Ensures.pure fun _ hw => hw
    · exact Ensures.pure fun _ hw => hw
  | setMemory key data size =>
    refine Ensures.map (keyed_leaves laws hx fun h nativeKey hvalue hbytes => ?_)
    split
    · exact Ensures.pure fun _ hw => hw
    · exact set_leaves laws hvalue (hbytes ▸ hleaves)
  | getInt key place => exact Ensures.map hget
  | getUInt key place => exact Ensures.map hget
  | getLong key place => exact Ensures.map hget
  | getULong key place => exact Ensures.map hget
  | getFloat key place => exact Ensures.map hget
  | getDouble key place => exact Ensures.map hget
  | getString key => exact Ensures.map (getString_leaves laws hx)
  | tryGetString key => exact Ensures.map (getString_leaves laws hx)
  | getBytes key => exact Ensures.map (getBlob_leaves laws hx)
  | tryGetBytes key => exact Ensures.map (getBlob_leaves laws hx)
  | getMemory key data capacity actualSize =>
    refine Ensures.map (keyed_leaves laws hx fun h nativeKey hvalue hbytes => ?_)
    split
    · exact readMemory_leaves laws hvalue
    · exact Ensures.pure fun _ hw => hw

/-- A method that stores a value and returns no error has stored it. -/
theorem method_stores (laws : NvsLaws d x contents) (hx : NvsIs x handle) {call : NvsMethod σ}
    (hstores : call.stores d = some (k, v)) :
    Ensures (fun _ => True) (call.run d handle) fun r w =>
      (r.1 = .code espOk → contents w k = some v) ∧ NvsIs x r.2 := by
  have hcall : ∀ {key : σ} {call : NvsHandle → Handle NvsKind → NvsProgram ω (EspErr × Unit)},
      (∀ h nativeKey, h.value = x → nativeKey.kind.bytes = cString (d.utf8 key) →
        Ensures (fun _ => True) (call h nativeKey) fun r w =>
          r.1 = espOk → contents w k = some v) →
      Ensures (fun _ => True) ((fun r => (NvsResult.code (σ := σ) r.1.1, r.2)) <$>
        nvsKeyed d key () call handle) fun r w =>
          (r.1 = .code espOk → contents w k = some v) ∧ NvsIs x r.2 := by
    intro key call hcall
    refine Ensures.map (Ensures.imp (nvsKeyed_ensures (fun r w => r.1 = espOk →
      contents w k = some v) (fun _ _ => trivial) hx
      (fun _ _ herror _ hok => absurd hok herror) hcall) fun r w hr => ⟨fun hcode => ?_, hr.2.1⟩)
    exact hr.1 (NvsResult.code.inj hcode)
  have hset : ∀ {key : σ} {value : NvsValue} {h : NvsHandle} {nativeKey : Handle NvsKind},
      some (cString (d.utf8 key), value) = some (k, v) → h.value = x →
      nativeKey.kind.bytes = cString (d.utf8 key) →
      Ensures (fun _ => True) (do
        let error ← nvsCall h nativeKey (d.set h.value nativeKey.kind.bytes value)
        pure (error, ()) : NvsProgram ω (EspErr × Unit)) fun r w =>
          r.1 = espOk → contents w k = some v := by
    intro key value h nativeKey hstores hvalue hbytes
    obtain ⟨rfl, rfl⟩ := Prod.mk.inj (Option.some.inj hstores)
    refine Ensures.bind (fun error w => error = espOk → contents w _ = some _)
      (nvsCall_ensures fun w _ hok => ?_) fun error => Ensures.pure fun _ hw => hw
    rw [hvalue, hbytes] at hok ⊢
    exact laws.set_ok _ _ w hok
  -- only the setters store
  cases call with
  | setInt key value => exact hcall fun _ _ hvalue hbytes => hset hstores hvalue hbytes
  | setUInt key value => exact hcall fun _ _ hvalue hbytes => hset hstores hvalue hbytes
  | setLong key value => exact hcall fun _ _ hvalue hbytes => hset hstores hvalue hbytes
  | setULong key value => exact hcall fun _ _ hvalue hbytes => hset hstores hvalue hbytes
  | setFloat key bits => exact hcall fun _ _ hvalue hbytes => hset hstores hvalue hbytes
  | setDouble key bits => exact hcall fun _ _ hvalue hbytes => hset hstores hvalue hbytes
  | setString key value =>
    obtain ⟨rfl, rfl⟩ := Prod.mk.inj (Option.some.inj hstores)
    -- every failure before the store returns an error
    refine Ensures.map (Ensures.imp (setString_ensures (fun error w => error = espOk →
      contents w _ = some _) (fun _ _ => trivial) hx (fun _ _ herror _ hok => absurd hok herror)
      fun w _ hok => laws.set_ok _ _ w hok) fun r w hr => ⟨fun hcode => ?_, hr.2⟩)
    exact hr.1 (NvsResult.code.inj hcode)
  | setBytes key value =>
    refine hcall fun h nativeKey hvalue hbytes => ?_
    rcases value with - | ⟨elementSize, bytes⟩
    · cases hstores
    · dsimp only
      split
      · exact hset hstores hvalue hbytes
      · exact Ensures.pure fun _ _ hok => absurd hok (by decide : espErrInvalidArg ≠ espOk)
  | setMemory key data size =>
    refine hcall fun h nativeKey hvalue hbytes => ?_
    split
    · exact Ensures.pure fun _ _ hok => absurd hok (by decide : espErrInvalidArg ≠ espOk)
    · exact hset hstores hvalue hbytes
  | _ => cases hstores

/-- A method that reads a key shows what is there. -/
theorem method_shows (laws : NvsLaws d x contents) (hx : NvsIs x handle) {call : NvsMethod σ}
    (hreads : call.reads d = some k) :
    Ensures (fun w => contents w k = some v) (call.run d handle) fun r _ => r.1.Shows d v := by
  cases call with
  | getInt key place => exact Ensures.map (get_ensures laws hx (Option.some.inj hreads))
  | getUInt key place => exact Ensures.map (get_ensures laws hx (Option.some.inj hreads))
  | getLong key place => exact Ensures.map (get_ensures laws hx (Option.some.inj hreads))
  | getULong key place => exact Ensures.map (get_ensures laws hx (Option.some.inj hreads))
  | getFloat key place => exact Ensures.map (get_ensures laws hx (Option.some.inj hreads))
  | getDouble key place => exact Ensures.map (get_ensures laws hx (Option.some.inj hreads))
  | tryGetString key =>
    refine Ensures.map (Ensures.imp (getString_ensures laws hx (Option.some.inj hreads))
      fun r w hr hsuccess => hr (of_decide_eq_true hsuccess))
  | tryGetBytes key =>
    refine Ensures.map (Ensures.imp (getBlob_ensures laws hx (Option.some.inj hreads))
      fun r w hr hsuccess => hr (of_decide_eq_true hsuccess))
  | getMemory key data capacity actualSize =>
    refine Ensures.map (Ensures.imp (getMemory_ensures laws hx (Option.some.inj hreads))
      fun r w hr hok => ?_)
    obtain ⟨⟨actualSize, bytes⟩, hread, hv, hlength⟩ := hr hok
    exact ⟨bytes, actualSize, hread, hv, hlength⟩
  | _ => cases hreads

/-- In a calm world it does not fail. -/
theorem method_succeeds {calm : ω → Prop} (laws : NvsLaws d x contents)
    (hcalm : NvsCalm d x contents calm) (hvalue : h.value = x) {call : NvsMethod σ}
    (hreads : call.reads d = some k) (htakes : call.Takes v) :
    Ensures (fun w => calm w ∧ contents w k = some v) (call.run d (some h))
      fun r _ => r.1.Succeeds := by
  have hget : ∀ {key : σ} {type : NvsType} {place : Bool}, some (cString (d.utf8 key)) = some k →
      v.type = type ∧ place = true → type ≠ .str → type ≠ .blob →
      Ensures (fun w => calm w ∧ contents w k = some v) (bmxNvsGet d key type place (some h))
        fun r _ => r.1.1 = espOk := by
    rintro key _ _ hk ⟨rfl, rfl⟩ hstr hblob
    exact get_calm laws hcalm hvalue (Option.some.inj hk) hstr hblob
  cases call with
  | getInt key place => exact Ensures.map (hget hreads htakes nofun nofun)
  | getUInt key place => exact Ensures.map (hget hreads htakes nofun nofun)
  | getLong key place => exact Ensures.map (hget hreads htakes nofun nofun)
  | getULong key place => exact Ensures.map (hget hreads htakes nofun nofun)
  | getFloat key place => exact Ensures.map (hget hreads htakes nofun nofun)
  | getDouble key place => exact Ensures.map (hget hreads htakes nofun nofun)
  | tryGetString key =>
    exact Ensures.map (Ensures.imp (getString_calm laws hcalm hvalue (Option.some.inj hreads) htakes)
      fun r w hok => decide_eq_true hok)
  | tryGetBytes key =>
    exact Ensures.map (Ensures.imp (getBlob_calm laws hcalm hvalue (Option.some.inj hreads) htakes.1
      htakes.2) fun r w hok => decide_eq_true hok)
  | getMemory key data capacity actualSize =>
    obtain ⟨htype, hfits, hdata, rfl⟩ := htakes
    exact Ensures.map (getMemory_calm laws hcalm hvalue (Option.some.inj hreads) htype hfits hdata)
  | _ => cases hreads

/-! ### Runs -/

/-- Methods one after the other, with the handle that the namespace has after them. -/
def nvsMethods (d : NvsDriver σ ω) : List (NvsMethod σ) → Option NvsHandle →
    NvsProgram ω (Option NvsHandle)
  | [], handle => pure handle
  | call :: calls, handle => do
    let (_, handle) ← call.run d handle
    nvsMethods d calls handle

theorem methods_leave {o : Option NvsValue} (laws : NvsLaws d x contents)
    {calls : List (NvsMethod σ)} (hx : NvsIs x handle)
    (hleaves : ∀ call ∈ calls, call.Leaves d k) :
    Ensures (fun w => contents w k = o) (nvsMethods d calls handle) fun handle w =>
      contents w k = o ∧ NvsIs x handle := by
  induction calls generalizing handle with
  | nil => exact Ensures.pure fun w hw => ⟨hw, hx⟩
  | cons call calls ih =>
    intro s hs
    obtain ⟨hw, hx'⟩ := method_leaves laws hx (hleaves call List.mem_cons_self) s hs
    exact ih hx' (fun call hmem => hleaves call (List.mem_cons_of_mem _ hmem)) _ hw

/-- **What has been stored is what is found.**  A value that a method has stored without an error
is what any method that reads the key shows, if it does not fail, whatever other methods have done
in between that leave the key alone; and it does not fail if it reads that type, the namespace is
open, and there is memory and the driver finds what is there. -/
theorem nvs_roundTrip (laws : NvsLaws d x contents) (hx : NvsIs x handle) {set get : NvsMethod σ}
    {calls : List (NvsMethod σ)} (hstores : set.stores d = some (k, v))
    (hleaves : ∀ call ∈ calls, call.Leaves d k) (hreads : get.reads d = some k)
    (s : List (Op NvsKind NvsUse) × ω) (hset : (set.run d handle s).1.1 = .code espOk) :
    let stored := set.run d handle s
    let later := nvsMethods d calls stored.1.2 stored.2
    (get.run d later.1 later.2).1.1.Shows d v ∧
      ∀ calm, NvsCalm d x contents calm → calm later.2.2 → later.1.isSome = true → get.Takes v →
        (get.run d later.1 later.2).1.1.Succeeds := by
  intro stored later
  obtain ⟨hthere, hx₁⟩ := method_stores laws hx hstores s trivial
  obtain ⟨hstill, hx₂⟩ := methods_leave laws hx₁ hleaves stored.2 (hthere hset)
  refine ⟨method_shows laws hx₂ hreads later.2 hstill, fun calm hcalm hw hopen htakes => ?_⟩
  obtain ⟨h, hsome⟩ := Option.isSome_iff_exists.mp hopen
  have hdone := method_succeeds laws hcalm (hx₂ h hsome) hreads htakes later.2 ⟨hw, hstill⟩
  rwa [hsome]

/-- A store that keeps everything in a map, with memory that never ends. -/
def nvsMapDriver : NvsDriver (List UInt8) (List UInt8 → Option NvsValue) where
  utf8 := id
  ofUtf8 := id
  memory w := (true, w)
  flashInit w := (espOk, w)
  open_ _ _ w := (espOk, w)
  commit _ w := (espOk, w)
  eraseKey _ key w := (espOk, fun key' => if key' = key then none else w key')
  eraseAll _ _ := (espOk, fun _ => none)
  findKey _ key w := ((if (w key).isSome then espOk else espErrNotFound, 0), w)
  set _ key value w := (espOk, fun key' => if key' = key then some value else w key')
  getNumber _ key type w :=
    match w key with
    | some value => if value.type = type then ((espOk, value), w) else ((espErrNotFound, .i32 0), w)
    | none => ((espErrNotFound, .i32 0), w)
  length _ key type w :=
    match w key with
    | some value =>
      if value.type = type ∧ value.stored.length < 2 ^ 32 then
        ((espOk, UInt32.ofNat value.stored.length), w)
      else ((espErrNotFound, 0), w)
    | none => ((espErrNotFound, 0), w)
  bytes _ key type _ w :=
    match w key with
    | some value =>
      if value.type = type ∧ value.stored.length < 2 ^ 32 then
        ((espOk, value.stored, UInt32.ofNat value.stored.length), w)
      else ((espErrNotFound, [], 0), w)
    | none => ((espErrNotFound, [], 0), w)
  stats w := ((espOk, ⟨0, 0, 0, 0⟩), w)

theorem nvsMapDriver_laws : NvsLaws nvsMapDriver x fun w => w where
  memory _ := rfl
  commit _ := rfl
  findKey _ _ := rfl
  eraseKey_other _ _ _ hne := if_neg hne
  set_ok _ _ _ _ := if_pos rfl
  set_other _ _ _ _ hne := if_neg hne
  getNumber key type w := by
    simp only [nvsMapDriver]
    split
    · split <;> rfl
    · rfl
  getNumber_ok key type w hok := by
    simp only [nvsMapDriver] at hok ⊢
    split at hok
    next value hvalue =>
      split at hok
      next htype => rw [if_pos htype, hvalue]
      next => cases hok
    next => cases hok
  length key type w := by
    simp only [nvsMapDriver]
    split
    · split <;> rfl
    · rfl
  length_ok key type w hok := by
    simp only [nvsMapDriver] at hok ⊢
    split at hok
    next value hvalue =>
      split at hok
      next hfits =>
        refine ⟨value, hvalue, hfits.1, ?_⟩
        rw [if_pos hfits]
        exact (Nat.mod_eq_of_lt hfits.2).symm
      next => cases hok
    next => cases hok
  bytes key type room w := by
    simp only [nvsMapDriver]
    split
    · split <;> rfl
    · rfl
  bytes_ok key type room w hok := by
    simp only [nvsMapDriver] at hok ⊢
    split at hok
    next value hvalue =>
      split at hok
      next hfits =>
        refine ⟨value, hvalue, hfits.1, ?_⟩
        rw [if_pos hfits]
        exact ⟨rfl, (Nat.mod_eq_of_lt hfits.2).symm⟩
      next => cases hok
    next => cases hok

/-- It is calm while no value is longer than a `size_t` can tell. -/
def NvsShort (w : List UInt8 → Option NvsValue) : Prop :=
  ∀ key value, w key = some value → value.stored.length < 2 ^ 32

theorem nvsMapDriver_calm : NvsCalm nvsMapDriver x (fun w => w) NvsShort where
  memory _ hw := ⟨rfl, hw⟩
  getNumber key value w _ hsome _ _ := by
    simp only [nvsMapDriver, hsome, if_true]
  length key value w hw hsome _ := by
    simp only [nvsMapDriver, hsome, hw key value hsome, and_self, if_true, true_and]
    exact hw
  bytes key value room w hw hsome _ _ := by
    simp only [nvsMapDriver, hsome, hw key value hsome, and_self, if_true]

/-- Bytes that are stored from memory are found in an array, after another key has been erased. -/
theorem nvs_roundTrip_blob :
    let handle : NvsHandle := ⟨⟨.record, 0⟩, ⟨.handle false, 1⟩, espOk⟩
    let set : NvsMethod (List UInt8) := .setMemory [107] (some [1, 0, 2]) 2
    let stored := set.run nvsMapDriver (some handle) ([], fun _ => none)
    let later := nvsMethods nvsMapDriver [.eraseKey [108]] stored.1.2 stored.2
    let found := ((NvsMethod.tryGetBytes [107]).run nvsMapDriver later.1 later.2).1.1
    found.Shows nvsMapDriver (.blob [1, 0]) ∧ found.Succeeds := by
  have laws : NvsLaws nvsMapDriver ⟨.handle false, 1⟩ fun w => w := nvsMapDriver_laws
  have hx : NvsIs ⟨.handle false, 1⟩ (some ⟨⟨.record, 0⟩, ⟨.handle false, 1⟩, espOk⟩) :=
    fun h hsome => congrArg NvsHandle.value (Option.some.inj hsome).symm
  have hstores : (NvsMethod.setMemory [107] (some [1, 0, 2]) 2).stores nvsMapDriver =
      some ([107], .blob [1, 0]) := rfl
  have hreads : (NvsMethod.tryGetBytes [107]).reads nvsMapDriver = some [107] := rfl
  have hleaves : ∀ call ∈ [NvsMethod.eraseKey [108]], call.Leaves nvsMapDriver [107] := by
    intro call hmem
    obtain rfl := List.mem_singleton.mp hmem
    exact fun heq => absurd heq (by decide)
  have hfound := nvs_roundTrip laws hx hstores hleaves hreads ([], fun _ => none) rfl
  refine ⟨hfound.1, hfound.2 NvsShort nvsMapDriver_calm ?_ rfl ⟨rfl, by decide⟩⟩
  intro key value hsome
  obtain ⟨-, hsome⟩ := Option.ite_none_left_eq_some.mp hsome
  obtain ⟨-, hsome⟩ := Option.ite_none_right_eq_some.mp hsome
  obtain rfl := Option.some.inj hsome
  decide

end Esp32Mod
