/-
Esp32Mod/Ota.lean

Application updates (`runtime.mod/native/esp32_ota.c`).

An update object owns a native OTA handle from a successful `esp_ota_begin` until
the image is ended or aborted.  Three fields govern it: `active` says that the
handle is still open, `finished` that `esp_ota_end` accepted the image, and `written`
counts the bytes the flash driver took, against two bounds.

The system keeps the objects the application holds and a log of the native calls
in the order in which they were issued.  A handle in the log stands for one successful
`esp_ota_begin`.  `Legal pre e` says when call `e` is allowed after the calls `pre`;
`LegalLog` says that every call of a log was allowed when it was issued.

The proof is per object: `UpdateOk log u` ties the fields of `u` to the calls made on
its handle, `apply_spec` says what one operation does to it, and the frame lemma
`UpdateOk.frame` says that operations on other objects do not matter.

Main result: `ota_safe`.
-/
import Esp32Mod.Errors
import Esp32Mod.StepMachine
import Mathlib.Algebra.Order.Ring.Nat

namespace Esp32Mod

open StepMachine

/-! ### Update objects -/

/-- `esp_partition_t`, as far as it is read. -/
structure EspPartition where
  size : UInt32
  deriving DecidableEq

/-- An update. -/
structure BMXESP32OTAUpdate where
  handle : Nat
  partition : EspPartition
  expectedSize : UInt32
  written : UInt32
  lastError : EspErr
  active : Bool
  finished : Bool
  deriving DecidableEq

/-- A native call, with its result; `abortRequested` marks a call of
`bmx_esp32_ota_abort`, which reaches the driver only if the handle is open. -/
inductive OtaCall
  | began (h : Nat) (partition : EspPartition) (expectedSize : UInt32)
  | wrote (h : Nat) (data : Option (List UInt8)) (size : UInt32) (result : EspErr)
  | ended (h : Nat) (result : EspErr)
  | aborted (h : Nat) (result : EspErr)
  | bootSet (h : Nat) (partition : EspPartition) (result : EspErr)
  | abortRequested (h : Nat)
  deriving DecidableEq

/-- A pointer to an update, or `NULL`. -/
abbrev OtaPointer := Option BMXESP32OTAUpdate

/-- The error is stored where there is an update. -/
def bmxEsp32OtaError (update : OtaPointer) (error : EspErr) : EspErr × OtaPointer :=
  (error, update.map fun u => { u with lastError := error })

/-- Begin an update: `partition` is the next update partition, `alloc` the success of
`bbMemAlloc`, `result` that of `esp_ota_begin`, which yields `handle`.  The first
component is the new value of `bmx_esp32_ota_begin_error`. -/
def bmxEsp32OtaBegin (expectedSize : UInt32) (partition : Option EspPartition) (alloc : Bool)
    (result : EspErr) (handle : Nat) : EspErr × OtaPointer × List OtaCall :=
  match partition with
  | none => (espErrNotFound, none, [])
  | some partition =>
    if expectedSize > partition.size then (espErrInvalidSize, none, [])
    else if !alloc then (espErrNoMem, none, [])
    else if result ≠ espOk then (result, none, [])
    else (espOk, some { handle, partition, expectedSize, written := 0, lastError := result,
                        active := true, finished := false },
          [.began handle partition expectedSize])

/-- Bytes of the image, no more than expected. -/
def bmxEsp32OtaWrite (pointer : OtaPointer) (data : Option (List UInt8)) (size : UInt32)
    (result : EspErr) : (EspErr × OtaPointer) × List OtaCall :=
  match pointer with
  | none => (bmxEsp32OtaError none espErrInvalidState, [])
  | some update =>
    if !update.active then (bmxEsp32OtaError (some update) espErrInvalidState, [])
    else if data.isNone ∧ size ≠ 0 then (bmxEsp32OtaError (some update) espErrInvalidArg, [])
    else if size > update.partition.size - update.written then
      (bmxEsp32OtaError (some update) espErrInvalidSize, [])
    else if update.expectedSize ≠ 0 ∧ size > update.expectedSize - update.written then
      (bmxEsp32OtaError (some update) espErrInvalidSize, [])
    else
      let call := OtaCall.wrote update.handle data size result
      if result = espOk then
        (bmxEsp32OtaError (some { update with written := update.written + size }) result, [call])
      else (bmxEsp32OtaError (some update) result, [call])

/-- Finish an update; `result` is that of `esp_ota_end`, or of the `esp_ota_abort` that
takes its place when the image is incomplete. -/
def bmxEsp32OtaFinish (pointer : OtaPointer) (result : EspErr) :
    (EspErr × OtaPointer) × List OtaCall :=
  match pointer with
  | none => (bmxEsp32OtaError none espErrInvalidState, [])
  | some update =>
    if !update.active then (bmxEsp32OtaError (some update) espErrInvalidState, [])
    else if update.expectedSize ≠ 0 ∧ update.written ≠ update.expectedSize then
      (bmxEsp32OtaError (some { update with active := false }) espErrInvalidSize,
        [.aborted update.handle result])
    else
      (bmxEsp32OtaError
        (some { update with active := false, finished := decide (result = espOk) }) result,
        [.ended update.handle result])

/-- The partition of an image that has been verified is booted next. -/
def bmxEsp32OtaActivate (pointer : OtaPointer) (result : EspErr) :
    (EspErr × OtaPointer) × List OtaCall :=
  match pointer with
  | none => (bmxEsp32OtaError none espErrInvalidState, [])
  | some update =>
    if !update.finished then (bmxEsp32OtaError (some update) espErrInvalidState, [])
    else (bmxEsp32OtaError (some update) result,
      [.bootSet update.handle update.partition result])

/-- The handle is given up. -/
def bmxEsp32OtaAbort (pointer : OtaPointer) (result : EspErr) :
    (EspErr × OtaPointer) × List OtaCall :=
  match pointer with
  | none => ((espErrInvalidState, none), [])
  | some update =>
    let closed := some { update with active := false, finished := false }
    if update.active then
      (bmxEsp32OtaError closed result,
        [.abortRequested update.handle, .aborted update.handle result])
    else (bmxEsp32OtaError closed espOk, [.abortRequested update.handle])

/-- Destroy an update; the object is freed. -/
def bmxEsp32OtaDestroy (pointer : OtaPointer) (result : EspErr) : List OtaCall :=
  match pointer with
  | none => []
  | some update => if update.active then [.aborted update.handle result] else []

/-! ### The system -/

/-- An operation on an existing update object, with the result of the native call
it may make. -/
inductive OtaRequest
  | write (data : Option (List UInt8)) (size : UInt32) (result : EspErr)
  | finish (result : EspErr)
  | activate (result : EspErr)
  | abort (result : EspErr)
  | destroy (result : EspErr)

/-- What becomes of the object, and the native calls made. -/
def OtaRequest.apply (pointer : OtaPointer) : OtaRequest → OtaPointer × List OtaCall
  | write data size result =>
    ((bmxEsp32OtaWrite pointer data size result).1.2, (bmxEsp32OtaWrite pointer data size result).2)
  | finish result => ((bmxEsp32OtaFinish pointer result).1.2, (bmxEsp32OtaFinish pointer result).2)
  | activate result =>
    ((bmxEsp32OtaActivate pointer result).1.2, (bmxEsp32OtaActivate pointer result).2)
  | abort result => ((bmxEsp32OtaAbort pointer result).1.2, (bmxEsp32OtaAbort pointer result).2)
  | destroy result => (none, bmxEsp32OtaDestroy pointer result)

/-- The update objects of the application, by the number of their allocation, and
the native calls so far.  `TESP32OTAUpdate.Close` replaces the handle it destroys by
Null, so an object that is gone is the null pointer. -/
structure OtaSystem where
  updates : Nat → OtaPointer
  next : Nat
  beginError : EspErr
  log : List OtaCall

/-- The calls of the application. -/
inductive OtaAction
  | begin (expectedSize : UInt32) (partition : Option EspPartition) (alloc : Bool)
      (result : EspErr)
  | request (i : Nat) (r : OtaRequest)

/-- A call, on any update. -/
def OtaSystem.step (s : OtaSystem) : OtaAction → OtaSystem
  | .begin expectedSize partition alloc result =>
    let r := bmxEsp32OtaBegin expectedSize partition alloc result s.next
    { updates := Function.update s.updates s.next r.2.1
      next := s.next + 1
      beginError := r.1
      log := s.log ++ r.2.2 }
  | .request i r =>
    { s with
      updates := Function.update s.updates i (r.apply (s.updates i)).1
      log := s.log ++ (r.apply (s.updates i)).2 }

/-- No update has begun. -/
def OtaSystem.boot : OtaSystem where
  updates := fun _ => none
  next := 0
  beginError := espOk
  log := []

/-- Sequences of calls, each with arbitrary arguments and driver results. -/
def otaMachine : Machine OtaSystem OtaAction where
  init s := s = OtaSystem.boot
  step s a := some (s.step a)

/-! ### What the log must say -/

/-- The handle that the call is about. -/
def OtaCall.handle : OtaCall → Nat
  | began h _ _ | wrote h _ _ _ | ended h _ | aborted h _ | bootSet h _ _ | abortRequested h => h

/-- The calls after which the native handle `h` is gone. -/
def OtaCall.closes (h : Nat) : OtaCall → Bool
  | ended h' _ | aborted h' _ => h' = h
  | _ => false

/-- The bytes a call added to the image of `h`. -/
def OtaCall.acceptedBy (h : Nat) : OtaCall → Nat
  | wrote h' _ size result => if h' = h ∧ result = espOk then size.toNat else 0
  | _ => 0

/-- How often `h` was ended or aborted. -/
def closings (h : Nat) (log : List OtaCall) : Nat := log.countP (OtaCall.closes h)

/-- The total size of the successful writes to `h`. -/
def acceptedBytes (h : Nat) (log : List OtaCall) : Nat := (log.map (OtaCall.acceptedBy h)).sum

/-- `h` came from a successful `esp_ota_begin`. -/
def Begun (h : Nat) (log : List OtaCall) : Prop := ∃ p e, OtaCall.began h p e ∈ log

/-- When a call may be issued after the calls `pre`.  A write, end or abort needs a
handle that is open.  Selecting an image for boot needs one that was accepted, is
complete if its size was announced, and was not aborted. -/
def Legal (pre : List OtaCall) : OtaCall → Prop
  | .began h _ _ => ∀ c ∈ pre, c.handle ≠ h
  | .wrote h _ _ _ | .ended h _ | .aborted h _ => Begun h pre ∧ closings h pre = 0
  | .bootSet h partition _ => OtaCall.ended h espOk ∈ pre ∧ OtaCall.abortRequested h ∉ pre ∧
      ∀ p e, OtaCall.began h p e ∈ pre →
        partition = p ∧ (e ≠ 0 → acceptedBytes h pre = e.toNat)
  | .abortRequested h => Begun h pre

/-- Every call of `calls` is legal after `pre` and the calls before it. -/
def LegalAfter (pre : List OtaCall) : List OtaCall → Prop
  | [] => True
  | c :: calls => Legal pre c ∧ LegalAfter (pre ++ [c]) calls

/-- Every call of the log was legal when it was issued. -/
def LegalLog (log : List OtaCall) : Prop :=
  ∀ pre c post, log = pre ++ c :: post → Legal pre c

theorem LegalAfter.append {pre a b : List OtaCall} (ha : LegalAfter pre a)
    (hb : LegalAfter (pre ++ a) b) : LegalAfter pre (a ++ b) := by
  induction a generalizing pre with
  | nil => simpa using hb
  | cons c a ih => exact ⟨ha.1, ih ha.2 (by simpa using hb)⟩

theorem LegalAfter.split {pre a : List OtaCall} {c : OtaCall} {b : List OtaCall}
    (h : LegalAfter pre (a ++ c :: b)) : Legal (pre ++ a) c := by
  induction a generalizing pre with
  | nil => simpa using h.1
  | cons d a ih => simpa using ih h.2

theorem LegalAfter.legalLog {log : List OtaCall} (h : LegalAfter [] log) : LegalLog log := by
  rintro pre c post rfl
  simpa using h.split

@[simp] theorem closings_nil (h : Nat) : closings h [] = 0 := rfl

@[simp] theorem acceptedBytes_nil (h : Nat) : acceptedBytes h [] = 0 := rfl

@[simp] theorem closings_append (h : Nat) (a b : List OtaCall) :
    closings h (a ++ b) = closings h a + closings h b := List.countP_append

@[simp] theorem acceptedBytes_append (h : Nat) (a b : List OtaCall) :
    acceptedBytes h (a ++ b) = acceptedBytes h a + acceptedBytes h b := by
  simp [acceptedBytes]

@[simp] theorem closings_cons (h : Nat) (c : OtaCall) (a : List OtaCall) :
    closings h (c :: a) = (if c.closes h then 1 else 0) + closings h a := by
  rw [closings, List.countP_cons, Nat.add_comm]
  rfl

@[simp] theorem acceptedBytes_cons (h : Nat) (c : OtaCall) (a : List OtaCall) :
    acceptedBytes h (c :: a) = c.acceptedBy h + acceptedBytes h a := by
  simp [acceptedBytes]

/-- Calls on other handles neither close `h` nor write to it. -/
theorem closings_of_ne {h : Nat} {calls : List OtaCall} (hne : ∀ c ∈ calls, c.handle ≠ h) :
    closings h calls = 0 := by
  refine List.countP_eq_zero.mpr fun c hc => ?_
  have := hne c hc
  cases c <;> simp_all [OtaCall.closes, OtaCall.handle]

theorem acceptedBytes_of_ne {h : Nat} {calls : List OtaCall} (hne : ∀ c ∈ calls, c.handle ≠ h) :
    acceptedBytes h calls = 0 := by
  induction calls with
  | nil => rfl
  | cons c calls ih =>
    have hc : c.acceptedBy h = 0 := by
      have := hne c List.mem_cons_self
      cases c <;> simp_all [OtaCall.acceptedBy, OtaCall.handle]
    rw [acceptedBytes_cons, hc, ih fun d hd => hne d (List.mem_cons_of_mem c hd)]

/-! ### One object -/

/-- The fields of a live object agree with the calls made on its handle. -/
structure UpdateOk (log : List OtaCall) (u : BMXESP32OTAUpdate) : Prop where
  begun : OtaCall.began u.handle u.partition u.expectedSize ∈ log
  begun_unique : ∀ p e, OtaCall.began u.handle p e ∈ log →
    p = u.partition ∧ e = u.expectedSize
  closings_eq : closings u.handle log = if u.active then 0 else 1
  written_eq : u.written.toNat = acceptedBytes u.handle log
  written_le_size : u.written.toNat ≤ u.partition.size.toNat
  written_le_expected : u.expectedSize ≠ 0 → u.written.toNat ≤ u.expectedSize.toNat
  unaborted : u.active = true ∨ u.finished = true → OtaCall.abortRequested u.handle ∉ log
  inactive : u.finished = true → u.active = false
  accepted : u.finished = true → OtaCall.ended u.handle espOk ∈ log ∧
    (u.expectedSize ≠ 0 → u.written = u.expectedSize)

/-- Operations on other objects leave an object in order. -/
theorem UpdateOk.frame {log calls : List OtaCall} {u : BMXESP32OTAUpdate} (h : UpdateOk log u)
    (hne : ∀ c ∈ calls, c.handle ≠ u.handle) : UpdateOk (log ++ calls) u where
  begun := List.mem_append_left _ h.begun
  begun_unique p e hmem := by
    rcases List.mem_append.mp hmem with hold | hnew
    · exact h.begun_unique p e hold
    · exact absurd rfl (hne _ hnew)
  closings_eq := by rw [closings_append, closings_of_ne hne, h.closings_eq, Nat.add_zero]
  written_eq := by rw [acceptedBytes_append, acceptedBytes_of_ne hne, h.written_eq, Nat.add_zero]
  written_le_size := h.written_le_size
  written_le_expected := h.written_le_expected
  unaborted hlive hmem := by
    rcases List.mem_append.mp hmem with hold | hnew
    · exact h.unaborted hlive hold
    · exact absurd rfl (hne _ hnew)
  inactive := h.inactive
  accepted hfin := ⟨List.mem_append_left _ (h.accepted hfin).1, (h.accepted hfin).2⟩

theorem UpdateOk.error {log : List OtaCall} {u : BMXESP32OTAUpdate} (h : UpdateOk log u)
    (error : EspErr) : UpdateOk log { u with lastError := error } :=
  ⟨h.begun, h.begun_unique, h.closings_eq, h.written_eq, h.written_le_size,
    h.written_le_expected, h.unaborted, h.inactive, h.accepted⟩

/-- The handle of an active object is open. -/
theorem UpdateOk.open_of_active {log : List OtaCall} {u : BMXESP32OTAUpdate} (h : UpdateOk log u)
    (hactive : u.active = true) : closings u.handle log = 0 := by
  rw [h.closings_eq, if_pos hactive]

/-- Calls that write nothing, and after which the two flags say what has become of the
handle. -/
theorem UpdateOk.flags {log calls : List OtaCall} {u : BMXESP32OTAUpdate} (h : UpdateOk log u)
    (active finished : Bool) (hbegan : ∀ p e, OtaCall.began u.handle p e ∉ calls)
    (hbytes : acceptedBytes u.handle calls = 0)
    (hclosings : closings u.handle log + closings u.handle calls = if active then 0 else 1)
    (hunaborted : active = true ∨ finished = true →
      OtaCall.abortRequested u.handle ∉ log ++ calls)
    (hinactive : finished = true → active = false)
    (haccepted : finished = true → OtaCall.ended u.handle espOk ∈ log ++ calls ∧
      (u.expectedSize ≠ 0 → u.written = u.expectedSize)) :
    UpdateOk (log ++ calls) { u with active := active, finished := finished } where
  begun := List.mem_append_left _ h.begun
  begun_unique p e hmem := by
    rcases List.mem_append.mp hmem with hold | hnew
    · exact h.begun_unique p e hold
    · exact absurd hnew (hbegan p e)
  closings_eq := by rw [closings_append, hclosings]
  written_eq := by rw [acceptedBytes_append, hbytes, Nat.add_zero, h.written_eq]
  written_le_size := h.written_le_size
  written_le_expected := h.written_le_expected
  unaborted := hunaborted
  inactive := hinactive
  accepted := haccepted

/-- Neither size check of a write can underflow. -/
theorem UpdateOk.size_sub {log : List OtaCall} {u : BMXESP32OTAUpdate} (h : UpdateOk log u) :
    (u.partition.size - u.written).toNat = u.partition.size.toNat - u.written.toNat :=
  UInt32.toNat_sub_of_le _ _ (UInt32.le_iff_toNat_le.mpr h.written_le_size)

theorem UpdateOk.expected_sub {log : List OtaCall} {u : BMXESP32OTAUpdate} (h : UpdateOk log u)
    (he : u.expectedSize ≠ 0) :
    (u.expectedSize - u.written).toNat = u.expectedSize.toNat - u.written.toNat :=
  UInt32.toNat_sub_of_le _ _ (UInt32.le_iff_toNat_le.mpr (h.written_le_expected he))

/-- What an operation does to a live object `u`: it makes legal calls on its handle
only, and leaves an object in order or, if it destroys it, a closed handle. -/
structure AppliedOk (log : List OtaCall) (u : BMXESP32OTAUpdate)
    (r : OtaPointer × List OtaCall) : Prop where
  legal : LegalAfter log r.2
  handle : ∀ c ∈ r.2, c.handle = u.handle
  alive : ∀ u', r.1 = some u' → u'.handle = u.handle ∧ UpdateOk (log ++ r.2) u'
  dead : r.1 = none → closings u.handle (log ++ r.2) = 1

/-- An operation that makes no call and only records an error. -/
theorem AppliedOk.error {log : List OtaCall} {u : BMXESP32OTAUpdate} (h : UpdateOk log u)
    (error : EspErr) : AppliedOk log u ((bmxEsp32OtaError (some u) error).2, []) where
  legal := trivial
  handle _ hc := absurd hc List.not_mem_nil
  alive u' hu' := by
    obtain rfl := Option.some.inj hu'
    exact ⟨rfl, by simpa using h.error error⟩
  dead hnone := by cases hnone

/-- An operation that makes calls, changes fields other than the handle, and
records an error. -/
theorem AppliedOk.calls {log calls : List OtaCall} {u v : BMXESP32OTAUpdate} {error : EspErr}
    (hlegal : LegalAfter log calls) (hcalls : ∀ c ∈ calls, c.handle = u.handle)
    (hv : v.handle = u.handle) (hok : UpdateOk (log ++ calls) v) :
    AppliedOk log u ((bmxEsp32OtaError (some v) error).2, calls) where
  legal := hlegal
  handle := hcalls
  alive u' hu' := by
    obtain rfl := Option.some.inj hu'
    exact ⟨hv, hok.error error⟩
  dead hnone := by cases hnone

theorem apply_write_spec {log : List OtaCall} {u : BMXESP32OTAUpdate} (h : UpdateOk log u)
    (data : Option (List UInt8)) (size : UInt32) (result : EspErr) :
    AppliedOk log u ((OtaRequest.write data size result).apply (some u)) := by
  simp only [OtaRequest.apply, bmxEsp32OtaWrite]
  split_ifs with hinactive _ hsize hexpected hresult
  · exact .error h _
  · exact .error h _
  · exact .error h _
  · exact .error h _
  · -- the driver took the bytes: both bounds leave room for them
    have hactive : u.active = true := by simpa using hinactive
    have hclosings := h.open_of_active hactive
    have hroom : size.toNat ≤ u.partition.size.toNat - u.written.toNat := by
      rw [← h.size_sub]
      exact UInt32.le_iff_toNat_le.mp (UInt32.not_lt.mp hsize)
    have hsum : (u.written + size).toNat = u.written.toNat + size.toNat := by
      have := u.partition.size.toNat_lt
      have := h.written_le_size
      rw [UInt32.toNat_add, Nat.mod_eq_of_lt (by omega)]
    refine .calls ⟨⟨⟨_, _, h.begun⟩, hclosings⟩, trivial⟩ (by simp [OtaCall.handle]) rfl ?_
    refine ⟨List.mem_append_left _ h.begun, ?_, ?_, ?_, ?_, ?_, ?_, ?_, ?_⟩
    · intro p e hmem
      exact h.begun_unique p e (by simpa using hmem)
    · simp [OtaCall.closes, hclosings, hactive]
    · simp [OtaCall.acceptedBy, hresult, hsum, h.written_eq]
    · have := h.written_le_size
      show (u.written + size).toNat ≤ u.partition.size.toNat
      omega
    · intro he
      have hleft : size.toNat ≤ u.expectedSize.toNat - u.written.toNat := by
        rw [← h.expected_sub he]
        exact UInt32.le_iff_toNat_le.mp (UInt32.not_lt.mp fun hlt => hexpected ⟨he, hlt⟩)
      have := h.written_le_expected he
      show (u.written + size).toNat ≤ u.expectedSize.toNat
      omega
    · simpa using h.unaborted
    · exact h.inactive
    · intro hfin
      exact absurd (h.inactive hfin) (by simp [hactive])
  · -- the driver failed: nothing was written
    have hactive : u.active = true := by simpa using hinactive
    have hclosings := h.open_of_active hactive
    refine .calls ⟨⟨⟨_, _, h.begun⟩, hclosings⟩, trivial⟩ (by simp [OtaCall.handle]) rfl ?_
    refine h.flags u.active u.finished (by simp) ?_ ?_ ?_ h.inactive fun hfin => ?_
    · simp [OtaCall.acceptedBy, hresult]
    · simp [OtaCall.closes, hclosings, hactive]
    · simpa using h.unaborted
    · exact absurd (h.inactive hfin) (by simp [hactive])

theorem apply_finish_spec {log : List OtaCall} {u : BMXESP32OTAUpdate} (h : UpdateOk log u)
    (result : EspErr) : AppliedOk log u ((OtaRequest.finish result).apply (some u)) := by
  simp only [OtaRequest.apply, bmxEsp32OtaFinish]
  split_ifs with hinactive hshort
  · exact .error h _
  · have hactive : u.active = true := by simpa using hinactive
    have hclosings := h.open_of_active hactive
    have hunfinished : u.finished = false := by
      by_contra hfin
      simp [h.inactive (by simpa using hfin)] at hactive
    refine .calls ⟨⟨⟨_, _, h.begun⟩, hclosings⟩, trivial⟩ (by simp [OtaCall.handle]) rfl ?_
    refine h.flags false u.finished (by simp) ?_ ?_ (fun hlive => ?_) (fun _ => rfl) fun hfin => ?_
    · simp [OtaCall.acceptedBy]
    · simp [OtaCall.closes, hclosings]
    · simp [hunfinished] at hlive
    · rw [hunfinished] at hfin
      cases hfin
  · have hactive : u.active = true := by simpa using hinactive
    have hclosings := h.open_of_active hactive
    refine .calls ⟨⟨⟨_, _, h.begun⟩, hclosings⟩, trivial⟩ (by simp [OtaCall.handle]) rfl ?_
    refine h.flags false _ (by simp) ?_ ?_ (fun _ => ?_) (fun _ => rfl)
      fun hfin => ⟨?_, fun he => ?_⟩
    · simp [OtaCall.acceptedBy]
    · simp [OtaCall.closes, hclosings]
    · simpa using h.unaborted (.inl hactive)
    · have hresult : result = espOk := by simpa using hfin
      simp [hresult]
    · by_contra hne
      exact hshort ⟨he, hne⟩

theorem apply_activate_spec {log : List OtaCall} {u : BMXESP32OTAUpdate} (h : UpdateOk log u)
    (result : EspErr) : AppliedOk log u ((OtaRequest.activate result).apply (some u)) := by
  simp only [OtaRequest.apply, bmxEsp32OtaActivate]
  split_ifs with hunfinished
  · exact .error h _
  · have hfin : u.finished = true := by simpa using hunfinished
    obtain ⟨hended, hcomplete⟩ := h.accepted hfin
    refine .calls ⟨⟨hended, h.unaborted (.inr hfin), fun p e hmem => ?_⟩, trivial⟩
      (by simp [OtaCall.handle]) rfl ?_
    · obtain ⟨rfl, rfl⟩ := h.begun_unique p e hmem
      refine ⟨rfl, fun he => ?_⟩
      rw [← h.written_eq, hcomplete he]
    · refine h.flags u.active u.finished (by simp) ?_ ?_ ?_ h.inactive
        fun _ => ⟨List.mem_append_left _ hended, hcomplete⟩
      · simp [OtaCall.acceptedBy]
      · simp [OtaCall.closes, h.closings_eq]
      · simpa using h.unaborted

theorem apply_abort_spec {log : List OtaCall} {u : BMXESP32OTAUpdate} (h : UpdateOk log u)
    (result : EspErr) : AppliedOk log u ((OtaRequest.abort result).apply (some u)) := by
  simp only [OtaRequest.apply, bmxEsp32OtaAbort]
  split_ifs with hactive
  · have hclosings := h.open_of_active hactive
    refine .calls ⟨⟨_, _, h.begun⟩, ⟨⟨_, _, List.mem_append_left _ h.begun⟩, ?_⟩, trivial⟩
      (by simp [OtaCall.handle]) rfl ?_
    · simp [OtaCall.closes, hclosings]
    · refine h.flags false false (by simp) ?_ ?_ nofun (fun _ => rfl) nofun
      · simp [OtaCall.acceptedBy]
      · simp [OtaCall.closes, hclosings]
  · refine .calls ⟨⟨_, _, h.begun⟩, trivial⟩ (by simp [OtaCall.handle]) rfl ?_
    refine h.flags false false (by simp) ?_ ?_ nofun (fun _ => rfl) nofun
    · simp [OtaCall.acceptedBy]
    · simp [OtaCall.closes, h.closings_eq, hactive]

theorem apply_destroy_spec {log : List OtaCall} {u : BMXESP32OTAUpdate} (h : UpdateOk log u)
    (result : EspErr) : AppliedOk log u ((OtaRequest.destroy result).apply (some u)) := by
  simp only [OtaRequest.apply, bmxEsp32OtaDestroy]
  split_ifs with hactive
  · have hclosings := h.open_of_active hactive
    exact ⟨⟨⟨⟨_, _, h.begun⟩, hclosings⟩, trivial⟩, by simp [OtaCall.handle], nofun,
      fun _ => by simp [OtaCall.closes, hclosings]⟩
  · exact ⟨trivial, by simp, nofun, fun _ => by simp [h.closings_eq, hactive]⟩

/-- **One operation on a live object.** -/
theorem apply_spec {log : List OtaCall} {u : BMXESP32OTAUpdate} (h : UpdateOk log u)
    (r : OtaRequest) : AppliedOk log u (r.apply (some u)) := by
  cases r with
  | write data size result => exact apply_write_spec h data size result
  | finish result => exact apply_finish_spec h result
  | activate result => exact apply_activate_spec h result
  | abort result => exact apply_abort_spec h result
  | destroy result => exact apply_destroy_spec h result

/-- On the null pointer every operation makes no call and leaves the null pointer. -/
theorem apply_none (r : OtaRequest) : r.apply none = (none, []) := by
  cases r <;> rfl

/-! ### The whole system -/

/-- The invariant: the log is legal, live objects are in order and own the handle
of their number, a handle without a live object is closed, and later ones are unused. -/
structure OtaInv (updates : Nat → OtaPointer) (next : Nat) (log : List OtaCall) : Prop where
  legal : LegalAfter [] log
  alive : ∀ i u, updates i = some u → u.handle = i ∧ UpdateOk log u
  dead : ∀ h, updates h = none → Begun h log → closings h log = 1
  fresh : ∀ c ∈ log, c.handle < next
  allocated : ∀ i u, updates i = some u → i < next

/-- Replacing object `i` and making calls on handle `i` only is a local matter. -/
theorem OtaInv.update {updates : Nat → OtaPointer} {next next' i : Nat} {log calls : List OtaCall}
    {pointer : OtaPointer} (h : OtaInv updates next log) (hnext : next ≤ next') (hi : i < next')
    (hcalls : ∀ c ∈ calls, c.handle = i) (hlegal : LegalAfter log calls)
    (halive : ∀ u, pointer = some u → u.handle = i ∧ UpdateOk (log ++ calls) u)
    (hdead : pointer = none → Begun i (log ++ calls) → closings i (log ++ calls) = 1) :
    OtaInv (Function.update updates i pointer) next' (log ++ calls) where
  legal := h.legal.append hlegal
  alive j u hu := by
    by_cases hj : j = i
    · subst hj
      exact halive u (by simpa using hu)
    · rw [Function.update_of_ne hj] at hu
      obtain ⟨hhandle, hok⟩ := h.alive j u hu
      -- the calls are on another handle
      refine ⟨hhandle, hok.frame fun c hc => ?_⟩
      rw [hcalls c hc, hhandle]
      exact Ne.symm hj
  dead k hnone hbegun := by
    by_cases hk : k = i
    · subst hk
      exact hdead (by simpa using hnone) hbegun
    · rw [Function.update_of_ne hk] at hnone
      have hne : ∀ c ∈ calls, c.handle ≠ k := fun c hc => by
        rw [hcalls c hc]
        exact Ne.symm hk
      obtain ⟨q, e, hmem⟩ := hbegun
      rcases List.mem_append.mp hmem with hold | hnew
      · rw [closings_append, closings_of_ne hne, h.dead k hnone ⟨q, e, hold⟩]
      · exact absurd rfl (hne _ hnew)
  fresh c hc := by
    rcases List.mem_append.mp hc with hold | hnew
    · exact (h.fresh c hold).trans_le hnext
    · rwa [hcalls c hnew]
  allocated j u hu := by
    by_cases hj : j = i
    · rwa [hj]
    · rw [Function.update_of_ne hj] at hu
      exact (h.allocated j u hu).trans_le hnext

/-- A failed begin changes nothing but the recorded error; a successful one adds
an object on a fresh handle. -/
theorem begin_cases (expectedSize : UInt32) (partition : Option EspPartition) (alloc : Bool)
    (result : EspErr) (handle : Nat) :
    (∃ error, bmxEsp32OtaBegin expectedSize partition alloc result handle = (error, none, [])) ∨
      ∃ p, bmxEsp32OtaBegin expectedSize partition alloc result handle =
          (espOk, some ⟨handle, p, expectedSize, 0, espOk, true, false⟩,
            [.began handle p expectedSize]) := by
  rcases partition with - | p
  · exact .inl ⟨_, rfl⟩
  · simp only [bmxEsp32OtaBegin]
    split_ifs with _ _ hresult
    · exact .inl ⟨_, rfl⟩
    · exact .inl ⟨_, rfl⟩
    · exact .inl ⟨_, rfl⟩
    · obtain rfl : result = espOk := by simpa using hresult
      exact .inr ⟨p, rfl⟩

/-- A new object is in order. -/
theorem UpdateOk.began {log : List OtaCall} {handle : Nat} {p : EspPartition} {e : UInt32}
    (hunused : ∀ c ∈ log, c.handle ≠ handle) :
    UpdateOk (log ++ [.began handle p e]) ⟨handle, p, e, 0, espOk, true, false⟩ where
  begun := List.mem_append_right log List.mem_cons_self
  begun_unique q e' hmem := by
    rcases List.mem_append.mp hmem with hold | hnew
    · exact absurd rfl (hunused _ hold)
    · simp_all
  closings_eq := by simp [closings_of_ne hunused, OtaCall.closes]
  written_eq := by simp [acceptedBytes_of_ne hunused, OtaCall.acceptedBy]
  written_le_size := Nat.zero_le _
  written_le_expected _ := Nat.zero_le _
  unaborted _ hmem := by
    rcases List.mem_append.mp hmem with hold | hnew
    · exact absurd rfl (hunused _ hold)
    · simp at hnew
  inactive := nofun
  accepted := nofun

theorem otaInv_step {s : OtaSystem} (h : OtaInv s.updates s.next s.log) (a : OtaAction) :
    OtaInv (s.step a).updates (s.step a).next (s.step a).log := by
  cases a with
  | begin expectedSize partition alloc result =>
    have hunused : ∀ c ∈ s.log, c.handle ≠ s.next := fun c hc => Nat.ne_of_lt (h.fresh c hc)
    rcases begin_cases expectedSize partition alloc result s.next with ⟨error, he⟩ | ⟨p, he⟩
    · simp only [OtaSystem.step, he]
      refine h.update s.next.le_succ s.next.lt_succ_self (by simp) trivial nofun fun _ hb => ?_
      -- nothing was ever begun on a handle that is not allocated
      obtain ⟨q, e, hmem⟩ := hb
      exact absurd rfl (hunused _ (by simpa using hmem))
    · simp only [OtaSystem.step, he]
      refine h.update s.next.le_succ s.next.lt_succ_self (by simp [OtaCall.handle])
        ⟨hunused, trivial⟩ (fun u hu => ?_) nofun
      obtain rfl := Option.some.inj hu
      exact ⟨rfl, .began hunused⟩
  | request i r =>
    simp only [OtaSystem.step]
    rcases hi : s.updates i with - | u
    · have hupd : Function.update s.updates i none = s.updates := by
        rw [← hi, Function.update_eq_self]
      simpa only [apply_none, hupd, List.append_nil] using h
    · obtain ⟨rfl, hok⟩ := h.alive i u hi
      have hspec := apply_spec hok r
      exact h.update le_rfl (h.allocated _ u hi) hspec.handle hspec.legal hspec.alive
        fun hnone _ => hspec.dead hnone

theorem otaInv_of_reachable {s : OtaSystem} (h : otaMachine.Reachable s) :
    OtaInv s.updates s.next s.log := by
  refine h.invariant (I := fun s => OtaInv s.updates s.next s.log) (fun s₀ h₀ => ?_)
    fun s a s' hs _ hstep => ?_
  · obtain rfl := h₀
    exact ⟨trivial, nofun, fun _ _ ⟨_, _, hmem⟩ => absurd hmem List.not_mem_nil, nofun, nofun⟩
  · obtain rfl := Option.some.inj hstep
    exact otaInv_step hs a

/-- What the update objects and the driver calls of a system must satisfy. -/
structure OtaSafe (s : OtaSystem) : Prop where
  /-- The byte counter respects both bounds and counts the successful writes. -/
  written : ∀ i u, s.updates i = some u →
    u.written.toNat ≤ u.partition.size.toNat ∧
    (u.expectedSize ≠ 0 → u.written.toNat ≤ u.expectedSize.toNat) ∧
    u.written.toNat = acceptedBytes u.handle s.log
  /-- Neither size check underflows. -/
  no_underflow : ∀ i u, s.updates i = some u →
    (u.partition.size - u.written).toNat = u.partition.size.toNat - u.written.toNat ∧
    (u.expectedSize ≠ 0 →
      (u.expectedSize - u.written).toNat = u.expectedSize.toNat - u.written.toNat)
  /-- Every call was legal: boot selections of validated images only, and no use of
  a handle that was ended or aborted. -/
  legal : LegalLog s.log
  /-- A handle is closed at most once, and exactly once when its object is gone. -/
  closed : ∀ h, Begun h s.log → closings h s.log ≤ 1 ∧
    (s.updates h = none → closings h s.log = 1)

/-- **Application updates are safe** in every state of every run. -/
theorem ota_safe (s : OtaSystem) (h : otaMachine.Reachable s) : OtaSafe s := by
  have hinv := otaInv_of_reachable h
  refine ⟨fun i u hu => ?_, fun i u hu => ?_, hinv.legal.legalLog, fun k hk => ⟨?_, ?_⟩⟩
  · obtain ⟨-, hok⟩ := hinv.alive i u hu
    exact ⟨hok.written_le_size, hok.written_le_expected, hok.written_eq⟩
  · obtain ⟨-, hok⟩ := hinv.alive i u hu
    exact ⟨hok.size_sub, hok.expected_sub⟩
  · rcases hu : s.updates k with - | u
    · exact (hinv.dead k hu hk).le
    · obtain ⟨rfl, hok⟩ := hinv.alive k u hu
      rw [hok.closings_eq]
      split <;> omega
  · exact fun hnone => hinv.dead k hnone hk

/-- An update of four announced bytes, written, finished, activated and destroyed. -/
theorem ota_safe_four_bytes :
    OtaSafe (((((OtaSystem.boot.step (.begin 4 (some ⟨65536⟩) true espOk)).step
      (.request 0 (.write (some [1, 2, 3, 4]) 4 espOk))).step
      (.request 0 (.finish espOk))).step (.request 0 (.activate espOk))).step
      (.request 0 (.destroy espOk))) :=
  ota_safe _ (.step (.step (.step (.step (.step (.init rfl) trivial rfl) trivial rfl) trivial rfl)
    trivial rfl) trivial rfl)

end Esp32Mod
