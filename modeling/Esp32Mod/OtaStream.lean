/-
Esp32Mod/OtaStream.lean

`TESP32OTAUpdate.WriteStream` (`system.mod/ota.mod/ota.bmx`) copies a stream into an update: turn
by turn it reads into its buffer and writes what has come.

A stream is anything that answers reads, at most with what has been asked for; it may be finite or
not, and short whenever it likes.  The numbers have the widths of the source, `Long` for what
remains and `Int` for sizes.  What has been read and written is recorded beside.

Main result:

* `ota_stream` — what is asked of the stream, that the call returns, and what its result says
  about the bytes that the native writes have accepted.
-/
import Esp32Mod.Ota
import Esp32Mod.Buffer
import Mathlib.Logic.Relation

namespace Esp32Mod

open StepMachine Machine Buffer

/-! ### Streams -/

/-- `read s wanted` is what has been read, and the stream after it; `position` counts the bytes. -/
structure TStream (σ : Type*) where
  read : σ → Int32 → List UInt8 × σ
  position : σ → Nat
  read_length_le : ∀ s wanted, (read s wanted).1.length ≤ wanted.toNatClampNeg
  read_position : ∀ s wanted, position (read s wanted).2 = position s + (read s wanted).1.length

namespace TStream

variable {σ : Type*}

/-- `s'` is the stream after some reads. -/
def ReadsTo (S : TStream σ) : σ → σ → Prop :=
  Relation.ReflTransGen fun s s' => ∃ wanted, s' = (S.read s wanted).2

/-- However it is read, only so many bytes come. -/
def Finite (S : TStream σ) (s : σ) : Prop := ∃ limit, ∀ s', S.ReadsTo s s' → S.position s' ≤ limit

end TStream

/-! ### Writes -/

/-- `bmx_esp32_ota_written`. -/
def bmxEsp32OtaWritten (pointer : OtaPointer) : UInt32 :=
  match pointer with
  | none => 0
  | some update => update.written

/-- A call of `bmx_esp32_ota_write`: the bytes, and what it has returned. -/
structure NativeWrite where
  data : List UInt8
  result : EspErr

namespace TESP32OTAUpdate

/-- `Write` of memory; `result` is that of `esp_ota_write`. -/
def writeRaw (handle : OtaPointer) (data : Option (List UInt8)) (size : UInt32)
    (result : EspErr) : EspErr × OtaPointer × List NativeWrite :=
  let (error, handle) := (bmxEsp32OtaWrite handle data size result).1
  (error, handle, [⟨(data.getD []).take size.toNat, error⟩])

/-- `Write` of a byte array. -/
def write {length : Int32} (handle : OtaPointer) (data : Vector UInt8 length.toNatClampNeg)
    (offset count : Int32) (result : EspErr) : EspErr × OtaPointer × List NativeWrite :=
  if offset < 0 ∨ length < offset then (espErrInvalidArg, handle, [])
  else
    let count := if count < 0 then length - offset else count
    if count < 0 ∨ length - offset < count then (espErrInvalidArg, handle, [])
    else if count = 0 then writeRaw handle none 0 result
    else writeRaw handle (some (data.toList.drop offset.toNatClampNeg)) count.toUInt32 result

end TESP32OTAUpdate

/-! ### The loop -/

/-- The local variables of `WriteStream`, the update and the stream; the reads, each what has been
asked for and what has come; and the native writes. -/
structure StreamCopy (σ : Type*) (bufferSize : Int32) where
  handle : OtaPointer
  stream : σ
  buffer : Vector UInt8 bufferSize.toNatClampNeg
  remaining : Int64
  returned : Option EspErr
  reads : List (Int32 × List UInt8)
  writes : List NativeWrite

variable {σ : Type*} {bufferSize : Int32}

namespace StreamCopy

/-- Up to the loop; a null stream is `none`. -/
def begin (handle : OtaPointer) (stream : Option σ) (byteCount : Int64) (bufferSize : Int32) :
    Except EspErr (StreamCopy σ bufferSize) :=
  match stream with
  | none => .error espErrInvalidArg
  | some stream =>
    if byteCount < -1 ∨ bufferSize ≤ 0 then .error espErrInvalidArg
    else .ok ⟨handle, stream, Vector.replicate _ 0, byteCount, none, [], []⟩

/-- How much is asked for. -/
def wanted (c : StreamCopy σ bufferSize) : Int32 :=
  if 0 < c.remaining ∧ c.remaining < bufferSize.toInt64 then c.remaining.toInt32 else bufferSize

/-- One turn of the loop, with the test before it. -/
def turn (S : TStream σ) (c : StreamCopy σ bufferSize) (result : EspErr) :
    StreamCopy σ bufferSize :=
  if c.returned ≠ none then c
  else if c.remaining = 0 then { c with returned := some espOk }
  else
    let (bytes, stream) := S.read c.stream c.wanted
    let count := Int64.ofNat bytes.length
    let c : StreamCopy σ bufferSize := { c with
      stream, buffer := blit c.buffer 0 bytes, reads := c.reads ++ [(c.wanted, bytes)] }
    if count ≤ 0 then
      { c with returned := some (if 0 < c.remaining then espErrInvalidSize else espOk) }
    else
      let (error, handle, writes) :=
        TESP32OTAUpdate.write c.handle c.buffer 0 count.toInt32 result
      let c : StreamCopy σ bufferSize := { c with handle, writes := c.writes ++ writes }
      if error ≠ espOk then { c with returned := some error }
      else if 0 < c.remaining then { c with remaining := c.remaining - count } else c

/-- All bytes that have been read. -/
def consumed (c : StreamCopy σ bufferSize) : List UInt8 := c.reads.flatMap Prod.snd

/-- All bytes that native writes have accepted. -/
def accepted (c : StreamCopy σ bufferSize) : List UInt8 :=
  (c.writes.filter fun w => w.result = espOk).flatMap NativeWrite.data

/-- The stream has said that it ends. -/
def Ended (c : StreamCopy σ bufferSize) : Prop := ∃ wanted, (wanted, []) ∈ c.reads

end StreamCopy

/-- A call of `WriteStream`, with any results of `esp_ota_write`. -/
def streamCopyMachine (S : TStream σ) (handle : OtaPointer) (stream : σ) (byteCount : Int64)
    (bufferSize : Int32) : Machine (StreamCopy σ bufferSize) EspErr where
  init c := StreamCopy.begin handle (some stream) byteCount bufferSize = .ok c
  step c result := some (c.turn S result)

/-- After so many turns the call has returned, whatever the native results. -/
def ReturnsWithin (M : Machine (StreamCopy σ bufferSize) EspErr) (turns : Nat) : Prop :=
  ∀ start results c, M.init start → M.run start results = some c → turns ≤ results.length →
    c.returned ≠ none

/-- What holds of a call at any time, and what its result says. -/
structure StreamCopy.Spec (S : TStream σ) (handle : OtaPointer) (stream : σ) (byteCount : Int64)
    (c : StreamCopy σ bufferSize) : Prop where
  /-- No read asks for more than the buffer takes, or than is still wanted. -/
  asks : ∀ before wanted bytes after, c.reads = before ++ (wanted, bytes) :: after →
    0 < wanted ∧ wanted ≤ bufferSize ∧
      (0 ≤ byteCount → wanted.toInt + (before.flatMap Prod.snd).length ≤ byteCount.toInt)
  position : S.position c.stream = S.position stream + c.consumed.length
  within : 0 ≤ byteCount → c.consumed.length ≤ byteCount.toInt
  written : (bmxEsp32OtaWritten c.handle).toNat =
    (bmxEsp32OtaWritten handle).toNat + c.accepted.length
  /-- With a number of bytes, 0 says that so many have been read and written. -/
  counted : 0 ≤ byteCount → ∀ code, c.returned = some code →
    (code = espOk ↔ c.consumed.length = byteCount.toInt ∧ c.accepted = c.consumed)
  complete : 0 ≤ byteCount → c.returned = some espOk →
    (bmxEsp32OtaWritten c.handle).toNat =
      (bmxEsp32OtaWritten handle).toNat + byteCount.toInt.toNat ∧
    S.position c.stream = S.position stream + byteCount.toInt.toNat
  /-- Without one, that all have been, up to the end of the stream. -/
  toEnd : byteCount = -1 → ∀ code, c.returned = some code →
    (code = espOk ↔ c.Ended ∧ c.accepted = c.consumed)
  premature : 0 ≤ byteCount → c.Ended →
    c.returned = some espErrInvalidSize ∧ c.consumed.length < byteCount.toInt ∧
      c.accepted = c.consumed
  /-- A native write that fails is the last, and the others have been accepted. -/
  failing : ∀ w ∈ c.writes, w.result ≠ espOk → c.returned = some w.result ∧
    ∃ before, c.writes = before ++ [w] ∧ c.accepted = before.flatMap NativeWrite.data ∧
      (bmxEsp32OtaWritten c.handle).toNat =
        (bmxEsp32OtaWritten handle).toNat + (before.flatMap NativeWrite.data).length

/-! ### A native write -/

/-- What the update holds fits the partition. -/
def OtaInBounds (handle : OtaPointer) : Prop :=
  ∀ update, handle = some update → update.written ≤ update.partition.size

/-- A native write of `bytes` has returned `error`. -/
structure Wrote (handle : OtaPointer) (bytes : List UInt8) (error : EspErr)
    (handle' : OtaPointer) : Prop where
  bounds : OtaInBounds handle'
  written : (bmxEsp32OtaWritten handle').toNat =
    (bmxEsp32OtaWritten handle).toNat + if error = espOk then bytes.length else 0

theorem wrote_of_error {handle : OtaPointer} (h : OtaInBounds handle) (bytes : List UInt8)
    {error : EspErr} (herror : error ≠ espOk) :
    Wrote handle bytes error (bmxEsp32OtaError handle error).2 := by
  cases handle with
  | none => exact ⟨nofun, by rw [if_neg herror]; rfl⟩
  | some update =>
    refine ⟨?_, by rw [if_neg herror]; rfl⟩
    intro update' hupdate
    obtain rfl := Option.some.inj hupdate
    exact h update rfl

theorem otaWrite_wrote {handle : OtaPointer} (h : OtaInBounds handle) {bytes : List UInt8}
    (hlength : bytes.length < 2 ^ 32) (data : List UInt8) (result : EspErr) :
    Wrote handle bytes
      (bmxEsp32OtaWrite handle (some data) (UInt32.ofNat bytes.length) result).1.1
      (bmxEsp32OtaWrite handle (some data) (UInt32.ofNat bytes.length) result).1.2 := by
  have hstate : espErrInvalidState ≠ espOk := by decide
  have harg : espErrInvalidArg ≠ espOk := by decide
  have hfit : espErrInvalidSize ≠ espOk := by decide
  unfold bmxEsp32OtaWrite
  cases handle with
  | none => exact wrote_of_error h bytes hstate
  | some update =>
    dsimp only
    split_ifs with hinactive hnull hsize hexpected hresult
    · exact wrote_of_error h bytes hstate
    · exact wrote_of_error h bytes harg
    · exact wrote_of_error h bytes hfit
    · exact wrote_of_error h bytes hfit
    · -- there was room, so that the counter does not wrap
      have hbounds := h update rfl
      have hroom := UInt32.le_iff_toNat_le.mp (UInt32.not_lt.mp hsize)
      rw [UInt32.toNat_sub_of_le _ _ hbounds, UInt32.toNat_ofNat_of_lt' hlength] at hroom
      have hpartition := update.partition.size.toNat_lt
      have hle := UInt32.le_iff_toNat_le.mp hbounds
      have hsum : (update.written + UInt32.ofNat bytes.length).toNat =
          update.written.toNat + bytes.length := by
        rw [UInt32.toNat_add, UInt32.toNat_ofNat_of_lt' hlength, Nat.mod_eq_of_lt (by omega)]
      refine ⟨?_, ?_⟩
      · intro update' hupdate
        obtain rfl := Option.some.inj hupdate
        show update.written + _ ≤ update.partition.size
        rw [UInt32.le_iff_toNat_le, hsum]
        omega
      · subst hresult
        exact hsum
    · exact wrote_of_error h bytes hresult

/-- `Write` of a part of an array, from its beginning. -/
theorem write_prefix (handle : OtaPointer) (data : Vector UInt8 bufferSize.toNatClampNeg)
    {count : Int32} (hpos : 0 < count) (hle : count ≤ bufferSize) (result : EspErr) :
    TESP32OTAUpdate.write handle data 0 count result =
      TESP32OTAUpdate.writeRaw handle (some data.toList) count.toUInt32 result := by
  have hbuffer : ¬ bufferSize < 0 := Int32.not_lt.mpr (Int32.le_trans (Int32.le_of_lt hpos) hle)
  have hcount : ¬ count < 0 := Int32.not_lt.mpr (Int32.le_of_lt hpos)
  unfold TESP32OTAUpdate.write
  rw [if_neg (not_or.mpr ⟨by decide, hbuffer⟩)]
  dsimp only
  rw [if_neg hcount, Int32.sub_zero, if_neg (not_or.mpr ⟨hcount, Int32.not_lt.mpr hle⟩),
    if_neg (Int32.ne_of_lt hpos).symm]
  rfl

/-- The length of what has been read, as an `Int`. -/
theorem ofNat_length {bytes : List UInt8} (hbytes : bytes ≠ [])
    (hlength : bytes.length ≤ bufferSize.toNatClampNeg) :
    0 < Int32.ofNat bytes.length ∧ Int32.ofNat bytes.length ≤ bufferSize := by
  have hpos : 0 < bytes.length := List.length_pos_iff.mpr hbytes
  have hbuffer : 0 < bufferSize := by
    rw [← Int32.toNatClampNeg_pos_iff]
    exact hpos.trans_le hlength
  rw [Int32.lt_iff_toInt_lt, Int32.le_iff_toInt_le, Int32.toInt_zero,
    Int32.toInt_ofNat_of_lt (hlength.trans_lt bufferSize.toNatClampNeg_lt),
    Int32.toInt_eq_toNatClampNeg (Int32.le_of_lt hbuffer)]
  exact ⟨Int.natCast_pos.mpr hpos, Int.ofNat_le.mpr hlength⟩

/-- `Write` of what has just been read into the buffer. -/
theorem write_read {handle : OtaPointer} (h : OtaInBounds handle)
    (buffer : Vector UInt8 bufferSize.toNatClampNeg) {bytes : List UInt8} (hbytes : bytes ≠ [])
    (hlength : bytes.length ≤ bufferSize.toNatClampNeg) (result : EspErr) :
    ∃ error handle', Wrote handle bytes error handle' ∧
      TESP32OTAUpdate.write handle (blit buffer 0 bytes) 0 (Int64.ofNat bytes.length).toInt32
        result = (error, handle', [⟨bytes, error⟩]) := by
  have hsize : bytes.length < 2 ^ 32 :=
    (hlength.trans_lt bufferSize.toNatClampNeg_lt).trans (by decide)
  -- what the pointer shows is what has been read
  have hdata : (blit buffer 0 bytes).toList.take (UInt32.ofNat bytes.length).toNat = bytes := by
    rw [UInt32.toNat_ofNat_of_lt' hsize]
    exact ((starts_nil buffer).blit bytes (by simpa using hlength)).toList_take
  obtain ⟨hpos, hle⟩ := ofNat_length hbytes hlength
  refine ⟨_, _, otaWrite_wrote h hsize (blit buffer 0 bytes).toList result, ?_⟩
  rw [Int64.toInt32_ofNat', write_prefix _ _ hpos hle]
  simp only [TESP32OTAUpdate.writeRaw, Option.getD_some, hdata, Int32.toUInt32_ofNat']

/-! ### One turn -/

namespace StreamCopy

variable {S : TStream σ} {c c' : StreamCopy σ bufferSize}

theorem wanted_toInt (c : StreamCopy σ bufferSize) : c.wanted.toInt =
    if 0 < c.remaining.toInt ∧ c.remaining.toInt < bufferSize.toInt then c.remaining.toInt
    else bufferSize.toInt := by
  unfold wanted
  simp only [Int64.lt_iff_toInt_lt, Int32.toInt_toInt64, Int64.toInt_zero]
  split_ifs with h
  · have hlt := bufferSize.toInt_lt
    rw [Int64.toInt_toInt32, Int.bmod_eq_of_le] <;> omega
  · rfl

/-- A turn that reads `bytes`. -/
structure Reads (S : TStream σ) (c : StreamCopy σ bufferSize) (bytes : List UInt8)
    (c' : StreamCopy σ bufferSize) : Prop where
  going : c.returned = none
  left : c.remaining ≠ 0
  stream : S.read c.stream c.wanted = (bytes, c'.stream)
  reads : c'.reads = c.reads ++ [(c.wanted, bytes)]

/-- What a turn can do. -/
inductive Turned (S : TStream σ) (c c' : StreamCopy σ bufferSize) : Prop
  | idle (hreturned : c.returned ≠ none) (hsame : c' = c)
  | done (hgoing : c.returned = none) (hleft : c.remaining = 0)
      (hdone : c' = { c with returned := some espOk })
  | ended (hread : c.Reads S [] c') (hhandle : c'.handle = c.handle) (hwrites : c'.writes = c.writes)
      (hreturned : c'.returned = some (if 0 < c.remaining then espErrInvalidSize else espOk))
  | wrote {bytes : List UInt8} {error : EspErr} (hread : c.Reads S bytes c') (hbytes : bytes ≠ [])
      (hwrote : Wrote c.handle bytes error c'.handle)
      (hwrites : c'.writes = c.writes ++ [⟨bytes, error⟩])
      (hremaining : error = espOk → c'.remaining =
        if 0 < c.remaining then c.remaining - Int64.ofNat bytes.length else c.remaining)
      (hreturned : c'.returned = if error = espOk then none else some error)

theorem wanted_le (hbuffer : 0 < bufferSize) (c : StreamCopy σ bufferSize) :
    0 < c.wanted ∧ c.wanted ≤ bufferSize := by
  rw [Int32.lt_iff_toInt_lt, Int32.toInt_zero] at hbuffer
  rw [Int32.lt_iff_toInt_lt, Int32.le_iff_toInt_le, Int32.toInt_zero, wanted_toInt]
  split_ifs <;> omega

theorem turn_turned (hbuffer : 0 < bufferSize) (hbounds : OtaInBounds c.handle) (S : TStream σ)
    (result : EspErr) : Turned S c (c.turn S result) := by
  unfold turn
  -- the loop has been left; or nothing is left to copy; or the stream gives something or not
  by_cases hgoing : c.returned = none
  swap
  · rw [if_pos hgoing]
    exact .idle hgoing rfl
  rw [if_neg (not_not.mpr hgoing)]
  by_cases hleft : c.remaining = 0
  · rw [if_pos hleft]
    exact .done hgoing hleft rfl
  rw [if_neg hleft]
  -- a stream gives no more than it is asked for, which fits the buffer
  have hlength : (S.read c.stream c.wanted).1.length ≤ bufferSize.toNatClampNeg :=
    (S.read_length_le _ _).trans (Int32.toNatClampNeg_le (c.wanted_le hbuffer).2)
  have hcount : Int64.ofNat (S.read c.stream c.wanted).1.length ≤ 0 ↔
      (S.read c.stream c.wanted).1 = [] := by
    have hsize := hlength.trans_lt bufferSize.toNatClampNeg_lt
    rw [Int64.le_iff_toInt_le, Int64.toInt_ofNat_of_lt (by omega), Int64.toInt_zero,
      ← List.length_eq_zero_iff]
    omega
  dsimp only
  by_cases hread : (S.read c.stream c.wanted).1 = []
  · rw [if_pos (hcount.mpr hread)]
    refine .ended ⟨hgoing, hleft, ?_, ?_⟩ rfl rfl rfl
    · rw [← hread]
    · rw [hread]
  rw [if_neg fun h => hread (hcount.mp h)]
  obtain ⟨error, handle, hwrote, hwrite⟩ := write_read hbounds c.buffer hread hlength result
  rw [hwrite]
  by_cases herror : error = espOk
  · rw [if_neg (not_not.mpr herror)]
    split_ifs with hpositive
    · exact .wrote ⟨hgoing, hleft, rfl, rfl⟩ hread hwrote rfl (fun _ => (if_pos hpositive).symm)
        (hgoing.trans (if_pos herror).symm)
    · exact .wrote ⟨hgoing, hleft, rfl, rfl⟩ hread hwrote rfl (fun _ => (if_neg hpositive).symm)
        (hgoing.trans (if_pos herror).symm)
  · rw [if_pos herror]
    exact .wrote ⟨hgoing, hleft, rfl, rfl⟩ hread hwrote rfl (fun h => absurd h herror)
      (if_neg herror).symm

/-! ### What the turns keep -/

/-- All native writes have been accepted, hence all bytes that have been read. -/
structure Clean (c : StreamCopy σ bufferSize) : Prop where
  writes : ∀ w ∈ c.writes, w.result = espOk
  bytes : c.accepted = c.consumed

/-- Where a call stands: in its loop, or how it has returned. -/
inductive Phase (byteCount : Int64) (c : StreamCopy σ bufferSize) : Prop
  | going (hreturned : c.returned = none) (hclean : c.Clean) (hgoes : ¬ c.Ended)
      (hleft : c.remaining.toInt =
        if 0 ≤ byteCount.toInt then byteCount.toInt - c.consumed.length else -1)
  | done (hreturned : c.returned = some espOk) (hclean : c.Clean) (hgoes : ¬ c.Ended)
      (hcount : c.consumed.length = byteCount.toInt)
  | ended (hreturned : c.returned = some (if 0 ≤ byteCount.toInt then espErrInvalidSize else espOk))
      (hclean : c.Clean) (hended : c.Ended)
      (hcount : 0 ≤ byteCount.toInt → c.consumed.length < byteCount.toInt)
  | failed {before : List NativeWrite} {w : NativeWrite} (hwrites : c.writes = before ++ [w])
      (hbefore : ∀ w' ∈ before, w'.result = espOk) (hfailed : w.result ≠ espOk)
      (hreturned : c.returned = some w.result) (hgoes : ¬ c.Ended)
      (hlost : c.accepted ≠ c.consumed)

/-- The invariant. -/
structure Inv (S : TStream σ) (handle : OtaPointer) (stream : σ) (byteCount : Int64)
    (c : StreamCopy σ bufferSize) : Prop where
  bounds : OtaInBounds c.handle
  reached : S.ReadsTo stream c.stream
  asks : ∀ before wanted bytes after, c.reads = before ++ (wanted, bytes) :: after →
    0 < wanted ∧ wanted ≤ bufferSize ∧ (0 ≤ byteCount.toInt →
      wanted.toInt + (before.flatMap Prod.snd).length ≤ byteCount.toInt)
  position : S.position c.stream = S.position stream + c.consumed.length
  within : 0 ≤ byteCount.toInt → c.consumed.length ≤ byteCount.toInt
  written : (bmxEsp32OtaWritten c.handle).toNat =
    (bmxEsp32OtaWritten handle).toNat + c.accepted.length
  phase : c.Phase byteCount

variable {handle : OtaPointer} {stream : σ} {byteCount : Int64}

theorem accepted_wrote {w : NativeWrite} (h : c'.writes = c.writes ++ [w]) :
    c'.accepted = c.accepted ++ if w.result = espOk then w.data else [] := by
  rw [accepted, h, List.filter_append, List.flatMap_append]
  by_cases hw : w.result = espOk
  · rw [List.filter_singleton, decide_eq_true hw, if_pos hw]
    exact congrArg _ (List.flatMap_singleton _ _)
  · rw [List.filter_singleton, decide_eq_false hw, if_neg hw]
    rfl

/-- A call that has not returned is in its loop. -/
theorem Phase.loop (h : c.Phase byteCount) (hgoing : c.returned = none) :
    c.Clean ∧ ¬ c.Ended ∧ c.remaining.toInt =
      if 0 ≤ byteCount.toInt then byteCount.toInt - c.consumed.length else -1 := by
  cases h with
  | going _ hclean hgoes hleft => exact ⟨hclean, hgoes, hleft⟩
  | done hreturned => exact absurd (hgoing.symm.trans hreturned) nofun
  | ended hreturned => exact absurd (hgoing.symm.trans hreturned) nofun
  | failed _ _ _ hreturned => exact absurd (hgoing.symm.trans hreturned) nofun

/-- What is asked for is still wanted. -/
theorem Inv.wanted_within (h : c.Inv S handle stream byteCount) (hgoing : c.returned = none)
    (hleft : c.remaining ≠ 0) (hcount : 0 ≤ byteCount.toInt) :
    c.wanted.toInt + c.consumed.length ≤ byteCount.toInt := by
  obtain ⟨-, -, hremaining⟩ := h.phase.loop hgoing
  rw [if_pos hcount] at hremaining
  have hwithin := h.within hcount
  have hzero : c.remaining.toInt ≠ 0 := fun h => hleft (Int64.toInt_inj.mp h)
  rw [wanted_toInt]
  split_ifs <;> omega

/-- In the loop, something is wanted: a positive number if they are counted. -/
theorem Inv.remaining_pos_iff (h : c.Inv S handle stream byteCount) (hgoing : c.returned = none)
    (hleft : c.remaining ≠ 0) : 0 < c.remaining ↔ 0 ≤ byteCount.toInt := by
  obtain ⟨-, -, hremaining⟩ := h.phase.loop hgoing
  have hzero : c.remaining.toInt ≠ 0 := fun h => hleft (Int64.toInt_inj.mp h)
  rw [Int64.lt_iff_toInt_lt, Int64.toInt_zero]
  by_cases hcount : 0 ≤ byteCount.toInt
  · have hwithin := h.within hcount
    rw [if_pos hcount] at hremaining
    exact iff_of_true (by omega) hcount
  · rw [if_neg hcount] at hremaining
    exact iff_of_false (by omega) hcount

section Reads

variable {bytes : List UInt8}

theorem Reads.ended_iff (hread : c.Reads S bytes c') : c'.Ended ↔ c.Ended ∨ bytes = [] := by
  simp only [Ended, hread.reads, List.mem_append, List.mem_singleton, Prod.mk.injEq, exists_or]
  refine or_congr_right ⟨fun ⟨_, _, hbytes⟩ => hbytes.symm, fun hbytes => ?_⟩
  exact ⟨c.wanted, rfl, hbytes.symm⟩

theorem Reads.consumed (hread : c.Reads S bytes c') : c'.consumed = c.consumed ++ bytes := by
  rw [StreamCopy.consumed, hread.reads, List.flatMap_append, List.flatMap_singleton]
  rfl

theorem Reads.length_le (hread : c.Reads S bytes c') (hbuffer : 0 < bufferSize) :
    (bytes.length : Int) ≤ c.wanted.toInt := by
  have hlength := S.read_length_le c.stream c.wanted
  rw [hread.stream] at hlength
  rw [Int32.toInt_eq_toNatClampNeg (Int32.le_of_lt (c.wanted_le hbuffer).1)]
  exact Int.ofNat_le.mpr hlength

/-- A read keeps what the invariant says about the stream. -/
theorem Inv.read (h : c.Inv S handle stream byteCount) (hbuffer : 0 < bufferSize)
    (hread : c.Reads S bytes c') (hbounds : OtaInBounds c'.handle)
    (hwritten : (bmxEsp32OtaWritten c'.handle).toNat =
      (bmxEsp32OtaWritten handle).toNat + c'.accepted.length)
    (hphase : c'.Phase byteCount) : c'.Inv S handle stream byteCount := by
  have hstream : (S.read c.stream c.wanted).2 = c'.stream := congrArg Prod.snd hread.stream
  have hbytes : (S.read c.stream c.wanted).1 = bytes := congrArg Prod.fst hread.stream
  refine ⟨hbounds, h.reached.tail ⟨c.wanted, hstream.symm⟩, ?_, ?_, ?_, hwritten, hphase⟩
  · intro before wanted bytes' after hsplit
    rw [hread.reads] at hsplit
    rcases List.eq_nil_or_concat after with rfl | ⟨after, last, rfl⟩
    · obtain ⟨rfl, hlast⟩ := List.append_inj' hsplit rfl
      obtain ⟨rfl, -⟩ := Prod.mk.inj (List.singleton_inj.mp hlast)
      obtain ⟨hpos, hle⟩ := c.wanted_le hbuffer
      exact ⟨hpos, hle, h.wanted_within hread.going hread.left⟩
    · rw [List.concat_eq_append, ← List.cons_append, ← List.append_assoc] at hsplit
      exact h.asks _ _ _ _ (List.append_inj' hsplit rfl).1
  · rw [← hstream, S.read_position, h.position, hread.consumed, List.length_append, hbytes,
      Nat.add_assoc]
  · intro hcount
    have hwithin := h.wanted_within hread.going hread.left hcount
    have hle := hread.length_le hbuffer
    rw [hread.consumed, List.length_append]
    omega

end Reads

/-- What remains after an accepted write is what is still wanted. -/
theorem Inv.remaining_wrote (h : c.Inv S handle stream byteCount) (hbuffer : 0 < bufferSize)
    {bytes : List UInt8} (hread : c.Reads S bytes c')
    (hremaining : c'.remaining =
      if 0 < c.remaining then c.remaining - Int64.ofNat bytes.length else c.remaining) :
    c'.remaining.toInt =
      if 0 ≤ byteCount.toInt then byteCount.toInt - c'.consumed.length else -1 := by
  obtain ⟨-, -, hleft⟩ := h.phase.loop hread.going
  have hpos := h.remaining_pos_iff hread.going hread.left
  rw [hremaining, hread.consumed, List.length_append]
  by_cases hcount : 0 ≤ byteCount.toInt
  · have hwithin := h.wanted_within hread.going hread.left hcount
    have hle := hread.length_le hbuffer
    have hlt := byteCount.toInt_lt
    rw [if_pos hcount] at hleft ⊢
    rw [if_pos (hpos.mpr hcount), Int64.toInt_sub, Int64.toInt_ofNat_of_lt (by omega), hleft,
      Int.bmod_eq_of_le (by omega) (by omega)]
    omega
  · rw [if_neg hcount] at hleft ⊢
    rw [if_neg fun h => hcount (hpos.mp h), hleft]

theorem Inv.turned (h : c.Inv S handle stream byteCount) (hbuffer : 0 < bufferSize)
    (hturned : Turned S c c') : c'.Inv S handle stream byteCount := by
  -- one case for each way a turn of the loop can go
  cases hturned with
  | idle _ hsame => exact hsame ▸ h
  | done hgoing hleft hdone =>
    obtain ⟨hclean, hgoes, hremaining⟩ := h.phase.loop hgoing
    subst hdone
    refine ⟨h.bounds, h.reached, h.asks, h.position, h.within, h.written,
      .done rfl ⟨hclean.writes, hclean.bytes⟩ hgoes ?_⟩
    rw [hleft, Int64.toInt_zero] at hremaining
    show (c.consumed.length : Int) = byteCount.toInt
    split_ifs at hremaining
    omega
  | ended hread hhandle hwrites hreturned =>
    obtain ⟨hclean, -, hremaining⟩ := h.phase.loop hread.going
    have hpos := h.remaining_pos_iff hread.going hread.left
    -- the stream has ended: nothing was read and nothing written
    have haccepted : c'.accepted = c.accepted := by rw [accepted, hwrites, accepted]
    have hconsumed : c'.consumed = c.consumed := by rw [hread.consumed, List.append_nil]
    have hclean' : c'.Clean := by
      refine ⟨?_, by rw [haccepted, hconsumed, hclean.bytes]⟩
      rw [hwrites]
      exact hclean.writes
    apply h.read hbuffer hread (hhandle ▸ h.bounds)
    · rw [hhandle, haccepted]
      exact h.written
    · refine .ended ?_ hclean' (hread.ended_iff.mpr (.inr rfl)) fun hcount => ?_
      · simp only [hreturned, hpos]
      · rw [if_pos hcount] at hremaining
        have hpositive := hpos.mpr hcount
        rw [Int64.lt_iff_toInt_lt, Int64.toInt_zero] at hpositive
        rw [hconsumed]
        omega
  | @wrote bytes error hread hbytes hwrote hwrites hremaining hreturned =>
    obtain ⟨hclean, hgoes, -⟩ := h.phase.loop hread.going
    have haccepted := accepted_wrote hwrites
    have hgoes' : ¬ c'.Ended := fun hended => (hread.ended_iff.mp hended).elim hgoes hbytes
    apply h.read hbuffer hread hwrote.bounds
    · rw [hwrote.written, h.written, haccepted, List.length_append]
      split_ifs
      · exact Nat.add_assoc ..
      · rfl
    -- the bytes count as accepted only if the write succeeded
    by_cases herror : error = espOk
    · rw [if_pos herror] at haccepted hreturned
      refine .going hreturned ⟨?_, ?_⟩ hgoes' ?_
      · rw [hwrites]
        intro w hw
        rcases List.mem_append.mp hw with hw | hw
        · exact hclean.writes w hw
        · rw [List.mem_singleton.mp hw]
          exact herror
      · rw [haccepted, hread.consumed, hclean.bytes]
      · exact h.remaining_wrote hbuffer hread (hremaining herror)
    · rw [if_neg herror] at haccepted hreturned
      refine .failed hwrites hclean.writes herror hreturned hgoes' fun hall => hbytes ?_
      rw [haccepted, hread.consumed, hclean.bytes, List.append_nil] at hall
      exact List.append_right_eq_self.mp hall.symm

/-! ### Whole calls -/

theorem begin_ok_iff : begin handle (some stream) byteCount bufferSize = .ok c ↔
    (-1 ≤ byteCount ∧ 0 < bufferSize) ∧
      c = ⟨handle, stream, Vector.replicate _ 0, byteCount, none, [], []⟩ := by
  unfold begin
  dsimp only
  split_ifs with hrefused
  · refine iff_of_false nofun fun h => ?_
    exact hrefused.elim (Int64.not_lt.mpr h.1.1) (Int32.not_le.mpr h.1.2)
  · obtain ⟨hcount, hbuffer⟩ := not_or.mp hrefused
    rw [Except.ok.injEq, eq_comm]
    exact (and_iff_right ⟨Int64.not_lt.mp hcount, Int32.not_le.mp hbuffer⟩).symm

theorem inv_begin (hbounds : OtaInBounds handle)
    (h : begin handle (some stream) byteCount bufferSize = .ok c) :
    c.Inv S handle stream byteCount := by
  obtain ⟨⟨hcount, -⟩, rfl⟩ := begin_ok_iff.mp h
  have hcount' := Int64.le_iff_toInt_le.mp hcount
  have hminus : (-1 : Int64).toInt = -1 := by decide
  refine ⟨hbounds, .refl, ?_, rfl, id, rfl,
    .going rfl ⟨nofun, rfl⟩ (fun ⟨_, hmem⟩ => absurd hmem List.not_mem_nil) ?_⟩
  · intro before wanted bytes after hsplit
    exact absurd (congrArg List.length hsplit) (by simp)
  · show byteCount.toInt = if 0 ≤ byteCount.toInt then byteCount.toInt - 0 else -1
    split_ifs <;> omega

theorem reachable_inv (hbounds : OtaInBounds handle) (hbuffer : 0 < bufferSize)
    (h : (streamCopyMachine S handle stream byteCount bufferSize).Reachable c) :
    c.Inv S handle stream byteCount := by
  apply h.invariant (I := fun c => c.Inv S handle stream byteCount)
  · exact fun c hbegin => inv_begin hbounds hbegin
  · intro c result c' hinv _ hstep
    obtain rfl := Option.some.inj hstep
    exact hinv.turned hbuffer (turn_turned hbuffer hinv.bounds S result)

/-- The last write has failed. -/
theorem accepted_of_failed {before : List NativeWrite} {w : NativeWrite}
    (hwrites : c.writes = before ++ [w]) (hbefore : ∀ w' ∈ before, w'.result = espOk)
    (hfailed : w.result ≠ espOk) : c.accepted = before.flatMap NativeWrite.data := by
  have hall : (before.filter fun w => w.result = espOk) = before :=
    List.filter_eq_self.mpr fun w hw => decide_eq_true (hbefore w hw)
  rw [accepted, hwrites, List.filter_append, hall, List.filter_singleton, decide_eq_false hfailed]
  exact congrArg _ (List.append_nil before)

/-- The result, if the bytes are counted. -/
theorem Phase.counted (h : c.Phase byteCount) (hcount : 0 ≤ byteCount.toInt) {code : EspErr}
    (hcode : c.returned = some code) :
    code = espOk ↔ c.consumed.length = byteCount.toInt ∧ c.accepted = c.consumed := by
  cases h with
  | going hreturned => exact absurd (hreturned.symm.trans hcode) nofun
  | done hreturned hclean _ hlength =>
    exact iff_of_true (Option.some.inj (hcode.symm.trans hreturned)) ⟨hlength, hclean.bytes⟩
  | ended hreturned _ _ hlength =>
    rw [if_pos hcount] at hreturned
    obtain rfl := Option.some.inj (hcode.symm.trans hreturned)
    exact iff_of_false (by decide) fun hall => absurd hall.1 (Int.ne_of_lt (hlength hcount))
  | failed _ _ hfailed hreturned _ hlost =>
    obtain rfl := Option.some.inj (hcode.symm.trans hreturned)
    exact iff_of_false hfailed fun hall => hlost hall.2

/-- The result, if all bytes are wanted. -/
theorem Phase.toEnd (h : c.Phase byteCount) (hcount : ¬ 0 ≤ byteCount.toInt) {code : EspErr}
    (hcode : c.returned = some code) :
    code = espOk ↔ c.Ended ∧ c.accepted = c.consumed := by
  cases h with
  | going hreturned => exact absurd (hreturned.symm.trans hcode) nofun
  | done _ _ _ hlength => exact absurd (hlength ▸ Int.natCast_nonneg _) hcount
  | ended hreturned hclean hended =>
    rw [if_neg hcount] at hreturned
    exact iff_of_true (Option.some.inj (hcode.symm.trans hreturned)) ⟨hended, hclean.bytes⟩
  | failed _ _ hfailed hreturned _ hlost =>
    obtain rfl := Option.some.inj (hcode.symm.trans hreturned)
    exact iff_of_false hfailed fun hall => hlost hall.2

theorem Phase.premature (h : c.Phase byteCount) (hcount : 0 ≤ byteCount.toInt) (hended : c.Ended) :
    c.returned = some espErrInvalidSize ∧ c.consumed.length < byteCount.toInt ∧
      c.accepted = c.consumed := by
  cases h with
  | going _ _ hgoes => exact absurd hended hgoes
  | done _ _ hgoes => exact absurd hended hgoes
  | ended hreturned hclean _ hlength =>
    rw [if_pos hcount] at hreturned
    exact ⟨hreturned, hlength hcount, hclean.bytes⟩
  | failed _ _ _ _ hgoes => exact absurd hended hgoes

theorem Phase.failing (h : c.Phase byteCount) {w : NativeWrite} (hw : w ∈ c.writes)
    (hbad : w.result ≠ espOk) : c.returned = some w.result ∧
      ∃ before, c.writes = before ++ [w] ∧ c.accepted = before.flatMap NativeWrite.data := by
  cases h with
  | going _ hclean => exact absurd (hclean.writes w hw) hbad
  | done _ hclean => exact absurd (hclean.writes w hw) hbad
  | ended _ hclean => exact absurd (hclean.writes w hw) hbad
  | @failed before w' hwrites hbefore hfailed hreturned =>
    rw [hwrites] at hw
    rcases List.mem_append.mp hw with hw | hw
    · exact absurd (hbefore w hw) hbad
    obtain rfl := List.mem_singleton.mp hw
    exact ⟨hreturned, before, hwrites, accepted_of_failed hwrites hbefore hfailed⟩

theorem Inv.spec (h : c.Inv S handle stream byteCount) : c.Spec S handle stream byteCount := by
  have hnonneg : 0 ≤ byteCount ↔ 0 ≤ byteCount.toInt := by
    rw [Int64.le_iff_toInt_le, Int64.toInt_zero]
  refine ⟨?_, h.position, ?_, h.written, ?_, ?_, ?_, ?_, ?_⟩
  · rw [hnonneg]
    exact h.asks
  · rw [hnonneg]
    exact h.within
  · exact fun hcount code hcode => h.phase.counted (hnonneg.mp hcount) hcode
  · intro hcount hreturned
    obtain ⟨hlength, hall⟩ := (h.phase.counted (hnonneg.mp hcount) hreturned).mp rfl
    rw [h.written, h.position, hall, ← hlength]
    exact ⟨rfl, rfl⟩
  · rintro rfl code hcode
    exact h.phase.toEnd (by decide) hcode
  · exact fun hcount hended => h.phase.premature (hnonneg.mp hcount) hended
  · intro w hw hbad
    obtain ⟨hreturned, before, hwrites, haccepted⟩ := h.phase.failing hw hbad
    exact ⟨hreturned, before, hwrites, haccepted, haccepted ▸ h.written⟩

/-! ### The call returns -/

theorem returned_run {results : List EspErr} (hreturned : c.returned ≠ none)
    (hrun : (streamCopyMachine S handle stream byteCount bufferSize).run c results = some c') :
    c'.returned ≠ none := by
  induction results generalizing c with
  | nil =>
    obtain rfl := Option.some.inj hrun
    exact hreturned
  | cons result results ih =>
    have hturn : c.turn S result = c := if_pos hreturned
    rw [run_cons rfl, hturn] at hrun
    exact ih hreturned hrun

/-- Every turn after which the call goes on has read something. -/
theorem Inv.run_grows {results : List EspErr} (h : c.Inv S handle stream byteCount)
    (hbuffer : 0 < bufferSize)
    (hrun : (streamCopyMachine S handle stream byteCount bufferSize).run c results = some c')
    (hgoing : c'.returned = none) :
    c.consumed.length + results.length ≤ c'.consumed.length := by
  induction results generalizing c with
  | nil =>
    obtain rfl := Option.some.inj hrun
    exact Nat.le_refl _
  | cons result results ih =>
    have hturned := turn_turned hbuffer h.bounds S result
    rw [run_cons rfl] at hrun
    have hgrows := ih (h.turned hbuffer hturned) hrun
    have hloop : (c.turn S result).returned = none :=
      by_contra fun hreturned => returned_run hreturned hrun hgoing
    rw [List.length_cons]
    cases hturned with
    | idle hreturned hsame => exact absurd (hsame ▸ hloop) hreturned
    | done _ _ hdone =>
      rw [hdone] at hloop
      exact nomatch hloop
    | ended _ _ _ hreturned => exact absurd (hloop.symm.trans hreturned) nofun
    | wrote hread hbytes =>
      rw [hread.consumed, List.length_append] at hgrows
      have hpos := List.length_pos_iff.mpr hbytes
      omega

theorem returnsWithin (hbounds : OtaInBounds handle) (hbuffer : 0 < bufferSize) {limit : Nat}
    (hlimit : ∀ c, (streamCopyMachine S handle stream byteCount bufferSize).Reachable c →
      c.consumed.length ≤ limit) :
    ReturnsWithin (streamCopyMachine S handle stream byteCount bufferSize) (limit + 1) := by
  intro start results c hbegin hrun hturns hgoing
  have hgrows := (inv_begin hbounds hbegin).run_grows hbuffer hrun hgoing
  have hle := hlimit c (reachable_of_run hbegin hrun)
  omega

end StreamCopy

open StreamCopy

/-- The update objects of the application fit their partitions. -/
theorem inBounds_reachable {s : OtaSystem} (h : otaMachine.Reachable s) (i : Nat) :
    OtaInBounds (s.updates i) := by
  intro update hupdate
  obtain ⟨-, hok⟩ := (otaInv_of_reachable h).alive i update hupdate
  exact UInt32.le_iff_toNat_le.mpr hok.written_le_size

/-- **Copying a stream**: with a number of bytes or a finite stream the call returns; it reads no
more than is wanted, and its result says what the native writes have accepted. -/
theorem ota_stream (S : TStream σ) {s : OtaSystem} (h : otaMachine.Reachable s) (i : Nat)
    (stream : σ) (byteCount : Int64) (hcount : -1 ≤ byteCount) (bufferSize : Int32)
    (hbuffer : 1 ≤ bufferSize) :
    (∃ c, (streamCopyMachine S (s.updates i) stream byteCount bufferSize).init c) ∧
    (∀ c, (streamCopyMachine S (s.updates i) stream byteCount bufferSize).Reachable c →
      c.Spec S (s.updates i) stream byteCount) ∧
    (S.Finite stream ∨ 0 ≤ byteCount → ∃ turns,
      ReturnsWithin (streamCopyMachine S (s.updates i) stream byteCount bufferSize) turns) := by
  have hbounds := inBounds_reachable h i
  have hpos : 0 < bufferSize := by
    have hone := Int32.le_iff_toInt_le.mp hbuffer
    rw [Int32.lt_iff_toInt_lt, Int32.toInt_zero]
    exact Int.lt_of_lt_of_le (by decide) hone
  refine ⟨⟨_, begin_ok_iff.mpr ⟨⟨hcount, hpos⟩, rfl⟩⟩,
    fun c hc => (reachable_inv hbounds hpos hc).spec, ?_⟩
  rintro (⟨limit, hlimit⟩ | hnonneg)
  · refine ⟨limit + 1, returnsWithin hbounds hpos fun c hc => ?_⟩
    have hinv := reachable_inv hbounds hpos hc
    have hle := hlimit _ hinv.reached
    rw [hinv.position] at hle
    omega
  · refine ⟨byteCount.toInt.toNat + 1, returnsWithin hbounds hpos fun c hc => ?_⟩
    have hle := (reachable_inv hbounds hpos hc).spec.within hnonneg
    omega

/-- A stream of these bytes, which gives all that is asked for. -/
def listStream : TStream (Nat × List UInt8) where
  read s wanted :=
    let bytes := s.2.take wanted.toNatClampNeg
    (bytes, (s.1 + bytes.length, s.2.drop wanted.toNatClampNeg))
  position := Prod.fst
  read_length_le _ _ := List.length_take_le ..
  read_position _ _ := rfl

/-- An update of four announced bytes. -/
def fourByteUpdate : OtaSystem := OtaSystem.boot.step (.begin 4 (some ⟨65536⟩) true espOk)

/-- Four of five bytes, through a buffer of three. -/
theorem ota_stream_four_bytes : ∃ c,
    (streamCopyMachine listStream (fourByteUpdate.updates 0) (0, [1, 2, 3, 4, 5]) 4 3).Reachable c ∧
    c.returned = some espOk ∧ c.accepted = [1, 2, 3, 4] ∧ c.stream = (4, [5]) := by
  obtain ⟨-, hspec, -⟩ := ota_stream listStream (s := fourByteUpdate)
    (.step (.init rfl) trivial rfl) 0 (0, [1, 2, 3, 4, 5]) 4 (by decide) 3 (by decide)
  have hbegun : (streamCopyMachine listStream (fourByteUpdate.updates 0) (0, [1, 2, 3, 4, 5]) 4
      3).Reachable _ := .init rfl
  have hreach := ReachableIn.step (a := espOk) (.step (a := espOk) (.step (a := espOk) hbegun
    trivial rfl) trivial rfl) trivial rfl
  have hreturned := ((hspec _ hreach).counted (by decide) espOk rfl).mp rfl
  exact ⟨_, hreach, rfl, hreturned.2, rfl⟩

end Esp32Mod
