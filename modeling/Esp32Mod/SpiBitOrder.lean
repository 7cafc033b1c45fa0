/-
Esp32Mod/SpiBitOrder.lean

What a 16-bit transfer puts on the wire.  The driver sends the bytes of a buffer in ascending
order, and the bits of each in the order that the flag `SPI_DEVICE_BIT_LSBFIRST` of the device
says; it receives in the same order.  The flag comes from the bit order that `set_format` has been
given.

On a little-endian machine the low byte of a word comes first.  That is right when the least
significant bit is to come first, and swaps the bytes of every word otherwise (`wordBits_eq`).

Main results:

* `spi_bit_order` — when the words are right on the wire, and after it;
* `spi_bit_order_swapped` — a word that goes out wrong.
-/
import Esp32Mod.SpiTiling
import Mathlib.Data.List.Basic

namespace Esp32Mod

open StepMachine Machine Checked

/-! ### The wire -/

/-- The bits of a byte, in the order of time. -/
def byteBits (lsbFirst : Bool) (x : UInt8) : List Bool :=
  (List.range 8).map fun i => x.toBitVec.getLsbD (if lsbFirst = true then i else 7 - i)

/-- The bits of a word from the most to the least significant, and with bit order 0 from the least
to the most. -/
def wordBits (bitOrder : UInt32) (w : UInt16) : List Bool :=
  (List.range 16).map fun i => w.toBitVec.getLsbD (if bitOrder = 0 then i else 15 - i)

/-- The flag of the recorded device. -/
def SpiController.lsbFirst (c : SpiController) : Bool :=
  (c.host.attached.find? fun d => c.state.device == some d.handle).elim false
    fun d => d.config.lsbFirst

/-- Words in memory. -/
def wordMemory (words : List UInt16) : List UInt8 := words.flatMap wordBytes

/-- Both bytes of the word are the same. -/
def SameBytes (w : UInt16) : Prop := w.toUInt8 = (w >>> 8).toUInt8

/-- The word with its bytes swapped. -/
def swapBytes (w : UInt16) : UInt16 := w <<< 8 ||| w >>> 8

/-! ### Bits of words -/

theorem wordBytes_swapBytes (w : UInt16) :
    wordBytes (swapBytes w) = [(w >>> 8).toUInt8, w.toUInt8] := by
  have hlow : (swapBytes w).toUInt8 = (w >>> 8).toUInt8 := by
    apply UInt8.toBitVec_inj.mp
    apply BitVec.eq_of_getLsbD_eq
    intro i hi
    simp [swapBytes, hi]
  have hhigh : (swapBytes w >>> 8).toUInt8 = w.toUInt8 := by
    apply UInt8.toBitVec_inj.mp
    apply BitVec.eq_of_getLsbD_eq
    intro i hi
    have htop : w.toBitVec.getLsbD (8 + (8 + i)) = false := BitVec.getLsbD_of_ge _ _ (by omega)
    simp [swapBytes, htop, hi, show 8 + i < 16 by omega, show ¬ 8 + i < 8 by omega,
      -BitVec.getLsbD_eq_getElem]
  rw [wordBytes, hlow, hhigh]

theorem wordBits_lsb (w : UInt16) : wordBits 0 w = (wordBytes w).flatMap (byteBits true) := by
  simp [wordBits, wordBytes, byteBits, List.range, List.range.loop]

theorem wordBits_msb (w : UInt16) :
    wordBits 1 w = (wordBytes (swapBytes w)).flatMap (byteBits false) := by
  simp [wordBits, wordBytes, swapBytes, byteBits, List.range, List.range.loop]

theorem byteBits_injective (lsbFirst : Bool) : Function.Injective (byteBits lsbFirst) := by
  intro x y h
  apply UInt8.toBitVec_inj.mp
  apply BitVec.eq_of_getLsbD_eq
  intro i hi
  have hbits := List.map_inj_left.mp h
  cases lsbFirst with
  | true => exact hbits i (List.mem_range.mpr hi)
  | false =>
    have hi' := hbits (7 - i) (List.mem_range.mpr (by omega))
    rw [if_neg Bool.false_ne_true, show 7 - (7 - i) = i by omega] at hi'
    exact hi'

theorem wordBytes_injective : Function.Injective wordBytes := by
  intro w w' h
  obtain ⟨hlow, hhigh, -⟩ : w.toUInt8 = w'.toUInt8 ∧ (w >>> 8).toUInt8 = (w' >>> 8).toUInt8 ∧
      True := by simpa [wordBytes] using h
  apply UInt16.toBitVec_inj.mp
  apply BitVec.eq_of_getLsbD_eq
  intro i hi
  rcases Nat.lt_or_ge i 8 with hlt | hge
  · have hbit := congrArg (fun x : UInt8 => x.toBitVec.getLsbD i) hlow
    simpa [hlt] using hbit
  · have hbit := congrArg (fun x : UInt8 => x.toBitVec.getLsbD (i - 8)) hhigh
    simpa [show i - 8 < 8 by omega, show 8 + (i - 8) = i by omega] using hbit

/-- Symbols of one length can be told apart in a row. -/
theorem flatMap_injective {α β : Type*} {f : α → List β} {n : Nat} (hn : 0 < n)
    (hlength : ∀ x, (f x).length = n) (hf : Function.Injective f) :
    Function.Injective fun xs : List α => xs.flatMap f := by
  have hcons : ∀ x xs, (x :: xs : List α).flatMap f ≠ [] := by
    intro x xs h
    have hx := hlength x
    rw [List.flatMap_cons, List.append_eq_nil_iff] at h
    rw [h.1] at hx
    exact absurd hx (Nat.ne_of_lt hn)
  intro xs
  induction xs with
  | nil =>
    intro ys h
    cases ys with
    | nil => rfl
    | cons y ys => exact absurd h.symm (hcons y ys)
  | cons x xs ih =>
    intro ys h
    cases ys with
    | nil => exact absurd h (hcons x xs)
    | cons y ys =>
      have happend : f x ++ xs.flatMap f = f y ++ ys.flatMap f := h
      obtain ⟨hhead, htail⟩ := List.append_inj happend ((hlength x).trans (hlength y).symm)
      rw [hf hhead, ih htail]

/-- The word whose bits go out when `w` is in memory, and whose bits come in when it is there
afterwards. -/
def wireWord (bitOrder : UInt32) (w : UInt16) : UInt16 :=
  if bitOrder = 0 then w else swapBytes w

variable {bitOrder : UInt32}

theorem eq_of_le_one (h : bitOrder ≤ 1) : bitOrder = 0 ∨ bitOrder = 1 := by
  have hle : bitOrder.toNat ≤ 1 := UInt32.le_iff_toNat_le.mp h
  rw [← UInt32.toNat_inj, ← UInt32.toNat_inj]
  show bitOrder.toNat = 0 ∨ bitOrder.toNat = 1
  omega

/-- **The word on the wire**, for the bytes of the word in memory. -/
theorem wordBits_eq (h : bitOrder ≤ 1) (w : UInt16) :
    wordBits bitOrder w = (wordBytes (wireWord bitOrder w)).flatMap (byteBits (bitOrder == 0)) := by
  rcases eq_of_le_one h with rfl | rfl
  · exact wordBits_lsb w
  · exact wordBits_msb w

theorem wireWord_eq_iff (w : UInt16) : wireWord bitOrder w = w ↔ bitOrder = 0 ∨ SameBytes w := by
  unfold wireWord SameBytes
  split_ifs with h
  · exact iff_of_true rfl (.inl h)
  · rw [or_iff_right h, ← wordBytes_injective.eq_iff, wordBytes_swapBytes]
    simp only [wordBytes, List.cons.injEq, and_true]
    exact ⟨fun h => h.2, fun h => ⟨h.symm, h⟩⟩

/-- Words in a row, for what is in memory. -/
theorem flatMap_wordBits (h : bitOrder ≤ 1) (words : List UInt16) :
    words.flatMap (wordBits bitOrder) =
      (wordMemory (words.map (wireWord bitOrder))).flatMap (byteBits (bitOrder == 0)) := by
  rw [wordMemory, List.flatMap_map, List.flatMap_assoc]
  congr 1
  funext w
  exact wordBits_eq h w

theorem wordMemory_injective : Function.Injective wordMemory :=
  flatMap_injective Nat.two_pos (fun _ => rfl) wordBytes_injective

theorem flatMap_byteBits_injective (lsbFirst : Bool) :
    Function.Injective fun xs : List UInt8 => xs.flatMap (byteBits lsbFirst) := by
  apply flatMap_injective (by decide : 0 < 8) _ (byteBits_injective lsbFirst)
  intro x
  rw [byteBits, List.length_map, List.length_range]

theorem map_wireWord_eq_iff (words : List UInt16) :
    words.map (wireWord bitOrder) = words ↔ bitOrder = 0 ∨ ∀ w ∈ words, SameBytes w := by
  have hmap : words.map (wireWord bitOrder) = words ↔ ∀ w ∈ words, wireWord bitOrder w = w := by
    conv_lhs => rhs; rw [← List.map_id words]
    exact List.map_inj_left
  simp only [hmap, wireWord_eq_iff]
  by_cases h : bitOrder = 0
  · simp [h]
  · simp [h]

/-- **When words in memory go out right.** -/
theorem sent_right_iff (h : bitOrder ≤ 1) (words : List UInt16) :
    (wordMemory words).flatMap (byteBits (bitOrder == 0)) = words.flatMap (wordBits bitOrder) ↔
      bitOrder = 0 ∨ ∀ w ∈ words, SameBytes w := by
  rw [flatMap_wordBits h, (flatMap_byteBits_injective _).eq_iff, wordMemory_injective.eq_iff,
    eq_comm, map_wireWord_eq_iff]

/-- **When words on the wire come in right.** -/
theorem received_right_iff (h : bitOrder ≤ 1) {received : List UInt8} {words : List UInt16}
    (hwire : received.flatMap (byteBits (bitOrder == 0)) = words.flatMap (wordBits bitOrder)) :
    received = wordMemory words ↔ bitOrder = 0 ∨ ∀ w ∈ words, SameBytes w := by
  rw [flatMap_wordBits h] at hwire
  rw [flatMap_byteBits_injective _ hwire, wordMemory_injective.eq_iff, map_wireWord_eq_iff]

/-! ### The flag of the device -/

namespace SpiController

variable {c c' : SpiController}

/-- The driver gives every device a handle of its own. -/
def Fresh (h : SpiHost) : Prop := ∀ d ∈ h.attached, d.handle < h.created

theorem fresh_add (h : Fresh c.host) (add : EspErr) :
    Fresh (bmxEsp32SpiAddDevice c add).2.host := by
  unfold bmxEsp32SpiAddDevice
  split
  · intro d hd
    show d.handle < c.host.created + 1
    rcases List.mem_append.mp hd with hd | hd
    · exact Nat.lt_succ_of_lt (h d hd)
    · obtain rfl := List.mem_singleton.mp hd
      exact Nat.lt_succ_self _
  · exact h

theorem fresh_detach (h : Fresh c.host) {remove : EspErr} (hdetach : spiDetach c remove = some c') :
    Fresh c'.host := by
  unfold spiDetach at hdetach
  split at hdetach
  · obtain rfl := Option.some.inj hdetach
    exact h
  · split at hdetach
    · obtain rfl := Option.some.inj hdetach
      exact fun d hd => h d (List.mem_of_mem_filter hd)
    · exact nomatch hdetach

theorem fresh_reconfigure (h : Fresh c.host) (remove add : EspErr) :
    Fresh (bmxEsp32SpiReconfigure c remove add).2.host := by
  unfold bmxEsp32SpiReconfigure
  split
  · exact h
  split
  · exact h
  next hdetach => exact fresh_add (fresh_detach h hdetach) add

theorem fresh_change (h : Fresh c.host) (store undo : SpiState → SpiState) (r : SpiChangeResults) :
    Fresh (spiChange c store undo r).2.host := by
  have hreconfigure : Fresh (bmxEsp32SpiReconfigure { c with state := store c.state }
      r.removeDevice r.addDevice).2.host := by
    apply fresh_reconfigure
    exact h
  unfold spiChange
  dsimp only
  split
  · exact hreconfigure
  · apply fresh_add
    exact hreconfigure

theorem fresh_setUp (h : Fresh c.host) (baudrate : UInt32) (r : SpiInitResults) :
    Fresh (bmxEmbeddedSpiInit c baudrate r).2.host := by
  unfold bmxEmbeddedSpiInit
  split
  · exact h
  split
  · exact h
  dsimp only
  have hadd : ∀ state, Fresh (bmxEsp32SpiAddDevice ⟨state, { c.host with bus := true }⟩
      r.addDevice).2.host := by
    intro state
    apply fresh_add
    exact h
  split
  · exact hadd _
  · exact hadd _

theorem fresh_deinit (h : Fresh c.host) (q : SpiDeinitResults) :
    Fresh (bmxEmbeddedSpiDeinit c q).2.host := by
  unfold bmxEmbeddedSpiDeinit
  split
  · exact h
  split
  · exact h
  next hdetach =>
    have hfresh := fresh_detach h hdetach
    split
    · exact hfresh
    · exact hfresh

theorem fresh_call (h : Fresh c.host) (t : SpiTarget) (a : SpiCall) :
    Fresh (spiCall t c a).host := by
  cases a with
  | configurePins rxPin txPin sckPin =>
    show Fresh (bmxEmbeddedSpiConfigurePins t c rxPin txPin sckPin).2.host
    unfold bmxEmbeddedSpiConfigurePins
    split
    · exact h
    · exact h
  | setUp baudrate r => exact fresh_setUp h baudrate r
  | deinit q => exact fresh_deinit h q
  | setBaudrate baudrate r =>
    show Fresh (bmxEmbeddedSpiSetBaudrate c baudrate r).2.host
    unfold bmxEmbeddedSpiSetBaudrate
    split
    · exact h
    · exact fresh_change h _ _ r
  | setFormat dataBits polarity phase bitOrder r =>
    show Fresh (bmxEmbeddedSpiSetFormat c dataBits polarity phase bitOrder r).2.host
    unfold bmxEmbeddedSpiSetFormat
    split
    · exact h
    · exact fresh_change h _ _ r

theorem fresh_reachable {t : SpiTarget} {m : SpiTable t} (h : (spiMachine t).Reachable m)
    (i : Fin t.controllerCount) : Fresh (m i).host := by
  apply h.invariant (I := fun m : SpiTable t => Fresh (m i).host)
  · rintro m rfl d hd
    exact absurd hd List.not_mem_nil
  · intro m a m' hm _ hstep
    cases hj : bmxEsp32SpiState t a.1 with
    | none =>
      simp only [spiMachine, spiStep, hj, Option.some.injEq] at hstep
      exact hstep ▸ hm
    | some j =>
      simp only [spiMachine, spiStep, hj, Option.some.injEq] at hstep
      rw [← hstep]
      by_cases hij : i = j
      · subst hij
        rw [Function.update_self]
        exact fresh_call hm t a.2
      · rw [Function.update_of_ne hij]
        exact hm

/-- A device that has just been added is the one that is found. -/
theorem lsbFirst_add (h : Fresh c.host) :
    (bmxEsp32SpiAddDevice c espOk).2.lsbFirst = (c.state.bitOrder == 0) := by
  let new : SpiDevice := ⟨c.host.created, spiDeviceConfig c.state⟩
  have hold : c.host.attached.find? (fun d => some c.host.created == some d.handle) = none := by
    rw [List.find?_eq_none]
    intro d hd heq
    have hlt := h d hd
    have := Option.some.inj (eq_of_beq heq)
    omega
  show ((c.host.attached ++ [new]).find? fun d => some c.host.created == some d.handle).elim false
    (fun d => d.config.lsbFirst) = _
  rw [List.find?_append, hold, Option.none_or, List.find?_singleton, if_pos (beq_self_eq_true _)]
  rfl

theorem detach_state {remove : EspErr} (hdetach : spiDetach c remove = some c') :
    c'.state = { c.state with device := none } := by
  unfold spiDetach at hdetach
  split at hdetach
  next hnone =>
    obtain rfl := Option.some.inj hdetach
    rw [← hnone]
  next =>
    split at hdetach
    · obtain rfl := Option.some.inj hdetach
      rfl
    · exact nomatch hdetach

/-- A change that has been made has ended with the new device. -/
theorem change_done {store undo : SpiState → SpiState} {r : SpiChangeResults}
    (h : (spiChange c store undo r).1 = true) :
    ∃ c', spiDetach { c with state := store c.state } r.removeDevice = some c' ∧
      (spiChange c store undo r).2 = (bmxEsp32SpiAddDevice c' espOk).2 := by
  unfold spiChange bmxEsp32SpiReconfigure at h ⊢
  split_ifs at h ⊢ with hdown
  · exact nomatch h
  cases hdetach : spiDetach { c with state := store c.state } r.removeDevice with
  | none =>
    rw [hdetach] at h
    exact nomatch h
  | some c' =>
    rw [hdetach] at h
    refine ⟨c', rfl, ?_⟩
    by_cases hadd : r.addDevice = espOk
    · simp only [bmxEsp32SpiAddDevice, hadd, if_true]
    · simp only [bmxEsp32SpiAddDevice, hadd, if_false, Bool.false_eq_true] at h

/-- **A format that has been set** is the format of the device. -/
theorem setFormat_done (h : Fresh c.host) {polarity phase bitOrder : UInt32} {r : SpiChangeResults}
    (hset : (bmxEmbeddedSpiSetFormat c 16 polarity phase bitOrder r).1 = 1) :
    bitOrder ≤ 1 ∧ (bmxEmbeddedSpiSetFormat c 16 polarity phase bitOrder r).2.state.device ≠ none ∧
      (bmxEmbeddedSpiSetFormat c 16 polarity phase bitOrder r).2.lsbFirst = (bitOrder == 0) := by
  have hzero : ¬ (0 : Int32) = 1 := by decide
  unfold bmxEmbeddedSpiSetFormat at hset ⊢
  split at hset
  · exact absurd hset hzero
  next haccepted =>
  rw [if_neg haccepted]
  dsimp only at hset ⊢
  split at hset
  · next hdone =>
    obtain ⟨c', hdetach, hresult⟩ := change_done hdone
    have hstate := detach_state hdetach
    have hfresh : Fresh c'.host := by
      apply fresh_detach _ hdetach
      exact h
    simp only [spiFormatAccepted, Bool.not_eq_false, Bool.and_eq_true, decide_eq_true_eq]
      at haccepted
    rw [hresult, lsbFirst_add hfresh, hstate]
    refine ⟨haccepted.2, Option.some_ne_none _, ?_⟩
    show (bitOrder.toUInt8 == 0) = (bitOrder == 0)
    rcases eq_of_le_one haccepted.2 with rfl | rfl
    · rfl
    · rfl
  · exact absurd hset hzero

end SpiController

/-! ### Whole calls -/

/-- The words that have gone out, and those that came in, are right: on the wire in the selected
order, and with their values in memory. -/
structure SpiWordsRight (bitOrder : UInt32) (lsbFirst : Bool) (call : SpiBlocking) (line : SpiLine)
    (sent received : List UInt16) : Prop where
  sent : line.sent.flatMap (byteBits lsbFirst) = sent.flatMap (wordBits bitOrder)
  received : call.destination ≠ none → line.destination.take line.covered = wordMemory received

theorem length_wordMemory (words : List UInt16) : (wordMemory words).length = 2 * words.length := by
  induction words with
  | nil => rfl
  | cons w words ih =>
    show (wordBytes w ++ wordMemory words).length = _
    rw [List.length_append, ih, List.length_cons]
    show 2 + _ = _
    omega

theorem take_wordMemory (words : List UInt16) (k : Nat) :
    (wordMemory words).take (2 * k) = wordMemory (words.take k) := by
  induction words generalizing k with
  | nil => rw [List.take_nil]; exact List.take_nil
  | cons w words ih =>
    cases k with
    | zero => rfl
    | succ k =>
      have hlength : 2 * (k + 1) = (wordBytes w).length + 2 * k := by
        show _ = 2 + _
        omega
      rw [hlength]
      show (wordBytes w ++ wordMemory words).take _ = wordBytes w ++ wordMemory (words.take k)
      rw [List.take_length_add_append, ih]

/-- There is something to send for every byte that is asked for. -/
theorem SpiBlocking.byteLength_le_stream {s : SpiState} {call : SpiBlocking}
    (haccepted : call.Accepted s) (hfit : call.BuffersFit) :
    call.byteLength ≤ call.stream.length := by
  have hsource : (call.length ≠ 0 → call.source ≠ none) → call.stream = call.source.getD [] →
      call.byteLength ≤ call.stream.length := by
    intro hsource hstream
    by_cases hzero : call.byteLength = 0
    · omega
    · obtain ⟨block, hblock⟩ := Option.ne_none_iff_exists'.mp
        (hsource (SpiBlocking.length_ne_zero hzero))
      rw [hstream, hblock]
      exact hfit.source block hblock
  cases call with
  | writeRead source destination length => exact hsource (fun h => (haccepted.2.2 h).1) rfl
  | write source length => exact hsource haccepted.2.2 rfl
  | read repeatedData destination length =>
    show 1 * _ ≤ (spiRepeated _ _).length
    rw [length_spiRepeated, Nat.mul_comm]
    rfl
  | write16Read16 source destination length => exact hsource (fun h => (haccepted.2.2.1 h).1) rfl
  | write16 source length => exact hsource haccepted.2.2.1 rfl
  | read16 repeatedData destination length =>
    show 2 * _ ≤ (spiRepeated _ _).length
    rw [length_spiRepeated, Nat.mul_comm]
    rfl

/-- **16-bit words in the selected order**: after a format has been set, the words that a call
moves are right exactly if the least significant bit comes first, or both bytes of every word are
the same. -/
theorem spi_bit_order {t : SpiTarget} {m : SpiTable t} (h : (spiMachine t).Reachable m)
    (i : Fin t.controllerCount) (polarity phase bitOrder : UInt32) (r : SpiChangeResults)
    (hset : (bmxEmbeddedSpiSetFormat (m i) 16 polarity phase bitOrder r).1 = 1)
    {c : SpiController} (hc : c = (bmxEmbeddedSpiSetFormat (m i) 16 polarity phase bitOrder r).2)
    (call : SpiBlocking) (haccepted : call.Accepted c.state) (hfit : call.BuffersFit)
    (hsize : call.size = 2) (words : List UInt16)
    (hwords : call.stream.take call.byteLength = wordMemory words) (answers : Nat → SpiAnswer) :
    ∃ result line k, call.perform c.state answers = some (result, line) ∧ k ≤ words.length ∧
      (result = call.length.toInt → k = words.length) ∧
      ∀ received : List UInt16,
        line.received.flatMap (byteBits c.lsbFirst) = received.flatMap (wordBits bitOrder) →
        (SpiWordsRight bitOrder c.lsbFirst call line (words.take k) received ↔
          bitOrder = 0 ∨ (∀ w ∈ words.take k, SameBytes w) ∧
            (call.destination ≠ none → ∀ w ∈ received, SameBytes w)) := by
  obtain ⟨hle, hdevice, hlsb⟩ := SpiController.setFormat_done (SpiController.fresh_reachable h i) hset
  rw [← hc] at hdevice hlsb
  -- the transfer moves whole words, a first part of those asked for
  obtain ⟨⟨result, line⟩, hperform, hp⟩ := SpiBlocking.performed hdevice haccepted hfit answers
  obtain ⟨k, hk⟩ := hsize ▸ hp.tiled.whole
  have hlength : call.byteLength = 2 * words.length := by
    rw [← length_wordMemory, ← hwords, List.length_take]
    have := SpiBlocking.byteLength_le_stream haccepted hfit
    omega
  have hwithin := hp.tiled.within
  have hsent : line.sent = wordMemory (words.take k) := by
    rw [hp.tiled.sent, ← take_wordMemory, ← hwords, List.take_take, ← hk, Nat.min_eq_left hwithin]
  refine ⟨result, line, k, hperform, by omega, ?_, ?_⟩
  · intro hresult
    have hcovered := (hp.complete_iff.mp hresult).2
    omega
  intro received hwire
  rw [hlsb] at hwire ⊢
  -- what goes out, and what comes in, is right under the same condition on its words
  have hout : line.sent.flatMap (byteBits (bitOrder == 0)) =
      (words.take k).flatMap (wordBits bitOrder) ↔
        bitOrder = 0 ∨ ∀ w ∈ words.take k, SameBytes w := by
    rw [hsent]
    exact sent_right_iff hle _
  have hin : call.destination ≠ none →
      (line.destination.take line.covered = wordMemory received ↔
        bitOrder = 0 ∨ ∀ w ∈ received, SameBytes w) := by
    intro hdestination
    obtain ⟨block, hblock⟩ := Option.ne_none_iff_exists'.mp hdestination
    rw [hp.tiled.stored block hblock, drop_overwrite_zero, ← hp.tiled.received, List.take_left]
    exact received_right_iff hle hwire
  constructor
  · rintro ⟨hsent, hreceived⟩
    by_cases hzero : bitOrder = 0
    · exact .inl hzero
    · refine .inr ⟨(hout.mp hsent).resolve_left hzero, fun hdestination => ?_⟩
      exact ((hin hdestination).mp (hreceived hdestination)).resolve_left hzero
  · rintro (hzero | ⟨hwords, hreceived⟩)
    · exact ⟨hout.mpr (.inl hzero), fun hdestination => (hin hdestination).mpr (.inl hzero)⟩
    · exact ⟨hout.mpr (.inr hwords),
        fun hdestination => (hin hdestination).mpr (.inr (hreceived hdestination))⟩

/-- A controller that has been brought up. -/
def spiReady : SpiTable oneSpiController :=
  (spiStep oneSpiController (fun _ => spiReset) (0, .configurePins 1 2 3) >>= fun m =>
    spiStep oneSpiController m (0, .setUp 1000000 {})).getD fun _ => spiReset

theorem spiReady_reachable : (spiMachine oneSpiController).Reachable spiReady :=
  .step (a := (0, .setUp 1000000 {})) (.step (a := (0, .configurePins 1 2 3)) (.init rfl) trivial
    rfl) trivial rfl

/-- The same controller in 16-bit format. -/
def spiWords (bitOrder : UInt32) : Int32 × SpiController :=
  bmxEmbeddedSpiSetFormat (spiReady onlySpiController) 16 0 0 bitOrder {}

/-- Everything succeeds, and zeros come in. -/
def spiQuiet : Nat → SpiAnswer := fun _ => ⟨espOk, fun _ => 0⟩

/-- A write of the word `0x1234`. -/
def spiOneWord : SpiBlocking := .write16 (some (wordMemory [0x1234])) 1

theorem spi_bit_order_lsb : ∃ line,
    spiOneWord.perform (spiWords 0).2.state spiQuiet = some (1, line) ∧
    line.sent.flatMap (byteBits (spiWords 0).2.lsbFirst) = wordBits 0 0x1234 := by
  have haccepted : spiOneWord.Accepted (spiWords 0).2.state :=
    ⟨rfl, by decide, fun _ => nofun, by decide⟩
  have hfit : spiOneWord.BuffersFit :=
    ⟨fun block hblock => by rw [← Option.some.inj hblock]; decide, nofun⟩
  obtain ⟨result, line, k, hperform, -, hk, hright⟩ := spi_bit_order spiReady_reachable
    onlySpiController 0 0 0 {} rfl rfl spiOneWord haccepted hfit rfl [0x1234] rfl spiQuiet
  obtain ⟨rfl, rfl⟩ : (1, _) = (result, line) := Option.some.inj hperform
  obtain rfl := hk rfl
  exact ⟨_, rfl, ((hright [0] rfl).mpr (.inl rfl)).sent⟩

/-- With the most significant bit first the bytes of the word are swapped. -/
theorem spi_bit_order_swapped : (spiWords 1).1 = 1 ∧ ∃ line,
    spiOneWord.perform (spiWords 1).2.state spiQuiet = some (1, line) ∧
    line.sent.flatMap (byteBits (spiWords 1).2.lsbFirst) = wordBits 1 0x3412 ∧
    wordBits 1 0x3412 ≠ wordBits 1 0x1234 := by
  refine ⟨by decide, _, rfl, by decide, by decide⟩

end Esp32Mod
