/-
Esp32Mod/SpiTiling.lean

The transactions of an SPI call, taken together.  A call starts with none and goes on with one
transfer, or with a transfer for every 64 bytes; `SpiTiled` is what holds in between, and
`SpiTiled.extend` says that a transfer keeps it.

Main result:

* `spi_transfers_tile` — the transactions of a call cover its buffers without gap or overlap, up to
  the first that fails; nothing overflows, and nothing outside of the buffers is touched.
-/
import Esp32Mod.SpiTransfer

namespace Esp32Mod

open Checked Tiling

/-! ### What a call has done -/

namespace SpiTransaction

/-- The part of the source that goes out. -/
def txPiece (t : SpiTransaction) : Option Piece :=
  t.txBuffer.map fun p => ⟨p.offset, t.bytes⟩

/-- The part of the destination that is received to. -/
def rxPiece (t : SpiTransaction) : Option Piece :=
  t.rxBuffer.map fun offset => ⟨offset, t.bytes⟩

end SpiTransaction

namespace SpiLine

/-- The bytes of all transactions. -/
def covered (line : SpiLine) : Nat :=
  (line.exchanges.map fun e => e.transaction.bytes).sum

/-- All that has gone out. -/
def sent (line : SpiLine) : List UInt8 :=
  line.exchanges.flatMap fun e => e.transaction.sent.getD []

/-- All that has come in. -/
def received (line : SpiLine) : List UInt8 := line.exchanges.flatMap SpiExchange.received

end SpiLine

/-- The ranges follow on each other from the beginning of a buffer. -/
def RangesTile (ranges : List (Option Piece)) (n : Nat) : Prop :=
  ∃ pieces, Tiles 0 pieces n ∧ ranges = pieces.map some

/-- The transactions cut the caller's buffers into pieces, one behind the other. -/
structure SpiTiled (answers : Nat → SpiAnswer) (call : SpiBlocking) (line : SpiLine) : Prop where
  size : ∀ e ∈ line.exchanges, 0 < e.transaction.bytes ∧ e.transaction.bytes ≤ 4092
  tx : ∀ block, call.source = some block →
    RangesTile (line.exchanges.map fun e => e.transaction.txPiece) line.covered
  rx : ∀ block, call.destination = some block →
    RangesTile (line.exchanges.map fun e => e.transaction.rxPiece) line.covered
  within : line.covered ≤ call.byteLength
  /-- No element is cut. -/
  whole : call.size ∣ line.covered
  sent : line.sent = call.stream.take line.covered
  received : line.received.length = line.covered
  stored : ∀ block, call.destination = some block →
    line.destination = overwrite block 0 line.received
  answered : line.exchanges.map SpiExchange.error =
    (List.range line.exchanges.length).map fun i => (answers i).error

section Transfer

variable {answers : Nat → SpiAnswer} {source : Option BytePointer} {destination : Option Nat}
  {memory : List UInt8} {exchanges new : List SpiExchange} {n m : Nat}

/-! ### What a call has done so far -/

/-- What the transactions of a transfer have in common with the pieces. -/
theorem Exchanged.map_eq {α : Type*} (f : SpiTransaction → α) {g : Piece → α} {pieces : List Piece}
    (hmap : new.map SpiExchange.transaction =
      pieces.map fun p => spiTransaction source destination p.offset p.length)
    (hfg : ∀ p ∈ pieces, f (spiTransaction source destination p.offset p.length) = g p) :
    (new.map fun e => f e.transaction) = pieces.map g := by
  have hcomp : (new.map fun e => f e.transaction) = (new.map SpiExchange.transaction).map f := by
    rw [List.map_map]
    rfl
  rw [hcomp, hmap, List.map_map]
  exact List.map_congr_left hfg

theorem SpiBlocking.size_dvd (call : SpiBlocking) : call.size ∣ 4092 := by
  cases call
  case writeRead | write | read => exact Nat.one_dvd _
  case write16Read16 | write16 | read16 =>
    show 2 ∣ 4092
    decide

theorem covered_nil (memory : List UInt8) : SpiLine.covered ⟨[], memory⟩ = 0 := rfl

theorem spiTiled_nil (answers : Nat → SpiAnswer) (call : SpiBlocking) :
    SpiTiled answers call (spiLine call.destination) := by
  have hranges : RangesTile [] 0 := ⟨[], .nil 0, rfl⟩
  refine ⟨nofun, fun _ _ => hranges, fun _ _ => hranges, Nat.zero_le _, Nat.dvd_zero _, ?_,
    rfl, ?_, rfl⟩
  · rw [spiLine, covered_nil, List.take_zero]
    rfl
  · intro block hblock
    rw [spiLine, hblock]
    exact overwrite_nil.symm

theorem RangesTile.append {ranges ranges' : List (Option Piece)} {pieces : List Piece}
    (h : RangesTile ranges n) (h' : Tiles 0 pieces m)
    (hranges : ranges' = pieces.map fun p => some (p.shift n)) :
    RangesTile (ranges ++ ranges') (n + m) := by
  obtain ⟨before, htiles, rfl⟩ := h
  refine ⟨before ++ pieces.map (Piece.shift n), htiles.append (h'.shift n), ?_⟩
  rw [hranges, List.map_append, List.map_map]
  rfl

/-- **A call goes on with a transfer** from where it is. -/
theorem SpiTiled.extend {call : SpiBlocking} {line : SpiLine} (h : SpiTiled answers call line)
    (hfit : call.BuffersFit)
    (hnew : Exchanged answers source destination line.exchanges new m)
    (hm : line.covered + m ≤ call.byteLength) (hwhole : call.size ∣ m)
    (hsource : ∀ block, call.source = some block → source = some ⟨block, line.covered⟩)
    (hdestination : ∀ block, call.destination = some block → destination = some line.covered)
    (hstream : (spiBehind source).take m = (call.stream.drop line.covered).take m) :
    SpiTiled answers call (spiAfter line.exchanges line.destination destination new) ∧
      (spiAfter line.exchanges line.destination destination new).covered = line.covered + m := by
  -- the transfer tiles its own bytes from 0 on; in the call they begin at `line.covered`
  obtain ⟨pieces, htiles, hsmall, hmap⟩ := hnew.pieces
  have hbytes : ∀ p ∈ pieces,
      (spiTransaction source destination p.offset p.length).bytes = p.length :=
    fun p hp => bytes_spiTransaction _ _ _ (hsmall p hp)
  have hcovered : (spiAfter line.exchanges line.destination destination new).covered =
      line.covered + m := by
    have hsum := Exchanged.map_eq SpiTransaction.bytes hmap hbytes
    rw [SpiLine.covered, spiAfter, List.map_append, List.sum_append, hsum, ← htiles.sum_length,
      Nat.zero_add]
    rfl
  have hreceived : (spiAfter line.exchanges line.destination destination new).received =
      line.received ++ new.flatMap SpiExchange.received := List.flatMap_append
  -- the clauses of `SpiTiled` in their order: old exchanges, then new ones
  refine ⟨⟨?_, ?_, ?_, ?_, ?_, ?_, ?_, ?_, ?_⟩, hcovered⟩
  · intro e he
    rcases List.mem_append.mp he with he | he
    · exact h.size e he
    · have hmem : e.transaction ∈ new.map SpiExchange.transaction := List.mem_map_of_mem he
      rw [hmap] at hmem
      obtain ⟨p, hp, htransaction⟩ := List.mem_map.mp hmem
      rw [← htransaction, hbytes p hp]
      exact ⟨(htiles.inside hp).1, hsmall p hp⟩
  · intro block hblock
    rw [hcovered, spiAfter, List.map_append]
    apply (h.tx block hblock).append htiles
    apply Exchanged.map_eq SpiTransaction.txPiece hmap
    intro p hp
    rw [SpiTransaction.txPiece, hbytes p hp, hsource block hblock]
    rfl
  · intro block hblock
    rw [hcovered, spiAfter, List.map_append]
    apply (h.rx block hblock).append htiles
    apply Exchanged.map_eq SpiTransaction.rxPiece hmap
    intro p hp
    rw [SpiTransaction.rxPiece, hbytes p hp, hdestination block hblock]
    rfl
  · rw [hcovered]
    exact hm
  · rw [hcovered]
    exact Nat.dvd_add h.whole hwhole
  · rw [hcovered, SpiLine.sent, spiAfter, List.flatMap_append, hnew.sent, hstream, List.take_add]
    exact congrArg (· ++ _) h.sent
  · rw [hcovered, hreceived, List.length_append, h.received, hnew.received]
  · intro block hblock
    have hblock' := hfit.destination block hblock
    rw [hreceived, ← overwrite_overwrite, Nat.zero_add, h.received, ← h.stored block hblock,
      spiAfter, hdestination block hblock]
    · rfl
    · rw [Nat.zero_add, h.received]
      omega
  · rw [spiAfter, List.map_append, h.answered, hnew.answered, List.length_append, List.range_add,
      List.map_append, List.map_map]
    rfl

/-! ### Whole calls -/

/-- What the result of a call says. -/
structure SpiPerformed (answers : Nat → SpiAnswer) (call : SpiBlocking) (r : Int × SpiLine) :
    Prop where
  tiled : SpiTiled answers call r.2
  complete_iff : r.1 = call.length.toInt ↔
    (∀ e ∈ r.2.exchanges, e.error = espOk) ∧ r.2.covered = call.byteLength
  failed : r.1 ≠ call.length.toInt → r.1 < 0 ∧ SpiStopped r.2.exchanges

variable {call : SpiBlocking} {line : SpiLine} {result : Int}

theorem SpiTiled.complete (h : SpiTiled answers call line)
    (hok : ∀ e ∈ line.exchanges, e.error = espOk) (hcovered : line.covered = call.byteLength) :
    SpiPerformed answers call (call.length.toInt, line) :=
  ⟨h, iff_of_true rfl ⟨hok, hcovered⟩, fun hne => absurd rfl hne⟩

theorem SpiTiled.stopped (h : SpiTiled answers call line) (hlength : 0 ≤ call.length.toInt)
    (hresult : result < 0) (hstopped : SpiStopped line.exchanges) :
    SpiPerformed answers call (result, line) := by
  refine ⟨h, iff_of_false ?_ ?_, fun _ => ⟨hresult, hstopped⟩⟩
  · show result ≠ _
    omega
  · rintro ⟨hok, -⟩
    obtain ⟨before, last, hexchanges, hlast, -⟩ := hstopped
    apply hlast
    apply hok
    show last ∈ line.exchanges
    rw [hexchanges]
    exact List.mem_append_right _ (List.mem_singleton_self last)

/-- A call with a source, of one transfer. -/
theorem SpiEnded.performed (hfit : call.BuffersFit) (hlength : 0 ≤ call.length.toInt)
    (hstream : call.stream = call.source.getD []) {r : Int × SpiLine}
    (h : SpiEnded answers (spiPointer call.source) (spiOffset call.destination) []
      (call.destination.getD []) call.byteLength r) :
    SpiPerformed answers call (spiWordResult call.length.toInt r) := by
  obtain @⟨result, new, n, hnew, hn, hwhole, houtcome⟩ := h
  -- the call is its one transfer, from nothing on
  have hbegin := spiTiled_nil answers call
  obtain ⟨htiled, hcovered⟩ := hbegin.extend hfit hnew (by rw [spiLine, covered_nil]; omega)
    (hwhole _ call.size_dvd (Nat.dvd_mul_right _ _))
    (by
      intro block hblock
      rw [spiPointer, hblock]
      rfl)
    (by
      intro block hblock
      rw [spiOffset, hblock]
      rfl)
    (by
      rw [hstream, spiLine, covered_nil, List.drop_zero, spiPointer]
      cases call.source with
      | none => rfl
      | some block => rfl)
  rw [spiLine, covered_nil, Nat.zero_add] at hcovered
  cases houtcome with
  | complete hresult hok hall =>
    have hword : spiWordResult call.length.toInt (result,
        spiAfter [] (call.destination.getD []) (spiOffset call.destination) new) =
        (call.length.toInt,
          spiAfter [] (call.destination.getD []) (spiOffset call.destination) new) := by
      rw [spiWordResult, if_neg (by omega)]
    rw [hword]
    exact htiled.complete hok (hcovered.trans hall)
  | stopped hresult hstopped =>
    subst hresult
    have hneg : spiErrorGeneric < 0 := by decide
    rw [spiWordResult, if_pos hneg]
    exact htiled.stopped hlength hneg hstopped

/-- The result of a transfer is the number of its bytes, or an error. -/
theorem SpiEnded.wordResult {r : Int × SpiLine}
    (h : SpiEnded answers source destination exchanges memory m r) : spiWordResult m r = r := by
  obtain @⟨result, new, n, -, -, -, houtcome⟩ := h
  cases houtcome with
  | complete hresult => rw [spiWordResult, hresult, if_neg (by omega)]
  | stopped hresult =>
    have hneg : spiErrorGeneric < 0 := by decide
    rw [hresult, spiWordResult, if_pos hneg]

/-! ### Reads -/

theorem length_spiRepeated (unit : List UInt8) (count : Nat) :
    (spiRepeated unit count).length = count * unit.length := by
  rw [spiRepeated, List.length_flatten, List.map_replicate, List.sum_replicate_nat]

theorem spiRepeated_add (unit : List UInt8) (j k : Nat) :
    spiRepeated unit (j + k) = spiRepeated unit j ++ spiRepeated unit k := by
  rw [spiRepeated, ← List.replicate_append_replicate, List.flatten_append]
  rfl

/-- As far as both go, the repetitions are the same. -/
theorem take_spiRepeated {unit : List UInt8} {j k : Nat} (hjk : j ≤ k) (hm : m ≤ j * unit.length) :
    (spiRepeated unit k).take m = (spiRepeated unit j).take m := by
  obtain ⟨d, rfl⟩ := Nat.exists_eq_add_of_le hjk
  rw [spiRepeated_add, List.take_append_of_le_length]
  rwa [length_spiRepeated]

/-- What is left to send is a repetition again. -/
theorem drop_spiRepeated {unit : List UInt8} {j k : Nat} (hjk : j ≤ k) :
    (spiRepeated unit k).drop (j * unit.length) = spiRepeated unit (k - j) := by
  obtain ⟨d, rfl⟩ := Nat.exists_eq_add_of_le hjk
  rw [spiRepeated_add, List.drop_left' (length_spiRepeated unit j), Nat.add_sub_cancel_left]

/-- A call that sends `unit` over and over, `count` times. -/
structure SpiBlocking.Repeats (call : SpiBlocking) (unit : List UInt8) (count : Nat) : Prop where
  source : call.source = none
  size : call.size = unit.length
  stream : call.stream = spiRepeated unit count
  length : call.length.toInt = count
  byteLength : call.byteLength = count * unit.length
  destination : count ≠ 0 → call.destination ≠ none

/-- `count` of the units have been read. -/
inductive SpiReading (answers : Nat → SpiAnswer) (call : SpiBlocking) (unit : List UInt8)
    (count : Nat) : Int × SpiLine → Prop
  | intro {k : Nat} {line : SpiLine} (htiled : SpiTiled answers call line)
      (hcovered : line.covered = k * unit.length) (hk : k ≤ count)
      (hok : ∀ e ∈ line.exchanges, e.error = espOk) :
      SpiReading answers call unit count ((k : Int), line)

variable {s : SpiState} {unit : List UInt8} {capacity count k chunk : Nat}

/-- What has succeeded before does not change where the exchanges stop. -/
theorem SpiStopped.behind {before new : List SpiExchange} (hok : ∀ e ∈ before, e.error = espOk)
    (h : SpiStopped new) : SpiStopped (before ++ new) := by
  obtain ⟨between, last, rfl, hlast, hbetween⟩ := h
  refine ⟨before ++ between, last, (List.append_assoc _ _ _).symm, hlast, ?_⟩
  intro e he
  exact (List.mem_append.mp he).elim (hok e) (hbetween e)

/-- The next units lie in the array they are sent from and in the destination. -/
theorem SpiTiled.unitsInBounds (hfit : call.BuffersFit) (hrepeats : call.Repeats unit count)
    (h : SpiTiled answers call line) (hcovered : line.covered = k * unit.length)
    (hchunk : k + chunk ≤ count) (hcapacity : chunk ≤ capacity) (hpos : 0 < chunk) :
    InBounds (some ⟨spiRepeated unit capacity, 0⟩) (some (k * unit.length)) line.destination
      (chunk * unit.length) := by
  obtain ⟨block, hblock⟩ := Option.ne_none_iff_exists'.mp (hrepeats.destination (by omega))
  have hroom : (k + chunk) * unit.length ≤ count * unit.length := Nat.mul_le_mul_right _ hchunk
  rw [Nat.add_mul] at hroom
  have hlength : count * unit.length ≤ line.destination.length := by
    have hblock' := hfit.destination block hblock
    rw [hrepeats.byteLength] at hblock'
    rw [h.stored block hblock, length_overwrite]
    · exact hblock'
    · rw [h.received, Nat.zero_add]
      omega
  constructor
  · intro p hp
    obtain rfl := Option.some.inj hp
    rw [length_spiRepeated, Nat.zero_add]
    exact Nat.mul_le_mul_right _ hcapacity
  · intro offset hoffset
    obtain rfl := Option.some.inj hoffset
    omega

/-- **The transfer of the next units** is defined, and continues the read. -/
theorem SpiTiled.transferUnits (hdevice : s.device ≠ none) (hfit : call.BuffersFit)
    (hrepeats : call.Repeats unit count) (h : SpiTiled answers call line)
    (hcovered : line.covered = k * unit.length) (hchunk : k + chunk ≤ count)
    (hcapacity : chunk ≤ capacity) (hpos : 0 < chunk) (hsmall : chunk * unit.length < 2 ^ 31)
    (hok : ∀ e ∈ line.exchanges, e.error = espOk) :
    ∃ result line', bmxEsp32SpiTransfer s answers (some ⟨spiRepeated unit capacity, 0⟩)
        (some (k * unit.length)) (chunk * unit.length : Nat) line = some (result, line') ∧
      SpiTiled answers call line' ∧
      (0 ≤ result ∧ line'.covered = (k + chunk) * unit.length ∧
          (∀ e ∈ line'.exchanges, e.error = espOk) ∨
        result < 0 ∧ SpiStopped line'.exchanges) := by
  have hroom : (k + chunk) * unit.length ≤ count * unit.length := Nat.mul_le_mul_right _ hchunk
  rw [Nat.add_mul] at hroom
  have hbounds := h.unitsInBounds hfit hrepeats hcovered hchunk hcapacity hpos
  obtain ⟨r, htransfer, hended⟩ := transfer_spec answers line.exchanges
    hdevice hbounds hsmall fun _ => .inl nofun
  obtain @⟨result, new, n, hnew, hn, hwhole, houtcome⟩ := hended
  obtain ⟨htiled, hcovered'⟩ := h.extend hfit hnew
    (by rw [hcovered, hrepeats.byteLength]; omega)
    (hwhole _ call.size_dvd (hrepeats.size ▸ Nat.dvd_mul_left _ _))
    (by
      intro block hsource
      rw [hrepeats.source] at hsource
      exact nomatch hsource)
    (by
      intro block hdestination
      rw [hcovered])
    (by
      -- both are repetitions of at least this chunk
      rw [hrepeats.stream, hcovered, drop_spiRepeated (by omega),
        take_spiRepeated (j := chunk) (by omega) hn]
      show (spiRepeated unit capacity).take n = _
      exact take_spiRepeated hcapacity hn)
  refine ⟨_, _, htransfer, htiled, ?_⟩
  cases houtcome with
  | complete hresult hall hn =>
    left
    refine ⟨by omega, by rw [hcovered', hcovered, hn, Nat.add_mul], ?_⟩
    intro e he
    exact (List.mem_append.mp he).elim (hok e) (hall e)
  | stopped hresult hstopped =>
    right
    have hneg : spiErrorGeneric < 0 := by decide
    exact ⟨hresult ▸ hneg, hstopped.behind hok⟩

theorem SpiReading.pass (hdevice : s.device ≠ none) (hfit : call.BuffersFit)
    (hrepeats : call.Repeats unit count) (hcapacity : 0 < capacity)
    (hsmall : capacity * unit.length < 2 ^ 31) {failed : Int → Int}
    (hfailed : ∀ result < 0, failed result < 0) {p : Int × SpiLine}
    (h : SpiReading answers call unit count p) :
    (∃ p', spiRepeatPass s answers unit capacity failed count p = some (.next p') ∧
      SpiReading answers call unit count p' ∧
      ((count : Int) - p'.1).toNat < ((count : Int) - p.1).toNat) ∨
    ∃ r, spiRepeatPass s answers unit capacity failed count p = some (.done r) ∧
      SpiPerformed answers call r := by
  obtain @⟨k, line, htiled, hcovered, hk, hok⟩ := h
  have hcount : (count : Int) < 2 ^ 31 := by
    rw [← hrepeats.length]
    exact call.length.toInt_lt
  rcases Nat.lt_or_ge k count with hlt | hge
  · -- another chunk, none of whose computations overflows
    obtain ⟨chunk, hpos, hchunk, hle, -, heq⟩ := exists_chunk capacity hlt hcapacity
    have hbytes := (Nat.mul_le_mul_right unit.length hchunk).trans_lt hsmall
    obtain ⟨result, line', htransfer, htiled', hend⟩ := htiled.transferUnits hdevice hfit hrepeats
      hcovered hle hchunk hpos hbytes hok
    have hrest : int32 ((count : Int) - k) = some ((count : Int) - k) :=
      int32_eq (by omega) (by omega)
    have hproduct : int32 ((chunk : Int) * unit.length) = some ((chunk * unit.length : Nat) : Int) := by
      rw [Int.natCast_mul]
      exact int32_eq (by rw [← Int.natCast_mul]; omega) (by rw [← Int.natCast_mul]; omega)
    have hsum : int32 ((k : Int) + chunk) = some ((k + chunk : Nat) : Int) :=
      int32_eq (by omega) (by omega)
    have hpass : spiRepeatPass s answers unit capacity failed count ((k : Int), line) =
        some (if result < 0 then .done (failed result, line')
          else .next (((k + chunk : Nat) : Int), line')) := by
      unfold spiRepeatPass
      dsimp only
      rw [if_pos (Int.ofNat_lt.mpr hlt), hrest]
      simp only [Option.bind_eq_bind, Option.bind_some, heq, hproduct, Int.toNat_natCast, htransfer,
        hsum]
      split_ifs <;> rfl
    rcases hend with ⟨hnonneg, hcovered', hok'⟩ | ⟨hneg, hstopped⟩
    · left
      refine ⟨_, by rw [hpass, if_neg (by omega)], .intro htiled' hcovered' hle hok', ?_⟩
      show ((count : Int) - (k + chunk : Nat)).toNat < ((count : Int) - k).toNat
      omega
    · right
      refine ⟨_, by rw [hpass, if_pos hneg], ?_⟩
      exact htiled'.stopped (by rw [hrepeats.length]; omega) (hfailed result hneg) hstopped
  · right
    -- nothing is left
    obtain rfl : k = count := by omega
    refine ⟨_, if_neg (Int.lt_irrefl _), ?_⟩
    rw [← hrepeats.length]
    exact htiled.complete hok (hcovered.trans hrepeats.byteLength.symm)

variable (answers) in
/-- **A read is defined**, and goes through all of its destination or up to a transaction that
fails. -/
theorem read_spec (hdevice : s.device ≠ none) (hfit : call.BuffersFit)
    (hrepeats : call.Repeats unit count) (hcapacity : 0 < capacity)
    (hsmall : capacity * unit.length < 2 ^ 31) {failed : Int → Int}
    (hfailed : ∀ result < 0, failed result < 0) :
    ∃ r, loop (spiRepeatPass s answers unit capacity failed count) (count + 1)
        (0, spiLine call.destination) = some r ∧ SpiPerformed answers call r := by
  have hstart : SpiReading answers call unit count (((0 : Nat) : Int), spiLine call.destination) :=
    .intro (spiTiled_nil answers call) (Nat.zero_mul _).symm (Nat.zero_le _) nofun
  apply loop_spec (fun p => ((count : Int) - p.1).toNat)
    (fun p h => h.pass hdevice hfit hrepeats hcapacity hsmall hfailed) hstart
  show ((count : Int) - (0 : Nat)).toNat < count + 1
  omega

variable (answers) in
/-- A call of one transfer. -/
theorem transfer_performed (hdevice : s.device ≠ none) (hfit : call.BuffersFit)
    (hsmall : call.byteLength < 2 ^ 31) (hlength : 0 ≤ call.length.toInt)
    (hsource : call.byteLength ≠ 0 → call.source ≠ none)
    (hstream : call.stream = call.source.getD []) :
    ∃ r, bmxEsp32SpiTransfer s answers (spiPointer call.source) (spiOffset call.destination)
        call.byteLength (spiLine call.destination) = some r ∧
      spiWordResult call.byteLength r = r ∧
      SpiPerformed answers call (spiWordResult call.length.toInt r) := by
  have hbounds : InBounds (spiPointer call.source) (spiOffset call.destination)
      (call.destination.getD []) call.byteLength := by
    constructor
    · intro p hp
      obtain ⟨block, hblock, rfl⟩ := Option.map_eq_some_iff.mp hp
      rw [Nat.zero_add]
      exact hfit.source block hblock
    · intro offset hoffset
      obtain ⟨block, hblock, rfl⟩ := Option.map_eq_some_iff.mp hoffset
      rw [Nat.zero_add, hblock]
      exact hfit.destination block hblock
  have hpointer : call.byteLength ≠ 0 →
      spiPointer call.source ≠ none ∨ spiOffset call.destination ≠ none := by
    intro h
    left
    rw [spiPointer, ne_eq, Option.map_eq_none_iff]
    exact hsource h
  obtain ⟨r, htransfer, hended⟩ := transfer_spec answers [] hdevice
    hbounds hsmall hpointer
  exact ⟨r, htransfer, hended.wordResult, hended.performed hfit hlength hstream⟩

end Transfer

/-! ### The six calls, again -/

theorem spiMissing_eq_false {buffer : Option (List UInt8)} {length : Int32}
    (h : length ≠ 0 → buffer ≠ none) : spiMissing buffer length = false := by
  rw [spiMissing, Bool.and_eq_false_iff, decide_eq_false_iff_not, Option.isNone_eq_false_iff,
    Option.isSome_iff_ne_none]
  by_cases hlength : length = 0
  · exact .inl (not_not.mpr hlength)
  · exact .inr (h hlength)

theorem spiMaxWords_le {length : Int32} (h : length ≤ spiMaxWords) : length.toInt < 2 ^ 30 := by
  have hmax : spiMaxWords.toInt = 2 ^ 30 - 1 := by decide
  rw [Int32.le_iff_toInt_le, hmax] at h
  omega

namespace SpiBlocking

variable {call : SpiBlocking}

theorem natCast_byteLength (h : 0 ≤ call.length) :
    0 ≤ call.length.toInt ∧ (call.byteLength : Int) = call.length.toInt * call.size := by
  rw [Int32.le_iff_toInt_le, Int32.toInt_zero] at h
  refine ⟨h, ?_⟩
  rw [byteLength, Int.natCast_mul, Int.toNat_of_nonneg h, Int.mul_comm]

theorem length_ne_zero (h : call.byteLength ≠ 0) : call.length ≠ 0 := by
  intro hzero
  rw [byteLength, hzero] at h
  exact h (Nat.mul_zero _)

/-- The repeated value of a read, `count` times. -/
theorem repeats (call : SpiBlocking) (unit : List UInt8) (hlength : 0 ≤ call.length) (hsource : call.source = none)
    (hsize : call.size = unit.length)
    (hstream : call.stream = spiRepeated unit call.length.toInt.toNat)
    (hdestination : call.length ≠ 0 → call.destination ≠ none) :
    call.Repeats unit call.length.toInt.toNat := by
  obtain ⟨hnonneg, -⟩ := natCast_byteLength hlength
  refine ⟨hsource, hsize, hstream, (Int.toNat_of_nonneg hnonneg).symm, ?_, ?_⟩
  · rw [byteLength, hsize, Nat.mul_comm]
  · intro hcount
    apply hdestination
    intro hzero
    rw [hzero] at hcount
    exact hcount rfl

end SpiBlocking

section Cases

variable {s : SpiState} {answers : Nat → SpiAnswer} {call : SpiBlocking}

/-- An 8-bit call of one transfer. -/
theorem byteTransfer_performed (hdevice : s.device ≠ none) (hfit : call.BuffersFit)
    (hlength : 0 ≤ call.length) (hsize : call.size = 1)
    (hsource : call.length ≠ 0 → call.source ≠ none) (hstream : call.stream = call.source.getD [])
    (hperform : call.perform s answers = bmxEsp32SpiTransfer s answers (spiPointer call.source)
      (spiOffset call.destination) call.length.toInt (spiLine call.destination)) :
    ∃ r, call.perform s answers = some r ∧ SpiPerformed answers call r := by
  obtain ⟨hnonneg, hbytes⟩ := SpiBlocking.natCast_byteLength hlength
  have hlt := call.length.toInt_lt
  rw [hsize, Int.natCast_one, Int.mul_one] at hbytes
  obtain ⟨r, htransfer, hresult, hperformed⟩ := transfer_performed answers hdevice
    hfit (by omega) hnonneg (fun h => hsource (SpiBlocking.length_ne_zero h)) hstream
  rw [hbytes] at htransfer hresult
  rw [hresult] at hperformed
  exact ⟨r, hperform.trans htransfer, hperformed⟩

/-- A 16-bit call of one transfer. -/
theorem wordTransfer_performed (hdevice : s.device ≠ none) (hfit : call.BuffersFit)
    (hlength : 0 ≤ call.length) (hmax : call.length ≤ spiMaxWords) (hsize : call.size = 2)
    (hsource : call.length ≠ 0 → call.source ≠ none) (hstream : call.stream = call.source.getD [])
    (hperform : call.perform s answers = do
      let byteLength ← int32 (call.length.toInt * 2)
      let result ← bmxEsp32SpiTransfer s answers (spiPointer call.source)
        (spiOffset call.destination) byteLength (spiLine call.destination)
      return spiWordResult call.length.toInt result) :
    ∃ r, call.perform s answers = some r ∧ SpiPerformed answers call r := by
  obtain ⟨hnonneg, hbytes⟩ := SpiBlocking.natCast_byteLength hlength
  have hlt := spiMaxWords_le hmax
  rw [hsize] at hbytes
  have hproduct : int32 (call.length.toInt * 2) = some (call.byteLength : Int) := by
    rw [hbytes]
    exact int32_eq (by omega) (by omega)
  obtain ⟨r, htransfer, -, hperformed⟩ := transfer_performed answers hdevice
    hfit (by omega) hnonneg (fun h => hsource (SpiBlocking.length_ne_zero h)) hstream
  refine ⟨_, ?_, hperformed⟩
  rw [hperform, hproduct, Option.bind_eq_bind, Option.bind_some, htransfer]
  rfl

/-- A read. -/
theorem read_performed (hdevice : s.device ≠ none) (hfit : call.BuffersFit)
    {unit : List UInt8} (hrepeats : call.Repeats unit call.length.toInt.toNat) (capacity : Nat)
    (hcapacity : 0 < capacity) (hsmall : capacity * unit.length < 2 ^ 31) (failed : Int → Int)
    (hfailed : ∀ result < 0, failed result < 0)
    (hperform : call.perform s answers =
      loop (spiRepeatPass s answers unit capacity failed call.length.toInt)
        (call.length.toInt.toNat + 1) (0, spiLine call.destination)) :
    ∃ r, call.perform s answers = some r ∧ SpiPerformed answers call r := by
  obtain ⟨r, hloop, hperformed⟩ := read_spec answers hdevice hfit hrepeats hcapacity
    hsmall hfailed
  rw [← hrepeats.length] at hloop
  exact ⟨r, hperform.trans hloop, hperformed⟩

end Cases

/-- **A call is defined**, whichever of the six it is. -/
theorem SpiBlocking.performed {s : SpiState} (hdevice : s.device ≠ none) {call : SpiBlocking}
    (haccepted : call.Accepted s) (hfit : call.BuffersFit) (answers : Nat → SpiAnswer) :
    ∃ r, call.perform s answers = some r ∧ SpiPerformed answers call r := by
  have hgeneric : spiErrorGeneric < 0 := by decide
  -- frames of 8 bits are one transfer, frames of 16 bits one of twice the bytes, reads a loop
  cases call with
  | writeRead source destination length =>
    obtain ⟨hformat, hlength, hbuffers⟩ := haccepted
    have hsource := spiMissing_eq_false fun h => (hbuffers h).1
    have hdestination := spiMissing_eq_false fun h => (hbuffers h).2
    apply byteTransfer_performed hdevice hfit hlength rfl (fun h => (hbuffers h).1) rfl
    apply if_neg
    simp [hformat, Int32.not_lt.mpr hlength, hsource, hdestination]
  | write source length =>
    obtain ⟨hformat, hlength, hbuffer⟩ := haccepted
    apply byteTransfer_performed hdevice hfit hlength rfl hbuffer rfl
    apply if_neg
    simp [hformat, Int32.not_lt.mpr hlength, spiMissing_eq_false hbuffer]
  | read repeatedData destination length =>
    obtain ⟨hformat, hdata, hlength, hbuffer⟩ := haccepted
    have hrepeats := SpiBlocking.repeats (.read repeatedData destination length)
      [repeatedData.toUInt8] hlength rfl rfl rfl hbuffer
    apply read_performed hdevice hfit hrepeats 64 (by decide)
      (by show 64 * 1 < 2 ^ 31; decide) (fun _ => spiErrorGeneric) (fun _ _ => hgeneric)
    apply if_neg
    simp [hformat, Int32.not_lt.mpr hlength, UInt32.not_lt.mpr hdata, spiMissing_eq_false hbuffer]
  | write16Read16 source destination length =>
    obtain ⟨hformat, hlength, hbuffers, hmax⟩ := haccepted
    have hsource := spiMissing_eq_false fun h => (hbuffers h).1
    have hdestination := spiMissing_eq_false fun h => (hbuffers h).2
    apply wordTransfer_performed hdevice hfit hlength hmax rfl (fun h => (hbuffers h).1) rfl
    apply if_neg
    simp [hformat, Int32.not_lt.mpr hlength, Int32.not_lt.mpr hmax, hsource, hdestination]
  | write16 source length =>
    obtain ⟨hformat, hlength, hbuffer, hmax⟩ := haccepted
    apply wordTransfer_performed hdevice hfit hlength hmax rfl hbuffer rfl
    apply if_neg
    simp [hformat, Int32.not_lt.mpr hlength, Int32.not_lt.mpr hmax, spiMissing_eq_false hbuffer]
  | read16 repeatedData destination length =>
    obtain ⟨hformat, hdata, hlength, hbuffer⟩ := haccepted
    have hrepeats := SpiBlocking.repeats (.read16 repeatedData destination length)
      (wordBytes repeatedData.toUInt16) hlength rfl rfl rfl hbuffer
    apply read_performed hdevice hfit hrepeats 32 (by decide)
      (by show 32 * 2 < 2 ^ 31; decide) id (fun _ h => h)
    apply if_neg
    simp [hformat, Int32.not_lt.mpr hlength, UInt32.not_lt.mpr hdata, spiMissing_eq_false hbuffer]

/-- **Transfers tile the buffer**: an accepted call on a controller with a device is defined, its
transactions cover the buffers up to where it stops, and its result says whether that is all. -/
theorem spi_transfers_tile (s : SpiState) (hdevice : s.device ≠ none) (call : SpiBlocking)
    (haccepted : call.Accepted s) (hfit : call.BuffersFit) (answers : Nat → SpiAnswer) :
    ∃ r, call.perform s answers = some r ∧ SpiPerformed answers call r :=
  SpiBlocking.performed hdevice haccepted hfit answers

/-- A controller in 8-bit format, with a device. -/
def spiAttached : SpiState := { spiReset.state with device := some 0, dataBits := 8 }

/-- A read of 65 bytes, the last of which takes a transaction of its own. -/
theorem spi_transfers_tile_read : ∃ r,
    (SpiBlocking.read 0xff (some (List.replicate 65 0)) 65).perform spiAttached
      (fun _ => ⟨espOk, fun _ => 7⟩) = some r ∧
    r.1 = 65 ∧ r.2.covered = 65 ∧
    RangesTile (r.2.exchanges.map fun e => e.transaction.rxPiece) 65 := by
  obtain ⟨r, hr, hperformed⟩ := spi_transfers_tile spiAttached nofun
    (.read 0xff (some (List.replicate 65 0)) 65) ⟨rfl, by decide, by decide, fun _ => nofun⟩
    ⟨nofun, fun block hblock => by rw [← Option.some.inj hblock, List.length_replicate]; decide⟩
    fun _ => ⟨espOk, fun _ => 7⟩
  have hresult : r.1 = 65 := by
    have heval : ((SpiBlocking.read 0xff (some (List.replicate 65 0)) 65).perform spiAttached
        fun _ => ⟨espOk, fun _ => 7⟩).map Prod.fst = some 65 := by rfl
    rw [hr] at heval
    exact Option.some.inj heval
  obtain ⟨-, hcovered⟩ := hperformed.complete_iff.mp hresult
  have htiles := hperformed.tiled.rx _ rfl
  rw [hcovered] at htiles
  exact ⟨r, hr, hresult, hcovered, htiles⟩

end Esp32Mod
