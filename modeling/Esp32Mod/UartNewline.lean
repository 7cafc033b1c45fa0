/-
Esp32Mod/UartNewline.lean

What a blocking write hands to the UART driver (`runtime.mod/native/esp32_uart.c`), piece by piece:
`bmx_esp32_uart_write_blocking`, with its loop over the bytes if newlines are translated.

The loop runs ahead to the next line feed, hands over the bytes since the last one, if there are
any, and then CR LF from an array of its own.  `crlfChunks` of `Esp32Mod.UartBreak` is the list of
these pieces, and the loop writes them one after the other (`newlineLoop_eq`).

Main result:

* `uart_newline` — the pieces together are the source with a CR before every LF, up to the first
  piece that the driver does not take.
-/
import Esp32Mod.Checked
import Esp32Mod.Stuffing
import Esp32Mod.UartBreak

namespace Esp32Mod

open Checked Stuffing

/-! ### The write

`writes` are the pieces that `uart_write_bytes` has been given, and `answer k` is what it returns
for the piece that comes after `k` others. -/

/-- The loop variables of the translation. -/
structure NewlineScan where
  index : Int
  start : Int
  writes : List (List UInt8)

namespace BreakSystem

section Write

variable (s : BreakSystem) (answer : Nat → Int32)

/-- A write of a piece, which must be taken whole. -/
def writeRawRun (writes : List (List UInt8)) (source : List UInt8) : Int32 × List (List UInt8) :=
  if source = [] then (0, writes)
  else if s.breakAsserted = true then (-1, writes)
  else
    let length := Int32.ofNat source.length
    (if answer writes.length = length then length else -1, writes ++ [source])

/-- `bytes` from `start` to `stop`, if there are any. -/
def writeRunOf (bytes : List UInt8) (start stop : Int) (writes : List (List UInt8)) :
    Option (Int32 × List (List UInt8)) :=
  if start < stop then do
    let length ← int32 (stop - start)
    let source ← load bytes start.toNat length.toNat
    return s.writeRawRun answer writes source
  else some (0, writes)

/-- A pass of the loop over the bytes: a line feed ends a piece. -/
def newlinePass (bytes : List UInt8) (length : Int32) (p : NewlineScan) :
    Option (Pass NewlineScan (Int32 × List (List UInt8))) :=
  if p.index < length.toInt then do
    let byte ← load bytes p.index.toNat 1
    let next ← int32 (p.index + 1)
    if byte ≠ [10] then return .next { p with index := next }
    -- the bytes before the line feed, and then `crlf`
    let (result, writes) ← s.writeRunOf answer bytes p.start p.index p.writes
    if result < 0 then return .done (-1, writes)
    let (result, writes) := s.writeRawRun answer writes [13, 10]
    if result < 0 then return .done (-1, writes)
    return .next ⟨next, next, writes⟩
  else do
    let (result, writes) ← s.writeRunOf answer bytes p.start length.toInt p.writes
    return .done (if result < 0 then -1 else length, writes)

/-- The result, and the pieces that have been handed over; `none` if the source ends before
`length` bytes. -/
def writeBlockingRun (source : Option (List UInt8)) (length : Int32) :
    Option (Int32 × List (List UInt8)) :=
  if ¬ s.bmxEsp32UartBufferValid source length then some (uartInvalidArgument, [])
  else if length = 0 then some (0, [])
  else if s.translateCrlf = false then do
    let bytes ← load (source.getD []) 0 length.toInt.toNat
    return s.writeRawRun answer [] bytes
  else
    loop (s.newlinePass answer (source.getD []) length) (length.toInt.toNat + 1) ⟨0, 0, []⟩

/-- Raw writes one after the other, until one fails. -/
def writePieces : List (List UInt8) → List (List UInt8) → Bool × List (List UInt8)
  | writes, [] => (true, writes)
  | writes, source :: rest =>
    let (result, writes) := s.writeRawRun answer writes source
    if result < 0 then (false, writes) else writePieces writes rest

end Write

end BreakSystem

/-! ### The statement -/

/-- The driver has taken each of the pieces as a whole. -/
def TakenWhole (answer : Nat → Int32) (writes : List (List UInt8)) : Prop :=
  ∀ k piece, writes[k]? = some piece → answer k = Int32.ofNat piece.length

/-- The pieces of a call that has `output` to write, and its result. -/
structure UartDelivers (s : BreakSystem) (answer : Nat → Int32) (output : List UInt8)
    (length : Int32) (r : Int32 × List (List UInt8)) : Prop where
  complete : s.breakAsserted = false → TakenWhole answer r.2 →
    r.1 = length ∧ r.2.flatten = output
  failed : s.breakAsserted = false → ¬ TakenWhole answer r.2 →
    r.1 = -1 ∧ ∃ taken piece, r.2 = taken ++ [piece] ∧ TakenWhole answer taken ∧
      taken.flatten ++ piece <+: output
  broken : s.breakAsserted = true → output ≠ [] → r = (-1, [])

/-! ### Pieces -/

section Pieces

variable {s : BreakSystem} {answer : Nat → Int32} {writes pieces : List (List UInt8)}
  {piece bytes pending : List UInt8}

theorem takenWhole_concat :
    TakenWhole answer (writes ++ [piece]) ↔
      TakenWhole answer writes ∧ answer writes.length = Int32.ofNat piece.length := by
  constructor
  · refine fun h => ⟨fun k p hk => h k p ?_, h _ _ List.getElem?_concat_length⟩
    rw [List.getElem?_append_left (List.getElem?_eq_some_iff.mp hk).1, hk]
  · rintro ⟨hwrites, hpiece⟩ k p hk
    rcases Nat.lt_trichotomy k writes.length with hlt | rfl | hgt
    · rw [List.getElem?_append_left hlt] at hk
      exact hwrites k p hk
    · rw [List.getElem?_concat_length] at hk
      rw [hpiece, Option.some.inj hk]
    · have hlength := (List.getElem?_eq_some_iff.mp hk).1
      rw [List.length_append, List.length_singleton] at hlength
      omega

/-- The number of bytes is not negative. -/
theorem ofNat_length_nonneg (h : piece.length < 2 ^ 31) : ¬ Int32.ofNat piece.length < 0 := by
  rw [Int32.lt_iff_toInt_lt, Int32.toInt_ofNat_of_lt h, Int32.toInt_zero]
  omega

/-- A raw write of something. -/
theorem writeRawRun_some (answer : Nat → Int32) (writes : List (List UInt8))
    (hbreak : s.breakAsserted = false) (hpiece : piece ≠ [])
    (hlength : piece.length < 2 ^ 31) :
    (s.writeRawRun answer writes piece).2 = writes ++ [piece] ∧
      ((s.writeRawRun answer writes piece).1 < 0 ↔
        answer writes.length ≠ Int32.ofNat piece.length) := by
  rw [BreakSystem.writeRawRun, if_neg hpiece, if_neg (Bool.eq_false_iff.mp hbreak)]
  refine ⟨rfl, ?_⟩
  dsimp only
  by_cases htaken : answer writes.length = Int32.ofNat piece.length
  · rw [if_pos htaken]
    exact iff_of_false (ofNat_length_nonneg hlength) (not_not_intro htaken)
  · rw [if_neg htaken]
    exact iff_of_true (by decide) htaken

/-- **The pieces go out in order**, up to the first that the driver does not take. -/
theorem writePieces_spec (hbreak : s.breakAsserted = false)
    (hpieces : ∀ piece ∈ pieces, piece ≠ [] ∧ piece.length < 2 ^ 31)
    (htaken : TakenWhole answer writes) :
    (s.writePieces answer writes pieces = (true, writes ++ pieces) ∧
      TakenWhole answer (writes ++ pieces)) ∨
    ∃ before piece after, pieces = before ++ piece :: after ∧
      s.writePieces answer writes pieces = (false, writes ++ before ++ [piece]) ∧
      TakenWhole answer (writes ++ before) ∧
      ¬ TakenWhole answer (writes ++ before ++ [piece]) := by
  -- each piece that is taken joins those that have been written
  induction pieces generalizing writes with
  | nil =>
    refine Or.inl ⟨?_, ?_⟩ <;> rw [List.append_nil]
    · rfl
    · exact htaken
  | cons piece rest ih =>
    obtain ⟨hpiece, hlength⟩ := hpieces piece List.mem_cons_self
    obtain ⟨hwrites, hresult⟩ := writeRawRun_some answer writes hbreak hpiece hlength
    rw [BreakSystem.writePieces]
    dsimp only
    rw [hwrites]
    by_cases hanswer : answer writes.length = Int32.ofNat piece.length
    · -- taken: the rest is written behind it
      have hnext := takenWhole_concat.mpr ⟨htaken, hanswer⟩
      rw [if_neg fun h => hresult.mp h hanswer]
      rcases ih (fun p hp => hpieces p (List.mem_cons_of_mem _ hp)) hnext with h | h
      · rw [List.append_assoc, List.singleton_append] at h
        exact Or.inl h
      · obtain ⟨before, p, after, rfl, h⟩ := h
        rw [List.append_assoc writes, List.singleton_append] at h
        exact Or.inr ⟨piece :: before, p, after, rfl, h⟩
    · -- not taken: it is the last
      rw [if_pos (hresult.mpr hanswer)]
      refine Or.inr ⟨[], piece, rest, rfl, ?_, ?_, ?_⟩ <;> rw [List.append_nil]
      · exact htaken
      · exact fun h => hanswer (takenWhole_concat.mp h).2

/-- With a break nothing goes out. -/
theorem writePieces_break (hbreak : s.breakAsserted = true) (hpiece : piece ≠ []) :
    s.writePieces answer writes (piece :: pieces) = (false, writes) := by
  rw [BreakSystem.writePieces, BreakSystem.writeRawRun, if_neg hpiece, if_pos hbreak]
  rfl

end Pieces

/-! ### The pieces of a translation -/

section Chunks

variable {pending bytes piece : List UInt8} {byte : UInt8}

theorem crlfChunks_other (h : byte ≠ 10) :
    BreakSystem.crlfChunks pending (byte :: bytes) =
      BreakSystem.crlfChunks (pending ++ [byte]) bytes := by
  rw [BreakSystem.crlfChunks, if_pos h]

theorem crlfChunks_newline :
    BreakSystem.crlfChunks pending (10 :: bytes) =
      [pending].filter (· ≠ []) ++ [13, 10] :: BreakSystem.crlfChunks [] bytes := by
  rw [BreakSystem.crlfChunks, if_neg (not_not_intro rfl)]

/-- What is pending is a piece, or empty. -/
theorem mem_pending (h : piece ∈ [pending].filter (· ≠ [])) : piece ≠ [] ∧ piece = pending := by
  obtain ⟨hmem, hne⟩ := List.mem_filter.mp h
  exact ⟨of_decide_eq_true hne, List.mem_singleton.mp hmem⟩

theorem filter_pending (h : pending ≠ []) : [pending].filter (· ≠ []) = [pending] :=
  List.filter_eq_self.mpr fun _ hp => decide_eq_true (List.mem_singleton.mp hp ▸ h)

theorem flatten_pending : ([pending].filter (· ≠ [])).flatten = pending := by
  by_cases h : pending = []
  · rw [h]
    rfl
  · rw [filter_pending h, List.flatten_singleton]

/-- **The pieces together are the translation.** -/
theorem flatten_crlfChunks :
    (BreakSystem.crlfChunks pending bytes).flatten = pending ++ stuff 13 10 bytes := by
  induction bytes generalizing pending with
  | nil => rw [BreakSystem.crlfChunks, flatten_pending, stuff_nil, List.append_nil]
  | cons byte bytes ih =>
    by_cases hbyte : byte = 10
    · subst hbyte
      rw [crlfChunks_newline, List.flatten_append, flatten_pending, List.flatten_cons, ih,
        stuff_cons_mark]
      rfl
    · rw [crlfChunks_other hbyte, ih, stuff_cons_other hbyte, List.append_assoc,
        List.singleton_append]

theorem mem_crlfChunks (h : piece ∈ BreakSystem.crlfChunks pending bytes) :
    piece ≠ [] ∧ piece.length ≤ max 2 (pending.length + bytes.length) := by
  induction bytes generalizing pending with
  | nil =>
    obtain ⟨hne, rfl⟩ := mem_pending h
    exact ⟨hne, Nat.le_max_right _ _⟩
  | cons byte bytes ih =>
    by_cases hbyte : byte = 10
    · subst hbyte
      rw [crlfChunks_newline, List.mem_append, List.mem_cons] at h
      rcases h with h | rfl | h
      · obtain ⟨hne, rfl⟩ := mem_pending h
        exact ⟨hne, by omega⟩
      · exact ⟨List.cons_ne_nil _ _, Nat.le_max_left _ _⟩
      · obtain ⟨hne, hle⟩ := ih h
        rw [List.length_nil] at hle
        rw [List.length_cons]
        exact ⟨hne, by omega⟩
    · rw [crlfChunks_other hbyte] at h
      obtain ⟨hne, hle⟩ := ih h
      rw [List.length_append, List.length_singleton] at hle
      rw [List.length_cons]
      exact ⟨hne, by omega⟩

end Chunks

/-! ### The loop -/

section Loop

variable {s : BreakSystem} {answer : Nat → Int32} {bytes : List UInt8} {length : Int32}
  {writes rest : List (List UInt8)} {i j : Nat}

/-- The bytes since the last newline, at position `i`. -/
def sinceNewline (bytes : List UInt8) (j i : Nat) : List UInt8 := (bytes.drop j).take (i - j)

theorem writeRunOf_eq (s : BreakSystem) (answer : Nat → Int32) (writes : List (List UInt8))
    (hji : j ≤ i) (hi : i ≤ bytes.length) (hsmall : i < 2 ^ 31) :
    s.writeRunOf answer bytes j i writes =
      some (s.writeRawRun answer writes (sinceNewline bytes j i)) := by
  unfold BreakSystem.writeRunOf
  rcases Nat.lt_or_eq_of_le hji with hlt | rfl
  · have hlength : int32 ((i : Int) - j) = some ((i : Int) - j) :=
      int32_eq (by omega) (by omega)
    have hcount : ((i : Int) - j).toNat = i - j := by omega
    rw [if_pos (Int.ofNat_lt.mpr hlt), hlength]
    dsimp only [Option.bind_eq_bind, Option.bind_some]
    rw [Int.toNat_natCast, hcount, load_eq (by omega)]
    rfl
  · rw [if_neg (lt_irrefl _), sinceNewline, Nat.sub_self, List.take_zero]
    rfl

/-- Writing what is pending, and the rest. -/
theorem writePieces_pending (pending : List UInt8) :
    s.writePieces answer writes ([pending].filter (· ≠ []) ++ rest) =
      if (s.writeRawRun answer writes pending).1 < 0 then
        (false, (s.writeRawRun answer writes pending).2)
      else s.writePieces answer (s.writeRawRun answer writes pending).2 rest := by
  by_cases h : pending = []
  · subst h
    rfl
  · rw [filter_pending h, List.singleton_append]
    rfl

/-- What is still to be written when the loop is at `i`, the last newline being right before
`j`. -/
def piecesFrom (bytes : List UInt8) (j i : Nat) : List (List UInt8) :=
  BreakSystem.crlfChunks (sinceNewline bytes j i) (bytes.drop i)

theorem piecesFrom_other (hji : j ≤ i) {byte : UInt8} (hbyte : bytes[i]? = some byte)
    (hother : byte ≠ 10) : piecesFrom bytes j i = piecesFrom bytes j (i + 1) := by
  obtain ⟨hi, rfl⟩ := List.getElem?_eq_some_iff.mp hbyte
  have hnext : sinceNewline bytes j (i + 1) = sinceNewline bytes j i ++ [bytes[i]] := by
    have hlast : (bytes.drop j)[i - j]? = some bytes[i] := by
      rw [List.getElem?_drop, Nat.add_sub_cancel' hji, hbyte]
    rw [sinceNewline, Nat.sub_add_comm hji, List.take_add_one, hlast]
    rfl
  rw [piecesFrom, piecesFrom, hnext, List.drop_eq_getElem_cons hi, crlfChunks_other hother]

theorem piecesFrom_newline (hbyte : bytes[i]? = some 10) :
    piecesFrom bytes j i = [sinceNewline bytes j i].filter (· ≠ []) ++
      [13, 10] :: piecesFrom bytes (i + 1) (i + 1) := by
  obtain ⟨hi, heq⟩ := List.getElem?_eq_some_iff.mp hbyte
  have hnone : sinceNewline bytes (i + 1) (i + 1) = [] := by
    rw [sinceNewline, Nat.sub_self, List.take_zero]
  rw [piecesFrom, piecesFrom, hnone, List.drop_eq_getElem_cons hi, heq, crlfChunks_newline]

/-- At the end. -/
theorem piecesFrom_length : piecesFrom bytes j bytes.length =
    [sinceNewline bytes j bytes.length].filter (· ≠ []) := by
  rw [piecesFrom, List.drop_length]
  rfl

/-- What the loop returns, when the pieces have been written. -/
def writtenResult (length : Int32) (written : Bool × List (List UInt8)) :
    Int32 × List (List UInt8) :=
  (if written.1 = true then length else -1, written.2)

/-- A pass at `i` writes the pieces that end there, and leaves the others. -/
theorem newlinePass_spec (s : BreakSystem) (answer : Nat → Int32)
    (writes : List (List UInt8)) (hlength : length.toInt = bytes.length) (hji : j ≤ i)
    (hi : i ≤ bytes.length) :
    (∃ j' writes', i < bytes.length ∧ j' ≤ i + 1 ∧
      s.newlinePass answer bytes length ⟨i, j, writes⟩ =
        some (.next ⟨(i + 1 : Nat), j', writes'⟩) ∧
      s.writePieces answer writes (piecesFrom bytes j i) =
        s.writePieces answer writes' (piecesFrom bytes j' (i + 1))) ∨
    s.newlinePass answer bytes length ⟨i, j, writes⟩ =
      some (.done (writtenResult length (s.writePieces answer writes (piecesFrom bytes j i)))) := by
  have hsmall := length.toInt_lt
  have hflush := writeRunOf_eq s answer writes hji hi (by omega)
  unfold BreakSystem.newlinePass
  dsimp only
  rcases Nat.lt_or_eq_of_le hi with hlt | rfl
  · have hbyte := List.getElem?_eq_getElem hlt
    have hload : load bytes (i : Int).toNat 1 = some [bytes[i]] := by
      rw [Int.toNat_natCast, load_eq hlt, List.drop_eq_getElem_cons hlt]
      rfl
    have hnext : int32 ((i : Int) + 1) = some ((i : Int) + 1) := int32_eq (by omega) (by omega)
    rw [if_pos (by omega), hload, hnext, hflush]
    dsimp only [Option.bind_eq_bind, Option.bind_some]
    by_cases hother : bytes[i] = 10
    · rw [if_neg (not_not_intro (congrArg (fun x => [x]) hother))]
      rw [hother] at hbyte
      rw [piecesFrom_newline hbyte, writePieces_pending]
      -- the bytes since the last newline, and then CR LF
      split
      next => exact Or.inr rfl
      next =>
        rw [BreakSystem.writePieces]
        dsimp only
        split
        next => exact Or.inr rfl
        next => exact Or.inl ⟨i + 1, _, hlt, Nat.le_refl _, rfl, rfl⟩
    · rw [if_pos (fun h => hother (List.singleton_inj.mp h)), piecesFrom_other hji hbyte hother]
      exact Or.inl ⟨j, writes, hlt, by omega, rfl, rfl⟩
  · -- what is left behind the last newline
    refine Or.inr ?_
    rw [hlength, if_neg (lt_irrefl _), hflush, piecesFrom_length,
      ← List.append_nil (List.filter _ _), writePieces_pending]
    dsimp only [Option.bind_eq_bind, Option.bind_some]
    split
    next hfailed => rfl
    next hok => rfl

/-- **The loop writes the pieces**, whatever the driver answers. -/
theorem newlineLoop_eq (hlength : length.toInt = bytes.length) :
    loop (s.newlinePass answer bytes length) (bytes.length + 1) ⟨0, 0, []⟩ =
      some (writtenResult length
        (s.writePieces answer [] (BreakSystem.crlfChunks [] bytes))) := by
  have hspec : ∃ r, loop (s.newlinePass answer bytes length) (bytes.length + 1) ⟨0, 0, []⟩ =
      some r ∧ r = writtenResult length
        (s.writePieces answer [] (BreakSystem.crlfChunks [] bytes)) := by
    apply loop_spec (I := fun p => ∃ i j : Nat, p.index = (i : Int) ∧ p.start = (j : Int) ∧
      j ≤ i ∧ i ≤ bytes.length ∧ s.writePieces answer p.writes (piecesFrom bytes j i) =
        s.writePieces answer [] (BreakSystem.crlfChunks [] bytes))
      (fun p => bytes.length - p.index.toNat)
    · rintro ⟨_, _, writes⟩ ⟨i, j, rfl, rfl, hji, hi, hpieces⟩
      dsimp only at hpieces ⊢
      rcases newlinePass_spec s answer writes hlength hji hi with
        ⟨j', writes', hlt, hj', hpass, hsame⟩ | hpass
      · refine Or.inl ⟨_, hpass, ⟨i + 1, j', rfl, rfl, hj', hlt, hsame ▸ hpieces⟩, ?_⟩
        dsimp only
        omega
      · rw [hpieces] at hpass
        exact Or.inr ⟨_, hpass, rfl⟩
    · exact ⟨0, 0, rfl, rfl, Nat.le_refl 0, Nat.zero_le _, rfl⟩
    · exact Nat.lt_succ_of_le (Nat.sub_le _ _)
  obtain ⟨r, hr, rfl⟩ := hspec
  exact hr

end Loop

/-! ### The call -/

section Call

variable {s : BreakSystem} {answer : Nat → Int32} {source : List UInt8} {length : Int32}

/-- What the driver is to be given. -/
def uartPieces (translateCrlf : Bool) (source : List UInt8) : List (List UInt8) :=
  if translateCrlf = true then BreakSystem.crlfChunks [] source else [source].filter (· ≠ [])

theorem flatten_uartPieces (translateCrlf : Bool) :
    (uartPieces translateCrlf source).flatten =
      if translateCrlf = true then stuff 13 10 source else source := by
  unfold uartPieces
  split
  next => rw [flatten_crlfChunks, List.nil_append]
  next => exact flatten_pending

theorem mem_uartPieces {translateCrlf : Bool} {piece : List UInt8}
    (h : piece ∈ uartPieces translateCrlf source) :
    piece ≠ [] ∧ piece.length ≤ max 2 source.length := by
  unfold uartPieces at h
  split at h
  next =>
    obtain ⟨hne, hle⟩ := mem_crlfChunks h
    rw [List.length_nil, Nat.zero_add] at hle
    exact ⟨hne, hle⟩
  next =>
    obtain ⟨hne, rfl⟩ := mem_pending h
    exact ⟨hne, Nat.le_max_right _ _⟩

theorem toNat_length (hlength : length.toInt = source.length) :
    length.toInt.toNat = source.length := by
  rw [hlength, Int.toNat_natCast]

theorem length_eq_zero_iff (hlength : length.toInt = source.length) :
    length = 0 ↔ source = [] := by
  rw [← Int32.toInt_inj, hlength, ← List.length_eq_zero_iff]
  exact Int.natCast_eq_zero

/-- The pieces are as long as an `int32_t` can say. -/
theorem uartPieces_small (hlength : length.toInt = source.length) {translateCrlf : Bool} :
    ∀ piece ∈ uartPieces translateCrlf source, piece ≠ [] ∧ piece.length < 2 ^ 31 := by
  intro piece hpiece
  obtain ⟨hne, hle⟩ := mem_uartPieces hpiece
  have hsmall := length.toInt_lt
  exact ⟨hne, by omega⟩

/-- A raw write is the piece by itself. -/
theorem writeRawRun_eq (hlength : length.toInt = source.length) (hsource : source ≠ []) :
    s.writeRawRun answer [] source =
      writtenResult length (s.writePieces answer [] [source]) := by
  have hsmall : source.length < 2 ^ 31 := by
    have := length.toInt_lt
    omega
  have hcount : Int32.ofNat source.length = length :=
    Int32.toInt_inj.mp (by rw [Int32.toInt_ofNat_of_lt hsmall, hlength])
  have hnonneg := ofNat_length_nonneg hsmall
  rw [hcount] at hnonneg
  unfold BreakSystem.writePieces BreakSystem.writeRawRun
  rw [if_neg hsource, hcount]
  by_cases hbreak : s.breakAsserted = true
  · rw [if_pos hbreak]
    rfl
  · rw [if_neg hbreak]
    dsimp only
    by_cases htaken : answer (List.length ([] : List (List UInt8))) = length
    · rw [if_pos htaken, if_neg hnonneg]
      rfl
    · rw [if_neg htaken]
      rfl

theorem bufferValid_of_length (hinitialized : s.initialized = true)
    (hlength : length.toInt = source.length) : s.bmxEsp32UartBufferValid (some source) length := by
  refine ⟨hinitialized, Int32.le_iff_toInt_le.mpr ?_, Or.inr (Option.some_ne_none source)⟩
  rw [hlength]
  exact Int.natCast_nonneg _

/-- **A blocking write writes its pieces.** -/
theorem writeBlockingRun_eq (hinitialized : s.initialized = true)
    (hlength : length.toInt = source.length) :
    s.writeBlockingRun answer (some source) length =
      some (writtenResult length (s.writePieces answer [] (uartPieces s.translateCrlf source))) := by
  unfold BreakSystem.writeBlockingRun
  rw [if_neg (not_not_intro (bufferValid_of_length hinitialized hlength)), Option.getD_some,
    toNat_length hlength]
  by_cases hzero : length = 0
  · obtain rfl := (length_eq_zero_iff hlength).mp hzero
    subst hzero
    rw [if_pos rfl, uartPieces]
    split <;> rfl
  · have hsource := mt (length_eq_zero_iff hlength).mpr hzero
    rw [if_neg hzero, uartPieces]
    by_cases htranslate : s.translateCrlf = true
    · rw [if_neg (Bool.not_eq_false _ ▸ htranslate), if_pos htranslate, newlineLoop_eq hlength]
    · rw [if_pos ((Bool.not_eq_true _).mp htranslate), if_neg htranslate, filter_pending hsource,
        load_eq (by rw [Nat.zero_add]), List.drop_zero, List.take_length,
        ← writeRawRun_eq hlength hsource]
      rfl

/-- Pieces that are written one after the other are delivered. -/
theorem delivers_pieces {pieces : List (List UInt8)}
    (hpieces : ∀ piece ∈ pieces, piece ≠ [] ∧ piece.length < 2 ^ 31) :
    UartDelivers s answer pieces.flatten length
      (writtenResult length (s.writePieces answer [] pieces)) := by
  have hnone : TakenWhole answer [] := fun k piece h => by
    rw [List.getElem?_nil] at h
    exact absurd h.symm (Option.some_ne_none piece)
  refine ⟨fun hbreak htaken => ?_, fun hbreak hfailed => ?_, fun hbreak houtput => ?_⟩
  · rcases writePieces_spec hbreak hpieces hnone with ⟨heq, -⟩ |
      ⟨before, piece, after, -, heq, -, hbad⟩ <;> rw [heq] at htaken ⊢
    · exact ⟨rfl, rfl⟩
    · exact absurd htaken hbad
  · rcases writePieces_spec hbreak hpieces hnone with ⟨heq, hall⟩ |
      ⟨before, piece, after, rfl, heq, hbefore, -⟩ <;> rw [heq] at hfailed ⊢
    · exact absurd hall hfailed
    · refine ⟨rfl, before, piece, rfl, hbefore, after.flatten, ?_⟩
      rw [List.flatten_append, List.flatten_cons, List.append_assoc]
  · cases pieces with
    | nil => exact absurd rfl houtput
    | cons piece rest =>
      rw [writePieces_break hbreak (hpieces piece List.mem_cons_self).1]
      rfl

end Call

/-! ### The machine's write

The write of `Esp32Mod.UartBreak` is told how many bytes the driver takes, and keeps what has been
handed over in its state. -/

/-- The answers of the driver from piece `k` on. -/
def UartAnswers (answer : Nat → Int32) (k : Nat) (written : List Nat) : Prop :=
  ∀ j, written.getD j 0 < 2 ^ 31 ∧ answer (k + j) = Int32.ofNat (written.getD j 0)

theorem ofNat_inj_small {n m : Nat} (hn : n < 2 ^ 31) (hm : m < 2 ^ 31) :
    Int32.ofNat n = Int32.ofNat m ↔ n = m := by
  rw [← Int32.toInt_inj, Int32.toInt_ofNat_of_lt hn, Int32.toInt_ofNat_of_lt hm, Int.natCast_inj]

section Machine

variable {s t : BreakSystem} {answer : Nat → Int32} {writes pieces : List (List UInt8)}
  {piece source : List UInt8} {written : List Nat} {length : Int32}

theorem UartAnswers.head (h : UartAnswers answer writes.length written) :
    written.headD 0 < 2 ^ 31 ∧ answer writes.length = Int32.ofNat (written.headD 0) := by
  have hfirst := h 0
  cases written with
  | nil => exact hfirst
  | cons n written => exact hfirst

theorem UartAnswers.tail (h : UartAnswers answer writes.length written) (piece : List UInt8) :
    UartAnswers answer (writes ++ [piece]).length written.tail := by
  intro j
  have hnext := h (j + 1)
  rw [List.length_append, List.length_singleton, Nat.add_assoc, Nat.add_comm 1]
  cases written with
  | nil => exact hnext
  | cons n written => exact hnext

theorem writeRaw_erase (hsame : t.breakAsserted = s.breakAsserted)
    (hsmall : piece.length < 2 ^ 31) (hanswers : UartAnswers answer writes.length written) :
    (s.bmxEsp32UartWriteRaw piece (written.headD 0)).1 = (t.writeRawRun answer writes piece).1 ∧
    ∃ new, (t.writeRawRun answer writes piece).2 = writes ++ new ∧
      (s.bmxEsp32UartWriteRaw piece (written.headD 0)).2.handed = s.handed ++ new.flatten ∧
      (s.bmxEsp32UartWriteRaw piece (written.headD 0)).2.breakAsserted = s.breakAsserted ∧
      (0 ≤ (t.writeRawRun answer writes piece).1 → piece ≠ [] → new = [piece]) := by
  obtain ⟨hhead, hanswer⟩ := hanswers.head
  unfold BreakSystem.bmxEsp32UartWriteRaw BreakSystem.writeRawRun
  rw [hsame]
  by_cases hpiece : piece = []
  · rw [if_pos hpiece, if_pos hpiece]
    exact ⟨rfl, [], (List.append_nil _).symm, (List.append_nil _).symm, rfl,
      fun _ hne => absurd hpiece hne⟩
  · rw [if_neg hpiece, if_neg hpiece]
    by_cases hbreak : s.breakAsserted = true
    · rw [if_pos hbreak, if_pos hbreak]
      exact ⟨rfl, [], (List.append_nil _).symm, (List.append_nil _).symm, rfl,
        fun hnonneg => absurd hnonneg (Int32.not_le.mpr (by decide : (-1 : Int32) < 0))⟩
    · rw [if_neg hbreak, if_neg hbreak]
      dsimp only
      rw [hanswer, if_congr (ofNat_inj_small hhead hsmall).symm rfl rfl]
      refine ⟨rfl, [piece], rfl, ?_, rfl, fun _ _ => rfl⟩
      rw [List.flatten_singleton]
      rfl

theorem writeChunks_erase (hsame : t.breakAsserted = s.breakAsserted)
    (hpieces : ∀ piece ∈ pieces, piece ≠ [] ∧ piece.length < 2 ^ 31)
    (hanswers : UartAnswers answer writes.length written) :
    (s.writeChunks pieces written).1 = (t.writePieces answer writes pieces).1 ∧
    ∃ new, (t.writePieces answer writes pieces).2 = writes ++ new ∧
      (s.writeChunks pieces written).2.handed = s.handed ++ new.flatten := by
  induction pieces generalizing s writes written with
  | nil => exact ⟨rfl, [], (List.append_nil _).symm, (List.append_nil _).symm⟩
  | cons piece rest ih =>
    obtain ⟨hpiece, hsmall⟩ := hpieces piece List.mem_cons_self
    obtain ⟨hresult, new, hwrites, hhanded, hbreak, htaken⟩ := writeRaw_erase hsame hsmall hanswers
    rw [BreakSystem.writeChunks, BreakSystem.writePieces]
    dsimp only
    rw [hresult]
    by_cases hfailed : (t.writeRawRun answer writes piece).1 < 0
    · rw [if_pos hfailed, if_pos hfailed]
      exact ⟨rfl, new, hwrites, hhanded⟩
    · obtain rfl := htaken (Int32.not_lt.mp hfailed) hpiece
      rw [if_neg hfailed, if_neg hfailed, hwrites]
      obtain ⟨hrest, later, hlater, hhanded'⟩ := ih (hsame.trans hbreak.symm)
        (fun p hp => hpieces p (List.mem_cons_of_mem _ hp)) (hanswers.tail piece)
      refine ⟨hrest, piece :: later, ?_, ?_⟩
      · rw [hlater, List.append_assoc, List.singleton_append]
      · rw [hhanded', hhanded, List.append_assoc, List.flatten_singleton, List.flatten_cons]

/-- **The machine's write is this one**, without the bounds between its pieces. -/
theorem writeBlocking_erase (hinitialized : s.initialized = true)
    (hlength : length.toInt = source.length)
    (hanswers : UartAnswers answer ([] : List (List UInt8)).length written) :
    ∃ r, s.writeBlockingRun answer (some source) length = some r ∧
      (s.bmxEsp32UartWriteBlocking (some source) length written).1 = r.1 ∧
      (s.bmxEsp32UartWriteBlocking (some source) length written).2.handed =
        s.handed ++ r.2.flatten := by
  have hsmall := length.toInt_lt
  refine ⟨_, writeBlockingRun_eq hinitialized hlength, ?_⟩
  unfold BreakSystem.bmxEsp32UartWriteBlocking
  rw [if_neg (not_not_intro (bufferValid_of_length hinitialized hlength)), Option.getD_some,
    toNat_length hlength, List.take_length]
  -- the early return of the source writes no piece
  by_cases hzero : length = 0
  · obtain rfl := (length_eq_zero_iff hlength).mp hzero
    subst hzero
    rw [if_pos rfl, uartPieces]
    split <;> exact ⟨rfl, (List.append_nil _).symm⟩
  · have hsource := mt (length_eq_zero_iff hlength).mpr hzero
    rw [if_neg hzero, uartPieces]
    -- with the translation there is a piece around each line feed, without it just one
    by_cases htranslate : s.translateCrlf = true
    · have hpieces : ∀ piece ∈ uartPieces true source, piece ≠ [] ∧ piece.length < 2 ^ 31 :=
        uartPieces_small hlength
      obtain ⟨hresult, new, hwrites, hhanded⟩ :=
        writeChunks_erase (Eq.refl s.breakAsserted) hpieces hanswers
      rw [uartPieces, if_pos rfl] at hresult hwrites hhanded
      rw [if_neg (Bool.not_eq_false _ ▸ htranslate), if_pos htranslate]
      dsimp only [writtenResult]
      rw [hresult, hhanded, hwrites]
      exact ⟨rfl, rfl⟩
    · have hsource' : source.length < 2 ^ 31 := by omega
      obtain ⟨hresult, new, hwrites, hhanded, -, -⟩ :=
        writeRaw_erase (Eq.refl s.breakAsserted) hsource' hanswers
      rw [if_pos ((Bool.not_eq_true _).mp htranslate), if_neg htranslate, filter_pending hsource,
        ← writeRawRun_eq hlength hsource, hwrites]
      exact ⟨hresult, hhanded⟩

end Machine

/-- **The driver is given the source, with a CR before every LF if newlines are translated**, as far
as it takes what it is given; and the source can be read back from it. -/
theorem uart_newline (s : BreakSystem) (answer : Nat → Int32) (source : List UInt8)
    (length : Int32) (hinitialized : s.initialized = true)
    (hlength : length.toInt = source.length) :
    (∃ r, s.writeBlockingRun answer (some source) length = some r ∧
      UartDelivers s answer (if s.translateCrlf = true then stuff 13 10 source else source)
        length r) ∧
    unstuff 10 (stuff 13 10 source) = source ∧
    ∀ other, stuff 13 10 source = stuff 13 10 other → source = other := by
  refine ⟨⟨_, writeBlockingRun_eq hinitialized hlength, ?_⟩, unstuff_stuff (by decide) source,
    fun other h => stuff_injective (by decide) h⟩
  rw [← flatten_uartPieces]
  exact delivers_pieces (uartPieces_small hlength)

/-- `X` and a line feed, of which the driver takes all. -/
theorem uart_newline_line : ∃ r,
    ({ breakBoot.setInitialized true with translateCrlf := true }).writeBlockingRun
      (fun k => if k = 0 then 1 else 2) (some [88, 10]) 2 = some r ∧
      UartDelivers { breakBoot.setInitialized true with translateCrlf := true }
        (fun k => if k = 0 then 1 else 2) [88, 13, 10] 2 r :=
  (uart_newline _ _ [88, 10] 2 rfl (by decide)).1

end Esp32Mod
