/-
Esp32Mod/BlePendingReads.lean

The pending reads of the BLE client (`network.mod/ble.mod/native/esp32_ble.c`): the four
slots of `bmx_ble_client_reads`, which `bmx_embedded_ble_client_read` fills on the
application task while `bmx_ble_client_read_callback` and the loop of
`BLE_GAP_EVENT_DISCONNECT` use and release them on the NimBLE host task.

A step is one access to a slot, one NimBLE call or one call of `bmx_ble_queue`; a chunk is
taken in as one step, as no other task writes to a slot in use.  Of NimBLE the model has the
reads that it has accepted: such a read gets any number of chunks and one terminal
callback, nothing after a callback that returned nonzero, and a link is reported as broken
only when it has no read left, nor is a read accepted on it while its event is handled.

A call of `client_read` is known by its number.  An accepted read records, outside the
source, the bytes that have been copied into its slot; a completion records the read in
whose callback it was submitted.

Main results:

* `pending_reads` — one completion for each read that was started, with its own handles and
  its own bytes; four reads at most; a slot is in use only for a read that goes on — in
  every run whose steps are all `ReadOrderly`;
* `pending_reads_broken` — without the condition a read is never completed.
-/
import Esp32Mod.BleLongRead
import Esp32Mod.StepMachine

namespace Esp32Mod

open StepMachine Machine

/-! ### Calls and reads -/

/-- What a call of `client_read` has returned. -/
structure ReadReturn where
  id : Nat
  /-- the request, if the arguments were accepted -/
  request : Option ReadRequest
  result : BleHs
  /-- what `ble_gattc_read_long` has answered, if it was called -/
  nimble : Option BleHs
  /-- how many reads were outstanding when the call began to look for a slot -/
  outstanding : Nat

/-- A read that NimBLE has accepted, with the pieces that have been copied into its slot. -/
structure PendingRead where
  id : Nat
  slot : Fin 4
  request : ReadRequest
  received : List (Nat × List UInt8)

/-- The stores of `client_read` into its slot, in order. -/
inductive ReadStore
  | clear | active | connectionHandle | attributeHandle | startOffset
  deriving DecidableEq

/-- `memset(read, 0, sizeof(*read))`. -/
def BMXBLEClientRead.zero : BMXBLEClientRead := ⟨false, 0, 0, 0, 0, Vector.replicate 512 0⟩

/-- One assignment to the slot. -/
def ReadStore.store (q : ReadRequest) (read : BMXBLEClientRead) : ReadStore → BMXBLEClientRead
  | clear => .zero
  | active => { read with active := true }
  | connectionHandle => { read with connectionHandle := q.connectionHandle }
  | attributeHandle => { read with attributeHandle := q.attributeHandle }
  | startOffset => { read with startOffset := q.offset }

/-- How far a call of `client_read` has come. -/
inductive ReadCaller
  | idle
  /-- look at slot `index`; `outstanding` reads were going on when the search began -/
  | search (q : ReadRequest) (index outstanding : Nat)
  | fill (q : ReadRequest) (i : Fin 4) (next : ReadStore) (outstanding : Nat)
  | submit (q : ReadRequest) (i : Fin 4) (outstanding : Nat)
  | release (q : ReadRequest) (i : Fin 4) (result : BleHs) (outstanding : Nat)

/-- How far a callback of the host has come. -/
inductive ReadHost
  | idle
  /-- the callback of `p`: look at `read->active` -/
  | check (p : PendingRead) (report : ReadReport) (flat : FlatAnswer)
  | chunk (p : PendingRead) (offset : UInt16) (om : OsMbuf) (flat : FlatAnswer)
  | complete (p : PendingRead) (status : Int32)
  | release (p : PendingRead) (event : BMXBLEEvent)
  | queue (p : PendingRead) (event : BMXBLEEvent)
  /-- `DISCONNECT`: look at slot `index` -/
  | disconnect (connHandle : UInt16) (index : Nat)
  | disconnectClear (connHandle : UInt16) (index : Fin 4)

/-- The slots, the call and the callback under way, and what has been accepted and submitted. -/
structure ReadSystem where
  slots : Fin 4 → BMXBLEClientRead
  caller : ReadCaller
  host : ReadHost
  /-- the reads that NimBLE has accepted and that are not in a callback -/
  pending : List PendingRead
  returned : List ReadReturn
  completes : List (PendingRead × BMXBLEEvent)

/-- The steps of the application and of the host. -/
inductive ReadAction
  | call (initialized ready : Bool) (connectionHandle attributeHandle : Int32) (offset : UInt32)
  /-- a step of the call; NimBLE answers `answer` if it is asked -/
  | app (answer : BleHs)
  /-- the host calls back for the `k`-th pending read -/
  | callback (k : Nat) (report : ReadReport) (flat : FlatAnswer)
  | disconnect (connHandle : UInt16)
  | host

/-- What a chunk leaves in the record of its read: the bytes that were copied, if any were. -/
def PendingRead.take (p : PendingRead) (read : BMXBLEClientRead) (offset : UInt16) (om : OsMbuf)
    (flat : FlatAnswer) : PendingRead :=
  let destination := offset.toUInt32 - read.startOffset.toUInt32
  if offset < read.startOffset ∨ 512 < destination + om.pktlen.toUInt32 then p
  else { p with received := p.received ++ [(destination.toNat, om.data.take flat.copied.toNat)] }

/-- A report that ends the read. -/
def ReadReport.terminal (report : ReadReport) : Bool := report.status != 0 || report.attr.isNone

/-- The read in whose callback the host is, until its slot is released. -/
def ReadHost.held : ReadHost → List PendingRead
  | check p _ _ | chunk p _ _ _ | complete p _ | release p _ => [p]
  | _ => []

/-- The completion that is about to be submitted. -/
def ReadHost.queued : ReadHost → List (PendingRead × BMXBLEEvent)
  | queue p event => [(p, event)]
  | _ => []

namespace ReadSystem

/-- The reads that NimBLE has accepted and that have not released their slot. -/
def outstanding (s : ReadSystem) : List PendingRead := s.host.held ++ s.pending

/-- Write a slot. -/
def setSlot (s : ReadSystem) (i : Fin 4) (read : BMXBLEClientRead) : ReadSystem :=
  { s with slots := Function.update s.slots i read }

/-- Return from `client_read`. -/
def finish (s : ReadSystem) (request : Option ReadRequest) (result : BleHs)
    (nimble : Option BleHs) (outstanding : Nat) : ReadSystem :=
  { s with
    caller := .idle
    returned := s.returned ++ [⟨s.returned.length, request, result, nimble, outstanding⟩] }

/-! ### The application task -/

/-- A call starts when there is none. -/
def callStep (s : ReadSystem) (request : Option ReadRequest) : Option ReadSystem :=
  match s.caller with
  | .idle =>
    match request with
    | none => some (s.finish none .einval none s.outstanding.length)
    | some q => some { s with caller := .search q 0 s.outstanding.length }
  | _ => none

/-- After a store: the next one, or the call of NimBLE. -/
def afterStore (q : ReadRequest) (i : Fin 4) (n : Nat) : ReadStore → ReadCaller
  | .clear => .fill q i .active n
  | .active => .fill q i .connectionHandle n
  | .connectionHandle => .fill q i .attributeHandle n
  | .attributeHandle => .fill q i .startOffset n
  | .startOffset => .submit q i n

/-- No read is accepted on a link while the host handles its `DISCONNECT`. -/
def Refused (s : ReadSystem) (connHandle : UInt16) : Bool :=
  match s.host with
  | .disconnect h _ | .disconnectClear h _ => h == connHandle
  | _ => false

/-- The call goes on: it looks at a slot, writes a field or asks NimBLE. -/
def bmxEmbeddedBleClientRead (s : ReadSystem) (answer : BleHs) : ReadCaller → Option ReadSystem
  | .idle => none
  | .search q index n =>
    if h : index < 4 then
      if (s.slots ⟨index, h⟩).active then some { s with caller := .search q (index + 1) n }
      else some { s with caller := .fill q ⟨index, h⟩ .clear n }
    else some (s.finish (some q) .ebusy none n)
  | .fill q i store n =>
    some { s.setSlot i (store.store q (s.slots i)) with caller := afterStore q i n store }
  | .submit q i n =>
    if answer = .ok then
      if s.Refused q.connectionHandle then none
      else
        some { s.finish (some q) .ok (some .ok) n with
          pending := s.pending ++ [⟨s.returned.length, i, q, []⟩] }
    else some { s with caller := .release q i answer n }
  | .release q i result n =>
    some ((s.setSlot i { s.slots i with active := false }).finish (some q) result (some result) n)

/-! ### The host task -/

/-- The host calls back for a read when no callback is under way. -/
def callbackStep (s : ReadSystem) (k : Nat) (report : ReadReport) (flat : FlatAnswer) :
    Option ReadSystem :=
  match s.host, s.pending[k]? with
  | .idle, some p => some { s with host := .check p report flat, pending := s.pending.eraseIdx k }
  | _, _ => none

/-- The host reports the loss of a link, on which no read is going on. -/
def disconnectStep (s : ReadSystem) (connHandle : UInt16) : Option ReadSystem :=
  match s.host with
  | .idle =>
    if s.pending.all fun p => p.request.connectionHandle ≠ connHandle then
      some { s with host := .disconnect connHandle 0 }
    else none
  | _ => none

/-- The callback returns 0, and the read goes on. -/
def goOn (s : ReadSystem) (p : PendingRead) : ReadSystem :=
  { s with host := .idle, pending := s.pending ++ [p] }

/-- The callback goes on. -/
def hostStep (s : ReadSystem) : ReadHost → Option ReadSystem
  | .idle => none
  | .check p report flat =>
    if (s.slots p.slot).active then
      match report.attr with
      | some (offset, om) =>
        if report.status = 0 then some { s with host := .chunk p offset om flat }
        else some { s with host := .complete p report.status }
      | none => some { s with host := .complete p report.status }
    else if report.terminal then some { s with host := .idle }
    else some (s.goOn p)
  | .chunk p offset om flat =>
    let r := bmxBleClientReadChunk (s.slots p.slot) offset om flat
    let p' := p.take (s.slots p.slot) offset om flat
    if r.2 = 0 then some ((s.setSlot p.slot r.1).goOn p')
    else some { s.setSlot p.slot r.1 with host := .complete p' r.2 }
  | .complete p status =>
    some { s with host := .release p (bmxBleClientReadComplete (s.slots p.slot) status).1 }
  | .release p event =>
    some { s.setSlot p.slot { s.slots p.slot with active := false } with host := .queue p event }
  | .queue p event => some { s with host := .idle, completes := s.completes ++ [(p, event)] }
  | .disconnect connHandle index =>
    if h : index < 4 then
      if (s.slots ⟨index, h⟩).active ∧ (s.slots ⟨index, h⟩).connectionHandle = connHandle then
        some { s with host := .disconnectClear connHandle ⟨index, h⟩ }
      else some { s with host := .disconnect connHandle (index + 1) }
    else some { s with host := .idle }
  | .disconnectClear connHandle i =>
    some { s.setSlot i { s.slots i with active := false } with
      host := .disconnect connHandle (i + 1) }

/-- The application and the host take turns in any order. -/
def step (s : ReadSystem) : ReadAction → Option ReadSystem
  | .call initialized ready connectionHandle attributeHandle offset =>
    s.callStep (readRequest initialized ready connectionHandle attributeHandle offset)
  | .app answer => s.bmxEmbeddedBleClientRead answer s.caller
  | .callback k report flat => s.callbackStep k report flat
  | .disconnect connHandle => s.disconnectStep connHandle
  | .host => s.hostStep s.host

/-- No read has been started. -/
structure Boot (s : ReadSystem) : Prop where
  slots : ∀ i, s.slots i = .zero
  caller : s.caller = .idle
  host : s.host = .idle
  pending : s.pending = []
  returned : s.returned = []
  completes : s.completes = []

end ReadSystem

/-- Any interleaving of the application and the host. -/
def readMachine : Machine ReadSystem ReadAction where
  init := ReadSystem.Boot
  step := ReadSystem.step

/-! ### What a slot and a completion hold -/

namespace PendingRead

/-- The slot of an outstanding read. -/
structure Owns (p : PendingRead) (read : BMXBLEClientRead) : Prop where
  active : read.active = true
  connectionHandle : read.connectionHandle = p.request.connectionHandle
  attributeHandle : read.attributeHandle = p.request.attributeHandle
  startOffset : read.startOffset = p.request.offset
  length_le : read.length.toNat ≤ 512
  length_reach : read.length.toNat ≤ Buffer.reach p.received
  value : read.value = Buffer.assemble (Vector.replicate 512 0) p.received

/-- What a completion says: the handles of the read, and the bytes received for it.  Where
the host has left a gap between two pieces there are zeros. -/
structure Completion (p : PendingRead) (event : BMXBLEEvent) : Prop where
  kind : event.kind = .readComplete
  connectionHandle : event.connectionHandle = p.request.connectionHandle
  attributeId : event.attributeId = p.request.attributeHandle
  length_le : event.dataLength.toNat ≤ 512
  byte : ∀ k (hk : k < 512), k < event.dataLength.toNat →
    Buffer.Brought p.received k event.data[k] ∨
      Buffer.Gap p.received k ∧ event.data[k] = 0
  contiguous : Buffer.Contiguous p.received → ∀ k (hk : k < 512), k < event.dataLength.toNat →
    Buffer.Brought p.received k event.data[k]

variable {p : PendingRead} {read : BMXBLEClientRead} {offset : UInt16} {om : OsMbuf}
  {flat : FlatAnswer}

theorem Owns.completion (h : p.Owns read) (status : Int32) :
    p.Completion (bmxBleClientReadComplete read status).1 := by
  have hcell : ∀ k (hk : k < 512), k < read.length.toNat →
      (bmxBleClientReadComplete read status).1.data[k]
        = (Buffer.assemble (Vector.replicate 512 0) p.received)[k] := by
    intro k hk hlt
    have hvalue := h.value
    simp only [bmxBleClientReadComplete, copied, Vector.getElem_ofFn]
    rw [if_pos hlt, List.getD_eq_getElem?_getD, List.getElem?_eq_getElem (by simpa using hk)]
    simp only [Option.getD_some, Vector.getElem_toList, hvalue]
  have hbyte : ∀ k (hk : k < 512), k < read.length.toNat →
      Buffer.Brought p.received k (bmxBleClientReadComplete read status).1.data[k] ∨
        Buffer.Gap p.received k ∧ (bmxBleClientReadComplete read status).1.data[k] = 0 := by
    intro k hk hlt
    rw [hcell k hk hlt]
    rcases Buffer.assemble_cell (Vector.replicate 512 0) p.received hk with hpiece | ⟨hgap, hzero⟩
    · exact Or.inl hpiece
    · exact Or.inr ⟨hgap, by rw [hzero, Vector.getElem_replicate]⟩
  refine ⟨rfl, h.connectionHandle, h.attributeHandle, h.length_le, hbyte, ?_⟩
  intro hcontiguous k hk hlt
  rcases hbyte k hk hlt with hpiece | ⟨hgap, -⟩
  · exact hpiece
  · have hreach : k < Buffer.reach p.received := Nat.lt_of_lt_of_le hlt h.length_reach
    exact absurd hgap (hcontiguous.covered hreach)

/-- Bytes are copied into the slot, and the read is at most as long as they go. -/
theorem Owns.copy (h : p.Owns read) (d : Nat) (bytes : List UInt8) {length : UInt16}
    (hsmall : length.toNat ≤ 512)
    (hlength : length.toNat ≤ max (Buffer.reach p.received) (d + bytes.length)) :
    Owns { p with received := p.received ++ [(d, bytes)] }
      { read with value := Buffer.blit read.value d bytes, length } := by
  refine ⟨h.active, h.connectionHandle, h.attributeHandle, h.startOffset, hsmall, ?_, ?_⟩
  · rw [Buffer.reach_append]
    exact hlength
  · rw [Buffer.assemble_append, ← h.value]

/-- A chunk is taken into the slot of its read, whether or not the read goes on. -/
theorem Owns.take_chunk (h : p.Owns read) :
    (p.take read offset om flat).Owns (bmxBleClientReadChunk read offset om flat).1 := by
  unfold PendingRead.take bmxBleClientReadChunk
  dsimp only
  generalize hd : offset.toUInt32 - read.startOffset.toUInt32 = destination
  -- a chunk before the start, or behind the buffer, changes nothing
  by_cases hstart : offset < read.startOffset
  · rw [if_pos (Or.inl hstart), if_pos hstart]
    exact h
  by_cases hroom : 512 < destination + om.pktlen.toUInt32
  · rw [if_pos (Or.inr hroom), if_neg hstart, if_pos hroom]
    exact h
  rw [if_neg (not_or.mpr ⟨hstart, hroom⟩), if_neg hstart, if_neg hroom]
  have hold : read.length.toNat ≤
      max (Buffer.reach p.received) (destination.toNat + (om.data.take flat.copied.toNat).length) :=
    h.length_reach.trans (Nat.le_max_left _ _)
  split
  · -- the copy has failed; the length stays
    exact h.copy _ _ h.length_le hold
  · next hflat =>
    obtain ⟨-, hcopied⟩ := not_or.mp hflat
    rw [not_not] at hcopied
    have hsum : (destination + om.pktlen.toUInt32).toNat ≤ 512 :=
      UInt32.le_iff_toNat_le.mp (UInt32.not_lt.mp hroom)
    split
    · apply h.copy
      · rw [UInt32.toNat_toUInt16]
        omega
      · have hwhole : (om.data.take flat.copied.toNat).length = om.data.length := by
          rw [hcopied, List.length_take, OsMbuf.toNat_pktlen, Nat.min_self]
        have hle : (destination + om.pktlen.toUInt32).toNat
            ≤ destination.toNat + om.data.length := by
          rw [UInt32.toNat_add, UInt16.toNat_toUInt32, OsMbuf.toNat_pktlen]
          exact Nat.mod_le _ _
        rw [UInt32.toNat_toUInt16, hwhole]
        omega
    · exact h.copy _ _ h.length_le hold

end PendingRead

/-! ### The slots -/

/-- The slots of the pending reads. -/
abbrev ReadSlots := Fin 4 → BMXBLEClientRead

/-- The slot that a call in progress is filling. -/
def ReadCaller.filling : ReadCaller → List (Fin 4)
  | fill _ i _ _ | submit _ i _ | release _ i _ _ => [i]
  | _ => []

/-- Each outstanding read has its own slot, and no other slot is in use but the one that is
being filled. -/
structure ReadSlots.Sound (slots : ReadSlots) (outstanding : List PendingRead)
    (filling : List (Fin 4)) : Prop where
  owned : ∀ p ∈ outstanding, p.Owns (slots p.slot)
  apart : (outstanding.map (·.slot) ++ filling).Nodup
  active : ∀ i, (slots i).active = true → i ∈ outstanding.map (·.slot) ++ filling

namespace ReadSlots.Sound

variable {slots : ReadSlots} {l l' : List PendingRead} {filling : List (Fin 4)} {i : Fin 4}
  {p p' : PendingRead} {read : BMXBLEClientRead}

theorem perm (h : Sound slots l filling) (hperm : l.Perm l') : Sound slots l' filling := by
  have hslots := (hperm.map (·.slot)).append_right filling
  refine ⟨?_, hslots.nodup_iff.mp h.apart, ?_⟩
  · intro p hp
    exact h.owned p (hperm.mem_iff.mpr hp)
  · intro i hi
    exact hslots.mem_iff.mp (h.active i hi)

/-- At most four reads are outstanding. -/
theorem length_le (h : Sound slots l filling) : l.length ≤ 4 := by
  have hnodup := (List.nodup_append.mp h.apart).1
  have hcard := hnodup.length_le_card
  rwa [List.length_map, Fintype.card_fin] at hcard

/-- A slot that is not in use is free for a call. -/
theorem find (h : Sound slots l []) (hfree : (slots i).active = false) : Sound slots l [i] := by
  have hnot : i ∉ l.map (·.slot) := by
    intro hmem
    obtain ⟨p, hp, rfl⟩ := List.mem_map.mp hmem
    have hactive := (h.owned p hp).active
    rw [hfree] at hactive
    cases hactive
  refine ⟨h.owned, ?_, ?_⟩
  · have hapart := h.apart
    rw [List.append_nil] at hapart
    rw [List.nodup_append]
    refine ⟨hapart, List.nodup_singleton i, ?_⟩
    intro a ha b hb hab
    obtain rfl := List.mem_singleton.mp hb
    exact hnot (hab ▸ ha)
  · intro j hj
    exact List.mem_append_left _ (by simpa using h.active j hj)

/-- The slot that is being filled belongs to no outstanding read. -/
theorem store (h : Sound slots l [i]) (read : BMXBLEClientRead) :
    Sound (Function.update slots i read) l [i] := by
  refine ⟨?_, h.apart, ?_⟩
  · intro p hp
    have hne : p.slot ≠ i := by
      intro heq
      exact (List.nodup_append.mp h.apart).2.2 p.slot (List.mem_map_of_mem hp) i
        (List.mem_singleton_self i) heq
    rw [Function.update_of_ne hne]
    exact h.owned p hp
  · intro j hj
    by_cases heq : j = i
    · rw [heq]
      exact List.mem_append_right _ (List.mem_singleton_self i)
    · rw [Function.update_of_ne heq] at hj
      exact h.active j hj

/-- The host accepts the read: its slot is filled. -/
theorem accept (h : Sound slots l [p.slot]) (howns : p.Owns (slots p.slot)) :
    Sound slots (l ++ [p]) [] := by
  have hslots : (l ++ [p]).map (·.slot) ++ [] = l.map (·.slot) ++ [p.slot] := by
    rw [List.map_append, List.append_nil]
    rfl
  refine ⟨?_, by rw [hslots]; exact h.apart, by rw [hslots]; exact h.active⟩
  intro p' hp'
  rcases List.mem_append.mp hp' with hp' | hp'
  · exact h.owned p' hp'
  · obtain rfl := List.mem_singleton.mp hp'
    exact howns

/-- The host refuses it: the slot is free again. -/
theorem giveUp (h : Sound slots l [i]) (hfree : (slots i).active = false) : Sound slots l [] := by
  refine ⟨h.owned, ?_, ?_⟩
  · rw [List.append_nil]
    exact (List.nodup_append.mp h.apart).1
  · intro j hj
    rcases List.mem_append.mp (h.active j hj) with hmem | hmem
    · exact List.mem_append_left _ hmem
    · rw [List.mem_singleton.mp hmem, hfree] at hj
      cases hj

/-- The other reads have other slots. -/
theorem other_slot (h : Sound slots (p :: l) filling) (hp' : p' ∈ l) : p'.slot ≠ p.slot := by
  have hapart := (List.nodup_append.mp h.apart).1
  rw [List.map_cons, List.nodup_cons] at hapart
  intro heq
  exact hapart.1 (heq ▸ List.mem_map_of_mem hp')

/-- A read takes in a chunk. -/
theorem write (h : Sound slots (p :: l) filling) (hslot : p'.slot = p.slot)
    (howns : p'.Owns read) : Sound (Function.update slots p.slot read) (p' :: l) filling := by
  have hslots : (p' :: l).map (·.slot) = (p :: l).map (·.slot) := by
    rw [List.map_cons, List.map_cons, hslot]
  refine ⟨?_, by rw [hslots]; exact h.apart, ?_⟩
  · intro q hq
    rcases List.mem_cons.mp hq with rfl | hq
    · rw [hslot, Function.update_self]
      exact howns
    · rw [Function.update_of_ne (h.other_slot hq)]
      exact h.owned q (List.mem_cons_of_mem _ hq)
  · intro j hj
    rw [hslots]
    by_cases heq : j = p.slot
    · rw [heq]
      exact List.mem_append_left _ List.mem_cons_self
    · rw [Function.update_of_ne heq] at hj
      exact h.active j hj

/-- A read releases its slot. -/
theorem release (h : Sound slots (p :: l) filling) (hfree : read.active = false) :
    Sound (Function.update slots p.slot read) l filling := by
  have hapart := h.apart
  rw [List.map_cons, List.cons_append, List.nodup_cons] at hapart
  refine ⟨?_, hapart.2, ?_⟩
  · intro q hq
    rw [Function.update_of_ne (h.other_slot hq)]
    exact h.owned q (List.mem_cons_of_mem _ hq)
  · intro j hj
    by_cases heq : j = p.slot
    · rw [heq, Function.update_self, hfree] at hj
      cases hj
    · rw [Function.update_of_ne heq] at hj
      have hmem := h.active j hj
      rw [List.map_cons, List.cons_append] at hmem
      exact (List.mem_cons.mp hmem).resolve_left heq

end ReadSlots.Sound

/-! ### The claim and its condition -/

/-- All reads that NimBLE has ever accepted. -/
def ReadSystem.reads (s : ReadSystem) : List PendingRead :=
  s.outstanding ++ (s.host.queued ++ s.completes).map (·.1)

/-- What is right about the pending reads. -/
structure ReadSystem.PendingReads (s : ReadSystem) : Prop where
  /-- a read that was started is outstanding, or its completion is being submitted, or it has
  been; a call that has failed has none -/
  once : ∀ r ∈ s.returned,
    (s.outstanding.map (·.id)).count r.id + (s.host.queued.map (·.1.id)).count r.id +
      (s.completes.map (·.1.id)).count r.id = if r.result = .ok then 1 else 0
  /-- a completion belongs to a call that has returned 0 -/
  own : ∀ p ∈ s.reads, ∃ r ∈ s.returned, r.id = p.id ∧ r.request = some p.request ∧ r.result = .ok
  completion : ∀ c ∈ s.completes, c.1.Completion c.2
  four : s.outstanding.length ≤ 4
  /-- (`BLE_HS_EBUSY` from NimBLE itself is passed on) -/
  busy : ∀ r ∈ s.returned, r.result = .ebusy → r.outstanding = 4 ∨ r.nimble = some .ebusy
  /-- a slot is in use for an outstanding read, or for the call in progress -/
  free : ∀ i, (s.slots i).active = true →
    (∃ p ∈ s.outstanding, p.slot = i) ∨ i ∈ s.caller.filling
  lost : ∀ connHandle index, s.host = .disconnect connHandle index →
    ∀ p ∈ s.outstanding, p.request.connectionHandle ≠ connHandle

/-- The condition on a step: the loop of `DISCONNECT` does not find, in use for its link, the
slot that a call is filling. -/
def ReadOrderly (s : ReadSystem) : ReadAction → Prop
  | .host =>
    match s.host with
    | .disconnect connHandle index =>
      ∀ i ∈ s.caller.filling, i.val = index →
        ¬ ((s.slots i).active = true ∧ (s.slots i).connectionHandle = connHandle)
    | _ => True
  | _ => True

/-! ### The invariant -/

/-- How many slots from `index` on are in use. -/
def ReadSlots.inUse (slots : ReadSlots) (index : Nat) : Nat :=
  (Finset.univ.filter fun i : Fin 4 => index ≤ i.val ∧ (slots i).active = true).card

/-- What is in the slot before a store. -/
def ReadStore.Before (q : ReadRequest) (read : BMXBLEClientRead) : ReadStore → Prop
  | clear => read.active = false
  | active => read = .zero
  | connectionHandle => read = { BMXBLEClientRead.zero with active := true }
  | attributeHandle =>
    read = { BMXBLEClientRead.zero with active := true, connectionHandle := q.connectionHandle }
  | startOffset =>
    read = { BMXBLEClientRead.zero with
      active := true, connectionHandle := q.connectionHandle,
      attributeHandle := q.attributeHandle }

/-- Every slot that the search has passed was in use when it began. -/
def ReadCaller.Sound (slots : ReadSlots) : ReadCaller → Prop
  | search _ index n => index + slots.inUse index ≤ n ∧ n ≤ 4
  | fill q i next _ => next.Before q (slots i)
  | submit q i _ => slots i = q.slot
  | release _ _ result _ => result ≠ .ok
  | idle => True

/-- What a callback has found still holds. -/
def ReadHost.Sound (outstanding : List PendingRead) : ReadHost → Prop
  | release p event | queue p event => p.Completion event
  | disconnect connHandle _ => ∀ p ∈ outstanding, p.request.connectionHandle ≠ connHandle
  | disconnectClear _ _ => False
  | _ => True

/-- What identifies a read. -/
def PendingRead.key (p : PendingRead) : Nat × ReadRequest := (p.id, p.request)

/-- The calls that have started a read. -/
def startedReads (returned : List ReadReturn) : List (Nat × ReadRequest) :=
  returned.filterMap fun r => if r.result = .ok then r.request.map fun q => (r.id, q) else none

/-- The calls are numbered, and what they have returned has its reason. -/
structure ReturnsSound (returned : List ReadReturn) : Prop where
  ids : returned.map (·.id) = List.range returned.length
  okRequest : ∀ r ∈ returned, r.result = .ok → r.request.isSome = true
  busy : ∀ r ∈ returned, r.result = .ebusy → r.outstanding = 4 ∨ r.nimble = some .ebusy

/-- The invariant of the runs whose steps meet the condition. -/
structure ReadSystem.Inv (s : ReadSystem) : Prop where
  slots : ReadSlots.Sound s.slots s.outstanding s.caller.filling
  caller : s.caller.Sound s.slots
  host : s.host.Sound s.outstanding
  completion : ∀ c ∈ s.completes, c.1.Completion c.2
  started : (s.reads.map (·.key)).Perm (startedReads s.returned)
  returns : ReturnsSound s.returned

namespace ReadSystem

variable {s s' : ReadSystem}

theorem inUse_mono {slots slots' : ReadSlots}
    (h : ∀ i, (slots' i).active = true → (slots i).active = true) (index : Nat) :
    slots'.inUse index ≤ slots.inUse index := by
  apply Finset.card_le_card
  intro i hi
  rw [Finset.mem_filter] at hi ⊢
  exact ⟨hi.1, hi.2.1, h i hi.2.2⟩

/-- The search passes a slot that is in use. -/
theorem inUse_succ {slots : ReadSlots} {i : Fin 4} (h : (slots i).active = true) :
    slots.inUse i = slots.inUse (i + 1) + 1 := by
  have hinsert : (Finset.univ.filter fun j : Fin 4 => i.val ≤ j.val ∧ (slots j).active = true)
      = insert i (Finset.univ.filter fun j : Fin 4 => i.val + 1 ≤ j.val ∧ (slots j).active = true) := by
    ext j
    simp only [Finset.mem_filter, Finset.mem_univ, true_and, Finset.mem_insert]
    constructor
    · rintro ⟨hle, hj⟩
      rcases Nat.eq_or_lt_of_le hle with heq | hlt
      · exact Or.inl (Fin.ext heq.symm)
      · exact Or.inr ⟨hlt, hj⟩
    · rintro (rfl | ⟨hlt, hj⟩)
      · exact ⟨Nat.le_refl _, h⟩
      · exact ⟨by omega, hj⟩
  unfold ReadSlots.inUse
  rw [hinsert, Finset.card_insert_of_notMem]
  intro hmem
  have := (Finset.mem_filter.mp hmem).2.1
  omega

/-- The slots in use are those of the outstanding reads, while no call is filling one. -/
theorem inUse_zero_le {slots : ReadSlots} {l : List PendingRead}
    (h : ReadSlots.Sound slots l []) : slots.inUse 0 ≤ l.length := by
  have hsub : (Finset.univ.filter fun i : Fin 4 => 0 ≤ i.val ∧ (slots i).active = true)
      ⊆ (l.map (·.slot)).toFinset := by
    intro i hi
    have hmem := h.active i (Finset.mem_filter.mp hi).2.2
    rw [List.append_nil] at hmem
    exact List.mem_toFinset.mpr hmem
  calc slots.inUse 0 ≤ (l.map (·.slot)).toFinset.card := Finset.card_le_card hsub
    _ ≤ (l.map (·.slot)).length := List.toFinset_card_le _
    _ = l.length := List.length_map _

/-! ### The application task keeps the invariant -/

theorem startedReads_append (l : List ReadReturn) (r : ReadReturn) :
    startedReads (l ++ [r]) = startedReads l ++ startedReads [r] :=
  List.filterMap_append

theorem returns_append {l : List ReadReturn} (h : ReturnsSound l) {r : ReadReturn}
    (hid : r.id = l.length) (hrequest : r.result = .ok → r.request.isSome = true)
    (hbusy : r.result = .ebusy → r.outstanding = 4 ∨ r.nimble = some .ebusy) :
    ReturnsSound (l ++ [r]) := by
  refine ⟨?_, ?_, ?_⟩
  · rw [List.map_append, h.ids, List.length_append, List.length_singleton, List.range_succ,
      List.map_singleton, hid]
  · intro r' hr hok
    rcases List.mem_append.mp hr with hr | hr
    · exact h.okRequest r' hr hok
    · obtain rfl := List.mem_singleton.mp hr
      exact hrequest hok
  · intro r' hr hebusy
    rcases List.mem_append.mp hr with hr | hr
    · exact h.busy r' hr hebusy
    · obtain rfl := List.mem_singleton.mp hr
      exact hbusy hebusy

/-- A call that has not started a read returns. -/
theorem Inv.finish (h : s.Inv) (hslots : ReadSlots.Sound s.slots s.outstanding [])
    {request : Option ReadRequest} {result : BleHs} {nimble : Option BleHs} {n : Nat}
    (hresult : result ≠ .ok) (hbusy : result = .ebusy → n = 4 ∨ nimble = some .ebusy) :
    (s.finish request result nimble n).Inv := by
  refine ⟨hslots, trivial, h.host, h.completion, ?_, ?_⟩
  · have hnone : startedReads [⟨s.returned.length, request, result, nimble, n⟩] = [] := by
      simp only [startedReads, List.filterMap_cons, if_neg hresult, List.filterMap_nil]
    show (s.reads.map (·.key)).Perm (startedReads (s.returned ++ _))
    rw [startedReads_append, hnone, List.append_nil]
    exact h.started
  · exact returns_append h.returns rfl (fun hok => absurd hok hresult) hbusy

theorem Inv.call (h : s.Inv) {request : Option ReadRequest} (hs : s.callStep request = some s') :
    s'.Inv := by
  unfold callStep at hs
  split at hs
  · next hcaller =>
    have hslots := h.slots
    rw [hcaller] at hslots
    cases request with
    | none =>
      obtain rfl := Option.some.inj hs
      exact h.finish hslots (by decide) (fun hne => absurd hne (by decide))
    | some q =>
      obtain rfl := Option.some.inj hs
      refine ⟨hslots, ⟨?_, hslots.length_le⟩, h.host, h.completion, h.started, h.returns⟩
      rw [Nat.zero_add]
      exact inUse_zero_le hslots
  · cases hs

/-- Each store leaves what the next one finds. -/
theorem store_sound {slots : ReadSlots} {q : ReadRequest} {i : Fin 4} {store : ReadStore} (n : Nat)
    (h : store.Before q (slots i)) :
    (afterStore q i n store).Sound (Function.update slots i (store.store q (slots i))) := by
  cases store with
  | clear =>
    show Function.update slots i _ i = _
    rw [Function.update_self]
    rfl
  | active =>
    have h : slots i = .zero := h
    show Function.update slots i _ i = _
    rw [Function.update_self, h]
    rfl
  | connectionHandle =>
    have h : slots i = _ := h
    show Function.update slots i _ i = _
    rw [Function.update_self, h]
    rfl
  | attributeHandle =>
    have h : slots i = _ := h
    show Function.update slots i _ i = _
    rw [Function.update_self, h]
    rfl
  | startOffset =>
    have h : slots i = _ := h
    show Function.update slots i _ i = _
    rw [Function.update_self, h]
    rfl

theorem filling_afterStore (q : ReadRequest) (i : Fin 4) (n : Nat) (store : ReadStore) :
    (afterStore q i n store).filling = [i] := by
  cases store <;> rfl

/-- The slot that is submitted is that of the new read. -/
theorem owns_slot (q : ReadRequest) (id : Nat) (i : Fin 4) :
    PendingRead.Owns ⟨id, i, q, []⟩ q.slot :=
  ⟨rfl, rfl, rfl, rfl, Nat.zero_le _, Nat.le_refl _, rfl⟩

/-- The host accepts the read that has been filled in. -/
theorem Inv.accept (h : s.Inv) {q : ReadRequest} {i : Fin 4} {n : Nat}
    (hslots : ReadSlots.Sound s.slots s.outstanding [i]) (hslot : s.slots i = q.slot)
    (hfree : s.Refused q.connectionHandle = false) :
    Inv { s.finish (some q) .ok (some .ok) n with
      pending := s.pending ++ [⟨s.returned.length, i, q, []⟩] } := by
  -- `p` is the read that NimBLE has accepted
  generalize hp : (⟨s.returned.length, i, q, []⟩ : PendingRead) = p
  have howns : p.Owns (s.slots p.slot) := by
    rw [← hp]
    show PendingRead.Owns _ (s.slots i)
    rw [hslot]
    exact owns_slot q _ i
  have hslots : ReadSlots.Sound s.slots s.outstanding [p.slot] := by
    rw [← hp]
    exact hslots
  have hout : s.host.held ++ (s.pending ++ [p]) = s.outstanding ++ [p] :=
    (List.append_assoc _ _ _).symm
  refine ⟨?_, trivial, ?_, h.completion, ?_, ?_⟩
  · show ReadSlots.Sound s.slots (s.host.held ++ (s.pending ++ [p])) []
    rw [hout]
    exact hslots.accept howns
  · show s.host.Sound (s.host.held ++ (s.pending ++ [p]))
    rw [hout]
    have hhost := h.host
    cases hcase : s.host <;> simp only [hcase] at hhost ⊢ <;> try exact hhost
    case disconnect connHandle index =>
      -- a disconnect that is being handled is of another connection: NimBLE would have refused
      intro p' hp'
      rcases List.mem_append.mp hp' with hp' | hp'
      · exact hhost p' hp'
      · obtain rfl := List.mem_singleton.mp hp'
        intro heq
        rw [← hp] at heq
        simp only [Refused, hcase] at hfree
        exact ne_of_beq_false hfree heq.symm
  · show ((s.host.held ++ (s.pending ++ [p]) ++ _).map (·.key)).Perm (startedReads (s.returned ++ _))
    have hnew : startedReads [⟨s.returned.length, some q, .ok, some .ok, n⟩] = [p.key] := by
      rw [← hp]
      rfl
    rw [hout, startedReads_append, hnew, List.append_assoc, List.map_append, List.map_append]
    have hstarted := h.started
    rw [reads, List.map_append] at hstarted
    apply List.Perm.trans _ (hstarted.append_right [p.key])
    rw [List.append_assoc]
    exact List.perm_append_comm.append_left _
  · exact returns_append h.returns rfl (fun _ => rfl) (fun hne => nomatch hne)

theorem Inv.app (h : s.Inv) {answer : BleHs}
    (hs : s.bmxEmbeddedBleClientRead answer s.caller = some s') : s'.Inv := by
  have hslots := h.slots
  have hcall := h.caller
  -- one case for each place of the call
  cases hcaller : s.caller <;>
    simp only [hcaller, bmxEmbeddedBleClientRead, reduceCtorEq] at hs hslots hcall
  case search q index n =>
    obtain ⟨hpassed, hfour⟩ := hcall
    split at hs
    · next hlt =>
      split at hs
      · next hactive =>
        obtain rfl := Option.some.inj hs
        refine ⟨hslots, ⟨?_, hfour⟩, h.host, h.completion, h.started, h.returns⟩
        -- a slot that is passed over counts as one of the `n`
        have hsucc := inUse_succ hactive
        show index + 1 + ReadSlots.inUse s.slots (index + 1) ≤ n
        dsimp only at hsucc
        omega
      · next hfree =>
        obtain rfl := Option.some.inj hs
        rw [Bool.not_eq_true] at hfree
        exact ⟨hslots.find hfree, hfree, h.host, h.completion, h.started, h.returns⟩
    · next hend =>
      obtain rfl := Option.some.inj hs
      -- all four slots were in use, so four reads were outstanding
      refine h.finish hslots (by decide) ?_
      intro _
      left
      omega
  case fill q i store n =>
    obtain rfl := Option.some.inj hs
    refine ⟨?_, store_sound n hcall, h.host, h.completion, h.started, h.returns⟩
    show ReadSlots.Sound _ _ (afterStore q i n store).filling
    rw [filling_afterStore]
    exact hslots.store _
  case submit q i n =>
    split at hs
    · split at hs
      · cases hs
      · next hfree =>
        obtain rfl := Option.some.inj hs
        rw [Bool.not_eq_true] at hfree
        -- NimBLE has accepted the read, and no callback of it can have come yet
        exact h.accept hslots hcall hfree
    · next hresult =>
      obtain rfl := Option.some.inj hs
      exact ⟨hslots, hresult, h.host, h.completion, h.started, h.returns⟩
  case release q i result n =>
    obtain rfl := Option.some.inj hs
    -- the slot is free again before the call returns
    have hfreed : (s.setSlot i { s.slots i with active := false }).Inv := by
      refine ⟨?_, ?_, h.host, h.completion, h.started, h.returns⟩
      · show ReadSlots.Sound _ s.outstanding s.caller.filling
        rw [hcaller]
        exact hslots.store _
      · show s.caller.Sound _
        rw [hcaller]
        exact hcall
    apply hfreed.finish ?_ hcall
    · intro hebusy
      exact Or.inr (congrArg some hebusy)
    · apply (hslots.store _).giveUp
      rw [Function.update_self]

/-! ### The host task keeps the invariant -/

/-- Two lists of the same reads. -/
theorem outstanding_take {k : Nat} {p : PendingRead} (hp : s.pending[k]? = some p) :
    s.pending.Perm (p :: s.pending.eraseIdx k) := by
  obtain ⟨hk, rfl⟩ := List.getElem?_eq_some_iff.mp hp
  exact (List.getElem_cons_eraseIdx_perm hk).symm

/-- The host moves without touching a slot: what it holds and what is pending are the same
reads. -/
theorem Inv.host_moves (h : s.Inv) (host : ReadHost) (pending : List PendingRead)
    (hperm : s.outstanding.Perm (host.held ++ pending)) (hqueued : host.queued = s.host.queued)
    (hhost : host.Sound (host.held ++ pending)) : Inv { s with host := host, pending := pending } := by
  refine ⟨h.slots.perm hperm, h.caller, hhost, h.completion, ?_, h.returns⟩
  show ((host.held ++ pending ++ (host.queued ++ s.completes).map (·.1)).map (·.key)).Perm _
  rw [hqueued]
  exact ((hperm.symm.append_right _).map _).trans h.started

/-- The host moves on, and the read it holds stays with it. -/
theorem Inv.host_keeps (h : s.Inv) (host : ReadHost) (hheld : host.held = s.host.held)
    (hqueued : host.queued = s.host.queued) (hhost : host.Sound (host.held ++ s.pending)) :
    Inv { s with host := host } := by
  apply h.host_moves host s.pending _ hqueued hhost
  rw [outstanding, hheld]

/-- The slot of the read that the host holds is still its own. -/
theorem Inv.owns_held (h : s.Inv) {p : PendingRead} (hheld : s.host.held = [p]) :
    p.Owns (s.slots p.slot) := by
  apply h.slots.owned
  rw [outstanding, hheld]
  exact List.mem_cons_self

theorem Inv.callback (h : s.Inv) {k : Nat} {report : ReadReport} {flat : FlatAnswer}
    (hs : s.callbackStep k report flat = some s') : s'.Inv := by
  unfold callbackStep at hs
  split at hs
  · next p hhost hp =>
    obtain rfl := Option.some.inj hs
    apply h.host_moves (.check p report flat) _
    · rw [outstanding, hhost]
      exact outstanding_take hp
    · rw [hhost]
      rfl
    · trivial
  · cases hs

theorem Inv.disconnect (h : s.Inv) {connHandle : UInt16}
    (hs : s.disconnectStep connHandle = some s') : s'.Inv := by
  unfold disconnectStep at hs
  split at hs
  · next hhost =>
    split at hs
    · next hall =>
      obtain rfl := Option.some.inj hs
      apply h.host_keeps (.disconnect connHandle 0)
      · rw [hhost]
        rfl
      · rw [hhost]
        rfl
      · intro p hp
        exact of_decide_eq_true (List.all_eq_true.mp hall p hp)
    · cases hs
  · cases hs

/-- A store of the host into the slot of the read it holds leaves the call in progress alone. -/
theorem caller_host_store {slots : ReadSlots} {l : List PendingRead} {caller : ReadCaller}
    {p : PendingRead} (read : BMXBLEClientRead)
    (hslots : ReadSlots.Sound slots (p :: l) caller.filling) (h : caller.Sound slots)
    (hactive : read.active = true → (slots p.slot).active = true) :
    caller.Sound (Function.update slots p.slot read) := by
  have hne : ∀ i ∈ caller.filling, i ≠ p.slot := by
    rintro i hi rfl
    exact (List.nodup_append.mp hslots.apart).2.2 p.slot (List.mem_map_of_mem List.mem_cons_self)
      p.slot hi rfl
  cases caller with
  | idle => trivial
  | search q index n =>
    refine ⟨?_, h.2⟩
    have hmono : ReadSlots.inUse (Function.update slots p.slot read) index
        ≤ ReadSlots.inUse slots index := by
      apply inUse_mono
      intro i hi
      by_cases heq : i = p.slot
      · rw [heq, Function.update_self] at hi
        rw [heq]
        exact hactive hi
      · rwa [Function.update_of_ne heq] at hi
    exact (Nat.add_le_add_left hmono index).trans h.1
  | fill q i next n =>
    show next.Before q (Function.update slots p.slot read i)
    rw [Function.update_of_ne (hne i (List.mem_singleton_self i))]
    exact h
  | submit q i n =>
    show Function.update slots p.slot read i = q.slot
    rw [Function.update_of_ne (hne i (List.mem_singleton_self i))]
    exact h
  | release q i result n => exact h

/-- A chunk is taken in, and the read goes on or is going to be completed. -/
theorem Inv.take_chunk (h : s.Inv) {p : PendingRead} {offset : UInt16} {om : OsMbuf}
    {flat : FlatAnswer} (hhost : s.host = .chunk p offset om flat)
    (hs : s.hostStep (.chunk p offset om flat) = some s') : s'.Inv := by
  have hslots := h.slots
  rw [outstanding, hhost] at hslots
  have howns := hslots.owned p List.mem_cons_self
  have htake : (p.take (s.slots p.slot) offset om flat).Owns
      (bmxBleClientReadChunk (s.slots p.slot) offset om flat).1 := howns.take_chunk
  have hslot : (p.take (s.slots p.slot) offset om flat).slot = p.slot ∧
      (p.take (s.slots p.slot) offset om flat).key = p.key := by
    unfold PendingRead.take
    dsimp only
    split <;> exact ⟨rfl, rfl⟩
  simp only [hostStep] at hs
  generalize p.take (s.slots p.slot) offset om flat = p' at hs htake hslot
  generalize bmxBleClientReadChunk (s.slots p.slot) offset om flat = r at hs htake
  have hcaller := caller_host_store r.1 hslots h.caller (fun _ => howns.active)
  have hwritten := hslots.write hslot.1 htake
  have hstarted := h.started
  rw [reads, outstanding, hhost] at hstarted
  have hkeys : ∀ l : List PendingRead, (p' :: l).map (·.key) = (p :: l).map (·.key) := by
    intro l
    rw [List.map_cons, List.map_cons, hslot.2]
  -- the host still holds the read
  have hheld : Inv { s.setSlot p.slot r.1 with host := .complete p' 0 } := by
    refine ⟨hwritten, hcaller, trivial, h.completion, ?_, h.returns⟩
    show ((p' :: (s.pending ++ _)).map (·.key)).Perm _
    rw [hkeys]
    exact hstarted
  split at hs
  · obtain rfl := Option.some.inj hs
    apply hheld.host_moves .idle (s.pending ++ [p'])
    · exact (List.perm_append_singleton p' s.pending).symm
    · rfl
    · trivial
  · obtain rfl := Option.some.inj hs
    exact hheld.host_moves (.complete p' r.2) s.pending (List.Perm.refl _)
      rfl trivial

theorem Inv.release_slot (h : s.Inv) {p : PendingRead} {event : BMXBLEEvent}
    (hhost : s.host = .release p event) :
    Inv { s.setSlot p.slot { s.slots p.slot with active := false } with
      host := .queue p event } := by
  have hslots := h.slots
  have hevent := h.host
  have hstarted := h.started
  rw [outstanding, hhost] at hslots
  rw [hhost] at hevent
  rw [reads, outstanding, hhost] at hstarted
  refine ⟨hslots.release rfl, ?_, hevent, h.completion, ?_, h.returns⟩
  · exact caller_host_store _ hslots h.caller (fun hfalse => nomatch hfalse)
  · show ((s.pending ++ p :: s.completes.map (·.1)).map (·.key)).Perm _
    exact (List.perm_middle.map _).trans hstarted

theorem Inv.submit_completion (h : s.Inv) {p : PendingRead} {event : BMXBLEEvent}
    (hhost : s.host = .queue p event) :
    Inv { s with host := .idle, completes := s.completes ++ [(p, event)] } := by
  have hslots := h.slots
  have hevent := h.host
  have hstarted := h.started
  rw [outstanding, hhost] at hslots
  rw [hhost] at hevent
  rw [reads, outstanding, hhost] at hstarted
  refine ⟨hslots, h.caller, trivial, ?_, ?_, h.returns⟩
  · intro c hc
    rcases List.mem_append.mp hc with hc | hc
    · exact h.completion c hc
    · obtain rfl := List.mem_singleton.mp hc
      exact hevent
  · show ((s.pending ++ (s.completes ++ [(p, event)]).map (·.1)).map (·.key)).Perm _
    refine List.Perm.trans (List.Perm.map _ ?_) hstarted
    rw [List.map_append]
    exact (List.perm_append_singleton p _).append_left _

/-- The loop of `DISCONNECT` finds no slot in use for its link: an outstanding read has
another link, and the slot that is being filled is excluded by the condition. -/
theorem Inv.disconnect_finds_none (h : s.Inv) {connHandle : UInt16} {i : Fin 4}
    (hhost : s.host = .disconnect connHandle i) (hok : ReadOrderly s .host) :
    ¬ ((s.slots i).active = true ∧ (s.slots i).connectionHandle = connHandle) := by
  rintro ⟨hactive, hconn⟩
  have hothers := h.host
  rw [hhost] at hothers
  rcases List.mem_append.mp (h.slots.active i hactive) with hmem | hmem
  · obtain ⟨p, hp, rfl⟩ := List.mem_map.mp hmem
    have howns := h.slots.owned p hp
    exact hothers p hp (howns.connectionHandle.symm.trans hconn)
  · simp only [ReadOrderly, hhost] at hok
    exact hok i hmem rfl ⟨hactive, hconn⟩

theorem Inv.host_step (h : s.Inv) (hok : ReadOrderly s .host)
    (hs : s.hostStep s.host = some s') : s'.Inv := by
  have hsound := h.host
  cases hhost : s.host with
  | idle =>
    rw [hhost] at hs
    cases hs
  | check p report flat =>
    have hheld : s.host.held = [p] := by rw [hhost]; rfl
    have hqueued : s.host.queued = [] := by rw [hhost]; rfl
    have howns := h.owns_held hheld
    -- the slot is in use, so the callback goes on to the report it has been handed
    simp only [hhost, hostStep, if_pos howns.active] at hs
    split at hs
    · split at hs
      · obtain rfl := Option.some.inj hs
        exact h.host_keeps (.chunk p _ _ flat) hheld.symm hqueued.symm trivial
      · obtain rfl := Option.some.inj hs
        exact h.host_keeps (.complete p report.status) hheld.symm hqueued.symm trivial
    · obtain rfl := Option.some.inj hs
      exact h.host_keeps (.complete p report.status) hheld.symm hqueued.symm trivial
  | chunk p offset om flat =>
    rw [hhost] at hs
    exact h.take_chunk hhost hs
  | complete p status =>
    rw [hhost] at hs
    obtain rfl := Option.some.inj hs
    have hheld : s.host.held = [p] := by rw [hhost]; rfl
    have hqueued : s.host.queued = [] := by rw [hhost]; rfl
    have howns := h.owns_held hheld
    exact h.host_keeps (.release p _) hheld.symm hqueued.symm (howns.completion status)
  | release p event =>
    rw [hhost] at hs
    obtain rfl := Option.some.inj hs
    exact h.release_slot hhost
  | queue p event =>
    rw [hhost] at hs
    obtain rfl := Option.some.inj hs
    exact h.submit_completion hhost
  | disconnect connHandle index =>
    rw [hhost] at hsound
    have hheld : s.host.held = [] := by rw [hhost]; rfl
    have hqueued : s.host.queued = [] := by rw [hhost]; rfl
    have hout : s.outstanding = s.pending := by
      rw [outstanding, hheld]
      rfl
    simp only [hhost, hostStep] at hs
    split at hs
    · next hlt =>
      have hnone := h.disconnect_finds_none (i := ⟨index, hlt⟩) hhost hok
      rw [if_neg hnone] at hs
      obtain rfl := Option.some.inj hs
      rw [hout] at hsound
      exact h.host_keeps (.disconnect connHandle (index + 1)) hheld.symm hqueued.symm hsound
    · obtain rfl := Option.some.inj hs
      exact h.host_keeps .idle hheld.symm hqueued.symm trivial
  | disconnectClear connHandle i =>
    rw [hhost] at hsound
    exact hsound.elim

/-- **Every step that meets the condition keeps the invariant.** -/
theorem Inv.step (h : s.Inv) {a : ReadAction} (hok : ReadOrderly s a)
    (hs : s.step a = some s') : s'.Inv := by
  cases a with
  | call initialized ready connectionHandle attributeHandle offset => exact h.call hs
  | app answer => exact h.app hs
  | callback k report flat => exact h.callback hs
  | disconnect connHandle => exact h.disconnect hs
  | host => exact h.host_step hok hs

theorem Boot.inv (h : s.Boot) : s.Inv := by
  obtain ⟨hslots, hcaller, hhost, hpending, hreturned, hcompletes⟩ := h
  have hout : s.outstanding = [] := by
    rw [outstanding, hhost, hpending]
    rfl
  refine ⟨?_, ?_, ?_, ?_, ?_, ?_⟩
  · rw [hout, hcaller]
    refine ⟨fun _ hp => absurd hp List.not_mem_nil, List.nodup_nil, ?_⟩
    intro i hi
    rw [hslots i] at hi
    cases hi
  · rw [hcaller]
    trivial
  · rw [hhost]
    trivial
  · rw [hcompletes]
    exact fun _ hc => absurd hc List.not_mem_nil
  · rw [reads, hout, hhost, hcompletes, hreturned]
    exact List.Perm.refl _
  · rw [hreturned]
    exact ⟨rfl, fun _ hr => absurd hr List.not_mem_nil, fun _ hr => absurd hr List.not_mem_nil⟩

end ReadSystem

/-! ### What the invariant says -/

theorem mem_startedReads {l : List ReadReturn} {x : Nat × ReadRequest} :
    x ∈ startedReads l ↔ ∃ r ∈ l, r.result = .ok ∧ r.request = some x.2 ∧ r.id = x.1 := by
  simp only [startedReads, List.mem_filterMap, Option.ite_none_right_eq_some,
    Option.map_eq_some_iff]
  constructor
  · rintro ⟨r, hr, hok, q, hq, rfl⟩
    exact ⟨r, hr, hok, hq, rfl⟩
  · rintro ⟨r, hr, hok, hq, hid⟩
    exact ⟨r, hr, hok, x.2, hq, by rw [hid]⟩

theorem startedReads_sublist (l : List ReadReturn) :
    ((startedReads l).map (·.1)).Sublist (l.map (·.id)) := by
  induction l with
  | nil => exact List.Sublist.slnil
  | cons r l ih =>
    rw [startedReads, List.filterMap_cons]
    split
    · exact ih.cons _
    · next x hx =>
      simp only [Option.ite_none_right_eq_some, Option.map_eq_some_iff] at hx
      obtain ⟨-, q, -, rfl⟩ := hx
      exact ih.cons_cons r.id

/-- A call that has returned 0 has started one read, any other call none. -/
theorem ReturnsSound.count {l : List ReadReturn} (h : ReturnsSound l) {r : ReadReturn}
    (hr : r ∈ l) : ((startedReads l).map (·.1)).count r.id = if r.result = .ok then 1 else 0 := by
  have hids : (l.map (·.id)).Nodup := by
    rw [h.ids]
    exact List.nodup_range
  have hnodup := hids.sublist (startedReads_sublist l)
  split
  · next hok =>
    obtain ⟨q, hq⟩ := Option.isSome_iff_exists.mp (h.okRequest r hr hok)
    apply List.count_eq_one_of_mem hnodup
    exact List.mem_map.mpr ⟨(r.id, q), mem_startedReads.mpr ⟨r, hr, hok, hq, rfl⟩, rfl⟩
  · next hfail =>
    apply List.count_eq_zero_of_not_mem
    intro hmem
    obtain ⟨x, hx, hid⟩ := List.mem_map.mp hmem
    obtain ⟨r', hr', hok, -, hid'⟩ := mem_startedReads.mp hx
    have heq : r' = r := List.inj_on_of_nodup_map hids hr' hr (hid'.trans hid)
    rw [heq] at hok
    exact hfail hok

theorem ReadSystem.Inv.pendingReads {s : ReadSystem} (h : s.Inv) : s.PendingReads := by
  refine ⟨?_, ?_, h.completion, h.slots.length_le, h.returns.busy, ?_, ?_⟩
  · intro r hr
    have hperm := (h.started.map (·.1)).count_eq r.id
    rw [h.returns.count hr, List.map_map, ReadSystem.reads] at hperm
    rw [← hperm]
    simp only [List.map_append, List.count_append, List.map_map]
    exact Nat.add_assoc _ _ _
  · intro p hp
    have hmem := h.started.mem_iff.mp (List.mem_map_of_mem (f := PendingRead.key) hp)
    obtain ⟨r, hr, hok, hrequest, hid⟩ := mem_startedReads.mp hmem
    exact ⟨r, hr, hid, hrequest, hok⟩
  · intro i hi
    rcases List.mem_append.mp (h.slots.active i hi) with hmem | hmem
    · exact Or.inl (List.mem_map.mp hmem)
    · exact Or.inr hmem
  · intro connHandle index hhost
    have hothers := h.host
    rw [hhost] at hothers
    exact hothers

/-- **Pending reads are right in every run whose steps are all `ReadOrderly`.** -/
theorem pending_reads (s : ReadSystem) (h : readMachine.ReachableIn ReadOrderly s) :
    s.PendingReads := by
  have hinv : s.Inv := by
    apply h.invariant (I := ReadSystem.Inv)
    · intro s hboot
      exact hboot.inv
    · intro s a s' hinv hok hstep
      exact hinv.step hok hstep
  exact hinv.pendingReads

/-- A state before any read. -/
def readBoot : ReadSystem := ⟨fun _ => .zero, .idle, .idle, [], [], []⟩

theorem readBoot_boot : readBoot.Boot := ⟨fun _ => rfl, rfl, rfl, rfl, rfl, rfl⟩

/-- `ReadOrderly`, as a test. -/
def ReadSystem.orderly (s : ReadSystem) : ReadAction → Bool
  | .host =>
    match s.host with
    | .disconnect connHandle index => s.caller.filling.all fun i =>
        !(i.val == index && (s.slots i).active && (s.slots i).connectionHandle == connHandle)
    | _ => true
  | _ => true

theorem ReadSystem.readOrderly_of_orderly {s : ReadSystem} {a : ReadAction}
    (h : s.orderly a = true) : ReadOrderly s a := by
  unfold ReadOrderly
  split
  next =>
    rw [orderly] at h
    split
    next connHandle index hhost =>
      rw [hhost] at h
      rintro i hi hindex ⟨hactive, hconn⟩
      have hi := List.all_eq_true.mp h i hi
      rw [hindex, hactive, hconn, beq_self_eq_true, beq_self_eq_true] at hi
      cases hi
    next => trivial
  next => trivial

/-- A read on link 1 that gets two bytes and is completed, and then the link is lost. -/
def firstRead : List ReadAction :=
  [.call true true 1 5 0, .app .ok, .app .ok, .app .ok, .app .ok, .app .ok, .app .ok, .app .ok,
   .callback 0 ⟨0, some (0, ⟨[7, 8], by decide⟩)⟩ ⟨0, 2⟩, .host, .host,
   .callback 0 ⟨bleHsEdone, none⟩ ⟨0, 0⟩, .host, .host, .host, .host,
   .disconnect 1, .host, .host, .host, .host, .host]

theorem pending_reads_first : ∃ s : ReadSystem, s.returned.map (·.result) = [.ok] ∧
    s.completes.map (fun c => c.1.received) = [[(0, [7, 8])]] ∧ s.PendingReads := by
  obtain ⟨s, hs, hfound⟩ := exists_reachable_of_run
    (M := readMachine.within ReadSystem.orderly) firstRead
    (fun s : ReadSystem => decide (s.returned.map (·.result) = [.ok] ∧
      s.completes.map (fun c => c.1.received) = [[(0, [7, 8])]])) readBoot_boot (by decide)
  obtain ⟨hreturned, hcompletes⟩ := of_decide_eq_true hfound
  exact ⟨s, hreturned, hcompletes, pending_reads s ((reachableIn_of_within hs).mono
    fun _ _ => ReadSystem.readOrderly_of_orderly)⟩

/-- `client_read` on link 1 has published its slot, whose connection handle is still 0, when
link 0 is lost: the slot is released, and the callbacks of the read are ignored. -/
def lostRead : List ReadAction :=
  [.call true true 1 5 0, .app .ok, .app .ok, .app .ok,
   .disconnect 0, .host, .host, .host, .host, .host, .host,
   .app .ok, .app .ok, .app .ok, .app .ok,
   .callback 0 ⟨bleHsEdone, none⟩ ⟨0, 0⟩, .host]

/-- **A read that was started is never completed.** -/
theorem pending_reads_broken : ∃ s, readMachine.Reachable s ∧ ¬ s.PendingReads := by
  obtain ⟨s, hs, hlost⟩ := exists_reachable_of_run (M := readMachine) lostRead
    (fun s : ReadSystem => decide (s.outstanding.length = 0 ∧ s.host.queued.length = 0 ∧
      s.completes.length = 0 ∧ s.returned.map (·.result) = [.ok])) readBoot_boot (by decide)
  refine ⟨s, hs, ?_⟩
  obtain ⟨hout, hqueued, hcompletes, hreturned⟩ := of_decide_eq_true hlost
  intro h
  obtain ⟨r, hr, hok⟩ := List.map_eq_singleton_iff.mp hreturned
  have honce := h.once r (hr ▸ List.mem_singleton_self r)
  rw [List.length_eq_zero_iff.mp hout, List.length_eq_zero_iff.mp hqueued,
    List.length_eq_zero_iff.mp hcompletes, if_pos hok] at honce
  exact Nat.zero_ne_one honce

end Esp32Mod
