/-
Esp32Mod/BleConnections.lean

The connection registry of the BLE adapter (`network.mod/ble.mod/native/esp32_ble.c`): the
table `bmx_ble_connections`, which the GAP events CONNECT and DISCONNECT and a host reset
change, and which `bmx_embedded_ble_connection_handle` reads.

The handlers run on the NimBLE host task, which exists from `initialize` to `deinitialize`;
what else they do is left out, and so are the calls that the last two make before they touch
the registry (`result` is the first error among them, or 0).  `links` are, outside the source,
the links that are up: connected successfully and not disconnected since.

Main result:

* `connection_registry` — the registry holds every live link exactly once, and the queries
  enumerate it.
-/
import Esp32Mod.Errors
import Esp32Mod.PackedTable
import Esp32Mod.StepMachine
import Mathlib.Data.Finset.Card
import Mathlib.Data.Finset.Insert

namespace Esp32Mod

open StepMachine Machine PackedTable

/-! ### The table -/

/-- `bmx_ble_connections` with `bmx_ble_connection_count`; `BMX_BLE_MAX_CONNECTIONS` is 70. -/
abbrev BleConnectionTable := Packed UInt16 70

/-- A handle that is in the table is not entered twice. -/
def bmxBleAddConnection (table : BleConnectionTable) (connectionHandle : UInt16) :
    BleConnectionTable :=
  match table.find connectionHandle with
  | some _ => table
  | none => table.push connectionHandle

/-- The last entry takes the place of the one that goes. -/
def bmxBleRemoveConnection (table : BleConnectionTable) (connectionHandle : UInt16) :
    BleConnectionTable :=
  match table.find connectionHandle with
  | some index => table.removeAt index
  | none => table

/-! ### The adapter -/

/-- The flags, the table, and the connections that there are. -/
structure ConnectionSystem where
  initialized : Bool
  ready : Bool
  connections : BleConnectionTable
  links : Finset UInt16

/-- `BLE_HS_ENOENT`. -/
def bleHsEnoent : BleHs := .other 5

namespace ConnectionSystem

/-- A CONNECT event; `status` 0 tells of a connection. -/
def gapConnect (s : ConnectionSystem) (status : Int32) (connHandle : UInt16) : ConnectionSystem :=
  if status = 0 then
    { s with
      connections := bmxBleAddConnection s.connections connHandle
      links := insert connHandle s.links }
  else s

/-- A DISCONNECT event. -/
def gapDisconnect (s : ConnectionSystem) (connHandle : UInt16) : ConnectionSystem :=
  { s with
    connections := bmxBleRemoveConnection s.connections connHandle
    links := s.links.erase connHandle }

/-- A reset takes all links down. -/
def bmxBleOnReset (s : ConnectionSystem) : ConnectionSystem :=
  { s with ready := false, connections := s.connections.clear, links := ∅ }

/-- `result` is that of `ble_hs_util_ensure_addr`. -/
def bmxBleOnSync (s : ConnectionSystem) (result : BleHs) : ConnectionSystem :=
  if result = .ok then { s with ready := true } else s

/-- The table is emptied. -/
def bmxEmbeddedBleInitialize (s : ConnectionSystem) (result : BleHs) : BleHs × ConnectionSystem :=
  if s.initialized then (.ok, s)
  else if result ≠ .ok then (result, s)
  else
    (.ok, { initialized := true, ready := false, connections := s.connections.clear, links := ∅ })

/-- The table is emptied, if NimBLE goes. -/
def bmxEmbeddedBleDeinitialize (s : ConnectionSystem) (result : BleHs) :
    BleHs × ConnectionSystem :=
  if !s.initialized then (.ok, s)
  else if result ≠ .ok then (result, s)
  else
    (.ok, { initialized := false, ready := false, connections := s.connections.clear, links := ∅ })

/-- Errors are positive like counts; here they are kept apart. -/
def bmxEmbeddedBleConnectionCount (s : ConnectionSystem) : Except BleHs ℕ :=
  if !s.initialized || !s.ready then .error .enotsynced else .ok s.connections.count

/-- `pointer` tells whether there is somewhere to put the handle. -/
def bmxEmbeddedBleConnectionHandle (s : ConnectionSystem) (index : Int32) (pointer : Bool) :
    Except BleHs UInt16 :=
  if !s.initialized || !s.ready then .error .enotsynced
  else if !pointer ∨ index < 0 then .error .einval
  else if h : index.toInt.toNat < s.connections.count then
    .ok (s.connections.cells ⟨_, h.trans_le s.connections.count_le⟩)
  else .error bleHsEnoent

end ConnectionSystem

/-- The calls of the application, and the events. -/
inductive ConnectionAction
  | init (result : BleHs)
  | deinit (result : BleHs)
  | connect (status : Int32) (connHandle : UInt16)
  | disconnect (connHandle : UInt16)
  | reset
  | sync (result : BleHs)
  deriving DecidableEq

/-- The host task runs while the adapter is initialised. -/
def ConnectionSystem.step (s : ConnectionSystem) : ConnectionAction → Option ConnectionSystem
  | .init result => some (s.bmxEmbeddedBleInitialize result).2
  | .deinit result => some (s.bmxEmbeddedBleDeinitialize result).2
  | .connect status connHandle => if s.initialized then some (s.gapConnect status connHandle) else none
  | .disconnect connHandle => if s.initialized then some (s.gapDisconnect connHandle) else none
  | .reset => if s.initialized then some s.bmxBleOnReset else none
  | .sync result => if s.initialized then some (s.bmxBleOnSync result) else none

/-- The static state before the first call. -/
def connectionBoot : ConnectionSystem where
  initialized := false
  ready := false
  connections := { cells := fun _ => 0, count := 0, count_le := Nat.zero_le _ }
  links := ∅

/-- Calls and events, in any order. -/
def connectionMachine : Machine ConnectionSystem ConnectionAction where
  init s := s = connectionBoot
  step := ConnectionSystem.step

/-! ### The claim -/

/-- A connection is made only while fewer than 70 other links are up. -/
def WithinCapacity (s : ConnectionSystem) : ConnectionAction → Prop
  | .connect status connHandle => status = 0 → (insert connHandle s.links).card ≤ 70
  | _ => True

/-- NimBLE connects nobody between a reset and the sync that follows. -/
def ConnectedInSync (s : ConnectionSystem) : ConnectionAction → Prop
  | .connect status _ => status = 0 → s.ready = true
  | _ => True

/-- The registry is the set of the live links. -/
structure ConnectionSystem.Registered (s : ConnectionSystem) : Prop where
  nodup : s.connections.contents.Nodup
  live : ∀ connHandle, connHandle ∈ s.connections.contents ↔ connHandle ∈ s.links

/-- `connection_handle` answers each live link at exactly one index, all of them below the
count, and refuses every other index; and `connection_count` answers the count. -/
structure ConnectionSystem.Enumerated (s : ConnectionSystem) : Prop where
  once : ∀ connHandle ∈ s.links,
    ∃! index : Int32, s.bmxEmbeddedBleConnectionHandle index true = .ok connHandle
  live : ∀ index : Int32, 0 ≤ index.toInt → index.toInt < s.connections.count →
    ∃ connHandle ∈ s.links, s.bmxEmbeddedBleConnectionHandle index true = .ok connHandle
  refused : ∀ index : Int32, ¬ (0 ≤ index.toInt ∧ index.toInt < s.connections.count) →
    ∃ error, s.bmxEmbeddedBleConnectionHandle index true = .error error
  counted : s.bmxEmbeddedBleConnectionCount =
    if s.ready = true then .ok s.links.card else .error .enotsynced

/-! ### What the two table functions do -/

section Table

variable {table : BleConnectionTable} {x y : UInt16}

/-- The handle is in the table already, or comes last. -/
theorem addConnection_cases (table : BleConnectionTable) (x : UInt16) :
    (x ∈ table.contents ∧ bmxBleAddConnection table x = table) ∨
      (x ∉ table.contents ∧ bmxBleAddConnection table x = table.push x) := by
  unfold bmxBleAddConnection
  split
  next index hfind =>
    obtain ⟨hlt, hcell⟩ := Packed.find_eq_some hfind
    exact Or.inl ⟨Packed.mem_contents.mpr ⟨index, hlt, hcell⟩, rfl⟩
  next hfind => exact Or.inr ⟨Packed.find_eq_none hfind, rfl⟩

/-- The handle is not in the table, or is taken out of it. -/
theorem removeConnection_cases (table : BleConnectionTable) (x : UInt16) :
    (x ∉ table.contents ∧ bmxBleRemoveConnection table x = table) ∨
      (x :: (bmxBleRemoveConnection table x).contents).Perm table.contents := by
  unfold bmxBleRemoveConnection
  split
  next index hfind =>
    obtain ⟨hlt, hcell⟩ := Packed.find_eq_some hfind
    rw [← hcell]
    exact Or.inr (Packed.contents_removeAt hlt)
  next hfind => exact Or.inl ⟨Packed.find_eq_none hfind, rfl⟩

theorem addConnection_contents (hroom : x ∉ table.contents → table.count < 70) :
    (bmxBleAddConnection table x).contents =
      if x ∈ table.contents then table.contents else table.contents ++ [x] := by
  rcases addConnection_cases table x with ⟨hmem, hadd⟩ | ⟨hnew, hadd⟩
  · rw [hadd, if_pos hmem]
  · rw [hadd, if_neg hnew, Packed.contents_push (hroom hnew)]

theorem removeConnection_perm (table : BleConnectionTable) (x : UInt16) :
    (bmxBleRemoveConnection table x).contents.Perm (table.contents.erase x) := by
  rcases removeConnection_cases table x with ⟨hnew, hremove⟩ | hperm
  · rw [hremove, List.erase_of_not_mem hnew]
  · have herase := hperm.erase x
    rwa [List.erase_cons_head] at herase

end Table

/-! ### The events keep the registry -/

namespace ConnectionSystem

variable {s s' : ConnectionSystem}

/-- As many entries as there are live links. -/
theorem Registered.count_eq (h : s.Registered) : s.connections.count = s.links.card := by
  have hset : s.connections.contents.toFinset = s.links := by
    ext x
    rw [List.mem_toFinset, h.live]
  rw [← hset, List.toFinset_card_of_nodup h.nodup, Packed.length_contents]

theorem Registered.connect (h : s.Registered) {status : Int32} {connHandle : UInt16}
    (hcapacity : WithinCapacity s (.connect status connHandle)) :
    (s.gapConnect status connHandle).Registered := by
  unfold gapConnect
  split
  · next hstatus =>
    have hroom : connHandle ∉ s.connections.contents → s.connections.count < 70 := by
      intro hnew
      rw [h.live] at hnew
      have hcard := hcapacity hstatus
      rw [Finset.card_insert_of_notMem hnew] at hcard
      rw [h.count_eq]
      exact hcard
    have hcontents := addConnection_contents hroom
    by_cases hmem : connHandle ∈ s.connections.contents
    -- the link was up already
    · rw [if_pos hmem] at hcontents
      refine ⟨?_, ?_⟩
      · rw [hcontents]
        exact h.nodup
      · intro x
        rw [hcontents, Finset.mem_insert, h.live]
        have hlive := (h.live connHandle).mp hmem
        exact ⟨Or.inr, fun hx => hx.elim (fun heq => heq ▸ hlive) id⟩
    · rw [if_neg hmem] at hcontents
      refine ⟨?_, ?_⟩
      · rw [hcontents]
        rw [← List.concat_eq_append]
        exact h.nodup.concat hmem
      · intro x
        rw [hcontents, Finset.mem_insert, List.mem_append, List.mem_singleton, h.live, or_comm]
  · exact h

theorem Registered.disconnect (h : s.Registered) (connHandle : UInt16) :
    (s.gapDisconnect connHandle).Registered := by
  have hperm := removeConnection_perm s.connections connHandle
  refine ⟨?_, ?_⟩
  · exact hperm.nodup_iff.mpr (h.nodup.erase connHandle)
  · intro x
    show x ∈ (bmxBleRemoveConnection s.connections connHandle).contents ↔
      x ∈ s.links.erase connHandle
    rw [hperm.mem_iff, h.nodup.mem_erase_iff, Finset.mem_erase, h.live]

/-- Nothing is registered, and nothing is up. -/
theorem registered_of_empty (hcontents : s.connections.contents = []) (hlinks : s.links = ∅) :
    s.Registered := by
  refine ⟨?_, ?_⟩
  · rw [hcontents]
    exact List.nodup_nil
  · intro x
    rw [hcontents, hlinks]
    exact ⟨(fun hx => nomatch hx), fun hx => absurd hx (Finset.notMem_empty x)⟩

/-! ### Runs -/

/-- What holds in every reachable state. -/
structure Inv (s : ConnectionSystem) : Prop where
  registered : s.Registered
  off : s.initialized = false → s.ready = false ∧ s.links = ∅

theorem Inv.cleared (h : s.Inv) (hlinks : s.links = ∅) : s.connections.contents = [] := by
  rw [List.eq_nil_iff_forall_not_mem]
  intro x hx
  rw [h.registered.live, hlinks] at hx
  exact Finset.notMem_empty x hx

/-- What a step can do: nothing, take everything down, or one of the events. -/
inductive Steps (s : ConnectionSystem) : ConnectionAction → ConnectionSystem → Prop
  | same {a : ConnectionAction} : Steps s a s
  | down {a : ConnectionAction} {s' : ConnectionSystem} (hready : s'.ready = false)
      (hcontents : s'.connections.contents = []) (hlinks : s'.links = ∅) : Steps s a s'
  | connect (hinit : s.initialized = true) (status : Int32) (connHandle : UInt16) :
      Steps s (.connect status connHandle) (s.gapConnect status connHandle)
  | disconnect (hinit : s.initialized = true) (connHandle : UInt16) :
      Steps s (.disconnect connHandle) (s.gapDisconnect connHandle)
  | sync (hinit : s.initialized = true) (result : BleHs) :
      Steps s (.sync result) { s with ready := true }

theorem step_cases {a : ConnectionAction} (hs : s.step a = some s') : s.Steps a s' := by
  -- a call that fails is no step at all; one that goes through empties the table
  cases a with
  | init result =>
    obtain rfl := Option.some.inj hs
    unfold bmxEmbeddedBleInitialize
    split
    · exact .same
    split
    · exact .same
    · exact .down rfl rfl rfl
  | deinit result =>
    obtain rfl := Option.some.inj hs
    unfold bmxEmbeddedBleDeinitialize
    split
    · exact .same
    split
    · exact .same
    · exact .down rfl rfl rfl
  | connect status connHandle =>
    obtain ⟨hinit, hs⟩ := Option.ite_none_right_eq_some.mp hs
    obtain rfl := Option.some.inj hs
    exact .connect hinit status connHandle
  | disconnect connHandle =>
    obtain ⟨hinit, hs⟩ := Option.ite_none_right_eq_some.mp hs
    obtain rfl := Option.some.inj hs
    exact .disconnect hinit connHandle
  | reset =>
    obtain ⟨-, hs⟩ := Option.ite_none_right_eq_some.mp hs
    obtain rfl := Option.some.inj hs
    exact .down rfl rfl rfl
  | sync result =>
    obtain ⟨hinit, hs⟩ := Option.ite_none_right_eq_some.mp hs
    obtain rfl := Option.some.inj hs
    unfold bmxBleOnSync
    split
    · exact .sync hinit result
    · exact .same

theorem inv_step (h : s.Inv) {a : ConnectionAction} (hcapacity : WithinCapacity s a)
    (hs : s.step a = some s') : s'.Inv := by
  cases step_cases hs with
  | same => exact h
  | down hready hcontents hlinks =>
    exact ⟨registered_of_empty hcontents hlinks, fun _ => ⟨hready, hlinks⟩⟩
  | connect hinit status connHandle =>
    refine ⟨h.registered.connect hcapacity, ?_⟩
    intro hoff
    have hsame : (s.gapConnect status connHandle).initialized = s.initialized := by
      unfold gapConnect
      split <;> rfl
    rw [hsame, hinit] at hoff
    cases hoff
  | disconnect hinit connHandle =>
    refine ⟨h.registered.disconnect connHandle, ?_⟩
    intro hoff
    exact absurd (hinit.symm.trans hoff) (by decide)
  | sync hinit result =>
    refine ⟨⟨h.registered.nodup, h.registered.live⟩, ?_⟩
    intro hoff
    exact absurd (hinit.symm.trans hoff) (by decide)

theorem inv_boot : connectionBoot.Inv :=
  ⟨registered_of_empty rfl rfl, fun _ => ⟨rfl, rfl⟩⟩

theorem ReachableIn.inv (h : connectionMachine.ReachableIn WithinCapacity s) : s.Inv := by
  apply h.invariant (I := Inv)
  · rintro s rfl
    exact inv_boot
  · exact fun _ _ _ hi hok hs => inv_step hi hok hs

/-- With every connection made in sync, the adapter is ready while a link is up. -/
theorem ready_of_link (h : connectionMachine.ReachableIn
    (fun s a => WithinCapacity s a ∧ ConnectedInSync s a) s) :
    s.links ≠ ∅ → s.ready = true := by
  apply h.invariant (I := fun s => s.links ≠ ∅ → s.ready = true)
  · rintro s rfl hne
    exact absurd rfl hne
  · intro s a s' hi hok hs hne
    cases step_cases hs with
    | same => exact hi hne
    | down _ _ hlinks => exact absurd hlinks hne
    | connect _ status connHandle =>
      unfold gapConnect at hne ⊢
      split_ifs at hne ⊢ with hstatus
      · exact hok.2 hstatus
      · exact hi hne
    | disconnect _ connHandle =>
      apply hi
      intro hnone
      apply hne
      show s.links.erase connHandle = ∅
      rw [hnone, Finset.erase_empty]
    | sync => rfl

/-! ### The queries enumerate the registry -/

/-- Which answers `connection_handle` gives to a caller with a place for the handle. -/
theorem connectionHandle_eq (hinit : s.initialized = true) (hready : s.ready = true)
    (index : Int32) : s.bmxEmbeddedBleConnectionHandle index true =
      if index < 0 then .error .einval
      else if h : index.toInt.toNat < s.connections.count then
        .ok (s.connections.cells ⟨_, h.trans_le s.connections.count_le⟩)
      else .error bleHsEnoent := by
  simp only [bmxEmbeddedBleConnectionHandle, hinit, hready, Bool.not_true, Bool.or_self,
    Bool.false_eq_true, false_or, if_false]

theorem not_neg_iff {index : Int32} : ¬ index < 0 ↔ 0 ≤ index.toInt := by
  rw [Int32.lt_iff_toInt_lt]
  exact not_lt

/-- **The indices below the count enumerate the links.** -/
theorem Registered.enumerated (h : s.Registered) (hinit : s.initialized = true)
    (hready : s.ready = true) : s.Enumerated := by
  have heq := connectionHandle_eq hinit hready
  refine ⟨?_, ?_, ?_, ?_⟩
  · intro x hx
    obtain ⟨i, hlt, hcell⟩ := Packed.mem_contents.mp ((h.live x).mpr hx)
    have hi : (Int32.ofNat i.val).toInt = i.val :=
      Int32.toInt_ofNat_of_lt (i.isLt.trans (by decide))
    refine ⟨Int32.ofNat i.val, ?_, ?_⟩
    · show s.bmxEmbeddedBleConnectionHandle _ true = _
      have hnat : (Int32.ofNat i.val).toInt.toNat = i.val := by rw [hi]; rfl
      have hnonneg : 0 ≤ (Int32.ofNat i.val).toInt := by rw [hi]; exact Int.natCast_nonneg _
      rw [heq, if_neg (not_neg_iff.mpr hnonneg), dif_pos (hnat.symm ▸ hlt)]
      simp only [hnat, hcell]
    -- another index with this answer is the index of the same cell
    · intro index hindex
      rw [heq] at hindex
      split_ifs at hindex with hneg hcount
      have hsame := Packed.eq_of_cells_eq h.nodup hcount hlt
        ((Except.ok.inj hindex).trans hcell.symm)
      have hval : index.toInt.toNat = i.val := congrArg Fin.val hsame
      apply Int32.toInt_inj.mp
      rw [hi, ← hval, Int.toNat_of_nonneg (not_neg_iff.mp hneg)]
  · intro index hnonneg hlt
    have hcount : index.toInt.toNat < s.connections.count := (Int.toNat_lt hnonneg).mpr hlt
    refine ⟨s.connections.cells ⟨_, hcount.trans_le s.connections.count_le⟩, ?_, ?_⟩
    · exact (h.live _).mp (Packed.mem_contents.mpr ⟨_, hcount, rfl⟩)
    · rw [heq, if_neg (not_neg_iff.mpr hnonneg), dif_pos hcount]
  · intro index hout
    rw [heq]
    split_ifs with hneg hcount
    · exact ⟨_, rfl⟩
    · have hnonneg := not_neg_iff.mp hneg
      exact absurd ⟨hnonneg, (Int.toNat_lt hnonneg).mp hcount⟩ hout
    · exact ⟨_, rfl⟩
  · rw [bmxEmbeddedBleConnectionCount, hinit, hready, h.count_eq]
    rfl

/-- An adapter that is not ready refuses every index. -/
theorem enumerated_of_not_ready (h : s.Registered) (hready : s.ready = false)
    (hlinks : s.links = ∅) : s.Enumerated := by
  have hcount : s.connections.count = 0 := by
    rw [h.count_eq, hlinks, Finset.card_empty]
  refine ⟨?_, ?_, ?_, ?_⟩
  · intro x hx
    rw [hlinks] at hx
    exact absurd hx (Finset.notMem_empty x)
  · intro index hnonneg hlt
    rw [hcount] at hlt
    exact absurd hnonneg (not_le.mpr hlt)
  · intro index _
    refine ⟨.enotsynced, ?_⟩
    simp only [bmxEmbeddedBleConnectionHandle, hready, Bool.not_false, Bool.or_true, if_true]
  · rw [bmxEmbeddedBleConnectionCount, hready, Bool.not_false, Bool.or_true]
    rfl

end ConnectionSystem

/-! ### Main results -/

/-- **The connection registry.**  Whatever events are handled, with at most 70 links up at a
time, the table holds exactly the live links, each once, and none after a reset or after
`deinitialize`; the queries of an adapter that is ready enumerate them.  If, as NimBLE
promises, nobody is connected between a reset and the sync that follows, the queries of
every state do. -/
theorem connection_registry :
    (∀ s, connectionMachine.ReachableIn WithinCapacity s →
      s.Registered ∧ (s.ready = true → s.Enumerated) ∧
      s.bmxBleOnReset.connections.contents = [] ∧
      ∀ result, (s.bmxEmbeddedBleDeinitialize result).1 = .ok →
        (s.bmxEmbeddedBleDeinitialize result).2.connections.contents = []) ∧
    ∀ s, connectionMachine.ReachableIn
      (fun s a => WithinCapacity s a ∧ ConnectedInSync s a) s → s.Enumerated := by
  have hon : ∀ s : ConnectionSystem, s.Inv → s.ready = true → s.Enumerated := by
    intro s h hready
    cases hinit : s.initialized with
    | true => exact h.registered.enumerated hinit hready
    | false => exact absurd (hready.symm.trans (h.off hinit).1) (by decide)
  refine ⟨?_, ?_⟩
  · intro s hs
    have h := ConnectionSystem.ReachableIn.inv hs
    refine ⟨h.registered, hon s h, rfl, ?_⟩
    intro result hok
    unfold ConnectionSystem.bmxEmbeddedBleDeinitialize at hok ⊢
    split_ifs at hok ⊢ with hoff hresult
    -- not initialised: there was nothing in the table
    · exact h.cleared (h.off (by simpa using hoff)).2
    · exact absurd hok hresult
    · rfl
  · intro s hs
    have h := ConnectionSystem.ReachableIn.inv (hs.mono fun _ _ hok => hok.1)
    have hready := ConnectionSystem.ready_of_link hs
    by_cases hlinks : s.links = ∅
    · cases hcase : s.ready with
      | true => exact hon s h hcase
      | false => exact ConnectionSystem.enumerated_of_not_ready h.registered hcase hlinks
    · exact hon s h (hready hlinks)

/-- Two links are up, and the first is lost: the other takes its place. -/
theorem connection_registry_two : ∃ s : ConnectionSystem, s.links = {9} ∧
    s.connections.contents = [9] ∧ s.Registered ∧ s.Enumerated := by
  have hinit : connectionMachine.ReachableIn
      (fun s a => WithinCapacity s a ∧ ConnectedInSync s a) _ :=
    .step (a := .init .ok) (.init rfl) (by exact ⟨trivial, trivial⟩) rfl
  have hsync := hinit.step (a := .sync .ok) (by exact ⟨trivial, trivial⟩) rfl
  have hfirst := hsync.step (a := .connect 0 3) (by exact ⟨fun _ => by decide, fun _ => rfl⟩) rfl
  have hsecond := hfirst.step (a := .connect 0 9) (by exact ⟨fun _ => by decide, fun _ => rfl⟩) rfl
  have hrun := hsecond.step (a := .disconnect 3) (by exact ⟨trivial, trivial⟩) rfl
  refine ⟨_, ?_, ?_, (connection_registry.1 _ (hrun.mono fun _ _ hok => hok.1)).1,
    connection_registry.2 _ hrun⟩
  · decide
  · decide

end Esp32Mod
