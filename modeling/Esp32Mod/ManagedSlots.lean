/-
Esp32Mod/ManagedSlots.lean

The owner and the worker handle of the managed runtime (`runtime.mod/native/esp32_runtime.c`, the
build with `BMX_EMBEDDED_MULTICORE`).  Two garbage-collected contexts exist: index 0 for the owner
task, index 1 for the worker.  Any task may try to bind either, on either core.

Every atomic load, store and compare-exchange of a handle is a step of its own, and so is every look
at the arena; a task may move to the other core between any two steps.  An interrupt reads no
handle.

The worker slot is taken by a compare-exchange, the owner slot by a load and a later store, and
`managed_arena_acquire` takes it back when the allocation fails.  `Undisturbed` is the condition
that nobody else moved in such a window.

`SlotTask` records beside the program counter which slots the task has bound, from the return of the
call that bound them, and the last answer of `managed_gc_context_index` since then.

Main results:

* `managed_slots` — the slots are exclusive in every undisturbed run;
* `managed_slots_raced` — two tasks load the owner before either stores: both have bound index 0.
-/
import Esp32Mod.ManagedGate

namespace Esp32Mod

open StepMachine Machine

/-! ### The source, step by step -/

/-- The static variables; `Address` is the type of the pointers that are not `NULL`. -/
structure ManagedSlots (Task Address : Type) where
  owner : Option Task
  worker : Option Task
  arena : Option Address
  arenaSize : UInt32
  contextViolations : UInt32

/-- The functions that touch the slots. -/
inductive SlotCall
  | contextValid
  | gcContextIndex
  | gcBind (slot : UInt32)
  | gcUnbind (slot : UInt32)
  | arenaAcquire (capacity alignment : UInt32)

/-- Which access a task makes next.  `managed_context_valid` is a call of its own, or the beginning
of `managed_arena_acquire` with that capacity and alignment. -/
inductive SlotPc
  | idle
  | validOwner (acquire : Option (UInt32 × UInt32))
  | validWorker (acquire : Option (UInt32 × UInt32))
  | indexOwner
  | indexWorker (core : Nat)
  | bindOwner (slot : UInt32)
  | bindStore
  | bindExchange
  | unbindWorker
  | unbindStore
  | acquireOwner (request : UInt32 × UInt32)
  | acquireArena (request : UInt32 × UInt32) (ownerAlreadyBound : Bool)
  | acquireStore (request : UInt32 × UInt32) (ownerAlreadyBound : Bool)
  | acquireAlloc (request : UInt32 × UInt32) (ownerAlreadyBound : Bool)
  | acquireRollback

/-- Where a call begins. -/
def SlotCall.entry : SlotCall → SlotPc
  | .contextValid => .validOwner none
  | .gcContextIndex => .indexOwner
  | .gcBind slot => .bindOwner slot
  | .gcUnbind slot => if slot = 1 then .unbindWorker else .idle
  | .arenaAcquire capacity alignment => .validOwner (some (capacity, alignment))

/-- A task: where it is, what it has bound, and what `managed_gc_context_index` answered, with the
core it ran on. -/
structure SlotTask where
  pc : SlotPc
  holdsOwner : Bool
  holdsWorker : Bool
  index : Option (Nat × UInt32)

namespace SlotTask

/-- The call goes on. -/
def goto (l : SlotTask) (pc : SlotPc) : SlotTask := { l with pc }

/-- The call returns, and the task holds the owner's slot. -/
def bindsOwner (l : SlotTask) : SlotTask :=
  { l with pc := .idle, holdsOwner := true, index := none }

/-- The call returns, and the task holds the worker's slot or no longer does. -/
def bindsWorker (l : SlotTask) (holdsWorker : Bool) : SlotTask :=
  { l with pc := .idle, holdsWorker, index := none }

/-- The call returns the index of the task's slot. -/
def answers (l : SlotTask) (core : Nat) (index : UInt32) : SlotTask :=
  { l with pc := .idle, index := some (core, index) }

end SlotTask

/-- What a step is told: the core, and the answers of the memory. -/
structure SlotAnswer (Address : Type) where
  core : Nat
  psramInitialized : Bool := false
  heapCapsAlignedAlloc : UInt32 → UInt32 → MallocCap → Option Address := fun _ _ _ => none

section Next

variable {Task Address : Type} [DecidableEq Task]

/-- The owner handle lets the task in: it is `NULL` or the task's own. -/
def ManagedSlots.Admits (g : ManagedSlots Task Address) (t : Task) : Prop :=
  g.owner = none ∨ g.owner = some t

instance (g : ManagedSlots Task Address) (t : Task) : Decidable (g.Admits t) :=
  inferInstanceAs (Decidable (_ ∨ _))

/-- A refusal is counted. -/
def ManagedSlots.violated (g : ManagedSlots Task Address) : ManagedSlots Task Address :=
  { g with contextViolations := g.contextViolations + 1 }

/-- The next access of task `t`, which is at `l`. -/
def slotNext (arenaInPsram : Bool) (t : Task) (r : SlotAnswer Address)
    (g : ManagedSlots Task Address) (l : SlotTask) :
    Option (ManagedSlots Task Address × SlotTask) :=
  match l.pc with
  | .idle => none
  -- managed_context_valid
  | .validOwner acquire =>
    if r.core = 0 ∧ g.Admits t then some (g, l.goto (acquire.elim .idle .acquireOwner))
    else some (g, l.goto (.validWorker acquire))
  | .validWorker acquire =>
    if g.worker = some t then some (g, l.goto (acquire.elim .idle .acquireOwner))
    else some (g.violated, l.goto .idle)
  -- managed_gc_context_index
  | .indexOwner =>
    if r.core = 0 ∧ g.Admits t then some (g, l.answers r.core 0)
    else some (g, l.goto (.indexWorker r.core))
  | .indexWorker core => some (g, l.answers core (if g.worker = some t then 1 else 0xFFFFFFFF))
  -- managed_gc_bind
  | .bindOwner slot =>
    if slot = 0 ∧ r.core = 0 ∧ g.Admits t then some (g, l.goto .bindStore)
    else if slot = 1 ∧ ¬ g.Admits t then some (g, l.goto .bindExchange)
    else some (g, l.goto .idle)
  | .bindStore => some ({ g with owner := some t }, l.bindsOwner)
  | .bindExchange =>
    if g.worker = none then some ({ g with worker := some t }, l.bindsWorker true)
    else some (g, l.goto .idle)
  -- managed_gc_unbind
  | .unbindWorker => some (g, l.goto (if g.worker = some t then .unbindStore else .idle))
  | .unbindStore => some ({ g with worker := none }, l.bindsWorker false)
  -- managed_arena_acquire
  | .acquireOwner request =>
    if g.Admits t then some (g, l.goto (.acquireArena request g.owner.isSome))
    else some (g, l.goto .idle)
  | .acquireArena (capacity, alignment) ownerAlreadyBound =>
    if g.arena.isSome then
      some (g, if capacity = g.arenaSize then l.bindsOwner else l.goto .idle)
    else if capacity = 0 ∨ alignment = 0 ∨ alignment &&& (alignment - 1) ≠ 0 then
      some (g, l.goto .idle)
    else some (g, l.goto (.acquireStore (capacity, alignment) ownerAlreadyBound))
  | .acquireStore request ownerAlreadyBound =>
    some ({ g with owner := some t }, l.goto (.acquireAlloc request ownerAlreadyBound))
  | .acquireAlloc (capacity, alignment) ownerAlreadyBound =>
    let failed := l.goto (if ownerAlreadyBound then .idle else .acquireRollback)
    let capabilities := if arenaInPsram then MallocCap.spiram else .internal
    if arenaInPsram = true ∧ r.psramInitialized = false then some (g, failed)
    else
      match r.heapCapsAlignedAlloc alignment capacity capabilities with
      | some arena => some ({ g with arena := some arena, arenaSize := capacity }, l.bindsOwner)
      | none => some ({ g with arena := none }, failed)
  | .acquireRollback => some ({ g with owner := none }, l.goto .idle)

end Next

/-! ### The system -/

/-- The slots, and each task. -/
structure SlotSystem (Task Address : Type) where
  slots : ManagedSlots Task Address
  task : Task → SlotTask

/-- The steps of the tasks. -/
inductive SlotAction (Task Address : Type)
  | call (t : Task) (f : SlotCall)
  /-- A call from an interrupt. -/
  | interrupt (f : SlotCall)
  | next (t : Task) (r : SlotAnswer Address)

variable {Task Address : Type} [DecidableEq Task]

/-- The next access finds the handles as the task left them: the owner slot still empty or its own
when it stores into it, an owner still there when it becomes the worker, no worker when it takes its
own handle back; and no arena for its request where it has found no owner. -/
def SlotPc.Undisturbed (pc : SlotPc) (g : ManagedSlots Task Address) (t : Task) : Prop :=
  match pc with
  | .bindStore | .acquireStore _ _ => g.Admits t
  | .bindExchange => g.worker = none → g.owner ≠ none
  | .acquireArena (capacity, _) false => g.arena = none ∨ capacity ≠ g.arenaSize
  | .acquireRollback => g.worker = none
  | _ => True

namespace SlotSystem

/-- Write how far a task has come. -/
def setTask (s : SlotSystem Task Address) (t : Task) (l : SlotTask) : SlotSystem Task Address :=
  { s with task := Function.update s.task t l }

@[simp] theorem setTask_self (s : SlotSystem Task Address) (t : Task) (l : SlotTask) :
    (s.setTask t l).task t = l :=
  Function.update_self ..

theorem setTask_of_ne (s : SlotSystem Task Address) {t u : Task} (l : SlotTask) (h : u ≠ t) :
    (s.setTask t l).task u = s.task u :=
  Function.update_of_ne h ..

/-- The tasks take turns in any order. -/
def step (arenaInPsram : Bool) (s : SlotSystem Task Address) :
    SlotAction Task Address → Option (SlotSystem Task Address)
  | .call t f =>
    match (s.task t).pc with
    | .idle => some (s.setTask t ((s.task t).goto f.entry))
    | _ => none
  | .interrupt .contextValid | .interrupt (.arenaAcquire _ _) =>
    some { s with slots := s.slots.violated }
  | .interrupt _ => some s
  | .next t r =>
    (slotNext arenaInPsram t r s.slots (s.task t)).map fun (slots, l) =>
      { s with slots }.setTask t l

/-- Nobody has disturbed the task that makes the step. -/
def Undisturbed (s : SlotSystem Task Address) : SlotAction Task Address → Prop
  | .next t _ => (s.task t).pc.Undisturbed s.slots t
  | _ => True

end SlotSystem

/-- No slot is taken. -/
def slotBoot : SlotSystem Task Address :=
  ⟨⟨none, none, none, 0, 0⟩, fun _ => ⟨.idle, false, false, none⟩⟩

/-- Any interleaving of any number of tasks. -/
def slotMachine (arenaInPsram : Bool) :
    Machine (SlotSystem Task Address) (SlotAction Task Address) where
  init s := s = slotBoot
  step := SlotSystem.step arenaInPsram

/-! ### The invariant -/

/-- Where the handles stand while a task is on its way. -/
def SlotTask.PcOk (l : SlotTask) (g : ManagedSlots Task Address) (t : Task) : Prop :=
  match l.pc with
  | .indexWorker core => l.holdsOwner = true → core ≠ 0
  | .bindExchange => g.owner ≠ some t
  | .unbindStore => g.worker = some t
  | .acquireArena _ ownerAlreadyBound | .acquireStore _ ownerAlreadyBound =>
    if ownerAlreadyBound then g.owner = some t else l.holdsOwner = false
  | .acquireAlloc _ ownerAlreadyBound =>
    g.owner = some t ∧ (ownerAlreadyBound = false → l.holdsOwner = false)
  | .acquireRollback => g.owner = some t ∧ l.holdsOwner = false
  | _ => True

/-- What holds of each task. -/
structure SlotTask.Inv (l : SlotTask) (g : ManagedSlots Task Address) (t : Task) : Prop where
  owner : l.holdsOwner = true → g.owner = some t
  worker : l.holdsWorker = true ↔ g.worker = some t
  pc : l.PcOk g t
  index : ∀ core i, l.index = some (core, i) →
    (l.holdsOwner = true → i = if core = 0 then 0 else 0xFFFFFFFF) ∧
      (l.holdsWorker = true → i = 1)

/-- A worker needs another task as owner. -/
def ManagedSlots.Separate (g : ManagedSlots Task Address) : Prop :=
  ∀ w, g.worker = some w → ∃ o, g.owner = some o ∧ o ≠ w

/-- The step of task `t` leaves the handles of the others alone. -/
def ManagedSlots.Keeps (g g' : ManagedSlots Task Address) (t : Task) : Prop :=
  ∀ u, u ≠ t → (g.owner = some u ↔ g'.owner = some u) ∧
    (g.worker = some u ↔ g'.worker = some u)

section Steps

variable {arenaInPsram : Bool} {g g' : ManagedSlots Task Address} {l l' : SlotTask} {t u : Task}

omit [DecidableEq Task] in
/-- **The others.**  A task sees its own handles only. -/
theorem SlotTask.Inv.frame (h : l.Inv g u) (howner : g.owner = some u ↔ g'.owner = some u)
    (hworker : g.worker = some u ↔ g'.worker = some u) : l.Inv g' u := by
  refine ⟨fun hl => howner.mp (h.owner hl), h.worker.trans hworker, ?_, h.index⟩
  have hpc := h.pc
  unfold SlotTask.PcOk at hpc ⊢
  simpa only [ne_eq, howner, hworker] using hpc

omit [DecidableEq Task] in
theorem ManagedSlots.Keeps.refl : g.Keeps g t := fun _ _ => ⟨.rfl, .rfl⟩

omit [DecidableEq Task] in
/-- The task goes on, with all handles where they were. -/
theorem SlotTask.Inv.goto (h : l.Inv g t) {pc : SlotPc} (hpc : (l.goto pc).PcOk g t) :
    (l.goto pc).Inv g t :=
  ⟨h.owner, h.worker, hpc, h.index⟩

omit [DecidableEq Task] in
theorem SlotTask.Inv.bindsOwner (h : l.Inv g t) (howner : g.owner = some t) :
    l.bindsOwner.Inv g t :=
  ⟨fun _ => howner, h.worker, trivial, nofun⟩

omit [DecidableEq Task] in
/-- A task that the owner handle lets in is no worker. -/
theorem ManagedSlots.Separate.admits (hsep : g.Separate) (hadmits : g.Admits t) :
    g.worker ≠ some t := by
  intro hworker
  obtain ⟨o, howner, hne⟩ := hsep t hworker
  rcases hadmits with hnone | hsome
  · exact absurd (hnone.symm.trans howner) nofun
  · exact hne (Option.some.inj (howner.symm.trans hsome))

omit [DecidableEq Task] in
theorem ManagedSlots.Separate.storeOwner (hsep : g.Separate) (hadmits : g.Admits t) :
    { g with owner := some t }.Separate := by
  intro w hworker
  refine ⟨t, rfl, ?_⟩
  rintro rfl
  exact hsep.admits hadmits hworker

omit [DecidableEq Task] in
theorem ManagedSlots.Admits.keeps (hadmits : g.Admits t) :
    g.Keeps { g with owner := some t } t := by
  refine fun u hu => ⟨iff_of_false (fun howner => ?_) fun h => hu (Option.some.inj h).symm, .rfl⟩
  rcases hadmits with hnone | hsome
  · exact absurd (hnone.symm.trans howner) nofun
  · exact hu (Option.some.inj (howner.symm.trans hsome))

/-! ### One step, by functions -/

/-- The invariant after a step. -/
def ManagedSlots.After (g g' : ManagedSlots Task Address) (t : Task) (l' : SlotTask) : Prop :=
  l'.Inv g' t ∧ g'.Separate ∧ g.Keeps g' t

omit [DecidableEq Task] in
theorem SlotTask.Inv.stays (h : l.Inv g t) (hsep : g.Separate) {pc : SlotPc}
    (hpc : (l.goto pc).PcOk g t) : g.After g t (l.goto pc) :=
  ⟨h.goto hpc, hsep, .refl⟩

variable {r : SlotAnswer Address}

theorem validNext_after (h : l.Inv g t) (hsep : g.Separate) {acquire : Option (UInt32 × UInt32)}
    (hl : l.pc = .validOwner acquire ∨ l.pc = .validWorker acquire)
    (hs : slotNext arenaInPsram t r g l = some (g', l')) : g.After g' t l' := by
  have hentered : g.After g t (l.goto (acquire.elim .idle .acquireOwner)) :=
    h.stays hsep (by cases acquire <;> trivial)
  rcases hl with hl | hl <;> simp only [slotNext, hl] at hs <;> split_ifs at hs <;>
    obtain ⟨rfl, rfl⟩ := Prod.mk.inj (Option.some.inj hs)
  · exact hentered
  · exact h.stays hsep trivial
  · exact hentered
  · have hidle : (l.goto .idle).Inv g t := h.goto trivial
    exact ⟨hidle.frame .rfl .rfl, hsep, fun _ _ => ⟨.rfl, .rfl⟩⟩

theorem indexOwner_after (h : l.Inv g t) (hsep : g.Separate) (hl : l.pc = .indexOwner)
    (hs : slotNext arenaInPsram t r g l = some (g', l')) : g.After g' t l' := by
  simp only [slotNext, hl] at hs
  split_ifs at hs with hadmits <;> obtain ⟨rfl, rfl⟩ := Prod.mk.inj (Option.some.inj hs)
  · refine ⟨⟨h.owner, h.worker, trivial, fun core i hindex => ?_⟩, hsep, .refl⟩
    obtain ⟨rfl, rfl⟩ := Prod.mk.inj (Option.some.inj hindex)
    refine ⟨fun _ => (if_pos hadmits.1).symm, fun hworker => ?_⟩
    exact absurd (h.worker.mp hworker) (hsep.admits hadmits.2)
  · exact h.stays hsep fun howner hcore => hadmits ⟨hcore, .inr (h.owner howner)⟩

theorem indexWorker_after (h : l.Inv g t) (hsep : g.Separate) {core : Nat}
    (hl : l.pc = .indexWorker core)
    (hs : slotNext arenaInPsram t r g l = some (g', l')) : g.After g' t l' := by
  have hpc := h.pc
  simp only [SlotTask.PcOk, hl] at hpc
  simp only [slotNext, hl] at hs
  obtain ⟨rfl, rfl⟩ := Prod.mk.inj (Option.some.inj hs)
  refine ⟨⟨h.owner, h.worker, trivial, fun core i hindex => ?_⟩, hsep, .refl⟩
  obtain ⟨rfl, rfl⟩ := Prod.mk.inj (Option.some.inj hindex)
  refine ⟨fun howner => ?_, fun hworker => if_pos (h.worker.mp hworker)⟩
  rw [if_neg (hpc howner), if_neg (hsep.admits (.inr (h.owner howner)))]

theorem bindOwner_after (h : l.Inv g t) (hsep : g.Separate) {slot : UInt32}
    (hl : l.pc = .bindOwner slot)
    (hs : slotNext arenaInPsram t r g l = some (g', l')) : g.After g' t l' := by
  simp only [slotNext, hl] at hs
  split_ifs at hs with howner hworker <;> obtain ⟨rfl, rfl⟩ := Prod.mk.inj (Option.some.inj hs)
  · exact h.stays hsep trivial
  · exact h.stays hsep fun hsome => hworker.2 (.inr hsome)
  · exact h.stays hsep trivial

theorem bindStore_after (h : l.Inv g t) (hsep : g.Separate) (hl : l.pc = .bindStore)
    (hok : l.pc.Undisturbed g t)
    (hs : slotNext arenaInPsram t r g l = some (g', l')) : g.After g' t l' := by
  simp only [SlotPc.Undisturbed, hl] at hok
  simp only [slotNext, hl] at hs
  obtain ⟨rfl, rfl⟩ := Prod.mk.inj (Option.some.inj hs)
  exact ⟨⟨fun _ => rfl, h.worker, trivial, nofun⟩, hsep.storeOwner hok, hok.keeps⟩

theorem bindExchange_after (h : l.Inv g t) (hsep : g.Separate) (hl : l.pc = .bindExchange)
    (hok : l.pc.Undisturbed g t)
    (hs : slotNext arenaInPsram t r g l = some (g', l')) : g.After g' t l' := by
  have hother := h.pc
  simp only [SlotTask.PcOk, hl] at hother
  simp only [SlotPc.Undisturbed, hl] at hok
  simp only [slotNext, hl] at hs
  split_ifs at hs with hfree <;> obtain ⟨rfl, rfl⟩ := Prod.mk.inj (Option.some.inj hs)
  · obtain ⟨o, howner⟩ := Option.ne_none_iff_exists'.mp (hok hfree)
    refine ⟨⟨h.owner, ⟨fun _ => rfl, fun _ => rfl⟩, trivial, nofun⟩, ?_, fun u hu => ⟨.rfl, ?_⟩⟩
    · rintro w hw
      obtain rfl := Option.some.inj hw
      exact ⟨o, howner, fun ho => hother (ho ▸ howner)⟩
    · exact iff_of_false (fun hu' => absurd (hfree.symm.trans hu') nofun)
        fun hu' => hu (Option.some.inj hu').symm
  · exact h.stays hsep trivial

theorem unbindNext_after (h : l.Inv g t) (hsep : g.Separate)
    (hl : l.pc = .unbindWorker ∨ l.pc = .unbindStore)
    (hs : slotNext arenaInPsram t r g l = some (g', l')) : g.After g' t l' := by
  rcases hl with hl | hl <;> simp only [slotNext, hl] at hs <;>
    obtain ⟨rfl, rfl⟩ := Prod.mk.inj (Option.some.inj hs)
  · split_ifs with hworker
    · exact h.stays hsep hworker
    · exact h.stays hsep trivial
  · have hworker : g.worker = some t := by
      have hpc := h.pc
      simpa only [SlotTask.PcOk, hl] using hpc
    refine ⟨⟨h.owner, ⟨nofun, nofun⟩, trivial, nofun⟩, nofun, fun u hu => ⟨.rfl, ?_⟩⟩
    exact iff_of_false (fun hu' => hu (Option.some.inj (hworker.symm.trans hu')).symm) nofun

theorem acquireOwner_after (h : l.Inv g t) (hsep : g.Separate) {request : UInt32 × UInt32}
    (hl : l.pc = .acquireOwner request)
    (hs : slotNext arenaInPsram t r g l = some (g', l')) : g.After g' t l' := by
  simp only [slotNext, hl] at hs
  split_ifs at hs with hadmits <;> obtain ⟨rfl, rfl⟩ := Prod.mk.inj (Option.some.inj hs)
  · refine h.stays hsep ?_
    show if g.owner.isSome = true then g.owner = some t else l.holdsOwner = false
    rcases hadmits with hnone | hsome
    · rw [hnone, if_neg nofun]
      refine Bool.eq_false_iff.mpr fun howner => ?_
      exact absurd (hnone.symm.trans (h.owner howner)) nofun
    · simp [hsome]
  · exact h.stays hsep trivial

theorem acquireArena_after (h : l.Inv g t) (hsep : g.Separate) {request : UInt32 × UInt32}
    {ownerAlreadyBound : Bool} (hl : l.pc = .acquireArena request ownerAlreadyBound)
    (hok : l.pc.Undisturbed g t)
    (hs : slotNext arenaInPsram t r g l = some (g', l')) : g.After g' t l' := by
  have hpc := h.pc
  simp only [SlotTask.PcOk, hl] at hpc
  simp only [SlotPc.Undisturbed, hl] at hok
  simp only [slotNext, hl] at hs
  split_ifs at hs with harena hcapacity hrequest <;>
    obtain ⟨rfl, rfl⟩ := Prod.mk.inj (Option.some.inj hs)
  · -- the arena is handed out: to the owner, as nobody else finds it
    cases ownerAlreadyBound with
    | true => exact ⟨h.bindsOwner hpc, hsep, .refl⟩
    | false =>
      rcases hok with hnone | hother
      · rw [hnone] at harena; exact absurd harena nofun
      · exact absurd hcapacity hother
  · exact h.stays hsep trivial
  · exact h.stays hsep trivial
  · exact h.stays hsep hpc

theorem acquireStore_after (h : l.Inv g t) (hsep : g.Separate) {request : UInt32 × UInt32}
    {ownerAlreadyBound : Bool} (hl : l.pc = .acquireStore request ownerAlreadyBound)
    (hok : l.pc.Undisturbed g t)
    (hs : slotNext arenaInPsram t r g l = some (g', l')) : g.After g' t l' := by
  have hpc := h.pc
  simp only [SlotTask.PcOk, hl] at hpc
  simp only [SlotPc.Undisturbed, hl] at hok
  simp only [slotNext, hl] at hs
  obtain ⟨rfl, rfl⟩ := Prod.mk.inj (Option.some.inj hs)
  refine ⟨⟨fun _ => rfl, h.worker, ⟨rfl, fun hfirst => ?_⟩, h.index⟩, hsep.storeOwner hok, hok.keeps⟩
  rwa [hfirst] at hpc

theorem acquireAlloc_after (h : l.Inv g t) (hsep : g.Separate) {request : UInt32 × UInt32}
    {ownerAlreadyBound : Bool} (hl : l.pc = .acquireAlloc request ownerAlreadyBound)
    (hs : slotNext arenaInPsram t r g l = some (g', l')) : g.After g' t l' := by
  have hpc := h.pc
  simp only [SlotTask.PcOk, hl] at hpc
  have hfailed : g.After g t (l.goto (if ownerAlreadyBound then .idle else .acquireRollback)) := by
    cases ownerAlreadyBound with
    | true => exact h.stays hsep trivial
    | false => exact h.stays hsep ⟨hpc.1, hpc.2 rfl⟩
  simp only [slotNext, hl] at hs
  by_cases hpsram : arenaInPsram = true ∧ r.psramInitialized = false
  · rw [if_pos hpsram] at hs
    obtain ⟨rfl, rfl⟩ := Prod.mk.inj (Option.some.inj hs)
    exact hfailed
  · rw [if_neg hpsram] at hs
    split at hs <;> obtain ⟨rfl, rfl⟩ := Prod.mk.inj (Option.some.inj hs)
    · exact ⟨(h.bindsOwner hpc.1).frame .rfl .rfl, hsep, fun _ _ => ⟨.rfl, .rfl⟩⟩
    · exact ⟨hfailed.1.frame .rfl .rfl, hsep, fun _ _ => ⟨.rfl, .rfl⟩⟩

theorem acquireRollback_after (h : l.Inv g t) (hl : l.pc = .acquireRollback)
    (hok : l.pc.Undisturbed g t)
    (hs : slotNext arenaInPsram t r g l = some (g', l')) : g.After g' t l' := by
  have hpc := h.pc
  simp only [SlotTask.PcOk, hl] at hpc
  simp only [SlotPc.Undisturbed, hl] at hok
  simp only [slotNext, hl] at hs
  obtain ⟨rfl, rfl⟩ := Prod.mk.inj (Option.some.inj hs)
  refine ⟨⟨fun howner => absurd (hpc.2.symm.trans howner) nofun, h.worker, trivial, h.index⟩,
    fun w hw => absurd (hok.symm.trans hw) nofun, fun u hu => ⟨?_, .rfl⟩⟩
  exact iff_of_false (fun hu' => hu (Option.some.inj (hpc.1.symm.trans hu')).symm) nofun

/-- **What an undisturbed step keeps.** -/
theorem slotNext_after (h : l.Inv g t) (hsep : g.Separate) (hok : l.pc.Undisturbed g t)
    (hs : slotNext arenaInPsram t r g l = some (g', l')) : g.After g' t l' := by
  cases hl : l.pc with
  | idle => simp only [slotNext, hl] at hs; exact absurd hs nofun
  | validOwner acquire => exact validNext_after h hsep (.inl hl) hs
  | validWorker acquire => exact validNext_after h hsep (.inr hl) hs
  | indexOwner => exact indexOwner_after h hsep hl hs
  | indexWorker core => exact indexWorker_after h hsep hl hs
  | bindOwner slot => exact bindOwner_after h hsep hl hs
  | bindStore => exact bindStore_after h hsep hl hok hs
  | bindExchange => exact bindExchange_after h hsep hl hok hs
  | unbindWorker => exact unbindNext_after h hsep (.inl hl) hs
  | unbindStore => exact unbindNext_after h hsep (.inr hl) hs
  | acquireOwner request => exact acquireOwner_after h hsep hl hs
  | acquireArena request ownerAlreadyBound => exact acquireArena_after h hsep hl hok hs
  | acquireStore request ownerAlreadyBound => exact acquireStore_after h hsep hl hok hs
  | acquireAlloc request ownerAlreadyBound => exact acquireAlloc_after h hsep hl hs
  | acquireRollback => exact acquireRollback_after h hl hok hs

/-- A task does not give the owner slot back. -/
theorem slotNext_holdsOwner (hs : slotNext arenaInPsram t r g l = some (g', l'))
    (h : l.holdsOwner = true) : l'.holdsOwner = true := by
  unfold slotNext at hs
  grind [SlotTask.goto, SlotTask.bindsOwner, SlotTask.bindsWorker, SlotTask.answers]

end Steps

/-! ### Every task -/

namespace SlotSystem

/-- What the tasks know of the slots, and the slots of each other. -/
structure Inv (s : SlotSystem Task Address) : Prop where
  task : ∀ t, (s.task t).Inv s.slots t
  separate : s.slots.Separate

variable {arenaInPsram : Bool} {s s' : SlotSystem Task Address}

theorem call_inv (h : s.Inv) (t : Task) (f : SlotCall) :
    (s.setTask t ((s.task t).goto f.entry)).Inv := by
  refine ⟨fun u => ?_, h.separate⟩
  by_cases hu : u = t
  · subst hu
    rw [setTask_self]
    refine (h.task u).goto ?_
    cases f with
    | gcUnbind slot =>
      rw [SlotCall.entry]
      split_ifs <;> trivial
    | contextValid | gcContextIndex | gcBind | arenaAcquire => trivial
  · rw [setTask_of_ne _ _ hu]
    exact h.task u

theorem next_inv {t : Task} {r : SlotAnswer Address} (h : s.Inv)
    (hok : (s.task t).pc.Undisturbed s.slots t)
    (hs : s.step arenaInPsram (.next t r) = some s') : s'.Inv := by
  obtain ⟨⟨slots, l⟩, hnext, rfl⟩ := Option.map_eq_some_iff.mp hs
  obtain ⟨htask, hsep, hkeeps⟩ := slotNext_after (h.task t) h.separate hok hnext
  refine ⟨fun u => ?_, hsep⟩
  by_cases hu : u = t
  · subst hu
    rw [setTask_self]
    exact htask
  · rw [setTask_of_ne _ _ hu]
    exact (h.task u).frame (hkeeps u hu).1 (hkeeps u hu).2

theorem step_inv {a : SlotAction Task Address} (h : s.Inv) (hok : s.Undisturbed a)
    (hs : s.step arenaInPsram a = some s') : s'.Inv := by
  cases a with
  | call t f =>
    simp only [step] at hs
    split at hs
    · exact Option.some.inj hs ▸ call_inv h t f
    · exact absurd hs nofun
  | interrupt f =>
    cases f with
    | contextValid | arenaAcquire =>
      obtain rfl := Option.some.inj hs
      exact ⟨fun t => (h.task t).frame .rfl .rfl, h.separate⟩
    | gcContextIndex | gcBind | gcUnbind => exact Option.some.inj hs ▸ h
  | next t r => exact next_inv h hok hs

theorem reachable_inv (h : (slotMachine arenaInPsram).ReachableIn Undisturbed s) : s.Inv :=
  h.invariant (fun _ hboot => hboot ▸ ⟨fun _ => ⟨nofun, ⟨nofun, nofun⟩, trivial, nofun⟩, nofun⟩)
    fun _ _ _ hinv hok hs => step_inv hinv hok hs

theorem step_holdsOwner {a : SlotAction Task Address} (hs : s.step arenaInPsram a = some s')
    {u : Task} (h : (s.task u).holdsOwner = true) : (s'.task u).holdsOwner = true := by
  cases a with
  | call t f =>
    simp only [step] at hs
    split at hs
    · obtain rfl := Option.some.inj hs
      by_cases hu : u = t
      · subst hu; rw [setTask_self]; exact h
      · rw [setTask_of_ne _ _ hu]; exact h
    · exact absurd hs nofun
  | interrupt f => cases f <;> obtain rfl := Option.some.inj hs <;> exact h
  | next t r =>
    obtain ⟨⟨slots, l⟩, hnext, rfl⟩ := Option.map_eq_some_iff.mp hs
    by_cases hu : u = t
    · subst hu; rw [setTask_self]; exact slotNext_holdsOwner hnext h
    · rw [setTask_of_ne _ _ hu]; exact h

end SlotSystem

/-! ### Results -/

/-- The task has bound one of the two contexts. -/
def SlotTask.Bound (l : SlotTask) : Prop := l.holdsOwner = true ∨ l.holdsWorker = true

variable {arenaInPsram : Bool}

/-- **The slots are exclusive.**  In every state of an undisturbed run: one task at most has bound
the owner slot; the handle is its own, and stays; the owner is not the worker; a task that has bound
a slot gets its own index, or none if it is the owner and not on core 0; and no two get the same. -/
theorem managed_slots {s : SlotSystem Task Address}
    (h : (slotMachine arenaInPsram).ReachableIn SlotSystem.Undisturbed s) :
    (∀ t u, (s.task t).holdsOwner = true → (s.task u).holdsOwner = true → t = u) ∧
    (∀ t, (s.task t).holdsOwner = true → s.slots.owner = some t ∧
      ∀ a s', s.Undisturbed a → s.step arenaInPsram a = some s' →
        (s'.task t).holdsOwner = true ∧ s'.slots.owner = some t) ∧
    (∀ t, s.slots.owner = some t → s.slots.worker ≠ some t) ∧
    (∀ t core i, (s.task t).index = some (core, i) →
      ((s.task t).holdsOwner = true → i = if core = 0 then 0 else 0xFFFFFFFF) ∧
      ((s.task t).holdsWorker = true → i = 1)) ∧
    ∀ t u core core' i j, t ≠ u → (s.task t).Bound → (s.task u).Bound →
      (s.task t).index = some (core, i) → (s.task u).index = some (core', j) → i ≠ j := by
  have hinv := SlotSystem.reachable_inv h
  have howner : ∀ t u, (s.task t).holdsOwner = true → (s.task u).holdsOwner = true → t = u :=
    fun t u ht hu => Option.some.inj (((hinv.task t).owner ht).symm.trans ((hinv.task u).owner hu))
  have hworker : ∀ t u, (s.task t).holdsWorker = true → (s.task u).holdsWorker = true → t = u :=
    fun t u ht hu =>
      Option.some.inj (((hinv.task t).worker.mp ht).symm.trans ((hinv.task u).worker.mp hu))
  -- an owner's answer is not the worker's
  have hdiffer : ∀ core i, i = (if core = 0 then 0 else 0xFFFFFFFF : UInt32) → i ≠ 1 := by
    rintro core i rfl
    split <;> decide
  refine ⟨howner, fun t ht => ⟨(hinv.task t).owner ht, fun a s' hok hs => ?_⟩,
    fun t ht => hinv.separate.admits (.inr ht), fun t => (hinv.task t).index, ?_⟩
  · have ht' := SlotSystem.step_holdsOwner hs ht
    exact ⟨ht', ((SlotSystem.step_inv hinv hok hs).task t).owner ht'⟩
  · intro t u core core' i j hne ht hu hi hj
    have hi := (hinv.task t).index core i hi
    have hj := (hinv.task u).index core' j hj
    rcases ht with ht | ht <;> rcases hu with hu | hu
    · exact absurd (howner t u ht hu) hne
    · rw [hj.2 hu]; exact hdiffer core i (hi.1 ht)
    · rw [hi.2 ht]; exact (hdiffer core' j (hj.1 hu)).symm
    · exact absurd (hworker t u ht hu) hne

/-- Task 1 binds the owner slot, then task 2 the worker slot, and asks for its index. -/
theorem managed_slots_bound :
    ∃ s : SlotSystem Nat Nat, (slotMachine false).ReachableIn SlotSystem.Undisturbed s ∧
      (s.task 2).index = some (1, 1) ∧ s.slots.owner = some 1 ∧ s.slots.worker ≠ some 1 := by
  have hcall : (slotMachine false : Machine (SlotSystem Nat Nat) _).ReachableIn
      SlotSystem.Undisturbed _ :=
    .step (a := .call 1 (.gcBind 0)) (.init rfl) (by exact trivial) rfl
  have hloaded := ReachableIn.step (a := .next 1 ⟨0, false, fun _ _ _ => none⟩) hcall
    (by exact trivial) rfl
  have howner := ReachableIn.step (a := .next 1 ⟨0, false, fun _ _ _ => none⟩) hloaded
    (by exact .inl rfl) rfl
  have hcall := ReachableIn.step (a := .call 2 (.gcBind 1)) howner (by exact trivial) rfl
  have hloaded := ReachableIn.step (a := .next 2 ⟨1, false, fun _ _ _ => none⟩) hcall
    (by exact trivial) rfl
  have hworker := ReachableIn.step (a := .next 2 ⟨1, false, fun _ _ _ => none⟩) hloaded
    (by exact nofun) rfl
  have hcall := ReachableIn.step (a := .call 2 .gcContextIndex) hworker (by exact trivial) rfl
  have hloaded := ReachableIn.step (a := .next 2 ⟨1, false, fun _ _ _ => none⟩) hcall
    (by exact trivial) rfl
  have hanswered := ReachableIn.step (a := .next 2 ⟨1, false, fun _ _ _ => none⟩) hloaded
    (by exact trivial) rfl
  exact ⟨_, hanswered, rfl, rfl, (managed_slots hanswered).2.2.1 1 rfl⟩

/-- Both tasks load the owner before either stores itself, and both calls succeed. -/
theorem managed_slots_raced :
    ∃ s : SlotSystem Nat Nat, (slotMachine false).Reachable s ∧
      (s.task 1).holdsOwner = true ∧ (s.task 2).holdsOwner = true ∧ s.slots.owner = some 2 := by
  let r : SlotAnswer Nat := { core := 0 }
  obtain ⟨s, hs, hp⟩ := exists_reachable_of_run
    (M := (slotMachine false : Machine (SlotSystem Nat Nat) _))
    [.call 1 (.gcBind 0), .call 2 (.gcBind 0), .next 1 r, .next 2 r, .next 1 r, .next 2 r]
    (fun s => (s.task 1).holdsOwner && (s.task 2).holdsOwner && s.slots.owner == some 2)
    rfl (by decide)
  simp only [Bool.and_eq_true, beq_iff_eq] at hp
  exact ⟨s, hs, hp.1.1, hp.1.2, hp.2⟩

end Esp32Mod
