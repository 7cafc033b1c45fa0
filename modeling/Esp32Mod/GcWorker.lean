/-
Esp32Mod/GcWorker.lean

The worker task of the garbage collector (`runtime.mod/native/esp32_runtime.c`, the build with
`BMX_EMBEDDED_MULTICORE`): `managed_gc_worker_start` creates it, its trampoline runs the entry and
then suspends for ever, and `managed_gc_worker_join` deletes it when it does.

A task handle is a pointer: when a task has been deleted, the next one may get its handle.  The
worker slot holds such a handle, and whoever has it counts as the worker.  Here any number of other
tasks come and go, and a new task gets any handle that is free.

Start and join take several steps, with those of all other tasks in between; so do the load of the
entry by the trampoline and its return.  A call of `managed_gc_bind` or `managed_gc_unbind` is one
step: what can happen inside of it is in `ManagedSlots`.

Outside the source, `bound` says of each task whether it has bound the worker slot itself, since it
was created; `started` and `ran` are the entries that workers were created for, and that their
trampolines have loaded.

Main results:

* `gc_worker` — the slot names a task that has bound it, the lifecycle handle names the worker, and
  every worker runs the entry of its start, if tasks give the slot back before they end;
* `gc_worker_reused` — otherwise a new task finds itself the worker.
-/
import Esp32Mod.StepMachine
import Mathlib.Data.UInt
import Mathlib.Logic.Function.Basic

namespace Esp32Mod

open StepMachine Machine

/-! ### The source -/

/-- What a task is doing: one of the application or of ESP-IDF, or a worker. -/
inductive TaskLife (Entry : Type)
  | other
  | trampoline
  | entry (e : Entry)
  | suspended

/-- The task has been made by a start. -/
def TaskLife.isWorker {Entry : Type} : TaskLife Entry → Bool
  | other => false
  | _ => true

/-- Where the owner is in `worker_start` or `worker_join`. -/
inductive LifecycleCall (Task Entry : Type)
  | idle
  /-- The entry is stored, and `xTaskCreatePinnedToCore` comes next. -/
  | create (e : Entry)
  /-- The task exists, and its handle is not stored yet. -/
  | store (t : Task)
  /-- The worker has been seen suspended, and `vTaskDelete` comes next. -/
  | delete (t : Task)
  | clear

/-- No start or join is under way. -/
def LifecycleCall.isIdle {Task Entry : Type} : LifecycleCall Task Entry → Bool
  | idle => true
  | _ => false

/-- The static variables, the tasks, and what has happened. -/
structure GcTasks (Task Entry : Type) where
  ownerTask : Option Task
  workerTask : Option Task
  lifecycleTask : Option Task
  lifecycleEntry : Option Entry
  call : LifecycleCall Task Entry
  life : Task → Option (TaskLife Entry)
  bound : Task → Bool
  started : List Entry
  ran : List Entry
  joined : Nat

/-- Who calls: the task, whether an interrupt has come in between, and the core. -/
structure GcCaller (Task : Type) where
  task : Task
  isr : Bool := false
  core : Nat := 0

section Source

variable {Task Entry : Type} [DecidableEq Task]

namespace GcTasks

/-- The handle of the owner lets a task in: it is `NULL` or the task's own. -/
def admits (s : GcTasks Task Entry) (t : Task) : Bool :=
  s.ownerTask = none ∨ s.ownerTask = some t

/-- 0 for the owner, 1 for the worker. -/
def bmxEsp32ManagedGcContextIndex (s : GcTasks Task Entry) (c : GcCaller Task) : UInt32 :=
  if c.isr = true then 0xFFFFFFFF
  else if c.core = 0 ∧ s.admits c.task = true then 0
  else if s.workerTask = some c.task then 1
  else 0xFFFFFFFF

/-- Slot 0 is the owner's, on core 0; slot 1 is for one other task. -/
def bmxEsp32ManagedGcBind (s : GcTasks Task Entry) (c : GcCaller Task) (slot : UInt32) :
    Bool × GcTasks Task Entry :=
  if c.isr = true then (false, s)
  else if slot = 0 ∧ c.core = 0 ∧ s.admits c.task = true then
    (true, { s with ownerTask := some c.task })
  else if slot = 1 ∧ s.admits c.task = false then
    if s.workerTask = none then
      (true, { s with
        workerTask := some c.task
        bound := Function.update s.bound c.task true })
    else (false, s)
  else (false, s)

/-- Only the worker gives its slot back. -/
def bmxEsp32ManagedGcUnbind (s : GcTasks Task Entry) (c : GcCaller Task) (slot : UInt32) :
    GcTasks Task Entry :=
  if slot = 1 ∧ c.isr = false ∧ s.workerTask = some c.task then
    { s with workerTask := none, bound := Function.update s.bound c.task false }
  else s

/-- `managed_gc_worker_start`, up to the creation of the task. -/
def bmxEsp32ManagedGcWorkerStart (s : GcTasks Task Entry) (c : GcCaller Task)
    (entry : Option Entry) : GcTasks Task Entry :=
  match entry with
  | none => s
  | some e =>
    if c.isr = true ∨ c.core ≠ 0 ∨ s.ownerTask ≠ some c.task ∨ s.lifecycleTask.isSome = true then s
    else { s with lifecycleEntry := some e, call := .create e }

/-- `eTaskGetState` answers `eSuspended`. -/
def isSuspended (s : GcTasks Task Entry) (t : Task) : Bool :=
  match s.life t with
  | some .suspended => true
  | _ => false

/-- `managed_gc_worker_join`, up to the deletion of the task. -/
def bmxEsp32ManagedGcWorkerJoin (s : GcTasks Task Entry) (c : GcCaller Task) :
    GcTasks Task Entry :=
  match s.lifecycleTask with
  | none => s
  | some task =>
    if c.isr = true ∨ c.core ≠ 0 ∨ s.ownerTask ≠ some c.task ∨ s.isSuspended task = false then s
    else { s with call := .delete task }

/-- The next step of the owner in its call; a new task gets the handle `created`, if any. -/
def lifecycleStep (s : GcTasks Task Entry) (created : Option Task) : Option (GcTasks Task Entry) :=
  match s.call with
  | .idle => none
  | .create e =>
    match created with
    | none => some { s with call := .idle }
    | some t =>
      if s.life t = none then
        some { s with
          life := Function.update s.life t (some .trampoline)
          bound := Function.update s.bound t false
          started := s.started ++ [e]
          call := .store t }
      else none
  | .store t => some { s with lifecycleTask := some t, call := .idle }
  | .delete t => some { s with
      life := Function.update s.life t none
      joined := s.joined + 1
      call := .clear }
  | .clear => some { s with lifecycleTask := none, call := .idle }

/-- The trampoline loads the entry. -/
def trampolineStep (s : GcTasks Task Entry) (t : Task) : Option (GcTasks Task Entry) :=
  match s.life t with
  | some .trampoline => s.lifecycleEntry.map fun e => { s with
      life := Function.update s.life t (some (.entry e))
      ran := s.ran ++ [e] }
  | _ => none

/-- The entry returns, and the trampoline suspends its task. -/
def returnStep (s : GcTasks Task Entry) (t : Task) : Option (GcTasks Task Entry) :=
  match s.life t with
  | some (.entry _) => some { s with life := Function.update s.life t (some .suspended) }
  | _ => none

/-- A task can call: it exists, it is running, and it is not in a call already. -/
def runs (s : GcTasks Task Entry) (t : Task) : Bool :=
  match s.life t with
  | some .other => s.call.isIdle || s.ownerTask ≠ some t
  | some (.entry _) => true
  | _ => false

end GcTasks

/-- The steps of the tasks. -/
inductive GcAction (Task Entry : Type)
  | spawn (t : Task)
  | exit (t : Task)
  | bind (c : GcCaller Task) (slot : UInt32)
  | unbind (c : GcCaller Task) (slot : UInt32)
  | start (c : GcCaller Task) (entry : Option Entry)
  | join (c : GcCaller Task)
  | lifecycle (created : Option Task)
  | trampoline (t : Task)
  | returns (t : Task)

namespace GcTasks

/-- Another task is created with a free handle. -/
def spawnStep (s : GcTasks Task Entry) (t : Task) : Option (GcTasks Task Entry) :=
  if s.life t = none then
    some { s with
      life := Function.update s.life t (some .other)
      bound := Function.update s.bound t false }
  else none

/-- A task that is no worker is deleted. -/
def exitStep (s : GcTasks Task Entry) (t : Task) : Option (GcTasks Task Entry) :=
  match s.life t with
  | some .other => some { s with life := Function.update s.life t none }
  | _ => none

/-- Only a task that runs makes a step. -/
def step (s : GcTasks Task Entry) : GcAction Task Entry → Option (GcTasks Task Entry)
  | .spawn t => s.spawnStep t
  | .exit t => s.exitStep t
  | .bind c slot => if s.runs c.task then some (s.bmxEsp32ManagedGcBind c slot).2 else none
  | .unbind c slot => if s.runs c.task then some (s.bmxEsp32ManagedGcUnbind c slot) else none
  | .start c entry => if s.runs c.task then some (s.bmxEsp32ManagedGcWorkerStart c entry) else none
  | .join c => if s.runs c.task then some (s.bmxEsp32ManagedGcWorkerJoin c) else none
  | .lifecycle created => s.lifecycleStep created
  | .trampoline t => s.trampolineStep t
  | .returns t => s.returnStep t

/-- No worker has been started; all tasks are of another kind, and none has bound anything. -/
structure Boot (s : GcTasks Task Entry) : Prop where
  ownerTask : s.ownerTask = none
  workerTask : s.workerTask = none
  lifecycleTask : s.lifecycleTask = none
  call : s.call = .idle
  life : ∀ t l, s.life t = some l → l = .other
  bound : ∀ t, s.bound t = false
  started : s.started = []
  ran : s.ran = []
  joined : s.joined = 0

end GcTasks

/-- Any interleaving of the tasks. -/
def gcMachine : Machine (GcTasks Task Entry) (GcAction Task Entry) where
  init := GcTasks.Boot
  step := GcTasks.step

/-- The owner's task lives for ever, and a task that ends, or an entry that returns, has given the
slot back. -/
def GcOrderly (s : GcTasks Task Entry) : GcAction Task Entry → Prop
  | .exit t => s.ownerTask ≠ some t ∧ s.bound t = false
  | .returns t => s.bound t = false
  | _ => True

/-! ### The statement -/

/-- `t` is a worker task. -/
def GcTasks.Works (s : GcTasks Task Entry) (t : Task) : Prop :=
  ∃ l, s.life t = some l ∧ l.isWorker = true

/-- What the collector can rely on. -/
structure GcWorkerSafe (s : GcTasks Task Entry) : Prop where
  /-- The slot names a task that exists and has bound it itself. -/
  slot : ∀ t, s.workerTask = some t → (s.life t).isSome = true ∧ s.bound t = true
  /-- So context 1 is that of a task that has bound it. -/
  index : ∀ c, s.bmxEsp32ManagedGcContextIndex c = 1 → s.bound c.task = true
  /-- There is one worker at most, -/
  single : ∀ t u, s.Works t → s.Works u → t = u
  /-- and while no call is under way the lifecycle handle is its handle, if there is one. -/
  known : s.call = .idle → ∀ t, s.lifecycleTask = some t ↔ s.Works t
  /-- The trampoline of a new task finds the entry its task was created for. -/
  loads : ∀ t, s.life t = some .trampoline →
    ∃ e, s.lifecycleEntry = some e ∧ s.started = s.ran ++ [e]
  /-- The entries are run in order, each by its own worker, and before that is joined. -/
  entries : s.ran <+: s.started
  joined : s.joined ≤ s.ran.length ∧ s.started.length ≤ s.joined + 1

/-! ### Handles -/

/-- The owner is no worker; the slot names a task that has bound it; and a suspended one has not. -/
structure GcHandles (ownerTask workerTask : Option Task) (life : Task → Option (TaskLife Entry))
    (bound : Task → Bool) : Prop where
  owner : ∀ o, ownerTask = some o → life o = some .other
  slot : ∀ t, workerTask = some t → (life t).isSome = true ∧ bound t = true
  suspended : ∀ t, life t = some .suspended → bound t = false

section Handles

variable {ownerTask workerTask : Option Task} {life : Task → Option (TaskLife Entry)}
  {bound : Task → Bool} {t : Task} {l l' : TaskLife Entry}

/-- A new task has a handle that nobody knows any more, and has bound nothing. -/
theorem GcHandles.create (h : GcHandles ownerTask workerTask life bound) (hfree : life t = none)
    (l : TaskLife Entry) : GcHandles ownerTask workerTask (Function.update life t (some l))
      (Function.update bound t false) := by
  refine ⟨fun o ho => ?_, fun u hu => ?_, fun u hu => ?_⟩
  · have hother := h.owner o ho
    rw [Function.update_of_ne (by rintro rfl; cases hfree.symm.trans hother)]
    exact hother
  · obtain ⟨hlife, hbound⟩ := h.slot u hu
    have hut : u ≠ t := by
      rintro rfl
      rw [hfree] at hlife
      cases hlife
    rw [Function.update_of_ne hut, Function.update_of_ne hut]
    exact ⟨hlife, hbound⟩
  · by_cases hut : u = t
    · rw [hut, Function.update_self]
    · rw [Function.update_of_ne hut] at hu ⊢
      exact h.suspended u hu

/-- A task that is deleted does not have the slot. -/
theorem GcHandles.delete (h : GcHandles ownerTask workerTask life bound)
    (howner : ownerTask ≠ some t) (hbound : bound t = false) :
    GcHandles ownerTask workerTask (Function.update life t none) bound := by
  refine ⟨fun o ho => ?_, fun u hu => ?_, fun u hu => ?_⟩
  · rw [Function.update_of_ne (by rintro rfl; exact howner ho)]
    exact h.owner o ho
  · obtain ⟨hlife, hu'⟩ := h.slot u hu
    rw [Function.update_of_ne (by rintro rfl; exact Bool.false_ne_true (hbound.symm.trans hu'))]
    exact ⟨hlife, hu'⟩
  · by_cases hut : u = t
    · rw [hut, Function.update_self] at hu
      cases hu
    · rw [Function.update_of_ne hut] at hu
      exact h.suspended u hu

/-- A worker goes on; it has given the slot back when it is suspended. -/
theorem GcHandles.goOn (h : GcHandles ownerTask workerTask life bound) (hl : life t = some l)
    (hworker : l ≠ .other) (hsuspended : l' = .suspended → bound t = false) :
    GcHandles ownerTask workerTask (Function.update life t (some l')) bound := by
  refine ⟨fun o ho => ?_, fun u hu => ?_, fun u hu => ?_⟩
  · have hother := h.owner o ho
    rw [Function.update_of_ne]
    · exact hother
    · rintro rfl
      exact hworker (Option.some.inj (hl.symm.trans hother))
  · obtain ⟨hlife, hbound⟩ := h.slot u hu
    refine ⟨?_, hbound⟩
    by_cases hut : u = t
    · rw [hut, Function.update_self]
      rfl
    · rwa [Function.update_of_ne hut]
  · by_cases hut : u = t
    · rw [hut, Function.update_self] at hu
      exact hut ▸ hsuspended (Option.some.inj hu)
    · rw [Function.update_of_ne hut] at hu
      exact h.suspended u hu

end Handles

/-! ### Workers -/

/-- What the workers are doing; `none` for every other task. -/
def workersOf (life : Task → Option (TaskLife Entry)) (t : Task) : Option (TaskLife Entry) :=
  (life t).filter TaskLife.isWorker

/-- Where the owner is, and which workers there are. -/
def LifecycleCall.Fits (w : Task → Option (TaskLife Entry)) (lifecycleTask : Option Task)
    (lifecycleEntry : Option Entry) : LifecycleCall Task Entry → Prop
  | idle => ∀ t, lifecycleTask = some t ↔ (w t).isSome = true
  | create e => lifecycleTask = none ∧ lifecycleEntry = some e ∧ ∀ t, w t = none
  | store t => ∀ u, (w u).isSome = true ↔ u = t
  | delete t => w t = some .suspended ∧ ∀ u, (w u).isSome = true ↔ u = t
  | clear => ∀ t, w t = none

/-- How far the workers have come with the entries they were created for. -/
structure Progress (w : Task → Option (TaskLife Entry)) (lifecycleEntry : Option Entry)
    (started ran : List Entry) (joined : Nat) : Prop where
  free : (∀ t, w t = none) → started = ran ∧ joined = ran.length
  fresh : ∀ t, w t = some .trampoline →
    joined = ran.length ∧ ∃ e, lifecycleEntry = some e ∧ started = ran ++ [e]
  later : ∀ t l, w t = some l → l ≠ .trampoline → started = ran ∧ joined + 1 = ran.length

section Lifecycle

variable {life : Task → Option (TaskLife Entry)} {w : Task → Option (TaskLife Entry)} {lifecycleTask : Option Task}
  {lifecycleEntry : Option Entry} {call : LifecycleCall Task Entry} {started ran : List Entry}
  {joined : Nat} {t u : Task} {l l' : TaskLife Entry} {e : Entry}

theorem workersOf_update (t : Task) (o : Option (TaskLife Entry)) :
    workersOf (Function.update life t o) =
      Function.update (workersOf life) t (o.filter TaskLife.isWorker) := by
  funext u
  by_cases hu : u = t
  · rw [hu, workersOf, Function.update_self, Function.update_self]
  · rw [workersOf, Function.update_of_ne hu, Function.update_of_ne hu, workersOf]

/-- A task of another kind comes or goes. -/
theorem workersOf_update_other {o : Option (TaskLife Entry)} (hbefore : workersOf life t = none)
    (hafter : o.filter TaskLife.isWorker = none) :
    workersOf (Function.update life t o) = workersOf life := by
  rw [workersOf_update, hafter, ← hbefore, Function.update_eq_self]

omit [DecidableEq Task] in
theorem workersOf_eq (h : life t = some l) (hl : l.isWorker = true) :
    workersOf life t = some l := by
  rw [workersOf, h, Option.filter_some, if_pos hl]

omit [DecidableEq Task] in
theorem life_of_workersOf (h : workersOf life t = some l) : life t = some l :=
  (Option.filter_eq_some_iff.mp h).1

omit [DecidableEq Task] in
/-- **One worker.** -/
theorem LifecycleCall.Fits.single (h : call.Fits w lifecycleTask lifecycleEntry)
    (ht : (w t).isSome = true) (hu : (w u).isSome = true) : t = u := by
  cases call with
  | idle => exact Option.some.inj (((h t).mpr ht).symm.trans ((h u).mpr hu))
  | create e => rw [h.2.2 t] at ht; cases ht
  | store v => exact ((h t).mp ht).trans ((h u).mp hu).symm
  | delete v => exact ((h.2 t).mp ht).trans ((h.2 u).mp hu).symm
  | clear => rw [h t] at ht; cases ht

/-- A worker goes on, from where no join can have seen it suspended. -/
theorem LifecycleCall.Fits.goOn (h : call.Fits w lifecycleTask lifecycleEntry) (ht : w t = some l)
    (hl : l ≠ .suspended) : call.Fits (Function.update w t (some l')) lifecycleTask lifecycleEntry := by
  have hsame : ∀ u, (Function.update w t (some l') u).isSome = (w u).isSome := by
    intro u
    by_cases hu : u = t
    · rw [hu, Function.update_self, ht, Option.isSome_some, Option.isSome_some]
    · rw [Function.update_of_ne hu]
  cases call with
  | idle => exact fun u => (hsame u).symm ▸ h u
  | create e => exact absurd (ht.symm.trans (h.2.2 t)) (by simp)
  | store v => exact fun u => (hsame u).symm ▸ h u
  | delete v =>
    -- the only worker is the one that is being deleted
    obtain rfl := (h.2 t).mp (by rw [ht]; rfl)
    exact absurd (Option.some.inj (ht.symm.trans h.1)) hl
  | clear => exact absurd (ht.symm.trans (h t)) (by simp)

/-- The trampoline of the only worker loads the entry. -/
theorem Progress.load (h : Progress w lifecycleEntry started ran joined)
    (ht : w t = some .trampoline) (hone : ∀ u, (w u).isSome = true → u = t)
    (he : lifecycleEntry = some e) :
    Progress (Function.update w t (some (.entry e))) lifecycleEntry started (ran ++ [e]) joined := by
  obtain ⟨hjoined, e', he', hstarted⟩ := h.fresh t ht
  obtain rfl := Option.some.inj (he.symm.trans he')
  refine ⟨fun hfree => ?_, fun u hu => ?_, fun u l hu _ => ⟨hstarted, ?_⟩⟩
  · exact absurd (hfree t) (by rw [Function.update_self]; simp)
  · by_cases hut : u = t
    · rw [hut, Function.update_self] at hu
      cases hu
    · rw [Function.update_of_ne hut] at hu
      exact absurd (hone u (by rw [hu]; rfl)) hut
  · rw [List.length_append, List.length_singleton, hjoined]

/-- The entry of the only worker returns. -/
theorem Progress.returns (h : Progress w lifecycleEntry started ran joined)
    (ht : w t = some (.entry e)) (hone : ∀ u, (w u).isSome = true → u = t) :
    Progress (Function.update w t (some .suspended)) lifecycleEntry started ran joined := by
  refine ⟨fun hfree => ?_, fun u hu => ?_, fun u l hu _ => h.later t _ ht (by simp)⟩
  · exact absurd (hfree t) (by rw [Function.update_self]; simp)
  · by_cases hut : u = t
    · rw [hut, Function.update_self] at hu
      cases hu
    · rw [Function.update_of_ne hut] at hu
      exact absurd (hone u (by rw [hu]; rfl)) hut

end Lifecycle

/-! ### The invariant -/

/-- The invariant behind it. -/
structure GcTasks.Inv (s : GcTasks Task Entry) : Prop where
  handles : GcHandles s.ownerTask s.workerTask s.life s.bound
  /-- A worker, or a call that makes one, has an owner. -/
  owned : s.ownerTask = none → s.call = .idle ∧ ∀ t, workersOf s.life t = none
  fits : s.call.Fits (workersOf s.life) s.lifecycleTask s.lifecycleEntry
  progress : Progress (workersOf s.life) s.lifecycleEntry s.started s.ran s.joined

namespace GcTasks

variable {s s' : GcTasks Task Entry} {t : Task} {c : GcCaller Task}

omit [DecidableEq Task] in
theorem works_iff : s.Works t ↔ (workersOf s.life t).isSome = true := by
  rw [Works, workersOf]
  cases s.life t with
  | none => exact ⟨(fun ⟨_, h, _⟩ => by cases h), fun h => by cases h⟩
  | some l =>
    rw [Option.isSome_filter, Option.any_some]
    exact ⟨(fun ⟨_, h, hl⟩ => Option.some.inj h ▸ hl), fun h => ⟨l, rfl, h⟩⟩

/-! ### The steps of other tasks -/

theorem Inv.spawn (h : s.Inv) (hs : s.spawnStep t = some s') : s'.Inv := by
  rw [spawnStep] at hs
  split at hs
  · rename_i hfree
    obtain rfl := Option.some.inj hs
    have hworkers : workersOf (Function.update s.life t (some .other)) = workersOf s.life :=
      workersOf_update_other (by rw [workersOf, hfree]; rfl) rfl
    exact ⟨h.handles.create hfree _, hworkers.symm ▸ h.owned, hworkers.symm ▸ h.fits,
      hworkers.symm ▸ h.progress⟩
  · cases hs

theorem Inv.exit (h : s.Inv) (howner : s.ownerTask ≠ some t) (hbound : s.bound t = false)
    (hs : s.exitStep t = some s') : s'.Inv := by
  unfold exitStep at hs
  split at hs
  · rename_i hother
    obtain rfl := Option.some.inj hs
    have hworkers : workersOf (Function.update s.life t none) = workersOf s.life :=
      workersOf_update_other (by rw [workersOf, hother]; rfl) rfl
    exact ⟨h.handles.delete howner hbound, hworkers.symm ▸ h.owned, hworkers.symm ▸ h.fits,
      hworkers.symm ▸ h.progress⟩
  · cases hs

/-- A task that calls exists, and is not suspended. -/
theorem runs_life (h : s.runs t = true) : ∃ l, s.life t = some l ∧ l ≠ .suspended := by
  rw [runs] at h
  split at h
  · rename_i hl
    exact ⟨_, hl, by simp⟩
  · rename_i hl
    exact ⟨_, hl, by simp⟩
  · cases h

/-- The owner calls only while it is in no other call. -/
theorem Inv.runs_owner (h : s.Inv) (hruns : s.runs t = true) (howner : s.ownerTask = some t) :
    s.call = .idle := by
  rw [runs, h.handles.owner t howner] at hruns
  rcases (Bool.or_eq_true ..).mp hruns with hidle | hother
  · cases hcall : s.call with
    | idle => rfl
    | _ => rw [hcall] at hidle; cases hidle
  · exact absurd howner (of_decide_eq_true hother)

/-- A worker has an owner; so who finds none is no worker. -/
theorem Inv.runs_other (h : s.Inv) (hruns : s.runs t = true) (hadmits : s.admits t = true) :
    s.life t = some .other := by
  rcases of_decide_eq_true hadmits with hnone | hsome
  · obtain ⟨l, hl, -⟩ := runs_life hruns
    cases l with
    | other => exact hl
    | _ =>
      have hworks := workersOf_eq hl rfl
      rw [(h.owned hnone).2 t] at hworks
      cases hworks
  · exact h.handles.owner t hsome

theorem Inv.bind (h : s.Inv) (slot : UInt32) (hruns : s.runs c.task = true) :
    (s.bmxEsp32ManagedGcBind c slot).2.Inv := by
  rw [bmxEsp32ManagedGcBind]
  split
  · exact h
  split
  · rename_i hslot
    obtain ⟨-, -, hadmits⟩ := hslot
    have hother := h.runs_other hruns hadmits
    refine ⟨⟨fun o ho => ?_, h.handles.slot, h.handles.suspended⟩, fun hnone => (by cases hnone),
      h.fits, h.progress⟩
    obtain rfl := Option.some.inj ho
    exact hother
  split
  · split
    · obtain ⟨l, hlife, hl⟩ := runs_life hruns
      refine ⟨⟨h.handles.owner, fun u hu => ?_, fun u hu => ?_⟩, h.owned, h.fits, h.progress⟩
      · obtain rfl := Option.some.inj hu
        exact ⟨Option.isSome_iff_exists.mpr ⟨l, hlife⟩, Function.update_self ..⟩
      · have hut : u ≠ c.task := by
          rintro rfl
          exact hl (Option.some.inj (hlife.symm.trans hu))
        exact (Function.update_of_ne hut ..).trans (h.handles.suspended u hu)
    · exact h
  · exact h

theorem Inv.unbind (h : s.Inv) (slot : UInt32) : (s.bmxEsp32ManagedGcUnbind c slot).Inv := by
  rw [bmxEsp32ManagedGcUnbind]
  split
  · refine ⟨⟨h.handles.owner, fun u hu => (by cases hu), fun u hu => ?_⟩, h.owned, h.fits,
      h.progress⟩
    by_cases hut : u = c.task
    · exact hut ▸ Function.update_self ..
    · exact (Function.update_of_ne hut ..).trans (h.handles.suspended u hu)
  · exact h

/-! ### The calls of the owner -/

theorem Inv.start (h : s.Inv) (hruns : s.runs c.task = true) (entry : Option Entry) :
    (s.bmxEsp32ManagedGcWorkerStart c entry).Inv := by
  unfold bmxEsp32ManagedGcWorkerStart
  split
  · exact h
  split
  · exact h
  · rename_i hvalid
    simp only [not_or, ne_eq, Classical.not_not] at hvalid
    obtain ⟨-, -, howner, hfree⟩ := hvalid
    have hfits := h.fits
    rw [h.runs_owner hruns howner] at hfits
    have hnone : ∀ t, workersOf s.life t = none := by
      intro t
      rw [← Option.not_isSome_iff_eq_none]
      exact fun hworks => hfree (by rw [(hfits t).mpr hworks]; rfl)
    refine ⟨h.handles, fun hno => (by cases howner.symm.trans hno),
      ⟨Option.not_isSome_iff_eq_none.mp hfree, rfl, hnone⟩, h.progress.free, fun t ht => ?_,
      h.progress.later⟩
    cases (hnone t).symm.trans ht

omit [DecidableEq Task] in
theorem life_of_isSuspended (h : s.isSuspended t = true) : s.life t = some .suspended := by
  unfold isSuspended at h
  split at h
  · assumption
  · cases h

theorem Inv.join (h : s.Inv) (hruns : s.runs c.task = true) :
    (s.bmxEsp32ManagedGcWorkerJoin c).Inv := by
  unfold bmxEsp32ManagedGcWorkerJoin
  split
  · exact h
  rename_i task htask
  split
  · exact h
  · rename_i hvalid
    simp only [not_or, ne_eq, Classical.not_not, Bool.not_eq_false] at hvalid
    obtain ⟨-, -, howner, hsuspended⟩ := hvalid
    have hworks := workersOf_eq (life_of_isSuspended hsuspended) rfl
    have hfits := h.fits
    rw [h.runs_owner hruns howner] at hfits
    refine ⟨h.handles, fun hno => (by cases howner.symm.trans hno), ⟨hworks, fun u => ?_⟩,
      h.progress⟩
    rw [← hfits u, htask, Option.some.injEq, eq_comm]

/-- A task is created for the worker. -/
theorem Inv.create (h : s.Inv) {e : Entry} (hcall : s.call = .create e) (hfree : s.life t = none) :
    { s with
      life := Function.update s.life t (some .trampoline)
      bound := Function.update s.bound t false
      started := s.started ++ [e]
      call := .store t }.Inv := by
  have hfits := h.fits
  rw [hcall] at hfits
  obtain ⟨-, hentry, hnone⟩ := hfits
  obtain ⟨hstarted, hjoined⟩ := h.progress.free hnone
  -- the task that is created is the only worker
  have hworkers : ∀ u, workersOf (Function.update s.life t (some .trampoline)) u =
      if u = t then some .trampoline else none := by
    intro u
    rw [workersOf_update]
    split
    · rename_i hut
      rw [hut, Function.update_self]
      rfl
    · rename_i hut
      rw [Function.update_of_ne hut, hnone u]
  refine ⟨h.handles.create hfree _, fun hno => ?_, fun u => ?_, fun hnone' => ?_,
    fun u _ => ⟨hjoined, e, hentry, congrArg (· ++ [e]) hstarted⟩, fun u l hu hl => ?_⟩
  · cases hcall.symm.trans (h.owned hno).1
  · rw [hworkers u]
    split
    · exact ⟨fun _ => ‹_›, fun _ => rfl⟩
    · exact ⟨(fun hx => by cases hx), fun hx => absurd hx ‹_›⟩
  · have hx := hnone' t
    rw [hworkers t, if_pos rfl] at hx
    cases hx
  · rw [hworkers u] at hu
    split at hu
    · exact absurd (Option.some.inj hu).symm hl
    · cases hu

/-- The worker is deleted, which is suspended. -/
theorem Inv.delete (h : s.Inv) (hcall : s.call = .delete t) :
    { s with
      life := Function.update s.life t none
      joined := s.joined + 1
      call := .clear }.Inv := by
  have hfits := h.fits
  rw [hcall] at hfits
  obtain ⟨hsuspended, hone⟩ := hfits
  have hlife := life_of_workersOf hsuspended
  obtain ⟨hstarted, hjoined⟩ := h.progress.later t _ hsuspended (by simp)
  have hnone : ∀ u, workersOf (Function.update s.life t none) u = none := by
    intro u
    rw [workersOf_update]
    by_cases hut : u = t
    · rw [hut, Function.update_self]
      rfl
    · rw [Function.update_of_ne hut, ← Option.not_isSome_iff_eq_none]
      exact fun hu => hut ((hone u).mp hu)
  refine ⟨h.handles.delete (fun ho => ?_) (h.handles.suspended t hlife), fun hno => ?_, hnone,
    fun _ => ⟨hstarted, hjoined⟩, fun u hu => ?_, fun u l hu => ?_⟩
  · cases hlife.symm.trans (h.handles.owner t ho)
  · cases hcall.symm.trans (h.owned hno).1
  · cases (hnone u).symm.trans hu
  · cases (hnone u).symm.trans hu

theorem Inv.lifecycle (h : s.Inv) {created : Option Task}
    (hs : s.lifecycleStep created = some s') : s'.Inv := by
  have hfits := h.fits
  have howned : s.ownerTask = none → s.call = .idle := fun hno => (h.owned hno).1
  unfold lifecycleStep at hs
  -- the call goes on: it creates the task and stores its handle, or deletes it and forgets it
  split at hs
  case h_1 => cases hs
  case h_2 e hcall =>
    rw [hcall] at hfits howned
    split at hs
    · obtain rfl := Option.some.inj hs
      refine ⟨h.handles, fun hno => (by cases howned hno), fun t => ?_, h.progress⟩
      rw [hfits.1, hfits.2.2 t]
      exact ⟨(fun hx => by cases hx), fun hx => by cases hx⟩
    · split at hs
      · obtain rfl := Option.some.inj hs
        exact h.create hcall ‹_›
      · cases hs
  case h_3 t hcall =>
    rw [hcall] at hfits howned
    obtain rfl := Option.some.inj hs
    refine ⟨h.handles, fun hno => (by cases howned hno), fun u => ?_, h.progress⟩
    rw [Option.some.injEq, eq_comm]
    exact (hfits u).symm
  case h_4 t hcall =>
    obtain rfl := Option.some.inj hs
    exact h.delete hcall
  case h_5 hcall =>
    rw [hcall] at hfits howned
    obtain rfl := Option.some.inj hs
    refine ⟨h.handles, fun hno => (by cases howned hno), fun u => ?_, h.progress⟩
    rw [hfits u]
    exact ⟨(fun hx => by cases hx), fun hx => by cases hx⟩

/-! ### The steps of the worker -/

theorem Inv.trampoline (h : s.Inv) (hs : s.trampolineStep t = some s') : s'.Inv := by
  unfold trampolineStep at hs
  split at hs
  · rename_i hlife
    obtain ⟨e, he, rfl⟩ := Option.map_eq_some_iff.mp hs
    have hworks := workersOf_eq hlife rfl
    have hworkers : workersOf (Function.update s.life t (some (.entry e))) =
        Function.update (workersOf s.life) t (some (.entry e)) := workersOf_update ..
    refine ⟨h.handles.goOn hlife (by simp) (by simp), fun hno => ?_,
      hworkers.symm ▸ h.fits.goOn hworks (by simp), hworkers.symm ▸ h.progress.load hworks
        (fun u hu => h.fits.single hu (by rw [hworks]; rfl)) he⟩
    cases ((h.owned hno).2 t).symm.trans hworks
  · cases hs

theorem Inv.returns (h : s.Inv) (hbound : s.bound t = false) (hs : s.returnStep t = some s') :
    s'.Inv := by
  unfold returnStep at hs
  split at hs
  · rename_i e hlife
    obtain rfl := Option.some.inj hs
    have hworks := workersOf_eq hlife rfl
    have hworkers : workersOf (Function.update s.life t (some .suspended)) =
        Function.update (workersOf s.life) t (some .suspended) := workersOf_update ..
    refine ⟨h.handles.goOn hlife (by simp) fun _ => hbound, fun hno => ?_,
      hworkers.symm ▸ h.fits.goOn hworks (by simp), hworkers.symm ▸ h.progress.returns hworks
        fun u hu => h.fits.single hu (by rw [hworks]; rfl)⟩
    cases ((h.owned hno).2 t).symm.trans hworks
  · cases hs

/-! ### Every step -/

theorem Inv.step (h : s.Inv) {a : GcAction Task Entry} (hok : GcOrderly s a)
    (hs : s.step a = some s') : s'.Inv := by
  cases a with
  | spawn t => exact h.spawn hs
  | exit t => exact h.exit hok.1 hok.2 hs
  | lifecycle created => exact h.lifecycle hs
  | trampoline t => exact h.trampoline hs
  | returns t => exact h.returns hok hs
  | bind c slot =>
    obtain ⟨hruns, hs⟩ := Option.ite_none_right_eq_some.mp hs
    exact Option.some.inj hs ▸ h.bind slot hruns
  | unbind c slot =>
    obtain ⟨-, hs⟩ := Option.ite_none_right_eq_some.mp hs
    exact Option.some.inj hs ▸ h.unbind slot
  | start c entry =>
    obtain ⟨hruns, hs⟩ := Option.ite_none_right_eq_some.mp hs
    exact Option.some.inj hs ▸ h.start hruns entry
  | join c =>
    obtain ⟨hruns, hs⟩ := Option.ite_none_right_eq_some.mp hs
    exact Option.some.inj hs ▸ h.join hruns

omit [DecidableEq Task] in
theorem Boot.inv (h : s.Boot) : s.Inv := by
  have hnone : ∀ t, workersOf s.life t = none := by
    intro t
    rw [workersOf]
    cases hl : s.life t with
    | none => rfl
    | some l =>
      rw [h.life t l hl]
      rfl
  refine ⟨⟨fun o ho => ?_, fun t ht => ?_, fun t _ => h.bound t⟩, fun _ => ⟨h.call, hnone⟩, ?_,
    fun _ => ?_, fun t ht => ?_, fun t l ht => ?_⟩
  · cases h.ownerTask.symm.trans ho
  · cases h.workerTask.symm.trans ht
  · rw [h.call]
    intro t
    rw [h.lifecycleTask, hnone t]
    exact ⟨(fun hx => by cases hx), fun hx => by cases hx⟩
  · rw [h.started, h.ran, h.joined]
    exact ⟨rfl, rfl⟩
  · cases (hnone t).symm.trans ht
  · cases (hnone t).symm.trans ht

/-! ### Main results -/

theorem Inv.index (h : s.Inv) (hindex : s.bmxEsp32ManagedGcContextIndex c = 1) :
    s.bound c.task = true := by
  rw [bmxEsp32ManagedGcContextIndex] at hindex
  split at hindex
  · exact absurd hindex (by decide)
  split at hindex
  · exact absurd hindex (by decide)
  split at hindex
  · exact (h.handles.slot c.task ‹_›).2
  · exact absurd hindex (by decide)

omit [DecidableEq Task] in
theorem Inv.entries (h : s.Inv) :
    s.ran <+: s.started ∧ s.joined ≤ s.ran.length ∧ s.started.length ≤ s.joined + 1 := by
  by_cases hfree : ∀ t, workersOf s.life t = none
  · obtain ⟨hstarted, hjoined⟩ := h.progress.free hfree
    rw [hstarted]
    exact ⟨List.prefix_refl _, by omega, by omega⟩
  · obtain ⟨t, ht⟩ := not_forall.mp hfree
    obtain ⟨l, hl⟩ := Option.ne_none_iff_exists'.mp ht
    cases l with
    | trampoline =>
      obtain ⟨hjoined, e, -, hstarted⟩ := h.progress.fresh t hl
      rw [hstarted, List.length_append, List.length_singleton]
      exact ⟨List.prefix_append _ _, by omega, by omega⟩
    | _ =>
      obtain ⟨hstarted, hjoined⟩ := h.progress.later t _ hl (by simp)
      rw [hstarted]
      exact ⟨List.prefix_refl _, by omega, by omega⟩

theorem Inv.safe (h : s.Inv) : GcWorkerSafe s where
  slot := h.handles.slot
  index _ hindex := h.index hindex
  single t u ht hu := h.fits.single (works_iff.mp ht) (works_iff.mp hu)
  known hcall t := by
    have hfits := h.fits
    rw [hcall] at hfits
    exact (hfits t).trans works_iff.symm
  loads t ht := (h.progress.fresh t (workersOf_eq ht rfl)).2
  entries := h.entries.1
  joined := h.entries.2

end GcTasks

/-- **The worker's life**, in any order of steps of all tasks, handles being used again: the slot
names a task that exists and has bound it itself, so that no new task inherits it; there is one
worker at most, and the lifecycle handle is its handle; and each has run the entry of its own start
before it is joined.  For this, tasks give the slot back before they end, and the owner's task does
not end. -/
theorem gc_worker {s : GcTasks Task Entry} (h : gcMachine.ReachableIn GcOrderly s) :
    GcWorkerSafe s := by
  have hinv : s.Inv :=
    h.invariant (fun _ hboot => hboot.inv) fun _ _ _ hinv hok hstep => hinv.step hok hstep
  exact hinv.safe

end Source

/-- Two tasks, and no worker yet. -/
def gcBoot : GcTasks Nat Nat :=
  ⟨none, none, none, none, .idle, fun t => if t < 2 then some .other else none, fun _ => false, [],
    [], 0⟩

theorem gcBoot_boot : gcBoot.Boot := by
  refine ⟨rfl, rfl, rfl, rfl, fun t l hl => ?_, fun _ => rfl, rfl, rfl, rfl⟩
  rw [gcBoot] at hl
  dsimp only at hl
  split at hl
  · exact (Option.some.inj hl).symm
  · cases hl

/-- Task 0 owns the runtime, and task 2 becomes its worker. -/
def gcWorks : List (GcAction Nat Nat) :=
  [.bind { task := 0 } 0, .start { task := 0 } (some 7), .lifecycle (some 2), .trampoline 2,
    .lifecycle none, .bind { task := 2, core := 1 } 1]

theorem gc_worker_run : ∃ s : GcTasks Nat Nat, s.workerTask = some 2 ∧ s.lifecycleTask = some 2 ∧
    s.ran = [7] ∧ GcWorkerSafe s := by
  have hboot : gcMachine.ReachableIn GcOrderly gcBoot := .init gcBoot_boot
  obtain ⟨s, hs, hrun⟩ : ∃ s, gcMachine.RunIn GcOrderly gcBoot gcWorks s ∧ s.workerTask = some 2 ∧
      s.lifecycleTask = some 2 ∧ s.ran = [7] := by
    refine ⟨_, .cons trivial rfl (.cons trivial rfl (.cons trivial rfl (.cons trivial rfl
      (.cons trivial rfl (.cons trivial rfl (.nil _)))))), rfl, rfl, rfl⟩
  exact ⟨s, hrun.1, hrun.2.1, hrun.2.2, gc_worker (hboot.append hs)⟩

/-- An entry that returns with the slot: the worker is joined, task 1 is deleted and the next task
gets the handle of the worker; it has never bound anything and has context 1. -/
theorem gc_worker_reused : ∃ s : GcTasks Nat Nat, gcMachine.Reachable s ∧ s.bound 2 = false ∧
    s.bmxEsp32ManagedGcContextIndex { task := 2, core := 1 } = 1 := by
  obtain ⟨s, hs, htest⟩ := Machine.exists_reachable_of_run (M := gcMachine)
    (gcWorks ++ [.returns 2, .join { task := 0 }, .lifecycle none, .lifecycle none, .spawn 2])
    (fun s => s.bound 2 = false ∧ s.bmxEsp32ManagedGcContextIndex { task := 2, core := 1 } = 1)
    gcBoot_boot (by decide)
  obtain ⟨hbound, hindex⟩ := of_decide_eq_true htest
  exact ⟨s, hs, hbound, hindex⟩

end Esp32Mod
