/-
Esp32Mod/ManagedGate.lean

The gate of the managed runtime (`runtime.mod/native/esp32_runtime.c`, the build without
`BMX_EMBEDDED_MULTICORE`).  The task that obtains the arena becomes the owner; from then on managed
code runs in that task only, on core 0 and outside interrupts, and the gate counts who came from
elsewhere, which callbacks it let through and which it refused.

The calls come from any task, core or interrupt, one after the other.  A callback body takes time:
its dispatch and its return are two steps, with other calls in between, dispatches among them.  What
the allocator answers is part of the step.

The counts of `ManagedSystem` are not in the source.  They say what happened in words of the caller:
`calls` dispatches made, `completed` bodies run to their end, `invalid` context tests evaluated where
the context is not a valid one.

Main results:

* `managed_gate` — who gets in, what the counters are, and that owner and arena stay;
* `managed_gate_shortcuts` — a call from an interrupt that no counter of violations sees, and an
  owner who does not get its arena back.
-/
import Esp32Mod.StepMachine
import Mathlib.Data.UInt

namespace Esp32Mod

open StepMachine Machine

/-! ### The source -/

/-- Who calls: the current task, its core, and whether an interrupt is being served. -/
structure ManagedCaller (Task : Type) where
  task : Task
  core : Nat
  isr : Bool

/-- The memory of an allocation, which is `MALLOC_CAP_8BIT` besides. -/
inductive MallocCap
  | internal
  | spiram

/-- The static variables; `Address` is the type of the pointers that are not `NULL`. -/
structure ManagedState (Task Address : Type) where
  arena : Option Address
  arenaSize : UInt32
  ownerTask : Option Task
  contextViolations : UInt32
  callbackDispatches : UInt32
  callbackRejections : UInt32

variable {Task Address : Type} [DecidableEq Task]

/-- A refusal is counted. -/
def ManagedState.violated (s : ManagedState Task Address) : ManagedState Task Address :=
  { s with contextViolations := s.contextViolations + 1 }

/-- The owner on core 0, or any task there while there is no owner. -/
def bmxEsp32ManagedContextValid (c : ManagedCaller Task) (s : ManagedState Task Address) :
    Bool × ManagedState Task Address :=
  if c.isr = true ∨ c.core ≠ 0 then (false, s.violated)
  else if s.ownerTask.isSome = true ∧ s.ownerTask ≠ some c.task then (false, s.violated)
  else (true, s)

/-- The dispatch up to the call of the callback, which the first component says is made. -/
def bmxEsp32ManagedCallbackDispatch (callback : Bool) (c : ManagedCaller Task)
    (s : ManagedState Task Address) : Bool × ManagedState Task Address :=
  let (valid, s) :=
    if callback = false ∨ s.ownerTask = none then (false, s) else bmxEsp32ManagedContextValid c s
  if valid then (true, s)
  else (false, { s with callbackRejections := s.callbackRejections + 1 })

/-- The rest of the dispatch. -/
def managedCallbackReturned (s : ManagedState Task Address) : ManagedState Task Address :=
  { s with callbackDispatches := s.callbackDispatches + 1 }

/-- `heapCapsAlignedAlloc` answers for an alignment, a size and the memory asked for. -/
def bmxEsp32ManagedArenaAcquire (arenaInPsram psramInitialized : Bool)
    (heapCapsAlignedAlloc : UInt32 → UInt32 → MallocCap → Option Address)
    (capacity alignment : UInt32) (c : ManagedCaller Task) (s : ManagedState Task Address) :
    Option Address × ManagedState Task Address :=
  let (valid, s) := bmxEsp32ManagedContextValid c s
  if ¬ valid then (none, s)
  else if s.arena.isSome then (if capacity = s.arenaSize then s.arena else none, s)
  else if capacity = 0 ∨ alignment = 0 ∨ alignment &&& (alignment - 1) ≠ 0 then (none, s)
  else
    let s := { s with ownerTask := some c.task }
    let capabilities := if arenaInPsram then MallocCap.spiram else .internal
    if arenaInPsram = true ∧ psramInitialized = false then (none, { s with ownerTask := none })
    else
      match heapCapsAlignedAlloc alignment capacity capabilities with
      | some arena => (some arena, { s with arena := some arena, arenaSize := capacity })
      | none => (none, { s with arena := none, ownerTask := none })

/-! ### The system -/

/-- The contexts in which managed code may run. -/
def ManagedState.ValidContext (s : ManagedState Task Address) (c : ManagedCaller Task) : Prop :=
  c.core = 0 ∧ c.isr = false ∧ (s.ownerTask = none ∨ s.ownerTask = some c.task)

instance (s : ManagedState Task Address) (c : ManagedCaller Task) : Decidable (s.ValidContext c) :=
  inferInstanceAs (Decidable (_ ∧ _ ∧ _))

/-- The calls, with what the allocator and the memory answer. -/
inductive ManagedCall (Address : Type)
  | contextValid
  | arenaAcquire (capacity alignment : UInt32) (psramInitialized : Bool)
      (heapCapsAlignedAlloc : UInt32 → UInt32 → MallocCap → Option Address)
  | callbackDispatch (callback : Bool)

namespace ManagedCall

variable (arenaInPsram : Bool) (c : ManagedCaller Task) (s : ManagedState Task Address)

/-- The static variables after the call, or at the call of the callback. -/
def perform : ManagedCall Address → ManagedState Task Address
  | .contextValid => (bmxEsp32ManagedContextValid c s).2
  | .arenaAcquire capacity alignment psramInitialized alloc =>
    (bmxEsp32ManagedArenaAcquire arenaInPsram psramInitialized alloc capacity alignment c s).2
  | .callbackDispatch callback => (bmxEsp32ManagedCallbackDispatch callback c s).2

/-- The call is a dispatch of a callback. -/
def isDispatch : ManagedCall Address → Bool
  | .callbackDispatch _ => true
  | _ => false

/-- The call begins a callback body. -/
def begins : ManagedCall Address → Bool
  | .callbackDispatch callback => (bmxEsp32ManagedCallbackDispatch callback c s).1
  | _ => false

/-- The call evaluates the context test: a dispatch does so for a callback and an owner only. -/
def Evaluates : ManagedCall Address → Prop
  | .callbackDispatch callback => callback = true ∧ s.ownerTask ≠ none
  | _ => True

instance (call : ManagedCall Address) : Decidable (call.Evaluates s) := by
  cases call <;> unfold Evaluates <;> infer_instance

end ManagedCall

/-- The statics, the callback bodies and the dispatches so far. -/
structure ManagedSystem (Task Address : Type) where
  managed : ManagedState Task Address
  /-- Callback bodies that have begun and not ended, one inside the other. -/
  running : Nat
  calls : Nat
  completed : Nat
  invalid : Nat

/-- The steps of the callers. -/
inductive ManagedAction (Task Address : Type)
  | call (c : ManagedCaller Task) (call : ManagedCall Address)
  /-- The innermost callback body returns. -/
  | callbackReturns

namespace ManagedSystem

/-- A call returns at once, but for the body of a callback. -/
def step (arenaInPsram : Bool) (s : ManagedSystem Task Address) :
    ManagedAction Task Address → Option (ManagedSystem Task Address)
  | .call c call => some
    { managed := call.perform arenaInPsram c s.managed
      running := s.running + if call.begins c s.managed then 1 else 0
      calls := s.calls + if call.isDispatch then 1 else 0
      completed := s.completed
      invalid := s.invalid +
        if call.Evaluates s.managed ∧ ¬ s.managed.ValidContext c then 1 else 0 }
  | .callbackReturns =>
    if s.running = 0 then none
    else some { s with
      managed := managedCallbackReturned s.managed
      running := s.running - 1
      completed := s.completed + 1 }

end ManagedSystem

/-- No owner, and no arena. -/
def managedBoot : ManagedSystem Task Address :=
  ⟨⟨none, 0, none, 0, 0, 0⟩, 0, 0, 0, 0⟩

/-- Calls from anywhere, in any order. -/
def managedMachine (arenaInPsram : Bool) :
    Machine (ManagedSystem Task Address) (ManagedAction Task Address) where
  init s := s = managedBoot
  step := ManagedSystem.step arenaInPsram

/-! ### What the calls do -/

section Calls

variable (arenaInPsram : Bool) {c : ManagedCaller Task} {s : ManagedState Task Address}

theorem validContext_iff :
    s.ValidContext c ↔ ¬ (c.isr = true ∨ c.core ≠ 0) ∧
      ¬ (s.ownerTask.isSome = true ∧ s.ownerTask ≠ some c.task) := by
  unfold ManagedState.ValidContext
  cases hisr : c.isr <;> cases howner : s.ownerTask <;> simp

theorem managedContextValid_eq :
    bmxEsp32ManagedContextValid c s =
      if s.ValidContext c then (true, s) else (false, s.violated) := by
  unfold bmxEsp32ManagedContextValid
  simp only [validContext_iff]
  by_cases hplace : c.isr = true ∨ c.core ≠ 0
  · rw [if_pos hplace, if_neg fun hvalid => hvalid.1 hplace]
  · by_cases howner : s.ownerTask.isSome = true ∧ s.ownerTask ≠ some c.task
    · rw [if_neg hplace, if_pos howner, if_neg fun hvalid => hvalid.2 howner]
    · rw [if_neg hplace, if_neg howner, if_pos ⟨hplace, howner⟩]

/-- A dispatch is refused without the test, refused by it, or begins the body. -/
theorem callbackDispatch_eq (callback : Bool) :
    bmxEsp32ManagedCallbackDispatch callback c s =
      if callback = false ∨ s.ownerTask = none then
        (false, { s with callbackRejections := s.callbackRejections + 1 })
      else if s.ValidContext c then (true, s)
      else (false, { s.violated with callbackRejections := s.callbackRejections + 1 }) := by
  unfold bmxEsp32ManagedCallbackDispatch
  split_ifs with hnone hvalid
  · rfl
  · rw [managedContextValid_eq, if_pos hvalid]; rfl
  · rw [managedContextValid_eq, if_neg hvalid]; rfl

/-- **Who gets in.** -/
theorem callbackDispatch_fst (callback : Bool) :
    (bmxEsp32ManagedCallbackDispatch callback c s).1 = true ↔
      callback = true ∧ s.ownerTask = some c.task ∧ c.core = 0 ∧ c.isr = false := by
  rw [callbackDispatch_eq]
  split_ifs with hnone hvalid
  · refine iff_of_false nofun fun h => ?_
    rcases hnone with hnull | hnone
    · exact absurd (hnull.symm.trans h.1) nofun
    · exact absurd (hnone.symm.trans h.2.1) nofun
  · obtain ⟨hcallback, howner⟩ := not_or.mp hnone
    exact iff_of_true rfl
      ⟨by simpa using hcallback, hvalid.2.2.resolve_left howner, hvalid.1, hvalid.2.1⟩
  · exact iff_of_false nofun fun h => hvalid ⟨h.2.2.1, h.2.2.2, .inr h.2.1⟩

/-- How an acquisition ends, where no arena means no owner. -/
inductive ManagedState.Acquires (s : ManagedState Task Address) (c : ManagedCaller Task)
    (capacity : UInt32) : Option Address × ManagedState Task Address → Prop
  | invalid : ¬ s.ValidContext c → s.Acquires c capacity (none, s.violated)
  | held {arena : Address} : s.ValidContext c → s.arena = some arena →
      s.Acquires c capacity (if capacity = s.arenaSize then some arena else none, s)
  | failed : s.ValidContext c → s.arena = none → s.Acquires c capacity (none, s)
  | obtained {arena : Address} : s.ValidContext c → s.arena = none →
      s.Acquires c capacity (some arena,
        { s with ownerTask := some c.task, arena := some arena, arenaSize := capacity })

theorem arenaAcquire_acquires (hunowned : s.arena = none → s.ownerTask = none)
    (psramInitialized : Bool) (alloc : UInt32 → UInt32 → MallocCap → Option Address)
    (capacity alignment : UInt32) :
    s.Acquires c capacity
      (bmxEsp32ManagedArenaAcquire arenaInPsram psramInitialized alloc capacity alignment c s) := by
  unfold bmxEsp32ManagedArenaAcquire
  rw [managedContextValid_eq]
  by_cases hvalid : s.ValidContext c
  swap
  · simpa [hvalid] using .invalid hvalid
  simp only [hvalid, if_true, not_true, if_false]
  obtain harena | ⟨arena, harena⟩ := Option.eq_none_or_eq_some s.arena
  swap
  · simpa [harena] using .held hvalid harena
  have hfailed : s.Acquires c capacity (none, s) := .failed hvalid harena
  -- a failure after the owner was bound takes it back
  have hunbound : { s with ownerTask := none } = s := by rw [← hunowned harena]
  have hfreed : { s with arena := none, ownerTask := none } = s := by
    rw [← hunowned harena, ← harena]
  rw [if_neg (by rw [harena]; nofun)]
  by_cases hrequest : capacity = 0 ∨ alignment = 0 ∨ alignment &&& (alignment - 1) ≠ 0
  · rwa [if_pos hrequest]
  by_cases hpsram : arenaInPsram = true ∧ psramInitialized = false
  · rwa [if_neg hrequest, if_pos hpsram, hunbound]
  · rw [if_neg hrequest, if_neg hpsram]
    split
    next arena _ => exact .obtained hvalid harena
    next => rwa [hfreed]

/-- What a call does to the arena, its owner and the counters. -/
structure ManagedState.Moves (s : ManagedState Task Address) (violations rejections : UInt32)
    (s' : ManagedState Task Address) : Prop where
  kept : s.arena ≠ none → s'.arena = s.arena ∧ s'.arenaSize = s.arenaSize ∧
    s'.ownerTask = s.ownerTask
  owned : s.arena.isSome = s.ownerTask.isSome → s'.arena.isSome = s'.ownerTask.isSome
  dispatches : s'.callbackDispatches = s.callbackDispatches
  violations : s'.contextViolations = s.contextViolations + violations
  rejections : s'.callbackRejections = s.callbackRejections + rejections

omit [DecidableEq Task] in
theorem ManagedState.Moves.refl : s.Moves 0 0 s :=
  ⟨fun _ => ⟨rfl, rfl, rfl⟩, id, rfl, (UInt32.add_zero _).symm, (UInt32.add_zero _).symm⟩

omit [DecidableEq Task] in
theorem ManagedState.Moves.violated : s.Moves 1 0 s.violated :=
  ⟨fun _ => ⟨rfl, rfl, rfl⟩, id, rfl, rfl, (UInt32.add_zero _).symm⟩

omit [DecidableEq Task] in
theorem ManagedState.Moves.rejected {violations : UInt32} {s' : ManagedState Task Address}
    (h : s.Moves violations 0 s') :
    s.Moves violations 1 { s' with callbackRejections := s'.callbackRejections + 1 } :=
  ⟨h.kept, h.owned, h.dispatches, h.violations, by rw [h.rejections, UInt32.add_zero]⟩

theorem contextValid_moves :
    s.Moves (if ¬ s.ValidContext c then 1 else 0) 0 (bmxEsp32ManagedContextValid c s).2 := by
  rw [managedContextValid_eq]
  by_cases hvalid : s.ValidContext c
  · rw [if_pos hvalid, if_neg (not_not.mpr hvalid)]
    exact .refl
  · rw [if_neg hvalid, if_pos hvalid]
    exact .violated

theorem ManagedState.Acquires.moves {capacity : UInt32}
    {p : Option Address × ManagedState Task Address} (h : s.Acquires c capacity p) :
    s.Moves (if ¬ s.ValidContext c then 1 else 0) 0 p.2 := by
  cases h with
  | invalid hvalid => rw [if_pos hvalid]; exact .violated
  | held hvalid => rw [if_neg (not_not.mpr hvalid)]; exact .refl
  | failed hvalid => rw [if_neg (not_not.mpr hvalid)]; exact .refl
  | obtained hvalid harena =>
    rw [if_neg (not_not.mpr hvalid)]
    exact ⟨absurd harena, fun _ => rfl, rfl, (UInt32.add_zero _).symm, (UInt32.add_zero _).symm⟩

theorem callbackDispatch_moves (callback : Bool) (call : ManagedCall Address)
    (hcall : call = .callbackDispatch callback) :
    s.Moves (if call.Evaluates s ∧ ¬ s.ValidContext c then 1 else 0)
      (if call.isDispatch = true ∧ call.begins c s = false then 1 else 0)
      (call.perform arenaInPsram c s) := by
  subst hcall
  have hbegins := callbackDispatch_eq (c := c) (s := s) callback
  by_cases hnone : callback = false ∨ s.ownerTask = none
  · have hgate : ¬ (ManagedCall.callbackDispatch callback : ManagedCall Address).Evaluates s :=
      fun h => hnone.elim (fun hnull => absurd (hnull.symm.trans h.1) nofun) h.2
    rw [if_pos hnone] at hbegins
    rw [ManagedCall.perform, ManagedCall.begins, hbegins, if_neg fun h => hgate h.1,
      if_pos ⟨rfl, rfl⟩]
    exact .rejected .refl
  · have hgate : (ManagedCall.callbackDispatch callback : ManagedCall Address).Evaluates s :=
      ⟨by simpa using (not_or.mp hnone).1, (not_or.mp hnone).2⟩
    rw [if_neg hnone] at hbegins
    by_cases hvalid : s.ValidContext c
    · rw [if_pos hvalid] at hbegins
      rw [ManagedCall.perform, ManagedCall.begins, hbegins, if_neg fun h => h.2 hvalid,
        if_neg fun h => absurd h.2 nofun]
      exact .refl
    · rw [if_neg hvalid] at hbegins
      rw [ManagedCall.perform, ManagedCall.begins, hbegins, if_pos ⟨hgate, hvalid⟩,
        if_pos ⟨rfl, rfl⟩]
      exact .rejected .violated

/-- **What a call counts.** -/
theorem perform_moves (hunowned : s.arena = none → s.ownerTask = none)
    (call : ManagedCall Address) :
    s.Moves (if call.Evaluates s ∧ ¬ s.ValidContext c then 1 else 0)
      (if call.isDispatch = true ∧ call.begins c s = false then 1 else 0)
      (call.perform arenaInPsram c s) := by
  cases call with
  | contextValid =>
    simpa [ManagedCall.perform, ManagedCall.Evaluates, ManagedCall.isDispatch] using
      contextValid_moves (c := c) (s := s)
  | arenaAcquire capacity alignment psramInitialized alloc =>
    simpa [ManagedCall.perform, ManagedCall.Evaluates, ManagedCall.isDispatch] using
      (arenaAcquire_acquires arenaInPsram hunowned psramInitialized alloc capacity alignment).moves
  | callbackDispatch callback => exact callbackDispatch_moves arenaInPsram callback _ rfl

/-- A dispatch is refused or begins a body, and no other call does either. -/
theorem refused_add_begins (call : ManagedCall Address) :
    (if call.isDispatch = true ∧ call.begins c s = false then 1 else 0) +
        UInt32.ofNat (if call.begins c s then 1 else 0) =
      UInt32.ofNat (if call.isDispatch then 1 else 0) := by
  cases call with
  | contextValid | arenaAcquire => rfl
  | callbackDispatch callback =>
    cases hbegins : (ManagedCall.callbackDispatch callback : ManagedCall Address).begins c s
    · rfl
    · rfl

end Calls

/-! ### The counters along a run -/

namespace ManagedSystem

/-- The arena and its owner come together, and the counters tell of the dispatches. -/
structure Inv (s : ManagedSystem Task Address) : Prop where
  owned : s.managed.arena.isSome = s.managed.ownerTask.isSome
  dispatches : s.managed.callbackDispatches = UInt32.ofNat s.completed
  rejections : s.managed.callbackDispatches + s.managed.callbackRejections +
    UInt32.ofNat s.running = UInt32.ofNat s.calls
  violations : s.managed.contextViolations = UInt32.ofNat s.invalid

section Steps

variable {arenaInPsram : Bool} {s s' : ManagedSystem Task Address}

omit [DecidableEq Task] in
theorem Inv.unowned (h : s.Inv) (harena : s.managed.arena = none) : s.managed.ownerTask = none := by
  have howned := h.owned
  rw [harena] at howned
  exact Option.not_isSome_iff_eq_none.mp (by rw [← howned]; nofun)

theorem ofNat_ite (p : Prop) [Decidable p] :
    UInt32.ofNat (if p then 1 else 0) = if p then 1 else 0 := by
  split <;> rfl

theorem step_inv {a : ManagedAction Task Address} (h : s.Inv) (hs : s.step arenaInPsram a = some s') :
    s'.Inv := by
  cases a with
  | call c call =>
    obtain rfl := Option.some.inj hs
    have hmoves := perform_moves arenaInPsram (c := c) h.unowned call
    refine ⟨hmoves.owned h.owned, hmoves.dispatches.trans h.dispatches, ?_, ?_⟩
    · simp only [hmoves.dispatches, hmoves.rejections, UInt32.ofNat_add, ← h.rejections]
      rw [← refused_add_begins (c := c) (s := s.managed) call]
      ac_rfl
    · simp only [hmoves.violations, h.violations, UInt32.ofNat_add, ofNat_ite]
  | callbackReturns =>
    simp only [step] at hs
    split_ifs at hs with hrunning
    obtain rfl := Option.some.inj hs
    refine ⟨h.owned, ?_, ?_, h.violations⟩
    · simp only [managedCallbackReturned, h.dispatches, UInt32.ofNat_add]
      rfl
    · have hsucc : s.running = s.running - 1 + 1 := by omega
      have hrej := h.rejections
      rw [hsucc, UInt32.ofNat_add] at hrej
      simp only [managedCallbackReturned, ← hrej]
      rw [show UInt32.ofNat 1 = 1 from rfl]
      ac_rfl

theorem reachable_inv (h : (managedMachine arenaInPsram).Reachable s) : s.Inv :=
  h.invariant (fun _ hboot => hboot ▸ ⟨rfl, rfl, rfl, rfl⟩) fun _ _ _ hinv _ hs => step_inv hinv hs

/-- An arena stays, with its size and its owner. -/
theorem step_kept {a : ManagedAction Task Address} (h : s.Inv)
    (hs : s.step arenaInPsram a = some s') (harena : s.managed.arena ≠ none) :
    s'.managed.arena = s.managed.arena ∧ s'.managed.arenaSize = s.managed.arenaSize ∧
      s'.managed.ownerTask = s.managed.ownerTask := by
  cases a with
  | call c call =>
    obtain rfl := Option.some.inj hs
    exact (perform_moves arenaInPsram h.unowned call).kept harena
  | callbackReturns =>
    simp only [step] at hs
    split_ifs at hs
    obtain rfl := Option.some.inj hs
    exact ⟨rfl, rfl, rfl⟩

theorem run_kept {as : List (ManagedAction Task Address)} (h : s.Inv)
    (hs : (managedMachine arenaInPsram).run s as = some s') (harena : s.managed.arena ≠ none) :
    s'.managed.arena = s.managed.arena ∧ s'.managed.arenaSize = s.managed.arenaSize ∧
      s'.managed.ownerTask = s.managed.ownerTask := by
  induction as generalizing s with
  | nil => obtain rfl := Option.some.inj hs; exact ⟨rfl, rfl, rfl⟩
  | cons a as ih =>
    obtain ⟨s₁, hs₁, hs⟩ := Option.bind_eq_some_iff.mp hs
    obtain ⟨hkept, hsize, howner⟩ := step_kept h hs₁ harena
    obtain ⟨hkept', hsize', howner'⟩ := ih (step_inv h hs₁) hs (hkept ▸ harena)
    exact ⟨hkept'.trans hkept, hsize'.trans hsize, howner'.trans howner⟩

end Steps

end ManagedSystem

/-! ### Results -/

section Results

variable {arenaInPsram : Bool}

/-- The owner asks again, from a valid context. -/
theorem arenaAcquire_again {s : ManagedState Task Address} {c : ManagedCaller Task}
    {arena : Address} (hvalid : s.ValidContext c) (harena : s.arena = some arena)
    (psramInitialized : Bool) (alloc : UInt32 → UInt32 → MallocCap → Option Address)
    (capacity alignment : UInt32) :
    (bmxEsp32ManagedArenaAcquire arenaInPsram psramInitialized alloc capacity alignment c s).1 =
      if capacity = s.arenaSize then some arena else none := by
  have hacquires := arenaAcquire_acquires arenaInPsram (c := c)
    (fun hnone => absurd (hnone.symm.trans harena) nofun) psramInitialized alloc capacity alignment
  generalize bmxEsp32ManagedArenaAcquire arenaInPsram psramInitialized alloc capacity alignment c s
    = p at hacquires ⊢
  cases hacquires with
  | invalid hinvalid => exact absurd hvalid hinvalid
  | held _ harena' => rw [Option.some.inj (harena.symm.trans harena')]
  | failed _ hnone => exact absurd (hnone.symm.trans harena) nofun
  | obtained _ hnone => exact absurd (hnone.symm.trans harena) nofun

/-- A first acquisition that fails. -/
theorem arenaAcquire_failed {s : ManagedState Task Address} {c : ManagedCaller Task}
    (harena : s.arena = none) (hunowned : s.ownerTask = none) (psramInitialized : Bool)
    (alloc : UInt32 → UInt32 → MallocCap → Option Address) (capacity alignment : UInt32)
    (hfailed : (bmxEsp32ManagedArenaAcquire arenaInPsram psramInitialized alloc capacity alignment
      c s).1 = none) :
    (bmxEsp32ManagedArenaAcquire arenaInPsram psramInitialized alloc capacity alignment
      c s).2.ownerTask = none := by
  have hacquires := arenaAcquire_acquires arenaInPsram (c := c)
    (fun _ => hunowned) psramInitialized alloc capacity alignment
  generalize bmxEsp32ManagedArenaAcquire arenaInPsram psramInitialized alloc capacity alignment c s
    = p at hacquires hfailed ⊢
  cases hacquires with
  | invalid | failed => exact hunowned
  | held _ harena' => exact absurd (harena.symm.trans harena') nofun
  | obtained => exact absurd hfailed nofun

/-- **The gate of the managed runtime.**  After any calls of any callers, with any answers of the
allocator: a dispatch begins the body of a callback for the owner, on core 0 and outside interrupts,
and for no one else; the counters are the ends of bodies, the dispatches, and the context tests
evaluated in an invalid context, one for each; an arena is there for good, with its size and its
owner, who gets it again for the same capacity; and an acquisition that fails before there is one
leaves no owner. -/
theorem managed_gate {s : ManagedSystem Task Address}
    (h : (managedMachine arenaInPsram).Reachable s) :
    (∀ callback c, (bmxEsp32ManagedCallbackDispatch callback c s.managed).1 = true ↔
      callback = true ∧ s.managed.ownerTask = some c.task ∧ c.core = 0 ∧ c.isr = false) ∧
    (s.managed.callbackDispatches = UInt32.ofNat s.completed ∧
      s.managed.callbackDispatches + s.managed.callbackRejections + UInt32.ofNat s.running =
        UInt32.ofNat s.calls) ∧
    (s.managed.contextViolations = UInt32.ofNat s.invalid ∧
      ∀ c (call : ManagedCall Address),
        (call.perform arenaInPsram c s.managed).contextViolations = s.managed.contextViolations +
          if call.Evaluates s.managed ∧ ¬ s.managed.ValidContext c then 1 else 0) ∧
    (∀ arena, s.managed.arena = some arena →
      (∃ owner, s.managed.ownerTask = some owner) ∧
      (∀ actions s', (managedMachine arenaInPsram).run s actions = some s' →
        s'.managed.arena = some arena ∧ s'.managed.arenaSize = s.managed.arenaSize ∧
          s'.managed.ownerTask = s.managed.ownerTask) ∧
      ∀ c, s.managed.ownerTask = some c.task → c.core = 0 → c.isr = false →
        ∀ psramInitialized alloc capacity alignment,
          (bmxEsp32ManagedArenaAcquire arenaInPsram psramInitialized alloc capacity alignment c
            s.managed).1 = if capacity = s.managed.arenaSize then some arena else none) ∧
    (s.managed.arena = none → ∀ c psramInitialized alloc capacity alignment,
      (bmxEsp32ManagedArenaAcquire arenaInPsram psramInitialized alloc capacity alignment c
        s.managed).1 = none →
      (bmxEsp32ManagedArenaAcquire arenaInPsram psramInitialized alloc capacity alignment c
        s.managed).2.ownerTask = none) := by
  have hinv := ManagedSystem.reachable_inv h
  refine ⟨fun callback c => callbackDispatch_fst callback, ⟨hinv.dispatches, hinv.rejections⟩,
    ⟨hinv.violations, fun c call => (perform_moves arenaInPsram hinv.unowned call).violations⟩, ?_, ?_⟩
  · intro arena harena
    -- an arena never goes, and so neither does its owner
    have hsome : s.managed.arena ≠ none := by rw [harena]; nofun
    refine ⟨?_, fun actions s' hs => ?_, fun c howner hcore hisr => ?_⟩
    · have howned := hinv.owned
      rw [harena] at howned
      exact Option.isSome_iff_exists.mp howned.symm
    · rw [← harena]
      exact ManagedSystem.run_kept hinv hs hsome
    · exact arenaAcquire_again ⟨hcore, hisr, .inr howner⟩ harena
  · exact fun harena c => arenaAcquire_failed harena (hinv.unowned harena)

/-- The start-up sequence: task 1 obtains an arena at address 100, and begins a callback. -/
def managedStartUp : List (ManagedAction Nat Nat) :=
  [.call ⟨1, 0, false⟩ (.arenaAcquire 64 16 false fun _ _ _ => some 100),
    .call ⟨1, 0, false⟩ (.callbackDispatch true)]

theorem managed_gate_started :
    ∃ s, (managedMachine false).Reachable s ∧ s.managed.arena = some 100 ∧ s.running = 1 ∧
      s.managed.callbackDispatches + s.managed.callbackRejections + UInt32.ofNat s.running =
        UInt32.ofNat s.calls ∧
      (bmxEsp32ManagedArenaAcquire false false (fun _ _ _ => none) 64 16 ⟨1, 0, false⟩
        s.managed).1 = some 100 := by
  obtain ⟨s, hs, harena, hsize, hrunning, howner⟩ :
      ∃ s, (managedMachine false).Reachable s ∧ s.managed.arena = some 100 ∧
        s.managed.arenaSize = 64 ∧ s.running = 1 ∧ s.managed.ownerTask = some 1 :=
    ⟨_, reachable_of_run rfl
      (rfl : (managedMachine false).run managedBoot managedStartUp = some _), rfl, rfl, rfl, rfl⟩
  have hgate := managed_gate hs
  refine ⟨s, hs, harena, hrunning, hgate.2.1.2, ?_⟩
  have hagain := (hgate.2.2.2.1 100 harena).2.2 ⟨1, 0, false⟩ howner rfl rfl false
    (fun _ _ _ => none) 64 16
  rwa [hsize] at hagain

/-- A dispatch without a callback from an interrupt counts no violation, for the callback is looked
at before the context; and an owner that runs on core 1 does not get its arena again. -/
theorem managed_gate_shortcuts :
    ∃ s : ManagedSystem Nat Nat, (managedMachine false).Reachable s ∧
      ¬ s.managed.ValidContext ⟨1, 0, true⟩ ∧
      (bmxEsp32ManagedCallbackDispatch false ⟨1, 0, true⟩ s.managed).2.contextViolations =
        s.managed.contextViolations ∧
      s.managed.ownerTask = some 1 ∧ s.managed.arena = some 100 ∧ s.managed.arenaSize = 64 ∧
      (bmxEsp32ManagedArenaAcquire false false (fun _ _ _ => none) 64 16 ⟨1, 1, false⟩
        s.managed).1 = none :=
  ⟨_, reachable_of_run rfl (rfl : (managedMachine false).run managedBoot managedStartUp = some _),
    by decide, rfl, rfl, rfl, rfl, rfl⟩

end Results

end Esp32Mod
