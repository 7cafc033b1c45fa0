/-
Esp32Mod/EventSignal.lean

The wake-up of the owner task (`runtime.mod/native/esp32_events.c`): the deferred ring,
any number of adapter rings, and the binary semaphore that the owner waits on.

The owner polls all rings and then calls `bmx_embedded_system_wait`.  Producers insert
an event and then signal.  The semaphore is created by whoever finds its pointer null
first in a wait or a wake, without a lock; creating it again sets its count to 0 and
forgets a waiter.

A step is one lock section, one access to the pointer or one semaphore call.  The
adapter rings are an arbitrary family of mailboxes, and the producers an arbitrary
type.  For each ring `fresh` records, outside the source, whether an event was inserted
after the owner last polled it.

Main results:

* `no_lost_wake_up` — the owner never sleeps on a fresh event, if its wait never
  creates the semaphore when the count is up for an event in an adapter ring;
* `lost_wake_up` — it can do that, and then sleeps.
-/
import Esp32Mod.EventRings
import Esp32Mod.StepMachine
import Mathlib.Data.Fintype.Option

namespace Esp32Mod

open RingBuffer StepMachine Machine

variable {ι π : Type} {α : ι → Type} {c : ι → Capacity}

/-! ### Tasks -/

/-- What the owner does next.  Rings are numbered by `Option ι`, where `none` is the
deferred ring. -/
inductive SignalOwner (ι : Type)
  /-- poll rings; `seen` are those polled in this round -/
  | poll (seen : Option ι → Bool)
  /-- in `bmx_embedded_system_wait`: test the pointer -/
  | waitRead
  /-- call `xSemaphoreCreateBinaryStatic` -/
  | waitCreate
  | waitStore
  /-- the lock section, which looks at the deferred ring only -/
  | waitCheck
  /-- call `xSemaphoreTake` -/
  | take
  /-- asleep in `xSemaphoreTake` -/
  | blocked

/-- What a producer does next. -/
inductive SignalProducer
  | idle
  /-- the give of a post -/
  | give
  /-- in `bmx_embedded_system_wake`: test the pointer -/
  | wakeRead
  /-- call `xSemaphoreCreateBinaryStatic` -/
  | wakeCreate
  | wakeStore
  | wakeReload
  | wakeGive
  deriving DecidableEq

/-- The deferred ring, the rings of the adapters, the semaphore, and the tasks. -/
structure SignalSystem (ι π : Type) (α : ι → Type) (c : ι → Capacity) where
  deferred : DeferredRing
  adapters : (i : ι) → Mailbox (α i) (c i)
  fresh : Option ι → Bool
  /-- `bmx_esp32_deferred_event_signal` is not null. -/
  signal : Bool
  /-- The semaphore: its count, and whether the owner is in its list of waiters. -/
  count : Bool
  waiting : Bool
  owner : SignalOwner ι
  producers : π → SignalProducer

/-- A step of the owner, or of a producer; the producer starts a post, an adapter's
queue or a bare wake, or goes on with it. -/
inductive SignalAction (ι π : Type) (α : ι → Type)
  | pollDeferred
  | pollAdapter (i : ι)
  | owner
  | post (p : π) (e : DeferredPost)
  | queue (p : π) (i : ι) (e : α i)
  | wake (p : π)
  | proceed (p : π)

namespace SignalSystem

section Steps

variable [DecidableEq π]

/-- `xSemaphoreCreateBinaryStatic`. -/
def semaphoreCreate (s : SignalSystem ι π α c) : SignalSystem ι π α c :=
  { s with count := false, waiting := false }

/-- `xSemaphoreGive`: the count is up, and a waiter tries again. -/
def semaphoreGive (s : SignalSystem ι π α c) : SignalSystem ι π α c :=
  if s.waiting then { s with count := true, waiting := false, owner := .take }
  else { s with count := true }

/-- Write how far a producer has come. -/
def setProducer (s : SignalSystem ι π α c) (p : π) (pc : SignalProducer) : SignalSystem ι π α c :=
  { s with producers := Function.update s.producers p pc }

/-- The steps of `bmx_embedded_system_wait`. -/
def ownerStep [Fintype ι] (s : SignalSystem ι π α c) : Option (SignalSystem ι π α c) :=
  match s.owner with
  | .poll seen => if ∀ r, seen r = true then some { s with owner := .waitRead } else none
  | .waitRead => some { s with owner := if s.signal then .waitCheck else .waitCreate }
  | .waitCreate => some { s.semaphoreCreate with owner := .waitStore }
  | .waitStore => some { s with signal := true, owner := .waitCheck }
  | .waitCheck =>
    -- the adapter rings are not looked at, and the pointer is read in the same section
    some { s with
      owner := if s.deferred.ring.get ≠ s.deferred.ring.put then .poll fun _ => false
        else if s.signal then .take else .poll fun _ => false }
  | .take =>
    if s.count then some { s with count := false, owner := .poll fun _ => false }
    else some { s with waiting := true, owner := .blocked }
  | .blocked => none

/-- The steps of a producer after its lock section. -/
def producerStep (s : SignalSystem ι π α c) (p : π) : Option (SignalSystem ι π α c) :=
  match s.producers p with
  | .idle => none
  | .give | .wakeGive => some (s.semaphoreGive.setProducer p .idle)
  | .wakeRead => some (s.setProducer p (if s.signal then .wakeReload else .wakeCreate))
  | .wakeCreate => some (s.semaphoreCreate.setProducer p .wakeStore)
  | .wakeStore => some ({ s with signal := true }.setProducer p .wakeReload)
  | .wakeReload => some (s.setProducer p (if s.signal then .wakeGive else .idle))

variable [DecidableEq ι]

/-- A take section of the owner on ring `r`. -/
def polled (s : SignalSystem ι π α c) (r : Option ι) : Option (SignalSystem ι π α c) :=
  match s.owner with
  | .poll seen => some { s with
      fresh := Function.update s.fresh r false
      owner := .poll (Function.update seen r true) }
  | _ => none

/-- The tasks take turns in any order. -/
def step [Fintype ι] (s : SignalSystem ι π α c) : SignalAction ι π α → Option (SignalSystem ι π α c)
  | .pollDeferred =>
    match bmxEmbeddedEventTake s.deferred with
    | none => s.polled none
    | some (_, m) => { s with deferred := m }.polled none
  | .pollAdapter i =>
    match (s.adapters i).take with
    | none => s.polled (some i)
    | some (_, m) => { s with adapters := Function.update s.adapters i m }.polled (some i)
  | .owner => s.ownerStep
  | .post p e =>
    if s.producers p = .idle then
      let r := e.call s.deferred
      -- `signal` is read in the section, so a post that finds it null never gives
      some ({ s with
        deferred := r.2
        fresh := if r.1 then Function.update s.fresh none true else s.fresh }.setProducer p
        (if r.1 ∧ s.signal then .give else .idle))
    else none
  | .queue p i e =>
    if s.producers p = .idle then
      let r := (s.adapters i).post e
      some ({ s with
        adapters := Function.update s.adapters i r.2
        fresh := if r.1 then Function.update s.fresh (some i) true else s.fresh }.setProducer p
        (if r.1 then .wakeRead else .idle))
    else none
  | .wake p => if s.producers p = .idle then some (s.setProducer p .wakeRead) else none
  | .proceed p => s.producerStep p

end Steps

/-- Boot: nothing is fresh, and there is no semaphore. -/
structure Boot (s : SignalSystem ι π α c) : Prop where
  fresh : ∀ r, s.fresh r = false
  signal : s.signal = false
  count : s.count = false
  waiting : s.waiting = false
  owner : s.owner = .poll fun _ => false
  producers : ∀ p, s.producers p = .idle

/-- All producers have finished, the owner is asleep with count 0, and some ring holds an
event inserted after the owner last polled it. -/
def LostWakeUp (s : SignalSystem ι π α c) : Prop :=
  (∀ p, s.producers p = .idle) ∧ s.owner = .blocked ∧ s.count = false ∧ ∃ r, s.fresh r = true

/-- The owner's wait creates the semaphore although the count is up and an adapter ring
holds an event that the owner has not seen. -/
def CreatesOverGive (s : SignalSystem ι π α c) (a : SignalAction ι π α) : Prop :=
  a = .owner ∧ s.owner = .waitCreate ∧ s.count = true ∧ ∃ i, s.fresh (some i) = true

end SignalSystem

/-- Any interleaving of any number of producers with the owner. -/
def signalMachine (ι π : Type) (α : ι → Type) (c : ι → Capacity) [Fintype ι] [DecidableEq ι]
    [DecidableEq π] : Machine (SignalSystem ι π α c) (SignalAction ι π α) where
  init := SignalSystem.Boot
  step := SignalSystem.step

/-! ### The invariant -/

/-- The rings that the owner has polled in this round. -/
def SignalOwner.seen : SignalOwner ι → Option ι → Bool
  | poll seen => seen
  | _ => fun _ => true

/-- The owner has found the pointer set, or set it. -/
def SignalOwner.pastCreate : SignalOwner ι → Bool
  | waitCheck | take | blocked => true
  | _ => false

/-- The owner has looked at the deferred ring under the lock. -/
def SignalOwner.pastCheck : SignalOwner ι → Bool
  | take | blocked => true
  | _ => false

/-- A wake-up is on its way: the count is up or some producer has not finished. -/
def Coming (count : Bool) (producers : π → SignalProducer) : Prop :=
  count = true ∨ ∃ p, producers p ≠ .idle

namespace SignalSystem

/-- Fresh events that the owner will not poll before it sleeps have a wake-up coming. -/
structure Inv (s : SignalSystem ι π α c) : Prop where
  adapter : ∀ i, s.owner.seen (some i) = true → s.fresh (some i) = true →
    Coming s.count s.producers
  deferred : s.owner.pastCheck = true → s.fresh none = true → Coming s.count s.producers
  /-- A fresh deferred event is still in the ring. -/
  held : s.fresh none = true → s.deferred.ring.get ≠ s.deferred.ring.put
  /-- Only a sleeping owner is in the semaphore's list. -/
  asleep : s.waiting = true → s.owner = .blocked
  /-- Whoever relies on the pointer finds it set. -/
  ownerSignal : s.owner.pastCreate = true → s.signal = true
  producerSignal : ∀ p, s.producers p = .wakeReload → s.signal = true

end SignalSystem

section Coming

variable [DecidableEq π] {count : Bool} {producers : π → SignalProducer}

/-- A producer that has not finished is a wake-up on its way. -/
theorem coming_update {p : π} {pc : SignalProducer} (h : pc ≠ .idle) :
    Coming count (Function.update producers p pc) :=
  .inr ⟨p, by rwa [Function.update_self]⟩

/-- A producer that starts takes no wake-up away. -/
theorem Coming.start (h : Coming count producers) {p : π} (hp : producers p = .idle)
    (pc : SignalProducer) : Coming count (Function.update producers p pc) := by
  rcases h with hcount | ⟨q, hq⟩
  · exact .inl hcount
  · have hne : q ≠ p := fun he => hq (he ▸ hp)
    refine .inr ⟨q, ?_⟩
    rwa [Function.update_of_ne hne]

end Coming

/-! ### Every step keeps it -/

/-- Past the lock section means past the creation. -/
theorem SignalOwner.pastCreate_of_pastCheck {o : SignalOwner ι} (h : o.pastCheck = true) :
    o.pastCreate = true := by
  cases o <;> first | rfl | cases h

namespace SignalSystem

variable {s s' : SignalSystem ι π α c}

theorem signalInv_boot (h : s.Boot) : s.Inv := by
  refine ⟨?_, ?_, ?_, ?_, ?_, ?_⟩
  · intro i _ hf
    rw [h.fresh] at hf
    cases hf
  · intro _ hf
    rw [h.fresh] at hf
    cases hf
  · intro hf
    rw [h.fresh] at hf
    cases hf
  · intro hwaiting
    rw [h.waiting] at hwaiting
    cases hwaiting
  · intro hpast
    rw [h.owner] at hpast
    cases hpast
  · intro p hp
    rw [h.producers] at hp
    cases hp

/-- The semaphore has no waiter while the owner is awake. -/
theorem Inv.awake (h : s.Inv) (hne : s.owner ≠ .blocked) {o : SignalOwner ι} :
    s.waiting = true → o = .blocked :=
  fun hwaiting => absurd (h.asleep hwaiting) hne

/-- The owner moves on without a semaphore call. -/
theorem Inv.advance (h : s.Inv) {o : SignalOwner ι} (hne : s.owner ≠ .blocked)
    (hseen : ∀ i, o.seen (some i) = true → s.owner.seen (some i) = true)
    (hcheck : o.pastCheck = true → s.fresh none = true → Coming s.count s.producers)
    (hcreate : o.pastCreate = true → s.signal = true) :
    ({ s with owner := o } : SignalSystem ι π α c).Inv :=
  ⟨fun i hi hf => h.adapter i (hseen i hi) hf, hcheck, h.held, h.awake hne, hcreate,
    h.producerSignal⟩

/-- A step of the owner's wait, under the condition on its create call. -/
theorem inv_ownerStep [Fintype ι] (h : s.Inv) (hclear : ¬ CreatesOverGive s .owner)
    (hs : s.ownerStep = some s') : s'.Inv := by
  unfold ownerStep at hs
  cases ho : s.owner <;> simp only [ho] at hs
  case poll seen =>
    split_ifs at hs with hall
    obtain rfl := Option.some.inj hs
    -- the wait is called after a round that has polled every ring
    refine h.advance (by rw [ho]; nofun) ?_ nofun nofun
    intro i _
    rw [ho]
    exact hall (some i)
  case waitRead =>
    obtain rfl := Option.some.inj hs
    refine h.advance (by rw [ho]; nofun) (fun i _ => by rw [ho]; rfl) ?_ ?_
    · split <;> nofun
    · split
      · rename_i hsignal
        exact fun _ => hsignal
      · nofun
  case waitCreate =>
    obtain rfl := Option.some.inj hs
    refine ⟨?_, nofun, h.held, nofun, nofun, h.producerSignal⟩
    intro i _ hf
    -- the count that is lost was not up for this event
    rcases h.adapter i (by rw [ho]; rfl) hf with hcount | hproducer
    · exact absurd ⟨rfl, ho, hcount, i, hf⟩ hclear
    · exact .inr hproducer
  case waitStore =>
    obtain rfl := Option.some.inj hs
    exact ⟨fun i _ hf => h.adapter i (by rw [ho]; rfl) hf, nofun, h.held,
      h.awake (by rw [ho]; nofun), fun _ => rfl, fun _ _ => rfl⟩
  case waitCheck =>
    obtain rfl := Option.some.inj hs
    have hsignal : s.signal = true := h.ownerSignal (by rw [ho]; rfl)
    refine h.advance (by rw [ho]; nofun) (fun i _ => by rw [ho]; rfl) ?_ fun _ => hsignal
    intro hcheck hf
    -- the lock section would have seen a fresh deferred event
    rw [if_pos (h.held hf)] at hcheck
    cases hcheck
  case take =>
    split_ifs at hs with hcount <;> obtain rfl := Option.some.inj hs
    · -- a new round polls everything again
      exact ⟨nofun, nofun, h.held, h.awake (by rw [ho]; nofun), nofun, h.producerSignal⟩
    · refine ⟨fun i _ hf => h.adapter i (by rw [ho]; rfl) hf,
        fun _ hf => h.deferred (by rw [ho]; rfl) hf, h.held, fun _ => rfl, ?_,
        h.producerSignal⟩
      intro _
      exact h.ownerSignal (by rw [ho]; rfl)
  case blocked => cases hs

/-- The owner polls ring `r`; another ring than the deferred one leaves that as it is. -/
theorem inv_polled [DecidableEq ι] (h : s.Inv) {r : Option ι} (deferred : DeferredRing)
    (adapters : (i : ι) → Mailbox (α i) (c i)) (hheld : r ≠ none → deferred = s.deferred)
    (hs : ({ s with deferred := deferred, adapters := adapters } :
      SignalSystem ι π α c).polled r = some s') : s'.Inv := by
  unfold polled at hs
  cases ho : s.owner <;> simp only [ho, reduceCtorEq] at hs
  case poll seen =>
    obtain rfl := Option.some.inj hs
    have hadapter (i : ι) (hi : Function.update seen r true (some i) = true)
        (hf : Function.update s.fresh r false (some i) = true) : Coming s.count s.producers := by
      by_cases hr : some i = r
      · rw [hr, Function.update_self] at hf
        cases hf
      · rw [Function.update_of_ne hr] at hi hf
        exact h.adapter i (by rw [ho]; exact hi) hf
    refine ⟨hadapter, nofun, ?_, h.awake (by rw [ho]; nofun), nofun, h.producerSignal⟩
    intro hf
    change Function.update s.fresh r false none = true at hf
    show deferred.ring.get ≠ deferred.ring.put
    by_cases hr : none = r
    · rw [hr, Function.update_self] at hf
      cases hf
    · rw [Function.update_of_ne hr] at hf
      rw [hheld (Ne.symm hr)]
      exact h.held hf

variable [DecidableEq π]

/-- The pointer is set for a producer that relies on it, also for the one that just moved. -/
theorem Inv.reload (h : s.Inv) {p q : π} {pc : SignalProducer}
    (hsignal : pc = .wakeReload → s.signal = true)
    (hq : Function.update s.producers p pc q = .wakeReload) : s.signal = true := by
  by_cases hqp : q = p
  · rw [hqp, Function.update_self] at hq
    exact hsignal hq
  · rw [Function.update_of_ne hqp] at hq
    exact h.producerSignal q hq

/-- A producer starts: what it made fresh has a wake-up coming, and the rest keeps its own. -/
theorem Inv.start (h : s.Inv) {p : π} (hp : s.producers p = .idle) {pc : SignalProducer}
    (hreload : pc ≠ .wakeReload) {deferred : DeferredRing}
    {adapters : (i : ι) → Mailbox (α i) (c i)} {fresh : Option ι → Bool}
    (hadapter : ∀ i, fresh (some i) = true → s.fresh (some i) = true ∨ pc ≠ .idle)
    (hdeferred : s.owner.pastCheck = true → fresh none = true → s.fresh none = true ∨ pc ≠ .idle)
    (hheld : fresh none = true → deferred.ring.get ≠ deferred.ring.put) :
    (({ s with deferred := deferred, adapters := adapters, fresh := fresh } :
      SignalSystem ι π α c).setProducer p pc).Inv := by
  refine ⟨?_, ?_, hheld, h.asleep, h.ownerSignal,
    fun _ => h.reload fun hpc => absurd hpc hreload⟩
  · intro i hi hf
    rcases hadapter i hf with hf | hpc
    · exact (h.adapter i hi hf).start hp pc
    · exact coming_update hpc
  · intro hcheck hf
    rcases hdeferred hcheck hf with hf | hpc
    · exact (h.deferred hcheck hf).start hp pc
    · exact coming_update hpc

/-- A producer takes a step on its way to the give. -/
theorem Inv.proceed (h : s.Inv) {p : π} {pc : SignalProducer} (hpc : pc ≠ .idle)
    (hsignal : pc = .wakeReload → s.signal = true) : (s.setProducer p pc).Inv :=
  ⟨fun _ _ _ => coming_update hpc, fun _ _ => coming_update hpc, h.held, h.asleep,
    h.ownerSignal, fun _ => h.reload hsignal⟩

/-- A producer gives, and has finished. -/
theorem Inv.give (h : s.Inv) (p : π) : (s.semaphoreGive.setProducer p .idle).Inv := by
  unfold semaphoreGive
  split
  · rename_i hwaiting
    have hblocked := h.asleep hwaiting
    -- the owner wakes up and takes
    refine ⟨fun _ _ _ => .inl rfl, fun _ _ => .inl rfl, h.held, nofun, ?_,
      fun _ => h.reload nofun⟩
    intro _
    exact h.ownerSignal (by rw [hblocked]; rfl)
  · exact ⟨fun _ _ _ => .inl rfl, fun _ _ => .inl rfl, h.held, h.asleep, h.ownerSignal,
      fun _ => h.reload nofun⟩

theorem inv_producerStep (h : s.Inv) {p : π} (hs : s.producerStep p = some s') : s'.Inv := by
  unfold producerStep at hs
  cases hp : s.producers p <;> simp only [hp] at hs
  case idle => cases hs
  case give =>
    obtain rfl := Option.some.inj hs
    exact h.give p
  case wakeGive =>
    obtain rfl := Option.some.inj hs
    exact h.give p
  case wakeRead =>
    obtain rfl := Option.some.inj hs
    apply h.proceed
    · split <;> nofun
    · split
      · rename_i hsignal
        exact fun _ => hsignal
      · nofun
  case wakeCreate =>
    obtain rfl := Option.some.inj hs
    -- the count is lost, but this producer is going to give
    exact ⟨fun _ _ _ => coming_update nofun, fun _ _ => coming_update nofun, h.held, nofun,
      h.ownerSignal, fun _ => h.reload nofun⟩
  case wakeStore =>
    obtain rfl := Option.some.inj hs
    exact ⟨fun _ _ _ => coming_update nofun, fun _ _ => coming_update nofun, h.held, h.asleep,
      fun _ => rfl, fun _ _ => rfl⟩
  case wakeReload =>
    obtain rfl := Option.some.inj hs
    rw [if_pos (h.producerSignal p hp)]
    exact h.proceed nofun nofun

variable [DecidableEq ι]

/-- A post stores an event, or leaves the ring as it is. -/
theorem deferredPost_cases (e : DeferredPost) (m : DeferredRing) :
    ((e.call m).1 = true ∧ (e.call m).2.ring.get ≠ (e.call m).2.ring.put) ∨
      ((e.call m).1 = false ∧ (e.call m).2.ring = m.ring) := by
  rw [e.call_eq]
  split
  · exact .inr ⟨rfl, rfl⟩
  · by_cases hfull : m.ring.contents.length = bmxEsp32EventCapacity.size.toNat
    · rw [Mailbox.post_of_full _ hfull]
      exact .inr ⟨rfl, rfl⟩
    · obtain ⟨hstored, hcontents, -⟩ := m.post_of_lt e.event
        (Nat.lt_of_le_of_ne m.ring.length_contents_le hfull)
      refine .inl ⟨hstored, fun hempty => ?_⟩
      rw [Ring.get_eq_put_iff, hcontents] at hempty
      exact absurd hempty (by simp)

/-- A post of a deferred event.  Past its lock section the owner relies on the pointer, so
the post that it has not seen finds the pointer set, and gives. -/
theorem inv_post [Fintype ι] (h : s.Inv) {p : π} (e : DeferredPost)
    (hs : s.step (.post p e) = some s') : s'.Inv := by
  simp only [step] at hs
  rw [Option.ite_none_right_eq_some] at hs
  obtain ⟨hp, hs⟩ := hs
  obtain rfl := Option.some.inj hs
  apply h.start hp
  · split <;> nofun
  · intro i hf
    rw [ite_apply, Function.update_of_ne (by nofun), ite_self] at hf
    exact .inl hf
  · intro hcheck hf
    rcases deferredPost_cases e s.deferred with ⟨hstored, -⟩ | ⟨hstored, -⟩
    · have hsignal : s.signal = true := h.ownerSignal (SignalOwner.pastCreate_of_pastCheck hcheck)
      refine .inr ?_
      rw [if_pos ⟨hstored, hsignal⟩]
      nofun
    · rw [hstored] at hf
      exact .inl hf
  · intro hf
    rcases deferredPost_cases e s.deferred with ⟨-, hne⟩ | ⟨hstored, hring⟩
    · exact hne
    · rw [hstored] at hf
      rw [hring]
      exact h.held hf

theorem inv_queue [Fintype ι] (h : s.Inv) {p : π} {i : ι} (e : α i)
    (hs : s.step (.queue p i e) = some s') : s'.Inv := by
  simp only [step] at hs
  rw [Option.ite_none_right_eq_some] at hs
  obtain ⟨hp, hs⟩ := hs
  obtain rfl := Option.some.inj hs
  have hnone (hf : (if ((s.adapters i).post e).1 = true then Function.update s.fresh (some i) true
      else s.fresh) none = true) : s.fresh none = true := by
    rwa [ite_apply, Function.update_of_ne (by nofun), ite_self] at hf
  apply h.start hp
  · split <;> nofun
  · intro j hf
    split at hf
    · exact .inr (by rw [if_pos ‹_›]; nofun)
    · exact .inl hf
  · exact fun _ hf => .inl (hnone hf)
  · exact fun hf => h.held (hnone hf)

theorem signalInv_step [Fintype ι] (h : s.Inv) {a : SignalAction ι π α}
    (hclear : ¬ CreatesOverGive s a) (hs : s.step a = some s') : s'.Inv := by
  cases a with
  | pollDeferred =>
    change (match bmxEmbeddedEventTake s.deferred with
      | none => s.polled none
      | some (_, m) => { s with deferred := m }.polled none) = some s' at hs
    split at hs
    · exact inv_polled h s.deferred s.adapters (fun _ => rfl) hs
    · exact inv_polled h _ s.adapters (fun hne => absurd rfl hne) hs
  | pollAdapter i =>
    change (match (s.adapters i).take with
      | none => s.polled (some i)
      | some (_, m) => { s with adapters := Function.update s.adapters i m }.polled (some i))
        = some s' at hs
    split at hs
    · exact inv_polled h s.deferred s.adapters (fun _ => rfl) hs
    · exact inv_polled h s.deferred _ (fun _ => rfl) hs
  | owner => exact inv_ownerStep h hclear hs
  | post p e => exact inv_post h e hs
  | queue p i e => exact inv_queue h e hs
  | wake p =>
    simp only [step] at hs
    rw [Option.ite_none_right_eq_some] at hs
    obtain rfl := Option.some.inj hs.2
    exact h.proceed nofun nofun
  | proceed p => exact inv_producerStep h hs

end SignalSystem

/-! ### Main results -/

namespace SignalSystem

/-- The invariant excludes a lost wake-up. -/
theorem Inv.not_lostWakeUp {s : SignalSystem ι π α c} (h : s.Inv) : ¬ s.LostWakeUp := by
  rintro ⟨hidle, hblocked, hcount, r, hfresh⟩
  have hcoming : Coming s.count s.producers := by
    cases r with
    | none => exact h.deferred (by rw [hblocked]; rfl) hfresh
    | some i => exact h.adapter i (by rw [hblocked]; rfl) hfresh
  rcases hcoming with hup | ⟨p, hp⟩
  · rw [hcount] at hup
    cases hup
  · exact hp (hidle p)

end SignalSystem

/-- **No lost wake-up.**  In every run in which the owner's wait never creates the
semaphore over a count that is up for an unseen adapter event, the owner never sleeps on
an event inserted after it last polled the ring. -/
theorem no_lost_wake_up [Fintype ι] [DecidableEq ι] [DecidableEq π] (s : SignalSystem ι π α c)
    (h : (signalMachine ι π α c).ReachableIn (fun s a => ¬ s.CreatesOverGive a) s) :
    ¬ s.LostWakeUp :=
  (h.invariant (I := SignalSystem.Inv) (fun _ => SignalSystem.signalInv_boot)
    fun _ _ _ hinv hok hs => SignalSystem.signalInv_step hinv hok hs).not_lostWakeUp

/-- One task, one BLE ring and one producer, before their first steps. -/
def signalBoot : SignalSystem Unit Unit (fun _ => BMXBLEEvent) (fun _ => bmxBleEventCapacity) where
  deferred := ⟨Ring.empty _, 0⟩
  adapters _ := ⟨Ring.empty _, 0⟩
  fresh _ := false
  signal := false
  count := false
  waiting := false
  owner := .poll fun _ => false
  producers _ := .idle

theorem signalBoot_boot : signalBoot.Boot :=
  ⟨fun _ => rfl, rfl, rfl, rfl, rfl, fun _ => rfl⟩

/-- A test that `CreatesOverGive` fails: the count is down when the owner creates. -/
def SignalSystem.createsClear (s : SignalSystem ι π α c) : SignalAction ι π α → Bool
  | .owner =>
    match s.owner with
    | .waitCreate => !s.count
    | _ => true
  | _ => true

theorem SignalSystem.not_createsOverGive {s : SignalSystem ι π α c} {a : SignalAction ι π α}
    (h : s.createsClear a = true) : ¬ s.CreatesOverGive a := by
  rintro ⟨rfl, howner, hcount, -⟩
  rw [createsClear, howner, hcount] at h
  cases h

/-- The owner polls both rings, creates the semaphore and sleeps; a BLE event is queued, and
its wake gives. -/
def sleepAndWake : List (SignalAction Unit Unit fun _ => BMXBLEEvent) :=
  [.pollDeferred, .pollAdapter (), .owner, .owner, .owner, .owner, .owner, .owner,
    .queue () () { kind := .ready }, .proceed (), .proceed (), .proceed ()]

/-- The owner, asleep before the last four steps, is to try again, with the count up. -/
theorem no_lost_wake_up_queued :
    ∃ s : SignalSystem Unit Unit (fun _ => BMXBLEEvent) (fun _ => bmxBleEventCapacity),
      s.owner = .take ∧ s.count = true ∧ s.fresh (some ()) = true ∧ s.producers () = .idle ∧
      ¬ s.LostWakeUp := by
  obtain ⟨s, hs, hp⟩ := exists_reachable_of_run
    (M := (signalMachine Unit Unit (fun _ => BMXBLEEvent) fun _ => bmxBleEventCapacity).within
      SignalSystem.createsClear) sleepAndWake
    (fun s => match s.owner with
      | .take => decide (s.count = true ∧ s.fresh (some ()) = true ∧ s.producers () = .idle)
      | _ => false) signalBoot_boot (by decide)
  split at hp
  · rename_i hwoken
    obtain ⟨hcount, hfresh, hidle⟩ := of_decide_eq_true hp
    exact ⟨s, hwoken, hcount, hfresh, hidle, no_lost_wake_up s
      ((reachableIn_of_within hs).mono fun _ _ => SignalSystem.not_createsOverGive)⟩
  · cases hp

/-- The owner finds the pointer null; a producer inserts, creates the semaphore and gives;
the owner creates it again. -/
def createTwice : List (SignalAction Unit Unit fun _ => BMXBLEEvent) :=
  [.pollDeferred, .pollAdapter (), .owner, .owner, .queue () () { kind := .ready },
    .proceed (), .proceed (), .proceed (), .proceed (), .proceed (), .owner, .owner, .owner,
    .owner]

/-- The owner sleeps on that event. -/
theorem lost_wake_up :
    ∃ s, (signalMachine Unit Unit (fun _ => BMXBLEEvent) fun _ => bmxBleEventCapacity).Reachable s ∧
      s.LostWakeUp := by
  obtain ⟨s, hs, hp⟩ := exists_reachable_of_run
    (M := signalMachine Unit Unit (fun _ => BMXBLEEvent) fun _ => bmxBleEventCapacity) createTwice
    (fun s => match s.owner with
      | .blocked => decide (s.producers () = .idle ∧ s.count = false ∧ s.fresh (some ()) = true)
      | _ => false) signalBoot_boot (by decide)
  split at hp
  · rename_i hblocked
    obtain ⟨hidle, hcount, hfresh⟩ := of_decide_eq_true hp
    exact ⟨s, hs, fun _ => hidle, hblocked, hcount, _, hfresh⟩
  · cases hp

end Esp32Mod
