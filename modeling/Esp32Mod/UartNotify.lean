/-
Esp32Mod/UartNotify.lean

The receive event of the buffered UART (`runtime.mod/native/esp32_uart.c`).  The worker posts an
event when bytes come to an empty receive ring, and no other until the ring has been empty again;
the consumer answers an event by reads, up to the one that returns nothing.  The event goes through
the deferred ring of `runtime.mod/native/esp32_events.c`, which other producers fill as well, and
which discards what it has no room for.

The sessions are those of `Esp32Mod.UartSession`.  The worker's post is a step of its own after the
section that stores the bytes, and the worker waits for it.

Two flags are not in the source.  Both speak of the time since the receive ring was last empty: an
event of the session has been taken, and a post of one has been refused.

Main results:

* `uart_notification` — bytes that wait have their event waiting, or a consumer at work, or the
  post of their event was refused;
* `uart_notification_lost` — the deferred ring is full, and bytes wait with none of the former.
-/
import Esp32Mod.UartSession
import Esp32Mod.EventRings

namespace Esp32Mod

open RingBuffer StepMachine Machine

/-! ### The system -/

/-- The session, the worker's post and the deferred ring. -/
structure NotifySystem where
  async : UartSystem
  /-- What the worker has to post. -/
  posting : Option UartPost
  deferred : DeferredRing
  /-- The consumer has taken an event, and not read to the end yet. -/
  draining : Bool
  taken : Bool
  refused : Bool

/-- The steps of the session, of the worker and of the others that post and take. -/
inductive NotifyAction
  | async (a : UartAction)
  /-- The worker posts. -/
  | post
  | other (p : DeferredPost)
  /-- The consumer takes an event. -/
  | take

/-- The bytes that wait to be read. -/
def UartSystem.received (s : UartSystem) : List UInt8 :=
  match s.state.rings with
  | none => []
  | some r => r.rx.contents

/-- The post that follows the receive section, if this is that section. -/
def UartSystem.receivePost (s : UartSystem) : UartAction → Option UartPost
  | .worker k _ =>
    match s.worker k, s.state.rings with
    | .store input, some r => (asyncReceiveStore input r s.state).1
    | _, _ => none
  | _ => none

/-- A read to the end: it returns 0. -/
def UartSystem.ReadsNothing (s : UartSystem) : UartAction → Prop
  | .read destination capacity =>
    (bmxEmbeddedUartAsyncRead destination capacity s.state).1 = some []
  | _ => False

instance (s : UartSystem) (a : UartAction) : Decidable (s.ReadsNothing a) := by
  cases a <;> unfold UartSystem.ReadsNothing <;> infer_instance

namespace NotifySystem

/-- The consumer reads into memory of its own. -/
def Allows (s : NotifySystem) : UartAction → Prop
  | .worker _ _ => s.posting = none
  | .read destination capacity => destination = true ∧ 0 < capacity
  | _ => True

instance (s : NotifySystem) (a : UartAction) : Decidable (s.Allows a) := by
  cases a <;> unfold Allows <;> infer_instance

/-- A step of the session, which may leave the worker with something to post. -/
def asyncStep (s : NotifySystem) (a : UartAction) : Option NotifySystem :=
  if s.Allows a then
    (s.async.step a).map fun async => { s with
      async
      posting := (s.async.receivePost a).or s.posting
      draining := s.draining && !decide (s.async.ReadsNothing a)
      taken := s.taken && decide (async.received ≠ [])
      refused := s.refused && decide (async.received ≠ []) }
  else none

/-- The worker posts; the ring may be full. -/
def postStep (controller : UInt32) (s : NotifySystem) : Option NotifySystem :=
  s.posting.map fun p =>
    let (posted, deferred) := bmxEmbeddedEventPost p.token p.eventData controller s.deferred
    { s with
      posting := none
      deferred
      refused := s.refused || (!posted && decide (s.async.received ≠ [])) }

/-- The first event of the ring is taken. -/
def takeStep (s : NotifySystem) : Option NotifySystem :=
  (bmxEmbeddedEventTake s.deferred).map fun (event, deferred) =>
    if event.token = s.async.state.rxToken then
      { s with
        deferred
        draining := true
        taken := s.taken || decide (s.async.received ≠ []) }
    else { s with deferred }

/-- In any order. -/
def step (controller : UInt32) (s : NotifySystem) : NotifyAction → Option NotifySystem
  | .async a => s.asyncStep a
  | .post => s.postStep controller
  | .other p => some { s with deferred := (p.call s.deferred).2 }
  | .take => s.takeStep

end NotifySystem

/-- Nothing is open; other events may be waiting. -/
def notifyMachine (controller : UInt32) : Machine NotifySystem NotifyAction where
  init s := s.async = uartBoot ∧ s.posting = none ∧ s.draining = false ∧ s.taken = false ∧
    s.refused = false
  step := NotifySystem.step controller

/-! ### What a step does to the receive ring -/

/-- A session begins, or ends; or one goes on, and its receive ring is left alone, read or filled.
-/
inductive UartSystem.RxStep (s : UartSystem) (a : UartAction) (s' : UartSystem) : Prop
  | opened (happ : s.app = .idle) (hclosed : s.state.asyncOpen = false)
      (hreceived : s'.received = []) (htoken : s'.state.rxToken ≠ 0)
      (hpost : s.receivePost a = none)
  | ended (happ : s.app = .undo ∨ s.app = .closeFree) (hrings : s'.state.rings = none)
      (hpost : s.receivePost a = none)
  | kept (hreceived : s'.received = s.received) (htoken : s'.state.rxToken = s.state.rxToken)
      (hrings : s'.state.rings.isSome = s.state.rings.isSome)
      (hopen : s'.state.asyncOpen = true → s.state.asyncOpen = true)
      (hpost : s.receivePost a = none) (hreads : ¬ s.ReadsNothing a)
  | read {r : AsyncRings} {n : Nat} (hr : s.state.rings = some r)
      (hreceived : s'.received = r.rx.contents.drop n)
      (htoken : s'.state.rxToken = s.state.rxToken) (hrings : s'.state.rings.isSome = true)
      (hopen : s'.state.asyncOpen = s.state.asyncOpen) (hpost : s.receivePost a = none)
  | stored {input : List UInt8} {r : AsyncRings} (hr : s.state.rings = some r)
      (hstate : s'.state = (asyncReceiveStore input r s.state).2)
      (hrunning : ∃ k, s'.worker k ≠ .gone)
      (hpost : s.receivePost a = (asyncReceiveStore input r s.state).1)
      (hreads : ¬ s.ReadsNothing a)

section Uart

variable {s s' : UartSystem}

theorem receivePost_worker {k : Nat} (answer : UartAnswer)
    (hw : ∀ input, s.worker k ≠ .store input) :
    s.receivePost (.worker k answer) = none := by
  simp only [UartSystem.receivePost]
  split
  next input r hstore _ => exact absurd hstore (hw input)
  next => rfl

theorem workerStep_rx {k : Nat} {answer : UartAnswer} (hs : s.workerStep k answer = some s') :
    s.RxStep (.worker k answer) s' := by
  by_cases hstore : ∃ input, s.worker k = .store input
  · obtain ⟨input, hw⟩ := hstore
    simp only [UartSystem.workerStep, hw] at hs
    obtain ⟨r, hr, rfl⟩ := Option.map_eq_some_iff.mp hs
    refine .stored hr rfl ⟨k, ?_⟩ (by simp only [UartSystem.receivePost, hw, hr]) id
    simp only [UartSystem.setWorker, Function.update_self]
    split <;> nofun
  · have hpost := receivePost_worker answer (not_exists.mp hstore)
    cases workerStep_cases hs with
    | store hw => exact absurd ⟨_, hw⟩ hstore
    | @drain r hw hr =>
      refine .kept ?_ rfl ?_ id hpost id
      · simp only [UartSystem.received, UartSystem.setWorker, asyncTransmitDrain, hr]
      · simp only [UartSystem.setWorker, asyncTransmitDrain, hr, Option.isSome_some]
    | _ => exact .kept rfl rfl rfl id hpost id

theorem proceed_rx {created : Bool} (hs : s.proceed created = some s') :
    s.RxStep (.proceed created) s' := by
  cases uartProceed_cases hs with
  | created | notCreated | waits | ended => exact .kept rfl rfl rfl id rfl id
  | undone happ => exact .ended (.inl happ) rfl rfl
  | freed happ => exact .ended (.inr happ) rfl rfl

theorem call_rx {a : UartAction} (happ : s.app = .idle) (hs : s.call a = some s') :
    s.RxStep a s' := by
  cases uartCall_cases hs with
  | refused hread =>
    have hpost : s.receivePost a = none := by
      cases a with
      | worker => cases hs
      | _ => rfl
    refine .kept rfl rfl rfl id hpost fun hnothing => ?_
    cases a with
    | read destination capacity =>
      have hbytes : (bmxEmbeddedUartAsyncRead destination capacity s.state).1 = some [] := hnothing
      rw [hread destination capacity rfl] at hbytes
      cases hbytes
    | _ => exact hnothing
  | opened haccepts =>
    exact .opened happ (Bool.eq_false_iff.mpr haccepts.2.1) Ring.contents_empty
      haccepts.2.2.2.2.1 rfl
  | closed => exact .kept rfl rfl rfl (fun h => absurd h Bool.false_ne_true) rfl id
  | read n hr => exact .read hr (Ring.contents_drain n _) rfl rfl rfl rfl
  | write _ hr =>
    refine .kept ?_ rfl ?_ id rfl id
    · simp only [UartSystem.setLog, UartSystem.received, hr]
    · simp only [UartSystem.setLog, hr, Option.isSome_some]

theorem step_rx {a : UartAction} (hs : s.step a = some s') : s.RxStep a s' := by
  cases a with
  | worker k answer => exact workerStep_rx hs
  | proceed created => exact proceed_rx hs
  | transmit =>
    simp only [UartSystem.step] at hs
    split at hs
    next => exact absurd hs nofun
    next => exact Option.some.inj hs ▸ .kept rfl rfl rfl id rfl id
  | openAsync | closeAsync | read | write =>
    simp only [UartSystem.step] at hs
    split_ifs at hs with happ
    exact call_rx happ hs

/-- Bytes that are there after a store without a post were there before. -/
theorem received_of_silent {input : List UInt8} {r : AsyncRings} (hr : s.state.rings = some r)
    (hpost : (asyncReceiveStore input r s.state).1 = none)
    (hstate : s'.state = (asyncReceiveStore input r s.state).2) (hbytes : s'.received ≠ []) :
    s.received ≠ [] := by
  have hbytes' : ((⟨r.rx, s.state.rxDropped⟩ : Mailbox UInt8 r.rxCapacity).postAll
      input).ring.contents ≠ [] := by
    simpa only [UartSystem.received, hstate, asyncReceiveStore] using hbytes
  simp only [UartSystem.received, hr]
  intro hempty
  simp only [asyncReceiveStore, ite_eq_right_iff, reduceCtorEq, imp_false, not_and] at hpost
  have hzero := not_not.mp (hpost ((r.rx.get_eq_put_iff.mpr hempty).symm))
  refine hbytes' (List.eq_nil_of_length_eq_zero ?_)
  rw [Ring.length_contents, Ring.count, hzero]
  rfl

theorem receiveStore_token {input : List UInt8} {r : AsyncRings} {p : UartPost}
    (hpost : (asyncReceiveStore input r s.state).1 = some p) : p.token = s.state.rxToken := by
  simp only [asyncReceiveStore] at hpost
  split at hpost
  next => exact Option.some.inj hpost ▸ rfl
  next => exact absurd hpost nofun

/-- A read that finds room for a byte and gets none. -/
theorem received_of_readsNothing {destination : Bool} {capacity : Int32} (hcapacity : 0 < capacity)
    (h : s.ReadsNothing (.read destination capacity)) : s.received = [] := by
  simp only [UartSystem.ReadsNothing, bmxEmbeddedUartAsyncRead] at h
  split at h
  next => exact absurd h nofun
  next =>
    split at h
    next => exact absurd h nofun
    next =>
      split at h
      next => exact absurd h nofun
      next r hr =>
        have htake := Option.some.inj h
        rw [Ring.drain_fst, List.take_eq_nil_iff] at htake
        rw [Int32.lt_iff_toInt_lt] at hcapacity
        simp only [UartSystem.received, hr]
        refine htake.resolve_left fun hnone => ?_
        have hpos : 0 < capacity.toInt := hcapacity
        omega

/-- No session begins or ends while a worker runs. -/
theorem rxToken_of_running (h : s.Inv) (hrunning : ∃ k, s.worker k ≠ .gone) {a : UartAction}
    (hs : s.RxStep a s') : s'.state.rxToken = s.state.rxToken := by
  obtain ⟨k, hk⟩ := hrunning
  obtain rfl := h.1.alone k hk
  obtain ⟨-, ⟨hidle, hopen⟩ | ⟨hwait, -⟩⟩ := h.1.running hk
  · cases hs with
    | opened _ hclosed => exact absurd hopen (Bool.eq_false_iff.mp hclosed)
    | ended happ => rw [hidle] at happ; exact happ.elim nofun nofun
    | kept _ htoken => exact htoken
    | read _ _ htoken => exact htoken
    | stored _ hstate => rw [hstate]; rfl
  · cases hs with
    | opened happ => exact absurd (happ.symm.trans hwait) nofun
    | ended happ => rw [hwait] at happ; exact happ.elim nofun nofun
    | kept _ htoken => exact htoken
    | read _ _ htoken => exact htoken
    | stored _ hstate => rw [hstate]; rfl

/-- A worker goes on running while the application and the hardware take their steps. -/
theorem running_kept (h : s.Inv) (hrunning : ∃ k, s.worker k ≠ .gone) {a : UartAction}
    (ha : ∀ k answer, a ≠ .worker k answer) (hs : s.step a = some s') :
    ∃ k, s'.worker k ≠ .gone := by
  obtain ⟨k, hk⟩ := hrunning
  obtain rfl := h.1.alone k hk
  refine ⟨s.session, ?_⟩
  cases a with
  | worker k answer => exact absurd rfl (ha k answer)
  | transmit =>
    simp only [UartSystem.step] at hs
    split at hs
    next => exact absurd hs nofun
    next => exact Option.some.inj hs ▸ hk
  | proceed created =>
    cases uartProceed_cases hs with
    | created happ =>
      have hgone := h.1.app
      rw [happ] at hgone
      exact absurd hgone.2.2 hk
    | notCreated | undone | waits | ended | freed => exact hk
  | openAsync | closeAsync | read | write =>
    simp only [UartSystem.step] at hs
    split_ifs at hs
    cases uartCall_cases hs <;> exact hk

end Uart

/-! ### The invariant -/

namespace NotifySystem

/-- An event of the session waits in the deferred ring. -/
def Queued (s : NotifySystem) : Prop :=
  ∃ e ∈ s.deferred.ring.contents, e.token = s.async.state.rxToken

/-- It waits, or the consumer is at work on it. -/
def Notified (s : NotifySystem) : Prop :=
  s.Queued ∨ (s.taken = true ∧ s.draining = true)

/-- What the session, the post and the ring say of each other. -/
structure Inv (s : NotifySystem) : Prop where
  async : s.async.Inv
  token : s.async.state.rings.isSome = true → s.async.state.rxToken ≠ 0
  posting : ∀ p, s.posting = some p →
    p.token = s.async.state.rxToken ∧ ∃ k, s.async.worker k ≠ .gone
  notified : s.async.state.asyncOpen = true → s.posting = none → s.async.received ≠ [] →
    s.Notified ∨ s.refused = true

section Steps

variable {s s' : NotifySystem}

theorem token_step {async : UartSystem} {a : UartAction} (h : s.Inv)
    (hs : s.async.RxStep a async) (hrings : async.state.rings.isSome = true) :
    async.state.rxToken ≠ 0 := by
  cases hs with
  | opened _ _ _ htoken => exact htoken
  | ended _ hnone => rw [hnone] at hrings; exact absurd hrings nofun
  | kept _ htoken hsame => rw [htoken]; exact h.token (hsame ▸ hrings)
  | read hr _ htoken => rw [htoken]; exact h.token (by rw [hr]; rfl)
  | stored hr hstate => rw [hstate]; exact h.token (by rw [hr]; rfl)

/-- Bytes that wait after a step without a post have waited before, for the same session. -/
theorem received_step {async : UartSystem} {a : UartAction} (hs : s.async.RxStep a async)
    (hpost : s.async.receivePost a = none) (hopen : async.state.asyncOpen = true)
    (hbytes : async.received ≠ []) :
    s.async.received ≠ [] ∧ s.async.state.asyncOpen = true ∧
      async.state.rxToken = s.async.state.rxToken := by
  cases hs with
  | opened _ _ hreceived => exact absurd hreceived hbytes
  | ended _ hnone =>
    exact absurd (by simp only [UartSystem.received, hnone]) hbytes
  | kept hreceived htoken _ hkept => exact ⟨hreceived ▸ hbytes, hkept hopen, htoken⟩
  | @read r n hr hreceived htoken _ hsame =>
    refine ⟨fun hnone => hbytes ?_, hsame ▸ hopen, htoken⟩
    simp only [UartSystem.received, hr] at hnone
    rw [hreceived, hnone, List.drop_nil]
  | @stored input r hr hstate _ hpost' =>
    rw [hpost'] at hpost
    refine ⟨received_of_silent hr hpost hstate hbytes, ?_, by rw [hstate]; rfl⟩
    rw [hstate] at hopen
    exact hopen

/-- What the worker has to post is an event of the session, and it does nothing else. -/
theorem posting_step {async : UartSystem} {a : UartAction} (h : s.Inv) (hallows : s.Allows a)
    (hs : s.async.step a = some async) (p : UartPost)
    (hp : (s.async.receivePost a).or s.posting = some p) :
    p.token = async.state.rxToken ∧ ∃ k, async.worker k ≠ .gone := by
  have hrx := step_rx hs
  rcases Option.or_eq_some_iff.mp hp with hnew | ⟨-, hold⟩
  · cases hrx with
    | stored hr hstate hrunning hpost _ =>
      rw [hpost] at hnew
      exact ⟨by rw [receiveStore_token hnew, hstate]; rfl, hrunning⟩
    | opened _ _ _ _ hpost => rw [hpost] at hnew; exact absurd hnew nofun
    | ended _ _ hpost => rw [hpost] at hnew; exact absurd hnew nofun
    | kept _ _ _ _ hpost => rw [hpost] at hnew; exact absurd hnew nofun
    | read _ _ _ _ _ hpost => rw [hpost] at hnew; exact absurd hnew nofun
  · obtain ⟨htoken, hrunning⟩ := h.posting p hold
    have ha : ∀ k answer, a ≠ .worker k answer := by
      rintro k answer rfl
      exact absurd (hallows.symm.trans hold) nofun
    exact ⟨htoken.trans (rxToken_of_running h.async hrunning hrx).symm,
      running_kept h.async hrunning ha hs⟩

theorem not_readsNothing {async : UartSystem} {a : UartAction} (hallows : s.Allows a)
    (hrx : s.async.RxStep a async) (hbytes : s.async.received ≠ []) :
    ¬ s.async.ReadsNothing a := by
  intro hreads
  cases a with
  | read destination capacity => exact hbytes (received_of_readsNothing hallows.2 hreads)
  | _ => exact hreads

theorem asyncStep_inv (h : s.Inv) {a : UartAction} (hs : s.asyncStep a = some s') : s'.Inv := by
  unfold asyncStep at hs
  split at hs
  next hallows =>
    obtain ⟨async, hasync, rfl⟩ := Option.map_eq_some_iff.mp hs
    have hrx := step_rx hasync
    refine ⟨uartInv_step h.async hasync, token_step h hrx, posting_step h hallows hasync,
      fun hopen hposting hbytes => ?_⟩
    obtain ⟨hpost, hposting⟩ := Option.or_eq_none_iff.mp hposting
    obtain ⟨hbefore, hopen, htoken⟩ := received_step hrx hpost hopen hbytes
    have hreads := not_readsNothing hallows hrx hbefore
    -- nothing is over: the ring has not been empty, the consumer has not come to the end
    rcases h.notified hopen hposting hbefore with (⟨e, he, hqueued⟩ | ⟨htaken, hdraining⟩) | hrefused
    · exact .inl (.inl ⟨e, he, hqueued.trans htoken.symm⟩)
    · refine .inl (.inr ⟨?_, ?_⟩)
      · simp only [htaken, Bool.true_and]
        exact decide_eq_true hbytes
      · simp only [hdraining, hreads, decide_false, Bool.not_false, Bool.and_true]
    · refine .inr ?_
      simp only [hrefused, Bool.true_and]
      exact decide_eq_true hbytes
  next => exact absurd hs nofun

theorem call_contents (p : DeferredPost) (m : DeferredRing) {e : BMXESP32DeferredEvent}
    (he : e ∈ m.ring.contents) : e ∈ (p.call m).2.ring.contents := by
  rw [p.call_eq]
  split
  next => exact he
  next =>
    by_cases hfull : m.ring.contents.length = bmxEsp32EventCapacity.size.toNat
    · rw [Mailbox.post_of_full _ hfull]
      exact he
    · obtain ⟨-, hcontents, -⟩ := m.post_of_lt p.event
        (Nat.lt_of_le_of_ne m.ring.length_contents_le hfull)
      rw [hcontents]
      exact List.mem_append_left _ he

/-- A post with a token is refused exactly if the deferred ring is full. -/
theorem eventPost_cases {token : UInt32} (htoken : token ≠ 0) (eventData detail : UInt32)
    (m : DeferredRing) :
    (m.ring.contents.length = 32 ∧ (bmxEmbeddedEventPost token eventData detail m).1 = false) ∨
      (m.ring.contents.length < 32 ∧ (bmxEmbeddedEventPost token eventData detail m).1 = true ∧
        ⟨token, eventData, 0, detail, 0⟩ ∈
          (bmxEmbeddedEventPost token eventData detail m).2.ring.contents) := by
  have hpost : bmxEmbeddedEventPost token eventData detail m =
      m.post ⟨token, eventData, 0, detail, 0⟩ := if_neg htoken
  rw [hpost]
  by_cases hfull : m.ring.contents.length = bmxEsp32EventCapacity.size.toNat
  · rw [Mailbox.post_of_full _ hfull]
    exact .inl ⟨hfull, rfl⟩
  · have hlt := Nat.lt_of_le_of_ne m.ring.length_contents_le hfull
    obtain ⟨hstored, hcontents, -⟩ := m.post_of_lt ⟨token, eventData, 0, detail, 0⟩ hlt
    rw [hcontents]
    exact .inr ⟨hlt, hstored, List.mem_append_right _ (List.mem_singleton.mpr rfl)⟩

theorem token_of_posting (h : s.Inv) {p : UartPost} (hp : s.posting = some p) : p.token ≠ 0 := by
  obtain ⟨htoken, k, hk⟩ := h.posting p hp
  obtain rfl := h.async.1.alone k hk
  rw [htoken]
  exact h.token (h.async.1.running hk).1

theorem postStep_inv {controller : UInt32} (h : s.Inv) (hs : s.postStep controller = some s') :
    s'.Inv := by
  obtain ⟨p, hp, rfl⟩ := Option.map_eq_some_iff.mp hs
  refine ⟨h.async, h.token, nofun, fun _ _ hbytes => ?_⟩
  rcases eventPost_cases (token_of_posting h hp) p.eventData controller s.deferred with
    ⟨-, hrefused⟩ | ⟨-, -, hmem⟩
  · refine .inr ?_
    simp only [hrefused, Bool.not_false, Bool.true_and, Bool.or_eq_true]
    exact .inr (decide_eq_true hbytes)
  · exact .inl (.inl ⟨_, hmem, (h.posting p hp).1⟩)

theorem takeStep_inv (h : s.Inv) (hs : s.takeStep = some s') : s'.Inv := by
  obtain ⟨⟨event, deferred⟩, htake, hs⟩ := Option.map_eq_some_iff.mp hs
  have hcontents := (Mailbox.contents_of_take htake).1
  dsimp only at hs
  split at hs
  next htoken =>
    subst hs
    refine ⟨h.async, h.token, h.posting, fun hopen hposting hbytes => .inl (.inr ⟨?_, rfl⟩)⟩
    simp only [Bool.or_eq_true]
    exact .inr (decide_eq_true hbytes)
  next htoken =>
    subst hs
    refine ⟨h.async, h.token, h.posting, fun hopen hposting hbytes => ?_⟩
    rcases h.notified hopen hposting hbytes with (⟨e, he, hqueued⟩ | htaken) | hrefused
    · -- what was taken is not of the session
      rw [hcontents] at he
      rcases List.mem_cons.mp he with rfl | he
      · exact absurd hqueued htoken
      · exact .inl (.inl ⟨e, he, hqueued⟩)
    · exact .inl (.inr htaken)
    · exact .inr hrefused

theorem notifyInv_step {controller : UInt32} (h : s.Inv) {a : NotifyAction}
    (hs : s.step controller a = some s') : s'.Inv := by
  cases a with
  | async a => exact asyncStep_inv h hs
  | post => exact postStep_inv h hs
  | take => exact takeStep_inv h hs
  | other p =>
    obtain rfl := Option.some.inj hs
    refine ⟨h.async, h.token, h.posting, fun hopen hposting hbytes => ?_⟩
    rcases h.notified hopen hposting hbytes with (⟨e, he, hqueued⟩ | htaken) | hrefused
    · exact .inl (.inl ⟨e, call_contents p s.deferred he, hqueued⟩)
    · exact .inl (.inr htaken)
    · exact .inr hrefused

end Steps

end NotifySystem

open NotifySystem

theorem notifyInv_of_reachable {controller : UInt32} {s : NotifySystem}
    (h : (notifyMachine controller).Reachable s) : s.Inv := by
  refine h.invariant ?_ fun _ _ _ hinv _ hs => notifyInv_step hinv hs
  rintro s ⟨hasync, hposting, -⟩
  refine ⟨hasync ▸ uartInv_of_start uartBoot_start, fun hrings => ?_, fun p hp => ?_, fun hopen => ?_⟩
  · rw [hasync] at hrings
    exact absurd hrings nofun
  · exact absurd (hposting.symm.trans hp) nofun
  · rw [hasync] at hopen
    exact absurd hopen nofun

/-- **The receive event.**  While bytes wait in an open session and the worker has nothing to post,
an event of the session waits in the deferred ring, or one was taken since the receive ring was
last empty and the consumer has not read to the end, or the post of one was refused since then.
Such a post is refused exactly if the deferred ring is full. -/
theorem uart_notification {controller : UInt32} {s : NotifySystem}
    (h : (notifyMachine controller).Reachable s) :
    (s.async.state.asyncOpen = true → s.posting = none → s.async.received ≠ [] →
      (∃ e ∈ s.deferred.ring.contents, e.token = s.async.state.rxToken) ∨
        (s.taken = true ∧ s.draining = true) ∨ s.refused = true) ∧
    ∀ p, s.posting = some p → p.token = s.async.state.rxToken ∧
      ((bmxEmbeddedEventPost p.token p.eventData controller s.deferred).1 = false ↔
        s.deferred.ring.contents.length = 32) := by
  have hinv := notifyInv_of_reachable h
  refine ⟨fun hopen hposting hbytes => or_assoc.mp (hinv.notified hopen hposting hbytes),
    fun p hp => ⟨(hinv.posting p hp).1, ?_⟩⟩
  rcases eventPost_cases (token_of_posting hinv hp) p.eventData controller s.deferred with
    ⟨hfull, hrefused⟩ | ⟨hlt, hposted, -⟩
  · exact iff_of_true hrefused hfull
  · exact iff_of_false (by rw [hposted]; nofun) (Nat.ne_of_lt hlt)

/-- Nothing is open and nothing waits. -/
def notifyBoot : NotifySystem :=
  ⟨uartBoot, none, ⟨Ring.empty bmxEsp32EventCapacity, 0⟩, false, false, false⟩

/-- A session is opened, and its worker finds a byte. -/
def byteArrives : List NotifyAction :=
  [.async (.openAsync 2 2 1 2 3 true), .async (.proceed true), .async (.worker 1 {}),
    .async (.worker 1 { event := some .data }), .async (.worker 1 { input := [65] }),
    .async (.worker 1 {}), .post]

/-- The byte waits, and its event has been posted. -/
theorem uart_notification_posted : ∃ s : NotifySystem, s.async.received = [65] ∧
    ((∃ e ∈ s.deferred.ring.contents, e.token = s.async.state.rxToken) ∨
      (s.taken = true ∧ s.draining = true) ∨ s.refused = true) := by
  obtain ⟨s, hs, hp⟩ := exists_reachable_of_run (M := notifyMachine 0) byteArrives
    (fun s => decide (s.async.received = [65] ∧ s.async.state.asyncOpen = true ∧
      s.posting = none)) (s := notifyBoot) ⟨rfl, rfl, rfl, rfl, rfl⟩ (by decide)
  obtain ⟨hbytes, hopen, hposting⟩ := of_decide_eq_true hp
  exact ⟨s, hbytes, (uart_notification hs).1 hopen hposting (by rw [hbytes]; nofun)⟩

/-- Other producers fill the deferred ring first. -/
theorem uart_notification_lost : ∃ s, (notifyMachine 0).Reachable s ∧
    s.async.state.asyncOpen = true ∧ s.posting = none ∧ s.async.received ≠ [] ∧
      ¬ (∃ e ∈ s.deferred.ring.contents, e.token = s.async.state.rxToken) ∧ s.taken = false := by
  obtain ⟨s, hs, hp⟩ := exists_reachable_of_run (M := notifyMachine 0)
    (List.replicate 32 (.other (.post 9 0 0)) ++ byteArrives)
    (fun s => decide (s.async.state.asyncOpen = true ∧ s.posting = none ∧
      s.async.received ≠ [] ∧
      ¬ (∃ e ∈ s.deferred.ring.contents, e.token = s.async.state.rxToken) ∧ s.taken = false))
    (s := notifyBoot) ⟨rfl, rfl, rfl, rfl, rfl⟩ (by decide +kernel)
  exact ⟨s, hs, of_decide_eq_true hp⟩

end Esp32Mod
