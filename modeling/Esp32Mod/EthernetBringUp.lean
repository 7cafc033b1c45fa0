/-
Esp32Mod/EthernetBringUp.lean

What `bmx_embedded_ethernet_initialize` acquires and `bmx_ethernet_release` gives back.

Main results:

* `ethernet_all_released` — a failed `initialize`, and a successful one that is followed by
  `deinitialize`, release in order whatever they have acquired, and leave nothing behind;
* `ethernet_stale_handlers` — what stays are the two handler instances, which nothing reads.
-/
import Esp32Mod.Ethernet

namespace Esp32Mod

open StepMachine Machine FallibleSteps AcquireRelease RingBuffer

/-! ### The claim -/

/-- Every object is released once for each time it is acquired, which is at most one; and never
while it is not held or something that rests on it still is. -/
structure ReleasedInOrder (as : List (Action EthernetObject)) : Prop where
  once : ∀ o, as.count (.acquire o) ≤ 1 ∧ as.count (.release o) = as.count (.acquire o)
  ordered : perform EthernetObject.needs ∅ as = some ∅

namespace EthernetModule

/-- The objects are null, nothing is registered, and the module is not initialized. -/
structure Released (s : EthernetModule) : Prop where
  objects : ∀ o, s.has o = false
  initialized : s.initialized = false

/-- Every pointer is null, the handler instances included. -/
structure AllNull (s : EthernetModule) : Prop where
  released : s.Released
  eventHandler : s.eventHandler = false
  ipHandler : s.ipHandler = false

/-! ### Single objects -/

variable {s s' : EthernetModule} {o p : EthernetObject}

theorem has_acquire : (s.acquire o).has p = (s.has p || p == o) := by
  cases o <;> cases p <;> simp [acquire, has]

theorem has_drop : (s.drop o).has p = (s.has p && p != o) := by
  cases o <;> cases p <;> simp [drop, has]

theorem log_acquire : (s.acquire o).log = s.log ++ [.acquire o] := by
  cases o <;> rfl

theorem log_drop : (s.drop o).log = s.log ++ [.release o] := by
  cases o <;> rfl

theorem initialized_acquire : (s.acquire o).initialized = s.initialized := by
  cases o <;> rfl

theorem initialized_drop : (s.drop o).initialized = s.initialized := by
  cases o <;> rfl

/-! ### Release -/

/-- What is there goes. -/
def dropHeld (s : EthernetModule) (o : EthernetObject) : EthernetModule :=
  if s.has o then s.drop o else s

/-- The order of `bmx_ethernet_release`. -/
def releaseOrder : List EthernetObject :=
  [.started, .ipHandler, .ethHandler, .glue, .netif, .driver, .mac, .phy]

/-- The driver is not started without its handle. -/
theorem release_eq (h : s.started = true → s.handle = true) :
    bmxEthernetRelease s = releaseOrder.foldl dropHeld s := by
  have hstop : (if s.started && s.handle then s.drop .started else s) = s.dropHeld .started := by
    show _ = if s.started then s.drop .started else s
    cases hstarted : s.started
    · rfl
    · rw [h hstarted]
      rfl
  unfold bmxEthernetRelease
  rw [hstop]
  rfl

/-- What dropping a list of objects does, none of which occurs twice. -/
theorem foldl_dropHeld {order : List EthernetObject} (hnodup : order.Nodup) :
    (order.foldl dropHeld s).log = s.log ++ (order.filter s.has).map .release ∧
      (order.foldl dropHeld s).initialized = s.initialized ∧
      ∀ p, (order.foldl dropHeld s).has p = (s.has p && decide (p ∉ order)) := by
  induction order generalizing s with
  | nil => simp
  | cons o order ih =>
    obtain ⟨ho, hnodup⟩ := List.nodup_cons.mp hnodup
    obtain ⟨hlog, hinitialized, hhas⟩ := ih (s := s.dropHeld o) hnodup
    -- the head occurs only once, so dropping it is not seen by the rest
    have hothers : order.filter (s.dropHeld o).has = order.filter s.has := by
      apply List.filter_congr
      intro p hp
      have hne : p ≠ o := fun heq => ho (heq ▸ hp)
      unfold dropHeld
      split
      · simp [has_drop, hne]
      · rfl
    rw [List.foldl_cons]
    refine ⟨?_, ?_, ?_⟩
    · rw [hlog, hothers]
      by_cases hheld : s.has o = true
      · rw [List.filter_cons_of_pos hheld, dropHeld, if_pos hheld, log_drop]
        simp
      · rw [List.filter_cons_of_neg hheld, dropHeld, if_neg hheld]
    · rw [hinitialized]
      unfold dropHeld
      split
      · exact initialized_drop
      · rfl
    · intro p
      rw [hhas p]
      by_cases hheld : s.has o = true
      · rw [dropHeld, if_pos hheld, has_drop]
        by_cases hp : p = o
        · simp [hp]
        · have hbne : (p != o) = true := bne_iff_ne.mpr hp
          simp [hp, hbne]
      · rw [dropHeld, if_neg hheld]
        by_cases hp : p = o
        · simp [hp, hheld]
        · simp [hp]

theorem mem_releaseOrder (o : EthernetObject) : o ∈ releaseOrder := by
  cases o <;> decide

theorem nodup_releaseOrder : releaseOrder.Nodup := by decide

/-- Nothing is released before what rests on it. -/
theorem pairwise_releaseOrder : releaseOrder.Pairwise fun o p => o ∉ p.needs := by decide

theorem not_needs_self (o : EthernetObject) : o ∉ o.needs := by
  cases o <;> decide

/-- **`bmx_ethernet_release` drops what there is**, and nothing else. -/
theorem release_spec (h : s.started = true → s.handle = true) :
    (bmxEthernetRelease s).log = s.log ++ (releaseOrder.filter s.has).map .release ∧
      (bmxEthernetRelease s).initialized = s.initialized ∧
      ∀ o, (bmxEthernetRelease s).has o = false := by
  obtain ⟨hlog, hinitialized, hhas⟩ := foldl_dropHeld (s := s) nodup_releaseOrder
  rw [release_eq h]
  refine ⟨hlog, hinitialized, ?_⟩
  intro o
  rw [hhas o, decide_eq_false (not_not_intro (mem_releaseOrder o)), Bool.and_false]

/-! ### Acquisition -/

/-- The order of `bmx_embedded_ethernet_initialize`. -/
def acquireOrder : List EthernetObject :=
  [.mac, .phy, .driver, .netif, .glue, .ethHandler, .ipHandler, .started]

/-- The step acquires these objects and no other. -/
structure Acquires (step : Step EspErr EthernetModule) (os : List EthernetObject) : Prop where
  log : ∀ s, (step.effect s).log = s.log ++ os.map .acquire
  has : ∀ s p, (step.effect s).has p = (s.has p || decide (p ∈ os))
  initialized : ∀ s, (step.effect s).initialized = s.initialized

theorem acquires_acquiring (o : EthernetObject) (result : EspErr) :
    Acquires (acquiring o result) [o] := by
  refine ⟨fun _ => log_acquire, fun s p => ?_, fun _ => initialized_acquire⟩
  show (s.acquire o).has p = _
  rw [has_acquire]
  simp [beq_eq_decide]

/-- A step that leaves the log and the objects alone acquires nothing. -/
theorem acquires_nothing {step : Step EspErr EthernetModule}
    (hlog : ∀ s, (step.effect s).log = s.log) (hhas : ∀ s p, (step.effect s).has p = s.has p)
    (hinitialized : ∀ s, (step.effect s).initialized = s.initialized) : Acquires step [] := by
  refine ⟨fun s => ?_, fun s p => ?_, hinitialized⟩
  · rw [hlog s]
    exact (List.append_nil s.log).symm
  · rw [hhas s p]
    exact (Bool.or_false (s.has p)).symm

theorem acquires_check (result : EspErr) : Acquires (check result) [] :=
  acquires_nothing (fun _ => rfl) (fun _ _ => rfl) fun _ => rfl

theorem acquires_resetLink : Acquires ⟨espOk, resetLink⟩ [] :=
  acquires_nothing (fun _ => rfl) (fun _ p => by cases p <;> rfl) fun _ => rfl

/-- **Wherever a sequence of such steps ends, it has acquired the beginning of the objects**; how
far it comes depends on the results alone. -/
theorem steps_acquire {steps : List (Step EspErr EthernetModule)}
    {objects : List (List EthernetObject)} (h : List.Forall₂ Acquires steps objects) :
    ∃ e done rest, objects.flatten = done ++ rest ∧ (e = espOk → rest = []) ∧
      ∀ s, (run espOk steps s).1 = e ∧
        (run espOk steps s).2.log = s.log ++ done.map .acquire ∧
        (∀ p, (run espOk steps s).2.has p = (s.has p || decide (p ∈ done))) ∧
        (run espOk steps s).2.initialized = s.initialized := by
  induction h with
  | nil =>
    refine ⟨espOk, [], [], rfl, fun _ => rfl, fun s => ⟨rfl, ?_, fun p => ?_, rfl⟩⟩
    · exact (List.append_nil s.log).symm
    · exact (Bool.or_false (s.has p)).symm
  | @cons step os steps objects hstep _ ih =>
    -- a step that fails ends the sequence, with nothing more acquired
    by_cases hresult : step.result = espOk
    · obtain ⟨e, done, rest, hobjects, hall, hrun⟩ := ih
      refine ⟨e, os ++ done, rest, ?_, hall, fun s => ?_⟩
      · rw [List.flatten_cons, hobjects, List.append_assoc]
      · obtain ⟨he, hlog, hhas, hinitialized⟩ := hrun (step.effect s)
        rw [run_cons_ok hresult]
        refine ⟨he, ?_, ?_, ?_⟩
        · rw [hlog, hstep.log s, List.map_append, List.append_assoc]
        · intro p
          rw [hhas p, hstep.has s p, Bool.or_assoc]
          simp [List.mem_append, Bool.decide_or]
        · rw [hinitialized, hstep.initialized s]
    · refine ⟨step.result, [], _, rfl, fun he => absurd he hresult, fun s => ?_⟩
      rw [run_cons_failed hresult]
      refine ⟨rfl, ?_, fun p => ?_, rfl⟩
      · exact (List.append_nil s.log).symm
      · exact (Bool.or_false (s.has p)).symm

theorem ethernetSteps_acquire (b : EthernetBoard) (r : EthernetInitResults) :
    List.Forall₂ Acquires (ethernetSteps b r)
      [[.phy], [.driver], [], [.netif], [.glue], [], [.ethHandler], [.ipHandler], [],
        [.started]] := by
  refine .cons (acquires_acquiring _ _) (.cons (acquires_acquiring _ _) (.cons (acquires_check _)
    (.cons (acquires_acquiring _ _) (.cons (acquires_acquiring _ _) (.cons (acquires_check _)
    (.cons (acquires_acquiring _ _) (.cons (acquires_acquiring _ _) (.cons acquires_resetLink
    (.cons (acquires_acquiring _ _) .nil)))))))))

theorem acquireOrder_performed : perform EthernetObject.needs ∅ (acquireOrder.map .acquire) =
    some acquireOrder.toFinset := by decide

/-- Up to any point of the order, what an object rests on is there. -/
theorem prefix_closed {done rest : List EthernetObject} (h : acquireOrder = done ++ rest) :
    Closed EthernetObject.needs done.toFinset := by
  have hall := acquireOrder_performed
  rw [h] at hall
  apply perform_closed _ (perform_acquires_append hall)
  exact fun o ho => absurd ho (Finset.notMem_empty o)

/-- What a failed attempt leaves in the log. -/
def undone (done : List EthernetObject) : List (Action EthernetObject) :=
  done.map .acquire ++ (releaseOrder.filter fun o => decide (o ∈ done)).map .release

/-- **The beginning of the acquisitions, released again, is released in order.** -/
theorem undone_released {done rest : List EthernetObject} (h : acquireOrder = done ++ rest) :
    ReleasedInOrder (undone done) := by
  have hall := acquireOrder_performed
  have hnodup : (done ++ rest).Nodup := by
    rw [← h]
    decide
  rw [h] at hall
  -- the release order fits what is there at any point of the acquisition
  have hordered : perform EthernetObject.needs ∅ (undone done) = some ∅ := by
    apply perform_acquires_then hall
    · ext o
      rw [List.mem_toFinset, List.mem_toFinset, List.mem_filter, decide_eq_true_iff]
      exact ⟨fun ho => ho.2, fun ho => ⟨mem_releaseOrder o, ho⟩⟩
    · exact nodup_releaseOrder.filter _
    · exact fun o _ => not_needs_self o
    · exact pairwise_releaseOrder.filter _
  refine ⟨fun o => ⟨?_, count_release hordered o⟩, hordered⟩
  exact count_acquire_le_one (List.Nodup.of_append_left hnodup) _ o

/-- The module works: every object is there. -/
structure Working (s : EthernetModule) : Prop where
  objects : ∀ o, s.has o = true
  initialized : s.initialized = true

/-- `initialize` has returned `e` after acquiring `done`: an error, and nothing is left; or
success, and everything is there. -/
structure Outcome (s : EthernetModule) (e : EspErr) (done : List EthernetObject)
    (x : EspErr × EthernetModule) : Prop where
  result : x.1 = e
  failed : e ≠ espOk → x.2.log = s.log ++ undone done ∧ x.2.Released
  worked : e = espOk → x.2.log = s.log ++ acquireOrder.map .acquire ∧ x.2.Working

/-- The errors that are returned before anything is acquired. -/
def earlyError (r : EthernetInitResults) : Option EspErr :=
  if notDone r.netifInit then some r.netifInit
  else if notDone r.eventLoop then some r.eventLoop
  else if r.mac = false then some espFail
  else none

theorem initialize_early (b : EthernetBoard) {r : EthernetInitResults} {e : EspErr}
    (h : earlyError r = some e) :
    e ≠ espOk ∧ ∀ s : EthernetModule, s.Released →
      Outcome s e [] (bmxEmbeddedEthernetInitialize b s r) := by
  have hkept : ∀ (e : EspErr) (s s' : EthernetModule), e ≠ espOk → s'.log = s.log →
      s'.Released → Outcome s e [] (e, s') := by
    intro e s s' he hlog hreleased
    exact ⟨rfl, fun _ => ⟨hlog.trans (List.append_nil s.log).symm, hreleased⟩,
      fun hok => absurd hok he⟩
  -- the three failures before anything has been acquired
  unfold earlyError at h
  split at h
  next hnetif =>
    obtain rfl := Option.some.inj h
    refine ⟨hnetif.1, fun s hs => ?_⟩
    unfold bmxEmbeddedEthernetInitialize
    rw [if_neg (Bool.eq_false_iff.mp hs.initialized), if_pos hnetif]
    exact hkept _ s s hnetif.1 rfl hs
  split at h
  next hnetif hloop =>
    obtain rfl := Option.some.inj h
    refine ⟨hloop.1, fun s hs => ?_⟩
    unfold bmxEmbeddedEthernetInitialize
    rw [if_neg (Bool.eq_false_iff.mp hs.initialized), if_neg hnetif, if_pos hloop]
    exact hkept _ s s hloop.1 rfl hs
  split at h
  next hnetif hloop hmac =>
    obtain rfl := Option.some.inj h
    have hfail : espFail ≠ espOk := by decide
    refine ⟨hfail, fun s hs => ?_⟩
    unfold bmxEmbeddedEthernetInitialize
    rw [if_neg (Bool.eq_false_iff.mp hs.initialized), if_neg hnetif, if_neg hloop, if_pos hmac]
    refine hkept _ s { s with mac := false } hfail rfl ⟨fun o => ?_, hs.initialized⟩
    have ho := hs.objects o
    cases o <;> first | rfl | exact ho
  next => cases h

theorem initialize_late (b : EthernetBoard) {r : EthernetInitResults} (h : earlyError r = none)
    {s : EthernetModule} (hs : s.Released) : bmxEmbeddedEthernetInitialize b s r =
      if (run espOk (ethernetSteps b r) (s.acquire .mac)).1 ≠ espOk then
        ((run espOk (ethernetSteps b r) (s.acquire .mac)).1,
          bmxEthernetRelease (run espOk (ethernetSteps b r) (s.acquire .mac)).2)
      else
        (espOk, { (run espOk (ethernetSteps b r) (s.acquire .mac)).2 with initialized := true }) := by
  unfold earlyError at h
  split at h
  · cases h
  next hnetif =>
  split at h
  · cases h
  next hloop =>
  split at h
  · cases h
  next hmac =>
  unfold bmxEmbeddedEthernetInitialize
  rw [if_neg (Bool.eq_false_iff.mp hs.initialized), if_neg hnetif, if_neg hloop, if_neg hmac]

/-- **What `initialize` acquires depends on the results alone**, and so does what becomes of it. -/
theorem initialize_spec (b : EthernetBoard) (r : EthernetInitResults) :
    ∃ e done rest, acquireOrder = done ++ rest ∧
      ∀ s : EthernetModule, s.Released → Outcome s e done (bmxEmbeddedEthernetInitialize b s r) := by
  cases hearly : earlyError r with
  | some e => exact ⟨e, [], acquireOrder, rfl, (initialize_early b hearly).2⟩
  | none =>
    obtain ⟨e, done, rest, hobjects, hall, hrun⟩ := steps_acquire (ethernetSteps_acquire b r)
    have horder : acquireOrder = .mac :: (done ++ rest) := by
      rw [← hobjects]
      rfl
    refine ⟨e, .mac :: done, rest, horder, fun s hs => ?_⟩
    obtain ⟨he, hlog, hhas, hinitialized⟩ := hrun (s.acquire .mac)
    have hlog' : (run espOk (ethernetSteps b r) (s.acquire .mac)).2.log =
        s.log ++ (EthernetObject.mac :: done).map .acquire := by
      rw [hlog, log_acquire, List.append_assoc]
      rfl
    have hhas' : ∀ p, (run espOk (ethernetSteps b r) (s.acquire .mac)).2.has p =
        decide (p ∈ EthernetObject.mac :: done) := by
      intro p
      rw [hhas p, has_acquire, hs.objects p]
      simp [beq_eq_decide]
    have hdown : (run espOk (ethernetSteps b r) (s.acquire .mac)).2.initialized = false :=
      hinitialized.trans (initialized_acquire.trans hs.initialized)
    rw [initialize_late b hearly hs, he]
    by_cases hok : e = espOk
    · rw [if_neg (not_not_intro hok)]
      rw [hall hok, List.append_nil] at horder
      refine ⟨hok.symm, fun hne => absurd hok hne, fun _ => ⟨?_, ?_, rfl⟩⟩
      · rw [horder]
        exact hlog'
      · intro o
        have ho := hhas' o
        rw [← horder] at ho
        cases o <;> exact ho
    · rw [if_pos hok]
      -- a started driver has its handle, since it rests on it
      have hstarted : (run espOk (ethernetSteps b r) (s.acquire .mac)).2.started = true →
          (run espOk (ethernetSteps b r) (s.acquire .mac)).2.handle = true := by
        intro hstarted
        have hmem : EthernetObject.started ∈ EthernetObject.mac :: done :=
          of_decide_eq_true ((hhas' .started).symm.trans hstarted)
        have hdriver := prefix_closed horder .started (List.mem_toFinset.mpr hmem) .driver
          List.mem_cons_self
        exact (hhas' .driver).trans (decide_eq_true (List.mem_toFinset.mp hdriver))
      obtain ⟨hreleaselog, hreleaseinit, hreleasehas⟩ := release_spec hstarted
      refine ⟨rfl, fun _ => ⟨?_, hreleasehas, ?_⟩, fun hok' => absurd hok' hok⟩
      · rw [hreleaselog, hlog', List.append_assoc, undone]
        have hfilter : releaseOrder.filter (run espOk (ethernetSteps b r) (s.acquire .mac)).2.has =
            releaseOrder.filter fun o => decide (o ∈ EthernetObject.mac :: done) :=
          List.filter_congr fun o _ => hhas' o
        rw [hfilter]
      · exact hreleaseinit.trans hdown

/-! ### Events and `deinitialize` -/

theorem refresh_keeps (d : EthernetLinkDetails) :
    (bmxEthernetRefreshLinkDetails s d).log = s.log ∧
      (bmxEthernetRefreshLinkDetails s d).initialized = s.initialized ∧
      ∀ o, (bmxEthernetRefreshLinkDetails s d).has o = s.has o := by
  unfold bmxEthernetRefreshLinkDetails
  split
  · exact ⟨rfl, rfl, fun _ => rfl⟩
  · exact ⟨rfl, rfl, fun o => by cases o <;> rfl⟩

/-- A callback acquires and releases nothing. -/
theorem callback_keeps (e : EthernetEvent) :
    (bmxEthernetEventCallback s e).log = s.log ∧
      (bmxEthernetEventCallback s e).initialized = s.initialized ∧
      ∀ o, (bmxEthernetEventCallback s e).has o = s.has o := by
  cases e with
  | connected d =>
    obtain ⟨hlog, hinitialized, hhas⟩ := refresh_keeps (s := { s with hasLink := true }) d
    refine ⟨hlog, hinitialized, fun o => Eq.trans ?_ ((hhas o).trans ?_)⟩ <;> cases o <;> rfl
  | gotIp d info =>
    obtain ⟨hlog, hinitialized, hhas⟩ := refresh_keeps (s := s) d
    refine ⟨hlog, hinitialized, fun o => Eq.trans ?_ (hhas o)⟩
    cases o <;> rfl
  | _ => exact ⟨rfl, rfl, fun o => by cases o <;> rfl⟩

theorem events_keep (events : List EthernetEvent) :
    (events.foldl bmxEthernetEventCallback s).log = s.log ∧
      (events.foldl bmxEthernetEventCallback s).initialized = s.initialized ∧
      ∀ o, (events.foldl bmxEthernetEventCallback s).has o = s.has o := by
  induction events generalizing s with
  | nil => exact ⟨rfl, rfl, fun _ => rfl⟩
  | cons e events ih =>
    obtain ⟨hlog, hinitialized, hhas⟩ := ih (s := bmxEthernetEventCallback s e)
    obtain ⟨hlog', hinitialized', hhas'⟩ := callback_keeps (s := s) e
    exact ⟨hlog.trans hlog', hinitialized.trans hinitialized', fun o => (hhas o).trans (hhas' o)⟩

/-- **`deinitialize` of a working module** releases every object. -/
theorem Working.goDown (h : s.Working) {activeSockets : Option UInt32}
    (hsockets : activeSockets.any (· != 0) = false) :
    (Esp32Mod.bmxEmbeddedEthernetDeinitialize s activeSockets).2.log =
        s.log ++ releaseOrder.map .release ∧
      (Esp32Mod.bmxEmbeddedEthernetDeinitialize s activeSockets).2.Released := by
  obtain ⟨hlog, -, hhas⟩ := release_spec (s := s) fun _ => h.objects .driver
  have hfilter : releaseOrder.filter s.has = releaseOrder :=
    List.filter_eq_self.mpr fun o _ => h.objects o
  rw [deinitialize_done ⟨h.initialized, hsockets⟩]
  refine ⟨?_, fun o => ?_, rfl⟩
  · rw [hfilter] at hlog
    exact hlog
  · refine Eq.trans ?_ (hhas o)
    cases o <;> rfl

/-- Between calls there is nothing or everything. -/
def Settled (s : EthernetModule) : Prop := s.Released ∨ s.Working

theorem Settled.released (h : s.Settled) (hdown : s.initialized = false) : s.Released := by
  rcases h with h | h
  · exact h
  · exact absurd (h.initialized.symm.trans hdown) (by decide)

theorem Settled.initialize (h : s.Settled) (b : EthernetBoard) (r : EthernetInitResults) :
    (bmxEmbeddedEthernetInitialize b s r).2.Settled := by
  rcases h with h | h
  · obtain ⟨e, done, rest, -, hspec⟩ := initialize_spec b r
    have houtcome := hspec s h
    by_cases he : e = espOk
    · exact Or.inr (houtcome.worked he).2
    · exact Or.inl (houtcome.failed he).2
  · right
    unfold bmxEmbeddedEthernetInitialize
    rw [if_pos h.initialized]
    exact h

theorem Settled.goDown (h : s.Settled) (activeSockets : Option UInt32) :
    (Esp32Mod.bmxEmbeddedEthernetDeinitialize s activeSockets).2.Settled := by
  by_cases hdown : s.GoesDown activeSockets
  · rcases h with h | h
    · exact absurd (hdown.1.symm.trans h.initialized) (by decide)
    · exact Or.inl (h.goDown hdown.2).2
  · rw [deinitialize_refused hdown]
    exact h

theorem Settled.callback (h : s.Settled) (e : EthernetEvent) :
    (bmxEthernetEventCallback s e).Settled := by
  obtain ⟨-, hinitialized, hhas⟩ := callback_keeps (s := s) e
  rcases h with h | h
  · exact Or.inl ⟨fun o => (hhas o).trans (h.objects o), hinitialized.trans h.initialized⟩
  · exact Or.inr ⟨fun o => (hhas o).trans (h.objects o), hinitialized.trans h.initialized⟩

theorem Settled.step {b : EthernetBoard} {a : EthernetCall} (h : s.Settled)
    (hstep : (ethernetMachine b).step s a = some s') : s'.Settled := by
  rcases ethernetStep_cases hstep with ⟨r, rfl, rfl⟩ | ⟨activeSockets, rfl, rfl⟩ | ⟨e, rfl, rfl⟩
  · exact h.initialize b r
  · exact h.goDown activeSockets
  · exact h.callback e

theorem released_reset : ethernetReset.Released :=
  ⟨fun o => by cases o <;> rfl, rfl⟩

theorem settled_of_reachable {b : EthernetBoard} (h : (ethernetMachine b).Reachable s) :
    s.Settled := by
  apply h.invariant (I := Settled)
  · rintro s rfl
    exact Or.inl released_reset
  · exact fun s a s' hs _ hstep => hs.step hstep

end EthernetModule

/-- **Nothing is left behind.**  Let `s` be a state between calls.  If `initialize` fails, it has
released what it has acquired, in order; so have `initialize` and `deinitialize` together, whatever
events come in between.  All objects are null then, nothing is registered, and a later
`initialize` acquires and returns what the first one would, given the same results. -/
theorem ethernet_all_released (b : EthernetBoard) (s : EthernetModule)
    (h : (ethernetMachine b).Reachable s) (r : EthernetInitResults) :
    ((bmxEmbeddedEthernetInitialize b s r).1 ≠ espOk →
      ∃ as, (bmxEmbeddedEthernetInitialize b s r).2.log = s.log ++ as ∧ ReleasedInOrder as ∧
        (bmxEmbeddedEthernetInitialize b s r).2.Released) ∧
    (s.initialized = false → (bmxEmbeddedEthernetInitialize b s r).1 = espOk →
      ∀ (events : List EthernetEvent) (activeSockets : Option UInt32),
        activeSockets.any (· != 0) = false →
        ∃ as, (Esp32Mod.bmxEmbeddedEthernetDeinitialize (events.foldl bmxEthernetEventCallback
            (bmxEmbeddedEthernetInitialize b s r).2) activeSockets).2.log = s.log ++ as ∧
          ReleasedInOrder as ∧
          (Esp32Mod.bmxEmbeddedEthernetDeinitialize (events.foldl bmxEthernetEventCallback
            (bmxEmbeddedEthernetInitialize b s r).2) activeSockets).2.Released) ∧
    (s.initialized = false →
      (bmxEmbeddedEthernetInitialize b s r).1 = (bmxEmbeddedEthernetInitialize b ethernetReset r).1 ∧
      (bmxEmbeddedEthernetInitialize b s r).2.log =
        s.log ++ (bmxEmbeddedEthernetInitialize b ethernetReset r).2.log) := by
  have hsettled := EthernetModule.settled_of_reachable h
  obtain ⟨e, done, rest, horder, hspec⟩ := EthernetModule.initialize_spec b r
  refine ⟨?_, ?_, ?_⟩
  · intro herror
    rcases hsettled with hs | hs
    · have houtcome := hspec s hs
      rw [houtcome.result] at herror
      obtain ⟨hlog, hreleased⟩ := houtcome.failed herror
      exact ⟨_, hlog, EthernetModule.undone_released horder, hreleased⟩
    · unfold bmxEmbeddedEthernetInitialize at herror
      rw [if_pos hs.initialized] at herror
      exact absurd rfl herror
  · intro hdown hok events activeSockets hsockets
    have houtcome := hspec s (hsettled.released hdown)
    rw [houtcome.result] at hok
    obtain ⟨hlog, hworking⟩ := houtcome.worked hok
    obtain ⟨hlog', hinitialized, hhas⟩ :=
      EthernetModule.events_keep (s := (bmxEmbeddedEthernetInitialize b s r).2) events
    have hworking' : (events.foldl bmxEthernetEventCallback
        (bmxEmbeddedEthernetInitialize b s r).2).Working :=
      ⟨fun o => (hhas o).trans (hworking.objects o), hinitialized.trans hworking.initialized⟩
    obtain ⟨hdownlog, hreleased⟩ := hworking'.goDown hsockets
    refine ⟨EthernetModule.undone EthernetModule.acquireOrder, ?_,
      EthernetModule.undone_released (List.append_nil _).symm, hreleased⟩
    rw [hdownlog, hlog', hlog, List.append_assoc]
    rfl
  · intro hdown
    have houtcome := hspec s (hsettled.released hdown)
    have hfirst := hspec ethernetReset EthernetModule.released_reset
    refine ⟨houtcome.result.trans hfirst.result.symm, ?_⟩
    by_cases hok : e = espOk
    · rw [(houtcome.worked hok).1, (hfirst.worked hok).1]
      rfl
    · rw [(houtcome.failed hok).1, (hfirst.failed hok).1]
      rfl

/-- A board with the YT8531. -/
def yt8531Board : EthernetBoard := ⟨true⟩

/-- The last call of `initialize` fails. -/
def startFails : EthernetInitResults := { start := espFail }

theorem ethernet_all_released_start_fails : ∃ as,
    (bmxEmbeddedEthernetInitialize yt8531Board ethernetReset startFails).2.log = [] ++ as ∧
      ReleasedInOrder as ∧
      (bmxEmbeddedEthernetInitialize yt8531Board ethernetReset startFails).2.Released :=
  (ethernet_all_released yt8531Board ethernetReset (.init rfl) startFails).1 (by decide)

/-- **The handler instances stay**, since only the flags say that they are registered. -/
theorem ethernet_stale_handlers : ∃ b s r, (ethernetMachine b).Reachable s ∧
    (bmxEmbeddedEthernetInitialize b s r).1 ≠ espOk ∧
    ¬ (bmxEmbeddedEthernetInitialize b s r).2.AllNull := by
  refine ⟨yt8531Board, ethernetReset, startFails, .init rfl, by decide, ?_⟩
  intro hnull
  exact absurd hnull.eventHandler (by decide)

end Esp32Mod
