/-
Esp32Mod/EthernetLink.lean

What the Ethernet adapter reports of its link: the recorded status, speed and duplex mode, and
the events that carry them.

Main results:

* `ethernet_link_state` — status and details agree with the link in every run whose steps are all
  `LinkOrderly`, and every queued event carries what is recorded;
* `ethernet_link_step` — the condition is exact: any other step leaves a wrong record;
* `ethernet_link_state_broken` — an address that is reported after the link is lost.
-/
import Esp32Mod.Ethernet

namespace Esp32Mod

open StepMachine Machine FallibleSteps AcquireRelease RingBuffer

/-! ### The claim and its condition -/

namespace EthernetModule

/-- The record agrees with the link. -/
structure LinkSound (s : EthernetModule) : Prop where
  link : s.linkStatus = ethernetLinkConnected ∨ s.linkStatus = ethernetLinkNoIp ∨
    s.linkStatus = ethernetLinkUp → s.hasLink = true
  down : s.linkStatus = ethernetLinkDown → s.hasLink = false ∧ s.speed = 0 ∧ s.fullDuplex = 0

/-- An event that is added to the queue carries what is recorded then. -/
def Recorded (s s' : EthernetModule) : Prop :=
  ∀ e, s'.events.ring.contents = s.events.ring.contents ++ [e] →
    e.linkStatus = s'.linkStatus ∧ e.speed = s'.speed ∧ e.fullDuplex = s'.fullDuplex

end EthernetModule

/-- The condition on a step: an address is not reported without a link, and the link is not taken
down by a stop, of the driver or of the module, while details of it are recorded. -/
def LinkOrderly (s : EthernetModule) : EthernetCall → Prop
  | .event (.gotIp _ _) => s.hasLink = true
  | .event .stop => s.speed = 0 ∧ s.fullDuplex = 0
  | .down activeSockets => s.initialized = true → activeSockets.any (· != 0) = false →
    s.speed = 0 ∧ s.fullDuplex = 0
  | _ => True

namespace EthernetModule

variable {s s' : EthernetModule} {b : EthernetBoard}

/-! ### What the objects leave alone -/

/-- The part of the state that this module is about. -/
structure Link where
  hasLink : Bool
  linkStatus : Int32
  speed : Int32
  fullDuplex : Int32
  events : EthernetRing

/-- What the module knows of its link. -/
def link (s : EthernetModule) : Link :=
  ⟨s.hasLink, s.linkStatus, s.speed, s.fullDuplex, s.events⟩

theorem link_acquire (o : EthernetObject) : (s.acquire o).link = s.link := by
  cases o <;> rfl

theorem link_dropIf (c : Bool) (o : EthernetObject) :
    (if c then s.drop o else s).link = s.link := by
  split
  · cases o <;> rfl
  · rfl

theorem link_release : (bmxEthernetRelease s).link = s.link := by
  unfold bmxEthernetRelease
  dsimp only
  rw [link_dropIf, link_dropIf, link_dropIf, link_dropIf, link_dropIf, link_dropIf, link_dropIf,
    link_dropIf]

/-- The four values of the status. -/
structure Sound (s : EthernetModule) : Prop where
  sound : s.LinkSound
  status : s.linkStatus = ethernetLinkDown ∨ s.linkStatus = ethernetLinkConnected ∨
    s.linkStatus = ethernetLinkNoIp ∨ s.linkStatus = ethernetLinkUp

/-- Both depend on the link part alone. -/
theorem Sound.of_link (h : s.Sound) (hlink : s'.link = s.link) : s'.Sound := by
  obtain ⟨hhas, hstatus, hspeed, hduplex, -⟩ := Link.mk.inj hlink
  refine ⟨⟨?_, ?_⟩, ?_⟩
  · rw [hstatus, hhas]
    exact h.sound.link
  · rw [hstatus, hhas, hspeed, hduplex]
    exact h.sound.down
  · rw [hstatus]
    exact h.status

theorem Sound.of_down (hstatus : s.linkStatus = ethernetLinkDown) (hhas : s.hasLink = false)
    (hdetails : s.speed = 0 ∧ s.fullDuplex = 0) : s.Sound := by
  refine ⟨⟨?_, fun _ => ⟨hhas, hdetails⟩⟩, Or.inl hstatus⟩
  rw [hstatus]
  rintro (h | h | h) <;> exact absurd h (by decide)

theorem Sound.of_linked (hhas : s.hasLink = true)
    (hstatus : s.linkStatus = ethernetLinkConnected ∨ s.linkStatus = ethernetLinkNoIp ∨
      s.linkStatus = ethernetLinkUp) : s.Sound := by
  refine ⟨⟨fun _ => hhas, ?_⟩, Or.inr hstatus⟩
  intro hdown
  rw [hdown] at hstatus
  rcases hstatus with h | h | h <;> exact absurd h (by decide)

/-- Without a link the details are zero. -/
theorem Sound.details (h : s.Sound) (hhas : s.hasLink = false) :
    s.speed = 0 ∧ s.fullDuplex = 0 := by
  rcases h.status with hdown | hlinked
  · exact (h.sound.down hdown).2
  · exact absurd ((h.sound.link hlinked).symm.trans hhas) (by decide)

theorem sound_resetLink (s : EthernetModule) : s.resetLink.Sound :=
  .of_down rfl rfl ⟨rfl, rfl⟩

/-! ### Steps -/

theorem Sound.initialize (h : s.Sound) (r : EthernetInitResults) :
    (bmxEmbeddedEthernetInitialize b s r).2.Sound := by
  unfold bmxEmbeddedEthernetInitialize
  split
  · exact h
  split
  · exact h
  split
  · exact h
  split
  · exact h.of_link rfl
  have hrun : (run espOk (ethernetSteps b r) (s.acquire .mac)).2.Sound := by
    apply run_invariant Sound (h.of_link (link_acquire .mac))
    intro step hstep s hs
    simp only [ethernetSteps, List.mem_cons, List.not_mem_nil, or_false] at hstep
    rcases hstep with rfl | rfl | rfl | rfl | rfl | rfl | rfl | rfl | rfl | rfl
    all_goals first
      | exact hs.of_link (link_acquire _)
      | exact hs
      | exact sound_resetLink s
  dsimp only
  split
  · exact hrun.of_link link_release
  · exact hrun.of_link rfl

theorem refresh_hasLink (d : EthernetLinkDetails) :
    (bmxEthernetRefreshLinkDetails s d).hasLink = s.hasLink := by
  unfold bmxEthernetRefreshLinkDetails
  split <;> rfl

theorem Sound.callback (h : s.Sound) {e : EthernetEvent} (hok : LinkOrderly s (.event e)) :
    (bmxEthernetEventCallback s e).Sound := by
  cases e with
  | connected d => exact .of_linked (refresh_hasLink d) (Or.inl rfl)
  | disconnected => exact .of_down rfl rfl ⟨rfl, rfl⟩
  | stop => exact .of_down rfl rfl hok
  | gotIp d info => exact .of_linked ((refresh_hasLink d).trans hok) (Or.inr (Or.inr rfl))
  | lostIp =>
    rcases Bool.eq_false_or_eq_true s.hasLink with hhas | hhas
    · refine .of_linked hhas (Or.inr (Or.inl ?_))
      show (if s.hasLink then ethernetLinkNoIp else ethernetLinkDown) = ethernetLinkNoIp
      rw [hhas]
      rfl
    · refine .of_down ?_ hhas (h.details hhas)
      show (if s.hasLink then ethernetLinkNoIp else ethernetLinkDown) = ethernetLinkDown
      rw [hhas]
      rfl
  | otherEth | otherIp => exact h

theorem deinitialize_link {activeSockets : Option UInt32} (h : s.GoesDown activeSockets) :
    (Esp32Mod.bmxEmbeddedEthernetDeinitialize s activeSockets).2.link =
      ⟨false, ethernetLinkDown, s.speed, s.fullDuplex,
        { s.events with ring := s.events.ring.clear }⟩ := by
  obtain ⟨-, -, hspeed, hduplex, hevents⟩ := Link.mk.inj (link_release (s := s))
  rw [deinitialize_done h]
  show Link.mk false ethernetLinkDown (bmxEthernetRelease s).speed
    (bmxEthernetRelease s).fullDuplex { (bmxEthernetRelease s).events with
      ring := (bmxEthernetRelease s).events.ring.clear } = _
  rw [hspeed, hduplex, hevents]

theorem Sound.goDown (h : s.Sound) {activeSockets : Option UInt32}
    (hok : LinkOrderly s (.down activeSockets)) :
    (Esp32Mod.bmxEmbeddedEthernetDeinitialize s activeSockets).2.Sound := by
  by_cases hdown : s.GoesDown activeSockets
  · obtain ⟨hhas, hstatus, hspeed, hduplex, -⟩ := Link.mk.inj (deinitialize_link hdown)
    obtain ⟨hzero, hzero'⟩ := hok hdown.1 hdown.2
    exact .of_down hstatus hhas ⟨hspeed.trans hzero, hduplex.trans hzero'⟩
  · rw [deinitialize_refused hdown]
    exact h

theorem Sound.step (h : s.Sound) {a : EthernetCall} (hok : LinkOrderly s a)
    (hstep : (ethernetMachine b).step s a = some s') : s'.Sound := by
  rcases ethernetStep_cases hstep with ⟨r, rfl, rfl⟩ | ⟨activeSockets, rfl, rfl⟩ | ⟨e, rfl, rfl⟩
  · exact h.initialize r
  · exact h.goDown hok
  · exact h.callback hok

/-- A step that leaves a sound record has met the condition. -/
theorem orderly_of_sound {a : EthernetCall} (hstep : (ethernetMachine b).step s a = some s')
    (h' : s'.LinkSound) : LinkOrderly s a := by
  rcases ethernetStep_cases hstep with ⟨r, rfl, rfl⟩ | ⟨activeSockets, rfl, rfl⟩ | ⟨e, rfl, rfl⟩
  · trivial
  · intro hup hsockets
    obtain ⟨-, hstatus, hspeed, hduplex, -⟩ := Link.mk.inj (deinitialize_link ⟨hup, hsockets⟩)
    obtain ⟨-, hzero, hzero'⟩ := h'.down hstatus
    exact ⟨hspeed.symm.trans hzero, hduplex.symm.trans hzero'⟩
  · cases e with
    | stop => exact (h'.down rfl).2
    | gotIp d info => exact (refresh_hasLink d).symm.trans (h'.link (Or.inr (Or.inr rfl)))
    | _ => trivial

/-! ### Queued events -/

/-- A queue that does not grow records nothing. -/
theorem Recorded.of_kept (h : s'.events.ring.contents = s.events.ring.contents ∨
    s'.events.ring.contents = []) : s.Recorded s' := by
  intro e he
  rcases h with h | h <;> rw [h] at he <;> simp at he

theorem recorded_queueState (s₀ : EthernetModule) (status : Int32) (info : Option EthernetIpInfo)
    (hevents : s₀.events = s.events) : s.Recorded (bmxEthernetQueueState s₀ status info) := by
  intro e he
  have hpost : (s₀.events.post (ethernetStateEvent s₀ status info)).2.ring.contents =
      s.events.ring.contents ++ [e] := he
  rw [← hevents] at hpost
  by_cases hfull : s₀.events.ring.contents.length < bmxEthernetEventCapacity.size.toNat
  -- the event that is stored is the last of the queue
  · rw [(s₀.events.post_of_lt _ hfull).2.1] at hpost
    obtain rfl := (List.cons.inj (List.append_cancel_left hpost)).1
    exact ⟨rfl, rfl, rfl⟩
  -- a full queue does not grow
  · have hlength := Nat.le_antisymm s₀.events.ring.length_contents_le (Nat.le_of_not_lt hfull)
    rw [s₀.events.post_of_full _ hlength] at hpost
    simp at hpost

theorem refresh_events (d : EthernetLinkDetails) :
    (bmxEthernetRefreshLinkDetails s d).events = s.events := by
  unfold bmxEthernetRefreshLinkDetails
  split <;> rfl

theorem recorded_callback (s : EthernetModule) (e : EthernetEvent) :
    s.Recorded (bmxEthernetEventCallback s e) := by
  cases e with
  | connected d => exact recorded_queueState _ _ _ (refresh_events d)
  | disconnected => exact recorded_queueState _ _ _ rfl
  | stop => exact recorded_queueState _ _ _ rfl
  | gotIp d info => exact recorded_queueState _ _ _ (refresh_events d)
  | lostIp => exact recorded_queueState _ _ _ rfl
  | otherEth | otherIp => exact .of_kept (Or.inl rfl)

theorem recorded_initialize (b : EthernetBoard) (s : EthernetModule) (r : EthernetInitResults) :
    s.Recorded (bmxEmbeddedEthernetInitialize b s r).2 := by
  apply Recorded.of_kept
  unfold bmxEmbeddedEthernetInitialize
  split
  · exact Or.inl rfl
  split
  · exact Or.inl rfl
  split
  · exact Or.inl rfl
  split
  · exact Or.inl rfl
  have hrun : (run espOk (ethernetSteps b r) (s.acquire .mac)).2.link.events.ring.contents =
        s.events.ring.contents ∨
      (run espOk (ethernetSteps b r) (s.acquire .mac)).2.link.events.ring.contents = [] := by
    apply run_invariant fun x : EthernetModule =>
      x.link.events.ring.contents = s.events.ring.contents ∨ x.link.events.ring.contents = []
    · rw [link_acquire]
      exact Or.inl rfl
    · intro step hstep x hx
      simp only [ethernetSteps, List.mem_cons, List.not_mem_nil, or_false] at hstep
      rcases hstep with rfl | rfl | rfl | rfl | rfl | rfl | rfl | rfl | rfl | rfl
      all_goals first
        | exact hx
        | exact Or.inr (Ring.contents_clear _)
  dsimp only
  split
  · rw [← link_release (s := (run espOk (ethernetSteps b r) (s.acquire .mac)).2)] at hrun
    exact hrun
  · exact hrun

theorem recorded_deinitialize (s : EthernetModule) (activeSockets : Option UInt32) :
    s.Recorded (Esp32Mod.bmxEmbeddedEthernetDeinitialize s activeSockets).2 := by
  apply Recorded.of_kept
  by_cases hdown : s.GoesDown activeSockets
  · obtain ⟨-, -, -, -, hevents⟩ := Link.mk.inj (deinitialize_link hdown)
    right
    rw [hevents]
    exact Ring.contents_clear _
  · rw [deinitialize_refused hdown]
    exact Or.inl rfl

theorem recorded_step {a : EthernetCall} (hstep : (ethernetMachine b).step s a = some s') :
    s.Recorded s' := by
  rcases ethernetStep_cases hstep with ⟨r, rfl, rfl⟩ | ⟨activeSockets, rfl, rfl⟩ | ⟨e, rfl, rfl⟩
  · exact recorded_initialize b s r
  · exact recorded_deinitialize s activeSockets
  · exact recorded_callback s e

theorem sound_of_reachable (h : (ethernetMachine b).ReachableIn LinkOrderly s) : s.Sound := by
  apply h.invariant (I := Sound)
  · rintro s rfl
    exact .of_down rfl rfl ⟨rfl, rfl⟩
  · exact fun s a s' hs hok hstep => hs.step hok hstep

end EthernetModule

/-- **The record agrees with the link** in every run that is orderly, and every event that a step
adds to the queue carries the status, the speed and the duplex mode recorded by that step. -/
theorem ethernet_link_state (b : EthernetBoard) (s : EthernetModule)
    (h : (ethernetMachine b).ReachableIn LinkOrderly s) :
    s.LinkSound ∧ ∀ a s', (ethernetMachine b).step s a = some s' → s.Recorded s' :=
  ⟨(EthernetModule.sound_of_reachable h).sound, fun _ _ => EthernetModule.recorded_step⟩

/-- **The condition is exact**: after an orderly run, a step leaves a sound record if and only if
it is orderly too. -/
theorem ethernet_link_step {b : EthernetBoard} {s s' : EthernetModule} {a : EthernetCall}
    (h : (ethernetMachine b).ReachableIn LinkOrderly s)
    (hstep : (ethernetMachine b).step s a = some s') : s'.LinkSound ↔ LinkOrderly s a :=
  ⟨EthernetModule.orderly_of_sound hstep,
    fun hok => ((EthernetModule.sound_of_reachable h).step hok hstep).sound⟩

/-- The driver answers every query. -/
def fullGigabit : EthernetLinkDetails := ⟨some .speed1000M, some true, none⟩

theorem ethernet_link_state_connected : ∃ s : EthernetModule,
    s.linkStatus = ethernetLinkUp ∧ s.speed = 1000 ∧ s.LinkSound ∧
      ∀ a s', (ethernetMachine ⟨false⟩).step s a = some s' → s.Recorded s' := by
  refine ⟨_, ?_, ?_, ethernet_link_state ⟨false⟩ _ (.step (a := .event (.gotIp fullGigabit none))
    (.step (a := .event (.connected fullGigabit)) (.step (a := .up {}) (.init rfl) ?_ rfl)
      ?_ rfl) ?_ rfl)⟩
  · rfl
  · rfl
  · trivial
  · trivial
  · rfl

/-- The link is lost before the event with its address is delivered. -/
theorem ethernet_link_state_broken : ∃ b s, (ethernetMachine b).Reachable s ∧ ¬ s.LinkSound := by
  obtain ⟨s, hs, hbroken⟩ := exists_reachable_of_run (M := ethernetMachine ⟨false⟩)
    [.up {}, .event (.connected fullGigabit), .event .disconnected,
      .event (.gotIp fullGigabit none)]
    (fun s : EthernetModule => decide (s.linkStatus = ethernetLinkUp ∧ s.hasLink = false))
    rfl (by decide)
  refine ⟨⟨false⟩, s, hs, ?_⟩
  obtain ⟨hstatus, hhas⟩ := of_decide_eq_true hbroken
  intro hsound
  have hlink := hsound.link (Or.inr (Or.inr hstatus))
  rw [hhas] at hlink
  cases hlink

end Esp32Mod
