/-
Esp32Mod/Ethernet.lean

The Ethernet adapter (`network.mod/ethernet.mod/native/esp32_ethernet.c`): bringing it up and
down, and the callback for link and IP events.

A pointer is modelled by whether it is null.  The log lists what the module has acquired and
released; a call that fails acquires nothing, and the release calls succeed.  Callbacks run
between the calls and only for events whose handler is registered; the event loop may deliver
them in any order.  The configuration that goes to the driver is left out.
-/
import Esp32Mod.AcquireRelease
import Esp32Mod.Errors
import Esp32Mod.EventRings
import Esp32Mod.FallibleSteps
import Esp32Mod.StepMachine

namespace Esp32Mod

open StepMachine Machine FallibleSteps AcquireRelease RingBuffer

/-! ### What the module acquires -/

/-- What an initialization sets up. -/
inductive EthernetObject
  | mac | phy | driver | netif | glue | ethHandler | ipHandler | started
  deriving DecidableEq

/-- What an object rests on. -/
def EthernetObject.needs : EthernetObject → List EthernetObject
  | mac | phy | netif => []
  | driver => [mac, phy]
  | glue => [driver, netif]
  | ethHandler | ipHandler => [driver, netif]
  | started => [driver]

/-- The static variables, without the spinlock. -/
structure EthernetModule where
  netif : Bool
  handle : Bool
  mac : Bool
  phy : Bool
  glue : Bool
  /-- the two handler instances, which are meaningful while they are registered -/
  eventHandler : Bool
  ipHandler : Bool
  eventRegistered : Bool
  ipRegistered : Bool
  started : Bool
  initialized : Bool
  hasLink : Bool
  linkStatus : Int32
  speed : Int32
  fullDuplex : Int32
  macAddress : Vector UInt8 6
  events : EthernetRing
  log : List (Action EthernetObject)

namespace EthernetModule

/-- The object is there. -/
def has (s : EthernetModule) : EthernetObject → Bool
  | .mac => s.mac
  | .phy => s.phy
  | .driver => s.handle
  | .netif => s.netif
  | .glue => s.glue
  | .ethHandler => s.eventRegistered
  | .ipHandler => s.ipRegistered
  | .started => s.started

/-- The call has succeeded, and its result is stored. -/
def acquire (s : EthernetModule) (o : EthernetObject) : EthernetModule :=
  let s := { s with log := s.log ++ [Action.acquire o] }
  match o with
  | .mac => { s with mac := true }
  | .phy => { s with phy := true }
  | .driver => { s with handle := true }
  | .netif => { s with netif := true }
  | .glue => { s with glue := true }
  | .ethHandler => { s with eventHandler := true, eventRegistered := true }
  | .ipHandler => { s with ipHandler := true, ipRegistered := true }
  | .started => { s with started := true }

/-- Release the object, and clear the variable that stands for it. -/
def drop (s : EthernetModule) (o : EthernetObject) : EthernetModule :=
  let s := { s with log := s.log ++ [Action.release o] }
  match o with
  | .mac => { s with mac := false }
  | .phy => { s with phy := false }
  | .driver => { s with handle := false }
  | .netif => { s with netif := false }
  | .glue => { s with glue := false }
  | .ethHandler => { s with eventRegistered := false }
  | .ipHandler => { s with ipRegistered := false }
  | .started => { s with started := false }

end EthernetModule

/-! ### The link -/

/-- `BMX_ETHERNET_LINK_STATE`. -/
def ethernetLinkState : Int32 := 1

/-- The states of the link. -/
def ethernetLinkDown : Int32 := 0
def ethernetLinkConnected : Int32 := 1
def ethernetLinkNoIp : Int32 := 2
def ethernetLinkUp : Int32 := 3

/-- `eth_speed_t`; `max` stands for every other value. -/
inductive EthSpeed
  | speed10M | speed100M | speed1000M | max

/-- 0 for a speed that there is not. -/
def bmxEthernetSpeedMbps : EthSpeed → Int32
  | .speed10M => 10
  | .speed100M => 100
  | .speed1000M => 1000
  | .max => 0

/-- The answers to the three queries of the driver: `none` where the query fails, and for the
address where nothing is written. -/
structure EthernetLinkDetails where
  speed : Option EthSpeed
  fullDuplex : Option Bool
  macAddress : Option (Vector UInt8 6)

/-- What the driver tells, and otherwise what was known. -/
def bmxEthernetRefreshLinkDetails (s : EthernetModule) (d : EthernetLinkDetails) :
    EthernetModule :=
  if s.handle = false then s
  else
    { s with
      speed := (d.speed.map bmxEthernetSpeedMbps).getD s.speed
      fullDuplex := (d.fullDuplex.map fun full => if full then 1 else 0).getD s.fullDuplex
      macAddress := d.macAddress.getD s.macAddress }

/-- The address of the interface. -/
structure EthernetIpInfo where
  ip : UInt32
  netmask : UInt32
  gw : UInt32

/-- The event that `bmx_ethernet_queue_state` builds. -/
def ethernetStateEvent (s : EthernetModule) (status : Int32) (info : Option EthernetIpInfo) :
    BMXEthernetEvent where
  kind := ethernetLinkState
  linkStatus := status
  address := info.elim 0 EthernetIpInfo.ip
  netmask := info.elim 0 EthernetIpInfo.netmask
  gateway := info.elim 0 EthernetIpInfo.gw
  mac := s.macAddress
  speed := s.speed
  fullDuplex := s.fullDuplex

/-- The state changes, and an event tells so. -/
def bmxEthernetQueueState (s : EthernetModule) (status : Int32) (info : Option EthernetIpInfo) :
    EthernetModule :=
  { s with
    linkStatus := status
    events := (bmxEthernetQueue (ethernetStateEvent s status info) s.events).2 }

/-- The events of `ETH_EVENT` and `IP_EVENT`; for a connection and an address, what the driver
then answers.  The last of each are the identifiers without a case. -/
inductive EthernetEvent
  | connected (d : EthernetLinkDetails)
  | disconnected
  | stop
  | otherEth
  | gotIp (d : EthernetLinkDetails) (info : Option EthernetIpInfo)
  | lostIp
  | otherIp

/-- The handler of the events of the driver and of the network interface. -/
def bmxEthernetEventCallback (s : EthernetModule) : EthernetEvent → EthernetModule
  | .connected d =>
    bmxEthernetQueueState (bmxEthernetRefreshLinkDetails { s with hasLink := true } d)
      ethernetLinkConnected none
  | .disconnected =>
    bmxEthernetQueueState { s with hasLink := false, speed := 0, fullDuplex := 0 }
      ethernetLinkDown none
  -- the details stay, unlike above
  | .stop => bmxEthernetQueueState { s with hasLink := false } ethernetLinkDown none
  -- without a look at `hasLink`
  | .gotIp d info =>
    bmxEthernetQueueState (bmxEthernetRefreshLinkDetails s d) ethernetLinkUp info
  | .lostIp =>
    bmxEthernetQueueState s (if s.hasLink then ethernetLinkNoIp else ethernetLinkDown) none
  | .otherEth | .otherIp => s

/-! ### Down -/

/-- What there is goes, the last one first. -/
def bmxEthernetRelease (s : EthernetModule) : EthernetModule :=
  let s := if s.started && s.handle then s.drop .started else s
  let s := if s.ipRegistered then s.drop .ipHandler else s
  let s := if s.eventRegistered then s.drop .ethHandler else s
  let s := if s.glue then s.drop .glue else s
  let s := if s.netif then s.drop .netif else s
  let s := if s.handle then s.drop .driver else s
  let s := if s.mac then s.drop .mac else s
  if s.phy then s.drop .phy else s

/-- `activeSockets` is `none` without the network module. -/
def bmxEmbeddedEthernetDeinitialize (s : EthernetModule) (activeSockets : Option UInt32) :
    EspErr × EthernetModule :=
  if s.initialized = false then (espOk, s)
  else if activeSockets.any (· != 0) then (espErrInvalidState, s)
  else
    let s := bmxEthernetRelease s
    -- the speed, the duplex mode and the count of dropped events stay
    (espOk, { s with
      initialized := false
      hasLink := false
      linkStatus := ethernetLinkDown
      events := { s.events with ring := s.events.ring.clear } })

/-! ### Up -/

/-- The PHY of the board is a YT8531, which has to be set up. -/
structure EthernetBoard where
  phyYt8531 : Bool

/-- The results of the seven requests to the PHY: its extended registers are selected, read and
written. -/
structure Yt8531Results where
  autoNegotiation : EspErr := espOk
  selectA001 : EspErr := espOk
  readA001 : EspErr := espOk
  writeA001 : EspErr := espOk
  selectA003 : EspErr := espOk
  readA003 : EspErr := espOk
  writeA003 : EspErr := espOk

/-- The registers of the PHY, up to the first access that fails. -/
def bmxEthernetInitializeYt8531 (r : Yt8531Results) : EspErr :=
  (run espOk [check r.autoNegotiation, check r.selectA001, check r.readA001, check r.writeA001,
    check r.selectA003, check r.readA003, check r.writeA003] ()).1

/-- The results of the calls of `initialize`; the four objects that are returned as pointers are
there or null. -/
structure EthernetInitResults where
  netifInit : EspErr := espOk
  eventLoop : EspErr := espOk
  mac : Bool := true
  phy : Bool := true
  driverInstall : EspErr := espOk
  yt8531 : Yt8531Results := {}
  netif : Bool := true
  glue : Bool := true
  attach : EspErr := espOk
  registerEth : EspErr := espOk
  registerIp : EspErr := espOk
  start : EspErr := espOk

/-- The link and the event queue before the driver starts. -/
def EthernetModule.resetLink (s : EthernetModule) : EthernetModule :=
  { s with
    events := ⟨s.events.ring.clear, 0⟩
    hasLink := false
    linkStatus := ethernetLinkDown
    speed := 0
    fullDuplex := 0
    macAddress := Vector.replicate 6 0 }

/-- A step that acquires an object. -/
def acquiring (o : EthernetObject) (result : EspErr) : Step EspErr EthernetModule :=
  ⟨result, fun s => s.acquire o⟩

/-- A null pointer is reported as a lack of memory. -/
def nullResult (created : Bool) : EspErr := if created then espOk else espErrNoMem

/-- From the PHY to the start. -/
def ethernetSteps (b : EthernetBoard) (r : EthernetInitResults) :
    List (Step EspErr EthernetModule) :=
  [acquiring .phy (nullResult r.phy),
   acquiring .driver r.driverInstall,
   check (if b.phyYt8531 then bmxEthernetInitializeYt8531 r.yt8531 else espOk),
   acquiring .netif (nullResult r.netif),
   acquiring .glue (nullResult r.glue),
   check r.attach,
   acquiring .ethHandler r.registerEth,
   acquiring .ipHandler r.registerIp,
   ⟨espOk, EthernetModule.resetLink⟩,
   acquiring .started r.start]

/-- What a step has set up is released when a later one fails. -/
def bmxEmbeddedEthernetInitialize (b : EthernetBoard) (s : EthernetModule)
    (r : EthernetInitResults) : EspErr × EthernetModule :=
  if s.initialized then (espOk, s)
  else if notDone r.netifInit then (r.netifInit, s)
  else if notDone r.eventLoop then (r.eventLoop, s)
  else if r.mac = false then (espFail, { s with mac := false })
  else
    -- from here on an error releases what is there
    let up := run espOk (ethernetSteps b r) (s.acquire .mac)
    if up.1 ≠ espOk then (up.1, bmxEthernetRelease up.2)
    else (espOk, { up.2 with initialized := true })

/-! ### Runs of calls and callbacks -/

/-- The calls of the application, and the events. -/
inductive EthernetCall
  | up (r : EthernetInitResults)
  | down (activeSockets : Option UInt32)
  | event (e : EthernetEvent)

/-- The handler of the event is registered. -/
def EthernetEvent.Delivered (s : EthernetModule) : EthernetEvent → Bool
  | connected _ | disconnected | stop | otherEth => s.eventRegistered
  | gotIp _ _ | lostIp | otherIp => s.ipRegistered

/-- An event comes only from what is there. -/
def ethernetStep (b : EthernetBoard) (s : EthernetModule) : EthernetCall → Option EthernetModule
  | .up r => some (bmxEmbeddedEthernetInitialize b s r).2
  | .down activeSockets => some (Esp32Mod.bmxEmbeddedEthernetDeinitialize s activeSockets).2
  | .event e => if e.Delivered s then some (bmxEthernetEventCallback s e) else none

/-- The static variables before the first call. -/
def ethernetReset : EthernetModule where
  netif := false
  handle := false
  mac := false
  phy := false
  glue := false
  eventHandler := false
  ipHandler := false
  eventRegistered := false
  ipRegistered := false
  started := false
  initialized := false
  hasLink := false
  linkStatus := ethernetLinkDown
  speed := 0
  fullDuplex := 0
  macAddress := Vector.replicate 6 0
  events := ⟨Ring.empty _, 0⟩
  log := []

/-- Calls and events, in any order. -/
def ethernetMachine (b : EthernetBoard) : Machine EthernetModule EthernetCall where
  init s := s = ethernetReset
  step := ethernetStep b

/-- What a step is: one of the two calls, or the callback. -/
theorem ethernetStep_cases {b : EthernetBoard} {s s' : EthernetModule} {a : EthernetCall}
    (h : (ethernetMachine b).step s a = some s') :
    (∃ r, a = .up r ∧ s' = (bmxEmbeddedEthernetInitialize b s r).2) ∨
    (∃ activeSockets, a = .down activeSockets ∧
      s' = (Esp32Mod.bmxEmbeddedEthernetDeinitialize s activeSockets).2) ∨
    ∃ e, a = .event e ∧ s' = bmxEthernetEventCallback s e := by
  cases a with
  | up r => exact Or.inl ⟨r, rfl, (Option.some.inj h).symm⟩
  | down activeSockets => exact Or.inr (Or.inl ⟨activeSockets, rfl, (Option.some.inj h).symm⟩)
  | event e =>
    simp only [ethernetMachine, ethernetStep] at h
    split at h
    · exact Or.inr (Or.inr ⟨e, rfl, (Option.some.inj h).symm⟩)
    · cases h

namespace EthernetModule

variable {s : EthernetModule} {activeSockets : Option UInt32}

/-- `deinitialize` is carried out. -/
def GoesDown (s : EthernetModule) (activeSockets : Option UInt32) : Prop :=
  s.initialized = true ∧ activeSockets.any (· != 0) = false

theorem deinitialize_refused (h : ¬ s.GoesDown activeSockets) :
    (Esp32Mod.bmxEmbeddedEthernetDeinitialize s activeSockets).2 = s := by
  unfold bmxEmbeddedEthernetDeinitialize
  split
  · rfl
  next hup =>
  rw [if_pos]
  rw [← Bool.not_eq_false]
  exact fun hsockets => h ⟨Bool.not_eq_false _ ▸ hup, hsockets⟩

theorem deinitialize_done (h : s.GoesDown activeSockets) :
    (Esp32Mod.bmxEmbeddedEthernetDeinitialize s activeSockets).2 =
      { bmxEthernetRelease s with
        initialized := false
        hasLink := false
        linkStatus := ethernetLinkDown
        events := { (bmxEthernetRelease s).events with
          ring := (bmxEthernetRelease s).events.ring.clear } } := by
  unfold bmxEmbeddedEthernetDeinitialize
  rw [if_neg (by rw [h.1]; decide), if_neg (by rw [h.2]; decide)]

end EthernetModule

end Esp32Mod
