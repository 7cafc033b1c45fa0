/-
Esp32Mod/GpioInterrupt.lean

Pin interrupts (`runtime.mod/native/esp32_gpio.c`).  Which events an interrupt means is read from a
mask in memory, what makes the pin interrupt is set in the hardware, and the handler and the enable
bit are two more pieces of state; `set_irq_enabled` changes the four one after the other.

Every driver call and every critical section is a step.  A driver call that fails changes nothing.
One that succeeds does what it is for; besides, adding a handler may enable the pin interrupt, and
removing one may disable it.  The interrupt runs between any two steps, on a pin that is live:
enabled, with the handler installed.

The disable path switches the interrupt off before it clears the mask.  The enable path changes the
type of a pin that may be live still, and clears the mask of one whose handler it could not replace;
`Quiet` is the condition that neither meets a live pin that the change makes wrong.

The log is not in the source: each interrupt with the type that was armed when it fired, and each
take.

Main results:

* `gpio_attribution` — in every quiet run an interrupt reports events of the armed mask; what is
  recorded is taken once; and a step that is not quiet lets the next interrupt report others;
* `gpio_attribution_rearmed` — a live pin is armed for the other edge.
-/
import Esp32Mod.StepMachine
import Esp32Mod.Errors
import Mathlib.Data.Nat.Bitwise

namespace Esp32Mod

open StepMachine Machine

/-! ### The source -/

/-- The bits of an event mask. -/
def irqLevelLow : UInt32 := 1
def irqLevelHigh : UInt32 := 2
def irqEdgeFall : UInt32 := 4
def irqEdgeRise : UInt32 := 8

/-- `gpio_int_type_t`. -/
inductive GpioIntType
  | disable
  | posEdge
  | negEdge
  | anyEdge
  | lowLevel
  | highLevel
  | max
  deriving DecidableEq

/-- The type that a mask arms; `GPIO_INTR_MAX` for one that no type serves. -/
def bmxEsp32GpioInterruptType (eventMask : UInt32) : GpioIntType :=
  if eventMask = irqLevelLow then .lowLevel
  else if eventMask = irqLevelHigh then .highLevel
  else if eventMask = irqEdgeFall then .negEdge
  else if eventMask = irqEdgeRise then .posEdge
  else if eventMask = irqEdgeFall ||| irqEdgeRise then .anyEdge
  else .max

/-- The pins of the chip: `GPIO_NUM_MAX`, and those that `bmx_embedded_gpio_is_valid` accepts. -/
structure GpioPins where
  numMax : UInt32
  isValid : UInt32 → Bool
  lt_numMax : ∀ gpio, isValid gpio = true → gpio < numMax

/-- A pin: its type, handler and enable bit in the hardware, and its entries in the static arrays
`bmx_esp32_gpio_irq_masks`, `_irq_events` and `_event_tokens`. -/
structure GpioPin where
  intrType : GpioIntType
  handler : Bool
  enabled : Bool
  mask : UInt32
  events : UInt32
  token : UInt32

/-- The pin interrupts. -/
def GpioPin.Live (p : GpioPin) : Prop := p.handler = true ∧ p.enabled = true

instance (p : GpioPin) : Decidable p.Live := inferInstanceAs (Decidable (_ ∧ _))

/-- The arguments of `bmx_embedded_event_post_from_isr_ex`. -/
structure GpioPost where
  token : UInt32
  eventData : UInt32
  gpio : UInt32
  timeLow : UInt32
  timeHigh : UInt32

/-- The events that an interrupt stands for; `level` is what `gpio_get_level` reads. -/
def gpioInterruptEvents (eventMask : UInt32) (level : Bool) : UInt32 :=
  if eventMask = irqEdgeFall ||| irqEdgeRise then if level then irqEdgeRise else irqEdgeFall
  else eventMask

/-- The handler: what it ors into the events of the pin, and what it posts. -/
def bmxEsp32GpioInterrupt (gpio : UInt32) (level : Bool) (time : UInt64) (p : GpioPin) :
    UInt32 × GpioPost × GpioPin :=
  let events := gpioInterruptEvents p.mask level
  (events, ⟨p.token, events, gpio, time.toUInt32, (time >>> 32).toUInt32⟩,
    { p with events := p.events ||| events })

/-- A token is set once, or taken back. -/
def bmxEmbeddedGpioSetEventToken (token : UInt32) (p : GpioPin) : Int32 × GpioPin :=
  if token ≠ 0 ∧ p.token ≠ 0 ∧ p.token ≠ token then (0, p) else (1, { p with token })

/-- Read and clear in one critical section. -/
def bmxEmbeddedGpioTakeIrqEvents (p : GpioPin) : UInt32 × GpioPin :=
  (p.events, { p with events := 0 })

/-! ### The system -/

/-- The next step of `bmx_embedded_gpio_set_irq_enabled`, and what it is going to return where that
is settled. -/
inductive GpioPc
  | idle
  | intrDisable (gpio : UInt32)
  | installIsrService (gpio eventMask : UInt32)
  | setIntrType (gpio eventMask : UInt32)
  | storeMask (gpio eventMask : UInt32)
  | isrHandlerAdd (gpio eventMask : UInt32)
  | intrEnable (gpio eventMask : UInt32)
  | isrHandlerRemove (gpio : UInt32) (result : Int32)
  | clearMask (gpio : UInt32) (result : Int32)

/-- An interrupt, with what it recorded and posted. -/
structure GpioFired where
  gpio : UInt32
  /-- The type of the pin when it fired. -/
  armed : GpioIntType
  recorded : UInt32
  post : GpioPost

/-- What the log keeps. -/
inductive GpioEntry
  | fired (f : GpioFired)
  | taken (gpio events : UInt32)

/-- The pins, the call of the application and what has happened. -/
structure GpioSystem where
  pin : UInt32 → GpioPin
  isrServiceReady : Bool
  pc : GpioPc
  returned : Int32
  log : List GpioEntry

/-- The steps of the application and of the hardware. -/
inductive GpioAction
  | setIrqEnabled (gpio eventMask : UInt32) (enabled : Bool)
  /-- The next driver call, with its result and whether it switches the pin interrupt besides; or the
  next critical section. -/
  | proceed (result : EspErr) (switches : Bool)
  | setEventToken (gpio token : UInt32)
  | takeIrqEvents (gpio : UInt32)
  | interrupt (gpio : UInt32) (level : Bool) (time : UInt64)

namespace GpioSystem

/-- Write the record of a pin. -/
def setPin (s : GpioSystem) (gpio : UInt32) (p : GpioPin) : GpioSystem :=
  { s with pin := Function.update s.pin gpio p }

@[simp] theorem setPin_self (s : GpioSystem) (gpio : UInt32) (p : GpioPin) :
    (s.setPin gpio p).pin gpio = p :=
  Function.update_self ..

theorem setPin_of_ne (s : GpioSystem) {gpio other : UInt32} (p : GpioPin) (h : other ≠ gpio) :
    (s.setPin gpio p).pin other = s.pin other :=
  Function.update_of_ne h ..

/-- The call goes on. -/
def goto (s : GpioSystem) (pc : GpioPc) : GpioSystem := { s with pc }

/-- The call returns. -/
def ret (s : GpioSystem) (returned : Int32) : GpioSystem := { s with pc := .idle, returned }

/-- `bmx_embedded_gpio_set_irq_enabled` up to its first driver call. -/
def bmxEmbeddedGpioSetIrqEnabled (pins : GpioPins) (s : GpioSystem) (gpio eventMask : UInt32)
    (enabled : Bool) : GpioSystem :=
  if pins.isValid gpio = false ∨ eventMask = 0 ∨ bmxEsp32GpioInterruptType eventMask = .max then
    s.ret 0
  else if enabled = false then s.goto (.intrDisable gpio)
  else if s.isrServiceReady = false then s.goto (.installIsrService gpio eventMask)
  else s.goto (.setIntrType gpio eventMask)

/-- The rest of it, one step. -/
def proceed (s : GpioSystem) (result : EspErr) (switches : Bool) : Option GpioSystem :=
  match s.pc with
  | .idle => none
  | .intrDisable gpio =>
    if result ≠ espOk then some (s.ret 0)
    else some ((s.setPin gpio { s.pin gpio with enabled := false }).goto
      (if s.isrServiceReady then .isrHandlerRemove gpio 1 else .clearMask gpio 1))
  | .installIsrService gpio eventMask =>
    if notDone result then some (s.ret 0)
    else some ({ s with isrServiceReady := true }.goto (.setIntrType gpio eventMask))
  | .setIntrType gpio eventMask =>
    if result ≠ espOk then some (s.ret 0)
    else some ((s.setPin gpio { s.pin gpio with
      intrType := bmxEsp32GpioInterruptType eventMask }).goto (.storeMask gpio eventMask))
  | .storeMask gpio eventMask =>
    some ((s.setPin gpio { s.pin gpio with mask := eventMask }).goto
      (.isrHandlerAdd gpio eventMask))
  | .isrHandlerAdd gpio eventMask =>
    if result ≠ espOk then some (s.goto (.clearMask gpio 0))
    else some ((s.setPin gpio { s.pin gpio with
      handler := true, enabled := (s.pin gpio).enabled || switches }).goto
        (.intrEnable gpio eventMask))
  | .intrEnable gpio _ =>
    if result = espOk then some ((s.setPin gpio { s.pin gpio with enabled := true }).ret 1)
    else some (s.goto (.isrHandlerRemove gpio 0))
  | .isrHandlerRemove gpio returned =>
    if result ≠ espOk then some (s.goto (.clearMask gpio returned))
    else some ((s.setPin gpio { s.pin gpio with
      handler := false, enabled := (s.pin gpio).enabled && !switches }).goto
        (.clearMask gpio returned))
  | .clearMask gpio returned =>
    some ((s.setPin gpio { s.pin gpio with mask := 0 }).ret returned)

/-- The handler, for an interrupt that the hardware can raise. -/
def interrupt (pins : GpioPins) (s : GpioSystem) (gpio : UInt32) (level : Bool) (time : UInt64) :
    GpioSystem :=
  if pins.numMax ≤ gpio then s
  else
    let (recorded, post, p) := bmxEsp32GpioInterrupt gpio level time (s.pin gpio)
    { s.setPin gpio p with log := .fired ⟨gpio, (s.pin gpio).intrType, recorded, post⟩ :: s.log }

/-- A call starts when there is none; an interrupt comes at any time. -/
def step (pins : GpioPins) (s : GpioSystem) : GpioAction → Option GpioSystem
  | .setIrqEnabled gpio eventMask enabled =>
    match s.pc with
    | .idle => some (s.bmxEmbeddedGpioSetIrqEnabled pins gpio eventMask enabled)
    | _ => none
  | .proceed result switches => s.proceed result switches
  | .setEventToken gpio token =>
    match s.pc with
    | .idle =>
      if pins.isValid gpio = false then some (s.ret 0)
      else
        let (returned, p) := bmxEmbeddedGpioSetEventToken token (s.pin gpio)
        some ((s.setPin gpio p).ret returned)
    | _ => none
  | .takeIrqEvents gpio =>
    match s.pc with
    | .idle =>
      if pins.isValid gpio = false then some s
      else
        let (events, p) := bmxEmbeddedGpioTakeIrqEvents (s.pin gpio)
        some { s.setPin gpio p with log := .taken gpio events :: s.log }
    | _ => none
  | .interrupt gpio level time =>
    if (s.pin gpio).Live ∧ (s.pin gpio).intrType ≠ .disable then
      some (s.interrupt pins gpio level time)
    else none

/-- No live pin gets a type that its mask is no part of, or loses its mask. -/
def Quiet (s : GpioSystem) : GpioAction → Prop
  | .proceed result _ =>
    match s.pc with
    | .setIntrType gpio eventMask =>
      result = espOk → (s.pin gpio).Live → (s.pin gpio).mask &&& eventMask = (s.pin gpio).mask
    | .clearMask gpio _ => ¬ (s.pin gpio).Live
    | _ => True
  | _ => True

end GpioSystem

/-- No pin is armed. -/
def gpioBoot : GpioSystem :=
  ⟨fun _ => ⟨.disable, false, false, 0, 0, 0⟩, false, .idle, 0, []⟩

/-- Calls of the application, between whose steps interrupts come. -/
def gpioMachine (pins : GpioPins) : Machine GpioSystem GpioAction where
  init s := s = gpioBoot
  step := GpioSystem.step pins

/-! ### What an interrupt may report -/

/-- The events are some of the mask that the type stands for. -/
def GpioIntType.Means (armed : GpioIntType) (events : UInt32) : Prop :=
  ∃ eventMask, bmxEsp32GpioInterruptType eventMask ≠ .max ∧
    bmxEsp32GpioInterruptType eventMask = armed ∧ events ≠ 0 ∧ events &&& eventMask = events

/-- What was recorded and what was posted are what the armed type stands for. -/
def GpioFired.Attributed (f : GpioFired) : Prop :=
  f.armed.Means f.recorded ∧ f.armed.Means f.post.eventData

/-- A live pin has events in its mask, and they belong to its type. -/
def GpioPin.Ok (p : GpioPin) : Prop := p.Live → p.intrType.Means p.mask

theorem interruptType_cases {eventMask : UInt32}
    (h : bmxEsp32GpioInterruptType eventMask ≠ .max) :
    eventMask = irqLevelLow ∨ eventMask = irqLevelHigh ∨ eventMask = irqEdgeFall ∨
      eventMask = irqEdgeRise ∨ eventMask = irqEdgeFall ||| irqEdgeRise := by
  unfold bmxEsp32GpioInterruptType at h
  split_ifs at h with hlow hhigh hfall hrise hany
  · exact .inl hlow
  · exact .inr (.inl hhigh)
  · exact .inr (.inr (.inl hfall))
  · exact .inr (.inr (.inr (.inl hrise)))
  · exact .inr (.inr (.inr (.inr hany)))
  · exact absurd rfl h

/-- A type stands for one mask. -/
theorem interruptType_injOn {m n : UInt32} (hm : bmxEsp32GpioInterruptType m ≠ .max)
    (h : bmxEsp32GpioInterruptType m = bmxEsp32GpioInterruptType n) : m = n := by
  have hn : bmxEsp32GpioInterruptType n ≠ .max := h ▸ hm
  rcases interruptType_cases hm with rfl | rfl | rfl | rfl | rfl <;>
    rcases interruptType_cases hn with rfl | rfl | rfl | rfl | rfl <;>
    first | rfl | exact absurd h (by decide)

theorem interruptType_ne_disable {m : UInt32} : bmxEsp32GpioInterruptType m ≠ .disable := by
  unfold bmxEsp32GpioInterruptType
  split_ifs <;> nofun

theorem ne_zero_of_type {m : UInt32} (h : bmxEsp32GpioInterruptType m ≠ .max) : m ≠ 0 := by
  rintro rfl
  exact h rfl

theorem means_self {m : UInt32} (h : bmxEsp32GpioInterruptType m ≠ .max) :
    (bmxEsp32GpioInterruptType m).Means m :=
  ⟨m, h, rfl, ne_zero_of_type h, UInt32.and_self⟩

theorem interruptEvents_and (m : UInt32) (level : Bool) :
    gpioInterruptEvents m level &&& m = gpioInterruptEvents m level := by
  unfold gpioInterruptEvents
  split_ifs with hany
  · rw [hany]; decide
  · rw [hany]; decide
  · exact UInt32.and_self

theorem interruptEvents_ne_zero {m : UInt32} (h : m ≠ 0) (level : Bool) :
    gpioInterruptEvents m level ≠ 0 := by
  unfold gpioInterruptEvents
  split_ifs
  · decide
  · decide
  · exact h

/-- An interrupt reports events of the mask, so of the type. -/
theorem GpioIntType.Means.interrupt {armed : GpioIntType} {m : UInt32} (h : armed.Means m)
    (level : Bool) : armed.Means (gpioInterruptEvents m level) := by
  obtain ⟨eventMask, hmax, harmed, hne, hpart⟩ := h
  refine ⟨eventMask, hmax, harmed, interruptEvents_ne_zero hne level, ?_⟩
  calc gpioInterruptEvents m level &&& eventMask
      = gpioInterruptEvents m level &&& (m &&& eventMask) := by
        rw [← UInt32.and_assoc, interruptEvents_and]
    _ = gpioInterruptEvents m level := by rw [hpart, interruptEvents_and]

/-- Some interrupt reports what the type does not mean, unless all the mask belongs to it. -/
theorem exists_interrupt_not_means {armed : GpioIntType} {m : UInt32} (h : ¬ armed.Means m) :
    ∃ level, ¬ armed.Means (gpioInterruptEvents m level) := by
  by_cases hany : m = irqEdgeFall ||| irqEdgeRise
  · by_contra! hall
    obtain ⟨fall, hmax, harmed, -, hfall⟩ := hall false
    obtain ⟨rise, -, hrise', -, hrise⟩ := hall true
    obtain rfl : fall = rise := interruptType_injOn hmax (harmed.trans hrise'.symm)
    rw [gpioInterruptEvents, if_pos hany] at hfall hrise
    have hboth : fall = irqEdgeFall ||| irqEdgeRise := by
      rcases interruptType_cases hmax with rfl | rfl | rfl | rfl | rfl <;>
        first | rfl | exact absurd hfall (by decide) | exact absurd hrise (by decide)
    exact h ⟨fall, hmax, harmed, by rw [hany]; decide, by rw [hany, hboth]; decide⟩
  · exact ⟨true, by rwa [gpioInterruptEvents, if_neg hany]⟩

/-! ### What is taken -/

/-- The bit has been recorded for the pin since its last take. -/
def RecordedSince (gpio : UInt32) (log : List GpioEntry) (i : Nat) : Prop :=
  ∃ newer f older, log = newer ++ .fired f :: older ∧ (∀ events, .taken gpio events ∉ newer) ∧
    f.gpio = gpio ∧ f.recorded.toNat.testBit i = true

/-- The events are those bits. -/
def RecordsSince (events gpio : UInt32) (log : List GpioEntry) : Prop :=
  ∀ i, events.toNat.testBit i = true ↔ RecordedSince gpio log i

section Log

variable {gpio : UInt32} {log : List GpioEntry} {events : UInt32}

theorem recordsSince_nil : RecordsSince 0 gpio [] := by
  intro i
  refine iff_of_false (by simp) ?_
  rintro ⟨newer, f, older, hlog, -⟩
  exact absurd hlog.symm (List.append_ne_nil_of_right_ne_nil _ nofun)

theorem recordsSince_taken : RecordsSince 0 gpio (.taken gpio events :: log) := by
  intro i
  refine iff_of_false (by simp) ?_
  rintro ⟨newer, f, older, hlog, hnewer, -⟩
  rcases newer with - | ⟨e, newer⟩
  · exact absurd (List.cons.inj hlog).1 nofun
  · obtain rfl := (List.cons.inj hlog).1
    exact hnewer events (List.mem_cons_self ..)

/-- An entry about another pin. -/
theorem RecordsSince.skip {e : GpioEntry} (h : RecordsSince events gpio log)
    (htaken : ∀ bits, e ≠ .taken gpio bits) (hfired : ∀ f, e = .fired f → f.gpio ≠ gpio) :
    RecordsSince events gpio (e :: log) := by
  refine fun i => (h i).trans ⟨?_, ?_⟩
  · rintro ⟨newer, f, older, rfl, hnewer, hf⟩
    refine ⟨e :: newer, f, older, rfl, fun bits hmem => ?_, hf⟩
    rcases List.mem_cons.mp hmem with heq | hmem
    · exact htaken bits heq.symm
    · exact hnewer bits hmem
  · rintro ⟨newer, f, older, hlog, hnewer, hf⟩
    rcases newer with - | ⟨e', newer⟩
    · exact absurd hf.1 (hfired f (List.cons.inj hlog).1)
    · exact ⟨newer, f, older, (List.cons.inj hlog).2,
        fun bits hmem => hnewer bits (List.mem_cons_of_mem _ hmem), hf⟩

theorem RecordsSince.fired {f : GpioFired} (h : RecordsSince events gpio log)
    (hf : f.gpio = gpio) : RecordsSince (events ||| f.recorded) gpio (.fired f :: log) := by
  intro i
  rw [UInt32.toNat_or, Nat.testBit_or, Bool.or_eq_true, h i]
  constructor
  · rintro (⟨newer, f', older, rfl, hnewer, hf'⟩ | hbit)
    · refine ⟨.fired f :: newer, f', older, rfl, fun bits hmem => ?_, hf'⟩
      rcases List.mem_cons.mp hmem with heq | hmem
      · exact absurd heq nofun
      · exact hnewer bits hmem
    · exact ⟨[], f, log, rfl, nofun, hf, hbit⟩
  · rintro ⟨newer, f', older, hlog, hnewer, hf'⟩
    rcases newer with - | ⟨e, newer⟩
    · obtain rfl := GpioEntry.fired.inj (List.cons.inj hlog).1
      exact .inr hf'.2
    · exact .inl ⟨newer, f', older, (List.cons.inj hlog).2,
        fun bits hmem => hnewer bits (List.mem_cons_of_mem _ hmem), hf'⟩

end Log

namespace GpioSystem

/-- What is pending and what has been taken, of each pin. -/
structure Recorded (s : GpioSystem) : Prop where
  pending : ∀ gpio, RecordsSince (s.pin gpio).events gpio s.log
  taken : ∀ newer gpio events older, s.log = newer ++ .taken gpio events :: older →
    RecordsSince events gpio older

section Steps

variable {pins : GpioPins} {s s' : GpioSystem}

/-- A step of the task leaves the events of all pins and the log alone. -/
theorem Recorded.of_eq (h : s.Recorded) (hlog : s'.log = s.log)
    (hevents : ∀ gpio, (s'.pin gpio).events = (s.pin gpio).events) : s'.Recorded :=
  ⟨fun gpio => by rw [hlog, hevents]; exact h.pending gpio, hlog ▸ h.taken⟩

theorem setPin_events {gpio : UInt32} {p : GpioPin} (h : p.events = (s.pin gpio).events)
    (other : UInt32) : ((s.setPin gpio p).pin other).events = (s.pin other).events := by
  by_cases hother : other = gpio
  · subst hother; rw [setPin_self, h]
  · rw [setPin_of_ne _ _ hother]

theorem proceed_recorded {result : EspErr} {switches : Bool} (h : s.Recorded)
    (hs : s.proceed result switches = some s') : s'.Recorded := by
  unfold proceed at hs
  split at hs
  next => exact absurd hs nofun
  all_goals
    try split at hs
    all_goals
      obtain rfl := Option.some.inj hs
      refine h.of_eq rfl fun gpio => ?_
      first | rfl | exact setPin_events (by rfl) gpio

theorem take_recorded (h : s.Recorded) (gpio : UInt32) :
    Recorded { s.setPin gpio { s.pin gpio with events := 0 } with
      log := .taken gpio (s.pin gpio).events :: s.log } := by
  refine ⟨fun other => ?_, fun newer gpio' events older hlog => ?_⟩
  · by_cases hother : other = gpio
    · subst hother
      simp only [setPin_self]
      exact recordsSince_taken
    · simp only [setPin_of_ne _ _ hother]
      refine (h.pending other).skip (fun bits heq => ?_) nofun
      exact hother (GpioEntry.taken.inj heq).1.symm
  · rcases newer with - | ⟨e, newer⟩
    · obtain ⟨heq, rfl⟩ := List.cons.inj hlog
      obtain ⟨rfl, rfl⟩ := GpioEntry.taken.inj heq
      exact h.pending gpio
    · exact h.taken newer gpio' events older (List.cons.inj hlog).2

/-- What the interrupt leaves behind. -/
def afterFired (s : GpioSystem) (f : GpioFired) : GpioSystem :=
  { s.setPin f.gpio { s.pin f.gpio with events := (s.pin f.gpio).events ||| f.recorded } with
    log := .fired f :: s.log }

theorem interrupt_eq {gpio : UInt32} (hlt : gpio < pins.numMax) (level : Bool) (time : UInt64) :
    ∃ f, f.gpio = gpio ∧ f.armed = (s.pin gpio).intrType ∧
      f.recorded = gpioInterruptEvents (s.pin gpio).mask level ∧ f.post.eventData = f.recorded ∧
      s.interrupt pins gpio level time = s.afterFired f := by
  rw [interrupt, if_neg (UInt32.not_le.mpr hlt)]
  exact ⟨⟨gpio, (s.pin gpio).intrType, gpioInterruptEvents (s.pin gpio).mask level,
    (bmxEsp32GpioInterrupt gpio level time (s.pin gpio)).2.1⟩, rfl, rfl, rfl, rfl, rfl⟩

theorem afterFired_recorded (h : s.Recorded) (f : GpioFired) : (s.afterFired f).Recorded := by
  refine ⟨fun other => ?_, fun newer gpio events older hlog => ?_⟩
  · by_cases hother : other = f.gpio
    · subst hother
      simp only [afterFired, setPin_self]
      exact (h.pending f.gpio).fired rfl
    · simp only [afterFired, setPin_of_ne _ _ hother]
      refine (h.pending other).skip nofun fun f' heq => ?_
      obtain rfl := GpioEntry.fired.inj heq
      exact Ne.symm hother
  · rcases newer with - | ⟨e, newer⟩
    · exact absurd (List.cons.inj hlog).1 nofun
    · exact h.taken newer gpio events older (List.cons.inj hlog).2

theorem interrupt_recorded (h : s.Recorded) (gpio : UInt32) (level : Bool) (time : UInt64) :
    (s.interrupt pins gpio level time).Recorded := by
  by_cases hlt : gpio < pins.numMax
  · obtain ⟨f, -, -, -, -, hf⟩ := interrupt_eq hlt level time
    exact hf ▸ afterFired_recorded h f
  · rw [interrupt, if_pos (UInt32.not_lt.mp hlt)]
    exact h

theorem step_recorded {a : GpioAction} (h : s.Recorded) (hs : s.step pins a = some s') :
    s'.Recorded := by
  cases a with
  | proceed result switches => exact proceed_recorded h hs
  | interrupt gpio level time =>
    simp only [step] at hs
    split_ifs at hs
    exact Option.some.inj hs ▸ interrupt_recorded h gpio level time
  | setIrqEnabled gpio eventMask enabled =>
    simp only [step] at hs
    split at hs
    · obtain rfl := Option.some.inj hs
      unfold bmxEmbeddedGpioSetIrqEnabled
      split_ifs <;> exact h.of_eq rfl fun _ => rfl
    · exact absurd hs nofun
  | setEventToken gpio token =>
    simp only [step, bmxEmbeddedGpioSetEventToken] at hs
    split at hs
    · split_ifs at hs <;> obtain rfl := Option.some.inj hs <;> refine h.of_eq rfl fun other => ?_
      · rfl
      · exact setPin_events (by rfl) other
      · exact setPin_events (by rfl) other
    · exact absurd hs nofun
  | takeIrqEvents gpio =>
    simp only [step, bmxEmbeddedGpioTakeIrqEvents] at hs
    split at hs
    · split_ifs at hs <;> obtain rfl := Option.some.inj hs
      · exact h
      · exact take_recorded h gpio
    · exact absurd hs nofun

/-- **Taken once**, in any run. -/
theorem reachable_recorded {ok : GpioSystem → GpioAction → Prop}
    (h : (gpioMachine pins).ReachableIn ok s) : s.Recorded :=
  h.invariant (fun _ hboot => hboot ▸ ⟨fun _ => recordsSince_nil, fun newer _ _ _ hlog =>
    absurd hlog.symm (List.append_ne_nil_of_right_ne_nil newer nofun)⟩)
    fun _ _ _ hrec _ hs => step_recorded hrec hs

end Steps

/-! ### Whose events an interrupt reports -/

/-- The pin that the task works on: its type belongs to the mask that goes with it. -/
def PcOk (s : GpioSystem) : Prop :=
  match s.pc with
  | .installIsrService _ eventMask | .setIntrType _ eventMask =>
    bmxEsp32GpioInterruptType eventMask ≠ .max
  | .storeMask gpio eventMask =>
    bmxEsp32GpioInterruptType eventMask ≠ .max ∧
      (s.pin gpio).intrType = bmxEsp32GpioInterruptType eventMask
  | .isrHandlerAdd gpio _ | .intrEnable gpio _ => (s.pin gpio).intrType.Means (s.pin gpio).mask
  | _ => True

/-- What holds between the steps of a call. -/
structure Inv (s : GpioSystem) : Prop where
  pin : ∀ gpio, (s.pin gpio).Ok
  pc : s.PcOk
  fired : ∀ f, .fired f ∈ s.log → f.Attributed

section Steps

variable {pins : GpioPins} {s s' : GpioSystem}

/-- The task changes one pin. -/
theorem Inv.set (h : s.Inv) {gpio : UInt32} {p : GpioPin} (hpin : s'.pin = (s.setPin gpio p).pin)
    (hlog : s'.log = s.log) (hp : p.Ok) (hpc : s'.PcOk) : s'.Inv := by
  refine ⟨fun other => ?_, hpc, hlog ▸ h.fired⟩
  rw [hpin]
  by_cases hother : other = gpio
  · subst hother; rwa [setPin_self]
  · rw [setPin_of_ne _ _ hother]; exact h.pin other

/-- It changes none. -/
theorem Inv.goto (h : s.Inv) (hpin : s'.pin = s.pin) (hlog : s'.log = s.log) (hpc : s'.PcOk) :
    s'.Inv :=
  ⟨hpin ▸ h.pin, hpc, hlog ▸ h.fired⟩

theorem proceed_inv {result : EspErr} {switches : Bool} (h : s.Inv)
    (hquiet : s.Quiet (.proceed result switches)) (hs : s.proceed result switches = some s') :
    s'.Inv := by
  have hpc := h.pc
  simp only [Quiet] at hquiet
  unfold PcOk at hpc
  unfold proceed at hs
  -- one case for each place of the call; only a live pin can fire between them
  cases hat : s.pc with
  | idle => rw [hat] at hs; exact absurd hs nofun
  | intrDisable gpio =>
    simp only [hat] at hs
    split at hs <;> obtain rfl := Option.some.inj hs
    · exact h.goto rfl rfl trivial
    · refine h.set rfl rfl (fun hlive => absurd hlive.2 Bool.false_ne_true) ?_
      cases hready : s.isrServiceReady <;> simp [PcOk, goto]
  | installIsrService gpio eventMask =>
    simp only [hat] at hs hpc
    split at hs <;> obtain rfl := Option.some.inj hs
    · exact h.goto rfl rfl trivial
    · exact h.goto rfl rfl hpc
  | setIntrType gpio eventMask =>
    simp only [hat] at hs hpc hquiet
    split at hs
    next => exact Option.some.inj hs ▸ h.goto rfl rfl trivial
    next hresult =>
      obtain rfl := Option.some.inj hs
      refine h.set rfl rfl (fun hlive => ?_) ⟨hpc, ?_⟩
      · -- a live pin has had its events, and they belong to the new mask too
        obtain ⟨-, -, -, hne, -⟩ := h.pin gpio hlive
        exact ⟨eventMask, hpc, rfl, hne, hquiet (not_not.mp hresult) hlive⟩
      · exact congrArg GpioPin.intrType (setPin_self ..)
  | storeMask gpio eventMask =>
    simp only [hat] at hs hpc
    obtain rfl := Option.some.inj hs
    -- from here on the type that is armed and the mask agree
    have hmeans : (s.pin gpio).intrType.Means eventMask := hpc.2 ▸ means_self hpc.1
    refine h.set rfl rfl (fun _ => hmeans) ?_
    simpa only [PcOk, goto, setPin_self] using hmeans
  | isrHandlerAdd gpio eventMask =>
    simp only [hat] at hs hpc
    split at hs <;> obtain rfl := Option.some.inj hs
    · exact h.goto rfl rfl trivial
    · refine h.set rfl rfl (fun _ => hpc) ?_
      simpa only [PcOk, goto, setPin_self] using hpc
  | intrEnable gpio eventMask =>
    simp only [hat] at hs hpc
    split at hs <;> obtain rfl := Option.some.inj hs
    · exact h.set rfl rfl (fun _ => hpc) trivial
    · exact h.goto rfl rfl trivial
  | isrHandlerRemove gpio returned =>
    simp only [hat] at hs
    split at hs <;> obtain rfl := Option.some.inj hs
    · exact h.goto rfl rfl trivial
    · exact h.set rfl rfl (fun hlive => absurd hlive.1 Bool.false_ne_true) trivial
  | clearMask gpio returned =>
    simp only [hat] at hs hquiet
    obtain rfl := Option.some.inj hs
    exact h.set rfl rfl (fun hlive => absurd hlive hquiet) trivial

/-- The pins differ in events and token only. -/
def SamePins (s s' : GpioSystem) : Prop :=
  ∀ gpio, (s'.pin gpio).intrType = (s.pin gpio).intrType ∧
    (s'.pin gpio).handler = (s.pin gpio).handler ∧ (s'.pin gpio).enabled = (s.pin gpio).enabled ∧
    (s'.pin gpio).mask = (s.pin gpio).mask

theorem samePins_setPin {gpio : UInt32} (events token : UInt32) :
    s.SamePins (s.setPin gpio { s.pin gpio with events, token }) := by
  intro other
  by_cases hother : other = gpio
  · subst hother
    rw [setPin_self]
    exact ⟨rfl, rfl, rfl, rfl⟩
  · rw [setPin_of_ne _ _ hother]
    exact ⟨rfl, rfl, rfl, rfl⟩

theorem Inv.frame (h : s.Inv) (hsame : s.SamePins s') (hpc : s'.pc = s.pc)
    (hfired : ∀ f, .fired f ∈ s'.log → f.Attributed) : s'.Inv := by
  refine ⟨fun gpio => ?_, ?_, hfired⟩
  · obtain ⟨htype, hhandler, henabled, hmask⟩ := hsame gpio
    have hok := h.pin gpio
    unfold GpioPin.Ok GpioPin.Live at hok ⊢
    rwa [htype, hhandler, henabled, hmask]
  · have hok := h.pc
    unfold PcOk at hok ⊢
    rw [hpc]
    simpa only [(hsame _).1, (hsame _).2.2.2] using hok

theorem interrupt_inv (h : s.Inv) {gpio : UInt32} (hlive : (s.pin gpio).Live) (level : Bool)
    (time : UInt64) : (s.interrupt pins gpio level time).Inv := by
  by_cases hlt : gpio < pins.numMax
  · obtain ⟨f, rfl, harmed, hrecorded, hpost, hf⟩ := interrupt_eq hlt level time
    have hmeans : f.armed.Means f.recorded := by
      rw [harmed, hrecorded]
      exact (h.pin f.gpio hlive).interrupt level
    rw [hf]
    refine h.frame (samePins_setPin _ _) rfl fun f' hmem => ?_
    rcases List.mem_cons.mp hmem with heq | hmem
    · obtain rfl := GpioEntry.fired.inj heq
      exact ⟨hmeans, hpost ▸ hmeans⟩
    · exact h.fired f' hmem
  · rw [interrupt, if_pos (UInt32.not_lt.mp hlt)]
    exact h

theorem setIrqEnabled_inv (h : s.Inv) (gpio eventMask : UInt32) (enabled : Bool) :
    (s.bmxEmbeddedGpioSetIrqEnabled pins gpio eventMask enabled).Inv := by
  unfold bmxEmbeddedGpioSetIrqEnabled
  split_ifs with hrefused
  · exact h.goto rfl rfl trivial
  · exact h.goto rfl rfl trivial
  · exact h.goto rfl rfl fun hmax => hrefused (.inr (.inr hmax))
  · exact h.goto rfl rfl fun hmax => hrefused (.inr (.inr hmax))

theorem step_inv {a : GpioAction} (h : s.Inv) (hquiet : s.Quiet a) (hs : s.step pins a = some s') :
    s'.Inv := by
  cases a with
  | proceed result switches => exact proceed_inv h hquiet hs
  | interrupt gpio level time =>
    simp only [step] at hs
    split_ifs at hs with hfires
    exact Option.some.inj hs ▸ interrupt_inv h hfires.1 level time
  | setIrqEnabled gpio eventMask enabled =>
    simp only [step] at hs
    split at hs
    · exact Option.some.inj hs ▸ setIrqEnabled_inv h gpio eventMask enabled
    · exact absurd hs nofun
  | setEventToken gpio token =>
    simp only [step, bmxEmbeddedGpioSetEventToken] at hs
    split at hs
    next hidle =>
      split_ifs at hs <;> obtain rfl := Option.some.inj hs
      · exact h.goto rfl rfl trivial
      · exact h.frame (samePins_setPin _ _) hidle.symm h.fired
      · exact h.frame (samePins_setPin _ _) hidle.symm h.fired
    next => exact absurd hs nofun
  | takeIrqEvents gpio =>
    simp only [step, bmxEmbeddedGpioTakeIrqEvents] at hs
    split at hs
    · split_ifs at hs <;> obtain rfl := Option.some.inj hs
      · exact h
      · refine h.frame (samePins_setPin _ _) rfl fun f hmem => ?_
        exact h.fired f ((List.mem_cons.mp hmem).resolve_left nofun)
    · exact absurd hs nofun

theorem reachable_inv (h : (gpioMachine pins).ReachableIn Quiet s) : s.Inv :=
  h.invariant (fun _ hboot => hboot ▸ ⟨fun _ hlive => absurd hlive.1 Bool.false_ne_true, trivial,
    fun _ hmem => absurd hmem List.not_mem_nil⟩) fun _ _ _ hinv hquiet hs => step_inv hinv hquiet hs

end Steps

/-! ### Steps that are not quiet -/

/-- The pin that the task works on. -/
def workPin : GpioPc → Option UInt32
  | .idle => none
  | .intrDisable gpio | .installIsrService gpio _ | .setIntrType gpio _ | .storeMask gpio _
  | .isrHandlerAdd gpio _ | .intrEnable gpio _ | .isrHandlerRemove gpio _ | .clearMask gpio _ =>
    some gpio

/-- It is a pin of the chip. -/
def WorksOn (pins : GpioPins) (s : GpioSystem) : Prop :=
  ∀ gpio, workPin s.pc = some gpio → pins.isValid gpio = true

section Steps

variable {pins : GpioPins} {s s' : GpioSystem}

theorem proceed_workPin {result : EspErr} {switches : Bool}
    (hs : s.proceed result switches = some s') :
    workPin s'.pc = none ∨ workPin s'.pc = workPin s.pc := by
  unfold proceed at hs
  cases hat : s.pc with
  | idle => rw [hat] at hs; exact absurd hs nofun
  | intrDisable gpio =>
    simp only [hat] at hs
    split at hs <;> obtain rfl := Option.some.inj hs
    · exact .inl rfl
    · refine .inr ?_
      cases hready : s.isrServiceReady <;> rfl
  | clearMask gpio returned =>
    simp only [hat] at hs
    exact .inl (Option.some.inj hs ▸ rfl)
  | storeMask gpio eventMask =>
    simp only [hat] at hs
    exact .inr (Option.some.inj hs ▸ rfl)
  | installIsrService | setIntrType | isrHandlerAdd | intrEnable | isrHandlerRemove =>
    simp only [hat] at hs
    split at hs <;> obtain rfl := Option.some.inj hs <;> first | exact .inl rfl | exact .inr rfl

theorem step_worksOn {a : GpioAction} (h : s.WorksOn pins) (hs : s.step pins a = some s') :
    s'.WorksOn pins := by
  cases a with
  | proceed result switches =>
    intro gpio hgpio
    -- a call goes on with its pin, or ends
    rcases proceed_workPin hs with hnone | hsame
    · exact absurd (hnone.symm.trans hgpio) nofun
    · exact h gpio (hsame ▸ hgpio)
  | interrupt gpio level time =>
    simp only [step] at hs
    split_ifs at hs
    obtain rfl := Option.some.inj hs
    unfold interrupt
    split
    next => exact h
    next => exact h
  | setIrqEnabled gpio eventMask enabled =>
    simp only [step] at hs
    split at hs
    · obtain rfl := Option.some.inj hs
      unfold bmxEmbeddedGpioSetIrqEnabled
      split_ifs with hrefused
      · nofun
      all_goals
        have hvalid : pins.isValid gpio = true := by
          simpa only [Bool.not_eq_false] using (not_or.mp hrefused).1
        rintro other hother
        exact Option.some.inj hother ▸ hvalid
    · exact absurd hs nofun
  | setEventToken gpio token =>
    simp only [step] at hs
    split at hs
    · split at hs <;> obtain rfl := Option.some.inj hs <;> nofun
    · exact absurd hs nofun
  | takeIrqEvents gpio =>
    simp only [step] at hs
    split at hs
    next hidle =>
      split at hs <;> obtain rfl := Option.some.inj hs <;> exact h
    next => exact absurd hs nofun

theorem reachable_worksOn {ok : GpioSystem → GpioAction → Prop}
    (h : (gpioMachine pins).ReachableIn ok s) : s.WorksOn pins :=
  h.invariant (fun _ hboot => hboot ▸ nofun) fun _ _ _ hworks _ hs => step_worksOn hworks hs

/-- A live pin whose type does not mean its mask: some interrupt reports other events. -/
theorem exists_misattributed {gpio : UInt32} (hvalid : pins.isValid gpio = true)
    (hlive : (s.pin gpio).Live) (htype : (s.pin gpio).intrType ≠ .disable)
    (h : ¬ (s.pin gpio).intrType.Means (s.pin gpio).mask) :
    ∃ level s' f, s.step pins (.interrupt gpio level 0) = some s' ∧ s'.log = .fired f :: s.log ∧
      ¬ f.Attributed := by
  obtain ⟨level, hother⟩ := exists_interrupt_not_means h
  obtain ⟨f, -, harmed, hrecorded, -, hf⟩ := interrupt_eq (s := s) (pins.lt_numMax gpio hvalid) level 0
  refine ⟨level, s.afterFired f, f, ?_, rfl, fun hattributed => ?_⟩
  · simp only [step]
    rw [if_pos ⟨hlive, htype⟩, hf]
  · have hmeans := hattributed.1
    rw [harmed, hrecorded] at hmeans
    exact hother hmeans

theorem misattributed_of_not_quiet {a : GpioAction} (h : s.Inv) (hworks : s.WorksOn pins)
    (hquiet : ¬ s.Quiet a) (hs : s.step pins a = some s') :
    ∃ gpio level s'' f, s'.step pins (.interrupt gpio level 0) = some s'' ∧
      s''.log = .fired f :: s'.log ∧ ¬ f.Attributed := by
  cases a with
  | setIrqEnabled | setEventToken | takeIrqEvents | interrupt => exact absurd trivial hquiet
  | proceed result switches =>
    simp only [Quiet] at hquiet
    have hpc := h.pc
    unfold PcOk at hpc
    simp only [step, proceed] at hs
    cases hat : s.pc with
    | setIntrType gpio eventMask =>
      simp only [hat, Classical.not_imp] at hs hpc hquiet
      -- the type has changed under a live pin, whose old mask it does not belong to
      obtain ⟨rfl, hlive, hother⟩ := hquiet
      rw [if_neg (not_not.mpr rfl)] at hs
      obtain rfl := Option.some.inj hs
      have hvalid : pins.isValid gpio = true := hworks gpio (by rw [hat]; rfl)
      refine ⟨gpio, exists_misattributed hvalid ?_ ?_ ?_⟩
      · simp only [goto, setPin_self]
        exact hlive
      · simpa only [goto, setPin_self] using interruptType_ne_disable
      · simp only [goto, setPin_self]
        rintro ⟨mask, hmax, harmed, -, hpart⟩
        obtain rfl := interruptType_injOn hmax harmed
        exact hother hpart
    | clearMask gpio returned =>
      simp only [hat, not_not] at hs hquiet
      obtain rfl := Option.some.inj hs
      have hvalid : pins.isValid gpio = true := hworks gpio (by rw [hat]; rfl)
      refine ⟨gpio, exists_misattributed hvalid ?_ ?_ ?_⟩
      · simp only [ret, setPin_self]
        exact hquiet
      · obtain ⟨mask, -, harmed, -⟩ := h.pin gpio hquiet
        simp only [ret, setPin_self]
        exact harmed ▸ interruptType_ne_disable
      · simp only [ret, setPin_self]
        -- the mask of a live pin is gone
        rintro ⟨-, -, -, hne, -⟩
        exact hne rfl
    | idle | intrDisable | installIsrService | storeMask | isrHandlerAdd | intrEnable
    | isrHandlerRemove =>
      simp only [hat, not_true_eq_false] at hquiet

end Steps

end GpioSystem

/-! ### Results -/

/-- **Pin interrupts report their own events.**  In a quiet run, whatever the drivers answer and
whenever the interrupts come: what an interrupt records and posts is not empty, and belongs to the
mask whose type was armed when it fired; the bits that a take returns are those recorded for the pin
since the take before, and those that are pending are those the next one returns; and after a step
that is not quiet an interrupt may report events that do not belong to the armed mask. -/
theorem gpio_attribution {pins : GpioPins} {s : GpioSystem}
    (h : (gpioMachine pins).ReachableIn GpioSystem.Quiet s) :
    (∀ f, .fired f ∈ s.log → f.Attributed) ∧
    (∀ newer gpio events older, s.log = newer ++ .taken gpio events :: older →
      ∀ i, events.toNat.testBit i = true ↔ RecordedSince gpio older i) ∧
    (∀ gpio i, (s.pin gpio).events.toNat.testBit i = true ↔ RecordedSince gpio s.log i) ∧
    ∀ a s', ¬ s.Quiet a → s.step pins a = some s' →
      ∃ gpio level s'' f, s'.step pins (.interrupt gpio level 0) = some s'' ∧
        s''.log = .fired f :: s'.log ∧ ¬ f.Attributed := by
  have hinv := GpioSystem.reachable_inv h
  have hrecorded := GpioSystem.reachable_recorded h
  exact ⟨hinv.fired, hrecorded.taken, hrecorded.pending, fun a s' hquiet hs =>
    GpioSystem.misattributed_of_not_quiet hinv (GpioSystem.reachable_worksOn h) hquiet hs⟩

/-- All pins below 49. -/
def allPins : GpioPins := ⟨49, fun gpio => gpio < 49, fun _ h => of_decide_eq_true h⟩

/-- Pin 4 is enabled for falling edges, fires twice, and its events are taken. -/
theorem gpio_attribution_taken :
    ∃ s newer older, (gpioMachine allPins).ReachableIn GpioSystem.Quiet s ∧
      s.log = newer ++ .taken 4 irqEdgeFall :: older ∧ older.length = 2 ∧
      (irqEdgeFall.toNat.testBit 2 = true ↔ RecordedSince 4 older 2) := by
  have hcalled : (gpioMachine allPins).ReachableIn GpioSystem.Quiet _ :=
    .step (a := .setIrqEnabled 4 irqEdgeFall true) (.init rfl) (by exact trivial) rfl
  have hinstalled := ReachableIn.step (a := .proceed espOk false) hcalled (by exact trivial) rfl
  have harmed := ReachableIn.step (a := .proceed espOk false) hinstalled
    (by exact fun _ hlive => absurd hlive.1 Bool.false_ne_true) rfl
  have hstored := ReachableIn.step (a := .proceed espOk false) harmed (by exact trivial) rfl
  have hadded := ReachableIn.step (a := .proceed espOk true) hstored (by exact trivial) rfl
  have henabled := ReachableIn.step (a := .proceed espOk false) hadded (by exact trivial) rfl
  have hfired := ReachableIn.step (a := .interrupt 4 false 0) henabled (by exact trivial) rfl
  have hfired := ReachableIn.step (a := .interrupt 4 true 9) hfired (by exact trivial) rfl
  have htaken := ReachableIn.step (a := .takeIrqEvents 4) hfired (by exact trivial) rfl
  exact ⟨_, [], _, htaken, rfl, rfl, (gpio_attribution htaken).2.1 [] 4 irqEdgeFall _ rfl 2⟩

/-- Pin 4 is live for falling edges, and enabled again for rising ones: between the change of the
type and that of the mask it fires for a rising edge and reports a falling one. -/
def rearmPin : List GpioAction :=
  [.setIrqEnabled 4 irqEdgeFall true, .proceed espOk false, .proceed espOk false,
    .proceed espOk false, .proceed espOk true, .proceed espOk false,
    .setIrqEnabled 4 irqEdgeRise true, .proceed espOk false, .interrupt 4 true 0]

theorem gpio_attribution_rearmed :
    ∃ s, (gpioMachine allPins).Reachable s ∧ ∃ f, .fired f ∈ s.log ∧ f.armed = .posEdge ∧
      f.recorded = irqEdgeFall ∧ ¬ f.Attributed := by
  obtain ⟨s, hs, hp⟩ := exists_reachable_of_run (M := gpioMachine allPins) rearmPin
    (fun s => match s.log with
      | [.fired f] => f.armed = .posEdge ∧ f.recorded = irqEdgeFall
      | _ => false) rfl (by decide)
  rcases hlog : s.log with - | ⟨e, - | ⟨e', log⟩⟩ <;> simp only [hlog] at hp
  · exact absurd hp nofun
  · cases e with
    | taken => exact absurd hp nofun
    | fired f =>
      obtain ⟨harmed, hrecorded⟩ := of_decide_eq_true hp
      refine ⟨s, hs, f, by rw [hlog]; exact List.mem_cons_self .., harmed, hrecorded, ?_⟩
      rintro ⟨⟨mask, hmax, htype, -, hpart⟩, -⟩
      obtain rfl : mask = irqEdgeRise := interruptType_injOn hmax (htype.trans harmed)
      rw [hrecorded] at hpart
      exact absurd hpart (by decide)
  · cases e <;> exact absurd hp nofun

end Esp32Mod
