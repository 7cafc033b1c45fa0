/-
Esp32Mod/I2c.lean

The I2C adapter (`runtime.mod/native/esp32_i2c.c`).

A controller has a bus while it is open.  A transfer adds a device to that bus, with the address
and the baudrate of now, lets the driver transfer and removes the device again, whatever the
driver has answered; on two cores it is native-safe from before the device is added until after
it has been removed.

`i2cContract` is what ESP-IDF asks for: two different pins that the chip has, seven bits of
address, a device on a bus that is there, buffers that are not empty and a wait that is either
without end or at least none.  `i2c_safe` says that every run keeps it, and that between the calls
nothing is held but the buses of the controllers that are open.
-/
import Esp32Mod.Errors
import Esp32Mod.Ownership
import Esp32Mod.StepMachine

namespace Esp32Mod

open Ownership StepMachine

/-- `SOC_I2C_NUM` and `GPIO_IS_VALID_GPIO`; `multicore` is `BMX_EMBEDDED_MULTICORE`. -/
structure I2cTarget where
  controllers : Nat
  isValidGpio : Int32 → Bool
  multicore : Bool

/-- A buffer of the caller. -/
structure I2cBuffer where
  data : UInt32
  length : Int32
  deriving DecidableEq

/-- What the adapter acquires. -/
inductive I2cKind
  | bus (controller sdaPin sclPin : Int32) (pullUps : Bool)
  | device (bus : Nat) (address : UInt16) (speed : UInt32)
  | nativeSafe (buffers : List I2cBuffer)
  deriving DecidableEq

/-- What it uses a device for. -/
inductive I2cUse
  | transmit (write : I2cBuffer) (timeoutMs : Int32)
  | receive (read : I2cBuffer) (timeoutMs : Int32)
  | transmitReceive (write read : I2cBuffer) (timeoutMs : Int32)
  deriving DecidableEq

/-! ### The contract of the driver -/

/-- There are bytes, and there is a place for them. -/
def I2cBuffer.proper (b : I2cBuffer) : Bool := b.data ≠ 0 && decide (0 < b.length)

/-- -1 waits without end; anything else is a number of milliseconds. -/
def i2cWait (timeoutMs : Int32) : Bool :=
  decide (timeoutMs = -1) || decide (0 ≤ timeoutMs ∧ timeoutMs ≤ 4294968)

/-- A bus has a controller and two pins that exist, a device an address of 7 bits; a transfer asks
for some bytes. -/
def i2cContract (t : I2cTarget) : Contract I2cKind I2cUse where
  proper
    | .bus controller sdaPin sclPin _ => decide (0 ≤ controller.toInt) &&
        decide (controller.toInt < t.controllers) && sdaPin != sclPin &&
        t.isValidGpio sdaPin && t.isValidGpio sclPin
    | .device _ address speed => decide (address ≤ 0x7f) && speed != 0
    | .nativeSafe buffers => buffers.all I2cBuffer.proper
  rests
    | .device bus _ _ => [bus]
    | _ => []
  legal
    | .device _ _ _, .transmit write timeoutMs => write.proper && i2cWait timeoutMs
    | .device _ _ _, .receive read timeoutMs => read.proper && i2cWait timeoutMs
    | .device _ _ _, .transmitReceive write read timeoutMs =>
      write.proper && read.proper && i2cWait timeoutMs
    | _, _ => false

/-! ### The adapter -/

/-- `BMXESP32I2CState`. -/
structure I2cState where
  bus : Option (Handle I2cKind) := none
  baudrate : UInt32 := 0
  sdaPin : Int32 := 0
  sclPin : Int32 := 0
  configured : Bool := false
  pullUps : Bool := false
  deriving DecidableEq

/-- The errors of the transfers. -/
def bmxI2cErrorGeneric : Int32 := -1
def bmxI2cErrorTimeout : Int32 := -2
def bmxI2cErrorInvalidArgument : Int32 := -5

/-- `ESP_ERR_TIMEOUT`. -/
def espErrTimeout : EspErr := 0x107

/-- `bmx_esp32_i2c_error`. -/
def bmxEsp32I2cError (error : EspErr) : Int32 :=
  if error = espOk then 0
  else if error = espErrTimeout then bmxI2cErrorTimeout
  else if error = espErrInvalidArg then bmxI2cErrorInvalidArgument
  else bmxI2cErrorGeneric

/-- `bmx_esp32_i2c_timeout_ms`. -/
def bmxEsp32I2cTimeoutMs (timeoutUs : UInt32) : Int32 :=
  let milliseconds := (timeoutUs.toUInt64 + 999) / 1000
  if milliseconds > 0x7FFFFFFF then 0x7FFFFFFF else milliseconds.toUInt32.toInt32

/-- `bmx_esp32_i2c_transfer_valid`, with the bus that it finds. -/
def bmxEsp32I2cTransferValid (state : I2cState) (address : UInt32) (buffer : I2cBuffer) :
    Option (Handle I2cKind) :=
  if address ≤ 0x7f ∧ buffer.data ≠ 0 ∧ 0 < buffer.length then state.bus else none

/-- The driver, and `bmx_embedded_gc_enter_native_safe_for_buffers`; what they answer may depend
on anything that they have been asked before. -/
structure I2cDriver (ω : Type) where
  newMasterBus : I2cKind → ω → EspErr × ω
  delMasterBus : Handle I2cKind → ω → EspErr × ω
  addDevice : I2cKind → ω → EspErr × ω
  transfer : Handle I2cKind → I2cUse → ω → EspErr × ω
  enterNativeSafe : List I2cBuffer → ω → Bool × ω

variable {ω : Type}

/-- A program of the adapter. -/
abbrev I2cProgram (ω : Type) := Own I2cKind I2cUse ω

/-- Add the device, let the driver transfer, remove it; the answer to the removal is not read. -/
def i2cOnDevice (driver : I2cDriver ω) (state : I2cState) (bus : Handle I2cKind)
    (address : UInt32) (how : I2cUse) : I2cProgram ω EspErr := do
  let config := .device bus.number address.toUInt16 state.baudrate
  let added ← ask (driver.addDevice config)
  if added = espOk then
    let device ← acquire config
    use device how
    let error ← ask (driver.transfer device how)
    release device
    pure error
  else pure added

/-- There is nothing to be entered on one core. -/
def i2cEnterNativeSafe (t : I2cTarget) (driver : I2cDriver ω) (buffers : List I2cBuffer) :
    I2cProgram ω Bool :=
  if t.multicore then ask (driver.enterNativeSafe buffers) else pure false

/-- What the three transfers share after their checks. -/
def i2cTransfer (t : I2cTarget) (driver : I2cDriver ω) (state : I2cState)
    (bus : Handle I2cKind) (address : UInt32) (buffers : List I2cBuffer) (how : I2cUse)
    (length : Int32) : I2cProgram ω Int32 := do
  let entered ← i2cEnterNativeSafe t driver buffers
  if entered then
    let nativeSafe ← acquire (.nativeSafe buffers)
    let error ← i2cOnDevice driver state bus address how
    release nativeSafe
    pure (if error = espOk then length else bmxEsp32I2cError error)
  else
    let error ← i2cOnDevice driver state bus address how
    pure (if error = espOk then length else bmxEsp32I2cError error)

/-- A write that is refused asks nothing of the driver. -/
def bmxEsp32I2cWrite (t : I2cTarget) (driver : I2cDriver ω) (address : UInt32)
    (write : I2cBuffer) (timeoutMs : Int32) (state : I2cState) :
    I2cProgram ω (Int32 × I2cState) :=
  match bmxEsp32I2cTransferValid state address write with
  | none => pure (bmxI2cErrorInvalidArgument, state)
  | some bus => do
    let result ← i2cTransfer t driver state bus address [write] (.transmit write timeoutMs)
      write.length
    pure (result, state)

/-- A read that is refused asks nothing of the driver. -/
def bmxEsp32I2cRead (t : I2cTarget) (driver : I2cDriver ω) (address : UInt32)
    (read : I2cBuffer) (timeoutMs : Int32) (state : I2cState) :
    I2cProgram ω (Int32 × I2cState) :=
  match bmxEsp32I2cTransferValid state address read with
  | none => pure (bmxI2cErrorInvalidArgument, state)
  | some bus => do
    let result ← i2cTransfer t driver state bus address [read] (.receive read timeoutMs)
      read.length
    pure (result, state)

/-- One transfer with a repeated start. -/
def bmxEsp32I2cWriteRead (t : I2cTarget) (driver : I2cDriver ω) (address : UInt32)
    (write read : I2cBuffer) (timeoutMs : Int32) (state : I2cState) :
    I2cProgram ω (Int32 × I2cState) :=
  match bmxEsp32I2cTransferValid state address write with
  | none => pure (bmxI2cErrorInvalidArgument, state)
  | some bus =>
    if read.data = 0 ∨ read.length ≤ 0 then pure (bmxI2cErrorInvalidArgument, state)
    else do
      let result ← i2cTransfer t driver state bus address [write, read]
        (.transmitReceive write read timeoutMs) read.length
      pure (result, state)

/-- Only stored, and only while there is no bus. -/
def bmxEmbeddedI2cConfigurePins (t : I2cTarget) (sdaPin sclPin : UInt32) (pullUps : Int32)
    (state : I2cState) : I2cProgram ω (Int32 × I2cState) :=
  if state.bus.isSome ∨ 0x7FFFFFFF < sdaPin ∨ 0x7FFFFFFF < sclPin ∨ sdaPin = sclPin ∨
      ¬ t.isValidGpio sdaPin.toInt32 ∨ ¬ t.isValidGpio sclPin.toInt32 then
    pure (0, state)
  else
    pure (1, { state with
      sdaPin := sdaPin.toInt32, sclPin := sclPin.toInt32, pullUps := pullUps ≠ 0,
      configured := true })

/-- A bus, after its pins have been configured. -/
def bmxEmbeddedI2cInit (driver : I2cDriver ω) (controller : Int32) (baudrate : UInt32)
    (state : I2cState) : I2cProgram ω (UInt32 × I2cState) :=
  if ¬ state.configured ∨ state.bus.isSome ∨ baudrate = 0 then pure (0, state)
  else do
    let config := .bus controller state.sdaPin state.sclPin state.pullUps
    let error ← ask (driver.newMasterBus config)
    if error ≠ espOk then pure (0, { state with bus := none })
    else
      let bus ← acquire config
      pure (baudrate, { state with bus := some bus, baudrate := baudrate })

/-- The bus stays where the driver does not delete it. -/
def bmxEmbeddedI2cDeinit (driver : I2cDriver ω) (state : I2cState) :
    I2cProgram ω (Int32 × I2cState) :=
  match state.bus with
  | none => pure (0, state)
  | some bus => do
    let error ← ask (driver.delMasterBus bus)
    if error ≠ espOk then pure (0, state)
    else
      release bus
      pure (1, { state with bus := none, baudrate := 0 })

/-- Only stored: each transfer makes its device anew. -/
def bmxEmbeddedI2cSetBaudrate (baudrate : UInt32) (state : I2cState) :
    I2cProgram ω (UInt32 × I2cState) :=
  if state.bus.isNone ∨ baudrate = 0 then pure (0, state)
  else pure (baudrate, { state with baudrate := baudrate })

/-- The transfers without a limit have the timeout -1. -/
def bmxEmbeddedI2cWriteBlocking (t : I2cTarget) (driver : I2cDriver ω) (address : UInt32)
    (write : I2cBuffer) : I2cState → I2cProgram ω (Int32 × I2cState) :=
  bmxEsp32I2cWrite t driver address write (-1)

def bmxEmbeddedI2cReadBlocking (t : I2cTarget) (driver : I2cDriver ω) (address : UInt32)
    (read : I2cBuffer) : I2cState → I2cProgram ω (Int32 × I2cState) :=
  bmxEsp32I2cRead t driver address read (-1)

/-- The transfers with a limit, in microseconds. -/
def bmxEmbeddedI2cWriteTimeoutUs (t : I2cTarget) (driver : I2cDriver ω) (address : UInt32)
    (write : I2cBuffer) (timeoutUs : UInt32) : I2cState → I2cProgram ω (Int32 × I2cState) :=
  bmxEsp32I2cWrite t driver address write (bmxEsp32I2cTimeoutMs timeoutUs)

def bmxEmbeddedI2cReadTimeoutUs (t : I2cTarget) (driver : I2cDriver ω) (address : UInt32)
    (read : I2cBuffer) (timeoutUs : UInt32) : I2cState → I2cProgram ω (Int32 × I2cState) :=
  bmxEsp32I2cRead t driver address read (bmxEsp32I2cTimeoutMs timeoutUs)

def bmxEmbeddedI2cWriteReadBlocking (t : I2cTarget) (driver : I2cDriver ω) (address : UInt32)
    (write read : I2cBuffer) : I2cState → I2cProgram ω (Int32 × I2cState) :=
  bmxEsp32I2cWriteRead t driver address write read (-1)

def bmxEmbeddedI2cWriteReadTimeoutUs (t : I2cTarget) (driver : I2cDriver ω)
    (address : UInt32) (write read : I2cBuffer) (timeoutUs : UInt32) :
    I2cState → I2cProgram ω (Int32 × I2cState) :=
  bmxEsp32I2cWriteRead t driver address write read (bmxEsp32I2cTimeoutMs timeoutUs)

/-- The calls of the program. -/
inductive I2cCall
  | configurePins (sdaPin sclPin : UInt32) (pullUps : Int32)
  | init (baudrate : UInt32)
  | deinit
  | setBaudrate (baudrate : UInt32)
  | writeBlocking (address : UInt32) (write : I2cBuffer)
  | readBlocking (address : UInt32) (read : I2cBuffer)
  | writeReadBlocking (address : UInt32) (write read : I2cBuffer)
  | writeTimeoutUs (address : UInt32) (write : I2cBuffer) (timeoutUs : UInt32)
  | readTimeoutUs (address : UInt32) (read : I2cBuffer) (timeoutUs : UInt32)
  | writeReadTimeoutUs (address : UInt32) (write read : I2cBuffer) (timeoutUs : UInt32)

/-- What a call does to the state of its controller. -/
def I2cCall.run (t : I2cTarget) (driver : I2cDriver ω) (controller : Int32) (state : I2cState) :
    I2cCall → I2cProgram ω I2cState
  | .configurePins sdaPin sclPin pullUps =>
    Prod.snd <$> bmxEmbeddedI2cConfigurePins t sdaPin sclPin pullUps state
  | .init baudrate => Prod.snd <$> bmxEmbeddedI2cInit driver controller baudrate state
  | .deinit => Prod.snd <$> bmxEmbeddedI2cDeinit driver state
  | .setBaudrate baudrate => Prod.snd <$> bmxEmbeddedI2cSetBaudrate baudrate state
  | .writeBlocking address write =>
    Prod.snd <$> bmxEmbeddedI2cWriteBlocking t driver address write state
  | .readBlocking address read =>
    Prod.snd <$> bmxEmbeddedI2cReadBlocking t driver address read state
  | .writeReadBlocking address write read =>
    Prod.snd <$> bmxEmbeddedI2cWriteReadBlocking t driver address write read state
  | .writeTimeoutUs address write timeoutUs =>
    Prod.snd <$> bmxEmbeddedI2cWriteTimeoutUs t driver address write timeoutUs state
  | .readTimeoutUs address read timeoutUs =>
    Prod.snd <$> bmxEmbeddedI2cReadTimeoutUs t driver address read timeoutUs state
  | .writeReadTimeoutUs address write read timeoutUs =>
    Prod.snd <$> bmxEmbeddedI2cWriteReadTimeoutUs t driver address write read timeoutUs state

/-- The controllers, what has been asked of the driver, and the driver's own state. -/
structure I2cSystem (ω : Type) where
  controllers : List I2cState
  log : List (Op I2cKind I2cUse)
  world : ω

/-- `bmx_esp32_i2c_state`: the place of a controller, if there is one. -/
def bmxEsp32I2cState (t : I2cTarget) (controller : Int32) : Option Nat :=
  if controller.toInt < 0 ∨ (t.controllers : Int) ≤ controller.toInt then none
  else some controller.toInt.toNat

/-- A call for a controller that there is not returns an error and does nothing. -/
def i2cStep (t : I2cTarget) (driver : I2cDriver ω) (s : I2cSystem ω) (controller : Int32)
    (call : I2cCall) : I2cSystem ω :=
  match bmxEsp32I2cState t controller with
  | none => s
  | some i =>
    match s.controllers[i]? with
    | none => s
    | some state =>
      let (state, log, world) := call.run t driver controller state (s.log, s.world)
      { controllers := s.controllers.set i state, log, world }

/-- Calls for the controllers, in any order. -/
def i2cMachine (t : I2cTarget) (driver : I2cDriver ω) :
    Machine (I2cSystem ω) (Int32 × I2cCall) where
  init s := s.controllers = List.replicate t.controllers {} ∧ s.log = []
  step s call := some (i2cStep t driver s call.1 call.2)

/-! ### What the programs do -/

variable {t : I2cTarget} {driver : I2cDriver ω} {state : I2cState} {bus : Handle I2cKind}
  {address : UInt32} {P : Multiset (Handle I2cKind)} {how : I2cUse}

/-- Every device may be used so. -/
def I2cUse.Legal (t : I2cTarget) (how : I2cUse) : Prop :=
  ∀ bus address speed, (i2cContract t).legal (.device bus address speed) how = true

theorem toUInt16_le (h : address ≤ 0x7f) : address.toUInt16 ≤ 0x7f := by
  rw [UInt32.le_iff_toNat_le] at h
  rw [UInt16.le_iff_toNat_le, UInt32.toNat_toUInt16]
  exact (Nat.mod_le _ _).trans h

theorem i2cOnDevice_triple (hbus : bus ∈ P) (haddress : address ≤ 0x7f)
    (hbaudrate : state.baudrate ≠ 0) (hlegal : how.Legal t) :
    Triple (i2cContract t) P (i2cOnDevice driver state bus address how)
      fun _ held => held = P := by
  refine Triple.ask fun added => ?_
  split
  · refine Triple.acquire ?_ ?_ fun device hkind hfree => ?_
    · simp [i2cContract, hbaudrate, toUInt16_le haddress]
    · intro p hp
      obtain rfl := List.mem_singleton.mp hp
      exact Multiset.mem_map_of_mem _ hbus
    · refine Triple.use (Multiset.mem_cons_self _ _) (hkind ▸ hlegal _ _ _) ?_
      refine Triple.ask fun error => ?_
      refine Triple.release (Multiset.mem_cons_self _ _) hfree ?_
      rw [Multiset.erase_cons_head]
      exact Triple.pure rfl
  · exact Triple.pure rfl

theorem i2cTransfer_triple {buffers : List I2cBuffer} {length : Int32} (hbus : bus ∈ P)
    (haddress : address ≤ 0x7f) (hbaudrate : state.baudrate ≠ 0)
    (hbuffers : buffers.all I2cBuffer.proper) (hlegal : how.Legal t) :
    Triple (i2cContract t) P (i2cTransfer t driver state bus address buffers how length)
      fun _ held => held = P := by
  have hentered : Triple (i2cContract t) P (i2cEnterNativeSafe t driver buffers)
      fun _ held => held = P := by
    unfold i2cEnterNativeSafe
    split
    · exact Triple.ask fun _ => Triple.pure rfl
    · exact Triple.pure rfl
  refine Triple.bind hentered ?_
  rintro entered held rfl
  split
  · refine Triple.acquire hbuffers (by simp [i2cContract]) fun nativeSafe hkind hfree => ?_
    refine Triple.bind (i2cOnDevice_triple (Multiset.mem_cons_of_mem hbus) haddress hbaudrate
      hlegal) ?_
    rintro error held rfl
    refine Triple.release (Multiset.mem_cons_self _ _) hfree ?_
    rw [Multiset.erase_cons_head]
    exact Triple.pure rfl
  · refine Triple.bind (i2cOnDevice_triple hbus haddress hbaudrate hlegal) ?_
    rintro error held rfl
    exact Triple.pure rfl

/-! ### The wait -/

/-- The wait is rounded up to milliseconds; the clamp to `INT_MAX` is never needed. -/
theorem timeoutMs_toInt (timeoutUs : UInt32) :
    (bmxEsp32I2cTimeoutMs timeoutUs).toInt = (timeoutUs.toNat + 999) / 1000 := by
  have hus := timeoutUs.toNat_lt
  have hms : ((timeoutUs.toUInt64 + 999) / 1000).toNat = (timeoutUs.toNat + 999) / 1000 := by
    rw [UInt64.toNat_div, UInt64.toNat_add, UInt32.toNat_toUInt64, Nat.mod_eq_of_lt]
    · rfl
    · show timeoutUs.toNat + 999 < 2 ^ 64
      omega
  have hsmall : ¬ (timeoutUs.toUInt64 + 999) / 1000 > 0x7FFFFFFF := by
    rw [gt_iff_lt, UInt64.lt_iff_toNat_lt, hms]
    show ¬ 2147483647 < _
    omega
  have hword : ((timeoutUs.toUInt64 + 999) / 1000).toUInt32.toNat =
      (timeoutUs.toNat + 999) / 1000 := by
    rw [UInt64.toNat_toUInt32, hms, Nat.mod_eq_of_lt]
    omega
  unfold bmxEsp32I2cTimeoutMs
  rw [if_neg hsmall, Int32.toInt, UInt32.toBitVec_toInt32, BitVec.toInt_eq_toNat_of_lt]
  · rw [UInt32.toNat_toBitVec, hword]
    omega
  · rw [UInt32.toNat_toBitVec, hword]
    omega

/-- **The driver waits for as long as was asked, and less than a millisecond longer.** -/
theorem timeoutMs_bounds (timeoutUs : UInt32) :
    (timeoutUs.toNat : Int) ≤ 1000 * (bmxEsp32I2cTimeoutMs timeoutUs).toInt ∧
      1000 * (bmxEsp32I2cTimeoutMs timeoutUs).toInt < timeoutUs.toNat + 1000 := by
  rw [timeoutMs_toInt]
  omega

theorem i2cWait_timeoutMs (timeoutUs : UInt32) :
    i2cWait (bmxEsp32I2cTimeoutMs timeoutUs) = true := by
  have hus := timeoutUs.toNat_lt
  obtain ⟨hfrom, hto⟩ := timeoutMs_bounds timeoutUs
  rw [i2cWait, Bool.or_eq_true, decide_eq_true_eq, decide_eq_true_eq, Int32.le_iff_toInt_le,
    Int32.le_iff_toInt_le]
  refine .inr ⟨?_, ?_⟩
  · show (0 : Int) ≤ _
    omega
  · show _ ≤ (4294968 : Int)
    omega

/-! ### What a call keeps -/

/-- What a controller owns between two calls. -/
def I2cState.owned (state : I2cState) : Multiset (Handle I2cKind) :=
  match state.bus with
  | some bus => {bus}
  | none => 0

/-- The state of a controller at a place of the table. -/
structure I2cState.WellFormed (t : I2cTarget) (i : Nat) (state : I2cState) : Prop where
  bus : ∀ bus, state.bus = some bus → state.configured = true ∧
    ∃ controller : Int32, controller.toInt = i ∧
      bus.kind = .bus controller state.sdaPin state.sclPin state.pullUps
  pins : state.configured = true → state.sdaPin ≠ state.sclPin ∧
    t.isValidGpio state.sdaPin = true ∧ t.isValidGpio state.sclPin = true
  baudrate : state.baudrate ≠ 0 ↔ state.bus.isSome = true

variable {i : Nat} {controller : Int32} {timeoutMs : Int32} {write read : I2cBuffer}

/-- A program leaves the controller well-formed and with all that it owns. -/
def I2cKeeps (t : I2cTarget) (i : Nat) (state : I2cState) {α : Type}
    (prog : I2cProgram ω (α × I2cState)) : Prop :=
  Triple (i2cContract t) state.owned prog
    fun r held => held = r.2.owned ∧ r.2.WellFormed t i

theorem owned_of_bus (hbus : state.bus = some bus) : state.owned = {bus} := by
  rw [I2cState.owned, hbus]

theorem transferValid_some {buffer : I2cBuffer}
    (h : bmxEsp32I2cTransferValid state address buffer = some bus) :
    state.bus = some bus ∧ address ≤ 0x7f ∧ buffer.proper = true := by
  rw [bmxEsp32I2cTransferValid] at h
  split at h
  next hvalid =>
    refine ⟨h, hvalid.1, ?_⟩
    rw [I2cBuffer.proper, decide_eq_true hvalid.2.1, decide_eq_true hvalid.2.2]
    rfl
  next => cases h

theorem i2cKeeps_pure {α : Type} {a : α} (h : state.WellFormed t i) :
    I2cKeeps t i state (pure (a, state) : I2cProgram ω _) := Triple.pure ⟨rfl, h⟩

/-- A transfer after its checks. -/
theorem i2cKeeps_transfer {buffers : List I2cBuffer} {length : Int32}
    (h : state.WellFormed t i) (hbus : state.bus = some bus) (haddress : address ≤ 0x7f)
    (hbuffers : buffers.all I2cBuffer.proper = true) (hlegal : how.Legal t) :
    I2cKeeps t i state (do
      let result ← i2cTransfer t driver state bus address buffers how length
      pure (result, state)) := by
  have hbaudrate : state.baudrate ≠ 0 := h.baudrate.mpr (by rw [hbus]; rfl)
  have hmem : bus ∈ state.owned := by
    rw [owned_of_bus hbus]
    exact Multiset.mem_singleton_self _
  refine Triple.bind (i2cTransfer_triple hmem haddress hbaudrate hbuffers hlegal) ?_
  rintro result held rfl
  exact Triple.pure ⟨rfl, h⟩

theorem i2cKeeps_write (hwait : i2cWait timeoutMs = true) (h : state.WellFormed t i) :
    I2cKeeps t i state (bmxEsp32I2cWrite t driver address write timeoutMs state) := by
  unfold bmxEsp32I2cWrite
  split
  · exact i2cKeeps_pure h
  next bus hvalid =>
    obtain ⟨hbus, haddress, hwrite⟩ := transferValid_some hvalid
    refine i2cKeeps_transfer h hbus haddress (by simpa using hwrite) fun _ _ _ => ?_
    simp [i2cContract, hwrite, hwait]

theorem i2cKeeps_read (hwait : i2cWait timeoutMs = true) (h : state.WellFormed t i) :
    I2cKeeps t i state (bmxEsp32I2cRead t driver address read timeoutMs state) := by
  unfold bmxEsp32I2cRead
  split
  · exact i2cKeeps_pure h
  next bus hvalid =>
    obtain ⟨hbus, haddress, hread⟩ := transferValid_some hvalid
    refine i2cKeeps_transfer h hbus haddress (by simpa using hread) fun _ _ _ => ?_
    simp [i2cContract, hread, hwait]

theorem i2cKeeps_writeRead (hwait : i2cWait timeoutMs = true) (h : state.WellFormed t i) :
    I2cKeeps t i state (bmxEsp32I2cWriteRead t driver address write read timeoutMs state) := by
  unfold bmxEsp32I2cWriteRead
  split
  · exact i2cKeeps_pure h
  next bus hvalid =>
    obtain ⟨hbus, haddress, hwrite⟩ := transferValid_some hvalid
    split
    · exact i2cKeeps_pure h
    next hrest =>
      rw [not_or, Int32.not_le] at hrest
      have hread : read.proper = true := by
        rw [I2cBuffer.proper, decide_eq_true hrest.1, decide_eq_true hrest.2]
        rfl
      refine i2cKeeps_transfer h hbus haddress ?_ fun _ _ _ => ?_
      · simp [hwrite, hread]
      · simp [i2cContract, hwrite, hread, hwait]

theorem i2cKeeps_configurePins {sdaPin sclPin : UInt32} {pullUps : Int32}
    (h : state.WellFormed t i) :
    I2cKeeps t i state
      (bmxEmbeddedI2cConfigurePins t sdaPin sclPin pullUps state : I2cProgram ω _) := by
  unfold bmxEmbeddedI2cConfigurePins
  split
  · exact i2cKeeps_pure h
  next hchecked =>
    simp only [not_or, Bool.not_eq_true, Option.isSome_eq_false_iff,
      Option.isNone_iff_eq_none] at hchecked
    obtain ⟨hbus, hsda, hscl, hne, hvalidSda, hvalidScl⟩ := hchecked
    refine Triple.pure ⟨rfl, ?_, fun _ => ⟨?_, ?_, ?_⟩, h.baudrate⟩
    · intro bus hsome
      rw [hbus] at hsome
      cases hsome
    · exact fun heq => hne (congrArg Int32.toUInt32 heq)
    · simpa using hvalidSda
    · simpa using hvalidScl

theorem i2cKeeps_init {baudrate : UInt32}
    (hcontroller : controller.toInt = i) (hlt : i < t.controllers) (h : state.WellFormed t i) :
    I2cKeeps t i state (bmxEmbeddedI2cInit driver controller baudrate state) := by
  unfold bmxEmbeddedI2cInit
  split
  · exact i2cKeeps_pure h
  next hchecked =>
    simp only [not_or, Bool.not_eq_true, Bool.not_eq_false, Option.isSome_eq_false_iff,
      Option.isNone_iff_eq_none] at hchecked
    obtain ⟨hconfigured, hbus, hbaudrate⟩ := hchecked
    refine Triple.ask fun error => ?_
    have hself : { state with bus := none } = state := by rw [← hbus]
    split
    · rw [hself]
      exact i2cKeeps_pure h
    · obtain ⟨hne, hsda, hscl⟩ := h.pins hconfigured
      have howned : state.owned = 0 := by rw [I2cState.owned, hbus]
      rw [howned]
      refine Triple.acquire ?_ (by simp [i2cContract]) fun bus hkind _ => ?_
      · simp [i2cContract, hcontroller, hlt, hne, hsda, hscl]
      · refine Triple.pure ⟨rfl, ?_, h.pins, ?_⟩
        · rintro _ ⟨rfl⟩
          exact ⟨hconfigured, controller, hcontroller, hkind⟩
        · exact iff_of_true hbaudrate rfl

theorem i2cKeeps_deinit (h : state.WellFormed t i) :
    I2cKeeps t i state (bmxEmbeddedI2cDeinit driver state) := by
  unfold bmxEmbeddedI2cDeinit
  split
  · exact i2cKeeps_pure h
  next bus hbus =>
    refine Triple.ask fun error => ?_
    split
    · exact i2cKeeps_pure h
    · obtain ⟨-, controller, -, hkind⟩ := h.bus bus hbus
      rw [owned_of_bus hbus]
      refine Triple.release (Multiset.mem_singleton_self _) ?_ ?_
      · intro x hx
        obtain rfl := Multiset.mem_singleton.mp hx
        rw [hkind]
        exact List.not_mem_nil
      · refine Triple.pure ⟨?_, ?_, h.pins, ?_⟩
        · exact Multiset.erase_singleton _
        · rintro _ ⟨⟩
        · exact iff_of_false (not_not.mpr rfl) Bool.false_ne_true

theorem i2cKeeps_setBaudrate {baudrate : UInt32} (h : state.WellFormed t i) :
    I2cKeeps t i state (bmxEmbeddedI2cSetBaudrate baudrate state : I2cProgram ω _) := by
  unfold bmxEmbeddedI2cSetBaudrate
  split
  · exact i2cKeeps_pure h
  next hchecked =>
    rw [not_or, Bool.not_eq_true, Option.isNone_eq_false_iff] at hchecked
    exact Triple.pure ⟨rfl, h.bus, h.pins, iff_of_true hchecked.2 hchecked.1⟩

/-- What remains of a call when its result has been read. -/
theorem I2cKeeps.snd {α : Type} {prog : I2cProgram ω (α × I2cState)}
    (h : I2cKeeps t i state prog) : Triple (i2cContract t) state.owned (Prod.snd <$> prog)
      fun state held => held = state.owned ∧ state.WellFormed t i := h

theorem run_keeps (driver : I2cDriver ω) (hcontroller : controller.toInt = i) (hlt : i < t.controllers)
    (h : state.WellFormed t i) (call : I2cCall) :
    Triple (i2cContract t) state.owned (call.run t driver controller state)
      fun state held => held = state.owned ∧ state.WellFormed t i := by
  have hforever : i2cWait (-1) = true := rfl
  cases call with
  | configurePins sdaPin sclPin pullUps => exact (i2cKeeps_configurePins h).snd
  | init baudrate => exact (i2cKeeps_init hcontroller hlt h).snd
  | deinit => exact (i2cKeeps_deinit h).snd
  | setBaudrate baudrate => exact (i2cKeeps_setBaudrate h).snd
  | writeBlocking address write => exact (i2cKeeps_write hforever h).snd
  | readBlocking address read => exact (i2cKeeps_read hforever h).snd
  | writeReadBlocking address write read => exact (i2cKeeps_writeRead hforever h).snd
  | writeTimeoutUs address write timeoutUs =>
    exact (i2cKeeps_write (i2cWait_timeoutMs timeoutUs) h).snd
  | readTimeoutUs address read timeoutUs =>
    exact (i2cKeeps_read (i2cWait_timeoutMs timeoutUs) h).snd
  | writeReadTimeoutUs address write read timeoutUs =>
    exact (i2cKeeps_writeRead (i2cWait_timeoutMs timeoutUs) h).snd

/-! ### Runs -/

/-- The adapter between two calls. -/
structure I2cSafe (t : I2cTarget) (s : I2cSystem ω) : Prop where
  /-- The driver's contract has been kept, and what is left is the buses that are open. -/
  owns : Owns (i2cContract t) s.log (s.controllers.map I2cState.owned).sum
  controllers : ∀ i (state : I2cState), s.controllers[i]? = some state → state.WellFormed t i

theorem bmxEsp32I2cState_some (h : bmxEsp32I2cState t controller = some i) :
    controller.toInt = i ∧ i < t.controllers := by
  rw [bmxEsp32I2cState] at h
  split at h
  next => cases h
  next hrange =>
    obtain rfl := Option.some.inj h
    omega

/-- A bus rests on nothing. -/
theorem I2cState.WellFormed.closed (h : state.WellFormed t i) :
    Closed (i2cContract t) state.owned := by
  intro x hx p hp
  rw [I2cState.owned] at hx
  split at hx
  next bus hbus =>
    obtain rfl := Multiset.mem_singleton.mp hx
    obtain ⟨-, controller, -, hkind⟩ := h.bus _ hbus
    rw [hkind] at hp
    exact absurd hp List.not_mem_nil
  next => exact absurd hx (Multiset.notMem_zero x)

theorem i2cStep_safe {s : I2cSystem ω} (h : I2cSafe t s) (call : I2cCall) :
    I2cSafe t (i2cStep t driver s controller call) := by
  unfold i2cStep
  split
  · exact h
  next i hplace =>
    split
    · exact h
    next state hstate =>
      obtain ⟨hcontroller, hlt⟩ := bmxEsp32I2cState_some hplace
      have hkept := run_keeps driver hcontroller hlt (h.controllers i state hstate) call
      obtain ⟨howns, hformed⟩ :=
        hkept.at_set (s.log, s.world) hstate (fun j o ho => (h.controllers j o ho).closed) h.owns
      exact ⟨howns, forall_set h.controllers hformed⟩

/-- **Every run keeps the contract of the driver.**  Whatever the driver answers, a device is
only added to an open bus, and removed before the call returns; a bus is released as often as it
has been acquired, or its controller is still open; what the table says of a bus that is open is
what it has been opened with. -/
theorem i2c_safe {s : I2cSystem ω} (h : (i2cMachine t driver).Reachable s) :
    I2cSafe t s ∧ Disciplined s.log (s.controllers.map I2cState.owned).sum := by
  have hsafe : I2cSafe t s := by
    refine h.invariant ?_ ?_
    · rintro ⟨controllers, log, world⟩ ⟨rfl, rfl⟩
      refine ⟨?_, fun i state hstate => ?_⟩
      · have hzero : ((List.replicate t.controllers ({} : I2cState)).map I2cState.owned).sum = 0 := by
          rw [List.map_replicate]
          exact List.sum_eq_zero fun x hx => List.eq_of_mem_replicate hx
        exact hzero ▸ owns_nil
      · obtain rfl := List.eq_of_mem_replicate (List.mem_of_getElem? hstate)
        refine ⟨?_, ?_, iff_of_false (not_not.mpr rfl) Bool.false_ne_true⟩
        · intro bus hbus
          cases hbus
        · intro hconfigured
          cases hconfigured
    · intro s call s' hs _ hstep
      obtain rfl := Option.some.inj hstep
      exact i2cStep_safe hs call.2
  exact ⟨hsafe, hsafe.owns.disciplined⟩

/-- A driver that fails at every second call. -/
def i2cFlakyDriver : I2cDriver Bool where
  newMasterBus _ w := (if w then espOk else espFail, !w)
  delMasterBus _ w := (if w then espOk else espFail, !w)
  addDevice _ w := (if w then espOk else espFail, !w)
  transfer _ _ w := (if w then espOk else espErrTimeout, !w)
  enterNativeSafe _ w := (w, !w)

/-- Two controllers and the pins 0 to 21. -/
def i2cTwoCores : I2cTarget where
  controllers := 2
  isValidGpio gpio := decide (gpio.toInt < 22)
  multicore := true

/-- A bus that is opened, a write that times out, a read whose device cannot be added. -/
theorem i2c_safe_flaky : ∃ s, (i2cMachine i2cTwoCores i2cFlakyDriver).Reachable s ∧
    s.log.length = 6 ∧ I2cSafe i2cTwoCores s ∧
    Disciplined s.log (s.controllers.map I2cState.owned).sum := by
  obtain ⟨s, hs, hlength⟩ := Machine.exists_reachable_of_run
    (M := i2cMachine i2cTwoCores i2cFlakyDriver)
    [(1, .configurePins 4 5 1), (1, .init 400000), (1, .writeTimeoutUs 0x42 ⟨64, 2⟩ 1),
      (1, .readBlocking 0x42 ⟨64, 2⟩)]
    (fun s => s.log.length == 6) (s := ⟨List.replicate 2 {}, [], true⟩) ⟨rfl, rfl⟩ (by decide)
  exact ⟨s, hs, of_decide_eq_true hlength, i2c_safe hs⟩

end Esp32Mod
