/-
Esp32Mod/RmtChannels.lean

The channels of the RMT adapter (`hardware.mod/rmt.mod/native/esp32_rmt.c`): how transmitters and
receivers are made, used and deleted.

The driver keeps pointers of the adapter.  The interrupt of a receiver writes its state, and the
hardware its symbols, as long as there is the channel; a transmission reads its payload, through
its encoder, until the driver says that all is done.  In `rmtContract` a receiver's channel
rests on its memory, and a transmission on its channel, its encoder and its payload: none of them
may be given back before.

Main results:

* `rmt_owns` — every run keeps the contract, whichever allocation or driver call fails, if two of
  them do not: waiting without end for a transmission, and deleting a channel or an encoder;
* `deleteRx_dangles` — the answer of `rmt_del_channel` is not read, so that a receiver whose channel
  the driver keeps loses the memory below it.
-/
import Esp32Mod.Errors
import Esp32Mod.Ownership
import Esp32Mod.RmtSymbols
import Esp32Mod.StepMachine

namespace Esp32Mod

open Ownership StepMachine

/-- `GPIO_IS_VALID_GPIO` and `GPIO_IS_VALID_OUTPUT_GPIO`. -/
structure RmtTarget where
  isValidGpio : Int32 → Bool
  isValidOutputGpio : Int32 → Bool

/-- What the adapter acquires; the encoder of symbols has no parameters. -/
inductive RmtKind
  | transmitter
  | receiver
  | symbols (capacity : UInt32)
  | payload (size : UInt32)
  | txChannel (pin : Int32) (resolutionHz : UInt32) (invert : Bool)
  | rxChannel (pin : Int32) (resolutionHz : UInt32) (invert : Bool) (state symbols : Nat)
  | copyEncoder
  | bytesEncoder (bit0 bit1 : UInt32) (msbFirst : Bool)
  | transmission (channel encoder payload : Nat) (eotLevel : Int32)
  deriving DecidableEq

/-- What it uses it for; the sizes are in bytes. -/
inductive RmtUse
  | access
  | read (count : UInt32)
  | register
  | enable
  | disable
  | carrier (frequencyHz dutyPerMille : UInt32) (activeLow : Bool)
  | receive (size : Nat) (minimumNs maximumNs : UInt32)
  deriving DecidableEq

/-- `BMX_RMT_MAX_SYMBOLS`. -/
def rmtMaxSymbols : UInt32 := 16384

/-- What a channel or a transmission is made with is in range, and each rests on what it uses. -/
def rmtContract (t : RmtTarget) : Contract RmtKind RmtUse where
  proper
    | .symbols capacity => capacity != 0 && decide (capacity ≤ rmtMaxSymbols)
    | .payload size => size != 0
    | .txChannel pin resolutionHz _ => t.isValidOutputGpio pin && resolutionHz != 0
    | .rxChannel pin resolutionHz _ _ _ => t.isValidGpio pin && resolutionHz != 0
    | .bytesEncoder bit0 bit1 _ => bmxRmtValidSymbol bit0 && bmxRmtValidSymbol bit1
    | .transmission _ _ _ eotLevel => eotLevel == 0 || eotLevel == 1
    | _ => true
  rests
    | .rxChannel _ _ _ state symbols => [state, symbols]
    | .transmission channel encoder payload _ => [channel, encoder, payload]
    | _ => []
  legal
    | .transmitter, .access => true
    | .receiver, .access => true
    | .payload _, .access => true
    | .symbols capacity, .read count => decide (count ≤ capacity)
    | .symbols capacity, .receive size _ _ => size == 4 * capacity.toNat
    | .txChannel _ _ _, .enable => true
    | .txChannel _ _ _, .disable => true
    | .txChannel _ _ _, .carrier frequencyHz dutyPerMille _ =>
      frequencyHz == 0 || dutyPerMille != 0 && decide (dutyPerMille < 1000)
    | .rxChannel _ _ _ _ _, .register => true
    | .rxChannel _ _ _ _ _, .enable => true
    | .rxChannel _ _ _ _ _, .disable => true
    | .rxChannel _ _ _ _ _, .carrier frequencyHz dutyPerMille _ =>
      frequencyHz == 0 || dutyPerMille != 0 && decide (dutyPerMille < 1000)
    | .rxChannel _ _ _ _ _, .receive _ minimumNs maximumNs =>
      minimumNs != 0 && decide (minimumNs < maximumNs)
    | _, _ => false

/-- Memory and driver; `count` and `ready` are the atomics that the interrupt writes. -/
structure RmtDriver (ω : Type) where
  memory : ω → Bool × ω
  newChannel : RmtKind → ω → EspErr × ω
  newEncoder : RmtKind → ω → EspErr × ω
  registerEventCallbacks : Handle RmtKind → ω → EspErr × ω
  enable : Handle RmtKind → ω → EspErr × ω
  disable : Handle RmtKind → ω → EspErr × ω
  applyCarrier : Handle RmtKind → RmtUse → ω → EspErr × ω
  transmit : RmtKind → ω → EspErr × ω
  waitAllDone : Handle RmtKind → ω → EspErr × ω
  /-- `rmt_del_channel` and `rmt_del_encoder` -/
  delete : Handle RmtKind → ω → EspErr × ω
  receive : Handle RmtKind → RmtUse → ω → EspErr × ω
  ready : Handle RmtKind → ω → Bool × ω
  count : Handle RmtKind → ω → UInt32 × ω

variable {ω : Type}

/-- A function of the module, which owns what it allocates and creates. -/
abbrev RmtProgram (ω : Type) := Own RmtKind RmtUse ω

/-- `BMXRMTTransmitter`. -/
structure RmtTransmitter where
  state : Handle RmtKind
  channel : Handle RmtKind
  copyEncoder : Handle RmtKind

/-- `BMXRMTReceiver`, as far as the program and not the interrupt writes it. -/
structure RmtReceiver where
  state : Handle RmtKind
  channel : Handle RmtKind
  symbols : Handle RmtKind
  capacity : UInt32
  receiving : Bool

/-- Call the driver for a channel. -/
def rmtAsk (channel : Handle RmtKind) (how : RmtUse)
    (question : Handle RmtKind → ω → EspErr × ω) : RmtProgram ω EspErr := do
  use channel how
  ask (question channel)

/-- Delete a channel or an encoder, and do not look whether the driver has done so. -/
def rmtDelete (d : RmtDriver ω) (h : Handle RmtKind) : RmtProgram ω Unit := do
  let result ← ask (d.delete h)
  if result = espOk then release h else pure ()

/-- Where there is one. -/
def rmtDeleteSome (d : RmtDriver ω) : Option (Handle RmtKind) → RmtProgram ω Unit
  | some h => rmtDelete d h
  | none => pure ()

/-- `bmx_rmt_set_carrier`. -/
def bmxRmtSetCarrier (d : RmtDriver ω) (channel : Option (Handle RmtKind))
    (frequencyHz dutyPerMille : UInt32) (activeLow : Int32) : RmtProgram ω EspErr :=
  match channel with
  | none => pure espErrInvalidArg
  | some channel =>
    if frequencyHz = 0 then
      rmtAsk channel (.carrier 0 0 false) fun channel =>
        d.applyCarrier channel (.carrier 0 0 false)
    else if dutyPerMille = 0 ∨ 1000 ≤ dutyPerMille then pure espErrInvalidArg
    else
      rmtAsk channel (.carrier frequencyHz dutyPerMille (activeLow ≠ 0)) fun channel =>
        d.applyCarrier channel (.carrier frequencyHz dutyPerMille (activeLow ≠ 0))

/-! ### Transmitters -/

/-- Give back what has been made when a step has failed. -/
def rmtFailTx (d : RmtDriver ω) (state : Handle RmtKind)
    (channel copyEncoder : Option (Handle RmtKind)) (result : EspErr) :
    RmtProgram ω (Option RmtTransmitter × EspErr) := do
  rmtDeleteSome d copyEncoder
  rmtDeleteSome d channel
  release state
  pure (none, result)

/-- `bmx_esp32_rmt_new_tx`, with `bmx_rmt_last_create_error`. -/
def bmxEsp32RmtNewTx (t : RmtTarget) (d : RmtDriver ω) (pin resolutionHz : UInt32)
    (invertOutput : Int32) : RmtProgram ω (Option RmtTransmitter × EspErr) :=
  if 0x7FFFFFFF < pin ∨ t.isValidOutputGpio pin.toInt32 = false ∨ resolutionHz = 0 then
    pure (none, espErrInvalidArg)
  else do
    let (_, state) ← attempt d.memory id .transmitter
    match state with
    | none => pure (none, espErrNoMem)
    | some state =>
      let config := .txChannel pin.toInt32 resolutionHz (invertOutput ≠ 0)
      let (result, channel) ← attempt (d.newChannel config) (· = espOk) config
      match channel with
      | none => rmtFailTx d state none none result
      | some channel =>
        let (result, copyEncoder) ← attempt (d.newEncoder .copyEncoder) (· = espOk) .copyEncoder
        match copyEncoder with
        | none => rmtFailTx d state (some channel) none result
        | some copyEncoder =>
          let result ← rmtAsk channel .enable d.enable
          if result = espOk then pure (some { state, channel, copyEncoder }, espOk)
          else rmtFailTx d state (some channel) (some copyEncoder) result

/-- `bmx_esp32_rmt_delete_tx`. -/
def bmxEsp32RmtDeleteTx (d : RmtDriver ω) (tx : RmtTransmitter) : RmtProgram ω Unit := do
  use tx.state .access
  let _ ← rmtAsk tx.channel .disable d.disable
  rmtDelete d tx.channel
  rmtDelete d tx.copyEncoder
  release tx.state
  pure ()

/-- The carrier of a transmitter. -/
def bmxEsp32RmtTxSetCarrier (d : RmtDriver ω) (tx : Option RmtTransmitter)
    (frequencyHz dutyPerMille : UInt32) (activeLow : Int32) : RmtProgram ω EspErr :=
  bmxRmtSetCarrier d (tx.map RmtTransmitter.channel) frequencyHz dutyPerMille activeLow

/-- `rmt_transmit`, and `rmt_tx_wait_all_done` without end.  As long as that has not succeeded the
driver reads the payload. -/
def rmtTransmit (d : RmtDriver ω) (tx : RmtTransmitter) (encoder payload : Handle RmtKind)
    (endLevel : Int32) : RmtProgram ω EspErr := do
  use tx.state .access
  let config := .transmission tx.channel.number encoder.number payload.number endLevel
  let (result, transmission) ← attempt (d.transmit config) (· = espOk) config
  match transmission with
  | none => pure result
  | some transmission =>
    let result ← ask (d.waitAllDone tx.channel)
    if result = espOk then
      release transmission
      pure result
    else pure result

/-- `bmx_esp32_rmt_transmit_symbols`; `words` is the memory at the pointer, NULL is none. -/
def bmxEsp32RmtTransmit (d : RmtDriver ω) (words : Option (List UInt32)) (count : UInt32)
    (endLevel : Int32) (tx : Option RmtTransmitter) : RmtProgram ω EspErr :=
  match tx, words with
  | some tx, some words =>
    if count = 0 ∨ rmtMaxSymbols < count ∨ (endLevel ≠ 0 ∧ endLevel ≠ 1) then
      pure espErrInvalidArg
    else do
      let (_, symbols) ← attempt d.memory id (.payload (4 * count))
      match symbols with
      | none => pure espErrNoMem
      | some symbols =>
        use symbols .access
        if (words.take count.toNat).all bmxRmtValidSymbol then
          let result ← rmtTransmit d tx tx.copyEncoder symbols endLevel
          release symbols
          pure result
        else
          release symbols
          pure espErrInvalidArg
  | _, _ => pure espErrInvalidArg

/-- `bmx_esp32_rmt_transmit_bytes`; `bytes` says whether there is a pointer. -/
def bmxEsp32RmtTransmitBytes (d : RmtDriver ω) (bytes : Bool)
    (count zeroSymbol oneSymbol : UInt32) (msbFirst endLevel : Int32)
    (tx : Option RmtTransmitter) : RmtProgram ω EspErr :=
  match tx with
  | none => pure espErrInvalidArg
  | some tx =>
    if bytes = false ∨ count = 0 ∨ rmtMaxSymbols < count ∨ bmxRmtValidSymbol zeroSymbol = false ∨
        bmxRmtValidSymbol oneSymbol = false ∨ (endLevel ≠ 0 ∧ endLevel ≠ 1) then
      pure espErrInvalidArg
    else do
      let (_, payload) ← attempt d.memory id (.payload count)
      match payload with
      | none => pure espErrNoMem
      | some payload =>
        use payload .access
        let config := .bytesEncoder zeroSymbol oneSymbol (msbFirst ≠ 0)
        let (result, encoder) ← attempt (d.newEncoder config) (· = espOk) config
        match encoder with
        | none =>
          release payload
          pure result
        | some encoder =>
          let result ← rmtTransmit d tx encoder payload endLevel
          rmtDelete d encoder
          release payload
          pure result

/-! ### Receivers -/

/-- Give back what has been made when a step has failed. -/
def rmtFailRx (d : RmtDriver ω) (state symbols : Handle RmtKind)
    (channel : Option (Handle RmtKind)) (result : EspErr) :
    RmtProgram ω (Option RmtReceiver × EspErr) := do
  rmtDeleteSome d channel
  release symbols
  release state
  pure (none, result)

/-- `bmx_esp32_rmt_new_rx`, with `bmx_rmt_last_create_error`. -/
def bmxEsp32RmtNewRx (t : RmtTarget) (d : RmtDriver ω) (pin resolutionHz capacity : UInt32)
    (invertInput : Int32) : RmtProgram ω (Option RmtReceiver × EspErr) :=
  if 0x7FFFFFFF < pin ∨ t.isValidGpio pin.toInt32 = false ∨ resolutionHz = 0 ∨ capacity = 0 ∨
      rmtMaxSymbols < capacity then
    pure (none, espErrInvalidArg)
  else do
    let (_, state) ← attempt d.memory id .receiver
    match state with
    | none => pure (none, espErrNoMem)
    | some state =>
      let (_, symbols) ← attempt d.memory id (.symbols capacity)
      match symbols with
      | none =>
        release state
        pure (none, espErrNoMem)
      | some symbols =>
        use state .access
        let config := .rxChannel pin.toInt32 resolutionHz (invertInput ≠ 0) state.number
          symbols.number
        let (result, channel) ← attempt (d.newChannel config) (· = espOk) config
        match channel with
        | none => rmtFailRx d state symbols none result
        | some channel =>
          let result ← rmtAsk channel .register d.registerEventCallbacks
          if result = espOk then
            let result ← rmtAsk channel .enable d.enable
            if result = espOk then
              pure (some { state, channel, symbols, capacity, receiving := false }, espOk)
            else rmtFailRx d state symbols (some channel) result
          else rmtFailRx d state symbols (some channel) result

/-- `bmx_esp32_rmt_delete_rx`. -/
def bmxEsp32RmtDeleteRx (d : RmtDriver ω) (rx : RmtReceiver) : RmtProgram ω Unit := do
  use rx.state .access
  let _ ← rmtAsk rx.channel .disable d.disable
  rmtDelete d rx.channel
  release rx.symbols
  release rx.state
  pure ()

/-- The carrier of a receiver. -/
def bmxEsp32RmtRxSetCarrier (d : RmtDriver ω) (rx : Option RmtReceiver)
    (frequencyHz dutyPerMille : UInt32) (activeLow : Int32) : RmtProgram ω EspErr :=
  bmxRmtSetCarrier d (rx.map RmtReceiver.channel) frequencyHz dutyPerMille activeLow

/-- `bmx_esp32_rmt_start_receive`, with what it makes of the receiver. -/
def bmxEsp32RmtStart (d : RmtDriver ω) (minimumNs maximumNs : UInt32) :
    Option RmtReceiver → RmtProgram ω (EspErr × Option RmtReceiver)
  | none => pure (espErrInvalidArg, none)
  | some rx =>
    if rx.receiving = true ∨ minimumNs = 0 ∨ maximumNs ≤ minimumNs then
      pure (espErrInvalidArg, some rx)
    else do
      use rx.state .access
      let how := .receive (4 * rx.capacity.toNat) minimumNs maximumNs
      use rx.symbols how
      use rx.channel how
      let result ← ask (d.receive rx.channel how)
      pure (result, some { rx with receiving := result = espOk })

/-- `bmx_esp32_rmt_read_received`, with what it makes of the receiver; `words` says whether there
is a pointer. -/
def bmxEsp32RmtRead (d : RmtDriver ω) (words : Bool) (capacity : UInt32) :
    Option RmtReceiver → RmtProgram ω (EspErr × Option RmtReceiver)
  | none => pure (espErrInvalidState, none)
  | some rx => do
    use rx.state .access
    let ready ← ask (d.ready rx.state)
    if ready then
      let count ← ask (d.count rx.state)
      if rx.capacity < count ∨ capacity < count ∨ (count ≠ 0 ∧ words = false) then
        pure (espErrInvalidSize, some rx)
      else
        use rx.symbols (.read count)
        use rx.state .access
        pure (espOk, some { rx with receiving := false })
    else pure (espErrInvalidState, some rx)

/-! ### `TRMTTransmitter` and `TRMTReceiver` -/

/-- The objects of the program; one that is closed has no handle. -/
inductive RmtObject
  | transmitter (handle : Option RmtTransmitter)
  | receiver (handle : Option RmtReceiver)

/-- The methods of the two types, with their arguments. -/
inductive RmtMethod
  | setCarrier (frequencyHz dutyPerMille : UInt32) (activeLow : Int32)
  | writeSymbols (words : Option (List UInt32)) (count : UInt32) (endLevel : Int32)
  | writeBytes (bytes : Bool) (count zeroSymbol oneSymbol : UInt32) (msbFirst endLevel : Int32)
  | start (minimumNs maximumNs : UInt32)
  | readReceived (words : Bool) (capacity : UInt32)
  | close

/-- A method leaves the object so; a method that the object does not have is not called. -/
def RmtMethod.run (d : RmtDriver ω) : RmtMethod → RmtObject → RmtProgram ω RmtObject
  | .setCarrier frequencyHz dutyPerMille activeLow, .transmitter tx =>
    (fun _ => .transmitter tx) <$> bmxEsp32RmtTxSetCarrier d tx frequencyHz dutyPerMille activeLow
  | .setCarrier frequencyHz dutyPerMille activeLow, .receiver rx =>
    (fun _ => .receiver rx) <$> bmxEsp32RmtRxSetCarrier d rx frequencyHz dutyPerMille activeLow
  | .writeSymbols words count endLevel, .transmitter tx =>
    (fun _ => .transmitter tx) <$> bmxEsp32RmtTransmit d words count endLevel tx
  | .writeBytes bytes count zeroSymbol oneSymbol msbFirst endLevel, .transmitter tx =>
    (fun _ => .transmitter tx) <$>
      bmxEsp32RmtTransmitBytes d bytes count zeroSymbol oneSymbol msbFirst endLevel tx
  | .start minimumNs maximumNs, .receiver rx =>
    (fun r => .receiver r.2) <$> bmxEsp32RmtStart d minimumNs maximumNs rx
  | .readReceived words capacity, .receiver rx =>
    (fun r => .receiver r.2) <$> bmxEsp32RmtRead d words capacity rx
  | .close, .transmitter (some tx) =>
    (fun _ => .transmitter none) <$> bmxEsp32RmtDeleteTx d tx
  | .close, .receiver (some rx) => (fun _ => .receiver none) <$> bmxEsp32RmtDeleteRx d rx
  | _, object => pure object

/-- The calls of the application. -/
inductive RmtCall
  | createTransmitter (pin resolutionHz : UInt32) (invertOutput : Int32)
  | createReceiver (pin capacity resolutionHz : UInt32) (invertInput : Int32)
  | method (i : Nat) (call : RmtMethod)

/-- The objects that have been made, and what the driver has been asked for them. -/
structure RmtObjects (ω : Type) where
  objects : List RmtObject
  createError : EspErr
  log : List (Op RmtKind RmtUse)
  world : ω

/-- A method of an object that there is not does nothing. -/
def rmtObjectsStep (t : RmtTarget) (d : RmtDriver ω) (s : RmtObjects ω) : RmtCall → RmtObjects ω
  | .createTransmitter pin resolutionHz invertOutput =>
    let ((tx, error), log, world) :=
      bmxEsp32RmtNewTx t d pin resolutionHz invertOutput (s.log, s.world)
    { objects := s.objects ++ (tx.map fun tx => .transmitter (some tx)).toList,
      createError := error, log, world }
  | .createReceiver pin capacity resolutionHz invertInput =>
    let ((rx, error), log, world) :=
      bmxEsp32RmtNewRx t d pin resolutionHz capacity invertInput (s.log, s.world)
    { objects := s.objects ++ (rx.map fun rx => .receiver (some rx)).toList,
      createError := error, log, world }
  | .method i call =>
    match s.objects[i]? with
    | none => s
    | some object =>
      let (object, log, world) := call.run d object (s.log, s.world)
      { s with objects := s.objects.set i object, log, world }

/-- Calls of the application, in any order. -/
def rmtObjectsMachine (t : RmtTarget) (d : RmtDriver ω) : Machine (RmtObjects ω) RmtCall where
  init s := s.objects = [] ∧ s.createError = espOk ∧ s.log = []
  step s call := some (rmtObjectsStep t d s call)

/-! ### What the objects own -/

variable {t : RmtTarget} {d : RmtDriver ω} {P : Multiset (Handle RmtKind)} {how : RmtUse}
  {channel : Handle RmtKind} {tx : RmtTransmitter} {rx : RmtReceiver}

/-- What `delete_tx` has to give back. -/
def RmtTransmitter.owned (tx : RmtTransmitter) : Multiset (Handle RmtKind) :=
  tx.copyEncoder ::ₘ tx.channel ::ₘ tx.state ::ₘ 0

/-- What `delete_rx` has to give back. -/
def RmtReceiver.owned (rx : RmtReceiver) : Multiset (Handle RmtKind) :=
  rx.channel ::ₘ rx.symbols ::ₘ rx.state ::ₘ 0

/-- What an object has to give back. -/
def RmtObject.owned : RmtObject → Multiset (Handle RmtKind)
  | .transmitter (some tx) => tx.owned
  | .receiver (some rx) => rx.owned
  | _ => 0

/-- Its handles are of their kinds. -/
structure RmtTransmitter.WellFormed (tx : RmtTransmitter) : Prop where
  state : tx.state.kind = .transmitter
  channel : ∃ pin resolutionHz invert, tx.channel.kind = .txChannel pin resolutionHz invert
  copyEncoder : tx.copyEncoder.kind = .copyEncoder

/-- The channel rests on the memory of the receiver. -/
structure RmtReceiver.WellFormed (rx : RmtReceiver) : Prop where
  state : rx.state.kind = .receiver
  channel : ∃ pin resolutionHz invert,
    rx.channel.kind = .rxChannel pin resolutionHz invert rx.state.number rx.symbols.number
  symbols : rx.symbols.kind = .symbols rx.capacity
  fresh : rx.channel.number ∉ [rx.state.number, rx.symbols.number]

/-- The handles of an object are of their kinds. -/
def RmtObject.WellFormed : RmtObject → Prop
  | .transmitter (some tx) => tx.WellFormed
  | .receiver (some rx) => rx.WellFormed
  | _ => True

theorem RmtTransmitter.WellFormed.plain (h : tx.WellFormed) : Plain (rmtContract t) tx.owned := by
  obtain ⟨pin, resolutionHz, invert, hchannel⟩ := h.channel
  refine Plain.cons ?_ (Plain.cons ?_ (Plain.cons ?_ plain_zero))
  · rw [h.copyEncoder]; rfl
  · rw [hchannel]; rfl
  · rw [h.state]; rfl

/-- The memory of a receiver. -/
theorem RmtReceiver.WellFormed.plain (h : rx.WellFormed) :
    Plain (rmtContract t) (rx.symbols ::ₘ rx.state ::ₘ 0) := by
  refine Plain.cons ?_ (Plain.cons ?_ plain_zero)
  · rw [h.symbols]; rfl
  · rw [h.state]; rfl

theorem RmtObject.WellFormed.closed {object : RmtObject} (h : object.WellFormed) :
    Closed (rmtContract t) object.owned := by
  match object, h with
  | .transmitter (some tx), h => exact RmtTransmitter.WellFormed.plain h |>.closed
  | .receiver (some rx), h =>
    obtain ⟨pin, resolutionHz, invert, hchannel⟩ := RmtReceiver.WellFormed.channel h
    intro x hx p hp
    rw [RmtObject.owned, RmtReceiver.owned] at hx ⊢
    rcases Multiset.mem_cons.mp hx with rfl | hx
    · rw [hchannel] at hp
      simp only [rmtContract, List.mem_cons, List.not_mem_nil, or_false] at hp
      simp only [Multiset.map_cons, Multiset.mem_cons]
      tauto
    · exact absurd hp ((RmtReceiver.WellFormed.plain h).free p x hx)
  | .transmitter none, _ => exact closed_zero
  | .receiver none, _ => exact closed_zero

/-! ### Making and deleting -/

theorem rmtAsk_triple {question : Handle RmtKind → ω → EspErr × ω} (hmem : channel ∈ P)
    (hlegal : (rmtContract t).legal channel.kind how) :
    Triple (rmtContract t) P (rmtAsk channel how question) fun _ held => held = P :=
  Triple.use hmem hlegal fun _ _ _ hlog => ⟨P, rfl, hlog⟩

theorem setCarrier_triple {o : Option (Handle RmtKind)} {frequencyHz dutyPerMille : UInt32}
    {activeLow : Int32} (hmem : ∀ channel, o = some channel → channel ∈ P)
    (hlegal : ∀ channel frequencyHz dutyPerMille activeLow, o = some channel →
      (frequencyHz = 0 ∨ dutyPerMille ≠ 0 ∧ dutyPerMille < 1000) →
      (rmtContract t).legal channel.kind (.carrier frequencyHz dutyPerMille activeLow)) :
    Triple (rmtContract t) P (bmxRmtSetCarrier d o frequencyHz dutyPerMille activeLow)
      fun _ held => held = P := by
  unfold bmxRmtSetCarrier
  split
  · exact Triple.pure rfl
  next channel =>
    split
    · exact rmtAsk_triple (hmem _ rfl) (hlegal _ _ _ _ rfl (.inl rfl))
    split
    · exact Triple.pure rfl
    next hduty =>
      rw [not_or, UInt32.not_le] at hduty
      exact rmtAsk_triple (hmem _ rfl) (hlegal _ _ _ _ rfl (.inr hduty))

/-- **What the driver is told to delete it deletes.**  A channel that is enabled it does not: that
is what `rmt_disable` is called for before. -/
def RmtDriver.Deletes (d : RmtDriver ω) : Prop := ∀ h w, (d.delete h w).1 = espOk

section Deletes

variable {α : Type} {h : Handle RmtKind} {o : Option (Handle RmtKind)}
  {k : Unit → RmtProgram ω α} {Q : α → Multiset (Handle RmtKind) → Prop}

theorem rmtDelete_triple (hdeletes : d.Deletes)
    (hfree : ∀ x ∈ h ::ₘ P, h.number ∉ (rmtContract t).rests x.kind)
    (hk : Triple (rmtContract t) P (k ()) Q) :
    Triple (rmtContract t) (h ::ₘ P) (rmtDelete d h >>= k) Q := by
  have hdelete : Triple (rmtContract t) (h ::ₘ P) (rmtDelete d h) fun _ held => held = P := by
    refine Triple.ask_of (· = espOk) (hdeletes h) fun result hok => ?_
    rw [if_pos hok]
    apply Triple.release (Multiset.mem_cons_self _ _) hfree
    exact Triple.pure (Multiset.erase_cons_head _ _)
  refine hdelete.bind ?_
  rintro _ _ rfl
  exact hk

theorem rmtDelete_plain (hdeletes : d.Deletes) (hplain : Plain (rmtContract t) (h ::ₘ P))
    (hk : Plain (rmtContract t) P → Triple (rmtContract t) P (k ()) Q) :
    Triple (rmtContract t) (h ::ₘ P) (rmtDelete d h >>= k) Q := by
  refine rmtDelete_triple hdeletes (hplain.free _) (hk fun x hx => hplain x ?_)
  exact Multiset.mem_cons_of_mem hx

theorem rmtDeleteSome_triple (hdeletes : d.Deletes)
    (hfree : ∀ h, o = some h → ∀ x ∈ h ::ₘ P, h.number ∉ (rmtContract t).rests x.kind)
    (hk : Triple (rmtContract t) P (k ()) Q) :
    Triple (rmtContract t) (heldSome o + P) (rmtDeleteSome d o >>= k) Q := by
  cases o with
  | none =>
    rw [heldSome, zero_add]
    exact hk
  | some h =>
    rw [heldSome, Multiset.singleton_add]
    exact rmtDelete_triple hdeletes (hfree h rfl) hk

theorem rmtDeleteSome_plain (hdeletes : d.Deletes)
    (hplain : Plain (rmtContract t) (heldSome o + P))
    (hk : Plain (rmtContract t) P → Triple (rmtContract t) P (k ()) Q) :
    Triple (rmtContract t) (heldSome o + P) (rmtDeleteSome d o >>= k) Q := by
  refine rmtDeleteSome_triple hdeletes ?_ (hk fun x hx => hplain x (Multiset.mem_add.mpr (.inr hx)))
  rintro h rfl
  rw [heldSome, Multiset.singleton_add] at hplain
  exact hplain.free _

/-- What the driver does not delete is still held. -/
theorem rmtDelete_kept {s : List (Op RmtKind RmtUse) × ω} (hkept : (d.delete h s.2).1 ≠ espOk) :
    rmtDelete d h s = ((), s.1, (d.delete h s.2).2) := by
  show (if (d.delete h s.2).1 = espOk then release h else pure ()) (s.1, (d.delete h s.2).2) = _
  rw [if_neg hkept]
  rfl

end Deletes

theorem failTx_triple {state : Handle RmtKind} {channel copyEncoder : Option (Handle RmtKind)}
    {result : EspErr} (hdeletes : d.Deletes) (hplain : Plain (rmtContract t) P)
    (hheld : P = heldSome copyEncoder + (heldSome channel + state ::ₘ 0)) :
    Triple (rmtContract t) P (rmtFailTx d state channel copyEncoder result)
      fun r held => r.1 = none ∧ held = 0 := by
  subst hheld
  refine rmtDeleteSome_plain hdeletes hplain fun hplain => ?_
  refine rmtDeleteSome_plain hdeletes hplain fun hplain => ?_
  exact Triple.release_plain hplain fun _ => Triple.pure ⟨rfl, rfl⟩

/-- What a function that makes a transmitter leaves. -/
def RmtTxMade (r : Option RmtTransmitter × EspErr) (held : Multiset (Handle RmtKind)) : Prop :=
  held = (RmtObject.transmitter r.1).owned ∧ (RmtObject.transmitter r.1).WellFormed

theorem failTx_made {state : Handle RmtKind} {channel copyEncoder : Option (Handle RmtKind)}
    {result : EspErr} (hdeletes : d.Deletes) (hplain : Plain (rmtContract t) P)
    (hheld : P = heldSome copyEncoder + (heldSome channel + state ::ₘ 0)) :
    Triple (rmtContract t) P (rmtFailTx d state channel copyEncoder result) RmtTxMade := by
  refine (failTx_triple hdeletes hplain hheld).conseq ?_
  rintro ⟨tx, error⟩ held ⟨htx, rfl⟩
  obtain rfl : tx = none := htx
  exact ⟨rfl, trivial⟩

theorem newTx_triple (hdeletes : d.Deletes) {pin resolutionHz : UInt32} {invertOutput : Int32} :
    Triple (rmtContract t) 0 (bmxEsp32RmtNewTx t d pin resolutionHz invertOutput) RmtTxMade := by
  unfold bmxEsp32RmtNewTx
  split
  · exact Triple.pure ⟨rfl, trivial⟩
  next hvalid =>
    simp only [not_or, Bool.not_eq_false] at hvalid
    refine Triple.attempt rfl (fun _ hp => absurd hp List.not_mem_nil)
      (fun _ _ => Triple.pure ⟨rfl, trivial⟩) fun _ state _ hstate _ => ?_
    have hplain₁ : Plain (rmtContract t) (state ::ₘ 0) := plain_zero.cons (by rw [hstate]; rfl)
    refine Triple.attempt ?_ (fun _ hp => absurd hp List.not_mem_nil)
      (fun _ _ => failTx_made hdeletes hplain₁ ?_) fun _ channel _ hchannel _ => ?_
    · simp [rmtContract, hvalid]
    · simp only [heldSome, zero_add]
    have hplain₂ : Plain (rmtContract t) (channel ::ₘ state ::ₘ 0) :=
      hplain₁.cons (by rw [hchannel]; rfl)
    refine Triple.attempt rfl (fun _ hp => absurd hp List.not_mem_nil)
      (fun _ _ => failTx_made hdeletes hplain₂ ?_) fun _ copyEncoder _ hencoder _ => ?_
    · simp only [heldSome, zero_add, Multiset.singleton_add]
    refine (rmtAsk_triple (Multiset.mem_cons_of_mem (Multiset.mem_cons_self _ _))
      (by rw [hchannel]; rfl)).bind ?_
    rintro result _ rfl
    split
    · exact Triple.pure ⟨rfl, hstate, ⟨_, _, _, hchannel⟩, hencoder⟩
    · refine failTx_made hdeletes (hplain₂.cons (by rw [hencoder]; rfl)) ?_
      simp only [heldSome, Multiset.singleton_add]

theorem deleteTx_triple (hdeletes : d.Deletes) (h : tx.WellFormed) :
    Triple (rmtContract t) tx.owned (bmxEsp32RmtDeleteTx d tx) fun _ held => held = 0 := by
  obtain ⟨pin, resolutionHz, invert, hchannel⟩ := h.channel
  have hplain := h.plain (t := t)
  unfold RmtTransmitter.owned at hplain ⊢
  refine Triple.use (by simp) (by rw [h.state]; rfl) ?_
  refine (rmtAsk_triple (by simp) (by rw [hchannel]; rfl)).bind ?_
  rintro _ _ rfl
  rw [Multiset.cons_swap] at hplain ⊢
  refine rmtDelete_plain hdeletes hplain fun hplain => ?_
  refine rmtDelete_plain hdeletes hplain fun hplain => ?_
  exact Triple.release_plain hplain fun _ => Triple.pure rfl

/-! ### Transmitting -/

/-- Waiting without end for a transmission comes to an end. -/
def RmtDriver.Waits (d : RmtDriver ω) : Prop := ∀ channel w, (d.waitAllDone channel w).1 = espOk

/-- The driver has given back the payload. -/
theorem rmtTransmit_triple {encoder payload : Handle RmtKind} {endLevel : Int32}
    (hwaits : d.Waits) (h : tx.WellFormed) (hlevel : endLevel = 0 ∨ endLevel = 1)
    (hstate : tx.state ∈ P) (hchannel : tx.channel ∈ P) (hencoder : encoder ∈ P)
    (hpayload : payload ∈ P) :
    Triple (rmtContract t) P (rmtTransmit d tx encoder payload endLevel)
      fun _ held => held = P := by
  refine Triple.use hstate (by rw [h.state]; rfl) ?_
  refine Triple.attempt ?_ ?_ (fun _ _ => Triple.pure rfl) fun _ transmission _ _ hfree => ?_
  · rcases hlevel with rfl | rfl <;> rfl
  · intro p hp
    simp only [rmtContract, List.mem_cons, List.not_mem_nil, or_false] at hp
    rcases hp with rfl | rfl | rfl
    · exact Multiset.mem_map_of_mem _ hchannel
    · exact Multiset.mem_map_of_mem _ hencoder
    · exact Multiset.mem_map_of_mem _ hpayload
  · refine Triple.ask_of (fun result => result = espOk) (hwaits tx.channel) fun result hok => ?_
    rw [if_pos hok]
    refine Triple.release (Multiset.mem_cons_self _ _) hfree (Triple.pure ?_)
    exact Multiset.erase_cons_head _ _

theorem level_of_not {endLevel : Int32} (h : ¬ (endLevel ≠ 0 ∧ endLevel ≠ 1)) :
    endLevel = 0 ∨ endLevel = 1 := by
  by_cases hzero : endLevel = 0
  · exact .inl hzero
  · exact .inr (not_not.mp fun hone => h ⟨hzero, hone⟩)

theorem transmit_triple {words : Option (List UInt32)} {count : UInt32} {endLevel : Int32}
    (hwaits : d.Waits) (h : tx.WellFormed) :
    Triple (rmtContract t) tx.owned (bmxEsp32RmtTransmit d words count endLevel (some tx))
      fun _ held => held = tx.owned := by
  cases words with
  | none => exact Triple.pure rfl
  | some words =>
    unfold bmxEsp32RmtTransmit
    dsimp only
    split
    · exact Triple.pure rfl
    next hvalid =>
      simp only [not_or, UInt32.not_lt] at hvalid
      obtain ⟨hcount, hmax, hlevel⟩ := hvalid
      -- the size in bytes does not wrap
      have hsize : 4 * count ≠ 0 := by
        have hlow : count.toNat ≤ 16384 := UInt32.le_iff_toNat_le.mp hmax
        have hzero : count.toNat ≠ 0 := fun hzero => hcount (UInt32.toNat_inj.mp hzero)
        intro heq
        have hproduct := congrArg UInt32.toNat heq
        rw [UInt32.toNat_mul] at hproduct
        have hnat : 4 * count.toNat % 2 ^ 32 = 0 := hproduct
        omega
      refine Triple.attempt (by simp [rmtContract, hsize]) (fun _ hp => absurd hp List.not_mem_nil)
        (fun _ _ => Triple.pure rfl) fun _ symbols _ hsymbols _ => ?_
      have hplain : Plain (rmtContract t) (symbols ::ₘ tx.owned) :=
        h.plain.cons (by rw [hsymbols]; rfl)
      refine Triple.use (Multiset.mem_cons_self _ _) (by rw [hsymbols]; rfl) ?_
      split
      · -- the driver waits until it has read the symbols, so they may be released
        refine (rmtTransmit_triple hwaits h (level_of_not hlevel) ?_ ?_ ?_ ?_).bind ?_
        · simp [RmtTransmitter.owned]
        · simp [RmtTransmitter.owned]
        · simp [RmtTransmitter.owned]
        · exact Multiset.mem_cons_self _ _
        · rintro result _ rfl
          exact Triple.release_plain hplain fun _ => Triple.pure rfl
      · exact Triple.release_plain hplain fun _ => Triple.pure rfl

theorem transmitBytes_triple {bytes : Bool} {count zeroSymbol oneSymbol : UInt32}
    {msbFirst endLevel : Int32} (hwaits : d.Waits) (hdeletes : d.Deletes) (h : tx.WellFormed) :
    Triple (rmtContract t) tx.owned
      (bmxEsp32RmtTransmitBytes d bytes count zeroSymbol oneSymbol msbFirst endLevel (some tx))
      fun _ held => held = tx.owned := by
  unfold bmxEsp32RmtTransmitBytes
  dsimp only
  split
  · exact Triple.pure rfl
  next hvalid =>
    simp only [not_or, Bool.not_eq_false] at hvalid
    obtain ⟨-, hcount, -, hzero, hone, hlevel⟩ := hvalid
    refine Triple.attempt (by simp [rmtContract, hcount]) (fun _ hp => absurd hp List.not_mem_nil)
      (fun _ _ => Triple.pure rfl) fun _ payload _ hpayload _ => ?_
    have hplain : Plain (rmtContract t) (payload ::ₘ tx.owned) :=
      h.plain.cons (by rw [hpayload]; rfl)
    refine Triple.use (Multiset.mem_cons_self _ _) (by rw [hpayload]; rfl) ?_
    refine Triple.attempt (by simp [rmtContract, hzero, hone])
      (fun _ hp => absurd hp List.not_mem_nil)
      (fun _ _ => Triple.release_plain hplain fun _ => Triple.pure rfl)
      fun _ encoder _ hencoder _ => ?_
    refine (rmtTransmit_triple hwaits h (level_of_not hlevel) ?_ ?_ ?_ ?_).bind ?_
    · simp [RmtTransmitter.owned]
    · simp [RmtTransmitter.owned]
    · exact Multiset.mem_cons_self _ _
    · exact Multiset.mem_cons_of_mem (Multiset.mem_cons_self _ _)
    · rintro result _ rfl
      have hplain' := hplain.cons (h := encoder) (by rw [hencoder]; rfl)
      refine rmtDelete_plain hdeletes hplain' fun _ => ?_
      exact Triple.release_plain hplain fun _ => Triple.pure rfl

/-! ### Receivers -/

/-- What a function that makes a receiver leaves. -/
def RmtRxMade (r : Option RmtReceiver × EspErr) (held : Multiset (Handle RmtKind)) : Prop :=
  held = (RmtObject.receiver r.1).owned ∧ (RmtObject.receiver r.1).WellFormed

/-- The channel is given back before the memory that it rests on. -/
theorem failRx_made {state symbols : Handle RmtKind} {channel : Option (Handle RmtKind)}
    {result : EspErr} (hdeletes : d.Deletes)
    (hplain : Plain (rmtContract t) (symbols ::ₘ state ::ₘ 0))
    (hfree : ∀ h, channel = some h →
      ∀ x ∈ h ::ₘ symbols ::ₘ state ::ₘ 0, h.number ∉ (rmtContract t).rests x.kind)
    (hheld : P = heldSome channel + symbols ::ₘ state ::ₘ 0) :
    Triple (rmtContract t) P (rmtFailRx d state symbols channel result) RmtRxMade := by
  subst hheld
  refine rmtDeleteSome_triple hdeletes hfree ?_
  refine Triple.release_plain hplain fun hplain => ?_
  exact Triple.release_plain hplain fun _ => Triple.pure ⟨rfl, trivial⟩

theorem newRx_triple (hdeletes : d.Deletes) {pin resolutionHz capacity : UInt32}
    {invertInput : Int32} :
    Triple (rmtContract t) 0 (bmxEsp32RmtNewRx t d pin resolutionHz capacity invertInput)
      RmtRxMade := by
  unfold bmxEsp32RmtNewRx
  split
  · exact Triple.pure ⟨rfl, trivial⟩
  next hvalid =>
    simp only [not_or, Bool.not_eq_false, UInt32.not_lt] at hvalid
    obtain ⟨-, hpin, hresolution, hcapacity, hmax⟩ := hvalid
    refine Triple.attempt rfl (fun _ hp => absurd hp List.not_mem_nil)
      (fun _ _ => Triple.pure ⟨rfl, trivial⟩) fun _ state _ hstate _ => ?_
    -- the state and the symbols are memory, which anything may rest on
    have hplain₁ : Plain (rmtContract t) (state ::ₘ 0) := plain_zero.cons (by rw [hstate]; rfl)
    refine Triple.attempt (by simp [rmtContract, hcapacity, hmax])
      (fun _ hp => absurd hp List.not_mem_nil)
      (fun _ _ => Triple.release_plain hplain₁ fun _ => Triple.pure ⟨rfl, trivial⟩)
      fun _ symbols _ hsymbols _ => ?_
    have hplain₂ : Plain (rmtContract t) (symbols ::ₘ state ::ₘ 0) :=
      hplain₁.cons (by rw [hsymbols]; rfl)
    refine Triple.use (Multiset.mem_cons_of_mem (Multiset.mem_cons_self _ _))
      (by rw [hstate]; rfl) ?_
    refine Triple.attempt (by simp [rmtContract, hpin, hresolution]) ?_
      (fun _ _ => failRx_made hdeletes hplain₂ (fun _ hnone => by cases hnone) ?_)
      fun _ channel _ hchannel hfree => ?_
    · intro p hp
      simp only [rmtContract, List.mem_cons, List.not_mem_nil, or_false] at hp
      simp only [Multiset.map_cons, Multiset.mem_cons]
      tauto
    · rw [heldSome, zero_add]
    have hfree' : ∀ h, some channel = some h → ∀ x ∈ h ::ₘ symbols ::ₘ state ::ₘ 0,
        h.number ∉ (rmtContract t).rests x.kind := by
      rintro _ ⟨rfl⟩
      exact hfree
    have hheld : channel ::ₘ symbols ::ₘ state ::ₘ 0 =
        heldSome (some channel) + symbols ::ₘ state ::ₘ 0 := by
      rw [heldSome, Multiset.singleton_add]
    -- the callbacks are registered, then the channel is enabled; a failure undoes all of it
    refine (rmtAsk_triple (Multiset.mem_cons_self _ _) (by rw [hchannel]; rfl)).bind ?_
    rintro result _ rfl
    split
    · refine (rmtAsk_triple (Multiset.mem_cons_self _ _) (by rw [hchannel]; rfl)).bind ?_
      rintro result _ rfl
      split
      · refine Triple.pure ⟨rfl, hstate, ⟨_, _, _, hchannel⟩, hsymbols, ?_⟩
        have hself := hfree channel (Multiset.mem_cons_self _ _)
        rw [hchannel] at hself
        exact hself
      · exact failRx_made hdeletes hplain₂ hfree' hheld
    · exact failRx_made hdeletes hplain₂ hfree' hheld

/-- Nothing of a receiver rests on its channel. -/
theorem RmtReceiver.WellFormed.channel_free (h : rx.WellFormed) :
    ∀ x ∈ rx.owned, rx.channel.number ∉ (rmtContract t).rests x.kind := by
  obtain ⟨pin, resolutionHz, invert, hchannel⟩ := h.channel
  intro x hx
  rcases Multiset.mem_cons.mp hx with rfl | hx
  · rw [hchannel]
    exact h.fresh
  · exact h.plain.free _ x hx

theorem deleteRx_triple (hdeletes : d.Deletes) (h : rx.WellFormed) :
    Triple (rmtContract t) rx.owned (bmxEsp32RmtDeleteRx d rx) fun _ held => held = 0 := by
  obtain ⟨pin, resolutionHz, invert, hchannel⟩ := h.channel
  refine Triple.use (by simp [RmtReceiver.owned]) (by rw [h.state]; rfl) ?_
  refine (rmtAsk_triple (by simp [RmtReceiver.owned]) (by rw [hchannel]; rfl)).bind ?_
  rintro _ _ rfl
  refine rmtDelete_triple hdeletes h.channel_free ?_
  refine Triple.release_plain h.plain fun hplain => ?_
  exact Triple.release_plain hplain fun _ => Triple.pure rfl

/-- **The condition is needed**: if the driver keeps the channel of a receiver that is deleted,
whatever it has been asked before, the symbols are given back under it. -/
theorem deleteRx_dangles {F held : Multiset (Handle RmtKind)} {s : List (Op RmtKind RmtUse) × ω}
    (h : rx.WellFormed) (hlog : Owns (rmtContract t) s.1 (F + rx.owned))
    (hkept : (d.delete rx.channel (d.disable rx.channel s.2).2).1 ≠ espOk) :
    ¬ Owns (rmtContract t) (bmxEsp32RmtDeleteRx d rx s).2.1 held := by
  obtain ⟨pin, resolutionHz, invert, hchannel⟩ := h.channel
  have hmem : ∀ x ∈ rx.owned, x ∈ F + rx.owned := fun x hx => Multiset.mem_add.mpr (.inr hx)
  have hops : (bmxEsp32RmtDeleteRx d rx s).2.1 =
      (s.1 ++ [.use rx.state .access] ++ [.use rx.channel .disable]) ++
        .release rx.symbols :: [.release rx.state] := by
    have hdelete : rmtDelete d rx.channel (s.1 ++ [.use rx.state .access] ++
          [.use rx.channel .disable], (d.disable rx.channel s.2).2) =
        ((), s.1 ++ [.use rx.state .access] ++ [.use rx.channel .disable],
          (d.delete rx.channel (d.disable rx.channel s.2).2).2) :=
      rmtDelete_kept hkept
    calc (bmxEsp32RmtDeleteRx d rx s).2.1
        = (rmtDelete d rx.channel (s.1 ++ [.use rx.state .access] ++
            [.use rx.channel .disable], (d.disable rx.channel s.2).2)).2.1 ++
            [.release rx.symbols] ++ [.release rx.state] := rfl
      _ = s.1 ++ [.use rx.state .access] ++ [.use rx.channel .disable] ++
            [.release rx.symbols] ++ [.release rx.state] := by rw [hdelete]
      _ = _ := List.append_assoc _ _ _
  intro howns
  rw [hops] at howns
  obtain ⟨before, after, hbefore, hact⟩ := howns.split
  obtain ⟨⟨-, hfree⟩, -⟩ := act_release_some hact
  -- what is held before is what has been held, the channel with it
  have haccess : act (rmtContract t) s.1.length (F + rx.owned) (.use rx.state .access) =
      some (F + rx.owned) := by
    rw [act, if_pos ⟨hmem _ (by simp [RmtReceiver.owned]), by rw [h.state]; rfl⟩]
  have hdisable : act (rmtContract t) (s.1 ++ [Op.use rx.state RmtUse.access]).length (F + rx.owned)
      (.use rx.channel .disable) = some (F + rx.owned) := by
    rw [act, if_pos ⟨hmem _ (by simp [RmtReceiver.owned]), by rw [hchannel]; rfl⟩]
  obtain rfl := Option.some.inj (((hlog.concat haccess).concat hdisable).symm.trans hbefore)
  refine hfree rx.channel (hmem _ (by simp [RmtReceiver.owned])) ?_
  rw [hchannel]
  exact List.mem_cons_of_mem _ List.mem_cons_self

theorem start_triple {minimumNs maximumNs : UInt32} (h : rx.WellFormed) :
    Triple (rmtContract t) rx.owned (bmxEsp32RmtStart d minimumNs maximumNs (some rx))
      fun r held => held = (RmtObject.receiver r.2).owned ∧
        (RmtObject.receiver r.2).WellFormed := by
  obtain ⟨pin, resolutionHz, invert, hchannel⟩ := h.channel
  unfold bmxEsp32RmtStart
  dsimp only
  split
  · exact Triple.pure ⟨rfl, h⟩
  next hvalid =>
    simp only [not_or, UInt32.not_le] at hvalid
    obtain ⟨-, hminimum, hrange⟩ := hvalid
    refine Triple.use (by simp [RmtReceiver.owned]) (by rw [h.state]; rfl) ?_
    refine Triple.use (by simp [RmtReceiver.owned]) (by rw [h.symbols]; simp [rmtContract]) ?_
    refine Triple.use (by simp [RmtReceiver.owned])
      (by rw [hchannel]; simp [rmtContract, hminimum, hrange]) ?_
    exact Triple.ask fun result => Triple.pure ⟨rfl, h.state, h.channel, h.symbols, h.fresh⟩

theorem read_triple {words : Bool} {capacity : UInt32} (h : rx.WellFormed) :
    Triple (rmtContract t) rx.owned (bmxEsp32RmtRead d words capacity (some rx))
      fun r held => held = (RmtObject.receiver r.2).owned ∧
        (RmtObject.receiver r.2).WellFormed := by
  refine Triple.use (by simp [RmtReceiver.owned]) (by rw [h.state]; rfl) ?_
  refine Triple.ask fun ready => ?_
  split
  · refine Triple.ask fun count => ?_
    split
    · exact Triple.pure ⟨rfl, h⟩
    next hfits =>
      simp only [not_or, UInt32.not_lt] at hfits
      refine Triple.use (by simp [RmtReceiver.owned])
        (by rw [h.symbols]; exact decide_eq_true hfits.1) ?_
      refine Triple.use (by simp [RmtReceiver.owned]) (by rw [h.state]; rfl) ?_
      exact Triple.pure ⟨rfl, h.state, h.channel, h.symbols, h.fresh⟩
  · exact Triple.pure ⟨rfl, h⟩

/-! ### Runs -/

variable {object : RmtObject}

/-- What is held is what the object owns, and that is as it should be. -/
def RmtKept (object : RmtObject) (held : Multiset (Handle RmtKind)) : Prop :=
  held = object.owned ∧ object.WellFormed

theorem method_kept (hwaits : d.Waits) (hdeletes : d.Deletes) (h : object.WellFormed) (call : RmtMethod) :
    Triple (rmtContract t) object.owned (call.run d object) RmtKept := by
  have hkept : ∀ {prog : RmtProgram ω EspErr},
      Triple (rmtContract t) object.owned prog (fun _ held => held = object.owned) →
        Triple (rmtContract t) object.owned ((fun _ => object) <$> prog) RmtKept := by
    intro prog hprog
    exact Triple.map (hprog.conseq fun _ _ hheld => ⟨hheld, h⟩)
  have hunchanged : Triple (rmtContract t) object.owned (pure object : RmtProgram ω _) RmtKept :=
    Triple.pure ⟨rfl, h⟩
  -- a method of a closed object asks nothing of the driver
  cases object with
  | transmitter handle =>
    cases handle with
    | none =>
      cases call with
      | setCarrier frequencyHz dutyPerMille activeLow =>
        exact hkept (setCarrier_triple (fun _ hnone => by cases hnone)
          (fun _ _ _ _ hnone => by cases hnone))
      | writeSymbols words count endLevel => exact hkept (Triple.pure rfl)
      | writeBytes bytes count zeroSymbol oneSymbol msbFirst endLevel =>
        exact hkept (Triple.pure rfl)
      | _ => exact hunchanged
    | some tx =>
      have htx : tx.WellFormed := h
      obtain ⟨pin, resolutionHz, invert, hchannel⟩ := htx.channel
      cases call with
      | setCarrier frequencyHz dutyPerMille activeLow =>
        refine hkept (setCarrier_triple ?_ ?_)
        · rintro _ ⟨rfl⟩
          simp [RmtObject.owned, RmtTransmitter.owned]
        · rintro _ _ _ _ ⟨rfl⟩ hduty
          rw [hchannel]
          simpa [rmtContract] using hduty
      | writeSymbols words count endLevel => exact hkept (transmit_triple hwaits htx)
      | writeBytes bytes count zeroSymbol oneSymbol msbFirst endLevel =>
        exact hkept (transmitBytes_triple hwaits hdeletes htx)
      | close =>
        exact Triple.map ((deleteTx_triple hdeletes htx).conseq fun _ _ hheld => ⟨hheld, trivial⟩)
      | _ => exact hunchanged
  | receiver handle =>
    cases handle with
    | none =>
      cases call with
      | setCarrier frequencyHz dutyPerMille activeLow =>
        exact hkept (setCarrier_triple (fun _ hnone => by cases hnone)
          (fun _ _ _ _ hnone => by cases hnone))
      | start minimumNs maximumNs => exact Triple.map (Triple.pure ⟨rfl, trivial⟩)
      | readReceived words capacity => exact Triple.map (Triple.pure ⟨rfl, trivial⟩)
      | _ => exact hunchanged
    | some rx =>
      have hrx : rx.WellFormed := h
      obtain ⟨pin, resolutionHz, invert, hchannel⟩ := hrx.channel
      cases call with
      | setCarrier frequencyHz dutyPerMille activeLow =>
        refine hkept (setCarrier_triple ?_ ?_)
        · rintro _ ⟨rfl⟩
          simp [RmtObject.owned, RmtReceiver.owned]
        · rintro _ _ _ _ ⟨rfl⟩ hduty
          rw [hchannel]
          simpa [rmtContract] using hduty
      | start minimumNs maximumNs => exact Triple.map (start_triple hrx)
      | readReceived words capacity => exact Triple.map (read_triple hrx)
      | close =>
        exact Triple.map ((deleteRx_triple hdeletes hrx).conseq fun _ _ hheld => ⟨hheld, trivial⟩)
      | _ => exact hunchanged

/-- The adapter between two calls. -/
structure RmtSafe (t : RmtTarget) (s : RmtObjects ω) : Prop where
  /-- The contract has been kept, and what is left is what the open objects own. -/
  owns : Owns (rmtContract t) s.log (s.objects.map RmtObject.owned).sum
  wellFormed : ∀ (i : Nat) (object : RmtObject), s.objects[i]? = some object → object.WellFormed

theorem rmtObjectsStep_safe {s : RmtObjects ω} (hwaits : d.Waits) (hdeletes : d.Deletes)
    (hs : RmtSafe t s) (call : RmtCall) : RmtSafe t (rmtObjectsStep t d s call) := by
  have hclosed : ∀ (j : Nat) (o : RmtObject), s.objects[j]? = some o →
      Closed (rmtContract t) o.owned := fun j o ho => (hs.wellFormed j o ho).closed
  have hnew : ∀ {new : List RmtObject}, (∀ o ∈ new, o.WellFormed) →
      ∀ (i : Nat) (o : RmtObject), (s.objects ++ new)[i]? = some o → o.WellFormed := by
    intro new hall i o ho
    rcases List.mem_append.mp (List.mem_of_getElem? ho) with hmem | hmem
    · obtain ⟨j, hj⟩ := List.mem_iff_getElem?.mp hmem
      exact hs.wellFormed j o hj
    · exact hall o hmem
  cases call with
  | createTransmitter pin resolutionHz invertOutput =>
    -- a new object owns what its creation has left; a failed one has left nothing
    have hmade : Triple (rmtContract t) 0 (bmxEsp32RmtNewTx t d pin resolutionHz invertOutput)
        fun r held => held = ((r.1.map fun tx => RmtObject.transmitter (some tx)).toList.map
          RmtObject.owned).sum ∧ ∀ o ∈ (r.1.map fun tx => RmtObject.transmitter (some tx)).toList,
            o.WellFormed := by
      refine (newTx_triple hdeletes).conseq ?_
      rintro ⟨tx, error⟩ _ ⟨rfl, hwf⟩
      cases tx with
      | none => exact ⟨rfl, fun _ hmem => absurd hmem List.not_mem_nil⟩
      | some tx =>
        refine ⟨(add_zero _).symm, fun o hmem => ?_⟩
        obtain rfl := List.mem_singleton.mp hmem
        exact hwf
    obtain ⟨howns, hall⟩ := hmade.at_concat (s.log, s.world) hclosed hs.owns
    exact ⟨howns, hnew hall⟩
  | createReceiver pin capacity resolutionHz invertInput =>
    have hmade : Triple (rmtContract t) 0
        (bmxEsp32RmtNewRx t d pin resolutionHz capacity invertInput)
        fun r held => held = ((r.1.map fun rx => RmtObject.receiver (some rx)).toList.map
          RmtObject.owned).sum ∧ ∀ o ∈ (r.1.map fun rx => RmtObject.receiver (some rx)).toList,
            o.WellFormed := by
      refine (newRx_triple hdeletes).conseq ?_
      rintro ⟨rx, error⟩ _ ⟨rfl, hwf⟩
      cases rx with
      | none => exact ⟨rfl, fun _ hmem => absurd hmem List.not_mem_nil⟩
      | some rx =>
        refine ⟨(add_zero _).symm, fun o hmem => ?_⟩
        obtain rfl := List.mem_singleton.mp hmem
        exact hwf
    obtain ⟨howns, hall⟩ := hmade.at_concat (s.log, s.world) hclosed hs.owns
    exact ⟨howns, hnew hall⟩
  | method i call =>
    unfold rmtObjectsStep
    dsimp only
    split
    · exact hs
    next object hi =>
      obtain ⟨howns, hwf⟩ := (method_kept hwaits hdeletes (hs.wellFormed i object hi) call).at_set
        (s.log, s.world) hi hclosed hs.owns
      exact ⟨howns, forall_set hs.wellFormed hwf⟩

/-- **The driver's pointers are good for as long as it has them.**  In every run, whichever
allocation or other driver call fails, the memory of a receiver is given back after its channel, a
payload and its encoder after the transmission; nothing is given back twice or used afterwards,
and what is left belongs to the objects that are open. -/
theorem rmt_owns {s : RmtObjects ω} (hwaits : d.Waits) (hdeletes : d.Deletes)
    (h : (rmtObjectsMachine t d).Reachable s) :
    RmtSafe t s ∧ Disciplined s.log (s.objects.map RmtObject.owned).sum := by
  have hsafe : RmtSafe t s := by
    refine h.invariant ?_ ?_
    · rintro ⟨objects, createError, log, world⟩ ⟨rfl, rfl, rfl⟩
      refine ⟨owns_nil, fun i object hi => ?_⟩
      cases hi
    · intro s call s' hs _ hstep
      obtain rfl := Option.some.inj hstep
      exact rmtObjectsStep_safe hwaits hdeletes hs call
  exact ⟨hsafe, hsafe.owns.disciplined⟩

/-- A driver with one channel, which waits for its transmissions and deletes what it is told to. -/
def rmtOneChannelDriver : RmtDriver Bool where
  memory w := (true, w)
  newChannel _ w := (if w then espOk else espErrNotFound, false)
  newEncoder _ w := (espOk, w)
  registerEventCallbacks _ w := (espOk, w)
  enable _ w := (espOk, w)
  disable _ w := (espOk, w)
  applyCarrier _ _ w := (espOk, w)
  transmit _ w := (espOk, w)
  waitAllDone _ w := (espOk, w)
  delete _ w := (espOk, w)
  receive _ _ w := (espOk, w)
  ready _ w := (true, w)
  count _ w := (0, w)

/-- A target on which each pin will do. -/
def rmtAllPins : RmtTarget where
  isValidGpio _ := true
  isValidOutputGpio _ := true

/-- A transmitter that sends three bytes, and a receiver for which no channel is left. -/
theorem rmt_owns_oneChannel : ∃ s, (rmtObjectsMachine rmtAllPins rmtOneChannelDriver).Reachable s ∧
    s.createError = espErrNotFound ∧ RmtSafe rmtAllPins s ∧
    Disciplined s.log (s.objects.map RmtObject.owned).sum := by
  obtain ⟨s, hs, herror⟩ := Machine.exists_reachable_of_run
    (M := rmtObjectsMachine rmtAllPins rmtOneChannelDriver)
    [.createTransmitter 18 10000000 0,
      .method 0 (.writeBytes true 3 0x00088004 0x00048008 1 0), .createReceiver 19 64 1000000 0,
      .method 0 .close]
    (fun s => s.createError == espErrNotFound) (s := ⟨[], espOk, [], true⟩) ⟨rfl, rfl, rfl⟩
    (by decide)
  exact ⟨s, hs, of_decide_eq_true herror, rmt_owns (fun _ _ => rfl) (fun _ _ => rfl) hs⟩

end Esp32Mod
