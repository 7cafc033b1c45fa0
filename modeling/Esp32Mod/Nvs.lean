/-
Esp32Mod/Nvs.lean

Key/value storage (`runtime.mod/native/esp32_nvs.c`, `storage.mod/nvs.mod/nvs.bmx`).

A namespace that is open has a record of the adapter and a handle of the driver.  Every method
converts its key to a C string, asks the driver, frees the key and notes the result in the record;
any of the allocations may fail.

`nvs_owns` is about memory: over all runs, whatever fails, every block and every driver handle has
one owner, is used by nobody after it is gone, and is left only by namespaces that are open.
`Esp32Mod.NvsStore` is about what is stored.
-/
import Esp32Mod.Errors
import Esp32Mod.Ownership
import Esp32Mod.StepMachine

namespace Esp32Mod

open Ownership StepMachine

/-! ### What the driver stores -/

/-- The values of the `nvs_set` functions; a `float` and a `double` are their bits. -/
inductive NvsValue
  | i32 (value : Int32)
  | u32 (value : UInt32)
  | i64 (value : Int64)
  | u64 (value : UInt64)
  | float (bits : UInt32)
  | double (bits : UInt64)
  | str (text : List UInt8)
  | blob (bytes : List UInt8)
  deriving DecidableEq

/-- The types that an entry can have. -/
inductive NvsType
  | i32
  | u32
  | i64
  | u64
  | float
  | double
  | str
  | blob
  deriving DecidableEq

/-- The type that a value is stored under. -/
def NvsValue.type : NvsValue → NvsType
  | .i32 _ => .i32
  | .u32 _ => .u32
  | .i64 _ => .i64
  | .u64 _ => .u64
  | .float _ => .float
  | .double _ => .double
  | .str _ => .str
  | .blob _ => .blob

/-- What C reads of a string: the bytes before the first zero. -/
def cString (bytes : List UInt8) : List UInt8 := bytes.takeWhile (· ≠ 0)

/-! ### The contract of memory and driver -/

/-- What the adapter acquires: the C string of a name, a key or a value, the record of a namespace,
the buffer of a string that is read, the driver's handle of a namespace. -/
inductive NvsKind
  | text (bytes : List UInt8)
  | record
  | buffer (size : UInt32)
  | handle (readOnly : Bool)
  deriving DecidableEq

/-- Memory is read or written; the driver is called; the driver may write up to `told` bytes where
there is room for `room`. -/
inductive NvsUse
  | access
  | call
  | fill (room told : UInt32)
  deriving DecidableEq

/-- A buffer is filled to its own size, and a namespace is not touched but through its functions. -/
def nvsContract : Contract NvsKind NvsUse where
  proper _ := true
  rests _ := []
  legal
    | .handle _, .call => true
    | .handle _, .fill room told => decide (told ≤ room)
    | .handle _, .access => false
    | _, .access => true
    | .buffer size, .fill room told => decide (room = size ∧ told ≤ room)
    | _, _ => false

/-- The bytes of a C string. -/
def NvsKind.bytes : NvsKind → List UInt8
  | .text bytes => bytes
  | _ => []

/-! ### Driver, memory and strings -/

/-- `nvs_stats_t`. -/
structure SNvsStatistics where
  usedEntries : UInt32
  freeEntries : UInt32
  totalEntries : UInt32
  namespaceCount : UInt32

/-- The functions that the adapter calls; `length` and `bytes` are `nvs_get_str` and
`nvs_get_blob` without and with a place to put the value. -/
structure NvsDriver (σ ω : Type) where
  utf8 : σ → List UInt8
  ofUtf8 : List UInt8 → σ
  memory : ω → Bool × ω
  flashInit : ω → EspErr × ω
  open_ : List UInt8 → Bool → ω → EspErr × ω
  commit : Handle NvsKind → ω → EspErr × ω
  eraseKey : Handle NvsKind → List UInt8 → ω → EspErr × ω
  eraseAll : Handle NvsKind → ω → EspErr × ω
  findKey : Handle NvsKind → List UInt8 → ω → (EspErr × Int32) × ω
  set : Handle NvsKind → List UInt8 → NvsValue → ω → EspErr × ω
  getNumber : Handle NvsKind → List UInt8 → NvsType → ω → (EspErr × NvsValue) × ω
  length : Handle NvsKind → List UInt8 → NvsType → ω → (EspErr × UInt32) × ω
  bytes : Handle NvsKind → List UInt8 → NvsType → UInt32 → ω →
    (EspErr × List UInt8 × UInt32) × ω
  stats : ω → (EspErr × SNvsStatistics) × ω

variable {σ ω : Type}

/-- A function of the module, which owns what it allocates and opens. -/
abbrev NvsProgram (ω : Type) := Own NvsKind NvsUse ω

/-- The errors of NVS that the module returns of itself. -/
def espErrNvsInvalidHandle : EspErr := 0x1107
def espErrNvsInvalidLength : EspErr := 0x110c
def espErrNvsValueTooLong : EspErr := 0x110e

/-! ### Namespaces -/

/-- `BMXESP32NVSHandle`: where it is, and its fields. -/
structure NvsHandle where
  record : Handle NvsKind
  value : Handle NvsKind
  lastError : EspErr

/-- `bmx_esp32_nvs_utf8`. -/
def bmxEsp32NvsUtf8 (d : NvsDriver σ ω) (value : σ) : NvsProgram ω (Option (Handle NvsKind)) := do
  let memory ← ask d.memory
  if memory then
    let text ← acquire (.text (cString (d.utf8 value)))
    pure (some text)
  else pure none

/-- `bmx_esp32_nvs_set_error`, for a handle that is not NULL. -/
def bmxEsp32NvsSetError (h : NvsHandle) (error : EspErr) : NvsProgram ω NvsHandle := do
  use h.record .access
  pure { h with lastError := error }

/-- `nvs_flash_init`. -/
def bmxEsp32NvsInitialize (d : NvsDriver σ ω) : NvsProgram ω EspErr := ask d.flashInit

/-- The part of `bmx_esp32_nvs_open` that is reached when the flash is there. -/
def nvsOpenRecord (d : NvsDriver σ ω) (nativeName : Handle NvsKind) (readOnly : Bool) :
    NvsProgram ω (Option NvsHandle × EspErr) := do
  let memory ← ask d.memory
  if memory then
    let record ← acquire .record
    use nativeName .access
    let error ← ask (d.open_ nativeName.kind.bytes readOnly)
    use record .access
    if error = espOk then
      let value ← acquire (.handle readOnly)
      pure (some { record, value, lastError := error }, error)
    else
      release record
      pure (none, error)
  else pure (none, espErrNoMem)

/-- `bmx_esp32_nvs_open`, with the error that it leaves in `bmx_esp32_nvs_open_error`. -/
def bmxEsp32NvsOpen (d : NvsDriver σ ω) (name : σ) (mode : Int32) :
    NvsProgram ω (Option NvsHandle × EspErr) := do
  let nativeName ← bmxEsp32NvsUtf8 d name
  match nativeName with
  | none => pure (none, espErrNoMem)
  | some nativeName =>
    let error ← ask d.flashInit
    if error = espOk then
      let result ← nvsOpenRecord d nativeName (mode = 0)
      release nativeName
      pure result
    else
      release nativeName
      pure (none, error)

/-- The native handle first, then the record. -/
def bmxEsp32NvsClose (h : NvsHandle) : NvsProgram ω Unit := do
  use h.record .access
  release h.value
  use h.record .access
  release h.record
  pure ()

/-- `bmx_esp32_nvs_last_error`. -/
def bmxEsp32NvsLastError : Option NvsHandle → EspErr
  | some h => h.lastError
  | none => espErrNvsInvalidHandle

/-- A call of the driver with a key. -/
def nvsCall {α : Type} (h : NvsHandle) (nativeKey : Handle NvsKind) (question : ω → α × ω) :
    NvsProgram ω α := do
  use h.record .access
  use nativeKey .access
  use h.value .call
  ask question

/-- `bmx_esp32_nvs_key`. -/
def bmxEsp32NvsKey (d : NvsDriver σ ω) (key : σ) :
    Option NvsHandle → NvsProgram ω (Option (Handle NvsKind) × Option NvsHandle)
  | none => pure (none, none)
  | some h => do
    let result ← bmxEsp32NvsUtf8 d key
    match result with
    | none =>
      let h ← bmxEsp32NvsSetError h espErrNoMem
      pure (none, some h)
    | some nativeKey => pure (some nativeKey, some h)

/-- What the methods with a key share: without the key they return the error of the record, else
they free it after `call` and note the error. -/
def nvsKeyed {α : Type} (d : NvsDriver σ ω) (key : σ) (absent : α)
    (call : NvsHandle → Handle NvsKind → NvsProgram ω (EspErr × α)) (handle : Option NvsHandle) :
    NvsProgram ω ((EspErr × α) × Option NvsHandle) := do
  let (nativeKey, handle) ← bmxEsp32NvsKey d key handle
  match nativeKey, handle with
  | some nativeKey, some h =>
    let (error, result) ← call h nativeKey
    release nativeKey
    let h ← bmxEsp32NvsSetError h error
    pure ((error, result), some h)
  | _, none => pure ((espErrNvsInvalidHandle, absent), none)
  | none, some h =>
    use h.record .access
    pure ((h.lastError, absent), some h)

/-- What the methods without a key share. -/
def nvsUnkeyed (question : Handle NvsKind → ω → EspErr × ω) :
    Option NvsHandle → NvsProgram ω (EspErr × Option NvsHandle)
  | none => pure (espErrNvsInvalidHandle, none)
  | some h => do
    use h.record .access
    use h.value .call
    let error ← ask (question h.value)
    let h ← bmxEsp32NvsSetError h error
    pure (error, some h)

/-- `nvs_commit`. -/
def bmxEsp32NvsCommit (d : NvsDriver σ ω) :
    Option NvsHandle → NvsProgram ω (EspErr × Option NvsHandle) := nvsUnkeyed d.commit

/-- `nvs_erase_all`. -/
def bmxEsp32NvsEraseAll (d : NvsDriver σ ω) :
    Option NvsHandle → NvsProgram ω (EspErr × Option NvsHandle) := nvsUnkeyed d.eraseAll

/-- `nvs_erase_key`. -/
def bmxEsp32NvsEraseKey (d : NvsDriver σ ω) (key : σ) :
    Option NvsHandle → NvsProgram ω ((EspErr × Unit) × Option NvsHandle) :=
  nvsKeyed d key () fun h nativeKey => do
    let error ← nvsCall h nativeKey (d.eraseKey h.value nativeKey.kind.bytes)
    pure (error, ())

/-- The type is -1 if there is none. -/
def bmxEsp32NvsValueType (d : NvsDriver σ ω) (key : σ) :
    Option NvsHandle → NvsProgram ω ((EspErr × Int32) × Option NvsHandle) :=
  nvsKeyed d key (-1) fun h nativeKey => do
    let (error, type) ← nvsCall h nativeKey (d.findKey h.value nativeKey.kind.bytes)
    pure (error, if error = espOk then type else -1)

/-! ### Numbers -/

/-- `BMX_NVS_SET`. -/
def bmxNvsSet (d : NvsDriver σ ω) (key : σ) (value : NvsValue) :
    Option NvsHandle → NvsProgram ω ((EspErr × Unit) × Option NvsHandle) :=
  nvsKeyed d key () fun h nativeKey => do
    let error ← nvsCall h nativeKey (d.set h.value nativeKey.kind.bytes value)
    pure (error, ())

def bmxEsp32NvsSetI32 (d : NvsDriver σ ω) (key : σ) (value : Int32) := bmxNvsSet d key (.i32 value)
def bmxEsp32NvsSetU32 (d : NvsDriver σ ω) (key : σ) (value : UInt32) := bmxNvsSet d key (.u32 value)
def bmxEsp32NvsSetI64 (d : NvsDriver σ ω) (key : σ) (value : Int64) := bmxNvsSet d key (.i64 value)
def bmxEsp32NvsSetU64 (d : NvsDriver σ ω) (key : σ) (value : UInt64) := bmxNvsSet d key (.u64 value)
def bmxEsp32NvsSetFloat (d : NvsDriver σ ω) (key : σ) (bits : UInt32) :=
  bmxNvsSet d key (.float bits)
def bmxEsp32NvsSetDouble (d : NvsDriver σ ω) (key : σ) (bits : UInt64) :=
  bmxNvsSet d key (.double bits)

/-- `BMX_NVS_GET`; `value` says whether there is a place to put the number. -/
def bmxNvsGet (d : NvsDriver σ ω) (key : σ) (type : NvsType) (value : Bool) :
    Option NvsHandle → NvsProgram ω ((EspErr × Option NvsValue) × Option NvsHandle) :=
  nvsKeyed d key none fun h nativeKey =>
    if value then do
      let (error, number) ← nvsCall h nativeKey (d.getNumber h.value nativeKey.kind.bytes type)
      pure (error, some number)
    else pure (espErrInvalidArg, none)

def bmxEsp32NvsGetI32 (d : NvsDriver σ ω) (key : σ) := bmxNvsGet d key .i32
def bmxEsp32NvsGetU32 (d : NvsDriver σ ω) (key : σ) := bmxNvsGet d key .u32
def bmxEsp32NvsGetI64 (d : NvsDriver σ ω) (key : σ) := bmxNvsGet d key .i64
def bmxEsp32NvsGetU64 (d : NvsDriver σ ω) (key : σ) := bmxNvsGet d key .u64
def bmxEsp32NvsGetFloat (d : NvsDriver σ ω) (key : σ) := bmxNvsGet d key .float
def bmxEsp32NvsGetDouble (d : NvsDriver σ ω) (key : σ) := bmxNvsGet d key .double

/-! ### Strings -/

/-- `bmx_esp32_nvs_set_string` where one of the two conversions has failed. -/
def nvsSetStringFailed (nativeKey nativeValue : Option (Handle NvsKind)) (handle : Option NvsHandle) :
    NvsProgram ω ((EspErr × Unit) × Option NvsHandle) := do
  releaseSome nativeKey
  releaseSome nativeValue
  match handle with
  | none => pure ((espErrNvsInvalidHandle, ()), none)
  | some h =>
    let h ← bmxEsp32NvsSetError h espErrNoMem
    pure ((espErrNoMem, ()), some h)

/-- The value is converted even where there is no handle. -/
def bmxEsp32NvsSetString (d : NvsDriver σ ω) (key value : σ) (handle : Option NvsHandle) :
    NvsProgram ω ((EspErr × Unit) × Option NvsHandle) := do
  let (nativeKey, handle) ← bmxEsp32NvsKey d key handle
  let nativeValue ← bmxEsp32NvsUtf8 d value
  match nativeKey, nativeValue, handle with
  | some nativeKey, some nativeValue, some h =>
    use nativeValue .access
    let error ← nvsCall h nativeKey
      (d.set h.value nativeKey.kind.bytes (.str nativeValue.kind.bytes))
    release nativeKey
    release nativeValue
    let h ← bmxEsp32NvsSetError h error
    pure ((error, ()), some h)
  | nativeKey, nativeValue, handle => nvsSetStringFailed nativeKey nativeValue handle

/-- The two calls of `nvs_get_str`, with the buffer and what has been put in it. -/
def nvsReadString (d : NvsDriver σ ω) (h : NvsHandle) (nativeKey : Handle NvsKind) :
    NvsProgram ω (EspErr × Option (Handle NvsKind × List UInt8)) := do
  let (error, size) ← nvsCall h nativeKey (d.length h.value nativeKey.kind.bytes .str)
  if error = espOk then
    let memory ← ask d.memory
    if memory then
      let value ← acquire (.buffer size)
      use value (.fill size size)
      let (error, bytes, _) ← nvsCall h nativeKey (d.bytes h.value nativeKey.kind.bytes .str size)
      pure (error, some (value, bytes))
    else pure (espErrNoMem, none)
  else pure (error, none)

/-- `bmx_esp32_nvs_get_string`; the result is the empty string where nothing is read. -/
def bmxEsp32NvsGetString (d : NvsDriver σ ω) (key : σ) (handle : Option NvsHandle) :
    NvsProgram ω (σ × Option NvsHandle) := do
  let ((error, value), handle) ← nvsKeyed d key none (nvsReadString d) handle
  match value with
  | none => pure (d.ofUtf8 [], handle)
  | some (value, bytes) =>
    if error = espOk then
      use value .access
      release value
      pure (d.ofUtf8 (cString bytes), handle)
    else
      release value
      pure (d.ofUtf8 [], handle)

/-! ### Bytes -/

/-- `value` is an array, with the size of its elements; NULL is none. -/
def bmxEsp32NvsSetBlob (d : NvsDriver σ ω) (key : σ) (value : Option (UInt32 × List UInt8)) :
    Option NvsHandle → NvsProgram ω ((EspErr × Unit) × Option NvsHandle) :=
  nvsKeyed d key () fun h nativeKey =>
    match value with
    | some (elementSize, bytes) =>
      if elementSize = 1 then do
        let error ← nvsCall h nativeKey (d.set h.value nativeKey.kind.bytes (.blob bytes))
        pure (error, ())
      else pure (espErrInvalidArg, ())
    | none => pure (espErrInvalidArg, ())

/-- `data` is the memory from the pointer on, NULL is none. -/
def bmxEsp32NvsSetMemory (d : NvsDriver σ ω) (key : σ) (data : Option (List UInt8))
    (size : UInt32) :
    Option NvsHandle → NvsProgram ω ((EspErr × Unit) × Option NvsHandle) :=
  nvsKeyed d key () fun h nativeKey =>
    if data.isNone ∧ size ≠ 0 then pure (espErrInvalidArg, ())
    else do
      let error ← nvsCall h nativeKey
        (d.set h.value nativeKey.kind.bytes (.blob ((data.getD []).take size.toNat)))
      pure (error, ())

/-- What is in an array of that size when its first bytes have been written. -/
def nvsFilled (size : UInt32) (bytes : List UInt8) : List UInt8 :=
  bytes.take size.toNat ++ List.replicate (size.toNat - bytes.length) 0

/-- The two calls of `nvs_get_blob` for an array; it is memory of the collector. -/
def nvsReadBlob (d : NvsDriver σ ω) (h : NvsHandle) (nativeKey : Handle NvsKind) :
    NvsProgram ω (EspErr × List UInt8) := do
  let (error, size) ← nvsCall h nativeKey (d.length h.value nativeKey.kind.bytes .blob)
  if error = espOk then
    if 0x7FFFFFFF < size then pure (espErrNvsValueTooLong, [])
    else if size = 0 then pure (espOk, [])
    else
      let memory ← ask d.memory
      if memory then
        use h.value (.fill size size)
        let (error, bytes, _) ← nvsCall h nativeKey
          (d.bytes h.value nativeKey.kind.bytes .blob size)
        pure (error, nvsFilled size bytes)
      else pure (espErrNoMem, [])
  else pure (error, [])

/-- `bmx_esp32_nvs_get_blob`; the result is the empty array where nothing is read. -/
def bmxEsp32NvsGetBlob (d : NvsDriver σ ω) (key : σ) (handle : Option NvsHandle) :
    NvsProgram ω (List UInt8 × Option NvsHandle) := do
  let ((error, bytes), handle) ← nvsKeyed d key [] (nvsReadBlob d) handle
  pure (if error = espOk then bytes else [], handle)

/-- What `bmx_esp32_nvs_get_memory` writes: the actual size, and the first bytes of the memory. -/
structure NvsRead where
  actualSize : UInt32
  bytes : List UInt8 := []

/-- The two calls of `nvs_get_blob` for memory of the program, `capacity` bytes if there is any. -/
def nvsReadMemory (d : NvsDriver σ ω) (data : Bool) (capacity : UInt32) (h : NvsHandle)
    (nativeKey : Handle NvsKind) : NvsProgram ω (EspErr × Option NvsRead) := do
  let (error, required) ← nvsCall h nativeKey (d.length h.value nativeKey.kind.bytes .blob)
  if error = espOk then
    if capacity < required then pure (espErrNvsInvalidLength, some { actualSize := required })
    else if required = 0 then pure (espOk, some { actualSize := required })
    else if data then
      use h.value (.fill capacity required)
      let (error, bytes, readSize) ← nvsCall h nativeKey
        (d.bytes h.value nativeKey.kind.bytes .blob required)
      pure (error, some { actualSize := readSize, bytes })
    else pure (espErrInvalidArg, some { actualSize := required })
  else pure (error, some { actualSize := required })

/-- `bmx_esp32_nvs_get_memory`; `actualSize` says whether there is a place to put the size. -/
def bmxEsp32NvsGetMemory (d : NvsDriver σ ω) (key : σ) (data : Bool) (capacity : UInt32)
    (actualSize : Bool) :
    Option NvsHandle → NvsProgram ω ((EspErr × Option NvsRead) × Option NvsHandle) :=
  nvsKeyed d key none fun h nativeKey =>
    if actualSize then nvsReadMemory d data capacity h nativeKey
    else pure (espErrInvalidArg, none)

/-- `bmx_esp32_nvs_statistics`; `places` says whether there are places to put them all. -/
def bmxEsp32NvsStatistics (d : NvsDriver σ ω) (places : Bool) :
    NvsProgram ω (EspErr × Option SNvsStatistics) :=
  if places then do
    let error ← ask d.flashInit
    if error = espOk then
      let (error, statistics) ← ask d.stats
      pure (error, if error = espOk then some statistics else none)
    else pure (error, none)
  else pure (espErrInvalidArg, none)

/-! ### `TNVSNamespace` -/

/-- What a method returns; `tryString` and `tryBytes` also whether it has succeeded. -/
inductive NvsResult (σ : Type)
  | done
  | code (error : EspErr)
  | type (type : Int32)
  | number (error : EspErr) (value : Option NvsValue)
  | string (value : σ)
  | tryString (success : Bool) (value : σ)
  | bytes (value : List UInt8)
  | tryBytes (success : Bool) (value : List UInt8)
  | memory (error : EspErr) (read : Option NvsRead)

/-- The methods of a namespace. -/
inductive NvsMethod (σ : Type)
  | close
  | lastError
  | commit
  | eraseKey (key : σ)
  | eraseAll
  | valueType (key : σ)
  | setInt (key : σ) (value : Int32)
  | setUInt (key : σ) (value : UInt32)
  | setLong (key : σ) (value : Int64)
  | setULong (key : σ) (value : UInt64)
  | setFloat (key : σ) (bits : UInt32)
  | setDouble (key : σ) (bits : UInt64)
  | setString (key value : σ)
  | setBytes (key : σ) (value : Option (UInt32 × List UInt8))
  | setMemory (key : σ) (data : Option (List UInt8)) (size : UInt32)
  | getInt (key : σ) (place : Bool)
  | getUInt (key : σ) (place : Bool)
  | getLong (key : σ) (place : Bool)
  | getULong (key : σ) (place : Bool)
  | getFloat (key : σ) (place : Bool)
  | getDouble (key : σ) (place : Bool)
  | getString (key : σ)
  | tryGetString (key : σ)
  | getBytes (key : σ)
  | tryGetBytes (key : σ)
  | getMemory (key : σ) (data : Bool) (capacity : UInt32) (actualSize : Bool)

/-- `Close`: it forgets the handle. -/
def tnvsNamespaceClose : Option NvsHandle → NvsProgram ω (Option NvsHandle)
  | none => pure none
  | some h => do
    bmxEsp32NvsClose h
    pure none

/-- A method of a namespace, with the handle that the namespace has after it. -/
def NvsMethod.run (d : NvsDriver σ ω) (handle : Option NvsHandle) :
    NvsMethod σ → NvsProgram ω (NvsResult σ × Option NvsHandle)
  | .close => (fun handle => (.done, handle)) <$> tnvsNamespaceClose handle
  | .lastError => pure (.code (bmxEsp32NvsLastError handle), handle)
  | .commit => Prod.map .code id <$> bmxEsp32NvsCommit d handle
  | .eraseKey key => Prod.map (fun r => .code r.1) id <$> bmxEsp32NvsEraseKey d key handle
  | .eraseAll => Prod.map .code id <$> bmxEsp32NvsEraseAll d handle
  | .valueType key => Prod.map (fun r => .type r.2) id <$> bmxEsp32NvsValueType d key handle
  | .setInt key value => Prod.map (fun r => .code r.1) id <$> bmxEsp32NvsSetI32 d key value handle
  | .setUInt key value => Prod.map (fun r => .code r.1) id <$> bmxEsp32NvsSetU32 d key value handle
  | .setLong key value => Prod.map (fun r => .code r.1) id <$> bmxEsp32NvsSetI64 d key value handle
  | .setULong key value =>
    Prod.map (fun r => .code r.1) id <$> bmxEsp32NvsSetU64 d key value handle
  | .setFloat key bits =>
    Prod.map (fun r => .code r.1) id <$> bmxEsp32NvsSetFloat d key bits handle
  | .setDouble key bits =>
    Prod.map (fun r => .code r.1) id <$> bmxEsp32NvsSetDouble d key bits handle
  | .setString key value =>
    Prod.map (fun r => .code r.1) id <$> bmxEsp32NvsSetString d key value handle
  | .setBytes key value =>
    Prod.map (fun r => .code r.1) id <$> bmxEsp32NvsSetBlob d key value handle
  | .setMemory key data size =>
    Prod.map (fun r => .code r.1) id <$> bmxEsp32NvsSetMemory d key data size handle
  | .getInt key place =>
    Prod.map (fun r => .number r.1 r.2) id <$> bmxEsp32NvsGetI32 d key place handle
  | .getUInt key place =>
    Prod.map (fun r => .number r.1 r.2) id <$> bmxEsp32NvsGetU32 d key place handle
  | .getLong key place =>
    Prod.map (fun r => .number r.1 r.2) id <$> bmxEsp32NvsGetI64 d key place handle
  | .getULong key place =>
    Prod.map (fun r => .number r.1 r.2) id <$> bmxEsp32NvsGetU64 d key place handle
  | .getFloat key place =>
    Prod.map (fun r => .number r.1 r.2) id <$> bmxEsp32NvsGetFloat d key place handle
  | .getDouble key place =>
    Prod.map (fun r => .number r.1 r.2) id <$> bmxEsp32NvsGetDouble d key place handle
  | .getString key => Prod.map .string id <$> bmxEsp32NvsGetString d key handle
  | .tryGetString key =>
    (fun r => (.tryString (bmxEsp32NvsLastError r.2 = 0) r.1, r.2)) <$>
      bmxEsp32NvsGetString d key handle
  | .getBytes key => Prod.map .bytes id <$> bmxEsp32NvsGetBlob d key handle
  | .tryGetBytes key =>
    (fun r => (.tryBytes (bmxEsp32NvsLastError r.2 = 0) r.1, r.2)) <$>
      bmxEsp32NvsGetBlob d key handle
  | .getMemory key data capacity actualSize =>
    Prod.map (fun r => .memory r.1 r.2) id <$>
      bmxEsp32NvsGetMemory d key data capacity actualSize handle

/-- What the program does: it opens namespaces and calls their methods. -/
inductive NvsCall (σ : Type)
  | nvsInitialize
  | openNvs (name : σ) (openReadOnly : Bool)
  | method (i : Nat) (call : NvsMethod σ)
  | statistics (places : Bool)

/-- The objects that `OpenNVS` has returned, with `bmx_esp32_nvs_open_error`. -/
structure NvsSystem (ω : Type) where
  namespaces : List (Option NvsHandle)
  openError : EspErr
  log : List (Op NvsKind NvsUse)
  world : ω

/-- A method of a namespace that there is not does nothing. -/
def nvsStep (d : NvsDriver σ ω) (s : NvsSystem ω) : NvsCall σ → NvsSystem ω
  | .nvsInitialize =>
    let (_, log, world) := bmxEsp32NvsInitialize d (s.log, s.world)
    { s with log, world }
  | .openNvs name openReadOnly =>
    let ((handle, error), log, world) :=
      bmxEsp32NvsOpen d name (if openReadOnly then 0 else 1) (s.log, s.world)
    -- there is no object where the native handle is NULL
    { namespaces := s.namespaces ++ (handle.map some).toList, openError := error, log, world }
  | .method i call =>
    match s.namespaces[i]? with
    | none => s
    | some handle =>
      let ((_, handle), log, world) := call.run d handle (s.log, s.world)
      { s with namespaces := s.namespaces.set i handle, log, world }
  | .statistics places =>
    let (_, log, world) := bmxEsp32NvsStatistics d places (s.log, s.world)
    { s with log, world }

/-- Calls of the application, in any order. -/
def nvsMachine (d : NvsDriver σ ω) : Machine (NvsSystem ω) (NvsCall σ) where
  init s := s.namespaces = [] ∧ s.openError = espOk ∧ s.log = []
  step s call := some (nvsStep d s call)

/-! ### Memory -/

variable {d : NvsDriver σ ω} {key : σ} {h : NvsHandle} {handle handle' : Option NvsHandle}
  {nativeKey : Handle NvsKind} {P : Multiset (Handle NvsKind)} {α : Type}

/-- Nothing rests on anything here. -/
theorem nvs_free (x : Handle NvsKind) : ∀ y ∈ P, x.number ∉ nvsContract.rests y.kind :=
  fun _ _ => List.not_mem_nil

/-- A record and a handle of the driver. -/
structure NvsHandle.WellFormed (h : NvsHandle) : Prop where
  record : h.record.kind = .record
  value : ∃ readOnly, h.value.kind = .handle readOnly

/-- What an open namespace owns; one that is closed owns nothing. -/
def nvsOwned : Option NvsHandle → Multiset (Handle NvsKind)
  | some h => h.record ::ₘ {h.value}
  | none => 0

/-- The handle with another error. -/
def NvsSame (handle handle' : Option NvsHandle) : Prop :=
  ∃ error, handle' = handle.map fun h => { h with lastError := error }

theorem NvsSame.refl : NvsSame handle handle := by
  cases handle with
  | none => exact ⟨0, rfl⟩
  | some h => exact ⟨h.lastError, rfl⟩

theorem NvsSame.owned (h : NvsSame handle handle') : nvsOwned handle' = nvsOwned handle := by
  obtain ⟨error, rfl⟩ := h
  cases handle <;> rfl

theorem nvsOwned_some : nvsOwned (some h) = h.record ::ₘ {h.value} := rfl

theorem record_mem : h.record ∈ nvsOwned (some h) := by
  rw [nvsOwned_some]
  exact Multiset.mem_cons_self _ _

theorem value_mem : h.value ∈ nvsOwned (some h) := by
  rw [nvsOwned_some]
  exact Multiset.mem_cons_of_mem (Multiset.mem_singleton_self _)

theorem utf8_triple (value : σ) : Triple nvsContract P (bmxEsp32NvsUtf8 d value) fun text held =>
    (text = none ∧ held = P) ∨
      ∃ x : Handle NvsKind, text = some x ∧ x.kind = .text (cString (d.utf8 value)) ∧
        held = x ::ₘ P := by
  refine Triple.ask fun memory => ?_
  cases memory with
  | false => exact Triple.pure (.inl ⟨rfl, rfl⟩)
  | true =>
    refine Triple.acquire rfl (fun _ hp => absurd hp List.not_mem_nil) fun x hkind _ => ?_
    exact Triple.pure (.inr ⟨x, rfl, hkind, rfl⟩)

theorem setError_triple {error : EspErr} (hwf : h.WellFormed) (hmem : h.record ∈ P) :
    Triple nvsContract P (bmxEsp32NvsSetError h error : NvsProgram ω NvsHandle)
      fun h' held => h' = { h with lastError := error } ∧ held = P := by
  refine Triple.use hmem ?_ (Triple.pure ⟨rfl, rfl⟩)
  rw [hwf.record]
  rfl

theorem nvsCall_triple {question : ω → α × ω} (hwf : h.WellFormed)
    {bytes : List UInt8} (hkey : nativeKey.kind = .text bytes) (hmem : nativeKey ∈ P)
    (howned : nvsOwned (some h) ⊆ P) :
    Triple nvsContract P (nvsCall h nativeKey question) fun _ held => held = P := by
  obtain ⟨readOnly, hvalue⟩ := hwf.value
  refine Triple.use (howned record_mem) (by rw [hwf.record]; rfl) ?_
  refine Triple.use hmem (by rw [hkey]; rfl) ?_
  refine Triple.use (howned value_mem) (by rw [hvalue]; rfl) ?_
  exact Triple.ask fun _ => Triple.pure rfl

theorem key_triple (hwf : ∀ h, handle = some h → h.WellFormed) :
    Triple nvsContract (nvsOwned handle) (bmxEsp32NvsKey d key handle) fun r held =>
      (r.1 = none ∧ NvsSame handle r.2 ∧ held = nvsOwned handle ∧
        (r.2.isSome → bmxEsp32NvsLastError r.2 = espErrNoMem)) ∨
      ∃ nativeKey : Handle NvsKind, r.1 = some nativeKey ∧ r.2 = handle ∧ handle.isSome ∧
        nativeKey.kind = .text (cString (d.utf8 key)) ∧ held = nativeKey ::ₘ nvsOwned handle := by
  cases handle with
  | none =>
    exact Triple.pure (.inl ⟨rfl, NvsSame.refl, rfl, fun hsome => by cases hsome⟩)
  | some h =>
    refine Triple.bind (utf8_triple key) ?_
    rintro _ _ (⟨rfl, rfl⟩ | ⟨nativeKey, rfl, hkind, rfl⟩)
    · refine Triple.bind (setError_triple (hwf h rfl) record_mem) ?_
      rintro _ _ ⟨rfl, rfl⟩
      exact Triple.pure (.inl ⟨rfl, ⟨espErrNoMem, rfl⟩, rfl, fun _ => rfl⟩)
    · exact Triple.pure (.inr ⟨nativeKey, rfl, rfl, rfl, hkind, rfl⟩)

/-- A method with a key leaves what its result owns beside the namespace, and notes in the
namespace the error that it returns. -/
theorem nvsKeyed_triple {absent : α} {call : NvsHandle → Handle NvsKind → NvsProgram ω (EspErr × α)}
    (extra : α → Multiset (Handle NvsKind)) (Good : α → Prop)
    (hwf : ∀ h, handle = some h → h.WellFormed) (habsent : extra absent = 0) (hgood : Good absent)
    (hcall : ∀ h nativeKey bytes, handle = some h → nativeKey.kind = .text bytes →
      Triple nvsContract (nativeKey ::ₘ nvsOwned handle) (call h nativeKey)
        fun r held => held = nativeKey ::ₘ (extra r.2 + nvsOwned handle) ∧ Good r.2) :
    Triple nvsContract (nvsOwned handle) (nvsKeyed d key absent call handle)
      fun r held => held = extra r.1.2 + nvsOwned handle ∧ Good r.1.2 ∧ NvsSame handle r.2 ∧
        r.1.1 = bmxEsp32NvsLastError r.2 := by
  refine Triple.bind (key_triple hwf) ?_
  rintro ⟨found, handle'⟩ held
    (⟨hnone, ⟨error, hsame⟩, rfl, -⟩ | ⟨nativeKey, hfound, rfl, hsome, hkind, rfl⟩)
  · obtain rfl : found = none := hnone
    obtain rfl : handle' = _ := hsame
    cases handle with
    | none => exact Triple.pure ⟨by rw [habsent, zero_add], hgood, NvsSame.refl, rfl⟩
    | some h =>
      refine Triple.use record_mem (by rw [(hwf h rfl).record]; rfl) ?_
      exact Triple.pure ⟨by rw [habsent, zero_add], hgood, ⟨error, rfl⟩, rfl⟩
  · obtain rfl : found = some nativeKey := hfound
    obtain ⟨h, rfl⟩ := Option.isSome_iff_exists.mp hsome
    refine Triple.bind (hcall h nativeKey _ rfl hkind) ?_
    rintro ⟨error, result⟩ held ⟨rfl, hresult⟩
    refine Triple.release (Multiset.mem_cons_self _ _) (nvs_free _) ?_
    rw [Multiset.erase_cons_head]
    have hmem : h.record ∈ extra result + nvsOwned (some h) :=
      Multiset.mem_add.mpr (.inr record_mem)
    refine Triple.bind (setError_triple (hwf h rfl) hmem) ?_
    rintro _ _ ⟨rfl, rfl⟩
    exact Triple.pure ⟨rfl, hresult, ⟨error, rfl⟩, rfl⟩

/-! ### Methods -/

/-- A method leaves the namespace with what it owns, and has noted what it returns. -/
def NvsKeeps {β : Type} (handle : Option NvsHandle) (code : β → Option EspErr)
    (prog : NvsProgram ω (β × Option NvsHandle)) : Prop :=
  Triple nvsContract (nvsOwned handle) prog fun r held =>
    held = nvsOwned handle ∧ NvsSame handle r.2 ∧
      ∀ error, code r.1 = some error → error = bmxEsp32NvsLastError r.2

theorem nvsKeyed_keeps {absent : α} {call : NvsHandle → Handle NvsKind → NvsProgram ω (EspErr × α)}
    (hwf : ∀ h, handle = some h → h.WellFormed)
    (hcall : ∀ h nativeKey bytes, handle = some h → nativeKey.kind = .text bytes →
      Triple nvsContract (nativeKey ::ₘ nvsOwned handle) (call h nativeKey)
        fun _ held => held = nativeKey ::ₘ nvsOwned handle) :
    NvsKeeps handle (fun r => some r.1) (nvsKeyed d key absent call handle) := by
  refine (nvsKeyed_triple (fun _ => 0) (fun _ => True) hwf rfl trivial ?_).conseq ?_
  · intro h nativeKey bytes hsome hkind
    simpa only [zero_add, and_true] using hcall h nativeKey bytes hsome hkind
  · rintro r held ⟨rfl, -, hsame, hcode⟩
    exact ⟨zero_add _, hsame, fun error herror => Option.some.inj herror ▸ hcode⟩

theorem subset_cons_owned : nvsOwned handle ⊆ nativeKey ::ₘ nvsOwned handle :=
  Multiset.subset_cons _ _

theorem nvsUnkeyed_keeps {question : Handle NvsKind → ω → EspErr × ω}
    (hwf : ∀ h, handle = some h → h.WellFormed) :
    NvsKeeps handle some (nvsUnkeyed question handle) := by
  cases handle with
  | none => exact Triple.pure ⟨rfl, NvsSame.refl, fun _ herror => Option.some.inj herror ▸ rfl⟩
  | some h =>
    obtain ⟨readOnly, hvalue⟩ := (hwf h rfl).value
    refine Triple.use record_mem (by rw [(hwf h rfl).record]; rfl) ?_
    refine Triple.use value_mem (by rw [hvalue]; rfl) ?_
    refine Triple.ask fun error => ?_
    refine Triple.bind (setError_triple (hwf h rfl) record_mem) ?_
    rintro _ _ ⟨rfl, rfl⟩
    exact Triple.pure ⟨rfl, ⟨error, rfl⟩, fun _ herror => Option.some.inj herror ▸ rfl⟩

/-- One call of the driver, whatever is made of its answer. -/
theorem nvsCall_then {β : Type} {question : ω → α × ω} {k : α → NvsProgram ω β}
    {R : β → Multiset (Handle NvsKind) → Prop} {bytes : List UInt8}
    (hwf : ∀ h, handle = some h → h.WellFormed) (hsome : handle = some h)
    (hkind : nativeKey.kind = .text bytes) (hmem : nativeKey ∈ P) (howned : nvsOwned handle ⊆ P)
    (hk : ∀ a, Triple nvsContract P (k a) R) :
    Triple nvsContract P (nvsCall h nativeKey question >>= k) R := by
  refine Triple.bind (nvsCall_triple (hwf h hsome) hkind hmem (hsome ▸ howned)) ?_
  rintro a held rfl
  exact hk a

theorem eraseKey_keeps (hwf : ∀ h, handle = some h → h.WellFormed) :
    NvsKeeps handle (fun r => some r.1) (bmxEsp32NvsEraseKey d key handle) :=
  nvsKeyed_keeps hwf fun _ _ _ hsome hkind =>
    nvsCall_then hwf hsome hkind (Multiset.mem_cons_self _ _) subset_cons_owned
      fun _ => Triple.pure rfl

theorem valueType_keeps (hwf : ∀ h, handle = some h → h.WellFormed) :
    NvsKeeps handle (fun r => some r.1) (bmxEsp32NvsValueType d key handle) :=
  nvsKeyed_keeps hwf fun _ _ _ hsome hkind =>
    nvsCall_then hwf hsome hkind (Multiset.mem_cons_self _ _) subset_cons_owned
      fun _ => Triple.pure rfl

theorem set_keeps {value : NvsValue} (hwf : ∀ h, handle = some h → h.WellFormed) :
    NvsKeeps handle (fun r => some r.1) (bmxNvsSet d key value handle) :=
  nvsKeyed_keeps hwf fun _ _ _ hsome hkind =>
    nvsCall_then hwf hsome hkind (Multiset.mem_cons_self _ _) subset_cons_owned
      fun _ => Triple.pure rfl

theorem get_keeps {type : NvsType} {place : Bool} (hwf : ∀ h, handle = some h → h.WellFormed) :
    NvsKeeps handle (fun r => some r.1) (bmxNvsGet d key type place handle) := by
  refine nvsKeyed_keeps hwf fun _ _ _ hsome hkind => ?_
  split
  · exact nvsCall_then hwf hsome hkind (Multiset.mem_cons_self _ _) subset_cons_owned
      fun _ => Triple.pure rfl
  · exact Triple.pure rfl

theorem setBlob_keeps {value : Option (UInt32 × List UInt8)}
    (hwf : ∀ h, handle = some h → h.WellFormed) :
    NvsKeeps handle (fun r => some r.1) (bmxEsp32NvsSetBlob d key value handle) := by
  refine nvsKeyed_keeps hwf fun _ _ _ hsome hkind => ?_
  split
  · split
    · exact nvsCall_then hwf hsome hkind (Multiset.mem_cons_self _ _) subset_cons_owned
        fun _ => Triple.pure rfl
    · exact Triple.pure rfl
  · exact Triple.pure rfl

theorem setMemory_keeps {data : Option (List UInt8)} {size : UInt32}
    (hwf : ∀ h, handle = some h → h.WellFormed) :
    NvsKeeps handle (fun r => some r.1) (bmxEsp32NvsSetMemory d key data size handle) := by
  refine nvsKeyed_keeps hwf fun _ _ _ hsome hkind => ?_
  split
  · exact Triple.pure rfl
  · exact nvsCall_then hwf hsome hkind (Multiset.mem_cons_self _ _) subset_cons_owned
      fun _ => Triple.pure rfl

theorem NvsSame.wellFormed (hsame : NvsSame handle handle')
    (hwf : ∀ h, handle = some h → h.WellFormed) : ∀ h, handle' = some h → h.WellFormed := by
  obtain ⟨error, rfl⟩ := hsame
  rintro _ hsome
  obtain ⟨h, rfl, rfl⟩ := Option.map_eq_some_iff.mp hsome
  exact ⟨(hwf h rfl).record, (hwf h rfl).value⟩

theorem NvsSame.trans {handle'' : Option NvsHandle} (h : NvsSame handle handle')
    (h' : NvsSame handle' handle'') : NvsSame handle handle'' := by
  obtain ⟨error, rfl⟩ := h
  obtain ⟨error', rfl⟩ := h'
  exact ⟨error', by rw [Option.map_map]; rfl⟩

theorem setStringFailed_triple {found foundValue : Option (Handle NvsKind)}
    (hwf : ∀ h, handle = some h → h.WellFormed) (hsame : NvsSame handle handle')
    (hheld : P = heldSome found + (heldSome foundValue + nvsOwned handle)) :
    Triple nvsContract P
      (nvsSetStringFailed found foundValue handle' :
        NvsProgram ω ((EspErr × Unit) × Option NvsHandle))
      fun r held => held = nvsOwned handle ∧ NvsSame handle r.2 ∧
        ∀ error, some r.1.1 = some error → error = bmxEsp32NvsLastError r.2 := by
  rw [hheld]
  refine Triple.releaseSome (fun x _ => nvs_free x) ?_
  refine Triple.releaseSome (fun x _ => nvs_free x) ?_
  rw [← hsame.owned]
  cases handle' with
  | none => exact Triple.pure ⟨rfl, hsame, fun _ herror => Option.some.inj herror ▸ rfl⟩
  | some h =>
    refine Triple.bind (setError_triple (hsame.wellFormed hwf h rfl) record_mem) ?_
    rintro _ _ ⟨rfl, rfl⟩
    exact Triple.pure ⟨rfl, hsame.trans ⟨espErrNoMem, rfl⟩,
      fun _ herror => Option.some.inj herror ▸ rfl⟩

theorem setString_keeps {value : σ} (hwf : ∀ h, handle = some h → h.WellFormed) :
    NvsKeeps handle (fun r => some r.1) (bmxEsp32NvsSetString d key value handle) := by
  refine Triple.bind (key_triple hwf) ?_
  rintro ⟨found, handle'⟩ held (⟨hnone, hsame, rfl, -⟩ | ⟨nativeKey, hfound, rfl, hsome, hkind, rfl⟩)
  · obtain rfl : found = none := hnone
    refine Triple.bind (utf8_triple value) ?_
    rintro _ _ (⟨rfl, rfl⟩ | ⟨nativeValue, rfl, -, rfl⟩)
    · exact setStringFailed_triple hwf hsame (by simp only [heldSome, zero_add])
    · exact setStringFailed_triple hwf hsame
        (by simp only [heldSome, zero_add, Multiset.singleton_add])
  · obtain rfl : found = some nativeKey := hfound
    obtain ⟨h, rfl⟩ := Option.isSome_iff_exists.mp hsome
    refine Triple.bind (utf8_triple value) ?_
    rintro _ _ (⟨rfl, rfl⟩ | ⟨nativeValue, rfl, hvalue, rfl⟩)
    · exact setStringFailed_triple hwf NvsSame.refl
        (by simp only [heldSome, zero_add, Multiset.singleton_add])
    · have hmem : nativeKey ∈ nativeValue ::ₘ nativeKey ::ₘ nvsOwned (some h) :=
        Multiset.mem_cons_of_mem (Multiset.mem_cons_self _ _)
      have howned : nvsOwned (some h) ⊆ nativeValue ::ₘ nativeKey ::ₘ nvsOwned (some h) :=
        fun x hx => Multiset.mem_cons_of_mem (Multiset.mem_cons_of_mem hx)
      refine Triple.use (Multiset.mem_cons_self _ _) (by rw [hvalue]; rfl) ?_
      refine nvsCall_then hwf rfl hkind hmem howned fun error => ?_
      refine Triple.release hmem (nvs_free _) ?_
      rw [Multiset.cons_swap, Multiset.erase_cons_head]
      refine Triple.release (Multiset.mem_cons_self _ _) (nvs_free _) ?_
      rw [Multiset.erase_cons_head]
      refine Triple.bind (setError_triple (hwf h rfl) record_mem) ?_
      rintro _ _ ⟨rfl, rfl⟩
      exact Triple.pure ⟨rfl, ⟨error, rfl⟩, fun _ herror => Option.some.inj herror ▸ rfl⟩

/-- The driver is told of no more room than there is. -/
theorem readBlob_triple {bytes : List UInt8} (hwf : ∀ h, handle = some h → h.WellFormed)
    (hsome : handle = some h) (hkind : nativeKey.kind = .text bytes) :
    Triple nvsContract (nativeKey ::ₘ nvsOwned handle) (nvsReadBlob d h nativeKey)
      fun _ held => held = nativeKey ::ₘ nvsOwned handle := by
  obtain ⟨readOnly, hvalue⟩ := (hwf h hsome).value
  refine nvsCall_then hwf hsome hkind (Multiset.mem_cons_self _ _) subset_cons_owned ?_
  rintro ⟨error, size⟩
  dsimp only
  split
  · split
    · exact Triple.pure rfl
    split
    · exact Triple.pure rfl
    refine Triple.ask fun memory => ?_
    split
    · refine Triple.use (subset_cons_owned (hsome ▸ value_mem)) (by rw [hvalue]; simp [nvsContract]) ?_
      exact nvsCall_then hwf hsome hkind (Multiset.mem_cons_self _ _) subset_cons_owned
        fun _ => Triple.pure rfl
    · exact Triple.pure rfl
  · exact Triple.pure rfl

theorem readMemory_triple {data : Bool} {capacity : UInt32} {bytes : List UInt8}
    (hwf : ∀ h, handle = some h → h.WellFormed)
    (hsome : handle = some h) (hkind : nativeKey.kind = .text bytes) :
    Triple nvsContract (nativeKey ::ₘ nvsOwned handle) (nvsReadMemory d data capacity h nativeKey)
      fun _ held => held = nativeKey ::ₘ nvsOwned handle := by
  obtain ⟨readOnly, hvalue⟩ := (hwf h hsome).value
  refine nvsCall_then hwf hsome hkind (Multiset.mem_cons_self _ _) subset_cons_owned ?_
  rintro ⟨error, required⟩
  dsimp only
  split
  · split
    · exact Triple.pure rfl
    next hroom =>
      split
      · exact Triple.pure rfl
      split
      · refine Triple.use (subset_cons_owned (hsome ▸ value_mem)) ?_ ?_
        · rw [hvalue]
          exact decide_eq_true (UInt32.not_lt.mp hroom)
        · exact nvsCall_then hwf hsome hkind (Multiset.mem_cons_self _ _) subset_cons_owned
            fun _ => Triple.pure rfl
      · exact Triple.pure rfl
  · exact Triple.pure rfl

theorem getMemory_keeps {data actualSize : Bool} {capacity : UInt32}
    (hwf : ∀ h, handle = some h → h.WellFormed) :
    NvsKeeps handle (fun r => some r.1)
      (bmxEsp32NvsGetMemory d key data capacity actualSize handle) := by
  refine nvsKeyed_keeps hwf fun _ _ _ hsome hkind => ?_
  split
  · exact readMemory_triple hwf hsome hkind
  · exact Triple.pure rfl

theorem getBlob_keeps (hwf : ∀ h, handle = some h → h.WellFormed) :
    NvsKeeps handle (fun _ => none) (bmxEsp32NvsGetBlob d key handle) := by
  refine Triple.bind (nvsKeyed_keeps hwf fun _ _ _ hsome hkind =>
    readBlob_triple hwf hsome hkind) ?_
  rintro ⟨⟨error, bytes⟩, handle'⟩ _ ⟨rfl, hsame, -⟩
  exact Triple.pure ⟨rfl, hsame, fun _ hnone => by cases hnone⟩

/-- What `nvsReadString` leaves: the buffer, if it has got so far. -/
def nvsBuffer : Option (Handle NvsKind × List UInt8) → Multiset (Handle NvsKind)
  | some (value, _) => {value}
  | none => 0

/-- It is one. -/
def NvsIsBuffer (value : Option (Handle NvsKind × List UInt8)) : Prop :=
  ∀ x bytes, value = some (x, bytes) → ∃ size, x.kind = .buffer size

theorem readString_triple {bytes : List UInt8} (hwf : ∀ h, handle = some h → h.WellFormed)
    (hsome : handle = some h) (hkind : nativeKey.kind = .text bytes) :
    Triple nvsContract (nativeKey ::ₘ nvsOwned handle) (nvsReadString d h nativeKey)
      fun r held => held = nativeKey ::ₘ (nvsBuffer r.2 + nvsOwned handle) ∧ NvsIsBuffer r.2 := by
  have hnothing : ∀ error, Triple nvsContract (nativeKey ::ₘ nvsOwned handle)
      (pure (error, none) : NvsProgram ω (EspErr × Option (Handle NvsKind × List UInt8)))
      fun r held => held = nativeKey ::ₘ (nvsBuffer r.2 + nvsOwned handle) ∧ NvsIsBuffer r.2 :=
    fun error => Triple.pure ⟨by rw [nvsBuffer, zero_add], fun _ _ hnone => by cases hnone⟩
  refine nvsCall_then hwf hsome hkind (Multiset.mem_cons_self _ _) subset_cons_owned ?_
  rintro ⟨error, size⟩
  dsimp only
  split
  · refine Triple.ask fun memory => ?_
    split
    · refine Triple.acquire rfl (fun _ hp => absurd hp List.not_mem_nil) fun value hvalue _ => ?_
      refine Triple.use (Multiset.mem_cons_self _ _) (by rw [hvalue]; simp [nvsContract]) ?_
      refine nvsCall_then hwf hsome hkind (Multiset.mem_cons_of_mem (Multiset.mem_cons_self _ _))
        (fun x hx => Multiset.mem_cons_of_mem (subset_cons_owned hx)) fun _ => Triple.pure ⟨?_, ?_⟩
      · rw [Multiset.cons_swap, nvsBuffer, Multiset.singleton_add]
      · rintro _ _ ⟨⟩
        exact ⟨size, hvalue⟩
    · exact hnothing _
  · exact hnothing _

/-- The buffer is freed, whether it has been filled or not. -/
theorem getString_keeps (hwf : ∀ h, handle = some h → h.WellFormed) :
    NvsKeeps handle (fun _ => none) (bmxEsp32NvsGetString d key handle) := by
  refine Triple.bind (nvsKeyed_triple nvsBuffer NvsIsBuffer hwf rfl (fun _ _ hnone => by cases hnone)
    fun _ _ _ hsome hkind => readString_triple hwf hsome hkind) ?_
  rintro ⟨⟨error, value⟩, handle'⟩ _ ⟨rfl, hbuffer, hsame, -⟩
  rcases value with - | ⟨value, bytes⟩
  · exact Triple.pure ⟨zero_add _, hsame, fun _ hnone => by cases hnone⟩
  · obtain ⟨size, hkind⟩ := hbuffer value bytes rfl
    have hheld : nvsBuffer (some (value, bytes)) + nvsOwned handle = value ::ₘ nvsOwned handle := by
      rw [nvsBuffer, Multiset.singleton_add]
    rw [hheld]
    have hfreed : ∀ result : σ, Triple nvsContract (value ::ₘ nvsOwned handle)
        (do release value; pure (result, handle') : NvsProgram ω (σ × Option NvsHandle))
        fun r held => held = nvsOwned handle ∧ NvsSame handle r.2 ∧
          ∀ error, none = some error → error = bmxEsp32NvsLastError r.2 := by
      intro result
      refine Triple.release (Multiset.mem_cons_self _ _) (nvs_free _) (Triple.pure ?_)
      exact ⟨Multiset.erase_cons_head _ _, hsame, fun _ hnone => by cases hnone⟩
    dsimp only
    split
    · exact Triple.use (Multiset.mem_cons_self _ _) (by rw [hkind]; rfl) (hfreed _)
    · exact hfreed _

theorem nvsClose_triple (hwf : h.WellFormed) :
    Triple nvsContract (nvsOwned (some h)) (bmxEsp32NvsClose h : NvsProgram ω Unit)
      fun _ held => held = 0 := by
  have hrecord : nvsContract.legal h.record.kind .access = true := by
    rw [hwf.record]
    rfl
  have hheld : (nvsOwned (some h)).erase h.value = {h.record} := by
    rw [nvsOwned_some, ← Multiset.cons_zero, Multiset.cons_swap, Multiset.erase_cons_head,
      Multiset.cons_zero]
  have hmem : h.record ∈ ({h.record} : Multiset (Handle NvsKind)) := Multiset.mem_singleton_self _
  refine Triple.use record_mem hrecord ?_
  refine Triple.release value_mem (nvs_free _) ?_
  rw [hheld]
  refine Triple.use hmem hrecord (Triple.release hmem (nvs_free _) ?_)
  rw [Multiset.erase_singleton]
  exact Triple.pure rfl

theorem close_triple (hwf : ∀ h, handle = some h → h.WellFormed) :
    Triple nvsContract (nvsOwned handle) (tnvsNamespaceClose handle : NvsProgram ω _)
      fun r held => r = none ∧ held = 0 := by
  cases handle with
  | none => exact Triple.pure ⟨rfl, rfl⟩
  | some h =>
    refine Triple.bind (nvsClose_triple (hwf h rfl)) ?_
    rintro _ _ rfl
    exact Triple.pure ⟨rfl, rfl⟩

/-- The error that a method returns. -/
def NvsResult.code? : NvsResult σ → Option EspErr
  | .code error => some error
  | .number error _ => some error
  | .memory error _ => some error
  | _ => none

/-- A method leaves what its namespace owns then, and has noted what it returns. -/
def NvsAfter (r : NvsResult σ × Option NvsHandle) (held : Multiset (Handle NvsKind)) : Prop :=
  held = nvsOwned r.2 ∧ (∀ h, r.2 = some h → h.WellFormed) ∧
    ∀ error, r.1.code? = some error → error = bmxEsp32NvsLastError r.2

theorem NvsKeeps.after {β : Type} {code : β → Option EspErr}
    {prog : NvsProgram ω (β × Option NvsHandle)} {f : β × Option NvsHandle → NvsResult σ}
    (hwf : ∀ h, handle = some h → h.WellFormed) (h : NvsKeeps handle code prog)
    (hcode : ∀ r, (f r).code? = code r.1) :
    Triple nvsContract (nvsOwned handle) ((fun r => (f r, r.2)) <$> prog) NvsAfter := by
  refine Triple.map (h.conseq ?_)
  rintro r held ⟨rfl, hsame, hnoted⟩
  refine ⟨hsame.owned.symm, hsame.wellFormed hwf, fun error herror => hnoted error ?_⟩
  rw [← hcode]
  exact herror

theorem method_triple (d : NvsDriver σ ω) (hwf : ∀ h, handle = some h → h.WellFormed)
    (call : NvsMethod σ) :
    Triple nvsContract (nvsOwned handle) (call.run d handle) NvsAfter := by
  -- all but `Close` keep the handle, and leave what they return as the last error
  cases call with
  | close =>
    refine Triple.map ((close_triple hwf).conseq ?_)
    rintro _ _ ⟨rfl, rfl⟩
    refine ⟨rfl, ?_, ?_⟩
    · intro h hnone
      cases hnone
    · intro error hnone
      cases hnone
  | lastError =>
    exact Triple.pure ⟨rfl, hwf, fun error herror => (Option.some.inj herror).symm⟩
  | commit => exact (nvsUnkeyed_keeps hwf).after hwf fun _ => rfl
  | eraseAll => exact (nvsUnkeyed_keeps hwf).after hwf fun _ => rfl
  | eraseKey key => exact (eraseKey_keeps hwf).after hwf fun _ => rfl
  | valueType key =>
    have hkeeps : NvsKeeps handle (fun _ => none) (bmxEsp32NvsValueType d key handle) :=
      (valueType_keeps hwf).conseq fun _ _ h => ⟨h.1, h.2.1, fun _ hnone => by cases hnone⟩
    exact hkeeps.after hwf fun _ => rfl
  | setInt key value => exact (set_keeps hwf).after hwf fun _ => rfl
  | setUInt key value => exact (set_keeps hwf).after hwf fun _ => rfl
  | setLong key value => exact (set_keeps hwf).after hwf fun _ => rfl
  | setULong key value => exact (set_keeps hwf).after hwf fun _ => rfl
  | setFloat key bits => exact (set_keeps hwf).after hwf fun _ => rfl
  | setDouble key bits => exact (set_keeps hwf).after hwf fun _ => rfl
  | setString key value => exact (setString_keeps hwf).after hwf fun _ => rfl
  | setBytes key value => exact (setBlob_keeps hwf).after hwf fun _ => rfl
  | setMemory key data size => exact (setMemory_keeps hwf).after hwf fun _ => rfl
  | getInt key place => exact (get_keeps hwf).after hwf fun _ => rfl
  | getUInt key place => exact (get_keeps hwf).after hwf fun _ => rfl
  | getLong key place => exact (get_keeps hwf).after hwf fun _ => rfl
  | getULong key place => exact (get_keeps hwf).after hwf fun _ => rfl
  | getFloat key place => exact (get_keeps hwf).after hwf fun _ => rfl
  | getDouble key place => exact (get_keeps hwf).after hwf fun _ => rfl
  | getString key => exact (getString_keeps hwf).after hwf fun _ => rfl
  | tryGetString key => exact (getString_keeps hwf).after hwf fun _ => rfl
  | getBytes key => exact (getBlob_keeps hwf).after hwf fun _ => rfl
  | tryGetBytes key => exact (getBlob_keeps hwf).after hwf fun _ => rfl
  | getMemory key data capacity actualSize => exact (getMemory_keeps hwf).after hwf fun _ => rfl

/-! ### Opening -/

/-- What `bmx_esp32_nvs_open` leaves is the namespace that it returns, and an error if it returns
none. -/
def NvsOpened (r : Option NvsHandle × EspErr) (held : Multiset (Handle NvsKind)) : Prop :=
  held = nvsOwned r.1 ∧ (∀ h, r.1 = some h → h.WellFormed) ∧ (r.1.isSome ↔ r.2 = espOk)

theorem nvsOpened_none {error : EspErr} (herror : error ≠ espOk) : NvsOpened (none, error) 0 := by
  refine ⟨rfl, ?_, iff_of_false Bool.false_ne_true herror⟩
  intro h hnone
  cases hnone

theorem openRecord_triple {nativeName : Handle NvsKind} {bytes : List UInt8} {readOnly : Bool}
    (hkind : nativeName.kind = .text bytes) :
    Triple nvsContract {nativeName} (nvsOpenRecord d nativeName readOnly) fun r held =>
      ∃ held', held = nativeName ::ₘ held' ∧ NvsOpened r held' := by
  refine Triple.ask fun memory => ?_
  cases memory with
  | false => exact Triple.pure ⟨0, rfl, nvsOpened_none (by decide)⟩
  | true =>
    refine Triple.acquire rfl (fun _ hp => absurd hp List.not_mem_nil) fun record hrecord _ => ?_
    refine Triple.use (Multiset.mem_cons_of_mem (Multiset.mem_singleton_self _))
      (by rw [hkind]; rfl) ?_
    refine Triple.ask fun error => ?_
    refine Triple.use (Multiset.mem_cons_self _ _) (by rw [hrecord]; rfl) ?_
    split
    next hok =>
      refine Triple.acquire rfl (fun _ hp => absurd hp List.not_mem_nil) fun value hvalue _ => ?_
      refine Triple.pure ⟨nvsOwned (some ⟨record, value, error⟩), ?_, rfl, ?_, ?_⟩
      · rw [nvsOwned_some, ← Multiset.cons_zero, ← Multiset.cons_zero, Multiset.cons_swap value,
          Multiset.cons_swap value, Multiset.cons_swap record]
      · rintro _ ⟨rfl⟩
        exact ⟨hrecord, readOnly, hvalue⟩
      · exact iff_of_true rfl hok
    next herror =>
      refine Triple.release (Multiset.mem_cons_self _ _) (nvs_free _) ?_
      rw [Multiset.erase_cons_head]
      exact Triple.pure ⟨0, rfl, nvsOpened_none herror⟩

theorem open_triple {name : σ} {mode : Int32} :
    Triple nvsContract 0 (bmxEsp32NvsOpen d name mode) NvsOpened := by
  refine Triple.bind (utf8_triple name) ?_
  rintro _ _ (⟨rfl, rfl⟩ | ⟨nativeName, rfl, hkind, rfl⟩)
  · exact Triple.pure (nvsOpened_none (by decide))
  · refine Triple.ask fun error => ?_
    split
    · refine Triple.bind (openRecord_triple hkind) ?_
      rintro r _ ⟨held, rfl, hopened⟩
      refine Triple.release (Multiset.mem_cons_self _ _) (nvs_free _) ?_
      rw [Multiset.erase_cons_head]
      exact Triple.pure hopened
    next herror =>
      refine Triple.release (Multiset.mem_cons_self _ _) (nvs_free _) ?_
      rw [Multiset.erase_cons_head]
      exact Triple.pure (nvsOpened_none herror)

/-! ### Runs -/

/-- The storage between two calls. -/
structure NvsSafe (s : NvsSystem ω) : Prop where
  /-- What has been acquired is what the open namespaces own. -/
  owns : Owns nvsContract s.log (s.namespaces.map nvsOwned).sum
  wellFormed : ∀ (i : Nat) (handle : Option NvsHandle), s.namespaces[i]? = some handle →
    ∀ h, handle = some h → h.WellFormed

theorem nvs_closed {held : Multiset (Handle NvsKind)} : Closed nvsContract held :=
  fun _ _ _ hp => absurd hp List.not_mem_nil

theorem statistics_triple {places : Bool} :
    Triple nvsContract 0 (bmxEsp32NvsStatistics d places) fun _ held => held = 0 := by
  unfold bmxEsp32NvsStatistics
  split
  · refine Triple.ask fun error => ?_
    split
    · exact Triple.ask fun _ => Triple.pure rfl
    · exact Triple.pure rfl
  · exact Triple.pure rfl

theorem nvsStep_safe {s : NvsSystem ω} (hs : NvsSafe s) (call : NvsCall σ) :
    NvsSafe (nvsStep d s call) := by
  cases call with
  | nvsInitialize => exact ⟨hs.owns, hs.wellFormed⟩
  | openNvs name openReadOnly =>
    have hopened : Triple nvsContract 0
        (bmxEsp32NvsOpen d name (if openReadOnly then 0 else 1)) fun r held =>
          held = ((r.1.map some).toList.map nvsOwned).sum ∧ ∀ h, r.1 = some h → h.WellFormed := by
      refine open_triple.conseq ?_
      rintro ⟨handle, error⟩ _ ⟨rfl, hwf, -⟩
      refine ⟨?_, hwf⟩
      cases handle with
      | none => rfl
      | some h => exact (add_zero _).symm
    obtain ⟨howns, hwf⟩ := hopened.at_concat (s.log, s.world) (fun _ _ _ => nvs_closed) hs.owns
    refine ⟨howns, fun i handle hi h hsome => ?_⟩
    subst hsome
    rcases List.mem_append.mp (List.mem_of_getElem? hi) with hmem | hmem
    · obtain ⟨j, hj⟩ := List.mem_iff_getElem?.mp hmem
      exact hs.wellFormed j _ hj h rfl
    · -- the namespace that has just been opened
      obtain ⟨h', hh', heq⟩ := Option.map_eq_some_iff.mp (Option.mem_toList.mp hmem)
      obtain rfl := Option.some.inj heq
      exact hwf h' hh'
  | method i call =>
    unfold nvsStep
    dsimp only
    split
    · exact hs
    next handle hi =>
      obtain ⟨howns, hwf, -⟩ :=
        (method_triple d (hs.wellFormed i handle hi) call).at_set (s.log, s.world) hi
          (fun _ _ _ => nvs_closed) hs.owns
      exact ⟨howns, forall_set hs.wellFormed hwf⟩
  | statistics places =>
    exact ⟨statistics_triple.at_rest (s.log, s.world) nvs_closed hs.owns, hs.wellFormed⟩

/-- **Nothing leaks and nothing is used after it is gone.**  Whatever allocation or driver call
fails in whatever run, each block and each handle of the driver is acquired once and released at
most once, used and released only while it is held, and what is left belongs to the namespaces
that are still open. -/
theorem nvs_owns {s : NvsSystem ω} (h : (nvsMachine d).Reachable s) :
    NvsSafe s ∧ Disciplined s.log (s.namespaces.map nvsOwned).sum := by
  have hsafe : NvsSafe s := by
    refine h.invariant ?_ ?_
    · rintro ⟨namespaces, openError, log, world⟩ ⟨rfl, rfl, rfl⟩
      refine ⟨owns_nil, fun i handle hi => ?_⟩
      cases hi
    · intro s call s' hs _ hstep
      obtain rfl := Option.some.inj hstep
      exact nvsStep_safe hs call
  exact ⟨hsafe, hsafe.owns.disciplined⟩

/-- Memory for so many allocations, and a driver that reads no value. -/
def nvsScarceDriver : NvsDriver (List UInt8) Nat where
  utf8 := id
  ofUtf8 := id
  memory w := (w ≠ 0, w - 1)
  flashInit w := (espOk, w)
  open_ _ _ w := (espOk, w)
  commit _ w := (espOk, w)
  eraseKey _ _ w := (espOk, w)
  eraseAll _ w := (espOk, w)
  findKey _ _ w := ((espOk, 0x21), w)
  set _ _ _ w := (espOk, w)
  getNumber _ _ _ w := ((espOk, .i32 0), w)
  length _ _ _ w := ((espOk, 3), w)
  bytes _ _ _ _ w := ((espFail, [], 0), w)
  stats w := ((espOk, ⟨0, 0, 0, 0⟩), w)

/-- A namespace is opened, a string cannot be read into its buffer, another has no memory for the
value, and the namespace is closed; a second one has no memory for its name. -/
theorem nvs_owns_scarce : ∃ s, (nvsMachine nvsScarceDriver).Reachable s ∧
    s.openError = espErrNoMem ∧ NvsSafe s ∧
    Disciplined s.log (s.namespaces.map nvsOwned).sum := by
  obtain ⟨s, hs, herror⟩ := Machine.exists_reachable_of_run (M := nvsMachine nvsScarceDriver)
    [.openNvs [97] false, .method 0 (.tryGetString [107]), .method 0 (.setString [107] [118]),
      .method 0 .close, .openNvs [98] true]
    (fun s => s.openError == espErrNoMem) (s := ⟨[], espOk, [], 5⟩) ⟨rfl, rfl, rfl⟩ (by decide)
  exact ⟨s, hs, of_decide_eq_true herror, nvs_owns hs⟩

end Esp32Mod
