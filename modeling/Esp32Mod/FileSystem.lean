/-
Esp32Mod/FileSystem.lean

Files and directories of the two volumes (`storage.mod/filesystem.mod/native/esp32_filesystem.c`,
`storage.mod/filesystem.mod/filesystem.bmx`): what comes after the mounts of
`Esp32Mod.StorageRouting`.

A path is resolved by its backend, converted to a C string, and put behind the mount point of the
backend's volume; a file or a directory that is open has a record of the adapter and an object of
the C library.  Any allocation and any call of the library may fail.

A mount is something that is held as well: from the call that leaves the volume mounted to the one
that does not.  A native path rests on it.  An open file does not, since an unmount closes nothing.

Main results:

* `fs_owns` — over all runs, whatever fails: one owner for every block, file and directory, paths
  of one volume for that volume only and only while it is mounted, no read or write that the file
  has not been opened for;
* `bmxFsNative_eq_iff` — which paths of which volumes are one native path.
-/
import Mathlib.Data.List.TakeWhile
import Esp32Mod.Nvs
import Esp32Mod.StorageRouting

namespace Esp32Mod

open Ownership StepMachine

/-! ### The contract of memory and C library -/

/-- The modes that `bmx_esp32_filesystem_open` passes to `fopen`. -/
inductive FopenMode
  | rb
  | wb
  | ab
  | wPlusB
  | aPlusB
  deriving DecidableEq

/-- The mode lets a stream be read. -/
def FopenMode.reads : FopenMode → Bool
  | .rb | .wPlusB | .aPlusB => true
  | _ => false

/-- The mode lets a stream be written. -/
def FopenMode.writes : FopenMode → Bool
  | .rb => false
  | _ => true

/-- What is acquired: a C string, the path that the library is given, the record of a file or a
directory, a `FILE`, a `DIR`, leave for the collector to run.  `mount` is the mount that a path
rests on. -/
inductive FsKind
  | text (bytes : List UInt8)
  | path (volume : StorageVolume) (mount : Nat) (bytes : List UInt8)
  | record
  | file (mode : FopenMode)
  | directory
  | nativeSafe
  | mounted (volume : StorageVolume)
  deriving DecidableEq

/-- Memory is read or written; a path is handed to the driver of a volume; a `FILE` is read, written
or truncated, or something else is done with it; a `DIR` is read. -/
inductive FsUse
  | access
  | native (volume : StorageVolume)
  | read
  | write
  | manage
  | entries
  deriving DecidableEq

/-- `bmx_fs_base`. -/
def bmxFsBase : StorageVolume → List UInt8
  | .littleFS => ['/', 'l', 'i', 't', 't', 'l', 'e', 'f', 's'].map fun c => c.toNat.toUInt8
  | .sd => ['/', 's', 'd'].map fun c => c.toNat.toUInt8

/-- The character `/`. -/
def slash : UInt8 := 0x2f

/-- A native path lies below its mount and has no zero byte; it is used while that mount lasts.  A
stream is read and written as its mode allows. -/
def fsContract : Contract FsKind FsUse where
  proper
    | .path volume _ bytes => (bmxFsBase volume ++ [slash]).isPrefixOf bytes && !bytes.contains 0
    | _ => true
  rests
    | .path _ mount _ => [mount]
    | _ => []
  legal
    | .text _, .access => true
    | .path .., .access => true
    | .path volume _ _, .native served => decide (volume = served)
    | .record, .access => true
    | .file mode, .read => mode.reads
    | .file mode, .write => mode.writes
    | .file _, .manage => true
    | .directory, .entries => true
    | _, _ => false

/-- The bytes of a C string. -/
def FsKind.bytes : FsKind → List UInt8
  | .text bytes => bytes
  | .path _ _ bytes => bytes
  | _ => []

/-! ### Library, memory and strings -/

/-- `struct stat`, as far as it is read. -/
structure NativeStat where
  directory : Bool
  writable : Bool
  size : Int64
  mtime : Int64
  ctime : Int64
  atime : Int64

/-- The functions that are called.  `resolve` is `ResolvePath` with the current directory of a
backend; a `DIR` has no further entry where `readdir` answers `none`. -/
structure FsLibrary (σ ω : Type) where
  utf8 : σ → List UInt8
  ofUtf8 : List UInt8 → σ
  resolve : σ → σ → σ
  root : σ
  memory : ω → Bool × ω
  errno : ω → Int32 × ω
  enterNativeSafe : ω → Bool × ω
  fopen : List UInt8 → FopenMode → ω → Bool × ω
  fclose : Handle FsKind → ω → Int32 × ω
  fread : Handle FsKind → UInt32 → ω → (List UInt8 × Bool) × ω
  fwrite : Handle FsKind → List UInt8 → ω → UInt32 × ω
  ftell : Handle FsKind → ω → Int32 × ω
  fseek : Handle FsKind → Int32 → Int32 → ω → Int32 × ω
  ftruncate : Handle FsKind → Int64 → ω → Int32 × ω
  fflush : Handle FsKind → ω → Int32 × ω
  stat : List UInt8 → ω → Option NativeStat × ω
  utime : List UInt8 → Int64 → Int64 → ω → Int32 × ω
  mkdir : List UInt8 → ω → Int32 × ω
  remove : List UInt8 → ω → Int32 × ω
  rename : List UInt8 → List UInt8 → ω → Int32 × ω
  opendir : List UInt8 → ω → Bool × ω
  readdir : Handle FsKind → ω → Option (List UInt8) × ω

variable {σ ω : Type}

/-- A function of the two modules, which owns what it allocates and opens. -/
abbrev FsProgram (ω : Type) := Own FsKind FsUse ω

/-- `ENOENT`. -/
def enoent : Int32 := 2

/-! ### Paths -/

/-- The statics of the adapter, and where in the log each volume has been mounted last. -/
structure FsVolumes where
  native : NativeStorage
  since : StorageVolume → Nat

/-- What `bmx_fs_path` puts together; a path that begins with `/` gets no other. -/
def bmxFsNative (volume : StorageVolume) (relative : List UInt8) : List UInt8 :=
  if relative.head? = some slash then bmxFsBase volume ++ relative
  else bmxFsBase volume ++ slash :: relative

/-- `bmx_embedded_string_to_utf8_string`. -/
def fsUtf8 (d : FsLibrary σ ω) (value : σ) : FsProgram ω (Option (Handle FsKind)) := do
  let memory ← ask d.memory
  if memory then
    let text ← acquire (.text (cString (d.utf8 value)))
    pure (some text)
  else pure none

/-- The native path of a path on a volume, if that is mounted. -/
def bmxFsPath (d : FsLibrary σ ω) (v : FsVolumes) (volume : StorageVolume) (path : σ) :
    FsProgram ω (Option (Handle FsKind)) := do
  if v.native.mounted volume = false then pure none
  else
    let relative ← fsUtf8 d path
    match relative with
    | none => pure none
    | some relative =>
      use relative .access
      let (_, result) ← attempt d.memory id
        (.path volume (v.since volume) (bmxFsNative volume relative.kind.bytes))
      match result with
      | none =>
        release relative
        pure none
      | some result =>
        use result .access
        use relative .access
        release relative
        pure (some result)

/-- What the functions with one path share: `call`, and the path freed after it. -/
def fsWithPath {α : Type} (d : FsLibrary σ ω) (v : FsVolumes) (volume : StorageVolume) (path : σ)
    (absent : α) (call : Handle FsKind → FsProgram ω α) : FsProgram ω α := do
  let nativePath ← bmxFsPath d v volume path
  match nativePath with
  | none => pure absent
  | some nativePath =>
    let result ← call nativePath
    release nativePath
    pure result

/-- A call of the library with a path. -/
def fsNative {α : Type} (volume : StorageVolume) (nativePath : Handle FsKind)
    (question : List UInt8 → ω → α × ω) : FsProgram ω α := do
  use nativePath (.native volume)
  ask (question nativePath.kind.bytes)

/-! ### Open files -/

/-- `BMXESP32File` and `BMXESP32Directory`: where the record is, and what it points to. -/
structure FsRecord where
  record : Handle FsKind
  object : Handle FsKind

/-- `WRITE_MODE_NONE`, `WRITE_MODE_OVERWRITE` and `WRITE_MODE_APPEND`. -/
inductive WriteMode
  | none
  | overwrite
  | append
  deriving DecidableEq

/-- The mode string that `open` chooses. -/
def fopenMode (readable : Bool) : WriteMode → FopenMode
  | .overwrite => if readable then .wPlusB else .wb
  | .append => if readable then .aPlusB else .ab
  | .none => if readable then .rb else .wb

/-- The record of a file or a directory, and the object if the library has opened one. -/
def fsOpenRecord (d : FsLibrary σ ω) (volume : StorageVolume) (kind : FsKind)
    (open_ : List UInt8 → ω → Bool × ω) (nativePath : Handle FsKind) :
    FsProgram ω (Option (Handle FsKind × Option (Handle FsKind))) := do
  let memory ← ask d.memory
  if memory then
    let record ← acquire .record
    use nativePath (.native volume)
    let (_, object) ← attempt (open_ nativePath.kind.bytes) id kind
    use record .access
    pure (some (record, object))
  else pure none

/-- The record is freed where it points to nothing. -/
def fsOpened : Option (Handle FsKind × Option (Handle FsKind)) → FsProgram ω (Option FsRecord)
  | none => pure none
  | some (record, some object) => do
    use record .access
    pure (some ⟨record, object⟩)
  | some (record, none) => do
    use record .access
    release record
    pure none

/-- With the record of errors that it leaves. -/
def bmxEsp32FilesystemOpen (d : FsLibrary σ ω) (v : FsVolumes) (volume : StorageVolume) (path : σ)
    (readable : Bool) (writeMode : WriteMode) : FsProgram ω (Option FsRecord × NativeStorage) := do
  let mode := fopenMode readable writeMode
  let found ← fsWithPath d v volume path none fun nativePath =>
    some <$> fsOpenRecord d volume (.file mode) (fun bytes => d.fopen bytes mode) nativePath
  match found with
  | none => pure (none, (v.native.bmxFsSetError volume (-enoent)).2)
  | some found =>
    let handle ← fsOpened found
    match handle with
    | none =>
      let errno ← ask d.errno
      pure (none, (v.native.bmxFsSetError volume (-errno)).2)
    | some handle => pure (some handle, (v.native.bmxFsSetError volume 0).2)

/-- The record goes with the stream, also where `fclose` fails. -/
def bmxEsp32FilesystemClose (d : FsLibrary σ ω) (handle : FsRecord) : FsProgram ω Int32 := do
  use handle.record .access
  let result ← ask (d.fclose handle.object)
  release handle.object
  release handle.record
  pure result

/-- A read or a write, with the collector allowed to run where the build has several cores. -/
def fsTransfer {α : Type} (d : FsLibrary σ ω) (multicore : Bool) (count : Int64)
    (transfer : FsProgram ω α) : FsProgram ω α := do
  if multicore && decide (0 < count) then
    let (_, nativeSafe) ← attempt d.enterNativeSafe id .nativeSafe
    let outcome ← transfer
    releaseSome nativeSafe
    pure outcome
  else transfer

/-- `SIZE_MAX`. -/
def sizeMax : Int64 := 0xffffffff

/-- The outcome, and what has been put in the buffer, which may be NULL. -/
def bmxEsp32FilesystemRead (d : FsLibrary σ ω) (multicore : Bool) (handle : FsRecord)
    (buffer : Bool) (count : Int64) : FsProgram ω (Int64 × List UInt8) := do
  if buffer = false ∨ count < 0 ∨ sizeMax < count then pure (-1, [])
  else
    use handle.record .access
    fsTransfer d multicore count do
      use handle.object .read
      let (bytes, ferror) ← ask (d.fread handle.object count.toUInt64.toUInt32)
      let result := bytes.take count.toInt.toNat
      use handle.object .manage
      pure (if result ≠ [] ∨ ferror = false then Int64.ofNat result.length else -1, result)

/-- All of the bytes, or an error. -/
def bmxEsp32FilesystemWrite (d : FsLibrary σ ω) (multicore : Bool) (handle : FsRecord)
    (buffer : Option (List UInt8)) (count : Int64) : FsProgram ω Int64 := do
  match buffer with
  | none => pure (-1)
  | some data =>
    if count < 0 ∨ sizeMax < count then pure (-1)
    else
      use handle.record .access
      fsTransfer d multicore count do
        use handle.object .write
        let result ← ask (d.fwrite handle.object (data.take count.toInt.toNat))
        pure (if result = count.toUInt64.toUInt32 then count else -1)

/-- A call of the library with a `FILE`. -/
def fsObject {α : Type} (handle : FsRecord) (how : FsUse) (question : Handle FsKind → ω → α × ω) :
    FsProgram ω α := do
  use handle.record .access
  use handle.object how
  ask (question handle.object)

/-- `ftell`. -/
def bmxEsp32FilesystemPosition (d : FsLibrary σ ω) (handle : FsRecord) : FsProgram ω Int64 := do
  let position ← fsObject handle .manage d.ftell
  pure position.toInt64

/-- `SEEK_SET` and `SEEK_END`. -/
def seekSet : Int32 := 0
def seekEnd : Int32 := 2

/-- The position is put back, whether that succeeds or not. -/
def bmxEsp32FilesystemSize (d : FsLibrary σ ω) (handle : FsRecord) : FsProgram ω Int64 := do
  let position ← fsObject handle .manage d.ftell
  if position < 0 then pure (-1)
  else
    let sought ← fsObject handle .manage fun file => d.fseek file 0 seekEnd
    if sought ≠ 0 then pure (-1)
    else
      let size ← fsObject handle .manage d.ftell
      let _ ← fsObject handle .manage fun file => d.fseek file position seekSet
      pure size.toInt64

/-- An offset that is no `long` is refused. -/
def bmxEsp32FilesystemSeek (d : FsLibrary σ ω) (handle : FsRecord) (offset : Int64)
    (whence : Int32) : FsProgram ω Int64 := do
  if offset < -0x80000000 ∨ 0x7fffffff < offset then pure (-1)
  else
    let sought ← fsObject handle .manage fun file => d.fseek file offset.toInt32 whence
    if sought ≠ 0 then pure (-1)
    else
      let position ← fsObject handle .manage d.ftell
      pure position.toInt64

/-- `ftruncate`, for a length that is not negative. -/
def bmxEsp32FilesystemResize (d : FsLibrary σ ω) (handle : FsRecord) (size : Int64) :
    FsProgram ω Int32 := do
  if 0 ≤ size then fsObject handle .write fun file => d.ftruncate file size
  else pure (-1)

/-- `fflush`. -/
def bmxEsp32FilesystemFlush (d : FsLibrary σ ω) (handle : FsRecord) : FsProgram ω Int32 :=
  fsObject handle .manage d.fflush

/-! ### Files and directories by their path -/

/-- `FILETYPE_FILE` and `FILETYPE_DIR`. -/
inductive FileType
  | file
  | directory
  deriving DecidableEq

/-- What `stat` tells of a file. -/
structure SFileStat where
  fileType : FileType
  size : Int64
  modifiedTime : Int64
  creationTime : Int64
  accessTime : Int64
  isReadOnly : Bool

section Paths

variable (d : FsLibrary σ ω) (v : FsVolumes) (volume : StorageVolume) (path : σ)

/-- Nothing is filled in where the result is not 0. -/
def bmxEsp32FilesystemStat : FsProgram ω (Option SFileStat) :=
  fsWithPath d v volume path none fun nativePath => do
    let info ← fsNative volume nativePath d.stat
    pure (info.map fun info => {
      fileType := if info.directory then .directory else .file
      size := info.size
      modifiedTime := info.mtime
      creationTime := info.ctime
      accessTime := info.atime
      isReadOnly := !info.writable })

/-- The time that is not set keeps what `stat` tells. -/
def bmxEsp32FilesystemSetTime (time : Int64) (timeType : Int32) : FsProgram ω Int32 :=
  fsWithPath d v volume path (-1) fun nativePath => do
    let info ← fsNative volume nativePath d.stat
    match info with
    | none => pure (-1)
    | some info =>
      fsNative volume nativePath fun bytes => d.utime bytes
        (if timeType = 2 then time else info.atime) (if timeType = 0 then time else info.mtime)

/-- `mkdir`. -/
def bmxEsp32FilesystemMkdir : FsProgram ω Int32 :=
  fsWithPath d v volume path (-1) fun nativePath => fsNative volume nativePath d.mkdir

/-- `remove`. -/
def bmxEsp32FilesystemRemove : FsProgram ω Int32 :=
  fsWithPath d v volume path (-1) fun nativePath => fsNative volume nativePath d.remove

/-- Both paths are made before the first is looked at. -/
def bmxEsp32FilesystemRename (newPath : σ) : FsProgram ω Int32 := do
  let a ← bmxFsPath d v volume path
  let b ← bmxFsPath d v volume newPath
  match a, b with
  | some a, some b =>
    use a (.native volume)
    use b (.native volume)
    let result ← ask (d.rename a.kind.bytes b.kind.bytes)
    release a
    release b
    pure result
  | a, b =>
    releaseSome a
    releaseSome b
    pure (-1)

/-- A record around what `opendir` returns. -/
def bmxEsp32FilesystemDirectoryOpen : FsProgram ω (Option FsRecord) := do
  let found ← fsWithPath d v volume path none
    (fsOpenRecord d volume .directory d.opendir)
  fsOpened found

end Paths

/-- The empty string where there is no entry, or no directory. -/
def bmxEsp32FilesystemDirectoryNext (d : FsLibrary σ ω) : Option FsRecord → FsProgram ω σ
  | none => pure (d.ofUtf8 [])
  | some handle => do
    let entry ← fsObject handle .entries d.readdir
    pure (d.ofUtf8 (entry.getD []))

/-- `NULL` is accepted. -/
def bmxEsp32FilesystemDirectoryClose : Option FsRecord → FsProgram ω Unit
  | none => pure ()
  | some handle => do
    use handle.record .access
    release handle.object
    release handle.record
    pure ()

/-! ### `TESP32FileStream` -/

/-- The fields of a stream; it is closed when it has no handle. -/
structure TESP32FileStream where
  handle : Option FsRecord
  readable : Bool
  writeMode : WriteMode

/-- `TStreamReadException` and `TStreamWriteException`. -/
inductive StreamException
  | read
  | write
  deriving DecidableEq

namespace TESP32FileStream

/-- -1 for a stream that is closed. -/
def pos (d : FsLibrary σ ω) (stream : TESP32FileStream) : FsProgram ω Int64 :=
  match stream.handle with
  | none => pure (-1)
  | some handle => bmxEsp32FilesystemPosition d handle

/-- 0 for a stream that is closed. -/
def size (d : FsLibrary σ ω) (stream : TESP32FileStream) : FsProgram ω Int64 :=
  match stream.handle with
  | none => pure 0
  | some handle => bmxEsp32FilesystemSize d handle

/-- -1 for a stream that is closed. -/
def seek (d : FsLibrary σ ω) (stream : TESP32FileStream) (position : Int64) (whence : Int32) :
    FsProgram ω Int64 :=
  match stream.handle with
  | none => pure (-1)
  | some handle => bmxEsp32FilesystemSeek d handle position whence

/-- A failure throws; a stream that is closed has nothing to flush. -/
def flush (d : FsLibrary σ ω) (stream : TESP32FileStream) :
    FsProgram ω (Except StreamException Unit) :=
  match stream.handle with
  | none => pure (.ok ())
  | some handle => do
    let result ← bmxEsp32FilesystemFlush d handle
    pure (if result < 0 then .error .write else .ok ())

/-- The handle is gone even where the close fails. -/
def close (d : FsLibrary σ ω) (stream : TESP32FileStream) :
    FsProgram ω (Except StreamException Unit × TESP32FileStream) :=
  match stream.handle with
  | none => pure (.ok (), stream)
  | some oldHandle => do
    let result ← bmxEsp32FilesystemClose d oldHandle
    pure (if result < 0 then .error .write else .ok (), { stream with handle := none })

/-- A stream that is closed, or not readable, throws. -/
def read (d : FsLibrary σ ω) (multicore : Bool) (stream : TESP32FileStream) (buffer : Bool)
    (count : Int64) : FsProgram ω (Except StreamException Int64 × List UInt8) :=
  match stream.handle, stream.readable with
  | some handle, true => do
    let (result, bytes) ← bmxEsp32FilesystemRead d multicore handle buffer count
    pure (if result < 0 then .error .read else .ok result, bytes)
  | _, _ => pure (.error .read, [])

/-- A stream that is closed, or not writeable, throws. -/
def write (d : FsLibrary σ ω) (multicore : Bool) (stream : TESP32FileStream)
    (buffer : Option (List UInt8)) (count : Int64) : FsProgram ω (Except StreamException Int64) :=
  match stream.handle, stream.writeMode with
  | some _, .none => pure (.error .write)
  | some handle, _ => do
    let result ← bmxEsp32FilesystemWrite d multicore handle buffer count
    pure (if result < 0 then .error .write else .ok result)
  | none, _ => pure (.error .write)

/-- Only a stream that can be written has its length changed. -/
def setSize (d : FsLibrary σ ω) (stream : TESP32FileStream) (size : Int64) : FsProgram ω Bool :=
  match stream.handle, stream.writeMode with
  | some _, .none => pure false
  | some handle, _ => do
    let result ← bmxEsp32FilesystemResize d handle size
    pure (decide (result = 0))
  | none, _ => pure false

/-- `TESP32FileStream.Open`, with the record of errors. -/
def open_ (d : FsLibrary σ ω) (v : FsVolumes) (volume : StorageVolume) (path : σ)
    (readable : Bool) (writeMode : WriteMode) :
    FsProgram ω (Option TESP32FileStream × NativeStorage) := do
  let (handle, native) ← bmxEsp32FilesystemOpen d v volume path readable writeMode
  pure (handle.map fun handle => ⟨some handle, readable, writeMode⟩, native)

end TESP32FileStream

/-- The methods of a stream. -/
inductive FileStreamCall
  | pos
  | size
  | seek (position : Int64) (whence : Int32)
  | flush
  | close
  | read (buffer : Bool) (count : Int64)
  | write (buffer : Option (List UInt8)) (count : Int64)
  | setSize (size : Int64)

/-- The stream after a method; what it returns or throws is dropped. -/
def FileStreamCall.run (d : FsLibrary σ ω) (multicore : Bool) (stream : TESP32FileStream) :
    FileStreamCall → FsProgram ω TESP32FileStream
  | .pos => (fun _ => stream) <$> stream.pos d
  | .size => (fun _ => stream) <$> stream.size d
  | .seek position whence => (fun _ => stream) <$> stream.seek d position whence
  | .flush => (fun _ => stream) <$> stream.flush d
  | .close => (·.2) <$> stream.close d
  | .read buffer count => (fun _ => stream) <$> stream.read d multicore buffer count
  | .write buffer count => (fun _ => stream) <$> stream.write d multicore buffer count
  | .setSize length => (fun _ => stream) <$> stream.setSize d length

/-! ### `TESP32FileSystemBackend` -/

/-- The methods that open nothing that stays open. -/
inductive BackendCall (σ : Type)
  | changeDirectory (path : σ)
  | stat (path : σ)
  | setTime (path : σ) (time : Int64) (timeType : Int32)
  | fileMode (path : σ)
  | createFile (path : σ)
  | createDirectory (path : σ)
  | deleteFile (path : σ)
  | deleteDirectory (path : σ)
  | rename (oldPath newPath : σ)

/-- A backend: its volume, its current directory, and the statics of the adapter. -/
structure TESP32FileSystemBackend (σ : Type) where
  volumes : FsVolumes
  volume : StorageVolume
  directory : σ

namespace TESP32FileSystemBackend

variable (d : FsLibrary σ ω) (b : TESP32FileSystemBackend σ)

/-- A path as the current directory has it. -/
def resolve (path : σ) : σ := d.resolve b.directory path

/-- What is known of a path, if there is something. -/
def stat (path : σ) : FsProgram ω (Option SFileStat) :=
  bmxEsp32FilesystemStat d b.volumes b.volume (b.resolve d path)

/-- The new current directory if there is such a directory.  The path is resolved twice. -/
def changeDirectory (path : σ) : FsProgram ω (Bool × σ) := do
  let resolved := b.resolve d path
  let info ← b.stat d resolved
  match info with
  | none => pure (false, b.directory)
  | some info =>
    pure (if info.fileType = .directory then (true, resolved) else (false, b.directory))

/-- As `bmx_esp32_filesystem_set_time` answers. -/
def setTime (path : σ) (time : Int64) (timeType : Int32) : FsProgram ω Int32 :=
  bmxEsp32FilesystemSetTime d b.volumes b.volume (b.resolve d path) time timeType

/-- 0777 for a directory and 0666 for a file. -/
def fileMode (path : σ) : FsProgram ω Int32 := do
  let info ← b.stat d path
  match info with
  | none => pure (-1)
  | some info => pure (if info.fileType = .directory then 0x1ff else 0x1b6)

/-- A stream that is closed at once; the exception if that fails. -/
def createFile (path : σ) : FsProgram ω (Except StreamException Bool × NativeStorage) := do
  let (stream, native) ←
    TESP32FileStream.open_ d b.volumes b.volume (b.resolve d path) false .overwrite
  match stream with
  | none => pure (.ok false, native)
  | some stream =>
    let (closed, _) ← stream.close d
    pure (closed.map fun _ => true, native)

/-- Whether the directory has been made. -/
def createDirectory (path : σ) : FsProgram ω Bool :=
  (fun result => decide (result = 0)) <$>
    bmxEsp32FilesystemMkdir d b.volumes b.volume (b.resolve d path)

/-- `DeleteFile` and `DeleteDirectory`, which leave alone what is of another type. -/
def delete (fileType : FileType) (path : σ) : FsProgram ω Bool := do
  let info ← b.stat d path
  match info with
  | none => pure false
  | some info =>
    if info.fileType = fileType then
      (fun result => decide (result = 0)) <$>
        bmxEsp32FilesystemRemove d b.volumes b.volume (b.resolve d path)
    else pure false

/-- Only a file is removed. -/
def deleteFile (path : σ) : FsProgram ω Bool := b.delete d .file path

/-- Only a directory is removed. -/
def deleteDirectory (path : σ) : FsProgram ω Bool := b.delete d .directory path

/-- Both paths are on the volume of the backend. -/
def rename (oldPath newPath : σ) : FsProgram ω Bool :=
  (fun result => decide (result = 0)) <$>
    bmxEsp32FilesystemRename d b.volumes b.volume (b.resolve d oldPath) (b.resolve d newPath)

/-- What a call leaves of the statics and of the current directory. -/
def run : BackendCall σ → FsProgram ω (NativeStorage × σ)
  | .changeDirectory path => (fun r => (b.volumes.native, r.2)) <$> b.changeDirectory d path
  | .stat path => (fun _ => (b.volumes.native, b.directory)) <$> b.stat d path
  | .setTime path time timeType =>
    (fun _ => (b.volumes.native, b.directory)) <$> b.setTime d path time timeType
  | .fileMode path => (fun _ => (b.volumes.native, b.directory)) <$> b.fileMode d path
  | .createFile path => (fun r => (r.2, b.directory)) <$> b.createFile d path
  | .createDirectory path =>
    (fun _ => (b.volumes.native, b.directory)) <$> b.createDirectory d path
  | .deleteFile path => (fun _ => (b.volumes.native, b.directory)) <$> b.deleteFile d path
  | .deleteDirectory path =>
    (fun _ => (b.volumes.native, b.directory)) <$> b.deleteDirectory d path
  | .rename oldPath newPath =>
    (fun _ => (b.volumes.native, b.directory)) <$> b.rename d oldPath newPath

end TESP32FileSystemBackend

/-! ### Runs -/

/-- A call of the modules.  Streams and directories are counted in the order in which they have
been opened. -/
inductive FsCall (σ : Type)
  | storage (a : StorageCall)
  | openPath (volume : StorageVolume) (path : σ) (readable : Bool) (writeMode : WriteMode)
  | stream (i : Nat) (call : FileStreamCall)
  | backend (volume : StorageVolume) (call : BackendCall σ)
  | openDirectory (volume : StorageVolume) (path : σ)
  | nextDirectoryEntry (i : Nat)
  | closeDirectory (i : Nat)

/-- A directory is the pointer of the program that has opened it, which it drops when it closes
it. -/
structure FsSystem (σ ω : Type) where
  storage : StorageSystem
  since : StorageVolume → Nat
  currentDirectory : StorageVolume → σ
  streams : List TESP32FileStream
  directories : List (Option FsRecord)
  log : List (Op FsKind FsUse)
  world : ω

namespace FsSystem

/-- The volumes, each with its current mount. -/
def volumes (s : FsSystem σ ω) : FsVolumes := ⟨s.storage.state.native, s.since⟩

/-- Replace what the native side knows of the volumes. -/
def setNative (s : FsSystem σ ω) (native : NativeStorage) : FsSystem σ ω :=
  { s with storage := { s.storage with state := { s.storage.state with native } } }

/-- The backend of a volume. -/
def backend (s : FsSystem σ ω) (volume : StorageVolume) : TESP32FileSystemBackend σ :=
  ⟨s.volumes, volume, s.currentDirectory volume⟩

end FsSystem

/-- A mount begins or ends. -/
def fsMountChanged (volume : StorageVolume) (before after : Bool) (since : Nat) :
    FsProgram ω Nat := do
  match before, after with
  | false, true =>
    let mount ← acquire (.mounted volume)
    pure mount.number
  | true, false =>
    release ⟨.mounted volume, since⟩
    pure since
  | _, _ => pure since

/-- Both volumes. -/
def fsMountsChanged (before after : StorageVolume → Bool) (since : StorageVolume → Nat) :
    FsProgram ω (StorageVolume → Nat) := do
  let littleFS ← fsMountChanged .littleFS (before .littleFS) (after .littleFS) (since .littleFS)
  let sd ← fsMountChanged .sd (before .sd) (after .sd) (since .sd)
  pure fun
    | .littleFS => littleFS
    | .sd => sd

/-- `sdmmc` and `multicore` are choices of the build; `fold` is what `SetDefaultStorageVolume` does
to a name. -/
def fsStep (sdmmc multicore : Bool) (fold : String → String) (d : FsLibrary σ ω)
    (s : FsSystem σ ω) : FsCall σ → FsSystem σ ω
  | .storage a =>
    let storage := storageCall sdmmc fold s.storage a
    let (since, log, world) := fsMountsChanged s.storage.state.native.mounted
      storage.state.native.mounted s.since (s.log, s.world)
    { s with storage, since, log, world }
  | .openPath volume path readable writeMode =>
    let ((stream, native), log, world) := TESP32FileStream.open_ d s.volumes volume
      ((s.backend volume).resolve d path) readable writeMode (s.log, s.world)
    { s.setNative native with streams := s.streams ++ stream.toList, log, world }
  | .stream i call =>
    match s.streams[i]? with
    | none => s
    | some stream =>
      let (stream, log, world) := call.run d multicore stream (s.log, s.world)
      { s with streams := s.streams.set i stream, log, world }
  | .backend volume call =>
    let ((native, directory), log, world) := (s.backend volume).run d call (s.log, s.world)
    { s.setNative native with
      currentDirectory := Function.update s.currentDirectory volume directory, log, world }
  | .openDirectory volume path =>
    let (directory, log, world) := bmxEsp32FilesystemDirectoryOpen d s.volumes volume
      ((s.backend volume).resolve d path) (s.log, s.world)
    { s with directories := s.directories ++ [directory], log, world }
  | .nextDirectoryEntry i =>
    match s.directories[i]? with
    | none => s
    | some directory =>
      let (_, log, world) := bmxEsp32FilesystemDirectoryNext d directory (s.log, s.world)
      { s with log, world }
  | .closeDirectory i =>
    match s.directories[i]? with
    | none => s
    | some directory =>
      let (_, log, world) := bmxEsp32FilesystemDirectoryClose directory (s.log, s.world)
      { s with directories := s.directories.set i none, log, world }

/-- Calls of the two modules, in any order. -/
def fsMachine (sdmmc multicore : Bool) (fold : String → String) (d : FsLibrary σ ω) :
    Machine (FsSystem σ ω) (FsCall σ) where
  init s := s.storage = storageReset ∧ s.currentDirectory = (fun _ => d.root) ∧ s.streams = [] ∧
    s.directories = [] ∧ s.log = []
  step s call := some (fsStep sdmmc multicore fold d s call)

/-! ### Native paths -/

/-- What is behind the mount point and the `/` after it. -/
def fsBelow (relative : List UInt8) : List UInt8 :=
  if relative.head? = some slash then relative.tail else relative

theorem bmxFsNative_eq (volume : StorageVolume) (relative : List UInt8) :
    bmxFsNative volume relative = bmxFsBase volume ++ slash :: fsBelow relative := by
  unfold bmxFsNative fsBelow
  split
  next hhead =>
    obtain ⟨tail, rfl⟩ := List.head?_eq_some_iff.mp hhead
    rfl
  next => rfl

theorem cString_zero_free (bytes : List UInt8) : 0 ∉ cString bytes := by
  intro hmem
  have hne := List.mem_takeWhile_imp hmem
  simp at hne

theorem bmxFsBase_zero_free (volume : StorageVolume) : 0 ∉ bmxFsBase volume := by
  cases volume <;> decide

/-- A native path lies below its mount point, and C reads all of it. -/
theorem bmxFsNative_proper (volume : StorageVolume) (mount : Nat) {relative : List UInt8}
    (hzero : 0 ∉ relative) :
    fsContract.proper (.path volume mount (bmxFsNative volume relative)) = true := by
  have hbelow : 0 ∉ fsBelow relative := by
    unfold fsBelow
    split
    · exact fun hmem => hzero (List.mem_of_mem_tail hmem)
    · exact hzero
  rw [bmxFsNative_eq]
  simp only [fsContract, Bool.and_eq_true, List.isPrefixOf_iff_prefix, Bool.not_eq_true']
  constructor
  · exact ⟨fsBelow relative, by simp⟩
  · rw [← Bool.not_eq_true, List.contains_iff_mem, List.mem_append, List.mem_cons]
    rintro (hbase | hslash | hrest)
    · exact bmxFsBase_zero_free volume hbase
    · exact absurd hslash (by decide)
    · exact hbelow hrest

/-- No path of one volume is a path of the other. -/
theorem bmxFsBase_slash_inj {volume volume' : StorageVolume} {rest rest' : List UInt8}
    (h : bmxFsBase volume ++ slash :: rest = bmxFsBase volume' ++ slash :: rest') :
    volume = volume' ∧ rest = rest' := by
  cases volume <;> cases volume' <;> simp_all [bmxFsBase, slash]

/-- **Two paths are one native path** only within a volume, and only if they differ by nothing but
a leading `/`. -/
theorem bmxFsNative_eq_iff {volume volume' : StorageVolume} {relative relative' : List UInt8} :
    bmxFsNative volume relative = bmxFsNative volume' relative' ↔
      volume = volume' ∧ fsBelow relative = fsBelow relative' := by
  rw [bmxFsNative_eq, bmxFsNative_eq]
  constructor
  · exact bmxFsBase_slash_inj
  · rintro ⟨rfl, hbelow⟩
    rw [hbelow]

/-! ### What is owned -/

variable {d : FsLibrary σ ω} {v : FsVolumes} {volume : StorageVolume} {path : σ}
  {P : Multiset (Handle FsKind)} {h : Handle FsKind} {α : Type}

/-- The mount of a volume. -/
def fsMount (v : FsVolumes) (volume : StorageVolume) : Multiset (Handle FsKind) :=
  if v.native.mounted volume = true then {⟨.mounted volume, v.since volume⟩} else 0

/-- The mounts of both. -/
def fsMounts (v : FsVolumes) : Multiset (Handle FsKind) := fsMount v .littleFS + fsMount v .sd

/-- A path of the volume, made while it is mounted. -/
structure FsPath (v : FsVolumes) (volume : StorageVolume) (h : Handle FsKind) : Prop where
  mounted : v.native.mounted volume = true
  kind : ∃ bytes, h.kind = .path volume (v.since volume) bytes

/-- The mounts are there, and nothing rests on anything but the mount of the volume. -/
structure FsBeside (v : FsVolumes) (volume : StorageVolume) (P : Multiset (Handle FsKind)) :
    Prop where
  mounts : ∀ volume, v.native.mounted volume = true → v.since volume ∈ P.map Handle.number
  rests : ∀ x ∈ P, ∀ p ∈ fsContract.rests x.kind, p = v.since volume

theorem fsMount_plain (v : FsVolumes) (volume : StorageVolume) :
    Plain fsContract (fsMount v volume) := by
  unfold fsMount
  split
  · exact Plain.cons rfl plain_zero
  · exact plain_zero

theorem fsMounts_plain (v : FsVolumes) : Plain fsContract (fsMounts v) := by
  intro x hx
  rcases Multiset.mem_add.mp hx with hx | hx
  · exact fsMount_plain v .littleFS x hx
  · exact fsMount_plain v .sd x hx

theorem fsMounts_beside (v : FsVolumes) (volume : StorageVolume) :
    FsBeside v volume (fsMounts v) where
  mounts := by
    intro volume hmounted
    refine Multiset.mem_map.mpr ⟨⟨.mounted volume, v.since volume⟩, ?_, rfl⟩
    cases volume <;> simp [fsMounts, fsMount, hmounted]
  rests := fun x hx p hp => absurd hp ((fsMounts_plain v).free p x hx)

theorem FsBeside.cons (hP : FsBeside v volume P)
    (hh : ∀ p ∈ fsContract.rests h.kind, p = v.since volume) : FsBeside v volume (h ::ₘ P) where
  mounts := by
    intro volume hmounted
    rw [Multiset.map_cons]
    exact Multiset.mem_cons_of_mem (hP.mounts volume hmounted)
  rests := by
    intro x hx
    rcases Multiset.mem_cons.mp hx with rfl | hx
    · exact hh
    · exact hP.rests x hx

theorem FsPath.rests (hpath : FsPath v volume h) :
    ∀ p ∈ fsContract.rests h.kind, p = v.since volume := by
  obtain ⟨bytes, hkind⟩ := hpath.kind
  rw [hkind]
  exact fun p hp => List.mem_singleton.mp hp

theorem FsPath.native (hpath : FsPath v volume h) :
    fsContract.legal h.kind (.native volume) = true := by
  obtain ⟨bytes, hkind⟩ := hpath.kind
  rw [hkind]
  exact decide_eq_true rfl

/-! ### Triples of the paths -/

/-- What is on top may be given back while the mounts are still there. -/
theorem Triple.releaseFs {Q : α → Multiset (Handle FsKind) → Prop} {k : Unit → FsProgram ω α}
    (hP : FsBeside v volume P) (hh : ∀ p ∈ fsContract.rests h.kind, p = v.since volume)
    (hmounted : v.native.mounted volume = true) (hk : Triple fsContract P (k ()) Q) :
    Triple fsContract (h ::ₘ P) (release h >>= k) Q := by
  refine Triple.distinct fun hdistinct => Triple.release (Multiset.mem_cons_self _ _) ?_ ?_
  · -- the mount is another handle
    rw [Multiset.map_cons, Multiset.nodup_cons] at hdistinct
    intro x hx hp
    have hsince := (hP.cons hh).rests x hx _ hp
    exact hdistinct.1 (hsince ▸ hP.mounts volume hmounted)
  · rwa [Multiset.erase_cons_head]

theorem fsUtf8_triple (value : σ) : Triple fsContract P (fsUtf8 d value) fun text held =>
    held = heldSome text + P ∧ ∀ x, text = some x → x.kind = .text (cString (d.utf8 value)) := by
  refine Triple.ask fun memory => ?_
  cases memory with
  | false => exact Triple.pure ⟨(zero_add _).symm, fun x hx => by cases hx⟩
  | true =>
    refine Triple.acquire rfl (fun _ hp => absurd hp List.not_mem_nil) fun x hkind _ => ?_
    refine Triple.pure ⟨(Multiset.singleton_add _ _).symm, fun y hy => ?_⟩
    exact Option.some.inj hy ▸ hkind

/-- A native path is made beside whatever is held, if the mounts are. -/
theorem path_triple (hP : FsBeside v volume P) :
    Triple fsContract P (bmxFsPath d v volume path) fun result held =>
      held = heldSome result + P ∧ ∀ x, result = some x → FsPath v volume x := by
  unfold bmxFsPath
  split
  · exact Triple.pure ⟨(zero_add _).symm, fun x hx => by cases hx⟩
  next hmounted =>
    have hmounted := (Bool.not_eq_false _).mp hmounted
    refine Triple.bind (fsUtf8_triple path) ?_
    rintro relative held ⟨rfl, hkind⟩
    cases relative with
    | none => exact Triple.pure ⟨rfl, fun x hx => by cases hx⟩
    | some relative =>
      have hkind := hkind relative rfl
      have hlegal : fsContract.legal relative.kind .access = true := by simp [hkind, fsContract]
      have hrests : ∀ p ∈ fsContract.rests relative.kind, p = v.since volume := by
        simp [hkind, fsContract]
      have hzero : 0 ∉ relative.kind.bytes := by
        rw [hkind]
        exact cString_zero_free _
      rw [heldSome, Multiset.singleton_add]
      refine Triple.use (Multiset.mem_cons_self _ _) hlegal ?_
      -- the relative path is released whether or not the native one has been allocated
      refine Triple.attempt (bmxFsNative_proper volume _ hzero) ?_ (fun answer _ => ?_)
        fun answer result _ hresult _ => ?_
      · intro p hp
        rw [List.mem_singleton.mp hp]
        exact (hP.cons hrests).mounts volume hmounted
      · refine Triple.releaseFs hP hrests hmounted (Triple.pure ?_)
        exact ⟨(zero_add _).symm, fun x hx => by cases hx⟩
      · have hpath : FsPath v volume result := ⟨hmounted, _, hresult⟩
        refine Triple.use (Multiset.mem_cons_self _ _) (by simp [hresult, fsContract]) ?_
        refine Triple.use (Multiset.mem_cons_of_mem (Multiset.mem_cons_self _ _)) hlegal ?_
        rw [Multiset.cons_swap]
        refine Triple.releaseFs (hP.cons hpath.rests) hrests hmounted (Triple.pure ?_)
        refine ⟨(Multiset.singleton_add _ _).symm, fun x hx => ?_⟩
        exact Option.some.inj hx ▸ hpath

/-- A function with one path gives the path back, and leaves what `call` leaves beside it. -/
theorem withPath_triple {absent : α} {call : Handle FsKind → FsProgram ω α}
    (extra : α → Multiset (Handle FsKind)) (Good : α → Prop) (hP : FsBeside v volume P)
    (habsent : extra absent = 0) (hgood : Good absent)
    (hplain : ∀ a, Good a → Plain fsContract (extra a))
    (hcall : ∀ h, FsPath v volume h → Triple fsContract (h ::ₘ P) (call h) fun a held =>
      held = h ::ₘ (extra a + P) ∧ Good a) :
    Triple fsContract P (fsWithPath d v volume path absent call) fun a held =>
      held = extra a + P ∧ Good a := by
  refine Triple.bind (path_triple hP) ?_
  rintro result held ⟨rfl, hpath⟩
  cases result with
  | none => exact Triple.pure ⟨by rw [habsent, heldSome], hgood⟩
  | some nativePath =>
    have hpath := hpath nativePath rfl
    rw [heldSome, Multiset.singleton_add]
    refine Triple.bind (hcall nativePath hpath) ?_
    rintro a held ⟨rfl, ha⟩
    have hbeside : FsBeside v volume (extra a + P) := by
      refine ⟨fun volume hmounted => ?_, fun x hx p hp => ?_⟩
      · rw [Multiset.map_add]
        exact Multiset.mem_add.mpr (.inr (hP.mounts volume hmounted))
      · rcases Multiset.mem_add.mp hx with hx | hx
        · exact absurd hp ((hplain a ha).free p x hx)
        · exact hP.rests x hx p hp
    exact Triple.releaseFs hbeside hpath.rests hpath.mounted (Triple.pure ⟨rfl, ha⟩)

theorem fsNative_triple {question : List UInt8 → ω → α × ω} (hpath : FsPath v volume h)
    (hmem : h ∈ P) :
    Triple fsContract P (fsNative volume h question) fun _ held => held = P :=
  Triple.use hmem hpath.native (Triple.ask fun _ => Triple.pure rfl)

/-- The functions that do nothing but ask with a path. -/
theorem withPath_keeps {absent : α} {call : Handle FsKind → FsProgram ω α}
    (hP : FsBeside v volume P)
    (hcall : ∀ h, FsPath v volume h →
      Triple fsContract (h ::ₘ P) (call h) fun _ held => held = h ::ₘ P) :
    Triple fsContract P (fsWithPath d v volume path absent call) fun _ held => held = P := by
  refine (withPath_triple (fun _ => 0) (fun _ => True) hP rfl trivial (fun _ _ => plain_zero)
    fun h hpath => ?_).conseq ?_
  · refine (hcall h hpath).conseq ?_
    rintro a held rfl
    exact ⟨by rw [zero_add], trivial⟩
  · rintro a held ⟨rfl, -⟩
    exact zero_add P

/-! ### Triples of what is opened -/

/-- What a record owns. -/
def fsOwned : Option FsRecord → Multiset (Handle FsKind)
  | none => 0
  | some handle => handle.record ::ₘ {handle.object}

/-- A record of its kind. -/
structure FsRecord.WellFormed (handle : FsRecord) (kind : FsKind) : Prop where
  record : handle.record.kind = .record
  object : handle.object.kind = kind

/-- What has been found when a file or a directory is opened. -/
def fsFound : Option (Handle FsKind × Option (Handle FsKind)) → Multiset (Handle FsKind)
  | none => 0
  | some (record, object) => record ::ₘ heldSome object

/-- What `fsOpenRecord` gives, if it gives something: a record, and an object of the kind. -/
def FsFound (kind : FsKind) (found : Option (Handle FsKind × Option (Handle FsKind))) : Prop :=
  ∀ record object, found = some (record, object) → record.kind = .record ∧
    ∀ x, object = some x → x.kind = kind

variable {kind : FsKind} {handle : FsRecord}

theorem fsOwned_plain {handle : Option FsRecord} (hkind : fsContract.rests kind = [])
    (hwf : ∀ x, handle = some x → x.WellFormed kind) : Plain fsContract (fsOwned handle) := by
  cases handle with
  | none => exact plain_zero
  | some handle =>
    have hwf := hwf handle rfl
    refine Plain.cons (by simp [hwf.record, fsContract]) (Plain.cons ?_ plain_zero)
    rw [hwf.object]
    exact hkind

theorem fsFound_plain {found : Option (Handle FsKind × Option (Handle FsKind))}
    (hkind : fsContract.rests kind = []) (hfound : FsFound kind found) :
    Plain fsContract (fsFound found) := by
  obtain - | ⟨record, object⟩ := found
  · exact plain_zero
  · obtain ⟨hrecord, hobject⟩ := hfound record object rfl
    refine Plain.cons (by simp [hrecord, fsContract]) ?_
    cases object with
    | none => exact plain_zero
    | some object =>
      refine Plain.cons ?_ plain_zero
      rw [hobject object rfl]
      exact hkind

theorem fsOpenRecord_triple {open_ : List UInt8 → ω → Bool × ω} (hproper : fsContract.proper kind)
    (hkind : fsContract.rests kind = []) (hpath : FsPath v volume h) :
    Triple fsContract (h ::ₘ P) (fsOpenRecord d volume kind open_ h) fun found held =>
      held = h ::ₘ (fsFound found + P) ∧ FsFound kind found := by
  refine Triple.ask fun memory => ?_
  cases memory with
  | false =>
    refine Triple.pure ⟨by rw [fsFound, zero_add], ?_⟩
    rintro record object hfound
    cases hfound
  | true =>
    refine Triple.acquire rfl (fun _ hp => absurd hp List.not_mem_nil) fun record hrecord _ => ?_
    refine Triple.use (Multiset.mem_cons_of_mem (Multiset.mem_cons_self _ _)) hpath.native ?_
    have haccess : fsContract.legal record.kind .access = true := by
      rw [hrecord]
      rfl
    refine Triple.attempt hproper (by simp [hkind]) (fun answer _ => ?_)
      fun answer object _ hobject _ => ?_
    · refine Triple.use (Multiset.mem_cons_self _ _) haccess (Triple.pure ⟨?_, ?_⟩)
      · simp only [fsFound, heldSome, Multiset.cons_add, zero_add]
        exact Multiset.cons_swap _ _ _
      · rintro _ _ ⟨⟩
        exact ⟨hrecord, fun x hx => by cases hx⟩
    · refine Triple.use (Multiset.mem_cons_of_mem (Multiset.mem_cons_self _ _)) haccess
        (Triple.pure ⟨?_, ?_⟩)
      · simp only [fsFound, heldSome, Multiset.cons_add, Multiset.singleton_add]
        rw [Multiset.cons_swap record h, Multiset.cons_swap object h, Multiset.cons_swap object]
      · rintro _ _ ⟨⟩
        exact ⟨hrecord, fun x hx => Option.some.inj hx ▸ hobject⟩

/-- The record is given back where the library has opened nothing. -/
theorem fsOpened_triple {found : Option (Handle FsKind × Option (Handle FsKind))}
    (hfound : FsFound kind found) (hP : Plain fsContract P) :
    Triple fsContract (fsFound found + P) (fsOpened found : FsProgram ω _) fun handle held =>
      held = fsOwned handle + P ∧ ∀ x, handle = some x → x.WellFormed kind := by
  obtain - | ⟨record, object⟩ := found
  · exact Triple.pure ⟨rfl, fun x hx => by cases hx⟩
  · obtain ⟨hrecord, hobject⟩ := hfound record object rfl
    have haccess : fsContract.legal record.kind .access = true := by
      rw [hrecord]
      rfl
    have hmem : record ∈ fsFound (some (record, object)) + P := by simp [fsFound]
    cases object with
    | none =>
      refine Triple.use hmem haccess ?_
      rw [fsFound, heldSome, Multiset.cons_add, zero_add]
      refine Triple.release_plain (Plain.cons (by rw [hrecord]; rfl) hP) fun _ => Triple.pure ?_
      exact ⟨(zero_add _).symm, fun x hx => by cases hx⟩
    | some object =>
      refine Triple.use hmem haccess (Triple.pure ⟨rfl, ?_⟩)
      rintro _ ⟨⟩
      exact ⟨hrecord, hobject object rfl⟩

/-- What a path leads to. -/
def fsReached (found : Option (Option (Handle FsKind × Option (Handle FsKind)))) :
    Multiset (Handle FsKind) := fsFound (found.getD none)

theorem FsFound.absent : FsFound kind none := by
  rintro _ _ ⟨⟩

/-- A file is opened beside the mounts. -/
theorem fsOpen_triple {readable : Bool} {writeMode : WriteMode} :
    Triple fsContract (fsMounts v) (bmxEsp32FilesystemOpen d v volume path readable writeMode)
      fun r held => held = fsOwned r.1 + fsMounts v ∧
        (∀ x, r.1 = some x → x.WellFormed (.file (fopenMode readable writeMode))) ∧
        r.2.mounted = v.native.mounted := by
  have hreach : Triple fsContract (fsMounts v)
      (fsWithPath d v volume path none fun nativePath =>
        some <$> fsOpenRecord d volume (.file (fopenMode readable writeMode))
          (fun bytes => d.fopen bytes (fopenMode readable writeMode)) nativePath) _ :=
    withPath_triple fsReached
      (fun found => FsFound (.file (fopenMode readable writeMode)) (found.getD none))
      (fsMounts_beside v volume) rfl FsFound.absent (fun _ hfound => fsFound_plain rfl hfound)
      fun h hpath => Triple.map (fsOpenRecord_triple rfl rfl hpath)
  refine hreach.bind ?_
  rintro found held ⟨rfl, hfound⟩
  cases found with
  | none => exact Triple.pure ⟨rfl, (fun x hx => by cases hx), rfl⟩
  | some found =>
    refine (fsOpened_triple hfound (fsMounts_plain v)).bind ?_
    rintro handle held ⟨rfl, hwf⟩
    cases handle with
    | none => exact Triple.ask fun errno => Triple.pure ⟨rfl, (fun x hx => by cases hx), rfl⟩
    | some handle => exact Triple.pure ⟨rfl, hwf, rfl⟩

theorem fsDirectoryOpen_triple :
    Triple fsContract (fsMounts v) (bmxEsp32FilesystemDirectoryOpen d v volume path)
      fun directory held => held = fsMounts v + fsOwned directory ∧
        ∀ x, directory = some x → x.WellFormed .directory := by
  have hreach : Triple fsContract (fsMounts v)
      (fsWithPath d v volume path none (fsOpenRecord d volume .directory d.opendir)) _ :=
    withPath_triple fsFound (FsFound .directory) (fsMounts_beside v volume) rfl FsFound.absent
      (fun _ hfound => fsFound_plain rfl hfound)
      fun h hpath => fsOpenRecord_triple rfl rfl hpath
  refine hreach.bind ?_
  rintro found held ⟨rfl, hfound⟩
  refine (fsOpened_triple hfound (fsMounts_plain v)).conseq ?_
  rintro directory held ⟨rfl, hwf⟩
  exact ⟨add_comm _ _, hwf⟩

/-- What is open is given back with its record. -/
theorem fsClose_triple {k : Unit → FsProgram ω α} {Q : α → Multiset (Handle FsKind) → Prop}
    (hkind : fsContract.rests kind = []) (hwf : handle.WellFormed kind)
    (hk : Triple fsContract 0 (k ()) Q) :
    Triple fsContract (fsOwned (some handle))
      (release handle.object >>= fun _ => release handle.record >>= k) Q := by
  have hplain : Plain fsContract (fsOwned (some handle)) :=
    fsOwned_plain hkind fun x hx => Option.some.inj hx ▸ hwf
  rw [fsOwned, ← Multiset.cons_zero, Multiset.cons_swap] at hplain ⊢
  refine Triple.release_plain hplain fun hplain => Triple.release_plain hplain fun _ => hk

theorem fsObject_triple {how : FsUse} {question : Handle FsKind → ω → α × ω}
    (hwf : handle.WellFormed kind) (hlegal : fsContract.legal kind how = true) :
    Triple fsContract (fsOwned (some handle)) (fsObject handle how question)
      fun _ held => held = fsOwned (some handle) := by
  refine Triple.use (by simp [fsOwned]) (by simp [hwf.record, fsContract]) ?_
  refine Triple.use (by simp [fsOwned]) (by rwa [hwf.object]) ?_
  exact Triple.ask fun _ => Triple.pure rfl

/-! ### Triples of streams -/

variable {stream : TESP32FileStream} {multicore : Bool}

/-- A stream that is open has a file that has been opened as the stream says. -/
def TESP32FileStream.WellFormed (stream : TESP32FileStream) : Prop :=
  ∀ x, stream.handle = some x → x.WellFormed (.file (fopenMode stream.readable stream.writeMode))

/-- The collector may run during a transfer, and may not after it. -/
theorem fsTransfer_triple {count : Int64} {transfer : FsProgram ω α}
    (hP : Plain fsContract P)
    (htransfer : ∀ P', P ⊆ P' → Triple fsContract P' transfer fun _ held => held = P') :
    Triple fsContract P (fsTransfer d multicore count transfer) fun _ held => held = P := by
  unfold fsTransfer
  split
  · refine Triple.attempt rfl (fun _ hp => absurd hp List.not_mem_nil) (fun answer _ => ?_)
      fun answer nativeSafe _ hkind _ => ?_
    · refine (htransfer P fun _ hx => hx).bind ?_
      rintro outcome _ rfl
      exact Triple.pure rfl
    · refine (htransfer (nativeSafe ::ₘ P) fun _ hx => Multiset.mem_cons_of_mem hx).bind ?_
      rintro outcome _ rfl
      have hplain : Plain fsContract (nativeSafe ::ₘ P) := hP.cons (by simp [hkind, fsContract])
      exact Triple.release_plain hplain fun _ => Triple.pure rfl
  · exact htransfer P fun _ hx => hx

theorem fsRead_triple {mode : FopenMode} {buffer : Bool} {count : Int64}
    (hwf : handle.WellFormed (.file mode)) (hmode : mode.reads = true) :
    Triple fsContract (fsOwned (some handle))
      (bmxEsp32FilesystemRead d multicore handle buffer count)
      fun _ held => held = fsOwned (some handle) := by
  unfold bmxEsp32FilesystemRead
  split
  · exact Triple.pure rfl
  · refine Triple.use (by simp [fsOwned]) (by simp [hwf.record, fsContract]) ?_
    refine fsTransfer_triple (fsOwned_plain rfl fun x hx => Option.some.inj hx ▸ hwf) ?_
    intro P' hP'
    have hmem : handle.object ∈ P' := hP' (by simp [fsOwned])
    refine Triple.use hmem (by simp [hwf.object, fsContract, hmode]) ?_
    refine Triple.ask fun answer => ?_
    exact Triple.use hmem (by simp [hwf.object, fsContract]) (Triple.pure rfl)

theorem fsWrite_triple {mode : FopenMode} {buffer : Option (List UInt8)} {count : Int64}
    (hwf : handle.WellFormed (.file mode)) (hmode : mode.writes = true) :
    Triple fsContract (fsOwned (some handle))
      (bmxEsp32FilesystemWrite d multicore handle buffer count)
      fun _ held => held = fsOwned (some handle) := by
  unfold bmxEsp32FilesystemWrite
  cases buffer with
  | none => exact Triple.pure rfl
  | some data =>
    dsimp only
    split
    · exact Triple.pure rfl
    · refine Triple.use (by simp [fsOwned]) (by simp [hwf.record, fsContract]) ?_
      refine fsTransfer_triple (fsOwned_plain rfl fun x hx => Option.some.inj hx ▸ hwf) ?_
      intro P' hP'
      refine Triple.use (hP' (by simp [fsOwned])) (by simp [hwf.object, fsContract, hmode]) ?_
      exact Triple.ask fun result => Triple.pure rfl

theorem fsSize_triple {mode : FopenMode} (hwf : handle.WellFormed (.file mode)) :
    Triple fsContract (fsOwned (some handle)) (bmxEsp32FilesystemSize d handle)
      fun _ held => held = fsOwned (some handle) := by
  refine (fsObject_triple hwf rfl).bind ?_
  rintro position _ rfl
  split
  · exact Triple.pure rfl
  · refine (fsObject_triple hwf rfl).bind ?_
    rintro sought _ rfl
    split
    · exact Triple.pure rfl
    · refine (fsObject_triple hwf rfl).bind ?_
      rintro size _ rfl
      refine (fsObject_triple hwf rfl).bind ?_
      rintro _ _ rfl
      exact Triple.pure rfl

theorem fsSeek_triple {mode : FopenMode} {offset : Int64} {whence : Int32}
    (hwf : handle.WellFormed (.file mode)) :
    Triple fsContract (fsOwned (some handle)) (bmxEsp32FilesystemSeek d handle offset whence)
      fun _ held => held = fsOwned (some handle) := by
  unfold bmxEsp32FilesystemSeek
  split
  · exact Triple.pure rfl
  · refine (fsObject_triple hwf rfl).bind ?_
    rintro sought _ rfl
    split
    · exact Triple.pure rfl
    · refine (fsObject_triple hwf rfl).bind ?_
      rintro position _ rfl
      exact Triple.pure rfl

theorem fsResize_triple {mode : FopenMode} {size : Int64}
    (hwf : handle.WellFormed (.file mode)) (hmode : mode.writes = true) :
    Triple fsContract (fsOwned (some handle)) (bmxEsp32FilesystemResize d handle size)
      fun _ held => held = fsOwned (some handle) := by
  unfold bmxEsp32FilesystemResize
  split
  · exact fsObject_triple hwf hmode
  · exact Triple.pure rfl

/-- A method that gives nothing back leaves the stream as it is. -/
theorem stream_keeps {prog : FsProgram ω α} (hwf : stream.WellFormed)
    (hprog : Triple fsContract (fsOwned stream.handle) prog
      fun _ held => held = fsOwned stream.handle) :
    Triple fsContract (fsOwned stream.handle) ((fun _ => stream) <$> prog)
      fun next held => held = fsOwned next.handle ∧ next.WellFormed :=
  Triple.map (hprog.conseq fun _ _ hheld => ⟨hheld, hwf⟩)

theorem fopenMode_reads (writeMode : WriteMode) : (fopenMode true writeMode).reads = true := by
  cases writeMode <;> rfl

theorem fopenMode_writes (readable : Bool) {writeMode : WriteMode} (h : writeMode ≠ .none) :
    (fopenMode readable writeMode).writes = true := by
  cases writeMode with
  | none => exact absurd rfl h
  | overwrite => cases readable <;> rfl
  | append => cases readable <;> rfl

theorem streamClose_triple (hwf : stream.WellFormed) :
    Triple fsContract (fsOwned stream.handle) (stream.close d) fun r held =>
      r.2.handle = none ∧ held = 0 := by
  obtain ⟨handle, readable, writeMode⟩ := stream
  cases handle with
  | none => exact Triple.pure ⟨rfl, rfl⟩
  | some handle =>
    have hhandle := hwf handle rfl
    have hclose : Triple fsContract (fsOwned (some handle)) (bmxEsp32FilesystemClose d handle)
        fun _ held => held = 0 := by
      refine Triple.use (by simp [fsOwned]) (by simp [hhandle.record, fsContract]) ?_
      exact Triple.ask fun result => fsClose_triple rfl hhandle (Triple.pure rfl)
    refine hclose.bind ?_
    rintro result _ rfl
    exact Triple.pure ⟨rfl, rfl⟩

/-- A method of a stream uses the file for what it has been opened for. -/
theorem fileStreamCall_triple (hwf : stream.WellFormed) (call : FileStreamCall) :
    Triple fsContract (fsOwned stream.handle) (call.run d multicore stream)
      fun next held => held = fsOwned next.handle ∧ next.WellFormed := by
  -- a closed stream does nothing; the file of an open one is used as its mode allows
  cases call with
  | close =>
    refine Triple.map ((streamClose_triple hwf).conseq ?_)
    rintro r held ⟨hnone, rfl⟩
    refine ⟨by rw [hnone, fsOwned], fun x hx => ?_⟩
    rw [hnone] at hx
    cases hx
  | pos =>
    refine stream_keeps hwf ?_
    obtain ⟨- | handle, readable, writeMode⟩ := stream
    · exact Triple.pure rfl
    · refine (fsObject_triple (hwf handle rfl) rfl).bind ?_
      rintro position _ rfl
      exact Triple.pure rfl
  | size =>
    refine stream_keeps hwf ?_
    obtain ⟨- | handle, readable, writeMode⟩ := stream
    · exact Triple.pure rfl
    · exact fsSize_triple (hwf handle rfl)
  | seek position whence =>
    refine stream_keeps hwf ?_
    obtain ⟨- | handle, readable, writeMode⟩ := stream
    · exact Triple.pure rfl
    · exact fsSeek_triple (hwf handle rfl)
  | flush =>
    refine stream_keeps hwf ?_
    obtain ⟨- | handle, readable, writeMode⟩ := stream
    · exact Triple.pure rfl
    · refine (fsObject_triple (hwf handle rfl) rfl).bind ?_
      rintro result _ rfl
      exact Triple.pure rfl
  | read buffer count =>
    refine stream_keeps hwf ?_
    obtain ⟨- | handle, - | -, writeMode⟩ := stream
    · exact Triple.pure rfl
    · exact Triple.pure rfl
    · exact Triple.pure rfl
    · refine (fsRead_triple (hwf handle rfl) (fopenMode_reads writeMode)).bind ?_
      rintro result _ rfl
      exact Triple.pure rfl
  | write buffer count =>
    refine stream_keeps hwf ?_
    obtain ⟨- | handle, readable, writeMode⟩ := stream
    · exact Triple.pure rfl
    · have hfile := hwf handle rfl
      cases writeMode with
      | none => exact Triple.pure rfl
      | overwrite =>
        refine (fsWrite_triple hfile (fopenMode_writes readable (by simp))).bind ?_
        rintro result _ rfl
        exact Triple.pure rfl
      | append =>
        refine (fsWrite_triple hfile (fopenMode_writes readable (by simp))).bind ?_
        rintro result _ rfl
        exact Triple.pure rfl
  | setSize length =>
    refine stream_keeps hwf ?_
    obtain ⟨- | handle, readable, writeMode⟩ := stream
    · exact Triple.pure rfl
    · have hfile := hwf handle rfl
      cases writeMode with
      | none => exact Triple.pure rfl
      | overwrite =>
        refine (fsResize_triple hfile (fopenMode_writes readable (by simp))).bind ?_
        rintro result _ rfl
        exact Triple.pure rfl
      | append =>
        refine (fsResize_triple hfile (fopenMode_writes readable (by simp))).bind ?_
        rintro result _ rfl
        exact Triple.pure rfl

/-! ### Triples of backends -/

variable {b : TESP32FileSystemBackend σ}

theorem fsStat_triple : Triple fsContract (fsMounts v) (bmxEsp32FilesystemStat d v volume path)
    fun _ held => held = fsMounts v := by
  refine withPath_keeps (fsMounts_beside v volume) fun h hpath => ?_
  refine (fsNative_triple hpath (Multiset.mem_cons_self _ _)).bind ?_
  rintro info _ rfl
  exact Triple.pure rfl

theorem fsSetTime_triple {time : Int64} {timeType : Int32} : Triple fsContract (fsMounts v)
    (bmxEsp32FilesystemSetTime d v volume path time timeType) fun _ held => held = fsMounts v := by
  refine withPath_keeps (fsMounts_beside v volume) fun h hpath => ?_
  refine (fsNative_triple hpath (Multiset.mem_cons_self _ _)).bind ?_
  rintro info _ rfl
  cases info with
  | none => exact Triple.pure rfl
  | some info => exact fsNative_triple hpath (Multiset.mem_cons_self _ _)

theorem fsMkdir_triple : Triple fsContract (fsMounts v) (bmxEsp32FilesystemMkdir d v volume path)
    fun _ held => held = fsMounts v :=
  withPath_keeps (fsMounts_beside v volume)
    fun _ hpath => fsNative_triple hpath (Multiset.mem_cons_self _ _)

theorem fsRemove_triple : Triple fsContract (fsMounts v)
    (bmxEsp32FilesystemRemove d v volume path) fun _ held => held = fsMounts v :=
  withPath_keeps (fsMounts_beside v volume)
    fun _ hpath => fsNative_triple hpath (Multiset.mem_cons_self _ _)

theorem FsBeside.some {o : Option (Handle FsKind)} (hP : FsBeside v volume P)
    (hpath : ∀ x, o = some x → FsPath v volume x) : FsBeside v volume (heldSome o + P) := by
  cases o with
  | none => rwa [heldSome, zero_add]
  | some h =>
    rw [heldSome, Multiset.singleton_add]
    exact hP.cons (hpath h rfl).rests

/-- A path is given back if it has been made. -/
theorem Triple.releaseFsSome {Q : α → Multiset (Handle FsKind) → Prop}
    {k : Unit → FsProgram ω α} {o : Option (Handle FsKind)} (hP : FsBeside v volume P)
    (hpath : ∀ x, o = some x → FsPath v volume x) (hk : Triple fsContract P (k ()) Q) :
    Triple fsContract (heldSome o + P) (Ownership.releaseSome o >>= k) Q := by
  cases o with
  | none =>
    rw [heldSome, zero_add]
    exact hk
  | some h =>
    rw [heldSome, Multiset.singleton_add]
    exact Triple.releaseFs hP (hpath h rfl).rests (hpath h rfl).mounted hk

theorem fsRename_triple {newPath : σ} : Triple fsContract (fsMounts v)
    (bmxEsp32FilesystemRename d v volume path newPath) fun _ held => held = fsMounts v := by
  have hmounts := fsMounts_beside v volume
  refine (path_triple hmounts).bind ?_
  rintro a held ⟨rfl, ha⟩
  refine (path_triple (hmounts.some ha)).bind ?_
  rintro b held ⟨rfl, hb⟩
  rw [add_left_comm]
  have hfreed : ∀ result : Int32, Triple fsContract (heldSome a + (heldSome b + fsMounts v))
      (Ownership.releaseSome a >>= fun _ => Ownership.releaseSome b >>= fun _ => pure result :
        FsProgram ω Int32) fun _ held => held = fsMounts v := fun result =>
    Triple.releaseFsSome (hmounts.some hb) ha (Triple.releaseFsSome hmounts hb (Triple.pure rfl))
  cases a with
  | none => exact hfreed (-1)
  | some a =>
    cases b with
    | none => exact hfreed (-1)
    | some b =>
      refine Triple.use (by simp [heldSome]) (ha a rfl).native ?_
      refine Triple.use (by simp [heldSome]) (hb b rfl).native ?_
      exact Triple.ask hfreed

/-- What the stream has to give back. -/
def TESP32FileStream.owned (stream : TESP32FileStream) : Multiset (Handle FsKind) :=
  fsOwned stream.handle

/-- A stream owns the file that has been opened for it. -/
theorem streamOpen_triple {readable : Bool} {writeMode : WriteMode} :
    Triple fsContract (fsMounts v)
      (TESP32FileStream.open_ d v volume path readable writeMode) fun r held =>
        held = fsMounts v + (r.1.toList.map TESP32FileStream.owned).sum ∧
          (∀ stream ∈ r.1.toList, stream.WellFormed) ∧ r.2.mounted = v.native.mounted := by
  refine fsOpen_triple.bind ?_
  rintro ⟨handle, native⟩ held ⟨rfl, hwf, hmounted⟩
  cases handle with
  | none => exact Triple.pure ⟨add_comm _ _, (fun _ hmem => by cases hmem), hmounted⟩
  | some handle =>
    refine Triple.pure ⟨?_, fun stream hmem => ?_, hmounted⟩
    · rw [add_comm]
      simp [TESP32FileStream.owned]
    · obtain rfl := List.mem_singleton.mp hmem
      exact hwf

theorem createFile_triple {path : σ} : Triple fsContract (fsMounts b.volumes)
    (b.createFile d path) fun r held =>
      held = fsMounts b.volumes ∧ r.2.mounted = b.volumes.native.mounted := by
  refine streamOpen_triple.bind ?_
  rintro ⟨stream, native⟩ held ⟨rfl, hwf, hmounted⟩
  cases stream with
  | none => exact Triple.pure ⟨add_zero _, hmounted⟩
  | some stream =>
    have hclosed : Triple fsContract stream.owned (stream.close d) fun _ held => held = 0 :=
      (streamClose_triple (hwf stream (List.mem_singleton_self _))).conseq fun _ _ h => h.2
    simp only [Option.toList_some, List.map_cons, List.map_nil, List.sum_cons, List.sum_nil,
      add_zero]
    refine Triple.call hclosed (fsMounts_plain _).closed ?_
    rintro r held rfl
    exact Triple.pure ⟨add_zero _, hmounted⟩

/-- A method of a backend leaves the mounts, and a file that it creates is closed again. -/
theorem backendCall_triple (call : BackendCall σ) :
    Triple fsContract (fsMounts b.volumes) (b.run d call) fun r held =>
      held = fsMounts b.volumes ∧ r.1.mounted = b.volumes.native.mounted := by
  -- the calls that return nothing but a result
  have hkeeps : ∀ {α : Type} {prog : FsProgram ω α}, Triple fsContract (fsMounts b.volumes) prog
      (fun _ held => held = fsMounts b.volumes) → ∀ directory : α → σ,
      Triple fsContract (fsMounts b.volumes)
        ((fun r => (b.volumes.native, directory r)) <$> prog) fun r held =>
          held = fsMounts b.volumes ∧ r.1.mounted = b.volumes.native.mounted :=
    fun hprog directory => Triple.map (hprog.conseq fun _ _ hheld => ⟨hheld, rfl⟩)
  have hdelete : ∀ fileType path, Triple fsContract (fsMounts b.volumes)
      (b.delete d fileType path) fun _ held => held = fsMounts b.volumes := by
    intro fileType path
    refine fsStat_triple.bind ?_
    rintro info _ rfl
    cases info with
    | none => exact Triple.pure rfl
    | some info =>
      dsimp only
      split
      · exact Triple.map fsRemove_triple
      · exact Triple.pure rfl
  cases call with
  | changeDirectory path =>
    refine hkeeps (fsStat_triple.bind ?_) _
    rintro info _ rfl
    cases info with
    | none => exact Triple.pure rfl
    | some info => exact Triple.pure rfl
  | stat path => exact hkeeps fsStat_triple _
  | setTime path time timeType => exact hkeeps fsSetTime_triple _
  | fileMode path =>
    refine hkeeps (fsStat_triple.bind ?_) _
    rintro info _ rfl
    cases info with
    | none => exact Triple.pure rfl
    | some info => exact Triple.pure rfl
  | createFile path => exact Triple.map createFile_triple
  | createDirectory path => exact hkeeps (Triple.map fsMkdir_triple) _
  | deleteFile path => exact hkeeps (hdelete _ _) _
  | deleteDirectory path => exact hkeeps (hdelete _ _) _
  | rename oldPath newPath => exact hkeeps (Triple.map fsRename_triple) _

/-! ### Runs -/

/-- What the system owns between two calls. -/
def FsSystem.held (s : FsSystem σ ω) : Multiset (Handle FsKind) :=
  fsMounts s.volumes + (s.directories.map fsOwned).sum +
    (s.streams.map TESP32FileStream.owned).sum

/-- Mounts, open directories and open streams own what has been acquired. -/
structure FsSafe (s : FsSystem σ ω) : Prop where
  owns : Owns fsContract s.log s.held
  streams : ∀ stream ∈ s.streams, stream.WellFormed
  directories : ∀ directory ∈ s.directories, ∀ x, directory = some x → x.WellFormed .directory

theorem fsMountChanged_triple {before after : Bool} {since : Nat} :
    Triple fsContract (if before = true then {⟨.mounted volume, since⟩} else 0)
      (fsMountChanged volume before after since : FsProgram ω Nat) fun since held =>
        held = if after = true then {⟨.mounted volume, since⟩} else 0 := by
  cases before with
  | false =>
    cases after with
    | false => exact Triple.pure rfl
    | true =>
      refine Triple.acquire rfl (fun _ hp => absurd hp List.not_mem_nil) fun mount hkind _ => ?_
      refine Triple.pure ?_
      rw [← hkind]
      rfl
  | true =>
    cases after with
    | false =>
      refine Triple.release (by simp) (by simp [fsContract]) (Triple.pure ?_)
      simp
    | true => exact Triple.pure rfl

theorem fsMountsChanged_triple (native : NativeStorage) :
    Triple fsContract (fsMounts v)
      (fsMountsChanged v.native.mounted native.mounted v.since : FsProgram ω _) fun since held =>
        held = fsMounts ⟨native, since⟩ := by
  unfold fsMounts
  rw [add_comm]
  refine Triple.call fsMountChanged_triple (fsMount_plain v .sd).closed ?_
  rintro littleFS _ rfl
  rw [add_comm]
  refine Triple.call fsMountChanged_triple (Plain.closed ?_) ?_
  · exact fsMount_plain ⟨native, fun _ => littleFS⟩ .littleFS
  · rintro sd _ rfl
    exact Triple.pure rfl

theorem FsSafe.directories_plain {s : FsSystem σ ω} (hs : FsSafe s) (i : Nat)
    (directory : Option FsRecord) (hi : s.directories[i]? = some directory) :
    Closed fsContract (fsOwned directory) :=
  (fsOwned_plain rfl (hs.directories directory (List.mem_of_getElem? hi))).closed

theorem FsSafe.streams_plain {s : FsSystem σ ω} (hs : FsSafe s) (i : Nat)
    (stream : TESP32FileStream) (hi : s.streams[i]? = some stream) :
    Closed fsContract stream.owned :=
  (fsOwned_plain rfl (hs.streams stream (List.mem_of_getElem? hi))).closed

theorem closed_of_getElem? {owned : α → Multiset (Handle FsKind)} {objects : List α}
    (h : ∀ (i : Nat) (o : α), objects[i]? = some o → Closed fsContract (owned o)) :
    Closed fsContract (objects.map owned).sum :=
  closed_sum fun o ho => by
    obtain ⟨i, hi⟩ := List.mem_iff_getElem?.mp ho
    exact h i o hi

/-- The mounts are what they were if no volume has been mounted or unmounted. -/
theorem FsSystem.owns_of_mounted {s t : FsSystem σ ω}
    (hmounted : t.storage.state.native.mounted = s.storage.state.native.mounted)
    (hsince : t.since = s.since)
    (hlog : Owns fsContract t.log (fsMounts s.volumes +
      (t.directories.map fsOwned).sum + (t.streams.map TESP32FileStream.owned).sum)) :
    Owns fsContract t.log t.held := by
  unfold held
  unfold fsMounts fsMount volumes at hlog ⊢
  rwa [hmounted, hsince]

/-- A program that is run with the mounts. -/
theorem FsSafe.beside {s : FsSystem σ ω} (hs : FsSafe s) {prog : FsProgram ω α}
    {Q : α → Multiset (Handle FsKind) → Prop}
    (hprog : Triple fsContract (fsMounts s.volumes) prog Q) :
    ∃ held, Q (prog (s.log, s.world)).1 held ∧
      Owns fsContract (prog (s.log, s.world)).2.1
        (held + (s.directories.map fsOwned).sum +
          (s.streams.map TESP32FileStream.owned).sum) := by
  have howns := hs.owns
  unfold FsSystem.held at howns
  rw [add_assoc, add_comm] at howns
  obtain ⟨held, hq, hlog⟩ := hprog _ (s.log, s.world)
    ((closed_of_getElem? hs.directories_plain).add (closed_of_getElem? hs.streams_plain)) howns
  rw [add_comm, ← add_assoc] at hlog
  exact ⟨held, hq, hlog⟩

/-- A program that is run for one directory. -/
theorem FsSafe.directory {s : FsSystem σ ω} (hs : FsSafe s) (next : α → Option FsRecord)
    {i : Nat} {directory : Option FsRecord} (hi : s.directories[i]? = some directory)
    {prog : FsProgram ω α}
    (hprog : Triple fsContract (fsOwned directory) prog fun a held => held = fsOwned (next a)) :
    Owns fsContract (prog (s.log, s.world)).2.1 (fsMounts s.volumes +
      ((s.directories.set i (next (prog (s.log, s.world)).1)).map fsOwned).sum +
        (s.streams.map TESP32FileStream.owned).sum) := by
  have howns := hs.owns
  unfold FsSystem.held at howns
  rw [add_right_comm] at howns ⊢
  have hset : Triple fsContract (fsOwned directory) prog
      fun a held => held = fsOwned (next a) ∧ True := hprog.conseq fun _ _ h => ⟨h, trivial⟩
  exact (hset.at_set_beside (s.log, s.world) hi hs.directories_plain
    ((fsMounts_plain s.volumes).closed.add (closed_of_getElem? hs.streams_plain)) howns).1

theorem fsStep_safe {sdmmc : Bool} {fold : String → String} {s : FsSystem σ ω} (hs : FsSafe s)
    (call : FsCall σ) : FsSafe (fsStep sdmmc multicore fold d s call) := by
  cases call with
  | storage a =>
    obtain ⟨held, hheld, hlog⟩ := hs.beside
      (fsMountsChanged_triple (storageCall sdmmc fold s.storage a).state.native)
    subst hheld
    exact ⟨hlog, hs.streams, hs.directories⟩
  | openPath volume path readable writeMode =>
    -- the new stream is owned beside the others; opening may record an error, but mounts nothing
    have hopen : Triple fsContract (fsMounts s.volumes) (TESP32FileStream.open_ d s.volumes volume
      ((s.backend volume).resolve d path) readable writeMode) _ := streamOpen_triple
    obtain ⟨held, ⟨hheld, hwf, hmounted⟩, hlog⟩ := hs.beside hopen
    subst hheld
    refine ⟨?_, fun stream hmem => ?_, hs.directories⟩
    · refine FsSystem.owns_of_mounted hmounted rfl ?_
      show Owns fsContract _ (_ + _ + ((s.streams ++ _).map _).sum)
      rw [List.map_append, List.sum_append, add_comm (s.streams.map _).sum, ← add_assoc,
        add_right_comm (fsMounts s.volumes)]
      exact hlog
    · rcases List.mem_append.mp hmem with hmem | hmem
      · exact hs.streams stream hmem
      · exact hwf stream hmem
  | stream i call =>
    unfold fsStep
    dsimp only
    split
    · exact hs
    next stream hi =>
      have hstream := hs.streams stream (List.mem_of_getElem? hi)
      -- the one stream is taken out of what is owned, and put back as the method leaves it
      have howns := hs.owns
      unfold FsSystem.held at howns
      have hcall : Triple fsContract stream.owned (call.run d multicore stream)
        fun next held => held = next.owned ∧ next.WellFormed := fileStreamCall_triple hstream call
      obtain ⟨hlog, hwf⟩ := hcall.at_set_beside (s.log, s.world) hi hs.streams_plain
        ((fsMounts_plain s.volumes).closed.add (closed_of_getElem? hs.directories_plain)) howns
      refine ⟨hlog, fun next hmem => ?_, hs.directories⟩
      rcases List.mem_or_eq_of_mem_set hmem with hmem | rfl
      · exact hs.streams next hmem
      · exact hwf
  | backend volume call =>
    obtain ⟨held, ⟨hheld, hmounted⟩, hlog⟩ := hs.beside
      (backendCall_triple (d := d) (b := s.backend volume) call)
    subst hheld
    exact ⟨FsSystem.owns_of_mounted hmounted rfl hlog, hs.streams, hs.directories⟩
  | openDirectory volume path =>
    have hopen : Triple fsContract (fsMounts s.volumes) (bmxEsp32FilesystemDirectoryOpen d
      s.volumes volume ((s.backend volume).resolve d path)) _ := fsDirectoryOpen_triple
    obtain ⟨held, ⟨hheld, hwf⟩, hlog⟩ := hs.beside hopen
    subst hheld
    refine ⟨?_, hs.streams, fun directory hmem => ?_⟩
    · unfold FsSystem.held
      show Owns fsContract _ (fsMounts s.volumes + ((s.directories ++ [_]).map _).sum + _)
      rw [List.map_append, List.sum_append, List.map_singleton, List.sum_singleton,
        add_comm (s.directories.map _).sum, ← add_assoc]
      exact hlog
    · rcases List.mem_append.mp hmem with hmem | hmem
      · exact hs.directories directory hmem
      · obtain rfl := List.mem_singleton.mp hmem
        exact hwf
  | nextDirectoryEntry i =>
    unfold fsStep
    dsimp only
    split
    · exact hs
    next directory hi =>
      have hnext : Triple fsContract (fsOwned directory)
          (bmxEsp32FilesystemDirectoryNext d directory) fun _ held => held = fsOwned directory := by
        cases directory with
        | none => exact Triple.pure rfl
        | some handle =>
          have hwf := hs.directories _ (List.mem_of_getElem? hi) handle rfl
          refine (fsObject_triple hwf rfl).bind ?_
          rintro entry _ rfl
          exact Triple.pure rfl
      -- the directory is put back as it was
      have hlog := hs.directory (fun _ => directory) hi hnext
      obtain ⟨hlt, rfl⟩ := List.getElem?_eq_some_iff.mp hi
      rw [List.set_getElem_self] at hlog
      exact ⟨hlog, hs.streams, hs.directories⟩
  | closeDirectory i =>
    unfold fsStep
    dsimp only
    split
    · exact hs
    next directory hi =>
      have hclose : Triple fsContract (fsOwned directory)
          (bmxEsp32FilesystemDirectoryClose directory : FsProgram ω Unit)
          fun _ held => held = fsOwned none := by
        cases directory with
        | none => exact Triple.pure rfl
        | some handle =>
          have hwf := hs.directories _ (List.mem_of_getElem? hi) handle rfl
          refine Triple.use (by simp [fsOwned]) (by simp [hwf.record, fsContract]) ?_
          exact fsClose_triple rfl hwf (Triple.pure rfl)
      -- what is put back owns nothing any more
      have hlog := hs.directory (fun _ => none) hi hclose
      refine ⟨hlog, hs.streams, fun next hmem x hx => ?_⟩
      rcases List.mem_or_eq_of_mem_set hmem with hmem | rfl
      · exact hs.directories next hmem x hx
      · cases hx

/-- What the log says about paths and files. -/
structure FsLog (log : List (Op FsKind FsUse)) : Prop where
  /-- A path that a driver is given lies below the mount point of its volume, and the mount that
  it has been made in has not ended. -/
  native : ∀ ops h volume ops', log = ops ++ .use h (.native volume) :: ops' →
    ∃ mount rest, h.kind = .path volume mount (bmxFsBase volume ++ slash :: rest) ∧ 0 ∉ rest ∧
      ∃ held, Owns fsContract ops held ∧ h ∈ held ∧ mount ∈ held.map Handle.number
  read : ∀ h, .use h .read ∈ log → ∃ mode : FopenMode, h.kind = .file mode ∧ mode.reads = true
  write : ∀ h, .use h .write ∈ log → ∃ mode : FopenMode, h.kind = .file mode ∧ mode.writes = true

theorem legal_of_mem {log : List (Op FsKind FsUse)} {held : Multiset (Handle FsKind)}
    {how : FsUse} (hlog : Owns fsContract log held) (hmem : .use h how ∈ log) :
    fsContract.legal h.kind how = true := by
  obtain ⟨ops, ops', rfl⟩ := List.append_of_mem hmem
  obtain ⟨before, after, -, hact⟩ := hlog.split
  exact (act_use_some hact).1.2

theorem fsLog_of_owns {log : List (Op FsKind FsUse)} {held : Multiset (Handle FsKind)}
    (hlog : Owns fsContract log held) : FsLog log where
  native := by
    rintro ops h volume ops' rfl
    obtain ⟨before, after, hbefore, hact⟩ := hlog.split
    obtain ⟨⟨hmem, hlegal⟩, -⟩ := act_use_some hact
    have hproper := hbefore.sound.proper h hmem
    have hclosed := hbefore.sound.closed h hmem
    obtain ⟨kind, number⟩ := h
    cases kind with
    | path volume' mount bytes =>
      obtain rfl : volume' = volume := of_decide_eq_true hlegal
      simp only [fsContract, Bool.and_eq_true, List.isPrefixOf_iff_prefix] at hproper
      obtain ⟨⟨rest, rfl⟩, hzero⟩ := hproper
      refine ⟨mount, rest, by simp, fun hmem => ?_, before, hbefore, hmem, ?_⟩
      · simp [hmem] at hzero
      · exact hclosed mount (List.mem_singleton_self _)
    | _ => cases hlegal
  read := by
    intro h hmem
    have hlegal := legal_of_mem hlog hmem
    obtain ⟨kind, number⟩ := h
    cases kind with
    | file mode => exact ⟨mode, rfl, hlegal⟩
    | _ => cases hlegal
  write := by
    intro h hmem
    have hlegal := legal_of_mem hlog hmem
    obtain ⟨kind, number⟩ := h
    cases kind with
    | file mode => exact ⟨mode, rfl, hlegal⟩
    | _ => cases hlegal

/-- **Each volume keeps to itself, and nothing leaks.**  Whatever allocation or call of the library
fails in whatever run of the calls of both modules, mounts and unmounts among them: every block,
file and directory is acquired once and given back at most once, used only while it is held, and
what is left are the mounts and what is still open; every path that a driver is given is below the
mount point of the volume that has been asked, which is mounted; and no file is read or written that
has not been opened for it.  That a directory handle is not used after `CloseDirectory` is up to the
program. -/
theorem fs_owns {sdmmc multicore : Bool} {fold : String → String} {d : FsLibrary σ ω}
    {s : FsSystem σ ω} (h : (fsMachine sdmmc multicore fold d).Reachable s) :
    FsSafe s ∧ Disciplined s.log s.held ∧ FsLog s.log := by
  have hsafe : FsSafe s := by
    refine h.invariant ?_ ?_
    · rintro ⟨storage, since, currentDirectory, streams, directories, log, world⟩
        ⟨rfl, rfl, rfl, rfl, rfl⟩
      refine ⟨owns_nil, ?_, ?_⟩
      · exact fun _ hmem => absurd hmem List.not_mem_nil
      · exact fun _ hmem => absurd hmem List.not_mem_nil
    · intro s call s' hs _ hstep
      obtain rfl := Option.some.inj hstep
      exact fsStep_safe hs call
  exact ⟨hsafe, hsafe.owns.disciplined, fsLog_of_owns hsafe.owns⟩

/-- Memory for so many allocations, and a library that opens everything and writes it all. -/
def fsScarceLibrary : FsLibrary (List UInt8) Nat where
  utf8 := id
  ofUtf8 := id
  resolve directory path := directory ++ path
  root := [slash]
  memory w := (w ≠ 0, w - 1)
  errno w := (12, w)
  enterNativeSafe w := (true, w)
  fopen _ _ w := (true, w)
  fclose _ w := (0, w)
  fread _ count w := ((List.replicate count.toNat 7, false), w)
  fwrite _ data w := (UInt32.ofNat data.length, w)
  ftell _ w := (0, w)
  fseek _ _ _ w := (0, w)
  ftruncate _ _ w := (0, w)
  fflush _ w := (0, w)
  stat _ w := (some ⟨false, true, 3, 0, 0, 0⟩, w)
  utime _ _ _ w := (0, w)
  mkdir _ w := (0, w)
  remove _ w := (0, w)
  rename _ _ w := (0, w)
  opendir _ w := (true, w)
  readdir _ w := (none, w)

/-- A file is written and, after an unmount, closed; a second one has no memory for its record,
a third no volume. -/
theorem fs_owns_scarce : ∃ s, (fsMachine false true id fsScarceLibrary).Reachable s ∧
    s.streams.length = 1 ∧ s.storage.state.native.error .littleFS = -enoent ∧
    FsSafe s ∧ Disciplined s.log s.held ∧ FsLog s.log := by
  obtain ⟨s, hs, hfound⟩ := Machine.exists_reachable_of_run
    (M := fsMachine false true id fsScarceLibrary)
    [.storage (.mountLittleFS true {}), .openPath .littleFS [97] true .overwrite,
      .stream 0 (.write (some [1, 2, 3]) 3), .openPath .littleFS [98] false .append,
      .storage (.unmountLittleFS {}), .stream 0 .close, .openPath .littleFS [97] true .none]
    (fun s => s.streams.length == 1 && s.storage.state.native.error .littleFS == -enoent)
    (s := ⟨storageReset, fun _ => 0, fun _ => [slash], [], [], [], 5⟩)
    ⟨rfl, rfl, rfl, rfl, rfl⟩ (by decide)
  rw [Bool.and_eq_true, beq_iff_eq, beq_iff_eq] at hfound
  exact ⟨s, hs, hfound.1, hfound.2, fs_owns hs⟩

end Esp32Mod
