/-
  The filesystem boundary of profile operations: the calls it makes, the world they act on, and the
  functions that validate directories and write managed files.

  A path is the list of its parts.  Every call may fail.  A failed call changes nothing, except that
  a failed write may have appended a part of its data, and that an attempt to close or to unlink is
  remembered.  The metadata a call reports is left open, but for a file that is said to be missing:
  whatever the world answers, the functions check it.
-/
import Aurora.Lib.Sha256
import Aurora.Lib.Worlds

namespace Aurora.ConfigProfiles

open Program

/-! ## Calls -/

/-- The parts of an absolute path. -/
abbrev Path := List String

/-- A descriptor, numbered by the order of opening. -/
abbrev Descriptor := Nat

/-- The errors of a system call that the code tells apart. -/
inductive OsError
  | fileNotFound
  | fileExists
  | blocking
  | other
  deriving DecidableEq

/-- What a path leads to. -/
inductive FileKind
  | regular
  | directory
  | symlink
  | other
  deriving DecidableEq

/-- `os.stat_result`, as far as it is read. -/
structure Stat where
  kind : FileKind
  mode : Nat
  links : Nat
  uid : Nat
  device : Nat
  inode : Nat
  size : Nat
  modifiedNs : Nat

/-- The system calls of the profile service. -/
inductive FsCall
  | lstat (path : Path)
  /-- `os.stat` of a name in an open directory, not following links. -/
  | stat (path : Path)
  | fstat (d : Descriptor)
  | openDirectory (path : Path)
  | openRead (path : Path)
  /-- Exclusive creation, for writing. -/
  | openNew (path : Path)
  /-- The lock file, created exclusively or there already. -/
  | openLock (path : Path) (exclusive : Bool)
  | fchmod (d : Descriptor)
  | read (d : Descriptor) (limit : Nat)
  | write (d : Descriptor) (data : Bytes)
  | fsync (d : Descriptor)
  | close (d : Descriptor)
  | unlink (path : Path)
  | replace (source destination : Path)
  | scandir (d : Descriptor)
  | flock (d : Descriptor)
  | unlock (d : Descriptor)
  /-- A random text of hexadecimal digits, two for each byte. -/
  | token (bytes : Nat)

/-- What a call returns when it succeeds. -/
def FsValue : FsCall → Type
  | .lstat _ => Stat
  | .stat _ => Stat
  | .fstat _ => Stat
  | .openDirectory _ => Descriptor
  | .openRead _ => Descriptor
  | .openNew _ => Descriptor
  | .openLock _ _ => Descriptor
  | .read _ _ => Bytes
  | .write _ _ => Int
  | .scandir _ => List String
  | .token _ => String
  | _ => Unit

/-- Every call may raise instead. -/
def FsInterface : Interface := ⟨FsCall, fun c => Except OsError (FsValue c)⟩

/-- A call with its answer. -/
abbrev FsExchange : Type := Exchange FsInterface

/-! ## Exceptions -/

/-- The reasons an operation reports. -/
inductive ProfileReason
  | applied | rolledBack | noChange | invalidArgument | invalidProfileId | invalidBackupId
  | confirmationMismatch | filesystemBoundary | directoryLimit | fileTooLarge | invalidYaml
  | invalidConfiguration | profileMismatch | profileChanged | activeChanged | backupCapacity
  | backupInvalid | backupWriteFailed | mutationBusy | activationFailedRestored
  | automaticRestorationFailed
  deriving DecidableEq

/-- What the functions below raise. -/
inductive FsException
  | os (e : OsError)
  | profile (reason : ProfileReason)
  /-- `MutationLockBusy`, a `ProfileOperationError`. -/
  | busy
  /-- `AtomicWriteFailure`, a `ProfileOperationError`. -/
  | atomicWrite (published : Bool)
  | valueError
  deriving DecidableEq

/-- A program of the profile service. -/
abbrev Fs (α : Type) : Type := Program FsInterface FsException α

/-- Make a call and look at how it ends. -/
def attempt (c : FsCall) : Fs (Except OsError (FsValue c)) := ask (I := FsInterface) c

/-- Make a call that raises `OSError`. -/
def sys (c : FsCall) : Fs (FsValue c) := invoke (I := FsInterface) c fun r => r.mapError .os

/-- `except OSError` that raises a fixed reason; other exceptions go on. -/
def refusing (reason : ProfileReason) (body : Fs α) : Fs α := do
  match ← (body.catching : Fs _) with
  | .error (.os _) => raise (.profile reason)
  | result => ofExcept result

/-! ## The world -/

/-- What has happened to a descriptor: each attempt to close it, and whether it succeeded. -/
structure DescriptorRecord where
  path : Path
  created : Bool
  position : Nat
  closes : List Bool

/-- The contents of the files, and the record of every descriptor that was opened. -/
structure FsWorld where
  files : Path → Option Bytes
  opened : Nat
  records : Descriptor → DescriptorRecord
  failedUnlinks : List Path

namespace FsWorld

/-- One more descriptor, open on the path. -/
def opening (w : FsWorld) (path : Path) (created : Bool) : FsWorld :=
  { w with
    opened := w.opened + 1
    records := Function.update w.records w.opened ⟨path, created, 0, []⟩ }

/-- The path gets a new content, or none. -/
def put (w : FsWorld) (path : Path) (content : Option Bytes) : FsWorld :=
  { w with files := Function.update w.files path content }

/-- What the open file holds. -/
def content (w : FsWorld) (d : Descriptor) : Bytes := (w.files (w.records d).path).getD []

/-- Bytes are written at the end of the open file. -/
def appending (w : FsWorld) (d : Descriptor) (data : Bytes) : FsWorld :=
  w.put (w.records d).path (some (w.content d ++ data))

/-- Bytes were read from the open file. -/
def advancing (w : FsWorld) (d : Descriptor) (n : Nat) : FsWorld :=
  { w with
    records := Function.update w.records d
      { w.records d with position := (w.records d).position + n } }

/-- The descriptor was closed, successfully or not. -/
def closing (w : FsWorld) (d : Descriptor) (success : Bool) : FsWorld :=
  { w with
    records := Function.update w.records d
      { w.records d with closes := (w.records d).closes ++ [success] } }

/-- The path could not be unlinked. -/
def keeping (w : FsWorld) (path : Path) : FsWorld :=
  { w with failedUnlinks := path :: w.failedUnlinks }

end FsWorld

/-- Calls that change nothing, however they end. -/
def FsCall.Passive : FsCall → Prop
  | stat _ => True
  | fstat _ => True
  | fchmod _ => True
  | fsync _ => True
  | flock _ => True
  | unlock _ => True
  | token _ => True
  | _ => False

/-- Calls that change nothing when they fail. -/
def FsCall.Atomic : FsCall → Prop
  | openDirectory _ => True
  | openRead _ => True
  | openNew _ => True
  | openLock _ _ => True
  | read _ _ => True
  | replace _ _ => True
  | scandir _ => True
  | _ => False

/-- What a call may answer, and what it changes. -/
inductive FsStep (w : FsWorld) : FsExchange → FsWorld → Prop
  | passive {c : FsCall} (h : c.Passive) (answer : Except OsError (FsValue c)) :
      FsStep w ⟨c, answer⟩ w
  /-- A file that is said to be missing is not there. -/
  | lstat (path : Path) (answer : Except OsError Stat)
      (h : answer = .error .fileNotFound → w.files path = none) : FsStep w ⟨.lstat path, answer⟩ w
  | refused {c : FsCall} (h : c.Atomic) (e : OsError) : FsStep w ⟨c, .error e⟩ w
  | openDirectory (path : Path) :
      FsStep w ⟨.openDirectory path, .ok w.opened⟩ (w.opening path false)
  | openRead {path : Path} (h : w.files path ≠ none) :
      FsStep w ⟨.openRead path, .ok w.opened⟩ (w.opening path false)
  | openNew {path : Path} (h : w.files path = none) :
      FsStep w ⟨.openNew path, .ok w.opened⟩ ((w.opening path true).put path (some []))
  | createLock {path : Path} (h : w.files path = none) :
      FsStep w ⟨.openLock path true, .ok w.opened⟩ ((w.opening path false).put path (some []))
  | openLock {path : Path} (h : w.files path ≠ none) :
      FsStep w ⟨.openLock path false, .ok w.opened⟩ (w.opening path false)
  /-- A read gives the next bytes, and none only at the end. -/
  | read {d : Descriptor} {limit : Nat} {chunk : Bytes}
      (h : chunk <+: (w.content d).drop (w.records d).position) (hlimit : chunk.length ≤ limit)
      (hend : chunk = [] → 0 < limit → (w.content d).drop (w.records d).position = []) :
      FsStep w ⟨.read d limit, .ok chunk⟩ (w.advancing d chunk.length)
  | write (d : Descriptor) (data : Bytes) (count : Int) :
      FsStep w ⟨.write d data, .ok count⟩ (w.appending d (data.take count.toNat))
  | writeFailed (d : Descriptor) (data : Bytes) (e : OsError) (count : Nat) :
      FsStep w ⟨.write d data, .error e⟩ (w.appending d (data.take count))
  | close (d : Descriptor) : FsStep w ⟨.close d, .ok ()⟩ (w.closing d true)
  | closeFailed (d : Descriptor) (e : OsError) : FsStep w ⟨.close d, .error e⟩ (w.closing d false)
  | unlink (path : Path) : FsStep w ⟨.unlink path, .ok ()⟩ (w.put path none)
  | unlinkFailed (path : Path) (e : OsError) : FsStep w ⟨.unlink path, .error e⟩ (w.keeping path)
  | replace (source destination : Path) :
      FsStep w ⟨.replace source destination, .ok ()⟩
        ((w.put source none).put destination (w.files source))
  /-- A listing leaves out no file of the directory. -/
  | scandir {d : Descriptor} {names : List String}
      (h : ∀ name, w.files ((w.records d).path ++ [name]) ≠ none → name ∈ names)
      (hdistinct : names.Nodup) : FsStep w ⟨.scandir d, .ok names⟩ w

/-! ## Checks -/

/-- `_FILE_MODE` and `_DIRECTORY_MODE`. -/
def fileMode : Nat := 0o600
/-- The mode of a private directory. -/
def directoryMode : Nat := 0o700

/-- What tells one version of a file from another. -/
structure FileIdentity where
  device : Nat
  inode : Nat
  size : Nat
  modifiedNs : Nat
  deriving DecidableEq

/-- The identity a `stat` shows. -/
def Stat.identity (metadata : Stat) : FileIdentity :=
  ⟨metadata.device, metadata.inode, metadata.size, metadata.modifiedNs⟩

/-- The refusal of everything that is not as it must be. -/
def boundary : Except FsException Unit := .error (.profile .filesystemBoundary)

/-- Group and others may not write when the policy is not restrictive. -/
def validateDirectoryStat (uid : Nat) (metadata : Stat) (restrictive : Bool) :
    Except FsException Unit :=
  if metadata.kind ≠ .directory then boundary
  else if restrictive ∧ (metadata.uid ≠ uid ∨ metadata.mode ≠ directoryMode) then boundary
  else if ¬restrictive ∧ metadata.mode &&& 0o022 ≠ 0 then boundary
  else .ok ()

/-- `_validate_file_stat` -/
def validateFileStat (uid : Nat) (metadata : Stat) (maximumBytes : Nat) :
    Except FsException Unit :=
  if metadata.kind ≠ .regular ∨ metadata.links ≠ 1 ∨ metadata.uid ≠ uid ∨
      metadata.mode ≠ fileMode then boundary
  else if metadata.size > maximumBytes then .error (.profile .fileTooLarge)
  else .ok ()

/-- `_require_same_object` -/
def requireSameObject (left right : Stat) : Except FsException Unit :=
  if left.device ≠ right.device ∨ left.inode ≠ right.inode then boundary else .ok ()

/-- `_require_unchanged` -/
def requireUnchanged (left right : Stat) : Except FsException Unit := do
  requireSameObject left right
  if left.identity ≠ right.identity then boundary else .ok ()

/-- `_require_simple_name` -/
def requireSimpleName (name : String) : Except FsException Unit :=
  if name = "" ∨ name = "." ∨ name = ".." ∨ '/' ∈ name.toList then boundary else .ok ()

/-! ## Directories -/

/-- `_reject_symlink_components`, for the parts below a path that was checked. -/
def rejectSymlinkComponents (current : Path) : List String → Fs Unit
  | [] => pure ()
  | part :: rest => do
    match ← attempt (.lstat (current ++ [part])) with
    | .error .fileNotFound => raise (.profile .filesystemBoundary)
    | .error e => raise (.os e)
    | .ok metadata =>
      if metadata.kind = .symlink then raise (.profile .filesystemBoundary)
      else rejectSymlinkComponents (current ++ [part]) rest

/-- Open, use, and close whatever happens. -/
def bracketed (opening : Fs Descriptor) (body : Descriptor → Fs α) : Fs α := do
  let descriptor ← opening
  finallyDo (body descriptor) (sys (.close descriptor))

/-- `validate_directory` -/
def validateDirectory (uid : Nat) (path : Path) (restrictive : Bool) : Fs Unit :=
  refusing .filesystemBoundary do
    rejectSymlinkComponents [] path
    let before ← sys (.lstat path)
    ofExcept (validateDirectoryStat uid before restrictive)
    bracketed (sys (.openDirectory path)) fun descriptor => do
      let opened ← sys (.fstat descriptor)
      ofExcept (validateDirectoryStat uid opened restrictive)
      ofExcept (requireSameObject before opened)
    let after ← sys (.lstat path)
    ofExcept (requireSameObject before after)
    ofExcept (validateDirectoryStat uid after restrictive)

/-- `fsync_directory` -/
def fsyncDirectory (uid : Nat) (path : Path) (restrictive : Bool) : Fs Unit := do
  validateDirectory uid path restrictive
  bracketed (sys (.openDirectory path)) fun descriptor =>
    refusing .filesystemBoundary (sys (.fsync descriptor))

/-! ## New files -/

/-- `_write_all`: write until nothing is left, or a write makes no progress. -/
def writeAll (d : Descriptor) (view : Bytes) : Fs Unit :=
  if view = [] then pure ()
  else
    call (I := FsInterface) (.write d view) fun
      | .error e => raise (.os e)
      | .ok (count : Int) =>
        if count ≤ 0 then raise (.os .other) else writeAll d (view.drop count.toNat)
termination_by view.length
decreasing_by
  have : view.length ≠ 0 := by simpa using ‹¬view = []›
  rw [List.length_drop]
  omega

/-- Give a created file its mode and its bytes, and check that they are there. -/
def fillNewFile (uid : Nat) (file : Descriptor) (data : Bytes) : Fs Unit := do
  sys (.fchmod file)
  writeAll file data
  sys (.fsync file)
  let completed ← sys (.fstat file)
  ofExcept (validateFileStat uid completed data.length)
  if completed.size ≠ data.length then raise (.os .other)

/-- What the handler of `write_new_file` raises. -/
def writeFailure : FsException → FsException
  | .os _ => .profile .backupWriteFailed
  | e => e

/-- How far a new file got: it was not created, or it is open and was filled with this result. -/
inductive NewFile
  | refused (e : FsException)
  | opened (file : Descriptor) (result : Except FsException Unit)

/-- The file was written and flushed. -/
def NewFile.filled : NewFile → Bool
  | opened _ (.ok ()) => true
  | _ => false

/-- The body of the `try` statement of `write_new_file`. -/
def openAndFill (uid : Nat) (path : Path) (data : Bytes) : Fs NewFile := do
  match ← (sys (.openNew path)).catching with
  | .error e => return .refused e
  | .ok file =>
    let result ← (fillNewFile uid file data).catching
    return .opened file result

/-- The handler of `write_new_file`: how the statement ends, and the descriptor that the variable
`file_descriptor` still holds. -/
def writeHandler (path : Path) : NewFile → Fs (Except FsException Unit × Option Descriptor)
  | .refused e => return (.error (writeFailure e), none)
  | .opened file (.ok ()) => return (.ok (), some file)
  | .opened file (.error e) => do
    -- a close that raises ends the handler before the variable is cleared
    match ← (sys (.close file)).catching with
    | .error closing => return (.error closing, some file)
    | .ok () =>
      let _ ← attempt (.unlink path)
      return (.error (writeFailure e), none)

/-- Close the file object, if there is one. -/
def closeIfSome : Option Descriptor → Fs Unit
  | none => pure ()
  | some d => sys (.close d)

/-- `write_new_file` up to its handlers, with the descriptor of the directory. -/
def openNewFile (uid : Nat) (directory : Path) (name : String) (data : Bytes) :
    Fs (Descriptor × NewFile) := do
  validateDirectory uid directory true
  ofExcept (requireSimpleName name)
  let descriptor ← sys (.openDirectory directory)
  let progress ← openAndFill uid (directory ++ [name]) data
  return (descriptor, progress)

/-- What is left to do once the file was written, or was not. -/
def finishNewFile (path : Path) (descriptor : Descriptor) (progress : NewFile) : Fs Unit := do
  let (result, file) ← writeHandler path progress
  closeIfSome file
  sys (.close descriptor)
  ofExcept result

/-- `write_new_file` -/
def writeNewFile (uid : Nat) (directory : Path) (name : String) (data : Bytes) : Fs Unit := do
  let (descriptor, progress) ← openNewFile uid directory name data
  finishNewFile (directory ++ [name]) descriptor progress

/-! ## Atomic replacement -/

/-- `re_full_hex` -/
def fullHex (value : String) (length : Nat) : Bool :=
  value.length = length && value.toList.all fun c => c ∈ "0123456789abcdef".toList

/-- How many temporary names are tried. -/
def collisionAttempts : Nat := 8

/-- The name of a temporary file. -/
def temporaryName (token : String) : String := ".aurora-config.tmp-" ++ token

/-- Create a file under a fresh name, in at most so many attempts. -/
def createTemporary (parent : Path) : Nat → Fs (Descriptor × Path)
  | 0 => raise (.profile .filesystemBoundary)
  | attempts + 1 => do
    let token ← sys (.token 12)
    if fullHex token 24 then
      match ← attempt (.openNew (parent ++ [temporaryName token])) with
      | .ok d => return (d, parent ++ [temporaryName token])
      | .error .fileExists => createTemporary parent attempts
      | .error e => raise (.os e)
    else raise (.profile .filesystemBoundary)

/-- The identity of the destination is the expected one, if one is expected. -/
def requireIdentity (destination : Path) (expected : Option FileIdentity)
    (check : Stat → Except FsException Unit) : Fs Unit :=
  match expected with
  | none => pure ()
  | some identity => do
    let current ← sys (.stat destination)
    ofExcept (check current)
    if current.identity ≠ identity then raise (.profile .activeChanged)

/-- The variables of `atomic_replace` that its handlers look at. -/
structure ReplaceLocals where
  temporaryDescriptor : Option Descriptor
  temporaryPath : Option Path
  published : Bool

/-- The `try` statement of `atomic_replace`: how it ends, and the variables it leaves. -/
def replaceAttempt (uid : Nat) (parent : Path) (name : String) (data : Bytes)
    (expected : Option FileIdentity) (directory : Descriptor) :
    Fs (Except FsException Unit × ReplaceLocals) := do
  let destination := parent ++ [name]
  match ← (do
      requireIdentity destination expected fun current =>
        validateFileStat uid current (max data.length current.size)
      createTemporary parent collisionAttempts : Fs _).catching with
  | .error e => return (.error e, ⟨none, none, false⟩)
  | .ok (temporary, path) =>
    match ← (do
        fillNewFile uid temporary data
        sys (.close temporary) : Fs _).catching with
    | .error e => return (.error e, ⟨some temporary, some path, false⟩)
    | .ok () =>
      match ← (do
          requireIdentity destination expected fun _ => .ok ()
          sys (.replace path destination) : Fs _).catching with
      | .error e => return (.error e, ⟨none, some path, false⟩)
      | .ok () =>
        let result ← (sys (.fsync directory)).catching
        return (result, ⟨none, none, true⟩)

/-- An `OSError` becomes an `AtomicWriteFailure`. -/
def replaceFailure (published : Bool) : FsException → FsException
  | .os _ => .atomicWrite published
  | e => e

/-- Unlink the temporary file, if there is one; a failure is passed over. -/
def unlinkIfSome : Option Path → Fs Unit
  | none => pure ()
  | some path => do
    let _ ← attempt (.unlink path)

/-- `atomic_replace` -/
def atomicReplace (uid : Nat) (parent : Path) (name : String) (data : Bytes)
    (expected : Option FileIdentity) : Fs Unit := do
  validateDirectory uid parent false
  ofExcept (requireSimpleName name)
  let directory ← sys (.openDirectory parent)
  let (result, locals) ← replaceAttempt uid parent name data expected directory
  closeIfSome locals.temporaryDescriptor
  unlinkIfSome locals.temporaryPath
  sys (.close directory)
  ofExcept (result.mapError (replaceFailure locals.published))

end Aurora.ConfigProfiles
