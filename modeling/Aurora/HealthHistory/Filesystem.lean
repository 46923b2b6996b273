/-
  The filesystem boundary of the health history: the calls it makes, and the functions that validate
  directories, database files and their sidecars, and that create and remove them.

  A path is the list of its parts below the root.  Every call may fail, and what the calls report is
  left open: whatever it is, the functions check it.  A `finally` that closes a descriptor runs after
  the handlers before it, and what it raises replaces what they raised.
-/
import Aurora.HealthHistory.WalCheckpoint

namespace Aurora.HealthHistory.Filesystem

open Program

/-! ## Calls -/

/-- The parts of an absolute path. -/
abbrev Path := List String

/-- A file descriptor. -/
abbrev Descriptor := Nat

/-- The errors of a system call that the code tells apart. -/
inductive OsError
  | fileNotFound
  | fileExists
  /-- `BlockingIOError`, or the error numbers `EACCES`, `EAGAIN` and `EWOULDBLOCK`. -/
  | wouldBlock
  | other
  deriving DecidableEq

/-- `stat.S_IFMT` -/
inductive FileType
  | regular
  | directory
  | symlink
  | other (format : Nat)
  deriving DecidableEq

/-- `os.stat_result`, as far as it is read; the mode is its `stat.S_IMODE`. -/
structure Metadata where
  device : Nat
  inode : Nat
  fileType : FileType
  mode : Nat
  owner : Nat
  links : Nat
  size : Nat
  deriving DecidableEq

/-- What an `os.open` is for; every one refuses to follow a link at the end. -/
inductive Opening
  | directory (path : Path)
  | directoryAt (parent : Descriptor) (name : String)
  | read (path : Path)
  /-- Exclusive creation. -/
  | new (path : Path)
  /-- Read and write in an open directory, a file created exclusively or there already. -/
  | fileAt (parent : Descriptor) (name : String) (exclusive : Bool)

/-- The system calls of the module. -/
inductive FileCall
  | lstat (path : Path)
  /-- `os.stat` of a name in an open directory, not following links. -/
  | statAt (parent : Descriptor) (name : String)
  | fstat (d : Descriptor)
  | opening (target : Opening)
  | fchmod (d : Descriptor)
  | fsync (d : Descriptor)
  | close (d : Descriptor)
  | unlink (path : Path)
  /-- `LOCK_EX` with `LOCK_NB` -/
  | lock (d : Descriptor)
  | unlock (d : Descriptor)
  /-- Anything done under a lock that is held. -/
  | lead

/-- What a call returns when it succeeds. -/
def FileValue : FileCall → Type
  | .lstat _ | .statAt _ _ | .fstat _ => Metadata
  | .opening _ => Descriptor
  | _ => Unit

/-- Every call may raise instead. -/
def FileInterface : Interface := ⟨FileCall, fun c => Except OsError (FileValue c)⟩

/-- A call with its answer. -/
abbrev FileExchange : Type := Exchange FileInterface

/-! ## Exceptions -/

/-- The reasons of a refusal. -/
inductive FilesystemRejection
  | missing | symlink | wrongType | wrongOwner | wrongMode | hardLink | identityChanged
  | fileTooLarge | alreadyExists | invalidPath
  deriving DecidableEq

/-- What the functions below raise. -/
inductive FileException
  | os (e : OsError)
  | boundary (reason : FilesystemRejection)
  deriving DecidableEq

/-- A program of the module. -/
abbrev Files (α : Type) : Type := Program FileInterface FileException α

/-- Make a call and look at how it ends. -/
def attempt {ε : Type} (c : FileCall) : Program FileInterface ε (Except OsError (FileValue c)) :=
  ask (I := FileInterface) c

/-- Make a call that raises `OSError`. -/
def sys (c : FileCall) : Files (FileValue c) := invoke (I := FileInterface) c fun r => r.mapError .os

/-- Make a call and raise a fixed reason for its `OSError`. -/
def expecting (reason : OsError → FilesystemRejection) (c : FileCall) : Files (FileValue c) :=
  invoke (I := FileInterface) c fun r => r.mapError fun e => .boundary (reason e)

/-- Refuse what was found. -/
def refuse {α : Type} (reason : FilesystemRejection) : Except FileException α :=
  .error (.boundary reason)

/-- What an `OSError` becomes under a handler with a fixed reason. -/
def FileException.refused (reason : FilesystemRejection) : FileException → FileException
  | .os _ => .boundary reason
  | .boundary own => .boundary own

/-- `except OSError` that raises a fixed reason; other exceptions go on. -/
def refusing {α : Type} (reason : FilesystemRejection) (body : Files α) : Files α := do
  let result ← (body.catching : Files (Except FileException α))
  ofExcept (result.mapError (.refused reason))

/-- Open, use, and close whatever happens. -/
def bracketed {α : Type} (opening : Files Descriptor) (body : Descriptor → Files α) : Files α := do
  let descriptor ← opening
  finallyDo (body descriptor) (sys (.close descriptor))

/-! ## Checks -/

/-- The process: its effective user, and whether it can open and stat through descriptors. -/
structure Host where
  uid : Nat
  descriptorTraversal : Bool

deriving instance DecidableEq for PathIdentity

/-- `_identity` -/
def Metadata.identity (metadata : Metadata) : PathIdentity :=
  ⟨metadata.device, metadata.inode, metadata.mode, metadata.owner, metadata.links, metadata.size⟩

/-- What must not change of a directory on the way to the database. -/
structure DirectorySnapshot where
  device : Nat
  inode : Nat
  fileType : FileType
  mode : Nat
  owner : Nat
  links : Nat
  deriving DecidableEq

/-- `_directory_snapshot` -/
def Metadata.snapshot (metadata : Metadata) : DirectorySnapshot :=
  ⟨metadata.device, metadata.inode, metadata.fileType, metadata.mode, metadata.owner,
    metadata.links⟩

/-- `_validate_directory_metadata` -/
def validateDirectoryMetadata (uid : Nat) (metadata : Metadata) : Except FileException Unit :=
  if metadata.fileType = .symlink then refuse .symlink
  else if metadata.fileType ≠ .directory then refuse .wrongType
  else if metadata.owner ≠ uid then refuse .wrongOwner
  else if metadata.mode ≠ 0o700 then refuse .wrongMode
  else .ok ()

/-- A directory on the way belongs to the user or to root, and only its owner may write. -/
def validateDirectoryComponent (uid : Nat) (metadata : Metadata) (final : Bool) :
    Except FileException Unit :=
  if metadata.fileType = .symlink then refuse .symlink
  else if metadata.fileType ≠ .directory then refuse .wrongType
  else if final then validateDirectoryMetadata uid metadata
  else if metadata.owner ≠ 0 ∧ metadata.owner ≠ uid then refuse .wrongOwner
  else if metadata.mode &&& 0o022 ≠ 0 then refuse .wrongMode
  else .ok ()

/-- `_validate_file_metadata` -/
def validateFileMetadata (uid : Nat) (metadata : Metadata) (maximumBytes : Int) :
    Except FileException Unit :=
  if metadata.fileType = .symlink then refuse .symlink
  else if metadata.fileType ≠ .regular then refuse .wrongType
  else if metadata.owner ≠ uid then refuse .wrongOwner
  else if metadata.mode ≠ 0o600 then refuse .wrongMode
  else if metadata.links ≠ 1 then refuse .hardLink
  else if (metadata.size : Int) > maximumBytes then refuse .fileTooLarge
  else .ok ()

/-- The directory is still the one that was looked at, and the last one has not been touched. -/
def requireDirectoryUnchanged (left right : Metadata) (final : Bool) : Except FileException Unit :=
  if left.snapshot ≠ right.snapshot then refuse .identityChanged
  else if final ∧ left.identity ≠ right.identity then refuse .identityChanged
  else .ok ()

/-- The directory is the one an earlier walk found at this place. -/
def requireExpectedDirectory (snapshot : DirectorySnapshot)
    (expected : Option (List DirectorySnapshot)) (index : Nat) : Except FileException Unit :=
  match expected with
  | none => .ok ()
  | some expected => if expected[index]? = some snapshot then .ok () else refuse .identityChanged

/-- `_require_same_object` -/
def requireSameObject (left right : Metadata) : Except FileException Unit :=
  if (left.device, left.inode) ≠ (right.device, right.inode) then refuse .identityChanged
  else .ok ()

/-- `_require_unchanged` -/
def requireUnchanged (left right : Metadata) : Except FileException Unit := do
  requireSameObject left right
  if left.identity ≠ right.identity then refuse .identityChanged else .ok ()

/-- Everything but the size. -/
def sameManagedIdentity (left right : PathIdentity) : Bool :=
  (left.device, left.inode, left.mode, left.owner, left.links) =
    (right.device, right.inode, right.mode, right.owner, right.links)

/-- `path.name`, which is empty for the root. -/
def Path.name (path : Path) : String := path.getLastD ""

/-- `path.parent` -/
def Path.parent (path : Path) : Path := path.dropLast

/-- `_require_database_path` -/
def requireDatabasePath (path : Path) : Except FileException Unit :=
  if path.name = "" ∨ path.name = "." ∨ path.name = ".." then refuse .invalidPath else .ok ()

/-- `_directory_components`, for a path that is absolute. -/
def directoryComponents (path : Path) : Except FileException (List String) :=
  if path.any fun part => part ∈ ["", ".", ".."] then refuse .invalidPath else .ok path

/-! ## Directories -/

/-- `_stat_directory_entry` -/
def statDirectoryEntry (parent : Descriptor) (component : String) (initial : Bool) :
    Files Metadata :=
  expecting (fun e => match initial, e with
    | true, .fileNotFound => .missing
    | true, _ => .invalidPath
    | false, _ => .identityChanged) (.statAt parent component)

/-- What a walk to a directory found. -/
structure DirectoryWalk where
  components : List DirectorySnapshot
  finalIdentity : PathIdentity

/-- The root, which is opened already. -/
def enterRoot (host : Host) (before : Metadata) (descriptor : Descriptor) (final : Bool)
    (expected : Option (List DirectorySnapshot)) : Files Metadata := do
  let opened ← sys (.fstat descriptor)
  ofExcept (validateDirectoryComponent host.uid opened final)
  ofExcept (requireDirectoryUnchanged before opened final)
  let after ← expecting (fun _ => .identityChanged) (.lstat [])
  ofExcept (validateDirectoryComponent host.uid after final)
  ofExcept (requireDirectoryUnchanged before after final)
  ofExcept (requireExpectedDirectory after.snapshot expected 0)
  return after

/-- The checks of a component that was opened through its parent. -/
def checkDirectory (host : Host) (before : Metadata) (parent child : Descriptor)
    (component : String) (final : Bool) (expected : Option (List DirectorySnapshot))
    (index : Nat) : Files Metadata := do
  let opened ← sys (.fstat child)
  ofExcept (validateDirectoryComponent host.uid opened final)
  ofExcept (requireDirectoryUnchanged before opened final)
  let after ← statDirectoryEntry parent component false
  ofExcept (validateDirectoryComponent host.uid after final)
  ofExcept (requireDirectoryUnchanged before after final)
  ofExcept (requireExpectedDirectory after.snapshot expected index)
  return after

/-- One round of the loop, up to where the parent is given up. -/
def enterDirectory (host : Host) (parent : Descriptor) (component : String) (final : Bool)
    (expected : Option (List DirectorySnapshot)) (index : Nat) : Files (Descriptor × Metadata) := do
  let before ← statDirectoryEntry parent component true
  ofExcept (validateDirectoryComponent host.uid before final)
  let child ← expecting (fun _ => .identityChanged) (.opening (.directoryAt parent component))
  match ← ((checkDirectory host before parent child component final expected index).catching :
      Files (Except FileException Metadata)) with
  | .ok after => return (child, after)
  | .error e =>
    sys (.close child)
    raise e

/-- The loop over the components.  It stands in an open directory, which it closes when it ends or
    fails; a component is closed instead of its parent once the parent is given up. -/
def walkFrom (host : Host) (expected : Option (List DirectorySnapshot)) :
    Descriptor → Nat → List String → List DirectorySnapshot → Metadata →
      Files (List DirectorySnapshot × Metadata)
  | descriptor, _, [], snapshots, last => do
    sys (.close descriptor)
    return (snapshots, last)
  | descriptor, index, component :: rest, snapshots, _ => do
    match ← ((enterDirectory host descriptor component rest.isEmpty expected index).catching :
        Files (Except FileException (Descriptor × Metadata))) with
    | .error e =>
      sys (.close descriptor)
      raise e
    | .ok (child, after) =>
      match ← attempt (.close descriptor) with
      | .error e =>
        sys (.close child)
        raise (.os e)
      | .ok _ => walkFrom host expected child (index + 1) rest (snapshots ++ [after.snapshot]) after

/-- `_walk_directory_chain` -/
def walkDirectoryChain (host : Host) (components : List String)
    (expected : Option (List DirectorySnapshot)) : Files DirectoryWalk := do
  if !host.descriptorTraversal then raise (.boundary .invalidPath)
  else
    let before ← expecting (fun _ => .missing) (.lstat [])
    ofExcept (validateDirectoryComponent host.uid before components.isEmpty)
    let descriptor ← expecting (fun _ => .identityChanged) (.opening (.directory []))
    match ← ((enterRoot host before descriptor components.isEmpty expected).catching :
        Files (Except FileException Metadata)) with
    | .error e =>
      sys (.close descriptor)
      raise e
    | .ok after =>
      let (snapshots, last) ← walkFrom host expected descriptor 1 components [after.snapshot] after
      if expected.any fun expected => expected.length ≠ snapshots.length then
        raise (.boundary .identityChanged)
      else return ⟨snapshots, last.identity⟩

/-- `validate_protected_directory` -/
def validateProtectedDirectory (host : Host) (path : Path) : Files PathIdentity :=
  refusing .invalidPath do
    let components ← ofExcept (directoryComponents path)
    let first ← walkDirectoryChain host components none
    let second ← walkDirectoryChain host components (some first.components)
    if first.finalIdentity ≠ second.finalIdentity then raise (.boundary .identityChanged)
    else return second.finalIdentity

/-- `fsync_directory` -/
def fsyncDirectory (host : Host) (path : Path) : Files Unit := do
  let _ ← validateProtectedDirectory host path
  bracketed (sys (.opening (.directory path))) fun descriptor => sys (.fsync descriptor)

/-! ## Database files -/

/-- The largest write-ahead log. -/
def maxWalBytes : Int := 4 * 1024 * 1024
/-- The largest shared-memory file. -/
def maxSharedMemoryBytes : Int := 1024 * 1024

/-- `validate_database_file` -/
def validateDatabaseFile (host : Host) (path : Path) (expected : Option PathIdentity)
    (maximumBytes : Int) : Files PathIdentity := do
  ofExcept (requireDatabasePath path)
  let _ ← validateProtectedDirectory host path.parent
  let before ← expecting (fun _ => .missing) (.lstat path)
  ofExcept (validateFileMetadata host.uid before maximumBytes)
  bracketed (sys (.opening (.read path))) fun descriptor => refusing .identityChanged do
    let opened ← sys (.fstat descriptor)
    ofExcept (validateFileMetadata host.uid opened maximumBytes)
    ofExcept (requireUnchanged before opened)
  let after ← expecting (fun _ => .identityChanged) (.lstat path)
  ofExcept (validateFileMetadata host.uid after maximumBytes)
  ofExcept (requireUnchanged before after)
  if expected.any fun expected => !sameManagedIdentity after.identity expected then
    raise (.boundary .identityChanged)
  else return after.identity

/-- The two files SQLite keeps beside the database. -/
inductive Sidecar
  | wal
  | shm
  deriving DecidableEq

/-- What is appended to the name of the database. -/
def Sidecar.suffix : Sidecar → String
  | .wal => "-wal"
  | .shm => "-shm"

/-- `path.with_name` -/
def sidecarPath (path : Path) (sidecar : Sidecar) : Path :=
  path.parent ++ [path.name ++ sidecar.suffix]

/-- `_managed_paths` -/
def managedPaths (path : Path) : List Path := [path, sidecarPath path .wal, sidecarPath path .shm]

/-- None of the files is there. -/
def requireAbsent : List Path → Files Unit
  | [] => pure ()
  | candidate :: rest => do
    match ← attempt (.lstat candidate) with
    | .error .fileNotFound => requireAbsent rest
    | .error _ => raise (.boundary .invalidPath)
    | .ok _ => raise (.boundary .alreadyExists)

/-- Unlink a file, unless it is another one now. -/
def unlinkCreatedFile (path : Path) (identity : PathIdentity) : Files Unit := do
  match ← attempt (.lstat path) with
  | .error _ => return ()
  | .ok (metadata : Metadata) =>
    if metadata.fileType ≠ .regular ∨ ¬sameManagedIdentity metadata.identity identity then return ()
    else
      let _ ← attempt (.unlink path)
      return ()

/-- The new file, from its open descriptor on. -/
def prepareCreatedFile (host : Host) (descriptor : Descriptor) : Files PathIdentity := do
  sys (.fchmod descriptor)
  let metadata : Metadata ← sys (.fstat descriptor)
  ofExcept (validateFileMetadata host.uid metadata 0)
  if metadata.size ≠ 0 then raise (.boundary .identityChanged)
  else
    sys (.fsync descriptor)
    return metadata.identity

/-- Create the file, unless one of the managed files is there. -/
def openCreatedFile (host : Host) (path : Path) : Files Descriptor := do
  ofExcept (requireDatabasePath path)
  let _ ← validateProtectedDirectory host path.parent
  requireAbsent (managedPaths path)
  expecting (fun
    | .fileExists => .alreadyExists
    | _ => .invalidPath) (.opening (.new path))

/-- The new file, once its first identity is known. -/
def finishCreatedFile (host : Host) (path : Path) (descriptor : Descriptor)
    (createdIdentity : PathIdentity) : Files PathIdentity := do
  match ← ((prepareCreatedFile host descriptor).catching : Files (Except FileException PathIdentity))
    with
  | .error e =>
    sys (.close descriptor)
    -- the identity is assigned last, so that it is not known yet
    unlinkCreatedFile path createdIdentity
    raise e
  | .ok identity =>
    sys (.close descriptor)
    let _ ← validateDatabaseFile host path (some identity) maxDatabaseBytes
    fsyncDirectory host path.parent
    return identity

/-- `create_database_file` -/
def createDatabaseFile (host : Host) (path : Path) : Files PathIdentity := do
  let descriptor ← openCreatedFile host path
  -- outside of the `try`: what this call raises leaves the descriptor open
  let created : Metadata ← sys (.fstat descriptor)
  finishCreatedFile host path descriptor created.identity

/-! ## Sidecars -/

/-- `dict[str, PathIdentity]` over the two suffixes. -/
structure Sidecars where
  wal : Option PathIdentity
  shm : Option PathIdentity

/-- `sidecars.get` -/
def Sidecars.get (sidecars : Sidecars) : Sidecar → Option PathIdentity
  | .wal => sidecars.wal
  | .shm => sidecars.shm

/-- One round of `validate_sidecars`. -/
def validateSidecar (host : Host) (path : Path) (sidecar : Sidecar) (maximumBytes : Int) :
    Files (Option PathIdentity) := do
  match ← attempt (.lstat (sidecarPath path sidecar)) with
  | .error .fileNotFound => return none
  | .error e => raise (.os e)
  | .ok _ => return some (← validateDatabaseFile host (sidecarPath path sidecar) none maximumBytes)

/-- `validate_sidecars` -/
def validateSidecars (host : Host) (path : Path) (maximumWalBytes : Int) : Files Sidecars := do
  let wal ← validateSidecar host path .wal maximumWalBytes
  let shm ← validateSidecar host path .shm maxSharedMemoryBytes
  return ⟨wal, shm⟩

/-- A sidecar that was there is the same one still. -/
def sidecarStable (before after : Option PathIdentity) : Bool :=
  match before, after with
  | none, _ => true
  | some _, none => false
  | some identity, some current => sameManagedIdentity current identity

/-- Neither sidecar was replaced in between. -/
def requireStableSidecars (before after : Sidecars) : Except FileException Unit :=
  if [Sidecar.wal, .shm].all fun sidecar => sidecarStable (before.get sidecar) (after.get sidecar)
  then .ok ()
  else refuse .identityChanged

/-- The bound of a file, by the ending of its name. -/
def maximumBytesOf (candidate : Path) : Int :=
  if "-wal".toList <:+ candidate.name.toList then maxWalBytes
  else if "-shm".toList <:+ candidate.name.toList then maxSharedMemoryBytes
  else maxDatabaseBytes

/-- One round of `fsync_database_files`. -/
def fsyncDatabaseFile (host : Host) (candidate : Path) : Files Unit := do
  match ← attempt (.lstat candidate) with
  | .error .fileNotFound => return ()
  | .error e => raise (.os e)
  | .ok _ =>
    let _ ← validateDatabaseFile host candidate none (maximumBytesOf candidate)
    bracketed (sys (.opening (.read candidate))) fun descriptor => sys (.fsync descriptor)

/-- `fsync_database_files` -/
def fsyncDatabaseFiles (host : Host) (path : Path) : Files Unit := do
  fsyncDatabaseFile host path
  fsyncDatabaseFile host (sidecarPath path .wal)
  fsyncDatabaseFile host (sidecarPath path .shm)
  fsyncDirectory host path.parent

/-- Remove a sidecar that this creation captured. -/
def unlinkCapturedSidecar (path : Path) (sidecars : Sidecars) (sidecar : Sidecar) : Files Unit :=
  match sidecars.get sidecar with
  | none => pure ()
  | some identity => unlinkCreatedFile (sidecarPath path sidecar) identity

/-- `remove_created_artifacts` -/
def removeCreatedArtifacts (host : Host) (path : Path) (identity : PathIdentity)
    (sidecars : Sidecars) : Files Unit := do
  unlinkCapturedSidecar path sidecars .wal
  unlinkCapturedSidecar path sidecars .shm
  unlinkCreatedFile path identity
  fsyncDirectory host path.parent

/-- `remove_created_database` -/
def removeCreatedDatabase (host : Host) (path : Path) (identity : PathIdentity) : Files Unit :=
  removeCreatedArtifacts host path identity ⟨none, none⟩

end Aurora.HealthHistory.Filesystem
