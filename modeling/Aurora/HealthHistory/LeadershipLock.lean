/-
  Leadership of the health history: one lock file in a protected directory, locked without waiting.

  `acquire` validates the directory, opens the lock file through it, takes the lock, and then checks
  that neither was replaced meanwhile.  What its `finally` gives back depends on how far it came, so
  a stage that fails says so together with what it raises (`Held`).  `session` is what a process
  does: it takes the leadership, does things while it leads, and gives the leadership up.
-/
import Aurora.HealthHistory.DatabaseLifecycle
import Aurora.HealthHistory.Filesystem

namespace Aurora.HealthHistory.LeadershipLock

open Program Filesystem

/-! ## Exceptions -/

/-- What the functions below raise. -/
inductive LockException
  | file (e : FileException)
  | leadership (reason : LeadershipRejection)
  deriving DecidableEq

/-- A program of the module. -/
abbrev Locks (α : Type) : Type := Program FileInterface LockException α

/-- Make a call that raises `OSError`. -/
def ask (c : FileCall) : Locks (FileValue c) :=
  invoke (I := FileInterface) c fun r => r.mapError fun e => .file (.os e)

/-- The refusal of everything that is not as it must be. -/
def distrust : Except LockException Unit := .error (.leadership .trustFailed)

/-! ## The lock file -/

/-- `_lock_identity` -/
def lockIdentity (metadata : Metadata) : Nat × Nat × FileType × Nat × Nat × Nat × Nat :=
  (metadata.device, metadata.inode, metadata.fileType, metadata.mode, metadata.owner,
    metadata.links, metadata.size)

/-- `_validate_lock_metadata` -/
def validateLockMetadata (uid : Nat) (metadata : Metadata) : Except LockException Unit :=
  if metadata.fileType ≠ .regular then distrust
  else if metadata.owner ≠ uid then distrust
  else if metadata.mode ≠ 0o600 then distrust
  else if metadata.links ≠ 1 ∨ metadata.size ≠ 0 then distrust
  else .ok ()

/-- `_require_same_lock` -/
def requireSameLock (left right : Metadata) : Except LockException Unit :=
  if lockIdentity left ≠ lockIdentity right then distrust else .ok ()

/-- Look at the lock file in the directory. -/
def statLockEntry (directory : Descriptor) : Locks Metadata :=
  ask (.statAt directory leadershipLockFilename)

/-- Close the descriptor, whatever happens. -/
def bestEffortClose (d : Descriptor) : Locks Unit := do
  let _ ← Filesystem.attempt (.close d)
  return ()

/-- Unlock the descriptor, whatever happens. -/
def bestEffortUnlock (d : Descriptor) : Locks Unit := do
  let _ ← Filesystem.attempt (.unlock d)
  return ()

/-- Check an opened lock file; a check that fails closes it. -/
def keepIfSound (descriptor : Descriptor) (checks : Locks Unit) : Locks Descriptor := do
  match ← (checks.catching : Locks (Except LockException Unit)) with
  | .ok _ => return descriptor
  | .error e =>
    bestEffortClose descriptor
    raise e

/-- Open a lock file that was seen in the directory. -/
def openSeenLock (uid : Nat) (directory : Descriptor) (before : Metadata) : Locks Descriptor := do
  ofExcept (validateLockMetadata uid before)
  let descriptor ← ask (.opening (.fileAt directory leadershipLockFilename false))
  keepIfSound descriptor do
    let opened ← ask (.fstat descriptor)
    ofExcept (validateLockMetadata uid opened)
    ofExcept (requireSameLock before opened)
    let after ← statLockEntry directory
    ofExcept (validateLockMetadata uid after)
    ofExcept (requireSameLock opened after)

/-- Open the file another process has created in the meantime. -/
def openLockAfterCreationRace (uid : Nat) (directory : Descriptor) : Locks Descriptor := do
  let before ← statLockEntry directory
  openSeenLock uid directory before

/-- Create the file, unless another process was faster. -/
def createOrOpenRacedLock (uid : Nat) (directory : Descriptor) : Locks Descriptor := do
  match ← Filesystem.attempt (.opening (.fileAt directory leadershipLockFilename true)) with
  | .error .fileExists => openLockAfterCreationRace uid directory
  | .error e => raise (.file (.os e))
  | .ok (descriptor : Descriptor) => keepIfSound descriptor do
    ask (.fchmod descriptor)
    let opened ← ask (.fstat descriptor)
    ofExcept (validateLockMetadata uid opened)
    let after ← statLockEntry directory
    ofExcept (validateLockMetadata uid after)
    ofExcept (requireSameLock opened after)

/-- `_open_lock_file` -/
def openLockFile (uid : Nat) (directory : Descriptor) : Locks Descriptor := do
  match ← Filesystem.attempt (.statAt directory leadershipLockFilename) with
  | .error .fileNotFound => createOrOpenRacedLock uid directory
  | .error e => raise (.file (.os e))
  | .ok (before : Metadata) => openSeenLock uid directory before

/-! ## Stability -/

/-- The descriptor and the directory still show the file that was opened. -/
def requireStableLock (uid : Nat) (directory lock : Descriptor) (expected : Metadata) :
    Locks Unit := do
  let opened ← ask (.fstat lock)
  ofExcept (validateLockMetadata uid opened)
  ofExcept (requireSameLock opened expected)
  let entry ← statLockEntry directory
  ofExcept (validateLockMetadata uid entry)
  ofExcept (requireSameLock entry expected)

/-- Device, inode, mode and owner, and the number of links unless entries may have come or gone. -/
def requireDirectoryIdentity (metadata : Metadata) (expected : PathIdentity)
    (allowEntryCountChange : Bool) : Except LockException Unit :=
  if metadata.fileType ≠ .directory then distrust
  else if (metadata.identity.device, metadata.identity.inode, metadata.identity.mode,
      metadata.identity.owner) ≠
        (expected.device, expected.inode, expected.mode, expected.owner) then distrust
  else if !allowEntryCountChange ∧ metadata.identity.links ≠ expected.links then distrust
  else .ok ()

/-- The directory is still the one that was validated. -/
def requireSameDirectoryIdentity (left right : PathIdentity) : Except LockException Unit :=
  if (left.device, left.inode, left.mode, left.owner) ≠
      (right.device, right.inode, right.mode, right.owner) then distrust
  else .ok ()

/-- Lock the descriptor, unless another process holds the lock. -/
def acquireNonblocking (d : Descriptor) : Locks Unit := do
  match ← Filesystem.attempt (.lock d) with
  | .error .wouldBlock => raise (.leadership .busy)
  | .error _ => raise (.leadership .acquisitionFailed)
  | .ok _ => return ()

/-! ## Acquiring -/

/-- The locals that the `finally` of `acquire` reads. -/
structure Held where
  directory : Option Descriptor
  lock : Option Descriptor
  locked : Bool

/-- A stage of `acquire`, and what is held when it raises. -/
def during {ε α : Type} (held : Held) (translate : ε → LockException)
    (stage : Program FileInterface ε α) :
    Program FileInterface (LockException × Held) α := do
  match ← (stage.catching : Program FileInterface (LockException × Held) (Except ε α)) with
  | .ok a => return a
  | .error e => raise (translate e, held)

/-- The body of the `try`.  The handle takes the lock over, the directory is still to be closed. -/
def acquireHeld (host : Host) (path : Path) :
    Program FileInterface (LockException × Held) (Descriptor × Descriptor) := do
  let expectedDirectory ← during ⟨none, none, false⟩ .file (validateProtectedDirectory host path)
  let directory ← during ⟨none, none, false⟩ id (ask (.opening (.directory path)))
  let lock ← during ⟨some directory, none, false⟩ id do
    let opened ← ask (.fstat directory)
    ofExcept (requireDirectoryIdentity opened expectedDirectory false)
    openLockFile host.uid directory
  let expectedLock ← during ⟨some directory, some lock, false⟩ id do
    let expectedLock ← ask (.fstat lock)
    acquireNonblocking lock
    return expectedLock
  let currentDirectory ← during ⟨some directory, some lock, true⟩ id do
    requireStableLock host.uid directory lock expectedLock
    let currentDirectory ← ask (.fstat directory)
    ofExcept (requireDirectoryIdentity currentDirectory expectedDirectory true)
    return currentDirectory
  let revalidated ← during ⟨some directory, some lock, true⟩ .file
    (validateProtectedDirectory host path)
  during ⟨some directory, some lock, true⟩ id do
    ofExcept (requireDirectoryIdentity currentDirectory revalidated false)
    ofExcept (requireSameDirectoryIdentity expectedDirectory revalidated)
    requireStableLock host.uid directory lock expectedLock
  return (lock, directory)

/-- The `finally`. -/
def giveBack (held : Held) : Locks Unit := do
  match held.lock with
  | none => pure ()
  | some lock =>
    if held.locked then bestEffortUnlock lock
    bestEffortClose lock
  match held.directory with
  | none => pure ()
  | some directory => bestEffortClose directory

/-- Everything but a leadership error fails the trust. -/
def LockException.rejection : LockException → LeadershipRejection
  | .file _ => .trustFailed
  | .leadership reason => reason

/-- `HealthHistoryLeadership.acquire`; the handle is its descriptor. -/
def acquire (host : Host) (supportedRuntime : Bool) (path : Path) : Locks Descriptor := do
  if !supportedRuntime then raise (.leadership .unsupportedRuntime)
  else
    match ← ((acquireHeld host path).catching :
        Locks (Except (LockException × Held) (Descriptor × Descriptor))) with
    | .error (e, held) =>
      giveBack held
      raise (.leadership e.rejection)
    | .ok (lock, directory) =>
      giveBack ⟨some directory, none, false⟩
      return lock

/-! ## Sessions -/

/-- The calls of a handle return, or fail with an `OSError`. -/
def serveDescriptor : DescriptorCall → Locks (Outcome LeadershipRejection Unit)
  | .unlock d => do return if (← Filesystem.attempt (.unlock d)).isOk then .returned () else .failed
  | .close d => do return if (← Filesystem.attempt (.close d)).isOk then .returned () else .failed

/-- Do something a number of times while the leadership is held. -/
def leadTimes : Nat → Locks Unit
  | 0 => pure ()
  | count + 1 => do
    let _ ← Filesystem.attempt .lead
    leadTimes count

/-- What a process does: it acquires, leads and gives up. -/
structure Session where
  host : Host
  supportedRuntime : Bool
  directory : Path
  count : Nat

/-- A process takes the leadership, leads, and closes its handle. -/
def Session.program (session : Session) : Locks (Outcome LeadershipRejection Unit) := do
  let lock ← acquire session.host session.supportedRuntime session.directory
  leadTimes session.count
  let (outcome, _) ← (closeHandle (some lock)).through serveDescriptor
  return outcome

end Aurora.HealthHistory.LeadershipLock
