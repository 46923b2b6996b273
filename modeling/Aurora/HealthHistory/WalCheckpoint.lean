/-
  Inspecting the write-ahead log, and the one passive checkpoint that an inspection permits.

  An inspection looks at the log file, asks the engine for its status, and looks again.  The records
  it returns validate themselves, in the words of their own invariants; a violation is a `ValueError`.
  A checkpoint runs under a progress handler, which reads the clock while the engine works.
-/
import Aurora.Lib.Worlds
import Aurora.HealthHistory.StorageEnvelope

namespace Aurora.HealthHistory

open Program

/-! ## Errors -/

namespace StorageEnvelopeError

/-- `_malformed()` -/
def malformed : StorageEnvelopeError := ⟨.malformedState, true⟩

/-- The files cannot be trusted. -/
def trustFailed : StorageEnvelopeError := ⟨.trustFailed, true⟩

/-- `_classified_sqlite_error`, for a deadline that has expired or not. -/
def classifiedSqliteError (error : SqliteError) (expired : Bool) : StorageEnvelopeError :=
  if error.integrity ∨ error.primaryCode ∈ SqliteError.trustCodes then trustFailed
  else if error.primaryCode ∈ SqliteError.busyCodes then ⟨.storageBusy, false⟩
  else if expired ∧ (error.primaryCode = none ∨ error.primaryCode = some 9) then ⟨.timedOut, false⟩
  else ⟨.persistenceFailed, false⟩

end StorageEnvelopeError

/-- What is raised below the public functions. -/
inductive StorageException
  | envelope (error : StorageEnvelopeError)
  /-- An error of the engine, and whether the deadline had expired by then. -/
  | sqlite (error : SqliteError) (expired : Bool)
  /-- A `ValueError` or a `TypeError`. -/
  | valueError
deriving DecidableEq

namespace StorageException

/-- A log that cannot be. -/
def malformed : StorageException := envelope .malformed

/-- The three handlers around an inspection and around a checkpoint. -/
def handled : StorageException → StorageException
  | envelope error => envelope error
  | sqlite error expired => envelope (.classifiedSqliteError error expired)
  | valueError => malformed

end StorageException

/-! ## Sizes -/

/-- `_wal_frame_count` -/
def walFrameCount (totalBytes : Int) : Except StorageEnvelopeError Int :=
  if ¬Bounded walInspectionLimitBytes totalBytes then .error .malformed
  else if totalBytes = 0 then .ok 0
  else if totalBytes < walHeaderBytes then .error .malformed
  else if (totalBytes - walHeaderBytes) % walFrameBytes ≠ 0 then .error .malformed
  else if maxWalInspectionFrames < (totalBytes - walHeaderBytes) / walFrameBytes then
    .error .malformed
  else .ok ((totalBytes - walHeaderBytes) / walFrameBytes)

/-! ## Records -/

/-- The arguments of `WalInspectionResult`. -/
structure WalInspectionFields where
  exists_ : Bool
  logicalFrameCount : Int
  physicalFrameSlots : Int
  totalBytes : Int
  checkpointedFrames : Int
  checkpointDue : Bool
  oversize : Bool

namespace WalInspectionFields

/-- `WalInspectionResult.__post_init__` accepts them. -/
def Valid (f : WalInspectionFields) : Prop :=
  Bounded maxWalInspectionFrames f.logicalFrameCount ∧
  Bounded maxWalInspectionFrames f.physicalFrameSlots ∧
  Bounded walInspectionLimitBytes f.totalBytes ∧
  Bounded f.logicalFrameCount f.checkpointedFrames ∧
  f.logicalFrameCount ≤ f.physicalFrameSlots ∧
  (f.exists_ = false → f.logicalFrameCount = 0 ∧ f.physicalFrameSlots = 0 ∧ f.totalBytes = 0 ∧
    f.checkpointedFrames = 0) ∧
  (f.exists_ = true → walSizeMatches f.totalBytes f.physicalFrameSlots) ∧
  (f.oversize = true ↔
    walHardLimitFrames < f.logicalFrameCount ∨ walHardLimitBytes < f.totalBytes) ∧
  (f.checkpointDue = true ↔
    (walCheckpointThresholdFrames ≤ f.logicalFrameCount ∧
      f.logicalFrameCount ≤ walHardLimitFrames) ∧ f.oversize = false)

instance (f : WalInspectionFields) : Decidable f.Valid := by unfold Valid; infer_instance

end WalInspectionFields

/-- Construction of the record. -/
def WalInspectionResult.construct (f : WalInspectionFields) :
    Except StorageException WalInspectionResult :=
  if h : f.Valid then
    .ok { f with
      logical := h.1
      physical := h.2.1
      total := h.2.2.1
      checkpointed := h.2.2.2.1
      frames := h.2.2.2.2.1
      absent := h.2.2.2.2.2.1
      present := h.2.2.2.2.2.2.1
      oversize_iff := h.2.2.2.2.2.2.2.1
      checkpointDue_iff := h.2.2.2.2.2.2.2.2 }
  else .error .valueError

/-- The arguments of `PassiveCheckpointResult`. -/
structure PassiveCheckpointFields where
  outcome : PassiveCheckpointOutcome
  walLogicalFramesBefore : Int
  walPhysicalBytesBefore : Int
  busy : Bool
  logFrames : Int
  checkpointedFrames : Int

namespace PassiveCheckpointFields

/-- `PassiveCheckpointResult.__post_init__` accepts them. -/
def Valid (f : PassiveCheckpointFields) : Prop :=
  Bounded maxWalInspectionFrames f.walLogicalFramesBefore ∧
  Bounded walInspectionLimitBytes f.walPhysicalBytesBefore ∧
  Bounded maxWalInspectionFrames f.logFrames ∧
  Bounded f.logFrames f.checkpointedFrames ∧
  (f.outcome = .noWork ∨ f.outcome = .oversizeBlocked →
    f.busy = false ∧ f.logFrames = 0 ∧ f.checkpointedFrames = 0) ∧
  (f.outcome = .noWork → f.walLogicalFramesBefore < walCheckpointThresholdFrames ∧
    f.walPhysicalBytesBefore ≤ walHardLimitBytes) ∧
  (f.outcome = .oversizeBlocked → walHardLimitFrames < f.walLogicalFramesBefore ∨
    walHardLimitBytes < f.walPhysicalBytesBefore) ∧
  (f.outcome = .completed ∨ f.outcome = .busy →
    (walCheckpointThresholdFrames ≤ f.walLogicalFramesBefore ∧
      f.walLogicalFramesBefore ≤ walHardLimitFrames) ∧
      f.walPhysicalBytesBefore ≤ walHardLimitBytes) ∧
  (f.outcome = .completed → f.busy = false) ∧
  (f.outcome = .busy → f.busy = true)

instance (f : PassiveCheckpointFields) : Decidable f.Valid := by unfold Valid; infer_instance

end PassiveCheckpointFields

/-- Construction of the record. -/
def PassiveCheckpointResult.construct (f : PassiveCheckpointFields) :
    Except StorageException PassiveCheckpointResult :=
  if h : f.Valid then
    .ok { f with
      logicalBefore := h.1
      physicalBefore := h.2.1
      log := h.2.2.1
      checkpointed := h.2.2.2.1
      idle := h.2.2.2.2.1
      noWork := h.2.2.2.2.2.1
      oversize := h.2.2.2.2.2.2.1
      due := h.2.2.2.2.2.2.2.1
      completed := h.2.2.2.2.2.2.2.2.1
      interrupted := h.2.2.2.2.2.2.2.2.2 }
  else .error .valueError

/-! ## Calls -/

/-- What tells one file from another. -/
structure PathIdentity where
  device : Int
  inode : Int
  mode : Int
  owner : Int
  links : Int
  size : Int

/-- `FileNotFoundError`, or another `OSError`. -/
inductive LstatFailure
  | missing
  | other

/-- A value of the engine: an integer, or something that is none. -/
inductive SqlValue
  | integer (n : Int)
  | other

/-- The calls of the module. -/
inductive StorageCall
  | monotonic
  | lstatWal
  /-- `validate_database_file` of the log file. -/
  | validateWal (expected : Option PathIdentity)
  /-- `require_safe_sqlite_runtime` -/
  | requireSafeRuntime
  | executeNoop
  | fetchNoop
  | installProgressHandler
  | executePassive
  | fetchPassive
  | clearProgressHandler

/-- Under the progress handler the engine reads the clock on the way, as often as it wants. -/
def StorageValue (κ : Type) : StorageCall → Type
  | .monotonic => κ
  | .lstatWal => Except LstatFailure Unit
  | .validateWal _ => Option PathIdentity
  | .requireSafeRuntime => Bool
  | .executeNoop => Except SqliteError Unit
  | .fetchNoop => Except SqliteError (List (List SqlValue))
  | .installProgressHandler => Except SqliteError Unit
  | .executePassive => List κ × Except SqliteError Unit
  | .fetchPassive => List κ × Except SqliteError (List (List SqlValue))
  | .clearProgressHandler => Except SqliteError Unit

/-- The interface it is written over. -/
def StorageInterface (κ : Type) : Interface := ⟨StorageCall, StorageValue κ⟩

/-- A program of the module. -/
abbrev Storage (κ α : Type) : Type := Program (StorageInterface κ) StorageException α

/-! ## The deadline -/

/-- The readings of a clock: `monotonic() + CHECKPOINT_SECONDS`, and `monotonic() >= deadline`. -/
structure Clock (κ : Type) where
  addCheckpointSeconds : κ → κ
  reached : κ → κ → Bool

/-- `_Deadline` -/
structure Deadline (κ : Type) where
  deadline : κ
  expired : Bool

variable {κ : Type} (clock : Clock κ)

namespace Deadline

/-- A deadline from now on. -/
def new : Storage κ (Deadline κ) := do
  let reading : κ ← ask (I := StorageInterface κ) .monotonic
  return ⟨clock.addCheckpointSeconds reading, false⟩

/-- What the progress handler leaves after these readings. -/
def progress (d : Deadline κ) (readings : List κ) : Deadline κ :=
  { d with expired := d.expired || readings.any fun reading => clock.reached reading d.deadline }

/-- `check`; an expired deadline is not looked at again. -/
def check (d : Deadline κ) : Storage κ Unit := do
  let reading : κ ← ask (I := StorageInterface κ) .monotonic
  if clock.reached reading d.deadline then raise (.envelope ⟨.timedOut, false⟩)

end Deadline

/-- `_check_deadline` -/
def checkDeadline : Option (Deadline κ) → Storage κ Unit
  | none => pure ()
  | some d => d.check clock

/-! ## Inspection -/

/-- `_PhysicalWalState` -/
structure PhysicalWalState where
  exists_ : Bool
  identity : Option PathIdentity
  physicalFrameSlots : Int
  totalBytes : Int

/-- `_inspect_physical_wal` -/
def inspectPhysicalWal (expected : Option PathIdentity) (requireExisting : Bool) :
    Storage κ PhysicalWalState := do
  let found : Except LstatFailure Unit ← ask (I := StorageInterface κ) .lstatWal
  match found with
  | .error .missing =>
    if requireExisting then raise (.envelope .trustFailed) else return ⟨false, none, 0, 0⟩
  | .error .other =>
    if requireExisting then raise (.envelope .trustFailed)
    else raise (.envelope ⟨.persistenceFailed, false⟩)
  | .ok () =>
    let validated : Option PathIdentity ← ask (I := StorageInterface κ) (.validateWal expected)
    match validated with
    | none => raise (.envelope .trustFailed)
    | some identity =>
      let slots ← ofExcept ((walFrameCount identity.size).mapError .envelope)
      return ⟨true, some identity, slots, identity.size⟩

/-- The status row of a NOOP checkpoint: the logical frames, the checkpointed ones, and whether there
is no log. -/
def noopStatus : List (List SqlValue) → Except StorageException (Int × Int × Bool)
  | [[.integer busy, .integer logicalFrameCount, .integer checkpointedFrames]] =>
    if busy = 1 then .error (.envelope ⟨.storageBusy, false⟩)
    else if busy ≠ 0 then .error .malformed
    else if logicalFrameCount = -1 ∨ checkpointedFrames = -1 then
      if logicalFrameCount = -1 ∧ checkpointedFrames = -1 then .ok (0, 0, true)
      else .error .malformed
    else if ¬Bounded maxWalInspectionFrames logicalFrameCount ∨
        ¬Bounded logicalFrameCount checkpointedFrames then .error .malformed
    else .ok (logicalFrameCount, checkpointedFrames, false)
  | _ => .error .malformed

/-- `_read_noop_status` -/
def readNoopStatus (deadline : Option (Deadline κ)) : Storage κ (Int × Int × Bool) := do
  let expired := deadline.any (·.expired)
  let safe : Bool ← ask (I := StorageInterface κ) .requireSafeRuntime
  if safe then
    invoke (I := StorageInterface κ) .executeNoop
      fun (answer : Except SqliteError Unit) => answer.mapError fun e => .sqlite e expired
    checkDeadline clock deadline
    let rows : List (List SqlValue) ← invoke (I := StorageInterface κ) .fetchNoop
      fun (answer : Except SqliteError (List (List SqlValue))) =>
        answer.mapError fun e => .sqlite e expired
    checkDeadline clock deadline
    ofExcept (noopStatus rows)
  else raise (.envelope ⟨.unsupportedRuntime, false⟩)

/-- The arguments that `_inspect_wal` gives to its record. -/
def inspectionFields (logicalFrameCount checkpointedFrames : Int) (after : PhysicalWalState) :
    WalInspectionFields :=
  let oversize : Bool :=
    walHardLimitFrames < logicalFrameCount ∨ walHardLimitBytes < after.totalBytes
  { exists_ := after.exists_
    logicalFrameCount
    physicalFrameSlots := after.physicalFrameSlots
    totalBytes := after.totalBytes
    checkpointedFrames
    checkpointDue := (walCheckpointThresholdFrames ≤ logicalFrameCount ∧
      logicalFrameCount ≤ walHardLimitFrames) ∧ oversize = false
    oversize }

/-- The body of the `try` statement of `_inspect_wal`. -/
def inspectWalBody (deadline : Option (Deadline κ)) : Storage κ WalInspectionResult := do
  let before ← inspectPhysicalWal none false
  checkDeadline clock deadline
  let (logicalFrameCount, checkpointedFrames, noWal) ← readNoopStatus clock deadline
  checkDeadline clock deadline
  let after ← inspectPhysicalWal before.identity before.exists_
  checkDeadline clock deadline
  if noWal ∧ after.totalBytes ≠ 0 then raise .malformed
  else if after.physicalFrameSlots < logicalFrameCount then raise .malformed
  else
    ofExcept (WalInspectionResult.construct
      (inspectionFields logicalFrameCount checkpointedFrames after))

/-- Run a program under the handlers. -/
def handling {α : Type} (body : Storage κ α) : Storage κ α := do
  match ← (body.catching : Storage κ _) with
  | .ok a => return a
  | .error e => raise e.handled

/-- `_inspect_wal` -/
def inspectWal (deadline : Option (Deadline κ)) : Storage κ WalInspectionResult :=
  handling (inspectWalBody clock deadline)

/-! ## Checkpoint -/

/-- The arguments of the record when no checkpoint is due. -/
def idleFields (wal : WalInspectionResult) : PassiveCheckpointFields where
  outcome := if wal.oversize then .oversizeBlocked else .noWork
  walLogicalFramesBefore := wal.logicalFrameCount
  walPhysicalBytesBefore := wal.totalBytes
  busy := false
  logFrames := 0
  checkpointedFrames := 0

/-- One turn of the loop over the values of a row. -/
def rowValue (d : Deadline κ) : SqlValue → Storage κ Int
  | .integer n => do
    d.check clock
    return n
  | .other => do
    d.check clock
    raise .malformed

/-- The status row of a PASSIVE checkpoint. -/
def passiveStatus (d : Deadline κ) : List (List SqlValue) → Storage κ (Int × Int × Int)
  | [[first, second, third]] => do
    let busy ← rowValue clock d first
    let logFrames ← rowValue clock d second
    let checkpointedFrames ← rowValue clock d third
    return (busy, logFrames, checkpointedFrames)
  | _ => raise .malformed

/-- The frames that a status row reports; a busy checkpoint may report none. -/
def reportedFrames (busy logFrames checkpointedFrames : Int) :
    Except StorageException (Int × Int) :=
  if busy ≠ 0 ∧ busy ≠ 1 then .error .malformed
  else if busy = 1 ∧ logFrames = -1 ∧ checkpointedFrames = -1 then .ok (0, 0)
  else if ¬Bounded maxWalInspectionFrames logFrames ∨ ¬Bounded logFrames checkpointedFrames then
    .error .malformed
  else .ok (logFrames, checkpointedFrames)

/-- The arguments of the record after a checkpoint. -/
def checkpointFields (wal : WalInspectionResult) (busy logFrames checkpointedFrames : Int) :
    PassiveCheckpointFields where
  outcome := if busy = 1 then .busy else .completed
  walLogicalFramesBefore := wal.logicalFrameCount
  walPhysicalBytesBefore := wal.totalBytes
  busy := busy = 1
  logFrames
  checkpointedFrames

/-- The inner `try` statement's body: the statement, its row, and the record. -/
def checkpointBody (d : Deadline κ) (wal : WalInspectionResult) :
    Storage κ PassiveCheckpointResult := do
  d.check clock
  let d ← invoke (I := StorageInterface κ) .executePassive
    fun (answer : List κ × Except SqliteError Unit) =>
      match answer.2 with
      | .ok () => .ok (d.progress clock answer.1)
      | .error e => .error (.sqlite e (d.progress clock answer.1).expired)
  d.check clock
  let (d, rows) ← invoke (I := StorageInterface κ) .fetchPassive
    fun (answer : List κ × Except SqliteError (List (List SqlValue))) =>
      match answer.2 with
      | .ok rows => .ok (d.progress clock answer.1, rows)
      | .error e => .error (.sqlite e (d.progress clock answer.1).expired)
  d.check clock
  let (busy, logFrames, checkpointedFrames) ← passiveStatus clock d rows
  let (logFrames, checkpointedFrames) ← ofExcept (reportedFrames busy logFrames checkpointedFrames)
  d.check clock
  ofExcept (PassiveCheckpointResult.construct
    (checkpointFields wal busy logFrames checkpointedFrames))

/-- `_install_progress_handler` -/
def installProgressHandler (d : Deadline κ) : Storage κ Unit :=
  invoke (I := StorageInterface κ) .installProgressHandler fun (answer : Except SqliteError Unit) =>
    answer.mapError fun e => .envelope (.classifiedSqliteError e d.expired)

/-- `_clear_progress_handler` -/
def clearProgressHandler : Storage κ Unit :=
  invoke (I := StorageInterface κ) .clearProgressHandler fun (answer : Except SqliteError Unit) =>
    answer.mapError fun _ => .envelope .trustFailed

/-- The checkpoint under its progress handler. -/
def issueCheckpoint (d : Deadline κ) (wal : WalInspectionResult) :
    Storage κ PassiveCheckpointResult :=
  finallyDo
    (do
      installProgressHandler d
      handling (checkpointBody clock d wal))
    clearProgressHandler

/-- `_passive_wal_checkpoint` -/
def passiveWalCheckpoint : Storage κ PassiveCheckpointResult := do
  let d ← Deadline.new clock
  let wal ← inspectWal clock (some d)
  d.check clock
  if wal.checkpointDue then issueCheckpoint clock d wal
  else ofExcept (PassiveCheckpointResult.construct (idleFields wal))

end Aurora.HealthHistory
