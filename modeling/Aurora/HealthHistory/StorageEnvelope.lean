/-
  The storage envelope: what an inspection of the store reports, and whether it permits a write.

  An inspection counts the pages of the database, the free space of its filesystem and the frames of
  its write-ahead log.  `decideStorageAction` turns the three into one decision of fixed priority; only
  `proceed` permits a write.
-/
import Aurora.HealthHistory.Errors

namespace Aurora.HealthHistory

/-- The page size of the database. -/
def pageSizeBytes : Int := 4096
/-- The largest database. -/
def maxDatabaseBytes : Int := 64 * 1024 * 1024
/-- The same in pages. -/
def maxDatabasePages : Int := maxDatabaseBytes / pageSizeBytes

theorem pages_hundred : Bounded maxDatabasePages 100 := by decide

/-- What must stay free on the filesystem. -/
def freeSpaceReserveBytes : Int := 128 * 1024 * 1024
/-- The largest size a filesystem may report. -/
def maxFilesystemBytes : Int := 2 ^ 63 - 1
/-- The header of a write-ahead log. -/
def walHeaderBytes : Int := 32
/-- The header of one of its frames. -/
def walFrameHeaderBytes : Int := 24
/-- A frame: its header and one page. -/
def walFrameBytes : Int := walFrameHeaderBytes + pageSizeBytes
/-- From this many frames on a checkpoint is due. -/
def walCheckpointThresholdFrames : Int := 256
/-- With more frames than this nothing is written, -/
def walHardLimitFrames : Int := 960
/-- nor with more bytes than this. -/
def walHardLimitBytes : Int := 4 * 1024 * 1024
/-- A larger log is not inspected. -/
def walInspectionLimitBytes : Int := maxDatabaseBytes
/-- The frames that fit into an inspected log. -/
def maxWalInspectionFrames : Int := (walInspectionLimitBytes - walHeaderBytes) / walFrameBytes

/-! ## Errors and outcomes -/

/-- Why a storage operation was refused. -/
inductive StorageEnvelopeRejection
  | unsupportedRuntime | storageBusy | timedOut | persistenceFailed | malformedState | trustFailed
deriving DecidableEq, Repr

/-- The error of a storage operation. -/
structure StorageEnvelopeError where
  reason : StorageEnvelopeRejection
  trustLost : Bool
deriving DecidableEq, Repr

/-- What the state of the storage asks for. -/
inductive StorageDecisionOutcome
  | proceed | capacityMaintenanceRequired | capacityBlocked | walCheckpointDue
  | walOversizeBlocked
deriving DecidableEq, Repr

/-- How a passive checkpoint ended. -/
inductive PassiveCheckpointOutcome
  | noWork | completed | busy | oversizeBlocked
deriving DecidableEq, Repr

/-! ## Inspections -/

/-- The pages of the database, with what the checked constructor asks of them. -/
structure StorageCapacityResult where
  pageCount : Int
  freelistCount : Int
  maximumPageCount : Int
  usedBytes : Int
  maximumBytes : Int
  pagesRemaining : Int
  pages : Bounded maxDatabasePages pageCount
  freelist : Bounded pageCount freelistCount
  maximumPages : maximumPageCount = maxDatabasePages
  used : usedBytes = pageCount * pageSizeBytes
  maximum : maximumBytes = maxDatabaseBytes
  remaining : pagesRemaining = maxDatabasePages - pageCount

/-- The free bytes of the filesystem, and whether they are enough. -/
structure FreeSpaceResult where
  sufficient : Bool
  freeBytes : Int
  requiredReserveBytes : Int
  free : Bounded maxFilesystemBytes freeBytes
  required : requiredReserveBytes = freeSpaceReserveBytes
  sufficient_iff : sufficient = true ↔ freeSpaceReserveBytes ≤ freeBytes

/-- A log of this size holds this many frames. -/
def walSizeMatches (totalBytes frameCount : Int) : Prop :=
  if totalBytes = 0 then frameCount = 0
  else if totalBytes < walHeaderBytes then False
  else (totalBytes - walHeaderBytes) % walFrameBytes = 0 ∧
    (totalBytes - walHeaderBytes) / walFrameBytes = frameCount

instance (totalBytes frameCount : Int) : Decidable (walSizeMatches totalBytes frameCount) := by
  unfold walSizeMatches
  infer_instance

/-- The frames of the log, with what the checked constructor asks of them. -/
structure WalInspectionResult where
  exists_ : Bool
  logicalFrameCount : Int
  physicalFrameSlots : Int
  totalBytes : Int
  checkpointedFrames : Int
  checkpointDue : Bool
  oversize : Bool
  logical : Bounded maxWalInspectionFrames logicalFrameCount
  physical : Bounded maxWalInspectionFrames physicalFrameSlots
  total : Bounded walInspectionLimitBytes totalBytes
  checkpointed : Bounded logicalFrameCount checkpointedFrames
  frames : logicalFrameCount ≤ physicalFrameSlots
  absent : exists_ = false → logicalFrameCount = 0 ∧ physicalFrameSlots = 0 ∧ totalBytes = 0 ∧
    checkpointedFrames = 0
  present : exists_ = true → walSizeMatches totalBytes physicalFrameSlots
  oversize_iff : oversize = true ↔
    walHardLimitFrames < logicalFrameCount ∨ walHardLimitBytes < totalBytes
  checkpointDue_iff : checkpointDue = true ↔
    (walCheckpointThresholdFrames ≤ logicalFrameCount ∧ logicalFrameCount ≤ walHardLimitFrames) ∧
      oversize = false

/-- What a passive checkpoint found and did, with the checks of its constructor. -/
structure PassiveCheckpointResult where
  outcome : PassiveCheckpointOutcome
  walLogicalFramesBefore : Int
  walPhysicalBytesBefore : Int
  busy : Bool
  logFrames : Int
  checkpointedFrames : Int
  logicalBefore : Bounded maxWalInspectionFrames walLogicalFramesBefore
  physicalBefore : Bounded walInspectionLimitBytes walPhysicalBytesBefore
  log : Bounded maxWalInspectionFrames logFrames
  checkpointed : Bounded logFrames checkpointedFrames
  idle : outcome = .noWork ∨ outcome = .oversizeBlocked →
    busy = false ∧ logFrames = 0 ∧ checkpointedFrames = 0
  noWork : outcome = .noWork → walLogicalFramesBefore < walCheckpointThresholdFrames ∧
    walPhysicalBytesBefore ≤ walHardLimitBytes
  oversize : outcome = .oversizeBlocked → walHardLimitFrames < walLogicalFramesBefore ∨
    walHardLimitBytes < walPhysicalBytesBefore
  due : outcome = .completed ∨ outcome = .busy →
    (walCheckpointThresholdFrames ≤ walLogicalFramesBefore ∧
      walLogicalFramesBefore ≤ walHardLimitFrames) ∧ walPhysicalBytesBefore ≤ walHardLimitBytes
  completed : outcome = .completed → busy = false
  interrupted : outcome = .busy → busy = true

/-! ## The decision -/

/-- The decision; writing is permitted exactly when it is to proceed. -/
structure StorageDecisionResult where
  outcome : StorageDecisionOutcome
  writePermitted : Bool
  permitted_iff : writePermitted = true ↔ outcome = .proceed

/-- The decision with this outcome. -/
def StorageDecisionResult.ofOutcome (outcome : StorageDecisionOutcome) : StorageDecisionResult :=
  ⟨outcome, decide (outcome = .proceed), by simp⟩

/-- One decision of fixed priority for a writer. -/
def decideStorageAction (capacity : StorageCapacityResult) (freeSpace : FreeSpaceResult)
    (wal : WalInspectionResult) (capacityMaintenanceAttempted : Bool) : StorageDecisionResult :=
  .ofOutcome <|
    if wal.oversize then .walOversizeBlocked
    else if capacity.pagesRemaining = 0 ∨ freeSpace.sufficient = false then
      if capacityMaintenanceAttempted then .capacityBlocked else .capacityMaintenanceRequired
    else if wal.checkpointDue then .walCheckpointDue
    else .proceed

end Aurora.HealthHistory
