/-
  The orchestrator: one observation or one maintenance opportunity on an open store.

  It calls the store and two injected clocks, so its methods are programs over `HistoryCall`.  A store
  operation may raise any of the store's exceptions; what the source does not catch there leaves the
  method.  The cycle guard is one of the calls: acquiring it fails while another call holds it.
-/
import Mathlib.Algebra.Order.Ring.Rat
import Aurora.Lib.Interaction
import Aurora.HealthHistory.Maintenance
import Aurora.HealthHistory.StorageEnvelope

namespace Aurora.HealthHistory

/-- An hour, in seconds. -/
def maintenanceIntervalSeconds : ℚ := 60 * 60
/-- This many stored samples make maintenance due. -/
def storedRowsMaintenanceTrigger : Int := 120

/-- `float(MAX_TIMESTAMP_US)` -/
def maxMonotonic : ℚ := 2 ^ 63

/-- A reading a monotonic clock may give, an exact number of seconds. -/
def ValidMonotonic (value : ℚ) : Prop := 0 ≤ value ∧ value ≤ maxMonotonic

instance (value : ℚ) : Decidable (ValidMonotonic value) := inferInstanceAs (Decidable (_ ∧ _))

/-! ## Outcomes -/

/-- What a cycle of the orchestrator reports. -/
inductive OrchestrationOutcome
  | stored | stateOnly | replayed | capacityBlocked | walOversizeBlocked | checkpointBusy
  | checkpointIncomplete | storageBusy | timedOut | persistenceFailed | trustFailed
  | unsupportedRuntime | invalidObservation | staleSequence | sequenceConflict
  | generationExhausted | invalidClock | reentrant | maintenanceCompleted
deriving DecidableEq, Repr

/-- Why the orchestrator refuses a call. -/
inductive OrchestrationRejection
  | invalidTriggerState | invalidMonotonic | reentrant
deriving DecidableEq, Repr

/-- Why maintenance is due. -/
inductive MaintenanceTriggerReason
  | none | startup | hourly | storedRows
deriving DecidableEq, Repr

/-- The outcomes an observation may have. -/
def observationOutcomes : List OrchestrationOutcome :=
  [.stored, .stateOnly, .replayed, .capacityBlocked, .walOversizeBlocked, .checkpointBusy,
    .checkpointIncomplete, .storageBusy, .timedOut, .persistenceFailed, .trustFailed,
    .unsupportedRuntime, .invalidObservation, .staleSequence, .sequenceConflict,
    .generationExhausted, .invalidClock, .reentrant]

/-- The outcomes a maintenance opportunity may have. -/
def maintenanceOutcomes : List OrchestrationOutcome :=
  [.maintenanceCompleted, .walOversizeBlocked, .checkpointBusy, .storageBusy, .timedOut,
    .persistenceFailed, .trustFailed, .unsupportedRuntime, .invalidClock, .reentrant]

theorem trustFailed_permitted : OrchestrationOutcome.trustFailed ∈ observationOutcomes := by decide

/-- The result of an observation. -/
structure ObservationCycleResult where
  outcome : OrchestrationOutcome
  storageMaintenanceAttempted : Bool
  permitted : outcome ∈ observationOutcomes := by decide

/-- The result of a maintenance opportunity. -/
structure MaintenanceOpportunityResult where
  outcome : OrchestrationOutcome
  permitted : outcome ∈ maintenanceOutcomes := by decide

/-- Whether maintenance is due, and why. -/
structure MaintenanceTriggerDecision where
  due : Bool
  reason : MaintenanceTriggerReason
  due_iff : due = true ↔ reason ≠ .none

/-- `_storage_error_outcome` -/
def storageErrorOutcome (error : StorageEnvelopeError) (checkpoint : Bool) :
    OrchestrationOutcome :=
  if error.trustLost ∨ error.reason = .malformedState ∨ error.reason = .trustFailed then .trustFailed
  else if error.reason = .unsupportedRuntime then .unsupportedRuntime
  else if error.reason = .storageBusy then if checkpoint then .checkpointBusy else .storageBusy
  else if error.reason = .timedOut then .timedOut
  else .persistenceFailed

/-- `_maintenance_error_outcome` -/
def maintenanceErrorOutcome (error : MaintenanceError) : OrchestrationOutcome :=
  if error.trustLost ∨ error.reason = .malformedState ∨ error.reason = .trustFailed then .trustFailed
  else if error.reason = .storageBusy then .storageBusy
  else if error.reason = .timedOut then .timedOut
  else .persistenceFailed

/-- `_ingestion_error_outcome` -/
def ingestionErrorOutcome (error : IngestionError) : OrchestrationOutcome :=
  if error.trustLost then .trustFailed
  else match error.reason with
    | .malformedState => .trustFailed
    | .trustFailed => .trustFailed
    | .invalidProjection => .invalidObservation
    | .staleSequence => .staleSequence
    | .sequenceConflict => .sequenceConflict
    | .generationExhausted => .generationExhausted
    | .storageBusy => .storageBusy
    | .persistenceFailed => .persistenceFailed

/-- The outcome of a cycle whose ingest ended so. -/
def ingestionOutcome : IngestionOutcome → OrchestrationOutcome
  | .replayed => .replayed
  | .stateOnly => .stateOnly
  | .transitionStored => .stored
  | .heartbeatStored => .stored
  | .startupMarkerStored => .stored
  | .clockMarkerStored => .stored

/-- A storage error has an outcome that both kinds of results permit. -/
theorem storageErrorOutcome_mem (error : StorageEnvelopeError) (checkpoint : Bool) :
    storageErrorOutcome error checkpoint ∈ observationOutcomes ∧
      storageErrorOutcome error checkpoint ∈ maintenanceOutcomes := by
  unfold storageErrorOutcome
  repeat' split
  all_goals decide

theorem maintenanceErrorOutcome_mem (error : MaintenanceError) :
    maintenanceErrorOutcome error ∈ observationOutcomes ∧
      maintenanceErrorOutcome error ∈ maintenanceOutcomes := by
  unfold maintenanceErrorOutcome
  repeat' split
  all_goals decide

/-- An ingestion error has one that observations permit. -/
theorem ingestionErrorOutcome_mem (error : IngestionError) :
    ingestionErrorOutcome error ∈ observationOutcomes := by
  unfold ingestionErrorOutcome
  split
  · decide
  · split <;> decide

theorem ingestionOutcome_mem (outcome : IngestionOutcome) :
    ingestionOutcome outcome ∈ observationOutcomes := by
  cases outcome <;> decide

/-! ## Calls -/

/-- Why the scheduler refuses. -/
inductive SchedulerRejection
  | invalidConfiguration | invalidClock | invalidState | storageBusy | persistenceFailed
  | trustFailed | reentrant
deriving DecidableEq, Repr

/-- What may be raised on the way through the scheduler. -/
inductive HistoryException
  | store
  | ingestion (error : IngestionError)
  | maintenance (error : MaintenanceError)
  | envelope (error : StorageEnvelopeError)
  | orchestration (reason : OrchestrationRejection)
  | scheduler (reason : SchedulerRejection)
  /-- A `ValueError` or `TypeError`. -/
  | value (text : String)

/-- What reading the resume state may raise. -/
inductive ResumeFailure
  | store
  | query (error : QueryError)

/-- The object a clock or a cycle guard belongs to. -/
inductive Owner
  | scheduler | orchestrator
deriving DecidableEq

/-- The calls of the orchestrator and the scheduler. -/
inductive HistoryCall
  | acquire (owner : Owner)
  | monotonic (owner : Owner)
  | utcNow
  | utcNowUs
  | healthReport
  | getSchedulerResumeState
  | closeStore
  | inspectStorageCapacity
  | inspectFreeSpace
  | inspectWal
  | cleanupRetention (nowUtcUs retentionDays : Int)
  | incrementalVacuum
  | passiveWalCheckpoint
  | ingest (projection : HealthProjection)

/-- A resume state that passed its constructor. -/
abbrev ResumeState := { s : SchedulerResumeState // s.check = .ok () }

/-- What a call may answer.  A clock answers `none` when it raises or gives a value of the wrong
    type; the report supplier answers `none` when it raises, `some none` for a value of the wrong
    type. -/
def HistoryCall.Answer : HistoryCall → Type
  | acquire _ => Bool
  | monotonic _ => Option ℚ
  | utcNow => Option Datetime
  | utcNowUs => Option Int
  | healthReport => Option (Option HealthReport)
  | getSchedulerResumeState => Except ResumeFailure ResumeState
  | closeStore => Unit
  | inspectStorageCapacity => Except HistoryException StorageCapacityResult
  | inspectFreeSpace => Except HistoryException FreeSpaceResult
  | inspectWal => Except HistoryException WalInspectionResult
  | cleanupRetention _ _ => Except HistoryException RetentionCleanupResult
  | incrementalVacuum => Except HistoryException Unit
  | passiveWalCheckpoint => Except HistoryException PassiveCheckpointResult
  | ingest _ => Except HistoryException IngestionOutcome

/-- The interface they are written over. -/
def historyInterface : Interface := ⟨HistoryCall, HistoryCall.Answer⟩

/-- A program of the history service. -/
abbrev Service (α : Type) := Program historyInterface HistoryException α

/-- The calls that were made, with their answers. -/
abbrev HistoryTranscript := List (Exchange historyInterface)

namespace Service

open Program

/-- Take the lock of its owner, if it is free. -/
def acquire (owner : Owner) : Service Bool := ask (I := historyInterface) (.acquire owner)

/-- Ask the store for the pages of the database. -/
def inspectStorageCapacity : Service StorageCapacityResult :=
  invoke (I := historyInterface) .inspectStorageCapacity id

/-- Ask the store for the free bytes of the filesystem. -/
def inspectFreeSpace : Service FreeSpaceResult :=
  invoke (I := historyInterface) .inspectFreeSpace id

/-- Ask the store for the frames of the log. -/
def inspectWal : Service WalInspectionResult := invoke (I := historyInterface) .inspectWal id

/-- Let the store delete what the retention no longer keeps. -/
def cleanupRetention (nowUtcUs retentionDays : Int) : Service RetentionCleanupResult :=
  invoke (I := historyInterface) (.cleanupRetention nowUtcUs retentionDays) id

/-- Let the store give free pages back. -/
def incrementalVacuum : Service Unit := invoke (I := historyInterface) .incrementalVacuum id

/-- Let the store checkpoint its log. -/
def passiveWalCheckpoint : Service PassiveCheckpointResult :=
  invoke (I := historyInterface) .passiveWalCheckpoint id

/-- Let the store ingest a projection. -/
def ingest (projection : HealthProjection) : Service IngestionOutcome :=
  invoke (I := historyInterface) (.ingest projection) id

end Service

/-! ## The maintenance trigger -/

/-- What decides when maintenance is due. -/
structure MaintenanceTriggerState where
  startupMaintenanceCompleted : Bool
  lastCompletedMonotonic : Option ℚ
  storedRowsSinceMaintenance : Int
  rows : Bounded maxBoundedCounter storedRowsSinceMaintenance
  completed_iff : startupMaintenanceCompleted = true ↔ lastCompletedMonotonic ≠ none
  marker : ∀ m ∈ lastCompletedMonotonic, ValidMonotonic m

namespace MaintenanceTriggerState

/-- The state of a new orchestrator. -/
def initial : MaintenanceTriggerState where
  startupMaintenanceCompleted := false
  lastCompletedMonotonic := none
  storedRowsSinceMaintenance := 0
  rows := bounded_zero
  completed_iff := by decide
  marker := fun _ h => nomatch h

/-- Why maintenance is due. -/
def reason (s : MaintenanceTriggerState) (now : ℚ) : MaintenanceTriggerReason :=
  if !s.startupMaintenanceCompleted then .startup
  else if s.storedRowsSinceMaintenance ≥ storedRowsMaintenanceTrigger then .storedRows
  else if ∃ m ∈ s.lastCompletedMonotonic, now - m ≥ maintenanceIntervalSeconds then .hourly
  else .none

/-- The decision of fixed priority, without side effects. -/
def decision (s : MaintenanceTriggerState) (now : ℚ) :
    Except HistoryException MaintenanceTriggerDecision :=
  if ∃ m ∈ s.lastCompletedMonotonic, now < m then .error (.orchestration .invalidMonotonic)
  else .ok ⟨decide (s.reason now ≠ .none), s.reason now, by simp⟩

/-- Count only observations that stored history. -/
def afterObservation (s : MaintenanceTriggerState) (result : ObservationCycleResult) :
    MaintenanceTriggerState :=
  if result.outcome = .stored then
    { s with
      storedRowsSinceMaintenance := min (s.storedRowsSinceMaintenance + 1) maxBoundedCounter
      rows := by
        have := s.rows
        unfold Bounded maxBoundedCounter at *
        omega }
  else s

/-- Reset the triggers, only after a successful opportunity. -/
def afterMaintenance (s : MaintenanceTriggerState) (result : MaintenanceOpportunityResult)
    (started completed : ℚ) : Except HistoryException MaintenanceTriggerState :=
  if result.outcome ≠ .maintenanceCompleted then .ok s
  else if ¬ValidMonotonic started then .error (.orchestration .invalidMonotonic)
  else if hc : ValidMonotonic completed then
    if completed < started ∨ ∃ m ∈ s.lastCompletedMonotonic, started < m ∨ completed < m then
      .error (.orchestration .invalidMonotonic)
    else .ok {
      startupMaintenanceCompleted := true
      lastCompletedMonotonic := some completed
      storedRowsSinceMaintenance := 0
      rows := bounded_zero
      completed_iff := by simp
      marker := fun m hm => Option.some.inj hm ▸ hc }
  else .error (.orchestration .invalidMonotonic)

end MaintenanceTriggerState

/-! ## The orchestrator -/

/-- `HealthHistoryOrchestrator`, with the state its lock protects. -/
structure HealthHistoryOrchestrator where
  retentionDays : Int
  triggerState : MaintenanceTriggerState
  retention : minRetentionDays ≤ retentionDays ∧ retentionDays ≤ maxRetentionDays

namespace HealthHistoryOrchestrator

open Program Service

/-- `_read_monotonic` -/
def readMonotonic : Service ℚ :=
  invoke (I := historyInterface) (.monotonic .orchestrator) fun (value : Option ℚ) =>
    match value with
    | some m => if ValidMonotonic m then .ok m else .error (.orchestration .invalidMonotonic)
    | none => .error (.orchestration .invalidMonotonic)

/-- `_read_utc_now_us` -/
def readUtcNowUs : Service Int :=
  invoke (I := historyInterface) .utcNowUs fun (value : Option Int) =>
    match value with
    | some t =>
      if Bounded maxTimestampUs t then .ok t else .error (.orchestration .invalidTriggerState)
    | none => .error (.orchestration .invalidTriggerState)

/-- Inspect the store and decide, or end the observation. -/
def inspectStorage (attempted : Bool) :
    Service (Except ObservationCycleResult StorageDecisionOutcome) := do
  match ← catching (do
    let capacity ← inspectStorageCapacity
    let freeSpace ← inspectFreeSpace
    let wal ← inspectWal
    return (decideStorageAction capacity freeSpace wal attempted).outcome) with
  | .ok decision => return .ok decision
  | .error (.envelope e) =>
    return .error ⟨storageErrorOutcome e false, false, (storageErrorOutcome_mem e false).1⟩
  | .error .store => return .error ⟨.trustFailed, false, by decide⟩
  | .error (.value _) => return .error ⟨.trustFailed, false, by decide⟩
  | .error e => raise e

/-- One checkpoint; `some` ends the observation. -/
def checkpointBeforeIngestion : Service (Option ObservationCycleResult) := do
  match ← catching passiveWalCheckpoint with
  | .error (.envelope e) =>
    return some ⟨storageErrorOutcome e true, true, (storageErrorOutcome_mem e true).1⟩
  | .error .store => return some ⟨.trustFailed, true, by decide⟩
  | .error e => raise e
  | .ok checkpoint =>
    match checkpoint.outcome with
    | .busy => return some ⟨.checkpointBusy, true, by decide⟩
    | .oversizeBlocked => return some ⟨.walOversizeBlocked, true, by decide⟩
    | _ => return none

/-- Ingest the projection, and say how that went. -/
def ingestOnce (projection : HealthProjection) (storageMaintenanceAttempted : Bool) :
    Service ObservationCycleResult := do
  match ← catching (Service.ingest projection) with
  | .error (.ingestion e) =>
    return ⟨ingestionErrorOutcome e, storageMaintenanceAttempted, ingestionErrorOutcome_mem e⟩
  | .error .store => return ⟨.trustFailed, storageMaintenanceAttempted, by decide⟩
  | .error e => raise e
  | .ok outcome =>
    return ⟨ingestionOutcome outcome, storageMaintenanceAttempted, ingestionOutcome_mem outcome⟩

/-- What follows from the storage decision that was made last. -/
def finishObservationDecision (projection : HealthProjection) (decision : StorageDecisionOutcome)
    (capacityMaintenanceAttempted : Bool) : Service ObservationCycleResult :=
  match decision with
  | .capacityBlocked => return ⟨.capacityBlocked, capacityMaintenanceAttempted, by decide⟩
  | .capacityMaintenanceRequired =>
    return ⟨.capacityBlocked, capacityMaintenanceAttempted, by decide⟩
  | .walOversizeBlocked => return ⟨.walOversizeBlocked, capacityMaintenanceAttempted, by decide⟩
  | .walCheckpointDue => do
    match ← checkpointBeforeIngestion with
    | some result => return result
    | none =>
      match ← inspectStorage capacityMaintenanceAttempted with
      | .error result => return ⟨result.outcome, true, result.permitted⟩
      | .ok .walCheckpointDue => return ⟨.checkpointIncomplete, true, by decide⟩
      | .ok .capacityBlocked => return ⟨.capacityBlocked, true, by decide⟩
      | .ok .capacityMaintenanceRequired => return ⟨.capacityBlocked, true, by decide⟩
      | .ok .walOversizeBlocked => return ⟨.walOversizeBlocked, true, by decide⟩
      | .ok .proceed => ingestOnce projection true
  | .proceed => ingestOnce projection capacityMaintenanceAttempted

/-- One cleanup and one vacuum. -/
def cleanAndVacuum (o : HealthHistoryOrchestrator) (nowUtcUs : Int) : Service Unit := do
  let _ ← Service.cleanupRetention nowUtcUs o.retentionDays
  incrementalVacuum

/-- The body of an observation, inside the guard. -/
def observe (o : HealthHistoryOrchestrator) (projection : HealthProjection) :
    Service ObservationCycleResult := do
  match ← inspectStorage false with
  | .error result => return result
  | .ok .walOversizeBlocked => return ⟨.walOversizeBlocked, false, by decide⟩
  | .ok .capacityMaintenanceRequired =>
    match ← catching readUtcNowUs with
    | .error _ => return ⟨.invalidClock, false, by decide⟩
    | .ok nowUtcUs =>
      match ← catching (o.cleanAndVacuum nowUtcUs) with
      | .error (.maintenance e) =>
        return ⟨maintenanceErrorOutcome e, true, (maintenanceErrorOutcome_mem e).1⟩
      | .error .store => return ⟨.trustFailed, true, by decide⟩
      | .error e => raise e
      | .ok _ =>
        match ← inspectStorage true with
        | .error result => return ⟨result.outcome, true, result.permitted⟩
        | .ok decision => finishObservationDecision projection decision true
  | .ok decision => finishObservationDecision projection decision false

/-- Run one observation without retry. -/
def processObservation (o : HealthHistoryOrchestrator) (projection : HealthProjection) :
    Service (ObservationCycleResult × HealthHistoryOrchestrator) := do
  if ← acquire .orchestrator then
    let result ← o.observe projection
    return (result, { o with triggerState := o.triggerState.afterObservation result })
  else return (⟨.reentrant, false, by decide⟩, o)

/-- Evaluate the trigger without scheduling it. -/
def maintenanceTrigger (o : HealthHistoryOrchestrator) : Service MaintenanceTriggerDecision := do
  if ← acquire .orchestrator then
    ofExcept (o.triggerState.decision (← readMonotonic))
  else raise (.orchestration .reentrant)

/-- The checkpoint at the end of a maintenance opportunity, when the log needs one. -/
def checkpointMaintenance : Service MaintenanceOpportunityResult := do
  match ← catching passiveWalCheckpoint with
  | .error (.envelope e) =>
    return ⟨storageErrorOutcome e true, (storageErrorOutcome_mem e true).2⟩
  | .error .store => return ⟨.trustFailed, by decide⟩
  | .error e => raise e
  | .ok checkpoint =>
    match checkpoint.outcome with
    | .busy => return ⟨.checkpointBusy, by decide⟩
    | .oversizeBlocked => return ⟨.walOversizeBlocked, by decide⟩
    | _ => return ⟨.maintenanceCompleted, by decide⟩

/-- The body of a maintenance opportunity: clean up, vacuum, and checkpoint when it is due. -/
def maintain (o : HealthHistoryOrchestrator) : Service MaintenanceOpportunityResult := do
  match ← catching readUtcNowUs with
  | .error _ => return ⟨.invalidClock, by decide⟩
  | .ok nowUtcUs =>
    match ← catching (o.cleanAndVacuum nowUtcUs) with
    | .error (.maintenance e) =>
      return ⟨maintenanceErrorOutcome e, (maintenanceErrorOutcome_mem e).2⟩
    | .error .store => return ⟨.trustFailed, by decide⟩
    | .error e => raise e
    | .ok _ =>
      match ← catching inspectWal with
      | .error (.envelope e) =>
        return ⟨storageErrorOutcome e false, (storageErrorOutcome_mem e false).2⟩
      | .error .store => return ⟨.trustFailed, by decide⟩
      | .error e => raise e
      | .ok wal =>
        if wal.oversize then return ⟨.walOversizeBlocked, by decide⟩
        else if wal.checkpointDue then checkpointMaintenance
        else return ⟨.maintenanceCompleted, by decide⟩

/-- Re-arm the trigger after a maintenance opportunity that completed. -/
def rearm (o : HealthHistoryOrchestrator) (result : MaintenanceOpportunityResult) (started : ℚ) :
    Service (MaintenanceOpportunityResult × HealthHistoryOrchestrator) := do
  match ← catching (do ofExcept (o.triggerState.afterMaintenance result started (← readMonotonic)))
    with
  | .error _ => return (⟨.invalidClock, by decide⟩, o)
  | .ok trigger => return (result, { o with triggerState := trigger })

/-- Run one maintenance opportunity. -/
def runMaintenanceOpportunity (o : HealthHistoryOrchestrator) :
    Service (MaintenanceOpportunityResult × HealthHistoryOrchestrator) := do
  if ← acquire .orchestrator then
    match ← catching readMonotonic with
    | .error _ => return (⟨.invalidClock, by decide⟩, o)
    | .ok started =>
      if ∃ m ∈ o.triggerState.lastCompletedMonotonic, started < m then
        return (⟨.invalidClock, by decide⟩, o)
      else
        let result ← o.maintain
        if result.outcome = .maintenanceCompleted then o.rearm result started
        else return (result, o)
  else return (⟨.reentrant, by decide⟩, o)

end HealthHistoryOrchestrator

end Aurora.HealthHistory
