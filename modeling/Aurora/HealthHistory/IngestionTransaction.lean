/-
  The writing half of ingestion, and the transaction around all of it.

  Each statement computes the new rows and hands them to `Database.write`.  `ingestAttempt` is the
  body of the source's `try` block on a connection that can fail at BEGIN, at any statement, at
  COMMIT and at ROLLBACK; `ingestProjection` adds the handlers.
-/
import Aurora.HealthHistory.Ingestion

namespace Aurora.HealthHistory.Ingestion

/-! ## Statements -/

/-- The result of an `INSERT`: the new row identifier. -/
def inserted {ρ : Type} {key : ρ → Int} (db : Database) (result : Option (Int × Table key))
    (tables : Table key → Tables) : Except SqliteError (Int × Database) :=
  match result with
  | none => .error .full
  | some (id, table) => (db.write (tables table)).map fun db' => (id, db')

/-- The sample of a projection. -/
def sampleRow (projection : HealthProjection) (storedKind : SampleKind) (id : Int) :
    HealthSampleRow where
  id := id
  observationSequence := projection.observationSequence
  observedAtUtcUs := projection.observedAtUtcUs
  recordedAtUtcUs := projection.recordedAtUtcUs
  overallStatus := projection.overallStatus
  serviceUptimeMs := projection.serviceUptimeMs
  sampleKind := storedKind
  acceptedSampleKind := projection.sampleKind
  projectionDigest := projection.digest
  missedIntervals := projection.missedIntervals

/-- Insert it under the next identifier. -/
def insertSampleRow (projection : HealthProjection) (storedKind : SampleKind) (db : Database) :
    Except SqliteError (Int × Database) :=
  inserted db (db.samples.insertNext maxRowid (sampleRow projection storedKind) fun _ => rfl)
    fun samples => { db.toTables with samples := samples }

/-- `_insert_health_sample` -/
def insertHealthSample (projection : HealthProjection) (storedKind : SampleKind) :
    Transaction Int := do
  let id ← execute (insertSampleRow projection storedKind)
  if id < 1 then raiseIngestion ⟨.persistenceFailed, false⟩ else return id

/-- The row of one component; the first reason is there once the projection is validated. -/
def componentRow (sampleId : Int) (component : ComponentProjection) :
    Except Raised ComponentSampleRow :=
  match component.reasons with
  | [] => .error (.value "IndexError")
  | reason :: more => .ok {
      sampleId := sampleId
      component := component.component
      status := component.status
      reasonCode1 := reason
      reasonCode2 := more[0]?
      reasonCode3 := more[1]?
      checkedAtUtcUs := component.checkedAtUtcUs
      latencyMs := component.latencyMs
      lastSuccessfulAtUtcUs := component.lastSuccessfulAtUtcUs }

/-- Insert one component. -/
def insertComponentRow (row : ComponentSampleRow) (db : Database) :
    Except SqliteError (Unit × Database) :=
  (db.write { db.toTables with components := db.components ++ [row] }).map fun db' => ((), db')

/-- Insert the components of a sample. -/
def insertComponentSamples (sampleId : Int) (components : List ComponentProjection) :
    Transaction Unit :=
  components.forM fun component => do
    let row ← attempt (componentRow sampleId component)
    execute (insertComponentRow row)

/-- `UPDATE evaluation_state SET … WHERE scope = ?`, with the number of rows changed. -/
def updateEvaluationRow (scope : AlertScope) (f : EvaluationStateRow → EvaluationStateRow)
    (db : Database) : Except SqliteError (Nat × Database) :=
  (db.write { db.toTables with
    evaluation := Function.update db.evaluation scope ((db.evaluation scope).map f) }).map
      fun db' => ((db.evaluation scope).toList.length, db')

/-- Exactly one row was changed. -/
def expectOneRow (rowcount : Nat) : Transaction Unit := attempt (trust (rowcount = 1))

/-- Write the state of one health evaluator. -/
def writeHealthRow (previous : EvaluationRows) (sampleId heartbeatAt : Option Int)
    (entry : AlertScope × HealthEvaluationTransition) : Transaction Unit := do
  let row := previous entry.1
  let rowcount ← execute (updateEvaluationRow entry.1 fun r => { r with
    currentStatus := entry.2.state.currentStatus
    candidateStatus := entry.2.state.candidateStatus
    consecutiveCount := entry.2.state.consecutiveCount
    lastSampleId := sampleId <|> row.lastSampleId
    lastHeartbeatAtUtcUs := heartbeatAt <|> row.lastHeartbeatAtUtcUs })
  expectOneRow rowcount

/-- `_write_evaluation_rows` -/
def writeEvaluationRows (previous : EvaluationRows)
    (health : List (AlertScope × HealthEvaluationTransition)) (gap : SamplingGapTransition)
    (sampleId heartbeatAt : Option Int) : Transaction Unit := do
  health.forM (writeHealthRow previous sampleId heartbeatAt)
  let sampling := previous .sampling
  let rowcount ← execute (updateEvaluationRow .sampling fun r => { r with
    consecutiveCount := gap.state.largestMissedIntervalReport
    lastSampleId := sampleId <|> sampling.lastSampleId
    lastHeartbeatAtUtcUs := heartbeatAt <|> sampling.lastHeartbeatAtUtcUs
    gapPhase := gap.state.phase })
  expectOneRow rowcount

/-! ## Writing alerts -/

/-- The row of a new alert. -/
def alertRow (state : AutomaticAlertState) (now sampleId : Int) (id : Int) : AlertRow where
  id := id
  scope := state.scope
  kind := state.kind
  lifecycle := .open
  severity := if state.kind = .degraded then .degraded else .unavailable
  openedAtUtcUs := now
  acknowledgedAtUtcUs := none
  recoveredAtUtcUs := none
  archivedAtUtcUs := none
  firstSampleId := some sampleId
  latestSampleId := some sampleId
  episodeCount := state.generation
  occurrenceCount := state.occurrenceCount
  cooldownUntilUtcUs := state.cooldownUntilUtcUs

/-- Insert it under the next identifier. -/
def insertAlertRow (state : AutomaticAlertState) (now sampleId : Int) (db : Database) :
    Except SqliteError (Int × Database) :=
  inserted db (db.alerts.insertNext maxRowid (alertRow state now sampleId) fun _ => rfl)
    fun alerts => { db.toTables with alerts := alerts }

/-- `_insert_alert` -/
def insertAlert (state : AutomaticAlertState) (now sampleId : Int) : Transaction Int := do
  let id ← execute (insertAlertRow state now sampleId)
  if id < 1 then raiseIngestion ⟨.persistenceFailed, false⟩ else return id

/-- The row of an event. -/
def eventRow (alertId : Int) (event : LifecycleEvent) (now : Int) (sampleId : Option Int)
    (lifecycle : AlertLifecycle) (id : Int) : AlertEventRow :=
  ⟨id, alertId, event, now, sampleId, lifecycle⟩

/-- Insert it under the next identifier. -/
def insertEventRow (alertId : Int) (event : LifecycleEvent) (now : Int) (sampleId : Option Int)
    (lifecycle : AlertLifecycle) (db : Database) : Except SqliteError (Int × Database) :=
  inserted db (db.events.insertNext maxRowid (eventRow alertId event now sampleId lifecycle)
    fun _ => rfl) fun events => { db.toTables with events := events }

/-- An `INSERT` that returns changed one row. -/
def insertAlertEvent (alertId : Int) (event : LifecycleEvent) (now : Int) (sampleId : Option Int)
    (lifecycle : AlertLifecycle) : Transaction Unit := do
  let _ ← execute (insertEventRow alertId event now sampleId lifecycle)
  return ()

/-- What an update statement changes of an alert row. -/
def updatedAlert (event : LifecycleEvent) (state : AutomaticAlertState) (now : Int)
    (sampleId : Option Int) (row : AlertRow) : AlertRow :=
  match event with
  | .occurrenceUpdated => { row with
      occurrenceCount := state.occurrenceCount
      cooldownUntilUtcUs := state.cooldownUntilUtcUs
      latestSampleId := sampleId <|> row.latestSampleId }
  | .recovered => { row with
      lifecycle := .recovered
      recoveredAtUtcUs := state.recoveredAtUtcUs
      cooldownUntilUtcUs := state.cooldownUntilUtcUs
      latestSampleId := sampleId }
  | .archived => { row with
      lifecycle := .archived
      archivedAtUtcUs := some now }
  | _ => row

theorem updatedAlert_id (event : LifecycleEvent) (state : AutomaticAlertState) (now : Int)
    (sampleId : Option Int) (row : AlertRow) :
    (updatedAlert event state now sampleId row).id = row.id := by
  cases event <;> rfl

/-- Write what an event makes of an alert. -/
def updateAlertRow (alertId : Int) (event : LifecycleEvent) (state : AutomaticAlertState)
    (now : Int) (sampleId : Option Int) (db : Database) : Except SqliteError (Nat × Database) :=
  (db.write { db.toTables with
    alerts := db.alerts.update (fun r => r.id = alertId) (updatedAlert event state now sampleId)
      (updatedAlert_id event state now sampleId) }).map
        fun db' => ((db.alerts.rows.filter fun r => r.id = alertId).length, db')

/-- Open the alert a plan creates. -/
def persistCreated (created : AutomaticAlertState) (now : Int) (supportingSampleId : Option Int) :
    Transaction Unit :=
  match supportingSampleId with
  | none => attempt malformed
  | some sampleId => do
    let alertId ← insertAlert created now sampleId
    insertAlertEvent alertId .opened now (some sampleId) .open

/-- Change the alert a plan names. -/
def persistUpdate (plan : AlertPlan) (now : Int) (supportingSampleId : Option Int) :
    Transaction Unit :=
  match plan.existingAlertId, plan.transition.state, plan.transition.event with
  | some alertId, some state, some event => do
    attempt (trust (event ∈ [.occurrenceUpdated, .recovered, .archived]))
    let rowcount ← execute (updateAlertRow alertId event state now supportingSampleId)
    expectOneRow rowcount
    insertAlertEvent alertId event now supportingSampleId state.lifecycle
  | _, _, _ => attempt malformed

/-- `_persist_alert_plan` -/
def persistAlertPlan (plan : AlertPlan) (now : Int) (supportingSampleId : Option Int) :
    Transaction Unit :=
  if plan.transition.outcome = .idempotent then return ()
  else do
    attempt (trust (plan.transition.outcome = .applied))
    let created :=
      if plan.transition.previous = none ∧ plan.transition.state ≠ none then
        plan.transition.state
      else plan.transition.createdAlert
    match created with
    | some state => persistCreated state now supportingSampleId
    | none => persistUpdate plan now supportingSampleId

/-- Archive one due alert. -/
def archiveAlert (now : Int) (stored : StoredAlert) : Transaction Unit := do
  let request ← attempt (construct (AutomaticAlertInput.new? .archive stored.state.scope
    stored.state.kind now none))
  persistAlertPlan ⟨some stored.alertId, evaluateAutomaticAlert (some stored.state) request⟩ now
    none

/-- Archive the due alerts one by one; no pair may come twice. -/
def archiveAlerts (now : Int) : List AlertPair → List AlertRow → Transaction Unit
  | _, [] => return ()
  | seen, row :: rows => do
    let stored ← attempt (storedAlert row)
    attempt (trust ((stored.state.scope, stored.state.kind) ∉ seen))
    archiveAlert now stored
    archiveAlerts now ((stored.state.scope, stored.state.kind) :: seen) rows

/-- `_archive_eligible_alerts` -/
def archiveEligibleAlerts (now : Int) : Transaction Unit := do
  let rows ← select (selectEligibleRecoveredAlerts now (maxRelevantAlerts + 1))
  attempt (trust (rows.length ≤ maxRelevantAlerts))
  archiveAlerts now [] rows

/-! ## Writing the checkpoint and the ledger -/

/-- The ledger row of a projection. -/
def acceptedRow (projection : HealthProjection) : AcceptedObservationRow where
  observationSequence := projection.observationSequence
  observedAtUtcUs := projection.observedAtUtcUs
  projectionDigest := projection.digest
  acceptedSampleKind := projection.sampleKind

/-- Insert it. -/
def insertReplayRow (projection : HealthProjection) (db : Database) :
    Except SqliteError (Unit × Database) :=
  match db.replay.insert (acceptedRow projection) with
  | none => .error .constraint
  | some replay => (db.write { db.toTables with replay := replay }).map fun db' => ((), db')

/-- Delete what is older than the 64th newest entry, if there is one. -/
def pruneReplayRows (db : Database) : Except SqliteError (Unit × Database) :=
  match db.replay.rows.reverse[replayLedgerCapacity - 1]? with
  | none => .ok ((), db)
  | some oldest =>
    (db.write { db.toTables with
      replay := db.replay.delete fun r => r.observationSequence < oldest.observationSequence }).map
        fun db' => ((), db')

/-- The checkpoint behind a projection. -/
def checkpointRow (projection : HealthProjection) (acceptedCount : Int) :
    IngestionCheckpointRow where
  lastCommittedSequence := some projection.observationSequence
  lastAcceptedObservedAtUtcUs := some projection.observedAtUtcUs
  lastAcceptedProjectionDigest := some projection.digest
  lastAcceptedSampleKind := some projection.sampleKind
  acceptedObservationCount := acceptedCount

/-- `trg_ingestion_checkpoint_no_regression` aborts this update. -/
def checkpointRegression (old new : IngestionCheckpointRow) : Prop :=
  new.acceptedObservationCount < old.acceptedObservationCount ∨
  (∃ last ∈ old.lastCommittedSequence, new.lastCommittedSequence = none ∨
    ∃ next ∈ new.lastCommittedSequence, next < last) ∨
  (new.lastCommittedSequence = old.lastCommittedSequence ∧
    (new.lastAcceptedObservedAtUtcUs ≠ old.lastAcceptedObservedAtUtcUs ∨
      new.lastAcceptedProjectionDigest ≠ old.lastAcceptedProjectionDigest ∨
      new.lastAcceptedSampleKind ≠ old.lastAcceptedSampleKind))

instance (old new : IngestionCheckpointRow) : Decidable (checkpointRegression old new) := by
  unfold checkpointRegression
  infer_instance

/-- Update the checkpoint if it is still the one that was read. -/
def updateCheckpoint (previous : Checkpoint) (new : IngestionCheckpointRow) (db : Database) :
    Except SqliteError (Nat × Database) :=
  match db.checkpoint with
  | none => .ok (0, db)
  | some old =>
    if old.lastCommittedSequence = previous.sequence ∧
        old.acceptedObservationCount = previous.acceptedCount then
      if checkpointRegression old new then .error .constraint
      else (db.write { db.toTables with checkpoint := some new }).map fun db' => (1, db')
    else .ok (0, db)

/-- `_write_checkpoint_and_replay_ledger` -/
def writeCheckpointAndReplayLedger (previous : Checkpoint) (projection : HealthProjection) :
    Transaction Unit := do
  attempt (trust (∀ last ∈ previous.sequence, projection.observationSequence > last))
  execute (insertReplayRow projection)
  execute pruneReplayRows
  let rowcount ← execute (updateCheckpoint previous
    (checkpointRow projection (min (previous.acceptedCount + 1) maxBoundedCounter)))
  expectOneRow rowcount

/-! ## The transaction -/

/-- Read the checkpoint and decide whether the projection is a replay. -/
def classify (projection : HealthProjection) : Transaction (Checkpoint × Bool) := do
  let checkpoint ← readCheckpoint
  validateReplayAnchor checkpoint
  let replay ← isReplayOrRejectStale checkpoint projection
  return (checkpoint, replay)

/-- What is decided before anything but archival is written. -/
structure IngestionDecision where
  rows : EvaluationRows
  health : List (AlertScope × HealthEvaluationTransition)
  gap : SamplingGapTransition
  plans : List AlertPlan
  storage : StorageDecision

/-- Archive, evaluate and plan. -/
def decideIngestion (checkpoint : Checkpoint) (projection : HealthProjection) :
    Transaction IngestionDecision := do
  let rows ← readEvaluationRows
  archiveEligibleAlerts projection.recordedAtUtcUs
  let health ← evaluateHealthScopes rows projection
  let gap ← attempt (evaluateGap rows checkpoint projection)
  let decision ← storageDecision rows checkpoint projection
  let plans ← planAutomaticAlerts health gap projection.recordedAtUtcUs
    (gapObservationHasMiss projection)
  let storage := if requiresSupportingSample plans then forceTransitionStorage decision
    else decision
  return ⟨rows, health, gap, plans, storage⟩

/-- Store the sample and its components, if a sample is to be stored. -/
def storeSample (projection : HealthProjection) : Option SampleKind → Transaction (Option Int)
  | none => return none
  | some kind => do
    let sampleId ← insertHealthSample projection kind
    insertComponentSamples sampleId projection.components
    return some sampleId

/-- Write what was decided. -/
def persistDecision (checkpoint : Checkpoint) (projection : HealthProjection)
    (d : IngestionDecision) : Transaction Unit := do
  let sampleId ← storeSample projection d.storage.storedKind
  writeEvaluationRows d.rows d.health d.gap
    (if d.storage.updatesEvaluatorBaseline then sampleId else none)
    (if sampleId.isSome then some projection.recordedAtUtcUs else none)
  d.plans.forM fun plan => persistAlertPlan plan projection.recordedAtUtcUs sampleId
  writeCheckpointAndReplayLedger checkpoint projection

/-- The transaction of a new observation, after its classification and before COMMIT. -/
def ingestAccepted (checkpoint : Checkpoint) (projection : HealthProjection) :
    Transaction IngestionOutcome := do
  let d ← decideIngestion checkpoint projection
  persistDecision checkpoint projection d
  return d.storage.outcome

/-! ## On a connection -/

open Script (Faults)

/-- The faults of the calls of one transaction. -/
abbrev SqliteFaults := Faults SqliteError

/-- `_rollback_after_failure` -/
def rollbackAfterFailure (F : SqliteFaults) (c : Connection Database) :
    Except Raised Unit × Connection Database :=
  match c.rollback Raised.sqlite F with
  | (.ok _, c) => (.ok (), c)
  | (.error _, c) => (.error (.ingestion .trustFailed), c)

/-- The state of the `try` block when it is left. -/
structure Attempt where
  result : Except Raised IngestionOutcome
  /-- The local flag `transaction_started`. -/
  started : Bool
  connection : Connection Database

/-- COMMIT after a complete ingest. -/
def commitIngest (F : SqliteFaults) (outcome : IngestionOutcome) (c : Connection Database) :
    Attempt :=
  match c.commit Raised.sqlite F with
  | (.ok _, c) => ⟨.ok outcome, false, c⟩
  | (.error e, c) => ⟨.error e, true, c⟩

/-- The body of the `try` block. -/
def ingestAttempt (F : SqliteFaults) (projection : HealthProjection) (c : Connection Database) :
    Attempt :=
  match c.begin Raised.sqlite F with
  | (.error e, c) => ⟨.error e, false, c⟩
  | (.ok _, c) =>
    match c.execute Raised.sqlite F (classify projection) with
    | (.error e, c) => ⟨.error e, true, c⟩
    | (.ok (_, true), c) =>
      -- a replay: the rollback of its transaction is inside the `try` block
      match rollbackAfterFailure F c with
      | (.error e, c) => ⟨.error e, true, c⟩
      | (.ok _, c) => ⟨.ok .replayed, false, c⟩
    | (.ok (checkpoint, false), c) =>
      match c.execute Raised.sqlite F (ingestAccepted checkpoint projection) with
      | (.error e, c) => ⟨.error e, true, c⟩
      | (.ok outcome, c) => commitIngest F outcome c

/-- What the handlers raise for an error of the `try` block. -/
def ingestionFailure : Raised → IngestionError
  | .ingestion e => e
  | .sqlite e => .classifiedSqliteError e
  | _ => .malformedState

/-- The handlers: roll back a started transaction, then raise. -/
def handleFailure (F : SqliteFaults) (a : Attempt) (e : Raised) :
    Except IngestionError IngestionOutcome × Connection Database :=
  if a.started then
    match rollbackAfterFailure F a.connection with
    | (.ok _, c) => (.error (ingestionFailure e), c)
    | (.error e', c) => (.error (ingestionFailure e'), c)
  else (.error (ingestionFailure e), a.connection)

/-- Persist one observation in one write transaction, under a fault schedule. -/
def ingestProjection (F : SqliteFaults) (db : Database) (projection : HealthProjection) :
    Except IngestionError IngestionOutcome × Connection Database :=
  match validateHealthProjection projection with
  | .error _ => (.error ⟨.invalidProjection, false⟩, { durable := db })
  | .ok _ =>
    let a := ingestAttempt F projection { durable := db }
    match a.result with
    | .ok outcome => (.ok outcome, a.connection)
    | .error e => handleFailure F a e

/-- One call without faults: its result and the database after it. -/
def ingest (db : Database) (projection : HealthProjection) :
    Except IngestionError IngestionOutcome × Database :=
  let (result, c) := ingestProjection Faults.none db projection
  (result, c.durable)

end Aurora.HealthHistory.Ingestion
