/-
  Retention cleanup: delete at most 500 rows that are past the retention time, in one transaction.

  `retentionPlan` reads and checks the candidates and lists the deletions; `executeRetentionPlan`
  performs them one by one.  A deadline is checked between the steps; `checkDeadline` is the point at
  which it can stop the transaction.
-/
import Aurora.HealthHistory.Queries
import Aurora.HealthHistory.IngestionTransaction

namespace Aurora.HealthHistory

/-- The retention that is configured by default. -/
def defaultRetentionDays : Int := 30
/-- The shortest retention. -/
def minRetentionDays : Int := 1
/-- The longest retention. -/
def maxRetentionDays : Int := 365

theorem retention_thirty : minRetentionDays ≤ 30 ∧ 30 ≤ maxRetentionDays := by decide

/-- The most rows one cleanup deletes. -/
def retentionRowBudget : Nat := 500
/-- A day, in microseconds. -/
def microsecondsPerDay : Int := 86400000000

/-- Whether a cleanup had anything to delete. -/
inductive MaintenanceOutcome
  | noWork | completed
deriving DecidableEq, Repr

/-- What a cleanup deleted. -/
structure RetentionCleanupResult where
  outcome : MaintenanceOutcome
  healthSamplesDeleted : Nat
  alertEventsDeleted : Nat
  alertsDeleted : Nat
deriving DecidableEq

/-- The rows a cleanup deleted itself. -/
def RetentionCleanupResult.logicalRowsDeleted (r : RetentionCleanupResult) : Nat :=
  r.healthSamplesDeleted + r.alertEventsDeleted + r.alertsDeleted

/-- The constructor's check. -/
def RetentionCleanupResult.check (r : RetentionCleanupResult) : Except String Unit :=
  require "invalid_cleanup_result" (r.logicalRowsDeleted ≤ retentionRowBudget ∧
    (r.outcome = .noWork → r.logicalRowsDeleted = 0) ∧
    (r.outcome = .completed → r.logicalRowsDeleted ≠ 0))

namespace Maintenance

/-! ## The plan -/

/-- What a candidate is. -/
inductive CandidateKind
  | health | alert
deriving DecidableEq

/-- Samples come before alerts of the same time. -/
def CandidateKind.typeOrder : CandidateKind → Int
  | health => 0
  | alert => 1

/-- A row that is old enough to go, with what goes with it. -/
structure RetentionCandidate where
  retainedAtUtcUs : Int
  kind : CandidateKind
  rowId : Int
deriving DecidableEq

/-- The sort key `(retained_at_utc_us, type_order, row_id)`. -/
def byRetention (a b : RetentionCandidate) : Prop :=
  a.retainedAtUtcUs < b.retainedAtUtcUs ∨ a.retainedAtUtcUs = b.retainedAtUtcUs ∧
    (a.kind.typeOrder < b.kind.typeOrder ∨ a.kind.typeOrder = b.kind.typeOrder ∧
      a.rowId ≤ b.rowId)

instance : DecidableRel byRetention := fun _ _ =>
  inferInstanceAs (Decidable (_ ∨ _ ∧ (_ ∨ _ ∧ _)))

/-- One deletion of a plan. -/
inductive DeletionAction
  | health (rowId : Int)
  | event (rowId parentAlertId : Int)
  | alert (rowId : Int)
deriving DecidableEq

/-- A row that cannot be trusted. -/
def malformed : Raised := .maintenance .malformedState

/-- `deadline.check()` -/
def checkDeadline : Transaction Unit := Script.pollOnce (.maintenance ⟨.timedOut, false⟩)

/-- The check of a row that was read, or the malformed state. -/
def trust (p : Prop) [Decidable p] : Except Raised Unit := require malformed p

/-- The samples before the cutoff, oldest first. -/
def selectHealthCandidates (cutoff : Int) (db : Database) : List HealthSampleRow :=
  ((db.samples.rows.filter fun r => r.observedAtUtcUs < cutoff).insertionSort
    (oldestFirst Queries.samplePosition)).take retentionRowBudget

/-- The alert is archived, and its recovery is past the cutoff. -/
def Expired (cutoff : Int) (r : AlertRow) : Prop :=
  r.lifecycle = .archived ∧ ∃ t ∈ r.recoveredAtUtcUs, t < cutoff

instance (cutoff : Int) (r : AlertRow) : Decidable (Expired cutoff r) :=
  inferInstanceAs (Decidable (_ ∧ ∃ t ∈ r.recoveredAtUtcUs, _))

/-- Where an archived alert stands among the candidates. -/
def recoveryPosition (r : AlertRow) : Int × Int := (r.recoveredAtUtcUs.getD 0, r.id)

/-- The archived alerts before the cutoff, oldest first. -/
def selectAlertCandidates (cutoff : Int) (db : Database) : List AlertRow :=
  ((db.alerts.rows.filter fun r => Expired cutoff r).insertionSort
    (oldestFirst recoveryPosition)).take retentionRowBudget

/-- The candidate of a sample, once its row was checked. -/
def healthCandidate (cutoff : Int) (row : HealthSampleRow) : Transaction RetentionCandidate := do
  checkDeadline
  let record ← Queries.healthSampleRecord row
  checkDeadline
  attempt (trust (record.observedAtUtcUs < cutoff))
  return ⟨record.observedAtUtcUs, .health, record.id⟩

/-- The candidate of an alert, once its row and its events were checked. -/
def alertCandidate (cutoff : Int) (row : AlertRow) : Transaction RetentionCandidate := do
  checkDeadline
  let record ← Queries.alertRecord row
  checkDeadline
  attempt (trust (Expired cutoff record))
  return ⟨record.recoveredAtUtcUs.getD 0, .alert, record.id⟩

/-- The events of an alert, oldest first, one more than may be deleted. -/
def selectEventCandidates (alertId : Int) (limit : Nat) (db : Database) : List AlertEventRow :=
  ((db.events.rows.filter fun e => e.alertId = alertId).insertionSort
    (oldestFirst Queries.eventPosition)).take limit

/-- The deletions for one alert: as many of its events as the budget allows, and the alert itself if
    that is all of them. -/
def alertActions (alertId : Int) (remaining : Nat) (events : List AlertEventRow) :
    List DeletionAction :=
  let selected := (events.take remaining).map fun e => DeletionAction.event e.id alertId
  if events.length ≤ remaining ∧ selected.length < remaining then selected ++ [.alert alertId]
  else selected

/-- One event of an alert that is to go. -/
def readEvent (alertId : Int) (row : AlertEventRow) : Transaction AlertEventRow := do
  checkDeadline
  let record ← Queries.alertEventRecord alertId row
  checkDeadline
  return record

/-- Turn candidates into deletions until the budget is used up. -/
def planActions : List RetentionCandidate → List DeletionAction → Transaction (List DeletionAction)
  | [], actions => return actions
  | candidate :: rest, actions => do
    checkDeadline
    let remaining := retentionRowBudget - actions.length
    if remaining = 0 then return actions
    else
      match candidate.kind with
      | .health => planActions rest (actions ++ [.health candidate.rowId])
      | .alert => do
        checkDeadline
        let rows ← select (selectEventCandidates candidate.rowId (remaining + 1))
        checkDeadline
        let events ← rows.mapM (readEvent candidate.rowId)
        (events.take remaining).forM fun _ => checkDeadline
        planActions rest (actions ++ alertActions candidate.rowId remaining events)

/-- `_retention_plan` -/
def retentionPlan (cutoff : Int) : Transaction (List DeletionAction) := do
  let healthRows ← select (selectHealthCandidates cutoff)
  checkDeadline
  let alertRows ← select (selectAlertCandidates cutoff)
  checkDeadline
  let health ← healthRows.mapM (healthCandidate cutoff)
  let alerts ← alertRows.mapM (alertCandidate cutoff)
  checkDeadline
  let candidates := (health ++ alerts).insertionSort byRetention
  checkDeadline
  let actions ← planActions candidates []
  attempt (trust (actions.length ≤ retentionRowBudget))
  return actions

/-! ## The deletions -/

/-- `ON DELETE SET NULL` -/
def clearReference (deleted : Int) (reference : Option Int) : Option Int :=
  if reference = some deleted then none else reference

/-- What the deletion of a sample leaves of an alert, -/
def clearAlert (deleted : Int) (r : AlertRow) : AlertRow :=
  { r with
    firstSampleId := clearReference deleted r.firstSampleId
    latestSampleId := clearReference deleted r.latestSampleId }

/-- of an evaluator row, -/
def clearEvaluation (deleted : Int) (r : EvaluationStateRow) : EvaluationStateRow :=
  { r with lastSampleId := clearReference deleted r.lastSampleId }

/-- and of an event. -/
def clearEvent (deleted : Int) (e : AlertEventRow) : AlertEventRow :=
  { e with supportingSampleId := clearReference deleted e.supportingSampleId }

/-- The tables without a sample: its components go with it, and references to it become `NULL`. -/
def withoutSample (t : Tables) (deleted : Int) : Tables :=
  { t with
    samples := t.samples.delete fun r => r.id = deleted
    components := t.components.filter fun r => r.sampleId ≠ deleted
    alerts := t.alerts.update (fun _ => true) (clearAlert deleted) fun _ => rfl
    evaluation := fun s => (t.evaluation s).map (clearEvaluation deleted)
    events := t.events.update (fun _ => true) (clearEvent deleted) fun _ => rfl }

/-- The tables without an event. -/
def withoutEvent (t : Tables) (deleted : Int) : Tables :=
  { t with events := t.events.delete fun e => e.id = deleted }

/-- The tables without an alert: its events go with it. -/
def withoutAlert (t : Tables) (deleted : Int) : Tables :=
  { t with
    alerts := t.alerts.delete fun r => r.id = deleted
    events := t.events.delete fun e => e.alertId = deleted }

/-- A `DELETE` of at most one row: the number of rows deleted. -/
def deleteOne (db : Database) (found : Prop) [Decidable found] (tables : Tables) :
    Except SqliteError (Nat × Database) :=
  if found then (db.write tables).map fun db' => (1, db') else .ok (0, db)

/-- Delete a sample that is old enough. -/
def deleteHealthSample (rowId cutoff : Int) (db : Database) :
    Except SqliteError (Nat × Database) :=
  deleteOne db (∃ r ∈ db.samples.rows, r.id = rowId ∧ r.observedAtUtcUs < cutoff)
    (withoutSample db.toTables rowId)

/-- Delete one event of an alert. -/
def deleteAlertEvent (rowId alertId : Int) (db : Database) : Except SqliteError (Nat × Database) :=
  deleteOne db (∃ e ∈ db.events.rows, e.id = rowId ∧ e.alertId = alertId)
    (withoutEvent db.toTables rowId)

/-- Delete an archived alert that is old enough. -/
def deleteArchivedAlert (rowId cutoff : Int) (db : Database) :
    Except SqliteError (Nat × Database) :=
  deleteOne db (∃ r ∈ db.alerts.rows, r.id = rowId ∧ Expired cutoff r)
    (withoutAlert db.toTables rowId)

/-- The alert still has an event. -/
def hasEvents (alertId : Int) (db : Database) : Bool :=
  db.events.rows.any fun e => e.alertId = alertId

/-- Carry one deletion out; it must hit exactly one row. -/
def executeAction (cutoff : Int) (action : DeletionAction) : Transaction Unit := do
  checkDeadline
  let rowcount ← match action with
    | .health rowId => execute (deleteHealthSample rowId cutoff)
    | .event rowId alertId => execute (deleteAlertEvent rowId alertId)
    | .alert rowId => do
      attempt (trust ((← select (hasEvents rowId)) = false))
      execute (deleteArchivedAlert rowId cutoff)
  attempt (trust (rowcount = 1))

/-- How many samples, events and alerts a plan deletes. -/
def countActions (actions : List DeletionAction) : Nat × Nat × Nat :=
  (actions.countP fun | .health _ => true | _ => false,
    actions.countP fun | .event _ _ => true | _ => false,
    actions.countP fun | .alert _ => true | _ => false)

/-- `_execute_retention_plan` -/
def executeRetentionPlan (actions : List DeletionAction) (cutoff : Int) :
    Transaction (Nat × Nat × Nat) := do
  actions.forM (executeAction cutoff)
  return countActions actions

/-! ## The transaction -/

/-- Everything between BEGIN and COMMIT. -/
def retain (cutoff : Int) : Transaction (Nat × Nat × Nat) := do
  let plan ← retentionPlan cutoff
  let counts ← executeRetentionPlan plan cutoff
  checkDeadline
  return counts

open Script (Faults)

/-- The result for these counts. -/
def cleanupResult (counts : Nat × Nat × Nat) : RetentionCleanupResult where
  outcome := if counts.1 + counts.2.1 + counts.2.2 = 0 then .noWork else .completed
  healthSamplesDeleted := counts.1
  alertEventsDeleted := counts.2.1
  alertsDeleted := counts.2.2

/-- What the handlers raise for an error of the `try` block; `expired` is the deadline's flag. -/
def maintenanceFailure (expired : Bool) : Raised → MaintenanceError
  | .maintenance e => e
  | .query e => if e.reason = .malformedState then .malformedState else .trustFailed
  | .sqlite e => .classifiedSqliteError e expired
  | _ => .malformedState

/-- The handlers of a started transaction: roll back, then raise. -/
def rollbackFailure (F : Faults SqliteError) (expired : Bool) (e : Raised)
    (c : Connection Database) : Except MaintenanceError RetentionCleanupResult × Connection Database :=
  match c.rollback Raised.sqlite F with
  | (.error _, c) => (.error .trustFailed, c)
  | (.ok _, c) => (.error (maintenanceFailure expired e), c)

/-- After COMMIT: one more look at the deadline, and the checked result. -/
def finishCleanup (F : Faults SqliteError) (counts : Nat × Nat × Nat) (c : Connection Database) :
    Except MaintenanceError RetentionCleanupResult × Connection Database :=
  if F.poll c.cursor.polls then (.error ⟨.timedOut, false⟩, c)
  else
    match (cleanupResult counts).check with
    | .error _ => (.error .malformedState, c)
    | .ok _ => (.ok (cleanupResult counts), c)

/-- `_retention_cutoff` -/
def retentionCutoff (nowUtcUs retentionDays : Int) : Except MaintenanceError Int :=
  if Bounded maxTimestampUs nowUtcUs then
    if minRetentionDays ≤ retentionDays ∧ retentionDays ≤ maxRetentionDays then
      .ok (nowUtcUs - retentionDays * microsecondsPerDay)
    else .error ⟨.invalidMaintenance, false⟩
  else .error ⟨.invalidMaintenance, false⟩

/-- `_cleanup_retention` -/
def cleanupRetention (F : Faults SqliteError) (expired : Bool) (db : Database)
    (nowUtcUs retentionDays : Int) :
    Except MaintenanceError RetentionCleanupResult × Connection Database :=
  match retentionCutoff nowUtcUs retentionDays with
  | .error e => (.error e, { durable := db })
  | .ok cutoff =>
    match ({ durable := db } : Connection Database).begin Raised.sqlite F with
    | (.error e, c) => (.error (maintenanceFailure expired e), c)
    | (.ok _, c) =>
      match c.execute Raised.sqlite F (retain cutoff) with
      | (.error e, c) => rollbackFailure F expired e c
      | (.ok counts, c) =>
        match c.commit Raised.sqlite F with
        | (.error e, c) => rollbackFailure F expired e c
        | (.ok _, c) => finishCleanup F counts c

/-- One call without faults and before the deadline. -/
def cleanup (db : Database) (nowUtcUs retentionDays : Int) :
    Except MaintenanceError RetentionCleanupResult × Database :=
  let (result, c) := cleanupRetention Faults.none false db nowUtcUs retentionDays
  (result, c.durable)

end Maintenance

end Aurora.HealthHistory
