/-
  Bounded read-only queries.

  Every row that is read is checked again: a sample with its components has to be a valid
  projection, an alert's fields and times have to fit together, and each reference has to name a
  stored sample.  A failed check means malformed state, and trust in the store is lost.
-/
import Aurora.HealthHistory.Ingestion

namespace Aurora.HealthHistory

/-- The largest page of samples. -/
def maxHealthSamplePageSize : Int := 100
/-- The largest page of alerts. -/
def maxAlertPageSize : Int := 100
/-- The largest page of events. -/
def maxAlertEventPageSize : Int := 100

namespace Queries

/-! ## Checks -/

/-- `_positive_id` -/
def positiveId (value : Int) : Except String Unit :=
  require "invalid_id" (Positive maxObservationSequence value)

/-- `_bounded_integer` -/
def boundedInteger (maximum value : Int) : Except String Unit :=
  require "invalid_integer" (Bounded maximum value)

/-- A counter that has started. -/
def boundedPositiveCounter (value : Int) : Except String Unit :=
  require "invalid_counter" (Positive maxBoundedCounter value)

/-- A check of a value that may be absent. -/
def unlessNone (check : Int → Except String Unit) : Option Int → Except String Unit
  | none => .ok ()
  | some value => check value

/-- A `ValueError` in a reader means malformed state. -/
def trusted {α : Type} : Except String α → Except Raised α
  | .ok a => .ok a
  | .error _ => .error (.query .malformed)

end Queries

open Queries

/-! ## Cursors and pages -/

/-- A position in a page order: a timestamp and a row identifier. -/
structure Cursor where
  timestamp : Int
  rowId : Int
  bounded : Bounded maxTimestampUs timestamp
  positive : Positive maxObservationSequence rowId

instance : DecidableEq Cursor := fun a b =>
  decidable_of_iff (a.timestamp = b.timestamp ∧ a.rowId = b.rowId) (by
    cases a
    cases b
    rw [Cursor.mk.injEq])

/-- The checked constructor. -/
def Cursor.new? (timestamp rowId : Int) : Except Raised Cursor :=
  if h : Bounded maxTimestampUs timestamp ∧ Positive maxObservationSequence rowId then
    .ok ⟨timestamp, rowId, h.1, h.2⟩
  else .error (.query ⟨.invalidCursor, false⟩)

/-- A position in the samples. -/
abbrev HealthSampleCursor := Cursor
/-- A position in the alerts. -/
abbrev AlertCursor := Cursor
/-- A position in the events of an alert. -/
abbrev AlertEventCursor := Cursor

/-- One page of a list, and where the next one begins. -/
structure Page (τ : Type) where
  items : List τ
  nextCursor : Option Cursor

/-- The position of a row, compared as SQL compares `(time, id)`. -/
def positionLt (a b : Int × Int) : Prop := a.1 < b.1 ∨ a.1 = b.1 ∧ a.2 < b.2

instance : DecidableRel positionLt := fun _ _ => inferInstanceAs (Decidable (_ ∨ _ ∧ _))

/-- `ORDER BY time DESC, id DESC`. -/
def newestFirst {ρ : Type} (position : ρ → Int × Int) (a b : ρ) : Prop :=
  ¬positionLt (position a) (position b)

instance {ρ : Type} (position : ρ → Int × Int) : DecidableRel (newestFirst position) :=
  fun a b => inferInstanceAs (Decidable ¬positionLt (position a) (position b))

/-- `ORDER BY time, id`. -/
def oldestFirst {ρ : Type} (position : ρ → Int × Int) (a b : ρ) : Prop :=
  ¬positionLt (position b) (position a)

instance {ρ : Type} (position : ρ → Int × Int) : DecidableRel (oldestFirst position) :=
  fun a b => inferInstanceAs (Decidable ¬positionLt (position b) (position a))

namespace Queries

/-- `_page_size` -/
def pageSize? (value maximum : Int) : Except Raised Unit :=
  require (.query ⟨.invalidQuery, false⟩) (Positive maximum value)

/-- `_query_id` -/
def queryId (value : Int) : Except Raised Unit :=
  require (.query ⟨.invalidQuery, false⟩) (Positive maxObservationSequence value)

/-- The rows of a page: check each one more than the page holds, keep the page, and point behind its
    last row when there are more. -/
def readPage {ρ τ : Type} (record : ρ → Transaction τ) (position : τ → Int × Int) (pageSize : Nat)
    (rows : Database → List ρ) : Transaction (Page τ) := do
  let validated ← (← select fun db => (rows db).take (pageSize + 1)).mapM record
  let records := validated.take pageSize
  if validated.length > pageSize then
    match records.getLast? with
    | none => return ⟨records, none⟩
    | some last => do
      let cursor ← attempt (Cursor.new? (position last).1 (position last).2)
      return ⟨records, some cursor⟩
  else return ⟨records, none⟩

/-! ## Samples -/

end Queries

/-- A component of a sample record; the source gives it the fields and the checks of a projected
    component. -/
abbrev HealthComponentRecord := ComponentProjection

/-- A sample as it is listed, with its components. -/
structure HealthSampleRecord where
  id : Int
  observationSequence : Int
  observedAtUtcUs : Int
  recordedAtUtcUs : Int
  overallStatus : HealthHistoryStatus
  serviceUptimeMs : Int
  sampleKind : SampleKind
  acceptedSampleKind : SampleKind
  missedIntervals : Int
  components : List HealthComponentRecord

/-- The constructor's checks, in the source's order. -/
def HealthSampleRecord.check (r : HealthSampleRecord) : Except String Unit := do
  positiveId r.id
  boundedInteger maxObservationSequence r.observationSequence
  boundedInteger maxTimestampUs r.observedAtUtcUs
  boundedInteger maxTimestampUs r.recordedAtUtcUs
  boundedInteger maxServiceUptimeMs r.serviceUptimeMs
  boundedInteger maxBoundedCounter r.missedIntervals
  require "invalid_components" (r.components.map ComponentProjection.component = componentOrder)
  require "inconsistent_status" (worstComponentStatus r.components = some r.overallStatus)

namespace Queries

/-- The record of a sample row and its component rows. -/
def newSampleRecord (row : HealthSampleRow) (components : List ComponentSampleRow) :
    Except String HealthSampleRecord := do
  let accepted ← rebuildProjection row components
  accepted.components.forM ComponentProjection.check
  let record : HealthSampleRecord := {
    id := row.id
    observationSequence := accepted.observationSequence
    observedAtUtcUs := accepted.observedAtUtcUs
    recordedAtUtcUs := accepted.recordedAtUtcUs
    overallStatus := accepted.overallStatus
    serviceUptimeMs := accepted.serviceUptimeMs
    sampleKind := row.sampleKind
    acceptedSampleKind := accepted.sampleKind
    missedIntervals := accepted.missedIntervals
    components := accepted.components }
  record.check
  return record

/-- `_health_sample_record` -/
def healthSampleRecord (row : HealthSampleRow) : Transaction HealthSampleRecord := do
  attempt (trusted (positiveId row.id))
  attempt (trusted (require "invalid_digest" (row.projectionDigest.length = projectionDigestBytes)))
  let components ← select (selectComponents row.id)
  attempt (trusted (newSampleRecord row components))

/-! ## Alerts -/

end Queries

/-- The lifecycle fits the times of the alert. -/
def AlertRow.lifecycleTimes (r : AlertRow) : Except String Unit :=
  match r.lifecycle with
  | .open => require "inconsistent_open_alert" (r.acknowledgedAtUtcUs = none ∧
      r.recoveredAtUtcUs = none ∧ r.archivedAtUtcUs = none)
  | .acknowledged => require "inconsistent_acknowledged_alert" (r.acknowledgedAtUtcUs ≠ none ∧
      r.recoveredAtUtcUs = none ∧ r.archivedAtUtcUs = none)
  | .recovered => require "inconsistent_recovered_alert" (r.recoveredAtUtcUs ≠ none ∧
      r.archivedAtUtcUs = none)
  | .archived => require "inconsistent_archived_alert" (r.recoveredAtUtcUs ≠ none ∧
      r.archivedAtUtcUs ≠ none)

/-- The times of an alert follow each other. -/
structure AlertRow.TimesOrdered (r : AlertRow) : Prop where
  cooldown : r.openedAtUtcUs ≤ r.cooldownUntilUtcUs
  acknowledged : ∀ a ∈ r.acknowledgedAtUtcUs, r.openedAtUtcUs ≤ a
  recovered : ∀ t ∈ r.recoveredAtUtcUs, max r.openedAtUtcUs (r.acknowledgedAtUtcUs.getD 0) ≤ t
  recoveredCooldown : ∀ t ∈ r.recoveredAtUtcUs, t ≤ r.cooldownUntilUtcUs
  archived : ∀ t ∈ r.archivedAtUtcUs,
    max (r.recoveredAtUtcUs.getD 0) r.cooldownUntilUtcUs ≤ t

instance (r : AlertRow) : Decidable r.TimesOrdered :=
  decidable_of_iff (r.openedAtUtcUs ≤ r.cooldownUntilUtcUs ∧
      (∀ a ∈ r.acknowledgedAtUtcUs, r.openedAtUtcUs ≤ a) ∧
      (∀ t ∈ r.recoveredAtUtcUs, max r.openedAtUtcUs (r.acknowledgedAtUtcUs.getD 0) ≤ t) ∧
      (∀ t ∈ r.recoveredAtUtcUs, t ≤ r.cooldownUntilUtcUs) ∧
      ∀ t ∈ r.archivedAtUtcUs, max (r.recoveredAtUtcUs.getD 0) r.cooldownUntilUtcUs ≤ t)
    ⟨fun ⟨a, b, c, d, e⟩ => ⟨a, b, c, d, e⟩, fun ⟨a, b, c, d, e⟩ => ⟨a, b, c, d, e⟩⟩

/-- The first sample of an alert is not newer than its latest. -/
def AlertRow.SamplesOrdered (r : AlertRow) : Prop :=
  ∀ first ∈ r.firstSampleId, ∀ latest ∈ r.latestSampleId, first ≤ latest

instance (r : AlertRow) : Decidable r.SamplesOrdered :=
  inferInstanceAs (Decidable (∀ first ∈ r.firstSampleId, _))

namespace Queries

/-- The checks of an alert, in the source's order; the five time orders share one text. -/
def validateAlertRecord (r : AlertRow) : Except String Unit := do
  positiveId r.id
  boundedInteger maxTimestampUs r.openedAtUtcUs
  boundedInteger maxTimestampUs r.cooldownUntilUtcUs
  [r.acknowledgedAtUtcUs, r.recoveredAtUtcUs, r.archivedAtUtcUs].forM
    (unlessNone (boundedInteger maxTimestampUs))
  [r.firstSampleId, r.latestSampleId].forM (unlessNone positiveId)
  boundedPositiveCounter r.episodeCount
  boundedPositiveCounter r.occurrenceCount
  require "invalid_alert_severity" (r.severity = .degraded ∨ r.severity = .unavailable)
  require "inconsistent_alert_severity"
    (r.severity = if r.kind = .degraded then .degraded else .unavailable)
  let _ ← AutomaticAlertState.new? r.scope r.kind r.lifecycle r.episodeCount r.occurrenceCount
    r.cooldownUntilUtcUs r.recoveredAtUtcUs
  r.lifecycleTimes
  require "invalid_alert_time_order" r.TimesOrdered
  require "invalid_alert_sample_order" r.SamplesOrdered

/-- `SELECT id FROM health_samples WHERE id IN (?, ?) LIMIT 3` -/
def selectSampleReferences (first latest : Option Int) (db : Database) : List Int :=
  ((db.samples.rows.map HealthSampleRow.id).filter fun i =>
    some i = first ∨ some i = latest).take 3

/-- The samples an alert refers to are two at most, and its own. -/
def checkSampleReferences (r : AlertRow) (references : List Int) : Except String Unit := do
  references.forM positiveId
  require "invalid_alert_sample_reference" (references.length ≤ 2 ∧
    (∀ i ∈ references, some i = r.firstSampleId ∨ some i = r.latestSampleId) ∧
    ∀ o ∈ [r.firstSampleId, r.latestSampleId], ∀ i ∈ o, i ∈ references)

/-- `_alert_record` -/
def alertRecord (row : AlertRow) : Transaction AlertRow := do
  attempt (trusted (validateAlertRecord row))
  let references ← select (selectSampleReferences row.firstSampleId row.latestSampleId)
  attempt (trusted (checkSampleReferences row references))
  return row

/-! ## Events -/

/-- The constructor's checks, in the source's order. -/
def validateAlertEventRecord (e : AlertEventRow) : Except String Unit := do
  positiveId e.id
  positiveId e.alertId
  boundedInteger maxTimestampUs e.eventAtUtcUs
  unlessNone positiveId e.supportingSampleId
  require "inconsistent_event_lifecycle" (e.resultingLifecycle ∈ e.eventType.allowed)

/-- `SELECT id FROM health_samples WHERE id = ? LIMIT 2` -/
def selectSampleReference (id : Int) (db : Database) : List Int :=
  ((db.samples.rows.map HealthSampleRow.id).filter (· = id)).take 2

/-- The sample an event refers to exists. -/
def checkEventReference : Option Int → Transaction Unit
  | none => return ()
  | some id => do
    let references ← select (selectSampleReference id)
    attempt (trusted (require "invalid_event_sample_reference" (references = [id])))

/-- `_alert_event_record` -/
def alertEventRecord (requestedAlertId : Int) (row : AlertEventRow) :
    Transaction AlertEventRow := do
  attempt (trusted (require "invalid_event_row" (row.alertId = requestedAlertId)))
  attempt (trusted (validateAlertEventRecord row))
  checkEventReference row.supportingSampleId
  return row

/-! ## The readers -/

/-- The rows behind a cursor, if there is one. -/
def behind {ρ : Type} (position : ρ → Int × Int) (cursor : Option Cursor) (r : ρ) : Bool :=
  match cursor with
  | none => true
  | some c => positionLt (position r) (c.timestamp, c.rowId)

/-- The rows with a status or lifecycle, if one is asked for. -/
def having {ρ κ : Type} [DecidableEq κ] (field : ρ → κ) (wanted : Option κ) (r : ρ) : Bool :=
  match wanted with
  | none => true
  | some k => field r = k

/-- Where a sample stands in the list, -/
def samplePosition (r : HealthSampleRow) : Int × Int := (r.observedAtUtcUs, r.id)
/-- where an alert does, -/
def alertPosition (r : AlertRow) : Int × Int := (r.openedAtUtcUs, r.id)
/-- and where an event does. -/
def eventPosition (e : AlertEventRow) : Int × Int := (e.eventAtUtcUs, e.id)

/-- One page of samples, newest first. -/
def readHealthSamples (pageSize : Nat) (cursor : Option HealthSampleCursor)
    (overallStatus : Option HealthHistoryStatus) : Transaction (Page HealthSampleRecord) :=
  readPage healthSampleRecord (fun r => (r.observedAtUtcUs, r.id)) pageSize fun db =>
    (db.samples.rows.filter fun r => having HealthSampleRow.overallStatus overallStatus r &&
      behind samplePosition cursor r).insertionSort (newestFirst samplePosition)

/-- One page of alerts, newest first. -/
def readAlerts (pageSize : Nat) (cursor : Option AlertCursor)
    (lifecycle : Option AlertLifecycle) : Transaction (Page AlertRow) :=
  readPage alertRecord alertPosition pageSize fun db =>
    (db.alerts.rows.filter fun r => having AlertRow.lifecycle lifecycle r &&
      behind alertPosition cursor r).insertionSort (newestFirst alertPosition)

/-- The alert of an identifier, or a fixed rejection. -/
def findAlert (alertId : Int) : Transaction AlertRow := do
  match ← select fun db => db.alerts.find? alertId with
  | none => Script.fail (.query ⟨.notFound, false⟩)
  | some row => alertRecord row

/-- The events of an alert behind a cursor, oldest first. -/
def selectAlertEvents (alertId : Int) (cursor : Option AlertEventCursor) (db : Database) :
    List AlertEventRow :=
  (db.events.rows.filter fun e => e.alertId = alertId ∧
    ∀ c ∈ cursor, positionLt (c.timestamp, c.rowId) (eventPosition e)).insertionSort
      (oldestFirst eventPosition)

/-- One page of the events of an alert, oldest first. -/
def readAlertEvents (alertId : Int) (pageSize : Nat) (cursor : Option AlertEventCursor) :
    Transaction (Page AlertEventRow) := do
  let _ ← findAlert alertId
  readPage (alertEventRecord alertId) eventPosition pageSize (selectAlertEvents alertId cursor)

end Queries

/-- The scheduler's part of the checkpoint. -/
structure SchedulerResumeState where
  lastCommittedSequence : Option Int
  lastAcceptedObservedAtUtcUs : Option Int
  lastAcceptedSampleKind : Option SampleKind
  acceptedObservationCount : Int
deriving DecidableEq

/-- The constructor's checks. -/
def SchedulerResumeState.check (s : SchedulerResumeState) : Except String Unit := do
  require "invalid_scheduler_resume_state" (Bounded maxBoundedCounter s.acceptedObservationCount)
  require "invalid_scheduler_resume_state"
    ((s.lastCommittedSequence = none ∧ s.lastAcceptedObservedAtUtcUs = none ∧
        s.lastAcceptedSampleKind = none ∧ s.acceptedObservationCount = 0) ∨
      ((∃ n ∈ s.lastCommittedSequence, Bounded maxObservationSequence n) ∧
        (∃ t ∈ s.lastAcceptedObservedAtUtcUs, Bounded maxTimestampUs t) ∧
        s.lastAcceptedSampleKind ≠ none ∧ s.acceptedObservationCount ≥ 1))

namespace Queries

/-- `except IngestionError: raise _malformed()` -/
def ingestionMalformed : Raised → Raised
  | .ingestion _ => .query .malformed
  | e => e

/-- Where the scheduler goes on after a restart. -/
def resumeState (c : Ingestion.Checkpoint) : SchedulerResumeState where
  lastCommittedSequence := c.sequence
  lastAcceptedObservedAtUtcUs := c.latest.map Ingestion.ReplayEntry.observedAt
  lastAcceptedSampleKind := c.latest.map Ingestion.ReplayEntry.sampleKind
  acceptedObservationCount := c.acceptedCount

/-- Read it from the checkpoint and the replay ledger. -/
def readSchedulerResumeState : Transaction SchedulerResumeState := do
  let checkpoint ← Script.mapError ingestionMalformed (do
    let checkpoint ← Ingestion.readCheckpoint
    Ingestion.validateReplayAnchor checkpoint
    return checkpoint)
  attempt (trusted (resumeState checkpoint).check)
  return resumeState checkpoint

/-! ## On a connection -/

open Script (Faults)

/-- What `_read_transaction` raises for an error of its reader. -/
def queryFailure : Raised → QueryError
  | .query e => e
  | .sqlite e => .classifiedSqliteError e
  | _ => .malformed

/-- Run a reader between BEGIN and ROLLBACK. -/
def readTransaction {α : Type} (F : Faults SqliteError) (db : Database) (reader : Transaction α) :
    Except QueryError α × Connection Database :=
  match ({ durable := db } : Connection Database).begin Raised.sqlite F with
  | (.error e, c) => (.error (queryFailure e), c)
  | (.ok _, c) =>
    match c.execute Raised.sqlite F reader with
    | (result, c) =>
      match c.rollback Raised.sqlite F with
      | (.error _, c) => (.error ⟨.trustFailed, true⟩, c)
      | (.ok _, c) => (result.mapError queryFailure, c)

/-- Check the arguments of a query before its transaction. -/
def checkedQuery {α : Type} (F : Faults SqliteError) (db : Database) (check : Except Raised Unit)
    (reader : Transaction α) : Except QueryError α × Connection Database :=
  match check with
  | .error e => (.error (queryFailure e), { durable := db })
  | .ok _ => readTransaction F db reader

/-- `list_health_samples` -/
def listHealthSamples (F : Faults SqliteError) (db : Database) (pageSize : Int)
    (cursor : Option HealthSampleCursor) (overallStatus : Option HealthHistoryStatus) :
    Except QueryError (Page HealthSampleRecord) × Connection Database :=
  checkedQuery F db (pageSize? pageSize maxHealthSamplePageSize)
    (readHealthSamples pageSize.toNat cursor overallStatus)

/-- `list_alerts` -/
def listAlerts (F : Faults SqliteError) (db : Database) (pageSize : Int)
    (cursor : Option AlertCursor) (lifecycle : Option AlertLifecycle) :
    Except QueryError (Page AlertRow) × Connection Database :=
  checkedQuery F db (pageSize? pageSize maxAlertPageSize)
    (readAlerts pageSize.toNat cursor lifecycle)

/-- `get_alert` -/
def getAlert (F : Faults SqliteError) (db : Database) (alertId : Int) :
    Except QueryError AlertRow × Connection Database :=
  checkedQuery F db (queryId alertId) (findAlert alertId)

/-- `list_alert_events` -/
def listAlertEvents (F : Faults SqliteError) (db : Database) (alertId pageSize : Int)
    (cursor : Option AlertEventCursor) :
    Except QueryError (Page AlertEventRow) × Connection Database :=
  checkedQuery F db (do queryId alertId; pageSize? pageSize maxAlertEventPageSize)
    (readAlertEvents alertId pageSize.toNat cursor)

/-- `get_scheduler_resume_state` -/
def getSchedulerResumeState (F : Faults SqliteError) (db : Database) :
    Except QueryError SchedulerResumeState × Connection Database :=
  readTransaction F db readSchedulerResumeState

end Queries

end Aurora.HealthHistory
