/-
  Schema version 1: the rows, their constraints, and a database that satisfies them.

  Every table keeps its rows in key order (`evaluation_state` is a function of its primary key, the
  scope).  `Consistent` is the conjunction of every CHECK, UNIQUE and foreign-key constraint of the
  schema; a `Database` carries a proof of it, and a statement that would break it is refused with a
  constraint error.  The rows hold the enumerations themselves in place of their texts, so the
  CHECKs that list an enumeration's texts hold by type; so do the NOT NULL constraints.
-/
import Aurora.Lib.Table
import Aurora.Lib.Transaction
import Aurora.HealthHistory.Errors
import Aurora.HealthHistory.Projection
import Aurora.HealthHistory.Lifecycle

namespace Aurora.HealthHistory

/-! ## Rows and their checks -/

/-- A row of `schema_migrations`. -/
structure SchemaMigrationRow where
  version : Int
  appliedAtUtcUs : Int
deriving DecidableEq

/-- Its CHECK constraints. -/
def SchemaMigrationRow.Check (r : SchemaMigrationRow) : Prop :=
  Positive maxSchemaVersion r.version ∧ Bounded maxTimestampUs r.appliedAtUtcUs

/-- The one row of `ingestion_checkpoint`. -/
structure IngestionCheckpointRow where
  lastCommittedSequence : Option Int
  lastAcceptedObservedAtUtcUs : Option Int
  lastAcceptedProjectionDigest : Option Bytes
  lastAcceptedSampleKind : Option SampleKind
  acceptedObservationCount : Int
deriving DecidableEq

/-- Its CHECK constraints. -/
def IngestionCheckpointRow.Check (r : IngestionCheckpointRow) : Prop :=
  BoundedOption maxObservationSequence r.lastCommittedSequence ∧
  BoundedOption maxTimestampUs r.lastAcceptedObservedAtUtcUs ∧
  (∀ d ∈ r.lastAcceptedProjectionDigest, d.length = projectionDigestBytes) ∧
  Bounded maxBoundedCounter r.acceptedObservationCount ∧
  ((r.lastAcceptedObservedAtUtcUs = none ∧ r.lastAcceptedProjectionDigest = none ∧
      r.lastAcceptedSampleKind = none ∧ r.acceptedObservationCount = 0 ∧
      r.lastCommittedSequence = none) ∨
    (r.lastAcceptedObservedAtUtcUs ≠ none ∧ r.lastAcceptedProjectionDigest ≠ none ∧
      r.lastAcceptedSampleKind ≠ none ∧ r.acceptedObservationCount ≥ 1 ∧
      r.lastCommittedSequence ≠ none))

/-- A row of `accepted_observation_replay`. -/
structure AcceptedObservationRow where
  observationSequence : Int
  observedAtUtcUs : Int
  projectionDigest : Bytes
  acceptedSampleKind : SampleKind
deriving DecidableEq

/-- Its CHECK constraints. -/
def AcceptedObservationRow.Check (r : AcceptedObservationRow) : Prop :=
  Bounded maxObservationSequence r.observationSequence ∧
  Bounded maxTimestampUs r.observedAtUtcUs ∧
  r.projectionDigest.length = projectionDigestBytes

/-- A row of `health_samples`. -/
structure HealthSampleRow where
  id : Int
  observationSequence : Int
  observedAtUtcUs : Int
  recordedAtUtcUs : Int
  overallStatus : HealthHistoryStatus
  serviceUptimeMs : Int
  sampleKind : SampleKind
  acceptedSampleKind : SampleKind
  projectionDigest : Bytes
  missedIntervals : Int
deriving DecidableEq

/-- Its CHECK constraints. -/
def HealthSampleRow.Check (r : HealthSampleRow) : Prop :=
  Bounded maxObservationSequence r.observationSequence ∧
  Bounded maxTimestampUs r.observedAtUtcUs ∧
  Bounded maxTimestampUs r.recordedAtUtcUs ∧
  Bounded maxServiceUptimeMs r.serviceUptimeMs ∧
  r.projectionDigest.length = projectionDigestBytes ∧
  Bounded maxBoundedCounter r.missedIntervals

/-- A row of `component_samples`. -/
structure ComponentSampleRow where
  sampleId : Int
  component : ComponentName
  status : HealthHistoryStatus
  reasonCode1 : NormalizedReason
  reasonCode2 : Option NormalizedReason
  reasonCode3 : Option NormalizedReason
  checkedAtUtcUs : Int
  latencyMs : Int
  lastSuccessfulAtUtcUs : Option Int
deriving DecidableEq

/-- `value LIKE pattern || '%'`: an underscore of the pattern matches any character, and case does
    not matter. -/
def likePrefix : List Char → List Char → Bool
  | [], _ => true
  | p :: pattern, c :: value => (p == '_' || p.toLower == c.toLower) && likePrefix pattern value
  | _ :: _, [] => false

/-- `reason LIKE component || '.%'`. -/
def NormalizedReason.likeComponent (reason : NormalizedReason) (component : ComponentName) : Bool :=
  likePrefix (component.value ++ ".").toList reason.value.toList

/-- Its CHECK constraints. -/
def ComponentSampleRow.Check (r : ComponentSampleRow) : Prop :=
  Bounded maxTimestampUs r.checkedAtUtcUs ∧
  Bounded maxComponentLatencyMs r.latencyMs ∧
  BoundedOption maxTimestampUs r.lastSuccessfulAtUtcUs ∧
  (r.reasonCode3 = none ∨ r.reasonCode2 ≠ none) ∧
  some r.reasonCode1 ≠ r.reasonCode2 ∧
  some r.reasonCode1 ≠ r.reasonCode3 ∧
  (r.reasonCode2 = none ∨ r.reasonCode2 ≠ r.reasonCode3) ∧
  r.reasonCode1.likeComponent r.component = true ∧
  (∀ c ∈ r.reasonCode2, c.likeComponent r.component = true) ∧
  (∀ c ∈ r.reasonCode3, c.likeComponent r.component = true) ∧
  (r.component = .wled ∧ r.reasonCode3 = none ∨ r.component = .hyperhdr ∨
    r.component = .capture ∧ r.reasonCode3 = none ∨
    r.component = .raspberryPi ∧ r.reasonCode2 = none ∧ r.reasonCode3 = none)

/-- A row of `alerts`. -/
structure AlertRow where
  id : Int
  scope : AlertScope
  kind : AlertKind
  lifecycle : AlertLifecycle
  severity : HealthHistoryStatus
  openedAtUtcUs : Int
  acknowledgedAtUtcUs : Option Int
  recoveredAtUtcUs : Option Int
  archivedAtUtcUs : Option Int
  firstSampleId : Option Int
  latestSampleId : Option Int
  episodeCount : Int
  occurrenceCount : Int
  cooldownUntilUtcUs : Int
deriving DecidableEq

/-- Its CHECK constraints. -/
structure AlertRow.Check (r : AlertRow) : Prop where
  severity : r.severity = .degraded ∨ r.severity = .unavailable
  openedAt : Bounded maxTimestampUs r.openedAtUtcUs
  acknowledgedAt : BoundedOption maxTimestampUs r.acknowledgedAtUtcUs
  recoveredAt : BoundedOption maxTimestampUs r.recoveredAtUtcUs
  archivedAt : BoundedOption maxTimestampUs r.archivedAtUtcUs
  episodeCount : Positive maxBoundedCounter r.episodeCount
  occurrenceCount : Positive maxBoundedCounter r.occurrenceCount
  cooldownUntil : Bounded maxTimestampUs r.cooldownUntilUtcUs
  acknowledgedTime : r.lifecycle ≠ .acknowledged ∨ r.acknowledgedAtUtcUs ≠ none
  acknowledgedLifecycle : r.acknowledgedAtUtcUs = none ∨ r.lifecycle = .acknowledged ∨
    r.lifecycle = .recovered ∨ r.lifecycle = .archived
  terminalRecovered : ¬r.lifecycle.Terminal ∨ r.recoveredAtUtcUs ≠ none
  archivedTime : r.lifecycle ≠ .archived ∨ r.archivedAtUtcUs ≠ none
  archivedLifecycle : r.lifecycle = .archived ∨ r.archivedAtUtcUs = none
  recoveredTerminal : r.lifecycle.Terminal ∨ r.recoveredAtUtcUs = none
  scopeKind : r.scope = .sampling ∧ r.kind = .samplingGap ∨
    r.scope ≠ .sampling ∧ r.kind ≠ .samplingGap
  kindSeverity : r.kind = .degraded ∧ r.severity = .degraded ∨
    (r.kind = .unavailable ∨ r.kind = .samplingGap) ∧ r.severity = .unavailable

/-- A row of `evaluation_state` but for its key, the scope. -/
structure EvaluationStateRow where
  currentStatus : Option HealthHistoryStatus
  candidateStatus : Option HealthHistoryStatus
  consecutiveCount : Int
  lastSampleId : Option Int
  lastHeartbeatAtUtcUs : Option Int
  gapPhase : SamplingGapPhase
  cooldownUntilUtcUs : Option Int
deriving DecidableEq

/-- Its CHECK constraints. -/
def EvaluationStateRow.Check (scope : AlertScope) (r : EvaluationStateRow) : Prop :=
  Bounded maxBoundedCounter r.consecutiveCount ∧
  (∀ i ∈ r.lastSampleId, 0 < i) ∧
  BoundedOption maxTimestampUs r.lastHeartbeatAtUtcUs ∧
  BoundedOption maxTimestampUs r.cooldownUntilUtcUs ∧
  (scope = .sampling ∧ r.currentStatus = none ∧ r.candidateStatus = none ∨
    scope ≠ .sampling ∧ r.gapPhase = .clear ∧
      (r.candidateStatus = none ∧ r.consecutiveCount = 0 ∨
        r.candidateStatus ≠ none ∧ r.consecutiveCount ≥ 1 ∧
          r.candidateStatus = r.currentStatus) ∧
      (r.currentStatus ≠ none ∨ r.candidateStatus = none ∧ r.consecutiveCount = 0))

/-- A row of `alert_events`. -/
structure AlertEventRow where
  id : Int
  alertId : Int
  eventType : LifecycleEvent
  eventAtUtcUs : Int
  supportingSampleId : Option Int
  resultingLifecycle : AlertLifecycle
deriving DecidableEq

/-- The lifecycles an event may lead to. -/
def LifecycleEvent.allowed : LifecycleEvent → List AlertLifecycle
  | opened => [.open]
  | acknowledged => [.acknowledged]
  | recovered => [.recovered]
  | archived => [.archived]
  | occurrenceUpdated => [.open, .acknowledged, .recovered]

/-- Its CHECK constraints. -/
def AlertEventRow.Check (r : AlertEventRow) : Prop :=
  Bounded maxTimestampUs r.eventAtUtcUs ∧ r.resultingLifecycle ∈ r.eventType.allowed

/-! ### The checks are decidable -/

instance (r : SchemaMigrationRow) : Decidable r.Check := by
  unfold SchemaMigrationRow.Check
  infer_instance

instance (r : IngestionCheckpointRow) : Decidable r.Check := by
  unfold IngestionCheckpointRow.Check
  infer_instance

instance (r : AcceptedObservationRow) : Decidable r.Check := by
  unfold AcceptedObservationRow.Check
  infer_instance

instance (r : HealthSampleRow) : Decidable r.Check := by
  unfold HealthSampleRow.Check
  infer_instance

instance (r : ComponentSampleRow) : Decidable r.Check := by
  unfold ComponentSampleRow.Check
  infer_instance

instance (scope : AlertScope) (r : EvaluationStateRow) : Decidable (r.Check scope) := by
  unfold EvaluationStateRow.Check
  infer_instance

instance (r : AlertEventRow) : Decidable r.Check := by
  unfold AlertEventRow.Check
  infer_instance

instance (r : AlertRow) : Decidable r.Check :=
  decidable_of_iff
    ((r.severity = .degraded ∨ r.severity = .unavailable) ∧
      Bounded maxTimestampUs r.openedAtUtcUs ∧
      BoundedOption maxTimestampUs r.acknowledgedAtUtcUs ∧
      BoundedOption maxTimestampUs r.recoveredAtUtcUs ∧
      BoundedOption maxTimestampUs r.archivedAtUtcUs ∧
      Positive maxBoundedCounter r.episodeCount ∧
      Positive maxBoundedCounter r.occurrenceCount ∧
      Bounded maxTimestampUs r.cooldownUntilUtcUs ∧
      (r.lifecycle ≠ .acknowledged ∨ r.acknowledgedAtUtcUs ≠ none) ∧
      (r.acknowledgedAtUtcUs = none ∨ r.lifecycle = .acknowledged ∨ r.lifecycle = .recovered ∨
        r.lifecycle = .archived) ∧
      (¬r.lifecycle.Terminal ∨ r.recoveredAtUtcUs ≠ none) ∧
      (r.lifecycle ≠ .archived ∨ r.archivedAtUtcUs ≠ none) ∧
      (r.lifecycle = .archived ∨ r.archivedAtUtcUs = none) ∧
      (r.lifecycle.Terminal ∨ r.recoveredAtUtcUs = none) ∧
      (r.scope = .sampling ∧ r.kind = .samplingGap ∨
        r.scope ≠ .sampling ∧ r.kind ≠ .samplingGap) ∧
      (r.kind = .degraded ∧ r.severity = .degraded ∨
        (r.kind = .unavailable ∨ r.kind = .samplingGap) ∧ r.severity = .unavailable))
    ⟨fun ⟨a, b, c, d, e, f, g, h, i, j, k, l, m, n, o, p⟩ =>
        ⟨a, b, c, d, e, f, g, h, i, j, k, l, m, n, o, p⟩,
      fun h => ⟨h.severity, h.openedAt, h.acknowledgedAt, h.recoveredAt, h.archivedAt,
        h.episodeCount, h.occurrenceCount, h.cooldownUntil, h.acknowledgedTime,
        h.acknowledgedLifecycle, h.terminalRecovered, h.archivedTime, h.archivedLifecycle,
        h.recoveredTerminal, h.scopeKind, h.kindSeverity⟩⟩

/-! ## Tables -/

/-- The pair a live alert is unique for. -/
abbrev AlertPair := AlertScope × AlertKind

/-- What at most one alert is active for. -/
def AlertRow.pair (r : AlertRow) : AlertPair := (r.scope, r.kind)

/-- The largest row identifier. -/
def maxRowid : Int := 2 ^ 63 - 1

/-- No identifier beyond the greatest one is given. -/
theorem nextKey_le_maxRowid {ρ : Type} {key : ρ → Int} {t : Table key} {k : Int}
    (h : t.nextKey maxRowid = some k) : k ≤ maxRowid := Table.nextKey_le (by decide) h

/-- The content of the database file. -/
structure Tables where
  migrations : Table SchemaMigrationRow.version
  checkpoint : Option IngestionCheckpointRow
  replay : Table AcceptedObservationRow.observationSequence
  samples : Table HealthSampleRow.id
  components : List ComponentSampleRow
  alerts : Table AlertRow.id
  evaluation : AlertScope → Option EvaluationStateRow
  events : Table AlertEventRow.id

/-- Every reference names a stored health sample. -/
def Tables.SampleExists (t : Tables) (reference : Option Int) : Prop :=
  ∀ i ∈ reference, t.samples.Has i

instance (t : Tables) : (reference : Option Int) → Decidable (t.SampleExists reference)
  | none => isTrue fun _ h => nomatch h
  | some i => decidable_of_iff (t.samples.Has i)
      ⟨fun h j hj => by rwa [← Option.some.inj hj], fun h => h i rfl⟩

@[simp] theorem Tables.sampleExists_none (t : Tables) : t.SampleExists none := fun _ h => nomatch h

@[simp] theorem Tables.sampleExists_some (t : Tables) (i : Int) :
    t.SampleExists (some i) ↔ t.samples.Has i :=
  ⟨fun h => h i rfl, fun h j hj => by rwa [← Option.some.inj hj]⟩

/-- Every constraint of the schema. -/
structure Tables.Consistent (t : Tables) : Prop where
  migrationCheck : ∀ r ∈ t.migrations.rows, r.Check
  checkpointCheck : ∀ r ∈ t.checkpoint, r.Check
  replayCheck : ∀ r ∈ t.replay.rows, r.Check
  sampleCheck : ∀ r ∈ t.samples.rows, r.Check
  /-- `uq_health_samples_sequence` -/
  sampleSequence : t.samples.rows.Pairwise fun a b => a.observationSequence ≠ b.observationSequence
  componentCheck : ∀ r ∈ t.components, r.Check
  componentKey : t.components.Pairwise fun a b =>
    ¬(a.sampleId = b.sampleId ∧ a.component = b.component)
  componentSample : ∀ r ∈ t.components, t.samples.Has r.sampleId
  alertCheck : ∀ r ∈ t.alerts.rows, r.Check
  /-- `uq_alerts_active_scope_kind` -/
  alertActive : t.alerts.rows.Pairwise fun a b =>
    ¬(a.lifecycle.Active ∧ b.lifecycle.Active ∧ a.pair = b.pair)
  alertFirstSample : ∀ r ∈ t.alerts.rows, t.SampleExists r.firstSampleId
  alertLatestSample : ∀ r ∈ t.alerts.rows, t.SampleExists r.latestSampleId
  evaluationCheck : ∀ s ∈ alertScopes, ∀ r ∈ t.evaluation s, r.Check s
  evaluationSample : ∀ s ∈ alertScopes, ∀ r ∈ t.evaluation s, t.SampleExists r.lastSampleId
  eventCheck : ∀ r ∈ t.events.rows, r.Check
  eventAlert : ∀ r ∈ t.events.rows, t.alerts.Has r.alertId
  eventSample : ∀ r ∈ t.events.rows, t.SampleExists r.supportingSampleId
  /-- Row identifiers are integers of 64 bits. -/
  sampleRowid : ∀ r ∈ t.samples.rows, r.id ≤ maxRowid
  alertRowid : ∀ r ∈ t.alerts.rows, r.id ≤ maxRowid
  eventRowid : ∀ r ∈ t.events.rows, r.id ≤ maxRowid

instance (t : Tables) : Decidable t.Consistent :=
  decidable_of_iff
    ((∀ r ∈ t.migrations.rows, r.Check) ∧ (∀ r ∈ t.checkpoint, r.Check) ∧
      (∀ r ∈ t.replay.rows, r.Check) ∧ (∀ r ∈ t.samples.rows, r.Check) ∧
      (t.samples.rows.Pairwise fun a b => a.observationSequence ≠ b.observationSequence) ∧
      (∀ r ∈ t.components, r.Check) ∧
      (t.components.Pairwise fun a b => ¬(a.sampleId = b.sampleId ∧ a.component = b.component)) ∧
      (∀ r ∈ t.components, t.samples.Has r.sampleId) ∧ (∀ r ∈ t.alerts.rows, r.Check) ∧
      (t.alerts.rows.Pairwise fun a b =>
        ¬(a.lifecycle.Active ∧ b.lifecycle.Active ∧ a.pair = b.pair)) ∧
      (∀ r ∈ t.alerts.rows, t.SampleExists r.firstSampleId) ∧
      (∀ r ∈ t.alerts.rows, t.SampleExists r.latestSampleId) ∧
      (∀ s ∈ alertScopes, ∀ r ∈ t.evaluation s, r.Check s) ∧
      (∀ s ∈ alertScopes, ∀ r ∈ t.evaluation s, t.SampleExists r.lastSampleId) ∧
      (∀ r ∈ t.events.rows, r.Check) ∧ (∀ r ∈ t.events.rows, t.alerts.Has r.alertId) ∧
      (∀ r ∈ t.events.rows, t.SampleExists r.supportingSampleId) ∧
      (∀ r ∈ t.samples.rows, r.id ≤ maxRowid) ∧ (∀ r ∈ t.alerts.rows, r.id ≤ maxRowid) ∧
      ∀ r ∈ t.events.rows, r.id ≤ maxRowid)
    ⟨fun ⟨a, b, c, d, e, f, g, h, i, j, k, l, m, n, o, p, q, u, v, w⟩ =>
        ⟨a, b, c, d, e, f, g, h, i, j, k, l, m, n, o, p, q, u, v, w⟩,
      fun ⟨a, b, c, d, e, f, g, h, i, j, k, l, m, n, o, p, q, u, v, w⟩ =>
        ⟨a, b, c, d, e, f, g, h, i, j, k, l, m, n, o, p, q, u, v, w⟩⟩

/-- One object of `sqlite_master`. -/
structure SchemaObject where
  type : String
  name : String
  sql : String
deriving DecidableEq

/-- What the file header and `sqlite_master` say, and the foreign-key switch of the connection. -/
structure DatabaseIdentity where
  applicationId : Int
  userVersion : Int
  autoVacuum : Int
  foreignKeys : Int
  objects : List SchemaObject
deriving DecidableEq

/-- A database whose rows satisfy the schema. -/
structure Database extends Tables where
  identity : DatabaseIdentity
  consistent : toTables.Consistent

namespace Database

/-- The end of every writing statement: the new rows, or a constraint error. -/
def write (db : Database) (t : Tables) : Except SqliteError Database :=
  if h : t.Consistent then .ok { toTables := t, identity := db.identity, consistent := h }
  else .error .constraint

/-- Consistent tables are written as they are. -/
theorem write_of_consistent {db : Database} {t : Tables} (h : t.Consistent) :
    db.write t = .ok { toTables := t, identity := db.identity, consistent := h } := dif_pos h

end Database

/-! ## Statements -/

/-- The code inside one transaction. -/
abbrev Transaction (α : Type) := Script Database Raised α

/-- One statement. -/
def execute {β : Type} (f : Database → Except SqliteError (β × Database)) : Transaction β :=
  Script.perform fun db => (f db).mapError .sqlite

/-- One `SELECT`. -/
def select {β : Type} (f : Database → β) : Transaction β := Script.read f

/-- Raise an error of the ingestion path. -/
def raiseIngestion {α : Type} (e : IngestionError) : Transaction α := .fail (.ingestion e)

/-- A computation that may raise. -/
def attempt {α : Type} (x : Except Raised α) : Transaction α := Script.ofExcept x

end Aurora.HealthHistory
