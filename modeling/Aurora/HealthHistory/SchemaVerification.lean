/-
  The statements that create schema version 1, and the verification of a database against them.

  `verifySchemaV1` checks the identity of the file, compares every object's statement up to blanks
  and case, and then checks the rows of the bounded tables.  It never looks at samples and alerts
  except through the foreign-key check.
-/
import Aurora.HealthHistory.Ingestion

namespace Aurora.HealthHistory

/-! ## The statements -/

/-- The values of an SQL enumeration, quoted and separated. -/
def sqlValues (values : List String) : String :=
  ", ".intercalate (values.map fun value => "'" ++ value ++ "'")

/-- The statuses a CHECK admits. -/
def statusTexts : String := sqlValues ["healthy", "degraded", "unavailable"]

/-- The sample kinds a CHECK admits. -/
def sampleKindTexts : String :=
  sqlValues ["transition", "heartbeat", "startup_gap", "clock_discontinuity"]

/-- The components a CHECK admits. -/
def componentTexts : String := sqlValues (componentOrder.map ComponentName.value)

/-- The reasons a CHECK admits. -/
def reasonTexts : String := sqlValues (NormalizedReason.registry.map NormalizedReason.value)

/-- The alert scopes a CHECK admits. -/
def scopeTexts : String := sqlValues (alertScopes.map AlertScope.value)

/-- The alert kinds a CHECK admits. -/
def alertKindTexts : String := sqlValues ["degraded", "unavailable", "sampling_gap"]

/-- The lifecycles a CHECK admits. -/
def lifecycleTexts : String := sqlValues ["open", "acknowledged", "recovered", "archived"]

/-- The events a CHECK admits. -/
def eventTexts : String :=
  sqlValues ["opened", "occurrence_updated", "acknowledged", "recovered", "archived"]

/-- The gap phases a CHECK admits. -/
def gapPhaseTexts : String := sqlValues ["clear", "candidate_one", "active", "recovery_one"]

/-- The ledger of schema versions. -/
def schemaMigrationsDdl : String :=
  "CREATE TABLE schema_migrations (
      version INTEGER PRIMARY KEY
          CHECK (version BETWEEN 1 AND " ++ toString maxSchemaVersion ++ "),
      applied_at_utc_us INTEGER NOT NULL
          CHECK (applied_at_utc_us BETWEEN 0 AND " ++ toString maxTimestampUs ++ ")
  )"

/-- The one row that says what was accepted last. -/
def ingestionCheckpointDdl : String :=
  "CREATE TABLE ingestion_checkpoint (
      singleton_id INTEGER PRIMARY KEY CHECK (singleton_id = 1),
      last_committed_sequence INTEGER
          CHECK (last_committed_sequence IS NULL
              OR last_committed_sequence
                  BETWEEN 0 AND " ++ toString maxObservationSequence ++ "),
      last_accepted_observed_at_utc_us INTEGER
          CHECK (last_accepted_observed_at_utc_us IS NULL
              OR last_accepted_observed_at_utc_us
                  BETWEEN 0 AND " ++ toString maxTimestampUs ++ "),
      last_accepted_projection_digest BLOB
          CHECK (last_accepted_projection_digest IS NULL
              OR (typeof(last_accepted_projection_digest) = 'blob'
                  AND length(last_accepted_projection_digest)
                      = " ++ toString projectionDigestBytes ++ ")),
      last_accepted_sample_kind TEXT
          CHECK (last_accepted_sample_kind IS NULL
              OR last_accepted_sample_kind IN (" ++ sampleKindTexts ++ ")),
      accepted_observation_count INTEGER NOT NULL DEFAULT 0
          CHECK (accepted_observation_count
              BETWEEN 0 AND " ++ toString maxBoundedCounter ++ "),
      CHECK ((last_accepted_observed_at_utc_us IS NULL
              AND last_accepted_projection_digest IS NULL
              AND last_accepted_sample_kind IS NULL
              AND accepted_observation_count = 0
              AND last_committed_sequence IS NULL)
          OR (last_accepted_observed_at_utc_us IS NOT NULL
              AND last_accepted_projection_digest IS NOT NULL
              AND last_accepted_sample_kind IS NOT NULL
              AND accepted_observation_count >= 1
              AND last_committed_sequence IS NOT NULL))
  )"

/-- The observations that are recognised when they come again. -/
def acceptedObservationReplayDdl : String :=
  "CREATE TABLE accepted_observation_replay (
      observation_sequence INTEGER PRIMARY KEY
          CHECK (observation_sequence
              BETWEEN 0 AND " ++ toString maxObservationSequence ++ "),
      observed_at_utc_us INTEGER NOT NULL
          CHECK (observed_at_utc_us BETWEEN 0 AND " ++ toString maxTimestampUs ++ "),
      projection_digest BLOB NOT NULL
          CHECK (typeof(projection_digest) = 'blob'
              AND length(projection_digest) = " ++ toString projectionDigestBytes ++ "),
      accepted_sample_kind TEXT NOT NULL
          CHECK (accepted_sample_kind IN (" ++ sampleKindTexts ++ "))
  )"

/-- The stored samples. -/
def healthSamplesDdl : String :=
  "CREATE TABLE health_samples (
      id INTEGER PRIMARY KEY,
      observation_sequence INTEGER NOT NULL
          CHECK (observation_sequence
              BETWEEN 0 AND " ++ toString maxObservationSequence ++ "),
      observed_at_utc_us INTEGER NOT NULL
          CHECK (observed_at_utc_us BETWEEN 0 AND " ++ toString maxTimestampUs ++ "),
      recorded_at_utc_us INTEGER NOT NULL
          CHECK (recorded_at_utc_us BETWEEN 0 AND " ++ toString maxTimestampUs ++ "),
      overall_status TEXT NOT NULL CHECK (overall_status IN (" ++ statusTexts ++ ")),
      service_uptime_ms INTEGER NOT NULL
          CHECK (service_uptime_ms BETWEEN 0 AND " ++ toString maxServiceUptimeMs ++ "),
      sample_kind TEXT NOT NULL CHECK (sample_kind IN (" ++ sampleKindTexts ++ ")),
      accepted_sample_kind TEXT NOT NULL
          CHECK (accepted_sample_kind IN (" ++ sampleKindTexts ++ ")),
      projection_digest BLOB NOT NULL
          CHECK (typeof(projection_digest) = 'blob'
              AND length(projection_digest) = " ++ toString projectionDigestBytes ++ "),
      missed_intervals INTEGER NOT NULL
          CHECK (missed_intervals BETWEEN 0 AND " ++ toString maxBoundedCounter ++ ")
  )"

/-- The components of the stored samples. -/
def componentSamplesDdl : String :=
  "CREATE TABLE component_samples (
      sample_id INTEGER NOT NULL
          REFERENCES health_samples(id) ON DELETE CASCADE,
      component TEXT NOT NULL CHECK (component IN (" ++ componentTexts ++ ")),
      status TEXT NOT NULL CHECK (status IN (" ++ statusTexts ++ ")),
      reason_code_1 TEXT NOT NULL CHECK (reason_code_1 IN (" ++ reasonTexts ++ ")),
      reason_code_2 TEXT
          CHECK (reason_code_2 IS NULL OR reason_code_2 IN (" ++ reasonTexts ++ ")),
      reason_code_3 TEXT
          CHECK (reason_code_3 IS NULL OR reason_code_3 IN (" ++ reasonTexts ++ ")),
      checked_at_utc_us INTEGER NOT NULL
          CHECK (checked_at_utc_us BETWEEN 0 AND " ++ toString maxTimestampUs ++ "),
      latency_ms INTEGER NOT NULL
          CHECK (latency_ms BETWEEN 0 AND " ++ toString maxComponentLatencyMs ++ "),
      last_successful_at_utc_us INTEGER
          CHECK (last_successful_at_utc_us IS NULL
              OR last_successful_at_utc_us BETWEEN 0 AND " ++ toString maxTimestampUs ++ "),
      PRIMARY KEY (sample_id, component),
      CHECK (reason_code_3 IS NULL OR reason_code_2 IS NOT NULL),
      CHECK (reason_code_1 IS NOT reason_code_2),
      CHECK (reason_code_1 IS NOT reason_code_3),
      CHECK (reason_code_2 IS NULL OR reason_code_2 IS NOT reason_code_3),
      CHECK (reason_code_1 LIKE component || '.%'),
      CHECK (reason_code_2 IS NULL OR reason_code_2 LIKE component || '.%'),
      CHECK (reason_code_3 IS NULL OR reason_code_3 LIKE component || '.%'),
      CHECK ((component = 'wled' AND reason_code_3 IS NULL)
          OR component = 'hyperhdr'
          OR (component = 'capture' AND reason_code_3 IS NULL)
          OR (component = 'raspberry_pi'
              AND reason_code_2 IS NULL AND reason_code_3 IS NULL))
  )"

/-- The alerts. -/
def alertsDdl : String :=
  "CREATE TABLE alerts (
      id INTEGER PRIMARY KEY,
      scope TEXT NOT NULL CHECK (scope IN (" ++ scopeTexts ++ ")),
      kind TEXT NOT NULL CHECK (kind IN (" ++ alertKindTexts ++ ")),
      lifecycle TEXT NOT NULL CHECK (lifecycle IN (" ++ lifecycleTexts ++ ")),
      severity TEXT NOT NULL CHECK (severity IN ('degraded', 'unavailable')),
      opened_at_utc_us INTEGER NOT NULL
          CHECK (opened_at_utc_us BETWEEN 0 AND " ++ toString maxTimestampUs ++ "),
      acknowledged_at_utc_us INTEGER
          CHECK (acknowledged_at_utc_us IS NULL
              OR acknowledged_at_utc_us BETWEEN 0 AND " ++ toString maxTimestampUs ++ "),
      recovered_at_utc_us INTEGER
          CHECK (recovered_at_utc_us IS NULL
              OR recovered_at_utc_us BETWEEN 0 AND " ++ toString maxTimestampUs ++ "),
      archived_at_utc_us INTEGER
          CHECK (archived_at_utc_us IS NULL
              OR archived_at_utc_us BETWEEN 0 AND " ++ toString maxTimestampUs ++ "),
      first_sample_id INTEGER REFERENCES health_samples(id) ON DELETE SET NULL,
      latest_sample_id INTEGER REFERENCES health_samples(id) ON DELETE SET NULL,
      episode_count INTEGER NOT NULL
          CHECK (episode_count BETWEEN 1 AND " ++ toString maxBoundedCounter ++ "),
      occurrence_count INTEGER NOT NULL
          CHECK (occurrence_count BETWEEN 1 AND " ++ toString maxBoundedCounter ++ "),
      cooldown_until_utc_us INTEGER NOT NULL
          CHECK (cooldown_until_utc_us BETWEEN 0 AND " ++ toString maxTimestampUs ++ "),
      CHECK (lifecycle != 'acknowledged' OR acknowledged_at_utc_us IS NOT NULL),
      CHECK (acknowledged_at_utc_us IS NULL
          OR lifecycle IN ('acknowledged', 'recovered', 'archived')),
      CHECK (lifecycle NOT IN ('recovered', 'archived')
          OR recovered_at_utc_us IS NOT NULL),
      CHECK (lifecycle != 'archived' OR archived_at_utc_us IS NOT NULL),
      CHECK (lifecycle = 'archived' OR archived_at_utc_us IS NULL),
      CHECK (lifecycle IN ('recovered', 'archived')
          OR recovered_at_utc_us IS NULL),
      CHECK ((scope = 'sampling' AND kind = 'sampling_gap')
          OR (scope != 'sampling' AND kind != 'sampling_gap')),
      CHECK ((kind = 'degraded' AND severity = 'degraded')
          OR (kind IN ('unavailable', 'sampling_gap')
              AND severity = 'unavailable'))
  )"

/-- One row of evaluator state for each scope. -/
def evaluationStateDdl : String :=
  "CREATE TABLE evaluation_state (
      scope TEXT PRIMARY KEY CHECK (scope IN (" ++ scopeTexts ++ ")),
      current_status TEXT
          CHECK (current_status IS NULL OR current_status IN (" ++ statusTexts ++ ")),
      candidate_status TEXT
          CHECK (candidate_status IS NULL OR candidate_status IN (" ++ statusTexts ++ ")),
      consecutive_count INTEGER NOT NULL DEFAULT 0
          CHECK (consecutive_count BETWEEN 0 AND " ++ toString maxBoundedCounter ++ "),
      last_sample_id INTEGER
          REFERENCES health_samples(id) ON DELETE SET NULL
          CHECK (last_sample_id IS NULL OR last_sample_id > 0),
      last_heartbeat_at_utc_us INTEGER
          CHECK (last_heartbeat_at_utc_us IS NULL
              OR last_heartbeat_at_utc_us BETWEEN 0 AND " ++ toString maxTimestampUs ++ "),
      gap_phase TEXT NOT NULL DEFAULT 'clear' CHECK (gap_phase IN (" ++ gapPhaseTexts ++ ")),
      cooldown_until_utc_us INTEGER
          CHECK (cooldown_until_utc_us IS NULL
              OR cooldown_until_utc_us BETWEEN 0 AND " ++ toString maxTimestampUs ++ "),
      CHECK ((scope = 'sampling'
              AND current_status IS NULL
              AND candidate_status IS NULL)
          OR (scope != 'sampling'
              AND gap_phase = 'clear'
              AND ((candidate_status IS NULL AND consecutive_count = 0)
                  OR (candidate_status IS NOT NULL
                      AND consecutive_count >= 1
                      AND candidate_status = current_status))
              AND (current_status IS NOT NULL
                  OR (candidate_status IS NULL
                      AND consecutive_count = 0))))
  )"

/-- The events of the alerts. -/
def alertEventsDdl : String :=
  "CREATE TABLE alert_events (
      id INTEGER PRIMARY KEY,
      alert_id INTEGER NOT NULL REFERENCES alerts(id) ON DELETE CASCADE,
      event_type TEXT NOT NULL CHECK (event_type IN (" ++ eventTexts ++ ")),
      event_at_utc_us INTEGER NOT NULL
          CHECK (event_at_utc_us BETWEEN 0 AND " ++ toString maxTimestampUs ++ "),
      supporting_sample_id INTEGER
          REFERENCES health_samples(id) ON DELETE SET NULL,
      resulting_lifecycle TEXT NOT NULL
          CHECK (resulting_lifecycle IN (" ++ lifecycleTexts ++ ")),
      CHECK ((event_type = 'opened' AND resulting_lifecycle = 'open')
          OR (event_type = 'acknowledged'
              AND resulting_lifecycle = 'acknowledged')
          OR (event_type = 'recovered'
              AND resulting_lifecycle = 'recovered')
          OR (event_type = 'archived'
              AND resulting_lifecycle = 'archived')
          OR (event_type = 'occurrence_updated'
              AND resulting_lifecycle IN ('open', 'acknowledged', 'recovered')))
  )"

/-- A sequence is stored once. -/
def uqHealthSamplesSequenceDdl : String :=
  "CREATE UNIQUE INDEX uq_health_samples_sequence
  ON health_samples(observation_sequence)"

/-- Samples by the time they were observed. -/
def idxHealthSamplesObservedDdl : String :=
  "CREATE INDEX idx_health_samples_observed
  ON health_samples(observed_at_utc_us DESC, id DESC)"

/-- Samples by status and time. -/
def idxHealthSamplesStatusObservedDdl : String :=
  "CREATE INDEX idx_health_samples_status_observed
  ON health_samples(overall_status, observed_at_utc_us DESC, id DESC)"

/-- Component samples by component, status and time. -/
def idxComponentSamplesComponentStatusCheckedDdl : String :=
  "CREATE INDEX idx_component_samples_component_status_checked
  ON component_samples(component, status, checked_at_utc_us DESC, sample_id DESC)"

/-- A scope has one active alert of a kind. -/
def uqAlertsActiveScopeKindDdl : String :=
  "CREATE UNIQUE INDEX uq_alerts_active_scope_kind
  ON alerts(scope, kind) WHERE lifecycle IN ('open', 'acknowledged')"

/-- The ended alerts of a scope and kind, newest first. -/
def idxAlertsTerminalScopeKindIdDdl : String :=
  "CREATE INDEX idx_alerts_terminal_scope_kind_id
  ON alerts(scope, kind, id DESC)
  WHERE lifecycle IN ('recovered', 'archived')"

/-- Recovered alerts by the end of their cooldown. -/
def idxAlertsRecoveredCooldownIdDdl : String :=
  "CREATE INDEX idx_alerts_recovered_cooldown_id
  ON alerts(cooldown_until_utc_us, id) WHERE lifecycle = 'recovered'"

/-- Alerts by the time they were opened. -/
def idxAlertsOpenedDdl : String :=
  "CREATE INDEX idx_alerts_opened
  ON alerts(opened_at_utc_us DESC, id DESC)"

/-- Alerts by lifecycle and time. -/
def idxAlertsLifecycleOpenedDdl : String :=
  "CREATE INDEX idx_alerts_lifecycle_opened
  ON alerts(lifecycle, opened_at_utc_us DESC, id DESC)"

/-- Alerts by their first sample, for its deletion. -/
def idxAlertsFirstSampleIdDdl : String :=
  "CREATE INDEX idx_alerts_first_sample_id
  ON alerts(first_sample_id)"

/-- Alerts by their latest sample, for its deletion. -/
def idxAlertsLatestSampleIdDdl : String :=
  "CREATE INDEX idx_alerts_latest_sample_id
  ON alerts(latest_sample_id)"

/-- Archived alerts by the time they recovered, for the retention. -/
def idxAlertsArchivedRecoveredIdDdl : String :=
  "CREATE INDEX idx_alerts_archived_recovered_id
  ON alerts(recovered_at_utc_us, id) WHERE lifecycle = 'archived'"

/-- The events of an alert in order. -/
def idxAlertEventsAlertTimeDdl : String :=
  "CREATE INDEX idx_alert_events_alert_time
  ON alert_events(alert_id, event_at_utc_us, id)"

/-- Events by their sample, for its deletion. -/
def idxAlertEventsSupportingSampleIdDdl : String :=
  "CREATE INDEX idx_alert_events_supporting_sample_id
  ON alert_events(supporting_sample_id)"

/-- The checkpoint does not go back. -/
def trgIngestionCheckpointNoRegressionDdl : String :=
  "CREATE TRIGGER trg_ingestion_checkpoint_no_regression
  BEFORE UPDATE ON ingestion_checkpoint
  WHEN NEW.accepted_observation_count < OLD.accepted_observation_count
      OR (OLD.last_committed_sequence IS NOT NULL
          AND (NEW.last_committed_sequence IS NULL
              OR NEW.last_committed_sequence < OLD.last_committed_sequence))
      OR (NEW.last_committed_sequence IS OLD.last_committed_sequence
          AND (NEW.last_accepted_observed_at_utc_us
                  IS NOT OLD.last_accepted_observed_at_utc_us
              OR NEW.last_accepted_projection_digest
                  IS NOT OLD.last_accepted_projection_digest
              OR NEW.last_accepted_sample_kind
                  IS NOT OLD.last_accepted_sample_kind))
  BEGIN
      SELECT RAISE(ABORT, 'checkpoint_regression');
  END"

/-- The tables by name. -/
def tableDdl : List (String × String) :=
  [("schema_migrations", schemaMigrationsDdl),
    ("ingestion_checkpoint", ingestionCheckpointDdl),
    ("accepted_observation_replay", acceptedObservationReplayDdl),
    ("health_samples", healthSamplesDdl),
    ("component_samples", componentSamplesDdl),
    ("alerts", alertsDdl),
    ("evaluation_state", evaluationStateDdl),
    ("alert_events", alertEventsDdl)]

/-- The indexes by name. -/
def indexDdl : List (String × String) :=
  [("uq_health_samples_sequence", uqHealthSamplesSequenceDdl),
    ("idx_health_samples_observed", idxHealthSamplesObservedDdl),
    ("idx_health_samples_status_observed", idxHealthSamplesStatusObservedDdl),
    ("idx_component_samples_component_status_checked", idxComponentSamplesComponentStatusCheckedDdl),
    ("uq_alerts_active_scope_kind", uqAlertsActiveScopeKindDdl),
    ("idx_alerts_terminal_scope_kind_id", idxAlertsTerminalScopeKindIdDdl),
    ("idx_alerts_recovered_cooldown_id", idxAlertsRecoveredCooldownIdDdl),
    ("idx_alerts_opened", idxAlertsOpenedDdl),
    ("idx_alerts_lifecycle_opened", idxAlertsLifecycleOpenedDdl),
    ("idx_alerts_first_sample_id", idxAlertsFirstSampleIdDdl),
    ("idx_alerts_latest_sample_id", idxAlertsLatestSampleIdDdl),
    ("idx_alerts_archived_recovered_id", idxAlertsArchivedRecoveredIdDdl),
    ("idx_alert_events_alert_time", idxAlertEventsAlertTimeDdl),
    ("idx_alert_events_supporting_sample_id", idxAlertEventsSupportingSampleIdDdl)]

/-- The triggers by name. -/
def triggerDdl : List (String × String) :=
  [("trg_ingestion_checkpoint_no_regression", trgIngestionCheckpointNoRegressionDdl)]

/-! ## Creating the schema -/

/-- Every object of the schema, in the order of its creation. -/
def schemaObjects : List SchemaObject :=
  (tableDdl.map fun e => ⟨"table", e.1, e.2⟩) ++ (indexDdl.map fun e => ⟨"index", e.1, e.2⟩) ++
    triggerDdl.map fun e => ⟨"trigger", e.1, e.2⟩

/-- The rows `create_schema_v1` inserts. -/
def freshTables (appliedAtUtcUs : Int) : Tables where
  migrations := ⟨[⟨schemaVersion, appliedAtUtcUs⟩], List.pairwise_singleton _ _⟩
  checkpoint := some ⟨none, none, none, none, 0⟩
  replay := Table.empty _
  samples := Table.empty _
  components := []
  alerts := Table.empty _
  evaluation := fun _ => some Ingestion.freshEvaluationRow
  events := Table.empty _

theorem freshTables_consistent {appliedAtUtcUs : Int} (h : Bounded maxTimestampUs appliedAtUtcUs) :
    (freshTables appliedAtUtcUs).Consistent where
  migrationCheck := by
    intro r hr
    obtain rfl := List.mem_singleton.mp hr
    exact ⟨show Positive maxSchemaVersion schemaVersion by decide, h⟩
  checkpointCheck := by
    intro r hr
    obtain rfl := Option.some.inj hr
    decide
  replayCheck := fun r hr => absurd hr List.not_mem_nil
  sampleCheck := fun r hr => absurd hr List.not_mem_nil
  sampleSequence := List.Pairwise.nil
  componentCheck := fun r hr => absurd hr List.not_mem_nil
  componentKey := List.Pairwise.nil
  componentSample := fun r hr => absurd hr List.not_mem_nil
  alertCheck := fun r hr => absurd hr List.not_mem_nil
  alertActive := List.Pairwise.nil
  alertFirstSample := fun r hr => absurd hr List.not_mem_nil
  alertLatestSample := fun r hr => absurd hr List.not_mem_nil
  evaluationCheck := by
    intro s _ r hr
    obtain rfl := Option.some.inj hr
    cases s <;> decide
  evaluationSample := by
    intro s _ r hr
    obtain rfl := Option.some.inj hr
    exact Tables.sampleExists_none _
  eventCheck := fun r hr => absurd hr List.not_mem_nil
  eventAlert := fun r hr => absurd hr List.not_mem_nil
  eventSample := fun r hr => absurd hr List.not_mem_nil
  sampleRowid := fun r hr => absurd hr List.not_mem_nil
  alertRowid := fun r hr => absurd hr List.not_mem_nil
  eventRowid := fun r hr => absurd hr List.not_mem_nil

/-- The database a successful `create_schema_v1` leaves.  `sqlite_master` keeps the statements. -/
def createSchemaV1 (appliedAtUtcUs : Int) : Except String Database :=
  if h : Bounded maxTimestampUs appliedAtUtcUs then
    .ok {
      toTables := freshTables appliedAtUtcUs
      identity := ⟨applicationId, schemaVersion, autoVacuumIncremental, 1, schemaObjects⟩
      consistent := freshTables_consistent h }
  else .error "invalid_migration_timestamp"

/-! ## Verification -/

/-- Drop the characters at the end that satisfy a test. -/
def rstrip (p : Char → Bool) (text : List Char) : List Char := (text.reverse.dropWhile p).reverse

/-- `" ".join(statement.rstrip().rstrip(";").split()).lower()`, as a list of characters. -/
def normalizeSql (statement : String) : List Char :=
  let body := rstrip (· = ';') (rstrip Char.isWhitespace statement.toList)
  ([' '].intercalate ((body.splitOnP Char.isWhitespace).filter fun word => !word.isEmpty)).map
    Char.toLower

/-- The objects of the database are those of the schema, text for text. -/
def verifyObjects (objects : List SchemaObject) : Except String Unit := do
  let actual := objects.take (maxSchemaObjects + 1)
  require "schema_object_limit" (actual.length ≤ maxSchemaObjects)
  require "schema_objects_mismatch"
    ((∀ o ∈ actual, ∃ e ∈ schemaObjects, (e.type, e.name) = (o.type, o.name)) ∧
      ∀ e ∈ schemaObjects, ∃ o ∈ actual, (e.type, e.name) = (o.type, o.name))
  require "schema_definition_mismatch" (∀ e ∈ schemaObjects, ∀ o ∈ actual,
    (e.type, e.name) = (o.type, o.name) → normalizeSql o.sql = normalizeSql e.sql)

/-- The ledger has the one row of this version. -/
def verifyMigrations (rows : List SchemaMigrationRow) : Except String Unit :=
  match rows with
  | [row] => require "migration_ledger_mismatch"
      (row.version = schemaVersion ∧ Bounded maxTimestampUs row.appliedAtUtcUs)
  | _ => .error "migration_ledger_mismatch"

/-- A checkpoint of nothing accepted, or a complete one. -/
def validCheckpointRow (row : IngestionCheckpointRow) : Prop :=
  Bounded maxBoundedCounter row.acceptedObservationCount ∧
  ((row.lastCommittedSequence = none ∧ row.lastAcceptedObservedAtUtcUs = none ∧
      row.lastAcceptedProjectionDigest = none ∧ row.lastAcceptedSampleKind = none ∧
      row.acceptedObservationCount = 0) ∨
    ((∃ s ∈ row.lastCommittedSequence, Bounded maxObservationSequence s) ∧
      (∃ t ∈ row.lastAcceptedObservedAtUtcUs, Bounded maxTimestampUs t) ∧
      (∃ d ∈ row.lastAcceptedProjectionDigest, d.length = projectionDigestBytes) ∧
      row.lastAcceptedSampleKind ≠ none ∧ row.acceptedObservationCount ≥ 1))

instance (row : IngestionCheckpointRow) : Decidable (validCheckpointRow row) := by
  unfold validCheckpointRow
  infer_instance

/-- The replay ledger ends with what the checkpoint says was accepted last. -/
def validReplayRows (checkpoint : IngestionCheckpointRow) (rows : List AcceptedObservationRow) :
    Prop :=
  (rows.length : Int) = min checkpoint.acceptedObservationCount replayLedgerCapacity ∧
  if checkpoint.lastCommittedSequence = none then checkpoint.acceptedObservationCount = 0
  else (∀ row ∈ rows, row.Check) ∧ ∃ latest ∈ rows.getLast?,
    some latest.observationSequence = checkpoint.lastCommittedSequence ∧
    some latest.observedAtUtcUs = checkpoint.lastAcceptedObservedAtUtcUs ∧
    some latest.projectionDigest = checkpoint.lastAcceptedProjectionDigest ∧
    some latest.acceptedSampleKind = checkpoint.lastAcceptedSampleKind

instance (checkpoint : IngestionCheckpointRow) (rows : List AcceptedObservationRow) :
    Decidable (validReplayRows checkpoint rows) := by
  unfold validReplayRows
  infer_instance

/-- The state of one evaluator is within its bounds and of its kind. -/
def validEvaluationRow (entry : AlertScope × EvaluationStateRow) : Bool :=
  let row := entry.2
  Bounded maxBoundedCounter row.consecutiveCount && (∀ i ∈ row.lastSampleId, 1 ≤ i) &&
    BoundedOption maxTimestampUs row.lastHeartbeatAtUtcUs &&
    BoundedOption maxTimestampUs row.cooldownUntilUtcUs &&
    if entry.1 = .sampling then row.currentStatus = none ∧ row.candidateStatus = none
    else decide (row.gapPhase = .clear) && (HealthEvaluationState.new? row.currentStatus
      row.candidateStatus row.consecutiveCount).isOk

/-- There is one valid row for each scope. -/
def validEvaluationRows (rows : List (AlertScope × EvaluationStateRow)) : Bool :=
  rows.length = alertScopes.length && rows.all validEvaluationRow &&
    alertScopes.all fun scope => scope ∈ rows.map Prod.fst

/-- `PRAGMA foreign_key_check` reports nothing. -/
def foreignKeysHold (t : Tables) : Prop :=
  (∀ r ∈ t.components, t.samples.Has r.sampleId) ∧
  (∀ r ∈ t.alerts.rows, t.SampleExists r.firstSampleId ∧ t.SampleExists r.latestSampleId) ∧
  (∀ s ∈ alertScopes, ∀ r ∈ t.evaluation s, t.SampleExists r.lastSampleId) ∧
  ∀ r ∈ t.events.rows, t.alerts.Has r.alertId ∧ t.SampleExists r.supportingSampleId

instance (t : Tables) : Decidable (foreignKeysHold t) := by
  unfold foreignKeysHold
  infer_instance

/-- The checkpoint, the replay ledger and the evaluator states fit. -/
def verifyCheckpoint (db : Database) : Except String Unit :=
  match db.checkpoint with
  | none => .error "ingestion_checkpoint_mismatch"
  | some row => do
    require "ingestion_checkpoint_mismatch" (validCheckpointRow row)
    require "ingestion_checkpoint_mismatch"
      (validReplayRows row (db.replay.rows.take (replayLedgerCapacity + 1)))

/-- Verify a database before its deadlines.  The page-level check that ends the verification sees
    nothing the model could break. -/
def verifySchemaV1 (db : Database) : Except String Unit := do
  require "application_identity_mismatch" (db.identity.applicationId = applicationId)
  require "schema_version_mismatch" (db.identity.userVersion = schemaVersion)
  require "auto_vacuum_mismatch" (db.identity.autoVacuum = autoVacuumIncremental)
  require "foreign_keys_disabled" (db.identity.foreignKeys = 1)
  verifyObjects db.identity.objects
  verifyMigrations (db.migrations.rows.take 2)
  verifyCheckpoint db
  require "evaluation_state_mismatch"
    (validEvaluationRows ((Ingestion.selectEvaluationRows db).take (alertScopes.length + 1)))
  require "foreign_key_violation" (foreignKeysHold db.toTables)

end Aurora.HealthHistory
