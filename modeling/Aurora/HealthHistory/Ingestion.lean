/-
  One-transaction ingestion of a health projection.

  `classify` reads the checkpoint and the replay ledger and decides whether a projection is new, a
  replay or to be rejected.  `ingestAccepted` is the rest of the transaction for a new one: archive
  what is due, evaluate the scopes, decide whether to store a sample, plan the alerts, write.
  `ingestProjection` runs both on a connection that may fail anywhere, with the source's handlers.
-/
import Mathlib.Data.List.Sort
import Aurora.HealthHistory.Evaluation
import Aurora.HealthHistory.SamplingGap
import Aurora.HealthHistory.Schema

namespace Aurora.HealthHistory

/-- A quarter of an hour, in microseconds. -/
def heartbeatIntervalUs : Int := 15 * 60 * 1000000
/-- The most alerts an ingest may find due. -/
def maxRelevantAlerts : Nat := 11

/-- What an ingest reports. -/
inductive IngestionOutcome
  | replayed | stateOnly | transitionStored | heartbeatStored | startupMarkerStored
  | clockMarkerStored
deriving DecidableEq, Repr

namespace Ingestion

/-- `raise IngestionError(MALFORMED_STATE, trust_lost=True)` -/
def malformed {α : Type} : Except Raised α := .error (.ingestion .malformedState)

/-- The check of a value read from storage. -/
def trust (p : Prop) [Decidable p] : Except Raised Unit :=
  require (.ingestion .malformedState) p

/-- A checked constructor whose `ValueError` is not caught here. -/
def construct {α : Type} : Except String α → Except Raised α
  | .ok a => .ok a
  | .error text => .error (.value text)

/-- A checked constructor whose `ValueError` means malformed state. -/
def constructTrusted {α : Type} : Except String α → Except Raised α
  | .ok a => .ok a
  | .error _ => malformed

/-! ## The checkpoint and the replay ledger -/

/-- What the replay ledger knows of an accepted observation. -/
structure ReplayEntry where
  sequence : Int
  observedAt : Int
  digest : Bytes
  sampleKind : SampleKind
deriving DecidableEq

/-- The last accepted observation, if any, and the saturating number of accepted ones. -/
structure Checkpoint where
  latest : Option ReplayEntry
  acceptedCount : Int
deriving DecidableEq

/-- The sequence that was accepted last. -/
def Checkpoint.sequence (c : Checkpoint) : Option Int := c.latest.map ReplayEntry.sequence

/-- The checkpoint a stored row says, if it can be trusted. -/
def decodeCheckpoint : Option IngestionCheckpointRow → Except Raised Checkpoint
  | none => malformed
  | some row => do
    trust (Bounded maxBoundedCounter row.acceptedObservationCount)
    match row.lastCommittedSequence, row.lastAcceptedObservedAtUtcUs,
        row.lastAcceptedProjectionDigest, row.lastAcceptedSampleKind with
    | none, none, none, none =>
      trust (row.acceptedObservationCount = 0)
      return ⟨none, 0⟩
    | some sequence, some observed, some digest, some kind =>
      trust (Bounded maxObservationSequence sequence ∧ Bounded maxTimestampUs observed ∧
        digest.length = projectionDigestBytes ∧ row.acceptedObservationCount ≥ 1)
      return ⟨some ⟨sequence, observed, digest, kind⟩, row.acceptedObservationCount⟩
    | _, _, _, _ => malformed

/-- `_read_checkpoint` -/
def readCheckpoint : Transaction Checkpoint := do
  attempt (decodeCheckpoint (← select fun db => db.checkpoint))

/-- The entry a ledger row says, if it can be trusted. -/
def replayEntry (row : AcceptedObservationRow) : Except Raised ReplayEntry := do
  trust (Bounded maxObservationSequence row.observationSequence ∧
    Bounded maxTimestampUs row.observedAtUtcUs ∧
    row.projectionDigest.length = projectionDigestBytes)
  return ⟨row.observationSequence, row.observedAtUtcUs, row.projectionDigest,
    row.acceptedSampleKind⟩

/-- The newest ledger rows, one more than the ledger may hold. -/
def newestReplayRows (db : Database) : List AcceptedObservationRow :=
  db.replay.rows.reverse.take (replayLedgerCapacity + 1)

/-- The ledger has the length the checkpoint asks for, and ends with its observation. -/
def checkReplayAnchor (checkpoint : Checkpoint) (rows : List AcceptedObservationRow) :
    Except Raised Unit := do
  trust ((rows.length : Int) = min checkpoint.acceptedCount replayLedgerCapacity)
  if checkpoint.latest ≠ none then
    let retained ← rows.mapM replayEntry
    trust (retained.head? = checkpoint.latest)

/-- `_validate_replay_anchor` -/
def validateReplayAnchor (checkpoint : Checkpoint) : Transaction Unit := do
  attempt (checkReplayAnchor checkpoint (← select newestReplayRows))

/-- Compare a projection with the ledger row of its sequence. -/
def matchReplayRow (projection : HealthProjection) :
    Option AcceptedObservationRow → Except Raised Bool
  | none => .error (.ingestion ⟨.staleSequence, false⟩)
  | some row => do
    let accepted ← replayEntry row
    if projection.observedAtUtcUs = accepted.observedAt ∧ projection.digest = accepted.digest ∧
        projection.sampleKind = accepted.sampleKind then
      return true
    else .error (.ingestion ⟨.sequenceConflict, false⟩)

/-- `true` for a replay, `false` for a new observation. -/
def isReplayOrRejectStale (checkpoint : Checkpoint) (projection : HealthProjection) :
    Transaction Bool :=
  if ∀ last ∈ checkpoint.sequence, projection.observationSequence > last then return false
  else do
    attempt (matchReplayRow projection
      (← select fun db => db.replay.find? projection.observationSequence))

/-! ## Evaluator rows -/

/-- The evaluator rows under their scopes. -/
abbrev EvaluationRows := AlertScope → EvaluationStateRow

/-- The row `create_schema_v1` inserts. -/
def freshEvaluationRow : EvaluationStateRow := ⟨none, none, 0, none, none, .clear, none⟩

/-- The scopes in the order of their texts. -/
def scopesByText : List AlertScope :=
  [.capture, .hyperhdr, .overall, .raspberryPi, .sampling, .wled]

/-- The evaluator rows, in the order of the texts of their scopes. -/
def selectEvaluationRows (db : Database) : List (AlertScope × EvaluationStateRow) :=
  scopesByText.filterMap fun scope => (db.evaluation scope).map fun row => (scope, row)

/-- One evaluator row can be trusted. -/
def checkEvaluationRow (entry : AlertScope × EvaluationStateRow) : Except Raised Unit := do
  let row := entry.2
  trust (Bounded maxBoundedCounter row.consecutiveCount)
  trust (∀ i ∈ row.lastSampleId, 1 ≤ i)
  trust (BoundedOption maxTimestampUs row.lastHeartbeatAtUtcUs ∧
    BoundedOption maxTimestampUs row.cooldownUntilUtcUs)
  if entry.1 ≠ .sampling then
    let _ ← construct (HealthEvaluationState.new? row.currentStatus row.candidateStatus
      row.consecutiveCount)
    trust (row.gapPhase = .clear)
  else trust (row.currentStatus = none ∧ row.candidateStatus = none)

/-- There is one trusted row for every scope. -/
def decodeEvaluationRows (rows : List (AlertScope × EvaluationStateRow)) :
    Except Raised EvaluationRows := do
  trust (rows.length = alertScopes.length)
  rows.forM checkEvaluationRow
  trust (∀ scope ∈ alertScopes, scope ∈ rows.map Prod.fst)
  return fun scope => (rows.lookup scope).getD freshEvaluationRow

/-- `_read_evaluation_rows` -/
def readEvaluationRows : Transaction EvaluationRows := do
  attempt (decodeEvaluationRows (← select selectEvaluationRows))

/-! ## Stored alerts -/

/-- An alert as the automatic lifecycle sees it, with its identifier. -/
structure StoredAlert where
  alertId : Int
  state : AutomaticAlertState
deriving DecidableEq

/-- The alert a row says, if it can be trusted. -/
def storedAlert (row : AlertRow) : Except Raised StoredAlert := do
  trust (1 ≤ row.id)
  let state ← constructTrusted (AutomaticAlertState.new? row.scope row.kind row.lifecycle
    row.episodeCount row.occurrenceCount row.cooldownUntilUtcUs row.recoveredAtUtcUs)
  return ⟨row.id, state⟩

/-- The rows of a pair, by id. -/
def pairRows (db : Database) (pair : AlertPair) : List AlertRow :=
  db.alerts.rows.filter fun r => r.pair = pair

/-- The open and acknowledged rows of a pair, by id. -/
def activeRows (db : Database) (pair : AlertPair) : List AlertRow :=
  (pairRows db pair).filter fun r => r.lifecycle.Active

/-- The active alerts of a health scope; three are enough to see that there are too many. -/
def selectActiveHealthAlerts (scope : AlertScope) (db : Database) : List AlertRow :=
  (activeRows db (scope, .degraded) ++ activeRows db (scope, .unavailable)).take 3

/-- The active alerts of one kind. -/
def selectActivePairAlert (scope : AlertScope) (kind : AlertKind) (db : Database) :
    List AlertRow :=
  (activeRows db (scope, kind)).take 2

/-- The active alerts of one kind, newest first. -/
def selectCurrentActiveAlert (scope : AlertScope) (kind : AlertKind) (db : Database) :
    List AlertRow :=
  (activeRows db (scope, kind)).reverse.take 2

/-- The last alert of one kind that has ended. -/
def selectLatestTerminalAlert (scope : AlertScope) (kind : AlertKind) (db : Database) :
    Option AlertRow :=
  ((pairRows db (scope, kind)).filter fun r => r.lifecycle.Terminal).getLast?

/-- The order `cooldown_until_utc_us, id`. -/
def byCooldown (a b : AlertRow) : Prop :=
  a.cooldownUntilUtcUs < b.cooldownUntilUtcUs ∨
    a.cooldownUntilUtcUs = b.cooldownUntilUtcUs ∧ a.id ≤ b.id

instance : DecidableRel byCooldown := fun _ _ => inferInstanceAs (Decidable (_ ∨ _ ∧ _))

/-- A recovered alert whose cooldown has passed. -/
def Eligible (now : Int) (r : AlertRow) : Prop :=
  r.lifecycle = .recovered ∧ r.cooldownUntilUtcUs ≤ now

instance (now : Int) (r : AlertRow) : Decidable (Eligible now r) :=
  inferInstanceAs (Decidable (_ ∧ _))

/-- The alerts that are due for the archive, by the end of their cooldown. -/
def selectEligibleRecoveredAlerts (now : Int) (limit : Nat) (db : Database) : List AlertRow :=
  ((db.alerts.rows.filter fun r => Eligible now r).insertionSort byCooldown).take limit

/-- `_active_health_alerts` -/
def activeHealthAlerts (scope : AlertScope) : Transaction (List StoredAlert) := do
  let rows ← select (selectActiveHealthAlerts scope)
  attempt (trust (rows.length ≤ 2))
  attempt (rows.mapM storedAlert)

/-- `_current_or_latest_alert` -/
def currentOrLatestAlert (scope : AlertScope) (kind : AlertKind) :
    Transaction (Option StoredAlert) := do
  let active ← select (selectCurrentActiveAlert scope kind)
  attempt (trust (active.length ≤ 1))
  match active with
  | row :: _ => some <$> attempt (storedAlert row)
  | [] =>
    match ← select (selectLatestTerminalAlert scope kind) with
    | none => return none
    | some row => some <$> attempt (storedAlert row)

/-! ## Evaluation -/

/-- The scopes of the health evaluators, in the order they are evaluated. -/
def healthScopes : List AlertScope := [.overall, .wled, .hyperhdr, .capture, .raspberryPi]

/-- The component with a scope's text, if the scope is a component's. -/
def scopeComponent : AlertScope → Option ComponentName
  | .wled => some .wled
  | .hyperhdr => some .hyperhdr
  | .capture => some .capture
  | .raspberryPi => some .raspberryPi
  | _ => none

/-- The only reason is that the component is switched off. -/
def disabledReasons : List NormalizedReason → Bool
  | [reason] => reason ∈ NormalizedReason.disabled
  | _ => false

/-- The scope is unhealthy because it was switched off. -/
def intentionalDisabled (projection : HealthProjection) :
    Option ComponentProjection → Bool
  | some component => disabledReasons component.reasons
  | none =>
    if projection.overallStatus = .healthy then false
    else
      let worst := projection.components.filter fun c => c.status = projection.overallStatus
      !worst.isEmpty && worst.all fun c => disabledReasons c.reasons

/-- The component a scope is about; the overall scope is about none. -/
def observedComponent (projection : HealthProjection) (scope : AlertScope) :
    Except Raised (Option ComponentProjection) :=
  match scopeComponent scope with
  | none => .ok none
  | some name =>
    match projection.components.find? fun c => c.component = name with
    | some c => .ok (some c)
    | none => .error (.value "KeyError")

/-- The status a projection shows of a scope. -/
def observedStatus (projection : HealthProjection) : Option ComponentProjection →
    HealthHistoryStatus
  | none => projection.overallStatus
  | some c => c.status

/-- Evaluate one health scope. -/
def evaluateHealthScope (rows : EvaluationRows) (projection : HealthProjection)
    (scope : AlertScope) : Transaction (AlertScope × HealthEvaluationTransition) := do
  let row := rows scope
  let component ← attempt (observedComponent projection scope)
  let state ← attempt (construct (HealthEvaluationState.new? row.currentStatus
    row.candidateStatus row.consecutiveCount))
  let active ← activeHealthAlerts scope
  let observation ← attempt (construct (HealthEvaluationInput.new?
    (observedStatus projection component) (intentionalDisabled projection component)
    (!active.isEmpty) true))
  return (scope, evaluateHealthState state observation)

/-- `_evaluate_health_scopes` -/
def evaluateHealthScopes (rows : EvaluationRows) (projection : HealthProjection) :
    Transaction (List (AlertScope × HealthEvaluationTransition)) :=
  healthScopes.mapM (evaluateHealthScope rows projection)

/-- `_evaluate_gap` -/
def evaluateGap (rows : EvaluationRows) (checkpoint : Checkpoint)
    (projection : HealthProjection) : Except Raised SamplingGapTransition := do
  let row := rows .sampling
  let state ← construct (SamplingGapState.new? row.gapPhase checkpoint.acceptedCount
    row.consecutiveCount checkpoint.sequence)
  let observation ← construct (SamplingGapObservation.new? projection.observationSequence
    projection.missedIntervals true true (projection.sampleKind = .startupGap)
    (projection.sampleKind = .clockDiscontinuity))
  return evaluateSamplingGap state observation

end Ingestion

/-! ## Stored samples -/

/-- The projection of one component a stored row holds. -/
def ComponentSampleRow.projection (row : ComponentSampleRow) : ComponentProjection where
  component := row.component
  status := row.status
  reasons := [some row.reasonCode1, row.reasonCode2, row.reasonCode3].filterMap id
  checkedAtUtcUs := row.checkedAtUtcUs
  latencyMs := row.latencyMs
  lastSuccessfulAtUtcUs := row.lastSuccessfulAtUtcUs

/-- The component rows of a sample; the fifth would be one too many. -/
def selectComponents (sampleId : Int) (db : Database) : List ComponentSampleRow :=
  (db.components.filter fun r => r.sampleId = sampleId).take 5

/-- The accepted projection a sample row and its component rows hold. -/
def rebuildProjection (sample : HealthSampleRow) (rows : List ComponentSampleRow) :
    Except String HealthProjection := do
  require "invalid_component_count" (rows.length = componentOrder.length)
  let components := rows.map ComponentSampleRow.projection
  components.forM ComponentProjection.check
  require "duplicate_component" (components.map ComponentProjection.component).Nodup
  let ordered := componentOrder.filterMap fun name =>
    components.find? fun c => c.component = name
  require "invalid_components" (ordered.length = componentOrder.length)
  let projection : HealthProjection := {
    schemaVersion := 1
    observationSequence := sample.observationSequence
    observedAtUtcUs := sample.observedAtUtcUs
    recordedAtUtcUs := sample.recordedAtUtcUs
    overallStatus := sample.overallStatus
    serviceUptimeMs := sample.serviceUptimeMs
    sampleKind := sample.acceptedSampleKind
    missedIntervals := sample.missedIntervals
    components := ordered
    digest := sample.projectionDigest }
  match validateHealthProjection projection with
  | .ok _ => return projection
  | .error _ => .error "invalid_report"

/-- What the evaluators compare a new projection with. -/
structure BaselineContent where
  overallStatus : HealthHistoryStatus
  components : List (ComponentName × HealthHistoryStatus × List NormalizedReason)
deriving DecidableEq

/-- What a projection has in common with the samples that stand for it. -/
def HealthProjection.content (p : HealthProjection) : BaselineContent where
  overallStatus := p.overallStatus
  components := p.components.map fun c => (c.component, c.status, c.reasons)

namespace Ingestion

/-! ## The storage decision -/

/-- Whether an observation gets a sample, and of which kind. -/
structure StorageDecision where
  outcome : IngestionOutcome
  storedKind : Option SampleKind
  updatesEvaluatorBaseline : Bool
deriving DecidableEq

/-- The checks of the baseline row before its components are read. -/
def checkBaselineSample (lastCommittedSequence : Option Int) : Option HealthSampleRow →
    Except Raised HealthSampleRow
  | none => malformed
  | some sample => do
    trust sample.Check
    trust (∃ last ∈ lastCommittedSequence, sample.observationSequence ≤ last)
    return sample

/-- The content of the sample that was stored last. -/
def readBaselineSample (sampleId : Int) (lastCommittedSequence : Option Int) :
    Transaction BaselineContent := do
  let sample ← attempt (checkBaselineSample lastCommittedSequence
    (← select fun db => db.samples.find? sampleId))
  let rows ← select (selectComponents sampleId)
  let accepted ← attempt (constructTrusted (rebuildProjection sample rows))
  return accepted.content

/-- The sample the evaluator rows point to, if they agree on one. -/
def baselineSampleReference (rows : EvaluationRows) (lastCommittedSequence : Option Int) :
    Transaction (Option Int) :=
  if ∀ scope ∈ alertScopes, (rows scope).lastSampleId = none then return none
  else
    match (rows .overall).lastSampleId with
    | none => attempt malformed
    | some sampleId => do
      attempt (trust (∀ scope ∈ alertScopes, (rows scope).lastSampleId = some sampleId))
      let _ ← readBaselineSample sampleId lastCommittedSequence
      return some sampleId

/-- A status or a reason list differs from the baseline. -/
def contentChanged (previous : BaselineContent) (projection : HealthProjection) : Bool :=
  previous.overallStatus ≠ projection.overallStatus || projection.components.any fun c =>
    previous.components.lookup c.component ≠ some (c.status, c.reasons)

/-- The projection differs from the sample that was stored last. -/
def projectionChanged (sampleId : Int) (projection : HealthProjection)
    (lastCommittedSequence : Option Int) : Transaction Bool := do
  let previous ← readBaselineSample sampleId lastCommittedSequence
  return contentChanged previous projection

/-- The decision for a heartbeat-kind observation that changed nothing. -/
def heartbeatDecision (lastHeartbeat : Option Int) (recordedAt : Int) :
    Except Raised StorageDecision :=
  match lastHeartbeat with
  | none => malformed
  | some last =>
    if recordedAt ≥ last ∧ recordedAt - last ≥ heartbeatIntervalUs then
      .ok ⟨.heartbeatStored, some .heartbeat, true⟩
    else .ok ⟨.stateOnly, none, true⟩

/-- `_storage_decision` -/
def storageDecision (rows : EvaluationRows) (checkpoint : Checkpoint)
    (projection : HealthProjection) : Transaction StorageDecision := do
  let baseline ← baselineSampleReference rows checkpoint.sequence
  attempt (trust ¬(checkpoint.sequence = none ∧ baseline ≠ none))
  let updates := !decide (checkpoint.sequence ≠ none ∧ baseline = none)
  match projection.sampleKind with
  | .startupGap => return ⟨.startupMarkerStored, some .startupGap, updates⟩
  | .clockDiscontinuity => return ⟨.clockMarkerStored, some .clockDiscontinuity, updates⟩
  | _ =>
    match baseline with
    | none => return ⟨.transitionStored, some .transition, true⟩
    | some sampleId =>
      if ← projectionChanged sampleId projection checkpoint.sequence then
        return ⟨.transitionStored, some .transition, true⟩
      else attempt (heartbeatDecision (rows .overall).lastHeartbeatAtUtcUs
        projection.recordedAtUtcUs)

/-- An observation that changes an alert is stored at least as a transition. -/
def forceTransitionStorage (decision : StorageDecision) : StorageDecision :=
  if decision.storedKind ∈ [some .transition, some .startupGap, some .clockDiscontinuity] then
    decision
  else ⟨.transitionStored, some .transition, true⟩

/-! ## Planning alerts -/

/-- A lifecycle transition, and the stored alert it changes. -/
structure AlertPlan where
  existingAlertId : Option Int
  transition : AutomaticAlertTransition

/-- The kind of the alert an unhealthy status asks for. -/
def alertKindOfStatus : HealthHistoryStatus → Option AlertKind
  | .degraded => some .degraded
  | .unavailable => some .unavailable
  | .healthy => none

/-- Open the alert, or count one more occurrence of it. -/
def planOpenAlert (scope : AlertScope) (kind : AlertKind) (now : Int) :
    Transaction AlertPlan := do
  let stored ← currentOrLatestAlert scope kind
  let request ← attempt (construct (AutomaticAlertInput.new? .open scope kind now none))
  let transition := evaluateAutomaticAlert (stored.map StoredAlert.state) request
  if transition.outcome = .rejected then raiseIngestion ⟨.generationExhausted, false⟩
  else do
    attempt (trust (transition.outcome = .applied ∨ transition.outcome = .idempotent))
    return ⟨stored.map StoredAlert.alertId, transition⟩

/-- Escalate an active degraded alert to an unavailable one. -/
def planEscalation (degraded : StoredAlert) (scope : AlertScope) (now : Int) :
    Transaction AlertPlan := do
  let request ← attempt (construct (AutomaticAlertInput.new? .escalate scope .degraded now
    (some .unavailable)))
  let transition := evaluateAutomaticAlert (some degraded.state) request
  if transition.outcome = .rejected then raiseIngestion ⟨.generationExhausted, false⟩
  else do
    attempt (trust (transition.event = some .opened))
    return ⟨some degraded.alertId, transition⟩

/-- `_plan_health_condition` -/
def planHealthCondition (scope : AlertScope) (kind : AlertKind) (now : Int) :
    Transaction AlertPlan :=
  if kind ≠ .unavailable then planOpenAlert scope kind now
  else do
    match ← currentOrLatestAlert scope .unavailable with
    | some _ => planOpenAlert scope kind now
    | none =>
      match (← activeHealthAlerts scope).find? fun stored => stored.state.kind = .degraded with
      | none => planOpenAlert scope kind now
      | some degraded => planEscalation degraded scope now

/-- Recover one alert. -/
def recoveryPlan (now : Int) (stored : StoredAlert) : Except Raised AlertPlan := do
  let request ← construct (AutomaticAlertInput.new? .recover stored.state.scope
    stored.state.kind now none)
  let transition := evaluateAutomaticAlert (some stored.state) request
  trust (transition.event = some .recovered)
  return ⟨some stored.alertId, transition⟩

/-- Recover the active alerts of a health scope. -/
def planHealthRecovery (scope : AlertScope) (now : Int) : Transaction (List AlertPlan) := do
  attempt ((← activeHealthAlerts scope).mapM (recoveryPlan now))

/-- Recover the active alert of one kind. -/
def planPairRecovery (scope : AlertScope) (kind : AlertKind) (now : Int) :
    Transaction (List AlertPlan) := do
  let rows ← select (selectActivePairAlert scope kind)
  attempt (trust (rows.length ≤ 1))
  match rows with
  | [] => return []
  | row :: _ => do
    let stored ← attempt (storedAlert row)
    return [← attempt (recoveryPlan now stored)]

/-- The plans of one health scope. -/
def planHealthScope (now : Int) (entry : AlertScope × HealthEvaluationTransition) :
    Transaction (List AlertPlan) :=
  match entry.2.event with
  | .conditionConfirmed =>
    match entry.2.state.currentStatus.bind alertKindOfStatus with
    | none => attempt malformed
    | some kind => do return [← planHealthCondition entry.1 kind now]
  | .recoveryConfirmed => planHealthRecovery entry.1 now
  | .none => return []

/-- The gap evaluator asks for an open sampling alert. -/
def gapCondition (gap : SamplingGapTransition) (observationHasMiss : Bool) : Prop :=
  gap.event = .opened ∨ (gap.state.phase = .active ∧ observationHasMiss = true ∧
    (gap.event = .missRecorded ∨ gap.event = .recoveryReset))

instance (gap : SamplingGapTransition) (observationHasMiss : Bool) :
    Decidable (gapCondition gap observationHasMiss) :=
  inferInstanceAs (Decidable (_ ∨ _ ∧ _ ∧ _))

/-- The plans of the sampling scope. -/
def planGap (gap : SamplingGapTransition) (now : Int) (observationHasMiss : Bool) :
    Transaction (List AlertPlan) :=
  if gapCondition gap observationHasMiss then do
    return [← planOpenAlert .sampling .samplingGap now]
  else if gap.event = .recovered then planPairRecovery .sampling .samplingGap now
  else return []

/-- `_plan_automatic_alerts` -/
def planAutomaticAlerts (health : List (AlertScope × HealthEvaluationTransition))
    (gap : SamplingGapTransition) (now : Int) (gapObservationHasMiss : Bool) :
    Transaction (List AlertPlan) := do
  let plans ← health.mapM (planHealthScope now)
  return plans.flatten ++ (← planGap gap now gapObservationHasMiss)

/-- Some plan opens or recovers an alert, so the sample has to be stored. -/
def requiresSupportingSample (plans : List AlertPlan) : Bool :=
  plans.any fun plan =>
    plan.transition.event = some .opened || plan.transition.event = some .recovered

/-- The observation reports missed intervals and is not the discontinuity marker. -/
def gapObservationHasMiss (projection : HealthProjection) : Bool :=
  projection.missedIntervals > 0 && projection.sampleKind ≠ .clockDiscontinuity

end Ingestion

end Aurora.HealthHistory
