/-
  The scheduler: one sampling opportunity at a time over an open store.

  The cadence counts deadlines on a monotonic clock: a late check skips deadlines, and every
  opportunity that is consumed without an accepted observation adds one more miss.  The next sequence
  comes from the checkpoint of the store, read again at every opportunity.

  The methods change the scheduler before they may raise, so a call returns its result, or what it
  raised, beside the scheduler it leaves.
-/
import Mathlib.Algebra.Order.Field.Rat
import Mathlib.Data.Rat.Floor
import Aurora.HealthHistory.Orchestration

namespace Aurora.HealthHistory

/-- The interval between two samples that is configured by default. -/
def defaultSampleIntervalSeconds : Int := 30
/-- The shortest interval. -/
def minSampleIntervalSeconds : Int := 5
/-- The longest interval. -/
def maxSampleIntervalSeconds : Int := 300
/-- How often the dashboard asks by default. -/
def defaultDashboardRefreshSeconds : Int := 5

/-- What an opportunity reports. -/
inductive SchedulerOutcome
  | notDue | stored | stateOnly | replayed | collectionFailed | projectionFailed
  | sequenceExhausted | capacityBlocked | walOversizeBlocked | checkpointBusy
  | checkpointIncomplete | storageBusy | timedOut | persistenceFailed | trustFailed
  | unsupportedRuntime | invalidObservation | staleSequence | sequenceConflict
  | generationExhausted | invalidClock | reentrant
deriving DecidableEq, Repr

/-! ## The cadence -/

/-- One decision of the cadence and its missed deadlines. -/
structure SchedulerDueDecision where
  due : Bool
  missedIntervals : Int
  checkedMonotonic : ℚ
  nextDueMonotonic : ℚ
  missed : Bounded maxBoundedCounter missedIntervals
  checked : ValidMonotonic checkedMonotonic
  nextDue : ValidMonotonic nextDueMonotonic
  idle : due = false → missedIntervals = 0

/-- The next deadline, the last reading, and the misses no accepted observation has reported. -/
structure SchedulerCadenceState where
  plannedDueMonotonic : ℚ
  lastSeenMonotonic : ℚ
  pendingMissedIntervals : Int
  planned : ValidMonotonic plannedDueMonotonic
  lastSeen : ValidMonotonic lastSeenMonotonic
  pending : Bounded maxBoundedCounter pendingMissedIntervals

/-- `min(n, MAX_BOUNDED_COUNTER)` -/
def capped (n : Int) : Int := min n maxBoundedCounter

theorem capped_bounded {n : Int} (h : 0 ≤ n) : Bounded maxBoundedCounter (capped n) :=
  ⟨le_min h (by decide), min_le_right _ _⟩

namespace SchedulerCadenceState

/-- The cadence of a new scheduler: due at once. -/
def start (started : ℚ) (h : ValidMonotonic started) : SchedulerCadenceState :=
  ⟨started, started, 0, h, h, bounded_zero⟩

/-- How many whole intervals lie between the deadline and a reading. -/
def elapsedIntervals (s : SchedulerCadenceState) (now : ℚ) (interval : Int) : Int :=
  ⌊(now - s.plannedDueMonotonic) / interval⌋

/-- Past the planned time no negative number of intervals has elapsed. -/
theorem elapsedIntervals_nonneg {s : SchedulerCadenceState} {now : ℚ} {interval : Int}
    (hnow : ¬now < s.plannedDueMonotonic) (hinterval : minSampleIntervalSeconds ≤ interval) :
    0 ≤ s.elapsedIntervals now interval := by
  have hpositive : (0 : ℚ) ≤ interval := by
    have : (0 : Int) ≤ interval := le_trans (by decide) hinterval
    exact_mod_cast this
  exact Int.floor_nonneg.mpr (div_nonneg (sub_nonneg.mpr (not_lt.mp hnow)) hpositive)

/-- Evaluate one deadline without consuming it. -/
def decision (s : SchedulerCadenceState) (now : ℚ) (sampleIntervalSeconds : Int) :
    Except SchedulerRejection SchedulerDueDecision :=
  if hinterval : minSampleIntervalSeconds ≤ sampleIntervalSeconds ∧
      sampleIntervalSeconds ≤ maxSampleIntervalSeconds then
    if hnow : ValidMonotonic now then
      if now < s.lastSeenMonotonic then .error .invalidClock
      else if hplanned : now < s.plannedDueMonotonic then
        .ok ⟨false, 0, now, s.plannedDueMonotonic, bounded_zero, hnow, s.planned, fun _ => rfl⟩
      else
        let elapsed := s.elapsedIntervals now sampleIntervalSeconds
        let nextDue := s.plannedDueMonotonic + (elapsed + 1) * sampleIntervalSeconds
        if hnext : ¬ValidMonotonic nextDue ∨ nextDue ≤ now then .error .invalidClock
        else .ok ⟨true, capped elapsed, now, nextDue,
          capped_bounded (elapsedIntervals_nonneg hplanned hinterval.1), hnow,
          not_not.mp (not_or.mp hnext).1, nofun⟩
    else .error .invalidClock
  else .error .invalidConfiguration

/-- The state after a decision; `pending` replaces the pending misses. -/
def afterCheck (s : SchedulerCadenceState) (d : SchedulerDueDecision) (consumeDue : Bool)
    (pending : Option Int) : Except SchedulerRejection SchedulerCadenceState :=
  if d.checkedMonotonic < s.lastSeenMonotonic ∨ (consumeDue = true ∧ d.due = false) ∨
      (d.due = true ∧ (d.checkedMonotonic < s.plannedDueMonotonic ∨
        d.nextDueMonotonic ≤ d.checkedMonotonic)) ∨
      (d.due = false ∧ (s.plannedDueMonotonic ≤ d.checkedMonotonic ∨
        d.nextDueMonotonic ≠ s.plannedDueMonotonic)) then .error .invalidState
  else if hpending : Bounded maxBoundedCounter (pending.getD s.pendingMissedIntervals) then
    .ok {
      plannedDueMonotonic := if consumeDue then d.nextDueMonotonic else s.plannedDueMonotonic
      lastSeenMonotonic := d.checkedMonotonic
      pendingMissedIntervals := pending.getD s.pendingMissedIntervals
      planned := by
        split
        · exact d.nextDue
        · exact s.planned
      lastSeen := d.checked
      pending := hpending }
  else .error .invalidState

/-- One more miss for the next accepted observation. -/
def missed (s : SchedulerCadenceState) : SchedulerCadenceState where
  plannedDueMonotonic := s.plannedDueMonotonic
  lastSeenMonotonic := s.lastSeenMonotonic
  pendingMissedIntervals := capped (s.pendingMissedIntervals + 1)
  planned := s.planned
  lastSeen := s.lastSeen
  pending := capped_bounded (Int.add_nonneg s.pending.1 (by decide))

/-- An accepted observation has reported the misses, unless it marks a clock discontinuity. -/
def reported (s : SchedulerCadenceState) (kind : SampleKind) : SchedulerCadenceState where
  plannedDueMonotonic := s.plannedDueMonotonic
  lastSeenMonotonic := s.lastSeenMonotonic
  pendingMissedIntervals := if kind = .clockDiscontinuity then s.pendingMissedIntervals else 0
  planned := s.planned
  lastSeen := s.lastSeen
  pending := by
    split
    · exact s.pending
    · decide

end SchedulerCadenceState

/-! ## Results and state -/

/-- The result of an opportunity. -/
structure SchedulerResult where
  outcome : SchedulerOutcome
  observationSequence : Option Int
  missedIntervals : Int
  samplingOutcome : Option SchedulerOutcome
  maintenanceOutcome : Option OrchestrationOutcome
  sequence : ∀ n ∈ observationSequence, 1 ≤ n ∧ n ≤ maxObservationSequence
  missed : Bounded maxBoundedCounter missedIntervals

namespace SchedulerResult

/-- A result without a sample. -/
def ofOutcome (outcome : SchedulerOutcome) : SchedulerResult :=
  ⟨outcome, none, 0, none, none, nofun, bounded_zero⟩

/-- A result of a sample, under its sequence once that is known. -/
def ofSample (outcome : SchedulerOutcome) (observationSequence : Option Int)
    (missedIntervals : Int) (hs : ∀ n ∈ observationSequence, 1 ≤ n ∧ n ≤ maxObservationSequence)
    (hm : Bounded maxBoundedCounter missedIntervals) : SchedulerResult :=
  ⟨outcome, observationSequence, missedIntervals, some outcome, none, hs, hm⟩

/-- The result with another outcome. -/
def withOutcome (r : SchedulerResult) (outcome : SchedulerOutcome) : SchedulerResult :=
  { r with outcome := outcome }

/-- The result with the outcome of the maintenance. -/
def withMaintenance (r : SchedulerResult) (outcome : OrchestrationOutcome) : SchedulerResult :=
  { r with maintenanceOutcome := some outcome }

end SchedulerResult

/-- `None` once the last sequence is committed. -/
def nextSequence (state : SchedulerResumeState) : Option Int :=
  match state.lastCommittedSequence with
  | none => some 1
  | some sequence => if sequence = maxObservationSequence then none else some (sequence + 1)

/-- The next sequence of a checked state is a sequence. -/
theorem nextSequence_bounded (state : ResumeState) :
    ∀ n ∈ nextSequence state.1, 1 ≤ n ∧ n ≤ maxObservationSequence := by
  intro n hn
  have hcheck := state.2
  unfold SchedulerResumeState.check at hcheck
  simp only [require_bind_eq_ok, require_eq_ok] at hcheck
  unfold nextSequence at hn
  split at hn
  · obtain rfl := Option.some.inj hn
    decide
  · rename_i sequence hsequence
    split at hn
    · cases hn
    · rename_i hmax
      obtain rfl := Option.some.inj hn
      rcases hcheck.2 with ⟨hnone, -⟩ | ⟨⟨m, hm, hbounded⟩, -⟩
      · rw [hsequence] at hnone
        cases hnone
      · rw [hsequence] at hm
        obtain rfl := Option.some.inj hm
        unfold Bounded at hbounded
        omega

/-- The state between two calls: the sequence to use next is read off the resume state. -/
structure HealthHistoryScheduler where
  orchestrator : HealthHistoryOrchestrator
  sampleIntervalSeconds : Int
  resumeState : ResumeState
  cadenceState : SchedulerCadenceState
  nextSequence : Option Int
  startupMarkerPending : Bool
  next : nextSequence = Aurora.HealthHistory.nextSequence resumeState.1

/-- The outcomes of an observation that was accepted. -/
def acceptedObservationOutcomes : List OrchestrationOutcome := [.stored, .stateOnly, .replayed]

/-- The outcome of the same name. -/
def schedulerOutcome : OrchestrationOutcome → Except SchedulerRejection SchedulerOutcome
  | .stored => .ok .stored
  | .stateOnly => .ok .stateOnly
  | .replayed => .ok .replayed
  | .capacityBlocked => .ok .capacityBlocked
  | .walOversizeBlocked => .ok .walOversizeBlocked
  | .checkpointBusy => .ok .checkpointBusy
  | .checkpointIncomplete => .ok .checkpointIncomplete
  | .storageBusy => .ok .storageBusy
  | .timedOut => .ok .timedOut
  | .persistenceFailed => .ok .persistenceFailed
  | .trustFailed => .ok .trustFailed
  | .unsupportedRuntime => .ok .unsupportedRuntime
  | .invalidObservation => .ok .invalidObservation
  | .staleSequence => .ok .staleSequence
  | .sequenceConflict => .ok .sequenceConflict
  | .generationExhausted => .ok .generationExhausted
  | .invalidClock => .ok .invalidClock
  | .reentrant => .ok .reentrant
  | .maintenanceCompleted => .error .invalidState

/-- The outcome of a rejected opportunity. -/
def schedulerOutcomeFromRejection : SchedulerRejection → SchedulerOutcome
  | .invalidClock => .invalidClock
  | .reentrant => .reentrant
  | .storageBusy => .storageBusy
  | .persistenceFailed => .persistenceFailed
  | .trustFailed => .trustFailed
  | .invalidConfiguration => .trustFailed
  | .invalidState => .trustFailed

/-! ## Reading the store and the clocks -/

namespace HealthHistoryScheduler

open Program

/-- A program that raises the scheduler's own errors. -/
abbrev Guarded (α : Type) := Program historyInterface SchedulerRejection α

/-- `_read_monotonic` -/
def readMonotonic : Guarded ℚ :=
  invoke (I := historyInterface) (.monotonic .scheduler) fun (value : Option ℚ) =>
    match value with
    | some m => if ValidMonotonic m then .ok m else .error .invalidClock
    | none => .error .invalidClock

/-- The time as microseconds from the epoch. -/
def readUtcNow : Guarded Int :=
  invoke (I := historyInterface) .utcNow fun (value : Option Datetime) =>
    match value with
    | some (.aware (some us)) =>
      if Bounded maxTimestampUs us then .ok us else .error .invalidClock
    | _ => .error .invalidClock

/-- Close the store, once nothing in it can be trusted. -/
def closeStore : Guarded Unit := ask (I := historyInterface) .closeStore

/-- What a failed reading raises. -/
def resumeRejection : ResumeFailure → SchedulerRejection
  | .store => .trustFailed
  | .query e =>
    match e.reason with
    | .storageBusy => .storageBusy
    | .persistenceFailed => .persistenceFailed
    | _ => .trustFailed

/-- Read the resume state; a store that cannot be trusted is closed. -/
def readResumeState : Guarded ResumeState := do
  match ← ask (I := historyInterface) .getSchedulerResumeState with
  | .ok state => return state
  | .error e =>
    if resumeRejection e = .trustFailed then closeStore
    raise (resumeRejection e)

variable (s : HealthHistoryScheduler)

/-- The scheduler with a resume state just read. -/
def refreshed (resumed : ResumeState) : HealthHistoryScheduler :=
  { s with
    resumeState := resumed
    nextSequence := Aurora.HealthHistory.nextSequence resumed
    next := rfl }

/-- Read the resume state again; it may not fall behind the last one. -/
def refreshResumeState : Service (Except SchedulerOutcome HealthHistoryScheduler) := do
  match ← catching readResumeState with
  | .error e => return .error (schedulerOutcomeFromRejection e)
  | .ok resumed =>
    if ∃ previous ∈ s.resumeState.1.lastCommittedSequence,
        ∀ current ∈ resumed.1.lastCommittedSequence, current < previous then
      let _ ← catching closeStore
      return .error .trustFailed
    else return .ok (s.refreshed resumed)

/-! ## Recording -/

/-- `_sample_kind` -/
def sampleKind (recordedAt : Int) : SampleKind :=
  if ∃ previous ∈ s.resumeState.1.lastAcceptedObservedAtUtcUs, recordedAt < previous then
    .clockDiscontinuity
  else if s.startupMarkerPending then .startupGap
  else .heartbeat

/-- One more interval was missed. -/
def recordFailedSampling : HealthHistoryScheduler :=
  { s with cadenceState := s.cadenceState.missed }

/-- The checked constructor of a resume state. -/
def newResumeState (state : SchedulerResumeState) : Except HistoryException ResumeState :=
  match h : state.check with
  | .ok _ => .ok ⟨state, h⟩
  | .error text => .error (.value text)

/-- The observation is the last accepted one, and no interval is missed. -/
def recordAcceptedObservation (projection : HealthProjection) :
    Except HistoryException HealthHistoryScheduler :=
  (newResumeState {
    lastCommittedSequence := some projection.observationSequence
    lastAcceptedObservedAtUtcUs := some projection.observedAtUtcUs
    lastAcceptedSampleKind := some projection.sampleKind
    acceptedObservationCount := capped (s.resumeState.1.acceptedObservationCount + 1) }).map
    fun resumed => { s with
      resumeState := resumed
      nextSequence := Aurora.HealthHistory.nextSequence resumed
      startupMarkerPending := false
      cadenceState := s.cadenceState.reported projection.sampleKind
      next := rfl }

/-! ## The opportunity -/

/-- How a call ends, and the scheduler it leaves. -/
abbrev Ended := Except HistoryException SchedulerResult × HealthHistoryScheduler

/-- `replace(result, outcome=_scheduler_outcome(outcome))` -/
def withOrchestrationOutcome (result : SchedulerResult) (outcome : OrchestrationOutcome) :
    Except HistoryException SchedulerResult :=
  match schedulerOutcome outcome with
  | .ok o => .ok ((result.withOutcome o).withMaintenance outcome)
  | .error e => .error (.scheduler e)

/-- Evaluate the maintenance trigger and run one opportunity when it is due. -/
def finishWithMaintenance (result : SchedulerResult) : Service Ended := do
  match ← catching s.orchestrator.maintenanceTrigger with
  | .error (.orchestration .reentrant) => return (.ok (result.withOutcome .reentrant), s)
  | .error (.orchestration .invalidMonotonic) =>
    return (.ok (result.withOutcome .invalidClock), s)
  | .error _ => return (.ok (result.withOutcome .trustFailed), s)
  | .ok decision =>
    if decision.due then
      match ← catching s.orchestrator.runMaintenanceOpportunity with
      | .error _ => return (.ok (result.withOutcome .trustFailed), s)
      | .ok (maintenance, orchestrator) =>
        let s := { s with orchestrator := orchestrator }
        if maintenance.outcome = .maintenanceCompleted then
          return (.ok (result.withMaintenance maintenance.outcome), s)
        else return (withOrchestrationOutcome result maintenance.outcome, s)
    else return (.ok result, s)

/-- Process the observation; an exception counts as a lost trust. -/
def processObservation (projection : HealthProjection) :
    Service (ObservationCycleResult × HealthHistoryScheduler) := do
  match ← catching (s.orchestrator.processObservation projection) with
  | .error _ => return (⟨.trustFailed, false, trustFailed_permitted⟩, s)
  | .ok (observation, orchestrator) =>
    return (observation, { s with orchestrator := orchestrator })

/-- A sample about to be taken. -/
structure Opportunity where
  observationSequence : Int
  recordedAt : Int
  sampleKind : SampleKind
  reportedMissed : Int
  sequence : 1 ≤ observationSequence ∧ observationSequence ≤ maxObservationSequence
  missed : Bounded maxBoundedCounter reportedMissed

/-- The result of an opportunity that was due. -/
def Opportunity.result (o : Opportunity) (outcome : SchedulerOutcome) : SchedulerResult :=
  .ofSample outcome (some o.observationSequence) o.reportedMissed
    (fun _ h => Option.some.inj h ▸ o.sequence) o.missed

/-- What follows the projection of a report. -/
def observe (o : Opportunity) (projection : HealthProjection) : Service Ended := do
  let (observation, s) ← s.processObservation projection
  match schedulerOutcome observation.outcome with
  | .error e => return (.error (.scheduler e), s)
  | .ok outcome =>
    if observation.outcome ∈ acceptedObservationOutcomes then
      match s.recordAcceptedObservation projection with
      | .error e => return (.error e, s)
      | .ok s =>
        if observation.storageMaintenanceAttempted then return (.ok (o.result outcome), s)
        else s.finishWithMaintenance (o.result outcome)
    else return (.ok (o.result outcome), s.recordFailedSampling)

/-- Collect a report and project it. -/
def collect (fromisoformat : String → Option Datetime) (o : Opportunity) : Service Ended := do
  match ← ask (I := historyInterface) .healthReport with
  | none => s.recordFailedSampling.finishWithMaintenance (o.result .collectionFailed)
  | some none => s.recordFailedSampling.finishWithMaintenance (o.result .projectionFailed)
  | some (some report) =>
    match projectHealthReport fromisoformat report o.observationSequence
        (.aware (some o.recordedAt)) o.sampleKind o.reportedMissed with
    | .error (.rejection _) =>
      s.recordFailedSampling.finishWithMaintenance (o.result .projectionFailed)
    | .error (.raised text) => return (.error (.value text), s)
    | .ok projection => s.observe o projection

/-- The misses a sample of a kind reports. -/
def reportedMissed (kind : SampleKind) (cumulative : Int) : Int :=
  if kind = .clockDiscontinuity then 0 else cumulative

theorem reportedMissed_bounded {kind : SampleKind} {cumulative : Int}
    (h : Bounded maxBoundedCounter cumulative) :
    Bounded maxBoundedCounter (reportedMissed kind cumulative) := by
  unfold reportedMissed
  split
  · decide
  · exact h

/-- The opportunity at a time, for the next sequence. -/
def opportunity (observationSequence recordedAt cumulative : Int)
    (hs : 1 ≤ observationSequence ∧ observationSequence ≤ maxObservationSequence)
    (hm : Bounded maxBoundedCounter cumulative) : Opportunity where
  observationSequence := observationSequence
  recordedAt := recordedAt
  sampleKind := s.sampleKind recordedAt
  reportedMissed := reportedMissed (s.sampleKind recordedAt) cumulative
  sequence := hs
  missed := reportedMissed_bounded hm

/-- The next sequence number is in range. -/
theorem sequence_bounded {n : Int} (h : s.nextSequence = some n) :
    1 ≤ n ∧ n ≤ maxObservationSequence :=
  nextSequence_bounded s.resumeState n (s.next.symm.trans h)

/-- Take one sample under the next sequence. -/
def sample (fromisoformat : String → Option Datetime) (cumulative : Int)
    (hm : Bounded maxBoundedCounter cumulative) : Service Ended := do
  match h : s.nextSequence with
  | none => return (.ok (.ofOutcome .sequenceExhausted), s)
  | some sequence =>
    match ← catching readUtcNow with
    | .error _ =>
      return (.ok (.ofSample .invalidClock (some sequence) cumulative
        (fun _ hn => Option.some.inj hn ▸ s.sequence_bounded h) hm), s.recordFailedSampling)
    | .ok recordedAt =>
      s.collect fromisoformat (s.opportunity sequence recordedAt cumulative (s.sequence_bounded h) hm)

/-- The misses so far, with those of a decision. -/
def cumulativeMissed (d : SchedulerDueDecision) : Int :=
  capped (s.cadenceState.pendingMissedIntervals + d.missedIntervals)

theorem cumulativeMissed_bounded (d : SchedulerDueDecision) :
    Bounded maxBoundedCounter (s.cumulativeMissed d) :=
  capped_bounded (Int.add_nonneg s.cadenceState.pending.1 d.missed.1)

/-- Consume a deadline: the misses so far are pending until an observation reports them. -/
def consume (fromisoformat : String → Option Datetime) (d : SchedulerDueDecision) :
    Service Ended := do
  let cumulative := s.cumulativeMissed d
  have hm := s.cumulativeMissed_bounded d
  match s.cadenceState.afterCheck d true (some cumulative) with
  | .error e => return (.error (.scheduler e), s)
  | .ok cadence =>
    let s := { s with cadenceState := cadence }
    match ← s.refreshResumeState with
    | .error failure =>
      return (.ok (.ofSample failure none cumulative nofun hm), s.recordFailedSampling)
    | .ok s => s.sample fromisoformat cumulative hm

/-- The body of an opportunity, inside the guard. -/
def runDue (fromisoformat : String → Option Datetime) : Service Ended := do
  if s.nextSequence = none then return (.ok (.ofOutcome .sequenceExhausted), s)
  else
    match ← catching (do
      let now ← readMonotonic
      ofExcept (s.cadenceState.decision now s.sampleIntervalSeconds)) with
    | .error _ => return (.ok (.ofOutcome .invalidClock), s)
    | .ok d =>
      if d.due then s.consume fromisoformat d
      else
        match s.cadenceState.afterCheck d false none with
        | .error e => return (.error (.scheduler e), s)
        | .ok cadence => return (.ok (.ofOutcome .notDue), { s with cadenceState := cadence })

/-- Run at most one collection, projection, observation and maintenance. -/
def runDueOpportunity (fromisoformat : String → Option Datetime) : Service Ended := do
  if ← Service.acquire .scheduler then s.runDue fromisoformat
  else return (.ok (.ofOutcome .reentrant), s)

/-- Check the deadline without consuming it. -/
def isDue : Service (Except SchedulerRejection SchedulerDueDecision × HealthHistoryScheduler) := do
  if ← Service.acquire .scheduler then
    match ← catching (do
      let now ← readMonotonic
      ofExcept (s.cadenceState.decision now s.sampleIntervalSeconds)) with
    | .error e => return (.error e, s)
    | .ok d =>
      match s.cadenceState.afterCheck d false none with
      | .error e => return (.error e, s)
      | .ok cadence => return (.ok d, { s with cadenceState := cadence })
  else return (.error .reentrant, s)

/-- `_validate_scheduler_intervals` -/
def validIntervals (sampleInterval dashboardRefresh : Int) : Prop :=
  (minSampleIntervalSeconds ≤ sampleInterval ∧ sampleInterval ≤ maxSampleIntervalSeconds) ∧
    (1 ≤ dashboardRefresh ∧ dashboardRefresh ≤ maxSampleIntervalSeconds) ∧
      dashboardRefresh ≤ sampleInterval

instance (sampleInterval dashboardRefresh : Int) :
    Decidable (validIntervals sampleInterval dashboardRefresh) :=
  inferInstanceAs (Decidable (_ ∧ _))

/-- Construct a scheduler over an open store. -/
def new (orchestrator : HealthHistoryOrchestrator) (sampleInterval dashboardRefresh : Int) :
    Guarded HealthHistoryScheduler := do
  if validIntervals sampleInterval dashboardRefresh then
    let resumed ← readResumeState
    let started ← readMonotonic
    if h : ValidMonotonic started then
      return {
        orchestrator := orchestrator
        sampleIntervalSeconds := sampleInterval
        resumeState := resumed
        cadenceState := .start started h
        nextSequence := Aurora.HealthHistory.nextSequence resumed
        startupMarkerPending := true
        next := rfl }
    else raise .invalidClock
  else raise .invalidConfiguration

end HealthHistoryScheduler

end Aurora.HealthHistory
