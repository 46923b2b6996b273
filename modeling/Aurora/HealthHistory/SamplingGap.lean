/-
  The sampling-gap evaluator: which missed sampling intervals amount to a gap.

  One observation that reports two or more missed intervals opens a gap; a single missed interval
  only makes the scope a candidate.  Two observations on time close an open gap.  Markers (startup,
  clock discontinuity) are recorded without counting as on time.
-/
import Aurora.HealthHistory.Models

namespace Aurora.HealthHistory

/-- The events the evaluator reports. -/
inductive SamplingGapEvent
  | none | candidateStarted | candidateCleared | opened | missRecorded | recoveryStarted
  | recoveryReset | recovered | markerRecorded | duplicateIgnored | persistenceFailed
  | sampleUnusable
deriving DecidableEq, Repr

/-! ## Observations and states -/

/-- What one sampling opportunity reports. -/
structure SamplingGapObservation where
  sequence : Int
  missedIntervals : Int
  persistenceSucceeded : Bool
  healthCollectionSucceeded : Bool
  startupGapMarker : Bool
  clockDiscontinuityMarker : Bool
  sequenceBounded : Bounded maxTimestampUs sequence
  missedNonnegative : 0 ≤ missedIntervals
  markers : ¬(startupGapMarker = true ∧ clockDiscontinuityMarker = true)

/-- The constructor's checks, in the source's order. -/
def SamplingGapObservation.new? (sequence missedIntervals : Int)
    (persistenceSucceeded healthCollectionSucceeded startupGapMarker clockDiscontinuityMarker :
      Bool) : Except String SamplingGapObservation :=
  if hs : Bounded maxTimestampUs sequence then
    if hm : 0 ≤ missedIntervals then
      if hc : ¬(startupGapMarker = true ∧ clockDiscontinuityMarker = true) then
        .ok ⟨sequence, missedIntervals, persistenceSucceeded, healthCollectionSucceeded,
          startupGapMarker, clockDiscontinuityMarker, hs, hm, hc⟩
      else .error "conflicting_gap_markers"
    else .error "invalid_missed_intervals"
  else .error "invalid_gap_sequence"

/-- What the sampling scope remembers. -/
structure SamplingGapState where
  phase : SamplingGapPhase
  committedObservations : Int
  largestMissedIntervalReport : Int
  lastCommittedSequence : Option Int
  committedBounded : Bounded maxBoundedCounter committedObservations
  largestBounded : Bounded maxBoundedCounter largestMissedIntervalReport
  sequenceBounded : BoundedOption maxTimestampUs lastCommittedSequence

instance : DecidableEq SamplingGapState := fun a b =>
  decidable_of_iff (a.phase = b.phase ∧ a.committedObservations = b.committedObservations ∧
      a.largestMissedIntervalReport = b.largestMissedIntervalReport ∧
      a.lastCommittedSequence = b.lastCommittedSequence) (by
    cases a
    cases b
    rw [SamplingGapState.mk.injEq])

/-- The constructor's checks, in the source's order. -/
def SamplingGapState.new? (phase : SamplingGapPhase)
    (committedObservations largestMissedIntervalReport : Int)
    (lastCommittedSequence : Option Int) : Except String SamplingGapState :=
  if hc : Bounded maxBoundedCounter committedObservations then
    if hl : Bounded maxBoundedCounter largestMissedIntervalReport then
      if hs : BoundedOption maxTimestampUs lastCommittedSequence then
        .ok ⟨phase, committedObservations, largestMissedIntervalReport, lastCommittedSequence,
          hc, hl, hs⟩
      else .error "invalid_last_committed_sequence"
    else .error "invalid_largest_missed_interval_report"
  else .error "invalid_committed_observations"

namespace SamplingGapState

/-- The state with the observation counted and its sequence recorded. -/
def commit (state : SamplingGapState) (observation : SamplingGapObservation) :
    SamplingGapState where
  phase := state.phase
  committedObservations := min (state.committedObservations + 1) maxBoundedCounter
  largestMissedIntervalReport := state.largestMissedIntervalReport
  lastCommittedSequence := some observation.sequence
  committedBounded := by
    have := state.committedBounded
    unfold Bounded maxBoundedCounter at *
    omega
  largestBounded := state.largestBounded
  sequenceBounded := (boundedOption_some _ _).mpr observation.sequenceBounded

/-- The state in another phase. -/
def withPhase (state : SamplingGapState) (phase : SamplingGapPhase) : SamplingGapState :=
  { state with phase := phase }

/-- The state with a report of missed intervals noted. -/
def noteMisses (state : SamplingGapState) (missedIntervals : Int) (h : 0 ≤ missedIntervals) :
    SamplingGapState :=
  { state with
    largestMissedIntervalReport :=
      max state.largestMissedIntervalReport (min missedIntervals maxBoundedCounter)
    largestBounded := by
      have := state.largestBounded
      unfold Bounded maxBoundedCounter at *
      omega }

@[simp] theorem commit_phase (s : SamplingGapState) (o : SamplingGapObservation) :
    (s.commit o).phase = s.phase := rfl

@[simp] theorem withPhase_phase (s : SamplingGapState) (phase : SamplingGapPhase) :
    (s.withPhase phase).phase = phase := rfl

@[simp] theorem noteMisses_phase (s : SamplingGapState) (n : Int) (h : 0 ≤ n) :
    (s.noteMisses n h).phase = s.phase := rfl

end SamplingGapState

/-! ## The evaluator -/

/-- The answer to an observation. -/
structure SamplingGapTransition where
  previous : SamplingGapState
  state : SamplingGapState
  event : SamplingGapEvent

/-- Missed intervals: an open gap stays open, two at once open one, one makes a candidate. -/
def applyMisses (previous committed : SamplingGapState) (missedIntervals : Int)
    (h : 0 ≤ missedIntervals) : SamplingGapTransition :=
  let updated := committed.noteMisses missedIntervals h
  if previous.phase = .active ∨ previous.phase = .recoveryOne then
    ⟨previous, updated.withPhase .active,
      if previous.phase = .recoveryOne then .recoveryReset else .missRecorded⟩
  else if missedIntervals ≥ 2 then ⟨previous, updated.withPhase .active, .opened⟩
  else if previous.phase = .candidateOne then ⟨previous, updated, .missRecorded⟩
  else ⟨previous, updated.withPhase .candidateOne, .candidateStarted⟩

/-- Apply one persisted sampling observation. -/
def evaluateSamplingGap (state : SamplingGapState) (observation : SamplingGapObservation) :
    SamplingGapTransition :=
  if !observation.persistenceSucceeded then ⟨state, state, .persistenceFailed⟩
  else if ∃ last ∈ state.lastCommittedSequence, observation.sequence ≤ last then
    ⟨state, state, .duplicateIgnored⟩
  else
    let committed := state.commit observation
    if observation.clockDiscontinuityMarker then
      if state.phase = .recoveryOne then ⟨state, committed.withPhase .active, .recoveryReset⟩
      else ⟨state, committed, .markerRecorded⟩
    else if observation.startupGapMarker ∧ observation.missedIntervals = 0 then
      ⟨state, committed, .markerRecorded⟩
    else if observation.missedIntervals > 0 then
      applyMisses state committed observation.missedIntervals observation.missedNonnegative
    else if !observation.healthCollectionSucceeded then ⟨state, committed, .sampleUnusable⟩
    else
      match state.phase with
      | .candidateOne => ⟨state, committed.withPhase .clear, .candidateCleared⟩
      | .active => ⟨state, committed.withPhase .recoveryOne, .recoveryStarted⟩
      | .recoveryOne => ⟨state, committed.withPhase .clear, .recovered⟩
      | .clear => ⟨state, committed, .none⟩

end Aurora.HealthHistory
