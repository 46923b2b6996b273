/-
  The reviewed reference model of the sampling-gap policy.
-/
import Aurora.HealthHistory.Models

namespace Aurora.M18Validation

open HealthHistory (Bounded BoundedOption boundedOption_some)

/-- The value the counters saturate at. -/
def maxGapCounter : Int := 65535
/-- The largest sequence. -/
def maxGapSequence : Int := 2 ^ 63 - 1

/-- The phases of the evaluator. -/
inductive GapPhase
  | clear | candidateOne | active | recoveryOne
deriving DecidableEq, Repr

/-- The events it reports. -/
inductive GapEvent
  | none | candidateStarted | candidateCleared | opened | missRecorded | recoveryStarted
  | recoveryReset | recovered | markerRecorded | duplicateIgnored | persistenceFailed
  | sampleUnusable
deriving DecidableEq, Repr

/-- An observation, with what its checked constructor asks of it. -/
structure GapObservation where
  sequence : Int
  missedIntervals : Int
  persistenceSucceeded : Bool
  healthCollectionSucceeded : Bool
  restartGapMarker : Bool
  clockDiscontinuityMarker : Bool
  sequenceBounded : Bounded maxGapSequence sequence
  missedNonnegative : 0 ≤ missedIntervals
  markers : ¬(restartGapMarker = true ∧ clockDiscontinuityMarker = true)

/-- The state of the evaluator, with what its checked constructor asks of it. -/
structure GapState where
  phase : GapPhase
  committedObservations : Int
  largestMissedIntervalReport : Int
  lastCommittedSequence : Option Int
  committedBounded : Bounded maxGapCounter committedObservations
  largestBounded : Bounded maxGapCounter largestMissedIntervalReport
  sequenceBounded : BoundedOption maxGapSequence lastCommittedSequence

/-- The answer to an observation. -/
structure GapTransition where
  previous : GapState
  state : GapState
  event : GapEvent

namespace GapState

/-- The state with the observation counted and its sequence recorded. -/
def commit (state : GapState) (observation : GapObservation) : GapState where
  phase := state.phase
  committedObservations := min (state.committedObservations + 1) maxGapCounter
  largestMissedIntervalReport := state.largestMissedIntervalReport
  lastCommittedSequence := some observation.sequence
  committedBounded := by
    have := state.committedBounded
    unfold Bounded maxGapCounter at *
    omega
  largestBounded := state.largestBounded
  sequenceBounded := (boundedOption_some _ _).mpr observation.sequenceBounded

/-- The state in another phase. -/
def withPhase (state : GapState) (phase : GapPhase) : GapState := { state with phase := phase }

/-- The state with a report of missed intervals. -/
def noteMisses (state : GapState) (missedIntervals : Int) (h : 0 ≤ missedIntervals) : GapState :=
  { state with
    largestMissedIntervalReport :=
      max state.largestMissedIntervalReport (min missedIntervals maxGapCounter)
    largestBounded := by
      have := state.largestBounded
      unfold Bounded maxGapCounter at *
      omega }

end GapState

/-- `_apply_missed_intervals` -/
def applyMissedIntervals (previous committed : GapState) (missedIntervals : Int)
    (h : 0 ≤ missedIntervals) : GapTransition :=
  let updated := committed.noteMisses missedIntervals h
  if previous.phase = .active ∨ previous.phase = .recoveryOne then
    ⟨previous, updated.withPhase .active,
      if previous.phase = .recoveryOne then .recoveryReset else .missRecorded⟩
  else if missedIntervals ≥ 2 then ⟨previous, updated.withPhase .active, .opened⟩
  else if previous.phase = .candidateOne then ⟨previous, updated, .missRecorded⟩
  else ⟨previous, updated.withPhase .candidateOne, .candidateStarted⟩

/-- `evaluate_sampling_gap` -/
def evaluateSamplingGap (state : GapState) (observation : GapObservation) : GapTransition :=
  if !observation.persistenceSucceeded then ⟨state, state, .persistenceFailed⟩
  else if ∃ last ∈ state.lastCommittedSequence, observation.sequence ≤ last then
    ⟨state, state, .duplicateIgnored⟩
  else
    let committed := state.commit observation
    if observation.clockDiscontinuityMarker then
      if state.phase = .recoveryOne then ⟨state, committed.withPhase .active, .recoveryReset⟩
      else ⟨state, committed, .markerRecorded⟩
    else if observation.restartGapMarker ∧ observation.missedIntervals = 0 then
      ⟨state, committed, .markerRecorded⟩
    else if observation.missedIntervals > 0 then
      applyMissedIntervals state committed observation.missedIntervals
        observation.missedNonnegative
    else if !observation.healthCollectionSucceeded then ⟨state, committed, .sampleUnusable⟩
    else if state.phase = .candidateOne then
      ⟨state, committed.withPhase .clear, .candidateCleared⟩
    else if state.phase = .active then
      ⟨state, committed.withPhase .recoveryOne, .recoveryStarted⟩
    else if state.phase = .recoveryOne then ⟨state, committed.withPhase .clear, .recovered⟩
    else ⟨state, committed, .none⟩

end Aurora.M18Validation
