/-
  Pure health-state evaluation of one scope.

  A scope counts how often in a row it was seen in the same state.  Three degraded or two
  unavailable observations confirm a condition; two healthy ones confirm a recovery while an alert
  is active.  The states and the inputs carry their own consistency, so the evaluator is total.
-/
import Aurora.HealthHistory.Models

namespace Aurora.HealthHistory

/-- So many degraded observations confirm a condition, -/
def degradedOpenThreshold : Int := 3
/-- so many unavailable ones do, -/
def unavailableOpenThreshold : Int := 2
/-- and so many healthy ones confirm a recovery. -/
def healthyRecoveryThreshold : Int := 2

/-- The events an evaluator reports. -/
inductive HealthEvaluationEvent
  | none | conditionConfirmed | recoveryConfirmed
deriving DecidableEq, Repr

/-! ## States -/

/-- What one health scope remembers. -/
structure HealthEvaluationState where
  currentStatus : Option HealthHistoryStatus
  candidateStatus : Option HealthHistoryStatus
  consecutiveCount : Int
  bounded : Bounded maxBoundedCounter consecutiveCount
  candidateCount : candidateStatus = none ↔ consecutiveCount = 0
  candidateCurrent : candidateStatus = none ∨ candidateStatus = currentStatus
  currentNone : currentStatus = none → candidateStatus = none ∧ consecutiveCount = 0
deriving DecidableEq

namespace HealthEvaluationState

/-- The checks of the constructor, in the source's order. -/
def new? (currentStatus candidateStatus : Option HealthHistoryStatus) (consecutiveCount : Int) :
    Except String HealthEvaluationState :=
  if hb : Bounded maxBoundedCounter consecutiveCount then
    if hc : candidateStatus = none ↔ consecutiveCount = 0 then
      if hs : candidateStatus = none ∨ candidateStatus = currentStatus then
        if hn : currentStatus = none → candidateStatus = none ∧ consecutiveCount = 0 then
          .ok ⟨currentStatus, candidateStatus, consecutiveCount, hb, hc, hs, hn⟩
        else .error "inconsistent_current_status"
      else .error "inconsistent_candidate_status"
    else .error "inconsistent_candidate_count"
  else .error "invalid_consecutive_count"

/-- The fields of a state pass its own checks. -/
@[simp] theorem new?_self (s : HealthEvaluationState) :
    new? s.currentStatus s.candidateStatus s.consecutiveCount = .ok s := by
  unfold new?
  rw [dif_pos s.bounded, dif_pos s.candidateCount, dif_pos s.candidateCurrent,
    dif_pos s.currentNone]

theorem new?_eq_ok {current candidate : Option HealthHistoryStatus} {count : Int}
    {s : HealthEvaluationState} (h : new? current candidate count = .ok s) :
    s.currentStatus = current ∧ s.candidateStatus = candidate ∧ s.consecutiveCount = count := by
  unfold new? at h
  split at h <;> try cases h
  split at h <;> try cases h
  split at h <;> try cases h
  split at h <;> cases h
  exact ⟨rfl, rfl, rfl⟩

theorem no_candidate : (none : Option HealthHistoryStatus) = none ↔ (0 : Int) = 0 := by simp

/-- A status without a running count. -/
def settled (status : HealthHistoryStatus) : HealthEvaluationState where
  currentStatus := some status
  candidateStatus := none
  consecutiveCount := 0
  bounded := bounded_zero
  candidateCount := by simp
  candidateCurrent := .inl rfl
  currentNone := by simp

/-- A status seen `count` times in a row. -/
def counting (status : HealthHistoryStatus) (count : Int) (h : Positive maxBoundedCounter count) :
    HealthEvaluationState where
  currentStatus := some status
  candidateStatus := some status
  consecutiveCount := count
  bounded := ⟨by have := h.1; omega, h.2⟩
  candidateCount := by have := h.1; simp; omega
  candidateCurrent := .inr rfl
  currentNone := by simp

/-- The count after one more observation of a status: one up, saturating, or a fresh one. -/
def nextCount (state : HealthEvaluationState) (status : HealthHistoryStatus) : Int :=
  if state.candidateStatus = some status then min (state.consecutiveCount + 1) maxBoundedCounter
  else 1

/-- The next count is in range, saturation included. -/
theorem nextCount_positive (state : HealthEvaluationState) (status : HealthHistoryStatus) :
    Positive maxBoundedCounter (state.nextCount status) := by
  have hb := state.bounded
  unfold nextCount Positive
  unfold Bounded at hb
  split
  · unfold maxBoundedCounter at *
    omega
  · decide

end HealthEvaluationState

/-! ## Inputs -/

/-- One observation of one scope. -/
structure HealthEvaluationInput where
  status : HealthHistoryStatus
  intentionalDisabled : Bool
  activeHealthAlert : Bool
  persistenceSucceeded : Bool
  disabledStatus : ¬(intentionalDisabled = true ∧ status = .healthy)

/-- The constructor's check. -/
def HealthEvaluationInput.new? (status : HealthHistoryStatus)
    (intentionalDisabled activeHealthAlert persistenceSucceeded : Bool) :
    Except String HealthEvaluationInput :=
  if h : intentionalDisabled = true ∧ status = .healthy then .error "inconsistent_disabled_status"
  else .ok ⟨status, intentionalDisabled, activeHealthAlert, persistenceSucceeded, h⟩

/-! ## The evaluator -/

/-- The answer to an observation. -/
structure HealthEvaluationTransition where
  previous : HealthEvaluationState
  state : HealthEvaluationState
  event : HealthEvaluationEvent

/-- A healthy observation: it ends a running recovery, counts towards one, or settles. -/
def evaluateHealthy (state : HealthEvaluationState) (activeHealthAlert : Bool) :
    HealthEvaluationTransition :=
  if !activeHealthAlert then ⟨state, .settled .healthy, .none⟩
  else if state.nextCount .healthy ≥ healthyRecoveryThreshold then
    ⟨state, .settled .healthy, .recoveryConfirmed⟩
  else
    ⟨state, .counting .healthy (state.nextCount .healthy) (state.nextCount_positive .healthy),
      .none⟩

/-- How many observations of a status confirm a condition. -/
def openThreshold (status : HealthHistoryStatus) : Int :=
  if status = .degraded then degradedOpenThreshold else unavailableOpenThreshold

/-- A degraded or unavailable observation: it counts towards a condition. -/
def evaluateUnhealthy (state : HealthEvaluationState) (status : HealthHistoryStatus) :
    HealthEvaluationTransition where
  previous := state
  state := .counting status (state.nextCount status) (state.nextCount_positive status)
  event :=
    if state.nextCount status ≥ openThreshold status then .conditionConfirmed else .none

/-- Advance one health scope by one observation. -/
def evaluateHealthState (state : HealthEvaluationState) (observation : HealthEvaluationInput) :
    HealthEvaluationTransition :=
  if !observation.persistenceSucceeded then ⟨state, state, .none⟩
  else if observation.intentionalDisabled then ⟨state, .settled observation.status, .none⟩
  else if observation.status = .healthy then evaluateHealthy state observation.activeHealthAlert
  else evaluateUnhealthy state observation.status

/-! ## What an event says about the observation -/

/-- A healthy observation confirms a recovery or nothing. -/
theorem evaluateHealthy_event (state : HealthEvaluationState) (active : Bool) :
    (evaluateHealthy state active).event ≠ .conditionConfirmed ∧
      ((evaluateHealthy state active).event = .recoveryConfirmed → active = true) ∧
      (evaluateHealthy state active).state.currentStatus = some .healthy := by
  unfold evaluateHealthy
  cases active with
  | false => simp [HealthEvaluationState.settled]
  | true =>
    rw [if_neg (by decide)]
    split <;> simp [HealthEvaluationState.settled, HealthEvaluationState.counting]

/-- An unhealthy one never confirms a recovery. -/
theorem evaluateUnhealthy_event (state : HealthEvaluationState) (status : HealthHistoryStatus) :
    (evaluateUnhealthy state status).event ≠ .recoveryConfirmed := by
  unfold evaluateUnhealthy
  dsimp only
  split <;> simp

/-- A confirmed condition: the observed status is not healthy. -/
theorem evaluateHealthState_condition {state : HealthEvaluationState}
    {observation : HealthEvaluationInput}
    (h : (evaluateHealthState state observation).event = .conditionConfirmed) :
    observation.status ≠ .healthy := by
  unfold evaluateHealthState at h
  split at h
  · cases h
  split at h
  · cases h
  split at h
  · exact absurd h (evaluateHealthy_event _ _).1
  · assumption

/-- A confirmed recovery: the scope was observed healthy while it had an active alert. -/
theorem evaluateHealthState_recovery {state : HealthEvaluationState}
    {observation : HealthEvaluationInput}
    (h : (evaluateHealthState state observation).event = .recoveryConfirmed) :
    observation.status = .healthy ∧ observation.activeHealthAlert = true := by
  unfold evaluateHealthState at h
  split at h
  · cases h
  split at h
  · cases h
  split at h
  · exact ⟨by assumption, (evaluateHealthy_event _ _).2.1 h⟩
  · exact absurd h (evaluateUnhealthy_event _ _)

/-- A persisted observation leaves its own status as the current one. -/
theorem evaluateHealthState_current {state : HealthEvaluationState}
    {observation : HealthEvaluationInput} (h : observation.persistenceSucceeded = true) :
    (evaluateHealthState state observation).state.currentStatus = some observation.status := by
  unfold evaluateHealthState
  rw [if_neg (by simp [h])]
  split
  · rfl
  split
  · rename_i hhealthy
    rw [hhealthy]
    exact (evaluateHealthy_event _ _).2.2
  · rfl

end Aurora.HealthHistory
