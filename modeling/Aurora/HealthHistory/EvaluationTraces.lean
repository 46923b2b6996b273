/-
  What the health evaluator reports over a whole trace.

  The counter of `HealthEvaluationState` is tied to the end of the trace of persisted observations:
  an unhealthy candidate counts its streak, cut off at the counter bound, and a healthy candidate
  stands for an odd streak of healthy observations with an active alert.
-/
import Aurora.Lib.Streaks
import Aurora.HealthHistory.Evaluation

namespace Aurora.HealthHistory

/-! ## The constructor's checks along a step -/

namespace HealthEvaluationState

/-- The state before the first observation. -/
def fresh : HealthEvaluationState where
  currentStatus := none
  candidateStatus := none
  consecutiveCount := 0
  bounded := bounded_zero
  candidateCount := no_candidate
  candidateCurrent := .inl rfl
  currentNone := by simp

end HealthEvaluationState

/-- `_evaluate_healthy`, with every state it builds passing through the constructor. -/
def evaluateHealthyChecked (state : HealthEvaluationState) (activeHealthAlert : Bool) :
    Except String HealthEvaluationTransition :=
  if !activeHealthAlert then do
    let updated ← HealthEvaluationState.new? (some .healthy) none 0
    return ⟨state, updated, .none⟩
  else if state.nextCount .healthy ≥ healthyRecoveryThreshold then do
    let updated ← HealthEvaluationState.new? (some .healthy) none 0
    return ⟨state, updated, .recoveryConfirmed⟩
  else do
    let updated ←
      HealthEvaluationState.new? (some .healthy) (some .healthy) (state.nextCount .healthy)
    return ⟨state, updated, .none⟩

/-- `evaluate_health_state`, with every state it builds passing through the constructor. -/
def evaluateHealthStateChecked (state : HealthEvaluationState)
    (observation : HealthEvaluationInput) : Except String HealthEvaluationTransition :=
  if !observation.persistenceSucceeded then return ⟨state, state, .none⟩
  else if observation.intentionalDisabled then do
    let updated ← HealthEvaluationState.new? (some observation.status) none 0
    return ⟨state, updated, .none⟩
  else if observation.status = .healthy then
    evaluateHealthyChecked state observation.activeHealthAlert
  else do
    let count := state.nextCount observation.status
    let updated ←
      HealthEvaluationState.new? (some observation.status) (some observation.status) count
    return ⟨state, updated,
      if count ≥ openThreshold observation.status then .conditionConfirmed else .none⟩

/-- A settled state passes the constructor. -/
theorem new?_settled (status : HealthHistoryStatus) :
    HealthEvaluationState.new? (some status) none 0 = .ok (.settled status) :=
  HealthEvaluationState.new?_self (.settled status)

/-- So does a counting one, while its count is in range. -/
theorem new?_counting (status : HealthHistoryStatus) {count : Int}
    (h : Positive maxBoundedCounter count) :
    HealthEvaluationState.new? (some status) (some status) count =
      .ok (.counting status count h) :=
  HealthEvaluationState.new?_self (.counting status count h)

/-- The checked evaluation never fails its checks. -/
theorem evaluateHealthyChecked_eq (state : HealthEvaluationState) (active : Bool) :
    evaluateHealthyChecked state active = .ok (evaluateHealthy state active) := by
  unfold evaluateHealthyChecked evaluateHealthy
  rw [new?_settled, new?_counting _ (state.nextCount_positive .healthy)]
  split
  · rfl
  · split <;> rfl

/-- The constructor refuses none of the states the evaluator builds. -/
theorem evaluateHealthStateChecked_eq (state : HealthEvaluationState)
    (observation : HealthEvaluationInput) :
    evaluateHealthStateChecked state observation =
      .ok (evaluateHealthState state observation) := by
  unfold evaluateHealthStateChecked evaluateHealthState
  rw [new?_settled, evaluateHealthyChecked_eq]
  dsimp only
  rw [new?_counting _ (state.nextCount_positive observation.status)]
  split
  · rfl
  · split
    · rfl
    · split <;> rfl

/-! ## Traces -/

/-- The state after a trace of observations, from the fresh one. -/
def evaluateTrace (observations : List HealthEvaluationInput) : HealthEvaluationState :=
  observations.foldl (fun state o => (evaluateHealthState state o).state) .fresh

/-- The observations of a trace that count: those whose persistence succeeded. -/
def persisted (observations : List HealthEvaluationInput) : List HealthEvaluationInput :=
  observations.filter (·.persistenceSucceeded)

namespace HealthEvaluationInput

/-- The observation has the status and is not intentionally disabled. -/
def shows (status : HealthHistoryStatus) (o : HealthEvaluationInput) : Bool :=
  o.status = status && !o.intentionalDisabled

/-- The observation is healthy while the scope has an active alert. -/
def recovers (o : HealthEvaluationInput) : Bool :=
  o.status = .healthy && o.activeHealthAlert

end HealthEvaluationInput

open HealthEvaluationInput

/-- What a state remembers of the persisted observations before it. -/
structure Remembers (state : HealthEvaluationState) (seen : List HealthEvaluationInput) : Prop where
  /-- The count of an unhealthy candidate is its streak, up to the counter bound. -/
  counts : ∀ status, status ≠ .healthy → state.candidateStatus = some status →
    state.consecutiveCount = min (streak (shows status) seen : Int) maxBoundedCounter
  /-- An unhealthy status that is not the candidate was not seen last. -/
  others : ∀ status, status ≠ .healthy → state.candidateStatus ≠ some status →
    streak (shows status) seen = 0
  /-- A healthy candidate was seen once since the last recovery. -/
  pending : state.candidateStatus = some .healthy → state.consecutiveCount = 1
  /-- The candidate is healthy exactly along odd streaks. -/
  odd : state.candidateStatus = some .healthy ↔ Odd (streak recovers seen)

theorem remembers_fresh : Remembers .fresh [] where
  counts := by
    intro status _ h
    cases h
  others := fun _ _ _ => streak_nil
  pending := by
    intro h
    cases h
  odd := by simp [HealthEvaluationState.fresh]

/-! ## One step -/

variable {state : HealthEvaluationState} {seen : List HealthEvaluationInput}
  {o : HealthEvaluationInput}

theorem shows_of_status {status : HealthHistoryStatus} (h : o.status ≠ status) :
    o.shows status = false := by
  simp [shows, h]

theorem recovers_of_status (h : o.status ≠ .healthy) : o.recovers = false := by
  simp [recovers, h]

/-- The next count of an unhealthy status is the streak that ends in the new observation. -/
theorem Remembers.nextCount (h : Remembers state seen) {status : HealthHistoryStatus}
    (hs : status ≠ .healthy) (ho : o.shows status = true) :
    state.nextCount status =
      min (streak (shows status) (seen ++ [o]) : Int) maxBoundedCounter := by
  rw [streak_concat_pos ho]
  unfold HealthEvaluationState.nextCount
  split
  · rename_i hc
    have hcount := h.counts status hs hc
    push_cast
    unfold maxBoundedCounter at *
    omega
  · rename_i hc
    have hzero := h.others status hs hc
    rw [hzero]
    decide

/-- The next healthy count reaches the recovery threshold exactly on an odd streak. -/
theorem Remembers.nextCount_healthy (h : Remembers state seen) :
    state.nextCount .healthy ≥ healthyRecoveryThreshold ↔ Odd (streak recovers seen) := by
  rw [← h.odd]
  unfold HealthEvaluationState.nextCount
  split
  · rename_i hc
    have hone := h.pending hc
    rw [hone]
    exact iff_of_true (by decide) hc
  · rename_i hc
    exact iff_of_false (by decide) hc

/-- A settled scope remembers a trace that ends in no unhealthy status and an even streak. -/
theorem remembers_settled {status : HealthHistoryStatus}
    (hshows : ∀ s, s ≠ .healthy → streak (shows s) seen = 0)
    (heven : ¬Odd (streak recovers seen)) : Remembers (.settled status) seen where
  counts := by
    intro s _ h
    cases h
  others := fun s hs _ => hshows s hs
  pending := by
    intro h
    cases h
  odd := iff_of_false (by simp [HealthEvaluationState.settled]) heven

/-- A disabled component settles at once. -/
theorem remembers_disabled (hd : o.intentionalDisabled = true) :
    Remembers (.settled o.status) (seen ++ [o]) := by
  have hne : o.status ≠ .healthy := fun hh => o.disabledStatus ⟨hd, hh⟩
  refine remembers_settled (fun s _ => streak_concat_neg (by simp [shows, hd])) ?_
  rw [streak_concat_neg (recovers_of_status hne)]
  decide

/-- A healthy observation: the streak of recoveries goes up by one or falls back to zero. -/
theorem Remembers.healthy (h : Remembers state seen) (hh : o.status = .healthy) :
    Remembers (evaluateHealthy state o.activeHealthAlert).state (seen ++ [o]) ∧
      ((evaluateHealthy state o.activeHealthAlert).event = .recoveryConfirmed ↔
        0 < streak recovers (seen ++ [o]) ∧ Even (streak recovers (seen ++ [o]))) := by
  have hshows : ∀ s, s ≠ .healthy → streak (shows s) (seen ++ [o]) = 0 :=
    fun s hs => streak_concat_neg (shows_of_status (by rw [hh]; exact hs.symm))
  unfold evaluateHealthy
  cases hactive : o.activeHealthAlert with
  | false =>
    have hzero : streak recovers (seen ++ [o]) = 0 :=
      streak_concat_neg (by simp [recovers, hactive])
    refine ⟨remembers_settled hshows (by rw [hzero]; decide), ?_⟩
    rw [hzero]
    simp
  | true =>
    have hsucc : streak recovers (seen ++ [o]) = streak recovers seen + 1 :=
      streak_concat_pos (by simp [recovers, hh, hactive])
    rw [if_neg (by decide)]
    by_cases hodd : Odd (streak recovers seen)
    · -- the second healthy observation in a row: the recovery ends the count
      have heven : Even (streak recovers (seen ++ [o])) := by
        rw [hsucc]
        exact hodd.add_one
      rw [if_pos (h.nextCount_healthy.mpr hodd)]
      exact ⟨remembers_settled hshows (Nat.not_odd_iff_even.mpr heven),
        iff_of_true rfl ⟨by omega, heven⟩⟩
    · have hodd' : Odd (streak recovers (seen ++ [o])) := by
        rw [hsucc]
        exact (Nat.not_odd_iff_even.mp hodd).add_one
      have hone : state.nextCount .healthy = 1 := by
        unfold HealthEvaluationState.nextCount
        rw [if_neg (fun hc => hodd (h.odd.mp hc))]
      rw [if_neg (fun hge => hodd (h.nextCount_healthy.mp hge))]
      refine ⟨⟨?_, fun s hs _ => hshows s hs, fun _ => hone, iff_of_true rfl hodd'⟩, ?_⟩
      · intro s hs hc
        exact absurd (Option.some.inj hc).symm hs
      · exact iff_of_false (by simp) (fun he => Nat.not_even_iff_odd.mpr hodd' he.2)

/-- An unhealthy observation that is not disabled: its own streak goes up, the others end. -/
theorem Remembers.unhealthy (h : Remembers state seen) (hs : o.status ≠ .healthy)
    (hd : o.intentionalDisabled = false) :
    Remembers (evaluateUnhealthy state o.status).state (seen ++ [o]) where
  counts := by
    intro s hne hc
    obtain rfl : o.status = s := Option.some.inj hc
    exact h.nextCount hs (by simp [shows, hd])
  others := by
    intro s _ hc
    exact streak_concat_neg (shows_of_status (fun he => hc (congrArg some he)))
  pending := by
    intro hc
    exact absurd (Option.some.inj hc) hs
  odd := by
    rw [streak_concat_neg (recovers_of_status hs)]
    exact iff_of_false (fun hc => hs (Option.some.inj hc)) (by decide)

/-- A condition is confirmed exactly when the streak of the status reaches its threshold. -/
theorem Remembers.unhealthy_event (h : Remembers state seen) (hs : o.status ≠ .healthy)
    (hd : o.intentionalDisabled = false) :
    (evaluateUnhealthy state o.status).event = .conditionConfirmed ↔
      openThreshold o.status ≤ streak (shows o.status) (seen ++ [o]) := by
  have hcount := h.nextCount (o := o) hs (by simp [shows, hd])
  have hthreshold : openThreshold o.status ≤ maxBoundedCounter := by
    unfold openThreshold
    split <;> decide
  unfold evaluateUnhealthy
  dsimp only
  split
  · exact iff_of_true rfl (by omega)
  · exact iff_of_false (by simp) (by omega)

/-- A lost observation changes nothing. -/
theorem evaluateHealthState_lost (h : o.persistenceSucceeded = false) :
    evaluateHealthState state o = ⟨state, state, .none⟩ := by
  unfold evaluateHealthState
  rw [if_pos (by rw [h]; decide)]

/-- One persisted observation keeps what the state remembers. -/
theorem Remembers.step (h : Remembers state seen) (hp : o.persistenceSucceeded = true) :
    Remembers (evaluateHealthState state o).state (seen ++ [o]) := by
  unfold evaluateHealthState
  rw [if_neg (by rw [hp]; decide)]
  cases hd : o.intentionalDisabled with
  | true => exact remembers_disabled hd
  | false =>
    rw [if_neg (by decide)]
    by_cases hh : o.status = .healthy
    · rw [if_pos hh]
      exact (h.healthy hh).1
    · rw [if_neg hh]
      exact h.unhealthy hh hd

/-- The condition a persisted observation confirms. -/
theorem Remembers.condition (h : Remembers state seen) (hp : o.persistenceSucceeded = true) :
    (evaluateHealthState state o).event = .conditionConfirmed ↔
      degradedOpenThreshold ≤ streak (shows .degraded) (seen ++ [o]) ∨
        unavailableOpenThreshold ≤ streak (shows .unavailable) (seen ++ [o]) := by
  have hnone : ∀ s, o.shows s = false → (streak (shows s) (seen ++ [o]) : Int) = 0 := by
    intro s hs
    rw [streak_concat_neg hs]
    rfl
  unfold evaluateHealthState
  rw [if_neg (by rw [hp]; decide)]
  cases hd : o.intentionalDisabled with
  | true =>
    have hdeg := hnone .degraded (by simp [shows, hd])
    have hun := hnone .unavailable (by simp [shows, hd])
    rw [hdeg, hun]
    exact iff_of_false (by simp) (by decide)
  | false =>
    rw [if_neg (by decide)]
    cases hstatus : o.status with
    | healthy =>
      have hdeg := hnone .degraded (shows_of_status (by simp [hstatus]))
      have hun := hnone .unavailable (shows_of_status (by simp [hstatus]))
      rw [if_pos rfl, hdeg, hun]
      exact iff_of_false (evaluateHealthy_event _ _).1 (by decide)
    | degraded =>
      have hun := hnone .unavailable (shows_of_status (by simp [hstatus]))
      have hevent := h.unhealthy_event (o := o) (by simp [hstatus]) hd
      rw [hstatus] at hevent
      rw [if_neg (by decide), hevent, hun]
      exact (or_iff_left (by decide)).symm
    | unavailable =>
      have hdeg := hnone .degraded (shows_of_status (by simp [hstatus]))
      have hevent := h.unhealthy_event (o := o) (by simp [hstatus]) hd
      rw [hstatus] at hevent
      rw [if_neg (by decide), hevent, hdeg]
      exact (or_iff_right (by decide)).symm

/-- The recovery a persisted observation confirms. -/
theorem Remembers.recovery (h : Remembers state seen) (hp : o.persistenceSucceeded = true) :
    (evaluateHealthState state o).event = .recoveryConfirmed ↔
      0 < streak recovers (seen ++ [o]) ∧ Even (streak recovers (seen ++ [o])) := by
  unfold evaluateHealthState
  rw [if_neg (by rw [hp]; decide)]
  by_cases hh : o.status = .healthy
  · have hd : o.intentionalDisabled = false := by
      cases hd : o.intentionalDisabled with
      | false => rfl
      | true => exact absurd ⟨hd, hh⟩ o.disabledStatus
    rw [hd, if_neg (by decide), if_pos hh]
    exact (h.healthy hh).2
  · have hzero : streak recovers (seen ++ [o]) = 0 := streak_concat_neg (recovers_of_status hh)
    rw [hzero]
    rw [if_neg hh]
    refine iff_of_false ?_ (by simp)
    split
    · simp
    · exact evaluateUnhealthy_event _ _

/-! ## The trace law -/

/-- One more observation is one more step. -/
theorem evaluateTrace_concat (observations : List HealthEvaluationInput)
    (o : HealthEvaluationInput) :
    evaluateTrace (observations ++ [o]) =
      (evaluateHealthState (evaluateTrace observations) o).state := by
  simp [evaluateTrace]

/-- An observation that was persisted counts. -/
theorem persisted_concat_pos {observations : List HealthEvaluationInput}
    (h : o.persistenceSucceeded = true) :
    persisted (observations ++ [o]) = persisted observations ++ [o] := by
  simp [persisted, h]

theorem persisted_concat_neg {observations : List HealthEvaluationInput}
    (h : o.persistenceSucceeded = false) :
    persisted (observations ++ [o]) = persisted observations := by
  simp [persisted, h]

/-- After any trace the state remembers the persisted part of it. -/
theorem remembers_trace (observations : List HealthEvaluationInput) :
    Remembers (evaluateTrace observations) (persisted observations) := by
  induction observations using List.reverseRecOn with
  | nil => exact remembers_fresh
  | append_singleton observations o ih =>
    rw [evaluateTrace_concat]
    cases hp : o.persistenceSucceeded with
    | true =>
      rw [persisted_concat_pos hp]
      exact ih.step hp
    | false =>
      rw [persisted_concat_neg hp, evaluateHealthState_lost hp]
      exact ih

/-- The trace law of the health evaluator, for the last step of any trace.

The step never fails on a state it builds.  A lost observation reports nothing and changes nothing.
A persisted one reports a confirmed condition exactly when the last three persisted observations
are degraded, or the last two unavailable, none of them disabled, and a confirmed recovery exactly
when the maximal run of healthy observations with an active alert that it ends has even length. -/
theorem evaluation_trace_law (observations : List HealthEvaluationInput)
    (o : HealthEvaluationInput) :
    ∃ transition, evaluateHealthStateChecked (evaluateTrace observations) o = .ok transition ∧
      transition.state = evaluateTrace (observations ++ [o]) ∧
      HealthEvaluationState.new? transition.state.currentStatus transition.state.candidateStatus
        transition.state.consecutiveCount = .ok transition.state ∧
      (o.persistenceSucceeded = false →
        transition.event = .none ∧ transition.state = evaluateTrace observations) ∧
      (o.persistenceSucceeded = true →
        (transition.event = .conditionConfirmed ↔
          EndsIn 3 (shows .degraded) (persisted (observations ++ [o])) ∨
            EndsIn 2 (shows .unavailable) (persisted (observations ++ [o]))) ∧
        (transition.event = .recoveryConfirmed ↔
          ∃ run, MaximalRun recovers (persisted (observations ++ [o])) run ∧
            Even run.length)) := by
  have hremembers := remembers_trace observations
  refine ⟨evaluateHealthState (evaluateTrace observations) o, evaluateHealthStateChecked_eq _ _,
    (evaluateTrace_concat _ _).symm, HealthEvaluationState.new?_self _, ?_, ?_⟩
  · intro hp
    rw [evaluateHealthState_lost hp]
    exact ⟨rfl, rfl⟩
  · intro hp
    rw [persisted_concat_pos hp, endsIn_iff, endsIn_iff, maximalRun_iff]
    refine ⟨?_, hremembers.recovery hp⟩
    rw [hremembers.condition hp]
    have hdeg : degradedOpenThreshold = ((3 : Nat) : Int) := rfl
    have hun : unavailableOpenThreshold = ((2 : Nat) : Int) := rfl
    rw [hdeg, hun, Int.ofNat_le, Int.ofNat_le]

end Aurora.HealthHistory
