/-
  What one opportunity of the scheduler does.

  `DueRun` lists the ways a call can go, with the transcript and the scheduler each leaves; every
  complete run is one of them (`runDueOpportunity_runs`).  What later modules prove of a call they
  prove from its cases.
-/
import Aurora.HealthHistory.Projecting
import Aurora.HealthHistory.Scheduler
import Aurora.HealthHistory.MaintenanceOpportunities

namespace Aurora.HealthHistory

open Program

/-! ## Finishing a call -/

/-- The parts of a result that maintenance does not touch. -/
structure SchedulerResult.SameSample (r r' : SchedulerResult) : Prop where
  observationSequence : r'.observationSequence = r.observationSequence
  missedIntervals : r'.missedIntervals = r.missedIntervals
  samplingOutcome : r'.samplingOutcome = r.samplingOutcome

namespace HealthHistoryScheduler

variable {t : HistoryTranscript} {s s' : HealthHistoryScheduler}

/-- What follows a sample: the trigger is read, and at most one maintenance opportunity runs. -/
inductive Finishes (s : HealthHistoryScheduler) : HistoryTranscript → HealthHistoryScheduler → Prop
  | idle {t : HistoryTranscript} (h : ∀ x ∈ t, x.1.OfTrigger) : Finishes s t s
  | raised {t phase : HistoryTranscript} {e : HistoryException} (h : ∀ x ∈ t, x.1.OfTrigger)
      (hphase : Runs s.orchestrator.runMaintenanceOpportunity phase (.error e)) :
      Finishes s (t ++ phase) s
  | ran {t phase : HistoryTranscript} {maintenance : MaintenanceOpportunityResult}
      {orchestrator : HealthHistoryOrchestrator} (h : ∀ x ∈ t, x.1.OfTrigger)
      (hphase : Runs s.orchestrator.runMaintenanceOpportunity phase
        (.ok (maintenance, orchestrator))) :
      Finishes s (t ++ phase) { s with orchestrator := orchestrator }

/-- Every outcome of an observation has one of the scheduler. -/
theorem schedulerOutcome_isOk {outcome : OrchestrationOutcome} (h : outcome ≠ .maintenanceCompleted) :
    ∃ o, schedulerOutcome outcome = .ok o := by
  cases outcome <;> first | exact ⟨_, rfl⟩ | exact absurd rfl h

/-- The maintenance at the end keeps the sample of the result. -/
theorem finishWithMaintenance_runs {result : SchedulerResult} {r : Except HistoryException Ended}
    (h : Runs (s.finishWithMaintenance result) t r) :
    ∃ result' s', r = .ok (.ok result', s') ∧ result.SameSample result' ∧ Finishes s t s' := by
  unfold finishWithMaintenance at h
  obtain ⟨due, t₁, t₂, rfl, htrigger, h₂⟩ := runs_catching_bind.mp h
  have hcalls := (s.orchestrator.maintenanceTrigger_makes).runs htrigger
  split at h₂
  case h_4 decision =>
    split at h₂
    · obtain ⟨ran, t₃, t₄, rfl, hmaintenance, h₄⟩ := runs_catching_bind.mp h₂
      split at h₄
      · obtain ⟨rfl, rfl⟩ := runs_pure.mp h₄
        rw [List.append_nil]
        exact ⟨_, _, rfl, ⟨rfl, rfl, rfl⟩, .raised hcalls hmaintenance⟩
      · rename_i maintenance orchestrator
        dsimp only at h₄
        split at h₄
        · obtain ⟨rfl, rfl⟩ := runs_pure.mp h₄
          rw [List.append_nil]
          exact ⟨_, _, rfl, ⟨rfl, rfl, rfl⟩, .ran hcalls hmaintenance⟩
        · rename_i hcompleted
          obtain ⟨outcome, houtcome⟩ := schedulerOutcome_isOk hcompleted
          unfold withOrchestrationOutcome at h₄
          rw [houtcome] at h₄
          obtain ⟨rfl, rfl⟩ := runs_pure.mp h₄
          rw [List.append_nil]
          exact ⟨_, _, rfl, ⟨rfl, rfl, rfl⟩, .ran hcalls hmaintenance⟩
    · obtain ⟨rfl, rfl⟩ := runs_pure.mp h₂
      rw [List.append_nil]
      exact ⟨_, _, rfl, ⟨rfl, rfl, rfl⟩, .idle hcalls⟩
  all_goals
    obtain ⟨rfl, rfl⟩ := runs_pure.mp h₂
    rw [List.append_nil]
    exact ⟨_, _, rfl, ⟨rfl, rfl, rfl⟩, .idle hcalls⟩

end HealthHistoryScheduler

/-! ## Decisions -/

namespace SchedulerCadenceState

variable {s : SchedulerCadenceState} {now : ℚ} {interval : Int} {d : SchedulerDueDecision}

/-- A decision is early, or due with the next deadline ahead. -/
theorem decision_cases (h : s.decision now interval = .ok d) :
    s.lastSeenMonotonic ≤ now ∧ d.checkedMonotonic = now ∧
      (now < s.plannedDueMonotonic ∧ d.due = false ∧ d.missedIntervals = 0 ∧
          d.nextDueMonotonic = s.plannedDueMonotonic ∨
        s.plannedDueMonotonic ≤ now ∧ d.due = true ∧
          d.missedIntervals = capped (s.elapsedIntervals now interval) ∧
          d.nextDueMonotonic =
            s.plannedDueMonotonic + (s.elapsedIntervals now interval + 1) * interval ∧
          now < d.nextDueMonotonic) := by
  unfold decision at h
  split at h
  case isFalse => cases h
  split at h
  case isFalse => cases h
  split at h
  · cases h
  rename_i hseen
  split at h
  · rename_i hplanned
    obtain rfl := Except.ok.inj h
    exact ⟨not_lt.mp hseen, rfl, .inl ⟨hplanned, rfl, rfl, rfl⟩⟩
  · rename_i hplanned
    dsimp only at h
    split at h
    · cases h
    · rename_i hnext
      obtain rfl := Except.ok.inj h
      exact ⟨not_lt.mp hseen, rfl, .inr ⟨not_lt.mp hplanned, rfl, rfl, rfl,
        not_le.mp (not_or.mp hnext).2⟩⟩

/-- A decision is only made on a valid clock reading. -/
theorem decision_valid (h : s.decision now interval = .ok d) : ValidMonotonic now := by
  unfold decision at h
  split at h
  case isFalse => cases h
  split at h
  case isFalse => cases h
  case isTrue hvalid => exact hvalid

/-- The check after a decision of the same state succeeds. -/
theorem afterCheck_ok (h : s.decision now interval = .ok d) {consume : Bool}
    (hconsume : consume = true → d.due = true) {pending : Option Int}
    (hpending : Bounded maxBoundedCounter (pending.getD s.pendingMissedIntervals)) :
    ∃ cadence, s.afterCheck d consume pending = .ok cadence ∧
      cadence.plannedDueMonotonic = (if consume then d.nextDueMonotonic else s.plannedDueMonotonic) ∧
      cadence.lastSeenMonotonic = now ∧
      cadence.pendingMissedIntervals = pending.getD s.pendingMissedIntervals := by
  obtain ⟨hseen, hchecked, hcases⟩ := decision_cases h
  unfold afterCheck
  rw [if_neg, dif_pos hpending]
  · exact ⟨_, rfl, rfl, hchecked, rfl⟩
  rintro (hbefore | ⟨hconsumed, hidle⟩ | ⟨hdue, hearly | hnext⟩ | ⟨hidle, hlate | hnext⟩)
  · rw [hchecked] at hbefore
    exact absurd hbefore (not_lt.mpr hseen)
  · rw [hconsume hconsumed] at hidle
    cases hidle
  · rcases hcases with ⟨-, hidle, -⟩ | ⟨hplanned, -⟩
    · rw [hdue] at hidle
      cases hidle
    · rw [hchecked] at hearly
      exact absurd hearly (not_lt.mpr hplanned)
  · rcases hcases with ⟨-, hidle, -⟩ | ⟨-, -, -, -, hahead⟩
    · rw [hdue] at hidle
      cases hidle
    · rw [hchecked] at hnext
      exact absurd hahead (not_lt.mpr hnext)
  · rcases hcases with ⟨hearly, -⟩ | ⟨-, hdue, -⟩
    · rw [hchecked] at hlate
      exact absurd hearly (not_lt.mpr hlate)
    · rw [hdue] at hidle
      cases hidle
  · rcases hcases with ⟨-, -, -, hsame⟩ | ⟨-, hdue, -⟩
    · exact hnext hsame
    · rw [hdue] at hidle
      cases hidle

/-- Consuming an opportunity plans the next and keeps the pending count in bounds. -/
theorem afterCheck_consumes (h : s.decision now interval = .ok d) (hdue : d.due = true)
    {pending : Int} (hpending : Bounded maxBoundedCounter pending) :
    ∃ cadence, s.afterCheck d true (some pending) = .ok cadence ∧
      cadence.plannedDueMonotonic = d.nextDueMonotonic ∧
      cadence.lastSeenMonotonic = now ∧ cadence.pendingMissedIntervals = pending :=
  afterCheck_ok h (fun _ => hdue) hpending

/-- A check that is not due keeps the plan and the pending count. -/
theorem afterCheck_keeps (h : s.decision now interval = .ok d) :
    ∃ cadence, s.afterCheck d false none = .ok cadence ∧
      cadence.plannedDueMonotonic = s.plannedDueMonotonic ∧
      cadence.lastSeenMonotonic = now ∧ cadence.pendingMissedIntervals = s.pendingMissedIntervals :=
  afterCheck_ok h (fun hconsume => absurd hconsume Bool.false_ne_true)
    (show Bounded maxBoundedCounter (Option.getD none s.pendingMissedIntervals) from s.pending)

end SchedulerCadenceState

/-! ## Samples -/

/-- The outcomes of a sample that was accepted. -/
def acceptedSamplingOutcomes : List SchedulerOutcome := [.stored, .stateOnly, .replayed]

/-- The result of a sample that nothing was accepted for. -/
def SchedulerResult.Failed (r : SchedulerResult) : Prop :=
  ∃ outcome ∉ acceptedSamplingOutcomes, r.samplingOutcome = some outcome

/-- The result of a sample whose observation was accepted. -/
def SchedulerResult.Accepted (r : SchedulerResult) : Prop :=
  ∃ outcome ∈ acceptedSamplingOutcomes, r.samplingOutcome = some outcome

/-- The maintenance does not make a failed opportunity succeed. -/
theorem SchedulerResult.SameSample.failed {r r' : SchedulerResult} (h : r.SameSample r')
    (hr : r.Failed) : r'.Failed :=
  hr.imp fun _ houtcome => ⟨houtcome.1, h.samplingOutcome.trans houtcome.2⟩

/-- The maintenance does not take back an accepted observation. -/
theorem SchedulerResult.SameSample.accepted {r r' : SchedulerResult} (h : r.SameSample r')
    (hr : r.Accepted) : r'.Accepted :=
  hr.imp fun _ houtcome => ⟨houtcome.1, h.samplingOutcome.trans houtcome.2⟩

/-- Outcomes are accepted under the same names. -/
theorem schedulerOutcome_accepted {outcome : OrchestrationOutcome} {o : SchedulerOutcome}
    (h : schedulerOutcome outcome = .ok o) :
    o ∈ acceptedSamplingOutcomes ↔ outcome ∈ acceptedObservationOutcomes := by
  cases outcome
  case maintenanceCompleted => cases h
  all_goals
    obtain rfl := Except.ok.inj h
    decide

namespace HealthHistoryScheduler

variable {iso : String → Option Datetime} {s s' : HealthHistoryScheduler} {t : HistoryTranscript}

/-- The sample the scheduler is about to take. -/
structure Opens (s : HealthHistoryScheduler) (cumulative : Int) (o : Opportunity) : Prop where
  sequence : s.nextSequence = some o.observationSequence
  kind : o.sampleKind = s.sampleKind o.recordedAt
  missed : o.reportedMissed = reportedMissed o.sampleKind cumulative

/-- The scheduler after an accepted observation. -/
structure Records (s : HealthHistoryScheduler) (p : HealthProjection)
    (s' : HealthHistoryScheduler) : Prop where
  orchestrator : s'.orchestrator = s.orchestrator
  interval : s'.sampleIntervalSeconds = s.sampleIntervalSeconds
  cadence : s'.cadenceState = s.cadenceState.reported p.sampleKind
  sequence : s'.resumeState.1.lastCommittedSequence = some p.observationSequence
  marker : s'.startupMarkerPending = false

/-- Recording an accepted observation clears what was pending. -/
theorem recordAcceptedObservation_ok {p : HealthProjection} (hp : p.Valid) :
    ∃ s', s.recordAcceptedObservation p = .ok s' ∧ s.Records p s' := by
  have hcount : 0 ≤ s.resumeState.1.acceptedObservationCount := by
    have hcheck := s.resumeState.2
    unfold SchedulerResumeState.check at hcheck
    exact (require_bind_eq_ok.mp hcheck).1.1
  have hcheck : (SchedulerResumeState.mk (some p.observationSequence) (some p.observedAtUtcUs)
      (some p.sampleKind) (capped (s.resumeState.1.acceptedObservationCount + 1))).check =
        .ok () := by
    unfold SchedulerResumeState.check
    refine require_bind_eq_ok.mpr ⟨capped_bounded (by omega), require_eq_ok.mpr (.inr ?_)⟩
    refine ⟨⟨_, rfl, hp.sequence⟩, ⟨_, rfl, hp.observedAt⟩, by simp, ?_⟩
    exact le_min (by omega) (by decide)
  unfold recordAcceptedObservation newResumeState
  split
  · exact ⟨_, rfl, ⟨rfl, rfl, rfl, rfl, rfl⟩⟩
  · rename_i text hfails
    rw [hcheck] at hfails
    cases hfails

/-- The ways a sample can go. -/
inductive Samples (iso : String → Option Datetime) (s : HealthHistoryScheduler)
    (cumulative : Int) : HistoryTranscript → SchedulerResult → HealthHistoryScheduler → Prop
  | exhausted {result : SchedulerResult} (h : s.nextSequence = none)
      (hresult : result.samplingOutcome = none) : Samples iso s cumulative [] result s
  | invalidClock {result : SchedulerResult} {answer : Option Datetime} (h : s.nextSequence ≠ none)
      (hresult : result.Failed) :
      Samples iso s cumulative [⟨.utcNow, answer⟩] result s.recordFailedSampling
  | failed {result : SchedulerResult} {now : Option Datetime}
      {supplied : Option (Option HealthReport)} {t : HistoryTranscript}
      {s' : HealthHistoryScheduler} (h : s.nextSequence ≠ none) (hresult : result.Failed)
      (hfinish : Finishes s.recordFailedSampling t s') :
      Samples iso s cumulative ([⟨.utcNow, now⟩, ⟨.healthReport, supplied⟩] ++ t) result s'
  | unaccepted {result : SchedulerResult} {now : Option Datetime} {report : HealthReport}
      {o : Opportunity} {p : HealthProjection} {t : HistoryTranscript}
      {observed : Except HistoryException (ObservationCycleResult × HealthHistoryOrchestrator)}
      {orchestrator : HealthHistoryOrchestrator} (hopens : s.Opens cumulative o)
      (hproject : projectHealthReport iso report o.observationSequence
        (.aware (some o.recordedAt)) o.sampleKind o.reportedMissed = .ok p)
      (hruns : Runs (s.orchestrator.processObservation p) t observed)
      (hobserved : (∃ e, observed = .error e ∧ orchestrator = s.orchestrator) ∨
        ∃ observation, observed = .ok (observation, orchestrator) ∧
          observation.outcome ∉ acceptedObservationOutcomes)
      (hresult : result.Failed) :
      Samples iso s cumulative ([⟨.utcNow, now⟩, ⟨.healthReport, some (some report)⟩] ++ t) result
        { s with orchestrator := orchestrator }.recordFailedSampling
  | accepted {result : SchedulerResult} {now : Option Datetime} {report : HealthReport}
      {o : Opportunity} {p : HealthProjection} {t t' : HistoryTranscript}
      {observation : ObservationCycleResult} {orchestrator : HealthHistoryOrchestrator}
      {s₁ s' : HealthHistoryScheduler} (hopens : s.Opens cumulative o)
      (hproject : projectHealthReport iso report o.observationSequence
        (.aware (some o.recordedAt)) o.sampleKind o.reportedMissed = .ok p)
      (hruns : Runs (s.orchestrator.processObservation p) t (.ok (observation, orchestrator)))
      (haccepted : observation.outcome ∈ acceptedObservationOutcomes)
      (hrecords : { s with orchestrator := orchestrator }.Records p s₁)
      (hfinish : (observation.storageMaintenanceAttempted = true ∧ t' = [] ∧ s' = s₁) ∨
        (observation.storageMaintenanceAttempted = false ∧ Finishes s₁ t' s'))
      (hresult : result.Accepted) (hmissed : result.missedIntervals = o.reportedMissed) :
      Samples iso s cumulative
        ([⟨.utcNow, now⟩, ⟨.healthReport, some (some report)⟩] ++ t ++ t') result s'

/-- The processing is the orchestrator's, or its trust was lost. -/
theorem processObservation_runs {p : HealthProjection}
    {r : Except HistoryException (ObservationCycleResult × HealthHistoryScheduler)}
    (h : Runs (s.processObservation p) t r) : ∃ observed,
      Runs (s.orchestrator.processObservation p) t observed ∧
        ((∃ e, observed = .error e ∧ r = .ok (⟨.trustFailed, false, by decide⟩, s)) ∨
          ∃ observation orchestrator, observed = .ok (observation, orchestrator) ∧
            r = .ok (observation, { s with orchestrator := orchestrator })) := by
  unfold processObservation at h
  obtain ⟨observed, t₁, t₂, rfl, h₁, h₂⟩ := runs_catching_bind.mp h
  refine ⟨observed, ?_⟩
  split at h₂
  · obtain ⟨rfl, rfl⟩ := runs_pure.mp h₂
    rw [List.append_nil]
    exact ⟨h₁, .inl ⟨_, rfl, rfl⟩⟩
  · obtain ⟨rfl, rfl⟩ := runs_pure.mp h₂
    rw [List.append_nil]
    exact ⟨h₁, .inr ⟨_, _, rfl, rfl⟩⟩

/-- An opportunity from its report to its result. -/
theorem observe_runs {cumulative : Int} {o : Opportunity} {p : HealthProjection}
    {now : Option Datetime} {report : HealthReport} {r : Except HistoryException Ended}
    (hopens : s.Opens cumulative o)
    (hproject : projectHealthReport iso report o.observationSequence
      (.aware (some o.recordedAt)) o.sampleKind o.reportedMissed = .ok p)
    (h : Runs (s.observe o p) t r) : ∃ result s', r = .ok (.ok result, s') ∧
      Samples iso s cumulative
        ([⟨.utcNow, now⟩, ⟨.healthReport, some (some report)⟩] ++ t) result s' := by
  have hvalid := (projectHealthReport_eq_ok hproject).1
  unfold observe at h
  rcases runs_bind.mp h with ⟨e, hprocess, rfl⟩ | ⟨⟨observation, s₁⟩, t₁, t₂, rfl, hprocess, h₂⟩
  · obtain ⟨_, -, ⟨_, -, hr⟩ | ⟨_, _, -, hr⟩⟩ := processObservation_runs hprocess <;> cases hr
  obtain ⟨observed, hruns, hobserved⟩ := processObservation_runs hprocess
  -- every outcome of an observation has a place among the scheduler's
  obtain ⟨outcome, houtcome⟩ := schedulerOutcome_isOk (not_completed observation.permitted)
  have hiff := schedulerOutcome_accepted houtcome
  dsimp only at h₂
  rw [houtcome] at h₂
  dsimp only at h₂
  split at h₂
  · -- accepted, so the orchestrator returned
    rename_i haccepted
    obtain ⟨orchestrator, rfl, hs₁⟩ : ∃ orchestrator, observed = .ok (observation, orchestrator) ∧
        s₁ = { s with orchestrator := orchestrator } := by
      rcases hobserved with ⟨e, -, hr⟩ | ⟨_, orchestrator, hobserved, hr⟩
      · obtain ⟨rfl, -⟩ := Prod.mk.inj (Except.ok.inj hr)
        exact absurd haccepted (by decide)
      · obtain ⟨rfl, rfl⟩ := Prod.mk.inj (Except.ok.inj hr)
        exact ⟨orchestrator, hobserved, rfl⟩
    obtain ⟨s₂, hrecord, hrecords⟩ := recordAcceptedObservation_ok (s := s₁) hvalid
    subst hs₁
    rw [hrecord] at h₂
    dsimp only at h₂
    have hresult : (o.result outcome).Accepted := ⟨outcome, hiff.mpr haccepted, rfl⟩
    split at h₂
    · rename_i hattempted
      obtain ⟨rfl, rfl⟩ := runs_pure.mp h₂
      rw [← List.append_assoc]
      exact ⟨_, _, rfl, .accepted hopens hproject hruns haccepted hrecords
        (.inl ⟨hattempted, rfl, rfl⟩) hresult rfl⟩
    · rename_i hattempted
      obtain ⟨result', s', rfl, hsame, hfinish⟩ := finishWithMaintenance_runs h₂
      rw [← List.append_assoc]
      exact ⟨_, _, rfl, .accepted hopens hproject hruns haccepted hrecords
        (.inr ⟨Bool.eq_false_iff.mpr hattempted, hfinish⟩) (hsame.accepted hresult)
        hsame.missedIntervals⟩
  · rename_i hunaccepted
    obtain ⟨rfl, rfl⟩ := runs_pure.mp h₂
    rw [List.append_nil]
    have hresult : (o.result outcome).Failed := ⟨outcome, fun hmem => hunaccepted (hiff.mp hmem), rfl⟩
    rcases hobserved with ⟨e, rfl, hr⟩ | ⟨_, orchestrator, rfl, hr⟩
    · obtain ⟨rfl, rfl⟩ := Prod.mk.inj (Except.ok.inj hr)
      exact ⟨_, _, rfl, .unaccepted hopens hproject hruns (.inl ⟨e, rfl, rfl⟩) hresult⟩
    · obtain ⟨rfl, rfl⟩ := Prod.mk.inj (Except.ok.inj hr)
      exact ⟨_, _, rfl, .unaccepted hopens hproject hruns (.inr ⟨_, rfl, hunaccepted⟩) hresult⟩

/-- An opportunity from its collection to its result. -/
theorem collect_runs {cumulative : Int} {o : Opportunity} {now : Option Datetime}
    {r : Except HistoryException Ended} (hopens : s.Opens cumulative o)
    (h : Runs (s.collect iso o) t r) : ∃ result s', r = .ok (.ok result, s') ∧
      Samples iso s cumulative (⟨.utcNow, now⟩ :: t) result s' := by
  have hnext : s.nextSequence ≠ none := by
    rw [hopens.sequence]
    exact Option.some_ne_none _
  unfold collect at h
  obtain ⟨supplied, t₁, rfl, h₁⟩ := runs_ask_bind.mp h
  have hfailed (outcome : SchedulerOutcome) (houtcome : outcome ∉ acceptedSamplingOutcomes)
      (hfinish : Runs (s.recordFailedSampling.finishWithMaintenance (o.result outcome)) t₁ r) :
      ∃ result s', r = .ok (.ok result, s') ∧ Samples iso s cumulative
        (⟨.utcNow, now⟩ :: ⟨.healthReport, supplied⟩ :: t₁) result s' := by
    obtain ⟨result', s', rfl, hsame, hfinish⟩ := finishWithMaintenance_runs hfinish
    exact ⟨_, _, rfl, .failed hnext (hsame.failed ⟨outcome, houtcome, rfl⟩) hfinish⟩
  split at h₁
  · exact hfailed _ (by decide) h₁
  · exact hfailed _ (by decide) h₁
  · rename_i report
    split at h₁
    · exact hfailed _ (by decide) h₁
    · rename_i text hraised
      exact absurd hraised (projectHealthReport_rejecting _ _ _ _ _ _ text)
    · rename_i p hproject
      exact observe_runs hopens hproject h₁

/-- Every sample goes one of these ways. -/
theorem sample_runs {cumulative : Int} {hm : Bounded maxBoundedCounter cumulative}
    {r : Except HistoryException Ended} (h : Runs (s.sample iso cumulative hm) t r) :
    ∃ result s', r = .ok (.ok result, s') ∧ Samples iso s cumulative t result s' := by
  unfold sample at h
  split at h
  · rename_i hnone
    obtain ⟨rfl, rfl⟩ := runs_pure.mp h
    exact ⟨_, _, rfl, .exhausted hnone rfl⟩
  rename_i sequence hsequence
  have hnext : s.nextSequence ≠ none := by
    rw [hsequence]
    exact Option.some_ne_none _
  unfold readUtcNow at h
  obtain ⟨now, t₁, t₂, rfl, h₁, h₂⟩ := runs_catching_bind.mp h
  obtain ⟨answer, rfl, -⟩ := runs_invoke.mp h₁
  split at h₂
  · obtain ⟨rfl, rfl⟩ := runs_pure.mp h₂
    exact ⟨_, _, rfl, .invalidClock hnext ⟨.invalidClock, by decide, rfl⟩⟩
  · exact collect_runs ⟨hsequence, rfl, rfl⟩ h₂

/-! ## Calls -/

/-- A deadline is consumed by a due decision. -/
structure Consumes (s : HealthHistoryScheduler) (now : ℚ) (d : SchedulerDueDecision)
    (s' : HealthHistoryScheduler) : Prop where
  decision : s.cadenceState.decision now s.sampleIntervalSeconds = .ok d
  due : d.due = true
  state : ∃ cadence : SchedulerCadenceState, s' = { s with cadenceState := cadence } ∧
    cadence.plannedDueMonotonic = d.nextDueMonotonic ∧
      cadence.pendingMissedIntervals = s.cumulativeMissed d

/-- The clock is checked and nothing else happens. -/
structure Checks (s : HealthHistoryScheduler) (s' : HealthHistoryScheduler) : Prop where
  state : ∃ cadence : SchedulerCadenceState, s' = { s with cadenceState := cadence } ∧
    cadence.plannedDueMonotonic = s.cadenceState.plannedDueMonotonic ∧
      cadence.pendingMissedIntervals = s.cadenceState.pendingMissedIntervals

/-- The ways a call can go. -/
inductive DueRun (iso : String → Option Datetime) (s : HealthHistoryScheduler) :
    HistoryTranscript → SchedulerResult → HealthHistoryScheduler → Prop
  | reentrant {result : SchedulerResult} (hresult : result.samplingOutcome = none) :
      DueRun iso s [⟨.acquire .scheduler, false⟩] result s
  | exhausted {result : SchedulerResult} (hresult : result.samplingOutcome = none)
      (h : s.nextSequence = none) : DueRun iso s [⟨.acquire .scheduler, true⟩] result s
  | invalidClock {result : SchedulerResult} (hresult : result.samplingOutcome = none)
      (answer : Option ℚ) (h : ∀ now ∈ answer, ∀ d,
        s.cadenceState.decision now s.sampleIntervalSeconds ≠ .ok d) :
      DueRun iso s [⟨.acquire .scheduler, true⟩, ⟨.monotonic .scheduler, answer⟩] result s
  | notDue {result : SchedulerResult} {now : ℚ} {d : SchedulerDueDecision}
      {s' : HealthHistoryScheduler} (hresult : result.samplingOutcome = none)
      (hdecision : s.cadenceState.decision now s.sampleIntervalSeconds = .ok d)
      (hidle : d.due = false) (hchecks : s.Checks s') :
      DueRun iso s [⟨.acquire .scheduler, true⟩, ⟨.monotonic .scheduler, some now⟩] result s'
  | refreshFailed {result : SchedulerResult} {now : ℚ} {d : SchedulerDueDecision}
      {s₁ : HealthHistoryScheduler} {t : HistoryTranscript} (hconsumes : s.Consumes now d s₁)
      (hcalls : ∀ x ∈ t, x.1 = .getSchedulerResumeState ∨ x.1 = .closeStore)
      (hresult : result.Failed) :
      DueRun iso s
        ([⟨.acquire .scheduler, true⟩, ⟨.monotonic .scheduler, some now⟩] ++ t) result
        s₁.recordFailedSampling
  | sampled {result : SchedulerResult} {now : ℚ} {d : SchedulerDueDecision}
      {s₁ s' : HealthHistoryScheduler} {resumed : ResumeState} {t : HistoryTranscript}
      (hconsumes : s.Consumes now d s₁)
      (hsample : Samples iso (s₁.refreshed resumed) (s.cumulativeMissed d) t result s') :
      DueRun iso s ([⟨.acquire .scheduler, true⟩, ⟨.monotonic .scheduler, some now⟩,
        ⟨.getSchedulerResumeState, .ok resumed⟩] ++ t) result s'

/-- The state is read with one call, or nothing is known of it. -/
theorem readResumeState_runs {r : Except SchedulerRejection ResumeState}
    (h : Runs readResumeState t r) :
    (∃ resumed, t = [⟨.getSchedulerResumeState, .ok resumed⟩] ∧ r = .ok resumed) ∨
      (∃ e, r = .error e) ∧
        ∀ x ∈ t, x.1 = .getSchedulerResumeState ∨ x.1 = .closeStore := by
  unfold readResumeState at h
  obtain ⟨answer, t₁, rfl, h₁⟩ := runs_ask_bind.mp h
  split at h₁
  · rename_i resumed
    obtain ⟨rfl, rfl⟩ := runs_pure.mp h₁
    exact .inl ⟨resumed, rfl, rfl⟩
  · rename_i e
    right
    split at h₁
    · obtain ⟨closed, t₂, rfl, h₂⟩ := runs_ask_bind.mp h₁
      obtain ⟨rfl, rfl⟩ := runs_raise.mp h₂
      refine ⟨⟨_, rfl⟩, fun x hx => ?_⟩
      rcases List.mem_cons.mp hx with rfl | hx
      · exact .inl rfl
      · obtain rfl := List.mem_singleton.mp hx
        exact .inr rfl
    · obtain ⟨rfl, rfl⟩ := runs_raise.mp h₁
      refine ⟨⟨_, rfl⟩, fun x hx => ?_⟩
      obtain rfl := List.mem_singleton.mp hx
      exact .inl rfl

/-- A rejection is never reported as an accepted sample. -/
theorem schedulerOutcomeFromRejection_unaccepted (e : SchedulerRejection) :
    schedulerOutcomeFromRejection e ∉ acceptedSamplingOutcomes := by
  cases e <;> decide

/-- The scheduler goes on from the state it read, or ends with a failure. -/
theorem refreshResumeState_runs {r : Except HistoryException (Except SchedulerOutcome
    HealthHistoryScheduler)} (h : Runs s.refreshResumeState t r) :
    (∃ resumed, t = [⟨.getSchedulerResumeState, .ok resumed⟩] ∧
        r = .ok (.ok (s.refreshed resumed))) ∨
      (∃ failure ∉ acceptedSamplingOutcomes, r = .ok (.error failure)) ∧
        ∀ x ∈ t, x.1 = .getSchedulerResumeState ∨ x.1 = .closeStore := by
  unfold refreshResumeState at h
  obtain ⟨read, t₁, t₂, rfl, h₁, h₂⟩ := runs_catching_bind.mp h
  rcases readResumeState_runs h₁ with ⟨resumed, rfl, rfl⟩ | ⟨⟨e, rfl⟩, hcalls⟩
  · dsimp only at h₂
    split at h₂
    · unfold closeStore at h₂
      obtain ⟨closed, t₃, t₄, rfl, h₃, h₄⟩ := runs_catching_bind.mp h₂
      obtain ⟨answer, rfl, -⟩ := runs_ask.mp h₃
      obtain ⟨rfl, rfl⟩ := runs_pure.mp h₄
      refine .inr ⟨⟨.trustFailed, by decide, rfl⟩, fun x hx => ?_⟩
      rcases List.mem_cons.mp hx with rfl | hx
      · exact .inl rfl
      · obtain rfl := List.mem_singleton.mp hx
        exact .inr rfl
    · obtain ⟨rfl, rfl⟩ := runs_pure.mp h₂
      exact .inl ⟨resumed, rfl, rfl⟩
  · obtain ⟨rfl, rfl⟩ := runs_pure.mp h₂
    rw [List.append_nil]
    exact .inr ⟨⟨_, schedulerOutcomeFromRejection_unaccepted e, rfl⟩, hcalls⟩

/-- Reading the clock and deciding. -/
theorem decide_runs {r : Except SchedulerRejection SchedulerDueDecision}
    (h : Runs (do
      let now ← readMonotonic
      ofExcept (s.cadenceState.decision now s.sampleIntervalSeconds)) t r) :
    ∃ answer, t = [⟨.monotonic .scheduler, answer⟩] ∧ ∀ d, r = .ok d ↔ ∃ now,
      answer = some now ∧ s.cadenceState.decision now s.sampleIntervalSeconds = .ok d := by
  unfold readMonotonic at h
  obtain ⟨answer, t₁, rfl, ⟨now, hnow, h₁⟩ | ⟨e, hraised, rfl, rfl⟩⟩ := runs_invoke_bind.mp h
  · obtain ⟨rfl, rfl⟩ := runs_ofExcept.mp h₁
    have hanswer : answer = some now := by
      split at hnow
      · split at hnow
        · rw [Except.ok.inj hnow]
        · cases hnow
      · cases hnow
    refine ⟨answer, rfl, fun d => ⟨fun hd => ⟨now, hanswer, hd⟩, ?_⟩⟩
    rintro ⟨now', hnow', hd⟩
    obtain rfl := Option.some.inj (hanswer.symm.trans hnow')
    exact hd
  · refine ⟨answer, rfl, fun d => ⟨fun h => (nomatch h), ?_⟩⟩
    rintro ⟨now, rfl, hd⟩
    -- a reading that is refused is refused by the decision as well
    have hvalid := (SchedulerCadenceState.decision_valid hd)
    dsimp only at hraised
    rw [if_pos hvalid] at hraised
    cases hraised

/-- A due opportunity from its decision to its result. -/
theorem consume_runs {now : ℚ} {d : SchedulerDueDecision} {r : Except HistoryException Ended}
    (hd : s.cadenceState.decision now s.sampleIntervalSeconds = .ok d) (hdue : d.due = true)
    (h : Runs (s.consume iso d) t r) : ∃ result s', r = .ok (.ok result, s') ∧
      DueRun iso s ([⟨.acquire .scheduler, true⟩, ⟨.monotonic .scheduler, some now⟩] ++ t)
        result s' := by
  obtain ⟨cadence, hafter, hplanned, -, hpending⟩ :=
    SchedulerCadenceState.afterCheck_consumes hd hdue (s.cumulativeMissed_bounded d)
  have hconsumes : s.Consumes now d { s with cadenceState := cadence } :=
    ⟨hd, hdue, cadence, rfl, hplanned, hpending⟩
  unfold consume at h
  dsimp only at h
  rw [hafter] at h
  dsimp only at h
  rcases runs_bind.mp h with ⟨e, hrefresh, -⟩ | ⟨refreshed, t₁, t₂, rfl, hrefresh, h₂⟩
  · rcases refreshResumeState_runs hrefresh with ⟨_, -, hr⟩ | ⟨⟨_, -, hr⟩, -⟩ <;> cases hr
  rcases refreshResumeState_runs hrefresh with ⟨resumed, rfl, hr⟩ | ⟨⟨failure, hfailure, hr⟩, hcalls⟩
  · obtain rfl := Except.ok.inj hr
    obtain ⟨result, s', rfl, hsample⟩ := sample_runs h₂
    exact ⟨result, s', rfl, .sampled hconsumes hsample⟩
  · obtain rfl := Except.ok.inj hr
    obtain ⟨rfl, rfl⟩ := runs_pure.mp h₂
    rw [List.append_nil]
    exact ⟨_, _, rfl, .refreshFailed hconsumes hcalls ⟨failure, hfailure, rfl⟩⟩

/-- **Every call returns a result, in one of these ways.** -/
theorem runDueOpportunity_runs {r : Except HistoryException Ended}
    (h : Runs (s.runDueOpportunity iso) t r) :
    ∃ result s', r = .ok (.ok result, s') ∧ DueRun iso s t result s' := by
  unfold runDueOpportunity Service.acquire at h
  obtain ⟨acquired, t₁, rfl, h₁⟩ := runs_ask_bind.mp h
  cases acquired with
  | false =>
    rw [if_neg Bool.false_ne_true] at h₁
    obtain ⟨rfl, rfl⟩ := runs_pure.mp h₁
    exact ⟨_, _, rfl, .reentrant rfl⟩
  | true =>
    rw [if_pos rfl] at h₁
    unfold runDue at h₁
    split at h₁
    · rename_i hnone
      obtain ⟨rfl, rfl⟩ := runs_pure.mp h₁
      exact ⟨_, _, rfl, .exhausted rfl hnone⟩
    obtain ⟨decided, t₂, t₃, rfl, hdecide, h₃⟩ := runs_catching_bind.mp h₁
    obtain ⟨answer, rfl, hdecided⟩ := decide_runs hdecide
    split at h₃
    · obtain ⟨rfl, rfl⟩ := runs_pure.mp h₃
      refine ⟨_, _, rfl, .invalidClock rfl answer fun now hnow d hd => ?_⟩
      cases (hdecided d).mpr ⟨now, hnow, hd⟩
    rename_i d
    obtain ⟨now, rfl, hd⟩ := (hdecided d).mp rfl
    split at h₃
    · rename_i hdue
      exact consume_runs hd hdue h₃
    · obtain ⟨cadence, hafter, hplanned, -, hpending⟩ :=
        SchedulerCadenceState.afterCheck_keeps hd
      rw [hafter] at h₃
      obtain ⟨rfl, rfl⟩ := runs_pure.mp h₃
      rename_i hidle
      exact ⟨_, _, rfl, .notDue rfl hd (Bool.eq_false_iff.mpr hidle)
        ⟨cadence, rfl, hplanned, hpending⟩⟩

/-- Checking the deadline leaves the deadlines and the misses alone. -/
theorem isDue_runs
    {r : Except HistoryException (Except SchedulerRejection SchedulerDueDecision ×
      HealthHistoryScheduler)} (h : Runs s.isDue t r) :
    ∃ decided s', r = .ok (decided, s') ∧ (s' = s ∨ s.Checks s') ∧
      ∀ x ∈ t, x.1 = .acquire .scheduler ∨ x.1 = .monotonic .scheduler := by
  have hguard (acquired : Bool) : ∀ x ∈ ([⟨.acquire .scheduler, acquired⟩] : HistoryTranscript),
      x.1 = .acquire .scheduler ∨ x.1 = .monotonic .scheduler := by
    intro x hx
    obtain rfl := List.mem_singleton.mp hx
    exact .inl rfl
  have hread (answer : Option ℚ) : ∀ x ∈ ([⟨.acquire .scheduler, true⟩,
      ⟨.monotonic .scheduler, answer⟩] : HistoryTranscript),
      x.1 = .acquire .scheduler ∨ x.1 = .monotonic .scheduler := by
    intro x hx
    rcases List.mem_cons.mp hx with rfl | hx
    · exact .inl rfl
    · obtain rfl := List.mem_singleton.mp hx
      exact .inr rfl
  unfold isDue Service.acquire at h
  obtain ⟨acquired, t₁, rfl, h₁⟩ := runs_ask_bind.mp h
  cases acquired with
  | false =>
    rw [if_neg Bool.false_ne_true] at h₁
    obtain ⟨rfl, rfl⟩ := runs_pure.mp h₁
    exact ⟨_, _, rfl, .inl rfl, hguard _⟩
  | true =>
    rw [if_pos rfl] at h₁
    obtain ⟨decided, t₂, t₃, rfl, hdecide, h₃⟩ := runs_catching_bind.mp h₁
    obtain ⟨answer, rfl, hdecided⟩ := decide_runs hdecide
    split at h₃
    · obtain ⟨rfl, rfl⟩ := runs_pure.mp h₃
      exact ⟨_, _, rfl, .inl rfl, hread _⟩
    rename_i d
    obtain ⟨now, rfl, hd⟩ := (hdecided d).mp rfl
    obtain ⟨cadence, hafter, hplanned, -, hpending⟩ :=
      SchedulerCadenceState.afterCheck_keeps hd
    rw [hafter] at h₃
    obtain ⟨rfl, rfl⟩ := runs_pure.mp h₃
    exact ⟨_, _, rfl, .inr ⟨cadence, rfl, hplanned, hpending⟩, hread _⟩

end HealthHistoryScheduler

end Aurora.HealthHistory
