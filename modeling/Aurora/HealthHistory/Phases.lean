/-
  One storage-maintenance phase per call.

  An observation may maintain the store, and so may the periodic trigger behind it; a call does one of
  the two at most.  The trigger is re-armed only by a maintenance opportunity that completed.
-/
import Aurora.HealthHistory.Opportunities

namespace Aurora.HealthHistory

open Program

/-! ## Phases -/

/-- The part of a call that may maintain the store: one observation, or one maintenance
    opportunity. -/
inductive Phase (o : HealthHistoryOrchestrator) : HistoryTranscript → Prop
  | observation {projection : HealthProjection} {t : HistoryTranscript}
      {r : Except HistoryException (ObservationCycleResult × HealthHistoryOrchestrator)}
      (h : Runs (o.processObservation projection) t r) : Phase o t
  | opportunity {t : HistoryTranscript}
      {r : Except HistoryException (MaintenanceOpportunityResult × HealthHistoryOrchestrator)}
      (h : Runs o.runMaintenanceOpportunity t r) : Phase o t

/-- The transcript maintains the store in one phase, or not at all. -/
def OnePhase (t : HistoryTranscript) : Prop :=
  calls HistoryCall.isMaintenance t = 0 ∨ ∃ before phase after o, t = before ++ phase ++ after ∧
    calls HistoryCall.isMaintenance before = 0 ∧ calls HistoryCall.isMaintenance after = 0 ∧
      Phase o phase

/-- A trigger that has been reset. -/
def MaintenanceTriggerState.Rearmed (s s' : MaintenanceTriggerState) : Prop :=
  s'.lastCompletedMonotonic ≠ s.lastCompletedMonotonic ∨
    s'.startupMaintenanceCompleted ≠ s.startupMaintenanceCompleted ∨
      s'.storedRowsSinceMaintenance < s.storedRowsSinceMaintenance

/-- Some stretch of the transcript is a maintenance opportunity that completed. -/
def Completes (t : HistoryTranscript) : Prop :=
  ∃ before phase after o result o', t = before ++ phase ++ after ∧
    Runs (HealthHistoryOrchestrator.runMaintenanceOpportunity o) phase (.ok (result, o')) ∧
      result.outcome = .maintenanceCompleted ∧ CompletedMaintenance phase

section Segments

variable {t t' : HistoryTranscript}

/-- A transcript without maintenance has no cleanup, no vacuum and no checkpoint. -/
theorem still_iff : calls HistoryCall.isMaintenance t = 0 ↔
    calls HistoryCall.isCleanup t = 0 ∧ calls HistoryCall.isVacuum t = 0 ∧
      calls HistoryCall.isCheckpoint t = 0 := by
  rw [calls_isMaintenance]
  omega

/-- Calls without maintenance before the phase. -/
theorem OnePhase.after (h : OnePhase t) (h' : calls HistoryCall.isMaintenance t' = 0) :
    OnePhase (t' ++ t) := by
  rcases h with hstill | ⟨before, phase, after, o, rfl, hbefore, hafter, hphase⟩
  · exact .inl (by rw [calls_append, h', hstill])
  · exact .inr ⟨t' ++ before, phase, after, o, by simp only [List.append_assoc],
      by rw [calls_append, h', hbefore], hafter, hphase⟩

/-- Calls without maintenance after the phase. -/
theorem OnePhase.append (h : OnePhase t) (h' : calls HistoryCall.isMaintenance t' = 0) :
    OnePhase (t ++ t') := by
  rcases h with hstill | ⟨before, phase, after, o, rfl, hbefore, hafter, hphase⟩
  · exact .inl (by rw [calls_append, h', hstill])
  · exact .inr ⟨before, phase, after ++ t', o, by simp only [List.append_assoc], hbefore,
      by rw [calls_append, h', hafter], hphase⟩

theorem OnePhase.of_phase {o : HealthHistoryOrchestrator} (h : Phase o t) : OnePhase t :=
  .inr ⟨[], t, [], o, (List.append_nil t).symm, rfl, rfl, h⟩

theorem MaintainedOnce.of_still (h : calls HistoryCall.isMaintenance t = 0) : MaintainedOnce t := by
  obtain ⟨hcleanup, hvacuum, hcheckpoint⟩ := still_iff.mp h
  exact ⟨by omega, by omega, by omega⟩

theorem MaintainedOnce.after_still (h : MaintainedOnce t)
    (h' : calls HistoryCall.isMaintenance t' = 0) : MaintainedOnce (t' ++ t) := by
  obtain ⟨hcleanup, hvacuum, hcheckpoint⟩ := still_iff.mp h'
  refine ⟨?_, ?_, ?_⟩
  · rw [calls_append, hcleanup, Nat.zero_add]
    exact h.cleanup
  · rw [calls_append, hvacuum, Nat.zero_add]
    exact h.vacuum
  · rw [calls_append, hcheckpoint, Nat.zero_add]
    exact h.checkpoint

/-- A completed opportunity stays so in a longer transcript. -/
theorem Completes.after (h : Completes t) (t' : HistoryTranscript) : Completes (t' ++ t) := by
  obtain ⟨before, phase, after, o, result, o', rfl, hruns, hcompleted⟩ := h
  exact ⟨t' ++ before, phase, after, o, result, o', by simp only [List.append_assoc], hruns,
    hcompleted⟩

/-- Calls of one kind alone are no calls of another. -/
theorem calls_eq_zero_of {allowed : HistoryCall → Prop} {kind : HistoryCall → Bool}
    (h : ∀ x ∈ t, allowed x.1) (hkind : ∀ c, allowed c → kind c = false) : calls kind t = 0 :=
  calls_eq_zero.mpr fun x hx => hkind x.1 (h x hx)

end Segments

/-! ## Counting the kinds of each program -/

theorem HistoryCall.OfMaintenance.not_report {c : HistoryCall} (h : c.OfMaintenance) :
    c.isReport = false := by
  cases c <;> first | rfl | cases h

theorem HistoryCall.OfMaintenance.not_ingest {c : HistoryCall} (h : c.OfMaintenance) :
    c.isIngest = false := by
  cases c <;> first | rfl | cases h

/-- Processing an observation collects no other report. -/
theorem HistoryCall.OfObservation.not_report {projection : HealthProjection} {c : HistoryCall}
    (h : c.OfObservation projection) : c.isReport = false := by
  rcases h with h | rfl
  · exact h.not_report
  · rfl

theorem HistoryCall.OfTrigger.ofMaintenance {c : HistoryCall} (h : c.OfTrigger) :
    c.OfMaintenance := by
  rcases h with rfl | rfl <;> rfl

/-- Reading the trigger is no maintenance. -/
theorem HistoryCall.OfTrigger.not_maintenance {c : HistoryCall} (h : c.OfTrigger) :
    c.isMaintenance = false := by
  rcases h with rfl | rfl <;> rfl

/-- A safe transcript ingests at most once. -/
theorem WriteSafe.ingest_le {projection : HealthProjection} {t : HistoryTranscript}
    (h : WriteSafe projection t) : calls HistoryCall.isIngest t ≤ 1 := by
  rcases h.ingest with hnone | ⟨before, attempted, inspection, answer, rfl, hbefore, hinspection⟩
  · omega
  · rw [calls_append, calls_append, hbefore, hinspection.quiet.ingest]
    exact Nat.le_refl 1

/-- A safe transcript maintains at most once. -/
theorem WriteSafe.once {projection : HealthProjection} {t : HistoryTranscript}
    (h : WriteSafe projection t) : MaintainedOnce t := ⟨h.cleanup, h.vacuum, h.checkpoint⟩

/-! ## One phase in a call -/

/-- What a call may do at most. -/
structure CallBound (t : HistoryTranscript) : Prop where
  phase : OnePhase t
  once : MaintainedOnce t
  reports : calls HistoryCall.isReport t ≤ 1
  ingests : calls HistoryCall.isIngest t ≤ 1

namespace HealthHistoryScheduler

variable {iso : String → Option Datetime} {s s' : HealthHistoryScheduler} {t : HistoryTranscript}

/-- Behind a sample there is one phase at most, no report and no ingest. -/
theorem Finishes.bound (h : Finishes s t s') : OnePhase t ∧ MaintainedOnce t ∧
    calls HistoryCall.isReport t = 0 ∧ calls HistoryCall.isIngest t = 0 := by
  have htrigger {t : HistoryTranscript} (h : ∀ x ∈ t, x.1.OfTrigger) :
      calls HistoryCall.isMaintenance t = 0 ∧ calls HistoryCall.isReport t = 0 ∧
        calls HistoryCall.isIngest t = 0 :=
    ⟨calls_eq_zero_of h fun _ hc => hc.not_maintenance,
      calls_eq_zero_of h fun _ hc => hc.ofMaintenance.not_report,
      calls_eq_zero_of h fun _ hc => hc.ofMaintenance.not_ingest⟩
  have hran {t phase : HistoryTranscript} {o : HealthHistoryOrchestrator}
      {r : Except HistoryException (MaintenanceOpportunityResult × HealthHistoryOrchestrator)}
      (h : ∀ x ∈ t, x.1.OfTrigger) (hphase : Runs o.runMaintenanceOpportunity phase r) :
      OnePhase (t ++ phase) ∧ MaintainedOnce (t ++ phase) ∧
        calls HistoryCall.isReport (t ++ phase) = 0 ∧
          calls HistoryCall.isIngest (t ++ phase) = 0 := by
    obtain ⟨hstill, hreport, hingest⟩ := htrigger h
    have hcalls := o.runMaintenanceOpportunity_makes.runs hphase
    refine ⟨(OnePhase.of_phase (.opportunity hphase)).after hstill,
      (HealthHistoryOrchestrator.runMaintenanceOpportunity_runs hphase).1.after_still hstill,
      ?_, ?_⟩
    · rw [calls_append, hreport, calls_eq_zero_of hcalls fun _ hc => hc.not_report]
    · rw [calls_append, hingest, calls_eq_zero_of hcalls fun _ hc => hc.not_ingest]
  cases h with
  | idle h =>
    obtain ⟨hstill, hreport, hingest⟩ := htrigger h
    exact ⟨.inl hstill, .of_still hstill, hreport, hingest⟩
  | raised h hphase => exact hran h hphase
  | ran h hphase => exact hran h hphase

/-- Behind a sample the trigger changes only with an opportunity that completed. -/
theorem Finishes.rearmed (h : Finishes s t s') (hchanged : s'.orchestrator ≠ s.orchestrator) :
    Completes t := by
  cases h with
  | idle => exact absurd rfl hchanged
  | raised => exact absurd rfl hchanged
  | ran h hphase =>
    rcases (HealthHistoryOrchestrator.runMaintenanceOpportunity_runs hphase).2 _ _ rfl with
      rfl | ⟨hcompleted, hmaintained⟩
    · exact absurd rfl hchanged
    · exact ⟨_, _, [], _, _, _, (List.append_nil _).symm, hphase, hcompleted, hmaintained⟩

/-- A sampled opportunity collects, ingests and maintains at most once. -/
theorem Samples.bound {cumulative : Int} {result : SchedulerResult}
    (h : Samples iso s cumulative t result s') : CallBound t := by
  cases h with
  | exhausted => exact ⟨.inl rfl, .of_still rfl, Nat.zero_le 1, Nat.zero_le 1⟩
  | invalidClock => exact ⟨.inl rfl, .of_still rfl, Nat.zero_le 1, Nat.zero_le 1⟩
  | failed _ _ hfinish =>
    obtain ⟨hphase, honce, hreport, hingest⟩ := hfinish.bound
    refine ⟨hphase.after rfl, honce.after_still rfl, ?_, ?_⟩
    · rw [calls_append, hreport]
      exact Nat.le_refl 1
    · rw [calls_append, hingest]
      exact Nat.zero_le 1
  | unaccepted _ _ hruns _ _ =>
    have hsafe := (HealthHistoryOrchestrator.processObservation_safe hruns).1
    have hreport := calls_eq_zero_of
      ((HealthHistoryOrchestrator.processObservation_makes _ _).runs hruns)
      fun _ hc => hc.not_report
    refine ⟨(OnePhase.of_phase (.observation hruns)).after rfl, hsafe.once.after_still rfl, ?_, ?_⟩
    · rw [calls_append, hreport]
      exact Nat.le_refl 1
    · rw [calls_append, Nat.add_comm]
      exact hsafe.ingest_le
  | accepted hopens hproject hruns haccepted hrecords hfinish hresult hmissed =>
    obtain ⟨hsafe, hattempted⟩ := HealthHistoryOrchestrator.processObservation_safe hruns
    have hreport := calls_eq_zero_of
      ((HealthHistoryOrchestrator.processObservation_makes _ _).runs hruns)
      fun _ hc => hc.not_report
    rcases hfinish with ⟨-, rfl, -⟩ | ⟨hidle, hfinish⟩
    · rw [List.append_nil]
      refine ⟨(OnePhase.of_phase (.observation hruns)).after rfl, hsafe.once.after_still rfl, ?_, ?_⟩
      · rw [calls_append, hreport]
        exact Nat.le_refl 1
      · rw [calls_append, Nat.add_comm]
        exact hsafe.ingest_le
    · -- the observation did not maintain the store, so the phase is behind it
      obtain ⟨hphase, honce, hreport', hingest'⟩ := hfinish.bound
      rename_i t₁ t₂ observation orchestrator s₁
      have hstill : calls HistoryCall.isMaintenance t₁ = 0 := by
        by_contra hne
        rw [(hattempted _ _ rfl).mpr hne] at hidle
        cases hidle
      rw [List.append_assoc]
      refine ⟨(hphase.after hstill).after rfl, (honce.after_still hstill).after_still rfl, ?_, ?_⟩
      · rw [calls_append, calls_append, hreport, hreport']
        exact Nat.le_refl 1
      · rw [calls_append, calls_append, hingest', Nat.add_zero, Nat.add_comm]
        exact hsafe.ingest_le

/-- An observation does not set the trigger again. -/
theorem afterObservation_not_rearmed (trigger : MaintenanceTriggerState)
    (result : ObservationCycleResult) : ¬trigger.Rearmed (trigger.afterObservation result) := by
  have hrows := trigger.rows
  unfold MaintenanceTriggerState.Rearmed MaintenanceTriggerState.afterObservation
  split
  · rintro (hlast | hstartup | hreset)
    · exact hlast rfl
    · exact hstartup rfl
    · dsimp only at hreset
      unfold Bounded at hrows
      omega
  · rintro (hlast | hstartup | hreset)
    · exact hlast rfl
    · exact hstartup rfl
    · exact lt_irrefl _ hreset

theorem not_rearmed_refl (trigger : MaintenanceTriggerState) : ¬trigger.Rearmed trigger := by
  rintro (hlast | hstartup | hreset)
  · exact hlast rfl
  · exact hstartup rfl
  · exact lt_irrefl _ hreset

/-- An observation counts its row and leaves the trigger armed as it was. -/
theorem processObservation_not_rearmed {o o' : HealthHistoryOrchestrator}
    {projection : HealthProjection} {observation : ObservationCycleResult}
    (h : Runs (o.processObservation projection) t (.ok (observation, o'))) :
    ¬o.triggerState.Rearmed o'.triggerState := by
  rcases HealthHistoryOrchestrator.processObservation_runs h with ⟨-, hr⟩ | ⟨t', r', -, -, hr⟩
  · obtain ⟨-, rfl⟩ := Prod.mk.inj (Except.ok.inj hr)
    exact not_rearmed_refl _
  · cases r' with
    | error e => cases hr
    | ok result =>
      obtain ⟨-, rfl⟩ := Prod.mk.inj (Except.ok.inj hr)
      exact afterObservation_not_rearmed _ _

/-- A sampled opportunity sets the trigger again only after a completed maintenance. -/
theorem Samples.rearmed {cumulative : Int} {result : SchedulerResult}
    (h : Samples iso s cumulative t result s')
    (hrearmed : s.orchestrator.triggerState.Rearmed s'.orchestrator.triggerState) :
    Completes t := by
  cases h with
  | exhausted => exact absurd hrearmed (not_rearmed_refl _)
  | invalidClock => exact absurd hrearmed (not_rearmed_refl _)
  | failed _ _ hfinish =>
    refine (hfinish.rearmed fun hsame => ?_).after _
    rw [hsame] at hrearmed
    exact not_rearmed_refl _ hrearmed
  | unaccepted _ _ hruns hobserved _ =>
    rcases hobserved with ⟨e, rfl, rfl⟩ | ⟨observation, rfl, -⟩
    · exact absurd hrearmed (not_rearmed_refl _)
    · exact absurd hrearmed (processObservation_not_rearmed hruns)
  | accepted _ _ hruns _ hrecords hfinish _ _ =>
    have hkept := processObservation_not_rearmed hruns
    rcases hfinish with ⟨-, -, rfl⟩ | ⟨-, hfinish⟩
    · rw [hrecords.orchestrator] at hrearmed
      exact absurd hrearmed hkept
    · refine (hfinish.rearmed fun hsame => ?_).after _
      rw [hsame, hrecords.orchestrator] at hrearmed
      exact hkept hrearmed

/-- **One maintenance phase per call.**  Whatever the clocks, the report supplier and the store
    answer, a call maintains the store in one phase at most, collects one report and ingests one
    observation at most; and it resets the trigger only with a maintenance opportunity that
    completed. -/
theorem runDueOpportunity_one_phase {r : Except HistoryException Ended}
    (h : Runs (s.runDueOpportunity iso) t r) :
    CallBound t ∧ ∀ ended s', r = .ok (ended, s') →
      s.orchestrator.triggerState.Rearmed s'.orchestrator.triggerState → Completes t := by
  obtain ⟨result, s', rfl, hrun⟩ := runDueOpportunity_runs h
  refine and_comm.mp ⟨?_, ?_⟩
  · rintro _ _ ⟨⟩ hrearmed
    cases hrun with
    | reentrant => exact absurd hrearmed (not_rearmed_refl _)
    | exhausted => exact absurd hrearmed (not_rearmed_refl _)
    | invalidClock => exact absurd hrearmed (not_rearmed_refl _)
    | notDue _ _ _ hchecks =>
      obtain ⟨cadence, rfl, -⟩ := hchecks.state
      exact absurd hrearmed (not_rearmed_refl _)
    | refreshFailed hconsumes _ _ =>
      obtain ⟨cadence, rfl, -⟩ := hconsumes.state
      exact absurd hrearmed (not_rearmed_refl _)
    | sampled hconsumes hsample =>
      obtain ⟨cadence, rfl, -⟩ := hconsumes.state
      exact (hsample.rearmed hrearmed).after _
  · cases hrun with
    | reentrant => exact ⟨.inl rfl, .of_still rfl, Nat.zero_le 1, Nat.zero_le 1⟩
    | exhausted => exact ⟨.inl rfl, .of_still rfl, Nat.zero_le 1, Nat.zero_le 1⟩
    | invalidClock => exact ⟨.inl rfl, .of_still rfl, Nat.zero_le 1, Nat.zero_le 1⟩
    | notDue => exact ⟨.inl rfl, .of_still rfl, Nat.zero_le 1, Nat.zero_le 1⟩
    -- only the resume state was read and the store closed
    | refreshFailed hconsumes hcalls hresult =>
      rename_i t₁
      have hkind (kind : HistoryCall → Bool) (hresume : kind .getSchedulerResumeState = false)
          (hclose : kind .closeStore = false) : calls kind t₁ = 0 :=
        calls_eq_zero.mpr fun x hx => by
          rcases hcalls x hx with hx | hx <;> rw [hx] <;> assumption
      have hstill := hkind HistoryCall.isMaintenance rfl rfl
      refine ⟨(OnePhase.after (.inl hstill) rfl), (MaintainedOnce.of_still hstill).after_still rfl,
        ?_, ?_⟩
      · rw [calls_append, hkind HistoryCall.isReport rfl rfl]
        exact Nat.zero_le 1
      · rw [calls_append, hkind HistoryCall.isIngest rfl rfl]
        exact Nat.zero_le 1
    | sampled _ hsample =>
      have hbound := hsample.bound
      refine ⟨hbound.phase.after rfl, hbound.once.after_still rfl, ?_, ?_⟩
      · rw [calls_append, Nat.add_comm]
        exact hbound.reports
      · rw [calls_append, Nat.add_comm]
        exact hbound.ingests

/-- A new scheduler over an empty store. -/
def fresh (interval : Int) : HealthHistoryScheduler where
  orchestrator := ⟨30, .initial, retention_thirty⟩
  sampleIntervalSeconds := interval
  resumeState := ⟨⟨none, none, none, 0⟩, rfl⟩
  cadenceState := .start 0 ⟨le_refl 0, by unfold maxMonotonic; norm_num⟩
  nextSequence := some 1
  startupMarkerPending := true
  next := rfl

/-- An environment with a broken collector and a store that needs nothing, at a monotonic time. -/
def brokenCollector (now : ℚ) : Unit → (c : HistoryCall) → c.Answer × Unit
  | _, .acquire _ => (true, ())
  | _, .monotonic _ => (some now, ())
  | _, .utcNow => (some (.aware (some 5)), ())
  | _, .utcNowUs => (some (5 : Int), ())
  | _, .healthReport => (none, ())
  | _, .getSchedulerResumeState => (.ok ⟨⟨none, none, none, 0⟩, rfl⟩, ())
  | _, .closeStore => ((), ())
  | _, .inspectStorageCapacity => (.ok (HealthHistoryOrchestrator.databaseOfPages 100 pages_hundred), ())
  | _, .inspectFreeSpace => (.ok HealthHistoryOrchestrator.enoughSpace, ())
  | _, .inspectWal => (.ok HealthHistoryOrchestrator.emptyLog, ())
  | _, .cleanupRetention _ _ => (.ok (⟨.noWork, 0, 0, 0⟩ : RetentionCleanupResult), ())
  | _, .incrementalVacuum => (.ok (), ())
  | _, .passiveWalCheckpoint => (.error .store, ())
  | _, .ingest _ => (.error .store, ())

/-- The collection fails and the startup maintenance behind it completes. -/
theorem runDueOpportunity_one_phase_startup : ∃ t r,
    Runs ((fresh 30).runDueOpportunity fun _ => none) t r ∧ CallBound t ∧ Completes t := by
  have hruns := runs_trace (brokenCollector 0) ((fresh 30).runDueOpportunity fun _ => none) ()
  have hplayed :
      (match (((fresh 30).runDueOpportunity fun _ => none).play (brokenCollector 0) ()).1 with
      | .ok (_, s') => s'.orchestrator.triggerState.startupMaintenanceCompleted
      | .error _ => false) = true := by decide +kernel
  split at hplayed
  · rename_i ended s' hr
    rw [hr] at hruns
    obtain ⟨hbound, hcompletes⟩ := runDueOpportunity_one_phase hruns
    refine ⟨_, _, hruns, hbound, hcompletes _ _ rfl (.inr (.inl ?_))⟩
    rw [hplayed]
    decide
  · cases hplayed

end HealthHistoryScheduler

end Aurora.HealthHistory
