/-
  Maintenance opportunities.

  Which calls the methods of the orchestrator make at all, and what a complete run of a maintenance
  opportunity did: at most one cleanup, vacuum and checkpoint, and a trigger that is re-armed only
  after all that was due succeeded.
-/
import Aurora.HealthHistory.WriteSafety

namespace Aurora.HealthHistory

open Program

/-! ## What the orchestrator calls -/

namespace HistoryCall

/-- The calls of a maintenance opportunity. -/
def OfMaintenance : HistoryCall → Prop
  | acquire owner => owner = .orchestrator
  | monotonic owner => owner = .orchestrator
  | utcNowUs => True
  | inspectStorageCapacity => True
  | inspectFreeSpace => True
  | inspectWal => True
  | cleanupRetention _ _ => True
  | incrementalVacuum => True
  | passiveWalCheckpoint => True
  | _ => False

/-- The calls of the observation of a projection. -/
def OfObservation (projection : HealthProjection) (c : HistoryCall) : Prop :=
  c.OfMaintenance ∨ c = ingest projection

/-- The calls that read the trigger. -/
def OfTrigger (c : HistoryCall) : Prop := c = acquire .orchestrator ∨ c = monotonic .orchestrator

end HistoryCall

namespace HealthHistoryOrchestrator

variable {projection : HealthProjection}

/-- An inspection makes calls of maintenance only. -/
theorem inspectStorage_makes {allowed : HistoryCall → Prop} (attempted : Bool)
    (h : ∀ c, c.OfMaintenance → allowed c) : (inspectStorage attempted).Makes allowed := by
  refine Makes.bind (Makes.catching ?_) fun result => ?_
  · exact (makes_invoke (h .inspectStorageCapacity trivial)).bind fun _ =>
      (makes_invoke (h .inspectFreeSpace trivial)).bind fun _ =>
        (makes_invoke (h .inspectWal trivial)).bind fun _ => makes_pure _
  · split <;> first | exact makes_pure _ | exact makes_raise _

theorem checkpointBeforeIngestion_makes {allowed : HistoryCall → Prop}
    (h : ∀ c, c.OfMaintenance → allowed c) : checkpointBeforeIngestion.Makes allowed := by
  refine (makes_invoke (h .passiveWalCheckpoint trivial)).catching.bind fun result => ?_
  split
  · exact makes_pure _
  · exact makes_pure _
  · exact makes_raise _
  · split <;> exact makes_pure _

/-- An ingest makes the call of its own projection. -/
theorem ingestOnce_makes (attempted : Bool) :
    (ingestOnce projection attempted).Makes (HistoryCall.OfObservation projection) := by
  refine (makes_invoke (.inr rfl)).catching.bind fun result => ?_
  split <;> first | exact makes_pure _ | exact makes_raise _

/-- The rest of an observation makes calls of its own projection and of maintenance. -/
theorem finishObservationDecision_makes (decision : StorageDecisionOutcome) (attempted : Bool) :
    (finishObservationDecision projection decision attempted).Makes
      (HistoryCall.OfObservation projection) := by
  cases decision with
  | capacityBlocked | capacityMaintenanceRequired | walOversizeBlocked => exact makes_pure _
  | proceed => exact ingestOnce_makes attempted
  | walCheckpointDue =>
    refine (checkpointBeforeIngestion_makes fun _ => .inl).bind fun ended => ?_
    cases ended with
    | some result => exact makes_pure _
    | none =>
      refine (inspectStorage_makes attempted fun _ => .inl).bind fun decision => ?_
      split
      case h_6 => exact ingestOnce_makes true
      all_goals exact makes_pure _

/-- The cleanup makes calls of maintenance only. -/
theorem cleanAndVacuum_makes {allowed : HistoryCall → Prop} (o : HealthHistoryOrchestrator)
    (now : Int) (h : ∀ c, c.OfMaintenance → allowed c) : (o.cleanAndVacuum now).Makes allowed :=
  (makes_invoke (h (.cleanupRetention now o.retentionDays) trivial)).bind fun _ =>
    makes_invoke (h .incrementalVacuum trivial)

/-- An observation ingests no projection but its own. -/
theorem observe_makes (o : HealthHistoryOrchestrator) :
    (o.observe projection).Makes (HistoryCall.OfObservation projection) := by
  refine (inspectStorage_makes false fun _ => .inl).bind fun decision => ?_
  split
  · exact makes_pure _
  · exact makes_pure _
  · refine (makes_invoke (.inl trivial)).catching.bind fun now => ?_
    split
    · exact makes_pure _
    refine (o.cleanAndVacuum_makes _ fun _ => .inl).catching.bind fun cleaned => ?_
    split
    · exact makes_pure _
    · exact makes_pure _
    · exact makes_raise _
    · refine (inspectStorage_makes true fun _ => .inl).bind fun decision => ?_
      split
      · exact makes_pure _
      · exact finishObservationDecision_makes _ _
  · exact finishObservationDecision_makes _ _

theorem processObservation_makes (o : HealthHistoryOrchestrator) (projection : HealthProjection) :
    (o.processObservation projection).Makes (HistoryCall.OfObservation projection) := by
  refine (makes_ask (.inl rfl)).bind fun acquired => ?_
  split
  · exact o.observe_makes.bind fun _ => makes_pure _
  · exact makes_pure _

/-- The trigger only reads the clock and the storage. -/
theorem maintenanceTrigger_makes (o : HealthHistoryOrchestrator) :
    o.maintenanceTrigger.Makes HistoryCall.OfTrigger := by
  refine (makes_ask (.inl rfl)).bind fun acquired => ?_
  split
  · exact (makes_invoke (.inr rfl)).bind fun _ => makes_ofExcept _
  · exact makes_raise _

theorem checkpointMaintenance_makes : checkpointMaintenance.Makes HistoryCall.OfMaintenance := by
  refine (makes_invoke trivial).catching.bind fun result => ?_
  split
  · exact makes_pure _
  · exact makes_pure _
  · exact makes_raise _
  · split <;> exact makes_pure _

/-- A maintenance makes calls of maintenance only. -/
theorem maintain_makes (o : HealthHistoryOrchestrator) :
    o.maintain.Makes HistoryCall.OfMaintenance := by
  refine (makes_invoke trivial).catching.bind fun now => ?_
  split
  · exact makes_pure _
  refine (o.cleanAndVacuum_makes _ fun _ => id).catching.bind fun cleaned => ?_
  split
  · exact makes_pure _
  · exact makes_pure _
  · exact makes_raise _
  refine (makes_invoke trivial).catching.bind fun wal => ?_
  split
  · exact makes_pure _
  · exact makes_pure _
  · exact makes_raise _
  split
  · exact makes_pure _
  split
  · exact checkpointMaintenance_makes
  · exact makes_pure _

theorem runMaintenanceOpportunity_makes (o : HealthHistoryOrchestrator) :
    o.runMaintenanceOpportunity.Makes HistoryCall.OfMaintenance := by
  have hacquire : (HistoryCall.acquire .orchestrator).OfMaintenance := rfl
  have hmonotonic : (HistoryCall.monotonic .orchestrator).OfMaintenance := rfl
  refine (makes_ask hacquire).bind fun acquired => ?_
  split
  · refine (makes_invoke hmonotonic).catching.bind fun started => ?_
    split
    · exact makes_pure _
    split
    · exact makes_pure _
    refine o.maintain_makes.bind fun result => ?_
    split
    · refine Makes.bind (Makes.catching ?_) fun rearmed => ?_
      · exact (makes_invoke hmonotonic).bind fun _ => makes_ofExcept _
      · split <;> exact makes_pure _
    · exact makes_pure _
  · exact makes_pure _

end HealthHistoryOrchestrator

/-! ## Maintenance opportunities -/

/-- At most one cleanup, one vacuum and one checkpoint. -/
structure MaintainedOnce (t : HistoryTranscript) : Prop where
  cleanup : calls HistoryCall.isCleanup t ≤ 1
  vacuum : calls HistoryCall.isVacuum t ≤ 1
  checkpoint : calls HistoryCall.isCheckpoint t ≤ 1

namespace MaintainedOnce

variable {t t' : HistoryTranscript}

/-- Quiet calls after one maintenance keep it one. -/
theorem append (h : MaintainedOnce t) (h' : Quiet t') : MaintainedOnce (t ++ t') where
  cleanup := by rw [calls_append, h'.cleanup]; exact h.cleanup
  vacuum := by rw [calls_append, h'.vacuum]; exact h.vacuum
  checkpoint := by rw [calls_append, h'.checkpoint]; exact h.checkpoint

theorem after (h : MaintainedOnce t) (h' : Quiet t') : MaintainedOnce (t' ++ t) where
  cleanup := by rw [calls_append, h'.cleanup, Nat.zero_add]; exact h.cleanup
  vacuum := by rw [calls_append, h'.vacuum, Nat.zero_add]; exact h.vacuum
  checkpoint := by rw [calls_append, h'.checkpoint, Nat.zero_add]; exact h.checkpoint

end MaintainedOnce

theorem Cleaned.once {t : HistoryTranscript} (h : Cleaned t) : MaintainedOnce t :=
  ⟨le_of_eq h.cleanup, h.vacuum, by rw [h.checkpoint]; exact Nat.zero_le 1⟩

theorem Cleaned.checkpointed {t : HistoryTranscript} (h : Cleaned t)
    (answer : HistoryCall.Answer .passiveWalCheckpoint) :
    MaintainedOnce (t ++ [⟨.passiveWalCheckpoint, answer⟩]) where
  cleanup := by rw [calls_append, h.cleanup]; exact Nat.le_refl 1
  vacuum := by rw [calls_append]; exact h.vacuum
  checkpoint := by rw [calls_append, h.checkpoint]; exact Nat.le_refl 1

/-- The store was cleaned up and vacuumed, and its log checkpointed if it was due. -/
structure CompletedMaintenance (t : HistoryTranscript) : Prop where
  cleaned : ∃ now days result, ⟨.cleanupRetention now days, .ok result⟩ ∈ t
  vacuumed : ⟨.incrementalVacuum, .ok ()⟩ ∈ t
  inspected : ∃ wal : WalInspectionResult, ⟨.inspectWal, .ok wal⟩ ∈ t ∧ wal.oversize = false ∧
    (wal.checkpointDue = true → ∃ c : PassiveCheckpointResult,
      ⟨.passiveWalCheckpoint, .ok c⟩ ∈ t ∧ c.outcome ≠ .busy ∧ c.outcome ≠ .oversizeBlocked)

/-- No outcome of an observation is a completed maintenance. -/
theorem not_completed {outcome : OrchestrationOutcome} (h : outcome ∈ observationOutcomes) :
    outcome ≠ .maintenanceCompleted := by
  rintro rfl
  exact absurd h (by decide)

/-- A completed maintenance stays so in a longer transcript. -/
theorem CompletedMaintenance.mono {t t' : HistoryTranscript} (h : CompletedMaintenance t)
    (hsub : t ⊆ t') : CompletedMaintenance t' where
  cleaned := h.cleaned.imp fun _ => Exists.imp fun _ => Exists.imp fun _ hmem => hsub hmem
  vacuumed := hsub h.vacuumed
  inspected := h.inspected.imp fun _ hwal => ⟨hsub hwal.1, hwal.2.1, fun hdue =>
    (hwal.2.2 hdue).imp fun _ hc => ⟨hsub hc.1, hc.2⟩⟩

namespace HealthHistoryOrchestrator

variable {t : HistoryTranscript}

/-- A checkpoint reported as completed is one that answered. -/
theorem checkpointMaintenance_runs {r : Except HistoryException MaintenanceOpportunityResult}
    (h : Runs checkpointMaintenance t r) :
    (∃ answer, t = [⟨.passiveWalCheckpoint, answer⟩]) ∧ ∀ result, r = .ok result →
      result.outcome = .maintenanceCompleted → ∃ c : PassiveCheckpointResult,
        ⟨.passiveWalCheckpoint, .ok c⟩ ∈ t ∧ c.outcome ≠ .busy ∧ c.outcome ≠ .oversizeBlocked := by
  unfold checkpointMaintenance Service.passiveWalCheckpoint at h
  obtain ⟨r', t₁, t₂, rfl, h₁, h₂⟩ := runs_catching_bind.mp h
  obtain ⟨answer, rfl, hanswer⟩ := runs_invoke.mp h₁
  obtain rfl : r' = answer := hanswer
  split at h₂
  case h_1 e =>
    obtain ⟨rfl, rfl⟩ := runs_pure.mp h₂
    refine ⟨⟨_, rfl⟩, ?_⟩
    rintro _ ⟨⟩ hcompleted
    exact absurd hcompleted (not_completed (storageErrorOutcome_mem e true).1)
  case h_2 =>
    obtain ⟨rfl, rfl⟩ := runs_pure.mp h₂
    refine ⟨⟨_, rfl⟩, ?_⟩
    rintro _ ⟨⟩ ⟨⟩
  case h_3 =>
    obtain ⟨rfl, rfl⟩ := runs_raise.mp h₂
    exact ⟨⟨_, rfl⟩, fun _ h => nomatch h⟩
  case h_4 c =>
    split at h₂
    case h_3 =>
      obtain ⟨rfl, rfl⟩ := runs_pure.mp h₂
      exact ⟨⟨_, rfl⟩, fun _ _ _ => ⟨c, List.mem_cons_self, ‹_›, ‹_›⟩⟩
    all_goals
      obtain ⟨rfl, rfl⟩ := runs_pure.mp h₂
      refine ⟨⟨_, rfl⟩, ?_⟩
      rintro _ ⟨⟩ ⟨⟩

/-- A cleanup and a vacuum that returned both stand in the transcript. -/
theorem cleanAndVacuum_returned {o : HealthHistoryOrchestrator} {now : Int}
    (h : Runs (o.cleanAndVacuum now) t (.ok ())) : ∃ result,
      t = [⟨.cleanupRetention now o.retentionDays, .ok result⟩, ⟨.incrementalVacuum, .ok ()⟩] := by
  unfold cleanAndVacuum Service.cleanupRetention Service.incrementalVacuum at h
  obtain ⟨answer, t₁, rfl, ⟨result, hresult, h₁⟩ | ⟨e, -, -, hr⟩⟩ := runs_invoke_bind.mp h
  · obtain rfl : answer = Except.ok result := hresult
    obtain ⟨vacuumed, rfl, hvacuumed⟩ := runs_invoke.mp h₁
    obtain rfl : Except.ok () = vacuumed := hvacuumed
    exact ⟨result, rfl⟩
  · cases hr

/-- A maintenance happens at most once and is reported completed only if it was. -/
theorem maintain_runs {o : HealthHistoryOrchestrator}
    {r : Except HistoryException MaintenanceOpportunityResult} (h : Runs o.maintain t r) :
    MaintainedOnce t ∧ ∀ result, r = .ok result → result.outcome = .maintenanceCompleted →
      CompletedMaintenance t := by
  unfold maintain readUtcNowUs at h
  obtain ⟨now, t₁, t₂, rfl, hnow, h₂⟩ := runs_catching_bind.mp h
  obtain ⟨utc, rfl, -⟩ := runs_invoke.mp hnow
  have hutc : Quiet [⟨HistoryCall.utcNowUs, utc⟩] := ⟨rfl, rfl, rfl, rfl⟩
  split at h₂
  · obtain ⟨rfl, rfl⟩ := runs_pure.mp h₂
    refine ⟨⟨Nat.zero_le 1, Nat.zero_le 1, Nat.zero_le 1⟩, ?_⟩
    rintro _ ⟨⟩ ⟨⟩
  -- the clock was read: the cleanup comes first
  rename_i nowUtcUs
  obtain ⟨cleaned, t₃, t₄, rfl, hclean, h₄⟩ := runs_catching_bind.mp h₂
  have hcleaned := (cleanAndVacuum_runs hclean).after hutc
  rw [← List.append_assoc]
  split at h₄
  case h_1 e =>
    obtain ⟨rfl, rfl⟩ := runs_pure.mp h₄
    rw [List.append_nil]
    refine ⟨hcleaned.once, ?_⟩
    rintro _ ⟨⟩ hcompleted
    exact absurd hcompleted (not_completed (maintenanceErrorOutcome_mem e).1)
  case h_2 =>
    obtain ⟨rfl, rfl⟩ := runs_pure.mp h₄
    rw [List.append_nil]
    refine ⟨hcleaned.once, ?_⟩
    rintro _ ⟨⟩ ⟨⟩
  case h_3 =>
    obtain ⟨rfl, rfl⟩ := runs_raise.mp h₄
    rw [List.append_nil]
    exact ⟨hcleaned.once, fun _ h => nomatch h⟩
  -- it returned, so the log is inspected
  unfold Service.inspectWal at h₄
  obtain ⟨inspected, t₅, t₆, rfl, hinspect, h₆⟩ := runs_catching_bind.mp h₄
  obtain ⟨answer, rfl, hanswer⟩ := runs_invoke.mp hinspect
  obtain rfl : inspected = answer := hanswer
  have hinspected := hcleaned.append
    (⟨rfl, rfl, rfl, rfl⟩ : Quiet [⟨HistoryCall.inspectWal, inspected⟩])
  rw [← List.append_assoc]
  split at h₆
  case h_1 e =>
    obtain ⟨rfl, rfl⟩ := runs_pure.mp h₆
    rw [List.append_nil]
    refine ⟨hinspected.once, ?_⟩
    rintro _ ⟨⟩ hcompleted
    exact absurd hcompleted (not_completed (storageErrorOutcome_mem e false).1)
  case h_2 =>
    obtain ⟨rfl, rfl⟩ := runs_pure.mp h₆
    rw [List.append_nil]
    refine ⟨hinspected.once, ?_⟩
    rintro _ ⟨⟩ ⟨⟩
  case h_3 =>
    obtain ⟨rfl, rfl⟩ := runs_raise.mp h₆
    rw [List.append_nil]
    exact ⟨hinspected.once, fun _ h => nomatch h⟩
  rename_i wal
  obtain ⟨result, rfl⟩ := cleanAndVacuum_returned hclean
  split at h₆
  · obtain ⟨rfl, rfl⟩ := runs_pure.mp h₆
    rw [List.append_nil]
    refine ⟨hinspected.once, ?_⟩
    rintro _ ⟨⟩ ⟨⟩
  -- only a log of a permitted size can complete the maintenance
  rename_i hoversize
  have hsize : wal.oversize = false := Bool.eq_false_iff.mpr hoversize
  split at h₆
  · obtain ⟨⟨answer, rfl⟩, hcheckpoint⟩ := checkpointMaintenance_runs h₆
    refine ⟨hinspected.checkpointed answer, fun result' hr hcompleted => ?_⟩
    obtain ⟨c, hc, houtcome⟩ := hcheckpoint result' hr hcompleted
    exact {
      cleaned := ⟨nowUtcUs, o.retentionDays, result, by simp⟩
      vacuumed := by simp
      inspected := ⟨wal, by simp, hsize, fun _ =>
        ⟨c, List.mem_append_right _ hc, houtcome⟩⟩ }
  · rename_i hdue
    obtain ⟨rfl, rfl⟩ := runs_pure.mp h₆
    rw [List.append_nil]
    exact ⟨hinspected.once, fun _ _ _ => {
      cleaned := ⟨nowUtcUs, o.retentionDays, result, by simp⟩
      vacuumed := by simp
      inspected := ⟨wal, by simp, hsize, fun h => absurd h hdue⟩ }⟩

/-- Setting the trigger again makes no call of maintenance. -/
theorem rearm_runs {o : HealthHistoryOrchestrator} {result : MaintenanceOpportunityResult}
    {started : ℚ}
    {r : Except HistoryException (MaintenanceOpportunityResult × HealthHistoryOrchestrator)}
    (h : Runs (o.rearm result started) t r) :
    Quiet t ∧ ∀ result' o', r = .ok (result', o') → o' = o ∨ result' = result := by
  unfold rearm readMonotonic at h
  obtain ⟨rearmed, t₁, t₂, rfl, h₁, h₂⟩ := runs_catching_bind.mp h
  have hquiet : Quiet t₁ := by
    obtain ⟨answer, t', rfl, ⟨now, -, hafter⟩ | ⟨e, -, rfl, -⟩⟩ := runs_invoke_bind.mp h₁
    · obtain ⟨rfl, -⟩ := runs_ofExcept.mp hafter
      exact ⟨rfl, rfl, rfl, rfl⟩
    · exact ⟨rfl, rfl, rfl, rfl⟩
  split at h₂
  all_goals
    obtain ⟨rfl, rfl⟩ := runs_pure.mp h₂
    rw [List.append_nil]
    refine ⟨hquiet, ?_⟩
    rintro _ _ ⟨⟩
  · exact .inl rfl
  · exact .inr rfl

/-- A maintenance opportunity changes the trigger only if it completed. -/
theorem runMaintenanceOpportunity_runs {o : HealthHistoryOrchestrator}
    {r : Except HistoryException (MaintenanceOpportunityResult × HealthHistoryOrchestrator)}
    (h : Runs o.runMaintenanceOpportunity t r) :
    MaintainedOnce t ∧ ∀ result o', r = .ok (result, o') →
      o' = o ∨ result.outcome = .maintenanceCompleted ∧ CompletedMaintenance t := by
  unfold runMaintenanceOpportunity Service.acquire at h
  obtain ⟨acquired, t₁, rfl, h₁⟩ := runs_ask_bind.mp h
  cases acquired with
  -- another call is under way, and this one does nothing
  | false =>
    rw [if_neg Bool.false_ne_true] at h₁
    obtain ⟨rfl, rfl⟩ := runs_pure.mp h₁
    refine ⟨⟨Nat.zero_le 1, Nat.zero_le 1, Nat.zero_le 1⟩, ?_⟩
    rintro _ _ ⟨⟩
    exact .inl rfl
  | true =>
    rw [if_pos rfl] at h₁
    unfold readMonotonic at h₁
    obtain ⟨started, t₂, t₃, rfl, h₂, h₃⟩ := runs_catching_bind.mp h₁
    obtain ⟨answer, rfl, -⟩ := runs_invoke.mp h₂
    -- taking the guard and reading the clock are no maintenance
    have hguard : Quiet [⟨HistoryCall.acquire .orchestrator, true⟩,
      ⟨HistoryCall.monotonic .orchestrator, answer⟩] := ⟨rfl, rfl, rfl, rfl⟩
    split at h₃
    · obtain ⟨rfl, rfl⟩ := runs_pure.mp h₃
      refine ⟨⟨Nat.zero_le 1, Nat.zero_le 1, Nat.zero_le 1⟩, ?_⟩
      rintro _ _ ⟨⟩
      exact .inl rfl
    split at h₃
    · obtain ⟨rfl, rfl⟩ := runs_pure.mp h₃
      refine ⟨⟨Nat.zero_le 1, Nat.zero_le 1, Nat.zero_le 1⟩, ?_⟩
      rintro _ _ ⟨⟩
      exact .inl rfl
    rcases runs_bind.mp h₃ with ⟨e, hmaintain, rfl⟩ | ⟨result, t₄, t₅, rfl, hmaintain, h₅⟩
    · exact ⟨(maintain_runs hmaintain).1.after hguard, fun _ _ h => nomatch h⟩
    obtain ⟨honce, hcompleted⟩ := maintain_runs hmaintain
    split at h₅
    -- only a maintenance that completed sets the trigger again
    · rename_i houtcome
      obtain ⟨hquiet, hrearmed⟩ := rearm_runs h₅
      refine ⟨(honce.append hquiet).after hguard, fun result' o' hr => ?_⟩
      refine (hrearmed result' o' hr).imp id ?_
      rintro rfl
      exact ⟨houtcome, (hcompleted _ rfl houtcome).mono fun x hx =>
        List.mem_cons_of_mem _ (List.mem_append_right _ (List.mem_append_left _ hx))⟩
    · obtain ⟨rfl, rfl⟩ := runs_pure.mp h₅
      rw [List.append_nil]
      refine ⟨honce.after hguard, ?_⟩
      rintro _ _ ⟨⟩
      exact .inl rfl

end HealthHistoryOrchestrator

end Aurora.HealthHistory
