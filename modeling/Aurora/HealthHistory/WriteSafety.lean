/-
  What the orchestrator does to the store.

  An observation is a transcript without an ingest, or one that ends with its only ingest directly
  behind an inspection that decides to proceed (`Observed`).  Cleanup, vacuum and checkpoint are made
  at most once each, and the result says whether one of them was attempted.
-/
import Aurora.HealthHistory.Orchestration
import Aurora.HealthHistory.Runs

namespace Aurora.HealthHistory

open Program

/-! ## Counting calls -/

namespace HistoryCall

/-- The call ingests. -/
def isIngest : HistoryCall → Bool
  | ingest _ => true
  | _ => false

/-- The call deletes what the retention no longer keeps. -/
def isCleanup : HistoryCall → Bool
  | cleanupRetention _ _ => true
  | _ => false

/-- The call gives free pages back. -/
def isVacuum : HistoryCall → Bool
  | incrementalVacuum => true
  | _ => false

/-- The call checkpoints the log. -/
def isCheckpoint : HistoryCall → Bool
  | passiveWalCheckpoint => true
  | _ => false

/-- The call collects a report. -/
def isReport : HistoryCall → Bool
  | healthReport => true
  | _ => false

/-- The three kinds of storage maintenance. -/
def isMaintenance (c : HistoryCall) : Bool := c.isCleanup || c.isVacuum || c.isCheckpoint

end HistoryCall

/-- How many calls of a kind a transcript has. -/
def calls (kind : HistoryCall → Bool) (t : HistoryTranscript) : Nat := t.countP fun x => kind x.1

@[simp] theorem calls_nil (kind : HistoryCall → Bool) : calls kind [] = 0 := rfl

@[simp] theorem calls_cons (kind : HistoryCall → Bool) (x : Exchange historyInterface)
    (t : HistoryTranscript) : calls kind (x :: t) = calls kind t + if kind x.1 then 1 else 0 :=
  List.countP_cons

@[simp] theorem calls_append (kind : HistoryCall → Bool) (t t' : HistoryTranscript) :
    calls kind (t ++ t') = calls kind t + calls kind t' := List.countP_append

/-- None of a kind, if no single call is. -/
theorem calls_eq_zero {kind : HistoryCall → Bool} {t : HistoryTranscript} :
    calls kind t = 0 ↔ ∀ x ∈ t, kind x.1 = false := by
  unfold calls
  rw [List.countP_eq_zero]
  simp

/-- Maintenance is counted by its three kinds. -/
theorem calls_isMaintenance (t : HistoryTranscript) : calls HistoryCall.isMaintenance t =
    calls HistoryCall.isCleanup t + calls HistoryCall.isVacuum t +
      calls HistoryCall.isCheckpoint t := by
  induction t with
  | nil => rfl
  | cons x t ih =>
    obtain ⟨c, answer⟩ := x
    rw [calls_cons, calls_cons, calls_cons, calls_cons, ih]
    cases c <;> simp [HistoryCall.isMaintenance, HistoryCall.isCleanup, HistoryCall.isVacuum,
      HistoryCall.isCheckpoint] <;> omega

/-! ## Inspections -/

/-- An inspection of the storage envelope and its decision. -/
inductive Inspection (attempted : Bool) : HistoryTranscript → StorageDecisionOutcome → Prop
  | mk (capacity : StorageCapacityResult) (freeSpace : FreeSpaceResult) (wal : WalInspectionResult) :
      Inspection attempted [⟨.inspectStorageCapacity, .ok capacity⟩,
        ⟨.inspectFreeSpace, .ok freeSpace⟩, ⟨.inspectWal, .ok wal⟩]
        (decideStorageAction capacity freeSpace wal attempted).outcome

/-- An inspection of the storage only looks. -/
theorem Inspection.calls {attempted : Bool} {t : HistoryTranscript}
    {decision : StorageDecisionOutcome} (h : Inspection attempted t decision) :
    calls HistoryCall.isIngest t = 0 ∧ calls HistoryCall.isCleanup t = 0 ∧
      calls HistoryCall.isVacuum t = 0 ∧ calls HistoryCall.isCheckpoint t = 0 := by
  cases h
  exact ⟨rfl, rfl, rfl, rfl⟩

/-- A transcript that leaves the store alone. -/
structure Quiet (t : HistoryTranscript) : Prop where
  ingest : calls HistoryCall.isIngest t = 0
  cleanup : calls HistoryCall.isCleanup t = 0
  vacuum : calls HistoryCall.isVacuum t = 0
  checkpoint : calls HistoryCall.isCheckpoint t = 0

theorem Inspection.quiet {attempted : Bool} {t : HistoryTranscript}
    {decision : StorageDecisionOutcome} (h : Inspection attempted t decision) : Quiet t :=
  have ⟨hingest, hcleanup, hvacuum, hcheckpoint⟩ := h.calls
  ⟨hingest, hcleanup, hvacuum, hcheckpoint⟩

namespace Quiet

variable {t t' : HistoryTranscript}

theorem maintenance (h : Quiet t) : calls HistoryCall.isMaintenance t = 0 := by
  rw [calls_isMaintenance, h.cleanup, h.vacuum, h.checkpoint]

theorem append (h : Quiet t) (h' : Quiet t') : Quiet (t ++ t') where
  ingest := by rw [calls_append, h.ingest, h'.ingest]
  cleanup := by rw [calls_append, h.cleanup, h'.cleanup]
  vacuum := by rw [calls_append, h.vacuum, h'.vacuum]
  checkpoint := by rw [calls_append, h.checkpoint, h'.checkpoint]

end Quiet

/-- The transcript ends with its only ingest, directly behind an inspection that proceeds. -/
def IngestsSafely (projection : HealthProjection) (t : HistoryTranscript) : Prop :=
  ∃ before attempted inspection answer,
    t = before ++ inspection ++ [⟨.ingest projection, answer⟩] ∧
      calls HistoryCall.isIngest before = 0 ∧ Inspection attempted inspection .proceed

/-- The writes of one observation. -/
structure WriteSafe (projection : HealthProjection) (t : HistoryTranscript) : Prop where
  ingest : calls HistoryCall.isIngest t = 0 ∨ IngestsSafely projection t
  cleanup : calls HistoryCall.isCleanup t ≤ 1
  vacuum : calls HistoryCall.isVacuum t ≤ 1
  checkpoint : calls HistoryCall.isCheckpoint t ≤ 1

/-- A transcript that writes nothing is safe. -/
theorem Quiet.writeSafe {projection : HealthProjection} {t : HistoryTranscript} (h : Quiet t) :
    WriteSafe projection t where
  ingest := .inl h.ingest
  cleanup := by rw [h.cleanup]; exact Nat.zero_le 1
  vacuum := by rw [h.vacuum]; exact Nat.zero_le 1
  checkpoint := by rw [h.checkpoint]; exact Nat.zero_le 1

/-- What went before an ingest may be anything but another one. -/
theorem IngestsSafely.append {projection : HealthProjection} {t t' : HistoryTranscript}
    (h : IngestsSafely projection t') (ht : calls HistoryCall.isIngest t = 0) :
    IngestsSafely projection (t ++ t') := by
  obtain ⟨before, attempted, inspection, answer, rfl, hbefore, hinspection⟩ := h
  refine ⟨t ++ before, attempted, inspection, answer, by simp only [List.append_assoc], ?_,
    hinspection⟩
  rw [calls_append, ht, hbefore]

/-- Quiet calls before a safe transcript keep it safe. -/
theorem WriteSafe.after {projection : HealthProjection} {t t' : HistoryTranscript}
    (h : WriteSafe projection t) (h' : Quiet t') : WriteSafe projection (t' ++ t) where
  ingest := by
    rw [calls_append, h'.ingest, Nat.zero_add]
    exact h.ingest.imp id fun hsafe => hsafe.append h'.ingest
  cleanup := by rw [calls_append, h'.cleanup, Nat.zero_add]; exact h.cleanup
  vacuum := by rw [calls_append, h'.vacuum, Nat.zero_add]; exact h.vacuum
  checkpoint := by rw [calls_append, h'.checkpoint, Nat.zero_add]; exact h.checkpoint

/-- A transcript with a cleanup, and the vacuum behind it if it succeeded. -/
structure Cleaned (t : HistoryTranscript) : Prop where
  ingest : calls HistoryCall.isIngest t = 0
  cleanup : calls HistoryCall.isCleanup t = 1
  vacuum : calls HistoryCall.isVacuum t ≤ 1
  checkpoint : calls HistoryCall.isCheckpoint t = 0

namespace Cleaned

variable {t t' : HistoryTranscript}

theorem maintenance (h : Cleaned t) : calls HistoryCall.isMaintenance t ≠ 0 := by
  rw [calls_isMaintenance, h.cleanup]
  omega

theorem append (h : Cleaned t) (h' : Quiet t') : Cleaned (t ++ t') where
  ingest := by rw [calls_append, h.ingest, h'.ingest]
  cleanup := by rw [calls_append, h.cleanup, h'.cleanup]
  vacuum := by rw [calls_append, h'.vacuum]; exact h.vacuum
  checkpoint := by rw [calls_append, h.checkpoint, h'.checkpoint]

theorem after (h : Cleaned t) (h' : Quiet t') : Cleaned (t' ++ t) where
  ingest := by rw [calls_append, h.ingest, h'.ingest]
  cleanup := by rw [calls_append, h.cleanup, h'.cleanup]
  vacuum := by rw [calls_append, h'.vacuum, Nat.zero_add]; exact h.vacuum
  checkpoint := by rw [calls_append, h.checkpoint, h'.checkpoint]

theorem writeSafe {projection : HealthProjection} (h : Cleaned t) : WriteSafe projection t where
  ingest := .inl h.ingest
  cleanup := le_of_eq h.cleanup
  vacuum := h.vacuum
  checkpoint := by rw [h.checkpoint]; exact Nat.zero_le 1

end Cleaned

namespace HealthHistoryOrchestrator

variable {t : HistoryTranscript}

/-- The three inspections, and the decision when all of them report. -/
theorem inspections_runs {attempted : Bool} {r : Except HistoryException StorageDecisionOutcome}
    (h : Runs (do
      let capacity ← Service.inspectStorageCapacity
      let freeSpace ← Service.inspectFreeSpace
      let wal ← Service.inspectWal
      return (decideStorageAction capacity freeSpace wal attempted).outcome) t r) :
    Quiet t ∧ ∀ decision, r = .ok decision → Inspection attempted t decision := by
  unfold Service.inspectStorageCapacity Service.inspectFreeSpace Service.inspectWal at h
  obtain ⟨capacity, t₁, rfl, ⟨capacity, hcapacity, h₁⟩ | ⟨e, -, rfl, rfl⟩⟩ := runs_invoke_bind.mp h
  · obtain rfl : _ = Except.ok capacity := hcapacity
    obtain ⟨freeSpace, t₂, rfl, ⟨freeSpace, hfree, h₂⟩ | ⟨e, -, rfl, rfl⟩⟩ :=
      runs_invoke_bind.mp h₁
    · obtain rfl : _ = Except.ok freeSpace := hfree
      obtain ⟨wal, t₃, rfl, ⟨wal, hwal, h₃⟩ | ⟨e, -, rfl, rfl⟩⟩ := runs_invoke_bind.mp h₂
      · obtain rfl : _ = Except.ok wal := hwal
        obtain ⟨rfl, rfl⟩ := runs_pure.mp h₃
        have hinspection : Inspection attempted _ _ := .mk capacity freeSpace wal
        refine ⟨hinspection.quiet, ?_⟩
        rintro _ ⟨⟩
        exact hinspection
      · exact ⟨⟨rfl, rfl, rfl, rfl⟩, fun _ h => nomatch h⟩
    · exact ⟨⟨rfl, rfl, rfl, rfl⟩, fun _ h => nomatch h⟩
  · exact ⟨⟨rfl, rfl, rfl, rfl⟩, fun _ h => nomatch h⟩

/-- What an inspection calls and what it concludes. -/
theorem inspectStorage_runs {attempted : Bool}
    {r : Except HistoryException (Except ObservationCycleResult StorageDecisionOutcome)}
    (h : Runs (inspectStorage attempted) t r) :
    Quiet t ∧ (∀ decision, r = .ok (.ok decision) → Inspection attempted t decision) ∧
      ∀ result, r = .ok (.error result) → result.storageMaintenanceAttempted = false := by
  unfold inspectStorage at h
  obtain ⟨r', t₁, t₂, rfl, h₁, h₂⟩ := runs_catching_bind.mp h
  obtain ⟨hquiet, hinspection⟩ := inspections_runs h₁
  -- nothing is called behind the inspections
  have hend : t₂ = [] ∧ (∀ decision, r = .ok (.ok decision) → r' = .ok decision) ∧
      ∀ result, r = .ok (.error result) → result.storageMaintenanceAttempted = false := by
    split at h₂
    case h_5 =>
      obtain ⟨rfl, rfl⟩ := runs_raise.mp h₂
      exact ⟨rfl, fun _ h => (nomatch h), fun _ h => nomatch h⟩
    all_goals
      obtain ⟨rfl, rfl⟩ := runs_pure.mp h₂
      refine ⟨rfl, ?_, ?_⟩
      all_goals
        rintro _ ⟨⟩
        try rfl
  obtain ⟨rfl, hdecision, hresult⟩ := hend
  rw [List.append_nil]
  exact ⟨hquiet, fun decision hr => hinspection decision (hdecision decision hr), hresult⟩

/-- The checkpoint is one call, and a result it ends with reports the attempt. -/
theorem checkpointBeforeIngestion_runs
    {r : Except HistoryException (Option ObservationCycleResult)}
    (h : Runs checkpointBeforeIngestion t r) :
    (∃ answer, t = [⟨.passiveWalCheckpoint, answer⟩]) ∧
      ∀ result, r = .ok (some result) → result.storageMaintenanceAttempted = true := by
  unfold checkpointBeforeIngestion Service.passiveWalCheckpoint at h
  obtain ⟨r', t₁, t₂, rfl, h₁, h₂⟩ := runs_catching_bind.mp h
  obtain ⟨answer, rfl, -⟩ := runs_invoke.mp h₁
  have hend : t₂ = [] ∧ ∀ result, r = .ok (some result) →
      result.storageMaintenanceAttempted = true := by
    split at h₂
    case h_3 =>
      obtain ⟨rfl, rfl⟩ := runs_raise.mp h₂
      exact ⟨rfl, fun _ h => nomatch h⟩
    case h_4 checkpoint =>
      split at h₂
      all_goals
        obtain ⟨rfl, rfl⟩ := runs_pure.mp h₂
        refine ⟨rfl, ?_⟩
        rintro _ ⟨⟩
        try rfl
    all_goals
      obtain ⟨rfl, rfl⟩ := runs_pure.mp h₂
      refine ⟨rfl, ?_⟩
      rintro _ ⟨⟩
      rfl
  exact ⟨⟨answer, by rw [hend.1, List.append_nil]⟩, hend.2⟩

theorem ingestOnce_runs {projection : HealthProjection} {attempted : Bool}
    {r : Except HistoryException ObservationCycleResult}
    (h : Runs (ingestOnce projection attempted) t r) :
    (∃ answer, t = [⟨.ingest projection, answer⟩]) ∧
      ∀ result, r = .ok result → result.storageMaintenanceAttempted = attempted := by
  unfold ingestOnce Service.ingest at h
  obtain ⟨r', t₁, t₂, rfl, h₁, h₂⟩ := runs_catching_bind.mp h
  obtain ⟨answer, rfl, -⟩ := runs_invoke.mp h₁
  have hend : t₂ = [] ∧ ∀ result, r = .ok result →
      result.storageMaintenanceAttempted = attempted := by
    split at h₂
    case h_3 =>
      obtain ⟨rfl, rfl⟩ := runs_raise.mp h₂
      exact ⟨rfl, fun _ h => nomatch h⟩
    all_goals
      obtain ⟨rfl, rfl⟩ := runs_pure.mp h₂
      refine ⟨rfl, ?_⟩
      rintro _ ⟨⟩
      rfl
  exact ⟨⟨answer, by rw [hend.1, List.append_nil]⟩, hend.2⟩

/-! ## Composing the observation -/

/-- What follows a decision: it ingests directly, or behind an inspection of its own. -/
structure Finished (projection : HealthProjection) (decision : StorageDecisionOutcome)
    (t : HistoryTranscript) : Prop where
  ingest : calls HistoryCall.isIngest t = 0 ∨
    (decision = .proceed ∧ ∃ answer, t = [⟨.ingest projection, answer⟩]) ∨ IngestsSafely projection t
  cleanup : calls HistoryCall.isCleanup t = 0
  vacuum : calls HistoryCall.isVacuum t = 0
  checkpoint : calls HistoryCall.isCheckpoint t ≤ 1

/-- After the decision a checkpoint is the only maintenance left. -/
theorem Finished.maintenance {projection : HealthProjection} {decision : StorageDecisionOutcome}
    (h : Finished projection decision t) :
    calls HistoryCall.isMaintenance t = calls HistoryCall.isCheckpoint t := by
  rw [calls_isMaintenance, h.cleanup, h.vacuum, Nat.zero_add]

/-- What follows a decision is safe behind the inspection that made it. -/
theorem Finished.writeSafe {projection : HealthProjection} {decision : StorageDecisionOutcome}
    {attempted : Bool} {before inspection : HistoryTranscript}
    (h : Finished projection decision t) (hinspection : Inspection attempted inspection decision)
    (hingest : calls HistoryCall.isIngest before = 0)
    (hcleanup : calls HistoryCall.isCleanup before ≤ 1)
    (hvacuum : calls HistoryCall.isVacuum before ≤ 1)
    (hcheckpoint : calls HistoryCall.isCheckpoint before = 0) :
    WriteSafe projection (before ++ inspection ++ t) := by
  have hquiet := hinspection.quiet
  refine ⟨?_, ?_, ?_, ?_⟩
  · rcases h.ingest with hnone | ⟨rfl, answer, rfl⟩ | hsafe
    · exact .inl (by rw [calls_append, calls_append, hingest, hquiet.ingest, hnone])
    · exact .inr ⟨before, attempted, inspection, answer, rfl, hingest, hinspection⟩
    · exact .inr (hsafe.append (by rw [calls_append, hingest, hquiet.ingest]))
  · rw [calls_append, calls_append, hquiet.cleanup, h.cleanup]
    exact hcleanup
  · rw [calls_append, calls_append, hquiet.vacuum, h.vacuum]
    exact hvacuum
  · rw [calls_append, calls_append, hquiet.checkpoint, hcheckpoint, Nat.zero_add]
    exact h.checkpoint

/-- A checkpoint with nothing behind it but inspections. -/
theorem Finished.ofQuiet {projection : HealthProjection} {decision : StorageDecisionOutcome}
    (h : Quiet t) (answer : HistoryCall.Answer .passiveWalCheckpoint) :
    Finished projection decision ([⟨.passiveWalCheckpoint, answer⟩] ++ t) where
  ingest := .inl (by simp [h.ingest, HistoryCall.isIngest])
  cleanup := by simp [h.cleanup, HistoryCall.isCleanup]
  vacuum := by simp [h.vacuum, HistoryCall.isVacuum]
  checkpoint := by simp [h.checkpoint, HistoryCall.isCheckpoint]

/-- The rest of an observation, by the decision on the storage. -/
theorem finishObservationDecision_runs {projection : HealthProjection}
    {decision : StorageDecisionOutcome} {attempted : Bool}
    {r : Except HistoryException ObservationCycleResult}
    (h : Runs (finishObservationDecision projection decision attempted) t r) :
    Finished projection decision t ∧ ∀ result, r = .ok result →
      (result.storageMaintenanceAttempted = true ↔
        attempted = true ∨ calls HistoryCall.isCheckpoint t ≠ 0) := by
  unfold finishObservationDecision at h
  -- a blocked decision ends the observation, a due checkpoint comes before the ingest
  cases decision with
  | capacityBlocked | capacityMaintenanceRequired | walOversizeBlocked =>
    obtain ⟨rfl, rfl⟩ := runs_pure.mp h
    refine ⟨⟨.inl rfl, rfl, rfl, Nat.zero_le 1⟩, ?_⟩
    rintro _ ⟨⟩
    simp
  | proceed =>
    obtain ⟨⟨answer, rfl⟩, hresult⟩ := ingestOnce_runs h
    refine ⟨⟨.inr (.inl ⟨rfl, answer, rfl⟩), rfl, rfl, Nat.zero_le 1⟩, fun result hr => ?_⟩
    rw [hresult result hr]
    simp [HistoryCall.isCheckpoint]
  | walCheckpointDue =>
    rcases runs_bind.mp h with ⟨e, hcheckpoint, rfl⟩ | ⟨ended, t₁, t₂, rfl, hcheckpoint, h₂⟩
    · obtain ⟨⟨answer, rfl⟩, -⟩ := checkpointBeforeIngestion_runs hcheckpoint
      exact ⟨⟨.inl rfl, rfl, rfl, Nat.le_refl 1⟩, fun _ h => nomatch h⟩
    obtain ⟨⟨answer, rfl⟩, hended⟩ := checkpointBeforeIngestion_runs hcheckpoint
    cases ended with
    | some result =>
      obtain ⟨rfl, rfl⟩ := runs_pure.mp h₂
      refine ⟨⟨.inl rfl, rfl, rfl, Nat.le_refl 1⟩, ?_⟩
      rintro _ ⟨⟩
      simp [hended result rfl, HistoryCall.isCheckpoint]
    | none =>
      rcases runs_bind.mp h₂ with ⟨e, hinspect, rfl⟩ | ⟨again, t₃, t₄, rfl, hinspect, h₄⟩
      · obtain ⟨hquiet, -⟩ := inspectStorage_runs hinspect
        exact ⟨Finished.ofQuiet hquiet answer, fun _ h => nomatch h⟩
      obtain ⟨hquiet, hinspection, -⟩ := inspectStorage_runs hinspect
      -- the storage is looked at once more after the checkpoint
      have hchecked (t : HistoryTranscript) : calls HistoryCall.isCheckpoint
          ([⟨.passiveWalCheckpoint, answer⟩] ++ (t₃ ++ t)) ≠ 0 := by
        simp [HistoryCall.isCheckpoint]
      split at h₄
      case h_6 =>
        obtain ⟨⟨stored, rfl⟩, hresult⟩ := ingestOnce_runs h₄
        refine ⟨?_, fun result hr => iff_of_true (hresult result hr) (.inr (hchecked _))⟩
        have hsafe : IngestsSafely projection (t₃ ++ [⟨.ingest projection, stored⟩]) :=
          ⟨[], _, t₃, stored, rfl, rfl, hinspection _ rfl⟩
        refine ⟨.inr (.inr (hsafe.append rfl)), ?_, ?_, ?_⟩
        · simp [hquiet.cleanup, HistoryCall.isCleanup]
        · simp [hquiet.vacuum, HistoryCall.isVacuum]
        · simp [hquiet.checkpoint, HistoryCall.isCheckpoint]
      all_goals
        obtain ⟨rfl, rfl⟩ := runs_pure.mp h₄
        refine ⟨?_, ?_⟩
        · rw [List.append_nil]
          exact Finished.ofQuiet hquiet answer
        rintro _ ⟨⟩
        exact iff_of_true rfl (.inr (hchecked _))

/-- A quiet transcript, then a cleanup and the vacuum behind it. -/
theorem cleanAndVacuum_runs {o : HealthHistoryOrchestrator} {now : Int}
    {r : Except HistoryException Unit} (h : Runs (o.cleanAndVacuum now) t r) : Cleaned t := by
  unfold cleanAndVacuum Service.cleanupRetention Service.incrementalVacuum at h
  obtain ⟨answer, t₁, rfl, ⟨_, -, h₁⟩ | ⟨e, -, rfl, rfl⟩⟩ := runs_invoke_bind.mp h
  · obtain ⟨vacuumed, rfl, -⟩ := runs_invoke.mp h₁
    exact ⟨rfl, rfl, Nat.le_refl 1, rfl⟩
  · exact ⟨rfl, rfl, Nat.zero_le 1, rfl⟩

/-- The observation behind a first inspection that asks for capacity. -/
theorem maintainCapacity_runs {o : HealthHistoryOrchestrator} {projection : HealthProjection}
    {r : Except HistoryException ObservationCycleResult}
    (h : Runs (do
      match ← catching readUtcNowUs with
      | .error _ => return ⟨.invalidClock, false, by decide⟩
      | .ok nowUtcUs =>
        match ← catching (o.cleanAndVacuum nowUtcUs) with
        | .error (.maintenance e) =>
          return ⟨maintenanceErrorOutcome e, true, (maintenanceErrorOutcome_mem e).1⟩
        | .error .store => return ⟨.trustFailed, true, by decide⟩
        | .error e => raise e
        | .ok _ =>
          match ← inspectStorage true with
          | .error result => return ⟨result.outcome, true, result.permitted⟩
          | .ok decision => finishObservationDecision projection decision true) t r) :
    WriteSafe projection t ∧ ∀ result, r = .ok result →
      (result.storageMaintenanceAttempted = true ↔ calls HistoryCall.isMaintenance t ≠ 0) := by
  unfold readUtcNowUs at h
  obtain ⟨now, t₁, t₂, rfl, hnow, h₂⟩ := runs_catching_bind.mp h
  obtain ⟨utc, rfl, -⟩ := runs_invoke.mp hnow
  have hutc : Quiet [⟨HistoryCall.utcNowUs, utc⟩] := ⟨rfl, rfl, rfl, rfl⟩
  split at h₂
  · obtain ⟨rfl, rfl⟩ := runs_pure.mp h₂
    refine ⟨hutc.writeSafe, ?_⟩
    rintro _ ⟨⟩
    exact iff_of_false Bool.false_ne_true (absurd hutc.maintenance)
  -- with a clock reading the cleanup comes first
  rename_i nowUtcUs
  obtain ⟨cleaned, t₃, t₄, rfl, hclean, h₄⟩ := runs_catching_bind.mp h₂
  have hcleaned := (cleanAndVacuum_runs hclean).after hutc
  rw [← List.append_assoc]
  split at h₄
  case h_3 =>
    obtain ⟨rfl, rfl⟩ := runs_raise.mp h₄
    rw [List.append_nil]
    exact ⟨hcleaned.writeSafe, fun _ h => nomatch h⟩
  case h_4 =>
    -- it returned: the storage is looked at again before the ingest
    rcases runs_bind.mp h₄ with ⟨e, hinspect, rfl⟩ | ⟨second, t₅, t₆, rfl, hinspect, h₆⟩
    · obtain ⟨hquiet, -⟩ := inspectStorage_runs hinspect
      exact ⟨(hcleaned.append hquiet).writeSafe, fun _ h => nomatch h⟩
    obtain ⟨hquiet, hinspection, -⟩ := inspectStorage_runs hinspect
    split at h₆
    · obtain ⟨rfl, rfl⟩ := runs_pure.mp h₆
      rw [List.append_nil]
      refine ⟨(hcleaned.append hquiet).writeSafe, ?_⟩
      rintro _ ⟨⟩
      exact iff_of_true rfl (hcleaned.append hquiet).maintenance
    · obtain ⟨hfinished, hresult⟩ := finishObservationDecision_runs h₆
      rw [← List.append_assoc]
      refine ⟨hfinished.writeSafe (hinspection _ rfl) hcleaned.ingest (le_of_eq hcleaned.cleanup)
        hcleaned.vacuum hcleaned.checkpoint, fun result hr => iff_of_true ?_ ?_⟩
      · exact (hresult result hr).mpr (.inl rfl)
      · rw [calls_append]
        exact fun hzero =>
          (hcleaned.append hquiet).maintenance (Nat.eq_zero_of_add_eq_zero_right hzero)
  all_goals
    obtain ⟨rfl, rfl⟩ := runs_pure.mp h₄
    rw [List.append_nil]
    refine ⟨hcleaned.writeSafe, ?_⟩
    rintro _ ⟨⟩
    exact iff_of_true rfl hcleaned.maintenance

/-- An observation from its inspection to its result. -/
theorem observe_runs {o : HealthHistoryOrchestrator} {projection : HealthProjection}
    {r : Except HistoryException ObservationCycleResult}
    (h : Runs (o.observe projection) t r) :
    WriteSafe projection t ∧ ∀ result, r = .ok result →
      (result.storageMaintenanceAttempted = true ↔ calls HistoryCall.isMaintenance t ≠ 0) := by
  unfold observe at h
  rcases runs_bind.mp h with ⟨e, hinspect, rfl⟩ | ⟨first, t₁, t₂, rfl, hinspect, h₂⟩
  · obtain ⟨hquiet, -⟩ := inspectStorage_runs hinspect
    exact ⟨hquiet.writeSafe, fun _ h => nomatch h⟩
  obtain ⟨hquiet, hinspection, hended⟩ := inspectStorage_runs hinspect
  split at h₂
  case h_3 =>
    obtain ⟨hsafe, hresult⟩ := maintainCapacity_runs h₂
    refine ⟨hsafe.after hquiet, fun result hr => ?_⟩
    rw [hresult result hr, calls_append, hquiet.maintenance, Nat.zero_add]
  case h_4 decision _ _ =>
    obtain ⟨hfinished, hresult⟩ := finishObservationDecision_runs h₂
    have hsafe : WriteSafe projection ([] ++ t₁ ++ t₂) :=
      hfinished.writeSafe (hinspection decision rfl) rfl (Nat.zero_le 1) (Nat.zero_le 1) rfl
    refine ⟨hsafe, fun result hr => ?_⟩
    rw [hresult result hr, calls_append, hquiet.maintenance, hfinished.maintenance]
    simp
  case h_1 result =>
    obtain ⟨rfl, rfl⟩ := runs_pure.mp h₂
    rw [List.append_nil]
    refine ⟨hquiet.writeSafe, ?_⟩
    rintro _ ⟨⟩
    rw [hended result rfl, hquiet.maintenance]
    exact iff_of_false Bool.false_ne_true (absurd rfl)
  case h_2 =>
    obtain ⟨rfl, rfl⟩ := runs_pure.mp h₂
    rw [List.append_nil]
    refine ⟨hquiet.writeSafe, ?_⟩
    rintro _ ⟨⟩
    rw [hquiet.maintenance]
    exact iff_of_false Bool.false_ne_true (absurd rfl)

/-- Behind the guard an observation is `observe`; without it nothing is called. -/
theorem processObservation_runs {o : HealthHistoryOrchestrator} {projection : HealthProjection}
    {r : Except HistoryException (ObservationCycleResult × HealthHistoryOrchestrator)}
    (h : Runs (o.processObservation projection) t r) :
    (t = [⟨.acquire .orchestrator, false⟩] ∧
        r = .ok (⟨.reentrant, false, by decide⟩, o)) ∨
      ∃ t' r', t = ⟨.acquire .orchestrator, true⟩ :: t' ∧ Runs (o.observe projection) t' r' ∧
        r = r'.map fun result =>
          (result, { o with triggerState := o.triggerState.afterObservation result }) := by
  unfold processObservation Service.acquire at h
  obtain ⟨acquired, t', rfl, h₁⟩ := runs_ask_bind.mp h
  cases acquired with
  | false =>
    rw [if_neg Bool.false_ne_true] at h₁
    obtain ⟨rfl, rfl⟩ := runs_pure.mp h₁
    exact .inl ⟨rfl, rfl⟩
  | true =>
    rw [if_pos rfl] at h₁
    rcases runs_bind.mp h₁ with ⟨e, hobserve, rfl⟩ | ⟨result, t₁, t₂, rfl, hobserve, h₂⟩
    · exact .inr ⟨t', _, rfl, hobserve, rfl⟩
    · obtain ⟨rfl, rfl⟩ := runs_pure.mp h₂
      rw [List.append_nil]
      exact .inr ⟨t₁, _, rfl, hobserve, rfl⟩

/-- **Write safety.**  Whatever the store answers, an observation ingests at most once and only
    directly behind an inspection that proceeds, it cleans up, vacuums and checkpoints at most once
    each, and its result tells whether it attempted one of these. -/
theorem processObservation_safe {o : HealthHistoryOrchestrator} {projection : HealthProjection}
    {r : Except HistoryException (ObservationCycleResult × HealthHistoryOrchestrator)}
    (h : Runs (o.processObservation projection) t r) :
    WriteSafe projection t ∧ ∀ result o', r = .ok (result, o') →
      (result.storageMaintenanceAttempted = true ↔ calls HistoryCall.isMaintenance t ≠ 0) := by
  have hguard (acquired : Bool) :
      Quiet [⟨HistoryCall.acquire .orchestrator, acquired⟩] := ⟨rfl, rfl, rfl, rfl⟩
  rcases processObservation_runs h with ⟨rfl, rfl⟩ | ⟨t', r', rfl, hobserve, rfl⟩
  · refine ⟨(hguard false).writeSafe, ?_⟩
    rintro _ _ ⟨⟩
    rw [(hguard false).maintenance]
    exact iff_of_false Bool.false_ne_true (absurd rfl)
  · obtain ⟨hsafe, hresult⟩ := observe_runs hobserve
    refine ⟨hsafe.after (hguard true), fun result o' hr => ?_⟩
    cases r' with
    | error e => cases hr
    | ok observed =>
      cases hr
      rw [hresult result rfl, calls_cons]
      exact Iff.rfl

/-- What an inspection finds, for a number of pages. -/
def databaseOfPages (pages : Int) (h : Bounded maxDatabasePages pages) :
    StorageCapacityResult where
  pageCount := pages
  freelistCount := 0
  maximumPageCount := maxDatabasePages
  usedBytes := pages * pageSizeBytes
  maximumBytes := maxDatabaseBytes
  pagesRemaining := maxDatabasePages - pages
  pages := h
  freelist := ⟨le_refl 0, h.1⟩
  maximumPages := rfl
  used := rfl
  maximum := rfl
  remaining := rfl

/-- There is room enough, -/
def enoughSpace : FreeSpaceResult where
  sufficient := true
  freeBytes := freeSpaceReserveBytes
  requiredReserveBytes := freeSpaceReserveBytes
  free := by decide
  required := rfl
  sufficient_iff := by decide

/-- and the log is empty. -/
def emptyLog : WalInspectionResult where
  exists_ := false
  logicalFrameCount := 0
  physicalFrameSlots := 0
  totalBytes := 0
  checkpointedFrames := 0
  checkpointDue := false
  oversize := false
  logical := by decide
  physical := by decide
  total := by decide
  checkpointed := by decide
  frames := by decide
  absent := by decide
  present := by decide
  oversize_iff := by decide
  checkpointDue_iff := by decide

/-- A full database that is cleaned up, vacuumed and then written. -/
def maintainedObservation : HistoryTranscript :=
  [⟨.acquire .orchestrator, true⟩,
    ⟨.inspectStorageCapacity, .ok (databaseOfPages maxDatabasePages (by decide))⟩,
    ⟨.inspectFreeSpace, .ok enoughSpace⟩, ⟨.inspectWal, .ok emptyLog⟩,
    ⟨.utcNowUs, some (5 : Int)⟩,
    ⟨.cleanupRetention 5 30, .ok (⟨.completed, 100, 0, 0⟩ : RetentionCleanupResult)⟩,
    ⟨.incrementalVacuum, .ok ()⟩,
    ⟨.inspectStorageCapacity, .ok (databaseOfPages 100 (by decide))⟩,
    ⟨.inspectFreeSpace, .ok enoughSpace⟩, ⟨.inspectWal, .ok emptyLog⟩,
    ⟨.ingest (wledReport 1 5 .healthy .wledHealthy), .ok (IngestionOutcome.transitionStored)⟩]

/-- The calls of an observation that cleans up and then ingests. -/
theorem maintainedObservation_runs : ∃ o',
    Runs (processObservation ⟨30, .initial, by decide⟩ (wledReport 1 5 .healthy .wledHealthy))
      maintainedObservation (.ok (⟨.stored, true, by decide⟩, o')) :=
  ⟨_, .call _ (.call _ (.call _ (.call _ (.call _ (.call _ (.call _ (.call _ (.call _ (.call _
    (.call _ (.done _)))))))))))⟩

theorem processObservation_safe_maintained :
    WriteSafe (wledReport 1 5 .healthy .wledHealthy) maintainedObservation ∧
      calls HistoryCall.isMaintenance maintainedObservation ≠ 0 := by
  obtain ⟨o', hruns⟩ := maintainedObservation_runs
  obtain ⟨hsafe, hresult⟩ := processObservation_safe hruns
  exact ⟨hsafe, (hresult _ _ rfl).mp rfl⟩

end HealthHistoryOrchestrator

end Aurora.HealthHistory
