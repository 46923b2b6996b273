/-
  An observation is accepted when it was ingested.

  The orchestrator reports `stored`, `stateOnly` or `replayed` only when its last call was an ingest
  that returned (`AcceptsBehindIngest`), and always then (`AcceptsItsIngest`).
-/
import Aurora.HealthHistory.Opportunities

namespace Aurora.HealthHistory

open Program

/-- An accepted outcome comes from an ingest that returned, the last call made. -/
def AcceptsBehindIngest (projection : HealthProjection) (x : Service ObservationCycleResult) :
    Prop :=
  ∀ t result, Runs x t (.ok result) → result.outcome ∈ acceptedObservationOutcomes →
    ∃ before outcome, t = before ++ [⟨.ingest projection, .ok outcome⟩]

namespace AcceptsBehindIngest

variable {projection : HealthProjection} {α : Type}

/-- An outcome that is not accepted promises no ingest. -/
theorem pure {outcome : OrchestrationOutcome} {attempted : Bool}
    {permitted : outcome ∈ observationOutcomes} (h : outcome ∉ acceptedObservationOutcomes) :
    AcceptsBehindIngest projection (pure ⟨outcome, attempted, permitted⟩) := by
  intro t result' hruns haccepted
  obtain ⟨-, hr⟩ := runs_pure.mp hruns
  obtain rfl := Except.ok.inj hr
  exact absurd haccepted h

theorem raise (e : HistoryException) : AcceptsBehindIngest projection (raise e) := by
  intro t result hruns
  obtain ⟨-, hr⟩ := runs_raise.mp hruns
  cases hr

/-- What follows has to keep the promise, whatever came before. -/
theorem bind {x : Service α} {f : α → Service ObservationCycleResult}
    (h : ∀ t a, Runs x t (.ok a) → AcceptsBehindIngest projection (f a)) :
    AcceptsBehindIngest projection (x >>= f) := by
  intro t result hruns haccepted
  obtain ⟨a, t₁, t₂, rfl, hx, hf⟩ := runs_bind_ok.mp hruns
  obtain ⟨before, outcome, rfl⟩ := h t₁ a hx t₂ result hf haccepted
  exact ⟨t₁ ++ before, outcome, by rw [List.append_assoc]⟩

end AcceptsBehindIngest

/-- An ingest that returns makes an accepted outcome. -/
def AcceptsItsIngest (x : Service ObservationCycleResult) : Prop :=
  ∀ t r, Runs x t r → ∀ p outcome, ⟨.ingest p, .ok outcome⟩ ∈ t →
    ∃ result, r = .ok result ∧ result.outcome ∈ acceptedObservationOutcomes

namespace AcceptsItsIngest

variable {α : Type}

/-- Maintenance ingests nothing. -/
theorem not_mem {x : Service α} {t : HistoryTranscript} {r : Except HistoryException α}
    (hx : x.Makes HistoryCall.OfMaintenance) (h : Runs x t r) (p : HealthProjection)
    (answer : Except HistoryException IngestionOutcome) : ⟨.ingest p, answer⟩ ∉ t :=
  fun hmem => hx.runs h _ hmem

theorem quiet {x : Service ObservationCycleResult} (hx : x.Makes HistoryCall.OfMaintenance) :
    AcceptsItsIngest x :=
  fun _ _ h p outcome hmem => absurd hmem (not_mem hx h p (.ok outcome))

/-- What runs before the ingest is maintenance. -/
theorem bind {x : Service α} {f : α → Service ObservationCycleResult}
    (hx : x.Makes HistoryCall.OfMaintenance) (hf : ∀ a, AcceptsItsIngest (f a)) :
    AcceptsItsIngest (x >>= f) := by
  intro t r h p outcome hmem
  rcases runs_bind.mp h with ⟨e, hraised, -⟩ | ⟨a, t₁, t₂, rfl, hran, hrest⟩
  · exact absurd hmem (not_mem hx hraised p (.ok outcome))
  · rcases List.mem_append.mp hmem with hbefore | hbehind
    · exact absurd hbefore (not_mem hx hran p (.ok outcome))
    · exact hf a t₂ r hrest p outcome hbehind

end AcceptsItsIngest

/-- No storage error is reported as an accepted observation. -/
theorem storageErrorOutcome_unaccepted (error : StorageEnvelopeError) (checkpoint : Bool) :
    storageErrorOutcome error checkpoint ∉ acceptedObservationOutcomes := by
  unfold storageErrorOutcome
  repeat' split
  all_goals decide

theorem maintenanceErrorOutcome_unaccepted (error : MaintenanceError) :
    maintenanceErrorOutcome error ∉ acceptedObservationOutcomes := by
  unfold maintenanceErrorOutcome
  repeat' split
  all_goals decide

/-- Neither is an ingestion error. -/
theorem ingestionErrorOutcome_unaccepted (error : IngestionError) :
    ingestionErrorOutcome error ∉ acceptedObservationOutcomes := by
  unfold ingestionErrorOutcome
  split
  · decide
  · split <;> decide

namespace HealthHistoryOrchestrator

variable {projection : HealthProjection} {t : HistoryTranscript}

/-- An inspection that ends an observation does not accept it. -/
theorem inspectStorage_unaccepted {attempted : Bool} {result : ObservationCycleResult}
    (h : Runs (inspectStorage attempted) t (.ok (.error result))) :
    result.outcome ∉ acceptedObservationOutcomes := by
  unfold inspectStorage at h
  obtain ⟨r', t₁, t₂, rfl, -, h₂⟩ := runs_catching_bind.mp h
  split at h₂
  case h_5 =>
    obtain ⟨-, hr⟩ := runs_raise.mp h₂
    cases hr
  all_goals
    obtain ⟨-, hr⟩ := runs_pure.mp h₂
    cases hr
  · exact storageErrorOutcome_unaccepted _ _
  all_goals decide

/-- Nor an observation that ends at its checkpoint. -/
theorem checkpointBeforeIngestion_unaccepted {result : ObservationCycleResult}
    (h : Runs checkpointBeforeIngestion t (.ok (some result))) :
    result.outcome ∉ acceptedObservationOutcomes := by
  unfold checkpointBeforeIngestion at h
  obtain ⟨r', t₁, t₂, rfl, -, h₂⟩ := runs_catching_bind.mp h
  split at h₂
  case h_3 =>
    obtain ⟨-, hr⟩ := runs_raise.mp h₂
    cases hr
  case h_4 =>
    split at h₂
    all_goals
      obtain ⟨-, hr⟩ := runs_pure.mp h₂
      cases hr
    all_goals decide
  all_goals
    obtain ⟨-, hr⟩ := runs_pure.mp h₂
    cases hr
  · exact storageErrorOutcome_unaccepted _ _
  · decide

/-- The ingest is accepted only if it answered. -/
theorem ingestOnce_accepts (attempted : Bool) :
    AcceptsBehindIngest projection (ingestOnce projection attempted) := by
  intro t result h haccepted
  unfold ingestOnce Service.ingest at h
  obtain ⟨r', t₁, t₂, rfl, h₁, h₂⟩ := runs_catching_bind.mp h
  obtain ⟨answer, rfl, hanswer⟩ := runs_invoke.mp h₁
  obtain rfl : r' = answer := hanswer
  split at h₂
  case h_1 e =>
    obtain ⟨-, hr⟩ := runs_pure.mp h₂
    cases hr
    exact absurd haccepted (ingestionErrorOutcome_unaccepted e)
  case h_2 =>
    obtain ⟨-, hr⟩ := runs_pure.mp h₂
    cases hr
    exact absurd haccepted (show .trustFailed ∉ acceptedObservationOutcomes by decide)
  case h_3 =>
    obtain ⟨-, hr⟩ := runs_raise.mp h₂
    cases hr
  case h_4 outcome =>
    obtain ⟨rfl, -⟩ := runs_pure.mp h₂
    exact ⟨[], outcome, rfl⟩

theorem finishObservationDecision_accepts (decision : StorageDecisionOutcome) (attempted : Bool) :
    AcceptsBehindIngest projection (finishObservationDecision projection decision attempted) := by
  cases decision with
  | capacityBlocked | capacityMaintenanceRequired | walOversizeBlocked => exact .pure (by decide)
  | proceed => exact ingestOnce_accepts attempted
  | walCheckpointDue =>
    refine .bind fun t ended hended => ?_
    cases ended with
    | some result => exact .pure (checkpointBeforeIngestion_unaccepted hended)
    | none =>
      refine .bind fun t decision hdecision => ?_
      split
      case h_1 => exact .pure (inspectStorage_unaccepted hdecision)
      case h_6 => exact ingestOnce_accepts true
      all_goals exact .pure (by decide)

theorem observe_accepts (o : HealthHistoryOrchestrator) :
    AcceptsBehindIngest projection (o.observe projection) := by
  refine .bind fun t decision hdecision => ?_
  split
  · exact .pure (inspectStorage_unaccepted hdecision)
  · exact .pure (by decide)
  · refine .bind fun t now _ => ?_
    split
    · exact .pure (by decide)
    refine .bind fun t cleaned _ => ?_
    split
    · exact .pure (maintenanceErrorOutcome_unaccepted _)
    · exact .pure (by decide)
    · exact .raise _
    · refine .bind fun t decision hdecision => ?_
      split
      · exact .pure (inspectStorage_unaccepted hdecision)
      · exact finishObservationDecision_accepts _ _
  · exact finishObservationDecision_accepts _ _

/-- An accepted answer is the one that is reported. -/
theorem ingestOnce_acceptsItsIngest (attempted : Bool) :
    AcceptsItsIngest (ingestOnce projection attempted) := by
  intro t r h p outcome hmem
  unfold ingestOnce Service.ingest at h
  obtain ⟨r', t₁, t₂, rfl, h₁, h₂⟩ := runs_catching_bind.mp h
  obtain ⟨answer, rfl, hanswer⟩ := runs_invoke.mp h₁
  obtain rfl : r' = answer := hanswer
  have ht₂ : t₂ = [] := by
    split at h₂
    case h_3 => exact (runs_raise.mp h₂).1
    all_goals exact (runs_pure.mp h₂).1
  subst ht₂
  rw [List.append_nil, List.mem_singleton] at hmem
  cases hmem
  obtain ⟨-, rfl⟩ := runs_pure.mp h₂
  have haccepted : ingestionOutcome outcome ∈ acceptedObservationOutcomes := by
    cases outcome <;> decide
  exact ⟨_, rfl, haccepted⟩

theorem finishObservationDecision_acceptsItsIngest (decision : StorageDecisionOutcome)
    (attempted : Bool) :
    AcceptsItsIngest (finishObservationDecision projection decision attempted) := by
  cases decision with
  | capacityBlocked | capacityMaintenanceRequired | walOversizeBlocked =>
    exact .quiet (makes_pure _)
  | proceed => exact ingestOnce_acceptsItsIngest attempted
  | walCheckpointDue =>
    refine .bind (checkpointBeforeIngestion_makes fun _ => id) fun ended => ?_
    cases ended with
    | some result => exact .quiet (makes_pure _)
    | none =>
      refine .bind (inspectStorage_makes attempted fun _ => id) fun decision => ?_
      split
      case h_6 => exact ingestOnce_acceptsItsIngest true
      all_goals exact .quiet (makes_pure _)

theorem observe_acceptsItsIngest (o : HealthHistoryOrchestrator) :
    AcceptsItsIngest (o.observe projection) := by
  refine .bind (inspectStorage_makes false fun _ => id) fun decision => ?_
  split
  · exact .quiet (makes_pure _)
  · exact .quiet (makes_pure _)
  · refine .bind (makes_invoke trivial).catching fun now => ?_
    split
    · exact .quiet (makes_pure _)
    refine .bind (o.cleanAndVacuum_makes _ fun _ => id).catching fun cleaned => ?_
    split
    · exact .quiet (makes_pure _)
    · exact .quiet (makes_pure _)
    · exact .quiet (makes_raise _)
    · refine .bind (inspectStorage_makes true fun _ => id) fun decision => ?_
      split
      · exact .quiet (makes_pure _)
      · exact finishObservationDecision_acceptsItsIngest _ _
  · exact finishObservationDecision_acceptsItsIngest _ _

/-- An observation whose ingest returned is accepted. -/
theorem processObservation_acceptsItsIngest {o : HealthHistoryOrchestrator}
    {t : HistoryTranscript} {p : HealthProjection} {outcome : IngestionOutcome}
    {r : Except HistoryException (ObservationCycleResult × HealthHistoryOrchestrator)}
    (h : Runs (o.processObservation projection) t r) (hmem : ⟨.ingest p, .ok outcome⟩ ∈ t) :
    ∃ result o', r = .ok (result, o') ∧ result.outcome ∈ acceptedObservationOutcomes := by
  rcases processObservation_runs h with ⟨rfl, -⟩ | ⟨t', r', rfl, hobserve, hr⟩
  · rw [List.mem_singleton] at hmem
    cases hmem
  · rcases List.mem_cons.mp hmem with hacquire | hmem
    · cases hacquire
    obtain ⟨result, rfl, haccepted⟩ := o.observe_acceptsItsIngest t' r' hobserve p outcome hmem
    exact ⟨result, _, hr, haccepted⟩

/-- An accepted observation was ingested by its last call. -/
theorem processObservation_accepts {o o' : HealthHistoryOrchestrator}
    {result : ObservationCycleResult}
    (h : Runs (o.processObservation projection) t (.ok (result, o')))
    (haccepted : result.outcome ∈ acceptedObservationOutcomes) :
    ∃ before outcome, t = before ++ [⟨.ingest projection, .ok outcome⟩] := by
  rcases processObservation_runs h with ⟨-, hr⟩ | ⟨t', r', rfl, hobserve, hr⟩
  · obtain ⟨rfl, -⟩ := Prod.mk.inj (Except.ok.inj hr)
    exact absurd haccepted (by decide)
  · cases r' with
    | error e => cases hr
    | ok result' =>
      obtain ⟨rfl, -⟩ := Prod.mk.inj (Except.ok.inj hr)
      obtain ⟨before, outcome, rfl⟩ := o.observe_accepts t' result hobserve haccepted
      exact ⟨⟨.acquire .orchestrator, true⟩ :: before, outcome, rfl⟩

end HealthHistoryOrchestrator

end Aurora.HealthHistory
