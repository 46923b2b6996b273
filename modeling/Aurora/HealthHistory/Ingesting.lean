/-
  What a call of the scheduler ingests.

  A call ingests once at most, under the sequence behind the resume state it has just read, and with
  the startup marker only while the marker is pending (`IngestsNext`); an ingest that returned clears
  the marker.
-/
import Aurora.HealthHistory.Phases
import Aurora.HealthHistory.ObservationOutcomes

namespace Aurora.HealthHistory

open Program

section Transcripts

variable {t : HistoryTranscript}

/-- The transcript ingests once at most: under the sequence behind the resume state it has read, and
    with the startup marker only while the marker is pending. -/
def IngestsNext (s : HealthHistoryScheduler) (t : HistoryTranscript) : Prop :=
  ∀ before p answer after, t = before ++ ⟨.ingest p, answer⟩ :: after →
    calls HistoryCall.isIngest before = 0 ∧ calls HistoryCall.isIngest after = 0 ∧
      (p.sampleKind = .startupGap → s.startupMarkerPending = true) ∧
        ∃ earlier resumed between,
          before = earlier ++ ⟨.getSchedulerResumeState, .ok resumed⟩ :: between ∧
            nextSequence resumed.1 = some p.observationSequence

/-- What is cut off ingests no more. -/
theorem IngestsNext.cut {s : HealthHistoryScheduler} {t' : HistoryTranscript}
    (h : IngestsNext s (t ++ t')) : IngestsNext s t := by
  intro before p answer after ht
  obtain ⟨hbefore, hafter, hmarker, hresumed⟩ := h before p answer (after ++ t') (by
    rw [ht, List.append_assoc, List.cons_append])
  rw [calls_append] at hafter
  exact ⟨hbefore, Nat.eq_zero_of_add_eq_zero_right hafter, hmarker, hresumed⟩

/-- A transcript without an ingest. -/
theorem IngestsNext.of_quiet {s : HealthHistoryScheduler}
    (h : calls HistoryCall.isIngest t = 0) : IngestsNext s t := by
  rintro before p answer after rfl
  have hkind := calls_eq_zero.mp h ⟨.ingest p, answer⟩ List.mem_append_cons_self
  cases hkind

end Transcripts

/-! ## Calls of a scheduler -/

namespace HealthHistoryScheduler

variable {iso : String → Option Datetime} {s s' : HealthHistoryScheduler} {t : HistoryTranscript}

theorem Finishes.marker (h : Finishes s t s') :
    s'.startupMarkerPending = s.startupMarkerPending := by
  cases h with
  | idle => rfl
  | raised => rfl
  | ran => rfl

/-- A stretch without ingests has no ingest. -/
theorem not_mem_of_calls (h : calls HistoryCall.isIngest t = 0) (p : HealthProjection)
    (answer : Except HistoryException IngestionOutcome) : ⟨.ingest p, answer⟩ ∉ t := by
  intro hmem
  have hkind := calls_eq_zero.mp h _ hmem
  cases hkind

/-- The observation of a projection ingests that projection. -/
theorem ingests_of_observation {o : HealthHistoryOrchestrator} {p q : HealthProjection}
    {r : Except HistoryException (ObservationCycleResult × HealthHistoryOrchestrator)}
    {answer : Except HistoryException IngestionOutcome}
    (h : Runs (o.processObservation p) t r) (hmem : ⟨.ingest q, answer⟩ ∈ t) : q = p := by
  have hcall := (o.processObservation_makes p).runs h _ hmem
  rcases hcall with hmaintenance | hingest
  · cases hmaintenance
  · cases hingest
    rfl

/-- What a sample that opens may ingest. -/
theorem Opens.ingests {cumulative : Int} {o : Opportunity} {report : HealthReport}
    {p : HealthProjection} (h : s.Opens cumulative o)
    (hproject : projectHealthReport iso report o.observationSequence
      (.aware (some o.recordedAt)) o.sampleKind o.reportedMissed = .ok p) :
    s.nextSequence = some p.observationSequence ∧
      (p.sampleKind = .startupGap → s.startupMarkerPending = true) := by
  obtain ⟨hsequence, hkind, -⟩ := projectHealthReport_identity hproject
  rw [hsequence, hkind, h.kind]
  refine ⟨h.sequence, fun hgap => ?_⟩
  unfold HealthHistoryScheduler.sampleKind at hgap
  split at hgap
  · cases hgap
  · split at hgap
    · assumption
    · cases hgap

/-- What a sample ingests, and what that does to the marker. -/
theorem Samples.ingests {cumulative : Int} {result : SchedulerResult}
    (h : Samples iso s cumulative t result s') :
    (∀ p answer, ⟨.ingest p, answer⟩ ∈ t → s.nextSequence = some p.observationSequence ∧
      (p.sampleKind = .startupGap → s.startupMarkerPending = true)) ∧
    (s'.startupMarkerPending = true → s.startupMarkerPending = true) ∧
    ∀ p outcome, ⟨.ingest p, .ok outcome⟩ ∈ t → s'.startupMarkerPending = false := by
  have hnone {t : HistoryTranscript} (h : calls HistoryCall.isIngest t = 0) :
      (∀ p answer, ⟨.ingest p, answer⟩ ∈ t → s.nextSequence = some p.observationSequence ∧
        (p.sampleKind = .startupGap → s.startupMarkerPending = true)) ∧
      ∀ p outcome, ⟨.ingest p, .ok outcome⟩ ∈ t → s'.startupMarkerPending = false :=
    ⟨fun p answer hmem => absurd hmem (not_mem_of_calls h p answer),
      fun p outcome hmem => absurd hmem (not_mem_of_calls h p (.ok outcome))⟩
  -- only the last two opportunities reach the ingest
  cases h with
  | exhausted =>
    obtain ⟨hingests, haccepts⟩ := hnone (t := []) rfl
    exact ⟨hingests, id, haccepts⟩
  | invalidClock =>
    obtain ⟨hingests, haccepts⟩ := hnone (t := [⟨.utcNow, _⟩]) rfl
    exact ⟨hingests, id, haccepts⟩
  | @failed _ now supplied t₁ _ _ _ hfinish =>
    have hcalls : calls HistoryCall.isIngest
        ([⟨.utcNow, now⟩, ⟨.healthReport, supplied⟩] ++ t₁) = 0 := by
      rw [calls_append, hfinish.bound.2.2.2]
      rfl
    obtain ⟨hingests, haccepts⟩ := hnone hcalls
    refine ⟨hingests, fun hpending => ?_, haccepts⟩
    rw [hfinish.marker] at hpending
    exact hpending
  | unaccepted hopens hproject hruns hobserved _ =>
    refine ⟨fun p answer hmem => ?_, id, fun p outcome hmem => ?_⟩
    · rcases List.mem_append.mp hmem with hbefore | hmem
      · exact absurd hbefore (not_mem_of_calls rfl p answer)
      · obtain rfl := ingests_of_observation hruns hmem
        exact hopens.ingests hproject
    · -- an ingest that returned would have been accepted
      exfalso
      rcases List.mem_append.mp hmem with hbefore | hmem
      · exact not_mem_of_calls rfl p _ hbefore
      · obtain ⟨observation, o', hobservation, haccepted⟩ :=
          HealthHistoryOrchestrator.processObservation_acceptsItsIngest hruns hmem
        rcases hobserved with ⟨e, hraised, -⟩ | ⟨observation', hreturned, hunaccepted⟩
        · rw [hobservation] at hraised
          cases hraised
        · rw [hobservation] at hreturned
          cases hreturned
          exact hunaccepted haccepted
  | @accepted _ _ _ _ _ _ t₂ _ _ s₁ _ hopens hproject hruns _ hrecords hfinish _ _ =>
    obtain ⟨hmarker, hcalls⟩ : s'.startupMarkerPending = false ∧
        calls HistoryCall.isIngest t₂ = 0 := by
      rcases hfinish with ⟨-, rfl, rfl⟩ | ⟨-, hfinish⟩
      · exact ⟨hrecords.marker, rfl⟩
      · exact ⟨hfinish.marker.trans hrecords.marker, hfinish.bound.2.2.2⟩
    refine ⟨fun p answer hmem => ?_, fun hpending => ?_, fun _ _ _ => hmarker⟩
    · rcases List.mem_append.mp hmem with hmem | hbehind
      · rcases List.mem_append.mp hmem with hbefore | hmem
        · exact absurd hbefore (not_mem_of_calls rfl p answer)
        · obtain rfl := ingests_of_observation hruns hmem
          exact hopens.ingests hproject
      · exact absurd hbehind (not_mem_of_calls hcalls p answer)
    · rw [hmarker] at hpending
      cases hpending

/-- What an opportunity ingests, and what that does to the marker. -/
theorem DueRun.ingests {result : SchedulerResult} (h : DueRun iso s t result s') :
    IngestsNext s t ∧ (s'.startupMarkerPending = true → s.startupMarkerPending = true) ∧
      ∀ p outcome, ⟨.ingest p, .ok outcome⟩ ∈ t → s'.startupMarkerPending = false := by
  have hnone {t : HistoryTranscript} (h : calls HistoryCall.isIngest t = 0) : IngestsNext s t ∧
      ∀ p outcome, ⟨.ingest p, .ok outcome⟩ ∈ t → s'.startupMarkerPending = false :=
    ⟨.of_quiet h, fun p outcome hmem => absurd hmem (not_mem_of_calls h p (.ok outcome))⟩
  cases h with
  | reentrant =>
    obtain ⟨hingests, haccepts⟩ := hnone (t := [⟨.acquire .scheduler, false⟩]) rfl
    exact ⟨hingests, id, haccepts⟩
  | exhausted =>
    obtain ⟨hingests, haccepts⟩ := hnone (t := [⟨.acquire .scheduler, true⟩]) rfl
    exact ⟨hingests, id, haccepts⟩
  | invalidClock _ answer =>
    obtain ⟨hingests, haccepts⟩ :=
      hnone (t := [⟨.acquire .scheduler, true⟩, ⟨.monotonic .scheduler, answer⟩]) rfl
    exact ⟨hingests, id, haccepts⟩
  | @notDue _ now _ _ _ _ _ hchecks =>
    obtain ⟨cadence, rfl, -⟩ := hchecks.state
    obtain ⟨hingests, haccepts⟩ :=
      hnone (t := [⟨.acquire .scheduler, true⟩, ⟨.monotonic .scheduler, some now⟩]) rfl
    exact ⟨hingests, id, haccepts⟩
  | @refreshFailed _ now _ _ t₁ hconsumes hcalls =>
    obtain ⟨cadence, rfl, -⟩ := hconsumes.state
    have hquiet : calls HistoryCall.isIngest
        ([⟨.acquire .scheduler, true⟩, ⟨.monotonic .scheduler, some now⟩] ++ t₁) = 0 := by
      have ht₁ : calls HistoryCall.isIngest t₁ = 0 := calls_eq_zero.mpr fun x hx => by
        rcases hcalls x hx with hx | hx <;> rw [hx] <;> rfl
      rw [calls_append, ht₁]
      rfl
    obtain ⟨hingests, haccepts⟩ := hnone hquiet
    exact ⟨hingests, id, haccepts⟩
  | @sampled _ now _ _ _ resumed t₁ hconsumes hsample =>
    obtain ⟨cadence, rfl, -⟩ := hconsumes.state
    obtain ⟨hingests, hmarker, haccepts⟩ := hsample.ingests
    have hbound := hsample.bound.ingests
    refine ⟨?_, hmarker, fun p outcome hmem => ?_⟩
    · intro before p answer after hsplit
      -- the ingest stands behind the three calls before the sample
      obtain ⟨between, rfl, rfl⟩ : ∃ between, before = [⟨.acquire .scheduler, true⟩,
          ⟨.monotonic .scheduler, some now⟩, ⟨.getSchedulerResumeState, .ok resumed⟩] ++ between ∧
            t₁ = between ++ ⟨.ingest p, answer⟩ :: after := by
        match before, hsplit with
        | [], hsplit => cases hsplit
        | [_], hsplit => cases hsplit
        | [_, _], hsplit => cases hsplit
        | _ :: _ :: _ :: between, hsplit =>
          cases hsplit
          exact ⟨between, rfl, rfl⟩
      have hone : calls HistoryCall.isIngest
          ((⟨.ingest p, answer⟩ : Exchange historyInterface) :: after) =
            calls HistoryCall.isIngest after + 1 := calls_cons _ _ _
      rw [calls_append, hone] at hbound
      obtain ⟨hnext, hkind⟩ := hingests p answer List.mem_append_cons_self
      refine ⟨?_, by omega, hkind, [⟨.acquire .scheduler, true⟩,
        ⟨.monotonic .scheduler, some now⟩], resumed, between, rfl, hnext⟩
      rw [calls_append]
      show 0 + calls HistoryCall.isIngest between = 0
      omega
    · rcases List.mem_append.mp hmem with hbefore | hmem
      · exact absurd hbefore (not_mem_of_calls rfl p _)
      · exact haccepts p outcome hmem

end HealthHistoryScheduler

end Aurora.HealthHistory
