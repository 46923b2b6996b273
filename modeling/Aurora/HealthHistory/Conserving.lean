/-
  Missed intervals are conserved.

  A run of one scheduler is any sequence of its calls.  Every deadline that a due decision skips and
  every sample that fails is a miss; a miss is pending until an accepted observation carries it, and
  no miss is carried twice (`Tallied`).
-/
import Mathlib.Tactic.Ring
import Aurora.Lib.Checks
import Aurora.HealthHistory.ObservationOutcomes
import Aurora.HealthHistory.Phases

namespace Aurora.HealthHistory

open Program

/-! ## Counting one call -/

/-- What the scheduler's clock answered, if it was asked. -/
def reading (t : HistoryTranscript) : Option ℚ :=
  t.findSome? fun x =>
    match x with
    | ⟨.monotonic .scheduler, answer⟩ => answer
    | _ => none

/-- The observations a transcript ingests. -/
def ingested (t : HistoryTranscript) : List HealthProjection :=
  t.filterMap fun x =>
    match x.1 with
    | .ingest projection => some projection
    | _ => none

/-- The sample of a result was accepted. -/
def SchedulerResult.accepted (r : SchedulerResult) : Bool :=
  r.samplingOutcome.any fun outcome => outcome ∈ acceptedSamplingOutcomes

/-- The sample of a result failed. -/
def SchedulerResult.failed (r : SchedulerResult) : Bool :=
  r.samplingOutcome.any fun outcome => outcome ∉ acceptedSamplingOutcomes

/-- What the misses of a run add up to. -/
structure Tally where
  /-- Opportunities consumed by due decisions. -/
  consumed : Int := 0
  /-- Deadlines that due decisions skipped. -/
  skipped : Int := 0
  /-- Consumed opportunities whose sample failed. -/
  failed : Int := 0
  /-- Misses carried by accepted observations. -/
  carried : Int := 0
deriving DecidableEq

namespace HealthHistoryScheduler

/-- The due decision a call makes at the reading of its transcript. -/
def dueDecision (s : HealthHistoryScheduler) (t : HistoryTranscript) :
    Option SchedulerDueDecision :=
  match reading t with
  | none => none
  | some now =>
    match s.cadenceState.decision now s.sampleIntervalSeconds with
    | .ok d => if d.due then some d else none
    | .error _ => none

/-- The deadlines between the planned one and the reading. -/
def skippedDeadlines (s : HealthHistoryScheduler) (d : SchedulerDueDecision) : Int :=
  s.cadenceState.elapsedIntervals d.checkedMonotonic s.sampleIntervalSeconds

/-- The tally after a call of `runDueOpportunity`. -/
def tally (s : HealthHistoryScheduler) (t : HistoryTranscript) (r : SchedulerResult) (n : Tally) :
    Tally where
  consumed := n.consumed + if (s.dueDecision t).isSome then 1 else 0
  skipped := n.skipped + ((s.dueDecision t).map s.skippedDeadlines).getD 0
  failed := n.failed + if r.failed then 1 else 0
  carried := n.carried +
    if r.accepted then ((ingested t).map HealthProjection.missedIntervals).sum else 0

/-- No count of the call reaches the bound of the counters. -/
structure BelowCap (s : HealthHistoryScheduler) (t : HistoryTranscript)
    (s' : HealthHistoryScheduler) : Prop where
  decided : ∀ d ∈ s.dueDecision t, d.missedIntervals < maxBoundedCounter
  cumulative : ∀ d ∈ s.dueDecision t, s.cumulativeMissed d < maxBoundedCounter
  pending : s'.cadenceState.pendingMissedIntervals < maxBoundedCounter

instance (s : HealthHistoryScheduler) (t : HistoryTranscript) (s' : HealthHistoryScheduler) :
    Decidable (s.BelowCap t s') :=
  decidable_of_iff ((∀ d ∈ s.dueDecision t, d.missedIntervals < maxBoundedCounter) ∧
      (∀ d ∈ s.dueDecision t, s.cumulativeMissed d < maxBoundedCounter) ∧
      s'.cadenceState.pendingMissedIntervals < maxBoundedCounter)
    ⟨fun h => ⟨h.1, h.2.1, h.2.2⟩, fun h => ⟨h.decided, h.cumulative, h.pending⟩⟩

/-- Runs of one scheduler from a state, with their tally. -/
inductive Tallied (iso : String → Option Datetime) (s : HealthHistoryScheduler) :
    HealthHistoryScheduler → Tally → Prop
  | start : Tallied iso s s {}
  | isDue {m s' : HealthHistoryScheduler} {n : Tally} {t : HistoryTranscript}
      {decided : Except SchedulerRejection SchedulerDueDecision} (run : Tallied iso s m n)
      (h : Runs m.isDue t (.ok (decided, s'))) : Tallied iso s s' n
  | runDue {m s' : HealthHistoryScheduler} {n : Tally} {t : HistoryTranscript}
      {result : SchedulerResult} (run : Tallied iso s m n)
      (h : Runs (m.runDueOpportunity iso) t (.ok (.ok result, s'))) (hcap : m.BelowCap t s') :
      Tallied iso s s' (m.tally t result n)

end HealthHistoryScheduler

/-! ## What each part adds -/

theorem capped_eq_of_lt {n : Int} (h : capped n < maxBoundedCounter) : capped n = n := by
  unfold capped at *
  omega

@[simp] theorem ingested_append (t t' : HistoryTranscript) :
    ingested (t ++ t') = ingested t ++ ingested t' := List.filterMap_append

/-- Without an ingest nothing is ingested. -/
theorem ingested_eq_nil {t : HistoryTranscript} (h : calls HistoryCall.isIngest t = 0) :
    ingested t = [] := by
  refine List.filterMap_eq_nil_iff.mpr fun x hx => ?_
  have hkind := calls_eq_zero.mp h x hx
  obtain ⟨c, answer⟩ := x
  cases c <;> first | rfl | cases hkind

/-- What the tally reads off a failed opportunity. -/
theorem SchedulerResult.Failed.flags {r : SchedulerResult} (h : r.Failed) :
    r.failed = true ∧ r.accepted = false := by
  obtain ⟨outcome, hmem, houtcome⟩ := h
  unfold SchedulerResult.failed SchedulerResult.accepted
  rw [houtcome]
  exact ⟨decide_eq_true hmem, decide_eq_false hmem⟩

/-- What the tally reads off an accepted one. -/
theorem SchedulerResult.Accepted.flags {r : SchedulerResult} (h : r.Accepted) :
    r.failed = false ∧ r.accepted = true := by
  obtain ⟨outcome, hmem, houtcome⟩ := h
  unfold SchedulerResult.failed SchedulerResult.accepted
  rw [houtcome]
  exact ⟨decide_eq_false (not_not.mpr hmem), decide_eq_true hmem⟩

/-- What it reads off an opportunity without a sample. -/
theorem SchedulerResult.flags_of_none {r : SchedulerResult} (h : r.samplingOutcome = none) :
    r.failed = false ∧ r.accepted = false := by
  unfold SchedulerResult.failed SchedulerResult.accepted
  rw [h]
  exact ⟨rfl, rfl⟩

namespace HealthHistoryScheduler

variable {iso : String → Option Datetime} {s s' : HealthHistoryScheduler} {t : HistoryTranscript}

/-- Maintenance leaves the cadence alone. -/
theorem Finishes.cadence (h : Finishes s t s') :
    s'.cadenceState = s.cadenceState ∧ s'.sampleIntervalSeconds = s.sampleIntervalSeconds := by
  cases h with
  | idle => exact ⟨rfl, rfl⟩
  | raised => exact ⟨rfl, rfl⟩
  | ran => exact ⟨rfl, rfl⟩

/-- The transcript of an accepted observation ingests it and nothing else. -/
theorem ingested_of_accepts {o o' : HealthHistoryOrchestrator} {p : HealthProjection}
    {observation : ObservationCycleResult}
    (h : Runs (o.processObservation p) t (.ok (observation, o')))
    (haccepted : observation.outcome ∈ acceptedObservationOutcomes) : ingested t = [p] := by
  have hsafe := (HealthHistoryOrchestrator.processObservation_safe h).1
  obtain ⟨before, outcome, rfl⟩ := HealthHistoryOrchestrator.processObservation_accepts h haccepted
  have hle := hsafe.ingest_le
  rw [calls_append] at hle
  have hbefore : calls HistoryCall.isIngest before = 0 := by
    have hlast : calls HistoryCall.isIngest [⟨.ingest p, .ok outcome⟩] = 1 := rfl
    omega
  rw [ingested_append, ingested_eq_nil hbefore]
  rfl

/-- How a sample changes the pending misses. -/
structure Balanced (s : HealthHistoryScheduler) (t : HistoryTranscript) (result : SchedulerResult)
    (s' : HealthHistoryScheduler) : Prop where
  interval : s'.sampleIntervalSeconds = s.sampleIntervalSeconds
  planned : s'.cadenceState.plannedDueMonotonic = s.cadenceState.plannedDueMonotonic
  pending : s'.cadenceState.pendingMissedIntervals < maxBoundedCounter →
    s.cadenceState.pendingMissedIntervals + (if result.failed then 1 else 0) =
      (if result.accepted then ((ingested t).map HealthProjection.missedIntervals).sum else 0) +
        s'.cadenceState.pendingMissedIntervals

/-- One more failure is one more pending miss. -/
theorem balanced_of_failed {result : SchedulerResult} (hresult : result.Failed)
    (hcadence : s'.cadenceState = s.cadenceState.missed)
    (hinterval : s'.sampleIntervalSeconds = s.sampleIntervalSeconds) :
    Balanced s t result s' where
  interval := hinterval
  planned := by rw [hcadence]; rfl
  pending := by
    intro hcap
    rw [hcadence] at hcap ⊢
    obtain ⟨hfailed, haccepted⟩ := hresult.flags
    rw [hfailed, haccepted]
    have huncapped := capped_eq_of_lt hcap
    simp only [SchedulerCadenceState.missed, if_true, huncapped]
    simp

/-- An opportunity that samples reports all that is pending. -/
theorem Samples.balanced {cumulative : Int} {result : SchedulerResult}
    (h : Samples iso s cumulative t result s')
    (hcumulative : s.cadenceState.pendingMissedIntervals = cumulative) :
    Balanced s t result s' := by
  cases h with
  | exhausted _ hresult =>
    obtain ⟨hfailed, haccepted⟩ := SchedulerResult.flags_of_none hresult
    exact ⟨rfl, rfl, fun _ => by rw [hfailed, haccepted]; simp⟩
  | invalidClock _ hresult => exact balanced_of_failed hresult rfl rfl
  | failed _ hresult hfinish =>
    exact balanced_of_failed hresult hfinish.cadence.1 hfinish.cadence.2
  | unaccepted _ _ _ _ hresult => exact balanced_of_failed hresult rfl rfl
  | @accepted _ now report o p t₁ t₂ observation orchestrator s₁ _ hopens hproject hruns haccepted
      hrecords hfinish hresult hmissed =>
    obtain ⟨hcadence, hinterval, hnone⟩ : s'.cadenceState = s₁.cadenceState ∧
        s'.sampleIntervalSeconds = s₁.sampleIntervalSeconds ∧ ingested t₂ = [] := by
      rcases hfinish with ⟨-, rfl, rfl⟩ | ⟨-, hfinish⟩
      · exact ⟨rfl, rfl, rfl⟩
      · exact ⟨hfinish.cadence.1, hfinish.cadence.2, ingested_eq_nil hfinish.bound.2.2.2⟩
    rw [hrecords.cadence] at hcadence
    refine ⟨hinterval.trans hrecords.interval, by rw [hcadence]; rfl, fun _ => ?_⟩
    obtain ⟨hfailed, hflag⟩ := hresult.flags
    obtain ⟨-, hkind, hcarried⟩ := projectHealthReport_identity hproject
    have hingested : ingested ([⟨.utcNow, now⟩, ⟨.healthReport, some (some report)⟩] ++ t₁ ++ t₂) =
        [p] := by
      rw [ingested_append, ingested_append, ingested_of_accepts hruns haccepted, hnone]
      rfl
    rw [hfailed, hflag, hingested, hcadence]
    simp only [List.map_cons, List.map_nil, List.sum_cons, List.sum_nil, if_true,
      SchedulerCadenceState.reported, hcarried, hopens.missed, reportedMissed, hkind]
    -- a marker keeps the misses pending, any other observation carries them all
    by_cases hmarker : o.sampleKind = .clockDiscontinuity
    · simp [hmarker]
    · simp [hmarker, hcumulative]

/-! ## Conservation -/

/-- The decision of a call that reads this. -/
theorem dueDecision_of_reading {now : ℚ} {d : SchedulerDueDecision} (hreading : reading t = some now)
    (hd : s.cadenceState.decision now s.sampleIntervalSeconds = .ok d) :
    s.dueDecision t = if d.due then some d else none := by
  unfold dueDecision
  rw [hreading]
  dsimp only
  rw [hd]

/-- The reading of a due opportunity is its first. -/
theorem reading_cons (now : ℚ) (t : HistoryTranscript) :
    reading (⟨.acquire .scheduler, true⟩ :: ⟨.monotonic .scheduler, some now⟩ :: t) = some now :=
  rfl

/-- Where every miss is, after some calls. -/
structure Conserved (s s' : HealthHistoryScheduler) (n : Tally) : Prop where
  interval : s'.sampleIntervalSeconds = s.sampleIntervalSeconds
  grid : s'.cadenceState.plannedDueMonotonic =
    s.cadenceState.plannedDueMonotonic + (n.consumed + n.skipped) * s.sampleIntervalSeconds
  misses : s.cadenceState.pendingMissedIntervals + n.skipped + n.failed =
    n.carried + s'.cadenceState.pendingMissedIntervals

variable {m : HealthHistoryScheduler} {n : Tally}

/-- Nothing is missing before the first opportunity. -/
theorem Conserved.start (s : HealthHistoryScheduler) : Conserved s s {} where
  interval := rfl
  grid := by simp
  misses := by simp

/-- A call that consumes nothing keeps the tally and the balance. -/
theorem Conserved.idle {result : SchedulerResult} (h : Conserved s m n)
    (hnone : m.dueDecision t = none) (hresult : result.samplingOutcome = none)
    (hinterval : s'.sampleIntervalSeconds = m.sampleIntervalSeconds)
    (hplanned : s'.cadenceState.plannedDueMonotonic = m.cadenceState.plannedDueMonotonic)
    (hpending : s'.cadenceState.pendingMissedIntervals = m.cadenceState.pendingMissedIntervals) :
    Conserved s s' (m.tally t result n) := by
  obtain ⟨hfailed, haccepted⟩ := SchedulerResult.flags_of_none hresult
  have hsame : m.tally t result n = n := by
    unfold tally
    rw [hnone, hfailed, haccepted]
    simp
  rw [hsame]
  exact ⟨hinterval.trans h.interval, hplanned.trans h.grid, by rw [hpending]; exact h.misses⟩

/-- A call that consumes a deadline moves the grid past it and the deadlines it skips, and what it
    adds to the misses stays pending or is carried. -/
theorem Conserved.consume {result : SchedulerResult} {now : ℚ} {d : SchedulerDueDecision}
    {s₁ s₂ : HealthHistoryScheduler} (h : Conserved s m n) (hreading : reading t = some now)
    (hconsumes : m.Consumes now d s₁) (hcap : m.BelowCap t s')
    (hsame : s₂.cadenceState = s₁.cadenceState ∧
      s₂.sampleIntervalSeconds = s₁.sampleIntervalSeconds)
    (hbalanced : Balanced s₂ t result s') : Conserved s s' (m.tally t result n) := by
  have hdue : m.dueDecision t = some d := by
    rw [dueDecision_of_reading hreading hconsumes.decision, if_pos hconsumes.due]
  obtain ⟨cadence, rfl, hplanned, hpending⟩ := hconsumes.state
  obtain ⟨-, hchecked, ⟨-, hidle, -⟩ | ⟨-, -, hmissed, hnext, -⟩⟩ :=
    SchedulerCadenceState.decision_cases hconsumes.decision
  · rw [hconsumes.due] at hidle
    cases hidle
  have hskipped : m.skippedDeadlines d = d.missedIntervals := by
    have hlt := hcap.decided d hdue
    rw [hmissed] at hlt ⊢
    rw [capped_eq_of_lt hlt, skippedDeadlines, hchecked]
  have htally : m.tally t result n = {
      consumed := n.consumed + 1
      skipped := n.skipped + d.missedIntervals
      failed := n.failed + if result.failed then 1 else 0
      carried := n.carried +
        if result.accepted then ((ingested t).map HealthProjection.missedIntervals).sum else 0 } := by
    unfold tally
    rw [hdue]
    simp [hskipped]
  have hcumulative : m.cumulativeMissed d =
      m.cadenceState.pendingMissedIntervals + d.missedIntervals :=
    capped_eq_of_lt (hcap.cumulative d hdue)
  have hbalance := hbalanced.pending hcap.pending
  have hmisses := h.misses
  rw [hsame.1] at hbalance
  rw [htally]
  refine ⟨hbalanced.interval.trans (hsame.2.trans h.interval), ?_, ?_⟩
  · have helapsed : (m.cadenceState.elapsedIntervals now m.sampleIntervalSeconds : ℚ) =
        d.missedIntervals := by
      rw [← hskipped, skippedDeadlines, hchecked]
    rw [hbalanced.planned, hsame.1, hplanned, hnext, helapsed, h.grid, h.interval]
    push_cast
    ring
  · dsimp only at hbalance ⊢
    rw [hpending, hcumulative] at hbalance
    omega

theorem Conserved.runDue {result : SchedulerResult} (h : Conserved s m n)
    (hrun : DueRun iso m t result s') (hcap : m.BelowCap t s') :
    Conserved s s' (m.tally t result n) := by
  cases hrun with
  | reentrant hresult => exact h.idle rfl hresult rfl rfl rfl
  | exhausted hresult => exact h.idle rfl hresult rfl rfl rfl
  | invalidClock hresult answer hinvalid =>
    refine h.idle ?_ hresult rfl rfl rfl
    cases answer with
    | none => rfl
    | some now =>
      unfold dueDecision
      rw [reading_cons]
      dsimp only
      split
      · exact absurd ‹_› (hinvalid now rfl _)
      · rfl
  | notDue hresult hdecision hidle hchecks =>
    obtain ⟨cadence, rfl, hplanned, hpending⟩ := hchecks.state
    refine h.idle ?_ hresult rfl hplanned hpending
    rw [dueDecision_of_reading (reading_cons _ _) hdecision, hidle]
    rfl
  | refreshFailed hconsumes hcalls hresult =>
    exact h.consume (reading_cons _ _) hconsumes hcap ⟨rfl, rfl⟩ (balanced_of_failed hresult rfl rfl)
  | @sampled _ now d s₁ _ resumed t₁ hconsumes hsample =>
    have hpending : (s₁.refreshed resumed).cadenceState.pendingMissedIntervals =
        m.cumulativeMissed d := by
      obtain ⟨cadence, rfl, -, hpending⟩ := hconsumes.state
      exact hpending
    have hbalanced := hsample.balanced hpending
    have hwhole : Balanced (s₁.refreshed resumed) ([⟨.acquire .scheduler, true⟩,
        ⟨.monotonic .scheduler, some now⟩, ⟨.getSchedulerResumeState, .ok resumed⟩] ++ t₁)
        result s' :=
      ⟨hbalanced.interval, hbalanced.planned, fun hlt => hbalanced.pending hlt⟩
    have hsame : (s₁.refreshed resumed).cadenceState = s₁.cadenceState ∧
        (s₁.refreshed resumed).sampleIntervalSeconds = s₁.sampleIntervalSeconds := ⟨rfl, rfl⟩
    exact h.consume (reading_cons _ _) hconsumes hcap hsame hwhole

/-- A check that consumes nothing keeps the account. -/
theorem Conserved.isDue (h : Conserved s m n) {decided}
    (hrun : Runs m.isDue t (.ok (decided, s'))) : Conserved s s' n := by
  obtain ⟨_, _, hr, hs', -⟩ := isDue_runs hrun
  obtain ⟨rfl, rfl⟩ := Prod.mk.inj (Except.ok.inj hr)
  rcases hs' with rfl | ⟨cadence, rfl, hplanned, hpending⟩
  · exact h
  · exact ⟨h.interval, hplanned.trans h.grid, by rw [show _ = _ from hpending]; exact h.misses⟩

theorem Tallied.conserved (h : Tallied iso s s' n) : Conserved s s' n := by
  induction h with
  | start => exact .start s
  | isDue _ hrun ih => exact ih.isDue hrun
  | runDue _ hrun hcap ih =>
    obtain ⟨_, _, hr, hdue⟩ := runDueOpportunity_runs hrun
    obtain ⟨hended, rfl⟩ := Prod.mk.inj (Except.ok.inj hr)
    obtain rfl := Except.ok.inj hended
    exact ih.runDue hdue hcap

/-- A new scheduler has nothing pending. -/
theorem new_pending {orchestrator : HealthHistoryOrchestrator} {sampleInterval refresh : Int}
    (h : Runs (new orchestrator sampleInterval refresh) t (.ok s)) :
    s.cadenceState.pendingMissedIntervals = 0 := by
  unfold new at h
  split at h
  case isFalse =>
    obtain ⟨-, hr⟩ := runs_raise.mp h
    cases hr
  obtain ⟨resumed, t₁, t₂, rfl, -, h₂⟩ := runs_bind_ok.mp h
  obtain ⟨started, t₃, t₄, rfl, -, h₄⟩ := runs_bind_ok.mp h₂
  split at h₄
  · obtain ⟨-, hr⟩ := runs_pure.mp h₄
    obtain rfl := Except.ok.inj hr
    rfl
  · obtain ⟨-, hr⟩ := runs_raise.mp h₄
    cases hr

/-- **Missed intervals are conserved.**  From the construction of a scheduler on, whatever calls are
    made and whatever is answered, the deadlines that due decisions skipped and the samples that
    failed are the misses carried by accepted observations and those still pending; and the planned
    deadline stands on the grid behind every deadline consumed or skipped. -/
theorem missed_conserved {orchestrator : HealthHistoryOrchestrator} {sampleInterval refresh : Int}
    (hnew : Runs (new orchestrator sampleInterval refresh) t (.ok s))
    (hrun : Tallied iso s s' n) :
    n.skipped + n.failed = n.carried + s'.cadenceState.pendingMissedIntervals ∧
      s'.cadenceState.plannedDueMonotonic =
        s.cadenceState.plannedDueMonotonic + (n.consumed + n.skipped) * s.sampleIntervalSeconds := by
  have hconserved := hrun.conserved
  have hmisses := hconserved.misses
  rw [new_pending hnew, Int.zero_add] at hmisses
  exact ⟨hmisses, hconserved.grid⟩

/-- A call a minute late whose collection fails: two deadlines are skipped, and the three misses are
    pending. -/
theorem missed_conserved_late : ∃ t s s' n,
    Runs (new ⟨30, .initial, by decide⟩ 30 5) t (.ok s) ∧ Tallied (fun _ => none) s s' n ∧
      s'.cadenceState.pendingMissedIntervals = 3 ∧ n.skipped + n.failed = n.carried + 3 := by
  have hplayed : (((new ⟨30, .initial, by decide⟩ 30 5).play (brokenCollector 0) ()).1.toOption.any
      fun s => (((s.runDueOpportunity fun _ => none).play (brokenCollector 60) ()).1.toOption.any
        fun ended => ended.1.toOption.any fun _ =>
          decide (ended.2.cadenceState.pendingMissedIntervals = 3 ∧
            s.BelowCap ((s.runDueOpportunity fun _ => none).trace (brokenCollector 60) ())
              ended.2))) = true := by decide +kernel
  have hnew := runs_trace (brokenCollector 0) (new ⟨30, .initial, by decide⟩ 30 5) ()
  obtain ⟨s, hs, hplayed⟩ := (Option.any_eq_true ..).mp hplayed
  rw [toOption_eq_some.mp hs] at hnew
  have hdue := runs_trace (brokenCollector 60) (s.runDueOpportunity fun _ => none) ()
  obtain ⟨⟨result, s'⟩, hs', hplayed⟩ := (Option.any_eq_true ..).mp hplayed
  obtain ⟨r, hresult, hplayed⟩ := (Option.any_eq_true ..).mp hplayed
  obtain rfl := toOption_eq_some.mp hresult
  rw [toOption_eq_some.mp hs'] at hdue
  obtain ⟨hpending, hcap⟩ := of_decide_eq_true hplayed
  have hrun : Tallied (fun _ => none) s s' _ := Tallied.start.runDue hdue hcap
  have hconserved := (missed_conserved hnew hrun).1
  rw [hpending] at hconserved
  exact ⟨_, _, _, _, hnew, hrun, hpending, hconserved⟩

end HealthHistoryScheduler

end Aurora.HealthHistory
