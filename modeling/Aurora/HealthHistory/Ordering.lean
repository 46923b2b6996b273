/-
  The times of an alert stay in order, unless the clock is stepped back before a recovery.

  An ingest writes its own time into every alert it opens, updates, recovers or archives.  Opening,
  updating and archiving keep the order of an alert's times whatever the clock says.  A recovery does
  so only if it is not earlier than the opening.  `RecoversInOrder` is that condition, read off the
  state and the observation before the ingest, and under it every alert keeps its order.
-/
import Aurora.HealthHistory.Runs

namespace Aurora.HealthHistory

open Ingestion Maintenance Queries Script

/-! ## Recoveries -/

/-- The observation confirms the recovery of the scope: it is the second healthy one of a health
    scope in a row, or the second on time of an active sampling gap. -/
def Recovers (db : Database) (p : HealthProjection) (s : AlertScope) : Prop :=
  ∃ row, db.evaluation s = some row ∧
    if s = .sampling then
      row.gapPhase = .recoveryOne ∧ p.missedIntervals ≤ 0 ∧ p.sampleKind ≠ .startupGap ∧
        p.sampleKind ≠ .clockDiscontinuity
    else
      row.candidateStatus = some .healthy ∧
        ∃ component, observedComponent p s = .ok component ∧ observedStatus p component = .healthy

/-- No alert is recovered at a time before its opening. -/
def RecoversInOrder (db : Database) (p : HealthProjection) : Prop :=
  ∀ r ∈ db.alerts.rows, r.lifecycle.Active → Recovers db p r.scope →
    r.openedAtUtcUs ≤ p.recordedAtUtcUs

/-- A recovery is confirmed by the second healthy observation. -/
theorem evaluateHealthy_recovery {state : HealthEvaluationState} {active : Bool}
    (h : (evaluateHealthy state active).event = .recoveryConfirmed) :
    state.candidateStatus = some .healthy := by
  by_contra hcandidate
  have hone : state.nextCount .healthy = 1 := if_neg hcandidate
  unfold evaluateHealthy at h
  split at h
  · cases h
  split at h
  · rename_i hcount
    rw [hone] at hcount
    exact absurd hcount (by decide)
  · cases h

theorem evaluateHealthState_candidate {state : HealthEvaluationState}
    {observation : HealthEvaluationInput}
    (h : (evaluateHealthState state observation).event = .recoveryConfirmed) :
    state.candidateStatus = some .healthy := by
  unfold evaluateHealthState at h
  split at h
  · cases h
  split at h
  · cases h
  split at h
  · exact evaluateHealthy_recovery h
  · exact absurd h (evaluateUnhealthy_event _ _)

theorem applyMisses_event {previous committed : SamplingGapState} {missed : Int} (h : 0 ≤ missed) :
    (applyMisses previous committed missed h).event ≠ .recovered := by
  unfold applyMisses
  dsimp only
  split
  · dsimp only
    split <;> decide
  · split
    · exact nofun
    · split <;> exact nofun

/-- A gap recovers on an observation without misses and markers, one after another such. -/
theorem evaluateSamplingGap_recovered {state : SamplingGapState}
    {observation : SamplingGapObservation}
    (h : (evaluateSamplingGap state observation).event = .recovered) :
    state.phase = .recoveryOne ∧ observation.missedIntervals ≤ 0 ∧
      observation.clockDiscontinuityMarker = false ∧
      ¬(observation.startupGapMarker = true ∧ observation.missedIntervals = 0) := by
  unfold evaluateSamplingGap at h
  split at h
  · cases h
  split at h
  · cases h
  dsimp only at h
  split at h
  · split at h <;> cases h
  split at h
  · cases h
  split at h
  · exact absurd h (applyMisses_event _)
  split at h
  · cases h
  rename_i hclock hstartup hmissed _
  cases hphase : state.phase <;> rw [hphase] at h
  · cases h
  · cases h
  · cases h
  · exact ⟨rfl, by omega, by simpa using hclock, hstartup⟩

theorem newGapState_phase {phase : SamplingGapPhase} {count largest : Int} {last : Option Int}
    {state : SamplingGapState} (h : SamplingGapState.new? phase count largest last = .ok state) :
    state.phase = phase := by
  unfold SamplingGapState.new? at h
  split at h <;> try cases h
  split at h <;> try cases h
  split at h <;> cases h
  rfl

theorem newGapObservation_fields {sequence missed : Int} {collected persisted startup clock : Bool}
    {o : SamplingGapObservation}
    (h : SamplingGapObservation.new? sequence missed collected persisted startup clock = .ok o) :
    o.missedIntervals = missed ∧ o.startupGapMarker = startup ∧
      o.clockDiscontinuityMarker = clock := by
  unfold SamplingGapObservation.new? at h
  split at h <;> try cases h
  split at h <;> try cases h
  split at h <;> cases h
  exact ⟨rfl, rfl, rfl⟩

/-- What the evaluators ask to recover is what the observation recovers. -/
theorem Decided.recovers {db m : Database} {c : Checkpoint} {rows : EvaluationRows}
    {baseline : Option Int} {p : HealthProjection} {d : IngestionDecision}
    {transitions : AlertScope → HealthEvaluationTransition}
    (h : Decided db c rows baseline p d transitions m)
    (hcoherent : CoherentAt db.toTables c rows baseline) (hp : p.Checked) {q : AlertPair}
    (hq : requestOf transitions d.gap (gapObservationHasMiss p) q = .recovery) :
    Recovers db p q.1 := by
  refine ⟨rows q.1, hcoherent.evaluators.stored q.1, ?_⟩
  unfold requestOf at hq
  -- the sampling scope recovers through the gap, the others through their own evaluator
  by_cases hs : q.1 = .sampling
  · rw [if_pos hs] at hq
    rw [if_pos hs, hs]
    obtain ⟨state, observation, hstate, hobservation, hgap⟩ :=
      evaluateGap_ok hcoherent.anchored hcoherent.evaluators hp
    have hrecovered : d.gap.event = .recovered := by
      unfold gapRequest at hq
      split at hq
      · cases hq
      split at hq
      · cases hq
      split at hq
      · assumption
      · cases hq
    rw [← Except.ok.inj (hgap.symm.trans h.gap)] at hrecovered
    obtain ⟨hphase, hmissed, hclock, hstartup⟩ := evaluateSamplingGap_recovered hrecovered
    obtain ⟨hobserved, hmarkers, hmarkerc⟩ := newGapObservation_fields hobservation
    have hnonnegative := hp.missed.1
    refine ⟨newGapState_phase hstate ▸ hphase, hobserved ▸ hmissed, fun hkind => hstartup ⟨?_, ?_⟩, ?_⟩
    · rw [hmarkers]
      exact decide_eq_true hkind
    · rw [hobserved] at hmissed ⊢
      omega
    · rw [hmarkerc] at hclock
      exact of_decide_eq_false hclock
  · rw [if_neg hs] at hq
    rw [if_neg hs]
    have hevent : (transitions q.1).event = .recoveryConfirmed := by
      unfold healthRequest at hq
      cases hevent : (transitions q.1).event with
      | recoveryConfirmed => rfl
      | none =>
        rw [hevent] at hq
        cases hq
      | conditionConfirmed =>
        rw [hevent] at hq
        dsimp only at hq
        split at hq <;> cases hq
    obtain ⟨component, state, observation, hcomponent, hstate, hobservation, htransition⟩ :=
      h.evaluated q.1 hs
    rw [htransition] at hevent
    have hcandidate := evaluateHealthState_candidate hevent
    rw [(HealthEvaluationState.new?_eq_ok hstate).2.1] at hcandidate
    have hstatus := (evaluateHealthState_recovery hevent).1
    refine ⟨hcandidate, component, hcomponent, ?_⟩
    unfold HealthEvaluationInput.new? at hobservation
    split at hobservation
    · cases hobservation
    · rwa [← Except.ok.inj hobservation] at hstatus

/-! ## The times of an alert -/

/-- The times and the samples of an alert are in order; nobody has acknowledged it. -/
structure AlertRow.Ordered (r : AlertRow) : Prop where
  times : r.TimesOrdered
  samples : r.SamplesOrdered
  acknowledged : r.acknowledgedAtUtcUs = none

/-- An alert that is not archived has no time of archival. -/
theorem AlertRow.Check.archivedAt_none {r : AlertRow} (h : r.Check) (hl : r.lifecycle ≠ .archived) :
    r.archivedAtUtcUs = none := h.archivedLifecycle.resolve_left hl

section Rows

variable {r : AlertRow} {now : Int}

theorem AlertRow.Ordered.archived (h : r.Ordered) (hcheck : r.Check) (hdue : Eligible now r) :
    (Episode.archivedRow now r).Ordered where
  times := {
    cooldown := h.times.cooldown
    acknowledged := h.times.acknowledged
    recovered := h.times.recovered
    recoveredCooldown := h.times.recoveredCooldown
    archived := by
      intro t ht
      obtain rfl := Option.some.inj ht
      have hnone := hcheck.terminalRecovered.resolve_left (not_not.mpr (.inl hdue.1))
      obtain ⟨recovered, hrecovered⟩ := Option.ne_none_iff_exists'.mp hnone
      have hle := h.times.recoveredCooldown recovered hrecovered
      have hcooldown := hdue.2
      show max (r.recoveredAtUtcUs.getD 0) r.cooldownUntilUtcUs ≤ now
      rw [hrecovered, Option.getD_some]
      omega }
  samples := h.samples
  acknowledged := h.acknowledged

/-- Another occurrence keeps them in order. -/
theorem AlertRow.Ordered.occurred (h : r.Ordered) (hcheck : r.Check) (hl : r.lifecycle ≠ .archived)
    {sample : Option Int} (hsample : ∀ first ∈ r.firstSampleId, ∀ s ∈ sample, first ≤ s) :
    (Episode.occurredRow now sample r).Ordered where
  times := {
    cooldown := le_max_of_le_left h.times.cooldown
    acknowledged := h.times.acknowledged
    recovered := h.times.recovered
    recoveredCooldown := fun t ht => le_max_of_le_left (h.times.recoveredCooldown t ht)
    archived := by
      intro t ht
      have hnone := hcheck.archivedAt_none hl
      exact nomatch hnone.symm.trans ht }
  samples := by
    intro first hfirst latest hlatest
    cases sample with
    | none => exact h.samples first hfirst latest hlatest
    | some s =>
      obtain rfl := Option.some.inj hlatest
      exact hsample first hfirst _ rfl
  acknowledged := h.acknowledged

/-- A recovery keeps the order when it is not earlier than the opening. -/
theorem AlertRow.Ordered.recovered (h : r.Ordered) (hcheck : r.Check) (hl : r.lifecycle ≠ .archived)
    {sample : Int} (hsample : ∀ first ∈ r.firstSampleId, first ≤ sample)
    (hnow : Bounded maxTimestampUs now) (hopened : r.openedAtUtcUs ≤ now) :
    (Episode.recoveredRow now sample r).Ordered where
  times := {
    cooldown := le_max_of_le_left h.times.cooldown
    acknowledged := h.times.acknowledged
    recovered := by
      intro t ht
      obtain rfl := Option.some.inj ht
      show max r.openedAtUtcUs (r.acknowledgedAtUtcUs.getD 0) ≤ now
      rw [h.acknowledged]
      exact max_le hopened hnow.1
    recoveredCooldown := by
      intro t ht
      obtain rfl := Option.some.inj ht
      exact le_max_of_le_right (Lifecycle.le_deadline hnow)
    archived := by
      intro t ht
      have hnone := hcheck.archivedAt_none hl
      exact nomatch hnone.symm.trans ht }
  samples := by
    intro first hfirst latest hlatest
    obtain rfl := Option.some.inj hlatest
    exact hsample first hfirst
  acknowledged := h.acknowledged

theorem Episode.openedRow_ordered (q : AlertPair) (sample generation id : Int)
    (hnow : Bounded maxTimestampUs now) : (openedRow q now sample generation id).Ordered where
  times := {
    cooldown := Lifecycle.le_deadline hnow
    acknowledged := fun _ h => nomatch h
    recovered := fun _ h => nomatch h
    recoveredCooldown := fun _ h => nomatch h
    archived := fun _ h => nomatch h }
  samples := by
    intro first hfirst latest hlatest
    obtain rfl := Option.some.inj hfirst
    obtain rfl := Option.some.inj hlatest
    exact le_rfl
  acknowledged := rfl

end Rows

/-- An episode is in order, and unless it is archived its row is sound and older than the sample. -/
structure Episode.Follows (sample : Option Int) (e : Episode) : Prop where
  ordered : e.row.Ordered
  check : e.row.lifecycle ≠ .archived → e.row.Check
  older : e.row.lifecycle ≠ .archived → ∀ first ∈ e.row.firstSampleId, ∀ s ∈ sample, first ≤ s

/-- The automatic archival keeps the order. -/
theorem archiveDue_follows {now : Int} {sample : Option Int} {eps : List Episode}
    (h : ∀ e ∈ eps, e.Follows sample) : ∀ e ∈ archiveDue now eps, e.Follows sample := by
  intro e he
  obtain ⟨e₀, he₀, rfl⟩ := List.mem_map.mp he
  have hfollows := h e₀ he₀
  split
  · rename_i hdue
    have hcheck := hfollows.check (by rw [hdue.1]; decide)
    exact ⟨hfollows.ordered.archived hcheck hdue, fun hl => absurd rfl hl, fun hl => absurd rfl hl⟩
  · exact hfollows

/-- One ingest keeps the order of a pair's alerts, if it recovers none before its opening. -/
theorem PairStep.ordered {q : AlertPair} {now : Int} {sample escalated : Option Int}
    {request : Request} {eps eps' : List Episode}
    (h : PairStep q now sample escalated request eps eps') (hnow : Bounded maxTimestampUs now)
    (hfollows : ∀ e ∈ eps, e.Follows sample)
    (hrecovery : request = .recovery → ∀ e ∈ eps, e.row.lifecycle.Active → e.row.openedAtUtcUs ≤ now) :
    ∀ e ∈ eps', e.row.Ordered := by
  have hlast : ∀ {eps : List Episode} {e x : Episode}, (∀ y ∈ eps ++ [e], y.Follows sample) →
      x.row.Ordered → ∀ y ∈ eps ++ [x], y.row.Ordered := by
    intro eps e x hall hx y hy
    rcases List.mem_append.mp hy with hy | hy
    · exact (hall y (List.mem_append_left _ hy)).ordered
    · rw [List.mem_singleton.mp hy]
      exact hx
  cases h with
  | untouched => exact fun e he => (hfollows e he).ordered
  | opened _ s id stored archived =>
    intro e he
    rcases List.mem_append.mp he with he | he
    · exact (hfollows e he).ordered
    · rw [List.mem_singleton.mp he]
      exact Episode.openedRow_ordered q s _ id hnow
  | occurred eps e live =>
    have he := hfollows e (List.mem_append_right _ List.mem_cons_self)
    have hl : e.row.lifecycle ≠ .archived := by
      rcases live with (h | h) | ⟨h, -⟩ <;> rw [h] <;> decide
    exact hlast hfollows (he.ordered.occurred (he.check hl) hl (he.older hl))
  | saturated => exact fun e he => (hfollows e he).ordered
  | recovered eps e s stored active =>
    have hmem := List.mem_append_right eps (List.mem_cons_self (a := e) (l := []))
    have he := hfollows e hmem
    have hl : e.row.lifecycle ≠ .archived := by
      rcases active with h | h <;> rw [h] <;> decide
    exact hlast hfollows (he.ordered.recovered (he.check hl) hl
      (fun first hfirst => he.older hl first hfirst s stored) hnow (hrecovery rfl e hmem active))
  | inactive => exact fun e he => (hfollows e he).ordered

/-- Every alert is in order. -/
def AlertsOrdered (db : Database) : Prop := ∀ r ∈ db.alerts.rows, r.Ordered

/-- A complete ingest that recovers in order keeps every alert in order. -/
theorem Ingestion.Ingests.ordered {db db' : Database} {p : HealthProjection}
    {outcome : IngestionOutcome} (hi : Ingests db p outcome db') (hcoherent : Coherent db)
    (hp : p.Valid) (hordered : AlertsOrdered db) (hinorder : RecoversInOrder db p) :
    AlertsOrdered db' := by
  obtain ⟨c, rows, baseline, hcoherent⟩ := hcoherent
  obtain ⟨hbelow, d, transitions, m, sample, haccepted, -⟩ := hi.accepted hcoherent hp
  have hsample : ∀ r ∈ db.alerts.rows, ∀ first ∈ r.firstSampleId, ∀ s ∈ sample, first ≤ s := by
    intro r hr first hfirst s hs
    obtain ⟨x, hx, rfl⟩ := db.consistent.alertFirstSample r hr first hfirst
    have hsampled := haccepted.sampled
    generalize d.storage.storedKind = kind at hsampled
    cases hsampled with
    | skipped => cases hs
    | stored hstored =>
      obtain rfl := Option.some.inj hs
      exact (hstored.fresh x hx).le
  intro r hr
  have hbook : ∀ e ∈ book db r.pair, e.Follows sample := by
    intro e he
    have hmem : e.row ∈ pairRows db r.pair := by
      rw [← book_rows]
      exact List.mem_map_of_mem he
    have hrow := (mem_pairRows.mp hmem).1
    exact ⟨hordered _ hrow, fun _ => db.consistent.alertCheck _ hrow, fun _ => hsample _ hrow⟩
  have hstep := (haccepted.step r.pair).ordered hp.recordedAt (archiveDue_follows hbook) ?_
  · have hmem : r ∈ (book db' r.pair).map Episode.row := by
      rw [book_rows]
      exact mem_pairRows.mpr ⟨hr, rfl⟩
    obtain ⟨e, he, rfl⟩ := List.mem_map.mp hmem
    exact hstep e he
  · intro hrequest e he hactive
    obtain ⟨e₀, he₀, rfl⟩ := List.mem_map.mp he
    split at hactive
    · rcases hactive with h | h <;> cases h
    · rename_i hdue
      rw [if_neg hdue]
      have hmem : e₀.row ∈ pairRows db r.pair := by
        rw [← book_rows]
        exact List.mem_map_of_mem he₀
      obtain ⟨hrow, hpair⟩ := mem_pairRows.mp hmem
      refine hinorder _ hrow hactive ?_
      have hrecovers := haccepted.decided.recovers hcoherent hp.toChecked hrequest
      rw [← hpair] at hrecovers
      exact hrecovers

/-- A deletion keeps every alert in order. -/
theorem AlertsOrdered.without {db : Database} (h : AlertsOrdered db) (action : DeletionAction) :
    AlertsOrdered (db.without action) := by
  cases action with
  | health rowId =>
    intro a ha
    obtain ⟨r, hr, rfl⟩ := List.mem_map.mp ha
    have hr := h r hr
    exact ⟨⟨hr.times.cooldown, hr.times.acknowledged, hr.times.recovered,
      hr.times.recoveredCooldown, hr.times.archived⟩, samplesOrdered_clear hr.samples rowId,
      hr.acknowledged⟩
  | event => exact h
  | alert => exact fun r hr => h r (List.mem_filter.mp hr).1

/-- By induction on the actions: deletions keep the order. -/
theorem AlertsOrdered.withoutAll : ∀ (actions : List DeletionAction) {db : Database},
    AlertsOrdered db → AlertsOrdered (db.withoutAll actions)
  | [], _, h => h
  | action :: actions, _, h => (h.without action).withoutAll actions

end Aurora.HealthHistory
