/-
  What an ingest decides: the evaluators, the storage decision, and the plans.

  On a coherent database the deciding half of the transaction can end in only two ways other than a
  decision: the generations of an alert are exhausted, or a table is full.  The exception is a
  projection with a component that is both healthy and switched off, which passes validation and is
  refused by the evaluator's own input check.
-/
import Aurora.HealthHistory.AlertEffects

namespace Aurora.HealthHistory

open Ingestion Script

/-! ## Contradictory projections -/

/-- A component is reported healthy with the single reason that it is switched off. -/
def HealthProjection.Contradictory (p : HealthProjection) : Prop :=
  ∃ c ∈ p.components, c.status = .healthy ∧ disabledReasons c.reasons = true

instance (p : HealthProjection) : Decidable p.Contradictory :=
  inferInstanceAs (Decidable (∃ c ∈ p.components, _ ∧ _))

/-- A disabled component says so in one of its reasons. -/
theorem disabledReasons_mem {reasons : List NormalizedReason} (h : disabledReasons reasons = true) :
    ∃ r ∈ reasons, r ∈ NormalizedReason.disabled := by
  unfold disabledReasons at h
  split at h
  · rename_i r
    exact ⟨r, List.mem_cons_self, by simpa using h⟩
  · cases h

/-- Projected reports are not contradictory. -/
theorem HealthProjection.Admissible.not_contradictory {p : HealthProjection} (h : p.Admissible) :
    ¬p.Contradictory := by
  rintro ⟨c, hc, hhealthy, hdisabled⟩
  obtain ⟨r, hr, hmem⟩ := disabledReasons_mem hdisabled
  exact absurd (hhealthy.symm.trans (h c hc r hr hmem)) (by decide)

/-! ## The health evaluators -/

/-- A health scope observes the overall status, or a component of the projection. -/
theorem observedComponent_ok {p : HealthProjection} (h : p.Checked) {s : AlertScope}
    (hs : s ≠ .sampling) :
    ∃ o, observedComponent p s = .ok o ∧ ∀ c ∈ o, c ∈ p.components := by
  obtain ⟨w, y, c, r, hcomponents, hw, hy, hc, hr⟩ := h.four
  unfold observedComponent
  rw [hcomponents]
  cases s with
  | sampling => exact absurd rfl hs
  | overall => exact ⟨none, rfl, fun _ h => nomatch h⟩
  | wled => exact ⟨some w, by simp [scopeComponent, hw], by simp⟩
  | hyperhdr => exact ⟨some y, by simp [scopeComponent, hw, hy], by simp⟩
  | capture => exact ⟨some c, by simp [scopeComponent, hw, hy, hc], by simp⟩
  | raspberryPi => exact ⟨some r, by simp [scopeComponent, hw, hy, hc, hr], by simp⟩

/-- Every component is observed by a health scope. -/
theorem observedComponent_surjective {p : HealthProjection} (h : p.Checked)
    {c : ComponentProjection} (hmem : c ∈ p.components) :
    ∃ s ≠ AlertScope.sampling, observedComponent p s = .ok (some c) := by
  obtain ⟨w, y, x, r, hcomponents, hw, hy, hx, hr⟩ := h.four
  unfold observedComponent
  rw [hcomponents] at hmem ⊢
  simp only [List.mem_cons, List.not_mem_nil, or_false] at hmem
  rcases hmem with rfl | rfl | rfl | rfl
  · exact ⟨.wled, by decide, by simp [scopeComponent, hw]⟩
  · exact ⟨.hyperhdr, by decide, by simp [scopeComponent, hw, hy]⟩
  · exact ⟨.capture, by decide, by simp [scopeComponent, hw, hy, hx]⟩
  · exact ⟨.raspberryPi, by decide, by simp [scopeComponent, hw, hy, hx, hr]⟩

/-- The scope has an open or acknowledged health alert. -/
def activeAlert (db : Database) (s : AlertScope) : Bool :=
  !(activeRows db (s, .degraded) ++ activeRows db (s, .unavailable)).isEmpty

/-- The evaluation of one health scope. -/
def ScopeEvaluated (db : Database) (rows : EvaluationRows) (p : HealthProjection) (s : AlertScope)
    (t : HealthEvaluationTransition) : Prop :=
  ∃ component state observation, observedComponent p s = .ok component ∧
    HealthEvaluationState.new? (rows s).currentStatus (rows s).candidateStatus
      (rows s).consecutiveCount = .ok state ∧
    HealthEvaluationInput.new? (observedStatus p component) (intentionalDisabled p component)
      (activeAlert db s) true = .ok observation ∧
    t = evaluateHealthState state observation

/-- The refusal of a contradictory projection. -/
def Contradiction (p : HealthProjection) (e : Raised) : Prop :=
  p.Contradictory ∧ e = .value "inconsistent_disabled_status"

/-- An input is refused only for a disabled healthy component. -/
theorem newInput_ok {status : HealthHistoryStatus} {disabled active persisted : Bool}
    (h : ¬(disabled = true ∧ status = .healthy)) :
    HealthEvaluationInput.new? status disabled active persisted =
      .ok ⟨status, disabled, active, persisted, h⟩ := dif_neg h

/-- A disabled and healthy observation comes from a contradictory component. -/
theorem contradictory_of_observed {p : HealthProjection} {o : Option ComponentProjection}
    (ho : ∀ c ∈ o, c ∈ p.components)
    (h : intentionalDisabled p o = true ∧ observedStatus p o = .healthy) : p.Contradictory := by
  obtain ⟨hdisabled, hhealthy⟩ := h
  cases o with
  | none =>
    unfold intentionalDisabled at hdisabled
    dsimp only at hdisabled
    rw [if_pos (show p.overallStatus = .healthy from hhealthy)] at hdisabled
    cases hdisabled
  | some c => exact ⟨c, ho c rfl, hhealthy, hdisabled⟩

/-- The evaluation of one scope, from its stored row. -/
theorem post_evaluateHealthScope {db : Database} {rows : EvaluationRows} {p : HealthProjection}
    {s : AlertScope} (hp : p.Checked) (hlive : LiveLast db.toTables) (hs : s ≠ .sampling)
    (hcheck : (rows s).Check s) :
    Post (evaluateHealthScope rows p s) db
      (fun entry db' => db = db' ∧ entry.1 = s ∧ ScopeEvaluated db rows p s entry.2)
      (Contradiction p) := by
  obtain ⟨component, hcomponent, hmem⟩ := observedComponent_ok hp hs
  obtain ⟨state, hstate⟩ := newState_of_check hs hcheck
  obtain ⟨stored, hstored, hall⟩ := hlive.run_activeHealthAlerts s
  have hactive : (!stored.isEmpty) = activeAlert db s := by
    unfold activeAlert
    generalize activeRows db (s, .degraded) ++ activeRows db (s, .unavailable) = rows at hall
    cases hall <;> rfl
  unfold evaluateHealthScope
  dsimp only
  rw [hcomponent, hstate]
  refine Post.bind (R := fun o m => db = m ∧ component = o) (Post.ofExcept rfl ⟨rfl, rfl⟩) ?_
  rintro _ _ ⟨rfl, rfl⟩
  refine Post.bind (R := fun t m => db = m ∧ state = t) (Post.ofExcept rfl ⟨rfl, rfl⟩) ?_
  rintro _ _ ⟨rfl, rfl⟩
  refine Post.bind (R := fun l m => db = m ∧ stored = l) (Post.of_ok hstored ⟨rfl, rfl⟩) ?_
  rintro _ _ ⟨rfl, rfl⟩
  rw [hactive]
  by_cases h : intentionalDisabled p component = true ∧ observedStatus p component = .healthy
  · have herror : HealthEvaluationInput.new? (observedStatus p component)
        (intentionalDisabled p component) (activeAlert db s) true =
        .error "inconsistent_disabled_status" := dif_pos h
    rw [herror]
    exact Post.of_error rfl ⟨contradictory_of_observed hmem h, rfl⟩
  · rw [newInput_ok h]
    refine Post.bind (R := fun i m => db = m ∧
      (⟨observedStatus p component, intentionalDisabled p component, activeAlert db s, true, h⟩ :
        HealthEvaluationInput) = i) (Post.ofExcept rfl ⟨rfl, rfl⟩) ?_
    rintro _ _ ⟨rfl, rfl⟩
    exact Post.pure ⟨rfl, rfl, component, state, _, hcomponent, hstate, newInput_ok h, rfl⟩

instance : Inhabited HealthEvaluationTransition :=
  ⟨⟨.settled .healthy, .settled .healthy, .none⟩⟩

/-- A list that matches distinct keys one by one is the image of the keys under a function. -/
theorem exists_map_of_forall₂ {α β : Type} [DecidableEq α] [Inhabited β] {R : α → β → Prop}
    {l : List α} {m : List (α × β)} (h : List.Forall₂ (fun a e => e.1 = a ∧ R a e.2) l m)
    (hnodup : l.Nodup) : ∃ f : α → β, m = l.map (fun a => (a, f a)) ∧ ∀ a ∈ l, R a (f a) := by
  induction h with
  | nil => exact ⟨fun _ => default, rfl, fun _ ha => absurd ha List.not_mem_nil⟩
  | @cons a e l m he _ ih =>
    obtain ⟨ha, hl⟩ := List.nodup_cons.mp hnodup
    obtain ⟨f, rfl, hf⟩ := ih hl
    have hne : ∀ b ∈ l, b ≠ a := fun b hb hba => ha (hba ▸ hb)
    refine ⟨Function.update f a e.2, ?_, fun b hb => ?_⟩
    · rw [List.map_cons, Function.update_self]
      refine congrArg₂ List.cons (Prod.ext he.1 rfl) (List.map_congr_left fun b hb => ?_)
      rw [Function.update_of_ne (hne b hb)]
    · by_cases hba : b = a
      · rw [hba, Function.update_self]
        exact he.2
      · rw [Function.update_of_ne hba]
        exact hf b ((List.mem_cons.mp hb).resolve_left hba)

/-- All health scopes are evaluated, or the projection is contradictory. -/
theorem post_evaluateHealthScopes {db : Database} {rows : EvaluationRows} {p : HealthProjection}
    (hp : p.Checked) (hlive : LiveLast db.toTables) (hcheck : ∀ s, (rows s).Check s) :
    Post (evaluateHealthScopes rows p) db
      (fun entries db' => db = db' ∧ ¬p.Contradictory ∧
        ∃ transitions : AlertScope → HealthEvaluationTransition,
        entries = healthScopes.map (fun s => (s, transitions s)) ∧
        ∀ s ≠ .sampling, ScopeEvaluated db rows p s (transitions s))
      (Contradiction p) := by
  have hall := Post.mapM (l := healthScopes)
    (R := fun s (entry : AlertScope × HealthEvaluationTransition) =>
      entry.1 = s ∧ ScopeEvaluated db rows p s entry.2)
    (f := evaluateHealthScope rows p) (s := db) (E := Contradiction p) fun s hs =>
      (post_evaluateHealthScope hp hlive (mem_healthScopes.mp hs) (hcheck s)).mono
        (fun _ _ h => ⟨h.1.symm, h.2⟩) (fun _ h => h)
  refine hall.mono ?_ (fun _ h => h)
  rintro entries _ ⟨rfl, hentries⟩
  obtain ⟨transitions, hmap, hevaluated⟩ := exists_map_of_forall₂ hentries (by decide)
  have hevaluated' : ∀ s ≠ .sampling, ScopeEvaluated _ rows p s (transitions s) := fun s hs =>
    hevaluated s (mem_healthScopes.mpr hs)
  refine ⟨rfl, ?_, transitions, hmap, hevaluated'⟩
  rintro ⟨c, hc, hhealthy, hdisabled⟩
  obtain ⟨s, hs, hobserved⟩ := observedComponent_surjective hp hc
  obtain ⟨component, _, observation, hcomponent, -, hinput, -⟩ := hevaluated' s hs
  obtain rfl := Except.ok.inj (hobserved.symm.trans hcomponent)
  unfold HealthEvaluationInput.new? at hinput
  rw [dif_pos ⟨hdisabled, hhealthy⟩] at hinput
  cases hinput

/-! ## The gap evaluator -/

/-- The sampling scope is evaluated. -/
theorem evaluateGap_ok {db : Database} {c : Checkpoint} {rows : EvaluationRows}
    {baseline : Option Int} {p : HealthProjection} (hc : Anchored db.toTables c)
    (he : Evaluators db.toTables rows baseline) (hp : p.Checked) :
    ∃ state observation,
      SamplingGapState.new? (rows .sampling).gapPhase c.acceptedCount
        (rows .sampling).consecutiveCount c.sequence = .ok state ∧
      SamplingGapObservation.new? p.observationSequence p.missedIntervals true true
        (p.sampleKind = .startupGap) (p.sampleKind = .clockDiscontinuity) = .ok observation ∧
      evaluateGap rows c p = .ok (evaluateSamplingGap state observation) := by
  have hrow := db.consistent.evaluationCheck .sampling (mem_alertScopes _) _ (he.stored .sampling)
  have hcheckpoint := db.consistent.checkpointCheck _ hc.checkpoint
  have hcount : Bounded maxBoundedCounter c.acceptedCount := hcheckpoint.2.2.2.1
  have hsequence : BoundedOption maxTimestampUs c.sequence := hcheckpoint.1
  have hmarkers : ¬(decide (p.sampleKind = .startupGap) = true ∧
      decide (p.sampleKind = .clockDiscontinuity) = true) := by
    rintro ⟨h, h'⟩
    exact absurd ((of_decide_eq_true h).symm.trans (of_decide_eq_true h')) (by decide)
  have hstate : ∃ state, SamplingGapState.new? (rows .sampling).gapPhase c.acceptedCount
      (rows .sampling).consecutiveCount c.sequence = .ok state := by
    unfold SamplingGapState.new?
    rw [dif_pos hcount, dif_pos hrow.1, dif_pos hsequence]
    exact ⟨_, rfl⟩
  have hobservation : ∃ observation, SamplingGapObservation.new? p.observationSequence
      p.missedIntervals true true (p.sampleKind = .startupGap)
      (p.sampleKind = .clockDiscontinuity) = .ok observation := by
    unfold SamplingGapObservation.new?
    rw [dif_pos (show Bounded maxTimestampUs p.observationSequence from hp.sequence),
      dif_pos hp.missed.1, dif_pos hmarkers]
    exact ⟨_, rfl⟩
  obtain ⟨state, hstate⟩ := hstate
  obtain ⟨observation, hobservation⟩ := hobservation
  refine ⟨state, observation, hstate, hobservation, ?_⟩
  unfold evaluateGap
  dsimp only
  rw [hstate, hobservation]
  rfl

/-! ## The storage decision -/

/-- What is left out of the history is what the baseline sample already holds, and a stored sample
    becomes the baseline unless retention has removed the last one. -/
structure StorageDecided (db : Database) (c : Checkpoint) (baseline : Option Int)
    (p : HealthProjection) (d : StorageDecision) : Prop where
  kept : d.storedKind = none → ∃ r ∈ db.samples.rows, baseline = some r.id ∧
    ∃ q, Holds db.toTables r q ∧ q.content = p.content
  updates : d.updatesEvaluatorBaseline = false → c.sequence ≠ none ∧ baseline = none

/-- The components of the content of a checked projection. -/
theorem HealthProjection.Checked.content_four {p : HealthProjection} (h : p.Checked) :
    ∃ w y c r : HealthHistoryStatus × List NormalizedReason,
      p.content.components = [(.wled, w), (.hyperhdr, y), (.capture, c), (.raspberryPi, r)] := by
  obtain ⟨w, y, c, r, hcomponents, hw, hy, hc, hr⟩ := h.four
  refine ⟨(w.status, w.reasons), (y.status, y.reasons), (c.status, c.reasons),
    (r.status, r.reasons), ?_⟩
  unfold HealthProjection.content
  rw [hcomponents, ← hw, ← hy, ← hc, ← hr]
  rfl

/-- A comparison that finds no change compares equal contents. -/
theorem content_of_unchanged {q p : HealthProjection} (hq : q.Checked) (hp : p.Checked)
    (h : contentChanged q.content p = false) : q.content = p.content := by
  have hsame : q.overallStatus = p.overallStatus ∧
      ∀ e ∈ p.content.components, q.content.components.lookup e.1 = some e.2 := by
    unfold contentChanged at h
    simp only [Bool.or_eq_false_iff, decide_eq_false_iff_not, not_not, List.any_eq_false,
      decide_eq_true_eq] at h
    refine ⟨h.1, fun e he => ?_⟩
    obtain ⟨c, hc, rfl⟩ := List.mem_map.mp he
    exact h.2 c hc
  obtain ⟨w, y, c, r, hqc⟩ := hq.content_four
  obtain ⟨w', y', c', r', hpc⟩ := hp.content_four
  have hcomponents : q.content.components = p.content.components := by
    obtain ⟨-, hlookup⟩ := hsame
    rw [hqc, hpc] at hlookup ⊢
    have hw : some w = some w' := hlookup (.wled, w') (by simp)
    have hy : some y = some y' := hlookup (.hyperhdr, y') (by simp)
    have hc : some c = some c' := hlookup (.capture, c') (by simp)
    have hr : some r = some r' := hlookup (.raspberryPi, r') (by simp)
    rw [Option.some.inj hw, Option.some.inj hy, Option.some.inj hc, Option.some.inj hr]
  exact congrArg₂ BaselineContent.mk hsame.1 hcomponents

/-- The six rows name the baseline. -/
theorem Ingestion.Evaluators.run_baselineSampleReference {db : Database} {c : Checkpoint}
    {rows : EvaluationRows} {baseline : Option Int} (he : Evaluators db.toTables rows baseline)
    (hhistory : History db.toTables)
    (hcovered : ∀ r ∈ db.samples.rows, ∃ last ∈ c.sequence, r.observationSequence ≤ last) :
    (baselineSampleReference rows c.sequence).run db = .ok (baseline, db) ∧
      ∀ i ∈ baseline, ∃ r ∈ db.samples.rows, r.id = i ∧ ∃ q, Holds db.toTables r q ∧
        (readBaselineSample i c.sequence).run db = .ok (q.content, db) := by
  have hread : ∀ i ∈ baseline, ∃ r ∈ db.samples.rows, r.id = i ∧ ∃ q, Holds db.toTables r q ∧
      (readBaselineSample i c.sequence).run db = .ok (q.content, db) := by
    intro i hi
    have hexists := db.consistent.evaluationSample .overall (mem_alertScopes _) _
      (he.stored .overall)
    rw [he.agree] at hexists
    obtain ⟨r, hr, hid⟩ := hexists i hi
    obtain ⟨q, hq⟩ := hhistory.holds r hr
    refine ⟨r, hr, hid, q, hq, ?_⟩
    rw [← hid]
    exact hq.read hr (hcovered r hr)
  refine ⟨?_, hread⟩
  unfold baselineSampleReference
  cases baseline with
  | none =>
    rw [if_pos fun s _ => he.agree s]
    rfl
  | some i =>
    obtain ⟨r, -, -, q, -, hrun⟩ := hread i rfl
    have hall : ∀ s ∈ alertScopes, (rows s).lastSampleId = some i := fun s _ => he.agree s
    rw [if_neg fun h => by simpa [he.agree] using h .overall (by decide), he.agree]
    unfold attempt
    simp only [Script.run_bind, Script.run_ofExcept, trust_pos hall, map_ok, hrun,
      Script.run_pure]

/-- With a last heartbeat the decision is always made. -/
theorem heartbeatDecision_ok {last : Option Int} (now : Int) (h : last ≠ none) :
    ∃ d, heartbeatDecision last now = .ok d ∧ d.updatesEvaluatorBaseline = true := by
  obtain ⟨l, rfl⟩ := Option.ne_none_iff_exists'.mp h
  unfold heartbeatDecision
  dsimp only
  split <;> exact ⟨_, rfl, rfl⟩

/-- The storage decision is always reached. -/
theorem post_storageDecision {db : Database} {c : Checkpoint} {rows : EvaluationRows}
    {baseline : Option Int} {p : HealthProjection} (he : Evaluators db.toTables rows baseline)
    (hhistory : History db.toTables)
    (hcovered : ∀ r ∈ db.samples.rows, ∃ last ∈ c.sequence, r.observationSequence ≤ last)
    (hp : p.Checked) :
    Post (storageDecision rows c p) db
      (fun d db' => db = db' ∧ StorageDecided db c baseline p d) (fun _ => False) := by
  obtain ⟨hreference, hread⟩ := he.run_baselineSampleReference hhistory hcovered
  -- a baseline sample belongs to an accepted observation, so there is a checkpoint
  have hanchored : ¬(c.sequence = none ∧ baseline ≠ none) := by
    rintro ⟨hnone, hsome⟩
    obtain ⟨i, rfl⟩ := Option.ne_none_iff_exists'.mp hsome
    obtain ⟨r, hr, -⟩ := hread i rfl
    obtain ⟨last, hlast, -⟩ := hcovered r hr
    rw [hnone] at hlast
    cases hlast
  have hupdates : ∀ kind outcome, StorageDecided db c baseline p ⟨outcome, some kind,
      !decide (c.sequence ≠ none ∧ baseline = none)⟩ := fun kind outcome =>
    ⟨fun h => (by cases h), fun h => by simpa using h⟩
  have htransition : StorageDecided db c baseline p ⟨.transitionStored, some .transition, true⟩ :=
    ⟨fun h => (by cases h), fun h => (by cases h)⟩
  unfold storageDecision
  refine Post.bind (R := fun b m => db = m ∧ baseline = b) (Post.of_ok hreference ⟨rfl, rfl⟩) ?_
  rintro _ _ ⟨rfl, rfl⟩
  refine Post.bind (R := fun _ m => db = m) (Post.ofExcept (trust_pos hanchored) rfl) ?_
  rintro _ _ rfl
  dsimp only
  -- marked samples are always stored, others only if they differ from the baseline or it is old
  cases p.sampleKind with
  | startupGap => exact Post.pure ⟨rfl, hupdates _ _⟩
  | clockDiscontinuity => exact Post.pure ⟨rfl, hupdates _ _⟩
  | transition | heartbeat =>
    cases baseline with
    | none => exact Post.pure ⟨rfl, htransition⟩
    | some i =>
      obtain ⟨r, hr, hid, q, hq, hrun⟩ := hread i rfl
      have hchanged : (projectionChanged i p c.sequence).run db =
          .ok (contentChanged q.content p, db) := by
        unfold projectionChanged
        rw [Script.run_bind, hrun]
        rfl
      refine Post.bind (R := fun b m => db = m ∧ contentChanged q.content p = b)
        (Post.of_ok hchanged ⟨rfl, rfl⟩) ?_
      rintro b _ ⟨rfl, hb⟩
      cases b with
      | true => exact Post.pure ⟨rfl, htransition⟩
      | false =>
        obtain ⟨d, hd, hup⟩ := heartbeatDecision_ok p.recordedAtUtcUs
          (he.heartbeat (by simp) .overall)
        rw [if_neg (by decide), hd]
        refine Post.ofExcept rfl ⟨rfl, fun _ => ⟨r, hr, congrArg some hid.symm, q, hq,
          content_of_unchanged hq.valid.toChecked hp hb⟩, fun h => ?_⟩
        rw [hup] at h
        cases h

/-- A decision forced to store does store, and keeps the rest. -/
theorem StorageDecided.forced {db : Database} {c : Checkpoint} {baseline : Option Int}
    {p : HealthProjection} {d : StorageDecision} (h : StorageDecided db c baseline p d) :
    StorageDecided db c baseline p (forceTransitionStorage d) ∧
      (forceTransitionStorage d).storedKind ≠ none := by
  unfold forceTransitionStorage
  split
  · rename_i hmem
    refine ⟨h, fun hnone => ?_⟩
    rw [hnone] at hmem
    exact absurd hmem (by decide)
  · exact ⟨⟨(nomatch ·), (nomatch ·)⟩, by simp⟩

/-! ## The decision -/

namespace OnlyAlerts

variable {db db' : Database} {c : Checkpoint} {rows : EvaluationRows} {baseline : Option Int}

/-- Changes to the alerts alone leave the checkpoint where it is. -/
theorem anchored (h : OnlyAlerts db db') (ha : Anchored db.toTables c) :
    Anchored db'.toTables c where
  checkpoint := h.checkpoint.trans ha.checkpoint
  length := by
    rw [h.replay]
    exact ha.length
  latest := by
    rw [h.replay]
    exact ha.latest

/-- They leave the evaluators alone. -/
theorem evaluators (h : OnlyAlerts db db') (he : Evaluators db.toTables rows baseline) :
    Evaluators db'.toTables rows baseline where
  stored := by
    rw [h.evaluation]
    exact he.stored
  agree := he.agree
  heartbeat := he.heartbeat

/-- They leave the stored samples alone. -/
theorem holds (h : OnlyAlerts db db') {r : HealthSampleRow} {p : HealthProjection}
    (hr : Holds db.toTables r p) : Holds db'.toTables r p where
  valid := hr.valid
  row := hr.row
  components := by
    rw [h.components]
    exact hr.components

/-- They keep the alerts' record, if they kept it one. -/
theorem history (h : OnlyAlerts db db') (hh : History db.toTables) : History db'.toTables where
  positive := by
    rw [h.samples]
    exact hh.positive
  increasing := by
    rw [h.samples]
    exact hh.increasing
  holds := by
    rw [h.samples]
    intro r hr
    obtain ⟨p, hp⟩ := hh.holds r hr
    exact ⟨p, h.holds hp⟩

end OnlyAlerts

/-- A coherent database: everything the ingest path relies on. -/
structure CoherentAt (t : Tables) (c : Checkpoint) (rows : EvaluationRows) (baseline : Option Int) :
    Prop where
  anchored : Anchored t c
  evaluators : Evaluators t rows baseline
  history : History t
  /-- No sample is newer than the checkpoint. -/
  covered : ∀ r ∈ t.samples.rows, ∃ last ∈ c.sequence, r.observationSequence ≤ last
  live : LiveLast t

/-- After the archival nothing is due. -/
theorem not_eligible_of_archived {now : Int} {db db' : Database} (h : Archived now db db') :
    ∀ r ∈ db'.alerts.rows, ¬Eligible now r := by
  intro r hr
  have hmem : r ∈ (book db' r.pair).map Episode.row := by
    rw [book_rows]
    exact mem_pairRows.mpr ⟨hr, rfl⟩
  obtain ⟨e, he, rfl⟩ := List.mem_map.mp hmem
  rw [h.book] at he
  obtain ⟨e₀, -, rfl⟩ := List.mem_map.mp he
  split
  · exact Episode.not_eligible_archivedRow now _
  · assumption

/-- What is decided, in the state `m` the archival leaves. -/
structure Decided (db : Database) (c : Checkpoint) (rows : EvaluationRows) (baseline : Option Int)
    (p : HealthProjection) (d : IngestionDecision)
    (transitions : AlertScope → HealthEvaluationTransition) (m : Database) : Prop where
  archived : Archived p.recordedAtUtcUs db m
  fair : ¬p.Contradictory
  read : d.rows = rows
  gap : evaluateGap rows c p = .ok d.gap
  storage : StorageDecided m c baseline p d.storage
  supported : ∀ plan ∈ d.plans, plan.NeedsSample → d.storage.storedKind ≠ none
  health : d.health = healthScopes.map fun s => (s, transitions s)
  evaluated : ∀ s ≠ .sampling, ScopeEvaluated m rows p s (transitions s)
  covers : Covers m p.recordedAtUtcUs (requestOf transitions d.gap (gapObservationHasMiss p))
    (fun _ => True) d.plans

/-- How the decision can be refused. -/
inductive Refusal (p : HealthProjection) : Raised → Prop
  /-- No row identifier is left. -/
  | full : Refusal p (.sqlite .full)
  /-- The generations of an alert are used up. -/
  | exhausted (fair : ¬p.Contradictory) : Refusal p (.ingestion ⟨.generationExhausted, false⟩)
  /-- A component is healthy and switched off. -/
  | contradiction (h : p.Contradictory) : Refusal p (.value "inconsistent_disabled_status")

/-- A confirmed condition has an unhealthy status. -/
theorem ScopeEvaluated.condition {db : Database} {rows : EvaluationRows} {p : HealthProjection}
    {s : AlertScope} {t : HealthEvaluationTransition} (h : ScopeEvaluated db rows p s t)
    (hevent : t.event = .conditionConfirmed) :
    ∃ status, t.state.currentStatus = some status ∧ status ≠ .healthy := by
  obtain ⟨_, state, observation, -, -, hobservation, rfl⟩ := h
  have hpersisted : observation.persistenceSucceeded = true := by
    unfold HealthEvaluationInput.new? at hobservation
    split at hobservation
    · cases hobservation
    · rw [← Except.ok.inj hobservation]
  exact ⟨observation.status, evaluateHealthState_current hpersisted,
    evaluateHealthState_condition hevent⟩

/-- A sample is needed exactly if one of the plans needs it. -/
theorem requiresSupportingSample_iff {plans : List AlertPlan} :
    requiresSupportingSample plans = true ↔ ∃ plan ∈ plans, plan.NeedsSample := by
  unfold requiresSupportingSample AlertPlan.NeedsSample
  rw [List.any_eq_true]
  simp only [Bool.or_eq_true, decide_eq_true_eq]

/-- On a coherent database the decision is reached, or refused for one of three reasons. -/
theorem post_decideIngestion {db : Database} {c : Checkpoint} {rows : EvaluationRows}
    {baseline : Option Int} {p : HealthProjection} (h : CoherentAt db.toTables c rows baseline)
    (hp : p.Checked) :
    Post (decideIngestion c p) db
      (fun d m => ∃ transitions, Decided db c rows baseline p d transitions m) (Refusal p) := by
  unfold decideIngestion
  refine Post.bind (R := fun r m => db = m ∧ rows = r)
    (Post.of_ok h.evaluators.read ⟨rfl, rfl⟩) ?_
  rintro _ _ ⟨rfl, rfl⟩
  refine Post.bind ((post_archiveEligibleAlerts h.live hp.recordedAt).mono (fun _ _ h => h)
    (fun e he => by rw [he]; exact .full)) ?_
  intro _ m harchived
  have hconsistent : ∀ s, (rows s).Check s := fun s =>
    db.consistent.evaluationCheck s (mem_alertScopes s) _ (h.evaluators.stored s)
  refine Post.bind ((post_evaluateHealthScopes hp harchived.live hconsistent).mono
    (fun _ _ h => h) (fun e he => by rw [he.2]; exact .contradiction he.1)) ?_
  rintro _ _ ⟨rfl, hfair, transitions, rfl, htransitions⟩
  obtain ⟨state, observation, -, -, hgap⟩ := evaluateGap_ok h.anchored h.evaluators hp
  rw [hgap]
  refine Post.bind (R := fun g n => m = n ∧ evaluateSamplingGap state observation = g)
    (Post.ofExcept rfl ⟨rfl, rfl⟩) ?_
  rintro _ _ ⟨rfl, rfl⟩
  have hcovered : ∀ r ∈ m.samples.rows, ∃ last ∈ c.sequence, r.observationSequence ≤ last := by
    rw [harchived.only.samples]
    exact h.covered
  refine Post.bind ((post_storageDecision (harchived.only.evaluators h.evaluators)
    (harchived.only.history h.history) hcovered hp).mono (fun _ _ h => h) (fun _ h => h.elim)) ?_
  rintro decision _ ⟨rfl, hstorage⟩
  refine Post.bind ((post_planAutomaticAlerts harchived.live hp.recordedAt
    (not_eligible_of_archived harchived) fun s hs => (htransitions s hs).condition).mono (fun _ _ h => h)
      (fun e he => by rw [he]; exact .exhausted hfair)) ?_
  rintro plans _ ⟨rfl, hcovers⟩
  by_cases hneeds : requiresSupportingSample plans = true
  · dsimp only
    rw [if_pos hneeds]
    exact Post.pure ⟨transitions, harchived, hfair, rfl, hgap, hstorage.forced.1,
      fun _ _ _ => hstorage.forced.2, rfl, htransitions, hcovers⟩
  · dsimp only
    rw [if_neg hneeds]
    exact Post.pure ⟨transitions, harchived, hfair, rfl, hgap, hstorage,
      fun plan hplan hneed => absurd (requiresSupportingSample_iff.mpr ⟨plan, hplan, hneed⟩) hneeds,
      rfl, htransitions, hcovers⟩

end Aurora.HealthHistory
