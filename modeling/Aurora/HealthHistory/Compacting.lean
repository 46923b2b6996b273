/-
  Compaction loses nothing, and the baseline it rests on.

  An observation that changed nothing is not stored; what it showed is what the newest sample below
  it shows.  The invariant of a run of ingests is that the baseline of the evaluators is the newest
  sample, once anything has been accepted.  Cleanups break it, since they may delete that sample:
  then the six rows name no baseline, and the next accepted observation is stored.
-/
import Aurora.HealthHistory.Replaying

namespace Aurora.HealthHistory

open Ingestion Script

/-! ## What a sample shows -/

/-- The statuses and reasons a sample row and its component rows show. -/
def Tables.contentOf (t : Tables) (r : HealthSampleRow) : BaselineContent where
  overallStatus := r.overallStatus
  components := (t.components.filter fun row => row.sampleId = r.id).map fun row =>
    (row.component, row.status, row.projection.reasons)

/-- A sample shows the content of the projection it holds. -/
theorem Ingestion.Holds.contentOf {t : Tables} {r : HealthSampleRow} {p : HealthProjection}
    (h : Holds t r p) : t.contentOf r = p.content := by
  have hoverall : r.overallStatus = p.overallStatus := by rw [h.row]; rfl
  unfold Tables.contentOf HealthProjection.content
  refine congrArg₂ BaselineContent.mk hoverall ?_
  have hcomponents := h.components
  have hvalid := h.valid.components
  generalize (t.components.filter fun row => row.sampleId = r.id) = rows at hcomponents
  generalize p.components = components at hcomponents hvalid
  induction hcomponents with
  | nil => rfl
  | @cons c row _ _ hrow _ ih =>
    have hprojection := projection_componentRow (hvalid c List.mem_cons_self) hrow
    rw [List.map_cons, List.map_cons, ih fun c hc => hvalid c (List.mem_cons_of_mem _ hc),
      ← hprojection]
    rfl

/-- The newest sample that is not newer than an observation. -/
structure LatestSample (t : Tables) (sequence : Int) (r : HealthSampleRow) : Prop where
  mem : r ∈ t.samples.rows
  notNewer : r.observationSequence ≤ sequence
  greatest : ∀ a ∈ t.samples.rows, a.observationSequence ≤ sequence →
    a.observationSequence ≤ r.observationSequence

/-- The last sample is the newest. -/
theorem Ingestion.History.le_last {t : Tables} (h : History t) {r : HealthSampleRow}
    (hr : t.samples.rows.getLast? = some r) :
    ∀ a ∈ t.samples.rows, a.observationSequence ≤ r.observationSequence := by
  obtain ⟨earlier, hrows⟩ := List.getLast?_eq_some_iff.mp hr
  have hincreasing := h.increasing
  rw [hrows] at hincreasing ⊢
  intro a ha
  rcases List.mem_append.mp ha with ha | ha
  · exact ((List.pairwise_append.mp hincreasing).2.2 a ha r List.mem_cons_self).le
  · rw [List.mem_singleton.mp ha]

/-! ## Runs of ingests -/

/-- The journal is sound, its baseline is the newest sample, and every accepted observation can be
    read from the samples. -/
structure Journal.Compacted (j : Journal) : Prop extends j.Sound where
  baseline : ∃ rows, CoherentAt j.database.toTables (checkpointOf j.accepted) rows
    (j.database.samples.rows.getLast?.map HealthSampleRow.id)
  begun : j.accepted ≠ [] → j.database.samples.rows ≠ []
  shown : ∀ p ∈ j.accepted, ∃ r, LatestSample j.database.toTables p.observationSequence r ∧
    ∃ q, Holds j.database.toTables r q ∧ q.content = p.content

theorem Journal.start_compacted {appliedAt : Int} {fresh : Database}
    (h : createSchemaV1 appliedAt = .ok fresh) : (Journal.start fresh).Compacted where
  toSound := Journal.start_sound h
  baseline := by
    refine ⟨fun _ => freshEvaluationRow, ?_⟩
    show CoherentAt fresh.toTables _ _ (fresh.samples.rows.getLast?.map HealthSampleRow.id)
    rw [(createSchemaV1_eq_ok h).1]
    exact freshTables_coherent appliedAt
  begun := fun h => absurd rfl h
  shown := fun _ hp => absurd hp List.not_mem_nil

/-- An observation that was not stored shows what the newest sample shows. -/
theorem Accepted.skipped_shown {db db' m : Database} {c : Checkpoint} {rows : EvaluationRows}
    {p : HealthProjection} {d : IngestionDecision}
    {transitions : AlertScope → HealthEvaluationTransition} {sample : Option Int}
    (h : CoherentAt db.toTables c rows (db.samples.rows.getLast?.map HealthSampleRow.id))
    (hbelow : c.Below p.observationSequence)
    (hd : Accepted db c rows (db.samples.rows.getLast?.map HealthSampleRow.id) p d transitions m
      sample db') (hskipped : d.storage.storedKind = none) :
    ∃ r, LatestSample db.toTables p.observationSequence r ∧
      ∃ q, Holds db.toTables r q ∧ q.content = p.content := by
  have honly := hd.decided.archived.only
  obtain ⟨r, hr, hid, q, hq, hcontent⟩ := hd.decided.storage.kept hskipped
  rw [honly.samples] at hr
  obtain ⟨last, hlast, hlastid⟩ := Option.map_eq_some_iff.mp hid
  obtain rfl : last = r :=
    db.samples.mem_unique (List.mem_of_getLast? hlast) hr hlastid
  refine ⟨last, ⟨hr, (h.above hbelow last hr).le, fun a ha _ => h.history.le_last hlast a ha⟩,
    q, ⟨hq.valid, hq.row, ?_⟩, hcontent⟩
  rw [← honly.components]
  exact hq.components

/-- What older observations show does not change with a new sample. -/
theorem LatestSample.append {t t' : Tables} {sequence : Int} {r new : HealthSampleRow}
    (h : LatestSample t sequence r) (hrows : t'.samples.rows = t.samples.rows ++ [new])
    (hnew : sequence < new.observationSequence) : LatestSample t' sequence r where
  mem := by
    rw [hrows]
    exact List.mem_append_left _ h.mem
  notNewer := h.notNewer
  greatest := by
    rw [hrows]
    intro a ha hle
    rcases List.mem_append.mp ha with ha | ha
    · exact h.greatest a ha hle
    · rw [List.mem_singleton.mp ha] at hle
      omega

/-- An accepted ingest keeps the journal compacted. -/
theorem Journal.Compacted.step {j j' : Journal} {p : HealthProjection} {outcome : IngestionOutcome}
    (h : j.Compacted) (hp : p.Valid) (haccepted : j'.accepted = j.accepted ++ [p])
    (hi : Ingests j.database p outcome j'.database) : j'.Compacted := by
  obtain ⟨rows, hcoherent⟩ := h.baseline
  obtain ⟨hbelow, d, transitions, m, sample, hstep, -⟩ := hi.accepted hcoherent hp
  have hcoherent' := hstep.coherent hcoherent hp hbelow
  rw [← checkpointOf_append, ← haccepted] at hcoherent'
  have habove := (below_checkpointOf h.increasing).mp hbelow
  generalize hkind : d.storage.storedKind = kind at *
  cases hsampled : hkind ▸ hstep.sampled with
  | skipped samples components =>
    have hnone : newBaseline d.storage none = none := by
      unfold newBaseline
      split <;> rfl
    have hholds : ∀ r q, Holds j.database.toTables r q → Holds j'.database.toTables r q :=
      fun r q hq => ⟨hq.valid, hq.row, by rw [components]; exact hq.components⟩
    have hlatest : ∀ s r, LatestSample j.database.toTables s r →
        LatestSample j'.database.toTables s r := fun s r hr =>
      ⟨by rw [samples]; exact hr.mem, hr.notNewer, by rw [samples]; exact hr.greatest⟩
    have hshown := hstep.skipped_shown hcoherent hbelow hkind
    refine ⟨h.toSound.step hp haccepted hi, ?_, fun _ => ?_, ?_⟩
    · rw [samples]
      rw [hnone] at hcoherent'
      exact ⟨_, hcoherent'⟩
    · obtain ⟨r, hr, -⟩ := hshown
      rw [samples]
      exact List.ne_nil_of_mem hr.mem
    · rw [haccepted]
      intro q hq
      rcases List.mem_append.mp hq with hq | hq
      · obtain ⟨r, hr, q', hq', hcontent⟩ := h.shown q hq
        exact ⟨r, hlatest _ r hr, q', hholds r q' hq', hcontent⟩
      · obtain ⟨r, hr, q', hq', hcontent⟩ := hshown
        rw [List.mem_singleton.mp hq]
        exact ⟨r, hlatest _ r hr, q', hholds r q' hq', hcontent⟩
  | @stored kind id _ hstored =>
    obtain ⟨hhistory, hself, hold⟩ :=
      hstored.history hp hcoherent.history (hcoherent.above hbelow)
    -- the baseline moves, because it was there unless nothing had been accepted
    have hupdates : d.storage.updatesEvaluatorBaseline = true := by
      by_contra hfalse
      obtain ⟨hsequence, hbaseline⟩ := hstep.decided.storage.updates (by simpa using hfalse)
      refine h.begun (fun hnil => hsequence ?_) ?_
      · rw [hnil]
        rfl
      · exact List.getLast?_eq_none_iff.mp (Option.map_eq_none_iff.mp hbaseline)
    have hnext : (newBaseline d.storage (some id) <|>
        j.database.samples.rows.getLast?.map HealthSampleRow.id) =
          j'.database.samples.rows.getLast?.map HealthSampleRow.id := by
      have hlast : (j.database.samples.rows ++ [sampleRow p kind id]).getLast? =
          some (sampleRow p kind id) := by simp
      rw [hstored.samples, hlast]
      unfold newBaseline
      rw [if_pos hupdates]
      rfl
    refine ⟨h.toSound.step hp haccepted hi, ?_, fun _ => ?_, ?_⟩
    · rw [← hnext]
      exact ⟨_, hcoherent'⟩
    · rw [hstored.samples]
      simp
    · rw [haccepted]
      intro q hq
      rcases List.mem_append.mp hq with hq | hq
      · obtain ⟨r, hr, q', hq', hcontent⟩ := h.shown q hq
        exact ⟨r, hr.append hstored.samples (habove q hq), q', hold r q' hr.mem hq', hcontent⟩
      · rw [List.mem_singleton.mp hq]
        refine ⟨sampleRow p kind id, ⟨?_, le_rfl, fun _ _ hle => hle⟩, p, hself, rfl⟩
        rw [hstored.samples]
        exact List.mem_append_right _ List.mem_cons_self

/-- Every accepted observation of a run of ingests is shown by the newest sample that is not newer. -/
theorem shown_of_run {appliedAt : Int} {fresh : Database}
    (h : createSchemaV1 appliedAt = .ok fresh) (submissions : List Submission) :
    let j := (Journal.start fresh).run submissions
    ∀ p ∈ j.accepted, ∃ r, LatestSample j.database.toTables p.observationSequence r ∧
      j.database.toTables.contentOf r = p.content := by
  have hcompacted : ((Journal.start fresh).run submissions).Compacted :=
    Journal.run_invariant (I := Journal.Compacted) (Journal.start_compacted h)
      (fun _ _ _ _ hm hp haccepted hi => hm.step hp haccepted hi) submissions
  intro j p hp
  obtain ⟨r, hr, q, hq, hcontent⟩ := hcompacted.shown p hp
  exact ⟨r, hr, hq.contentOf.trans hcontent⟩

/-- The second report is accepted and folded: its content is that of the first one's sample. -/
theorem shown_of_run_wled : ∃ fresh, createSchemaV1 0 = .ok fresh ∧
    ((Journal.start fresh).run wledReports).database.samples.rows.map
      HealthSampleRow.observationSequence = [1, 3, 4, 5, 6] ∧
    ∃ r, LatestSample ((Journal.start fresh).run wledReports).database.toTables 2 r ∧
      ((Journal.start fresh).run wledReports).database.toTables.contentOf r =
        (wledReport 2 6 .degraded .wledInfoTimeout).content := by
  obtain ⟨fresh, hfresh⟩ : ∃ fresh, createSchemaV1 0 = .ok fresh := ⟨_, rfl⟩
  obtain ⟨haccepted, hsamples, -⟩ := wledReports_archived hfresh
  have hmem : wledReport 2 6 .degraded .wledInfoTimeout ∈
      ((Journal.start fresh).run wledReports).accepted := by
    rw [haccepted]
    exact List.mem_cons_of_mem _ List.mem_cons_self
  exact ⟨fresh, hfresh, hsamples, shown_of_run hfresh wledReports _ hmem⟩

/-! ## The baseline, with cleanups -/

/-- Without a baseline an accepted observation is stored in full. -/
theorem Accepted.stored_without_baseline {db db' m : Database} {c : Checkpoint}
    {rows : EvaluationRows} {p : HealthProjection} {d : IngestionDecision}
    {transitions : AlertScope → HealthEvaluationTransition} {sample : Option Int}
    (hd : Accepted db c rows none p d transitions m sample db')
    (h : CoherentAt db.toTables c rows none) (hp : p.Valid)
    (hbelow : c.Below p.observationSequence) :
    ∃ r ∈ db'.samples.rows, Holds db'.toTables r p := by
  generalize hkind : d.storage.storedKind = kind
  cases hsampled : hkind ▸ hd.sampled with
  | skipped =>
    obtain ⟨r, -, hbaseline, -⟩ := hd.decided.storage.kept hkind
    cases hbaseline
  | @stored kind id _ hstored =>
    obtain ⟨-, hself, -⟩ := hstored.history hp h.history (h.above hbelow)
    refine ⟨sampleRow p kind id, ?_, hself⟩
    rw [hstored.samples]
    exact List.mem_append_right _ List.mem_cons_self

/-- In every state a run of ingests and cleanups reaches, the six evaluator rows name one baseline.
    If there is one, it is a stored sample, not newer than the checkpoint, and the rows have a time of
    the last heartbeat; if there is none, the next observation that is accepted is stored in full. -/
theorem baseline_of_run {appliedAt : Int} {fresh : Database}
    (h : createSchemaV1 appliedAt = .ok fresh) (calls : List Call) :
    ∃ baseline,
      (∀ s, ∃ row, (runCalls fresh calls).evaluation s = some row ∧ row.lastSampleId = baseline ∧
        (baseline ≠ none → row.lastHeartbeatAtUtcUs ≠ none)) ∧
      (∀ i ∈ baseline, ∃ r ∈ (runCalls fresh calls).samples.rows, r.id = i ∧
        ∃ checkpoint ∈ (runCalls fresh calls).checkpoint,
          ∃ last ∈ checkpoint.lastCommittedSequence, r.observationSequence ≤ last) ∧
      (baseline = none → ∀ F p, (ingestProjection F (runCalls fresh calls) p).2.applied = true →
        ∃ r ∈ (ingestProjection F (runCalls fresh calls) p).2.durable.samples.rows,
          Holds (ingestProjection F (runCalls fresh calls) p).2.durable.toTables r p) := by
  obtain ⟨c, rows, baseline, hcoherent⟩ := runCalls_coherent h calls
  generalize runCalls fresh calls = db at hcoherent
  have he := hcoherent.evaluators
  refine ⟨baseline, fun s => ⟨rows s, he.stored s, he.agree s, fun hb => he.heartbeat hb s⟩, ?_, ?_⟩
  · intro i hi
    have hexists := db.consistent.evaluationSample .overall (mem_alertScopes _) _
      (he.stored .overall)
    rw [he.agree] at hexists
    obtain ⟨r, hr, hid⟩ := hexists i hi
    obtain ⟨last, hlast, hle⟩ := hcoherent.covered r hr
    exact ⟨r, hr, hid, c.row, hcoherent.anchored.checkpoint, last, hlast, hle⟩
  · rintro rfl F p happlied
    rcases durable_ingestProjection F db p with ⟨hfalse, -⟩ | ⟨-, hp, outcome, hi⟩
    · exact absurd (happlied.symm.trans hfalse) (by decide)
    · obtain ⟨hbelow, d, transitions, m, sample, hstep, -⟩ := hi.accepted hcoherent hp
      exact hstep.stored_without_baseline hcoherent hp hbelow

theorem baseline_of_run_wled : ∃ fresh, createSchemaV1 0 = .ok fresh ∧
    ∃ baseline, ∀ s, ∃ row, (runCalls fresh
      [.ingest Faults.none (wledReport 1 5 .degraded .wledInfoTimeout),
        .cleanup Faults.none false 9000000000000 1]).evaluation s = some row ∧
      row.lastSampleId = baseline := by
  obtain ⟨fresh, hfresh⟩ : ∃ fresh, createSchemaV1 0 = .ok fresh := ⟨_, rfl⟩
  obtain ⟨baseline, hrows, -⟩ := baseline_of_run hfresh
    [.ingest Faults.none (wledReport 1 5 .degraded .wledInfoTimeout),
      .cleanup Faults.none false 9000000000000 1]
  refine ⟨fresh, hfresh, baseline, fun s => ?_⟩
  obtain ⟨row, hrow, hsample, -⟩ := hrows s
  exact ⟨row, hrow, hsample⟩

end Aurora.HealthHistory
