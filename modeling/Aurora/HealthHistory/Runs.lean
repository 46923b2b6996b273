/-
  Runs of the store.

  A run is any sequence of ingests and cleanups, each on a connection of its own and under faults of
  its own.  Nothing is carried from one call to the next but the durable tables, so reopening the
  store between two calls makes no difference.  `Journal` is the view of a run of ingests alone: the
  database, and the observations whose COMMIT took effect.
-/
import Aurora.HealthHistory.Retaining
import Aurora.HealthHistory.SchemaVerification

namespace Aurora.HealthHistory

open Ingestion Maintenance Script

/-! ## Coherent databases -/

/-- Everything the ingest path relies on holds. -/
def Coherent (db : Database) : Prop := ∃ c rows baseline, CoherentAt db.toTables c rows baseline

theorem createSchemaV1_eq_ok {appliedAt : Int} {db : Database}
    (h : createSchemaV1 appliedAt = .ok db) :
    db.toTables = freshTables appliedAt ∧
      db.identity = ⟨applicationId, schemaVersion, autoVacuumIncremental, 1, schemaObjects⟩ := by
  unfold createSchemaV1 at h
  split at h
  · obtain rfl := Except.ok.inj h
    exact ⟨rfl, rfl⟩
  · cases h

/-- The checkpoint of a database that has accepted nothing. -/
def Ingestion.Checkpoint.fresh : Checkpoint := ⟨none, 0⟩

theorem freshTables_coherent (appliedAt : Int) :
    CoherentAt (freshTables appliedAt) .fresh (fun _ => freshEvaluationRow) none where
  anchored := ⟨rfl, rfl, rfl⟩
  evaluators := ⟨fun _ => rfl, fun _ => rfl, fun h => absurd rfl h⟩
  history := ⟨fun _ hr => absurd hr List.not_mem_nil, List.Pairwise.nil,
    fun _ hr => absurd hr List.not_mem_nil⟩
  covered := fun _ hr => absurd hr List.not_mem_nil
  live := ⟨fun _ hr => absurd hr List.not_mem_nil, List.Pairwise.nil,
    fun _ hr => absurd hr List.not_mem_nil⟩

/-- A complete ingest of a coherent database is an accepted step. -/
theorem Ingestion.Ingests.accepted {db db' : Database} {c : Checkpoint} {rows : EvaluationRows}
    {baseline : Option Int} {p : HealthProjection} {outcome : IngestionOutcome}
    (hi : Ingests db p outcome db') (h : CoherentAt db.toTables c rows baseline) (hp : p.Valid) :
    c.Below p.observationSequence ∧ ∃ d transitions m sample,
      Accepted db c rows baseline p d transitions m sample db' ∧ outcome = d.storage.outcome := by
  obtain ⟨checkpoint, hclass, hrun⟩ := hi
  obtain ⟨hanchored, hbelow⟩ := classification_false.mp hclass
  obtain rfl := h.anchored.unique hanchored
  exact ⟨hbelow, (post_ingestAccepted h hp hbelow).returned hrun⟩

theorem Ingestion.Ingests.coherent {db db' : Database} {p : HealthProjection}
    {outcome : IngestionOutcome} (hi : Ingests db p outcome db') (h : Coherent db) (hp : p.Valid) :
    Coherent db' := by
  obtain ⟨c, rows, baseline, h⟩ := h
  obtain ⟨hbelow, d, transitions, m, sample, haccepted, -⟩ := hi.accepted h hp
  exact ⟨_, _, _, haccepted.coherent h hp hbelow⟩

/-! ## Calls -/

/-- A call that writes. -/
inductive Call
  | ingest (F : SqliteFaults) (projection : HealthProjection)
  | cleanup (F : SqliteFaults) (expired : Bool) (nowUtcUs retentionDays : Int)

/-- What is durable after the call. -/
def Call.durable (db : Database) : Call → Database
  | ingest F projection => (ingestProjection F db projection).2.durable
  | cleanup F expired nowUtcUs retentionDays =>
    (cleanupRetention F expired db nowUtcUs retentionDays).2.durable

/-- The database after a sequence of calls. -/
def runCalls (db : Database) (calls : List Call) : Database := calls.foldl Call.durable db

/-- What holds at the start and after every call from a state where it holds, holds after a run. -/
theorem runCalls_invariant {I : Database → Prop} {db : Database} (h : I db)
    (hstep : ∀ m call, I m → I (Call.durable m call)) (calls : List Call) : I (runCalls db calls) :=
  List.foldlRecOn calls Call.durable h fun m hm call _ => hstep m call hm

/-- Every call keeps the database coherent. -/
theorem Coherent.durable {db : Database} (h : Coherent db) : ∀ call, Coherent (Call.durable db call)
  | .ingest F projection => by
    show Coherent (ingestProjection F db projection).2.durable
    rcases durable_ingestProjection F db projection with ⟨-, hsame⟩ | ⟨-, hp, outcome, hi⟩
    · rw [hsame]
      exact h
    · exact hi.coherent h hp
  | .cleanup F expired nowUtcUs retentionDays => by
    show Coherent (cleanupRetention F expired db nowUtcUs retentionDays).2.durable
    rcases durable_cleanupRetention F expired db nowUtcUs retentionDays with hsame | ⟨plan, hplan⟩
    · rw [hsame]
      exact h
    · obtain ⟨c, rows, baseline, hc⟩ := h
      rw [hplan]
      exact ⟨c, hc.withoutAll plan⟩

/-- Every state a run from the fresh schema reaches is coherent. -/
theorem runCalls_coherent {appliedAt : Int} {fresh : Database}
    (h : createSchemaV1 appliedAt = .ok fresh) (calls : List Call) :
    Coherent (runCalls fresh calls) := by
  refine runCalls_invariant (I := Coherent) ?_ (fun m call hm => hm.durable call) calls
  refine ⟨.fresh, fun _ => freshEvaluationRow, none, ?_⟩
  rw [(createSchemaV1_eq_ok h).1]
  exact freshTables_coherent appliedAt

/-! ## Runs of ingests -/

/-- One submission: the observation, and the faults its call meets. -/
abbrev Submission := SqliteFaults × HealthProjection

/-- The database, and everything it has accepted. -/
structure Journal where
  database : Database
  accepted : List HealthProjection

/-- One ingest; the observation is accepted when its COMMIT took effect. -/
def Journal.ingest (j : Journal) (s : Submission) : Journal where
  database := (ingestProjection s.1 j.database s.2).2.durable
  accepted := j.accepted ++
    if (ingestProjection s.1 j.database s.2).2.applied then [s.2] else []

/-- The journal of a run of ingests. -/
def Journal.run (j : Journal) (submissions : List Submission) : Journal :=
  submissions.foldl Journal.ingest j

/-- The journal of a database nothing has been ingested into. -/
def Journal.start (db : Database) : Journal := ⟨db, []⟩

/-- A journal that starts fresh is a run of calls. -/
theorem Journal.run_database (j : Journal) (submissions : List Submission) :
    (j.run submissions).database =
      runCalls j.database (submissions.map fun s => .ingest s.1 s.2) := by
  unfold Journal.run runCalls
  induction submissions generalizing j with
  | nil => rfl
  | cons s rest ih => exact ih (j.ingest s)

/-- A submission leaves the journal alone, or it is accepted and completely ingested. -/
theorem Journal.ingest_cases (j : Journal) (s : Submission) :
    j.ingest s = j ∨ s.2.Valid ∧ (j.ingest s).accepted = j.accepted ++ [s.2] ∧
      ∃ outcome, Ingests j.database s.2 outcome (j.ingest s).database := by
  unfold Journal.ingest
  rcases durable_ingestProjection s.1 j.database s.2 with ⟨happlied, hsame⟩ | ⟨happlied, hp, hi⟩
  · left
    rw [happlied, hsame, if_neg (by decide), List.append_nil]
  · right
    rw [happlied, if_pos rfl]
    exact ⟨hp, rfl, hi⟩

/-- What holds of a journal and is kept by every accepted step, holds after a run. -/
theorem Journal.run_invariant {I : Journal → Prop} {j : Journal} (h : I j)
    (hstep : ∀ m m' p outcome, I m → p.Valid → m'.accepted = m.accepted ++ [p] →
      Ingests m.database p outcome m'.database → I m') (submissions : List Submission) :
    I (j.run submissions) := by
  refine List.foldlRecOn submissions Journal.ingest h fun m hm s _ => ?_
  rcases m.ingest_cases s with hsame | ⟨hp, haccepted, outcome, hi⟩
  · exact hsame.symm ▸ hm
  · exact hstep m _ s.2 outcome hm hp haccepted hi

/-! ## Reports to run on -/

/-- The projection under its own digest. -/
def HealthProjection.digested (p : HealthProjection) : HealthProjection :=
  { p with digest := sha256 p.canonical }

/-- A report that finds WLED in some state and everything else healthy. -/
def wledReport (sequence recordedAt : Int) (status : HealthHistoryStatus)
    (reason : NormalizedReason) : HealthProjection :=
  HealthProjection.digested {
    schemaVersion := 1
    observationSequence := sequence
    observedAtUtcUs := recordedAt
    recordedAtUtcUs := recordedAt
    overallStatus := status
    serviceUptimeMs := 0
    sampleKind := .transition
    missedIntervals := 0
    components := [⟨.wled, status, [reason], recordedAt, 1, none⟩,
      ⟨.hyperhdr, .healthy, [.hyperhdrHealthy], recordedAt, 1, none⟩,
      ⟨.capture, .healthy, [.captureHealthy], recordedAt, 1, none⟩,
      ⟨.raspberryPi, .healthy, [.raspberryPiHealthy], recordedAt, 1, none⟩]
    digest := [] }

theorem wledReport_valid {sequence recordedAt : Int} {status : HealthHistoryStatus}
    {reason : NormalizedReason} (hsequence : Bounded maxObservationSequence sequence)
    (hrecorded : Bounded maxTimestampUs recordedAt) (hreason : reason.ofComponent .wled = true) :
    (wledReport sequence recordedAt status reason).Valid where
  schemaVersion := rfl
  sequence := hsequence
  observedAt := hrecorded
  recordedAt := hrecorded
  uptime := by
    show Bounded maxServiceUptimeMs 0
    decide
  missed := by
    show Bounded maxBoundedCounter 0
    decide
  order := rfl
  overall := by cases status <;> rfl
  digestLength := length_sha256 _
  components := by
    have hlatency : Bounded maxComponentLatencyMs 1 := by decide
    have hvalid : ∀ (name : ComponentName) (s : HealthHistoryStatus) (r : NormalizedReason),
        r.ofComponent name = true → 1 ≤ maximumReasons name →
        (⟨name, s, [r], recordedAt, 1, none⟩ : ComponentProjection).Valid := fun name s r hr hmax =>
      ⟨le_rfl, List.nodup_singleton r, hmax, fun x hx => by rw [List.mem_singleton.mp hx]; exact hr,
        hrecorded, hlatency, boundedOption_none _⟩
    intro c hc
    simp only [wledReport, HealthProjection.digested, List.mem_cons, List.not_mem_nil,
      or_false] at hc
    rcases hc with rfl | rfl | rfl | rfl
    · exact hvalid _ _ _ hreason (by decide)
    · exact hvalid _ _ _ (by decide +kernel) (by decide)
    · exact hvalid _ _ _ (by decide +kernel) (by decide)
    · exact hvalid _ _ _ (by decide +kernel) (by decide)
  digest := rfl

/-- A valid projection may be recorded at any time. -/
theorem HealthProjection.Valid.recordedAgain {p : HealthProjection} (h : p.Valid) {recordedAt : Int}
    (hrecorded : Bounded maxTimestampUs recordedAt) :
    { p with recordedAtUtcUs := recordedAt }.Valid where
  schemaVersion := h.schemaVersion
  sequence := h.sequence
  observedAt := h.observedAt
  recordedAt := hrecorded
  uptime := h.uptime
  missed := h.missed
  order := h.order
  overall := h.overall
  digestLength := h.digestLength
  components := h.components
  digest := h.digest

/-- A fresh store ingests the report. -/
theorem wledReport_applied {fresh : Database} (h : createSchemaV1 0 = .ok fresh) :
    (ingestProjection Faults.none fresh
      (wledReport 1 5 .degraded .wledInfoTimeout)).2.applied = true := by
  obtain rfl := Except.ok.inj h
  decide +kernel

theorem wledReport_accepted {fresh : Database} (h : createSchemaV1 0 = .ok fresh) :
    ((Journal.start fresh).ingest (Faults.none,
      wledReport 1 5 .degraded .wledInfoTimeout)).accepted =
      [wledReport 1 5 .degraded .wledInfoTimeout] := by
  simp only [Journal.ingest, Journal.start, wledReport_applied h, if_true, List.nil_append]

/-- WLED is degraded three times, healthy twice, and healthy again long after: the alerts open,
    recover and are archived.  The second report, which is folded into the first, is submitted
    twice. -/
def wledReports : List Submission :=
  [(Faults.none, wledReport 1 5 .degraded .wledInfoTimeout),
    (Faults.none, wledReport 2 6 .degraded .wledInfoTimeout),
    (Faults.none, { wledReport 2 6 .degraded .wledInfoTimeout with recordedAtUtcUs := 7 }),
    (Faults.none, wledReport 3 8 .degraded .wledInfoTimeout),
    (Faults.none, wledReport 4 9 .healthy .wledHealthy),
    (Faults.none, wledReport 5 10 .healthy .wledHealthy),
    (Faults.none, wledReport 6 10000000000000 .healthy .wledHealthy)]

theorem wledReports_valid : ∀ s ∈ wledReports, s.2.Valid := by
  have hdegraded : NormalizedReason.wledInfoTimeout.ofComponent .wled = true := by decide +kernel
  have hhealthy : NormalizedReason.wledHealthy.ofComponent .wled = true := by decide +kernel
  intro s hs
  simp only [wledReports, List.mem_cons, List.not_mem_nil, or_false] at hs
  rcases hs with rfl | rfl | rfl | rfl | rfl | rfl | rfl
  · exact wledReport_valid (by decide) (by decide) hdegraded
  · exact wledReport_valid (by decide) (by decide) hdegraded
  · exact (wledReport_valid (by decide) (by decide) hdegraded).recordedAgain (by decide)
  · exact wledReport_valid (by decide) (by decide) hdegraded
  · exact wledReport_valid (by decide) (by decide) hhealthy
  · exact wledReport_valid (by decide) (by decide) hhealthy
  · exact wledReport_valid (by decide) (by decide) hhealthy

/-- One ingest of an observation that is known to be valid. -/
def Journal.ingestValid (j : Journal) (s : Submission) : Journal :=
  let result := finishAttempt s.1 (ingestAttempt s.1 s.2 { durable := j.database })
  ⟨result.2.durable, j.accepted ++ if result.2.applied then [s.2] else []⟩

/-- A run of valid observations can be computed without checking them again. -/
theorem Journal.run_valid {submissions : List Submission} (h : ∀ s ∈ submissions, s.2.Valid)
    (j : Journal) : j.run submissions = submissions.foldl Journal.ingestValid j := by
  unfold Journal.run
  induction submissions generalizing j with
  | nil => rfl
  | cons s rest ih =>
    have hfirst : j.ingest s = j.ingestValid s := by
      unfold Journal.ingest Journal.ingestValid
      rw [ingestProjection_valid (h s List.mem_cons_self)]
    rw [List.foldl_cons, List.foldl_cons, hfirst]
    exact ih (fun x hx => h x (List.mem_cons_of_mem _ hx)) _

/-- The third degraded report opens the alerts of its two scopes. -/
theorem wledReports_opened {fresh : Database} (h : createSchemaV1 0 = .ok fresh) :
    (ingestProjection Faults.none ((Journal.start fresh).run (wledReports.take 3)).database
      (wledReport 3 8 .degraded .wledInfoTimeout)).2.applied = true ∧
    (ingestProjection Faults.none ((Journal.start fresh).run (wledReports.take 3)).database
      (wledReport 3 8 .degraded .wledInfoTimeout)).2.durable.alerts.rows.map AlertRow.lifecycle =
        [.open, .open] := by
  obtain rfl := Except.ok.inj h
  rw [Journal.run_valid fun s hs => wledReports_valid s (List.mem_of_mem_take hs),
    ingestProjection_valid (wledReport_valid (by decide) (by decide) (by decide +kernel))]
  decide +kernel

/-- All reports but the replay are accepted, the folded one has no sample of its own, and both
    alerts end in the archive. -/
theorem wledReports_archived {fresh : Database} (h : createSchemaV1 0 = .ok fresh) :
    ((Journal.start fresh).run wledReports).accepted = (wledReports.map Prod.snd).eraseIdx 2 ∧
    ((Journal.start fresh).run wledReports).database.samples.rows.map
      HealthSampleRow.observationSequence = [1, 3, 4, 5, 6] ∧
    ((Journal.start fresh).run wledReports).database.alerts.rows.map AlertRow.lifecycle =
      [.archived, .archived] := by
  obtain rfl := Except.ok.inj h
  rw [Journal.run_valid wledReports_valid]
  decide +kernel

end Aurora.HealthHistory
