/-
  The writer and the readers.

  Only the ingest path writes rows, and five paths check them again: verification, the queries, the
  resume state, the next ingest and cleanup.  They accept every row of every run, on one condition:
  no alert is recovered at a time before its opening.  Without it a clock that is stepped back closes
  the store, as three reports at the end of this file do.
-/
import Aurora.Lib.Checks
import Aurora.HealthHistory.Converging
import Aurora.HealthHistory.Ordering
import Aurora.HealthHistory.Trusting
import Aurora.HealthHistory.Walking

namespace Aurora.HealthHistory

open Ingestion Maintenance Queries Script

/-! ## Verification -/

section Verification

variable {db : Database} {c : Checkpoint} {rows : EvaluationRows} {baseline : Option Int}

/-- A row that passed the constraints passes the reader. -/
theorem validCheckpointRow_of_check {r : IngestionCheckpointRow} (h : r.Check) :
    validCheckpointRow r := by
  obtain ⟨hsequence, hobserved, hdigest, hcount, hshape⟩ := h
  refine ⟨hcount, hshape.imp ?_ ?_⟩
  · rintro ⟨h₁, h₂, h₃, h₄, h₅⟩
    exact ⟨h₅, h₁, h₂, h₃, h₄⟩
  · rintro ⟨h₁, h₂, h₃, h₄, h₅⟩
    obtain ⟨t, ht⟩ := Option.ne_none_iff_exists'.mp h₁
    obtain ⟨d, hd⟩ := Option.ne_none_iff_exists'.mp h₂
    obtain ⟨n, hn⟩ := Option.ne_none_iff_exists'.mp h₅
    exact ⟨⟨n, hn, hsequence n hn⟩, ⟨t, ht, hobserved t ht⟩, ⟨d, hd, hdigest d hd⟩, h₃, h₄⟩

/-- An anchored ledger verifies with its checkpoint. -/
theorem Ingestion.Anchored.validReplayRows (h : Anchored db.toTables c) :
    HealthHistory.validReplayRows c.row (db.replay.rows.take (replayLedgerCapacity + 1)) := by
  have hlength := h.length
  rw [List.take_of_length_le (by omega)]
  refine ⟨hlength, ?_⟩
  cases hlatest : c.latest with
  | none =>
    rw [if_pos (by simp [Checkpoint.row, hlatest])]
    rcases (db.consistent.checkpointCheck _ h.checkpoint).2.2.2.2 with hnone | hsome
    · exact hnone.2.2.2.1
    · exact absurd (by simp [Checkpoint.row, hlatest]) hsome.1
  | some e =>
    rw [if_neg (by simp [Checkpoint.row, hlatest])]
    have hlast := h.latest
    rw [hlatest] at hlast
    obtain ⟨row, hrow, rfl⟩ := Option.map_eq_some_iff.mp hlast
    refine ⟨fun r hr => db.consistent.replayCheck r hr, row, hrow, ?_⟩
    simp [Checkpoint.row, hlatest, acceptedEntry]

theorem validEvaluationRow_of_check {s : AlertScope} {r : EvaluationStateRow} (h : r.Check s) :
    validEvaluationRow (s, r) = true := by
  obtain ⟨hcount, hsample, hheartbeat, hcooldown, hshape⟩ := id h
  have hpositive : ∀ i ∈ r.lastSampleId, 1 ≤ i := hsample
  unfold validEvaluationRow
  simp only [Bool.and_eq_true, decide_eq_true_eq]
  refine ⟨⟨⟨⟨hcount, hpositive⟩, hheartbeat⟩, hcooldown⟩, ?_⟩
  rcases hshape with ⟨rfl, hnone⟩ | ⟨hs, hgap, -⟩
  · rw [if_pos rfl]
    exact decide_eq_true hnone
  · obtain ⟨state, hstate⟩ := newState_of_check hs h
    rw [if_neg hs, hgap, hstate]
    rfl

/-- All evaluation rows pass the reader together. -/
theorem Ingestion.Evaluators.validEvaluationRows (h : Evaluators db.toTables rows baseline) :
    HealthHistory.validEvaluationRows ((selectEvaluationRows db).take (alertScopes.length + 1)) =
      true := by
  have hselect : selectEvaluationRows db = scopesByText.map fun s => (s, rows s) := by
    unfold selectEvaluationRows
    simp only [h.stored, Option.map_some]
    rfl
  have hall : (scopesByText.map fun s => (s, rows s)).all validEvaluationRow = true := by
    rw [List.all_eq_true]
    intro entry hentry
    obtain ⟨s, -, rfl⟩ := List.mem_map.mp hentry
    exact validEvaluationRow_of_check
      (db.consistent.evaluationCheck s (mem_alertScopes s) _ (h.stored s))
  rw [hselect]
  unfold HealthHistory.validEvaluationRows
  rw [show (scopesByText.map fun s => (s, rows s)).take (alertScopes.length + 1) =
    scopesByText.map fun s => (s, rows s) from rfl, hall]
  rfl

/-- The schema that was created is the one that is verified. -/
theorem verifyObjects_ok : verifyObjects schemaObjects = .ok () := by
  have hnames : (schemaObjects.map fun o => (o.type, o.name)).Nodup := by decide +kernel
  have htake : schemaObjects.take (maxSchemaObjects + 1) = schemaObjects := rfl
  unfold verifyObjects
  rw [htake]
  refine require_bind_eq_ok.mpr ⟨by decide, require_bind_eq_ok.mpr ⟨⟨?_, ?_⟩, require_pos ?_⟩⟩
  · exact fun o ho => ⟨o, ho, rfl⟩
  · exact fun e he => ⟨e, he, rfl⟩
  · intro e he o ho heq
    rw [List.inj_on_of_nodup_map hnames he ho heq]

/-- The database keeps its foreign keys by construction. -/
theorem Database.foreignKeysHold (db : Database) : HealthHistory.foreignKeysHold db.toTables :=
  ⟨db.consistent.componentSample, fun r hr => ⟨db.consistent.alertFirstSample r hr,
    db.consistent.alertLatestSample r hr⟩, db.consistent.evaluationSample,
    fun r hr => ⟨db.consistent.eventAlert r hr, db.consistent.eventSample r hr⟩⟩

end Verification

/-! ## Agreement -/

/-- What the writer keeps up for its readers. -/
structure Agreed (db : Database) : Prop where
  coherent : Coherent db
  ordered : AlertsOrdered db
  identity : db.identity = ⟨applicationId, schemaVersion, autoVacuumIncremental, 1, schemaObjects⟩
  migrated : ∃ row, db.migrations.rows = [row] ∧ row.version = schemaVersion

namespace Agreed

variable {db : Database}

/-- What agrees with the schema can be read. -/
theorem legible (h : Agreed db) : Legible db.toTables := by
  obtain ⟨c, rows, baseline, hc⟩ := h.coherent
  exact ⟨hc.history, hc.live, fun r hr => (h.ordered r hr).times,
    fun r hr => (h.ordered r hr).samples⟩

/-- What agrees with the schema passes its verification. -/
theorem verified (h : Agreed db) : verifySchemaV1 db = .ok () := by
  obtain ⟨c, rows, baseline, hc⟩ := h.coherent
  obtain ⟨row, hrow, hversion⟩ := h.migrated
  have hmigrations : verifyMigrations (db.migrations.rows.take 2) = .ok () := by
    have happlied : Bounded maxTimestampUs row.appliedAtUtcUs :=
      (db.consistent.migrationCheck row (by rw [hrow]; exact List.mem_singleton_self row)).2
    rw [hrow]
    exact require_pos ⟨hversion, happlied⟩
  have hcheckpoint : verifyCheckpoint db = .ok () := by
    unfold verifyCheckpoint
    rw [hc.anchored.checkpoint]
    exact require_bind_eq_ok.mpr ⟨validCheckpointRow_of_check
      (db.consistent.checkpointCheck _ hc.anchored.checkpoint),
      require_pos hc.anchored.validReplayRows⟩
  unfold verifySchemaV1
  rw [h.identity]
  refine require_bind_eq_ok.mpr ⟨rfl, require_bind_eq_ok.mpr ⟨rfl, require_bind_eq_ok.mpr ⟨rfl,
    require_bind_eq_ok.mpr ⟨rfl, ?_⟩⟩⟩⟩
  rw [verifyObjects_ok, ok_bind, hmigrations, ok_bind, hcheckpoint, ok_bind]
  exact require_bind_eq_ok.mpr ⟨hc.evaluators.validEvaluationRows,
    require_pos db.foreignKeysHold⟩

/-- The resume state is read. -/
theorem resumed (h : Agreed db) : ∃ s, (getSchedulerResumeState Faults.none db).1 = .ok s := by
  obtain ⟨c, rows, baseline, hc⟩ := h.coherent
  have hanchored := hc.anchored.anchoredCheckpoint
  unfold anchoredCheckpoint at hanchored
  obtain ⟨c', hdecode, hrest⟩ := bind_eq_ok.mp hanchored
  obtain ⟨⟨⟩, hanchor, hc'⟩ := bind_eq_ok.mp hrest
  obtain rfl := Except.ok.inj hc'
  have hread : (mapError ingestionMalformed (do
      let checkpoint ← readCheckpoint
      validateReplayAnchor checkpoint
      return checkpoint)).run db = .ok (c', db) := by
    unfold readCheckpoint validateReplayAnchor attempt select
    simp only [run_mapError, Script.run_bind, Script.run_read, Script.run_ofExcept, hdecode, hanchor,
      map_ok, Script.run_pure]
    rfl
  have hcheck : (resumeState c').check = .ok () := by
    obtain ⟨hsequence, hobserved, -, hcount, hshape⟩ :=
      db.consistent.checkpointCheck _ hc.anchored.checkpoint
    refine require_bind_eq_ok.mpr ⟨hcount, require_pos (hshape.imp ?_ ?_)⟩
    · rintro ⟨h₁, -, h₃, h₄, h₅⟩
      exact ⟨h₅, h₁, h₃, h₄⟩
    · rintro ⟨h₁, -, h₃, h₄, h₅⟩
      obtain ⟨t, ht⟩ := Option.ne_none_iff_exists'.mp h₁
      obtain ⟨n, hn⟩ := Option.ne_none_iff_exists'.mp h₅
      exact ⟨⟨n, hn, hsequence n hn⟩, ⟨t, ht, hobserved t ht⟩, h₃, h₄⟩
  have hresume : readSchedulerResumeState.run db = .ok (resumeState c', db) := by
    unfold readSchedulerResumeState attempt
    rw [run_bind_ok hread, hcheck]
    rfl
  exact ⟨resumeState c', checkedQuery_none hresume⟩

end Agreed

/-! ## Trust -/

/-- The call may fail, but not with its trust in the store. -/
def Kept {ε α : Type} (trustLost : ε → Bool) (result : Except ε α) : Prop :=
  ∀ e, result = .error e → trustLost e = false

theorem kept_ok {ε α : Type} {trustLost : ε → Bool} {a : α} {result : Except ε α}
    (h : result = .ok a) : Kept trustLost result := fun _ he => nomatch h.symm.trans he

/-- An error that is none of trust keeps the trust. -/
theorem kept_error {ε α : Type} {trustLost : ε → Bool} {e : ε} {result : Except ε α}
    (h : result = .error e) (htrust : trustLost e = false) : Kept trustLost result := by
  intro e' he'
  rwa [← Except.error.inj (h.symm.trans he')]

/-- The projection of a health report. -/
def Produced (p : HealthProjection) : Prop :=
  ∃ (fromisoformat : String → Option Datetime) (report : HealthReport) (sequence : Int)
    (recordedAt : Datetime) (kind : SampleKind) (missed : Int),
    projectHealthReport fromisoformat report sequence recordedAt kind missed = .ok p

/-- Every path that checks the stored rows accepts them. -/
structure Trusted (db : Database) : Prop where
  schema : verifySchemaV1 db = .ok ()
  samples : ∀ pageSize cursor status,
    Kept QueryError.trustLost (listHealthSamples Faults.none db pageSize cursor status).1
  alerts : ∀ pageSize cursor lifecycle,
    Kept QueryError.trustLost (listAlerts Faults.none db pageSize cursor lifecycle).1
  alert : ∀ alertId, Kept QueryError.trustLost (getAlert Faults.none db alertId).1
  events : ∀ alertId pageSize cursor,
    Kept QueryError.trustLost (listAlertEvents Faults.none db alertId pageSize cursor).1
  resume : Kept QueryError.trustLost (getSchedulerResumeState Faults.none db).1
  ingest : ∀ p, Produced p → Kept IngestionError.trustLost (ingest db p).1
  cleanup : ∀ nowUtcUs days, Kept MaintenanceError.trustLost (cleanup db nowUtcUs days).1

namespace Agreed

variable {db : Database}

/-- A list that is served keeps the trust, whatever the cursor. -/
theorem kept_list {ρ τ : Type} {list : Database → Int → Option Cursor → Except QueryError (Page τ)}
    {before : Int × Int → Int × Int → Prop} [DecidableRel before] {listed : Database → List ρ}
    {record : ρ → Transaction τ} {position : ρ → Int × Int} {key : τ → Int × Int}
    (hserves : Serves list before listed record position key db) {pageSize : Int}
    {cursor : Option Cursor} (hinvalid : ¬Positive 100 pageSize →
      Kept QueryError.trustLost (list db pageSize cursor)) :
    Kept QueryError.trustLost (list db pageSize cursor) := by
  obtain ⟨_, -, -, hpages⟩ := hserves
  by_cases hsize : Positive 100 pageSize
  · obtain ⟨page, hpage, -⟩ := hpages pageSize cursor hsize
    exact kept_ok hpage
  · exact hinvalid hsize

theorem kept_invalid {α : Type} {check : Except Raised Unit} {reader : Transaction α}
    (h : check = .error (.query ⟨.invalidQuery, false⟩)) :
    Kept QueryError.trustLost (checkedQuery Faults.none db check reader).1 := by
  rw [h]
  exact kept_error rfl rfl

/-- An alert is found, or it is not there. -/
theorem run_findAlert (h : Agreed db) (alertId : Int) :
    (∃ r, db.alerts.find? alertId = some r ∧ (findAlert alertId).run db = .ok (r, db)) ∨
      (findAlert alertId).run db = .error (.query ⟨.notFound, false⟩) := by
  unfold findAlert select
  rw [Script.run_bind, Script.run_read]
  dsimp only
  cases hfind : db.alerts.find? alertId with
  | none => exact .inr rfl
  | some r => exact .inl ⟨r, rfl, h.legible.run_alertRecord (Table.find?_eq_some.mp hfind).1⟩

theorem kept_alert (h : Agreed db) (alertId : Int) :
    Kept QueryError.trustLost (getAlert Faults.none db alertId).1 := by
  unfold getAlert
  by_cases hid : Positive maxObservationSequence alertId
  · rw [show queryId alertId = .ok () from require_pos hid]
    rcases h.run_findAlert alertId with ⟨r, -, hrun⟩ | hrun
    · exact kept_ok (checkedQuery_none hrun)
    · exact kept_error (checkedQuery_error hrun) rfl
  · exact kept_invalid (require_neg hid)

/-- Listing an alert's events keeps the trust. -/
theorem kept_events (h : Agreed db) (alertId pageSize : Int) (cursor : Option Cursor) :
    Kept QueryError.trustLost (listAlertEvents Faults.none db alertId pageSize cursor).1 := by
  have hcheck : ∀ hsize : ¬Positive maxAlertEventPageSize pageSize,
      (do queryId alertId; pageSize? pageSize maxAlertEventPageSize) =
        (.error (.query ⟨.invalidQuery, false⟩) : Except Raised Unit) := by
    intro hsize
    by_cases hid : Positive maxObservationSequence alertId
    · rw [show queryId alertId = .ok () from require_pos hid, ok_bind]
      exact require_neg hsize
    · rw [show queryId alertId = .error _ from require_neg hid]
      rfl
  rcases h.run_findAlert alertId with ⟨r, hfind, -⟩ | hrun
  · exact kept_list (h.legible.readable.serves_events (Table.has_iff.mpr ⟨r, hfind⟩)) fun hsize =>
      kept_invalid (hcheck hsize)
  · unfold listAlertEvents
    by_cases hsize : Positive maxAlertEventPageSize pageSize
    · by_cases hid : Positive maxObservationSequence alertId
      · rw [show queryId alertId = .ok () from require_pos hid, ok_bind,
          show pageSize? pageSize maxAlertEventPageSize = .ok () from require_pos hsize]
        refine kept_error (checkedQuery_error (e := .query ⟨.notFound, false⟩) ?_) rfl
        unfold readAlertEvents
        rw [Script.run_bind, hrun]
      · rw [show queryId alertId = .error _ from require_neg hid]
        exact kept_invalid rfl
    · exact kept_invalid (hcheck hsize)

/-- A projected observation is ingested, or refused with trust kept. -/
theorem kept_ingest (h : Agreed db) {p : HealthProjection} (hp : Produced p) :
    Kept IngestionError.trustLost (ingest db p).1 := by
  obtain ⟨iso, report, sequence, recordedAt, kind, missed, hproject⟩ := hp
  obtain ⟨hvalid, hadmissible⟩ := projectHealthReport_eq_ok hproject
  obtain ⟨c, rows, baseline, hc⟩ := h.coherent
  by_cases hbelow : c.Below p.observationSequence
  · rcases hc.ingest_new hvalid hbelow with ⟨outcome, db', -, -, heq⟩ | ⟨e, he, -, -, heq⟩
    · exact kept_ok (congrArg Prod.fst heq)
    · refine kept_error (congrArg Prod.fst heq) ?_
      cases he with
      | full => rfl
      | exhausted => rfl
      | contradiction hcontradictory => exact absurd hcontradictory hadmissible.not_contradictory
  · have hhonoured := hc.honoured_of_old hvalid hbelow
    generalize ingest db p = exit at hhonoured
    cases hhonoured with
    | committed => exact kept_ok rfl
    | duplicate => exact kept_ok rfl
    | rejected e he => exact kept_error rfl he

theorem kept_cleanup (h : Agreed db) (nowUtcUs days : Int) :
    Kept MaintenanceError.trustLost (cleanup db nowUtcUs days).1 := by
  cases hcutoff : retentionCutoff nowUtcUs days with
  | ok cutoff => exact kept_ok (congrArg Prod.fst (h.legible.readable.cleanup_eq hcutoff))
  | error e =>
    have hinvalid : (cleanup db nowUtcUs days).1 = .error e := by
      unfold cleanup cleanupRetention
      rw [hcutoff]
    refine kept_error hinvalid ?_
    unfold retentionCutoff at hcutoff
    split at hcutoff
    · split at hcutoff
      · cases hcutoff
      · obtain rfl := Except.error.inj hcutoff
        rfl
    · obtain rfl := Except.error.inj hcutoff
      rfl

/-- What agrees with the schema can be trusted. -/
theorem trusted (h : Agreed db) : Trusted db where
  schema := h.verified
  samples := fun pageSize cursor status =>
    kept_list (h.legible.readable.serves_samples status) fun hsize => kept_invalid (require_neg hsize)
  alerts := fun pageSize cursor lifecycle =>
    kept_list (h.legible.readable.serves_alerts lifecycle) fun hsize =>
      kept_invalid (require_neg hsize)
  alert := h.kept_alert
  events := h.kept_events
  resume := by
    obtain ⟨s, hs⟩ := h.resumed
    exact kept_ok hs
  ingest := fun _ hp => h.kept_ingest hp
  cleanup := h.kept_cleanup

end Agreed

/-! ## Runs -/

/-- A new observation recovers no alert at a time before its opening. -/
def Call.InOrder (db : Database) : Call → Prop
  | .ingest _ projection => IsNew db projection → RecoversInOrder db projection
  | .cleanup .. => True

/-- Every call of a run is in order where it is made. -/
def InOrder : Database → List Call → Prop
  | _, [] => True
  | db, call :: calls => call.InOrder db ∧ InOrder (call.durable db) calls

/-- A database with a fresh schema. -/
theorem agreed_fresh {appliedAt : Int} {fresh : Database}
    (h : createSchemaV1 appliedAt = .ok fresh) : Agreed fresh := by
  obtain ⟨htables, hidentity⟩ := createSchemaV1_eq_ok h
  refine ⟨runCalls_coherent h [], ?_, hidentity, ?_⟩
  · intro r hr
    rw [htables] at hr
    exact absurd hr List.not_mem_nil
  · rw [htables]
    exact ⟨_, rfl, rfl⟩

/-- Deletions leave the identity and the migrations alone. -/
theorem withoutAll_frame (actions : List DeletionAction) (db : Database) :
    (db.withoutAll actions).identity = db.identity ∧
      (db.withoutAll actions).migrations = db.migrations := by
  induction actions generalizing db with
  | nil => exact ⟨rfl, rfl⟩
  | cons action actions ih =>
    have hstep : (db.without action).migrations = db.migrations := by cases action <;> rfl
    exact ⟨(ih _).1, (ih _).2.trans hstep⟩

/-- A call in order keeps the agreement. -/
theorem Agreed.durable {db : Database} (h : Agreed db) : ∀ {call : Call}, call.InOrder db →
    Agreed (call.durable db)
  | .ingest F projection, hinorder => by
    show Agreed (ingestProjection F db projection).2.durable
    rcases durable_ingestProjection F db projection with ⟨-, hsame⟩ | ⟨-, hp, outcome, hi⟩
    · rw [hsame]
      exact h
    · obtain ⟨c, rows, baseline, hc⟩ := h.coherent
      obtain ⟨hbelow, d, transitions, m, sample, haccepted, -⟩ := hi.accepted hc hp
      exact ⟨hi.coherent h.coherent hp,
        hi.ordered h.coherent hp h.ordered (hinorder (hc.isNew_iff.mpr hbelow)),
        haccepted.identity.trans h.identity, by rw [haccepted.migrations]; exact h.migrated⟩
  | .cleanup F expired nowUtcUs retentionDays, _ => by
    have hcoherent := h.coherent.durable (.cleanup F expired nowUtcUs retentionDays)
    show Agreed (cleanupRetention F expired db nowUtcUs retentionDays).2.durable
    change Coherent (cleanupRetention F expired db nowUtcUs retentionDays).2.durable at hcoherent
    rcases durable_cleanupRetention F expired db nowUtcUs retentionDays with hsame | ⟨plan, hplan⟩
    · rw [hsame]
      exact h
    · rw [hplan] at hcoherent ⊢
      obtain ⟨hidentity, hmigrations⟩ := withoutAll_frame plan db
      exact ⟨hcoherent, h.ordered.withoutAll plan, hidentity.trans h.identity,
        by rw [hmigrations]; exact h.migrated⟩

/-- Every state of a run in order is trusted by every path that reads it. -/
theorem trusted_of_run {appliedAt : Int} {fresh : Database}
    (h : createSchemaV1 appliedAt = .ok fresh) {calls : List Call} (hcalls : InOrder fresh calls) :
    Trusted (runCalls fresh calls) := by
  refine Agreed.trusted ?_
  have hagreed := agreed_fresh h
  clear h
  induction calls generalizing fresh with
  | nil => exact hagreed
  | cons call calls ih => exact ih hcalls.2 (hagreed.durable hcalls.1)

/-! ### A clock that goes on -/

/-- Every alert there is was opened no later than the call records. -/
def Call.recordedLate (db : Database) : Call → Bool
  | .ingest _ projection => db.alerts.rows.all fun r => r.openedAtUtcUs ≤ projection.recordedAtUtcUs
  | .cleanup .. => true

/-- Every call of a run records no earlier than the openings before it. -/
def recordedLate : Database → List Call → Bool
  | _, [] => true
  | db, call :: calls => call.recordedLate db && recordedLate (call.durable db) calls

/-- The order of a run can be checked by computation. -/
theorem inOrder_of_recordedLate {calls : List Call} {db : Database}
    (h : recordedLate db calls = true) : InOrder db calls := by
  induction calls generalizing db with
  | nil => trivial
  | cons call calls ih =>
    obtain ⟨hcall, hcalls⟩ := Bool.and_eq_true_iff.mp h
    refine ⟨?_, ih hcalls⟩
    cases call with
    | ingest F projection =>
      intro _ r hr _ _
      exact of_decide_eq_true (List.all_eq_true.mp hcall r hr)
    | cleanup => trivial

/-- A report of four collectors that failed. -/
def failedReport : HealthReport where
  schemaVersion := some 1
  status := some .unavailable
  checkedAt := some "1970-01-01T00:00:00+00:00"
  serviceUptimeSeconds := some (.int 0)
  components := some (componentOrder.map fun name => {
    name := name.value
    status := some .unavailable
    checkedAt := some "1970-01-01T00:00:00+00:00"
    latencyMs := some (.int 0)
    details := some [("reason_code", .str "collector_failed")]
    lastSuccessfulAt := none })

/-- Reports of failed collectors: the sequence, when each is recorded, and what it missed. -/
def timedReports (times : List (Int × Int × Int)) :
    Except ProjectionFailure (List HealthProjection) :=
  times.mapM fun (sequence, at_, missed) =>
    projectHealthReport (fun _ => some (.aware (some 0))) failedReport sequence
      (.aware (some at_)) .transition missed

/-- Two missed intervals at 1000 µs, then two observations on time at 2000 µs and at 3000 µs. -/
def inTime : Except ProjectionFailure (List HealthProjection) :=
  timedReports [(1, 1000, 2), (2, 2000, 0), (3, 3000, 0)]

/-- The gap opens at 1000 µs and recovers at 3000 µs, and every path reads on. -/
theorem trusted_of_run_in_time : ∃ projections fresh, inTime = .ok projections ∧
    createSchemaV1 0 = .ok fresh ∧
    (∃ r ∈ (runCalls fresh (projections.map (.ingest Faults.none))).alerts.rows,
      r.scope = .sampling ∧ r.openedAtUtcUs = 1000 ∧ r.recoveredAtUtcUs = some 3000) ∧
    Trusted (runCalls fresh (projections.map (.ingest Faults.none))) := by
  have hruns : (inTime.toOption.any fun projections => (createSchemaV1 0).toOption.any fun fresh =>
      recordedLate fresh (projections.map (.ingest Faults.none)) &&
        (runCalls fresh (projections.map (.ingest Faults.none))).alerts.rows.any fun r =>
          decide (r.scope = .sampling ∧ r.openedAtUtcUs = 1000 ∧
            r.recoveredAtUtcUs = some 3000)) = true := by decide +kernel
  obtain ⟨projections, hprojections, hruns⟩ := (Option.any_eq_true ..).mp hruns
  obtain ⟨fresh, hfresh, hruns⟩ := (Option.any_eq_true ..).mp hruns
  obtain ⟨hlate, hrecovered⟩ := Bool.and_eq_true_iff.mp hruns
  obtain ⟨r, hr, hrow⟩ := List.any_eq_true.mp hrecovered
  have hfresh := toOption_eq_some.mp hfresh
  exact ⟨projections, fresh, toOption_eq_some.mp hprojections, hfresh,
    ⟨r, hr, of_decide_eq_true hrow⟩, trusted_of_run hfresh (inOrder_of_recordedLate hlate)⟩

/-! ## A clock stepped back -/

/-- Two missed intervals at 1000 µs, then two observations on time at 20 µs and at 10 µs. -/
def steppedBack : Except ProjectionFailure (List HealthProjection) :=
  timedReports [(1, 1000, 2), (2, 20, 0), (3, 10, 0)]

/-- What listing the alerts reports, if it fails. -/
def alertsFailure (db : Database) : Option QueryError :=
  match (listAlerts Faults.none db 100 none none).1 with
  | .ok _ => none
  | .error e => some e

/-- Three projected reports in sequence: the gap opens at 1000 µs and recovers at 10 µs, and the
    alerts cannot be read again. -/
theorem stepped_back_not_trusted : ∃ projections fresh, steppedBack = .ok projections ∧
    createSchemaV1 0 = .ok fresh ∧
    projections.map HealthProjection.observationSequence = [1, 2, 3] ∧
    alertsFailure (runCalls fresh (projections.map (.ingest Faults.none))) =
      some .malformed ∧
    ¬Trusted (runCalls fresh (projections.map (.ingest Faults.none))) := by
  have hruns : (steppedBack.toOption.any fun projections =>
      (createSchemaV1 0).toOption.any fun fresh =>
        decide (projections.map HealthProjection.observationSequence = [1, 2, 3] ∧
          alertsFailure (runCalls fresh (projections.map (.ingest Faults.none))) =
            some .malformed)) = true := by decide +kernel
  obtain ⟨projections, hprojections, hruns⟩ := (Option.any_eq_true ..).mp hruns
  obtain ⟨fresh, hfresh, hruns⟩ := (Option.any_eq_true ..).mp hruns
  obtain ⟨hsequences, hfails⟩ := of_decide_eq_true hruns
  refine ⟨projections, fresh, toOption_eq_some.mp hprojections, toOption_eq_some.mp hfresh,
    hsequences, hfails, fun htrusted => ?_⟩
  unfold alertsFailure at hfails
  split at hfails
  · cases hfails
  · rename_i e he
    obtain rfl := Option.some.inj hfails
    exact absurd (htrusted.alerts 100 none none _ he) (by decide)

end Aurora.HealthHistory
