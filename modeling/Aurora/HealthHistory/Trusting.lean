/-
  What one ingest call may report.

  Two promises with one exception each.  A call is atomic with one ROLLBACK, unless it is a replay
  whose ROLLBACK fails: that ROLLBACK stands inside the `try` block whose handler rolls back again.
  A call without faults does not lose trust, unless the new observation has a component that is
  healthy and switched off: validation admits it, and the evaluator's own input check refuses it.
-/
import Aurora.HealthHistory.Runs

namespace Aurora.HealthHistory

open Ingestion Script

/-! ## One ROLLBACK -/

/-- A call is atomic if and only if it is not a replay whose ROLLBACK fails. -/
theorem ingestProjection_atomic_iff (F : SqliteFaults) (db : Database) (p : HealthProjection) :
    Atomic db p (ingestProjection F db p) ↔ ¬ReplayRollbackFails F db p :=
  ⟨fun hatomic hfails => not_atomic_of_replayRollbackFails hfails hatomic,
    atomic_of_not_replayRollbackFails⟩

/-- Only the first ROLLBACK fails. -/
def firstRollbackFails : SqliteFaults :=
  { (Faults.none : SqliteFaults) with rollback := fun n => if n = 0 then some .full else none }

/-- A fresh store accepts a report; the same report again, with a failing ROLLBACK, is rolled back
    twice. -/
theorem replay_rolled_back_twice : ∃ fresh, createSchemaV1 0 = .ok fresh ∧
    let p := wledReport 1 5 .degraded .wledInfoTimeout
    let exit := ingestProjection firstRollbackFails (ingest fresh p).2 p
    exit.2.begun = true ∧ exit.2.committed = false ∧ exit.2.rollbacks = 2 ∧
      ¬Atomic (ingest fresh p).2 p exit := by
  obtain ⟨fresh, hfresh⟩ : ∃ fresh, createSchemaV1 0 = .ok fresh := ⟨_, rfl⟩
  refine ⟨fresh, hfresh, ?_⟩
  dsimp only
  obtain ⟨hbegun, hcommitted, htwo⟩ :
      (ingestProjection firstRollbackFails
        (ingest fresh (wledReport 1 5 .degraded .wledInfoTimeout)).2
        (wledReport 1 5 .degraded .wledInfoTimeout)).2.begun = true ∧
      (ingestProjection firstRollbackFails
        (ingest fresh (wledReport 1 5 .degraded .wledInfoTimeout)).2
        (wledReport 1 5 .degraded .wledInfoTimeout)).2.committed = false ∧
      (ingestProjection firstRollbackFails
        (ingest fresh (wledReport 1 5 .degraded .wledInfoTimeout)).2
        (wledReport 1 5 .degraded .wledInfoTimeout)).2.rollbacks = 2 := by
    obtain rfl := Except.ok.inj hfresh
    decide +kernel
  refine ⟨hbegun, hcommitted, htwo, fun hatomic => ?_⟩
  exact absurd (htwo.symm.trans (hatomic.rollback hbegun hcommitted)) (by decide)

/-! ## Trust -/

/-- SQLite has room for what the ingest of the observation writes. -/
def NoSqliteFault (db : Database) (p : HealthProjection) : Prop :=
  ∀ checkpoint, classification db p = .ok (checkpoint, false) →
    (ingestAccepted checkpoint p).run db ≠ .error (.sqlite .full)

/-- The observation is newer than the last committed one. -/
def IsNew (db : Database) (p : HealthProjection) : Prop :=
  ∀ row ∈ db.checkpoint, ∀ last ∈ row.lastCommittedSequence, last < p.observationSequence

/-- The ways a call may end: it commits, reports a duplicate, or rejects without losing trust. -/
inductive Honoured (db : Database) (p : HealthProjection) :
    Except IngestionError IngestionOutcome × Database → Prop
  | committed {outcome : IngestionOutcome} {db' : Database} (h : Ingests db p outcome db') :
      Honoured db p (.ok outcome, db')
  | duplicate (h : Replays db p) : Honoured db p (.ok .replayed, db)
  | rejected (e : IngestionError) (h : e.trustLost = false) : Honoured db p (.error e, db)

section

variable {db : Database} {p : HealthProjection}

theorem CoherentAt.isNew_iff {c : Checkpoint} {rows : EvaluationRows} {baseline : Option Int}
    (h : CoherentAt db.toTables c rows baseline) :
    IsNew db p ↔ c.Below p.observationSequence := by
  unfold IsNew
  rw [h.anchored.checkpoint]
  simp only [Option.mem_def, Option.some.injEq, forall_eq']
  rfl

/-- An old observation is a duplicate, or rejected with its trust kept. -/
theorem CoherentAt.honoured_of_old {c : Checkpoint} {rows : EvaluationRows} {baseline : Option Int}
    (h : CoherentAt db.toTables c rows baseline) (hp : p.Valid)
    (hold : ¬c.Below p.observationSequence) : Honoured db p (ingest db p) := by
  have hclass : classification db p =
      (matchReplayRow p (db.replay.find? p.observationSequence)).map fun replay => (c, replay) := by
    unfold classification
    rw [h.anchored.anchoredCheckpoint, ok_bind, if_neg hold]
    cases matchReplayRow p (db.replay.find? p.observationSequence) <;> rfl
  have hmatch : matchReplayRow p (db.replay.find? p.observationSequence) = .ok true ∨
      ∃ reason, matchReplayRow p (db.replay.find? p.observationSequence) =
        .error (.ingestion ⟨reason, false⟩) := by
    cases hfind : db.replay.find? p.observationSequence with
    | none => exact .inr ⟨_, rfl⟩
    | some row =>
      have hcheck := db.consistent.replayCheck row (Table.find?_eq_some.mp hfind).1
      unfold matchReplayRow
      dsimp only
      rw [replayEntry_of_check hcheck, ok_bind]
      split
      · exact .inl rfl
      · exact .inr ⟨_, rfl⟩
  rw [ingest_valid hp]
  unfold faultless
  rcases hmatch with hmatch | ⟨reason, hmatch⟩
  · rw [hmatch] at hclass
    have hreplays := classification_true.mp ⟨c, hclass⟩
    rw [hclass]
    exact .duplicate hreplays
  · rw [hclass, hmatch]
    exact .rejected _ rfl

/-- How the ingest of a new observation ends. -/
theorem CoherentAt.ingest_new {c : Checkpoint} {rows : EvaluationRows} {baseline : Option Int}
    (h : CoherentAt db.toTables c rows baseline) (hp : p.Valid)
    (hbelow : c.Below p.observationSequence) :
    (∃ outcome db', ¬p.Contradictory ∧ Ingests db p outcome db' ∧
      ingest db p = (.ok outcome, db')) ∨
    ∃ e, Refusal p e ∧ classification db p = .ok (c, false) ∧
      (ingestAccepted c p).run db = .error e ∧
      ingest db p = (.error (ingestionFailure e), db) := by
  have hclass : classification db p = .ok (c, false) :=
    classification_false.mpr ⟨h.anchored.anchoredCheckpoint, hbelow⟩
  have hpost := post_ingestAccepted h hp hbelow
  rw [ingest_valid hp]
  unfold faultless
  rw [hclass]
  dsimp only
  cases hrun : (ingestAccepted c p).run db with
  | error e => exact .inr ⟨e, hpost.raised hrun, rfl, rfl, rfl⟩
  | ok r =>
    obtain ⟨outcome, db'⟩ := r
    obtain ⟨d, transitions, m, sample, haccepted, -⟩ := hpost.returned hrun
    exact .inl ⟨outcome, db', haccepted.decided.fair, ⟨c, hclass, hrun⟩, rfl⟩

end

/-- In every reachable state, a valid projection is honoured if and only if it is not both new and
    contradictory. -/
theorem honoured_iff {appliedAt : Int} {fresh : Database} (h : createSchemaV1 appliedAt = .ok fresh)
    (calls : List Call) {p : HealthProjection} (hp : p.Valid)
    (hfault : NoSqliteFault (runCalls fresh calls) p) :
    Honoured (runCalls fresh calls) p (ingest (runCalls fresh calls) p) ↔
      ¬(IsNew (runCalls fresh calls) p ∧ p.Contradictory) := by
  generalize hdb : runCalls fresh calls = db at hfault ⊢
  obtain ⟨c, rows, baseline, hcoherent⟩ : Coherent db := hdb ▸ runCalls_coherent h calls
  rw [hcoherent.isNew_iff]
  by_cases hbelow : c.Below p.observationSequence
  · rcases hcoherent.ingest_new hp hbelow with ⟨outcome, db', hfair, hi, heq⟩ | ⟨e, he, hclass, hrun, heq⟩
    · rw [heq]
      exact iff_of_true (.committed hi) fun h => hfair h.2
    · rw [heq]
      cases he with
      | full => exact absurd hrun (hfault c hclass)
      | exhausted hfair => exact iff_of_true (.rejected _ rfl) fun h => hfair h.2
      | contradiction hcontradictory =>
        refine iff_of_false (fun hhonoured => ?_) (not_not.mpr ⟨hbelow, hcontradictory⟩)
        generalize hexit : ((.error (ingestionFailure (.value "inconsistent_disabled_status")), db) :
          Except IngestionError IngestionOutcome × Database) = exit at hhonoured
        cases hhonoured with
        | committed => cases hexit
        | duplicate => cases hexit
        | rejected e htrust =>
          cases hexit
          exact absurd htrust (by decide)
  · exact iff_of_true (hcoherent.honoured_of_old hp hbelow) fun h => hbelow h.1

theorem honoured_iff_wled : ∃ fresh, createSchemaV1 0 = .ok fresh ∧
    Honoured fresh (wledReport 1 5 .degraded .wledInfoTimeout)
      (ingest fresh (wledReport 1 5 .degraded .wledInfoTimeout)) := by
  obtain ⟨fresh, hfresh⟩ : ∃ fresh, createSchemaV1 0 = .ok fresh := ⟨_, rfl⟩
  have hvalid : (wledReport 1 5 .degraded .wledInfoTimeout).Valid :=
    wledReport_valid (by decide) (by decide) (by decide +kernel)
  have hfault : NoSqliteFault fresh (wledReport 1 5 .degraded .wledInfoTimeout) := by
    intro checkpoint hclass herror
    rcases durable_ingestProjection Faults.none fresh (wledReport 1 5 .degraded .wledInfoTimeout) with
      ⟨happlied, -⟩ | ⟨-, -, outcome, checkpoint', hclass', hrun⟩
    · exact absurd (happlied.symm.trans (wledReport_applied hfresh)) (by decide)
    · rw [hclass] at hclass'
      obtain ⟨rfl, -⟩ := Prod.mk.inj (Except.ok.inj hclass')
      exact nomatch herror.symm.trans hrun
  refine ⟨fresh, hfresh, (honoured_iff hfresh [] hvalid hfault).mpr fun hcontradictory => ?_⟩
  obtain ⟨-, c, hc, hhealthy, hdisabled⟩ := hcontradictory
  simp only [wledReport, HealthProjection.digested, List.mem_cons, List.not_mem_nil,
    or_false] at hc
  rcases hc with rfl | rfl | rfl | rfl
  · exact nomatch hhealthy
  · exact absurd hdisabled (by decide)
  · exact absurd hdisabled (by decide)
  · exact absurd hdisabled (by decide)

/-- A report that finds WLED healthy and switched off is valid; the first one a fresh store is given
    loses trust. -/
theorem contradiction_loses_trust : ∃ fresh, createSchemaV1 0 = .ok fresh ∧
    let p := wledReport 1 5 .healthy .wledDisabled
    p.Valid ∧ NoSqliteFault fresh p ∧ ingest fresh p = (.error ⟨.malformedState, true⟩, fresh) := by
  obtain ⟨fresh, hfresh⟩ : ∃ fresh, createSchemaV1 0 = .ok fresh := ⟨_, rfl⟩
  have hvalid : (wledReport 1 5 .healthy .wledDisabled).Valid :=
    wledReport_valid (by decide) (by decide) (by decide +kernel)
  obtain ⟨c, rows, baseline, hcoherent⟩ : Coherent fresh := runCalls_coherent hfresh []
  have hnew : IsNew fresh (wledReport 1 5 .healthy .wledDisabled) := by
    obtain rfl := Except.ok.inj hfresh
    intro row hrow last hlast
    obtain rfl := Option.some.inj hrow
    exact nomatch hlast
  have hcontradictory : (wledReport 1 5 .healthy .wledDisabled).Contradictory :=
    ⟨_, List.mem_cons_self, rfl, rfl⟩
  rcases hcoherent.ingest_new hvalid (hcoherent.isNew_iff.mp hnew) with
    ⟨_, _, hfair, -⟩ | ⟨e, he, hclass, hrun, heq⟩
  · exact absurd hcontradictory hfair
  · have hvalue : e = .value "inconsistent_disabled_status" := by
      cases he with
      | full =>
        have hresult : (ingest fresh (wledReport 1 5 .healthy .wledDisabled)).1 =
            .error ⟨.malformedState, true⟩ := by
          obtain rfl := Except.ok.inj hfresh
          decide +kernel
        rw [heq] at hresult
        exact absurd (Except.error.inj hresult) (by decide)
      | exhausted hfair => exact absurd hcontradictory hfair
      | contradiction => rfl
    subst hvalue
    refine ⟨fresh, hfresh, hvalid, fun checkpoint hclass' herror => ?_, heq⟩
    obtain ⟨rfl, -⟩ := Prod.mk.inj (Except.ok.inj (hclass.symm.trans hclass'))
    exact nomatch hrun.symm.trans herror

end Aurora.HealthHistory
