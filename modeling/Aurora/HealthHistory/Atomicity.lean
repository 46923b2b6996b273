/-
  Atomicity of one ingest call under faults.

  `classification` is what the first part of the transaction computes from the state alone; it reads
  and never writes.  `Exit` lists every way a call can end, with the number of ROLLBACKs attempted.
  A call is atomic except on one path: a replay whose own ROLLBACK fails is rolled back again by the
  handler of the same `try` block.
-/
import Aurora.HealthHistory.IngestionTransaction

namespace Aurora.HealthHistory.Ingestion

open Script (Faults exec exec_none run_bind_eq_ok exec_bind exec_read exec_ofExcept
  exec_bind_eq_ok exec_read_eq_ok exec_ofExcept_eq_ok exec_pure_eq_ok)

/-! ## Classification as a function of the state -/

/-- The checkpoint, once the ledger agrees with it. -/
def anchoredCheckpoint (db : Database) : Except Raised Checkpoint := do
  let checkpoint ← decodeCheckpoint db.checkpoint
  checkReplayAnchor checkpoint (newestReplayRows db)
  return checkpoint

/-- The projection is above every accepted sequence. -/
def Checkpoint.Below (c : Checkpoint) (sequence : Int) : Prop := ∀ last ∈ c.sequence, sequence > last

instance (c : Checkpoint) (sequence : Int) : Decidable (c.Below sequence) :=
  match h : c.sequence with
  | none => isTrue fun last hl => by rw [h] at hl; cases hl
  | some last => decidable_of_iff (sequence > last)
      ⟨fun hs l hl => by rw [h] at hl; rwa [← Option.some.inj hl], fun hs => hs last h⟩

/-- What `classify` returns or raises. -/
def classification (db : Database) (p : HealthProjection) : Except Raised (Checkpoint × Bool) := do
  let checkpoint ← anchoredCheckpoint db
  if checkpoint.Below p.observationSequence then return (checkpoint, false)
  else return (checkpoint, ← matchReplayRow p (db.replay.find? p.observationSequence))

theorem isReplayOrRejectStale_below {c : Checkpoint} {p : HealthProjection}
    (h : c.Below p.observationSequence) : isReplayOrRejectStale c p = pure false := if_pos h

/-- An old sequence is matched with its row. -/
theorem isReplayOrRejectStale_not_below {c : Checkpoint} {p : HealthProjection}
    (h : ¬c.Below p.observationSequence) : isReplayOrRejectStale c p = (do
      attempt (matchReplayRow p
        (← select fun db => db.replay.find? p.observationSequence))) := if_neg h

/-- `classify` computes the classification and leaves the state alone. -/
theorem run_classify (p : HealthProjection) (db : Database) :
    (classify p).run db = (classification db p).map fun r => (r, db) := by
  unfold classify readCheckpoint validateReplayAnchor classification anchoredCheckpoint
  simp only [attempt, select, Script.run_bind, Script.run_read, Script.run_ofExcept]
  cases hc : decodeCheckpoint db.checkpoint with
  | error e => rfl
  | ok c =>
    simp only [ok_bind, map_ok]
    cases ha : checkReplayAnchor c (newestReplayRows db) with
    | error e => rfl
    | ok u =>
      simp only [ok_bind, map_ok, pure_bind]
      by_cases hb : c.Below p.observationSequence
      · rw [isReplayOrRejectStale_below hb, if_pos hb]
        rfl
      · rw [isReplayOrRejectStale_not_below hb, if_neg hb]
        simp only [attempt, select, Script.run_bind, Script.run_read, Script.run_ofExcept]
        cases matchReplayRow p (db.replay.find? p.observationSequence) <;> rfl

/-- Finding a replay takes three statements, and none of them may fail. -/
theorem exec_classify_replay {F : SqliteFaults} {p : HealthProjection} {db m : Database}
    {checkpoint : Checkpoint} {c : Script.Cursor} :
    exec Raised.sqlite F (classify p) {} db = (.ok (checkpoint, true), c, m) ↔
      (∀ n < 3, F.statement n = none) ∧ classification db p = .ok (checkpoint, true) ∧
        c = ⟨3, 0⟩ ∧ m = db := by
  have hthree : (∀ n < 3, F.statement n = none) ↔
      F.statement 0 = none ∧ F.statement 1 = none ∧ F.statement 2 = none := by
    constructor
    · intro h
      exact ⟨h 0 (by omega), h 1 (by omega), h 2 (by omega)⟩
    · rintro ⟨h₀, h₁, h₂⟩ n hn
      obtain rfl | rfl | rfl : n = 0 ∨ n = 1 ∨ n = 2 := by omega
      · exact h₀
      · exact h₁
      · exact h₂
  rw [hthree]
  unfold classify readCheckpoint validateReplayAnchor classification anchoredCheckpoint attempt
    select
  -- the checkpoint, its anchor and the replay row, one statement each
  simp only [exec_bind_eq_ok, exec_read_eq_ok, exec_ofExcept_eq_ok, bind_eq_ok]
  constructor
  · rintro ⟨cp, _, _, ⟨_, _, _, ⟨h₀, rfl, rfl, rfl⟩, hcp, rfl, rfl⟩, u, _, _,
      ⟨_, _, _, ⟨h₁, rfl, rfl, rfl⟩, hanchor, rfl, rfl⟩, replay, d, m', hreplay, hpure⟩
    obtain ⟨hr, rfl, rfl⟩ := exec_pure_eq_ok.mp hpure
    obtain ⟨rfl, rfl⟩ := Prod.mk.inj hr
    by_cases hb : checkpoint.Below p.observationSequence
    · rw [isReplayOrRejectStale_below hb] at hreplay
      exact absurd (exec_pure_eq_ok.mp hreplay).1 (by decide)
    · rw [isReplayOrRejectStale_not_below hb] at hreplay
      simp only [attempt, select, exec_bind_eq_ok, exec_read_eq_ok, exec_ofExcept_eq_ok] at hreplay
      obtain ⟨_, _, _, ⟨h₂, rfl, rfl, rfl⟩, hmatch, rfl, rfl⟩ := hreplay
      refine ⟨⟨h₀, h₁, h₂⟩, ⟨checkpoint, ⟨checkpoint, hcp, u, hanchor, rfl⟩, ?_⟩, rfl, rfl⟩
      rw [if_neg hb, hmatch]
      rfl
  · rintro ⟨⟨h₀, h₁, h₂⟩, ⟨cp, ⟨cp', hcp, u, hanchor, hcp'⟩, hmatch⟩, rfl, rfl⟩
    obtain rfl := Except.ok.inj hcp'
    by_cases hb : cp'.Below p.observationSequence
    · rw [if_pos hb] at hmatch
      cases hmatch
    · rw [if_neg hb] at hmatch
      obtain ⟨replay, hreplay, hpure⟩ := bind_eq_ok.mp hmatch
      obtain ⟨rfl, rfl⟩ := Prod.mk.inj (Except.ok.inj hpure)
      refine ⟨cp', _, _, ⟨_, _, _, ⟨h₀, rfl, rfl, rfl⟩, hcp, rfl, rfl⟩, u, _, _,
        ⟨_, _, _, ⟨h₁, rfl, rfl, rfl⟩, hanchor, rfl, rfl⟩, true, ⟨3, 0⟩, m, ?_,
        exec_pure_eq_ok.mpr ⟨rfl, rfl, rfl⟩⟩
      rw [isReplayOrRejectStale_not_below hb]
      simp only [attempt, select, exec_bind_eq_ok, exec_read_eq_ok, exec_ofExcept_eq_ok]
      exact ⟨_, _, _, ⟨h₂, rfl, rfl, rfl⟩, hreplay, rfl, rfl⟩

/-! ### Replays -/

/-- The entry a ledger row is read as. -/
def acceptedEntry (row : AcceptedObservationRow) : ReplayEntry :=
  ⟨row.observationSequence, row.observedAtUtcUs, row.projectionDigest, row.acceptedSampleKind⟩

/-- The constraints of the ledger make every row readable. -/
theorem replayEntry_of_check {row : AcceptedObservationRow} (h : row.Check) :
    replayEntry row = .ok (acceptedEntry row) := by
  obtain ⟨hsequence, hobserved, hdigest⟩ := h
  unfold replayEntry trust
  rw [require_pos ⟨hsequence, hobserved, hdigest⟩]
  rfl

/-- The ledger row of this sequence matches the projection: it is the projection's own row. -/
theorem matchReplayRow_eq_ok {db : Database} {p : HealthProjection} {replay : Bool} :
    matchReplayRow p (db.replay.find? p.observationSequence) = .ok replay ↔
      replay = true ∧ acceptedRow p ∈ db.replay.rows := by
  cases hf : db.replay.find? p.observationSequence with
  | none =>
    have hnone := Table.find?_eq_none.mp hf
    exact iff_of_false (fun h => nomatch h) fun h => hnone _ h.2 rfl
  | some row =>
    obtain ⟨hrow, hkey⟩ := Table.find?_eq_some.mp hf
    have hown : row = acceptedRow p ↔ p.observedAtUtcUs = row.observedAtUtcUs ∧
        p.digest = row.projectionDigest ∧ p.sampleKind = row.acceptedSampleKind := by
      constructor
      · rintro rfl
        exact ⟨rfl, rfl, rfl⟩
      · rintro ⟨h₁, h₂, h₃⟩
        cases row
        simp only [acceptedRow, AcceptedObservationRow.mk.injEq] at hkey h₁ h₂ h₃ ⊢
        exact ⟨hkey, h₁.symm, h₂.symm, h₃.symm⟩
    have hmem : acceptedRow p ∈ db.replay.rows ↔ row = acceptedRow p := by
      constructor
      · intro h
        exact db.replay.mem_unique hrow h hkey
      · rintro rfl
        exact hrow
    unfold matchReplayRow
    dsimp only
    rw [replayEntry_of_check (db.consistent.replayCheck row hrow), ok_bind, hmem, hown]
    split
    · rename_i h
      constructor
      · intro hr
        exact ⟨(Except.ok.inj hr).symm, h⟩
      · rintro ⟨rfl, -⟩
        rfl
    · rename_i h
      exact iff_of_false (fun hr => nomatch hr) fun hr => h hr.2

/-- The state in which an observation is a replay: checkpoint and ledger agree, the projection is not
    above the checkpoint, and the ledger holds its row. -/
def Replays (db : Database) (p : HealthProjection) : Prop :=
  acceptedRow p ∈ db.replay.rows ∧
    ∃ checkpoint, anchoredCheckpoint db = .ok checkpoint ∧ ¬checkpoint.Below p.observationSequence

/-- What is classified as a replay is one. -/
theorem classification_true {db : Database} {p : HealthProjection} :
    (∃ checkpoint, classification db p = .ok (checkpoint, true)) ↔ Replays db p := by
  unfold classification Replays
  constructor
  · rintro ⟨checkpoint, h⟩
    obtain ⟨c, hc, h⟩ := bind_eq_ok.mp h
    by_cases hb : c.Below p.observationSequence
    · rw [if_pos hb] at h
      cases h
    · rw [if_neg hb] at h
      obtain ⟨replay, hm, h⟩ := bind_eq_ok.mp h
      exact ⟨(matchReplayRow_eq_ok.mp hm).2, c, hc, hb⟩
  · rintro ⟨hmem, c, hc, hb⟩
    refine ⟨c, bind_eq_ok.mpr ⟨c, hc, ?_⟩⟩
    rw [if_neg hb, matchReplayRow_eq_ok.mpr ⟨rfl, hmem⟩]
    rfl

/-- A new observation is above the checkpoint. -/
theorem classification_false {db : Database} {p : HealthProjection} {checkpoint : Checkpoint} :
    classification db p = .ok (checkpoint, false) ↔
      anchoredCheckpoint db = .ok checkpoint ∧ checkpoint.Below p.observationSequence := by
  unfold classification
  constructor
  · intro h
    obtain ⟨c, hc, h⟩ := bind_eq_ok.mp h
    by_cases hb : c.Below p.observationSequence
    · rw [if_pos hb] at h
      obtain ⟨rfl, -⟩ := Prod.mk.inj (Except.ok.inj h)
      exact ⟨hc, hb⟩
    · rw [if_neg hb] at h
      obtain ⟨replay, hm, h⟩ := bind_eq_ok.mp h
      obtain ⟨rfl, -⟩ := matchReplayRow_eq_ok.mp hm
      cases h
  · rintro ⟨hc, hb⟩
    refine bind_eq_ok.mpr ⟨checkpoint, hc, ?_⟩
    rw [if_pos hb]
    rfl

/-! ### A stored outcome is never the one of a replay -/

theorem heartbeatDecision_outcome {last : Option Int} {now : Int} {d : StorageDecision}
    (h : heartbeatDecision last now = .ok d) : d.outcome ≠ .replayed := by
  unfold heartbeatDecision at h
  split at h
  · cases h
  · split at h <;> · obtain rfl := Except.ok.inj h; simp

/-- No decision on the storage is a replay. -/
theorem storageDecision_outcome {rows : EvaluationRows} {checkpoint : Checkpoint}
    {p : HealthProjection} {db db' : Database} {d : StorageDecision}
    (h : (storageDecision rows checkpoint p).run db = .ok (d, db')) : d.outcome ≠ .replayed := by
  unfold storageDecision at h
  obtain ⟨baseline, m, -, h⟩ := run_bind_eq_ok.mp h
  obtain ⟨u, m', -, h⟩ := run_bind_eq_ok.mp h
  dsimp only at h
  split at h
  · obtain ⟨rfl, -⟩ := Prod.mk.inj (Except.ok.inj h)
    simp
  · obtain ⟨rfl, -⟩ := Prod.mk.inj (Except.ok.inj h)
    simp
  · split at h
    · obtain ⟨rfl, -⟩ := Prod.mk.inj (Except.ok.inj h)
      simp
    · obtain ⟨changed, m'', -, h⟩ := run_bind_eq_ok.mp h
      split at h
      · obtain ⟨rfl, -⟩ := Prod.mk.inj (Except.ok.inj h)
        simp
      · unfold attempt at h
        rw [Script.run_ofExcept] at h
        cases hd : heartbeatDecision (rows .overall).lastHeartbeatAtUtcUs p.recordedAtUtcUs with
        | error e => rw [hd] at h; cases h
        | ok d' =>
          rw [hd] at h
          obtain ⟨rfl, -⟩ := Prod.mk.inj (Except.ok.inj h)
          exact heartbeatDecision_outcome hd

theorem forceTransitionStorage_outcome {d : StorageDecision} (h : d.outcome ≠ .replayed) :
    (forceTransitionStorage d).outcome ≠ .replayed := by
  unfold forceTransitionStorage
  split
  · exact h
  · simp

/-- An accepted observation is not reported as a replay. -/
theorem ingestAccepted_outcome {checkpoint : Checkpoint} {p : HealthProjection}
    {db db' : Database} {outcome : IngestionOutcome}
    (h : (ingestAccepted checkpoint p).run db = .ok (outcome, db')) : outcome ≠ .replayed := by
  unfold ingestAccepted at h
  obtain ⟨d, m, hd, h⟩ := run_bind_eq_ok.mp h
  obtain ⟨u, m', -, h⟩ := run_bind_eq_ok.mp h
  obtain ⟨rfl, -⟩ := Prod.mk.inj (Except.ok.inj h)
  unfold decideIngestion at hd
  obtain ⟨rows, _, -, hd⟩ := run_bind_eq_ok.mp hd
  obtain ⟨_, _, -, hd⟩ := run_bind_eq_ok.mp hd
  obtain ⟨health, _, -, hd⟩ := run_bind_eq_ok.mp hd
  obtain ⟨gap, _, -, hd⟩ := run_bind_eq_ok.mp hd
  obtain ⟨decision, _, hdecision, hd⟩ := run_bind_eq_ok.mp hd
  obtain ⟨plans, _, -, hd⟩ := run_bind_eq_ok.mp hd
  obtain ⟨rfl, -⟩ := Prod.mk.inj (Except.ok.inj hd)
  dsimp only
  split
  · exact forceTransitionStorage_outcome (storageDecision_outcome hdecision)
  · exact storageDecision_outcome hdecision

/-! ## The ends of a call -/

/-- The whole ingest of a new observation, from one state to the next. -/
def Ingests (db : Database) (p : HealthProjection) (outcome : IngestionOutcome)
    (db' : Database) : Prop :=
  ∃ checkpoint, classification db p = .ok (checkpoint, false) ∧
    (ingestAccepted checkpoint p).run db = .ok (outcome, db')

/-- How the `try` block can end. -/
inductive AttemptEnd (F : SqliteFaults) (db : Database) (p : HealthProjection) : Attempt → Prop
  /-- BEGIN failed. -/
  | refused {e : Raised} {c : Connection Database} (durable : c.durable = db)
      (applied : c.applied = false) (begun : c.begun = false) :
      AttemptEnd F db p ⟨.error e, false, c⟩
  /-- The transaction of the replay was rolled back. -/
  | replayed {c : Connection Database} (durable : c.durable = db) (applied : c.applied = false)
      (replay : Replays db p) (rollbacks : c.rollbacks = 1) :
      AttemptEnd F db p ⟨.ok .replayed, false, c⟩
  /-- The transaction of the replay was not rolled back, and the handler will try again. -/
  | stuck {e : Raised} {c : Connection Database} (durable : c.durable = db)
      (applied : c.applied = false) (begun : c.begun = true) (committed : c.committed = false)
      (rollbacks : c.rollbacks = 1)
      (statements : ∀ n < 3, F.statement n = none) (replay : Replays db p)
      (beginOk : F.begin = none) (rollback : F.rollback 0 ≠ none) :
      AttemptEnd F db p ⟨.error e, true, c⟩
  /-- Something failed before COMMIT returned. -/
  | failed {e : Raised} {c : Connection Database}
      (durable : c.durable = db ∧ c.applied = false ∨
        (∃ outcome, Ingests db p outcome c.durable) ∧ c.applied = true)
      (committed : c.committed = false) (rollbacks : c.rollbacks = 0) :
      AttemptEnd F db p ⟨.error e, true, c⟩
  /-- COMMIT returned. -/
  | committed {outcome : IngestionOutcome} {c : Connection Database}
      (ingests : Ingests db p outcome c.durable) (applied : c.applied = true)
      (committed : c.committed = true) : AttemptEnd F db p ⟨.ok outcome, false, c⟩

/-- The rest of a transaction whose classification found a replay. -/
theorem replayed_end {F : SqliteFaults} {db m : Database} {p : HealthProjection}
    {checkpoint : Checkpoint} {cursor : Script.Cursor} (hbegin : F.begin = none)
    (h : exec Raised.sqlite F (classify p) {} db = (.ok (checkpoint, true), cursor, m)) :
    AttemptEnd F db p (ingestAttempt F p { durable := db }) ∧
      (F.rollback 0 ≠ none → (ingestAttempt F p { durable := db }).started = true ∧
        (ingestAttempt F p { durable := db }).result = .error (.ingestion .trustFailed) ∧
        (ingestAttempt F p { durable := db }).connection.rollbacks = 1) := by
  obtain ⟨hstatements, hclass, -, -⟩ := exec_classify_replay.mp h
  have hreplays : Replays db p := classification_true.mp ⟨checkpoint, hclass⟩
  unfold ingestAttempt Connection.begin Connection.execute
  simp only [hbegin, h]
  unfold rollbackAfterFailure Connection.rollback
  cases hrollback : F.rollback 0 with
  | none => exact ⟨.replayed rfl rfl hreplays rfl, fun h => absurd rfl h⟩
  | some fault =>
    exact ⟨.stuck rfl rfl rfl rfl rfl hstatements hreplays hbegin (by rw [hrollback]; simp),
      fun _ => ⟨rfl, rfl, rfl⟩⟩

/-- The rest of a transaction whose classification found a new observation. -/
theorem accepted_end {F : SqliteFaults} {db m : Database} {p : HealthProjection}
    {checkpoint : Checkpoint} {cursor : Script.Cursor} (hbegin : F.begin = none)
    (h : exec Raised.sqlite F (classify p) {} db = (.ok (checkpoint, false), cursor, m)) :
    AttemptEnd F db p (ingestAttempt F p { durable := db }) := by
  have hrun := Script.exec_ok h
  rw [run_classify] at hrun
  cases hclass : classification db p with
  | error e => rw [hclass] at hrun; cases hrun
  | ok r =>
    rw [hclass] at hrun
    obtain ⟨rfl, rfl⟩ := Prod.mk.inj (Except.ok.inj hrun)
    unfold ingestAttempt Connection.begin Connection.execute
    simp only [hbegin, h]
    cases hexec : exec Raised.sqlite F (ingestAccepted checkpoint p) cursor db with
    | mk r rest =>
      obtain ⟨cursor', m'⟩ := rest
      cases r with
      | error e => exact .failed (.inl ⟨rfl, rfl⟩) rfl rfl
      | ok outcome =>
        have hingests : Ingests db p outcome m' := ⟨checkpoint, hclass, Script.exec_ok hexec⟩
        unfold commitIngest Connection.commit
        cases hcommit : F.commit with
        | none => exact .committed hingests rfl rfl
        | some r =>
          obtain ⟨applied, fault⟩ := r
          cases applied with
          | false => exact .failed (.inl ⟨rfl, rfl⟩) rfl rfl
          | true => exact .failed (.inr ⟨⟨outcome, hingests⟩, rfl⟩) rfl rfl

/-- How an attempt ends, fault for fault. -/
theorem ingestAttempt_end (F : SqliteFaults) (db : Database) (p : HealthProjection) :
    AttemptEnd F db p (ingestAttempt F p { durable := db }) := by
  cases hbegin : F.begin with
  | some fault =>
    unfold ingestAttempt Connection.begin
    simp only [hbegin]
    exact .refused rfl rfl rfl
  | none =>
    cases hexec : exec Raised.sqlite F (classify p) {} db with
    | mk r rest =>
      obtain ⟨cursor, m⟩ := rest
      cases r with
      | error e =>
        unfold ingestAttempt Connection.begin Connection.execute
        simp only [hbegin, hexec]
        exact .failed (.inl ⟨rfl, rfl⟩) rfl rfl
      | ok r =>
        obtain ⟨checkpoint, replay⟩ := r
        cases replay with
        | true => exact (replayed_end hbegin hexec).1
        | false => exact accepted_end hbegin hexec

/-- The handler of a started transaction raises after one more ROLLBACK and touches nothing that is
    durable. -/
theorem handleFailure_started {F : SqliteFaults} {a : Attempt} {e : Raised}
    (h : a.started = true) :
    (∃ error, (handleFailure F a e).1 = .error error) ∧
      (handleFailure F a e).2.durable = a.connection.durable ∧
      (handleFailure F a e).2.applied = a.connection.applied ∧
      (handleFailure F a e).2.begun = a.connection.begun ∧
      (handleFailure F a e).2.committed = a.connection.committed ∧
      (handleFailure F a e).2.rollbacks = a.connection.rollbacks + 1 := by
  unfold handleFailure rollbackAfterFailure Connection.rollback
  rw [if_pos h]
  cases F.rollback a.connection.rollbacks with
  | none => exact ⟨⟨_, rfl⟩, rfl, rfl, rfl, rfl, rfl⟩
  | some fault => exact ⟨⟨_, rfl⟩, rfl, rfl, rfl, rfl, rfl⟩

/-! ## Atomicity -/

/-- What atomicity asks of one call from `db`: its result and the connection it leaves. -/
structure Atomic (db : Database) (p : HealthProjection)
    (exit : Except IngestionError IngestionOutcome × Connection Database) : Prop where
  /-- All or nothing. -/
  durable : exit.2.durable = db ∨ ∃ outcome, Ingests db p outcome exit.2.durable
  /-- A duplicate is reported for replays, which change nothing. -/
  duplicate : exit.1 = .ok .replayed → Replays db p ∧ exit.2.durable = db
  /-- Any other success is reported for a complete ingest. -/
  success : ∀ outcome, exit.1 = .ok outcome → outcome ≠ .replayed →
    Ingests db p outcome exit.2.durable
  /-- One ROLLBACK for a transaction that was begun and whose COMMIT did not return. -/
  rollback : exit.2.begun = true → exit.2.committed = false → exit.2.rollbacks = 1

/-- The state and the faults that lead to a second ROLLBACK: a valid projection that is found to be
    a replay, no fault up to there, and a first ROLLBACK that fails. -/
def ReplayRollbackFails (F : SqliteFaults) (db : Database) (p : HealthProjection) : Prop :=
  p.Valid ∧ F.begin = none ∧ (∀ n < 3, F.statement n = none) ∧ Replays db p ∧ F.rollback 0 ≠ none

/-- An invalid projection never reaches the database. -/
theorem ingestProjection_invalid {F : SqliteFaults} {db : Database} {p : HealthProjection}
    (h : ¬p.Valid) :
    ingestProjection F db p = (.error ⟨.invalidProjection, false⟩, { durable := db }) := by
  unfold ingestProjection
  cases hv : validateHealthProjection p with
  | error e => rfl
  | ok u => exact absurd (validateHealthProjection_eq_ok.mp hv) h

/-- How a call ends once its `try` block has. -/
def finishAttempt (F : SqliteFaults) (a : Attempt) :
    Except IngestionError IngestionOutcome × Connection Database :=
  match a.result with
  | .ok outcome => (.ok outcome, a.connection)
  | .error e => handleFailure F a e

theorem ingestProjection_valid {F : SqliteFaults} {db : Database} {p : HealthProjection}
    (h : p.Valid) :
    ingestProjection F db p = finishAttempt F (ingestAttempt F p { durable := db }) := by
  unfold ingestProjection
  rw [validateHealthProjection_eq_ok.mpr h]
  rfl

/-- A call that raised is atomic when its state was kept or fully ingested and its ROLLBACKs are as
    they should be. -/
theorem Atomic.of_error {db : Database} {p : HealthProjection}
    {exit : Except IngestionError IngestionOutcome × Connection Database}
    (herror : ∃ e, exit.1 = .error e)
    (hdurable : exit.2.durable = db ∨ ∃ outcome, Ingests db p outcome exit.2.durable)
    (hrollback : exit.2.begun = true → exit.2.committed = false → exit.2.rollbacks = 1) :
    Atomic db p exit := by
  obtain ⟨e, he⟩ := herror
  refine ⟨hdurable, fun h => ?_, fun outcome h => ?_, hrollback⟩
  · rw [he] at h
    cases h
  · rw [he] at h
    cases h

/-- An attempt whose replay was not rolled back ends with two ROLLBACKs. -/
theorem not_atomic_of_stuck {F : SqliteFaults} {db : Database} {p : HealthProjection}
    {a : Attempt} (h : AttemptEnd F db p a) (hstarted : a.started = true)
    (hone : a.connection.rollbacks = 1) : ¬Atomic db p (finishAttempt F a) := by
  intro hatomic
  cases h with
  | refused => cases hstarted
  | replayed => cases hstarted
  | committed => cases hstarted
  | failed _ _ hzero => exact absurd (hzero.symm.trans hone) (by decide)
  | stuck _ _ hbegun hcommitted =>
    obtain ⟨-, -, -, hbegun', hcommitted', htwo⟩ := handleFailure_started (F := F) hstarted
    have := hatomic.rollback (hbegun'.trans hbegun) (hcommitted'.trans hcommitted)
    exact absurd (htwo.symm.trans this) (by rw [hone]; decide)

/-- Every other end of an attempt is atomic. -/
theorem atomic_of_end {F : SqliteFaults} {db : Database} {p : HealthProjection} {a : Attempt}
    (hvalid : p.Valid) (hnot : ¬ReplayRollbackFails F db p) (h : AttemptEnd F db p a) :
    Atomic db p (finishAttempt F a) := by
  cases h with
  | refused hdurable _ hbegun =>
    refine .of_error ⟨_, rfl⟩ (.inl hdurable) fun h => ?_
    exact absurd (h.symm.trans hbegun) (by decide)
  | replayed hdurable _ hreplay hrollbacks =>
    exact ⟨.inl hdurable, fun _ => ⟨hreplay, hdurable⟩,
      fun outcome h hne => absurd (Except.ok.inj h).symm hne, fun _ _ => hrollbacks⟩
  | stuck _ _ _ _ _ hstatements hreplay hbegin hrollback =>
    exact absurd ⟨hvalid, hbegin, hstatements, hreplay, hrollback⟩ hnot
  | @failed e c hdurable hcommitted hrollbacks =>
    obtain ⟨herror, hdurable', -, -, -, hrollbacks'⟩ :=
      handleFailure_started (F := F) (a := ⟨.error e, true, c⟩) (e := e) rfl
    refine .of_error herror ?_ fun _ _ => ?_
    · rw [show (finishAttempt F ⟨.error e, true, c⟩).2.durable = c.durable from hdurable']
      exact hdurable.imp And.left And.left
    · exact hrollbacks'.trans (congrArg (· + 1) hrollbacks)
  | @committed outcome c hingests _ hcommitted =>
    have hne : outcome ≠ .replayed := by
      obtain ⟨checkpoint, -, hrun⟩ := hingests
      exact ingestAccepted_outcome hrun
    refine ⟨.inr ⟨outcome, hingests⟩, fun h => ?_, fun outcome' h _ => ?_, fun _ h => ?_⟩
    · exact absurd (Except.ok.inj h) hne
    · obtain rfl := Except.ok.inj h
      exact hingests
    · exact absurd (hcommitted.symm.trans h) (by decide)

/-- A replay whose ROLLBACK fails is rolled back twice. -/
theorem not_atomic_of_replayRollbackFails {F : SqliteFaults} {db : Database} {p : HealthProjection}
    (h : ReplayRollbackFails F db p) : ¬Atomic db p (ingestProjection F db p) := by
  obtain ⟨hvalid, hbegin, hstatements, hreplays, hrollback⟩ := h
  obtain ⟨checkpoint, hclass⟩ := classification_true.mpr hreplays
  obtain ⟨hend, hstuck⟩ :=
    replayed_end hbegin (exec_classify_replay.mpr ⟨hstatements, hclass, rfl, rfl⟩)
  obtain ⟨hstarted, -, hone⟩ := hstuck hrollback
  rw [ingestProjection_valid hvalid]
  exact not_atomic_of_stuck hend hstarted hone

/-- Every other call is atomic. -/
theorem atomic_of_not_replayRollbackFails {F : SqliteFaults} {db : Database}
    {p : HealthProjection} (h : ¬ReplayRollbackFails F db p) :
    Atomic db p (ingestProjection F db p) := by
  by_cases hvalid : p.Valid
  · rw [ingestProjection_valid hvalid]
    exact atomic_of_end hvalid h (ingestAttempt_end F db p)
  · rw [ingestProjection_invalid hvalid]
    exact .of_error ⟨_, rfl⟩ (.inl rfl) fun h => nomatch h

/-- What a call leaves durable is what it found, or the complete ingest once its COMMIT took
    effect. -/
theorem durable_ingestProjection (F : SqliteFaults) (db : Database) (p : HealthProjection) :
    (ingestProjection F db p).2.applied = false ∧ (ingestProjection F db p).2.durable = db ∨
      (ingestProjection F db p).2.applied = true ∧ p.Valid ∧
        ∃ outcome, Ingests db p outcome (ingestProjection F db p).2.durable := by
  by_cases hvalid : p.Valid
  · rw [ingestProjection_valid hvalid]
    have hhandled : ∀ e c, (finishAttempt F ⟨.error e, true, c⟩).2.durable = c.durable ∧
        (finishAttempt F ⟨.error e, true, c⟩).2.applied = c.applied := fun e c =>
      have h := handleFailure_started (F := F) (a := ⟨.error e, true, c⟩) (e := e) rfl
      ⟨h.2.1, h.2.2.1⟩
    have hend := ingestAttempt_end F db p
    generalize ingestAttempt F p { durable := db } = a at hend
    cases hend with
    | refused hdurable happlied => exact .inl ⟨happlied, hdurable⟩
    | replayed hdurable happlied => exact .inl ⟨happlied, hdurable⟩
    | @stuck e c hdurable happlied =>
      obtain ⟨hsame, hsame'⟩ := hhandled e c
      exact .inl ⟨hsame'.trans happlied, hsame.trans hdurable⟩
    | @failed e c hdurable =>
      obtain ⟨hsame, hsame'⟩ := hhandled e c
      rw [hsame, hsame']
      exact hdurable.imp And.symm fun h => ⟨h.2, hvalid, h.1⟩
    | committed hingests happlied => exact .inr ⟨happlied, hvalid, _, hingests⟩
  · rw [ingestProjection_invalid hvalid]
    exact .inl ⟨rfl, rfl⟩

/-! ## Without faults -/

/-- What a call without faults returns and leaves, by the classification of its observation. -/
def faultless (db : Database) (p : HealthProjection) :
    Except IngestionError IngestionOutcome × Database :=
  match classification db p with
  | .error e => (.error (ingestionFailure e), db)
  | .ok (_, true) => (.ok .replayed, db)
  | .ok (checkpoint, false) =>
    match (ingestAccepted checkpoint p).run db with
    | .error e => (.error (ingestionFailure e), db)
    | .ok (outcome, db') => (.ok outcome, db')

theorem ingest_invalid {db : Database} {p : HealthProjection} (h : ¬p.Valid) :
    ingest db p = (.error ⟨.invalidProjection, false⟩, db) := by
  unfold ingest
  rw [ingestProjection_invalid h]

theorem ingest_valid {db : Database} {p : HealthProjection} (h : p.Valid) :
    ingest db p = faultless db p := by
  obtain ⟨hreturns, hraises⟩ := exec_none Raised.sqlite (classify p) {} db
  rw [run_classify] at hreturns hraises
  unfold ingest faultless
  rw [ingestProjection_valid h]
  unfold ingestAttempt Connection.begin Connection.execute
  cases hclass : classification db p with
  | error e =>
    obtain ⟨cursor, m, hexec⟩ := hraises e (by rw [hclass]; rfl)
    simp only [Faults.none] at hexec ⊢
    simp only [hexec]
    rfl
  | ok r =>
    obtain ⟨checkpoint, replay⟩ := r
    obtain ⟨cursor, hexec⟩ := hreturns _ _ (by rw [hclass]; rfl)
    simp only [Faults.none] at hexec ⊢
    simp only [hexec]
    cases replay with
    | true => rfl
    | false =>
      obtain ⟨hreturns', hraises'⟩ :=
        exec_none Raised.sqlite (ingestAccepted checkpoint p) cursor db
      cases hrun : (ingestAccepted checkpoint p).run db with
      | error e =>
        obtain ⟨cursor', m, hexec'⟩ := hraises' e hrun
        simp only [Faults.none] at hexec' ⊢
        simp only [hexec', hrun]
        rfl
      | ok r =>
        obtain ⟨cursor', hexec'⟩ := hreturns' r.1 r.2 hrun
        simp only [Faults.none] at hexec' ⊢
        simp only [hexec', hrun]
        rfl

end Aurora.HealthHistory.Ingestion
