/-
  The store behind the calls of a scheduler.

  `HistoryWorld` is the store together with every observation it has committed, and
  `HistoryWorld.Step` is how it answers each call.  A call can do one of three things to it (`Effect`):
  leave the rows alone, clean up, or commit one observation.
-/
import Aurora.HealthHistory.Store
import Aurora.HealthHistory.Runs

namespace Aurora.HealthHistory

open Ingestion Program
open Script (Faults)

/-! ## The store behind the calls -/

/-- The store, and the observations whose COMMIT took effect. -/
structure HistoryWorld where
  store : HealthHistoryStore
  committed : List HealthProjection

/-- What the scheduler sees of an error of the store. -/
def historyException {ε : Type} (raised : ε → HistoryException) : StoreFailure ε → HistoryException
  | .store _ => .store
  | .raised e => raised e

/-- Why the state of an existing database was not read. -/
def resumeFailure : StoreFailure QueryError → ResumeFailure
  | .store _ => .store
  | .raised e => .query e

/-- The call commits its observation: the store is open, the check before the ingest passes, and
    COMMIT takes effect. -/
def HealthHistoryStore.commits (s : HealthHistoryStore) (checks : IdentityChecks)
    (F : Faults SqliteError) (projection : HealthProjection) : Bool :=
  !s.closed && checks.before && (ingestProjection F s.database projection).2.applied

namespace HistoryWorld

/-- The world with the store an operation leaves. -/
def leaving {ρ : Type} (w : HistoryWorld) (r : ρ × HealthHistoryStore) : HistoryWorld :=
  { w with store := r.2 }

/-- How the world answers a call: the clocks and the collector anything, the store what its operation
    gives under some checks and faults. -/
inductive Step (w : HistoryWorld) : Exchange historyInterface → HistoryWorld → Prop
  | acquire (owner : Owner) (acquired : Bool) : Step w ⟨.acquire owner, acquired⟩ w
  | monotonic (owner : Owner) (value : Option ℚ) : Step w ⟨.monotonic owner, value⟩ w
  | utcNow (value : Option Datetime) : Step w ⟨.utcNow, value⟩ w
  | utcNowUs (value : Option Int) : Step w ⟨.utcNowUs, value⟩ w
  | healthReport (supplied : Option (Option HealthReport)) : Step w ⟨.healthReport, supplied⟩ w
  | getSchedulerResumeState {answer : Except ResumeFailure ResumeState} (checks : IdentityChecks)
      (F : Faults SqliteError)
      (h : answer.map Subtype.val =
        (w.store.getSchedulerResumeState checks F).1.mapError resumeFailure) :
      Step w ⟨.getSchedulerResumeState, answer⟩
        (w.leaving (w.store.getSchedulerResumeState checks F))
  | closeStore : Step w ⟨.closeStore, ()⟩ { w with store := w.store.close }
  | inspectStorageCapacity (checks : IdentityChecks)
      (reported : Except StorageEnvelopeError StorageCapacityResult) :
      Step w ⟨.inspectStorageCapacity,
          (w.store.inspectStorageCapacity checks reported).1.mapError (historyException .envelope)⟩
        (w.leaving (w.store.inspectStorageCapacity checks reported))
  | inspectFreeSpace (checks : IdentityChecks)
      (reported : Except StorageEnvelopeError FreeSpaceResult) :
      Step w ⟨.inspectFreeSpace,
          (w.store.inspectFreeSpace checks reported).1.mapError (historyException .envelope)⟩
        (w.leaving (w.store.inspectFreeSpace checks reported))
  | inspectWal (checks : IdentityChecks) (reported : Except StorageEnvelopeError WalInspectionResult) :
      Step w ⟨.inspectWal,
          (w.store.inspectWal checks reported).1.mapError (historyException .envelope)⟩
        (w.leaving (w.store.inspectWal checks reported))
  | cleanupRetention (checks : IdentityChecks) (F : Faults SqliteError) (expired : Bool)
      (nowUtcUs retentionDays : Int) :
      Step w ⟨.cleanupRetention nowUtcUs retentionDays,
          (w.store.cleanupRetention checks F expired nowUtcUs retentionDays).1.mapError
            (historyException .maintenance)⟩
        (w.leaving (w.store.cleanupRetention checks F expired nowUtcUs retentionDays))
  | incrementalVacuum (checks : IdentityChecks) (reported : Except MaintenanceError Unit) :
      Step w ⟨.incrementalVacuum,
          (w.store.incrementalVacuum checks reported).1.mapError (historyException .maintenance)⟩
        (w.leaving (w.store.incrementalVacuum checks reported))
  | passiveWalCheckpoint (checks : IdentityChecks)
      (reported : Except StorageEnvelopeError PassiveCheckpointResult) :
      Step w ⟨.passiveWalCheckpoint,
          (w.store.passiveWalCheckpoint checks reported).1.mapError (historyException .envelope)⟩
        (w.leaving (w.store.passiveWalCheckpoint checks reported))
  | ingest (checks : IdentityChecks) (F : Faults SqliteError) (hF : F.CommitsTruthfully)
      (projection : HealthProjection) :
      Step w ⟨.ingest projection,
          (w.store.ingest checks F projection).1.mapError (historyException .ingestion)⟩
        { store := (w.store.ingest checks F projection).2
          committed := w.committed ++
            if w.store.commits checks F projection then [projection] else [] }

end HistoryWorld

/-! ## What an ingest reports -/

section Applied

variable {F : SqliteFaults} {c : Connection Database}

theorem begin_applied : (c.begin Raised.sqlite F).2.applied = c.applied := by
  unfold Connection.begin
  cases F.begin <;> rfl

/-- Statements apply nothing by themselves. -/
theorem execute_applied {α : Type} {x : Transaction α} :
    (c.execute Raised.sqlite F x).2.applied = c.applied := by
  unfold Connection.execute
  cases c.working <;> rfl

theorem rollbackAfterFailure_applied : (rollbackAfterFailure F c).2.applied = c.applied := by
  unfold rollbackAfterFailure Connection.rollback
  cases F.rollback c.rollbacks <;> rfl

/-- A COMMIT that takes effect returns. -/
theorem commitIngest_applied (hF : F.CommitsTruthfully) {outcome : IngestionOutcome}
    (hc : c.applied = false) (h : (commitIngest F outcome c).connection.applied = true) :
    (commitIngest F outcome c).result = .ok outcome := by
  unfold commitIngest Connection.commit at h ⊢
  cases hcommit : F.commit with
  | none => rfl
  | some failed =>
    obtain ⟨effective, fault⟩ := failed
    cases effective with
    | true => exact absurd hcommit (hF fault)
    | false =>
      rw [hcommit] at h
      exact absurd (h.symm.trans hc) (by decide)

/-- An attempt that fails has applied nothing, if commits are truthful. -/
theorem ingestAttempt_applied (hF : F.CommitsTruthfully) {db : Database} {p : HealthProjection}
    (h : (ingestAttempt F p { durable := db }).connection.applied = true) :
    ∃ outcome, (ingestAttempt F p { durable := db }).result = .ok outcome := by
  -- before COMMIT nothing is applied
  have hnone {r : Bool} {c : Connection Database} (hr : r = false) (hc : c.applied = r)
      (h : c.applied = true) : False := absurd (h.symm.trans (hc.trans hr)) (by decide)
  unfold ingestAttempt at h ⊢
  have hbegin := begin_applied (F := F) (c := { durable := db })
  split at h
  · rename_i hraised
    rw [hraised] at hbegin
    exact (hnone rfl hbegin h).elim
  rename_i c₁ hbegun
  rw [hbegun] at hbegin
  dsimp only at hbegin
  have hclassified := execute_applied (F := F) (c := c₁) (x := classify p)
  split at h
  · rename_i hraised
    rw [hraised] at hclassified
    exact (hnone hbegin hclassified h).elim
  · -- a replay is rolled back
    rename_i c₂ hreplay
    rw [hreplay] at hclassified
    dsimp only at hclassified
    have hrolled := rollbackAfterFailure_applied (F := F) (c := c₂)
    split at h
    · rename_i hraised
      rw [hraised] at hrolled
      exact (hnone (hclassified.trans hbegin) hrolled h).elim
    · rename_i hdone
      rw [hdone] at hrolled
      exact (hnone (hclassified.trans hbegin) hrolled h).elim
  · rename_i checkpoint c₂ hnew
    rw [hnew] at hclassified
    dsimp only at hclassified
    have hwritten := execute_applied (F := F) (c := c₂) (x := ingestAccepted checkpoint p)
    split at h
    · rename_i hraised
      rw [hraised] at hwritten
      exact (hnone (hclassified.trans hbegin) hwritten h).elim
    · rename_i outcome c₃ hdone
      rw [hdone] at hwritten
      dsimp only at hwritten
      have hc₃ : c₃.applied = false := hwritten.trans (hclassified.trans hbegin)
      exact ⟨outcome, commitIngest_applied hF hc₃ h⟩

end Applied

/-- An ingest that is applied succeeds. -/
theorem ingestProjection_applied {F : SqliteFaults} (hF : F.CommitsTruthfully) {db : Database}
    {p : HealthProjection} (h : (ingestProjection F db p).2.applied = true) :
    ∃ outcome, (ingestProjection F db p).1 = .ok outcome := by
  unfold ingestProjection at h ⊢
  split at h
  · cases h
  dsimp only at h ⊢
  have happlied := @ingestAttempt_applied F hF db p
  generalize ingestAttempt F p { durable := db } = a at h happlied
  obtain ⟨result, started, c⟩ := a
  cases result with
  | ok outcome => exact ⟨outcome, rfl⟩
  | error e =>
    have hkept : c.applied = true := by
      dsimp only at h
      unfold handleFailure at h
      split at h
      · have hrolled := rollbackAfterFailure_applied (F := F) (c := c)
        split at h
        all_goals
          rename_i hdone
          rw [hdone] at hrolled
          exact hrolled.symm.trans h
      · exact h
    obtain ⟨outcome, hok⟩ := happlied hkept
    cases hok

/-! ## What a call does -/

/-- The three things a call can do to the world. -/
inductive Effect (w : HistoryWorld) (x : Exchange historyInterface) (w' : HistoryWorld) : Prop
  | kept (hcommitted : w'.committed = w.committed)
      (hdatabase : w'.store.database = w.store.database) : Effect w x w'
  | cleaned (hcommitted : w'.committed = w.committed) (plan : List Maintenance.DeletionAction)
      (hdatabase : w'.store.database = w.store.database.withoutAll plan) : Effect w x w'
  /-- A commit is reported, or the store closes. -/
  | ingested {p : HealthProjection} {outcome : IngestionOutcome}
      {answer : Except HistoryException IngestionOutcome} (hx : x = ⟨.ingest p, answer⟩)
      (hopen : w.store.closed = false) (hcommitted : w'.committed = w.committed ++ [p])
      (hp : p.Valid) (hingests : Ingests w.store.database p outcome w'.store.database)
      (hreported : (∃ reported, answer = .ok reported) ∨ w'.store.closed = true) : Effect w x w'

namespace HealthHistoryStore

variable {checks : IdentityChecks} {F : SqliteFaults} {s : HealthHistoryStore}

theorem ingest_closed {p : HealthProjection} (h : s.closed = true) :
    s.ingest checks F p = (.error (.store .storeClosed), s) := by
  unfold ingest
  rw [if_pos h]

/-- Nothing is committed, or the ingest is durable and reported, or the store closes. -/
theorem ingest_effect (hF : F.CommitsTruthfully) (p : HealthProjection) :
    s.commits checks F p = false ∧ (s.ingest checks F p).2.database = s.database ∨
      s.commits checks F p = true ∧ s.closed = false ∧ p.Valid ∧
        (∃ outcome, Ingests s.database p outcome (s.ingest checks F p).2.database) ∧
          ((∃ reported, (s.ingest checks F p).1 = .ok reported) ∨
            (s.ingest checks F p).2.closed = true) := by
  by_cases hclosed : s.closed = true
  · left
    rw [ingest_closed hclosed]
    unfold commits
    rw [hclosed]
    exact ⟨rfl, rfl⟩
  have hopen : s.closed = false := Bool.eq_false_iff.mpr hclosed
  by_cases hbefore : checks.before = true
  · have hcommits : s.commits checks F p = (ingestProjection F s.database p).2.applied := by
      unfold commits
      rw [hopen, hbefore]
      rfl
    have hdatabase : (s.ingest checks F p).2.database =
        (ingestProjection F s.database p).2.durable := by
      unfold ingest onConnection
      rw [if_neg hclosed, if_pos hbefore]
      dsimp only
      split
      · split <;> rfl
      · split <;> rfl
    rw [hcommits, hdatabase]
    rcases durable_ingestProjection F s.database p with ⟨hnone, hsame⟩ | ⟨happlied, hp, hingests⟩
    · exact .inl ⟨hnone, hsame⟩
    · refine .inr ⟨happlied, hopen, hp, hingests, ?_⟩
      unfold ingest onConnection
      rw [if_neg hclosed, if_pos hbefore]
      obtain ⟨outcome, hok⟩ := ingestProjection_applied hF happlied
      rw [hok]
      dsimp only
      split
      · exact .inl ⟨outcome, rfl⟩
      · exact .inr rfl
  · left
    unfold commits ingest
    rw [hopen, Bool.eq_false_iff.mpr hbefore]
    exact ⟨rfl, rfl⟩

end HealthHistoryStore

namespace HistoryWorld

variable {w w' : HistoryWorld} {x : Exchange historyInterface} {t : HistoryTranscript}

open HealthHistoryStore

/-- An operation that leaves the rows alone. -/
theorem database_of_bracketed {ε α : Type} {errors : ErrorClass ε} {checks : IdentityChecks}
    {operation : Database → Except ε α × Database} (h : ∀ db, (operation db).2 = db) :
    (w.leaving (bracketed errors checks operation w.store)).store.database = w.store.database := by
  rcases @bracketed_database _ _ errors checks operation w.store with hsame | hdone
  · exact hsame
  · exact hdone.trans (h w.store.database)

/-- An operation that only reads leaves the database as it is. -/
theorem kept_of_bracketed {ε α : Type} {errors : ErrorClass ε} {checks : IdentityChecks}
    {operation : Database → Except ε α × Database} (h : ∀ db, (operation db).2 = db) :
    Effect w x (w.leaving (bracketed errors checks operation w.store)) :=
  .kept rfl (database_of_bracketed h)

theorem Step.effect (h : w.Step x w') : Effect w x w' := by
  cases h with
  | acquire => exact .kept rfl rfl
  | monotonic => exact .kept rfl rfl
  | utcNow => exact .kept rfl rfl
  | utcNowUs => exact .kept rfl rfl
  | healthReport => exact .kept rfl rfl
  | closeStore => exact .kept rfl rfl
  | getSchedulerResumeState checks F =>
    exact kept_of_bracketed fun db => durable_readTransaction F db _
  | inspectStorageCapacity => exact kept_of_bracketed fun _ => rfl
  | inspectFreeSpace => exact kept_of_bracketed fun _ => rfl
  | inspectWal => exact kept_of_bracketed fun _ => rfl
  | incrementalVacuum => exact kept_of_bracketed fun _ => rfl
  | passiveWalCheckpoint => exact kept_of_bracketed fun _ => rfl
  | cleanupRetention checks F expired now days =>
    rcases @bracketed_database _ _ .maintenance checks
      (fun db => onConnection (Maintenance.cleanupRetention F expired db now days)) w.store
      with hsame | hdone
    · exact .kept rfl hsame
    · rcases durable_cleanupRetention F expired w.store.database now days with hsame | ⟨plan, hplan⟩
      · exact .kept rfl (hdone.trans hsame)
      · exact .cleaned rfl plan (hdone.trans hplan)
  | ingest checks F hF p =>
    rcases @ingest_effect checks F w.store hF p with
      ⟨hnone, hsame⟩ | ⟨hcommits, hopen, hp, ⟨outcome, hingests⟩, hreported⟩
    · refine .kept ?_ hsame
      show w.committed ++ (if w.store.commits checks F p = true then [p] else []) = w.committed
      rw [hnone, if_neg (by decide), List.append_nil]
    · refine .ingested rfl hopen ?_ hp hingests (hreported.imp ?_ id)
      · show w.committed ++ (if w.store.commits checks F p = true then [p] else []) = _
        rw [hcommits, if_pos rfl]
      · rintro ⟨reported, hok⟩
        exact ⟨reported, by rw [hok]; rfl⟩

/-- A closed store stays closed, and commits nothing. -/
theorem Step.closed (h : w.Step x w') (hclosed : w.store.closed = true) :
    w'.store.closed = true ∧ w'.committed = w.committed := by
  cases h with
  | acquire => exact ⟨hclosed, rfl⟩
  | monotonic => exact ⟨hclosed, rfl⟩
  | utcNow => exact ⟨hclosed, rfl⟩
  | utcNowUs => exact ⟨hclosed, rfl⟩
  | healthReport => exact ⟨hclosed, rfl⟩
  | closeStore => exact ⟨rfl, rfl⟩
  | ingest checks F hF p =>
    refine ⟨?_, ?_⟩
    · show (w.store.ingest checks F p).2.closed = true
      rw [ingest_closed hclosed]
      exact hclosed
    · show w.committed ++ (if w.store.commits checks F p = true then [p] else []) = w.committed
      unfold HealthHistoryStore.commits
      rw [hclosed]
      exact List.append_nil _
  | _ => exact ⟨bracketed_closes hclosed, rfl⟩

end HistoryWorld

end Aurora.HealthHistory
