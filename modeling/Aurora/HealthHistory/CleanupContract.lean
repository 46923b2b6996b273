/-
  The error contract of a retention cleanup, under every fault schedule and every clock.

  The progress handler is installed before the transaction and cleared after it.  `RetentionEnd` lists
  how the transaction between the two can end.  What a cleanup reports is what its plan deleted: each
  deletion removes one row of its own table (`rows_without`).
-/
import Mathlib.Algebra.Order.Ring.Rat
import Aurora.HealthHistory.Converging

namespace Aurora.HealthHistory

open Ingestion Maintenance Script

/-! ## The call -/

namespace Maintenance

/-- How long a cleanup may take. -/
def maintenanceSeconds : ℚ := 1

/-- What a cleanup meets: the faults of the engine, and the clock.  The clock is read once at the
start, once by every check, and on the way through the statements by the progress handler. -/
structure CleanupEnvironment where
  sql : SqliteFaults
  install : Option SqliteError
  clear : Option SqliteError
  start : ℚ
  readings : Nat → ℚ
  handlerReadings : List ℚ

namespace CleanupEnvironment

variable (E : CleanupEnvironment)

/-- The reading it must be done by. -/
def deadline : ℚ := E.start + maintenanceSeconds

/-- The checks raise where their reading has reached the deadline. -/
def faults : SqliteFaults := { E.sql with poll := fun n => E.deadline ≤ E.readings n }

/-- The flag of the deadline once the progress handler has run. -/
def expired : Bool := E.handlerReadings.any fun reading => E.deadline ≤ reading

/-- A COMMIT that raises has not taken effect. -/
def CommitsTruthfully : Prop := E.sql.CommitsTruthfully

end CleanupEnvironment

/-- The connection, and the attempts to set and to clear its progress handler. -/
structure CleanupSession where
  connection : Connection Database
  installs : Nat
  clears : Nat

/-- `_install_progress_handler` -/
def installProgressHandler (E : CleanupEnvironment) (s : CleanupSession) :
    Except MaintenanceError Unit × CleanupSession :=
  ((match E.install with
    | none => .ok ()
    | some e => .error (.classifiedSqliteError e false)), { s with installs := s.installs + 1 })

/-- `_clear_progress_handler` -/
def clearProgressHandler (E : CleanupEnvironment) (s : CleanupSession) :
    Except MaintenanceError Unit × CleanupSession :=
  ((match E.clear with
    | none => .ok ()
    | some _ => .error .trustFailed), { s with clears := s.clears + 1 })

/-- The inner `try` statement: from BEGIN to the result. -/
def retentionTransaction (F : SqliteFaults) (expired : Bool) (cutoff : Int)
    (c : Connection Database) :
    Except MaintenanceError RetentionCleanupResult × Connection Database :=
  match c.begin Raised.sqlite F with
  | (.error e, c) => (.error (maintenanceFailure expired e), c)
  | (.ok _, c) =>
    match c.execute Raised.sqlite F (retain cutoff) with
    | (.error e, c) => rollbackFailure F expired e c
    | (.ok counts, c) =>
      match c.commit Raised.sqlite F with
      | (.error e, c) => rollbackFailure F expired e c
      | (.ok _, c) => finishCleanup F counts c

/-- The body of the outer `try` statement. -/
def handledTransaction (E : CleanupEnvironment) (cutoff : Int) (s : CleanupSession) :
    Except MaintenanceError RetentionCleanupResult × CleanupSession :=
  match installProgressHandler E s with
  | (.error e, s) => (.error e, s)
  | (.ok _, s) =>
    let (r, c) := retentionTransaction E.faults E.expired cutoff s.connection
    (r, { s with connection := c })

/-- `_cleanup_retention` with its progress handler and its clock. -/
def cleanupRetentionHandled (E : CleanupEnvironment) (db : Database) (nowUtcUs retentionDays : Int) :
    Except MaintenanceError RetentionCleanupResult × CleanupSession :=
  match retentionCutoff nowUtcUs retentionDays with
  | .error e => (.error e, ⟨{ durable := db }, 0, 0⟩)
  | .ok cutoff =>
    let (r, s) := handledTransaction E cutoff ⟨{ durable := db }, 0, 0⟩
    match clearProgressHandler E s with
    | (.error e, s) => (.error e, s)
    | (.ok _, s) => (r, s)

/-- Without its handler the call is the one whose runs the other modules follow. -/
theorem cleanupRetention_eq (F : SqliteFaults) (expired : Bool) (db : Database)
    (nowUtcUs retentionDays : Int) : cleanupRetention F expired db nowUtcUs retentionDays =
      match retentionCutoff nowUtcUs retentionDays with
      | .error e => (.error e, { durable := db })
      | .ok cutoff => retentionTransaction F expired cutoff { durable := db } := rfl

end Maintenance

/-! ## What a plan deletes -/

/-- Deleting one key deletes one row. -/
theorem Table.length_delete {ρ κ : Type} [LinearOrder κ] {key : ρ → κ} (t : Table key) {r : ρ}
    (hr : r ∈ t.rows) {p : ρ → Bool} (hp : ∀ x ∈ t.rows, p x = true ↔ key x = key r) :
    (t.delete p).rows.length + 1 = t.rows.length := by
  obtain ⟨before, after, hrows⟩ := List.append_of_mem hr
  have hsorted := t.sorted
  rw [hrows, List.pairwise_append, List.pairwise_cons] at hsorted
  obtain ⟨-, ⟨hafter, -⟩, hbefore⟩ := hsorted
  have hpr : p r = true := (hp r hr).mpr rfl
  have hfront : before.filter (fun x => !p x) = before := by
    refine List.filter_eq_self.mpr fun x hx => ?_
    have hne := (hbefore x hx r List.mem_cons_self).ne
    have hmem : x ∈ t.rows := hrows ▸ List.mem_append_left _ hx
    simpa using mt (hp x hmem).mp hne
  have hback : after.filter (fun x => !p x) = after := by
    refine List.filter_eq_self.mpr fun x hx => ?_
    have hne := (hafter x hx).ne'
    have hmem : x ∈ t.rows := hrows ▸ List.mem_append_right _ (List.mem_cons_of_mem r hx)
    simpa using mt (hp x hmem).mp hne
  rw [Table.delete_rows, hrows, List.filter_append, List.filter_cons_of_neg (by simp [hpr]), hfront,
    hback, List.length_append, List.length_append, List.length_cons]
  omega

/-- The samples, events and alerts of a database. -/
def Database.rowCounts (db : Database) : Nat × Nat × Nat :=
  (db.samples.rows.length, db.events.rows.length, db.alerts.rows.length)

/-- One deletion removes one row, of the table that is counted for it. -/
theorem rows_without {cutoff : Int} {db : Database} {action : DeletionAction}
    (h : action.Found cutoff db) :
    db.rowCounts = (db.without action).rowCounts + countActions [action] := by
  cases action with
  | health rowId =>
    obtain ⟨r, hr, rfl, -⟩ := h
    have hone := Table.length_delete db.samples hr (p := fun x => x.id = r.id) (by simp)
    have halerts : (db.without (.health r.id)).alerts.rows.length = db.alerts.rows.length :=
      List.length_map ..
    have hevents : (db.without (.health r.id)).events.rows.length = db.events.rows.length :=
      List.length_map ..
    unfold Database.rowCounts
    rw [halerts, hevents, ← hone]
    rfl
  | event rowId alertId =>
    obtain ⟨e, he, rfl, -⟩ := h
    have hone := Table.length_delete db.events he (p := fun x => x.id = e.id) (by simp)
    unfold Database.rowCounts
    rw [← hone]
    rfl
  | alert rowId =>
    obtain ⟨⟨r, hr, rfl, -⟩, hnone⟩ := h
    have hone := Table.length_delete db.alerts hr (p := fun x => x.id = r.id) (by simp)
    have hevents : (db.without (.alert r.id)).events.rows.length = db.events.rows.length := by
      show (db.events.rows.filter _).length = _
      rw [List.filter_eq_self.mpr fun e he => by simpa using hnone e he]
    unfold Database.rowCounts
    rw [hevents, ← hone]
    rfl

theorem countActions_cons (action : DeletionAction) (plan : List DeletionAction) :
    countActions (action :: plan) = countActions plan + countActions [action] := by
  unfold countActions
  cases action <;> simp

/-- The counts of a plan are what it takes from the tables. -/
theorem rows_of_plan {cutoff : Int} {plan : List DeletionAction} : ∀ {db db' : Database},
    (plan.forM (executeAction cutoff)).run db = .ok ((), db') →
      db.rowCounts = db'.rowCounts + countActions plan := by
  induction plan with
  | nil =>
    intro db db' h
    obtain rfl : db = db' := (Prod.mk.inj (Except.ok.inj h)).2
    rfl
  | cons action plan ih =>
    intro db db' h
    obtain ⟨hfound, hrest⟩ := forM_executeAction h
    rw [rows_without hfound, ih hrest, countActions_cons action plan, add_assoc]

theorem retentionPlan_length {cutoff : Int} {db : Database} {plan : List DeletionAction}
    (h : (retentionPlan cutoff).run db = .ok (plan, db)) : plan.length ≤ retentionRowBudget := by
  unfold retentionPlan at h
  obtain ⟨healthRows, _, -, h⟩ := run_bind_eq_ok.mp h
  obtain ⟨_, _, -, h⟩ := run_bind_eq_ok.mp h
  obtain ⟨alertRows, _, -, h⟩ := run_bind_eq_ok.mp h
  obtain ⟨_, _, -, h⟩ := run_bind_eq_ok.mp h
  obtain ⟨health, _, -, h⟩ := run_bind_eq_ok.mp h
  obtain ⟨alerts, _, -, h⟩ := run_bind_eq_ok.mp h
  obtain ⟨_, _, -, h⟩ := run_bind_eq_ok.mp h
  obtain ⟨_, _, -, h⟩ := run_bind_eq_ok.mp h
  obtain ⟨actions, m, -, h⟩ := run_bind_eq_ok.mp h
  obtain ⟨_, _, hbudget, h⟩ := run_bind_eq_ok.mp h
  obtain ⟨rfl, -⟩ := Prod.mk.inj (Except.ok.inj h)
  by_contra hlong
  unfold attempt Maintenance.trust at hbudget
  rw [require_neg hlong] at hbudget
  cases hbudget

/-! ## How a transaction ends -/

/-- How the inner `try` statement ends, on a connection that starts at `db`. -/
inductive RetentionEnd (F : SqliteFaults) (db : Database) (cutoff : Int) :
    Except MaintenanceError RetentionCleanupResult × Connection Database → Prop
  /-- BEGIN failed. -/
  | refused {e : MaintenanceError} {c : Connection Database} (durable : c.durable = db)
      (begun : c.begun = false) (committed : c.committed = false) (rollbacks : c.rollbacks = 0) :
      RetentionEnd F db cutoff (.error e, c)
  /-- Something failed before COMMIT returned, and the one rollback was attempted. -/
  | failed {e : MaintenanceError} {c : Connection Database}
      (durable : c.durable = db ∨ ∃ fault, F.commit = some (true, fault))
      (begun : c.begun = true) (committed : c.committed = false) (rollbacks : c.rollbacks = 1)
      (surfaces : F.rollback 0 ≠ none → e = .trustFailed) : RetentionEnd F db cutoff (.error e, c)
  /-- COMMIT returned. -/
  | committed {r : Except MaintenanceError RetentionCleanupResult} {c : Connection Database}
      {plan : List DeletionAction} (length : plan.length ≤ retentionRowBudget)
      (rows : db.rowCounts = c.durable.rowCounts + countActions plan) (begun : c.begun = true)
      (committed : c.committed = true) (rollbacks : c.rollbacks = 0)
      (reported : ∀ result, r = .ok result → result = cleanupResult (countActions plan)) :
      RetentionEnd F db cutoff (r, c)

theorem rollbackFailure_end {F : SqliteFaults} {db : Database} {cutoff : Int} {expired : Bool}
    {e : Raised} {c : Connection Database}
    (hdurable : c.durable = db ∨ ∃ fault, F.commit = some (true, fault))
    (hbegun : c.begun = true) (hcommitted : c.committed = false) (hrollbacks : c.rollbacks = 0) :
    RetentionEnd F db cutoff (rollbackFailure F expired e c) := by
  unfold rollbackFailure Connection.rollback
  rw [hrollbacks]
  cases hrollback : F.rollback 0 with
  | none => exact .failed hdurable hbegun hcommitted rfl fun h => absurd hrollback h
  | some fault => exact .failed hdurable hbegun hcommitted rfl fun _ => rfl

theorem retentionTransaction_end (F : SqliteFaults) (expired : Bool) (cutoff : Int)
    (db : Database) :
    RetentionEnd F db cutoff (retentionTransaction F expired cutoff { durable := db }) := by
  unfold retentionTransaction
  cases hbegin : F.begin with
  | some fault =>
    simp only [Connection.begin, hbegin]
    exact .refused rfl rfl rfl rfl
  | none =>
    simp only [Connection.begin, hbegin, Connection.execute]
    rcases hexec : exec Raised.sqlite F (retain cutoff) {} db with ⟨result, cursor, m⟩
    cases result with
    | error e => exact rollbackFailure_end (.inl rfl) rfl rfl rfl
    | ok counts =>
      obtain ⟨plan, hplan, rfl, hdeleted⟩ := retain_runs (exec_ok hexec)
      dsimp only [Connection.commit]
      cases hcommit : F.commit with
      | some fault =>
        obtain ⟨applied, fault⟩ := fault
        cases applied with
        | true => exact rollbackFailure_end (.inr ⟨fault, hcommit⟩) rfl rfl rfl
        | false => exact rollbackFailure_end (.inl rfl) rfl rfl rfl
      | none =>
        have hlength := retentionPlan_length hplan
        have hrows := rows_of_plan hdeleted
        dsimp only [finishCleanup]
        split
        · exact .committed hlength hrows rfl rfl rfl fun result h => by cases h
        · rw [cleanupResult_check hlength]
          exact .committed hlength hrows rfl rfl rfl fun result h => (Except.ok.inj h).symm

/-! ## The contract -/

/-- What a cleanup guarantees, however it ends. -/
structure CleanupContract (E : CleanupEnvironment) (db : Database)
    (r : Except MaintenanceError RetentionCleanupResult) (s : CleanupSession) : Prop where
  /-- A transaction whose COMMIT did not return is rolled back once. -/
  rolledBack : s.connection.begun = true → s.connection.committed = false →
    s.connection.rollbacks = 1
  unchanged : E.CommitsTruthfully → s.connection.begun = true → s.connection.committed = false →
    E.sql.rollback 0 = none → s.connection.durable = db
  surfaces : s.connection.begun = true → s.connection.committed = false →
    E.sql.rollback 0 ≠ none → ∃ e, r = .error e ∧ e.trustLost = true
  /-- No rollback follows a COMMIT that returned, or comes without a transaction. -/
  committed : s.connection.committed = true ∨ s.connection.begun = false →
    s.connection.rollbacks = 0
  reported : ∀ result, r = .ok result →
    result.logicalRowsDeleted ≤ retentionRowBudget ∧
      db.rowCounts = s.connection.durable.rowCounts +
        (result.healthSamplesDeleted, result.alertEventsDeleted, result.alertsDeleted)
  /-- The handler is cleared once after the attempt to install it, and never without one. -/
  cleared : s.clears = s.installs

/-- What the transaction leaves meets the contract, also when the handler cannot be cleared. -/
theorem contract_of_end {E : CleanupEnvironment} {db : Database} {cutoff : Int}
    {r r' : Except MaintenanceError RetentionCleanupResult} {s : CleanupSession}
    (h : RetentionEnd E.faults db cutoff (r, s.connection)) (hr : r' = r ∨ r' = .error .trustFailed)
    (hcleared : s.clears = s.installs) : CleanupContract E db r' s := by
  obtain ⟨c, installs, clears⟩ := s
  dsimp only at h hcleared
  cases h with
  | refused durable begun committed rollbacks =>
    refine ⟨?_, fun _ => ?_, ?_, fun _ => rollbacks, ?_, hcleared⟩
    · rw [begun]
      exact nofun
    · rw [begun]
      exact nofun
    · rw [begun]
      exact nofun
    · rintro result rfl
      rcases hr with hr | hr <;> cases hr
  | @failed e _ durable begun committed rollbacks surfaces =>
    refine ⟨fun _ _ => rollbacks, fun htruthful _ _ _ => ?_, fun _ _ hfails => ?_, ?_, ?_, hcleared⟩
    · rcases durable with hsame | ⟨fault, hfault⟩
      · exact hsame
      · exact absurd hfault (htruthful fault)
    · rcases hr with rfl | rfl
      · exact ⟨e, rfl, by rw [surfaces hfails]; rfl⟩
      · exact ⟨_, rfl, rfl⟩
    · dsimp only
      rw [begun, committed]
      rintro (h | h) <;> cases h
    · rintro result rfl
      rcases hr with hr | hr <;> cases hr
  | @committed _ _ plan length rows begun committed rollbacks reported =>
    refine ⟨fun _ h => ?_, fun _ _ h => ?_, fun _ h => ?_, fun _ => rollbacks, ?_, hcleared⟩
    · exact absurd (committed.symm.trans h) (by decide)
    · exact absurd (committed.symm.trans h) (by decide)
    · exact absurd (committed.symm.trans h) (by decide)
    · rintro result rfl
      rcases hr with rfl | hr
      · rw [reported result rfl]
        exact ⟨(countActions_length plan).trans_le length, rows⟩
      · cases hr

/-- Every cleanup meets its contract, and the handler is cleared exactly once when the arguments are
valid. -/
theorem cleanup_contract (E : CleanupEnvironment) (db : Database) (now days : Int) :
    CleanupContract E db (cleanupRetentionHandled E db now days).1
        (cleanupRetentionHandled E db now days).2 ∧
      ((cleanupRetentionHandled E db now days).2.clears =
        if (retentionCutoff now days).isOk then 1 else 0) := by
  unfold cleanupRetentionHandled
  cases hcutoff : retentionCutoff now days with
  | error e => exact ⟨⟨nofun, fun _ => nofun, nofun, fun _ => rfl, nofun, rfl⟩, rfl⟩
  | ok cutoff =>
    have hend : ∃ r c, handledTransaction E cutoff ⟨{ durable := db }, 0, 0⟩ = (r, ⟨c, 1, 0⟩) ∧
        RetentionEnd E.faults db cutoff (r, c) := by
      unfold handledTransaction installProgressHandler
      cases E.install with
      | some e => exact ⟨_, _, rfl, .refused rfl rfl rfl rfl⟩
      | none => exact ⟨_, _, rfl, retentionTransaction_end E.faults E.expired cutoff db⟩
    obtain ⟨r, c, hrun, hend⟩ := hend
    dsimp only
    rw [hrun]
    unfold clearProgressHandler
    cases E.clear with
    | none => exact ⟨contract_of_end hend (.inl rfl) rfl, rfl⟩
    | some fault => exact ⟨contract_of_end hend (.inr rfl) rfl, rfl⟩

end Aurora.HealthHistory
