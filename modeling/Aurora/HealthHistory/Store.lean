/-
  The store of a health history.

  A store holds its database and whether it is closed.  Every operation runs between two checks of the
  database file and its sidecars.  A failed check closes the store, and so does an operation that loses
  trust; a closed store does nothing more.
-/
import Aurora.HealthHistory.Orchestration
import Aurora.HealthHistory.SchemaVerification

namespace Aurora.HealthHistory

open Script (Faults)

/-- The reasons of a `StoreError`. -/
inductive StoreRejection
  | alreadyExists | creationFailed | openFailed | verificationFailed | storeClosed
  | unsupportedRuntime
deriving DecidableEq, Repr

/-- A call of the store raises a `StoreError`, or what its operation raises. -/
inductive StoreFailure (ε : Type)
  | store (reason : StoreRejection)
  | raised (e : ε)

/-- What the checks before and after an operation find: the file is the expected one, and its
    sidecars are stable. -/
structure IdentityChecks where
  before : Bool
  after : Bool

/-- The errors of a class of operations. -/
structure ErrorClass (ε : Type) where
  /-- The error of a failed check. -/
  trustFailed : ε
  trustLost : ε → Bool

namespace ErrorClass

/-- Queries. -/
def query : ErrorClass QueryError := ⟨⟨.trustFailed, true⟩, QueryError.trustLost⟩

/-- Cleanups. -/
def maintenance : ErrorClass MaintenanceError := ⟨.trustFailed, MaintenanceError.trustLost⟩

/-- Storage operations. -/
def envelope : ErrorClass StorageEnvelopeError :=
  ⟨⟨.trustFailed, true⟩, StorageEnvelopeError.trustLost⟩

end ErrorClass

/-- A store on one connection. -/
structure HealthHistoryStore where
  database : Database
  closed : Bool

/-- What creating the database file found. -/
inductive FileCreation
  | created | alreadyExists | failed
deriving DecidableEq

namespace HealthHistoryStore

variable {ε α : Type}

/-! ## Opening -/

/-- Create and verify one new database; `runtime` says that the SQLite runtime is safe, `files` that
    every check of the files and of the connection settings passes. -/
def create (runtime : Bool) (file : FileCreation) (files : Bool) (createdAtUtcUs : Int) :
    Except StoreRejection HealthHistoryStore :=
  if runtime then
    match file with
    | .alreadyExists => .error .alreadyExists
    | .failed => .error .creationFailed
    | .created =>
      match createSchemaV1 createdAtUtcUs with
      | .error _ => .error .creationFailed
      | .ok database =>
        match verifySchemaV1 database with
        | .error _ => .error .creationFailed
        | .ok _ => if files then .ok ⟨database, false⟩ else .error .creationFailed
  else .error .unsupportedRuntime

/-- Open and verify one existing database. -/
def openExisting (runtime files : Bool) (database : Database) :
    Except StoreRejection HealthHistoryStore :=
  if runtime then
    match verifySchemaV1 database with
    | .error _ => .error .openFailed
    | .ok _ => if files then .ok ⟨database, false⟩ else .error .openFailed
  else .error .unsupportedRuntime

/-- `close` -/
def close (s : HealthHistoryStore) : HealthHistoryStore := { s with closed := true }

/-! ## Operations -/

/-- Run an operation on the connection of an open store, between the checks. -/
def bracketed (errors : ErrorClass ε) (checks : IdentityChecks)
    (operation : Database → Except ε α × Database) (s : HealthHistoryStore) :
    Except (StoreFailure ε) α × HealthHistoryStore :=
  if s.closed then (.error (.store .storeClosed), s)
  else if checks.before then
    let (result, database) := operation s.database
    let s := { s with database := database }
    match result with
    | .error e =>
      if errors.trustLost e then (.error (.raised e), s.close)
      else if checks.after then (.error (.raised e), s)
      else (.error (.raised errors.trustFailed), s.close)
    | .ok a =>
      if checks.after then (.ok a, s) else (.error (.raised errors.trustFailed), s.close)
  else (.error (.raised errors.trustFailed), s.close)

/-- `_read_query` -/
def readQuery (checks : IdentityChecks) (reader : Database → Except QueryError α × Database) :
    HealthHistoryStore → Except (StoreFailure QueryError) α × HealthHistoryStore :=
  bracketed .query checks reader

/-- `_maintenance_operation` -/
def maintenanceOperation (checks : IdentityChecks)
    (operation : Database → Except MaintenanceError α × Database) :
    HealthHistoryStore → Except (StoreFailure MaintenanceError) α × HealthHistoryStore :=
  bracketed .maintenance checks operation

/-- `_storage_envelope_operation` -/
def storageEnvelopeOperation (checks : IdentityChecks)
    (operation : Database → Except StorageEnvelopeError α × Database) :
    HealthHistoryStore → Except (StoreFailure StorageEnvelopeError) α × HealthHistoryStore :=
  bracketed .envelope checks operation

/-- The result of a call on the connection, and what it leaves durable. -/
def onConnection (r : Except ε α × Connection Database) : Except ε α × Database :=
  (r.1, r.2.durable)

/-- Ingest one projection.  The checks behind it are made only when it succeeds. -/
def ingest (checks : IdentityChecks) (F : Faults SqliteError) (projection : HealthProjection)
    (s : HealthHistoryStore) :
    Except (StoreFailure IngestionError) IngestionOutcome × HealthHistoryStore :=
  if s.closed then (.error (.store .storeClosed), s)
  else if checks.before then
    let (result, database) := onConnection (Ingestion.ingestProjection F s.database projection)
    let s := { s with database := database }
    match result with
    | .error e => (.error (.raised e), if e.trustLost then s.close else s)
    | .ok outcome =>
      if checks.after then (.ok outcome, s) else (.error (.raised .trustFailed), s.close)
  else (.error (.raised .trustFailed), s.close)

/-- `list_health_samples` -/
def listHealthSamples (checks : IdentityChecks) (F : Faults SqliteError) (pageSize : Int)
    (cursor : Option HealthSampleCursor) (overallStatus : Option HealthHistoryStatus) :=
  readQuery checks fun db =>
    onConnection (Queries.listHealthSamples F db pageSize cursor overallStatus)

/-- `get_scheduler_resume_state` -/
def getSchedulerResumeState (checks : IdentityChecks) (F : Faults SqliteError) :=
  readQuery checks fun db => onConnection (Queries.getSchedulerResumeState F db)

/-- `list_alerts` -/
def listAlerts (checks : IdentityChecks) (F : Faults SqliteError) (pageSize : Int)
    (cursor : Option AlertCursor) (lifecycle : Option AlertLifecycle) :=
  readQuery checks fun db => onConnection (Queries.listAlerts F db pageSize cursor lifecycle)

/-- `get_alert` -/
def getAlert (checks : IdentityChecks) (F : Faults SqliteError) (alertId : Int) :=
  readQuery checks fun db => onConnection (Queries.getAlert F db alertId)

/-- `list_alert_events` -/
def listAlertEvents (checks : IdentityChecks) (F : Faults SqliteError) (alertId pageSize : Int)
    (cursor : Option AlertEventCursor) :=
  readQuery checks fun db => onConnection (Queries.listAlertEvents F db alertId pageSize cursor)

/-- One cleanup; `expired` says that its deadline has passed. -/
def cleanupRetention (checks : IdentityChecks) (F : Faults SqliteError) (expired : Bool)
    (nowUtcUs retentionDays : Int) :=
  maintenanceOperation checks fun db =>
    onConnection (Maintenance.cleanupRetention F expired db nowUtcUs retentionDays)

/-! The next five report on the files: they leave the rows alone. -/

/-- `incremental_vacuum` -/
def incrementalVacuum (checks : IdentityChecks) (reported : Except MaintenanceError Unit) :=
  maintenanceOperation checks fun db => (reported, db)

/-- `inspect_storage_capacity` -/
def inspectStorageCapacity (checks : IdentityChecks)
    (reported : Except StorageEnvelopeError StorageCapacityResult) :=
  storageEnvelopeOperation checks fun db => (reported, db)

/-- `inspect_free_space` -/
def inspectFreeSpace (checks : IdentityChecks)
    (reported : Except StorageEnvelopeError FreeSpaceResult) :=
  storageEnvelopeOperation checks fun db => (reported, db)

/-- `inspect_wal` -/
def inspectWal (checks : IdentityChecks)
    (reported : Except StorageEnvelopeError WalInspectionResult) :=
  storageEnvelopeOperation checks fun db => (reported, db)

/-- `passive_wal_checkpoint` -/
def passiveWalCheckpoint (checks : IdentityChecks)
    (reported : Except StorageEnvelopeError PassiveCheckpointResult) :=
  storageEnvelopeOperation checks fun db => (reported, db)

/-- Repeat the identity and schema checks. -/
def verify (files : Bool) (s : HealthHistoryStore) :
    Except StoreRejection Unit × HealthHistoryStore :=
  if s.closed then (.error .storeClosed, s)
  else
    match verifySchemaV1 s.database with
    | .error _ => (.error .verificationFailed, s.close)
    | .ok _ => if files then (.ok (), s) else (.error .verificationFailed, s.close)

/-! ## What an operation leaves -/

section Leaves

variable {errors : ErrorClass ε} {checks : IdentityChecks}
  {operation : Database → Except ε α × Database} {s : HealthHistoryStore}

theorem bracketed_closed (h : s.closed = true) :
    bracketed errors checks operation s = (.error (.store .storeClosed), s) := by
  unfold bracketed
  rw [if_pos h]

/-- The database is as before, or as the operation leaves it. -/
theorem bracketed_database :
    (bracketed errors checks operation s).2.database = s.database ∨
      (bracketed errors checks operation s).2.database = (operation s.database).2 := by
  unfold bracketed
  split
  · exact .inl rfl
  split
  · right
    dsimp only
    split
    · split
      · rfl
      · split <;> rfl
    · split <;> rfl
  · exact .inl rfl

/-- A value comes from the operation, on a store that stays open. -/
theorem bracketed_eq_ok {a : α} {s' : HealthHistoryStore}
    (h : bracketed errors checks operation s = (.ok a, s')) :
    s.closed = false ∧ (operation s.database).1 = .ok a := by
  unfold bracketed at h
  split at h
  · cases h
  rename_i hopen
  refine ⟨Bool.eq_false_iff.mpr hopen, ?_⟩
  split at h
  · dsimp only at h
    split at h
    · split at h
      · cases h
      · split at h <;> cases h
    · rename_i b hb
      split at h
      · obtain ⟨hab, -⟩ := Prod.mk.inj h
        rw [hb, Except.ok.inj hab]
      · cases h
  · cases h

/-- A closed store stays closed. -/
theorem bracketed_closes (h : s.closed = true) :
    (bracketed errors checks operation s).2.closed = true := by
  rw [bracketed_closed h]
  exact h

end Leaves

/-- A query leaves nothing durable. -/
theorem durable_readTransaction (F : Faults SqliteError) (db : Database) (reader : Transaction α) :
    (Queries.readTransaction F db reader).2.durable = db := by
  unfold Queries.readTransaction Connection.begin Connection.execute Connection.rollback
  cases F.begin with
  | some fault => rfl
  | none =>
    dsimp only
    cases F.rollback 0 <;> rfl

/-- What a query returns was read in its transaction. -/
theorem readTransaction_eq_ok {F : Faults SqliteError} {db : Database} {reader : Transaction α}
    {a : α} (h : (Queries.readTransaction F db reader).1 = .ok a) :
    ∃ db', reader.run db = .ok (a, db') := by
  unfold Queries.readTransaction Connection.begin Connection.execute Connection.rollback at h
  cases hbegin : F.begin with
  | some fault =>
    rw [hbegin] at h
    cases h
  | none =>
    rw [hbegin] at h
    dsimp only at h
    generalize hexec : Script.exec Raised.sqlite F reader {} db = x at h
    obtain ⟨result, cursor, db'⟩ := x
    cases hrollback : F.rollback 0 with
    | some fault =>
      rw [hrollback] at h
      cases h
    | none =>
      rw [hrollback] at h
      cases result with
      | error e => cases h
      | ok b =>
        obtain rfl := Except.ok.inj h
        exact ⟨db', Script.exec_ok hexec⟩

end HealthHistoryStore

end Aurora.HealthHistory
