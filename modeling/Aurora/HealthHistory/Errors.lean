/-
  The fixed error registries of the storage paths, and how a database error is classified.

  `Raised` collects everything that can be raised inside a transaction: the path's own errors, an
  error of the database engine, and a plain `ValueError`.
-/
import Aurora.HealthHistory.Models

namespace Aurora.HealthHistory

/-- An error of the database engine: whether it is an integrity error, and its extended code. -/
structure SqliteError where
  integrity : Bool
  errorcode : Option Int
deriving DecidableEq, Repr

namespace SqliteError

/-- A violated constraint. -/
def constraint : SqliteError := ⟨true, some 19⟩

/-- No room for another row. -/
def full : SqliteError := ⟨false, some 13⟩

/-- The primary result code: the low byte of the extended one. -/
def primaryCode (e : SqliteError) : Option Int := e.errorcode.map (· % 256)

/-- Busy or locked. -/
def busyCodes : List (Option Int) := [some 5, some 6]

/-- Corrupt, not a database, schema changed, constraint. -/
def trustCodes : List (Option Int) := [some 11, some 26, some 17, some 19]

instance (e : SqliteError) (codes : List (Option Int)) : Decidable (e.primaryCode ∈ codes) :=
  inferInstance

end SqliteError

/-! ## Ingestion -/

/-- Why an ingest was refused. -/
inductive IngestionRejection
  | invalidProjection | staleSequence | sequenceConflict | generationExhausted | storageBusy
  | persistenceFailed | malformedState | trustFailed
deriving DecidableEq, Repr

/-- The error of an ingest. -/
structure IngestionError where
  reason : IngestionRejection
  trustLost : Bool
deriving DecidableEq, Repr

namespace IngestionError

/-- A stored state that cannot be. -/
def malformedState : IngestionError := ⟨.malformedState, true⟩

/-- The database cannot be trusted. -/
def trustFailed : IngestionError := ⟨.trustFailed, true⟩

/-- `_classified_sqlite_error` -/
def classifiedSqliteError (error : SqliteError) : IngestionError :=
  if error.primaryCode ∈ SqliteError.busyCodes then ⟨.storageBusy, false⟩
  else if error.integrity ∨ error.primaryCode ∈ SqliteError.trustCodes then trustFailed
  else ⟨.persistenceFailed, false⟩

end IngestionError

/-! ## Queries -/

/-- Why a query was refused. -/
inductive QueryRejection
  | invalidQuery | invalidCursor | notFound | storageBusy | malformedState | trustFailed
  | persistenceFailed
deriving DecidableEq, Repr

/-- The error of a query. -/
structure QueryError where
  reason : QueryRejection
  trustLost : Bool
deriving DecidableEq, Repr

namespace QueryError

/-- A stored row that cannot be. -/
def malformed : QueryError := ⟨.malformedState, true⟩

/-- `_classified_sqlite_error` -/
def classifiedSqliteError (error : SqliteError) : QueryError :=
  if error.primaryCode ∈ SqliteError.busyCodes then ⟨.storageBusy, false⟩
  else if error.integrity ∨ error.primaryCode ∈ SqliteError.trustCodes then ⟨.trustFailed, true⟩
  else ⟨.persistenceFailed, false⟩

end QueryError

/-! ## Maintenance -/

/-- Why a cleanup was refused. -/
inductive MaintenanceRejection
  | invalidMaintenance | storageBusy | timedOut | persistenceFailed | malformedState | trustFailed
deriving DecidableEq, Repr

/-- The error of a cleanup. -/
structure MaintenanceError where
  reason : MaintenanceRejection
  trustLost : Bool
deriving DecidableEq, Repr

namespace MaintenanceError

/-- A stored state that cannot be. -/
def malformedState : MaintenanceError := ⟨.malformedState, true⟩

/-- The database cannot be trusted. -/
def trustFailed : MaintenanceError := ⟨.trustFailed, true⟩

/-- Here trust comes before contention, and an interrupt after the deadline is a timeout. -/
def classifiedSqliteError (error : SqliteError) (expired : Bool) : MaintenanceError :=
  if error.integrity ∨ error.primaryCode ∈ SqliteError.trustCodes then trustFailed
  else if error.primaryCode ∈ SqliteError.busyCodes then ⟨.storageBusy, false⟩
  else if expired ∧ (error.primaryCode = none ∨ error.primaryCode = some 9) then ⟨.timedOut, false⟩
  else ⟨.persistenceFailed, false⟩

end MaintenanceError

/-! ## Everything a transaction can raise -/

/-- What a transaction raises. -/
inductive Raised
  | ingestion (error : IngestionError)
  | query (error : QueryError)
  | maintenance (error : MaintenanceError)
  | sqlite (error : SqliteError)
  /-- A `ValueError` or `TypeError`. -/
  | value (text : String)
deriving DecidableEq, Repr

end Aurora.HealthHistory
