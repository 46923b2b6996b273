/-
  The database lifecycle: one store, and the leadership of its directory.

  Bootstrapping takes the leadership before it touches the store; closing ends the store before it
  gives the leadership up.  Every call of these may raise.  The source catches exceptions, so the
  answers tell what it catches from an interrupt, which goes through every handler.
-/
import Aurora.Lib.Threads
import Aurora.HealthHistory.Models

namespace Aurora.HealthHistory

open Program

/-! ## Calls -/

/-- How a call ends: a rejection of its own kind, another exception, or an interrupt. -/
inductive Outcome (ρ α : Type)
  | returned (a : α)
  | rejected (reason : ρ)
  | failed
  | interrupted

/-- The call raised something the source catches. -/
def Outcome.Failed {ρ α : Type} : Outcome ρ α → Prop
  | .rejected _ | .failed => True
  | .returned _ | .interrupted => False

/-- Why leadership was not acquired. -/
inductive LeadershipRejection
  | busy
  | trustFailed
  | unsupportedRuntime
  | acquisitionFailed
  | releaseFailed
deriving DecidableEq, Repr

/-- Why the database was not opened. -/
inductive DatabaseLifecycleRejection
  | invalidSettings
  | reservedDatabasePath
  | leadershipUnavailable
  | trustFailed
  | unsupportedRuntime
  | bootstrapFailed
  | cleanupFailed
  | closed
deriving DecidableEq, Repr

/-- What leaves the lifecycle: its own error, or an interrupt. -/
inductive LifecycleFailure
  | rejected (reason : DatabaseLifecycleRejection)
  | interrupted
deriving DecidableEq, Repr

variable {Store Leadership : Type}

/-- The calls of the lifecycle. -/
inductive LifecycleCall (Store Leadership : Type)
  | acquireLeadership (directory : String)
  | createStore (path : String) (createdAtUtcUs : Int)
  | openExisting (path : String)
  | closeStore (store : Store)
  | closeLeadership (leadership : Leadership)

/-- A `StoreError` carries its reason as a text. -/
def LifecycleAnswer : LifecycleCall Store Leadership → Type
  | .acquireLeadership _ => Outcome LeadershipRejection Leadership
  | .createStore _ _ | .openExisting _ => Outcome String Store
  | .closeStore _ => Outcome String Unit
  | .closeLeadership _ => Outcome LeadershipRejection Unit

/-- The interface it is written over. -/
def LifecycleInterface (Store Leadership : Type) : Interface :=
  ⟨LifecycleCall Store Leadership, LifecycleAnswer⟩

section Asks

variable {ε : Type}

/-- Ask for the leadership of a directory. -/
def askLeadership (directory : String) :
    Program (LifecycleInterface Store Leadership) ε (Outcome LeadershipRejection Leadership) :=
  ask (I := LifecycleInterface Store Leadership) (.acquireLeadership directory)

/-- Create a store. -/
def askCreate (path : String) (createdAtUtcUs : Int) :
    Program (LifecycleInterface Store Leadership) ε (Outcome String Store) :=
  ask (I := LifecycleInterface Store Leadership) (.createStore path createdAtUtcUs)

/-- Open a store that exists. -/
def askOpen (path : String) :
    Program (LifecycleInterface Store Leadership) ε (Outcome String Store) :=
  ask (I := LifecycleInterface Store Leadership) (.openExisting path)

/-- Close the store. -/
def askCloseStore (store : Store) :
    Program (LifecycleInterface Store Leadership) ε (Outcome String Unit) :=
  ask (I := LifecycleInterface Store Leadership) (.closeStore store)

/-- Give the leadership up. -/
def askRelease (leadership : Leadership) :
    Program (LifecycleInterface Store Leadership) ε (Outcome LeadershipRejection Unit) :=
  ask (I := LifecycleInterface Store Leadership) (.closeLeadership leadership)

end Asks

/-! ## The leadership handle -/

/-- What a leadership handle does with its descriptor. -/
inductive DescriptorCall
  | unlock (descriptor : Nat)
  | close (descriptor : Nat)

/-- The interface of a handle. -/
def DescriptorInterface : Interface :=
  ⟨DescriptorCall, fun _ => Outcome LeadershipRejection Unit⟩

/-- One call of a handle. -/
def askDescriptor (c : DescriptorCall) :
    Program DescriptorInterface Empty (Outcome LeadershipRejection Unit) :=
  ask (I := DescriptorInterface) c

/-- How a release ends, after its two calls. -/
def releaseOutcome :
    Outcome LeadershipRejection Unit → Outcome LeadershipRejection Unit →
      Outcome LeadershipRejection Unit
  | _, .interrupted => .interrupted
  | .returned (), .returned () => .returned ()
  | _, _ => .rejected .releaseFailed

/-- `HealthHistoryLeadership.close`: the handle forgets its descriptor before it uses it. -/
def closeHandle (descriptor : Option Nat) :
    Program DescriptorInterface Empty (Outcome LeadershipRejection Unit × Option Nat) :=
  match descriptor with
  | none => pure (.returned (), none)
  | some descriptor => do
    match ← askDescriptor (.unlock descriptor) with
    | .interrupted => pure (.interrupted, none)
    | unlocked =>
      let closed ← askDescriptor (.close descriptor)
      pure (releaseOutcome unlocked closed, none)

/-! ## Closing -/

/-- `HealthHistoryDatabaseLifecycle`, with what it owns. -/
structure HealthHistoryDatabaseLifecycle (Store Leadership : Type) where
  ownedStore : Option Store
  leadership : Option Leadership
  cleanupFailed : Bool
  closed : Bool
  leadershipReleaseUncertain : Bool

namespace HealthHistoryDatabaseLifecycle

/-- `__init__` -/
def new (store : Store) (leadership : Leadership) :
    HealthHistoryDatabaseLifecycle Store Leadership :=
  ⟨some store, some leadership, false, false, false⟩

/-- The owned store, while the lifecycle is usable. -/
def store (lifecycle : HealthHistoryDatabaseLifecycle Store Leadership) :
    Except DatabaseLifecycleRejection Store :=
  if lifecycle.closed then .error .closed
  else if lifecycle.cleanupFailed then .error .cleanupFailed
  else match lifecycle.ownedStore with
    | none => .error .cleanupFailed
    | some store => .ok store

/-- A close call leaves the lifecycle changed however it ends. -/
abbrev Closed (Store Leadership : Type) : Type :=
  Except LifecycleFailure Unit × HealthHistoryDatabaseLifecycle Store Leadership

/-- The second half of a close: give the leadership up, once the store is closed. -/
def release (lifecycle : HealthHistoryDatabaseLifecycle Store Leadership) :
    Program (LifecycleInterface Store Leadership) Empty (Closed Store Leadership) :=
  match lifecycle.leadership with
  | none => pure (.ok (), { lifecycle with closed := true, cleanupFailed := false })
  | some leadership => do
    match ← askRelease leadership with
    | .returned () =>
      pure (.ok (), { lifecycle with
        leadership := none
        closed := true
        cleanupFailed := false
        leadershipReleaseUncertain := false })
    | .interrupted => pure (.error .interrupted, lifecycle)
    | .rejected _ | .failed =>
      pure (.error (.rejected .cleanupFailed), { lifecycle with
        cleanupFailed := true
        leadershipReleaseUncertain := true })

/-- Close the store before the leadership, without a retry. -/
def close (lifecycle : HealthHistoryDatabaseLifecycle Store Leadership) :
    Program (LifecycleInterface Store Leadership) Empty (Closed Store Leadership) :=
  if lifecycle.closed then pure (.ok (), lifecycle)
  else if lifecycle.leadershipReleaseUncertain then
    pure (.error (.rejected .cleanupFailed), lifecycle)
  else match lifecycle.ownedStore with
    | none => lifecycle.release
    | some store => do
      match ← askCloseStore store with
      | .returned () => release { lifecycle with ownedStore := none }
      | .interrupted => pure (.error .interrupted, lifecycle)
      | .rejected _ | .failed =>
        pure (.error (.rejected .cleanupFailed), { lifecycle with cleanupFailed := true })

/-- `__enter__`; `__exit__` is a close. -/
def enter (lifecycle : HealthHistoryDatabaseLifecycle Store Leadership) :
    Except DatabaseLifecycleRejection Unit :=
  if lifecycle.closed then .error .closed
  else if lifecycle.cleanupFailed then .error .cleanupFailed
  else .ok ()

end HealthHistoryDatabaseLifecycle

/-! ## Bootstrapping -/

/-- Whether a missing database is created. -/
inductive HealthHistoryDatabaseMode
  | openExisting
  | createIfMissing
deriving DecidableEq, Repr

/-- The settings the bootstrap reads. -/
structure HealthHistorySettings where
  enabled : Bool
  databasePath : Option String
  databaseMode : HealthHistoryDatabaseMode

/-- What a bootstrap is given. -/
structure BootstrapRequest where
  /-- The settings after their validation; nothing where it refuses them. -/
  snapshot : Option HealthHistorySettings
  /-- Nothing where it is not exactly an integer. -/
  createdAtUtcUs : Option Int
  monotonicCallable : Bool

/-- The name of the lock file, which no database may have. -/
def leadershipLockFilename : String := ".aurora-health-history.lock"

/-- `Path(path).name` and `Path(path).parent`, for a path of the validated grammar. -/
def pathName (path : String) : List Char := (path.toList.splitOn '/').getLastD []

/-- The directory of a path. -/
def pathParent (path : String) : String :=
  let parent := ['/'].intercalate (path.toList.splitOn '/').dropLast
  if parent.isEmpty then "/" else String.ofList parent

/-- What a refused leadership is reported as. -/
def leadershipReason : LeadershipRejection → DatabaseLifecycleRejection
  | .busy => .leadershipUnavailable
  | .trustFailed => .trustFailed
  | .unsupportedRuntime => .unsupportedRuntime
  | .acquisitionFailed => .bootstrapFailed
  | .releaseFailed => .bootstrapFailed

/-- What a refused store is reported as. -/
def storeRejection (reason : String) : DatabaseLifecycleRejection :=
  if reason = "unsupported_runtime" then .unsupportedRuntime else .bootstrapFailed

/-- Acquire leadership, or report why not. -/
def acquireLeadership (directory : String) :
    Program (LifecycleInterface Store Leadership) LifecycleFailure Leadership := do
  match ← askLeadership directory with
  | .returned leadership => pure leadership
  | .rejected reason => raise (.rejected (leadershipReason reason))
  | .failed => raise (.rejected .bootstrapFailed)
  | .interrupted => raise .interrupted

/-- Open the store, or report why not. -/
def openExistingStore (path : String) :
    Program (LifecycleInterface Store Leadership) LifecycleFailure Store := do
  match ← askOpen path with
  | .returned store => pure store
  | .rejected reason => raise (.rejected (storeRejection reason))
  | .failed => raise (.rejected .bootstrapFailed)
  | .interrupted => raise .interrupted

/-- `_bootstrap_store` -/
def bootstrapStore (mode : HealthHistoryDatabaseMode) (path : String) (createdAtUtcUs : Int) :
    Program (LifecycleInterface Store Leadership) LifecycleFailure Store :=
  match mode with
  | .openExisting => openExistingStore path
  | .createIfMissing => do
    match ← askCreate path createdAtUtcUs with
    | .returned store => pure store
    | .rejected reason =>
      if reason = "already_exists" then openExistingStore path
      else raise (.rejected (storeRejection reason))
    | .failed => raise (.rejected .bootstrapFailed)
    | .interrupted => raise .interrupted

/-- `_release_after_bootstrap_failure` -/
def releaseAfterBootstrapFailure {α : Type} (leadership : Leadership)
    (reason : DatabaseLifecycleRejection) :
    Program (LifecycleInterface Store Leadership) LifecycleFailure α := do
  match ← askRelease leadership with
  | .returned () => raise (.rejected reason)
  | .interrupted => raise .interrupted
  | .rejected _ | .failed => raise (.rejected .cleanupFailed)

/-- The timestamp a creation needs; opening ignores it. -/
def createdAtOf (request : BootstrapRequest) : HealthHistoryDatabaseMode → Option Int
  | .openExisting => some 0
  | .createIfMissing => request.createdAtUtcUs.filter fun t => 0 ≤ t ∧ t ≤ maxTimestampUs

/-- `bootstrap_health_history_database` -/
def bootstrapHealthHistoryDatabase (request : BootstrapRequest) :
    Program (LifecycleInterface Store Leadership) LifecycleFailure
      (Option (HealthHistoryDatabaseLifecycle Store Leadership)) :=
  match request.snapshot with
  | none => raise (.rejected .invalidSettings)
  | some settings =>
    if !settings.enabled then pure none
    else if !request.monotonicCallable then raise (.rejected .invalidSettings)
    else match settings.databasePath with
      | none => raise (.rejected .invalidSettings)
      | some path => match createdAtOf request settings.databaseMode with
        | none => raise (.rejected .invalidSettings)
        | some createdAtUtcUs =>
          if pathName path = leadershipLockFilename.toList then
            raise (.rejected .reservedDatabasePath)
          else do
            let leadership ← acquireLeadership (pathParent path)
            match ← (bootstrapStore settings.databaseMode path createdAtUtcUs).catching with
            | .ok store => pure (some (.new store leadership))
            | .error (.rejected reason) => releaseAfterBootstrapFailure leadership reason
            | .error .interrupted => raise .interrupted

end Aurora.HealthHistory
