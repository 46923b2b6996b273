/-
  The health service of the dashboard: one cached report, and at most one collector sweep at a time.

  Two locks guard it.  The collection lock is held by a whole `get_health`, the state lock only by
  the short sections that read, drop or publish the cache; such a section is one call here.  A sweep
  runs outside the state lock, so it is two calls, its start and its end.

  A report carries the number of the sweep it comes from, which the source does not have: it tells
  reports with the same content apart.
-/
import Mathlib.Data.Rat.Defs
import Mathlib.Algebra.Order.Ring.Rat
import Aurora.Lib.Dict
import Aurora.Lib.Gate
import Aurora.HealthHistory.Models

namespace Aurora.Dashboard

open HealthHistory (HealthHistoryStatus)

/-! ## Reports -/

/-- What the health service keeps of a component. -/
structure ComponentHealth where
  name : String
  status : HealthHistoryStatus
  lastSuccessfulAt : Option String

/-- What it keeps of a report. -/
structure HealthReport where
  status : HealthHistoryStatus
  checkedAt : String
  serviceUptimeSeconds : ℚ
  components : List ComponentHealth

/-- The worst component status. -/
def overallStatus (components : List ComponentHealth) : HealthHistoryStatus :=
  let statuses := components.map ComponentHealth.status
  if components.isEmpty then .unavailable
  else if .unavailable ∈ statuses then .unavailable
  else if .degraded ∈ statuses then .degraded
  else .healthy

/-- A report with the number of the sweep that collected it. -/
structure Snapshot where
  collection : Nat
  report : HealthReport

/-- `_with_last_success`: remember a success, or fill in the last one. -/
def withLastSuccess (lastSuccesses : Dict String String) (component : ComponentHealth) :
    ComponentHealth × Dict String String :=
  match component.lastSuccessfulAt with
  | some at_ => (component, lastSuccesses.set component.name at_)
  | none =>
    match lastSuccesses.get? component.name with
    | none => (component, lastSuccesses)
    | some previous => ({ component with lastSuccessfulAt := some previous }, lastSuccesses)

/-- The components of a sweep, one after the other. -/
def withLastSuccesses (lastSuccesses : Dict String String) :
    List ComponentHealth → List ComponentHealth × Dict String String
  | [] => ([], lastSuccesses)
  | component :: components =>
    let (component, lastSuccesses) := withLastSuccess lastSuccesses component
    let (components, lastSuccesses) := withLastSuccesses lastSuccesses components
    (component :: components, lastSuccesses)

/-! ## Calls -/

/-- What the section that looks at the cache finds. -/
inductive Lookup
  | cached (snapshot : Snapshot)
  | stale (generation : Nat)

/-- A sweep that raised. -/
inductive CollectionFailure
  | raised
deriving DecidableEq

/-- The calls of the health service. -/
inductive HealthCall
  | lockCollection
  | unlockCollection
  | readClock
  | checkCache (now : ℚ)
  | startCollection
  | finishCollection (serviceUptimeSeconds : ℚ)
  | rememberSuccesses (components : List ComponentHealth)
  | publish (generation : Nat) (snapshot : Snapshot)
  | invalidate

/-- `startCollection` gets the number of the sweep, `publish` the reading the report was cached
    at, if it was. -/
def HealthCall.Answer : HealthCall → Type
  | lockCollection => Unit
  | unlockCollection => Unit
  | readClock => ℚ
  | checkCache _ => Lookup
  | startCollection => Nat
  | finishCollection _ => Except CollectionFailure HealthReport
  | rememberSuccesses _ => List ComponentHealth
  | publish _ _ => Option ℚ
  | invalidate => Unit

/-- The interface the service is written over. -/
abbrev HealthInterface : Interface := ⟨HealthCall, HealthCall.Answer⟩

/-- A program of the health service. -/
abbrev HealthProgram := Program HealthInterface CollectionFailure

open Program (ask invoke ofExcept)

/-- Wait for the lock of the sweeps. -/
def lockCollection : HealthProgram Unit := ask (I := HealthInterface) .lockCollection
/-- Give it back. -/
def unlockCollection : HealthProgram Unit := ask (I := HealthInterface) .unlockCollection
/-- A reading of the monotonic clock. -/
def readClock : HealthProgram ℚ := ask (I := HealthInterface) .readClock
/-- What the cache holds at this reading. -/
def checkCache (now : ℚ) : HealthProgram Lookup := ask (I := HealthInterface) (.checkCache now)
/-- Begin a sweep, and get its number. -/
def startCollection : HealthProgram Nat := ask (I := HealthInterface) .startCollection

/-- End the sweep, with a report or an exception. -/
def finishCollection (serviceUptimeSeconds : ℚ) : HealthProgram HealthReport :=
  invoke (I := HealthInterface) (.finishCollection serviceUptimeSeconds) id

/-- Fill in when each component was last seen to work. -/
def rememberSuccesses (components : List ComponentHealth) :
    HealthProgram (List ComponentHealth) :=
  ask (I := HealthInterface) (.rememberSuccesses components)

/-- Cache a report, unless the cache was dropped since its sweep began. -/
def publish (generation : Nat) (snapshot : Snapshot) : HealthProgram (Option ℚ) :=
  ask (I := HealthInterface) (.publish generation snapshot)

/-- Drop the cache. -/
def dropCache : HealthProgram Unit := ask (I := HealthInterface) .invalidate

/-! ## The two operations -/

/-- A sweep and its publication. -/
def collect (startedAt now : ℚ) (generation : Nat) : HealthProgram Snapshot := do
  let number ← startCollection
  let report ← finishCollection (now - startedAt)
  let components ← rememberSuccesses report.components
  let snapshot : Snapshot :=
    ⟨number, { report with status := overallStatus components, components := components }⟩
  let _ ← publish generation snapshot
  return snapshot

/-- What `get_health` does while it holds the collection lock. -/
def collectOrReuse (startedAt : ℚ) : HealthProgram Snapshot := do
  let now ← readClock
  match ← checkCache now with
  | .cached snapshot => return snapshot
  | .stale generation => collect startedAt now generation

/-- `get_health`: a recent snapshot, collecting at most one at a time. -/
def getHealth (startedAt : ℚ) : HealthProgram (Option Snapshot) := do
  lockCollection
  let result ← (collectOrReuse startedAt).catching
  unlockCollection
  ofExcept (result.map some)

/-- `invalidate`: drop the cache without waiting for a sweep. -/
def invalidate : HealthProgram (Option Snapshot) := do
  dropCache
  return none

/-- What a thread asks of the service. -/
inductive HealthRequest
  | getHealth
  | invalidate
deriving DecidableEq

/-- The program of a request. -/
def HealthRequest.program (startedAt : ℚ) : HealthRequest → HealthProgram (Option Snapshot)
  | .getHealth => Dashboard.getHealth startedAt
  | .invalidate => Dashboard.invalidate

/-! ## The shared state -/

/-- The state of `HealthService`. -/
structure HealthService (Tid : Type) where
  collectionLock : GateOwner Tid
  /-- The last reading of the clock. -/
  clock : ℚ
  cachedReport : Option Snapshot
  cachedAt : Option ℚ
  invalidationGeneration : Nat
  lastSuccesses : Dict String String
  /-- How many sweeps were started. -/
  collections : Nat

namespace HealthService

variable {Tid : Type}

/-- The service as its constructor leaves it. -/
def fresh (startedAt : ℚ) : HealthService Tid where
  collectionLock := none
  clock := startedAt
  cachedReport := none
  cachedAt := none
  invalidationGeneration := 0
  lastSuccesses := .empty
  collections := 0

/-- What the state-lock section of `get_health` finds. -/
def lookup (refreshSeconds : ℚ) (now : ℚ) (service : HealthService Tid) : Lookup :=
  match service.cachedReport, service.cachedAt with
  | some snapshot, some at_ =>
    if now - at_ < refreshSeconds then .cached snapshot
    else .stale service.invalidationGeneration
  | _, _ => .stale service.invalidationGeneration

/-- One call of a thread, with its answer. -/
inductive Step (refreshSeconds : ℚ) :
    HealthService Tid → Tid → Exchange HealthInterface → HealthService Tid → Prop
  | lockCollection {service : HealthService Tid} {t : Tid} (h : service.collectionLock = none) :
    Step refreshSeconds service t ⟨.lockCollection, ()⟩
      { service with collectionLock := some (t, 0) }
  | unlockCollection {service : HealthService Tid} {t : Tid}
      (h : service.collectionLock = some (t, 0)) :
    Step refreshSeconds service t ⟨.unlockCollection, ()⟩ { service with collectionLock := none }
  | readClock {service : HealthService Tid} {t : Tid} {now : ℚ} (h : service.clock ≤ now) :
    Step refreshSeconds service t ⟨.readClock, now⟩ { service with clock := now }
  | checkCache (service : HealthService Tid) (t : Tid) (now : ℚ) :
    Step refreshSeconds service t ⟨.checkCache now, service.lookup refreshSeconds now⟩ service
  | startCollection (service : HealthService Tid) (t : Tid) :
    Step refreshSeconds service t ⟨.startCollection, service.collections⟩
      { service with collections := service.collections + 1 }
  | finishCollection (service : HealthService Tid) (t : Tid) (uptime : ℚ)
      (result : Except CollectionFailure HealthReport) :
    Step refreshSeconds service t ⟨.finishCollection uptime, result⟩ service
  | rememberSuccesses (service : HealthService Tid) (t : Tid) (components : List ComponentHealth) :
    Step refreshSeconds service t
      ⟨.rememberSuccesses components, (withLastSuccesses service.lastSuccesses components).1⟩
      { service with lastSuccesses := (withLastSuccesses service.lastSuccesses components).2 }
  | published {service : HealthService Tid} {t : Tid} {generation : Nat} {snapshot : Snapshot}
      {now : ℚ} (h : generation = service.invalidationGeneration) (hclock : service.clock ≤ now) :
    Step refreshSeconds service t ⟨.publish generation snapshot, some now⟩
      { service with cachedReport := some snapshot, cachedAt := some now, clock := now }
  | outdated {service : HealthService Tid} {t : Tid} {generation : Nat} {snapshot : Snapshot}
      (h : generation ≠ service.invalidationGeneration) :
    Step refreshSeconds service t ⟨.publish generation snapshot, none⟩ service
  | invalidate (service : HealthService Tid) (t : Tid) :
    Step refreshSeconds service t ⟨.invalidate, ()⟩
      { service with
        invalidationGeneration := service.invalidationGeneration + 1
        cachedReport := none
        cachedAt := none }

end HealthService

end Aurora.Dashboard
