/-
  The code-owned types of the health-history records: limits, enumerations and their stored texts.

  Every enumeration has `value`, the text the database stores for it.  Integers are unbounded here,
  as they are in the source; each record states its own bounds.
-/
import Mathlib.Algebra.Group.Int.Defs
import Mathlib.Algebra.Group.Nat.Defs
import Mathlib.Data.List.Basic

namespace Aurora.HealthHistory

/-! ## Limits -/

/-- The application identifier in the header of the database file. -/
def applicationId : Int := 0x41555248
/-- The version of the schema, in the header and in the migration ledger. -/
def schemaVersion : Int := 1
/-- The auto-vacuum mode of a new database. -/
def autoVacuumIncremental : Int := 2
/-- The length of a SHA-256 digest. -/
def projectionDigestBytes : Nat := 32
/-- More objects than this are not read when a schema is verified. -/
def maxSchemaObjects : Nat := 64
/-- The largest timestamp, in microseconds. -/
def maxTimestampUs : Int := 2 ^ 63 - 1
/-- A thousand years, in milliseconds. -/
def maxServiceUptimeMs : Int := 31536000000000
/-- Five minutes, in milliseconds. -/
def maxComponentLatencyMs : Int := 300000
/-- The value every counter saturates at. -/
def maxBoundedCounter : Int := 65535
/-- The largest sequence of an observation. -/
def maxObservationSequence : Int := 2 ^ 63 - 1
/-- How many accepted observations the replay ledger remembers. -/
def replayLedgerCapacity : Nat := 64
/-- The largest version a migration may have. -/
def maxSchemaVersion : Int := 2147483647

/-! ## Enumerations -/

/-- The components a health report is about. -/
inductive ComponentName
  | wled | hyperhdr | capture | raspberryPi
deriving DecidableEq, Repr

/-- The text of a component in a projection and in the database. -/
def ComponentName.value : ComponentName → String
  | wled => "wled"
  | hyperhdr => "hyperhdr"
  | capture => "capture"
  | raspberryPi => "raspberry_pi"

/-- The order of the components in a projection. -/
def componentOrder : List ComponentName := [.wled, .hyperhdr, .capture, .raspberryPi]

/-- The status of a component, or of all of them together. -/
inductive HealthHistoryStatus
  | healthy | degraded | unavailable
deriving DecidableEq, Repr

/-- The text of a status. -/
def HealthHistoryStatus.value : HealthHistoryStatus → String
  | healthy => "healthy"
  | degraded => "degraded"
  | unavailable => "unavailable"

/-- Why a sample is stored. -/
inductive SampleKind
  | transition | heartbeat | startupGap | clockDiscontinuity
deriving DecidableEq, Repr

/-- The text of a sample kind. -/
def SampleKind.value : SampleKind → String
  | transition => "transition"
  | heartbeat => "heartbeat"
  | startupGap => "startup_gap"
  | clockDiscontinuity => "clock_discontinuity"

/-- What an alert is about: everything, one component, or the sampling itself. -/
inductive AlertScope
  | overall | wled | hyperhdr | capture | raspberryPi | sampling
deriving DecidableEq, Repr

/-- The text of a scope. -/
def AlertScope.value : AlertScope → String
  | overall => "overall"
  | wled => "wled"
  | hyperhdr => "hyperhdr"
  | capture => "capture"
  | raspberryPi => "raspberry_pi"
  | sampling => "sampling"

/-- The scopes in declaration order. -/
def alertScopes : List AlertScope :=
  [.overall, .wled, .hyperhdr, .capture, .raspberryPi, .sampling]

/-- What is wrong with the scope of an alert. -/
inductive AlertKind
  | degraded | unavailable | samplingGap
deriving DecidableEq, Repr

/-- The text of an alert kind. -/
def AlertKind.value : AlertKind → String
  | degraded => "degraded"
  | unavailable => "unavailable"
  | samplingGap => "sampling_gap"

/-- The stages of an alert. -/
inductive AlertLifecycle
  | «open» | acknowledged | recovered | archived
deriving DecidableEq, Repr

/-- The text of a lifecycle. -/
def AlertLifecycle.value : AlertLifecycle → String
  | «open» => "open"
  | acknowledged => "acknowledged"
  | recovered => "recovered"
  | archived => "archived"

/-- The events in the history of an alert. -/
inductive LifecycleEvent
  | opened | occurrenceUpdated | acknowledged | recovered | archived
deriving DecidableEq, Repr

/-- The text of an event. -/
def LifecycleEvent.value : LifecycleEvent → String
  | opened => "opened"
  | occurrenceUpdated => "occurrence_updated"
  | acknowledged => "acknowledged"
  | recovered => "recovered"
  | archived => "archived"

/-- The phases of the evaluator of sampling gaps. -/
inductive SamplingGapPhase
  | clear | candidateOne | active | recoveryOne
deriving DecidableEq, Repr

/-- The text of a phase. -/
def SamplingGapPhase.value : SamplingGapPhase → String
  | clear => "clear"
  | candidateOne => "candidate_one"
  | active => "active"
  | recoveryOne => "recovery_one"

/-! ## Bounds -/

/-- An integer between zero and a maximum. -/
def Bounded (maximum value : Int) : Prop := 0 ≤ value ∧ value ≤ maximum

instance (maximum value : Int) : Decidable (Bounded maximum value) :=
  inferInstanceAs (Decidable (_ ∧ _))

/-- Absent, or between zero and a maximum. -/
def BoundedOption (maximum : Int) (value : Option Int) : Prop := ∀ v ∈ value, Bounded maximum v

instance (maximum : Int) (value : Option Int) : Decidable (BoundedOption maximum value) :=
  match value with
  | none => isTrue fun v hv => by cases hv
  | some v => decidable_of_iff (Bounded maximum v) ⟨fun h w hw => by
      rw [← Option.some.inj (Option.mem_def.mp hw)]; exact h, fun h => h v rfl⟩

@[simp] theorem boundedOption_none (maximum : Int) : BoundedOption maximum none := by
  simp [BoundedOption]

@[simp] theorem boundedOption_some (maximum v : Int) :
    BoundedOption maximum (some v) ↔ Bounded maximum v := by
  simp [BoundedOption]

/-- An integer between one and a maximum. -/
def Positive (maximum value : Int) : Prop := 1 ≤ value ∧ value ≤ maximum

instance (maximum value : Int) : Decidable (Positive maximum value) :=
  inferInstanceAs (Decidable (_ ∧ _))

theorem bounded_zero : Bounded maxBoundedCounter 0 := by decide

theorem positive_one : Positive maxBoundedCounter 1 := by decide

end Aurora.HealthHistory
