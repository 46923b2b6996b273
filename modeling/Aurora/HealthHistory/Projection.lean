/-
  Strict projection of a public health report to the fields the history keeps.

  `projectHealthReport` validates a report and either rejects it or builds a `HealthProjection` with
  the digest of its canonical bytes; `validateHealthProjection` checks a projection again before it
  reaches storage.  The canonical bytes leave out exactly the recording time.

  Parts of a report that may be of the wrong Python type are optional here, with `none` for a value
  of another type.
-/
import Aurora.Lib.Checks
import Aurora.Lib.Json
import Aurora.Lib.Sha256
import Aurora.HealthHistory.Reasons

namespace Aurora.HealthHistory

/-! ## Projections -/

/-- A component as it is stored. -/
structure ComponentProjection where
  component : ComponentName
  status : HealthHistoryStatus
  reasons : List NormalizedReason
  checkedAtUtcUs : Int
  latencyMs : Int
  lastSuccessfulAtUtcUs : Option Int
deriving DecidableEq

/-- The constructor's checks, in the source's order. -/
def ComponentProjection.check (c : ComponentProjection) : Except String Unit := do
  require "invalid_reasons" (1 ≤ c.reasons.length ∧ c.reasons.length ≤ 3)
  require "duplicate_reasons" c.reasons.Nodup
  require "invalid_reason_count" (c.reasons.length ≤ maximumReasons c.component)
  require "invalid_reason_component" (∀ r ∈ c.reasons, r.ofComponent c.component = true)
  require "invalid_checked_at" (Bounded maxTimestampUs c.checkedAtUtcUs)
  require "invalid_latency" (Bounded maxComponentLatencyMs c.latencyMs)
  require "invalid_last_successful_at" (BoundedOption maxTimestampUs c.lastSuccessfulAtUtcUs)

/-- What the checks of one component establish. -/
structure ComponentProjection.Valid (c : ComponentProjection) : Prop where
  nonempty : 1 ≤ c.reasons.length
  nodup : c.reasons.Nodup
  short : c.reasons.length ≤ maximumReasons c.component
  ofComponent : ∀ r ∈ c.reasons, r.ofComponent c.component = true
  checkedAt : Bounded maxTimestampUs c.checkedAtUtcUs
  latency : Bounded maxComponentLatencyMs c.latencyMs
  lastSuccessfulAt : BoundedOption maxTimestampUs c.lastSuccessfulAtUtcUs

theorem maximumReasons_le (component : ComponentName) : maximumReasons component ≤ 3 := by
  cases component <;> decide

/-- The checks of the constructor are the validity. -/
theorem ComponentProjection.check_eq_ok {c : ComponentProjection} :
    c.check = .ok () ↔ c.Valid := by
  unfold ComponentProjection.check
  simp only [require_bind_eq_ok, require_eq_ok]
  constructor
  · rintro ⟨⟨h₁, _⟩, h₂, h₃, h₄, h₅, h₆, h₇⟩
    exact ⟨h₁, h₂, h₃, h₄, h₅, h₆, h₇⟩
  · intro h
    exact ⟨⟨h.nonempty, h.short.trans (maximumReasons_le _)⟩, h.nodup, h.short, h.ofComponent,
      h.checkedAt, h.latency, h.lastSuccessfulAt⟩

/-- A report as it is ingested. -/
structure HealthProjection where
  schemaVersion : Int
  observationSequence : Int
  observedAtUtcUs : Int
  recordedAtUtcUs : Int
  overallStatus : HealthHistoryStatus
  serviceUptimeMs : Int
  sampleKind : SampleKind
  missedIntervals : Int
  components : List ComponentProjection
  digest : Bytes
deriving DecidableEq

/-- The order of the statuses. -/
def HealthHistoryStatus.severity : HealthHistoryStatus → Nat
  | healthy => 0
  | degraded => 1
  | unavailable => 2

/-- The first status of the largest severity. -/
def worstComponentStatus : List ComponentProjection → Option HealthHistoryStatus
  | [] => none
  | c :: rest => some (rest.foldl
      (fun worst c => if worst.severity < c.status.severity then c.status else worst) c.status)

/-- The constructor's checks, in the source's order. -/
def HealthProjection.check (p : HealthProjection) : Except String Unit := do
  require "invalid_schema_version" (p.schemaVersion = 1)
  require "invalid_observation_sequence" (Bounded maxObservationSequence p.observationSequence)
  require "invalid_observed_at" (Bounded maxTimestampUs p.observedAtUtcUs)
  require "invalid_recorded_at" (Bounded maxTimestampUs p.recordedAtUtcUs)
  require "invalid_service_uptime" (Bounded maxServiceUptimeMs p.serviceUptimeMs)
  require "invalid_missed_intervals" (Bounded maxBoundedCounter p.missedIntervals)
  require "invalid_component_order"
    (p.components.map ComponentProjection.component = componentOrder)
  require "inconsistent_overall_status"
    (worstComponentStatus p.components = some p.overallStatus)
  require "invalid_digest" (p.digest.length = projectionDigestBytes)

/-- What the constructor's checks establish. -/
structure HealthProjection.Checked (p : HealthProjection) : Prop where
  schemaVersion : p.schemaVersion = 1
  sequence : Bounded maxObservationSequence p.observationSequence
  observedAt : Bounded maxTimestampUs p.observedAtUtcUs
  recordedAt : Bounded maxTimestampUs p.recordedAtUtcUs
  uptime : Bounded maxServiceUptimeMs p.serviceUptimeMs
  missed : Bounded maxBoundedCounter p.missedIntervals
  order : p.components.map ComponentProjection.component = componentOrder
  overall : worstComponentStatus p.components = some p.overallStatus
  digestLength : p.digest.length = projectionDigestBytes

theorem HealthProjection.check_eq_ok {p : HealthProjection} : p.check = .ok () ↔ p.Checked := by
  unfold HealthProjection.check
  simp only [require_bind_eq_ok, require_eq_ok]
  constructor
  · rintro ⟨h₁, h₂, h₃, h₄, h₅, h₆, h₇, h₈, h₉⟩
    exact ⟨h₁, h₂, h₃, h₄, h₅, h₆, h₇, h₈, h₉⟩
  · intro h
    exact ⟨h.schemaVersion, h.sequence, h.observedAt, h.recordedAt, h.uptime, h.missed, h.order,
      h.overall, h.digestLength⟩

/-! ## Canonical bytes -/

/-- A number, or `null`. -/
def canonicalOption : Option Int → Json
  | none => .null
  | some n => .int n

/-- The canonical form of a component. -/
def canonicalComponent (c : ComponentProjection) : Json :=
  .arr [.str c.component.value, .str c.status.value, .arr (c.reasons.map fun r => .str r.value),
    .int c.checkedAtUtcUs, .int c.latencyMs, canonicalOption c.lastSuccessfulAtUtcUs]

/-- The fields the digest covers. -/
def canonicalFields (observationSequence observedAt : Int) (status : HealthHistoryStatus)
    (uptime : Int) (sampleKind : SampleKind) (missedIntervals : Int)
    (components : List ComponentProjection) : Json :=
  .arr ([.int 1, .int observationSequence, .int observedAt, .str status.value, .int uptime,
    .str sampleKind.value, .int missedIntervals] ++ components.map canonicalComponent)

/-- The canonical form of a projection, which its digest is taken of. -/
def canonicalBytes (observationSequence observedAt : Int) (status : HealthHistoryStatus)
    (uptime : Int) (sampleKind : SampleKind) (missedIntervals : Int)
    (components : List ComponentProjection) : Bytes :=
  (canonicalFields observationSequence observedAt status uptime sampleKind missedIntervals
    components).bytes

/-- The canonical bytes of a projection. -/
def HealthProjection.canonical (p : HealthProjection) : Bytes :=
  canonicalBytes p.observationSequence p.observedAtUtcUs p.overallStatus p.serviceUptimeMs
    p.sampleKind p.missedIntervals p.components

/-! ### The bytes determine the fields -/

/-- Reasons are told apart by their texts. -/
theorem NormalizedReason.value_injective : Function.Injective NormalizedReason.value := by
  have hnodup : (registry.map NormalizedReason.value).Nodup := by decide +kernel
  intro a b h
  exact List.inj_on_of_nodup_map hnodup a.mem_registry b.mem_registry h

/-- No text of a reason has to be escaped. -/
theorem NormalizedReason.plain (r : NormalizedReason) :
    ∀ c ∈ r.value.toList, Json.PlainChar c := by
  have hall : registry.all (fun r => r.value.toList.all fun c => decide (Json.PlainChar c)) = true := by
    decide +kernel
  exact Json.forall_of_all (List.all_eq_true.mp hall r r.mem_registry)

/-- So the canonical form of a component is plain. -/
theorem canonicalComponent_plain (c : ComponentProjection) : (canonicalComponent c).Plain := by
  have hname : ∀ x ∈ c.component.value.toList, Json.PlainChar x := by
    cases c.component <;> exact Json.forall_of_all (by decide +kernel)
  have hstatus : ∀ x ∈ c.status.value.toList, Json.PlainChar x := by
    cases c.status <;> exact Json.forall_of_all (by decide +kernel)
  have hreasons : Json.PlainItems (c.reasons.map fun r => Json.str r.value) := by
    rw [Json.plainItems_iff]
    intro x hx
    obtain ⟨r, -, rfl⟩ := List.mem_map.mp hx
    exact r.plain
  have hlast : (canonicalOption c.lastSuccessfulAtUtcUs).Plain := by
    cases c.lastSuccessfulAtUtcUs <;> trivial
  exact ⟨hname, hstatus, hreasons, trivial, trivial, hlast, trivial⟩

theorem canonicalFields_plain (sequence observedAt : Int) (status : HealthHistoryStatus)
    (uptime : Int) (kind : SampleKind) (missed : Int) (components : List ComponentProjection) :
    (canonicalFields sequence observedAt status uptime kind missed components).Plain := by
  have hstatus : ∀ x ∈ status.value.toList, Json.PlainChar x := by
    cases status <;> exact Json.forall_of_all (by decide +kernel)
  have hkind : ∀ x ∈ kind.value.toList, Json.PlainChar x := by
    cases kind <;> exact Json.forall_of_all (by decide +kernel)
  have hcomponents : Json.PlainItems (components.map canonicalComponent) := by
    rw [Json.plainItems_iff]
    intro x hx
    obtain ⟨c, -, rfl⟩ := List.mem_map.mp hx
    exact canonicalComponent_plain c
  exact ⟨trivial, trivial, trivial, hstatus, trivial, hkind, trivial, hcomponents⟩

/-- A component can be read back from its canonical form. -/
theorem canonicalComponent_injective : Function.Injective canonicalComponent := by
  intro a b h
  simp only [canonicalComponent, Json.arr.injEq, List.cons.injEq, Json.str.injEq, Json.int.injEq,
    and_true] at h
  obtain ⟨hname, hstatus, hreasons, hchecked, hlatency, hlast⟩ := h
  have hname' : a.component = b.component := by
    revert hname
    cases a.component <;> cases b.component <;> decide +kernel
  have hstatus' : a.status = b.status := by
    revert hstatus
    cases a.status <;> cases b.status <;> decide +kernel
  have hreasons' : a.reasons = b.reasons :=
    List.map_injective_iff.mpr
      (fun r s hrs => NormalizedReason.value_injective (Json.str.inj hrs)) hreasons
  have hlast' : a.lastSuccessfulAtUtcUs = b.lastSuccessfulAtUtcUs := by
    revert hlast
    cases a.lastSuccessfulAtUtcUs <;> cases b.lastSuccessfulAtUtcUs <;> simp [canonicalOption]
  cases a
  cases b
  simp_all

/-- Projections with the same canonical bytes agree on every field but the recording time, the
    schema version and the digest. -/
theorem HealthProjection.canonical_injective {p q : HealthProjection}
    (h : p.canonical = q.canonical) :
    p.observationSequence = q.observationSequence ∧ p.observedAtUtcUs = q.observedAtUtcUs ∧
      p.overallStatus = q.overallStatus ∧ p.serviceUptimeMs = q.serviceUptimeMs ∧
      p.sampleKind = q.sampleKind ∧ p.missedIntervals = q.missedIntervals ∧
      p.components = q.components := by
  have hfields := Json.bytes_injective (canonicalFields_plain _ _ _ _ _ _ _)
    (canonicalFields_plain _ _ _ _ _ _ _) h
  simp only [canonicalFields, Json.arr.injEq, List.cons_append, List.nil_append, List.cons.injEq,
    Json.str.injEq, Json.int.injEq, true_and] at hfields
  obtain ⟨hsequence, hobserved, hstatus, huptime, hkind, hmissed, hcomponents⟩ := hfields
  refine ⟨hsequence, hobserved, ?_, huptime, ?_, hmissed,
    List.map_injective_iff.mpr canonicalComponent_injective hcomponents⟩
  · revert hstatus
    cases p.overallStatus <;> cases q.overallStatus <;> decide +kernel
  · revert hkind
    cases p.sampleKind <;> cases q.sampleKind <;> decide +kernel

/-! ## Validation -/

/-- Why a report has no projection. -/
inductive ProjectionRejection
  | invalidReport | unknownSchema | invalidStatus | inconsistentStatus | invalidTimestamp
  | invalidDuration | invalidComponents | invalidComponent | reasonRejected
deriving DecidableEq, Repr

/-- Check a projection and its digest again. -/
def validateHealthProjection (p : HealthProjection) : Except ProjectionRejection Unit :=
  match p.check >>= fun _ => p.components.forM ComponentProjection.check with
  | .error _ => .error .invalidReport
  | .ok _ => require .invalidReport (sha256 p.canonical = p.digest)

/-- What validation establishes. -/
structure HealthProjection.Valid (p : HealthProjection) : Prop extends p.Checked where
  components : ∀ c ∈ p.components, c.Valid
  digest : sha256 p.canonical = p.digest

/-- Validation accepts exactly the valid projections. -/
theorem validateHealthProjection_eq_ok {p : HealthProjection} :
    validateHealthProjection p = .ok () ↔ p.Valid := by
  unfold validateHealthProjection
  constructor
  · intro h
    split at h
    · cases h
    · rename_i u hu
      obtain ⟨v, hv, hc⟩ := bind_eq_ok.mp hu
      exact ⟨HealthProjection.check_eq_ok.mp hv,
        fun c hc' => ComponentProjection.check_eq_ok.mp (forM_eq_ok.mp hc c hc'),
        require_eq_ok.mp h⟩
  · intro h
    have hchecks : (p.check >>= fun _ => p.components.forM ComponentProjection.check) = .ok () :=
      bind_eq_ok.mpr ⟨(), HealthProjection.check_eq_ok.mpr h.toChecked,
        forM_eq_ok.mpr fun c hc => ComponentProjection.check_eq_ok.mpr (h.components c hc)⟩
    rw [hchecks]
    exact require_pos h.digest

/-! ## Reports -/

/-- A Python number that is not a Boolean. -/
inductive Number where
  | int (n : Int)
  | float (x : FloatValue)

/-- A `datetime`: without a zone, or at a number of microseconds from the epoch, unknown when
    moving it to UTC overflows. -/
inductive Datetime where
  | naive
  | aware (utcUs : Option Int)

/-- A component of a report, with each field as far as it is of its type. -/
structure ComponentHealth where
  name : String
  status : Option HealthHistoryStatus
  checkedAt : Option String
  latencyMs : Option Number
  details : Option Details
  /-- `none` for `None`, `some none` for a value that is no text. -/
  lastSuccessfulAt : Option (Option String)

/-- A report, with each field as far as it is of its type. -/
structure HealthReport where
  schemaVersion : Option Int
  status : Option HealthHistoryStatus
  checkedAt : Option String
  serviceUptimeSeconds : Option Number
  components : Option (List ComponentHealth)

/-- How a projection fails: with a rejection, or with an exception nothing catches. -/
inductive ProjectionFailure
  | rejection (reason : ProjectionRejection)
  | raised (text : String)

namespace Projection

/-- A projection, or why there is none. -/
abbrev Projected (α : Type) := Except ProjectionFailure α

/-- Refuse the report. -/
def reject {α : Type} (reason : ProjectionRejection) : Projected α := .error (.rejection reason)

/-- The value, if there is one. -/
def expect {α : Type} (reason : ProjectionRejection) : Option α → Projected α
  | some a => .ok a
  | none => reject reason

/-- The microseconds of a datetime that knows its offset. -/
def timestampFromDatetime : Datetime → Projected Int
  | .naive => reject .invalidTimestamp
  | .aware none => reject .invalidTimestamp
  | .aware (some us) => do
    require (.rejection .invalidTimestamp) (Bounded maxTimestampUs us)
    return us

/-- `fromisoformat` is the standard library's parser, `none` where it raises. -/
def timestampFromText (fromisoformat : String → Option Datetime) (value : Option String) :
    Projected Int := do
  let text ← expect .invalidTimestamp value
  require (.rejection .invalidTimestamp) (text.length ≤ 64)
  timestampFromDatetime (← expect .invalidTimestamp (fromisoformat text))

/-- The last successful time, `None` allowed. -/
def optionalTimestamp (fromisoformat : String → Option Datetime) :
    Option (Option String) → Projected (Option Int)
  | none => .ok none
  | some text => (timestampFromText fromisoformat text).map some

/-- `float(value)` with its finite value; the conversion of a huge integer overflows. -/
def finiteFloat (value : Option Number) : Projected ℚ := do
  match ← expect .invalidDuration value with
  | .int n => expect .invalidDuration (Binary64.nearest n)
  | .float (.finite q) => return q
  | .float _ => reject .invalidDuration

/-- A duration in seconds as whole milliseconds.  The bound `maximum / 1000` is exact for the one
    maximum in use. -/
def durationMs (value : Option Number) (maximum : Int) : Projected Int := do
  let converted ← finiteFloat value
  require (.rejection .invalidDuration) (0 ≤ converted ∧ converted ≤ maximum / 1000)
  match Binary64.nearest (converted * 1000) with
  | none => .error (.raised "cannot convert float infinity to integer")
  | some product =>
    require (.rejection .invalidDuration) (roundHalfEven product ≤ maximum)
    return roundHalfEven product

/-- A duration in seconds, rounded to milliseconds. -/
def roundedMilliseconds (value : Option Number) (maximum : Int) : Projected Int := do
  let converted ← finiteFloat value
  require (.rejection .invalidDuration) (0 ≤ converted ∧ converted ≤ maximum)
  return roundHalfEven converted

/-- The checked constructor of a component. -/
def newComponent (c : ComponentProjection) : Projected ComponentProjection :=
  match c.check with
  | .ok _ => .ok c
  | .error text => .error (.raised text)

/-- `_project_component` -/
def projectComponent (fromisoformat : String → Option Datetime) (expected : ComponentName)
    (component : ComponentHealth) : Projected ComponentProjection := do
  let status ← expect .invalidStatus component.status
  let details ← expect .reasonRejected component.details
  match normalizeComponentReason 1 expected.value status.value details with
  | .error text => .error (.raised text)
  | .ok (.rejected _) => reject .reasonRejected
  | .ok (.accepted reasons) =>
    let checkedAt ← timestampFromText fromisoformat component.checkedAt
    let lastSuccessful ← optionalTimestamp fromisoformat component.lastSuccessfulAt
    let latency ← roundedMilliseconds component.latencyMs maxComponentLatencyMs
    newComponent ⟨expected, status, reasons, checkedAt, latency, lastSuccessful⟩

/-- The components under their names; a name may be neither unknown nor repeated. -/
def componentsByName : List ComponentHealth → List (String × ComponentHealth) →
    Projected (List (String × ComponentHealth))
  | [], byName => .ok byName
  | c :: rest, byName => do
    require (.rejection .invalidComponent) (c.name ∈ componentOrder.map ComponentName.value)
    require (.rejection .invalidComponents) (c.name ∉ byName.map Prod.fst)
    componentsByName rest (byName ++ [(c.name, c)])

end Projection

open Projection in
/-- Validate and project a complete health report. -/
def projectHealthReport (fromisoformat : String → Option Datetime) (report : HealthReport)
    (observationSequence : Int) (recordedAt : Datetime) (sampleKind : SampleKind)
    (missedIntervals : Int) : Projected HealthProjection := do
  require (.rejection .unknownSchema) (report.schemaVersion = some 1)
  require (.rejection .invalidReport) (Bounded maxObservationSequence observationSequence)
  let status ← expect .invalidStatus report.status
  let observedAt ← timestampFromText fromisoformat report.checkedAt
  let recordedAtUs ← timestampFromDatetime recordedAt
  let uptime ← durationMs report.serviceUptimeSeconds maxServiceUptimeMs
  require (.rejection .invalidDuration) (Bounded maxBoundedCounter missedIntervals)
  let byName ← componentsByName (← expect .invalidComponents report.components) []
  require (.rejection .invalidComponents)
    (∀ name ∈ componentOrder, (byName.lookup name.value).isSome = true)
  let components ← componentOrder.mapM fun name => do
    projectComponent fromisoformat name
      (← expect .invalidComponents (byName.lookup name.value))
  require (.rejection .inconsistentStatus) (worstComponentStatus components = some status)
  let p : HealthProjection := {
    schemaVersion := 1
    observationSequence := observationSequence
    observedAtUtcUs := observedAt
    recordedAtUtcUs := recordedAtUs
    overallStatus := status
    serviceUptimeMs := uptime
    sampleKind := sampleKind
    missedIntervals := missedIntervals
    components := components
    digest := sha256 (canonicalBytes observationSequence observedAt status uptime sampleKind
      missedIntervals components) }
  match p.check with
  | .ok _ => return p
  | .error text => .error (.raised text)

/-! ## What a projected report satisfies -/

namespace Projection

/-- A component that was constructed is valid and unchanged. -/
theorem newComponent_eq_ok {c c' : ComponentProjection} (h : newComponent c = .ok c') :
    c' = c ∧ c.Valid := by
  unfold newComponent at h
  split at h
  · rename_i hc
    exact ⟨(Except.ok.inj h).symm, ComponentProjection.check_eq_ok.mp hc⟩
  · cases h

/-- A projected component passes its checks under its name, and a disabled reason comes with an
    unavailable status. -/
theorem projectComponent_eq_ok {iso : String → Option Datetime} {name : ComponentName}
    {c : ComponentHealth} {cp : ComponentProjection}
    (h : projectComponent iso name c = .ok cp) :
    cp.component = name ∧ cp.Valid ∧
      ∀ r ∈ cp.reasons, r ∈ NormalizedReason.disabled → cp.status = .unavailable := by
  unfold projectComponent at h
  obtain ⟨status, -, h⟩ := bind_eq_ok.mp h
  obtain ⟨details, -, h⟩ := bind_eq_ok.mp h
  split at h
  · cases h
  · cases h
  · rename_i reasons hreasons
    obtain ⟨checkedAt, -, h⟩ := bind_eq_ok.mp h
    obtain ⟨lastSuccessful, -, h⟩ := bind_eq_ok.mp h
    obtain ⟨latency, -, h⟩ := bind_eq_ok.mp h
    obtain ⟨rfl, hvalid⟩ := newComponent_eq_ok h
    exact ⟨rfl, hvalid, (normalizeComponentReason_accepted hreasons).disabled⟩

end Projection

/-- No component of the projection is switched off and yet healthy. -/
def HealthProjection.Admissible (p : HealthProjection) : Prop :=
  ∀ c ∈ p.components, ∀ r ∈ c.reasons, r ∈ NormalizedReason.disabled → c.status = .unavailable

/-- A projected report is valid, and none of its components is both disabled and healthy. -/
theorem projectHealthReport_eq_ok {iso : String → Option Datetime} {report : HealthReport}
    {sequence : Int} {recordedAt : Datetime} {kind : SampleKind} {missed : Int}
    {p : HealthProjection}
    (h : projectHealthReport iso report sequence recordedAt kind missed = .ok p) :
    p.Valid ∧ p.Admissible := by
  unfold projectHealthReport at h
  obtain ⟨-, h⟩ := require_bind_eq_ok.mp h
  obtain ⟨-, h⟩ := require_bind_eq_ok.mp h
  obtain ⟨status, -, h⟩ := bind_eq_ok.mp h
  obtain ⟨observedAt, -, h⟩ := bind_eq_ok.mp h
  obtain ⟨recordedAtUs, -, h⟩ := bind_eq_ok.mp h
  obtain ⟨uptime, -, h⟩ := bind_eq_ok.mp h
  obtain ⟨-, h⟩ := require_bind_eq_ok.mp h
  obtain ⟨found, -, h⟩ := bind_eq_ok.mp h
  obtain ⟨byName, -, h⟩ := bind_eq_ok.mp h
  obtain ⟨-, h⟩ := require_bind_eq_ok.mp h
  obtain ⟨components, hcomponents, h⟩ := bind_eq_ok.mp h
  obtain ⟨-, h⟩ := require_bind_eq_ok.mp h
  -- each component came out of `projectComponent` under its own name
  have hfit : ∀ c ∈ components, c.Valid ∧
      ∀ r ∈ c.reasons, r ∈ NormalizedReason.disabled → c.status = .unavailable := by
    intro c hc
    obtain ⟨name, -, hname⟩ := exists_of_mapM hcomponents hc
    obtain ⟨found, -, hproject⟩ := bind_eq_ok.mp hname
    exact (Projection.projectComponent_eq_ok hproject).2
  dsimp only at h
  split at h
  · rename_i hcheck
    obtain rfl := Except.ok.inj h
    exact ⟨⟨HealthProjection.check_eq_ok.mp hcheck, fun c hc => (hfit c hc).1, rfl⟩,
      fun c hc => (hfit c hc).2⟩
  · cases h

end Aurora.HealthHistory
