/-
  Projecting a report either succeeds or is rejected.

  The constructors that a projection calls check their arguments again and raise; what was checked or
  rounded before them always passes.
-/
import Aurora.HealthHistory.Projection

namespace Aurora.HealthHistory

namespace Projection

/-- A computation that may reject, and raises nothing else. -/
def Rejecting {α : Type} (x : Projected α) : Prop := ∀ text, x ≠ .error (.raised text)

namespace Rejecting

variable {α β : Type}

theorem ok (a : α) : Rejecting (.ok a) := fun _ h => nomatch h

theorem reject (reason : ProjectionRejection) : Rejecting (reject reason : Projected α) :=
  fun _ h => nomatch h

theorem expect (reason : ProjectionRejection) (o : Option α) : Rejecting (expect reason o) := by
  cases o with
  | none => exact .reject reason
  | some a => exact .ok a

theorem require (reason : ProjectionRejection) (p : Prop) [Decidable p] :
    Rejecting (require (.rejection reason) p) := by
  intro text h
  by_cases hp : p
  · rw [require_pos hp] at h
    cases h
  · rw [require_neg hp] at h
    cases h

theorem bind {x : Projected α} {f : α → Projected β} (hx : Rejecting x)
    (hf : ∀ a, x = .ok a → Rejecting (f a)) : Rejecting (x >>= f) := by
  cases x with
  | error e => exact fun text h => hx text (congrArg Except.error (Except.error.inj h))
  | ok a => exact hf a rfl

theorem map {x : Projected α} {f : α → β} (hx : Rejecting x) : Rejecting (x.map f) := by
  cases x with
  | error e => exact fun text h => hx text (congrArg Except.error (Except.error.inj h))
  | ok a => exact .ok _

theorem mapM {f : α → Projected β} (hf : ∀ a, Rejecting (f a)) :
    ∀ l : List α, Rejecting (l.mapM f)
  | [] => by
    rw [List.mapM_nil]
    exact .ok []
  | a :: l => by
    rw [List.mapM_cons]
    exact (hf a).bind fun b _ => (mapM hf l).bind fun bs _ => .ok _

end Rejecting

/-! ## Timestamps and durations -/

theorem timestampFromDatetime_rejecting : ∀ value, Rejecting (timestampFromDatetime value)
  | .naive => .reject _
  | .aware none => .reject _
  | .aware (some _) => (Rejecting.require _ _).bind fun _ _ => .ok _

/-- A timestamp that is accepted is within bounds. -/
theorem timestampFromDatetime_bounded {value : Datetime} {t : Int}
    (h : timestampFromDatetime value = .ok t) : Bounded maxTimestampUs t := by
  match value with
  | .naive => cases h
  | .aware none => cases h
  | .aware (some us) =>
    obtain ⟨hbounded, h⟩ := require_bind_eq_ok.mp h
    obtain rfl := Except.ok.inj h
    exact hbounded

/-- Text that is no timestamp is rejected, not raised. -/
theorem timestampFromText_rejecting (iso : String → Option Datetime) (value : Option String) :
    Rejecting (timestampFromText iso value) :=
  (Rejecting.expect _ _).bind fun _ _ => (Rejecting.require _ _).bind fun _ _ =>
    (Rejecting.expect _ _).bind fun _ _ => timestampFromDatetime_rejecting _

/-- A text that is accepted is within bounds. -/
theorem timestampFromText_bounded {iso : String → Option Datetime} {value : Option String} {t : Int}
    (h : timestampFromText iso value = .ok t) : Bounded maxTimestampUs t := by
  obtain ⟨text, -, h⟩ := bind_eq_ok.mp h
  obtain ⟨-, h⟩ := require_bind_eq_ok.mp h
  obtain ⟨parsed, -, h⟩ := bind_eq_ok.mp h
  exact timestampFromDatetime_bounded h

/-- A missing timestamp is accepted, any other value checked. -/
theorem optionalTimestamp_rejecting (iso : String → Option Datetime) :
    ∀ value, Rejecting (optionalTimestamp iso value)
  | none => .ok none
  | some text => (timestampFromText_rejecting iso text).map

/-- A timestamp that is accepted is missing or within bounds. -/
theorem optionalTimestamp_bounded {iso : String → Option Datetime}
    {value : Option (Option String)} {t : Option Int} (h : optionalTimestamp iso value = .ok t) :
    BoundedOption maxTimestampUs t := by
  cases value with
  | none =>
    obtain rfl := Except.ok.inj h
    exact boundedOption_none _
  | some text =>
    change (timestampFromText iso text).map some = .ok t at h
    cases htext : timestampFromText iso text with
    | error e =>
      rw [htext] at h
      cases h
    | ok t' =>
      rw [htext] at h
      obtain rfl := Except.ok.inj h
      intro t'' h''
      obtain rfl := Option.some.inj h''
      exact timestampFromText_bounded htext

/-- What is no finite number is rejected. -/
theorem finiteFloat_rejecting (value : Option Number) : Rejecting (finiteFloat value) := by
  refine (Rejecting.expect _ _).bind fun number _ => ?_
  match number with
  | .int n => exact .expect _ _
  | .float (.finite q) => exact .ok q
  | .float (.infinite _) => exact .reject _
  | .float .nan => exact .reject _

/-- A service uptime is within its bound, and so small that no rounding overflows. -/
theorem durationMs_rejecting (value : Option Number) :
    Rejecting (durationMs value maxServiceUptimeMs) := by
  refine (finiteFloat_rejecting value).bind fun q _ => ?_
  refine (Rejecting.require _ _).bind fun u hu => ?_
  obtain ⟨hnonneg, hle⟩ := require_eq_ok.mp hu
  have hsmall : q * 1000 ≤ 2 ^ 100 := by
    have : q ≤ 31536000000 := hle.trans (by unfold maxServiceUptimeMs; norm_num)
    linarith
  obtain ⟨product, hproduct⟩ := Binary64.nearest_isSome
    (mul_nonneg hnonneg (by norm_num : (0 : ℚ) ≤ 1000)) hsmall
  rw [hproduct]
  exact (Rejecting.require _ _).bind fun _ _ => .ok _

/-- A duration that is accepted is within bounds. -/
theorem durationMs_bounded {value : Option Number} {maximum t : Int}
    (h : durationMs value maximum = .ok t) : Bounded maximum t := by
  obtain ⟨q, -, h⟩ := bind_eq_ok.mp h
  obtain ⟨⟨hnonneg, -⟩, h⟩ := require_bind_eq_ok.mp h
  split at h
  · cases h
  · rename_i product hproduct
    obtain ⟨hle, h⟩ := require_bind_eq_ok.mp h
    obtain rfl := Except.ok.inj h
    have hproduct : 0 ≤ product :=
      Binary64.nearest_nonneg (mul_nonneg hnonneg (by norm_num)) hproduct
    exact ⟨roundHalfEven_nonneg hproduct, hle⟩

/-- Rounding raises nothing once the number is finite. -/
theorem roundedMilliseconds_rejecting (value : Option Number) (maximum : Int) :
    Rejecting (roundedMilliseconds value maximum) :=
  (finiteFloat_rejecting value).bind fun _ _ => (Rejecting.require _ _).bind fun _ _ => .ok _

theorem roundedMilliseconds_bounded {value : Option Number} {maximum t : Int}
    (h : roundedMilliseconds value maximum = .ok t) : Bounded maximum t := by
  obtain ⟨q, -, h⟩ := bind_eq_ok.mp h
  obtain ⟨⟨hnonneg, hle⟩, h⟩ := require_bind_eq_ok.mp h
  obtain rfl := Except.ok.inj h
  exact ⟨roundHalfEven_nonneg hnonneg, roundHalfEven_le hle⟩

/-! ## Components -/

/-- A valid component is constructed as it is. -/
theorem newComponent_ok {c : ComponentProjection} (h : c.Valid) : newComponent c = .ok c := by
  unfold newComponent
  rw [ComponentProjection.check_eq_ok.mpr h]

/-- A component is projected or rejected. -/
theorem projectComponent_rejecting (iso : String → Option Datetime) (name : ComponentName)
    (c : ComponentHealth) : Rejecting (projectComponent iso name c) := by
  refine (Rejecting.expect _ _).bind fun status _ => (Rejecting.expect _ _).bind fun details _ => ?_
  split
  · -- the normalizer never raises
    rename_i text hraised
    obtain ⟨r, hr⟩ := normalizeComponentReason_decides 1 name.value status.value details
    rw [hr] at hraised
    cases hraised
  · exact .reject _
  · rename_i reasons hreasons
    have hfit := normalizeComponentReason_accepted hreasons
    refine (timestampFromText_rejecting _ _).bind fun checkedAt hchecked => ?_
    refine (optionalTimestamp_rejecting _ _).bind fun lastSuccessful hlast => ?_
    refine (roundedMilliseconds_rejecting _ _).bind fun latency hlatency => ?_
    rw [newComponent_ok]
    · exact .ok _
    · exact ⟨hfit.nonempty, hfit.nodup, hfit.short, hfit.ofComponent,
        timestampFromText_bounded hchecked, roundedMilliseconds_bounded hlatency,
        optionalTimestamp_bounded hlast⟩

theorem componentsByName_rejecting : ∀ (components : List ComponentHealth)
    (byName : List (String × ComponentHealth)), Rejecting (componentsByName components byName)
  | [], _ => .ok _
  | _ :: rest, _ => (Rejecting.require _ _).bind fun _ _ => (Rejecting.require _ _).bind fun _ _ =>
      componentsByName_rejecting rest _

/-! ## Reports -/

/-- The components come out in the order of the names. -/
theorem projectedComponents_order {iso : String → Option Datetime}
    {byName : List (String × ComponentHealth)} : ∀ {names : List ComponentName}
    {components : List ComponentProjection},
    (names.mapM fun name => do
      projectComponent iso name (← expect .invalidComponents (byName.lookup name.value))) =
        .ok components → components.map ComponentProjection.component = names
  | [], _, h => by
    rw [List.mapM_nil] at h
    obtain rfl := Except.ok.inj h
    rfl
  | name :: names, _, h => by
    rw [List.mapM_cons] at h
    obtain ⟨c, hc, h⟩ := bind_eq_ok.mp h
    obtain ⟨cs, hcs, h⟩ := bind_eq_ok.mp h
    obtain rfl := Except.ok.inj h
    obtain ⟨found, -, hproject⟩ := bind_eq_ok.mp hc
    rw [List.map_cons, (projectComponent_eq_ok hproject).1, projectedComponents_order hcs]

end Projection

open Projection

/-- A report is projected or rejected. -/
theorem projectHealthReport_rejecting (iso : String → Option Datetime) (report : HealthReport)
    (sequence : Int) (recordedAt : Datetime) (kind : SampleKind) (missed : Int) :
    Rejecting (projectHealthReport iso report sequence recordedAt kind missed) := by
  unfold projectHealthReport
  refine (Rejecting.require _ _).bind fun _ _ => (Rejecting.require _ _).bind fun _ hsequence => ?_
  refine (Rejecting.expect _ _).bind fun status _ => ?_
  refine (timestampFromText_rejecting _ _).bind fun observedAt hobserved => ?_
  refine (timestampFromDatetime_rejecting _).bind fun recorded hrecorded => ?_
  refine (durationMs_rejecting _).bind fun uptime huptime => ?_
  refine (Rejecting.require _ _).bind fun _ hmissed => ?_
  refine (Rejecting.expect _ _).bind fun found _ => ?_
  refine (componentsByName_rejecting _ _).bind fun byName _ => ?_
  refine (Rejecting.require _ _).bind fun _ _ => ?_
  refine (Rejecting.mapM (fun name => (Rejecting.expect _ _).bind fun _ _ =>
    projectComponent_rejecting _ _ _) _).bind fun components hcomponents => ?_
  refine (Rejecting.require _ _).bind fun _ hstatus => ?_
  dsimp only
  split
  · exact .ok _
  · -- every check of the constructor was made before, or is about the digest
    rename_i text hraised
    have hchecked := (HealthProjection.check_eq_ok (p := {
        schemaVersion := 1
        observationSequence := sequence
        observedAtUtcUs := observedAt
        recordedAtUtcUs := recorded
        overallStatus := status
        serviceUptimeMs := uptime
        sampleKind := kind
        missedIntervals := missed
        components := components
        digest := sha256 (canonicalBytes sequence observedAt status uptime kind missed components) })).mpr
      { schemaVersion := rfl
        sequence := require_eq_ok.mp hsequence
        observedAt := timestampFromText_bounded hobserved
        recordedAt := timestampFromDatetime_bounded hrecorded
        uptime := durationMs_bounded huptime
        missed := require_eq_ok.mp hmissed
        order := projectedComponents_order hcomponents
        overall := require_eq_ok.mp hstatus
        digestLength := length_sha256 _ }
    rw [hraised] at hchecked
    cases hchecked

/-- A projection carries the sequence, the kind and the misses it was made for. -/
theorem projectHealthReport_identity {iso : String → Option Datetime} {report : HealthReport}
    {sequence : Int} {recordedAt : Datetime} {kind : SampleKind} {missed : Int}
    {p : HealthProjection}
    (h : projectHealthReport iso report sequence recordedAt kind missed = .ok p) :
    p.observationSequence = sequence ∧ p.sampleKind = kind ∧ p.missedIntervals = missed := by
  unfold projectHealthReport at h
  obtain ⟨-, h⟩ := require_bind_eq_ok.mp h
  obtain ⟨-, h⟩ := require_bind_eq_ok.mp h
  obtain ⟨status, -, h⟩ := bind_eq_ok.mp h
  obtain ⟨observedAt, -, h⟩ := bind_eq_ok.mp h
  obtain ⟨recordedAtUs, -, h⟩ := bind_eq_ok.mp h
  obtain ⟨uptime, -, h⟩ := bind_eq_ok.mp h
  obtain ⟨-, h⟩ := require_bind_eq_ok.mp h
  obtain ⟨found, -, h⟩ := bind_eq_ok.mp h
  obtain ⟨byName, -, h⟩ := bind_eq_ok.mp h
  obtain ⟨-, h⟩ := require_bind_eq_ok.mp h
  obtain ⟨components, -, h⟩ := bind_eq_ok.mp h
  obtain ⟨-, h⟩ := require_bind_eq_ok.mp h
  dsimp only at h
  split at h
  · obtain rfl := Except.ok.inj h
    exact ⟨rfl, rfl, rfl⟩
  · cases h

/-- The checks of a component accept every list of reasons that the normalizer accepts. -/
theorem component_check_of_accepted {component : ComponentName} {status : HealthHistoryStatus}
    {details : Details} {reasons : List NormalizedReason}
    (h : normalizeComponentReason 1 component.value status.value details = .ok (.accepted reasons))
    {checkedAt latency : Int} {lastSuccessful : Option Int}
    (hchecked : Bounded maxTimestampUs checkedAt) (hlatency : Bounded maxComponentLatencyMs latency)
    (hlast : BoundedOption maxTimestampUs lastSuccessful) :
    (ComponentProjection.mk component status reasons checkedAt latency lastSuccessful).check =
      .ok () := by
  have hfit := normalizeComponentReason_accepted h
  exact ComponentProjection.check_eq_ok.mpr ⟨hfit.nonempty, hfit.nodup, hfit.short,
    hfit.ofComponent, hchecked, hlatency, hlast⟩

/-- Projecting is total and consistent with its own validation.

Every report is rejected or gives a projection that validation accepts; nothing else is raised.  The
normalizer decides about every details dictionary, and the reasons it accepts are one to the
component's maximum, distinct and of the component, so the component's record takes them. -/
theorem projection_total (fromisoformat : String → Option Datetime) :
    (∀ report sequence recordedAt kind missed,
      (∃ reason, projectHealthReport fromisoformat report sequence recordedAt kind missed =
        .error (.rejection reason)) ∨
      ∃ p, projectHealthReport fromisoformat report sequence recordedAt kind missed = .ok p ∧
        validateHealthProjection p = .ok ()) ∧
    (∀ (component : ComponentName) (status : HealthHistoryStatus) (details : Details),
      ∃ result, normalizeComponentReason 1 component.value status.value details = .ok result ∧
        ∀ reasons, result = .accepted reasons →
          (1 ≤ reasons.length ∧ reasons.length ≤ maximumReasons component) ∧ reasons.Nodup ∧
          (∀ r ∈ reasons, r.ofComponent component = true) ∧
          ∀ checkedAt latency lastSuccessful, Bounded maxTimestampUs checkedAt →
            Bounded maxComponentLatencyMs latency → BoundedOption maxTimestampUs lastSuccessful →
            (ComponentProjection.mk component status reasons checkedAt latency
              lastSuccessful).check = .ok ()) := by
  constructor
  · intro report sequence recordedAt kind missed
    have hrejecting := projectHealthReport_rejecting fromisoformat report sequence recordedAt kind
      missed
    cases h : projectHealthReport fromisoformat report sequence recordedAt kind missed with
    | ok p =>
      have hvalid := (projectHealthReport_eq_ok h).1
      exact .inr ⟨p, rfl, validateHealthProjection_eq_ok.mpr hvalid⟩
    | error failure =>
      cases failure with
      | rejection reason => exact .inl ⟨reason, rfl⟩
      | raised text => exact absurd h (hrejecting text)
  · intro component status details
    obtain ⟨result, hresult⟩ :=
      normalizeComponentReason_decides 1 component.value status.value details
    refine ⟨result, hresult, ?_⟩
    rintro reasons rfl
    have hfit := normalizeComponentReason_accepted hresult
    exact ⟨⟨hfit.nonempty, hfit.short⟩, hfit.nodup, hfit.ofComponent,
      fun _ _ _ => component_check_of_accepted hresult⟩

end Aurora.HealthHistory
