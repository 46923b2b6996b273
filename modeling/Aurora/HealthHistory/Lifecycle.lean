/-
  The automatic alert lifecycle: open, update, recover, archive, escalate.

  `evaluateAutomaticAlert` is the whole machine.  It computes on one alert (or on none) and a
  request; it never touches storage.  States and requests carry their consistency as fields, so
  each `replace` of the source has to show that what it builds is consistent again.
-/
import Aurora.HealthHistory.Models

namespace Aurora.HealthHistory

/-- The cooldown of an alert, in microseconds. -/
def alertCooldownUs : Int := 15 * 60 * 1000000

/-- The requests the lifecycle takes. -/
inductive AutomaticAlertOperation
  | «open» | recover | archive | escalate
deriving DecidableEq, Repr

/-- How a request ended. -/
inductive AutomaticAlertOutcome
  | applied | idempotent | rejected | notPersisted
deriving DecidableEq, Repr

namespace AlertLifecycle

/-- Open or acknowledged. -/
def Active (l : AlertLifecycle) : Prop := l = «open» ∨ l = acknowledged

/-- Recovered or archived. -/
def Terminal (l : AlertLifecycle) : Prop := l = recovered ∨ l = archived

instance (l : AlertLifecycle) : Decidable l.Active := inferInstanceAs (Decidable (_ ∨ _))

instance (l : AlertLifecycle) : Decidable l.Terminal := inferInstanceAs (Decidable (_ ∨ _))

theorem not_active_iff {l : AlertLifecycle} : ¬l.Active ↔ l.Terminal := by
  cases l <;> decide

end AlertLifecycle

/-! ## Alerts and requests -/

/-- The part of an alert the lifecycle decides on. -/
structure AutomaticAlertState where
  scope : AlertScope
  kind : AlertKind
  lifecycle : AlertLifecycle
  generation : Int
  occurrenceCount : Int
  cooldownUntilUtcUs : Int
  recoveredAtUtcUs : Option Int
  generationPositive : Positive maxBoundedCounter generation
  occurrencePositive : Positive maxBoundedCounter occurrenceCount
  cooldownBounded : Bounded maxTimestampUs cooldownUntilUtcUs
  recoveredBounded : BoundedOption maxTimestampUs recoveredAtUtcUs
  terminal : lifecycle.Terminal ↔ recoveredAtUtcUs.isSome = true
  scopeKind : scope = .sampling ↔ kind = .samplingGap
deriving DecidableEq

/-- The constructor's checks, in the source's order. -/
def AutomaticAlertState.new? (scope : AlertScope) (kind : AlertKind) (lifecycle : AlertLifecycle)
    (generation occurrenceCount cooldownUntilUtcUs : Int) (recoveredAtUtcUs : Option Int) :
    Except String AutomaticAlertState :=
  if hg : Positive maxBoundedCounter generation then
    if ho : Positive maxBoundedCounter occurrenceCount then
      if hc : Bounded maxTimestampUs cooldownUntilUtcUs then
        if hr : BoundedOption maxTimestampUs recoveredAtUtcUs then
          if ht : lifecycle.Terminal ↔ recoveredAtUtcUs.isSome = true then
            if hs : scope = .sampling ↔ kind = .samplingGap then
              .ok ⟨scope, kind, lifecycle, generation, occurrenceCount, cooldownUntilUtcUs,
                recoveredAtUtcUs, hg, ho, hc, hr, ht, hs⟩
            else .error "inconsistent_alert_scope_kind"
          else .error "inconsistent_alert_recovery"
        else .error "invalid_alert_recovery_time"
      else .error "invalid_alert_cooldown"
    else .error "invalid_alert_occurrences"
  else .error "invalid_alert_generation"

/-- One request to the lifecycle. -/
structure AutomaticAlertInput where
  operation : AutomaticAlertOperation
  scope : AlertScope
  kind : AlertKind
  nowUtcUs : Int
  persistenceSucceeded : Bool
  escalationKind : Option AlertKind
  scopeKind : scope = .sampling ↔ kind = .samplingGap
  nowBounded : Bounded maxTimestampUs nowUtcUs
  escalation : escalationKind = if operation = .escalate then some .unavailable else none

/-- The constructor's checks, in the source's order; the flag defaults to `true`. -/
def AutomaticAlertInput.new? (operation : AutomaticAlertOperation) (scope : AlertScope)
    (kind : AlertKind) (nowUtcUs : Int) (escalationKind : Option AlertKind) :
    Except String AutomaticAlertInput :=
  if hs : scope = .sampling ↔ kind = .samplingGap then
    if hn : Bounded maxTimestampUs nowUtcUs then
      if he : escalationKind = if operation = .escalate then some .unavailable else none then
        .ok ⟨operation, scope, kind, nowUtcUs, true, escalationKind, hs, hn, he⟩
      else .error (if operation = .escalate then "invalid_escalation_kind"
        else "unexpected_escalation_kind")
    else .error "invalid_alert_time"
  else .error "inconsistent_alert_scope_kind"

/-- The answer to a request. -/
structure AutomaticAlertTransition where
  previous : Option AutomaticAlertState
  state : Option AutomaticAlertState
  createdAlert : Option AutomaticAlertState
  event : Option LifecycleEvent
  outcome : AutomaticAlertOutcome

namespace Lifecycle

/-! ## Building blocks -/

/-- A quarter of an hour from now, at most the largest timestamp. -/
def deadline (nowUtcUs : Int) : Int := min (nowUtcUs + alertCooldownUs) maxTimestampUs

/-- A deadline is in range, saturation included. -/
theorem deadline_bounded {now : Int} (h : Bounded maxTimestampUs now) :
    Bounded maxTimestampUs (deadline now) := by
  unfold Bounded deadline maxTimestampUs alertCooldownUs at *
  omega

theorem le_deadline {now : Int} (h : Bounded maxTimestampUs now) : now ≤ deadline now := by
  unfold Bounded deadline maxTimestampUs alertCooldownUs at *
  omega

/-- A request that changes nothing. -/
def idempotent (state : AutomaticAlertState) : AutomaticAlertTransition :=
  ⟨some state, some state, none, none, .idempotent⟩

/-- A request that is refused. -/
def rejected (state : Option AutomaticAlertState) : AutomaticAlertTransition :=
  ⟨state, state, none, none, .rejected⟩

/-- A fresh open alert. -/
def newAlert (scope : AlertScope) (kind : AlertKind) (nowUtcUs generation : Int)
    (hs : scope = .sampling ↔ kind = .samplingGap) (hn : Bounded maxTimestampUs nowUtcUs)
    (hg : Positive maxBoundedCounter generation) : AutomaticAlertState where
  scope := scope
  kind := kind
  lifecycle := .open
  generation := generation
  occurrenceCount := 1
  cooldownUntilUtcUs := deadline nowUtcUs
  recoveredAtUtcUs := none
  generationPositive := hg
  occurrencePositive := by decide
  cooldownBounded := deadline_bounded hn
  recoveredBounded := boundedOption_none _
  terminal := by simp [AlertLifecycle.Terminal]
  scopeKind := hs

/-- One more occurrence, and a later cooldown. -/
def occurrenceUpdated (state : AutomaticAlertState) (nowUtcUs : Int)
    (hn : Bounded maxTimestampUs nowUtcUs) : AutomaticAlertState :=
  { state with
    occurrenceCount := min (state.occurrenceCount + 1) maxBoundedCounter
    cooldownUntilUtcUs := max state.cooldownUntilUtcUs (deadline nowUtcUs)
    occurrencePositive := by
      have := state.occurrencePositive
      unfold Positive maxBoundedCounter at *
      omega
    cooldownBounded := by
      have h₁ := state.cooldownBounded
      have h₂ := deadline_bounded hn
      unfold Bounded at *
      omega }

/-- One more occurrence, which may change nothing. -/
def occurrenceTransition (state : AutomaticAlertState) (nowUtcUs : Int)
    (hn : Bounded maxTimestampUs nowUtcUs) : AutomaticAlertTransition :=
  if occurrenceUpdated state nowUtcUs hn = state then idempotent state
  else ⟨some state, some (occurrenceUpdated state nowUtcUs hn), none, some .occurrenceUpdated,
    .applied⟩

/-- The next generation of an alert whose generation is not exhausted. -/
theorem nextGeneration {state : AutomaticAlertState} (h : state.generation ≠ maxBoundedCounter) :
    Positive maxBoundedCounter (state.generation + 1) := by
  have := state.generationPositive
  unfold Positive at *
  omega

/-! ## Operations -/

/-- `_open_or_update` -/
def openOrUpdate (state : Option AutomaticAlertState) (request : AutomaticAlertInput) :
    AutomaticAlertTransition :=
  match state with
  | none =>
    ⟨none, some (newAlert request.scope request.kind request.nowUtcUs 1 request.scopeKind
      request.nowBounded (by decide)), none, some .opened, .applied⟩
  | some state =>
    if state.lifecycle.Active then occurrenceTransition state request.nowUtcUs request.nowBounded
    else if state.lifecycle = .recovered ∧ request.nowUtcUs < state.cooldownUntilUtcUs then
      occurrenceTransition state request.nowUtcUs request.nowBounded
    else if h : state.generation = maxBoundedCounter then rejected (some state)
    else
      ⟨some state, some state, some (newAlert request.scope request.kind request.nowUtcUs
        (state.generation + 1) request.scopeKind request.nowBounded (nextGeneration h)),
        some .opened, .applied⟩

/-- The recovered alert: recovery time now, cooldown at least a quarter of an hour from now. -/
def recovered (state : AutomaticAlertState) (nowUtcUs : Int)
    (hn : Bounded maxTimestampUs nowUtcUs) : AutomaticAlertState :=
  { state with
    lifecycle := .recovered
    recoveredAtUtcUs := some nowUtcUs
    cooldownUntilUtcUs := max state.cooldownUntilUtcUs (deadline nowUtcUs)
    recoveredBounded := (boundedOption_some _ _).mpr hn
    cooldownBounded := by
      have h₁ := state.cooldownBounded
      have h₂ := deadline_bounded hn
      unfold Bounded at *
      omega
    terminal := by simp [AlertLifecycle.Terminal] }

/-- `_recover` -/
def recover (state : AutomaticAlertState) (nowUtcUs : Int)
    (hn : Bounded maxTimestampUs nowUtcUs) : AutomaticAlertTransition :=
  if state.lifecycle.Active then
    ⟨some state, some (recovered state nowUtcUs hn), none, some .recovered, .applied⟩
  else if state.lifecycle.Terminal then idempotent state
  else rejected (some state)

/-- The archived alert, from a recovered one. -/
def archived (state : AutomaticAlertState) (h : state.lifecycle = .recovered) :
    AutomaticAlertState :=
  { state with
    lifecycle := .archived
    terminal := by
      have := state.terminal
      simpa [AlertLifecycle.Terminal, h] using this }

/-- `_archive` -/
def archive (state : AutomaticAlertState) (nowUtcUs : Int) : AutomaticAlertTransition :=
  if state.lifecycle = .archived then idempotent state
  else if h : state.lifecycle ≠ .recovered ∨ nowUtcUs < state.cooldownUntilUtcUs then
    rejected (some state)
  else
    ⟨some state, some (archived state (by simp at h; exact h.1)), none, some .archived, .applied⟩

/-- `_escalate` -/
def escalate (state : AutomaticAlertState) (request : AutomaticAlertInput) :
    AutomaticAlertTransition :=
  if h : ¬state.lifecycle.Active ∨ state.kind ≠ .degraded ∨
      request.escalationKind ≠ some .unavailable ∨ state.generation = maxBoundedCounter then
    rejected (some state)
  else
    ⟨some state, some state, some (newAlert state.scope .unavailable request.nowUtcUs
      (state.generation + 1)
      (by
        have hk := state.scopeKind
        have hd : state.kind = .degraded := by tauto
        simp [hd] at hk
        simp [hk])
      request.nowBounded (nextGeneration (by tauto))), some .opened, .applied⟩

end Lifecycle

/-- Evaluate one automatic lifecycle operation. -/
def evaluateAutomaticAlert (state : Option AutomaticAlertState) (request : AutomaticAlertInput) :
    AutomaticAlertTransition :=
  if !request.persistenceSucceeded then ⟨state, state, none, none, .notPersisted⟩
  else if ∃ s ∈ state, (s.scope, s.kind) ≠ (request.scope, request.kind) then
    Lifecycle.rejected state
  else if request.operation = .open then Lifecycle.openOrUpdate state request
  else
    match state with
    | none => Lifecycle.rejected none
    | some state =>
      if request.operation = .recover then
        Lifecycle.recover state request.nowUtcUs request.nowBounded
      else if request.operation = .archive then Lifecycle.archive state request.nowUtcUs
      else Lifecycle.escalate state request

end Aurora.HealthHistory
