/-
  The reviewed reference model of the alert lifecycle.  Its times are seconds.
-/
import Aurora.HealthHistory.Models

namespace Aurora.M18Validation

open HealthHistory (Bounded BoundedOption Positive boundedOption_none boundedOption_some)

/-- The cooldown of an alert, in seconds. -/
def alertCooldownSeconds : Int := 15 * 60
/-- The value the occurrence count saturates at. -/
def maxAlertOccurrences : Int := 65535
/-- The largest generation. -/
def maxAlertGeneration : Int := 2 ^ 63 - 1
/-- The largest time. -/
def maxAlertTime : Int := 2 ^ 63 - 1

/-- What an alert is about. -/
inductive AlertScope
  | overall | wled | hyperhdr | capture | raspberryPi | sampling
deriving DecidableEq, Repr

/-- What is wrong with it. -/
inductive AlertKind
  | degraded | unavailable | samplingGap
deriving DecidableEq, Repr

/-- The stages of an alert. -/
inductive AlertLifecycle
  | «open» | acknowledged | recovered | archived
deriving DecidableEq, Repr

/-- The requests the lifecycle takes. -/
inductive AlertOperation
  | «open» | acknowledge | recover | archive | escalate
deriving DecidableEq, Repr

/-- The events it reports. -/
inductive AlertEvent
  | opened | occurrenceUpdated | acknowledged | recovered | archived
deriving DecidableEq, Repr

/-- How a request ended. -/
inductive AlertOutcome
  | applied | idempotent | rejected | notPersisted
deriving DecidableEq, Repr

/-- A recovery time stands with a recovered or archived alert alone. -/
structure AlertState where
  scope : AlertScope
  kind : AlertKind
  lifecycle : AlertLifecycle
  generation : Int
  occurrenceCount : Int
  cooldownUntil : Int
  recoveredAt : Option Int
  generationPositive : Positive maxAlertGeneration generation
  occurrencePositive : Positive maxAlertOccurrences occurrenceCount
  cooldownBounded : Bounded maxAlertTime cooldownUntil
  recoveredBounded : BoundedOption maxAlertTime recoveredAt
  terminal : lifecycle = .recovered ∨ lifecycle = .archived ↔ recoveredAt.isSome = true

/-- A request, with what its checked constructor asks of it. -/
structure AlertInput where
  operation : AlertOperation
  scope : AlertScope
  kind : AlertKind
  now : Int
  persistenceSucceeded : Bool
  escalationKind : Option AlertKind
  nowBounded : Bounded maxAlertTime now
  escalation : escalationKind.isSome = true ↔ operation = .escalate

/-- The answer to a request. -/
structure AlertTransition where
  previous : Option AlertState
  state : Option AlertState
  createdAlert : Option AlertState
  event : Option AlertEvent
  outcome : AlertOutcome

namespace AlertState

/-- `_bounded_deadline` -/
def boundedDeadline (now : Int) : Int := min (now + alertCooldownSeconds) maxAlertTime

theorem boundedDeadline_bounded {now : Int} (h : Bounded maxAlertTime now) :
    Bounded maxAlertTime (boundedDeadline now) := by
  unfold Bounded boundedDeadline maxAlertTime alertCooldownSeconds at *
  omega

theorem max_bounded {a b : Int} (ha : Bounded maxAlertTime a) (hb : Bounded maxAlertTime b) :
    Bounded maxAlertTime (max a b) := by
  unfold Bounded at *
  omega

/-- A request that changes nothing. -/
def idempotent (state : AlertState) : AlertTransition :=
  ⟨some state, some state, none, none, .idempotent⟩

/-- A request that is refused. -/
def rejected (state : Option AlertState) : AlertTransition :=
  ⟨state, state, none, none, .rejected⟩

/-- A new alert, opened at `now`. -/
def newAlert (scope : AlertScope) (kind : AlertKind) (now generation : Int)
    (hn : Bounded maxAlertTime now) (hg : Positive maxAlertGeneration generation) :
    AlertState where
  scope := scope
  kind := kind
  lifecycle := .open
  generation := generation
  occurrenceCount := 1
  cooldownUntil := boundedDeadline now
  recoveredAt := none
  generationPositive := hg
  occurrencePositive := by decide
  cooldownBounded := boundedDeadline_bounded hn
  recoveredBounded := boundedOption_none _
  terminal := by simp

/-- One more occurrence: the count saturates, and the cooldown does not end earlier. -/
def updateOccurrence (state : AlertState) (now : Int) (hn : Bounded maxAlertTime now) :
    AlertState :=
  { state with
    occurrenceCount := min (state.occurrenceCount + 1) maxAlertOccurrences
    cooldownUntil := max state.cooldownUntil (boundedDeadline now)
    occurrencePositive := by
      have := state.occurrencePositive
      unfold Positive maxAlertOccurrences at *
      omega
    cooldownBounded := max_bounded state.cooldownBounded (boundedDeadline_bounded hn) }

theorem nextGeneration {state : AlertState} (h : state.generation ≠ maxAlertGeneration) :
    Positive maxAlertGeneration (state.generation + 1) := by
  have := state.generationPositive
  unfold Positive at *
  omega

/-- `_open_or_update` -/
def openOrUpdate (state : Option AlertState) (request : AlertInput) : AlertTransition :=
  match state with
  | none =>
    ⟨none, some (newAlert request.scope request.kind request.now 1 request.nowBounded
      (by decide)), none, some .opened, .applied⟩
  | some state =>
    if state.lifecycle = .open ∨ state.lifecycle = .acknowledged then
      ⟨some state, some (updateOccurrence state request.now request.nowBounded), none,
        some .occurrenceUpdated, .applied⟩
    else if state.lifecycle = .recovered ∧ request.now < state.cooldownUntil then
      ⟨some state, some (updateOccurrence state request.now request.nowBounded), none,
        some .occurrenceUpdated, .applied⟩
    else if h : state.generation = maxAlertGeneration then rejected (some state)
    else
      ⟨some state, some state, some (newAlert request.scope request.kind request.now
        (state.generation + 1) request.nowBounded (nextGeneration h)), some .opened, .applied⟩

/-- The acknowledged alert, from an open one. -/
def acknowledged (state : AlertState) (h : state.lifecycle = .open) : AlertState :=
  { state with
    lifecycle := .acknowledged
    terminal := by
      have := state.terminal
      simpa [h] using this }

/-- `_acknowledge` -/
def acknowledge (state : AlertState) : AlertTransition :=
  if h : state.lifecycle = .open then
    ⟨some state, some (acknowledged state h), none, some .acknowledged, .applied⟩
  else if state.lifecycle = .acknowledged then idempotent state
  else rejected (some state)

/-- The recovered alert. -/
def recovered (state : AlertState) (now : Int) (hn : Bounded maxAlertTime now) : AlertState :=
  { state with
    lifecycle := .recovered
    recoveredAt := some now
    cooldownUntil := max state.cooldownUntil (boundedDeadline now)
    recoveredBounded := (boundedOption_some _ _).mpr hn
    cooldownBounded := max_bounded state.cooldownBounded (boundedDeadline_bounded hn)
    terminal := by simp }

/-- `_recover` -/
def recover (state : AlertState) (now : Int) (hn : Bounded maxAlertTime now) : AlertTransition :=
  if state.lifecycle = .open ∨ state.lifecycle = .acknowledged then
    ⟨some state, some (recovered state now hn), none, some .recovered, .applied⟩
  else if state.lifecycle = .recovered ∨ state.lifecycle = .archived then idempotent state
  else rejected (some state)

/-- The archived alert, from a recovered one. -/
def archived (state : AlertState) (h : state.lifecycle = .recovered) : AlertState :=
  { state with
    lifecycle := .archived
    terminal := by
      have := state.terminal
      simpa [h] using this }

/-- `_archive` -/
def archive (state : AlertState) (now : Int) : AlertTransition :=
  if state.lifecycle = .archived then idempotent state
  else if h : state.lifecycle ≠ .recovered ∨ now < state.cooldownUntil then
    rejected (some state)
  else
    ⟨some state, some (archived state (not_not.mp (not_or.mp h).1)), none, some .archived,
      .applied⟩

/-- `_escalate` -/
def escalate (state : AlertState) (request : AlertInput) : AlertTransition :=
  if h : ¬(state.lifecycle = .open ∨ state.lifecycle = .acknowledged) ∨
      request.escalationKind ≠ some .unavailable ∨ state.kind ≠ .degraded ∨
      state.generation = maxAlertGeneration then
    rejected (some state)
  else
    ⟨some state, some state, some (newAlert state.scope .unavailable request.now
      (state.generation + 1) request.nowBounded (nextGeneration (by tauto))), some .opened,
      .applied⟩

end AlertState

/-- `evaluate_alert_lifecycle` -/
def evaluateAlertLifecycle (state : Option AlertState) (request : AlertInput) :
    AlertTransition :=
  if !request.persistenceSucceeded then ⟨state, state, none, none, .notPersisted⟩
  else if ∃ s ∈ state, (s.scope, s.kind) ≠ (request.scope, request.kind) then
    AlertState.rejected state
  else if request.operation = .open then AlertState.openOrUpdate state request
  else
    match state with
    | none => AlertState.rejected none
    | some state =>
      if request.operation = .acknowledge then state.acknowledge
      else if request.operation = .recover then state.recover request.now request.nowBounded
      else if request.operation = .archive then state.archive request.now
      else state.escalate request

end Aurora.M18Validation
