/-
  The production alert lifecycle against the reference model, and parity as a whole.

  A production alert renders a reference alert when it is the same but for its times, which are the
  reference's seconds in microseconds.  Each operation takes renderings to renderings.  The reports
  differ in one place: an occurrence update that changes nothing is idempotent in production, where
  the reference still reports an update (`UnchangedOccurrence`).
-/
import Aurora.M18Validation.Parity

namespace Aurora.M18Validation

open HealthHistory (AutomaticAlertState AutomaticAlertInput AutomaticAlertTransition
  AutomaticAlertOperation AutomaticAlertOutcome LifecycleEvent maxTimestampUs maxBoundedCounter
  alertCooldownUs Bounded Positive)

/-! ## Renderings -/

/-- The scope in the reference's words, -/
def AlertScope.ofProduction : HealthHistory.AlertScope → AlertScope
  | .overall => .overall
  | .wled => .wled
  | .hyperhdr => .hyperhdr
  | .capture => .capture
  | .raspberryPi => .raspberryPi
  | .sampling => .sampling

/-- the kind, -/
def AlertKind.ofProduction : HealthHistory.AlertKind → AlertKind
  | .degraded => .degraded
  | .unavailable => .unavailable
  | .samplingGap => .samplingGap

/-- the lifecycle, -/
def AlertLifecycle.ofProduction : HealthHistory.AlertLifecycle → AlertLifecycle
  | .open => .open
  | .acknowledged => .acknowledged
  | .recovered => .recovered
  | .archived => .archived

/-- the operation, -/
def AlertOperation.ofProduction : AutomaticAlertOperation → AlertOperation
  | .open => .open
  | .recover => .recover
  | .archive => .archive
  | .escalate => .escalate

/-- the outcome, -/
def AlertOutcome.ofProduction : AutomaticAlertOutcome → AlertOutcome
  | .applied => .applied
  | .idempotent => .idempotent
  | .rejected => .rejected
  | .notPersisted => .notPersisted

/-- and the event. -/
def AlertEvent.ofProduction : LifecycleEvent → AlertEvent
  | .opened => .opened
  | .occurrenceUpdated => .occurrenceUpdated
  | .acknowledged => .acknowledged
  | .recovered => .recovered
  | .archived => .archived

theorem AlertScope.ofProduction_inj {a b : HealthHistory.AlertScope} :
    AlertScope.ofProduction a = AlertScope.ofProduction b ↔ a = b := by
  cases a <;> cases b <;> decide

theorem AlertKind.ofProduction_inj {a b : HealthHistory.AlertKind} :
    AlertKind.ofProduction a = AlertKind.ofProduction b ↔ a = b := by
  cases a <;> cases b <;> decide

theorem AlertLifecycle.ofProduction_inj {a b : HealthHistory.AlertLifecycle} :
    AlertLifecycle.ofProduction a = AlertLifecycle.ofProduction b ↔ a = b := by
  cases a <;> cases b <;> decide

theorem AlertOperation.ofProduction_inj {a b : AutomaticAlertOperation} :
    AlertOperation.ofProduction a = AlertOperation.ofProduction b ↔ a = b := by
  cases a <;> cases b <;> decide

/-- The same alert, with its times in microseconds. -/
structure Renders (r : AlertState) (s : AutomaticAlertState) : Prop where
  scope : r.scope = .ofProduction s.scope
  kind : r.kind = .ofProduction s.kind
  lifecycle : r.lifecycle = .ofProduction s.lifecycle
  generation : r.generation = s.generation
  occurrences : r.occurrenceCount = s.occurrenceCount
  cooldown : s.cooldownUntilUtcUs = r.cooldownUntil * 1000000
  recovered : s.recoveredAtUtcUs = r.recoveredAt.map (· * 1000000)

/-- The same request, with its time in microseconds. -/
structure RendersInput (q : AlertInput) (p : AutomaticAlertInput) : Prop where
  operation : q.operation = .ofProduction p.operation
  scope : q.scope = .ofProduction p.scope
  kind : q.kind = .ofProduction p.kind
  now : p.nowUtcUs = q.now * 1000000
  persistence : q.persistenceSucceeded = p.persistenceSucceeded
  escalation : q.escalationKind = p.escalationKind.map AlertKind.ofProduction

/-- The deadline a time sets is below production's bound. -/
def Unsaturated (now : Int) : Prop := (now + alertCooldownSeconds) * 1000000 ≤ maxTimestampUs

instance (now : Int) : Decidable (Unsaturated now) := inferInstanceAs (Decidable (_ ≤ _))

/-- Previous, next and created alert agree. -/
structure AgreesOnAlerts (t : AlertTransition) (u : AutomaticAlertTransition) : Prop where
  previous : Option.Rel Renders t.previous u.previous
  state : Option.Rel Renders t.state u.state
  created : Option.Rel Renders t.createdAlert u.createdAlert

/-- Outcome and event agree. -/
structure AgreesOnReport (t : AlertTransition) (u : AutomaticAlertTransition) : Prop where
  outcome : t.outcome = .ofProduction u.outcome
  event : t.event = u.event.map AlertEvent.ofProduction

/-- An occurrence update of an alert whose count and cooldown are already there. -/
def UnchangedOccurrence (s : Option AutomaticAlertState) (p : AutomaticAlertInput) : Prop :=
  p.persistenceSucceeded = true ∧ p.operation = .open ∧ ∃ a ∈ s,
    (a.scope, a.kind) = (p.scope, p.kind) ∧
    (a.lifecycle.Active ∨ a.lifecycle = .recovered ∧ p.nowUtcUs < a.cooldownUntilUtcUs) ∧
    a.occurrenceCount = maxBoundedCounter ∧
    HealthHistory.Lifecycle.deadline p.nowUtcUs ≤ a.cooldownUntilUtcUs

/-! ## Operations -/

section Operations

variable {r : AlertState} {s : AutomaticAlertState} {q : AlertInput} {p : AutomaticAlertInput}

/-- Below the last second the two deadlines are one moment, in seconds and in microseconds. -/
theorem deadline_renders {now : Int} (h : Unsaturated now) :
    HealthHistory.Lifecycle.deadline (now * 1000000) =
      AlertState.boundedDeadline now * 1000000 := by
  unfold Unsaturated at h
  unfold HealthHistory.Lifecycle.deadline AlertState.boundedDeadline
  unfold alertCooldownSeconds maxTimestampUs at *
  unfold alertCooldownUs maxAlertTime
  omega

theorem Renders.active (h : Renders r s) :
    r.lifecycle = .open ∨ r.lifecycle = .acknowledged ↔ s.lifecycle.Active := by
  rw [h.lifecycle]
  cases s.lifecycle <;> decide

theorem Renders.terminal (h : Renders r s) :
    r.lifecycle = .recovered ∨ r.lifecycle = .archived ↔ s.lifecycle.Terminal := by
  rw [h.lifecycle]
  cases s.lifecycle <;> decide

theorem Renders.isRecovered (h : Renders r s) :
    r.lifecycle = .recovered ↔ s.lifecycle = .recovered := by
  rw [h.lifecycle]
  cases s.lifecycle <;> decide

theorem Renders.isArchived (h : Renders r s) :
    r.lifecycle = .archived ↔ s.lifecycle = .archived := by
  rw [h.lifecycle]
  cases s.lifecycle <;> decide

theorem Renders.isDegraded (h : Renders r s) : r.kind = .degraded ↔ s.kind = .degraded := by
  rw [h.kind]
  cases s.kind <;> decide

/-- A rendered time is before a rendered cooldown when the times are. -/
theorem Renders.cooling (h : Renders r s) {now : Int} :
    now * 1000000 < s.cooldownUntilUtcUs ↔ now < r.cooldownUntil := by
  rw [h.cooldown]
  omega

/-- A rejection on both sides changes nothing and reports the same. -/
theorem rejected_agrees {r : Option AlertState} {s : Option AutomaticAlertState}
    (h : Option.Rel Renders r s) :
    AgreesOnAlerts (AlertState.rejected r) (HealthHistory.Lifecycle.rejected s) ∧
      AgreesOnReport (AlertState.rejected r) (HealthHistory.Lifecycle.rejected s) :=
  ⟨⟨h, h, .none⟩, rfl, rfl⟩

/-- An idempotent answer on both sides changes nothing and reports the same. -/
theorem idempotent_agrees (h : Renders r s) :
    AgreesOnAlerts r.idempotent (HealthHistory.Lifecycle.idempotent s) ∧
      AgreesOnReport r.idempotent (HealthHistory.Lifecycle.idempotent s) :=
  ⟨⟨.some h, .some h, .none⟩, rfl, rfl⟩

/-- A new alert is the same alert on both sides. -/
theorem newAlert_renders {scope : HealthHistory.AlertScope} {kind : HealthHistory.AlertKind}
    {now now' generation generation' : Int} {scope' : AlertScope} {kind' : AlertKind}
    (hscope : scope' = .ofProduction scope) (hkind : kind' = .ofProduction kind)
    (hnow : now' = now * 1000000) (hg : generation = generation') (ht : Unsaturated now)
    (hs : scope = .sampling ↔ kind = .samplingGap)
    (hn : Bounded maxAlertTime now) (hn' : Bounded maxTimestampUs now')
    (hgen : Positive maxAlertGeneration generation)
    (hgen' : Positive maxBoundedCounter generation') :
    Renders (AlertState.newAlert scope' kind' now generation hn hgen)
      (HealthHistory.Lifecycle.newAlert scope kind now' generation' hs hn' hgen') where
  scope := hscope
  kind := hkind
  lifecycle := rfl
  generation := hg
  occurrences := rfl
  cooldown := by
    subst hnow
    exact deadline_renders ht
  recovered := rfl

/-- Another occurrence is counted the same, saturation included. -/
theorem updateOccurrence_renders (h : Renders r s) (hnow : p.nowUtcUs = q.now * 1000000)
    (ht : Unsaturated q.now) :
    Renders (r.updateOccurrence q.now q.nowBounded)
      (HealthHistory.Lifecycle.occurrenceUpdated s p.nowUtcUs p.nowBounded) where
  scope := h.scope
  kind := h.kind
  lifecycle := h.lifecycle
  generation := h.generation
  occurrences := by
    show min (r.occurrenceCount + 1) maxAlertOccurrences =
      min (s.occurrenceCount + 1) maxBoundedCounter
    rw [h.occurrences]
    rfl
  cooldown := by
    show max s.cooldownUntilUtcUs (HealthHistory.Lifecycle.deadline p.nowUtcUs) =
      max r.cooldownUntil (AlertState.boundedDeadline q.now) * 1000000
    rw [h.cooldown, hnow, deadline_renders ht]
    omega
  recovered := h.recovered

theorem recovered_renders (h : Renders r s) (hnow : p.nowUtcUs = q.now * 1000000)
    (ht : Unsaturated q.now) :
    Renders (r.recovered q.now q.nowBounded)
      (HealthHistory.Lifecycle.recovered s p.nowUtcUs p.nowBounded) where
  scope := h.scope
  kind := h.kind
  lifecycle := rfl
  generation := h.generation
  occurrences := h.occurrences
  cooldown := (updateOccurrence_renders h hnow ht).cooldown
  recovered := congrArg some hnow

/-- One guard that both machines test. -/
theorem agrees_ite {c c' : Prop} [Decidable c] [Decidable c'] {t t' : AlertTransition}
    {u u' : AutomaticAlertTransition} (hc : c ↔ c')
    (ht : c' → AgreesOnAlerts t u ∧ AgreesOnReport t u)
    (ht' : ¬c' → AgreesOnAlerts t' u' ∧ AgreesOnReport t' u') :
    AgreesOnAlerts (if c then t else t') (if c' then u else u') ∧
      AgreesOnReport (if c then t else t') (if c' then u else u') := by
  by_cases h : c'
  · rw [if_pos h, if_pos (hc.mpr h)]
    exact ht h
  · rw [if_neg h, if_neg (mt hc.mp h)]
    exact ht' h

/-- The two recoveries, branch by branch. -/
theorem recover_agrees (h : Renders r s) (hnow : p.nowUtcUs = q.now * 1000000)
    (ht : Unsaturated q.now) :
    AgreesOnAlerts (r.recover q.now q.nowBounded)
        (HealthHistory.Lifecycle.recover s p.nowUtcUs p.nowBounded) ∧
      AgreesOnReport (r.recover q.now q.nowBounded)
        (HealthHistory.Lifecycle.recover s p.nowUtcUs p.nowBounded) := by
  refine agrees_ite h.active (fun _ => ?_) fun _ => ?_
  · exact ⟨⟨.some h, .some (recovered_renders h hnow ht), .none⟩, rfl, rfl⟩
  · exact agrees_ite h.terminal (fun _ => idempotent_agrees h) fun _ => rejected_agrees (.some h)

theorem archive_agrees (h : Renders r s) (hnow : p.nowUtcUs = q.now * 1000000) :
    AgreesOnAlerts (r.archive q.now) (HealthHistory.Lifecycle.archive s p.nowUtcUs) ∧
      AgreesOnReport (r.archive q.now) (HealthHistory.Lifecycle.archive s p.nowUtcUs) := by
  refine agrees_ite h.isArchived (fun _ => idempotent_agrees h) fun _ => ?_
  have hguard : r.lifecycle ≠ .recovered ∨ q.now < r.cooldownUntil ↔
      s.lifecycle ≠ .recovered ∨ p.nowUtcUs < s.cooldownUntilUtcUs := by
    rw [hnow, h.cooling]
    exact or_congr_left (not_congr h.isRecovered)
  by_cases hc : s.lifecycle ≠ .recovered ∨ p.nowUtcUs < s.cooldownUntilUtcUs
  · rw [dif_pos hc, dif_pos (hguard.mpr hc)]
    exact rejected_agrees (.some h)
  · rw [dif_neg hc, dif_neg (mt hguard.mp hc)]
    refine ⟨⟨.some h, .some ?_, .none⟩, rfl, rfl⟩
    exact ⟨h.scope, h.kind, rfl, h.generation, h.occurrences, h.cooldown, h.recovered⟩

/-- An escalation archives and reopens on both sides. -/
theorem escalate_agrees (h : Renders r s) (hq : RendersInput q p) (ht : Unsaturated q.now)
    (hg : s.generation < maxBoundedCounter) :
    AgreesOnAlerts (r.escalate q) (HealthHistory.Lifecycle.escalate s p) ∧
      AgreesOnReport (r.escalate q) (HealthHistory.Lifecycle.escalate s p) := by
  have hkind : q.escalationKind ≠ some .unavailable ↔
      p.escalationKind ≠ some .unavailable := by
    rw [hq.escalation]
    cases p.escalationKind with
    | none => decide
    | some kind => cases kind <;> decide
  have hlimit : r.generation ≠ maxAlertGeneration ∧ s.generation ≠ maxBoundedCounter := by
    rw [h.generation]
    unfold maxAlertGeneration maxBoundedCounter at *
    omega
  have hguard : (¬(r.lifecycle = .open ∨ r.lifecycle = .acknowledged) ∨
      q.escalationKind ≠ some .unavailable ∨ r.kind ≠ .degraded ∨
        r.generation = maxAlertGeneration) ↔
      (¬s.lifecycle.Active ∨ s.kind ≠ .degraded ∨ p.escalationKind ≠ some .unavailable ∨
        s.generation = maxBoundedCounter) := by
    have hdegraded : r.kind ≠ .degraded ↔ s.kind ≠ .degraded := not_congr h.isDegraded
    rw [h.active, hkind, hdegraded]
    tauto
  by_cases hc : ¬s.lifecycle.Active ∨ s.kind ≠ .degraded ∨ p.escalationKind ≠ some .unavailable ∨
      s.generation = maxBoundedCounter
  · rw [AlertState.escalate, HealthHistory.Lifecycle.escalate, dif_pos hc,
      dif_pos (hguard.mpr hc)]
    exact rejected_agrees (.some h)
  · rw [AlertState.escalate, HealthHistory.Lifecycle.escalate, dif_neg hc,
      dif_neg (mt hguard.mp hc)]
    refine ⟨⟨.some h, .some h, .some ?_⟩, rfl, rfl⟩
    have hunavailable : AlertKind.unavailable = .ofProduction .unavailable := rfl
    exact newAlert_renders h.scope hunavailable hq.now (congrArg (· + 1) h.generation) ht _ _ _ _ _

/-- The update is idle exactly when count and cooldown are already there. -/
theorem occurrenceUpdated_eq_iff :
    HealthHistory.Lifecycle.occurrenceUpdated s p.nowUtcUs p.nowBounded = s ↔
      s.occurrenceCount = maxBoundedCounter ∧
        HealthHistory.Lifecycle.deadline p.nowUtcUs ≤ s.cooldownUntilUtcUs := by
  have hpositive := s.occurrencePositive
  unfold Positive at hpositive
  constructor
  · intro h
    have hcount : min (s.occurrenceCount + 1) maxBoundedCounter = s.occurrenceCount :=
      congrArg AutomaticAlertState.occurrenceCount h
    have hcooldown : max s.cooldownUntilUtcUs (HealthHistory.Lifecycle.deadline p.nowUtcUs) =
        s.cooldownUntilUtcUs := congrArg AutomaticAlertState.cooldownUntilUtcUs h
    omega
  · rintro ⟨hcount, hcooldown⟩
    have hcount' : min (s.occurrenceCount + 1) maxBoundedCounter = s.occurrenceCount := by omega
    have hcooldown' : max s.cooldownUntilUtcUs (HealthHistory.Lifecycle.deadline p.nowUtcUs) =
        s.cooldownUntilUtcUs := by omega
    unfold HealthHistory.Lifecycle.occurrenceUpdated
    cases s
    simp only at hcount' hcooldown' ⊢
    simp only [hcount', hcooldown']

/-- A later opening of the same scope and kind. -/
theorem reopen_agrees (h : Renders r s) (hq : RendersInput q p) (ht : Unsaturated q.now)
    (hr : r.generation ≠ maxAlertGeneration) (hs : s.generation ≠ maxBoundedCounter) :
    Renders (AlertState.newAlert q.scope q.kind q.now (r.generation + 1) q.nowBounded
        (AlertState.nextGeneration hr))
      (HealthHistory.Lifecycle.newAlert p.scope p.kind p.nowUtcUs (s.generation + 1) p.scopeKind
        p.nowBounded (HealthHistory.Lifecycle.nextGeneration hs)) :=
  newAlert_renders hq.scope hq.kind hq.now (congrArg (· + 1) h.generation) ht _ _ _ _ _

/-- How the two machines report one request: alike, but for an occurrence that changes nothing. -/
structure Reports (idle : Prop) (t : AlertTransition) (u : AutomaticAlertTransition) : Prop where
  alike : ¬idle → AgreesOnReport t u
  idle : idle → (t.outcome, t.event) = (.applied, some .occurrenceUpdated) ∧
    (u.outcome, u.event) = (.idempotent, none)

/-- Agreement without the exception is agreement up to it. -/
theorem Reports.of_agrees {idle : Prop} {t : AlertTransition} {u : AutomaticAlertTransition}
    (hidle : ¬idle) (h : AgreesOnAlerts t u ∧ AgreesOnReport t u) :
    AgreesOnAlerts t u ∧ Reports idle t u :=
  ⟨h.1, fun _ => h.2, fun hi => absurd hi hidle⟩

/-- The one difference: the reference reports an update that changes nothing. -/
theorem occurrence_reports (h : Renders r s) (hq : RendersInput q p) (ht : Unsaturated q.now)
    {idle : Prop} (hidle : idle ↔
      HealthHistory.Lifecycle.occurrenceUpdated s p.nowUtcUs p.nowBounded = s) :
    AgreesOnAlerts
        ⟨some r, some (r.updateOccurrence q.now q.nowBounded), none, some .occurrenceUpdated,
          .applied⟩
        (HealthHistory.Lifecycle.occurrenceTransition s p.nowUtcUs p.nowBounded) ∧
      Reports idle
        ⟨some r, some (r.updateOccurrence q.now q.nowBounded), none, some .occurrenceUpdated,
          .applied⟩
        (HealthHistory.Lifecycle.occurrenceTransition s p.nowUtcUs p.nowBounded) := by
  have hrenders := updateOccurrence_renders h hq.now ht
  unfold HealthHistory.Lifecycle.occurrenceTransition
  by_cases hc : HealthHistory.Lifecycle.occurrenceUpdated s p.nowUtcUs p.nowBounded = s
  · rw [if_pos hc]
    rw [hc] at hrenders
    exact ⟨⟨.some h, .some hrenders, .none⟩, fun hn => absurd (hidle.mpr hc) hn,
      fun _ => ⟨rfl, rfl⟩⟩
  · rw [if_neg hc]
    exact ⟨⟨.some h, .some hrenders, .none⟩, fun _ => ⟨rfl, rfl⟩,
      fun hi => absurd (hidle.mp hi) hc⟩

end Operations

/-! ## The machines -/

/-- Opening, by what the alert was before. -/
theorem openOrUpdate_reports {r : Option AlertState} {s : Option AutomaticAlertState}
    {q : AlertInput} {p : AutomaticAlertInput} (h : Option.Rel Renders r s)
    (hq : RendersInput q p) (ht : Unsaturated q.now)
    (hg : ∀ a ∈ s, a.generation < maxBoundedCounter) (hp : p.persistenceSucceeded = true)
    (hopen : p.operation = .open)
    (hsame : ∀ a ∈ s, (a.scope, a.kind) = (p.scope, p.kind)) :
    AgreesOnAlerts (AlertState.openOrUpdate r q) (HealthHistory.Lifecycle.openOrUpdate s p) ∧
      Reports (UnchangedOccurrence s p) (AlertState.openOrUpdate r q)
        (HealthHistory.Lifecycle.openOrUpdate s p) := by
  cases h with
  | none =>
    refine Reports.of_agrees (fun ⟨_, _, a, ha, _⟩ => by cases ha)
      ⟨⟨.none, .some ?_, .none⟩, rfl, rfl⟩
    exact newAlert_renders hq.scope hq.kind hq.now rfl ht _ _ _ _ _
  | @some r s h =>
    -- on a live alert the exception is exactly the occurrence that changes nothing
    have hunchanged : (s.lifecycle.Active ∨
          s.lifecycle = .recovered ∧ p.nowUtcUs < s.cooldownUntilUtcUs) →
        (UnchangedOccurrence (some s) p ↔
          HealthHistory.Lifecycle.occurrenceUpdated s p.nowUtcUs p.nowBounded = s) := by
      intro hlive
      rw [occurrenceUpdated_eq_iff]
      constructor
      · rintro ⟨-, -, a, ha, -, -, hcount, hcooldown⟩
        obtain rfl := Option.some.inj ha
        exact ⟨hcount, hcooldown⟩
      · rintro ⟨hcount, hcooldown⟩
        exact ⟨hp, hopen, s, rfl, hsame s rfl, hlive, hcount, hcooldown⟩
    unfold AlertState.openOrUpdate HealthHistory.Lifecycle.openOrUpdate
    dsimp only
    by_cases hactive : s.lifecycle.Active
    · rw [if_pos hactive, if_pos (h.active.mpr hactive)]
      exact occurrence_reports h hq ht (hunchanged (.inl hactive))
    rw [if_neg hactive, if_neg (mt h.active.mp hactive)]
    have hcooling : r.lifecycle = .recovered ∧ q.now < r.cooldownUntil ↔
        s.lifecycle = .recovered ∧ p.nowUtcUs < s.cooldownUntilUtcUs := by
      rw [hq.now, h.cooling, h.isRecovered]
    by_cases hc : s.lifecycle = .recovered ∧ p.nowUtcUs < s.cooldownUntilUtcUs
    · rw [if_pos hc, if_pos (hcooling.mpr hc)]
      exact occurrence_reports h hq ht (hunchanged (.inr hc))
    rw [if_neg hc, if_neg (mt hcooling.mp hc)]
    have hs : s.generation ≠ maxBoundedCounter := (hg s rfl).ne
    have hr : r.generation ≠ maxAlertGeneration := by
      have := hg s rfl
      rw [h.generation]
      unfold maxAlertGeneration maxBoundedCounter at *
      omega
    rw [dif_neg hs, dif_neg hr]
    refine Reports.of_agrees ?_ ⟨⟨.some h, .some h, .some (reopen_agrees h hq ht hr hs)⟩,
      rfl, rfl⟩
    rintro ⟨-, -, a, ha, -, hlive, -⟩
    obtain rfl := Option.some.inj ha
    exact hlive.elim hactive hc

/-- The two lifecycles take renderings to renderings, and report alike but for one case. -/
theorem evaluateAlertLifecycle_reports {r : Option AlertState} {s : Option AutomaticAlertState}
    {q : AlertInput} {p : AutomaticAlertInput} (h : Option.Rel Renders r s)
    (hq : RendersInput q p) (ht : Unsaturated q.now)
    (hg : ∀ a ∈ s, a.generation < maxBoundedCounter) :
    AgreesOnAlerts (evaluateAlertLifecycle r q) (HealthHistory.evaluateAutomaticAlert s p) ∧
      Reports (UnchangedOccurrence s p) (evaluateAlertLifecycle r q)
        (HealthHistory.evaluateAutomaticAlert s p) := by
  unfold evaluateAlertLifecycle HealthHistory.evaluateAutomaticAlert
  -- both give up first where nothing was stored
  by_cases hp : p.persistenceSucceeded = true
  swap
  · have hlost : (!p.persistenceSucceeded) = true := by simpa using hp
    rw [hq.persistence, if_pos hlost, if_pos hlost]
    exact Reports.of_agrees (fun hu => hp hu.1) ⟨⟨h, h, .none⟩, rfl, rfl⟩
  have hkept : ¬(!p.persistenceSucceeded) = true := by simpa using hp
  rw [hq.persistence, if_neg hkept, if_neg hkept]
  -- then both refuse a request about another alert
  have hguard : (∃ a ∈ r, (a.scope, a.kind) ≠ (q.scope, q.kind)) ↔
      ∃ a ∈ s, (a.scope, a.kind) ≠ (p.scope, p.kind) := by
    cases h with
    | none => simp
    | @some r s h =>
      simp only [Option.mem_def, Option.some.injEq, exists_eq_left', ne_eq, Prod.mk.injEq,
        h.scope, h.kind, hq.scope, hq.kind, AlertScope.ofProduction_inj,
        AlertKind.ofProduction_inj]
  by_cases hother : ∃ a ∈ s, (a.scope, a.kind) ≠ (p.scope, p.kind)
  · rw [if_pos hother, if_pos (hguard.mpr hother)]
    refine Reports.of_agrees ?_ (rejected_agrees h)
    rintro ⟨-, -, a, ha, hsame, -⟩
    obtain ⟨b, hb, hne⟩ := hother
    obtain rfl := Option.mem_unique ha hb
    exact hne hsame
  rw [if_neg hother, if_neg (mt hguard.mp hother)]
  have hop : ∀ o, q.operation = .ofProduction o ↔ p.operation = o := fun o => by
    rw [hq.operation, AlertOperation.ofProduction_inj]
  have hopens : q.operation = .open ↔ p.operation = .open := hop .open
  -- opening is the one operation in which they may report differently
  by_cases hopen : p.operation = .open
  · rw [if_pos hopen, if_pos (hopens.mpr hopen)]
    exact openOrUpdate_reports h hq ht hg hp hopen fun a ha =>
      not_not.mp fun hne => hother ⟨a, ha, hne⟩
  rw [if_neg hopen, if_neg (mt hopens.mp hopen)]
  refine Reports.of_agrees (fun hu => hopen hu.2.1) ?_
  cases h with
  | none => exact rejected_agrees .none
  | @some r s h =>
    have hacknowledge : q.operation ≠ .acknowledge := by
      rw [hq.operation]
      cases p.operation <;> decide
    dsimp only
    rw [if_neg hacknowledge]
    refine agrees_ite (hop .recover) (fun _ => recover_agrees h hq.now ht) fun _ => ?_
    exact agrees_ite (hop .archive) (fun _ => archive_agrees h hq.now) fun _ =>
      escalate_agrees h hq ht (hg s rfl)

/-! ## Parity -/

theorem open_terminal :
    HealthHistory.AlertLifecycle.open.Terminal ↔ (none : Option Int).isSome = true := by decide

theorem open_reference_terminal :
    AlertLifecycle.open = .recovered ∨ AlertLifecycle.open = .archived ↔
      (none : Option Int).isSome = true := by decide

theorem generation_one : Positive maxAlertGeneration 1 := by decide

/-- An open alert whose count is at its bound, and whose cooldown ends at 900 seconds. -/
def saturatedAlert : AutomaticAlertState :=
  ⟨.wled, .degraded, .open, 1, 65535, 900000000, none, HealthHistory.positive_one, by decide,
    by decide, HealthHistory.boundedOption_none _, open_terminal, by decide⟩

/-- An alert whose count is saturated, -/
def saturatedReference : AlertState :=
  ⟨.wled, .degraded, .open, 1, 65535, 900, none, generation_one, by decide, by decide,
    HealthHistory.boundedOption_none _, open_reference_terminal⟩

/-- The same alert is observed again at time zero. -/
def repeatedInput : AutomaticAlertInput :=
  ⟨.open, .wled, .degraded, 0, true, none, by decide, by decide, by decide⟩

/-- opened once more. -/
def repeatedReference : AlertInput :=
  ⟨.open, .wled, .degraded, 0, true, none, by decide, by decide⟩

/-- The alert of the example is the same on both sides. -/
theorem saturated_renders : Renders saturatedReference saturatedAlert :=
  ⟨rfl, rfl, rfl, rfl, rfl, rfl, rfl⟩

theorem repeated_renders : RendersInput repeatedReference repeatedInput :=
  ⟨rfl, rfl, rfl, rfl, rfl, rfl⟩

/-- The production evaluators refine the reference models, up to idle occurrence updates. -/
theorem production_refines_reference :
    (∀ s o, evaluateSamplingGap (.ofProduction s) (.ofProduction o) =
      .ofProduction (HealthHistory.evaluateSamplingGap s o)) ∧
    (∀ r s q p, Option.Rel Renders r s → RendersInput q p → Unsaturated q.now →
      (∀ a ∈ s, a.generation < maxBoundedCounter) →
      AgreesOnAlerts (evaluateAlertLifecycle r q) (HealthHistory.evaluateAutomaticAlert s p) ∧
        Reports (UnchangedOccurrence s p) (evaluateAlertLifecycle r q)
          (HealthHistory.evaluateAutomaticAlert s p)) ∧
    (∀ schemaVersion component status details, Scalar details →
      normalizeComponentReason schemaVersion component status details =
        HealthHistory.normalizeComponentReason schemaVersion component status details) :=
  ⟨evaluateSamplingGap_ofProduction,
    fun _ _ _ _ h hq ht hg => evaluateAlertLifecycle_reports h hq ht hg,
    fun schemaVersion component _ _ h => normalizeComponentReason_eq schemaVersion component h⟩

theorem production_refines_reference_saturated :
    AgreesOnAlerts (evaluateAlertLifecycle (some saturatedReference) repeatedReference)
        (HealthHistory.evaluateAutomaticAlert (some saturatedAlert) repeatedInput) ∧
      normalizeComponentReason 1 "wled" "unavailable" [("reason_code", .str "wled_disabled")] =
        HealthHistory.normalizeComponentReason 1 "wled" "unavailable"
          [("reason_code", .str "wled_disabled")] := by
  have hgeneration : ∀ a ∈ some saturatedAlert, a.generation < maxBoundedCounter := by
    rintro a ha
    obtain rfl := Option.some.inj ha
    decide
  have hscalar : Scalar [("reason_code", .str "wled_disabled")] := by
    rintro item hitem
    obtain rfl := List.mem_singleton.mp hitem
    exact fun h => by cases h
  exact ⟨(production_refines_reference.2.1 _ _ _ _ (.some saturated_renders) repeated_renders
    (by decide) hgeneration).1, production_refines_reference.2.2 _ _ _ _ hscalar⟩

/-- Both accept the alert and the request, and they report them differently. -/
theorem idle_occurrence_reported_differently :
    Renders saturatedReference saturatedAlert ∧ RendersInput repeatedReference repeatedInput ∧
      Unsaturated repeatedReference.now ∧ saturatedAlert.generation < maxBoundedCounter ∧
      (evaluateAlertLifecycle (some saturatedReference) repeatedReference).outcome = .applied ∧
      (HealthHistory.evaluateAutomaticAlert (some saturatedAlert) repeatedInput).outcome =
        .idempotent := by
  refine ⟨⟨rfl, rfl, rfl, rfl, rfl, rfl, rfl⟩, ⟨rfl, rfl, rfl, rfl, rfl, rfl⟩, by decide,
    by decide, by decide +kernel, by decide +kernel⟩

end Aurora.M18Validation
