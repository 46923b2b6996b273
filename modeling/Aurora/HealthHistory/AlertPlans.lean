/-
  From plans to the book: archival, planning and the writing of plans.

  `Archived` is what the automatic archival does.  `Plans` says what a plan is for one pair, in the
  cases of `PairStep`, and `post_persistAlertPlan` that writing it makes that step and leaves every
  other pair alone.  Plans are made before any of them is written, so a plan speaks about the rows of
  its pair in the state it was made in.
-/
import Aurora.HealthHistory.Writing

namespace Aurora.HealthHistory

open Ingestion Script

/-! ## Rows of changed alerts -/

namespace AlertRow.Check

variable {r : AlertRow} {now : Int}

theorem archived (h : r.Check) (hr : r.lifecycle = .recovered) (hnow : Bounded maxTimestampUs now) :
    (Episode.archivedRow now r).Check where
  severity := h.severity
  openedAt := h.openedAt
  acknowledgedAt := h.acknowledgedAt
  recoveredAt := h.recoveredAt
  archivedAt := (boundedOption_some _ _).mpr hnow
  episodeCount := h.episodeCount
  occurrenceCount := h.occurrenceCount
  cooldownUntil := h.cooldownUntil
  acknowledgedTime := .inl (by simp [Episode.archivedRow])
  acknowledgedLifecycle := .inr (.inr (.inr rfl))
  terminalRecovered := .inr (h.terminalRecovered.resolve_left (not_not.mpr (.inl hr)))
  archivedTime := .inr (by simp [Episode.archivedRow])
  archivedLifecycle := .inl rfl
  recoveredTerminal := .inl (.inr rfl)
  scopeKind := h.scopeKind
  kindSeverity := h.kindSeverity

theorem recovered (h : r.Check) (sample : Int) (hr : r.lifecycle.Active)
    (hnow : Bounded maxTimestampUs now) : (Episode.recoveredRow now sample r).Check where
  severity := h.severity
  openedAt := h.openedAt
  acknowledgedAt := h.acknowledgedAt
  recoveredAt := (boundedOption_some _ _).mpr hnow
  archivedAt := h.archivedAt
  episodeCount := h.episodeCount
  occurrenceCount := h.occurrenceCount
  cooldownUntil := by
    have h₁ := h.cooldownUntil
    have h₂ := Lifecycle.deadline_bounded hnow
    unfold Episode.recoveredRow Bounded at *
    dsimp only
    omega
  acknowledgedTime := .inl (by simp [Episode.recoveredRow])
  acknowledgedLifecycle := .inr (.inr (.inl rfl))
  terminalRecovered := .inr (by simp [Episode.recoveredRow])
  archivedTime := .inl (by simp [Episode.recoveredRow])
  archivedLifecycle := .inr (h.archivedLifecycle.resolve_left (by
    rcases hr with hr | hr <;> rw [hr] <;> decide))
  recoveredTerminal := .inl (.inl rfl)
  scopeKind := h.scopeKind
  kindSeverity := h.kindSeverity

/-- An alert that occurred again passes its checks. -/
theorem occurred (h : r.Check) (sample : Option Int) (hnow : Bounded maxTimestampUs now) :
    (Episode.occurredRow now sample r).Check where
  severity := h.severity
  openedAt := h.openedAt
  acknowledgedAt := h.acknowledgedAt
  recoveredAt := h.recoveredAt
  archivedAt := h.archivedAt
  episodeCount := h.episodeCount
  occurrenceCount := by
    have h₁ := h.occurrenceCount
    unfold Episode.occurredRow Positive maxBoundedCounter at *
    dsimp only
    omega
  cooldownUntil := by
    have h₁ := h.cooldownUntil
    have h₂ := Lifecycle.deadline_bounded hnow
    unfold Episode.occurredRow Bounded at *
    dsimp only
    omega
  acknowledgedTime := h.acknowledgedTime
  acknowledgedLifecycle := h.acknowledgedLifecycle
  terminalRecovered := h.terminalRecovered
  archivedTime := h.archivedTime
  archivedLifecycle := h.archivedLifecycle
  recoveredTerminal := h.recoveredTerminal
  scopeKind := h.scopeKind
  kindSeverity := h.kindSeverity

end AlertRow.Check

namespace Ingestion.StoredAlert.Of

variable {s : StoredAlert} {r : AlertRow} {now : Int}

/-- The update of a recovered alert writes its recovered row. -/
theorem recoveredRow (h : s.Of r) {sample : Int} (hnow : Bounded maxTimestampUs now) :
    updatedAlert .recovered (Lifecycle.recovered s.state now hnow) now (some sample) r =
      Episode.recoveredRow now sample r := by
  unfold updatedAlert Lifecycle.recovered Episode.recoveredRow
  dsimp only
  rw [h.cooldown]

/-- The update writes what the lifecycle computed. -/
theorem occurredRow (h : s.Of r) {sample : Option Int} (hnow : Bounded maxTimestampUs now) :
    updatedAlert .occurrenceUpdated (Lifecycle.occurrenceUpdated s.state now hnow) now sample r =
      Episode.occurredRow now sample r := by
  unfold updatedAlert Lifecycle.occurrenceUpdated Episode.occurredRow
  dsimp only
  rw [h.cooldown, h.occurrenceCount]

end Ingestion.StoredAlert.Of

/-! ## Writing a plan -/

/-- Writing a transition that changes the stored alert `alertId`. -/
theorem persistAlertPlan_update {alertId now : Int} {sample : Option Int}
    {previous state : AutomaticAlertState} {event : LifecycleEvent}
    (h : event ∈ [LifecycleEvent.occurrenceUpdated, .recovered, .archived]) :
    persistAlertPlan ⟨some alertId, ⟨some previous, some state, none, some event, .applied⟩⟩ now
      sample = (do
        let rowcount ← execute (updateAlertRow alertId event state now sample)
        expectOneRow rowcount
        insertAlertEvent alertId event now sample state.lifecycle) := by
  unfold persistAlertPlan persistUpdate
  have h₁ : attempt (trust (AutomaticAlertOutcome.applied = .applied)) = pure () := rfl
  have h₂ : attempt (trust (event ∈ [LifecycleEvent.occurrenceUpdated, .recovered, .archived])) =
      pure () := by
    rw [trust_pos h]
    rfl
  dsimp only
  rw [if_neg (by decide), h₁, pure_bind, if_neg (by simp)]
  dsimp only
  rw [h₂, pure_bind]

/-- Writing a transition that creates an alert beside the stored one. -/
theorem persistAlertPlan_created {alertId : Option Int} {now : Int} {sample : Option Int}
    {previous state created : AutomaticAlertState} :
    persistAlertPlan ⟨alertId, ⟨some previous, some state, some created, some .opened, .applied⟩⟩
      now sample = persistCreated created now sample := by
  unfold persistAlertPlan
  have h₁ : attempt (trust (AutomaticAlertOutcome.applied = .applied)) = pure () := rfl
  dsimp only
  rw [if_neg (by decide), h₁, pure_bind, if_neg (by simp)]

/-- Writing a transition that creates the first alert of its pair. -/
theorem persistAlertPlan_first {alertId : Option Int} {now : Int} {sample : Option Int}
    {created : AutomaticAlertState} :
    persistAlertPlan ⟨alertId, ⟨none, some created, none, some .opened, .applied⟩⟩
      now sample = persistCreated created now sample := by
  unfold persistAlertPlan
  have h₁ : attempt (trust (AutomaticAlertOutcome.applied = .applied)) = pure () := rfl
  dsimp only
  rw [if_neg (by decide), h₁, pure_bind, if_pos ⟨rfl, by simp⟩]

/-- Nothing is written for a transition that changed nothing. -/
theorem persistAlertPlan_idempotent {alertId : Option Int} {now : Int} {sample : Option Int}
    {state : AutomaticAlertState} :
    persistAlertPlan ⟨alertId, Lifecycle.idempotent state⟩ now sample = pure () := by
  unfold persistAlertPlan Lifecycle.idempotent
  rw [if_pos rfl]

/-! ## Archival -/

/-- Events were added, and each of them satisfies `P`. -/
def EventsAdded (P : AlertEventRow → Prop) (db db' : Database) : Prop :=
  ∃ new, db'.events.rows = db.events.rows ++ new ∧ ∀ e ∈ new, P e

theorem EventsAdded.refl {P : AlertEventRow → Prop} (db : Database) : EventsAdded P db db :=
  ⟨[], (List.append_nil _).symm, fun _ h => absurd h List.not_mem_nil⟩

/-- Events of two parts, one after the other. -/
theorem EventsAdded.trans {P : AlertEventRow → Prop} {db db' db'' : Database}
    (h : EventsAdded P db db') (h' : EventsAdded P db' db'') : EventsAdded P db db'' := by
  obtain ⟨new, hnew, hP⟩ := h
  obtain ⟨new', hnew', hP'⟩ := h'
  refine ⟨new ++ new', by rw [hnew', hnew, List.append_assoc], fun e he => ?_⟩
  rcases List.mem_append.mp he with he | he
  · exact hP e he
  · exact hP' e he

theorem EventsAdded.single {P : AlertEventRow → Prop} {db db' : Database} {e : AlertEventRow}
    (h : db'.events.rows = db.events.rows ++ [e]) (he : P e) : EventsAdded P db db' :=
  ⟨[e], h, fun a ha => by rwa [List.mem_singleton.mp ha]⟩

theorem EventsAdded.mono {P P' : AlertEventRow → Prop} {db db' : Database}
    (h : EventsAdded P db db') (hP : ∀ e, P e → P' e) : EventsAdded P' db db' := by
  obtain ⟨new, hnew, hall⟩ := h
  exact ⟨new, hnew, fun e he => hP e (hall e he)⟩

/-- Everything due was archived, and nothing else changed. -/
structure Archived (now : Int) (db db' : Database) : Prop where
  only : OnlyAlerts db db'
  live : LiveLast db'.toTables
  book : ∀ q, book db' q = archiveDue now (book db q)
  events : EventsAdded (fun e => e.eventType = .archived) db db'

/-- One due alert is archived. -/
theorem post_archiveAlert {db : Database} {now : Int} {r : AlertRow} {s : StoredAlert}
    (hlive : LiveLast db.toTables) (hnow : Bounded maxTimestampUs now) (hr : r ∈ db.alerts.rows)
    (hdue : Eligible now r) (hs : s.Of r) :
    Post (archiveAlert now s) db
      (fun _ db' => LiveLast db'.toTables ∧ ∃ k, Recorded db db' (Episode.archivedRow now)
        (eventRow r.id .archived now none .archived k))
      (· = .sqlite .full) := by
  obtain ⟨hrecovered, hcooldown⟩ := hdue
  have hlifecycle : s.state.lifecycle = .recovered := hs.lifecycle.trans hrecovered
  have hrequest : AutomaticAlertInput.new? .archive s.state.scope s.state.kind now none =
      .ok ⟨.archive, s.state.scope, s.state.kind, now, true, none, s.state.scopeKind, hnow, rfl⟩ := by
    unfold AutomaticAlertInput.new?
    rw [dif_pos s.state.scopeKind, dif_pos hnow, dif_pos (by simp)]
  have htransition : evaluateAutomaticAlert (some s.state)
      ⟨.archive, s.state.scope, s.state.kind, now, true, none, s.state.scopeKind, hnow, rfl⟩ =
      ⟨some s.state, some (Lifecycle.archived s.state hlifecycle), none, some .archived,
        .applied⟩ := by
    have hdue : ¬(s.state.lifecycle ≠ .recovered ∨ now < s.state.cooldownUntilUtcUs) := by
      rw [hlifecycle, hs.cooldown]
      simpa using hcooldown
    unfold evaluateAutomaticAlert
    rw [if_neg (by simp), if_neg (by simp), if_neg (by simp)]
    dsimp only
    rw [if_neg (by simp), if_pos rfl]
    unfold Lifecycle.archive
    rw [if_neg (by rw [hlifecycle]; decide), dif_neg hdue]
  unfold archiveAlert
  rw [hrequest]
  refine Post.bind (R := fun q m => m = db ∧ q = _) (Post.ofExcept rfl ⟨rfl, rfl⟩) ?_
  rintro _ m ⟨rfl, rfl⟩
  rw [htransition, persistAlertPlan_update (by simp), hs.alertId]
  exact post_updateAlert hlive hr (by rw [hrecovered]; decide)
    ((hlive.check hr).2.archived hrecovered hnow) hnow
    (by simp [Lifecycle.archived, LifecycleEvent.allowed])
    (Tables.sampleExists_none _)

/-- The book of a database where one alert was archived has the same alerts due or archived. -/
theorem Recorded.archiveDue_book {db m : Database} {now k : Int} {r : AlertRow}
    (h : Recorded db m (Episode.archivedRow now) (eventRow r.id .archived now none .archived k))
    (hr : r ∈ db.alerts.rows) (hdue : Eligible now r) (q : AlertPair) :
    archiveDue now (book m q) = archiveDue now (book db q) := by
  rw [book_record (f := Episode.archivedRow now) (fun _ => rfl) (fun _ => rfl) h.alerts h.events]
  unfold archiveDue
  rw [List.map_map]
  refine List.map_congr_left fun x hx => ?_
  have hxr : x.row ∈ db.alerts.rows := by
    obtain ⟨a, ha, rfl⟩ := List.mem_map.mp hx
    exact (mem_pairRows.mp ha).1
  rw [Function.comp_apply]
  by_cases hid : x.row.id = (eventRow r.id .archived now none .archived k).alertId
  · have hrow : x.row = r := db.alerts.mem_unique hxr hr hid
    rw [if_pos hid, if_neg (Episode.not_eligible_archivedRow now _), if_pos (hrow ▸ hdue)]
    rfl
  · rw [if_neg hid]

/-- A row changed by archival is due if and only if it is another one that was due. -/
theorem Recorded.mem_eligible {db m : Database} {now k : Int} {r x : AlertRow}
    (h : Recorded db m (Episode.archivedRow now) (eventRow r.id .archived now none .archived k))
    (hr : r ∈ db.alerts.rows) :
    x ∈ m.alerts.rows ∧ Eligible now x ↔ x ∈ db.alerts.rows ∧ Eligible now x ∧ x ≠ r := by
  rw [h.alerts, List.mem_map]
  constructor
  · rintro ⟨⟨a, ha, rfl⟩, hdue⟩
    by_cases hid : a.id = (eventRow r.id .archived now none .archived k).alertId
    · rw [if_pos hid] at hdue
      exact absurd hdue (Episode.not_eligible_archivedRow now a)
    · rw [if_neg hid] at hdue ⊢
      exact ⟨ha, hdue, fun har => hid (congrArg AlertRow.id har)⟩
  · rintro ⟨hx, hdue, hne⟩
    exact ⟨⟨x, hx, if_neg fun hid => hne (db.alerts.mem_unique hx hr hid)⟩, hdue⟩

/-- The due alerts are archived one by one. -/
theorem post_archiveAlerts {now : Int} (hnow : Bounded maxTimestampUs now) :
    ∀ {rows : List AlertRow} {seen : List AlertPair} {db : Database}, LiveLast db.toTables →
      (∀ r, r ∈ rows ↔ r ∈ db.alerts.rows ∧ Eligible now r) →
      rows.Pairwise (fun a b => a.pair ≠ b.pair) → (∀ r ∈ rows, r.pair ∉ seen) →
      Post (archiveAlerts now seen rows) db (fun _ db' => Archived now db db') (· = .sqlite .full)
  | [], _, db, hlive, hrows, _, _ => by
    refine Post.pure ⟨.refl db, hlive, fun q => (archiveDue_eq_self ?_).symm, .refl db⟩
    intro e he hdue
    obtain ⟨a, ha, rfl⟩ := List.mem_map.mp he
    exact List.not_mem_nil ((hrows a).mpr ⟨(mem_pairRows.mp ha).1, hdue⟩)
  | r :: rows, seen, db, hlive, hrows, hpairs, hseen => by
    obtain ⟨hr, hdue⟩ := (hrows r).mp List.mem_cons_self
    obtain ⟨hfirst, hrest⟩ := List.pairwise_cons.mp hpairs
    obtain ⟨s, hs, hof⟩ := storedAlert_of_check (hlive.check hr).1 (hlive.check hr).2
    have hpair : (s.state.scope, s.state.kind) = r.pair := Prod.ext hof.scope hof.kind
    have hnew : (s.state.scope, s.state.kind) ∉ seen := by
      rw [hpair]
      exact hseen r List.mem_cons_self
    unfold archiveAlerts
    rw [hs]
    refine Post.bind (R := fun s' m => db = m ∧ s = s') (Post.ofExcept rfl ⟨rfl, rfl⟩) ?_
    rintro _ _ ⟨rfl, rfl⟩
    refine Post.bind (R := fun _ m => db = m) (Post.trusted hnew rfl) ?_
    rintro _ _ rfl
    refine Post.bind (post_archiveAlert hlive hnow hr hdue hof) ?_
    rintro _ m ⟨hlive', k, hrecorded⟩
    -- the due alerts of the new state are those that are left
    have hrows' : ∀ x, x ∈ rows ↔ x ∈ m.alerts.rows ∧ Eligible now x := by
      intro x
      rw [hrecorded.mem_eligible hr, ← and_assoc, ← hrows, List.mem_cons]
      constructor
      · intro hx
        exact ⟨.inr hx, fun hxr => hfirst x hx (congrArg AlertRow.pair hxr).symm⟩
      · rintro ⟨hx | hx, hne⟩
        · exact absurd hx hne
        · exact hx
    -- no pair is archived twice
    have hseen' : ∀ x ∈ rows, x.pair ∉ (s.state.scope, s.state.kind) :: seen := by
      intro x hx hmem
      rcases List.mem_cons.mp hmem with heq | hmem
      · exact hfirst x hx (heq.trans hpair).symm
      · exact hseen x (List.mem_cons_of_mem _ hx) hmem
    refine (post_archiveAlerts hnow hlive' hrows' hrest hseen').mono ?_ (fun _ h => h)
    intro _ db' h
    have hadded : EventsAdded (fun e => e.eventType = .archived) db m :=
      .single hrecorded.events rfl
    refine ⟨hrecorded.only.trans h.only, h.live, fun q => ?_, hadded.trans h.events⟩
    rw [h.book, hrecorded.archiveDue_book hr hdue]

/-- The pairs an alert can have. -/
def alertPairs : List AlertPair :=
  (healthScopes.flatMap fun s => [(s, .degraded), (s, .unavailable)]) ++ [(.sampling, .samplingGap)]

theorem AlertRow.Check.mem_alertPairs {r : AlertRow} (h : r.Check) : r.pair ∈ alertPairs := by
  obtain ⟨_, scope, kind, _, _, _, _, _, _, _, _, _, _, _⟩ := r
  have hgap : scope = .sampling ↔ kind = .samplingGap := h.samplingGap
  show (scope, kind) ∈ alertPairs
  cases scope <;> cases kind <;> first | decide | (simp at hgap)

/-- The due alerts belong to different pairs. -/
theorem Ingestion.LiveLast.eligible_pairs {db : Database} (h : LiveLast db.toTables) (now : Int) :
    (db.alerts.rows.filter fun r => Eligible now r).Pairwise fun a b => a.pair ≠ b.pair := by
  refine List.Pairwise.imp_of_mem (fun {a b} ha _ hab heq => ?_) (h.earlier.filter _)
  have hdue : Eligible now a := by simpa using (List.mem_filter.mp ha).2
  exact absurd (hdue.1.symm.trans (hab heq)) (by decide)

/-- At most eleven alerts are due at a time. -/
theorem Ingestion.LiveLast.length_eligible {db : Database} (h : LiveLast db.toTables) (now : Int) :
    (db.alerts.rows.filter fun r => Eligible now r).length ≤ maxRelevantAlerts := by
  have hnodup : ((db.alerts.rows.filter fun r => Eligible now r).map AlertRow.pair).Nodup :=
    List.pairwise_map.mpr (h.eligible_pairs now)
  have hsubset : (db.alerts.rows.filter fun r => Eligible now r).map AlertRow.pair ⊆ alertPairs := by
    intro q hq
    obtain ⟨r, hr, rfl⟩ := List.mem_map.mp hq
    exact (db.consistent.alertCheck r (List.mem_filter.mp hr).1).mem_alertPairs
  have hlength := (hnodup.subperm hsubset).length_le
  rw [List.length_map] at hlength
  exact hlength

/-- The automatic archival archives everything that is due. -/
theorem post_archiveEligibleAlerts {db : Database} {now : Int} (hlive : LiveLast db.toTables)
    (hnow : Bounded maxTimestampUs now) :
    Post (archiveEligibleAlerts now) db (fun _ db' => Archived now db db') (· = .sqlite .full) := by
  have hperm := List.perm_insertionSort byCooldown (db.alerts.rows.filter fun r => Eligible now r)
  have hlength := hperm.length_eq.trans_le (hlive.length_eligible now)
  have htake : selectEligibleRecoveredAlerts now (maxRelevantAlerts + 1) db =
      (db.alerts.rows.filter fun r => Eligible now r).insertionSort byCooldown :=
    List.take_of_length_le (by omega)
  unfold archiveEligibleAlerts
  refine Post.bind (R := fun l m => db = m ∧ (db.alerts.rows.filter fun r =>
    Eligible now r).insertionSort byCooldown = l) (Post.read ⟨rfl, htake.symm⟩) ?_
  rintro _ _ ⟨rfl, rfl⟩
  refine Post.bind (R := fun _ m => db = m) (Post.trusted hlength rfl) ?_
  rintro _ _ rfl
  refine post_archiveAlerts hnow hlive (fun r => ?_) ?_ (fun _ _ => List.not_mem_nil)
  · rw [hperm.mem_iff, List.mem_filter, decide_eq_true_eq]
  · exact (hperm.pairwise_iff fun h => h.symm).mpr (hlive.eligible_pairs now)

/-! ## Planning -/

/-- The statements that change one alert. -/
def updateStatements (alertId : Int) (event : LifecycleEvent) (state : AutomaticAlertState)
    (now : Int) (sample : Option Int) : Transaction Unit := do
  let rowcount ← execute (updateAlertRow alertId event state now sample)
  expectOneRow rowcount
  insertAlertEvent alertId event now sample state.lifecycle

/-- The last alert of a pair takes part in a condition: it is active or in its cooldown. -/
def AlertRow.Live (now : Int) (r : AlertRow) : Prop :=
  r.lifecycle.Active ∨ r.lifecycle = .recovered ∧ now < r.cooldownUntilUtcUs

/-- What a plan made in `db` is for the pair `q`. -/
inductive Plans (db : Database) (now : Int) (q : AlertPair) (escalated : Option Int) :
    Request → AlertPlan → Prop
  | opened (plan : AlertPlan) (hq : q.1 = .sampling ↔ q.2 = .samplingGap)
      (hnow : Bounded maxTimestampUs now)
      (hgeneration : Positive maxBoundedCounter
        (nextGeneration (pairRows db q).getLast? escalated))
      (archived : ∀ r ∈ pairRows db q, r.lifecycle = .archived)
      (event : plan.transition.event = some .opened)
      (persist : ∀ sample, persistAlertPlan plan now sample =
        persistCreated (Lifecycle.newAlert q.1 q.2 now _ hq hnow hgeneration) now sample) :
      Plans db now q escalated .condition plan
  | occurred (plan : AlertPlan) (r : AlertRow) (s : StoredAlert)
      (hnow : Bounded maxTimestampUs now) (last : (pairRows db q).getLast? = some r) (of : s.Of r)
      (live : r.Live now) (event : plan.transition.event = some .occurrenceUpdated)
      (persist : ∀ sample, persistAlertPlan plan now sample =
        updateStatements r.id .occurrenceUpdated (Lifecycle.occurrenceUpdated s.state now hnow) now
          sample) :
      Plans db now q escalated .condition plan
  | saturated (plan : AlertPlan) (r : AlertRow) (last : (pairRows db q).getLast? = some r)
      (live : r.Live now) (count : r.occurrenceCount = maxBoundedCounter)
      (event : plan.transition.event = none)
      (persist : ∀ sample, persistAlertPlan plan now sample = pure ()) :
      Plans db now q escalated .condition plan
  | recovered (plan : AlertPlan) (r : AlertRow) (s : StoredAlert)
      (hnow : Bounded maxTimestampUs now) (last : (pairRows db q).getLast? = some r) (of : s.Of r)
      (active : r.lifecycle.Active) (event : plan.transition.event = some .recovered)
      (persist : ∀ sample, persistAlertPlan plan now sample =
        updateStatements r.id .recovered (Lifecycle.recovered s.state now hnow) now sample) :
      Plans db now q escalated .recovery plan

/-- A request is accepted for a scope and a kind that fit. -/
theorem newRequest_ok {scope : AlertScope} {kind : AlertKind} {now : Int}
    (operation : AutomaticAlertOperation) (escalation : Option AlertKind)
    (hq : scope = .sampling ↔ kind = .samplingGap)
    (hnow : Bounded maxTimestampUs now)
    (he : escalation = if operation = .escalate then some .unavailable else none) :
    AutomaticAlertInput.new? operation scope kind now escalation =
      .ok ⟨operation, scope, kind, now, true, escalation, hq, hnow, he⟩ := by
  unfold AutomaticAlertInput.new?
  rw [dif_pos hq, dif_pos hnow, dif_pos he]

/-- A request for the pair of the alert gets to its operation. -/
theorem evaluateAutomaticAlert_open {state : Option AutomaticAlertState}
    {request : AutomaticAlertInput} (hp : request.persistenceSucceeded = true)
    (hq : ∀ s ∈ state, (s.scope, s.kind) = (request.scope, request.kind))
    (ho : request.operation = .open) :
    evaluateAutomaticAlert state request = Lifecycle.openOrUpdate state request := by
  unfold evaluateAutomaticAlert
  rw [if_neg (by simp [hp]), if_neg (by rintro ⟨s, hs, hne⟩; exact hne (hq s hs)), if_pos ho]

theorem evaluateAutomaticAlert_escalate {state : AutomaticAlertState}
    {request : AutomaticAlertInput} (hp : request.persistenceSucceeded = true)
    (hq : (state.scope, state.kind) = (request.scope, request.kind))
    (ho : request.operation = .escalate) :
    evaluateAutomaticAlert (some state) request = Lifecycle.escalate state request := by
  unfold evaluateAutomaticAlert
  rw [if_neg (by simp [hp]), if_neg (by rintro ⟨s, hs, hne⟩; exact hne (Option.some.inj hs ▸ hq)),
    if_neg (by simp [ho])]
  dsimp only
  rw [if_neg (by simp [ho]), if_neg (by simp [ho])]

theorem evaluateAutomaticAlert_recover {state : AutomaticAlertState}
    {request : AutomaticAlertInput} (hp : request.persistenceSucceeded = true)
    (hq : (state.scope, state.kind) = (request.scope, request.kind))
    (ho : request.operation = .recover) :
    evaluateAutomaticAlert (some state) request =
      Lifecycle.recover state request.nowUtcUs request.nowBounded := by
  unfold evaluateAutomaticAlert
  rw [if_neg (by simp [hp]), if_neg (by rintro ⟨s, hs, hne⟩; exact hne (Option.some.inj hs ▸ hq)),
    if_neg (by simp [ho])]
  dsimp only
  rw [if_pos ho]

/-- The transition of one more occurrence, planned for the last alert of its pair. -/
theorem plans_occurrence {db : Database} {now : Int} {q : AlertPair} (escalated : Option Int)
    {r : AlertRow} {s : StoredAlert} (hnow : Bounded maxTimestampUs now)
    (hlast : (pairRows db q).getLast? = some r) (hof : s.Of r) (hlive : r.Live now) :
    (Lifecycle.occurrenceTransition s.state now hnow).outcome ≠ .rejected ∧
      ((Lifecycle.occurrenceTransition s.state now hnow).outcome = .applied ∨
        (Lifecycle.occurrenceTransition s.state now hnow).outcome = .idempotent) ∧
      Plans db now q escalated .condition
        ⟨some s.alertId, Lifecycle.occurrenceTransition s.state now hnow⟩ := by
  unfold Lifecycle.occurrenceTransition
  by_cases hsame : Lifecycle.occurrenceUpdated s.state now hnow = s.state
  · rw [if_pos hsame]
    refine ⟨by simp [Lifecycle.idempotent], .inr rfl, .saturated _ r hlast hlive ?_ rfl
      fun sample => persistAlertPlan_idempotent⟩
    have hcount := congrArg AutomaticAlertState.occurrenceCount hsame
    have hpositive := s.state.occurrencePositive
    rw [← hof.occurrenceCount]
    unfold Lifecycle.occurrenceUpdated Positive at *
    dsimp only at hcount
    omega
  · rw [if_neg hsame]
    refine ⟨by simp, .inl rfl, .occurred _ r s hnow hlast hof hlive rfl fun sample => ?_⟩
    rw [persistAlertPlan_update (by simp), hof.alertId]
    rfl

/-- A last alert that takes part in no condition is archived, and so are the earlier ones, unless
    it is due. -/
theorem archived_of_not_live {db : Database} {now : Int} {q : AlertPair} {r : AlertRow}
    (hlive : LiveLast db.toTables) (hlast : (pairRows db q).getLast? = some r)
    (hdue : ¬Eligible now r) (hnot : ¬r.Live now) :
    ∀ a ∈ pairRows db q, a.lifecycle = .archived := by
  have hr : r.lifecycle = .archived := by
    have hactive : ¬r.lifecycle.Active := fun h => hnot (.inl h)
    rcases AlertLifecycle.not_active_iff.mp hactive with h | h
    · have hcooldown : ¬now < r.cooldownUntilUtcUs := fun hc => hnot (.inr ⟨h, hc⟩)
      exact absurd ⟨h, not_lt.mp hcooldown⟩ hdue
    · exact h
  rcases hlive.pairRows_cases q with hnil | ⟨earlier, r', hrows, harchived⟩
  · rw [hnil]
    exact fun a ha => absurd ha List.not_mem_nil
  · rw [hrows, List.getLast?_append_of_ne_nil _ (by simp)] at hlast
    obtain rfl : r' = r := Option.some.inj hlast
    rw [hrows]
    intro a ha
    rcases List.mem_append.mp ha with ha | ha
    · exact harchived a ha
    · rw [List.mem_singleton.mp ha]
      exact hr

/-- What opening makes of the last alert of a pair: a plan for it, unless it is rejected. -/
theorem plans_openOrUpdate {db : Database} {now : Int} {scope : AlertScope} {kind : AlertKind}
    {escalated : Option Int} {stored : Option StoredAlert} {request : AutomaticAlertInput}
    (hlive : LiveLast db.toTables) (hnow : Bounded maxTimestampUs now)
    (hq : scope = .sampling ↔ kind = .samplingGap)
    (hrequest : (request.scope, request.kind, request.nowUtcUs) = (scope, kind, now))
    (hdue : ∀ r ∈ pairRows db (scope, kind), ¬Eligible now r)
    (hescalated : pairRows db (scope, kind) = [] → escalated = none)
    (hrel : Option.Rel (fun (s : StoredAlert) r => s.Of r) stored
      (pairRows db (scope, kind)).getLast?) :
    (Lifecycle.openOrUpdate (stored.map StoredAlert.state) request).outcome = .rejected ∨
      ((Lifecycle.openOrUpdate (stored.map StoredAlert.state) request).outcome = .applied ∨
        (Lifecycle.openOrUpdate (stored.map StoredAlert.state) request).outcome = .idempotent) ∧
      Plans db now (scope, kind) escalated .condition ⟨stored.map StoredAlert.alertId,
        Lifecycle.openOrUpdate (stored.map StoredAlert.state) request⟩ := by
  obtain ⟨operation, _, _, _, persisted, escalation, _, _, _⟩ := request
  simp only [Prod.mk.injEq] at hrequest
  obtain ⟨rfl, rfl, rfl⟩ := hrequest
  rename_i scope kind now _ _ _
  generalize hlast : (pairRows db (scope, kind)).getLast? = last at hrel
  cases hrel with
  | none =>
    -- the first alert of its pair
    have hnil := List.getLast?_eq_none_iff.mp hlast
    obtain rfl := hescalated hnil
    refine .inr ⟨.inl rfl, .opened _ hq hnow ?_ ?_ rfl fun sample => ?_⟩
    · rw [hlast]
      decide
    · rw [hnil]
      exact fun r hr => absurd hr List.not_mem_nil
    · simp only [hlast]
      exact persistAlertPlan_first
  | @some s r hof =>
    have hmem := List.mem_of_getLast? hlast
    unfold Lifecycle.openOrUpdate
    dsimp only [Option.map_some]
    rw [hof.lifecycle, hof.cooldown]
    by_cases hactive : r.lifecycle.Active
    · rw [if_pos hactive]
      have h := plans_occurrence escalated hnow hlast hof (.inl hactive)
      exact .inr ⟨h.2.1, h.2.2⟩
    rw [if_neg hactive]
    by_cases hcooldown : r.lifecycle = .recovered ∧ now < r.cooldownUntilUtcUs
    · rw [if_pos hcooldown]
      have h := plans_occurrence escalated hnow hlast hof (.inr hcooldown)
      exact .inr ⟨h.2.1, h.2.2⟩
    rw [if_neg hcooldown]
    by_cases hg : s.state.generation = maxBoundedCounter
    · rw [dif_pos hg]
      exact .inl rfl
    · rw [dif_neg hg]
      have hpositive : Positive maxBoundedCounter
          (nextGeneration (pairRows db (scope, kind)).getLast? escalated) := by
        rw [hlast]
        have h := Lifecycle.nextGeneration hg
        rwa [hof.generation] at h
      refine .inr ⟨.inl rfl, .opened _ hq hnow hpositive
        (archived_of_not_live hlive hlast (hdue r hmem) (not_or.mpr ⟨hactive, hcooldown⟩)) rfl
        fun sample => ?_⟩
      rw [persistAlertPlan_created]
      simp only [hlast, nextGeneration, hof.generation]

/-- Opening: either a new alert, one more occurrence, or the generations are exhausted. -/
theorem post_planOpenAlert {db : Database} {now : Int} {scope : AlertScope} {kind : AlertKind}
    (escalated : Option Int) (hlive : LiveLast db.toTables) (hnow : Bounded maxTimestampUs now)
    (hq : scope = .sampling ↔ kind = .samplingGap)
    (hdue : ∀ r ∈ pairRows db (scope, kind), ¬Eligible now r)
    (hescalated : pairRows db (scope, kind) = [] → escalated = none) :
    Post (planOpenAlert scope kind now) db
      (fun plan db' => db = db' ∧ Plans db now (scope, kind) escalated .condition plan)
      (· = .ingestion ⟨.generationExhausted, false⟩) := by
  obtain ⟨stored, hstored, hrel⟩ := hlive.run_currentOrLatestAlert scope kind
  have hpair : ∀ s ∈ stored.map StoredAlert.state, (s.scope, s.kind) = (scope, kind) := by
    intro s hs
    obtain ⟨a, rfl, rfl⟩ := Option.map_eq_some_iff.mp hs
    generalize hlast : (pairRows db (scope, kind)).getLast? = last at hrel
    cases hrel with
    | @some _ r hof =>
      have hr := (mem_pairRows.mp (List.mem_of_getLast? hlast)).2
      exact (Prod.ext hof.scope hof.kind).trans hr
  unfold planOpenAlert
  refine Post.bind (R := fun o m => db = m ∧ stored = o) (Post.of_ok hstored ⟨rfl, rfl⟩) ?_
  rintro _ _ ⟨rfl, rfl⟩
  rw [newRequest_ok .open none hq hnow rfl]
  refine Post.bind (R := fun request m => db = m ∧
    (request.scope, request.kind, request.nowUtcUs) = (scope, kind, now) ∧
      request.persistenceSucceeded = true ∧ request.operation = .open)
    (Post.ofExcept rfl ⟨rfl, rfl, rfl, rfl⟩) ?_
  rintro request _ ⟨rfl, hrequest, hpersisted, hoperation⟩
  have hpair' : ∀ s ∈ stored.map StoredAlert.state,
      (s.scope, s.kind) = (request.scope, request.kind) := by
    simp only [Prod.mk.injEq] at hrequest
    rw [hrequest.1, hrequest.2.1]
    exact hpair
  have hplan := plans_openOrUpdate hlive hnow hq hrequest hdue hescalated hrel
  rw [← evaluateAutomaticAlert_open hpersisted hpair' hoperation] at hplan
  generalize evaluateAutomaticAlert (stored.map StoredAlert.state) request = t at hplan
  dsimp only
  rcases hplan with hrejected | ⟨hok, hplan⟩
  · rw [if_pos hrejected]
    exact Post.of_error rfl rfl
  · rw [if_neg (by rcases hok with h | h <;> rw [h] <;> decide)]
    refine Post.bind (R := fun _ m => db = m) (Post.trusted hok rfl) ?_
    rintro _ _ rfl
    exact Post.pure ⟨rfl, hplan⟩

/-- The generation of the active degraded alert that a condition of the unavailable kind escalates. -/
def escalated (db : Database) (q : AlertPair) : Option Int :=
  if q.2 = .unavailable then (activeRows db (q.1, .degraded)).head?.map AlertRow.episodeCount
  else none

/-- A new alert depends on its values, not on the proofs about them. -/
theorem newAlert_congr {scope scope' : AlertScope} {kind : AlertKind} {now generation generation' : Int}
    {hs : scope = .sampling ↔ kind = .samplingGap} {hs' : scope' = .sampling ↔ kind = .samplingGap}
    {hn hn' : Bounded maxTimestampUs now} {hg : Positive maxBoundedCounter generation}
    {hg' : Positive maxBoundedCounter generation'} (h : scope = scope')
    (h' : generation = generation') :
    Lifecycle.newAlert scope kind now generation hs hn hg =
      Lifecycle.newAlert scope' kind now generation' hs' hn' hg' := by
  subst h
  subst h'
  rfl

/-- What escalation makes of an active degraded alert: a plan for the first unavailable alert of its
    scope, unless it is rejected. -/
theorem plans_escalate {db : Database} {now : Int} {scope : AlertScope} {r : AlertRow}
    {s : StoredAlert} {request : AutomaticAlertInput} (hscope : scope ≠ .sampling)
    (hnow : request.nowUtcUs = now) (hkind : request.escalationKind = some .unavailable)
    (hnil : pairRows db (scope, .unavailable) = []) (hactive : r.lifecycle.Active)
    (hpair : r.pair = (scope, .degraded)) (hof : s.Of r) :
    (Lifecycle.escalate s.state request).outcome = .rejected ∨
      (Lifecycle.escalate s.state request).outcome ≠ .rejected ∧
      (Lifecycle.escalate s.state request).event = some .opened ∧
      Plans db now (scope, .unavailable) (some r.episodeCount) .condition
        ⟨some s.alertId, Lifecycle.escalate s.state request⟩ := by
  subst hnow
  obtain ⟨hrscope, hrkind⟩ := Prod.mk.inj hpair
  have hq : scope = .sampling ↔ AlertKind.unavailable = .samplingGap :=
    iff_of_false hscope (by decide)
  unfold Lifecycle.escalate
  by_cases hg : s.state.generation = maxBoundedCounter
  · rw [dif_pos (.inr (.inr (.inr hg)))]
    exact .inl rfl
  · have hgo : ¬(¬s.state.lifecycle.Active ∨ s.state.kind ≠ .degraded ∨
        request.escalationKind ≠ some .unavailable ∨ s.state.generation = maxBoundedCounter) := by
      rw [hof.lifecycle, hof.kind, hrkind, hkind]
      simp [hactive, hg]
    have hpositive : Positive maxBoundedCounter
        (nextGeneration (pairRows db (scope, .unavailable)).getLast? (some r.episodeCount)) := by
      rw [hnil]
      have h := Lifecycle.nextGeneration hg
      rwa [hof.generation] at h
    rw [dif_neg hgo]
    refine .inr ⟨by simp, rfl, .opened _ hq request.nowBounded hpositive ?_ rfl fun sample => ?_⟩
    · rw [hnil]
      exact fun r hr => absurd hr List.not_mem_nil
    · rw [persistAlertPlan_created]
      refine congrArg (persistCreated · _ sample)
        (newAlert_congr (hof.scope.trans hrscope) ?_)
      rw [hnil, hof.generation]
      rfl

/-- Escalation opens the first unavailable alert of a scope with an active degraded one. -/
theorem post_planEscalation {db : Database} {now : Int} {scope : AlertScope} {r : AlertRow}
    {s : StoredAlert} (hnow : Bounded maxTimestampUs now) (hscope : scope ≠ .sampling)
    (hnil : pairRows db (scope, .unavailable) = []) (hactive : r.lifecycle.Active)
    (hpair : r.pair = (scope, .degraded)) (hof : s.Of r) :
    Post (planEscalation s scope now) db
      (fun plan db' => db = db' ∧
        Plans db now (scope, .unavailable) (some r.episodeCount) .condition plan)
      (· = .ingestion ⟨.generationExhausted, false⟩) := by
  have hq : scope = .sampling ↔ AlertKind.degraded = .samplingGap :=
    iff_of_false hscope (by decide)
  have hstate : (s.state.scope, s.state.kind) = (scope, .degraded) :=
    (Prod.ext hof.scope hof.kind).trans hpair
  unfold planEscalation
  rw [newRequest_ok .escalate (some .unavailable) hq hnow rfl]
  refine Post.bind (R := fun request m => db = m ∧
    (request.scope, request.kind) = (scope, .degraded) ∧ request.nowUtcUs = now ∧
      request.persistenceSucceeded = true ∧ request.operation = .escalate ∧
      request.escalationKind = some .unavailable)
    (Post.ofExcept rfl ⟨rfl, rfl, rfl, rfl, rfl, rfl⟩) ?_
  rintro request _ ⟨rfl, hrequest, hnow', hpersisted, hoperation, hkind⟩
  have hplan := plans_escalate hscope hnow' hkind hnil hactive hpair hof
  rw [← evaluateAutomaticAlert_escalate hpersisted (hstate.trans hrequest.symm) hoperation] at hplan
  generalize evaluateAutomaticAlert (some s.state) request = t at hplan
  dsimp only
  rcases hplan with hrejected | ⟨hnot, hopened, hplan⟩
  · rw [if_pos hrejected]
    exact Post.of_error rfl rfl
  · rw [if_neg hnot]
    refine Post.bind (R := fun _ m => db = m) (Post.trusted hopened rfl) ?_
    rintro _ _ rfl
    exact Post.pure ⟨rfl, hplan⟩

/-- A confirmed condition of a health scope gets its plan. -/
theorem post_planHealthCondition {db : Database} {now : Int} {scope : AlertScope}
    {kind : AlertKind} (hlive : LiveLast db.toTables) (hnow : Bounded maxTimestampUs now)
    (hscope : scope ≠ .sampling) (hkind : kind ≠ .samplingGap)
    (hdue : ∀ r ∈ db.alerts.rows, ¬Eligible now r) :
    Post (planHealthCondition scope kind now) db
      (fun plan db' => db = db' ∧
        Plans db now (scope, kind) (escalated db (scope, kind)) .condition plan)
      (· = .ingestion ⟨.generationExhausted, false⟩) := by
  have hq : scope = .sampling ↔ kind = .samplingGap := iff_of_false hscope hkind
  have hdue' : ∀ r ∈ pairRows db (scope, kind), ¬Eligible now r := fun r hr =>
    hdue r (mem_pairRows.mp hr).1
  unfold planHealthCondition
  -- only a condition of unavailability looks at the degraded alert of its scope
  by_cases hunavailable : kind = .unavailable
  · subst hunavailable
    obtain ⟨stored, hstored, hrel⟩ := hlive.run_currentOrLatestAlert scope .unavailable
    rw [if_neg (by simp)]
    refine Post.bind (R := fun o m => db = m ∧ stored = o) (Post.of_ok hstored ⟨rfl, rfl⟩) ?_
    rintro _ _ ⟨rfl, rfl⟩
    generalize hlast : (pairRows db (scope, .unavailable)).getLast? = last at hrel
    cases hrel with
    | some =>
      refine post_planOpenAlert _ hlive hnow hq hdue' fun hnil => ?_
      rw [hnil] at hlast
      cases hlast
    | none =>
      have hnil := List.getLast?_eq_none_iff.mp hlast
      obtain ⟨active, hactive, hall⟩ := hlive.run_activeHealthAlerts scope
      have hnone : activeRows db (scope, .unavailable) = [] := by
        unfold activeRows
        rw [hnil]
        rfl
      rw [hnone, List.append_nil] at hall
      refine Post.bind (R := fun l m => db = m ∧ active = l) (Post.of_ok hactive ⟨rfl, rfl⟩) ?_
      rintro _ _ ⟨rfl, rfl⟩
      -- at most one degraded alert is active: none, or the one that escalates
      have hone := hlive.length_activeRows (scope, .degraded)
      rcases hrows : activeRows db (scope, .degraded) with _ | ⟨r, _ | ⟨r', rest⟩⟩
      · rw [hrows] at hall
        cases hall
        refine post_planOpenAlert _ hlive hnow hq hdue' fun _ => ?_
        simp [escalated, hrows]
      · rw [hrows] at hall
        cases hall with
        | @cons _ s _ _ hof hrest =>
          cases hrest
          have hr := mem_activeRows.mp (hrows ▸ List.mem_singleton_self r)
          have hdegraded : s.state.kind = .degraded :=
            hof.kind.trans (Prod.mk.inj hr.2.1).2
          have hescalated : escalated db (scope, .unavailable) = some r.episodeCount := by
            simp [escalated, hrows]
          rw [List.find?_cons_of_pos (by simp [hdegraded]), hescalated]
          exact post_planEscalation hnow hscope hnil hr.2.2 hr.2.1 hof
      · rw [hrows] at hone
        simp only [List.length_cons] at hone
        omega
  · rw [if_pos hunavailable]
    refine post_planOpenAlert _ hlive hnow hq hdue' fun _ => ?_
    exact if_neg hunavailable

/-- An active alert is the last of its pair. -/
theorem Ingestion.LiveLast.last_of_active {db : Database} (h : LiveLast db.toTables) {r : AlertRow}
    (hr : r ∈ db.alerts.rows) (hactive : r.lifecycle.Active) :
    (pairRows db r.pair).getLast? = some r := by
  have hmem : r ∈ activeRows db r.pair := mem_activeRows.mpr ⟨hr, rfl, hactive⟩
  rw [h.activeRows_eq, List.mem_filter, Option.mem_toList] at hmem
  exact hmem.1

/-- An active alert gets its recovery plan. -/
theorem recoveryPlan_ok {db : Database} {now : Int} {r : AlertRow} {s : StoredAlert}
    (escalated : Option Int) (hlive : LiveLast db.toTables) (hnow : Bounded maxTimestampUs now)
    (hr : r ∈ db.alerts.rows) (hactive : r.lifecycle.Active) (hof : s.Of r) :
    ∃ plan, recoveryPlan now s = .ok plan ∧ Plans db now r.pair escalated .recovery plan := by
  have hrecover : Lifecycle.recover s.state now hnow =
      ⟨some s.state, some (Lifecycle.recovered s.state now hnow), none, some .recovered,
        .applied⟩ := by
    unfold Lifecycle.recover
    rw [hof.lifecycle, if_pos hactive]
  refine ⟨⟨some s.alertId, Lifecycle.recover s.state now hnow⟩, ?_, ?_⟩
  · unfold recoveryPlan
    rw [newRequest_ok .recover none s.state.scopeKind hnow rfl]
    show (trust _ >>= _) = _
    rw [evaluateAutomaticAlert_recover rfl rfl rfl, hrecover]
    rfl
  · rw [hrecover]
    refine .recovered _ r s hnow (hlive.last_of_active hr hactive) hof hactive rfl fun sample => ?_
    rw [persistAlertPlan_update (by simp), hof.alertId]
    rfl

/-- A list of active alerts gets one recovery plan each. -/
theorem recoveryPlans_ok {db : Database} {now : Int} (hlive : LiveLast db.toTables)
    (hnow : Bounded maxTimestampUs now) {rows : List AlertRow} {stored : List StoredAlert}
    (hall : List.Forall₂ (fun r (s : StoredAlert) => s.Of r) rows stored)
    (hrows : ∀ r ∈ rows, r ∈ db.alerts.rows ∧ r.lifecycle.Active) :
    ∃ plans, stored.mapM (recoveryPlan now) = .ok plans ∧
      List.Forall₂ (fun q plan => Plans db now q (escalated db q) .recovery plan)
        (rows.map AlertRow.pair) plans := by
  induction hall with
  | nil => exact ⟨[], rfl, .nil⟩
  | @cons r s rows stored hof _ ih =>
    obtain ⟨hr, hrest⟩ := List.forall_mem_cons.mp hrows
    obtain ⟨plan, hplan, hplans⟩ := recoveryPlan_ok (escalated db r.pair) hlive hnow hr.1 hr.2 hof
    obtain ⟨plans, hrun, hall⟩ := ih hrest
    refine ⟨plan :: plans, ?_, .cons hplans hall⟩
    rw [List.mapM_cons, hplan, ok_bind, hrun]
    rfl

/-! ## All plans of one ingest -/

/-- What the evaluator of a health scope asks for a pair of its scope. -/
def healthRequest (transition : HealthEvaluationTransition) (kind : AlertKind) : Request :=
  match transition.event with
  | .conditionConfirmed =>
    if transition.state.currentStatus.bind alertKindOfStatus = some kind then .condition
    else .nothing
  | .recoveryConfirmed => if kind = .samplingGap then .nothing else .recovery
  | .none => .nothing

/-- What the gap evaluator asks for a pair of the sampling scope. -/
def gapRequest (gap : SamplingGapTransition) (observationHasMiss : Bool) (kind : AlertKind) :
    Request :=
  if kind ≠ .samplingGap then .nothing
  else if gapCondition gap observationHasMiss then .condition
  else if gap.event = .recovered then .recovery
  else .nothing

/-- The plans serve what is asked for the pairs in `P`: at most one plan a pair, and a pair without
    one is asked nothing, or a recovery it has no active alert for. -/
def Covers (db : Database) (now : Int) (request : AlertPair → Request) (P : AlertPair → Prop)
    (plans : List AlertPlan) : Prop :=
  ∃ targets : List AlertPair, targets.Nodup ∧ (∀ q ∈ targets, P q) ∧
    List.Forall₂ (fun q plan => Plans db now q (escalated db q) (request q) plan) targets plans ∧
    ∀ q, P q → q ∉ targets → request q = .nothing ∨ request q = .recovery ∧ activeRows db q = []

/-- Nothing is planned where nothing is requested. -/
theorem Covers.nil {db : Database} {now : Int} {request : AlertPair → Request}
    {P : AlertPair → Prop} (h : ∀ q, P q → request q = .nothing) : Covers db now request P [] :=
  ⟨[], List.nodup_nil, fun _ hq => absurd hq List.not_mem_nil, .nil, fun q hq _ => .inl (h q hq)⟩

theorem Covers.single {db : Database} {now : Int} {request : AlertPair → Request}
    {P : AlertPair → Prop} {q : AlertPair} {plan : AlertPlan} (hq : P q)
    (hplan : Plans db now q (escalated db q) (request q) plan)
    (h : ∀ q', P q' → q' ≠ q → request q' = .nothing) : Covers db now request P [plan] :=
  ⟨[q], List.nodup_singleton q, fun q' hq' => by rwa [List.mem_singleton.mp hq'],
    .cons hplan .nil, fun q' hq' hne => .inl (h q' hq' fun heq => hne (heq ▸ List.mem_singleton_self q))⟩

/-- Plans for disjoint sets of pairs. -/
theorem Covers.append {db : Database} {now : Int} {request : AlertPair → Request}
    {P P' : AlertPair → Prop} {plans plans' : List AlertPlan} (h : Covers db now request P plans)
    (h' : Covers db now request P' plans') (hdisjoint : ∀ q, P q → ¬P' q) :
    Covers db now request (fun q => P q ∨ P' q) (plans ++ plans') := by
  obtain ⟨targets, hnodup, hP, hplans, hrest⟩ := h
  obtain ⟨targets', hnodup', hP', hplans', hrest'⟩ := h'
  refine ⟨targets ++ targets', ?_, fun q hq => ?_, List.rel_append hplans hplans', fun q hq hne => ?_⟩
  · refine List.Nodup.append hnodup hnodup' fun q hq hq' => ?_
    exact hdisjoint q (hP q hq) (hP' q hq')
  · rcases List.mem_append.mp hq with hq | hq
    · exact .inl (hP q hq)
    · exact .inr (hP' q hq)
  · rw [List.mem_append, not_or] at hne
    rcases hq with hq | hq
    · exact hrest q hq hne.1
    · exact hrest' q hq hne.2

/-- The pairs may be described differently. -/
theorem Covers.congr {db : Database} {now : Int} {request : AlertPair → Request}
    {P P' : AlertPair → Prop} {plans : List AlertPlan} (h : Covers db now request P plans)
    (hP : ∀ q, P q ↔ P' q) : Covers db now request P' plans := by
  obtain rfl : P = P' := funext fun q => propext (hP q)
  exact h

/-- The active rows are of different pairs. -/
theorem Ingestion.LiveLast.activeRows_nodup {db : Database} (h : LiveLast db.toTables)
    (q : AlertPair) : ((activeRows db q).map AlertRow.pair).Nodup := by
  have hlength := h.length_activeRows q
  rcases hrows : activeRows db q with _ | ⟨r, _ | ⟨r', rest⟩⟩
  · exact List.nodup_nil
  · exact List.nodup_singleton _
  · rw [hrows] at hlength
    simp only [List.length_cons] at hlength
    omega

/-- The active alerts of a scope belong to different pairs. -/
theorem Ingestion.LiveLast.activePairs_nodup {db : Database} (h : LiveLast db.toTables)
    (scope : AlertScope) :
    ((activeRows db (scope, .degraded) ++ activeRows db (scope, .unavailable)).map
      AlertRow.pair).Nodup := by
  rw [List.map_append]
  refine List.Nodup.append (h.activeRows_nodup _) (h.activeRows_nodup _) fun q hq hq' => ?_
  obtain ⟨r, hr, rfl⟩ := List.mem_map.mp hq
  obtain ⟨r', hr', heq⟩ := List.mem_map.mp hq'
  have hpair := (mem_activeRows.mp hr').2.1
  rw [heq, (mem_activeRows.mp hr).2.1] at hpair
  cases hpair

/-- One recovery plan for each active alert of the pairs in `P`. -/
theorem Covers.recovery {db : Database} {now : Int} {request : AlertPair → Request}
    {P : AlertPair → Prop} {rows : List AlertRow} {plans : List AlertPlan}
    (hnodup : (rows.map AlertRow.pair).Nodup) (hP : ∀ r ∈ rows, P r.pair)
    (hactive : ∀ q, P q → ∀ r ∈ activeRows db q, r ∈ rows)
    (hrequest : ∀ r ∈ rows, request r.pair = .recovery)
    (hother : ∀ q, P q → request q = .nothing ∨ request q = .recovery)
    (hplans : List.Forall₂ (fun q plan => Plans db now q (escalated db q) .recovery plan)
      (rows.map AlertRow.pair) plans) : Covers db now request P plans := by
  have hmap : ∀ q ∈ rows.map AlertRow.pair, ∃ r ∈ rows, r.pair = q := fun q hq =>
    List.mem_map.mp hq
  refine ⟨rows.map AlertRow.pair, hnodup, fun q hq => ?_, ?_, fun q hq hne => ?_⟩
  · obtain ⟨r, hr, rfl⟩ := hmap q hq
    exact hP r hr
  · have hall : ∀ q ∈ rows.map AlertRow.pair, request q = .recovery := fun q hq => by
      obtain ⟨r, hr, rfl⟩ := hmap q hq
      exact hrequest r hr
    refine ((List.forall₂_and_left _ _).mpr ⟨hall, hplans⟩).imp ?_
    rintro q plan ⟨hq, hplan⟩
    rw [hq]
    exact hplan
  · refine (hother q hq).imp_right fun hrecovery => ⟨hrecovery, ?_⟩
    refine List.eq_nil_iff_forall_not_mem.mpr fun r hr => hne ?_
    exact List.mem_map.mpr ⟨r, hactive q hq r hr, (mem_activeRows.mp hr).2.1⟩

/-- The plans of one health scope. -/
theorem post_planHealthScope {db : Database} {now : Int} {request : AlertPair → Request}
    {scope : AlertScope} {transition : HealthEvaluationTransition} (hlive : LiveLast db.toTables)
    (hnow : Bounded maxTimestampUs now) (hscope : scope ≠ .sampling)
    (hdue : ∀ r ∈ db.alerts.rows, ¬Eligible now r)
    (hcondition : transition.event = .conditionConfirmed →
      ∃ status, transition.state.currentStatus = some status ∧ status ≠ .healthy)
    (hrequest : ∀ kind, request (scope, kind) = healthRequest transition kind) :
    Post (planHealthScope now (scope, transition)) db
      (fun plans db' => db = db' ∧ Covers db now request (fun q => q.1 = scope) plans)
      (· = .ingestion ⟨.generationExhausted, false⟩) := by
  unfold planHealthScope
  cases hevent : transition.event with
  | none =>
    refine Post.pure ⟨rfl, .nil fun q hq => ?_⟩
    obtain ⟨scope', kind⟩ := q
    obtain rfl : scope' = scope := hq
    rw [hrequest]
    simp [healthRequest, hevent]
  | conditionConfirmed =>
    obtain ⟨status, hcurrent, hstatus⟩ := hcondition hevent
    obtain ⟨kind, hkind, hgap⟩ : ∃ kind, alertKindOfStatus status = some kind ∧
        kind ≠ .samplingGap := by
      cases status with
      | healthy => exact absurd rfl hstatus
      | degraded => exact ⟨.degraded, rfl, by decide⟩
      | unavailable => exact ⟨.unavailable, rfl, by decide⟩
    have hbind : transition.state.currentStatus.bind alertKindOfStatus = some kind := by
      rw [hcurrent]
      exact hkind
    dsimp only
    rw [hbind]
    refine Post.bind (post_planHealthCondition hlive hnow hscope hgap hdue) ?_
    rintro plan _ ⟨rfl, hplan⟩
    -- the condition is about the one kind of its status
    have hkinds : ∀ kind', request (scope, kind') =
        if some kind = some kind' then .condition else .nothing := by
      intro kind'
      rw [hrequest]
      simp only [healthRequest, hevent, hbind]
    refine Post.pure ⟨rfl, .single (q := (scope, kind)) rfl ?_ fun q hq hne => ?_⟩
    · rw [hkinds, if_pos rfl]
      exact hplan
    · obtain ⟨scope', kind'⟩ := q
      obtain rfl : scope' = scope := hq
      rw [hkinds, if_neg fun h => hne (by rw [Option.some.inj h])]
  | recoveryConfirmed =>
    obtain ⟨stored, hstored, hall⟩ := hlive.run_activeHealthAlerts scope
    have hrows : ∀ r ∈ activeRows db (scope, .degraded) ++ activeRows db (scope, .unavailable),
        r ∈ db.alerts.rows ∧ r.lifecycle.Active := fun r hr => by
      rcases List.mem_append.mp hr with hr | hr
      · exact ⟨(mem_activeRows.mp hr).1, (mem_activeRows.mp hr).2.2⟩
      · exact ⟨(mem_activeRows.mp hr).1, (mem_activeRows.mp hr).2.2⟩
    obtain ⟨plans, hplans, hcover⟩ := recoveryPlans_ok hlive hnow hall hrows
    unfold planHealthRecovery
    refine Post.bind (R := fun l m => db = m ∧ stored = l) (Post.of_ok hstored ⟨rfl, rfl⟩) ?_
    rintro _ _ ⟨rfl, rfl⟩
    -- a recovery is about either kind of the scope, whichever is active
    have hkinds : ∀ kind, request (scope, kind) =
        if kind = .samplingGap then .nothing else .recovery := by
      intro kind
      rw [hrequest]
      simp only [healthRequest, hevent]
    have hpairs : ∀ r ∈ activeRows db (scope, .degraded) ++ activeRows db (scope, .unavailable),
        r.pair = (scope, .degraded) ∨ r.pair = (scope, .unavailable) := fun r hr => by
      rcases List.mem_append.mp hr with hr | hr
      · exact .inl (mem_activeRows.mp hr).2.1
      · exact .inr (mem_activeRows.mp hr).2.1
    refine Post.ofExcept hplans ⟨rfl, .recovery (hlive.activePairs_nodup scope) ?_ ?_ ?_ ?_ hcover⟩
    · intro r hr
      rcases hpairs r hr with h | h <;> rw [h]
    · rintro ⟨scope', kind⟩ hq r hr
      obtain rfl : scope' = scope := hq
      obtain ⟨hmem, hpair, hactive⟩ := mem_activeRows.mp hr
      rw [List.mem_append, mem_activeRows, mem_activeRows, hpair]
      cases kind with
      | degraded => exact .inl ⟨hmem, rfl, hactive⟩
      | unavailable => exact .inr ⟨hmem, rfl, hactive⟩
      | samplingGap =>
        have hcheck := (hlive.check hmem).2.samplingGap
        obtain ⟨hrscope, hrkind⟩ := Prod.mk.inj hpair
        exact absurd (hrscope.symm.trans (hcheck.mpr hrkind)) hscope
    · intro r hr
      rcases hpairs r hr with h | h <;> rw [h, hkinds] <;> rfl
    · rintro ⟨scope', kind⟩ hq
      obtain rfl : scope' = scope := hq
      rw [hkinds]
      split
      · exact .inl rfl
      · exact .inr rfl

/-- The recovery of one pair: a plan for its active alert, if there is one. -/
theorem post_planPairRecovery {db : Database} {now : Int} (hlive : LiveLast db.toTables)
    (hnow : Bounded maxTimestampUs now) (scope : AlertScope) (kind : AlertKind) :
    ∃ plans, (planPairRecovery scope kind now).run db = .ok (plans, db) ∧
      List.Forall₂ (fun q plan => Plans db now q (escalated db q) .recovery plan)
        ((activeRows db (scope, kind)).map AlertRow.pair) plans := by
  have hlength := hlive.length_activeRows (scope, kind)
  have htake : selectActivePairAlert scope kind db = activeRows db (scope, kind) :=
    List.take_of_length_le (by omega)
  unfold planPairRecovery attempt select
  simp only [Script.run_bind, Script.run_read, Script.run_ofExcept, htake, trust_pos hlength, map_ok]
  rcases hrows : activeRows db (scope, kind) with _ | ⟨r, _ | ⟨r', rest⟩⟩
  · exact ⟨[], rfl, .nil⟩
  · obtain ⟨hr, -, hactive⟩ := mem_activeRows.mp (hrows ▸ List.mem_singleton_self r)
    obtain ⟨s, hs, hof⟩ := storedAlert_of_check (hlive.check hr).1 (hlive.check hr).2
    obtain ⟨plan, hplan, hplans⟩ := recoveryPlan_ok (escalated db r.pair) hlive hnow hr hactive hof
    refine ⟨[plan], ?_, .cons hplans .nil⟩
    simp only [Script.run_bind, Script.run_ofExcept, hs, hplan, map_ok, Script.run_pure]
  · rw [hrows] at hlength
    simp only [List.length_cons] at hlength
    omega

/-- The plans of the sampling scope. -/
theorem post_planGap {db : Database} {now : Int} {request : AlertPair → Request}
    {gap : SamplingGapTransition} {observationHasMiss : Bool} (hlive : LiveLast db.toTables)
    (hnow : Bounded maxTimestampUs now) (hdue : ∀ r ∈ db.alerts.rows, ¬Eligible now r)
    (hrequest : ∀ kind, request (.sampling, kind) = gapRequest gap observationHasMiss kind) :
    Post (planGap gap now observationHasMiss) db
      (fun plans db' => db = db' ∧ Covers db now request (fun q => q.1 = .sampling) plans)
      (· = .ingestion ⟨.generationExhausted, false⟩) := by
  have hother : ∀ q : AlertPair, q.1 = .sampling → q ≠ (.sampling, .samplingGap) →
      request q = .nothing := by
    rintro ⟨scope, kind⟩ hq hne
    obtain rfl : scope = .sampling := hq
    rw [hrequest, gapRequest, if_pos fun hkind => hne (by rw [hkind])]
  unfold planGap
  -- the gap is a condition, a recovery or nothing of its one pair
  by_cases hcondition : gapCondition gap observationHasMiss
  · rw [if_pos hcondition]
    have hgap : request (.sampling, .samplingGap) = .condition := by
      rw [hrequest, gapRequest, if_neg (by decide), if_pos hcondition]
    refine Post.bind (post_planOpenAlert none hlive hnow (by decide)
      (fun r hr => hdue r (mem_pairRows.mp hr).1) fun _ => rfl) ?_
    rintro plan _ ⟨rfl, hplan⟩
    refine Post.pure ⟨rfl, .single (q := (.sampling, .samplingGap)) rfl ?_ hother⟩
    rw [hgap]
    exact hplan
  · rw [if_neg hcondition]
    by_cases hrecovered : gap.event = .recovered
    · rw [if_pos hrecovered]
      have hgap : request (.sampling, .samplingGap) = .recovery := by
        rw [hrequest, gapRequest, if_neg (by decide), if_neg hcondition, if_pos hrecovered]
      have hother' : ∀ q : AlertPair, q.1 = .sampling →
          request q = .nothing ∨ request q = .recovery := fun q hq => by
        by_cases hne : q = (.sampling, .samplingGap)
        · exact .inr (hne ▸ hgap)
        · exact .inl (hother q hq hne)
      obtain ⟨plans, hplans, hcovers⟩ := post_planPairRecovery hlive hnow .sampling .samplingGap
      refine Post.of_ok hplans ⟨rfl, .recovery (hlive.activeRows_nodup _) ?_ ?_ ?_ hother' hcovers⟩
      · intro r hr
        exact congrArg Prod.fst (mem_activeRows.mp hr).2.1
      · rintro ⟨scope, kind⟩ hq r hr
        obtain rfl : scope = .sampling := hq
        obtain ⟨hmem, hpair, -⟩ := mem_activeRows.mp hr
        obtain ⟨hrscope, hrkind⟩ := Prod.mk.inj hpair
        obtain rfl : kind = .samplingGap :=
          hrkind.symm.trans ((hlive.check hmem).2.samplingGap.mp hrscope)
        exact hr
      · intro r hr
        rw [(mem_activeRows.mp hr).2.1, hgap]
    · rw [if_neg hrecovered]
      refine Post.pure ⟨rfl, .nil fun q hq => ?_⟩
      obtain ⟨scope, kind⟩ := q
      obtain rfl : scope = .sampling := hq
      rw [hrequest, gapRequest, if_neg hcondition, if_neg hrecovered, ite_self]

/-- What the evaluators ask for. -/
def requestOf (transitions : AlertScope → HealthEvaluationTransition) (gap : SamplingGapTransition)
    (observationHasMiss : Bool) (q : AlertPair) : Request :=
  if q.1 = .sampling then gapRequest gap observationHasMiss q.2
  else healthRequest (transitions q.1) q.2

/-- The plans of a list of health scopes. -/
theorem post_planHealthScopes {db : Database} {now : Int} {request : AlertPair → Request}
    {transitions : AlertScope → HealthEvaluationTransition} (hlive : LiveLast db.toTables)
    (hnow : Bounded maxTimestampUs now) (hdue : ∀ r ∈ db.alerts.rows, ¬Eligible now r)
    (hcondition : ∀ s ≠ .sampling, (transitions s).event = .conditionConfirmed →
      ∃ status, (transitions s).state.currentStatus = some status ∧ status ≠ .healthy)
    (hrequest : ∀ s ≠ .sampling, ∀ kind, request (s, kind) = healthRequest (transitions s) kind) :
    ∀ {scopes : List AlertScope}, scopes.Nodup → .sampling ∉ scopes →
      Post ((scopes.map fun s => (s, transitions s)).mapM (planHealthScope now)) db
        (fun plans db' => db = db' ∧ Covers db now request (fun q => q.1 ∈ scopes) plans.flatten)
        (· = .ingestion ⟨.generationExhausted, false⟩)
  | [], _, _ => Post.pure ⟨rfl, .nil fun _ hq => absurd hq List.not_mem_nil⟩
  | s :: scopes, hnodup, hsampling => by
    obtain ⟨hs, hrest⟩ := List.nodup_cons.mp hnodup
    have hne : AlertScope.sampling ≠ s := fun h => hsampling (h ▸ List.mem_cons_self)
    have hsampling' : AlertScope.sampling ∉ scopes := fun h =>
      hsampling (List.mem_cons_of_mem _ h)
    rw [List.map_cons, List.mapM_cons]
    refine Post.bind (post_planHealthScope hlive hnow (Ne.symm hne) hdue
      (hcondition s (Ne.symm hne)) (hrequest s (Ne.symm hne))) ?_
    rintro plans _ ⟨rfl, hcovers⟩
    refine Post.bind (post_planHealthScopes hlive hnow hdue hcondition hrequest hrest hsampling') ?_
    rintro rest _ ⟨rfl, hcovers'⟩
    refine Post.pure ⟨rfl, ?_⟩
    rw [List.flatten_cons]
    refine (hcovers.append hcovers' fun q hq hq' => ?_).congr fun q => List.mem_cons.symm
    rw [hq] at hq'
    exact hs hq'

theorem mem_healthScopes {s : AlertScope} : s ∈ healthScopes ↔ s ≠ .sampling := by
  cases s <;> decide

/-- The plans of one ingest serve every pair. -/
theorem post_planAutomaticAlerts {db : Database} {now : Int}
    {transitions : AlertScope → HealthEvaluationTransition} {gap : SamplingGapTransition}
    {observationHasMiss : Bool} (hlive : LiveLast db.toTables) (hnow : Bounded maxTimestampUs now)
    (hdue : ∀ r ∈ db.alerts.rows, ¬Eligible now r)
    (hcondition : ∀ s ≠ .sampling, (transitions s).event = .conditionConfirmed →
      ∃ status, (transitions s).state.currentStatus = some status ∧ status ≠ .healthy) :
    Post (planAutomaticAlerts (healthScopes.map fun s => (s, transitions s)) gap now
        observationHasMiss) db
      (fun plans db' => db = db' ∧
        Covers db now (requestOf transitions gap observationHasMiss) (fun _ => True) plans)
      (· = .ingestion ⟨.generationExhausted, false⟩) := by
  have hhealth : ∀ s ≠ .sampling, ∀ kind, requestOf transitions gap observationHasMiss (s, kind) =
      healthRequest (transitions s) kind := fun s hs kind => if_neg hs
  have hgap : ∀ kind, requestOf transitions gap observationHasMiss (.sampling, kind) =
      gapRequest gap observationHasMiss kind := fun kind => if_pos rfl
  unfold planAutomaticAlerts
  refine Post.bind (post_planHealthScopes hlive hnow hdue hcondition hhealth (by decide)
    (by decide)) ?_
  rintro plans _ ⟨rfl, hcovers⟩
  refine Post.bind (post_planGap hlive hnow hdue hgap) ?_
  rintro gapPlans _ ⟨rfl, hcovers'⟩
  refine Post.pure ⟨rfl, (hcovers.append hcovers' fun q hq hq' => ?_).congr fun q => ?_⟩
  · exact mem_healthScopes.mp hq hq'
  · rw [mem_healthScopes]
    exact iff_of_true (ne_or_eq _ _) trivial

end Aurora.HealthHistory
