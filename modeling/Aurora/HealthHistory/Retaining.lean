/-
  Retention keeps the database coherent and legible.

  A cleanup is a sequence of single deletions (`Deleted`).  Each one keeps every constraint and both
  invariants, so a cleanup that returns keeps them, whatever it deleted.  On a legible database a
  cleanup does return: its plan names rows that are there, each of them once, and an alert only after
  all of its events.
-/
import Mathlib.Logic.Relation
import Aurora.HealthHistory.Reading
import Aurora.HealthHistory.Maintenance

namespace Aurora.HealthHistory

open Ingestion Maintenance Script

/-! ## The constraints after a deletion -/

/-- A reference is cleared exactly if it is to the deleted sample. -/
theorem clearReference_mem {deleted i : Int} {reference : Option Int} :
    i ∈ clearReference deleted reference ↔ i ∈ reference ∧ i ≠ deleted := by
  unfold clearReference
  split
  · rename_i h
    subst h
    simp [eq_comm]
  · rename_i h
    constructor
    · intro hi
      exact ⟨hi, fun hd => h (hd ▸ hi)⟩
    · exact And.left

/-- A reference that names no deleted sample is kept. -/
theorem withoutSample_exists {t : Tables} {deleted : Int} {reference : Option Int}
    (h : t.SampleExists reference) :
    (withoutSample t deleted).SampleExists (clearReference deleted reference) := by
  intro i hi
  obtain ⟨hi, hne⟩ := clearReference_mem.mp hi
  obtain ⟨r, hr, rfl⟩ := h i hi
  exact ⟨r, List.mem_filter.mpr ⟨hr, by simpa using hne⟩, rfl⟩

/-- An alert keeps its checks when a reference is cleared. -/
theorem AlertRow.Check.cleared {r : AlertRow} (h : r.Check) (deleted : Int) :
    (clearAlert deleted r).Check :=
  ⟨h.severity, h.openedAt, h.acknowledgedAt, h.recoveredAt, h.archivedAt, h.episodeCount,
    h.occurrenceCount, h.cooldownUntil, h.acknowledgedTime, h.acknowledgedLifecycle,
    h.terminalRecovered, h.archivedTime, h.archivedLifecycle, h.recoveredTerminal, h.scopeKind,
    h.kindSeverity⟩

theorem clearedEvaluation_check {s : AlertScope} {r : EvaluationStateRow} (h : r.Check s)
    (deleted : Int) : (clearEvaluation deleted r).Check s := by
  obtain ⟨hcount, hsample, hrest⟩ := h
  exact ⟨hcount, fun i hi => hsample i (clearReference_mem.mp hi).1, hrest⟩

namespace Tables.Consistent

variable {t : Tables}

/-- Deleting a sample keeps every constraint. -/
theorem withoutSample (h : t.Consistent) (deleted : Int) :
    (Maintenance.withoutSample t deleted).Consistent where
  migrationCheck := h.migrationCheck
  checkpointCheck := h.checkpointCheck
  replayCheck := h.replayCheck
  sampleCheck := fun r hr => h.sampleCheck r (List.mem_filter.mp hr).1
  sampleSequence := h.sampleSequence.filter _
  componentCheck := fun r hr => h.componentCheck r (List.mem_filter.mp hr).1
  componentKey := h.componentKey.filter _
  componentSample := fun r hr => by
    obtain ⟨hr, hne⟩ := List.mem_filter.mp hr
    obtain ⟨s, hs, hid⟩ := h.componentSample r hr
    have hkept : s.id ≠ deleted := by
      rw [hid]
      simpa using hne
    exact ⟨s, List.mem_filter.mpr ⟨hs, by simpa using hkept⟩, hid⟩
  alertCheck := by
    intro a ha
    obtain ⟨r, hr, rfl⟩ := List.mem_map.mp ha
    exact (h.alertCheck r hr).cleared deleted
  -- clearing a reference changes no pair and no lifecycle
  alertActive := by
    show List.Pairwise _ (List.map _ _)
    rw [List.pairwise_map]
    exact h.alertActive
  alertFirstSample := by
    intro a ha
    obtain ⟨r, hr, rfl⟩ := List.mem_map.mp ha
    exact withoutSample_exists (h.alertFirstSample r hr)
  alertLatestSample := by
    intro a ha
    obtain ⟨r, hr, rfl⟩ := List.mem_map.mp ha
    exact withoutSample_exists (h.alertLatestSample r hr)
  evaluationCheck := by
    intro s hs e he
    obtain ⟨r, hr, rfl⟩ := Option.mem_map.mp he
    exact clearedEvaluation_check (h.evaluationCheck s hs r hr) deleted
  evaluationSample := by
    intro s hs e he
    obtain ⟨r, hr, rfl⟩ := Option.mem_map.mp he
    exact withoutSample_exists (h.evaluationSample s hs r hr)
  eventCheck := by
    intro a ha
    obtain ⟨e, he, rfl⟩ := List.mem_map.mp ha
    exact h.eventCheck e he
  eventAlert := by
    intro a ha
    obtain ⟨e, he, rfl⟩ := List.mem_map.mp ha
    obtain ⟨r, hr, hid⟩ := h.eventAlert e he
    exact ⟨clearAlert deleted r, List.mem_map_of_mem hr, hid⟩
  eventSample := by
    intro a ha
    obtain ⟨e, he, rfl⟩ := List.mem_map.mp ha
    exact withoutSample_exists (h.eventSample e he)
  sampleRowid := fun r hr => h.sampleRowid r (List.mem_filter.mp hr).1
  alertRowid := by
    intro a ha
    obtain ⟨r, hr, rfl⟩ := List.mem_map.mp ha
    exact h.alertRowid r hr
  eventRowid := by
    intro a ha
    obtain ⟨e, he, rfl⟩ := List.mem_map.mp ha
    exact h.eventRowid e he

/-- Deleting an event keeps every constraint. -/
theorem withoutEvent (h : t.Consistent) (deleted : Int) :
    (Maintenance.withoutEvent t deleted).Consistent where
  __ := h
  eventCheck := fun e he => h.eventCheck e (List.mem_filter.mp he).1
  eventAlert := fun e he => h.eventAlert e (List.mem_filter.mp he).1
  eventSample := fun e he => h.eventSample e (List.mem_filter.mp he).1
  eventRowid := fun e he => h.eventRowid e (List.mem_filter.mp he).1

/-- Deleting an alert without events keeps every constraint. -/
theorem withoutAlert (h : t.Consistent) (deleted : Int) :
    (Maintenance.withoutAlert t deleted).Consistent where
  __ := h
  alertCheck := fun r hr => h.alertCheck r (List.mem_filter.mp hr).1
  alertActive := h.alertActive.filter _
  alertFirstSample := fun r hr => h.alertFirstSample r (List.mem_filter.mp hr).1
  alertLatestSample := fun r hr => h.alertLatestSample r (List.mem_filter.mp hr).1
  eventCheck := fun e he => h.eventCheck e (List.mem_filter.mp he).1
  eventAlert := by
    intro e he
    obtain ⟨he, hne⟩ := List.mem_filter.mp he
    obtain ⟨r, hr, hid⟩ := h.eventAlert e he
    have hkept : r.id ≠ deleted := by
      rw [hid]
      simpa using hne
    exact ⟨r, List.mem_filter.mpr ⟨hr, by simpa using hkept⟩, hid⟩
  eventSample := fun e he => h.eventSample e (List.mem_filter.mp he).1
  alertRowid := fun r hr => h.alertRowid r (List.mem_filter.mp hr).1
  eventRowid := fun e he => h.eventRowid e (List.mem_filter.mp he).1

end Tables.Consistent

/-! ## One deletion -/

/-- The tables after a deletion. -/
def Maintenance.DeletionAction.tables (t : Tables) : DeletionAction → Tables
  | .health rowId => withoutSample t rowId
  | .event rowId _ => withoutEvent t rowId
  | .alert rowId => withoutAlert t rowId

theorem Maintenance.DeletionAction.consistent {t : Tables} (h : t.Consistent) :
    ∀ action : DeletionAction, (action.tables t).Consistent
  | .health rowId => h.withoutSample rowId
  | .event rowId _ => h.withoutEvent rowId
  | .alert rowId => h.withoutAlert rowId

/-- The database after a deletion. -/
def Database.without (db : Database) (action : DeletionAction) : Database where
  toTables := action.tables db.toTables
  identity := db.identity
  consistent := action.consistent db.consistent

/-- The row a deletion names is there, and past the cutoff. -/
def Maintenance.DeletionAction.Found (cutoff : Int) (db : Database) : DeletionAction → Prop
  | .health rowId => ∃ r ∈ db.samples.rows, r.id = rowId ∧ r.observedAtUtcUs < cutoff
  | .event rowId alertId => ∃ e ∈ db.events.rows, e.id = rowId ∧ e.alertId = alertId
  | .alert rowId => (∃ r ∈ db.alerts.rows, r.id = rowId ∧ Expired cutoff r) ∧
      ∀ e ∈ db.events.rows, e.alertId ≠ rowId

/-- An alert is deleted once no event is left of it. -/
theorem hasEvents_eq_false {alertId : Int} {db : Database} :
    hasEvents alertId db = false ↔ ∀ e ∈ db.events.rows, e.alertId ≠ alertId := by
  unfold hasEvents
  rw [List.any_eq_false]
  simp

/-- A deletion that finds its row deletes it. -/
theorem deleteOne_consistent {db : Database} {found : Prop} [Decidable found] {tables : Tables}
    (h : tables.Consistent) : deleteOne db found tables = if found then
      .ok (1, { toTables := tables, identity := db.identity, consistent := h }) else .ok (0, db) := by
  unfold deleteOne
  rw [Database.write_of_consistent h]
  rfl

/-- A deletion that is found deletes one row; any other ends in malformed state. -/
theorem run_executeAction (cutoff : Int) (action : DeletionAction) (db : Database) :
    action.Found cutoff db ∧
      (executeAction cutoff action).run db = .ok ((), db.without action) ∨
    ¬action.Found cutoff db ∧ (executeAction cutoff action).run db = .error malformed := by
  unfold executeAction checkDeadline execute attempt Maintenance.trust
  cases action with
  | health rowId =>
    simp only [Script.run_bind, Script.run_pollOnce, Script.run_perform, Script.run_ofExcept,
      deleteHealthSample, deleteOne_consistent (db.consistent.withoutSample rowId)]
    by_cases h : ∃ r ∈ db.samples.rows, r.id = rowId ∧ r.observedAtUtcUs < cutoff
    · rw [if_pos h]
      exact .inl ⟨h, rfl⟩
    · rw [if_neg h]
      exact .inr ⟨h, rfl⟩
  | event rowId alertId =>
    simp only [Script.run_bind, Script.run_pollOnce, Script.run_perform, Script.run_ofExcept,
      deleteAlertEvent, deleteOne_consistent (db.consistent.withoutEvent rowId)]
    by_cases h : ∃ e ∈ db.events.rows, e.id = rowId ∧ e.alertId = alertId
    · rw [if_pos h]
      exact .inl ⟨h, rfl⟩
    · rw [if_neg h]
      exact .inr ⟨h, rfl⟩
  | alert rowId =>
    simp only [Script.run_bind, Script.run_pollOnce, Script.run_perform, Script.run_ofExcept,
      select, Script.run_read, deleteArchivedAlert]
    by_cases hevents : hasEvents rowId db = false
    · rw [require_pos hevents]
      simp only [map_ok]
      rw [deleteOne_consistent (db.consistent.withoutAlert rowId)]
      by_cases h : ∃ r ∈ db.alerts.rows, r.id = rowId ∧ Expired cutoff r
      · rw [if_pos h]
        exact .inl ⟨⟨h, hasEvents_eq_false.mp hevents⟩, rfl⟩
      · rw [if_neg h]
        exact .inr ⟨fun hfound => h hfound.1, rfl⟩
    · rw [require_neg hevents]
      exact .inr ⟨fun hfound => hevents (hasEvents_eq_false.mpr hfound.2), rfl⟩

/-! ## The invariants after a deletion -/

section Invariants

variable {t : Tables}

/-- The record of the alerts stays one when a sample goes. -/
theorem history_withoutSample (h : History t) (deleted : Int) :
    History (withoutSample t deleted) where
  positive := fun r hr => h.positive r (List.mem_filter.mp hr).1
  increasing := h.increasing.filter _
  holds := by
    intro r hr
    obtain ⟨hr, hne⟩ := List.mem_filter.mp hr
    have hid : r.id ≠ deleted := by simpa using hne
    obtain ⟨p, hp⟩ := h.holds r hr
    refine ⟨p, hp.valid, hp.row, ?_⟩
    have hsame : (withoutSample t deleted).components.filter (fun row => row.sampleId = r.id) =
        t.components.filter fun row => row.sampleId = r.id := by
      show (t.components.filter fun row => row.sampleId ≠ deleted).filter _ = _
      rw [List.filter_filter]
      refine List.filter_congr fun row _ => ?_
      by_cases hrow : row.sampleId = r.id
      · simp [hrow, hid]
      · simp [hrow]
    rw [hsame]
    exact hp.components

theorem history_without (h : History t) : ∀ action : DeletionAction, History (action.tables t)
  | .health rowId => history_withoutSample h rowId
  | .event _ _ => ⟨h.positive, h.increasing, fun r hr =>
      (h.holds r hr).imp fun _ hp => ⟨hp.valid, hp.row, hp.components⟩⟩
  | .alert _ => ⟨h.positive, h.increasing, fun r hr =>
      (h.holds r hr).imp fun _ hp => ⟨hp.valid, hp.row, hp.components⟩⟩

/-- The live alert of a pair is still the last one. -/
theorem liveLast_without (h : LiveLast t) : ∀ action : DeletionAction, LiveLast (action.tables t)
  | .health rowId => {
      positive := by
        intro a ha
        obtain ⟨r, hr, rfl⟩ := List.mem_map.mp ha
        exact h.positive r hr
      earlier := by
        show List.Pairwise _ (List.map _ _)
        rw [List.pairwise_map]
        exact h.earlier
      events := by
        intro a ha
        obtain ⟨e, he, rfl⟩ := List.mem_map.mp ha
        exact h.events e he }
  | .event _ _ => ⟨h.positive, h.earlier, fun e he => h.events e (List.mem_filter.mp he).1⟩
  | .alert _ => ⟨fun r hr => h.positive r (List.mem_filter.mp hr).1, h.earlier.filter _,
      fun e he => h.events e (List.mem_filter.mp he).1⟩

/-- The evaluator rows and their baseline after a deletion. -/
theorem evaluators_without {rows : EvaluationRows} {baseline : Option Int}
    (h : Evaluators t rows baseline) : ∀ action : DeletionAction,
    ∃ rows' baseline', Evaluators (action.tables t) rows' baseline' ∧
      (baseline' = baseline ∨ baseline' = none) ∧
      ∀ s, { rows' s with lastSampleId := none } = { rows s with lastSampleId := none }
  | .health rowId => by
    refine ⟨fun s => clearEvaluation rowId (rows s), clearReference rowId baseline, ⟨?_, ?_, ?_⟩,
      ?_, fun _ => rfl⟩
    · intro s
      show (t.evaluation s).map _ = _
      rw [h.stored]
      rfl
    · intro s
      show clearReference rowId (rows s).lastSampleId = _
      rw [h.agree]
    · intro hbaseline s
      refine h.heartbeat (fun hnone => hbaseline ?_) s
      rw [hnone]
      rfl
    · unfold clearReference
      split
      · exact .inr rfl
      · exact .inl rfl
  | .event _ _ => ⟨rows, baseline, ⟨h.stored, h.agree, h.heartbeat⟩, .inl rfl, fun _ => rfl⟩
  | .alert _ => ⟨rows, baseline, ⟨h.stored, h.agree, h.heartbeat⟩, .inl rfl, fun _ => rfl⟩

/-- A deletion keeps the database coherent, at the same checkpoint. -/
theorem CoherentAt.without {c : Checkpoint} {rows : EvaluationRows} {baseline : Option Int}
    (h : CoherentAt t c rows baseline) (action : DeletionAction) :
    ∃ rows' baseline', CoherentAt (action.tables t) c rows' baseline' ∧
      (baseline' = baseline ∨ baseline' = none) ∧
      ∀ s, { rows' s with lastSampleId := none } = { rows s with lastSampleId := none } := by
  obtain ⟨rows', baseline', he, hbaseline, hrows⟩ := evaluators_without h.evaluators action
  refine ⟨rows', baseline', ⟨?_, he, history_without h.history action, ?_,
    liveLast_without h.live action⟩, hbaseline, hrows⟩
  · cases action <;> exact ⟨h.anchored.checkpoint, h.anchored.length, h.anchored.latest⟩
  · cases action with
    | health => exact fun r hr => h.covered r (List.mem_filter.mp hr).1
    | event => exact h.covered
    | alert => exact h.covered

/-- Clearing a reference keeps the samples of an alert in order. -/
theorem samplesOrdered_clear {r : AlertRow} (h : r.SamplesOrdered) (deleted : Int) :
    (clearAlert deleted r).SamplesOrdered := by
  intro first hfirst latest hlatest
  exact h first (clearReference_mem.mp hfirst).1 latest (clearReference_mem.mp hlatest).1

/-- A deletion keeps the database legible. -/
theorem Legible.without (h : Legible t) (action : DeletionAction) : Legible (action.tables t) where
  history := history_without h.history action
  live := liveLast_without h.live action
  times := by
    cases action with
    | health rowId =>
      intro a ha
      obtain ⟨r, hr, rfl⟩ := List.mem_map.mp ha
      exact ⟨(h.times r hr).cooldown, (h.times r hr).acknowledged, (h.times r hr).recovered,
        (h.times r hr).recoveredCooldown, (h.times r hr).archived⟩
    | event => exact h.times
    | alert => exact fun r hr => h.times r (List.mem_filter.mp hr).1
  samples := by
    cases action with
    | health rowId =>
      intro a ha
      obtain ⟨r, hr, rfl⟩ := List.mem_map.mp ha
      exact samplesOrdered_clear (h.samples r hr) rowId
    | event => exact h.samples
    | alert => exact fun r hr => h.samples r (List.mem_filter.mp hr).1

end Invariants

/-! ## A cleanup is a sequence of deletions -/

theorem checkSampleReference_readOnly (o : Option Int) :
    ReadOnly (Queries.checkEventReference o) := by
  cases o with
  | none => exact .pure ()
  | some i => exact (ReadOnly.read _).bind fun _ => .ofExcept _

theorem healthSampleRecord_readOnly (r : HealthSampleRow) :
    ReadOnly (Queries.healthSampleRecord r) :=
  (ReadOnly.ofExcept _).bind fun _ => (ReadOnly.ofExcept _).bind fun _ =>
    (ReadOnly.read _).bind fun _ => .ofExcept _

theorem alertRecord_readOnly (r : AlertRow) : ReadOnly (Queries.alertRecord r) :=
  (ReadOnly.ofExcept _).bind fun _ => (ReadOnly.read _).bind fun _ =>
    (ReadOnly.ofExcept _).bind fun _ => .pure r

theorem readEvent_readOnly (alertId : Int) (e : AlertEventRow) : ReadOnly (readEvent alertId e) :=
  (ReadOnly.pollOnce _).bind fun _ => ((ReadOnly.ofExcept _).bind fun _ =>
    (ReadOnly.ofExcept _).bind fun _ => (checkSampleReference_readOnly _).bind fun _ =>
      .pure e).bind fun _ => (ReadOnly.pollOnce _).bind fun _ => .pure _

/-- By induction on the candidates: planning writes nothing. -/
theorem planActions_readOnly : ∀ (candidates : List RetentionCandidate)
    (actions : List DeletionAction), ReadOnly (planActions candidates actions)
  | [], actions => .pure actions
  | candidate :: rest, actions => by
    unfold planActions
    refine (ReadOnly.pollOnce _).bind fun _ => ?_
    dsimp only
    split
    · exact .pure actions
    · split
      · exact planActions_readOnly rest _
      · exact (ReadOnly.pollOnce _).bind fun _ => (ReadOnly.read _).bind fun rows =>
          (ReadOnly.pollOnce _).bind fun _ => (ReadOnly.mapM (readEvent_readOnly _) rows).bind
            fun _ => (ReadOnly.forM (fun _ => .pollOnce _) _).bind fun _ =>
              planActions_readOnly rest _

theorem retentionPlan_readOnly (cutoff : Int) : ReadOnly (retentionPlan cutoff) := by
  have hhealth : ∀ r, ReadOnly (healthCandidate cutoff r) := fun r =>
    (ReadOnly.pollOnce _).bind fun _ => (healthSampleRecord_readOnly r).bind fun _ =>
      (ReadOnly.pollOnce _).bind fun _ => (ReadOnly.ofExcept _).bind fun _ => .pure _
  have halert : ∀ r, ReadOnly (alertCandidate cutoff r) := fun r =>
    (ReadOnly.pollOnce _).bind fun _ => (alertRecord_readOnly r).bind fun _ =>
      (ReadOnly.pollOnce _).bind fun _ => (ReadOnly.ofExcept _).bind fun _ => .pure _
  exact (ReadOnly.read _).bind fun _ => (ReadOnly.pollOnce _).bind fun _ =>
    (ReadOnly.read _).bind fun _ => (ReadOnly.pollOnce _).bind fun _ =>
      (ReadOnly.mapM hhealth _).bind fun _ => (ReadOnly.mapM halert _).bind fun _ =>
        (ReadOnly.pollOnce _).bind fun _ => (ReadOnly.pollOnce _).bind fun _ =>
          (planActions_readOnly _ _).bind fun _ => (ReadOnly.ofExcept _).bind fun _ => .pure _

/-- The database after a list of deletions. -/
def Database.withoutAll (db : Database) (actions : List DeletionAction) : Database :=
  actions.foldl Database.without db

/-- A cleanup that returns has run the deletions of its plan. -/
theorem retain_runs {cutoff : Int} {db db' : Database} {counts : Nat × Nat × Nat}
    (h : (retain cutoff).run db = .ok (counts, db')) :
    ∃ plan, (retentionPlan cutoff).run db = .ok (plan, db) ∧ counts = countActions plan ∧
      (plan.forM (executeAction cutoff)).run db = .ok ((), db') := by
  unfold retain at h
  obtain ⟨plan, m, hplan, hrest⟩ := run_bind_eq_ok.mp h
  have hm : m = db := retentionPlan_readOnly cutoff _ _ _ hplan
  subst hm
  obtain ⟨executed, n, hexecuted, hpoll⟩ := run_bind_eq_ok.mp hrest
  obtain ⟨rfl, rfl⟩ : counts = executed ∧ db' = n := by
    obtain ⟨h₁, h₂⟩ := Prod.mk.inj (Except.ok.inj hpoll)
    exact ⟨h₁.symm, h₂.symm⟩
  unfold executeRetentionPlan at hexecuted
  obtain ⟨u, n', hdeleted, hreturn⟩ := run_bind_eq_ok.mp hexecuted
  obtain ⟨h₁, h₂⟩ := Prod.mk.inj (Except.ok.inj hreturn)
  exact ⟨plan, hplan, h₁.symm, h₂ ▸ hdeleted⟩

/-- Deletions that run one after another each find their row. -/
theorem forM_executeAction {cutoff : Int} {action : DeletionAction} {plan : List DeletionAction}
    {db db' : Database} (h : ((action :: plan).forM (executeAction cutoff)).run db = .ok ((), db')) :
    action.Found cutoff db ∧
      (plan.forM (executeAction cutoff)).run (db.without action) = .ok ((), db') := by
  obtain ⟨u, m, hm, hrest⟩ := run_bind_eq_ok.mp h
  rcases run_executeAction cutoff action db with ⟨hfound, hrun⟩ | ⟨-, hrun⟩
  · rw [hrun] at hm
    obtain ⟨-, rfl⟩ := Prod.mk.inj (Except.ok.inj hm)
    exact ⟨hfound, hrest⟩
  · rw [hrun] at hm
    cases hm

/-- A cleanup that returns deleted what its plan lists. -/
theorem retain_eq_ok {cutoff : Int} {db db' : Database} {counts : Nat × Nat × Nat}
    (h : (retain cutoff).run db = .ok (counts, db')) :
    ∃ plan, (retentionPlan cutoff).run db = .ok (plan, db) ∧ counts = countActions plan ∧
      db' = db.withoutAll plan := by
  obtain ⟨plan, hplan, hcounts, hrun⟩ := retain_runs h
  refine ⟨plan, hplan, hcounts, ?_⟩
  clear hplan hcounts h
  induction plan generalizing db with
  | nil => exact (Prod.mk.inj (Except.ok.inj hrun)).2.symm
  | cons action plan ih => exact ih (forM_executeAction hrun).2

/-- After a cleanup the database is as before, or as its transaction left it. -/
theorem durable_cleanupRetention_run (F : Faults SqliteError) (expired : Bool) (db : Database)
    (now days : Int) :
    (cleanupRetention F expired db now days).2.durable = db ∨
      ∃ cutoff counts, (retain cutoff).run db =
        .ok (counts, (cleanupRetention F expired db now days).2.durable) := by
  have hrollback : ∀ (e : Raised) (c : Connection Database),
      (rollbackFailure F expired e c).2.durable = c.durable := by
    intro e c
    unfold rollbackFailure Connection.rollback
    cases F.rollback c.rollbacks <;> rfl
  have hfinish : ∀ (counts : Nat × Nat × Nat) (c : Connection Database),
      (finishCleanup F counts c).2.durable = c.durable := by
    intro counts c
    unfold finishCleanup
    split
    · rfl
    · split <;> rfl
  unfold cleanupRetention
  split
  · exact .inl rfl
  · rename_i cutoff _
    cases hbegin : F.begin with
    | some fault =>
      simp [Connection.begin, hbegin]
    | none =>
      simp only [Connection.begin, hbegin, Connection.execute]
      rcases hexec : exec Raised.sqlite F (retain cutoff) {} db with ⟨result, cursor, m⟩
      cases result with
      | error e => exact .inl (hrollback _ _)
      | ok counts =>
        have hrun := exec_ok hexec
        dsimp only [Connection.commit]
        cases hcommit : F.commit with
        | none => exact .inr ⟨cutoff, counts, by rw [hfinish]; exact hrun⟩
        | some fault =>
          obtain ⟨applied, e⟩ := fault
          cases applied with
          | true => exact .inr ⟨cutoff, counts, by rw [hrollback]; exact hrun⟩
          | false => exact .inl (hrollback _ _)

/-- After a cleanup the database is as before, or the plan's rows are gone. -/
theorem durable_cleanupRetention (F : Faults SqliteError) (expired : Bool) (db : Database)
    (now days : Int) :
    (cleanupRetention F expired db now days).2.durable = db ∨
      ∃ plan, (cleanupRetention F expired db now days).2.durable = db.withoutAll plan := by
  refine (durable_cleanupRetention_run F expired db now days).imp id ?_
  rintro ⟨cutoff, counts, hrun⟩
  obtain ⟨plan, -, -, hdurable⟩ := retain_eq_ok hrun
  exact ⟨plan, hdurable⟩

/-- Deletions keep the database coherent, and the evaluator rows but for their sample. -/
theorem CoherentAt.withoutAll_rows {c : Checkpoint} : ∀ (actions : List DeletionAction)
    {db : Database} {rows : EvaluationRows} {baseline : Option Int},
    CoherentAt db.toTables c rows baseline → ∃ rows' baseline',
      CoherentAt (db.withoutAll actions).toTables c rows' baseline' ∧
        ∀ s, { rows' s with lastSampleId := none } = { rows s with lastSampleId := none }
  | [], _, rows, baseline, h => ⟨rows, baseline, h, fun _ => rfl⟩
  | action :: actions, db, _, _, h => by
    obtain ⟨rows', baseline', h', -, hrows⟩ := h.without action
    obtain ⟨rows'', baseline'', h'', hrows'⟩ :=
      @withoutAll_rows c actions (db.without action) rows' baseline' h'
    exact ⟨rows'', baseline'', h'', fun s => (hrows' s).trans (hrows s)⟩

/-- By induction on the actions: the evaluators stay coherent with the tables. -/
theorem CoherentAt.withoutAll {c : Checkpoint} (actions : List DeletionAction) {db : Database}
    {rows : EvaluationRows} {baseline : Option Int} (h : CoherentAt db.toTables c rows baseline) :
    ∃ rows' baseline', CoherentAt (db.withoutAll actions).toTables c rows' baseline' := by
  obtain ⟨rows', baseline', h', -⟩ := h.withoutAll_rows actions
  exact ⟨rows', baseline', h'⟩

/-- What the readers accept they still accept. -/
theorem Legible.withoutAll : ∀ (actions : List DeletionAction) {db : Database},
    Legible db.toTables → Legible (db.withoutAll actions).toTables
  | [], _, h => h
  | action :: actions, _, h => (h.without action).withoutAll actions

end Aurora.HealthHistory
