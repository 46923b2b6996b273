/-
  Repeated cleanups delete what is past the cutoff, and nothing else.

  A deletion keeps the database readable, and makes no difference to what is `retained` in the end.
  So the batches of repeated cleanups are consecutive pieces of one list of due deletions, and when it
  is used up the tables are the retained ones.
-/
import Aurora.HealthHistory.Runs
import Aurora.HealthHistory.Expiring

namespace Aurora.HealthHistory

open Ingestion Maintenance Queries Script

/-! ## Readers after a deletion -/

/-- A reference that passed its check passes it cleared. -/
theorem unlessNone_cleared {check : Int → Except String Unit} {o : Option Int}
    (h : unlessNone check o = .ok ()) (deleted : Int) :
    unlessNone check (clearReference deleted o) = .ok () := by
  unfold clearReference
  split
  · rfl
  · exact h

theorem validateAlertRecord_cleared {r : AlertRow} (h : validateAlertRecord r = .ok ())
    (deleted : Int) : validateAlertRecord (clearAlert deleted r) = .ok () := by
  obtain ⟨hpositive, hordered⟩ := validateAlertRecord_samples h
  have hreferences : [clearReference deleted r.firstSampleId,
      clearReference deleted r.latestSampleId].forM (unlessNone positiveId) = .ok () := by
    rw [forM_eq_ok] at hpositive ⊢
    intro o ho
    simp only [List.mem_cons, List.not_mem_nil, or_false] at ho
    rcases ho with rfl | rfl
    · exact unlessNone_cleared (hpositive _ (by simp)) deleted
    · exact unlessNone_cleared (hpositive _ (by simp)) deleted
  unfold validateAlertRecord at h ⊢
  simp only [bind_eq_ok, require_eq_ok] at h ⊢
  obtain ⟨u₁, h₁, u₂, h₂, u₃, h₃, u₄, h₄, -, -, u₅, h₅, u₆, h₆, u₇, h₇, u₈, h₈, s, hs,
    u₉, h₉, u₁₀, h₁₀, -⟩ := h
  have htimes : (clearAlert deleted r).TimesOrdered :=
    ⟨h₁₀.cooldown, h₁₀.acknowledged, h₁₀.recovered, h₁₀.recoveredCooldown, h₁₀.archived⟩
  exact ⟨u₁, h₁, u₂, h₂, u₃, h₃, u₄, h₄, (), hreferences, u₅, h₅, u₆, h₆, u₇, h₇, u₈, h₈, s, hs,
    u₉, h₉, u₁₀, htimes, samplesOrdered_clear hordered deleted⟩

theorem validateAlertEventRecord_cleared {e : AlertEventRow}
    (h : validateAlertEventRecord e = .ok ()) (deleted : Int) :
    validateAlertEventRecord (clearEvent deleted e) = .ok () := by
  unfold validateAlertEventRecord at h ⊢
  simp only [bind_eq_ok, require_eq_ok] at h ⊢
  obtain ⟨u₁, h₁, u₂, h₂, u₃, h₃, u₄, h₄, hallowed⟩ := h
  exact ⟨u₁, h₁, u₂, h₂, u₃, h₃, u₄, unlessNone_cleared h₄ deleted, hallowed⟩

/-- Reading a sample uses its row and its components only. -/
theorem run_healthSampleRecord_congr {db db' : Database} {r : HealthSampleRow}
    (h : selectComponents r.id db' = selectComponents r.id db)
    (hread : ∃ record, (healthSampleRecord r).run db = .ok (record, db)) :
    ∃ record, (healthSampleRecord r).run db' = .ok (record, db') := by
  obtain ⟨record, hread⟩ := hread
  unfold healthSampleRecord attempt select at hread ⊢
  rw [run_bind, run_ofExcept] at hread ⊢
  cases hid : trusted (positiveId r.id) with
  | error e =>
    rw [hid] at hread
    exact nomatch hread
  | ok u =>
    rw [hid] at hread
    dsimp only [map_ok] at hread ⊢
    rw [run_bind, run_ofExcept] at hread ⊢
    cases hdigest : trusted (require "invalid_digest"
        (r.projectionDigest.length = projectionDigestBytes)) with
    | error e =>
      rw [hdigest] at hread
      exact nomatch hread
    | ok v =>
      rw [hdigest] at hread
      dsimp only [map_ok] at hread ⊢
      rw [run_bind, run_read] at hread ⊢
      dsimp only at hread ⊢
      rw [run_ofExcept] at hread ⊢
      rw [h]
      cases hnew : trusted (newSampleRecord r (selectComponents r.id db)) with
      | error e =>
        rw [hnew] at hread
        exact nomatch hread
      | ok new => exact ⟨new, rfl⟩

/-- A deletion keeps the database readable. -/
theorem Readable.without {db : Database} (h : Readable db) (action : DeletionAction) :
    Readable (db.without action) where
  samples := by
    intro r hr
    cases action with
    | health rowId =>
      obtain ⟨hr, hne⟩ := List.mem_filter.mp hr
      have hid : r.id ≠ rowId := by simpa using hne
      refine run_healthSampleRecord_congr ?_ (h.samples r hr)
      -- the components of another sample stay
      show ((db.components.filter _).filter _).take 5 = (db.components.filter _).take 5
      rw [List.filter_filter]
      congr 1
      refine List.filter_congr fun row _ => ?_
      by_cases hrow : row.sampleId = r.id <;> simp [hrow, hid]
    | event =>
      refine run_healthSampleRecord_congr ?_ (h.samples r hr)
      rfl
    | alert =>
      refine run_healthSampleRecord_congr ?_ (h.samples r hr)
      rfl
  alerts := by
    intro a ha
    rw [run_alertRecord ha]
    cases action with
    | health rowId =>
      obtain ⟨r, hr, rfl⟩ := List.mem_map.mp ha
      exact validateAlertRecord_cleared ((run_alertRecord hr).mp (h.alerts r hr)) rowId
    | event =>
      have ha : a ∈ db.alerts.rows := ha
      exact (run_alertRecord ha).mp (h.alerts a ha)
    | alert =>
      have ha := List.mem_of_mem_filter ha
      exact (run_alertRecord ha).mp (h.alerts a ha)
  events := by
    intro e he
    rw [run_alertEventRecord he]
    cases action with
    | health rowId =>
      obtain ⟨a, ha, rfl⟩ := List.mem_map.mp he
      exact validateAlertEventRecord_cleared ((run_alertEventRecord ha).mp (h.events a ha)) rowId
    | event =>
      have he := List.mem_of_mem_filter he
      exact (run_alertEventRecord he).mp (h.events e he)
    | alert =>
      have he := List.mem_of_mem_filter he
      exact (run_alertEventRecord he).mp (h.events e he)

/-! ## What is kept -/

/-- The sample is old enough to go. -/
def SampleDue (cutoff : Int) (t : Tables) (id : Int) : Prop :=
  ∃ r ∈ t.samples.rows, r.id = id ∧ r.observedAtUtcUs < cutoff

/-- The alert is old enough to go. -/
def AlertDue (cutoff : Int) (t : Tables) (id : Int) : Prop :=
  ∃ r ∈ t.alerts.rows, r.id = id ∧ Expired cutoff r

instance (cutoff : Int) (t : Tables) (id : Int) : Decidable (SampleDue cutoff t id) :=
  inferInstanceAs (Decidable (∃ r ∈ t.samples.rows, _))

instance (cutoff : Int) (t : Tables) (id : Int) : Decidable (AlertDue cutoff t id) :=
  inferInstanceAs (Decidable (∃ r ∈ t.alerts.rows, _))

/-- References to samples that are due become `NULL`. -/
def keptReference (cutoff : Int) (t : Tables) (reference : Option Int) : Option Int :=
  reference.filter fun i => ¬SampleDue cutoff t i

/-- What is left of an alert once every sample that is due has gone, -/
def keptAlert (cutoff : Int) (t : Tables) (r : AlertRow) : AlertRow :=
  { r with
    firstSampleId := keptReference cutoff t r.firstSampleId
    latestSampleId := keptReference cutoff t r.latestSampleId }

/-- of an evaluator row, -/
def keptEvaluation (cutoff : Int) (t : Tables) (r : EvaluationStateRow) : EvaluationStateRow :=
  { r with lastSampleId := keptReference cutoff t r.lastSampleId }

/-- and of an event. -/
def keptEvent (cutoff : Int) (t : Tables) (e : AlertEventRow) : AlertEventRow :=
  { e with supportingSampleId := keptReference cutoff t e.supportingSampleId }

/-- The tables without everything that is past the cutoff, deleted at once. -/
def retained (cutoff : Int) (t : Tables) : Tables :=
  { t with
    samples := t.samples.delete fun r => r.observedAtUtcUs < cutoff
    components := t.components.filter fun c => ¬SampleDue cutoff t c.sampleId
    alerts := (t.alerts.delete fun r => Expired cutoff r).update (fun _ => true)
      (keptAlert cutoff t) fun _ => rfl
    evaluation := fun s => (t.evaluation s).map (keptEvaluation cutoff t)
    events := (t.events.delete fun e => AlertDue cutoff t e.alertId).update (fun _ => true)
      (keptEvent cutoff t) fun _ => rfl }

section Retained

variable {cutoff : Int} {t : Tables}

/-- A reference is kept unless its sample is due. -/
theorem mem_keptReference {reference : Option Int} {i : Int} :
    i ∈ keptReference cutoff t reference ↔ i ∈ reference ∧ ¬SampleDue cutoff t i := by
  unfold keptReference
  rw [Option.mem_filter_iff, decide_eq_true_eq]

/-- Deleting a due sample first makes no difference. -/
theorem retained_withoutSample {deleted : Int} (h : SampleDue cutoff t deleted) :
    retained cutoff (withoutSample t deleted) = retained cutoff t := by
  have hdue : ∀ i, SampleDue cutoff (withoutSample t deleted) i ↔
      SampleDue cutoff t i ∧ i ≠ deleted := by
    intro i
    constructor
    · rintro ⟨r, hr, rfl, hlt⟩
      obtain ⟨hr, hne⟩ := List.mem_filter.mp hr
      exact ⟨⟨r, hr, rfl, hlt⟩, by simpa using hne⟩
    · rintro ⟨⟨r, hr, rfl, hlt⟩, hne⟩
      exact ⟨r, List.mem_filter.mpr ⟨hr, by simpa using hne⟩, rfl, hlt⟩
  have hreference : ∀ reference, keptReference cutoff (withoutSample t deleted)
      (clearReference deleted reference) = keptReference cutoff t reference := by
    intro reference
    refine Option.ext fun i => ?_
    show i ∈ keptReference _ _ _ ↔ i ∈ keptReference _ _ _
    rw [mem_keptReference, mem_keptReference, clearReference_mem, hdue]
    constructor
    · rintro ⟨⟨hi, hne⟩, hkept⟩
      exact ⟨hi, fun hd => hkept ⟨hd, hne⟩⟩
    · rintro ⟨hi, hkept⟩
      exact ⟨⟨hi, fun hd => hkept (hd ▸ h)⟩, fun hd => hkept hd.1⟩
  have halert : ∀ r, keptAlert cutoff (withoutSample t deleted) (clearAlert deleted r) =
      keptAlert cutoff t r := by
    intro r
    unfold keptAlert clearAlert
    simp only [hreference]
  have hevent : ∀ e, keptEvent cutoff (withoutSample t deleted) (clearEvent deleted e) =
      keptEvent cutoff t e := by
    intro e
    unfold keptEvent clearEvent
    simp only [hreference]
  have hevaluation : ∀ r, keptEvaluation cutoff (withoutSample t deleted)
      (clearEvaluation deleted r) = keptEvaluation cutoff t r := by
    intro r
    unfold keptEvaluation clearEvaluation
    simp only [hreference]
  -- table by table; the deleted sample was due, so nothing that is kept refers to it
  unfold retained
  rw [Tables.mk.injEq]
  refine ⟨rfl, rfl, rfl, Table.ext ?_, ?_, Table.ext ?_, ?_, Table.ext ?_⟩
  · show (t.samples.rows.filter _).filter _ = t.samples.rows.filter _
    rw [List.filter_filter]
    refine List.filter_congr fun r hr => ?_
    by_cases hid : r.id = deleted
    · obtain ⟨d, hd, hdid, hlt⟩ := h
      obtain rfl : r = d := t.samples.mem_unique hr hd (hid.trans hdid.symm)
      simp [hlt]
    · simp [hid]
  · show (t.components.filter _).filter _ = t.components.filter _
    rw [List.filter_filter]
    refine List.filter_congr fun c _ => ?_
    by_cases hid : c.sampleId = deleted
    · simp [hid, h]
    · simp [hid, hdue]
  · show ((t.alerts.rows.map _).filter _).map _ = (t.alerts.rows.filter _).map _
    rw [List.filter_map, List.map_map]
    exact List.map_congr_left fun r _ => halert r
  · funext s
    show ((t.evaluation s).map _).map _ = (t.evaluation s).map _
    rw [Option.map_map]
    congr 1
    funext r
    exact hevaluation r
  · show ((t.events.rows.map _).filter _).map _ = (t.events.rows.filter _).map _
    rw [List.filter_map, List.map_map]
    refine (List.map_congr_left fun e _ => hevent e).trans ?_
    congr 1
    refine List.filter_congr fun e _ => ?_
    refine congrArg not (decide_eq_decide.mpr ?_)
    constructor
    · rintro ⟨a, ha, hid, hexpired⟩
      obtain ⟨r, hr, rfl⟩ := List.mem_map.mp ha
      exact ⟨r, hr, hid, hexpired⟩
    · rintro ⟨r, hr, hid, hexpired⟩
      exact ⟨_, List.mem_map_of_mem hr, hid, hexpired⟩

/-- Deleting an event of a due alert first makes no difference. -/
theorem retained_withoutEvent {e : AlertEventRow} (he : e ∈ t.events.rows)
    (h : AlertDue cutoff t e.alertId) : retained cutoff (withoutEvent t e.id) = retained cutoff t := by
  unfold retained
  rw [Tables.mk.injEq]
  refine ⟨rfl, rfl, rfl, rfl, rfl, rfl, rfl, Table.ext ?_⟩
  show ((t.events.rows.filter _).filter _).map _ = (t.events.rows.filter _).map _
  rw [List.filter_filter]
  congr 1
  refine List.filter_congr fun a ha => ?_
  by_cases hid : a.id = e.id
  · obtain rfl : a = e := t.events.mem_unique ha he hid
    have hdue : AlertDue cutoff (withoutEvent t a.id) a.alertId := h
    simp [h, hdue]
  · simp only [hid, decide_false, Bool.not_false, Bool.and_true]
    rfl

/-- Deleting a due alert first makes no difference. -/
theorem retained_withoutAlert {deleted : Int} (h : AlertDue cutoff t deleted) :
    retained cutoff (withoutAlert t deleted) = retained cutoff t := by
  have hdue : ∀ i, AlertDue cutoff (withoutAlert t deleted) i ↔
      AlertDue cutoff t i ∧ i ≠ deleted := by
    intro i
    constructor
    · rintro ⟨r, hr, rfl, hexpired⟩
      obtain ⟨hr, hne⟩ := List.mem_filter.mp hr
      exact ⟨⟨r, hr, rfl, hexpired⟩, by simpa using hne⟩
    · rintro ⟨⟨r, hr, rfl, hexpired⟩, hne⟩
      exact ⟨r, List.mem_filter.mpr ⟨hr, by simpa using hne⟩, rfl, hexpired⟩
  unfold retained
  rw [Tables.mk.injEq]
  refine ⟨rfl, rfl, rfl, rfl, rfl, Table.ext ?_, rfl, Table.ext ?_⟩
  · show ((t.alerts.rows.filter _).filter _).map _ = (t.alerts.rows.filter _).map _
    rw [List.filter_filter]
    congr 1
    refine List.filter_congr fun r hr => ?_
    by_cases hid : r.id = deleted
    · obtain ⟨d, hd, hdid, hexpired⟩ := h
      obtain rfl : r = d := t.alerts.mem_unique hr hd (hid.trans hdid.symm)
      simp [hexpired]
    · simp [hid]
  · show ((t.events.rows.filter _).filter _).map _ = (t.events.rows.filter _).map _
    rw [List.filter_filter]
    congr 1
    refine List.filter_congr fun e _ => ?_
    by_cases hid : e.alertId = deleted
    · simp [hid, h]
    · simp [hid, hdue]

/-- Carrying out a due deletion first makes no difference to what is kept. -/
theorem retained_tables {db : Database} {action : DeletionAction} {rest : List DeletionAction}
    (h : dueActions cutoff db.toTables = action :: rest) :
    retained cutoff (action.tables db.toTables) = retained cutoff db.toTables := by
  have hfound := found_of_dueActions h
  cases action with
  | health rowId => exact retained_withoutSample hfound
  | event rowId alertId =>
    obtain ⟨e, he, rfl, rfl⟩ := hfound
    refine retained_withoutEvent he ?_
    have hmem : DeletionAction.event e.id e.alertId ∈ dueActions cutoff db.toTables := by
      rw [h]
      exact List.mem_cons_self
    obtain ⟨c, hc, haction⟩ := List.mem_flatMap.mp hmem
    have howner := owner_of_mem haction
    obtain ⟨hkind, hid⟩ := Prod.mk.inj howner
    rcases mem_candidates.mp hc with ⟨r, -, -, rfl⟩ | ⟨r, hr, hexpired, rfl⟩
    · exact nomatch hkind
    · exact ⟨r, hr, hid.symm, hexpired⟩
  | alert rowId => exact retained_withoutAlert hfound.1

/-- When nothing is due, everything is kept. -/
theorem retained_eq_self {db : Database} (h : dueActions cutoff db.toTables = []) :
    retained cutoff db.toTables = db.toTables := by
  have hcandidates : ∀ c, c ∉ candidates cutoff db.toTables := by
    intro c hc
    have hnil := List.flatMap_eq_nil_iff.mp h c hc
    exact candidateActions_ne_nil _ _ hnil
  have hsample : ∀ r ∈ db.samples.rows, ¬r.observedAtUtcUs < cutoff := fun r hr hlt =>
    hcandidates _ (mem_candidates.mpr (.inl ⟨r, hr, hlt, rfl⟩))
  have halert : ∀ r ∈ db.alerts.rows, ¬Expired cutoff r := fun r hr hexpired =>
    hcandidates _ (mem_candidates.mpr (.inr ⟨r, hr, hexpired, rfl⟩))
  have hsampleDue : ∀ i, ¬SampleDue cutoff db.toTables i := by
    rintro i ⟨r, hr, -, hlt⟩
    exact hsample r hr hlt
  have halertDue : ∀ i, ¬AlertDue cutoff db.toTables i := by
    rintro i ⟨r, hr, -, hexpired⟩
    exact halert r hr hexpired
  have hreference : ∀ reference, keptReference cutoff db.toTables reference = reference := by
    intro reference
    cases reference <;> simp [keptReference, hsampleDue]
  unfold retained
  conv_rhs => rw [← show Tables.mk db.migrations db.checkpoint db.replay db.samples db.components
    db.alerts db.evaluation db.events = db.toTables from rfl]
  rw [Tables.mk.injEq]
  refine ⟨rfl, rfl, rfl, Table.ext ?_, ?_, Table.ext ?_, ?_, Table.ext ?_⟩
  · exact List.filter_eq_self.mpr fun r hr => by simpa using hsample r hr
  · exact List.filter_eq_self.mpr fun c _ => by simpa using hsampleDue _
  · show (db.alerts.rows.filter _).map _ = db.alerts.rows
    rw [List.filter_eq_self.mpr fun r hr => by simpa using halert r hr]
    refine (List.map_congr_left fun r _ => ?_).trans (List.map_id _)
    simp [keptAlert, hreference]
  · funext s
    cases db.evaluation s <;> simp [keptEvaluation, hreference]
  · show (db.events.rows.filter _).map _ = db.events.rows
    rw [List.filter_eq_self.mpr fun r hr => by simpa using halertDue _]
    refine (List.map_congr_left fun r _ => ?_).trans (List.map_id _)
    simp [keptEvent, hreference]

end Retained

/-! ## Batches -/

section Batches

variable {cutoff : Int}

/-- By induction on the actions: what is left can be read. -/
theorem Readable.withoutAll : ∀ (actions : List DeletionAction) {db : Database},
    Readable db → Readable (db.withoutAll actions)
  | [], _, h => h
  | action :: actions, _, h => (h.without action).withoutAll actions

/-- The first due deletions are carried out one by one; the others stay due. -/
theorem run_dueActions : ∀ (batch rest : List DeletionAction) (db : Database),
    dueActions cutoff db.toTables = batch ++ rest →
    (batch.forM (executeAction cutoff)).run db = .ok ((), db.withoutAll batch) ∧
      dueActions cutoff (db.withoutAll batch).toTables = rest ∧
      retained cutoff (db.withoutAll batch).toTables = retained cutoff db.toTables ∧
      (db.withoutAll batch).identity = db.identity
  | [], _, _, h => ⟨rfl, h, rfl, rfl⟩
  | action :: batch, rest, db, h => by
    obtain ⟨hrun, hdue, hretained, hidentity⟩ :=
      run_dueActions batch rest (db.without action) (dueActions_tables h)
    refine ⟨?_, hdue, hretained.trans (retained_tables h), hidentity⟩
    rcases run_executeAction cutoff action db with ⟨-, hone⟩ | ⟨hnot, -⟩
    · exact (run_bind_ok hone).trans hrun
    · exact absurd (found_of_dueActions h) hnot

theorem countActions_length (actions : List DeletionAction) :
    (countActions actions).1 + (countActions actions).2.1 + (countActions actions).2.2 =
      actions.length := by
  unfold countActions
  induction actions with
  | nil => rfl
  | cons action actions ih =>
    dsimp only at ih ⊢
    cases action <;> simp only [List.countP_cons, List.length_cons] <;> simp <;> omega

/-- The counts pass the check of the result. -/
theorem cleanupResult_check {actions : List DeletionAction}
    (h : actions.length ≤ retentionRowBudget) :
    (cleanupResult (countActions actions)).check = .ok () := by
  have hlength := countActions_length actions
  unfold RetentionCleanupResult.check RetentionCleanupResult.logicalRowsDeleted cleanupResult
  refine require_pos ⟨by dsimp only; omega, ?_, ?_⟩
  · dsimp only
    split
    · intro _
      omega
    · exact nofun
  · dsimp only
    split
    · exact nofun
    · intro _
      omega

/-- There was no work exactly if nothing was deleted. -/
theorem cleanupResult_noWork {actions : List DeletionAction} :
    (cleanupResult (countActions actions)).outcome = .noWork ↔ actions = [] := by
  have hlength := countActions_length actions
  unfold cleanupResult
  dsimp only
  rw [hlength, ← List.length_eq_zero_iff]
  split
  · exact iff_of_true rfl (by assumption)
  · exact iff_of_false nofun (by assumption)

/-- A cleanup of a readable database carries out the first 500 due deletions. -/
theorem Readable.cleanup_eq {db : Database} (h : Readable db) {now days : Int}
    (hcutoff : retentionCutoff now days = .ok cutoff) :
    cleanup db now days =
      (.ok (cleanupResult (countActions ((dueActions cutoff db.toTables).take retentionRowBudget))),
        db.withoutAll ((dueActions cutoff db.toTables).take retentionRowBudget)) := by
  generalize hbatch : (dueActions cutoff db.toTables).take retentionRowBudget = batch
  have hsplit : dueActions cutoff db.toTables =
      batch ++ (dueActions cutoff db.toTables).drop retentionRowBudget := by
    rw [← hbatch, List.take_append_drop]
  have hlength : batch.length ≤ retentionRowBudget := by
    rw [← hbatch]
    exact List.length_take_le _ _
  have hplan := h.run_retentionPlan cutoff
  rw [hbatch] at hplan
  have hrun : (retain cutoff).run db = .ok (countActions batch, db.withoutAll batch) := by
    unfold retain executeRetentionPlan checkDeadline
    rw [run_bind_ok hplan, run_bind, run_bind_ok (run_dueActions batch _ db hsplit).1]
    rfl
  obtain ⟨cursor, hexec⟩ := (exec_none Raised.sqlite (retain cutoff) {} db).1 _ _ hrun
  unfold cleanup cleanupRetention
  rw [hcutoff]
  unfold Connection.begin Connection.execute Connection.commit finishCleanup
  simp only [Faults.none] at hexec ⊢
  simp only [hexec, Bool.false_eq_true, if_false, cleanupResult_check hlength]
  rfl

/-- The database after some cleanups, each with its own clock reading and number of days. -/
def cleanups (db : Database) (calls : List (Int × Int)) : Database :=
  calls.foldl (fun db call => (cleanup db call.1 call.2).2) db

/-- Batch after batch, the due deletions are used up from the front. -/
theorem Readable.cleanups {db : Database} (h : Readable db) {calls : List (Int × Int)}
    (hcalls : ∀ call ∈ calls, retentionCutoff call.1 call.2 = .ok cutoff) :
    Readable (cleanups db calls) ∧
      dueActions cutoff (HealthHistory.cleanups db calls).toTables =
        (dueActions cutoff db.toTables).drop (retentionRowBudget * calls.length) ∧
      retained cutoff (HealthHistory.cleanups db calls).toTables = retained cutoff db.toTables ∧
      (HealthHistory.cleanups db calls).identity = db.identity := by
  induction calls generalizing db with
  | nil => exact ⟨h, rfl, rfl, rfl⟩
  | cons call calls ih =>
    have hcall := h.cleanup_eq (hcalls call List.mem_cons_self)
    obtain ⟨-, hdue, hretained, hidentity⟩ := run_dueActions
      ((dueActions cutoff db.toTables).take retentionRowBudget) _ db
      (List.take_append_drop retentionRowBudget (dueActions cutoff db.toTables)).symm
    obtain ⟨hreadable', hdue', hretained', hidentity'⟩ :=
      ih (h.withoutAll ((dueActions cutoff db.toTables).take retentionRowBudget))
        fun c hc => hcalls c (List.mem_cons_of_mem _ hc)
    have hstep : HealthHistory.cleanups db (call :: calls) = HealthHistory.cleanups
        (db.withoutAll ((dueActions cutoff db.toTables).take retentionRowBudget)) calls := by
      unfold HealthHistory.cleanups
      rw [List.foldl_cons, hcall]
    rw [hstep]
    refine ⟨hreadable', ?_, hretained'.trans hretained, hidentity'.trans hidentity⟩
    rw [hdue', hdue, List.drop_drop, List.length_cons, Nat.mul_succ, Nat.add_comm]

end Batches

/-- Cleanups with one cutoff, of a database whose rows are all readable, carry out the due deletions
    in batches of 500 until none is left; what is left then are the retained tables. -/
theorem cleanups_converge {db : Database} (h : Readable db) {cutoff : Int}
    {calls : List (Int × Int)} {now days : Int}
    (hcalls : ∀ call ∈ calls, retentionCutoff call.1 call.2 = .ok cutoff)
    (hcutoff : retentionCutoff now days = .ok cutoff) :
    let due := dueActions cutoff db.toTables
    let reached := cleanups db calls
    let batch := (due.drop (500 * calls.length)).take 500
    dueActions cutoff reached.toTables = due.drop (500 * calls.length) ∧
      cleanup reached now days =
        (.ok (cleanupResult (countActions batch)), reached.withoutAll batch) ∧
      ((cleanupResult (countActions batch)).outcome = .noWork ↔ due.length ≤ 500 * calls.length) ∧
      ((cleanupResult (countActions batch)).outcome = .noWork →
        reached.toTables = retained cutoff db.toTables ∧ reached.identity = db.identity) := by
  obtain ⟨hreadable, hdue, hretained, hidentity⟩ := h.cleanups hcalls
  have hcleanup := hreadable.cleanup_eq hcutoff
  rw [hdue] at hcleanup
  have hnoWork : (cleanupResult (countActions (((dueActions cutoff db.toTables).drop
      (500 * calls.length)).take 500))).outcome = .noWork ↔
      (dueActions cutoff db.toTables).length ≤ 500 * calls.length := by
    rw [cleanupResult_noWork, List.take_eq_nil_iff, List.drop_eq_nil_iff]
    simp
  refine ⟨hdue, hcleanup, hnoWork, fun hdone => ⟨?_, hidentity⟩⟩
  have hnil : dueActions cutoff (cleanups db calls).toTables = [] := by
    rw [hdue]
    exact List.drop_eq_nil_of_le (hnoWork.mp hdone)
  rw [← retained_eq_self hnil, hretained]

theorem cleanups_converge_wled : ∃ db : Database,
    dueActions 100 db.toTables = [.health 1] ∧
      (cleanup (cleanups db [(86400000100, 1)]) 86400000100 1).1 = .ok ⟨.noWork, 0, 0, 0⟩ ∧
      (cleanups db [(86400000100, 1)]).toTables = retained 100 db.toTables := by
  obtain ⟨fresh, hfresh⟩ : ∃ fresh, createSchemaV1 0 = .ok fresh := ⟨_, rfl⟩
  have hcoherent := runCalls_coherent hfresh
    [.ingest Faults.none (wledReport 1 5 .degraded .wledInfoTimeout)]
  generalize hdb : runCalls fresh
    [.ingest Faults.none (wledReport 1 5 .degraded .wledInfoTimeout)] = db at hcoherent
  obtain ⟨hdue, hnone⟩ : dueActions 100 db.toTables = [.health 1] ∧ db.alerts.rows = [] := by
    obtain rfl := Except.ok.inj hfresh
    rw [← hdb]
    decide +kernel
  have hlegible : Legible db.toTables := by
    obtain ⟨c, rows, baseline, hc⟩ := hcoherent
    refine ⟨hc.history, hc.live, ?_, ?_⟩ <;> rw [hnone] <;> exact fun _ h => nomatch h
  have hcutoff : retentionCutoff 86400000100 1 = .ok 100 := rfl
  have hcalls : ∀ call ∈ [((86400000100, 1) : Int × Int)],
      retentionCutoff call.1 call.2 = .ok 100 := by simpa using hcutoff
  obtain ⟨-, hcleanup, hnoWork, hkept⟩ := cleanups_converge hlegible.readable hcalls hcutoff
  rw [hdue] at hcleanup hnoWork hkept
  exact ⟨db, hdue, by rw [hcleanup]; rfl, (hkept (hnoWork.mpr (by decide))).1⟩

end Aurora.HealthHistory
