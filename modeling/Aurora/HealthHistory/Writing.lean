/-
  The writing statements: each one succeeds and changes one table.

  First the constraints: what has to be checked of the changed rows so that all of them hold again.
  Then one lemma for each statement of the ingest path.  The only way an `INSERT` can fail is that
  the table has no row identifier left.
-/
import Aurora.HealthHistory.AlertBook

namespace Aurora.HealthHistory

open Ingestion Script

/-! ## The constraints after a change -/

/-- What holds of every evaluator row still does when one is replaced. -/
theorem forall_evaluation_update {f : AlertScope → Option EvaluationStateRow} {scope : AlertScope}
    {r : EvaluationStateRow} {P : AlertScope → EvaluationStateRow → Prop}
    (hold : ∀ s, ∀ e ∈ f s, P s e) (hnew : P scope r) :
    ∀ s, ∀ e ∈ Function.update f scope (some r) s, P s e := by
  intro s e he
  by_cases hs : s = scope
  · subst hs
    rw [Function.update_self] at he
    rwa [← Option.some.inj he]
  · rw [Function.update_of_ne hs] at he
    exact hold s e he

namespace Tables.Consistent

variable {t : Tables}

/-- Changing alerts: the new rows pass their checks, and none becomes active or changes its pair. -/
theorem updateAlerts (h : t.Consistent) {p : AlertRow → Bool} {f : AlertRow → AlertRow}
    {hf : ∀ r, (f r).id = r.id} (hcheck : ∀ r ∈ t.alerts.rows, p r = true → (f r).Check)
    (hpair : ∀ r, (f r).pair = r.pair)
    (hactive : ∀ r, (f r).lifecycle.Active → r.lifecycle.Active)
    (hfirst : ∀ r ∈ t.alerts.rows, p r = true → t.SampleExists (f r).firstSampleId)
    (hlatest : ∀ r ∈ t.alerts.rows, p r = true → t.SampleExists (f r).latestSampleId) :
    { t with alerts := t.alerts.update p f hf }.Consistent where
  __ := h
  alertCheck := Table.forall_mem_update hf h.alertCheck hcheck
  alertActive := by
    rw [Table.update_rows, List.pairwise_map]
    refine h.alertActive.imp fun {a b} hab => ?_
    have hkeep : ∀ r, (if p r then f r else r).pair = r.pair ∧
        ((if p r then f r else r).lifecycle.Active → r.lifecycle.Active) := fun r => by
      split
      · exact ⟨hpair r, hactive r⟩
      · exact ⟨rfl, id⟩
    rintro ⟨ha, hb, heq⟩
    rw [(hkeep a).1, (hkeep b).1] at heq
    exact hab ⟨(hkeep a).2 ha, (hkeep b).2 hb, heq⟩
  alertFirstSample := Table.forall_mem_update hf h.alertFirstSample hfirst
  alertLatestSample := Table.forall_mem_update hf h.alertLatestSample hlatest
  eventAlert := fun e he => (Table.update_has hf).mpr (h.eventAlert e he)
  alertRowid := Table.forall_mem_update hf h.alertRowid
    fun r hr _ => (hf r).le.trans (h.alertRowid r hr)

/-- Adding an alert: no other alert of its pair is active. -/
theorem appendAlert (h : t.Consistent) {r : AlertRow} {hr : ∀ a ∈ t.alerts.rows, a.id < r.id}
    (hrowid : r.id ≤ maxRowid) (hcheck : r.Check)
    (hactive : ∀ a ∈ t.alerts.rows, a.pair = r.pair → ¬a.lifecycle.Active)
    (hfirst : t.SampleExists r.firstSampleId) (hlatest : t.SampleExists r.latestSampleId) :
    { t with alerts := t.alerts.append r hr }.Consistent where
  __ := h
  alertCheck := Table.forall_mem_append hr h.alertCheck hcheck
  alertActive := List.pairwise_append.mpr
    ⟨h.alertActive, List.pairwise_singleton _ _, fun a ha b hb => by
      rw [List.mem_singleton.mp hb]
      rintro ⟨hact, -, heq⟩
      exact hactive a ha heq hact⟩
  alertFirstSample := Table.forall_mem_append hr h.alertFirstSample hfirst
  alertLatestSample := Table.forall_mem_append hr h.alertLatestSample hlatest
  eventAlert := fun e he => (Table.append_has hr).mpr (.inl (h.eventAlert e he))
  alertRowid := Table.forall_mem_append hr h.alertRowid hrowid

/-- Adding an event to an alert. -/
theorem appendEvent (h : t.Consistent) {e : AlertEventRow} {he : ∀ a ∈ t.events.rows, a.id < e.id}
    (hrowid : e.id ≤ maxRowid) (hcheck : e.Check) (halert : t.alerts.Has e.alertId)
    (hsample : t.SampleExists e.supportingSampleId) :
    { t with events := t.events.append e he }.Consistent where
  __ := h
  eventCheck := Table.forall_mem_append he h.eventCheck hcheck
  eventAlert := Table.forall_mem_append he h.eventAlert halert
  eventSample := Table.forall_mem_append he h.eventSample hsample
  eventRowid := Table.forall_mem_append he h.eventRowid hrowid

/-- Adding a sample of a new sequence. -/
theorem appendSample (h : t.Consistent) {r : HealthSampleRow}
    {hr : ∀ a ∈ t.samples.rows, a.id < r.id} (hrowid : r.id ≤ maxRowid) (hcheck : r.Check)
    (hsequence : ∀ a ∈ t.samples.rows, a.observationSequence ≠ r.observationSequence) :
    { t with samples := t.samples.append r hr }.Consistent := by
  have hexists : ∀ {o}, t.SampleExists o →
      { t with samples := t.samples.append r hr }.SampleExists o :=
    fun ho i hi => (Table.append_has hr).mpr (.inl (ho i hi))
  exact {
    __ := h
    sampleCheck := Table.forall_mem_append hr h.sampleCheck hcheck
    sampleSequence := List.pairwise_append.mpr
      ⟨h.sampleSequence, List.pairwise_singleton _ _, fun a ha b hb => by
        rw [List.mem_singleton.mp hb]
        exact hsequence a ha⟩
    componentSample := fun c hc => (Table.append_has hr).mpr (.inl (h.componentSample c hc))
    alertFirstSample := fun a ha => hexists (h.alertFirstSample a ha)
    alertLatestSample := fun a ha => hexists (h.alertLatestSample a ha)
    evaluationSample := fun s hs e he => hexists (h.evaluationSample s hs e he)
    eventSample := fun e he => hexists (h.eventSample e he)
    sampleRowid := Table.forall_mem_append hr h.sampleRowid hrowid }

/-- Adding a component row to a sample. -/
theorem appendComponent (h : t.Consistent) {r : ComponentSampleRow} (hcheck : r.Check)
    (hkey : ∀ a ∈ t.components, ¬(a.sampleId = r.sampleId ∧ a.component = r.component))
    (hsample : t.samples.Has r.sampleId) :
    { t with components := t.components ++ [r] }.Consistent where
  __ := h
  componentCheck := fun a ha => by
    rcases List.mem_append.mp ha with ha | ha
    · exact h.componentCheck a ha
    · rw [List.mem_singleton.mp ha]
      exact hcheck
  componentKey := List.pairwise_append.mpr
    ⟨h.componentKey, List.pairwise_singleton _ _, fun a ha b hb => by
      rw [List.mem_singleton.mp hb]
      exact hkey a ha⟩
  componentSample := fun a ha => by
    rcases List.mem_append.mp ha with ha | ha
    · exact h.componentSample a ha
    · rw [List.mem_singleton.mp ha]
      exact hsample

/-- Changing an evaluator row. -/
theorem updateEvaluation (h : t.Consistent) {scope : AlertScope} {r : EvaluationStateRow}
    (hcheck : r.Check scope) (hsample : t.SampleExists r.lastSampleId) :
    { t with evaluation := Function.update t.evaluation scope (some r) }.Consistent where
  __ := h
  evaluationCheck := fun s _ => forall_evaluation_update
    (fun s e he => h.evaluationCheck s (mem_alertScopes s) e he) hcheck s
  evaluationSample := fun s _ => forall_evaluation_update
    (P := fun _ e => t.SampleExists e.lastSampleId)
    (fun s e he => h.evaluationSample s (mem_alertScopes s) e he) hsample s

/-- The replay rows can be replaced by others that pass their checks. -/
theorem replaceReplay (h : t.Consistent) {replay : Table AcceptedObservationRow.observationSequence}
    (hcheck : ∀ r ∈ replay.rows, r.Check) : { t with replay := replay }.Consistent where
  __ := h
  replayCheck := hcheck

theorem replaceCheckpoint (h : t.Consistent) {r : IngestionCheckpointRow} (hcheck : r.Check) :
    { t with checkpoint := some r }.Consistent where
  __ := h
  checkpointCheck := fun a ha => by rwa [← Option.some.inj ha]

end Tables.Consistent

/-! ## Statements -/

theorem Post.execute_ok {β : Type} {f : Database → Except SqliteError (β × Database)}
    {db db' : Database} {b : β} {Q : β → Database → Prop} {E : Raised → Prop}
    (h : f db = .ok (b, db')) (hQ : Q b db') : Post (execute f) db Q E := by
  refine Post.of_ok ?_ hQ
  unfold execute
  rw [Script.run_perform, h]
  rfl

theorem Post.execute_error {β : Type} {f : Database → Except SqliteError (β × Database)}
    {db : Database} {e : SqliteError} {Q : β → Database → Prop} {E : Raised → Prop}
    (h : f db = .error e) (hE : E (.sqlite e)) : Post (execute f) db Q E := by
  refine Post.of_error (e := .sqlite e) ?_ hE
  unfold execute
  rw [Script.run_perform, h]
  rfl

/-- A statement that writes consistent tables returns. -/
theorem Post.written {β : Type} {f : Database → Except SqliteError (β × Database)}
    {db : Database} {t : Tables} {b : β} {Q : β → Database → Prop} {E : Raised → Prop}
    (hf : f db = (db.write t).map fun db' => (b, db')) (ht : t.Consistent)
    (hQ : ∀ db', db'.toTables = t → db'.identity = db.identity → Q b db') :
    Post (execute f) db Q E := by
  rw [Database.write_of_consistent ht] at hf
  exact Post.execute_ok hf (hQ _ rfl rfl)

/-- An `INSERT` returns the new identifier, unless there is none left. -/
theorem Post.inserted {ρ : Type} {key : ρ → Int}
    {f : Database → Except SqliteError (Int × Database)} {db : Database} {t : Table key}
    {make : Int → ρ} {hmake : ∀ k, key (make k) = k} {tables : Table key → Tables}
    {Q : Int → Database → Prop} {E : Raised → Prop}
    (hf : f db = inserted db (t.insertNext maxRowid make hmake) tables)
    (ht : ∀ k h, t.nextKey maxRowid = some k → (tables (t.append (make k) h)).Consistent)
    (hQ : ∀ k h db', t.nextKey maxRowid = some k → db'.toTables = tables (t.append (make k) h) →
      db'.identity = db.identity → Q k db')
    (hE : t.nextKey maxRowid = none → E (.sqlite .full)) : Post (execute f) db Q E := by
  rcases t.insertNext_cases maxRowid make hmake with hnone | ⟨k, h, hk, hsome⟩
  · rw [hnone] at hf
    exact Post.execute_error hf (hE (Table.insertNext_eq_none.mp hnone))
  · rw [hsome] at hf
    unfold Ingestion.inserted at hf
    dsimp only at hf
    rw [Database.write_of_consistent (ht k h hk)] at hf
    exact Post.execute_ok hf (hQ k h _ hk rfl rfl)

/-- A check of trust that passes changes nothing. -/
theorem Post.trusted {p : Prop} [Decidable p] {db : Database} {Q : Unit → Database → Prop}
    {E : Raised → Prop} (hp : p) (hQ : Q () db) : Post (attempt (trust p)) db Q E :=
  Post.ofExcept (trust_pos hp) hQ

/-! ## Changing an alert -/

/-- Only alerts and their events differ. -/
structure OnlyAlerts (db db' : Database) : Prop where
  migrations : db'.migrations = db.migrations
  checkpoint : db'.checkpoint = db.checkpoint
  replay : db'.replay = db.replay
  samples : db'.samples = db.samples
  components : db'.components = db.components
  evaluation : db'.evaluation = db.evaluation
  identity : db'.identity = db.identity

namespace OnlyAlerts

variable {db db' db'' : Database}

theorem refl (db : Database) : OnlyAlerts db db := ⟨rfl, rfl, rfl, rfl, rfl, rfl, rfl⟩

theorem trans (h : OnlyAlerts db db') (h' : OnlyAlerts db' db'') : OnlyAlerts db db'' :=
  ⟨h'.migrations.trans h.migrations, h'.checkpoint.trans h.checkpoint, h'.replay.trans h.replay,
    h'.samples.trans h.samples, h'.components.trans h.components,
    h'.evaluation.trans h.evaluation, h'.identity.trans h.identity⟩

/-- Writing new alerts and events changes nothing else. -/
theorem of_tables {alerts : Table AlertRow.id} {events : Table AlertEventRow.id}
    (ht : db'.toTables = { db.toTables with alerts := alerts, events := events })
    (hi : db'.identity = db.identity) : OnlyAlerts db db' := by
  refine ⟨?_, ?_, ?_, ?_, ?_, ?_, hi⟩ <;> rw [ht]

/-- Changes to the alerts alone take no sample away. -/
theorem sampleExists (h : OnlyAlerts db db') {o : Option Int} (ho : db.SampleExists o) :
    db'.SampleExists o := by
  intro i hi
  rw [h.samples]
  exact ho i hi

end OnlyAlerts

/-- One alert was changed by `f`, and the event `e` was added to it. -/
structure Recorded (db db' : Database) (f : AlertRow → AlertRow) (e : AlertEventRow) : Prop where
  only : OnlyAlerts db db'
  alerts : db'.alerts.rows = db.alerts.rows.map fun r => if r.id = e.alertId then f r else r
  events : db'.events.rows = db.events.rows ++ [e]

section UpdatedAlert

variable {event : LifecycleEvent} {state : AutomaticAlertState} {now : Int} {sample : Option Int}

/-- An update keeps the pair of an alert. -/
theorem updatedAlert_pair (r : AlertRow) :
    (updatedAlert event state now sample r).pair = r.pair := by
  cases event <;> rfl

/-- An update makes no terminal alert active. -/
theorem updatedAlert_active (r : AlertRow)
    (h : (updatedAlert event state now sample r).lifecycle.Active) : r.lifecycle.Active := by
  cases event with
  | recovered => exact absurd h (by simp [updatedAlert, AlertLifecycle.Active])
  | archived => exact absurd h (by simp [updatedAlert, AlertLifecycle.Active])
  | _ => exact h

/-- An updated alert refers to samples that exist. -/
theorem updatedAlert_samples {t : Tables} {r : AlertRow} (event : LifecycleEvent)
    (state : AutomaticAlertState) (now : Int) (hsample : t.SampleExists sample)
    (hfirst : t.SampleExists r.firstSampleId) (hlatest : t.SampleExists r.latestSampleId) :
    t.SampleExists (updatedAlert event state now sample r).firstSampleId ∧
      t.SampleExists (updatedAlert event state now sample r).latestSampleId := by
  cases event with
  | occurrenceUpdated =>
    refine ⟨hfirst, ?_⟩
    cases sample with
    | none => exact hlatest
    | some i => exact hsample
  | recovered => exact ⟨hfirst, hsample⟩
  | _ => exact ⟨hfirst, hlatest⟩

/-- Changing an alert that is not archived keeps the others of its pair archived. -/
theorem Recorded.liveLast {db db' : Database} {f : AlertRow → AlertRow} {e : AlertEventRow}
    {r : AlertRow} (h : Recorded db db' f e) (hlive : LiveLast db.toTables)
    (hid : ∀ r, (f r).id = r.id) (hpair : ∀ r, (f r).pair = r.pair) (hr : r ∈ db.alerts.rows)
    (her : e.alertId = r.id) (hnot : r.lifecycle ≠ .archived) (he : 1 ≤ e.id) :
    LiveLast db'.toTables where
  positive := by
    rw [h.alerts]
    intro a ha
    obtain ⟨b, hb, rfl⟩ := List.mem_map.mp ha
    split
    · rw [hid]
      exact hlive.positive b hb
    · exact hlive.positive b hb
  earlier := by
    have hkeep : ∀ a, (if a.id = e.alertId then f a else a).pair = a.pair := fun a => by
      split
      · exact hpair a
      · rfl
    rw [h.alerts, List.pairwise_map]
    refine List.Pairwise.imp_of_mem (fun {a b} ha hb hab heq => ?_) hlive.earlier
    rw [hkeep, hkeep] at heq
    have harchived := hab heq
    have hne : a.id ≠ e.alertId := by
      intro hae
      rw [db.alerts.mem_unique ha hr (hae.trans her)] at harchived
      exact hnot harchived
    rw [if_neg hne]
    exact harchived
  events := by
    rw [h.events]
    intro a ha
    rcases List.mem_append.mp ha with ha | ha
    · exact hlive.events a ha
    · rw [List.mem_singleton.mp ha]
      exact he

/-- Adding an event to an alert. -/
theorem post_insertAlertEvent {db : Database} {alertId : Int} {lifecycle : AlertLifecycle}
    (halert : db.alerts.Has alertId) (hnow : Bounded maxTimestampUs now)
    (hallowed : lifecycle ∈ event.allowed) (hsample : db.SampleExists sample) :
    Post (insertAlertEvent alertId event now sample lifecycle) db
      (fun _ db' => ∃ k h, db.events.nextKey maxRowid = some k ∧
        db'.toTables = { db.toTables with
          events := db.events.append (eventRow alertId event now sample lifecycle k) h } ∧
        db'.identity = db.identity)
      (· = .sqlite .full) := by
  unfold insertAlertEvent
  refine Post.bind (Post.inserted rfl (fun k h hk => ?_) (fun k h db' hk ht hi => ?_)
    fun _ => rfl) (fun _ _ h => Post.pure h)
  · exact db.consistent.appendEvent (nextKey_le_maxRowid hk) ⟨hnow, hallowed⟩ halert hsample
  · exact ⟨k, h, hk, ht, hi⟩

/-- Changing one alert that is not archived, with its event. -/
theorem post_updateAlert {db : Database} {r : AlertRow} {lifecycle : AlertLifecycle}
    (hlive : LiveLast db.toTables) (hr : r ∈ db.alerts.rows) (hnot : r.lifecycle ≠ .archived)
    (hcheck : (updatedAlert event state now sample r).Check)
    (hnow : Bounded maxTimestampUs now) (hallowed : lifecycle ∈ event.allowed)
    (hsample : db.SampleExists sample) :
    Post (do
        let rowcount ← execute (updateAlertRow r.id event state now sample)
        expectOneRow rowcount
        insertAlertEvent r.id event now sample lifecycle) db
      (fun _ db' => LiveLast db'.toTables ∧ ∃ k, Recorded db db' (updatedAlert event state now sample)
        (eventRow r.id event now sample lifecycle k))
      (· = .sqlite .full) := by
  -- the identifier names one row, so exactly one is updated
  have hone : (db.alerts.rows.filter fun a => a.id = r.id).length = 1 := by
    rw [db.alerts.filter_key, Table.find?_eq_some.mpr ⟨hr, rfl⟩]
    rfl
  have hunique : ∀ a ∈ db.alerts.rows, decide (a.id = r.id) = true → a = r := fun a ha hk =>
    db.alerts.mem_unique ha hr (by simpa using hk)
  have hsamples := updatedAlert_samples event state now hsample
    (db.consistent.alertFirstSample r hr) (db.consistent.alertLatestSample r hr)
  refine Post.bind (R := fun n db' => n = 1 ∧ db'.toTables = { db.toTables with
      alerts := db.alerts.update (fun a => a.id = r.id) (updatedAlert event state now sample)
        (updatedAlert_id event state now sample) } ∧ db'.identity = db.identity) ?_ ?_
  · refine Post.written rfl (db.consistent.updateAlerts (fun a ha hk => ?_) updatedAlert_pair
      updatedAlert_active (fun a ha hk => ?_) (fun a ha hk => ?_)) fun db' ht hi => ⟨hone, ht, hi⟩
    · rwa [hunique a ha hk]
    · rw [hunique a ha hk]
      exact hsamples.1
    · rw [hunique a ha hk]
      exact hsamples.2
  · rintro n m ⟨rfl, ht, hi⟩
    refine Post.bind (R := fun _ m' => m = m') (Post.trusted rfl rfl) ?_
    rintro _ _ rfl
    have halerts : m.alerts = db.alerts.update (fun a => a.id = r.id)
        (updatedAlert event state now sample) (updatedAlert_id event state now sample) := by
      rw [ht]
    have hevents : m.events = db.events := by rw [ht]
    have honly : OnlyAlerts db m := .of_tables ht hi
    have hhas : m.alerts.Has r.id := by
      rw [halerts]
      exact (Table.update_has _).mpr ⟨r, hr, rfl⟩
    -- then the event of the change, which needs the alert and the sample
    refine (post_insertAlertEvent hhas hnow hallowed (honly.sampleExists hsample)).mono ?_
      (fun _ h => h)
    rintro _ db' ⟨k, hlt, hk, ht', hi'⟩
    have halerts' : db'.alerts = m.alerts := by rw [ht']
    have hrecorded : Recorded db db' (updatedAlert event state now sample)
        (eventRow r.id event now sample lifecycle k) := by
      refine ⟨honly.trans (.of_tables ht' hi'), ?_, ?_⟩
      · rw [halerts', halerts, Table.update_rows]
        simp only [decide_eq_true_eq]
        rfl
      · rw [ht', ← hevents]
        rfl
    -- the identifiers of the events start at one
    have hpositive : 1 ≤ k := by
      refine Table.one_le_nextKey ?_ hk
      rw [hevents]
      exact hlive.events
    exact ⟨hrecorded.liveLast hlive (updatedAlert_id event state now sample) updatedAlert_pair hr
      rfl hnot hpositive, k, hrecorded⟩

end UpdatedAlert

/-! ## Opening an alert -/

/-- The alert `r` was added, with its first event `e`. -/
structure Opened (db db' : Database) (r : AlertRow) (e : AlertEventRow) : Prop where
  only : OnlyAlerts db db'
  fresh : ∀ a ∈ db.alerts.rows, a.id < r.id
  alerts : db'.alerts.rows = db.alerts.rows ++ [r]
  events : db'.events.rows = db.events.rows ++ [e]

/-- A newly opened alert passes its checks. -/
theorem Episode.openedRow_check {q : AlertPair} {now sample generation id : Int}
    (hq : q.1 = .sampling ↔ q.2 = .samplingGap) (hnow : Bounded maxTimestampUs now)
    (hgeneration : Positive maxBoundedCounter generation) :
    (openedRow q now sample generation id).Check where
  severity := by
    unfold openedRow
    dsimp only
    split <;> simp
  openedAt := hnow
  acknowledgedAt := boundedOption_none _
  recoveredAt := boundedOption_none _
  archivedAt := boundedOption_none _
  episodeCount := hgeneration
  occurrenceCount := by
    show Positive maxBoundedCounter 1
    decide
  cooldownUntil := Lifecycle.deadline_bounded hnow
  acknowledgedTime := .inl (by simp [openedRow])
  acknowledgedLifecycle := .inl rfl
  terminalRecovered := .inl (by simp [openedRow, AlertLifecycle.Terminal])
  archivedTime := .inl (by simp [openedRow])
  archivedLifecycle := .inr rfl
  recoveredTerminal := .inr rfl
  scopeKind := by
    by_cases h : q.1 = .sampling
    · exact .inl ⟨h, hq.mp h⟩
    · exact .inr ⟨h, fun hk => h (hq.mpr hk)⟩
  kindSeverity := by
    unfold openedRow
    dsimp only
    cases q.2 <;> simp

/-- A new alert in a pair whose other alerts are archived. -/
theorem post_openAlert {db : Database} {q : AlertPair} {now sample generation : Int}
    {state : AutomaticAlertState} (hlive : LiveLast db.toTables)
    (harchived : ∀ r ∈ pairRows db q, r.lifecycle = .archived)
    (hq : q.1 = .sampling ↔ q.2 = .samplingGap) (hnow : Bounded maxTimestampUs now)
    (hgeneration : Positive maxBoundedCounter generation)
    (hstate : state = Lifecycle.newAlert q.1 q.2 now generation hq hnow hgeneration)
    (hsample : db.samples.Has sample) :
    Post (persistCreated state now (some sample)) db
      (fun _ db' => LiveLast db'.toTables ∧ ∃ id k,
        Opened db db' (Episode.openedRow q now sample generation id)
          (eventRow id .opened now (some sample) .open k))
      (· = .sqlite .full) := by
  have hexists : db.SampleExists (some sample) := (Tables.sampleExists_some _ _).mpr hsample
  have hrow : ∀ id, alertRow state now sample id = Episode.openedRow q now sample generation id := by
    intro id
    rw [hstate]
    rfl
  unfold persistCreated insertAlert
  dsimp only
  rw [bind_assoc]
  refine Post.bind (R := fun id db' => ∃ h, 1 ≤ id ∧ db'.toTables = { db.toTables with
      alerts := db.alerts.append (Episode.openedRow q now sample generation id) h } ∧
      db'.identity = db.identity) (Post.inserted rfl (fun id h hid => ?_)
        (fun id h db' hid ht hi => ?_) fun _ => rfl) ?_
  -- no other alert of the pair is active, so the row may be inserted
  · refine db.consistent.appendAlert (nextKey_le_maxRowid hid) ?_ ?_ hexists hexists
    · rw [hrow]
      exact Episode.openedRow_check hq hnow hgeneration
    · intro a ha hpair hactive
      rw [hrow] at hpair
      rw [harchived a (mem_pairRows.mpr ⟨ha, hpair⟩)] at hactive
      exact absurd hactive (by decide)
  · simp only [hrow] at h ht
    exact ⟨h, Table.one_le_nextKey hlive.positive hid, ht, hi⟩
  · rintro id m ⟨hlt, hid, ht, hi⟩
    rw [if_neg (by omega), pure_bind]
    have halerts : m.alerts = db.alerts.append (Episode.openedRow q now sample generation id) hlt := by
      rw [ht]
    have hevents : m.events = db.events := by rw [ht]
    have honly : OnlyAlerts db m := .of_tables ht hi
    have hhas : m.alerts.Has id := by
      rw [halerts]
      exact (Table.append_has _).mpr (.inr rfl)
    -- the event follows in the same transaction
    refine (post_insertAlertEvent hhas hnow (by decide) (honly.sampleExists hexists)).mono ?_
      (fun _ h => h)
    rintro _ db' ⟨k, hlt', hk, ht', hi'⟩
    have halerts' : db'.alerts.rows =
        db.alerts.rows ++ [Episode.openedRow q now sample generation id] := by
      rw [ht']
      show m.alerts.rows = _
      rw [halerts]
      rfl
    have hevents' : db'.events.rows =
        db.events.rows ++ [eventRow id .opened now (some sample) .open k] := by
      rw [ht', ← hevents]
      rfl
    have hpositive : 1 ≤ k := by
      refine Table.one_le_nextKey ?_ hk
      rw [hevents]
      exact hlive.events
    refine ⟨⟨?_, ?_, ?_⟩, id, k, honly.trans (.of_tables ht' hi'), hlt, halerts', hevents'⟩
    · rw [halerts']
      intro a ha
      rcases List.mem_append.mp ha with ha | ha
      · exact hlive.positive a ha
      · rw [List.mem_singleton.mp ha]
        exact hid
    · rw [halerts', List.pairwise_append]
      refine ⟨hlive.earlier, List.pairwise_singleton _ _, fun a ha b hb hpair => ?_⟩
      rw [List.mem_singleton.mp hb] at hpair
      exact harchived a (mem_pairRows.mpr ⟨ha, hpair⟩)
    · rw [hevents']
      intro a ha
      rcases List.mem_append.mp ha with ha | ha
      · exact hlive.events a ha
      · rw [List.mem_singleton.mp ha]
        exact hpositive

end Aurora.HealthHistory
