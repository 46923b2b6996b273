/-
  Storing a sample, the evaluator rows, and the ledger.

  A stored sample comes last and holds the projection it was made from.  The six evaluator rows move
  together, so they keep naming one baseline.  The ledger is a bounded log: appending an entry and
  pruning below the 64th newest one leaves the last 64 entries of everything that was accepted.
-/
import Aurora.HealthHistory.Deciding

namespace Aurora.HealthHistory

open Ingestion Script

/-! ## Component rows -/

/-- A prefix is also one for `LIKE`. -/
theorem likePrefix_of_isPrefixOf : ∀ {pattern value : List Char},
    pattern.isPrefixOf value = true → likePrefix pattern value = true
  | [], _, _ => rfl
  | p :: pattern, [], h => nomatch h
  | p :: pattern, c :: value, h => by
    simp only [List.isPrefixOf, Bool.and_eq_true, beq_iff_eq] at h
    obtain ⟨rfl, hrest⟩ := h
    simp [likePrefix, likePrefix_of_isPrefixOf hrest]

/-- A reason of the component passes the constraint on its prefix. -/
theorem NormalizedReason.likeComponent_of_ofComponent {reason : NormalizedReason}
    {component : ComponentName} (h : reason.ofComponent component = true) :
    reason.likeComponent component = true := likePrefix_of_isPrefixOf h

/-- A valid component becomes a row that passes the checks of its table. -/
theorem componentRow_ok {c : ComponentProjection} (id : Int) (h : c.Valid) :
    ∃ row, componentRow id c = .ok row ∧ row.Check ∧ row.sampleId = id ∧
      row.component = c.component := by
  have hlike : ∀ r ∈ c.reasons, r.likeComponent c.component = true := fun r hr =>
    NormalizedReason.likeComponent_of_ofComponent (h.ofComponent r hr)
  obtain ⟨hnonempty, hnodup, hshort, -, hchecked, hlatency, hlast⟩ := h
  obtain ⟨component, status, reasons, checkedAt, latency, last⟩ := c
  dsimp only at *
  match reasons with
  | [] => exact absurd hnonempty (by decide)
  | [r₁] =>
    refine ⟨_, rfl, ⟨hchecked, hlatency, hlast, ?_⟩, rfl, rfl⟩
    cases component <;> simpa using hlike
  | [r₁, r₂] =>
    refine ⟨_, rfl, ⟨hchecked, hlatency, hlast, ?_⟩, rfl, rfl⟩
    cases component <;> simp_all [maximumReasons]
  | [r₁, r₂, r₃] =>
    refine ⟨_, rfl, ⟨hchecked, hlatency, hlast, ?_⟩, rfl, rfl⟩
    cases component <;> simp_all [maximumReasons]
  | _ :: _ :: _ :: _ :: _ =>
    have := hshort.trans (maximumReasons_le _)
    simp only [List.length_cons] at this
    omega

/-! ## Storing the sample -/

/-- Only samples and their components differ. -/
structure OnlySamples (db db' : Database) : Prop where
  migrations : db'.migrations = db.migrations
  checkpoint : db'.checkpoint = db.checkpoint
  replay : db'.replay = db.replay
  alerts : db'.alerts = db.alerts
  evaluation : db'.evaluation = db.evaluation
  events : db'.events = db.events
  identity : db'.identity = db.identity

namespace OnlySamples

variable {db db' db'' : Database}

theorem refl (db : Database) : OnlySamples db db := ⟨rfl, rfl, rfl, rfl, rfl, rfl, rfl⟩

theorem trans (h : OnlySamples db db') (h' : OnlySamples db' db'') : OnlySamples db db'' :=
  ⟨h'.migrations.trans h.migrations, h'.checkpoint.trans h.checkpoint, h'.replay.trans h.replay,
    h'.alerts.trans h.alerts, h'.evaluation.trans h.evaluation, h'.events.trans h.events,
    h'.identity.trans h.identity⟩

/-- A step that only replaces these tables. -/
theorem of_tables {samples : Table HealthSampleRow.id} {components : List ComponentSampleRow}
    (ht : db'.toTables = { db.toTables with samples := samples, components := components })
    (hi : db'.identity = db.identity) : OnlySamples db db' := by
  refine ⟨?_, ?_, ?_, ?_, ?_, ?_, hi⟩ <;> rw [ht]

end OnlySamples

/-- The sample was stored under the new identifier `id`, with its components. -/
structure SampleStored (db : Database) (p : HealthProjection) (kind : SampleKind) (id : Int)
    (db' : Database) : Prop where
  positive : 1 ≤ id
  fresh : ∀ a ∈ db.samples.rows, a.id < id
  samples : db'.samples.rows = db.samples.rows ++ [sampleRow p kind id]
  components : ∃ new, db'.components = db.components ++ new ∧
    List.Forall₂ (fun c row => componentRow id c = .ok row) p.components new

/-- The row of a checked projection passes its constraints. -/
theorem sampleRow_check {p : HealthProjection} (h : p.Checked) (kind : SampleKind) (id : Int) :
    (sampleRow p kind id).Check :=
  ⟨h.sequence, h.observedAt, h.recordedAt, h.uptime, h.digestLength, h.missed⟩

/-- Why a sample gets no identifier: none is left, or the next one is not positive. -/
def NoIdentifier (db : Database) (e : Raised) : Prop :=
  e = .sqlite .full ∧ (∃ a ∈ db.samples.rows, a.id = maxRowid) ∨
    e = .ingestion ⟨.persistenceFailed, false⟩ ∧ ∃ a ∈ db.samples.rows, a.id < 0

/-- Without an identifier the error is that the table is full. -/
theorem NoIdentifier.full {db : Database} {e : Raised} (h : NoIdentifier db e)
    (hpositive : ∀ a ∈ db.samples.rows, 1 ≤ a.id) : e = .sqlite .full := by
  rcases h with ⟨rfl, -⟩ | ⟨-, a, ha, hnegative⟩
  · rfl
  · have := hpositive a ha
    omega

/-- The next identifier is above every other one; it is positive, or there is a negative one. -/
theorem nextKey_positive {db : Database} {k : Int} (hk : db.samples.nextKey maxRowid = some k)
    (hlow : k < 1) : ∃ a ∈ db.samples.rows, a.id < 0 := by
  unfold Table.nextKey at hk
  split at hk
  · cases hk
    omega
  · rename_i a ha
    split at hk
    · refine ⟨a, List.mem_of_getLast? ha, ?_⟩
      have := Option.some.inj hk
      omega
    · cases hk

/-- There is no next identifier only after the greatest one. -/
theorem nextKey_full {db : Database} (hk : db.samples.nextKey maxRowid = none) :
    ∃ a ∈ db.samples.rows, a.id = maxRowid := by
  unfold Table.nextKey at hk
  split at hk
  · cases hk
  · rename_i a ha
    split at hk
    · cases hk
    · have hmem := List.mem_of_getLast? ha
      exact ⟨a, hmem, le_antisymm (db.consistent.sampleRowid a hmem) (by omega)⟩

/-- The row of a sample whose sequence is not stored yet. -/
theorem post_insertNewSample {db : Database} {p : HealthProjection} (kind : SampleKind)
    (hp : p.Checked)
    (hnew : ∀ a ∈ db.samples.rows, a.observationSequence ≠ p.observationSequence) :
    Post (insertHealthSample p kind) db
      (fun id db' => OnlySamples db db' ∧ 1 ≤ id ∧ (∀ a ∈ db.samples.rows, a.id < id) ∧
        db'.samples.rows = db.samples.rows ++ [sampleRow p kind id] ∧
        db'.components = db.components)
      (NoIdentifier db) := by
  unfold insertHealthSample
  refine Post.bind (R := fun id m => OnlySamples db m ∧ db.samples.nextKey maxRowid = some id ∧
      m.samples.rows = db.samples.rows ++ [sampleRow p kind id] ∧ m.components = db.components)
    (Post.inserted (t := db.samples) rfl (fun k h hk => ?_) (fun k h m hk ht hi => ?_)
      fun hk => .inl ⟨rfl, nextKey_full hk⟩) ?_
  · exact db.consistent.appendSample (nextKey_le_maxRowid hk) (sampleRow_check hp kind k) hnew
  · refine ⟨.of_tables ht hi, hk, ?_, ?_⟩ <;> rw [ht]
    rfl
  · rintro id m ⟨honly, hk, hsamples, hcomponents⟩
    by_cases hlow : id < 1
    · rw [if_pos hlow]
      exact Post.of_error rfl (.inr ⟨rfl, nextKey_positive hk hlow⟩)
    · rw [if_neg hlow]
      exact Post.pure ⟨honly, by omega, fun a ha => Table.lt_nextKey hk a ha, hsamples, hcomponents⟩

/-- One component row, written for a sample that has none for this component yet. -/
theorem post_insertComponent {db : Database} {id : Int} {c : ComponentProjection}
    {E : Raised → Prop} (hc : c.Valid)
    (hid : db.samples.Has id)
    (hnew : ∀ a ∈ db.components, a.sampleId = id → a.component ≠ c.component) :
    Post (do
        let row ← attempt (componentRow id c)
        execute (insertComponentRow row)) db
      (fun _ db' => OnlySamples db db' ∧ db'.samples = db.samples ∧
        ∃ row, componentRow id c = .ok row ∧ row.sampleId = id ∧ row.component = c.component ∧
          db'.components = db.components ++ [row]) E := by
  obtain ⟨row, hrow, hcheck, hsample, hcomponent⟩ := componentRow_ok id hc
  rw [hrow]
  refine Post.bind (R := fun r m => db = m ∧ row = r) (Post.ofExcept rfl ⟨rfl, rfl⟩) ?_
  rintro _ _ ⟨rfl, rfl⟩
  refine Post.written rfl ?_ fun db' ht hi => ?_
  · refine db.consistent.appendComponent hcheck ?_ (hsample ▸ hid)
    rintro a ha ⟨has, hac⟩
    exact hnew a ha (has.trans hsample) (hac.trans hcomponent)
  · refine ⟨.of_tables ht hi, ?_, row, rfl, hsample, hcomponent, ?_⟩ <;> rw [ht]

theorem exists_of_forall₂_right {α β : Type} {R : α → β → Prop} {l : List α} {m : List β}
    (h : List.Forall₂ R l m) {b : β} (hb : b ∈ m) : ∃ a ∈ l, R a b := by
  induction h with
  | nil => exact absurd hb List.not_mem_nil
  | @cons a b' l m hab _ ih =>
    rcases List.mem_cons.mp hb with rfl | hb
    · exact ⟨a, List.mem_cons_self, hab⟩
    · obtain ⟨a', ha', hR⟩ := ih hb
      exact ⟨a', List.mem_cons_of_mem _ ha', hR⟩

/-- The component rows written so far, before the components `todo`. -/
def ComponentsWritten (db : Database) (id : Int) (components todo : List ComponentProjection)
    (m : Database) : Prop :=
  OnlySamples db m ∧ m.samples = db.samples ∧ ∃ done new, components = done ++ todo ∧
    List.Forall₂ (fun c row => componentRow id c = .ok row ∧ row.sampleId = id ∧
      row.component = c.component) done new ∧ m.components = db.components ++ new

/-- The components are written one by one. -/
theorem post_insertComponentSamples {db : Database} {id : Int}
    {components : List ComponentProjection} {E : Raised → Prop} (hvalid : ∀ c ∈ components, c.Valid)
    (hnodup : (components.map ComponentProjection.component).Nodup) (hid : db.samples.Has id)
    (hnone : ∀ a ∈ db.components, a.sampleId ≠ id) :
    Post (insertComponentSamples id components) db
      (fun _ => ComponentsWritten db id components []) E := by
  refine Post.forM (I := ComponentsWritten db id components) ?_
    ⟨.refl db, rfl, [], [], rfl, .nil, (List.append_nil _).symm⟩
  rintro c todo m ⟨honly, hsamples, done, new, hcomponents, hdone, hm⟩
  have hc : c ∈ components := by
    rw [hcomponents]
    exact List.mem_append_right _ List.mem_cons_self
  have hfresh : ∀ a ∈ m.components, a.sampleId = id → a.component ≠ c.component := by
    intro a ha haid heq
    rw [hm] at ha
    rcases List.mem_append.mp ha with ha | ha
    · exact hnone a ha haid
    · obtain ⟨c', hc', -, -, hac⟩ := exists_of_forall₂_right hdone ha
      rw [hcomponents, List.map_append, List.nodup_append] at hnodup
      exact hnodup.2.2 _ (List.mem_map_of_mem hc') _ (List.mem_map_of_mem List.mem_cons_self)
        (hac.symm.trans heq)
  refine (post_insertComponent (hvalid c hc) (hsamples ▸ hid) hfresh).mono ?_ (fun _ h => h)
  rintro _ m' ⟨honly', hsamples', row, hrow, hrid, hrc, hm'⟩
  refine ⟨honly.trans honly', hsamples'.trans hsamples, done ++ [c], new ++ [row], ?_, ?_, ?_⟩
  · rw [hcomponents, List.append_assoc]
    rfl
  · exact List.rel_append hdone (.cons ⟨hrow, hrid, hrc⟩ .nil)
  · rw [hm', hm, List.append_assoc]

/-- A sample whose sequence is not stored yet is stored with all its components. -/
theorem post_storeNewSample {db : Database} {p : HealthProjection} (kind : SampleKind)
    (hp : p.Valid)
    (hnew : ∀ a ∈ db.samples.rows, a.observationSequence ≠ p.observationSequence) :
    Post (storeSample p (some kind)) db
      (fun sample db' => OnlySamples db db' ∧ ∃ id, sample = some id ∧
        SampleStored db p kind id db')
      (NoIdentifier db) := by
  unfold storeSample
  refine Post.bind (post_insertNewSample kind hp.toChecked hnew) ?_
  rintro id m ⟨honly, hpositive, hfresh, hsamples, hcomponents⟩
  have hid : m.samples.Has id := by
    refine ⟨sampleRow p kind id, ?_, rfl⟩
    rw [hsamples]
    exact List.mem_append_right _ List.mem_cons_self
  have hnodup : (p.components.map ComponentProjection.component).Nodup := by
    rw [hp.order]
    decide
  have hnone : ∀ a ∈ m.components, a.sampleId ≠ id := by
    rw [hcomponents]
    rintro a ha rfl
    obtain ⟨r, hr, hrid⟩ := db.consistent.componentSample a ha
    exact absurd hrid (hfresh r hr).ne
  refine Post.bind (post_insertComponentSamples hp.components hnodup hid hnone) ?_
  rintro _ m' ⟨honly', hsamples', done, new, hdone, hall, hm'⟩
  rw [List.append_nil] at hdone
  subst hdone
  refine Post.pure ⟨honly.trans honly', id, rfl, hpositive, hfresh, ?_, new, ?_, ?_⟩
  · rw [hsamples', hsamples]
  · rw [hm', hcomponents]
  · exact hall.imp fun _ _ h => h.1

/-- The next sample of a history is stored with all its components. -/
theorem post_storeSample {db : Database} {p : HealthProjection} (kind : SampleKind)
    (hp : p.Valid) (hhistory : History db.toTables)
    (hnew : ∀ a ∈ db.samples.rows, a.observationSequence < p.observationSequence) :
    Post (storeSample p (some kind)) db
      (fun sample db' => OnlySamples db db' ∧ ∃ id, sample = some id ∧
        SampleStored db p kind id db')
      (· = .sqlite .full) :=
  (post_storeNewSample kind hp fun a ha => (hnew a ha).ne).mono (fun _ _ h => h)
    fun _ h => h.full hhistory.positive

/-- The components of the stored sample, beside those of the others. -/
theorem SampleStored.rows {db db' : Database} {p : HealthProjection} {kind : SampleKind}
    {id : Int} (h : SampleStored db p kind id db') (hp : p.Valid) :
    ∃ new, List.Forall₂ (fun c row => componentRow id c = .ok row) p.components new ∧
      ∀ i, (db'.components.filter fun row => row.sampleId = i) =
        (db.components.filter fun row => row.sampleId = i) ++ if i = id then new else [] := by
  obtain ⟨new, hcomponents, hall⟩ := h.components
  have hids : ∀ row ∈ new, row.sampleId = id := by
    intro row hrow
    obtain ⟨c, hc, hcr⟩ := exists_of_forall₂_right hall hrow
    obtain ⟨row', hrow', -, hid, -⟩ := componentRow_ok id (hp.components c hc)
    rw [hrow'] at hcr
    rwa [← Except.ok.inj hcr]
  refine ⟨new, hall, fun i => ?_⟩
  rw [hcomponents, List.filter_append]
  congr 1
  split
  · rename_i hi
    exact List.filter_eq_self.mpr fun row hrow => by simpa [hi] using hids row hrow
  · rename_i hi
    refine List.filter_eq_nil_iff.mpr fun row hrow => ?_
    rw [hids row hrow]
    simpa using Ne.symm hi

/-- The stored sample holds the projection. -/
theorem SampleStored.holds {db db' : Database} {p : HealthProjection} {kind : SampleKind}
    {id : Int} (h : SampleStored db p kind id db') (hp : p.Valid) :
    Holds db'.toTables (sampleRow p kind id) p := by
  obtain ⟨new, hall, hrows⟩ := h.rows hp
  refine ⟨hp, rfl, ?_⟩
  have hnone : (db.components.filter fun row => row.sampleId = id) = [] := by
    refine List.filter_eq_nil_iff.mpr fun row hrow => ?_
    obtain ⟨r, hr, hrid⟩ := db.consistent.componentSample row hrow
    have := h.fresh r hr
    simp only [decide_eq_true_eq]
    omega
  rw [show (sampleRow p kind id).id = id from rfl, hrows, if_pos rfl, hnone, List.nil_append]
  exact hall

/-- The history with the new sample. -/
theorem SampleStored.history {db db' : Database} {p : HealthProjection} {kind : SampleKind}
    {id : Int} (h : SampleStored db p kind id db') (hp : p.Valid) (hhistory : History db.toTables)
    (hnew : ∀ a ∈ db.samples.rows, a.observationSequence < p.observationSequence) :
    History db'.toTables ∧ Holds db'.toTables (sampleRow p kind id) p ∧
      ∀ r q, r ∈ db.samples.rows → Holds db.toTables r q → Holds db'.toTables r q := by
  obtain ⟨new, -, hrows⟩ := h.rows hp
  have hold : ∀ r q, r ∈ db.samples.rows → Holds db.toTables r q → Holds db'.toTables r q := by
    intro r q hr hq
    refine ⟨hq.valid, hq.row, ?_⟩
    rw [hrows, if_neg (h.fresh r hr).ne, List.append_nil]
    exact hq.components
  have hself := h.holds hp
  refine ⟨⟨?_, ?_, ?_⟩, hself, hold⟩
  · rw [h.samples]
    intro r hr
    rcases List.mem_append.mp hr with hr | hr
    · exact hhistory.positive r hr
    · rw [List.mem_singleton.mp hr]
      exact h.positive
  · rw [h.samples]
    refine List.pairwise_append.mpr ⟨hhistory.increasing, List.pairwise_singleton _ _,
      fun a ha b hb => ?_⟩
    rw [List.mem_singleton.mp hb]
    exact hnew a ha
  · rw [h.samples]
    intro r hr
    rcases List.mem_append.mp hr with hr | hr
    · obtain ⟨q, hq⟩ := hhistory.holds r hr
      exact ⟨q, hold r q hr hq⟩
    · rw [List.mem_singleton.mp hr]
      exact ⟨p, hself⟩

/-! ## The evaluator rows -/

/-- The row of a health scope after an ingest. -/
def healthRow (row : EvaluationStateRow) (t : HealthEvaluationTransition)
    (sampleId heartbeatAt : Option Int) : EvaluationStateRow :=
  { row with
    currentStatus := t.state.currentStatus
    candidateStatus := t.state.candidateStatus
    consecutiveCount := t.state.consecutiveCount
    lastSampleId := sampleId <|> row.lastSampleId
    lastHeartbeatAtUtcUs := heartbeatAt <|> row.lastHeartbeatAtUtcUs }

/-- The row of the sampling scope after an ingest. -/
def gapRow (row : EvaluationStateRow) (gap : SamplingGapTransition)
    (sampleId heartbeatAt : Option Int) : EvaluationStateRow :=
  { row with
    consecutiveCount := gap.state.largestMissedIntervalReport
    lastSampleId := sampleId <|> row.lastSampleId
    lastHeartbeatAtUtcUs := heartbeatAt <|> row.lastHeartbeatAtUtcUs
    gapPhase := gap.state.phase }

/-- The evaluator rows after an ingest. -/
def nextRows (rows : EvaluationRows) (transitions : AlertScope → HealthEvaluationTransition)
    (gap : SamplingGapTransition) (sampleId heartbeatAt : Option Int) : EvaluationRows := fun s =>
  if s = .sampling then gapRow (rows s) gap sampleId heartbeatAt
  else healthRow (rows s) (transitions s) sampleId heartbeatAt

section Rows

variable {rows : EvaluationRows} {transitions : AlertScope → HealthEvaluationTransition}
  {gap : SamplingGapTransition} {sampleId heartbeatAt : Option Int}

/-- An observation that is folded keeps the last stored sample. -/
theorem nextRows_lastSampleId (s : AlertScope) :
    (nextRows rows transitions gap sampleId heartbeatAt s).lastSampleId =
      (sampleId <|> (rows s).lastSampleId) := by
  unfold nextRows
  split <;> rfl

theorem nextRows_heartbeat (s : AlertScope) :
    (nextRows rows transitions gap sampleId heartbeatAt s).lastHeartbeatAtUtcUs =
      (heartbeatAt <|> (rows s).lastHeartbeatAtUtcUs) := by
  unfold nextRows
  split <;> rfl

/-- The next rows pass the checks of their table. -/
theorem nextRows_check (hrows : ∀ s, (rows s).Check s) (hsample : ∀ i ∈ sampleId, 0 < i)
    (hheartbeat : BoundedOption maxTimestampUs heartbeatAt) (s : AlertScope) :
    (nextRows rows transitions gap sampleId heartbeatAt s).Check s := by
  obtain ⟨-, hpositive, hbounded, hcooldown, hshape⟩ := hrows s
  have hsample' : ∀ i ∈ (sampleId <|> (rows s).lastSampleId), 0 < i := by
    cases sampleId with
    | none => exact hpositive
    | some i => exact hsample
  have hheartbeat' : BoundedOption maxTimestampUs
      (heartbeatAt <|> (rows s).lastHeartbeatAtUtcUs) := by
    cases heartbeatAt with
    | none => exact hbounded
    | some i => exact hheartbeat
  unfold nextRows
  by_cases hs : s = .sampling
  · rw [if_pos hs]
    rcases hshape with ⟨-, hnone⟩ | ⟨hne, -⟩
    · exact ⟨gap.state.largestBounded, hsample', hheartbeat', hcooldown, .inl ⟨hs, hnone⟩⟩
    · exact absurd hs hne
  · rw [if_neg hs]
    rcases hshape with ⟨heq, -⟩ | ⟨-, hclear, -⟩
    · exact absurd heq hs
    · refine ⟨(transitions s).state.bounded, hsample', hheartbeat', hcooldown,
        .inr ⟨hs, hclear, ?_, ?_⟩⟩
      · by_cases hcandidate : (transitions s).state.candidateStatus = none
        · exact .inl ⟨hcandidate, (transitions s).state.candidateCount.mp hcandidate⟩
        · have hzero := mt (transitions s).state.candidateCount.mpr hcandidate
          have hbound := (transitions s).state.bounded.1
          exact .inr ⟨hcandidate, show 1 ≤ (transitions s).state.consecutiveCount by omega,
            (transitions s).state.candidateCurrent.resolve_left hcandidate⟩
      · by_cases hcurrent : (transitions s).state.currentStatus = none
        · exact .inr ((transitions s).state.currentNone hcurrent)
        · exact .inl hcurrent

end Rows

/-- The tables with other evaluator rows. -/
def Tables.withRows (t : Tables) (rows : EvaluationRows) : Tables :=
  { t with evaluation := fun s => some (rows s) }

/-- One row is written. -/
theorem post_updateRow {db : Database} (rows : EvaluationRows) (scope : AlertScope)
    {f : EvaluationStateRow → EvaluationStateRow} (hstored : ∀ s, db.evaluation s = some (rows s))
    (hcheck : (f (rows scope)).Check scope) (hsample : db.SampleExists (f (rows scope)).lastSampleId) :
    Post (do
        let rowcount ← execute (updateEvaluationRow scope f)
        expectOneRow rowcount) db
      (fun _ db' => db'.toTables = db.withRows (Function.update rows scope (f (rows scope))) ∧
        db'.identity = db.identity)
      (· = .sqlite .full) := by
  have hevaluation : Function.update db.evaluation scope ((db.evaluation scope).map f) =
      fun s => some (Function.update rows scope (f (rows scope)) s) := by
    funext s
    by_cases hs : s = scope
    · subst hs
      rw [Function.update_self, Function.update_self, hstored]
      rfl
    · rw [Function.update_of_ne hs, Function.update_of_ne hs, hstored]
  have hconsistent := db.consistent.updateEvaluation hcheck hsample
  refine Post.bind (R := fun n m => n = 1 ∧ m.toTables = db.withRows (Function.update rows scope
    (f (rows scope))) ∧ m.identity = db.identity) (Post.written rfl ?_ fun db' ht hi => ?_) ?_
  · rw [hstored]
    exact hconsistent
  · refine ⟨by rw [hstored]; rfl, ?_, hi⟩
    rw [ht, hevaluation]
    rfl
  · rintro _ m ⟨rfl, h⟩
    exact Post.trusted rfl h

/-- The health rows of the scopes still to do are the old ones. -/
def rowsDone (rows : EvaluationRows) (transitions : AlertScope → HealthEvaluationTransition)
    (sampleId heartbeatAt : Option Int) (todo : List AlertScope) : EvaluationRows := fun s =>
  if s = .sampling ∨ s ∈ todo then rows s
  else healthRow (rows s) (transitions s) sampleId heartbeatAt

/-- All six rows are written. -/
theorem post_writeEvaluationRows {db : Database} {rows : EvaluationRows}
    {transitions : AlertScope → HealthEvaluationTransition} {gap : SamplingGapTransition}
    {sampleId heartbeatAt : Option Int} (hstored : ∀ s, db.evaluation s = some (rows s))
    (hexists : db.SampleExists sampleId) (hsample : ∀ i ∈ sampleId, 0 < i)
    (hheartbeat : BoundedOption maxTimestampUs heartbeatAt) :
    Post (writeEvaluationRows rows (healthScopes.map fun s => (s, transitions s)) gap sampleId
        heartbeatAt) db
      (fun _ db' => db'.toTables =
          db.withRows (nextRows rows transitions gap sampleId heartbeatAt) ∧
        db'.identity = db.identity)
      (· = .sqlite .full) := by
  have hchecks : ∀ s, (nextRows rows transitions gap sampleId heartbeatAt s).Check s :=
    nextRows_check (fun s => db.consistent.evaluationCheck s (mem_alertScopes s) _ (hstored s))
      hsample hheartbeat
  have hsamples : ∀ s, db.SampleExists
      (nextRows rows transitions gap sampleId heartbeatAt s).lastSampleId := fun s => by
    rw [nextRows_lastSampleId]
    cases sampleId with
    | none => exact db.consistent.evaluationSample s (mem_alertScopes s) _ (hstored s)
    | some i => exact hexists
  unfold writeEvaluationRows
  -- the invariant of the loop: the scopes still to come have their old rows, the others the new
  refine Post.bind (Post.forM (I := fun todo m => ∃ scopes : List AlertScope,
      todo = scopes.map (fun s => (s, transitions s)) ∧ scopes.Nodup ∧ .sampling ∉ scopes ∧
      m.toTables = db.withRows (rowsDone rows transitions sampleId heartbeatAt scopes) ∧
      m.identity = db.identity) ?_ ⟨healthScopes, rfl, by decide, by decide, ?_, rfl⟩) ?_
  · rintro _ _ m ⟨_ | ⟨s, scopes⟩, heq, hnodup, hsampling, htables, hidentity⟩
    · cases heq
    · obtain ⟨rfl, rfl⟩ := List.cons.inj heq
      obtain ⟨hs, hrest⟩ := List.nodup_cons.mp hnodup
      have hne : s ≠ .sampling := fun h => hsampling (h ▸ List.mem_cons_self)
      have hrow : rowsDone rows transitions sampleId heartbeatAt (s :: scopes) s = rows s :=
        if_pos (.inr List.mem_cons_self)
      have hnext : nextRows rows transitions gap sampleId heartbeatAt s =
          healthRow (rows s) (transitions s) sampleId heartbeatAt := if_neg hne
      have hcheck := hchecks s
      have hsample' := hsamples s
      rw [hnext] at hcheck hsample'
      have hupdate : Function.update (rowsDone rows transitions sampleId heartbeatAt (s :: scopes)) s
          (healthRow (rows s) (transitions s) sampleId heartbeatAt) =
          rowsDone rows transitions sampleId heartbeatAt scopes := by
        funext s'
        unfold rowsDone
        by_cases hs' : s' = s
        · subst hs'
          rw [Function.update_self, if_neg (by simp [hne, hs])]
        · rw [Function.update_of_ne hs']
          simp [hs']
      have hwrite := post_updateRow (rowsDone rows transitions sampleId heartbeatAt (s :: scopes)) s
        (f := fun r => { r with
          currentStatus := (transitions s).state.currentStatus
          candidateStatus := (transitions s).state.candidateStatus
          consecutiveCount := (transitions s).state.consecutiveCount
          lastSampleId := sampleId <|> (rows s).lastSampleId
          lastHeartbeatAtUtcUs := heartbeatAt <|> (rows s).lastHeartbeatAtUtcUs })
        (by rw [htables]; exact fun _ => rfl)
        (by rw [hrow]; exact hcheck)
        (by rw [hrow, htables]; exact hsample')
      refine hwrite.mono ?_ (fun _ h => h)
      rintro _ m' ⟨htables', hidentity'⟩
      refine ⟨scopes, rfl, hrest, fun h => hsampling (List.mem_cons_of_mem _ h), ?_,
        hidentity'.trans hidentity⟩
      rw [htables', hrow, ← hupdate, htables]
      rfl
  -- at the start every health scope is still to come
  · have hall : rowsDone rows transitions sampleId heartbeatAt healthScopes = rows := by
      funext s
      exact if_pos (by rw [mem_healthScopes]; tauto)
    rw [hall]
    unfold Tables.withRows
    rw [← funext hstored]
  -- the row of the sampling scope is written last, by itself
  · rintro _ m ⟨scopes, hnil, -, -, htables, hidentity⟩
    obtain rfl := List.map_eq_nil_iff.mp hnil.symm
    have hrow : rowsDone rows transitions sampleId heartbeatAt [] .sampling = rows .sampling :=
      if_pos (.inl rfl)
    have hnext : nextRows rows transitions gap sampleId heartbeatAt .sampling =
        gapRow (rows .sampling) gap sampleId heartbeatAt := if_pos rfl
    have hcheck := hchecks .sampling
    have hsample' := hsamples .sampling
    rw [hnext] at hcheck hsample'
    have hupdate : Function.update (rowsDone rows transitions sampleId heartbeatAt []) .sampling
        (gapRow (rows .sampling) gap sampleId heartbeatAt) =
        nextRows rows transitions gap sampleId heartbeatAt := by
      funext s
      by_cases hs : s = .sampling
      · subst hs
        rw [Function.update_self, hnext]
      · rw [Function.update_of_ne hs]
        simp [rowsDone, nextRows, hs]
    have hwrite := post_updateRow (rowsDone rows transitions sampleId heartbeatAt []) .sampling
      (f := fun r => { r with
        consecutiveCount := gap.state.largestMissedIntervalReport
        lastSampleId := sampleId <|> (rows .sampling).lastSampleId
        lastHeartbeatAtUtcUs := heartbeatAt <|> (rows .sampling).lastHeartbeatAtUtcUs
        gapPhase := gap.state.phase })
      (by rw [htables]; exact fun _ => rfl)
      (by rw [hrow]; exact hcheck)
      (by rw [hrow, htables]; exact hsample')
    refine hwrite.mono ?_ (fun _ h => h)
    rintro _ m' ⟨htables', hidentity'⟩
    refine ⟨?_, hidentity'.trans hidentity⟩
    rw [htables', hrow, ← hupdate, htables]
    rfl

/-! ## The ledger -/

/-- The checkpoint after one more accepted observation. -/
def Ingestion.Checkpoint.next (c : Checkpoint) (p : HealthProjection) : Checkpoint where
  latest := some (acceptedEntry (acceptedRow p))
  acceptedCount := min (c.acceptedCount + 1) maxBoundedCounter

/-- The last entries of a log. -/
def ledgerOf (log : List AcceptedObservationRow) : List AcceptedObservationRow :=
  log.rtake replayLedgerCapacity

/-- The ledger may be cut off at every step or once at the end. -/
theorem ledgerOf_append (log more : List AcceptedObservationRow) :
    ledgerOf (ledgerOf log ++ more) = ledgerOf (log ++ more) := rtake_append_rtake log more

/-- A new observation is above the whole ledger. -/
theorem Ingestion.Anchored.below {t : Tables} {c : Checkpoint} (h : Anchored t c) {sequence : Int}
    (hbelow : c.Below sequence) : ∀ r ∈ t.replay.rows, r.observationSequence < sequence := by
  intro r hr
  cases hlast : t.replay.rows.getLast? with
  | none =>
    rw [List.getLast?_eq_none_iff.mp hlast] at hr
    exact absurd hr List.not_mem_nil
  | some last =>
    have hlatest := h.latest
    rw [hlast] at hlatest
    have hle := Table.le_getLast hlast r hr
    have hlt : sequence > last.observationSequence := by
      refine hbelow _ ?_
      unfold Checkpoint.sequence
      rw [← hlatest]
      rfl
    omega

/-- Pruning keeps the last entries. -/
theorem pruned_rows (t : Table AcceptedObservationRow.observationSequence) :
    (∀ oldest, t.rows.reverse[replayLedgerCapacity - 1]? = some oldest →
      (t.delete fun r => r.observationSequence < oldest.observationSequence).rows =
        ledgerOf t.rows) ∧
    (t.rows.reverse[replayLedgerCapacity - 1]? = none → t.rows = ledgerOf t.rows) := by
  constructor
  · intro oldest h
    have hlength : replayLedgerCapacity ≤ t.rows.length := by
      have := (List.getElem?_eq_some_iff.mp h).1
      rw [List.length_reverse] at this
      unfold replayLedgerCapacity at *
      omega
    rw [List.getElem?_reverse (by unfold replayLedgerCapacity at *; omega)] at h
    rw [Table.delete_lt_rows t h]
    unfold ledgerOf List.rtake
    congr 1
  · intro h
    have hlength := List.getElem?_eq_none_iff.mp h
    rw [List.length_reverse] at hlength
    unfold ledgerOf List.rtake
    rw [show t.rows.length - replayLedgerCapacity = 0 by
      unfold replayLedgerCapacity at *; omega]
    rfl

/-- The checkpoint row of the next checkpoint is no regression. -/
theorem not_checkpointRegression {c : Checkpoint} {p : HealthProjection}
    (hcount : Bounded maxBoundedCounter c.acceptedCount) (hbelow : c.Below p.observationSequence) :
    ¬checkpointRegression c.row (c.next p).row := by
  rintro (h | ⟨last, hlast, h⟩ | ⟨h, -⟩)
  · unfold Checkpoint.next Checkpoint.row Bounded maxBoundedCounter at *
    dsimp only at *
    omega
  · have hlt := hbelow last hlast
    rcases h with h | ⟨next, hnext, h⟩
    · cases h
    · obtain rfl : p.observationSequence = next := Option.some.inj hnext
      omega
  · have hlt := hbelow p.observationSequence h.symm
    omega

/-- The new observation is entered into the ledger. -/
theorem post_insertReplayRow {db : Database} {p : HealthProjection} (hp : p.Checked)
    (hnew : ∀ r ∈ db.replay.rows, r.observationSequence < p.observationSequence) :
    Post (execute (insertReplayRow p)) db
      (fun _ db' => db'.toTables = { db.toTables with
          replay := db.replay.append (acceptedRow p) hnew } ∧ db'.identity = db.identity)
      (fun _ => False) := by
  have hinsert : db.replay.insert (acceptedRow p) = some (db.replay.append (acceptedRow p) hnew) :=
    Table.insert_of_lt hnew
  have hrun : insertReplayRow p db = (db.write { db.toTables with
      replay := db.replay.append (acceptedRow p) hnew }).map fun db' => ((), db') := by
    unfold insertReplayRow
    rw [hinsert]
  exact Post.written hrun (db.consistent.replaceReplay (Table.forall_mem_append hnew
    db.consistent.replayCheck ⟨hp.sequence, hp.observedAt, hp.digestLength⟩))
      fun _ ht hi => ⟨ht, hi⟩

theorem post_pruneReplayRows (db : Database) :
    Post (execute pruneReplayRows) db
      (fun _ db' => ∃ replay : Table AcceptedObservationRow.observationSequence,
        replay.rows = ledgerOf db.replay.rows ∧
        db'.toTables = { db.toTables with replay := replay } ∧ db'.identity = db.identity)
      (fun _ => False) := by
  cases holdest : db.replay.rows.reverse[replayLedgerCapacity - 1]? with
  | none =>
    have hrun : pruneReplayRows db = .ok ((), db) := by
      unfold pruneReplayRows
      rw [holdest]
    exact Post.execute_ok hrun ⟨db.replay, (pruned_rows db.replay).2 holdest, rfl, rfl⟩
  | some oldest =>
    have hrun : pruneReplayRows db = (db.write { db.toTables with
        replay := db.replay.delete fun r =>
          r.observationSequence < oldest.observationSequence }).map fun db' => ((), db') := by
      unfold pruneReplayRows
      rw [holdest]
    exact Post.written hrun
      (db.consistent.replaceReplay fun r hr => db.consistent.replayCheck r (List.mem_filter.mp hr).1)
      fun _ ht hi => ⟨_, (pruned_rows db.replay).1 oldest holdest, ht, hi⟩

/-- The next checkpoint passes the checks of its table. -/
theorem Ingestion.Checkpoint.next_check {c : Checkpoint} {p : HealthProjection} (hp : p.Checked)
    (hcount : Bounded maxBoundedCounter c.acceptedCount) : (c.next p).row.Check := by
  have hnext : Bounded maxBoundedCounter (c.next p).acceptedCount ∧
      (c.next p).acceptedCount ≥ 1 := by
    unfold Checkpoint.next Bounded maxBoundedCounter at *
    dsimp only
    omega
  refine ⟨(boundedOption_some _ _).mpr hp.sequence, (boundedOption_some _ _).mpr hp.observedAt,
    fun d hd => ?_, hnext.1, .inr ⟨?_, ?_, ?_, hnext.2, ?_⟩⟩
  · rw [← Option.some.inj hd]
    exact hp.digestLength
  all_goals simp [Checkpoint.row, Checkpoint.next]

/-- The checkpoint moves to the new observation. -/
theorem post_updateCheckpoint {db : Database} {c : Checkpoint} {p : HealthProjection}
    (hrow : db.checkpoint = some c.row) (hbelow : c.Below p.observationSequence)
    (hp : p.Checked) :
    Post (execute (updateCheckpoint c (c.next p).row)) db
      (fun rowcount db' => rowcount = 1 ∧
        db'.toTables = { db.toTables with checkpoint := some (c.next p).row } ∧
        db'.identity = db.identity)
      (fun _ => False) := by
  have hcheckpoint : c.row.Check := db.consistent.checkpointCheck _ hrow
  have hcount : Bounded maxBoundedCounter c.acceptedCount := hcheckpoint.2.2.2.1
  have hrun : updateCheckpoint c (c.next p).row db = (db.write { db.toTables with
      checkpoint := some (c.next p).row }).map fun db' => (1, db') := by
    unfold updateCheckpoint
    rw [hrow]
    dsimp only
    rw [if_pos ⟨rfl, rfl⟩, if_neg (not_checkpointRegression hcount hbelow)]
  exact Post.written hrun (db.consistent.replaceCheckpoint (c.next_check hp hcount))
    fun _ ht hi => ⟨rfl, ht, hi⟩

/-- The ledger gets the new entry and the checkpoint follows; no constraint and no trigger gets in
    the way. -/
theorem post_writeCheckpointAndReplayLedger {db : Database} {c : Checkpoint} {p : HealthProjection}
    (hanchored : Anchored db.toTables c) (hbelow : c.Below p.observationSequence)
    (hp : p.Checked) :
    Post (writeCheckpointAndReplayLedger c p) db
      (fun _ db' => ∃ replay : Table AcceptedObservationRow.observationSequence,
        replay.rows = ledgerOf (db.replay.rows ++ [acceptedRow p]) ∧
        db'.toTables = { db.toTables with replay := replay, checkpoint := some (c.next p).row } ∧
        db'.identity = db.identity)
      (fun _ => False) := by
  unfold writeCheckpointAndReplayLedger
  refine Post.bind (R := fun _ m => db = m) (Post.trusted hbelow rfl) ?_
  rintro _ _ rfl
  refine Post.bind (post_insertReplayRow hp (hanchored.below hbelow)) ?_
  rintro _ m ⟨htables, hidentity⟩
  refine Post.bind (post_pruneReplayRows m) ?_
  rintro _ n ⟨replay, hrows, htables', hidentity'⟩
  have hrow : n.checkpoint = some c.row := by
    rw [htables', htables]
    exact hanchored.checkpoint
  refine Post.bind (post_updateCheckpoint hrow hbelow hp) ?_
  rintro _ db' ⟨rfl, htables'', hidentity''⟩
  refine Post.trusted rfl ⟨replay, ?_, ?_, ?_⟩
  · rw [hrows, htables]
    rfl
  · rw [htables'', htables', htables]
  · rw [hidentity'', hidentity', hidentity]

end Aurora.HealthHistory
