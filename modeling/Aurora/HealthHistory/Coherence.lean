/-
  Coherent databases: what the ingest path keeps true beyond the constraints of the schema.

  The constraints speak about single rows and pairs of rows.  The reading half of the ingest path
  relies on more: the ledger is anchored at the checkpoint, the six evaluator rows name one baseline
  sample, every sample row and its components hold a valid projection, and of each (scope, kind) pair
  only the last alert may not be archived.  The second half of this file shows that on a coherent
  database every read succeeds, and what it returns.
-/
import Aurora.HealthHistory.Atomicity

namespace Aurora.HealthHistory

open Ingestion

/-! ## The components of a checked projection -/

namespace HealthProjection

/-- The four components of a checked projection, in their order. -/
theorem Checked.four {p : HealthProjection} (h : p.Checked) :
    ∃ w y c r, p.components = [w, y, c, r] ∧ w.component = .wled ∧ y.component = .hyperhdr ∧
      c.component = .capture ∧ r.component = .raspberryPi := by
  have horder := h.order
  have hlength : p.components.length = 4 := by
    rw [← List.length_map ComponentProjection.component, horder]
    rfl
  match hcomponents : p.components, hlength with
  | [w, y, c, r], _ =>
    rw [hcomponents] at horder
    simp only [List.map_cons, List.map_nil, componentOrder, List.cons.injEq, and_true] at horder
    exact ⟨w, y, c, r, rfl, horder⟩

/-- Looking the components up by name gives them in their order. -/
theorem Checked.ordered {p : HealthProjection} (h : p.Checked) :
    (componentOrder.filterMap fun name => p.components.find? fun c => c.component = name) =
      p.components := by
  obtain ⟨w, y, c, r, hcomponents, hw, hy, hc, hr⟩ := h.four
  rw [hcomponents]
  simp [componentOrder, hw, hy, hc, hr]

end HealthProjection

/-! ## Checked alert rows -/

namespace AlertRow

/-- The checks of an alert row make its recovery time and its lifecycle agree. -/
theorem Check.terminal {r : AlertRow} (h : r.Check) :
    r.lifecycle.Terminal ↔ r.recoveredAtUtcUs.isSome = true := by
  have h₁ := h.terminalRecovered
  have h₂ := h.recoveredTerminal
  cases hr : r.recoveredAtUtcUs with
  | none =>
    rw [hr] at h₁
    simpa using h₁
  | some at_ =>
    rw [hr] at h₂
    simpa using h₂

/-- Only a gap alert is of the sampling scope. -/
theorem Check.samplingGap {r : AlertRow} (h : r.Check) :
    r.scope = .sampling ↔ r.kind = .samplingGap := by
  rcases h.scopeKind with ⟨h₁, h₂⟩ | ⟨h₁, h₂⟩
  · exact iff_of_true h₁ h₂
  · exact iff_of_false h₁ h₂

end AlertRow

/-! ## The ledger -/

namespace Ingestion

/-- The checkpoint row a checkpoint is decoded from. -/
def Checkpoint.row (c : Checkpoint) : IngestionCheckpointRow where
  lastCommittedSequence := c.latest.map ReplayEntry.sequence
  lastAcceptedObservedAtUtcUs := c.latest.map ReplayEntry.observedAt
  lastAcceptedProjectionDigest := c.latest.map ReplayEntry.digest
  lastAcceptedSampleKind := c.latest.map ReplayEntry.sampleKind
  acceptedObservationCount := c.acceptedCount

/-- The stored checkpoint and the ledger: at most 64 entries, the newest one the checkpoint's. -/
structure Anchored (t : Tables) (c : Checkpoint) : Prop where
  checkpoint : t.checkpoint = some c.row
  length : (t.replay.rows.length : Int) = min c.acceptedCount replayLedgerCapacity
  latest : t.replay.rows.getLast?.map acceptedEntry = c.latest

theorem trust_pos {p : Prop} [Decidable p] (h : p) : trust p = .ok () := require_pos h

/-- A checkpoint that was stored is decoded. -/
theorem decodeCheckpoint_row {c : Checkpoint} (h : c.row.Check) :
    decodeCheckpoint (some c.row) = .ok c := by
  obtain ⟨latest, count⟩ := c
  obtain ⟨hsequence, hobserved, hdigest, hcount, hshape⟩ := h
  unfold decodeCheckpoint
  dsimp only
  rw [trust_pos hcount, ok_bind]
  cases latest with
  | none =>
    have hzero : count = 0 := by
      rcases hshape with h | h
      · exact h.2.2.2.1
      · exact absurd rfl h.1
    subst hzero
    rfl
  | some e =>
    have hone : count ≥ 1 := by
      rcases hshape with h | h
      · exact absurd h.1 (by simp [Checkpoint.row])
      · exact h.2.2.2.1
    have hall : Bounded maxObservationSequence e.sequence ∧ Bounded maxTimestampUs e.observedAt ∧
        e.digest.length = projectionDigestBytes ∧ count ≥ 1 :=
      ⟨(boundedOption_some _ _).mp hsequence, (boundedOption_some _ _).mp hobserved,
        hdigest _ rfl, hone⟩
    exact bind_eq_ok.mpr ⟨(), trust_pos hall, rfl⟩

/-- On an anchored ledger the classification starts from its checkpoint. -/
theorem Anchored.anchoredCheckpoint {db : Database} {c : Checkpoint} (h : Anchored db.toTables c) :
    anchoredCheckpoint db = .ok c := by
  have hdecode : decodeCheckpoint db.checkpoint = .ok c := by
    rw [h.checkpoint]
    exact decodeCheckpoint_row (db.consistent.checkpointCheck _ h.checkpoint)
  have hlength : db.replay.rows.length ≤ replayLedgerCapacity := by
    have := h.length
    omega
  have hrows : newestReplayRows db = db.replay.rows.reverse :=
    List.take_of_length_le (by rw [List.length_reverse]; omega)
  have hentries : db.replay.rows.reverse.mapM replayEntry =
      .ok (db.replay.rows.reverse.map acceptedEntry) := by
    rw [mapM_eq_ok, List.forall₂_map_right_iff, List.forall₂_same]
    intro row hrow
    exact replayEntry_of_check (db.consistent.replayCheck row (List.mem_reverse.mp hrow))
  unfold Ingestion.anchoredCheckpoint checkReplayAnchor
  rw [hdecode, ok_bind, hrows, List.length_reverse, trust_pos h.length, ok_bind]
  by_cases hlatest : c.latest = none
  · rw [if_neg (not_not.mpr hlatest)]
    rfl
  · rw [if_pos hlatest, hentries, ok_bind, trust_pos]
    · rfl
    · rw [← h.latest, List.head?_map, List.head?_reverse]

/-- An anchored ledger has one checkpoint. -/
theorem Anchored.unique {db : Database} {c c' : Checkpoint} (h : Anchored db.toTables c)
    (h' : Ingestion.anchoredCheckpoint db = .ok c') : c' = c := by
  rw [h.anchoredCheckpoint] at h'
  exact (Except.ok.inj h').symm

/-! ## The evaluator rows -/

/-- The six evaluator rows, which all name the same baseline sample; with a baseline they have a time
    of the last heartbeat. -/
structure Evaluators (t : Tables) (rows : EvaluationRows) (baseline : Option Int) : Prop where
  stored : ∀ s, t.evaluation s = some (rows s)
  agree : ∀ s, (rows s).lastSampleId = baseline
  heartbeat : baseline ≠ none → ∀ s, (rows s).lastHeartbeatAtUtcUs ≠ none

theorem mem_alertScopes (s : AlertScope) : s ∈ alertScopes := by
  cases s <;> decide

/-- The row of a health scope passes the constructor of its state. -/
theorem newState_of_check {s : AlertScope} {r : EvaluationStateRow} (hs : s ≠ .sampling)
    (h : r.Check s) :
    ∃ state, HealthEvaluationState.new? r.currentStatus r.candidateStatus r.consecutiveCount =
      .ok state := by
  obtain ⟨hcount, -, -, -, hshape⟩ := h
  rcases hshape with ⟨hsampling, -⟩ | ⟨-, -, hcandidate, hcurrent⟩
  · exact absurd hsampling hs
  · have h₁ : r.candidateStatus = none ↔ r.consecutiveCount = 0 := by
      rcases hcandidate with ⟨hn, hz⟩ | ⟨hn, hz, -⟩
      · exact iff_of_true hn hz
      · exact iff_of_false hn (by omega)
    have h₂ : r.candidateStatus = none ∨ r.candidateStatus = r.currentStatus := by
      rcases hcandidate with ⟨hn, -⟩ | ⟨-, -, he⟩
      · exact .inl hn
      · exact .inr he
    have h₃ : r.currentStatus = none → r.candidateStatus = none ∧ r.consecutiveCount = 0 :=
      fun hn => hcurrent.resolve_left (not_not.mpr hn)
    unfold HealthEvaluationState.new?
    rw [dif_pos hcount, dif_pos h₁, dif_pos h₂, dif_pos h₃]
    exact ⟨_, rfl⟩

/-- An evaluation row that passed the constraints passes the decoder. -/
theorem checkEvaluationRow_of_check {s : AlertScope} {r : EvaluationStateRow} (h : r.Check s) :
    checkEvaluationRow (s, r) = .ok () := by
  obtain ⟨hcount, hsample, hheartbeat, hcooldown, hshape⟩ := id h
  have hpositive : ∀ i ∈ r.lastSampleId, 1 ≤ i := hsample
  unfold checkEvaluationRow
  dsimp only
  rw [trust_pos hcount, ok_bind, trust_pos hpositive, ok_bind,
    trust_pos ⟨hheartbeat, hcooldown⟩, ok_bind]
  rcases hshape with ⟨rfl, hnone⟩ | ⟨hs, hgap, -⟩
  · rw [if_neg (by simp), trust_pos hnone]
  · obtain ⟨state, hstate⟩ := newState_of_check hs h
    rw [if_pos hs, hstate]
    exact trust_pos hgap

/-- The evaluator rows are read as they are stored. -/
theorem Evaluators.read {db : Database} {rows : EvaluationRows} {baseline : Option Int}
    (h : Evaluators db.toTables rows baseline) :
    readEvaluationRows.run db = .ok (rows, db) := by
  have hselect : selectEvaluationRows db = scopesByText.map fun s => (s, rows s) := by
    unfold selectEvaluationRows
    simp only [h.stored, Option.map_some]
    rfl
  have hcheck : (scopesByText.map fun s => (s, rows s)).forM checkEvaluationRow = .ok () := by
    rw [forM_eq_ok]
    intro entry hentry
    obtain ⟨s, -, rfl⟩ := List.mem_map.mp hentry
    exact checkEvaluationRow_of_check
      (db.consistent.evaluationCheck s (mem_alertScopes s) _ (h.stored s))
  have hdecode : decodeEvaluationRows (scopesByText.map fun s => (s, rows s)) = .ok rows := by
    have hlength : (scopesByText.map fun s => (s, rows s)).length = alertScopes.length := rfl
    have hall : ∀ s ∈ alertScopes, s ∈ (scopesByText.map fun s => (s, rows s)).map Prod.fst := by
      intro s _
      have hs : s ∈ scopesByText := by cases s <;> decide
      exact List.mem_map.mpr ⟨(s, rows s), List.mem_map.mpr ⟨s, hs, rfl⟩, rfl⟩
    unfold decodeEvaluationRows
    rw [trust_pos hlength, ok_bind, hcheck, ok_bind, trust_pos hall, ok_bind]
    refine congrArg Except.ok (funext fun s => ?_)
    cases s <;> rfl
  unfold readEvaluationRows attempt select
  rw [Script.run_bind, Script.run_read]
  dsimp only
  rw [Script.run_ofExcept, hselect, hdecode]
  rfl

/-! ## Stored samples -/

/-- The rows of a sample: those of a valid projection. -/
structure Holds (t : Tables) (r : HealthSampleRow) (p : HealthProjection) : Prop where
  valid : p.Valid
  row : r = sampleRow p r.sampleKind r.id
  components : List.Forall₂ (fun c row => componentRow r.id c = .ok row) p.components
    (t.components.filter fun row => row.sampleId = r.id)

/-- Sample ids are positive, sequences increase with them, and every sample holds a projection. -/
structure History (t : Tables) : Prop where
  positive : ∀ r ∈ t.samples.rows, 1 ≤ r.id
  increasing : t.samples.rows.Pairwise fun a b => a.observationSequence < b.observationSequence
  holds : ∀ r ∈ t.samples.rows, ∃ p, Holds t r p

/-- What a component row was made from is read back from it. -/
theorem projection_componentRow {id : Int} {c : ComponentProjection} {row : ComponentSampleRow}
    (hc : c.Valid) (h : componentRow id c = .ok row) : row.projection = c := by
  have hlength := hc.short.trans (maximumReasons_le _)
  obtain ⟨component, status, reasons, checkedAt, latency, last⟩ := c
  unfold componentRow at h
  match reasons, hlength with
  | [], _ => cases h
  | [r₁], _ =>
    obtain rfl := Except.ok.inj h
    rfl
  | [r₁, r₂], _ =>
    obtain rfl := Except.ok.inj h
    rfl
  | [r₁, r₂, r₃], _ =>
    obtain rfl := Except.ok.inj h
    rfl
  | _ :: _ :: _ :: _ :: _, hlong =>
    simp only [List.length_cons] at hlong
    omega

/-- The rows of a sample rebuild the projection they hold. -/
theorem Holds.rebuild {t : Tables} {r : HealthSampleRow} {p : HealthProjection}
    (h : Holds t r p) :
    rebuildProjection r (t.components.filter fun row => row.sampleId = r.id) = .ok p := by
  have hlength : (t.components.filter fun row => row.sampleId = r.id).length =
      componentOrder.length := by
    rw [← h.components.length_eq, ← h.valid.order, List.length_map]
  have hrows : (t.components.filter fun row => row.sampleId = r.id).map
      ComponentSampleRow.projection = p.components := by
    have hcomponents := h.components
    have hvalid := h.valid.components
    generalize (t.components.filter fun row => row.sampleId = r.id) = rows at hcomponents
    generalize p.components = components at hcomponents hvalid
    induction hcomponents with
    | nil => rfl
    | @cons c row _ _ hrow _ ih =>
      rw [List.map_cons, projection_componentRow (hvalid c List.mem_cons_self) hrow,
        ih fun c hc => hvalid c (List.mem_cons_of_mem _ hc)]
  have hchecks : p.components.forM ComponentProjection.check = .ok () :=
    forM_eq_ok.mpr fun c hc => ComponentProjection.check_eq_ok.mpr (h.valid.components c hc)
  have hnodup : (p.components.map ComponentProjection.component).Nodup := by
    rw [h.valid.order]
    decide
  have hordered : p.components.length = componentOrder.length := by
    rw [← h.valid.order, List.length_map]
  have hprojection : (⟨1, r.observationSequence, r.observedAtUtcUs, r.recordedAtUtcUs,
      r.overallStatus, r.serviceUptimeMs, r.acceptedSampleKind, r.missedIntervals, p.components,
      r.projectionDigest⟩ : HealthProjection) = p := by
    rw [h.row]
    have := h.valid.schemaVersion
    cases p
    simp only at this
    subst this
    rfl
  unfold rebuildProjection
  rw [require_pos hlength, ok_bind]
  dsimp only
  rw [hrows, hchecks, ok_bind, require_pos hnodup, ok_bind, h.valid.toChecked.ordered,
    require_pos hordered, ok_bind, hprojection, validateHealthProjection_eq_ok.mpr h.valid]
  rfl

/-- All component rows of the sample are selected. -/
theorem Holds.selected {db : Database} {r : HealthSampleRow} {p : HealthProjection}
    (h : Holds db.toTables r p) :
    selectComponents r.id db = db.components.filter fun row => row.sampleId = r.id := by
  refine List.take_of_length_le ?_
  rw [← h.components.length_eq]
  have hlength := congrArg List.length h.valid.order
  rw [List.length_map] at hlength
  rw [hlength]
  decide

/-- A sample at or below the checkpoint is read as the content it holds. -/
theorem Holds.read {db : Database} {r : HealthSampleRow} {p : HealthProjection}
    {last : Option Int} (h : Holds db.toTables r p) (hr : r ∈ db.samples.rows)
    (hlast : ∃ l ∈ last, r.observationSequence ≤ l) :
    (readBaselineSample r.id last).run db = .ok (p.content, db) := by
  have hfind : db.samples.find? r.id = some r := Table.find?_eq_some.mpr ⟨hr, rfl⟩
  have hcheck : checkBaselineSample last (some r) = .ok r := by
    unfold checkBaselineSample
    dsimp only
    rw [trust_pos (db.consistent.sampleCheck r hr), ok_bind, trust_pos hlast]
    rfl
  unfold readBaselineSample attempt select
  simp only [Script.run_bind, Script.run_read, Script.run_ofExcept, hfind, hcheck, map_ok,
    h.selected,
    h.rebuild, constructTrusted, Script.run_pure]

/-! ## Alerts -/

/-- Ids are positive, and every alert but the last of its pair is archived. -/
structure LiveLast (t : Tables) : Prop where
  positive : ∀ r ∈ t.alerts.rows, 1 ≤ r.id
  earlier : t.alerts.rows.Pairwise fun a b => a.pair = b.pair → a.lifecycle = .archived
  events : ∀ e ∈ t.events.rows, 1 ≤ e.id

/-- A stored alert holds the fields of a row. -/
structure StoredAlert.Of (s : StoredAlert) (r : AlertRow) : Prop where
  alertId : s.alertId = r.id
  scope : s.state.scope = r.scope
  kind : s.state.kind = r.kind
  lifecycle : s.state.lifecycle = r.lifecycle
  generation : s.state.generation = r.episodeCount
  occurrenceCount : s.state.occurrenceCount = r.occurrenceCount
  cooldown : s.state.cooldownUntilUtcUs = r.cooldownUntilUtcUs
  recoveredAt : s.state.recoveredAtUtcUs = r.recoveredAtUtcUs

/-- A row with a positive id that passes its checks is read. -/
theorem storedAlert_of_check {r : AlertRow} (hid : 1 ≤ r.id) (h : r.Check) :
    ∃ s : StoredAlert, storedAlert r = .ok s ∧ s.Of r := by
  unfold storedAlert AutomaticAlertState.new?
  rw [trust_pos hid, ok_bind, dif_pos h.episodeCount, dif_pos h.occurrenceCount,
    dif_pos h.cooldownUntil, dif_pos h.recoveredAt, dif_pos h.terminal, dif_pos h.samplingGap]
  exact ⟨_, rfl, ⟨rfl, rfl, rfl, rfl, rfl, rfl, rfl, rfl⟩⟩

theorem storedAlerts_of_check {rows : List AlertRow} (h : ∀ r ∈ rows, 1 ≤ r.id ∧ r.Check) :
    ∃ stored, rows.mapM storedAlert = .ok stored ∧
      List.Forall₂ (fun r (s : StoredAlert) => s.Of r) rows stored := by
  induction rows with
  | nil => exact ⟨[], rfl, .nil⟩
  | cons r rows ih =>
    obtain ⟨hr, hrows⟩ := List.forall_mem_cons.mp h
    obtain ⟨s, hs, hof⟩ := storedAlert_of_check hr.1 hr.2
    obtain ⟨stored, hstored, hall⟩ := ih hrows
    refine ⟨s :: stored, ?_, .cons hof hall⟩
    rw [List.mapM_cons, hs, ok_bind, hstored]
    rfl

theorem mem_pairRows {db : Database} {q : AlertPair} {r : AlertRow} :
    r ∈ pairRows db q ↔ r ∈ db.alerts.rows ∧ r.pair = q := by
  unfold pairRows
  rw [List.mem_filter, decide_eq_true_eq]

theorem mem_activeRows {db : Database} {q : AlertPair} {r : AlertRow} :
    r ∈ activeRows db q ↔ r ∈ db.alerts.rows ∧ r.pair = q ∧ r.lifecycle.Active := by
  unfold activeRows
  rw [List.mem_filter, mem_pairRows, decide_eq_true_eq, and_assoc]

/-- The rows of a pair: none, or archived ones followed by one more. -/
theorem LiveLast.pairRows_cases {db : Database} (h : LiveLast db.toTables) (q : AlertPair) :
    pairRows db q = [] ∨ ∃ earlier r, pairRows db q = earlier ++ [r] ∧
      ∀ a ∈ earlier, a.lifecycle = .archived := by
  rcases List.eq_nil_or_concat (pairRows db q) with hnil | ⟨earlier, r, hrows⟩
  · exact .inl hnil
  · rw [List.concat_eq_append] at hrows
    refine .inr ⟨earlier, r, hrows, fun a ha => ?_⟩
    have hpair : ∀ x ∈ earlier ++ [r], x.pair = q := fun x hx => by
      rw [← hrows] at hx
      exact (mem_pairRows.mp hx).2
    have hearlier : (pairRows db q).Pairwise
        fun a b => a.pair = b.pair → a.lifecycle = .archived := h.earlier.filter _
    rw [hrows] at hearlier
    refine (List.pairwise_append.mp hearlier).2.2 a ha r List.mem_cons_self ?_
    rw [hpair a (List.mem_append_left _ ha), hpair r (by simp)]

/-- Of a pair only the last row can be active. -/
theorem LiveLast.activeRows_eq {db : Database} (h : LiveLast db.toTables) (q : AlertPair) :
    activeRows db q = (pairRows db q).getLast?.toList.filter fun r => r.lifecycle.Active := by
  unfold activeRows
  rcases h.pairRows_cases q with hnil | ⟨earlier, r, hrows, harchived⟩
  · rw [hnil]
    rfl
  · have hnone : earlier.filter (fun r => r.lifecycle.Active) = [] := by
      rw [List.filter_eq_nil_iff]
      intro a ha
      rw [harchived a ha]
      decide
    rw [hrows, List.filter_append, hnone, List.getLast?_append_of_ne_nil _ (by simp)]
    rfl

theorem LiveLast.length_activeRows {db : Database} (h : LiveLast db.toTables) (q : AlertPair) :
    (activeRows db q).length ≤ 1 := by
  rw [h.activeRows_eq]
  refine (List.length_filter_le _ _).trans ?_
  cases (pairRows db q).getLast? <;> simp

theorem LiveLast.check {db : Database} (h : LiveLast db.toTables) {r : AlertRow}
    (hr : r ∈ db.alerts.rows) : 1 ≤ r.id ∧ r.Check :=
  ⟨h.positive r hr, db.consistent.alertCheck r hr⟩

/-- The active alerts of a health scope are read. -/
theorem LiveLast.run_activeHealthAlerts {db : Database} (h : LiveLast db.toTables)
    (scope : AlertScope) :
    ∃ stored, (activeHealthAlerts scope).run db = .ok (stored, db) ∧
      List.Forall₂ (fun r (s : StoredAlert) => s.Of r)
        (activeRows db (scope, .degraded) ++ activeRows db (scope, .unavailable)) stored := by
  have hlength : (activeRows db (scope, .degraded) ++
      activeRows db (scope, .unavailable)).length ≤ 2 := by
    have h₁ := h.length_activeRows (scope, .degraded)
    have h₂ := h.length_activeRows (scope, .unavailable)
    rw [List.length_append]
    omega
  have htake : selectActiveHealthAlerts scope db =
      activeRows db (scope, .degraded) ++ activeRows db (scope, .unavailable) :=
    List.take_of_length_le (by omega)
  have hcheck : ∀ r ∈ activeRows db (scope, .degraded) ++ activeRows db (scope, .unavailable),
      1 ≤ r.id ∧ r.Check := fun r hr => by
    rcases List.mem_append.mp hr with hr | hr
    · exact h.check (mem_activeRows.mp hr).1
    · exact h.check (mem_activeRows.mp hr).1
  obtain ⟨stored, hstored, hall⟩ := storedAlerts_of_check hcheck
  refine ⟨stored, ?_, hall⟩
  unfold activeHealthAlerts attempt select
  simp only [Script.run_bind, Script.run_read, Script.run_ofExcept, htake, trust_pos hlength,
    map_ok, hstored]

/-- The current or else the latest alert of a pair is its last row. -/
theorem LiveLast.run_currentOrLatestAlert {db : Database} (h : LiveLast db.toTables)
    (scope : AlertScope) (kind : AlertKind) :
    ∃ stored, (currentOrLatestAlert scope kind).run db = .ok (stored, db) ∧
      Option.Rel (fun (s : StoredAlert) r => s.Of r) stored
        (pairRows db (scope, kind)).getLast? := by
  have hactive := h.activeRows_eq (scope, kind)
  have htrust : trust ((activeRows db (scope, kind)).length ≤ 1) = .ok () :=
    trust_pos (h.length_activeRows _)
  have htake : selectCurrentActiveAlert scope kind db =
      (activeRows db (scope, kind)).reverse :=
    List.take_of_length_le (by
      have := h.length_activeRows (scope, kind)
      rw [List.length_reverse]
      omega)
  unfold currentOrLatestAlert attempt select
  simp only [Script.run_bind, Script.run_read, Script.run_ofExcept, htake, List.length_reverse,
    htrust, map_ok]
  rcases h.pairRows_cases (scope, kind) with hnil | ⟨earlier, r, hrows, harchived⟩
  · have hlatest : selectLatestTerminalAlert scope kind db = none := by
      unfold selectLatestTerminalAlert
      rw [hnil]
      rfl
    rw [hactive, hnil]
    exact ⟨none, by simp [hlatest, Script.run_bind], .none⟩
  · have hmem : r ∈ db.alerts.rows :=
      (mem_pairRows.mp (hrows ▸ List.mem_append_right _ List.mem_cons_self)).1
    obtain ⟨s, hs, hof⟩ := storedAlert_of_check (h.check hmem).1 (h.check hmem).2
    have hlast : (pairRows db (scope, kind)).getLast? = some r := by
      rw [hrows, List.getLast?_append_of_ne_nil _ (by simp)]
      rfl
    rw [hactive, hlast]
    refine ⟨some s, ?_, .some hof⟩
    by_cases hr : r.lifecycle.Active
    · simp [hr, hs]
    · have hlatest : selectLatestTerminalAlert scope kind db = some r := by
        unfold selectLatestTerminalAlert
        rw [hrows, List.filter_append, List.getLast?_append_of_ne_nil] <;>
          simp [AlertLifecycle.not_active_iff.mp hr]
      simp [hr, hlatest, hs, Script.run_bind]

end Ingestion

end Aurora.HealthHistory
