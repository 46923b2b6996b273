/-
  What the readers accept.

  The constraints of the schema and a coherent history cover every check of a stored sample and of a
  stored event.  Of an alert they leave two things open: that its times follow each other, and that
  its first sample is not newer than its latest.  A `Legible` database has both, and every reader
  succeeds on it.
-/
import Aurora.HealthHistory.Accepting
import Aurora.HealthHistory.Queries

namespace Aurora.HealthHistory

open Ingestion Queries Script

/-- A database every reader accepts. -/
structure Legible (t : Tables) : Prop where
  history : History t
  live : LiveLast t
  times : ∀ r ∈ t.alerts.rows, r.TimesOrdered
  samples : ∀ r ∈ t.alerts.rows, r.SamplesOrdered

/-! ## References -/

theorem positiveId_ok {i : Int} (h : 1 ≤ i) (hle : i ≤ maxRowid) : positiveId i = .ok () :=
  require_pos ⟨h, hle⟩

/-- A missing reference passes every check. -/
theorem unlessNone_ok {check : Int → Except String Unit} {o : Option Int}
    (h : ∀ i ∈ o, check i = .ok ()) : unlessNone check o = .ok () := by
  cases o with
  | none => rfl
  | some i => exact h i rfl

/-- A reference to a sample is a positive identifier. -/
theorem Ingestion.History.reference {db : Database} (h : History db.toTables) {o : Option Int}
    (ho : db.SampleExists o) : ∀ i ∈ o, positiveId i = .ok () := by
  intro i hi
  obtain ⟨r, hr, rfl⟩ := ho i hi
  exact positiveId_ok (h.positive r hr) (db.consistent.sampleRowid r hr)

/-- The identifiers of the samples are different. -/
theorem sampleIds_nodup (db : Database) : (db.samples.rows.map HealthSampleRow.id).Nodup :=
  List.pairwise_map.mpr (db.samples.sorted.imp fun h => h.ne)

theorem selectSampleReference_ok {db : Database} {i : Int} (h : db.samples.Has i) :
    selectSampleReference i db = [i] := by
  unfold selectSampleReference
  have hfilter : (db.samples.rows.map HealthSampleRow.id).filter (· = i) = [i] := by
    rw [List.filter_map]
    have hkey := db.samples.filter_key i
    obtain ⟨r, hr⟩ := Table.has_iff.mp h
    rw [hr] at hkey
    obtain ⟨-, hid⟩ := Table.find?_eq_some.mp hr
    rw [show ((fun x => decide (x = i)) ∘ HealthSampleRow.id) = fun r => decide (r.id = i) from rfl,
      hkey]
    simp [hid]
  rw [hfilter]
  rfl

/-- The references of an alert are found. -/
theorem checkSampleReferences_ok {db : Database} {r : AlertRow}
    (hpositive : ∀ o ∈ [r.firstSampleId, r.latestSampleId], unlessNone positiveId o = .ok ())
    (hfirst : db.SampleExists r.firstSampleId) (hlatest : db.SampleExists r.latestSampleId) :
    checkSampleReferences r (selectSampleReferences r.firstSampleId r.latestSampleId db) =
      .ok () := by
  unfold selectSampleReferences
  generalize hids : (db.samples.rows.map HealthSampleRow.id).filter (fun i =>
    some i = r.firstSampleId ∨ some i = r.latestSampleId) = ids
  have hmem : ∀ i, i ∈ ids ↔ (∃ s ∈ db.samples.rows, s.id = i) ∧
      (some i = r.firstSampleId ∨ some i = r.latestSampleId) := by
    intro i
    rw [← hids, List.mem_filter, List.mem_map, decide_eq_true_eq]
  have hlength : ids.length ≤ 2 := by
    have hnodup : ids.Nodup := by
      rw [← hids]
      exact (sampleIds_nodup db).filter _
    have hsubset : ids ⊆ r.firstSampleId.toList ++ r.latestSampleId.toList := by
      intro i hi
      rcases ((hmem i).mp hi).2 with hi | hi
      · exact List.mem_append_left _ (by rw [← hi]; exact List.mem_singleton_self i)
      · exact List.mem_append_right _ (by rw [← hi]; exact List.mem_singleton_self i)
    have hle := (hnodup.subperm hsubset).length_le
    rw [List.length_append] at hle
    have h₁ : r.firstSampleId.toList.length ≤ 1 := by cases r.firstSampleId <;> simp
    have h₂ : r.latestSampleId.toList.length ≤ 1 := by cases r.latestSampleId <;> simp
    omega
  have hids : ids.forM positiveId = .ok () := by
    rw [forM_eq_ok]
    intro i hi
    rcases ((hmem i).mp hi).2 with hi | hi
    · have h := hpositive r.firstSampleId (by simp)
      rwa [← hi] at h
    · have h := hpositive r.latestSampleId (by simp)
      rwa [← hi] at h
  rw [List.take_of_length_le (by omega)]
  unfold checkSampleReferences
  rw [hids, ok_bind]
  refine require_pos ⟨hlength, fun i hi => ((hmem i).mp hi).2, fun o ho i hi => ?_⟩
  simp only [List.mem_cons, List.not_mem_nil, or_false] at ho
  rcases ho with rfl | rfl
  · exact (hmem i).mpr ⟨hfirst i hi, .inl hi.symm⟩
  · exact (hmem i).mpr ⟨hlatest i hi, .inr hi.symm⟩

/-! ## Alerts -/

/-- The times of a checked alert fit its lifecycle. -/
theorem AlertRow.Check.lifecycleTimes {r : AlertRow} (h : r.Check) :
    r.lifecycleTimes = .ok () := by
  have h₁ := h.acknowledgedTime
  have h₂ := h.acknowledgedLifecycle
  have h₃ := h.terminalRecovered
  have h₄ := h.archivedTime
  have h₅ := h.archivedLifecycle
  have h₆ := h.recoveredTerminal
  unfold AlertRow.lifecycleTimes
  cases hl : r.lifecycle <;> rw [hl] at h₁ h₂ h₃ h₄ h₅ h₆ <;> refine require_pos ?_ <;>
    simp_all [AlertLifecycle.Terminal]

/-- An alert that passes the constraints is rejected by the readers exactly for the order of its
    times or of its samples. -/
theorem validateAlertRecord_eq_ok {db : Database} (h : History db.toTables) {r : AlertRow}
    (hr : r ∈ db.alerts.rows) (hid : 1 ≤ r.id) :
    validateAlertRecord r = .ok () ↔ r.TimesOrdered ∧ r.SamplesOrdered := by
  have hcheck := db.consistent.alertCheck r hr
  have hseverity : r.severity = if r.kind = .degraded then .degraded else .unavailable := by
    rcases hcheck.kindSeverity with ⟨hk, hs⟩ | ⟨hk, hs⟩
    · rw [if_pos hk, hs]
    · rw [if_neg (by rcases hk with hk | hk <;> rw [hk] <;> decide), hs]
  have htimes : [r.acknowledgedAtUtcUs, r.recoveredAtUtcUs, r.archivedAtUtcUs].forM
      (unlessNone (boundedInteger maxTimestampUs)) = .ok () := by
    rw [forM_eq_ok]
    intro o ho
    simp only [List.mem_cons, List.not_mem_nil, or_false] at ho
    rcases ho with rfl | rfl | rfl
    · exact unlessNone_ok fun i hi => require_pos (hcheck.acknowledgedAt i hi)
    · exact unlessNone_ok fun i hi => require_pos (hcheck.recoveredAt i hi)
    · exact unlessNone_ok fun i hi => require_pos (hcheck.archivedAt i hi)
  have hreferences : [r.firstSampleId, r.latestSampleId].forM (unlessNone positiveId) =
      .ok () := by
    rw [forM_eq_ok]
    intro o ho
    simp only [List.mem_cons, List.not_mem_nil, or_false] at ho
    rcases ho with rfl | rfl
    · exact unlessNone_ok (h.reference (db.consistent.alertFirstSample r hr))
    · exact unlessNone_ok (h.reference (db.consistent.alertLatestSample r hr))
  have hstate : ∃ s, AutomaticAlertState.new? r.scope r.kind r.lifecycle r.episodeCount
      r.occurrenceCount r.cooldownUntilUtcUs r.recoveredAtUtcUs = .ok s := by
    unfold AutomaticAlertState.new?
    rw [dif_pos hcheck.episodeCount, dif_pos hcheck.occurrenceCount, dif_pos hcheck.cooldownUntil,
      dif_pos hcheck.recoveredAt, dif_pos hcheck.terminal, dif_pos hcheck.samplingGap]
    exact ⟨_, rfl⟩
  obtain ⟨s, hs⟩ := hstate
  unfold validateAlertRecord
  rw [positiveId_ok hid (db.consistent.alertRowid r hr), ok_bind,
    show boundedInteger maxTimestampUs r.openedAtUtcUs = .ok () from require_pos hcheck.openedAt,
    ok_bind, show boundedInteger maxTimestampUs r.cooldownUntilUtcUs = .ok () from
      require_pos hcheck.cooldownUntil, ok_bind, htimes, ok_bind, hreferences, ok_bind,
    show boundedPositiveCounter r.episodeCount = .ok () from require_pos hcheck.episodeCount,
    ok_bind, show boundedPositiveCounter r.occurrenceCount = .ok () from
      require_pos hcheck.occurrenceCount, ok_bind, require_pos hcheck.severity, ok_bind,
    require_pos hseverity, ok_bind, hs, ok_bind, hcheck.lifecycleTimes, ok_bind,
    require_bind_eq_ok, require_eq_ok]

/-- The parts of a validated alert that a deletion of samples changes. -/
theorem validateAlertRecord_samples {r : AlertRow} (h : validateAlertRecord r = .ok ()) :
    [r.firstSampleId, r.latestSampleId].forM (unlessNone positiveId) = .ok () ∧
      r.SamplesOrdered := by
  unfold validateAlertRecord at h
  obtain ⟨-, -, h⟩ := bind_eq_ok.mp h
  obtain ⟨-, -, h⟩ := bind_eq_ok.mp h
  obtain ⟨-, -, h⟩ := bind_eq_ok.mp h
  obtain ⟨-, -, h⟩ := bind_eq_ok.mp h
  obtain ⟨_, hreferences, h⟩ := bind_eq_ok.mp h
  obtain ⟨-, -, h⟩ := bind_eq_ok.mp h
  obtain ⟨-, -, h⟩ := bind_eq_ok.mp h
  obtain ⟨-, -, h⟩ := bind_eq_ok.mp h
  obtain ⟨-, -, h⟩ := bind_eq_ok.mp h
  obtain ⟨-, -, h⟩ := bind_eq_ok.mp h
  obtain ⟨-, -, h⟩ := bind_eq_ok.mp h
  obtain ⟨-, -, h⟩ := bind_eq_ok.mp h
  exact ⟨hreferences, require_eq_ok.mp h⟩

/-- A stored alert is read when its record is valid: the schema keeps its references. -/
theorem run_alertRecord {db : Database} {r : AlertRow} (hr : r ∈ db.alerts.rows) :
    (alertRecord r).run db = .ok (r, db) ↔ validateAlertRecord r = .ok () := by
  unfold alertRecord attempt select
  simp only [Script.run_bind, Script.run_read, Script.run_ofExcept]
  cases hvalid : validateAlertRecord r with
  | error text => exact iff_of_false (fun h => nomatch h) (fun h => nomatch h)
  | ok u =>
    have hpositive := forM_eq_ok.mp (validateAlertRecord_samples hvalid).1
    have hreferences := checkSampleReferences_ok hpositive (db.consistent.alertFirstSample r hr)
      (db.consistent.alertLatestSample r hr)
    refine iff_of_true ?_ rfl
    simp only [hreferences, trusted, map_ok, Script.run_pure]

/-- A legible alert is read. -/
theorem Legible.run_alertRecord {db : Database} (h : Legible db.toTables) {r : AlertRow}
    (hr : r ∈ db.alerts.rows) : (alertRecord r).run db = .ok (r, db) :=
  (HealthHistory.run_alertRecord hr).mpr
    ((validateAlertRecord_eq_ok h.history hr (h.live.positive r hr)).mpr
      ⟨h.times r hr, h.samples r hr⟩)

/-! ## Events -/

/-- A stored event is read for its alert when its record is valid. -/
theorem run_alertEventRecord {db : Database} {e : AlertEventRow} (he : e ∈ db.events.rows) :
    (alertEventRecord e.alertId e).run db = .ok (e, db) ↔ validateAlertEventRecord e = .ok () := by
  have hexists := db.consistent.eventSample e he
  have hreference : (checkEventReference e.supportingSampleId).run db = .ok ((), db) := by
    cases hs : e.supportingSampleId with
    | none => rfl
    | some i =>
      rw [hs] at hexists
      unfold checkEventReference attempt select
      simp only [Script.run_bind, Script.run_read, Script.run_ofExcept,
        selectSampleReference_ok ((Tables.sampleExists_some _ _).mp hexists), require_pos, trusted,
        map_ok]
  unfold alertEventRecord attempt
  simp only [Script.run_bind, Script.run_ofExcept, require_pos, trusted, map_ok]
  cases hvalid : validateAlertEventRecord e with
  | error text => exact iff_of_false (fun h => by cases h) (fun h => by cases h)
  | ok u =>
    refine iff_of_true ?_ rfl
    simp only [hreference, map_ok, Script.run_pure]

/-- An event of a legible database is read for its alert. -/
theorem Legible.run_alertEventRecord {db : Database} (h : Legible db.toTables) {e : AlertEventRow}
    (he : e ∈ db.events.rows) : (alertEventRecord e.alertId e).run db = .ok (e, db) := by
  obtain ⟨hat, hallowed⟩ := db.consistent.eventCheck e he
  obtain ⟨a, ha, haid⟩ := db.consistent.eventAlert e he
  have halert : positiveId e.alertId = .ok () := by
    rw [← haid]
    exact positiveId_ok (h.live.positive a ha) (db.consistent.alertRowid a ha)
  rw [HealthHistory.run_alertEventRecord he]
  unfold validateAlertEventRecord
  rw [positiveId_ok (h.live.events e he) (db.consistent.eventRowid e he), ok_bind, halert, ok_bind,
    show boundedInteger maxTimestampUs e.eventAtUtcUs = .ok () from require_pos hat, ok_bind,
    unlessNone_ok (h.history.reference (db.consistent.eventSample e he)), ok_bind,
    require_pos hallowed]

/-! ## Samples -/

/-- The record of a sample that holds a projection. -/
def sampleRecordOf (r : HealthSampleRow) (p : HealthProjection) : HealthSampleRecord where
  id := r.id
  observationSequence := p.observationSequence
  observedAtUtcUs := p.observedAtUtcUs
  recordedAtUtcUs := p.recordedAtUtcUs
  overallStatus := p.overallStatus
  serviceUptimeMs := p.serviceUptimeMs
  sampleKind := r.sampleKind
  acceptedSampleKind := p.sampleKind
  missedIntervals := p.missedIntervals
  components := p.components

/-- A sample is read as the record of the projection it holds. -/
theorem Ingestion.Holds.run_healthSampleRecord {db : Database} {r : HealthSampleRow}
    {p : HealthProjection} (h : Holds db.toTables r p) (hr : r ∈ db.samples.rows)
    (hid : 1 ≤ r.id) : (healthSampleRecord r).run db = .ok (sampleRecordOf r p, db) := by
  have hcheck := db.consistent.sampleCheck r hr
  have hdigest : r.projectionDigest.length = projectionDigestBytes := hcheck.2.2.2.2.1
  have hpositive := positiveId_ok hid (db.consistent.sampleRowid r hr)
  have hcomponents : p.components.forM ComponentProjection.check = .ok () :=
    forM_eq_ok.mpr fun c hc => ComponentProjection.check_eq_ok.mpr (h.valid.components c hc)
  have hvalid := h.valid.toChecked
  have hrecord : (sampleRecordOf r p).check = .ok () := by
    unfold HealthSampleRecord.check
    simp only [require_bind_eq_ok, require_eq_ok, positiveId, boundedInteger]
    exact ⟨⟨hid, db.consistent.sampleRowid r hr⟩, hvalid.sequence, hvalid.observedAt,
      hvalid.recordedAt, hvalid.uptime, hvalid.missed, hvalid.order, hvalid.overall⟩
  have hnew : newSampleRecord r (db.components.filter fun row => row.sampleId = r.id) =
      .ok (sampleRecordOf r p) := by
    unfold newSampleRecord
    rw [h.rebuild, ok_bind, hcomponents, ok_bind]
    dsimp only
    exact bind_eq_ok.mpr ⟨(), hrecord, rfl⟩
  unfold healthSampleRecord attempt select
  simp only [Script.run_bind, Script.run_read, Script.run_ofExcept, hpositive, h.selected, hnew,
    require_pos hdigest, trusted, map_ok]

/-- A stored sample is read as the projection it holds. -/
theorem Legible.run_healthSampleRecord {db : Database} (h : Legible db.toTables)
    {r : HealthSampleRow} (hr : r ∈ db.samples.rows) :
    ∃ p, Holds db.toTables r p ∧ (healthSampleRecord r).run db = .ok (sampleRecordOf r p, db) := by
  obtain ⟨p, hp⟩ := h.history.holds r hr
  exact ⟨p, hp, hp.run_healthSampleRecord hr (h.history.positive r hr)⟩

/-! ## Readable databases -/

/-- Every stored row passes the validators of the readers. -/
structure Readable (db : Database) : Prop where
  samples : ∀ r ∈ db.samples.rows, ∃ record, (healthSampleRecord r).run db = .ok (record, db)
  alerts : ∀ r ∈ db.alerts.rows, (alertRecord r).run db = .ok (r, db)
  events : ∀ e ∈ db.events.rows, (alertEventRecord e.alertId e).run db = .ok (e, db)

theorem Legible.readable {db : Database} (h : Legible db.toTables) : Readable db where
  samples := fun _ hr => (h.run_healthSampleRecord hr).imp' _ fun _ hp => hp.2
  alerts := fun _ hr => h.run_alertRecord hr
  events := fun _ he => h.run_alertEventRecord he

/-- A rebuilt projection has the time of its row. -/
theorem rebuildProjection_observedAt {r : HealthSampleRow} {components : List ComponentSampleRow}
    {p : HealthProjection} (h : rebuildProjection r components = .ok p) :
    p.observedAtUtcUs = r.observedAtUtcUs := by
  unfold rebuildProjection at h
  obtain ⟨-, h⟩ := require_bind_eq_ok.mp h
  obtain ⟨-, -, h⟩ := bind_eq_ok.mp h
  obtain ⟨-, h⟩ := require_bind_eq_ok.mp h
  obtain ⟨-, h⟩ := require_bind_eq_ok.mp h
  dsimp only at h
  split at h
  · obtain rfl := Except.ok.inj h
    rfl
  · cases h

/-- A record names the row it was read from. -/
theorem healthSampleRecord_eq_ok {db db' : Database} {r : HealthSampleRow}
    {record : HealthSampleRecord} (h : (healthSampleRecord r).run db = .ok (record, db')) :
    record.id = r.id ∧ record.observedAtUtcUs = r.observedAtUtcUs := by
  unfold healthSampleRecord attempt select at h
  obtain ⟨-, _, -, h⟩ := run_bind_eq_ok.mp h
  obtain ⟨-, _, -, h⟩ := run_bind_eq_ok.mp h
  obtain ⟨components, m, -, h⟩ := run_bind_eq_ok.mp h
  rw [Script.run_ofExcept] at h
  cases hnew : newSampleRecord r components with
  | error text =>
    rw [hnew] at h
    cases h
  | ok new =>
    rw [hnew] at h
    obtain ⟨rfl, -⟩ := Prod.mk.inj (Except.ok.inj h)
    unfold newSampleRecord at hnew
    obtain ⟨accepted, haccepted, hnew⟩ := bind_eq_ok.mp hnew
    obtain ⟨-, -, hnew⟩ := bind_eq_ok.mp hnew
    obtain ⟨-, -, hnew⟩ := bind_eq_ok.mp hnew
    obtain rfl := Except.ok.inj hnew
    exact ⟨rfl, rebuildProjection_observedAt haccepted⟩

end Aurora.HealthHistory
