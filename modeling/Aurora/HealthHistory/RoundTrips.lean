/-
  What is digested and what is stored say everything about a projection.

  The canonical bytes leave out exactly the recording time.  A projection that is stored is read
  back, by the readers of the queries and by the reader of the baseline, as the same projection.
-/
import Aurora.HealthHistory.Reading
import Aurora.HealthHistory.Runs

namespace Aurora.HealthHistory

open Ingestion Queries

/-! ## Digest input -/

theorem HealthProjection.canonical_recordedAt (p : HealthProjection) (recordedAt : Int) :
    { p with recordedAtUtcUs := recordedAt }.canonical = p.canonical := rfl

/-- Valid projections with the same canonical bytes differ in their recording time only. -/
theorem canonical_eq_iff {p q : HealthProjection} (hp : validateHealthProjection p = .ok ())
    (hq : validateHealthProjection q = .ok ()) :
    p.canonical = q.canonical ↔ p = { q with recordedAtUtcUs := p.recordedAtUtcUs } := by
  have hp := validateHealthProjection_eq_ok.mp hp
  have hq := validateHealthProjection_eq_ok.mp hq
  constructor
  · intro h
    obtain ⟨hsequence, hobserved, hstatus, huptime, hkind, hmissed, hcomponents⟩ :=
      HealthProjection.canonical_injective h
    have hdigest : p.digest = q.digest := by rw [← hp.digest, ← hq.digest, h]
    have hschema : p.schemaVersion = q.schemaVersion := by rw [hp.schemaVersion, hq.schemaVersion]
    cases p
    cases q
    simp only at hsequence hobserved hstatus huptime hkind hmissed hcomponents hdigest hschema
    subst hsequence hobserved hstatus huptime hkind hmissed hcomponents hdigest hschema
    rfl
  · intro h
    rw [h]
    exact q.canonical_recordedAt _

/-- The same report, recorded twice. -/
theorem canonical_eq_iff_wled :
    (wledReport 1 5 .degraded .wledInfoTimeout).canonical =
      { wledReport 1 5 .degraded .wledInfoTimeout with recordedAtUtcUs := 9 }.canonical := by
  have hvalid : (wledReport 1 5 .degraded .wledInfoTimeout).Valid :=
    wledReport_valid (by decide) (by decide) (by decide +kernel)
  exact (canonical_eq_iff (validateHealthProjection_eq_ok.mpr hvalid)
    (validateHealthProjection_eq_ok.mpr (hvalid.recordedAgain (by decide)))).mpr rfl

/-! ## Stored samples -/

/-- A stored projection is read back as it is: through the row reader of the sample pages and
through the reader of the baseline.  Only the identifiers can stop it from being stored. -/
theorem sample_round_trip {db : Database} {p : HealthProjection} (kind : SampleKind)
    (hp : validateHealthProjection p = .ok ())
    (hnew : ∀ a ∈ db.samples.rows, a.observationSequence ≠ p.observationSequence) :
    (∀ e, (storeSample p (some kind)).run db = .error e → NoIdentifier db e) ∧
    ∀ sample db', (storeSample p (some kind)).run db = .ok (sample, db') →
      ∃ id row, sample = some id ∧ db'.samples.find? id = some row ∧
        rebuildProjection row (selectComponents id db') = .ok p ∧
        (healthSampleRecord row).run db' = .ok ({
          id := id
          observationSequence := p.observationSequence
          observedAtUtcUs := p.observedAtUtcUs
          recordedAtUtcUs := p.recordedAtUtcUs
          overallStatus := p.overallStatus
          serviceUptimeMs := p.serviceUptimeMs
          sampleKind := kind
          acceptedSampleKind := p.sampleKind
          missedIntervals := p.missedIntervals
          components := p.components }, db') ∧
        ∀ last, p.observationSequence ≤ last →
          (readBaselineSample id (some last)).run db' = .ok (p.content, db') := by
  have hvalid := validateHealthProjection_eq_ok.mp hp
  have hpost := post_storeNewSample kind hvalid hnew
  refine ⟨fun e he => hpost.raised he, fun sample db' hrun => ?_⟩
  obtain ⟨-, id, rfl, hstored⟩ := hpost.returned hrun
  have hholds := hstored.holds hvalid
  have hmem : sampleRow p kind id ∈ db'.samples.rows := by
    rw [hstored.samples]
    exact List.mem_append_right _ List.mem_cons_self
  refine ⟨id, sampleRow p kind id, rfl, Table.find?_eq_some.mpr ⟨hmem, rfl⟩, ?_, ?_, ?_⟩
  · rw [show id = (sampleRow p kind id).id from rfl, hholds.selected]
    exact hholds.rebuild
  · exact hholds.run_healthSampleRecord hmem hstored.positive
  · intro last hlast
    exact hholds.read hmem ⟨last, rfl, hlast⟩

/-- The first report of a fresh store, stored as a heartbeat. -/
theorem sample_round_trip_wled : ∃ fresh db' id row, createSchemaV1 0 = .ok fresh ∧
    (storeSample (wledReport 1 5 .degraded .wledInfoTimeout) (some .heartbeat)).run fresh =
      .ok (some id, db') ∧
    rebuildProjection row (selectComponents id db') =
      .ok (wledReport 1 5 .degraded .wledInfoTimeout) := by
  have hvalid : (wledReport 1 5 .degraded .wledInfoTimeout).Valid :=
    wledReport_valid (by decide) (by decide) (by decide +kernel)
  obtain ⟨fresh, hfresh⟩ : ∃ fresh, createSchemaV1 0 = .ok fresh := ⟨_, rfl⟩
  have hempty : fresh.samples.rows = [] := by
    obtain rfl := Except.ok.inj hfresh
    rfl
  obtain ⟨herror, hok⟩ := @sample_round_trip fresh _ .heartbeat
    (validateHealthProjection_eq_ok.mpr hvalid) (by rw [hempty]; exact fun _ h => nomatch h)
  cases hrun : (storeSample (wledReport 1 5 .degraded .wledInfoTimeout) (some .heartbeat)).run
      fresh with
  | error e =>
    rcases herror e hrun with ⟨-, a, ha, -⟩ | ⟨-, a, ha, -⟩
    · exact absurd (hempty ▸ ha) List.not_mem_nil
    · exact absurd (hempty ▸ ha) List.not_mem_nil
  | ok result =>
    obtain ⟨id, row, hid, -, hrow, -⟩ := hok result.1 result.2 hrun
    refine ⟨fresh, result.2, id, row, hfresh, ?_, hrow⟩
    rw [← hid]
    exact hrun

end Aurora.HealthHistory
