/-
  The replay ledger over runs, and what resubmissions do.

  After any run of ingests the ledger is the end of the list of accepted observations, and the
  checkpoint is its last entry (`Journal.Sound`).  From this the answer to every resubmission can be
  read off: an observation of the ledger is a duplicate, any other sequence that is not new is
  rejected, and nothing is written.  That the ledger recognizes contents by their digest is where
  SHA-256 has to be free of collisions.
-/
import Aurora.HealthHistory.Runs

namespace Aurora.HealthHistory

open Ingestion Script

/-! ## The ledger of a journal -/

/-- The checkpoint after these observations have been accepted. -/
def checkpointOf (log : List HealthProjection) : Checkpoint where
  latest := log.getLast?.map fun p => acceptedEntry (acceptedRow p)
  acceptedCount := min log.length maxBoundedCounter

/-- The checkpoint moves with every observation. -/
theorem checkpointOf_append (log : List HealthProjection) (p : HealthProjection) :
    checkpointOf (log ++ [p]) = (checkpointOf log).next p := by
  have hlast : (log ++ [p]).getLast? = some p := by simp
  unfold checkpointOf Checkpoint.next
  rw [hlast, List.length_append, List.length_singleton]
  refine congrArg₂ Checkpoint.mk rfl ?_
  unfold maxBoundedCounter
  dsimp only
  omega

/-- Ledger and checkpoint are those of the accepted observations. -/
structure Journal.Sound (j : Journal) : Prop where
  valid : ∀ p ∈ j.accepted, p.Valid
  increasing : j.accepted.Pairwise fun p q => p.observationSequence < q.observationSequence
  ledger : j.database.replay.rows = ledgerOf (j.accepted.map acceptedRow)
  coherent : ∃ rows baseline,
    CoherentAt j.database.toTables (checkpointOf j.accepted) rows baseline

/-- A new sequence is above everything accepted. -/
theorem below_checkpointOf {log : List HealthProjection} {sequence : Int}
    (hlog : log.Pairwise fun p q => p.observationSequence < q.observationSequence) :
    (checkpointOf log).Below sequence ↔ ∀ p ∈ log, p.observationSequence < sequence := by
  unfold Checkpoint.Below Checkpoint.sequence checkpointOf
  rcases List.eq_nil_or_concat log with rfl | ⟨earlier, last, rfl⟩
  · exact iff_of_true (fun _ h => nomatch h) fun _ h => absurd h List.not_mem_nil
  · rw [List.concat_eq_append] at hlog ⊢
    have hlast : ∀ p ∈ earlier ++ [last], p.observationSequence ≤ last.observationSequence := by
      intro p hp
      rcases List.mem_append.mp hp with hp | hp
      · exact ((List.pairwise_append.mp hlog).2.2 p hp last List.mem_cons_self).le
      · rw [List.mem_singleton.mp hp]
    have hget : (earlier ++ [last]).getLast? = some last := by simp
    rw [hget]
    constructor
    · intro h p hp
      exact (hlast p hp).trans_lt (h last.observationSequence rfl)
    · intro h s hs
      obtain rfl : last.observationSequence = s := Option.some.inj hs
      exact h last (List.mem_append_right _ List.mem_cons_self)

/-- An accepted ingest keeps the journal sound. -/
theorem Journal.Sound.step {j j' : Journal} {p : HealthProjection} {outcome : IngestionOutcome}
    (h : j.Sound) (hp : p.Valid) (haccepted : j'.accepted = j.accepted ++ [p])
    (hi : Ingests j.database p outcome j'.database) : j'.Sound := by
  obtain ⟨rows, baseline, hcoherent⟩ := h.coherent
  obtain ⟨hbelow, d, transitions, m, sample, hstep, -⟩ := hi.accepted hcoherent hp
  have habove := (below_checkpointOf h.increasing).mp hbelow
  constructor
  · rw [haccepted]
    intro q hq
    rcases List.mem_append.mp hq with hq | hq
    · exact h.valid q hq
    · rw [List.mem_singleton.mp hq]
      exact hp
  · rw [haccepted]
    exact List.pairwise_append.mpr ⟨h.increasing, List.pairwise_singleton _ _,
      fun q hq r hr => by rw [List.mem_singleton.mp hr]; exact habove q hq⟩
  · rw [hstep.replay, h.ledger, ledgerOf_append, haccepted, List.map_append]
    rfl
  · rw [haccepted, checkpointOf_append]
    exact ⟨_, _, hstep.coherent hcoherent hp hbelow⟩

theorem Journal.start_sound {appliedAt : Int} {fresh : Database}
    (h : createSchemaV1 appliedAt = .ok fresh) : (Journal.start fresh).Sound where
  valid := fun _ hp => absurd hp List.not_mem_nil
  increasing := List.Pairwise.nil
  ledger := by
    show fresh.replay.rows = _
    rw [(createSchemaV1_eq_ok h).1]
    rfl
  coherent := by
    refine ⟨fun _ => freshEvaluationRow, none, ?_⟩
    show CoherentAt fresh.toTables _ _ _
    rw [(createSchemaV1_eq_ok h).1]
    exact freshTables_coherent appliedAt

/-- The journal of every run from the fresh schema is sound. -/
theorem Journal.run_sound {appliedAt : Int} {fresh : Database}
    (h : createSchemaV1 appliedAt = .ok fresh) (submissions : List Submission) :
    ((Journal.start fresh).run submissions).Sound :=
  Journal.run_invariant (I := Journal.Sound) (Journal.start_sound h)
    (fun _ _ _ _ hm hp haccepted hi => hm.step hp haccepted hi) submissions

/-- No transaction of a sound journal meets a constraint. -/
theorem Refusal.not_constraint {p : HealthProjection} {e : Raised} (h : Refusal p e) :
    e ≠ .sqlite .constraint := by
  cases h <;> decide

/-- The ledger of a run is the end of its list of accepted observations. -/
theorem ledger_of_run {appliedAt : Int} {fresh : Database}
    (h : createSchemaV1 appliedAt = .ok fresh) (submissions : List Submission) :
    let j := (Journal.start fresh).run submissions
    j.database.replay.rows = (j.accepted.map acceptedRow).rtake replayLedgerCapacity ∧
    j.database.replay.rows.length = min j.accepted.length replayLedgerCapacity ∧
    j.database.replay.rows.Pairwise
      (fun a b => a.observationSequence < b.observationSequence) ∧
    j.database.checkpoint = some {
      lastCommittedSequence :=
        j.database.replay.rows.getLast?.map AcceptedObservationRow.observationSequence
      lastAcceptedObservedAtUtcUs :=
        j.database.replay.rows.getLast?.map AcceptedObservationRow.observedAtUtcUs
      lastAcceptedProjectionDigest :=
        j.database.replay.rows.getLast?.map AcceptedObservationRow.projectionDigest
      lastAcceptedSampleKind :=
        j.database.replay.rows.getLast?.map AcceptedObservationRow.acceptedSampleKind
      acceptedObservationCount := min j.accepted.length maxBoundedCounter } ∧
    ∀ p checkpoint e, p.Valid → classification j.database p = .ok (checkpoint, false) →
      (ingestAccepted checkpoint p).run j.database = .error e → e ≠ .sqlite .constraint := by
  dsimp only
  generalize hj : (Journal.start fresh).run submissions = j
  have hsound : j.Sound := hj ▸ Journal.run_sound h submissions
  obtain ⟨rows, baseline, hcoherent⟩ := hsound.coherent
  refine ⟨hsound.ledger, ?_, j.database.replay.sorted, ?_, ?_⟩
  · rw [hsound.ledger]
    unfold ledgerOf List.rtake
    rw [List.length_drop, List.length_map]
    omega
  · have hlatest := hcoherent.anchored.latest
    rw [hcoherent.anchored.checkpoint]
    unfold Checkpoint.row
    rw [← hlatest]
    simp only [Option.map_map]
    rfl
  · intro p checkpoint e hp hclass hrun
    obtain ⟨hanchored, hbelow⟩ := classification_false.mp hclass
    obtain rfl := hcoherent.anchored.unique hanchored
    exact ((post_ingestAccepted hcoherent hp hbelow).raised hrun).not_constraint

/-- Of seven submissions one is a replay. -/
theorem ledger_of_run_wled : ∃ fresh, createSchemaV1 0 = .ok fresh ∧
    ((Journal.start fresh).run wledReports).database.replay.rows =
      ((wledReports.map Prod.snd).eraseIdx 2).map acceptedRow := by
  obtain ⟨fresh, hfresh⟩ : ∃ fresh, createSchemaV1 0 = .ok fresh := ⟨_, rfl⟩
  obtain ⟨haccepted, -, -⟩ := wledReports_archived hfresh
  have hrows := (ledger_of_run hfresh wledReports).1
  rw [haccepted] at hrows
  exact ⟨fresh, hfresh, hrows⟩

/-! ## Resubmissions -/

/-- `p` is `q` but for the time it was recorded. -/
def SameContent (p q : HealthProjection) : Prop :=
  { p with recordedAtUtcUs := q.recordedAtUtcUs } = q

/-- The observations the ledger still holds. -/
def remembered (log : List HealthProjection) : List HealthProjection :=
  log.rtake replayLedgerCapacity

/-- A resubmission to a store that has accepted `log`, and the answer it deserves. -/
inductive Resubmission (log : List HealthProjection) (p : HealthProjection) :
    Except IngestionError IngestionOutcome → Prop
  /-- An observation of the ledger, recorded at any time. -/
  | duplicate (valid : p.Valid) (q : HealthProjection) (mem : q ∈ remembered log)
      (same : SameContent p q) : Resubmission log p (.ok .replayed)
  /-- A sequence that is not new and not in the ledger. -/
  | stale (valid : p.Valid) (old : ∃ q ∈ log, p.observationSequence ≤ q.observationSequence)
      (gone : ∀ q ∈ remembered log, q.observationSequence ≠ p.observationSequence) :
      Resubmission log p (.error ⟨.staleSequence, false⟩)
  /-- A sequence of the ledger with another content. -/
  | conflict (valid : p.Valid) (q : HealthProjection) (mem : q ∈ remembered log)
      (sequence : q.observationSequence = p.observationSequence) (differs : ¬SameContent p q) :
      Resubmission log p (.error ⟨.sequenceConflict, false⟩)
  /-- Something validation refuses. -/
  | invalid (h : ¬p.Valid) : Resubmission log p (.error ⟨.invalidProjection, false⟩)

/-- SHA-256 tells the contents of these projections apart. -/
def CollisionFree (ps : List HealthProjection) : Prop :=
  ∀ p ∈ ps, ∀ q ∈ ps, sha256 p.canonical = sha256 q.canonical → p.canonical = q.canonical

/-- Two valid projections with one digest have the same content. -/
theorem sameContent_of_digest {ps : List HealthProjection} (hps : CollisionFree ps)
    {p q : HealthProjection} (hp : p.Valid) (hq : q.Valid) (hpmem : p ∈ ps) (hqmem : q ∈ ps)
    (h : p.digest = q.digest) : SameContent p q := by
  have hcanonical : p.canonical = q.canonical := by
    refine hps p hpmem q hqmem ?_
    rw [hp.digest, hq.digest, h]
  obtain ⟨hsequence, hobserved, hstatus, huptime, hkind, hmissed, hcomponents⟩ :=
    HealthProjection.canonical_injective hcanonical
  have hversion : p.schemaVersion = q.schemaVersion := hp.schemaVersion.trans hq.schemaVersion.symm
  unfold SameContent
  cases p
  cases q
  simp_all

/-- Observations of the same content have the same row. -/
theorem acceptedRow_of_sameContent {p q : HealthProjection} (h : SameContent p q) :
    acceptedRow p = acceptedRow q := by
  unfold SameContent at h
  rw [← h]
  rfl

/-- The ledger row of a sequence, and what comparing with it gives. -/
theorem matchReplayRow_of_mem {db : Database} {p : HealthProjection} {row : AcceptedObservationRow}
    (hrow : row ∈ db.replay.rows) (hkey : row.observationSequence = p.observationSequence)
    (hdiffers : row ≠ acceptedRow p) :
    matchReplayRow p (db.replay.find? p.observationSequence) =
      .error (.ingestion ⟨.sequenceConflict, false⟩) := by
  rw [Table.find?_eq_some.mpr ⟨hrow, hkey⟩]
  unfold matchReplayRow
  dsimp only
  rw [replayEntry_of_check (db.consistent.replayCheck row hrow), ok_bind, if_neg]
  rintro ⟨hobserved, hdigest, hkind⟩
  refine hdiffers ?_
  cases row
  simp_all [acceptedRow, acceptedEntry]

namespace Journal.Sound

variable {j : Journal}

/-- What the ledger holds are the rows of the remembered observations. -/
theorem mem_replay (h : j.Sound) {row : AcceptedObservationRow} :
    row ∈ j.database.replay.rows ↔ ∃ q ∈ remembered j.accepted, acceptedRow q = row := by
  rw [h.ledger]
  unfold ledgerOf remembered List.rtake
  rw [List.length_map, ← List.map_drop, List.mem_map]

theorem remembered_subset (log : List HealthProjection) : remembered log ⊆ log :=
  List.drop_subset _ _

/-- A sequence that is not new is not above the checkpoint. -/
theorem classification_old (h : j.Sound) {p q : HealthProjection} (hq : q ∈ j.accepted)
    (hle : p.observationSequence ≤ q.observationSequence) :
    ∃ checkpoint, classification j.database p =
      (matchReplayRow p (j.database.replay.find? p.observationSequence)).map
        fun replay => (checkpoint, replay) := by
  obtain ⟨rows, baseline, hcoherent⟩ := h.coherent
  have hbelow : ¬(checkpointOf j.accepted).Below p.observationSequence := fun hb =>
    absurd ((below_checkpointOf h.increasing).mp hb q hq) (by omega)
  refine ⟨checkpointOf j.accepted, ?_⟩
  unfold classification
  rw [hcoherent.anchored.anchoredCheckpoint, ok_bind, if_neg hbelow]
  cases matchReplayRow p (j.database.replay.find? p.observationSequence) <;> rfl

/-- Every resubmission gets its answer and changes nothing. -/
theorem ingest_resubmission (h : j.Sound) {ps : List HealthProjection} (hps : CollisionFree ps)
    (haccepted : ∀ q ∈ j.accepted, q ∈ ps) {p : HealthProjection} (hp : p ∈ ps)
    {answer : Except IngestionError IngestionOutcome} (hr : Resubmission j.accepted p answer) :
    Ingestion.ingest j.database p = (answer, j.database) := by
  cases hr with
  | duplicate hvalid q hq hsame =>
    have hsequence : p.observationSequence = q.observationSequence := by rw [← hsame]
    obtain ⟨checkpoint, hclass⟩ :=
      h.classification_old (remembered_subset _ hq) hsequence.le
    have hmatch : matchReplayRow p (j.database.replay.find? p.observationSequence) = .ok true :=
      matchReplayRow_eq_ok.mpr ⟨rfl, h.mem_replay.mpr
        ⟨q, hq, (acceptedRow_of_sameContent hsame).symm⟩⟩
    rw [ingest_valid hvalid]
    unfold faultless
    rw [hclass, hmatch]
    rfl
  | stale hvalid hold hgone =>
    obtain ⟨q, hq, hle⟩ := hold
    obtain ⟨checkpoint, hclass⟩ := h.classification_old hq hle
    have hnone : j.database.replay.find? p.observationSequence = none := by
      rw [Table.find?_eq_none]
      intro row hrow
      obtain ⟨q, hq, rfl⟩ := h.mem_replay.mp hrow
      exact hgone q hq
    rw [ingest_valid hvalid]
    unfold faultless
    rw [hclass, hnone]
    rfl
  | conflict hvalid q hq hsequence hdiffers =>
    have hmem := remembered_subset _ hq
    obtain ⟨checkpoint, hclass⟩ := h.classification_old hmem hsequence.ge
    have hne : acceptedRow q ≠ acceptedRow p := fun heq =>
      hdiffers (sameContent_of_digest hps hvalid (h.valid q hmem) hp (haccepted q hmem)
        (congrArg AcceptedObservationRow.projectionDigest heq).symm)
    have hmatch := matchReplayRow_of_mem (p := p) (h.mem_replay.mpr ⟨q, hq, rfl⟩) hsequence hne
    rw [ingest_valid hvalid]
    unfold faultless
    rw [hclass, hmatch]
    rfl
  | invalid hinvalid => exact ingest_invalid hinvalid

/-- The journal does not move either. -/
theorem journal_resubmission (h : j.Sound) {p : HealthProjection}
    {answer : Except IngestionError IngestionOutcome} (hr : Resubmission j.accepted p answer) :
    j.ingest (Faults.none, p) = j := by
  rcases j.ingest_cases (Faults.none, p) with hsame | ⟨hvalid, -, outcome, checkpoint, hclass, -⟩
  · exact hsame
  · have hold : ∃ q ∈ j.accepted, p.observationSequence ≤ q.observationSequence := by
      cases hr with
      | duplicate _ q hq hsame =>
        exact ⟨q, remembered_subset _ hq, by rw [← hsame]⟩
      | stale _ hold => exact hold
      | conflict _ q hq hsequence => exact ⟨q, remembered_subset _ hq, hsequence.ge⟩
      | invalid hinvalid => exact absurd hvalid hinvalid
    obtain ⟨q, hq, hle⟩ := hold
    obtain ⟨rows, baseline, hcoherent⟩ := h.coherent
    obtain ⟨hanchored, hbelow⟩ := classification_false.mp hclass
    obtain rfl := hcoherent.anchored.unique hanchored
    have := (below_checkpointOf h.increasing).mp hbelow q hq
    exact absurd this (by dsimp only; omega)

end Journal.Sound

/-! ## Runs with resubmissions -/

/-- A call of a run: one of the original calls, or a resubmission with the answer it deserves. -/
inductive Entry
  | original (s : Submission)
  | resubmitted (p : HealthProjection) (answer : Except IngestionError IngestionOutcome)

namespace Entry

/-- What is submitted. -/
def submission : Entry → Submission
  | original s => s
  | resubmitted p _ => (Faults.none, p)

/-- The submission of the run that is compared with. -/
def original? : Entry → Option Submission
  | original s => some s
  | resubmitted _ _ => none

/-- The answer a resubmission deserves. -/
def answer? : Entry → Option (Except IngestionError IngestionOutcome)
  | original _ => none
  | resubmitted _ answer => some answer

end Entry

/-- The results of the calls of a run. -/
def Journal.results (j : Journal) :
    List Submission → List (Except IngestionError IngestionOutcome)
  | [] => []
  | s :: rest => (ingestProjection s.1 j.database s.2).1 :: (j.ingest s).results rest

/-- Every resubmission is one where it is made. -/
def Journal.Inserted (j : Journal) : List Entry → Prop
  | [] => True
  | .original s :: rest => (j.ingest s).Inserted rest
  | .resubmitted p answer :: rest =>
    Resubmission j.accepted p answer ∧ (j.ingest (Faults.none, p)).Inserted rest

/-- The results of the original calls among all results. -/
def originalResults : List Entry → List (Except IngestionError IngestionOutcome) →
    List (Except IngestionError IngestionOutcome)
  | .original _ :: rest, result :: results => result :: originalResults rest results
  | .resubmitted _ _ :: rest, _ :: results => originalResults rest results
  | _, _ => []

/-- The results of the resubmissions among all results. -/
def resubmissionResults : List Entry → List (Except IngestionError IngestionOutcome) →
    List (Except IngestionError IngestionOutcome)
  | .original _ :: rest, _ :: results => resubmissionResults rest results
  | .resubmitted _ _ :: rest, result :: results => result :: resubmissionResults rest results
  | _, _ => []

/-- The run with resubmissions, from any sound journal. -/
theorem Journal.Sound.run_entries {ps : List HealthProjection} (hps : CollisionFree ps) :
    ∀ {entries : List Entry} {j : Journal}, j.Sound → (∀ q ∈ j.accepted, q ∈ ps) →
      (∀ e ∈ entries, e.submission.2 ∈ ps) → j.Inserted entries →
      j.run (entries.map Entry.submission) = j.run (entries.filterMap Entry.original?) ∧
      originalResults entries (j.results (entries.map Entry.submission)) =
        j.results (entries.filterMap Entry.original?) ∧
      resubmissionResults entries (j.results (entries.map Entry.submission)) =
        entries.filterMap Entry.answer?
  | [], _, _, _, _, _ => ⟨rfl, rfl, rfl⟩
  -- a submission of the run itself leads to a sound journal
  | .original s :: rest, j, h, haccepted, hentries, hinserted => by
    have hsound : (j.ingest s).Sound := by
      rcases j.ingest_cases s with hsame | ⟨hp, hnew, outcome, hi⟩
      · exact hsame.symm ▸ h
      · exact h.step hp hnew hi
    have hmem : ∀ q ∈ (j.ingest s).accepted, q ∈ ps := by
      rcases j.ingest_cases s with hsame | ⟨-, hnew, -⟩
      · rw [hsame]
        exact haccepted
      · rw [hnew]
        intro q hq
        rcases List.mem_append.mp hq with hq | hq
        · exact haccepted q hq
        · rw [List.mem_singleton.mp hq]
          exact hentries _ List.mem_cons_self
    obtain ⟨hrun, horiginal, hanswers⟩ := run_entries hps hsound hmem
      (fun e he => hentries e (List.mem_cons_of_mem _ he)) hinserted
    exact ⟨hrun, congrArg _ horiginal, hanswers⟩
  -- a resubmission is answered and leaves the journal as it was
  | .resubmitted p answer :: rest, j, h, haccepted, hentries, ⟨hr, hinserted⟩ => by
    have hsame := h.journal_resubmission hr
    have hresult : (ingestProjection Faults.none j.database p).1 = answer :=
      congrArg Prod.fst (h.ingest_resubmission hps haccepted (hentries _ List.mem_cons_self) hr)
    rw [hsame] at hinserted
    obtain ⟨hrun, horiginal, hanswers⟩ := run_entries hps h haccepted
      (fun e he => hentries e (List.mem_cons_of_mem _ he)) hinserted
    refine ⟨?_, ?_, ?_⟩
    · show (j.ingest (Faults.none, p)).run (rest.map Entry.submission) = _
      rw [hsame]
      exact hrun
    · show originalResults rest ((j.ingest (Faults.none, p)).results _) = _
      rw [hsame]
      exact horiginal
    · show (ingestProjection Faults.none j.database p).1 ::
        resubmissionResults rest ((j.ingest (Faults.none, p)).results _) = _
      rw [hsame, hresult, hanswers]
      rfl

/-- What is inserted into a run is inserted into its rest. -/
theorem Journal.Inserted.rest {entries more : List Entry} {j : Journal}
    (h : j.Inserted (entries ++ more)) : (j.run (entries.map Entry.submission)).Inserted more := by
  induction entries generalizing j with
  | nil => exact h
  | cons e entries ih =>
    cases e with
    | original s => exact ih h
    | resubmitted p answer => exact ih h.2

/-- Resubmissions change neither the database nor the results of the other calls of a run, and each
    of them gets its answer. -/
theorem resubmissions_of_run {appliedAt : Int} {fresh : Database}
    (h : createSchemaV1 appliedAt = .ok fresh) {entries : List Entry}
    (hinserted : (Journal.start fresh).Inserted entries)
    (hcollision : CollisionFree (entries.map fun e => e.submission.2)) :
    (Journal.start fresh).run (entries.map Entry.submission) =
      (Journal.start fresh).run (entries.filterMap Entry.original?) ∧
    originalResults entries ((Journal.start fresh).results (entries.map Entry.submission)) =
      (Journal.start fresh).results (entries.filterMap Entry.original?) ∧
    resubmissionResults entries ((Journal.start fresh).results (entries.map Entry.submission)) =
      entries.filterMap Entry.answer? ∧
    ∀ before p answer after, entries = before ++ .resubmitted p answer :: after →
      ((Journal.start fresh).run (before.map Entry.submission)).ingest (Faults.none, p) =
        (Journal.start fresh).run (before.map Entry.submission) := by
  obtain ⟨hrun, horiginal, hanswers⟩ := (Journal.start_sound h).run_entries hcollision
    (fun _ hq => absurd hq List.not_mem_nil) (fun e he => List.mem_map.mpr ⟨e, he, rfl⟩) hinserted
  refine ⟨hrun, horiginal, hanswers, ?_⟩
  rintro before p answer after rfl
  exact (Journal.run_sound h _).journal_resubmission hinserted.rest.1

theorem resubmissions_of_run_wled :
    ∃ fresh entries, createSchemaV1 0 = .ok fresh ∧
      entries.filterMap Entry.original? =
        [(Faults.none, wledReport 1 5 .degraded .wledInfoTimeout)] ∧
      resubmissionResults entries
        ((Journal.start fresh).results (entries.map Entry.submission)) = [.ok .replayed] := by
  have hvalid : (wledReport 1 5 .degraded .wledInfoTimeout).Valid :=
    wledReport_valid (by decide) (by decide) (by decide +kernel)
  let entries : List Entry := [.original (Faults.none, wledReport 1 5 .degraded .wledInfoTimeout),
    .resubmitted { wledReport 1 5 .degraded .wledInfoTimeout with recordedAtUtcUs := 9 }
      (.ok .replayed)]
  have hcollision : CollisionFree (entries.map fun e => e.submission.2) := by
    intro p hp q hq _
    simp only [entries, List.map_cons, List.map_nil, List.mem_cons, List.not_mem_nil, or_false,
      Entry.submission] at hp hq
    rcases hp with rfl | rfl <;> rcases hq with rfl | rfl <;> rfl
  have hinserted : ∀ fresh, createSchemaV1 0 = .ok fresh →
      (Journal.start fresh).Inserted entries := fun fresh h =>
    ⟨.duplicate (hvalid.recordedAgain (by decide)) (wledReport 1 5 .degraded .wledInfoTimeout)
      (by rw [wledReport_accepted h]; exact List.mem_cons_self) rfl, trivial⟩
  obtain ⟨fresh, hfresh⟩ : ∃ fresh, createSchemaV1 0 = .ok fresh := ⟨_, rfl⟩
  exact ⟨fresh, entries, hfresh, rfl,
    (resubmissions_of_run hfresh (hinserted fresh hfresh) hcollision).2.2.1⟩

end Aurora.HealthHistory
