/-
  One accepted ingest, from the database before it to the one after it.

  `Accepted` collects what the deciding half and the writing half did.  `post_ingestAccepted` is the
  spec of the transaction: from a coherent database it makes such a step, or is refused for one of
  three reasons.  `Accepted.coherent` closes the circle: the database is coherent again.
-/
import Aurora.HealthHistory.Storing

namespace Aurora.HealthHistory

open Ingestion Script

/-- The sample a step stores, if any. -/
inductive SampleStep (db : Database) (p : HealthProjection) :
    Option SampleKind → Option Int → Database → Prop
  | skipped {db' : Database} (samples : db'.samples = db.samples)
      (components : db'.components = db.components) : SampleStep db p none none db'
  | stored {kind : SampleKind} {id : Int} {db' : Database} (h : SampleStored db p kind id db') :
      SampleStep db p (some kind) (some id) db'

/-- The sample that becomes the baseline. -/
def newBaseline (d : StorageDecision) (sample : Option Int) : Option Int :=
  if d.updatesEvaluatorBaseline then sample else none

/-- The time of the heartbeat a stored sample is. -/
def heartbeatAt (p : HealthProjection) (sample : Option Int) : Option Int :=
  if sample.isSome then some p.recordedAtUtcUs else none

/-- One accepted ingest of `p`: archival to `m`, the decision `d`, and everything written. -/
structure Accepted (db : Database) (c : Checkpoint) (rows : EvaluationRows) (baseline : Option Int)
    (p : HealthProjection) (d : IngestionDecision)
    (transitions : AlertScope → HealthEvaluationTransition) (m : Database) (sample : Option Int)
    (db' : Database) : Prop where
  decided : Decided db c rows baseline p d transitions m
  sampled : SampleStep db p d.storage.storedKind sample db'
  evaluation : ∀ s, db'.evaluation s = some (nextRows rows transitions d.gap
    (newBaseline d.storage sample) (heartbeatAt p sample) s)
  replay : db'.replay.rows = ledgerOf (db.replay.rows ++ [acceptedRow p])
  checkpoint : db'.checkpoint = some (c.next p).row
  live : LiveLast db'.toTables
  step : ∀ q, PairStep q p.recordedAtUtcUs sample (escalated m q)
    (requestOf transitions d.gap (gapObservationHasMiss p) q)
    (archiveDue p.recordedAtUtcUs (book db q)) (book db' q)
  events : EventsAdded (fun e => e.eventType = .archived ∨ Supported sample e) db db'
  migrations : db'.migrations = db.migrations
  identity : db'.identity = db.identity

theorem EventsAdded.imp {P Q : AlertEventRow → Prop} {db db' : Database} (h : EventsAdded P db db')
    (himp : ∀ e, P e → Q e) : EventsAdded Q db db' := by
  obtain ⟨new, hnew, hP⟩ := h
  exact ⟨new, hnew, fun e he => himp e (hP e he)⟩

/-- Sample or no sample, it is stored. -/
theorem post_storeSampleStep {db : Database} {p : HealthProjection} (kind : Option SampleKind)
    (hp : p.Valid) (hhistory : History db.toTables)
    (hnew : ∀ a ∈ db.samples.rows, a.observationSequence < p.observationSequence) :
    Post (storeSample p kind) db
      (fun sample db' => OnlySamples db db' ∧ SampleStep db p kind sample db')
      (· = .sqlite .full) := by
  cases kind with
  | none => exact Post.pure ⟨.refl db, .skipped rfl rfl⟩
  | some kind =>
    refine (post_storeSample kind hp hhistory hnew).mono ?_ (fun _ h => h)
    rintro _ db' ⟨honly, id, rfl, hstored⟩
    exact ⟨honly, .stored hstored⟩

/-- The stored sample exists, and its id is positive. -/
theorem SampleStep.exists {db db' : Database} {p : HealthProjection} {kind : Option SampleKind}
    {sample : Option Int} (h : SampleStep db p kind sample db') :
    db'.SampleExists sample ∧ (∀ i ∈ sample, 0 < i) ∧ (kind ≠ none → sample ≠ none) := by
  cases h with
  | skipped => exact ⟨Tables.sampleExists_none _, fun i h => absurd h (Option.not_mem_none i),
      fun h => absurd rfl h⟩
  | @stored kind id _ hstored =>
    refine ⟨(Tables.sampleExists_some _ _).mpr ⟨sampleRow p kind id, ?_, rfl⟩, fun i hi => ?_,
      fun _ => by simp⟩
    · rw [hstored.samples]
      exact List.mem_append_right _ List.mem_cons_self
    · have := hstored.positive
      rw [← Option.some.inj hi]
      omega

/-- A step of the samples looks the same from databases with the same samples. -/
theorem SampleStep.congr {db m m' db' : Database} {p : HealthProjection} {kind : Option SampleKind}
    {sample : Option Int} (h : SampleStep m p kind sample m') (hs : m.samples = db.samples)
    (hc : m.components = db.components) (hs' : db'.samples = m'.samples)
    (hc' : db'.components = m'.components) : SampleStep db p kind sample db' := by
  cases h with
  | skipped samples components =>
    exact .skipped (hs'.trans (samples.trans hs)) (hc'.trans (components.trans hc))
  | stored h =>
    refine .stored ⟨h.positive, ?_, ?_, ?_⟩
    · rw [← hs]
      exact h.fresh
    · rw [hs', h.samples, hs]
    · rw [hc', ← hc]
      exact h.components

theorem pairRows_congr {db db' : Database} (h : db'.alerts = db.alerts) (q : AlertPair) :
    pairRows db' q = pairRows db q := by
  unfold pairRows
  rw [h]

theorem book_congr {db db' : Database} (ha : db'.alerts = db.alerts) (he : db'.events = db.events)
    (q : AlertPair) : book db' q = book db q := by
  unfold book
  rw [pairRows_congr ha, he]

/-- A new observation is above every sample. -/
theorem CoherentAt.above {t : Tables} {c : Checkpoint} {rows : EvaluationRows}
    {baseline : Option Int} (h : CoherentAt t c rows baseline) {sequence : Int}
    (hbelow : c.Below sequence) : ∀ a ∈ t.samples.rows, a.observationSequence < sequence := by
  intro a ha
  obtain ⟨last, hlast, hle⟩ := h.covered a ha
  have := hbelow last hlast
  omega

/-- Everything that was decided is written. -/
theorem post_persistDecision {db m : Database} {c : Checkpoint} {rows : EvaluationRows}
    {baseline : Option Int} {p : HealthProjection} {d : IngestionDecision}
    {transitions : AlertScope → HealthEvaluationTransition}
    (h : CoherentAt db.toTables c rows baseline) (hp : p.Valid)
    (hbelow : c.Below p.observationSequence)
    (hd : Decided db c rows baseline p d transitions m) :
    Post (persistDecision c p d) m
      (fun _ db' => ∃ sample, Accepted db c rows baseline p d transitions m sample db')
      (· = .sqlite .full) := by
  have honly := hd.archived.only
  have hnew : ∀ a ∈ m.samples.rows, a.observationSequence < p.observationSequence := by
    rw [honly.samples]
    exact h.above hbelow
  -- the transaction in its order: the sample, the evaluation rows, the alerts, the checkpoint
  unfold persistDecision
  refine Post.bind (post_storeSampleStep d.storage.storedKind hp (honly.history h.history) hnew) ?_
  rintro sample m₁ ⟨honly₁, hsampled⟩
  obtain ⟨hexists, hpositive, hkind⟩ := hsampled.exists
  have hheartbeat : BoundedOption maxTimestampUs (heartbeatAt p sample) := by
    unfold heartbeatAt
    split
    · exact (boundedOption_some _ _).mpr hp.recordedAt
    · exact boundedOption_none _
  have hstored : ∀ s, m₁.evaluation s = some (rows s) := by
    rw [honly₁.evaluation, honly.evaluation]
    exact h.evaluators.stored
  have hbaseline : m₁.SampleExists (newBaseline d.storage sample) ∧
      ∀ i ∈ newBaseline d.storage sample, 0 < i := by
    unfold newBaseline
    split
    · exact ⟨hexists, hpositive⟩
    · exact ⟨Tables.sampleExists_none _, fun i h => absurd h (Option.not_mem_none i)⟩
  rw [hd.read, hd.health]
  refine Post.bind (post_writeEvaluationRows hstored hbaseline.1 hbaseline.2 hheartbeat) ?_
  rintro _ m₂ ⟨htables₂, hidentity₂⟩
  -- the evaluation rows leave the samples, the alerts and the events as they were
  have halerts₂ : m₂.alerts = m.alerts := by
    rw [htables₂]
    exact honly₁.alerts
  have hevents₂ : m₂.events = m.events := by
    rw [htables₂]
    exact honly₁.events
  have hlive₂ : LiveLast m₂.toTables := by
    have hlive := hd.archived.live
    refine ⟨?_, ?_, ?_⟩
    · rw [halerts₂]
      exact hlive.positive
    · rw [halerts₂]
      exact hlive.earlier
    · rw [hevents₂]
      exact hlive.events
  have hexists₂ : m₂.SampleExists sample := by
    rw [htables₂]
    exact hexists
  refine Post.bind (post_persistPlans hd.covers hlive₂ halerts₂ hexists₂ fun plan hplan hneed =>
    hkind (hd.supported plan hplan hneed)) ?_
  rintro _ m₃ hwritten
  -- no step so far has moved the checkpoint or the replay rows
  have hanchored₃ : Anchored m₃.toTables c := by
    refine hwritten.only.anchored ?_
    rw [htables₂]
    refine ⟨?_, ?_, ?_⟩
    · exact honly₁.checkpoint.trans (honly.anchored h.anchored).checkpoint
    · show ((m₁.replay.rows.length : Int)) = _
      rw [honly₁.replay]
      exact (honly.anchored h.anchored).length
    · show m₁.replay.rows.getLast?.map acceptedEntry = _
      rw [honly₁.replay]
      exact (honly.anchored h.anchored).latest
  refine (post_writeCheckpointAndReplayLedger hanchored₃ hbelow hp.toChecked).mono ?_
    (fun _ h => h.elim)
  rintro _ db' ⟨replay, hreplay, htables, hidentity⟩
  have halerts : db'.alerts = m₃.alerts := by rw [htables]
  have hevents : db'.events = m₃.events := by rw [htables]
  have hreplay₃ : m₃.replay = db.replay := by
    rw [hwritten.only.replay, htables₂]
    exact honly₁.replay.trans honly.replay
  -- every field of `Accepted` is about the one step that wrote it
  refine ⟨sample, ?_⟩
  constructor
  · exact hd
  · refine hsampled.congr honly.samples honly.components ?_ ?_
    · rw [htables]
      exact hwritten.only.samples.trans (by rw [htables₂]; rfl)
    · rw [htables]
      exact hwritten.only.components.trans (by rw [htables₂]; rfl)
  · intro s
    rw [htables]
    show m₃.evaluation s = _
    rw [hwritten.only.evaluation, htables₂]
    rfl
  · rw [htables, ← hreplay₃]
    exact hreplay
  · rw [htables]
  · refine ⟨?_, ?_, ?_⟩
    · rw [halerts]
      exact hwritten.live.positive
    · rw [halerts]
      exact hwritten.live.earlier
    · rw [hevents]
      exact hwritten.live.events
  · intro q
    have hstep := hwritten.step q
    rw [book_congr halerts₂ hevents₂, hd.archived.book] at hstep
    rw [book_congr halerts hevents]
    exact hstep
  · have h₁ : EventsAdded (fun e => e.eventType = .archived ∨ Supported sample e) db m :=
      hd.archived.events.imp fun _ h => .inl h
    have h₂ : EventsAdded (fun e => e.eventType = .archived ∨ Supported sample e) m₂ m₃ :=
      hwritten.events.imp fun _ h => .inr h
    obtain ⟨new, hnew', hP⟩ := h₂
    refine h₁.trans ⟨new, ?_, hP⟩
    rw [hevents, hnew', hevents₂]
  · rw [htables]
    refine hwritten.only.migrations.trans ?_
    rw [htables₂]
    exact honly₁.migrations.trans honly.migrations
  · rw [hidentity, hwritten.only.identity, hidentity₂, honly₁.identity, honly.identity]

/-- From a coherent database the transaction makes an accepted step or is refused. -/
theorem post_ingestAccepted {db : Database} {c : Checkpoint} {rows : EvaluationRows}
    {baseline : Option Int} {p : HealthProjection} (h : CoherentAt db.toTables c rows baseline)
    (hp : p.Valid) (hbelow : c.Below p.observationSequence) :
    Post (ingestAccepted c p) db
      (fun outcome db' => ∃ d transitions m sample,
        Accepted db c rows baseline p d transitions m sample db' ∧ outcome = d.storage.outcome)
      (Refusal p) := by
  unfold ingestAccepted
  refine Post.bind (post_decideIngestion h hp.toChecked) ?_
  rintro d m ⟨transitions, hd⟩
  refine Post.bind ((post_persistDecision h hp hbelow hd).mono (fun _ _ h => h)
    (fun e he => by rw [he]; exact .full)) ?_
  rintro _ db' ⟨sample, haccepted⟩
  exact Post.pure ⟨d, transitions, m, sample, haccepted, rfl⟩

/-! ## Coherent again -/

/-- The history with the sample of a step. -/
theorem SampleStep.history {db db' : Database} {p : HealthProjection} {kind : Option SampleKind}
    {sample : Option Int} (h : SampleStep db p kind sample db') (hp : p.Valid)
    (hhistory : History db.toTables)
    (hnew : ∀ a ∈ db.samples.rows, a.observationSequence < p.observationSequence) :
    History db'.toTables := by
  cases h with
  | skipped samples components =>
    refine ⟨?_, ?_, ?_⟩
    · rw [samples]
      exact hhistory.positive
    · rw [samples]
      exact hhistory.increasing
    · rw [samples]
      intro r hr
      obtain ⟨q, hq⟩ := hhistory.holds r hr
      exact ⟨q, hq.valid, hq.row, by rw [components]; exact hq.components⟩
  | stored h => exact (h.history hp hhistory hnew).1

/-- No sample is newer than the ingested observation. -/
theorem SampleStep.covered {db db' : Database} {p : HealthProjection} {kind : Option SampleKind}
    {sample : Option Int} (h : SampleStep db p kind sample db')
    (hnew : ∀ a ∈ db.samples.rows, a.observationSequence < p.observationSequence) :
    ∀ r ∈ db'.samples.rows, r.observationSequence ≤ p.observationSequence := by
  intro r hr
  cases h with
  | skipped samples =>
    rw [samples] at hr
    exact (hnew r hr).le
  | stored h =>
    rw [h.samples] at hr
    rcases List.mem_append.mp hr with hr | hr
    · exact (hnew r hr).le
    · rw [List.mem_singleton.mp hr]
      exact le_rfl

namespace Accepted

variable {db : Database} {c : Checkpoint} {rows : EvaluationRows} {baseline : Option Int}
  {p : HealthProjection} {d : IngestionDecision}
  {transitions : AlertScope → HealthEvaluationTransition} {m : Database} {sample : Option Int}
  {db' : Database}

/-- The ledger stays anchored. -/
theorem anchored (h : Accepted db c rows baseline p d transitions m sample db')
    (hanchored : Anchored db.toTables c) : Anchored db'.toTables (c.next p) where
  checkpoint := h.checkpoint
  length := by
    have hlength := hanchored.length
    rw [h.replay]
    unfold ledgerOf List.rtake
    rw [List.length_drop, List.length_append, List.length_singleton]
    unfold Checkpoint.next maxBoundedCounter replayLedgerCapacity at *
    dsimp only at *
    omega
  latest := by
    have hlength : (ledgerOf (db.replay.rows ++ [acceptedRow p])).getLast? =
        some (acceptedRow p) := by
      unfold ledgerOf List.rtake
      rw [List.drop_append_of_le_length (by
        rw [List.length_append, List.length_singleton]
        unfold replayLedgerCapacity
        omega), List.getLast?_append_of_ne_nil _ (by simp)]
      rfl
    rw [h.replay, hlength]
    rfl

/-- The evaluator rows name one baseline again. -/
theorem evaluators (h : Accepted db c rows baseline p d transitions m sample db')
    (he : Evaluators db.toTables rows baseline) :
    Evaluators db'.toTables (nextRows rows transitions d.gap (newBaseline d.storage sample)
      (heartbeatAt p sample)) (newBaseline d.storage sample <|> baseline) where
  stored := h.evaluation
  agree := fun s => by rw [nextRows_lastSampleId, he.agree]
  heartbeat := by
    intro hbaseline s
    rw [nextRows_heartbeat]
    cases hsample : sample with
    | some i => simp [heartbeatAt]
    | none =>
      have hnone : newBaseline d.storage none = none := by
        unfold newBaseline
        split <;> rfl
      rw [hsample, hnone] at hbaseline
      exact he.heartbeat hbaseline s

/-- An accepted ingest keeps the database coherent. -/
theorem coherent (h : Accepted db c rows baseline p d transitions m sample db')
    (hcoherent : CoherentAt db.toTables c rows baseline) (hp : p.Valid)
    (hbelow : c.Below p.observationSequence) :
    CoherentAt db'.toTables (c.next p) (nextRows rows transitions d.gap
      (newBaseline d.storage sample) (heartbeatAt p sample))
      (newBaseline d.storage sample <|> baseline) where
  anchored := h.anchored hcoherent.anchored
  evaluators := h.evaluators hcoherent.evaluators
  history := h.sampled.history hp hcoherent.history (hcoherent.above hbelow)
  covered := fun r hr => ⟨p.observationSequence, rfl,
    h.sampled.covered (hcoherent.above hbelow) r hr⟩
  live := h.live

end Accepted

end Aurora.HealthHistory
