/-
  Alerts over runs.

  Three results, all read off the book: at most one alert of a pair is live and it is the last one;
  every alert is what its events make of it; and after an ingest the alerts are what the evaluators
  asked for.  The first two are invariants that every `PairStep` and the automatic archival keep.
-/
import Mathlib.Data.List.Chain
import Aurora.HealthHistory.Runs

namespace Aurora.HealthHistory

open Ingestion Script

/-! ## Live alerts -/

/-- At most one alert of a pair is not archived. -/
theorem Ingestion.LiveLast.length_live {db : Database} (h : LiveLast db.toTables) (q : AlertPair) :
    ((pairRows db q).filter fun r => r.lifecycle ≠ .archived).length ≤ 1 := by
  rcases h.pairRows_cases q with hnil | ⟨earlier, r, hrows, harchived⟩
  · rw [hnil]
    decide
  · have hnone : earlier.filter (fun r => r.lifecycle ≠ .archived) = [] := by
      rw [List.filter_eq_nil_iff]
      intro a ha
      rw [harchived a ha]
      decide
    rw [hrows, List.filter_append, hnone, List.nil_append]
    exact List.length_filter_le _ _

/-- A recovered alert has the highest identifier of its pair. -/
theorem Ingestion.LiveLast.le_recovered {db : Database} (h : LiveLast db.toTables) {r : AlertRow}
    (hr : r ∈ db.alerts.rows) (hrecovered : r.lifecycle = .recovered) :
    ∀ a ∈ db.alerts.rows, a.pair = r.pair → a.id ≤ r.id := by
  intro a ha hpair
  by_contra hlt
  obtain ⟨i, hi, rfl⟩ := List.getElem_of_mem hr
  obtain ⟨k, hk, rfl⟩ := List.getElem_of_mem ha
  have hik : i < k := by
    by_contra hle
    rcases Nat.lt_or_eq_of_le (Nat.le_of_not_lt hle) with hki | rfl
    · have := List.pairwise_iff_getElem.mp db.alerts.sorted k i hk hi hki
      omega
    · omega
  have harchived := List.pairwise_iff_getElem.mp h.earlier i k hi hk hik hpair.symm
  rw [hrecovered] at harchived
  cases harchived

/-! ## Generations -/

/-- The rows of the archived book. -/
theorem archiveDue_rows (now : Int) (eps : List Episode) :
    (archiveDue now eps).map Episode.row = (eps.map Episode.row).map fun r =>
      if Eligible now r then Episode.archivedRow now r else r := by
  unfold archiveDue
  rw [List.map_map, List.map_map]
  refine List.map_congr_left fun e _ => ?_
  simp only [Function.comp_apply]
  split <;> rfl

/-- The archival on the rows of a pair. -/
theorem Archived.pairRows {now : Int} {db m : Database} (h : Archived now db m) (q : AlertPair) :
    pairRows m q = (pairRows db q).map fun r =>
      if Eligible now r then Episode.archivedRow now r else r := by
  rw [← book_rows, h.book, archiveDue_rows, book_rows]

/-- The archival leaves active alerts alone. -/
theorem Archived.activeRows {now : Int} {db m : Database} (h : Archived now db m) (q : AlertPair) :
    activeRows m q = activeRows db q := by
  unfold Ingestion.activeRows
  rw [h.pairRows, List.filter_map]
  have hsame : ((fun r : AlertRow => decide r.lifecycle.Active) ∘ fun r =>
      if Eligible now r then Episode.archivedRow now r else r) =
      fun r => decide r.lifecycle.Active := by
    funext r
    simp only [Function.comp_apply]
    split
    · rename_i hdue
      rw [hdue.1]
      rfl
    · rfl
  rw [hsame]
  refine (List.map_congr_left fun r hr => ?_).trans (List.map_id _)
  have hactive := of_decide_eq_true (List.mem_filter.mp hr).2
  rw [if_neg]
  · rfl
  · rintro ⟨hrecovered, -⟩
    rw [hrecovered] at hactive
    exact absurd hactive (by decide)

/-- Archiving changes nothing of what escalates. -/
theorem Archived.escalated {now : Int} {db m : Database} (h : Archived now db m) (q : AlertPair) :
    escalated m q = escalated db q := by
  unfold HealthHistory.escalated
  rw [h.activeRows]

/-- What a step adds to the book of a pair is one fresh alert with the next generation. -/
theorem PairStep.generation {q : AlertPair} {now : Int} {sample escalated : Option Int}
    {request : Request} {eps eps' : List Episode} (h : PairStep q now sample escalated request eps eps')
    {e : Episode} (he : e ∈ eps') (hnew : ∀ a ∈ eps, a.row.id ≠ e.row.id) :
    e.row.episodeCount = nextGeneration (eps.getLast?.map Episode.row) escalated := by
  cases h with
  | untouched => exact absurd rfl (hnew e he)
  | saturated eps x => exact absurd rfl (hnew e he)
  | inactive => exact absurd rfl (hnew e he)
  | opened s id =>
    rcases List.mem_append.mp he with he | he
    · exact absurd rfl (hnew e he)
    · rw [List.mem_singleton.mp he]
      rfl
  | occurred eps x =>
    rcases List.mem_append.mp he with he | he
    · exact absurd rfl (hnew e (List.mem_append_left _ he))
    · rw [List.mem_singleton.mp he] at hnew
      exact absurd rfl (hnew x (List.mem_append_right _ List.mem_cons_self))
  | recovered eps x =>
    rcases List.mem_append.mp he with he | he
    · exact absurd rfl (hnew e (List.mem_append_left _ he))
    · rw [List.mem_singleton.mp he] at hnew
      exact absurd rfl (hnew x (List.mem_append_right _ List.mem_cons_self))

/-- A new alert has the next generation of its pair. -/
theorem Accepted.generation {db db' m : Database} {c : Checkpoint} {rows : EvaluationRows}
    {baseline sample : Option Int} {p : HealthProjection} {d : IngestionDecision}
    {transitions : AlertScope → HealthEvaluationTransition}
    (h : Accepted db c rows baseline p d transitions m sample db') {r : AlertRow}
    (hr : r ∈ db'.alerts.rows) (hnew : ∀ a ∈ db.alerts.rows, a.id ≠ r.id) :
    r.episodeCount = nextGeneration (pairRows db r.pair).getLast? (escalated db r.pair) := by
  have hstep := h.step r.pair
  have hmem : episodeOf db'.events.rows r ∈ book db' r.pair :=
    List.mem_map.mpr ⟨r, mem_pairRows.mpr ⟨hr, rfl⟩, rfl⟩
  have hrows := archiveDue_rows p.recordedAtUtcUs (book db r.pair)
  rw [book_rows] at hrows
  have hfresh : ∀ a ∈ archiveDue p.recordedAtUtcUs (book db r.pair), a.row.id ≠ r.id := by
    intro a ha
    have hrow := List.mem_map_of_mem (f := Episode.row) ha
    rw [hrows] at hrow
    obtain ⟨a₀, ha₀, hsame⟩ := List.mem_map.mp hrow
    rw [← hsame]
    split
    · exact hnew a₀ (mem_pairRows.mp ha₀).1
    · exact hnew a₀ (mem_pairRows.mp ha₀).1
  have hgeneration := hstep.generation hmem hfresh
  rw [h.decided.archived.escalated, ← List.getLast?_map, hrows, List.getLast?_map] at hgeneration
  refine hgeneration.trans ?_
  cases (pairRows db r.pair).getLast? with
  | none => rfl
  | some last =>
    show (if _ then Episode.archivedRow _ last else last : AlertRow).episodeCount + 1 = _
    split <;> rfl

/-- Nothing the reading half checks can be missing. -/
theorem Refusal.not_malformed {p : HealthProjection} {e : Raised} (h : Refusal p e) :
    e ≠ .ingestion .malformedState := by
  cases h <;> decide

/-- In every state a run of ingests and cleanups reaches, at most one alert of a pair is not
    archived, and a recovered one is the last of its pair.  So at most eleven alerts are due at a
    time, no ingest meets a second live alert or more due alerts than that, and a new alert has the
    next generation of its pair. -/
theorem live_alerts_of_run {appliedAt : Int} {fresh : Database}
    (h : createSchemaV1 appliedAt = .ok fresh) (calls : List Call) :
    let db := runCalls fresh calls
    (∀ q, ((pairRows db q).filter fun r => r.lifecycle ≠ .archived).length ≤ 1) ∧
    (∀ r ∈ db.alerts.rows, r.lifecycle = .recovered →
      ∀ a ∈ db.alerts.rows, a.pair = r.pair → a.id ≤ r.id) ∧
    (∀ now, (db.alerts.rows.filter fun r => Eligible now r).length ≤ 11) ∧
    (∀ p checkpoint e, p.Valid → classification db p = .ok (checkpoint, false) →
      (ingestAccepted checkpoint p).run db = .error e → e ≠ .ingestion .malformedState) ∧
    ∀ F p, ∀ r ∈ (ingestProjection F db p).2.durable.alerts.rows,
      (∀ a ∈ db.alerts.rows, a.id ≠ r.id) →
        r.episodeCount = nextGeneration (pairRows db r.pair).getLast? (escalated db r.pair) := by
  dsimp only
  obtain ⟨c, rows, baseline, hcoherent⟩ := runCalls_coherent h calls
  generalize runCalls fresh calls = db at hcoherent
  have hlive := hcoherent.live
  refine ⟨hlive.length_live, fun r hr => hlive.le_recovered hr, hlive.length_eligible, ?_, ?_⟩
  · intro p checkpoint e hp hclass hrun
    obtain ⟨hanchored, hbelow⟩ := classification_false.mp hclass
    obtain rfl := hcoherent.anchored.unique hanchored
    exact ((post_ingestAccepted hcoherent hp hbelow).raised hrun).not_malformed
  · intro F p r hr hnew
    rcases durable_ingestProjection F db p with ⟨-, hsame⟩ | ⟨-, hp, outcome, hi⟩
    · rw [hsame] at hr
      exact absurd rfl (hnew r hr)
    · obtain ⟨-, d, transitions, m, sample, hstep, -⟩ := hi.accepted hcoherent hp
      exact hstep.generation hr hnew

theorem live_alerts_of_run_wled : ∃ fresh, createSchemaV1 0 = .ok fresh ∧
    (runCalls fresh (wledReports.map fun s => .ingest s.1 s.2)).alerts.rows.map
      AlertRow.lifecycle = [.archived, .archived] ∧
    ∀ q, ((pairRows (runCalls fresh (wledReports.map fun s => .ingest s.1 s.2)) q).filter
      fun r => r.lifecycle ≠ .archived).length ≤ 1 := by
  obtain ⟨fresh, hfresh⟩ : ∃ fresh, createSchemaV1 0 = .ok fresh := ⟨_, rfl⟩
  have hrows := (wledReports_archived hfresh).2.2
  rw [Journal.run_database] at hrows
  simp only [Journal.start] at hrows
  exact ⟨fresh, hfresh, hrows, (live_alerts_of_run hfresh _).1⟩

/-! ## Alerts are what their events make of them -/

/-- The steps an event may make from one lifecycle to the next; an alert is opened once, and nothing
    leads out of the archive. -/
def Ingestion.LifecycleStep : LifecycleEvent → AlertLifecycle → AlertLifecycle → Prop
  | .opened, _, _ => False
  | .occurrenceUpdated, before, after => before ≠ .archived ∧ after = before
  | .acknowledged, before, after => before = .open ∧ after = .acknowledged
  | .recovered, before, after => before.Active ∧ after = .recovered
  | .archived, before, after => before = .recovered ∧ after = .archived

/-- The alert is what its events, in their order, make of it. -/
structure Episode.Folded (e : Episode) : Prop where
  opened : ∃ first rest, e.facts = first :: rest ∧ first.event = .opened ∧
    first.resultingLifecycle = .open ∧ ∀ f ∈ rest, f.event ≠ .opened
  steps : e.facts.IsChain fun a b =>
    LifecycleStep b.event a.resultingLifecycle b.resultingLifecycle
  last : e.facts.getLast?.map EventFact.resultingLifecycle = some e.row.lifecycle
  count : e.row.occurrenceCount = min
    (1 + ((e.facts.countP fun f => f.event = .occurrenceUpdated : Nat) : Int)) maxBoundedCounter

namespace Episode.Folded

variable {e : Episode}

/-- One more event. -/
theorem record (h : e.Folded) {row : AlertRow} {event : LifecycleEvent} {now : Int}
    {sample : Option Int} (hstep : LifecycleStep event e.row.lifecycle row.lifecycle)
    (hcount : row.occurrenceCount = min (e.row.occurrenceCount +
      if event = .occurrenceUpdated then 1 else 0) maxBoundedCounter) :
    (e.record row event now sample).Folded where
  opened := by
    obtain ⟨first, rest, hfacts, hopened, hlifecycle, hrest⟩ := h.opened
    have hevent : event ≠ .opened := by
      rintro rfl
      exact hstep
    refine ⟨first, rest ++ [⟨event, now, sample, row.lifecycle⟩], ?_, hopened, hlifecycle, ?_⟩
    · unfold Episode.record
      rw [hfacts]
      rfl
    · intro f hf
      rcases List.mem_append.mp hf with hf | hf
      · exact hrest f hf
      · rw [List.mem_singleton.mp hf]
        exact hevent
  steps := by
    unfold Episode.record
    rw [List.isChain_append]
    refine ⟨h.steps, List.isChain_singleton _, ?_⟩
    intro a ha b hb
    have hlast := h.last
    rw [Option.mem_def.mp ha] at hlast
    obtain rfl := Option.some.inj (Option.mem_def.mp hb)
    show LifecycleStep event a.resultingLifecycle row.lifecycle
    -- the last event of the record left the lifecycle the row has now
    rw [show a.resultingLifecycle = e.row.lifecycle from Option.some.inj hlast]
    exact hstep
  last := by
    unfold Episode.record
    simp
  count := by
    have hold := h.count
    unfold Episode.record
    rw [List.countP_append]
    show row.occurrenceCount = _
    rw [hcount, hold]
    -- saturated or not, only another occurrence counts
    by_cases hevent : event = .occurrenceUpdated
    · rw [if_pos hevent]
      simp only [List.countP_cons, List.countP_nil, hevent, decide_true, if_true]
      unfold maxBoundedCounter
      push_cast
      omega
    · rw [if_neg hevent]
      simp only [List.countP_cons, List.countP_nil, hevent, decide_false]
      unfold maxBoundedCounter
      push_cast
      omega

theorem count_le (h : e.Folded) : e.row.occurrenceCount ≤ maxBoundedCounter := by
  rw [h.count]
  exact min_le_right _ _

/-- Archival, an occurrence, a recovery. -/
theorem archive (h : e.Folded) {now : Int} (hdue : Eligible now e.row) :
    (e.archive now).Folded := by
  refine h.record ⟨hdue.1, rfl⟩ ?_
  have := h.count_le
  rw [if_neg (by decide)]
  show e.row.occurrenceCount = _
  omega

/-- Another occurrence of a live alert is a legal step. -/
theorem occur (h : e.Folded) {now : Int} {sample : Option Int}
    (hlive : e.row.lifecycle ≠ .archived) : (e.occur now sample).Folded :=
  h.record ⟨hlive, rfl⟩ rfl

/-- The recovery of an active alert is a legal step. -/
theorem recover (h : e.Folded) {now sample : Int} (hactive : e.row.lifecycle.Active) :
    (e.recover now sample).Folded := by
  refine h.record ⟨hactive, rfl⟩ ?_
  have := h.count_le
  rw [if_neg (by decide)]
  show e.row.occurrenceCount = _
  omega

/-- A fresh alert. -/
theorem fresh (q : AlertPair) (now sample generation id : Int) :
    (Episode.opened q now sample generation id).Folded where
  opened := ⟨_, [], rfl, rfl, rfl, fun _ h => absurd h List.not_mem_nil⟩
  steps := List.isChain_singleton _
  last := rfl
  count := rfl

end Episode.Folded

/-- The automatic archival keeps every alert folded. -/
theorem archiveDue_folded {now : Int} {eps : List Episode} (h : ∀ e ∈ eps, e.Folded) :
    ∀ e ∈ archiveDue now eps, e.Folded := by
  intro e he
  obtain ⟨x, hx, rfl⟩ := List.mem_map.mp he
  by_cases hdue : Eligible now x.row
  · simpa only [if_pos hdue] using (h x hx).archive hdue
  · simpa only [if_neg hdue] using h x hx

/-- So does every step of a pair. -/
theorem PairStep.folded {q : AlertPair} {now : Int} {sample escalated : Option Int}
    {request : Request} {eps eps' : List Episode}
    (hstep : PairStep q now sample escalated request eps eps') (h : ∀ e ∈ eps, e.Folded) :
    ∀ e ∈ eps', e.Folded := by
  have happend : ∀ (earlier : List Episode) (x x' : Episode), (∀ e ∈ earlier ++ [x], e.Folded) →
      (x.Folded → x'.Folded) → ∀ e ∈ earlier ++ [x'], e.Folded := by
    intro earlier x x' hall hx e he
    rcases List.mem_append.mp he with he | he
    · exact hall e (List.mem_append_left _ he)
    · rw [List.mem_singleton.mp he]
      exact hx (hall x (List.mem_append_right _ List.mem_cons_self))
  cases hstep with
  | untouched => exact h
  | saturated => exact h
  | inactive => exact h
  | opened s id =>
    intro e he
    rcases List.mem_append.mp he with he | he
    · exact h e he
    · rw [List.mem_singleton.mp he]
      exact .fresh _ _ _ _ _
  | occurred earlier x hlive =>
    refine happend earlier x _ h fun hx => hx.occur ?_
    rcases hlive with (hlive | hlive) | ⟨hlive, -⟩ <;> rw [hlive] <;> decide
  | recovered earlier x s _ hactive => exact happend earlier x _ h fun hx => hx.recover hactive

/-- Every alert of the journal is what its events make of it. -/
structure Journal.Folded (j : Journal) : Prop where
  coherent : Coherent j.database
  folded : ∀ q, ∀ e ∈ book j.database q, e.Folded

/-- In every state a run of ingests reaches, every alert is the fold of its events. -/
theorem folded_of_run {appliedAt : Int} {fresh : Database}
    (h : createSchemaV1 appliedAt = .ok fresh) (submissions : List Submission) :
    let db := ((Journal.start fresh).run submissions).database
    ∀ r ∈ db.alerts.rows, (episodeOf db.events.rows r).Folded := by
  have hstart : (Journal.start fresh).Folded := by
    refine ⟨runCalls_coherent h [], fun q e he => ?_⟩
    obtain ⟨r, hr, -⟩ := List.mem_map.mp he
    have hmem := (mem_pairRows.mp hr).1
    rw [show (Journal.start fresh).database.alerts = Table.empty _ by
      show fresh.alerts = _
      rw [(createSchemaV1_eq_ok h).1]
      rfl] at hmem
    exact absurd hmem List.not_mem_nil
  have hrun : ((Journal.start fresh).run submissions).Folded := by
    refine Journal.run_invariant (I := Journal.Folded) hstart ?_ submissions
    rintro j j' p outcome hj hp - hi
    refine ⟨hi.coherent hj.coherent hp, fun q => ?_⟩
    obtain ⟨c, rows, baseline, hcoherent⟩ := hj.coherent
    obtain ⟨-, d, transitions, m, sample, hstep, -⟩ := hi.accepted hcoherent hp
    exact (hstep.step q).folded (archiveDue_folded (hj.folded q))
  intro db r hr
  exact hrun.folded r.pair _ (List.mem_map.mpr ⟨r, mem_pairRows.mpr ⟨hr, rfl⟩, rfl⟩)

theorem folded_of_run_wled : ∃ fresh, createSchemaV1 0 = .ok fresh ∧
    ((Journal.start fresh).run wledReports).database.alerts.rows.map AlertRow.lifecycle =
      [.archived, .archived] ∧
    ∀ r ∈ ((Journal.start fresh).run wledReports).database.alerts.rows,
      (episodeOf ((Journal.start fresh).run wledReports).database.events.rows r).Folded := by
  obtain ⟨fresh, hfresh⟩ : ∃ fresh, createSchemaV1 0 = .ok fresh := ⟨_, rfl⟩
  obtain ⟨-, -, hrows⟩ := wledReports_archived hfresh
  exact ⟨fresh, hfresh, hrows, folded_of_run hfresh wledReports⟩

/-! ## What an ingest leaves of the alerts -/

/-- A step that was asked for a condition leaves one live alert, the last one of its pair. -/
theorem PairStep.condition {q : AlertPair} {now : Int} {sample escalated : Option Int}
    {eps eps' : List Episode} (h : PairStep q now sample escalated .condition eps eps') :
    ∃ earlier e, eps' = earlier ++ [e] ∧ (e.row.lifecycle.Active ∨
      e.row.lifecycle = .recovered ∧ now < e.row.cooldownUntilUtcUs) := by
  cases h with
  | opened => exact ⟨_, _, rfl, .inl (.inl rfl)⟩
  | occurred earlier e hlive =>
    refine ⟨earlier, _, rfl, hlive.imp id fun ⟨hrecovered, hcooldown⟩ => ⟨hrecovered, ?_⟩⟩
    exact lt_max_of_lt_left hcooldown
  | saturated earlier e hlive => exact ⟨earlier, e, rfl, hlive⟩

/-- A step that was asked for a recovery leaves no active alert, if only the last one was live. -/
theorem PairStep.recovery {q : AlertPair} {now : Int} {sample escalated : Option Int}
    {eps eps' : List Episode} (h : PairStep q now sample escalated .recovery eps eps')
    (hearlier : ∀ earlier e, eps' = earlier ++ [e] → ∀ a ∈ earlier, a.row.lifecycle = .archived) :
    ∀ e ∈ eps', ¬e.row.lifecycle.Active := by
  cases h with
  | inactive _ hnone => exact hnone
  | recovered earlier x s hstored hactive =>
    intro e he
    rcases List.mem_append.mp he with he | he
    · rw [hearlier earlier _ rfl e he]
      decide
    · rw [List.mem_singleton.mp he]
      show ¬AlertLifecycle.recovered.Active
      decide

/-- The alerts of a book are the rows of its pair. -/
theorem pairRows_of_concat {db : Database} {q : AlertPair} {earlier : List Episode} {e : Episode}
    (h : book db q = earlier ++ [e]) :
    pairRows db q = earlier.map Episode.row ++ [e.row] := by
  rw [← book_rows, h, List.map_append]
  rfl

/-- A live last alert is the only one of its pair that is not archived. -/
theorem Ingestion.LiveLast.live_eq {db : Database} (h : LiveLast db.toTables) {q : AlertPair}
    {earlier : List AlertRow} {r : AlertRow} (hrows : pairRows db q = earlier ++ [r])
    (hr : r.lifecycle ≠ .archived) :
    ((pairRows db q).filter fun r => r.lifecycle ≠ .archived) = [r] := by
  have hlength := h.length_live q
  have hself : [r].filter (fun r => r.lifecycle ≠ .archived) = [r] := by simp [hr]
  rw [hrows, List.filter_append, hself] at hlength ⊢
  rw [List.length_append, List.length_singleton] at hlength
  rw [List.length_eq_zero_iff.mp (by omega : List.length (List.filter _ earlier) = 0)]
  rfl

/-- The decision of a complete ingest, what was written of it, and the accepted step they make. -/
theorem Ingestion.Ingests.decided {db db' : Database} {c : Checkpoint} {rows : EvaluationRows}
    {baseline : Option Int} {p : HealthProjection} {outcome : IngestionOutcome}
    (hi : Ingests db p outcome db') (h : CoherentAt db.toTables c rows baseline) (hp : p.Valid) :
    ∃ d m, classification db p = .ok (c, false) ∧ (decideIngestion c p).run db = .ok (d, m) ∧
      (persistDecision c p d).run m = .ok ((), db') ∧
      ∃ transitions sample, Accepted db c rows baseline p d transitions m sample db' := by
  obtain ⟨checkpoint, hclass, hrun⟩ := hi
  obtain ⟨hanchored, hbelow⟩ := classification_false.mp hclass
  obtain rfl := h.anchored.unique hanchored
  obtain ⟨d, m, hdecide, hrest⟩ := run_bind_eq_ok.mp hrun
  obtain ⟨u, n, hpersist, hreturn⟩ := run_bind_eq_ok.mp hrest
  obtain ⟨-, rfl⟩ := Prod.mk.inj (Except.ok.inj hreturn)
  obtain ⟨transitions, hd⟩ := (post_decideIngestion h hp.toChecked).returned hdecide
  obtain ⟨sample, haccepted⟩ := (post_persistDecision h hp hbelow hd).returned hpersist
  exact ⟨d, m, hclass, hdecide, hpersist, transitions, sample, haccepted⟩

/-- What an ingest leaves of the alerts, given what the health evaluators reported. -/
structure AlertsFollow (db db' : Database) (p : HealthProjection)
    (reports : List (AlertScope × HealthEvaluationTransition)) : Prop where
  scopes : reports.map Prod.fst = healthScopes
  /-- A confirmed condition has exactly one live alert. -/
  condition : ∀ s t, (s, t) ∈ reports → t.event = .conditionConfirmed →
    ∃ kind r, t.state.currentStatus.bind alertKindOfStatus = some kind ∧
      ((pairRows db' (s, kind)).filter fun r => r.lifecycle ≠ .archived) = [r] ∧
      (r.lifecycle.Active ∨ r.lifecycle = .recovered ∧ p.recordedAtUtcUs < r.cooldownUntilUtcUs)
  /-- A confirmed recovery leaves no active alert. -/
  recovery : ∀ s t, (s, t) ∈ reports → t.event = .recoveryConfirmed →
    ∀ r ∈ db'.alerts.rows, r.scope = s → ¬r.lifecycle.Active
  /-- Nothing reported: only due alerts are archived. -/
  nothing : ∀ s t, (s, t) ∈ reports → t.event = .none →
    ∀ kind, book db' (s, kind) = archiveDue p.recordedAtUtcUs (book db (s, kind))
  /-- New opened and recovered events refer to the sample of this ingest. -/
  supported : ∃ new, db'.events.rows = db.events.rows ++ new ∧
    ∀ e ∈ new, e.eventType = .opened ∨ e.eventType = .recovered →
      ∃ r ∈ db'.samples.rows, e.supportingSampleId = some r.id ∧
        r.observationSequence = p.observationSequence ∧ ∀ a ∈ db.samples.rows, a.id ≠ r.id

/-- What an accepted observation leaves of every pair. -/
theorem Accepted.follow {db db' m : Database} {c : Checkpoint} {rows : EvaluationRows}
    {baseline sample : Option Int} {p : HealthProjection} {d : IngestionDecision}
    {transitions : AlertScope → HealthEvaluationTransition}
    (h : Accepted db c rows baseline p d transitions m sample db') :
    AlertsFollow db db' p d.health := by
  have hreports : ∀ s t, (s, t) ∈ d.health → s ≠ .sampling ∧ transitions s = t := by
    intro s t hst
    rw [h.decided.health] at hst
    obtain ⟨s', hs', heq⟩ := List.mem_map.mp hst
    obtain ⟨rfl, rfl⟩ := Prod.mk.inj heq
    exact ⟨mem_healthScopes.mp hs', rfl⟩
  have hrequest : ∀ s ≠ AlertScope.sampling, ∀ kind,
      requestOf transitions d.gap (gapObservationHasMiss p) (s, kind) =
        healthRequest (transitions s) kind := fun s hs kind => if_neg hs
  have hlive := h.live
  -- the scopes, a condition, a recovery, no event, and the new events
  refine ⟨?_, ?_, ?_, ?_, ?_⟩
  · rw [h.decided.health, List.map_map]
    exact List.map_id _
  · intro s t hst hevent
    obtain ⟨hs, rfl⟩ := hreports s t hst
    obtain ⟨status, hcurrent, hunhealthy⟩ := (h.decided.evaluated s hs).condition hevent
    obtain ⟨kind, hkind⟩ : ∃ kind, alertKindOfStatus status = some kind := by
      cases status with
      | healthy => exact absurd rfl hunhealthy
      | degraded => exact ⟨_, rfl⟩
      | unavailable => exact ⟨_, rfl⟩
    have hbind : (transitions s).state.currentStatus.bind alertKindOfStatus = some kind := by
      rw [hcurrent]
      exact hkind
    have hstep := h.step (s, kind)
    rw [hrequest s hs, healthRequest, hevent] at hstep
    dsimp only at hstep
    rw [if_pos hbind] at hstep
    obtain ⟨earlier, e, hbook, hlast⟩ := hstep.condition
    refine ⟨kind, e.row, hbind, hlive.live_eq (pairRows_of_concat hbook) ?_, hlast⟩
    rcases hlast with (hlast | hlast) | ⟨hlast, -⟩ <;> rw [hlast] <;> decide
  · intro s t hst hevent r hr hscope hactive
    obtain ⟨hs, rfl⟩ := hreports s t hst
    have hne : r.kind ≠ .samplingGap := by
      rcases (db'.consistent.alertCheck r hr).scopeKind with ⟨hsampling, -⟩ | ⟨-, hk⟩
      · exact absurd (hscope.symm.trans hsampling) hs
      · exact hk
    have hstep := h.step (s, r.kind)
    rw [hrequest s hs, healthRequest, hevent] at hstep
    dsimp only at hstep
    rw [if_neg hne] at hstep
    have hmem : episodeOf db'.events.rows r ∈ book db' (s, r.kind) :=
      List.mem_map.mpr ⟨r, mem_pairRows.mpr ⟨hr, by rw [← hscope]; rfl⟩, rfl⟩
    refine hstep.recovery (fun earlier e hbook a ha => ?_) _ hmem hactive
    rcases hlive.pairRows_cases (s, r.kind) with hnil | ⟨earlier', r', hrows, harchived⟩
    · rw [pairRows_of_concat hbook] at hnil
      simp at hnil
    · rw [pairRows_of_concat hbook] at hrows
      obtain ⟨hearlier, -⟩ := List.append_inj' hrows rfl
      exact harchived _ (hearlier ▸ List.mem_map_of_mem (f := Episode.row) ha)
  · intro s t hst hevent kind
    obtain ⟨hs, rfl⟩ := hreports s t hst
    have hstep := h.step (s, kind)
    rw [hrequest s hs, healthRequest, hevent] at hstep
    dsimp only at hstep
    generalize book db' (s, kind) = eps' at hstep
    cases hstep
    rfl
  · obtain ⟨new, hrows, hnew⟩ := h.events
    refine ⟨new, hrows, fun e he hevent => ?_⟩
    obtain ⟨hsupporting, hsome⟩ := (hnew e he).resolve_left (by
      rintro harchived
      rw [harchived] at hevent
      revert hevent
      decide) hevent
    generalize hkind : d.storage.storedKind = kind
    cases hsampled : hkind ▸ h.sampled with
    | skipped => exact absurd rfl hsome
    | @stored kind id _ hstored =>
      refine ⟨sampleRow p kind id, ?_, hsupporting, rfl, fun a ha => (hstored.fresh a ha).ne⟩
      rw [hstored.samples]
      exact List.mem_append_right _ List.mem_cons_self

/-- After every ingest that takes effect, in any state a run reaches, the alerts are what the health
    evaluators asked for. -/
theorem alerts_follow_evaluators {appliedAt : Int} {fresh : Database}
    (h : createSchemaV1 appliedAt = .ok fresh) (calls : List Call) (F : SqliteFaults)
    (p : HealthProjection)
    (happlied : (ingestProjection F (runCalls fresh calls) p).2.applied = true) :
    ∃ checkpoint d m, classification (runCalls fresh calls) p = .ok (checkpoint, false) ∧
      (decideIngestion checkpoint p).run (runCalls fresh calls) = .ok (d, m) ∧
      (persistDecision checkpoint p d).run m =
        .ok ((), (ingestProjection F (runCalls fresh calls) p).2.durable) ∧
      AlertsFollow (runCalls fresh calls) (ingestProjection F (runCalls fresh calls) p).2.durable p
        d.health := by
  obtain ⟨c, rows, baseline, hcoherent⟩ := runCalls_coherent h calls
  rcases durable_ingestProjection F (runCalls fresh calls) p with
    ⟨hfalse, -⟩ | ⟨-, hp, outcome, hi⟩
  · exact absurd (happlied.symm.trans hfalse) (by decide)
  · obtain ⟨d, m, hclass, hdecide, hpersist, transitions, sample, hstep⟩ := hi.decided hcoherent hp
    exact ⟨c, d, m, hclass, hdecide, hpersist, hstep.follow⟩

theorem alerts_follow_evaluators_wled : ∃ fresh db, createSchemaV1 0 = .ok fresh ∧
    db = runCalls fresh ((wledReports.take 3).map fun s => .ingest s.1 s.2) ∧
    ∃ checkpoint d m db', (decideIngestion checkpoint
      (wledReport 3 8 .degraded .wledInfoTimeout)).run db = .ok (d, m) ∧
    db'.alerts.rows.map AlertRow.lifecycle = [.open, .open] ∧
    AlertsFollow db db' (wledReport 3 8 .degraded .wledInfoTimeout) d.health := by
  obtain ⟨fresh, hfresh⟩ : ∃ fresh, createSchemaV1 0 = .ok fresh := ⟨_, rfl⟩
  obtain ⟨happlied, hrows⟩ := wledReports_opened hfresh
  rw [Journal.run_database] at happlied hrows
  simp only [Journal.start] at happlied hrows
  obtain ⟨checkpoint, d, m, -, hdecide, -, hfollow⟩ :=
    alerts_follow_evaluators hfresh _ _ _ happlied
  exact ⟨fresh, _, hfresh, rfl, checkpoint, d, m, _, hdecide, hrows, hfollow⟩

end Aurora.HealthHistory
