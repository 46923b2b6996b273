/-
  The alert book: what the alert tables are for.

  An `Episode` is one alert together with everything that happened to it, and the book of a
  (scope, kind) pair is the list of its episodes.  `PairStep` says what one ingest may do to the book
  of one pair, given what the evaluators ask for: nothing, a condition, or a recovery.  It is stated
  without identifiers of rows and without the order in which the code gets there; the modules below
  show that every accepted ingest makes exactly one such step on every pair.
-/
import Aurora.HealthHistory.Coherence

namespace Aurora.HealthHistory

open Ingestion

/-! ## Episodes -/

/-- An event of an alert, without the identifiers. -/
structure EventFact where
  event : LifecycleEvent
  eventAtUtcUs : Int
  supportingSampleId : Option Int
  resultingLifecycle : AlertLifecycle
deriving DecidableEq

/-- What an event says, without its identifiers. -/
def AlertEventRow.fact (e : AlertEventRow) : EventFact :=
  ⟨e.eventType, e.eventAtUtcUs, e.supportingSampleId, e.resultingLifecycle⟩

/-- One alert and its events in the order of their ids. -/
structure Episode where
  row : AlertRow
  facts : List EventFact
deriving DecidableEq

namespace Episode

/-- Something happened to the alert: a new row, and one more event with the row's lifecycle. -/
def record (e : Episode) (row : AlertRow) (event : LifecycleEvent) (now : Int)
    (sample : Option Int) : Episode :=
  ⟨row, e.facts ++ [⟨event, now, sample, row.lifecycle⟩]⟩

/-- The row of an archived alert. -/
def archivedRow (now : Int) (r : AlertRow) : AlertRow :=
  { r with lifecycle := .archived, archivedAtUtcUs := some now }

/-- The alert is archived. -/
def archive (now : Int) (e : Episode) : Episode :=
  e.record (archivedRow now e.row) .archived now none

/-- The row of an alert after one more occurrence. -/
def occurredRow (now : Int) (sample : Option Int) (r : AlertRow) : AlertRow :=
  { r with
    occurrenceCount := min (r.occurrenceCount + 1) maxBoundedCounter
    cooldownUntilUtcUs := max r.cooldownUntilUtcUs (Lifecycle.deadline now)
    latestSampleId := sample <|> r.latestSampleId }

/-- The condition was confirmed once more. -/
def occur (now : Int) (sample : Option Int) (e : Episode) : Episode :=
  e.record (occurredRow now sample e.row) .occurrenceUpdated now sample

/-- The row of an alert after its recovery. -/
def recoveredRow (now sample : Int) (r : AlertRow) : AlertRow :=
  { r with
    lifecycle := .recovered
    recoveredAtUtcUs := some now
    cooldownUntilUtcUs := max r.cooldownUntilUtcUs (Lifecycle.deadline now)
    latestSampleId := some sample }

/-- The alert recovered. -/
def recover (now sample : Int) (e : Episode) : Episode :=
  e.record (recoveredRow now sample e.row) .recovered now (some sample)

/-- The row of a fresh alert of a pair. -/
def openedRow (q : AlertPair) (now sample generation id : Int) : AlertRow where
  id := id
  scope := q.1
  kind := q.2
  lifecycle := .open
  severity := if q.2 = .degraded then .degraded else .unavailable
  openedAtUtcUs := now
  acknowledgedAtUtcUs := none
  recoveredAtUtcUs := none
  archivedAtUtcUs := none
  firstSampleId := some sample
  latestSampleId := some sample
  episodeCount := generation
  occurrenceCount := 1
  cooldownUntilUtcUs := Lifecycle.deadline now

/-- A fresh alert. -/
def opened (q : AlertPair) (now sample generation id : Int) : Episode :=
  ⟨openedRow q now sample generation id, [⟨.opened, now, some sample, .open⟩]⟩

end Episode

/-! ## The book -/

/-- The events of an alert. -/
def factsOf (events : List AlertEventRow) (alertId : Int) : List EventFact :=
  (events.filter fun e => e.alertId = alertId).map AlertEventRow.fact

/-- The alert with its events. -/
def episodeOf (events : List AlertEventRow) (r : AlertRow) : Episode := ⟨r, factsOf events r.id⟩

/-- The episodes of a pair. -/
def book (db : Database) (q : AlertPair) : List Episode :=
  (pairRows db q).map (episodeOf db.events.rows)

theorem book_rows (db : Database) (q : AlertPair) :
    (book db q).map Episode.row = pairRows db q := by
  unfold book
  rw [List.map_map]
  exact List.map_id _

/-- The automatic archival: every recovered alert whose cooldown has passed. -/
def archiveDue (now : Int) (eps : List Episode) : List Episode :=
  eps.map fun e => if Eligible now e.row then e.archive now else e

/-! ## What one ingest does to one pair -/

/-- What the evaluators ask for. -/
inductive Request
  | nothing | condition | recovery
deriving DecidableEq

/-- The generation of a new alert: one above the last one's of its pair, one above the escalated
    alert's, or the first. -/
def nextGeneration : Option AlertRow → Option Int → Int
  | some last, _ => last.episodeCount + 1
  | none, some escalated => escalated + 1
  | none, none => 1

/-- One ingest on the book of one pair, after the automatic archival.  `sample` is the sample the
    ingest stores, if any; `escalated` the generation of the degraded alert to escalate. -/
inductive PairStep (q : AlertPair) (now : Int) (sample escalated : Option Int) :
    Request → List Episode → List Episode → Prop
  /-- Nothing is asked for. -/
  | untouched (eps : List Episode) : PairStep q now sample escalated .nothing eps eps
  /-- Every earlier alert is archived, so a new one opens. -/
  | opened (eps : List Episode) (s id : Int) (stored : sample = some s)
      (archived : ∀ e ∈ eps, e.row.lifecycle = .archived) :
      PairStep q now sample escalated .condition eps
        (eps ++ [Episode.opened q now s (nextGeneration (eps.getLast?.map Episode.row) escalated)
          id])
  /-- The last alert is open, acknowledged or in its cooldown: one more occurrence. -/
  | occurred (eps : List Episode) (e : Episode)
      (live : e.row.lifecycle.Active ∨
        e.row.lifecycle = .recovered ∧ now < e.row.cooldownUntilUtcUs) :
      PairStep q now sample escalated .condition (eps ++ [e]) (eps ++ [e.occur now sample])
  /-- The same, but count and cooldown are already at their limits. -/
  | saturated (eps : List Episode) (e : Episode)
      (live : e.row.lifecycle.Active ∨
        e.row.lifecycle = .recovered ∧ now < e.row.cooldownUntilUtcUs)
      (count : e.row.occurrenceCount = maxBoundedCounter) :
      PairStep q now sample escalated .condition (eps ++ [e]) (eps ++ [e])
  /-- The last alert is open or acknowledged and recovers. -/
  | recovered (eps : List Episode) (e : Episode) (s : Int) (stored : sample = some s)
      (active : e.row.lifecycle.Active) :
      PairStep q now sample escalated .recovery (eps ++ [e]) (eps ++ [e.recover now s])
  /-- Nothing to recover. -/
  | inactive (eps : List Episode) (none : ∀ e ∈ eps, ¬e.row.lifecycle.Active) :
      PairStep q now sample escalated .recovery eps eps

/-! ## The book under changes of the tables -/

/-- Changing one alert and adding one event to it changes one episode. -/
theorem episodeOf_append {events : List AlertEventRow} {e : AlertEventRow} {r : AlertRow} :
    episodeOf (events ++ [e]) r =
      ⟨r, factsOf events r.id ++ if e.alertId = r.id then [e.fact] else []⟩ := by
  unfold episodeOf factsOf
  rw [List.filter_append, List.map_append]
  by_cases h : e.alertId = r.id
  · simp [h]
  · simp [h]

/-- The alert with this id is changed to `f` and gets the event `e`. -/
theorem book_record {db db' : Database} {e : AlertEventRow} {f : AlertRow → AlertRow}
    (hid : ∀ r, (f r).id = r.id) (hpair : ∀ r, (f r).pair = r.pair)
    (halerts : db'.alerts.rows = db.alerts.rows.map fun r => if r.id = e.alertId then f r else r)
    (hevents : db'.events.rows = db.events.rows ++ [e]) (q : AlertPair) :
    book db' q = (book db q).map fun x =>
      if x.row.id = e.alertId then ⟨f x.row, x.facts ++ [e.fact]⟩ else x := by
  unfold book pairRows
  rw [halerts, hevents, List.filter_map, List.map_map, List.map_map]
  have hfilter : (fun r : AlertRow => decide (r.pair = q)) ∘
      (fun r => if r.id = e.alertId then f r else r) = fun r => decide (r.pair = q) := by
    funext r
    simp only [Function.comp_apply]
    split
    · rw [hpair]
    · rfl
  rw [hfilter]
  refine List.map_congr_left fun r _ => ?_
  simp only [Function.comp_apply, episodeOf_append]
  by_cases h : r.id = e.alertId
  · simp [episodeOf, h, hid]
  · simp [episodeOf, h, Ne.symm h]

/-- A fresh alert with its first event becomes the last episode of its pair. -/
theorem book_opened {db db' : Database} {r : AlertRow} {e : AlertEventRow}
    (hfresh : ∀ a ∈ db.alerts.rows, a.id ≠ r.id) (hevent : e.alertId = r.id)
    (halerts : db'.alerts.rows = db.alerts.rows ++ [r])
    (hevents : db'.events.rows = db.events.rows ++ [e]) (q : AlertPair) :
    book db' q = book db q ++ if r.pair = q then [⟨r, [e.fact]⟩] else [] := by
  have hold : ∀ a ∈ db.alerts.rows,
      episodeOf (db.events.rows ++ [e]) a = episodeOf db.events.rows a := by
    intro a ha
    have hne : e.alertId ≠ a.id := by
      rw [hevent]
      exact (hfresh a ha).symm
    rw [episodeOf_append, if_neg hne, List.append_nil]
    rfl
  have hnew : episodeOf (db.events.rows ++ [e]) r = ⟨r, [e.fact]⟩ := by
    have hnone : factsOf db.events.rows r.id = [] := by
      unfold factsOf
      rw [List.map_eq_nil_iff, List.filter_eq_nil_iff]
      intro x hx hxr
      obtain ⟨a, ha, hax⟩ := db.consistent.eventAlert x hx
      exact hfresh a ha (hax.trans (by simpa using hxr))
    rw [episodeOf_append, if_pos hevent, hnone, List.nil_append]
  unfold book pairRows
  rw [halerts, hevents, List.filter_append, List.map_append]
  refine congrArg₂ (· ++ ·) (List.map_congr_left fun a ha => hold a (List.mem_filter.mp ha).1) ?_
  by_cases h : r.pair = q
  · simp [h, hnew]
  · simp [h]

theorem Episode.not_eligible_archivedRow (now : Int) (r : AlertRow) :
    ¬Eligible now (archivedRow now r) := by
  rintro ⟨h, -⟩
  cases h

/-- Nothing is due when no alert of the book is eligible. -/
theorem archiveDue_eq_self {now : Int} {eps : List Episode}
    (h : ∀ e ∈ eps, ¬Eligible now e.row) : archiveDue now eps = eps := by
  unfold archiveDue
  refine (List.map_congr_left fun e he => if_neg (h e he)).trans (List.map_id _)

end Aurora.HealthHistory
