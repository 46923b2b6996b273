/-
  Writing plans makes the steps of the alert book.

  `post_persistPlan` is the step lemma: one plan, written in any state that still has the rows of its
  pair, makes one `PairStep` on that pair and none on the others.  `post_persistPlans` is the loop:
  the plans of one ingest together make one step on every pair.
-/
import Aurora.HealthHistory.AlertPlans

namespace Aurora.HealthHistory

open Ingestion Script

/-! ## The book when one alert changes -/

/-- The last episode of a pair is its last row. -/
theorem getLast?_book (db : Database) (q : AlertPair) :
    (book db q).getLast?.map Episode.row = (pairRows db q).getLast? := by
  rw [← List.getLast?_map, book_rows]

/-- Changing the last alert of a pair changes the last episode of its book and no other book. -/
theorem Recorded.book_last {db db' : Database} {f : AlertRow → AlertRow} {e : AlertEventRow}
    {r : AlertRow} {q : AlertPair} (h : Recorded db db' f e) (hid : ∀ r, (f r).id = r.id)
    (hpair : ∀ r, (f r).pair = r.pair) (her : e.alertId = r.id)
    (hlast : (pairRows db q).getLast? = some r) :
    (∃ eps, book db q = eps ++ [episodeOf db.events.rows r] ∧
      book db' q = eps ++ [⟨f r, (episodeOf db.events.rows r).facts ++ [e.fact]⟩]) ∧
    ∀ q' ≠ q, book db' q' = book db q' := by
  obtain ⟨init, hinit⟩ := List.getLast?_eq_some_iff.mp hlast
  have hr := mem_pairRows.mp (List.mem_of_getLast? hlast)
  have hnodup : (init ++ [r]).Nodup := by
    rw [← hinit]
    exact db.alerts.nodup.filter _
  have hmem : ∀ {q' : AlertPair} {x : Episode}, x ∈ book db q' → x.row ∈ pairRows db q' := by
    intro q' x hx
    rw [← book_rows]
    exact List.mem_map_of_mem hx
  have hbook := fun q' => book_record hid hpair h.alerts h.events q'
  constructor
  · refine ⟨init.map (episodeOf db.events.rows), ?_, ?_⟩
    · unfold book
      rw [hinit, List.map_append]
      rfl
    · have hbookq : book db q = init.map (episodeOf db.events.rows) ++ [episodeOf db.events.rows r] := by
        unfold book
        rw [hinit, List.map_append]
        rfl
      rw [hbook, hbookq, List.map_append]
      refine congrArg₂ (· ++ ·) ?_ ?_
      · refine (List.map_congr_left fun x hx => if_neg fun hxe => ?_).trans (List.map_id _)
        obtain ⟨a, ha, rfl⟩ := List.mem_map.mp hx
        have har : a ∈ db.alerts.rows :=
          (mem_pairRows.mp (hinit ▸ List.mem_append_left _ ha)).1
        obtain rfl : a = r := db.alerts.mem_unique har hr.1 (hxe.trans her)
        exact (List.nodup_append.mp hnodup).2.2 a ha a List.mem_cons_self rfl
      · rw [List.map_singleton,
          if_pos (show (episodeOf db.events.rows r).row.id = e.alertId from her.symm)]
        rfl
  · intro q' hne
    rw [hbook]
    refine (List.map_congr_left fun x hx => if_neg fun hxe => hne ?_).trans (List.map_id _)
    obtain ⟨hx, hxq⟩ := mem_pairRows.mp (hmem hx)
    rw [← hxq, db.alerts.mem_unique hx hr.1 (hxe.trans her), hr.2]

/-! ## One plan -/

/-- An opened or recovered event refers to the sample. -/
def Supported (sample : Option Int) (e : AlertEventRow) : Prop :=
  e.eventType = .opened ∨ e.eventType = .recovered →
    e.supportingSampleId = sample ∧ sample ≠ none

/-- Writing a plan for the pair `q`. -/
structure PlanWritten (q : AlertPair) (now : Int) (sample escalated : Option Int)
    (request : Request) (db db' : Database) : Prop where
  only : OnlyAlerts db db'
  live : LiveLast db'.toTables
  step : PairStep q now sample escalated request (book db q) (book db' q)
  others : ∀ q' ≠ q, book db' q' = book db q'
  events : EventsAdded (Supported sample) db db'

/-- A plan needs a stored sample when it opens or recovers an alert. -/
def Ingestion.AlertPlan.NeedsSample (plan : AlertPlan) : Prop :=
  plan.transition.event = some .opened ∨ plan.transition.event = some .recovered

/-- What persisting a plan leaves of its pair. -/
theorem post_persistPlan {db₀ db : Database} {q : AlertPair} {now : Int}
    {sample escalated : Option Int} {request : Request} {plan : AlertPlan}
    (hlive : LiveLast db.toTables) (hsame : pairRows db q = pairRows db₀ q)
    (hplan : Plans db₀ now q escalated request plan) (hsample : db.SampleExists sample)
    (hneeds : plan.NeedsSample → sample ≠ none) :
    Post (persistAlertPlan plan now sample) db
      (fun _ db' => PlanWritten q now sample escalated request db db') (· = .sqlite .full) := by
  -- each kind of plan writes one row and one event, or nothing at all
  cases hplan with
  | saturated _ r hlast hl hcount _ hpersist =>
    rw [hpersist]
    rw [← hsame] at hlast
    obtain ⟨init, hinit⟩ := List.getLast?_eq_some_iff.mp hlast
    refine Post.pure ⟨.refl db, hlive, ?_, fun _ _ => rfl, .refl db⟩
    have hbook : book db q = init.map (episodeOf db.events.rows) ++ [episodeOf db.events.rows r] := by
      unfold book
      rw [hinit, List.map_append]
      rfl
    rw [hbook]
    exact .saturated _ _ hl hcount
  | opened _ hq hnow hgeneration harchived hevent hpersist =>
    obtain ⟨s, rfl⟩ := Option.ne_none_iff_exists'.mp (hneeds (.inl hevent))
    rw [hpersist]
    rw [← hsame] at harchived
    refine (post_openAlert hlive harchived hq hnow hgeneration rfl
      ((Tables.sampleExists_some _ _).mp hsample)).mono ?_ (fun _ h => h)
    rintro _ db' ⟨hlive', id, k, hopened⟩
    have hbook := fun q' => book_opened (fun a ha => (hopened.fresh a ha).ne) rfl hopened.alerts
      hopened.events q'
    have hpair : (Episode.openedRow q now s (nextGeneration (pairRows db₀ q).getLast? escalated)
        id).pair = q := rfl
    refine ⟨hopened.only, hlive', ?_, fun q' hne => ?_, .single hopened.events ?_⟩
    · rw [hbook, if_pos hpair]
      have hall : ∀ e ∈ book db q, e.row.lifecycle = .archived := fun e he => by
        refine harchived _ ?_
        rw [← book_rows]
        exact List.mem_map_of_mem he
      have hstep : PairStep q now (some s) escalated .condition _ _ :=
        .opened (book db q) s id rfl hall
      rw [getLast?_book, hsame] at hstep
      exact hstep
    · rw [hbook, if_neg (by rw [hpair]; exact hne.symm), List.append_nil]
    · exact fun _ => ⟨rfl, by simp⟩
  | occurred _ r s hnow hlast hof hl _ hpersist =>
    rw [hpersist]
    rw [← hsame] at hlast
    have hr := (mem_pairRows.mp (List.mem_of_getLast? hlast)).1
    have hnot : r.lifecycle ≠ .archived := by
      rcases hl with (h | h) | ⟨h, -⟩ <;> rw [h] <;> decide
    have hallowed : (Lifecycle.occurrenceUpdated s.state now hnow).lifecycle ∈
        LifecycleEvent.occurrenceUpdated.allowed := by
      rw [show (Lifecycle.occurrenceUpdated s.state now hnow).lifecycle = r.lifecycle from
        hof.lifecycle]
      rcases hl with (h | h) | ⟨h, -⟩ <;> rw [h] <;> decide
    have hcheck := (hlive.check hr).2.occurred sample hnow
    rw [← hof.occurredRow hnow] at hcheck
    refine (post_updateAlert hlive hr hnot hcheck hnow hallowed hsample).mono ?_ (fun _ h => h)
    rintro _ db' ⟨hlive', k, hrecorded⟩
    obtain ⟨⟨eps, hbook, hbook'⟩, hothers⟩ := hrecorded.book_last
      (updatedAlert_id .occurrenceUpdated _ now sample) updatedAlert_pair rfl hlast
    refine ⟨hrecorded.only, hlive', ?_, hothers, .single hrecorded.events fun h => ?_⟩
    · rw [hbook, hbook', hof.occurredRow hnow]
      have hstep : PairStep q now sample escalated .condition _ _ :=
        .occurred eps (episodeOf db.events.rows r) hl
      unfold Episode.occur Episode.record at hstep
      rw [← show (Lifecycle.occurrenceUpdated s.state now hnow).lifecycle =
        (Episode.occurredRow now sample (episodeOf db.events.rows r).row).lifecycle from
          hof.lifecycle] at hstep
      exact hstep
    · rcases h with h | h <;> cases h
  | recovered _ r s hnow hlast hof hactive hevent hpersist =>
    obtain ⟨i, rfl⟩ := Option.ne_none_iff_exists'.mp (hneeds (.inr hevent))
    rw [hpersist]
    rw [← hsame] at hlast
    have hr := (mem_pairRows.mp (List.mem_of_getLast? hlast)).1
    have hnot : r.lifecycle ≠ .archived := by
      rcases hactive with h | h <;> rw [h] <;> decide
    have hcheck := (hlive.check hr).2.recovered i hactive hnow
    rw [← hof.recoveredRow hnow] at hcheck
    refine (post_updateAlert hlive hr hnot hcheck hnow (by simp [Lifecycle.recovered,
      LifecycleEvent.allowed]) hsample).mono ?_ (fun _ h => h)
    rintro _ db' ⟨hlive', k, hrecorded⟩
    obtain ⟨⟨eps, hbook, hbook'⟩, hothers⟩ := hrecorded.book_last
      (updatedAlert_id .recovered _ now (some i)) updatedAlert_pair rfl hlast
    refine ⟨hrecorded.only, hlive', ?_, hothers, .single hrecorded.events fun _ => ⟨rfl, by simp⟩⟩
    rw [hbook, hbook', hof.recoveredRow hnow]
    exact .recovered eps (episodeOf db.events.rows r) i rfl hactive

/-! ## All plans -/

/-- The book of a pair determines its rows. -/
theorem pairRows_of_book {db db' : Database} {q : AlertPair} (h : book db' q = book db q) :
    pairRows db' q = pairRows db q := by
  rw [← book_rows, ← book_rows, h]

/-- The plans of different pairs are written one after the other. -/
theorem post_persistPlanList {db₀ : Database} {now : Int} {sample : Option Int}
    {request : AlertPair → Request} {targets : List AlertPair} {plans : List AlertPlan}
    (hplans : List.Forall₂ (fun q plan => Plans db₀ now q (escalated db₀ q) (request q) plan)
      targets plans)
    (hneeds : ∀ plan ∈ plans, plan.NeedsSample → sample ≠ none) :
    ∀ {db : Database}, targets.Nodup → LiveLast db.toTables →
      (∀ q ∈ targets, pairRows db q = pairRows db₀ q) → db.SampleExists sample →
      Post (plans.forM fun plan => persistAlertPlan plan now sample) db
        (fun _ db' => OnlyAlerts db db' ∧ LiveLast db'.toTables ∧
          (∀ q ∈ targets, PairStep q now sample (escalated db₀ q) (request q) (book db q)
            (book db' q)) ∧
          (∀ q ∉ targets, book db' q = book db q) ∧ EventsAdded (Supported sample) db db')
        (· = .sqlite .full) := by
  induction hplans with
  | nil =>
    intro db _ hlive _ _
    exact Post.pure ⟨.refl db, hlive, fun q hq => absurd hq List.not_mem_nil, fun _ _ => rfl,
      .refl db⟩
  | @cons q plan targets plans hplan _ ih =>
    intro db hnodup hlive hsame hsample
    obtain ⟨hq, hrest⟩ := List.nodup_cons.mp hnodup
    obtain ⟨hneed, hneeds'⟩ := List.forall_mem_cons.mp hneeds
    refine Post.bind (post_persistPlan hlive (hsame q List.mem_cons_self) hplan hsample hneed) ?_
    intro _ m hwritten
    have hsame' : ∀ q' ∈ targets, pairRows m q' = pairRows db₀ q' := fun q' hq' => by
      have hne : q' ≠ q := fun h => hq (h ▸ hq')
      rw [pairRows_of_book (hwritten.others q' hne), hsame q' (List.mem_cons_of_mem _ hq')]
    refine (ih hneeds' hrest hwritten.live hsame' (hwritten.only.sampleExists hsample)).mono ?_
      (fun _ h => h)
    rintro _ db' ⟨honly, hlive', hsteps, hothers, hevents⟩
    refine ⟨hwritten.only.trans honly, hlive', fun q' hq' => ?_, fun q' hq' => ?_,
      hwritten.events.trans hevents⟩
    · rcases List.mem_cons.mp hq' with rfl | hq'
      · rw [hothers q' hq]
        exact hwritten.step
      · have hne : q' ≠ q := fun h => hq (h ▸ hq')
        rw [← hwritten.others q' hne]
        exact hsteps q' hq'
    · have hne : q' ≠ q := fun h => hq' (h ▸ List.mem_cons_self)
      rw [hothers q' fun h => hq' (List.mem_cons_of_mem _ h), hwritten.others q' hne]

/-- Writing the plans made in `db₀`. -/
structure PlansWritten (db₀ : Database) (now : Int) (sample : Option Int)
    (request : AlertPair → Request) (db db' : Database) : Prop where
  only : OnlyAlerts db db'
  live : LiveLast db'.toTables
  step : ∀ q, PairStep q now sample (escalated db₀ q) (request q) (book db q) (book db' q)
  events : EventsAdded (Supported sample) db db'

/-- The plans of one ingest make one step on every pair. -/
theorem post_persistPlans {db₀ db : Database} {now : Int} {sample : Option Int}
    {request : AlertPair → Request} {plans : List AlertPlan}
    (hcovers : Covers db₀ now request (fun _ => True) plans) (hlive : LiveLast db.toTables)
    (hsame : db.alerts = db₀.alerts) (hsample : db.SampleExists sample)
    (hneeds : ∀ plan ∈ plans, plan.NeedsSample → sample ≠ none) :
    Post (plans.forM fun plan => persistAlertPlan plan now sample) db
      (fun _ db' => PlansWritten db₀ now sample request db db') (· = .sqlite .full) := by
  obtain ⟨targets, hnodup, -, hplans, hrest⟩ := hcovers
  have hrows : ∀ q, pairRows db q = pairRows db₀ q := fun q => by
    unfold pairRows
    rw [hsame]
  refine (post_persistPlanList hplans hneeds hnodup hlive (fun q _ => hrows q) hsample).mono ?_
    (fun _ h => h)
  rintro _ db' ⟨honly, hlive', hsteps, hothers, hevents⟩
  refine ⟨honly, hlive', fun q => ?_, hevents⟩
  by_cases hq : q ∈ targets
  · exact hsteps q hq
  · rw [hothers q hq]
    rcases hrest q trivial hq with hnothing | ⟨hrecovery, hnone⟩
    · rw [hnothing]
      exact .untouched _
    · rw [hrecovery]
      refine .inactive _ fun e he hactive => ?_
      have hmem : e.row ∈ pairRows db₀ q := by
        rw [← hrows, ← book_rows]
        exact List.mem_map_of_mem he
      have hrow : e.row ∈ activeRows db₀ q :=
        mem_activeRows.mpr ⟨(mem_pairRows.mp hmem).1, (mem_pairRows.mp hmem).2, hactive⟩
      rw [hnone] at hrow
      exact List.not_mem_nil hrow

end Aurora.HealthHistory
