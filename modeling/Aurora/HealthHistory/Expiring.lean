/-
  Which deletions are due, and in which order.

  `dueActions` lists every deletion that is due, in the canonical order: by time, a sample before an
  alert of the same time, then by identifier, and the events of an alert before the alert.  A plan is
  the first 500 of them, although each query of the plan is limited by itself.  Carrying out the first
  due deletion takes it off the list and leaves the rest as it was (`dueActions_tables`).
-/
import Aurora.Lib.Sorting
import Aurora.HealthHistory.Retaining

namespace Aurora.HealthHistory

open Ingestion Maintenance Queries Script

/-! ## The orders -/

instance : Std.Total byRetention := ⟨fun a b => by
  unfold byRetention
  omega⟩

instance : IsTrans RetentionCandidate byRetention := ⟨fun a b c h h' => by
  unfold byRetention at *
  omega⟩

theorem typeOrder_injective {a b : CandidateKind} (h : a.typeOrder = b.typeOrder) : a = b := by
  cases a <;> cases b <;> first | rfl | exact absurd h (by decide)

instance : Std.Antisymm byRetention := ⟨fun a b h h' => by
  obtain ⟨t, kind, i⟩ := a
  obtain ⟨t', kind', i'⟩ := b
  unfold byRetention at h h'
  dsimp only at h h'
  obtain rfl : t = t' := by omega
  obtain rfl : kind = kind' := typeOrder_injective (by omega)
  obtain rfl : i = i' := by omega
  rfl⟩

instance {ρ : Type} (position : ρ → Int × Int) : Std.Total (oldestFirst position) := ⟨fun a b => by
  unfold oldestFirst positionLt
  omega⟩

instance {ρ : Type} (position : ρ → Int × Int) : IsTrans ρ (oldestFirst position) :=
  ⟨fun a b c h h' => by
    unfold oldestFirst positionLt at *
    omega⟩

/-! ## What is due -/

/-- The candidate of a sample, -/
def sampleCandidate (r : HealthSampleRow) : RetentionCandidate := ⟨r.observedAtUtcUs, .health, r.id⟩

/-- and of an archived alert. -/
def archivedCandidate (r : AlertRow) : RetentionCandidate :=
  ⟨r.recoveredAtUtcUs.getD 0, .alert, r.id⟩

/-- The samples and alerts past the cutoff, in canonical order. -/
def candidates (cutoff : Int) (t : Tables) : List RetentionCandidate :=
  ((t.samples.rows.filter fun r => r.observedAtUtcUs < cutoff).map sampleCandidate ++
    (t.alerts.rows.filter fun r => Expired cutoff r).map archivedCandidate).insertionSort byRetention

/-- The events of an alert, oldest first. -/
def alertEvents (t : Tables) (alertId : Int) : List AlertEventRow :=
  (t.events.rows.filter fun e => e.alertId = alertId).insertionSort (oldestFirst eventPosition)

/-- The deletions for a candidate: the events of an alert come before the alert. -/
def candidateActions (t : Tables) (c : RetentionCandidate) : List DeletionAction :=
  match c.kind with
  | .health => [.health c.rowId]
  | .alert => (alertEvents t c.rowId).map (fun e => .event e.id c.rowId) ++ [.alert c.rowId]

/-- Every deletion that is due, in canonical order. -/
def dueActions (cutoff : Int) (t : Tables) : List DeletionAction :=
  (candidates cutoff t).flatMap (candidateActions t)

/-- Every candidate deletes at least its own row. -/
theorem candidateActions_ne_nil (t : Tables) (c : RetentionCandidate) :
    candidateActions t c ≠ [] := by
  unfold candidateActions
  split
  · exact List.cons_ne_nil _ _
  · exact List.append_ne_nil_of_right_ne_nil _ (List.cons_ne_nil _ _)

/-! ## The plan -/

section Plan

variable {db : Database} {cutoff : Int}

/-- An expired sample becomes a candidate. -/
theorem Readable.run_healthCandidate (h : Readable db) {r : HealthSampleRow}
    (hr : r ∈ db.samples.rows) (hdue : r.observedAtUtcUs < cutoff) :
    (healthCandidate cutoff r).run db = .ok (sampleCandidate r, db) := by
  obtain ⟨record, hrecord⟩ := h.samples r hr
  obtain ⟨hid, hat⟩ := healthSampleRecord_eq_ok hrecord
  unfold healthCandidate checkDeadline attempt Maintenance.trust
  rw [run_bind, run_pollOnce]
  dsimp only
  rw [run_bind_ok hrecord, run_bind, run_pollOnce]
  dsimp only
  rw [run_bind, run_ofExcept, hat, require_pos hdue]
  dsimp only [map_ok]
  rw [run_pure, hid]
  rfl

/-- An expired alert becomes a candidate. -/
theorem Readable.run_alertCandidate (h : Readable db) {r : AlertRow} (hr : r ∈ db.alerts.rows)
    (hdue : Expired cutoff r) :
    (alertCandidate cutoff r).run db = .ok (archivedCandidate r, db) := by
  unfold alertCandidate checkDeadline attempt Maintenance.trust
  rw [run_bind, run_pollOnce]
  dsimp only
  rw [run_bind_ok (h.alerts r hr), run_bind, run_pollOnce]
  dsimp only
  rw [run_bind, run_ofExcept, require_pos hdue]
  rfl

theorem Readable.run_readEvent (h : Readable db) {alertId : Int} {e : AlertEventRow}
    (he : e ∈ db.events.rows) (halert : e.alertId = alertId) :
    (readEvent alertId e).run db = .ok (e, db) := by
  subst halert
  unfold readEvent checkDeadline
  rw [run_bind, run_pollOnce]
  dsimp only
  rw [run_bind_ok (h.events e he), run_bind, run_pollOnce]
  rfl

/-- The limited query of samples gives the first of the sorted candidates. -/
theorem selectHealthCandidates_map : (selectHealthCandidates cutoff db).map sampleCandidate =
    (((db.samples.rows.filter fun r => r.observedAtUtcUs < cutoff).map
      sampleCandidate).insertionSort byRetention).take retentionRowBudget := by
  unfold selectHealthCandidates
  rw [List.map_take, List.map_insertionSort _ byRetention]
  intro a _ b _
  unfold oldestFirst positionLt byRetention samplePosition sampleCandidate
  dsimp only
  omega

/-- The selected alerts are the first of the expired ones in the canonical order. -/
theorem selectAlertCandidates_map : (selectAlertCandidates cutoff db).map archivedCandidate =
    (((db.alerts.rows.filter fun r => Expired cutoff r).map
      archivedCandidate).insertionSort byRetention).take retentionRowBudget := by
  unfold selectAlertCandidates
  rw [List.map_take, List.map_insertionSort _ byRetention]
  intro a _ b _
  unfold oldestFirst positionLt byRetention recoveryPosition archivedCandidate
  dsimp only
  omega

/-- The deletions of an alert are cut at the budget. -/
theorem alertActions_take (alertId : Int) (remaining : Nat) (events : List AlertEventRow) :
    alertActions alertId remaining (events.take (remaining + 1)) =
      (events.map (fun e : AlertEventRow => DeletionAction.event e.id alertId) ++
        [DeletionAction.alert alertId]).take remaining := by
  unfold alertActions
  dsimp only
  rw [List.take_take, Nat.min_eq_left (by omega), List.take_append, List.map_take,
    List.length_take, List.length_take, List.length_map]
  by_cases h : events.length < remaining
  · rw [if_pos (by omega), List.take_of_length_le (l := [DeletionAction.alert alertId]) (by
      rw [List.length_singleton]
      omega)]
  · rw [if_neg (by omega), show remaining - events.length = 0 by omega, List.take_zero,
      List.append_nil]

/-- What is cut off later may be cut off before. -/
theorem take_append_take {α : Type} (a x y : List α) (k : Nat) :
    (a ++ (x.take k ++ y)).take (a.length + k) = (a ++ (x ++ y)).take (a.length + k) := by
  have hlength : k - (x.take k).length = k - x.length := by
    rw [List.length_take]
    omega
  rw [List.take_length_add_append, List.take_length_add_append, List.take_append, List.take_append,
    List.take_take, Nat.min_self, hlength]

/-- By induction on the candidates: the plan is the prefix of all their actions. -/
theorem Readable.run_planActions (h : Readable db) : ∀ (cs : List RetentionCandidate)
    (actions : List DeletionAction), actions.length ≤ retentionRowBudget →
    (planActions cs actions).run db = .ok
      ((actions ++ cs.flatMap (candidateActions db.toTables)).take retentionRowBudget, db)
  | [], actions, hlength => by
    rw [List.flatMap_nil, List.append_nil, List.take_of_length_le hlength]
    rfl
  | c :: cs, actions, hlength => by
    unfold planActions checkDeadline
    rw [run_bind, run_pollOnce]
    dsimp only
    -- a full budget ends the plan; what is left of it goes to the next candidate
    by_cases hfull : retentionRowBudget - actions.length = 0
    · rw [if_pos hfull, run_pure, List.take_append_of_le_length (by omega),
        List.take_of_length_le hlength]
    · rw [if_neg hfull, List.flatMap_cons]
      cases hkind : c.kind with
      | health =>
        dsimp only
        rw [h.run_planActions cs _ (by simp only [List.length_append, List.length_singleton]; omega),
          List.append_assoc]
        unfold candidateActions
        rw [hkind]
      | alert =>
        dsimp only
        have hselected : selectEventCandidates c.rowId
            (retentionRowBudget - actions.length + 1) db =
            (alertEvents db.toTables c.rowId).take (retentionRowBudget - actions.length + 1) := rfl
        -- one event more than the budget is read, to see whether all of them fit
        have hread : ((selectEventCandidates c.rowId
            (retentionRowBudget - actions.length + 1) db).mapM (readEvent c.rowId)).run db =
            .ok ((alertEvents db.toTables c.rowId).take
              (retentionRowBudget - actions.length + 1), db) := by
          rw [hselected, run_mapM_map (g := id), List.map_id]
          intro e he
          have he := (List.mem_insertionSort _).mp (List.mem_of_mem_take he)
          obtain ⟨he, halert⟩ := List.mem_filter.mp he
          exact h.run_readEvent he (by simpa using halert)
        have hpolls : ∀ events : List AlertEventRow, (events.forM fun _ => checkDeadline).run db =
            .ok ((), db) := by
          intro events
          induction events with
          | nil => rfl
          | cons e events ih => exact ih
        rw [run_bind, run_pollOnce]
        dsimp only
        unfold select
        rw [run_bind, run_read]
        dsimp only
        rw [run_bind, run_pollOnce]
        dsimp only
        rw [run_bind_ok hread]
        refine (run_bind_ok (hpolls _)).trans ?_
        rw [alertActions_take, h.run_planActions cs _ (by
          rw [List.length_append, List.length_take]
          omega)]
        -- what the budget cuts off of this candidate, the whole plan cuts off as well
        have hbudget : retentionRowBudget =
            actions.length + (retentionRowBudget - actions.length) := by omega
        have hcut := take_append_take actions
          ((alertEvents db.toTables c.rowId).map (fun e => DeletionAction.event e.id c.rowId) ++
            [.alert c.rowId])
          (cs.flatMap (candidateActions db.toTables)) (retentionRowBudget - actions.length)
        rw [← hbudget] at hcut
        rw [List.append_assoc, hcut]
        unfold candidateActions
        rw [hkind]

/-- The plan is the first 500 deletions that are due. -/
theorem Readable.run_retentionPlan (h : Readable db) (cutoff : Int) :
    (retentionPlan cutoff).run db =
      .ok ((dueActions cutoff db.toTables).take retentionRowBudget, db) := by
  have hhealth : ((selectHealthCandidates cutoff db).mapM (healthCandidate cutoff)).run db =
      .ok ((selectHealthCandidates cutoff db).map sampleCandidate, db) := by
    refine run_mapM_map fun r hr => ?_
    have hr := (List.mem_insertionSort _).mp (List.mem_of_mem_take hr)
    obtain ⟨hr, hdue⟩ := List.mem_filter.mp hr
    exact h.run_healthCandidate hr (by simpa using hdue)
  have halerts : ((selectAlertCandidates cutoff db).mapM (alertCandidate cutoff)).run db =
      .ok ((selectAlertCandidates cutoff db).map archivedCandidate, db) := by
    refine run_mapM_map fun r hr => ?_
    have hr := (List.mem_insertionSort _).mp (List.mem_of_mem_take hr)
    obtain ⟨hr, hdue⟩ := List.mem_filter.mp hr
    exact h.run_alertCandidate hr (by simpa using hdue)
  have hplan := h.run_planActions (((selectHealthCandidates cutoff db).map sampleCandidate ++
    (selectAlertCandidates cutoff db).map archivedCandidate).insertionSort byRetention) []
    (Nat.zero_le _)
  rw [selectHealthCandidates_map, selectAlertCandidates_map, List.nil_append,
    ← take_flatMap_take (candidateActions_ne_nil _), take_insertionSort_append,
    take_flatMap_take (candidateActions_ne_nil _)] at hplan
  unfold retentionPlan checkDeadline select attempt Maintenance.trust
  rw [run_bind, run_read]
  dsimp only
  rw [run_bind, run_pollOnce]
  dsimp only
  rw [run_bind, run_read]
  dsimp only
  rw [run_bind, run_pollOnce]
  dsimp only
  rw [run_bind_ok hhealth, run_bind_ok halerts, run_bind, run_pollOnce]
  dsimp only
  rw [run_bind, run_pollOnce]
  dsimp only
  rw [selectHealthCandidates_map, selectAlertCandidates_map, run_bind_ok hplan, run_bind,
    run_ofExcept, require_pos (List.length_take_le _ _)]
  rfl

end Plan

/-! ## The candidates after a deletion -/

section Candidates

variable {cutoff : Int}

/-- The candidate a deletion takes away: an event takes none. -/
def removes : DeletionAction → RetentionCandidate → Bool
  | .health rowId, c => c.kind = .health ∧ c.rowId = rowId
  | .event _ _, _ => false
  | .alert rowId, c => c.kind = .alert ∧ c.rowId = rowId

/-- The candidates are the expired samples and the expired archived alerts. -/
theorem mem_candidates {t : Tables} {c : RetentionCandidate} : c ∈ candidates cutoff t ↔
    (∃ r ∈ t.samples.rows, r.observedAtUtcUs < cutoff ∧ sampleCandidate r = c) ∨
      ∃ r ∈ t.alerts.rows, Expired cutoff r ∧ archivedCandidate r = c := by
  unfold candidates
  rw [List.mem_insertionSort, List.mem_append, List.mem_map, List.mem_map]
  simp only [List.mem_filter, decide_eq_true_eq, and_assoc]

/-- An action takes from the candidates the one it removes. -/
theorem candidates_tables (t : Tables) (action : DeletionAction) :
    candidates cutoff (action.tables t) =
      (candidates cutoff t).filter fun c => !removes action c := by
  have hanti : ∀ cs : List RetentionCandidate, ∀ a ∈ cs, ∀ b ∈ cs,
      byRetention a b → byRetention b a → a = b := fun _ _ _ _ _ => antisymm
  unfold candidates
  rw [← insertionSort_filter _ (hanti _), List.filter_append, List.filter_map, List.filter_map,
    List.filter_filter, List.filter_filter]
  congr 2
  · congr 1
    cases action with
    | health rowId =>
      show (t.samples.rows.filter _).filter _ = _
      rw [List.filter_filter]
      refine List.filter_congr fun r _ => ?_
      by_cases h : r.id = rowId <;> simp [removes, sampleCandidate, h]
    | event rowId alertId => simp [DeletionAction.tables, withoutEvent, removes]
    | alert rowId => simp [DeletionAction.tables, withoutAlert, removes, sampleCandidate]
  · cases action with
    | health rowId =>
      show ((t.alerts.rows.map _).filter _).map _ = _
      rw [List.filter_map, List.map_map]
      simp [removes, archivedCandidate]
      rfl
    | event rowId alertId => simp [DeletionAction.tables, withoutEvent, removes]
    | alert rowId =>
      congr 1
      show (t.alerts.rows.filter _).filter _ = _
      rw [List.filter_filter]
      refine List.filter_congr fun r _ => ?_
      by_cases h : r.id = rowId <;> simp [removes, archivedCandidate, h]

/-- The candidates name different rows. -/
theorem candidates_pairwise (t : Tables) :
    (candidates cutoff t).Pairwise fun a b => ¬(a.kind = b.kind ∧ a.rowId = b.rowId) := by
  unfold candidates
  rw [List.Perm.pairwise_iff (fun {a b} h h' => h ⟨h'.1.symm, h'.2.symm⟩)
    (List.perm_insertionSort _ _), List.pairwise_append, List.pairwise_map, List.pairwise_map]
  refine ⟨(t.samples.sorted.filter _).imp fun h h' => h.ne h'.2,
    (t.alerts.sorted.filter _).imp fun h h' => h.ne h'.2, fun a ha b hb h => ?_⟩
  obtain ⟨r, -, rfl⟩ := List.mem_map.mp ha
  obtain ⟨r', -, rfl⟩ := List.mem_map.mp hb
  exact nomatch h.1

end Candidates

/-! ## The due deletions after a deletion -/

section Due

variable {cutoff : Int} {db : Database}

theorem mem_alertEvents {t : Tables} {alertId : Int} {e : AlertEventRow} :
    e ∈ alertEvents t alertId ↔ e ∈ t.events.rows ∧ e.alertId = alertId := by
  unfold alertEvents
  rw [List.mem_insertionSort, List.mem_filter, decide_eq_true_eq]

/-- Deleting a sample clears it from the events and deletes none. -/
theorem alertEvents_withoutSample (t : Tables) (deleted alertId : Int) :
    alertEvents (withoutSample t deleted) alertId =
      (alertEvents t alertId).map (clearEvent deleted) := by
  unfold alertEvents
  rw [List.map_insertionSort (oldestFirst eventPosition) (oldestFirst eventPosition)
    (clearEvent deleted) _ fun a _ b _ => Iff.rfl]
  show List.insertionSort _ ((t.events.rows.map _).filter _) = _
  rw [List.filter_map]
  rfl

/-- Deleting an event takes it from its alert. -/
theorem alertEvents_withoutEvent (t : Tables) (deleted alertId : Int) :
    alertEvents (withoutEvent t deleted) alertId =
      (alertEvents t alertId).filter fun e => e.id ≠ deleted := by
  unfold alertEvents
  rw [← insertionSort_filter]
  · show List.insertionSort _ ((t.events.rows.filter _).filter _) = _
    rw [List.filter_comm]
    simp
  · intro a ha b hb h h'
    refine t.events.mem_unique (List.mem_of_mem_filter ha) (List.mem_of_mem_filter hb) ?_
    unfold oldestFirst positionLt eventPosition at h h'
    dsimp only at h h'
    omega

/-- Deleting another alert leaves the events. -/
theorem alertEvents_withoutAlert (t : Tables) {deleted alertId : Int} (h : alertId ≠ deleted) :
    alertEvents (withoutAlert t deleted) alertId = alertEvents t alertId := by
  unfold alertEvents
  show List.insertionSort _ ((t.events.rows.filter _).filter _) = _
  rw [List.filter_filter]
  congr 1
  refine List.filter_congr fun e _ => ?_
  by_cases he : e.alertId = alertId <;> simp [he, h]

/-- The candidate a deletion is for. -/
def owner : DeletionAction → CandidateKind × Int
  | .health rowId => (.health, rowId)
  | .event _ alertId => (.alert, alertId)
  | .alert rowId => (.alert, rowId)

/-- Every action belongs to its candidate. -/
theorem owner_of_mem {t : Tables} {c : RetentionCandidate} {action : DeletionAction}
    (h : action ∈ candidateActions t c) : owner action = (c.kind, c.rowId) := by
  unfold candidateActions at h
  cases hkind : c.kind with
  | health =>
    rw [hkind] at h
    obtain rfl := List.mem_singleton.mp h
    rfl
  | alert =>
    rw [hkind] at h
    rcases List.mem_append.mp h with h | h
    · obtain ⟨e, -, rfl⟩ := List.mem_map.mp h
      rfl
    · obtain rfl := List.mem_singleton.mp h
      rfl

/-- No deletion is due twice. -/
theorem dueActions_nodup (cutoff : Int) (t : Tables) : (dueActions cutoff t).Nodup := by
  unfold dueActions
  rw [List.nodup_flatMap]
  refine ⟨fun c _ => ?_, (candidates_pairwise t).imp fun hne action ha hb => hne ?_⟩
  · unfold candidateActions
    cases c.kind with
    | health => exact List.nodup_singleton _
    | alert =>
      refine List.nodup_append.mpr ⟨?_, List.nodup_singleton _, ?_⟩
      · refine List.Nodup.map_on (fun a ha b hb h => ?_) ?_
        · exact t.events.mem_unique (mem_alertEvents.mp ha).1 (mem_alertEvents.mp hb).1
            (DeletionAction.event.inj h).1
        · exact (List.perm_insertionSort _ _).nodup_iff.mpr (t.events.nodup.filter _)
      · intro a ha b hb
        obtain ⟨e, -, rfl⟩ := List.mem_map.mp ha
        obtain rfl := List.mem_singleton.mp hb
        exact nofun
  · have h := (owner_of_mem ha).symm.trans (owner_of_mem hb)
    exact Prod.mk.inj h

/-- The first due deletion is found: the events of an alert come before it. -/
theorem found_of_dueActions {action : DeletionAction} {rest : List DeletionAction}
    (h : dueActions cutoff db.toTables = action :: rest) : action.Found cutoff db := by
  unfold dueActions at h
  cases hcandidates : candidates cutoff db.toTables with
  | nil =>
    rw [hcandidates] at h
    cases h
  | cons c cs =>
    have hc : c ∈ candidates cutoff db.toTables := by
      rw [hcandidates]
      exact List.mem_cons_self
    rw [hcandidates, List.flatMap_cons] at h
    rcases mem_candidates.mp hc with ⟨r, hr, hdue, rfl⟩ | ⟨r, hr, hdue, rfl⟩
    · obtain ⟨rfl, -⟩ := List.cons.inj h
      exact ⟨r, hr, rfl, hdue⟩
    · cases hevents : alertEvents db.toTables r.id with
      | nil =>
        rw [show candidateActions db.toTables (archivedCandidate r) =
          (alertEvents db.toTables r.id).map _ ++ [.alert r.id] from rfl, hevents] at h
        obtain ⟨rfl, -⟩ := List.cons.inj h
        refine ⟨⟨r, hr, rfl, hdue⟩, fun e he halert => ?_⟩
        have hmem := mem_alertEvents.mpr ⟨he, halert⟩
        rw [hevents] at hmem
        exact absurd hmem List.not_mem_nil
      | cons e es =>
        rw [show candidateActions db.toTables (archivedCandidate r) =
          (alertEvents db.toTables r.id).map _ ++ [.alert r.id] from rfl, hevents] at h
        obtain ⟨rfl, -⟩ := List.cons.inj h
        have hmem : e ∈ alertEvents db.toTables r.id := by
          rw [hevents]
          exact List.mem_cons_self
        obtain ⟨he, halert⟩ := mem_alertEvents.mp hmem
        exact ⟨e, he, rfl, halert⟩

/-- A deletion that is found changes the due deletions of a remaining candidate by itself only. -/
theorem candidateActions_tables {action : DeletionAction} (h : action.Found cutoff db)
    {c : RetentionCandidate} (hc : removes action c = false) :
    candidateActions (action.tables db.toTables) c =
      (candidateActions db.toTables c).filter (· ≠ action) := by
  obtain ⟨at', kind, i⟩ := c
  cases kind with
  | health =>
    show [DeletionAction.health i] = [DeletionAction.health i].filter _
    rw [List.filter_cons_of_pos, List.filter_nil]
    cases action with
    | health rowId =>
      have hne : i ≠ rowId := by simpa [removes] using hc
      simpa using hne
    | event => exact decide_eq_true nofun
    | alert => exact decide_eq_true nofun
  | alert =>
    show (alertEvents (action.tables db.toTables) i).map _ ++ [DeletionAction.alert i] =
      ((alertEvents db.toTables i).map _ ++ [DeletionAction.alert i]).filter _
    rw [List.filter_append, List.filter_map]
    cases action with
    | health rowId =>
      rw [show alertEvents (DeletionAction.tables db.toTables (.health rowId)) i =
        (alertEvents db.toTables i).map (clearEvent rowId) from alertEvents_withoutSample _ _ _,
        List.map_map, List.filter_eq_self.mpr (by simp), List.filter_eq_self.mpr (by simp)]
      rfl
    | event rowId alertId =>
      obtain ⟨e, he, rfl, rfl⟩ := h
      rw [show alertEvents (DeletionAction.tables db.toTables (.event e.id e.alertId)) i =
        (alertEvents db.toTables i).filter (fun a => a.id ≠ e.id) from
          alertEvents_withoutEvent _ _ _, List.filter_eq_self (l := [DeletionAction.alert i]).mpr
          (by simp)]
      congr 2
      refine List.filter_congr fun a ha => ?_
      obtain ⟨ha, halert⟩ := mem_alertEvents.mp ha
      by_cases hid : a.id = e.id
      · have hsame : a = e := db.events.mem_unique ha he hid
        subst hsame
        simp [halert]
      · simp [hid]
    | alert rowId =>
      have hne : i ≠ rowId := by simpa [removes] using hc
      rw [show alertEvents (DeletionAction.tables db.toTables (.alert rowId)) i =
        alertEvents db.toTables i from alertEvents_withoutAlert _ hne,
        List.filter_eq_self.mpr (by simp), List.filter_eq_self.mpr (by simpa using hne)]

/-- Nothing is left of the candidate a found deletion removes. -/
theorem filter_candidateActions {action : DeletionAction} (h : action.Found cutoff db)
    {c : RetentionCandidate} (hc : removes action c = true) :
    (candidateActions db.toTables c).filter (· ≠ action) = [] := by
  obtain ⟨at', kind, i⟩ := c
  cases action with
  | health rowId =>
    obtain ⟨rfl, rfl⟩ : kind = .health ∧ i = rowId := by simpa [removes] using hc
    simp [candidateActions]
  | event => exact absurd hc (by simp [removes])
  | alert rowId =>
    obtain ⟨rfl, rfl⟩ : kind = .alert ∧ i = rowId := by simpa [removes] using hc
    have hnone : alertEvents db.toTables i = [] := by
      rw [List.eq_nil_iff_forall_not_mem]
      intro e he
      obtain ⟨he, halert⟩ := mem_alertEvents.mp he
      exact h.2 e he halert
    show ((alertEvents db.toTables i).map _ ++ [DeletionAction.alert i]).filter _ = []
    rw [hnone]
    simp

/-- Carrying out the first due deletion leaves the others due, in the same order. -/
theorem dueActions_tables {action : DeletionAction} {rest : List DeletionAction}
    (h : dueActions cutoff db.toTables = action :: rest) :
    dueActions cutoff (action.tables db.toTables) = rest := by
  have hfound := found_of_dueActions h
  have hfilter : ∀ cs : List RetentionCandidate,
      (cs.filter fun c => !removes action c).flatMap (candidateActions (action.tables db.toTables)) =
        (cs.flatMap (candidateActions db.toTables)).filter (· ≠ action) := by
    intro cs
    induction cs with
    | nil => rfl
    | cons c cs ih =>
      rw [List.flatMap_cons, List.filter_append, ← ih]
      cases hc : removes action c with
      | true => rw [List.filter_cons_of_neg (by simp [hc]), filter_candidateActions hfound hc,
          List.nil_append]
      | false => rw [List.filter_cons_of_pos (by simp [hc]), List.flatMap_cons,
          candidateActions_tables hfound hc]
  have hnodup := dueActions_nodup cutoff db.toTables
  rw [h, List.nodup_cons] at hnodup
  calc dueActions cutoff (action.tables db.toTables)
    _ = (dueActions cutoff db.toTables).filter (· ≠ action) := by
      unfold dueActions
      rw [candidates_tables, hfilter]
    _ = rest := by
      rw [h, List.filter_cons_of_neg (by simp), List.filter_eq_self]
      intro a ha
      have hne : a ≠ action := fun heq => hnodup.1 (heq ▸ ha)
      simpa using hne

end Due

end Aurora.HealthHistory
