/-
  Which runs of missed intervals open a sampling gap.

  The threshold is split in two: the scheduler adds up what it missed since the last observation that
  was accepted, and the evaluator looks at what one observation reports.  So two observations that
  report one missed interval each leave the evaluator at its candidate.

  1. **Evaluator** — what a segment of delayed observations does to the phase, by induction on it.
  2. **Store** — the stored state is the evaluator's after everything committed, and a miss in an
     active gap leaves an alert.
  3. **Runs** — when the gap is open behind a segment, in every run under a leader.
-/
import Aurora.HealthHistory.GapTraces
import Aurora.HealthHistory.AlertHistory
import Aurora.HealthHistory.Leadership

namespace Aurora.HealthHistory

open Ingestion Maintenance Program
open Script (Faults)

/-! ## Segments of delayed observations -/

/-- Neither on time nor a clock marker, of a sample that was collected. -/
def SamplingGapObservation.Delayed (o : SamplingGapObservation) : Prop :=
  o.clockDiscontinuityMarker = false ∧ o.healthCollectionSucceeded = true ∧
    (o.startupGapMarker = true ∨ 0 < o.missedIntervals)

/-- The phase after one delayed observation. -/
theorem evaluateSamplingGap_delayed {state : SamplingGapState} {o : SamplingGapObservation}
    (hunseen : Unseen state o) (hdelayed : o.Delayed) :
    (evaluateSamplingGap state o).state.phase =
      if o.missedIntervals = 0 then state.phase
      else if state.phase.isOpen = true ∨ 2 ≤ o.missedIntervals then .active
      else .candidateOne := by
  obtain ⟨hclock, hcollected, hmarker⟩ := hdelayed
  rw [evaluateSamplingGap_fresh hunseen, hclock, if_neg Bool.false_ne_true]
  by_cases hnone : o.missedIntervals = 0
  · have hstartup : o.startupGapMarker = true := hmarker.resolve_right (by omega)
    rw [if_pos ⟨hstartup, hnone⟩, if_pos hnone]
    rfl
  have hmissed := o.missedNonnegative
  rw [if_neg fun h => hnone h.2, if_pos (by omega), if_neg hnone]
  have hopen : state.phase.isOpen = true ↔ state.phase = .active ∨ state.phase = .recoveryOne := by
    simp [SamplingGapPhase.isOpen]
  unfold applyMisses
  dsimp only
  by_cases hphase : state.phase = .active ∨ state.phase = .recoveryOne
  · rw [if_pos hphase, if_pos (Or.inl (hopen.mpr hphase))]
    rfl
  rw [if_neg hphase]
  by_cases htwo : o.missedIntervals ≥ 2
  · rw [if_pos htwo, if_pos (Or.inr htwo)]
    rfl
  rw [if_neg htwo, if_neg (not_or.mpr ⟨fun h => hphase (hopen.mp h), htwo⟩)]
  by_cases hcandidate : state.phase = .candidateOne
  · rw [if_pos hcandidate]
    exact hcandidate
  · rw [if_neg hcandidate]
    rfl

/-- Persisted observations of increasing sequences, none of them lost or a replay. -/
structure InSequence (observations : List SamplingGapObservation) : Prop where
  increasing : observations.Pairwise fun a b => a.sequence < b.sequence
  persisted : ∀ o ∈ observations, o.persistenceSucceeded = true

section Traces

variable {observations earlier segment : List SamplingGapObservation} {o : SamplingGapObservation}

/-- The earlier observations are in sequence as well. -/
theorem InSequence.of_concat (h : InSequence (observations ++ [o])) : InSequence observations where
  increasing := (List.pairwise_append.mp h.increasing).1
  persisted := fun c hc => h.persisted c (List.mem_append_left _ hc)

/-- In sequence every observation is committed. -/
theorem InSequence.commits (h : InSequence (observations ++ [o])) : commits observations o = true := by
  unfold HealthHistory.commits
  rw [h.persisted o (List.mem_append_right _ List.mem_cons_self), Bool.true_and, List.all_eq_true]
  intro c hc
  have hlt := (List.pairwise_append.mp h.increasing).2.2 c hc o List.mem_cons_self
  exact decide_eq_true hlt

/-- In order, all of them are committed. -/
theorem InSequence.committed_eq (h : InSequence observations) :
    committed observations = observations := by
  induction observations using List.reverseRecOn with
  | nil => rfl
  | append_singleton observations o ih =>
    rw [committed_concat, ih h.of_concat, if_pos h.commits]

/-- In sequence every observation is a new one. -/
theorem InSequence.unseen (h : InSequence (observations ++ [o])) : Unseen (gapTrace observations) o := by
  have hcommits := h.commits
  rw [← h.of_concat.committed_eq] at hcommits
  exact (gapRemembers_trace observations).fresh_iff.mpr hcommits

/-- The gap is open before the segment, or one of its observations reports two missed intervals. -/
def GapStands (earlier segment : List SamplingGapObservation) : Prop :=
  (gapTrace earlier).phase.isOpen = true ∨ ∃ o ∈ segment, 2 ≤ o.missedIntervals

/-- A gap stands once one report of the segment reaches the threshold. -/
theorem gapStands_concat :
    GapStands earlier (segment ++ [o]) ↔ GapStands earlier segment ∨ 2 ≤ o.missedIntervals := by
  unfold GapStands
  simp only [List.mem_append, List.mem_singleton, or_and_right, exists_or, exists_eq_left, or_assoc]

/-- Behind a segment of delayed observations the phase is open exactly when the gap stands. -/
theorem isOpen_segment (hordered : InSequence (earlier ++ segment))
    (hdelayed : ∀ o ∈ segment, o.Delayed) :
    (gapTrace (earlier ++ segment)).phase.isOpen = true ↔ GapStands earlier segment := by
  induction segment using List.reverseRecOn with
  | nil =>
    rw [List.append_nil]
    exact (or_iff_left fun ⟨_, ho, _⟩ => absurd ho List.not_mem_nil).symm
  | append_singleton segment o ih =>
    rw [← List.append_assoc] at hordered ⊢
    have hbefore := ih hordered.of_concat fun c hc => hdelayed c (List.mem_append_left _ hc)
    have ho := hdelayed o (List.mem_append_right _ List.mem_cons_self)
    rw [gapTrace_concat, gapStep, evaluateSamplingGap_delayed hordered.unseen ho, gapStands_concat,
      ← hbefore]
    split
    case isTrue hnone => exact (or_iff_left (by omega)).symm
    case isFalse =>
      split
      case isTrue hstands => exact iff_of_true rfl hstands
      case isFalse hcandidate => exact iff_of_false Bool.false_ne_true hcandidate

/-- It is then `active` when the last observation reports a miss. -/
theorem active_segment (hordered : InSequence (earlier ++ (segment ++ [o])))
    (hdelayed : ∀ c ∈ segment ++ [o], c.Delayed) (hmissed : 0 < o.missedIntervals) :
    (gapTrace (earlier ++ (segment ++ [o]))).phase = .active ↔
      GapStands earlier (segment ++ [o]) := by
  rw [← List.append_assoc] at hordered ⊢
  have hbefore := isOpen_segment hordered.of_concat fun c hc => hdelayed c (List.mem_append_left _ hc)
  have ho := hdelayed o (List.mem_append_right _ List.mem_cons_self)
  rw [gapTrace_concat, gapStep, evaluateSamplingGap_delayed hordered.unseen ho, gapStands_concat,
    ← hbefore, if_neg (by omega)]
  split
  case isTrue hstands => exact iff_of_true rfl hstands
  case isFalse hcandidate => exact iff_of_false (by decide) hcandidate

end Traces

/-! ## Behind the store -/

/-- What the evaluator sees of a projection. -/
def HealthProjection.gapObservation? (p : HealthProjection) :
    Except String SamplingGapObservation :=
  SamplingGapObservation.new? p.observationSequence p.missedIntervals true true
    (p.sampleKind = .startupGap) (p.sampleKind = .clockDiscontinuity)

/-- The observations of a list of projections. -/
def gapObservations (projections : List HealthProjection) : List SamplingGapObservation :=
  projections.filterMap fun p => p.gapObservation?.toOption

/-- The fields of an observation that is constructed. -/
theorem gapObservation?_fields {p : HealthProjection} {o : SamplingGapObservation}
    (h : p.gapObservation? = .ok o) : o.sequence = p.observationSequence ∧
      o.missedIntervals = p.missedIntervals ∧ o.persistenceSucceeded = true ∧
      o.healthCollectionSucceeded = true ∧
      o.startupGapMarker = decide (p.sampleKind = .startupGap) ∧
      o.clockDiscontinuityMarker = decide (p.sampleKind = .clockDiscontinuity) := by
  unfold HealthProjection.gapObservation? SamplingGapObservation.new? at h
  split at h
  · split at h
    · split at h
      · obtain rfl := Except.ok.inj h
        exact ⟨rfl, rfl, rfl, rfl, rfl, rfl⟩
      · cases h
    · cases h
  · cases h

/-- The observations of the run, the last one apart. -/
theorem gapObservations_concat {projections : List HealthProjection} {p : HealthProjection}
    {o : SamplingGapObservation} (h : p.gapObservation? = .ok o) :
    gapObservations (projections ++ [p]) = gapObservations projections ++ [o] := by
  unfold gapObservations
  rw [List.filterMap_append, List.filterMap_cons, h]
  rfl

/-- The constructor accepts exactly the consistent values. -/
theorem SamplingGapState.new?_eq_ok {phase : SamplingGapPhase} {count largest : Int}
    {last : Option Int} {state : SamplingGapState} :
    SamplingGapState.new? phase count largest last = .ok state ↔
      state.phase = phase ∧ state.committedObservations = count ∧
        state.largestMissedIntervalReport = largest ∧ state.lastCommittedSequence = last := by
  constructor
  · intro h
    unfold SamplingGapState.new? at h
    split at h
    · split at h
      · split at h
        · obtain rfl := Except.ok.inj h
          exact ⟨rfl, rfl, rfl, rfl⟩
        · cases h
      · cases h
    · cases h
  · rintro ⟨rfl, rfl, rfl, rfl⟩
    unfold SamplingGapState.new?
    rw [dif_pos state.committedBounded, dif_pos state.largestBounded, dif_pos state.sequenceBounded]

/-- The pair of the sampling-gap alert. -/
def gapPair : AlertPair := (.sampling, .samplingGap)

/-- A sampling-gap alert is open or acknowledged, or recovered with a deadline still ahead. -/
def GapAlert (db : Database) (now : Int) : Prop :=
  ∃ r ∈ db.alerts.rows, r.pair = gapPair ∧ (r.lifecycle.Active ∨
    r.lifecycle = .recovered ∧ now < r.cooldownUntilUtcUs)

/-- A miss that leaves the phase `active` asks for an alert. -/
theorem gapCondition_of_active {state : SamplingGapState} {o : SamplingGapObservation}
    (hunseen : Unseen state o) (hclock : o.clockDiscontinuityMarker = false)
    (hmissed : 0 < o.missedIntervals)
    (hactive : (evaluateSamplingGap state o).state.phase = .active) :
    gapCondition (evaluateSamplingGap state o) true := by
  unfold gapCondition
  rw [evaluateSamplingGap_fresh hunseen, hclock, if_neg Bool.false_ne_true,
    if_neg fun h => absurd h.2 (by omega), if_pos hmissed] at hactive ⊢
  unfold applyMisses at hactive ⊢
  dsimp only at hactive ⊢
  split
  case isTrue hopen =>
    refine .inr ⟨rfl, rfl, ?_⟩
    dsimp only
    split
    · exact .inr rfl
    · exact .inl rfl
  case isFalse hopen =>
    rw [if_neg hopen] at hactive
    split
    case isTrue => exact .inl rfl
    case isFalse htwo =>
      rw [if_neg htwo] at hactive
      split at hactive
      · exact absurd (.inl hactive) hopen
      · cases hactive

/-- What the world remembers of the gap: the stored state is the evaluator's after everything that
    was committed, and a miss behind which it is active has left an alert. -/
structure GapStored (w : HistoryWorld) : Prop where
  inSequence : InSequence (gapObservations w.committed)
  checked : ∀ p ∈ w.committed, p.Checked
  state : ∃ c rows baseline, CoherentAt w.store.database.toTables c rows baseline ∧
    SamplingGapState.new? (rows .sampling).gapPhase c.acceptedCount (rows .sampling).consecutiveCount
      c.sequence = .ok (gapTrace (gapObservations w.committed))
  alert : ∀ p ∈ w.committed.getLast?, gapObservationHasMiss p = true →
    (gapTrace (gapObservations w.committed)).phase = .active →
      GapAlert w.store.database p.recordedAtUtcUs

namespace GapStored

variable {w w' : HistoryWorld} {x : Exchange historyInterface}

/-- A fresh database has observed nothing. -/
theorem fresh {appliedAt : Int} {database : Database} {closed : Bool}
    (h : createSchemaV1 appliedAt = .ok database) : GapStored ⟨⟨database, closed⟩, []⟩ where
  inSequence := ⟨List.Pairwise.nil, fun _ ho => absurd ho List.not_mem_nil⟩
  checked _ hp := absurd hp List.not_mem_nil
  state := by
    refine ⟨.fresh, fun _ => freshEvaluationRow, none, ?_, rfl⟩
    show CoherentAt database.toTables _ _ _
    rw [(createSchemaV1_eq_ok h).1]
    exact freshTables_coherent appliedAt
  alert _ hp := nomatch hp

/-- The commit of one observation. -/
theorem ingested (hw : GapStored w) {p : HealthProjection} {outcome : IngestionOutcome}
    (hp : p.Valid) (hingests : Ingests w.store.database p outcome w'.store.database)
    (hcommitted : w'.committed = w.committed ++ [p]) : GapStored w' := by
  obtain ⟨c, rows, baseline, hcoherent, hstate⟩ := hw.state
  obtain ⟨hbelow, d, transitions, m, sample, haccepted, -⟩ := hingests.accepted hcoherent hp
  obtain ⟨state, o, hstate', hobservation, hgap⟩ :=
    evaluateGap_ok hcoherent.anchored hcoherent.evaluators hp.toChecked
  obtain rfl := Except.ok.inj (hstate.symm.trans hstate')
  obtain ⟨hphase, hcount, hlargest, hlast⟩ := SamplingGapState.new?_eq_ok.mp hstate
  have hd : d.gap = gapStep (gapObservations w.committed) o :=
    Except.ok.inj (haccepted.decided.gap.symm.trans hgap)
  obtain ⟨hsequence, hmissed, hpersisted, -, -, hclock⟩ := gapObservation?_fields hobservation
  -- the projection is newer than the checkpoint, so its observation is a new one
  have hunseen : Unseen (gapTrace (gapObservations w.committed)) o := by
    refine ⟨hpersisted, fun last h => ?_⟩
    rw [hlast] at h
    rw [hsequence]
    exact hbelow last h
  obtain ⟨hcount', hlargest', hlast'⟩ := evaluateSamplingGap_counters hunseen
  have htrace : gapTrace (gapObservations w'.committed) = d.gap.state := by
    rw [hcommitted, gapObservations_concat hobservation, gapTrace_concat, hd]
  -- it comes after all that was committed
  have hinSequence : InSequence (gapObservations w'.committed) := by
    rw [hcommitted, gapObservations_concat hobservation]
    refine ⟨List.pairwise_append.mpr ⟨hw.inSequence.increasing, List.pairwise_singleton _ _, ?_⟩, ?_⟩
    · intro a ha b hb
      obtain rfl := List.mem_singleton.mp hb
      have hremembers := gapRemembers_trace (gapObservations w.committed)
      rw [hw.inSequence.committed_eq] at hremembers
      obtain ⟨last, hmem, hle⟩ := hremembers.le_last ha
      exact Int.lt_of_le_of_lt hle (hunseen.2 last hmem)
    · intro a ha
      rcases List.mem_append.mp ha with ha | ha
      · exact hw.inSequence.persisted a ha
      · rw [List.mem_singleton.mp ha]
        exact hpersisted
  refine ⟨hinSequence, ?_, ⟨_, _, _, haccepted.coherent hcoherent hp hbelow, ?_⟩, ?_⟩
  · rw [hcommitted]
    intro q hq
    rcases List.mem_append.mp hq with hq | hq
    · exact hw.checked q hq
    · rw [List.mem_singleton.mp hq]
      exact hp.toChecked
  · rw [htrace]
    refine SamplingGapState.new?_eq_ok.mpr ⟨rfl, ?_, rfl, ?_⟩
    · rw [hd]
      exact hcount'.trans (by rw [hcount]; rfl)
    · rw [hd]
      exact hlast'.trans (by rw [hsequence]; rfl)
  · rw [htrace, hcommitted, List.getLast?_concat]
    rintro _ ⟨⟩ hmiss hactive
    -- an active gap after a missed interval is a condition of the sampling pair
    have hrequest : requestOf transitions d.gap (gapObservationHasMiss p) gapPair = .condition := by
      have hcondition : gapCondition d.gap (gapObservationHasMiss p) := by
        unfold gapObservationHasMiss at hmiss
        obtain ⟨hpositive, hkind⟩ := Bool.and_eq_true_iff.mp hmiss
        rw [show gapObservationHasMiss p = true from hmiss, hd]
        rw [hd] at hactive
        refine gapCondition_of_active hunseen ?_ ?_ hactive
        · rw [hclock]
          exact decide_eq_false (of_decide_eq_true hkind)
        · rw [hmissed]
          exact of_decide_eq_true hpositive
      exact if_pos hcondition
    have hstep := haccepted.step gapPair
    rw [hrequest] at hstep
    obtain ⟨earlier, e, hbook, hlive⟩ := hstep.condition
    have hmem : e.row ∈ pairRows w'.store.database gapPair := by
      rw [← book_rows, hbook]
      exact List.mem_map_of_mem (List.mem_append_right _ List.mem_cons_self)
    obtain ⟨hrow, hpair⟩ := mem_pairRows.mp hmem
    exact ⟨e.row, hrow, hpair, hlive⟩

end GapStored

/-! ## Cleanups -/

/-- The alerts that are not archived are still there, up to their references to samples. -/
def LiveKept (db db' : Database) : Prop :=
  ∀ r ∈ db.alerts.rows, r.lifecycle ≠ .archived → ∃ r' ∈ db'.alerts.rows, r'.pair = r.pair ∧
    r'.lifecycle = r.lifecycle ∧ r'.cooldownUntilUtcUs = r.cooldownUntilUtcUs

theorem LiveKept.refl (db : Database) : LiveKept db db := fun r hr _ => ⟨r, hr, rfl, rfl, rfl⟩

/-- Live alerts kept by two steps are kept by both. -/
theorem LiveKept.trans {db m db' : Database} (h : LiveKept db m) (h' : LiveKept m db') :
    LiveKept db db' := by
  intro r hr hlive
  obtain ⟨r', hr', hpair, hlifecycle, hcooldown⟩ := h r hr hlive
  obtain ⟨r'', hr'', hpair', hlifecycle', hcooldown'⟩ := h' r' hr' (hlifecycle ▸ hlive)
  exact ⟨r'', hr'', hpair'.trans hpair, hlifecycle'.trans hlifecycle, hcooldown'.trans hcooldown⟩

theorem LiveKept.gapAlert {db db' : Database} (h : LiveKept db db') {now : Int}
    (halert : GapAlert db now) : GapAlert db' now := by
  obtain ⟨r, hr, hpair, hlive⟩ := halert
  have hkept : r.lifecycle ≠ .archived := by
    rcases hlive with (hopen | hacknowledged) | ⟨hrecovered, -⟩
    · rw [hopen]
      decide
    · rw [hacknowledged]
      decide
    · rw [hrecovered]
      decide
  obtain ⟨r', hr', hpair', hlifecycle, hcooldown⟩ := h r hr hkept
  refine ⟨r', hr', hpair'.trans hpair, ?_⟩
  rw [hlifecycle, hcooldown]
  exact hlive

/-- A deletion that finds its row deletes no alert but an archived one. -/
theorem liveKept_without {cutoff : Int} {db : Database} {action : DeletionAction}
    (h : action.Found cutoff db) : LiveKept db (db.without action) := by
  intro r hr hlive
  cases action with
  | health rowId => exact ⟨clearAlert rowId r, List.mem_map_of_mem hr, rfl, rfl, rfl⟩
  | event rowId alertId => exact ⟨r, hr, rfl, rfl, rfl⟩
  | alert rowId =>
    refine ⟨r, List.mem_filter.mpr ⟨hr, ?_⟩, rfl, rfl, rfl⟩
    obtain ⟨⟨expired, hmem, hid, harchived, -⟩, -⟩ := h
    have hne : r.id ≠ rowId := by
      rintro rfl
      obtain rfl := db.alerts.mem_unique hr hmem hid.symm
      exact hlive harchived
    simpa using hne

theorem liveKept_retain {cutoff : Int} {db db' : Database} {counts : Nat × Nat × Nat}
    (h : (retain cutoff).run db = .ok (counts, db')) : LiveKept db db' := by
  obtain ⟨plan, -, -, hrun⟩ := retain_runs h
  clear h
  induction plan generalizing db with
  | nil =>
    obtain ⟨-, rfl⟩ := Prod.mk.inj (Except.ok.inj hrun)
    exact .refl _
  | cons action plan ih =>
    obtain ⟨hfound, hrest⟩ := forM_executeAction hrun
    exact (liveKept_without hfound).trans (ih hrest)

/-- No call but an ingest loses an alert that is not archived. -/
theorem HistoryWorld.Step.liveKept {w w' : HistoryWorld} {x : Exchange historyInterface}
    (h : w.Step x w') (hx : x.1.isIngest = false) :
    LiveKept w.store.database w'.store.database := by
  have hsame : w'.store.database = w.store.database → LiveKept w.store.database w'.store.database :=
    fun hsame => hsame ▸ .refl _
  cases h with
  | ingest => cases hx
  | cleanupRetention checks F expired now days =>
    rcases @HealthHistoryStore.bracketed_database _ _ .maintenance checks
      (fun db => HealthHistoryStore.onConnection (Maintenance.cleanupRetention F expired db now days))
      w.store with hkept | hdone
    · exact hsame hkept
    · rcases durable_cleanupRetention_run F expired w.store.database now days with
        hkept | ⟨cutoff, counts, hrun⟩
      · exact hsame (hdone.trans hkept)
      · rw [← show _ = (Maintenance.cleanupRetention F expired w.store.database now days).2.durable
          from hdone] at hrun
        exact liveKept_retain hrun
  | acquire => exact .refl _
  | monotonic => exact .refl _
  | utcNow => exact .refl _
  | utcNowUs => exact .refl _
  | healthReport => exact .refl _
  | closeStore => exact .refl _
  | getSchedulerResumeState checks F =>
    exact hsame (HistoryWorld.database_of_bracketed fun db =>
      HealthHistoryStore.durable_readTransaction F db _)
  | inspectStorageCapacity => exact hsame (HistoryWorld.database_of_bracketed fun _ => rfl)
  | inspectFreeSpace => exact hsame (HistoryWorld.database_of_bracketed fun _ => rfl)
  | inspectWal => exact hsame (HistoryWorld.database_of_bracketed fun _ => rfl)
  | incrementalVacuum => exact hsame (HistoryWorld.database_of_bracketed fun _ => rfl)
  | passiveWalCheckpoint => exact hsame (HistoryWorld.database_of_bracketed fun _ => rfl)

namespace GapStored

variable {w w' : HistoryWorld} {x : Exchange historyInterface}

/-- Nothing is committed, and the evaluator rows and the live alerts stay. -/
theorem kept (hw : GapStored w) (hcommitted : w'.committed = w.committed)
    (hrows : ∀ c rows baseline, CoherentAt w.store.database.toTables c rows baseline →
      ∃ rows' baseline', CoherentAt w'.store.database.toTables c rows' baseline' ∧
        ∀ s, { rows' s with lastSampleId := none } = { rows s with lastSampleId := none })
    (hlive : LiveKept w.store.database w'.store.database) : GapStored w' where
  inSequence := by
    rw [hcommitted]
    exact hw.inSequence
  checked := by
    rw [hcommitted]
    exact hw.checked
  state := by
    obtain ⟨c, rows, baseline, hc, hstate⟩ := hw.state
    obtain ⟨rows', baseline', hc', hsame⟩ := hrows c rows baseline hc
    refine ⟨c, rows', baseline', hc', ?_⟩
    have hfields := EvaluationStateRow.mk.inj (hsame .sampling)
    have hphase : (rows' .sampling).gapPhase = (rows .sampling).gapPhase := hfields.2.2.2.2.2.1
    have hcount : (rows' .sampling).consecutiveCount = (rows .sampling).consecutiveCount :=
      hfields.2.2.1
    rw [hcommitted, hphase, hcount]
    exact hstate
  alert := by
    rw [hcommitted]
    exact fun p hp hmiss hactive => hlive.gapAlert (hw.alert p hp hmiss hactive)

/-- A call that is no ingest keeps what is stored of the gap. -/
theorem quiet (hw : GapStored w) (h : w.Step x w') (hx : x.1.isIngest = false) : GapStored w' := by
  have hlive := h.liveKept hx
  cases h.effect with
  | kept hcommitted hdatabase =>
    exact hw.kept hcommitted
      (fun c rows baseline hc => ⟨rows, baseline, hdatabase ▸ hc, fun _ => rfl⟩) hlive
  | cleaned hcommitted plan hdatabase =>
    exact hw.kept hcommitted (fun c rows baseline hc => hdatabase ▸ hc.withoutAll_rows plan) hlive
  | ingested hingest =>
    subst hingest
    cases hx

theorem step (hw : GapStored w) (h : w.Step x w') : GapStored w' := by
  cases hx : x.1.isIngest with
  | false => exact hw.quiet h hx
  | true =>
    cases h with
    | ingest checks F hF p =>
      rcases @HealthHistoryStore.ingest_effect checks F w.store hF p with
        ⟨hnone, hsame⟩ | ⟨hcommits, -, hp, ⟨outcome, hingests⟩, -⟩
      · refine hw.kept ?_ (fun c rows baseline hc => ⟨rows, baseline, hsame ▸ hc, fun _ => rfl⟩)
          (hsame ▸ .refl _)
        show w.committed ++ (if w.store.commits checks F p = true then [p] else []) = w.committed
        rw [hnone, if_neg (by decide), List.append_nil]
      · refine hw.ingested hp hingests ?_
        show w.committed ++ (if w.store.commits checks F p = true then [p] else []) = _
        rw [hcommits, if_pos rfl]
    | _ => cases hx

theorem reopened (hw : GapStored w) (h : Reopens w w') : GapStored w' := by
  obtain ⟨hdatabase, hcommitted⟩ := h.same_database
  exact hw.kept hcommitted
    (fun c rows baseline hc => ⟨rows, baseline, hdatabase ▸ hc, fun _ => rfl⟩) (hdatabase ▸ .refl _)

end GapStored

/-! ## Runs -/

/-- Consecutive observations: none of them on time, no clock discontinuity, and no restart between
    them. -/
structure Consecutive (segment : List HealthProjection) : Prop where
  late : ∀ p ∈ segment, p.sampleKind = .startupGap ∨ 0 < p.missedIntervals
  continuous : ∀ p ∈ segment, p.sampleKind ≠ .clockDiscontinuity
  unrestarted : ∀ p ∈ segment.tail, p.sampleKind ≠ .startupGap

/-- The gap is found: the stored phase is `active`, and there is an alert. -/
def GapFound (db : Database) (now : Int) : Prop :=
  (db.evaluation .sampling).map (·.gapPhase) = some .active ∧ GapAlert db now

/-- The gap was open before the segment, or one of its observations reports two missed intervals. -/
def GapDue (earlier segment : List HealthProjection) : Prop :=
  (gapTrace (gapObservations earlier)).phase.isOpen = true ∨ ∃ p ∈ segment, 2 ≤ p.missedIntervals

section Segments

variable {segment earlier : List HealthProjection} {last : HealthProjection}

/-- Two missed intervals in all are not reported without the last observation. -/
theorem Consecutive.last_missed (h : Consecutive (segment ++ [last]))
    (htwo : 2 ≤ ((segment ++ [last]).map HealthProjection.missedIntervals).sum) :
    0 < last.missedIntervals := by
  rcases h.late last (List.mem_append_right _ List.mem_cons_self) with hstartup | hmissed
  · cases segment with
    | nil =>
      have hsum : ([last].map HealthProjection.missedIntervals).sum = last.missedIntervals := by
        simp
      rw [List.nil_append, hsum] at htwo
      omega
    | cons first segment =>
      exact absurd hstartup (h.unrestarted last (List.mem_append_right _ List.mem_cons_self))
  · exact hmissed

/-- A checked projection is observed. -/
theorem HealthProjection.Checked.observed {p : HealthProjection} (h : p.Checked) :
    ∃ o, p.gapObservation? = .ok o := by
  unfold HealthProjection.gapObservation? SamplingGapObservation.new?
  have hmarkers : ¬(decide (p.sampleKind = .startupGap) = true ∧
      decide (p.sampleKind = .clockDiscontinuity) = true) := by
    rintro ⟨h, h'⟩
    exact absurd ((of_decide_eq_true h).symm.trans (of_decide_eq_true h')) (by decide)
  rw [dif_pos (show Bounded maxTimestampUs p.observationSequence from h.sequence),
    dif_pos h.missed.1, dif_pos hmarkers]
  exact ⟨_, rfl⟩

theorem gapObservations_append (projections more : List HealthProjection) :
    gapObservations (projections ++ more) = gapObservations projections ++ gapObservations more :=
  List.filterMap_append ..

theorem mem_gapObservations {projections : List HealthProjection} {o : SamplingGapObservation} :
    o ∈ gapObservations projections ↔ ∃ p ∈ projections, p.gapObservation? = .ok o := by
  unfold gapObservations
  rw [List.mem_filterMap]
  refine exists_congr fun p => and_congr_right fun _ => ?_
  cases p.gapObservation? with
  | error e => exact iff_of_false (fun h => nomatch h) fun h => nomatch h
  | ok o' =>
    show some o' = some o ↔ Except.ok o' = Except.ok o
    rw [Option.some.injEq, Except.ok.injEq]

/-- Every observation of the segment is a delayed one. -/
theorem Consecutive.delayed (h : Consecutive segment) :
    ∀ o ∈ gapObservations segment, o.Delayed := by
  intro o ho
  obtain ⟨p, hp, hobserved⟩ := mem_gapObservations.mp ho
  obtain ⟨-, hmissed, -, hcollected, hstartup, hclock⟩ := gapObservation?_fields hobserved
  refine ⟨hclock.trans (decide_eq_false (h.continuous p hp)), hcollected, ?_⟩
  rw [hmissed, hstartup, decide_eq_true_iff]
  exact h.late p hp

/-- What is due in terms of reports is due in terms of observations. -/
theorem gapDue_iff (hchecked : ∀ p ∈ segment, p.Checked) :
    GapDue earlier segment ↔ GapStands (gapObservations earlier) (gapObservations segment) := by
  refine or_congr_right ⟨?_, ?_⟩
  · rintro ⟨p, hp, htwo⟩
    obtain ⟨o, ho⟩ := (hchecked p hp).observed
    refine ⟨o, mem_gapObservations.mpr ⟨p, hp, ho⟩, ?_⟩
    rw [(gapObservation?_fields ho).2.1]
    exact htwo
  · rintro ⟨o, ho, htwo⟩
    obtain ⟨p, hp, hobserved⟩ := mem_gapObservations.mp ho
    rw [(gapObservation?_fields hobserved).2.1] at htwo
    exact ⟨p, hp, htwo⟩

/-- Behind a segment whose last observation reports a miss the gap is found exactly when it is due. -/
theorem GapStored.found_iff {w : HistoryWorld} (hw : GapStored w)
    (hcommitted : w.committed = earlier ++ (segment ++ [last]))
    (hsegment : Consecutive (segment ++ [last])) (hmissed : 0 < last.missedIntervals) :
    GapFound w.store.database last.recordedAtUtcUs ↔ GapDue earlier (segment ++ [last]) := by
  have hchecked : ∀ p ∈ segment ++ [last], p.Checked := fun p hp =>
    hw.checked p (hcommitted ▸ List.mem_append_right _ hp)
  obtain ⟨o, ho⟩ := (hchecked last (List.mem_append_right _ List.mem_cons_self)).observed
  have hobservations := @gapObservations_concat segment _ _ ho
  have htrace : gapObservations w.committed =
      gapObservations earlier ++ (gapObservations segment ++ [o]) := by
    rw [hcommitted, gapObservations_append, hobservations]
  have hactive : (gapTrace (gapObservations w.committed)).phase = .active ↔
      GapDue earlier (segment ++ [last]) := by
    have hdelayed := hsegment.delayed
    have hinSequence := hw.inSequence
    rw [htrace] at hinSequence ⊢
    rw [hobservations] at hdelayed
    rw [active_segment hinSequence hdelayed (by rw [(gapObservation?_fields ho).2.1]; exact hmissed),
      gapDue_iff hchecked, hobservations]
  obtain ⟨c, rows, baseline, hcoherent, hstate⟩ := hw.state
  have hphase : (w.store.database.evaluation .sampling).map (·.gapPhase) =
      some (gapTrace (gapObservations w.committed)).phase := by
    rw [hcoherent.evaluators.stored .sampling, (SamplingGapState.new?_eq_ok.mp hstate).1]
    rfl
  unfold GapFound
  rw [hphase, Option.some.injEq, hactive]
  refine and_iff_left_of_imp fun hdue => hw.alert last ?_ ?_ (hactive.mpr hdue)
  · rw [hcommitted, ← List.append_assoc, List.getLast?_concat]
    rfl
  · unfold gapObservationHasMiss
    rw [Bool.and_eq_true_iff]
    exact ⟨decide_eq_true hmissed, decide_eq_true
      (hsegment.continuous last (List.mem_append_right _ List.mem_cons_self))⟩

end Segments

/-- Opportunities of one scheduler at these readings of the two clocks. -/
def serveAll (times : List (ℚ × Int)) (m : HealthHistoryScheduler × HistoryWorld) :
    Option (HealthHistoryScheduler × HistoryWorld) :=
  times.foldlM (fun m now => serveDue epochClock now.1 now.2 failedReport m) m

/-- A fresh store behind one instance and its opportunities. -/
def serveLate (times : List (ℚ × Int)) : Option HistoryWorld :=
  match createSchemaV1 0 with
  | .error _ => none
  | .ok fresh => do
    let m ← serveNew 0 1000 failedReport ⟨⟨fresh, false⟩, []⟩
    let m' ← serveAll times m
    return m'.2

/-- A schedule that is served is a life of the scheduler. -/
theorem lives_serveAll {times : List (ℚ × Int)} {m m' : HealthHistoryScheduler × HistoryWorld}
    (h : serveAll times m = some m') : Lives epochClock m.1 m.2 m'.2 := by
  induction times generalizing m with
  | nil =>
    obtain rfl := Option.some.inj h
    exact .stops _ _
  | cons now times ih =>
    unfold serveAll at h
    rw [List.foldlM_cons] at h
    obtain ⟨next, hnext, hrest⟩ := Option.bind_eq_some_iff.mp h
    obtain ⟨_, hends, hfollows⟩ := serveDue_eq_some hnext
    exact .call hends hfollows (ih hrest)

/-- It is a run under one leader. -/
theorem leads_serveLate {times : List (ℚ × Int)} {w : HistoryWorld} (h : serveLate times = some w) :
    ∃ store, HealthHistoryStore.create true .created true 0 = .ok store ∧
      Leads epochClock ⟨store, []⟩ [w.committed] w := by
  unfold serveLate at h
  split at h
  · cases h
  · rename_i fresh hfresh
    obtain ⟨m, hnew, h⟩ := Option.bind_eq_some_iff.mp h
    obtain ⟨m', hserved, h⟩ := Option.bind_eq_some_iff.mp h
    obtain rfl := Option.some.inj h
    obtain ⟨_, hconstructs, hfollows⟩ := serveNew_eq_some hnew
    exact ⟨_, create_fresh hfresh,
      .constructed .same hconstructs hfollows (lives_serveAll hserved) rfl (.ends _)⟩

/-- **Opening a sampling gap.**  In every run under one leader, behind consecutive observations that
    report two missed intervals in all, the evaluator is active and there is an alert exactly when the
    gap was open before them, or one of them reports two missed intervals by itself. -/
theorem sampling_gap_found_iff {iso : String → Option Datetime} {createdAtUtcUs : Int}
    {runtime files : Bool} {file : FileCreation} {store : HealthHistoryStore}
    (hcreate : HealthHistoryStore.create runtime file files createdAtUtcUs = .ok store)
    {logs : List (List HealthProjection)} {w : HistoryWorld} (h : Leads iso ⟨store, []⟩ logs w)
    {earlier segment : List HealthProjection} {last : HealthProjection}
    (hcommitted : w.committed = earlier ++ (segment ++ [last]))
    (hsegment : Consecutive (segment ++ [last]))
    (htwo : 2 ≤ ((segment ++ [last]).map HealthProjection.missedIntervals).sum) :
    GapFound w.store.database last.recordedAtUtcUs ↔ GapDue earlier (segment ++ [last]) := by
  obtain ⟨database, hschema, rfl⟩ := create_eq_ok hcreate
  have hw : GapStored w := h.invariant (P := GapStored) (fun _ _ _ hx hw => hw.step hx)
    (fun _ _ hopen hw => hw.reopened hopen) (.fresh hschema)
  exact hw.found_iff hcommitted hsegment (hsegment.last_missed htwo)

/-- A run that leaves a late first observation and a late heartbeat leaves consecutive ones. -/
theorem consecutive_serveLate {times : List (ℚ × Int)} {w : HistoryWorld} {m n : Int}
    (h : serveLate times = some w) (hm : 0 < m) (hn : 0 < n)
    (hmissed : w.committed.map HealthProjection.missedIntervals = [m, n])
    (hkinds : w.committed.map HealthProjection.sampleKind = [.startupGap, .heartbeat]) :
    ∃ store first last, HealthHistoryStore.create true .created true 0 = .ok store ∧
      Leads epochClock ⟨store, []⟩ [w.committed] w ∧ w.committed = [first, last] ∧
        Consecutive [first, last] ∧ first.missedIntervals = m ∧ last.missedIntervals = n := by
  obtain ⟨store, hcreate, hleads⟩ := leads_serveLate h
  obtain ⟨first, rest, hcommitted, hfirst, hrest⟩ := List.map_eq_cons_iff.mp hmissed
  obtain ⟨last, rfl, hlast⟩ := List.map_eq_singleton_iff.mp hrest
  rw [hcommitted] at hkinds
  obtain ⟨hstartup, hkinds⟩ := List.cons.inj hkinds
  obtain ⟨hheartbeat, -⟩ := List.cons.inj hkinds
  refine ⟨store, first, last, hcreate, hleads, hcommitted, ⟨?_, ?_, ?_⟩, hfirst, hlast⟩
  · intro p hp
    right
    rcases List.mem_pair.mp hp with rfl | rfl
    · rw [hfirst]
      exact hm
    · rw [hlast]
      exact hn
  · intro p hp
    rcases List.mem_pair.mp hp with rfl | rfl
    · rw [hstartup]
      decide
    · rw [hheartbeat]
      decide
  · intro p hp
    obtain rfl := List.mem_singleton.mp hp
    rw [hheartbeat]
    decide

/-- One missed interval, and two more behind it, open a gap. -/
theorem sampling_gap_found_iff_late : ∃ store w first last,
    HealthHistoryStore.create true .created true 0 = .ok store ∧
      Leads epochClock ⟨store, []⟩ [w.committed] w ∧ w.committed = [first, last] ∧
        first.missedIntervals = 1 ∧ last.missedIntervals = 2 ∧
          GapFound w.store.database last.recordedAtUtcUs := by
  have hserved : (match serveLate [(35, 35001000), (125, 125001000)] with
      | some w => decide (w.committed.map HealthProjection.missedIntervals = [1, 2] ∧
          w.committed.map HealthProjection.sampleKind = [.startupGap, .heartbeat])
      | none => false) = true := by decide +kernel
  split at hserved
  case h_2 => cases hserved
  rename_i w hw
  obtain ⟨hmissed, hkinds⟩ := of_decide_eq_true hserved
  obtain ⟨store, first, last, hcreate, hleads, hcommitted, hsegment, hfirst, hlast⟩ :=
    consecutive_serveLate hw (by decide) (by decide) hmissed hkinds
  have hsplit : w.committed = [] ++ ([first] ++ [last]) := hcommitted
  have htwo : 2 ≤ (([first] ++ [last]).map HealthProjection.missedIntervals).sum := by
    show 2 ≤ [first.missedIntervals, last.missedIntervals].sum
    rw [hfirst, hlast]
    decide
  have hdue : GapDue [] ([first] ++ [last]) := by
    refine .inr ⟨last, List.mem_append_right _ List.mem_cons_self, ?_⟩
    rw [hlast]
  refine ⟨store, w, first, last, hcreate, hleads, hcommitted, hfirst, hlast, ?_⟩
  exact (sampling_gap_found_iff hcreate hleads hsplit hsegment htwo).mpr hdue

/-- Two observations that report one missed interval each do not. -/
theorem late_twice_not_found : ∃ store w first last,
    HealthHistoryStore.create true .created true 0 = .ok store ∧
      Leads epochClock ⟨store, []⟩ [w.committed] w ∧ w.committed = [first, last] ∧
        Consecutive [first, last] ∧
          ([first, last].map HealthProjection.missedIntervals).sum = 2 ∧
            ¬GapFound w.store.database last.recordedAtUtcUs := by
  have hserved : (match serveLate [(35, 35001000), (95, 95001000)] with
      | some w => decide (w.committed.map HealthProjection.missedIntervals = [1, 1] ∧
          w.committed.map HealthProjection.sampleKind = [.startupGap, .heartbeat] ∧
            (w.store.database.evaluation .sampling).map (·.gapPhase) = some .candidateOne)
      | none => false) = true := by decide +kernel
  split at hserved
  case h_2 => cases hserved
  rename_i w hw
  obtain ⟨hmissed, hkinds, hphase⟩ := of_decide_eq_true hserved
  obtain ⟨store, first, last, hcreate, hleads, hcommitted, hsegment, hfirst, hlast⟩ :=
    consecutive_serveLate hw (by decide) (by decide) hmissed hkinds
  refine ⟨store, w, first, last, hcreate, hleads, hcommitted, hsegment, ?_, ?_⟩
  · show [first.missedIntervals, last.missedIntervals].sum = 2
    rw [hfirst, hlast]
    decide
  · rintro ⟨hactive, -⟩
    rw [hphase] at hactive
    exact absurd (Option.some.inj hactive) (by decide)

end Aurora.HealthHistory
