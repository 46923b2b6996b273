/-
  One scheduler after another over one store.

  Every resume state read from a store names the last sequence it has committed (`Sequenced.resumed`),
  and a scheduler ingests under the sequence behind the resume state it has just read; so the sequences
  committed are 1, 2, 3, ... over any number of instances, each cut off wherever it may be.
-/
import Aurora.HealthHistory.Serving
import Aurora.HealthHistory.Ingesting

namespace Aurora.HealthHistory

open Ingestion Program

/-! ## Sequences -/

/-- 1, 2, ..., n. -/
def sequencesUpTo (n : Nat) : List Int := (List.range n).map fun k : Nat => (k : Int) + 1

theorem sequencesUpTo_succ (n : Nat) :
    sequencesUpTo (n + 1) = sequencesUpTo n ++ [(n : Int) + 1] := by
  unfold sequencesUpTo
  rw [List.range_succ, List.map_append, List.map_cons, List.map_nil]

/-- The last of them. -/
def lastSequence : Nat → Option Int
  | 0 => none
  | n + 1 => some ((n : Int) + 1)

/-- The sequence behind `n` commits is `n + 1`, until the last one. -/
theorem nextSequence_of_last {state : SchedulerResumeState} {n : Nat} {sequence : Int}
    (hstate : state.lastCommittedSequence = lastSequence n)
    (h : nextSequence state = some sequence) : sequence = (n : Int) + 1 := by
  unfold nextSequence at h
  rw [hstate] at h
  cases n with
  | zero =>
    obtain rfl := Option.some.inj h
    rfl
  | succ n =>
    dsimp only [lastSequence] at h
    split at h
    · cases h
    · have hnext := Option.some.inj h
      push_cast
      omega

/-- The committed observations are 1, 2, ..., n, and the checkpoint names the last of them. -/
structure Sequenced (w : HistoryWorld) : Prop where
  sequences : w.committed.map HealthProjection.observationSequence =
    sequencesUpTo w.committed.length
  checkpoint : ∃ c rows baseline, CoherentAt w.store.database.toTables c rows baseline ∧
    c.sequence = lastSequence w.committed.length

namespace Sequenced

variable {w w' : HistoryWorld} {x : Exchange historyInterface} {t : HistoryTranscript}

/-- A fresh store has committed nothing. -/
theorem fresh {appliedAt : Int} {database : Database} {closed : Bool}
    (h : createSchemaV1 appliedAt = .ok database) : Sequenced ⟨⟨database, closed⟩, []⟩ where
  sequences := rfl
  checkpoint := by
    refine ⟨.fresh, fun _ => freshEvaluationRow, none, ?_, rfl⟩
    show CoherentAt database.toTables _ _ _
    rw [(createSchemaV1_eq_ok h).1]
    exact freshTables_coherent appliedAt

/-- A resume state that is returned is the one of the checkpoint. -/
theorem resumeState_of_ok {F : SqliteFaults} {database : Database} {c : Checkpoint}
    {state : SchedulerResumeState} (hc : Anchored database.toTables c)
    (h : (Queries.getSchedulerResumeState F database).1 = .ok state) :
    state = Queries.resumeState c := by
  obtain ⟨database', hrun⟩ := HealthHistoryStore.readTransaction_eq_ok h
  unfold Queries.readSchedulerResumeState at hrun
  obtain ⟨checkpoint, m, hread, hrest⟩ := Script.run_bind_eq_ok.mp hrun
  obtain ⟨u, m', -, hreturn⟩ := Script.run_bind_eq_ok.mp hrest
  obtain ⟨rfl, -⟩ := Prod.mk.inj (Except.ok.inj hreturn)
  have hanchored : anchoredCheckpoint database = .ok checkpoint := by
    rw [Script.run_mapError] at hread
    unfold readCheckpoint validateReplayAnchor attempt select at hread
    simp only [Script.run_bind, Script.run_read, Script.run_ofExcept, Script.run_pure] at hread
    unfold anchoredCheckpoint
    cases hdecode : decodeCheckpoint database.checkpoint with
    | error e =>
      rw [hdecode] at hread
      cases hread
    | ok c' =>
      rw [hdecode] at hread
      rw [ok_bind]
      simp only [map_ok] at hread
      cases hanchor : checkReplayAnchor c' (newestReplayRows database) with
      | error e =>
        rw [hanchor] at hread
        cases hread
      | ok u =>
        rw [hanchor] at hread
        obtain ⟨rfl, -⟩ := Prod.mk.inj (Except.ok.inj hread)
        rfl
  rw [hc.unique hanchored]

/-- The resume state that a call reads names the last sequence committed. -/
theorem resumed (hw : Sequenced w) {state : ResumeState}
    (h : w.Step ⟨.getSchedulerResumeState, .ok state⟩ w') :
    state.1.lastCommittedSequence = lastSequence w.committed.length := by
  obtain ⟨c, rows, baseline, hc, hsequence⟩ := hw.checkpoint
  cases h with
  | getSchedulerResumeState checks F hanswer =>
    cases hresult : w.store.getSchedulerResumeState checks F with
    | mk result store =>
      rw [hresult] at hanswer
      cases result with
      | error e => cases hanswer
      | ok state' =>
        have hstate : state.1 = state' := Except.ok.inj hanswer
        unfold HealthHistoryStore.getSchedulerResumeState HealthHistoryStore.readQuery at hresult
        obtain ⟨-, hread⟩ := HealthHistoryStore.bracketed_eq_ok hresult
        rw [hstate, resumeState_of_ok hc.anchored hread]
        exact hsequence

/-- Committing nothing keeps the sequences. -/
theorem kept (hw : Sequenced w) (hcommitted : w'.committed = w.committed)
    (hcoherent : ∀ c rows baseline, CoherentAt w.store.database.toTables c rows baseline →
      ∃ rows' baseline', CoherentAt w'.store.database.toTables c rows' baseline') : Sequenced w' where
  sequences := by
    rw [hcommitted]
    exact hw.sequences
  checkpoint := by
    obtain ⟨c, rows, baseline, hc, hsequence⟩ := hw.checkpoint
    obtain ⟨rows', baseline', hc'⟩ := hcoherent c rows baseline hc
    rw [hcommitted]
    exact ⟨c, rows', baseline', hc', hsequence⟩

/-- Committing the next sequence keeps them. -/
theorem next (hw : Sequenced w) {p : HealthProjection} {outcome : IngestionOutcome}
    (hp : p.Valid) (hingests : Ingests w.store.database p outcome w'.store.database)
    (hcommitted : w'.committed = w.committed ++ [p])
    (hsequence : p.observationSequence = (w.committed.length : Int) + 1) : Sequenced w' where
  sequences := by
    rw [hcommitted, List.map_append, hw.sequences, List.length_append, List.length_singleton,
      sequencesUpTo_succ, List.map_cons, List.map_nil, hsequence]
  checkpoint := by
    obtain ⟨c, rows, baseline, hc, -⟩ := hw.checkpoint
    obtain ⟨hbelow, d, transitions, m, sample, haccepted, -⟩ := hingests.accepted hc hp
    refine ⟨_, _, _, haccepted.coherent hc hp hbelow, ?_⟩
    rw [hcommitted, List.length_append, List.length_singleton]
    show some p.observationSequence = some ((w.committed.length : Int) + 1)
    rw [hsequence]

/-- A call that is not an ingest commits nothing. -/
theorem quiet (hw : Sequenced w) (h : w.Step x w') (hx : x.1.isIngest = false) :
    Sequenced w' ∧ w'.committed = w.committed := by
  cases h.effect with
  | kept hcommitted hdatabase =>
    exact ⟨hw.kept hcommitted fun c rows baseline hc => ⟨rows, baseline, hdatabase ▸ hc⟩, hcommitted⟩
  | cleaned hcommitted plan hdatabase =>
    exact ⟨hw.kept hcommitted fun c rows baseline hc => hdatabase ▸ hc.withoutAll plan, hcommitted⟩
  | ingested hingest =>
    subst hingest
    cases hx

/-- An ingest under the next sequence commits it, and says so or closes the store; or nothing is
    committed. -/
theorem ingest (hw : Sequenced w) {p : HealthProjection}
    {answer : Except HistoryException IngestionOutcome} (h : w.Step ⟨.ingest p, answer⟩ w')
    (hsequence : p.observationSequence = (w.committed.length : Int) + 1) :
    Sequenced w' ∧ (w'.committed = w.committed ∨
      w.store.closed = false ∧ w'.committed = w.committed ++ [p] ∧
        ((∃ reported, answer = .ok reported) ∨ w'.store.closed = true)) := by
  cases h.effect with
  | kept hcommitted hdatabase =>
    exact ⟨hw.kept hcommitted fun c rows baseline hc => ⟨rows, baseline, hdatabase ▸ hc⟩,
      .inl hcommitted⟩
  | cleaned hcommitted plan hdatabase =>
    exact ⟨hw.kept hcommitted fun c rows baseline hc => hdatabase ▸ hc.withoutAll plan,
      .inl hcommitted⟩
  | ingested hingest hopen hcommitted hp hingests hreported =>
    cases hingest
    exact ⟨hw.next hp hingests hcommitted hsequence, .inr ⟨hopen, hcommitted, hreported⟩⟩

end Sequenced

/-! ## Transcripts -/

section Transcripts

variable {w w' : HistoryWorld} {t : HistoryTranscript}

theorem follows_closed (h : Follows HistoryWorld.Step w t w') (hclosed : w.store.closed = true) :
    w'.store.closed = true :=
  h.invariant (P := fun w => w.store.closed = true) (fun _ _ _ _ hx hm => (hx.closed hm).1) hclosed

/-- A transcript without an ingest commits nothing. -/
theorem follows_quiet (h : Follows HistoryWorld.Step w t w') (hw : Sequenced w)
    (ht : calls HistoryCall.isIngest t = 0) : Sequenced w' ∧ w'.committed = w.committed := by
  have hkinds := calls_eq_zero.mp ht
  refine h.invariant (P := fun m => Sequenced m ∧ m.committed = w.committed) ?_ ⟨hw, rfl⟩
  rintro m x m' hx hstep ⟨hm, hcommitted⟩
  obtain ⟨hm', hsame⟩ := hm.quiet hstep (hkinds x hx)
  exact ⟨hm', hsame.trans hcommitted⟩

/-- **A transcript that ingests next commits nothing, or the next sequence.** -/
theorem follows_next {s : HealthHistoryScheduler} (h : Follows HistoryWorld.Step w t w')
    (hw : Sequenced w) (ht : IngestsNext s t) :
    Sequenced w' ∧ (w'.committed = w.committed ∨ ∃ p answer,
      ⟨.ingest p, answer⟩ ∈ t ∧ w.store.closed = false ∧ w'.committed = w.committed ++ [p] ∧
        (p.sampleKind = .startupGap → s.startupMarkerPending = true) ∧
          ((∃ reported, answer = .ok reported) ∨ w'.store.closed = true)) := by
  by_cases hnone : calls HistoryCall.isIngest t = 0
  · obtain ⟨hw', hcommitted⟩ := follows_quiet h hw hnone
    exact ⟨hw', .inl hcommitted⟩
  obtain ⟨p, answer, hmem⟩ : ∃ p answer, (⟨.ingest p, answer⟩ : Exchange historyInterface) ∈ t := by
    by_contra hall
    refine hnone (calls_eq_zero.mpr fun x hx => ?_)
    obtain ⟨c, answer⟩ := x
    cases c with
    | ingest p => exact absurd ⟨p, answer, hx⟩ hall
    | _ => rfl
  obtain ⟨before, after, rfl⟩ := List.append_of_mem hmem
  obtain ⟨hbefore, hafter, hmarker, earlier, resumed, between, hsplit, hnext⟩ :=
    ht before p answer after rfl
  -- follow the world up to the ingest
  obtain ⟨m, hm, hrest⟩ := follows_append.mp h
  obtain ⟨m', hstep, hm'⟩ := follows_cons.mp hrest
  obtain ⟨hsequenced, hcommitted⟩ := follows_quiet hm hw hbefore
  have hopen : m.store.closed = false → w.store.closed = false := by
    intro hopen
    by_contra hclosed
    rw [follows_closed hm (Bool.eq_true_of_not_eq_false hclosed)] at hopen
    cases hopen
  -- the resume state was read from the same committed observations
  have hsequence : p.observationSequence = (m.committed.length : Int) + 1 := by
    subst hsplit
    obtain ⟨r, hr, hread⟩ := follows_append.mp hm
    obtain ⟨r', hresume, -⟩ := follows_cons.mp hread
    rw [calls_append] at hbefore
    obtain ⟨hr', hsame⟩ := follows_quiet hr hw (Nat.eq_zero_of_add_eq_zero_right hbefore)
    rw [hcommitted, ← hsame]
    exact nextSequence_of_last (hr'.resumed hresume) hnext
  obtain ⟨hsequenced', hcommits⟩ := hsequenced.ingest hstep hsequence
  obtain ⟨hw', hsame⟩ := follows_quiet hm' hsequenced' hafter
  refine ⟨hw', ?_⟩
  rw [hsame]
  rcases hcommits with hnothing | ⟨hm, hp, hreported⟩
  · exact .inl (hnothing.trans hcommitted)
  · refine .inr ⟨p, answer, hmem, hopen hm, ?_, hmarker, hreported.imp id (follows_closed hm')⟩
    rw [hp, hcommitted]

end Transcripts

/-! ## Instances -/

/-- Every call has an answer: the store fails, and the rest is missing. -/
instance (c : historyInterface.Call) : Inhabited (historyInterface.Answer c) where
  default := match c with
    | .acquire _ => false
    | .monotonic _ => none
    | .utcNow => none
    | .utcNowUs => none
    | .healthReport => none
    | .getSchedulerResumeState => .error .store
    | .closeStore => ()
    | .inspectStorageCapacity => .error .store
    | .inspectFreeSpace => .error .store
    | .inspectWal => .error .store
    | .cleanupRetention _ _ => .error .store
    | .incrementalVacuum => .error .store
    | .passiveWalCheckpoint => .error .store
    | .ingest _ => .error .store

/-- What the owner of a scheduler may call. -/
inductive SchedulerCall
  | isDue
  | runDueOpportunity
  /-- A maintenance opportunity of its orchestrator. -/
  | runMaintenanceOpportunity

/-- A call begins, and is cut off after the transcript. -/
def SchedulerCall.Begins (iso : String → Option Datetime) (s : HealthHistoryScheduler) :
    SchedulerCall → HistoryTranscript → Prop
  | .isDue => Program.Begins s.isDue
  | .runDueOpportunity => Program.Begins (s.runDueOpportunity iso)
  | .runMaintenanceOpportunity => Program.Begins s.orchestrator.runMaintenanceOpportunity

/-- A call ends, with the scheduler it leaves. -/
inductive SchedulerCall.Ends (iso : String → Option Datetime) (s : HealthHistoryScheduler) :
    SchedulerCall → HistoryTranscript → HealthHistoryScheduler → Prop
  | isDue {t : HistoryTranscript} {decided : Except SchedulerRejection SchedulerDueDecision}
      {s' : HealthHistoryScheduler} (h : Runs s.isDue t (.ok (decided, s'))) :
      Ends iso s .isDue t s'
  | runDueOpportunity {t : HistoryTranscript} {result : Except HistoryException SchedulerResult}
      {s' : HealthHistoryScheduler} (h : Runs (s.runDueOpportunity iso) t (.ok (result, s'))) :
      Ends iso s .runDueOpportunity t s'
  | maintained {t : HistoryTranscript} {result : MaintenanceOpportunityResult}
      {orchestrator : HealthHistoryOrchestrator}
      (h : Runs s.orchestrator.runMaintenanceOpportunity t (.ok (result, orchestrator))) :
      Ends iso s .runMaintenanceOpportunity t { s with orchestrator := orchestrator }
  | raised {t : HistoryTranscript} {e : HistoryException}
      (h : Runs s.orchestrator.runMaintenanceOpportunity t (.error e)) :
      Ends iso s .runMaintenanceOpportunity t s

/-- What an instance does from its construction to its end: calls one after another, the last of them
    cut off anywhere. -/
inductive Lives (iso : String → Option Datetime) :
    HealthHistoryScheduler → HistoryWorld → HistoryWorld → Prop
  | stops (s : HealthHistoryScheduler) (w : HistoryWorld) : Lives iso s w w
  | cutOff {s : HealthHistoryScheduler} {w w' : HistoryWorld} {c : SchedulerCall}
      {t : HistoryTranscript} (hbegins : c.Begins iso s t)
      (hw : Follows HistoryWorld.Step w t w') : Lives iso s w w'
  | call {s s' : HealthHistoryScheduler} {w m w' : HistoryWorld} {c : SchedulerCall}
      {t : HistoryTranscript} (hends : c.Ends iso s t s') (hw : Follows HistoryWorld.Step w t m)
      (rest : Lives iso s' m w') : Lives iso s w w'

/-- The store an instance is constructed over: the one that is there, or the database reopened. -/
inductive Reopens (w : HistoryWorld) : HistoryWorld → Prop
  | same : Reopens w w
  | reopened {runtime files : Bool} {store : HealthHistoryStore}
      (h : HealthHistoryStore.openExisting runtime files w.store.database = .ok store) :
      Reopens w { w with store := store }

/-- A run under one leader: instances one after another, with what each of them committed. -/
inductive Leads (iso : String → Option Datetime) :
    HistoryWorld → List (List HealthProjection) → HistoryWorld → Prop
  | ends (w : HistoryWorld) : Leads iso w [] w
  /-- A construction that fails, or is cut off. -/
  | unconstructed {w r m w' : HistoryWorld} {orchestrator : HealthHistoryOrchestrator}
      {sampleInterval refresh : Int} {t : HistoryTranscript} {logs : List (List HealthProjection)}
      (hopen : Reopens w r)
      (hbegins : Begins (HealthHistoryScheduler.new orchestrator sampleInterval refresh) t)
      (hw : Follows HistoryWorld.Step r t m) (rest : Leads iso m logs w') : Leads iso w logs w'
  /-- A call outside of any instance, such as a checkpoint at startup. -/
  | call {w m w' : HistoryWorld} {x : Exchange historyInterface} {logs : List (List HealthProjection)}
      (hx : x.1.isIngest = false) (hw : w.Step x m) (rest : Leads iso m logs w') : Leads iso w logs w'
  | constructed {w r m m' w' : HistoryWorld} {orchestrator : HealthHistoryOrchestrator}
      {sampleInterval refresh : Int} {t : HistoryTranscript} {s : HealthHistoryScheduler}
      {log : List HealthProjection} {logs : List (List HealthProjection)} (hopen : Reopens w r)
      (hnew : Runs (HealthHistoryScheduler.new orchestrator sampleInterval refresh) t (.ok s))
      (hw : Follows HistoryWorld.Step r t m) (hlives : Lives iso s m m')
      (hlog : m'.committed = w.committed ++ log) (rest : Leads iso m' logs w') :
      Leads iso w (log :: logs) w'

/-! ## Instances on a store without faults -/

section Served

variable {iso : String → Option Datetime} {now : ℚ} {recordedAt : Int} {report : HealthReport}

/-- Construct a scheduler on a store that serves. -/
def serveNew (now : ℚ) (recordedAt : Int) (report : HealthReport) (w : HistoryWorld) :
    Option (HealthHistoryScheduler × HistoryWorld) :=
  match (HealthHistoryScheduler.new ⟨30, .initial, retention_thirty⟩ 30 5).play
      (HistoryWorld.serve now recordedAt report) w with
  | (.ok s, m) => some (s, m)
  | (.error _, _) => none

/-- Run one opportunity of a scheduler on a store that serves. -/
def serveDue (iso : String → Option Datetime) (now : ℚ) (recordedAt : Int) (report : HealthReport)
    (m : HealthHistoryScheduler × HistoryWorld) : Option (HealthHistoryScheduler × HistoryWorld) :=
  match (m.1.runDueOpportunity iso).play (HistoryWorld.serve now recordedAt report) m.2 with
  | (.ok (_, s), w) => some (s, w)
  | (.error _, _) => none

/-- A construction that is served is a run of the constructor. -/
theorem serveNew_eq_some {w : HistoryWorld} {m : HealthHistoryScheduler × HistoryWorld}
    (h : serveNew now recordedAt report w = some m) : ∃ t,
    Runs (HealthHistoryScheduler.new ⟨30, .initial, by decide⟩ 30 5) t (.ok m.1) ∧
      Follows HistoryWorld.Step w t m.2 := by
  have hplayed := @HistoryWorld.played now recordedAt report _ _
    (HealthHistoryScheduler.new ⟨30, .initial, by decide⟩ 30 5) w
  unfold serveNew at h
  split at h
  · rename_i hr
    obtain rfl := Option.some.inj h
    rw [hr] at hplayed
    exact ⟨_, hplayed⟩
  · cases h

/-- An opportunity that is served is a run of it. -/
theorem serveDue_eq_some {m m' : HealthHistoryScheduler × HistoryWorld}
    (h : serveDue iso now recordedAt report m = some m') : ∃ t,
    SchedulerCall.Ends iso m.1 .runDueOpportunity t m'.1 ∧ Follows HistoryWorld.Step m.2 t m'.2 := by
  have hplayed := @HistoryWorld.played now recordedAt report _ _ (m.1.runDueOpportunity iso) m.2
  unfold serveDue at h
  split at h
  · rename_i hr
    obtain rfl := Option.some.inj h
    rw [hr] at hplayed
    exact ⟨_, .runDueOpportunity hplayed.1, hplayed.2⟩
  · cases h

end Served

/-- A fresh database is created and verified. -/
theorem create_fresh {createdAtUtcUs : Int} {fresh : Database}
    (h : createSchemaV1 createdAtUtcUs = .ok fresh) :
    HealthHistoryStore.create true .created true createdAtUtcUs = .ok ⟨fresh, false⟩ := by
  unfold HealthHistoryStore.create
  rw [h, if_pos rfl]
  dsimp only
  rw [(agreed_fresh h).verified]
  rfl

/-! ## What an instance commits -/

section Instances

variable {iso : String → Option Datetime} {s s' : HealthHistoryScheduler} {w w' : HistoryWorld}
  {t : HistoryTranscript}

/-- The calls that construct a scheduler ingest nothing. -/
theorem new_makes {orchestrator : HealthHistoryOrchestrator} {sampleInterval refresh : Int} :
    (HealthHistoryScheduler.new orchestrator sampleInterval refresh).Makes
      fun c : HistoryCall => c.isIngest = false := by
  unfold HealthHistoryScheduler.new
  split
  · refine Makes.bind ?_ fun resumed => Makes.bind ?_ fun started => ?_
    · refine Makes.bind (makes_ask rfl) fun answer => ?_
      split
      · exact makes_pure _
      · split
        · exact Makes.bind (makes_ask rfl) fun _ => makes_raise _
        · exact makes_raise _
    · exact makes_invoke rfl
    · split
      · exact makes_pure _
      · exact makes_raise _
  · exact makes_raise _

theorem new_quiet {orchestrator : HealthHistoryOrchestrator} {sampleInterval refresh : Int}
    (h : Runs (HealthHistoryScheduler.new orchestrator sampleInterval refresh) t (.ok s)) :
    calls HistoryCall.isIngest t = 0 :=
  calls_eq_zero.mpr (new_makes.runs h)

/-- A call that begins ingests next. -/
theorem SchedulerCall.Begins.ingests {c : SchedulerCall} (h : c.Begins iso s t) :
    IngestsNext s t := by
  cases c with
  | isDue =>
    obtain ⟨t', r, hruns⟩ := Program.Begins.extends h
    obtain ⟨_, _, -, -, hcalls⟩ := HealthHistoryScheduler.isDue_runs hruns
    refine .of_quiet (calls_eq_zero.mpr fun x hx => ?_)
    rcases hcalls x (List.mem_append_left t' hx) with hx | hx <;> rw [hx] <;> rfl
  | runDueOpportunity =>
    obtain ⟨t', r, hruns⟩ := Program.Begins.extends h
    obtain ⟨_, _, -, hdue⟩ := HealthHistoryScheduler.runDueOpportunity_runs hruns
    exact hdue.ingests.1.cut
  | runMaintenanceOpportunity =>
    have hcalls := s.orchestrator.runMaintenanceOpportunity_makes.begins h
    exact .of_quiet (calls_eq_zero_of hcalls fun _ hc => hc.not_ingest)

/-- A call that ends ingests next; the marker is cleared by an ingest that returned. -/
theorem SchedulerCall.Ends.ingests {c : SchedulerCall} (h : c.Ends iso s t s') :
    IngestsNext s t ∧ (s'.startupMarkerPending = true → s.startupMarkerPending = true) ∧
      ∀ p outcome, ⟨.ingest p, .ok outcome⟩ ∈ t → s'.startupMarkerPending = false := by
  have hquiet {s' : HealthHistoryScheduler} (hmarker : s'.startupMarkerPending =
      s.startupMarkerPending) (ht : calls HistoryCall.isIngest t = 0) :
      IngestsNext s t ∧ (s'.startupMarkerPending = true → s.startupMarkerPending = true) ∧
        ∀ p outcome, ⟨.ingest p, .ok outcome⟩ ∈ t → s'.startupMarkerPending = false :=
    ⟨.of_quiet ht, fun hpending => hmarker ▸ hpending, fun p outcome hmem =>
      absurd hmem (HealthHistoryScheduler.not_mem_of_calls ht p (.ok outcome))⟩
  cases h with
  | isDue h =>
    obtain ⟨_, _, hr, hsame, hcalls⟩ := HealthHistoryScheduler.isDue_runs h
    cases hr
    refine hquiet ?_ (calls_eq_zero.mpr fun x hx => ?_)
    · rcases hsame with rfl | hchecks
      · rfl
      · obtain ⟨cadence, rfl, -⟩ := hchecks.state
        rfl
    · rcases hcalls x hx with hx | hx <;> rw [hx] <;> rfl
  | runDueOpportunity h =>
    obtain ⟨_, _, hr, hdue⟩ := HealthHistoryScheduler.runDueOpportunity_runs h
    cases hr
    exact hdue.ingests
  | maintained h =>
    have hcalls := s.orchestrator.runMaintenanceOpportunity_makes.runs h
    exact hquiet rfl (calls_eq_zero_of hcalls fun _ hc => hc.not_ingest)
  | raised h =>
    have hcalls := s.orchestrator.runMaintenanceOpportunity_makes.runs h
    exact hquiet rfl (calls_eq_zero_of hcalls fun _ hc => hc.not_ingest)

/-- How many observations carry the startup marker. -/
def startupMarkers (log : List HealthProjection) : Nat :=
  log.countP fun p => p.sampleKind = .startupGap

theorem startupMarkers_append (log more : List HealthProjection) :
    startupMarkers (log ++ more) = startupMarkers log + startupMarkers more := List.countP_append

/-- The marker is committed at most once, and while it is pending on an open store, not yet. -/
structure Marked (s : HealthHistoryScheduler) (w : HistoryWorld) (log : List HealthProjection) :
    Prop where
  once : startupMarkers log ≤ 1
  pending : s.startupMarkerPending = true → w.store.closed = true ∨ startupMarkers log = 0

theorem Marked.start : Marked s w [] := ⟨Nat.zero_le 1, fun _ => .inr rfl⟩

/-- One observation committed while the marker is pending, or without the marker. -/
theorem Marked.once_append {log : List HealthProjection} {p : HealthProjection}
    (h : Marked s w log) (hopen : w.store.closed = false)
    (hp : p.sampleKind = .startupGap → s.startupMarkerPending = true) :
    startupMarkers (log ++ [p]) ≤ 1 := by
  rw [startupMarkers_append]
  by_cases hgap : p.sampleKind = .startupGap
  · have hnone : startupMarkers log = 0 := by
      rcases h.pending (hp hgap) with hclosed | hnone
      · rw [hopen] at hclosed
        cases hclosed
      · exact hnone
    have hone : startupMarkers [p] ≤ 1 := List.countP_le_length
    omega
  · have hzero : startupMarkers [p] = 0 := by
      unfold startupMarkers
      rw [List.countP_eq_zero]
      simpa using hgap
    have honce := h.once
    omega

/-- **An instance commits the sequences that follow, and its marker at most once.** -/
theorem Lives.commits (h : Lives iso s w w') : ∀ {log : List HealthProjection}, Sequenced w →
    Marked s w log → Sequenced w' ∧
      ∃ more, w'.committed = w.committed ++ more ∧ startupMarkers (log ++ more) ≤ 1 := by
  induction h with
  | stops s w =>
    intro log hw hmarked
    refine ⟨hw, [], (List.append_nil _).symm, ?_⟩
    rw [List.append_nil]
    exact hmarked.once
  | cutOff hbegins hfollows =>
    intro log hw hmarked
    obtain ⟨hw', hcommits⟩ := follows_next hfollows hw hbegins.ingests
    refine ⟨hw', ?_⟩
    rcases hcommits with hnone | ⟨p, answer, -, hopen, hcommitted, hmarker, -⟩
    · refine ⟨[], hnone.trans (List.append_nil _).symm, ?_⟩
      rw [List.append_nil]
      exact hmarked.once
    · exact ⟨[p], hcommitted, hmarked.once_append hopen hmarker⟩
  | @call s s' w m w' c t hends hfollows _ ih =>
    intro log hw hmarked
    obtain ⟨hingests, hkeeps, haccepts⟩ := hends.ingests
    obtain ⟨hm, hcommits⟩ := follows_next hfollows hw hingests
    rcases hcommits with hnone | ⟨p, answer, hmem, hopen, hcommitted, hmarker, hreported⟩
    · -- nothing committed: the marker is pending as before, and a closed store stays closed
      have hmarked' : Marked s' m log := by
        refine ⟨hmarked.once, fun hpending => ?_⟩
        exact (hmarked.pending (hkeeps hpending)).imp (follows_closed hfollows) id
      obtain ⟨hw', more, hmore, honce⟩ := ih hm hmarked'
      exact ⟨hw', more, by rw [hmore, hnone], honce⟩
    · have hmarked' : Marked s' m (log ++ [p]) := by
        refine ⟨hmarked.once_append hopen hmarker, fun hpending => ?_⟩
        -- a commit that was reported cleared the marker, any other one closed the store
        rcases hreported with ⟨outcome, rfl⟩ | hclosed
        · rw [haccepts p outcome hmem] at hpending
          cases hpending
        · exact .inl hclosed
      obtain ⟨hw', more, hmore, honce⟩ := ih hm hmarked'
      refine ⟨hw', p :: more, ?_, ?_⟩
      · rw [hmore, hcommitted, List.append_assoc, List.singleton_append]
      · rwa [List.append_assoc, List.singleton_append] at honce

end Instances

/-! ## Leadership -/

/-- Reopening changes neither the database nor what was committed. -/
theorem Reopens.same_database {w r : HistoryWorld} (h : Reopens w r) :
    r.store.database = w.store.database ∧ r.committed = w.committed := by
  cases h with
  | same => exact ⟨rfl, rfl⟩
  | reopened h =>
    refine ⟨?_, rfl⟩
    unfold HealthHistoryStore.openExisting at h
    split at h
    · split at h
      · cases h
      · split at h
        · obtain rfl := Except.ok.inj h
          rfl
        · cases h
    · cases h

/-- What every call keeps is kept by an instance. -/
theorem Lives.invariant {iso : String → Option Datetime} {P : HistoryWorld → Prop}
    (hstep : ∀ w x w', HistoryWorld.Step w x w' → P w → P w') {s : HealthHistoryScheduler}
    {w w' : HistoryWorld} (h : Lives iso s w w') (hw : P w) : P w' := by
  induction h with
  | stops => exact hw
  | cutOff _ hfollows => exact hfollows.invariant (fun _ _ _ _ => hstep _ _ _) hw
  | call _ hfollows _ ih => exact ih (hfollows.invariant (fun _ _ _ _ => hstep _ _ _) hw)

/-- What every call and every reopening keeps is kept by a run. -/
theorem Leads.invariant {iso : String → Option Datetime} {P : HistoryWorld → Prop}
    (hstep : ∀ w x w', HistoryWorld.Step w x w' → P w → P w')
    (hreopens : ∀ w r, Reopens w r → P w → P r) {w w' : HistoryWorld}
    {logs : List (List HealthProjection)} (h : Leads iso w logs w') (hw : P w) : P w' := by
  induction h with
  | ends => exact hw
  | unconstructed hopen _ hfollows _ ih =>
    exact ih (hfollows.invariant (fun _ _ _ _ => hstep _ _ _) (hreopens _ _ hopen hw))
  | call _ hcall _ ih => exact ih (hstep _ _ _ hcall hw)
  | constructed hopen _ hfollows hlives _ _ ih =>
    exact ih (hlives.invariant hstep
      (hfollows.invariant (fun _ _ _ _ => hstep _ _ _) (hreopens _ _ hopen hw)))

/-- Reopening commits nothing. -/
theorem Reopens.sequenced {w r : HistoryWorld} (h : Reopens w r) (hw : Sequenced w) :
    Sequenced r ∧ r.committed = w.committed := by
  obtain ⟨hdatabase, hcommitted⟩ := h.same_database
  exact ⟨hw.kept hcommitted fun c rows baseline hc => ⟨rows, baseline, hdatabase ▸ hc⟩, hcommitted⟩

theorem Leads.commits {iso : String → Option Datetime} {w w' : HistoryWorld}
    {logs : List (List HealthProjection)} (h : Leads iso w logs w') (hw : Sequenced w) :
    Sequenced w' ∧ w'.committed = w.committed ++ logs.flatten ∧
      ∀ log ∈ logs, startupMarkers log ≤ 1 := by
  induction h with
  | ends w => exact ⟨hw, (List.append_nil _).symm, fun _ hlog => absurd hlog List.not_mem_nil⟩
  | unconstructed hopen hbegins hfollows _ ih =>
    obtain ⟨hr, hsame⟩ := hopen.sequenced hw
    obtain ⟨hm, hnone⟩ := follows_quiet hfollows hr (calls_eq_zero.mpr (new_makes.begins hbegins))
    obtain ⟨hw', hcommitted, honce⟩ := ih hm
    exact ⟨hw', by rw [hcommitted, hnone, hsame], honce⟩
  | call hx hstep _ ih =>
    obtain ⟨hm, hnone⟩ := hw.quiet hstep hx
    obtain ⟨hw', hcommitted, honce⟩ := ih hm
    exact ⟨hw', by rw [hcommitted, hnone], honce⟩
  | @constructed m _ _ _ _ _ _ _ _ _ _ _ hopen hnew hfollows hlives hlog _ ih =>
    obtain ⟨hr, hsame⟩ := hopen.sequenced hw
    obtain ⟨hm, hnone⟩ := follows_quiet hfollows hr (new_quiet hnew)
    obtain ⟨hm', more, hmore, hmarkers⟩ := hlives.commits hm .start
    obtain ⟨hw', hcommitted, honce⟩ := ih hm'
    refine ⟨hw', ?_, fun l hl => ?_⟩
    · rw [hcommitted, hlog, List.flatten_cons, List.append_assoc]
    · rcases List.mem_cons.mp hl with rfl | hl
      · have hmore' : m.committed ++ l = m.committed ++ more := by
          rw [← hlog, hmore, hnone, hsame]
        rwa [List.append_cancel_left hmore']
      · exact honce l hl

/-- A store that is created is open, over a fresh database. -/
theorem create_eq_ok {createdAtUtcUs : Int} {runtime files : Bool} {file : FileCreation}
    {store : HealthHistoryStore}
    (h : HealthHistoryStore.create runtime file files createdAtUtcUs = .ok store) :
    ∃ database, createSchemaV1 createdAtUtcUs = .ok database ∧ store = ⟨database, false⟩ := by
  unfold HealthHistoryStore.create at h
  split at h
  · split at h
    · cases h
    · cases h
    · split at h
      · cases h
      · rename_i database hschema
        split at h
        · cases h
        · split at h
          · exact ⟨database, hschema, (Except.ok.inj h).symm⟩
          · cases h
  · cases h

/-- **Gap-free observation sequences.**  Whatever the instances of a run under one leader do, whatever
    fails and wherever they are cut off, the observations committed are numbered 1, 2, 3, ..., the
    checkpoint names the last of them, and no instance commits its startup marker twice. -/
theorem sequences_of_leadership {iso : String → Option Datetime} {createdAtUtcUs : Int}
    {runtime files : Bool} {file : FileCreation} {store : HealthHistoryStore}
    (hcreate : HealthHistoryStore.create runtime file files createdAtUtcUs = .ok store)
    {logs : List (List HealthProjection)} {w : HistoryWorld} (h : Leads iso ⟨store, []⟩ logs w) :
    w.committed.map HealthProjection.observationSequence = sequencesUpTo w.committed.length ∧
      (∃ row, w.store.database.checkpoint = some row ∧
        row.lastCommittedSequence = lastSequence w.committed.length) ∧
      w.committed = logs.flatten ∧ ∀ log ∈ logs, startupMarkers log ≤ 1 := by
  obtain ⟨database, hschema, rfl⟩ := create_eq_ok hcreate
  obtain ⟨hw, hcommitted, honce⟩ := h.commits (.fresh hschema)
  obtain ⟨c, rows, baseline, hc, hsequence⟩ := hw.checkpoint
  exact ⟨hw.sequences, ⟨c.row, hc.anchored.checkpoint, hsequence⟩, hcommitted, honce⟩

/-- The clock text of every report is read as the epoch. -/
def epochClock : String → Option Datetime := fun _ => some (.aware (some 0))

/-- Two instances of one opportunity each. -/
def twoInstances (w : HistoryWorld) : Option (HistoryWorld × HistoryWorld) := do
  let first ← serveNew 0 1000 failedReport w
  let (_, m) ← serveDue epochClock 0 1000 failedReport first
  let second ← serveNew 0 2000 failedReport m
  let (_, w') ← serveDue epochClock 0 2000 failedReport second
  return (m, w')

/-- Restarted once, the service commits 1 and 2, each with a startup marker of its own. -/
theorem sequences_of_leadership_restarted : ∃ store logs w,
    HealthHistoryStore.create true .created true 0 = .ok store ∧
      Leads epochClock ⟨store, []⟩ logs w ∧ logs.length = 2 ∧
        w.committed.map HealthProjection.observationSequence = [1, 2] ∧
          w.committed.map HealthProjection.sampleKind = [.startupGap, .startupGap] ∧
            ∀ log ∈ logs, startupMarkers log ≤ 1 := by
  have hserved : (match createSchemaV1 0 with
      | .ok fresh =>
        match twoInstances ⟨⟨fresh, false⟩, []⟩ with
        | some (m, w) => decide (m.committed.length = 1 ∧ w.committed.length = 2 ∧
            w.committed.take 1 = m.committed ∧
            w.committed.map HealthProjection.sampleKind = [.startupGap, .startupGap])
        | none => false
      | .error _ => false) = true := by decide +kernel
  split at hserved
  case h_2 => cases hserved
  rename_i fresh hfresh
  split at hserved
  case h_2 => cases hserved
  rename_i m w htwo
  obtain ⟨hm, hw, hprefix, hkinds⟩ := of_decide_eq_true hserved
  unfold twoInstances at htwo
  obtain ⟨first, hfirst, htwo⟩ := Option.bind_eq_some_iff.mp htwo
  obtain ⟨⟨s, m₁⟩, hdue, htwo⟩ := Option.bind_eq_some_iff.mp htwo
  obtain ⟨second, hsecond, htwo⟩ := Option.bind_eq_some_iff.mp htwo
  obtain ⟨⟨s', w₁⟩, hdue', hreturn⟩ := Option.bind_eq_some_iff.mp htwo
  cases hreturn
  obtain ⟨_, hnew, hconstructed⟩ := serveNew_eq_some hfirst
  obtain ⟨_, hends, hfollows⟩ := serveDue_eq_some hdue
  obtain ⟨_, hnew', hconstructed'⟩ := serveNew_eq_some hsecond
  obtain ⟨_, hends', hfollows'⟩ := serveDue_eq_some hdue'
  have hleads : Leads epochClock ⟨⟨fresh, false⟩, []⟩ [m.committed, w.committed.drop 1] w := by
    refine .constructed .same hnew hconstructed (.call hends hfollows (.stops _ _)) rfl ?_
    refine .constructed .same hnew' hconstructed' (.call hends' hfollows' (.stops _ _)) ?_ (.ends w)
    rw [← hprefix, List.take_append_drop]
  obtain ⟨hsequences, -, -, honce⟩ := sequences_of_leadership (create_fresh hfresh) hleads
  rw [hw] at hsequences
  exact ⟨_, _, w, create_fresh hfresh, hleads, rfl, hsequences, hkinds, honce⟩

end Aurora.HealthHistory
