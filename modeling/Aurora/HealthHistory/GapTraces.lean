/-
  What the sampling-gap evaluator reports over a whole trace.

  The four phases are tied to the trace itself: the gap is open exactly when the last landmark
  (opened, recovered) reported so far is an opening, and an open gap sits in `active` or
  `recoveryOne` as no or one usable observation on time has been committed since the last committed
  miss or clock marker.
-/
import Mathlib.Data.List.DropRight
import Mathlib.Data.List.Chain
import Aurora.HealthHistory.SamplingGap

namespace Aurora.HealthHistory

/-! ## Traces -/

/-- The state before the first observation. -/
def SamplingGapState.fresh : SamplingGapState where
  phase := .clear
  committedObservations := 0
  largestMissedIntervalReport := 0
  lastCommittedSequence := none
  committedBounded := bounded_zero
  largestBounded := bounded_zero
  sequenceBounded := boundedOption_none _

/-- The state after a trace of observations, from the fresh one. -/
def gapTrace (observations : List SamplingGapObservation) : SamplingGapState :=
  observations.foldl (fun state o => (evaluateSamplingGap state o).state) .fresh

/-- The step that follows a trace. -/
def gapStep (observations : List SamplingGapObservation) (o : SamplingGapObservation) :
    SamplingGapTransition :=
  evaluateSamplingGap (gapTrace observations) o

/-- The events that a run reports from a state. -/
def gapEventsFrom (state : SamplingGapState) : List SamplingGapObservation → List SamplingGapEvent
  | [] => []
  | o :: rest =>
    (evaluateSamplingGap state o).event :: gapEventsFrom (evaluateSamplingGap state o).state rest

/-- The events of a trace, from the fresh state. -/
def gapEvents (observations : List SamplingGapObservation) : List SamplingGapEvent :=
  gapEventsFrom .fresh observations

/-- Whether an observation is committed after the ones kept so far. -/
def commits (kept : List SamplingGapObservation) (o : SamplingGapObservation) : Bool :=
  o.persistenceSucceeded && kept.all (fun c => c.sequence < o.sequence)

/-- The observations of a trace that were committed, in order. -/
def committed (observations : List SamplingGapObservation) : List SamplingGapObservation :=
  observations.foldl (fun kept o => if commits kept o then kept ++ [o] else kept) []

namespace SamplingGapObservation

/-- A miss or a clock marker: what an open gap starts its recovery over on. -/
def resets (o : SamplingGapObservation) : Bool :=
  o.clockDiscontinuityMarker || decide (0 < o.missedIntervals)

/-- A usable observation on time: no misses, no marker, collection succeeded. -/
def onTime (o : SamplingGapObservation) : Bool :=
  decide (o.missedIntervals = 0) && !o.startupGapMarker && !o.clockDiscontinuityMarker &&
    o.healthCollectionSucceeded

/-- An observation on time resets nothing. -/
theorem resets_of_onTime {o : SamplingGapObservation} (h : o.onTime = true) :
    o.resets = false := by
  simp only [onTime, Bool.and_eq_true, Bool.not_eq_true', decide_eq_true_eq] at h
  obtain ⟨⟨⟨hmissed, _⟩, hclock⟩, _⟩ := h
  simp [resets, hclock, hmissed]

end SamplingGapObservation

/-- The observations on time committed since the last committed miss or clock marker. -/
def recoveryProgress (kept : List SamplingGapObservation) : Nat :=
  (kept.rtakeWhile (fun o => !o.resets)).countP (·.onTime)

/-- The largest report of missed intervals outside clock markers. -/
def largestReport (kept : List SamplingGapObservation) : Int :=
  ((kept.filter (fun o => !o.clockDiscontinuityMarker)).map (·.missedIntervals)).foldl max 0

/-- The events that open and close a gap. -/
def landmarks (events : List SamplingGapEvent) : List SamplingGapEvent :=
  events.filter (fun e => e = .opened || e = .recovered)

/-- The gap was opened and has not recovered since. -/
def GapOpen (observations : List SamplingGapObservation) : Prop :=
  (landmarks (gapEvents observations)).getLast? = some .opened

/-- Openings and recoveries take turns, an opening first. -/
def Alternates (marks : List SamplingGapEvent) : Prop :=
  marks.IsChain (· ≠ ·) ∧ ∀ e ∈ marks.head?, e = .opened

/-! ## Lists of landmarks and progress -/

variable {state : SamplingGapState} {kept : List SamplingGapObservation}
  {observations : List SamplingGapObservation} {o : SamplingGapObservation}
  {marks : List SamplingGapEvent}

theorem gapTrace_concat (observations : List SamplingGapObservation) (o : SamplingGapObservation) :
    gapTrace (observations ++ [o]) = (gapStep observations o).state := by
  simp [gapTrace, gapStep]

/-- The events of a trace, the last one apart. -/
theorem gapEventsFrom_concat (state : SamplingGapState)
    (observations : List SamplingGapObservation) (o : SamplingGapObservation) :
    gapEventsFrom state (observations ++ [o]) =
      gapEventsFrom state observations ++
        [(evaluateSamplingGap
          (observations.foldl (fun s x => (evaluateSamplingGap s x).state) state) o).event] := by
  induction observations generalizing state with
  | nil => rfl
  | cons x rest ih =>
    rw [List.cons_append, gapEventsFrom, ih, gapEventsFrom]
    rfl

theorem gapEvents_concat (observations : List SamplingGapObservation)
    (o : SamplingGapObservation) :
    gapEvents (observations ++ [o]) = gapEvents observations ++ [(gapStep observations o).event] :=
  gapEventsFrom_concat .fresh observations o

/-- Openings and recoveries, the last event apart. -/
theorem landmarks_concat (events : List SamplingGapEvent) (event : SamplingGapEvent) :
    landmarks (events ++ [event]) = landmarks events ++ landmarks [event] :=
  List.filter_append ..

/-- An observation is committed or leaves the committed ones alone. -/
theorem committed_concat (observations : List SamplingGapObservation)
    (o : SamplingGapObservation) :
    committed (observations ++ [o]) =
      if commits (committed observations) o then committed observations ++ [o]
      else committed observations := by
  rw [committed, List.foldl_append]
  rfl

/-- An opening may follow anything but an opening. -/
theorem Alternates.opened (h : Alternates marks) (hlast : marks.getLast? ≠ some .opened) :
    Alternates (marks ++ [.opened]) := by
  refine ⟨List.isChain_append.mpr ⟨h.1, List.isChain_singleton _, ?_⟩, ?_⟩
  · rintro x hx y hy rfl
    obtain rfl : SamplingGapEvent.opened = x := by simpa using hy
    exact hlast hx
  · intro e he
    cases marks with
    | nil => simpa using he.symm
    | cons first rest => exact h.2 e he

theorem Alternates.recovered (h : Alternates marks) (hlast : marks.getLast? = some .opened) :
    Alternates (marks ++ [.recovered]) := by
  refine ⟨List.isChain_append.mpr ⟨h.1, List.isChain_singleton _, ?_⟩, ?_⟩
  · intro x hx y hy
    obtain rfl : SamplingGapEvent.recovered = y := by simpa using hy
    rw [Option.mem_def, hlast] at hx
    cases hx
    decide
  · intro e he
    cases marks with
    | nil => cases hlast
    | cons first rest => exact h.2 e he

theorem recoveryProgress_reset (h : o.resets = true) : recoveryProgress (kept ++ [o]) = 0 := by
  rw [recoveryProgress, List.rtakeWhile_concat_neg _ _ _ (by simp [h]), List.countP_nil]

theorem recoveryProgress_concat (h : o.resets = false) :
    recoveryProgress (kept ++ [o]) = recoveryProgress kept + if o.onTime then 1 else 0 := by
  rw [recoveryProgress, List.rtakeWhile_concat_pos _ _ _ (by simp [h]), List.countP_append,
    recoveryProgress, List.countP_singleton]

theorem largestReport_clock (h : o.clockDiscontinuityMarker = true) :
    largestReport (kept ++ [o]) = largestReport kept := by
  simp [largestReport, h]

/-- Any other observation may raise the largest report. -/
theorem largestReport_concat (h : o.clockDiscontinuityMarker = false) :
    largestReport (kept ++ [o]) = max (largestReport kept) o.missedIntervals := by
  simp [largestReport, h]

/-! ## One step -/

/-- The phases of an open gap. -/
def SamplingGapPhase.isOpen (phase : SamplingGapPhase) : Bool :=
  phase = .active || phase = .recoveryOne

/-- What one committed observation does to the phase, and what it reports. -/
inductive GapMove (o : SamplingGapObservation) :
    SamplingGapPhase → SamplingGapPhase → SamplingGapEvent → Prop
  /-- A startup marker without misses, or a sample whose collection failed. -/
  | inert {phase event} (hresets : o.resets = false) (htime : o.onTime = false)
      (hquiet : event ≠ .opened ∧ event ≠ .recovered) : GapMove o phase phase event
  /-- A miss or a clock marker in an open gap. -/
  | reset {phase event} (hresets : o.resets = true) (hopen : phase.isOpen = true)
      (hquiet : event ≠ .opened ∧ event ≠ .recovered) : GapMove o phase .active event
  /-- A clock marker or a single miss while no gap is open. -/
  | candidate {phase next event} (hresets : o.resets = true) (hopen : phase.isOpen = false)
      (hnext : next.isOpen = false) (hquiet : event ≠ .opened ∧ event ≠ .recovered) :
      GapMove o phase next event
  | opens {phase} (hresets : o.resets = true) (hopen : phase.isOpen = false) :
      GapMove o phase .active .opened
  /-- An observation on time while no gap is open. -/
  | settles {phase event} (htime : o.onTime = true) (hopen : phase.isOpen = false)
      (hquiet : event ≠ .opened ∧ event ≠ .recovered) : GapMove o phase .clear event
  | starts (htime : o.onTime = true) : GapMove o .active .recoveryOne .recoveryStarted
  | recovers (htime : o.onTime = true) : GapMove o .recoveryOne .clear .recovered

/-- Missed intervals open the gap or leave its phase. -/
theorem applyMisses_move (hmissed : 0 < o.missedIntervals) {next : SamplingGapState}
    (hphase : next.phase = state.phase) :
    GapMove o state.phase (applyMisses state next o.missedIntervals o.missedNonnegative).state.phase
      (applyMisses state next o.missedIntervals o.missedNonnegative).event := by
  have hresets : o.resets = true := by simp [SamplingGapObservation.resets, hmissed]
  unfold applyMisses
  dsimp only
  by_cases hopen : state.phase = .active ∨ state.phase = .recoveryOne
  · rw [if_pos hopen]
    refine .reset hresets (by simpa [SamplingGapPhase.isOpen] using hopen) ?_
    dsimp only
    split <;> exact ⟨nofun, nofun⟩
  · have hclosed : state.phase.isOpen = false := by
      simpa [SamplingGapPhase.isOpen] using hopen
    rw [if_neg hopen]
    split
    · exact .opens hresets hclosed
    · split
      · refine .candidate hresets hclosed ?_ ⟨nofun, nofun⟩
        rw [SamplingGapState.noteMisses_phase, hphase]
        exact hclosed
      · exact .candidate hresets hclosed rfl ⟨nofun, nofun⟩

/-- The observation is new: neither lost nor a replay. -/
def Unseen (state : SamplingGapState) (o : SamplingGapObservation) : Prop :=
  o.persistenceSucceeded = true ∧ ∀ last ∈ state.lastCommittedSequence, last < o.sequence

/-- An observation that was seen before changes nothing. -/
theorem evaluateSamplingGap_stale (h : ¬Unseen state o) :
    (evaluateSamplingGap state o).state = state ∧
      (evaluateSamplingGap state o).event ≠ .opened ∧
      (evaluateSamplingGap state o).event ≠ .recovered := by
  unfold evaluateSamplingGap
  cases hp : o.persistenceSucceeded with
  | false => exact ⟨rfl, nofun, nofun⟩
  | true =>
    have hreplay : ∃ last ∈ state.lastCommittedSequence, o.sequence ≤ last := by
      by_contra hnone
      exact h ⟨hp, fun last hlast => Int.not_le.mp (fun hle => hnone ⟨last, hlast, hle⟩)⟩
    rw [if_neg (by decide), if_pos hreplay]
    exact ⟨rfl, nofun, nofun⟩

/-- The step on a new observation, without the tests that turn stale ones away. -/
theorem evaluateSamplingGap_fresh (h : Unseen state o) :
    evaluateSamplingGap state o =
      if o.clockDiscontinuityMarker then
        if state.phase = .recoveryOne then
          ⟨state, (state.commit o).withPhase .active, .recoveryReset⟩
        else ⟨state, state.commit o, .markerRecorded⟩
      else if o.startupGapMarker ∧ o.missedIntervals = 0 then
        ⟨state, state.commit o, .markerRecorded⟩
      else if o.missedIntervals > 0 then
        applyMisses state (state.commit o) o.missedIntervals o.missedNonnegative
      else if !o.healthCollectionSucceeded then ⟨state, state.commit o, .sampleUnusable⟩
      else
        match state.phase with
        | .candidateOne => ⟨state, (state.commit o).withPhase .clear, .candidateCleared⟩
        | .active => ⟨state, (state.commit o).withPhase .recoveryOne, .recoveryStarted⟩
        | .recoveryOne => ⟨state, (state.commit o).withPhase .clear, .recovered⟩
        | .clear => ⟨state, state.commit o, .none⟩ := by
  have hnew : ¬∃ last ∈ state.lastCommittedSequence, o.sequence ≤ last := by
    rintro ⟨last, hlast, hle⟩
    exact absurd (h.2 last hlast) (Int.not_lt.mpr hle)
  unfold evaluateSamplingGap
  rewrite [if_neg (by simp [h.1]), if_neg hnew]
  rfl

/-- Every new observation makes one of the listed moves. -/
theorem evaluateSamplingGap_move (h : Unseen state o) :
    GapMove o state.phase (evaluateSamplingGap state o).state.phase
      (evaluateSamplingGap state o).event := by
  rw [evaluateSamplingGap_fresh h]
  -- a clock marker resets, whatever else the observation says
  cases hclock : o.clockDiscontinuityMarker with
  | true =>
    have hresets : o.resets = true := by simp [SamplingGapObservation.resets, hclock]
    rw [if_pos rfl]
    by_cases hone : state.phase = .recoveryOne
    · rw [if_pos hone]
      exact .reset hresets (by simp [SamplingGapPhase.isOpen, hone]) ⟨nofun, nofun⟩
    · rw [if_neg hone]
      cases hphase : state.phase with
      | active =>
        show GapMove o .active state.phase .markerRecorded
        rw [hphase]
        exact .reset hresets rfl ⟨nofun, nofun⟩
      | recoveryOne => exact absurd hphase hone
      | clear =>
        show GapMove o .clear state.phase .markerRecorded
        rw [hphase]
        exact .candidate hresets rfl rfl ⟨nofun, nofun⟩
      | candidateOne =>
        show GapMove o .candidateOne state.phase .markerRecorded
        rw [hphase]
        exact .candidate hresets rfl rfl ⟨nofun, nofun⟩
  | false =>
    rw [if_neg (by decide)]
    -- a startup marker without a miss counts for nothing
    by_cases hstartup : o.startupGapMarker = true ∧ o.missedIntervals = 0
    · rw [if_pos hstartup]
      exact .inert (by simp [SamplingGapObservation.resets, hclock, hstartup.2])
        (by simp [SamplingGapObservation.onTime, hstartup.1]) ⟨nofun, nofun⟩
    rw [if_neg hstartup]
    -- a missed interval counts towards the gap
    by_cases hmissed : o.missedIntervals > 0
    · rw [if_pos hmissed]
      exact applyMisses_move hmissed rfl
    -- on time: progress if the collection succeeded
    have hnone : o.missedIntervals = 0 := by
      have := o.missedNonnegative
      omega
    have hresets : o.resets = false := by simp [SamplingGapObservation.resets, hclock, hnone]
    rw [if_neg hmissed]
    cases hcollected : o.healthCollectionSucceeded with
    | false =>
      exact .inert hresets (by simp [SamplingGapObservation.onTime, hcollected]) ⟨nofun, nofun⟩
    | true =>
      have htime : o.onTime = true := by
        have hmarker : o.startupGapMarker = false := by
          simpa [hnone] using hstartup
        simp [SamplingGapObservation.onTime, hclock, hnone, hmarker, hcollected]
      rw [if_neg (by decide)]
      cases hphase : state.phase with
      | candidateOne => exact .settles htime rfl ⟨nofun, nofun⟩
      | active => exact .starts htime
      | recoveryOne => exact .recovers htime
      | clear =>
        show GapMove o .clear state.phase .none
        rw [hphase]
        exact .settles htime rfl ⟨nofun, nofun⟩

/-- What missed intervals do to the counters, saturation included. -/
theorem applyMisses_counters {next : SamplingGapState} {missed : Int} (h : 0 ≤ missed) :
    (applyMisses state next missed h).state.committedObservations = next.committedObservations ∧
      (applyMisses state next missed h).state.largestMissedIntervalReport =
        max next.largestMissedIntervalReport (min missed maxBoundedCounter) ∧
      (applyMisses state next missed h).state.lastCommittedSequence =
        next.lastCommittedSequence := by
  unfold applyMisses
  dsimp only
  split
  · exact ⟨rfl, rfl, rfl⟩
  · split
    · exact ⟨rfl, rfl, rfl⟩
    · split <;> exact ⟨rfl, rfl, rfl⟩

/-- Every new observation is counted, its misses noted outside clock markers. -/
theorem evaluateSamplingGap_counters (h : Unseen state o) :
    (evaluateSamplingGap state o).state.committedObservations =
        min (state.committedObservations + 1) maxBoundedCounter ∧
      (evaluateSamplingGap state o).state.largestMissedIntervalReport =
        (if o.clockDiscontinuityMarker then state.largestMissedIntervalReport
          else max state.largestMissedIntervalReport (min o.missedIntervals maxBoundedCounter)) ∧
      (evaluateSamplingGap state o).state.lastCommittedSequence = some o.sequence := by
  have hlargest := state.largestBounded
  have hmissed := o.missedNonnegative
  rw [evaluateSamplingGap_fresh h]
  cases hclock : o.clockDiscontinuityMarker with
  | true =>
    rw [if_pos rfl, if_pos rfl]
    split <;> exact ⟨rfl, rfl, rfl⟩
  | false =>
    rw [if_neg Bool.false_ne_true, if_neg Bool.false_ne_true]
    -- without misses the largest report stays, and so does its maximum with zero
    have hzero : o.missedIntervals = 0 →
        max state.largestMissedIntervalReport (min o.missedIntervals maxBoundedCounter) =
          state.largestMissedIntervalReport := by
      intro hnone
      unfold Bounded maxBoundedCounter at *
      omega
    by_cases hstartup : o.startupGapMarker = true ∧ o.missedIntervals = 0
    · rw [if_pos hstartup, hzero hstartup.2]
      exact ⟨rfl, rfl, rfl⟩
    rw [if_neg hstartup]
    by_cases hpositive : o.missedIntervals > 0
    · rw [if_pos hpositive]
      exact applyMisses_counters hmissed
    rw [if_neg hpositive, hzero (by omega)]
    split
    · exact ⟨rfl, rfl, rfl⟩
    · split <;> exact ⟨rfl, rfl, rfl⟩

/-- A marker without misses at most sends a started recovery back. -/
theorem evaluateSamplingGap_marker
    (hmarker : o.startupGapMarker = true ∨ o.clockDiscontinuityMarker = true)
    (hnone : o.missedIntervals = 0) :
    ((evaluateSamplingGap state o).state.phase = state.phase ∨
        state.phase = .recoveryOne ∧ (evaluateSamplingGap state o).state.phase = .active) ∧
      (evaluateSamplingGap state o).event ∉
        [SamplingGapEvent.opened, .candidateStarted, .recoveryStarted, .recovered] := by
  unfold evaluateSamplingGap
  split
  · exact ⟨.inl rfl, by simp⟩
  split
  · exact ⟨.inl rfl, by simp⟩
  dsimp only
  split
  · split
    · rename_i hone
      exact ⟨.inr ⟨hone, rfl⟩, by simp⟩
    · exact ⟨.inl rfl, by simp⟩
  · rename_i hclock
    rw [if_pos ⟨hmarker.resolve_right hclock, hnone⟩]
    exact ⟨.inl rfl, by simp⟩

/-! ## What the state remembers -/

/-- What a state remembers of the committed observations and of the landmarks reported. -/
structure GapRemembers (state : SamplingGapState) (kept : List SamplingGapObservation)
    (marks : List SamplingGapEvent) : Prop where
  counted : state.committedObservations = min (kept.length : Int) maxBoundedCounter
  largest : state.largestMissedIntervalReport = min (largestReport kept) maxBoundedCounter
  last : state.lastCommittedSequence = kept.getLast?.map (·.sequence)
  ordered : kept.Pairwise (fun a b => a.sequence < b.sequence)
  alternates : Alternates marks
  isOpen : marks.getLast? = some .opened ↔ state.phase.isOpen = true
  /-- Recovery has not begun. -/
  active : state.phase = .active → recoveryProgress kept = 0
  /-- Recovery is half done. -/
  recoveryOne : state.phase = .recoveryOne → recoveryProgress kept = 1

theorem gapRemembers_fresh : GapRemembers .fresh [] [] where
  counted := by decide
  largest := by decide
  last := rfl
  ordered := .nil
  alternates := ⟨.nil, nofun⟩
  isOpen := by decide
  active := nofun
  recoveryOne := nofun

/-- The last of the committed observations has the largest sequence. -/
theorem GapRemembers.le_last (h : GapRemembers state kept marks) {c : SamplingGapObservation}
    (hc : c ∈ kept) : ∃ last ∈ state.lastCommittedSequence, c.sequence ≤ last := by
  have hordered := h.ordered
  have hlast := h.last
  cases kept using List.reverseRecOn with
  | nil => cases hc
  | append_singleton earlier final =>
    rw [List.getLast?_concat] at hlast
    refine ⟨final.sequence, hlast, ?_⟩
    rcases List.mem_append.mp hc with hearlier | hfinal
    · exact Int.le_of_lt ((List.pairwise_append.mp hordered).2.2 c hearlier final (by simp))
    · obtain rfl : c = final := by simpa using hfinal
      exact Int.le_refl _

/-- New to the state is new to the committed observations. -/
theorem GapRemembers.fresh_iff (h : GapRemembers state kept marks) :
    Unseen state o ↔ commits kept o = true := by
  have hcommits : commits kept o = true ↔
      o.persistenceSucceeded = true ∧ ∀ c ∈ kept, c.sequence < o.sequence := by
    simp [commits]
  rw [hcommits]
  constructor
  · rintro ⟨hp, hnew⟩
    refine ⟨hp, fun c hc => ?_⟩
    obtain ⟨last, hlast, hle⟩ := h.le_last hc
    exact Int.lt_of_le_of_lt hle (hnew last hlast)
  · rintro ⟨hp, hnew⟩
    refine ⟨hp, fun last hlast => ?_⟩
    rw [h.last, Option.mem_def, Option.map_eq_some_iff] at hlast
    obtain ⟨final, hfinal, rfl⟩ := hlast
    exact hnew final (List.mem_of_getLast? hfinal)

/-- A move appends its landmark and keeps the account of the open gap. -/
theorem GapMove.remembered {phase next : SamplingGapPhase} {event : SamplingGapEvent}
    (hmove : GapMove o phase next event) (halternates : Alternates marks)
    (hopen : marks.getLast? = some .opened ↔ phase.isOpen = true)
    (hactive : phase = .active → recoveryProgress kept = 0)
    (hone : phase = .recoveryOne → recoveryProgress kept = 1) :
    Alternates (marks ++ landmarks [event]) ∧
      ((marks ++ landmarks [event]).getLast? = some .opened ↔ next.isOpen = true) ∧
      (next = .active → recoveryProgress (kept ++ [o]) = 0) ∧
      (next = .recoveryOne → recoveryProgress (kept ++ [o]) = 1) := by
  have hquiet : event ≠ .opened ∧ event ≠ .recovered → marks ++ landmarks [event] = marks := by
    rintro ⟨hopened, hrecovered⟩
    simp [landmarks, hopened, hrecovered]
  cases hmove with
  | inert hresets htime hno =>
    rw [hquiet hno, recoveryProgress_concat hresets, htime]
    exact ⟨halternates, hopen, hactive, hone⟩
  | reset hresets hphase hno =>
    rw [hquiet hno, recoveryProgress_reset hresets]
    exact ⟨halternates, iff_of_true (hopen.mpr hphase) rfl, fun _ => rfl, nofun⟩
  | candidate hresets hphase hnext hno =>
    rw [hquiet hno, recoveryProgress_reset hresets]
    refine ⟨halternates, by rw [hopen, hphase, hnext], fun _ => rfl, ?_⟩
    rintro rfl
    cases hnext
  | opens hresets hphase =>
    rw [recoveryProgress_reset hresets]
    have hlast : marks.getLast? ≠ some .opened := fun he => by
      rw [hopen, hphase] at he
      cases he
    exact ⟨halternates.opened hlast, iff_of_true List.getLast?_concat rfl, fun _ => rfl, nofun⟩
  | settles htime hphase hno =>
    rw [hquiet hno]
    exact ⟨halternates, by rw [hopen, hphase]; rfl, nofun, nofun⟩
  | starts htime =>
    rw [hquiet ⟨nofun, nofun⟩,
      recoveryProgress_concat (SamplingGapObservation.resets_of_onTime htime), hactive rfl, htime]
    exact ⟨halternates, iff_of_true (hopen.mpr rfl) rfl, nofun, fun _ => rfl⟩
  | recovers htime =>
    refine ⟨halternates.recovered (hopen.mpr rfl), iff_of_false ?_ (by decide), nofun, nofun⟩
    show (marks ++ [SamplingGapEvent.recovered]).getLast? ≠ some .opened
    rw [List.getLast?_concat]
    exact nofun

/-- One committed observation keeps what the state remembers. -/
theorem GapRemembers.step (h : GapRemembers state kept marks) (hfresh : Unseen state o) :
    GapRemembers (evaluateSamplingGap state o).state (kept ++ [o])
      (marks ++ landmarks [(evaluateSamplingGap state o).event]) := by
  obtain ⟨hcounted, hlargest, hlast⟩ := evaluateSamplingGap_counters hfresh
  obtain ⟨halternates, hopen, hactive, hone⟩ :=
    (evaluateSamplingGap_move hfresh).remembered h.alternates h.isOpen h.active h.recoveryOne
  refine ⟨?_, ?_, ?_, ?_, halternates, hopen, hactive, hone⟩
  · rw [hcounted, h.counted, List.length_append, List.length_singleton]
    push_cast
    unfold maxBoundedCounter
    omega
  · rw [hlargest, h.largest]
    cases hclock : o.clockDiscontinuityMarker with
    | true => rw [if_pos rfl, largestReport_clock hclock]
    | false =>
      rw [if_neg (by decide), largestReport_concat hclock]
      unfold maxBoundedCounter
      omega
  · rw [hlast, List.getLast?_concat]
    rfl
  · refine List.pairwise_append.mpr ⟨h.ordered, List.pairwise_singleton _ _, ?_⟩
    intro c hc x hx
    obtain rfl : x = o := by simpa using hx
    obtain ⟨last, hmem, hle⟩ := h.le_last hc
    exact Int.lt_of_le_of_lt hle (hfresh.2 last hmem)

/-- After any trace the state remembers what was committed and which landmarks were reported. -/
theorem gapRemembers_trace (observations : List SamplingGapObservation) :
    GapRemembers (gapTrace observations) (committed observations)
      (landmarks (gapEvents observations)) := by
  induction observations using List.reverseRecOn with
  | nil => exact gapRemembers_fresh
  | append_singleton observations o ih =>
    rw [gapTrace_concat, committed_concat, gapEvents_concat, landmarks_concat]
    by_cases hfresh : Unseen (gapTrace observations) o
    · rw [if_pos (ih.fresh_iff.mp hfresh)]
      exact ih.step hfresh
    · obtain ⟨hstate, hopened, hrecovered⟩ := evaluateSamplingGap_stale hfresh
      have hnone : landmarks [(gapStep observations o).event] = [] := by
        simp [landmarks, gapStep, hopened, hrecovered]
      rw [if_neg (fun hc => hfresh (ih.fresh_iff.mpr hc)), hnone, List.append_nil, gapStep, hstate]
      exact ih

/-- An open gap has seen at most one observation on time. -/
theorem progress_le {phase : SamplingGapPhase} (hopen : phase.isOpen = true)
    (hactive : phase = .active → recoveryProgress kept = 0)
    (hone : phase = .recoveryOne → recoveryProgress kept = 1) : recoveryProgress kept ≤ 1 := by
  simp only [SamplingGapPhase.isOpen, Bool.or_eq_true, decide_eq_true_eq] at hopen
  rcases hopen with hphase | hphase
  · rw [hactive hphase]
    exact Nat.zero_le _
  · rw [hone hphase]

/-- A move reports a recovery exactly when it commits the second observation on time. -/
theorem GapMove.recovered_iff {phase next : SamplingGapPhase} {event : SamplingGapEvent}
    (hmove : GapMove o phase next event) (hactive : phase = .active → recoveryProgress kept = 0)
    (hone : phase = .recoveryOne → recoveryProgress kept = 1) :
    event = .recovered ↔ phase.isOpen = true ∧ recoveryProgress (kept ++ [o]) = 2 := by
  cases hmove with
  | inert hresets htime hno =>
    rw [recoveryProgress_concat hresets, htime]
    refine iff_of_false hno.2 ?_
    rintro ⟨hopen, htwo⟩
    have hsmall := progress_le hopen hactive hone
    exact absurd htwo (by simp only [Bool.false_eq_true, if_false]; omega)
  | reset hresets _ hno =>
    rw [recoveryProgress_reset hresets]
    exact iff_of_false hno.2 (fun hboth => absurd hboth.2 (by decide))
  | candidate _ hphase _ hno =>
    rw [hphase]
    exact iff_of_false hno.2 (fun hboth => absurd hboth.1 (by decide))
  | opens _ hphase =>
    rw [hphase]
    exact iff_of_false nofun (fun hboth => absurd hboth.1 (by decide))
  | settles _ hphase hno =>
    rw [hphase]
    exact iff_of_false hno.2 (fun hboth => absurd hboth.1 (by decide))
  | starts htime =>
    rw [recoveryProgress_concat (SamplingGapObservation.resets_of_onTime htime), hactive rfl, htime]
    exact iff_of_false nofun (fun hboth => absurd hboth.2 (by decide))
  | recovers htime =>
    rw [recoveryProgress_concat (SamplingGapObservation.resets_of_onTime htime), hone rfl, htime]
    exact iff_of_true rfl ⟨rfl, rfl⟩

/-- A recovery is reported exactly when the second observation on time is committed. -/
theorem GapRemembers.recovered_iff (h : GapRemembers state kept marks) :
    (evaluateSamplingGap state o).event = .recovered ↔
      state.phase.isOpen = true ∧
        recoveryProgress (if commits kept o then kept ++ [o] else kept) = 2 := by
  by_cases hfresh : Unseen state o
  · rw [if_pos (h.fresh_iff.mp hfresh)]
    exact (evaluateSamplingGap_move hfresh).recovered_iff h.active h.recoveryOne
  · obtain ⟨_, _, hrecovered⟩ := evaluateSamplingGap_stale hfresh
    rw [if_neg (fun hc => hfresh (h.fresh_iff.mpr hc))]
    refine iff_of_false hrecovered (fun hboth => ?_)
    have hsmall := progress_le hboth.1 h.active h.recoveryOne
    exact absurd hboth.2 (by omega)

/-- The last committed sequence is the largest one. -/
theorem GapRemembers.last_eq_max (h : GapRemembers state kept marks) :
    state.lastCommittedSequence = (kept.map (·.sequence)).max? := by
  cases hlast : state.lastCommittedSequence with
  | none =>
    have hnone := h.last
    rw [hlast, eq_comm, Option.map_eq_none_iff, List.getLast?_eq_none_iff] at hnone
    rw [hnone]
    rfl
  | some last =>
    have hsome := h.last
    rw [hlast, eq_comm, Option.map_eq_some_iff] at hsome
    obtain ⟨final, hfinal, rfl⟩ := hsome
    refine (List.max?_eq_some_iff.mpr ⟨List.mem_map.mpr ⟨final, List.mem_of_getLast? hfinal, rfl⟩,
      ?_⟩).symm
    intro sequence hmem
    obtain ⟨c, hc, rfl⟩ := List.mem_map.mp hmem
    obtain ⟨last, hmax, hle⟩ := h.le_last hc
    rw [hlast, Option.mem_def, Option.some.injEq] at hmax
    exact hmax ▸ hle

/-! ## The run law -/

/-- The run law of the sampling-gap evaluator, for any trace and any step after it.

Openings and recoveries take turns.  A recovery is reported exactly when the gap is open and the
step brings the observations on time committed since the last committed miss or clock marker to
two.  A marker without misses opens nothing, starts nothing and advances no recovery.  A lost
observation or a replay changes nothing.  The state remembers the largest committed sequence, and
the number of commits and the largest report of misses up to the counter bound. -/
theorem sampling_gap_run_law (observations : List SamplingGapObservation) :
    Alternates (landmarks (gapEvents observations)) ∧
      (∀ o, (gapStep observations o).event = .recovered ↔
        GapOpen observations ∧ recoveryProgress (committed (observations ++ [o])) = 2) ∧
      (∀ o, (o.startupGapMarker = true ∨ o.clockDiscontinuityMarker = true) →
        o.missedIntervals = 0 →
        ((gapStep observations o).state.phase = (gapTrace observations).phase ∨
          (gapTrace observations).phase = .recoveryOne ∧
            (gapStep observations o).state.phase = .active) ∧
        (gapStep observations o).event ∉
          [SamplingGapEvent.opened, .candidateStarted, .recoveryStarted, .recovered]) ∧
      (∀ o, (o.persistenceSucceeded = false ∨
          ∃ c ∈ committed observations, o.sequence ≤ c.sequence) →
        (gapStep observations o).state = gapTrace observations) ∧
      (gapTrace observations).lastCommittedSequence =
        ((committed observations).map (·.sequence)).max? ∧
      (gapTrace observations).committedObservations =
        min ((committed observations).length : Int) 65535 ∧
      (gapTrace observations).largestMissedIntervalReport =
        min (largestReport (committed observations)) 65535 := by
  have hremembers := gapRemembers_trace observations
  refine ⟨hremembers.alternates, ?_, fun o => evaluateSamplingGap_marker, ?_,
    hremembers.last_eq_max, hremembers.counted, hremembers.largest⟩
  · intro o
    rw [GapOpen, hremembers.isOpen, committed_concat]
    exact hremembers.recovered_iff
  · intro o hstale
    refine (evaluateSamplingGap_stale (fun hfresh => ?_)).1
    have hcommits := hremembers.fresh_iff.mp hfresh
    simp only [commits, Bool.and_eq_true, List.all_eq_true, decide_eq_true_eq] at hcommits
    rcases hstale with hlost | ⟨c, hc, hle⟩
    · rw [hlost] at hcommits
      exact absurd hcommits.1 (by decide)
    · exact absurd (hcommits.2 c hc) (Int.not_lt.mpr hle)

end Aurora.HealthHistory
