/-
  The arithmetic of the cadence: where a due check moves the deadline, and what checks that consume
  nothing leave alone.

  A run is a list of moves: a check of the clock that may consume a due deadline, a miss that a
  failed sample leaves behind, the report of an accepted one.  The checks of `is_due` consume
  nothing; what they change of the state is the last reading, and no later decision of a clock that
  does not go back depends on that.
-/
import Aurora.HealthHistory.Opportunities

namespace Aurora.HealthHistory

/-! ## One due decision -/

namespace SchedulerCadenceState

variable {s s' : SchedulerCadenceState} {now : ℚ} {interval : Int} {d : SchedulerDueDecision}

/-- A decision is only made with an interval in range. -/
theorem decision_interval (h : s.decision now interval = .ok d) :
    minSampleIntervalSeconds ≤ interval ∧ interval ≤ maxSampleIntervalSeconds := by
  unfold decision at h
  split at h
  case isFalse => cases h
  case isTrue hinterval => exact hinterval

/-- A reading lies between the deadlines before and after it. -/
theorem elapsedIntervals_bounds (hinterval : minSampleIntervalSeconds ≤ interval) :
    s.plannedDueMonotonic + s.elapsedIntervals now interval * interval ≤ now ∧
      now < s.plannedDueMonotonic + (s.elapsedIntervals now interval + 1) * interval := by
  have hpositive : (0 : ℚ) < interval := by
    have : (0 : Int) < interval := lt_of_lt_of_le (by decide) hinterval
    exact_mod_cast this
  have hlow : (s.elapsedIntervals now interval : ℚ) ≤
      (now - s.plannedDueMonotonic) / interval := Int.floor_le _
  have hhigh : (now - s.plannedDueMonotonic) / interval <
      (s.elapsedIntervals now interval : ℚ) + 1 := Int.lt_floor_add_one _
  rw [le_div_iff₀ hpositive] at hlow
  rw [div_lt_iff₀ hpositive] at hhigh
  constructor
  · linarith
  · linarith

/-- A due decision counts the whole intervals that have passed and skips to the next deadline. -/
theorem decision_due (h : s.decision now interval = .ok d) (hdue : d.due = true) :
    ∃ n : Int, s.plannedDueMonotonic + n * interval ≤ now ∧
      now < s.plannedDueMonotonic + (n + 1) * interval ∧
      d.missedIntervals = capped n ∧
      d.nextDueMonotonic = s.plannedDueMonotonic + (n + 1) * interval := by
  obtain ⟨-, -, hcases⟩ := decision_cases h
  rcases hcases with ⟨-, hidle, -⟩ | ⟨-, -, hmissed, hnext, -⟩
  · rw [hdue] at hidle
    cases hidle
  · obtain ⟨hlow, hhigh⟩ := @elapsedIntervals_bounds s now interval (decision_interval h).1
    exact ⟨_, hlow, hhigh, hmissed, hnext⟩

/-- The check after a decision fails only when it consumes a deadline that is not due. -/
theorem afterCheck_iff (h : s.decision now interval = .ok d) {consume : Bool}
    {pending : Option Int}
    (hpending : Bounded maxBoundedCounter (pending.getD s.pendingMissedIntervals)) :
    (∃ cadence, s.afterCheck d consume pending = .ok cadence) ↔
      (consume = true → d.due = true) := by
  constructor
  · rintro ⟨cadence, hafter⟩ hconsume
    by_contra hidle
    unfold afterCheck at hafter
    rw [if_pos (.inr (.inl ⟨hconsume, Bool.eq_false_iff.mpr hidle⟩))] at hafter
    cases hafter
  · intro hconsume
    obtain ⟨cadence, hafter, -⟩ := afterCheck_ok h hconsume hpending
    exact ⟨cadence, hafter⟩

/-! ## One check -/

/-- The misses pending after a decision. -/
def cumulativeMissed (s : SchedulerCadenceState) (d : SchedulerDueDecision) : Int :=
  capped (s.pendingMissedIntervals + d.missedIntervals)

/-- One check of the clock: what it decides, and the state it leaves.  An opportunity consumes a
deadline that is due; `is_due` consumes none. -/
def check (s : SchedulerCadenceState) (interval : Int) (consume : Bool) (now : ℚ) :
    Except SchedulerRejection SchedulerDueDecision × SchedulerCadenceState :=
  match s.decision now interval with
  | .error e => (.error e, s)
  | .ok d =>
    match s.afterCheck d (consume && d.due)
        (if consume && d.due then some (s.cumulativeMissed d) else none) with
    | .error e => (.error e, s)
    | .ok cadence => (.ok d, cadence)

/-- A check that is refused changes nothing. -/
theorem check_error {e : SchedulerRejection} (h : s.decision now interval = .error e)
    (consume : Bool) : s.check interval consume now = (.error e, s) := by
  unfold check
  rw [h]

/-- A check decides what the decision says: the state is never in its way. -/
theorem check_ok (h : s.decision now interval = .ok d) (consume : Bool) :
    ∃ cadence, s.check interval consume now = (.ok d, cadence) ∧
      cadence.plannedDueMonotonic =
        (if consume && d.due then d.nextDueMonotonic else s.plannedDueMonotonic) ∧
      cadence.lastSeenMonotonic = now ∧
      cadence.pendingMissedIntervals =
        (if consume && d.due then s.cumulativeMissed d else s.pendingMissedIntervals) := by
  have hbounded : Bounded maxBoundedCounter
      ((if consume && d.due then some (s.cumulativeMissed d) else none).getD
        s.pendingMissedIntervals) := by
    split
    · exact capped_bounded (Int.add_nonneg s.pending.1 d.missed.1)
    · exact s.pending
  obtain ⟨cadence, hafter, hplanned, hseen, hpending⟩ :=
    afterCheck_ok h (fun hconsume => (Bool.and_eq_true_iff.mp hconsume).2) hbounded
  refine ⟨cadence, ?_, hplanned, hseen, ?_⟩
  · unfold check
    rw [h]
    dsimp only
    rw [hafter]
  · rw [hpending]
    split <;> rfl

/-- Two states decide alike that agree on the deadline and on whether the clock went back. -/
theorem decision_congr (hplanned : s.plannedDueMonotonic = s'.plannedDueMonotonic)
    (hseen : now < s.lastSeenMonotonic ↔ now < s'.lastSeenMonotonic) :
    s.decision now interval = s'.decision now interval := by
  cases s with
  | mk planned lastSeen pending hp hl hb =>
    cases s' with
    | mk planned' lastSeen' pending' hp' hl' hb' =>
      obtain rfl : planned = planned' := hplanned
      unfold decision elapsedIntervals
      simp only [hseen]

end SchedulerCadenceState

/-! ## Runs -/

/-- What happens to the cadence of a scheduler. -/
inductive CadenceMove
  | check (consume : Bool) (now : ℚ)
  | missed
  | reported (kind : SampleKind)

namespace CadenceMove

/-- A check that consumes nothing. -/
def IsPoll : CadenceMove → Prop
  | check false _ => True
  | _ => False

/-- The reading a move is made at. -/
def reading : CadenceMove → Option ℚ
  | check _ now => some now
  | _ => none

end CadenceMove

/-- One move of a run: what was decided, and the deadline and the misses it leaves. -/
structure CadenceEntry where
  move : CadenceMove
  decided : Option (Except SchedulerRejection SchedulerDueDecision)
  plannedDue : ℚ
  pendingMissed : Int

namespace SchedulerCadenceState

/-- One move and the state after it. -/
def move (interval : Int) (s : SchedulerCadenceState) :
    CadenceMove → Option (Except SchedulerRejection SchedulerDueDecision) × SchedulerCadenceState
  | .check consume now =>
    (some (s.check interval consume now).1, (s.check interval consume now).2)
  | .missed => (none, s.missed)
  | .reported kind => (none, s.reported kind)

/-- The entry of a move. -/
def entry (interval : Int) (s : SchedulerCadenceState) (m : CadenceMove) : CadenceEntry where
  move := m
  decided := (s.move interval m).1
  plannedDue := (s.move interval m).2.plannedDueMonotonic
  pendingMissed := (s.move interval m).2.pendingMissedIntervals

/-- The entries of a run. -/
def run (interval : Int) (s : SchedulerCadenceState) : List CadenceMove → List CadenceEntry
  | [] => []
  | m :: rest => s.entry interval m :: run interval (s.move interval m).2 rest

end SchedulerCadenceState

/-- The second list is the first with elements of a kind put in. -/
inductive Inserted {α : Type} (kind : α → Prop) : List α → List α → Prop
  | nil : Inserted kind [] []
  | keep (a : α) {base extended} (h : Inserted kind base extended) :
      Inserted kind (a :: base) (a :: extended)
  | insert {a : α} (ha : kind a) {base extended} (h : Inserted kind base extended) :
      Inserted kind base (a :: extended)

/-- The readings of the clock do not go back. -/
def Nondecreasing (moves : List CadenceMove) : Prop :=
  (moves.filterMap CadenceMove.reading).Pairwise (· ≤ ·)

/-! ## Polls change nothing -/

namespace SchedulerCadenceState

variable {s s' : SchedulerCadenceState} {now : ℚ} {interval : Int} {m : CadenceMove}

/-- Two states that the readings to come cannot tell apart. -/
structure Alike (s s' : SchedulerCadenceState) (readings : List ℚ) : Prop where
  planned : s.plannedDueMonotonic = s'.plannedDueMonotonic
  pending : s.pendingMissedIntervals = s'.pendingMissedIntervals
  seen : ∀ now ∈ readings, (now < s.lastSeenMonotonic ↔ now < s'.lastSeenMonotonic)

/-- The same check of two states that are alike. -/
theorem Alike.check {readings : List ℚ} (h : Alike s s' (now :: readings)) (consume : Bool) :
    (s.check interval consume now).1 = (s'.check interval consume now).1 ∧
      Alike (s.check interval consume now).2 (s'.check interval consume now).2 readings := by
  have hdecision : s.decision now interval = s'.decision now interval :=
    decision_congr h.planned (h.seen now (by simp))
  have hlater : ∀ r ∈ readings, (r < s.lastSeenMonotonic ↔ r < s'.lastSeenMonotonic) :=
    fun r hr => h.seen r (by simp [hr])
  cases hd : s.decision now interval with
  | error e =>
    rw [check_error hd, check_error (hdecision ▸ hd)]
    exact ⟨rfl, h.planned, h.pending, hlater⟩
  | ok d =>
    obtain ⟨next, hcheck, hplanned, hseen, hpending⟩ := check_ok hd consume
    obtain ⟨next', hcheck', hplanned', hseen', hpending'⟩ := check_ok (hdecision ▸ hd) consume
    have hcumulative : s.cumulativeMissed d = s'.cumulativeMissed d := by
      unfold cumulativeMissed
      rw [h.pending]
    rw [hcheck, hcheck']
    refine ⟨rfl, ?_, ?_, ?_⟩
    · rw [hplanned, hplanned', h.planned]
    · rw [hpending, hpending', hcumulative, h.pending]
    · intro r _
      rw [hseen, hseen']

/-- The same move of two states that are alike makes the same entry. -/
theorem Alike.move {moves : List CadenceMove}
    (h : Alike s s' ((m :: moves).filterMap CadenceMove.reading)) :
    s.entry interval m = s'.entry interval m ∧
      Alike (s.move interval m).2 (s'.move interval m).2
        (moves.filterMap CadenceMove.reading) := by
  cases m with
  | check consume now =>
    obtain ⟨hdecided, halike⟩ := @Alike.check s s' now interval _ h consume
    unfold SchedulerCadenceState.entry SchedulerCadenceState.move
    dsimp only
    rw [hdecided, halike.planned, halike.pending]
    exact ⟨rfl, halike⟩
  | missed =>
    have halike : Alike s.missed s'.missed (moves.filterMap CadenceMove.reading) := by
      refine ⟨h.planned, ?_, h.seen⟩
      show capped (s.pendingMissedIntervals + 1) = capped (s'.pendingMissedIntervals + 1)
      rw [h.pending]
    unfold SchedulerCadenceState.entry SchedulerCadenceState.move
    dsimp only
    rw [halike.planned, halike.pending]
    exact ⟨rfl, halike⟩
  | reported kind =>
    have halike : Alike (s.reported kind) (s'.reported kind)
        (moves.filterMap CadenceMove.reading) := by
      refine ⟨h.planned, ?_, h.seen⟩
      show (if kind = .clockDiscontinuity then s.pendingMissedIntervals else 0) =
        if kind = .clockDiscontinuity then s'.pendingMissedIntervals else 0
      rw [h.pending]
    unfold SchedulerCadenceState.entry SchedulerCadenceState.move
    dsimp only
    rw [halike.planned, halike.pending]
    exact ⟨rfl, halike⟩

/-- A poll leaves a state that the later readings cannot tell from the one before it. -/
theorem Alike.poll {readings : List ℚ} (h : Alike s s' (now :: readings))
    (hlater : ∀ r ∈ readings, now ≤ r) :
    Alike s (s'.check interval false now).2 readings := by
  have hseen : ∀ r ∈ readings, (r < s.lastSeenMonotonic ↔ r < s'.lastSeenMonotonic) :=
    fun r hr => h.seen r (by simp [hr])
  cases hd : s'.decision now interval with
  | error e =>
    rw [check_error hd]
    exact ⟨h.planned, h.pending, hseen⟩
  | ok d =>
    obtain ⟨next, hcheck, hplanned, hnow, hpending⟩ := check_ok hd false
    rw [hcheck]
    refine ⟨h.planned.trans hplanned.symm, h.pending.trans hpending.symm, ?_⟩
    intro r hr
    -- the clock has not gone back, so no later reading lies before either last one
    have hback : ¬now < s.lastSeenMonotonic := by
      rw [h.seen now (by simp)]
      exact not_lt.mpr (decision_cases hd).1
    rw [hnow]
    refine iff_of_false (fun hbefore => hback ?_) (not_lt.mpr (hlater r hr))
    exact lt_of_le_of_lt (hlater r hr) hbefore

/-- Polls put into a run put their own entries into its entries and change no other. -/
theorem run_inserted {base extended : List CadenceMove}
    (hinserted : Inserted CadenceMove.IsPoll base extended) (hclock : Nondecreasing extended)
    (halike : Alike s s' (extended.filterMap CadenceMove.reading)) :
    Inserted (fun e => e.move.IsPoll) (s.run interval base) (s'.run interval extended) := by
  induction hinserted generalizing s s' with
  | nil => exact .nil
  | @keep m base extended _ ih =>
    obtain ⟨hentry, hnext⟩ := @Alike.move _ _ interval m _ halike
    rw [run, run, hentry]
    refine .keep _ (ih ?_ hnext)
    exact hclock.sublist ((List.sublist_cons_self _ _).filterMap _)
  | @insert m hpoll base extended _ ih =>
    rw [run]
    cases m with
    | check consume now =>
      cases consume with
      | true => cases hpoll
      | false =>
        obtain ⟨hfirst, hrest⟩ := List.pairwise_cons.mp hclock
        exact .insert trivial (ih hrest (halike.poll hfirst))
    | missed => cases hpoll
    | reported kind => cases hpoll

end SchedulerCadenceState

/-! ## The methods of the scheduler -/

namespace HealthHistoryScheduler

open Program

variable {s : HealthHistoryScheduler} {t : HistoryTranscript} {now : ℚ}

/-- The decision after one valid reading. -/
theorem decide_reading (hnow : ValidMonotonic now) :
    Runs (do
      let now ← readMonotonic
      ofExcept (s.cadenceState.decision now s.sampleIntervalSeconds))
      [⟨.monotonic .scheduler, some now⟩]
      (s.cadenceState.decision now s.sampleIntervalSeconds) :=
  runs_invoke_bind.mpr ⟨some now, [], rfl,
    .inl ⟨now, if_pos hnow, runs_ofExcept.mpr ⟨rfl, rfl⟩⟩⟩

/-- `is_due` is a check that consumes nothing. -/
theorem isDue_check (hnow : ValidMonotonic now) :
    Runs s.isDue [⟨.acquire .scheduler, true⟩, ⟨.monotonic .scheduler, some now⟩]
      (.ok ((s.cadenceState.check s.sampleIntervalSeconds false now).1,
        { s with cadenceState := (s.cadenceState.check s.sampleIntervalSeconds false now).2 })) := by
  unfold isDue Service.acquire
  refine runs_ask_bind.mpr ⟨true, _, rfl, ?_⟩
  rw [if_pos rfl]
  refine runs_catching_bind.mpr ⟨_, _, [], (List.append_nil _).symm, decide_reading hnow, ?_⟩
  unfold SchedulerCadenceState.check
  cases hd : s.cadenceState.decision now s.sampleIntervalSeconds with
  | error e => exact runs_pure.mpr ⟨rfl, rfl⟩
  | ok d =>
    dsimp only
    rw [Bool.false_and, if_neg Bool.false_ne_true]
    cases hafter : s.cadenceState.afterCheck d false none with
    | error e => exact runs_pure.mpr ⟨rfl, rfl⟩
    | ok cadence => exact runs_pure.mpr ⟨rfl, rfl⟩

/-- An opportunity that is due goes on with the cadence of a check that consumes its deadline. -/
theorem consume_check {iso : String → Option Datetime} {d : SchedulerDueDecision}
    (hd : s.cadenceState.decision now s.sampleIntervalSeconds = .ok d) (hdue : d.due = true) :
    s.consume iso d = (do
      match ← ({ s with
          cadenceState := (s.cadenceState.check s.sampleIntervalSeconds true now).2 } :
            HealthHistoryScheduler).refreshResumeState with
      | .error failure =>
        return (.ok (.ofSample failure none (s.cumulativeMissed d) nofun
          (s.cumulativeMissed_bounded d)),
          ({ s with
            cadenceState := (s.cadenceState.check s.sampleIntervalSeconds true now).2 } :
              HealthHistoryScheduler).recordFailedSampling)
      | .ok s' => s'.sample iso (s.cumulativeMissed d) (s.cumulativeMissed_bounded d)) := by
  obtain ⟨cadence, hafter, -⟩ :=
    SchedulerCadenceState.afterCheck_consumes hd hdue (s.cumulativeMissed_bounded d)
  have hcheck : s.cadenceState.check s.sampleIntervalSeconds true now = (.ok d, cadence) := by
    unfold SchedulerCadenceState.check
    rw [hd]
    dsimp only
    rw [hdue]
    show (match s.cadenceState.afterCheck d true (some (s.cumulativeMissed d)) with
      | Except.error e => (Except.error e, s.cadenceState)
      | Except.ok next => (Except.ok d, next)) = (Except.ok d, cadence)
    rw [hafter]
  unfold consume
  dsimp only
  rewrite [hafter, hcheck]
  rfl

end HealthHistoryScheduler

/-! ## The cadence law -/

/-- The cadence law, for every state and interval.

A due decision counts the whole intervals between its deadline and the reading, up to the counter
bound, and sets the next deadline a whole number of intervals later, after the reading and at most
one interval after it.  The state accepts every decision it made itself: the check fails only when
it is told to consume a deadline that is not due.  With readings that do not go back, putting polls
into a run changes no other entry of it, neither the decisions, the deadlines nor the misses. -/
theorem cadence_law (s : SchedulerCadenceState) (interval : Int) :
    (∀ now d, s.decision now interval = .ok d → d.due = true →
      now < d.nextDueMonotonic ∧ d.nextDueMonotonic ≤ now + interval ∧
      (∃ k : Int, d.nextDueMonotonic = s.plannedDueMonotonic + k * interval) ∧
      ∃ whole : Int, s.plannedDueMonotonic + whole * interval ≤ now ∧
        now < s.plannedDueMonotonic + (whole + 1) * interval ∧
        d.missedIntervals = min whole 65535) ∧
    (∀ now d, s.decision now interval = .ok d → ∀ consume pending,
      Bounded maxBoundedCounter (pending.getD s.pendingMissedIntervals) →
      ((∃ cadence, s.afterCheck d consume pending = .ok cadence) ↔
        (consume = true → d.due = true))) ∧
    ∀ base extended, Inserted CadenceMove.IsPoll base extended → Nondecreasing extended →
      Inserted (fun e => e.move.IsPoll) (s.run interval base) (s.run interval extended) := by
  refine ⟨?_, ?_, ?_⟩
  · intro now d hd hdue
    obtain ⟨whole, hlow, hhigh, hmissed, hnext⟩ := SchedulerCadenceState.decision_due hd hdue
    refine ⟨?_, ?_, ⟨whole + 1, ?_⟩, whole, hlow, hhigh, hmissed⟩
    · rw [hnext]
      exact hhigh
    · rw [hnext]
      linarith
    · rw [hnext]
      push_cast
      rfl
  · intro now d hd consume pending hpending
    exact SchedulerCadenceState.afterCheck_iff hd hpending
  · intro base extended hinserted hclock
    exact SchedulerCadenceState.run_inserted hinserted hclock ⟨rfl, rfl, fun _ _ => .rfl⟩

end Aurora.HealthHistory
