/-
  One sweep at a time, and no report from before an invalidation.

  A monitor follows each request through `get_health` (`Stage`).  Its place in the section of the
  collection lock makes sweeps exclusive.  For the reports, the invariant `Consistent` compares
  numbers of sweeps: the cached report, and every sweep that may still be published, started after
  the last invalidation.
-/
import Mathlib.Tactic.Linarith
import Aurora.Dashboard.HealthService

namespace Aurora.Dashboard

open Program

/-! ## The stages of a request -/

/-- How far a request has come. -/
inductive Stage
  | outside
  | invalidated
  | locked
  | timed (now : ℚ)
  | stale (generation : Nat)
  | collecting (generation number : Nat)
  | collected (generation number : Nat)
  | merged (generation number : Nat)
  | holding (result : Option Snapshot)
  | finished (result : Option Snapshot)

namespace Stage

/-- What the section that looks at the cache makes of a request. -/
def found : Lookup → Stage
  | .cached snapshot => .holding (some snapshot)
  | .stale generation => .stale generation

/-- What a call makes of it; a call that must not happen makes nothing of it. -/
def next : Stage → Exchange HealthInterface → Option Stage
  | .outside, ⟨.invalidate, _⟩ => some .invalidated
  | .outside, ⟨.lockCollection, _⟩ => some .locked
  | .locked, ⟨.readClock, now⟩ => some (.timed now)
  | .timed now, ⟨.checkCache reading, lookup⟩ => if reading = now then some (found lookup) else none
  | .stale generation, ⟨.startCollection, number⟩ => some (.collecting generation number)
  | .collecting generation number, ⟨.finishCollection _, .ok _⟩ =>
    some (.collected generation number)
  | .collecting _ _, ⟨.finishCollection _, .error _⟩ => some (.holding none)
  | .collected generation number, ⟨.rememberSuccesses _, _⟩ => some (.merged generation number)
  | .merged generation number, ⟨.publish g snapshot, _⟩ =>
    if g = generation ∧ snapshot.collection = number then some (.holding (some snapshot)) else none
  | .holding result, ⟨.unlockCollection, _⟩ => some (.finished result)
  | _, _ => none

/-- What a request's result says of its last stage. -/
def Final : HealthRequest → Except CollectionFailure (Option Snapshot) → Stage → Prop
  | .getHealth, .ok (some snapshot), stage => stage = .finished (some snapshot)
  | .getHealth, .error _, stage => stage = .finished none
  | .invalidate, .ok none, stage => stage = .invalidated
  | _, _, _ => False

/-- The stage in the section of the collection lock. -/
def phase : Stage → Phase
  | .outside => .before
  | .invalidated => .before
  | .finished _ => .after
  | _ => .holding 0

/-- The cache is checked after the clock was read, and the lookup decides what follows. -/
theorem next_checkCache {stage stage' : Stage} {reading : ℚ} {lookup : Lookup}
    (h : stage.next ⟨.checkCache reading, lookup⟩ = some stage') :
    stage = .timed reading ∧ stage' = found lookup := by
  cases stage <;> try cases h
  rename_i now
  have h' : (if reading = now then some (found lookup) else none) = some stage' := h
  split at h'
  · rename_i heq
    exact ⟨by rw [heq], (Option.some.inj h').symm⟩
  · cases h'

/-- A collection ends the collecting stage, with a report or a failure. -/
theorem next_finishCollection {stage stage' : Stage} {uptime : ℚ}
    {result : Except CollectionFailure HealthReport}
    (h : stage.next ⟨.finishCollection uptime, result⟩ = some stage') :
    ∃ generation number, stage = .collecting generation number ∧
      (stage' = .collected generation number ∨ stage' = .holding none) := by
  cases stage <;> try cases h
  rename_i generation number
  cases result with
  | ok report => exact ⟨generation, number, rfl, .inl (Option.some.inj h).symm⟩
  | error e => exact ⟨generation, number, rfl, .inr (Option.some.inj h).symm⟩

/-- What is published is what was merged. -/
theorem next_publish {stage stage' : Stage} {generation : Nat} {snapshot : Snapshot}
    {reading : Option ℚ} (h : stage.next ⟨.publish generation snapshot, reading⟩ = some stage') :
    stage = .merged generation snapshot.collection ∧ stage' = .holding (some snapshot) := by
  cases stage <;> try cases h
  rename_i g number
  have h' : (if generation = g ∧ snapshot.collection = number then
    some (Stage.holding (some snapshot)) else none) = some stage' := h
  split at h'
  · rename_i heq
    obtain ⟨rfl, rfl⟩ := heq
    exact ⟨rfl, (Option.some.inj h').symm⟩
  · cases h'

end Stage

/-- A collection returns what it published. -/
theorem collect_passes (startedAt now : ℚ) (generation : Nat) :
    (collect startedAt now generation).Passes Stage.next (.stale generation)
      fun result stage => stage = .holding result.toOption := by
  refine passes_ask_bind.mpr fun number => ⟨.collecting generation number, rfl, ?_⟩
  refine passes_invoke_bind.mpr fun answer => ?_
  cases answer with
  | error e => exact ⟨.holding none, rfl, rfl⟩
  | ok report =>
    refine ⟨.collected generation number, rfl, ?_⟩
    refine passes_ask_bind.mpr fun components => ⟨.merged generation number, rfl, ?_⟩
    exact passes_ask_bind.mpr fun reading => ⟨_, if_pos ⟨rfl, rfl⟩, rfl⟩

/-- Under the lock a snapshot is reused or collected. -/
theorem collectOrReuse_passes (startedAt : ℚ) :
    (collectOrReuse startedAt).Passes Stage.next .locked
      fun result stage => stage = .holding result.toOption := by
  refine passes_ask_bind.mpr fun now => ⟨.timed now, rfl, ?_⟩
  refine passes_ask_bind.mpr fun lookup => ⟨Stage.found lookup, if_pos rfl, ?_⟩
  cases lookup with
  | cached snapshot => rfl
  | stale generation => exact collect_passes startedAt now generation

/-- Every request follows the stages. -/
theorem program_passes (startedAt : ℚ) (request : HealthRequest) :
    (request.program startedAt).Passes Stage.next .outside (Stage.Final request) := by
  cases request with
  | invalidate => exact passes_ask_bind.mpr fun _ => ⟨.invalidated, rfl, rfl⟩
  | getHealth =>
    refine passes_ask_bind.mpr fun _ => ⟨.locked, rfl, ?_⟩
    refine passes_bind.mpr (passes_catching.mpr ?_)
    refine (collectOrReuse_passes startedAt).mono fun result stage hstage => ?_
    subst hstage
    refine passes_ask_bind.mpr fun _ => ⟨.finished result.toOption, rfl, ?_⟩
    cases result with
    | ok snapshot => rfl
    | error e => rfl

/-- The watch of the stages. -/
def stageWatch (startedAt : ℚ) : Watch (HealthRequest.program startedAt) Stage where
  next := Stage.next
  init := fun _ => .outside
  final := Stage.Final
  passes := program_passes startedAt

/-! ## The collection lock -/

/-- What an exchange does to the collection lock. -/
def lockEffect (x : Exchange HealthInterface) : GateEffect :=
  match x.1 with
  | .lockCollection => .takes
  | .unlockCollection => .drops
  | .invalidate => .outside
  | _ => .inside

/-- The stage of a thread determines its phase at the lock. -/
theorem phaseOf_stage (startedAt : ℚ) : PhaseOf (stageWatch startedAt) lockEffect Stage.phase where
  init := fun _ => rfl
  next := by
    intro stage x stage' h
    replace h : stage.next x = some stage' := h
    unfold Stage.next at h
    split at h <;> (try split at h) <;> cases h
    all_goals first | rfl | skip
    rename_i lookup _
    cases lookup <;> rfl
  final := by
    intro request result stage h
    replace h : Stage.Final request result stage := h
    unfold Stage.Final at h
    split at h
    · rw [h]; trivial
    · rw [h]; trivial
    · rw [h]; trivial
    · exact h.elim

variable {Tid : Type} {refreshSeconds : ℚ}

/-- A step of the service is a step of the lock. -/
theorem step_gate (service : HealthService Tid) (t : Tid) (x : Exchange HealthInterface)
    (service' : HealthService Tid) (h : service.Step refreshSeconds t x service') :
    GateStep t (lockEffect x) service.collectionLock service'.collectionLock := by
  cases h with
  | lockCollection h =>
    rw [h]
    exact .takesFree
  | unlockCollection h =>
    rw [h]
    exact .dropsLast
  | invalidate => exact .outside _
  | readClock => exact .inside _
  | checkCache => exact .inside _
  | startCollection => exact .inside _
  | finishCollection => exact .inside _
  | rememberSuccesses => exact .inside _
  | published => exact .inside _
  | outdated => exact .inside _

/-! ## Numbers of sweeps along a run -/

/-- A move of a thread of the dashboard. -/
abbrev HealthMove (Tid : Type) :=
  Move Tid HealthRequest HealthInterface CollectionFailure (Option Snapshot)

/-- The move starts a sweep. -/
def starts : HealthMove Tid → Bool
  | .calls _ _ ⟨.startCollection, _⟩ => true
  | _ => false

/-- How many sweeps the moves start. -/
def startsIn (moves : List (HealthMove Tid)) : Nat :=
  moves.countP starts

theorem startsIn_append (moves later : List (HealthMove Tid)) :
    startsIn (moves ++ later) = startsIn moves + startsIn later :=
  List.countP_append ..

/-- A list with one more element at its end, cut at an element. -/
theorem concat_eq_append_cons {α : Type} {l a b : List α} {e x : α} (h : l ++ [e] = a ++ x :: b) :
    (b = [] ∧ l = a ∧ e = x) ∨ ∃ b', b = b' ++ [e] ∧ l = a ++ x :: b' := by
  cases b using List.reverseRecOn with
  | nil =>
    obtain ⟨hl, he⟩ := List.append_inj' h rfl
    exact .inl ⟨rfl, hl, (List.cons.inj he).1⟩
  | append_singleton b y =>
    rw [← List.cons_append, ← List.append_assoc] at h
    obtain ⟨hl, he⟩ := List.append_inj' h rfl
    exact .inr ⟨b, by rw [(List.cons.inj he).1], hl⟩

/-- The sweep with this number starts after every invalidation. -/
def Fresh (moves : List (HealthMove Tid)) (number : Nat) : Prop :=
  ∀ before after t r, moves = before ++ .calls t r ⟨.invalidate, ()⟩ :: after →
    startsIn before ≤ number

/-- The sweep with this number starts after every invalidation before the thread's request. -/
def Since (t : Tid) (moves : List (HealthMove Tid)) (number : Nat) : Prop :=
  ∀ before after u r q, moves = before ++ .calls u r ⟨.invalidate, ()⟩ :: after →
    .begins t q ∈ after → startsIn before ≤ number

variable {moves : List (HealthMove Tid)} {move : HealthMove Tid} {number : Nat} {t u : Tid}

/-- A collection that is fresh is fresh since any earlier request. -/
theorem Fresh.since (h : Fresh moves number) : Since t moves number :=
  fun before after u r _ hmoves _ => h before after u r hmoves

theorem fresh_startsIn : Fresh moves (startsIn moves) := by
  intro before after t r h
  rw [h, startsIn_append]
  exact Nat.le_add_right _ _

/-- It stays fresh until an invalidation. -/
theorem Fresh.concat (h : Fresh moves number) (hmove : ∀ t r, move ≠ .calls t r ⟨.invalidate, ()⟩) :
    Fresh (moves ++ [move]) number := by
  intro before after t r hmoves
  rcases concat_eq_append_cons hmoves with ⟨-, -, he⟩ | ⟨after', -, hbefore⟩
  · exact absurd he (hmove t r)
  · exact h before after' t r hbefore

/-- It stays so until the thread begins another request. -/
theorem Since.concat (h : Since t moves number) (hmove : ∀ q, move ≠ .begins t q) :
    Since t (moves ++ [move]) number := by
  intro before after u r q hmoves hbegins
  rcases concat_eq_append_cons hmoves with ⟨rfl, -, -⟩ | ⟨after', rfl, hbefore⟩
  · exact absurd hbegins List.not_mem_nil
  · rcases List.mem_append.mp hbegins with hmem | hmem
    · exact h before after' u r q hbefore hmem
    · exact absurd (List.mem_singleton.mp hmem).symm (hmove q)

/-- A number below the count is the number of a sweep. -/
theorem exists_start (hnumbers : ∀ before after t r number,
      moves = before ++ .calls t r ⟨.startCollection, number⟩ :: after → number = startsIn before)
    (h : number < startsIn moves) : ∃ t r, .calls t r ⟨.startCollection, number⟩ ∈ moves := by
  induction moves using List.reverseRecOn with
  | nil => exact absurd h (Nat.not_lt_zero _)
  | append_singleton moves move ih =>
    have hbefore : ∀ before after t r number,
        moves = before ++ .calls t r ⟨.startCollection, number⟩ :: after →
          number = startsIn before := by
      rintro before after t r number rfl
      exact hnumbers before (after ++ [move]) t r number (by simp)
    rcases Nat.lt_or_ge number (startsIn moves) with hlt | hge
    · obtain ⟨t, r, hmem⟩ := ih hbefore hlt
      exact ⟨t, r, List.mem_append_left _ hmem⟩
    · rw [startsIn_append] at h
      have hstart : starts move = true := by
        by_contra hno
        have hzero : startsIn [move] = 0 := List.countP_eq_zero.mpr (by simpa using hno)
        omega
      cases move with
      | begins => cases hstart
      | ends => cases hstart
      | calls t r x =>
        obtain ⟨c, answer⟩ := x
        cases c <;> try cases hstart
        have hanswer := hnumbers moves [] t r answer rfl
        have hone : startsIn [(.calls t r ⟨.startCollection, answer⟩ : HealthMove Tid)] = 1 := rfl
        obtain rfl : number = answer := by omega
        exact ⟨t, r, List.mem_append_right _ List.mem_cons_self⟩

/-! ## The invariant -/

namespace Stage

/-- The generation and the number of the sweep a request is busy with. -/
def work : Stage → Option (Nat × Nat)
  | .collecting generation number => some (generation, number)
  | .collected generation number => some (generation, number)
  | .merged generation number => some (generation, number)
  | _ => none

/-- The report a request is about to return. -/
def result : Stage → Option Snapshot
  | .holding result => result
  | .finished result => result
  | _ => none

end Stage

/-- What a request knows about the sweeps. -/
structure Informed (moves : List (HealthMove Tid)) (generation : Nat) (t : Tid) (stage : Stage) :
    Prop where
  /-- A sweep may be published only if it started after every invalidation. -/
  work : ∀ g number, stage.work = some (g, number) → number < startsIn moves ∧
    g ≤ generation ∧ (g = generation → Fresh moves number) ∧ Since t moves number
  stale : ∀ g, stage = .stale g → g ≤ generation
  result : ∀ snapshot, stage.result = some snapshot →
    snapshot.collection < startsIn moves ∧ Since t moves snapshot.collection

/-- Collections that were started stay started. -/
theorem lt_startsIn_concat (h : number < startsIn moves) : number < startsIn (moves ++ [move]) := by
  rw [startsIn_append]
  omega

/-- A move that is no invalidation leaves a request informed. -/
theorem Informed.concat {generation : Nat} {stage : Stage}
    (h : Informed moves generation t stage) (hmove : ∀ t r, move ≠ .calls t r ⟨.invalidate, ()⟩)
    (hbegins : ∀ q, move ≠ .begins t q) : Informed (moves ++ [move]) generation t stage where
  work := by
    intro g number hwork
    obtain ⟨hlt, hle, hfresh, hsince⟩ := h.work g number hwork
    exact ⟨lt_startsIn_concat hlt, hle, fun hg => (hfresh hg).concat hmove, hsince.concat hbegins⟩
  stale := h.stale
  result := by
    intro snapshot hresult
    obtain ⟨hlt, hsince⟩ := h.result snapshot hresult
    exact ⟨lt_startsIn_concat hlt, hsince.concat hbegins⟩

/-- An invalidation outdates the work of every request. -/
theorem Informed.invalidated {generation : Nat} {stage : Stage}
    (h : Informed moves generation t stage) (hbegins : ∀ q, move ≠ .begins t q) :
    Informed (moves ++ [move]) (generation + 1) t stage where
  work := by
    intro g number hwork
    obtain ⟨hlt, hle, -, hsince⟩ := h.work g number hwork
    exact ⟨lt_startsIn_concat hlt, by omega, fun hg => by omega, hsince.concat hbegins⟩
  stale := by
    intro g hg
    have hle := h.stale g hg
    omega
  result := by
    intro snapshot hresult
    obtain ⟨hlt, hsince⟩ := h.result snapshot hresult
    exact ⟨lt_startsIn_concat hlt, hsince.concat hbegins⟩

/-- The sweeps, the cache and the requests agree on what happened so far. -/
structure Consistent (moves : List (HealthMove Tid))
    (s : Watched Tid HealthRequest (HealthService Tid) Stage) : Prop where
  collections : s.shared.collections = startsIn moves
  /-- A sweep's number is the number of sweeps before it. -/
  numbers : ∀ before after t r number,
    moves = before ++ .calls t r ⟨.startCollection, number⟩ :: after → number = startsIn before
  cached : ∀ snapshot, s.shared.cachedReport = some snapshot →
    snapshot.collection < startsIn moves ∧ Fresh moves snapshot.collection
  requests : ∀ t r stage, s.seen t = some (r, stage) →
    Informed moves s.shared.invalidationGeneration t stage

theorem consistent_start (startedAt : ℚ) :
    Consistent [] (Watch.start (HealthService.fresh startedAt) :
      Watched Tid HealthRequest (HealthService Tid) Stage) where
  collections := rfl
  numbers := by
    intro before after t r number h
    cases before <;> cases h
  cached := by
    intro snapshot h
    cases h
  requests := by
    intro t r stage h
    cases h

/-- Collections are numbered in the order they start. -/
theorem numbers_concat
    (h : ∀ before after t r number,
      moves = before ++ .calls t r ⟨.startCollection, number⟩ :: after → number = startsIn before)
    (hmove : ∀ t r number, move = .calls t r ⟨.startCollection, number⟩ → number = startsIn moves) :
    ∀ before after t r number,
      moves ++ [move] = before ++ .calls t r ⟨.startCollection, number⟩ :: after →
        number = startsIn before := by
  intro before after t r number hmoves
  rcases concat_eq_append_cons hmoves with ⟨-, rfl, he⟩ | ⟨after', -, hbefore⟩
  · exact hmove t r number he
  · exact h before after' t r number hbefore

/-- No stage but those named has work or a result. -/
theorem informed_of_idle {generation : Nat} {stage : Stage} (hwork : stage.work = none)
    (hresult : stage.result = none) (hstale : ∀ g, stage = .stale g → g ≤ generation) :
    Informed moves generation t stage where
  work := by
    intro g number h
    rw [hwork] at h
    cases h
  stale := hstale
  result := by
    intro snapshot h
    rw [hresult] at h
    cases h

/-- A request that goes on with the same sweep and the same result. -/
theorem Informed.goesOn {generation : Nat} {stage stage' : Stage} (h : Informed moves generation t stage)
    (hwork : ∀ w, stage'.work = some w → stage.work = some w)
    (hresult : ∀ q, stage'.result = some q → stage.result = some q)
    (hstale : ∀ g, stage' ≠ .stale g) : Informed moves generation t stage' where
  work := fun g number hw => h.work g number (hwork _ hw)
  stale := fun g hg => absurd hg (hstale g)
  result := fun snapshot hr => h.result snapshot (hresult _ hr)

/-- The request that publishes is about to return what it collected. -/
theorem Informed.publishes {generation g number : Nat} {snapshot : Snapshot}
    (h : Informed moves generation t (.merged g number)) (hnumber : snapshot.collection = number) :
    Informed moves generation t (.holding (some snapshot)) where
  work := by
    intro g number hw
    cases hw
  stale := by
    intro g hg
    cases hg
  result := by
    intro q hq
    obtain rfl : snapshot = q := Option.some.inj hq
    obtain ⟨hlt, -, -, hsince⟩ := h.work g number rfl
    rw [hnumber]
    exact ⟨hlt, hsince⟩

/-! ## One move -/

section Moves

variable [DecidableEq Tid] {s : Watched Tid HealthRequest (HealthService Tid) Stage}
  {r : HealthRequest} {stage stage' : Stage} {x : Exchange HealthInterface}
  {shared : HealthService Tid}

/-- A call that is no invalidation keeps the requests informed, if it keeps its own so. -/
theorem Consistent.requests_concat (h : Consistent moves s) (hx : x.1 ≠ .invalidate)
    (hmine : Informed (moves ++ [.calls t r x]) s.shared.invalidationGeneration t stage') :
    ∀ u r' st, Function.update s.seen t (some (r, stage')) u = some (r', st) →
      Informed (moves ++ [.calls t r x]) s.shared.invalidationGeneration u st := by
  intro u r' st hu
  rcases update_eq_some hu with ⟨rfl, hnew⟩ | ⟨-, hold⟩
  · cases hnew
    exact hmine
  · refine (h.requests u r' st hold).concat (fun v q he => ?_) (by simp)
    cases he
    exact hx rfl

/-- A call that touches neither sweeps nor cache keeps the bookkeeping. -/
theorem Consistent.quiet (h : Consistent moves s) (hx : x.1 ≠ .invalidate)
    (hstart : x.1 ≠ .startCollection)
    (hcollections : shared.collections = s.shared.collections)
    (hgeneration : shared.invalidationGeneration = s.shared.invalidationGeneration)
    (hcached : ∀ snapshot, shared.cachedReport = some snapshot →
      snapshot.collection < startsIn moves ∧ Fresh moves snapshot.collection)
    (hmine : Informed moves s.shared.invalidationGeneration t stage') :
    Consistent (moves ++ [.calls t r x])
      ⟨shared, Function.update s.seen t (some (r, stage'))⟩ := by
  have hnot : starts (.calls t r x : HealthMove Tid) = false := by
    obtain ⟨c, answer⟩ := x
    cases c <;> first | rfl | exact absurd rfl hstart
  have hinvalid : ∀ u q, (.calls t r x : HealthMove Tid) ≠ .calls u q ⟨.invalidate, ()⟩ := by
    intro u q he
    cases he
    exact hx rfl
  refine ⟨?_, numbers_concat h.numbers fun u q number he => ?_, fun snapshot hs => ?_, ?_⟩
  · rw [startsIn_append]
    show shared.collections = _ + List.countP starts [_]
    rw [List.countP_singleton, if_neg (by rw [hnot]; decide), hcollections, h.collections]
    rfl
  · cases he
    exact absurd rfl hstart
  · obtain ⟨hlt, hfresh⟩ := hcached snapshot hs
    exact ⟨lt_startsIn_concat hlt, hfresh.concat hinvalid⟩
  · show ∀ u r' st, _ → Informed _ shared.invalidationGeneration u st
    rw [hgeneration]
    exact h.requests_concat hx (hmine.concat hinvalid (by simp))

/-- Every call keeps the bookkeeping. -/
theorem Consistent.calls (h : Consistent moves s) (hseen : s.seen t = some (r, stage))
    (hm : stage.next x = some stage') (he : s.shared.Step refreshSeconds t x shared) :
    Consistent (moves ++ [.calls t r x])
      ⟨shared, Function.update s.seen t (some (r, stage'))⟩ := by
  have hmine := h.requests t r stage hseen
  cases he with
  | lockCollection hfree =>
    obtain rfl : stage' = .locked := by
      cases stage <;> cases hm
      rfl
    exact h.quiet (by simp) (by simp) rfl rfl h.cached
      (informed_of_idle rfl rfl (by intro g hg; cases hg))
  | unlockCollection hheld =>
    obtain ⟨q, rfl, rfl⟩ : ∃ q, stage = .holding q ∧ stage' = .finished q := by
      cases stage <;> cases hm
      exact ⟨_, rfl, rfl⟩
    exact h.quiet (by simp) (by simp) rfl rfl h.cached
      (hmine.goesOn (by intro w hw; cases hw) (fun _ hq => hq) (by simp))
  | @readClock now hle =>
    obtain rfl : stage' = .timed now := by
      cases stage <;> cases hm
      rfl
    exact h.quiet (by simp) (by simp) rfl rfl h.cached
      (informed_of_idle rfl rfl (by intro g hg; cases hg))
  | checkCache now =>
    obtain ⟨rfl, rfl⟩ := Stage.next_checkCache hm
    refine h.quiet (by simp) (by simp) rfl rfl h.cached ?_
    unfold HealthService.lookup
    have hstale : Informed moves s.shared.invalidationGeneration t
        (.stale s.shared.invalidationGeneration) :=
      informed_of_idle rfl rfl (by intro g hg; cases hg; exact Nat.le_refl _)
    split
    · rename_i snapshot reading hreport _
      split
      · obtain ⟨hlt, hfresh⟩ := h.cached snapshot hreport
        refine ⟨?_, ?_, ?_⟩
        · intro g number hw
          cases hw
        · intro g hg
          cases hg
        · intro q hq
          obtain rfl : snapshot = q := Option.some.inj hq
          exact ⟨hlt, hfresh.since⟩
      · exact hstale
    · exact hstale
  | startCollection =>
    obtain ⟨g, rfl, rfl⟩ : ∃ g, stage = .stale g ∧
        stage' = .collecting g s.shared.collections := by
      cases stage <;> cases hm
      exact ⟨_, rfl, rfl⟩
    have hone : startsIn (moves ++ [.calls t r ⟨.startCollection, s.shared.collections⟩]) =
        startsIn moves + 1 := startsIn_append ..
    have hinvalid : ∀ u q, (.calls t r ⟨.startCollection, s.shared.collections⟩ : HealthMove Tid) ≠
        .calls u q ⟨.invalidate, ()⟩ := by
      intro u q he
      cases he
    have hfresh : Fresh (moves ++ [.calls t r ⟨.startCollection, s.shared.collections⟩])
        s.shared.collections := by
      rw [h.collections]
      exact fresh_startsIn.concat (h.collections ▸ hinvalid)
    refine ⟨?_, numbers_concat h.numbers fun u q number he => ?_, fun snapshot hs => ?_, ?_⟩
    · rw [hone, ← h.collections]
    · cases he
      exact h.collections
    · obtain ⟨hlt, hf⟩ := h.cached snapshot hs
      exact ⟨lt_startsIn_concat hlt, hf.concat hinvalid⟩
    · refine h.requests_concat (by simp) ⟨?_, ?_, ?_⟩
      · intro g' number hw
        obtain ⟨rfl, rfl⟩ := Prod.mk.inj (Option.some.inj hw)
        exact ⟨by rw [hone, h.collections]; omega, hmine.stale _ rfl, fun _ => hfresh, hfresh.since⟩
      · intro g' hg
        cases hg
      · intro snapshot hr
        cases hr
  | finishCollection uptime result =>
    obtain ⟨g, number, rfl, rfl | rfl⟩ := Stage.next_finishCollection hm
    · exact h.quiet (by simp) (by simp) rfl rfl h.cached
        (hmine.goesOn (fun _ hw => hw) (by intro q hq; cases hq) (by simp))
    · exact h.quiet (by simp) (by simp) rfl rfl h.cached
        (informed_of_idle rfl rfl (by intro g hg; cases hg))
  | rememberSuccesses components =>
    obtain ⟨g, number, rfl, rfl⟩ : ∃ g number, stage = .collected g number ∧
        stage' = .merged g number := by
      cases stage <;> cases hm
      exact ⟨_, _, rfl, rfl⟩
    exact h.quiet (by simp) (by simp) rfl rfl h.cached
      (hmine.goesOn (fun _ hw => hw) (by intro q hq; cases hq) (by simp))
  | @published g snapshot now hg hclock =>
    obtain ⟨rfl, rfl⟩ := Stage.next_publish hm
    refine h.quiet (by simp) (by simp) rfl rfl (fun q hq => ?_) (hmine.publishes rfl)
    -- the generation did not change since the sweep started, so no invalidation came after it
    obtain rfl : snapshot = q := Option.some.inj hq
    obtain ⟨hlt, -, hfresh, -⟩ := hmine.work g snapshot.collection rfl
    exact ⟨hlt, hfresh hg⟩
  | @outdated g snapshot hg =>
    obtain ⟨rfl, rfl⟩ := Stage.next_publish hm
    exact h.quiet (by simp) (by simp) rfl rfl h.cached (hmine.publishes rfl)
  | invalidate =>
    obtain rfl : stage' = .invalidated := by
      cases stage <;> cases hm
      rfl
    have hzero : startsIn (moves ++ [.calls t r ⟨.invalidate, ()⟩]) = startsIn moves :=
      startsIn_append ..
    refine ⟨?_, numbers_concat h.numbers fun u q number he => ?_, fun snapshot hs => ?_, ?_⟩
    · rw [hzero]
      exact h.collections
    · cases he
    · cases hs
    · intro u r' st hu
      rcases update_eq_some hu with ⟨rfl, hnew⟩ | ⟨-, hold⟩
      · cases hnew
        exact informed_of_idle rfl rfl (by intro g hg; cases hg)
      · exact (h.requests u r' st hold).invalidated (by simp)

/-- A request that begins or ends leaves the cache and the sweeps alone. -/
theorem Consistent.between (h : Consistent moves s) {seen : Option (HealthRequest × Stage)}
    (hcall : ∀ u q x, move ≠ .calls u q x) (hbegins : ∀ u q, move = .begins u q → u = t)
    (hmine : ∀ q st, seen = some (q, st) → st = .outside) :
    Consistent (moves ++ [move]) ⟨s.shared, Function.update s.seen t seen⟩ := by
  have hnot : starts move = false := by
    cases move with
    | calls u q x => exact absurd rfl (hcall u q x)
    | begins => rfl
    | ends => rfl
  refine ⟨?_, numbers_concat h.numbers fun u q number he => absurd he (hcall _ _ _),
    fun snapshot hs => ?_, ?_⟩
  · rw [startsIn_append]
    show s.shared.collections = _ + List.countP starts [_]
    rw [List.countP_singleton, if_neg (by rw [hnot]; decide), h.collections]
    rfl
  · obtain ⟨hlt, hfresh⟩ := h.cached snapshot hs
    exact ⟨lt_startsIn_concat hlt, hfresh.concat fun u q => hcall _ _ _⟩
  · intro u q st hu
    rcases update_eq_some hu with ⟨rfl, hnew⟩ | ⟨hut, hold⟩
    · obtain rfl := hmine q st hnew
      exact informed_of_idle rfl rfl (by intro g hg; cases hg)
    · exact (h.requests u q st hold).concat (fun _ _ => hcall _ _ _)
        fun q he => hut (hbegins u q he)

/-- Every move keeps the bookkeeping. -/
theorem Consistent.step {startedAt : ℚ} {s' : Watched Tid HealthRequest (HealthService Tid) Stage}
    (h : Consistent moves s)
    (hstep : Watch.Step (stageWatch startedAt) (HealthService.Step refreshSeconds) s move s') :
    Consistent (moves ++ [move]) s' := by
  cases hstep with
  | @begins t r hidle =>
    refine h.between (by simp) (fun u q he => ?_) (fun q st hs => ?_)
    · cases he
      rfl
    · cases hs
      rfl
  | calls hseen hm he => exact h.calls hseen hm he
  | @ends t r stage result hseen hm => exact h.between (by simp) (by simp) (by simp)

/-- The bookkeeping after any run. -/
theorem Consistent.of_trail {startedAt : ℚ}
    {s : Watched Tid HealthRequest (HealthService Tid) Stage}
    (h : Trail (Watch.Step (stageWatch startedAt) (HealthService.Step refreshSeconds))
      (Watch.start (HealthService.fresh startedAt)) moves s) : Consistent moves s :=
  h.invariant (fun _ _ _ _ hc hstep => hc.step hstep) (consistent_start startedAt)

end Moves

/-! ## The age of the cache -/

/-- Where the cache comes from, and how old it is. -/
structure Aged (moves : List (HealthMove Tid))
    (s : Watched Tid HealthRequest (HealthService Tid) Stage) : Prop where
  guarded : Guarded HealthService.collectionLock (s.coarsen Stage.phase)
  origin : ∀ snapshot reading, s.shared.cachedReport = some snapshot →
    s.shared.cachedAt = some reading →
      ∃ u q generation, .calls u q ⟨.publish generation snapshot, some reading⟩ ∈ moves
  age : ∀ reading, s.shared.cachedAt = some reading → reading ≤ s.shared.clock
  /-- The reading of a request that looks at the cache is not before the cache. -/
  timed : ∀ t r now, s.seen t = some (r, .timed now) → now ≤ s.shared.clock ∧
    (∀ reading, s.shared.cachedAt = some reading → reading ≤ now) ∧
    .calls t r ⟨.readClock, now⟩ ∈ moves

section Ages

variable [DecidableEq Tid] {s : Watched Tid HealthRequest (HealthService Tid) Stage}
  {startedAt : ℚ}

omit [DecidableEq Tid] in
theorem aged_start : Aged [] (Watch.start (HealthService.fresh startedAt) :
    Watched Tid HealthRequest (HealthService Tid) Stage) where
  guarded := guarded_start rfl
  origin := by
    intro snapshot reading h
    cases h
  age := by
    intro reading h
    cases h
  timed := by
    intro t r now h
    cases h

omit [DecidableEq Tid] in
/-- Two requests that hold the collection lock are one. -/
theorem Aged.holder_unique (h : Aged moves s) {r r' : HealthRequest} {stage stage' : Stage}
    (ht : s.seen t = some (r, stage)) (hu : s.seen u = some (r', stage'))
    (hstage : stage.phase = .holding 0) (hstage' : stage'.phase = .holding 0) : u = t := by
  have hholds : ∀ {v q st}, s.seen v = some (q, st) → st.phase = .holding 0 →
      (s.coarsen Stage.phase).seen v = some (q, .holding 0) := by
    intro v q st hv hst
    show (s.seen v).map _ = _
    rw [hv, ← hst]
    rfl
  exact h.guarded.unique (hholds ht hstage) (hholds hu hstage')

/-- A call that leaves the cache alone, and after which its request reads no time. -/
theorem Aged.quiet (h : Aged moves s) {shared : HealthService Tid}
    {seen : Option (HealthRequest × Stage)} (hclock : s.shared.clock ≤ shared.clock)
    (hreport : shared.cachedReport = s.shared.cachedReport ∨ shared.cachedReport = none)
    (hat : shared.cachedAt = s.shared.cachedAt ∨ shared.cachedAt = none)
    (hguarded : Guarded HealthService.collectionLock
      ((⟨shared, Function.update s.seen t seen⟩ :
        Watched Tid HealthRequest (HealthService Tid) Stage).coarsen Stage.phase))
    (hmine : ∀ r now, seen ≠ some (r, .timed now)) :
    Aged (moves ++ [move]) ⟨shared, Function.update s.seen t seen⟩ where
  guarded := hguarded
  origin := by
    intro snapshot reading hs hr
    rcases hreport with hsame | hnone
    · rcases hat with hsame' | hnone
      · obtain ⟨u, q, g, hmem⟩ := h.origin snapshot reading (hsame ▸ hs) (hsame' ▸ hr)
        exact ⟨u, q, g, List.mem_append_left _ hmem⟩
      · rw [show shared.cachedAt = some reading from hr] at hnone
        cases hnone
    · rw [show shared.cachedReport = some snapshot from hs] at hnone
      cases hnone
  age := by
    intro reading hr
    rcases hat with hsame | hnone
    · exact (h.age reading (hsame ▸ hr)).trans hclock
    · rw [show shared.cachedAt = some reading from hr] at hnone
      cases hnone
  timed := by
    intro u r now hu
    rcases update_eq_some hu with ⟨-, hnew⟩ | ⟨-, hold⟩
    · exact absurd hnew (hmine r now)
    · obtain ⟨hle, hcache, hmem⟩ := h.timed u r now hold
      refine ⟨hle.trans hclock, fun reading hr => ?_, List.mem_append_left _ hmem⟩
      rcases hat with hsame | hnone
      · exact hcache reading (hsame ▸ hr)
      · rw [show shared.cachedAt = some reading from hr] at hnone
        cases hnone

/-- Every move keeps the cache's age known. -/
theorem Aged.step {s' : Watched Tid HealthRequest (HealthService Tid) Stage} (h : Aged moves s)
    (hstep : Watch.Step (stageWatch startedAt) (HealthService.Step refreshSeconds) s move s') :
    Aged (moves ++ [move]) s' := by
  have hguarded := guarded_of_trail (phaseOf_stage startedAt) step_gate h.guarded
    (.cons hstep (.nil s'))
  cases hstep with
  | begins => exact h.quiet (le_refl _) (.inl rfl) (.inl rfl) hguarded (by simp [stageWatch])
  | ends => exact h.quiet (le_refl _) (.inl rfl) (.inl rfl) hguarded (by simp)
  | @calls t r stage stage' x shared hseen hm he =>
    replace hm : stage.next x = some stage' := hm
    -- only reading the clock and publishing concern the ages
    cases he with
    | lockCollection =>
      refine h.quiet (le_refl _) (.inl rfl) (.inl rfl) hguarded ?_
      cases stage <;> cases hm
      simp
    | unlockCollection =>
      refine h.quiet (le_refl _) (.inl rfl) (.inl rfl) hguarded ?_
      cases stage <;> cases hm
      simp
    | startCollection =>
      refine h.quiet (le_refl _) (.inl rfl) (.inl rfl) hguarded ?_
      cases stage <;> cases hm
      simp
    | rememberSuccesses =>
      refine h.quiet (le_refl _) (.inl rfl) (.inl rfl) hguarded ?_
      cases stage <;> cases hm
      simp
    | invalidate =>
      refine h.quiet (le_refl _) (.inr rfl) (.inr rfl) hguarded ?_
      cases stage <;> cases hm
      simp
    | finishCollection uptime result =>
      refine h.quiet (le_refl _) (.inl rfl) (.inl rfl) hguarded ?_
      obtain ⟨g, number, rfl, rfl | rfl⟩ := Stage.next_finishCollection hm
      · simp
      · simp
    | outdated =>
      refine h.quiet (le_refl _) (.inl rfl) (.inl rfl) hguarded ?_
      obtain ⟨rfl, rfl⟩ := Stage.next_publish hm
      simp
    | checkCache now =>
      refine h.quiet (le_refl _) (.inl rfl) (.inl rfl) hguarded ?_
      obtain ⟨rfl, rfl⟩ := Stage.next_checkCache hm
      intro q reading
      cases s.shared.lookup refreshSeconds now <;> simp [Stage.found]
    | @readClock now hclock =>
      obtain rfl : stage' = .timed now := by
        cases stage <;> cases hm
        rfl
      refine ⟨hguarded, ?_, fun reading hr => (h.age reading hr).trans hclock, ?_⟩
      · intro snapshot reading hs hr
        obtain ⟨u, q, g, hmem⟩ := h.origin snapshot reading hs hr
        exact ⟨u, q, g, List.mem_append_left _ hmem⟩
      · intro u q reading hu
        rcases update_eq_some hu with ⟨rfl, hnew⟩ | ⟨-, hold⟩
        · cases hnew
          exact ⟨le_refl _, fun reading hr => (h.age reading hr).trans hclock,
            List.mem_append_right _ List.mem_cons_self⟩
        · obtain ⟨hle, hcache, hmem⟩ := h.timed u q reading hold
          exact ⟨hle.trans hclock, hcache, List.mem_append_left _ hmem⟩
    | @published g snapshot now hg hclock =>
      obtain ⟨rfl, rfl⟩ := Stage.next_publish hm
      refine ⟨hguarded, ?_, fun reading hr => (Option.some.inj hr).symm.le, ?_⟩
      · intro q reading hs hr
        obtain rfl : snapshot = q := Option.some.inj hs
        obtain rfl : now = reading := Option.some.inj hr
        exact ⟨t, r, g, List.mem_append_right _ List.mem_cons_self⟩
      · intro u q reading hu
        rcases update_eq_some hu with ⟨-, hnew⟩ | ⟨hut, hold⟩
        · cases hnew
        · exact absurd (h.holder_unique hseen hold rfl rfl) hut

/-- A report served from the cache was published less than the refresh interval ago. -/
theorem Aged.served {s' : Watched Tid HealthRequest (HealthService Tid) Stage} {r : HealthRequest}
    {now : ℚ} {snapshot : Snapshot} (h : Aged moves s)
    (hstep : Watch.Step (stageWatch startedAt) (HealthService.Step refreshSeconds) s
      (.calls t r ⟨.checkCache now, .cached snapshot⟩) s') :
    .calls t r ⟨.readClock, now⟩ ∈ moves ∧ ∃ reading,
      (∃ u q generation, .calls u q ⟨.publish generation snapshot, some reading⟩ ∈ moves) ∧
        reading ≤ now ∧ now - reading < refreshSeconds := by
  cases hstep with
  | @calls _ _ stage stage' _ shared hseen hm he =>
    obtain ⟨rfl, -⟩ := Stage.next_checkCache hm
    obtain ⟨-, hcache, hread⟩ := h.timed t r now hseen
    generalize hlookup : Lookup.cached snapshot = lookup at he
    cases he
    unfold HealthService.lookup at hlookup
    split at hlookup
    · rename_i reading hreport hat
      split at hlookup
      · rename_i hage
        obtain rfl := Lookup.cached.inj hlookup
        exact ⟨hread, reading, h.origin _ _ hreport hat, hcache reading hat, hage⟩
      · cases hlookup
    · cases hlookup

end Ages

/-! ## The service over a run -/

/-- What the moves of a health service never do. -/
structure SingleFlight (refreshSeconds : ℚ) (moves : List (HealthMove Tid)) : Prop where
  /-- No sweep starts while a thread is busy with one. -/
  exclusive : ∀ before after t r number,
    moves = before ++ .calls t r ⟨.startCollection, number⟩ :: after →
      (∀ move ∈ after, move.thread ≠ t) →
        ∀ u q other, .calls u q ⟨.startCollection, other⟩ ∉ after
  /-- A request after an invalidation gets a report whose sweep started after it. -/
  fresh : ∀ before middle after u q t snapshot,
    moves = before ++ .calls u q ⟨.invalidate, ()⟩ ::
      (middle ++ .ends t .getHealth (.ok (some snapshot)) :: after) →
        .begins t .getHealth ∈ middle →
          (∀ v w, .calls v w ⟨.startCollection, snapshot.collection⟩ ∉ before) ∧
            ∃ v w, .calls v w ⟨.startCollection, snapshot.collection⟩ ∈ middle
  /-- A report served from the cache was cached less than the refresh interval ago. -/
  recent : ∀ before after t r now snapshot,
    moves = before ++ .calls t r ⟨.checkCache now, .cached snapshot⟩ :: after →
      .calls t r ⟨.readClock, now⟩ ∈ before ∧ ∃ reading,
        (∃ u q generation, .calls u q ⟨.publish generation snapshot, some reading⟩ ∈ before) ∧
          reading ≤ now ∧ now - reading < refreshSeconds

/-- Single flight and invalidation, over every interleaving of any number of threads. -/
theorem single_flight [DecidableEq Tid] (startedAt refreshSeconds : ℚ)
    {moves : List (HealthMove Tid)} {p : Pool Tid HealthRequest HealthInterface CollectionFailure
      (Option Snapshot) (HealthService Tid)}
    (h : Trail (Pool.Step (HealthRequest.program startedAt) (HealthService.Step refreshSeconds))
      (Pool.idle (HealthService.fresh startedAt)) moves p) :
    SingleFlight refreshSeconds moves where
  exclusive := by
    rintro before after t r number rfl hquiet u q other hmem
    exact exclusive (phaseOf_stage startedAt).inSections step_gate rfl h rfl hquiet hmem rfl
  fresh := by
    rintro before middle after u q t snapshot rfl hbegins
    obtain ⟨s, hs, -⟩ := (stageWatch startedAt).follows h
    rw [← List.cons_append, ← List.append_assoc] at hs
    obtain ⟨s₁, hs₁, hs⟩ := trail_append.mp hs
    obtain ⟨s₂, hend, -⟩ := trail_cons.mp hs
    have hconsistent := Consistent.of_trail hs₁
    cases hend with
    | @ends _ _ stage _ hseen hm =>
      obtain rfl : stage = .finished (some snapshot) := hm
      obtain ⟨hlt, hsince⟩ := (hconsistent.requests _ _ _ hseen).result snapshot rfl
      have hle : startsIn before ≤ snapshot.collection :=
        hsince before middle u q _ rfl hbegins
      -- the collection was not started before the invalidation, by its number
      have hnot : ∀ v w, .calls v w ⟨.startCollection, snapshot.collection⟩ ∉ before := by
        intro v w hmem
        obtain ⟨first, second, rfl⟩ := List.append_of_mem hmem
        have hnumber := hconsistent.numbers first
          (second ++ .calls u q ⟨.invalidate, ()⟩ :: middle) v w snapshot.collection (by simp)
        have hone : startsIn ((.calls v w ⟨.startCollection, snapshot.collection⟩ :
            HealthMove Tid) :: second) = startsIn second + 1 := List.countP_cons_of_pos rfl
        rw [startsIn_append, hone] at hle
        omega
      refine ⟨hnot, ?_⟩
      obtain ⟨v, w, hmem⟩ := exists_start hconsistent.numbers hlt
      rcases List.mem_append.mp hmem with hmem | hmem
      · exact absurd hmem (hnot v w)
      · rcases List.mem_cons.mp hmem with hmem | hmem
        · cases hmem
        · exact ⟨v, w, hmem⟩
  recent := by
    rintro before after t r now snapshot rfl
    obtain ⟨s, hs, -⟩ := (stageWatch startedAt).follows h
    obtain ⟨s₁, hs₁, hs⟩ := trail_append.mp hs
    obtain ⟨s₂, hcall, -⟩ := trail_cons.mp hs
    have haged : Aged ([] ++ before) s₁ :=
      hs₁.invariant (fun _ _ _ _ ha hstep => ha.step hstep) aged_start
    exact haged.served hcall

/-- A sweep without components. -/
def emptyReport : HealthReport := ⟨.unavailable, "2026-01-01T00:00:00+00:00", 0, []⟩

/-- The first sweep up to its end, -/
def outdatedStart : List (Exchange HealthInterface) :=
  [⟨.lockCollection, ()⟩, ⟨.readClock, (0 : ℚ)⟩, ⟨.checkCache 0, Lookup.stale 0⟩,
    ⟨.startCollection, (0 : Nat)⟩, ⟨.finishCollection (0 - 0), Except.ok emptyReport⟩]

/-- and the publication that comes too late. -/
def outdatedEnd : List (Exchange HealthInterface) :=
  [⟨.rememberSuccesses [], ([] : List ComponentHealth)⟩,
    ⟨.publish 0 ⟨0, emptyReport⟩, (none : Option ℚ)⟩, ⟨.unlockCollection, ()⟩]

/-- the invalidation in between. -/
def invalidateCalls : List (Exchange HealthInterface) := [⟨.invalidate, ()⟩]

/-- The second sweep is published, -/
def sweepCalls : List (Exchange HealthInterface) :=
  [⟨.lockCollection, ()⟩, ⟨.readClock, (1 : ℚ)⟩, ⟨.checkCache 1, Lookup.stale 1⟩,
    ⟨.startCollection, (1 : Nat)⟩, ⟨.finishCollection (1 - 0), Except.ok emptyReport⟩,
    ⟨.rememberSuccesses [], ([] : List ComponentHealth)⟩,
    ⟨.publish 1 ⟨1, emptyReport⟩, some (2 : ℚ)⟩, ⟨.unlockCollection, ()⟩]

/-- and a later request finds it in the cache. -/
def cachedCalls : List (Exchange HealthInterface) :=
  [⟨.lockCollection, ()⟩, ⟨.readClock, (3 : ℚ)⟩, ⟨.checkCache 3, Lookup.cached ⟨1, emptyReport⟩⟩,
    ⟨.unlockCollection, ()⟩]

/-- The service while the first sweep is going on, -/
def sweeping (generation : Nat) : HealthService Nat :=
  ⟨some (0, 0), 0, none, none, generation, .empty, 1⟩

/-- once it was dropped, -/
def dropped : HealthService Nat := ⟨none, 0, none, none, 1, .empty, 1⟩

/-- and with the second sweep in the cache. -/
def filled (collectionLock : GateOwner Nat) (clock : ℚ) : HealthService Nat :=
  ⟨collectionLock, clock, some ⟨1, emptyReport⟩, some 2, 1, .empty, 2⟩

/-- While a request waits, another one sweeps and a third thread invalidates: the sweep is not
    cached.  The waiting request sweeps again, and a fourth request is served from the cache. -/
theorem single_flight_cached : SingleFlight 30
    ((.begins 2 .getHealth ::
        ((.begins 0 .getHealth :: (outdatedStart.map (.calls 0 .getHealth ·) ++
          ((.begins 1 .invalidate :: (invalidateCalls.map (.calls 1 .invalidate ·) ++
            [.ends 1 .invalidate (.ok none)])) ++
          (outdatedEnd.map (.calls 0 .getHealth ·) ++
            [.ends 0 .getHealth (.ok (some ⟨0, emptyReport⟩))])))) ++
        (sweepCalls.map (.calls 2 .getHealth ·) ++
          [.ends 2 .getHealth (.ok (some ⟨1, emptyReport⟩))]))) ++
      (.begins 0 .getHealth :: (cachedCalls.map (.calls 0 .getHealth ·) ++
        [.ends 0 .getHealth (.ok (some ⟨1, emptyReport⟩))])) : List (HealthMove Nat)) := by
  have houtdated : Runs (HealthRequest.program 0 .getHealth) (outdatedStart ++ outdatedEnd)
      (.ok (some ⟨0, emptyReport⟩)) :=
    .call _ (.call _ (.call _ (.call _ (.call _ (.call _ (.call _ (.call _ (.done _))))))))
  have hinvalidate : Runs (HealthRequest.program 0 .invalidate) invalidateCalls (.ok none) :=
    .call _ (.done _)
  have hsweep : Runs (HealthRequest.program 0 .getHealth) ([] ++ sweepCalls)
      (.ok (some ⟨1, emptyReport⟩)) :=
    .call _ (.call _ (.call _ (.call _ (.call _ (.call _ (.call _ (.call _ (.done _))))))))
  have hcached : Runs (HealthRequest.program 0 .getHealth) cachedCalls
      (.ok (some ⟨1, emptyReport⟩)) :=
    .call _ (.call _ (.call _ (.call _ (.done _))))
  -- the first thread collects while the second invalidates, so its report is not published
  have hstart : Follows (fun s x s' => HealthService.Step 30 s (0 : Nat) x s')
      (HealthService.fresh 0) outdatedStart (sweeping 0) :=
    .cons (.lockCollection rfl) (.cons (.readClock (le_refl _)) (.cons (.checkCache _ _ _)
      (.cons (.startCollection _ _) (.cons (.finishCollection _ _ _ _) (.nil _)))))
  have hdrop : Follows (fun s x s' => HealthService.Step 30 s (1 : Nat) x s')
      (sweeping 0) invalidateCalls (sweeping 1) :=
    .cons (.invalidate _ _) (.nil _)
  have hend : Follows (fun s x s' => HealthService.Step 30 s (0 : Nat) x s')
      (sweeping 1) outdatedEnd dropped :=
    .cons (.rememberSuccesses _ _ _) (.cons (.outdated (by decide))
      (.cons (.unlockCollection rfl) (.nil _)))
  -- a third one collects anew and publishes
  have hsecond : Follows (fun s x s' => HealthService.Step 30 s (2 : Nat) x s')
      dropped sweepCalls (filled none 2) :=
    .cons (.lockCollection rfl) (.cons (.readClock (by decide +kernel)) (.cons (.checkCache _ _ _)
      (.cons (.startCollection _ _) (.cons (.finishCollection _ _ _ _)
        (.cons (.rememberSuccesses _ _ _) (.cons (.published rfl (by decide +kernel))
          (.cons (.unlockCollection rfl) (.nil _))))))))
  -- and the first is then served that snapshot from the cache
  have hserved : HealthService.Step 30 (filled (some (0, 0)) 3) 0
      ⟨.checkCache 3, Lookup.cached ⟨1, emptyReport⟩⟩ (filled (some (0, 0)) 3) := by
    have hlookup : HealthService.lookup 30 3 (filled (some (0, 0)) 3) =
        .cached ⟨1, emptyReport⟩ := if_pos (by decide +kernel)
    rw [← hlookup]
    exact .checkCache _ _ _
  have hthird : Follows (fun s x s' => HealthService.Step 30 s (0 : Nat) x s')
      (filled none 2) cachedCalls (filled none 3) :=
    .cons (.lockCollection rfl) (.cons (.readClock (by decide +kernel))
      (.cons hserved (.cons (.unlockCollection rfl) (.nil _))))
  exact single_flight 0 30 (trail_append.mpr
    ⟨_, Pool.trail_around hsweep (.nil _)
        (fun _ => Pool.trail_around houtdated hstart
          (fun _ => Pool.trail_alone hinvalidate hdrop rfl) hend rfl) hsecond rfl,
      Pool.trail_alone hcached hthird rfl⟩)

end Aurora.Dashboard
