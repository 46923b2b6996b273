/-
  What a controller does to its components over a whole session.

  The transcript of a session is read by a stack machine: a successful start pushes, a stop attempt
  must be for the component on top and pops it.  The machine is the controller's own stack, so it
  never refuses; what each call may leave on it is `RoundLaw`, and `session_law` carries both through
  any sequence of calls and failures.

  1. **Transcripts** — the stack machine, the first failure, the counts.
  2. **Operations** — one lemma for each loop, by induction on what it goes through.
  3. **Sessions** — the law of all calls.
-/
import Aurora.Hardware.Models
import Aurora.Lib.Monitor
import Aurora.Runtime.Controller

namespace Aurora.Runtime

open Program

variable {κ χ : Type} [DecidableEq κ]

/-! ## Transcripts -/

/-- The components to be stopped, last started first; nothing when a stop is out of order. -/
def stackStep (stack : List κ) (x : RuntimeExchange κ χ) : Option (List κ) :=
  match x.1, (x.2 : Except χ Unit), stack with
  | .start componentId, .ok _, stack => some (componentId :: stack)
  | .start _, .error _, stack => some stack
  | .stop componentId, _, top :: rest => if top = componentId then some rest else none
  | .stop _, _, [] => none

/-- The stack after a transcript. -/
abbrev stackAfter (stack : List κ) (t : List (RuntimeExchange κ χ)) : Option (List κ) :=
  monitored stackStep stack t

/-- The first call of a component that raised, and what it raised. -/
def firstFailure (t : List (RuntimeExchange κ χ)) : Option (RuntimeCall κ × χ) :=
  t.findSome? fun x =>
    match (x.2 : Except χ Unit) with
    | .ok _ => none
    | .error cause => some (x.1, cause)

/-- The component an exchange has started. -/
def startedBy (x : RuntimeExchange κ χ) : Option κ :=
  match x.1, (x.2 : Except χ Unit) with
  | .start componentId, .ok _ => some componentId
  | _, _ => none

/-- The component an exchange has asked to stop. -/
def stoppedBy (x : RuntimeExchange κ χ) : Option κ :=
  match x.1 with
  | .stop componentId => some componentId
  | .start _ => none

/-- The successful starts of a component. -/
def startsOf (componentId : κ) (t : List (RuntimeExchange κ χ)) : Nat :=
  (t.filterMap startedBy).count componentId

/-- The stop attempts of a component. -/
def stopsOf (componentId : κ) (t : List (RuntimeExchange κ χ)) : Nat :=
  (t.filterMap stoppedBy).count componentId

/-- A transcript of stops, one for each of some components. -/
def StopsAll (stack : List κ) (t : List (RuntimeExchange κ χ)) : Prop :=
  t.map Sigma.fst = stack.map RuntimeCall.stop

/-- What one exchange does to the stack. -/
theorem stackStep_count {stack mid : List κ} {x : RuntimeExchange κ χ}
    (h : stackStep stack x = some mid) (componentId : κ) :
    (startedBy x).toList.count componentId + stack.count componentId =
      (stoppedBy x).toList.count componentId + mid.count componentId := by
  obtain ⟨call, answer⟩ := x
  cases call with
  | start started =>
    cases answer with
    | ok u =>
      obtain rfl := Option.some.inj h
      show List.count componentId [started] + _ = 0 + List.count componentId (started :: stack)
      rw [List.count_cons, List.count_cons, List.count_nil]
      omega
    | error cause =>
      obtain rfl := Option.some.inj h
      rfl
  | stop stopped =>
    cases stack with
    | nil => cases h
    | cons top rest =>
      unfold stackStep at h
      dsimp only at h
      split at h
      · rename_i htop
        subst htop
        obtain rfl := Option.some.inj h
        show 0 + List.count componentId (top :: rest) = List.count componentId [top] + _
        rw [List.count_cons, List.count_cons, List.count_nil]
        omega
      · cases h

/-- Starts and stops of a component balance, those still on the stack apart. -/
theorem starts_eq_stops (componentId : κ) {stack after : List κ}
    {t : List (RuntimeExchange κ χ)} (h : stackAfter stack t = some after) :
    startsOf componentId t + stack.count componentId =
      stopsOf componentId t + after.count componentId := by
  induction t generalizing stack with
  | nil =>
    obtain rfl := Option.some.inj h
    rfl
  | cons x t ih =>
    rw [stackAfter, monitored_cons] at h
    obtain ⟨mid, hmid, hrest⟩ := Option.bind_eq_some_iff.mp h
    have hcount := ih hrest
    have hstep := stackStep_count hmid componentId
    unfold startsOf stopsOf at hcount ⊢
    rw [List.filterMap_cons, List.filterMap_cons]
    cases hstarted : startedBy x <;> cases hstopped : stoppedBy x <;>
      rw [hstarted, hstopped] at hstep <;>
      simp only [Option.toList, List.count_cons, List.count_nil] at hstep ⊢ <;> omega

theorem stackAfter_append {stack : List κ} {t t' : List (RuntimeExchange κ χ)} :
    stackAfter stack (t ++ t') = (stackAfter stack t).bind fun mid => stackAfter mid t' :=
  monitored_append

/-- Stopping what is on the stack, in its order, empties it. -/
theorem StopsAll.stackAfter {stack : List κ} {t : List (RuntimeExchange κ χ)}
    (h : StopsAll stack t) : Runtime.stackAfter stack t = some [] := by
  induction stack generalizing t with
  | nil =>
    obtain rfl := List.map_eq_nil_iff.mp h
    rfl
  | cons top rest ih =>
    obtain ⟨x, t', rfl, hcall, hrest⟩ := List.map_eq_cons_iff.mp h
    obtain ⟨call, answer⟩ := x
    obtain rfl : call = .stop top := hcall
    rw [Runtime.stackAfter, monitored_cons]
    have hstep : stackStep (top :: rest) (⟨.stop top, answer⟩ : RuntimeExchange κ χ) = some rest :=
      if_pos rfl
    rw [hstep]
    exact ih hrest

/-! ## Reports -/

/-- What a stop reports: the first of its failures. -/
inductive StopReported (t : List (RuntimeExchange κ χ)) :
    Except (AuroraRuntimeError κ χ) Unit → Prop
  | stopped (h : firstFailure t = none) : StopReported t (.ok ())
  | failed (componentId : κ) (cause : χ) (h : firstFailure t = some (.stop componentId, cause)) :
      StopReported t (.error (.componentShutdown componentId cause))

/-- What a start reports: the failure of a component to start, which comes before those of the
    rollback, or an enabled component that is not injected. -/
inductive StartReported (plan : List (ComponentPlan κ)) (components : List κ)
    (t : List (RuntimeExchange κ χ)) : Except (AuroraRuntimeError κ χ) Unit → Prop
  | started (h : firstFailure t = none) : StartReported plan components t (.ok ())
  | failed (componentId : κ) (cause : χ) (h : firstFailure t = some (.start componentId, cause)) :
      StartReported plan components t (.error (.componentStartup componentId cause))
  | missing {componentId : κ}
      (henabled : ∃ item ∈ plan, item.enabled = true ∧ item.componentId = componentId)
      (hmissing : componentId ∉ components)
      (hstarts : ∀ other cause, (⟨.start other, .error cause⟩ : RuntimeExchange κ χ) ∉ t) :
      StartReported plan components t (.error (.missingComponent componentId))

section StartReported

variable {item : ComponentPlan κ} {rest : List (ComponentPlan κ)} {components : List κ}
  {t : List (RuntimeExchange κ χ)} {result : Except (AuroraRuntimeError κ χ) Unit}

omit [DecidableEq κ] in
/-- A component that is not enabled changes nothing. -/
theorem StartReported.mono (h : StartReported rest components t result) :
    StartReported (item :: rest) components t result := by
  cases h with
  | started h => exact .started h
  | failed componentId cause h => exact .failed componentId cause h
  | missing henabled hmissing hstarts =>
    obtain ⟨found, hmem, henabled⟩ := henabled
    exact .missing ⟨found, List.mem_cons_of_mem _ hmem, henabled⟩ hmissing hstarts

omit [DecidableEq κ] in
/-- A start that succeeded comes before what is reported. -/
theorem StartReported.cons {componentId : κ} {u : Unit}
    (h : StartReported rest components t result) :
    StartReported (item :: rest) components
      ((⟨.start componentId, .ok u⟩ : RuntimeExchange κ χ) :: t) result := by
  refine StartReported.mono ?_
  cases h with
  | started h => exact .started h
  | failed other cause h => exact .failed other cause h
  | missing henabled hmissing hstarts =>
    refine .missing henabled hmissing fun other cause hmem => ?_
    rcases List.mem_cons.mp hmem with heq | hmem
    · cases heq
    · exact hstarts other cause hmem

omit [DecidableEq κ] in
/-- Stopping starts nothing. -/
theorem StopsAll.no_start {stack : List κ} (h : StopsAll stack t) (other : κ) (cause : χ) :
    (⟨.start other, .error cause⟩ : RuntimeExchange κ χ) ∉ t := by
  intro hmem
  have hcall : RuntimeCall.start other ∈ t.map Sigma.fst := List.mem_map.mpr ⟨_, hmem, rfl⟩
  rw [h] at hcall
  obtain ⟨_, -, heq⟩ := List.mem_map.mp hcall
  cases heq

end StartReported

/-! ## Operations -/

omit [DecidableEq κ] in
/-- One call to a component, then what follows it. -/
theorem runs_callComponent_bind {call : RuntimeCall κ} {β : Type}
    {f : Except χ Unit → RuntimeProgram κ χ β} {t : List (RuntimeExchange κ χ)}
    {r : Except Empty β} :
    Runs (callComponent call >>= f) t r ↔
      ∃ answer t', t = (⟨call, answer⟩ : RuntimeExchange κ χ) :: t' ∧ Runs (f answer) t' r :=
  runs_ask_bind (I := RuntimeInterface κ χ)

namespace RuntimeController

/-- Each component is asked to stop, whatever the others did, and the first failure is kept. -/
theorem stopEach_ends {stack : List κ} {lifecycle : Dict κ ComponentLifecycleState}
    {failure : Option (κ × χ)} {t : List (RuntimeExchange κ χ)}
    {r : Except Empty (Dict κ ComponentLifecycleState × Option (κ × χ))}
    (h : Runs (stopEach stack lifecycle failure) t r) :
    StopsAll stack t ∧ ∃ after failed, r = .ok (after, failure.or failed) ∧
      firstFailure t = failed.map fun f => (.stop f.1, f.2) := by
  induction stack generalizing lifecycle failure t with
  | nil =>
    obtain ⟨rfl, rfl⟩ := runs_pure.mp h
    exact ⟨rfl, lifecycle, none, by rw [Option.or_none], rfl⟩
  | cons componentId rest ih =>
    unfold stopEach at h
    replace h := runs_callComponent_bind.mp h
    obtain ⟨answer, t', rfl, h⟩ := h
    cases answer with
    | ok u =>
      obtain ⟨hstops, after, failed, rfl, hfailed⟩ := ih h
      exact ⟨congrArg _ hstops, after, failed, rfl, hfailed⟩
    | error cause =>
      obtain ⟨hstops, after, failed, rfl, hfailed⟩ := ih h
      exact ⟨congrArg _ hstops, after, some (componentId, cause),
        by rw [Option.or_assoc, Option.some_or], rfl⟩

/-- The stack is empty afterwards, and the first failure is the error when it is to be raised. -/
theorem stopStarted_ends {c : RuntimeController κ} {raiseOnFailure : Bool}
    {t : List (RuntimeExchange κ χ)}
    {r : Except Empty (RuntimeController κ × Except (AuroraRuntimeError κ χ) Unit)}
    (h : Runs (c.stopStarted raiseOnFailure) t r) :
    StopsAll c.started t ∧ ∃ c' result, r = .ok (c', result) ∧
      c'.started = [] ∧ c'.plan = c.plan ∧ c'.components = c.components ∧
      (raiseOnFailure = true → StopReported t result) := by
  unfold stopStarted at h
  replace h := runs_bind.mp h
  rcases h with ⟨e, -, -⟩ | ⟨⟨lifecycle, failure⟩, t₁, t₂, rfl, hrun, h⟩
  · exact e.elim
  obtain ⟨hstops, after, failed, heq, hfailed⟩ := stopEach_ends hrun
  rw [Option.none_or] at heq
  obtain ⟨rfl, rfl⟩ := Prod.mk.inj (Except.ok.inj heq)
  dsimp only at h
  cases failure with
  | none =>
    obtain ⟨rfl, rfl⟩ := runs_pure.mp h
    rw [List.append_nil]
    exact ⟨hstops, _, _, rfl, rfl, rfl, rfl, fun _ => .stopped hfailed⟩
  | some f =>
    dsimp only at h
    split at h
    · obtain ⟨rfl, rfl⟩ := runs_pure.mp h
      rw [List.append_nil]
      exact ⟨hstops, _, _, rfl, rfl, rfl, rfl, fun _ => .failed f.1 f.2 hfailed⟩
    · rename_i hquiet
      obtain ⟨rfl, rfl⟩ := runs_pure.mp h
      rw [List.append_nil]
      exact ⟨hstops, _, _, rfl, rfl, rfl, rfl, fun hraise => absurd hraise hquiet⟩

/-- How the loop of a start ends. -/
def StartEnds (items : List (ComponentPlan κ)) (c : RuntimeController κ)
    (t : List (RuntimeExchange κ χ))
    (r : Except Empty (RuntimeController κ × Except (AuroraRuntimeError κ χ) Unit)) : Prop :=
  ∃ c' result, r = .ok (c', result) ∧ stackAfter c.started t = some c'.started ∧
    c'.plan = c.plan ∧ c'.components = c.components ∧
    StartReported items c.components t result ∧ ∀ e, result = .error e → c'.started = []

/-- By induction on the plan: how the start ends. -/
theorem startEach_ends {items : List (ComponentPlan κ)} {c : RuntimeController κ}
    {t : List (RuntimeExchange κ χ)}
    {r : Except Empty (RuntimeController κ × Except (AuroraRuntimeError κ χ) Unit)}
    (h : Runs (startEach items c) t r) : StartEnds items c t r := by
  induction items generalizing c t with
  | nil =>
    obtain ⟨rfl, rfl⟩ := runs_pure.mp h
    exact ⟨c, .ok (), rfl, rfl, rfl, rfl, .started rfl, fun _ heq => nomatch heq⟩
  | cons item rest ih =>
    unfold startEach at h
    split at h
    · rename_i henabled
      split at h
      · replace h := runs_callComponent_bind.mp h
        obtain ⟨answer, t', rfl, h⟩ := h
        -- a component that does not start has the started ones stopped again
        cases answer with
        | ok u =>
          obtain ⟨c', result, rfl, hstack, hplan, hcomponents, hreported, hempty⟩ := ih h
          refine ⟨c', result, rfl, hstack, hplan, hcomponents, ?_, hempty⟩
          exact hreported.cons
        | error cause =>
          replace h := runs_bind.mp h
          rcases h with ⟨e, -, -⟩ | ⟨⟨rolledBack, ended⟩, t₁, t₂, rfl, hrun, h⟩
          · exact e.elim
          obtain ⟨rfl, rfl⟩ := runs_pure.mp h
          obtain ⟨hstops, c', result, heq, hstarted, hplan, hcomponents, -⟩ :=
            stopStarted_ends hrun
          obtain ⟨rfl, rfl⟩ := Prod.mk.inj (Except.ok.inj heq)
          rw [List.append_nil]
          refine ⟨_, _, rfl, ?_, hplan, hcomponents, .failed _ cause rfl, fun _ _ => hstarted⟩
          rw [hstarted]
          exact hstops.stackAfter
      -- an enabled component that is not known ends the start the same way
      · rename_i hmissing
        replace h := runs_bind.mp h
        rcases h with ⟨e, -, -⟩ | ⟨⟨rolledBack, ended⟩, t₁, t₂, rfl, hrun, h⟩
        · exact e.elim
        obtain ⟨rfl, rfl⟩ := runs_pure.mp h
        obtain ⟨hstops, c', result, heq, hstarted, hplan, hcomponents, -⟩ :=
          stopStarted_ends hrun
        obtain ⟨rfl, rfl⟩ := Prod.mk.inj (Except.ok.inj heq)
        rw [List.append_nil]
        refine ⟨_, _, rfl, ?_, hplan, hcomponents,
          .missing ⟨item, List.mem_cons_self, henabled, rfl⟩ hmissing hstops.no_start,
          fun _ _ => hstarted⟩
        rw [hstarted]
        exact hstops.stackAfter
    · obtain ⟨c', result, rfl, hstack, hplan, hcomponents, hreported, hempty⟩ := ih h
      exact ⟨c', result, rfl, hstack, hplan, hcomponents, hreported.mono, hempty⟩

end RuntimeController

/-! ## Sessions -/

/-- What one call does to the components running before it. -/
structure RoundLaw (plan : List (ComponentPlan κ)) (components before : List κ)
    (round : Round κ χ) : Prop where
  /-- A start while components are running does nothing. -/
  again : round.operation = .start → before ≠ [] → round.exchanges = [] ∧ round.result = .ok ()
  started : round.operation = .start → before = [] →
    StartReported plan components round.exchanges round.result
  /-- Every running component is asked to stop, last started first, whichever of them fail. -/
  stopped : round.operation = .stop → StopsAll before round.exchanges
  stopReported : round.operation = .stop → StopReported round.exchanges round.result
  /-- A stop after which nothing was started does nothing. -/
  stopAgain : round.operation = .stop → before = [] →
    round.exchanges = [] ∧ round.result = .ok ()
  /-- Nothing is left running by a stop, or by a start that raises. -/
  emptied : (round.operation = .stop ∨ ∃ e, round.result = .error e) →
    stackAfter before round.exchanges = some []

omit [DecidableEq κ] in
theorem StopsAll.of_nil {t : List (RuntimeExchange κ χ)}
    {result : Except (AuroraRuntimeError κ χ) Unit} (h : StopsAll [] t)
    (hreported : StopReported t result) : t = [] ∧ result = .ok () := by
  obtain rfl := List.map_eq_nil_iff.mp h
  cases hreported with
  | stopped _ => exact ⟨rfl, rfl⟩
  | failed _ _ hfailed => cases hfailed

namespace RuntimeController

/-- A call keeps to the law, and the controller's stack is that of the transcript. -/
theorem perform_ends {c c' : RuntimeController κ} {operation : Operation}
    {t : List (RuntimeExchange κ χ)} {result : Except (AuroraRuntimeError κ χ) Unit}
    (h : Runs (c.perform operation) t (.ok (c', result))) :
    RoundLaw c.plan c.components c.started ⟨operation, t, result⟩ ∧
      stackAfter c.started t = some c'.started ∧ c'.plan = c.plan ∧
      c'.components = c.components := by
  -- the clauses of the law about the other operation are void
  cases operation with
  | stop =>
    obtain ⟨hstops, _, _, heq, hstarted, hplan, hcomponents, hreported⟩ := stopStarted_ends h
    obtain ⟨rfl, rfl⟩ := Prod.mk.inj (Except.ok.inj heq)
    replace hreported := hreported rfl
    refine ⟨?_, ?_, hplan, hcomponents⟩
    · constructor
      case again | started =>
        intro hstart
        cases hstart
      case stopped => exact fun _ => hstops
      case stopReported => exact fun _ => hreported
      case stopAgain =>
        intro _ hnil
        rw [hnil] at hstops
        exact hstops.of_nil hreported
      case emptied => exact fun _ => hstops.stackAfter
    · rw [hstarted]
      exact hstops.stackAfter
  | start =>
    replace h : Runs c.start t (.ok (c', result)) := h
    unfold start at h
    split at h
    -- nothing runs: the components are started in order
    · rename_i hnil
      obtain ⟨_, _, heq, hstack, hplan, hcomponents, hreported, hempty⟩ := startEach_ends h
      obtain ⟨rfl, rfl⟩ := Prod.mk.inj (Except.ok.inj heq)
      refine ⟨?_, hstack, hplan, hcomponents⟩
      constructor
      case again => exact fun _ hrunning => absurd hnil hrunning
      case started => exact fun _ _ => hreported
      case stopped | stopReported | stopAgain =>
        intro hstop
        cases hstop
      case emptied =>
        rintro (hstop | ⟨e, hraised⟩)
        · cases hstop
        · rw [← hempty e hraised]
          exact hstack
    -- a second start returns at once
    · rename_i hrunning
      obtain ⟨rfl, heq⟩ := runs_pure.mp h
      obtain ⟨rfl, rfl⟩ := Prod.mk.inj (Except.ok.inj heq)
      refine ⟨?_, rfl, rfl, rfl⟩
      constructor
      case again => exact fun _ _ => ⟨rfl, rfl⟩
      case started => exact fun _ hnil => absurd hnil hrunning
      case stopped | stopReported | stopAgain =>
        intro hstop
        cases hstop
      case emptied =>
        rintro (hstop | ⟨e, hraised⟩)
        · cases hstop
        · cases hraised

/-- The registry holds the components that were given. -/
theorem register_eq {components registered result : List κ}
    (h : register (χ := χ) components registered = .ok result) :
    result = registered ++ components := by
  induction components generalizing registered with
  | nil =>
    obtain rfl := Except.ok.inj h
    exact (List.append_nil _).symm
  | cons component rest ih =>
    unfold register at h
    split at h
    · cases h
    · rw [ih h, List.append_assoc]
      rfl

/-- A controller is created for a plan of distinct components. -/
theorem create_eq {plan : List (ComponentPlan κ)} {components : List κ} {c : RuntimeController κ}
    (h : create (χ := χ) plan components = .ok c) :
    c.plan = plan ∧ c.components = components ∧ c.started = [] := by
  unfold create at h
  cases hregister : register (χ := χ) components [] with
  | error e =>
    rw [hregister] at h
    cases h
  | ok registered =>
    rw [hregister] at h
    obtain rfl := Except.ok.inj h
    exact ⟨rfl, register_eq hregister, rfl⟩

end RuntimeController

/-- What holds of a controller and of all calls made of it. -/
structure SessionLaw (plan : List (ComponentPlan κ)) (components : List κ)
    (rounds : List (Round κ χ)) (c : RuntimeController κ) : Prop where
  /-- Each stop is of the component started last among those still running. -/
  reverse : stackAfter [] (exchangesOf rounds) = some c.started
  /-- Each start has one stop attempt, those of the components still running apart. -/
  once : ∀ componentId, startsOf componentId (exchangesOf rounds) =
    stopsOf componentId (exchangesOf rounds) + c.started.count componentId
  /-- Each call, with what was running before it. -/
  round : ∀ earlier round later, rounds = earlier ++ round :: later →
    ∃ before, stackAfter [] (exchangesOf earlier) = some before ∧
      RoundLaw plan components before round

omit [DecidableEq κ] in
theorem exchangesOf_concat (rounds : List (Round κ χ)) (round : Round κ χ) :
    exchangesOf (rounds ++ [round]) = exchangesOf rounds ++ round.exchanges := by
  unfold exchangesOf
  rw [List.flatMap_append, List.flatMap_singleton]

/-- What is kept from call to call. -/
structure SessionInv (plan : List (ComponentPlan κ)) (components : List κ)
    (rounds : List (Round κ χ)) (c : RuntimeController κ) : Prop where
  plan_eq : c.plan = plan
  components_eq : c.components = components
  reverse : stackAfter [] (exchangesOf rounds) = some c.started
  round : ∀ earlier round later, rounds = earlier ++ round :: later →
    ∃ before, stackAfter [] (exchangesOf earlier) = some before ∧
      RoundLaw plan components before round

theorem Session.inv {plan : List (ComponentPlan κ)} {components : List κ}
    {rounds : List (Round κ χ)} {c : RuntimeController κ}
    (h : Session plan components rounds c) : SessionInv plan components rounds c := by
  induction h with
  | created h =>
    obtain ⟨hplan, hcomponents, hstarted⟩ := RuntimeController.create_eq h
    refine ⟨hplan, hcomponents, ?_, ?_⟩
    · rw [hstarted]
      rfl
    · intro earlier round later heq
      exact absurd heq.symm (List.append_ne_nil_of_right_ne_nil _ (List.cons_ne_nil _ _))
  | @call rounds c c' operation t result earlier run ih =>
    obtain ⟨hlaw, hstack, hplan, hcomponents⟩ := RuntimeController.perform_ends run
    rw [ih.plan_eq, ih.components_eq] at hlaw
    refine ⟨hplan.trans ih.plan_eq, hcomponents.trans ih.components_eq, ?_, ?_⟩
    · rw [exchangesOf_concat, stackAfter_append, ih.reverse]
      exact hstack
    · intro before round later heq
      -- the last call is the new one; those before it are those of the session so far
      rcases List.eq_nil_or_concat later with rfl | ⟨between, last, rfl⟩
      · obtain ⟨rfl, hround⟩ := List.append_inj' heq rfl
        obtain rfl := List.singleton_inj.mp hround
        exact ⟨c.started, ih.reverse, hlaw⟩
      · rw [List.concat_eq_append, ← List.cons_append, ← List.append_assoc] at heq
        exact ih.round before round between (List.append_inj' heq rfl).1

theorem session_law {plan : List (ComponentPlan κ)} {components : List κ}
    {rounds : List (Round κ χ)} {c : RuntimeController κ}
    (h : Session plan components rounds c) : SessionLaw plan components rounds c := by
  have hinv := h.inv
  refine ⟨hinv.reverse, ?_, hinv.round⟩
  intro componentId
  have hcount := starts_eq_stops componentId hinv.reverse
  rwa [List.count_nil, Nat.add_zero] at hcount

/-- Components of which one does not start and another does not stop. -/
def refusing : Unit → (c : (RuntimeInterface Hardware.ComponentId String).Call) →
    (RuntimeInterface Hardware.ComponentId String).Answer c × Unit
  | _, .start .wled => (.error "refused", ())
  | _, .stop .hyperhdr => (.error "timeout", ())
  | _, _ => (.ok (), ())

/-- A session in which the second component fails to start, the rollback fails too, and a stop
    follows. -/
theorem session_law_rollback :
    let plan : List (ComponentPlan Hardware.ComponentId) :=
      [⟨.hyperhdr, true, .created⟩, ⟨.wled, true, .created⟩]
    let components : List Hardware.ComponentId := [.hyperhdr, .wled]
    let rounds : List (Round Hardware.ComponentId String) :=
      [⟨.start, [⟨.start .hyperhdr, .ok ()⟩, ⟨.start .wled, .error "refused"⟩,
          ⟨.stop .hyperhdr, .error "timeout"⟩], .error (.componentStartup .wled "refused")⟩,
        ⟨.stop, [], .ok ()⟩]
    ∃ c, Session plan components rounds c ∧ SessionLaw plan components rounds c := by
  intro plan components rounds
  have hcreated : Session (χ := String) plan components [] _ := .created rfl
  have hstarted : Session plan components [rounds.head (List.cons_ne_nil _ _)] _ :=
    hcreated.call .start (runs_trace refusing _ ())
  have hstopped : Session plan components rounds _ := hstarted.call .stop (runs_trace refusing _ ())
  exact ⟨_, hstopped, session_law hstopped⟩

end Aurora.Runtime
