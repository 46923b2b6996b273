/-
  Threads that run programs over one shared state.

  Every thread serves requests one after the other; a request runs its program, and any thread may
  make the next call.  `Pool.Step` is one such move.  A `Watch` puts a monitor behind every request:
  `Watch.Step` keeps of each thread only where its monitor is, and every run of the pool is a run of
  the watch (`Watch.follows`).  What holds along the watch is shown by one invariant over the shared
  state and the monitors (`Trail.invariant`).
-/
import Mathlib.Logic.Function.Basic
import Aurora.Lib.Monitor

namespace Aurora

/-! ## Labelled runs -/

section Trails

variable {S E : Type} {step : S → E → S → Prop} {s s' : S}

/-- Steps from one state to another, with their labels. -/
inductive Trail (step : S → E → S → Prop) : S → List E → S → Prop
  | nil (s : S) : Trail step s [] s
  | cons {s m s' : S} {e : E} {es : List E} (h : step s e m) (rest : Trail step m es s') :
    Trail step s (e :: es) s'

@[simp] theorem trail_nil : Trail step s [] s' ↔ s' = s := by
  constructor
  · intro h
    cases h
    rfl
  · rintro rfl
    exact .nil _

theorem trail_cons {e : E} {es : List E} :
    Trail step s (e :: es) s' ↔ ∃ m, step s e m ∧ Trail step m es s' := by
  constructor
  · intro h
    cases h with
    | cons h rest => exact ⟨_, h, rest⟩
  · rintro ⟨m, h, rest⟩
    exact .cons h rest

theorem trail_append {es es' : List E} :
    Trail step s (es ++ es') s' ↔ ∃ m, Trail step s es m ∧ Trail step m es' s' := by
  induction es generalizing s with
  | nil => simp
  | cons e es ih =>
    simp only [List.cons_append, trail_cons, ih]
    constructor
    · rintro ⟨m, he, n, hes, hes'⟩
      exact ⟨n, ⟨m, he, hes⟩, hes'⟩
    · rintro ⟨n, ⟨m, he, hes⟩, hes'⟩
      exact ⟨m, he, n, hes, hes'⟩

/-- An invariant of the steps and of what happened so far holds at the end of a run. -/
theorem Trail.invariant {Inv : List E → S → Prop} {before es : List E}
    (hstep : ∀ es s e s', Inv es s → step s e s' → Inv (es ++ [e]) s') (hs : Inv before s)
    (h : Trail step s es s') : Inv (before ++ es) s' := by
  induction h generalizing before with
  | nil => rwa [List.append_nil]
  | cons he _ ih =>
    have hrest := ih (hstep _ _ _ _ hs he)
    rwa [List.append_assoc] at hrest

end Trails

/-! ## Pools of threads -/

/-- What happens in a pool: a thread takes a request, makes a call, or finishes. -/
inductive Move (Tid Request : Type) (I : Interface) (ε α : Type)
  | begins (t : Tid) (request : Request)
  | calls (t : Tid) (request : Request) (x : Exchange I)
  | ends (t : Tid) (request : Request) (result : Except ε α)

/-- Whose move it is. -/
def Move.thread {Tid Request : Type} {I : Interface} {ε α : Type} :
    Move Tid Request I ε α → Tid
  | .begins t _ => t
  | .calls t _ _ => t
  | .ends t _ _ => t

/-- The shared state, and what is left of the request each thread serves. -/
structure Pool (Tid Request : Type) (I : Interface) (ε α σ : Type) where
  shared : σ
  task : Tid → Option (Request × Program I ε α)

variable {Tid Request ε α σ M : Type} {I : Interface} [DecidableEq Tid]
  {program : Request → Program I ε α} {env : σ → Tid → Exchange I → σ → Prop}

/-- What a slot holds after one slot was changed. -/
theorem update_eq_some {β : Type} {f : Tid → Option β} {t u : Tid} {slot : Option β} {b : β}
    (h : Function.update f t slot u = some b) :
    (u = t ∧ slot = some b) ∨ (u ≠ t ∧ f u = some b) := by
  by_cases hu : u = t
  · subst hu
    rw [Function.update_self] at h
    exact .inl ⟨rfl, h⟩
  · rw [Function.update_of_ne hu] at h
    exact .inr ⟨hu, h⟩

namespace Pool

/-- Every thread idle. -/
def idle (shared : σ) : Pool Tid Request I ε α σ := ⟨shared, fun _ => none⟩

/-- One move of one thread; the environment answers the calls. -/
inductive Step (program : Request → Program I ε α) (env : σ → Tid → Exchange I → σ → Prop) :
    Pool Tid Request I ε α σ → Move Tid Request I ε α → Pool Tid Request I ε α σ → Prop
  | begins {p : Pool Tid Request I ε α σ} {t : Tid} {r : Request} (h : p.task t = none) :
    Step program env p (.begins t r)
      ⟨p.shared, Function.update p.task t (some (r, program r))⟩
  | calls {p : Pool Tid Request I ε α σ} {t : Tid} {r : Request} {c : I.Call}
      {next : I.Answer c → Program I ε α} {answer : I.Answer c} {shared : σ}
      (h : p.task t = some (r, .call c next)) (he : env p.shared t ⟨c, answer⟩ shared) :
    Step program env p (.calls t r ⟨c, answer⟩)
      ⟨shared, Function.update p.task t (some (r, next answer))⟩
  | returns {p : Pool Tid Request I ε α σ} {t : Tid} {r : Request} {a : α}
      (h : p.task t = some (r, .done a)) :
    Step program env p (.ends t r (.ok a)) ⟨p.shared, Function.update p.task t none⟩
  | raises {p : Pool Tid Request I ε α σ} {t : Tid} {r : Request} {e : ε}
      (h : p.task t = some (r, .raise e)) :
    Step program env p (.ends t r (.error e)) ⟨p.shared, Function.update p.task t none⟩

/-- A thread that makes its calls without interruption. -/
theorem trail_calls {p : Pool Tid Request I ε α σ} {t : Tid} {r : Request}
    {rest : Program I ε α} {xs : List (Exchange I)} {result : Except ε α} {shared : σ}
    (hruns : Program.Runs rest xs result)
    (hfollows : Program.Follows (fun s x s' => env s t x s') p.shared xs shared)
    (hbusy : p.task t = some (r, rest)) :
    Trail (Step program env) p (xs.map (.calls t r ·) ++ [.ends t r result])
      ⟨shared, Function.update p.task t none⟩ := by
  induction hruns generalizing p with
  | done a =>
    obtain rfl := Program.follows_nil.mp hfollows
    exact .cons (.returns hbusy) (.nil _)
  | raise e =>
    obtain rfl := Program.follows_nil.mp hfollows
    exact .cons (.raises hbusy) (.nil _)
  | @call c next xs result answer hrest ih =>
    obtain ⟨m, hm, hfollows⟩ := Program.follows_cons.mp hfollows
    refine .cons (.calls hbusy hm) ?_
    have hlast : Trail (Step program env)
        ⟨m, Function.update p.task t (some (r, next answer))⟩ _ _ :=
      ih hfollows (Function.update_self ..)
    rwa [Function.update_idem] at hlast

/-- An idle thread serves a request without interruption. -/
theorem trail_alone {p : Pool Tid Request I ε α σ} {t : Tid} {r : Request}
    {xs : List (Exchange I)} {result : Except ε α} {shared : σ}
    (hruns : Program.Runs (program r) xs result)
    (hfollows : Program.Follows (fun s x s' => env s t x s') p.shared xs shared)
    (hidle : p.task t = none) :
    Trail (Step program env) p
      (.begins t r :: (xs.map (.calls t r ·) ++ [.ends t r result])) ⟨shared, p.task⟩ := by
  refine .cons (.begins hidle) ?_
  have hcalls : Trail (Step program env)
      ⟨p.shared, Function.update p.task t (some (r, program r))⟩ _ _ :=
    trail_calls hruns hfollows (Function.update_self ..)
  have hnone : Function.update p.task t none = p.task := hidle ▸ Function.update_eq_self ..
  rwa [Function.update_idem, hnone] at hcalls

/-- A thread that makes some of its calls, with what is left of its request. -/
theorem trail_calls_append {p : Pool Tid Request I ε α σ} {t : Tid} {r : Request}
    {rest : Program I ε α} {xs ys : List (Exchange I)} {result : Except ε α} {shared : σ}
    (hruns : Program.Runs rest (xs ++ ys) result)
    (hfollows : Program.Follows (fun s x s' => env s t x s') p.shared xs shared)
    (hbusy : p.task t = some (r, rest)) :
    ∃ rest', Program.Runs rest' ys result ∧ Trail (Step program env) p (xs.map (.calls t r ·))
      ⟨shared, Function.update p.task t (some (r, rest'))⟩ := by
  induction xs generalizing p rest with
  | nil =>
    obtain rfl := Program.follows_nil.mp hfollows
    have hsame : Function.update p.task t (some (r, rest)) = p.task :=
      hbusy ▸ Function.update_eq_self ..
    refine ⟨rest, hruns, ?_⟩
    rw [hsame]
    exact .nil _
  | cons x xs ih =>
    cases hruns with
    | @call c next _ _ answer hrest =>
      obtain ⟨m, hm, hfollows⟩ := Program.follows_cons.mp hfollows
      have hlater : ∃ rest', Program.Runs rest' ys result ∧
          Trail (Step program env) ⟨m, Function.update p.task t (some (r, next answer))⟩ _ _ :=
        ih hrest hfollows (Function.update_self ..)
      obtain ⟨rest', hrest', hlast⟩ := hlater
      rw [Function.update_idem] at hlast
      exact ⟨rest', hrest', .cons (.calls hbusy hm) hlast⟩

/-- An idle thread serves a request, and pauses once while others move. -/
theorem trail_around {p : Pool Tid Request I ε α σ} {t : Tid} {r : Request}
    {xs ys : List (Exchange I)} {result : Except ε α} {shared shared' shared'' : σ}
    {es : List (Move Tid Request I ε α)}
    (hruns : Program.Runs (program r) (xs ++ ys) result)
    (hbefore : Program.Follows (fun s x s' => env s t x s') p.shared xs shared)
    (hothers : ∀ slot, Trail (Step program env) ⟨shared, Function.update p.task t slot⟩ es
      ⟨shared', Function.update p.task t slot⟩)
    (hafter : Program.Follows (fun s x s' => env s t x s') shared' ys shared'')
    (hidle : p.task t = none) :
    Trail (Step program env) p
      (.begins t r :: (xs.map (.calls t r ·) ++ (es ++
        (ys.map (.calls t r ·) ++ [.ends t r result])))) ⟨shared'', p.task⟩ := by
  have hfirst : ∃ rest', Program.Runs rest' ys result ∧ Trail (Step program env)
      ⟨p.shared, Function.update p.task t (some (r, program r))⟩ _ _ :=
    trail_calls_append hruns hbefore (Function.update_self ..)
  obtain ⟨rest', hrest, hfirst⟩ := hfirst
  rw [Function.update_idem] at hfirst
  have hlast : Trail (Step program env)
      ⟨shared', Function.update p.task t (some (r, rest'))⟩ _ _ :=
    trail_calls hrest hafter (Function.update_self ..)
  have hnone : Function.update p.task t none = p.task := hidle ▸ Function.update_eq_self ..
  rw [Function.update_idem, hnone] at hlast
  exact .cons (.begins hidle) (trail_append.mpr ⟨_, hfirst, trail_append.mpr ⟨_, hothers _, hlast⟩⟩)

end Pool

/-! ## The calls of one request -/

/-- What a thread exchanges in a move. -/
def Move.exchange? (t : Tid) : Move Tid Request I ε α → Option (Exchange I)
  | .calls u _ x => if u = t then some x else none
  | _ => none

/-- What a thread exchanges in a run. -/
def callsOf (t : Tid) (moves : List (Move Tid Request I ε α)) : List (Exchange I) :=
  moves.filterMap (Move.exchange? t)

theorem callsOf_cons_self {t : Tid} {r : Request} {x : Exchange I}
    {moves : List (Move Tid Request I ε α)} :
    callsOf t (.calls t r x :: moves) = x :: callsOf t moves :=
  List.filterMap_cons_some (if_pos rfl)

theorem callsOf_cons_other {t : Tid} {move : Move Tid Request I ε α}
    {moves : List (Move Tid Request I ε α)} (h : move.thread ≠ t) :
    callsOf t (move :: moves) = callsOf t moves := by
  refine List.filterMap_cons_none ?_
  cases move with
  | begins => rfl
  | ends => rfl
  | calls u r x => exact if_neg h

theorem callsOf_append {t : Tid} {moves moves' : List (Move Tid Request I ε α)} :
    callsOf t (moves ++ moves') = callsOf t moves ++ callsOf t moves' := List.filterMap_append

/-- A thread's calls are its moves that call. -/
theorem mem_callsOf {t : Tid} {x : Exchange I} {moves : List (Move Tid Request I ε α)} :
    x ∈ callsOf t moves ↔ ∃ r, .calls t r x ∈ moves := by
  unfold callsOf
  rw [List.mem_filterMap]
  constructor
  · rintro ⟨move, hmove, hx⟩
    cases move with
    | begins => cases hx
    | ends => cases hx
    | calls u r y =>
      obtain ⟨rfl, hy⟩ := Option.ite_none_right_eq_some.mp hx
      obtain rfl := Option.some.inj hy
      exact ⟨r, hmove⟩
  · rintro ⟨r, hmove⟩
    exact ⟨_, hmove, if_pos rfl⟩

namespace Pool

variable {p p' : Pool Tid Request I ε α σ} {moves : List (Move Tid Request I ε α)}
  {move : Move Tid Request I ε α} {t : Tid} {r : Request} {rest : Program I ε α}

/-- A step leaves the other threads' tasks alone. -/
theorem Step.task_other (h : Step program env p move p') (ht : move.thread ≠ t) :
    p'.task t = p.task t := by
  cases h with
  | begins => exact Function.update_of_ne (Ne.symm ht) ..
  | calls => exact Function.update_of_ne (Ne.symm ht) ..
  | returns => exact Function.update_of_ne (Ne.symm ht) ..
  | raises => exact Function.update_of_ne (Ne.symm ht) ..

/-- A thread that is not done goes on with its request. -/
theorem goes_on (h : Trail (Step program env) p moves p') (hbusy : p.task t = some (r, rest))
    (hmoves : ∀ r result, .ends t r result ∉ moves) :
    ∃ rest', p'.task t = some (r, rest') ∧
      (∀ xs, Program.Begins rest' xs → Program.Begins rest (callsOf t moves ++ xs)) ∧
      ∀ xs result, Program.Runs rest' xs result →
        Program.Runs rest (callsOf t moves ++ xs) result := by
  induction h generalizing rest with
  | nil => exact ⟨rest, hbusy, fun _ h => h, fun _ _ h => h⟩
  | @cons p m p' e es hstep _ ih =>
    have hrest : ∀ r result, .ends t r result ∉ es :=
      fun r result hmem => hmoves r result (List.mem_cons_of_mem _ hmem)
    by_cases hother : e.thread ≠ t
    · rw [callsOf_cons_other hother]
      exact ih ((hstep.task_other hother).trans hbusy) hrest
    · obtain rfl : e.thread = t := not_not.mp hother
      cases hstep with
      | begins hidle =>
        rw [Move.thread, hidle] at hbusy
        cases hbusy
      | @calls t r' c next answer shared hu he =>
        rw [Move.thread, hu] at hbusy
        obtain ⟨rfl, rfl⟩ := Prod.mk.inj (Option.some.inj hbusy)
        obtain ⟨rest', htask, hbegins, hruns⟩ := ih (Function.update_self ..) hrest
        refine ⟨rest', htask, fun xs hxs => ?_, fun xs result hxs => ?_⟩
        · rw [Move.thread, callsOf_cons_self]
          exact .call answer (hbegins xs hxs)
        · rw [Move.thread, callsOf_cons_self]
          exact .call answer (hruns xs result hxs)
      | returns => exact absurd List.mem_cons_self (hmoves _ _)
      | raises => exact absurd List.mem_cons_self (hmoves _ _)

/-- A thread that is not done calls for the request it serves. -/
theorem same_request {r' : Request} {x : Exchange I} (h : Trail (Step program env) p moves p')
    (hbusy : p.task t = some (r, rest)) (hmoves : ∀ r result, .ends t r result ∉ moves)
    (hcall : .calls t r' x ∈ moves) : r' = r := by
  obtain ⟨before, after, rfl⟩ := List.append_of_mem hcall
  obtain ⟨m, hbefore, h⟩ := trail_append.mp h
  obtain ⟨n, hstep, -⟩ := trail_cons.mp h
  obtain ⟨rest', htask, -, -⟩ := goes_on hbefore hbusy fun r result hmem =>
    hmoves r result (List.mem_append_left _ hmem)
  cases hstep with
  | calls hbusy' =>
    rw [htask] at hbusy'
    exact (Prod.mk.inj (Option.some.inj hbusy')).1.symm

variable {shared : σ} {before mid after : List (Move Tid Request I ε α)}

/-- What a thread exchanges for a request is the beginning of a run of its program. -/
theorem request_begins
    (h : Trail (Step program env) (Pool.idle shared) (before ++ .begins t r :: mid) p)
    (hmid : ∀ r result, .ends t r result ∉ mid) : Program.Begins (program r) (callsOf t mid) := by
  obtain ⟨m, -, h⟩ := trail_append.mp h
  obtain ⟨n, hbegins, h⟩ := trail_cons.mp h
  cases hbegins with
  | begins hidle =>
    obtain ⟨rest', -, hbegins, -⟩ := goes_on h (Function.update_self ..) hmid
    have hall := hbegins [] (.nil _)
    rwa [List.append_nil] at hall

/-- A busy thread took its request and has not finished since. -/
theorem begun (h : Trail (Step program env) (Pool.idle shared) moves p) :
    ∀ t r rest, p.task t = some (r, rest) →
      ∃ before mid, moves = before ++ .begins t r :: mid ∧ ∀ r result, .ends t r result ∉ mid := by
  have hmore : ∀ {es : List (Move Tid Request I ε α)} {e u r},
      (∃ before mid, es = before ++ .begins u r :: mid ∧ ∀ r result, .ends u r result ∉ mid) →
      (∀ r result, .ends u r result ≠ e) → ∃ before mid,
        es ++ [e] = before ++ .begins u r :: mid ∧ ∀ r result, .ends u r result ∉ mid := by
    rintro es e u r ⟨before, mid, rfl, hmid⟩ he
    refine ⟨before, mid ++ [e], by simp, fun r result hmem => ?_⟩
    rcases List.mem_append.mp hmem with hmem | hmem
    · exact hmid r result hmem
    · exact he r result (List.mem_singleton.mp hmem)
  refine @Trail.invariant _ _ _ _ _ (fun es p => ∀ t r rest, p.task t = some (r, rest) →
    ∃ before mid, es = before ++ .begins t r :: mid ∧ ∀ r result, .ends t r result ∉ mid) [] moves
    ?_ (fun _ _ _ hidle => by cases hidle) h
  intro es p e p' ih hstep u r' rest hu
  cases hstep with
  | begins =>
    rcases update_eq_some hu with ⟨rfl, hslot⟩ | ⟨-, hu⟩
    · obtain ⟨rfl, -⟩ := Prod.mk.inj (Option.some.inj hslot)
      exact ⟨es, [], rfl, fun _ _ => List.not_mem_nil⟩
    · exact hmore (ih u r' rest hu) fun _ _ he => by cases he
  | calls hbusy =>
    rcases update_eq_some hu with ⟨rfl, hslot⟩ | ⟨-, hu⟩
    · obtain ⟨rfl, -⟩ := Prod.mk.inj (Option.some.inj hslot)
      exact hmore (ih u _ _ hbusy) fun _ _ he => by cases he
    · exact hmore (ih u r' rest hu) fun _ _ he => by cases he
  | returns =>
    rcases update_eq_some hu with ⟨rfl, hslot⟩ | ⟨hne, hu⟩
    · cases hslot
    · exact hmore (ih u r' rest hu) fun _ _ he => by cases he; exact hne rfl
  | raises =>
    rcases update_eq_some hu with ⟨rfl, hslot⟩ | ⟨hne, hu⟩
    · cases hslot
    · exact hmore (ih u r' rest hu) fun _ _ he => by cases he; exact hne rfl

/-- A call belongs to a request that was taken, and continues what was exchanged for it. -/
theorem call_begun {x : Exchange I}
    (h : Trail (Step program env) (Pool.idle shared) (before ++ .calls t r x :: after) p) :
    ∃ pre mid, before = pre ++ .begins t r :: mid ∧ (∀ r result, .ends t r result ∉ mid) ∧
      Program.Begins (program r) (callsOf t mid ++ [x]) := by
  rw [← List.singleton_append, ← List.append_assoc] at h
  obtain ⟨m, h, -⟩ := trail_append.mp h
  obtain ⟨n, hbefore, hcall⟩ := trail_append.mp h
  obtain ⟨_, hstep, -⟩ := trail_cons.mp hcall
  cases hstep with
  | calls hbusy he =>
    obtain ⟨pre, mid, rfl, hmid⟩ := begun hbefore t r _ hbusy
    refine ⟨pre, mid, rfl, hmid, ?_⟩
    rw [List.append_assoc, List.cons_append] at h
    have hbegins := request_begins h fun r result hmem => by
      rcases List.mem_append.mp hmem with hmem | hmem
      · exact hmid r result hmem
      · cases List.mem_singleton.mp hmem
    rwa [callsOf_append, callsOf_cons_self] at hbegins

/-- What a thread exchanges for a request that is over is a run of its program. -/
theorem request_runs {r' : Request} {result : Except ε α}
    (h : Trail (Step program env) (Pool.idle shared)
      (before ++ .begins t r :: (mid ++ .ends t r' result :: after)) p)
    (hmid : ∀ r result, .ends t r result ∉ mid) :
    Program.Runs (program r) (callsOf t mid) result := by
  obtain ⟨m, -, h⟩ := trail_append.mp h
  obtain ⟨n, hbegins, h⟩ := trail_cons.mp h
  obtain ⟨k, hrun, h⟩ := trail_append.mp h
  obtain ⟨l, hends, -⟩ := trail_cons.mp h
  cases hbegins with
  | begins hidle =>
    obtain ⟨rest', htask, -, hruns⟩ := goes_on hrun (Function.update_self ..) hmid
    rw [← List.append_nil (callsOf t mid)]
    refine hruns [] result ?_
    cases hends with
    | returns hdone =>
      rw [htask] at hdone
      obtain ⟨rfl, rfl⟩ := Prod.mk.inj (Option.some.inj hdone)
      exact .done _
    | raises hraise =>
      rw [htask] at hraise
      obtain ⟨rfl, rfl⟩ := Prod.mk.inj (Option.some.inj hraise)
      exact .raise _

end Pool

/-! ## Watched pools -/

/-- A monitor for every request, which the request's program passes. -/
structure Watch (program : Request → Program I ε α) (M : Type) where
  next : M → Exchange I → Option M
  init : Request → M
  final : Request → Except ε α → M → Prop
  passes : ∀ r, (program r).Passes next (init r) (final r)

/-- The shared state, and where the monitor of each thread's request is. -/
structure Watched (Tid Request σ M : Type) where
  shared : σ
  seen : Tid → Option (Request × M)

/-- The same state with every monitor seen through `f`. -/
def Watched.coarsen {N : Type} (f : M → N) (s : Watched Tid Request σ M) :
    Watched Tid Request σ N where
  shared := s.shared
  seen t := (s.seen t).map (Prod.map id f)

/-- Coarsening what is seen of one thread. -/
theorem Watched.coarsen_update {N : Type} (f : M → N) (s : Watched Tid Request σ M) (t : Tid)
    (shared : σ) (seen : Option (Request × M)) :
    (⟨shared, Function.update s.seen t seen⟩ : Watched Tid Request σ M).coarsen f =
      ⟨shared, Function.update (s.coarsen f).seen t (seen.map (Prod.map id f))⟩ := by
  unfold Watched.coarsen
  congr 1
  funext u
  dsimp only
  by_cases hu : u = t
  · subst hu
    rw [Function.update_self, Function.update_self]
  · rw [Function.update_of_ne hu, Function.update_of_ne hu]

namespace Watch

variable {w : Watch program M}

/-- No thread serves a request. -/
def start (shared : σ) : Watched Tid Request σ M := ⟨shared, fun _ => none⟩

/-- One move, as the monitors see it. -/
inductive Step (w : Watch program M) (env : σ → Tid → Exchange I → σ → Prop) :
    Watched Tid Request σ M → Move Tid Request I ε α → Watched Tid Request σ M → Prop
  | begins {s : Watched Tid Request σ M} {t : Tid} {r : Request} (h : s.seen t = none) :
    Step w env s (.begins t r) ⟨s.shared, Function.update s.seen t (some (r, w.init r))⟩
  | calls {s : Watched Tid Request σ M} {t : Tid} {r : Request} {m m' : M} {x : Exchange I}
      {shared : σ} (h : s.seen t = some (r, m)) (hm : w.next m x = some m')
      (he : env s.shared t x shared) :
    Step w env s (.calls t r x) ⟨shared, Function.update s.seen t (some (r, m'))⟩
  | ends {s : Watched Tid Request σ M} {t : Tid} {r : Request} {m : M} {result : Except ε α}
      (h : s.seen t = some (r, m)) (hm : w.final r result m) :
    Step w env s (.ends t r result) ⟨s.shared, Function.update s.seen t none⟩

/-- A move of a watch is a move of every coarser one. -/
theorem Step.coarsen {N : Type} {w' : Watch program N} {f : M → N}
    (hinit : ∀ r, w'.init r = f (w.init r))
    (hnext : ∀ m x m', w.next m x = some m' → w'.next (f m) x = some (f m'))
    (hfinal : ∀ r result m, w.final r result m → w'.final r result (f m))
    {s s' : Watched Tid Request σ M} {move : Move Tid Request I ε α} (h : Step w env s move s') :
    Step w' env (s.coarsen f) move (s'.coarsen f) := by
  have hseen : ∀ {t r m}, s.seen t = some (r, m) → (s.coarsen f).seen t = some (r, f m) := by
    intro t r m hs
    show (s.seen t).map _ = _
    rw [hs]
    rfl
  cases h with
  | @begins t r hidle =>
    rw [Watched.coarsen_update]
    have hnone : (s.coarsen f).seen t = none := by
      show (s.seen t).map _ = _
      rw [hidle]
      rfl
    have hstep : Step w' env (s.coarsen f) (.begins t r) _ := .begins hnone
    rw [hinit] at hstep
    exact hstep
  | calls hs hm he =>
    rw [Watched.coarsen_update]
    exact .calls (hseen hs) (hnext _ _ _ hm) he
  | ends hs hm =>
    rw [Watched.coarsen_update]
    exact .ends (hseen hs) (hfinal _ _ _ hm)

/-- A move leaves the monitors of the other threads alone. -/
theorem Step.seen_other {s s' : Watched Tid Request σ M} {move : Move Tid Request I ε α} {t : Tid}
    (h : Step w env s move s') (ht : move.thread ≠ t) : s'.seen t = s.seen t := by
  cases h with
  | begins => exact Function.update_of_ne (Ne.symm ht) ..
  | calls => exact Function.update_of_ne (Ne.symm ht) ..
  | ends => exact Function.update_of_ne (Ne.symm ht) ..

/-- Where a thread does nothing, what was seen of it stays. -/
theorem seen_of_quiet {s s' : Watched Tid Request σ M} {moves : List (Move Tid Request I ε α)}
    {t : Tid} (h : Trail (Step w env) s moves s') (hquiet : ∀ move ∈ moves, move.thread ≠ t) :
    s'.seen t = s.seen t := by
  induction h with
  | nil => rfl
  | cons hstep _ ih =>
    rw [ih fun move hmem => hquiet move (List.mem_cons_of_mem _ hmem),
      hstep.seen_other (hquiet _ List.mem_cons_self)]

/-- Each thread's monitor passes what is left of its program. -/
structure Agrees (w : Watch program M) (p : Pool Tid Request I ε α σ)
    (s : Watched Tid Request σ M) : Prop where
  shared : s.shared = p.shared
  idle : ∀ t, p.task t = none → s.seen t = none
  busy : ∀ t r rest, p.task t = some (r, rest) →
    ∃ m, s.seen t = some (r, m) ∧ rest.Passes w.next m (w.final r)

omit [DecidableEq Tid] in
theorem agrees_idle (shared : σ) :
    w.Agrees (Pool.idle shared : Pool Tid Request I ε α σ) (start shared) where
  shared := rfl
  idle := fun _ _ => rfl
  busy := by
    intro t r rest h
    cases h

/-- Replacing one thread's task and monitor together keeps the agreement. -/
theorem Agrees.update {p : Pool Tid Request I ε α σ} {s : Watched Tid Request σ M}
    (h : w.Agrees p s) (t : Tid) (shared : σ) {task : Option (Request × Program I ε α)}
    {seen : Option (Request × M)} (hidle : task = none → seen = none)
    (hbusy : ∀ r rest, task = some (r, rest) →
      ∃ m, seen = some (r, m) ∧ rest.Passes w.next m (w.final r)) :
    w.Agrees ⟨shared, Function.update p.task t task⟩
      ⟨shared, Function.update s.seen t seen⟩ where
  shared := rfl
  idle := by
    intro u hu
    by_cases ht : u = t
    · subst ht
      dsimp only at hu ⊢
      rw [Function.update_self] at hu ⊢
      exact hidle hu
    · dsimp only at hu ⊢
      rw [Function.update_of_ne ht] at hu ⊢
      exact h.idle u hu
  busy := by
    intro u r rest hu
    by_cases ht : u = t
    · subst ht
      dsimp only at hu ⊢
      rw [Function.update_self] at hu ⊢
      exact hbusy r rest hu
    · dsimp only at hu ⊢
      rw [Function.update_of_ne ht] at hu ⊢
      exact h.busy u r rest hu

/-- A move of the pool is a move of the watch. -/
theorem Agrees.step {p p' : Pool Tid Request I ε α σ} {s : Watched Tid Request σ M}
    {move : Move Tid Request I ε α} (h : w.Agrees p s) (hstep : Pool.Step program env p move p') :
    ∃ s', Step w env s move s' ∧ w.Agrees p' s' := by
  cases hstep with
  | @begins t r hidle =>
    refine ⟨⟨s.shared, Function.update s.seen t (some (r, w.init r))⟩, .begins (h.idle t hidle), ?_⟩
    rw [h.shared]
    refine h.update t _ (by simp) fun r' rest heq => ?_
    obtain ⟨rfl, rfl⟩ := Prod.mk.inj (Option.some.inj heq)
    exact ⟨_, rfl, w.passes r⟩
  | @calls t r c next answer shared hbusy he =>
    obtain ⟨m, hseen, hpasses⟩ := h.busy t r _ hbusy
    obtain ⟨m', hnext, hrest⟩ := hpasses answer
    refine ⟨⟨shared, Function.update s.seen t (some (r, m'))⟩,
      .calls hseen hnext (h.shared ▸ he), ?_⟩
    refine h.update t _ (by simp) fun r' rest heq => ?_
    obtain ⟨rfl, rfl⟩ := Prod.mk.inj (Option.some.inj heq)
    exact ⟨m', rfl, hrest⟩
  | @returns t r a hbusy =>
    obtain ⟨m, hseen, hpasses⟩ := h.busy t r _ hbusy
    refine ⟨⟨s.shared, Function.update s.seen t none⟩, .ends hseen hpasses, ?_⟩
    rw [h.shared]
    exact h.update t _ (fun _ => rfl) (fun r' rest heq => by cases heq)
  | @raises t r e hbusy =>
    obtain ⟨m, hseen, hpasses⟩ := h.busy t r _ hbusy
    refine ⟨⟨s.shared, Function.update s.seen t none⟩, .ends hseen hpasses, ?_⟩
    rw [h.shared]
    exact h.update t _ (fun _ => rfl) (fun r' rest heq => by cases heq)

/-- By induction on the moves: a watcher agrees with the pool along a run. -/
theorem Agrees.trail {p p' : Pool Tid Request I ε α σ} {s : Watched Tid Request σ M}
    {moves : List (Move Tid Request I ε α)} (h : w.Agrees p s)
    (ht : Trail (Pool.Step program env) p moves p') :
    ∃ s', Trail (Step w env) s moves s' ∧ w.Agrees p' s' := by
  induction ht generalizing s with
  | nil => exact ⟨s, .nil s, h⟩
  | cons hstep _ ih =>
    obtain ⟨m, hm, hagrees⟩ := h.step hstep
    obtain ⟨s', hs', hlast⟩ := ih hagrees
    exact ⟨s', .cons hm hs', hlast⟩

/-- Every run of the pool is a run of the watch. -/
theorem follows (w : Watch program M) {shared : σ} {p : Pool Tid Request I ε α σ}
    {moves : List (Move Tid Request I ε α)}
    (h : Trail (Pool.Step program env) (Pool.idle shared) moves p) :
    ∃ s, Trail (Step w env) (start shared) moves s ∧ w.Agrees p s :=
  (agrees_idle shared).trail h

end Watch

end Aurora
