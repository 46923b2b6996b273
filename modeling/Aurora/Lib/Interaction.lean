/-
  Programs that call an environment.

  An interface names the calls and the answers each may get.  A program calls, goes on with the answer,
  and ends with a value or an exception.  `Runs` relates a program to the transcripts of its complete
  runs, `Begins` to those of runs cut off anywhere, each of which can go on to a complete one
  (`Begins.extends`).  A run splits at a bind (`runs_bind`), so what is shown of the parts of a program
  composes.  `Follows` puts an environment with a state behind a transcript, and `play` runs a program
  against one that is a function.
-/
import Mathlib.Data.List.Basic

namespace Aurora

/-- Calls, and the answers each call may get. -/
structure Interface where
  Call : Type
  Answer : Call → Type

/-- A program over an interface. -/
inductive Program (I : Interface) (ε α : Type)
  | done (a : α)
  | raise (e : ε)
  | call (c : I.Call) (next : I.Answer c → Program I ε α)

/-- A call with its answer. -/
abbrev Exchange (I : Interface) := (c : I.Call) × I.Answer c

namespace Program

variable {I : Interface} {ε φ α β : Type}

/-- One program behind another one. -/
def bind : Program I ε α → (α → Program I ε β) → Program I ε β
  | done a, f => f a
  | raise e, _ => raise e
  | call c next, f => call c fun answer => (next answer).bind f

instance : Monad (Program I ε) where
  pure := done
  bind := bind

/-- Make one call. -/
def ask (c : I.Call) : Program I ε (I.Answer c) := call c done

/-- Run a program and catch what it raises. -/
def catching : Program I ε α → Program I φ (Except ε α)
  | done a => done (.ok a)
  | raise e => done (.error e)
  | call c next => call c fun answer => (next answer).catching

/-- Serve every call of a program that raises nothing with a program over another interface. -/
def through {J : Interface} (serve : (c : I.Call) → Program J φ (I.Answer c)) :
    Program I Empty α → Program J φ α
  | done a => done a
  | raise e => e.elim
  | call c next => serve c >>= fun answer => (next answer).through serve

/-- Go on with a value, or raise. -/
def ofExcept : Except ε α → Program I ε α
  | .ok a => done a
  | .error e => raise e

/-- Make one call and go on with what its answer stands for. -/
def invoke (c : I.Call) (value : I.Answer c → Except ε α) : Program I ε α :=
  call c fun answer => ofExcept (value answer)

/-! ## Complete runs -/

/-- The program ends with a result after a transcript. -/
inductive Runs : Program I ε α → List (Exchange I) → Except ε α → Prop
  | done (a : α) : Runs (done a) [] (.ok a)
  | raise (e : ε) : Runs (raise e) [] (.error e)
  | call {c : I.Call} {next : I.Answer c → Program I ε α} {t : List (Exchange I)}
      {r : Except ε α} (answer : I.Answer c) (h : Runs (next answer) t r) :
      Runs (call c next) (⟨c, answer⟩ :: t) r

variable {t : List (Exchange I)}

@[simp] theorem runs_pure {a : α} {r : Except ε α} :
    Runs (pure a : Program I ε α) t r ↔ t = [] ∧ r = .ok a := by
  constructor
  · intro h
    cases h
    exact ⟨rfl, rfl⟩
  · rintro ⟨rfl, rfl⟩
    exact .done a

@[simp] theorem runs_raise {e : ε} {r : Except ε α} :
    Runs (raise e : Program I ε α) t r ↔ t = [] ∧ r = .error e := by
  constructor
  · intro h
    cases h
    exact ⟨rfl, rfl⟩
  · rintro ⟨rfl, rfl⟩
    exact .raise e

/-- A call is answered before what follows it runs. -/
theorem runs_call {c : I.Call} {next : I.Answer c → Program I ε α} {r : Except ε α} :
    Runs (call c next) t r ↔ ∃ answer t', t = ⟨c, answer⟩ :: t' ∧ Runs (next answer) t' r := by
  constructor
  · intro h
    cases h with
    | call answer h => exact ⟨answer, _, rfl, h⟩
  · rintro ⟨answer, t', rfl, h⟩
    exact .call answer h

@[simp] theorem runs_ask {c : I.Call} {r : Except ε (I.Answer c)} :
    Runs (ask c) t r ↔ ∃ answer, t = [⟨c, answer⟩] ∧ r = .ok answer := by
  unfold ask
  rw [runs_call]
  constructor
  · rintro ⟨answer, t', rfl, h⟩
    obtain ⟨rfl, rfl⟩ := runs_pure.mp h
    exact ⟨answer, rfl, rfl⟩
  · rintro ⟨answer, rfl, rfl⟩
    exact ⟨answer, [], rfl, .done answer⟩

@[simp] theorem runs_ofExcept {x r : Except ε α} :
    Runs (ofExcept x : Program I ε α) t r ↔ t = [] ∧ r = x := by
  cases x with
  | ok a => exact runs_pure
  | error e => exact runs_raise

/-- A single call whose answer may be an exception. -/
@[simp] theorem runs_invoke {c : I.Call} {value : I.Answer c → Except ε α} {r : Except ε α} :
    Runs (invoke c value) t r ↔ ∃ answer, t = [⟨c, answer⟩] ∧ r = value answer := by
  unfold invoke
  rw [runs_call]
  constructor
  · rintro ⟨answer, t', rfl, h⟩
    obtain ⟨rfl, rfl⟩ := runs_ofExcept.mp h
    exact ⟨answer, rfl, rfl⟩
  · rintro ⟨answer, rfl, rfl⟩
    exact ⟨answer, [], rfl, runs_ofExcept.mpr ⟨rfl, rfl⟩⟩

/-- A run of a bind: a run of the first part that raises, or runs of both parts. -/
theorem runs_bind {x : Program I ε α} {f : α → Program I ε β} {r : Except ε β} :
    Runs (x >>= f) t r ↔ (∃ e, Runs x t (.error e) ∧ r = .error e) ∨
      ∃ a t₁ t₂, t = t₁ ++ t₂ ∧ Runs x t₁ (.ok a) ∧ Runs (f a) t₂ r := by
  show Runs (x.bind f) t r ↔ _
  induction x generalizing t with
  | done a =>
    constructor
    · intro h
      exact .inr ⟨a, [], t, rfl, .done a, h⟩
    · rintro (⟨e, h, rfl⟩ | ⟨b, t₁, t₂, rfl, h, h'⟩)
      · cases h
      · cases h
        exact h'
  | raise e =>
    constructor
    · intro h
      cases h
      exact .inl ⟨e, .raise e, rfl⟩
    · rintro (⟨e', h, rfl⟩ | ⟨b, t₁, t₂, rfl, h, -⟩)
      · cases h
        exact .raise e
      · cases h
  | call c next ih =>
    constructor
    · intro h
      cases h with
      | call answer h =>
        rcases (ih answer).mp h with ⟨e, hx, rfl⟩ | ⟨a, t₁, t₂, rfl, hx, hf⟩
        · exact .inl ⟨e, .call answer hx, rfl⟩
        · exact .inr ⟨a, ⟨c, answer⟩ :: t₁, t₂, rfl, .call answer hx, hf⟩
    · rintro (⟨e, h, rfl⟩ | ⟨a, t₁, t₂, rfl, h, h'⟩)
      · cases h with
        | call answer h => exact .call answer ((ih answer).mpr (.inl ⟨e, h, rfl⟩))
      · cases h with
        | call answer h =>
          exact .call answer ((ih answer).mpr (.inr ⟨a, _, t₂, rfl, h, h'⟩))

/-- A bind that returns is a run of both parts that return. -/
theorem runs_bind_ok {x : Program I ε α} {f : α → Program I ε β} {b : β} :
    Runs (x >>= f) t (.ok b) ↔
      ∃ a t₁ t₂, t = t₁ ++ t₂ ∧ Runs x t₁ (.ok a) ∧ Runs (f a) t₂ (.ok b) := by
  rw [runs_bind]
  exact or_iff_right fun ⟨_, _, hr⟩ => nomatch hr

/-- Where the first part always returns, the rest runs behind it. -/
theorem runs_bind_of_returns {x : Program I ε α} {f : α → Program I ε β} {r : Except ε β}
    {Q : α → List (Exchange I) → Prop} (hx : ∀ {u s}, Runs x u s → ∃ a, s = .ok a ∧ Q a u)
    (h : Runs (x >>= f) t r) : ∃ a t₁ t₂, t = t₁ ++ t₂ ∧ Q a t₁ ∧ Runs (f a) t₂ r := by
  obtain ⟨e, hraised, -⟩ | ⟨a, t₁, t₂, rfl, hreturned, hrest⟩ := runs_bind.mp h
  · obtain ⟨_, hok, -⟩ := hx hraised
    cases hok
  · obtain ⟨_, hok, hq⟩ := hx hreturned
    obtain rfl := Except.ok.inj hok
    exact ⟨a, t₁, t₂, rfl, hq, hrest⟩

/-- A run of both parts of a bind. -/
theorem Runs.bind {x : Program I ε α} {f : α → Program I ε β} {r : Except ε β} {a : α}
    {t₁ t₂ : List (Exchange I)} (hx : Runs x t₁ (.ok a)) (hf : Runs (f a) t₂ r) :
    Runs (x >>= f) (t₁ ++ t₂) r :=
  runs_bind.mpr (.inr ⟨a, t₁, t₂, rfl, hx, hf⟩)

/-- What is made of a program's value afterwards exchanges nothing. -/
theorem Runs.of_map {p : Program I ε α} {f : α → β} {r : Except ε β}
    (h : Runs (do return f (← p)) t r) : ∃ r', Runs p t r' := by
  obtain ⟨thrown, hraised, -⟩ | ⟨a, t₁, t₂, rfl, hp, hrest⟩ := runs_bind.mp h
  · exact ⟨_, hraised⟩
  · obtain ⟨rfl, -⟩ := runs_pure.mp hrest
    exact ⟨_, (List.append_nil t₁).symm ▸ hp⟩

/-- After a call whose run is known, the rest runs. -/
theorem runs_ask_bind {c : I.Call} {f : I.Answer c → Program I ε β} {r : Except ε β} :
    Runs (ask c >>= f) t r ↔ ∃ answer t', t = ⟨c, answer⟩ :: t' ∧ Runs (f answer) t' r :=
  show Runs (call c f) t r ↔ _ from runs_call

/-- A run of one call and what follows it. -/
theorem runs_invoke_bind {c : I.Call} {value : I.Answer c → Except ε α} {f : α → Program I ε β}
    {r : Except ε β} :
    Runs (invoke c value >>= f) t r ↔ ∃ answer t', t = ⟨c, answer⟩ :: t' ∧
      ((∃ a, value answer = .ok a ∧ Runs (f a) t' r) ∨
        ∃ e, value answer = .error e ∧ t' = [] ∧ r = .error e) := by
  rw [runs_bind]
  constructor
  · rintro (⟨e, h, rfl⟩ | ⟨a, t₁, t₂, rfl, h, hf⟩)
    · obtain ⟨answer, rfl, hvalue⟩ := runs_invoke.mp h
      exact ⟨answer, [], rfl, .inr ⟨e, hvalue.symm, rfl, rfl⟩⟩
    · obtain ⟨answer, rfl, hvalue⟩ := runs_invoke.mp h
      exact ⟨answer, t₂, rfl, .inl ⟨a, hvalue.symm, hf⟩⟩
  · rintro ⟨answer, t', rfl, ⟨a, hvalue, hf⟩ | ⟨e, hvalue, rfl, rfl⟩⟩
    · exact .inr ⟨a, [_], t', rfl, runs_invoke.mpr ⟨answer, rfl, hvalue.symm⟩, hf⟩
    · exact .inl ⟨e, runs_invoke.mpr ⟨answer, rfl, hvalue.symm⟩, rfl⟩

/-- A caught program always returns, with the outcome. -/
theorem runs_catching {x : Program I ε α} {r : Except φ (Except ε α)} :
    Runs (x.catching : Program I φ (Except ε α)) t r ↔ ∃ r', r = .ok r' ∧ Runs x t r' := by
  induction x generalizing t with
  | done a =>
    constructor
    · intro h
      cases h
      exact ⟨.ok a, rfl, .done a⟩
    · rintro ⟨r', rfl, h⟩
      cases h
      exact .done _
  | raise e =>
    constructor
    · intro h
      cases h
      exact ⟨.error e, rfl, .raise e⟩
    · rintro ⟨r', rfl, h⟩
      cases h
      exact .done _
  | call c next ih =>
    constructor
    · intro h
      cases h with
      | call answer h =>
        obtain ⟨r', rfl, h'⟩ := (ih answer).mp h
        exact ⟨r', rfl, .call answer h'⟩
    · rintro ⟨r', rfl, h⟩
      cases h with
      | call answer h => exact .call answer ((ih answer).mpr ⟨r', rfl, h⟩)

/-- A run of a caught program and what follows it. -/
theorem runs_catching_bind {x : Program I ε α} {f : Except ε α → Program I φ β} {r : Except φ β} :
    Runs (x.catching >>= f) t r ↔ ∃ r' t₁ t₂, t = t₁ ++ t₂ ∧ Runs x t₁ r' ∧ Runs (f r') t₂ r := by
  rw [runs_bind]
  constructor
  · rintro (⟨e, h, -⟩ | ⟨r', t₁, t₂, rfl, h, h'⟩)
    · obtain ⟨r', hr, -⟩ := runs_catching.mp h
      cases hr
    · obtain ⟨r'', hr, h⟩ := runs_catching.mp h
      obtain rfl := Except.ok.inj hr
      exact ⟨r', t₁, t₂, rfl, h, h'⟩
  · rintro ⟨r', t₁, t₂, rfl, h, h'⟩
    exact .inr ⟨r', t₁, t₂, rfl, runs_catching.mpr ⟨r', rfl, h⟩, h'⟩

/-- What comes first in the same answers ends in the same way. -/
theorem Runs.unique {p : Program I ε α} {t' u u' : List (Exchange I)} {r r' : Except ε α}
    (h : Runs p t r) (h' : Runs p t' r') (heq : t ++ u = t' ++ u') : t = t' ∧ r = r' := by
  induction h generalizing t' with
  | done a =>
    cases h'
    exact ⟨rfl, rfl⟩
  | raise e =>
    cases h'
    exact ⟨rfl, rfl⟩
  | call answer _ ih =>
    cases h' with
    | call answer' h' =>
      obtain ⟨hx, hrest⟩ := List.cons.inj heq
      cases hx
      obtain ⟨rfl, rfl⟩ := ih h' hrest
      exact ⟨rfl, rfl⟩

theorem bind_bind {γ : Type} (x : Program I ε α) (f : α → Program I ε β)
    (g : β → Program I ε γ) : x >>= f >>= g = x >>= fun a => f a >>= g := by
  show (x.bind f).bind g = x.bind fun a => (f a).bind g
  induction x with
  | done a => rfl
  | raise e => rfl
  | call c next ih => exact congrArg (call c) (funext fun answer => ih answer)

/-! ## Runs cut off -/

/-- The program may have exchanged this when it is cut off. -/
inductive Begins : Program I ε α → List (Exchange I) → Prop
  | nil (p : Program I ε α) : Begins p []
  | call {c : I.Call} {next : I.Answer c → Program I ε α} {t : List (Exchange I)}
      (answer : I.Answer c) (h : Begins (next answer) t) : Begins (call c next) (⟨c, answer⟩ :: t)

theorem Runs.begins {p : Program I ε α} {r : Except ε α} (h : Runs p t r) : Begins p t := by
  induction h with
  | done a => exact .nil _
  | raise e => exact .nil _
  | call answer _ ih => exact .call answer ih

/-- A run cut off can go on: every call has an answer. -/
theorem Begins.extends [∀ c, Inhabited (I.Answer c)] {p : Program I ε α} (h : Begins p t) :
    ∃ t' r, Runs p (t ++ t') r := by
  induction h with
  | nil p =>
    induction p with
    | done a => exact ⟨[], _, .done a⟩
    | raise e => exact ⟨[], _, .raise e⟩
    | call c next ih =>
      obtain ⟨t', r, hr⟩ := ih default
      exact ⟨_, r, .call default hr⟩
  | call answer _ ih =>
    obtain ⟨t', r, hr⟩ := ih
    exact ⟨t', r, .call answer hr⟩

/-! ## Which calls a program makes -/

/-- Every call the program can make is of this kind. -/
def Makes (allowed : I.Call → Prop) : Program I ε α → Prop
  | done _ => True
  | raise _ => True
  | call c next => allowed c ∧ ∀ answer, (next answer).Makes allowed

section Makes

variable {allowed : I.Call → Prop}

/-- A transcript holds calls of the kind alone. -/
theorem Makes.runs {p : Program I ε α} {r : Except ε α} (h : p.Makes allowed) (hr : Runs p t r) :
    ∀ x ∈ t, allowed x.1 := by
  induction hr with
  | done a => exact fun x hx => absurd hx List.not_mem_nil
  | raise e => exact fun x hx => absurd hx List.not_mem_nil
  | call answer _ ih =>
    intro x hx
    rcases List.mem_cons.mp hx with rfl | hx
    · exact h.1
    · exact ih (h.2 answer) x hx

/-- So does a transcript that is cut off. -/
theorem Makes.begins {p : Program I ε α} (h : p.Makes allowed) (hr : Begins p t) :
    ∀ x ∈ t, allowed x.1 := by
  induction hr with
  | nil p => exact fun x hx => absurd hx List.not_mem_nil
  | call answer _ ih =>
    intro x hx
    rcases List.mem_cons.mp hx with rfl | hx
    · exact h.1
    · exact ih (h.2 answer) x hx

theorem makes_pure (a : α) : (pure a : Program I ε α).Makes allowed := trivial

theorem makes_raise (e : ε) : (raise e : Program I ε α).Makes allowed := trivial

theorem makes_ask {c : I.Call} (h : allowed c) : (ask c : Program I ε (I.Answer c)).Makes allowed :=
  ⟨h, fun _ => trivial⟩

theorem makes_ofExcept (x : Except ε α) : (ofExcept x : Program I ε α).Makes allowed := by
  cases x <;> trivial

/-- A call whose answer is turned into an outcome. -/
theorem makes_invoke {c : I.Call} {value : I.Answer c → Except ε α} (h : allowed c) :
    (invoke c value).Makes allowed :=
  ⟨h, fun answer => makes_ofExcept (value answer)⟩

/-- Two programs of allowed calls, in sequence. -/
theorem Makes.bind {x : Program I ε α} {f : α → Program I ε β} (hx : x.Makes allowed)
    (hf : ∀ a, (f a).Makes allowed) : (x >>= f).Makes allowed := by
  show (x.bind f).Makes allowed
  induction x with
  | done a => exact hf a
  | raise e => trivial
  | call c next ih => exact ⟨hx.1, fun answer => ih answer (hx.2 answer)⟩

theorem Makes.catching {x : Program I ε α} (hx : x.Makes allowed) :
    (x.catching : Program I φ (Except ε α)).Makes allowed := by
  induction x with
  | done a => trivial
  | raise e => trivial
  | call c next ih => exact ⟨hx.1, fun answer => ih answer (hx.2 answer)⟩

end Makes

/-! ## Environments -/

section Environments

variable {σ : Type} {step : σ → Exchange I → σ → Prop} {s s' : σ}

/-- The environment gives these answers, and ends in this state. -/
inductive Follows (step : σ → Exchange I → σ → Prop) : σ → List (Exchange I) → σ → Prop
  | nil (s : σ) : Follows step s [] s
  | cons {s m s' : σ} {x : Exchange I} {t : List (Exchange I)} (h : step s x m)
      (rest : Follows step m t s') : Follows step s (x :: t) s'

@[simp] theorem follows_nil : Follows step s [] s' ↔ s' = s := by
  constructor
  · intro h
    cases h
    rfl
  · rintro rfl
    exact .nil _

theorem follows_cons {x : Exchange I} :
    Follows step s (x :: t) s' ↔ ∃ m, step s x m ∧ Follows step m t s' := by
  constructor
  · intro h
    cases h with
    | cons h rest => exact ⟨_, h, rest⟩
  · rintro ⟨m, h, rest⟩
    exact .cons h rest

/-- A transcript is followed in two parts. -/
theorem follows_append {t' : List (Exchange I)} :
    Follows step s (t ++ t') s' ↔ ∃ m, Follows step s t m ∧ Follows step m t' s' := by
  induction t generalizing s with
  | nil => simp
  | cons x t ih =>
    simp only [List.cons_append, follows_cons, ih]
    constructor
    · rintro ⟨m, hx, n, ht, ht'⟩
      exact ⟨n, ⟨m, hx, ht⟩, ht'⟩
    · rintro ⟨n, ⟨m, hx, ht⟩, ht'⟩
      exact ⟨m, hx, n, ht, ht'⟩

/-- What every exchange keeps, a transcript keeps. -/
theorem Follows.invariant {P : σ → Prop} (h : Follows step s t s')
    (hstep : ∀ s x m, x ∈ t → step s x m → P s → P m) (hs : P s) : P s' := by
  induction h with
  | nil => exact hs
  | cons hx _ ih =>
    exact ih (fun s x m hmem => hstep s x m (List.mem_cons_of_mem _ hmem))
      (hstep _ _ _ List.mem_cons_self hx hs)

/-- A transcript that follows one step relation follows any weaker one. -/
theorem Follows.mono {step' : σ → Exchange I → σ → Prop} (h : Follows step s t s')
    (hstep : ∀ s x m, step s x m → step' s x m) : Follows step' s t s' := by
  induction h with
  | nil => exact .nil _
  | cons hx _ ih => exact .cons (hstep _ _ _ hx) ih

/-- Steps of one environment that are steps of another. -/
theorem Follows.map {σ' : Type} {step' : σ' → Exchange I → σ' → Prop} (f : σ → σ')
    (h : Follows step s t s') (hstep : ∀ s x m, step s x m → step' (f s) x (f m)) :
    Follows step' (f s) t (f s') := by
  induction h with
  | nil => exact .nil _
  | cons hx _ ih => exact .cons (hstep _ _ _ hx) ih

/-- Run a program against an environment that is a function. -/
def play (handler : σ → (c : I.Call) → I.Answer c × σ) : Program I ε α → σ → Except ε α × σ
  | done a, s => (.ok a, s)
  | raise e, s => (.error e, s)
  | call c next, s => (next (handler s c).1).play handler (handler s c).2

/-- The transcript of such a run. -/
def trace (handler : σ → (c : I.Call) → I.Answer c × σ) : Program I ε α → σ → List (Exchange I)
  | done _, _ => []
  | raise _, _ => []
  | call c next, s =>
    ⟨c, (handler s c).1⟩ :: (next (handler s c).1).trace handler (handler s c).2

/-- Playing a program against a handler is a run of it. -/
theorem runs_trace (handler : σ → (c : I.Call) → I.Answer c × σ) (p : Program I ε α) (s : σ) :
    Runs p (p.trace handler s) (p.play handler s).1 := by
  induction p generalizing s with
  | done a => exact .done a
  | raise e => exact .raise e
  | call c next ih => exact .call _ (ih _ _)

/-- The run follows the handler's own steps. -/
theorem follows_trace (handler : σ → (c : I.Call) → I.Answer c × σ) (p : Program I ε α) (s : σ) :
    Follows (fun s x s' => handler s x.1 = (x.2, s')) s (p.trace handler s)
      (p.play handler s).2 := by
  induction p generalizing s with
  | done a => exact .nil s
  | raise e => exact .nil s
  | call c next ih => exact .cons rfl (ih _ _)

end Environments

end Program

end Aurora
