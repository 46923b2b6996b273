/-
  Programs in a world: what holds whatever the world answers.

  A world is an environment whose step relation says which answers a call may get in a state and
  what they change.  `Ensures` says that every run of a program in the world ends as a postcondition
  says, with a value or with an exception.  It is computed along the program, so it composes at a
  bind, a catch and a cleanup; `Ensures.execution` brings it back to executions, which are a complete
  run with the states of the world before and after it.
-/
import Aurora.Lib.Interaction

namespace Aurora

namespace Program

variable {I : Interface} {ε φ α β σ : Type}

/-- Every run from `s` ends as `Q` says. -/
def Ensures (step : σ → Exchange I → σ → Prop) :
    Program I ε α → σ → (Except ε α → σ → Prop) → Prop
  | done a, s, Q => Q (.ok a) s
  | raise e, s, Q => Q (.error e) s
  | call c rest, s, Q =>
    ∀ answer s', step s ⟨c, answer⟩ s' → (rest answer).Ensures step s' Q

/-- A complete run of a program in a world. -/
structure Execution (step : σ → Exchange I → σ → Prop) (p : Program I ε α) (s : σ) where
  transcript : List (Exchange I)
  result : Except ε α
  final : σ
  runs : Runs p transcript result
  follows : Follows step s transcript final

/-- Run the cleanup however the body ends; what the cleanup raises replaces what the body gave. -/
def finallyDo (body : Program I ε α) (cleanup : Program I ε Unit) : Program I ε α := do
  let result ← (body.catching : Program I ε (Except ε α))
  cleanup
  ofExcept result

variable {step : σ → Exchange I → σ → Prop} {s : σ}

/-! ## Rules -/

theorem ensures_pure {a : α} {Q : Except ε α → σ → Prop} :
    (pure a : Program I ε α).Ensures step s Q ↔ Q (.ok a) s := Iff.rfl

theorem ensures_raise {e : ε} {Q : Except ε α → σ → Prop} :
    (raise e : Program I ε α).Ensures step s Q ↔ Q (.error e) s := Iff.rfl

theorem ensures_ofExcept {x : Except ε α} {Q : Except ε α → σ → Prop} :
    (ofExcept x : Program I ε α).Ensures step s Q ↔ Q x s := by
  cases x <;> exact Iff.rfl

/-- Of a call, whatever the world answers. -/
theorem ensures_ask {c : I.Call} {Q : Except ε (I.Answer c) → σ → Prop} :
    (ask c : Program I ε (I.Answer c)).Ensures step s Q ↔
      ∀ answer s', step s ⟨c, answer⟩ s' → Q (.ok answer) s' := Iff.rfl

/-- The same where the answer may be an exception. -/
theorem ensures_invoke {c : I.Call} {value : I.Answer c → Except ε α}
    {Q : Except ε α → σ → Prop} : (invoke c value).Ensures step s Q ↔
      ∀ answer s', step s ⟨c, answer⟩ s' → Q (value answer) s' :=
  forall_congr' fun _ => forall_congr' fun _ => imp_congr_right fun _ => ensures_ofExcept

theorem ensures_ite {c : Prop} [Decidable c] {p q : Program I ε α} {Q : Except ε α → σ → Prop}
    (htrue : c → p.Ensures step s Q) (hfalse : ¬c → q.Ensures step s Q) :
    (if c then p else q).Ensures step s Q := by
  split
  case isTrue h => exact htrue h
  case isFalse h => exact hfalse h

/-- A weaker postcondition. -/
theorem Ensures.mono {p : Program I ε α} {Q Q' : Except ε α → σ → Prop}
    (h : p.Ensures step s Q) (hQ : ∀ r s, Q r s → Q' r s) : p.Ensures step s Q' := by
  induction p generalizing s with
  | done a => exact hQ _ _ h
  | raise e => exact hQ _ _ h
  | call c rest ih => exact fun answer s' hstep => ih answer (h answer s' hstep)

/-- Sequencing: what follows starts from the world it finds, and an exception is passed on. -/
theorem ensures_bind {x : Program I ε α} {f : α → Program I ε β} {Q : Except ε β → σ → Prop} :
    (x >>= f).Ensures step s Q ↔ x.Ensures step s fun
      | .ok a, s' => (f a).Ensures step s' Q
      | .error e, s' => Q (.error e) s' := by
  show (x.bind f).Ensures step s Q ↔ _
  induction x generalizing s with
  | done a => exact Iff.rfl
  | raise e => exact Iff.rfl
  | call c rest ih =>
    exact forall_congr' fun answer => forall_congr' fun s' => imp_congr_right fun _ => ih answer

/-- A caught program returns its outcome. -/
theorem ensures_catching {x : Program I ε α} {Q : Except φ (Except ε α) → σ → Prop} :
    (x.catching : Program I φ (Except ε α)).Ensures step s Q ↔
      x.Ensures step s fun r s' => Q (.ok r) s' := by
  induction x generalizing s with
  | done a => exact Iff.rfl
  | raise e => exact Iff.rfl
  | call c rest ih =>
    exact forall_congr' fun answer => forall_congr' fun s' => imp_congr_right fun _ => ih answer

/-- Two postconditions at once. -/
theorem Ensures.and {p : Program I ε α} {Q Q' : Except ε α → σ → Prop} (h : p.Ensures step s Q)
    (h' : p.Ensures step s Q') : p.Ensures step s fun r s' => Q r s' ∧ Q' r s' := by
  induction p generalizing s with
  | done a => exact ⟨h, h'⟩
  | raise e => exact ⟨h, h'⟩
  | call c rest ih => exact fun answer s' hstep => ih answer (h answer s' hstep) (h' answer s' hstep)

/-- What follows a program starts where the program ends. -/
theorem Ensures.bind {x : Program I ε α} {f : α → Program I ε β} {P : Except ε α → σ → Prop}
    {Q : Except ε β → σ → Prop} (hx : x.Ensures step s P)
    (hok : ∀ a s', P (.ok a) s' → (f a).Ensures step s' Q)
    (herror : ∀ e s', P (.error e) s' → Q (.error e) s') : (x >>= f).Ensures step s Q := by
  rw [ensures_bind]
  refine hx.mono fun r s' hr => ?_
  cases r with
  | ok a => exact hok a s' hr
  | error e => exact herror e s' hr

/-- What follows a caught program starts where it ends, in either way. -/
theorem Ensures.catching_bind {x : Program I ε α} {f : Except ε α → Program I φ β}
    {P : Except ε α → σ → Prop} {Q : Except φ β → σ → Prop} (hx : x.Ensures step s P)
    (hf : ∀ r s', P r s' → (f r).Ensures step s' Q) :
    ((x.catching : Program I φ (Except ε α)) >>= f).Ensures step s Q := by
  rw [ensures_bind, ensures_catching]
  exact hx.mono hf

/-- A cleanup starts where the body ends. -/
theorem Ensures.finallyDo {body : Program I ε α} {cleanup : Program I ε Unit}
    {P : Except ε α → σ → Prop} {Q : Except ε α → σ → Prop} (hbody : body.Ensures step s P)
    (hcleanup : ∀ r s', P r s' → cleanup.Ensures step s' fun
      | .ok _, s'' => Q r s''
      | .error e, s'' => Q (.error e) s'') :
    (finallyDo body cleanup).Ensures step s Q := by
  refine hbody.catching_bind fun r s' hr => ?_
  refine (hcleanup r s' hr).bind (fun _ s'' h => ?_) fun _ _ h => h
  exact ensures_ofExcept.mpr h

theorem ensures_ask_bind {c : I.Call} {f : I.Answer c → Program I ε β}
    {Q : Except ε β → σ → Prop} : (ask c >>= f).Ensures step s Q ↔
      ∀ answer s', step s ⟨c, answer⟩ s' → (f answer).Ensures step s' Q :=
  show (call c f).Ensures step s Q ↔ _ from Iff.rfl

/-! ## What a program keeps -/

/-- Every run leads from a state to one that is related to it. -/
def Keeps (step : σ → Exchange I → σ → Prop) (R : σ → σ → Prop) (p : Program I ε α) : Prop :=
  ∀ s, p.Ensures step s fun _ s' => R s s'

section Keeps

variable {R : σ → σ → Prop}

theorem keeps_ofExcept (hrefl : ∀ s, R s s) (x : Except ε α) :
    (ofExcept x : Program I ε α).Keeps step R :=
  fun s => ensures_ofExcept.mpr (hrefl s)

theorem keeps_raise (hrefl : ∀ s, R s s) (e : ε) : (raise e : Program I ε α).Keeps step R :=
  fun s => ensures_raise.mpr (hrefl s)

theorem keeps_pure (hrefl : ∀ s, R s s) (a : α) : (pure a : Program I ε α).Keeps step R :=
  fun s => ensures_pure.mpr (hrefl s)

/-- A transitive relation is kept by programs in sequence. -/
theorem Keeps.bind (htrans : ∀ a b c, R a b → R b c → R a c) {x : Program I ε α}
    {f : α → Program I ε β} (hx : x.Keeps step R) (hf : ∀ a, (f a).Keeps step R) :
    (x >>= f).Keeps step R := by
  intro s
  refine (hx s).bind (fun a s' hs => ?_) fun _ _ hs => hs
  exact (hf a s').mono fun _ s'' hs' => htrans _ _ _ hs hs'

/-- Catching keeps what the program keeps. -/
theorem Keeps.catching {x : Program I ε α} (hx : x.Keeps step R) :
    (x.catching : Program I φ (Except ε α)).Keeps step R :=
  fun s => ensures_catching.mpr (hx s)

theorem Keeps.weaken {R' : σ → σ → Prop} {p : Program I ε α} (h : p.Keeps step R)
    (hR : ∀ a b, R a b → R' a b) : p.Keeps step R' :=
  fun s => (h s).mono fun _ s' => hR s s'

/-- What every step keeps, every program keeps. -/
theorem keeps_of_step (hrefl : ∀ s, R s s) (htrans : ∀ a b c, R a b → R b c → R a c)
    (hstep : ∀ s x s', step s x s' → R s s') (p : Program I ε α) : p.Keeps step R := by
  induction p with
  | done a => exact hrefl
  | raise e => exact hrefl
  | call c rest ih =>
    intro s answer s' h
    refine (ih answer s').mono fun r s'' hrest => ?_
    exact htrans s s' s'' (hstep s _ s' h) hrest

end Keeps

/-! ## Back to executions -/

/-- From a program to a run of it in the world. -/
theorem Ensures.runs {p : Program I ε α} {Q : Except ε α → σ → Prop} {t : List (Exchange I)}
    {r : Except ε α} {s' : σ} (h : p.Ensures step s Q) (hr : Runs p t r)
    (ht : Follows step s t s') : Q r s' := by
  induction hr generalizing s with
  | done a =>
    obtain rfl := follows_nil.mp ht
    exact h
  | raise e =>
    obtain rfl := follows_nil.mp ht
    exact h
  | call answer _ ih =>
    obtain ⟨m, hstep, hrest⟩ := follows_cons.mp ht
    exact ih (h answer m hstep) hrest

theorem Ensures.execution {p : Program I ε α} {Q : Except ε α → σ → Prop}
    (h : p.Ensures step s Q) (x : Execution step p s) : Q x.result x.final :=
  h.runs x.runs x.follows

/-! ## Keeping the transcript -/

/-- The world together with what was exchanged in it so far. -/
def Recording (step : σ → Exchange I → σ → Prop) (s : σ × List (Exchange I)) (x : Exchange I)
    (s' : σ × List (Exchange I)) : Prop :=
  step s.1 x s'.1 ∧ s'.2 = s.2 ++ [x]

/-- What a program ensures, it ensures while the transcript is kept, and that only grows. -/
theorem Ensures.recording {p : Program I ε α} {Q : Except ε α → σ → Prop}
    (h : p.Ensures step s Q) (t : List (Exchange I)) :
    p.Ensures (Recording step) (s, t) fun r s' => Q r s'.1 ∧ t <+: s'.2 := by
  induction p generalizing s t with
  | done a => exact ⟨h, List.prefix_refl t⟩
  | raise e => exact ⟨h, List.prefix_refl t⟩
  | call c rest ih =>
    rintro answer ⟨s', t'⟩ ⟨hstep, rfl⟩
    refine (ih answer (h answer s' hstep) (t ++ [⟨c, answer⟩])).mono fun r m hm => ?_
    exact ⟨hm.1, (List.prefix_append t _).trans hm.2⟩

/-- What does not look at the transcript holds without it. -/
theorem Ensures.of_recording {p : Program I ε α} {Q : Except ε α → σ → Prop}
    {t : List (Exchange I)} (h : p.Ensures (Recording step) (s, t) fun r s' => Q r s'.1) :
    p.Ensures step s Q := by
  induction p generalizing s t with
  | done a => exact h
  | raise e => exact h
  | call c rest ih => exact fun answer s' hstep => ih answer (h answer (s', _) ⟨hstep, rfl⟩)

/-- A world may record the calls made in it. -/
theorem Follows.recording {t : List (Exchange I)} {s' : σ} (h : Follows step s t s')
    (before : List (Exchange I)) : Follows (Recording step) (s, before) t (s', before ++ t) := by
  induction h generalizing before with
  | nil s =>
    rw [List.append_nil]
    exact .nil _
  | @cons s m s' x t hstep _ ih =>
    have hrest := ih (before ++ [x])
    rw [List.append_assoc, List.singleton_append] at hrest
    exact .cons ⟨hstep, rfl⟩ hrest

/-- An execution, with its transcript. -/
theorem Ensures.transcript {p : Program I ε α} {Q : Except ε α → σ × List (Exchange I) → Prop}
    (h : p.Ensures (Recording step) (s, []) Q) (x : Execution step p s) :
    Q x.result (x.final, x.transcript) :=
  h.runs x.runs (x.follows.recording [])

/-- Where every call is answered, every program has an execution. -/
theorem execution_of_answers (hanswers : ∀ s c, ∃ answer s', step s ⟨c, answer⟩ s')
    (p : Program I ε α) (s : σ) : Nonempty (Execution step p s) := by
  induction p generalizing s with
  | done a => exact ⟨⟨[], .ok a, s, .done a, .nil s⟩⟩
  | raise e => exact ⟨⟨[], .error e, s, .raise e, .nil s⟩⟩
  | call c next ih =>
    obtain ⟨answer, s', hstep⟩ := hanswers s c
    obtain ⟨x⟩ := ih answer s'
    exact ⟨⟨_, x.result, x.final, .call answer x.runs, .cons hstep x.follows⟩⟩

/-- The execution against a function, whose answers the world may give. -/
def Execution.played {τ : Type} (handler : τ → (c : I.Call) → I.Answer c × τ) (world : τ → σ)
    (h : ∀ s c, step (world s) ⟨c, (handler s c).1⟩ (world (handler s c).2)) (p : Program I ε α)
    (s : τ) : Execution step p (world s) where
  transcript := p.trace handler s
  result := (p.play handler s).1
  final := world (p.play handler s).2
  runs := runs_trace handler p s
  follows := by
    refine (follows_trace handler p s).map world ?_
    rintro s ⟨c, answer⟩ m hstep
    have hanswer := h s c
    rwa [hstep] at hanswer

/-- Whatever the answers are, the program ends so. -/
def Ends (p : Program I ε α) (Q : Except ε α → Prop) : Prop :=
  p.Ensures (fun _ _ _ => True) () fun r _ => Q r

/-- From a program to a run of it, in any world. -/
theorem Ends.runs {p : Program I ε α} {Q : Except ε α → Prop} {t : List (Exchange I)}
    {r : Except ε α} (h : p.Ends Q) (hr : Runs p t r) : Q r := by
  have hfollows : ∀ t : List (Exchange I), Follows (fun _ _ _ => True) () t () := by
    intro t
    induction t with
    | nil => exact .nil ()
    | cons x t ih => exact .cons True.intro ih
  exact Ensures.runs h hr (hfollows t)

theorem Ends.mono {p : Program I ε α} {Q Q' : Except ε α → Prop} (h : p.Ends Q)
    (hQ : ∀ r, Q r → Q' r) : p.Ends Q' :=
  Ensures.mono h fun r _ => hQ r

end Program

end Aurora
