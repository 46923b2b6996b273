/-
  Scripts run inside one transaction, and what a faulty engine can do to them.

  A `Script` is the code between BEGIN and COMMIT: it computes, it runs statements (each one an
  atomic change of the working state that returns a value or fails), it raises, and it polls a
  point at which the environment may stop it.  It has two meanings:

  * `run`  — the engine never fails: a function from a state to a result and a new state;
  * `exec` — statements and polls fail where a fault schedule says so, and the working state
    reached so far is kept.

  `exec_ok` is the link between them: a faulty execution that returns did exactly what the
  fault-free run does.  `Connection` adds BEGIN, COMMIT and ROLLBACK over a durable state, each of
  which may fail as well; a failed COMMIT may or may not have taken effect.

  `Post` states what the fault-free run from one state ends in: a postcondition for what it returns
  and one for the error it raises.
-/
import Mathlib.Data.List.Basic
import Mathlib.Tactic.Basic
import Mathlib.Data.List.Forall2

namespace Aurora

/-- Code that runs inside one transaction over states `σ` and raises errors `ε`. -/
inductive Script (σ ε α : Type) : Type 1
  /-- Return. -/
  | done (a : α)
  /-- Raise. -/
  | fail (e : ε)
  /-- Run one statement and continue with what it returns. -/
  | statement {β : Type} (f : σ → Except ε (β × σ)) (next : β → Script σ ε α)
  /-- A point at which the environment may raise `e`. -/
  | poll (e : ε) (next : Script σ ε α)

namespace Script

variable {σ ε φ α β γ : Type}

/-- One script behind another one. -/
protected def bind : Script σ ε α → (α → Script σ ε β) → Script σ ε β
  | done a, k => k a
  | fail e, _ => fail e
  | statement f next, k => statement f fun b => (next b).bind k
  | poll e next, k => poll e (next.bind k)

instance : Monad (Script σ ε) where
  pure := done
  bind := Script.bind

/-- Run one statement. -/
def perform (f : σ → Except ε (β × σ)) : Script σ ε β := statement f done

/-- A statement that only reads. -/
def read (f : σ → β) : Script σ ε β := perform fun s => .ok (f s, s)

/-- Lift a computation that touches no state. -/
def ofExcept : Except ε α → Script σ ε α
  | .ok a => done a
  | .error e => fail e

/-- Poll once. -/
def pollOnce (e : ε) : Script σ ε Unit := poll e (done ())

/-- Rewrite the errors a script raises itself; what the environment raises at a poll is rewritten
    with them. -/
def mapError (g : ε → ε) : Script σ ε α → Script σ ε α
  | done a => done a
  | fail e => fail (g e)
  | statement f next => statement (fun s => (f s).mapError g) fun b => (next b).mapError g
  | poll e next => poll (g e) (next.mapError g)

/-! ## The fault-free meaning -/

/-- The result and the final state when no statement and no poll fails. -/
def run : Script σ ε α → σ → Except ε (α × σ)
  | done a, s => .ok (a, s)
  | fail e, _ => .error e
  | statement f next, s =>
    match f s with
    | .ok (b, s') => (next b).run s'
    | .error e => .error e
  | poll _ next, s => next.run s

@[simp] theorem run_pure (a : α) (s : σ) : (pure a : Script σ ε α).run s = .ok (a, s) := rfl

@[simp] theorem run_done (a : α) (s : σ) : (done a : Script σ ε α).run s = .ok (a, s) := rfl

@[simp] theorem run_fail (e : ε) (s : σ) : (fail e : Script σ ε α).run s = .error e := rfl

@[simp] theorem run_perform (f : σ → Except ε (β × σ)) (s : σ) : (perform f).run s = f s := by
  unfold perform run
  cases f s <;> rfl

@[simp] theorem run_read (f : σ → β) (s : σ) : (read f : Script σ ε β).run s = .ok (f s, s) := rfl

@[simp] theorem run_pollOnce (e : ε) (s : σ) :
    (pollOnce e : Script σ ε Unit).run s = .ok ((), s) := rfl

@[simp] theorem run_ofExcept (x : Except ε α) (s : σ) :
    (ofExcept x : Script σ ε α).run s = x.map fun a => (a, s) := by
  cases x <;> rfl

/-- Sequencing runs the second script in the state the first one left. -/
theorem run_bind (x : Script σ ε α) (k : α → Script σ ε β) (s : σ) :
    (x >>= k).run s = match x.run s with
      | .ok (a, s') => (k a).run s'
      | .error e => .error e := by
  show (x.bind k).run s = _
  induction x generalizing s with
  | done a => rfl
  | fail e => rfl
  | statement f next ih =>
    simp only [Script.bind, run]
    cases f s with
    | error e => rfl
    | ok r => exact ih r.1 r.2
  | poll e next ih => exact ih s

/-- A script that returned is followed by the next. -/
theorem run_bind_ok {x : Script σ ε α} {k : α → Script σ ε β} {s s' : σ} {a : α}
    (h : x.run s = .ok (a, s')) : (x >>= k).run s = (k a).run s' := by
  rw [run_bind, h]

/-- A sequence that returns went through an intermediate result and state. -/
theorem run_bind_eq_ok {x : Script σ ε α} {k : α → Script σ ε β} {s s' : σ} {b : β} :
    (x >>= k).run s = .ok (b, s') ↔
      ∃ a m, x.run s = .ok (a, m) ∧ (k a).run m = .ok (b, s') := by
  rw [run_bind]
  constructor
  · intro h
    split at h
    · rename_i a m hx
      exact ⟨a, m, hx, h⟩
    · cases h
  · rintro ⟨a, m, hx, hk⟩
    rw [hx]
    exact hk

/-- Mapping the value leaves the state alone. -/
@[simp] theorem run_map (f : α → β) (x : Script σ ε α) (s : σ) :
    (f <$> x).run s = (x.run s).map fun r => (f r.1, r.2) := by
  show (x >>= fun a => pure (f a)).run s = _
  rw [run_bind]
  cases x.run s <;> rfl

/-- Renaming an error leaves the state alone. -/
theorem run_mapError (g : ε → ε) (x : Script σ ε α) (s : σ) :
    (x.mapError g).run s = (x.run s).mapError g := by
  induction x generalizing s with
  | done a => rfl
  | fail e => rfl
  | statement f next ih =>
    simp only [mapError, run]
    cases f s with
    | error e => rfl
    | ok r => exact ih r.1 r.2
  | poll e next ih => exact ih s

instance : LawfulMonad (Script σ ε) := LawfulMonad.mk' (Script σ ε)
  (fun x => by
    show x.bind done = x
    induction x with
    | done a => rfl
    | fail e => rfl
    | statement f next ih => exact congrArg (statement f) (funext ih)
    | poll e next ih => exact congrArg (poll e) ih)
  (fun _ _ => rfl)
  (fun x k h => by
    show (x.bind k).bind h = x.bind fun a => (k a).bind h
    induction x with
    | done a => rfl
    | fail e => rfl
    | statement f next ih => exact congrArg (statement f) (funext ih)
    | poll e next ih => exact congrArg (poll e) ih)

/-! ## Postconditions -/

/-- From state `s` the fault-free run returns in `Q` or raises in `E`. -/
def Post (x : Script σ ε α) (s : σ) (Q : α → σ → Prop) (E : ε → Prop) : Prop :=
  match x.run s with
  | .ok (a, s') => Q a s'
  | .error e => E e

theorem Post.returned {x : Script σ ε α} {s s' : σ} {Q : α → σ → Prop} {E : ε → Prop} {a : α}
    (h : Post x s Q E) (hx : x.run s = .ok (a, s')) : Q a s' := by
  unfold Post at h
  rwa [hx] at h

theorem Post.raised {x : Script σ ε α} {s : σ} {Q : α → σ → Prop} {E : ε → Prop} {e : ε}
    (h : Post x s Q E) (hx : x.run s = .error e) : E e := by
  unfold Post at h
  rwa [hx] at h

theorem Post.of_ok {x : Script σ ε α} {s s' : σ} {Q : α → σ → Prop} {E : ε → Prop} {a : α}
    (hx : x.run s = .ok (a, s')) (h : Q a s') : Post x s Q E := by
  unfold Post
  rwa [hx]

theorem Post.of_error {x : Script σ ε α} {s : σ} {Q : α → σ → Prop} {E : ε → Prop} {e : ε}
    (hx : x.run s = .error e) (h : E e) : Post x s Q E := by
  unfold Post
  rwa [hx]

theorem Post.pure {s : σ} {Q : α → σ → Prop} {E : ε → Prop} {a : α} (h : Q a s) :
    Post (Pure.pure a : Script σ ε α) s Q E := h

theorem Post.bind {x : Script σ ε α} {k : α → Script σ ε β} {s : σ} {R : α → σ → Prop}
    {Q : β → σ → Prop} {E : ε → Prop} (hx : Post x s R E)
    (hk : ∀ a s', R a s' → Post (k a) s' Q E) : Post (x >>= k) s Q E := by
  unfold Post
  rw [run_bind]
  cases h : x.run s with
  | error e => exact hx.raised h
  | ok r => exact hk r.1 r.2 (hx.returned h)

theorem Post.read {f : σ → α} {s : σ} {Q : α → σ → Prop} {E : ε → Prop} (h : Q (f s) s) :
    Post (Script.read f) s Q E := h

theorem Post.ofExcept {x : Except ε α} {s : σ} {Q : α → σ → Prop} {E : ε → Prop} {a : α}
    (hx : x = .ok a) (h : Q a s) : Post (Script.ofExcept x) s Q E := by
  rw [hx]
  exact h

theorem Post.mono {x : Script σ ε α} {s : σ} {Q Q' : α → σ → Prop} {E E' : ε → Prop}
    (h : Post x s Q E) (hQ : ∀ a s', Q a s' → Q' a s') (hE : ∀ e, E e → E' e) :
    Post x s Q' E' := by
  cases hx : x.run s with
  | error e => exact .of_error hx (hE e (h.raised hx))
  | ok r => exact .of_ok hx (hQ r.1 r.2 (h.returned hx))

/-- A loop over a list: an invariant indexed by the part still to do carries it. -/
theorem Post.forM {I : List α → σ → Prop} {body : α → Script σ ε Unit} {E : ε → Prop}
    (h : ∀ a l s, I (a :: l) s → Post (body a) s (fun _ => I l) E) :
    ∀ {l : List α} {s : σ}, I l s → Post (l.forM body) s (fun _ => I []) E
  | [], _, hs => hs
  | a :: l, s, hs => (h a l s hs).bind fun _ _ hs' => Post.forM h hs'

/-- A function that only reads, mapped over a list. -/
theorem Post.mapM {R : α → β → Prop} {f : α → Script σ ε β} {s : σ} {E : ε → Prop} :
    ∀ {l : List α}, (∀ a ∈ l, Post (f a) s (fun b s' => s' = s ∧ R a b) E) →
      Post (l.mapM f) s (fun bs s' => s' = s ∧ List.Forall₂ R l bs) E
  | [], _ => by
    rw [List.mapM_nil]
    exact Post.pure ⟨rfl, .nil⟩
  | a :: l, h => by
    rw [List.mapM_cons]
    refine (h a List.mem_cons_self).bind ?_
    rintro b s' ⟨rfl, hb⟩
    refine (Post.mapM fun a' ha' => h a' (List.mem_cons_of_mem a ha')).bind ?_
    rintro bs s' ⟨rfl, hbs⟩
    exact Post.pure ⟨rfl, .cons hb hbs⟩

/-! ## Reading scripts -/

/-- The script returns in the state it started from. -/
def ReadOnly (x : Script σ ε α) : Prop := ∀ s a s', x.run s = .ok (a, s') → s' = s

namespace ReadOnly

theorem pure (a : α) : ReadOnly (Pure.pure a : Script σ ε α) := by
  intro s b s' h
  exact (Prod.mk.inj (Except.ok.inj h)).2.symm

theorem read (f : σ → α) : ReadOnly (Script.read f : Script σ ε α) := by
  intro s b s' h
  exact (Prod.mk.inj (Except.ok.inj h)).2.symm

theorem ofExcept (x : Except ε α) : ReadOnly (Script.ofExcept x : Script σ ε α) := by
  intro s b s' h
  cases x with
  | error e => cases h
  | ok a => exact (Prod.mk.inj (Except.ok.inj h)).2.symm

theorem pollOnce (e : ε) : ReadOnly (Script.pollOnce e : Script σ ε Unit) := by
  intro s b s' h
  exact (Prod.mk.inj (Except.ok.inj h)).2.symm

theorem bind {x : Script σ ε α} {k : α → Script σ ε β} (hx : ReadOnly x)
    (hk : ∀ a, ReadOnly (k a)) : ReadOnly (x >>= k) := by
  intro s b s' h
  obtain ⟨a, m, ha, hb⟩ := run_bind_eq_ok.mp h
  rw [hk a m b s' hb, hx s a m ha]

theorem mapM {f : α → Script σ ε β} (hf : ∀ a, ReadOnly (f a)) :
    ∀ l : List α, ReadOnly (l.mapM f)
  | [] => by
    rw [List.mapM_nil]
    exact .pure []
  | a :: l => by
    rw [List.mapM_cons]
    exact (hf a).bind fun _ => (ReadOnly.mapM hf l).bind fun _ => .pure _

theorem forM {f : α → Script σ ε Unit} (hf : ∀ a, ReadOnly (f a)) :
    ∀ l : List α, ReadOnly (l.forM f)
  | [] => .pure ()
  | a :: l => (hf a).bind fun _ => ReadOnly.forM hf l

end ReadOnly

/-- A function that returns from every element of a list in the state it started from. -/
theorem run_mapM_map {f : α → Script σ ε β} {g : α → β} {s : σ} : ∀ {l : List α},
    (∀ a ∈ l, (f a).run s = .ok (g a, s)) → (l.mapM f).run s = .ok (l.map g, s)
  | [], _ => by
    rw [List.mapM_nil]
    rfl
  | a :: l, h => by
    rw [List.mapM_cons, run_bind_ok (h a List.mem_cons_self),
      run_bind_ok (run_mapM_map fun b hb => h b (List.mem_cons_of_mem a hb))]
    rfl

/-! ## The faulty meaning -/

/-- How many statements and polls have been reached. -/
structure Cursor where
  statements : Nat := 0
  polls : Nat := 0
deriving DecidableEq

/-- Where an engine fails: at BEGIN, at the `n`-th statement, at the `n`-th poll, at COMMIT (and
    whether that COMMIT took effect all the same), and at the `n`-th ROLLBACK. -/
structure Faults (φ : Type) where
  begin : Option φ
  statement : Nat → Option φ
  poll : Nat → Bool
  commit : Option (Bool × φ)
  rollback : Nat → Option φ

/-- The engine that never fails. -/
def Faults.none : Faults φ := ⟨.none, fun _ => .none, fun _ => false, .none, fun _ => .none⟩

/-- A COMMIT that raises has not taken effect. -/
def Faults.CommitsTruthfully (F : Faults φ) : Prop := ∀ fault, F.commit ≠ some (true, fault)

/-- The result of a script under a fault schedule, with the working state reached, also when the
    script ended in an error. -/
def exec (raise : φ → ε) (F : Faults φ) : Script σ ε α → Cursor → σ → Except ε α × Cursor × σ
  | done a, c, s => (.ok a, c, s)
  | fail e, c, s => (.error e, c, s)
  | statement f next, c, s =>
    match F.statement c.statements with
    | some fault => (.error (raise fault), { c with statements := c.statements + 1 }, s)
    | none =>
      match f s with
      | .ok (b, s') => exec raise F (next b) { c with statements := c.statements + 1 } s'
      | .error e => (.error e, { c with statements := c.statements + 1 }, s)
  | poll e next, c, s =>
    if F.poll c.polls then (.error e, { c with polls := c.polls + 1 }, s)
    else exec raise F next { c with polls := c.polls + 1 } s

@[simp] theorem exec_pure (raise : φ → ε) (F : Faults φ) (a : α) (c : Cursor) (s : σ) :
    exec raise F (pure a : Script σ ε α) c s = (.ok a, c, s) := rfl

@[simp] theorem exec_ofExcept (raise : φ → ε) (F : Faults φ) (x : Except ε α) (c : Cursor)
    (s : σ) : exec raise F (ofExcept x) c s = (x, c, s) := by
  cases x <;> rfl

/-- A reading statement changes nothing; it fails where the schedule says so. -/
theorem exec_read (raise : φ → ε) (F : Faults φ) (f : σ → α) (c : Cursor) (s : σ) :
    exec raise F (read f) c s =
      ((match F.statement c.statements with
        | some fault => .error (raise fault)
        | none => .ok (f s)), { c with statements := c.statements + 1 }, s) := by
  unfold read perform exec
  cases F.statement c.statements <;> rfl

/-- Sequencing executes the second script where the first one left the cursor and the state. -/
theorem exec_bind (raise : φ → ε) (F : Faults φ) (x : Script σ ε α) (k : α → Script σ ε β)
    (c : Cursor) (s : σ) :
    exec raise F (x >>= k) c s = match exec raise F x c s with
      | (.ok a, c', s') => exec raise F (k a) c' s'
      | (.error e, c', s') => (.error e, c', s') := by
  show exec raise F (x.bind k) c s = _
  induction x generalizing c s with
  | done a => rfl
  | fail e => rfl
  | statement f next ih =>
    simp only [Script.bind, exec]
    cases F.statement c.statements with
    | some fault => rfl
    | none =>
      dsimp only
      cases f s with
      | error e => rfl
      | ok r => exact ih r.1 _ r.2
  | poll e next ih =>
    simp only [Script.bind, exec]
    by_cases h : F.poll c.polls = true
    · simp only [h, if_true]
    · simp only [h]
      exact ih _ s

/-- Returning moves neither the cursor nor the state. -/
theorem exec_pure_eq_ok {raise : φ → ε} {F : Faults φ} {a b : α} {c c' : Cursor} {s s' : σ} :
    exec raise F (pure a : Script σ ε α) c s = (.ok b, c', s') ↔ b = a ∧ c' = c ∧ s' = s := by
  rw [exec_pure, Prod.mk.injEq, Prod.mk.injEq, Except.ok.injEq]
  tauto

theorem exec_ofExcept_eq_ok {raise : φ → ε} {F : Faults φ} {x : Except ε α} {a : α}
    {c c' : Cursor} {s s' : σ} :
    exec raise F (ofExcept x) c s = (.ok a, c', s') ↔ x = .ok a ∧ c' = c ∧ s' = s := by
  rw [exec_ofExcept, Prod.mk.injEq, Prod.mk.injEq]
  tauto

/-- A read is one statement, which may fail. -/
theorem exec_read_eq_ok {raise : φ → ε} {F : Faults φ} {f : σ → α} {a : α} {c c' : Cursor}
    {s s' : σ} :
    exec raise F (read f) c s = (.ok a, c', s') ↔
      F.statement c.statements = none ∧ a = f s ∧
        c' = { c with statements := c.statements + 1 } ∧ s' = s := by
  rw [exec_read]
  cases F.statement c.statements with
  | some fault => simp
  | none =>
    simp only [Prod.mk.injEq, Except.ok.injEq, true_and]
    tauto

/-- Scripts one after the other under the same faults. -/
theorem exec_bind_eq_ok {raise : φ → ε} {F : Faults φ} {x : Script σ ε α} {k : α → Script σ ε β}
    {b : β} {c c' : Cursor} {s s' : σ} :
    exec raise F (x >>= k) c s = (.ok b, c', s') ↔
      ∃ a d m, exec raise F x c s = (.ok a, d, m) ∧ exec raise F (k a) d m = (.ok b, c', s') := by
  rw [exec_bind]
  constructor
  · intro h
    split at h
    · rename_i a d m hx
      exact ⟨a, d, m, hx, h⟩
    · cases h
  · rintro ⟨a, d, m, hx, hk⟩
    rw [hx]
    exact hk

/-- A faulty execution that returns did what the fault-free run does. -/
theorem exec_ok {raise : φ → ε} {F : Faults φ} {x : Script σ ε α} {c c' : Cursor} {s s' : σ}
    {a : α} (h : exec raise F x c s = (.ok a, c', s')) : x.run s = .ok (a, s') := by
  induction x generalizing c s with
  | done b =>
    simp only [exec, Prod.mk.injEq, Except.ok.injEq] at h
    rw [run, h.1, h.2.2]
  | fail e => simp [exec] at h
  | statement f next ih =>
    unfold exec at h
    split at h
    · simp at h
    · split at h
      · rename_i b m hf
        rw [run, hf]
        exact ih b h
      · simp at h
  | poll e next ih =>
    unfold exec at h
    split at h
    · simp at h
    · exact ih h

/-- Without faults the execution is the run. -/
theorem exec_none (raise : φ → ε) (x : Script σ ε α) (c : Cursor) (s : σ) :
    (∀ a s', x.run s = .ok (a, s') → ∃ c', exec raise Faults.none x c s = (.ok a, c', s')) ∧
    (∀ e, x.run s = .error e → ∃ c' s', exec raise Faults.none x c s = (.error e, c', s')) := by
  induction x generalizing c s with
  | done b =>
    refine ⟨fun a s' h => ?_, fun e h => ?_⟩
    · obtain ⟨rfl, rfl⟩ := Prod.mk.inj (Except.ok.inj h)
      exact ⟨c, rfl⟩
    · cases h
  | fail e' =>
    refine ⟨fun a s' h => ?_, fun e h => ?_⟩
    · cases h
    · obtain rfl := Except.error.inj h
      exact ⟨c, s, rfl⟩
  | statement f next ih =>
    have hexec : exec raise Faults.none (statement f next) c s = match f s with
        | .ok (b, s') =>
          exec raise Faults.none (next b) { c with statements := c.statements + 1 } s'
        | .error e => (.error e, { c with statements := c.statements + 1 }, s) := by
      simp only [exec, Faults.none]
    rw [hexec]
    unfold run
    cases hf : f s with
    | ok r => exact ih r.1 _ r.2
    | error e' =>
      refine ⟨fun a s' h => ?_, fun e h => ?_⟩
      · cases h
      · obtain rfl := Except.error.inj h
        exact ⟨_, _, rfl⟩
  | poll e next ih => exact ih _ s

end Script

/-! ## Connections -/

open Script (Faults Cursor)

/-- One connection: what is durable, the working copy of an open transaction, and what has been
    attempted on it. -/
structure Connection (σ : Type) where
  durable : σ
  working : Option σ := none
  cursor : Cursor := {}
  /-- BEGIN returned. -/
  begun : Bool := false
  /-- COMMIT returned. -/
  committed : Bool := false
  /-- COMMIT took effect, whether it returned or failed. -/
  applied : Bool := false
  /-- ROLLBACKs attempted. -/
  rollbacks : Nat := 0

namespace Connection

variable {σ ε φ α : Type} (raise : φ → ε) (F : Faults φ)

/-- BEGIN: open a working copy of the durable state. -/
def begin (c : Connection σ) : Except ε Unit × Connection σ :=
  match F.begin with
  | some fault => (.error (raise fault), c)
  | none => (.ok (), { c with working := some c.durable, begun := true })

/-- Run a script on the working copy (on the durable state when no transaction is open). -/
def execute (c : Connection σ) (x : Script σ ε α) : Except ε α × Connection σ :=
  match c.working with
  | some w =>
    let (r, cursor, w') := x.exec raise F c.cursor w
    (r, { c with working := some w', cursor := cursor })
  | none =>
    let (r, cursor, s') := x.exec raise F c.cursor c.durable
    (r, { c with durable := s', cursor := cursor })

/-- COMMIT: the working copy becomes durable.  A failing COMMIT reports an error and leaves the
    transaction open, unless the schedule says it had taken effect. -/
def commit (c : Connection σ) : Except ε Unit × Connection σ :=
  match F.commit with
  | none =>
    (.ok (), { c with durable := c.working.getD c.durable, working := none,
                      committed := true, applied := true })
  | some (true, fault) =>
    (.error (raise fault), { c with durable := c.working.getD c.durable, working := none,
                                    applied := true })
  | some (false, fault) => (.error (raise fault), c)

/-- ROLLBACK: drop the working copy. -/
def rollback (c : Connection σ) : Except ε Unit × Connection σ :=
  match F.rollback c.rollbacks with
  | some fault => (.error (raise fault), { c with rollbacks := c.rollbacks + 1 })
  | none => (.ok (), { c with working := none, rollbacks := c.rollbacks + 1 })

end Connection

end Aurora
