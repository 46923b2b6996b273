/-
  Monitors: what a program does, seen exchange by exchange.

  A monitor reads the exchanges of a program one at a time and may refuse one.  `Passes` says that
  no run of the program is refused and that every result meets a postcondition on the monitor's
  last state; it is computed along the program, so it composes at a bind, a catch and a call.  A
  monitor may also give up, and then claims nothing any more (`Tracks`).
  `Passes.runs` and `Passes.begins` bring it back to the transcripts.
-/
import Aurora.Lib.Worlds

namespace Aurora

namespace Program

variable {I : Interface} {ε φ α β M : Type}

/-- The monitor follows every run from `m`, and every result meets `Q`. -/
def Passes (next : M → Exchange I → Option M) :
    Program I ε α → M → (Except ε α → M → Prop) → Prop
  | done a, m, Q => Q (.ok a) m
  | raise e, m, Q => Q (.error e) m
  | call c rest, m, Q =>
    ∀ answer, ∃ m', next m ⟨c, answer⟩ = some m' ∧ (rest answer).Passes next m' Q

variable {next : M → Exchange I → Option M} {m : M}

/-! ## Rules -/

theorem passes_ofExcept {x : Except ε α} {Q : Except ε α → M → Prop} :
    (ofExcept x : Program I ε α).Passes next m Q ↔ Q x m := by
  cases x <;> exact Iff.rfl

/-- A weaker postcondition. -/
theorem Passes.mono {p : Program I ε α} {Q Q' : Except ε α → M → Prop} (h : p.Passes next m Q)
    (hQ : ∀ r m, Q r m → Q' r m) : p.Passes next m Q' := by
  induction p generalizing m with
  | done a => exact hQ _ _ h
  | raise e => exact hQ _ _ h
  | call c rest ih =>
    intro answer
    obtain ⟨m', hnext, hrest⟩ := h answer
    exact ⟨m', hnext, ih answer hrest⟩

/-- A coarser monitor, which sees less of the same exchanges. -/
theorem Passes.coarsen {N : Type} {next' : N → Exchange I → Option N} {f : M → N}
    {p : Program I ε α} {Q : Except ε α → M → Prop} {Q' : Except ε α → N → Prop}
    (hnext : ∀ m x m', next m x = some m' → next' (f m) x = some (f m'))
    (hQ : ∀ r m, Q r m → Q' r (f m)) (h : p.Passes next m Q) : p.Passes next' (f m) Q' := by
  induction p generalizing m with
  | done a => exact hQ _ _ h
  | raise e => exact hQ _ _ h
  | call c rest ih =>
    intro answer
    obtain ⟨m', hm, hrest⟩ := h answer
    exact ⟨f m', hnext _ _ _ hm, ih answer hrest⟩

/-- Sequencing: what follows starts from the monitor's state. -/
theorem passes_bind {x : Program I ε α} {f : α → Program I ε β} {Q : Except ε β → M → Prop} :
    (x >>= f).Passes next m Q ↔ x.Passes next m fun
      | .ok a, m' => (f a).Passes next m' Q
      | .error e, m' => Q (.error e) m' := by
  show (x.bind f).Passes next m Q ↔ _
  induction x generalizing m with
  | done a => exact Iff.rfl
  | raise e => exact Iff.rfl
  | call c rest ih =>
    exact forall_congr' fun answer => exists_congr fun m' => and_congr_right fun _ => ih answer

/-- A caught program passes as the program does. -/
theorem passes_catching {x : Program I ε α} {Q : Except φ (Except ε α) → M → Prop} :
    (x.catching : Program I φ (Except ε α)).Passes next m Q ↔
      x.Passes next m fun r m' => Q (.ok r) m' := by
  induction x generalizing m with
  | done a => exact Iff.rfl
  | raise e => exact Iff.rfl
  | call c rest ih =>
    exact forall_congr' fun answer => exists_congr fun m' => and_congr_right fun _ => ih answer

/-- What follows a program starts where the program ends. -/
theorem Passes.bind {x : Program I ε α} {f : α → Program I ε β} {P : Except ε α → M → Prop}
    {Q : Except ε β → M → Prop} (hx : x.Passes next m P)
    (hok : ∀ a m', P (.ok a) m' → (f a).Passes next m' Q)
    (herror : ∀ e m', P (.error e) m' → Q (.error e) m') : (x >>= f).Passes next m Q := by
  rw [passes_bind]
  refine hx.mono fun r m' hr => ?_
  cases r with
  | ok a => exact hok a m' hr
  | error e => exact herror e m' hr

/-- What follows a caught program starts where it ends, in either way. -/
theorem Passes.catching_bind {x : Program I ε α} {f : Except ε α → Program I φ β}
    {P : Except ε α → M → Prop} {Q : Except φ β → M → Prop} (hx : x.Passes next m P)
    (hf : ∀ r m', P r m' → (f r).Passes next m' Q) :
    ((x.catching : Program I φ (Except ε α)) >>= f).Passes next m Q := by
  rw [passes_bind, passes_catching]
  exact hx.mono hf

/-- A cleanup starts where the body ends. -/
theorem Passes.finallyDo {body : Program I ε α} {cleanup : Program I ε Unit}
    {P : Except ε α → M → Prop} {Q : Except ε α → M → Prop} (hbody : body.Passes next m P)
    (hcleanup : ∀ r m', P r m' → cleanup.Passes next m' fun
      | .ok _, m'' => Q r m''
      | .error e, m'' => Q (.error e) m'') :
    (finallyDo body cleanup).Passes next m Q := by
  refine hbody.catching_bind fun r m' hr => ?_
  refine (hcleanup r m' hr).bind (fun _ m'' h => ?_) fun _ _ h => h
  exact passes_ofExcept.mpr h

theorem passes_ask_bind {c : I.Call} {f : I.Answer c → Program I ε β}
    {Q : Except ε β → M → Prop} : (ask c >>= f).Passes next m Q ↔
      ∀ answer, ∃ m', next m ⟨c, answer⟩ = some m' ∧ (f answer).Passes next m' Q :=
  show (call c f).Passes next m Q ↔ _ from Iff.rfl

/-- The same where the answer may be an exception. -/
theorem passes_invoke_bind {c : I.Call} {value : I.Answer c → Except ε α}
    {f : α → Program I ε β} {Q : Except ε β → M → Prop} :
    (invoke c value >>= f).Passes next m Q ↔ ∀ answer, ∃ m', next m ⟨c, answer⟩ = some m' ∧
      match value answer with
      | .ok a => (f a).Passes next m' Q
      | .error e => Q (.error e) m' := by
  rw [passes_bind]
  refine forall_congr' fun answer => exists_congr fun m' => and_congr_right fun _ => ?_
  rw [passes_ofExcept]
  cases value answer <;> exact Iff.rfl

/-- A monitor that keeps up with another one passes what that one passes. -/
theorem Passes.simulate {N : Type} {next' : N → Exchange I → Option N} {allowed : I.Call → Prop}
    {R : M → N → Prop} {p : Program I ε α} {Q : Except ε α → M → Prop} {n : N}
    (hsim : ∀ m x m' n, allowed x.1 → next m x = some m' → R m n →
      ∃ n', next' n x = some n' ∧ R m' n')
    (hmakes : p.Makes allowed) (h : p.Passes next m Q) (hR : R m n) :
    p.Passes next' n fun r n' => ∃ m', R m' n' ∧ Q r m' := by
  induction p generalizing m n with
  | done a => exact ⟨m, hR, h⟩
  | raise e => exact ⟨m, hR, h⟩
  | call c rest ih =>
    intro answer
    obtain ⟨m', hm, hrest⟩ := h answer
    obtain ⟨n', hn, hR'⟩ := hsim m ⟨c, answer⟩ m' n hmakes.1 hm hR
    exact ⟨n', hn, ih answer (hmakes.2 answer) hrest hR'⟩

/-! ## Monitors that may give up -/

/-- A monitor that has given up lets everything pass. -/
def stopping (next : M → Exchange I → Option (Option M)) :
    Option M → Exchange I → Option (Option M)
  | none, _ => some none
  | some m, x => next m x

/-- Unless the monitor gives up, every result meets `Q` on its last state. -/
def Tracks (next : M → Exchange I → Option (Option M)) (p : Program I ε α) (m : M)
    (Q : Except ε α → M → Prop) : Prop :=
  p.Passes (stopping next) (some m) fun r last => ∀ m', last = some m' → Q r m'

section Tracks

variable {live : M → Exchange I → Option (Option M)}

/-- A monitor that has stopped allows everything. -/
theorem passes_stopped {p : Program I ε α} {Q : Except ε α → M → Prop} :
    p.Passes (stopping live) none fun r last => ∀ m', last = some m' → Q r m' := by
  induction p with
  | done a => exact fun _ h => by cases h
  | raise e => exact fun _ h => by cases h
  | call c rest ih => exact fun answer => ⟨none, rfl, ih answer⟩

theorem tracks_pure {a : α} {Q : Except ε α → M → Prop} (h : Q (.ok a) m) :
    (pure a : Program I ε α).Tracks live m Q := fun _ heq => Option.some.inj heq ▸ h

theorem tracks_raise {e : ε} {Q : Except ε α → M → Prop} (h : Q (.error e) m) :
    (raise e : Program I ε α).Tracks live m Q := fun _ heq => Option.some.inj heq ▸ h

theorem tracks_ofExcept {x : Except ε α} {Q : Except ε α → M → Prop} (h : Q x m) :
    (ofExcept x : Program I ε α).Tracks live m Q :=
  passes_ofExcept.mpr fun _ heq => Option.some.inj heq ▸ h

/-- A weaker condition is tracked as well. -/
theorem Tracks.mono {p : Program I ε α} {Q Q' : Except ε α → M → Prop} (h : p.Tracks live m Q)
    (hQ : ∀ r m, Q r m → Q' r m) : p.Tracks live m Q' :=
  Passes.mono h fun r _ hr m' heq => hQ r m' (hr m' heq)

/-- Sequencing: what follows goes on from where the monitor is. -/
theorem Tracks.bind {x : Program I ε α} {f : α → Program I ε β} {P : Except ε α → M → Prop}
    {Q : Except ε β → M → Prop} (hx : x.Tracks live m P)
    (hok : ∀ a m', P (.ok a) m' → (f a).Tracks live m' Q)
    (herror : ∀ e m', P (.error e) m' → Q (.error e) m') : (x >>= f).Tracks live m Q := by
  refine Passes.bind hx (fun a last hlast => ?_) fun e last hlast m' heq =>
    herror e m' (hlast m' heq)
  cases last with
  | none => exact passes_stopped
  | some m' => exact hok a m' (hlast m' rfl)

theorem Tracks.catching_bind {x : Program I ε α} {f : Except ε α → Program I φ β}
    {P : Except ε α → M → Prop} {Q : Except φ β → M → Prop} (hx : x.Tracks live m P)
    (hf : ∀ r m', P r m' → (f r).Tracks live m' Q) :
    ((x.catching : Program I φ (Except ε α)) >>= f).Tracks live m Q := by
  refine Passes.catching_bind hx fun r last hlast => ?_
  cases last with
  | none => exact passes_stopped
  | some m' => exact hf r m' (hlast m' rfl)

/-- A call, whose answers the monitor follows or gives up at. -/
theorem tracks_call {c : I.Call} {rest : I.Answer c → Program I ε α} {Q : Except ε α → M → Prop}
    (h : ∀ answer, live m ⟨c, answer⟩ = some none ∨
      ∃ m', live m ⟨c, answer⟩ = some (some m') ∧ (rest answer).Tracks live m' Q) :
    (call c rest).Tracks live m Q := by
  intro answer
  rcases h answer with hstop | ⟨m', hm, hrest⟩
  · exact ⟨none, hstop, passes_stopped⟩
  · exact ⟨some m', hm, hrest⟩

end Tracks

/-! ## Back to transcripts -/

/-- Where the monitor is after a transcript. -/
def monitored (next : M → Exchange I → Option M) (m : M) (t : List (Exchange I)) : Option M :=
  t.foldlM next m

theorem monitored_cons {x : Exchange I} {t : List (Exchange I)} :
    monitored next m (x :: t) = (next m x).bind fun m' => monitored next m' t := rfl

theorem monitored_append {t t' : List (Exchange I)} :
    monitored next m (t ++ t') = (monitored next m t).bind fun m' => monitored next m' t' :=
  List.foldlM_append ..

theorem Passes.runs {p : Program I ε α} {Q : Except ε α → M → Prop} {t : List (Exchange I)}
    {r : Except ε α} (h : p.Passes next m Q) (hr : Runs p t r) :
    ∃ m', monitored next m t = some m' ∧ Q r m' := by
  induction hr generalizing m with
  | done a => exact ⟨m, rfl, h⟩
  | raise e => exact ⟨m, rfl, h⟩
  | call answer _ ih =>
    obtain ⟨m', hnext, hrest⟩ := h answer
    obtain ⟨m'', ht, hQ⟩ := ih hrest
    exact ⟨m'', by rw [monitored_cons, hnext]; exact ht, hQ⟩

theorem Passes.begins {p : Program I ε α} {Q : Except ε α → M → Prop} {t : List (Exchange I)}
    (h : p.Passes next m Q) (ht : Begins p t) : ∃ m', monitored next m t = some m' := by
  induction ht generalizing m with
  | nil p => exact ⟨m, rfl⟩
  | call answer _ ih =>
    obtain ⟨m', hnext, hrest⟩ := h answer
    obtain ⟨m'', ht⟩ := ih hrest
    exact ⟨m'', by rw [monitored_cons, hnext]; exact ht⟩

/-! ## Observers -/

section Observers

variable {observe : M → Exchange I → M} {legal : M → Exchange I → Prop}
  [∀ m x, Decidable (legal m x)]

/-- The monitor that sums up the past and refuses what is illegal after it. -/
def guarded (observe : M → Exchange I → M) (legal : M → Exchange I → Prop)
    [∀ m x, Decidable (legal m x)] (m : M) (x : Exchange I) : Option M :=
  if legal m x then some (observe m x) else none

theorem guarded_of_legal {m : M} {x : Exchange I} (h : legal m x) :
    guarded observe legal m x = some (observe m x) := if_pos h

/-- A transcript it follows is legal at each exchange, and is summed up at its end. -/
theorem monitored_guarded {t : List (Exchange I)} {m' : M}
    (h : monitored (guarded observe legal) m t = some m') :
    m' = t.foldl observe m ∧ ∀ a x b, t = a ++ x :: b → legal (a.foldl observe m) x := by
  induction t generalizing m with
  | nil =>
    obtain rfl := Option.some.inj h
    exact ⟨rfl, fun a x b hab => absurd hab.symm (by simp)⟩
  | cons y t ih =>
    rw [monitored_cons, guarded] at h
    split at h
    next hlegal =>
      obtain ⟨hm, hrest⟩ := ih h
      refine ⟨hm, fun a x b hab => ?_⟩
      cases a with
      | nil =>
        obtain ⟨rfl, -⟩ := List.cons.inj hab
        exact hlegal
      | cons z a =>
        obtain ⟨rfl, htail⟩ := List.cons.inj hab
        exact hrest a x b htail
    next => cases h

end Observers

end Program

end Aurora
