/-
  A reentrant lock that the requests of a pool of threads share.

  An exchange takes the lock, drops it, happens inside it, or has nothing to do with it.  A request
  in one section takes the lock from outside, does what it does inside while it holds it, drops it
  as often as it took it, and does not come back (`Phase.next`).  If every request's program does
  so on all its runs, the holder of the lock is the thread whose request is in its section
  (`Guarded`), no two requests are in their sections together, and what a request does inside is
  not interrupted by what another one does inside (`contiguous`).
-/
import Aurora.Lib.Threads

namespace Aurora

/-- What an exchange does to the lock. -/
inductive GateEffect
  | takes | drops | inside | outside
deriving DecidableEq

/-- The lock's owner, with how often it took the lock again. -/
abbrev GateOwner (Tid : Type) := Option (Tid × Nat)

/-- What an exchange of a thread does to the owner. -/
inductive GateStep {Tid : Type} (t : Tid) : GateEffect → GateOwner Tid → GateOwner Tid → Prop
  | takesFree : GateStep t .takes none (some (t, 0))
  | takesAgain (n : Nat) : GateStep t .takes (some (t, n)) (some (t, n + 1))
  | dropsLast : GateStep t .drops (some (t, 0)) none
  | drops (n : Nat) : GateStep t .drops (some (t, n + 1)) (some (t, n))
  | inside (g : GateOwner Tid) : GateStep t .inside g g
  | outside (g : GateOwner Tid) : GateStep t .outside g g

theorem GateStep.of_inside {Tid : Type} {t : Tid} {g g' : GateOwner Tid}
    (h : GateStep t .inside g g') : g' = g := by
  cases h
  rfl

theorem GateStep.of_outside {Tid : Type} {t : Tid} {g g' : GateOwner Tid}
    (h : GateStep t .outside g g') : g' = g := by
  cases h
  rfl

/-- Where a request is: before its section, in it, or past it. -/
inductive Phase
  | before
  | holding (n : Nat)
  | after
deriving DecidableEq

namespace Phase

/-- The phase behind an effect. -/
def next : Phase → GateEffect → Option Phase
  | ph, .outside => some ph
  | .before, .takes => some (.holding 0)
  | .holding n, .takes => some (.holding (n + 1))
  | .holding 0, .drops => some .after
  | .holding (n + 1), .drops => some (.holding n)
  | .holding n, .inside => some (.holding n)
  | _, _ => none

/-- The request does not hold the lock. -/
def Out : Phase → Prop
  | .holding _ => False
  | _ => True

theorem next_inside {ph ph' : Phase} (h : ph.next .inside = some ph') :
    ∃ n, ph = .holding n ∧ ph' = .holding n := by
  cases ph with
  | holding n => exact ⟨n, rfl, (Option.some.inj h).symm⟩
  | before => cases h
  | after => cases h

/-- Before the gate no call of it was made. -/
theorem next_before {e : GateEffect} {ph : Phase} (h : ph.next e = some .before) :
    ph = .before := by
  cases ph with
  | before => rfl
  | after => cases e <;> cases h
  | holding n =>
    cases e <;> cases n <;> cases h

theorem next_after {e : GateEffect} {ph : Phase} (h : Phase.after.next e = some ph) :
    ph = .after ∧ e = .outside := by
  cases e with
  | outside => exact ⟨(Option.some.inj h).symm, rfl⟩
  | takes => cases h
  | drops => cases h
  | inside => cases h

end Phase

variable {Tid Request ε α σ : Type} {I : Interface} [DecidableEq Tid]
  {program : Request → Program I ε α} {env : σ → Tid → Exchange I → σ → Prop}

/-- The monitor of a request's section. -/
def sectionNext (effect : Exchange I → GateEffect) (ph : Phase) (x : Exchange I) : Option Phase :=
  ph.next (effect x)

/-- Every request keeps to one section. -/
def InSections (effect : Exchange I → GateEffect) (program : Request → Program I ε α) : Prop :=
  ∀ r, (program r).Passes (sectionNext effect) .before fun _ ph => ph.Out

/-- The watch of the sections. -/
def sectionWatch (effect : Exchange I → GateEffect) (h : InSections effect program) :
    Watch program Phase where
  next := sectionNext effect
  init := fun _ => .before
  final := fun _ _ ph => ph.Out
  passes := h

/-- How the finer states of a monitor stand to the phases of the section. -/
structure PhaseOf {M : Type} (w : Watch program M) (effect : Exchange I → GateEffect)
    (phase : M → Phase) : Prop where
  init : ∀ r, phase (w.init r) = .before
  next : ∀ m x m', w.next m x = some m' → (phase m).next (effect x) = some (phase m')
  final : ∀ r result m, w.final r result m → (phase m).Out

/-- A watch that knows the phase shows that every request keeps to its section. -/
theorem PhaseOf.inSections {M : Type} {w : Watch program M} {effect : Exchange I → GateEffect}
    {phase : M → Phase} (h : PhaseOf w effect phase) : InSections effect program := by
  intro r
  have hpasses : (program r).Passes (sectionNext effect) (phase (w.init r)) fun _ ph => ph.Out :=
    (w.passes r).coarsen h.next (h.final r)
  rwa [h.init] at hpasses

section Gate

variable {effect : Exchange I → GateEffect} {gate : σ → GateOwner Tid}
  {h : InSections effect program}

/-- The lock is held by the thread whose request is in its section, and as often. -/
def Guarded (gate : σ → GateOwner Tid) (s : Watched Tid Request σ Phase) : Prop :=
  ∀ t n, gate s.shared = some (t, n) ↔ ∃ r, s.seen t = some (r, .holding n)

omit [DecidableEq Tid] in
theorem Guarded.unique {s : Watched Tid Request σ Phase} (hg : Guarded gate s) {t u : Tid}
    {r r' : Request} {n n' : Nat} (ht : s.seen t = some (r, .holding n))
    (hu : s.seen u = some (r', .holding n')) : u = t := by
  have h₁ := (hg t n).mpr ⟨r, ht⟩
  have h₂ := (hg u n').mpr ⟨r', hu⟩
  rw [h₁] at h₂
  exact (congrArg Prod.fst (Option.some.inj h₂)).symm

/-- A thread outside its section may change its monitor to another phase outside. -/
theorem Guarded.update_out {s : Watched Tid Request σ Phase} (hg : Guarded gate s) {t : Tid}
    {shared : σ} (hshared : gate shared = gate s.shared) {seen : Option (Request × Phase)}
    (hbefore : ∀ r n, s.seen t ≠ some (r, .holding n)) (hafter : ∀ r n, seen ≠ some (r, .holding n)) :
    Guarded gate ⟨shared, Function.update s.seen t seen⟩ := by
  intro u n
  show gate shared = _ ↔ ∃ r, Function.update s.seen t seen u = _
  rw [hshared, hg u n]
  by_cases hu : u = t
  · subst hu
    rw [Function.update_self]
    exact ⟨fun ⟨r, hr⟩ => absurd hr (hbefore r n), fun ⟨r, hr⟩ => absurd hr (hafter r n)⟩
  · rw [Function.update_of_ne hu]

/-- The holder's monitor and the lock move together. -/
theorem Guarded.update_holder {s : Watched Tid Request σ Phase} (hg : Guarded gate s) {t : Tid}
    {shared : σ} {r : Request} {n' : Nat} (hshared : gate shared = some (t, n'))
    (hbefore : gate s.shared = none ∨ ∃ n, gate s.shared = some (t, n)) :
    Guarded gate ⟨shared, Function.update s.seen t (some (r, .holding n'))⟩ := by
  intro u n
  show gate shared = _ ↔ ∃ r', Function.update s.seen t _ u = _
  rw [hshared]
  by_cases hu : u = t
  · subst hu
    rw [Function.update_self]
    constructor
    · intro heq
      obtain rfl := congrArg Prod.snd (Option.some.inj heq)
      exact ⟨r, rfl⟩
    · rintro ⟨r', heq⟩
      cases heq
      rfl
  · rw [Function.update_of_ne hu, ← hg u n]
    refine iff_of_false (fun heq => hu (congrArg Prod.fst (Option.some.inj heq)).symm) ?_
    rintro heq
    rcases hbefore with hnone | ⟨m, hsome⟩
    · rw [hnone] at heq
      cases heq
    · rw [hsome] at heq
      exact hu (congrArg Prod.fst (Option.some.inj heq)).symm

/-- The lock after the holder dropped it for the last time. -/
theorem Guarded.update_free {s : Watched Tid Request σ Phase} (hg : Guarded gate s) {t : Tid}
    {shared : σ} {seen : Option (Request × Phase)} (hshared : gate shared = none)
    (hbefore : gate s.shared = some (t, 0)) (hafter : ∀ r n, seen ≠ some (r, .holding n)) :
    Guarded gate ⟨shared, Function.update s.seen t seen⟩ := by
  intro u n
  show gate shared = _ ↔ ∃ r', Function.update s.seen t _ u = _
  rw [hshared]
  refine iff_of_false (by simp) ?_
  by_cases hu : u = t
  · subst hu
    rw [Function.update_self]
    exact fun ⟨r, hr⟩ => hafter r n hr
  · rw [Function.update_of_ne hu, ← hg u n, hbefore]
    exact fun heq => hu (congrArg Prod.fst (Option.some.inj heq)).symm

omit [DecidableEq Tid] in
theorem guarded_start {shared : σ} (hfree : gate shared = none) :
    Guarded gate (Watch.start shared : Watched Tid Request σ Phase) := by
  intro t n
  show gate shared = _ ↔ ∃ r, none = _
  rw [hfree]
  simp

/-- Every move keeps the lock with the request in its section. -/
theorem Guarded.step {s s' : Watched Tid Request σ Phase} {move : Move Tid Request I ε α}
    (henv : ∀ s t x s', env s t x s' → GateStep t (effect x) (gate s) (gate s'))
    (hg : Guarded gate s) (hstep : Watch.Step (sectionWatch effect h) env s move s') :
    Guarded gate s' := by
  cases hstep with
  | begins hidle =>
    refine hg.update_out rfl (fun r n hr => ?_) (fun r n hr => ?_)
    · rw [hidle] at hr
      cases hr
    · cases hr
  | @calls t r ph ph' x shared hseen hm he =>
    have hgate := henv _ _ _ _ he
    replace hm : ph.next (effect x) = some ph' := hm
    have hnot : (∀ n, ph ≠ .holding n) → ∀ r n, s.seen t ≠ some (r, .holding n) := by
      intro hph r n hr
      rw [hseen] at hr
      exact hph n (congrArg Prod.snd (Option.some.inj hr))
    have hsome : ∀ n, ph = .holding n → gate s.shared = some (t, n) :=
      fun n hph => (hg t n).mpr ⟨r, hph ▸ hseen⟩
    -- the phase says how the lock was held, the exchange what became of it
    cases heff : effect x with
    | outside =>
      rw [heff] at hgate hm
      have hsame := hgate.of_outside
      obtain rfl : ph = ph' := by
        cases ph <;> exact Option.some.inj hm
      cases ph with
      | holding n =>
        exact hg.update_holder (hsame.trans (hsome n rfl)) (.inr ⟨n, hsome n rfl⟩)
      | before => exact hg.update_out hsame (hnot (by simp)) (by simp)
      | after => exact hg.update_out hsame (hnot (by simp)) (by simp)
    | inside =>
      rw [heff] at hgate hm
      obtain ⟨n, rfl, rfl⟩ := Phase.next_inside hm
      have hsame := hgate.of_inside
      exact hg.update_holder (hsame.trans (hsome n rfl)) (.inr ⟨n, hsome n rfl⟩)
    | takes =>
      rw [heff] at hgate hm
      cases ph with
      | before =>
        obtain rfl := Option.some.inj hm
        generalize hb : gate s.shared = before at hgate
        generalize ha : gate shared = later at hgate
        cases hgate with
        | takesFree => exact hg.update_holder ha (.inl hb)
        | takesAgain n =>
          obtain ⟨r', hr'⟩ := (hg t n).mp hb
          exact absurd hr' (hnot (by simp) r' n)
      | holding n =>
        obtain rfl := Option.some.inj hm
        rw [hsome n rfl] at hgate
        generalize ha : gate shared = later at hgate
        cases hgate with
        | takesAgain => exact hg.update_holder ha (.inr ⟨n, hsome n rfl⟩)
      | after => cases hm
    | drops =>
      rw [heff] at hgate hm
      cases ph with
      | before => cases hm
      | after => cases hm
      | holding n =>
        rw [hsome n rfl] at hgate
        generalize ha : gate shared = later at hgate
        cases hgate with
        | dropsLast =>
          obtain rfl := Option.some.inj hm
          exact hg.update_free ha (hsome 0 rfl) (by simp)
        | drops n =>
          obtain rfl := Option.some.inj hm
          exact hg.update_holder ha (.inr ⟨n + 1, hsome _ rfl⟩)
  | @ends t r ph result hseen hm =>
    refine hg.update_out rfl (fun r' n hr => ?_) (by simp)
    rw [hseen] at hr
    obtain rfl : ph = .holding n := congrArg Prod.snd (Option.some.inj hr)
    exact hm

theorem Guarded.trail {s s' : Watched Tid Request σ Phase} {moves : List (Move Tid Request I ε α)}
    (henv : ∀ s t x s', env s t x s' → GateStep t (effect x) (gate s) (gate s'))
    (hg : Guarded gate s) (ht : Trail (Watch.Step (sectionWatch effect h) env) s moves s') :
    Guarded gate s' := by
  induction ht with
  | nil => exact hg
  | cons hstep _ ih => exact ih (hg.step henv hstep)

/-- The holder of the lock, as a finer watch sees it. -/
theorem guarded_of_trail {M : Type} {w : Watch program M} {phase : M → Phase}
    (hphase : PhaseOf w effect phase)
    (henv : ∀ s t x s', env s t x s' → GateStep t (effect x) (gate s) (gate s'))
    {s s' : Watched Tid Request σ M} {moves : List (Move Tid Request I ε α)}
    (hg : Guarded gate (s.coarsen phase)) (ht : Trail (Watch.Step w env) s moves s') :
    Guarded gate (s'.coarsen phase) := by
  induction ht with
  | nil => exact hg
  | cons hstep _ ih =>
    have hcoarse : Watch.Step (sectionWatch effect hphase.inSections) env _ _ _ :=
      hstep.coarsen (fun r => (hphase.init r).symm) hphase.next hphase.final
    exact ih (hg.step henv hcoarse)

/-- A request past its section stays there until it ends. -/
theorem stays_after {s s' : Watched Tid Request σ Phase} {moves : List (Move Tid Request I ε α)}
    {t : Tid} {r : Request} (ht : Trail (Watch.Step (sectionWatch effect h) env) s moves s')
    (hafter : s.seen t = some (r, .after)) (hmoves : ∀ r result, .ends t r result ∉ moves) :
    s'.seen t = some (r, .after) := by
  induction ht with
  | nil => exact hafter
  | @cons s m s' e es hstep _ ih =>
    refine ih ?_ fun r result hmem => hmoves r result (List.mem_cons_of_mem _ hmem)
    cases hstep with
    | @begins u r' hidle =>
      have hu : t ≠ u := by
        rintro rfl
        rw [hidle] at hafter
        cases hafter
      show Function.update s.seen u _ t = _
      rw [Function.update_of_ne hu, hafter]
    | @calls u r' ph ph' x shared hseen hm he =>
      show Function.update s.seen u _ t = _
      by_cases hu : t = u
      · subst hu
        rw [hseen] at hafter
        obtain ⟨rfl, rfl⟩ := Prod.mk.inj (Option.some.inj hafter)
        rw [Function.update_self, (Phase.next_after hm).1]
      · rw [Function.update_of_ne hu, hafter]
    | @ends u r' ph result hseen hm =>
      have hu : t ≠ u := by
        rintro rfl
        exact hmoves _ _ List.mem_cons_self
      show Function.update s.seen u _ t = _
      rw [Function.update_of_ne hu, hafter]

/-- A request that came to its section goes on with the same request, not before it. -/
theorem stays_begun {s s' : Watched Tid Request σ Phase} {moves : List (Move Tid Request I ε α)}
    {t : Tid} {r : Request} {ph : Phase}
    (ht : Trail (Watch.Step (sectionWatch effect h) env) s moves s')
    (hseen : s.seen t = some (r, ph)) (hph : ph ≠ .before)
    (hmoves : ∀ r result, .ends t r result ∉ moves) :
    ∃ ph', s'.seen t = some (r, ph') ∧ ph' ≠ .before := by
  induction ht generalizing ph with
  | nil => exact ⟨ph, hseen, hph⟩
  | @cons s m s' e es hstep _ ih =>
    have hrest : ∀ r result, .ends t r result ∉ es :=
      fun r result hmem => hmoves r result (List.mem_cons_of_mem _ hmem)
    by_cases hother : e.thread ≠ t
    · exact ih ((hstep.seen_other hother).trans hseen) hph hrest
    · obtain rfl : e.thread = t := not_not.mp hother
      cases hstep with
      | begins hidle =>
        rw [Move.thread, hidle] at hseen
        cases hseen
      | @calls u r' ph₁ ph' x shared hu hm he =>
        rw [Move.thread, hu] at hseen
        obtain ⟨rfl, rfl⟩ := Prod.mk.inj (Option.some.inj hseen)
        refine @ih ph' (Function.update_self ..) ?_ hrest
        rintro rfl
        exact hph (Phase.next_before hm)
      | ends => exact absurd List.mem_cons_self (hmoves _ _)

/-- An exchange inside comes from a request in its section. -/
theorem holding_of_inside {s s' : Watched Tid Request σ Phase} {t : Tid} {r : Request}
    {x : Exchange I} (hstep : Watch.Step (sectionWatch effect h) env s (.calls t r x) s')
    (hx : effect x = .inside) :
    ∃ n, s.seen t = some (r, .holding n) ∧ s'.seen t = some (r, .holding n) := by
  cases hstep with
  | @calls _ _ ph ph' _ shared hseen hm he =>
    have hm' : ph.next (effect x) = some ph' := hm
    rw [hx] at hm'
    obtain ⟨n, rfl, rfl⟩ := Phase.next_inside hm'
    exact ⟨n, hseen, Function.update_self ..⟩

variable {shared : σ} {p : Pool Tid Request I ε α σ} {pre mid post : List (Move Tid Request I ε α)}
  {t u : Tid} {r r' r'' : Request} {x y z : Exchange I}

/-- While a thread has just done something inside, no other thread does. -/
theorem exclusive (h : InSections effect program)
    (henv : ∀ s t x s', env s t x s' → GateStep t (effect x) (gate s) (gate s'))
    (hfree : gate shared = none)
    (ht : Trail (Pool.Step program env) (Pool.idle shared) (pre ++ .calls t r x :: mid) p)
    (hx : effect x = .inside) (hquiet : ∀ move ∈ mid, move.thread ≠ t)
    (hz : .calls u r' z ∈ mid) : effect z ≠ .inside := by
  intro hinside
  obtain ⟨s, hs, -⟩ := (sectionWatch effect h).follows ht
  obtain ⟨s₁, hpre, hs⟩ := trail_append.mp hs
  obtain ⟨s₂, hcall, hs⟩ := trail_cons.mp hs
  obtain ⟨before, after, rfl⟩ := List.append_of_mem hz
  obtain ⟨s₃, hbefore, hs⟩ := trail_append.mp hs
  obtain ⟨s₄, hz', -⟩ := trail_cons.mp hs
  have hguarded := ((Guarded.trail henv (guarded_start hfree) hpre).step henv hcall).trail henv
    hbefore
  obtain ⟨n, -, hn⟩ := holding_of_inside hcall hx
  obtain ⟨n', hn', -⟩ := holding_of_inside hz' hinside
  have hstill := Watch.seen_of_quiet hbefore
    (fun move hmem => hquiet move (List.mem_append_left _ hmem))
  exact hquiet _ hz (hguarded.unique (hstill.trans hn) hn')

/-- What a request does inside its section is not interrupted by another request's. -/
theorem contiguous (h : InSections effect program)
    (henv : ∀ s t x s', env s t x s' → GateStep t (effect x) (gate s) (gate s'))
    (hfree : gate shared = none)
    (ht : Trail (Pool.Step program env) (Pool.idle shared)
      (pre ++ .calls t r x :: (mid ++ .calls t r' y :: post)) p)
    (hx : effect x = .inside) (hy : effect y = .inside)
    (hmid : ∀ r result, .ends t r result ∉ mid) (hz : .calls u r'' z ∈ mid)
    (hinside : effect z = .inside) : u = t := by
  obtain ⟨s, hs, -⟩ := (sectionWatch effect h).follows ht
  obtain ⟨s₁, hpre, hs⟩ := trail_append.mp hs
  obtain ⟨s₂, hcall, hs⟩ := trail_cons.mp hs
  obtain ⟨s₅, hmid', hs⟩ := trail_append.mp hs
  obtain ⟨s₆, hlast, -⟩ := trail_cons.mp hs
  obtain ⟨before, after, rfl⟩ := List.append_of_mem hz
  obtain ⟨s₃, hbefore, hs⟩ := trail_append.mp hmid'
  obtain ⟨n, -, hn⟩ := holding_of_inside hcall hx
  obtain ⟨n', hn', -⟩ := holding_of_inside hlast hy
  have hguarded := ((Guarded.trail henv (guarded_start hfree) hpre).step henv hcall).trail henv
    hbefore
  obtain ⟨ph, hph, hbegun⟩ := stays_begun hbefore hn (by simp)
    fun r result hmem => hmid r result (List.mem_append_left _ hmem)
  -- the request holds the lock here, or it could not do `y` inside
  cases ph with
  | before => exact absurd rfl hbegun
  | after =>
    have hafter := stays_after hs hph
      fun r result hmem => hmid r result (List.mem_append_right _ hmem)
    rw [hafter] at hn'
    cases hn'
  | holding k =>
    obtain ⟨s₄, hz', -⟩ := trail_cons.mp hs
    obtain ⟨k', hk', -⟩ := holding_of_inside hz' hinside
    exact hguarded.unique hph hk'

/-- A thread whose request is over does not hold the lock. -/
theorem released (h : InSections effect program)
    (henv : ∀ s t x s', env s t x s' → GateStep t (effect x) (gate s) (gate s'))
    (hfree : gate shared = none)
    (ht : Trail (Pool.Step program env) (Pool.idle shared) pre p) (hidle : p.task t = none)
    (n : Nat) : gate p.shared ≠ some (t, n) := by
  obtain ⟨s, hs, hagrees⟩ := (sectionWatch effect h).follows ht
  have hguarded := Guarded.trail henv (guarded_start hfree) hs
  intro hheld
  rw [← hagrees.shared] at hheld
  obtain ⟨r, hr⟩ := (hguarded t n).mp hheld
  rw [hagrees.idle t hidle] at hr
  cases hr

end Gate

end Aurora
