/-
  How often the devices are changed, over every interleaving.

  Every execution of a device's adapter has a granted attempt of its own behind it, in the same
  request and at the limiter of that device, also inside a composite (`Paid`).  While the clock moves
  by less than the window of a limiter, that limiter grants no more attempts than its global limit,
  from whatever state and whatever the clients, the evictions and the clearings (`Spared`).

  1. **One request** — what begins a run of a request is paid for.
  2. **All threads** — thread by thread, and then together.
  3. **A window** — what a limiter still holds of the attempts it granted.
  4. **The law** — `mutation_rate`.
-/
import Aurora.ControlPlane.Authorization

namespace Aurora.ControlPlane

open Program

variable {Tid Digest : Type}

/-! ## One request -/

/-- The limiter granted an attempt. -/
def grantedBy (limiter : ControlLimiter) : Exchange ControlInterface → Bool
  | ⟨.beginAttempt asked _, .ok granted⟩ => decide (asked = limiter) && granted
  | _ => false

/-- An execution of this device started. -/
def executesOn (device : Device) (x : Exchange ControlInterface) : Bool :=
  x.1.starts.any fun command => command.device = device

/-- However far these calls have come, each execution has a grant of its own. -/
def Paid (device : Device) (t : List (Exchange ControlInterface)) : Prop :=
  ∀ a b, t = a ++ b → a.countP (executesOn device) ≤ a.countP (grantedBy (.device device))

section Requests

variable {device : Device} {t t' : List (Exchange ControlInterface)} {services : ControlServices}

/-- An execution on a device starts a command of it. -/
theorem executesOn_iff {x : Exchange ControlInterface} :
    executesOn device x = true ↔ ∃ command, x.1.starts = some command ∧ command.device = device := by
  unfold executesOn
  cases x.1.starts with
  | none => simp
  | some command => simp

/-- The executions on one device are some of all. -/
theorem countP_executesOn_le : t.countP (executesOn device) ≤ executions t := by
  refine List.countP_mono_left fun x _ hx => ?_
  obtain ⟨command, hstarts, -⟩ := executesOn_iff.mp hx
  rw [hstarts]
  rfl

/-- Nothing has to be paid for idle calls. -/
theorem paid_of_idle (h : Idle t) : Paid device t := by
  rintro a b rfl
  have hidle : Idle a := fun x hx => h x (List.mem_append_left _ hx)
  exact (countP_executesOn_le.trans hidle.executions.le).trans (Nat.zero_le _)

theorem Paid.of_append (h : Paid device (t ++ t')) : Paid device t := by
  rintro a b rfl
  exact h a (b ++ t') (List.append_assoc ..)

theorem Paid.append (h : Paid device t) (h' : Paid device t') : Paid device (t ++ t') := by
  intro a b hab
  rcases List.append_eq_append_iff.mp hab with ⟨c, rfl, hc⟩ | ⟨c, hc, -⟩
  · rw [List.countP_append, List.countP_append]
    exact Nat.add_le_add (h t [] (List.append_nil t).symm) (h' c b hc)
  · exact h a c hc

/-- An operation is paid for before it executes. -/
theorem paid_of_once {clientIdentifier : String} {command : Command}
    {r : Except Thrown ControlResult} (h : ExecutesOnce clientIdentifier command t r) :
    Paid device t := by
  rintro a b rfl
  rcases Nat.eq_zero_or_pos (a.countP (executesOn device)) with hzero | hpos
  · rw [hzero]
    exact Nat.zero_le _
  obtain ⟨x, hx, hdevice⟩ := List.countP_pos_iff.mp hpos
  obtain ⟨first, last, rfl⟩ := List.append_of_mem hx
  obtain ⟨command', hstarts, rfl⟩ := executesOn_iff.mp hdevice
  obtain ⟨rfl, hgranted⟩ := h.start_cut (List.append_assoc first (x :: last) b) hstarts
  have hone : executions (first ++ x :: last) ≤ 1 := by
    have hall := h.executions
    unfold executions at *
    rw [List.countP_append] at hall
    omega
  have hgrant : 0 < (first ++ x :: last).countP (grantedBy (.device command'.device)) :=
    List.countP_pos_iff.mpr ⟨_, List.mem_append_left _ hgranted, by simp [grantedBy]⟩
  exact (countP_executesOn_le.trans hone).trans hgrant

/-- A child of a composite is paid for: it executes nothing, or once. -/
theorem paid_child {context : SessionContext} {token clientIdentifier : String}
    (child : ChildRun (services.ambient.childCall context token clientIdentifier)) :
    Paid device child.calls := by
  have hruns := child.runs
  rcases childCall_cases services.ambient context token clientIdentifier child.step with
    ⟨operation, -, hcall⟩ | ⟨operation, -, hcall⟩
  · rw [hcall] at hruns
    rcases runs_hyperhdr hruns with ⟨hidle, -⟩ | ⟨-, honce⟩
    · exact paid_of_idle hidle
    · exact paid_of_once honce
  · rw [hcall] at hruns
    rcases runs_wled hruns with ⟨hidle, -⟩ | ⟨-, honce⟩
    · exact paid_of_idle hidle
    · exact paid_of_once honce

theorem paid_children {context : SessionContext} {token clientIdentifier : String}
    (children : List (ChildRun (services.ambient.childCall context token clientIdentifier))) :
    Paid device (childCalls children) := by
  induction children with
  | nil => exact paid_of_idle idle_nil
  | cons child children ih => exact (paid_child child).append ih

/-- A run of a request is paid for, one kind of request after the other. -/
theorem paid_of_runs {request : ControlRequest} {r : Except Thrown ControlAnswer}
    (h : Runs (request.program services) t r) : Paid device t := by
  cases request with
  | login => exact paid_of_idle (idle_of_quiet quiet_postLogin h)
  | logout => exact paid_of_idle (idle_of_quiet makes_postLogout h)
  | visit => exact paid_of_idle (idle_of_quiet makes_visit h)
  | wled operation cookie form clientIdentifier =>
    rcases runs_postOperation h with
      ⟨hidle, -⟩ | ⟨token, context, fields, t₁, t₂, rfl, rfl, hsession, hcall⟩
    · exact paid_of_idle hidle
    refine (paid_of_idle (idle_of_quiet makes_requestSession hsession)).append ?_
    rcases runs_callWled hcall with
      hidle | ⟨input, confirmation, first, t', r', rfl, hfirst, -, hexecute⟩
    · exact paid_of_idle hidle
    refine (paid_of_idle hfirst).append ?_
    rcases runs_wled hexecute with ⟨hidle, -⟩ | ⟨-, honce⟩
    · exact paid_of_idle hidle
    · exact paid_of_once honce
  | hyperhdr operation cookie form clientIdentifier =>
    rcases runs_postOperation h with
      ⟨hidle, -⟩ | ⟨token, context, fields, t₁, t₂, rfl, rfl, hsession, hcall⟩
    · exact paid_of_idle hidle
    refine (paid_of_idle (idle_of_quiet makes_requestSession hsession)).append ?_
    obtain ⟨confirmation, r', -, hexecute⟩ := runs_callHyperhdr hcall
    rcases runs_hyperhdr hexecute with ⟨hidle, -⟩ | ⟨-, honce⟩
    · exact paid_of_idle hidle
    · exact paid_of_once honce
  | ambient operation cookie form clientIdentifier =>
    rcases runs_postOperation h with
      ⟨hidle, -⟩ | ⟨token, context, fields, t₁, t₂, rfl, rfl, hsession, hcall⟩
    · exact paid_of_idle hidle
    refine (paid_of_idle (idle_of_quiet makes_requestSession hsession)).append ?_
    obtain ⟨confirmation, r', -, hexecute⟩ := runs_callAmbient hcall
    rcases runs_ambient hexecute with ⟨hidle, -⟩ | ⟨context', csrfToken, -, hcomposes⟩
    · exact paid_of_idle hidle
    obtain ⟨children, gates, ending, rfl, hcomposite⟩ := hcomposes
    exact ((paid_of_idle hcomposite.gates_idle).append (paid_children children)).append
      (paid_of_idle hcomposite.ending_idle)

theorem paid_of_begins {request : ControlRequest} (h : Begins (request.program services) t) :
    Paid device t := by
  obtain ⟨rest, r, hruns⟩ := h.extends
  exact (paid_of_runs hruns).of_append

end Requests

/-! ## All threads -/

section Threads

variable [DecidableEq Tid] {device : Device} {services : ControlServices} {σ : Type}
  {env : σ → Tid → Exchange ControlInterface → σ → Prop} {shared : σ}
  {moves : List (ControlMove Tid)}
  {p : Pool Tid ControlRequest ControlInterface Thrown ControlAnswer σ}

/-- Each thread has paid, and goes on paying with whatever it does next in its request. -/
def PaysUp (device : Device) (moves : List (ControlMove Tid))
    (p : Pool Tid ControlRequest ControlInterface Thrown ControlAnswer σ) : Prop :=
  ∀ t, Paid device (callsOf t moves) ∧ ∀ request rest, p.task t = some (request, rest) →
    ∀ more, Begins rest more → Paid device (callsOf t moves ++ more)

/-- A move that exchanges nothing, and after which every thread that is busy was so before. -/
theorem PaysUp.quiet {e : ControlMove Tid}
    {p' : Pool Tid ControlRequest ControlInterface Thrown ControlAnswer σ}
    (h : PaysUp device moves p) (hcalls : ∀ u, callsOf u (moves ++ [e]) = callsOf u moves)
    (hbusy : ∀ u b, p'.task u = some b → p.task u = some b) :
    PaysUp device (moves ++ [e]) p' := by
  intro u
  rw [hcalls u]
  exact ⟨(h u).1, fun request rest htask => (h u).2 request rest (hbusy u _ htask)⟩

/-- A thread that is busy after another one finished was busy before. -/
theorem busy_of_update_none {f : Tid → Option (ControlRequest × ControlProgram ControlAnswer)}
    {t u : Tid} {b : ControlRequest × ControlProgram ControlAnswer}
    (h : Function.update f t none u = some b) : f u = some b := by
  rcases update_eq_some h with ⟨-, hnone⟩ | ⟨-, hbusy⟩
  · cases hnone
  · exact hbusy

/-- Every run keeps it, by induction on its moves; a request that begins is paid for as a whole. -/
theorem paysUp
    (h : Trail (Pool.Step (ControlRequest.program services) env) (Pool.idle shared) moves p) :
    PaysUp device moves p := by
  have hstart : PaysUp device ([] : List (ControlMove Tid))
      (Pool.idle (ε := Thrown) (α := ControlAnswer) shared) := fun t =>
    ⟨paid_of_idle idle_nil, fun _ _ hbusy => by cases hbusy⟩
  refine @Trail.invariant _ _ _ _ _ (PaysUp device) [] moves ?_ hstart h
  intro es p e p' ih hstep
  -- what another thread has exchanged does not change
  have hother : ∀ {u : Tid}, e.thread ≠ u → callsOf u (es ++ [e]) = callsOf u es := by
    intro u hu
    rw [callsOf_append, callsOf_cons_other hu]
    exact List.append_nil _
  intro u
  cases hstep with
  | @begins t request hidle =>
    have hsame : callsOf u (es ++ [.begins t request]) = callsOf u es := by
      rw [callsOf_append]
      exact List.append_nil _
    rw [hsame]
    refine ⟨(ih u).1, fun request' rest hbusy more hmore => ?_⟩
    rcases update_eq_some hbusy with ⟨rfl, heq⟩ | ⟨-, hbusy⟩
    · obtain ⟨rfl, rfl⟩ := Prod.mk.inj (Option.some.inj heq)
      exact (ih u).1.append (paid_of_begins hmore)
    · exact (ih u).2 request' rest hbusy more hmore
  | @calls t request c next answer after hbusy he =>
    by_cases hu : t = u
    · subst hu
      rw [callsOf_append, callsOf_cons_self]
      have hnext : ∀ more, Begins (next answer) more →
          Paid device (callsOf t es ++ [⟨c, answer⟩] ++ more) := by
        intro more hmore
        rw [List.append_assoc]
        exact (ih t).2 request _ hbusy _ (.call answer hmore)
      refine ⟨?_, fun request' rest hbusy' more hmore => ?_⟩
      · have hnow := hnext [] (.nil _)
        rwa [List.append_nil] at hnow
      · rcases update_eq_some hbusy' with ⟨-, heq⟩ | ⟨hne, -⟩
        · obtain ⟨-, rfl⟩ := Prod.mk.inj (Option.some.inj heq)
          exact hnext more hmore
        · exact absurd rfl hne
    · rw [hother hu]
      refine ⟨(ih u).1, fun request' rest hbusy' more hmore => ?_⟩
      rcases update_eq_some hbusy' with ⟨rfl, -⟩ | ⟨-, hbusy'⟩
      · exact absurd rfl hu
      · exact (ih u).2 request' rest hbusy' more hmore
  | returns =>
    exact ih.quiet (fun _ => callsOf_append.trans (List.append_nil _))
      (fun _ _ => busy_of_update_none) u
  | raises =>
    exact ih.quiet (fun _ => callsOf_append.trans (List.append_nil _))
      (fun _ _ => busy_of_update_none) u

/-- What holds of the counts under every label holds of the counts. -/
theorem countP_le_of_labels {E L : Type} [DecidableEq L] (label : E → L) {f g : E → Bool}
    (es : List E) (h : ∀ l, (es.filter fun e => label e = l).countP f ≤
      (es.filter fun e => label e = l).countP g) : es.countP f ≤ es.countP g := by
  induction hn : es.length using Nat.strong_induction_on generalizing es with
  | _ n ih =>
    cases es with
    | nil => exact Nat.zero_le _
    | cons e es =>
      -- what has the label of the first one, and the rest
      let mine : E → Bool := fun x => label x = label e
      let others := (e :: es).filter fun x => !mine x
      have hshorter : others.length < n := by
        have hfirst : mine e = true := decide_eq_true rfl
        have hdrop : others = es.filter fun x => !mine x :=
          List.filter_cons_of_neg (by simp [hfirst])
        rw [hdrop, ← hn]
        exact Nat.lt_succ_of_le (List.length_filter_le _ _)
      have hothers : others.countP f ≤ others.countP g := by
        refine ih others.length hshorter others (fun l => ?_) rfl
        have hfilter : (others.filter fun x => label x = l) =
            ((e :: es).filter fun x => label x = l).filter fun x => !mine x := by
          simp only [others, List.filter_filter, Bool.and_comm]
        by_cases hl : l = label e
        · have hnone : (others.filter fun x => label x = l) = [] := by
            rw [hfilter, List.filter_filter, List.filter_eq_nil_iff]
            simp [mine, hl]
          rw [hnone]
          exact Nat.zero_le _
        · have hall : (others.filter fun x => label x = l) =
              (e :: es).filter fun x => label x = l := by
            rw [hfilter, List.filter_eq_self]
            intro x hx
            have hlabel := of_decide_eq_true (List.mem_filter.mp hx).2
            simp [mine, hlabel, hl]
          rw [hall]
          exact h l
      rw [List.countP_eq_countP_filter_add (e :: es) f mine,
        List.countP_eq_countP_filter_add (e :: es) g mine]
      exact Nat.add_le_add (h (label e)) hothers

/-- A call for which this holds, by whatever thread. -/
def inCalls (f : Exchange ControlInterface → Bool) : ControlMove Tid → Bool
  | .calls _ _ x => f x
  | _ => false

/-- Counting a thread's calls is counting them in its moves. -/
theorem countP_callsOf {f : Exchange ControlInterface → Bool} {t : Tid} :
    (moves.filter fun e => e.thread = t).countP (inCalls f) = (callsOf t moves).countP f := by
  induction moves with
  | nil => rfl
  | cons e moves ih =>
    by_cases he : e.thread = t
    · rw [List.filter_cons_of_pos (by simpa using he), List.countP_cons, ih]
      cases e with
      | begins => rfl
      | ends => rfl
      | calls u request x =>
        obtain rfl : u = t := he
        rw [callsOf_cons_self, List.countP_cons]
        rfl
    · rw [List.filter_cons_of_neg (by simpa using he), callsOf_cons_other he, ih]

/-- Together the threads execute no more than they were granted. -/
theorem executions_le_granted
    (h : Trail (Pool.Step (ControlRequest.program services) env) (Pool.idle shared) moves p) :
    moves.countP (inCalls (executesOn device)) ≤
      moves.countP (inCalls (grantedBy (.device device))) := by
  refine countP_le_of_labels Move.thread moves fun t => ?_
  rw [countP_callsOf, countP_callsOf]
  exact (paysUp h t).1 (callsOf t moves) [] (List.append_nil _).symm

end Threads

/-! ## A window -/

section Window

variable {settings : BackendSettings Digest} {limiter : ControlLimiter} {start : ℚ}
  {moves : List (ControlMove Tid)} {e : ControlMove Tid} {backend after : Backend Digest}

/-- The call of a limiter was cut off, so what it left behind is unknown. -/
def cutOff : Exchange ControlInterface → Bool
  | ⟨.beginAttempt _ _, .error _⟩ => true
  | _ => false

/-- No call of a limiter was cut off. -/
def Uncut (moves : List (ControlMove Tid)) : Prop := ∀ e ∈ moves, inCalls cutOff e = false

/-- Since the start the clock has not gone back; while it is still in the window that began there,
the limiter holds a stamp for every attempt it has granted, and they are within its limit. -/
def Spared (settings : BackendSettings Digest) (limiter : ControlLimiter) (start : ℚ)
    (moves : List (ControlMove Tid)) (backend : Backend Digest) : Prop :=
  start ≤ backend.clock ∧
    (backend.clock - start < (settings.limits limiter).windowSeconds →
      ∃ stamps, List.Sublist stamps (backend.limiters limiter).globalAttempts ∧
        (∀ a ∈ stamps, start ≤ a) ∧
        stamps.length = moves.countP (inCalls (grantedBy limiter)) ∧
        stamps.length ≤ (settings.limits limiter).globalAttemptLimit)

theorem spared_nil :
    Spared settings limiter backend.clock ([] : List (ControlMove Tid)) backend :=
  ⟨le_refl _, fun _ => ⟨[], List.nil_sublist _, fun _ ha => absurd ha List.not_mem_nil, rfl,
    Nat.zero_le _⟩⟩

/-- A move that grants nothing and forgets nothing. -/
theorem Spared.keep (h : Spared settings limiter start moves backend)
    (hclock : backend.clock ≤ after.clock)
    (hstamps : (after.limiters limiter).globalAttempts =
      (backend.limiters limiter).globalAttempts)
    (hgrants : inCalls (grantedBy limiter) e = false) :
    Spared settings limiter start (moves ++ [e]) after := by
  refine ⟨h.1.trans hclock, fun hwindow => ?_⟩
  obtain ⟨stamps, hsublist, hstart, hlength, hlimit⟩ := h.2 (by linarith)
  refine ⟨stamps, hstamps ▸ hsublist, hstart, ?_, hlimit⟩
  rw [hlength, List.countP_append, List.countP_singleton, hgrants]
  rfl

variable [DecidableEq Digest]

/-- What an attempt does to the stamps of its limiter. -/
theorem globalAttempts_beginAttempt (bounds : LimiterBounds) (now : ℚ) (d : Digest)
    (held : LoginAttemptLimiter Digest) :
    (held.beginAttempt bounds now d).1 = false ∧
        (held.beginAttempt bounds now d).2.globalAttempts =
          LoginAttemptLimiter.live bounds now held.globalAttempts ∨
      (held.beginAttempt bounds now d).1 = true ∧
        (LoginAttemptLimiter.live bounds now held.globalAttempts).length <
          bounds.globalAttemptLimit ∧
        (held.beginAttempt bounds now d).2.globalAttempts =
          LoginAttemptLimiter.live bounds now held.globalAttempts ++ [now] := by
  unfold LoginAttemptLimiter.beginAttempt
  dsimp only
  split
  · exact .inl ⟨rfl, rfl⟩
  · rename_i hroom
    unfold LoginAttemptLimiter.reserve
    dsimp only
    split
    · exact .inl ⟨rfl, rfl⟩
    · exact .inr ⟨rfl, Nat.lt_of_not_le hroom, rfl⟩

omit [DecidableEq Digest] in
/-- The stamps of a window that goes on survive the cleanup. -/
theorem sublist_live {bounds : LimiterBounds} {now : ℚ} {stamps held : List ℚ}
    (hsublist : List.Sublist stamps held) (hstart : ∀ a ∈ stamps, start ≤ a)
    (hwindow : now - start < bounds.windowSeconds) :
    List.Sublist stamps (LoginAttemptLimiter.live bounds now held) := by
  have hkept : stamps.filter (fun stamp => now - bounds.windowSeconds < stamp) = stamps := by
    refine List.filter_eq_self.mpr fun a ha => decide_eq_true ?_
    have hlate := hstart a ha
    linarith
  rw [← hkept]
  exact hsublist.filter _

/-- An attempt, granted or refused. -/
theorem Spared.attempt (h : Spared settings limiter start moves backend) {t : Tid}
    {request : ControlRequest} {asked : ControlLimiter} {clientIdentifier : String} {now : ℚ}
    (hclock : backend.clock ≤ now) :
    Spared settings limiter start
      (moves ++ [.calls t request ⟨.beginAttempt asked clientIdentifier,
        .ok (backend.attempt settings now asked clientIdentifier).1⟩])
      (backend.attempt settings now asked clientIdentifier).2 := by
  by_cases hasked : asked = limiter
  · subst hasked
    refine ⟨h.1.trans hclock, fun hwindow => ?_⟩
    have hnow : (backend.attempt settings now asked clientIdentifier).2.clock = now := rfl
    rw [hnow] at hwindow
    obtain ⟨stamps, hsublist, hstart, hlength, hlimit⟩ := h.2 (by linarith)
    have hlive := sublist_live hsublist hstart hwindow
    have hheld : (backend.attempt settings now asked clientIdentifier).2.limiters asked =
        ((backend.limiters asked).beginAttempt (settings.limits asked) now
          (settings.clientDigest asked clientIdentifier)).2 := Function.update_self ..
    have hgranted : (backend.attempt settings now asked clientIdentifier).1 =
        ((backend.limiters asked).beginAttempt (settings.limits asked) now
          (settings.clientDigest asked clientIdentifier)).1 := rfl
    have hcount : ∀ granted : Bool, (moves ++ [(.calls t request
        ⟨.beginAttempt asked clientIdentifier, .ok granted⟩ : ControlMove Tid)]).countP
          (inCalls (grantedBy asked)) = stamps.length + if granted then 1 else 0 := by
      intro granted
      rw [List.countP_append, List.countP_singleton, ← hlength]
      simp [inCalls, grantedBy]
    rw [hheld, hcount, hgranted]
    rcases globalAttempts_beginAttempt (settings.limits asked) now
      (settings.clientDigest asked clientIdentifier) (backend.limiters asked) with
      ⟨hrefused, hstamps⟩ | ⟨hgranted, hroom, hstamps⟩
    · rw [hrefused, hstamps]
      exact ⟨stamps, hlive, hstart, rfl, hlimit⟩
    · rw [hgranted, hstamps]
      -- the new stamp is the last one, and there was room for it
      refine ⟨stamps ++ [now], hlive.append (List.Sublist.refl _), fun a ha => ?_, ?_, ?_⟩
      · rcases List.mem_append.mp ha with ha | ha
        · exact hstart a ha
        · obtain rfl := List.mem_singleton.mp ha
          exact h.1.trans hclock
      · exact List.length_append
      · rw [List.length_append]
        exact Nat.succ_le_of_lt (hlive.length_le.trans_lt hroom)
  · refine h.keep hclock ?_ ?_
    · show (Function.update backend.limiters asked _ limiter).globalAttempts = _
      rw [Function.update_of_ne (Ne.symm hasked)]
    · show (decide (asked = limiter) && _) = false
      rw [decide_eq_false hasked, Bool.false_and]

/-- One call of the backend that is not cut off. -/
theorem Spared.step (h : Spared settings limiter start moves backend) {t : Tid}
    {request : ControlRequest} {x : Exchange ControlInterface}
    (hstep : Backend.Step settings backend t x after) (huncut : cutOff x = false) :
    Spared settings limiter start (moves ++ [.calls t request x]) after := by
  cases hstep with
  | resolve hclock => exact h.keep hclock rfl rfl
  | created hclock => exact h.keep hclock rfl rfl
  | uncreated hclock => exact h.keep hclock rfl rfl
  | invalidate => exact h.keep (le_refl _) rfl rfl
  | attempt hclock => exact h.attempt hclock
  | interrupted => cases huncut
  | @clear clientIdentifier =>
    refine h.keep (le_refl _) ?_ rfl
    show (Function.update backend.limiters .login _ limiter).globalAttempts = _
    by_cases hlogin : limiter = .login
    · subst hlogin
      rw [Function.update_self]
      rfl
    · rw [Function.update_of_ne hlogin]
  | other hbacked =>
    refine h.keep (le_refl _) rfl ?_
    obtain ⟨c, answer⟩ := x
    cases c <;> first | rfl | cases hbacked

variable [DecidableEq Tid] {services : ControlServices} {q p : ControlPool Tid Digest}

/-- Whatever the state it starts in, every run keeps it. -/
theorem spared (h : ControlRun services settings q moves p) (huncut : Uncut moves) :
    Spared settings limiter q.shared.outside.clock moves p.shared.outside := by
  have hstart : Uncut ([] : List (ControlMove Tid)) → Spared settings limiter
      q.shared.outside.clock ([] : List (ControlMove Tid)) q.shared.outside := fun _ => spared_nil
  refine @Trail.invariant _ _ _ _ _ (fun es p => Uncut es →
    Spared settings limiter q.shared.outside.clock es p.shared.outside) [] moves ?_ hstart h huncut
  intro es p e p' ih hstep huncut
  have hbefore := ih fun e he => huncut e (List.mem_append_left _ he)
  have hlast := huncut e (List.mem_append_right _ (List.mem_singleton.mpr rfl))
  cases hstep with
  | begins => exact hbefore.keep (le_refl _) rfl rfl
  | returns => exact hbefore.keep (le_refl _) rfl rfl
  | raises => exact hbefore.keep (le_refl _) rfl rfl
  | calls _ he =>
    cases he with
    | other _ hx => exact hbefore.step hx hlast
    | acquireGate => exact hbefore.keep (le_refl _) rfl rfl
    | acquireAgain => exact hbefore.keep (le_refl _) rfl rfl
    | contended => exact hbefore.keep (le_refl _) rfl rfl
    | releaseGate => exact hbefore.keep (le_refl _) rfl rfl
    | releaseOnce => exact hbefore.keep (le_refl _) rfl rfl
    | acquireLock => exact hbefore.keep (le_refl _) rfl rfl
    | locked => exact hbefore.keep (le_refl _) rfl rfl
    | releaseLock => exact hbefore.keep (le_refl _) rfl rfl

/-- A limiter grants no more than its global limit while its window goes on. -/
theorem granted_le_limit (h : ControlRun services settings q moves p) (huncut : Uncut moves)
    (hwindow : p.shared.outside.clock - q.shared.outside.clock <
      (settings.limits limiter).windowSeconds) :
    moves.countP (inCalls (grantedBy limiter)) ≤ (settings.limits limiter).globalAttemptLimit := by
  obtain ⟨stamps, -, -, hlength, hlimit⟩ := (spared h huncut).2 hwindow
  exact hlength ▸ hlimit

end Window

/-! ## The law -/

section Law

variable [DecidableEq Digest] [DecidableEq Tid]

/-- How often the limiters grant, and the devices execute, in a run. -/
structure MutationRate (services : ControlServices) (settings : BackendSettings Digest)
    (start : ControlPool Tid Digest) (moves : List (ControlMove Tid)) : Prop where
  /-- However far a thread has come, each of its executions had a grant of its own before it. -/
  paid : ∀ t device, Paid device (callsOf t moves)
  /-- However far the run has come, it has executed no more than was granted. -/
  covered : ∀ before after device, moves = before ++ after →
    before.countP (inCalls (executesOn device)) ≤
      before.countP (inCalls (grantedBy (.device device)))
  /-- In any part of the run that is shorter than its window, a limiter grants no more than its
  global limit. -/
  granted : ∀ before during after q q' limiter, moves = before ++ (during ++ after) →
    ControlRun services settings start before q → ControlRun services settings q during q' →
      q'.shared.outside.clock - q.shared.outside.clock < (settings.limits limiter).windowSeconds →
        during.countP (inCalls (grantedBy limiter)) ≤ (settings.limits limiter).globalAttemptLimit
  /-- Nor does the device execute more often, if the part begins between requests. -/
  executed : ∀ before during after q q' device, moves = before ++ (during ++ after) →
    ControlRun services settings start before q → ControlRun services settings q during q' →
      (∀ t, q.task t = none) →
        q'.shared.outside.clock - q.shared.outside.clock <
          (settings.limits (.device device)).windowSeconds →
        during.countP (inCalls (executesOn device)) ≤
          (settings.limits (.device device)).globalAttemptLimit

/-- No device is changed more often than its limiter allows, over every interleaving of any number
of threads and from any state of the limiters. -/
theorem mutation_rate (services : ControlServices) (settings : BackendSettings Digest)
    {shared : ControlState Tid (Backend Digest)} {moves : List (ControlMove Tid)}
    {p : ControlPool Tid Digest} (h : ControlRun services settings (Pool.idle shared) moves p)
    (huncut : Uncut moves) : MutationRate services settings (Pool.idle shared) moves where
  paid := fun t device => (paysUp h t).1
  covered := by
    rintro before after device rfl
    obtain ⟨q, hbefore, -⟩ := trail_append.mp h
    exact executions_le_granted hbefore
  granted := by
    rintro before during after q q' limiter rfl - hduring hwindow
    have hpart : Uncut during := fun e he =>
      huncut e (List.mem_append_right _ (List.mem_append_left _ he))
    exact granted_le_limit hduring hpart hwindow
  executed := by
    rintro before during after q q' device rfl - hduring hidle hwindow
    have hpart : Uncut during := fun e he =>
      huncut e (List.mem_append_right _ (List.mem_append_left _ he))
    have hgranted := granted_le_limit hduring hpart hwindow
    obtain ⟨outside, task⟩ := q
    obtain rfl : task = fun _ => none := funext hidle
    exact (executions_le_granted hduring).trans hgranted

end Law

/-! ### A login and a change -/

theorem mutation_rate_after_login :
    MutationRate openServices sampleSettings (Pool.idle (.fresh .empty))
      ((.begins 0 signIn :: (signInCalls.map (.calls 0 signIn ·) ++
          [.ends 0 signIn (.ok (.login ⟨.success, some ⟨sampleToken, sampleSession⟩⟩))])) ++
        (.begins 0 switchOn :: (switchOnCalls.map (.calls 0 switchOn ·) ++
          [.ends 0 switchOn (.ok (.device ⟨.verified, .verified⟩))])) :
            List (ControlMove Nat)) := by
  refine mutation_rate
    (p := (⟨changed Backend.empty.opened, fun _ => none⟩ : ControlPool Nat Bytes)) openServices
    sampleSettings (trail_append.mpr ⟨_, Pool.trail_alone signIn_runs firstSignIn_follows rfl,
      Pool.trail_alone switchOn_runs firstSwitchOn_follows rfl⟩) ?_
  intro e he
  simp [signInCalls, switchOnCalls] at he
  rcases he with rfl | rfl | rfl | rfl | rfl | rfl | rfl | rfl | rfl | rfl | rfl | rfl | rfl | rfl |
    rfl | rfl | rfl | rfl <;> rfl

end Aurora.ControlPlane
