/-
  Who may change a device, over every interleaving of logins, logouts, expiries and evictions.

  A backend answers the services: a clock that does not go back, the session store with the log of
  what happened to it, and the limiters.  Along a run of the threads the store holds what its log
  says, and every session of the log was created by a login (`Backed`).  With the gates of each
  request (`permitted`) that gives the law of every execution: `authenticated_mutation`.
-/
import Aurora.ControlPlane.Limiter
import Aurora.ControlPlane.Permission

namespace Aurora.ControlPlane

open Program

variable {Tid Digest : Type}

/-! ## The backend -/

/-- What the session store and the limiters are configured with, and the keyed digests. -/
structure BackendSettings (Digest : Type) where
  sessionBounds : SessionBounds
  limits : ControlLimiter → LimiterBounds
  tokenDigest : String → Digest
  clientDigest : ControlLimiter → String → Digest

/-- What answers the calls of the services. -/
structure Backend (Digest : Type) where
  clock : ℚ
  sessions : SessionHistory Digest
  limiters : ControlLimiter → LoginAttemptLimiter Digest

/-- The calls that a backend answers from its state. -/
def ControlCall.backed : ControlCall → Bool
  | beginAttempt _ _ => true
  | clearAttempts _ => true
  | createSession _ => true
  | resolveSession _ => true
  | invalidateSession _ => true
  | _ => false

namespace Backend

variable [DecidableEq Digest]

/-- No session yet. -/
def fresh (clock : ℚ) (limiters : ControlLimiter → LoginAttemptLimiter Digest) : Backend Digest :=
  ⟨clock, .start, limiters⟩

/-- The backend after a call of the session store. -/
def session (settings : BackendSettings Digest) (backend : Backend Digest) (call : SessionCall) :
    Backend Digest where
  clock := call.reading.getD backend.clock
  sessions := backend.sessions.step settings.sessionBounds settings.tokenDigest call
  limiters := backend.limiters

/-- An attempt of a client, and the backend after it. -/
def attempt (settings : BackendSettings Digest) (backend : Backend Digest) (now : ℚ)
    (limiter : ControlLimiter) (clientIdentifier : String) : Bool × Backend Digest :=
  let (granted, after) := (backend.limiters limiter).beginAttempt (settings.limits limiter) now
    (settings.clientDigest limiter clientIdentifier)
  (granted, ⟨now, backend.sessions, Function.update backend.limiters limiter after⟩)

/-- The backend after a client was cleared. -/
def clear (settings : BackendSettings Digest) (backend : Backend Digest)
    (clientIdentifier : String) : Backend Digest :=
  let cleared := (backend.limiters .login).clear (settings.clientDigest .login clientIdentifier)
  { backend with limiters := Function.update backend.limiters .login cleared }

/-- One call of a thread, with its answer.  The clock does not go back; the token source may give
any draws; whatever else is called may answer anything. -/
inductive Step (settings : BackendSettings Digest) :
    Backend Digest → Tid → Exchange ControlInterface → Backend Digest → Prop
  | resolve {backend : Backend Digest} {t : Tid} {token : String} {now : ℚ}
      (h : backend.clock ≤ now) :
    Step settings backend t
      ⟨.resolveSession token,
        (now, (backend.sessions.store.resolve settings.tokenDigest now token).1)⟩
      (backend.session settings (.resolve now token))
  | created {backend : Backend Digest} {t : Tid} {username : String} {now : ℚ}
      {draws : Nat → String} {created : CreatedSession} (h : backend.clock ≤ now)
      (hcreated : (backend.sessions.store.create settings.sessionBounds settings.tokenDigest now
        username draws).1 = .ok created) :
    Step settings backend t ⟨.createSession username, .ok created⟩
      (backend.session settings (.create now username draws))
  | uncreated {backend : Backend Digest} {t : Tid} {username message : String} {now : ℚ}
      {draws : Nat → String} (h : backend.clock ≤ now)
      (hraised : (backend.sessions.store.create settings.sessionBounds settings.tokenDigest now
        username draws).1 = .error message) :
    Step settings backend t ⟨.createSession username, .error .exception⟩
      (backend.session settings (.create now username draws))
  | invalidate {backend : Backend Digest} {t : Tid} {token : String} :
    Step settings backend t
      ⟨.invalidateSession token,
        (backend.sessions.store.invalidate settings.tokenDigest token).1⟩
      (backend.session settings (.invalidate token))
  | attempt {backend : Backend Digest} {t : Tid} {limiter : ControlLimiter}
      {clientIdentifier : String} {now : ℚ} (h : backend.clock ≤ now) :
    Step settings backend t
      ⟨.beginAttempt limiter clientIdentifier,
        .ok (backend.attempt settings now limiter clientIdentifier).1⟩
      (backend.attempt settings now limiter clientIdentifier).2
  | interrupted {backend : Backend Digest} {t : Tid} {limiter : ControlLimiter}
      {clientIdentifier : String} {thrown : Thrown}
      {limiters : ControlLimiter → LoginAttemptLimiter Digest} :
    Step settings backend t ⟨.beginAttempt limiter clientIdentifier, .error thrown⟩
      { backend with limiters }
  | clear {backend : Backend Digest} {t : Tid} {clientIdentifier : String} :
    Step settings backend t ⟨.clearAttempts clientIdentifier, ()⟩
      (backend.clear settings clientIdentifier)
  | other {backend : Backend Digest} {t : Tid} {x : Exchange ControlInterface}
      (h : x.1.backed = false) : Step settings backend t x backend

end Backend

/-! ## Where sessions come from -/

/-- The session was created in these moves. -/
def CreatedIn (moves : List (ControlMove Tid)) (c : Creation) : Prop :=
  ∃ before u request created after,
    moves = before ++ .calls u request ⟨.createSession c.username, .ok created⟩ :: after ∧
      created.token = c.token ∧ created.session.csrfToken = c.csrfToken

/-- The session token that a call names, or that a call returns as that of a new session. -/
def sessionToken? : Exchange ControlInterface → Option String
  | ⟨.resolveSession token, _⟩ => some token
  | ⟨.invalidateSession token, _⟩ => some token
  | ⟨.createSession _, .ok created⟩ => some created.token
  | _ => none

/-- The session tokens of a run, whatever it does with them. -/
def sessionTokens (moves : List (ControlMove Tid)) : List String :=
  moves.filterMap fun e =>
    match e with
    | .calls _ _ x => sessionToken? x
    | _ => none

/-- A token of the session calls is one that was handed out or presented. -/
theorem mem_sessionTokens {moves : List (ControlMove Tid)} {t : Tid} {request : ControlRequest}
    {x : Exchange ControlInterface} {token : String} (h : .calls t request x ∈ moves)
    (htoken : sessionToken? x = some token) : token ∈ sessionTokens moves :=
  List.mem_filterMap.mpr ⟨_, h, htoken⟩

/-- The tokens of a run are those of its longer runs. -/
theorem sessionTokens_subset (moves more : List (ControlMove Tid)) :
    sessionTokens moves ⊆ sessionTokens (moves ++ more) := by
  unfold sessionTokens
  rw [List.filterMap_append]
  exact List.subset_append_left _ _

/-- The token of a creation is among them. -/
theorem CreatedIn.mem_sessionTokens {moves : List (ControlMove Tid)} {c : Creation}
    (h : CreatedIn moves c) : c.token ∈ sessionTokens moves := by
  obtain ⟨before, u, request, created, after, rfl, htoken, -⟩ := h
  have hcall : .calls u request ⟨.createSession c.username, .ok created⟩ ∈
      before ++ .calls u request ⟨.createSession c.username, .ok created⟩ :: after :=
    List.mem_append_right _ (List.mem_cons_self ..)
  exact ControlPlane.mem_sessionTokens hcall (congrArg some htoken)

theorem CreatedIn.concat {moves : List (ControlMove Tid)} {c : Creation} {e : ControlMove Tid}
    (h : CreatedIn moves c) : CreatedIn (moves ++ [e]) c := by
  obtain ⟨before, u, request, created, after, rfl, htoken⟩ := h
  exact ⟨before, u, request, created, after ++ [e], by simp, htoken⟩

variable [DecidableEq Digest] {settings : BackendSettings Digest}

/-- The store holds what its log says, and the sessions of the log were created in these moves. -/
structure Backed (settings : BackendSettings Digest) (moves : List (ControlMove Tid))
    (backend : Backend Digest) : Prop where
  kept : ∃ seen, Kept settings.sessionBounds settings.tokenDigest backend.sessions.store
    backend.sessions.log seen ∧ ∀ r ∈ seen, r ≤ backend.clock
  created : ∀ c, .created c ∈ backend.sessions.log → CreatedIn moves c

namespace Backed

variable {moves : List (ControlMove Tid)} {backend : Backend Digest} {e : ControlMove Tid}

theorem fresh {clock : ℚ} {limiters : ControlLimiter → LoginAttemptLimiter Digest} :
    Backed settings ([] : List (ControlMove Tid)) (.fresh clock limiters) where
  kept := ⟨[], kept_fresh, fun _ hr => absurd hr List.not_mem_nil⟩
  created := fun _ hc => absurd hc List.not_mem_nil

/-- A move that leaves the sessions alone, on a clock that does not go back. -/
theorem other (h : Backed settings moves backend) {after : Backend Digest}
    (hsessions : after.sessions = backend.sessions) (hclock : backend.clock ≤ after.clock) :
    Backed settings (moves ++ [e]) after where
  kept := by
    obtain ⟨seen, hkept, hseen⟩ := h.kept
    rw [hsessions]
    exact ⟨seen, hkept, fun r hr => (hseen r hr).trans hclock⟩
  created := by
    rw [hsessions]
    exact fun c hc => (h.created c hc).concat

/-- A token of a collision-free run is told apart from those that the run created. -/
theorem toldApart (h : Backed settings moves backend) {tokens : List String}
    (hdigest : CollisionFree settings.tokenDigest tokens) (hmoves : sessionTokens moves ⊆ tokens)
    {token : String} (htoken : token ∈ tokens) :
    ToldApart settings.tokenDigest backend.sessions.log token := by
  intro c hc heq
  have hmem : c.token ∈ tokens := hmoves (h.created c hc).mem_sessionTokens
  exact hdigest c.token hmem token htoken heq

/-- A call of the session store. -/
theorem session (h : Backed settings moves backend) {call : SessionCall}
    (hapart : ∀ token ∈ call.token?, ToldApart settings.tokenDigest backend.sessions.log token)
    (hclock : ∀ now, call.reading = some now → backend.clock ≤ now)
    (hcreated : ∀ c, .created c ∈ backend.sessions.store.events settings.sessionBounds
      settings.tokenDigest call → CreatedIn (moves ++ [e]) c) :
    Backed settings (moves ++ [e]) (backend.session settings call) where
  kept := by
    obtain ⟨seen, hkept, hseen⟩ := h.kept
    refine ⟨seen ++ call.reading.toList, hkept.perform hapart, fun r hr => ?_⟩
    have hlater : backend.clock ≤ call.reading.getD backend.clock := by
      cases hreading : call.reading with
      | none => exact le_refl _
      | some now => exact hclock now hreading
    rcases List.mem_append.mp hr with hr | hr
    · exact (hseen r hr).trans hlater
    · rw [Option.mem_toList] at hr
      show r ≤ call.reading.getD backend.clock
      rw [hr]
      exact le_refl _
  created := by
    intro c hc
    rcases List.mem_append.mp hc with hc | hc
    · exact (h.created c hc).concat
    · exact hcreated c hc

/-- One call keeps it, with the move added. -/
theorem step (h : Backed settings moves backend) {t : Tid} {request : ControlRequest}
    {x : Exchange ControlInterface} {after : Backend Digest}
    (hdigest : CollisionFree settings.tokenDigest (sessionTokens (moves ++ [.calls t request x])))
    (hstep : Backend.Step settings backend t x after) :
    Backed settings (moves ++ [.calls t request x]) after := by
  have hapart : ∀ token, sessionToken? x = some token →
      ToldApart settings.tokenDigest backend.sessions.log token := fun token htoken =>
    h.toldApart hdigest (sessionTokens_subset _ _)
      (mem_sessionTokens (List.mem_append_right _ (List.mem_singleton_self _)) htoken)
  cases hstep with
  | resolve hclock =>
    refine h.session hapart (fun now hnow => ?_) fun c hc => absurd hc List.not_mem_nil
    obtain rfl := Option.some.inj hnow
    exact hclock
  | @created username now draws created hclock hcreated =>
    refine h.session (fun _ htoken => by cases htoken) (fun now hnow => ?_) fun c hc => ?_
    · obtain rfl := Option.some.inj hnow
      exact hclock
    · unfold SessionStore.events at hc
      dsimp only at hc
      rw [hcreated] at hc
      rcases List.mem_append.mp hc with hc | hc
      · obtain ⟨d, -, hd⟩ := List.mem_map.mp hc
        cases hd
      · obtain rfl := SessionEvent.created.inj (List.mem_singleton.mp hc)
        exact ⟨moves, t, request, created, [], rfl, rfl, rfl⟩
  | uncreated hclock hraised =>
    refine h.session (fun _ htoken => by cases htoken) (fun now hnow => ?_) fun c hc => ?_
    · obtain rfl := Option.some.inj hnow
      exact hclock
    · unfold SessionStore.events at hc
      dsimp only at hc
      rw [hraised] at hc
      rcases List.mem_append.mp hc with hc | hc
      · obtain ⟨d, -, hd⟩ := List.mem_map.mp hc
        cases hd
      · cases hc
  | invalidate =>
    refine h.session hapart (fun _ hnow => by cases hnow) fun c hc => ?_
    cases List.mem_singleton.mp hc
  | attempt hclock => exact h.other rfl hclock
  | interrupted => exact h.other rfl (le_refl _)
  | clear => exact h.other rfl (le_refl _)
  | other => exact h.other rfl (le_refl _)

end Backed

section Runs

variable [DecidableEq Tid] {services : ControlServices} {clock : ℚ}
  {limiters : ControlLimiter → LoginAttemptLimiter Digest} {moves : List (ControlMove Tid)}
  {p : Pool Tid ControlRequest ControlInterface Thrown ControlAnswer
    (ControlState Tid (Backend Digest))}

/-- Every run whose session tokens do not collide keeps it: by induction on the moves. -/
theorem backed
    (h : Trail (Pool.Step (ControlRequest.program services)
        (ControlState.Step (Backend.Step settings)))
      (Pool.idle (.fresh (.fresh clock limiters))) moves p)
    (hdigest : CollisionFree settings.tokenDigest (sessionTokens moves)) :
    Backed settings moves p.shared.outside := by
  refine @Trail.invariant _ _ _ _ _ (fun es p =>
    CollisionFree settings.tokenDigest (sessionTokens es) → Backed settings es p.shared.outside) []
    moves ?_ (fun _ => .fresh) h hdigest
  intro es p e p' ih hstep hfree
  -- the tokens of the moves before are among those of all
  replace ih := ih (hfree.mono (sessionTokens_subset _ _))
  cases hstep with
  | begins => exact ih.other rfl (le_refl _)
  | returns => exact ih.other rfl (le_refl _)
  | raises => exact ih.other rfl (le_refl _)
  | calls _ he =>
    cases he with
    | other _ hx => exact ih.step hfree hx
    | acquireGate => exact ih.other rfl (le_refl _)
    | acquireAgain => exact ih.other rfl (le_refl _)
    | contended => exact ih.other rfl (le_refl _)
    | releaseGate => exact ih.other rfl (le_refl _)
    | releaseOnce => exact ih.other rfl (le_refl _)
    | acquireLock => exact ih.other rfl (le_refl _)
    | locked => exact ih.other rfl (le_refl _)
    | releaseLock => exact ih.other rfl (le_refl _)

/-- A login, up to where it creates a session, and what comes after. -/
structure Login (services : ControlServices) (c : Creation) (u : Tid) (request : ControlRequest)
    (mid after : List (ControlMove Tid)) (created : CreatedSession) : Prop where
  token_eq : created.token = c.token
  csrfToken_eq : created.session.csrfToken = c.csrfToken
  username_eq : c.username = services.control.username
  /-- The credentials were accepted, after the limiter granted the attempt. -/
  accepted : ∃ clientIdentifier, LogsIn services request clientIdentifier ∧
    ⟨.beginAttempt .login clientIdentifier, .ok true⟩ ∈ callsOf u mid
  /-- The login reports its session, unless its audit raises. -/
  reports : ∀ more rest request' result, after = more ++ .ends u request' result :: rest →
    (∀ r result, .ends u r result ∉ more) →
      result = .ok (.login ⟨.success, some created⟩) ∨ ∃ thrown, result = .error thrown

/-- The session was created by a successful login in these moves. -/
def LoggedIn (services : ControlServices) (moves : List (ControlMove Tid)) (c : Creation) : Prop :=
  ∃ u request pre mid created after,
    moves = pre ++ .begins u request :: (mid ++
      .calls u request ⟨.createSession c.username, .ok created⟩ :: after) ∧
    (∀ r result, .ends u r result ∉ mid) ∧ Login services c u request mid after created

theorem CreatedIn.loggedIn {σ : Type} {env : σ → Tid → Exchange ControlInterface → σ → Prop}
    {shared : σ} {p : Pool Tid ControlRequest ControlInterface Thrown ControlAnswer σ}
    {c : Creation} (hc : CreatedIn moves c)
    (h : Trail (Pool.Step (ControlRequest.program services) env) (Pool.idle shared) moves p) :
    LoggedIn services moves c := by
  obtain ⟨before, u, request, created, after, rfl, htoken, hcsrf⟩ := hc
  obtain ⟨pre, mid, rfl, hmid, hbegins⟩ := Pool.call_begun h
  obtain ⟨rest, r, hruns⟩ := hbegins.extends
  rw [List.append_assoc] at hruns
  obtain ⟨clientIdentifier, hlogs, husername, hgranted, -⟩ := runs_login hruns
  refine ⟨u, request, pre, mid, created, after, by simp, hmid, htoken, hcsrf, husername,
    ⟨clientIdentifier, hlogs, hgranted⟩, ?_⟩
  rintro more rest request' result rfl hmore
  -- the whole request is a run of its program, which creates the same session
  have hshape : pre ++ .begins u request :: mid ++ .calls u request
        ⟨.createSession c.username, .ok created⟩ :: (more ++ .ends u request' result :: rest) =
      pre ++ .begins u request :: ((mid ++ .calls u request
        ⟨.createSession c.username, .ok created⟩ :: more) ++ .ends u request' result :: rest) := by
    simp
  rw [hshape] at h
  have hwhole := Pool.request_runs h fun r result hmem => by
    rcases List.mem_append.mp hmem with hmem | hmem
    · exact hmid r result hmem
    · rcases List.mem_cons.mp hmem with hmem | hmem
      · cases hmem
      · exact hmore r result hmem
  rw [callsOf_append, callsOf_cons_self] at hwhole
  obtain ⟨-, -, -, -, hresult⟩ := runs_login hwhole
  exact hresult

end Runs

/-! ## The law -/

/-- What a resolution reads and what it answers. -/
theorem Backend.resolve_inv {backend after : Backend Digest} {t : Tid} {token : String}
    {answer : ℚ × SessionLookup}
    (h : Backend.Step settings backend t ⟨.resolveSession token, answer⟩ after) :
    backend.clock ≤ answer.1 ∧
      answer.2 = (backend.sessions.store.resolve settings.tokenDigest answer.1 token).1 := by
  cases h with
  | resolve hclock => exact ⟨hclock, rfl⟩
  | other hbacked => cases hbacked

section Law

variable [DecidableEq Tid]

/-- What a session stood for when its token was resolved. -/
structure Honoured (settings : BackendSettings Digest) (services : ControlServices)
    (log : List (SessionEvent Digest)) (earlier : List (ControlMove Tid)) (token : String) (now : ℚ)
    (context : SessionContext) (c : Creation) : Prop where
  token_eq : c.token = token
  /-- It was created, and neither invalidated nor evicted since. -/
  lasts : Lasts settings.tokenDigest c log
  unexpired : now < c.createdAt + settings.sessionBounds.ttlSeconds
  context_eq : context =
    ⟨c.username, c.csrfToken, c.createdAt + settings.sessionBounds.ttlSeconds - now⟩
  loggedIn : LoggedIn services earlier c

/-- The threads of the control plane over one backend. -/
abbrev ControlPool (Tid Digest : Type) :=
  Pool Tid ControlRequest ControlInterface Thrown ControlAnswer (ControlState Tid (Backend Digest))

/-- A run of the threads over a backend. -/
abbrev ControlRun (services : ControlServices) (settings : BackendSettings Digest) :
    ControlPool Tid Digest → List (ControlMove Tid) → ControlPool Tid Digest → Prop :=
  Trail (Pool.Step (ControlRequest.program services) (ControlState.Step (Backend.Step settings)))

/-- What every execution of a run has behind it. -/
structure AuthenticatedMutation (services : ControlServices) (settings : BackendSettings Digest)
    (start : ControlPool Tid Digest) (moves : List (ControlMove Tid))
    (p : ControlPool Tid Digest) : Prop where
  /-- An execution happens inside a request that resolved its session first, in a state where the
  session was honoured, and passed every other gate. -/
  executes : ∀ before after t request x command,
    moves = before ++ .calls t request x :: after → x.1.starts = some command →
    ∃ pre first mid mutation context now q c,
      before = pre ++ .begins t request :: (first ++
        .calls t request ⟨.resolveSession mutation.token, (now, .valid context)⟩ :: mid) ∧
      (∀ r result, .ends t r result ∉ first ++ mid) ∧
      Permitted services request command mutation context (callsOf t (first ++
        .calls t request ⟨.resolveSession mutation.token, (now, .valid context)⟩ :: mid)) ∧
      ControlRun services settings start (pre ++ .begins t request :: first) q ∧
      ControlRun services settings q
        (.calls t request ⟨.resolveSession mutation.token, (now, .valid context)⟩ ::
          (mid ++ .calls t request x :: after)) p ∧
      Honoured settings services q.shared.outside.sessions.log (pre ++ .begins t request :: first)
        mutation.token now context c
  /-- A request to one device service executes at most once. -/
  once : ∀ pre mid after t request, moves = pre ++ .begins t request :: (mid ++ after) →
    (∀ r result, .ends t r result ∉ mid) → request.standalone = true →
      executions (callsOf t mid) ≤ 1

/-- No execution without a session that a login created, its token, and every gate, over every
interleaving of any number of threads in which no two session tokens share a digest. -/
theorem authenticated_mutation (services : ControlServices) (settings : BackendSettings Digest)
    {clock : ℚ} {limiters : ControlLimiter → LoginAttemptLimiter Digest}
    {moves : List (ControlMove Tid)} {p : ControlPool Tid Digest}
    (h : ControlRun services settings (Pool.idle (.fresh (.fresh clock limiters))) moves p)
    (hdigest : CollisionFree settings.tokenDigest (sessionTokens moves)) :
    AuthenticatedMutation services settings (Pool.idle (.fresh (.fresh clock limiters))) moves
      p where
  executes := by
    rintro before after t request x command rfl hstarts
    obtain ⟨pre, mid, rfl, hmid, hbegins⟩ := Pool.call_begun h
    obtain ⟨rest, r, hruns⟩ := hbegins.extends
    rw [List.append_assoc] at hruns
    obtain ⟨mutation, context, hpermitted⟩ := permitted hruns hstarts
    obtain ⟨now, hresolved⟩ := hpermitted.resolved
    obtain ⟨request', hresolved⟩ := mem_callsOf.mp hresolved
    -- the thread serves the same request all along
    obtain rfl : request' = request := by
      rw [List.append_assoc, List.cons_append] at h
      obtain ⟨m, -, h⟩ := trail_append.mp h
      obtain ⟨n, hbegin, h⟩ := trail_cons.mp h
      obtain ⟨k, hmoves, -⟩ := trail_append.mp h
      cases hbegin with
      | begins hidle => exact Pool.same_request hmoves (Function.update_self ..) hmid hresolved
    obtain ⟨first, second, rfl⟩ := List.append_of_mem hresolved
    have hshape : pre ++ .begins t request' :: (first ++ .calls t request'
          ⟨.resolveSession mutation.token, (now, .valid context)⟩ :: second) ++
          .calls t request' x :: after =
        (pre ++ .begins t request' :: first) ++ .calls t request'
          ⟨.resolveSession mutation.token, (now, .valid context)⟩ ::
          (second ++ .calls t request' x :: after) := by simp
    rw [hshape] at h hdigest
    obtain ⟨q, hfirst, hlast⟩ := trail_append.mp h
    have hbacked := backed hfirst (hdigest.mono (sessionTokens_subset _ _))
    have hapart : ToldApart settings.tokenDigest q.shared.outside.sessions.log mutation.token :=
      hbacked.toldApart hdigest (sessionTokens_subset _ _)
        (mem_sessionTokens (List.mem_append_right _ (List.mem_cons_self ..)) rfl)
    obtain ⟨n, hstep, -⟩ := trail_cons.mp hlast
    have hanswer : q.shared.outside.clock ≤ now ∧ .valid context =
        (q.shared.outside.sessions.store.resolve settings.tokenDigest now mutation.token).1 := by
      cases hstep with
      | calls _ he =>
        cases he with
        | other _ hx => exact Backend.resolve_inv hx
    obtain ⟨seen, hkept, hseen⟩ := hbacked.kept
    have hvalid : (q.shared.outside.sessions.store.resolve settings.tokenDigest now
        mutation.token).1.session? = some context := by
      rw [← hanswer.2]
      rfl
    obtain ⟨c, hlasts, htoken, hunexpired, hcontext⟩ :=
      (hkept.resolve_iff hapart fun r hr => (hseen r hr).trans hanswer.1).mp hvalid
    refine ⟨pre, first, second, mutation, context, now, q, c, rfl, fun r result hmem => ?_,
      hpermitted, hfirst, hlast, htoken, hlasts, hunexpired, hcontext,
      (hbacked.created c hlasts.mem).loggedIn hfirst⟩
    rcases List.mem_append.mp hmem with hmem | hmem
    · exact hmid r result (List.mem_append_left _ hmem)
    · exact hmid r result (List.mem_append_right _ (List.mem_cons_of_mem _ hmem))
  once := by
    rintro pre mid after t request rfl hmid hstandalone
    rw [← List.cons_append, ← List.append_assoc] at h
    obtain ⟨m, h, -⟩ := trail_append.mp h
    obtain ⟨rest, r, hruns⟩ := (Pool.request_begins h hmid).extends
    have hle := executions_le_one hstandalone hruns
    unfold executions at *
    rw [List.countP_append] at hle
    omega

end Law

/-! ### A login and a change -/

/-- A minute for each of 16 sessions, and five attempts a minute for a client. -/
def sampleSettings : BackendSettings Bytes where
  sessionBounds := ⟨60, 16, by norm_num, by norm_num⟩
  limits := fun _ => ⟨5, 60, 256, by norm_num, by norm_num, by norm_num⟩
  tokenDigest := tokenDigest
  clientDigest := fun _ clientIdentifier => (tokenDigest clientIdentifier).take 16

/-- A login, -/
def signIn : ControlRequest := .login (.token none) (.ok ("admin", "password")) "client"

/-- The calls of a request that logs in. -/
def signInCalls : List (Exchange ControlInterface) :=
  [⟨.beginAttempt .login "client", (Except.ok true : Except Thrown Bool)⟩,
    ⟨.clearAttempts "client", ()⟩,
    ⟨.createSession "admin",
      (Except.ok ⟨sampleToken, sampleSession⟩ : Except Thrown CreatedSession)⟩,
    ⟨.emit .loginSucceeded .authenticated, (Except.ok () : Except Thrown Unit)⟩]

/-- A login with the right password, granted by everything. -/
theorem signIn_runs : Runs (signIn.program openServices) signInCalls
    (.ok (.login ⟨.success, some ⟨sampleToken, sampleSession⟩⟩)) := by
  have hsmall : ¬(("admin".length > 64 || "password".length > 1024) = true) := by decide
  have hlogin : signIn.program openServices = (do
      return .login (← openServices.control.authenticate "admin" "password" "client" none)) := by
    show openServices.postLogin (.token none) (.ok ("admin", "password")) "client" = _
    unfold ControlServices.postLogin
    rw [if_neg (by decide)]
    exact if_neg hsmall
  rw [hlogin]
  exact .call _ (.call _ (.call _ (.call _ (.done _))))

namespace Backend

/-- Before anything. -/
def empty : Backend Bytes := .fresh 0 fun _ => .fresh

/-- After the calls of the login that are answered from the state, one by one. -/
def asked (backend : Backend Bytes) : Backend Bytes :=
  (backend.attempt sampleSettings 0 .login "client").2

/-- the backend once its attempts are forgotten, -/
def cleared (backend : Backend Bytes) : Backend Bytes :=
  backend.asked.clear sampleSettings "client"

/-- once its session was created, -/
def opened (backend : Backend Bytes) : Backend Bytes :=
  backend.cleared.session sampleSettings (.create 0 "admin" fun _ => sampleToken)

/-- After those of the change. -/
def looked (backend : Backend Bytes) : Backend Bytes :=
  backend.session sampleSettings (.resolve 0 sampleToken)

/-- and once an operation was granted. -/
def granted (backend : Backend Bytes) : Backend Bytes :=
  (backend.looked.attempt sampleSettings 0 (.device .wled) "client").2

end Backend

/-- A login that is granted, and whose token is free, ends with the session open. -/
theorem signIn_follows {backend : Backend Bytes} (hclock : backend.clock ≤ 0)
    (hgranted : (backend.attempt sampleSettings 0 .login "client").1 = true)
    (htokens : SessionStore.newTokens sampleSettings.tokenDigest
      (backend.cleared.sessions.store.makeRoom sampleSettings.sessionBounds 0).sessions
      (fun _ => sampleToken) = .ok (sampleToken, sampleToken)) : Follows
    (fun s x s' => ControlState.Step (Backend.Step sampleSettings) s (0 : Nat) x s')
    (.fresh backend) signInCalls (.fresh backend.opened) := by
  have hcreated : (backend.cleared.sessions.store.create sampleSettings.sessionBounds
      sampleSettings.tokenDigest 0 "admin" fun _ => sampleToken).1 =
        .ok ⟨sampleToken, sampleSession⟩ := by
    have hcontext : ∀ sequence,
        (SessionRecord.mk "admin" sampleToken 0 (0 + 60) sequence).context 0 = sampleSession := by
      intro sequence
      show (⟨"admin", sampleToken, max 0 (0 + 60 - 0)⟩ : SessionContext) = sampleSession
      decide +kernel
    unfold SessionStore.create
    dsimp only
    rw [htokens]
    exact congrArg (fun context => Except.ok (CreatedSession.mk sampleToken context)) (hcontext _)
  have hasked : Backend.Step sampleSettings backend (0 : Nat)
      ⟨.beginAttempt .login "client", .ok true⟩ backend.asked :=
    hgranted ▸ .attempt hclock
  exact .cons (.other rfl hasked) (.cons (.other rfl .clear)
    (.cons (.other rfl (.created (le_refl _) hcreated)) (.cons (.other rfl (.other rfl)) (.nil _))))

/-- The state after the change: the lock of the lights was taken and dropped. -/
def changed (backend : Backend Bytes) : ControlState Nat (Backend Bytes) :=
  ⟨none, Function.update (Function.update (fun _ => false) .wled true) .wled false,
    backend.granted⟩

/-- A change by a session that is valid and within its limit runs through. -/
theorem switchOn_follows {backend : Backend Bytes} (hclock : backend.clock ≤ 0)
    (hvalid : (backend.sessions.store.resolve sampleSettings.tokenDigest 0 sampleToken).1 =
      .valid sampleSession)
    (hgranted : (backend.looked.attempt sampleSettings 0 (.device .wled) "client").1 = true) :
    Follows (fun s x s' => ControlState.Step (Backend.Step sampleSettings) s (0 : Nat) x s')
      (.fresh backend) switchOnCalls (changed backend) := by
  have hlooked : Backend.Step sampleSettings backend (0 : Nat)
      ⟨.resolveSession sampleToken, ((0 : ℚ), SessionLookup.valid sampleSession)⟩ backend.looked :=
    hvalid ▸ .resolve hclock
  have hasked : Backend.Step sampleSettings backend.looked (0 : Nat)
      ⟨.beginAttempt (.device .wled) "client", .ok true⟩ backend.granted :=
    hgranted ▸ .attempt (le_refl _)
  exact .cons (.other rfl hlooked) (.cons (.other rfl hasked) (.cons (.acquireGate rfl)
    (.cons (.acquireLock rfl) (.cons (.other rfl (.other rfl)) (.cons (.other rfl (.other rfl))
      (.cons (.releaseLock rfl) (.cons (.releaseGate rfl) (.cons (.other rfl (.other rfl))
        (.cons (.other rfl (.other rfl)) (.nil _))))))))))

/-- A login of the first session, and a change by it. -/
theorem firstSignIn_follows : Follows
    (fun s x s' => ControlState.Step (Backend.Step sampleSettings) s (0 : Nat) x s')
    (.fresh .empty) signInCalls (.fresh Backend.empty.opened) :=
  signIn_follows (le_refl _) (by decide +kernel) (by decide +kernel)

/-- The backend grants the first request of the session. -/
theorem firstSwitchOn_follows : Follows
    (fun s x s' => ControlState.Step (Backend.Step sampleSettings) s (0 : Nat) x s')
    (.fresh Backend.empty.opened) switchOnCalls (changed Backend.empty.opened) :=
  switchOn_follows (le_refl _) (by decide +kernel) (by decide +kernel)

theorem authenticated_mutation_after_login :
    AuthenticatedMutation openServices sampleSettings (Pool.idle (.fresh .empty))
      ((.begins 0 signIn :: (signInCalls.map (.calls 0 signIn ·) ++
          [.ends 0 signIn (.ok (.login ⟨.success, some ⟨sampleToken, sampleSession⟩⟩))])) ++
        (.begins 0 switchOn :: (switchOnCalls.map (.calls 0 switchOn ·) ++
          [.ends 0 switchOn (.ok (.device ⟨.verified, .verified⟩))])))
      (⟨changed Backend.empty.opened, fun _ => none⟩ : ControlPool Nat Bytes) :=
  authenticated_mutation openServices sampleSettings
    (trail_append.mpr ⟨_, Pool.trail_alone signIn_runs firstSignIn_follows rfl,
      Pool.trail_alone switchOn_runs firstSwitchOn_follows rfl⟩) (by decide +kernel)

end Aurora.ControlPlane
