/-
  What a request to a device service exchanges.

  A run of the gates either executes nothing, and then reports nothing verified, or it is one run of
  the adapter between calls that execute nothing, after every gate was passed (`Gates.runs_execute`).
  The bounds on what a request may do to a device are read off this one decomposition.
-/
import Aurora.ControlPlane.MutationGate

namespace Aurora.ControlPlane

open Program

variable {α β : Type} {t : List (Exchange ControlInterface)}

/-! ## Exchanges that execute nothing -/

/-- No exchange is a part of an execution. -/
def Idle (t : List (Exchange ControlInterface)) : Prop := ∀ x ∈ t, x.1.executes = false

theorem idle_nil : Idle [] := fun _ hx => absurd hx List.not_mem_nil

theorem idle_cons {x : Exchange ControlInterface} :
    Idle (x :: t) ↔ x.1.executes = false ∧ Idle t := List.forall_mem_cons

theorem idle_append {t' : List (Exchange ControlInterface)} :
    Idle (t ++ t') ↔ Idle t ∧ Idle t' := List.forall_mem_append

/-- A program without executions runs idle. -/
theorem idle_of_quiet {p : ControlProgram α} {r : Except Thrown α}
    (h : p.Makes ControlCall.quiet) (hr : Runs p t r) : Idle t := by
  intro x hx
  have houtside : gateEffect x = .outside := h.runs hr x hx x.2
  rw [← Bool.not_eq_true, ← gateEffect_inside, houtside]
  simp

/-- Every call has an answer, so a run that is cut off can go on. -/
instance (c : ControlCall) : Inhabited (ControlInterface.Answer c) :=
  match c with
  | .beginAttempt _ _ => ⟨.ok false⟩
  | .clearAttempts _ => ⟨()⟩
  | .createSession _ => ⟨.error .exception⟩
  | .resolveSession _ => ⟨(0, .invalid)⟩
  | .invalidateSession _ => ⟨false⟩
  | .acquireGate => ⟨false⟩
  | .releaseGate => ⟨()⟩
  | .acquireLock _ => ⟨false⟩
  | .releaseLock _ => ⟨()⟩
  | .startWled _ _ => ⟨()⟩
  | .finishWled _ _ => ⟨.error .exception⟩
  | .startHyperhdr _ => ⟨()⟩
  | .finishHyperhdr _ => ⟨.error .exception⟩
  | .emit _ _ => ⟨.ok ()⟩
  | .emitOperation _ _ _ => ⟨.ok ()⟩
  | .invalidateCache _ => ⟨.ok ()⟩

/-! ## Parts of a service -/

/-- A handled exception becomes the result; an interrupt passes. -/
theorem runs_exceptException {body : ControlProgram α} {handled : α} {r : Except Thrown α} :
    Runs (exceptException body handled) t r ↔ ∃ r', Runs body t r' ∧
      r = match r' with
        | .error .exception => .ok handled
        | _ => r' := by
  unfold exceptException
  rw [runs_catching_bind]
  constructor
  · rintro ⟨r', t₁, t₂, rfl, hbody, hrest⟩
    cases r' with
    | ok a =>
      obtain ⟨rfl, rfl⟩ := runs_pure.mp hrest
      exact ⟨_, (List.append_nil t₁).symm ▸ hbody, rfl⟩
    | error thrown =>
      cases thrown with
      | exception =>
        obtain ⟨rfl, rfl⟩ := runs_pure.mp hrest
        exact ⟨_, (List.append_nil t₁).symm ▸ hbody, rfl⟩
      | interrupt =>
        obtain ⟨rfl, rfl⟩ := runs_raise.mp hrest
        exact ⟨_, (List.append_nil t₁).symm ▸ hbody, rfl⟩
  · rintro ⟨r', hbody, rfl⟩
    refine ⟨r', t, [], (List.append_nil t).symm, hbody, ?_⟩
    cases r' with
    | ok a => exact .done a
    | error thrown =>
      cases thrown with
      | exception => exact .done handled
      | interrupt => exact .raise _

/-- A cleanup that is one call, which raises nothing. -/
theorem runs_finallyDo {body : ControlProgram α} {cleanup : ControlProgram Unit} {c : ControlCall}
    (hcleanup : ∀ t r, Runs cleanup t r → (∃ answer, t = [⟨c, answer⟩]) ∧ r = .ok ())
    {r : Except Thrown α} (h : Runs (finallyDo body cleanup) t r) :
    ∃ t' answer, t = t' ++ [⟨c, answer⟩] ∧ Runs body t' r := by
  unfold finallyDo at h
  obtain ⟨r', t₁, t₂, rfl, hbody, hrest⟩ := runs_catching_bind.mp h
  obtain ⟨thrown, hraised, -⟩ | ⟨_, t₃, t₄, rfl, hclean, hlast⟩ := runs_bind.mp hrest
  · obtain ⟨-, hok⟩ := hcleanup _ _ hraised
    cases hok
  · obtain ⟨⟨answer, rfl⟩, -⟩ := hcleanup _ _ hclean
    obtain ⟨rfl, rfl⟩ := runs_ofExcept.mp hlast
    exact ⟨t₁, answer, rfl, hbody⟩

/-- Releasing the gate is one call, which never raises. -/
theorem runs_releaseGate (t : List (Exchange ControlInterface)) (r : Except Thrown Unit)
    (h : Runs releaseGate t r) :
    (∃ answer, t = [⟨.releaseGate, answer⟩]) ∧ r = .ok () := by
  obtain ⟨answer, rfl, rfl⟩ := runs_ask.mp h
  exact ⟨⟨answer, rfl⟩, rfl⟩

theorem runs_releaseLock (device : Device) (t : List (Exchange ControlInterface))
    (r : Except Thrown Unit) (h : Runs (releaseLock device) t r) :
    (∃ answer, t = [⟨.releaseLock device, answer⟩]) ∧ r = .ok () := by
  obtain ⟨answer, rfl, rfl⟩ := runs_ask.mp h
  exact ⟨⟨answer, rfl⟩, rfl⟩

/-- A session, its token, and authentication that is not disabled. -/
def Authenticated (authenticationEnabled : Bool) (session : Option SessionContext)
    (submittedCsrf : Option String) : Prop :=
  authenticationEnabled = true ∧ ∃ context token, session = some context ∧
    submittedCsrf = some token ∧ csrfIsValid context token = true

/-- The authentication of a mutation runs idle. -/
theorem runs_authenticationFailure {authenticationEnabled : Bool}
    {session : Option SessionContext} {submittedCsrf : Option String}
    {deny : AuditReason → ControlProgram α} {r : Except Thrown (Option α)}
    (h : Runs (authenticationFailure authenticationEnabled session submittedCsrf deny) t r) :
    (t = [] ∧ r = .ok none ∧ Authenticated authenticationEnabled session submittedCsrf) ∨
      (∃ thrown, r = .error thrown) ∨
        ∃ a reason t', r = .ok (some a) ∧ Runs (deny reason) t' (.ok a) := by
  have hdenied : ∀ {reason t}, Runs (do return some (← deny reason)) t r →
      (∃ thrown, r = .error thrown) ∨
        ∃ a reason t', r = .ok (some a) ∧ Runs (deny reason) t' (.ok a) := by
    intro reason t h
    obtain ⟨thrown, -, rfl⟩ | ⟨a, t₁, t₂, -, hdeny, hrest⟩ := runs_bind.mp h
    · exact .inl ⟨thrown, rfl⟩
    · obtain ⟨-, rfl⟩ := runs_pure.mp hrest
      exact .inr ⟨a, reason, t₁, rfl, hdeny⟩
  have hemitted : ∀ {event reason t}, Runs (do
      emit event reason
      return some (← deny reason)) t r → (∃ thrown, r = .error thrown) ∨
        ∃ a reason t', r = .ok (some a) ∧ Runs (deny reason) t' (.ok a) := by
    intro event reason t h
    obtain ⟨thrown, -, rfl⟩ | ⟨_, t₁, t₂, -, -, hrest⟩ := runs_bind.mp h
    · exact .inl ⟨thrown, rfl⟩
    · exact hdenied hrest
  unfold authenticationFailure at h
  split at h
  case h_1 context =>
    split at h
    · exact .inr (hemitted h)
    · rename_i token
      split at h
      case isTrue hvalid =>
        obtain ⟨rfl, rfl⟩ := runs_pure.mp h
        exact .inl ⟨rfl, rfl, rfl, context, token, rfl, rfl, hvalid⟩
      case isFalse => exact .inr (hemitted h)
  case h_2 => exact .inr (hdenied h)

/-! ## A run of the gates -/

namespace Gates

variable {gates : Gates} {adapter : ControlProgram β} {failure : β}
  {reported : β → ControlProgram ControlResult} {clientIdentifier : String}
  {session : Option SessionContext} {submittedCsrf confirmation : Option String}

/-- Every gate that is decided before the limiter. -/
structure Passed (gates : Gates) (session : Option SessionContext)
    (submittedCsrf confirmation : Option String) : Prop where
  authenticated : Authenticated gates.authenticationEnabled session submittedCsrf
  available : gates.available = true
  allowlisted : gates.allowlisted = true
  confirmed : confirmationFailure gates.expectedConfirmation confirmation = none
  withinMaximum : gates.withinMaximum = true

/-- A run that executes: one run of the adapter, between calls that execute nothing. -/
structure Executed (gates : Gates) (clientIdentifier : String) (adapter : ControlProgram β)
    (reported : β → ControlProgram ControlResult) (before during : List (Exchange ControlInterface))
    (after : List (Exchange ControlInterface)) (r : Except Thrown ControlResult) : Prop where
  before_idle : Idle before
  after_idle : Idle after
  granted : ⟨.beginAttempt (.device gates.device) clientIdentifier, .ok true⟩ ∈ before
  execution : ∃ outcome, Runs adapter during outcome ∧ ∀ result, r = .ok result →
    result.status = .verified → ∃ b t', outcome = .ok b ∧ Runs (reported b) t' (.ok result)

/-- A run that executes nothing, and reports nothing verified. -/
def Refused (t : List (Exchange ControlInterface)) (r : Except Thrown ControlResult) : Prop :=
  Idle t ∧ ∀ result, r = .ok result → result.status ≠ .verified

/-- A denial emits one event and gives its result. -/
theorem refused_emit {event : AuditEvent} {reason : AuditReason} {result : ControlResult}
    {r : Except Thrown ControlResult} (hresult : result.status ≠ .verified)
    (h : Runs (do
      emitOperation event reason gates.operation
      return result) t r) : Refused t r := by
  refine ⟨idle_of_quiet (makes_emitOperation.bind fun _ => makes_pure _) h, ?_⟩
  rintro result' rfl
  obtain ⟨_, t₁, t₂, -, -, hrest⟩ := runs_bind_ok.mp h
  obtain ⟨-, hr⟩ := runs_pure.mp hrest
  rw [Except.ok.inj hr]
  exact hresult

/-- What the part under the gate came to: a denial without an execution, or an execution. -/
def Tried (adapter : ControlProgram β) (failure : β) (t : List (Exchange ControlInterface))
    (r : Except Thrown (Except ControlResult β)) : Prop :=
  (Idle t ∧ (∀ b, r ≠ .ok (.ok b)) ∧
      ∀ result, r = .ok (.error result) → result.status ≠ .verified) ∨
    ∃ before during after outcome, t = before ++ (during ++ after) ∧ Idle before ∧ Idle after ∧
      Runs adapter during outcome ∧ (∀ result, r ≠ .ok (.error result)) ∧
        ∀ b, r = .ok (.ok b) → outcome = .ok b ∨ b = failure

/-- More calls around it that execute nothing. -/
theorem Tried.frame {r : Except Thrown (Except ControlResult β)}
    {before after : List (Exchange ControlInterface)} (h : Tried adapter failure t r)
    (hbefore : Idle before) (hafter : Idle after) :
    Tried adapter failure (before ++ t ++ after) r := by
  rcases h with ⟨hidle, hresult⟩ | ⟨before', during, after', outcome, rfl, hb, ha, hrest⟩
  · exact .inl ⟨idle_append.mpr ⟨idle_append.mpr ⟨hbefore, hidle⟩, hafter⟩, hresult⟩
  · refine .inr ⟨before ++ before', during, after' ++ after, outcome, ?_, ?_, ?_, hrest⟩
    · simp only [List.append_assoc]
    · exact idle_append.mpr ⟨hbefore, hb⟩
    · exact idle_append.mpr ⟨ha, hafter⟩

/-- A denial comes to no execution. -/
theorem tried_denied {deny : ControlProgram ControlResult}
    {r : Except Thrown (Except ControlResult β)} (hdeny : ∀ t r, Runs deny t r → Refused t r)
    (h : Runs (do return .error (← deny) : ControlProgram (Except ControlResult β)) t r) :
    Tried adapter failure t r := by
  obtain ⟨thrown, hraised, rfl⟩ | ⟨result, t₁, t₂, rfl, hdenied, hrest⟩ := runs_bind.mp h
  · exact .inl ⟨(hdeny _ _ hraised).1, (fun _ hr => by cases hr), fun _ hr => by cases hr⟩
  · obtain ⟨rfl, rfl⟩ := runs_pure.mp hrest
    rw [List.append_nil]
    obtain ⟨hidle, hstatus⟩ := hdeny _ _ hdenied
    refine .inl ⟨hidle, (fun _ hr => by cases hr), fun result' hr => ?_⟩
    obtain rfl := Except.error.inj (Except.ok.inj hr)
    exact hstatus _ rfl

theorem runs_deny {reason : AuditReason} (t : List (Exchange ControlInterface))
    (r : Except Thrown ControlResult) (h : Runs (gates.deny reason) t r) : Refused t r :=
  refused_emit (by simp) h

theorem runs_confirmationDenied {reason : AuditReason} (t : List (Exchange ControlInterface))
    (r : Except Thrown ControlResult) (h : Runs (gates.confirmationDenied reason) t r) :
    Refused t r :=
  refused_emit (by simp) h

theorem runs_rateLimited (t : List (Exchange ControlInterface)) (r : Except Thrown ControlResult)
    (h : Runs gates.rateLimited t r) : Refused t r :=
  refused_emit (by simp) h

theorem runs_busy (t : List (Exchange ControlInterface)) (r : Except Thrown ControlResult)
    (h : Runs gates.busy t r) : Refused t r :=
  refused_emit (by simp) h

/-- Under the lock the adapter runs once, or the lock was not granted. -/
theorem runs_underLock {r : Except Thrown (Except ControlResult β)}
    (h : Runs (gates.underLock adapter failure) t r) : Tried adapter failure t r := by
  unfold underLock at h
  split at h
  · obtain ⟨thrown, hraised, rfl⟩ | ⟨b, t₁, t₂, rfl, hadapter, hrest⟩ := runs_bind.mp h
    · obtain ⟨outcome, hadapter, -⟩ := runs_exceptException.mp hraised
      refine .inr ⟨[], t, [], outcome, (List.append_nil t).symm, idle_nil, idle_nil, hadapter, ?_, ?_⟩
      · exact fun _ hr => by cases hr
      · exact fun _ hr => by cases hr
    · obtain ⟨rfl, rfl⟩ := runs_pure.mp hrest
      obtain ⟨outcome, hadapter, houtcome⟩ := runs_exceptException.mp hadapter
      refine .inr ⟨[], t₁, [], outcome, rfl, idle_nil, idle_nil, hadapter, ?_, ?_⟩
      · exact fun _ hr => by cases hr
      rintro b' hb'
      obtain rfl := Except.ok.inj (Except.ok.inj hb')
      cases outcome with
      | ok a => exact .inl houtcome.symm
      | error thrown =>
        cases thrown with
        | exception => exact .inr (Except.ok.inj houtcome)
        | interrupt => cases houtcome
  · exact tried_denied runs_deny h

/-- Under the gate the adapter runs once, or the gate was not granted. -/
theorem runs_underGate {r : Except Thrown (Except ControlResult β)}
    (h : Runs (gates.underGate adapter failure) t r) : Tried adapter failure t r := by
  unfold underGate at h
  replace h := runs_ask_bind.mp h
  obtain ⟨acquired, t, rfl, h⟩ := h
  have hlock : Idle [⟨.acquireLock gates.device, acquired⟩] := idle_cons.mpr ⟨rfl, idle_nil⟩
  split at h
  · obtain ⟨t, answer, rfl, hbody⟩ := runs_finallyDo (runs_releaseLock gates.device) h
    have hunlock : Idle [⟨.releaseLock gates.device, answer⟩] := idle_cons.mpr ⟨rfl, idle_nil⟩
    exact (runs_underLock hbody).frame hlock hunlock
  · have htried : Tried adapter failure t r := tried_denied runs_busy h
    have hframed := htried.frame hlock idle_nil
    rwa [List.append_nil] at hframed

/-- What was tried under the gate, between the grant and the report. -/
theorem Tried.settle {r' : Except Thrown (Except ControlResult β)} {r : Except Thrown ControlResult}
    {first last : List (Exchange ControlInterface)} (h : Tried adapter failure t r')
    (hfirst : Idle first) (hlast : Idle last)
    (hgranted : ⟨.beginAttempt (.device gates.device) clientIdentifier, .ok true⟩ ∈ first)
    (hfailure : ∀ t result, Runs (reported failure) t (.ok result) → result.status ≠ .verified)
    (hr : ∀ result, r = .ok result → r' = .ok (.error result) ∨
      ∃ b t', r' = .ok (.ok b) ∧ Runs (reported b) t' (.ok result)) :
    Refused (first ++ (t ++ last)) r ∨ ∃ before during after,
      first ++ (t ++ last) = before ++ (during ++ after) ∧
        Executed gates clientIdentifier adapter reported before during after r := by
  rcases h with ⟨hidle, hnone, hstatus⟩ |
    ⟨before, during, after, outcome, rfl, hbefore, hafter, hadapter, hnone, houtcome⟩
  · refine .inl ⟨idle_append.mpr ⟨hfirst, idle_append.mpr ⟨hidle, hlast⟩⟩, fun result hresult => ?_⟩
    rcases hr result hresult with hdenied | ⟨b, t', hb, -⟩
    · exact hstatus result hdenied
    · exact absurd hb (hnone b)
  · refine .inr ⟨first ++ before, during, after ++ last, by simp only [List.append_assoc], ?_⟩
    refine ⟨idle_append.mpr ⟨hfirst, hbefore⟩, idle_append.mpr ⟨hafter, hlast⟩,
      List.mem_append_left _ hgranted, outcome, hadapter, fun result hresult hverified => ?_⟩
    rcases hr result hresult with hdenied | ⟨b, t', hb, hreported⟩
    · exact absurd hdenied (hnone result)
    · rcases houtcome b hb with hok | rfl
      · exact ⟨b, t', hok, hreported⟩
      · exact absurd hverified (hfailure t' result hreported)

/-- Past the gates the device is executed at most once, and reported as it answered. -/
theorem runs_serialized {r : Except Thrown ControlResult}
    (hreported : ∀ b, (reported b).Makes ControlCall.quiet)
    (hfailure : ∀ t result, Runs (reported failure) t (.ok result) → result.status ≠ .verified)
    (h : Runs (gates.serialized clientIdentifier adapter failure reported) t r) :
    Refused t r ∨ ∃ before during after, t = before ++ (during ++ after) ∧
      Executed gates clientIdentifier adapter reported before during after r := by
  unfold serialized at h
  replace h := runs_invoke_bind.mp h
  obtain ⟨granted, t, rfl, ⟨granted', hgranted, h⟩ | ⟨thrown, hgranted, rfl, rfl⟩⟩ := h
  swap
  · exact .inl ⟨idle_cons.mpr ⟨rfl, idle_nil⟩, fun _ hr => by cases hr⟩
  obtain rfl : granted = .ok granted' := hgranted
  split at h
  swap
  · obtain ⟨hidle, hstatus⟩ := runs_rateLimited _ _ h
    exact .inl ⟨idle_cons.mpr ⟨rfl, hidle⟩, hstatus⟩
  rename_i hgranted
  subst hgranted
  replace h := runs_ask_bind.mp h
  obtain ⟨acquired, t, rfl, h⟩ := h
  split at h
  swap
  · obtain ⟨hidle, hstatus⟩ := runs_busy _ _ h
    exact .inl ⟨idle_cons.mpr ⟨rfl, idle_cons.mpr ⟨rfl, hidle⟩⟩, hstatus⟩
  -- the gate is taken: what is tried under it, its release, and the report
  have hfirst : Idle [⟨.beginAttempt (.device gates.device) clientIdentifier, .ok true⟩,
      ⟨.acquireGate, acquired⟩] := idle_cons.mpr ⟨rfl, idle_cons.mpr ⟨rfl, idle_nil⟩⟩
  obtain ⟨thrown, hraised, rfl⟩ | ⟨outcome, t₁, t₂, rfl, hgate, hrest⟩ := runs_bind.mp h
  · obtain ⟨t, answer, rfl, hbody⟩ := runs_finallyDo runs_releaseGate hraised
    have hlast : Idle [⟨.releaseGate, answer⟩] := idle_cons.mpr ⟨rfl, idle_nil⟩
    exact (runs_underGate hbody).settle hfirst hlast List.mem_cons_self hfailure
      fun _ hr => by cases hr
  · obtain ⟨t, answer, rfl, hbody⟩ := runs_finallyDo runs_releaseGate hgate
    have hlast : Idle ([⟨.releaseGate, answer⟩] ++ t₂) := by
      refine idle_append.mpr ⟨idle_cons.mpr ⟨rfl, idle_nil⟩, ?_⟩
      cases outcome with
      | error result =>
        obtain ⟨rfl, -⟩ := runs_pure.mp hrest
        exact idle_nil
      | ok b => exact idle_of_quiet (hreported b) hrest
    rw [List.append_assoc]
    refine (runs_underGate hbody).settle hfirst hlast List.mem_cons_self hfailure ?_
    rintro result rfl
    cases outcome with
    | error denied =>
      obtain ⟨-, hr⟩ := runs_pure.mp hrest
      obtain rfl := Except.ok.inj hr
      exact .inl rfl
    | ok b => exact .inr ⟨b, t₂, rfl, hrest⟩

/-- A request to a device service executes nothing, or it passes every gate and executes once. -/
theorem runs_execute {r : Except Thrown ControlResult}
    (hreported : ∀ b, (reported b).Makes ControlCall.quiet)
    (hfailure : ∀ t result, Runs (reported failure) t (.ok result) → result.status ≠ .verified)
    (h : Runs (gates.execute session submittedCsrf confirmation clientIdentifier adapter failure
      reported) t r) :
    Refused t r ∨ gates.Passed session submittedCsrf confirmation ∧
      ∃ before during after, t = before ++ (during ++ after) ∧
        Executed gates clientIdentifier adapter reported before during after r := by
  unfold execute at h
  obtain ⟨thrown, hraised, rfl⟩ | ⟨denied, t₁, t₂, rfl, hauthentication, h⟩ := runs_bind.mp h
  · refine .inl ⟨idle_of_quiet (makes_authenticationFailure fun _ => makes_deny) hraised, ?_⟩
    exact fun _ hr => by cases hr
  have hidle := idle_of_quiet (makes_authenticationFailure fun _ => makes_deny) hauthentication
  rcases runs_authenticationFailure hauthentication with
    ⟨rfl, hnone, hauthenticated⟩ | ⟨thrown, hr⟩ | ⟨result, reason, t', hr, hdeny⟩
  · obtain rfl := Except.ok.inj hnone
    rw [List.nil_append]
    dsimp only at h
    split at h
    case isTrue => exact .inl (runs_deny _ _ h)
    case isFalse havailable =>
      split at h
      case isTrue => exact .inl (runs_deny _ _ h)
      case isFalse hallowlisted =>
        split at h
        case h_1 => exact .inl (runs_confirmationDenied _ _ h)
        case h_2 hconfirmed =>
          split at h
          case isTrue => exact .inl (runs_deny _ _ h)
          case isFalse hmaximum =>
            refine (runs_serialized hreported hfailure h).imp id fun hexecuted => ⟨?_, hexecuted⟩
            exact ⟨hauthenticated, by simpa using havailable, by simpa using hallowlisted,
              hconfirmed, by simpa using hmaximum⟩
  · cases hr
  · obtain rfl := Except.ok.inj hr
    obtain ⟨rfl, rfl⟩ := runs_pure.mp h
    refine .inl ⟨idle_append.mpr ⟨hidle, idle_nil⟩, fun result' hr' => ?_⟩
    obtain rfl := Except.ok.inj hr'
    exact (runs_deny _ _ hdeny).2 _ rfl

/-- A verified result is reported for a verified execution alone. -/
theorem runs_report {verified verificationFailed : Bool} {reason : AuditReason}
    {result : ControlResult} (h : Runs (gates.report verified verificationFailed reason) t
      (.ok result)) (hresult : result.status = .verified) : verified = true := by
  by_contra hnot
  unfold report at h
  rw [if_neg hnot] at h
  split at h
  · exact (refused_emit (by simp) h).2 _ rfl hresult
  · exact (refused_emit (by simp) h).2 _ rfl hresult

end Gates

/-! ## The devices -/

/-- The execution that an exchange ends with a verified result. -/
def verifies : Exchange ControlInterface → Option Command
  | ⟨.finishWled operation input, .ok result⟩ =>
    if result.verified then some (.wled operation input) else none
  | ⟨.finishHyperhdr operation, .ok result⟩ =>
    if result.verified then some (.hyperhdr operation) else none
  | _ => none

/-- The device a command is for. -/
def Command.device : Command → Device
  | .wled _ _ => .wled
  | .hyperhdr _ => .hyperhdr

/-- A run with one execution, after the limiter granted it. -/
def ExecutesOnce (clientIdentifier : String) (command : Command)
    (t : List (Exchange ControlInterface)) (r : Except Thrown ControlResult) : Prop :=
  ∃ before start finish after, t = before ++ start :: finish :: after ∧ Idle before ∧ Idle after ∧
    ⟨.beginAttempt (.device command.device) clientIdentifier, .ok true⟩ ∈ before ∧
    start.1.starts = some command ∧ finish.1.finishes = some command ∧
    ∀ result, r = .ok result → result.status = .verified → verifies finish = some command

section Devices

variable {session : Option SessionContext} {submittedCsrf confirmation : Option String}
  {clientIdentifier : String} {r : Except Thrown ControlResult}

/-- A WLED operation is refused idle, or all its gates passed. -/
theorem runs_wled {service : WLEDControlService} {operation : WLEDOperation}
    {input : OperationInput}
    (h : Runs (service.execute operation input session submittedCsrf clientIdentifier confirmation)
      t r) :
    Gates.Refused t r ∨ (service.gates operation input).Passed session submittedCsrf confirmation ∧
      ExecutesOnce clientIdentifier (.wled operation input) t r := by
  refine (Gates.runs_execute (fun _ => Gates.makes_report) ?_ h).imp id fun ⟨hpassed, hrun⟩ =>
    ⟨hpassed, ?_⟩
  · intro t result hreport hverified
    cases Gates.runs_report hreport hverified
  obtain ⟨before, during, after, rfl, hexecuted⟩ := hrun
  obtain ⟨outcome, hadapter, hverified⟩ := hexecuted.execution
  obtain ⟨_, t, rfl, hfinish⟩ := runs_ask_bind.mp hadapter
  obtain ⟨answer, rfl, houtcome⟩ := runs_invoke.mp hfinish
  obtain rfl : outcome = answer := houtcome
  refine ⟨before, _, ⟨.finishWled operation input, outcome⟩, after, rfl, hexecuted.before_idle,
    hexecuted.after_idle, hexecuted.granted, rfl, rfl, fun result hr hstatus => ?_⟩
  obtain ⟨b, t', rfl, hreport⟩ := hverified result hr hstatus
  exact if_pos (Gates.runs_report hreport hstatus)

/-- A HyperHDR operation is refused idle, or all its gates passed. -/
theorem runs_hyperhdr {service : HyperHDRControlService} {operation : HyperHDROperation}
    (h : Runs (service.execute operation session submittedCsrf clientIdentifier confirmation) t r) :
    Gates.Refused t r ∨ (service.gates operation).Passed session submittedCsrf confirmation ∧
      ExecutesOnce clientIdentifier (.hyperhdr operation) t r := by
  refine (Gates.runs_execute (fun _ => Gates.makes_report) ?_ h).imp id fun ⟨hpassed, hrun⟩ =>
    ⟨hpassed, ?_⟩
  · intro t result hreport hverified
    cases Gates.runs_report hreport hverified
  obtain ⟨before, during, after, rfl, hexecuted⟩ := hrun
  obtain ⟨outcome, hadapter, hverified⟩ := hexecuted.execution
  obtain ⟨_, t, rfl, hfinish⟩ := runs_ask_bind.mp hadapter
  obtain ⟨answer, rfl, houtcome⟩ := runs_invoke.mp hfinish
  obtain rfl : outcome = answer := houtcome
  refine ⟨before, _, ⟨.finishHyperhdr operation, outcome⟩, after, rfl, hexecuted.before_idle,
    hexecuted.after_idle, hexecuted.granted, rfl, rfl, fun result hr hstatus => ?_⟩
  obtain ⟨b, t', rfl, hreport⟩ := hverified result hr hstatus
  exact if_pos (Gates.runs_report hreport hstatus)

end Devices

end Aurora.ControlPlane
