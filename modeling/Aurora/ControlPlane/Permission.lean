/-
  What a request has shown before it executes an adapter.

  The gates are spread over two services, the composite, the handlers and three shared components.
  `Permitted` gathers them in terms of the request itself and of what it exchanged before the
  execution; every execution of every request comes after all of them (`permitted`).
-/
import Aurora.ControlPlane.SessionHistory
import Aurora.ControlPlane.SharedGate

namespace Aurora.ControlPlane

open Program

variable {t : List (Exchange ControlInterface)} {services : ControlServices}
  {context : SessionContext} {fields : ControlForm} {clientIdentifier : String}

/-! ## What a request says -/

/-- What a request to change a device carries. -/
structure Mutation where
  token : String
  form : ControlForm
  clientIdentifier : String

namespace ControlRequest

/-- A request with a cookie that holds a token and a form that was accepted. -/
def mutation? : ControlRequest → Option Mutation
  | wled _ (.token (some token)) (.ok form) clientIdentifier
  | hyperhdr _ (.token (some token)) (.ok form) clientIdentifier
  | ambient _ (.token (some token)) (.ok form) clientIdentifier =>
    some ⟨token, form, clientIdentifier⟩
  | _ => none

/-- The execution is one that the request asks for. -/
def Asks : ControlRequest → Command → Prop
  | wled operation _ _ _, .wled operation' _ => operation' = operation
  | hyperhdr operation _ _ _, .hyperhdr operation' => operation' = operation
  | ambient operation _ _ _, command => ∃ step ∈ operation.steps, step.command = command
  | _, _ => False

/-- The confirmation that a disruptive request carries. -/
def expectedConfirmation : ControlRequest → Option String
  | wled .powerOff _ _ _ => some powerOffConfirmationValue
  | hyperhdr operation _ _ _ => HyperHDRControlService.expectedConfirmation operation
  | ambient operation _ _ _ => AmbientControlService.expectedConfirmation operation
  | _ => none

/-- A request to one device service. -/
def standalone : ControlRequest → Bool
  | wled .. => true
  | hyperhdr .. => true
  | _ => false

end ControlRequest

namespace Command

/-- The operation is in the allowlist of its device, whose controls are enabled. -/
def Enabled (services : ControlServices) : Command → Prop
  | wled operation _ => services.wled.authenticationEnabled = true ∧
      services.wled.enabled = true ∧ services.wled.host.isSome = true ∧
      services.wled.controlsEnabled = true ∧ operation ∈ services.wled.allowedOperations
  | hyperhdr operation => services.hyperhdr.authenticationEnabled = true ∧
      services.hyperhdr.enabled = true ∧ services.hyperhdr.host.isSome = true ∧
      services.hyperhdr.port.isSome = true ∧ services.hyperhdr.controlsEnabled = true ∧
      operation ∈ services.hyperhdr.allowedOperations

/-- The brightness is the form's, and within the maximum; what is not brightness has no input. -/
def WithinMaximum (services : ControlServices) (form : ControlForm) : Command → Prop
  | wled .brightnessSet input => ∃ brightness, input = .brightnessInput brightness ∧
      parseBrightness form.brightness = some brightness.brightness ∧
      brightness.brightness ≤ services.wled.maximumBrightness
  | wled _ input => input = .noOperationInput
  | hyperhdr _ => True

end Command

/-- Every gate of an execution, in terms of its request and of the calls before it. -/
structure Permitted (services : ControlServices) (request : ControlRequest) (command : Command)
    (mutation : Mutation) (context : SessionContext) (calls : List (Exchange ControlInterface)) :
    Prop where
  carries : request.mutation? = some mutation
  asks : request.Asks command
  csrf : mutation.form.csrfToken = some context.csrfToken
  enabled : command.Enabled services
  confirmed : ∀ expected, request.expectedConfirmation = some expected →
    mutation.form.confirmation = some expected
  withinMaximum : command.WithinMaximum services mutation.form
  resolved : ∃ now, ⟨.resolveSession mutation.token, (now, .valid context)⟩ ∈ calls
  granted : ⟨.beginAttempt (.device command.device) mutation.clientIdentifier, .ok true⟩ ∈ calls

/-! ## The gates of a device service -/

/-- A confirmation that is expected has to be the exact text. -/
theorem confirmationFailure_eq_none {expected : String} {confirmation : Option String} :
    confirmationFailure (some expected) confirmation = none ↔ confirmation = some expected := by
  cases confirmation with
  | none => simp [confirmationFailure]
  | some given => simp [confirmationFailure]

/-- What makes a WLED operation available. -/
theorem mem_wled_availableOperations {service : WLEDControlService} {operation : WLEDOperation} :
    operation ∈ service.availableOperations ↔ service.authenticationEnabled = true ∧
      service.enabled = true ∧ service.host.isSome = true ∧ service.controlsEnabled = true ∧
      operation ∈ service.allowedOperations := by
  have hregistered : operation ∈ operationRegistry := by cases operation <;> decide
  unfold WLEDControlService.availableOperations
  split
  case isTrue hoff =>
    refine iff_of_false List.not_mem_nil ?_
    rintro ⟨hauthentication, henabled, hhost, hcontrols, -⟩
    rw [hauthentication, henabled, Option.isNone_eq_false_iff.mpr hhost, hcontrols] at hoff
    cases hoff
  case isFalse hon =>
    simp only [Bool.or_eq_true, not_or, Bool.not_eq_true', Bool.not_eq_false,
      Option.isNone_iff_eq_none] at hon
    rw [List.mem_filter, decide_eq_true_eq]
    obtain ⟨⟨⟨hauthentication, henabled⟩, hhost⟩, hcontrols⟩ := hon
    refine ⟨fun hmem => ⟨hauthentication, henabled, ?_, hcontrols, hmem.2⟩,
      fun hmem => ⟨hregistered, hmem.2.2.2.2⟩⟩
    exact Option.isSome_iff_ne_none.mpr hhost

/-- What makes a HyperHDR operation available. -/
theorem mem_hyperhdr_availableOperations {service : HyperHDRControlService}
    {operation : HyperHDROperation} :
    operation ∈ service.availableOperations ↔ service.authenticationEnabled = true ∧
      service.enabled = true ∧ service.host.isSome = true ∧ service.port.isSome = true ∧
      service.controlsEnabled = true ∧ operation ∈ service.allowedOperations := by
  have hregistered : operation ∈ hyperhdrOperationRegistry := by cases operation <;> decide
  unfold HyperHDRControlService.availableOperations
  split
  case isTrue hoff =>
    refine iff_of_false List.not_mem_nil ?_
    rintro ⟨hauthentication, henabled, hhost, hport, hcontrols, -⟩
    rw [hauthentication, henabled, Option.isNone_eq_false_iff.mpr hhost,
      Option.isNone_eq_false_iff.mpr hport, hcontrols] at hoff
    cases hoff
  case isFalse hon =>
    simp only [Bool.or_eq_true, not_or, Bool.not_eq_true', Bool.not_eq_false,
      Option.isNone_iff_eq_none] at hon
    rw [List.mem_filter, decide_eq_true_eq]
    obtain ⟨⟨⟨⟨hauthentication, henabled⟩, hhost⟩, hport⟩, hcontrols⟩ := hon
    refine ⟨fun hmem => ⟨hauthentication, henabled, ?_, ?_, hcontrols, hmem.2⟩,
      fun hmem => ⟨hregistered, hmem.2.2.2.2.2⟩⟩
    · exact Option.isSome_iff_ne_none.mpr hhost
    · exact Option.isSome_iff_ne_none.mpr hport

/-- The gates passed for a session and a form carry the session's token. -/
theorem Authenticated.csrf {authenticationEnabled : Bool} {submittedCsrf : Option String}
    (h : Authenticated authenticationEnabled (some context) submittedCsrf) :
    submittedCsrf = some context.csrfToken := by
  obtain ⟨-, context', token, hcontext, rfl, hvalid⟩ := h
  obtain rfl := Option.some.inj hcontext
  rw [(csrfIsValid_iff.mp hvalid).1]

/-! ## From the form on -/

/-- The input and the confirmation that a form gives an operation of the lights. -/
structure WLEDOperation.Takes (operation : WLEDOperation) (form : ControlForm)
    (input : OperationInput) (confirmation : Option String) : Prop where
  input : match operation with
    | .brightnessSet => ∃ brightness, input = .brightnessInput brightness ∧
        parseBrightness form.brightness = some brightness.brightness
    | _ => input = .noOperationInput
  confirmation : operation = .powerOff → confirmation = form.confirmation

/-- A WLED call from the boundary, with the input its form gave. -/
theorem runs_callWled {operation : WLEDOperation} {r : Except Thrown ControlAnswer}
    (h : Runs (services.callWled operation clientIdentifier context fields) t r) :
    Idle t ∨ ∃ input confirmation first t' r', t = first ++ t' ∧ Idle first ∧
      operation.Takes fields input confirmation ∧
      Runs (services.wled.execute operation input (some context) fields.csrfToken clientIdentifier
        confirmation) t' r' := by
  unfold ControlServices.callWled at h
  cases operation with
  | powerOn =>
    obtain ⟨r', hexecute⟩ := Runs.of_map h
    exact .inr ⟨_, _, [], t, r', rfl, idle_nil, ⟨rfl, fun h => by cases h⟩, hexecute⟩
  | powerOff =>
    obtain ⟨r', hexecute⟩ := Runs.of_map h
    exact .inr ⟨_, _, [], t, r', rfl, idle_nil, ⟨rfl, fun _ => rfl⟩, hexecute⟩
  | brightnessSet =>
    dsimp only at h
    have hquiet : ∀ {operation session submittedCsrf}, (services.wled.requestSecurityFailure
        operation session submittedCsrf).Makes ControlCall.quiet := makes_requestSecurityFailure
    split at h
    · refine .inl (idle_of_quiet (hquiet.bind fun denied => ?_) h)
      split
      · exact makes_pure _
      · exact makes_emitOperation.bind fun _ => makes_pure _
    · rename_i brightness hparse
      obtain ⟨r', hset⟩ := Runs.of_map h
      unfold WLEDControlService.setBrightness at hset
      obtain ⟨thrown, hraised, rfl⟩ | ⟨denied, t₁, t₂, rfl, hsecurity, hset⟩ := runs_bind.mp hset
      · exact .inl (idle_of_quiet hquiet hraised)
      have hfirst := idle_of_quiet hquiet hsecurity
      split at hset
      · obtain ⟨rfl, -⟩ := runs_pure.mp hset
        exact .inl (idle_append.mpr ⟨hfirst, idle_nil⟩)
      · split at hset
        · obtain ⟨hdenied, -⟩ := Gates.runs_deny _ _ hset
          exact .inl (idle_append.mpr ⟨hfirst, hdenied⟩)
        · rename_i input hinput
          refine .inr ⟨_, none, t₁, t₂, r', rfl, hfirst, ⟨⟨input, rfl, ?_⟩, fun h => by cases h⟩, hset⟩
          unfold BrightnessInput.new? at hinput
          obtain ⟨hbounded, hnew⟩ := Option.dite_none_right_eq_some.mp hinput
          obtain rfl := Option.some.inj hnew
          exact hparse

/-- A HyperHDR call from the boundary, confirmed where it has to be. -/
theorem runs_callHyperhdr {operation : HyperHDROperation} {r : Except Thrown ControlAnswer}
    (h : Runs (services.callHyperhdr operation clientIdentifier context fields) t r) :
    ∃ confirmation r', (HyperHDRControlService.expectedConfirmation operation ≠ none →
        confirmation = fields.confirmation) ∧
      Runs (services.hyperhdr.execute operation (some context) fields.csrfToken clientIdentifier
        confirmation) t r' := by
  unfold ControlServices.callHyperhdr at h
  cases operation with
  | videoGrabberEnable =>
    obtain ⟨r', hexecute⟩ := Runs.of_map h
    exact ⟨none, r', fun hexpected => absurd rfl hexpected, hexecute⟩
  | videoGrabberDisable =>
    obtain ⟨r', hexecute⟩ := Runs.of_map h
    exact ⟨fields.confirmation, r', fun _ => rfl, hexecute⟩
  | ledOutputEnable =>
    obtain ⟨r', hexecute⟩ := Runs.of_map h
    exact ⟨none, r', fun hexpected => absurd rfl hexpected, hexecute⟩
  | ledOutputDisable =>
    obtain ⟨r', hexecute⟩ := Runs.of_map h
    exact ⟨fields.confirmation, r', fun _ => rfl, hexecute⟩

/-- A composite from the boundary, confirmed where it has to be. -/
theorem runs_callAmbient {operation : AuroraOperation} {r : Except Thrown ControlAnswer}
    (h : Runs (services.callAmbient operation clientIdentifier context fields) t r) :
    ∃ confirmation r', (AmbientControlService.expectedConfirmation operation ≠ none →
        confirmation = fields.confirmation) ∧
      Runs (services.ambient.execute operation (some context) fields.csrfToken clientIdentifier
        confirmation) t r' := by
  unfold ControlServices.callAmbient at h
  cases operation with
  | ambientOn =>
    obtain ⟨r', hexecute⟩ := Runs.of_map h
    exact ⟨none, r', fun hexpected => absurd rfl hexpected, hexecute⟩
  | ambientOff =>
    obtain ⟨r', hexecute⟩ := Runs.of_map h
    exact ⟨fields.confirmation, r', fun _ => rfl, hexecute⟩

/-- A session that was found is the valid answer to the token of the cookie. -/
theorem runs_requestSession {cookie : CookieLookup} {token : Option String}
    (h : Runs (services.requestSession cookie) t (.ok (token, some context))) :
    ∃ presented now, cookie = .token (some presented) ∧
      t = [⟨.resolveSession presented, (now, .valid context)⟩] := by
  unfold ControlServices.requestSession at h
  split at h
  · obtain ⟨_, t₁, t₂, -, -, hrest⟩ := runs_bind_ok.mp h
    cases (runs_pure.mp hrest).2
  rename_i presented
  obtain ⟨found, t₁, t₂, rfl, hresolve, hrest⟩ := runs_bind_ok.mp h
  obtain ⟨rfl, hr⟩ := runs_pure.mp hrest
  obtain ⟨rfl, rfl⟩ := Prod.mk.inj (Except.ok.inj hr)
  rw [List.append_nil]
  unfold ControlPlaneService.resolveSession at hresolve
  split at hresolve
  case h_2 => cases (runs_pure.mp hresolve).2
  case h_1 presented' _ =>
    obtain ⟨answer, t, rfl, hlookup⟩ := runs_ask_bind.mp hresolve
    have hrejected : ∀ {reason t}, ¬Runs (do
        emit .sessionRejected reason
        return none : ControlProgram (Option SessionContext)) t (.ok (some context)) := by
      intro reason t hemit
      obtain ⟨_, t₁, t₂, -, -, hrest⟩ := runs_bind_ok.mp hemit
      cases (runs_pure.mp hrest).2
    obtain ⟨now, lookup⟩ : ℚ × SessionLookup := answer
    cases lookup with
    | valid session =>
      obtain ⟨rfl, hr⟩ := runs_pure.mp hlookup
      obtain rfl := Option.some.inj (Except.ok.inj hr)
      exact ⟨presented', now, rfl, rfl⟩
    | expired => exact absurd hlookup hrejected
    | invalid => exact absurd hlookup hrejected

/-! ## Executions -/

section Executions

variable {a b : List (Exchange ControlInterface)} {x : Exchange ControlInterface}
  {command : Command} {r : Except Thrown ControlAnswer}

theorem executes_of_starts (hstarts : x.1.starts = some command) : x.1.executes = true := by
  simp [ControlCall.executes, hstarts]

theorem not_idle_of_starts (hstarts : x.1.starts = some command) : ¬Idle (a ++ x :: b) :=
  fun hidle => hidle.not_mem (executes_of_starts hstarts) (by simp)

/-- Resolving the session starts no command. -/
theorem not_mem_requestSession {cookie : CookieLookup}
    {found : Except Thrown (Option String × Option SessionContext)}
    (h : Runs (services.requestSession cookie) t found) (hstarts : x.1.starts = some command) :
    x ∉ t :=
  (idle_of_quiet makes_requestSession h).not_mem (executes_of_starts hstarts)

/-- A form that starts a command resolved its session first, and starts it in its call. -/
theorem runs_postOperation_starts {denied : AuditEvent} {operation : ControlOperation}
    {cookie : CookieLookup} {form : SubmittedForm ControlForm}
    {call : SessionContext → ControlForm → ControlProgram ControlAnswer}
    {r : Except Thrown ControlAnswer}
    (h : Runs (services.postOperation denied operation cookie form call) (a ++ x :: b) r)
    (hstarts : x.1.starts = some command) :
    ∃ presented context now fields a', cookie = .token (some presented) ∧ form = .ok fields ∧
      a = [⟨.resolveSession presented, (now, .valid context)⟩] ++ a' ∧
      Runs (call context fields) (a' ++ x :: b) r := by
  rcases runs_postOperation h with
    ⟨hidle, -⟩ | ⟨token, context, fields, t₁, t₂, ht, hform, hsession, hcall⟩
  · exact absurd hidle (not_idle_of_starts hstarts)
  obtain ⟨presented, now, hcookie, rfl⟩ := runs_requestSession hsession
  obtain ⟨a', rfl, rfl⟩ := cut_after (not_mem_requestSession hsession hstarts) ht.symm
  exact ⟨presented, context, now, fields, a', hcookie, hform, rfl, hcall⟩

/-- What a WLED request executes was permitted. -/
theorem permitted_wled {operation : WLEDOperation} {cookie : CookieLookup}
    {form : SubmittedForm ControlForm}
    (h : Runs ((ControlRequest.wled operation cookie form clientIdentifier).program services)
      (a ++ x :: b) r) (hstarts : x.1.starts = some command) :
    ∃ mutation context, Permitted services (.wled operation cookie form clientIdentifier) command
      mutation context a := by
  obtain ⟨presented, context, now, fields, a, rfl, rfl, rfl, hcall⟩ :=
    runs_postOperation_starts h hstarts
  rcases runs_callWled hcall with
    hidle | ⟨input, confirmation, first, t', r', ht', hfirst, htakes, hexecute⟩
  · exact absurd hidle (not_idle_of_starts hstarts)
  obtain ⟨a, rfl, rfl⟩ := cut_after (hfirst.not_mem (executes_of_starts hstarts)) ht'.symm
  rcases runs_wled hexecute with ⟨hidle, -⟩ | ⟨hpassed, honce⟩
  · exact absurd hidle (not_idle_of_starts hstarts)
  obtain ⟨rfl, hgranted⟩ := honce.start_cut rfl hstarts
  refine ⟨⟨presented, fields, clientIdentifier⟩, context, ⟨rfl, rfl, hpassed.authenticated.csrf, ?_,
    ?_, ?_, ⟨now, List.mem_append_left _ (List.mem_singleton.mpr rfl)⟩,
    List.mem_append_right _ (List.mem_append_right _ hgranted)⟩⟩
  · exact mem_wled_availableOperations.mp (of_decide_eq_true hpassed.allowlisted)
  · intro expected hexpected
    cases operation <;> cases hexpected
    rw [← htakes.confirmation rfl]
    exact confirmationFailure_eq_none.mp hpassed.confirmed
  · have hinput := htakes.input
    cases operation with
    | powerOn => exact hinput
    | powerOff => exact hinput
    | brightnessSet =>
      obtain ⟨brightness, rfl, hparse⟩ := hinput
      refine ⟨brightness, rfl, hparse, ?_⟩
      have hmaximum := hpassed.withinMaximum
      simpa [WLEDControlService.gates, WLEDControlService.exceedsMaximum] using hmaximum

/-- What a HyperHDR request executes was permitted. -/
theorem permitted_hyperhdr {operation : HyperHDROperation} {cookie : CookieLookup}
    {form : SubmittedForm ControlForm}
    (h : Runs ((ControlRequest.hyperhdr operation cookie form clientIdentifier).program services)
      (a ++ x :: b) r) (hstarts : x.1.starts = some command) :
    ∃ mutation context, Permitted services (.hyperhdr operation cookie form clientIdentifier)
      command mutation context a := by
  obtain ⟨presented, context, now, fields, a, rfl, rfl, rfl, hcall⟩ :=
    runs_postOperation_starts h hstarts
  obtain ⟨confirmation, r', hconfirmation, hexecute⟩ := runs_callHyperhdr hcall
  rcases runs_hyperhdr hexecute with ⟨hidle, -⟩ | ⟨hpassed, honce⟩
  · exact absurd hidle (not_idle_of_starts hstarts)
  obtain ⟨rfl, hgranted⟩ := honce.start_cut rfl hstarts
  refine ⟨⟨presented, fields, clientIdentifier⟩, context, ⟨rfl, rfl, hpassed.authenticated.csrf, ?_,
    ?_, trivial, ⟨now, List.mem_append_left _ (List.mem_singleton.mpr rfl)⟩,
    List.mem_append_right _ hgranted⟩⟩
  · exact mem_hyperhdr_availableOperations.mp (of_decide_eq_true hpassed.allowlisted)
  · intro expected hexpected
    have hexpected : HyperHDRControlService.expectedConfirmation operation = some expected := hexpected
    have hconfirmed := hpassed.confirmed
    change confirmationFailure (HyperHDRControlService.expectedConfirmation operation) confirmation =
      none at hconfirmed
    rw [hexpected] at hconfirmed
    rw [← hconfirmation (by simp [hexpected])]
    exact confirmationFailure_eq_none.mp hconfirmed

/-! ### Composites -/

/-- A child of a composite passes the gates of its device as well. -/
theorem ChildRun.permitted {token : String}
    (child : ChildRun (services.ambient.childCall context token clientIdentifier))
    (hcalls : child.calls = a ++ x :: b) (hstarts : x.1.starts = some command) :
    command = child.step.command ∧ command.Enabled services ∧
      command.WithinMaximum services fields ∧
      ⟨.beginAttempt (.device command.device) clientIdentifier, .ok true⟩ ∈ a := by
  have hruns := child.runs
  have hidle : ¬Idle child.calls := by
    rw [hcalls]
    exact not_idle_of_starts hstarts
  rcases childCall_cases services.ambient context token clientIdentifier child.step with
    ⟨operation, hcommand, hcall⟩ | ⟨operation, hcommand, hcall⟩
  · rw [hcall] at hruns
    rw [hcommand]
    rcases runs_hyperhdr hruns with ⟨hnone, -⟩ | ⟨hpassed, honce⟩
    · exact absurd hnone hidle
    obtain ⟨rfl, hgranted⟩ := honce.start_cut hcalls hstarts
    refine ⟨rfl, ?_, trivial, hgranted⟩
    exact mem_hyperhdr_availableOperations.mp (of_decide_eq_true hpassed.allowlisted)
  · rw [hcall] at hruns
    rcases runs_wled hruns with ⟨hnone, -⟩ | ⟨hpassed, honce⟩
    · exact absurd hnone hidle
    obtain ⟨rfl, hgranted⟩ := honce.start_cut hcalls hstarts
    refine ⟨hcommand.symm, ?_, ?_, hgranted⟩
    · exact mem_wled_availableOperations.mp (of_decide_eq_true hpassed.allowlisted)
    · -- no step of a composite sets the brightness
      cases operation with
      | powerOn => rfl
      | powerOff => rfl
      | brightnessSet =>
        generalize child.step = step at hcommand
        cases step <;> cases hcommand

/-- What a composite executes was permitted. -/
theorem permitted_ambient {operation : AuroraOperation} {cookie : CookieLookup}
    {form : SubmittedForm ControlForm}
    (h : Runs ((ControlRequest.ambient operation cookie form clientIdentifier).program services)
      (a ++ x :: b) r) (hstarts : x.1.starts = some command) :
    ∃ mutation context, Permitted services (.ambient operation cookie form clientIdentifier)
      command mutation context a := by
  obtain ⟨presented, context, now, fields, a, rfl, rfl, rfl, hcall⟩ :=
    runs_postOperation_starts h hstarts
  obtain ⟨confirmation, r', hconfirmation, hexecute⟩ := runs_callAmbient hcall
  rcases runs_ambient hexecute with ⟨hidle, -⟩ | ⟨context', csrfToken, hpassed, hcomposes⟩
  · exact absurd hidle (not_idle_of_starts hstarts)
  obtain ⟨children, gates, ending, hcut, hcomposite⟩ := hcomposes
  obtain ⟨b', hstart⟩ :=
    cut_before (hcomposite.ending_idle.not_mem (executes_of_starts hstarts)) hcut.symm
  obtain ⟨a, rfl, hchildren⟩ :=
    cut_after (hcomposite.gates_idle.not_mem (executes_of_starts hstarts)) hstart
  obtain ⟨before, child, after, first, last, rfl, hcalls, rfl⟩ := cut_childCalls hchildren
  obtain ⟨rfl, henabled, hmaximum, hgranted⟩ :=
    @ChildRun.permitted _ _ fields _ _ _ _ _ _ child hcalls hstarts
  obtain rfl := Option.some.inj hpassed.session_eq
  refine ⟨⟨presented, fields, clientIdentifier⟩, context, ⟨rfl, ?_, ?_, henabled, ?_, hmaximum,
    ⟨now, List.mem_append_left _ (List.mem_singleton.mpr rfl)⟩,
    List.mem_append_right _ (List.mem_append_right _ (List.mem_append_right _ hgranted))⟩⟩
  · exact ⟨child.step, hcomposite.ordered.subset (by simp), rfl⟩
  · rw [hpassed.token_eq, (csrfIsValid_iff.mp hpassed.csrf).1]
  · intro expected hexpected
    have hexpected : AmbientControlService.expectedConfirmation operation = some expected := hexpected
    have hconfirmed := hpassed.confirmed
    rw [hexpected] at hconfirmed
    rw [← hconfirmation (by simp [hexpected])]
    exact confirmationFailure_eq_none.mp hconfirmed

/-- Every execution of a request comes after all the gates. -/
theorem permitted {request : ControlRequest}
    (h : Runs (request.program services) (a ++ x :: b) r) (hstarts : x.1.starts = some command) :
    ∃ mutation context, Permitted services request command mutation context a := by
  cases request with
  | login => exact absurd (idle_of_quiet quiet_postLogin h) (not_idle_of_starts hstarts)
  | logout => exact absurd (idle_of_quiet makes_postLogout h) (not_idle_of_starts hstarts)
  | visit => exact absurd (idle_of_quiet makes_visit h) (not_idle_of_starts hstarts)
  | wled => exact permitted_wled h hstarts
  | hyperhdr => exact permitted_hyperhdr h hstarts
  | ambient => exact permitted_ambient h hstarts

/-! ### How often -/

/-- The executions that are started. -/
def executions (t : List (Exchange ControlInterface)) : Nat := t.countP (·.1.starts.isSome)

theorem Idle.executions (h : Idle t) : executions t = 0 := by
  refine List.countP_eq_zero.mpr fun y hy hstarts => ?_
  have hidle := h y hy
  rw [ControlCall.executes, hstarts] at hidle
  cases hidle

theorem ExecutesOnce.executions {r : Except Thrown ControlResult}
    (h : ExecutesOnce clientIdentifier command t r) : executions t = 1 := by
  obtain ⟨before, start, finish, after, rfl, hbefore, hafter, -, hstart, hfinish, -⟩ := h
  have hsecond : finish.1.starts = none := by
    cases hstarts : finish.1.starts with
    | none => rfl
    | some other =>
      rw [finishes_of_starts hstarts] at hfinish
      cases hfinish
  have hzero := hbefore.executions
  have hlast := hafter.executions
  unfold ControlPlane.executions at *
  rw [List.countP_append, List.countP_cons, List.countP_cons, hzero, hlast, hstart, hsecond]
  rfl

/-- A request to one device service executes its adapter at most once. -/
theorem executions_le_one {request : ControlRequest} (hstandalone : request.standalone = true)
    (h : Runs (request.program services) t r) : executions t ≤ 1 := by
  have hprefix : ∀ {first last : List (Exchange ControlInterface)}, Idle first →
      executions last ≤ 1 → executions (first ++ last) ≤ 1 := by
    intro first last hfirst hlast
    have hzero := hfirst.executions
    unfold executions at *
    rwa [List.countP_append, hzero, Nat.zero_add]
  cases request with
  | login => cases hstandalone
  | logout => cases hstandalone
  | visit => cases hstandalone
  | ambient => cases hstandalone
  | wled operation cookie form clientIdentifier =>
    rcases runs_postOperation h with
      ⟨hidle, -⟩ | ⟨token, context, fields, t₁, t₂, rfl, rfl, hsession, hcall⟩
    · exact hidle.executions.le.trans (Nat.zero_le _)
    refine hprefix (idle_of_quiet makes_requestSession hsession) ?_
    rcases runs_callWled hcall with
      hidle | ⟨input, confirmation, first, t', r', rfl, hfirst, -, hexecute⟩
    · exact hidle.executions.le.trans (Nat.zero_le _)
    refine hprefix hfirst ?_
    rcases runs_wled hexecute with ⟨hidle, -⟩ | ⟨-, honce⟩
    · exact hidle.executions.le.trans (Nat.zero_le _)
    · exact honce.executions.le
  | hyperhdr operation cookie form clientIdentifier =>
    rcases runs_postOperation h with
      ⟨hidle, -⟩ | ⟨token, context, fields, t₁, t₂, rfl, rfl, hsession, hcall⟩
    · exact hidle.executions.le.trans (Nat.zero_le _)
    refine hprefix (idle_of_quiet makes_requestSession hsession) ?_
    obtain ⟨confirmation, r', -, hexecute⟩ := runs_callHyperhdr hcall
    rcases runs_hyperhdr hexecute with ⟨hidle, -⟩ | ⟨-, honce⟩
    · exact hidle.executions.le.trans (Nat.zero_le _)
    · exact honce.executions.le

end Executions

/-! ## Logins -/

/-- The call creates no session. -/
def ControlCall.sessionless (c : ControlCall) : Prop := ∀ username, c ≠ .createSession username

instance : Serving ControlCall.sessionless where
  emit := fun _ _ _ h => by cases h
  emitOperation := fun _ _ _ _ h => by cases h
  beginAttempt := fun _ _ _ h => by cases h
  invalidateCache := fun _ _ h => by cases h
  resolveSession := fun _ _ h => by cases h
  invalidateSession := fun _ _ h => by cases h
  acquireGate := fun _ h => by cases h
  releaseGate := fun _ h => by cases h
  acquireLock := fun _ _ h => by cases h
  releaseLock := fun _ _ h => by cases h
  startWled := fun _ _ _ h => by cases h
  finishWled := fun _ _ _ h => by cases h
  startHyperhdr := fun _ _ h => by cases h
  finishHyperhdr := fun _ _ h => by cases h

/-- A login whose credentials were accepted. -/
structure LogsIn (services : ControlServices) (request : ControlRequest) (clientIdentifier : String) :
    Prop where
  enabled : services.control.authenticationEnabled = true
  credentials : ∃ cookie password,
    request = .login cookie (.ok (services.control.username, password)) clientIdentifier ∧
      services.control.verifyPassword password = .ok true

section Logins

variable {a b : List (Exchange ControlInterface)} {username : String} {created : CreatedSession}

/-- A program that creates no session has no such call. -/
theorem not_mem_of_sessionless {α : Type} {p : ControlProgram α} {r : Except Thrown α}
    {answer : Except Thrown CreatedSession} (hp : p.Makes ControlCall.sessionless)
    (h : Runs p t r) : ⟨.createSession username, answer⟩ ∉ t :=
  fun hmem => hp.runs h _ hmem username rfl

theorem not_creates {α : Type} {p : ControlProgram α} {r : Except Thrown α}
    {answer : Except Thrown CreatedSession} (hp : p.Makes ControlCall.sessionless) :
    ¬Runs p (a ++ ⟨.createSession username, answer⟩ :: b) r :=
  fun h => not_mem_of_sessionless hp h (List.mem_append_right _ List.mem_cons_self)

/-- The end of a login: the session, and its audit. -/
theorem runs_openSession {user : String} {r : Except Thrown LoginResult}
    (h : Runs (do
        let created ← createSession user
        emit .loginSucceeded .authenticated
        return ⟨.success, some created⟩)
      (a ++ ⟨.createSession username, .ok created⟩ :: b) r) :
    username = user ∧ (r = .ok ⟨.success, some created⟩ ∨ ∃ thrown, r = .error thrown) := by
  replace h := runs_invoke_bind.mp h
  obtain ⟨answer, t, ht, ⟨created', hcreated, h⟩ | ⟨thrown, -, rfl, rfl⟩⟩ := h
  · obtain rfl : answer = .ok created' := hcreated
    cases a with
    | nil =>
      obtain ⟨hx, rfl⟩ := List.cons.inj ht
      cases hx
      refine ⟨rfl, ?_⟩
      obtain ⟨thrown, -, rfl⟩ | ⟨_, t₁, t₂, rfl, -, hrest⟩ := runs_bind.mp h
      · exact .inr ⟨thrown, rfl⟩
      · exact .inl (runs_pure.mp hrest).2
    | cons y a =>
      obtain ⟨-, rfl⟩ := List.cons.inj ht
      exact absurd h (not_creates (makes_emit.bind fun _ => makes_pure _))
  · cases a with
    | nil =>
      obtain ⟨hx, rfl⟩ := List.cons.inj ht
      cases hx
      exact ⟨rfl, .inr ⟨thrown, rfl⟩⟩
    | cons y a => exact absurd (List.cons.inj ht).2 (by simp)

/-- A session is created for the configured user, once the limiter and the password granted it. -/
theorem runs_authenticate {control : ControlPlaneService} {given password : String}
    {priorSessionToken : Option String} {r : Except Thrown LoginResult}
    (h : Runs (control.authenticate given password clientIdentifier priorSessionToken)
      (a ++ ⟨.createSession username, .ok created⟩ :: b) r) :
    control.authenticationEnabled = true ∧ given = control.username ∧
      control.verifyPassword password = .ok true ∧ username = control.username ∧
      ⟨.beginAttempt .login clientIdentifier, .ok true⟩ ∈ a ∧
      (r = .ok ⟨.success, some created⟩ ∨ ∃ thrown, r = .error thrown) := by
  unfold ControlPlaneService.authenticate at h
  split at h
  · obtain ⟨ht, -⟩ := runs_pure.mp h
    exact absurd ht (by simp)
  -- authentication is enabled, so the limiter is asked first
  rename_i henabled
  replace h := runs_invoke_bind.mp h
  obtain ⟨granted, t, ht, ⟨granted', hgranted, h⟩ | ⟨thrown, -, rfl, -⟩⟩ := h
  swap
  · cases a with
    | nil => cases (List.cons.inj ht).1
    | cons y a => exact absurd (List.cons.inj ht).2 (by simp)
  obtain rfl : granted = .ok granted' := hgranted
  obtain ⟨a, rfl, rfl⟩ : ∃ a', a = [⟨.beginAttempt .login clientIdentifier, .ok granted'⟩] ++ a' ∧
      t = a' ++ ⟨.createSession username, .ok created⟩ :: b :=
    cut_after (fun hmem => by cases List.mem_singleton.mp hmem) ht.symm
  split at h
  swap
  · exact absurd h (not_creates (makes_emit.bind fun _ => makes_pure _))
  -- it granted the attempt, so the password is verified
  rename_i hgranted
  subst hgranted
  replace h := runs_bind.mp h
  obtain ⟨thrown, hraised, rfl⟩ | ⟨matches', t₁, t₂, ht, hverify, h⟩ := h
  · obtain ⟨ht, -⟩ := runs_ofExcept.mp hraised
    exact absurd ht (by simp)
  obtain ⟨rfl, hverified⟩ := runs_ofExcept.mp hverify
  rw [List.nil_append] at ht
  subst ht
  split at h
  swap
  · exact absurd h (not_creates (makes_emit.bind fun _ => makes_pure _))
  -- both credentials are right; only here a session may be created
  rename_i hcredentials
  obtain ⟨hgiven, rfl⟩ := Bool.and_eq_true_iff.mp hcredentials
  replace h := runs_ask_bind.mp h
  obtain ⟨answer, t, ht, h⟩ := h
  obtain ⟨a, rfl, rfl⟩ : ∃ a', a = [⟨.clearAttempts clientIdentifier, answer⟩] ++ a' ∧
      t = a' ++ ⟨.createSession username, .ok created⟩ :: b :=
    cut_after (fun hmem => by cases List.mem_singleton.mp hmem) ht.symm
  have hlast : username = control.username ∧
      (r = .ok ⟨.success, some created⟩ ∨ ∃ thrown, r = .error thrown) := by
    cases priorSessionToken with
    | none => exact runs_openSession h
    | some token =>
      replace h := runs_ask_bind.mp h
      obtain ⟨answer, t, ht, h⟩ := h
      obtain ⟨a, rfl, rfl⟩ : ∃ a', a = [⟨.invalidateSession token, answer⟩] ++ a' ∧
          t = a' ++ ⟨.createSession username, .ok created⟩ :: b :=
        cut_after (fun hmem => by cases List.mem_singleton.mp hmem) ht.symm
      exact runs_openSession h
  exact ⟨by simpa using henabled, of_decide_eq_true hgiven, hverified.symm, hlast.1, by simp, hlast.2⟩

/-- A session is created by a login whose credentials were accepted, and which says so. -/
theorem runs_login {request : ControlRequest} {r : Except Thrown ControlAnswer}
    (h : Runs (request.program services) (a ++ ⟨.createSession username, .ok created⟩ :: b) r) :
    ∃ clientIdentifier, LogsIn services request clientIdentifier ∧
      username = services.control.username ∧
      ⟨.beginAttempt .login clientIdentifier, .ok true⟩ ∈ a ∧
      (r = .ok (.login ⟨.success, some created⟩) ∨ ∃ thrown, r = .error thrown) := by
  by_cases hlogin : ∀ cookie form clientIdentifier, request ≠ .login cookie form clientIdentifier
  · exact absurd h (not_creates (makes_program hlogin))
  obtain ⟨cookie, form, clientIdentifier, rfl⟩ :
      ∃ cookie form clientIdentifier, request = .login cookie form clientIdentifier := by
    simpa using hlogin
  replace h : Runs (services.postLogin cookie form clientIdentifier) _ r := h
  unfold ControlServices.postLogin at h
  split at h
  · obtain ⟨ht, -⟩ := runs_pure.mp h
    exact absurd ht (by simp)
  split at h
  · exact absurd h (not_creates (makes_emit.bind fun _ => makes_pure _))
  rename_i given password
  split at h
  · exact absurd h (not_creates (makes_emit.bind fun _ => makes_pure _))
  replace h := runs_bind.mp h
  obtain ⟨thrown, hraised, rfl⟩ | ⟨found, t₁, t₂, ht, hsession, h⟩ := h
  · exact absurd hraised (not_creates makes_requestSession)
  obtain ⟨a, rfl, rfl⟩ := cut_after (not_mem_of_sessionless makes_requestSession hsession) ht.symm
  obtain ⟨r', hauthenticate, hr⟩ : ∃ r', Runs (services.control.authenticate given password
      clientIdentifier found.1) (a ++ ⟨.createSession username, .ok created⟩ :: b) r' ∧
      ∀ created, (r' = .ok ⟨.success, some created⟩ → r = .ok (.login ⟨.success, some created⟩)) ∧
        ((∃ thrown, r' = .error thrown) → ∃ thrown, r = .error thrown) := by
    obtain ⟨thrown, hraised, rfl⟩ | ⟨result, t₃, t₄, ht, hresult, hrest⟩ := runs_bind.mp h
    · exact ⟨_, hraised, fun _ => ⟨(fun hr => by cases hr), fun _ => ⟨thrown, rfl⟩⟩⟩
    · obtain ⟨rfl, rfl⟩ := runs_pure.mp hrest
      rw [List.append_nil] at ht
      rw [ht]
      refine ⟨_, hresult, fun created => ⟨fun hr => ?_, (fun ⟨_, hr⟩ => by cases hr)⟩⟩
      rw [Except.ok.inj hr]
  obtain ⟨henabled, rfl, hpassword, huser, hgranted, hresult⟩ := runs_authenticate hauthenticate
  refine ⟨clientIdentifier, ⟨henabled, cookie, password, rfl, hpassword⟩, huser,
    List.mem_append_right _ hgranted, ?_⟩
  exact hresult.imp (hr created).1 (hr created).2

end Logins

end Aurora.ControlPlane
