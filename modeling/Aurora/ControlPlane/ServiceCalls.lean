/-
  Which calls the services make.

  A kind of calls is `Ordinary` if it holds the audit, the limiters, the caches and the look at a
  session, and `Serving` if it holds the locks and the executions as well.  Every program but the
  login makes calls of any serving kind alone, and what happens outside the gate makes ordinary ones.
-/
import Aurora.ControlPlane.Handlers

namespace Aurora.ControlPlane

open Program

variable {α β : Type} {allowed : ControlCall → Prop}

/-- The kind holds what a service calls outside the gate. -/
class Ordinary (allowed : ControlCall → Prop) : Prop where
  emit : ∀ event reason, allowed (.emit event reason)
  emitOperation : ∀ event reason operation, allowed (.emitOperation event reason operation)
  beginAttempt : ∀ limiter clientIdentifier, allowed (.beginAttempt limiter clientIdentifier)
  invalidateCache : ∀ device, allowed (.invalidateCache device)
  resolveSession : ∀ token, allowed (.resolveSession token)
  invalidateSession : ∀ token, allowed (.invalidateSession token)

/-- The kind holds what a service calls. -/
class Serving (allowed : ControlCall → Prop) : Prop extends Ordinary allowed where
  acquireGate : allowed .acquireGate
  releaseGate : allowed .releaseGate
  acquireLock : ∀ device, allowed (.acquireLock device)
  releaseLock : ∀ device, allowed (.releaseLock device)
  startWled : ∀ operation input, allowed (.startWled operation input)
  finishWled : ∀ operation input, allowed (.finishWled operation input)
  startHyperhdr : ∀ operation, allowed (.startHyperhdr operation)
  finishHyperhdr : ∀ operation, allowed (.finishHyperhdr operation)

/-! ## Outside the gate -/

section Outside

variable [Ordinary allowed]

/-- An audit event is written with allowed calls only, as all calls outside the three executions
    are. -/
theorem makes_emit {event : AuditEvent} {reason : AuditReason} :
    (emit event reason).Makes allowed := makes_invoke (Ordinary.emit event reason)

theorem makes_emitOperation {event : AuditEvent} {reason : AuditReason}
    {operation : ControlOperation} : (emitOperation event reason operation).Makes allowed :=
  makes_invoke (Ordinary.emitOperation event reason operation)

/-- The limiter is asked with a call that executes nothing. -/
theorem makes_beginAttempt {limiter : ControlLimiter} {clientIdentifier : String} :
    (beginAttempt limiter clientIdentifier).Makes allowed :=
  makes_invoke (Ordinary.beginAttempt limiter clientIdentifier)

/-- The authentication of a mutation executes nothing but what its denial does. -/
theorem makes_authenticationFailure {authenticationEnabled : Bool} {session : Option SessionContext}
    {submittedCsrf : Option String} {deny : AuditReason → ControlProgram α}
    (hdeny : ∀ reason, (deny reason).Makes allowed) :
    (authenticationFailure authenticationEnabled session submittedCsrf deny).Makes allowed := by
  have hdenied : ∀ reason, (do return some (← deny reason) : ControlProgram (Option α)).Makes
      allowed := fun reason => (hdeny reason).bind fun _ => makes_pure _
  unfold authenticationFailure
  split
  · split
    · exact makes_emit.bind fun _ => hdenied _
    · split
      · exact makes_pure _
      · exact makes_emit.bind fun _ => hdenied _
  · exact hdenied _

namespace Gates

variable {gates : Gates}

theorem makes_deny {reason : AuditReason} : (gates.deny reason).Makes allowed :=
  makes_emitOperation.bind fun _ => makes_pure _

theorem makes_confirmationDenied {reason : AuditReason} :
    (gates.confirmationDenied reason).Makes allowed :=
  makes_emitOperation.bind fun _ => makes_pure _

theorem makes_rateLimited : gates.rateLimited.Makes allowed :=
  makes_emitOperation.bind fun _ => makes_pure _

theorem makes_busy : gates.busy.Makes allowed :=
  makes_emitOperation.bind fun _ => makes_pure _

theorem makes_report {verified verificationFailed : Bool} {reason : AuditReason} :
    (gates.report verified verificationFailed reason).Makes allowed := by
  unfold report
  split
  · refine makes_emitOperation.bind fun _ => ?_
    exact Makes.bind (makes_invoke (Ordinary.invalidateCache _)) fun _ => makes_pure _
  · split <;> exact makes_emitOperation.bind fun _ => makes_pure _

end Gates

/-- The checks of a request execute nothing. -/
theorem makes_requestSecurityFailure {service : WLEDControlService} {operation : WLEDOperation}
    {session : Option SessionContext} {submittedCsrf : Option String} :
    (service.requestSecurityFailure operation session submittedCsrf).Makes allowed :=
  makes_authenticationFailure fun _ => Gates.makes_deny

/-- The report of a composite executes nothing. -/
theorem AmbientControlService.makes_finish {operation : AuroraOperation}
    {status : AmbientControlStatus} {reason : AuditReason}
    {attempted verified : List AmbientControlStep} :
    (finish operation status reason attempted verified).Makes allowed :=
  makes_emitOperation.bind fun _ => makes_pure _

/-- The resolution of a session executes nothing. -/
theorem makes_resolveSession {control : ControlPlaneService} {token : Option String} :
    (control.resolveSession token).Makes allowed := by
  unfold ControlPlaneService.resolveSession
  split
  · refine Makes.bind (makes_ask (Ordinary.resolveSession _)) fun lookup => ?_
    split
    · exact makes_pure _
    · exact makes_emit.bind fun _ => makes_pure _
    · exact makes_emit.bind fun _ => makes_pure _
  · exact makes_pure _

/-- A request's session is resolved without an execution. -/
theorem makes_requestSession {services : ControlServices} {cookie : CookieLookup} :
    (services.requestSession cookie).Makes allowed := by
  unfold ControlServices.requestSession
  split
  · exact makes_emit.bind fun _ => makes_pure _
  · exact makes_resolveSession.bind fun _ => makes_pure _

theorem makes_invalidateSession {token : String} : (invalidateSession token).Makes allowed :=
  makes_ask (Ordinary.invalidateSession token)

/-- A logout invalidates a session and executes nothing. -/
theorem makes_logout {sessionToken : String} {session : SessionContext}
    {submittedCsrf : Option String} :
    (ControlPlaneService.logout sessionToken session submittedCsrf).Makes allowed := by
  unfold ControlPlaneService.logout
  split
  · exact makes_emit.bind fun _ => makes_pure _
  · split
    · exact makes_emit.bind fun _ => makes_pure _
    · exact makes_invalidateSession.bind fun _ => makes_emit.bind fun _ => makes_pure _

theorem makes_postLogout {services : ControlServices} {cookie : CookieLookup}
    {form : SubmittedForm (Option String)} : (services.postLogout cookie form).Makes allowed := by
  unfold ControlServices.postLogout
  split
  · exact makes_emit.bind fun _ => makes_pure _
  · refine makes_requestSession.bind fun resolved => ?_
    split
    · split
      · exact makes_emit.bind fun _ => makes_pure _
      · exact makes_logout.bind fun _ => makes_pure _
    · exact makes_emit.bind fun _ => makes_pure _

theorem makes_visit {services : ControlServices} {cookie : CookieLookup} :
    (ControlRequest.program services (.visit cookie)).Makes allowed :=
  makes_requestSession.bind fun _ => makes_pure _

/-- The boundary of an operation makes the calls of the service it leads to. -/
theorem makes_postOperation {services : ControlServices} {denied : AuditEvent}
    {operation : ControlOperation} {cookie : CookieLookup} {form : SubmittedForm ControlForm}
    {call : SessionContext → ControlForm → ControlProgram ControlAnswer}
    (hcall : ∀ session fields, (call session fields).Makes allowed) :
    (services.postOperation denied operation cookie form call).Makes allowed := by
  unfold ControlServices.postOperation
  split
  · exact makes_emitOperation.bind fun _ => makes_pure _
  · refine makes_requestSession.bind fun resolved => ?_
    split
    · exact makes_emitOperation.bind fun _ => makes_pure _
    · split
      · exact makes_emitOperation.bind fun _ => makes_pure _
      · exact hcall _ _

end Outside

/-! ## Inside the gate -/

section Inside

theorem Makes.finallyDo {body : ControlProgram α} {cleanup : ControlProgram Unit}
    (hbody : body.Makes allowed) (hcleanup : cleanup.Makes allowed) :
    (finallyDo body cleanup).Makes allowed :=
  hbody.catching.bind fun _ => hcleanup.bind fun _ => makes_ofExcept _

theorem makes_exceptException {body : ControlProgram α} {handled : α} (h : body.Makes allowed) :
    (exceptException body handled).Makes allowed := by
  refine h.catching.bind fun r => ?_
  cases r with
  | ok a => exact makes_pure a
  | error thrown => cases thrown <;> trivial

variable [Serving allowed]

theorem makes_executeWled {operation : WLEDOperation} {input : OperationInput} :
    (executeWled operation input).Makes allowed :=
  Makes.bind (makes_ask (Serving.startWled _ _)) fun _ => makes_invoke (Serving.finishWled _ _)

theorem makes_executeHyperhdr {operation : HyperHDROperation} :
    (executeHyperhdr operation).Makes allowed :=
  Makes.bind (makes_ask (Serving.startHyperhdr _)) fun _ => makes_invoke (Serving.finishHyperhdr _)

/-- The gates around an adapter make the adapter's calls and those of the gates. -/
theorem Gates.makes_execute {gates : Gates} {session : Option SessionContext}
    {submittedCsrf confirmation : Option String} {clientIdentifier : String}
    {adapter : ControlProgram β} {failure : β} {reported : β → ControlProgram ControlResult}
    (hadapter : adapter.Makes allowed) (hreported : ∀ b, (reported b).Makes allowed) :
    (gates.execute session submittedCsrf confirmation clientIdentifier adapter failure
      reported).Makes allowed := by
  have hunderLock : (gates.underLock adapter failure).Makes allowed := by
    unfold underLock
    split
    · exact (makes_exceptException hadapter).bind fun _ => makes_pure _
    · exact makes_deny.bind fun _ => makes_pure _
  have hunderGate : (gates.underGate adapter failure).Makes allowed := by
    refine Makes.bind (makes_ask (Serving.acquireLock _)) fun acquired => ?_
    split
    · exact Makes.finallyDo hunderLock (makes_ask (Serving.releaseLock _))
    · exact makes_busy.bind fun _ => makes_pure _
  have hserialized : (gates.serialized clientIdentifier adapter failure reported).Makes allowed := by
    refine makes_beginAttempt.bind fun granted => ?_
    split
    · refine Makes.bind (makes_ask Serving.acquireGate) fun acquired => ?_
      split
      · refine (Makes.finallyDo hunderGate (makes_ask Serving.releaseGate)).bind fun result => ?_
        split
        · exact makes_pure _
        · exact hreported _
      · exact makes_busy
    · exact makes_rateLimited
  refine (makes_authenticationFailure fun _ => makes_deny).bind fun denied => ?_
  split
  · exact makes_pure _
  · split
    · exact makes_deny
    · split
      · exact makes_deny
      · split
        · exact makes_confirmationDenied
        · split
          · exact makes_deny
          · exact hserialized

section Services

variable {session : Option SessionContext} {submittedCsrf confirmation : Option String}
  {clientIdentifier : String}

theorem makes_wled {service : WLEDControlService} {operation : WLEDOperation}
    {input : OperationInput} :
    (service.execute operation input session submittedCsrf clientIdentifier confirmation).Makes
      allowed :=
  Gates.makes_execute makes_executeWled fun _ => Gates.makes_report

/-- A HyperHDR operation, through its gates. -/
theorem makes_hyperhdr {service : HyperHDRControlService} {operation : HyperHDROperation} :
    (service.execute operation session submittedCsrf clientIdentifier confirmation).Makes allowed :=
  Gates.makes_execute makes_executeHyperhdr fun _ => Gates.makes_report

theorem makes_setBrightness {service : WLEDControlService} {brightness : Int} :
    (service.setBrightness session submittedCsrf brightness clientIdentifier).Makes allowed := by
  refine makes_requestSecurityFailure.bind fun denied => ?_
  split
  · exact makes_pure _
  · split
    · exact Gates.makes_deny
    · exact makes_wled

end Services

namespace AmbientControlService

variable {operation : AuroraOperation} {call : AmbientControlStep → ControlProgram ControlResult}

/-- A step of a composite is an operation of one of the two devices. -/
theorem makes_childCall {service : AmbientControlService} {session : SessionContext}
    {submittedCsrf clientIdentifier : String} (step : AmbientControlStep) :
    (service.childCall session submittedCsrf clientIdentifier step).Makes allowed := by
  cases step with
  | videoGrabberEnable => exact @makes_hyperhdr _ _ _ _ none _ _ _
  | ledOutputEnable => exact @makes_hyperhdr _ _ _ _ none _ _ _
  | ledOutputDisable => exact @makes_hyperhdr _ _ _ _ (some ledOutputDisableConfirmationValue) _ _ _
  | videoGrabberDisable =>
    exact @makes_hyperhdr _ _ _ _ (some videoGrabberDisableConfirmationValue) _ _ _
  | wledPowerOn => exact @makes_wled _ _ _ _ none _ _ _ _
  | wledPowerOff => exact @makes_wled _ _ _ _ (some powerOffConfirmationValue) _ _ _ _

omit [Serving allowed] in
theorem makes_safeChildCall {step : AmbientControlStep} (h : (call step).Makes allowed) :
    (safeChildCall (call step)).Makes allowed :=
  makes_exceptException (h.bind fun _ => makes_pure _)

/-- By induction on the steps that are left. -/
theorem makes_runSteps (hcall : ∀ step, (call step).Makes allowed)
    (steps : List AmbientControlStep) :
    ∀ attempted verified, (runSteps operation call attempted verified steps).Makes allowed := by
  induction steps with
  | nil => exact fun _ _ => makes_finish
  | cons step steps ih =>
    intro attempted verified
    refine (makes_safeChildCall (hcall step)).bind fun result => ?_
    split
    · exact ih _ _
    · exact (makes_ofExcept _).bind fun _ => makes_finish

theorem makes_run (hcall : ∀ step, (call step).Makes allowed) :
    (run operation call).Makes allowed := by
  unfold run
  split
  · exact makes_runSteps hcall _ _ _
  · refine (makes_safeChildCall (hcall _)).bind fun ledResult => ?_
    split
    · exact (makes_ofExcept _).bind fun _ => makes_finish
    · refine (makes_safeChildCall (hcall _)).bind fun grabberResult => ?_
      exact (makes_safeChildCall (hcall _)).bind fun wledResult => makes_finish

/-- A composite, from its own checks to its report. -/
theorem makes_execute {service : AmbientControlService} {session : Option SessionContext}
    {submittedCsrf confirmation : Option String} {clientIdentifier : String} :
    (service.execute operation session submittedCsrf clientIdentifier confirmation).Makes
      allowed := by
  have hserialized : ∀ {context token},
      (serialized operation (service.childCall context token clientIdentifier)
        clientIdentifier).Makes allowed := by
    intro context token
    refine makes_beginAttempt.bind fun granted => ?_
    split
    · refine Makes.bind (makes_ask Serving.acquireGate) fun acquired => ?_
      split
      · exact Makes.finallyDo (makes_run fun _ => makes_childCall _)
          (makes_ask Serving.releaseGate)
      · exact makes_finish
    · exact makes_finish
  refine (makes_authenticationFailure fun _ => makes_finish).bind fun denied => ?_
  split
  · exact makes_pure _
  · split
    · split
      · exact makes_finish
      · split
        · exact makes_finish
        · split
          · exact makes_finish
          · split
            · exact makes_finish
            · exact hserialized
    · trivial

end AmbientControlService

section Handlers

variable {services : ControlServices} {clientIdentifier : String} {session : SessionContext}
  {fields : ControlForm}

theorem makes_callWled {operation : WLEDOperation} :
    (services.callWled operation clientIdentifier session fields).Makes allowed := by
  unfold ControlServices.callWled
  cases operation with
  | powerOn => exact Makes.bind (@makes_wled _ _ _ _ none _ _ _ _) fun _ => makes_pure _
  | powerOff =>
    exact Makes.bind (@makes_wled _ _ _ _ fields.confirmation _ _ _ _) fun _ => makes_pure _
  | brightnessSet =>
    dsimp only
    split
    · refine makes_requestSecurityFailure.bind fun denied => ?_
      split
      · exact makes_pure _
      · exact makes_emitOperation.bind fun _ => makes_pure _
    · exact makes_setBrightness.bind fun _ => makes_pure _

theorem makes_callHyperhdr {operation : HyperHDROperation} :
    (services.callHyperhdr operation clientIdentifier session fields).Makes allowed := by
  unfold ControlServices.callHyperhdr
  cases operation with
  | videoGrabberEnable =>
    exact Makes.bind (@makes_hyperhdr _ _ _ _ none _ _ _) fun _ => makes_pure _
  | ledOutputEnable => exact Makes.bind (@makes_hyperhdr _ _ _ _ none _ _ _) fun _ => makes_pure _
  | videoGrabberDisable =>
    exact Makes.bind (@makes_hyperhdr _ _ _ _ fields.confirmation _ _ _) fun _ => makes_pure _
  | ledOutputDisable =>
    exact Makes.bind (@makes_hyperhdr _ _ _ _ fields.confirmation _ _ _) fun _ => makes_pure _

theorem makes_callAmbient {operation : AuroraOperation} :
    (services.callAmbient operation clientIdentifier session fields).Makes allowed := by
  unfold ControlServices.callAmbient
  cases operation with
  | ambientOn =>
    exact Makes.bind (@AmbientControlService.makes_execute _ _ .ambientOn _ _ _ none _)
      fun _ => makes_pure _
  | ambientOff =>
    exact Makes.bind
      (@AmbientControlService.makes_execute _ _ .ambientOff _ _ _ fields.confirmation _)
      fun _ => makes_pure _

end Handlers

/-- Every request but a login makes calls of a serving kind. -/
theorem makes_program {services : ControlServices} {request : ControlRequest}
    (h : ∀ cookie form clientIdentifier, request ≠ .login cookie form clientIdentifier) :
    (request.program services).Makes allowed := by
  cases request with
  | login cookie form clientIdentifier => exact absurd rfl (h cookie form clientIdentifier)
  | logout => exact makes_postLogout
  | visit => exact makes_visit
  | wled => exact makes_postOperation fun _ _ => makes_callWled
  | hyperhdr => exact makes_postOperation fun _ _ => makes_callHyperhdr
  | ambient => exact makes_postOperation fun _ _ => makes_callAmbient

end Inside

end Aurora.ControlPlane
