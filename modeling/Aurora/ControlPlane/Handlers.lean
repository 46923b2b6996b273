/-
  The protected requests of the dashboard: logging in and out, and changing a device.

  A request carries a session cookie and, once it is read, a form; both are what a client chose.  The
  handlers resolve the session first and hand it to the service.  `ControlRequest.program` is what a
  thread of the server does for one request.
-/
import Aurora.ControlPlane.Controls

namespace Aurora.ControlPlane

open Program (ask invoke ofExcept)

/-! ## Authentication -/

/-- How a login ended. -/
inductive LoginStatus
  | success | failure | rateLimited | unavailable
  deriving DecidableEq

/-- The answer of a login. -/
structure LoginResult where
  status : LoginStatus
  createdSession : Option CreatedSession

/-- `verifyPassword` is the check of a password against the stored hash. -/
structure ControlPlaneService where
  authenticationEnabled : Bool
  username : String
  verifyPassword : String → Except Thrown Bool

/-- Forget the attempts of a client. -/
def clearAttempts (clientIdentifier : String) : ControlProgram Unit :=
  ask (I := ControlInterface) (.clearAttempts clientIdentifier)

/-- Create a session. -/
def createSession (username : String) : ControlProgram CreatedSession :=
  invoke (I := ControlInterface) (.createSession username) id

/-- End a session. -/
def invalidateSession (token : String) : ControlProgram Bool :=
  ask (I := ControlInterface) (.invalidateSession token)

namespace ControlPlaneService

/-- `authenticate` -/
def authenticate (control : ControlPlaneService) (username password clientIdentifier : String)
    (priorSessionToken : Option String) : ControlProgram LoginResult := do
  if !control.authenticationEnabled then return ⟨.unavailable, none⟩
  else if ← beginAttempt .login clientIdentifier then
    let passwordMatches ← ofExcept (control.verifyPassword password)
    if username = control.username && passwordMatches then
      clearAttempts clientIdentifier
      if let some token := priorSessionToken then
        let _ ← invalidateSession token
      let created ← createSession control.username
      emit .loginSucceeded .authenticated
      return ⟨.success, some created⟩
    else
      emit .loginFailed .invalidCredentials
      return ⟨.failure, none⟩
  else
    emit .loginRateLimited .attemptLimit
    return ⟨.rateLimited, none⟩

/-- `resolve_session` -/
def resolveSession (control : ControlPlaneService) (token : Option String) :
    ControlProgram (Option SessionContext) := do
  match control.authenticationEnabled, token with
  | true, some token =>
    let lookup ← ask (I := ControlInterface) (.resolveSession token)
    match (lookup : ℚ × SessionLookup).2 with
    | .valid session => return some session
    | .expired =>
      emit .sessionRejected .expiredSession
      return none
    | .invalid =>
      emit .sessionRejected .invalidSession
      return none
  | _, _ => return none

/-- `logout` -/
def logout (sessionToken : String) (session : SessionContext) (submittedCsrf : Option String) :
    ControlProgram Bool := do
  match submittedCsrf with
  | none =>
    emit .csrfRejected .missingCsrf
    return false
  | some submittedCsrf =>
    if !csrfIsValid session submittedCsrf then
      emit .csrfRejected .invalidCsrf
      return false
    else
      let _ ← invalidateSession sessionToken
      emit .logoutSucceeded .loggedOut
      return true

end ControlPlaneService

/-! ## Requests -/

/-- What the session cookie of a request is read as. -/
inductive CookieLookup
  | malformed
  | token (token : Option String)

/-- The fields of a form that was accepted. -/
structure ControlForm where
  csrfToken : Option String
  confirmation : Option String
  brightness : Option String

/-- The form of a request, or why it is refused. -/
abbrev SubmittedForm (Fields : Type) := Except AuditReason Fields

/-- The digits that `_BRIGHTNESS_FORM_VALUE` matches. -/
def brightnessDigits : List Char → Bool
  | [] => false
  | c :: rest => '1' ≤ c && c ≤ '9' && rest.length ≤ 2 && rest.all fun d => '0' ≤ d && d ≤ '9'

/-- `_parse_brightness` -/
def parseBrightness (value : Option String) : Option Int :=
  match value with
  | none => none
  | some value =>
    if brightnessDigits value.toList then
      let parsed : Int := value.toList.foldl (fun n d => 10 * n + (d.toNat - '0'.toNat)) 0
      if 1 ≤ parsed ∧ parsed ≤ 255 then some parsed else none
    else none

/-- The services behind the handlers; the composite calls the device services of the server. -/
structure ControlServices where
  control : ControlPlaneService
  ambient : AmbientControlService

/-- The service of the lights. -/
def ControlServices.wled (services : ControlServices) : WLEDControlService := services.ambient.wled

/-- The service of HyperHDR. -/
def ControlServices.hyperhdr (services : ControlServices) : HyperHDRControlService :=
  services.ambient.hyperhdr

/-- What a handler was told, before it renders it. -/
inductive ControlAnswer
  | refused
  | session (session : Option SessionContext)
  | login (result : LoginResult)
  | logout (done : Bool)
  | device (result : ControlResult)
  | ambient (result : AmbientControlResult)

namespace ControlServices

/-- `_request_session` -/
def requestSession (services : ControlServices) (cookie : CookieLookup) :
    ControlProgram (Option String × Option SessionContext) := do
  match cookie with
  | .malformed =>
    emit .sessionRejected .malformedCookie
    return (none, none)
  | .token token =>
    return (token, ← services.control.resolveSession token)

/-- The steps of the three handlers before they call their service. -/
def postOperation (services : ControlServices) (denied : AuditEvent) (operation : ControlOperation)
    (cookie : CookieLookup) (form : SubmittedForm ControlForm)
    (call : SessionContext → ControlForm → ControlProgram ControlAnswer) :
    ControlProgram ControlAnswer := do
  if !services.control.authenticationEnabled then
    emitOperation denied .authenticationDisabled operation
    return .refused
  else
    match ← services.requestSession cookie with
    | (_, none) =>
      emitOperation denied .authenticationRequired operation
      return .refused
    | (_, some session) =>
      match form with
      | .error reason =>
        emitOperation denied reason operation
        return .refused
      | .ok fields => call session fields

/-- `_post_wled_operation`, from the form on. -/
def callWled (services : ControlServices) (operation : WLEDOperation) (clientIdentifier : String)
    (session : SessionContext) (fields : ControlForm) : ControlProgram ControlAnswer := do
  match operation with
  | .powerOn =>
    return .device (← services.wled.powerOn session fields.csrfToken clientIdentifier)
  | .powerOff =>
    return .device
      (← services.wled.powerOff session fields.csrfToken fields.confirmation clientIdentifier)
  | .brightnessSet =>
    match parseBrightness fields.brightness with
    | none =>
      match ← services.wled.requestSecurityFailure .brightnessSet session fields.csrfToken with
      | some failure => return .device failure
      | none =>
        emitOperation .wledOperationDenied .invalidBrightness (.wled .brightnessSet)
        return .refused
    | some brightness =>
      return .device
        (← services.wled.setBrightness session fields.csrfToken brightness clientIdentifier)

/-- `_post_hyperhdr_operation`, from the form on. -/
def callHyperhdr (services : ControlServices) (operation : HyperHDROperation)
    (clientIdentifier : String) (session : SessionContext) (fields : ControlForm) :
    ControlProgram ControlAnswer := do
  match operation with
  | .videoGrabberEnable =>
    return .device
      (← services.hyperhdr.videoGrabberEnable session fields.csrfToken clientIdentifier)
  | .videoGrabberDisable =>
    return .device (← services.hyperhdr.videoGrabberDisable session fields.csrfToken
      fields.confirmation clientIdentifier)
  | .ledOutputEnable =>
    return .device (← services.hyperhdr.ledOutputEnable session fields.csrfToken clientIdentifier)
  | .ledOutputDisable =>
    return .device (← services.hyperhdr.ledOutputDisable session fields.csrfToken
      fields.confirmation clientIdentifier)

/-- `_post_ambient_operation`, from the form on. -/
def callAmbient (services : ControlServices) (operation : AuroraOperation)
    (clientIdentifier : String) (session : SessionContext) (fields : ControlForm) :
    ControlProgram ControlAnswer := do
  match operation with
  | .ambientOn =>
    return .ambient (← services.ambient.ambientOn session fields.csrfToken clientIdentifier)
  | .ambientOff =>
    return .ambient (← services.ambient.ambientOff session fields.csrfToken fields.confirmation
      clientIdentifier)

/-- `_post_login`: the form holds a user name and a password. -/
def postLogin (services : ControlServices) (cookie : CookieLookup)
    (form : SubmittedForm (String × String)) (clientIdentifier : String) :
    ControlProgram ControlAnswer := do
  if !services.control.authenticationEnabled then return .refused
  else
    match form with
    | .error reason =>
      emit .authenticationRequestRejected reason
      return .refused
    | .ok (username, password) =>
      if username.length > 64 || password.length > 1024 then
        emit .authenticationRequestRejected .malformedForm
        return .refused
      else
        let (priorToken, _) ← services.requestSession cookie
        return .login
          (← services.control.authenticate username password clientIdentifier priorToken)

/-- `_post_logout` -/
def postLogout (services : ControlServices) (cookie : CookieLookup)
    (form : SubmittedForm (Option String)) : ControlProgram ControlAnswer := do
  if !services.control.authenticationEnabled then
    emit .protectedPageDenied .authenticationDisabled
    return .refused
  else
    match ← services.requestSession cookie with
    | (some sessionToken, some session) =>
      match form with
      | .error reason =>
        emit .authenticationRequestRejected reason
        return .refused
      | .ok csrfToken =>
        return .logout (← ControlPlaneService.logout sessionToken session csrfToken)
    | _ =>
      emit .protectedPageDenied .authenticationRequired
      return .refused

end ControlServices

/-- The requests of a browser. -/
inductive ControlRequest
  | login (cookie : CookieLookup) (form : SubmittedForm (String × String))
      (clientIdentifier : String)
  | logout (cookie : CookieLookup) (form : SubmittedForm (Option String))
  /-- A page that looks whether there is a session. -/
  | visit (cookie : CookieLookup)
  | wled (operation : WLEDOperation) (cookie : CookieLookup) (form : SubmittedForm ControlForm)
      (clientIdentifier : String)
  | hyperhdr (operation : HyperHDROperation) (cookie : CookieLookup)
      (form : SubmittedForm ControlForm) (clientIdentifier : String)
  | ambient (operation : AuroraOperation) (cookie : CookieLookup)
      (form : SubmittedForm ControlForm) (clientIdentifier : String)

/-- The program of a request. -/
def ControlRequest.program (services : ControlServices) :
    ControlRequest → ControlProgram ControlAnswer
  | .login cookie form clientIdentifier => services.postLogin cookie form clientIdentifier
  | .logout cookie form => services.postLogout cookie form
  | .visit cookie => do
    let (_, session) ← services.requestSession cookie
    return .session session
  | .wled operation cookie form clientIdentifier =>
    services.postOperation .wledOperationDenied (.wled operation) cookie form
      (services.callWled operation clientIdentifier)
  | .hyperhdr operation cookie form clientIdentifier =>
    services.postOperation .hyperhdrOperationDenied (.hyperhdr operation) cookie form
      (services.callHyperhdr operation clientIdentifier)
  | .ambient operation cookie form clientIdentifier =>
    services.postOperation .auroraOperationDenied (.aurora operation) cookie form
      (services.callAmbient operation clientIdentifier)

end Aurora.ControlPlane
