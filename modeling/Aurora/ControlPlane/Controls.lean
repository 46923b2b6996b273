/-
  The services that change devices: WLED, HyperHDR, and the composite of both.

  Each service is a program over its calls: the limiters, the mutation gate, the operation lock of a
  device, the execution of an adapter with its start and its end, the audit and the cache.  Every one
  of them but the locks may raise, and what is no `Exception` goes through the `except` clauses.

  The two device services differ in their settings, their operations and their reports; the gates
  that a request passes are the same (`Gates.execute`).
-/
import Aurora.Lib.Gate
import Aurora.Lib.Worlds
import Aurora.ControlPlane.Forms
import Aurora.ControlPlane.HyperhdrAdapter
import Aurora.ControlPlane.Sessions

namespace Aurora.ControlPlane

open Program (ask invoke ofExcept raise finallyDo)

/-! ## Operations -/

/-- The operations on the lights. -/
inductive WLEDOperation
  | powerOn
  | powerOff
  | brightnessSet
  deriving DecidableEq

/-- The composite operations. -/
inductive AuroraOperation
  | ambientOn
  | ambientOff
  deriving DecidableEq

/-- What the audit names. -/
inductive ControlOperation
  | wled (operation : WLEDOperation)
  | hyperhdr (operation : HyperHDROperation)
  | aurora (operation : AuroraOperation)
  deriving DecidableEq

/-- An absolute brightness. -/
structure BrightnessInput where
  brightness : Int
  bounded : 1 ≤ brightness ∧ brightness ≤ 255

/-- The checked constructor. -/
def BrightnessInput.new? (brightness : Int) : Option BrightnessInput :=
  if h : 1 ≤ brightness ∧ brightness ≤ 255 then some ⟨brightness, h⟩ else none

/-- What an operation on the lights is given. -/
inductive OperationInput
  | noOperationInput
  | brightnessInput (input : BrightnessInput)

/-- The text that confirms switching the lights off. -/
def powerOffConfirmationValue : String := "confirm_power_off"
/-- The text that confirms switching the grabber off. -/
def videoGrabberDisableConfirmationValue : String := "confirm_video_grabber_disable"
/-- The text that confirms switching the LED output off. -/
def ledOutputDisableConfirmationValue : String := "confirm_led_output_disable"
/-- The text that confirms switching everything off. -/
def auroraAmbientOffConfirmationValue : String := "confirm_ambient_off"

/-- The operations of a registry, in order. -/
def operationRegistry : List WLEDOperation := [.powerOn, .powerOff, .brightnessSet]

/-- The HyperHDR operations in the order they are offered. -/
def hyperhdrOperationRegistry : List HyperHDROperation :=
  [.videoGrabberEnable, .videoGrabberDisable, .ledOutputEnable, .ledOutputDisable]

/-- The composite operations in the order they are offered. -/
def ambientOperationRegistry : List AuroraOperation := [.ambientOn, .ambientOff]

/-! ## The adapter of WLED -/

/-- How an execution on a device ended. -/
inductive AdapterReason
  | verified | connectionFailure | timeout | httpRejection | redirectRejection
  | oversizedResponse | malformedJson | missingExpectedState | stateVerificationMismatch
  deriving DecidableEq

/-- The answer of a device adapter. -/
structure AdapterResult where
  verified : Bool
  reason : AdapterReason

/-! ## Calls -/

/-- The events of the audit log. -/
inductive AuditEvent
  | loginSucceeded | loginFailed | loginRateLimited | logoutSucceeded | protectedPageDenied
  | csrfRejected | sessionRejected | wledOperationSucceeded | wledOperationFailed
  | wledOperationDenied | wledOperationRateLimited | wledOperationBusy | wledConfirmationRejected
  | wledStateVerificationFailed | hyperhdrOperationSucceeded | hyperhdrOperationFailed
  | hyperhdrOperationDenied | hyperhdrOperationRateLimited | hyperhdrOperationBusy
  | hyperhdrConfirmationRejected | hyperhdrStateVerificationFailed | auroraOperationSucceeded
  | auroraOperationPartiallyCompleted | auroraOperationDenied | auroraOperationRateLimited
  | auroraOperationBusy | auroraOperationFailed | auroraOperationUnverified
  | authenticationRequestRejected
  deriving DecidableEq

/-- What is raised: an `Exception`, or another exception such as an interrupt. -/
inductive Thrown
  | exception
  | interrupt
  deriving DecidableEq

/-- The two devices a mutation reaches. -/
inductive Device
  | wled
  | hyperhdr
  deriving DecidableEq

/-- The limiter of each service. -/
inductive ControlLimiter
  | login
  | device (device : Device)
  | ambient
  deriving DecidableEq

/-- The calls of the control services. -/
inductive ControlCall
  | beginAttempt (limiter : ControlLimiter) (clientIdentifier : String)
  | clearAttempts (clientIdentifier : String)
  | createSession (username : String)
  | resolveSession (token : String)
  | invalidateSession (token : String)
  | acquireGate
  | releaseGate
  | acquireLock (device : Device)
  | releaseLock (device : Device)
  | startWled (operation : WLEDOperation) (input : OperationInput)
  | finishWled (operation : WLEDOperation) (input : OperationInput)
  | startHyperhdr (operation : HyperHDROperation)
  | finishHyperhdr (operation : HyperHDROperation)
  | emit (event : AuditEvent) (reason : AuditReason)
  | emitOperation (event : AuditEvent) (reason : AuditReason) (operation : ControlOperation)
  | invalidateCache (device : Device)

/-- A session is looked up at a reading of the clock. -/
def ControlCall.Answer : ControlCall → Type
  | beginAttempt _ _ => Except Thrown Bool
  | clearAttempts _ => Unit
  | createSession _ => Except Thrown CreatedSession
  | resolveSession _ => ℚ × SessionLookup
  | invalidateSession _ => Bool
  | acquireGate => Bool
  | releaseGate => Unit
  | acquireLock _ => Bool
  | releaseLock _ => Unit
  | startWled _ _ => Unit
  | finishWled _ _ => Except Thrown AdapterResult
  | startHyperhdr _ => Unit
  | finishHyperhdr _ => Except Thrown HyperHDRAdapterResult
  | emit _ _ => Except Thrown Unit
  | emitOperation _ _ _ => Except Thrown Unit
  | invalidateCache _ => Except Thrown Unit

/-- The interface the control services are written over. -/
abbrev ControlInterface : Interface := ⟨ControlCall, ControlCall.Answer⟩

/-- A program of the control services. -/
abbrev ControlProgram := Program ControlInterface Thrown

/-- Reserve an attempt at a limiter. -/
def beginAttempt (limiter : ControlLimiter) (clientIdentifier : String) : ControlProgram Bool :=
  invoke (I := ControlInterface) (.beginAttempt limiter clientIdentifier) id

/-- Take the gate of all mutations, if it is free or held by this thread. -/
def acquireGate : ControlProgram Bool := ask (I := ControlInterface) .acquireGate

/-- Give the gate back once. -/
def releaseGate : ControlProgram Unit := ask (I := ControlInterface) .releaseGate

/-- Take the lock of a device, if it is free. -/
def acquireLock (device : Device) : ControlProgram Bool :=
  ask (I := ControlInterface) (.acquireLock device)

/-- Give the lock of a device back. -/
def releaseLock (device : Device) : ControlProgram Unit :=
  ask (I := ControlInterface) (.releaseLock device)

/-- Write an audit event. -/
def emit (event : AuditEvent) (reason : AuditReason) : ControlProgram Unit :=
  invoke (I := ControlInterface) (.emit event reason) id

/-- Write an audit event about an operation. -/
def emitOperation (event : AuditEvent) (reason : AuditReason) (operation : ControlOperation) :
    ControlProgram Unit :=
  invoke (I := ControlInterface) (.emitOperation event reason operation) id

/-- Drop the health cache after a mutation of the device. -/
def invalidateCache (device : Device) : ControlProgram Unit :=
  invoke (I := ControlInterface) (.invalidateCache device) id

/-- `execute` of the WLED adapter. -/
def executeWled (operation : WLEDOperation) (input : OperationInput) :
    ControlProgram AdapterResult := do
  let _ ← ask (I := ControlInterface) (.startWled operation input)
  invoke (I := ControlInterface) (.finishWled operation input) id

/-- `execute` of the HyperHDR adapter. -/
def executeHyperhdr (operation : HyperHDROperation) : ControlProgram HyperHDRAdapterResult := do
  let _ ← ask (I := ControlInterface) (.startHyperhdr operation)
  invoke (I := ControlInterface) (.finishHyperhdr operation) id

/-- `except Exception`: another exception goes on. -/
def exceptException {α : Type} (body : ControlProgram α) (handled : α) : ControlProgram α := do
  match ← (body.catching : ControlProgram (Except Thrown α)) with
  | .ok a => return a
  | .error .exception => return handled
  | .error .interrupt => raise .interrupt

/-! ## The gates of a device service -/

/-- How an operation on one device ended. -/
inductive ControlStatus
  | verified | denied | rateLimited | busy | failed | unverified
  deriving DecidableEq

/-- The answer of a device service. -/
structure ControlResult where
  status : ControlStatus
  reason : AuditReason
  deriving DecidableEq

namespace Device

/-- The event of an operation that was denied. -/
def deniedEvent : Device → AuditEvent
  | wled => .wledOperationDenied
  | hyperhdr => .hyperhdrOperationDenied

/-- The event of a confirmation that was not given. -/
def confirmationRejectedEvent : Device → AuditEvent
  | wled => .wledConfirmationRejected
  | hyperhdr => .hyperhdrConfirmationRejected

/-- The event of an operation above the limit. -/
def rateLimitedEvent : Device → AuditEvent
  | wled => .wledOperationRateLimited
  | hyperhdr => .hyperhdrOperationRateLimited

/-- The event of an operation that found the device busy. -/
def busyEvent : Device → AuditEvent
  | wled => .wledOperationBusy
  | hyperhdr => .hyperhdrOperationBusy

/-- The event of a verified operation. -/
def succeededEvent : Device → AuditEvent
  | wled => .wledOperationSucceeded
  | hyperhdr => .hyperhdrOperationSucceeded

/-- The event of an operation whose effect was not seen. -/
def verificationFailedEvent : Device → AuditEvent
  | wled => .wledStateVerificationFailed
  | hyperhdr => .hyperhdrStateVerificationFailed

/-- The event of an operation that failed. -/
def failedEvent : Device → AuditEvent
  | wled => .wledOperationFailed
  | hyperhdr => .hyperhdrOperationFailed

end Device

/-- `_authentication_failure`: the denial of a request without a session or without its token. -/
def authenticationFailure {α : Type} (authenticationEnabled : Bool)
    (session : Option SessionContext) (submittedCsrf : Option String)
    (deny : AuditReason → ControlProgram α) : ControlProgram (Option α) :=
  match authenticationEnabled, session with
  | true, some session =>
    match submittedCsrf with
    | none => do
      emit .csrfRejected .missingCsrf
      return some (← deny .missingCsrf)
    | some submittedCsrf =>
      if csrfIsValid session submittedCsrf then return none
      else do
        emit .csrfRejected .invalidCsrf
        return some (← deny .invalidCsrf)
  | _, _ => do
    return some (← deny .authenticationRequired)

/-- Why a confirmation is refused, where one is expected. -/
def confirmationFailure : Option String → Option String → Option AuditReason
  | none, _ => none
  | some _, none => some .missingConfirmation
  | some expected, some confirmation =>
    if confirmation ≠ expected then some .invalidConfirmation else none

/-- What a device service has decided of a request before it asks the limiter. -/
structure Gates where
  device : Device
  operation : ControlOperation
  authenticationEnabled : Bool
  /-- The controls of the device are available, maybe without an operation. -/
  available : Bool
  allowlisted : Bool
  expectedConfirmation : Option String
  withinMaximum : Bool
  hasAdapter : Bool

namespace Gates

/-- `_deny` -/
def deny (gates : Gates) (reason : AuditReason) : ControlProgram ControlResult := do
  emitOperation gates.device.deniedEvent reason gates.operation
  return ⟨.denied, reason⟩

/-- `_confirmation_denied` -/
def confirmationDenied (gates : Gates) (reason : AuditReason) : ControlProgram ControlResult := do
  emitOperation gates.device.confirmationRejectedEvent reason gates.operation
  return ⟨.denied, reason⟩

/-- Refuse an operation above the limit. -/
def rateLimited (gates : Gates) : ControlProgram ControlResult := do
  emitOperation gates.device.rateLimitedEvent .operationLimit gates.operation
  return ⟨.rateLimited, .operationLimit⟩

/-- Refuse an operation while another one is in progress. -/
def busy (gates : Gates) : ControlProgram ControlResult := do
  emitOperation gates.device.busyEvent .operationInProgress gates.operation
  return ⟨.busy, .operationInProgress⟩

/-- What the result of the execution is reported as. -/
def report (gates : Gates) (verified : Bool) (verificationFailed : Bool) (reason : AuditReason) :
    ControlProgram ControlResult :=
  if verified then do
    emitOperation gates.device.succeededEvent .verified gates.operation
    invalidateCache gates.device
    return ⟨.verified, .verified⟩
  else if verificationFailed then do
    emitOperation gates.device.verificationFailedEvent reason gates.operation
    return ⟨.unverified, reason⟩
  else do
    emitOperation gates.device.failedEvent reason gates.operation
    return ⟨.failed, reason⟩

variable {β : Type}

/-- Inside the operation lock: the adapter, if there is one. -/
def underLock (gates : Gates) (adapter : ControlProgram β) (failure : β) :
    ControlProgram (Except ControlResult β) := do
  if gates.hasAdapter then return .ok (← exceptException adapter failure)
  else return .error (← gates.deny .controlsDisabled)

/-- Inside the mutation gate. -/
def underGate (gates : Gates) (adapter : ControlProgram β) (failure : β) :
    ControlProgram (Except ControlResult β) := do
  if ← acquireLock gates.device then
    finallyDo (gates.underLock adapter failure) (releaseLock gates.device)
  else return .error (← gates.busy)

/-- From the limiter on. -/
def serialized (gates : Gates) (clientIdentifier : String) (adapter : ControlProgram β)
    (failure : β) (reported : β → ControlProgram ControlResult) : ControlProgram ControlResult := do
  if ← beginAttempt (.device gates.device) clientIdentifier then
    if ← acquireGate then
      match ← finallyDo (gates.underGate adapter failure) releaseGate with
      | .error result => return result
      | .ok adapterResult => reported adapterResult
    else gates.busy
  else gates.rateLimited

/-- `_execute`: every gate in order, and then one execution. -/
def execute (gates : Gates) (session : Option SessionContext) (submittedCsrf : Option String)
    (confirmation : Option String) (clientIdentifier : String) (adapter : ControlProgram β)
    (failure : β) (reported : β → ControlProgram ControlResult) : ControlProgram ControlResult := do
  match ← authenticationFailure gates.authenticationEnabled session submittedCsrf gates.deny with
  | some failure => return failure
  | none =>
    if !gates.available then gates.deny .controlsDisabled
    else if !gates.allowlisted then gates.deny .operationNotAllowlisted
    else
      match confirmationFailure gates.expectedConfirmation confirmation with
      | some reason => gates.confirmationDenied reason
      | none =>
        if !gates.withinMaximum then gates.deny .invalidBrightness
        else gates.serialized clientIdentifier adapter failure reported

end Gates

/-! ## WLED -/

/-- Whether the lights can be controlled, or why not. -/
inductive WLEDControlAvailability
  | authenticationUnavailable | wledUnavailable | controlsDisabled | noOperations | available
  deriving DecidableEq

/-- The settings the service reads, and whether it has an adapter. -/
structure WLEDControlService where
  authenticationEnabled : Bool
  enabled : Bool
  host : Option String
  controlsEnabled : Bool
  allowedOperations : List WLEDOperation
  maximumBrightness : Int
  hasAdapter : Bool

namespace WLEDControlService

/-- `available_operations` -/
def availableOperations (service : WLEDControlService) : List WLEDOperation :=
  if !service.authenticationEnabled || !service.enabled || service.host.isNone ||
      !service.controlsEnabled then []
  else operationRegistry.filter (· ∈ service.allowedOperations)

/-- `availability` -/
def availability (service : WLEDControlService) : WLEDControlAvailability :=
  if !service.authenticationEnabled then .authenticationUnavailable
  else if !service.enabled || service.host.isNone then .wledUnavailable
  else if !service.controlsEnabled then .controlsDisabled
  else if service.availableOperations = [] then .noOperations
  else .available

/-- `_ADAPTER_AUDIT_REASONS`, with the reason of what it does not hold. -/
def adapterAuditReason : AdapterReason → AuditReason
  | .connectionFailure => .connectionFailure
  | .timeout => .timeout
  | .httpRejection => .httpRejection
  | .redirectRejection => .redirectRejection
  | .oversizedResponse => .oversizedResponse
  | .malformedJson => .malformedJson
  | .missingExpectedState => .missingExpectedState
  | .stateVerificationMismatch => .stateVerificationMismatch
  | .verified => .connectionFailure

/-- `_VERIFICATION_FAILURES` -/
def verificationFailures : List AdapterReason :=
  [.malformedJson, .missingExpectedState, .stateVerificationMismatch]

/-- The brightness asked for is above the configured maximum. -/
def exceedsMaximum (service : WLEDControlService) : OperationInput → Bool
  | .noOperationInput => false
  | .brightnessInput input => input.brightness > service.maximumBrightness

/-- What the common checks need to know of an operation on the lights. -/
def gates (service : WLEDControlService) (operation : WLEDOperation) (input : OperationInput) :
    Gates where
  device := .wled
  operation := .wled operation
  authenticationEnabled := service.authenticationEnabled
  available := service.availability ∉
    [.authenticationUnavailable, .wledUnavailable, .controlsDisabled]
  allowlisted := operation ∈ service.availableOperations
  expectedConfirmation := if operation = .powerOff then some powerOffConfirmationValue else none
  withinMaximum := !service.exceedsMaximum input
  hasAdapter := service.hasAdapter

/-- `_execute` -/
def execute (service : WLEDControlService) (operation : WLEDOperation) (input : OperationInput)
    (session : Option SessionContext) (submittedCsrf : Option String) (clientIdentifier : String)
    (confirmation : Option String) : ControlProgram ControlResult :=
  let gates := service.gates operation input
  gates.execute session submittedCsrf confirmation clientIdentifier (executeWled operation input)
    ⟨false, .connectionFailure⟩ fun adapterResult =>
      gates.report adapterResult.verified (adapterResult.reason ∈ verificationFailures)
        (adapterAuditReason adapterResult.reason)

/-- `power_on` -/
def powerOn (service : WLEDControlService) (session : Option SessionContext)
    (submittedCsrf : Option String) (clientIdentifier : String) : ControlProgram ControlResult :=
  service.execute .powerOn .noOperationInput session submittedCsrf clientIdentifier none

/-- `power_off` -/
def powerOff (service : WLEDControlService) (session : Option SessionContext)
    (submittedCsrf confirmation : Option String) (clientIdentifier : String) :
    ControlProgram ControlResult :=
  service.execute .powerOff .noOperationInput session submittedCsrf clientIdentifier confirmation

/-- `request_security_failure`: the denial before the brightness is looked at. -/
def requestSecurityFailure (service : WLEDControlService) (operation : WLEDOperation)
    (session : Option SessionContext) (submittedCsrf : Option String) :
    ControlProgram (Option ControlResult) :=
  authenticationFailure service.authenticationEnabled session submittedCsrf
    (service.gates operation .noOperationInput).deny

/-- `set_brightness` -/
def setBrightness (service : WLEDControlService) (session : Option SessionContext)
    (submittedCsrf : Option String) (brightness : Int) (clientIdentifier : String) :
    ControlProgram ControlResult := do
  match ← service.requestSecurityFailure .brightnessSet session submittedCsrf with
  | some failure => return failure
  | none =>
    match BrightnessInput.new? brightness with
    | none => (service.gates .brightnessSet .noOperationInput).deny .invalidBrightness
    | some input =>
      service.execute .brightnessSet (.brightnessInput input) session submittedCsrf
        clientIdentifier none

end WLEDControlService

/-! ## HyperHDR -/

/-- Whether HyperHDR can be controlled, or why not. -/
inductive HyperHDRControlAvailability
  | authenticationUnavailable | hyperhdrUnavailable | controlsDisabled | noOperations | available
  deriving DecidableEq

/-- `HyperHDRControlService`, with the settings its operations read. -/
structure HyperHDRControlService where
  authenticationEnabled : Bool
  enabled : Bool
  host : Option String
  port : Option Int
  controlsEnabled : Bool
  allowedOperations : List HyperHDROperation
  hasAdapter : Bool

namespace HyperHDRControlService

/-- `available_operations` -/
def availableOperations (service : HyperHDRControlService) : List HyperHDROperation :=
  if !service.authenticationEnabled || !service.enabled || service.host.isNone ||
      service.port.isNone || !service.controlsEnabled then []
  else hyperhdrOperationRegistry.filter (· ∈ service.allowedOperations)

/-- `availability` -/
def availability (service : HyperHDRControlService) : HyperHDRControlAvailability :=
  if !service.authenticationEnabled then .authenticationUnavailable
  else if !service.enabled || service.host.isNone || service.port.isNone then .hyperhdrUnavailable
  else if !service.controlsEnabled then .controlsDisabled
  else if service.availableOperations = [] then .noOperations
  else .available

/-- `_ADAPTER_AUDIT_REASONS`, with the reason of what it does not hold. -/
def adapterAuditReason : HyperHDRAdapterReason → AuditReason
  | .connectionFailure => .connectionFailure
  | .timeout => .timeout
  | .httpRejection => .httpRejection
  | .redirectRejection => .redirectRejection
  | .unauthorizedResponse => .unauthorizedResponse
  | .oversizedResponse => .oversizedResponse
  | .malformedJson => .malformedJson
  | .nonObjectJson => .malformedJson
  | .missingSuccess => .missingSuccess
  | .successWrongType => .invalidSuccess
  | .successFalse => .invalidSuccess
  | .mismatchedCommand => .commandMismatch
  | .verificationConnectionFailure => .connectionFailure
  | .verificationTimeout => .timeout
  | .verificationHttpRejection => .httpRejection
  | .verificationRedirectRejection => .redirectRejection
  | .verificationUnauthorizedResponse => .unauthorizedResponse
  | .verificationOversizedResponse => .oversizedResponse
  | .verificationMalformedResponse => .malformedJson
  | .missingComponentState => .missingComponentState
  | .ambiguousComponentState => .ambiguousComponentState
  | .stateVerificationMismatch => .stateVerificationMismatch
  | .verified => .connectionFailure

/-- The confirmation that an operation expects. -/
def expectedConfirmation : HyperHDROperation → Option String
  | .videoGrabberDisable => some videoGrabberDisableConfirmationValue
  | .ledOutputDisable => some ledOutputDisableConfirmationValue
  | _ => none

/-- What the common checks need to know of a HyperHDR operation. -/
def gates (service : HyperHDRControlService) (operation : HyperHDROperation) : Gates where
  device := .hyperhdr
  operation := .hyperhdr operation
  authenticationEnabled := service.authenticationEnabled
  available := service.availability ∉
    [.authenticationUnavailable, .hyperhdrUnavailable, .controlsDisabled]
  allowlisted := operation ∈ service.availableOperations
  expectedConfirmation := expectedConfirmation operation
  withinMaximum := true
  hasAdapter := service.hasAdapter

/-- `_execute` -/
def execute (service : HyperHDRControlService) (operation : HyperHDROperation)
    (session : Option SessionContext) (submittedCsrf : Option String) (clientIdentifier : String)
    (confirmation : Option String) : ControlProgram ControlResult :=
  let gates := service.gates operation
  gates.execute session submittedCsrf confirmation clientIdentifier (executeHyperhdr operation)
    ⟨false, false, .connectionFailure⟩ fun adapterResult =>
      gates.report adapterResult.verified adapterResult.acknowledged
        (adapterAuditReason adapterResult.reason)

/-- `video_grabber_enable` -/
def videoGrabberEnable (service : HyperHDRControlService) (session : Option SessionContext)
    (submittedCsrf : Option String) (clientIdentifier : String) : ControlProgram ControlResult :=
  service.execute .videoGrabberEnable session submittedCsrf clientIdentifier none

/-- `video_grabber_disable` -/
def videoGrabberDisable (service : HyperHDRControlService) (session : Option SessionContext)
    (submittedCsrf confirmation : Option String) (clientIdentifier : String) :
    ControlProgram ControlResult :=
  service.execute .videoGrabberDisable session submittedCsrf clientIdentifier confirmation

/-- `led_output_enable` -/
def ledOutputEnable (service : HyperHDRControlService) (session : Option SessionContext)
    (submittedCsrf : Option String) (clientIdentifier : String) : ControlProgram ControlResult :=
  service.execute .ledOutputEnable session submittedCsrf clientIdentifier none

/-- `led_output_disable` -/
def ledOutputDisable (service : HyperHDRControlService) (session : Option SessionContext)
    (submittedCsrf confirmation : Option String) (clientIdentifier : String) :
    ControlProgram ControlResult :=
  service.execute .ledOutputDisable session submittedCsrf clientIdentifier confirmation

end HyperHDRControlService

/-! ## The composite -/

/-- How a composite operation ended. -/
inductive AmbientControlStatus
  | completed | partiallyCompleted | unverified | failed | denied | busy | rateLimited
  deriving DecidableEq

/-- The steps of the composite operations. -/
inductive AmbientControlStep
  | videoGrabberEnable | wledPowerOn | ledOutputEnable
  | ledOutputDisable | videoGrabberDisable | wledPowerOff
  deriving DecidableEq

/-- The answer of a composite operation. -/
structure AmbientControlResult where
  status : AmbientControlStatus
  attemptedSteps : List AmbientControlStep
  verifiedSteps : List AmbientControlStep
  deriving DecidableEq

/-- `_PARENT_AUDIT_EVENTS` -/
def parentAuditEvent : AmbientControlStatus → AuditEvent
  | .completed => .auroraOperationSucceeded
  | .partiallyCompleted => .auroraOperationPartiallyCompleted
  | .unverified => .auroraOperationUnverified
  | .failed => .auroraOperationFailed
  | .denied => .auroraOperationDenied
  | .busy => .auroraOperationBusy
  | .rateLimited => .auroraOperationRateLimited

/-- `AmbientControlService`, with the two services it composes. -/
structure AmbientControlService where
  enabled : Bool
  allowedOperations : List AuroraOperation
  authenticationEnabled : Bool
  wled : WLEDControlService
  hyperhdr : HyperHDRControlService

namespace AmbientControlService

/-- Whether the children of an operation are all available. -/
def childrenAvailable (service : AmbientControlService) : AuroraOperation → Bool
  | .ambientOn => .videoGrabberEnable ∈ service.hyperhdr.availableOperations &&
      .powerOn ∈ service.wled.availableOperations &&
      .ledOutputEnable ∈ service.hyperhdr.availableOperations
  | .ambientOff => .ledOutputDisable ∈ service.hyperhdr.availableOperations &&
      .videoGrabberDisable ∈ service.hyperhdr.availableOperations &&
      .powerOff ∈ service.wled.availableOperations

/-- `available_operations` -/
def availableOperations (service : AmbientControlService) : List AuroraOperation :=
  if !service.authenticationEnabled || !service.enabled then []
  else ambientOperationRegistry.filter fun operation =>
    operation ∈ service.allowedOperations && service.childrenAvailable operation

/-- `_finish` -/
def finish (operation : AuroraOperation) (status : AmbientControlStatus) (reason : AuditReason)
    (attempted verified : List AmbientControlStep) : ControlProgram AmbientControlResult := do
  emitOperation (parentAuditEvent status) reason (.aurora operation)
  return ⟨status, attempted, verified⟩

/-- `_safe_child_call` -/
def safeChildCall (call : ControlProgram ControlResult) : ControlProgram (Option ControlResult) :=
  exceptException (some <$> call) none

/-- `_child_verified` -/
def childVerified (result : Option ControlResult) : Bool :=
  result.any (·.status = .verified)

/-- `_aggregate_child_status`: a verified result has no entry in the table. -/
def aggregateChildStatus (result : Option ControlResult) (anyVerified : Bool) :
    Except Thrown AmbientControlStatus :=
  if anyVerified then .ok .partiallyCompleted
  else
    match result with
    | none => .ok .failed
    | some result =>
      match result.status with
      | .denied => .ok .denied
      | .rateLimited => .ok .rateLimited
      | .busy => .ok .busy
      | .failed => .ok .failed
      | .unverified => .ok .unverified
      | .verified => .error .exception

/-- `_aggregate_reason` -/
def aggregateReason (result : Option ControlResult) (status : AmbientControlStatus) : AuditReason :=
  if status = .partiallyCompleted then .partialCompletion
  else
    match result with
    | none => .connectionFailure
    | some result => result.reason

/-- The call of a child, with the confirmation of the child where it expects one. -/
def childCall (service : AmbientControlService) (session : SessionContext) (submittedCsrf : String)
    (clientIdentifier : String) : AmbientControlStep → ControlProgram ControlResult
  | .videoGrabberEnable =>
    service.hyperhdr.videoGrabberEnable session submittedCsrf clientIdentifier
  | .wledPowerOn => service.wled.powerOn session submittedCsrf clientIdentifier
  | .ledOutputEnable => service.hyperhdr.ledOutputEnable session submittedCsrf clientIdentifier
  | .ledOutputDisable =>
    service.hyperhdr.ledOutputDisable session submittedCsrf ledOutputDisableConfirmationValue
      clientIdentifier
  | .videoGrabberDisable =>
    service.hyperhdr.videoGrabberDisable session submittedCsrf
      videoGrabberDisableConfirmationValue clientIdentifier
  | .wledPowerOff =>
    service.wled.powerOff session submittedCsrf powerOffConfirmationValue clientIdentifier

/-- The loop of `_run_ambient_on`: the steps that are left. -/
def runSteps (operation : AuroraOperation) (call : AmbientControlStep → ControlProgram ControlResult)
    (attempted verified : List AmbientControlStep) :
    List AmbientControlStep → ControlProgram AmbientControlResult
  | [] => finish operation .completed .verified attempted verified
  | step :: steps => do
    let attempted := attempted ++ [step]
    let result ← safeChildCall (call step)
    if childVerified result then runSteps operation call attempted (verified ++ [step]) steps
    else do
      let status ← ofExcept (aggregateChildStatus result !verified.isEmpty)
      finish operation status (aggregateReason result status) attempted verified

/-- `_run_ambient_on` -/
def runAmbientOn (operation : AuroraOperation)
    (call : AmbientControlStep → ControlProgram ControlResult) :
    ControlProgram AmbientControlResult :=
  runSteps operation call [] [] [.videoGrabberEnable, .wledPowerOn, .ledOutputEnable]

/-- `_run_ambient_off`: after the isolation both other steps are tried. -/
def runAmbientOff (operation : AuroraOperation)
    (call : AmbientControlStep → ControlProgram ControlResult) :
    ControlProgram AmbientControlResult := do
  let ledResult ← safeChildCall (call .ledOutputDisable)
  if !childVerified ledResult then do
    let status ← ofExcept (aggregateChildStatus ledResult false)
    finish operation status (aggregateReason ledResult status) [.ledOutputDisable] []
  else do
    let grabberResult ← safeChildCall (call .videoGrabberDisable)
    let wledResult ← safeChildCall (call .wledPowerOff)
    let incomplete := !childVerified grabberResult || !childVerified wledResult
    let verified := [.ledOutputDisable] ++
      (if childVerified grabberResult then [.videoGrabberDisable] else []) ++
      (if childVerified wledResult then [.wledPowerOff] else [])
    finish operation (if incomplete then .partiallyCompleted else .completed)
      (if incomplete then .partialCompletion else .verified)
      [.ledOutputDisable, .videoGrabberDisable, .wledPowerOff] verified

/-- The body of `_execute` under the mutation gate. -/
def run (operation : AuroraOperation) (call : AmbientControlStep → ControlProgram ControlResult) :
    ControlProgram AmbientControlResult :=
  if operation = .ambientOn then runAmbientOn operation call else runAmbientOff operation call

/-- From the limiter on. -/
def serialized (operation : AuroraOperation)
    (call : AmbientControlStep → ControlProgram ControlResult) (clientIdentifier : String) :
    ControlProgram AmbientControlResult := do
  if ← beginAttempt .ambient clientIdentifier then
    if ← acquireGate then finallyDo (run operation call) releaseGate
    else finish operation .busy .operationInProgress [] []
  else finish operation .rateLimited .operationLimit [] []

/-- What the confirmation of an operation must be. -/
def expectedConfirmation : AuroraOperation → Option String
  | .ambientOff => some auroraAmbientOffConfirmationValue
  | .ambientOn => none

/-- `_execute` -/
def execute (service : AmbientControlService) (operation : AuroraOperation)
    (session : Option SessionContext) (submittedCsrf : Option String) (clientIdentifier : String)
    (confirmation : Option String) : ControlProgram AmbientControlResult := do
  let deny := fun reason => finish operation .denied reason [] []
  match ← authenticationFailure service.authenticationEnabled session submittedCsrf deny with
  | some failure => return failure
  | none =>
    match session, submittedCsrf with
    | some session, some submittedCsrf =>
      if !service.enabled then deny .controlsDisabled
      else if operation ∉ service.allowedOperations then deny .operationNotAllowlisted
      else if operation ∉ service.availableOperations then deny .controlsDisabled
      else
        match confirmationFailure (expectedConfirmation operation) confirmation with
        | some reason => deny reason
        | none =>
          serialized operation (service.childCall session submittedCsrf clientIdentifier)
            clientIdentifier
    -- the assertions: without a failure there are a session and its token
    | _, _ => raise .exception

/-- `ambient_on` -/
def ambientOn (service : AmbientControlService) (session : Option SessionContext)
    (submittedCsrf : Option String) (clientIdentifier : String) :
    ControlProgram AmbientControlResult :=
  service.execute .ambientOn session submittedCsrf clientIdentifier none

/-- `ambient_off` -/
def ambientOff (service : AmbientControlService) (session : Option SessionContext)
    (submittedCsrf confirmation : Option String) (clientIdentifier : String) :
    ControlProgram AmbientControlResult :=
  service.execute .ambientOff session submittedCsrf clientIdentifier confirmation

end AmbientControlService

end Aurora.ControlPlane
