/-
  The read-only validation of HyperHDR: the parser of its server information and the report that
  validation gives.

  The components of a device are listed under names that are compared in capitals.  A name listed
  with two different states, or with one that is no Boolean, is ambiguous and has no state.
-/
import Mathlib.Data.Finset.Basic
import Aurora.Lib.Dict
import Aurora.Hardware.WledResponses

namespace Aurora.Hardware

open HealthHistory

/-! ## Settings and errors -/

/-- The settings of HyperHDR. -/
structure HyperHDRSettings where
  enabled : Bool
  host : Option String
  port : Option Int
  validationTimeoutSeconds : ℚ

/-- The subclasses of `HyperHDRTransportError`, and itself. -/
inductive HyperHDRTransportError
  | transport
  | timeout
  | redirect
  | authorization
  | http
  | responseTooLarge
  deriving DecidableEq

/-- The reason code of a transport error. -/
def HyperHDRTransportError.reasonCode : HyperHDRTransportError → String
  | transport => "connection_failed"
  | timeout => "timeout"
  | redirect => "redirect_rejected"
  | authorization => "authorization_required"
  | http => "http_error"
  | responseTooLarge => "response_too_large"

/-! ## The server information -/

/-- What a response says. -/
structure HyperHDRServerInfo where
  serverInfoReceived : Bool
  hdrModeEnabled : Option Bool
  instanceRunning : Option Bool
  grabberActive : Option Bool
  ledOutputActive : Option Bool
  componentStateNames : Finset PyText
  ambiguousComponentStates : Finset PyText

/-- What the loop over the components has collected. -/
structure ComponentStates where
  states : Dict PyText Bool
  names : Finset PyText
  ambiguous : Finset PyText

/-- No component was seen yet. -/
def ComponentStates.empty : ComponentStates := ⟨Dict.empty, ∅, ∅⟩

/-- The name has no state, now or later. -/
def ComponentStates.markAmbiguous (c : ComponentStates) (name : PyText) : ComponentStates :=
  { c with ambiguous := insert name c.ambiguous, states := c.states.erase name }

/-- One element of the list of components.  `upper` is `str.upper`. -/
def ComponentStates.add (upper : PyText → PyText) (c : ComponentStates) :
    JsonDocument → ComponentStates
  | .object component =>
    match JsonDocument.get component "name" with
    | .text name =>
      let c : ComponentStates := { c with names := insert (upper name) c.names }
      match JsonDocument.get component "enabled" with
      | .bool enabled =>
        if (c.states.get? (upper name)).any (· ≠ enabled) then c.markAmbiguous (upper name)
        else if upper name ∉ c.ambiguous then
          { c with states := c.states.set (upper name) enabled }
        else c
      | _ => c.markAmbiguous (upper name)
    | _ => c
  | _ => c

/-- The states of all components, when they are a list. -/
def componentStates (upper : PyText → PyText) : JsonDocument → ComponentStates
  | .array components => components.foldl (ComponentStates.add upper) ComponentStates.empty
  | _ => ComponentStates.empty

/-- `videomodehdr` is a Boolean, or zero or one. -/
def hdrMode : JsonDocument → Option Bool
  | .bool b => some b
  | .int n => if n = 0 then some false else if n = 1 then some true else none
  | _ => none

/-- The Boolean `running` of an instance. -/
def runningValue : JsonDocument → Option Bool
  | .object fields => (JsonDocument.get fields "running").bool?
  | _ => none

/-- Some instance runs; unknown when no instance says so. -/
def instanceRunning (instances : JsonDocument) : Option Bool :=
  match instances with
  | .array items =>
    let values := items.filterMap runningValue
    if values = [] then none else some (values.any id)
  | _ => none

/-- `info["instance"]` if it is a list, else `info["instances"]`. -/
def instancesOf (info : List (PyText × JsonDocument)) : JsonDocument :=
  match JsonDocument.get info "instance" with
  | .array items => .array items
  | _ => JsonDocument.get info "instances"

/-- The fields of a response. -/
def readHyperhdrServerInfo (upper : PyText → PyText) (payload : List (PyText × JsonDocument)) :
    Except ValueError HyperHDRServerInfo :=
  match (JsonDocument.get payload "success").bool? with
  | some false => .error "server_reported_failure"
  | none => .error "invalid_response"
  | some true =>
    let command := JsonDocument.get payload "command"
    match JsonDocument.get payload "info" with
    | .object info =>
      if !command.isNull && !command.isText "serverinfo" then .error "invalid_response"
      else
        let components := componentStates upper (JsonDocument.get info "components")
        let state := fun name => components.states.get? (PyText.of name)
        .ok {
          serverInfoReceived := true
          hdrModeEnabled := hdrMode (JsonDocument.get info "videomodehdr")
          instanceRunning := instanceRunning (instancesOf info)
          grabberActive := (state "VIDEOGRABBER").or (state "GRABBER")
          ledOutputActive := state "LEDDEVICE"
          componentStateNames := components.names
          ambiguousComponentStates := components.ambiguous }
    | _ => .error "invalid_response"

/-- `parse_hyperhdr_serverinfo` -/
def parseHyperhdrServerInfo (loads : Loads) (upper : PyText → PyText) (body : List UInt8) :
    Except ValueError HyperHDRServerInfo :=
  loadMapping loads body >>= readHyperhdrServerInfo upper

/-! ## Validation -/

/-- The report of HyperHDR. -/
structure HyperHDRValidationReport where
  componentId : ComponentId
  state : ComponentHealthState
  reasonCode : String
  message : String
  serverInfoReceived : Bool := false
  hdrModeEnabled : Option Bool := none
  instanceRunning : Option Bool := none
  grabberActive : Option Bool := none
  ledOutputActive : Option Bool := none

/-- `validate_hyperhdr` -/
def validateHyperhdr (loads : Loads) (upper : PyText → PyText) (settings : HyperHDRSettings)
    (fetchServerInfo : Fetch HyperHDRTransportError) (timeoutSeconds : Option ℚ) :
    HyperHDRValidationReport :=
  if settings.enabled then
    match parseFetched (fetchServerInfo (hostOrEmpty settings.host) (portOr 8090 settings.port)
        (timeoutSeconds.getD settings.validationTimeoutSeconds))
        (parseHyperhdrServerInfo loads upper) with
    | .error (.transport e) =>
      { componentId := .hyperhdr
        state := .unhealthy
        reasonCode := e.reasonCode
        message := "Read-only HyperHDR validation failed." }
    | .error (.valueError reason) =>
      { componentId := .hyperhdr
        state := .unhealthy
        reasonCode := reason
        message := "HyperHDR returned an invalid server information response." }
    | .ok info =>
      { componentId := .hyperhdr
        state := .healthy
        reasonCode := "validated"
        message := "Read-only HyperHDR validation succeeded."
        serverInfoReceived := info.serverInfoReceived
        hdrModeEnabled := info.hdrModeEnabled
        instanceRunning := info.instanceRunning
        grabberActive := info.grabberActive
        ledOutputActive := info.ledOutputActive }
  else
    { componentId := .hyperhdr
      state := .disabled
      reasonCode := "hyperhdr_disabled"
      message := "HyperHDR is disabled." }

/-! ## Reasons -/

/-- The codes that the normalizer knows for HyperHDR. -/
def hyperhdrReasonCodes : List String :=
  "hyperhdr_disabled" :: "validated" :: Reasons.hyperhdrFailures

theorem HyperHDRTransportError.reasonCode_mem (e : HyperHDRTransportError) :
    e.reasonCode ∈ Reasons.hyperhdrFailures := by
  cases e <;> decide

/-- A document is refused with one of two reasons. -/
theorem readHyperhdrServerInfo_error {upper : PyText → PyText}
    {payload : List (PyText × JsonDocument)} {reason : String}
    (h : readHyperhdrServerInfo upper payload = .error reason) :
    reason = "server_reported_failure" ∨ reason = "invalid_response" := by
  unfold readHyperhdrServerInfo at h
  split at h
  · exact .inl (Except.error.inj h).symm
  · exact .inr (Except.error.inj h).symm
  · dsimp only at h
    split at h
    · split at h
      · exact .inr (Except.error.inj h).symm
      · cases h
    · exact .inr (Except.error.inj h).symm

theorem readHyperhdrServerInfo_closed (upper : PyText → PyText) :
    Closed Reasons.hyperhdrFailures (readHyperhdrServerInfo upper) where
  json := by decide
  response := by decide
  read payload reason h := by
    rcases readHyperhdrServerInfo_error h with rfl | rfl <;> decide
  plain := by decide

variable {loads : Loads} {upper : PyText → PyText} {settings : HyperHDRSettings}
  {fetch : Fetch HyperHDRTransportError} {timeoutSeconds : Option ℚ}

/-- The reason of a validation is a known code unless the fetch leaves an unknown one. -/
theorem validateHyperhdr_iff :
    (validateHyperhdr loads upper settings fetch timeoutSeconds).reasonCode ∈
        hyperhdrReasonCodes ↔
      ¬(settings.enabled = true ∧
        Unexplained loads hyperhdrReasonCodes (fetch (hostOrEmpty settings.host)
          (portOr 8090 settings.port) (timeoutSeconds.getD settings.validationTimeoutSeconds))) := by
  unfold validateHyperhdr
  split
  case isTrue henabled =>
    rw [and_iff_right henabled]
    split
    case h_1 e hparsed =>
      refine iff_of_true ?_ (not_unexplained_of_transport hparsed)
      exact List.mem_cons_of_mem _ (List.mem_cons_of_mem _ e.reasonCode_mem)
    case h_2 reason hparsed =>
      have hclosed : Closed hyperhdrReasonCodes (readHyperhdrServerInfo upper) :=
        (readHyperhdrServerInfo_closed upper).mono
          (List.subset_cons_of_subset _ (List.subset_cons_self _ _)) (by decide)
      exact hclosed.parseFetched_iff hparsed
    case h_3 info hparsed =>
      have hvalidated : "validated" ∈ hyperhdrReasonCodes := by decide
      exact iff_of_true hvalidated (not_unexplained_of_parsed hparsed)
  case isFalse hdisabled =>
    exact iff_of_true List.mem_cons_self fun h => hdisabled h.1

end Aurora.Hardware
