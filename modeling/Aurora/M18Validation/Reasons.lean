/-
  The reference normalizer of component reasons.

  It has its registry of accepted values, its detail keys and its reason sets to itself, and an order
  of checks and a way of looking a value up of its own.  A list or a mapping has no hash, so looking
  one up in a set of texts raises.
-/
import Aurora.HealthHistory.Reasons

namespace Aurora.M18Validation

open HealthHistory (DetailValue Details NormalizedReason ReasonResult RejectionCode)

/-! ## Accepted values -/

/-- The statuses a collector reports. -/
def statuses : List String := ["healthy", "degraded", "unavailable"]

/-- The failures that make a network device unavailable. -/
def networkUnavailable : List String := ["connection_failed", "timeout"]

/-- The failures of a WLED request. -/
def wledFailures : List String :=
  ["connection_failed", "timeout", "redirect_rejected", "http_error", "response_too_large",
    "invalid_json", "invalid_response"]

/-- What an info request may end with. -/
def wledInfoReasons : List String := wledFailures ++ ["validated", "led_count_mismatch"]

/-- What a state request may end with. -/
def wledStateReasons : List String := wledFailures ++ ["validated"]

/-- The failures of a HyperHDR request. -/
def hyperhdrFailures : List String :=
  ["connection_failed", "timeout", "redirect_rejected", "authorization_required", "http_error",
    "response_too_large", "invalid_json", "invalid_response", "server_reported_failure"]

/-- What a capture probe may end with. -/
def captureReasons : List String :=
  ["validated", "capture_device_disabled", "unsupported_platform", "device_not_found",
    "probe_failed", "symlink_resolution_failed", "invalid_device_target", "not_character_device",
    "v4l2_registration_missing", "metadata_unavailable", "invalid_device_name",
    "permission_denied"]

/-- The capture reasons of a device that is not there. -/
def captureUnavailable : List String :=
  ["capture_device_disabled", "device_not_found", "probe_failed", "symlink_resolution_failed",
    "unsupported_platform"]

/-- The keys of a WLED snapshot. -/
def wledDetailKeys : List String :=
  ["info_reason_code", "state_reason_code", "firmware_version", "uptime_seconds",
    "reported_led_count", "expected_led_count", "expected_active_led_count",
    "expected_skipped_leds", "led_count_matches", "estimated_current_milliamps",
    "current_limit_milliamps", "brightness", "output_on"]

/-- The keys of a HyperHDR snapshot. -/
def hyperhdrDetailKeys : List String :=
  ["reason_code", "server_info_received", "hdr_mode_enabled", "instance_running",
    "grabber_active", "led_output_active"]

/-- The keys of a capture snapshot, -/
def captureDetailKeys : List String :=
  ["reason_code", "device_node_present", "character_device", "v4l2_registered",
    "process_read_access", "device_name"]

/-- and those it has with an activity. -/
def captureActivityKeys : List String := ["activity_source", "grabber_active"]

/-- The keys of a Raspberry Pi snapshot. -/
def piDetailKeys : List String :=
  ["cpu_temperature_c", "cpu_temperature_warning_c", "load_average_1m", "load_average_5m",
    "load_average_15m", "logical_cpu_count", "memory_used_percent", "memory_warning_percent",
    "root_storage_used_percent", "storage_warning_percent", "host_uptime_seconds"]

/-- The reason of a WLED info failure. -/
def wledInfoMap (value : String) : Option NormalizedReason :=
  if value ∈ wledFailures ++ ["led_count_mismatch"] then
    NormalizedReason.ofValue? ("wled.info." ++ value)
  else none

/-- The reason of a WLED state failure. -/
def wledStateMap (value : String) : Option NormalizedReason :=
  if value ∈ wledFailures then NormalizedReason.ofValue? ("wled.state." ++ value) else none

/-- The reason of a HyperHDR failure. -/
def hyperhdrMap (value : String) : Option NormalizedReason :=
  if value ∈ hyperhdrFailures then NormalizedReason.ofValue? ("hyperhdr." ++ value) else none

/-- The reason of a capture failure. -/
def captureMap : List (String × NormalizedReason) :=
  [("unsupported_platform", .captureUnsupportedPlatform),
    ("device_not_found", .captureDeviceNotFound),
    ("probe_failed", .captureProbeFailed),
    ("symlink_resolution_failed", .captureSymlinkResolutionFailed),
    ("invalid_device_target", .captureInvalidDeviceTarget),
    ("not_character_device", .captureNotCharacterDevice),
    ("v4l2_registration_missing", .captureV4l2RegistrationMissing),
    ("metadata_unavailable", .captureMetadataUnavailable),
    ("invalid_device_name", .captureInvalidDeviceName),
    ("permission_denied", .capturePermissionDenied)]

/-! ## One component at a time -/

/-- The dictionary is `{"reason_code": text}`. -/
def isReasonCode (details : Details) (text : String) : Bool :=
  details.hasKeys ["reason_code"] && (details.get "reason_code").isText text

/-- The text a value is, when it is in a set of texts. -/
def textIn (texts : List String) : DetailValue → Except String (Option String)
  | .str s => .ok (if s ∈ texts then some s else none)
  | .collection => .error "unhashable type"
  | _ => .ok none

/-- `_accepted` -/
def accepted (reason : NormalizedReason) : Except String ReasonResult := .ok (.accepted [reason])

/-- `_rejected` -/
def rejected (code : RejectionCode) : Except String ReasonResult := .ok (.rejected code)

/-- A lookup in a dictionary of reasons. -/
def acceptedFrom : Option NormalizedReason → Except String ReasonResult
  | some reason => accepted reason
  | none => .error "KeyError"

/-- `_fixed_short_reason` -/
def fixedShortReason (status : String) (details : Details) (disabledValue : String) :
    Option (Except String ReasonResult) :=
  if isReasonCode details "collector_failed" then
    some (if status ≠ "unavailable" then rejected .inconsistentSnapshot
      else accepted .wledCollectorFailed)
  else if isReasonCode details disabledValue then
    some (if status ≠ "unavailable" then rejected .inconsistentSnapshot
      else accepted .wledDisabled)
  else none

/-- `_wled_status` -/
def wledStatus (info state : String) : String :=
  let infoStatus :=
    if info = "validated" then "healthy"
    else if info = "led_count_mismatch" ∨ info ∉ networkUnavailable then "degraded"
    else "unavailable"
  let stateStatus :=
    if state = "validated" then "healthy"
    else if state ∈ networkUnavailable then "unavailable"
    else "degraded"
  if infoStatus = stateStatus ∧ stateStatus = "healthy" then "healthy"
  else if infoStatus = stateStatus ∧ stateStatus = "unavailable" then "unavailable"
  else "degraded"

/-- `_normalize_wled` -/
def normalizeWled (status : String) (details : Details) : Except String ReasonResult :=
  match fixedShortReason status details "wled_disabled" with
  | some fixed => fixed
  | none =>
    if !details.hasKeys wledDetailKeys then rejected .unknownDetails
    else do
      match ← textIn wledInfoReasons (details.get "info_reason_code") with
      | none => rejected .unknownValue
      | some info =>
        match ← textIn wledStateReasons (details.get "state_reason_code") with
        | none => rejected .unknownValue
        | some state =>
          if status ≠ wledStatus info state then rejected .inconsistentSnapshot
          else if info = state ∧ state = "validated" then accepted .wledHealthy
          else .ok (.accepted ([wledInfoMap info, wledStateMap state].filterMap id))

/-- The four details that are a truth value or nothing. -/
def hyperhdrFlagKeys : List String :=
  ["hdr_mode_enabled", "instance_running", "grabber_active", "led_output_active"]

/-- The states whose `false` is a reason of its own. -/
def hyperhdrStates : List (String × NormalizedReason) :=
  [("instance_running", .hyperhdrInstanceInactive),
    ("grabber_active", .hyperhdrVideoGrabberInactive),
    ("led_output_active", .hyperhdrLedOutputInactive)]

/-- `_normalize_hyperhdr` -/
def normalizeHyperhdr (status : String) (details : Details) : Except String ReasonResult :=
  if isReasonCode details "collector_failed" then
    if status ≠ "unavailable" then rejected .inconsistentSnapshot
    else accepted .hyperhdrCollectorFailed
  else if !details.hasKeys hyperhdrDetailKeys then rejected .unknownDetails
  else
    match details.get "reason_code" with
    | .str reason =>
      if !(details.get "server_info_received").isFlag ||
          hyperhdrFlagKeys.any fun k => !(details.get k).isNone && !(details.get k).isFlag then
        rejected .unknownValue
      else if ¬(reason = "hyperhdr_disabled" ∨ reason = "validated" ∨ reason ∈ hyperhdrFailures)
      then rejected .unknownValue
      else
        let emptyObservation := (details.get "server_info_received").isBool false &&
          (details.get "hdr_mode_enabled").isNone && (details.get "instance_running").isNone &&
          (details.get "grabber_active").isNone && (details.get "led_output_active").isNone
        if reason = "hyperhdr_disabled" then
          if status ≠ "unavailable" || !emptyObservation then rejected .inconsistentSnapshot
          else accepted .hyperhdrDisabled
        else if reason ∈ hyperhdrFailures then
          let expected := if reason ∈ networkUnavailable then "unavailable" else "degraded"
          if status ≠ expected || !emptyObservation then rejected .inconsistentSnapshot
          else acceptedFrom (hyperhdrMap reason)
        else if !(details.get "server_info_received").isBool true ||
            hyperhdrStates.any fun s => !(details.get s.1).isFlag then
          rejected .inconsistentSnapshot
        else
          let reasons := (hyperhdrStates.filter fun s => (details.get s.1).isBool false).map
            Prod.snd
          let expected := if reasons = [] then "healthy" else "degraded"
          if status ≠ expected then rejected .inconsistentSnapshot
          else .ok (.accepted (if reasons = [] then [.hyperhdrHealthy] else reasons))
    | _ => rejected .unknownValue

/-- The reason of a capture device on its own. -/
def captureReason (reason : String) : Option NormalizedReason :=
  if reason = "capture_device_disabled" then some .captureDisabled
  else if reason = "validated" then some .captureHealthy
  else captureMap.lookup reason

/-- The activity of a capture snapshot, `true` when it has none. -/
def captureActivity (details : Details) : Except RejectionCode DetailValue :=
  if details.hasKeys captureDetailKeys then .ok (.bool true)
  else if details.hasKeys (captureDetailKeys ++ captureActivityKeys) then
    if !(details.get "activity_source").isText "HyperHDR serverinfo" then .error .unknownValue
    else
      let activity := details.get "grabber_active"
      if !activity.isNone && !activity.isFlag then .error .unknownValue
      else .ok activity
  else .error .unknownDetails

/-- `_normalize_capture` -/
def normalizeCapture (status : String) (details : Details) : Except String ReasonResult :=
  if isReasonCode details "collector_failed" then
    if status ≠ "unavailable" then rejected .inconsistentSnapshot
    else accepted .captureCollectorFailed
  else
    match captureActivity details with
    | .error code => rejected code
    | .ok activity => do
      match ← textIn captureReasons (details.get "reason_code") with
      | none => rejected .unknownValue
      | some reason =>
        let baseStatus :=
          if reason = "validated" then "healthy"
          else if reason ∈ captureUnavailable then "unavailable"
          else "degraded"
        let expected :=
          if baseStatus ≠ "unavailable" ∧ activity.isBool true = false then "degraded"
          else baseStatus
        if status ≠ expected then rejected .inconsistentSnapshot
        else
          match captureReason reason with
          | none => .error "KeyError"
          | some normalized =>
            .ok (.accepted (
              if baseStatus ≠ "unavailable" ∧ activity.isBool false then
                [normalized, .captureGrabberInactive]
              else if baseStatus ≠ "unavailable" ∧ activity.isNone then
                [normalized, .captureActivityUnreported]
              else [normalized]))

/-- `_normalize_pi` -/
def normalizePi (status : String) (details : Details) : Except String ReasonResult :=
  if isReasonCode details "collector_failed" then
    if status ≠ "unavailable" then rejected .inconsistentSnapshot
    else accepted .raspberryPiCollectorFailed
  else if !details.hasKeys piDetailKeys then rejected .unknownDetails
  else if details.any fun item => !item.2.isNone && !item.2.isNumber then rejected .unknownValue
  else acceptedFrom ([("healthy", .raspberryPiHealthy), ("degraded", .raspberryPiDegraded),
    ("unavailable", .raspberryPiUnavailable)].lookup status)

/-- `normalize_component_reason` -/
def normalizeComponentReason (schemaVersion : Int) (component status : String)
    (details : Details) : Except String ReasonResult :=
  if schemaVersion ≠ 1 then rejected .unknownSchema
  else if component ∉ ["wled", "hyperhdr", "capture", "raspberry_pi"] then
    rejected .unknownComponent
  else if status ∉ statuses then rejected .unknownStatus
  else if component = "wled" then normalizeWled status details
  else if component = "hyperhdr" then normalizeHyperhdr status details
  else if component = "capture" then normalizeCapture status details
  else normalizePi status details

end Aurora.M18Validation
