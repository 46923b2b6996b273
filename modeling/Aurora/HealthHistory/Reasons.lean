/-
  The finite registry of normalized reasons, and the normalizer that maps the details of one
  collected component to reasons of the registry.

  The normalizer is closed: it accepts exactly the detail shapes listed here, with the status the
  shape implies, and rejects everything else.  What an accepted result satisfies is one theorem,
  `normalizeComponentReason_accepted`.
-/
import Aurora.Lib.Binary64
import Aurora.HealthHistory.Models

namespace Aurora.HealthHistory

/-! ## The registry -/

/-- The reasons a component may carry. -/
inductive NormalizedReason
  | wledDisabled | wledCollectorFailed | wledHealthy | wledInfoLedCountMismatch
  | wledInfoConnectionFailed | wledInfoTimeout | wledInfoRedirectRejected | wledInfoHttpError
  | wledInfoResponseTooLarge | wledInfoInvalidJson | wledInfoInvalidResponse
  | wledStateConnectionFailed | wledStateTimeout | wledStateRedirectRejected | wledStateHttpError
  | wledStateResponseTooLarge | wledStateInvalidJson | wledStateInvalidResponse | hyperhdrDisabled
  | hyperhdrCollectorFailed | hyperhdrHealthy | hyperhdrConnectionFailed | hyperhdrTimeout
  | hyperhdrRedirectRejected | hyperhdrAuthorizationRequired | hyperhdrHttpError
  | hyperhdrResponseTooLarge | hyperhdrInvalidJson | hyperhdrInvalidResponse
  | hyperhdrServerReportedFailure | hyperhdrInstanceInactive | hyperhdrVideoGrabberInactive
  | hyperhdrLedOutputInactive | captureDisabled | captureCollectorFailed | captureHealthy
  | captureUnsupportedPlatform | captureDeviceNotFound | captureProbeFailed
  | captureSymlinkResolutionFailed | captureInvalidDeviceTarget | captureNotCharacterDevice
  | captureV4l2RegistrationMissing | captureMetadataUnavailable | captureInvalidDeviceName
  | capturePermissionDenied | captureGrabberInactive | captureActivityUnreported
  | raspberryPiCollectorFailed | raspberryPiHealthy | raspberryPiDegraded | raspberryPiUnavailable
deriving DecidableEq, Repr

namespace NormalizedReason

/-- The text of a reason. -/
def value : NormalizedReason → String
  | wledDisabled => "wled.disabled"
  | wledCollectorFailed => "wled.collector_failed"
  | wledHealthy => "wled.healthy"
  | wledInfoLedCountMismatch => "wled.info.led_count_mismatch"
  | wledInfoConnectionFailed => "wled.info.connection_failed"
  | wledInfoTimeout => "wled.info.timeout"
  | wledInfoRedirectRejected => "wled.info.redirect_rejected"
  | wledInfoHttpError => "wled.info.http_error"
  | wledInfoResponseTooLarge => "wled.info.response_too_large"
  | wledInfoInvalidJson => "wled.info.invalid_json"
  | wledInfoInvalidResponse => "wled.info.invalid_response"
  | wledStateConnectionFailed => "wled.state.connection_failed"
  | wledStateTimeout => "wled.state.timeout"
  | wledStateRedirectRejected => "wled.state.redirect_rejected"
  | wledStateHttpError => "wled.state.http_error"
  | wledStateResponseTooLarge => "wled.state.response_too_large"
  | wledStateInvalidJson => "wled.state.invalid_json"
  | wledStateInvalidResponse => "wled.state.invalid_response"
  | hyperhdrDisabled => "hyperhdr.disabled"
  | hyperhdrCollectorFailed => "hyperhdr.collector_failed"
  | hyperhdrHealthy => "hyperhdr.healthy"
  | hyperhdrConnectionFailed => "hyperhdr.connection_failed"
  | hyperhdrTimeout => "hyperhdr.timeout"
  | hyperhdrRedirectRejected => "hyperhdr.redirect_rejected"
  | hyperhdrAuthorizationRequired => "hyperhdr.authorization_required"
  | hyperhdrHttpError => "hyperhdr.http_error"
  | hyperhdrResponseTooLarge => "hyperhdr.response_too_large"
  | hyperhdrInvalidJson => "hyperhdr.invalid_json"
  | hyperhdrInvalidResponse => "hyperhdr.invalid_response"
  | hyperhdrServerReportedFailure => "hyperhdr.server_reported_failure"
  | hyperhdrInstanceInactive => "hyperhdr.instance_inactive"
  | hyperhdrVideoGrabberInactive => "hyperhdr.video_grabber_inactive"
  | hyperhdrLedOutputInactive => "hyperhdr.led_output_inactive"
  | captureDisabled => "capture.disabled"
  | captureCollectorFailed => "capture.collector_failed"
  | captureHealthy => "capture.healthy"
  | captureUnsupportedPlatform => "capture.unsupported_platform"
  | captureDeviceNotFound => "capture.device_not_found"
  | captureProbeFailed => "capture.probe_failed"
  | captureSymlinkResolutionFailed => "capture.symlink_resolution_failed"
  | captureInvalidDeviceTarget => "capture.invalid_device_target"
  | captureNotCharacterDevice => "capture.not_character_device"
  | captureV4l2RegistrationMissing => "capture.v4l2_registration_missing"
  | captureMetadataUnavailable => "capture.metadata_unavailable"
  | captureInvalidDeviceName => "capture.invalid_device_name"
  | capturePermissionDenied => "capture.permission_denied"
  | captureGrabberInactive => "capture.grabber_inactive"
  | captureActivityUnreported => "capture.activity_unreported"
  | raspberryPiCollectorFailed => "raspberry_pi.collector_failed"
  | raspberryPiHealthy => "raspberry_pi.healthy"
  | raspberryPiDegraded => "raspberry_pi.degraded"
  | raspberryPiUnavailable => "raspberry_pi.unavailable"

/-- Every reason. -/
def registry : List NormalizedReason :=
  [.wledDisabled, .wledCollectorFailed, .wledHealthy, .wledInfoLedCountMismatch,
   .wledInfoConnectionFailed, .wledInfoTimeout, .wledInfoRedirectRejected, .wledInfoHttpError,
   .wledInfoResponseTooLarge, .wledInfoInvalidJson, .wledInfoInvalidResponse,
   .wledStateConnectionFailed, .wledStateTimeout, .wledStateRedirectRejected, .wledStateHttpError,
   .wledStateResponseTooLarge, .wledStateInvalidJson, .wledStateInvalidResponse,
   .hyperhdrDisabled, .hyperhdrCollectorFailed, .hyperhdrHealthy, .hyperhdrConnectionFailed,
   .hyperhdrTimeout, .hyperhdrRedirectRejected, .hyperhdrAuthorizationRequired,
   .hyperhdrHttpError, .hyperhdrResponseTooLarge, .hyperhdrInvalidJson, .hyperhdrInvalidResponse,
   .hyperhdrServerReportedFailure, .hyperhdrInstanceInactive, .hyperhdrVideoGrabberInactive,
   .hyperhdrLedOutputInactive, .captureDisabled, .captureCollectorFailed, .captureHealthy,
   .captureUnsupportedPlatform, .captureDeviceNotFound, .captureProbeFailed,
   .captureSymlinkResolutionFailed, .captureInvalidDeviceTarget, .captureNotCharacterDevice,
   .captureV4l2RegistrationMissing, .captureMetadataUnavailable, .captureInvalidDeviceName,
   .capturePermissionDenied, .captureGrabberInactive, .captureActivityUnreported,
   .raspberryPiCollectorFailed, .raspberryPiHealthy, .raspberryPiDegraded, .raspberryPiUnavailable]

theorem mem_registry (r : NormalizedReason) : r ∈ registry := by
  cases r <;> decide

/-- The member with a given text. -/
def ofValue? (text : String) : Option NormalizedReason := registry.find? fun r => r.value = text

/-- The text of a reason starts with the component's name and a dot. -/
def ofComponent (reason : NormalizedReason) (component : ComponentName) : Bool :=
  (component.value ++ ".").toList.isPrefixOf reason.value.toList

/-- The three reasons of a component that is switched off on purpose. -/
def disabled : List NormalizedReason := [.wledDisabled, .hyperhdrDisabled, .captureDisabled]

end NormalizedReason

/-! ## Details and results -/

/-- A value of a details dictionary, as far as the normalizer looks at it. -/
inductive DetailValue
  | none
  | bool (b : Bool)
  | int (n : Int)
  | float (x : FloatValue)
  | str (s : String)
  /-- A list or a mapping. -/
  | collection

/-- A dictionary with text keys. -/
abbrev Details := List (String × DetailValue)

namespace DetailValue

/-- The value is `None`. -/
def isNone : DetailValue → Bool
  | none => true
  | _ => false

/-- The value is exactly this Boolean. -/
def isBool (b : Bool) : DetailValue → Bool
  | bool c => b == c
  | _ => false

/-- The value is a Boolean. -/
def isFlag (v : DetailValue) : Bool := v.isBool true || v.isBool false

/-- The value is a number and not a Boolean. -/
def isNumber : DetailValue → Bool
  | int _ => true
  | float _ => true
  | _ => false

/-- The value is exactly this text. -/
def isText (text : String) : DetailValue → Bool
  | str s => s = text
  | _ => false

end DetailValue

namespace Details

/-- The keys of the dictionary. -/
def keys (details : Details) : List String := details.map Prod.fst

/-- The keys are exactly these. -/
def hasKeys (details : Details) (expected : List String) : Bool :=
  details.keys.all (· ∈ expected) && expected.all (· ∈ details.keys)

/-- The value under a key that is present. -/
def get (details : Details) (key : String) : DetailValue := (details.lookup key).getD .none

/-- The dictionary is `{"reason_code": "collector_failed"}`. -/
def isCollectorFailed (details : Details) : Bool :=
  details.hasKeys ["reason_code"] && (details.get "reason_code").isText "collector_failed"

end Details

/-- Why details are refused. -/
inductive RejectionCode
  | unknownSchema | unknownComponent | unknownStatus | unknownDetails | unknownValue
  | inconsistentSnapshot
deriving DecidableEq, Repr

/-- The reasons of a snapshot, or why it has none. -/
inductive ReasonResult
  | accepted (reasons : List NormalizedReason)
  | rejected (rejection : RejectionCode)
deriving DecidableEq, Repr

namespace Reasons

/-- The checked constructor of an accepted result. -/
def acceptAll (reasons : List NormalizedReason) : Except String ReasonResult :=
  if 1 ≤ reasons.length ∧ reasons.length ≤ 3 then .ok (.accepted reasons)
  else .error "invalid_accepted_reason_result"

/-- One reason. -/
def accepted (reason : NormalizedReason) : Except String ReasonResult := acceptAll [reason]

/-- A refusal. -/
def rejected (code : RejectionCode) : Except String ReasonResult := .ok (.rejected code)

/-! ## Accepted values -/

/-- The statuses a collector reports. -/
def statuses : List String := ["healthy", "degraded", "unavailable"]

/-- The failures that make a network device unavailable. -/
def networkUnavailable : List String := ["connection_failed", "timeout"]

/-- The failures of a WLED request. -/
def wledFailures : List String :=
  ["connection_failed", "timeout", "redirect_rejected", "http_error", "response_too_large",
    "invalid_json", "invalid_response"]

/-- What an info request may end with. -/
def wledInfoReasons : List String := wledFailures ++ ["validated", "led_count_mismatch"]

/-- What a state request may end with. -/
def wledStateReasons : List String := wledFailures ++ ["validated"]

/-- The failures of a HyperHDR request. -/
def hyperhdrFailures : List String :=
  ["connection_failed", "timeout", "redirect_rejected", "authorization_required", "http_error",
    "response_too_large", "invalid_json", "invalid_response", "server_reported_failure"]

/-- What a capture probe may end with. -/
def captureReasons : List String :=
  ["validated", "capture_device_disabled", "unsupported_platform", "device_not_found",
    "probe_failed", "symlink_resolution_failed", "invalid_device_target", "not_character_device",
    "v4l2_registration_missing", "metadata_unavailable", "invalid_device_name",
    "permission_denied"]

/-- The capture reasons of a device that is not there. -/
def captureUnavailable : List String :=
  ["capture_device_disabled", "device_not_found", "probe_failed", "symlink_resolution_failed",
    "unsupported_platform"]

/-- The keys of a WLED snapshot. -/
def wledDetailKeys : List String :=
  ["info_reason_code", "state_reason_code", "firmware_version", "uptime_seconds",
    "reported_led_count", "expected_led_count", "expected_active_led_count",
    "expected_skipped_leds", "led_count_matches", "estimated_current_milliamps",
    "current_limit_milliamps", "brightness", "output_on"]

/-- The keys of a HyperHDR snapshot. -/
def hyperhdrDetailKeys : List String :=
  ["reason_code", "server_info_received", "hdr_mode_enabled", "instance_running",
    "grabber_active", "led_output_active"]

/-- The keys of a capture snapshot, -/
def captureDetailKeys : List String :=
  ["reason_code", "device_node_present", "character_device", "v4l2_registered",
    "process_read_access", "device_name"]

/-- and those it has with an activity. -/
def captureActivityKeys : List String := ["activity_source", "grabber_active"]

/-- The keys of a Raspberry Pi snapshot. -/
def piDetailKeys : List String :=
  ["cpu_temperature_c", "cpu_temperature_warning_c", "load_average_1m", "load_average_5m",
    "load_average_15m", "logical_cpu_count", "memory_used_percent", "memory_warning_percent",
    "root_storage_used_percent", "storage_warning_percent", "host_uptime_seconds"]

/-- The reason of a WLED info failure. -/
def wledInfoMap (value : String) : Option NormalizedReason :=
  if value ∈ wledFailures ++ ["led_count_mismatch"] then
    NormalizedReason.ofValue? ("wled.info." ++ value)
  else none

/-- The reason of a WLED state failure. -/
def wledStateMap (value : String) : Option NormalizedReason :=
  if value ∈ wledFailures then NormalizedReason.ofValue? ("wled.state." ++ value) else none

/-- The reason of a HyperHDR failure. -/
def hyperhdrMap (value : String) : Option NormalizedReason :=
  if value ∈ hyperhdrFailures then NormalizedReason.ofValue? ("hyperhdr." ++ value) else none

/-- The reason of a capture failure. -/
def captureMap : List (String × NormalizedReason) :=
  [("unsupported_platform", .captureUnsupportedPlatform),
    ("device_not_found", .captureDeviceNotFound),
    ("probe_failed", .captureProbeFailed),
    ("symlink_resolution_failed", .captureSymlinkResolutionFailed),
    ("invalid_device_target", .captureInvalidDeviceTarget),
    ("not_character_device", .captureNotCharacterDevice),
    ("v4l2_registration_missing", .captureV4l2RegistrationMissing),
    ("metadata_unavailable", .captureMetadataUnavailable),
    ("invalid_device_name", .captureInvalidDeviceName),
    ("permission_denied", .capturePermissionDenied)]

/-! ## One component at a time -/

/-- The two details a WLED collector reports with a reason code alone. -/
def fixedWledReason (status : String) (details : Details) : Option (Except String ReasonResult) :=
  let fixed : List (String × NormalizedReason) :=
    [("collector_failed", .wledCollectorFailed), ("wled_disabled", .wledDisabled)]
  if !details.hasKeys ["reason_code"] then none
  else
    match details.get "reason_code" with
    | .str reason =>
      match fixed.lookup reason with
      | none => none
      | some normalized =>
        if status ≠ "unavailable" then some (rejected .inconsistentSnapshot)
        else some (accepted normalized)
    | _ => none

/-- `_wled_status` -/
def wledStatus (info state : String) : String :=
  let infoStatus :=
    if info = "validated" then "healthy"
    else if info = "led_count_mismatch" ∨ info ∉ networkUnavailable then "degraded"
    else "unavailable"
  let stateStatus :=
    if state = "validated" then "healthy"
    else if state ∈ networkUnavailable then "unavailable"
    else "degraded"
  if infoStatus = stateStatus ∧ stateStatus = "healthy" then "healthy"
  else if infoStatus = stateStatus ∧ stateStatus = "unavailable" then "unavailable"
  else "degraded"

/-- `_normalize_wled` -/
def normalizeWled (status : String) (details : Details) : Except String ReasonResult :=
  match fixedWledReason status details with
  | some fixed => fixed
  | none =>
    if !details.hasKeys wledDetailKeys then rejected .unknownDetails
    else
      match details.get "info_reason_code", details.get "state_reason_code" with
      | .str info, .str state =>
        if info ∉ wledInfoReasons ∨ state ∉ wledStateReasons then rejected .unknownValue
        else if status ≠ wledStatus info state then rejected .inconsistentSnapshot
        else if info = state ∧ state = "validated" then accepted .wledHealthy
        else acceptAll ([wledInfoMap info, wledStateMap state].filterMap id)
      | _, _ => rejected .unknownValue

/-- The three states whose `false` is a reason of its own. -/
def hyperhdrStates : List (String × NormalizedReason) :=
  [("instance_running", .hyperhdrInstanceInactive),
    ("grabber_active", .hyperhdrVideoGrabberInactive),
    ("led_output_active", .hyperhdrLedOutputInactive)]

/-- The details that are a truth value or nothing. -/
def hyperhdrFlagKeys : List String :=
  ["hdr_mode_enabled", "instance_running", "grabber_active", "led_output_active"]

/-- `_normalize_hyperhdr` -/
def normalizeHyperhdr (status : String) (details : Details) : Except String ReasonResult :=
  if details.isCollectorFailed then
    if status = "unavailable" then accepted .hyperhdrCollectorFailed
    else rejected .inconsistentSnapshot
  else if !details.hasKeys hyperhdrDetailKeys then rejected .unknownDetails
  else
    match details.get "reason_code" with
    | .str reason =>
      if !(details.get "server_info_received").isFlag ||
          hyperhdrFlagKeys.any fun k => !(details.get k).isNone && !(details.get k).isFlag then
        rejected .unknownValue
      else if ¬(reason = "hyperhdr_disabled" ∨ reason = "validated" ∨ reason ∈ hyperhdrFailures)
      then rejected .unknownValue
      else
        let empty := (details.get "server_info_received").isBool false &&
          hyperhdrFlagKeys.all fun k => (details.get k).isNone
        if reason = "hyperhdr_disabled" then
          if status ≠ "unavailable" || !empty then rejected .inconsistentSnapshot
          else accepted .hyperhdrDisabled
        else if reason ∈ hyperhdrFailures then
          let expected := if reason ∈ networkUnavailable then "unavailable" else "degraded"
          if status ≠ expected || !empty then rejected .inconsistentSnapshot
          else acceptAll (hyperhdrMap reason).toList
        else if !(details.get "server_info_received").isBool true ||
            hyperhdrStates.any fun s => !(details.get s.1).isFlag then
          rejected .inconsistentSnapshot
        else
          let reasons := (hyperhdrStates.filter fun s => (details.get s.1).isBool false).map
            Prod.snd
          if status ≠ (if reasons = [] then "healthy" else "degraded") then
            rejected .inconsistentSnapshot
          else acceptAll (if reasons = [] then [.hyperhdrHealthy] else reasons)
    | _ => rejected .unknownValue

/-- The grabber activity a capture snapshot carries, `true` when it has no activity keys. -/
def captureActivity (details : Details) : Except RejectionCode DetailValue :=
  if details.hasKeys captureDetailKeys then .ok (.bool true)
  else if details.hasKeys (captureDetailKeys ++ captureActivityKeys) then
    if !(details.get "activity_source").isText "HyperHDR serverinfo" then .error .unknownValue
    else if !(details.get "grabber_active").isNone && !(details.get "grabber_active").isFlag then
      .error .unknownValue
    else .ok (details.get "grabber_active")
  else .error .unknownDetails

/-- The status of the capture device itself. -/
def captureBaseStatus (reason : String) : String :=
  if reason = "validated" then "healthy"
  else if reason ∈ captureUnavailable then "unavailable"
  else "degraded"

/-- What the grabber activity adds to the reasons of a device that is not unavailable. -/
def activityReasons (baseStatus : String) (activity : DetailValue) : List NormalizedReason :=
  if baseStatus ≠ "unavailable" ∧ activity.isBool false then [.captureGrabberInactive]
  else if baseStatus ≠ "unavailable" ∧ activity.isNone then [.captureActivityUnreported]
  else []

/-- `_normalize_capture` -/
def normalizeCapture (status : String) (details : Details) : Except String ReasonResult :=
  if details.isCollectorFailed then
    if status = "unavailable" then accepted .captureCollectorFailed
    else rejected .inconsistentSnapshot
  else
    match captureActivity details with
    | .error code => rejected code
    | .ok activity =>
      match details.get "reason_code" with
      | .str reason =>
        if reason ∉ captureReasons then rejected .unknownValue
        else
          let baseStatus := captureBaseStatus reason
          let expected :=
            if baseStatus ≠ "unavailable" ∧ activity.isBool true = false then "degraded"
            else baseStatus
          if status ≠ expected then rejected .inconsistentSnapshot
          else
            let reasons : List NormalizedReason :=
              if reason = "capture_device_disabled" then [.captureDisabled]
              else if reason = "validated" then [.captureHealthy]
              else (captureMap.lookup reason).toList
            acceptAll (reasons ++ activityReasons baseStatus activity)
      | _ => rejected .unknownValue

/-- `_normalize_pi` -/
def normalizePi (status : String) (details : Details) : Except String ReasonResult :=
  if details.isCollectorFailed then
    if status = "unavailable" then accepted .raspberryPiCollectorFailed
    else rejected .inconsistentSnapshot
  else if !details.hasKeys piDetailKeys then rejected .unknownDetails
  else if details.any fun item => !item.2.isNone && !item.2.isNumber then rejected .unknownValue
  else if status = "healthy" then accepted .raspberryPiHealthy
  else if status = "degraded" then accepted .raspberryPiDegraded
  else accepted .raspberryPiUnavailable

end Reasons

/-- The reasons of one sanitized collector result, or why it is not one. -/
def normalizeComponentReason (schemaVersion : Int) (component status : String)
    (details : Details) : Except String ReasonResult :=
  if schemaVersion ≠ 1 then Reasons.rejected .unknownSchema
  else if component ∉ ["wled", "hyperhdr", "capture", "raspberry_pi"] then
    Reasons.rejected .unknownComponent
  else if status ∉ Reasons.statuses then Reasons.rejected .unknownStatus
  else if component = "wled" then Reasons.normalizeWled status details
  else if component = "hyperhdr" then Reasons.normalizeHyperhdr status details
  else if component = "capture" then Reasons.normalizeCapture status details
  else Reasons.normalizePi status details

/-! ## What an accepted result satisfies -/

/-- How many reasons a component may carry. -/
def maximumReasons : ComponentName → Nat
  | .wled => 2
  | .hyperhdr => 3
  | .capture => 2
  | .raspberryPi => 1

/-- Reasons a component may carry, and no disabled one unless the component is unavailable. -/
structure ReasonsFit (component : ComponentName) (status : HealthHistoryStatus)
    (reasons : List NormalizedReason) : Prop where
  nonempty : 1 ≤ reasons.length
  short : reasons.length ≤ maximumReasons component
  nodup : reasons.Nodup
  ofComponent : ∀ r ∈ reasons, r.ofComponent component = true
  disabled : ∀ r ∈ reasons, r ∈ NormalizedReason.disabled → status = .unavailable

instance (component : ComponentName) (status : HealthHistoryStatus)
    (reasons : List NormalizedReason) : Decidable (ReasonsFit component status reasons) :=
  decidable_of_iff (1 ≤ reasons.length ∧ reasons.length ≤ maximumReasons component ∧
      reasons.Nodup ∧ (∀ r ∈ reasons, r.ofComponent component = true) ∧
      ∀ r ∈ reasons, r ∈ NormalizedReason.disabled → status = .unavailable)
    ⟨fun h => ⟨h.1, h.2.1, h.2.2.1, h.2.2.2.1, h.2.2.2.2⟩,
      fun h => ⟨h.nonempty, h.short, h.nodup, h.ofComponent, h.disabled⟩⟩

/-- Reasons that fit a healthy component hold no disabled one, so they fit at any status. -/
theorem ReasonsFit.atStatus {component : ComponentName}
    {reasons : List NormalizedReason} (h : ReasonsFit component .healthy reasons)
    (status : HealthHistoryStatus) : ReasonsFit component status reasons :=
  { h with disabled := fun r hr hd => absurd (h.disabled r hr hd) (by decide) }

namespace Reasons

/-- Accepting a list of reasons keeps it as it is. -/
theorem acceptAll_eq_accepted {reasons rs : List NormalizedReason}
    (h : acceptAll reasons = .ok (.accepted rs)) : reasons = rs := by
  unfold acceptAll at h
  split at h
  · exact ReasonResult.accepted.inj (Except.ok.inj h)
  · cases h

theorem rejected_ne_accepted {code : RejectionCode} {rs : List NormalizedReason} :
    rejected code ≠ .ok (.accepted rs) := by
  intro h
  cases h

/-- An accepted result passed a guard that rejects. -/
theorem of_guard {p : Prop} [Decidable p] {code : RejectionCode} {x : Except String ReasonResult}
    {rs : List NormalizedReason}
    (h : (if p then rejected code else x) = .ok (.accepted rs)) : ¬p ∧ x = .ok (.accepted rs) := by
  by_cases hp : p
  · rw [if_pos hp] at h
    exact absurd h rejected_ne_accepted
  · rw [if_neg hp] at h
    exact ⟨hp, h⟩

theorem mem_of_lookup {key : String} {reason : NormalizedReason}
    {table : List (String × NormalizedReason)} (h : table.lookup key = some reason) :
    (key, reason) ∈ table := by
  obtain ⟨before, after, rfl, _⟩ := List.lookup_eq_some_iff.mp h
  exact List.mem_append_right _ List.mem_cons_self

theorem value_eq_unavailable {status : HealthHistoryStatus} (h : status.value = "unavailable") :
    status = .unavailable := by
  cases status with
  | healthy => exact absurd h (by decide)
  | degraded => exact absurd h (by decide)
  | unavailable => rfl

/-! ### WLED -/

/-- The reason of a disabled device fits its status. -/
theorem fixedWledReason_fit {status : HealthHistoryStatus} {details : Details}
    {rs : List NormalizedReason}
    (h : fixedWledReason status.value details = some (.ok (.accepted rs))) :
    ReasonsFit .wled status rs := by
  unfold fixedWledReason at h
  dsimp only at h
  split at h
  · cases h
  split at h
  · split at h
    · cases h
    · rename_i reason _ normalized hlookup
      split at h
      · exact absurd (Option.some.inj h) rejected_ne_accepted
      · rename_i hstatus
        obtain rfl := acceptAll_eq_accepted (Option.some.inj h)
        obtain rfl := value_eq_unavailable (not_not.mp hstatus)
        have hnormalized := mem_of_lookup hlookup
        simp only [List.mem_cons, Prod.mk.injEq, List.not_mem_nil, or_false] at hnormalized
        rcases hnormalized with ⟨-, rfl⟩ | ⟨-, rfl⟩ <;> decide
  · cases h

/-- Every pair of WLED reasons fits, checked entry for entry. -/
theorem wledMaps_fit : ∀ info ∈ wledInfoReasons, ∀ state ∈ wledStateReasons,
    [wledInfoMap info, wledStateMap state].filterMap id = [] ∨
      ReasonsFit .wled .healthy ([wledInfoMap info, wledStateMap state].filterMap id) := by
  decide +kernel

theorem acceptAll_nil {rs : List NormalizedReason} : acceptAll [] ≠ .ok (.accepted rs) := by
  intro h
  cases h

/-- What is accepted for a WLED device fits its status. -/
theorem normalizeWled_fit {status : HealthHistoryStatus} {details : Details}
    {rs : List NormalizedReason}
    (h : normalizeWled status.value details = .ok (.accepted rs)) :
    ReasonsFit .wled status rs := by
  unfold normalizeWled at h
  split at h
  · rename_i fixed hfixed
    exact fixedWledReason_fit (hfixed.trans (congrArg some h))
  obtain ⟨-, h⟩ := of_guard h
  split at h
  · rename_i info state _ _
    obtain ⟨hknown, h⟩ := of_guard h
    rw [not_or, not_not, not_not] at hknown
    obtain ⟨-, h⟩ := of_guard h
    split at h
    · obtain rfl := acceptAll_eq_accepted h
      exact ReasonsFit.atStatus (by decide) status
    · rcases wledMaps_fit info hknown.1 state hknown.2 with hnil | hfit
      · rw [hnil] at h
        exact absurd h acceptAll_nil
      · obtain rfl := acceptAll_eq_accepted h
        exact hfit.atStatus status
  · exact absurd h rejected_ne_accepted

/-! ### HyperHDR -/

/-- Every HyperHDR failure fits, checked entry for entry. -/
theorem hyperhdrMap_fit : ∀ reason ∈ hyperhdrFailures,
    ReasonsFit .hyperhdr .healthy (hyperhdrMap reason).toList := by
  decide +kernel

/-- Any selection of the three inactive states, or the healthy reason when none is selected. -/
theorem hyperhdrStates_fit (p : String × NormalizedReason → Bool) :
    ReasonsFit .hyperhdr .healthy
      (if (hyperhdrStates.filter p).map Prod.snd = [] then [.hyperhdrHealthy]
        else (hyperhdrStates.filter p).map Prod.snd) := by
  unfold hyperhdrStates
  simp only [List.filter_cons, List.filter_nil]
  cases p ("instance_running", .hyperhdrInstanceInactive) <;>
    cases p ("grabber_active", .hyperhdrVideoGrabberInactive) <;>
    cases p ("led_output_active", .hyperhdrLedOutputInactive) <;> decide

/-- What is accepted for HyperHDR fits its status. -/
theorem normalizeHyperhdr_fit {status : HealthHistoryStatus} {details : Details}
    {rs : List NormalizedReason}
    (h : normalizeHyperhdr status.value details = .ok (.accepted rs)) :
    ReasonsFit .hyperhdr status rs := by
  unfold normalizeHyperhdr at h
  split at h
  · split at h
    · obtain rfl := acceptAll_eq_accepted h
      exact ReasonsFit.atStatus (by decide) status
    · exact absurd h rejected_ne_accepted
  obtain ⟨-, h⟩ := of_guard h
  split at h
  · rename_i reason _
    obtain ⟨-, h⟩ := of_guard h
    obtain ⟨-, h⟩ := of_guard h
    dsimp only at h
    by_cases hdisabled : reason = "hyperhdr_disabled"
    · rw [if_pos hdisabled] at h
      obtain ⟨hstatus, h⟩ := of_guard h
      obtain rfl := acceptAll_eq_accepted h
      have hunavailable : status.value = "unavailable" := by
        by_contra hne
        exact hstatus (by simp [hne])
      obtain rfl := value_eq_unavailable hunavailable
      decide
    rw [if_neg hdisabled] at h
    by_cases hfailure : reason ∈ hyperhdrFailures
    · rw [if_pos hfailure] at h
      obtain ⟨-, h⟩ := of_guard h
      obtain rfl := acceptAll_eq_accepted h
      exact (hyperhdrMap_fit reason hfailure).atStatus status
    · rw [if_neg hfailure] at h
      obtain ⟨-, h⟩ := of_guard h
      obtain ⟨-, h⟩ := of_guard h
      obtain rfl := acceptAll_eq_accepted h
      exact (hyperhdrStates_fit _).atStatus status
  · exact absurd h rejected_ne_accepted

/-! ### Capture -/

/-- The reasons a capture reason code can lead to, the disabled device apart. -/
theorem captureReasons_fit : ∀ reason ∈ captureReasons, reason ≠ "capture_device_disabled" →
    ∀ extra ∈ ([[], [.captureGrabberInactive], [.captureActivityUnreported]] :
      List (List NormalizedReason)),
    ReasonsFit .capture .healthy
      ((if reason = "capture_device_disabled" then [.captureDisabled]
        else if reason = "validated" then [.captureHealthy]
        else (captureMap.lookup reason).toList) ++ extra) := by
  decide +kernel

theorem activityReasons_mem (baseStatus : String) (activity : DetailValue) :
    activityReasons baseStatus activity ∈
      ([[], [.captureGrabberInactive], [.captureActivityUnreported]] :
        List (List NormalizedReason)) := by
  unfold activityReasons
  split
  · exact List.mem_cons_of_mem _ List.mem_cons_self
  split
  · exact List.mem_cons_of_mem _ (List.mem_cons_of_mem _ List.mem_cons_self)
  · exact List.mem_cons_self

theorem activityReasons_unavailable (activity : DetailValue) :
    activityReasons "unavailable" activity = [] := by
  unfold activityReasons
  rw [if_neg fun h => h.1 rfl, if_neg fun h => h.1 rfl]

theorem captureBaseStatus_disabled :
    captureBaseStatus "capture_device_disabled" = "unavailable" := by
  decide

/-- What is accepted for the capture fits its status. -/
theorem normalizeCapture_fit {status : HealthHistoryStatus} {details : Details}
    {rs : List NormalizedReason}
    (h : normalizeCapture status.value details = .ok (.accepted rs)) :
    ReasonsFit .capture status rs := by
  unfold normalizeCapture at h
  split at h
  · split at h
    · obtain rfl := acceptAll_eq_accepted h
      exact ReasonsFit.atStatus (by decide) status
    · exact absurd h rejected_ne_accepted
  split at h
  · exact absurd h rejected_ne_accepted
  split at h
  · rename_i reason _
    obtain ⟨hknown, h⟩ := of_guard h
    dsimp only at h
    obtain ⟨hstatus, h⟩ := of_guard h
    obtain rfl := acceptAll_eq_accepted h
    by_cases hdisabled : reason = "capture_device_disabled"
    · -- a disabled device is unavailable, so no activity reason is added
      subst hdisabled
      rw [captureBaseStatus_disabled, if_neg fun h => h.1 rfl, ne_eq, not_not] at hstatus
      obtain rfl := value_eq_unavailable hstatus
      rw [captureBaseStatus_disabled, activityReasons_unavailable, if_pos rfl]
      decide
    · exact (captureReasons_fit reason (not_not.mp hknown) hdisabled _
        (activityReasons_mem _ _)).atStatus status
  · exact absurd h rejected_ne_accepted

/-! ### Raspberry Pi -/

/-- What is accepted for the Pi fits its status. -/
theorem normalizePi_fit {status : HealthHistoryStatus} {details : Details}
    {rs : List NormalizedReason}
    (h : normalizePi status.value details = .ok (.accepted rs)) :
    ReasonsFit .raspberryPi status rs := by
  unfold normalizePi at h
  split at h
  · split at h
    · obtain rfl := acceptAll_eq_accepted h
      exact ReasonsFit.atStatus (by decide) status
    · exact absurd h rejected_ne_accepted
  obtain ⟨-, h⟩ := of_guard h
  obtain ⟨-, h⟩ := of_guard h
  split at h
  · obtain rfl := acceptAll_eq_accepted h
    exact ReasonsFit.atStatus (by decide) status
  split at h
  · obtain rfl := acceptAll_eq_accepted h
    exact ReasonsFit.atStatus (by decide) status
  · obtain rfl := acceptAll_eq_accepted h
    exact ReasonsFit.atStatus (by decide) status

end Reasons

/-- Accepted reasons fit their component, and a disabled reason comes with an unavailable
    status. -/
theorem normalizeComponentReason_accepted {component : ComponentName}
    {status : HealthHistoryStatus} {details : Details} {rs : List NormalizedReason}
    (h : normalizeComponentReason 1 component.value status.value details = .ok (.accepted rs)) :
    ReasonsFit component status rs := by
  unfold normalizeComponentReason at h
  rw [if_neg (by decide)] at h
  rw [if_neg (show ¬component.value ∉ ["wled", "hyperhdr", "capture", "raspberry_pi"] by
    cases component <;> decide)] at h
  rw [if_neg (show ¬status.value ∉ Reasons.statuses by cases status <;> decide)] at h
  cases component with
  | wled => exact Reasons.normalizeWled_fit h
  | hyperhdr =>
    rw [if_neg (by decide), if_pos (by decide)] at h
    exact Reasons.normalizeHyperhdr_fit h
  | capture =>
    rw [if_neg (by decide), if_neg (by decide), if_pos (by decide)] at h
    exact Reasons.normalizeCapture_fit h
  | raspberryPi =>
    rw [if_neg (by decide), if_neg (by decide), if_neg (by decide)] at h
    exact Reasons.normalizePi_fit h

namespace Reasons

/-! ### Nothing is raised -/

/-- The result is a decision, not an exception. -/
def Decides (x : Except String ReasonResult) : Prop := ∃ r, x = .ok r

theorem decides_rejected (code : RejectionCode) : Decides (rejected code) := ⟨_, rfl⟩

theorem decides_accepted (reason : NormalizedReason) : Decides (accepted reason) := ⟨_, rfl⟩

theorem decides_acceptAll {reasons : List NormalizedReason}
    (h : 1 ≤ reasons.length ∧ reasons.length ≤ 3) : Decides (acceptAll reasons) := by
  unfold acceptAll
  rw [if_pos h]
  exact ⟨_, rfl⟩

/-- A choice between two decisions is one. -/
theorem Decides.ite {p : Prop} [Decidable p] {x y : Except String ReasonResult}
    (hx : p → Decides x) (hy : ¬p → Decides y) : Decides (if p then x else y) := by
  split
  · exact hx ‹_›
  · exact hy ‹_›

theorem fixedWledReason_decides {status : String} {details : Details}
    {fixed : Except String ReasonResult} (h : fixedWledReason status details = some fixed) :
    Decides fixed := by
  unfold fixedWledReason at h
  dsimp only at h
  split at h
  · cases h
  split at h
  · split at h
    · cases h
    · split at h
      · obtain rfl := Option.some.inj h
        exact decides_rejected _
      · obtain rfl := Option.some.inj h
        exact decides_accepted _
  · cases h

/-- Every pair of WLED reasons gives one to three, except where both are healthy. -/
theorem wledMaps_length : ∀ info ∈ wledInfoReasons, ∀ state ∈ wledStateReasons,
    ¬(info = state ∧ state = "validated") →
      1 ≤ ([wledInfoMap info, wledStateMap state].filterMap id).length ∧
        ([wledInfoMap info, wledStateMap state].filterMap id).length ≤ 3 := by
  decide +kernel

theorem normalizeWled_decides (status : String) (details : Details) :
    Decides (normalizeWled status details) := by
  unfold normalizeWled
  split
  · exact fixedWledReason_decides ‹_›
  refine .ite (fun _ => decides_rejected _) fun _ => ?_
  split
  · rename_i info state _ _
    refine .ite (fun _ => decides_rejected _) fun hknown => ?_
    rw [not_or, not_not, not_not] at hknown
    refine .ite (fun _ => decides_rejected _) fun _ => ?_
    exact .ite (fun _ => decides_accepted _) fun hne =>
      decides_acceptAll (wledMaps_length info hknown.1 state hknown.2 hne)
  · exact decides_rejected _

theorem normalizeHyperhdr_decides (status : String) (details : Details) :
    Decides (normalizeHyperhdr status details) := by
  unfold normalizeHyperhdr
  refine .ite (fun _ => .ite (fun _ => decides_accepted _) fun _ => decides_rejected _) fun _ => ?_
  refine .ite (fun _ => decides_rejected _) fun _ => ?_
  split
  · rename_i reason _
    refine .ite (fun _ => decides_rejected _) fun _ => ?_
    refine .ite (fun _ => decides_rejected _) fun _ => ?_
    dsimp only
    refine .ite (fun _ => .ite (fun _ => decides_rejected _) fun _ => decides_accepted _) fun _ => ?_
    refine .ite (fun hfailure => .ite (fun _ => decides_rejected _) fun _ => ?_) fun _ => ?_
    · have hfit := hyperhdrMap_fit reason hfailure
      exact decides_acceptAll ⟨hfit.nonempty, hfit.short⟩
    refine .ite (fun _ => decides_rejected _) fun _ => .ite (fun _ => decides_rejected _) fun _ => ?_
    have hfit := hyperhdrStates_fit fun s => (details.get s.1).isBool false
    exact decides_acceptAll ⟨hfit.nonempty, hfit.short⟩
  · exact decides_rejected _

/-- A capture's reasons number one to three. -/
theorem captureReasons_length : ∀ reason ∈ captureReasons,
    ∀ extra ∈ ([[], [.captureGrabberInactive], [.captureActivityUnreported]] :
      List (List NormalizedReason)),
    1 ≤ ((if reason = "capture_device_disabled" then [.captureDisabled]
        else if reason = "validated" then [.captureHealthy]
        else (captureMap.lookup reason).toList) ++ extra).length ∧
      ((if reason = "capture_device_disabled" then [.captureDisabled]
        else if reason = "validated" then [.captureHealthy]
        else (captureMap.lookup reason).toList) ++ extra).length ≤ 3 := by
  decide +kernel

theorem normalizeCapture_decides (status : String) (details : Details) :
    Decides (normalizeCapture status details) := by
  unfold normalizeCapture
  refine .ite (fun _ => .ite (fun _ => decides_accepted _) fun _ => decides_rejected _) fun _ => ?_
  split
  · exact decides_rejected _
  split
  · rename_i reason _
    refine .ite (fun _ => decides_rejected _) fun hknown => ?_
    dsimp only
    exact .ite (fun _ => decides_rejected _) fun _ => decides_acceptAll
      (captureReasons_length reason (not_not.mp hknown) _ (activityReasons_mem _ _))
  · exact decides_rejected _

theorem normalizePi_decides (status : String) (details : Details) :
    Decides (normalizePi status details) := by
  unfold normalizePi
  refine .ite (fun _ => .ite (fun _ => decides_accepted _) fun _ => decides_rejected _) fun _ => ?_
  refine .ite (fun _ => decides_rejected _) fun _ => .ite (fun _ => decides_rejected _) fun _ => ?_
  exact .ite (fun _ => decides_accepted _) fun _ =>
    .ite (fun _ => decides_accepted _) fun _ => decides_accepted _

end Reasons

/-- The normalizer accepts or rejects; it never raises. -/
theorem normalizeComponentReason_decides (schemaVersion : Int) (component status : String)
    (details : Details) :
    Reasons.Decides (normalizeComponentReason schemaVersion component status details) := by
  unfold normalizeComponentReason
  refine .ite (fun _ => Reasons.decides_rejected _) fun _ => ?_
  refine .ite (fun _ => Reasons.decides_rejected _) fun _ => ?_
  refine .ite (fun _ => Reasons.decides_rejected _) fun _ => ?_
  refine .ite (fun _ => Reasons.normalizeWled_decides _ _) fun _ => ?_
  refine .ite (fun _ => Reasons.normalizeHyperhdr_decides _ _) fun _ => ?_
  exact .ite (fun _ => Reasons.normalizeCapture_decides _ _) fun _ =>
    Reasons.normalizePi_decides _ _

end Aurora.HealthHistory
