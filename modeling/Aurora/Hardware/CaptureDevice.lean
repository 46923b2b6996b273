/-
  The presence check of a capture device: the probe of its node and of its registration, which never
  opens the device, and the report of its validation.

  The probe goes down a ladder of checks and stops at the first that fails, so what it has found is
  read off its reason code: see `Rung`.
-/
import Aurora.Hardware.CaptureModes
import Aurora.HealthHistory.Reasons

namespace Aurora.Hardware

open HealthHistory

/-! ## The probe -/

/-- The result of the probe of the device. -/
structure CaptureDeviceProbeResult where
  reasonCode : String
  deviceNodePresent : Bool := false
  characterDevice : Bool := false
  v4l2Registered : Bool := false
  processReadAccess : Bool := false
  deviceName : Option String := none
  deriving DecidableEq

/-- How a call on a path fails: `FileNotFoundError`, another `OSError`, `RuntimeError`, or an
exception that no handler of the probe names. -/
inductive PathError
  | notFound
  | os
  | runtime
  | raised
  deriving DecidableEq

/-- What the calls of a probe give.  `stat` says whether the object is a character device, and
`readAttribute` gives at most the first 256 bytes of a file. -/
structure DeviceCalls where
  lstat : String → Except PathError Unit
  resolve : String → Except PathError String
  stat : String → Except PathError Bool
  readAttribute : String → Except PathError (List UInt8)
  readable : String → Bool

/-- The name without the line end of a text file. -/
def withoutLineEnd (name : List Char) : List Char :=
  match name.reverse with
  | '\n' :: '\r' :: rest => rest.reverse
  | '\n' :: rest => rest.reverse
  | '\r' :: rest => rest.reverse
  | _ => name

/-- The text can be shown: it is short and holds no control character. -/
def isDeviceName (name : List Char) : Bool :=
  !name.isEmpty && name.length ≤ 128 && name.all fun c => 32 ≤ c.toNat && c.toNat ≠ 127

/-- `_read_name`, from the bytes that were read. -/
def decodeName (raw : List UInt8) : Option String :=
  if raw.length = 256 then none
  else
    match String.fromUTF8? raw.toByteArray with
    | none => none
    | some text =>
      let name := withoutLineEnd text.toList
      if isDeviceName name then some (String.ofList name) else none

/-- The last component of a path. -/
def pathName (path : String) : String :=
  String.ofList (path.toList.reverse.takeWhile (· ≠ '/')).reverse

/-- Where the kernel lists the video devices. -/
def sysfsRoot : String := "/sys/class/video4linux"

/-- The checks on the metadata of a character device. -/
def probeRegistration (calls : DeviceCalls) (resolved : String) :
    Except Unit CaptureDeviceProbeResult :=
  let classEntry := sysfsRoot ++ "/" ++ pathName resolved
  match calls.stat classEntry with
  | .error .notFound =>
    .ok { reasonCode := "v4l2_registration_missing", deviceNodePresent := true,
          characterDevice := true }
  | .error .os =>
    .ok { reasonCode := "metadata_unavailable", deviceNodePresent := true, characterDevice := true }
  | .error _ => .error ()
  | .ok _ =>
    match calls.readAttribute (classEntry ++ "/name") with
    | .error .runtime => .error ()
    | .error .raised => .error ()
    | read =>
      match read.toOption.bind decodeName with
      | none =>
        .ok { reasonCode := "invalid_device_name", deviceNodePresent := true,
              characterDevice := true, v4l2Registered := true }
      | some name =>
        if !calls.readable resolved then
          .ok { reasonCode := "permission_denied", deviceNodePresent := true,
                characterDevice := true, v4l2Registered := true, deviceName := some name }
        else
          .ok { reasonCode := "validated", deviceNodePresent := true, characterDevice := true,
                v4l2Registered := true, processReadAccess := true, deviceName := some name }

/-- The checks on the resolved target of the configured path. -/
def probeTarget (calls : DeviceCalls) (resolved : String) :
    Except Unit CaptureDeviceProbeResult :=
  if !Modes.isVideoNode resolved then
    .ok { reasonCode := "invalid_device_target", deviceNodePresent := true }
  else
    match calls.stat resolved with
    | .error .notFound => .ok { reasonCode := "device_not_found" }
    | .error .os => .ok { reasonCode := "probe_failed" }
    | .error _ => .error ()
    | .ok false => .ok { reasonCode := "not_character_device", deviceNodePresent := true }
    | .ok true => probeRegistration calls resolved

/-- `LinuxCaptureDeviceProbe.probe`; an error is an exception that leaves it. -/
def probeDevice (calls : DeviceCalls) (identifier : String) :
    Except Unit CaptureDeviceProbeResult :=
  match calls.lstat identifier with
  | .error .notFound => .ok { reasonCode := "device_not_found" }
  | .error .os => .ok { reasonCode := "probe_failed" }
  | .error _ => .error ()
  | .ok () =>
    match calls.resolve identifier with
    | .error .raised => .error ()
    | .error _ => .ok { reasonCode := "symlink_resolution_failed" }
    | .ok resolved => probeTarget calls resolved

/-! ## Validation -/

/-- The report of the capture device. -/
structure CaptureDeviceValidationReport where
  componentId : ComponentId
  state : ComponentHealthState
  reasonCode : String
  message : String
  deviceNodePresent : Bool
  characterDevice : Bool
  v4l2Registered : Bool
  processReadAccess : Bool
  deviceName : Option String

/-- The messages of the report. -/
def captureDeviceMessages : List (String × String) :=
  [("capture_device_disabled", "Capture-device validation is disabled."),
    ("unsupported_platform", "Capture-device validation is supported on Linux only."),
    ("validated",
      "Capture-device node presence and V4L2 registration metadata were validated.")]

/-- The report of a result. -/
def captureDeviceReport (result : CaptureDeviceProbeResult) (state : ComponentHealthState) :
    CaptureDeviceValidationReport where
  componentId := .captureDevice
  state := state
  reasonCode := result.reasonCode
  message := (captureDeviceMessages.lookup result.reasonCode).getD
    "Capture-device presence validation was unsuccessful."
  deviceNodePresent := result.deviceNodePresent
  characterDevice := result.characterDevice
  v4l2Registered := result.v4l2Registered
  processReadAccess := result.processReadAccess
  deviceName := result.deviceName

/-- `validate_capture_device` -/
def validateCaptureDevice (settings : Modes.CaptureDeviceSettings) (platform : String)
    (probe : String → Except Unit CaptureDeviceProbeResult) : CaptureDeviceValidationReport :=
  if !settings.enabled then
    captureDeviceReport { reasonCode := "capture_device_disabled" } .disabled
  else if platform ≠ "linux" then
    captureDeviceReport { reasonCode := "unsupported_platform" } .unhealthy
  else
    let result :=
      match probe (settings.identifier.getD "") with
      | .ok result => result
      | .error () => { reasonCode := "probe_failed" }
    captureDeviceReport result (if result.reasonCode = "validated" then .healthy else .unhealthy)

/-! ## Reasons -/

/-- The reason is known to the history, and what was found before the check that failed is what the
result says. -/
structure Rung (result : CaptureDeviceProbeResult) : Prop where
  known : result.reasonCode ∈ Reasons.captureReasons
  character : result.characterDevice = true → result.deviceNodePresent = true
  registered : result.v4l2Registered = true → result.characterDevice = true
  named : result.deviceName.isSome = true → result.v4l2Registered = true
  readable : result.processReadAccess = true → result.deviceName.isSome = true
  validated : result.reasonCode = "validated" ↔ result.processReadAccess = true
  /-- A name that is shown is short and printable. -/
  printable : ∀ name, result.deviceName = some name → isDeviceName name.toList = true

/-- A result that has found no name is a rung when its flags go up the ladder. -/
theorem Rung.unnamed {result : CaptureDeviceProbeResult}
    (hknown : result.reasonCode ∈ Reasons.captureReasons)
    (hreason : result.reasonCode ≠ "validated")
    (hcharacter : result.characterDevice = true → result.deviceNodePresent = true)
    (hregistered : result.v4l2Registered = true → result.characterDevice = true)
    (hname : result.deviceName = none) (hread : result.processReadAccess = false) : Rung result where
  known := hknown
  character := hcharacter
  registered := hregistered
  named h := by
    rw [hname] at h
    cases h
  readable h := by
    rw [hread] at h
    cases h
  validated := iff_of_false hreason (by rw [hread]; exact Bool.false_ne_true)
  printable name h := by
    rw [hname] at h
    cases h

theorem decodeName_printable {raw : List UInt8} {name : String} (h : decodeName raw = some name) :
    isDeviceName name.toList = true := by
  unfold decodeName at h
  split at h
  · cases h
  split at h
  · cases h
  dsimp only at h
  split at h
  case isTrue hname =>
    obtain rfl := Option.some.inj h
    rwa [String.toList_ofList]
  case isFalse => cases h

theorem probeRegistration_rung {calls : DeviceCalls} {resolved : String}
    {result : CaptureDeviceProbeResult} (h : probeRegistration calls resolved = .ok result) :
    Rung result := by
  unfold probeRegistration at h
  dsimp only at h
  split at h
  case h_1 =>
    obtain rfl := Except.ok.inj h
    exact .unnamed (by decide) (by decide) (fun _ => rfl) (fun _ => rfl) rfl rfl
  case h_2 =>
    obtain rfl := Except.ok.inj h
    exact .unnamed (by decide) (by decide) (fun _ => rfl) (fun _ => rfl) rfl rfl
  case h_3 => cases h
  case h_4 =>
    split at h
    case h_1 => cases h
    case h_2 => cases h
    case h_3 =>
      split at h
      case h_1 =>
        obtain rfl := Except.ok.inj h
        exact .unnamed (by decide) (by decide) (fun _ => rfl) (fun _ => rfl) rfl rfl
      case h_2 name hname =>
        -- the name was decoded from what was read
        obtain ⟨raw, -, hdecoded⟩ := Option.bind_eq_some_iff.mp hname
        have hprintable := decodeName_printable hdecoded
        have hknown : ∀ code ∈ ["permission_denied", "validated"],
            code ∈ Reasons.captureReasons := by decide
        have hdenied : "permission_denied" ≠ "validated" := by decide
        split at h
        case isTrue =>
          obtain rfl := Except.ok.inj h
          exact ⟨hknown _ (.head _), fun _ => rfl, fun _ => rfl, fun _ => rfl, fun _ => rfl,
            iff_of_false hdenied Bool.false_ne_true, fun _ h => Option.some.inj h ▸ hprintable⟩
        case isFalse =>
          obtain rfl := Except.ok.inj h
          exact ⟨hknown _ (.tail _ (.head _)), fun _ => rfl, fun _ => rfl, fun _ => rfl,
            fun _ => rfl, iff_of_true rfl rfl, fun _ h => Option.some.inj h ▸ hprintable⟩

theorem probeDevice_rung {calls : DeviceCalls} {identifier : String}
    {result : CaptureDeviceProbeResult} (h : probeDevice calls identifier = .ok result) :
    Rung result := by
  have hplain : ∀ code ∈ ["device_not_found", "probe_failed", "symlink_resolution_failed"],
      Rung { reasonCode := code } := by
    intro code hcode
    refine .unnamed ?_ ?_ id id rfl rfl
    · revert code
      decide
    · revert code
      decide
  have hpresent : ∀ code ∈ ["invalid_device_target", "not_character_device"],
      Rung { reasonCode := code, deviceNodePresent := true } := by
    intro code hcode
    refine .unnamed ?_ ?_ (fun _ => rfl) id rfl rfl
    · revert code
      decide
    · revert code
      decide
  unfold probeDevice at h
  split at h
  case h_1 => exact Except.ok.inj h ▸ hplain _ (by decide)
  case h_2 => exact Except.ok.inj h ▸ hplain _ (by decide)
  case h_3 => cases h
  case h_4 =>
    split at h
    case h_1 => cases h
    case h_2 => exact Except.ok.inj h ▸ hplain _ (by decide)
    case h_3 resolved hresolved =>
      unfold probeTarget at h
      split at h
      case isTrue => exact Except.ok.inj h ▸ hpresent _ (by decide)
      case isFalse =>
        split at h
        case h_1 => exact Except.ok.inj h ▸ hplain _ (by decide)
        case h_2 => exact Except.ok.inj h ▸ hplain _ (by decide)
        case h_3 => cases h
        case h_4 => exact Except.ok.inj h ▸ hpresent _ (by decide)
        case h_5 => exact probeRegistration_rung h

/-- The reason of a report is known to the history, whatever the probe does. -/
theorem validateCaptureDevice_known (settings : Modes.CaptureDeviceSettings) (platform : String)
    (calls : DeviceCalls) :
    (validateCaptureDevice settings platform (probeDevice calls)).reasonCode ∈
      Reasons.captureReasons := by
  unfold validateCaptureDevice
  split
  · decide
  split
  · decide
  dsimp only [captureDeviceReport]
  split
  case h_1 result hprobe => exact (probeDevice_rung hprobe).known
  case h_2 => decide

/-- A report is healthy exactly when its reason says so. -/
theorem validateCaptureDevice_healthy_iff (settings : Modes.CaptureDeviceSettings)
    (platform : String) (probe : String → Except Unit CaptureDeviceProbeResult) :
    (validateCaptureDevice settings platform probe).state = .healthy ↔
      (validateCaptureDevice settings platform probe).reasonCode = "validated" := by
  unfold validateCaptureDevice
  split
  · exact iff_of_false (by decide) (by decide)
  split
  · exact iff_of_false (by decide) (by decide)
  dsimp only [captureDeviceReport]
  split <;> simp

end Aurora.Hardware
