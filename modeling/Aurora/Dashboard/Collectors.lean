/-
  The four collectors of the dashboard, a sweep of them, and the report it ends in.

  1. **Components** — what a collector observes: a status, a message and details.
  2. **Collectors** — one for each device, and one for the host.
  3. **Sweeps** — the collectors together, a failed one replaced, the capture device corrected by
     what HyperHDR says about the grabber.
  4. **Reports** — the report of a sweep, and the reports of one sweep after the other, which
     remember when each component was last observed.

  Details are kept as the history reads them: the text of a detail is a `DetailValue`, in which a
  lone surrogate of a device's text is a NUL.
-/
import Aurora.Dashboard.HealthService
import Aurora.Hardware.HyperhdrResponses
import Aurora.Hardware.CaptureDevice
import Aurora.HealthHistory.Projection

namespace Aurora.Dashboard

open Hardware
open HealthHistory (HealthHistoryStatus Details DetailValue)

/-! ## Components -/

/-- The health of a component, with its message and the time of the check. -/
structure ObservedHealth extends ComponentHealth where
  message : String
  checkedAt : String
  latencyMs : FloatValue
  details : Details

/-- When a collector ends, and how long it took. -/
structure Stamp where
  checkedAt : String
  latencyMs : FloatValue

/-- `_component`. -/
def component (name : String) (status : HealthHistoryStatus) (message : String) (stamp : Stamp)
    (observationSucceeded : Bool) (details : Details) : ObservedHealth where
  name := name
  status := status
  message := message
  checkedAt := stamp.checkedAt
  latencyMs := stamp.latencyMs
  details := details
  lastSuccessfulAt := if observationSucceeded then some stamp.checkedAt else none

/-- The value of a detail, or `None`. -/
def detail {α : Type} (value : α → DetailValue) : Option α → DetailValue
  | none => .none
  | some a => value a

/-- A text of the collector, as a detail. -/
def detailText (text : PyText) : DetailValue :=
  .str (String.ofList (text.map fun code => Char.ofNat code.val))

/-! ## Settings and devices -/

/-- The settings the collectors read. -/
structure CollectorSettings where
  wled : WLEDSettings
  expectedActiveLedCount : Option Int
  expectedSkippedLeds : Option Int
  zones : List LightingZoneSettings
  hyperhdr : HyperHDRSettings
  captureDevice : Modes.CaptureDeviceSettings
  cpuTemperatureWarningC : ℚ
  memoryWarningPercent : ℚ
  storageWarningPercent : ℚ

/-- What the host says about itself; a source that cannot be read gives nothing. -/
structure HostMetrics where
  cpuTemperature : Option FloatValue
  memoryPercent : Option FloatValue
  hostUptime : Option FloatValue
  diskPercent : Option FloatValue
  loadAverages : Option (FloatValue × FloatValue × FloatValue)
  cpuCount : Option Int

/-- What the devices answer during one sweep. -/
structure Devices where
  fetchInfo : Fetch WLEDTransportError
  fetchState : Fetch WLEDTransportError
  fetchServerInfo : Fetch HyperHDRTransportError
  capture : DeviceCalls
  platform : String
  host : HostMetrics

section Collectors

variable (loads : Loads) (upper : PyText → PyText) (settings : CollectorSettings)
  (devices : Devices) (stamp : Stamp)

/-! ## WLED -/

/-- The failures that make a network device unavailable. -/
def unavailableNetworkReasons : List String := ["connection_failed", "timeout"]

/-- The status of a device that a request failed on. -/
def networkFailureStatus (reasonCode : String) : HealthHistoryStatus :=
  if reasonCode ∈ unavailableNetworkReasons then .unavailable else .degraded

/-- The status of the info document. -/
def infoStatus (info : WLEDValidationReport) : HealthHistoryStatus :=
  match info.state with
  | .healthy => .healthy
  | .degraded => .degraded
  | _ => networkFailureStatus info.reasonCode

/-- The status of the state document. -/
def stateStatus (state : Option WLEDState) (reason : String) : HealthHistoryStatus :=
  if state.isSome then .healthy else networkFailureStatus reason

/-- The status and the message of a device whose two documents have these statuses. -/
def wledSummary (info state : HealthHistoryStatus) : HealthHistoryStatus × String :=
  if info = .healthy ∧ state = .healthy then (.healthy, "WLED read-only health checks succeeded")
  else if info = .unavailable ∧ state = .unavailable then
    (.unavailable, "WLED could not be observed")
  else (.degraded, "WLED was only partially observed or differs from expectations")

/-- What the lights reported. -/
def wledDetails (info : WLEDValidationReport) (state : Option WLEDState) (stateReason : String) :
    Details :=
  [("info_reason_code", .str info.reasonCode),
    ("state_reason_code", .str stateReason),
    ("firmware_version", detail detailText info.firmwareVersion),
    ("uptime_seconds", detail .int info.uptimeSeconds),
    ("reported_led_count", detail .int info.reportedLedCount),
    ("expected_led_count", detail .int info.expectedLedCount),
    ("expected_active_led_count", detail .int settings.expectedActiveLedCount),
    ("expected_skipped_leds", detail .int settings.expectedSkippedLeds),
    ("led_count_matches", detail .bool info.ledCountMatches),
    ("estimated_current_milliamps", detail .int info.currentMilliamps),
    ("current_limit_milliamps", detail .int info.currentLimitMilliamps),
    ("brightness", detail .int (state.map (·.brightness))),
    ("output_on", detail .bool (state.map (·.outputOn)))]

/-- `collect_wled` -/
def collectWled : ObservedHealth :=
  if !settings.wled.enabled then
    component "wled" .unavailable "WLED is not enabled in Aurora configuration" stamp false
      [("reason_code", .str "wled_disabled")]
  else
    let info := validateWled loads settings.wled settings.zones devices.fetchInfo none
    let (state, stateReason) := fetchWledState loads settings.wled devices.fetchState
    let (status, message) := wledSummary (infoStatus info) (stateStatus state stateReason)
    component "wled" status message stamp
      (info.state = .healthy || info.state = .degraded || state.isSome)
      (wledDetails settings info state stateReason)

/-! ## HyperHDR -/

/-- What HyperHDR reported. -/
def hyperhdrDetails (report : HyperHDRValidationReport) : Details :=
  [("reason_code", .str report.reasonCode),
    ("server_info_received", .bool report.serverInfoReceived),
    ("hdr_mode_enabled", detail .bool report.hdrModeEnabled),
    ("instance_running", detail .bool report.instanceRunning),
    ("grabber_active", detail .bool report.grabberActive),
    ("led_output_active", detail .bool report.ledOutputActive)]

/-- The parts that the server reports as switched off. -/
def inactiveParts (report : HyperHDRValidationReport) : List String :=
  ([("instance", report.instanceRunning), ("grabber", report.grabberActive),
    ("LED output", report.ledOutputActive)].filter fun part => part.2 = some false).map Prod.fst

/-- `collect_hyperhdr` -/
def collectHyperhdr : ObservedHealth :=
  let report := validateHyperhdr loads upper settings.hyperhdr devices.fetchServerInfo none
  let details := hyperhdrDetails report
  match report.state with
  | .disabled =>
    component "hyperhdr" .unavailable "HyperHDR is not enabled in Aurora configuration" stamp false
      details
  | .unhealthy =>
    component "hyperhdr" (networkFailureStatus report.reasonCode) report.message stamp false details
  | _ =>
    let inactive := inactiveParts report
    if inactive ≠ [] then
      component "hyperhdr" .degraded
        ("HyperHDR is reachable but inactive: " ++ String.intercalate ", " inactive) stamp true
        details
    else
      component "hyperhdr" .healthy "HyperHDR read-only serverinfo check succeeded" stamp true
        details

/-! ## The capture device -/

/-- The reasons of a capture device that is not there. -/
def unavailableCaptureReasons : List String :=
  ["capture_device_disabled", "device_not_found", "probe_failed", "symlink_resolution_failed",
    "unsupported_platform"]

/-- What was found about the capture device. -/
def captureDetails (report : CaptureDeviceValidationReport) : Details :=
  [("reason_code", .str report.reasonCode),
    ("device_node_present", .bool report.deviceNodePresent),
    ("character_device", .bool report.characterDevice),
    ("v4l2_registered", .bool report.v4l2Registered),
    ("process_read_access", .bool report.processReadAccess),
    ("device_name", detail .str report.deviceName)]

/-- `collect_capture` -/
def collectCapture : ObservedHealth :=
  let report :=
    validateCaptureDevice settings.captureDevice devices.platform (probeDevice devices.capture)
  if report.state = .healthy then
    component "capture" .healthy "Capture device metadata validation succeeded" stamp true
      (captureDetails report)
  else
    component "capture"
      (if report.reasonCode ∈ unavailableCaptureReasons then .unavailable else .degraded)
      report.message stamp report.deviceNodePresent (captureDetails report)

/-! ## The host -/

/-- A reading reaches a threshold. -/
def reaches (threshold : ℚ) : Option FloatValue → Bool
  | some (.finite q) => threshold ≤ q
  | some (.infinite negative) => !negative
  | _ => false

/-- The metrics that reached their warning level. -/
def hostWarnings (host : HostMetrics) : List String :=
  ([("high CPU temperature", reaches settings.cpuTemperatureWarningC host.cpuTemperature),
    ("high memory utilization", reaches settings.memoryWarningPercent host.memoryPercent),
    ("low root filesystem space", reaches settings.storageWarningPercent host.diskPercent)].filter
      Prod.snd).map Prod.fst

/-- The metrics that could not be read. -/
def missingMetrics (host : HostMetrics) : List String :=
  ([("CPU temperature", host.cpuTemperature.isNone),
    ("memory utilization", host.memoryPercent.isNone),
    ("host uptime", host.hostUptime.isNone),
    ("root filesystem utilization", host.diskPercent.isNone),
    ("load averages", host.loadAverages.isNone)].filter Prod.snd).map Prod.fst

/-- No source could be read. -/
def HostMetrics.isEmpty (host : HostMetrics) : Bool :=
  host.cpuTemperature.isNone && host.memoryPercent.isNone && host.hostUptime.isNone &&
    host.diskPercent.isNone && host.loadAverages.isNone

/-- The load averages are rounded where they are shown. -/
def hostDetails (rounded : FloatValue → FloatValue) (host : HostMetrics) : Details :=
  [("cpu_temperature_c", detail .float host.cpuTemperature),
    ("cpu_temperature_warning_c", .float (.finite settings.cpuTemperatureWarningC)),
    ("load_average_1m", detail .float (host.loadAverages.map fun load => rounded load.1)),
    ("load_average_5m", detail .float (host.loadAverages.map fun load => rounded load.2.1)),
    ("load_average_15m", detail .float (host.loadAverages.map fun load => rounded load.2.2)),
    ("logical_cpu_count", detail .int host.cpuCount),
    ("memory_used_percent", detail .float host.memoryPercent),
    ("memory_warning_percent", .float (.finite settings.memoryWarningPercent)),
    ("root_storage_used_percent", detail .float host.diskPercent),
    ("storage_warning_percent", .float (.finite settings.storageWarningPercent)),
    ("host_uptime_seconds", detail .float host.hostUptime)]

/-- `collect_pi` -/
def collectPi (rounded : FloatValue → FloatValue) : ObservedHealth :=
  let host := devices.host
  let warnings := hostWarnings settings host
  let missing := missingMetrics host
  let (status, message) : HealthHistoryStatus × String :=
    if host.isEmpty then (.unavailable, "Raspberry Pi metrics are unavailable")
    else if warnings ≠ [] ∨ missing ≠ [] then
      (.degraded, String.intercalate "; " (warnings ++
        if missing ≠ [] then ["unavailable metrics: " ++ String.intercalate ", " missing] else []))
    else (.healthy, "Raspberry Pi health is within configured thresholds")
  component "raspberry_pi" status message stamp (!host.isEmpty) (hostDetails settings rounded host)

end Collectors

/-! ## Sweeps -/

/-- What a collector gives in a sweep: an observation, or an exception that leaves it. -/
structure CollectorSpec where
  name : String
  collected : Except Unit ObservedHealth
  /-- When the collector ends if it fails. -/
  stamp : Stamp

/-- `_safe_collect`. -/
def safeCollect (spec : CollectorSpec) : ObservedHealth :=
  match spec.collected with
  | .ok observed => observed
  | .error () =>
    component spec.name .unavailable "Health collector failed safely" spec.stamp false
      [("reason_code", .str "collector_failed")]

/-- The component that a dictionary of all of them holds under a name. -/
def byName (components : List ObservedHealth) (name : String) : Option ObservedHealth :=
  components.reverse.find? fun c => c.name = name

/-- A dictionary with one more entry, in place if the key is there. -/
def setDetail (details : Details) (key : String) (value : DetailValue) : Details :=
  if details.keys.contains key then
    details.map fun item => if item.1 = key then (key, value) else item
  else details ++ [(key, value)]

/-- The capture device as it is seen with HyperHDR's grabber. -/
def withActivity (capture : ObservedHealth) (grabberActive : DetailValue) : ObservedHealth :=
  let details := setDetail
    (setDetail capture.details "activity_source" (.str "HyperHDR serverinfo"))
    "grabber_active" grabberActive
  if grabberActive.isBool true then
    { capture with
      message := "Capture device is available and HyperHDR reports an active grabber"
      details := details }
  else if grabberActive.isBool false then
    { capture with
      status := .degraded
      message := "Capture device is available but HyperHDR reports an inactive grabber"
      details := details }
  else
    { capture with
      status := .degraded
      message := "Capture device is available but current activity is not reported"
      details := details }

/-- `_apply_capture_activity`. -/
def applyCaptureActivity (components : List ObservedHealth) : List ObservedHealth :=
  match byName components "capture", byName components "hyperhdr" with
  | some capture, some hyperhdr =>
    if capture.status = .unavailable then components
    else
      let updated := withActivity capture (hyperhdr.details.get "grabber_active")
      components.map fun c => if c.name = "capture" then updated else c
  | _, _ => components

/-- The components in their order, and the activity of the capture device. -/
def collectComponents (collectors : List CollectorSpec) : List ObservedHealth :=
  applyCaptureActivity (collectors.map safeCollect)

/-- Everything that one sweep meets: what the devices answer, which collectors are left by an
exception, when each ends, and when the report is made. -/
structure Sweep where
  devices : Devices
  raises : HealthHistory.ComponentName → Bool
  stamp : HealthHistory.ComponentName → Stamp
  checkedAt : String
  serviceUptimeSeconds : FloatValue

/-- How this installation reads documents and rounds numbers. -/
structure Reading where
  loads : Loads
  upper : PyText → PyText
  rounded : FloatValue → FloatValue

section Sweeps

variable (reading : Reading) (settings : CollectorSettings)

/-- What a component's collector observes when no exception leaves it. -/
def observe (sweep : Sweep) : HealthHistory.ComponentName → ObservedHealth
  | .wled => collectWled reading.loads settings sweep.devices (sweep.stamp .wled)
  | .hyperhdr =>
    collectHyperhdr reading.loads reading.upper settings sweep.devices (sweep.stamp .hyperhdr)
  | .capture => collectCapture settings sweep.devices (sweep.stamp .capture)
  | .raspberryPi => collectPi settings sweep.devices (sweep.stamp .raspberryPi) reading.rounded

/-- The collectors of a sweep. -/
def defaultCollectors (sweep : Sweep) : List CollectorSpec :=
  HealthHistory.componentOrder.map fun name =>
    ⟨name.value, if sweep.raises name then .error () else .ok (observe reading settings sweep name),
      sweep.stamp name⟩

/-! ## Reports -/

/-- The report of a sweep. -/
structure ObservedReport where
  status : HealthHistoryStatus
  checkedAt : String
  serviceUptimeSeconds : FloatValue
  components : List ObservedHealth

/-- The status of the components together. -/
def statusOf (components : List ObservedHealth) : HealthHistoryStatus :=
  overallStatus (components.map (·.toComponentHealth))

/-- `collect_health` -/
def collectHealth (sweep : Sweep) : ObservedReport :=
  let components := collectComponents (defaultCollectors reading settings sweep)
  ⟨statusOf components, sweep.checkedAt, sweep.serviceUptimeSeconds, components⟩

/-- The components of a sweep with their last successes, and what is remembered for the next. -/
def rememberAll (lastSuccesses : Dict String String) :
    List ObservedHealth → List ObservedHealth × Dict String String
  | [] => ([], lastSuccesses)
  | c :: rest =>
    let (base, lastSuccesses) := withLastSuccess lastSuccesses c.toComponentHealth
    let (rest, lastSuccesses) := rememberAll lastSuccesses rest
    ({ c with toComponentHealth := base } :: rest, lastSuccesses)

/-- The report that the service makes of a sweep. -/
def serveSweep (lastSuccesses : Dict String String) (sweep : Sweep) :
    ObservedReport × Dict String String :=
  let report := collectHealth reading settings sweep
  let (components, lastSuccesses) := rememberAll lastSuccesses report.components
  ({ report with status := statusOf components, components := components }, lastSuccesses)

/-- The reports of one sweep after the other. -/
def serveSweeps (lastSuccesses : Dict String String) : List Sweep → List ObservedReport
  | [] => []
  | sweep :: rest =>
    let (report, lastSuccesses) := serveSweep reading settings lastSuccesses sweep
    report :: serveSweeps lastSuccesses rest

end Sweeps

/-- A component as the history is given it. -/
def ObservedHealth.record (c : ObservedHealth) : HealthHistory.ComponentHealth where
  name := c.name
  status := some c.status
  checkedAt := some c.checkedAt
  latencyMs := some (.float c.latencyMs)
  details := some c.details
  lastSuccessfulAt := c.lastSuccessfulAt.map some

/-- A report as the history is given it. -/
def ObservedReport.record (report : ObservedReport) : HealthHistory.HealthReport where
  schemaVersion := some 1
  status := some report.status
  checkedAt := some report.checkedAt
  serviceUptimeSeconds := some (.float report.serviceUptimeSeconds)
  components := some (report.components.map ObservedHealth.record)

end Aurora.Dashboard
