/-
  The history accepts what the collectors report, and when it does not.

  The status of a component is derived twice: by its collector from what the device answered, and by
  the normalizer of the history from the details alone.  The two agree for every answer of every
  device, but the normalizer knows neither the reasons that a long integer literal and a `ValueError`
  of a fetch leave in a report nor a server that is reachable and says nothing about one of its
  parts.

  1. **Components** — for each component, when its details are accepted (`Told`).
  2. **Sweeps** — the four components of a sweep, with the capture device corrected.
  3. **Reports** — the projection of a report succeeds exactly when every component has told.
  4. **Runs** — the same for the reports of any sequence of sweeps, and what they remember.
-/
import Mathlib.Data.Fintype.Option
import Aurora.Dashboard.Collectors
import Aurora.HealthHistory.Projecting

namespace Aurora.Dashboard

open Hardware
open HealthHistory (ComponentName HealthHistoryStatus Details DetailValue NormalizedReason
  ReasonResult RejectionCode normalizeComponentReason)
open HealthHistory.Reasons

/-! ## Acceptance -/

/-- The history accepts the component's status and details. -/
def Accepted (name : ComponentName) (status : HealthHistoryStatus) (details : Details) : Prop :=
  ∃ reasons, normalizeComponentReason 1 name.value status.value details = .ok (.accepted reasons)

/-- The normalizer of one component. -/
def normalizer : ComponentName → String → Details → Except String ReasonResult
  | .wled => normalizeWled
  | .hyperhdr => normalizeHyperhdr
  | .capture => normalizeCapture
  | .raspberryPi => normalizePi

/-- In version 1 a component's reasons are those of its normalizer. -/
theorem normalizeComponentReason_eq (name : ComponentName) (status : HealthHistoryStatus)
    (details : Details) :
    normalizeComponentReason 1 name.value status.value details =
      normalizer name status.value details := by
  have hstatus : status.value ∈ statuses := by
    cases status <;> decide
  unfold normalizeComponentReason
  rw [if_neg (by decide)]
  cases name with
  | wled => rw [if_neg (by decide), if_neg (not_not.mpr hstatus), if_pos (by decide)]; rfl
  | hyperhdr =>
    rw [if_neg (by decide), if_neg (not_not.mpr hstatus), if_neg (by decide), if_pos (by decide)]
    rfl
  | capture =>
    rw [if_neg (by decide), if_neg (not_not.mpr hstatus), if_neg (by decide), if_neg (by decide),
      if_pos (by decide)]
    rfl
  | raspberryPi =>
    rw [if_neg (by decide), if_neg (not_not.mpr hstatus), if_neg (by decide), if_neg (by decide),
      if_neg (by decide)]
    rfl

theorem accepted_acceptAll {reasons : List NormalizedReason}
    (h : 1 ≤ reasons.length ∧ reasons.length ≤ 3) :
    ∃ rs, acceptAll reasons = .ok (.accepted rs) := by
  unfold acceptAll
  rw [if_pos h]
  exact ⟨reasons, rfl⟩

/-- The check of the keys sees their list alone. -/
theorem hasKeys_of_keys {details : Details} {keys : List String} (h : details.keys = keys)
    (expected : List String) :
    details.hasKeys expected = (keys.all (· ∈ expected) && expected.all (· ∈ keys)) := by
  unfold Details.hasKeys
  rw [h]

/-- A collector that failed is accepted. -/
theorem accepted_failed (name : ComponentName) :
    Accepted name .unavailable [("reason_code", .str "collector_failed")] := by
  cases name
  · exact ⟨[.wledCollectorFailed], by decide +kernel⟩
  · exact ⟨[.hyperhdrCollectorFailed], by decide +kernel⟩
  · exact ⟨[.captureCollectorFailed], by decide +kernel⟩
  · exact ⟨[.raspberryPiCollectorFailed], by decide +kernel⟩

/-! ## WLED -/

section Wled

variable {loads : Loads} {settings : CollectorSettings} {devices : Devices} {stamp : Stamp}

/-- The details of a WLED device have exactly the keys its normalizer expects. -/
theorem wledDetails_keys (settings : CollectorSettings) (info : WLEDValidationReport)
    (state : Option WLEDState) (reason : String) :
    (wledDetails settings info state reason).keys = wledDetailKeys := rfl

/-- The status that a reason for the info document stands for. -/
def infoStatusOf (reason : String) : HealthHistoryStatus :=
  if reason = "validated" then .healthy
  else if reason = "led_count_mismatch" then .degraded
  else networkFailureStatus reason

/-- The status a state request shows. -/
def stateStatusOf (reason : String) : HealthHistoryStatus :=
  if reason = "validated" then .healthy else networkFailureStatus reason

/-- The collector and the normalizer derive the same status. -/
theorem wledStatus_summary : ∀ info ∈ wledInfoReasons, ∀ state ∈ wledStateReasons,
    wledStatus info state = (wledSummary (infoStatusOf info) (stateStatusOf state)).1.value := by
  decide +kernel

/-- When the details of a WLED device are accepted, by its two reason codes. -/
theorem normalizeWled_accepts_iff (settings : CollectorSettings) {info : WLEDValidationReport}
    (state : Option WLEDState) {reason : String} (status : HealthHistoryStatus) :
    (∃ rs, normalizeWled status.value (wledDetails settings info state reason) =
      .ok (.accepted rs)) ↔ info.reasonCode ∈ wledInfoReasons ∧ reason ∈ wledStateReasons ∧
        status.value = wledStatus info.reasonCode reason := by
  have hkeys := hasKeys_of_keys (wledDetails_keys settings info state reason)
  have hfixed : fixedWledReason status.value (wledDetails settings info state reason) = none := by
    unfold fixedWledReason
    dsimp only
    rw [hkeys, if_pos (by decide)]
  unfold normalizeWled
  rw [hfixed]
  dsimp only
  rw [hkeys, if_neg (by decide)]
  have hinfo : (wledDetails settings info state reason).get "info_reason_code" =
      .str info.reasonCode := rfl
  have hreason : (wledDetails settings info state reason).get "state_reason_code" =
      .str reason := rfl
  rw [hinfo, hreason]
  dsimp only
  constructor
  · rintro ⟨rs, h⟩
    have hknown := of_guard h
    have hagreed := of_guard hknown.2
    rw [not_or, not_not, not_not] at hknown
    exact ⟨hknown.1.1, hknown.1.2, not_not.mp hagreed.1⟩
  · rintro ⟨hcode, hstate, hagreed⟩
    rw [if_neg (by rw [not_or, not_not, not_not]; exact ⟨hcode, hstate⟩),
      if_neg (not_not.mpr hagreed)]
    split
    · exact ⟨_, rfl⟩
    · exact accepted_acceptAll (wledMaps_length _ hcode _ hstate ‹_›)

/-- The two readings of a network failure give the same status. -/
theorem statusOf_failure : ∀ reason ∈ wledFailures,
    infoStatusOf reason = networkFailureStatus reason ∧
      stateStatusOf reason = networkFailureStatus reason := by
  decide +kernel

/-- A code that only a device without success has stands for the status of a network failure. -/
theorem infoStatusOf_unvalidated {reason : String} (h : reason ≠ "validated") :
    infoStatusOf reason = networkFailureStatus reason := by
  unfold infoStatusOf
  rw [if_neg h]
  split
  case isTrue hmismatch => rw [hmismatch]; decide
  case isFalse => rfl

/-- Without a validated state the failure decides. -/
theorem stateStatusOf_unvalidated {reason : String} (h : reason ≠ "validated") :
    stateStatusOf reason = networkFailureStatus reason := if_neg h

/-- A `ValueError` whose message is the code of success. -/
def Pretends {ε : Type} (fetched : Except (FetchError ε) (List UInt8)) : Prop :=
  fetched = .error (.valueError "validated")

/-- A document that was refused has its reason, unless the fetch raised the code of success. -/
theorem reason_ne_validated {ε α : Type} {fetched : Except (FetchError ε) (List UInt8)}
    {read : List (PyText × JsonDocument) → Except ValueError α} {reason : String}
    (hclosed : Closed wledFailures read) (hhonest : ¬Pretends fetched)
    (h : parseFetched fetched (fun body => loadMapping loads body >>= read) =
      .error (.valueError reason)) : reason ≠ "validated" := by
  rintro rfl
  rcases parseFetched_valueError h with hraised | ⟨body, -, hparse⟩
  · exact hhonest hraised
  · have hunknown : "validated" ∉ wledFailures := by decide
    have hlong := not_not.mp (mt (hclosed.parse_iff hparse).mpr hunknown)
    obtain ⟨limit, digits, herror⟩ := loadMapping_of_longInteger hlong
    rw [herror] at hparse
    exact digitLimitMessage_ne (by decide) limit digits (Except.error.inj hparse)

/-- The info is read, or fails for one of the listed reasons. -/
theorem readWledInfo_failures : Closed wledFailures readWledInfo :=
  closed_of_response (fun _ _ => readWledInfo_error) (by decide) (by decide) (by decide)

theorem readWledState_failures : Closed wledFailures readWledState :=
  closed_of_response (fun _ _ => readWledState_error) (by decide) (by decide) (by decide)

theorem networkFailureStatus_validated : networkFailureStatus "validated" = .degraded := by decide

section Statuses

variable {fetch : Fetch WLEDTransportError}

/-- The status of the info document is the one its reason stands for. -/
theorem infoStatus_eq (henabled : settings.wled.enabled = true)
    (hhonest : ¬Pretends (fetch (hostOrEmpty settings.wled.host) (portOr 80 settings.wled.port)
      settings.wled.validationTimeoutSeconds)) :
    infoStatus (validateWled loads settings.wled settings.zones fetch none) =
      infoStatusOf (validateWled loads settings.wled settings.zones fetch none).reasonCode := by
  unfold validateWled
  rw [if_pos henabled]
  split
  case h_1 e _ => exact (statusOf_failure _ e.reasonCode_mem).1.symm
  case h_2 reason hparsed =>
    exact (infoStatusOf_unvalidated
      (reason_ne_validated readWledInfo_failures hhonest hparsed)).symm
  case h_3 info _ =>
    by_cases hmismatch : ((settings.wled.expectedLedCount.or
        (expectedLedCount settings.zones)).map fun count => decide (info.ledCount = count)) =
        some false
    · simp only [hmismatch, if_true]
      rfl
    · simp only [hmismatch, if_false]
      rfl

/-- An error that reads like success is reported with the code of success, and is none. -/
theorem infoStatus_pretended (henabled : settings.wled.enabled = true)
    (h : Pretends (fetch (hostOrEmpty settings.wled.host) (portOr 80 settings.wled.port)
      settings.wled.validationTimeoutSeconds)) :
    (validateWled loads settings.wled settings.zones fetch none).reasonCode = "validated" ∧
      infoStatus (validateWled loads settings.wled settings.zones fetch none) = .degraded := by
  unfold Pretends at h
  unfold validateWled
  rw [if_pos henabled, Option.getD_none, h]
  exact ⟨rfl, networkFailureStatus_validated⟩

/-- The status of an honest device is that of its state. -/
theorem stateStatus_eq
    (hhonest : ¬Pretends (fetch (hostOrEmpty settings.wled.host) (portOr 80 settings.wled.port)
      settings.wled.validationTimeoutSeconds)) :
    stateStatus (fetchWledState loads settings.wled fetch).1
        (fetchWledState loads settings.wled fetch).2 =
      stateStatusOf (fetchWledState loads settings.wled fetch).2 := by
  unfold fetchWledState
  split
  case h_1 e _ => exact (statusOf_failure _ e.reasonCode_mem).2.symm
  case h_2 reason hparsed =>
    exact (stateStatusOf_unvalidated
      (reason_ne_validated readWledState_failures hhonest hparsed)).symm
  case h_3 => rfl

/-- A device that names its failure validated is the exception. -/
theorem stateStatus_pretended
    (h : Pretends (fetch (hostOrEmpty settings.wled.host) (portOr 80 settings.wled.port)
      settings.wled.validationTimeoutSeconds)) :
    (fetchWledState loads settings.wled fetch).2 = "validated" ∧
      stateStatus (fetchWledState loads settings.wled fetch).1
        (fetchWledState loads settings.wled fetch).2 = .degraded := by
  unfold Pretends at h
  unfold fetchWledState
  rw [h]
  exact ⟨rfl, networkFailureStatus_validated⟩

end Statuses

/-- What an enabled collector reports, from the two documents. -/
theorem collectWled_enabled (henabled : settings.wled.enabled = true) :
    (collectWled loads settings devices stamp).status =
      (wledSummary
        (infoStatus (validateWled loads settings.wled settings.zones devices.fetchInfo none))
        (stateStatus (fetchWledState loads settings.wled devices.fetchState).1
          (fetchWledState loads settings.wled devices.fetchState).2)).1 ∧
    (collectWled loads settings devices stamp).details =
      wledDetails settings (validateWled loads settings.wled settings.zones devices.fetchInfo none)
        (fetchWledState loads settings.wled devices.fetchState).1
        (fetchWledState loads settings.wled devices.fetchState).2 := by
  unfold collectWled
  rw [henabled]
  exact ⟨rfl, rfl⟩

theorem stateStatusOf_ne_healthy {reason : String} (h : reason ≠ "validated") :
    stateStatusOf reason ≠ .healthy := by
  rw [stateStatusOf_unvalidated h]
  unfold networkFailureStatus
  split <;> decide

theorem infoStatusOf_ne_healthy {reason : String} (h : reason ≠ "validated") :
    infoStatusOf reason ≠ .healthy := by
  rw [infoStatusOf_unvalidated h]
  unfold networkFailureStatus
  split <;> decide

/-- Beside a document that is not healthy, it makes no difference whether the other one is healthy
or degraded. -/
theorem wledSummary_unhealthy : ∀ status : HealthHistoryStatus, status ≠ .healthy →
    (wledSummary .degraded status).1 = (wledSummary .healthy status).1 ∧
      (wledSummary status .degraded).1 = (wledSummary status .healthy).1 := by
  intro status h
  cases status
  · exact absurd rfl h
  · exact ⟨rfl, rfl⟩
  · exact ⟨rfl, rfl⟩

/-- The status agrees with the two reasons, unless both are the code of success and an error is the
reason for one. -/
theorem wledSummary_agrees_iff {info state : HealthHistoryStatus} {infoReason stateReason : String}
    {infoPretends statePretends : Prop} (hinfoKnown : infoReason ∈ wledInfoReasons)
    (hstateKnown : stateReason ∈ wledStateReasons)
    (hinfo : ¬infoPretends → info = infoStatusOf infoReason)
    (hinfoPretends : infoPretends → infoReason = "validated" ∧ info = .degraded)
    (hstate : ¬statePretends → state = stateStatusOf stateReason)
    (hstatePretends : statePretends → stateReason = "validated" ∧ state = .degraded) :
    (wledSummary info state).1.value = wledStatus infoReason stateReason ↔
      (infoReason = "validated" → stateReason = "validated" → ¬infoPretends ∧ ¬statePretends) := by
  rw [wledStatus_summary _ hinfoKnown _ hstateKnown]
  by_cases hboth : infoReason = "validated" ∧ stateReason = "validated"
  case pos =>
    -- the history expects a healthy device, so both documents have to be read
    obtain ⟨rfl, rfl⟩ := hboth
    have hexpected : (wledSummary (infoStatusOf "validated") (stateStatusOf "validated")).1 =
        .healthy := by decide
    rw [hexpected, forall_prop_of_true rfl, forall_prop_of_true rfl]
    constructor
    · intro hagrees
      refine ⟨fun hpretends => ?_, fun hpretends => ?_⟩
      · rw [(hinfoPretends hpretends).2] at hagrees
        revert hagrees
        cases state <;> decide
      · rw [(hstatePretends hpretends).2] at hagrees
        revert hagrees
        cases info <;> decide
    · rintro ⟨hinfoHonest, hstateHonest⟩
      rw [hinfo hinfoHonest, hstate hstateHonest]
      decide
  case neg =>
    refine iff_of_true (congrArg HealthHistoryStatus.value ?_)
      fun hinfoReason hstateReason => absurd ⟨hinfoReason, hstateReason⟩ hboth
    by_cases hinfoHonest : infoPretends
    case pos =>
      obtain ⟨rfl, rfl⟩ := hinfoPretends hinfoHonest
      have hother : stateReason ≠ "validated" := fun h => hboth ⟨rfl, h⟩
      rw [hstate fun h => hother (hstatePretends h).1]
      exact (wledSummary_unhealthy _ (stateStatusOf_ne_healthy hother)).1
    case neg =>
      rw [hinfo hinfoHonest]
      by_cases hstateHonest : statePretends
      case pos =>
        obtain ⟨rfl, rfl⟩ := hstatePretends hstateHonest
        have hother : infoReason ≠ "validated" := fun h => hboth ⟨h, rfl⟩
        exact (wledSummary_unhealthy _ (infoStatusOf_ne_healthy hother)).2
      case neg => rw [hstate hstateHonest]

variable (loads settings devices)

/-- What the info and the state request of a sweep give. -/
def infoFetched : Except (FetchError WLEDTransportError) (List UInt8) :=
  devices.fetchInfo (hostOrEmpty settings.wled.host) (portOr 80 settings.wled.port)
    settings.wled.validationTimeoutSeconds

/-- What the state request got. -/
def stateFetched : Except (FetchError WLEDTransportError) (List UInt8) :=
  devices.fetchState (hostOrEmpty settings.wled.host) (portOr 80 settings.wled.port)
    settings.wled.validationTimeoutSeconds

/-- The fetches from an enabled device leave no unknown reason, and when both documents count as
validated neither fetch has raised an error that says so. -/
def WledTold : Prop :=
  settings.wled.enabled = true →
    ¬Unexplained loads wledInfoReasons (infoFetched settings devices) ∧
    ¬Unexplained loads wledStateReasons (stateFetched settings devices) ∧
    ((validateWled loads settings.wled settings.zones devices.fetchInfo none).reasonCode =
        "validated" →
      (fetchWledState loads settings.wled devices.fetchState).2 = "validated" →
        ¬Pretends (infoFetched settings devices) ∧ ¬Pretends (stateFetched settings devices))

variable {loads settings devices}

/-- A WLED component is accepted exactly if the device told what it can read. -/
theorem collectWled_accepted_iff :
    Accepted .wled (collectWled loads settings devices stamp).status
      (collectWled loads settings devices stamp).details ↔ WledTold loads settings devices := by
  unfold WledTold
  by_cases henabled : settings.wled.enabled = true
  case neg =>
    have hdisabled : settings.wled.enabled = false := Bool.eq_false_of_not_eq_true henabled
    refine iff_of_true ⟨[.wledDisabled], ?_⟩ fun h => absurd h henabled
    have hstatus : (collectWled loads settings devices stamp).status = .unavailable := by
      unfold collectWled
      rw [hdisabled]
      rfl
    have hdetails : (collectWled loads settings devices stamp).details =
        [("reason_code", .str "wled_disabled")] := by
      unfold collectWled
      rw [hdisabled]
      rfl
    rw [hstatus, hdetails]
    decide +kernel
  case pos =>
    rw [forall_prop_of_true henabled]
    obtain ⟨hstatus, hdetails⟩ : _ ∧ (collectWled loads settings devices stamp).details = _ :=
      collectWled_enabled henabled
    have hinfo : (validateWled loads settings.wled settings.zones devices.fetchInfo
        none).reasonCode ∈ wledInfoReasons ↔
          ¬Unexplained loads wledInfoReasons (infoFetched settings devices) :=
      validateWled_enabled_iff henabled readWledInfo_closed (List.Subset.refl _)
    have hstate : (fetchWledState loads settings.wled devices.fetchState).2 ∈ wledStateReasons ↔
        ¬Unexplained loads wledStateReasons (stateFetched settings devices) := fetchWledState_iff
    rw [← hinfo, ← hstate]
    unfold Accepted
    simp only [normalizeComponentReason_eq]
    rw [hdetails]
    refine (normalizeWled_accepts_iff settings (fetchWledState loads settings.wled
      devices.fetchState).1 _).trans ?_
    refine and_congr_right fun hinfoKnown => and_congr_right fun hstateKnown => ?_
    rw [hstatus]
    exact wledSummary_agrees_iff hinfoKnown hstateKnown (infoStatus_eq henabled)
      (infoStatus_pretended henabled) stateStatus_eq stateStatus_pretended

end Wled

/-! ## HyperHDR -/

section Hyperhdr

variable {loads : Loads} {upper : PyText → PyText} {settings : CollectorSettings}
  {devices : Devices} {stamp : Stamp}

/-- Server information that was read was received. -/
theorem readHyperhdrServerInfo_received {payload : List (PyText × JsonDocument)}
    {info : HyperHDRServerInfo} (h : readHyperhdrServerInfo upper payload = .ok info) :
    info.serverInfoReceived = true := by
  unfold readHyperhdrServerInfo at h
  split at h
  · cases h
  · cases h
  · dsimp only at h
    split at h
    · split at h
      · cases h
      · exact Except.ok.inj h ▸ rfl
    · cases h

/-- The details of a validation that gave no server information. -/
def emptyHyperhdrDetails (reason : String) : Details :=
  [("reason_code", .str reason), ("server_info_received", .bool false),
    ("hdr_mode_enabled", .none), ("instance_running", .none), ("grabber_active", .none),
    ("led_output_active", .none)]

/-- The collector and the normalizer derive the same status of a failure. -/
theorem normalizeHyperhdr_failure : ∀ reason ∈ hyperhdrFailures,
    normalizeHyperhdr (networkFailureStatus reason).value (emptyHyperhdrDetails reason) =
      .ok (.accepted (hyperhdrMap reason).toList) := by
  decide +kernel

/-- Without server information a reason that is no failure is refused. -/
theorem normalizeHyperhdr_refused {reason : String} (hunknown : reason ∉ hyperhdrFailures) :
    ∃ code, normalizeHyperhdr (networkFailureStatus reason).value (emptyHyperhdrDetails reason) =
      rejected code := by
  by_cases hcodes : reason = "hyperhdr_disabled" ∨ reason = "validated"
  case pos =>
    -- the history expects a disabled device to be unavailable, and a validated one to be received
    rcases hcodes with rfl | rfl
    · exact ⟨.inconsistentSnapshot, by decide +kernel⟩
    · exact ⟨.inconsistentSnapshot, by decide +kernel⟩
  case neg =>
    refine ⟨.unknownValue, ?_⟩
    have hkeys : (emptyHyperhdrDetails reason).keys = hyperhdrDetailKeys := rfl
    have hfailed : (emptyHyperhdrDetails reason).isCollectorFailed = false := by
      unfold Details.isCollectorFailed
      rw [hasKeys_of_keys hkeys]
      rfl
    unfold normalizeHyperhdr
    rw [hfailed, hasKeys_of_keys hkeys, if_neg Bool.false_ne_true, if_neg (by decide)]
    have hreason : (emptyHyperhdrDetails reason).get "reason_code" = .str reason := rfl
    rw [hreason]
    dsimp only
    have hnone : ¬(reason = "hyperhdr_disabled" ∨ reason = "validated" ∨
        reason ∈ hyperhdrFailures) := by
      rw [← or_assoc]
      exact not_or.mpr ⟨hcodes, hunknown⟩
    have hflags : (!((emptyHyperhdrDetails reason).get "server_info_received").isFlag ||
        hyperhdrFlagKeys.any fun k => !((emptyHyperhdrDetails reason).get k).isNone &&
          !((emptyHyperhdrDetails reason).get k).isFlag) = false := rfl
    rw [hflags, if_neg Bool.false_ne_true, if_pos hnone]

/-- The details of server information with these states. -/
def receivedDetails (hdr running grabber output : Option Bool) : Details :=
  [("reason_code", .str "validated"), ("server_info_received", .bool true),
    ("hdr_mode_enabled", detail .bool hdr), ("instance_running", detail .bool running),
    ("grabber_active", detail .bool grabber), ("led_output_active", detail .bool output)]

/-- The status of a server that reports these states. -/
def receivedStatus (running grabber output : Option Bool) : HealthHistoryStatus :=
  if running = some false ∨ grabber = some false ∨ output = some false then .degraded else .healthy

/-- Server information is accepted exactly when it reports all three states. -/
theorem normalizeHyperhdr_received : ∀ hdr running grabber output : Option Bool,
    normalizeHyperhdr (receivedStatus running grabber output).value
        (receivedDetails hdr running grabber output) =
      if running.isSome && grabber.isSome && output.isSome then
        .ok (.accepted (
          let reasons := (if running = some false then [.hyperhdrInstanceInactive] else []) ++
            (if grabber = some false then [.hyperhdrVideoGrabberInactive] else []) ++
            (if output = some false then [.hyperhdrLedOutputInactive] else [])
          if reasons = [] then [.hyperhdrHealthy] else reasons))
      else rejected .inconsistentSnapshot := by
  decide +kernel

/-- What a collector reports, from the answer of the server. -/
inductive HyperhdrObserved (loads : Loads) (upper : PyText → PyText) (settings : CollectorSettings)
    (fetched : Except (FetchError HyperHDRTransportError) (List UInt8)) :
    HealthHistoryStatus → Details → Prop
  | disabled (hdisabled : settings.hyperhdr.enabled = false) :
      HyperhdrObserved loads upper settings fetched .unavailable
        (emptyHyperhdrDetails "hyperhdr_disabled")
  | unreached (henabled : settings.hyperhdr.enabled = true) (e : HyperHDRTransportError)
      (hfetched : fetched = .error (.transport e)) :
      HyperhdrObserved loads upper settings fetched (networkFailureStatus e.reasonCode)
        (emptyHyperhdrDetails e.reasonCode)
  | refused (henabled : settings.hyperhdr.enabled = true) (reason : String)
      (hparsed : parseFetched fetched (parseHyperhdrServerInfo loads upper) =
        .error (.valueError reason)) :
      HyperhdrObserved loads upper settings fetched (networkFailureStatus reason)
        (emptyHyperhdrDetails reason)
  | received (henabled : settings.hyperhdr.enabled = true) (info : HyperHDRServerInfo)
      (hparsed : parseFetched fetched (parseHyperhdrServerInfo loads upper) = .ok info) :
      HyperhdrObserved loads upper settings fetched
        (receivedStatus info.instanceRunning info.grabberActive info.ledOutputActive)
        (receivedDetails info.hdrModeEnabled info.instanceRunning info.grabberActive
          info.ledOutputActive)

/-- The parts that are switched off make the status. -/
theorem inactiveParts_eq_nil_iff : ∀ report : HyperHDRValidationReport,
    inactiveParts report = [] ↔ receivedStatus report.instanceRunning report.grabberActive
      report.ledOutputActive = .healthy := by
  intro report
  have hall : ∀ running grabber output : Option Bool,
      (([("instance", running), ("grabber", grabber), ("LED output", output)].filter
        fun part => part.2 = some false).map Prod.fst = ([] : List String)) ↔
          receivedStatus running grabber output = .healthy := by
    decide +kernel
  exact hall _ _ _

/-- What the HyperHDR collector makes of an answer. -/
theorem collectHyperhdr_observed :
    HyperhdrObserved loads upper settings (devices.fetchServerInfo
      (hostOrEmpty settings.hyperhdr.host) (portOr 8090 settings.hyperhdr.port)
      settings.hyperhdr.validationTimeoutSeconds)
      (collectHyperhdr loads upper settings devices stamp).status
      (collectHyperhdr loads upper settings devices stamp).details := by
  unfold collectHyperhdr validateHyperhdr
  cases henabled : settings.hyperhdr.enabled with
  | false => exact .disabled henabled
  | true =>
    rw [if_pos rfl, Option.getD_none]
    cases hfetched : devices.fetchServerInfo (hostOrEmpty settings.hyperhdr.host)
        (portOr 8090 settings.hyperhdr.port) settings.hyperhdr.validationTimeoutSeconds with
    | error e =>
      cases e with
      | transport e => exact .unreached henabled e rfl
      | valueError reason => exact .refused henabled reason rfl
    | ok body =>
      cases hparse : parseHyperhdrServerInfo loads upper body with
      | error reason =>
        have hparsed : parseFetched (.ok body : Except (FetchError HyperHDRTransportError) _)
            (parseHyperhdrServerInfo loads upper) = .error (.valueError reason) := by
          show (parseHyperhdrServerInfo loads upper body).mapError _ = _
          rw [hparse]
          rfl
        rw [hparsed]
        exact .refused henabled reason hparsed
      | ok info =>
        have hparsed : parseFetched (.ok body : Except (FetchError HyperHDRTransportError) _)
            (parseHyperhdrServerInfo loads upper) = .ok info := by
          show (parseHyperhdrServerInfo loads upper body).mapError _ = _
          rw [hparse]
          rfl
        rw [hparsed]
        dsimp only
        obtain ⟨payload, -, hread⟩ := bind_eq_ok.mp hparse
        obtain ⟨received, hdr, running, grabber, output, names, ambiguous⟩ := info
        obtain rfl : received = true := readHyperhdrServerInfo_received hread
        have hobserved : HyperhdrObserved loads upper settings (.ok body)
            (receivedStatus running grabber output) (receivedDetails hdr running grabber output) :=
          .received henabled _ hparsed
        -- the status says whether a part is inactive, as the message does
        split
        case isTrue hinactive =>
          have hstatus : receivedStatus running grabber output = .degraded := by
            have hnot := mt (inactiveParts_eq_nil_iff _).mpr hinactive
            unfold receivedStatus at hnot ⊢
            split
            case isTrue => rfl
            case isFalse hnone => exact absurd (if_neg hnone) hnot
          exact hstatus ▸ hobserved
        case isFalse hactive =>
          have hstatus : receivedStatus running grabber output = .healthy :=
            (inactiveParts_eq_nil_iff _).mp (not_not.mp hactive)
          exact hstatus ▸ hobserved

variable (loads upper settings devices)

/-- The fetch from an enabled server leaves no reason that is not a failure, and a document that was
read says whether the instance runs and whether the grabber and the LED output are active. -/
def SaysStates (fetched : Except (FetchError HyperHDRTransportError) (List UInt8)) : Prop :=
  settings.hyperhdr.enabled = true →
    ¬Unexplained loads hyperhdrFailures fetched ∧
    ∀ info, parseFetched fetched (parseHyperhdrServerInfo loads upper) = .ok info →
      (info.instanceRunning.isSome && info.grabberActive.isSome && info.ledOutputActive.isSome) =
        true

/-- What the server information request of a sweep gives. -/
def serverFetched : Except (FetchError HyperHDRTransportError) (List UInt8) :=
  devices.fetchServerInfo (hostOrEmpty settings.hyperhdr.host) (portOr 8090 settings.hyperhdr.port)
    settings.hyperhdr.validationTimeoutSeconds

/-- HyperHDR reported its states. -/
def HyperhdrTold : Prop := SaysStates loads upper settings (serverFetched settings devices)

variable {loads upper settings devices}

/-- It is accepted exactly if the answer says what can be read. -/
theorem HyperhdrObserved.accepted_iff
    {fetched : Except (FetchError HyperHDRTransportError) (List UInt8)}
    {status : HealthHistoryStatus} {details : Details}
    (h : HyperhdrObserved loads upper settings fetched status details) :
    Accepted .hyperhdr status details ↔ SaysStates loads upper settings fetched := by
  unfold SaysStates Accepted
  rw [normalizeComponentReason_eq]
  show (∃ reasons, normalizeHyperhdr status.value details = .ok (.accepted reasons)) ↔ _
  -- only an answer that was parsed can lack a state, only a raised text can be unknown
  cases h with
  | disabled hdisabled =>
    refine iff_of_true ⟨[.hyperhdrDisabled], by decide +kernel⟩ fun henabled => ?_
    rw [hdisabled] at henabled
    cases henabled
  | unreached henabled e hfetched =>
    rw [hfetched]
    refine iff_of_true ⟨_, normalizeHyperhdr_failure _ e.reasonCode_mem⟩ fun _ => ?_
    exact ⟨not_unexplained_transport e, fun info hinfo => by cases hinfo⟩
  | refused henabled reason hparsed =>
    have hknown : reason ∈ hyperhdrFailures ↔ ¬Unexplained loads hyperhdrFailures fetched :=
      (readHyperhdrServerInfo_closed upper).parseFetched_iff hparsed
    constructor
    · rintro ⟨reasons, haccepted⟩ -
      refine ⟨hknown.mp (not_not.mp fun hunknown => ?_), fun info hinfo => ?_⟩
      · obtain ⟨code, hrejected⟩ := normalizeHyperhdr_refused hunknown
        rw [hrejected] at haccepted
        exact rejected_ne_accepted haccepted
      · rw [hparsed] at hinfo
        cases hinfo
    · intro hstates
      exact ⟨_, normalizeHyperhdr_failure _ (hknown.mpr (hstates henabled).1)⟩
  | received henabled info hparsed =>
    rw [normalizeHyperhdr_received]
    have hstates : (settings.hyperhdr.enabled = true →
        ¬Unexplained loads hyperhdrFailures fetched ∧
        ∀ info', parseFetched fetched (parseHyperhdrServerInfo loads upper) = .ok info' →
          (info'.instanceRunning.isSome && info'.grabberActive.isSome &&
            info'.ledOutputActive.isSome) = true) ↔
        (info.instanceRunning.isSome && info.grabberActive.isSome && info.ledOutputActive.isSome) =
          true := by
      constructor
      · intro h
        exact (h henabled).2 info hparsed
      · intro hstates _
        refine ⟨not_unexplained_of_parsed hparsed, fun info' hinfo => ?_⟩
        obtain rfl := Except.ok.inj (hparsed.symm.trans hinfo)
        exact hstates
    rw [hstates]
    split
    case isTrue hstates => exact iff_of_true ⟨_, rfl⟩ hstates
    case isFalse hstates =>
      exact iff_of_false (fun ⟨_, h⟩ => rejected_ne_accepted h) hstates

theorem collectHyperhdr_accepted_iff :
    Accepted .hyperhdr (collectHyperhdr loads upper settings devices stamp).status
        (collectHyperhdr loads upper settings devices stamp).details ↔
      HyperhdrTold loads upper settings devices :=
  collectHyperhdr_observed.accepted_iff

end Hyperhdr

/-! ## The capture device -/

section Capture

variable {settings : CollectorSettings} {devices : Devices} {stamp : Stamp}

/-- The status that a reason of the capture device stands for. -/
def captureStatusOf (reason : String) : HealthHistoryStatus :=
  if reason = "validated" then .healthy
  else if reason ∈ unavailableCaptureReasons then .unavailable
  else .degraded

/-- The two tables of capture statuses agree. -/
theorem captureStatusOf_value (reason : String) :
    (captureStatusOf reason).value = captureBaseStatus reason := by
  unfold captureStatusOf captureBaseStatus
  split
  · rfl
  · show (if reason ∈ unavailableCaptureReasons then _ else _ : HealthHistoryStatus).value =
      if reason ∈ unavailableCaptureReasons then _ else _
    split <;> rfl

/-- What the collector observes of the device itself. -/
structure CaptureObserved (c : ObservedHealth) : Prop where
  name : c.name = "capture"
  observed : ∃ report : CaptureDeviceValidationReport, report.reasonCode ∈ captureReasons ∧
    c.status = captureStatusOf report.reasonCode ∧ c.details = captureDetails report

/-- What the capture collector makes of its probe. -/
theorem collectCapture_observed : CaptureObserved (collectCapture settings devices stamp) := by
  have hknown := validateCaptureDevice_known settings.captureDevice devices.platform devices.capture
  have hhealthy := validateCaptureDevice_healthy_iff settings.captureDevice devices.platform
    (probeDevice devices.capture)
  unfold collectCapture
  dsimp only
  split
  case isTrue hstate =>
    refine ⟨rfl, _, hknown, ?_, rfl⟩
    rw [hhealthy.mp hstate]
    rfl
  case isFalse hstate =>
    refine ⟨rfl, _, hknown, ?_, rfl⟩
    unfold captureStatusOf
    rw [if_neg (mt hhealthy.mpr hstate)]
    rfl

/-- The device and the grabber give the reasons, once the activity is known. -/
theorem normalizeCapture_accepts {details : Details} (activity : DetailValue) {reason : String}
    {status : HealthHistoryStatus} (hfailed : details.isCollectorFailed = false)
    (hactivity : captureActivity details = .ok activity)
    (hreason : details.get "reason_code" = .str reason) (hknown : reason ∈ captureReasons)
    (hstatus : status.value =
      if captureBaseStatus reason ≠ "unavailable" ∧ activity.isBool true = false then "degraded"
      else captureBaseStatus reason) :
    ∃ rs, normalizeCapture status.value details = .ok (.accepted rs) := by
  unfold normalizeCapture
  rw [hfailed, if_neg Bool.false_ne_true, hactivity, hreason]
  dsimp only
  rw [if_neg (not_not.mpr hknown), if_neg (not_not.mpr hstatus)]
  exact accepted_acceptAll (captureReasons_length reason hknown _ (activityReasons_mem _ _))

theorem CaptureObserved.accepted {c : ObservedHealth} (h : CaptureObserved c) :
    Accepted .capture c.status c.details := by
  obtain ⟨-, report, hknown, hstatus, hdetails⟩ := h
  have hkeys : (captureDetails report).keys = captureDetailKeys := rfl
  unfold Accepted
  rw [normalizeComponentReason_eq, hdetails]
  refine normalizeCapture_accepts (.bool true) ?_ ?_ rfl hknown ?_
  · unfold Details.isCollectorFailed
    rw [hasKeys_of_keys hkeys]
    rfl
  · unfold captureActivity
    rw [hasKeys_of_keys hkeys, if_pos (by decide)]
  · rw [hstatus, captureStatusOf_value, if_neg (fun h => Bool.noConfusion h.2)]

/-- With the grabber's activity the device is still accepted. -/
theorem CaptureObserved.accepted_withActivity {c : ObservedHealth} (h : CaptureObserved c)
    (havailable : c.status ≠ .unavailable) (active : Option Bool) :
    Accepted .capture (withActivity c (detail .bool active)).status
      (withActivity c (detail .bool active)).details := by
  obtain ⟨-, report, hknown, hstatus, hdetails⟩ := h
  have hbase : captureBaseStatus report.reasonCode ≠ "unavailable" := by
    intro hunavailable
    rw [← captureStatusOf_value, ← hstatus] at hunavailable
    exact havailable (value_eq_unavailable hunavailable)
  have hboth : (withActivity c (detail .bool active)).details = captureDetails report ++
      [("activity_source", .str "HyperHDR serverinfo"), ("grabber_active", detail .bool active)] := by
    unfold withActivity
    rw [hdetails]
    rcases active with _ | _ | _ <;> rfl
  have hkeys : (captureDetails report ++ [("activity_source", DetailValue.str "HyperHDR serverinfo"),
      ("grabber_active", detail DetailValue.bool active)] : Details).keys =
        captureDetailKeys ++ captureActivityKeys := rfl
  unfold Accepted
  rw [normalizeComponentReason_eq, hboth]
  refine normalizeCapture_accepts (detail .bool active) ?_ ?_ rfl hknown ?_
  · unfold Details.isCollectorFailed
    rw [hasKeys_of_keys hkeys]
    rfl
  · unfold captureActivity
    rw [hasKeys_of_keys hkeys, if_neg (by decide), hasKeys_of_keys hkeys, if_pos (by decide)]
    rcases active with _ | _ | _ <;> rfl
  · -- the collector leaves the status alone when the grabber is active
    rcases active with _ | _ | _
    · rw [if_pos ⟨hbase, rfl⟩]
      rfl
    · rw [if_pos ⟨hbase, rfl⟩]
      rfl
    · rw [if_neg (fun h => Bool.noConfusion h.2), ← captureStatusOf_value, ← hstatus]
      rfl

end Capture

/-! ## The host -/

/-- The Pi's component is always accepted. -/
theorem collectPi_accepted (settings : CollectorSettings) (devices : Devices) (stamp : Stamp)
    (rounded : FloatValue → FloatValue) :
    Accepted .raspberryPi (collectPi settings devices stamp rounded).status
      (collectPi settings devices stamp rounded).details := by
  have hdetails : (collectPi settings devices stamp rounded).details =
      hostDetails settings rounded devices.host := rfl
  have hkeys : (hostDetails settings rounded devices.host).keys = piDetailKeys := rfl
  have hfloat : ∀ value : Option FloatValue,
      (!(detail .float value).isNone && !(detail .float value).isNumber) = false := by
    rintro (_ | _) <;> rfl
  have hint : ∀ value : Option Int,
      (!(detail .int value).isNone && !(detail .int value).isNumber) = false := by
    rintro (_ | _) <;> rfl
  have hnumbers : ((hostDetails settings rounded devices.host).any
      fun item => !item.2.isNone && !item.2.isNumber) = false := by
    unfold hostDetails
    simp only [List.any_cons, List.any_nil, hfloat, hint, Bool.or_false]
    rfl
  have hfailed : (hostDetails settings rounded devices.host).isCollectorFailed = false := by
    unfold Details.isCollectorFailed
    rw [hasKeys_of_keys hkeys]
    rfl
  unfold Accepted
  rw [normalizeComponentReason_eq, hdetails]
  show ∃ rs, normalizePi _ _ = .ok (.accepted rs)
  unfold normalizePi
  rw [hfailed, if_neg Bool.false_ne_true, hasKeys_of_keys hkeys, if_neg (by decide), hnumbers,
    if_neg Bool.false_ne_true]
  cases (collectPi settings devices stamp rounded).status with
  | healthy => exact ⟨[.raspberryPiHealthy], rfl⟩
  | degraded => exact ⟨[.raspberryPiDegraded], rfl⟩
  | unavailable => exact ⟨[.raspberryPiUnavailable], rfl⟩

end Aurora.Dashboard
