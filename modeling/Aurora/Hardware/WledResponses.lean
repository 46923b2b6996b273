/-
  The read-only validation of a WLED device: its info and state documents, the parsers of the two,
  and the report that validation gives.

  A parser signals why a document is refused through the message of a `ValueError`, and the callers
  take that message for the reason code.  The parsers convert the two decoding errors of
  `json.loads` into fixed messages, but let the `ValueError` of a long integer literal through, and
  the callers take a `ValueError` of the fetch itself for one of the parser: `validateWled_iff` and
  `fetchWledState_iff` say that these two alone leave an unknown reason.
-/
import Aurora.Lib.Loads
import Aurora.Hardware.Models
import Aurora.HealthHistory.Reasons

namespace Aurora.Hardware

open HealthHistory

/-! ## Settings and errors -/

/-- The settings of a lighting zone. -/
structure LightingZoneSettings where
  enabled : Bool
  ledCount : Option Int

/-- The settings of the lights. -/
structure WLEDSettings where
  enabled : Bool
  host : Option String
  port : Option Int
  validationTimeoutSeconds : ℚ
  expectedLedCount : Option Int

/-- The subclasses of `WLEDTransportError`, and itself. -/
inductive WLEDTransportError
  | transport
  | timeout
  | redirect
  | http
  | responseTooLarge
  deriving DecidableEq

/-- The reason code of a transport error. -/
def WLEDTransportError.reasonCode : WLEDTransportError → String
  | transport => "connection_failed"
  | timeout => "timeout"
  | redirect => "redirect_rejected"
  | http => "http_error"
  | responseTooLarge => "response_too_large"

/-- A message of a `ValueError`. -/
abbrev ValueError := String

/-- What a fetch may raise: an error that its transport declares, or a `ValueError`, such as the
`UnicodeError` of a host that cannot be encoded. -/
inductive FetchError (ε : Type)
  | transport (error : ε)
  | valueError (message : ValueError)

/-- A fetch from a host and a port, within a timeout. -/
abbrev Fetch (ε : Type) := String → Int → ℚ → Except (FetchError ε) (List UInt8)

/-- A fetch that raises the errors of its transport alone. -/
abbrev DeclaredFetch (ε : Type) := String → Int → ℚ → Except ε (List UInt8)

/-- A transport that raises nothing else. -/
def DeclaredFetch.lift {ε : Type} (fetch : DeclaredFetch ε) : Fetch ε :=
  fun host port timeout => (fetch host port timeout).mapError .transport

/-! ## The documents -/

/-- The mapping of a document, or the message of the `ValueError` the parser raises.  The error of a
long literal is not caught, and goes on with its own message. -/
def loadMapping (loads : Loads) (body : List UInt8) :
    Except ValueError (List (PyText × JsonDocument)) :=
  match loads body with
  | .error .unicodeDecodeError => .error "invalid_json"
  | .error .jsonDecodeError => .error "invalid_json"
  | .error (.digitLimit limit digits) => .error (digitLimitMessage limit digits)
  | .ok (.object fields) => .ok fields
  | .ok _ => .error "invalid_response"

/-- What an info response says. -/
structure WLEDDeviceInfo where
  firmwareVersion : PyText
  ledCount : Int
  uptimeSeconds : Option Int
  currentMilliamps : Option Int
  currentLimitMilliamps : Option Int

/-- What a state response says. -/
structure WLEDState where
  outputOn : Bool
  brightness : Int

/-- `_optional_nonnegative_int` -/
def optionalNonnegativeInt (value : JsonDocument) : Option Int :=
  value.int?.filter fun n => 0 ≤ n

/-- The fields of an info response. -/
def readWledInfo (payload : List (PyText × JsonDocument)) : Except ValueError WLEDDeviceInfo :=
  match JsonDocument.get payload "ver", JsonDocument.get payload "leds" with
  | .text version, .object leds =>
    match (JsonDocument.get leds "count").int? with
    | some count =>
      if version = [] ∨ count ≤ 0 then .error "invalid_response"
      else
        .ok {
          firmwareVersion := version
          ledCount := count
          uptimeSeconds := optionalNonnegativeInt (JsonDocument.get payload "uptime")
          currentMilliamps := optionalNonnegativeInt (JsonDocument.get leds "pwr")
          currentLimitMilliamps := optionalNonnegativeInt (JsonDocument.get leds "maxpwr") }
    | none => .error "invalid_response"
  | _, _ => .error "invalid_response"

/-- `parse_wled_info` -/
def parseWledInfo (loads : Loads) (body : List UInt8) : Except ValueError WLEDDeviceInfo :=
  loadMapping loads body >>= readWledInfo

/-- The fields of a state response. -/
def readWledState (payload : List (PyText × JsonDocument)) : Except ValueError WLEDState :=
  match (JsonDocument.get payload "on").bool?, (JsonDocument.get payload "bri").int? with
  | some outputOn, some brightness =>
    if 0 ≤ brightness ∧ brightness ≤ 255 then .ok ⟨outputOn, brightness⟩
    else .error "invalid_response"
  | _, _ => .error "invalid_response"

/-- `parse_wled_state` -/
def parseWledState (loads : Loads) (body : List UInt8) : Except ValueError WLEDState :=
  loadMapping loads body >>= readWledState

/-- Parse what was fetched.  One handler catches the `ValueError`s of the fetch and of the parser. -/
def parseFetched {ε α : Type} (fetched : Except (FetchError ε) (List UInt8))
    (parse : List UInt8 → Except ValueError α) : Except (FetchError ε) α :=
  match fetched with
  | .error e => .error e
  | .ok body => (parse body).mapError .valueError

/-! ## Validation -/

/-- The LEDs of the enabled zones, if each of them has a count. -/
def expectedLedCount (zones : List LightingZoneSettings) : Option Int :=
  let enabled := zones.filter (·.enabled)
  if enabled.isEmpty || enabled.any (·.ledCount.isNone) then none
  else some (enabled.filterMap (·.ledCount)).sum

/-- The report of the lights. -/
structure WLEDValidationReport where
  componentId : ComponentId
  state : ComponentHealthState
  reasonCode : String
  message : String
  firmwareVersion : Option PyText := none
  reportedLedCount : Option Int := none
  expectedLedCount : Option Int := none
  ledCountMatches : Option Bool := none
  uptimeSeconds : Option Int := none
  currentMilliamps : Option Int := none
  currentLimitMilliamps : Option Int := none

/-- The host of an endpoint, empty when there is none. -/
def hostOrEmpty (host : Option String) : String := host.getD ""

/-- The port of an endpoint; zero counts as none. -/
def portOr (default : Int) (port : Option Int) : Int :=
  if port = none ∨ port = some 0 then default else port.getD default

/-- `validate_wled` -/
def validateWled (loads : Loads) (settings : WLEDSettings) (zones : List LightingZoneSettings)
    (fetchInfo : Fetch WLEDTransportError) (timeoutSeconds : Option ℚ) : WLEDValidationReport :=
  if settings.enabled then
    match parseFetched (fetchInfo (hostOrEmpty settings.host) (portOr 80 settings.port)
        (timeoutSeconds.getD settings.validationTimeoutSeconds)) (parseWledInfo loads) with
    | .error (.transport e) =>
      { componentId := .wled
        state := .unhealthy
        reasonCode := e.reasonCode
        message := "Read-only WLED validation failed." }
    | .error (.valueError reason) =>
      { componentId := .wled
        state := .unhealthy
        reasonCode := reason
        message := "WLED returned an invalid information response." }
    | .ok info =>
      let expected := settings.expectedLedCount.or (expectedLedCount zones)
      let matched := expected.map fun count => decide (info.ledCount = count)
      { componentId := .wled
        state := if matched = some false then .degraded else .healthy
        reasonCode := if matched = some false then "led_count_mismatch" else "validated"
        message :=
          if matched = some false then "WLED LED count does not match configured expectations."
          else "Read-only WLED validation succeeded."
        firmwareVersion := some info.firmwareVersion
        reportedLedCount := some info.ledCount
        expectedLedCount := expected
        ledCountMatches := matched
        uptimeSeconds := info.uptimeSeconds
        currentMilliamps := info.currentMilliamps
        currentLimitMilliamps := info.currentLimitMilliamps }
  else
    { componentId := .wled
      state := .disabled
      reasonCode := "wled_disabled"
      message := "WLED is disabled." }

/-- `_fetch_wled_state`: the state, if it was read, and a reason code. -/
def fetchWledState (loads : Loads) (settings : WLEDSettings)
    (fetchState : Fetch WLEDTransportError) : Option WLEDState × String :=
  match parseFetched (fetchState (hostOrEmpty settings.host) (portOr 80 settings.port)
      settings.validationTimeoutSeconds) (parseWledState loads) with
  | .error (.transport e) => (none, e.reasonCode)
  | .error (.valueError reason) => (none, reason)
  | .ok state => (some state, "validated")

/-! ## Reasons -/

/-- A body holds an integer literal that is too long to convert. -/
def HoldsLongInteger (loads : Loads) (body : List UInt8) : Prop :=
  ∃ limit digits, loads body = .error (.digitLimit limit digits)

/-- A fetch gives such a body. -/
def FetchesLongInteger {ε : Type} (loads : Loads) (fetched : Except ε (List UInt8)) : Prop :=
  ∃ body, fetched = .ok body ∧ HoldsLongInteger loads body

variable {loads : Loads} {body : List UInt8} {reason : String}

/-- A fetch whose reason is no code of a list: its body holds an integer literal that is too long,
or it raises a `ValueError` with another message. -/
def Unexplained {ε : Type} (loads : Loads) (codes : List String)
    (fetched : Except (FetchError ε) (List UInt8)) : Prop :=
  FetchesLongInteger loads fetched ∨
    ∃ message, fetched = .error (.valueError message) ∧ message ∉ codes

section Fetched

variable {ε : Type} {codes : List String}

/-- A body holds the long integer or not. -/
theorem fetchesLongInteger_ok :
    FetchesLongInteger loads (.ok body : Except ε (List UInt8)) ↔ HoldsLongInteger loads body := by
  constructor
  · rintro ⟨fetched, hbody, hlong⟩
    obtain rfl := Except.ok.inj hbody
    exact hlong
  · exact fun hlong => ⟨body, rfl, hlong⟩

theorem not_fetchesLongInteger_error (e : ε) :
    ¬FetchesLongInteger loads (.error e : Except ε (List UInt8)) := by
  rintro ⟨fetched, hbody, -⟩
  cases hbody

/-- A body is unexplained exactly if it holds one. -/
theorem unexplained_ok :
    Unexplained loads codes (.ok body : Except (FetchError ε) (List UInt8)) ↔
      HoldsLongInteger loads body := by
  refine Iff.trans (or_iff_left ?_) fetchesLongInteger_ok
  rintro ⟨message, herror, -⟩
  cases herror

/-- A ValueError is unexplained unless its text is one of the codes. -/
theorem unexplained_valueError {message : ValueError} :
    Unexplained loads codes (.error (.valueError message) : Except (FetchError ε) (List UInt8)) ↔
      message ∉ codes := by
  constructor
  · rintro (hlong | ⟨other, herror, hother⟩)
    · exact absurd hlong (not_fetchesLongInteger_error _)
    · cases herror
      exact hother
  · exact fun hmessage => .inr ⟨message, rfl, hmessage⟩

theorem not_unexplained_transport (e : ε) :
    ¬Unexplained loads codes (.error (.transport e) : Except (FetchError ε) (List UInt8)) := by
  rintro (hlong | ⟨message, herror, -⟩)
  · exact not_fetchesLongInteger_error _ hlong
  · cases herror

/-- A fetch that raises declared errors alone leaves an unknown reason for a long integer only. -/
theorem unexplained_lift (fetch : DeclaredFetch ε) (host : String) (port : Int) (timeout : ℚ) :
    Unexplained loads codes (fetch.lift host port timeout) ↔
      FetchesLongInteger loads (fetch host port timeout) := by
  unfold DeclaredFetch.lift
  cases fetch host port timeout with
  | error e =>
    exact iff_of_false (not_unexplained_transport e) (not_fetchesLongInteger_error e)
  | ok body => exact unexplained_ok.trans fetchesLongInteger_ok.symm

end Fetched

/-- The reasons for a body that is no mapping. -/
theorem loadMapping_error (h : loadMapping loads body = .error reason) :
    (¬HoldsLongInteger loads body ∧ (reason = "invalid_json" ∨ reason = "invalid_response")) ∨
      HoldsLongInteger loads body ∧ ∃ limit digits, reason = digitLimitMessage limit digits := by
  unfold loadMapping at h
  unfold HoldsLongInteger
  split at h
  case h_1 hloads =>
    rw [hloads]
    exact .inl ⟨by simp, .inl (Except.error.inj h).symm⟩
  case h_2 hloads =>
    rw [hloads]
    exact .inl ⟨by simp, .inl (Except.error.inj h).symm⟩
  case h_3 limit digits hloads =>
    exact .inr ⟨⟨limit, digits, hloads⟩, limit, digits, (Except.error.inj h).symm⟩
  case h_4 => cases h
  case h_5 document hother hloads =>
    rw [hloads]
    exact .inl ⟨by simp, .inr (Except.error.inj h).symm⟩

/-- A body with a long literal is no mapping. -/
theorem loadMapping_of_longInteger (h : HoldsLongInteger loads body) :
    ∃ limit digits, loadMapping loads body = .error (digitLimitMessage limit digits) := by
  obtain ⟨limit, digits, hloads⟩ := h
  refine ⟨limit, digits, ?_⟩
  unfold loadMapping
  rw [hloads]

/-- A list of reason codes that a parser and its reader keep to.  No code starts like the message
of a long literal. -/
structure Closed {α : Type} (codes : List String)
    (read : List (PyText × JsonDocument) → Except ValueError α) : Prop where
  json : "invalid_json" ∈ codes
  response : "invalid_response" ∈ codes
  read : ∀ payload reason, read payload = .error reason → reason ∈ codes
  plain : codes.all (fun code => code.toList.head? ≠ some 'E') = true

/-- What a parser gives as the reason is a known code unless the body holds a long literal. -/
theorem Closed.parse_iff {α : Type} {codes : List String}
    {read : List (PyText × JsonDocument) → Except ValueError α} (hclosed : Closed codes read)
    (h : (loadMapping loads body >>= read) = .error reason) :
    reason ∈ codes ↔ ¬HoldsLongInteger loads body := by
  cases hload : loadMapping loads body with
  | error e =>
    rw [hload] at h
    obtain rfl : e = reason := Except.error.inj h
    rcases loadMapping_error hload with ⟨hshort, hfixed⟩ | ⟨hlong, limit, digits, rfl⟩
    · refine iff_of_true ?_ hshort
      rcases hfixed with rfl | rfl
      · exact hclosed.json
      · exact hclosed.response
    · refine iff_of_false (fun hmem => ?_) (not_not.mpr hlong)
      have hplain := of_decide_eq_true (List.all_eq_true.mp hclosed.plain _ hmem)
      exact digitLimitMessage_ne hplain limit digits rfl
  | ok payload =>
    rw [hload] at h
    refine iff_of_true (hclosed.read payload reason h) fun hlong => ?_
    obtain ⟨limit, digits, herror⟩ := loadMapping_of_longInteger hlong
    rw [hload] at herror
    cases herror

/-- A parser that succeeds has read no long literal. -/
theorem not_longInteger_of_parse {α : Type} {value : α}
    {read : List (PyText × JsonDocument) → Except ValueError α}
    (h : (loadMapping loads body >>= read) = .ok value) : ¬HoldsLongInteger loads body := by
  intro hlong
  obtain ⟨limit, digits, herror⟩ := loadMapping_of_longInteger hlong
  rw [herror] at h
  cases h

/-- A list of codes that has the fixed ones is closed under a reader that knows one error. -/
theorem closed_of_response {α : Type} {codes : List String}
    {read : List (PyText × JsonDocument) → Except ValueError α}
    (hread : ∀ payload reason, read payload = .error reason → reason = "invalid_response")
    (hjson : "invalid_json" ∈ codes) (hresponse : "invalid_response" ∈ codes)
    (hplain : codes.all (fun code => code.toList.head? ≠ some 'E') = true) : Closed codes read where
  json := hjson
  response := hresponse
  read payload reason h := hread payload reason h ▸ hresponse
  plain := hplain

/-- More codes are closed under the same reader, as long as none of them starts like the message. -/
theorem Closed.mono {α : Type} {codes more : List String}
    {read : List (PyText × JsonDocument) → Except ValueError α} (hclosed : Closed codes read)
    (hsub : codes ⊆ more)
    (hplain : more.all (fun code => code.toList.head? ≠ some 'E') = true) : Closed more read where
  json := hsub hclosed.json
  response := hsub hclosed.response
  read payload reason h := hsub (hclosed.read payload reason h)
  plain := hplain

section Parsed

variable {ε α : Type} {codes : List String} {fetched : Except (FetchError ε) (List UInt8)}
  {read : List (PyText × JsonDocument) → Except ValueError α}

/-- A declared error is the transport's. -/
theorem parseFetched_transport {parse : List UInt8 → Except ValueError α} {e : ε}
    (h : parseFetched fetched parse = .error (.transport e)) : fetched = .error (.transport e) := by
  unfold parseFetched at h
  split at h
  case h_1 => exact congrArg Except.error (Except.error.inj h)
  case h_2 fetchedBody =>
    cases hparse : parse fetchedBody with
    | error reason => rw [hparse] at h; cases h
    | ok value => rw [hparse] at h; cases h

/-- A `ValueError` is the fetch's or the parser's. -/
theorem parseFetched_valueError {parse : List UInt8 → Except ValueError α}
    (h : parseFetched fetched parse = .error (.valueError reason)) :
    fetched = .error (.valueError reason) ∨ ∃ body, fetched = .ok body ∧ parse body = .error reason := by
  unfold parseFetched at h
  split at h
  case h_1 => exact .inl (congrArg Except.error (Except.error.inj h))
  case h_2 fetchedBody =>
    cases hparse : parse fetchedBody with
    | error message =>
      rw [hparse] at h
      obtain rfl : message = reason := FetchError.valueError.inj (Except.error.inj h)
      exact .inr ⟨fetchedBody, rfl, hparse⟩
    | ok value => rw [hparse] at h; cases h

/-- A value is parsed from a body. -/
theorem parseFetched_ok {parse : List UInt8 → Except ValueError α} {value : α}
    (h : parseFetched fetched parse = .ok value) :
    ∃ body, fetched = .ok body ∧ parse body = .ok value := by
  unfold parseFetched at h
  split at h
  case h_1 => cases h
  case h_2 fetchedBody =>
    cases hparse : parse fetchedBody with
    | error message => rw [hparse] at h; cases h
    | ok parsed =>
      rw [hparse] at h
      obtain rfl : parsed = value := Except.ok.inj h
      exact ⟨fetchedBody, rfl, hparse⟩

/-- The message of a `ValueError` is a known code unless the fetch leaves an unknown reason. -/
theorem Closed.parseFetched_iff (hclosed : Closed codes read)
    (h : parseFetched fetched (fun body => loadMapping loads body >>= read) =
      .error (.valueError reason)) : reason ∈ codes ↔ ¬Unexplained loads codes fetched := by
  rcases parseFetched_valueError h with hraised | ⟨body, hbody, hparse⟩
  · rw [hraised, unexplained_valueError, not_not]
  · rw [hbody, unexplained_ok]
    exact hclosed.parse_iff hparse

/-- An error of the transport leaves no unknown reason. -/
theorem not_unexplained_of_transport {parse : List UInt8 → Except ValueError α} {e : ε}
    (h : parseFetched fetched parse = .error (.transport e)) : ¬Unexplained loads codes fetched := by
  rw [parseFetched_transport h]
  exact not_unexplained_transport e

/-- A document that was parsed leaves none either. -/
theorem not_unexplained_of_parsed {value : α}
    (h : parseFetched fetched (fun body => loadMapping loads body >>= read) = .ok value) :
    ¬Unexplained loads codes fetched := by
  obtain ⟨body, hbody, hparse⟩ := parseFetched_ok h
  rw [hbody, unexplained_ok]
  exact not_longInteger_of_parse hparse

end Parsed

/-- The codes that the normalizer knows for the info of a device, and the one of a disabled one. -/
def wledReasonCodes : List String := "wled_disabled" :: Reasons.wledInfoReasons

/-- Every transport error has one of the codes. -/
theorem WLEDTransportError.reasonCode_mem (e : WLEDTransportError) :
    e.reasonCode ∈ Reasons.wledFailures := by
  cases e <;> decide

/-- Every document that has the wrong form has one reason. -/
theorem readWledInfo_error {payload : List (PyText × JsonDocument)}
    (h : readWledInfo payload = .error reason) : reason = "invalid_response" := by
  unfold readWledInfo at h
  split at h
  · split at h
    · split at h
      · exact (Except.error.inj h).symm
      · cases h
    · exact (Except.error.inj h).symm
  · exact (Except.error.inj h).symm

/-- A state that cannot be read is an invalid response. -/
theorem readWledState_error {payload : List (PyText × JsonDocument)}
    (h : readWledState payload = .error reason) : reason = "invalid_response" := by
  unfold readWledState at h
  split at h
  · split at h
    · cases h
    · exact (Except.error.inj h).symm
  · exact (Except.error.inj h).symm

/-- Reading the info ends in one of the listed codes. -/
theorem readWledInfo_closed : Closed Reasons.wledInfoReasons readWledInfo :=
  closed_of_response (fun _ _ => readWledInfo_error) (by decide) (by decide) (by decide)

theorem readWledState_closed : Closed Reasons.wledStateReasons readWledState :=
  closed_of_response (fun _ _ => readWledState_error) (by decide) (by decide) (by decide)

variable {settings : WLEDSettings} {zones : List LightingZoneSettings}
  {fetch : Fetch WLEDTransportError} {timeoutSeconds : Option ℚ}

/-- The reason of an enabled device is in a list of codes that has the reasons of the transport and
of a document that was read, unless its fetch leaves an unknown one. -/
theorem validateWled_enabled_iff {codes : List String} (henabled : settings.enabled = true)
    (hclosed : Closed codes readWledInfo) (hknown : Reasons.wledInfoReasons ⊆ codes) :
    (validateWled loads settings zones fetch timeoutSeconds).reasonCode ∈ codes ↔
      ¬Unexplained loads codes (fetch (hostOrEmpty settings.host) (portOr 80 settings.port)
        (timeoutSeconds.getD settings.validationTimeoutSeconds)) := by
  unfold validateWled
  rw [if_pos henabled]
  split
  case h_1 e hparsed =>
    have hcode : e.reasonCode ∈ Reasons.wledInfoReasons :=
      List.mem_append_left _ e.reasonCode_mem
    exact iff_of_true (hknown hcode) (not_unexplained_of_transport hparsed)
  case h_2 reason hparsed => exact hclosed.parseFetched_iff hparsed
  case h_3 info hparsed =>
    refine iff_of_true (hknown ?_) (not_unexplained_of_parsed hparsed)
    dsimp only
    split <;> decide

/-- The reason of a validation is a known code unless the fetch leaves an unknown one. -/
theorem validateWled_iff :
    (validateWled loads settings zones fetch timeoutSeconds).reasonCode ∈ wledReasonCodes ↔
      ¬(settings.enabled = true ∧
        Unexplained loads wledReasonCodes (fetch (hostOrEmpty settings.host)
          (portOr 80 settings.port) (timeoutSeconds.getD settings.validationTimeoutSeconds))) := by
  by_cases henabled : settings.enabled = true
  case pos =>
    have hclosed : Closed wledReasonCodes readWledInfo :=
      readWledInfo_closed.mono (List.subset_cons_self _ _) (by decide)
    rw [and_iff_right henabled]
    exact validateWled_enabled_iff henabled hclosed (List.subset_cons_self _ _)
  case neg =>
    refine iff_of_true ?_ fun h => henabled h.1
    unfold validateWled
    rw [if_neg henabled]
    exact List.mem_cons_self

/-- The message of the exception is the reason when the device sends a long integer. -/
theorem validateWled_longInteger {limit digits : Nat} (henabled : settings.enabled = true)
    (hfetch : fetch (hostOrEmpty settings.host) (portOr 80 settings.port)
      (timeoutSeconds.getD settings.validationTimeoutSeconds) = .ok body)
    (hloads : loads body = .error (.digitLimit limit digits)) :
    (validateWled loads settings zones fetch timeoutSeconds).reasonCode =
      digitLimitMessage limit digits := by
  have hparse : parseWledInfo loads body = .error (digitLimitMessage limit digits) := by
    unfold parseWledInfo loadMapping
    rw [hloads]
    rfl
  have hparsed : parseFetched (.ok body : Except (FetchError WLEDTransportError) (List UInt8))
      (parseWledInfo loads) = .error (.valueError (digitLimitMessage limit digits)) := by
    unfold parseFetched
    dsimp only
    rw [hparse]
    rfl
  unfold validateWled
  rw [if_pos henabled, hfetch, hparsed]

/-- The reason for a state is a known code unless the fetch leaves an unknown one. -/
theorem fetchWledState_iff :
    (fetchWledState loads settings fetch).2 ∈ Reasons.wledStateReasons ↔
      ¬Unexplained loads Reasons.wledStateReasons (fetch (hostOrEmpty settings.host)
        (portOr 80 settings.port) settings.validationTimeoutSeconds) := by
  unfold fetchWledState
  split
  case h_1 e hparsed =>
    exact iff_of_true (List.mem_append_left _ e.reasonCode_mem)
      (not_unexplained_of_transport hparsed)
  case h_2 reason hparsed => exact readWledState_closed.parseFetched_iff hparsed
  case h_3 state hparsed =>
    have hvalidated : "validated" ∈ Reasons.wledStateReasons := by decide
    exact iff_of_true hvalidated (not_unexplained_of_parsed hparsed)

end Aurora.Hardware
