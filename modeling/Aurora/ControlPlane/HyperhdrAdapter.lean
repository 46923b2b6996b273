/-
  The adapter that changes one component of HyperHDR and verifies the change.

  `execute` posts one fixed command, checks the acknowledgement, and reads the server information
  back.  Every failure is a fixed reason of the result.  The acknowledgement is decoded like the
  documents of validation, and the `ValueError` of a long integer literal leaves `execute`; the
  same error in the verification is caught.
-/
import Aurora.Hardware.HyperhdrResponses

namespace Aurora.ControlPlane

open HealthHistory Hardware

/-! ## Reasons and operations -/

/-- How an execution ended. -/
inductive HyperHDRAdapterReason
  | verified | connectionFailure | timeout | httpRejection | redirectRejection
  | unauthorizedResponse | oversizedResponse | malformedJson | nonObjectJson | missingSuccess
  | successWrongType | successFalse | mismatchedCommand | verificationConnectionFailure
  | verificationTimeout | verificationHttpRejection | verificationRedirectRejection
  | verificationUnauthorizedResponse | verificationOversizedResponse
  | verificationMalformedResponse | missingComponentState | ambiguousComponentState
  | stateVerificationMismatch
  deriving DecidableEq

/-- The answer of the adapter. -/
structure HyperHDRAdapterResult where
  verified : Bool
  acknowledged : Bool
  reason : HyperHDRAdapterReason
  deriving DecidableEq

/-- A failure of the mutation transport carries one of six reasons. -/
structure HyperHDRMutationTransportFailure where
  reason : HyperHDRAdapterReason
  supported : reason ∈ [HyperHDRAdapterReason.connectionFailure, .timeout, .httpRejection,
    .redirectRejection, .unauthorizedResponse, .oversizedResponse]

/-- The operations on HyperHDR. -/
inductive HyperHDROperation
  | videoGrabberEnable
  | videoGrabberDisable
  | ledOutputEnable
  | ledOutputDisable
  deriving DecidableEq

/-- `_OPERATION_COMPONENT_STATE`. -/
def HyperHDROperation.componentState : HyperHDROperation → String × Bool
  | videoGrabberEnable => ("VIDEOGRABBER", true)
  | videoGrabberDisable => ("VIDEOGRABBER", false)
  | ledOutputEnable => ("LEDDEVICE", true)
  | ledOutputDisable => ("LEDDEVICE", false)

/-- The longest response. -/
def maxMutationResponseBytes : Nat := 16 * 1024

/-- The command that switches a component. -/
def componentCommand : String := "componentstate"

/-- The compact JSON text of the one command that is sent. -/
def mutationPayload (component : String) (state : Bool) : String :=
  "\x7b\"command\":\"" ++ componentCommand ++ "\",\"componentstate\":\x7b\"component\":\"" ++
    component ++ "\",\"state\":" ++ (if state then "true" else "false") ++ "\x7d\x7d"

/-- A post of a payload to a host and a port, within a timeout. -/
abbrev Post := String → Int → ℚ → String → Except HyperHDRMutationTransportFailure (List UInt8)

/-- The adapter with its destination, which the constructor checks. -/
structure HyperHDRMutationAdapter where
  host : String
  port : Int
  timeoutSeconds : ℚ
  postComponentState : Post
  fetchServerInfo : Fetch HyperHDRTransportError
  destination : host ≠ "" ∧ 1 ≤ port ∧ port ≤ 65535 ∧ 1 / 10 ≤ timeoutSeconds ∧
    timeoutSeconds ≤ 5

/-! ## Execution -/

/-- Why an acknowledgement is refused.  The error of a long literal is not caught. -/
def acknowledgementFailure (loads : Loads) (body : List UInt8) :
    Except ValueError (Option HyperHDRAdapterReason) :=
  match loads body with
  | .error .unicodeDecodeError => .ok (some .malformedJson)
  | .error .jsonDecodeError => .ok (some .malformedJson)
  | .error (.digitLimit limit digits) => .error (digitLimitMessage limit digits)
  | .ok (.object document) =>
    match document.lookup (PyText.of "success") with
    | none => .ok (some .missingSuccess)
    | some (.bool true) =>
      if (document.lookup (PyText.of "command")).any (!·.isText componentCommand) then
        .ok (some .mismatchedCommand)
      else .ok none
    | some (.bool false) => .ok (some .successFalse)
    | some _ => .ok (some .successWrongType)
  | .ok _ => .ok (some .nonObjectJson)

/-- The reason for an error of the verifying transport. -/
def verificationReason : HyperHDRTransportError → HyperHDRAdapterReason
  | .timeout => .verificationTimeout
  | .redirect => .verificationRedirectRejection
  | .authorization => .verificationUnauthorizedResponse
  | .responseTooLarge => .verificationOversizedResponse
  | .http => .verificationHttpRejection
  | .transport => .verificationConnectionFailure

namespace HyperHDRMutationAdapter

/-- Every error of the fetch and of the parser is caught. -/
def verifyComponent (loads : Loads) (upper : PyText → PyText) (adapter : HyperHDRMutationAdapter)
    (component : String) (requestedState : Bool) : HyperHDRAdapterResult :=
  match parseFetched (adapter.fetchServerInfo adapter.host adapter.port adapter.timeoutSeconds)
      (parseHyperhdrServerInfo loads upper) with
  | .error (.transport e) => ⟨false, true, verificationReason e⟩
  | .error (.valueError _) => ⟨false, true, .verificationMalformedResponse⟩
  | .ok info =>
    if PyText.of component ∈ info.ambiguousComponentStates then
      ⟨false, true, .ambiguousComponentState⟩
    else if PyText.of component ∉ info.componentStateNames then
      ⟨false, true, .missingComponentState⟩
    else
      match if component = "VIDEOGRABBER" then info.grabberActive else info.ledOutputActive with
      | none => ⟨false, true, .ambiguousComponentState⟩
      | some actual =>
        if actual ≠ requestedState then ⟨false, true, .stateVerificationMismatch⟩
        else ⟨true, true, .verified⟩

/-- `execute` -/
def execute (loads : Loads) (upper : PyText → PyText) (adapter : HyperHDRMutationAdapter)
    (operation : HyperHDROperation) : Except ValueError HyperHDRAdapterResult :=
  let (component, requestedState) := operation.componentState
  match adapter.postComponentState adapter.host adapter.port adapter.timeoutSeconds
      (mutationPayload component requestedState) with
  | .error failure => .ok ⟨false, false, failure.reason⟩
  | .ok body =>
    if body.length > maxMutationResponseBytes then .ok ⟨false, false, .oversizedResponse⟩
    else
      match acknowledgementFailure loads body with
      | .error message => .error message
      | .ok (some reason) => .ok ⟨false, false, reason⟩
      | .ok none => .ok (adapter.verifyComponent loads upper component requestedState)

end HyperHDRMutationAdapter

/-! ## What is returned -/

variable {loads : Loads} {upper : PyText → PyText} {adapter : HyperHDRMutationAdapter}
  {operation : HyperHDROperation}

/-- An acknowledgement is judged unless it holds a long integer. -/
theorem acknowledgementFailure_returns {body : List UInt8} :
    (∃ reason, acknowledgementFailure loads body = .ok reason) ↔ ¬HoldsLongInteger loads body := by
  unfold acknowledgementFailure HoldsLongInteger
  split
  case h_1 hloads => exact iff_of_true ⟨_, rfl⟩ (by simp [hloads])
  case h_2 hloads => exact iff_of_true ⟨_, rfl⟩ (by simp [hloads])
  case h_3 limit digits hloads =>
    exact iff_of_false nofun (not_not.mpr ⟨limit, digits, hloads⟩)
  case h_4 document hloads =>
    refine iff_of_true ?_ (by simp [hloads])
    split
    · exact ⟨_, rfl⟩
    · split <;> exact ⟨_, rfl⟩
    · exact ⟨_, rfl⟩
    · exact ⟨_, rfl⟩
  case h_5 document hother hloads => exact iff_of_true ⟨_, rfl⟩ (by simp [hloads])

/-- The acknowledgement that `execute` decodes. -/
def HyperHDRMutationAdapter.acknowledgement (adapter : HyperHDRMutationAdapter)
    (operation : HyperHDROperation) : Except HyperHDRMutationTransportFailure (List UInt8) :=
  adapter.postComponentState adapter.host adapter.port adapter.timeoutSeconds
    (mutationPayload operation.componentState.1 operation.componentState.2)

/-- An acknowledgement within the size limit holds a long integer. -/
def AcknowledgesLongInteger (loads : Loads) (adapter : HyperHDRMutationAdapter)
    (operation : HyperHDROperation) : Prop :=
  ∃ body, adapter.acknowledgement operation = .ok body ∧
    body.length ≤ maxMutationResponseBytes ∧ HoldsLongInteger loads body

/-- Execution returns a result unless the acknowledgement holds a long integer. -/
theorem execute_returns :
    (∃ result, adapter.execute loads upper operation = .ok result) ↔
      ¬AcknowledgesLongInteger loads adapter operation := by
  unfold HyperHDRMutationAdapter.execute AcknowledgesLongInteger
    HyperHDRMutationAdapter.acknowledgement
  dsimp only
  split
  case h_1 failure hpost => exact iff_of_true ⟨_, rfl⟩ (by simp [hpost])
  case h_2 body hpost =>
    split
    case isTrue hlarge =>
      refine iff_of_true ⟨_, rfl⟩ ?_
      rintro ⟨fetched, hfetched, hsmall, -⟩
      obtain rfl := Except.ok.inj (hpost.symm.trans hfetched)
      omega
    case isFalse hsmall =>
      have hlong : (∃ fetched, adapter.postComponentState adapter.host adapter.port
          adapter.timeoutSeconds
          (mutationPayload operation.componentState.1 operation.componentState.2) = .ok fetched ∧
            fetched.length ≤ maxMutationResponseBytes ∧ HoldsLongInteger loads fetched) ↔
          HoldsLongInteger loads body := by
        constructor
        · rintro ⟨fetched, hfetched, -, hlong⟩
          obtain rfl := Except.ok.inj (hpost.symm.trans hfetched)
          exact hlong
        · exact fun hlong => ⟨body, hpost, by omega, hlong⟩
      rw [hlong, ← acknowledgementFailure_returns]
      cases acknowledgementFailure loads body with
      | error message => exact iff_of_false nofun nofun
      | ok failure => cases failure <;> exact iff_of_true ⟨_, rfl⟩ ⟨_, rfl⟩

/-- Execution raises the error of a long integer in the acknowledgement. -/
theorem execute_longInteger {body : List UInt8} {limit digits : Nat}
    (hpost : adapter.acknowledgement operation = .ok body)
    (hsmall : body.length ≤ maxMutationResponseBytes)
    (hloads : loads body = .error (.digitLimit limit digits)) :
    adapter.execute loads upper operation = .error (digitLimitMessage limit digits) := by
  unfold HyperHDRMutationAdapter.acknowledgement at hpost
  unfold HyperHDRMutationAdapter.execute acknowledgementFailure
  dsimp only
  rw [hpost]
  dsimp only
  rw [if_neg (by omega), hloads]

/-- The settings and the transports of the four paths.  The transports of the three reports raise
the errors that they declare. -/
structure DevicePaths where
  wled : WLEDSettings
  zones : List LightingZoneSettings
  hyperhdr : HyperHDRSettings
  fetchInfo : DeclaredFetch WLEDTransportError
  fetchState : DeclaredFetch WLEDTransportError
  fetchServerInfo : DeclaredFetch HyperHDRTransportError
  timeoutSeconds : Option ℚ
  adapter : HyperHDRMutationAdapter
  operation : HyperHDROperation

/-- The three reports give known codes, and the adapter returns. -/
structure DevicePaths.Closed (loads : Loads) (upper : PyText → PyText) (p : DevicePaths) : Prop where
  info : (validateWled loads p.wled p.zones p.fetchInfo.lift p.timeoutSeconds).reasonCode ∈
    wledReasonCodes
  state : (fetchWledState loads p.wled p.fetchState.lift).2 ∈ Reasons.wledStateReasons
  hyperhdr : (validateHyperhdr loads upper p.hyperhdr p.fetchServerInfo.lift
    p.timeoutSeconds).reasonCode ∈ hyperhdrReasonCodes
  execution : ∃ result, p.adapter.execute loads upper p.operation = .ok result

/-- A path that does not catch it decodes an integer literal that is too long. -/
def DevicePaths.DecodesLongInteger (loads : Loads) (p : DevicePaths) : Prop :=
  (p.wled.enabled = true ∧
      FetchesLongInteger loads (p.fetchInfo (hostOrEmpty p.wled.host) (portOr 80 p.wled.port)
        (p.timeoutSeconds.getD p.wled.validationTimeoutSeconds))) ∨
    FetchesLongInteger loads (p.fetchState (hostOrEmpty p.wled.host) (portOr 80 p.wled.port)
      p.wled.validationTimeoutSeconds) ∨
    (p.hyperhdr.enabled = true ∧
      FetchesLongInteger loads (p.fetchServerInfo (hostOrEmpty p.hyperhdr.host)
        (portOr 8090 p.hyperhdr.port)
        (p.timeoutSeconds.getD p.hyperhdr.validationTimeoutSeconds))) ∨
    AcknowledgesLongInteger loads p.adapter p.operation

/-- Device responses are handled with fixed reasons unless one of them holds a long integer. -/
theorem responses_closed_iff (loads : Loads) (upper : PyText → PyText) (p : DevicePaths) :
    p.Closed loads upper ↔ ¬p.DecodesLongInteger loads := by
  have hinfo := @validateWled_iff loads p.wled p.zones p.fetchInfo.lift p.timeoutSeconds
  have hstate := @fetchWledState_iff loads p.wled p.fetchState.lift
  have hhyperhdr :=
    @validateHyperhdr_iff loads upper p.hyperhdr p.fetchServerInfo.lift p.timeoutSeconds
  rw [unexplained_lift] at hinfo hstate hhyperhdr
  unfold DevicePaths.DecodesLongInteger
  rw [not_or, not_or, not_or, ← hinfo, ← hstate, ← hhyperhdr,
    ← @execute_returns loads upper p.adapter p.operation]
  constructor
  · exact fun h => ⟨h.info, h.state, h.hyperhdr, h.execution⟩
  · exact fun h => ⟨h.1, h.2.1, h.2.2.1, h.2.2.2⟩

/-- An integer literal of 5000 digits, which is a JSON document. -/
def longInteger : List UInt8 := List.replicate 5000 49

/-- Decoding with the default limit, of documents that are digits alone. -/
def digitLoads : Loads := fun body =>
  if body.length > 4300 ∧ body.all (fun b => 48 ≤ b && b ≤ 57) then
    .error (.digitLimit 4300 body.length)
  else .error .jsonDecodeError

/-- A device that answers every request with the long integer. -/
def longIntegerPaths : DevicePaths where
  wled := ⟨true, some "wled", none, 2, none⟩
  zones := []
  hyperhdr := ⟨true, some "hyperhdr", none, 2⟩
  fetchInfo := fun _ _ _ => .ok longInteger
  fetchState := fun _ _ _ => .ok longInteger
  fetchServerInfo := fun _ _ _ => .ok longInteger
  timeoutSeconds := none
  adapter :=
    { host := "hyperhdr"
      port := 8090
      timeoutSeconds := 1
      postComponentState := fun _ _ _ _ => .ok longInteger
      fetchServerInfo := fun _ _ _ => .ok longInteger
      destination := ⟨by decide, by decide, by decide, by norm_num, by norm_num⟩ }
  operation := .videoGrabberEnable

/-- The message of the exception becomes the reason code, and the adapter raises. -/
theorem long_integer_escapes :
    (validateWled digitLoads longIntegerPaths.wled longIntegerPaths.zones
        longIntegerPaths.fetchInfo.lift longIntegerPaths.timeoutSeconds).reasonCode =
      digitLimitMessage 4300 5000 ∧
    longIntegerPaths.adapter.execute digitLoads id longIntegerPaths.operation =
      .error (digitLimitMessage 4300 5000) ∧
    ¬longIntegerPaths.Closed digitLoads id := by
  have hlength : longInteger.length = 5000 := List.length_replicate
  have hdigits : longInteger.all (fun b => 48 ≤ b && b ≤ 57) = true :=
    List.all_eq_true.mpr fun b hb => by
      rw [List.eq_of_mem_replicate hb]
      decide
  have hloads : digitLoads longInteger = .error (.digitLimit 4300 5000) := by
    unfold digitLoads
    rw [if_pos ⟨by omega, hdigits⟩, hlength]
  have hraises : longIntegerPaths.adapter.execute digitLoads id longIntegerPaths.operation =
      .error (digitLimitMessage 4300 5000) :=
    execute_longInteger rfl (by rw [hlength]; decide) hloads
  refine ⟨validateWled_longInteger rfl rfl hloads, hraises, fun hclosed => ?_⟩
  obtain ⟨result, hresult⟩ := hclosed.execution
  rw [hraises] at hresult
  cases hresult

end Aurora.ControlPlane
