/-
  The capture mode probe as a whole, and the service that reports its result.

  `Probed` is what the result of every run satisfies.  With it the service finds nothing missing in
  a result that the probe calls validated, which is the last part of `modes_law`.
-/
import Aurora.Hardware.Models
import Aurora.Hardware.CaptureModeLoops

namespace Aurora.Hardware.Modes

open Program

/-! ## The service -/

/-- The report of the capture modes. -/
structure CaptureModeValidationReport where
  componentId : ComponentId
  state : ComponentHealthState
  reasonCode : String
  message : String
  formats : List CapturePixelFormat
  formatCount : Nat
  frameSizeCount : Nat
  frameIntervalCount : Nat
  enumerationComplete : Bool
  partialReasonCodes : List String
  deviceWasOpened : Bool
  querycapWasIssued : Bool
  enumerationIoctlWasIssued : Bool
  descriptorWasClosed : Bool

/-- `_report` -/
def report (r : CaptureModeProbeResult) (state : ComponentHealthState) :
    CaptureModeValidationReport :=
  let sizes := r.formats.flatMap (·.frameSizes)
  { componentId := .captureDevice
    state := state
    reasonCode := r.reasonCode
    message :=
      if state = .healthy then "Capture mode enumeration completed."
      else "Capture mode enumeration was incomplete or unsuccessful."
    formats := r.formats
    formatCount := r.formats.length
    frameSizeCount := sizes.length
    frameIntervalCount := (sizes.map (·.intervals.length)).sum
    enumerationComplete := r.enumerationComplete
    partialReasonCodes := r.partialReasonCodes
    deviceWasOpened := r.deviceWasOpened
    querycapWasIssued := r.querycapWasIssued
    enumerationIoctlWasIssued := r.enumerationIoctlWasIssued
    descriptorWasClosed := r.descriptorWasClosed }

/-- Nothing is missing in the result. -/
def isComplete (r : CaptureModeProbeResult) : Bool :=
  r.reasonCode = "validated" && r.enumerationComplete && !r.formats.isEmpty &&
    r.partialReasonCodes.isEmpty && r.deviceWasOpened && r.querycapWasIssued &&
    r.enumerationIoctlWasIssued && r.descriptorWasClosed &&
    r.formats.all fun format => !format.frameSizes.isEmpty && format.frameSizes.all fun size =>
      size.kind ≠ .discrete || (size.intervalsEnumerated && !size.intervals.isEmpty)

/-- The state a result of the probe is reported with. -/
def healthState (r : CaptureModeProbeResult) : ComponentHealthState :=
  if isComplete r then .healthy
  else if !r.formats.isEmpty && r.descriptorWasClosed then .degraded
  else .unhealthy

/-- The settings of the capture device. -/
structure CaptureDeviceSettings where
  enabled : Bool
  identifier : Option String

/-- `validate_capture_modes` -/
def validateCaptureModes (settings : CaptureDeviceSettings) (platform : String)
    (probe : String → Mode CaptureModeProbeResult) : Mode CaptureModeValidationReport := do
  if !settings.enabled then pure (report { reasonCode := "capture_device_disabled" } .disabled)
  else if platform ≠ "linux" then
    pure (report { reasonCode := "unsupported_platform" } .unhealthy)
  else
    match ← (probe (settings.identifier.getD "")).catching with
    | .ok result => pure (report result (healthState result))
    | .error _ =>
      let result : CaptureModeProbeResult := { reasonCode := "format_enumeration_failed" }
      pure (report result (healthState result))

/-! ## Results -/

/-- The call is a request to the driver. -/
def ModeCall.isIoctl : ModeCall → Bool
  | .queryCap _ => true
  | .enumerate _ _ => true
  | _ => false

/-- The requests of a transcript. -/
def ioctls (t : List ModeExchange) : Nat := t.countP fun x => ModeCall.isIoctl x.1

/-- What the result of a run satisfies. -/
structure Probed (t : List ModeExchange) (result : CaptureModeProbeResult) : Prop where
  records : (result.formats.map formatRecords).sum ≤ maxRecords
  /-- A complete result has formats, which are those of the driver behind the run. -/
  listed : result.enumerationComplete = true → ∀ driver, RangesAlone driver → Agrees driver t →
    ∃ fd response, (⟨.queryCap fd, .ok response⟩ : ModeExchange) ∈ t ∧
      ListsQueues driver (captureQueues response) result.formats
  sound : result.reasonCode = "validated" → result.enumerationComplete = true ∧
    result.formats ≠ [] ∧ result.partialReasonCodes = [] ∧ result.querycapWasIssued = true ∧
      result.enumerationIoctlWasIssued = true ∧ ∀ format ∈ result.formats, FormatSound format

/-- A result without formats, for a reason. -/
theorem Probed.failed {t : List ModeExchange} {result : CaptureModeProbeResult}
    (hformats : result.formats = []) (hcomplete : result.enumerationComplete = false)
    (hreason : result.reasonCode ≠ "validated") : Probed t result where
  records := by
    rw [hformats]
    exact Nat.zero_le _
  listed h := absurd h (by rw [hcomplete]; decide)
  sound h := absurd h hreason

/-- The requests of an enumeration within the budget. -/
theorem ioctls_of_progress {after : Tally} {t : List ModeExchange}
    (h : Progress Tally.initial after t) : 1 + ioctls t ≤ maxIoctls := by
  have hall : ioctls t = t.length := by
    refine List.countP_eq_length.mpr fun x hx => ?_
    obtain ⟨fd, request, hcall⟩ := h.requests x hx
    rw [hcall]
    rfl
  have hbudget := h.budget
  have hbounded := h.bounded (by decide)
  rw [hall]
  show Tally.initial.budget + t.length ≤ maxIoctls
  omega

theorem ioctls_cons (x : ModeExchange) (t : List ModeExchange) :
    ioctls (x :: t) = ioctls t + if ModeCall.isIoctl x.1 then 1 else 0 :=
  List.countP_cons

theorem ioctls_append (t t' : List ModeExchange) : ioctls (t ++ t') = ioctls t + ioctls t' :=
  List.countP_append

/-- What is said of a part of a transcript is said of the transcript. -/
theorem Probed.mono {t u : List ModeExchange} {result : CaptureModeProbeResult}
    (h : Probed t result) (hsub : ∀ x ∈ t, x ∈ u) : Probed u result where
  records := h.records
  sound := h.sound
  listed hcomplete driver hranges hagrees := by
    obtain ⟨fd, response, hmem, hlists⟩ := h.listed hcomplete driver hranges
      fun fd request answer hx => hagrees fd request answer (hsub _ hx)
    exact ⟨fd, response, hsub _ hmem, hlists⟩

/-- The result of an enumeration that has ended. -/
theorem probed_enumerated {fd : Nat} {response : Bytes} {formats : List CapturePixelFormat}
    {after : Tally} {t : List ModeExchange} (hprogress : Progress Tally.initial after t)
    (h : Finds formatRecords FormatSound (fun driver => ListsQueues driver (captureQueues response))
      Tally.initial after t formats) :
    Probed ((⟨.queryCap fd, .ok response⟩ : ModeExchange) :: t) (enumerated formats after.gaps) := by
  have hcounted : (formats.map formatRecords).sum ≤ maxRecords := by
    have hrecords := h.records
    have hroom := hprogress.room (by decide)
    exact le_trans (le_trans (Nat.le_add_left _ _) hrecords) hroom
  unfold enumerated
  split
  · refine .failed rfl rfl ?_
    show "no_capture_formats_reported" ≠ "validated"
    decide
  · rename_i hformats
    refine ⟨hcounted, fun hcomplete driver hranges hagrees => ?_, fun hreason => ?_⟩
    · refine ⟨fd, response, List.mem_cons_self, ?_⟩
      exact h.listed (of_decide_eq_true hcomplete) driver hranges
        fun fd request answer hx => hagrees fd request answer (List.mem_cons_of_mem _ hx)
    · have hgaps : after.gaps = [] := by
        by_contra hne
        rw [if_neg hne] at hreason
        have hgaps : "validated_with_gaps" ≠ "validated" := by decide
        exact hgaps hreason
      exact ⟨decide_eq_true hgaps, hformats, hgaps, rfl, rfl, h.sound hgaps⟩

/-! ## Runs -/

/-- One call, then what follows its answer. -/
theorem runs_attempt_bind {c : ModeCall} {β : Type}
    {f : Except (ModeError c) (ModeValue c) → Mode β} {t : List ModeExchange}
    {r : Except Raised β} :
    Runs (attempt c >>= f) t r ↔
      ∃ answer t', t = (⟨c, answer⟩ : ModeExchange) :: t' ∧ Runs (f answer) t' r :=
  runs_ask_bind (I := ModeInterface)

/-- The probe's part between the open and the close. -/
theorem inspect_ends {fd : Nat} {t : List ModeExchange}
    {r : Except Raised CaptureModeProbeResult} (h : Runs (inspect fd) t r) :
    ioctls t ≤ maxIoctls ∧ ∀ result, r = .ok result → Probed t result := by
  unfold inspect at h
  replace h := runs_attempt_bind.mp h
  obtain ⟨stat, t', rfl, h⟩ := h
  have hstat : ioctls [(⟨.fstat fd, stat⟩ : ModeExchange)] ≤ maxIoctls := Nat.zero_le _
  split at h
  · obtain ⟨rfl, rfl⟩ := runs_pure.mp h
    refine ⟨hstat, ?_⟩
    rintro result heq
    obtain rfl := Except.ok.inj heq
    refine .failed rfl rfl ?_
    show "device_unavailable" ≠ "validated"
    decide
  · obtain ⟨rfl, rfl⟩ := runs_raise.mp h
    exact ⟨hstat, fun _ heq => nomatch heq⟩
  · obtain ⟨rfl, rfl⟩ := runs_pure.mp h
    refine ⟨hstat, ?_⟩
    rintro result heq
    obtain rfl := Except.ok.inj heq
    refine .failed rfl rfl ?_
    show "not_character_device" ≠ "validated"
    decide
  -- a character device: it is asked for its capability
  replace h := runs_attempt_bind.mp h
  obtain ⟨query, t'', rfl, h⟩ := h
  have hquery : ioctls [(⟨.fstat fd, .ok true⟩ : ModeExchange), ⟨.queryCap fd, query⟩] ≤
      maxIoctls := by
    show 1 ≤ 2048
    decide
  split at h
  · rename_i errno
    obtain ⟨rfl, rfl⟩ := runs_pure.mp h
    refine ⟨hquery, ?_⟩
    rintro result heq
    obtain rfl := Except.ok.inj heq
    refine .failed rfl rfl ?_
    show (if errno = some enotty ∨ errno = some einval then "querycap_not_supported"
      else "capability_query_failed") ≠ "validated"
    split <;> decide
  · obtain ⟨rfl, rfl⟩ := runs_raise.mp h
    exact ⟨hquery, fun _ heq => nomatch heq⟩
  rename_i response
  split at h
  · obtain ⟨rfl, rfl⟩ := runs_pure.mp h
    refine ⟨hquery, ?_⟩
    rintro result heq
    obtain rfl := Except.ok.inj heq
    refine .failed rfl rfl ?_
    show "video_capture_not_supported" ≠ "validated"
    decide
  · -- the enumeration itself: its requests come on top of the capability query
    have hcount : ∀ u, ioctls ((⟨.fstat fd, .ok true⟩ : ModeExchange) ::
        ⟨.queryCap fd, .ok response⟩ :: u) = ioctls u + 1 := by
      intro u
      rw [ioctls_cons, ioctls_cons]
      rfl
    rw [hcount]
    replace h := runs_bind.mp h
    rcases h with ⟨raised, hrun, rfl⟩ | ⟨⟨formats, final⟩, t₁, t₂, rfl, hrun, h⟩
    · obtain ⟨after, hprogress, -⟩ := queuesFrom_ends hrun
      have hioctls := ioctls_of_progress hprogress
      exact ⟨by omega, fun _ heq => nomatch heq⟩
    · obtain ⟨after, hprogress, hend⟩ := queuesFrom_ends hrun
      obtain ⟨rfl, found, hfound, hfinds⟩ := hend _ _ rfl
      rw [List.nil_append] at hfound
      subst hfound
      obtain ⟨rfl, rfl⟩ := runs_pure.mp h
      rw [List.append_nil]
      have hioctls := ioctls_of_progress hprogress
      refine ⟨by omega, ?_⟩
      rintro result heq
      obtain rfl := Except.ok.inj heq
      exact (probed_enumerated hprogress hfinds).mono fun x hx => List.mem_cons_of_mem _ hx

/-- A validated result was closed. -/
structure Closed (result : CaptureModeProbeResult) : Prop where
  opened : result.reasonCode = "validated" → result.deviceWasOpened = true
  closed : result.reasonCode = "validated" → result.descriptorWasClosed = true

theorem Closed.failed {result : CaptureModeProbeResult} (h : result.reasonCode ≠ "validated") :
    Closed result :=
  ⟨fun heq => absurd heq h, fun heq => absurd heq h⟩

/-- Closing keeps what a result satisfies. -/
theorem Probed.settle {t : List ModeExchange} {result : CaptureModeProbeResult}
    (h : Probed t result) (closed : Bool) :
    Probed t (Modes.settle result closed) ∧ Closed (Modes.settle result closed) := by
  unfold Modes.settle
  cases closed with
  | true => exact ⟨⟨h.records, h.listed, h.sound⟩, fun _ => rfl, fun _ => rfl⟩
  | false =>
    have hreason : "device_unavailable" ≠ "validated" := by decide
    exact ⟨⟨h.records, fun hcomplete => absurd hcomplete Bool.false_ne_true,
      fun heq => absurd heq hreason⟩, .failed hreason⟩

/-- How the enumeration on an open device ends. -/
theorem opened_ends {fd : Nat} {t : List ModeExchange}
    {r : Except Raised CaptureModeProbeResult} (h : Runs (opened fd) t r) :
    ioctls t ≤ maxIoctls ∧ ∀ result, r = .ok result → Probed t result ∧ Closed result := by
  unfold opened at h
  replace h := runs_catching_bind.mp h
  obtain ⟨found, t₁, t₂, rfl, hrun, h⟩ := h
  obtain ⟨hioctls, hprobed⟩ := inspect_ends hrun
  replace h := runs_attempt_bind.mp h
  obtain ⟨close, t', rfl, h⟩ := h
  have hcount : ∀ u, ioctls ((⟨.close fd, close⟩ : ModeExchange) :: u) = ioctls u := by
    intro u
    rw [ioctls_cons]
    rfl
  rw [ioctls_append, hcount]
  split at h
  · rename_i result
    obtain ⟨rfl, rfl⟩ := runs_pure.mp h
    refine ⟨hioctls, fun settled heq => ?_⟩
    obtain rfl := Except.ok.inj heq
    exact ((hprobed result rfl).mono fun x hx => List.mem_append_left _ hx).settle true
  · rename_i result
    obtain ⟨rfl, rfl⟩ := runs_pure.mp h
    refine ⟨hioctls, fun settled heq => ?_⟩
    obtain rfl := Except.ok.inj heq
    exact ((hprobed result rfl).mono fun x hx => List.mem_append_left _ hx).settle false
  all_goals
    obtain ⟨rfl, rfl⟩ := runs_raise.mp h
    exact ⟨hioctls, fun _ heq => nomatch heq⟩

/-- Validating the target asks the driver for nothing, and no failure reads as validated. -/
theorem validatedVideoTarget_ends {identifier : String} {t : List ModeExchange}
    {r : Except Raised (Except String String)} (h : Runs (validatedVideoTarget identifier) t r) :
    ioctls t = 0 ∧ ∀ failure, r = .ok (.error failure) → failure ≠ "validated" := by
  unfold validatedVideoTarget at h
  replace h := runs_attempt_bind.mp h
  obtain ⟨lstat, u, rfl, h⟩ := h
  split at h
  · rename_i errno
    obtain ⟨rfl, rfl⟩ := runs_pure.mp h
    refine ⟨rfl, ?_⟩
    rintro failure heq
    obtain rfl := Except.error.inj (Except.ok.inj heq)
    split <;> decide
  · obtain ⟨rfl, rfl⟩ := runs_raise.mp h
    exact ⟨rfl, fun _ heq => nomatch heq⟩
  replace h := runs_attempt_bind.mp h
  obtain ⟨resolve, u, rfl, h⟩ := h
  split at h
  · obtain ⟨rfl, rfl⟩ := runs_pure.mp h
    exact ⟨rfl, fun failure heq => by cases heq; decide⟩
  · obtain ⟨rfl, rfl⟩ := runs_pure.mp h
    exact ⟨rfl, fun failure heq => by cases heq; decide⟩
  · obtain ⟨rfl, rfl⟩ := runs_raise.mp h
    exact ⟨rfl, fun _ heq => nomatch heq⟩
  split at h
  · replace h := runs_attempt_bind.mp h
    obtain ⟨stat, u, rfl, h⟩ := h
    split at h
    · obtain ⟨rfl, rfl⟩ := runs_pure.mp h
      refine ⟨rfl, ?_⟩
      rintro failure heq
      obtain rfl := Except.error.inj (Except.ok.inj heq)
      split <;> decide
    · obtain ⟨rfl, rfl⟩ := runs_raise.mp h
      exact ⟨rfl, fun _ heq => nomatch heq⟩
    · obtain ⟨rfl, rfl⟩ := runs_pure.mp h
      exact ⟨rfl, fun failure heq => by cases heq; decide⟩
    · obtain ⟨rfl, rfl⟩ := runs_pure.mp h
      exact ⟨rfl, fun failure heq => by cases heq⟩
  · obtain ⟨rfl, rfl⟩ := runs_pure.mp h
    exact ⟨rfl, fun failure heq => by cases heq; decide⟩

/-- A failed opening is never reported as validated. -/
theorem openErrorReason_ne (errno : Option Nat) : openErrorReason errno ≠ "validated" := by
  unfold openErrorReason
  split
  · decide
  split
  · decide
  split <;> decide

/-- How the enumeration ends, the opening and the close included. -/
theorem enumerateModes_ends {identifier : String} {t : List ModeExchange}
    {r : Except Raised CaptureModeProbeResult} (h : Runs (enumerateModes identifier) t r) :
    ioctls t ≤ maxIoctls ∧ ∀ result, r = .ok result → Probed t result ∧ Closed result := by
  unfold enumerateModes at h
  replace h := runs_bind.mp h
  rcases h with ⟨raised, hrun, rfl⟩ | ⟨target, t₁, t₂, rfl, hrun, h⟩
  · rw [(validatedVideoTarget_ends hrun).1]
    exact ⟨Nat.zero_le _, fun _ heq => nomatch heq⟩
  obtain ⟨hnone, hfailure⟩ := validatedVideoTarget_ends hrun
  rw [ioctls_append, hnone, Nat.zero_add]
  split at h
  · rename_i failure
    obtain ⟨rfl, rfl⟩ := runs_pure.mp h
    have hreason := hfailure failure rfl
    refine ⟨Nat.zero_le _, fun result heq => ?_⟩
    obtain rfl := Except.ok.inj heq
    exact ⟨.failed rfl rfl hreason, .failed hreason⟩
  replace h := runs_attempt_bind.mp h
  obtain ⟨opening, u, rfl, h⟩ := h
  rw [ioctls_cons]
  split at h
  · rename_i errno
    obtain ⟨rfl, rfl⟩ := runs_pure.mp h
    have hreason := openErrorReason_ne errno
    refine ⟨Nat.zero_le _, fun result heq => ?_⟩
    obtain rfl := Except.ok.inj heq
    exact ⟨.failed rfl rfl hreason, .failed hreason⟩
  · obtain ⟨rfl, rfl⟩ := runs_raise.mp h
    exact ⟨Nat.zero_le _, fun _ heq => nomatch heq⟩
  · obtain ⟨hioctls, hprobed⟩ := opened_ends h
    refine ⟨hioctls, fun result heq => ?_⟩
    obtain ⟨hresult, hclosed⟩ := hprobed result heq
    exact ⟨hresult.mono fun x hx => List.mem_append_right _ (List.mem_cons_of_mem _ hx), hclosed⟩

/-! ## Health -/

/-- The service misses nothing in a validated result. -/
theorem isComplete_of_validated {t : List ModeExchange} {result : CaptureModeProbeResult}
    (h : Probed t result) (hclosed : Closed result) (hreason : result.reasonCode = "validated") :
    isComplete result = true := by
  obtain ⟨hcomplete, hformats, hgaps, hquery, henum, hsound⟩ := h.sound hreason
  have hall : (result.formats.all fun format =>
      !format.frameSizes.isEmpty && format.frameSizes.all fun size =>
        size.kind ≠ .discrete || (size.intervalsEnumerated && !size.intervals.isEmpty)) = true := by
    rw [List.all_eq_true]
    intro format hformat
    obtain ⟨hsizes, hsizesound⟩ := hsound format hformat
    rw [Bool.and_eq_true, Bool.not_eq_true', List.isEmpty_eq_false_iff, List.all_eq_true]
    refine ⟨hsizes, fun size hsize => ?_⟩
    rw [Bool.or_eq_true, decide_eq_true_eq, Bool.and_eq_true, Bool.not_eq_true',
      List.isEmpty_eq_false_iff]
    by_cases hkind : size.kind = .discrete
    · exact Or.inr (hsizesound size hsize hkind)
    · exact Or.inl hkind
  unfold isComplete
  rw [hall, hreason, hcomplete, hgaps, hquery, henum, hclosed.opened hreason,
    hclosed.closed hreason, List.isEmpty_eq_false_iff.mpr hformats]
  rfl

/-- A report of a validated enumeration is healthy. -/
theorem validateCaptureModes_healthy {settings : CaptureDeviceSettings} {platform : String}
    {t : List ModeExchange} {reported : CaptureModeValidationReport}
    (h : Runs (validateCaptureModes settings platform enumerateModes) t (.ok reported))
    (hreason : reported.reasonCode = "validated") : reported.state = .healthy := by
  unfold validateCaptureModes at h
  split at h
  · obtain ⟨-, heq⟩ := runs_pure.mp h
    obtain rfl := Except.ok.inj heq
    exact absurd hreason (by decide)
  split at h
  · obtain ⟨-, heq⟩ := runs_pure.mp h
    obtain rfl := Except.ok.inj heq
    exact absurd hreason (by decide)
  replace h := runs_catching_bind.mp h
  obtain ⟨found, t₁, t₂, rfl, hrun, h⟩ := h
  obtain ⟨-, hprobed⟩ := enumerateModes_ends hrun
  split at h
  · rename_i result
    obtain ⟨-, heq⟩ := runs_pure.mp h
    obtain rfl := Except.ok.inj heq
    obtain ⟨hresult, hclosed⟩ := hprobed result rfl
    show healthState result = .healthy
    unfold healthState
    rw [if_pos (isComplete_of_validated hresult hclosed hreason)]
  · obtain ⟨-, heq⟩ := runs_pure.mp h
    obtain rfl := Except.ok.inj heq
    exact absurd hreason (by decide)

/-! ## The law -/

instance (c : ModeInterface.Call) : Inhabited (ModeInterface.Answer c) :=
  match c with
  | .lstat _ => ⟨(.error .other : Except Raised Unit)⟩
  | .resolve _ => ⟨(.error none : Except (Option Raised) String)⟩
  | .stat _ => ⟨(.error .other : Except Raised Bool)⟩
  | .openDevice _ => ⟨(.error .other : Except Raised Nat)⟩
  | .fstat _ => ⟨(.error .other : Except Raised Bool)⟩
  | .queryCap _ => ⟨(.error .other : Except Raised Bytes)⟩
  | .enumerate _ _ => ⟨(.error .other : Except Raised Bytes)⟩
  | .close _ => ⟨(.error .other : Except Raised Unit)⟩

/-- A prefix makes no more requests than the whole. -/
theorem ioctls_of_begins {identifier : String} {t : List ModeExchange}
    (h : Begins (enumerateModes identifier) t) : ioctls t ≤ maxIoctls := by
  obtain ⟨rest, r, hrun⟩ := h.extends
  have hall := (enumerateModes_ends hrun).1
  rw [ioctls_append] at hall
  omega

/-- What holds of an enumeration in every run. -/
structure ModesLaw (identifier : String) : Prop where
  /-- Behind any device, whatever it remembers and answers, the run comes to an end. -/
  ends : ∀ (σ : Type) (device : σ → (c : ModeCall) → ModeInterface.Answer c × σ) (s : σ),
    ∃ t r s', Runs (enumerateModes identifier) t r ∧
      Follows (fun s x s' => device s x.1 = (x.2, s')) s t s'
  /-- At every moment at most this many requests were made. -/
  requests : ∀ t, Begins (enumerateModes identifier) t → ioctls t ≤ 2048
  /-- A result holds at most this many records. -/
  records : ∀ t result, Runs (enumerateModes identifier) t (.ok result) →
    (result.formats.map formatRecords).sum ≤ 512
  /-- A complete result is the one list of the driver's modes of each supported queue, in the order
      of their indices. -/
  complete : ∀ t result driver, Runs (enumerateModes identifier) t (.ok result) →
    RangesAlone driver → Agrees driver t → result.enumerationComplete = true →
      ∃ fd response, (⟨.queryCap fd, .ok response⟩ : ModeExchange) ∈ t ∧
        ∀ formats, ListsQueues driver (captureQueues response) formats ↔ formats = result.formats
  /-- A result called validated is healthy. -/
  healthy : ∀ settings platform t reported,
    Runs (validateCaptureModes settings platform enumerateModes) t (.ok reported) →
      reported.reasonCode = "validated" → reported.state = .healthy

theorem modes_law (identifier : String) : ModesLaw identifier where
  ends _ device s :=
    ⟨_, _, _, runs_trace (I := ModeInterface) device _ s, follows_trace (I := ModeInterface) device _ s⟩
  requests _ h := ioctls_of_begins h
  records _ _ h := ((enumerateModes_ends h).2 _ rfl).1.records
  complete _ _ driver h hranges hagrees hcomplete := by
    obtain ⟨fd, response, hmem, hlists⟩ :=
      ((enumerateModes_ends h).2 _ rfl).1.listed hcomplete driver hranges hagrees
    exact ⟨fd, response, hmem, fun formats => ⟨fun h => h.unique hlists, fun h => h ▸ hlists⟩⟩
  healthy _ _ _ _ h hreason := validateCaptureModes_healthy h hreason

/-- A little-endian word. -/
def word (n : Nat) : Bytes := (List.range 4).map fun i => UInt8.ofNat (n >>> (8 * i))

/-- A device with one format, one frame size and one interval. -/
def smallDevice : Unit → (c : ModeCall) → ModeInterface.Answer c × Unit
  | _, .lstat _ => ((.ok () : Except Raised Unit), ())
  | _, .resolve identifier => ((.ok identifier : Except (Option Raised) String), ())
  | _, .stat _ => ((.ok true : Except Raised Bool), ())
  | _, .openDevice _ => ((.ok 3 : Except Raised Nat), ())
  | _, .fstat _ => ((.ok true : Except Raised Bool), ())
  | _, .queryCap _ =>
    ((.ok (List.replicate 84 0 ++ word capVideoCapture ++ List.replicate 16 0) :
      Except Raised Bytes), ())
  | _, .enumerate _ (.format queue 0) =>
    ((.ok ([0, queue, 0].flatMap word ++ List.replicate 32 0 ++ word 0x56595559 ++
      List.replicate 16 0) : Except Raised Bytes), ())
  | _, .enumerate _ (.frameSize pixelFormat 0) =>
    ((.ok ([0, pixelFormat, 1, 1920, 1080].flatMap word ++ List.replicate 24 0) :
      Except Raised Bytes), ())
  | _, .enumerate _ (.frameInterval pixelFormat width height 0) =>
    ((.ok ([0, pixelFormat, width, height, 1, 1, 30].flatMap word ++ List.replicate 24 0) :
      Except Raised Bytes), ())
  | _, .enumerate _ _ => ((.error (.osError (some einval)) : Except Raised Bytes), ())
  | _, .close _ => ((.ok () : Except Raised Unit), ())

example : ((enumerateModes "/dev/video0").play (I := ModeInterface) smallDevice ()).1.map
    (fun r => (r.reasonCode, r.formats.map fun f =>
      (f.fourcc, f.frameSizes.map fun s => (s.width, s.height, s.intervals.length)))) =
      .ok ("validated", [("YUYV", [(some 1920, some 1080, 1)])]) := by
  rfl

end Aurora.Hardware.Modes
