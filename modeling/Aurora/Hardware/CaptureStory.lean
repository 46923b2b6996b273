/-
  What a transcript of a streaming probe tells.

  `Story.after` reads one exchange: what the device has agreed to, what it was asked to take back and
  what it confirmed.  A successful open begins a new story.  `storyMonitor` reads a whole run this
  way and refuses a wipe or an unmapping that comes at the wrong moment.
-/
import Aurora.Hardware.StreamingProbe

namespace Aurora.Hardware

open Program

/-- A call with its answer. -/
abbrev CaptureExchange : Type := Exchange CaptureInterface

/-- What a transcript tells of a probe. -/
structure Story where
  format : Option (Nat × Nat × Nat) := none
  negotiated : Bool := false
  mapping : Option (Nat × Nat) := none
  mapped : Bool := false
  started : Bool := false
  dequeued : Option Bytes := none
  stopAttempted : Bool := false
  stopped : Bool := false
  wipeAttempted : Bool := false
  wiped : Bool := false
  unmapAttempted : Bool := false
  unmapped : Bool := false
  releaseAttempted : Bool := false
  released : Bool := false
  closes : Nat := 0
  closed : Bool := false
  /-- A close succeeded while the stream might still be active. -/
  closedActive : Bool := false
  /-- A close failed while the stream might still be active. -/
  lostActive : Bool := false
deriving DecidableEq, Repr

namespace Story

/-- The stream was started, and nothing that ends it is confirmed. -/
def MayBeActive (m : Story) : Prop := m.started = true ∧ m.stopped = false ∧ m.closed = false

instance (m : Story) : Decidable m.MayBeActive := inferInstanceAs (Decidable (_ ∧ _))

/-- The story after one more exchange. -/
def after (m : Story) : (c : CaptureCall) → Except Raised (CaptureValue c) → Story
  | .openDevice _, .ok _ => {}
  | .ioctl _ .getFormat, .ok response =>
    { m with format := (formatValid response).toOption <|> m.format }
  | .ioctl _ (.requestBuffers 0), answer =>
    { m with releaseAttempted := true, released := m.released || answer.isOk }
  | .ioctl _ (.requestBuffers _), .ok response =>
    { m with negotiated := m.negotiated || decide (1 ≤ u32 response 0) }
  | .ioctl _ .queryBuffer, .ok response =>
    { m with mapping := (mappedBufferValid response).toOption <|> m.mapping }
  | .map _ _ _, .ok _ => { m with mapped := true }
  | .ioctl _ .streamOn, .ok _ => { m with started := true }
  | .ioctl _ .dequeueBuffer, .ok response => { m with dequeued := some response }
  | .ioctl _ .streamOff, answer =>
    { m with stopAttempted := true, stopped := m.stopped || answer.isOk }
  | .wipeMapped, answer => { m with wipeAttempted := true, wiped := answer.toOption.getD false }
  | .unmap, answer => { m with unmapAttempted := true, unmapped := answer.isOk }
  | .close _, answer =>
    { m with
      closes := m.closes + 1
      closed := m.closed || answer.isOk
      closedActive := m.closedActive || (answer.isOk && decide m.MayBeActive)
      lostActive := m.lostActive || (!answer.isOk && decide m.MayBeActive) }
  | _, _ => m

section After

variable {m : Story} {fd : Nat} {response : Bytes}

theorem after_getFormat_error {reason : String} (h : formatValid response = .error reason) :
    m.after (.ioctl fd .getFormat) (.ok response) = m := by
  simp [after, h, Except.toOption]

theorem after_getFormat_ok {format : Nat × Nat × Nat} (h : formatValid response = .ok format) :
    m.after (.ioctl fd .getFormat) (.ok response) = { m with format := some format } := by
  simp [after, h, Except.toOption]

theorem after_requestBuffers : m.after (.ioctl fd (.requestBuffers 1)) (.ok response) =
    { m with negotiated := m.negotiated || decide (1 ≤ u32 response 0) } := rfl

theorem after_queryBuffer_error {reason : String} (h : mappedBufferValid response = .error reason) :
    m.after (.ioctl fd .queryBuffer) (.ok response) = m := by
  simp [after, h, Except.toOption]

theorem after_queryBuffer_ok {mapping : Nat × Nat} (h : mappedBufferValid response = .ok mapping) :
    m.after (.ioctl fd .queryBuffer) (.ok response) = { m with mapping := some mapping } := by
  simp [after, h, Except.toOption]

end After

/-- What a call adds to the story. -/
def observe (m : Story) (x : CaptureExchange) : Story := m.after x.1 x.2

/-- A wipe comes while the stream is not active and the buffer still mapped, an unmapping after a
    wipe unless the stream may be active. -/
def Legal (m : Story) (x : CaptureExchange) : Prop :=
  match x.1 with
  | .wipeMapped => ¬m.MayBeActive ∧ m.unmapAttempted = false
  | .unmap => m.wipeAttempted = true ∨ m.MayBeActive
  | _ => True

instance (m : Story) (x : CaptureExchange) : Decidable (m.Legal x) := by
  unfold Legal
  split <;> infer_instance

end Story

/-- The story, as long as every call is legal. -/
def storyMonitor : Story → CaptureExchange → Option Story := guarded Story.observe Story.Legal

/-- The story a transcript tells. -/
def story (t : List CaptureExchange) : Story := t.foldl Story.observe {}

/-! ## Rules -/

/-- A probe passes through a story. -/
abbrev Tells {α : Type} (p : Capture α) (m : Story) (Q : Except Raised α → Story → Prop) : Prop :=
  p.Passes storyMonitor m Q

variable {α : Type} {m : Story}

theorem monitor_legal {c : CaptureCall} {answer : Except Raised (CaptureValue c)}
    (h : m.Legal ⟨c, answer⟩) : storyMonitor m ⟨c, answer⟩ = some (m.after c answer) :=
  guarded_of_legal h

theorem tells_attempt_bind {c : CaptureCall} {f : Except Raised (CaptureValue c) → Capture α}
    {Q : Except Raised α → Story → Prop} (hlegal : ∀ answer, m.Legal ⟨c, answer⟩)
    (hf : ∀ answer, Tells (f answer) (m.after c answer) Q) : Tells (attempt c >>= f) m Q :=
  passes_ask_bind.mpr fun answer => ⟨m.after c answer, monitor_legal (hlegal answer), hf answer⟩

/-- A legal call, then what follows either answer. -/
theorem tells_perform_bind {c : CaptureCall} {f : CaptureValue c → Capture α}
    {Q : Except Raised α → Story → Prop} (hlegal : ∀ answer, m.Legal ⟨c, answer⟩)
    (hok : ∀ value, Tells (f value) (m.after c (.ok value)) Q)
    (herror : ∀ e, Q (.error e) (m.after c (.error e))) : Tells (perform c >>= f) m Q := by
  refine passes_invoke_bind.mpr fun answer =>
    ⟨m.after c answer, monitor_legal (hlegal answer), ?_⟩
  cases answer with
  | ok value => exact hok value
  | error e => exact herror e

/-- The clock tells nothing of the device. -/
theorem tells_readMonotonic_bind {f : ℚ → Capture α} {Q : Except Raised α → Story → Prop}
    (hok : ∀ now, Tells (f now) m Q) (herror : ∀ e, Q (.error e) m) :
    Tells (readMonotonic >>= f) m Q :=
  tells_perform_bind (fun _ => trivial) hok herror

/-- A recorded call. -/
theorem tells_succeeds {c : CaptureCall} {Q : Except Raised Bool → Story → Prop}
    (hlegal : ∀ answer, m.Legal ⟨c, answer⟩)
    (hok : ∀ value, Q (.ok true) (m.after c (.ok value)))
    (herror : ∀ e, Q (.ok false) (m.after c (.error e))) : Tells (succeeds c) m Q := by
  refine tells_attempt_bind hlegal fun answer => ?_
  cases answer with
  | ok value => exact hok value
  | error e => exact herror e

/-- A step of the cleanup that may not be due. -/
theorem tells_whenDue {due : Bool} {p : Capture Bool} {Q : Except Raised Bool → Story → Prop}
    (hskip : due = false → Q (.ok false) m) (hp : due = true → Tells p m Q) :
    Tells (whenDue due p) m Q := by
  cases due with
  | false => exact hskip rfl
  | true => exact hp rfl

/-- A stage that is skipped keeps its state; one that raises only gives it a reason. -/
theorem tells_stage {σ : Type} {reason : σ → Option String} {fail : String → σ → σ}
    {body : σ → Capture σ} {s : σ} {Q : σ → Story → Prop} (hskip : reason s ≠ none → Q s m)
    (hbody : reason s = none → Tells (body s) m fun
      | .ok s', m' => Q s' m'
      | .error _, m' => Q (fail "unexpected_probe_failure" s) m') :
    Tells (stage reason fail body s) m fun r m' => ∃ s', r = .ok s' ∧ Q s' m' := by
  unfold stage
  split
  next h => exact ⟨s, rfl, hskip (by simp [h])⟩
  next h =>
    refine passes_bind.mpr (passes_catching.mpr ((hbody h).mono ?_))
    rintro (e | s') m' hQ
    · exact ⟨_, rfl, hQ⟩
    · exact ⟨s', rfl, hQ⟩

/-! ## Reasons -/

/-- The reasons that say how the cleanup ended, and the one of a frame. -/
def settledReasons : List String :=
  ["validated", "frame_received_cleanup_unconfirmed", "frame_buffer_wipe_failed",
    "descriptor_close_failed"]

/-- A reason of the acquisition alone. -/
def Plain (reason : String) : Prop := reason ∉ settledReasons

instance (reason : String) : Decidable (Plain reason) := inferInstanceAs (Decidable (¬_))

/-- None of the reasons is one of the cleanup. -/
def IoctlReasons.Plain (reasons : IoctlReasons) : Prop :=
  Hardware.Plain reasons.interrupted ∧ Hardware.Plain reasons.unsupported ∧
    Hardware.Plain reasons.failed

instance (reasons : IoctlReasons) : Decidable reasons.Plain :=
  inferInstanceAs (Decidable (_ ∧ _))

theorem plain_unexpected : Plain "unexpected_probe_failure" := by decide

/-- A missing capability is a plain reason. -/
theorem plain_capabilityFailure {wanted : Nat} {missing reason : String} {response : Bytes}
    (hmissing : Plain missing) (h : capabilityFailure wanted missing response = some reason) :
    Plain reason := by
  unfold capabilityFailure at h
  split at h
  · obtain rfl := Option.some.inj h
    decide
  · obtain rfl := Option.some.inj h
    decide
  · obtain rfl := Option.some.inj h
    exact hmissing
  · cases h

theorem plain_formatValid {reason : String} {response : Bytes}
    (h : formatValid response = .error reason) : Plain reason := by
  unfold formatValid at h
  dsimp only at h
  repeat' split at h
  all_goals cases h
  all_goals decide

theorem plain_mappedBufferValid {reason : String} {response : Bytes}
    (h : mappedBufferValid response = .error reason) : Plain reason := by
  unfold mappedBufferValid at h
  dsimp only at h
  repeat' split at h
  all_goals cases h
  all_goals decide

theorem plain_dequeuedFrameValid {response : Bytes} {sizeimage length : Nat} {reason : String}
    {count : Option Nat} (h : dequeuedFrameValid response sizeimage length = (count, reason)) :
    Plain reason ∨ reason = "validated" := by
  unfold dequeuedFrameValid at h
  dsimp only at h
  repeat' split at h
  all_goals cases h
  all_goals decide

theorem plain_pollEvents {fd : Nat} {events : List (Nat × Nat)} {reason : String}
    (h : pollEvents fd events = some reason) : Plain reason := by
  unfold pollEvents at h
  repeat' split at h
  all_goals cases h
  all_goals decide

/-! ## The shared loops -/

variable {fd : Nat} {deadline : ℚ}

/-- A failed attempt and a reading of the clock are no news; what the request answers is. -/
theorem tells_ioctlWithRetry {request : Ioctl} {reasons : IoctlReasons} (hreasons : reasons.Plain)
    {Q : Except Raised (Except String Bytes × Nat) → Story → Prop}
    (hnews : ∀ e, m.after (.ioctl fd request) (.error e) = m) (hraise : ∀ e, Q (.error e) m)
    (hfail : ∀ reason left, Plain reason → Q (.ok (.error reason, left)) m)
    (hok : ∀ response left,
      Q (.ok (.ok response, left)) (m.after (.ioctl fd request) (.ok response)))
    (left : Nat) (wasInterrupted : Bool) :
    Tells (ioctlWithRetry fd request deadline reasons left wasInterrupted) m Q := by
  induction left generalizing wasInterrupted with
  | zero => exact hfail _ _ hreasons.1
  | succ left ih =>
    refine tells_readMonotonic_bind (fun now => ?_) hraise
    split
    · refine hfail _ _ ?_
      split
      · exact hreasons.1
      · decide
    · refine tells_attempt_bind (fun _ => trivial) fun answer => ?_
      cases answer with
      | ok response => exact hok response left
      | error raised =>
        rw [hnews]
        cases raised with
        | osError errno =>
          dsimp only
          split
          · exact ih true
          · split
            · exact hfail _ _ hreasons.2.1
            · exact hfail _ _ hreasons.2.2
        | _ => exact hfail _ _ plain_unexpected

/-- Polling is no news. -/
theorem tells_pollReady {Q : Except Raised (Option String × Bool) → Story → Prop}
    (hraise : ∀ e, Q (.error e) m)
    (hdone : ∀ reason attempted, (∀ r, reason = some r → Plain r) →
      (reason = none → attempted = true) → Q (.ok (reason, attempted)) m) (left : Nat) :
    Tells (pollReady fd deadline left) m Q := by
  have hfail : ∀ reason attempted, Plain reason → Q (.ok (some reason, attempted)) m :=
    fun reason attempted h => hdone _ _ (fun r hr => Option.some.inj hr ▸ h) (by simp)
  induction left with
  | zero => exact hfail _ _ (by decide)
  | succ left ih =>
    refine tells_readMonotonic_bind (fun now => ?_) hraise
    dsimp only
    split
    · split
      · exact hfail _ _ (by decide)
      · exact hfail _ _ (by decide)
    · refine tells_attempt_bind (fun _ => trivial) fun answer => ?_
      cases answer with
      | ok events => exact hdone _ _ (fun r hr => plain_pollEvents hr) (fun _ => rfl)
      | error raised =>
        cases raised with
        | osError errno =>
          dsimp only
          split
          · exact ih
          · exact hfail _ _ (by decide)
        | _ => exact hfail _ _ plain_unexpected

/-- The descriptor is looked at before anything is news. -/
theorem tells_inspectDescriptor :
    Tells (inspectDescriptor fd) m fun r m' =>
      m' = m ∧ ∃ reason, r = .ok reason ∧ ∀ x, reason = some x → Plain x := by
  unfold inspectDescriptor
  refine tells_attempt_bind (fun _ => trivial) fun answer => ?_
  have hfail : ∀ reason, Plain reason →
      m = m ∧ ∃ r, (.ok (some reason) : Except Raised (Option String)) = .ok r ∧
        ∀ x, r = some x → Plain x :=
    fun reason h => ⟨rfl, _, rfl, fun x hx => Option.some.inj hx ▸ h⟩
  cases answer with
  | ok isCharacterDevice =>
    cases isCharacterDevice with
    | true => exact ⟨rfl, none, rfl, fun x hx => by cases hx⟩
    | false => exact hfail _ (by decide)
  | error raised =>
    cases raised with
    | osError _ => exact hfail _ (by decide)
    | _ => exact hfail _ plain_unexpected

/-- A probe that does not open the device tells nothing new; one that does begins a story. -/
theorem tells_probeWith {opened : Nat → ℚ → Capture CaptureFrameProbeResult} {identifier : String}
    {Q : Except Raised CaptureFrameProbeResult → Story → Prop}
    (hunopened : ∀ reason, Q (.ok (.unopened reason)) m)
    (hopened : ∀ fd deadline, Tells (opened fd deadline) {} Q) :
    Tells (probeWith opened identifier) m Q := by
  have htarget : Tells (openTarget identifier) m fun r m' =>
      (∃ fd deadline, r = .ok (.inr (fd, deadline)) ∧ m' = {}) ∨
        m' = m ∧ ((∃ e, r = .error e) ∨ ∃ reason, r = .ok (.inl (.unopened reason))) := by
    refine tells_perform_bind (fun _ => trivial) (fun supported => ?_) fun e => ?_
    · split
      · exact .inr ⟨rfl, .inr ⟨_, rfl⟩⟩
      refine tells_readMonotonic_bind (fun now => ?_) fun e => .inr ⟨rfl, .inl ⟨e, rfl⟩⟩
      refine tells_perform_bind (fun _ => trivial) (fun validated => ?_) fun e => ?_
      · dsimp only
        split
        · exact .inr ⟨rfl, .inr ⟨_, rfl⟩⟩
        · exact .inr ⟨rfl, .inr ⟨_, rfl⟩⟩
        refine tells_attempt_bind (fun _ => trivial) fun answer => ?_
        cases answer with
        | ok fd => exact .inl ⟨fd, _, rfl, rfl⟩
        | error raised =>
          cases raised with
          | osError errno => exact .inr ⟨rfl, .inr ⟨_, rfl⟩⟩
          | _ => exact .inr ⟨rfl, .inl ⟨_, rfl⟩⟩
      · exact .inr ⟨rfl, .inl ⟨e, rfl⟩⟩
    · exact .inr ⟨rfl, .inl ⟨e, rfl⟩⟩
  unfold probeWith
  refine passes_bind.mpr (passes_catching.mpr (htarget.mono ?_))
  rintro r m' (⟨fd, deadline, rfl, rfl⟩ | ⟨rfl, ⟨e, rfl⟩ | ⟨reason, rfl⟩⟩)
  · exact hopened fd deadline
  · exact hunopened _
  · exact hunopened _

end Aurora.Hardware
