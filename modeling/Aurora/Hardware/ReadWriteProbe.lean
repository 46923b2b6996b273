/-
  The read/write capture-frame probe: at most one frame, read into one buffer.

  The acquisition is a row of stages, each skipped once there is a reason.  Whatever happened, the
  buffer is zeroed and the descriptor closed, and only then the reason is settled.
-/
import Aurora.Hardware.CaptureCalls

namespace Aurora.Hardware.ReadWrite

open Program

/-- The most requests of one probe. -/
def maxIoctls : Nat := 4
/-- The most reads. -/
def maxReads : Nat := 2

/-- The local variables of `_opened`. -/
structure Acquisition where
  reason : Option String
  capOk : Bool
  fmtOk : Bool
  pollAttempted : Bool
  readAttempted : Bool
  received : Bool
  format : Option (Nat × Nat × Nat)
  count : Option Int
  bufferWasAllocated : Bool
  ioctlsRemaining : Nat

/-- Nothing acquired yet. -/
def Acquisition.initial (reason : Option String) : Acquisition :=
  ⟨reason, false, false, false, false, false, none, none, false, maxIoctls⟩

/-- The acquisition ends for this reason. -/
def Acquisition.fail (reason : String) (s : Acquisition) : Acquisition :=
  { s with reason := some reason }

/-! ## Stages -/

/-- The device must be readable. -/
def queryCapability (fd : Nat) (deadline : ℚ) (s : Acquisition) : Capture Acquisition := do
  let (answer, left) ← ioctlWithRetry fd .queryCap deadline
    ⟨"capability_ioctl_interrupted_budget_exhausted", "querycap_not_supported",
      "capability_query_failed"⟩ s.ioctlsRemaining false
  match answer with
  | .error reason => pure { s with reason := some reason, ioctlsRemaining := left }
  | .ok response =>
    pure { s with
      reason := capabilityFailure capReadWrite "readwrite_io_not_supported" response
      capOk := true
      ioctlsRemaining := left }

/-- The current format must be one that fits. -/
def queryFormat (fd : Nat) (deadline : ℚ) (s : Acquisition) : Capture Acquisition := do
  if s.ioctlsRemaining = 0 then
    pure (s.fail "capability_ioctl_interrupted_budget_exhausted")
  else
    let (answer, left) ← ioctlWithRetry fd .getFormat deadline
      ⟨"current_format_ioctl_interrupted_budget_exhausted", "current_format_not_supported",
        "current_format_query_failed"⟩ s.ioctlsRemaining false
    match answer with
    | .error reason => pure { s with reason := some reason, ioctlsRemaining := left }
    | .ok response =>
      match formatValid response with
      | .error reason =>
        pure { s with reason := some reason, fmtOk := true, ioctlsRemaining := left }
      | .ok format =>
        pure { s with format := some format, fmtOk := true, ioctlsRemaining := left }

/-- Allocate a buffer for the frame. -/
def allocateBuffer (s : Acquisition) : Capture Acquisition := do
  match s.format with
  | none => raise .other
  | some (_, _, sizeimage) =>
    match ← attempt (.allocate sizeimage) with
    | .ok _ => pure { s with bufferWasAllocated := true }
    | .error .memoryError => pure (s.fail "frame_buffer_allocation_failed")
    | .error .overflowError => pure (s.fail "frame_buffer_allocation_failed")
    | .error raised => raise raised

/-- Wait for a frame. -/
def pollFrame (fd : Nat) (deadline : ℚ) (s : Acquisition) : Capture Acquisition := do
  let now ← readMonotonic
  if now ≥ deadline then pure (s.fail "validation_deadline_exceeded")
  else
    match ← attempt (.registerPoll fd) with
    | .error _ => pure (s.fail "poll_failed")
    | .ok _ =>
      let (reason, attempted) ← pollReady fd deadline maxPolls
      pure { s with reason := reason, pollAttempted := attempted }

/-- What `_read` returns: a reason, whether a read was attempted, whether a frame was received and
    its byte count. -/
structure ReadOutcome where
  reason : String
  attempted : Bool
  received : Bool
  count : Option Int

/-- What a byte count says about the buffer it was read into. -/
def readCount (size : Nat) (count : Int) : ReadOutcome :=
  if count = 0 then ⟨"frame_empty", true, false, some count⟩
  else if count < 0 ∨ count > size then ⟨"frame_byte_count_invalid", true, false, some count⟩
  else ⟨"validated", true, true, some count⟩

/-- `_read`, with some reads left. -/
def readFrame (fd size : Nat) (deadline : ℚ) : Nat → Capture ReadOutcome
  | 0 => pure ⟨"frame_read_interrupted_budget_exhausted", true, false, none⟩
  | left + 1 => do
    let now ← readMonotonic
    if now ≥ deadline then
      if left + 1 < maxReads then
        pure ⟨"frame_read_interrupted_budget_exhausted", true, false, none⟩
      else pure ⟨"validation_deadline_exceeded", false, false, none⟩
    else
      match ← attempt (.readInto fd) with
      | .ok count => pure (readCount size count)
      | .error (.osError errno) =>
        if errno = some eintr then readFrame fd size deadline left
        else if errno = some eagain then pure ⟨"frame_not_ready", true, false, none⟩
        else if errno = some enosys ∨ errno = some enotsup ∨ errno = some einval then
          pure ⟨"readv_not_supported", true, false, none⟩
        else pure ⟨"frame_read_failed", true, false, none⟩
      | .error _ => pure ⟨"unexpected_probe_failure", true, false, none⟩

/-- Read the frame. -/
def acquireFrame (fd : Nat) (deadline : ℚ) (s : Acquisition) : Capture Acquisition := do
  match s.format with
  | none => raise .other
  | some (_, _, sizeimage) =>
    let outcome ← readFrame fd sizeimage deadline maxReads
    pure { s with
      reason := some outcome.reason
      readAttempted := outcome.attempted
      received := outcome.received
      count := outcome.count }

/-- One stage of this probe. -/
def step (body : Acquisition → Capture Acquisition) (s : Acquisition) : Capture Acquisition :=
  stage Acquisition.reason Acquisition.fail body s

/-- Everything before the cleanup. -/
def acquire (fd : Nat) (deadline : ℚ) : Capture Acquisition := do
  let reason ← inspectDescriptor fd
  let s ← step (queryCapability fd deadline) (.initial reason)
  let s ← step (queryFormat fd deadline) s
  let s ← step allocateBuffer s
  let s ← step (pollFrame fd deadline) s
  step (acquireFrame fd deadline) s

/-! ## Cleanup -/

/-- Zero the buffer through a view; whether every byte was seen to be zero and the view
    released. -/
def wipeBuffer : Capture Bool := do
  match ← attempt .viewBuffer with
  | .error _ => pure false
  | .ok _ =>
    let wiped ← attempt .zeroView
    let released ← succeeds .releaseView
    match wiped with
    | .ok wiped => pure (wiped && released)
    | .error _ => pure false

/-- The reason after the cleanup. -/
def settleReason (s : Acquisition) (wiped closed : Bool) : Option String :=
  if s.bufferWasAllocated && !wiped then some "frame_buffer_wipe_failed"
  else if s.received && wiped && !closed then some "frame_received_cleanup_unconfirmed"
  else if !closed then some "descriptor_close_failed"
  else s.reason

/-- The result of a probe that opened the device. -/
def result (s : Acquisition) (wiped closed : Bool) : CaptureFrameProbeResult where
  reasonCode := (settleReason s wiped closed).getD "unexpected_probe_failure"
  deviceWasOpened := true
  descriptorWasClosed := closed
  capabilityQuerySucceeded := s.capOk
  currentFormatQuerySucceeded := s.fmtOk
  acquisitionMethod := if s.bufferWasAllocated then some "readwrite" else none
  pollWasAttempted := s.pollAttempted
  frameReadWasAttempted := s.readAttempted
  frameReceived := s.received
  frameByteCount := s.count
  currentWidth := s.format.map (·.1)
  currentHeight := s.format.map (·.2.1)
  currentSizeimage := s.format.map (·.2.2)
  frameBufferWipeCompleted := wiped
  cleanupCompleted := closed && (!s.bufferWasAllocated || wiped)
  streamingIoWasUsed := false
  bufferNegotiationSucceeded := false
  bufferWasMapped := false
  bufferWasQueued := false
  streamWasStarted := false
  frameDequeueWasAttempted := false
  streamWasStopped := false
  bufferWasUnmapped := false
  buffersWereReleased := false

/-- `_opened` -/
def opened (fd : Nat) (deadline : ℚ) : Capture CaptureFrameProbeResult := do
  let s ← acquire fd deadline
  let wiped ← whenDue s.bufferWasAllocated wipeBuffer
  let closed ← succeeds (.close fd)
  pure (result s wiped closed)

/-- `probe` -/
def probe (identifier : String) : Capture CaptureFrameProbeResult :=
  probeWith opened identifier

end Aurora.Hardware.ReadWrite
