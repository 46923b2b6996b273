/-
  The streaming capture-frame probe: one mapped buffer, queued, dequeued and given back.

  The cleanup goes through in one order whatever failed before it: stop the stream, wipe and unmap
  the buffer, release the buffers, close the descriptor.  A stream whose stop was not confirmed is
  stopped by closing the descriptor before the mapping is touched.
-/
import Aurora.Hardware.ReadWriteProbe

namespace Aurora.Hardware.Streaming

open Program

/-- The most requests of one probe. -/
def maxIoctls : Nat := 14
/-- The most buffers a driver may hand out. -/
def maxDriverBuffers : Nat := 8
/-- How often a request of the cleanup is tried. -/
def maxCleanupIoctlAttempts : Nat := 2

/-- The local variables of `_opened` before the cleanup. -/
structure Acquisition where
  reason : Option String
  capabilityQuerySucceeded : Bool
  currentFormatQuerySucceeded : Bool
  acquisitionMethod : Option String
  pollWasAttempted : Bool
  frameReceived : Bool
  frameByteCount : Option Nat
  format : Option (Nat × Nat × Nat)
  bufferNegotiationSucceeded : Bool
  bufferWasMapped : Bool
  bufferWasQueued : Bool
  streamWasStarted : Bool
  frameDequeueWasAttempted : Bool
  mapping : Option (Nat × Nat)
  ioctlsRemaining : Nat

/-- Nothing acquired yet. -/
def Acquisition.initial (reason : Option String) : Acquisition :=
  ⟨reason, false, false, none, false, false, none, none, false, false, false, false, false, none,
    maxIoctls⟩

/-- The acquisition ends for this reason. -/
def Acquisition.fail (reason : String) (s : Acquisition) : Acquisition :=
  { s with reason := some reason }

/-! ## Stages -/

/-- The device must be able to stream. -/
def queryCapability (fd : Nat) (deadline : ℚ) (s : Acquisition) : Capture Acquisition := do
  let (answer, left) ← ioctlWithRetry fd .queryCap deadline
    ⟨"capability_ioctl_interrupted_budget_exhausted", "querycap_not_supported",
      "capability_query_failed"⟩ s.ioctlsRemaining false
  match answer with
  | .error reason => pure { s with reason := some reason, ioctlsRemaining := left }
  | .ok response =>
    pure { s with
      reason := capabilityFailure capStreaming "streaming_io_not_supported" response
      capabilityQuerySucceeded := true
      ioctlsRemaining := left }

/-- The current format must be one that fits. -/
def queryFormat (fd : Nat) (deadline : ℚ) (s : Acquisition) : Capture Acquisition := do
  let (answer, left) ← ioctlWithRetry fd .getFormat deadline
    ⟨"current_format_ioctl_interrupted_budget_exhausted", "current_format_not_supported",
      "current_format_query_failed"⟩ s.ioctlsRemaining false
  match answer with
  | .error reason => pure { s with reason := some reason, ioctlsRemaining := left }
  | .ok response =>
    match formatValid response with
    | .error reason =>
      pure { s with
        reason := some reason, currentFormatQuerySucceeded := true, ioctlsRemaining := left }
    | .ok format =>
      pure { s with
        format := some format, currentFormatQuerySucceeded := true, ioctlsRemaining := left }

/-- Ask the driver for one buffer. -/
def negotiateBuffers (fd : Nat) (deadline : ℚ) (s : Acquisition) : Capture Acquisition := do
  let (answer, left) ← ioctlWithRetry fd (.requestBuffers 1) deadline
    ⟨"buffer_negotiation_ioctl_interrupted_budget_exhausted", "buffer_negotiation_not_supported",
      "buffer_negotiation_failed"⟩ s.ioctlsRemaining false
  match answer with
  | .error reason => pure { s with reason := some reason, ioctlsRemaining := left }
  | .ok response =>
    let returnedCount := u32 response 0
    if returnedCount < 1 then
      pure { s with reason := some "buffer_negotiation_empty", ioctlsRemaining := left }
    else
      pure { s with
        reason := if returnedCount > maxDriverBuffers then some "buffer_count_exceeds_limit"
          else none
        bufferNegotiationSucceeded := true
        acquisitionMethod := some "mmap"
        ioctlsRemaining := left }

/-- The buffer must be as it was asked for. -/
def queryBuffer (fd : Nat) (deadline : ℚ) (s : Acquisition) : Capture Acquisition := do
  let (answer, left) ← ioctlWithRetry fd .queryBuffer deadline
    ⟨"buffer_query_ioctl_interrupted_budget_exhausted", "buffer_query_not_supported",
      "buffer_query_failed"⟩ s.ioctlsRemaining false
  match answer with
  | .error reason => pure { s with reason := some reason, ioctlsRemaining := left }
  | .ok response =>
    match mappedBufferValid response with
    | .error reason => pure { s with reason := some reason, ioctlsRemaining := left }
    | .ok mapping => pure { s with mapping := some mapping, ioctlsRemaining := left }

/-- Map the buffer. -/
def mapBuffer (fd : Nat) (s : Acquisition) : Capture Acquisition := do
  match s.mapping with
  | none => raise .other
  | some (length, offset) =>
    match ← attempt (.map fd length offset) with
    | .ok _ => pure { s with bufferWasMapped := true }
    | .error .other => pure (s.fail "unexpected_probe_failure")
    | .error _ => pure (s.fail "buffer_map_failed")

/-- Hand the buffer to the driver. -/
def queueBuffer (fd : Nat) (deadline : ℚ) (s : Acquisition) : Capture Acquisition := do
  let (answer, left) ← ioctlWithRetry fd .queueBuffer deadline
    ⟨"buffer_queue_ioctl_interrupted_budget_exhausted", "buffer_queue_not_supported",
      "buffer_queue_failed"⟩ s.ioctlsRemaining false
  match answer with
  | .error reason => pure { s with reason := some reason, ioctlsRemaining := left }
  | .ok _ => pure { s with bufferWasQueued := true, ioctlsRemaining := left }

/-- Start the stream. -/
def startStream (fd : Nat) (deadline : ℚ) (s : Acquisition) : Capture Acquisition := do
  let (answer, left) ← ioctlWithRetry fd .streamOn deadline
    ⟨"stream_start_ioctl_interrupted_budget_exhausted", "stream_start_not_supported",
      "stream_start_failed"⟩ s.ioctlsRemaining false
  match answer with
  | .error reason => pure { s with reason := some reason, ioctlsRemaining := left }
  | .ok _ => pure { s with streamWasStarted := true, ioctlsRemaining := left }

/-- Wait for a frame. -/
def pollFrame (fd : Nat) (deadline : ℚ) (s : Acquisition) : Capture Acquisition := do
  match ← attempt (.registerPoll fd) with
  | .error _ => pure (s.fail "poll_failed")
  | .ok _ =>
    let (reason, attempted) ← pollReady fd deadline maxPolls
    pure { s with reason := reason, pollWasAttempted := attempted }

/-- `_dequeue_with_retry`, with some attempts left: the response or a reason, whether a dequeue was
    attempted and what is left. -/
def dequeueWithRetry (fd : Nat) (deadline : ℚ) :
    Nat → Bool → Bool → Capture (Except String Bytes × Bool × Nat)
  | 0, _, attempted =>
    pure (.error "frame_dequeue_ioctl_interrupted_budget_exhausted", attempted, 0)
  | left + 1, wasInterrupted, attempted => do
    let now ← readMonotonic
    if now ≥ deadline then
      pure (.error (if wasInterrupted then "frame_dequeue_ioctl_interrupted_budget_exhausted"
        else "validation_deadline_exceeded"), attempted, left + 1)
    else
      match ← attempt (.ioctl fd .dequeueBuffer) with
      | .ok response => pure (.ok response, true, left)
      | .error (.osError errno) =>
        if errno = some eintr then dequeueWithRetry fd deadline left true true
        else if errno = some eagain then pure (.error "frame_not_ready", true, left)
        else if errno = some enotty ∨ errno = some einval then
          pure (.error "frame_dequeue_not_supported", true, left)
        else pure (.error "frame_dequeue_failed", true, left)
      | .error _ => pure (.error "unexpected_probe_failure", true, left)

/-- Take the frame back from the driver. -/
def dequeueFrame (fd : Nat) (deadline : ℚ) (s : Acquisition) : Capture Acquisition := do
  match s.format, s.mapping with
  | some (_, _, sizeimage), some (length, _) =>
    let (answer, attempted, left) ← dequeueWithRetry fd deadline s.ioctlsRemaining false false
    match answer with
    | .error reason =>
      pure { s with
        reason := some reason, frameDequeueWasAttempted := attempted, ioctlsRemaining := left }
    | .ok response =>
      let (frameByteCount, reason) := dequeuedFrameValid response sizeimage length
      pure { s with
        reason := some reason
        frameDequeueWasAttempted := attempted
        frameByteCount := frameByteCount
        frameReceived := reason = "validated"
        ioctlsRemaining := left }
  | _, _ => raise .other

/-- One stage of this probe. -/
def step (body : Acquisition → Capture Acquisition) (s : Acquisition) : Capture Acquisition :=
  stage Acquisition.reason Acquisition.fail body s

/-- Everything before the cleanup. -/
def acquire (fd : Nat) (deadline : ℚ) : Capture Acquisition := do
  let reason ← inspectDescriptor fd
  let s ← step (queryCapability fd deadline) (.initial reason)
  let s ← step (queryFormat fd deadline) s
  let s ← step (negotiateBuffers fd deadline) s
  let s ← step (queryBuffer fd deadline) s
  let s ← step (mapBuffer fd) s
  let s ← step (queueBuffer fd deadline) s
  let s ← step (startStream fd deadline) s
  let s ← step (pollFrame fd deadline) s
  step (dequeueFrame fd deadline) s

/-! ## Cleanup -/

/-- `_cleanup_ioctl`, with some attempts left. -/
def cleanupIoctl (fd : Nat) (request : Ioctl) : Nat → Capture Bool
  | 0 => pure false
  | left + 1 => do
    match ← attempt (.ioctl fd request) with
    | .ok _ => pure true
    | .error (.osError errno) =>
      if errno = some eintr then cleanupIoctl fd request left else pure false
    | .error _ => pure false

/-- The local variables the cleanup assigns. -/
structure Cleanup where
  streamWasStopped : Bool
  bufferWasUnmapped : Bool
  buffersWereReleased : Bool
  frameBufferWipeCompleted : Bool
  descriptorWasClosed : Bool
deriving DecidableEq, Repr

/-- Whether the stream was stopped, and whether the descriptor was closed because it was not. -/
def stopStream (fd : Nat) (s : Acquisition) : Capture (Bool × Bool) := do
  if s.streamWasStarted then
    let stopped ← cleanupIoctl fd .streamOff maxCleanupIoctlAttempts
    if stopped then pure (true, false)
    else
      let closed ← succeeds (.close fd)
      pure (false, closed)
  else pure (false, false)

/-- Overwrite the mapped frame. -/
def wipeMapped : Capture Bool := do
  match ← attempt .wipeMapped with
  | .ok wiped => pure wiped
  | .error _ => pure false

/-- Whether the buffer was wiped, and whether it was unmapped. -/
def releaseMapping (s : Acquisition) (stopped closed : Bool) : Capture (Bool × Bool) := do
  if s.bufferWasMapped then
    let wiped ← whenDue (!s.streamWasStarted || stopped || closed) wipeMapped
    let unmapped ← succeeds .unmap
    pure (wiped, unmapped)
  else pure (false, false)

/-- The `finally` block. -/
def cleanup (fd : Nat) (s : Acquisition) : Capture Cleanup := do
  let (stopped, closedEarly) ← stopStream fd s
  let (wiped, unmapped) ← releaseMapping s stopped closedEarly
  let released ← whenDue (s.bufferNegotiationSucceeded && !closedEarly)
    (cleanupIoctl fd (.requestBuffers 0) maxCleanupIoctlAttempts)
  let closedAtEnd ← whenDue (!closedEarly) (succeeds (.close fd))
  pure ⟨stopped, unmapped, released, wiped, closedEarly || closedAtEnd⟩

/-- The reason after the cleanup. -/
def settleReason (s : Acquisition) (c : Cleanup) : Option String :=
  if s.bufferWasMapped && !c.frameBufferWipeCompleted then some "frame_buffer_wipe_failed"
  else if s.streamWasStarted && !c.streamWasStopped then some "stream_stop_failed"
  else if s.bufferWasMapped && !c.bufferWasUnmapped then some "buffer_unmap_failed"
  else if s.bufferNegotiationSucceeded && !c.buffersWereReleased then
    some "buffer_release_failed"
  else if !c.descriptorWasClosed then
    some (if s.frameReceived then "frame_received_cleanup_unconfirmed"
      else "descriptor_close_failed")
  else s.reason

/-- The result of a probe that opened the device. -/
def result (s : Acquisition) (c : Cleanup) : CaptureFrameProbeResult where
  reasonCode := (settleReason s c).getD "unexpected_probe_failure"
  deviceWasOpened := true
  descriptorWasClosed := c.descriptorWasClosed
  capabilityQuerySucceeded := s.capabilityQuerySucceeded
  currentFormatQuerySucceeded := s.currentFormatQuerySucceeded
  acquisitionMethod := s.acquisitionMethod
  pollWasAttempted := s.pollWasAttempted
  frameReadWasAttempted := false
  frameReceived := s.frameReceived
  frameByteCount := s.frameByteCount.map Int.ofNat
  currentWidth := s.format.map (·.1)
  currentHeight := s.format.map (·.2.1)
  currentSizeimage := s.format.map (·.2.2)
  frameBufferWipeCompleted := c.frameBufferWipeCompleted
  cleanupCompleted := c.descriptorWasClosed && (!s.streamWasStarted || c.streamWasStopped) &&
    (!s.bufferWasMapped || (c.frameBufferWipeCompleted && c.bufferWasUnmapped)) &&
    (!s.bufferNegotiationSucceeded || c.buffersWereReleased)
  streamingIoWasUsed := s.acquisitionMethod == some "mmap"
  bufferNegotiationSucceeded := s.bufferNegotiationSucceeded
  bufferWasMapped := s.bufferWasMapped
  bufferWasQueued := s.bufferWasQueued
  streamWasStarted := s.streamWasStarted
  frameDequeueWasAttempted := s.frameDequeueWasAttempted
  streamWasStopped := c.streamWasStopped
  bufferWasUnmapped := c.bufferWasUnmapped
  buffersWereReleased := c.buffersWereReleased

/-- `_opened` -/
def opened (fd : Nat) (deadline : ℚ) : Capture CaptureFrameProbeResult := do
  let s ← acquire fd deadline
  let c ← cleanup fd s
  pure (result s c)

/-- `probe` -/
def probe (identifier : String) : Capture CaptureFrameProbeResult :=
  probeWith opened identifier

end Aurora.Hardware.Streaming

namespace Aurora.Hardware.Adaptive

/-- Read/write first, and the mapped buffer where the device has no read/write. -/
def probe (identifier : String) : Capture CaptureFrameProbeResult := do
  let result ← ReadWrite.probe identifier
  if result.reasonCode ≠ "readwrite_io_not_supported" then pure result
  else Streaming.probe identifier

end Aurora.Hardware.Adaptive
