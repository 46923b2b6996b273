/-
  What the capture-frame probes call, and the driver responses they read.

  Every call of a probe may raise.  The probes tell an `OSError` from the other exceptions, and the
  mapping and the allocation tell a few more, so an answer is a value or one of these.  A response
  is the byte buffer an ioctl fills in; its fields are little-endian words at fixed offsets.
-/
import Mathlib.Data.Rat.Floor
import Aurora.Lib.Monitor

namespace Aurora.Hardware

open Program

/-! ## Calls -/

/-- What a call to the operating system raises. -/
inductive Raised
  | osError (errno : Option Nat)
  | memoryError
  | overflowError
  | valueError
  | other
deriving DecidableEq, Repr

/-- Not permitted. -/
def eperm : Nat := 1
/-- No such file. -/
def enoent : Nat := 2
/-- Interrupted system call. -/
def eintr : Nat := 4
/-- No such device or address. -/
def enxio : Nat := 6
/-- Try again. -/
def eagain : Nat := 11
/-- Permission denied. -/
def eacces : Nat := 13
/-- The device is busy. -/
def ebusy : Nat := 16
/-- No such device. -/
def enodev : Nat := 19
/-- Invalid argument. -/
def einval : Nat := 22
/-- The device does not know this request. -/
def enotty : Nat := 25
/-- Not implemented. -/
def enosys : Nat := 38
/-- Not supported. -/
def enotsup : Nat := 95

/-- A buffer. -/
abbrev Bytes : Type := List UInt8

/-- The V4L2 requests the probes make. -/
inductive Ioctl
  | queryCap
  | getFormat
  | requestBuffers (count : Nat)
  | queryBuffer
  | queueBuffer
  | dequeueBuffer
  | streamOn
  | streamOff
deriving DecidableEq, Repr

/-- The calls of the capture probes. -/
inductive CaptureCall
  | abiSupported
  | monotonic
  | validateTarget (identifier : String)
  | openDevice (target : String)
  | fstat (fd : Nat)
  | ioctl (fd : Nat) (request : Ioctl)
  | registerPoll (fd : Nat)
  | poll (timeoutMs : Int)
  | allocate (size : Nat)
  | readInto (fd : Nat)
  | viewBuffer
  | zeroView
  | releaseView
  | map (fd length offset : Nat)
  | wipeMapped
  | unmap
  | close (fd : Nat)
deriving DecidableEq, Repr

/-- A poll returns descriptors with their event masks, a wipe whether every byte reads zero. -/
def CaptureValue : CaptureCall → Type
  | .abiSupported => Bool
  | .monotonic => ℚ
  | .validateTarget _ => Option String × Option String
  | .openDevice _ => Nat
  | .fstat _ => Bool
  | .ioctl _ _ => Bytes
  | .registerPoll _ => Unit
  | .poll _ => List (Nat × Nat)
  | .allocate _ => Unit
  | .readInto _ => Int
  | .viewBuffer => Unit
  | .zeroView => Bool
  | .releaseView => Unit
  | .map _ _ _ => Unit
  | .wipeMapped => Bool
  | .unmap => Unit
  | .close _ => Unit

/-- Every call may raise instead of returning its value. -/
def CaptureInterface : Interface := ⟨CaptureCall, fun c => Except Raised (CaptureValue c)⟩

/-- Programs of a probe. -/
abbrev Capture (α : Type) : Type := Program CaptureInterface Raised α

/-- Make a call and look at how it ended. -/
def attempt (c : CaptureCall) : Capture (Except Raised (CaptureValue c)) :=
  ask (I := CaptureInterface) c

/-- Make a call whose exception goes through. -/
def perform (c : CaptureCall) : Capture (CaptureValue c) :=
  invoke (I := CaptureInterface) c id

/-- Whether the structures of the driver are laid out as expected. -/
def abiSupported : Capture Bool := perform .abiSupported

/-- A reading of the monotonic clock. -/
def readMonotonic : Capture ℚ := perform .monotonic

/-- Resolve the device identifier: a target, or the reason there is none. -/
def validateTarget (identifier : String) : Capture (Option String × Option String) :=
  perform (.validateTarget identifier)

/-! ## Responses -/

/-- The 32-bit word at an offset, least significant byte first. -/
def u32 (buffer : Bytes) (offset : Nat) : Nat :=
  ((buffer.drop offset).take 4).foldr (fun byte rest => byte.toNat + 256 * rest) 0

/-- The size of a capability buffer. -/
def capabilitySize : Nat := 104
/-- The device captures video. -/
def capVideoCapture : Nat := 1
/-- The device can be read. -/
def capReadWrite : Nat := 0x01000000
/-- The device streams. -/
def capStreaming : Nat := 0x04000000
/-- The capabilities of the node are reported apart. -/
def capDeviceCaps : Nat := 0x80000000
/-- The type of a video capture buffer. -/
def videoCapture : Nat := 1
/-- The memory of a mapped buffer. -/
def memoryMmap : Nat := 1
/-- Where a buffer description has its index, -/
def bufferIndexOffset : Nat := 0
/-- its type, -/
def bufferTypeOffset : Nat := 4
/-- the bytes it holds, -/
def bufferBytesusedOffset : Nat := 8
/-- its memory, -/
def bufferMemoryOffset : Nat := 60
/-- the offset it is mapped at, -/
def bufferOffsetOffset : Nat := 64
/-- and its length. -/
def bufferLengthOffset : Nat := 72

/-- The widest frame. -/
def maxWidth : Nat := 8192
/-- The highest frame. -/
def maxHeight : Nat := 8192
/-- The largest frame, in bytes. -/
def maxSizeimage : Nat := 8 * 1024 * 1024

/-- Whether the device captures, and whether it has the wanted way of reading frames. -/
def capabilitiesValid (wanted : Nat) (response : Bytes) : Option (Bool × Bool) :=
  if response.length ≠ capabilitySize ∨ (response.drop 92).any (· ≠ 0) then none
  else
    let capabilities := u32 response 84
    let deviceCapabilities := u32 response 88
    let effective :=
      if capabilities &&& capDeviceCaps ≠ 0 then deviceCapabilities else capabilities
    some (effective &&& capVideoCapture ≠ 0, effective &&& wanted ≠ 0)

/-- `_format_valid`: width, height and image size of the current format. -/
def formatValid (response : Bytes) : Except String (Nat × Nat × Nat) :=
  if response.length ≠ 208 ∨ u32 response 0 ≠ videoCapture then
    .error "invalid_current_format_response"
  else
    let width := u32 response 8
    let height := u32 response 12
    let sizeimage := u32 response 28
    if ¬(1 ≤ width ∧ width ≤ maxWidth ∧ 1 ≤ height ∧ height ≤ maxHeight) then
      .error "current_format_dimensions_invalid"
    else if sizeimage < 1 then .error "frame_size_invalid"
    else if sizeimage > maxSizeimage then .error "frame_size_exceeds_limit"
    else .ok (width, height, sizeimage)

/-- What an accepted format is bounded by. -/
theorem formatValid_bounds {response : Bytes} {width height sizeimage : Nat}
    (h : formatValid response = .ok (width, height, sizeimage)) :
    (1 ≤ width ∧ width ≤ maxWidth) ∧ (1 ≤ height ∧ height ≤ maxHeight) ∧
      1 ≤ sizeimage ∧ sizeimage ≤ maxSizeimage := by
  unfold formatValid at h
  dsimp only at h
  split at h
  · cases h
  split at h
  · cases h
  next hdims =>
  split at h
  · cases h
  next hsmall =>
  split at h
  · cases h
  next hlarge =>
  obtain ⟨hwidth, hrest⟩ := Prod.mk.inj (Except.ok.inj h)
  obtain ⟨hheight, hsize⟩ := Prod.mk.inj hrest
  subst hwidth hheight hsize
  obtain ⟨hw, hw', hh, hh'⟩ := not_not.mp hdims
  exact ⟨⟨hw, hw'⟩, ⟨hh, hh'⟩, by omega, by omega⟩

/-- The response describes the one mapped capture buffer. -/
def IsCaptureBuffer (response : Bytes) : Prop :=
  response.length = 88 ∧ u32 response bufferIndexOffset = 0 ∧
    u32 response bufferTypeOffset = videoCapture ∧ u32 response bufferMemoryOffset = memoryMmap

instance (response : Bytes) : Decidable (IsCaptureBuffer response) :=
  inferInstanceAs (Decidable (_ ∧ _))

/-- The largest mapping, in bytes. -/
def maxMmapLength : Nat := 16 * 1024 * 1024

/-- `_mapped_buffer_valid`: length and offset of the buffer to map. -/
def mappedBufferValid (response : Bytes) : Except String (Nat × Nat) :=
  if ¬IsCaptureBuffer response then .error "invalid_buffer_query_response"
  else
    let length := u32 response bufferLengthOffset
    let offset := u32 response bufferOffsetOffset
    if length < 1 then .error "mapped_buffer_length_invalid"
    else if length > maxMmapLength then .error "mapped_buffer_length_exceeds_limit"
    else .ok (length, offset)

/-- `_dequeued_frame_valid`: the byte count of a frame, and what is to say about it. -/
def dequeuedFrameValid (response : Bytes) (currentSizeimage mappedLength : Nat) :
    Option Nat × String :=
  if ¬IsCaptureBuffer response then (none, "invalid_frame_dequeue_response")
  else
    let byteCount := u32 response bufferBytesusedOffset
    if byteCount = 0 then (some byteCount, "frame_empty")
    else if byteCount > currentSizeimage ∨ byteCount > mappedLength then
      (some byteCount, "frame_byte_count_invalid")
    else (some byteCount, "validated")

/-- What is wrong with a capability response, for a way of reading frames. -/
def capabilityFailure (wanted : Nat) (missing : String) (response : Bytes) : Option String :=
  match capabilitiesValid wanted response with
  | none => some "invalid_capability_response"
  | some (false, _) => some "single_planar_capture_not_supported"
  | some (true, false) => some missing
  | some (true, true) => none

/-! ## Polling -/

/-- How often the device is polled. -/
def maxPolls : Nat := 2
/-- There is data to read. -/
def pollIn : Nat := 1
/-- There is normal data to read. -/
def pollRdnorm : Nat := 64
/-- The error, hang-up and invalid-descriptor bits. -/
def fatalPoll : Nat := 8 ||| 16 ||| 32

/-- What the events of one poll say: nothing when the frame is ready. -/
def pollEvents (fd : Nat) (events : List (Nat × Nat)) : Option String :=
  if events.isEmpty then some "poll_timeout"
  else if events.any fun e => e.2 &&& fatalPoll ≠ 0 then some "poll_fatal_event"
  else
    match events with
    | [(eventFd, mask)] =>
      if eventFd ≠ fd then some "poll_unexpected_events"
      else if mask &&& (pollIn ||| pollRdnorm) ≠ 0 then none
      else some "poll_unexpected_events"
    | _ => some "poll_unexpected_events"

/-- The milliseconds left, at least one. -/
def pollTimeoutMs (remaining : ℚ) : Int := max 1 (min ⌈remaining * 1000⌉ 2147483647)

/-- `_poll_ready`, with some polls left; it returns a reason and whether a poll was attempted. -/
def pollReady (fd : Nat) (deadline : ℚ) : Nat → Capture (Option String × Bool)
  | 0 => pure (some "poll_interrupted_budget_exhausted", true)
  | left + 1 => do
    let now ← readMonotonic
    let remaining := deadline - now
    if remaining ≤ 0 then
      if left + 1 < maxPolls then pure (some "poll_interrupted_budget_exhausted", true)
      else pure (some "validation_deadline_exceeded", false)
    else
      match ← attempt (.poll (pollTimeoutMs remaining)) with
      | .ok events => pure (pollEvents fd events, true)
      | .error (.osError errno) =>
        if errno = some eintr then pollReady fd deadline left
        else pure (some "poll_failed", true)
      | .error _ => pure (some "unexpected_probe_failure", true)

/-! ## Bounded requests -/

/-- What a request that failed is reported as. -/
structure IoctlReasons where
  interrupted : String
  unsupported : String
  failed : String

/-- `_ioctl_with_retry`, with some attempts left: the response or a reason, and what is left. -/
def ioctlWithRetry (fd : Nat) (request : Ioctl) (deadline : ℚ) (reasons : IoctlReasons) :
    Nat → Bool → Capture (Except String Bytes × Nat)
  | 0, _ => pure (.error reasons.interrupted, 0)
  | left + 1, wasInterrupted => do
    let now ← readMonotonic
    if now ≥ deadline then
      pure (.error (if wasInterrupted then reasons.interrupted
        else "validation_deadline_exceeded"), left + 1)
    else
      match ← attempt (.ioctl fd request) with
      | .ok response => pure (.ok response, left)
      | .error (.osError errno) =>
        if errno = some eintr then ioctlWithRetry fd request deadline reasons left true
        else if errno = some enotty ∨ errno = some einval then
          pure (.error reasons.unsupported, left)
        else pure (.error reasons.failed, left)
      | .error _ => pure (.error "unexpected_probe_failure", left)

/-! ## Stages -/

/-- The guard `reason is None` around a stage of a probe.  What a stage raises leaves everything
    but the reason as it was before the stage, as no stage assigns before its last call. -/
def stage {σ : Type} (reason : σ → Option String) (fail : String → σ → σ) (body : σ → Capture σ)
    (s : σ) : Capture σ :=
  match reason s with
  | some _ => pure s
  | none => do
    match ← (body s).catching with
    | .ok s' => pure s'
    | .error _ => pure (fail "unexpected_probe_failure" s)

/-- The descriptor is a character device, or the reason why the probe stops. -/
def inspectDescriptor (fd : Nat) : Capture (Option String) := do
  match ← attempt (.fstat fd) with
  | .ok true => pure none
  | .ok false => pure (some "not_character_device")
  | .error (.osError _) => pure (some "descriptor_stat_failed")
  | .error _ => pure (some "unexpected_probe_failure")

/-- A cleanup call whose exception is only recorded. -/
def succeeds (c : CaptureCall) : Capture Bool := do
  match ← attempt c with
  | .ok _ => pure true
  | .error _ => pure false

/-- A cleanup step that is taken when it is due; its flag stays false otherwise. -/
def whenDue (due : Bool) (p : Capture Bool) : Capture Bool := if due then p else pure false

/-! ## Results -/

/-- The result of a frame probe. -/
structure CaptureFrameProbeResult where
  reasonCode : String
  deviceWasOpened : Bool
  descriptorWasClosed : Bool
  capabilityQuerySucceeded : Bool
  currentFormatQuerySucceeded : Bool
  acquisitionMethod : Option String
  pollWasAttempted : Bool
  frameReadWasAttempted : Bool
  frameReceived : Bool
  frameByteCount : Option Int
  currentWidth : Option Nat
  currentHeight : Option Nat
  currentSizeimage : Option Nat
  frameBufferWipeCompleted : Bool
  cleanupCompleted : Bool
  streamingIoWasUsed : Bool
  bufferNegotiationSucceeded : Bool
  bufferWasMapped : Bool
  bufferWasQueued : Bool
  streamWasStarted : Bool
  frameDequeueWasAttempted : Bool
  streamWasStopped : Bool
  bufferWasUnmapped : Bool
  buffersWereReleased : Bool
deriving DecidableEq, Repr

/-- A result with a reason alone: the device was not opened. -/
def CaptureFrameProbeResult.unopened (reasonCode : String) : CaptureFrameProbeResult :=
  ⟨reasonCode, false, false, false, false, none, false, false, false, none, none, none, none,
    false, false, false, false, false, false, false, false, false, false, false⟩

/-! ## Opening -/

/-- `_open_error_reason` -/
def openErrorReason (errno : Option Nat) : String :=
  if errno = some eacces ∨ errno = some eperm then "permission_denied"
  else if errno = some ebusy then "device_busy"
  else if errno = some enoent ∨ errno = some enodev ∨ errno = some enxio then "device_unavailable"
  else "device_open_failed"

/-- How long a probe may take. -/
def deadlineSeconds : ℚ := 2

/-- The common start of both probes: a descriptor and a deadline, or the result. -/
def openTarget (identifier : String) : Capture (CaptureFrameProbeResult ⊕ Nat × ℚ) := do
  let supported ← abiSupported
  if !supported then pure (.inl (.unopened "unsupported_abi"))
  else
    let now ← readMonotonic
    let (target, failure) ← validateTarget identifier
    -- an empty failure text counts as none
    match failure.filter (· ≠ ""), target with
    | some failure, _ => pure (.inl (.unopened failure))
    | none, none => pure (.inl (.unopened "unexpected_probe_failure"))
    | none, some target =>
      match ← attempt (.openDevice target) with
      | .ok fd => pure (.inr (fd, now + deadlineSeconds))
      | .error (.osError errno) => pure (.inl (.unopened (openErrorReason errno)))
      | .error raised => raise raised

/-- `probe`: whatever raises before the descriptor is there is one unexpected failure. -/
def probeWith (opened : Nat → ℚ → Capture CaptureFrameProbeResult) (identifier : String) :
    Capture CaptureFrameProbeResult := do
  match ← (openTarget identifier).catching with
  | .ok (.inl result) => pure result
  | .ok (.inr (fd, deadline)) => opened fd deadline
  | .error _ => pure (.unopened "unexpected_probe_failure")

end Aurora.Hardware
