/-
  The service boundary of the capture-frame command: which probe results it accepts.
-/
import Aurora.Hardware.CaptureCalls
import Aurora.Hardware.Models

namespace Aurora.Hardware

/-- `_bounded_frame_metadata` -/
def boundedFrameMetadata (result : CaptureFrameProbeResult) : Bool :=
  match result.frameByteCount, result.currentWidth, result.currentHeight,
    result.currentSizeimage with
  | some count, some width, some height, some sizeimage =>
    1 ≤ width && width ≤ maxWidth && 1 ≤ height && height ≤ maxHeight && 1 ≤ sizeimage &&
      sizeimage ≤ maxSizeimage && 1 ≤ count && count ≤ (sizeimage : Int)
  | _, _, _, _ => false

/-- `_streaming_events` -/
def streamingEvents (result : CaptureFrameProbeResult) : List Bool :=
  [result.bufferNegotiationSucceeded, result.bufferWasMapped, result.bufferWasQueued,
    result.streamWasStarted, result.frameDequeueWasAttempted, result.streamWasStopped,
    result.bufferWasUnmapped, result.buffersWereReleased]

/-- Every event of a successful streaming probe is there. -/
def streamingSuccessPathComplete (result : CaptureFrameProbeResult) : Bool :=
  (streamingEvents result).all id

/-- The events a received frame needs, by the way it was acquired. -/
def acquisitionPathComplete (result : CaptureFrameProbeResult) : Bool :=
  if result.acquisitionMethod = some "readwrite" then
    result.frameReadWasAttempted && !result.streamingIoWasUsed &&
      !result.frameDequeueWasAttempted && !(streamingEvents result).any id
  else if result.acquisitionMethod = some "mmap" then
    result.streamingIoWasUsed && !result.frameReadWasAttempted &&
      streamingSuccessPathComplete result
  else false

/-- `_healthy_result` -/
def healthyResult (result : CaptureFrameProbeResult) : Bool :=
  (result.reasonCode = "validated" && result.frameReceived && boundedFrameMetadata result &&
    result.frameBufferWipeCompleted && result.descriptorWasClosed && result.cleanupCompleted &&
    result.pollWasAttempted) && acquisitionPathComplete result

/-- `_degraded_result` -/
def degradedResult (result : CaptureFrameProbeResult) : Bool :=
  (result.reasonCode = "frame_received_cleanup_unconfirmed" && result.frameReceived &&
    boundedFrameMetadata result && result.frameBufferWipeCompleted &&
    !result.descriptorWasClosed && !result.cleanupCompleted && result.pollWasAttempted) &&
      acquisitionPathComplete result

/-- The reasons of a cleanup that failed. -/
def cleanupFailureReasons : List String :=
  ["stream_stop_failed", "buffer_unmap_failed", "buffer_release_failed",
    "streaming_cleanup_failed"]

/-- A result of a device that was not opened reports nothing. -/
def unopenedConsistent (result : CaptureFrameProbeResult) : Bool :=
  !(result.descriptorWasClosed || result.capabilityQuerySucceeded ||
    result.currentFormatQuerySucceeded || result.acquisitionMethod.isSome ||
    result.pollWasAttempted || result.frameReadWasAttempted || result.frameReceived ||
    result.frameByteCount.isSome || result.currentWidth.isSome || result.currentHeight.isSome ||
    result.currentSizeimage.isSome || result.frameBufferWipeCompleted ||
    result.cleanupCompleted || (streamingEvents result).any id)

/-- The dimensions are all there, within their bounds and from the format query, or all absent. -/
def dimensionsConsistent (result : CaptureFrameProbeResult) : Bool :=
  match result.currentWidth, result.currentHeight, result.currentSizeimage with
  | some width, some height, some sizeimage =>
    result.currentFormatQuerySucceeded && (1 ≤ width && width ≤ maxWidth && 1 ≤ height &&
      height ≤ maxHeight && 1 ≤ sizeimage && sizeimage ≤ maxSizeimage)
  | none, none, none => true
  | _, _, _ => false

/-- What must have happened for a method to be there, and what cannot have without one. -/
def methodConsistent (result : CaptureFrameProbeResult) : Bool :=
  if result.acquisitionMethod.isSome then
    result.currentFormatQuerySucceeded && result.currentWidth.isSome &&
      result.currentHeight.isSome && result.currentSizeimage.isSome
  else
    !(result.pollWasAttempted || result.frameReadWasAttempted || result.frameReceived ||
      result.frameByteCount.isSome || result.frameBufferWipeCompleted ||
      (streamingEvents result).any id)

/-- The order of the events of a read/write acquisition. -/
def readWriteEventsConsistent (result : CaptureFrameProbeResult) : Bool :=
  !(streamingEvents result).any id && !result.frameDequeueWasAttempted &&
    !(result.frameReadWasAttempted && !result.pollWasAttempted) &&
    !(result.frameByteCount.isSome && !result.frameReadWasAttempted) &&
    !(result.frameReceived && !result.frameReadWasAttempted)

/-- The order of the events of a streaming acquisition. -/
def mmapEventsConsistent (result : CaptureFrameProbeResult) : Bool :=
  !result.frameReadWasAttempted &&
    !(result.bufferWasMapped && !result.bufferNegotiationSucceeded) &&
    !(result.bufferWasQueued && !result.bufferWasMapped) &&
    !(result.streamWasStarted && !result.bufferWasQueued) &&
    !(result.pollWasAttempted && !result.streamWasStarted) &&
    !(result.frameDequeueWasAttempted && !(result.streamWasStarted && result.pollWasAttempted)) &&
    !(result.streamWasStopped && !result.streamWasStarted) &&
    !(result.bufferWasUnmapped && !result.bufferWasMapped) &&
    !(result.buffersWereReleased && !result.bufferNegotiationSucceeded) &&
    !(result.frameBufferWipeCompleted && !result.bufferWasMapped) &&
    !(result.frameByteCount.isSome && !result.frameDequeueWasAttempted) &&
    !(result.frameReceived && !result.frameDequeueWasAttempted)

/-- The events fit the method of the probe. -/
def eventsConsistent (result : CaptureFrameProbeResult) : Bool :=
  if result.acquisitionMethod = some "readwrite" then readWriteEventsConsistent result
  else if result.acquisitionMethod = some "mmap" then mmapEventsConsistent result
  else true

/-- What the cleanup flag has to be, by method. -/
def expectedCleanup (result : CaptureFrameProbeResult) : Bool :=
  if result.acquisitionMethod = some "readwrite" then
    result.descriptorWasClosed && result.frameBufferWipeCompleted
  else if result.acquisitionMethod = some "mmap" then
    result.descriptorWasClosed &&
      (!result.bufferNegotiationSucceeded || result.buffersWereReleased) &&
      (!result.bufferWasMapped ||
        (result.frameBufferWipeCompleted && result.bufferWasUnmapped)) &&
      (!result.streamWasStarted || result.streamWasStopped)
  else result.descriptorWasClosed

/-- A frame that was not received has no byte count that fits the image size. -/
def byteCountConsistent (result : CaptureFrameProbeResult) : Bool :=
  match result.frameReceived, result.frameByteCount, result.currentSizeimage with
  | false, some count, some sizeimage => !(1 ≤ count && count ≤ (sizeimage : Int))
  | _, _, _ => true

/-- Whether the reason is the one the events call for. -/
def reasonConsistent (result : CaptureFrameProbeResult) : Bool :=
  if result.reasonCode = "validated" then healthyResult result
  else if result.reasonCode = "frame_received_cleanup_unconfirmed" then degradedResult result
  else if result.frameReceived ∧ result.reasonCode ∈ cleanupFailureReasons then
    !result.cleanupCompleted
  else if result.frameReceived ∧ result.frameBufferWipeCompleted then false
  else if result.acquisitionMethod.isSome ∧ !result.frameBufferWipeCompleted ∧
      (result.acquisitionMethod = some "readwrite" ∨ result.bufferWasMapped) then
    result.reasonCode = "frame_buffer_wipe_failed"
  else if result.reasonCode = "frame_buffer_wipe_failed" then false
  else if !result.descriptorWasClosed then result.reasonCode = "descriptor_close_failed"
  else if result.reasonCode = "descriptor_close_failed" then false
  else if !result.cleanupCompleted then result.reasonCode ∈ cleanupFailureReasons
  else true

/-- `_consistent_result` -/
def consistentResult (result : CaptureFrameProbeResult) : Bool :=
  if ¬(result.acquisitionMethod = none ∨ result.acquisitionMethod = some "readwrite" ∨
      result.acquisitionMethod = some "mmap") then false
  else if result.streamingIoWasUsed ≠ (result.acquisitionMethod = some "mmap" : Bool) then false
  else if !result.deviceWasOpened then unopenedConsistent result
  else if result.currentFormatQuerySucceeded && !result.capabilityQuerySucceeded then false
  else if !dimensionsConsistent result then false
  else if !methodConsistent result then false
  else if result.frameReceived && !boundedFrameMetadata result then false
  else if !eventsConsistent result then false
  else if result.cleanupCompleted ≠ expectedCleanup result then false
  else if !byteCountConsistent result then false
  else reasonConsistent result

theorem unopened_consistent (reasonCode : String) :
    consistentResult (.unopened reasonCode) = true := rfl

/-- What is right about the result of an opened device before its byte count and its reason are
    looked at. -/
structure WellShaped (result : CaptureFrameProbeResult) : Prop where
  method : result.acquisitionMethod = none ∨ result.acquisitionMethod = some "readwrite" ∨
    result.acquisitionMethod = some "mmap"
  streaming : result.streamingIoWasUsed = (result.acquisitionMethod = some "mmap" : Bool)
  opened : result.deviceWasOpened = true
  queried : result.currentFormatQuerySucceeded = true → result.capabilityQuerySucceeded = true
  dimensions : dimensionsConsistent result = true
  acquired : methodConsistent result = true
  bounded : result.frameReceived = true → boundedFrameMetadata result = true
  events : eventsConsistent result = true
  cleanup : result.cleanupCompleted = expectedCleanup result

theorem WellShaped.consistentResult {result : CaptureFrameProbeResult} (h : WellShaped result) :
    consistentResult result = (byteCountConsistent result && reasonConsistent result) := by
  have hqueried : (result.currentFormatQuerySucceeded && !result.capabilityQuerySucceeded) =
      false := by
    cases hq : result.currentFormatQuerySucceeded with
    | false => rfl
    | true => rw [h.queried hq]; rfl
  have hbounded : (result.frameReceived && !boundedFrameMetadata result) = false := by
    cases hr : result.frameReceived with
    | false => rfl
    | true => rw [h.bounded hr]; rfl
  unfold Hardware.consistentResult
  rw [if_neg (not_not.mpr h.method), if_neg (not_not.mpr h.streaming), h.opened, hqueried,
    h.dimensions, h.acquired, hbounded, h.events, if_neg (not_not.mpr h.cleanup)]
  cases byteCountConsistent result <;> simp

/-! ## The report -/

/-- The reason and the state `validate_capture_frame` reports for a probe result. -/
def assessResult (result : CaptureFrameProbeResult) : String × ComponentHealthState :=
  if !consistentResult result then ("unexpected_probe_failure", .unhealthy)
  else if healthyResult result then (result.reasonCode, .healthy)
  else if degradedResult result then (result.reasonCode, .degraded)
  else (result.reasonCode, .unhealthy)

end Aurora.Hardware
