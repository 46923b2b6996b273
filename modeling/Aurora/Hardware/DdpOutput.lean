/-
  The check the DDP output service makes of a probe result.

  The service does not trust a probe: it works out again, from the LED count and the flags of the
  result, which reasons the result may give.
-/
import Aurora.Hardware.DdpOutputProbe

namespace Aurora.Hardware.Ddp

/-- `_expected_packet_count` -/
def expectedPacketCount (framePayloadBytes : Nat) : Nat :=
  (framePayloadBytes + maxDataPayload - 1) / maxDataPayload

namespace DdpOutputProbeResult

/-- `_complete_result` -/
def complete (result : DdpOutputProbeResult) : Bool :=
  result.testPacketsSent == result.testPacketsPlanned &&
    result.blackoutPacketsSent == result.blackoutPacketsPlanned &&
    result.testFrameCompleted && result.blackoutAttempted && result.blackoutCompleted &&
    result.socketWasCreated

/-- `_unsafe_activity` -/
def unsafeActivity (result : DdpOutputProbeResult) : Bool :=
  result.broadcastWasUsed || result.multicastWasUsed || result.discoveryWasUsed ||
    result.retryWasUsed

/-- `_healthy_result` -/
def healthy (result : DdpOutputProbeResult) : Bool :=
  result.reasonCode == "validated" && result.complete && result.socketWasClosed &&
    result.cleanupCompleted && !result.unsafeActivity

/-- `_degraded_result` -/
def degraded (result : DdpOutputProbeResult) : Bool :=
  result.reasonCode == "ddp_output_cleanup_unconfirmed" && result.complete &&
    !result.socketWasClosed && !result.cleanupCompleted && !result.unsafeActivity

/-- The counts of a result fit the LED count. -/
def countsFit (result : DdpOutputProbeResult) (ledCount : Int) : Bool :=
  let expectedBytes := ledCount.toNat * 3
  let expectedPackets := expectedPacketCount expectedBytes
  result.framePayloadBytes == expectedBytes && result.testPacketsPlanned == expectedPackets &&
    result.blackoutPacketsPlanned == expectedPackets &&
    (1 ≤ expectedPackets && expectedPackets ≤ 2) && result.testPacketsSent ≤ expectedPackets &&
    result.blackoutPacketsSent ≤ expectedPackets

/-- The flags of a result fit its counts and each other. -/
def flagsFit (result : DdpOutputProbeResult) : Bool :=
  result.testFrameCompleted == (result.testPacketsSent == result.testPacketsPlanned) &&
    result.blackoutCompleted == (result.blackoutAttempted &&
      result.blackoutPacketsSent == result.blackoutPacketsPlanned) &&
    !(result.socketWasClosed && !result.socketWasCreated) &&
    result.cleanupCompleted == result.socketWasClosed &&
    result.blackoutAttempted == result.socketWasCreated &&
    !(!result.socketWasCreated && (result.testPacketsSent != 0 || result.blackoutPacketsSent != 0 ||
      result.testFrameCompleted || result.blackoutCompleted || result.cleanupCompleted))

/-- The reasons that are given before a socket is created. -/
def preSocketReasons : List String :=
  ["destination_resolution_failed", "destination_resolution_ambiguous", "destination_not_unicast",
    "socket_creation_failed"]

/-- The reasons a test phase may end with. -/
def testReasons : List String :=
  ["test_frame_deadline_exceeded", "test_frame_send_failed", "test_frame_partial_send"]

/-- The reasons a blackout may end with. -/
def blackoutReasons : List String :=
  ["blackout_deadline_exceeded", "blackout_send_failed", "blackout_partial_send"]

/-- The reason of a result fits its flags. -/
def reasonFits (result : DdpOutputProbeResult) : Bool :=
  if result.reasonCode = "validated" then result.healthy
  else if result.reasonCode = "ddp_output_cleanup_unconfirmed" then result.degraded
  else if result.reasonCode ∈ preSocketReasons then !result.socketWasCreated
  else if result.reasonCode ∈ testReasons then
    result.socketWasCreated && !result.testFrameCompleted && result.blackoutCompleted
  else if result.reasonCode ∈ blackoutReasons then
    result.socketWasCreated && !result.blackoutCompleted
  else if result.reasonCode = unexpectedFailure then
    !result.socketWasCreated || !result.testFrameCompleted || !result.blackoutCompleted
  else false

/-- `_consistent_result`; the types of the fields are those of the structure. -/
def consistent (result : DdpOutputProbeResult) (ledCount : Int) : Bool :=
  result.ledCount == some ledCount && (1 ≤ ledCount && ledCount ≤ (maxLeds : Int)) &&
    result.countsFit ledCount && result.flagsFit && !result.unsafeActivity && result.reasonFits

end DdpOutputProbeResult

end Aurora.Hardware.Ddp
