/-
  The bounded DDP output probe: one test frame, then one blackout frame, on one socket.

  The socket is owned by a lease.  Whatever ends the session, a failure or an interrupt included, the
  lease runs the blackout plan and then makes the one attempt to close the socket.  An interrupt is
  deferred until that is done and raised again.
-/
import Mathlib.Data.Rat.Defs
import Mathlib.Algebra.Order.Ring.Rat
import Aurora.Lib.Interaction
import Aurora.Hardware.DdpPackets

namespace Aurora.Hardware.Ddp

open Program

/-! ## Calls -/

/-- What a call may raise, as far as the code tells it apart. -/
inductive Failure
  | osError
  | exception
  /-- A `KeyboardInterrupt`; which one is raised again is not told apart. -/
  | interrupt
deriving DecidableEq, Repr

/-- A resolved destination, as an opaque address. -/
abbrev Destination : Type := String

/-- The calls of the probe. -/
inductive DdpCall
  | monotonic
  | resolve
  | acquireSocket
  /-- The moment between the construction of the socket and the body of the session. -/
  | enterSession
  | control (name : String)
  | setTimeout (remaining : ℚ)
  | sendTo (packet : Packet) (destination : Destination)
  | close
deriving DecidableEq, Repr

/-- The resolver returns, for each of its results, the normalized destination and whether it is unsafe;
    a send returns what it says it sent, if that is a number. -/
def DdpValue : DdpCall → Type
  | .monotonic => ℚ
  | .resolve => List (Option Destination × Bool)
  | .sendTo _ _ => Option Int
  | _ => Unit

/-- Every call may raise instead of returning its value. -/
def DdpInterface : Interface := ⟨DdpCall, fun c => Except Failure (DdpValue c)⟩

/-- A program of the probe. -/
abbrev Ddp (α : Type) : Type := Program DdpInterface Failure α

/-- A call with its answer. -/
abbrev DdpExchange : Type := Exchange DdpInterface

/-- One call, with what it raised as a value. -/
def attempt (c : DdpCall) : Ddp (Except Failure (DdpValue c)) := ask (I := DdpInterface) c

/-- A reading of the monotonic clock. -/
def readMonotonic : Ddp (Except Failure ℚ) := attempt .monotonic

/-- `_control_point`; the hook may not be installed. -/
def controlPoint (hook : Bool) (name : String) : Ddp (Except Failure Unit) :=
  if hook then attempt (.control name) else pure (.ok ())

/-- The most sends of one probe. -/
def maxSendAttempts : Nat := 4
/-- How long a probe may take. -/
def deadlineSeconds : ℚ := 2

/-! ## Sending -/

/-- How one send ended. -/
inductive SendStatus
  | sent
  | deadline
  | budget
  | failed
  | partialSend
  | unexpected
  | interrupted
deriving DecidableEq, Repr

/-- The status of a send, and the attempts so far. -/
structure SendOutcome where
  status : SendStatus
  attempts : Nat
deriving DecidableEq, Repr

/-- The status of a send that returned. -/
def sentStatus (packet : Packet) (sent : Option Int) : SendStatus :=
  if sent = some (packet.length : Int) then .sent else .partialSend

/-- The status of a failed `settimeout` or `sendto`. -/
def failedStatus : Failure → SendStatus
  | .interrupt => .interrupted
  | .osError => .failed
  | .exception => .unexpected

/-- The status of a failed clock reading. -/
def unreadStatus : Failure → SendStatus
  | .interrupt => .interrupted
  | _ => .unexpected

/-- `_send_once` -/
def sendOnce (destination : Destination) (packet : Packet) (deadline : ℚ) (attempts : Nat) :
    Ddp SendOutcome := do
  match ← readMonotonic with
  | .error failure => pure ⟨unreadStatus failure, attempts⟩
  | .ok now =>
    let remaining := deadline - now
    if remaining ≤ 0 then pure ⟨.deadline, attempts⟩
    else if attempts ≥ maxSendAttempts then pure ⟨.budget, attempts⟩
    else
      match ← attempt (.setTimeout remaining) with
      | .error failure => pure ⟨failedStatus failure, attempts⟩
      | .ok _ =>
        match ← attempt (.sendTo packet destination) with
        | .error failure => pure ⟨failedStatus failure, attempts + 1⟩
        | .ok sent => pure ⟨sentStatus packet sent, attempts + 1⟩

/-! ## The session -/

/-- `_SocketUseState` -/
structure SocketUseState where
  attempts : Nat := 0
  testSent : Nat := 0
  blackoutSent : Nat := 0
  testReason : Option String := none
  blackoutReason : Option String := none
  blackoutAttempted : Bool := false
  socketClosed : Bool := false
  deferredInterrupt : Bool := false
deriving DecidableEq, Repr

/-- The reason of a failure that none of the others names. -/
def unexpectedFailure : String := "unexpected_ddp_output_failure"

/-- `_phase_reason` -/
def phaseReason (phase : String) : SendStatus → String
  | .deadline => phase ++ "_deadline_exceeded"
  | .failed => phase ++ "_send_failed"
  | .partialSend => phase ++ "_partial_send"
  | _ => unexpectedFailure

/-- `_defer_interrupt` -/
def SocketUseState.defer (s : SocketUseState) : SocketUseState := { s with deferredInterrupt := true }

/-- What a failure in the test phase leaves behind. -/
def SocketUseState.failTest (s : SocketUseState) : Failure → SocketUseState
  | .interrupt => s.defer
  | _ => { s with testReason := some unexpectedFailure }

/-- What a failure of a control point of the blackout leaves behind; a reason stays. -/
def SocketUseState.failBlackout (s : SocketUseState) : Failure → SocketUseState
  | .interrupt => s.defer
  | _ => { s with blackoutReason := s.blackoutReason.or (some unexpectedFailure) }

/-- `_run_test_phase`: nothing in it raises. -/
def runTestPhase (hook : Bool) (destination : Destination) (deadline : ℚ) :
    List Packet → SocketUseState → Ddp SocketUseState
  | [], s => pure s
  | packet :: packets, s => do
    let outcome ← sendOnce destination packet deadline s.attempts
    let s := { s with attempts := outcome.attempts }
    match outcome.status with
    | .interrupted => pure s.defer
    | .sent =>
      match ← controlPoint hook "after_test_send" with
      | .error failure => pure (s.failTest failure)
      | .ok _ =>
        runTestPhase hook destination deadline packets { s with testSent := s.testSent + 1 }
    | status => pure { s with testReason := some (phaseReason "test_frame" status) }

/-- What one blackout packet leaves behind. -/
def SocketUseState.afterBlackout (s : SocketUseState) (outcome : SendOutcome) : SocketUseState :=
  let s := { s with attempts := outcome.attempts }
  match outcome.status with
  | .interrupted => s.defer
  | .sent => { s with blackoutSent := s.blackoutSent + 1 }
  | status =>
    { s with blackoutReason := s.blackoutReason.or (some (phaseReason "blackout" status)) }

/-- The loop of `_run_blackout_phase`. -/
def walkBlackout (hook : Bool) (destination : Destination) (deadline : ℚ) :
    List Packet → SocketUseState → Ddp SocketUseState
  | [], s => pure s
  | packet :: packets, s => do
    let outcome ← sendOnce destination packet deadline s.attempts
    let s := s.afterBlackout outcome
    if outcome.status = .deadline ∨ outcome.status = .budget then pure s
    else if packets.isEmpty then pure s
    else
      match ← controlPoint hook "between_blackout_packets" with
      | .error failure => walkBlackout hook destination deadline packets (s.failBlackout failure)
      | .ok _ => walkBlackout hook destination deadline packets s

/-- `_run_blackout_phase`: nothing in it raises. -/
def runBlackoutPhase (hook : Bool) (destination : Destination) (deadline : ℚ)
    (packets : List Packet) (s : SocketUseState) : Ddp SocketUseState := do
  let s := { s with blackoutAttempted := true }
  match ← controlPoint hook "before_blackout" with
  | .error .interrupt => walkBlackout hook destination deadline packets s.defer
  | .error _ =>
    walkBlackout hook destination deadline packets
      { s with blackoutReason := some unexpectedFailure }
  | .ok _ => walkBlackout hook destination deadline packets s

/-- `_prepare_close` -/
def prepareClose (hook : Bool) (s : SocketUseState) : Ddp SocketUseState := do
  match ← controlPoint hook "before_close" with
  | .error failure => pure (s.failBlackout failure)
  | .ok _ => pure s

/-- The state a cleanup starts from, by the exception that ended the session. -/
def SocketUseState.ended (s : SocketUseState) : Option Failure → SocketUseState
  | none => s
  | some .interrupt => s.defer
  | some _ => { s with testReason := s.testReason.or (some unexpectedFailure) }

/-- `_DDPBlackoutCleanup.__call__` -/
def blackoutCleanup (hook : Bool) (destination : Destination) (deadline : ℚ)
    (packets : List Packet) (s : SocketUseState) (exception : Option Failure) :
    Ddp SocketUseState := do
  let s ← runBlackoutPhase hook destination deadline packets (s.ended exception)
  prepareClose hook s

/-- `_finish` of the lease: the cleanup, then the one close.  It raises an interrupt that is pending,
    whether deferred or that of the close; another exception of the session is suppressed. -/
def finish (hook : Bool) (destination : Destination) (deadline : ℚ) (packets : List Packet)
    (s : SocketUseState) (exception : Option Failure) : Ddp SocketUseState := do
  let s ← blackoutCleanup hook destination deadline packets s exception
  let closing ← attempt .close
  if s.deferredInterrupt ∨ exception = some .interrupt then raise .interrupt
  else
    match closing with
    | .ok _ => pure { s with socketClosed := true }
    | .error .interrupt => raise .interrupt
    | .error _ => pure s

/-- `_use_socket` -/
def useSocket (hook : Bool) (destination : Destination) (deadline : ℚ) (packets : List Packet)
    (s : SocketUseState) : Ddp SocketUseState := do
  match ← controlPoint hook "after_socket_acquired" with
  | .error failure => pure (s.failTest failure)
  | .ok _ => runTestPhase hook destination deadline packets s

/-- The body of the session: its state, and the exception it ends with. -/
def session (hook : Bool) (destination : Destination) (deadline : ℚ) (packets : List Packet) :
    Ddp (SocketUseState × Option Failure) := do
  match ← controlPoint hook "after_socket_session_entered" with
  | .error failure => pure ({}, some failure)
  | .ok _ =>
    let s ← useSocket hook destination deadline packets {}
    pure (s, if s.deferredInterrupt then some .interrupt else none)

/-! ## The result -/

/-- The result of the probe. -/
structure DdpOutputProbeResult where
  reasonCode : String
  socketWasCreated : Bool := false
  socketWasClosed : Bool := false
  ledCount : Option Int := none
  framePayloadBytes : Nat := 0
  testPacketsPlanned : Nat := 0
  testPacketsSent : Nat := 0
  blackoutPacketsPlanned : Nat := 0
  blackoutPacketsSent : Nat := 0
  testFrameCompleted : Bool := false
  blackoutAttempted : Bool := false
  blackoutCompleted : Bool := false
  cleanupCompleted : Bool := false
  broadcastWasUsed : Bool := false
  multicastWasUsed : Bool := false
  discoveryWasUsed : Bool := false
  retryWasUsed : Bool := false
deriving DecidableEq, Repr

/-- `_pre_socket_result` -/
def preSocketResult (reasonCode : String) (ledCount : Int) (framePayloadBytes packetsPlanned : Nat) :
    DdpOutputProbeResult :=
  { reasonCode := reasonCode
    ledCount := some ledCount
    framePayloadBytes := framePayloadBytes
    testPacketsPlanned := packetsPlanned
    blackoutPacketsPlanned := packetsPlanned }

/-- The reason of a session, by precedence. -/
def socketReason (s : SocketUseState) (packetsPlanned : Nat) : String :=
  let testCompleted := decide (s.testSent = packetsPlanned)
  let blackoutCompleted := decide (s.blackoutSent = packetsPlanned)
  match s.blackoutReason with
  | some reason => reason
  | none =>
    if testCompleted && blackoutCompleted && !s.socketClosed then
      "ddp_output_cleanup_unconfirmed"
    else
      match s.testReason, blackoutCompleted with
      | some reason, true => reason
      | _, _ =>
        if testCompleted && blackoutCompleted && s.socketClosed then "validated"
        else unexpectedFailure

/-- `_socket_result` -/
def socketResult (s : SocketUseState) (ledCount : Int) (packetsPlanned : Nat) :
    DdpOutputProbeResult :=
  { reasonCode := socketReason s packetsPlanned
    socketWasCreated := true
    socketWasClosed := s.socketClosed
    ledCount := some ledCount
    framePayloadBytes := ledCount.toNat * 3
    testPacketsPlanned := packetsPlanned
    testPacketsSent := s.testSent
    blackoutPacketsPlanned := packetsPlanned
    blackoutPacketsSent := s.blackoutSent
    testFrameCompleted := s.testSent = packetsPlanned
    blackoutAttempted := s.blackoutAttempted
    blackoutCompleted := s.blackoutSent = packetsPlanned
    cleanupCompleted := s.socketClosed }

/-! ## The probe -/

/-- `_resolve`, from the normalized results: the one destination, or a reason. -/
def resolveDestination (results : List (Option Destination × Bool)) : Except String Destination :=
  if results.any (·.2) then .error "destination_not_unicast"
  else
    match (results.filterMap (·.1)).eraseDups with
    | [] => .error "destination_resolution_failed"
    | [destination] => .ok destination
    | _ => .error "destination_resolution_ambiguous"

/-- The two plans of a frame, when they can be built and match. -/
def planFrames (ledCount : Int) : Option (List Packet × List Packet) :=
  if 1 ≤ ledCount ∧ ledCount ≤ (maxLeds : Int) then
    let testPayload := (List.replicate ledCount.toNat testRgb).flatten
    let blackoutPayload := (List.replicate ledCount.toNat blackoutRgb).flatten
    match buildDdpPackets testPayload testSequence,
      buildDdpPackets blackoutPayload blackoutSequence with
    | some testPackets, some blackoutPackets =>
      if testPayload.length ≠ ledCount.toNat * 3 ∨ testPayload.length ≠ blackoutPayload.length ∨
          testPackets.length ≠ blackoutPackets.length then none
      else some (testPackets, blackoutPackets)
    | _, _ => none
  else none

/-- The session under its lease, and the result of a socket that was acquired or not. -/
def useLease (hook : Bool) (ledCount : Int) (destination : Destination) (deadline : ℚ)
    (testPackets blackoutPackets : List Packet) : Ddp DdpOutputProbeResult := do
  let preSocket := fun reason =>
    preSocketResult reason ledCount (ledCount.toNat * 3) testPackets.length
  match ← attempt .acquireSocket with
  | .error .interrupt => raise .interrupt
  | .error .osError => pure (preSocket "socket_creation_failed")
  | .error .exception => pure (preSocket unexpectedFailure)
  | .ok _ =>
    match ← attempt .enterSession with
    | .error failure =>
      let s ← finish hook destination deadline blackoutPackets {} (some failure)
      pure (socketResult { s with testReason := some unexpectedFailure } ledCount
        testPackets.length)
    | .ok _ =>
      let (s, exception) ← session hook destination deadline testPackets
      let s ← finish hook destination deadline blackoutPackets s exception
      pure (socketResult s ledCount testPackets.length)

/-- `probe` -/
def probe (hook : Bool) (ledCount : Int) : Ddp DdpOutputProbeResult := do
  match planFrames ledCount with
  | none => pure { reasonCode := unexpectedFailure }
  | some (testPackets, blackoutPackets) =>
    match ← readMonotonic with
    | .error .interrupt => raise .interrupt
    | .error _ => pure { reasonCode := unexpectedFailure }
    | .ok now =>
      let preSocket := fun reason =>
        preSocketResult reason ledCount (ledCount.toNat * 3) testPackets.length
      match ← attempt .resolve with
      | .error .interrupt => raise .interrupt
      | .error _ => pure (preSocket "destination_resolution_failed")
      | .ok results =>
        match resolveDestination results with
        | .error reason => pure (preSocket reason)
        | .ok destination =>
          useLease hook ledCount destination (now + deadlineSeconds) testPackets blackoutPackets

end Aurora.Hardware.Ddp
