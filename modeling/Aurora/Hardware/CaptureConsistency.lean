/-
  The capture-frame service and the probes: which results it accepts.

  A result of the read/write probe is always accepted.  A result of the streaming probe is not in two
  cases (`MisfitFrame`, `DoubleFailure`): the device reports more bytes than it mapped but no more
  than the image size, or a failed close comes on top of a failed unmapping or release.
-/
import Aurora.Hardware.CaptureFrame
import Aurora.Hardware.ReadWriteFlags
import Aurora.Hardware.StreamingCleanup

namespace Aurora.Hardware

open Program

theorem not_and_not {a b : Bool} : (!(a && !b)) = true ↔ (a = true → b = true) := by
  cases a <;> simp

theorem not_or_of_and_not {a b : Bool} (h : (a && !b) = false) : (!a || b) = true := by
  cases a with
  | false => rfl
  | true => simpa using h

/-! ## Reasons -/

section Reasons

variable {result : CaptureFrameProbeResult}

/-- A frame that was received and wiped is validated, or its close is not confirmed. -/
theorem reasonConsistent_received (hreceived : result.frameReceived = true)
    (hbounded : boundedFrameMetadata result = true)
    (hwiped : result.frameBufferWipeCompleted = true) (hpolled : result.pollWasAttempted = true)
    (hpath : acquisitionPathComplete result = true)
    (hcleanup : result.cleanupCompleted = result.descriptorWasClosed)
    (hreason : result.reasonCode = if result.descriptorWasClosed then "validated"
      else "frame_received_cleanup_unconfirmed") : reasonConsistent result = true := by
  cases hclosed : result.descriptorWasClosed with
  | true =>
    rw [hclosed, if_pos rfl] at hreason
    rw [hclosed] at hcleanup
    rw [reasonConsistent, if_pos hreason]
    simp [healthyResult, hreason, hreceived, hbounded, hwiped, hclosed, hcleanup, hpolled, hpath]
  | false =>
    rw [hclosed, if_neg Bool.false_ne_true] at hreason
    rw [hclosed] at hcleanup
    rw [reasonConsistent, if_neg (by rw [hreason]; decide), if_pos hreason]
    simp [degradedResult, hreason, hreceived, hbounded, hwiped, hclosed, hcleanup, hpolled, hpath]

/-- Without a frame, and with nothing left to clean up, every other reason is accepted. -/
theorem reasonConsistent_plain (hplain : Plain result.reasonCode)
    (hreceived : result.frameReceived = false) (hclosed : result.descriptorWasClosed = true)
    (hcleanup : result.cleanupCompleted = true)
    (hwiped : result.frameBufferWipeCompleted = true ∨
      result.acquisitionMethod ≠ some "readwrite" ∧ result.bufferWasMapped = false) :
    reasonConsistent result = true := by
  simp only [Plain, settledReasons, List.mem_cons, List.not_mem_nil, not_or] at hplain
  obtain ⟨hvalidated, hunconfirmed, hwipe, hclose, -⟩ := hplain
  rw [reasonConsistent, if_neg hvalidated, if_neg hunconfirmed]
  rcases hwiped with hwiped | ⟨hmethod, hmapped⟩
  · simp [hwipe, hclose, hreceived, hclosed, hcleanup, hwiped]
  · simp [hwipe, hclose, hreceived, hclosed, hcleanup, hmethod, hmapped]

/-- Without a frame, a failed close is reported as such. -/
theorem reasonConsistent_unclosed (hreason : result.reasonCode = "descriptor_close_failed")
    (hreceived : result.frameReceived = false) (hclosed : result.descriptorWasClosed = false)
    (hwiped : result.frameBufferWipeCompleted = true ∨
      result.acquisitionMethod ≠ some "readwrite" ∧ result.bufferWasMapped = false) :
    reasonConsistent result = true := by
  rcases hwiped with hwiped | ⟨hmethod, hmapped⟩
  · simp [reasonConsistent, cleanupFailureReasons, hreason, hreceived, hclosed, hwiped]
  · simp [reasonConsistent, cleanupFailureReasons, hreason, hreceived, hclosed, hmethod, hmapped]

/-- A failed cleanup step is accepted for a frame, and without one when the descriptor is closed. -/
theorem reasonConsistent_cleanup (hreason : result.reasonCode ∈ cleanupFailureReasons)
    (hcleanup : result.cleanupCompleted = false)
    (hwiped : result.frameBufferWipeCompleted = true ∨
      result.acquisitionMethod ≠ some "readwrite" ∧ result.bufferWasMapped = false) :
    reasonConsistent result = (result.frameReceived || result.descriptorWasClosed) := by
  have hother : ∀ other, other ∉ cleanupFailureReasons → result.reasonCode ≠ other :=
    fun other hnot h => hnot (h ▸ hreason)
  have hvalidated := hother "validated" (by decide)
  have hunconfirmed := hother "frame_received_cleanup_unconfirmed" (by decide)
  have hwipe := hother "frame_buffer_wipe_failed" (by decide)
  have hclose := hother "descriptor_close_failed" (by decide)
  rw [reasonConsistent, if_neg hvalidated, if_neg hunconfirmed]
  cases hreceived : result.frameReceived with
  | true => simp [hreason, hcleanup]
  | false =>
    rcases hwiped with hwiped | ⟨hmethod, hmapped⟩
    · simp [hwipe, hclose, hwiped, hcleanup, hreason]
    · simp [hwipe, hclose, hmethod, hmapped, hcleanup, hreason]

end Reasons

/-! ## The read/write probe -/

namespace ReadWrite

variable {s : Acquisition} {wiped closed : Bool}

/-- Without a buffer nothing was polled, read or wiped. -/
theorem Sound.unallocated (h : Sound s) (hnot : s.bufferWasAllocated = false) :
    s.pollAttempted = false ∧ s.readAttempted = false ∧ s.received = false ∧ s.count = none := by
  have hpoll : s.pollAttempted = false := by simpa [hnot] using h.polled
  have hread : s.readAttempted = false := by simpa [hpoll] using h.read
  have hcount : s.count = none := by simpa [hread] using h.counted
  have hreceived : s.received = false := by
    cases hr : s.received with
    | false => rfl
    | true =>
      have hsome := (h.received hr).1
      rw [hcount] at hsome
      cases hsome
  exact ⟨hpoll, hread, hreceived, hcount⟩

/-- A received frame was read after a poll, and its metadata is within the bounds. -/
theorem Sound.frame (h : Sound s) (hreceived : s.received = true) :
    s.readAttempted = true ∧ s.pollAttempted = true ∧ s.bufferWasAllocated = true ∧
      ∀ wiped closed, boundedFrameMetadata (result s wiped closed) = true := by
  obtain ⟨count, hcount⟩ := Option.isSome_iff_exists.mp (h.received hreceived).1
  have hread := h.counted (by rw [hcount]; rfl)
  have hpolled := h.read hread
  have hallocated := h.polled hpolled
  obtain ⟨⟨width, height, sizeimage⟩, hformat⟩ :=
    Option.isSome_iff_exists.mp (h.allocated hallocated)
  obtain ⟨⟨hw, hw'⟩, ⟨hh, hh'⟩, hs, hs'⟩ := h.bounds _ _ _ hformat
  obtain ⟨hlow, hhigh⟩ := (h.fits count width height sizeimage hcount hformat).mp hreceived
  refine ⟨hread, hpolled, hallocated, fun wiped closed => ?_⟩
  simp [boundedFrameMetadata, result, hformat, hcount, hw, hw', hh, hh', hs, hs', hlow, hhigh]

/-- The result has the shape its method asks for. -/
theorem result_wellShaped (h : Sound s) (hwiped : wiped = true → s.bufferWasAllocated = true) :
    WellShaped (result s wiped closed) where
  method := by cases hallocated : s.bufferWasAllocated <;> simp [result, hallocated]
  streaming := by cases hallocated : s.bufferWasAllocated <;> simp [result, hallocated]
  opened := rfl
  queried := h.capabilityQueried
  dimensions := by
    cases hformat : s.format with
    | none => simp [dimensionsConsistent, result, hformat]
    | some format =>
      obtain ⟨width, height, sizeimage⟩ := format
      obtain ⟨⟨hw, hw'⟩, ⟨hh, hh'⟩, hs, hs'⟩ := h.bounds _ _ _ hformat
      have hqueried := h.formatQueried (by rw [hformat]; rfl)
      simp [dimensionsConsistent, result, hformat, hqueried, hw, hw', hh, hh', hs, hs']
  acquired := by
    cases hallocated : s.bufferWasAllocated with
    | true =>
      obtain ⟨format, hformat⟩ := Option.isSome_iff_exists.mp (h.allocated hallocated)
      have hqueried := h.formatQueried (by rw [hformat]; rfl)
      simp [methodConsistent, result, hallocated, hformat, hqueried]
    | false =>
      obtain ⟨hpoll, hread, hreceived, hcount⟩ := h.unallocated hallocated
      have hwipe : wiped = false := by simpa [hallocated] using hwiped
      simp [methodConsistent, streamingEvents, result, hallocated, hpoll, hread, hreceived, hcount,
        hwipe]
  bounded := fun hreceived => (h.frame hreceived).2.2.2 wiped closed
  events := by
    cases hallocated : s.bufferWasAllocated with
    | false => simp [eventsConsistent, result, hallocated]
    | true =>
      cases hread : s.readAttempted with
      | true =>
        have hpolled := h.read hread
        simp [eventsConsistent, readWriteEventsConsistent, streamingEvents, result, hallocated,
          hread, hpolled]
      | false =>
        have hcount : s.count = none := by simpa [hread] using h.counted
        have hreceived : s.received = false := by
          simpa [hread] using fun hr => h.counted (h.received hr).1
        simp [eventsConsistent, readWriteEventsConsistent, streamingEvents, result, hallocated,
          hread, hcount, hreceived]
  cleanup := by
    cases hallocated : s.bufferWasAllocated <;> simp [expectedCleanup, result, hallocated]

/-- Its byte count is there exactly if a frame was. -/
theorem byteCountConsistent_result (h : Sound s) :
    byteCountConsistent (result s wiped closed) = true := by
  cases hreceived : s.received with
  | true => simp [byteCountConsistent, result, hreceived]
  | false =>
    cases hcount : s.count with
    | none => simp [byteCountConsistent, result, hreceived, hcount]
    | some count =>
      cases hformat : s.format with
      | none => simp [byteCountConsistent, result, hreceived, hcount, hformat]
      | some format =>
        obtain ⟨width, height, sizeimage⟩ := format
        have hfits := h.fits count width height sizeimage hcount hformat
        rw [hreceived] at hfits
        have hout : ¬(1 ≤ count ∧ count ≤ (sizeimage : Int)) := fun hin =>
          Bool.false_ne_true (hfits.mpr hin)
        simp [byteCountConsistent, result, hreceived, hcount, hformat]
        omega

/-- Its reason agrees with how far the probe came. -/
theorem reasonConsistent_result (h : Sound s)
    (hwiped : wiped = true → s.bufferWasAllocated = true) :
    reasonConsistent (result s wiped closed) = true := by
  cases hlost : s.bufferWasAllocated && !wiped with
  | true =>
    obtain ⟨hallocated, hwipe⟩ := Bool.and_eq_true_iff.mp hlost
    simp [reasonConsistent, cleanupFailureReasons, result, settleReason, hallocated, hwipe]
  | false =>
    cases hreceived : s.received with
    | true =>
      obtain ⟨hread, hpolled, hallocated, hbounded⟩ := h.frame hreceived
      obtain rfl : wiped = true := by simpa [hallocated] using hlost
      have hreason := (h.received hreceived).2
      refine reasonConsistent_received hreceived (hbounded true closed) rfl hpolled ?_ ?_ ?_
      · simp [acquisitionPathComplete, streamingEvents, result, hallocated, hread]
      · simp [result]
      · cases closed <;> simp [result, settleReason, hreceived, hreason]
    | false =>
      have hkept : wiped = true ∨ s.bufferWasAllocated = false := by
        cases wiped with
        | true => exact .inl rfl
        | false => exact .inr (by simpa using hlost)
      cases closed with
      | false =>
        refine reasonConsistent_unclosed ?_ hreceived rfl ?_
        · simp [result, settleReason, hlost, hreceived]
        · exact hkept.imp id fun hallocated => by simp [result, hallocated]
      | true =>
        refine reasonConsistent_plain ?_ hreceived rfl ?_ ?_
        · cases hreason : s.reason with
          | none => simp [result, settleReason, hlost, hreceived, hreason, plain_unexpected]
          | some reason =>
            rcases h.reason reason hreason with hplain | ⟨-, hr⟩
            · simpa [result, settleReason, hlost, hreceived, hreason] using hplain
            · exact absurd hr (by rw [hreceived]; exact Bool.false_ne_true)
        · rcases hkept with hwipe | hallocated
          · simp [result, hwipe]
          · simp [result, hallocated]
        · rcases hkept with hwipe | hallocated
          · exact .inl hwipe
          · exact .inr (by simp [result, hallocated])

/-- Every result of the read/write probe is accepted. -/
theorem result_consistent (h : Sound s) (hwiped : wiped = true → s.bufferWasAllocated = true) :
    consistentResult (result s wiped closed) = true := by
  rw [(result_wellShaped h hwiped).consistentResult, byteCountConsistent_result h,
    reasonConsistent_result h hwiped]
  rfl

end ReadWrite

/-! ## The streaming probe -/

/-- A dequeued buffer reports more bytes than were mapped, but no more than the image size. -/
def Misfit (format : Option (Nat × Nat × Nat)) (mapping : Option (Nat × Nat))
    (dequeued : Option Bytes) : Prop :=
  match format, mapping, dequeued with
  | some (_, _, sizeimage), some (length, _), some response =>
    IsCaptureBuffer response ∧ length < u32 response bufferBytesusedOffset ∧
      u32 response bufferBytesusedOffset ≤ sizeimage
  | _, _, _ => False

instance (format : Option (Nat × Nat × Nat)) (mapping : Option (Nat × Nat))
    (dequeued : Option Bytes) : Decidable (Misfit format mapping dequeued) := by
  unfold Misfit
  split <;> infer_instance

/-- The frame does not fit the format and the mapping. -/
def MisfitFrame (m : Story) : Prop := Misfit m.format m.mapping m.dequeued

instance (m : Story) : Decidable (MisfitFrame m) := inferInstanceAs (Decidable (Misfit _ _ _))

/-- Whether the story tells of a received frame. -/
def frameReceived (m : Story) : Bool := (Streaming.frameOf m.format m.mapping m.dequeued).2

/-- Without a frame, the descriptor could not be closed and on top of it the buffer not unmapped or
    the buffers not released, while the wipe did not fail. -/
def DoubleFailure (m : Story) : Prop :=
  m.negotiated = true ∧ frameReceived m = false ∧ m.closed = false ∧
    (m.mapped = true → m.wiped = true) ∧
      (m.mapped = true ∧ m.unmapped = false ∨ m.released = false)

instance (m : Story) : Decidable (DoubleFailure m) := inferInstanceAs (Decidable (_ ∧ _))

namespace Streaming

variable {s : Acquisition} {c : Cleanup} {early : Bool} {dequeued : Option Bytes}

/-- Without negotiated buffers nothing else happened. -/
theorem Sound.unnegotiated (h : Sound s dequeued) (hnot : s.bufferNegotiationSucceeded = false) :
    s.bufferWasMapped = false ∧ s.bufferWasQueued = false ∧ s.streamWasStarted = false ∧
      s.pollWasAttempted = false ∧ s.frameDequeueWasAttempted = false ∧
      s.frameByteCount = none ∧ s.frameReceived = false := by
  have hmapped : s.bufferWasMapped = false := by simpa [hnot] using h.mapped
  have hqueued : s.bufferWasQueued = false := by simpa [hmapped] using h.queued
  have hstarted : s.streamWasStarted = false := by simpa [hqueued] using h.started
  have hpolled : s.pollWasAttempted = false := by simpa [hstarted] using h.polled
  have hattempted : s.frameDequeueWasAttempted = false := by
    simpa [hpolled] using h.dequeueAttempted
  have hcount : s.frameByteCount = none := by simpa [hattempted] using h.counted
  have hreceived : s.frameReceived = false := by
    simpa [hattempted] using fun hr => (h.received hr).1
  exact ⟨hmapped, hqueued, hstarted, hpolled, hattempted, hcount, hreceived⟩

/-- What a received frame was preceded by. -/
theorem Sound.path (h : Sound s dequeued) (hattempted : s.frameDequeueWasAttempted = true) :
    s.pollWasAttempted = true ∧ s.streamWasStarted = true ∧ s.bufferWasQueued = true ∧
      s.bufferWasMapped = true ∧ s.bufferNegotiationSucceeded = true := by
  have hpolled := h.dequeueAttempted hattempted
  have hstarted := h.polled hpolled
  have hqueued := h.started hstarted
  have hmapped := h.queued hqueued
  exact ⟨hpolled, hstarted, hqueued, hmapped, h.mapped hmapped⟩

/-- What a frame that fits has for a byte count, and when one that does not still looks right. -/
theorem dequeuedFrameValid_cases (response : Bytes) (sizeimage length : Nat) :
    (∃ count, (dequeuedFrameValid response sizeimage length) = (some count, "validated") ∧
        1 ≤ count ∧ count ≤ sizeimage ∧ count ≤ length ∧
        count = u32 response bufferBytesusedOffset) ∨
      ((dequeuedFrameValid response sizeimage length).2 ≠ "validated" ∧
        ((∃ count, (dequeuedFrameValid response sizeimage length).1 = some count ∧ 1 ≤ count ∧
            count ≤ sizeimage) ↔
          IsCaptureBuffer response ∧ length < u32 response bufferBytesusedOffset ∧
            u32 response bufferBytesusedOffset ≤ sizeimage)) := by
  unfold dequeuedFrameValid
  dsimp only
  split
  next hother => exact .inr ⟨by decide, by simp [hother]⟩
  next hbuffer =>
    have hbuffer := not_not.mp hbuffer
    split
    next hempty => exact .inr ⟨by simp, by simp [hempty]⟩
    next hsome =>
      split
      next hlarge =>
        refine .inr ⟨by simp, ?_⟩
        constructor
        · rintro ⟨count, hcount, hlow, hhigh⟩
          obtain rfl := Option.some.inj hcount
          exact ⟨hbuffer, by omega, hhigh⟩
        · rintro ⟨-, hlow, hhigh⟩
          exact ⟨_, rfl, by omega, hhigh⟩
      next hfits => exact .inl ⟨_, rfl, by omega, by omega, by omega, rfl⟩

/-- A received frame has a byte count that fits, within the bounds. -/
theorem Sound.bounded (h : Sound s dequeued) (hreceived : s.frameReceived = true) (c : Cleanup) :
    boundedFrameMetadata (result s c) = true := by
  obtain ⟨-, -, -, hmapped, hnegotiated⟩ := h.path (h.received hreceived).1
  obtain ⟨⟨width, height, sizeimage⟩, hformat⟩ :=
    Option.isSome_iff_exists.mp (h.negotiated hnegotiated)
  obtain ⟨⟨length, offset⟩, hmapping⟩ := Option.isSome_iff_exists.mp (h.mapping hmapped)
  obtain ⟨⟨hw, hw'⟩, ⟨hh, hh'⟩, hs, hs'⟩ := h.bounds _ hformat
  have hframe := h.frame
  cases dequeued with
  | none =>
    rw [frameOf_none] at hframe
    exact absurd hreceived (by rw [(Prod.mk.inj hframe).2]; exact Bool.false_ne_true)
  | some response =>
    rw [hformat, hmapping, frameOf_some, Prod.mk.injEq] at hframe
    rcases dequeuedFrameValid_cases response sizeimage length with
      ⟨count, hvalid, hlow, hhigh, -, -⟩ | ⟨hinvalid, -⟩
    · rw [hvalid] at hframe
      simp [boundedFrameMetadata, result, hformat, hframe.1, hw, hw', hh, hh', hs, hs', hlow, hhigh]
    · rw [hreceived] at hframe
      exact absurd (of_decide_eq_true hframe.2.symm) hinvalid

theorem result_wellShaped (h : Sound s dequeued) (ht : Tidy s c early) :
    WellShaped (result s c) where
  method := by
    cases hnegotiated : s.bufferNegotiationSucceeded <;>
      simp [result, h.method, hnegotiated]
  streaming := by
    cases hnegotiated : s.bufferNegotiationSucceeded <;>
      simp [result, h.method, hnegotiated]
  opened := rfl
  queried := h.capabilityQueried
  dimensions := by
    cases hformat : s.format with
    | none => simp [dimensionsConsistent, result, hformat]
    | some format =>
      obtain ⟨width, height, sizeimage⟩ := format
      obtain ⟨⟨hw, hw'⟩, ⟨hh, hh'⟩, hs, hs'⟩ := h.bounds _ hformat
      have hqueried := h.formatQueried (by rw [hformat]; rfl)
      simp [dimensionsConsistent, result, hformat, hqueried, hw, hw', hh, hh', hs, hs']
  acquired := by
    cases hnegotiated : s.bufferNegotiationSucceeded with
    | true =>
      obtain ⟨format, hformat⟩ := Option.isSome_iff_exists.mp (h.negotiated hnegotiated)
      have hqueried := h.formatQueried (by rw [hformat]; rfl)
      simp [methodConsistent, result, h.method, hnegotiated, hformat, hqueried]
    | false =>
      obtain ⟨hmapped, hqueued, hstarted, hpolled, hattempted, hcount, hreceived⟩ :=
        h.unnegotiated hnegotiated
      have hstopped : c.streamWasStopped = false := by simpa [hstarted] using ht.stopped
      have hwiped : c.frameBufferWipeCompleted = false := by
        simpa [hmapped] using fun hw => (ht.wiped hw).1
      have hunmapped : c.bufferWasUnmapped = false := by simpa [hmapped] using ht.unmapped
      have hreleased : c.buffersWereReleased = false := by
        simpa [hnegotiated] using ht.released
      simp [methodConsistent, streamingEvents, result, h.method, hnegotiated, hmapped, hqueued,
        hstarted, hpolled, hattempted, hcount, hreceived, hstopped, hwiped, hunmapped, hreleased]
  bounded := fun hreceived => h.bounded hreceived c
  events := by
    cases hnegotiated : s.bufferNegotiationSucceeded with
    | false => simp [eventsConsistent, result, h.method, hnegotiated]
    | true =>
      have hevents : eventsConsistent (result s c) = mmapEventsConsistent (result s c) := by
        simp [eventsConsistent, result, h.method, hnegotiated]
      rw [hevents]
      simp only [mmapEventsConsistent, Bool.and_eq_true, not_and_not]
      refine ⟨⟨⟨⟨⟨⟨⟨⟨⟨⟨⟨rfl, h.mapped⟩, h.queued⟩, h.started⟩, h.polled⟩, ?_⟩, ht.stopped⟩,
        ht.unmapped⟩, ht.released⟩, fun hw => (ht.wiped hw).1⟩, ?_⟩, fun hr => (h.received hr).1⟩
      · exact fun ha => ⟨h.polled (h.dequeueAttempted ha), h.dequeueAttempted ha⟩
      · simpa [result] using h.counted
  cleanup := by
    cases hnegotiated : s.bufferNegotiationSucceeded with
    | false =>
      obtain ⟨hmapped, -, hstarted, -⟩ := h.unnegotiated hnegotiated
      simp [expectedCleanup, result, h.method, hnegotiated, hmapped, hstarted]
    | true =>
      simp [expectedCleanup, result, h.method, hnegotiated, Bool.and_assoc, Bool.and_comm,
        Bool.and_left_comm]

/-- The cleanup does not change whether a frame was received. -/
theorem frameReceived_finish (h : Sound s dequeued) (c : Cleanup) (early : Bool) :
    frameReceived (finish s dequeued c early) = s.frameReceived :=
  congrArg Prod.snd h.frame.symm

/-- Without a byte count there is nothing to refuse. -/
theorem byteCountConsistent_uncounted (c : Cleanup) (hcount : s.frameByteCount = none) :
    byteCountConsistent (result s c) = true := by
  cases hreceived : s.frameReceived <;> simp [byteCountConsistent, result, hcount, hreceived]

/-- The byte count is accepted unless the frame is a misfit. -/
theorem byteCountConsistent_result (h : Sound s dequeued) (c : Cleanup) :
    byteCountConsistent (result s c) = true ↔ ¬Misfit s.format s.mapping dequeued := by
  have hframe := h.frame
  have hnone : s.frameByteCount = none →
      (byteCountConsistent (result s c) = true ↔ ¬False) := fun hcount =>
    iff_of_true (byteCountConsistent_uncounted c hcount) not_false
  cases hformat : s.format with
  | none =>
    rw [hformat] at hframe
    exact hnone (Prod.mk.inj hframe).1
  | some format =>
    obtain ⟨width, height, sizeimage⟩ := format
    cases hmapping : s.mapping with
    | none =>
      rw [hformat, hmapping] at hframe
      exact hnone (Prod.mk.inj hframe).1
    | some mapping =>
      obtain ⟨length, offset⟩ := mapping
      cases dequeued with
      | none =>
        rw [frameOf_none] at hframe
        exact hnone (Prod.mk.inj hframe).1
      | some response =>
        rw [hformat, hmapping, frameOf_some] at hframe
        obtain ⟨hcount, hreceived⟩ := Prod.mk.inj hframe
        rcases dequeuedFrameValid_cases response sizeimage length with
          ⟨count, hvalid, -, -, hlength, hused⟩ | ⟨hinvalid, hmisfit⟩
        · have hnot : s.frameReceived = true := hreceived.trans (by rw [hvalid]; rfl)
          refine iff_of_true (by simp [byteCountConsistent, result, hnot]) ?_
          rintro ⟨-, hlow, -⟩
          omega
        · have hnot : s.frameReceived = false := hreceived.trans (decide_eq_false hinvalid)
          refine Iff.trans ?_ (not_congr hmisfit)
          rw [← hcount]
          cases hsome : s.frameByteCount with
          | none =>
            refine iff_of_true (byteCountConsistent_uncounted c hsome) ?_
            rintro ⟨count, hc, -⟩
            cases hc
          | some count =>
            simp [byteCountConsistent, result, hnot, hsome, hformat]
            omega

/-- A failed step of the cleanup with the wipe out of the way: the close decides for a run without
    a frame. -/
theorem reasonConsistent_step (h : Sound s dequeued)
    (hkept : c.frameBufferWipeCompleted = true ∨ s.bufferWasMapped = false)
    (hreason : settleReason s c = some "stream_stop_failed" ∨
      settleReason s c = some "buffer_unmap_failed" ∨
      settleReason s c = some "buffer_release_failed")
    (hcleanup : (result s c).cleanupCompleted = false) :
    reasonConsistent (result s c) = (s.frameReceived || c.descriptorWasClosed) := by
  refine reasonConsistent_cleanup ?_ hcleanup ?_
  · rcases hreason with hreason | hreason | hreason <;>
      simp [result, hreason, cleanupFailureReasons]
  · rcases hkept with hwiped | hmapped
    · exact .inl hwiped
    · refine .inr ⟨?_, hmapped⟩
      cases hnegotiated : s.bufferNegotiationSucceeded <;> simp [result, h.method, hnegotiated]

/-- When no step before the close failed, the reason is that of the frame, of the close or of the
    acquisition. -/
theorem reasonConsistent_clean (h : Sound s dequeued)
    (hlost : (s.bufferWasMapped && !c.frameBufferWipeCompleted) = false)
    (hstream : (s.streamWasStarted && !c.streamWasStopped) = false)
    (hmap : (s.bufferWasMapped && !c.bufferWasUnmapped) = false)
    (hrelease : (s.bufferNegotiationSucceeded && !c.buffersWereReleased) = false) :
    reasonConsistent (result s c) = true := by
  -- with no failed step before it, only the close can still set the reason
  have hsettled : settleReason s c = if !c.descriptorWasClosed then
      some (if s.frameReceived then "frame_received_cleanup_unconfirmed"
        else "descriptor_close_failed") else s.reason := by
    simp [settleReason, hlost, hstream, hmap, hrelease]
  have hcleanup : (result s c).cleanupCompleted = c.descriptorWasClosed := by
    have hgone : (!s.bufferWasMapped || (c.frameBufferWipeCompleted && c.bufferWasUnmapped)) =
        true := by
      rw [Bool.or_and_distrib_left, not_or_of_and_not hlost, not_or_of_and_not hmap]
      rfl
    simp only [result, not_or_of_and_not hstream, not_or_of_and_not hrelease, hgone, Bool.and_true]
  -- a received frame needs the whole path, otherwise the reason is the earlier one
  cases hreceived : s.frameReceived with
  | true =>
    obtain ⟨hattempted, hreason⟩ := h.received hreceived
    obtain ⟨hpolled, hstarted, hqueued, hmapped, hnegotiated⟩ := h.path hattempted
    have hwiped : c.frameBufferWipeCompleted = true := by simpa [hmapped] using hlost
    have hstopped : c.streamWasStopped = true := by simpa [hstarted] using hstream
    have hunmapped : c.bufferWasUnmapped = true := by simpa [hmapped] using hmap
    have hreleased : c.buffersWereReleased = true := by simpa [hnegotiated] using hrelease
    refine reasonConsistent_received hreceived (h.bounded hreceived c) hwiped hpolled ?_ hcleanup ?_
    · simp [acquisitionPathComplete, streamingSuccessPathComplete, streamingEvents, result, h.method,
        hnegotiated, hmapped, hqueued, hstarted, hattempted, hstopped, hunmapped, hreleased]
    · cases hclosed : c.descriptorWasClosed <;>
        simp [result, hsettled, hclosed, hreceived, hreason]
  | false =>
    have hkept : c.frameBufferWipeCompleted = true ∨ s.bufferWasMapped = false := by
      cases hwipe : c.frameBufferWipeCompleted with
      | true => exact .inl rfl
      | false => exact .inr (by simpa [hwipe] using hlost)
    have hmethod : (result s c).acquisitionMethod ≠ some "readwrite" := by
      cases hnegotiated : s.bufferNegotiationSucceeded <;> simp [result, h.method, hnegotiated]
    cases hclosed : c.descriptorWasClosed with
    | true =>
      refine reasonConsistent_plain ?_ hreceived hclosed (hcleanup.trans hclosed) ?_
      · cases hreason : s.reason with
        | none => simp [result, hsettled, hclosed, hreason, plain_unexpected]
        | some reason =>
          rcases h.reason reason hreason with hplain | ⟨-, hr⟩
          · simpa [result, hsettled, hclosed, hreason] using hplain
          · exact absurd hr (by rw [hreceived]; exact Bool.false_ne_true)
      · exact hkept.imp id fun hmapped => ⟨hmethod, hmapped⟩
    | false =>
      have hreason : (result s c).reasonCode = "descriptor_close_failed" := by
        simp [result, hsettled, hclosed, hreceived]
      exact reasonConsistent_unclosed hreason hreceived hclosed
        (hkept.imp id fun hmapped => ⟨hmethod, hmapped⟩)

/-- The reason is accepted unless two steps of the cleanup failed. -/
theorem reasonConsistent_result (h : Sound s dequeued) (ht : Tidy s c early) :
    reasonConsistent (result s c) = true ↔ ¬DoubleFailure (finish s dequeued c early) := by
  have hreceived := frameReceived_finish h c early
  cases hlost : s.bufferWasMapped && !c.frameBufferWipeCompleted with
  | true =>
    obtain ⟨hmapped, hwipe⟩ := Bool.and_eq_true_iff.mp hlost
    have hwipe : c.frameBufferWipeCompleted = false := by simpa using hwipe
    refine iff_of_true ?_ ?_
    · simp [reasonConsistent, cleanupFailureReasons, result, settleReason, hmapped, hwipe, h.method,
        h.mapped hmapped]
    · rintro ⟨-, -, -, hkept, -⟩
      exact Bool.false_ne_true (hwipe.symm.trans (hkept hmapped))
  | false =>
    have hkept : c.frameBufferWipeCompleted = true ∨ s.bufferWasMapped = false := by
      cases hwipe : c.frameBufferWipeCompleted with
      | true => exact .inl rfl
      | false => exact .inr (by simpa [hwipe] using hlost)
    cases hstream : s.streamWasStarted && !c.streamWasStopped with
    | true =>
      obtain ⟨hstarted, hunconfirmed⟩ := Bool.and_eq_true_iff.mp hstream
      have hmapped := h.queued (h.started hstarted)
      have hwiped : c.frameBufferWipeCompleted = true := by simpa [hmapped] using hkept
      -- a wipe after an unconfirmed stop needs the descriptor closed
      have hclosed : c.descriptorWasClosed = true := by
        have hidle := (ht.wiped hwiped).2
        cases early with
        | true => exact (ht.early rfl).2.2.1
        | false => simp [unstopped, hstream] at hidle
      rw [reasonConsistent_step h hkept (.inl (by simp [settleReason, hlost, hstream]))
        (by simp [result, hstarted, show c.streamWasStopped = false by simpa using hunconfirmed]),
        hclosed, Bool.or_true]
      exact iff_of_true rfl fun hfailure => Bool.false_ne_true (hfailure.2.2.1.symm.trans hclosed)
    | false =>
      have hdecides : (s.bufferWasMapped = true ∧ c.bufferWasUnmapped = false ∨
          c.buffersWereReleased = false) → s.bufferNegotiationSucceeded = true →
          ((s.frameReceived || c.descriptorWasClosed) = true ↔
            ¬DoubleFailure (finish s dequeued c early)) := by
        intro hstep hnegotiated
        have hwiped : s.bufferWasMapped = true → c.frameBufferWipeCompleted = true := fun hmapped =>
          by simpa [hmapped] using hkept
        have hfailure : DoubleFailure (finish s dequeued c early) ↔
            s.frameReceived = false ∧ c.descriptorWasClosed = false := by
          constructor
          · rintro ⟨-, hr, hclosed, -⟩
            exact ⟨hreceived.symm.trans hr, hclosed⟩
          · rintro ⟨hr, hclosed⟩
            exact ⟨hnegotiated, hreceived.trans hr, hclosed, hwiped, hstep⟩
        rw [hfailure, ← Bool.or_eq_false_iff, Bool.not_eq_false]
      cases hmap : s.bufferWasMapped && !c.bufferWasUnmapped with
      | true =>
        obtain ⟨hmapped, hunmap⟩ := Bool.and_eq_true_iff.mp hmap
        have hunmap : c.bufferWasUnmapped = false := by simpa using hunmap
        rw [reasonConsistent_step h hkept (.inr (.inl (by simp [settleReason, hlost, hstream, hmap])))
          (by simp [result, hmapped, hunmap])]
        exact hdecides (.inl ⟨hmapped, hunmap⟩) (h.mapped hmapped)
      | false =>
        cases hrelease : s.bufferNegotiationSucceeded && !c.buffersWereReleased with
        | true =>
          obtain ⟨hnegotiated, hheld⟩ := Bool.and_eq_true_iff.mp hrelease
          have hheld : c.buffersWereReleased = false := by simpa using hheld
          rw [reasonConsistent_step h hkept
            (.inr (.inr (by simp [settleReason, hlost, hstream, hmap, hrelease])))
            (by simp [result, hnegotiated, hheld])]
          exact hdecides (.inr hheld) hnegotiated
        | false =>
          refine iff_of_true ?_ ?_
          · exact reasonConsistent_clean h hlost hstream hmap hrelease
          · rintro ⟨hnegotiated, -, -, -, ⟨hmapped, hunmap⟩ | hheld⟩
            · have hmapped : s.bufferWasMapped = true := hmapped
              have hunmap : c.bufferWasUnmapped = false := hunmap
              simp [hmapped, hunmap] at hmap
            · have hnegotiated : s.bufferNegotiationSucceeded = true := hnegotiated
              have hheld : c.buffersWereReleased = false := hheld
              simp [hnegotiated, hheld] at hrelease

/-- The results of the streaming probe that are accepted. -/
theorem result_consistent (h : Sound s dequeued) (ht : Tidy s c early) :
    consistentResult (result s c) = true ↔
      ¬MisfitFrame (finish s dequeued c early) ∧ ¬DoubleFailure (finish s dequeued c early) := by
  rw [(result_wellShaped h ht).consistentResult, Bool.and_eq_true,
    byteCountConsistent_result h c, reasonConsistent_result h ht]
  exact Iff.rfl

end Streaming

/-! ## Whole probes -/

/-- The service accepts what a probe ends with. -/
def accepts : Except Raised CaptureFrameProbeResult → Bool
  | .ok result => consistentResult result
  | .error _ => false

variable {m : Story} {identifier : String}

/-- A device that was not asked to stream gives no cause to refuse a result. -/
theorem accepted_of_aloof (h : ReadWrite.Aloof m) : ¬MisfitFrame m ∧ ¬DoubleFailure m := by
  constructor
  · intro hmisfit
    unfold MisfitFrame Misfit at hmisfit
    rw [h.2] at hmisfit
    split at hmisfit
    next hsome => cases hsome
    next => exact hmisfit
  · intro hfailure
    exact Bool.false_ne_true (h.1.symm.trans hfailure.1)

/-- The read-write probe always builds an acceptable result. -/
theorem tells_readWriteProbe (hm : ReadWrite.Aloof m) :
    Tells (ReadWrite.probe identifier) m fun r m' => ReadWrite.Aloof m' ∧ accepts r = true := by
  refine tells_probeWith (fun reason => ⟨hm, unopened_consistent reason⟩) fun fd deadline => ?_
  refine (ReadWrite.tells_opened ⟨rfl, rfl⟩).mono ?_
  rintro r m' ⟨hm', s, wiped, closed, rfl, hsound, hwiped⟩
  exact ⟨hm', ReadWrite.result_consistent hsound hwiped⟩

/-- The streaming probe does, but for the two defects. -/
theorem tells_streamingProbe (hm : ReadWrite.Aloof m) :
    Tells (Streaming.probe identifier) m fun r m' =>
      (accepts r = true ↔ ¬MisfitFrame m' ∧ ¬DoubleFailure m') := by
  refine tells_probeWith (fun reason => ?_) fun fd deadline => ?_
  · exact iff_of_true (unopened_consistent reason) (accepted_of_aloof hm)
  · refine Streaming.tells_opened.mono ?_
    rintro r m' ⟨s, dequeued, c, early, rfl, rfl, hsound, htidy⟩
    exact Streaming.result_consistent hsound htidy

/-- So does the adaptive probe, which tries one after the other. -/
theorem tells_adaptiveProbe (hm : ReadWrite.Aloof m) :
    Tells (Adaptive.probe identifier) m fun r m' =>
      (accepts r = true ↔ ¬MisfitFrame m' ∧ ¬DoubleFailure m') := by
  refine passes_bind.mpr ((tells_readWriteProbe hm).mono ?_)
  rintro r m' ⟨hm', haccepted⟩
  cases r with
  | error e => cases haccepted
  | ok result =>
    dsimp only
    split
    · exact iff_of_true haccepted (accepted_of_aloof hm')
    · exact tells_streamingProbe hm'

variable {t : List CaptureExchange} {r : Except Raised CaptureFrameProbeResult}

/-- The service accepts every result of the read/write probe, and those of the streaming probe and of
    the adaptive composition exactly when the device told of no misfit frame and no double failure. -/
theorem probe_results_accepted_iff :
    (Runs (ReadWrite.probe identifier) t r → accepts r = true) ∧
    (Runs (Streaming.probe identifier) t r →
      (accepts r = true ↔ ¬MisfitFrame (story t) ∧ ¬DoubleFailure (story t))) ∧
    (Runs (Adaptive.probe identifier) t r →
      (accepts r = true ↔ ¬MisfitFrame (story t) ∧ ¬DoubleFailure (story t))) := by
  refine ⟨fun h => ?_, fun h => ?_, fun h => ?_⟩
  · obtain ⟨m', -, -, haccepted⟩ :=
      (tells_readWriteProbe (m := {}) ⟨rfl, rfl⟩).runs h
    exact haccepted
  · obtain ⟨m', hm, haccepted⟩ := (tells_streamingProbe (m := {}) ⟨rfl, rfl⟩).runs h
    rw [(monitored_guarded hm).1] at haccepted
    exact haccepted
  · obtain ⟨m', hm, haccepted⟩ := (tells_adaptiveProbe (m := {}) ⟨rfl, rfl⟩).runs h
    rw [(monitored_guarded hm).1] at haccepted
    exact haccepted

open Streaming in
/-- A steady device, and what a device reports that maps less than it fills. -/
theorem probe_results_accepted_iff_steady :
    accepts ((Adaptive.probe "video0").play (I := CaptureInterface) steadyDriver.handler ()).1 =
      true := by
  refine (probe_results_accepted_iff.2.2 (steadyDriver.runs_script _)).mpr ?_
  decide +kernel

/-- A device whose image is larger than its mapped buffer. -/
def overfullDriver : Streaming.Driver :=
  { Streaming.steadyDriver with sizeimage := 16, mappedLength := 8, bytesused := 12 }

theorem overfull_frame_refused : ¬∀ (identifier : String) (t : List CaptureExchange)
    (r : Except Raised CaptureFrameProbeResult), Runs (ReadWrite.probe identifier) t r ∨
      Runs (Streaming.probe identifier) t r ∨ Runs (Adaptive.probe identifier) t r →
        accepts r = true := by
  intro h
  have haccepted := h "video0" _ _ (.inr (.inr (overfullDriver.runs_script _)))
  revert haccepted
  decide +kernel

end Aurora.Hardware
