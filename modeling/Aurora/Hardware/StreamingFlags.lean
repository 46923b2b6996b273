/-
  The flags of a streaming acquisition follow from each other and from the story so far.

  `Sound` says how the flags hang together.  A stage is entered with the flag of the stage before it
  (`Reached`), and leaves with its own flag or with a reason; the story never says more than the flags
  do (`soFar`).
-/
import Aurora.Hardware.CaptureStory

namespace Aurora.Hardware.Streaming

open Program

/-- What the flags say about the story of a run that is not being cleaned up yet. -/
def soFar (s : Acquisition) (dequeued : Option Bytes) : Story :=
  { format := s.format
    negotiated := s.bufferNegotiationSucceeded
    mapping := s.mapping
    mapped := s.bufferWasMapped
    started := s.streamWasStarted
    dequeued := dequeued }

/-- The byte count of a dequeued frame, and whether it counts as received. -/
def frameOf (format : Option (Nat × Nat × Nat)) (mapping : Option (Nat × Nat))
    (dequeued : Option Bytes) : Option Nat × Bool :=
  match format, mapping, dequeued with
  | some (_, _, sizeimage), some (length, _), some response =>
    let (byteCount, reason) := dequeuedFrameValid response sizeimage length
    (byteCount, reason = "validated")
  | _, _, _ => (none, false)

/-- The bounds of an accepted format. -/
def BoundedFormat (format : Nat × Nat × Nat) : Prop :=
  (1 ≤ format.1 ∧ format.1 ≤ maxWidth) ∧ (1 ≤ format.2.1 ∧ format.2.1 ≤ maxHeight) ∧
    1 ≤ format.2.2 ∧ format.2.2 ≤ maxSizeimage

/-- How the flags of an acquisition hang together. -/
structure Sound (s : Acquisition) (dequeued : Option Bytes) : Prop where
  bounds : ∀ format, s.format = some format → BoundedFormat format
  formatQueried : s.format.isSome = true → s.currentFormatQuerySucceeded = true
  capabilityQueried :
    s.currentFormatQuerySucceeded = true → s.capabilityQuerySucceeded = true
  method : s.acquisitionMethod = if s.bufferNegotiationSucceeded then some "mmap" else none
  negotiated : s.bufferNegotiationSucceeded = true → s.format.isSome = true
  mapping : s.bufferWasMapped = true → s.mapping.isSome = true
  mapped : s.bufferWasMapped = true → s.bufferNegotiationSucceeded = true
  queued : s.bufferWasQueued = true → s.bufferWasMapped = true
  started : s.streamWasStarted = true → s.bufferWasQueued = true
  polled : s.pollWasAttempted = true → s.streamWasStarted = true
  dequeueAttempted : s.frameDequeueWasAttempted = true → s.pollWasAttempted = true
  concluded : s.frameDequeueWasAttempted = true → s.reason.isSome = true
  counted : s.frameByteCount.isSome = true → s.frameDequeueWasAttempted = true
  received : s.frameReceived = true →
    s.frameDequeueWasAttempted = true ∧ s.reason = some "validated"
  reason : ∀ reason, s.reason = some reason →
    Plain reason ∨ reason = "validated" ∧ s.frameReceived = true
  frame : (s.frameByteCount, s.frameReceived) = frameOf s.format s.mapping dequeued

variable {s : Acquisition} {dequeued : Option Bytes} {m : Story}

theorem frameOf_none (format : Option (Nat × Nat × Nat)) (mapping : Option (Nat × Nat)) :
    frameOf format mapping none = (none, false) := by
  unfold frameOf
  split
  next h => cases h
  next => rfl

/-- A dequeued frame is judged by its response. -/
theorem frameOf_some (width height sizeimage length offset : Nat) (response : Bytes) :
    frameOf (some (width, height, sizeimage)) (some (length, offset)) (some response) =
      ((dequeuedFrameValid response sizeimage length).1,
        decide ((dequeuedFrameValid response sizeimage length).2 = "validated")) := rfl

/-- An acquisition that has not begun is sound. -/
theorem sound_initial {reason : Option String} (h : ∀ r, reason = some r → Plain r) :
    Sound (.initial reason) none where
  bounds := fun _ hf => by cases hf
  formatQueried := fun hf => by cases hf
  capabilityQueried := fun hf => by cases hf
  method := rfl
  negotiated := fun hf => by cases hf
  mapping := fun hf => by cases hf
  mapped := fun hf => by cases hf
  queued := fun hf => by cases hf
  started := fun hf => by cases hf
  polled := fun hf => by cases hf
  dequeueAttempted := fun hf => by cases hf
  concluded := fun hf => by cases hf
  counted := fun hf => by cases hf
  received := fun hf => by cases hf
  reason := fun r hr => .inl (h r hr)
  frame := rfl

/-- Without a dequeued buffer there is no frame. -/
theorem Sound.not_received (h : Sound s none) : s.frameByteCount = none ∧ s.frameReceived = false :=
  Prod.mk.inj (h.frame.trans (frameOf_none _ _))

/-- While there is no reason, no dequeue was attempted. -/
theorem Sound.not_concluded (h : Sound s dequeued) (hnone : s.reason = none) :
    s.frameDequeueWasAttempted ≠ true := fun hattempted => by
  have hsome := h.concluded hattempted
  rw [hnone] at hsome
  cases hsome

/-- A reason of the acquisition stops it, whatever budget is left. -/
theorem Sound.stop (h : Sound s none) {reason : String} (hreason : Plain reason) (left : Nat) :
    Sound { s with reason := some reason, ioctlsRemaining := left } none :=
  { h with
    concluded := fun _ => rfl
    received := fun hr => absurd hr (by rw [h.not_received.2]; exact Bool.false_ne_true)
    reason := fun r hr => .inl (Option.some.inj hr ▸ hreason) }

/-! ## Stages -/

/-- The format was read. -/
def formatKnown (s : Acquisition) : Bool := s.format.isSome

/-- There is a buffer to map. -/
def mappable (s : Acquisition) : Bool := s.mapping.isSome && s.bufferNegotiationSucceeded

/-- The acquisition goes on with this flag, or has stopped. -/
def Reached (flag : Acquisition → Bool) (s : Acquisition) (m : Story) : Prop :=
  (s.reason = none ∧ flag s = true ∧ m = soFar s none ∧ Sound s none) ∨
    ∃ dequeued, s.reason ≠ none ∧ m = soFar s dequeued ∧ Sound s dequeued

theorem Reached.sound {flag : Acquisition → Bool} (h : Reached flag s m) :
    ∃ dequeued, m = soFar s dequeued ∧ Sound s dequeued := by
  rcases h with ⟨-, -, hm, hs⟩ | ⟨dequeued, -, hm, hs⟩
  · exact ⟨none, hm, hs⟩
  · exact ⟨dequeued, hm, hs⟩

/-- An acquisition that stops keeps its flags in order. -/
theorem Sound.reached_stop {flag : Acquisition → Bool} (h : Sound s none) {reason : String}
    (hreason : Plain reason) (left : Nat) :
    Reached flag { s with reason := some reason, ioctlsRemaining := left } (soFar s none) :=
  .inr ⟨none, by simp, rfl, h.stop hreason left⟩

/-- What a stage has to do: from the flag before it to its own, with nothing told when it raises. -/
def Advances (body : Acquisition → Capture Acquisition) (before flag : Acquisition → Bool) : Prop :=
  ∀ s, s.reason = none → before s = true → Sound s none → Tells (body s) (soFar s none) fun
    | .ok s', m' => Reached flag s' m'
    | .error _, m' => m' = soFar s none

/-- One step of the acquisition, taken only while there is no reason to stop. -/
theorem Advances.step {body : Acquisition → Capture Acquisition}
    {before flag : Acquisition → Bool} (h : Advances body before flag) (hs : Reached before s m) :
    Tells (step body s) m fun r m' => ∃ s', r = .ok s' ∧ Reached flag s' m' := by
  refine tells_stage (fun hskip => ?_) fun hnone => ?_
  · rcases hs with ⟨hnone, -⟩ | hstopped
    · exact absurd hnone hskip
    · exact .inr hstopped
  · rcases hs with ⟨-, hbefore, rfl, hsound⟩ | ⟨-, hsome, -⟩
    · refine (h s hnone hbefore hsound).mono ?_
      rintro (e | s') m' hQ
      · obtain rfl := hQ
        exact hsound.reached_stop plain_unexpected s.ioctlsRemaining
      · exact hQ
    · exact absurd hnone hsome

/-- A stage and what follows it. -/
theorem Advances.bind {body : Acquisition → Capture Acquisition} {before flag : Acquisition → Bool}
    {α : Type} {f : Acquisition → Capture α} {Q : Except Raised α → Story → Prop}
    (h : Advances body before flag) (hs : Reached before s m)
    (hf : ∀ s' m', Reached flag s' m' → Tells (f s') m' Q) :
    Tells (Streaming.step body s >>= f) m Q := by
  refine passes_bind.mpr ((h.step hs).mono ?_)
  rintro r m' ⟨s', rfl, hreached⟩
  exact hf s' m' hreached

theorem reached_initial {reason : Option String} (h : ∀ r, reason = some r → Plain r) :
    Reached (fun _ => true) (.initial reason) {} := by
  cases reason with
  | none => exact .inl ⟨rfl, rfl, rfl, sound_initial h⟩
  | some reason => exact .inr ⟨none, Option.some_ne_none reason, rfl, sound_initial h⟩

variable {fd : Nat} {deadline : ℚ}

theorem queryCapability_advances :
    Advances (queryCapability fd deadline) (fun _ => true)
      Acquisition.capabilityQuerySucceeded := by
  intro s hnone _ hs
  refine passes_bind.mpr (tells_ioctlWithRetry (by decide) (fun e => rfl) (fun e => rfl) ?_ ?_ _ _)
  · intro reason left hreason
    exact hs.reached_stop hreason left
  · intro response left
    have hsound : Sound { s with
        reason := capabilityFailure capStreaming "streaming_io_not_supported" response
        capabilityQuerySucceeded := true, ioctlsRemaining := left } none :=
      { hs with
        capabilityQueried := fun _ => rfl
        concluded := fun h => absurd h (hs.not_concluded hnone)
        received := fun hr => absurd hr (by rw [hs.not_received.2]; exact Bool.false_ne_true)
        reason := fun r hr => .inl (plain_capabilityFailure (by decide) hr) }
    cases hfailure : capabilityFailure capStreaming "streaming_io_not_supported" response with
    | none => exact .inl ⟨hfailure, rfl, rfl, hsound⟩
    | some reason => exact .inr ⟨none, by simp [hfailure], rfl, hsound⟩

theorem queryFormat_advances :
    Advances (queryFormat fd deadline) Acquisition.capabilityQuerySucceeded formatKnown := by
  intro s hnone hcapability hs
  refine passes_bind.mpr (tells_ioctlWithRetry (by decide) (fun e => rfl) (fun e => rfl) ?_ ?_ _ _)
  · intro reason left hreason
    exact hs.reached_stop hreason left
  · intro response left
    dsimp only
    cases hvalid : formatValid response with
    | error reason =>
      have hsound : Sound { s with currentFormatQuerySucceeded := true } none :=
        { hs with
          formatQueried := fun _ => rfl
          capabilityQueried := fun _ => hcapability }
      rw [Story.after_getFormat_error hvalid]
      exact hsound.reached_stop (plain_formatValid hvalid) left
    | ok format =>
      obtain ⟨width, height, sizeimage⟩ := format
      rw [Story.after_getFormat_ok hvalid]
      exact .inl ⟨hnone, rfl, rfl, { hs with
        bounds := fun f hf => Option.some.inj hf ▸ formatValid_bounds hvalid
        formatQueried := fun _ => rfl
        capabilityQueried := fun _ => hcapability
        negotiated := fun _ => rfl
        frame := hs.frame.trans ((frameOf_none _ _).trans (frameOf_none _ _).symm) }⟩

theorem negotiateBuffers_advances :
    Advances (negotiateBuffers fd deadline) formatKnown
      Acquisition.bufferNegotiationSucceeded := by
  intro s hnone hformat hs
  refine passes_bind.mpr (tells_ioctlWithRetry (by decide) (fun e => rfl) (fun e => rfl) ?_ ?_ _ _)
  · intro reason left hreason
    exact hs.reached_stop hreason left
  · intro response left
    dsimp only
    rw [Story.after_requestBuffers]
    split
    next hempty =>
      rw [decide_eq_false (by omega), Bool.or_false]
      exact hs.reached_stop (by decide) left
    next hsome =>
      have hsound : Sound { s with
          bufferNegotiationSucceeded := true, acquisitionMethod := some "mmap" } none :=
        { hs with
          method := rfl
          negotiated := fun _ => hformat
          mapped := fun _ => rfl }
      rw [decide_eq_true (by omega), Bool.or_true]
      by_cases hmany : u32 response 0 > maxDriverBuffers
      · rw [if_pos hmany]
        exact hsound.reached_stop (by decide) left
      · rw [if_neg hmany]
        exact .inl ⟨rfl, rfl, rfl, { hsound with
          concluded := fun h => absurd h (hs.not_concluded hnone)
          received := fun hr => absurd hr (by rw [hs.not_received.2]; exact Bool.false_ne_true)
          reason := fun _ hr => by cases hr }⟩

theorem queryBuffer_advances :
    Advances (queryBuffer fd deadline) Acquisition.bufferNegotiationSucceeded mappable := by
  intro s hnone hnegotiated hs
  refine passes_bind.mpr (tells_ioctlWithRetry (by decide) (fun e => rfl) (fun e => rfl) ?_ ?_ _ _)
  · intro reason left hreason
    exact hs.reached_stop hreason left
  · intro response left
    dsimp only
    cases hvalid : mappedBufferValid response with
    | error reason =>
      rw [Story.after_queryBuffer_error hvalid]
      exact hs.reached_stop (plain_mappedBufferValid hvalid) left
    | ok mapping =>
      rw [Story.after_queryBuffer_ok hvalid]
      exact .inl ⟨hnone, hnegotiated, rfl, { hs with
        mapping := fun _ => rfl
        frame := hs.frame.trans ((frameOf_none _ _).trans (frameOf_none _ _).symm) }⟩

theorem mapBuffer_advances :
    Advances (mapBuffer fd) mappable Acquisition.bufferWasMapped := by
  intro s hnone hbefore hs
  obtain ⟨hmapping, hnegotiated⟩ := Bool.and_eq_true_iff.mp hbefore
  unfold mapBuffer
  split
  next hmissing => exact absurd hmapping (by simp [hmissing])
  next length offset _ =>
  refine tells_attempt_bind (fun _ => trivial) fun answer => ?_
  cases answer with
  | ok _ =>
    exact .inl ⟨hnone, rfl, rfl, { hs with
      mapping := fun _ => hmapping
      mapped := fun _ => hnegotiated
      queued := fun _ => rfl }⟩
  | error raised =>
    cases raised with
    | other => exact hs.reached_stop (by decide) s.ioctlsRemaining
    | _ => exact hs.reached_stop (by decide) s.ioctlsRemaining

theorem queueBuffer_advances :
    Advances (queueBuffer fd deadline) Acquisition.bufferWasMapped
      Acquisition.bufferWasQueued := by
  intro s hnone hmapped hs
  refine passes_bind.mpr (tells_ioctlWithRetry (by decide) (fun e => rfl) (fun e => rfl) ?_ ?_ _ _)
  · intro reason left hreason
    exact hs.reached_stop hreason left
  · intro response left
    exact .inl ⟨hnone, rfl, rfl, { hs with
      queued := fun _ => hmapped
      started := fun _ => rfl }⟩

theorem startStream_advances :
    Advances (startStream fd deadline) Acquisition.bufferWasQueued
      Acquisition.streamWasStarted := by
  intro s hnone hqueued hs
  refine passes_bind.mpr (tells_ioctlWithRetry (by decide) (fun e => rfl) (fun e => rfl) ?_ ?_ _ _)
  · intro reason left hreason
    exact hs.reached_stop hreason left
  · intro response left
    exact .inl ⟨hnone, rfl, rfl, { hs with
      started := fun _ => hqueued
      polled := fun _ => rfl }⟩

theorem pollFrame_advances :
    Advances (pollFrame fd deadline) Acquisition.streamWasStarted
      Acquisition.pollWasAttempted := by
  intro s hnone hstarted hs
  refine tells_attempt_bind (fun _ => trivial) fun answer => ?_
  cases answer with
  | error raised => exact hs.reached_stop (by decide) s.ioctlsRemaining
  | ok _ =>
    refine passes_bind.mpr (tells_pollReady (fun e => rfl) ?_ _)
    intro reason attempted hreason hattempted
    have hsound : Sound { s with reason := reason, pollWasAttempted := attempted } none :=
      { hs with
        polled := fun _ => hstarted
        dequeueAttempted := fun h => absurd h (hs.not_concluded hnone)
        concluded := fun h => absurd h (hs.not_concluded hnone)
        received := fun hr => absurd hr (by rw [hs.not_received.2]; exact Bool.false_ne_true)
        reason := fun r hr => .inl (hreason r hr) }
    cases reason with
    | none => exact .inl ⟨rfl, hattempted rfl, rfl, hsound⟩
    | some reason => exact .inr ⟨none, by simp, rfl, hsound⟩

/-- A failed dequeue is no news. -/
theorem tells_dequeueWithRetry {Q : Except Raised (Except String Bytes × Bool × Nat) → Story → Prop}
    (hraise : ∀ e, Q (.error e) m)
    (hfail : ∀ reason attempted left, Plain reason → Q (.ok (.error reason, attempted, left)) m)
    (hok : ∀ response left,
      Q (.ok (.ok response, true, left)) { m with dequeued := some response })
    (left : Nat) (wasInterrupted attempted : Bool) :
    Tells (dequeueWithRetry fd deadline left wasInterrupted attempted) m Q := by
  induction left generalizing wasInterrupted attempted with
  | zero => exact hfail _ _ _ (by decide)
  | succ left ih =>
    refine tells_readMonotonic_bind (fun now => ?_) hraise
    split
    · refine hfail _ _ _ ?_
      split <;> decide
    · refine tells_attempt_bind (fun _ => trivial) fun answer => ?_
      cases answer with
      | ok response => exact hok response left
      | error raised =>
        cases raised with
        | osError errno =>
          dsimp only
          split
          · exact ih true true
          · split
            · exact hfail _ _ _ (by decide)
            · split
              · exact hfail _ _ _ (by decide)
              · exact hfail _ _ _ (by decide)
        | _ => exact hfail _ _ _ plain_unexpected

theorem dequeueFrame_advances :
    Advances (dequeueFrame fd deadline) Acquisition.pollWasAttempted fun _ => false := by
  intro s hnone hpolled hs
  unfold dequeueFrame
  split
  next width height sizeimage length offset hformat hmapping =>
    refine passes_bind.mpr (tells_dequeueWithRetry (fun e => rfl) ?_ ?_ _ _ _)
    · intro reason attempted left hreason
      exact .inr ⟨none, by simp, rfl, { hs with
        dequeueAttempted := fun _ => hpolled
        concluded := fun _ => rfl
        counted := fun h => absurd h (by rw [hs.not_received.1]; exact Bool.false_ne_true)
        received := fun h => absurd h (by rw [hs.not_received.2]; exact Bool.false_ne_true)
        reason := fun r hr => .inl (Option.some.inj hr ▸ hreason) }⟩
    · intro response left
      dsimp only
      cases hvalid : dequeuedFrameValid response sizeimage length with
      | mk count reason =>
      refine .inr ⟨some response, by simp, rfl, { hs with
        dequeueAttempted := fun _ => hpolled
        concluded := fun _ => rfl
        counted := fun _ => rfl
        received := fun h => ⟨rfl, congrArg some (of_decide_eq_true h)⟩
        reason := ?_
        frame := ?_ }⟩
      · intro r hr
        obtain rfl := Option.some.inj hr
        rcases plain_dequeuedFrameValid hvalid with hplain | hvalidated
        · exact .inl hplain
        · exact .inr ⟨hvalidated, decide_eq_true hvalidated⟩
      · show _ = frameOf s.format s.mapping (some response)
        rw [hformat, hmapping, frameOf, hvalid]
  next hmissing =>
    have hmapped := hs.queued (hs.started (hs.polled hpolled))
    obtain ⟨⟨w, h, size⟩, hformat⟩ :=
      Option.isSome_iff_exists.mp (hs.negotiated (hs.mapped hmapped))
    obtain ⟨⟨length, offset⟩, hmapping⟩ := Option.isSome_iff_exists.mp (hs.mapping hmapped)
    exact absurd hmapping (hmissing w h size length offset hformat)

/-- The flags of an acquisition hang together, and say what its story tells. -/
theorem acquire_sound : Tells (acquire fd deadline) {} fun r m' =>
    ∃ s dequeued, r = .ok s ∧ m' = soFar s dequeued ∧ Sound s dequeued := by
  unfold acquire
  refine passes_bind.mpr (tells_inspectDescriptor.mono ?_)
  rintro r m ⟨rfl, reason, rfl, hreason⟩
  refine queryCapability_advances.bind (reached_initial hreason) fun s m hs => ?_
  refine queryFormat_advances.bind hs fun s m hs => ?_
  refine negotiateBuffers_advances.bind hs fun s m hs => ?_
  refine queryBuffer_advances.bind hs fun s m hs => ?_
  refine mapBuffer_advances.bind hs fun s m hs => ?_
  refine queueBuffer_advances.bind hs fun s m hs => ?_
  refine startStream_advances.bind hs fun s m hs => ?_
  refine pollFrame_advances.bind hs fun s m hs => ?_
  refine (dequeueFrame_advances.step hs).mono ?_
  rintro r m' ⟨s', rfl, hreached⟩
  obtain ⟨dequeued, hm, hsound⟩ := hreached.sound
  exact ⟨s', dequeued, rfl, hm, hsound⟩

end Aurora.Hardware.Streaming
