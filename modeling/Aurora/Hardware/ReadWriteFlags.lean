/-
  The flags of a read/write acquisition follow from each other.

  As for the streaming probe, a stage is entered with the flag of the stage before it and leaves with
  its own or with a reason.  A read/write run tells nothing about a stream (`Aloof`).
-/
import Aurora.Hardware.CaptureStory

namespace Aurora.Hardware.ReadWrite

open Program

/-- The story of a device that was not asked to stream. -/
def Aloof (m : Story) : Prop := m.negotiated = false ∧ m.dequeued = none

/-- How the flags of an acquisition hang together. -/
structure Sound (s : Acquisition) : Prop where
  bounds : ∀ width height sizeimage, s.format = some (width, height, sizeimage) →
    (1 ≤ width ∧ width ≤ maxWidth) ∧ (1 ≤ height ∧ height ≤ maxHeight) ∧
      1 ≤ sizeimage ∧ sizeimage ≤ maxSizeimage
  formatQueried : s.format.isSome = true → s.fmtOk = true
  capabilityQueried : s.fmtOk = true → s.capOk = true
  allocated : s.bufferWasAllocated = true → s.format.isSome = true
  polled : s.pollAttempted = true → s.bufferWasAllocated = true
  read : s.readAttempted = true → s.pollAttempted = true
  concluded : s.readAttempted = true → s.reason.isSome = true
  counted : s.count.isSome = true → s.readAttempted = true
  received : s.received = true → s.count.isSome = true ∧ s.reason = some "validated"
  fits : ∀ count width height sizeimage, s.count = some count →
    s.format = some (width, height, sizeimage) →
      (s.received = true ↔ 1 ≤ count ∧ count ≤ (sizeimage : Int))
  reason : ∀ reason, s.reason = some reason →
    Plain reason ∨ reason = "validated" ∧ s.received = true

variable {s : Acquisition} {m : Story}

/-- An acquisition that has not begun is sound. -/
theorem sound_initial {reason : Option String} (h : ∀ r, reason = some r → Plain r) :
    Sound (.initial reason) where
  bounds := fun _ _ _ hf => by cases hf
  formatQueried := fun hf => by cases hf
  capabilityQueried := fun hf => by cases hf
  allocated := fun hf => by cases hf
  polled := fun hf => by cases hf
  read := fun hf => by cases hf
  concluded := fun hf => by cases hf
  counted := fun hf => by cases hf
  received := fun hf => by cases hf
  fits := fun _ _ _ _ hf => by cases hf
  reason := fun r hr => .inl (h r hr)

/-- While there is no reason, no read was attempted and there is no count. -/
theorem Sound.not_read (h : Sound s) (hnone : s.reason = none) : s.readAttempted ≠ true := by
  intro hread
  have hsome := h.concluded hread
  rw [hnone] at hsome
  cases hsome

/-- Without a reason nothing was counted. -/
theorem Sound.not_counted (h : Sound s) (hnone : s.reason = none) : s.count = none := by
  cases hcount : s.count with
  | none => rfl
  | some count => exact absurd (h.counted (by rw [hcount]; rfl)) (h.not_read hnone)

/-- Without a reason nothing was received. -/
theorem Sound.not_received (h : Sound s) (hnone : s.reason = none) : s.received ≠ true := by
  intro hreceived
  have hreason := (h.received hreceived).2
  rw [hnone] at hreason
  cases hreason

/-- A reason of the acquisition stops it, whatever budget is left. -/
theorem Sound.stop (h : Sound s) (hnone : s.reason = none) {reason : String} (hreason : Plain reason)
    (left : Nat) : Sound { s with reason := some reason, ioctlsRemaining := left } :=
  { h with
    concluded := fun _ => rfl
    received := fun hr => absurd hr (h.not_received hnone)
    reason := fun _ hr => .inl (Option.some.inj hr ▸ hreason) }

/-! ## Stages -/

/-- The format was read. -/
def formatKnown (s : Acquisition) : Bool := s.format.isSome

/-- The acquisition goes on with this flag, or has stopped. -/
def Reached (flag : Acquisition → Bool) (s : Acquisition) (m : Story) : Prop :=
  Aloof m ∧ Sound s ∧ (s.reason = none → flag s = true)

/-- An acquisition that stops keeps its flags in order. -/
theorem Sound.reached_stop {flag : Acquisition → Bool} (h : Sound s) (hnone : s.reason = none)
    (hm : Aloof m) {reason : String} (hreason : Plain reason) (left : Nat) :
    Reached flag { s with reason := some reason, ioctlsRemaining := left } m :=
  ⟨hm, h.stop hnone hreason left, fun h => by cases h⟩

/-- What a stage has to do: from the flag before it to its own. -/
def Advances (body : Acquisition → Capture Acquisition) (before flag : Acquisition → Bool) : Prop :=
  ∀ s m, s.reason = none → before s = true → Sound s → Aloof m → Tells (body s) m fun
    | .ok s', m' => Reached flag s' m'
    | .error _, m' => Aloof m'

/-- One step of the acquisition, taken only while there is no reason to stop. -/
theorem Advances.step {body : Acquisition → Capture Acquisition}
    {before flag : Acquisition → Bool} (h : Advances body before flag) (hs : Reached before s m) :
    Tells (step body s) m fun r m' => ∃ s', r = .ok s' ∧ Reached flag s' m' := by
  obtain ⟨hm, hsound, hbefore⟩ := hs
  refine tells_stage (fun hskip => ?_) fun hnone => ?_
  · exact ⟨hm, hsound, fun hnone => absurd hnone hskip⟩
  · refine (h s m hnone (hbefore hnone) hsound hm).mono ?_
    rintro (e | s') m' hQ
    · exact hsound.reached_stop hnone hQ plain_unexpected s.ioctlsRemaining
    · exact hQ

/-- A stage and what follows it. -/
theorem Advances.bind {body : Acquisition → Capture Acquisition} {before flag : Acquisition → Bool}
    {α : Type} {f : Acquisition → Capture α} {Q : Except Raised α → Story → Prop}
    (h : Advances body before flag) (hs : Reached before s m)
    (hf : ∀ s' m', Reached flag s' m' → Tells (f s') m' Q) :
    Tells (ReadWrite.step body s >>= f) m Q := by
  refine passes_bind.mpr ((h.step hs).mono ?_)
  rintro r m' ⟨s', rfl, hreached⟩
  exact hf s' m' hreached

variable {fd : Nat} {deadline : ℚ}

theorem queryCapability_advances :
    Advances (queryCapability fd deadline) (fun _ => true) Acquisition.capOk := by
  intro s m hnone _ hs hm
  refine passes_bind.mpr (tells_ioctlWithRetry (by decide) (fun e => rfl) (fun e => hm) ?_ ?_ _ _)
  · intro reason left hreason
    exact hs.reached_stop hnone hm hreason left
  · intro response left
    exact ⟨hm, { hs with
      capabilityQueried := fun _ => rfl
      concluded := fun h => absurd h (hs.not_read hnone)
      received := fun h => absurd h (hs.not_received hnone)
      reason := fun r hr => .inl (plain_capabilityFailure (by decide) hr) }, fun _ => rfl⟩

theorem queryFormat_advances :
    Advances (queryFormat fd deadline) Acquisition.capOk formatKnown := by
  intro s m hnone hcapability hs hm
  unfold queryFormat
  split
  · exact hs.reached_stop hnone hm (by decide) s.ioctlsRemaining
  refine passes_bind.mpr (tells_ioctlWithRetry (by decide) (fun e => rfl) (fun e => hm) ?_ ?_ _ _)
  · intro reason left hreason
    exact hs.reached_stop hnone hm hreason left
  · intro response left
    have hafter : Aloof (m.after (.ioctl fd .getFormat) (.ok response)) := hm
    dsimp only
    cases hvalid : formatValid response with
    | error reason =>
      have hsound : Sound { s with fmtOk := true } :=
        { hs with
          formatQueried := fun _ => rfl
          capabilityQueried := fun _ => hcapability }
      exact hsound.reached_stop hnone hafter (plain_formatValid hvalid) left
    | ok format =>
      exact ⟨hafter, { hs with
        bounds := fun width height sizeimage hf =>
          formatValid_bounds (hvalid.trans (congrArg _ (Option.some.inj hf)))
        formatQueried := fun _ => rfl
        capabilityQueried := fun _ => hcapability
        allocated := fun _ => rfl
        fits := fun _ _ _ _ hcount => by
          rw [hs.not_counted hnone] at hcount
          cases hcount }, fun _ => rfl⟩

theorem allocateBuffer_advances :
    Advances allocateBuffer formatKnown Acquisition.bufferWasAllocated := by
  intro s m hnone hformat hs hm
  unfold allocateBuffer
  split
  next => exact hm
  next width height sizeimage _ =>
  refine tells_attempt_bind (fun _ => trivial) fun answer => ?_
  cases answer with
  | ok _ =>
    exact ⟨hm, { hs with
      allocated := fun _ => hformat
      polled := fun _ => rfl }, fun _ => rfl⟩
  | error raised =>
    cases raised with
    | memoryError => exact hs.reached_stop hnone hm (by decide) s.ioctlsRemaining
    | overflowError => exact hs.reached_stop hnone hm (by decide) s.ioctlsRemaining
    | _ => exact hm

theorem pollFrame_advances :
    Advances (pollFrame fd deadline) Acquisition.bufferWasAllocated
      Acquisition.pollAttempted := by
  intro s m hnone hallocated hs hm
  refine tells_readMonotonic_bind (fun now => ?_) (fun e => hm)
  split
  · exact hs.reached_stop hnone hm (by decide) s.ioctlsRemaining
  refine tells_attempt_bind (fun _ => trivial) fun answer => ?_
  cases answer with
  | error raised => exact hs.reached_stop hnone hm (by decide) s.ioctlsRemaining
  | ok _ =>
    refine passes_bind.mpr (tells_pollReady (fun e => hm) ?_ _)
    intro reason attempted hreason hattempted
    exact ⟨hm, { hs with
      polled := fun _ => hallocated
      read := fun h => absurd h (hs.not_read hnone)
      concluded := fun h => absurd h (hs.not_read hnone)
      received := fun h => absurd h (hs.not_received hnone)
      reason := fun r hr => .inl (hreason r hr) }, hattempted⟩

/-- What a read may say: its count was looked at, or there is none. -/
structure ReadSound (size : Nat) (outcome : ReadOutcome) : Prop where
  counted : outcome.count.isSome = true → outcome.attempted = true
  received : outcome.received = true →
    outcome.count.isSome = true ∧ outcome.reason = "validated"
  fits : ∀ count, outcome.count = some count →
    (outcome.received = true ↔ 1 ≤ count ∧ count ≤ (size : Int))
  reason : Plain outcome.reason ∨ outcome.reason = "validated" ∧ outcome.received = true

theorem readSound_failed {size : Nat} {reason : String} (hreason : Plain reason) (attempted : Bool) :
    ReadSound size ⟨reason, attempted, false, none⟩ where
  counted := fun h => by cases h
  received := fun h => by cases h
  fits := fun _ h => by cases h
  reason := .inl hreason

/-- A read that returned is judged by its count. -/
theorem readSound_readCount (size : Nat) (count : Int) : ReadSound size (readCount size count) := by
  have hrefused : ∀ reason, Plain reason → ¬(1 ≤ count ∧ count ≤ (size : Int)) →
      ReadSound size ⟨reason, true, false, some count⟩ := fun reason hreason hfits =>
    { counted := fun _ => rfl
      received := fun h => by cases h
      fits := fun c hc => by
        obtain rfl := Option.some.inj hc
        exact ⟨fun h => absurd h Bool.false_ne_true, fun h => absurd h hfits⟩
      reason := .inl hreason }
  unfold readCount
  split
  · exact hrefused _ (by decide) (by omega)
  split
  · exact hrefused _ (by decide) (by omega)
  · exact
    { counted := fun _ => rfl
      received := fun _ => ⟨rfl, rfl⟩
      fits := fun c hc => by
        obtain rfl := Option.some.inj hc
        exact ⟨fun _ => by omega, fun _ => rfl⟩
      reason := .inr ⟨rfl, rfl⟩ }

/-- The read of a frame, with all its retries. -/
theorem tells_readFrame {size : Nat} {Q : Except Raised ReadOutcome → Story → Prop}
    (hraise : ∀ e, Q (.error e) m) (hdone : ∀ outcome, ReadSound size outcome → Q (.ok outcome) m)
    (left : Nat) : Tells (readFrame fd size deadline left) m Q := by
  have hfail : ∀ reason attempted, Plain reason → Q (.ok ⟨reason, attempted, false, none⟩) m :=
    fun reason attempted h => hdone _ (readSound_failed h attempted)
  induction left with
  | zero => exact hfail _ _ (by decide)
  | succ left ih =>
    refine tells_readMonotonic_bind (fun now => ?_) hraise
    split
    · split
      · exact hfail _ _ (by decide)
      · exact hfail _ _ (by decide)
    · refine tells_attempt_bind (fun _ => trivial) fun answer => ?_
      cases answer with
      | ok count => exact hdone _ (readSound_readCount size count)
      | error raised =>
        cases raised with
        | osError errno =>
          dsimp only
          split
          · exact ih
          · split
            · exact hfail _ _ (by decide)
            · split
              · exact hfail _ _ (by decide)
              · exact hfail _ _ (by decide)
        | _ => exact hfail _ _ plain_unexpected

theorem acquireFrame_advances :
    Advances (acquireFrame fd deadline) Acquisition.pollAttempted fun _ => false := by
  intro s m hnone hpolled hs hm
  unfold acquireFrame
  split
  next hmissing =>
    have hformat := hs.allocated (hs.polled hpolled)
    rw [hmissing] at hformat
    cases hformat
  next width height sizeimage hformat =>
    refine passes_bind.mpr (tells_readFrame (fun e => hm) ?_ _)
    intro outcome houtcome
    refine ⟨hm, { hs with
      read := fun _ => hpolled
      concluded := fun _ => rfl
      counted := houtcome.counted
      received := fun h => ⟨(houtcome.received h).1, congrArg some (houtcome.received h).2⟩
      fits := ?_
      reason := fun r hr => Option.some.inj hr ▸ houtcome.reason }, fun h => by cases h⟩
    intro count w h size hcount hsize
    rw [hformat] at hsize
    cases hsize
    exact houtcome.fits count hcount

/-- The flags of an acquisition hang together. -/
theorem acquire_sound (hm : Aloof m) : Tells (acquire fd deadline) m fun r m' =>
    ∃ s, r = .ok s ∧ Sound s ∧ Aloof m' := by
  unfold acquire
  refine passes_bind.mpr (tells_inspectDescriptor.mono ?_)
  rintro r m' ⟨rfl, reason, rfl, hreason⟩
  refine queryCapability_advances.bind ⟨hm, sound_initial hreason, fun _ => rfl⟩
    fun s m hs => ?_
  refine queryFormat_advances.bind hs fun s m hs => ?_
  refine allocateBuffer_advances.bind hs fun s m hs => ?_
  refine pollFrame_advances.bind hs fun s m hs => ?_
  refine (acquireFrame_advances.step hs).mono ?_
  rintro r m' ⟨s', rfl, hm', hsound, -⟩
  exact ⟨s', rfl, hsound, hm'⟩

theorem tells_wipeBuffer (hm : Aloof m) :
    Tells wipeBuffer m fun r m' => ∃ wiped, r = .ok wiped ∧ Aloof m' := by
  refine tells_attempt_bind (fun _ => trivial) fun answer => ?_
  cases answer with
  | error e => exact ⟨false, rfl, hm⟩
  | ok _ =>
    refine tells_attempt_bind (fun _ => trivial) fun zeroed => ?_
    refine passes_bind.mpr (tells_succeeds (fun _ => trivial) (fun _ => ?_) (fun _ => ?_))
    · cases zeroed with
      | ok wiped => exact ⟨_, rfl, hm⟩
      | error e => exact ⟨_, rfl, hm⟩
    · cases zeroed with
      | ok wiped => exact ⟨_, rfl, hm⟩
      | error e => exact ⟨_, rfl, hm⟩

/-- A run ends with a result of its flags, and tells nothing about a stream. -/
theorem tells_opened (hm : Aloof m) : Tells (opened fd deadline) m fun r m' => Aloof m' ∧
    ∃ s wiped closed, r = .ok (result s wiped closed) ∧ Sound s ∧
      (wiped = true → s.bufferWasAllocated = true) := by
  unfold opened
  refine passes_bind.mpr ((acquire_sound hm).mono ?_)
  rintro r m ⟨s, rfl, hsound, hm⟩
  have hwipe : Tells (whenDue s.bufferWasAllocated wipeBuffer) m fun r m' => Aloof m' ∧
      ∃ wiped, r = .ok wiped ∧ (wiped = true → s.bufferWasAllocated = true) := by
    refine tells_whenDue (fun _ => ⟨hm, false, rfl, fun h => by cases h⟩) fun hdue => ?_
    refine (tells_wipeBuffer hm).mono ?_
    rintro r m' ⟨wiped, rfl, hm'⟩
    exact ⟨hm', wiped, rfl, fun _ => hdue⟩
  refine passes_bind.mpr (hwipe.mono ?_)
  rintro r m ⟨hm, wiped, rfl, hwiped⟩
  refine passes_bind.mpr (tells_succeeds (fun _ => trivial) (fun _ => ?_) (fun _ => ?_))
  · exact ⟨hm, s, wiped, true, rfl, hsound, hwiped⟩
  · exact ⟨hm, s, wiped, false, rfl, hsound, hwiped⟩

end Aurora.Hardware.ReadWrite
