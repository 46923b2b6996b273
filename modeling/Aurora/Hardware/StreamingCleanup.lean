/-
  The cleanup of a streaming acquisition, and what it guarantees.

  Every failure of the cleanup is recorded and the cleanup goes on, so a whole run is told by the
  flags it ends with (`finish`).  Only one thing is done twice: when the stop of the stream is not
  confirmed the descriptor is closed at once, and when that close fails it is closed again at the end.
-/
import Aurora.Hardware.StreamingFlags

namespace Aurora.Hardware.Streaming

open Program

variable {s : Acquisition} {c : Cleanup} {early : Bool} {dequeued : Option Bytes} {m : Story}
  {fd : Nat} {deadline : ℚ}

/-! ## The steps of the cleanup -/

/-- A request is repeated once when it was interrupted. -/
theorem tells_cleanupIoctl {request : Ioctl} (failed : Story) {left : Nat}
    {Q : Except Raised Bool → Story → Prop}
    (hfirst : ∀ e, m.after (.ioctl fd request) (.error e) = failed)
    (hagain : ∀ e, failed.after (.ioctl fd request) (.error e) = failed)
    (hok : ∀ response, Q (.ok true) (m.after (.ioctl fd request) (.ok response)))
    (hokAgain : ∀ response, Q (.ok true) (failed.after (.ioctl fd request) (.ok response)))
    (hfail : Q (.ok false) failed) : Tells (cleanupIoctl fd request (left + 1)) m Q := by
  induction left generalizing m with
  | zero =>
    refine tells_attempt_bind (fun _ => trivial) fun answer => ?_
    cases answer with
    | ok response => exact hok response
    | error raised =>
      rw [hfirst]
      cases raised with
      | osError errno =>
        dsimp only
        split
        · exact hfail
        · exact hfail
      | _ => exact hfail
  | succ left ih =>
    refine tells_attempt_bind (fun _ => trivial) fun answer => ?_
    cases answer with
    | ok response => exact hok response
    | error raised =>
      rw [hfirst]
      cases raised with
      | osError errno =>
        dsimp only
        split
        · exact ih hagain hokAgain
        · exact hfail
      | _ => exact hfail

/-- The story once the stream is stopped, or the descriptor closed in its place. -/
def afterStop (s : Acquisition) (dequeued : Option Bytes) (stopped early : Bool) : Story :=
  { soFar s dequeued with
    stopAttempted := s.streamWasStarted
    stopped := stopped
    closes := if s.streamWasStarted && !stopped then 1 else 0
    closed := early
    closedActive := early
    lostActive := s.streamWasStarted && !stopped && !early }

/-- The stop of the stream, tried while it may be active. -/
theorem tells_stopStream : Tells (stopStream fd s) (soFar s dequeued) fun r m' =>
    ∃ stopped early, r = .ok (stopped, early) ∧ m' = afterStop s dequeued stopped early ∧
      (stopped = true → s.streamWasStarted = true) ∧
      (early = true → s.streamWasStarted = true ∧ stopped = false) := by
  unfold stopStream
  cases hstarted : s.streamWasStarted with
  | false =>
    refine ⟨false, false, rfl, ?_, by simp, by simp⟩
    simp [afterStop, soFar, hstarted]
  | true =>
    rw [if_pos rfl]
    refine passes_bind.mpr (tells_cleanupIoctl { soFar s dequeued with stopAttempted := true }
      (fun e => rfl) (fun e => rfl) ?_ ?_ ?_)
    · intro response
      refine ⟨true, false, rfl, ?_, fun _ => rfl, by simp⟩
      simp [afterStop, hstarted, soFar, Story.after, Except.isOk, Except.toBool]
    · intro response
      refine ⟨true, false, rfl, ?_, fun _ => rfl, by simp⟩
      simp [afterStop, hstarted, soFar, Story.after, Except.isOk, Except.toBool]
    · refine passes_bind.mpr (tells_succeeds (fun _ => trivial) (fun _ => ?_) (fun _ => ?_))
      · refine ⟨false, true, rfl, ?_, by simp, fun _ => ⟨rfl, rfl⟩⟩
        simp [afterStop, hstarted, soFar, Story.after, Except.isOk, Except.toBool,
          Story.MayBeActive]
      · refine ⟨false, false, rfl, ?_, by simp, by simp⟩
        simp [afterStop, hstarted, soFar, Story.after, Except.isOk, Except.toBool,
          Story.MayBeActive]

/-- The stream may still be active after the attempts to stop it. -/
def unstopped (s : Acquisition) (stopped early : Bool) : Bool :=
  s.streamWasStarted && !stopped && !early

/-- The stream may be active exactly if it was not stopped. -/
theorem mayBeActive_afterStop {stopped : Bool} :
    (afterStop s dequeued stopped early).MayBeActive ↔ unstopped s stopped early = true := by
  simp [Story.MayBeActive, afterStop, soFar, unstopped, and_assoc]

/-- The story once the buffer is wiped, or left as it is. -/
def afterWipe (s : Acquisition) (dequeued : Option Bytes) (stopped early wiped : Bool) : Story :=
  { afterStop s dequeued stopped early with
    wipeAttempted := s.bufferWasMapped && !unstopped s stopped early
    wiped := wiped }

/-- The story once the mapping is gone. -/
def afterMapping (s : Acquisition) (dequeued : Option Bytes) (stopped early wiped unmapped : Bool) :
    Story :=
  { afterWipe s dequeued stopped early wiped with
    unmapAttempted := s.bufferWasMapped
    unmapped := unmapped }

/-- The wipe is left out exactly while the stream may still be active. -/
theorem tells_wipe {stopped : Bool} (hmapped : s.bufferWasMapped = true) :
    Tells (whenDue (!s.streamWasStarted || stopped || early) wipeMapped)
      (afterStop s dequeued stopped early) fun r m' => ∃ wiped, r = .ok wiped ∧
        m' = afterWipe s dequeued stopped early wiped ∧
        (wiped = true → unstopped s stopped early = false) := by
  have hsafe : (!s.streamWasStarted || stopped || early) = !unstopped s stopped early := by
    simp [unstopped]
  rw [hsafe]
  refine tells_whenDue (fun hskip => ?_) fun hdue => ?_
  · refine ⟨false, rfl, ?_, by simp⟩
    simp [afterWipe, hskip, afterStop, soFar]
  · have hactive : unstopped s stopped early = false := by simpa using hdue
    have hidle : ¬(afterStop s dequeued stopped early).MayBeActive := by
      rw [mayBeActive_afterStop, hactive]
      exact Bool.false_ne_true
    refine tells_attempt_bind (fun _ => ⟨hidle, rfl⟩) fun answer => ?_
    cases answer with
    | ok wiped =>
      refine ⟨wiped, rfl, ?_, fun _ => hactive⟩
      unfold afterWipe
      rw [hmapped, hactive]
      rfl
    | error e =>
      refine ⟨false, rfl, ?_, by simp⟩
      unfold afterWipe
      rw [hmapped, hactive]
      rfl

theorem mayBeActive_afterWipe {stopped wiped : Bool} :
    (afterWipe s dequeued stopped early wiped).MayBeActive ↔
      unstopped s stopped early = true :=
  show (afterStop s dequeued stopped early).MayBeActive ↔ _ from mayBeActive_afterStop

theorem tells_releaseMapping {stopped : Bool} :
    Tells (releaseMapping s stopped early) (afterStop s dequeued stopped early) fun r m' =>
      ∃ wiped unmapped, r = .ok (wiped, unmapped) ∧
        m' = afterMapping s dequeued stopped early wiped unmapped ∧
        (wiped = true → s.bufferWasMapped = true ∧ unstopped s stopped early = false) ∧
        (unmapped = true → s.bufferWasMapped = true) := by
  unfold releaseMapping
  cases hmapped : s.bufferWasMapped with
  | false =>
    refine ⟨false, false, rfl, ?_, by simp, by simp⟩
    simp [afterMapping, afterWipe, afterStop, soFar, hmapped]
  | true =>
    rw [if_pos rfl]
    refine passes_bind.mpr ((tells_wipe hmapped).mono ?_)
    rintro r m ⟨wiped, rfl, rfl, hwiped⟩
    have hlegal : (afterWipe s dequeued stopped early wiped).wipeAttempted = true ∨
        (afterWipe s dequeued stopped early wiped).MayBeActive := by
      cases hactive : unstopped s stopped early with
      | false => exact .inl (by simp [afterWipe, hmapped, hactive])
      | true => exact .inr (mayBeActive_afterWipe.mpr hactive)
    refine passes_bind.mpr (tells_succeeds (fun _ => hlegal) (fun _ => ?_) (fun _ => ?_))
    · refine ⟨wiped, true, rfl, ?_, fun h => ⟨rfl, hwiped h⟩, fun _ => rfl⟩
      simp [afterMapping, hmapped, Story.after, Except.isOk, Except.toBool]
    · refine ⟨wiped, false, rfl, ?_, fun h => ⟨rfl, hwiped h⟩, fun _ => rfl⟩
      simp [afterMapping, hmapped, Story.after, Except.isOk, Except.toBool]

/-- The story of a whole run, by the flags it ends with and whether the descriptor was closed to
    stop the stream. -/
def finish (s : Acquisition) (dequeued : Option Bytes) (c : Cleanup) (early : Bool) : Story :=
  { afterMapping s dequeued c.streamWasStopped early c.frameBufferWipeCompleted
      c.bufferWasUnmapped with
    releaseAttempted := s.bufferNegotiationSucceeded && !early
    released := c.buffersWereReleased
    closes := if unstopped s c.streamWasStopped early then 2 else 1
    closed := c.descriptorWasClosed
    closedActive := early ||
      (unstopped s c.streamWasStopped early && c.descriptorWasClosed) }

/-- How the flags of a cleanup hang together. -/
structure Tidy (s : Acquisition) (c : Cleanup) (early : Bool) : Prop where
  stopped : c.streamWasStopped = true → s.streamWasStarted = true
  wiped : c.frameBufferWipeCompleted = true →
    s.bufferWasMapped = true ∧ unstopped s c.streamWasStopped early = false
  unmapped : c.bufferWasUnmapped = true → s.bufferWasMapped = true
  released : c.buffersWereReleased = true → s.bufferNegotiationSucceeded = true
  early : early = true → s.streamWasStarted = true ∧ c.streamWasStopped = false ∧
    c.descriptorWasClosed = true ∧ c.buffersWereReleased = false

/-- The story once the buffers are given back. -/
def afterRelease (s : Acquisition) (dequeued : Option Bytes)
    (stopped early wiped unmapped released : Bool) : Story :=
  { afterMapping s dequeued stopped early wiped unmapped with
    releaseAttempted := s.bufferNegotiationSucceeded && !early
    released := released }

theorem tells_releaseBuffers {stopped wiped unmapped : Bool} :
    Tells (whenDue (s.bufferNegotiationSucceeded && !early)
        (cleanupIoctl fd (.requestBuffers 0) maxCleanupIoctlAttempts))
      (afterMapping s dequeued stopped early wiped unmapped) fun r m' => ∃ released,
        r = .ok released ∧ m' = afterRelease s dequeued stopped early wiped unmapped released ∧
          (released = true → s.bufferNegotiationSucceeded = true ∧ early = false) := by
  refine tells_whenDue (fun hskip => ?_) fun hdue => ?_
  · refine ⟨false, rfl, ?_, by simp⟩
    simp [afterRelease, hskip, afterMapping, afterWipe, afterStop, soFar]
  · obtain ⟨hnegotiated, hlate⟩ := Bool.and_eq_true_iff.mp hdue
    have hdone : ∀ released : Bool, released = true →
        s.bufferNegotiationSucceeded = true ∧ early = false :=
      fun _ _ => ⟨hnegotiated, by simpa using hlate⟩
    have hnews : afterRelease s dequeued stopped early wiped unmapped false =
        { afterMapping s dequeued stopped early wiped unmapped with releaseAttempted := true } := by
      simp [afterRelease, hdue, afterMapping, afterWipe, afterStop, soFar]
    refine tells_cleanupIoctl (afterRelease s dequeued stopped early wiped unmapped false)
      (fun e => hnews.symm) (fun e => by rw [hnews]; rfl) ?_ ?_ ?_
    · intro response
      refine ⟨true, rfl, ?_, hdone true⟩
      simp [afterRelease, hdue, Story.after, Except.isOk, Except.toBool]
    · intro response
      refine ⟨true, rfl, ?_, hdone true⟩
      simp [afterRelease, hdue, Story.after, Except.isOk, Except.toBool]
    · exact ⟨false, rfl, rfl, hdone false⟩

/-- The whole cleanup: its flags tell the story. -/
theorem tells_cleanup : Tells (cleanup fd s) (soFar s dequeued) fun r m' =>
    ∃ c early, r = .ok c ∧ m' = finish s dequeued c early ∧ Tidy s c early := by
  unfold cleanup
  refine passes_bind.mpr (tells_stopStream.mono ?_)
  rintro r m ⟨stopped, early, rfl, rfl, hstopped, hearly⟩
  refine passes_bind.mpr (tells_releaseMapping.mono ?_)
  rintro r m ⟨wiped, unmapped, rfl, rfl, hwiped, hunmapped⟩
  refine passes_bind.mpr (tells_releaseBuffers.mono ?_)
  rintro r m ⟨released, rfl, rfl, hreleased⟩
  have htidy : ∀ closed, (early = true → closed = true) →
      Tidy s ⟨stopped, unmapped, released, wiped, closed⟩ early := fun closed hclosed =>
    { stopped := hstopped
      wiped := hwiped
      unmapped := hunmapped
      released := fun h => (hreleased h).1
      early := fun h => by
        refine ⟨(hearly h).1, (hearly h).2, hclosed h, ?_⟩
        cases hr : released with
        | false => rfl
        | true => exact absurd h (by rw [(hreleased hr).2]; exact Bool.false_ne_true) }
  refine passes_bind.mpr (tells_whenDue (fun hskip => ?_) fun hdue => ?_)
  · have hsome : early = true := by simpa using hskip
    refine ⟨_, early, rfl, ?_, htidy _ (by simp [hsome])⟩
    obtain ⟨hstarted, hunconfirmed⟩ := hearly hsome
    simp [finish, afterRelease, afterMapping, afterWipe, afterStop, unstopped, soFar, hsome,
      hstarted, hunconfirmed]
  · obtain rfl : early = false := by simpa using hdue
    refine tells_succeeds (fun _ => trivial) (fun _ => ?_) (fun _ => ?_)
    · refine ⟨_, false, rfl, ?_, htidy _ (fun h => absurd h Bool.false_ne_true)⟩
      cases hstarted : s.streamWasStarted <;> cases stopped <;>
        simp [finish, afterRelease, afterMapping, afterWipe, afterStop, unstopped, soFar, hstarted,
          Story.after, Story.MayBeActive, Except.isOk, Except.toBool]
    · refine ⟨_, false, rfl, ?_, htidy _ (fun h => absurd h Bool.false_ne_true)⟩
      cases hstarted : s.streamWasStarted <;> cases stopped <;>
        simp [finish, afterRelease, afterMapping, afterWipe, afterStop, unstopped, soFar, hstarted,
          Story.after, Story.MayBeActive, Except.isOk, Except.toBool]

/-- A run ends with a result of its flags, and the flags tell its story. -/
theorem tells_opened : Tells (opened fd deadline) {} fun r m' => ∃ s dequeued c early,
    r = .ok (result s c) ∧ m' = finish s dequeued c early ∧ Sound s dequeued ∧ Tidy s c early := by
  unfold opened
  refine passes_bind.mpr (acquire_sound.mono ?_)
  rintro r m ⟨s, dequeued, rfl, rfl, hsound⟩
  refine passes_bind.mpr (tells_cleanup.mono ?_)
  rintro r m ⟨c, early, rfl, rfl, htidy⟩
  exact ⟨s, dequeued, c, early, rfl, rfl, hsound, htidy⟩

/-! ## What the cleanup guarantees -/

/-- The law of the cleanup, over the transcript of a run. -/
structure CleanupSafe (t : List CaptureExchange) : Prop where
  closedOnce : (story t).closes = 1
  stopAttempted : (story t).started = true → (story t).stopAttempted = true
  wipedIdle : ∀ a answer b, t = a ++ ⟨.wipeMapped, answer⟩ :: b →
    ¬(story a).MayBeActive ∧ (story a).unmapAttempted = false
  wipeSkipped : ∀ a answer b, t = a ++ ⟨.unmap, answer⟩ :: b →
    (story a).wipeAttempted = true ∨ (story a).MayBeActive
  unmapAttempted : (story t).mapped = true → (story t).unmapAttempted = true
  releaseAttempted : (story t).negotiated = true →
    (story t).releaseAttempted = true ∨ (story t).closedActive = true

variable {t : List CaptureExchange} {r : Except Raised CaptureFrameProbeResult}

/-- The story of a complete run, with the law of the wipe and the unmapping. -/
theorem opened_story (h : Runs (opened fd deadline) t r) : ∃ s dequeued c early,
    r = .ok (result s c) ∧ story t = finish s dequeued c early ∧ Sound s dequeued ∧
      Tidy s c early ∧ ∀ a x b, t = a ++ x :: b → (story a).Legal x := by
  obtain ⟨m', hm, s, dequeued, c, early, hr, hfinish, hsound, htidy⟩ := tells_opened.runs h
  obtain ⟨hstory, hlegal⟩ := monitored_guarded hm
  exact ⟨s, dequeued, c, early, hr, hstory.symm.trans hfinish, hsound, htidy, hlegal⟩

/-- A run of the streaming probe cleans up safely exactly when no close failed while the stream might
    still be active. -/
theorem cleanup_safe_iff (h : Runs (opened fd deadline) t r) :
    CleanupSafe t ↔ (story t).lostActive = false := by
  obtain ⟨s, dequeued, c, early, -, hstory, -, htidy, hlegal⟩ := opened_story h
  have hcloses : (story t).closes = if unstopped s c.streamWasStopped early then 2 else 1 := by
    rw [hstory]
    rfl
  have hlost : (story t).lostActive = unstopped s c.streamWasStopped early := by
    rw [hstory]
    rfl
  constructor
  · intro hsafe
    have honce := hsafe.closedOnce
    rw [hcloses] at honce
    rw [hlost]
    cases hactive : unstopped s c.streamWasStopped early with
    | false => rfl
    | true => simp [hactive] at honce
  · intro hnever
    rw [hlost] at hnever
    refine ⟨?_, ?_, ?_, ?_, ?_, ?_⟩
    · rw [hcloses, hnever]
      rfl
    · rw [hstory]
      exact id
    · intro a answer b hab
      exact hlegal a _ b hab
    · intro a answer b hab
      exact hlegal a _ b hab
    · rw [hstory]
      exact id
    · rw [hstory]
      intro hnegotiated
      have hneg : s.bufferNegotiationSucceeded = true := hnegotiated
      cases early with
      | false => exact .inl (by simp [finish, hneg])
      | true => exact .inr rfl

/-! ## A scripted driver -/

/-- A response of zeros but for some bytes. -/
def respond (size : Nat) (bytes : List (Nat × UInt8)) : Bytes :=
  (List.range size).map fun i => (bytes.lookup i).getD 0

/-- The one-byte sizes a driver reports, and which cleanup calls it fulfils. -/
structure Driver where
  sizeimage : UInt8
  mappedLength : UInt8
  bytesused : UInt8
  stops : Bool
  unmaps : Bool
  closes : Bool

/-- A streaming device that captures one frame. -/
def Driver.answer (d : Driver) : (c : CaptureCall) → Except Raised (CaptureValue c)
  | .abiSupported => .ok true
  | .monotonic => .ok (0 : ℚ)
  | .validateTarget _ => .ok (some "/dev/video0", none)
  | .openDevice _ => .ok (3 : Nat)
  | .fstat _ => .ok true
  | .ioctl _ .queryCap => .ok (respond 104 [(84, 1), (87, 4)])
  | .ioctl _ .getFormat => .ok (respond 208 [(0, 1), (8, 2), (12, 2), (28, d.sizeimage)])
  | .ioctl _ (.requestBuffers _) => .ok (respond 20 [(0, 1)])
  | .ioctl _ .queryBuffer => .ok (respond 88 [(4, 1), (60, 1), (72, d.mappedLength)])
  | .ioctl _ .queueBuffer => .ok []
  | .ioctl _ .dequeueBuffer => .ok (respond 88 [(4, 1), (8, d.bytesused), (60, 1)])
  | .ioctl _ .streamOn => .ok []
  | .ioctl _ .streamOff => if d.stops then .ok [] else .error (.osError (some 5))
  | .registerPoll _ => .ok ()
  | .poll _ => .ok [(3, 1)]
  | .allocate _ => .ok ()
  | .readInto _ => .ok (0 : Int)
  | .viewBuffer => .ok ()
  | .zeroView => .ok true
  | .releaseView => .ok ()
  | .map _ _ _ => .ok ()
  | .wipeMapped => .ok true
  | .unmap => if d.unmaps then .ok () else .error .valueError
  | .close _ => if d.closes then .ok () else .error (.osError (some 5))

/-- The driver as an environment of the probe. -/
def Driver.handler (d : Driver) (_ : Unit) (c : CaptureCall) :
    Except Raised (CaptureValue c) × Unit := (d.answer c, ())

/-- The transcript of a program against a driver. -/
def Driver.script {α : Type} (d : Driver) (p : Capture α) : List CaptureExchange :=
  p.trace (I := CaptureInterface) d.handler ()

/-- A driver's answers make a run of every program. -/
theorem Driver.runs_script {α : Type} (d : Driver) (p : Capture α) :
    Runs p (d.script p) (p.play (I := CaptureInterface) d.handler ()).1 :=
  runs_trace (I := CaptureInterface) d.handler p ()

/-- A driver on which everything works. -/
def steadyDriver : Driver := ⟨8, 8, 4, true, true, true⟩

/-- A driver that neither stops its stream nor lets its descriptor be closed. -/
def stuckDriver : Driver := { steadyDriver with stops := false, closes := false }

theorem cleanup_safe_iff_steady : CleanupSafe (steadyDriver.script (opened 3 2)) :=
  (cleanup_safe_iff (steadyDriver.runs_script (opened 3 2))).mpr (by decide +kernel)

theorem stuck_driver_closed_twice : ¬∀ (fd : Nat) (deadline : ℚ) (t : List CaptureExchange)
    (r : Except Raised CaptureFrameProbeResult), Runs (opened fd deadline) t r →
      CleanupSafe t := by
  intro h
  have hclosed := (h 3 2 _ _ (stuckDriver.runs_script (opened 3 2))).closedOnce
  revert hclosed
  decide +kernel

end Aurora.Hardware.Streaming
