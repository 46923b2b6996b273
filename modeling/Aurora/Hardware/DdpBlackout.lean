/-
  The blackout guarantee of the DDP output probe.

  1. **Transcripts** — what a run submitted, and how a walk of the blackout plan reads: each packet is
     submitted, or its clock reading or its timeout failed, or the deadline ended the walk.
  2. **Sends** — `SendRun` lists the ways one send can go; everything after it is read off that list.
  3. **Phases** — the test phase by induction on its packets (`TestEnd`), the walk by induction on the
     plan (`WalkEnd`).  The invariant is the number of attempts: each phase makes at most one for each
     packet, so the budget is never reached and no packet is refused for it.
  4. **Results** — each phase settles with all its packets sent and no reason, or short of them with a
     reason of its own, and the check of the service accepts every such pair.

  An interrupt comes out of a call or of a control point of the hook; one that arrives between two of
  these is left out.
-/
import Aurora.Hardware.DdpOutput

namespace Aurora.Hardware.Ddp

open Program

/-! ## Transcripts -/

/-- The packet an exchange submits. -/
def submission : DdpExchange → Option Packet
  | ⟨.sendTo packet _, _⟩ => some packet
  | _ => none

/-- The packets a transcript submits, in order. -/
def submitted (t : List DdpExchange) : List Packet := t.filterMap submission

/-- The call was interrupted. -/
def Interrupted (x : DdpExchange) : Prop := (x.2 : Except Failure (DdpValue x.1)) = .error .interrupt

/-- A control point: the hook is called once, if it is installed. -/
def Hooked (hook : Bool) (name : String) (t : List DdpExchange) : Prop :=
  if hook then ∃ answer, t = [⟨.control name, answer⟩] else t = []

section Walks

variable (hook : Bool) (destination : Destination) (deadline : ℚ)

/-- What is done with a packet before the deadline: it is submitted, whatever comes of that, or the
    clock reading or the setting of the timeout failed. -/
inductive Handled (packet : Packet) : List DdpExchange → Prop
  | submitted {now : ℚ} (h : now < deadline) (answer : Except Failure (Option Int)) :
      Handled packet [⟨.monotonic, .ok now⟩, ⟨.setTimeout (deadline - now), .ok ()⟩,
        ⟨.sendTo packet destination, answer⟩]
  | unread (failure : Failure) : Handled packet [⟨.monotonic, .error failure⟩]
  | untimed {now : ℚ} (h : now < deadline) (failure : Failure) :
      Handled packet [⟨.monotonic, .ok now⟩, ⟨.setTimeout (deadline - now), .error failure⟩]

/-- A walk of the plan, in order and to its end unless the deadline has passed. -/
inductive Walked : List Packet → List DdpExchange → Prop
  | done : Walked [] []
  | late {packet : Packet} {packets : List Packet} {now : ℚ} (h : deadline ≤ now) :
      Walked (packet :: packets) [⟨.monotonic, .ok now⟩]
  | last {packet : Packet} {t : List DdpExchange} (h : Handled destination deadline packet t) :
      Walked [packet] t
  | next {packet : Packet} {packets : List Packet} {t between rest : List DdpExchange}
      (h : Handled destination deadline packet t)
      (hbetween : Hooked hook "between_blackout_packets" between)
      (hrest : Walked packets rest) : Walked (packet :: packets) (t ++ between ++ rest)

/-- A blackout: its control points and the walk of the plan. -/
def BlackedOut (packets : List Packet) (t : List DdpExchange) : Prop :=
  ∃ before walk after, t = before ++ walk ++ after ∧ Hooked hook "before_blackout" before ∧
    Walked hook destination deadline packets walk ∧ Hooked hook "before_close" after

end Walks

/-- The transcript of a probe that acquired its socket: the session, whose last test packet comes
    before the blackout, the blackout, and the one close. -/
structure Session (hook : Bool) (testPackets blackoutPackets : List Packet)
    (t : List DdpExchange) : Prop where
  walked : ∃ session blackout answer, ∃ (now : ℚ), ∃ results destination,
    t = session ++ blackout ++ [⟨.close, answer⟩] ∧
      session.head? = some ⟨.monotonic, .ok now⟩ ∧
      (⟨.resolve, .ok results⟩ : DdpExchange) ∈ session ∧
      resolveDestination results = .ok destination ∧
      (⟨.acquireSocket, .ok ()⟩ : DdpExchange) ∈ session ∧
      submitted session <+: testPackets ∧
      BlackedOut hook destination (now + deadlineSeconds) blackoutPackets blackout ∧
      ∀ x ∈ session ++ blackout, x.1 ≠ .close

/-- What every run of the probe does and returns. -/
structure BlackoutLaw (hook : Bool) (ledCount : Int) (t : List DdpExchange)
    (r : Except Failure DdpOutputProbeResult) : Prop where
  blackout : ∃ testPackets blackoutPackets, planFrames ledCount = some (testPackets, blackoutPackets) ∧
    ((⟨.acquireSocket, .ok ()⟩ : DdpExchange) ∈ t → Session hook testPackets blackoutPackets t)
  budget : (submitted t).length ≤ maxSendAttempts
  consistent : hook = false → (∀ x ∈ t, ¬Interrupted x) → ∃ result, r = .ok result ∧
    (result.consistent ledCount = true ↔ ∃ now, t.head? = some ⟨.monotonic, .ok now⟩)

@[simp] theorem submitted_append (t t' : List DdpExchange) :
    submitted (t ++ t') = submitted t ++ submitted t' := List.filterMap_append

/-- A control point neither submits nor closes. -/
theorem Hooked.keeps {hook : Bool} {name : String} {t : List DdpExchange} (h : Hooked hook name t) :
    submitted t = [] ∧ ∀ x ∈ t, x.1 ≠ .close := by
  unfold Hooked at h
  split at h
  · obtain ⟨answer, rfl⟩ := h
    refine ⟨rfl, fun x hx => ?_⟩
    obtain rfl := List.mem_singleton.mp hx
    exact DdpCall.noConfusion
  · subst h
    exact ⟨rfl, fun x hx => absurd hx List.not_mem_nil⟩

/-- A control point's failure is caught, and without a hook nothing can fail. -/
theorem runs_controlPoint {hook : Bool} {name : String} {t : List DdpExchange}
    {r : Except Failure (Except Failure Unit)} (h : Runs (controlPoint hook name) t r) :
    ∃ answer, r = .ok answer ∧ Hooked hook name t ∧ (hook = false → answer = .ok ()) := by
  unfold controlPoint at h
  cases hook with
  | true =>
    obtain ⟨answer, rfl, rfl⟩ := runs_ask.mp h
    exact ⟨answer, rfl, ⟨answer, rfl⟩, by simp⟩
  | false =>
    obtain ⟨rfl, rfl⟩ := runs_pure.mp h
    exact ⟨.ok (), rfl, rfl, fun _ => rfl⟩

/-! ## Sends -/

/-- The ways one send can go. -/
inductive SendRun (destination : Destination) (packet : Packet) (deadline : ℚ) (attempts : Nat) :
    List DdpExchange → SendOutcome → Prop
  | unread (failure : Failure) : SendRun destination packet deadline attempts
      [⟨.monotonic, .error failure⟩] ⟨unreadStatus failure, attempts⟩
  | late {now : ℚ} (h : deadline ≤ now) : SendRun destination packet deadline attempts
      [⟨.monotonic, .ok now⟩] ⟨.deadline, attempts⟩
  | refused {now : ℚ} (h : maxSendAttempts ≤ attempts) : SendRun destination packet deadline attempts
      [⟨.monotonic, .ok now⟩] ⟨.budget, attempts⟩
  | untimed {now : ℚ} (h : now < deadline) (failure : Failure) :
      SendRun destination packet deadline attempts
        [⟨.monotonic, .ok now⟩, ⟨.setTimeout (deadline - now), .error failure⟩]
        ⟨failedStatus failure, attempts⟩
  | failed {now : ℚ} (h : now < deadline) (failure : Failure) :
      SendRun destination packet deadline attempts
        [⟨.monotonic, .ok now⟩, ⟨.setTimeout (deadline - now), .ok ()⟩,
          ⟨.sendTo packet destination, .error failure⟩]
        ⟨failedStatus failure, attempts + 1⟩
  | returned {now : ℚ} (h : now < deadline) (sent : Option Int) :
      SendRun destination packet deadline attempts
        [⟨.monotonic, .ok now⟩, ⟨.setTimeout (deadline - now), .ok ()⟩,
          ⟨.sendTo packet destination, .ok sent⟩]
        ⟨sentStatus packet sent, attempts + 1⟩

section Sends

variable {destination : Destination} {packet : Packet} {deadline : ℚ} {attempts : Nat}
  {t : List DdpExchange} {outcome : SendOutcome}

/-- One packet is sent, or the phase ends. -/
theorem runs_sendOnce {r : Except Failure SendOutcome}
    (h : Runs (sendOnce destination packet deadline attempts) t r) :
    ∃ outcome, r = .ok outcome ∧ SendRun destination packet deadline attempts t outcome := by
  unfold sendOnce at h
  replace h := runs_ask_bind.mp h
  obtain ⟨reading, t, rfl, h⟩ := h
  cases reading with
  | error failure =>
    obtain ⟨rfl, rfl⟩ := runs_pure.mp h
    exact ⟨_, rfl, .unread failure⟩
  | ok now =>
    change ℚ at now
    dsimp only at h
    split at h
    · rename_i hlate
      obtain ⟨rfl, rfl⟩ := runs_pure.mp h
      exact ⟨_, rfl, .late (sub_nonpos.mp hlate)⟩
    rename_i hearly
    have hnow : now < deadline := sub_pos.mp (not_le.mp hearly)
    split at h
    · rename_i hspent
      obtain ⟨rfl, rfl⟩ := runs_pure.mp h
      exact ⟨_, rfl, .refused hspent⟩
    replace h := runs_ask_bind.mp h
    obtain ⟨timeout, t, rfl, h⟩ := h
    cases timeout with
    | error failure =>
      obtain ⟨rfl, rfl⟩ := runs_pure.mp h
      exact ⟨_, rfl, .untimed hnow failure⟩
    | ok _ =>
      replace h := runs_ask_bind.mp h
      obtain ⟨sending, t, rfl, h⟩ := h
      cases sending with
      | error failure =>
        obtain ⟨rfl, rfl⟩ := runs_pure.mp h
        exact ⟨_, rfl, .failed hnow failure⟩
      | ok sent =>
        obtain ⟨rfl, rfl⟩ := runs_pure.mp h
        exact ⟨_, rfl, .returned hnow sent⟩

namespace SendRun

/-- At most the packet is submitted, and that is one attempt. -/
theorem spends (h : SendRun destination packet deadline attempts t outcome) :
    submitted t <+: [packet] ∧ outcome.attempts = attempts + (submitted t).length := by
  cases h with
  | unread | late | refused | untimed => exact ⟨List.nil_prefix, rfl⟩
  | failed | returned => exact ⟨List.prefix_rfl, rfl⟩

theorem keepsOpen (h : SendRun destination packet deadline attempts t outcome) :
    ∀ x ∈ t, x.1 ≠ .close := by
  intro x hx
  cases h with
  | unread | late | refused =>
    obtain rfl := List.mem_singleton.mp hx
    exact DdpCall.noConfusion
  | untimed =>
    rcases List.mem_pair.mp hx with rfl | rfl <;> exact DdpCall.noConfusion
  | failed | returned =>
    simp only [List.mem_cons, List.not_mem_nil, or_false] at hx
    rcases hx with rfl | rfl | rfl <;> exact DdpCall.noConfusion

/-- A packet reported as sent was submitted once, complete. -/
theorem sent (h : SendRun destination packet deadline attempts t outcome)
    (hsent : outcome.status = .sent) : submitted t = [packet] := by
  cases h with
  | unread failure => cases failure <;> cases hsent
  | late | refused => cases hsent
  | untimed _ failure => cases failure <;> cases hsent
  | failed | returned => rfl

/-- Only a call that was interrupted makes a send interrupted. -/
theorem uninterrupted (h : SendRun destination packet deadline attempts t outcome)
    (hquiet : ∀ x ∈ t, ¬Interrupted x) : outcome.status ≠ .interrupted := by
  intro hstatus
  cases h with
  | unread failure =>
    cases failure with
    | interrupt => exact hquiet _ List.mem_cons_self rfl
    | osError => cases hstatus
    | exception => cases hstatus
  | late | refused => cases hstatus
  | untimed _ failure =>
    cases failure with
    | interrupt => exact hquiet _ (List.mem_cons_of_mem _ List.mem_cons_self) rfl
    | osError => cases hstatus
    | exception => cases hstatus
  | failed _ failure =>
    cases failure with
    | interrupt =>
      exact hquiet _ (List.mem_cons_of_mem _ (List.mem_cons_of_mem _ List.mem_cons_self)) rfl
    | osError => cases hstatus
    | exception => cases hstatus
  | returned _ sent =>
    revert hstatus
    show sentStatus packet sent ≠ .interrupted
    unfold sentStatus
    split <;> exact SendStatus.noConfusion

/-- Within the budget a packet is handled, unless the deadline has passed. -/
theorem handled (h : SendRun destination packet deadline attempts t outcome)
    (hbudget : attempts < maxSendAttempts) :
    (outcome.status = .deadline ∧ ∃ now, deadline ≤ now ∧ t = [⟨.monotonic, .ok now⟩]) ∨
      (outcome.status ≠ .deadline ∧ outcome.status ≠ .budget ∧
        Handled destination deadline packet t) := by
  cases h with
  | unread failure =>
    refine .inr ⟨?_, ?_, .unread failure⟩ <;> cases failure <;> exact SendStatus.noConfusion
  | late hlate => exact .inl ⟨rfl, _, hlate, rfl⟩
  | refused hspent => exact absurd hbudget (Nat.not_lt.mpr hspent)
  | untimed hnow failure =>
    refine .inr ⟨?_, ?_, .untimed hnow failure⟩ <;> cases failure <;> exact SendStatus.noConfusion
  | failed hnow failure =>
    refine .inr ⟨?_, ?_, .submitted hnow _⟩ <;> cases failure <;> exact SendStatus.noConfusion
  | returned hnow sent =>
    have hstatus : sentStatus packet sent = .sent ∨ sentStatus packet sent = .partialSend := by
      unfold sentStatus
      split
      · exact .inl rfl
      · exact .inr rfl
    refine .inr ⟨?_, ?_, .submitted hnow _⟩
    · rcases hstatus with hstatus | hstatus <;> rw [hstatus] <;> exact SendStatus.noConfusion
    · rcases hstatus with hstatus | hstatus <;> rw [hstatus] <;> exact SendStatus.noConfusion

end SendRun

end Sends

/-! ## The test phase -/

/-- A phase settles: all its packets are sent and it has no reason, or it fell short of them for one
    of its reasons. -/
def Settled (reasons : List String) (sent planned : Nat) (reason : Option String) : Prop :=
  (sent = planned ∧ reason = none) ∨ (sent < planned ∧ ∃ x ∈ reasons, reason = some x)

/-- The reasons a test phase ends with. -/
def testEndReasons : List String := DdpOutputProbeResult.testReasons ++ [unexpectedFailure]

/-- The reasons a blackout ends with. -/
def blackoutEndReasons : List String := DdpOutputProbeResult.blackoutReasons ++ [unexpectedFailure]

/-- A test phase ends for one of its own reasons. -/
theorem phaseReason_test {status : SendStatus} :
    phaseReason "test_frame" status ∈ testEndReasons := by
  cases status <;> decide

/-- A blackout ends for one of its own reasons. -/
theorem phaseReason_blackout {status : SendStatus} :
    phaseReason "blackout" status ∈ blackoutEndReasons := by
  cases status <;> decide

/-- What a test phase leaves behind. -/
structure TestEnd (hook : Bool) (packets : List Packet) (s : SocketUseState) (t : List DdpExchange)
    (s' : SocketUseState) : Prop where
  inOrder : submitted t <+: packets
  attempts : s'.attempts = s.attempts + (submitted t).length
  keepsOpen : ∀ x ∈ t, x.1 ≠ .close
  blackout : s'.blackoutSent = s.blackoutSent ∧ s'.blackoutReason = s.blackoutReason
  settled : hook = false → (∀ x ∈ t, ¬Interrupted x) → s.testReason = none →
    s'.deferredInterrupt = s.deferredInterrupt ∧
      Settled testEndReasons s'.testSent (s.testSent + packets.length) s'.testReason

section Phases

variable {hook : Bool} {destination : Destination} {deadline : ℚ} {packet : Packet}
  {packets : List Packet} {s : SocketUseState} {t t' : List DdpExchange}

/-- The phase ends with the first packet, for a failure of the send or of the hook. -/
theorem TestEnd.stop {s' : SocketUseState} {outcome : SendOutcome}
    (hsend : SendRun destination packet deadline s.attempts t outcome)
    (hquiet : submitted t' = [] ∧ ∀ x ∈ t', x.1 ≠ .close) (hattempts : s'.attempts = outcome.attempts)
    (hblackout : s'.blackoutSent = s.blackoutSent ∧ s'.blackoutReason = s.blackoutReason)
    (hsettled : hook = false → (∀ x ∈ t, ¬Interrupted x) →
      s'.deferredInterrupt = s.deferredInterrupt ∧ s'.testSent = s.testSent ∧
        ∃ x ∈ testEndReasons, s'.testReason = some x) :
    TestEnd hook (packet :: packets) s (t ++ t') s' where
  inOrder := by
    rw [submitted_append, hquiet.1, List.append_nil]
    exact hsend.spends.1.trans ⟨packets, rfl⟩
  attempts := by
    rw [hattempts, hsend.spends.2, submitted_append, hquiet.1, List.append_nil]
  keepsOpen x hx := (List.mem_append.mp hx).elim (hsend.keepsOpen x) (hquiet.2 x)
  blackout := hblackout
  settled hhook hnone _ := by
    obtain ⟨hdefer, hsent, hreason⟩ :=
      hsettled hhook fun x hx => hnone x (List.mem_append_left _ hx)
    refine ⟨hdefer, .inr ⟨?_, hreason⟩⟩
    rw [hsent, List.length_cons]
    omega

/-- The phase goes on after a packet that was sent. -/
theorem TestEnd.continue {s' : SocketUseState} {outcome : SendOutcome} {rest : List DdpExchange}
    (hsend : SendRun destination packet deadline s.attempts t outcome)
    (hsent : outcome.status = .sent)
    (hquiet : submitted t' = [] ∧ ∀ x ∈ t', x.1 ≠ .close)
    (hrest : TestEnd hook packets { s with attempts := outcome.attempts, testSent := s.testSent + 1 }
      rest s') : TestEnd hook (packet :: packets) s (t ++ (t' ++ rest)) s' where
  inOrder := by
    rw [submitted_append, submitted_append, hquiet.1, hsend.sent hsent]
    exact List.prefix_append_right_inj [packet] |>.mpr hrest.inOrder
  attempts := by
    rw [hrest.attempts, submitted_append, submitted_append, hquiet.1, hsend.sent hsent]
    show outcome.attempts + _ = _
    rw [hsend.spends.2, hsend.sent hsent]
    simp only [List.length_append, List.length_cons, List.length_nil]
    omega
  keepsOpen x hx := by
    rcases List.mem_append.mp hx with hx | hx
    · exact hsend.keepsOpen x hx
    · exact (List.mem_append.mp hx).elim (hquiet.2 x) (hrest.keepsOpen x)
  blackout := hrest.blackout
  settled hhook hnone hreason := by
    obtain ⟨hdefer, hsettled⟩ := hrest.settled hhook
      (fun x hx => hnone x (List.mem_append_right _ (List.mem_append_right _ hx))) hreason
    refine ⟨hdefer, ?_⟩
    rw [List.length_cons, Nat.add_comm packets.length, ← Nat.add_assoc]
    exact hsettled

/-- What the test phase submits and how it ends. -/
theorem runs_runTestPhase {r : Except Failure SocketUseState}
    (h : Runs (runTestPhase hook destination deadline packets s) t r) :
    ∃ s', r = .ok s' ∧ TestEnd hook packets s t s' := by
  induction packets generalizing s t with
  | nil =>
    obtain ⟨rfl, rfl⟩ := runs_pure.mp h
    exact ⟨s, rfl, List.nil_prefix, rfl, fun x hx => absurd hx List.not_mem_nil, ⟨rfl, rfl⟩,
      fun _ _ hreason => ⟨rfl, .inl ⟨rfl, hreason⟩⟩⟩
  | cons packet packets ih =>
    unfold runTestPhase at h
    replace h := runs_bind_of_returns runs_sendOnce h
    obtain ⟨outcome, t₁, t₂, rfl, hsend, h⟩ := h
    dsimp only at h
    -- the phase goes on behind a packet that was sent, and stops behind any other
    cases hstatus : outcome.status with
    | interrupted =>
      rw [hstatus] at h
      obtain ⟨rfl, rfl⟩ := runs_pure.mp h
      exact ⟨_, rfl, .stop hsend ⟨rfl, by simp⟩ rfl ⟨rfl, rfl⟩
        fun _ hquiet => absurd hstatus (hsend.uninterrupted hquiet)⟩
    | sent =>
      rw [hstatus] at h
      replace h := runs_bind_of_returns runs_controlPoint h
      obtain ⟨answer, t₂, t₃, rfl, ⟨hhooked, hunhooked⟩, h⟩ := h
      -- the control point behind it may stop the phase as well
      cases answer with
      | error failure =>
        obtain ⟨rfl, rfl⟩ := runs_pure.mp h
        refine ⟨_, rfl, ?_⟩
        rw [List.append_nil]
        refine .stop hsend hhooked.keeps ?_ ?_ fun hhook => nomatch hunhooked hhook
        · cases failure <;> rfl
        · cases failure <;> exact ⟨rfl, rfl⟩
      | ok _ =>
        obtain ⟨s', rfl, hrest⟩ := ih h
        exact ⟨s', rfl, .continue hsend hstatus hhooked.keeps hrest⟩
    | deadline | budget | failed | partialSend | unexpected =>
      rw [hstatus] at h
      obtain ⟨rfl, rfl⟩ := runs_pure.mp h
      exact ⟨_, rfl, .stop hsend ⟨rfl, by simp⟩ rfl ⟨rfl, rfl⟩
        fun _ _ => ⟨rfl, rfl, _, phaseReason_test, rfl⟩⟩

/-! ## The walk of the blackout plan -/

/-- What a stretch of the plan adds: all of it was sent, or it fell short and the reason, which the
    first failure gives, stays. -/
def Adds (sent sent' planned : Nat) (reason reason' : Option String) : Prop :=
  (sent' = sent + planned ∧ reason' = reason) ∨
    (sent' < sent + planned ∧ ∃ x ∈ blackoutEndReasons, reason' = reason.or (some x))

/-- The counts of two parts add up and the first reason stays. -/
theorem Adds.trans {a b c n m : Nat} {x y z : Option String} (h : Adds a b n x y)
    (h' : Adds b c m y z) : Adds a c (n + m) x z := by
  rcases h with ⟨rfl, rfl⟩ | ⟨hshort, u, hu, rfl⟩
  · rcases h' with ⟨rfl, rfl⟩ | ⟨hshort, v, hv, rfl⟩
    · exact .inl ⟨Nat.add_assoc a n m, rfl⟩
    · exact .inr ⟨by omega, v, hv, rfl⟩
  · refine .inr ⟨?_, u, hu, ?_⟩
    · rcases h' with ⟨rfl, -⟩ | ⟨hshort', -⟩ <;> omega
    · rcases h' with ⟨-, rfl⟩ | ⟨-, v, -, rfl⟩
      · rfl
      · cases x <;> rfl

/-- What falls short of one packet falls short of the rest too. -/
theorem Adds.stop {a b n : Nat} {x y : Option String} (h : Adds a b 1 x y) (hshort : b = a) :
    Adds a b (n + 1) x y := by
  rcases h with ⟨hsent, -⟩ | ⟨-, hreason⟩
  · omega
  · exact .inr ⟨by omega, hreason⟩

/-- One packet of the blackout counts once, unless it was interrupted. -/
theorem adds_afterBlackout {outcome : SendOutcome} (h : outcome.status ≠ .interrupted) :
    (s.afterBlackout outcome).deferredInterrupt = s.deferredInterrupt ∧
      Adds s.blackoutSent (s.afterBlackout outcome).blackoutSent 1 s.blackoutReason
        (s.afterBlackout outcome).blackoutReason := by
  unfold SocketUseState.afterBlackout
  cases hstatus : outcome.status with
  | interrupted => exact absurd hstatus h
  | sent => exact ⟨rfl, .inl ⟨rfl, rfl⟩⟩
  | deadline | budget | failed | partialSend | unexpected =>
    exact ⟨rfl, .inr ⟨Nat.lt_succ_self _, _, phaseReason_blackout, rfl⟩⟩

/-- What the blackout leaves of the state it finds. -/
def SameTest (s s' : SocketUseState) : Prop :=
  s'.testSent = s.testSent ∧ s'.testReason = s.testReason ∧
    s'.blackoutAttempted = s.blackoutAttempted

theorem SameTest.trans {s s' s'' : SocketUseState} (h : SameTest s s') (h' : SameTest s' s'') :
    SameTest s s'' :=
  ⟨h'.1.trans h.1, h'.2.1.trans h.2.1, h'.2.2.trans h.2.2⟩

/-- The blackout changes nothing of the test's account. -/
theorem afterBlackout_keeps (s : SocketUseState) (outcome : SendOutcome) :
    SameTest s (s.afterBlackout outcome) ∧ (s.afterBlackout outcome).attempts = outcome.attempts := by
  unfold SocketUseState.afterBlackout
  dsimp only
  split <;> exact ⟨⟨rfl, rfl, rfl⟩, rfl⟩

theorem failBlackout_keeps (s : SocketUseState) (failure : Failure) :
    SameTest s (s.failBlackout failure) ∧ (s.failBlackout failure).attempts = s.attempts := by
  cases failure <;> exact ⟨⟨rfl, rfl, rfl⟩, rfl⟩

/-- What a walk of the plan leaves behind. -/
structure WalkEnd (hook : Bool) (destination : Destination) (deadline : ℚ) (packets : List Packet)
    (s : SocketUseState) (t : List DdpExchange) (s' : SocketUseState) : Prop where
  walked : Walked hook destination deadline packets t
  sends : (submitted t).length ≤ packets.length
  keepsOpen : ∀ x ∈ t, x.1 ≠ .close
  test : SameTest s s'
  settled : hook = false → (∀ x ∈ t, ¬Interrupted x) →
    s'.deferredInterrupt = s.deferredInterrupt ∧
      Adds s.blackoutSent s'.blackoutSent packets.length s.blackoutReason s'.blackoutReason

/-- The walk goes on to the next packet, past the control point between them. -/
theorem WalkEnd.next {outcome : SendOutcome} {between rest : List DdpExchange}
    {s₁ s' : SocketUseState} (hsend : SendRun destination packet deadline s.attempts t outcome)
    (hhandled : Handled destination deadline packet t)
    (hbetween : Hooked hook "between_blackout_packets" between)
    (htest : SameTest s s₁) (hquiet : hook = false → s₁ = s.afterBlackout outcome)
    (hrest : WalkEnd hook destination deadline packets s₁ rest s') :
    WalkEnd hook destination deadline (packet :: packets) s (t ++ (between ++ rest)) s' where
  walked := by
    rw [← List.append_assoc]
    exact .next hhandled hbetween hrest.walked
  sends := by
    have hone := hsend.spends.1.length_le
    have hmore := hrest.sends
    simp only [submitted_append, hbetween.keeps.1, List.length_append, List.length_cons,
      List.length_nil] at hone ⊢
    omega
  keepsOpen x hx := by
    rcases List.mem_append.mp hx with hx | hx
    · exact hsend.keepsOpen x hx
    · exact (List.mem_append.mp hx).elim (hbetween.keeps.2 x) (hrest.keepsOpen x)
  test := htest.trans hrest.test
  settled hhook hnone := by
    have hstatus := hsend.uninterrupted fun x hx => hnone x (List.mem_append_left _ hx)
    obtain ⟨hdefer, hone⟩ := adds_afterBlackout (s := s) hstatus
    obtain ⟨hdefer', hmore⟩ := hrest.settled hhook
      fun x hx => hnone x (List.mem_append_right _ (List.mem_append_right _ hx))
    rw [hquiet hhook] at hdefer' hmore
    refine ⟨hdefer'.trans hdefer, ?_⟩
    rw [List.length_cons, Nat.add_comm]
    exact hone.trans hmore

/-- Each packet takes one attempt at most, so a walk that starts with enough attempts left is never
    refused one. -/
theorem runs_walkBlackout {r : Except Failure SocketUseState}
    (hbudget : s.attempts + packets.length ≤ maxSendAttempts)
    (h : Runs (walkBlackout hook destination deadline packets s) t r) :
    ∃ s', r = .ok s' ∧ WalkEnd hook destination deadline packets s t s' := by
  induction packets generalizing s t with
  | nil =>
    obtain ⟨rfl, rfl⟩ := runs_pure.mp h
    exact ⟨s, rfl, .done, Nat.zero_le _, fun x hx => absurd hx List.not_mem_nil, ⟨rfl, rfl, rfl⟩,
      fun _ _ => ⟨rfl, .inl ⟨rfl, rfl⟩⟩⟩
  | cons packet packets ih =>
    rw [List.length_cons] at hbudget
    unfold walkBlackout at h
    replace h := runs_bind_of_returns runs_sendOnce h
    obtain ⟨outcome, t₁, t₂, rfl, hsend, h⟩ := h
    dsimp only at h
    have hone : (submitted t₁).length ≤ 1 := hsend.spends.1.length_le
    have hattempts := hsend.spends.2
    obtain ⟨htest, hcount⟩ := afterBlackout_keeps s outcome
    -- past the deadline the walk ends; any other outcome goes on to the next packet
    obtain ⟨hstatus, now, hlate, rfl⟩ | ⟨hdeadline, hbudgeted, hhandled⟩ :=
      hsend.handled (by omega)
    · rw [if_pos (.inl hstatus)] at h
      obtain ⟨rfl, rfl⟩ := runs_pure.mp h
      rw [List.append_nil]
      refine ⟨_, rfl, .late hlate, Nat.zero_le _, hsend.keepsOpen, htest, fun _ _ => ?_⟩
      have hcalm : outcome.status ≠ .interrupted := by simp [hstatus]
      obtain ⟨hdefer, hadds⟩ := adds_afterBlackout (s := s) hcalm
      refine ⟨hdefer, hadds.stop ?_⟩
      unfold SocketUseState.afterBlackout
      rw [hstatus]
    rw [if_neg (not_or.mpr ⟨hdeadline, hbudgeted⟩)] at h
    cases packets with
    | nil =>
      obtain ⟨rfl, rfl⟩ := runs_pure.mp h
      rw [List.append_nil]
      exact ⟨_, rfl, .last hhandled, hone, hsend.keepsOpen, htest,
        fun _ hquiet => adds_afterBlackout (hsend.uninterrupted hquiet)⟩
    | cons packet' packets =>
      replace h := runs_bind_of_returns runs_controlPoint h
      obtain ⟨answer, t₂, t₃, rfl, ⟨hhooked, hunhooked⟩, h⟩ := h
      -- what the control point raises is noted, and the walk goes on all the same
      cases answer with
      | error failure =>
        obtain ⟨hfail, hsame⟩ := failBlackout_keeps (s.afterBlackout outcome) failure
        obtain ⟨s', rfl, hrest⟩ := ih (by omega) h
        exact ⟨s', rfl, .next hsend hhandled hhooked (htest.trans hfail)
          (fun hhook => nomatch hunhooked hhook) hrest⟩
      | ok _ =>
        obtain ⟨s', rfl, hrest⟩ := ih (by omega) h
        exact ⟨s', rfl, .next hsend hhandled hhooked htest (fun _ => rfl) hrest⟩

/-! ## The lease -/

/-- The blackout sends every packet once, whatever happens to the others. -/
theorem runs_runBlackoutPhase {r : Except Failure SocketUseState}
    (hbudget : s.attempts + packets.length ≤ maxSendAttempts)
    (h : Runs (runBlackoutPhase hook destination deadline packets s) t r) :
    ∃ s₁ s' before walk, r = .ok s' ∧ t = before ++ walk ∧ Hooked hook "before_blackout" before ∧
      SameTest { s with blackoutAttempted := true } s₁ ∧
      (hook = false → s₁ = { s with blackoutAttempted := true }) ∧
      WalkEnd hook destination deadline packets s₁ walk s' := by
  unfold runBlackoutPhase at h
  dsimp only at h
  replace h := runs_bind_of_returns runs_controlPoint h
  obtain ⟨answer, t₁, t₂, rfl, ⟨hhooked, hunhooked⟩, h⟩ := h
  suffices hwalk : ∃ s₁, Runs (walkBlackout hook destination deadline packets s₁) t₂ r ∧
      s₁.attempts = s.attempts ∧ SameTest { s with blackoutAttempted := true } s₁ ∧
      (hook = false → s₁ = { s with blackoutAttempted := true }) by
    obtain ⟨s₁, h, hattempts, htest, hquiet⟩ := hwalk
    obtain ⟨s', rfl, hend⟩ := runs_walkBlackout (hattempts ▸ hbudget) h
    exact ⟨s₁, s', t₁, t₂, rfl, rfl, hhooked, htest, hquiet, hend⟩
  cases answer with
  | error failure =>
    cases failure with
    | interrupt => exact ⟨_, h, rfl, ⟨rfl, rfl, rfl⟩, fun hhook => nomatch hunhooked hhook⟩
    | osError => exact ⟨_, h, rfl, ⟨rfl, rfl, rfl⟩, fun hhook => nomatch hunhooked hhook⟩
    | exception => exact ⟨_, h, rfl, ⟨rfl, rfl, rfl⟩, fun hhook => nomatch hunhooked hhook⟩
  | ok _ => exact ⟨_, h, rfl, ⟨rfl, rfl, rfl⟩, fun _ => rfl⟩

/-- The control point before the close keeps the account. -/
theorem runs_prepareClose {r : Except Failure SocketUseState}
    (h : Runs (prepareClose hook s) t r) :
    ∃ s', r = .ok s' ∧ Hooked hook "before_close" t ∧ (hook = false → s' = s) := by
  unfold prepareClose at h
  replace h := runs_bind_of_returns runs_controlPoint h
  obtain ⟨answer, t₁, t₂, rfl, ⟨hhooked, hunhooked⟩, h⟩ := h
  cases answer with
  | error failure =>
    obtain ⟨rfl, rfl⟩ := runs_pure.mp h
    rw [List.append_nil]
    exact ⟨_, rfl, hhooked, fun hhook => nomatch hunhooked hhook⟩
  | ok _ =>
    obtain ⟨rfl, rfl⟩ := runs_pure.mp h
    rw [List.append_nil]
    exact ⟨_, rfl, hhooked, fun _ => rfl⟩

/-- Ending the use of the socket keeps the account. -/
theorem ended_keeps (s : SocketUseState) (exception : Option Failure) :
    (s.ended exception).attempts = s.attempts ∧ (s.ended exception).testSent = s.testSent ∧
      (s.ended exception).blackoutSent = s.blackoutSent ∧
      (s.ended exception).blackoutReason = s.blackoutReason := by
  cases exception with
  | none => exact ⟨rfl, rfl, rfl, rfl⟩
  | some failure => cases failure <;> exact ⟨rfl, rfl, rfl, rfl⟩

/-- An exception that is no interrupt is not deferred as one. -/
theorem ended_deferred {exception : Option Failure} (h : exception ≠ some .interrupt) :
    (s.ended exception).deferredInterrupt = s.deferredInterrupt := by
  cases exception with
  | none => rfl
  | some failure =>
    cases failure with
    | interrupt => exact absurd rfl h
    | osError => rfl
    | exception => rfl

/-- What the cleanup of a lease leaves behind. -/
structure CleanupEnd (hook : Bool) (destination : Destination) (deadline : ℚ)
    (packets : List Packet) (s : SocketUseState) (exception : Option Failure)
    (t : List DdpExchange) (s' : SocketUseState) : Prop where
  blackedOut : BlackedOut hook destination deadline packets t
  sends : (submitted t).length ≤ packets.length
  keepsOpen : ∀ x ∈ t, x.1 ≠ .close
  settled : hook = false → (∀ x ∈ t, ¬Interrupted x) → exception ≠ some .interrupt →
    s'.deferredInterrupt = s.deferredInterrupt ∧ s'.testSent = s.testSent ∧
      s'.testReason = (s.ended exception).testReason ∧ s'.blackoutAttempted = true ∧
      Adds s.blackoutSent s'.blackoutSent packets.length s.blackoutReason s'.blackoutReason

/-- Whatever ended the test, the blackout follows. -/
theorem runs_blackoutCleanup {exception : Option Failure} {r : Except Failure SocketUseState}
    (hbudget : s.attempts + packets.length ≤ maxSendAttempts)
    (h : Runs (blackoutCleanup hook destination deadline packets s exception) t r) :
    ∃ s', r = .ok s' ∧ CleanupEnd hook destination deadline packets s exception t s' := by
  obtain ⟨hattempts, htestSent, hsent, hreason⟩ := ended_keeps s exception
  unfold blackoutCleanup at h
  replace h := runs_bind.mp h
  obtain ⟨e, hphase, -⟩ | ⟨s₂, t₁, t₂, rfl, hphase, h⟩ := h
  · obtain ⟨_, _, _, _, hok, -⟩ := runs_runBlackoutPhase (hattempts ▸ hbudget) hphase
    cases hok
  obtain ⟨s₁, _, before, walk, hok, rfl, hbefore, htest, hunhooked, hwalk⟩ :=
    runs_runBlackoutPhase (hattempts ▸ hbudget) hphase
  obtain rfl := Except.ok.inj hok
  obtain ⟨s₃, rfl, hafter, hclosing⟩ := runs_prepareClose h
  refine ⟨s₃, rfl, ⟨before, walk, t₂, rfl, hbefore, hwalk.walked, hafter⟩, ?_, ?_, ?_⟩
  · simp only [submitted_append, hbefore.keeps.1, hafter.keeps.1, List.nil_append, List.append_nil]
    exact hwalk.sends
  · intro x hx
    rcases List.mem_append.mp hx with hx | hx
    · exact (List.mem_append.mp hx).elim (hbefore.keeps.2 x) (hwalk.keepsOpen x)
    · exact hafter.keeps.2 x hx
  · intro hhook hnone hexception
    obtain ⟨hdefer, hadds⟩ := hwalk.settled hhook fun x hx => hnone x (by simp [hx])
    obtain ⟨hsame, hsame', hsame''⟩ := htest.trans hwalk.test
    rw [hunhooked hhook] at hdefer hadds
    rw [hclosing hhook]
    refine ⟨hdefer.trans (ended_deferred hexception), hsame.trans htestSent, hsame', hsame'', ?_⟩
    rw [← hsent, ← hreason]
    exact hadds

/-- What the end of a lease leaves behind. -/
structure FinishEnd (hook : Bool) (destination : Destination) (deadline : ℚ) (packets : List Packet)
    (s : SocketUseState) (exception : Option Failure) (t : List DdpExchange)
    (r : Except Failure SocketUseState) : Prop where
  blackedOut : ∃ blackout answer, t = blackout ++ [⟨.close, answer⟩] ∧
    BlackedOut hook destination deadline packets blackout ∧
    (submitted blackout).length ≤ packets.length ∧ ∀ x ∈ blackout, x.1 ≠ .close
  settled : hook = false → (∀ x ∈ t, ¬Interrupted x) → s.deferredInterrupt = false →
    exception ≠ some .interrupt → ∃ s', r = .ok s' ∧ s'.testSent = s.testSent ∧
      s'.testReason = (s.ended exception).testReason ∧ s'.blackoutAttempted = true ∧
      Adds s.blackoutSent s'.blackoutSent packets.length s.blackoutReason s'.blackoutReason

/-- After the cleanup the close is attempted once, whatever the cleanup left. -/
theorem runs_finish {exception : Option Failure} {r : Except Failure SocketUseState}
    (hbudget : s.attempts + packets.length ≤ maxSendAttempts)
    (h : Runs (finish hook destination deadline packets s exception) t r) :
    FinishEnd hook destination deadline packets s exception t r := by
  unfold finish at h
  replace h := runs_bind_of_returns (runs_blackoutCleanup hbudget) h
  obtain ⟨s₂, blackout, t₂, rfl, hend, h⟩ := h
  replace h := runs_ask_bind.mp h
  obtain ⟨closing, t₃, rfl, h⟩ := h
  have hclose : t₃ = [] ∧ (¬Interrupted ⟨.close, closing⟩ → s₂.deferredInterrupt = false →
      exception ≠ some .interrupt → ∃ closed, r = .ok { s₂ with socketClosed := closed }) := by
    split at h
    · rename_i hpending
      obtain ⟨rfl, rfl⟩ := runs_raise.mp h
      refine ⟨rfl, fun _ hdefer hexception => ?_⟩
      rw [hdefer] at hpending
      rcases hpending with hpending | hpending
      · cases hpending
      · exact absurd hpending hexception
    · cases closing with
      | ok _ =>
        obtain ⟨rfl, rfl⟩ := runs_pure.mp h
        exact ⟨rfl, fun _ _ _ => ⟨true, rfl⟩⟩
      | error failure =>
        cases failure with
        | interrupt =>
          obtain ⟨rfl, rfl⟩ := runs_raise.mp h
          exact ⟨rfl, fun hnone => absurd rfl hnone⟩
        | osError =>
          obtain ⟨rfl, rfl⟩ := runs_pure.mp h
          exact ⟨rfl, fun _ _ _ => ⟨s₂.socketClosed, rfl⟩⟩
        | exception =>
          obtain ⟨rfl, rfl⟩ := runs_pure.mp h
          exact ⟨rfl, fun _ _ _ => ⟨s₂.socketClosed, rfl⟩⟩
  obtain ⟨rfl, hclose⟩ := hclose
  refine ⟨⟨blackout, closing, rfl, hend.blackedOut, hend.sends, hend.keepsOpen⟩,
    fun hhook hnone hdefer hexception => ?_⟩
  obtain ⟨hkept, hsettled⟩ := hend.settled hhook (fun x hx => hnone x (by simp [hx])) hexception
  obtain ⟨closed, rfl⟩ := hclose (hnone _ (by simp)) (hkept.trans hdefer) hexception
  exact ⟨_, rfl, hsettled⟩

/-! ## The session -/

/-- A control point that fails ends the phase before it begins. -/
theorem TestEnd.unbegun {s' : SocketUseState}
    (hquiet : submitted t = [] ∧ ∀ x ∈ t, x.1 ≠ .close) (hattempts : s'.attempts = s.attempts)
    (hblackout : s'.blackoutSent = s.blackoutSent ∧ s'.blackoutReason = s.blackoutReason)
    (hhooked : hook = false → False) : TestEnd hook packets s t s' where
  inOrder := hquiet.1 ▸ List.nil_prefix
  attempts := by rw [hquiet.1, hattempts, List.length_nil, Nat.add_zero]
  keepsOpen := hquiet.2
  blackout := hblackout
  settled hhook := (hhooked hhook).elim

/-- A control point before the phase adds nothing to it. -/
theorem TestEnd.after {s' : SocketUseState} (hquiet : submitted t = [] ∧ ∀ x ∈ t, x.1 ≠ .close)
    (h : TestEnd hook packets s t' s') : TestEnd hook packets s (t ++ t') s' where
  inOrder := by
    rw [submitted_append, hquiet.1]
    exact h.inOrder
  attempts := by
    rw [submitted_append, hquiet.1]
    exact h.attempts
  keepsOpen x hx := (List.mem_append.mp hx).elim (hquiet.2 x) (h.keepsOpen x)
  blackout := h.blackout
  settled hhook hnone := h.settled hhook fun x hx => hnone x (List.mem_append_right _ hx)

theorem runs_useSocket {r : Except Failure SocketUseState}
    (h : Runs (useSocket hook destination deadline packets s) t r) :
    ∃ s', r = .ok s' ∧ TestEnd hook packets s t s' := by
  unfold useSocket at h
  replace h := runs_bind_of_returns runs_controlPoint h
  obtain ⟨answer, t₁, t₂, rfl, ⟨hhooked, hunhooked⟩, h⟩ := h
  cases answer with
  | error failure =>
    obtain ⟨rfl, rfl⟩ := runs_pure.mp h
    rw [List.append_nil]
    refine ⟨_, rfl, .unbegun hhooked.keeps ?_ ?_ fun hhook => nomatch hunhooked hhook⟩
    · cases failure <;> rfl
    · cases failure <;> exact ⟨rfl, rfl⟩
  | ok _ =>
    obtain ⟨s', rfl, hend⟩ := runs_runTestPhase h
    exact ⟨s', rfl, hend.after hhooked.keeps⟩

/-- A session on an open socket, up to the exception it keeps for later. -/
theorem runs_session {r : Except Failure (SocketUseState × Option Failure)}
    (h : Runs (session hook destination deadline packets) t r) :
    ∃ s exception, r = .ok (s, exception) ∧ TestEnd hook packets {} t s ∧
      (hook = false → s.deferredInterrupt = false → exception = none) := by
  unfold session at h
  replace h := runs_bind_of_returns runs_controlPoint h
  obtain ⟨answer, t₁, t₂, rfl, ⟨hhooked, hunhooked⟩, h⟩ := h
  cases answer with
  | error failure =>
    obtain ⟨rfl, rfl⟩ := runs_pure.mp h
    rw [List.append_nil]
    exact ⟨_, _, rfl, TestEnd.unbegun hhooked.keeps rfl ⟨rfl, rfl⟩
      (fun hhook => nomatch hunhooked hhook), fun hhook => nomatch hunhooked hhook⟩
  | ok _ =>
    replace h := runs_bind_of_returns runs_useSocket h
    obtain ⟨s, t₂, t₃, rfl, hend, h⟩ := h
    obtain ⟨rfl, rfl⟩ := runs_pure.mp h
    rw [List.append_nil]
    refine ⟨_, _, rfl, hend.after hhooked.keeps, fun _ hdefer => ?_⟩
    rw [hdefer]
    rfl

end Phases

/-! ## Results -/

section Results

variable {ledCount : Int} {planned : Nat} {s : SocketUseState}

/-- A strip within bounds takes one or two packets. -/
theorem expectedPacketCount_bounds (hcount : 1 ≤ ledCount ∧ ledCount ≤ (maxLeds : Int)) :
    1 ≤ expectedPacketCount (ledCount.toNat * 3) ∧ expectedPacketCount (ledCount.toNat * 3) ≤ 2 := by
  unfold expectedPacketCount
  have hleds : maxLeds = 512 := rfl
  have hpayload : maxDataPayload = 1400 := rfl
  rw [hpayload]
  omega

/-- The frames of an admitted LED count are planned, with the packets the service expects. -/
theorem planFrames_isSome (hcount : 1 ≤ ledCount ∧ ledCount ≤ (maxLeds : Int)) :
    ∃ testPackets blackoutPackets, planFrames ledCount = some (testPackets, blackoutPackets) ∧
      testPackets.length = expectedPacketCount (ledCount.toNat * 3) ∧
      blackoutPackets.length = expectedPacketCount (ledCount.toNat * 3) := by
  have hleds : maxLeds = 512 := rfl
  have hframe : maxFramePayload = 1536 := rfl
  have htest : ((List.replicate ledCount.toNat testRgb).flatten).length = ledCount.toNat * 3 := by
    simp [testRgb]
  have hblackout :
      ((List.replicate ledCount.toNat blackoutRgb).flatten).length = ledCount.toNat * 3 := by
    simp [blackoutRgb]
  obtain ⟨testPackets, hplan, hlength⟩ := buildDdpPackets_isSome (.inl rfl)
    (show 1 ≤ ((List.replicate ledCount.toNat testRgb).flatten).length by omega) (by omega)
  obtain ⟨blackoutPackets, hplan', hlength'⟩ := buildDdpPackets_isSome (.inr rfl)
    (show 1 ≤ ((List.replicate ledCount.toNat blackoutRgb).flatten).length by omega) (by omega)
  rw [htest] at hlength
  rw [hblackout] at hlength'
  refine ⟨testPackets, blackoutPackets, ?_, hlength, hlength'⟩
  unfold planFrames
  rw [if_pos hcount]
  dsimp only
  rw [hplan, hplan']
  dsimp only
  rw [if_neg]
  rw [htest, hblackout, hlength, hlength']
  simp

/-- A result without a socket passes its own checks. -/
theorem consistent_preSocketResult {reason : String}
    (hcount : 1 ≤ ledCount ∧ ledCount ≤ (maxLeds : Int))
    (hplanned : planned = expectedPacketCount (ledCount.toNat * 3))
    (hreason : reason ∈ DdpOutputProbeResult.preSocketReasons ++ [unexpectedFailure]) :
    (preSocketResult reason ledCount (ledCount.toNat * 3) planned).consistent ledCount = true := by
  obtain ⟨hlow, hhigh⟩ := expectedPacketCount_bounds hcount
  have hcounts : (preSocketResult reason ledCount (ledCount.toNat * 3) planned).countsFit ledCount =
      true := by
    simp [DdpOutputProbeResult.countsFit, preSocketResult, hplanned, hlow, hhigh]
  have hflags : (preSocketResult reason ledCount (ledCount.toNat * 3) planned).flagsFit = true := by
    simp [DdpOutputProbeResult.flagsFit, preSocketResult, hplanned]
    omega
  have hfits : (preSocketResult reason ledCount (ledCount.toNat * 3) planned).reasonFits = true := by
    simp only [DdpOutputProbeResult.preSocketReasons, List.cons_append, List.nil_append,
      List.mem_cons, List.not_mem_nil, or_false] at hreason
    rcases hreason with rfl | rfl | rfl | rfl | rfl <;> rfl
  unfold DdpOutputProbeResult.consistent
  rw [hcounts, hflags, hfits]
  simp [preSocketResult, DdpOutputProbeResult.unsafeActivity, hcount.1, hcount.2]

/-- The reason of a session whose phases settled fits what they sent. -/
theorem reasonFits_socketResult (hattempted : s.blackoutAttempted = true)
    (htest : Settled testEndReasons s.testSent planned s.testReason)
    (hblackout : Settled blackoutEndReasons s.blackoutSent planned s.blackoutReason) :
    (socketResult s ledCount planned).reasonFits = true := by
  rcases hblackout with ⟨hdone, hnone⟩ | ⟨hshort, reason, hmem, hreason⟩
  · rcases htest with ⟨htestDone, htestNone⟩ | ⟨htestShort, reason, hmem, hreason⟩
    · have hgiven : socketReason s planned =
          if s.socketClosed then "validated" else "ddp_output_cleanup_unconfirmed" := by
        unfold socketReason
        rw [hnone, htestNone]
        cases s.socketClosed <;> simp [hdone, htestDone]
      cases hclosed : s.socketClosed with
      | true =>
        rw [hclosed, if_pos rfl] at hgiven
        simp [DdpOutputProbeResult.reasonFits, socketResult, hgiven, DdpOutputProbeResult.healthy,
          DdpOutputProbeResult.complete, DdpOutputProbeResult.unsafeActivity, hclosed, hdone,
          htestDone, hattempted]
      | false =>
        rw [hclosed, if_neg Bool.false_ne_true] at hgiven
        simp [DdpOutputProbeResult.reasonFits, socketResult, hgiven, DdpOutputProbeResult.degraded,
          DdpOutputProbeResult.complete, DdpOutputProbeResult.unsafeActivity, hclosed, hdone,
          htestDone, hattempted]
    · have hgiven : socketReason s planned = reason := by
        unfold socketReason
        rw [hnone, hreason]
        simp [hdone, Nat.ne_of_lt htestShort]
      have hsome : s.testSent ≠ planned := Nat.ne_of_lt htestShort
      simp only [testEndReasons, DdpOutputProbeResult.testReasons, List.cons_append, List.nil_append,
        List.mem_cons, List.not_mem_nil, or_false] at hmem
      rcases hmem with rfl | rfl | rfl | rfl <;>
        simp [DdpOutputProbeResult.reasonFits, socketResult, hgiven, hdone, hsome, unexpectedFailure,
          DdpOutputProbeResult.preSocketReasons, DdpOutputProbeResult.testReasons,
          DdpOutputProbeResult.blackoutReasons]
  · have hgiven : socketReason s planned = reason := by
      unfold socketReason
      rw [hreason]
    have hsome : s.blackoutSent ≠ planned := Nat.ne_of_lt hshort
    simp only [blackoutEndReasons, DdpOutputProbeResult.blackoutReasons, List.cons_append,
      List.nil_append, List.mem_cons, List.not_mem_nil, or_false] at hmem
    rcases hmem with rfl | rfl | rfl | rfl <;>
      simp [DdpOutputProbeResult.reasonFits, socketResult, hgiven, hsome, unexpectedFailure,
        DdpOutputProbeResult.preSocketReasons, DdpOutputProbeResult.testReasons,
        DdpOutputProbeResult.blackoutReasons]

/-- No more packets are counted than planned. -/
theorem Settled.le {reasons : List String} {sent : Nat} {reason : Option String}
    (h : Settled reasons sent planned reason) : sent ≤ planned := by
  rcases h with ⟨rfl, -⟩ | ⟨hshort, -⟩
  · exact Nat.le_refl _
  · exact Nat.le_of_lt hshort

/-- A result of a session passes its own checks. -/
theorem consistent_socketResult (hcount : 1 ≤ ledCount ∧ ledCount ≤ (maxLeds : Int))
    (hplanned : planned = expectedPacketCount (ledCount.toNat * 3))
    (hattempted : s.blackoutAttempted = true)
    (htest : Settled testEndReasons s.testSent planned s.testReason)
    (hblackout : Settled blackoutEndReasons s.blackoutSent planned s.blackoutReason) :
    (socketResult s ledCount planned).consistent ledCount = true := by
  obtain ⟨hlow, hhigh⟩ := expectedPacketCount_bounds hcount
  have hcounts : (socketResult s ledCount planned).countsFit ledCount = true := by
    simp [DdpOutputProbeResult.countsFit, socketResult, ← hplanned, hplanned ▸ hlow,
      hplanned ▸ hhigh, htest.le, hblackout.le]
  have hflags : (socketResult s ledCount planned).flagsFit = true := by
    simp [DdpOutputProbeResult.flagsFit, socketResult, hattempted, beq_eq_decide]
  unfold DdpOutputProbeResult.consistent
  rw [hcounts, hflags, reasonFits_socketResult hattempted htest hblackout]
  simp [socketResult, DdpOutputProbeResult.unsafeActivity, hcount.1, hcount.2]

end Results

/-! ## The probe -/

section Probe

variable {hook : Bool} {destination : Destination} {deadline : ℚ} {ledCount : Int}
  {testPackets blackoutPackets : List Packet} {t : List DdpExchange}

/-- What a run does from the acquisition of the socket on. -/
structure LeaseEnd (hook : Bool) (ledCount : Int) (destination : Destination) (deadline : ℚ)
    (testPackets blackoutPackets : List Packet) (t : List DdpExchange)
    (r : Except Failure DdpOutputProbeResult) : Prop where
  walked : (∃ failure, t = [⟨.acquireSocket, .error failure⟩]) ∨
    ∃ session blackout answer, t = ⟨.acquireSocket, .ok ()⟩ :: session ++ blackout ++
        [⟨.close, answer⟩] ∧
      submitted session <+: testPackets ∧
      BlackedOut hook destination deadline blackoutPackets blackout ∧
      (submitted blackout).length ≤ blackoutPackets.length ∧
      ∀ x ∈ session ++ blackout, x.1 ≠ .close
  consistent : hook = false → (∀ x ∈ t, ¬Interrupted x) → ∃ result, r = .ok result ∧
    result.consistent ledCount = true

/-- The lease ends with the blackout, whatever the session was. -/
theorem runs_leased (last : SocketUseState → SocketUseState) {entered : Except Failure Unit}
    {session : List DdpExchange} {exception : Option Failure} {s : SocketUseState}
    {r : Except Failure DdpOutputProbeResult}
    (hcount : 1 ≤ ledCount ∧ ledCount ≤ (maxLeds : Int))
    (htestPlan : testPackets.length = expectedPacketCount (ledCount.toNat * 3))
    (hblackoutPlan : blackoutPackets.length = expectedPacketCount (ledCount.toNat * 3))
    (hsession : submitted session <+: testPackets) (hopen : ∀ x ∈ session, x.1 ≠ .close)
    (hattempts : s.attempts = (submitted session).length)
    (hblackout : s.blackoutSent = 0 ∧ s.blackoutReason = none)
    (hlast : ∀ s, (last s).blackoutAttempted = s.blackoutAttempted ∧
      (last s).blackoutSent = s.blackoutSent ∧ (last s).blackoutReason = s.blackoutReason)
    (hquiet : hook = false → (∀ x ∈ session, ¬Interrupted x) → entered ≠ .error .interrupt →
      s.deferredInterrupt = false ∧ exception ≠ some .interrupt ∧
        ∀ s', s'.testSent = s.testSent → s'.testReason = (s.ended exception).testReason →
          Settled testEndReasons (last s').testSent testPackets.length (last s').testReason)
    (h : Runs (do
      let s ← finish hook destination deadline blackoutPackets s exception
      pure (socketResult (last s) ledCount testPackets.length) : Ddp DdpOutputProbeResult) t r) :
    LeaseEnd hook ledCount destination deadline testPackets blackoutPackets
      (⟨.acquireSocket, .ok ()⟩ :: ⟨.enterSession, entered⟩ :: (session ++ t)) r := by
  obtain ⟨-, hsmall⟩ := expectedPacketCount_bounds hcount
  have hbudget : s.attempts + blackoutPackets.length ≤ maxSendAttempts := by
    have := hsession.length_le
    show s.attempts + blackoutPackets.length ≤ 4
    omega
  -- the session and the blackout lie between the acquisition and the one close
  have hwalked : ∀ {t : List DdpExchange} {r' : Except Failure SocketUseState},
      FinishEnd hook destination deadline blackoutPackets s exception t r' →
      ∃ session' blackout answer, (⟨.acquireSocket, .ok ()⟩ :: ⟨.enterSession, entered⟩ ::
          (session ++ t) : List DdpExchange) = ⟨.acquireSocket, .ok ()⟩ :: session' ++ blackout ++
          [⟨.close, answer⟩] ∧
        submitted session' <+: testPackets ∧
        BlackedOut hook destination deadline blackoutPackets blackout ∧
        (submitted blackout).length ≤ blackoutPackets.length ∧
        ∀ x ∈ session' ++ blackout, x.1 ≠ .close := by
    intro t r' hfinish
    obtain ⟨blackout, answer, rfl, hblack, hsends, hkeeps⟩ := hfinish.blackedOut
    refine ⟨⟨.enterSession, entered⟩ :: session, blackout, answer, by simp, hsession, hblack,
      hsends, fun x hx => ?_⟩
    rw [List.cons_append] at hx
    rcases List.mem_cons.mp hx with rfl | hx
    · exact DdpCall.noConfusion
    · exact (List.mem_append.mp hx).elim (hopen x) (hkeeps x)
  replace h := runs_bind.mp h
  obtain ⟨e, hfinish, rfl⟩ | ⟨s', t₁, t₂, rfl, hfinish, h⟩ := h
  · have hend := runs_finish hbudget hfinish
    refine ⟨.inr (hwalked hend), fun hhook hnone => ?_⟩
    obtain ⟨hdefer, hexception, -⟩ := hquiet hhook (fun x hx => hnone x (by simp [hx]))
      fun hentered => hnone ⟨.enterSession, entered⟩ (by simp) hentered
    obtain ⟨s', hok, -⟩ := hend.settled hhook (fun x hx => hnone x (by simp [hx])) hdefer hexception
    cases hok
  -- without an interrupt the account is settled, and the result passes its checks
  · have hend := runs_finish hbudget hfinish
    obtain ⟨rfl, rfl⟩ := runs_pure.mp h
    rw [List.append_nil]
    refine ⟨.inr (hwalked hend), fun hhook hnone => ⟨_, rfl, ?_⟩⟩
    obtain ⟨hdefer, hexception, hsettled⟩ := hquiet hhook (fun x hx => hnone x (by simp [hx]))
      fun hentered => hnone ⟨.enterSession, entered⟩ (by simp) hentered
    obtain ⟨s', hok, hsent, hreason, hattempted, hadds⟩ :=
      hend.settled hhook (fun x hx => hnone x (by simp [hx])) hdefer hexception
    obtain rfl := Except.ok.inj hok
    obtain ⟨hlastAttempted, hlastSent, hlastReason⟩ := hlast s'
    refine consistent_socketResult hcount htestPlan (hlastAttempted.trans hattempted)
      (hsettled s' hsent hreason) ?_
    rw [hlastSent, hlastReason, htestPlan, ← hblackoutPlan]
    rw [hblackout.1, hblackout.2] at hadds
    rcases hadds with ⟨hsent, hreason⟩ | ⟨hshort, x, hx, hreason⟩
    · exact .inl ⟨hsent.trans (Nat.zero_add _), hreason⟩
    · exact .inr ⟨(Nat.zero_add blackoutPackets.length) ▸ hshort, x, hx, hreason⟩

/-- The lease gives a result or passes the exception on. -/
theorem runs_useLease {r : Except Failure DdpOutputProbeResult}
    (hcount : 1 ≤ ledCount ∧ ledCount ≤ (maxLeds : Int))
    (htestPlan : testPackets.length = expectedPacketCount (ledCount.toNat * 3))
    (hblackoutPlan : blackoutPackets.length = expectedPacketCount (ledCount.toNat * 3))
    (h : Runs (useLease hook ledCount destination deadline testPackets blackoutPackets) t r) :
    LeaseEnd hook ledCount destination deadline testPackets blackoutPackets t r := by
  unfold useLease at h
  dsimp only at h
  replace h := runs_ask_bind.mp h
  obtain ⟨acquired, t, rfl, h⟩ := h
  cases acquired with
  | error failure =>
    cases failure with
    | interrupt =>
      obtain ⟨rfl, rfl⟩ := runs_raise.mp h
      exact ⟨.inl ⟨_, rfl⟩, fun _ hnone => absurd rfl (hnone _ List.mem_cons_self)⟩
    | osError =>
      obtain ⟨rfl, rfl⟩ := runs_pure.mp h
      exact ⟨.inl ⟨_, rfl⟩, fun _ _ => ⟨_, rfl, consistent_preSocketResult hcount htestPlan
        (by decide)⟩⟩
    | exception =>
      obtain ⟨rfl, rfl⟩ := runs_pure.mp h
      exact ⟨.inl ⟨_, rfl⟩, fun _ _ => ⟨_, rfl, consistent_preSocketResult hcount htestPlan
        (by decide)⟩⟩
  | ok _ =>
    replace h := runs_ask_bind.mp h
    obtain ⟨entered, t, rfl, h⟩ := h
    cases entered with
    | error failure =>
      -- Nothing was sent: the state is the fresh one, ended by the failure to enter.
      have hunsent : submitted [] <+: testPackets := List.nil_prefix
      let last := fun s : SocketUseState => { s with testReason := some unexpectedFailure }
      refine runs_leased last hcount htestPlan hblackoutPlan hunsent (by simp) rfl ⟨rfl, rfl⟩
        (fun s => ⟨rfl, rfl, rfl⟩) (fun _ _ hentered => ⟨rfl, ?_, ?_⟩) h
      · intro hinterrupt
        exact hentered (congrArg Except.error (Option.some.inj hinterrupt))
      · intro s' hsent _
        refine .inr ⟨?_, unexpectedFailure, by decide, rfl⟩
        show s'.testSent < _
        rw [hsent, htestPlan]
        exact (expectedPacketCount_bounds hcount).1
    | ok _ =>
      replace h := runs_bind.mp h
      obtain ⟨e, hsession, -⟩ | ⟨⟨s, exception⟩, t₁, t₂, rfl, hsession, h⟩ := h
      · obtain ⟨s, exception, hok, -⟩ := runs_session hsession
        cases hok
      obtain ⟨_, _, hok, hend, hexception⟩ := runs_session hsession
      obtain ⟨rfl, rfl⟩ := Prod.mk.inj (Except.ok.inj hok)
      refine runs_leased id hcount htestPlan hblackoutPlan hend.inOrder hend.keepsOpen
        (hend.attempts.trans (Nat.zero_add _)) hend.blackout (fun s => ⟨rfl, rfl, rfl⟩)
        (fun hhook hnone _ => ?_) h
      obtain ⟨hdefer, hsettled⟩ := hend.settled hhook hnone rfl
      have hended := hexception hhook hdefer
      subst hended
      refine ⟨hdefer, nofun, fun s' hsent hreason => ?_⟩
      dsimp only [SocketUseState.ended] at hreason
      show Settled testEndReasons s'.testSent testPackets.length s'.testReason
      rw [hsent, hreason]
      exact (Nat.zero_add testPackets.length) ▸ hsettled

/-- A destination is refused for one of the reasons before the socket. -/
theorem resolveDestination_error {results : List (Option Destination × Bool)} {reason : String}
    (h : resolveDestination results = .error reason) :
    reason ∈ DdpOutputProbeResult.preSocketReasons ++ [unexpectedFailure] := by
  unfold resolveDestination at h
  split at h
  · obtain rfl := Except.error.inj h
    decide
  · split at h
    · obtain rfl := Except.error.inj h
      decide
    · cases h
    · obtain rfl := Except.error.inj h
      decide

/-- A run that ends before it asks for a socket. -/
theorem BlackoutLaw.early {r : Except Failure DdpOutputProbeResult}
    {reading : Except Failure ℚ} (hplan : planFrames ledCount = some (testPackets, blackoutPackets))
    (hasked : t = [⟨.monotonic, reading⟩] ∨
      ∃ resolution, t = [⟨.monotonic, reading⟩, ⟨.resolve, resolution⟩])
    (hresult : (∀ x ∈ t, ¬Interrupted x) → ∃ result, r = .ok result ∧
      (result.consistent ledCount = true ↔ ∃ now, t.head? = some ⟨.monotonic, .ok now⟩)) :
    BlackoutLaw hook ledCount t r where
  blackout := by
    refine ⟨testPackets, blackoutPackets, hplan, fun hmem => ?_⟩
    rcases hasked with rfl | ⟨resolution, rfl⟩
    · cases List.mem_singleton.mp hmem
    · rcases List.mem_pair.mp hmem with hmem | hmem <;> cases hmem
  budget := by
    rcases hasked with rfl | ⟨resolution, rfl⟩ <;> exact Nat.zero_le _
  consistent _ hnone := hresult hnone

/-- A run that asks for one keeps the law by what the lease does. -/
theorem BlackoutLaw.leased {r : Except Failure DdpOutputProbeResult} {now : ℚ}
    {results : List (Option Destination × Bool)}
    (hcount : 1 ≤ ledCount ∧ ledCount ≤ (maxLeds : Int))
    (hplan : planFrames ledCount = some (testPackets, blackoutPackets))
    (htestPlan : testPackets.length = expectedPacketCount (ledCount.toNat * 3))
    (hblackoutPlan : blackoutPackets.length = expectedPacketCount (ledCount.toNat * 3))
    (hresolved : resolveDestination results = .ok destination)
    (h : LeaseEnd hook ledCount destination (now + deadlineSeconds) testPackets blackoutPackets t r) :
    BlackoutLaw hook ledCount (⟨.monotonic, .ok now⟩ :: ⟨.resolve, .ok results⟩ :: t) r := by
  obtain ⟨-, hsmall⟩ := expectedPacketCount_bounds hcount
  have hbound : maxSendAttempts = 4 := rfl
  refine ⟨⟨testPackets, blackoutPackets, hplan, fun hmem => ?_⟩, ?_, fun hhook hnone => ?_⟩
  · obtain ⟨failure, rfl⟩ | ⟨session, blackout, answer, rfl, hsession, hblackout, -, hopen⟩ := h.walked
    · simp only [List.mem_cons, List.not_mem_nil, or_false] at hmem
      rcases hmem with hmem | hmem | hmem <;> cases hmem
    · refine ⟨⟨.monotonic, .ok now⟩ :: ⟨.resolve, .ok results⟩ :: ⟨.acquireSocket, .ok ()⟩ :: session,
        blackout, answer, now, results, destination, rfl, rfl, by simp, hresolved, by simp, hsession,
        hblackout, fun x hx => ?_⟩
      simp only [List.cons_append, List.mem_cons] at hx
      rcases hx with rfl | rfl | rfl | hx
      · exact DdpCall.noConfusion
      · exact DdpCall.noConfusion
      · exact DdpCall.noConfusion
      · exact hopen x hx
  · obtain ⟨failure, rfl⟩ | ⟨session, blackout, answer, rfl, hsession, -, hsends, -⟩ := h.walked
    · exact Nat.zero_le _
    · have hlength := hsession.length_le
      have hall : submitted (⟨.monotonic, .ok now⟩ :: ⟨.resolve, .ok results⟩ ::
          (⟨.acquireSocket, .ok ()⟩ :: session ++ blackout ++ [⟨.close, answer⟩])) =
          submitted session ++ submitted blackout := by
        show submitted (session ++ blackout ++ [⟨.close, answer⟩]) = _
        rw [submitted_append, submitted_append]
        exact List.append_nil _
      rw [hall, List.length_append]
      omega
  · obtain ⟨result, hr, hconsistent⟩ := h.consistent hhook fun x hx => hnone x (by simp [hx])
    exact ⟨result, hr, iff_of_true hconsistent ⟨now, rfl⟩⟩

/-- Every run of the probe: once the socket was acquired the whole blackout plan is walked before the
    one close, the budget is kept, and without a hook and an interrupt the result is accepted exactly
    when the reading that sets the deadline did not fail. -/
theorem blackout_law (hook : Bool) {ledCount : Int} {t : List DdpExchange}
    {r : Except Failure DdpOutputProbeResult} (hcount : 1 ≤ ledCount ∧ ledCount ≤ (maxLeds : Int))
    (h : Runs (probe hook ledCount) t r) : BlackoutLaw hook ledCount t r := by
  obtain ⟨testPackets, blackoutPackets, hplan, htestPlan, hblackoutPlan⟩ := planFrames_isSome hcount
  unfold probe at h
  rw [hplan] at h
  replace h := runs_ask_bind.mp h
  obtain ⟨reading, t, rfl, h⟩ := h
  -- up to the socket a failure ends the probe with nothing sent
  cases reading with
  | error failure =>
    cases failure with
    | interrupt =>
      obtain ⟨rfl, rfl⟩ := runs_raise.mp h
      exact .early hplan (.inl rfl) fun hnone => absurd rfl (hnone _ List.mem_cons_self)
    | osError | exception =>
      obtain ⟨rfl, rfl⟩ := runs_pure.mp h
      exact .early hplan (.inl rfl) fun _ =>
        ⟨_, rfl, iff_of_false (by simp [DdpOutputProbeResult.consistent]) (by
          rintro ⟨now, hhead⟩
          cases Option.some.inj hhead)⟩
  | ok now =>
    replace h := runs_ask_bind.mp h
    obtain ⟨resolution, t, rfl, h⟩ := h
    cases resolution with
    | error failure =>
      cases failure with
      | interrupt =>
        obtain ⟨rfl, rfl⟩ := runs_raise.mp h
        exact .early hplan (.inr ⟨_, rfl⟩) fun hnone =>
          absurd rfl (hnone _ (List.mem_cons_of_mem _ List.mem_cons_self))
      | osError | exception =>
        obtain ⟨rfl, rfl⟩ := runs_pure.mp h
        exact .early hplan (.inr ⟨_, rfl⟩) fun _ => ⟨_, rfl, iff_of_true
          (consistent_preSocketResult hcount htestPlan (by decide)) ⟨now, rfl⟩⟩
    | ok results =>
      dsimp only at h
      split at h
      · rename_i reason hreason
        obtain ⟨rfl, rfl⟩ := runs_pure.mp h
        exact .early hplan (.inr ⟨_, rfl⟩) fun _ => ⟨_, rfl, iff_of_true
          (consistent_preSocketResult hcount htestPlan (resolveDestination_error hreason))
          ⟨now, rfl⟩⟩
      · rename_i destination hresolved
        exact .leased hcount hplan htestPlan hblackoutPlan hresolved
          (runs_useLease hcount htestPlan hblackoutPlan h)

end Probe

/-- A run whose first clock reading fails is returned without its LED count, and refused. -/
theorem unread_deadline_refused :
    Runs (probe false 1) [⟨.monotonic, .error .exception⟩] (.ok { reasonCode := unexpectedFailure }) ∧
      (∀ x ∈ ([⟨.monotonic, .error .exception⟩] : List DdpExchange), ¬Interrupted x) ∧
      ({ reasonCode := unexpectedFailure } : DdpOutputProbeResult).consistent 1 = false := by
  refine ⟨?_, ?_, by decide⟩
  · obtain ⟨testPackets, blackoutPackets, hplan, -⟩ := @planFrames_isSome 1 (by decide)
    unfold probe
    rw [hplan]
    exact runs_ask_bind.mpr ⟨.error .exception, [], rfl, runs_pure.mpr ⟨rfl, rfl⟩⟩
  · intro x hx
    obtain rfl := List.mem_singleton.mp hx
    exact fun h => nomatch Except.error.inj h

/-- An environment with a clock that advances at every reading, in which the first send succeeds, the
    third one is short, and the others fail. -/
def answerBadly (readings : Nat × Nat) : (c : DdpCall) → DdpInterface.Answer c × (Nat × Nat)
  | .monotonic => (.ok (readings.1 / 10 : ℚ), (readings.1 + 1, readings.2))
  | .resolve => (.ok [(some "192.0.2.1", false)], readings)
  | .sendTo packet _ =>
    (match readings.2 with
      | 0 => .ok (some (packet.length : Int))
      | 2 => .ok (some 3)
      | _ => .error .osError, (readings.1, readings.2 + 1))
  | .acquireSocket | .enterSession | .control _ | .setTimeout _ | .close => (.ok (), readings)

/-- The exchange acquires the socket. -/
def acquires : DdpExchange → Bool
  | ⟨.acquireSocket, .ok ()⟩ => true
  | _ => false

theorem eq_of_acquires {x : DdpExchange} (h : acquires x = true) : x = ⟨.acquireSocket, .ok ()⟩ := by
  unfold acquires at h
  split at h
  · rfl
  · cases h

/-- The exchange was not interrupted. -/
def quiet (x : DdpExchange) : Bool :=
  match (x.2 : Except Failure (DdpValue x.1)) with
  | .error .interrupt => false
  | _ => true

theorem not_interrupted_of_quiet {x : DdpExchange} (h : quiet x = true) : ¬Interrupted x := by
  intro hinterrupted
  unfold Interrupted at hinterrupted
  unfold quiet at h
  rw [hinterrupted] at h
  cases h

/-- Five hundred LEDs take two packets.  The second test packet cannot be sent; both blackout packets
    are still submitted, and the result is accepted. -/
theorem blackout_law_answered : ∃ t r, Runs (probe false 500) t r ∧
    (⟨.acquireSocket, .ok ()⟩ : DdpExchange) ∈ t ∧ (∀ x ∈ t, ¬Interrupted x) ∧
      (submitted t).map List.length = [1410, 110, 1410, 110] ∧
        (∃ result, r = .ok result ∧ result.consistent 500 = true) ∧ BlackoutLaw false 500 t r := by
  have hrun := runs_trace answerBadly (probe false 500) (0, 0)
  have hacquires : ((probe false 500).trace answerBadly (0, 0)).any acquires = true := by
    decide +kernel
  have hquiet : ((probe false 500).trace answerBadly (0, 0)).all quiet = true := by decide +kernel
  have hconsistent : (match ((probe false 500).play answerBadly (0, 0)).1 with
      | .ok result => result.consistent 500
      | .error _ => false) = true := by decide +kernel
  refine ⟨_, _, hrun, ?_, ?_, by decide +kernel, ?_, blackout_law false (by decide) hrun⟩
  · obtain ⟨x, hx, hacquired⟩ := List.any_eq_true.mp hacquires
    rw [← eq_of_acquires hacquired]
    exact hx
  · intro x hx
    exact not_interrupted_of_quiet (List.all_eq_true.mp hquiet x hx)
  · split at hconsistent
    · rename_i result hresult
      exact ⟨result, hresult, hconsistent⟩
    · cases hconsistent

end Aurora.Hardware.Ddp
