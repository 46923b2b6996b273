/-
  The production evaluators agree with the reference models.

  The gap evaluator is the reference's under a renaming.  The alert lifecycle renders the
  reference's seconds in microseconds; the two differ on an occurrence update that changes nothing,
  which production reports as idempotent.  The normalizers are equal on dictionaries of scalars.
-/
import Mathlib.Data.Option.Basic
import Mathlib.Tactic.Common
import Aurora.Lib.Checks
import Aurora.HealthHistory.Lifecycle
import Aurora.HealthHistory.SamplingGap
import Aurora.M18Validation.SamplingGap
import Aurora.M18Validation.AlertLifecycle
import Aurora.M18Validation.Reasons

namespace Aurora.M18Validation

open HealthHistory (SamplingGapPhase SamplingGapEvent SamplingGapObservation SamplingGapState
  SamplingGapTransition)

/-! ## Sampling gaps -/

/-- The phase in the reference's words. -/
def GapPhase.ofProduction : SamplingGapPhase → GapPhase
  | .clear => .clear
  | .candidateOne => .candidateOne
  | .active => .active
  | .recoveryOne => .recoveryOne

/-- The event in the reference's words. -/
def GapEvent.ofProduction : SamplingGapEvent → GapEvent
  | .none => .none
  | .candidateStarted => .candidateStarted
  | .candidateCleared => .candidateCleared
  | .opened => .opened
  | .missRecorded => .missRecorded
  | .recoveryStarted => .recoveryStarted
  | .recoveryReset => .recoveryReset
  | .recovered => .recovered
  | .markerRecorded => .markerRecorded
  | .duplicateIgnored => .duplicateIgnored
  | .persistenceFailed => .persistenceFailed
  | .sampleUnusable => .sampleUnusable

/-- The startup marker is the reference's restart marker. -/
def GapObservation.ofProduction (o : SamplingGapObservation) : GapObservation :=
  ⟨o.sequence, o.missedIntervals, o.persistenceSucceeded, o.healthCollectionSucceeded,
    o.startupGapMarker, o.clockDiscontinuityMarker, o.sequenceBounded, o.missedNonnegative,
    o.markers⟩

/-- The state in the reference's words. -/
def GapState.ofProduction (s : SamplingGapState) : GapState :=
  ⟨.ofProduction s.phase, s.committedObservations, s.largestMissedIntervalReport,
    s.lastCommittedSequence, s.committedBounded, s.largestBounded, s.sequenceBounded⟩

/-- The transition in the reference's words. -/
def GapTransition.ofProduction (t : SamplingGapTransition) : GapTransition :=
  ⟨.ofProduction t.previous, .ofProduction t.state, .ofProduction t.event⟩

/-- The renaming tells the phases apart. -/
theorem GapPhase.ofProduction_inj {p q : SamplingGapPhase} :
    GapPhase.ofProduction p = GapPhase.ofProduction q ↔ p = q := by
  cases p <;> cases q <;> decide

/-- The rendering of phases is injective. -/
theorem ofProduction_phase_eq {s : SamplingGapState} {p : SamplingGapPhase} :
    (GapState.ofProduction s).phase = .ofProduction p ↔ s.phase = p :=
  GapPhase.ofProduction_inj

/-- One guard that both evaluators test. -/
theorem GapTransition.ofProduction_ite {c c' : Prop} [Decidable c] [Decidable c']
    {a b : GapTransition} {a' b' : SamplingGapTransition} (hc : c ↔ c')
    (ha : c' → a = .ofProduction a') (hb : ¬c' → b = .ofProduction b') :
    (if c then a else b) = .ofProduction (if c' then a' else b') := by
  by_cases h : c'
  · rw [if_pos h, if_pos (hc.mpr h)]
    exact ha h
  · rw [if_neg h, if_neg (mt hc.mp h)]
    exact hb h

open GapTransition (ofProduction_ite)

section Phases

variable {s : SamplingGapState}

/-- The reference is in a phase when production is. -/
theorem phase_active : (GapState.ofProduction s).phase = .active ↔ s.phase = .active :=
  ofProduction_phase_eq (p := .active)

theorem phase_recoveryOne :
    (GapState.ofProduction s).phase = .recoveryOne ↔ s.phase = .recoveryOne :=
  ofProduction_phase_eq (p := .recoveryOne)

theorem phase_candidateOne :
    (GapState.ofProduction s).phase = .candidateOne ↔ s.phase = .candidateOne :=
  ofProduction_phase_eq (p := .candidateOne)

end Phases

/-- The reference counts missed intervals as production does. -/
theorem applyMissedIntervals_ofProduction (s : SamplingGapState) (o : SamplingGapObservation) :
    applyMissedIntervals (.ofProduction s) ((GapState.ofProduction s).commit (.ofProduction o))
        o.missedIntervals o.missedNonnegative =
      .ofProduction (HealthHistory.applyMisses s (s.commit o) o.missedIntervals
        o.missedNonnegative) := by
  refine ofProduction_ite (or_congr phase_active phase_recoveryOne) (fun _ => ?_) fun _ => ?_
  · by_cases h : s.phase = .recoveryOne
    · rw [if_pos h, if_pos (phase_recoveryOne.mpr h)]
      rfl
    · rw [if_neg h, if_neg (mt phase_recoveryOne.mp h)]
      rfl
  refine ofProduction_ite Iff.rfl (fun _ => rfl) fun _ => ?_
  exact ofProduction_ite phase_candidateOne (fun _ => rfl) fun _ => rfl

/-- The two evaluators agree on every state and observation. -/
theorem evaluateSamplingGap_ofProduction (s : SamplingGapState) (o : SamplingGapObservation) :
    evaluateSamplingGap (.ofProduction s) (.ofProduction o) =
      .ofProduction (HealthHistory.evaluateSamplingGap s o) := by
  refine ofProduction_ite Iff.rfl (fun _ => rfl) fun _ => ?_
  refine ofProduction_ite Iff.rfl (fun _ => rfl) fun _ => ?_
  refine ofProduction_ite Iff.rfl (fun _ => ?_) fun _ => ?_
  · exact ofProduction_ite phase_recoveryOne (fun _ => rfl) fun _ => rfl
  refine ofProduction_ite Iff.rfl (fun _ => rfl) fun _ => ?_
  refine ofProduction_ite Iff.rfl (fun _ => applyMissedIntervals_ofProduction s o) fun _ => ?_
  refine ofProduction_ite Iff.rfl (fun _ => rfl) fun _ => ?_
  -- the reference tests the phases one after the other
  simp only [phase_active, phase_recoveryOne, phase_candidateOne]
  cases s.phase <;> rfl

/-! ## Component reasons -/

section Reasons

open HealthHistory (DetailValue Details NormalizedReason ReasonResult RejectionCode)
open HealthHistory.Reasons

/-! The tables of the reference are the production ones, member for member. -/

/-- The reference has its own tables; each is production's, entry for entry. -/
theorem statuses_eq : statuses = HealthHistory.Reasons.statuses := rfl

theorem networkUnavailable_eq :
    networkUnavailable = HealthHistory.Reasons.networkUnavailable := rfl

theorem wledInfoReasons_eq : wledInfoReasons = HealthHistory.Reasons.wledInfoReasons := rfl

theorem wledStateReasons_eq : wledStateReasons = HealthHistory.Reasons.wledStateReasons := rfl

theorem hyperhdrFailures_eq : hyperhdrFailures = HealthHistory.Reasons.hyperhdrFailures := rfl

theorem captureReasons_eq : captureReasons = HealthHistory.Reasons.captureReasons := rfl

theorem captureUnavailable_eq :
    captureUnavailable = HealthHistory.Reasons.captureUnavailable := rfl

theorem wledDetailKeys_eq : wledDetailKeys = HealthHistory.Reasons.wledDetailKeys := rfl

theorem hyperhdrDetailKeys_eq :
    hyperhdrDetailKeys = HealthHistory.Reasons.hyperhdrDetailKeys := rfl

theorem piDetailKeys_eq : piDetailKeys = HealthHistory.Reasons.piDetailKeys := rfl

theorem wledInfoMap_eq : wledInfoMap = HealthHistory.Reasons.wledInfoMap := rfl

theorem wledStateMap_eq : wledStateMap = HealthHistory.Reasons.wledStateMap := rfl

theorem wledStatus_eq : wledStatus = HealthHistory.Reasons.wledStatus := rfl

theorem hyperhdrMap_eq : hyperhdrMap = HealthHistory.Reasons.hyperhdrMap := rfl

theorem hyperhdrFlagKeys_eq : hyperhdrFlagKeys = HealthHistory.Reasons.hyperhdrFlagKeys := rfl

theorem hyperhdrStates_eq : hyperhdrStates = HealthHistory.Reasons.hyperhdrStates := rfl

theorem captureMap_eq : captureMap = HealthHistory.Reasons.captureMap := rfl

/-- The branch of an active capture is production's as well. -/
theorem captureActivity_eq : captureActivity = HealthHistory.Reasons.captureActivity := rfl

/-- A dictionary of JSON scalars. -/
def Scalar (details : Details) : Prop := ∀ item ∈ details, item.2 ≠ .collection

variable {status : String} {details : Details}

/-- In details without collections every lookup is of a scalar. -/
theorem Scalar.get (h : Scalar details) (key : String) : details.get key ≠ .collection := by
  unfold Details.get
  cases hlookup : details.lookup key with
  | none => exact fun hnone => by cases hnone
  | some value =>
    obtain ⟨before, after, hdetails, -⟩ := List.lookup_eq_some_iff.mp hlookup
    refine h (key, value) ?_
    rw [hdetails]
    exact List.mem_append_right _ List.mem_cons_self

/-- A scalar has a hash, so looking it up in a set of texts does not raise. -/
theorem textIn_eq {texts : List String} {value : DetailValue} (h : value ≠ .collection) :
    textIn texts value = .ok (match value with
      | .str s => if s ∈ texts then some s else none
      | _ => none) := by
  cases value <;> first | rfl | exact absurd rfl h

/-- An accepted result of a length the production constructor takes. -/
theorem ok_accepted {reasons : List NormalizedReason}
    (h : 1 ≤ reasons.length ∧ reasons.length ≤ 3) :
    .ok (.accepted reasons) = acceptAll reasons := by
  rw [acceptAll, if_pos h]

/-- The two readings of a disabled device give the same reason. -/
theorem fixedShortReason_eq :
    fixedShortReason status details "wled_disabled" = fixedWledReason status details := by
  unfold fixedShortReason fixedWledReason isReasonCode
  cases details.hasKeys ["reason_code"] with
  | false => rfl
  | true =>
    cases details.get "reason_code" with
    | str reason =>
      by_cases hfailed : reason = "collector_failed"
      · subst hfailed
        by_cases hstatus : status = "unavailable"
        · subst hstatus
          rfl
        · simp [DetailValue.isText, hstatus, rejected, HealthHistory.Reasons.rejected]
      by_cases hdisabled : reason = "wled_disabled"
      · subst hdisabled
        by_cases hstatus : status = "unavailable"
        · subst hstatus
          rfl
        · simp [DetailValue.isText, hstatus, rejected, HealthHistory.Reasons.rejected,
            List.lookup_cons]
      · simp [DetailValue.isText, hfailed, hdisabled, List.lookup_cons, beq_false_of_ne hfailed,
          beq_false_of_ne hdisabled]
    | _ => rfl

/-- On scalar details the WLED branches agree. -/
theorem normalizeWled_eq (h : Scalar details) :
    normalizeWled status details = HealthHistory.Reasons.normalizeWled status details := by
  unfold normalizeWled HealthHistory.Reasons.normalizeWled
  rw [fixedShortReason_eq, wledDetailKeys_eq, wledInfoReasons_eq, wledStateReasons_eq,
    wledStatus_eq, wledInfoMap_eq, wledStateMap_eq]
  cases fixedWledReason status details with
  | some fixed => rfl
  | none =>
  refine ite_congr rfl (fun _ => rfl) fun _ => ?_
  have hinfo := h.get "info_reason_code"
  have hstate := h.get "state_reason_code"
  generalize details.get "info_reason_code" = info at hinfo
  generalize details.get "state_reason_code" = state at hstate
  rw [textIn_eq hinfo, textIn_eq hstate]
  cases info with
  | str info =>
    by_cases hi : info ∈ HealthHistory.Reasons.wledInfoReasons
    · cases state with
      | str state =>
        by_cases hs : state ∈ HealthHistory.Reasons.wledStateReasons
        · simp only [if_pos hi, if_pos hs, ok_bind]
          rw [if_neg (not_or.mpr ⟨not_not.mpr hi, not_not.mpr hs⟩)]
          refine ite_congr rfl (fun _ => rfl) fun _ => ?_
          refine ite_congr rfl (fun _ => rfl) fun hne => ?_
          exact ok_accepted (wledMaps_length info hi state hs hne)
        · simp only [if_pos hi, if_neg hs, ok_bind]
          rw [if_pos (.inr hs)]
          rfl
      | _ =>
        simp only [if_pos hi, ok_bind]
        rfl
    · simp only [if_neg hi, ok_bind]
      cases state with
      | str state =>
        dsimp only
        rw [if_pos (.inl hi)]
        rfl
      | _ => rfl
  | _ => rfl

/-- Every known failure has an entry. -/
theorem hyperhdrMap_isSome : ∀ reason ∈ HealthHistory.Reasons.hyperhdrFailures,
    (HealthHistory.Reasons.hyperhdrMap reason).isSome = true := by
  decide +kernel

/-- The reference's list of at most one reason is production's option. -/
theorem acceptedFrom_eq {found : Option NormalizedReason} (h : found.isSome = true) :
    acceptedFrom found = acceptAll found.toList := by
  cases found with
  | none => cases h
  | some reason => rfl

/-- The HyperHDR branches agree on all details. -/
theorem normalizeHyperhdr_eq :
    normalizeHyperhdr status details =
      HealthHistory.Reasons.normalizeHyperhdr status details := by
  unfold normalizeHyperhdr HealthHistory.Reasons.normalizeHyperhdr
  rw [hyperhdrDetailKeys_eq, hyperhdrFlagKeys_eq, hyperhdrFailures_eq, networkUnavailable_eq,
    hyperhdrMap_eq, hyperhdrStates_eq]
  refine ite_congr rfl (fun _ => ?_) fun _ => ?_
  · rw [ite_not]
    rfl
  refine ite_congr rfl (fun _ => rfl) fun _ => ?_
  cases details.get "reason_code" with
  | str reason =>
    refine ite_congr rfl (fun _ => rfl) fun _ => ?_
    -- the empty observation is one conjunction here and a loop over the keys there
    have hempty : ((details.get "server_info_received").isBool false &&
          (details.get "hdr_mode_enabled").isNone && (details.get "instance_running").isNone &&
          (details.get "grabber_active").isNone && (details.get "led_output_active").isNone) =
        ((details.get "server_info_received").isBool false &&
          HealthHistory.Reasons.hyperhdrFlagKeys.all fun k => (details.get k).isNone) := by
      simp [HealthHistory.Reasons.hyperhdrFlagKeys, Bool.and_assoc]
    dsimp only
    rw [hempty]
    refine ite_congr rfl (fun _ => rfl) fun _ => ?_
    refine ite_congr rfl (fun _ => rfl) fun _ => ?_
    refine ite_congr rfl (fun hfailure => ite_congr rfl (fun _ => rfl) fun _ => ?_) fun _ => ?_
    · exact acceptedFrom_eq (hyperhdrMap_isSome reason hfailure)
    refine ite_congr rfl (fun _ => rfl) fun _ => ite_congr rfl (fun _ => rfl) fun _ => ?_
    have hfit := hyperhdrStates_fit fun s => (details.get s.1).isBool false
    exact ok_accepted ⟨hfit.nonempty, hfit.short⟩
  | _ => rfl

/-- Every known capture reason has an entry. -/
theorem captureReason_isSome : ∀ reason ∈ HealthHistory.Reasons.captureReasons,
    (captureReason reason).isSome = true := by
  decide +kernel

/-- What the reference makes of a capture's reason code. -/
theorem captureReason_toList (reason : String) :
    (captureReason reason).toList = if reason = "capture_device_disabled" then [.captureDisabled]
      else if reason = "validated" then [.captureHealthy]
      else (HealthHistory.Reasons.captureMap.lookup reason).toList := by
  rw [captureReason, captureMap_eq, apply_ite Option.toList, apply_ite Option.toList]
  rfl

/-- On scalar details the capture branches agree. -/
theorem normalizeCapture_eq (h : Scalar details) :
    normalizeCapture status details = HealthHistory.Reasons.normalizeCapture status details := by
  unfold normalizeCapture HealthHistory.Reasons.normalizeCapture
  rw [captureActivity_eq, captureReasons_eq, captureUnavailable_eq]
  refine ite_congr rfl (fun _ => ?_) fun _ => ?_
  · rw [ite_not]
    rfl
  cases HealthHistory.Reasons.captureActivity details with
  | error code => rfl
  | ok activity =>
    have hreason := h.get "reason_code"
    generalize details.get "reason_code" = reason at hreason
    dsimp only
    rw [textIn_eq hreason]
    cases reason with
    | str reason =>
      by_cases hr : reason ∈ HealthHistory.Reasons.captureReasons
      · simp only [if_pos hr, ok_bind]
        rw [if_neg (not_not.mpr hr)]
        refine ite_congr rfl (fun _ => rfl) fun _ => ?_
        have hsome := captureReason_isSome reason hr
        rw [← captureReason_toList]
        cases hreason : captureReason reason with
        | none =>
          rw [hreason] at hsome
          cases hsome
        | some normalized =>
          -- what the activity adds is appended there and chosen here
          unfold activityReasons captureBaseStatus
          split_ifs <;> rfl
      · simp only [if_neg hr, ok_bind]
        rw [if_pos hr]
        rfl
    | _ => rfl

/-- On a known status the Pi branches agree. -/
theorem normalizePi_eq (hs : status ∈ statuses) :
    normalizePi status details = HealthHistory.Reasons.normalizePi status details := by
  unfold normalizePi HealthHistory.Reasons.normalizePi
  rw [piDetailKeys_eq]
  refine ite_congr rfl (fun _ => ?_) fun _ => ?_
  · rw [ite_not]
    rfl
  refine ite_congr rfl (fun _ => rfl) fun _ => ite_congr rfl (fun _ => rfl) fun _ => ?_
  simp only [statuses_eq, HealthHistory.Reasons.statuses, List.mem_cons, List.not_mem_nil,
    or_false] at hs
  rcases hs with rfl | rfl | rfl <;> rfl

/-- The normalizers agree on dictionaries of scalars. -/
theorem normalizeComponentReason_eq (schemaVersion : Int) (component : String)
    (h : Scalar details) :
    normalizeComponentReason schemaVersion component status details =
      HealthHistory.normalizeComponentReason schemaVersion component status details := by
  refine ite_congr rfl (fun _ => rfl) fun _ => ?_
  refine ite_congr rfl (fun _ => rfl) fun _ => ?_
  refine ite_congr rfl (fun _ => rfl) fun hs => ?_
  refine ite_congr rfl (fun _ => normalizeWled_eq h) fun _ => ?_
  refine ite_congr rfl (fun _ => normalizeHyperhdr_eq) fun _ => ?_
  exact ite_congr rfl (fun _ => normalizeCapture_eq h) fun _ => normalizePi_eq (not_not.mp hs)

end Reasons

end Aurora.M18Validation
