/-
  The records of a log inspection and of a checkpoint are always constructible.

  What the functions admit is what the validators accept: a log whose size gave a frame count has
  that many frames, and the limits are compared the same way in both places (`construct_inspection`,
  `construct_idle`, `construct_checkpoint`).  So no run of either body raises a `ValueError`, and
  what comes out is a record or one of the fixed rejections.
-/
import Aurora.HealthHistory.WalCheckpoint

namespace Aurora.HealthHistory

open Program

/-! ## Sizes -/

/-- A size fits a number of frames in two cases: an empty file, or a header and whole frames. -/
theorem walSizeMatches_iff {totalBytes frameCount : Int} :
    walSizeMatches totalBytes frameCount ↔ totalBytes = 0 ∧ frameCount = 0 ∨
      walHeaderBytes ≤ totalBytes ∧ (totalBytes - walHeaderBytes) % walFrameBytes = 0 ∧
        (totalBytes - walHeaderBytes) / walFrameBytes = frameCount := by
  have hheader : walHeaderBytes = 32 := rfl
  unfold walSizeMatches
  split
  case isTrue hzero => simp [hzero, hheader]
  case isFalse hzero =>
    split
    case isTrue hshort => simp [hzero, Int.not_le.mpr hshort]
    case isFalse hlong => simp [hzero, Int.not_lt.mp hlong]

/-- Within the limit the count of frames is the one that the size matches. -/
theorem walFrameCount_eq_ok {totalBytes frameCount : Int} :
    walFrameCount totalBytes = .ok frameCount ↔
      totalBytes ≤ walInspectionLimitBytes ∧ walSizeMatches totalBytes frameCount := by
  have hheader : walHeaderBytes = 32 := rfl
  have hframe : walFrameBytes = 4120 := rfl
  have hlimit : walInspectionLimitBytes = 67108864 := rfl
  have hframes : maxWalInspectionFrames = 16288 := by decide
  rw [walSizeMatches_iff]
  unfold walFrameCount Bounded
  rw [hheader, hframe, hlimit, hframes]
  split
  case isTrue houtside => exact iff_of_false nofun (by omega)
  case isFalse hinside =>
    split
    case isTrue hzero => simp only [Except.ok.injEq]; omega
    case isFalse hzero =>
      split
      case isTrue => exact iff_of_false nofun (by omega)
      case isFalse =>
        split
        case isTrue => exact iff_of_false nofun (by omega)
        case isFalse =>
          split
          case isTrue => exact iff_of_false nofun (by omega)
          case isFalse => simp only [Except.ok.injEq]; omega

/-- A size that fits no number of frames is malformed, never a failed construction. -/
theorem walFrameCount_error {totalBytes : Int} {e : StorageEnvelopeError}
    (h : walFrameCount totalBytes = .error e) : e = .malformed := by
  unfold walFrameCount at h
  repeat' split at h
  all_goals first | exact (Except.error.inj h).symm | cases h

/-- A count of frames is within the bounds of the record. -/
theorem walFrameCount_bounded {totalBytes frameCount : Int}
    (h : walFrameCount totalBytes = .ok frameCount) :
    Bounded maxWalInspectionFrames frameCount ∧ Bounded walInspectionLimitBytes totalBytes ∧
      walSizeMatches totalBytes frameCount := by
  obtain ⟨hlimit, hmatches⟩ := walFrameCount_eq_ok.mp h
  refine ⟨?_, ?_, hmatches⟩
  · have hframes : maxWalInspectionFrames = 16288 := by decide
    have hheader : walHeaderBytes = 32 := rfl
    have hframe : walFrameBytes = 4120 := rfl
    have hlimit' : walInspectionLimitBytes = 67108864 := rfl
    rw [walSizeMatches_iff, hheader, hframe] at hmatches
    unfold Bounded
    omega
  · have hheader : walHeaderBytes = 32 := rfl
    rw [walSizeMatches_iff, hheader] at hmatches
    exact ⟨by omega, hlimit⟩

/-! ## Records -/

/-- What the two looks at the log file leave. -/
structure PhysicalWalState.Sound (s : PhysicalWalState) : Prop where
  slots : Bounded maxWalInspectionFrames s.physicalFrameSlots
  total : Bounded walInspectionLimitBytes s.totalBytes
  absent : s.exists_ = false → s.physicalFrameSlots = 0 ∧ s.totalBytes = 0
  present : s.exists_ = true → walSizeMatches s.totalBytes s.physicalFrameSlots

/-- An inspection's values pass the checks of the result it builds. -/
theorem construct_inspection {logicalFrameCount checkpointedFrames : Int} {after : PhysicalWalState}
    (hafter : after.Sound) (hlogical : Bounded maxWalInspectionFrames logicalFrameCount)
    (hcheckpointed : Bounded logicalFrameCount checkpointedFrames)
    (hframes : logicalFrameCount ≤ after.physicalFrameSlots) :
    ∃ wal, WalInspectionResult.construct
      (inspectionFields logicalFrameCount checkpointedFrames after) = .ok wal := by
  have habsent : after.exists_ = false → logicalFrameCount = 0 ∧ after.physicalFrameSlots = 0 ∧
      after.totalBytes = 0 ∧ checkpointedFrames = 0 := by
    intro hmissing
    obtain ⟨hslots, htotal⟩ := hafter.absent hmissing
    unfold Bounded at hlogical hcheckpointed
    omega
  have hvalid : (inspectionFields logicalFrameCount checkpointedFrames after).Valid :=
    ⟨hlogical, hafter.slots, hafter.total, hcheckpointed, hframes, habsent, hafter.present,
      decide_eq_true_iff, decide_eq_true_iff⟩
  exact ⟨_, dif_pos hvalid⟩

/-- So do those of a checkpoint that was not due. -/
theorem construct_idle {wal : WalInspectionResult} (hdue : wal.checkpointDue ≠ true) :
    ∃ result, PassiveCheckpointResult.construct (idleFields wal) = .ok result := by
  have hframes : Bounded maxWalInspectionFrames 0 := by decide
  have hzero : Bounded 0 0 := by decide
  have hvalid : (idleFields wal).Valid := by
    cases hcase : wal.oversize with
    | true =>
      have houtcome : (idleFields wal).outcome = .oversizeBlocked := if_pos hcase
      refine ⟨wal.logical, wal.total, hframes, hzero, fun _ => ⟨rfl, rfl, rfl⟩, ?_, ?_, ?_, ?_, ?_⟩
      all_goals rw [houtcome]
      · exact nofun
      · exact fun _ => wal.oversize_iff.mp hcase
      · exact nofun
      · exact nofun
      · exact nofun
    | false =>
      have houtcome : (idleFields wal).outcome = .noWork :=
        if_neg (hcase ▸ Bool.false_ne_true)
      -- a log that is not oversize and not due is short
      have hsmall := not_or.mp (mt wal.oversize_iff.mpr (hcase ▸ Bool.false_ne_true))
      have hshort : wal.logicalFrameCount < walCheckpointThresholdFrames := by
        by_contra hlong
        exact hdue (wal.checkpointDue_iff.mpr
          ⟨⟨Int.not_lt.mp hlong, Int.not_lt.mp hsmall.1⟩, hcase⟩)
      refine ⟨wal.logical, wal.total, hframes, hzero, fun _ => ⟨rfl, rfl, rfl⟩, ?_, ?_, ?_, ?_, ?_⟩
      all_goals rw [houtcome]
      · exact fun _ => ⟨hshort, Int.not_lt.mp hsmall.2⟩
      · exact nofun
      · exact nofun
      · exact nofun
      · exact nofun
  exact ⟨_, dif_pos hvalid⟩

theorem construct_checkpoint {wal : WalInspectionResult} {busy logFrames checkpointedFrames : Int}
    (hdue : wal.checkpointDue = true) (hlog : Bounded maxWalInspectionFrames logFrames)
    (hcheckpointed : Bounded logFrames checkpointedFrames) :
    ∃ result, PassiveCheckpointResult.construct
      (checkpointFields wal busy logFrames checkpointedFrames) = .ok result := by
  obtain ⟨hframes, hoversize⟩ := wal.checkpointDue_iff.mp hdue
  have hsmall : wal.totalBytes ≤ walHardLimitBytes := by
    by_contra hlarge
    have hover := wal.oversize_iff.mpr (.inr (Int.not_le.mp hlarge))
    rw [hoversize] at hover
    cases hover
  have hvalid : (checkpointFields wal busy logFrames checkpointedFrames).Valid := by
    refine ⟨wal.logical, wal.total, hlog, hcheckpointed, ?_, ?_, ?_, fun _ => ⟨hframes, hsmall⟩,
      ?_, ?_⟩
    all_goals
      unfold checkpointFields
      dsimp only
      split
    all_goals simp_all
  exact ⟨_, dif_pos hvalid⟩

/-! ## Runs -/

/-- The fixed rejections: trust is lost with a malformed state and with failed trust alone. -/
def StorageEnvelopeError.Explicit (e : StorageEnvelopeError) : Prop :=
  e.trustLost = true ↔ e.reason = .malformedState ∨ e.reason = .trustFailed

instance (e : StorageEnvelopeError) : Decidable e.Explicit := by
  unfold StorageEnvelopeError.Explicit
  infer_instance

/-- A classified error carries a reason of its own. -/
theorem explicit_classifiedSqliteError (error : SqliteError) (expired : Bool) :
    (StorageEnvelopeError.classifiedSqliteError error expired).Explicit := by
  unfold StorageEnvelopeError.classifiedSqliteError
  repeat' split
  all_goals decide

section Ends

variable {α β : Type} {P : α → Prop} {Q : β → Prop}

/-- A value as `P` says, or a rejection, or an error of the engine: no `ValueError`. -/
def Admits (P : α → Prop) : Except StorageException α → Prop
  | .ok a => P a
  | .error (.envelope e) => e.Explicit
  | .error (.sqlite _ _) => True
  | .error .valueError => False

/-- A value as `P` says, or a rejection. -/
def Rejects (P : α → Prop) : Except StorageException α → Prop
  | .ok a => P a
  | .error e => ∃ rejection, rejection.Explicit ∧ e = .envelope rejection

/-- Where every error is explicit none is a failed construction. -/
theorem Rejects.admits {r : Except StorageException α} (h : Rejects P r) : Admits P r := by
  cases r with
  | ok a => exact h
  | error e =>
    obtain ⟨rejection, hexplicit, rfl⟩ := h
    exact hexplicit

variable {κ : Type} {x : Storage κ α} {f : α → Storage κ β}

/-- Computations one after the other, the second under what the first established. -/
theorem admits_bind (hx : x.Ends (Admits P)) (hf : ∀ a, P a → (f a).Ends (Admits Q)) :
    (x >>= f).Ends (Admits Q) := by
  refine Ensures.bind hx (fun a _ ha => hf a ha) fun e _ he => ?_
  cases e with
  | envelope rejection => exact he
  | sqlite error expired => exact True.intro
  | valueError => exact he

theorem rejects_bind (hx : x.Ends (Rejects P)) (hf : ∀ a, P a → (f a).Ends (Rejects Q)) :
    (x >>= f).Ends (Rejects Q) :=
  Ensures.bind hx (fun a _ ha => hf a ha) fun _ _ he => he

/-- The handlers leave only rejections when the body raises no `ValueError`. -/
theorem handling_rejects (hx : x.Ends (Admits P)) : (handling x).Ends (Rejects P) := by
  refine Ensures.catching_bind hx fun r _ hr => ?_
  cases r with
  | ok a => exact hr
  | error e =>
    cases e with
    | envelope rejection => exact ⟨rejection, hr, rfl⟩
    | sqlite error expired => exact ⟨_, explicit_classifiedSqliteError error expired, rfl⟩
    | valueError => exact hr.elim

end Ends

variable {κ : Type} {clock : Clock κ}

/-- A deadline that has passed is an explicit error. -/
theorem check_rejects (d : Deadline κ) : (d.check clock).Ends (Rejects fun _ => True) := by
  refine ensures_ask_bind.mpr fun reading _ _ => ?_
  exact ensures_ite (fun _ => ⟨_, by decide, rfl⟩) fun _ => True.intro

theorem checkDeadline_admits (deadline : Option (Deadline κ)) :
    (checkDeadline clock deadline).Ends (Admits fun _ => True) := by
  cases deadline with
  | none => exact True.intro
  | some d => exact (check_rejects d).mono fun _ => Rejects.admits

/-- The sizes that are read fit together. -/
theorem inspectPhysicalWal_admits (expected : Option PathIdentity) (requireExisting : Bool) :
    (inspectPhysicalWal expected requireExisting : Storage κ PhysicalWalState).Ends
      (Admits PhysicalWalState.Sound) := by
  refine ensures_ask_bind.mpr fun found _ _ => ?_
  have hnone : Bounded maxWalInspectionFrames 0 ∧ Bounded walInspectionLimitBytes 0 := by decide
  cases found with
  | error failure =>
    cases failure <;> cases requireExisting
    · exact ⟨hnone.1, hnone.2, fun _ => ⟨rfl, rfl⟩, nofun⟩
    · show StorageEnvelopeError.trustFailed.Explicit
      decide
    · show StorageEnvelopeError.Explicit ⟨.persistenceFailed, false⟩
      decide
    · show StorageEnvelopeError.trustFailed.Explicit
      decide
  | ok _ =>
    refine ensures_ask_bind.mpr fun validated _ _ => ?_
    cases validated with
    | none =>
      show StorageEnvelopeError.trustFailed.Explicit
      decide
    | some identity =>
      refine ensures_bind.mpr (ensures_ofExcept.mpr ?_)
      cases hcount : walFrameCount identity.size with
      | error e =>
        show e.Explicit
        rw [walFrameCount_error hcount]
        decide
      | ok slots =>
        obtain ⟨hslots, htotal, hmatches⟩ := walFrameCount_bounded hcount
        exact ⟨hslots, htotal, nofun, fun _ => hmatches⟩

/-- A row is only read as a status whose numbers are bounded. -/
theorem noopStatus_admits (rows : List (List SqlValue)) : Admits (fun status =>
    Bounded maxWalInspectionFrames status.1 ∧ Bounded status.1 status.2.1) (noopStatus rows) := by
  have hmalformed : StorageEnvelopeError.malformed.Explicit := by decide
  unfold noopStatus
  split
  case h_1 busy logicalFrameCount checkpointedFrames =>
    split
    · show StorageEnvelopeError.Explicit ⟨.storageBusy, false⟩
      decide
    · split
      · exact hmalformed
      · split
        · split
          · show Bounded maxWalInspectionFrames 0 ∧ Bounded 0 0
            decide
          · exact hmalformed
        · split
          · exact hmalformed
          case isFalse hbounded =>
            exact ⟨by_contra fun h => hbounded (.inl h), by_contra fun h => hbounded (.inr h)⟩
  case h_2 => exact hmalformed

theorem readNoopStatus_admits (deadline : Option (Deadline κ)) :
    (readNoopStatus clock deadline).Ends (Admits fun status =>
      Bounded maxWalInspectionFrames status.1 ∧ Bounded status.1 status.2.1) := by
  refine ensures_ask_bind.mpr fun safe _ _ => ?_
  cases safe with
  | false =>
    show StorageEnvelopeError.Explicit ⟨.unsupportedRuntime, false⟩
    decide
  | true =>
    refine ensures_bind.mpr (ensures_invoke.mpr fun executed _ _ => ?_)
    cases executed with
    | error e => exact True.intro
    | ok _ =>
      refine admits_bind (checkDeadline_admits deadline) fun _ _ => ?_
      refine ensures_bind.mpr (ensures_invoke.mpr fun fetched _ _ => ?_)
      cases fetched with
      | error e => exact True.intro
      | ok rows =>
        refine admits_bind (checkDeadline_admits deadline) fun _ _ => ?_
        exact ensures_ofExcept.mpr (noopStatus_admits rows)

/-- No run of the body raises a `ValueError`: its record is valid. -/
theorem inspectWalBody_admits (deadline : Option (Deadline κ)) :
    (inspectWalBody clock deadline).Ends (Admits fun _ => True) := by
  have hmalformed : StorageEnvelopeError.malformed.Explicit := by decide
  refine admits_bind (inspectPhysicalWal_admits none false) fun before _ => ?_
  refine admits_bind (checkDeadline_admits deadline) fun _ _ => ?_
  refine admits_bind (readNoopStatus_admits deadline) fun status hstatus => ?_
  obtain ⟨logicalFrameCount, checkpointedFrames, noWal⟩ := status
  refine admits_bind (checkDeadline_admits deadline) fun _ _ => ?_
  refine admits_bind (inspectPhysicalWal_admits before.identity before.exists_) fun after hafter => ?_
  refine admits_bind (checkDeadline_admits deadline) fun _ _ => ?_
  refine ensures_ite (fun _ => hmalformed) fun _ => ensures_ite (fun _ => hmalformed) fun hframes => ?_
  obtain ⟨wal, hwal⟩ := construct_inspection hafter hstatus.1 hstatus.2 (Int.not_lt.mp hframes)
  rw [hwal]
  exact True.intro

/-- An inspection builds its result or raises an explicit error. -/
theorem inspectWal_rejects (deadline : Option (Deadline κ)) :
    (inspectWal clock deadline).Ends (Rejects fun _ => True) :=
  handling_rejects (inspectWalBody_admits deadline)

theorem rowValue_rejects (d : Deadline κ) (value : SqlValue) :
    (rowValue clock d value).Ends (Rejects fun _ => True) := by
  cases value with
  | integer n => exact rejects_bind (check_rejects d) fun _ _ => True.intro
  | other => exact rejects_bind (check_rejects d) fun _ _ => ⟨_, by decide, rfl⟩

/-- The rows of a checkpoint are read or refused with an explicit error. -/
theorem passiveStatus_rejects (d : Deadline κ) (rows : List (List SqlValue)) :
    (passiveStatus clock d rows).Ends (Rejects fun _ => True) := by
  unfold passiveStatus
  split
  · refine rejects_bind (rowValue_rejects d _) fun _ _ => ?_
    refine rejects_bind (rowValue_rejects d _) fun _ _ => ?_
    refine rejects_bind (rowValue_rejects d _) fun _ _ => ?_
    exact True.intro
  · exact ⟨_, by decide, rfl⟩

/-- The numbers a checkpoint reports are within bounds or refused. -/
theorem reportedFrames_rejects (busy logFrames checkpointedFrames : Int) :
    Rejects (fun frames => Bounded maxWalInspectionFrames frames.1 ∧ Bounded frames.1 frames.2)
      (reportedFrames busy logFrames checkpointedFrames) := by
  unfold reportedFrames
  split
  case isTrue => exact ⟨_, by decide, rfl⟩
  case isFalse =>
    split
    case isTrue =>
      show Bounded maxWalInspectionFrames 0 ∧ Bounded 0 0
      decide
    case isFalse =>
      split
      case isTrue => exact ⟨_, by decide, rfl⟩
      case isFalse hbounded =>
        exact ⟨by_contra fun h => hbounded (.inl h), by_contra fun h => hbounded (.inr h)⟩

/-- No run of a checkpoint that was due raises a `ValueError`. -/
theorem checkpointBody_admits (d : Deadline κ) {wal : WalInspectionResult}
    (hdue : wal.checkpointDue = true) :
    (checkpointBody clock d wal).Ends (Admits fun _ => True) := by
  have hcheck : ∀ d : Deadline κ, (d.check clock).Ends (Admits fun _ => True) :=
    fun d => (check_rejects d).mono fun _ => Rejects.admits
  refine admits_bind (hcheck d) fun _ _ => ?_
  refine ensures_bind.mpr (ensures_invoke.mpr fun executed _ _ => ?_)
  obtain ⟨readings, outcome⟩ := executed
  cases outcome with
  | error e => exact True.intro
  | ok _ =>
    refine admits_bind (hcheck _) fun _ _ => ?_
    refine ensures_bind.mpr (ensures_invoke.mpr fun fetched _ _ => ?_)
    obtain ⟨readings, outcome⟩ := fetched
    cases outcome with
    | error e => exact True.intro
    | ok rows =>
      refine admits_bind (hcheck _) fun _ _ => ?_
      refine admits_bind ((passiveStatus_rejects _ rows).mono fun _ => Rejects.admits)
        fun status _ => ?_
      obtain ⟨busy, logFrames, checkpointedFrames⟩ := status
      have hframes := (reportedFrames_rejects busy logFrames checkpointedFrames).admits
      refine admits_bind (ensures_ofExcept.mpr hframes) fun frames hbounded => ?_
      refine admits_bind (hcheck _) fun _ _ => ?_
      obtain ⟨result, hresult⟩ := construct_checkpoint hdue hbounded.1 hbounded.2
      show (ofExcept (PassiveCheckpointResult.construct
        (checkpointFields wal busy frames.1 frames.2)) : Storage κ _).Ends _
      rw [hresult]
      exact True.intro

/-- A checkpoint builds its result or raises an explicit error. -/
theorem issueCheckpoint_rejects (d : Deadline κ) {wal : WalInspectionResult}
    (hdue : wal.checkpointDue = true) :
    (issueCheckpoint clock d wal).Ends (Rejects fun _ => True) := by
  have hinstall : (installProgressHandler d : Storage κ Unit).Ends (Rejects fun _ => True) := by
    refine ensures_invoke.mpr fun answer _ _ => ?_
    cases answer with
    | error e => exact ⟨_, explicit_classifiedSqliteError e d.expired, rfl⟩
    | ok _ => exact True.intro
  have hchecked : (handling (checkpointBody clock d wal)).Ends (Rejects fun _ => True) :=
    handling_rejects (checkpointBody_admits d hdue)
  have hbody := rejects_bind hinstall fun _ _ => hchecked
  refine Ensures.finallyDo hbody fun r _ hr => ?_
  refine ensures_invoke.mpr fun answer _ _ => ?_
  cases answer with
  | error e => exact ⟨_, by decide, rfl⟩
  | ok _ => exact hr

/-- The whole operation never fails a check of its own results. -/
theorem passiveWalCheckpoint_rejects :
    (passiveWalCheckpoint clock).Ends (Rejects fun _ => True) := by
  have hnew : (Deadline.new clock).Ends (Rejects fun _ => True) :=
    ensures_ask_bind.mpr fun reading _ _ => True.intro
  refine rejects_bind hnew fun d _ => ?_
  refine rejects_bind (inspectWal_rejects (some d)) fun wal _ => ?_
  refine rejects_bind (check_rejects d) fun _ _ => ?_
  refine ensures_ite (fun hdue => issueCheckpoint_rejects d hdue) fun hdue => ?_
  obtain ⟨result, hresult⟩ := construct_idle hdue
  rw [hresult]
  exact True.intro

/-! ## Issuing a checkpoint -/

/-- The deadline's check does not checkpoint. -/
theorem makes_check (d : Deadline κ) : (d.check clock).Makes (· ≠ StorageCall.executePassive) := by
  refine (makes_ask nofun).bind fun reading => ?_
  split
  · exact makes_raise _
  · exact makes_pure ()

/-- An inspection runs no checkpoint. -/
theorem makes_inspectWal (deadline : Option (Deadline κ)) :
    (inspectWal clock deadline).Makes (· ≠ StorageCall.executePassive) := by
  have hcheck : (checkDeadline clock deadline).Makes (· ≠ StorageCall.executePassive) := by
    cases deadline with
    | none => exact makes_pure ()
    | some d => exact makes_check d
  have hlook : ∀ (expected : Option PathIdentity) (requireExisting : Bool),
      (inspectPhysicalWal expected requireExisting : Storage κ PhysicalWalState).Makes
        (· ≠ StorageCall.executePassive) := by
    intro expected requireExisting
    refine (makes_ask nofun).bind fun found => ?_
    split
    · split
      · exact makes_raise _
      · exact makes_pure _
    · split
      · exact makes_raise _
      · exact makes_raise _
    · refine (makes_ask nofun).bind fun validated => ?_
      split
      · exact makes_raise _
      · exact (makes_ofExcept _).bind fun slots => makes_pure _
  have hstatus : (readNoopStatus clock deadline).Makes (· ≠ StorageCall.executePassive) := by
    refine (makes_ask nofun).bind fun safe => ?_
    split
    · refine (makes_invoke nofun).bind fun _ => hcheck.bind fun _ => ?_
      exact (makes_invoke nofun).bind fun rows => hcheck.bind fun _ => makes_ofExcept _
    · exact makes_raise _
  have hbody : (inspectWalBody clock deadline).Makes (· ≠ StorageCall.executePassive) := by
    refine (hlook none false).bind fun before => hcheck.bind fun _ => ?_
    refine hstatus.bind fun status => hcheck.bind fun _ => ?_
    refine (hlook _ _).bind fun after => hcheck.bind fun _ => ?_
    split
    · exact makes_raise _
    · split
      · exact makes_raise _
      · exact makes_ofExcept _
  refine hbody.catching.bind fun result => ?_
  split
  · exact makes_pure _
  · exact makes_raise _

/-- A checkpoint statement follows a complete inspection that says that it is due. -/
theorem due_of_executePassive {t : List (Exchange (StorageInterface κ))}
    {r : Except StorageException PassiveCheckpointResult}
    (h : Runs (passiveWalCheckpoint clock) t r)
    (hissued : ∃ x ∈ t, x.1 = StorageCall.executePassive) :
    ∃ (d : Deadline κ) (wal : WalInspectionResult) (t₁ t₂ t₃ : List (Exchange (StorageInterface κ))),
      t = t₁ ++ (t₂ ++ t₃) ∧ Runs (Deadline.new clock) t₁ (.ok d) ∧
        Runs (inspectWal clock (some d)) t₂ (.ok wal) ∧ wal.checkpointDue = true := by
  obtain ⟨x, hx, hcall⟩ := hissued
  have hnew : (Deadline.new clock).Makes (· ≠ StorageCall.executePassive) :=
    (makes_ask nofun).bind fun reading => makes_pure _
  rcases runs_bind.mp h with ⟨e, hruns, rfl⟩ | ⟨d, t₁, t', rfl, hdeadline, h⟩
  · exact absurd hcall (hnew.runs hruns x hx)
  rcases List.mem_append.mp hx with hx | hx
  · exact absurd hcall (hnew.runs hdeadline x hx)
  rcases runs_bind.mp h with ⟨e, hruns, rfl⟩ | ⟨wal, t₂, t₃, rfl, hinspect, h⟩
  · exact absurd hcall ((makes_inspectWal (some d)).runs hruns x hx)
  rcases List.mem_append.mp hx with hx | hx
  · exact absurd hcall ((makes_inspectWal (some d)).runs hinspect x hx)
  refine ⟨d, wal, t₁, t₂, t₃, rfl, hdeadline, hinspect, ?_⟩
  by_contra hdue
  -- what is left is the last look at the clock
  have hrest : (do
      d.check clock
      if wal.checkpointDue then issueCheckpoint clock d wal
      else ofExcept (PassiveCheckpointResult.construct (idleFields wal)) :
        Storage κ PassiveCheckpointResult).Makes (· ≠ StorageCall.executePassive) := by
    refine (makes_check d).bind fun _ => ?_
    rw [if_neg hdue]
    exact makes_ofExcept _
  exact hrest.runs h x hx hcall

/-! ## The law -/

/-- What holds of the inspection and of the checkpoint, under one clock. -/
structure WalLaw (clock : Clock κ) : Prop where
  /-- The record of an inspection is never refused. -/
  inspectionValid : ∀ deadline t r, Runs (inspectWalBody clock deadline) t r →
    r ≠ .error .valueError
  inspection : ∀ deadline t r, Runs (inspectWal clock deadline) t r →
    (∃ e, e.Explicit ∧ r = .error (.envelope e)) ∨
      ∃ wal, r = .ok wal ∧ ¬(wal.oversize = true ∧ wal.checkpointDue = true)
  /-- Nor is the record of a checkpoint. -/
  checkpointValid : ∀ d wal t r, wal.checkpointDue = true → Runs (checkpointBody clock d wal) t r →
    r ≠ .error .valueError
  checkpoint : ∀ t r, Runs (passiveWalCheckpoint clock) t r →
    (∃ e, e.Explicit ∧ r = .error (.envelope e)) ∨ ∃ result, r = .ok result
  issued : ∀ t r, Runs (passiveWalCheckpoint clock) t r →
    (∃ x ∈ t, x.1 = StorageCall.executePassive) →
      ∃ (d : Deadline κ) (wal : WalInspectionResult) (t₁ t₂ t₃ : _),
        t = t₁ ++ (t₂ ++ t₃) ∧ Runs (Deadline.new clock) t₁ (.ok d) ∧
          Runs (inspectWal clock (some d)) t₂ (.ok wal) ∧ wal.checkpointDue = true

/-- An admitted result is not the ValueError of a failed construction. -/
theorem not_valueError {α : Type} {P : α → Prop} {r : Except StorageException α}
    (h : Admits P r) : r ≠ .error .valueError := by
  rintro rfl
  exact h

theorem wal_results_constructible {κ : Type} (clock : Clock κ) :
    WalLaw clock ∧
      (∀ totalBytes frameCount, totalBytes ≤ walInspectionLimitBytes →
        (walFrameCount totalBytes = .ok frameCount ↔ walSizeMatches totalBytes frameCount)) ∧
      ∀ totalBytes, walInspectionLimitBytes < totalBytes →
        walFrameCount totalBytes = .error .malformed := by
  refine ⟨⟨?_, ?_, ?_, ?_, fun t r => due_of_executePassive⟩, ?_, ?_⟩
  · exact fun deadline t r hr => not_valueError ((inspectWalBody_admits deadline).runs hr)
  · intro deadline t r hr
    have hend := (inspectWal_rejects deadline).runs hr
    cases r with
    | error e =>
      obtain ⟨rejection, hexplicit, rfl⟩ := hend
      exact .inl ⟨rejection, hexplicit, rfl⟩
    | ok wal =>
      refine .inr ⟨wal, rfl, ?_⟩
      rintro ⟨hoversize, hdue⟩
      rw [(wal.checkpointDue_iff.mp hdue).2] at hoversize
      cases hoversize
  · exact fun d wal t r hdue hr => not_valueError ((checkpointBody_admits d hdue).runs hr)
  · intro t r hr
    have hend := passiveWalCheckpoint_rejects.runs hr
    cases r with
    | error e =>
      obtain ⟨rejection, hexplicit, rfl⟩ := hend
      exact .inl ⟨rejection, hexplicit, rfl⟩
    | ok result => exact .inr ⟨result, rfl⟩
  · intro totalBytes frameCount hlimit
    rw [walFrameCount_eq_ok]
    exact and_iff_right hlimit
  · intro totalBytes hlarge
    have houtside : ¬Bounded walInspectionLimitBytes totalBytes := fun h => Int.not_le.mpr hlarge h.2
    exact if_pos houtside

/-- Above the limit a size can match frames that are not counted. -/
theorem oversized_matches_uncounted :
    walFrameCount 67110712 = .error .malformed ∧ walSizeMatches 67110712 16289 ∧
      ¬∀ totalBytes frameCount,
        walFrameCount totalBytes = .ok frameCount ↔ walSizeMatches totalBytes frameCount := by
  have hcount : walFrameCount 67110712 = .error .malformed := if_pos (by decide)
  have hmatches : walSizeMatches 67110712 16289 := by decide
  refine ⟨hcount, hmatches, fun hagree => ?_⟩
  have hsame := (hagree 67110712 16289).mpr hmatches
  rw [hcount] at hsame
  cases hsame

end Aurora.HealthHistory
