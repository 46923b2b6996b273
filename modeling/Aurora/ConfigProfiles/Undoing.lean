/-
  Undoing mutations over whole runs.

  A trail is a run of mutations, each with its own arguments, libraries and clock, and with anything
  between them that leaves the managed backups alone.  No step of a trail changes a saved backup, so
  the text that a mutation replaced can be brought back byte for byte, and the directory of backups
  stays within its bound.
-/
import Mathlib.Data.ENat.Lattice
import Aurora.ConfigProfiles.Activation

namespace Aurora.ConfigProfiles

open Program

/-! ## Trails -/

/-- A mutation and what it runs with. -/
structure MutationRequest where
  libraries : ConfigurationLibraries
  uid : Nat
  clock : Option Moment
  target : Target
  confirmation : String
  maximumBackups : Int

/-- The command of a request. -/
def MutationRequest.command (i : Installation) (request : MutationRequest) : Command :=
  match request.target with
  | .profile directory profileId =>
    applyProfile request.libraries request.uid request.clock i.config directory i.backups profileId
      request.confirmation request.maximumBackups
  | .backup backupId =>
    rollbackTo request.libraries request.uid request.clock i.config i.backups backupId
      request.confirmation request.maximumBackups

/-- The arguments are valid and the mutation was confirmed. -/
def MutationRequest.Confirmed (request : MutationRequest) : Prop :=
  match request.target with
  | .profile _ profileId =>
    ConfigProfiles.Confirmed (isProfileId profileId) profileId request.confirmation
      request.maximumBackups
  | .backup backupId =>
    ConfigProfiles.Confirmed (isBackupId backupId) backupId request.confirmation
      request.maximumBackups

/-- Nothing was done to the managed backups. -/
def LeavesBackups (i : Installation) (w w' : FsWorld) : Prop :=
  ∀ path, IsManaged i.backups path → w'.files path = w.files path

/-- A run of mutations.  Between them, anyone may do anything but touch the managed backups. -/
inductive Trail (i : Installation) : FsWorld → FsWorld → Type
  | nil (w : FsWorld) : Trail i w w
  | mutation {w w' : FsWorld} (request : MutationRequest)
      (x : Execution FsStep (request.command i) w) (rest : Trail i x.final w') : Trail i w w'
  | outside {w v w' : FsWorld} (leaves : LeavesBackups i w v) (rest : Trail i v w') : Trail i w w'

/-- The requests of the rehearsal. -/
def sampleActivationRequest : MutationRequest where
  libraries := sampleLibraries
  uid := 1000
  clock := some ⟨2026, 7, 1, 12, 0, 0, 0⟩
  target := .profile ["etc", "profiles"] "tv"
  confirmation := "tv"
  maximumBackups := 10

/-- Go back to the backup. -/
def sampleRollbackRequest : MutationRequest where
  libraries := sampleLibraries
  uid := 1000
  clock := some ⟨2026, 7, 2, 8, 30, 0, 0⟩
  target := .backup sampleManifest.backupId
  confirmation := sampleManifest.backupId
  maximumBackups := 10

/-- Editing the active file leaves the backups. -/
theorem editedDisk_leaves :
    LeavesBackups sampleInstallation sampleActivation.final (editedDisk sampleApply).world := by
  intro path hpath
  have hne : path ≠ sampleInstallation.config.path := by
    rintro rfl
    exact sampleInstallation.apart hpath
  have hactivation : sampleActivation = sampleDisk.execution sampleDirectories 1000 sampleApply := rfl
  have hedited : editedDisk sampleApply =
      (sampleDisk.after sampleDirectories 1000 sampleApply).put ["etc", "aurora.yaml"]
        (profileText "hd") := rfl
  rw [hactivation, hedited, Disk.put_files, Disk.execution_final]
  exact Function.update_of_ne hne ..

/-- The rehearsal as a run: nobody touches the backups when the active file is edited. -/
def sampleTrail : Trail sampleInstallation sampleDisk.world sampleReturn.final :=
  .mutation sampleActivationRequest sampleActivation
    (.outside (v := (editedDisk sampleApply).world)
      editedDisk_leaves
      (.mutation sampleRollbackRequest sampleReturn (.nil _)))

variable {i : Installation} {w w' w'' : FsWorld}

/-- Both commands account for what they did. -/
theorem command_accounts (i : Installation) (request : MutationRequest) (w : FsWorld)
    (x : Execution FsStep (request.command i) w) : ∃ result, x.result = .ok result ∧
      Accounts request.libraries i request.target request.maximumBackups request.Confirmed w x.final
        result := by
  obtain ⟨libraries, uid, clock, target, confirmation, maximum⟩ := request
  cases target with
  | profile directory profileId =>
    exact apply_accounts libraries uid clock i directory profileId confirmation maximum w x
  | backup backupId =>
    exact rollback_accounts libraries uid clock i backupId confirmation maximum w x

/-! ## Saved backups stay -/

/-- A saved pair survives whatever changes only the active file. -/
theorem Saved.keeps {m : BackupManifest} {source : Bytes} (h : Saved w i.backups m source)
    (hkept : ∀ path, path ≠ i.config.path → w.files path ≠ none → w'.files path = w.files path) :
    Saved w' i.backups m source := by
  have hid : isBackupId m.backupId = true := (BackupManifest.accepted_iff.mp h.accepted).1
  -- a managed file that is there is not the active one
  have hfile : ∀ {extension data},
      w.files (i.backups ++ [managedFile m.backupId extension]) = some data →
        w'.files (i.backups ++ [managedFile m.backupId extension]) = some data := by
    intro extension data hdata
    have hne : i.backups ++ [managedFile m.backupId extension] ≠ i.config.path := fun heq =>
      i.apart ⟨m.backupId, extension, hid, heq.symm⟩
    rw [hkept _ hne (hdata ▸ Option.some_ne_none _), hdata]
  obtain ⟨data, hdata, hjson⟩ := h.manifest
  exact ⟨h.accepted, hfile h.payload, data, hdata, hfile hjson⟩

/-- A backup that is saved once is saved for ever. -/
theorem Trail.saved (trail : Trail i w w') {m : BackupManifest} {source : Bytes}
    (h : Saved w i.backups m source) : Saved w' i.backups m source := by
  induction trail with
  | nil w => exact h
  | @mutation w w' request x rest ih =>
    obtain ⟨result, -, haccounts⟩ := command_accounts i request w x
    exact ih (h.keeps haccounts.bounded.kept)
  | @outside w v w' leaves rest ih =>
    have hid : isBackupId m.backupId = true := (BackupManifest.accepted_iff.mp h.accepted).1
    obtain ⟨data, hdata, hjson⟩ := h.manifest
    refine ih ⟨h.accepted, ?_, data, hdata, ?_⟩
    · rw [leaves _ ⟨m.backupId, .yaml, hid, rfl⟩]
      exact h.payload
    · rw [leaves _ ⟨m.backupId, .json, hid, rfl⟩]
      exact hjson

/-! ## Undoing -/

/-- The mutation may have replaced the active file. -/
def ProfileCommandResult.Published (result : ProfileCommandResult) : Prop :=
  (result.exitCode = .success ∧ result.reasonCode ≠ .of .noChange) ∨ result.exitCode = .restored ∨
    result.exitCode = .restorationFailed

/-- The bytes that were active can be brought back: after any run, their backup is intact, and a
rollback to it that succeeds makes them active again. -/
def Undoable (i : Installation) (old : Bytes) (m : BackupManifest) (w : FsWorld) : Prop :=
  ∀ {w' : FsWorld}, Trail i w w' →
    Saved w' i.backups m old ∧ m.sourceSha256 = hexdigest old ∧ m.sourceByteCount = old.length ∧
      ∀ (request : MutationRequest) (x : Execution FsStep (request.command i) w')
        (result : ProfileCommandResult), request.target = .backup m.backupId →
          x.result = .ok result → result.exitCode = .success →
            x.final.files i.config.path = some old

/-- A backup of the mutation can be rolled back to. -/
theorem BackedUp.undoable {target : Target} {old : Bytes} {m : BackupManifest}
    (h : BackedUp i target w w' old m) : Undoable i old m w' := by
  intro w'' trail
  have hsaved := trail.saved h.saved
  refine ⟨hsaved, h.sourceSha256, h.sourceByteCount, ?_⟩
  intro request x result htarget hresult hsuccess
  obtain ⟨_, hresult', haccounts⟩ := command_accounts i request w'' x
  obtain rfl := Except.ok.inj (hresult.symm.trans hresult')
  have hends := haccounts.ends
  rw [htarget] at hends
  cases hends with
  | noChange htarget' => cases htarget'
  | activated hold source active backedUp changes =>
    obtain ⟨selected, hloaded, -, rfl, -⟩ := source
    have hpayload := hloaded.payload.1
    rw [hsaved.payload] at hpayload
    rw [active, ← Option.some.inj hpayload]
  | restored => cases hsuccess
  | unrestored => cases hsuccess
  | busy => cases hsuccess
  | refused => cases hsuccess

/-- A mutation that may have replaced the active file can be undone, in any run after it.  This holds
by what it reports and by what the file holds, so also of a publication that is hidden. -/
theorem published_undoable (i : Installation) (request : MutationRequest) (w : FsWorld)
    (x : Execution FsStep (request.command i) w) : ∃ result, x.result = .ok result ∧
      (result.Published ∨ x.final.files i.config.path ≠ w.files i.config.path →
        ∃ old m, w.files i.config.path = some old ∧ m.backupId ∉ managedIds w i.backups ∧
          Undoable i old m x.final) := by
  obtain ⟨result, hresult, haccounts⟩ := command_accounts i request w x
  refine ⟨result, hresult, fun hreplaced => ?_⟩
  have hends := haccounts.ends
  rcases haccounts.bounded.active with hsame | ⟨old, data, m, hold, -, -, backedUp⟩
  case inr => exact ⟨old, m, hold, backedUp.new, backedUp.undoable⟩
  -- the file is as it was, so the mutation reports that it may not be
  have hpublished : result.Published := hreplaced.resolve_right fun hne => hne hsame
  cases hends with
  | noChange htarget hold source active identifiers =>
    rcases hpublished with ⟨-, hchanged⟩ | hcode | hcode
    · exact absurd rfl hchanged
    · cases hcode
    · cases hcode
  | activated hold source active backedUp changes => exact ⟨_, _, hold, backedUp.new, backedUp.undoable⟩
  | restored hold active backedUp => exact ⟨_, _, hold, backedUp.new, backedUp.undoable⟩
  | unrestored hold backedUp => exact ⟨_, _, hold, backedUp.new, backedUp.undoable⟩
  | busy => rcases hpublished with ⟨hcode, -⟩ | hcode | hcode <;> cases hcode
  | refused => rcases hpublished with ⟨hcode, -⟩ | hcode | hcode <;> cases hcode

/-- The activation of the rehearsal can be undone, and was. -/
theorem published_undoable_sample : (∃ m : BackupManifest,
    m.backupId ∉ managedIds sampleDisk.world sampleInstallation.backups ∧
      Undoable sampleInstallation (profileText "pc") m sampleActivation.final) ∧
    sampleActivation.final.files sampleInstallation.config.path = some (profileText "tv") ∧
    sampleReturn.final.files sampleInstallation.config.path = some (profileText "pc") := by
  obtain ⟨-, -, hactivated, hreturned⟩ := sample_ends
  have hold : sampleDisk.world.files sampleInstallation.config.path = some (profileText "pc") := by
    unfold sampleDisk
    rw [Disk.put_files, Function.update_of_ne (by decide), Disk.put_files]
    exact Function.update_self ..
  obtain ⟨result, -, hundoable⟩ := published_undoable sampleInstallation sampleActivationRequest
    sampleDisk.world sampleActivation
  have hdiffers : sampleActivation.final.files sampleInstallation.config.path ≠
      sampleDisk.world.files sampleInstallation.config.path := by
    rw [hactivated, hold]
    decide
  obtain ⟨old, m, hwas, hnew, hundo⟩ := hundoable (.inr hdiffers)
  obtain rfl := Option.some.inj (hold.symm.trans hwas)
  exact ⟨⟨m, hnew, hundo⟩, hactivated, hreturned⟩

/-! ## The number of backups -/

/-- A mutation adds at most one backup, and only while there is room. -/
theorem Accounts.encard_le {libraries : ConfigurationLibraries} {target : Target} {maximum : Int}
    {confirmed : Prop} {result : ProfileCommandResult}
    (h : Accounts libraries i target maximum confirmed w w' result)
    (hmaximum : confirmed → maximum ≤ maximumBackups) :
    (managedIds w' i.backups).encard ≤ max (managedIds w i.backups).encard 100 := by
  rcases h.bounded.identifiers with hsame | ⟨⟨n, hn, hroom⟩, identifier, hinsert⟩
  · rw [hsame]
    exact le_max_left _ _
  · rcases h.authorized with hfiles | hconfirmed
    · rw [managedIds_congr hfiles]
      exact le_max_left _ _
    · have hbound : n + 1 ≤ 100 := by
        have hlimit : maximum ≤ 100 := hmaximum hconfirmed
        omega
      calc (managedIds w' i.backups).encard
          ≤ (managedIds w i.backups).encard + 1 := by
            rw [hinsert]
            exact Set.encard_insert_le _ _
        _ ≤ (n : ℕ∞) + 1 := by gcongr
        _ ≤ 100 := by exact_mod_cast hbound
        _ ≤ max (managedIds w i.backups).encard 100 := le_max_right _ _

/-- A confirmed request is within the bound on backups. -/
theorem MutationRequest.Confirmed.maximum {request : MutationRequest} (h : request.Confirmed) :
    request.maximumBackups ≤ ConfigProfiles.maximumBackups := by
  obtain ⟨libraries, uid, clock, target, confirmation, maximum⟩ := request
  cases target with
  | profile directory profileId => exact h.2.2.2
  | backup backupId => exact h.2.2.2

/-- However many mutations run, failed ones among them, the managed identifiers stay within the
bound, or what there was before. -/
theorem trail_capacity (i : Installation) {w w' : FsWorld} (trail : Trail i w w') :
    (managedIds w' i.backups).encard ≤ max (managedIds w i.backups).encard 100 := by
  induction trail with
  | nil w => exact le_max_left _ _
  | @mutation w w' request x rest ih =>
    obtain ⟨result, -, haccounts⟩ := command_accounts i request w x
    have hstep := haccounts.encard_le MutationRequest.Confirmed.maximum
    exact ih.trans (max_le hstep (le_max_right _ _))
  | @outside w v w' leaves rest ih =>
    have hsame : managedIds v i.backups = managedIds w i.backups := by
      ext identifier
      rw [mem_managedIds, mem_managedIds]
      refine and_congr_right fun hid => exists_congr fun extension => ?_
      rw [leaves _ ⟨identifier, extension, hid, rfl⟩]
    rwa [hsame] at ih

theorem trail_capacity_sample : (managedIds sampleReturn.final sampleInstallation.backups).encard ≤
    max (managedIds sampleDisk.world sampleInstallation.backups).encard 100 :=
  trail_capacity sampleInstallation sampleTrail

end Aurora.ConfigProfiles
