/-
  Activating a profile and rolling back: what the result says is what happened.

  `MutationEnd` lists every way a mutation can end.  The active file holds the previous bytes or the
  replacement, and which of the two is known from the result, unless a descriptor could not be
  closed: then a publication may be hidden behind a refusal.
-/
import Mathlib.Data.List.Sort
import Aurora.ConfigProfiles.Disks
import Aurora.ConfigProfiles.Exceptions
import Aurora.ConfigProfiles.Frames

namespace Aurora.ConfigProfiles

open Program

variable {w w' w'' : FsWorld} {α : Type}

/-! ## Installations -/

/-- Where a configuration lives: the active file, and the directory of its backups. -/
structure Installation where
  config : FilePath
  backups : Path
  /-- The active file is none of the managed backups. -/
  apart : ¬IsManaged backups config.path

variable {i : Installation}

/-- The files that a mutation may write: the active one and temporary files beside it, the lock, and
the managed backups. -/
def Installation.Owns (i : Installation) (path : Path) : Prop :=
  Replaced i.config.parent i.config.path path ∨ path = i.backups ++ [lockFilename] ∨
    IsManaged i.backups path

/-- Only files of the installation have changed; those that were there are as they were, but for the
active one, and none of the backups has changed. -/
structure Frame (i : Installation) (w w' : FsWorld) : Prop where
  touched : Touches i.Owns w w'
  kept : ∀ path, path ≠ i.config.path → w.files path ≠ none → w'.files path = w.files path
  managed : ∀ path, IsManaged i.backups path → w'.files path = w.files path

/-- A step that leaves every file alone is inside the frame. -/
theorem frame_of_files (h : w'.files = w.files) : Frame i w w' :=
  ⟨touches_of_files h, fun path _ _ => congrFun h path, fun path _ => congrFun h path⟩

theorem Frame.trans (h : Frame i w w') (h' : Frame i w' w'') : Frame i w w'' where
  touched := Touches.trans w w' w'' h.touched h'.touched
  kept path hpath hexists := by
    have hsame := h.kept path hpath hexists
    rw [h'.kept path hpath (hsame ▸ hexists), hsame]
  managed path hpath := (h'.managed path hpath).trans (h.managed path hpath)

/-- Taking the lock changes at most the lock file, one of the paths the installation owns. -/
theorem LockMade.touched (h : LockMade i.backups w w') : Touches i.Owns w w' := by
  rcases h with hsame | ⟨-, hfiles⟩
  · exact touches_of_files hsame
  · exact Touches.update (.inr (.inl rfl)) hfiles

theorem LockMade.frame (h : LockMade i.backups w w') : Frame i w w' :=
  ⟨h.touched, fun _ _ hexists => h.keeps hexists, fun _ hpath => h.managed hpath⟩

/-- No identifier is added to the backups or taken from them. -/
theorem Frame.managedIds (h : Frame i w w') :
    managedIds w' i.backups = managedIds w i.backups := by
  ext identifier
  rw [mem_managedIds, mem_managedIds]
  refine and_congr_right fun hid => exists_congr fun extension => ?_
  rw [h.managed _ ⟨identifier, extension, hid, rfl⟩]

/-- A saved pair stays saved across a step inside the frame. -/
theorem Frame.saved {m : BackupManifest} {source : Bytes} (h : Frame i w w')
    (hsaved : Saved w i.backups m source) : Saved w' i.backups m source := by
  have hid : isBackupId m.backupId = true := (BackupManifest.accepted_iff.mp hsaved.accepted).1
  obtain ⟨data, hdata, hjson⟩ := hsaved.manifest
  refine ⟨hsaved.accepted, ?_, data, hdata, ?_⟩
  · rw [h.managed _ ⟨m.backupId, .yaml, hid, rfl⟩]
    exact hsaved.payload
  · rw [h.managed _ ⟨m.backupId, .json, hid, rfl⟩]
    exact hjson

/-! ## What is read -/

/-- A snapshot shows what a file holds. -/
def Shows (w : FsWorld) (path : Path) (snapshot : SecureFileSnapshot) : Prop :=
  w.files path = some snapshot.data ∧ snapshot.sha256 = hexdigest snapshot.data

/-- A file that passes the inspection exists. -/
theorem inspectSecureFile_returns (uid : Nat) (path : Path) (maximumBytes : Nat) (w : FsWorld) :
    (inspectSecureFile uid path maximumBytes).Ensures FsStep w
      (Returns (fun _ => w.files path ≠ none) w) := by
  refine Returns.refusing (returns_checked fun before w₃ hfiles => ?_)
  refine Returns.bind (P := fun _ => w.files path ≠ none)
    (bracketed_returns (fun _ hok herror => sys_openRead hok herror) fun hexists => ?_) ?_
  · exact (keeps_opened _ before _ _).mono fun _ _ hreads => ⟨hreads, fun _ _ => hfiles ▸ hexists⟩
  · intro _ w₄ hexists h₄
    refine Returns.bind (Returns.of_keeps (keeps_lstat Quiet.refl path) w₄) fun after w₅ _ _ => ?_
    refine Returns.bind (Returns.of_keeps (keeps_ofExcept Quiet.refl _) w₅) fun _ w₆ _ _ => ?_
    refine Returns.bind (Returns.of_keeps (keeps_ofExcept Quiet.refl _) w₆) fun _ w₇ _ _ => ?_
    exact returns_pure hexists

variable (libraries : ConfigurationLibraries) (uid : Nat)

/-- The active configuration that is returned is the file's content and passed the loader. -/
theorem loadActive_returns (config : FilePath) (w : FsWorld) :
    (loadActive libraries uid config).Ensures FsStep w (Returns (fun p =>
      Shows w config.path p.1 ∧ validateYaml libraries p.1.data none = .ok p.2) w) := by
  refine Returns.bind (Returns.of_keeps (keeps_validateDirectory uid config.parent false) w)
    fun _ w₁ _ h₁ => ?_
  refine Returns.bind (readSecureFile_returns uid config.path maxYamlBytes w₁)
    fun snapshot w₂ hshows _ => ?_
  refine Returns.bind (returns_ofExcept fun document h => h) fun document w₃ hvalid _ => ?_
  exact returns_pure ⟨⟨h₁.files ▸ hshows.1, hshows.2⟩, hvalid⟩

/-- The profile that is returned is its file's content and was checked under its identifier. -/
theorem loadProfile_returns (directory : Path) (profileId : String) (w : FsWorld) :
    (loadProfile libraries uid directory profileId).Ensures FsStep w (Returns (fun p =>
      Shows w (profilePath directory profileId) p.1 ∧
        validateYaml libraries p.1.data (some profileId) = .ok p.2) w) := by
  refine Returns.bind (Returns.of_keeps (keeps_validateDirectory uid directory true) w)
    fun _ w₁ _ h₁ => ?_
  refine Returns.bind (readSecureFile_returns uid (profilePath directory profileId) maxYamlBytes w₁)
    fun snapshot w₂ hshows _ => ?_
  refine Returns.bind (returns_ofExcept fun document h => h) fun document w₃ hvalid _ => ?_
  exact returns_pure ⟨⟨h₁.files ▸ hshows.1, hshows.2⟩, hvalid⟩

/-- A pair of files that was loaded: the payload, and the manifest that names it. -/
structure Loaded (w : FsWorld) (directory : Path) (backupId : String)
    (selected : SelectedBackup) : Prop where
  payload : Shows w (directory ++ [managedFile backupId .yaml]) selected.snapshot
  manifest : ∃ raw, w.files (directory ++ [managedFile backupId .json]) = some raw ∧
    parseManifest libraries.manifests raw = .ok selected.manifest
  named : selected.manifest.backupId = backupId

/-- The pair that is returned is what the two files hold, intact where integrity is required. -/
theorem loadPair_returns (directory : Path) (backupId : String) (requireIntegrity : Bool)
    (w : FsWorld) : (loadPair libraries uid directory backupId requireIntegrity).Ensures FsStep w
      (Returns (fun selected => Loaded libraries w directory backupId selected ∧
        (requireIntegrity = true → selected.intact = true)) w) := by
  have hread : (readPair libraries uid directory backupId).Ensures FsStep w
      (Returns (fun selected => Shows w (directory ++ [managedFile backupId .yaml]) selected.snapshot ∧
        ∃ raw, w.files (directory ++ [managedFile backupId .json]) = some raw ∧
          parseManifest libraries.manifests raw = .ok selected.manifest) w) := by
    refine Returns.bind (readSecureFile_returns uid _ maxManifestBytes w) fun raw w₁ hraw h₁ => ?_
    refine Returns.bind (readSecureFile_returns uid _ maxYamlBytes w₁) fun source w₂ hsource _ => ?_
    refine Returns.bind (returns_ofExcept fun m h => h) fun m w₃ hmanifest _ => ?_
    exact returns_pure ⟨⟨h₁.files ▸ hsource.1, hsource.2⟩, raw.data, hraw.1, hmanifest⟩
  refine hread.catching_bind fun r w₁ hr => ?_
  cases r with
  | error e =>
    exact ensures_ite (fun _ => ensures_raise.mpr (.error hr.1 _)) fun _ =>
      ensures_raise.mpr (.error hr.1 _)
  | ok selected =>
    obtain ⟨hpayload, hmanifest⟩ := hr.2 selected rfl
    refine ensures_ite (fun _ => ensures_raise.mpr (.error hr.1 _)) fun hnamed => ?_
    refine ensures_ite (fun _ => ensures_raise.mpr (.error hr.1 _)) fun hintact => ?_
    refine ensures_pure.mpr ⟨hr.1, fun _ heq => ?_⟩
    cases heq
    refine ⟨⟨hpayload, hmanifest, Decidable.not_not.mp hnamed⟩, fun hrequired => ?_⟩
    rw [hrequired, Bool.true_and, Bool.not_eq_true', Bool.not_eq_false] at hintact
    exact hintact

/-- The backup that is returned is intact. -/
theorem loadBackup_returns (directory : Path) (backupId : String) (w : FsWorld) :
    (loadBackup libraries uid directory backupId).Ensures FsStep w (Returns (fun selected =>
      Loaded libraries w directory backupId selected ∧ selected.intact = true) w) := by
  refine Returns.bind (Returns.of_keeps (keeps_ofExcept Quiet.refl _) w) fun _ w₁ _ h₁ => ?_
  refine (loadPair_returns libraries uid directory backupId true w₁).mono fun r w₂ h => ?_
  refine ⟨h.1, fun selected hr => ?_⟩
  obtain ⟨⟨hpayload, hmanifest, hnamed⟩, hintact⟩ := h.2 selected hr
  refine ⟨⟨⟨h₁.files ▸ hpayload.1, hpayload.2⟩, ?_, hnamed⟩, hintact rfl⟩
  rwa [h₁.files] at hmanifest

/-- A publication that verifies left exactly the expected bytes. -/
theorem verifyPublished_returns (config : FilePath) (expected : Bytes)
    (expectedProfileId : Option String) (w : FsWorld) :
    (verifyPublished libraries uid config expected expectedProfileId).Ensures FsStep w
      (Returns (fun _ => w.files config.path = some expected) w) := by
  refine Returns.bind (readSecureFile_returns uid config.path maxYamlBytes w)
    fun snapshot w₁ hshows _ => ?_
  refine ensures_ite (fun _ => ensures_raise.mpr (.error (Quiet.refl w₁) _)) fun hsame => ?_
  have hdata : snapshot.data = expected := Decidable.not_not.mp fun hne => hsame (.inl hne)
  refine Returns.bind (Returns.of_keeps (keeps_ofExcept Quiet.refl _) w₁) fun _ w₂ _ _ => ?_
  exact returns_pure (hdata ▸ hshows.1)

/-! ## Publishing -/

section Replace

variable {data : Bytes} {r : Except FsException Unit}

/-- A replacement of the active file is inside the frame. -/
theorem ReplaceEnd.frame (h : ReplaceEnd w i.config.parent i.config.path data r w')
    (htouches : Touches (Replaced i.config.parent i.config.path) w w') : Frame i w w' where
  touched := htouches.mono fun _ hpath => .inl hpath
  kept path hpath hexists := by
    cases h with
    | refused e quiet => exact congrFun quiet.files path
    | removed e content hfresh pair hremoved => exact hremoved.keeps hfresh.2 hexists
    | published r pair hr files => rw [files, Function.update_of_ne hpath]
    | leaked e pair hfails huntidy hkeeps => exact hkeeps path hexists
  managed path hpath := by
    refine htouches path ?_
    rintro (rfl | ⟨token, rfl⟩)
    · exact i.apart hpath
    · exact not_isManaged_dotted (temporaryName_head token) hpath

/-- The destination holds its old bytes or the new ones, never a mixture. -/
theorem ReplaceEnd.active {parent destination : Path}
    (h : ReplaceEnd w parent destination data r w') (hexists : w.files destination ≠ none) :
    w'.files destination = w.files destination ∨ w'.files destination = some data := by
  cases h with
  | refused e quiet => exact .inl (congrFun quiet.files _)
  | removed e content hfresh pair hremoved => exact .inl (hremoved.keeps hfresh.2 hexists)
  | published r pair hr files =>
    rw [files, Function.update_self]
    exact .inr rfl
  | leaked e pair hfails huntidy hkeeps => exact .inl (hkeeps _ hexists)

/-- After a replacement that reported success the destination holds the new bytes. -/
theorem ReplaceEnd.of_ok {parent destination : Path}
    (h : ReplaceEnd w parent destination data (.ok ()) w') : w'.files destination = some data := by
  cases h with
  | published r pair hr files => rw [files, Function.update_self]

/-- A publication is hidden only by a failed close of the directory. -/
theorem ReplaceEnd.of_error {parent destination : Path} {e : FsException}
    (h : ReplaceEnd w parent destination data (.error e) w') (hexists : w.files destination ≠ none)
    (he : e ≠ .atomicWrite true) :
    w'.files destination = w.files destination ∨ CloseFails w w' := by
  cases h with
  | refused e quiet => exact .inl (congrFun quiet.files _)
  | removed e content hfresh pair hremoved => exact .inl (hremoved.keeps hfresh.2 hexists)
  | @published _ d b r pair hr files =>
    have hclose : b = false := by
      refine Bool.eq_false_of_not_eq_true fun hb => ?_
      rcases hr hb with hok | hpublished
      · cases hok
      · exact he (Except.error.inj hpublished)
    have hopened := pair.opened
    refine .inr ⟨d, pair.start, by omega, ?_⟩
    rw [pair.directory.2, hclose]
    exact List.mem_singleton.mpr rfl
  | leaked e pair hfails huntidy hkeeps => exact .inl (hkeeps _ hexists)

/-- What the replacement of the active file does, on every path. -/
theorem atomicReplace_replaces (expected : Option FileIdentity) (w : FsWorld) :
    (atomicReplace uid i.config.parent i.config.name data expected).Ensures FsStep w fun r w' =>
      ReplaceEnd w i.config.parent i.config.path data r w' ∧ Frame i w w' := by
  refine ((atomicReplace_ends uid _ _ data expected).and
    (atomicReplace_touches uid _ _ data expected w)).mono ?_
  exact fun r w' h => ⟨h.1, h.1.frame h.2⟩

end Replace

/-- How publishing ends: what it reports about the active file. -/
inductive PublishEnd (i : Installation) (old replacement : Bytes) (w w' : FsWorld) :
    Option ProfileCommandResult → Prop
  | published (h : w'.files i.config.path = some replacement) : PublishEnd i old replacement w w' none
  | restored (h : w'.files i.config.path = some old) :
      PublishEnd i old replacement w w' (some restoredResult)
  | unrestored : PublishEnd i old replacement w w' (some restorationFailedResult)
  | failed (reason : ProfileReason) (h : w'.files i.config.path = some old ∨ CloseFails w w') :
      PublishEnd i old replacement w w' (some (invalidResult reason))

/-- The active file holds one of two texts. -/
def Holds (i : Installation) (w : FsWorld) (old replacement : Bytes) : Prop :=
  w.files i.config.path = some old ∨ w.files i.config.path = some replacement

theorem Holds.ne_none {old replacement : Bytes} (h : Holds i w old replacement) :
    w.files i.config.path ≠ none := by
  rcases h with h | h <;> exact h ▸ Option.some_ne_none _

/-- The recovery reports a restoration exactly of the bytes that are back in place. -/
theorem recoverPrevious_ends {previous : SecureFileSnapshot} {replacement : Bytes}
    (hholds : Holds i w previous.data replacement) :
    (recoverPrevious libraries uid i.config previous).Ensures FsStep w fun r w' =>
      Frame i w w' ∧ Holds i w' previous.data replacement ∧
        (r = .ok restoredResult ∧ w'.files i.config.path = some previous.data ∨
          r = .ok restorationFailedResult) := by
  have hbody : (do
      atomicReplace uid i.config.parent i.config.name previous.data none
      verifyPublished libraries uid i.config previous.data none : Fs Unit).Ensures FsStep w
        fun r w' => Frame i w w' ∧ Holds i w' previous.data replacement ∧
          (r = .ok () → w'.files i.config.path = some previous.data) := by
    have hactive : ∀ {w₁ r}, ReplaceEnd w i.config.parent i.config.path previous.data r w₁ →
        Holds i w₁ previous.data replacement := by
      intro w₁ r h
      rcases h.active hholds.ne_none with hsame | hdata
      · unfold Holds
        rwa [hsame]
      · exact .inl hdata
    refine (atomicReplace_replaces uid none w).bind (fun _ w₁ h => ?_) fun e w₁ h =>
      ⟨h.2, hactive h.1, nofun⟩
    refine (verifyPublished_returns libraries uid i.config previous.data none w₁).mono ?_
    rintro r w₂ ⟨hquiet, -⟩
    have hfiles : w₂.files i.config.path = w₁.files i.config.path := congrFun hquiet.files _
    refine ⟨h.2.trans (frame_of_files hquiet.files), ?_, fun _ => hfiles.trans h.1.of_ok⟩
    exact .inl (hfiles.trans h.1.of_ok)
  refine hbody.catching_bind ?_
  rintro r w' ⟨hframe, hactive, hok⟩
  cases r with
  | ok _ => exact ensures_pure.mpr ⟨hframe, hactive, .inl ⟨rfl, hok rfl⟩⟩
  | error e => exact ensures_pure.mpr ⟨hframe, hactive, .inr rfl⟩

/-- The publication ends with the old bytes or the new ones, and its result tells which. -/
theorem publishWithRecovery_ends {previous : SecureFileSnapshot} (replacement : Bytes)
    (identity : FileIdentity) (expectedProfileId : Option String)
    (hold : w.files i.config.path = some previous.data) :
    (publishWithRecovery libraries uid i.config replacement previous identity
      expectedProfileId).Ensures FsStep w fun r w' =>
        Frame i w w' ∧ Holds i w' previous.data replacement ∧
          ∃ failure, r = .ok failure ∧ PublishEnd i previous.data replacement w w' failure := by
  have hexists : w.files i.config.path ≠ none := hold ▸ Option.some_ne_none _
  -- the `try` statement, with what its exceptions tell the handlers
  have htry : (publish libraries uid i.config replacement identity expectedProfileId).Ensures FsStep w
      fun r w' => Frame i w w' ∧ Holds i w' previous.data replacement ∧ ∃ p, r = .ok p ∧
        (p.1 = .ok () → w'.files i.config.path = some replacement) ∧
        ∀ e reason, p.1 = .error e → publicationFailure p.2 e = some reason →
          w'.files i.config.path = some previous.data ∨ CloseFails w w' := by
    refine (atomicReplace_replaces uid (some identity) w).catching_bind ?_
    rintro r w₁ ⟨hend, hframe⟩
    have hactive : Holds i w₁ previous.data replacement := by
      rcases hend.active hexists with hsame | hdata
      · exact .inl (hsame.trans hold)
      · exact .inr hdata
    cases r with
    | error e =>
      refine ensures_pure.mpr ⟨hframe, hactive, _, rfl, nofun, ?_⟩
      rintro _ reason ⟨⟩ hreason
      have he : e ≠ .atomicWrite true := by
        rintro rfl
        cases hreason
      exact (hend.of_error hexists he).imp (fun hsame => hsame.trans hold) id
    | ok _ =>
      have hverify :=
        (verifyPublished_returns libraries uid i.config replacement expectedProfileId w₁).and
        (plain_verifyPublished libraries uid i.config replacement expectedProfileId w₁)
      refine hverify.catching_bind ?_
      rintro r w₂ ⟨⟨hquiet, -⟩, hplain⟩
      have hfiles : w₂.files i.config.path = some replacement :=
        (congrFun hquiet.files _).trans hend.of_ok
      refine ensures_pure.mpr ⟨hframe.trans (frame_of_files hquiet.files), .inr hfiles, _, rfl,
        fun _ => hfiles, ?_⟩
      -- once published, only an exception of a replacement would end without a recovery
      rintro e reason rfl hreason
      have he := hplain e rfl
      cases e with
      | atomicWrite published => exact he.elim
      | busy => exact he.elim
      | os e => cases hreason
      | profile r => cases hreason
      | valueError => cases hreason
  refine htry.bind ?_ ?_
  · rintro ⟨result, published⟩ w₁ ⟨hframe, hactive, _, ⟨⟩, hok, hfailure⟩
    cases result with
    | ok _ => exact ensures_pure.mpr ⟨hframe, hactive, _, rfl, .published (hok rfl)⟩
    | error e =>
      dsimp only
      split
      case h_1 reason hreason =>
        exact ensures_pure.mpr ⟨hframe, hactive, _, rfl, .failed reason (hfailure e reason rfl hreason)⟩
      case h_2 =>
        refine (recoverPrevious_ends libraries uid hactive).bind ?_ ?_
        · rintro result w₂ ⟨hframe', hactive', hend⟩
          refine ensures_pure.mpr ⟨hframe.trans hframe', hactive', _, rfl, ?_⟩
          rcases hend with ⟨heq, hrestored⟩ | heq
          · obtain rfl := Except.ok.inj heq
            exact .restored hrestored
          · obtain rfl := Except.ok.inj heq
            exact .unrestored
        · rintro e w₂ ⟨-, -, ⟨heq, -⟩ | heq⟩ <;> cases heq
  · rintro e w₁ ⟨-, -, _, ⟨⟩, -⟩

/-! ## How a mutation ends -/

/-- What a mutation installs: a profile of a directory, or the payload of a backup. -/
inductive Target
  | profile (directory : Path) (profileId : String)
  | backup (backupId : String)

namespace Target

/-- What the backup before this activation is taken for. -/
def operation : Target → BackupOperation
  | profile _ _ => .apply
  | backup _ => .rollback

/-- The profile that is activated. -/
def profileId? : Target → Option String
  | profile _ profileId => some profileId
  | backup _ => none

/-- The backup that is activated. -/
def backupId? : Target → Option String
  | profile _ _ => none
  | backup backupId => some backupId

/-- What a successful activation reports. -/
def success : Target → ProfileCommandResult
  | profile _ profileId => appliedResult profileId
  | backup backupId => rolledBackResult backupId

/-- What is reported while another mutation is in progress. -/
def busy (target : Target) : ProfileCommandResult := busyResult target.profileId? target.backupId?

/-- The backup that is made of the active file. -/
def request (target : Target) (active : SecureFileSnapshot) (maximumBackups : Int) : BackupRequest :=
  ⟨active, target.operation, maximumBackups, target.profileId?, target.backupId?⟩

/-- The files that are read are there. -/
def Present (i : Installation) (w : FsWorld) : Target → Prop
  | profile directory profileId => w.files (profilePath directory profileId) ≠ none
  | backup backupId => ∀ extension, w.files (i.backups ++ [managedFile backupId extension]) ≠ none

/-- These are the bytes that are installed: they passed every validation, and those of a backup are
the ones that its manifest describes. -/
def Source (i : Installation) (w : FsWorld) : Target → Bytes → Prop
  | profile directory profileId, data => w.files (profilePath directory profileId) = some data ∧
      ∃ document, validateYaml libraries data (some profileId) = .ok document
  | backup backupId, data => ∃ selected, Loaded libraries w i.backups backupId selected ∧
      selected.intact = true ∧ selected.snapshot.data = data ∧
      ∃ document, validateYaml libraries data none = .ok document

end Target

/-- The previous bytes were saved under a new identifier. -/
structure BackedUp (i : Installation) (target : Target) (w w' : FsWorld) (old : Bytes)
    (m : BackupManifest) : Prop where
  saved : Saved w' i.backups m old
  new : m.backupId ∉ managedIds w i.backups
  identifiers : managedIds w' i.backups = insert m.backupId (managedIds w i.backups)
  sourceSha256 : m.sourceSha256 = hexdigest old
  sourceByteCount : m.sourceByteCount = old.length
  operation : m.operation = target.operation
  targetProfileId : m.targetProfileId = target.profileId?
  targetBackupId : m.targetBackupId = target.backupId?

/-- Every way a mutation can end, by what it reports. -/
inductive MutationEnd (i : Installation) (target : Target) (w w' : FsWorld) :
    ProfileCommandResult → Prop
  | noChange {directory : Path} {profileId : String} {old : Bytes}
      (htarget : target = .profile directory profileId)
      (hold : w.files i.config.path = some old) (source : target.Source libraries i w old)
      (active : w'.files i.config.path = some old)
      (identifiers : managedIds w' i.backups = managedIds w i.backups) :
      MutationEnd i target w w' (noChangeResult profileId)
  | activated {old data : Bytes} {m : BackupManifest} (hold : w.files i.config.path = some old)
      (source : target.Source libraries i w data) (active : w'.files i.config.path = some data)
      (backedUp : BackedUp i target w w' old m)
      (changes : target.operation = .apply → old ≠ data) : MutationEnd i target w w' target.success
  | restored {old : Bytes} {m : BackupManifest} (hold : w.files i.config.path = some old)
      (active : w'.files i.config.path = some old) (backedUp : BackedUp i target w w' old m) :
      MutationEnd i target w w' restoredResult
  | unrestored {old : Bytes} {m : BackupManifest} (hold : w.files i.config.path = some old)
      (backedUp : BackedUp i target w w' old m) : MutationEnd i target w w' restorationFailedResult
  | busy (active : w'.files i.config.path = w.files i.config.path)
      (identifiers : managedIds w' i.backups = managedIds w i.backups) :
      MutationEnd i target w w' target.busy
  /-- A refusal leaves the active file alone, but for a failed close. -/
  | refused (reason : ProfileReason)
      (active : w'.files i.config.path = w.files i.config.path ∨ CloseFails w w') :
      MutationEnd i target w w' (invalidResult reason)

/-- What holds after a mutation, whatever it reports. -/
structure Bounded (i : Installation) (target : Target) (maximumBackups : Int) (w w' : FsWorld) :
    Prop where
  touched : Touches i.Owns w w'
  kept : ∀ path, path ≠ i.config.path → w.files path ≠ none → w'.files path = w.files path
  /-- Where the active file was replaced, it holds what was asked for, and its bytes are saved. -/
  active : w'.files i.config.path = w.files i.config.path ∨
    ∃ old data m, w.files i.config.path = some old ∧ target.Source libraries i w data ∧
      w'.files i.config.path = some data ∧ BackedUp i target w w' old m
  identifiers : managedIds w' i.backups = managedIds w i.backups ∨
    HasRoom w i.backups maximumBackups ∧
      ∃ identifier, managedIds w' i.backups = insert identifier (managedIds w i.backups)

variable {libraries} {target : Target} {maximumBackups : Int}

/-- What was read of the target after a step was there before it, if the step keeps existing
    files. -/
theorem Target.Source.congr {data : Bytes} (h : target.Source libraries i w' data)
    (hpresent : target.Present i w)
    (hkeeps : ∀ path, w.files path ≠ none → w'.files path = w.files path) :
    target.Source libraries i w data := by
  cases target with
  | profile directory profileId => exact ⟨(hkeeps _ hpresent).symm.trans h.1, h.2⟩
  | backup backupId =>
    obtain ⟨selected, ⟨hpayload, ⟨raw, hraw, hparse⟩, hnamed⟩, hintact, hdata, hvalid⟩ := h
    refine ⟨selected, ⟨⟨?_, hpayload.2⟩, ⟨raw, ?_, hparse⟩, hnamed⟩, hintact, hdata, hvalid⟩
    · exact (hkeeps _ (hpresent .yaml)).symm.trans hpayload.1
    · exact (hkeeps _ (hpresent .json)).symm.trans hraw

/-! ## Saving -/

/-- Writing a pair under an unused identifier adds at most that identifier. -/
theorem TouchesId.managedIds {directory : Path} {identifier : String}
    (h : TouchesId directory identifier w w') (hunused : Unused w directory identifier) :
    managedIds w' directory = managedIds w directory ∨
      managedIds w' directory = insert identifier (managedIds w directory) := by
  have hother : ∀ other, other ≠ identifier →
      (other ∈ ConfigProfiles.managedIds w' directory ↔
        other ∈ ConfigProfiles.managedIds w directory) := by
    intro other hne
    rw [mem_managedIds, mem_managedIds]
    refine and_congr_right fun _ => exists_congr fun extension => ?_
    rw [h]
    rintro ⟨extension', heq⟩
    exact hne (managedFile_inj (List.cons.inj (List.append_cancel_left heq)).1).1
  by_cases hmem : identifier ∈ ConfigProfiles.managedIds w' directory
  · refine .inr (Set.ext fun other => ?_)
    by_cases hsame : other = identifier
    · subst hsame
      exact iff_of_true hmem (Set.mem_insert _ _)
    · rw [Set.mem_insert_iff, or_iff_right hsame]
      exact hother other hsame
  · refine .inl (Set.ext fun other => ?_)
    by_cases hsame : other = identifier
    · subst hsame
      exact iff_of_false hmem hunused.not_mem
    · exact hother other hsame

section SaveEnd

variable {directory : Path} {request : BackupRequest} {r : Except FsException BackupManifest}

/-- Writing a pair under an unused identifier overwrites no file. -/
theorem TouchesId.kept {identifier : String} (h : TouchesId directory identifier w w')
    (hunused : Unused w directory identifier) {path : Path} (hexists : w.files path ≠ none) :
    w'.files path = w.files path := by
  refine h path ?_
  rintro ⟨extension, rfl⟩
  exact hexists (hunused.2 extension)

theorem SaveEnd.kept (h : SaveEnd w directory request r w') {path : Path}
    (hexists : w.files path ≠ none) : w'.files path = w.files path := by
  cases h with
  | refused e files => rw [files]
  | failed e prepared touches => exact touches.kept prepared.unused hexists
  | saved prepared touches saved => exact touches.kept prepared.unused hexists

/-- The two files of a backup identifier are paths the installation owns. -/
theorem TouchesId.owned {identifier : String} (h : TouchesId i.backups identifier w w')
    (hid : isBackupId identifier = true) : Touches i.Owns w w' :=
  h.mono fun _ ⟨extension, heq⟩ => .inr (.inr ⟨identifier, extension, hid, heq⟩)

/-- Saving a backup changes only paths the installation owns. -/
theorem SaveEnd.touched (h : SaveEnd w i.backups request r w') : Touches i.Owns w w' := by
  cases h with
  | refused e files => exact touches_of_files files
  | failed e prepared touches => exact touches.owned prepared.unused.1
  | saved prepared touches saved => exact touches.owned prepared.unused.1

/-- Saving adds at most one identifier, and only while there is room for it. -/
theorem SaveEnd.identifiers (h : SaveEnd w directory request r w') :
    managedIds w' directory = managedIds w directory ∨ HasRoom w directory request.maximumBackups ∧
      ∃ identifier, managedIds w' directory = insert identifier (managedIds w directory) := by
  cases h with
  | refused e files => exact .inl (managedIds_congr files directory)
  | failed e prepared touches =>
    exact (touches.managedIds prepared.unused).imp_right fun h => ⟨prepared.room, _, h⟩
  | saved prepared touches saved =>
    exact (touches.managedIds prepared.unused).imp_right fun h => ⟨prepared.room, _, h⟩

end SaveEnd

/-- What a start world without other files would give is the same. -/
theorem SaveEnd.congr {v : FsWorld} {directory : Path} {request : BackupRequest}
    {r : Except FsException BackupManifest} (h : SaveEnd w directory request r w')
    (hfiles : w.files = v.files) : SaveEnd v directory request r w' := by
  have hprepared : ∀ {m}, Prepared w directory request m → Prepared v directory request m :=
    fun h => ⟨h.documents, h.unused.congr hfiles, h.room.congr hfiles⟩
  have htouches : ∀ {identifier}, TouchesId directory identifier w w' →
      TouchesId directory identifier v w' :=
    fun h path hpath => (h path hpath).trans (congrFun hfiles path)
  cases h with
  | refused e files => exact .refused e (files.trans hfiles)
  | failed e prepared touches => exact .failed e (hprepared prepared) (htouches touches)
  | saved prepared touches saved => exact .saved (hprepared prepared) (htouches touches) saved

/-- A save that went through is the backup the mutation promises. -/
theorem backedUp_of_saves {active : SecureFileSnapshot} {m : BackupManifest}
    (hsha : active.sha256 = hexdigest active.data)
    (prepared : Prepared w i.backups (target.request active maximumBackups) m)
    (touches : TouchesId i.backups m.backupId w w')
    (saved : Saved w' i.backups m active.data) : BackedUp i target w w' active.data m where
  saved := saved
  new := prepared.unused.not_mem
  identifiers := by
    have hmem : m.backupId ∈ managedIds w' i.backups := by
      refine mem_managedIds.mpr ⟨prepared.unused.1, .yaml, ?_⟩
      rw [saved.payload]
      exact Option.some_ne_none _
    rcases touches.managedIds prepared.unused with hsame | hinsert
    · exact absurd (hsame ▸ hmem) prepared.unused.not_mem
    · exact hinsert
  sourceSha256 := prepared.documents.sourceSha256.trans hsha
  sourceByteCount := prepared.documents.sourceByteCount
  operation := prepared.documents.operation
  targetProfileId := prepared.documents.targetProfileId
  targetBackupId := prepared.documents.targetBackupId

/-- The backup outlives whatever stays inside the frame. -/
theorem BackedUp.frame {old : Bytes} {m : BackupManifest} (h : BackedUp i target w w' old m)
    (hframe : Frame i w' w'') : BackedUp i target w w'' old m :=
  { h with
    saved := hframe.saved h.saved
    identifiers := hframe.managedIds.trans h.identifiers }

/-! ## Under the lock -/

/-- Meanwhile only descriptors were opened. -/
structure Since (w w' : FsWorld) : Prop where
  files : w'.files = w.files
  advances : Advances w w'

theorem Since.refl (w : FsWorld) : Since w w := ⟨rfl, .refl w⟩

/-- How the body of a locked mutation ends. -/
structure BodyEnd (libraries : ConfigurationLibraries) (i : Installation) (target : Target)
    (maximumBackups : Int) (w : FsWorld) (r : Except FsException ProfileCommandResult)
    (w' : FsWorld) : Prop where
  bounded : Bounded libraries i target maximumBackups w w'
  error : ∀ e, r = .error e → e.Plain ∧ w'.files i.config.path = w.files i.config.path
  ok : ∀ result, r = .ok result → MutationEnd libraries i target w w' result

theorem bounded_of_files (h : w'.files = w.files) :
    Bounded libraries i target maximumBackups w w' :=
  ⟨touches_of_files h, fun path _ _ => congrFun h path, .inl (congrFun h _),
    .inl (managedIds_congr h _)⟩

/-- A body goes on after a part that only reads. -/
theorem bodyEnd_bind {v : FsWorld} {x : Fs α} {f : α → Fs ProfileCommandResult} {P : α → Prop}
    (hv : Since w v) (hx : x.Ensures FsStep v (Returns P v)) (hplain : Plain x)
    (hf : ∀ a v', P a → Since w v' →
      (f a).Ensures FsStep v' (BodyEnd libraries i target maximumBackups w)) :
    (x >>= f).Ensures FsStep v (BodyEnd libraries i target maximumBackups w) := by
  have hsince : ∀ {r v'}, Returns P v r v' → Advances v v' → Since w v' := fun hr hadvances =>
    ⟨hr.1.files.trans hv.files, hv.advances.trans _ _ _ hadvances⟩
  refine ((hx.and (hplain v)).and (keeps_advances x v)).bind ?_ ?_
  · rintro a v' ⟨⟨hr, -⟩, hadvances⟩
    exact hf a v' (hr.2 a rfl) (hsince hr hadvances)
  · rintro e v' ⟨⟨hr, he⟩, hadvances⟩
    have hfiles := (hsince hr hadvances).files
    refine ⟨bounded_of_files hfiles, fun e' he' => ?_, fun _ h => by cases h⟩
    obtain rfl := Except.error.inj he'
    exact ⟨he e rfl, congrFun hfiles _⟩

/-- The shared tail of both mutations: back up, replace, verify and report. -/
theorem activate_ends (target : Target) (uid : Nat) (clock : Option Moment) {v : FsWorld}
    {active : SecureFileSnapshot} {data : Bytes} (identity : FileIdentity)
    (expectedProfileId : Option String) (hv : Since w v) (hactive : Shows w i.config.path active)
    (hsource : target.Source libraries i w data)
    (hchanges : target.operation = .apply → active.data ≠ data) :
    (activate libraries uid clock i.config i.backups (target.request active maximumBackups) data
      identity expectedProfileId target.success).Ensures FsStep v
        (BodyEnd libraries i target maximumBackups w) := by
  have hexists : w.files i.config.path ≠ none := hactive.1 ▸ Option.some_ne_none _
  refine (((createBackup_saves uid i.backups _ clock v).and
    (plain_createBackup uid i.backups _ clock v)).and (keeps_advances _ v)).bind ?_ ?_
  · rintro m u ⟨⟨hsave, -⟩, hadvances⟩
    replace hsave := hsave.congr hv.files
    have hstart : u.files i.config.path = some active.data := (hsave.kept hexists).trans hactive.1
    have htouched := hsave.touched
    have hidentifiers := hsave.identifiers
    have hkept := fun path (hpath : w.files path ≠ none) => hsave.kept hpath
    cases hsave with
    | saved prepared touches saved =>
      have hbacked := backedUp_of_saves hactive.2 prepared touches saved
      refine (publishWithRecovery_ends libraries uid data identity expectedProfileId hstart).bind ?_ ?_
      · rintro failure w' ⟨hframe, hholds, _, ⟨⟩, hend⟩
        replace hbacked := hbacked.frame hframe
        refine ensures_pure.mpr ⟨⟨Touches.trans _ _ _ htouched hframe.touched,
          fun path hpath hthere => ?_, ?_, ?_⟩, fun _ h => (by cases h), fun result hresult => ?_⟩
        · rw [hframe.kept path hpath ((hkept path hthere).symm ▸ hthere), hkept path hthere]
        · exact hholds.imp (fun h => h.trans hactive.1.symm) fun h =>
            ⟨active.data, data, _, hactive.1, hsource, h, hbacked⟩
        · rwa [hframe.managedIds]
        · obtain rfl := Except.ok.inj hresult
          cases hend with
          | published h => exact .activated hactive.1 hsource h hbacked hchanges
          | restored h => exact .restored hactive.1 h hbacked
          | unrestored => exact .unrestored hactive.1 hbacked
          | failed reason h =>
            refine .refused reason (h.imp (fun h => h.trans hactive.1.symm) fun h => ?_)
            exact h.earlier (hv.advances.trans _ _ _ hadvances)
      · rintro e w' ⟨-, -, _, ⟨⟩, -⟩
  · rintro e u ⟨⟨hsave, hplain⟩, -⟩
    replace hsave := hsave.congr hv.files
    refine ⟨⟨hsave.touched, fun path _ hthere => hsave.kept hthere, .inl (hsave.kept hexists),
      hsave.identifiers⟩, fun e' he' => ?_, fun _ h => by cases h⟩
    obtain rfl := Except.error.inj he'
    exact ⟨hplain e rfl, hsave.kept hexists⟩

/-- The file is read once more, and must not have changed. -/
theorem plain_requireSnapshotUnchanged (expected actual : SecureFileSnapshot) (reason : ProfileReason) :
    Plain (ofExcept (requireSnapshotUnchanged expected actual reason)) :=
  (reasoned_requireSnapshotUnchanged expected actual reason).plain

/-- What applying a profile does while the lock is held. -/
theorem applyLocked_ends (uid : Nat) (clock : Option Moment) (directory : Path)
    (profileId : String) (w : FsWorld) :
    (applyLocked libraries uid clock i.config directory i.backups profileId maximumBackups).Ensures
      FsStep w (BodyEnd libraries i (.profile directory profileId) maximumBackups w) := by
  refine bodyEnd_bind (.refl w) (loadActive_returns libraries uid i.config w)
    (plain_loadActive libraries uid i.config) fun ⟨active, _⟩ v₁ hactive h₁ => ?_
  refine bodyEnd_bind h₁ (loadProfile_returns libraries uid directory profileId v₁)
    (plain_loadProfile libraries uid directory profileId) fun ⟨candidate, document⟩ v₂ hprofile h₂ => ?_
  obtain ⟨hactive, -⟩ := hactive
  obtain ⟨hcandidate, hvalid⟩ := hprofile
  have hsource : Target.Source libraries i w (.profile directory profileId) candidate.data :=
    ⟨h₁.files ▸ hcandidate.1, document, hvalid⟩
  refine ensures_ite (fun hsame => ?_) fun hchanged => ?_
  · -- nothing to do
    replace hsame : active.data = candidate.data := hsame
    have hfiles := h₂.files
    refine ensures_pure.mpr ⟨bounded_of_files hfiles, fun _ h => (by cases h), fun result hresult => ?_⟩
    obtain rfl := Except.ok.inj hresult
    exact .noChange rfl hactive.1 (hsame ▸ hsource) ((congrFun hfiles _).trans hactive.1)
      (managedIds_congr hfiles _)
  · have hunchanged := fun (v : FsWorld) (expected actual : SecureFileSnapshot) reason =>
      Returns.of_keeps (keeps_ofExcept Quiet.refl
        (requireSnapshotUnchanged expected actual reason)) v
    refine bodyEnd_bind h₂ (readSecureFile_returns uid i.config.path maxYamlBytes v₂)
      (plain_readSecureFile uid _ _) fun currentActive v₃ _ h₃ => ?_
    refine bodyEnd_bind h₃ (readSecureFile_returns uid (profilePath directory profileId) maxYamlBytes v₃)
      (plain_readSecureFile uid _ _) fun currentCandidate v₄ _ h₄ => ?_
    refine bodyEnd_bind h₄ (hunchanged v₄ active currentActive .activeChanged)
      (plain_requireSnapshotUnchanged _ _ _) fun _ v₅ _ h₅ => ?_
    refine bodyEnd_bind h₅ (hunchanged v₅ candidate currentCandidate .profileChanged)
      (plain_requireSnapshotUnchanged _ _ _) fun _ v₆ _ h₆ => ?_
    exact activate_ends (.profile directory profileId) uid clock currentActive.identity
      (some profileId) h₆ hactive hsource fun _ => hchanged

/-- What rolling back to a backup does while the lock is held. -/
theorem rollbackLocked_ends (uid : Nat) (clock : Option Moment) (backupId : String) (w : FsWorld) :
    (rollbackLocked libraries uid clock i.config i.backups backupId maximumBackups).Ensures
      FsStep w (BodyEnd libraries i (.backup backupId) maximumBackups w) := by
  refine bodyEnd_bind (.refl w) (loadActive_returns libraries uid i.config w)
    (plain_loadActive libraries uid i.config) fun ⟨active, _⟩ v₁ hactive h₁ => ?_
  refine bodyEnd_bind h₁ (loadBackup_returns libraries uid i.backups backupId v₁)
    (plain_loadBackup libraries uid i.backups backupId) fun selected v₂ hselected h₂ => ?_
  refine bodyEnd_bind h₂ (returns_ofExcept (P := fun document =>
      validateYaml libraries selected.snapshot.data none = .ok document) fun document h => h)
    (plain_ofExcept (plainResult_validateYaml libraries _ _)) fun document v₃ hvalid h₃ => ?_
  obtain ⟨hactive, -⟩ := hactive
  obtain ⟨⟨hpayload, ⟨raw, hraw, hparse⟩, hnamed⟩, hintact⟩ := hselected
  have hsource : Target.Source libraries i w (.backup backupId) selected.snapshot.data :=
    ⟨selected, ⟨⟨h₁.files ▸ hpayload.1, hpayload.2⟩, ⟨raw, h₁.files ▸ hraw, hparse⟩, hnamed⟩,
      hintact, rfl, document, hvalid⟩
  have hunchanged := fun (v : FsWorld) (expected actual : SecureFileSnapshot) reason =>
    Returns.of_keeps (keeps_ofExcept Quiet.refl
      (requireSnapshotUnchanged expected actual reason)) v
  refine bodyEnd_bind h₃ (readSecureFile_returns uid i.config.path maxYamlBytes v₃)
    (plain_readSecureFile uid _ _) fun currentActive v₄ _ h₄ => ?_
  refine bodyEnd_bind h₄ (loadBackup_returns libraries uid i.backups backupId v₄)
    (plain_loadBackup libraries uid i.backups backupId) fun currentSelected v₅ _ h₅ => ?_
  refine bodyEnd_bind h₅ (hunchanged v₅ active currentActive .activeChanged)
    (plain_requireSnapshotUnchanged _ _ _) fun _ v₆ _ h₆ => ?_
  refine bodyEnd_bind h₆ (hunchanged v₆ selected.snapshot currentSelected.snapshot .backupInvalid)
    (plain_requireSnapshotUnchanged _ _ _) fun _ v₇ _ h₇ => ?_
  exact activate_ends (.backup backupId) uid clock currentActive.identity none h₇ hactive
    hsource nofun

/-! ## Around the lock -/

/-- Before the lock is taken, the files that the mutation reads are there. -/
structure Ready (i : Installation) (target : Target) (w : FsWorld) : Prop where
  active : w.files i.config.path ≠ none
  present : target.Present i w

/-- The worlds of a locked body: it starts at `v` and ends at `v'`. -/
structure Around (i : Installation) (w v v' w' : FsWorld) : Prop where
  made : LockMade i.backups w v
  before : Advances w v
  files : w'.files = v'.files
  after : Advances v' w'

section Around

variable {v v' : FsWorld}

/-- A failed close inside the lock is a failed close of the whole mutation. -/
theorem Around.closeFails (h : Around i w v v' w') (hfails : CloseFails v v') : CloseFails w w' :=
  (hfails.earlier h.before).later h.after

/-- The lock leaves the active configuration as it was. -/
theorem LockMade.start (h : LockMade i.backups w v) (hready : Ready i target w) :
    v.files i.config.path = w.files i.config.path := h.keeps hready.active

/-- The backup made under the lock is the backup of the whole mutation. -/
theorem BackedUp.around {old : Bytes} {m : BackupManifest} (h : BackedUp i target v v' old m)
    (hmade : LockMade i.backups w v) (hfiles : w'.files = v'.files) :
    BackedUp i target w w' old m := by
  have hids := (hmade.frame (i := i)).managedIds
  have hafter : BackedUp i target v w' old m := h.frame (frame_of_files hfiles)
  exact { hafter with
    new := hids ▸ hafter.new
    identifiers := hids ▸ hafter.identifiers }

/-- The end of the body is the end of the mutation around it. -/
theorem MutationEnd.around {result : ProfileCommandResult}
    (h : MutationEnd libraries i target v v' result) (haround : Around i w v v' w')
    (hready : Ready i target w) : MutationEnd libraries i target w w' result := by
  have hstart := haround.made.start hready
  have hend : w'.files i.config.path = v'.files i.config.path := congrFun haround.files _
  have hids : managedIds w' i.backups = managedIds v' i.backups := managedIds_congr haround.files _
  have hids' : managedIds v i.backups = managedIds w i.backups :=
    (haround.made.frame (i := i)).managedIds
  have hsource : ∀ {data}, target.Source libraries i v data → target.Source libraries i w data :=
    fun h => h.congr hready.present fun _ hexists => haround.made.keeps hexists
  cases h with
  | noChange htarget hold source active identifiers =>
    exact .noChange htarget (hstart ▸ hold) (hsource source) (hend.trans active)
      (hids.trans (identifiers.trans hids'))
  | activated hold source active backedUp changes =>
    exact .activated (hstart ▸ hold) (hsource source) (hend.trans active)
      (backedUp.around haround.made haround.files) changes
  | restored hold active backedUp =>
    exact .restored (hstart ▸ hold) (hend.trans active)
      (backedUp.around haround.made haround.files)
  | unrestored hold backedUp =>
    exact .unrestored (hstart ▸ hold) (backedUp.around haround.made haround.files)
  | busy active identifiers =>
    exact .busy ((hend.trans active).trans hstart) (hids.trans (identifiers.trans hids'))
  | refused reason active =>
    exact .refused reason (active.imp (fun h => (hend.trans h).trans hstart) haround.closeFails)

/-- The bounds of the body are the bounds of the mutation around it. -/
theorem Bounded.around (h : Bounded libraries i target maximumBackups v v')
    (hmade : LockMade i.backups w v) (hfiles : w'.files = v'.files) (hready : Ready i target w) :
    Bounded libraries i target maximumBackups w w' where
  touched := Touches.trans _ _ _ (Touches.trans _ _ _ hmade.touched h.touched)
    (touches_of_files hfiles)
  kept path hpath hexists := by
    have hsame := hmade.keeps hexists
    rw [hfiles, h.kept path hpath (hsame ▸ hexists), hsame]
  active := by
    have hstart := hmade.start hready
    rw [hfiles, ← hstart]
    refine h.active.imp_right fun ⟨old, data, m, hold, hsource, hdata, hbacked⟩ => ?_
    refine ⟨old, data, m, hold, ?_, hdata, hbacked.around hmade hfiles⟩
    exact hsource.congr hready.present fun _ hexists => hmade.keeps hexists
  identifiers := by
    have hids := (hmade.frame (i := i)).managedIds
    rw [managedIds_congr hfiles, ← hids]
    refine h.identifiers.imp_right fun hmore => ⟨?_, hmore.2⟩
    obtain ⟨⟨n, hn, hroom⟩, -⟩ := hmore
    exact ⟨n, hids ▸ hn, hroom⟩

end Around

/-- How a mutation ends before its handlers: they turn what it raises into a result. -/
structure CommandEnd (libraries : ConfigurationLibraries) (i : Installation) (target : Target)
    (maximumBackups : Int) (onValueError : ProfileReason) (w : FsWorld)
    (r : Except FsException ProfileCommandResult) (w' : FsWorld) : Prop where
  bounded : Bounded libraries i target maximumBackups w w'
  handled : MutationEnd libraries i target w w' (reportedUnlessBusy onValueError target.busy r)

variable {onValueError : ProfileReason}

/-- An exception other than that of a busy lock is a refusal. -/
theorem reportedUnlessBusy_error (onValueError : ProfileReason) (onBusy : ProfileCommandResult)
    {e : FsException} (he : e ≠ .busy) :
    ∃ reason, reportedUnlessBusy onValueError onBusy (.error e) = invalidResult reason := by
  cases e with
  | os e => exact ⟨_, rfl⟩
  | profile reason => exact ⟨_, rfl⟩
  | busy => exact absurd rfl he
  | atomicWrite published => exact ⟨_, rfl⟩
  | valueError => exact ⟨_, rfl⟩

/-- A body that raised before it published anything ends the command as a refusal. -/
theorem commandEnd_of_error (e : FsException)
    (hbounded : Bounded libraries i target maximumBackups w w')
    (hsame : w'.files i.config.path = w.files i.config.path)
    (hids : managedIds w' i.backups = managedIds w i.backups) :
    CommandEnd libraries i target maximumBackups onValueError w (.error e) w' := by
  refine ⟨hbounded, ?_⟩
  by_cases he : e = .busy
  · subst he
    exact .busy hsame hids
  · obtain ⟨reason, hreason⟩ := reportedUnlessBusy_error onValueError target.busy he
    rw [hreason]
    exact .refused reason (.inl hsame)

/-- A command that changed no file may end in any exception. -/
theorem commandEnd_of_files (e : FsException) (h : w'.files = w.files) :
    CommandEnd libraries i target maximumBackups onValueError w (.error e) w' :=
  commandEnd_of_error e (bounded_of_files h) (congrFun h _) (managedIds_congr h _)

/-- Only the lock itself reports that it is busy. -/
theorem FsException.Plain.lockFailure {e : FsException} (h : e.Plain) :
    lockFailure e ≠ .busy := by
  cases e with
  | os e => exact fun heq => by cases heq
  | profile reason => exact fun heq => by cases heq
  | busy => exact h.elim
  | atomicWrite published => exact h.elim
  | valueError => exact fun heq => by cases heq

/-- The lock around a body keeps what the body promises. -/
theorem mutationLock_commandEnd {body : Fs ProfileCommandResult} (uid : Nat)
    (onValueError : ProfileReason) (hready : Ready i target w) (hbody : ∀ v, body.Ensures FsStep v
      (BodyEnd libraries i target maximumBackups v)) :
    (mutationLock uid i.backups body).Ensures FsStep w
      (CommandEnd libraries i target maximumBackups onValueError w) := by
  refine (mutationLock_ends (Q := BodyEnd libraries i target maximumBackups)
    fun v _ => hbody v).mono fun r w' hend => ?_
  cases hend with
  | refused e made =>
    have hframe := made.frame (i := i)
    have hsame := made.keeps hready.active
    exact commandEnd_of_error e ⟨hframe.touched, hframe.kept, .inl hsame, .inl hframe.managedIds⟩
      hsame hframe.managedIds
  | @ran v v' _ rb result made advances body files hides =>
    have hbounded := body.bounded.around made files hready
    refine ⟨hbounded, ?_⟩
    rcases hides with ⟨hafter, rfl⟩ | ⟨⟨e, rfl⟩, hfails⟩
    · have haround : Around i w v v' w' := ⟨made, advances, files, hafter⟩
      cases rb with
      | ok result => exact (body.ok result rfl).around haround hready
      | error e =>
        obtain ⟨hplain, hsame⟩ := body.error e rfl
        obtain ⟨reason, hreason⟩ := reportedUnlessBusy_error onValueError target.busy
          hplain.lockFailure
        have hactive : w'.files i.config.path = w.files i.config.path := by
          rw [files, hsame, made.start hready]
        show MutationEnd libraries i target w w'
          (reportedUnlessBusy onValueError target.busy (.error (lockFailure e)))
        rw [hreason]
        exact .refused reason (.inl hactive)
    · -- the release failed, and hides what the body reported
      exact .refused .filesystemBoundary (.inr hfails)

/-! ## The operations -/

/-- The arguments of a mutation are valid, and it was confirmed. -/
def Confirmed (valid : Bool) (name confirmation : String) (maximum : Int) : Prop :=
  valid = true ∧ confirmation = name ∧ minimumBackups ≤ maximum ∧ maximum ≤ ConfigProfiles.maximumBackups

/-- What a mutation guarantees: without a confirmation it touches nothing, it stays within its
bounds, and its result says how it ended. -/
structure Accounts (libraries : ConfigurationLibraries) (i : Installation) (target : Target)
    (maximumBackups : Int) (confirmed : Prop) (w w' : FsWorld) (result : ProfileCommandResult) :
    Prop where
  authorized : w'.files = w.files ∨ confirmed
  bounded : Bounded libraries i target maximumBackups w w'
  ends : MutationEnd libraries i target w w' result

/-- The checks before the lock may be counted in, as they change nothing. -/
theorem CommandEnd.since {v : FsWorld} {r : Except FsException ProfileCommandResult}
    (h : CommandEnd libraries i target maximumBackups onValueError v r w') (hsince : Since w v)
    (hready : Ready i target w) : CommandEnd libraries i target maximumBackups onValueError w r w' where
  bounded := h.bounded.around (.inl hsince.files) rfl hready
  handled := h.handled.around ⟨.inl hsince.files, hsince.advances, rfl, .refl w'⟩ hready

/-- The body of a mutation: what it raises before anything is read, and the way to the lock. -/
theorem guarded_ends {valid : Except FsException Unit} {name confirmation : String} {isValid : Bool}
    {preflight : Fs Unit} {locked : Fs ProfileCommandResult} (uid : Nat)
    (hvalid : valid = .ok () → isValid = true)
    (hpreflight : preflight.Ensures FsStep w (Returns (fun _ => Ready i target w) w))
    (hlocked : ∀ v, locked.Ensures FsStep v (BodyEnd libraries i target maximumBackups v)) :
    (do
      ofExcept valid
      ofExcept (requireMaximumBackups maximumBackups)
      if confirmation ≠ name then return invalidResult .confirmationMismatch
      preflight
      mutationLock uid i.backups locked : Fs ProfileCommandResult).Ensures FsStep w fun r w' =>
        CommandEnd libraries i target maximumBackups onValueError w r w' ∧
          (w'.files = w.files ∨ Confirmed isValid name confirmation maximumBackups) := by
  -- every check before the lock ends the command with the files as they were
  have hunchanged : ∀ {w₁ : FsWorld} (e : FsException), w₁.files = w.files →
      CommandEnd libraries i target maximumBackups onValueError w (.error e) w₁ ∧
        (w₁.files = w.files ∨ Confirmed isValid name confirmation maximumBackups) :=
    fun e h => ⟨commandEnd_of_files e h, .inl h⟩
  refine ensures_bind.mpr (ensures_ofExcept.mpr ?_)
  cases hchecked : valid with
  | error e => exact hunchanged e rfl
  | ok _ =>
    refine ensures_bind.mpr (ensures_ofExcept.mpr ?_)
    cases hmaximum : requireMaximumBackups maximumBackups with
    | error e => exact hunchanged e rfl
    | ok _ =>
      refine ensures_ite (fun _ => ?_) fun hconfirmed => ?_
      · refine ensures_pure.mpr ⟨⟨bounded_of_files rfl, ?_⟩, .inl rfl⟩
        exact .refused .confirmationMismatch (.inl rfl)
      · have hrange : minimumBackups ≤ maximumBackups ∧
            maximumBackups ≤ ConfigProfiles.maximumBackups := by
          unfold requireMaximumBackups at hmaximum
          split at hmaximum
          case isTrue => cases hmaximum
          case isFalse hbounds =>
            rw [not_or] at hbounds
            exact ⟨Int.not_lt.mp hbounds.1, Int.not_lt.mp hbounds.2⟩
        -- all of them passed: the lock is taken under their authorization
        have hauthorized : Confirmed isValid name confirmation maximumBackups :=
          ⟨hvalid hchecked, Decidable.not_not.mp hconfirmed, hrange⟩
        refine (hpreflight.and (keeps_advances preflight w)).bind ?_ ?_
        · rintro _ w₁ ⟨⟨hquiet, hready⟩, hadvances⟩
          replace hready := hready () rfl
          have hsince : Since w w₁ := ⟨hquiet.files, hadvances⟩
          have hready' : Ready i target w₁ := by
            refine ⟨hquiet.files ▸ hready.active, ?_⟩
            cases target with
            | profile directory profileId =>
              show w₁.files (profilePath directory profileId) ≠ none
              rw [hquiet.files]
              exact hready.present
            | backup backupId =>
              intro extension
              rw [hquiet.files]
              exact hready.present extension
          refine (mutationLock_commandEnd uid onValueError hready' hlocked).mono fun r w' h => ?_
          exact ⟨h.since hsince hready, .inr hauthorized⟩
        · rintro e w₁ ⟨⟨hquiet, -⟩, -⟩
          exact hunchanged e hquiet.files

/-- The paths an application was checked for are usable. -/
theorem preflightApplyPaths_returns (uid : Nat) (directory : Path) (profileId : String)
    (w : FsWorld) : (preflightApplyPaths uid i.config directory i.backups profileId).Ensures FsStep w
      (Returns (fun _ => Ready i (.profile directory profileId) w) w) := by
  refine Returns.bind (Returns.of_keeps (keeps_validateDirectory uid _ _) w) fun _ w₁ _ h₁ => ?_
  refine Returns.bind (Returns.of_keeps (keeps_validateDirectory uid _ _) w₁) fun _ w₂ _ h₂ => ?_
  refine Returns.bind (Returns.of_keeps (keeps_validateDirectory uid _ _) w₂) fun _ w₃ _ h₃ => ?_
  have hfiles : w₃.files = w.files := (h₃.files.trans h₂.files).trans h₁.files
  refine Returns.bind (inspectSecureFile_returns uid _ maxYamlBytes w₃) fun _ w₄ hactive h₄ => ?_
  refine Returns.bind (inspectSecureFile_returns uid _ maxYamlBytes w₄) fun _ w₅ hprofile _ => ?_
  have hpresent : w.files (profilePath directory profileId) ≠ none := by
    rwa [h₄.files, hfiles] at hprofile
  exact returns_pure ⟨hfiles ▸ hactive, hpresent⟩

/-- The paths a rollback was checked for are usable. -/
theorem preflightRollbackPaths_returns (uid : Nat) (backupId : String) (w : FsWorld) :
    (preflightRollbackPaths uid i.config i.backups backupId).Ensures FsStep w
      (Returns (fun _ => Ready i (.backup backupId) w) w) := by
  refine Returns.bind (Returns.of_keeps (keeps_validateDirectory uid _ _) w) fun _ w₁ _ h₁ => ?_
  refine Returns.bind (Returns.of_keeps (keeps_validateDirectory uid _ _) w₁) fun _ w₂ _ h₂ => ?_
  have hfiles : w₂.files = w.files := h₂.files.trans h₁.files
  refine Returns.bind (inspectSecureFile_returns uid _ maxYamlBytes w₂) fun _ w₃ hactive h₃ => ?_
  refine Returns.bind (inspectSecureFile_returns uid _ maxYamlBytes w₃) fun _ w₄ hyaml h₄ => ?_
  refine Returns.bind (inspectSecureFile_returns uid _ maxManifestBytes w₄) fun _ w₅ hjson _ => ?_
  have hfiles' : w₃.files = w.files := h₃.files.trans hfiles
  have hfiles'' : w₄.files = w.files := h₄.files.trans hfiles'
  refine returns_pure ⟨hfiles ▸ hactive, fun extension => ?_⟩
  cases extension with
  | yaml => exact hfiles' ▸ hyaml
  | json => exact hfiles'' ▸ hjson

/-- The handlers turn every outcome of the body into a result. -/
theorem handling_ends {σ : Type} {step : σ → FsExchange → σ → Prop} {s : σ}
    {handlers : Except FsException ProfileCommandResult → ProfileCommandResult}
    {body : Fs ProfileCommandResult} {Q : Except FsException ProfileCommandResult → σ → Prop}
    (h : body.Ensures step s Q) : (handling handlers body).Ensures step s fun r s' =>
      ∃ inner, r = .ok (handlers inner) ∧ Q inner s' :=
  h.catching_bind fun inner _ hQ => ensures_pure.mpr ⟨inner, rfl, hQ⟩

/-- What an activation reports is what happened, whatever calls fail. -/
theorem apply_accounts (libraries : ConfigurationLibraries) (uid : Nat) (clock : Option Moment)
    (i : Installation) (directory : Path) (profileId confirmation : String) (maximumBackups : Int)
    (w : FsWorld) (x : Execution FsStep (applyProfile libraries uid clock i.config directory
      i.backups profileId confirmation maximumBackups) w) :
    ∃ result, x.result = .ok result ∧ Accounts libraries i (.profile directory profileId)
      maximumBackups (Confirmed (isProfileId profileId) profileId confirmation maximumBackups)
      w x.final result := by
  by_cases hid : isProfileId profileId = true
  case neg =>
    have hbody : (applyBody libraries uid clock i.config directory i.backups profileId confirmation
        maximumBackups).Ensures FsStep w fun r w' => r = .error .valueError ∧ w' = w := by
      unfold applyBody requireProfileId
      rw [if_neg hid]
      exact ⟨rfl, rfl⟩
    obtain ⟨inner, hresult, rfl, hfinal⟩ := (handling_ends hbody).execution x
    have hfiles : x.final.files = w.files := congrArg FsWorld.files hfinal
    refine ⟨_, hresult, .inl hfiles, bounded_of_files hfiles, ?_⟩
    exact .refused .invalidProfileId (.inl (congrFun hfiles _))
  case pos =>
    have hbusy : busyResult (if isProfileId profileId then some profileId else none) none =
        Target.busy (.profile directory profileId) := by
      rw [if_pos hid]
      rfl
    have hbody : (applyBody libraries uid clock i.config directory i.backups profileId confirmation
        maximumBackups).Ensures FsStep w fun r w' =>
          CommandEnd libraries i (.profile directory profileId) maximumBackups .invalidProfileId
            w r w' ∧ (w'.files = w.files ∨
              Confirmed (isProfileId profileId) profileId confirmation maximumBackups) :=
      guarded_ends uid (fun _ => hid) (preflightApplyPaths_returns uid directory profileId w)
        (applyLocked_ends uid clock directory profileId)
    obtain ⟨inner, hresult, hend, hauthorized⟩ := (handling_ends hbody).execution x
    refine ⟨_, hresult, hauthorized, hend.bounded, ?_⟩
    rw [hbusy]
    exact hend.handled

/-- What a rollback reports is what happened, whatever calls fail. -/
theorem rollback_accounts (libraries : ConfigurationLibraries) (uid : Nat) (clock : Option Moment)
    (i : Installation) (backupId confirmation : String) (maximumBackups : Int)
    (w : FsWorld) (x : Execution FsStep (rollbackTo libraries uid clock i.config i.backups backupId
      confirmation maximumBackups) w) :
    ∃ result, x.result = .ok result ∧ Accounts libraries i (.backup backupId) maximumBackups
      (Confirmed (isBackupId backupId) backupId confirmation maximumBackups) w x.final result := by
  have hvalid : requireBackupId backupId = .ok () → isBackupId backupId = true := by
    intro h
    unfold requireBackupId at h
    split at h
    case isTrue hid => exact hid
    case isFalse => cases h
  have hbody : (rollbackBody libraries uid clock i.config i.backups backupId confirmation
      maximumBackups).Ensures FsStep w fun r w' =>
        CommandEnd libraries i (.backup backupId) maximumBackups .invalidBackupId w r w' ∧
          (w'.files = w.files ∨
            Confirmed (isBackupId backupId) backupId confirmation maximumBackups) :=
    guarded_ends uid hvalid (preflightRollbackPaths_returns uid backupId w)
      (rollbackLocked_ends uid clock backupId)
  obtain ⟨inner, hresult, hend, hauthorized⟩ := (handling_ends hbody).execution x
  exact ⟨_, hresult, hauthorized, hend.bounded, hend.handled⟩

/-! ## A rehearsal

A profile is activated, somebody edits the active file, and the backup is rolled back to. -/

/-- A configuration with its backups beside it. -/
def sampleInstallation : Installation where
  config := ⟨["etc"], "aurora.yaml"⟩
  backups := ["etc", "backups"]
  apart := by
    rintro ⟨identifier, extension, -, heq⟩
    have hlength : 2 = 3 := congrArg List.length heq
    exact absurd hlength (by decide)

/-- Its directories. -/
def sampleDirectories : List Path := [["etc"], ["etc", "profiles"], ["etc", "backups"]]

/-- A configuration that names its profile. -/
def profileText (profileId : String) : Bytes :=
  ("application:\n  configuration_profile: " ++ profileId).toList.map fun c => UInt8.ofNat c.toNat

/-- The manifest that the activation writes. -/
def sampleManifest : BackupManifest where
  backupId := "20260701T120000000000Z-000000000000"
  createdAtUtc := "2026-07-01T12:00:00.000000Z"
  sourceSha256 := hexdigest (profileText "pc")
  sourceByteCount := (profileText "pc").length
  operation := .apply
  targetProfileId := some "tv"
  targetBackupId := none

/-- What the libraries make of the texts of the rehearsal. -/
def sampleLibraries : ConfigurationLibraries where
  loadYaml data :=
    match ["pc", "tv", "hd"].find? fun profileId => data = profileText profileId with
    | some profileId =>
      .ok (some [("application", .mapping [("configuration_profile", .scalar (.str profileId))])])
    | none => .error .documented
  configurationProfile
    | [("application", .mapping [("configuration_profile", .scalar (.str profileId))])] => .ok profileId
    | _ => .error .documented
  loadSettings _ := .ok ()
  manifests := librariesFor sampleManifest

/-- The active file, and a profile beside it. -/
def sampleDisk : Disk :=
  (Disk.blank.put ["etc", "aurora.yaml"] (profileText "pc")).put ["etc", "profiles", "tv.yaml"]
    (profileText "tv")

/-- Activate a profile, -/
def sampleApply : Command :=
  applyProfile sampleLibraries 1000 (some ⟨2026, 7, 1, 12, 0, 0, 0⟩) sampleInstallation.config
    ["etc", "profiles"] sampleInstallation.backups "tv" "tv" 10

/-- and go back to the backup. -/
def sampleRollback : Command :=
  rollbackTo sampleLibraries 1000 (some ⟨2026, 7, 2, 8, 30, 0, 0⟩) sampleInstallation.config
    sampleInstallation.backups sampleManifest.backupId sampleManifest.backupId 10

/-- The disk once somebody edited the active file. -/
def editedDisk (first : Command) : Disk :=
  (sampleDisk.after sampleDirectories 1000 first).put ["etc", "aurora.yaml"] (profileText "hd")

/-- The reason a command ended with. -/
def reasonOf : Except Empty ProfileCommandResult → ReasonCode
  | .ok result => result.reasonCode
  | .error e => e.elim

/-- The commands succeed, and the active file holds what it should. -/
def Rehearsed (first second : Command) : Prop :=
  let activation := sampleDisk.execution sampleDirectories 1000 first
  let rollback := (editedDisk first).execution sampleDirectories 1000 second
  reasonOf activation.result = .of .applied ∧ reasonOf rollback.result = .of .rolledBack ∧
    activation.final.files sampleInstallation.config.path = some (profileText "tv") ∧
    rollback.final.files sampleInstallation.config.path = some (profileText "pc")

instance (first second : Command) : Decidable (Rehearsed first second) := by
  unfold Rehearsed
  infer_instance

/-- The sort of the model and the one of the abstract listing agree on names. -/
theorem mergeSort_names (names : List String) :
    names.mergeSort (· ≤ ·) = names.insertionSort (· ≤ ·) :=
  List.mergeSort_eq_insertionSort (· ≤ ·) names

/-- The rehearsal accepts both transcripts. -/
theorem sample_rehearsed : Rehearsed sampleApply sampleRollback := by
  -- the commands in a form that evaluates
  have hcommands : ∃ first, sampleApply = first ∧ ∃ second, sampleRollback = second ∧
      Rehearsed first second := by
    apply Exists.intro
    apply And.intro
    · unfold sampleApply applyProfile applyBody applyLocked activate createBackup prepareBackup
        ensureCapacity enumerateDirectory serializeManifest
      simp only [BackupManifest.dump_toList, mergeSort_names]
      rfl
    · apply Exists.intro
      apply And.intro
      · unfold sampleRollback sampleLibraries librariesFor rollbackTo rollbackBody rollbackLocked
          activate createBackup prepareBackup ensureCapacity enumerateDirectory serializeManifest
        simp only [BackupManifest.dump_toList, mergeSort_names]
        rfl
      · decide +kernel
  obtain ⟨first, rfl, second, rfl, hrehearsed⟩ := hcommands
  exact hrehearsed

/-- The activation of the rehearsal, and the rollback. -/
def sampleActivation : Execution FsStep sampleApply sampleDisk.world :=
  sampleDisk.execution sampleDirectories 1000 sampleApply

/-- The rollback behind the activation. -/
def sampleReturn : Execution FsStep sampleRollback (editedDisk sampleApply).world :=
  (editedDisk sampleApply).execution sampleDirectories 1000 sampleRollback

/-- What the two rehearsed mutations leave in the active file. -/
theorem sample_ends : reasonOf sampleActivation.result = .of .applied ∧
    reasonOf sampleReturn.result = .of .rolledBack ∧
    sampleActivation.final.files sampleInstallation.config.path = some (profileText "tv") ∧
    sampleReturn.final.files sampleInstallation.config.path = some (profileText "pc") := by
  have hactivation : sampleActivation = sampleDisk.execution sampleDirectories 1000 sampleApply := rfl
  have hreturn : sampleReturn =
      (editedDisk sampleApply).execution sampleDirectories 1000 sampleRollback := rfl
  rw [hactivation, hreturn]
  exact sample_rehearsed

theorem apply_accounts_sample : ∃ result, sampleActivation.result = .ok result ∧
    result.reasonCode = .of .applied ∧
    Accounts sampleLibraries sampleInstallation (.profile ["etc", "profiles"] "tv") 10
      (Confirmed (isProfileId "tv") "tv" "tv" 10) sampleDisk.world sampleActivation.final result := by
  obtain ⟨result, hresult, haccounts⟩ := apply_accounts sampleLibraries 1000 _ sampleInstallation
    ["etc", "profiles"] "tv" "tv" 10 sampleDisk.world sampleActivation
  have hreason := sample_ends.1
  rw [hresult] at hreason
  exact ⟨result, hresult, hreason, haccounts⟩

theorem rollback_accounts_sample : ∃ result, sampleReturn.result = .ok result ∧
    result.reasonCode = .of .rolledBack ∧
    Accounts sampleLibraries sampleInstallation (.backup sampleManifest.backupId) 10
      (Confirmed (isBackupId sampleManifest.backupId) sampleManifest.backupId
        sampleManifest.backupId 10) (editedDisk sampleApply).world sampleReturn.final result := by
  obtain ⟨result, hresult, haccounts⟩ := rollback_accounts sampleLibraries 1000 _
    sampleInstallation sampleManifest.backupId sampleManifest.backupId 10
    (editedDisk sampleApply).world sampleReturn
  have hreason := sample_ends.2.1
  rw [hresult] at hreason
  exact ⟨result, hresult, hreason, haccounts⟩

end Aurora.ConfigProfiles
