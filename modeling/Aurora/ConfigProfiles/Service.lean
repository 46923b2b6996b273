/-
  The service behind the profile commands: listing, validating and planning profiles, activating one,
  and rolling back to a backup.

  Every operation is a program that raises nothing: the exceptions of the filesystem boundary and of
  the libraries end as results with a fixed reason.  A mutation runs under the lock.  It saves the
  active file as a backup, replaces it, reads it back, and puts the previous bytes back when that
  fails.
-/
import Aurora.ConfigProfiles.Manifests
import Aurora.ConfigProfiles.Planner

namespace Aurora.ConfigProfiles

open Program

/-! ## Results -/

/-- The exit codes of the command. -/
inductive ProfileExitCode
  | success
  | invalid
  | busy
  | restored
  | restorationFailed
  deriving DecidableEq

/-- The reasons of the queries, beside those of failures and mutations. -/
inductive ReasonCode
  | listed
  | valid
  | planned
  | of (reason : ProfileReason)
  deriving DecidableEq

/-- The plan of a change: what it would replace, by what, and the differences. -/
structure ProfilePlan where
  profileId : String
  activeSha256 : String
  candidateSha256 : String
  byteIdentical : Bool
  changes : List PlanChange
  truncated : Bool

/-- A backup in a listing. -/
structure BackupRecord extends BackupManifest where
  integrityValid : Bool
  deriving DecidableEq

/-- What a command reports. -/
structure ProfileCommandResult where
  exitCode : ProfileExitCode
  reasonCode : ReasonCode
  message : String
  profileId : Option String := none
  profiles : List String := []
  skippedEntries : Nat := 0
  entryLimitReached : Bool := false
  plan : Option ProfilePlan := none
  backups : List BackupRecord := []
  backupId : Option String := none

/-- The messages of `_invalid`. -/
def invalidMessage : ProfileReason → String
  | .invalidArgument => "Profile command arguments are invalid."
  | .invalidProfileId => "Profile identifier is invalid."
  | .invalidBackupId => "Backup identifier is invalid."
  | .confirmationMismatch => "Explicit confirmation did not match."
  | .filesystemBoundary => "Managed filesystem boundary validation failed."
  | .directoryLimit => "Managed directory entry limit was reached."
  | .fileTooLarge => "Managed file exceeds the supported size limit."
  | .invalidYaml => "Managed YAML validation failed."
  | .invalidConfiguration => "Aurora configuration validation failed."
  | .profileMismatch => "Profile identifier does not match its configuration."
  | .profileChanged => "Profile changed during validation."
  | .activeChanged => "Active configuration changed during validation."
  | .backupCapacity => "Managed backup capacity has been reached."
  | .backupInvalid => "Selected backup is invalid or corrupt."
  | .backupWriteFailed => "Configuration backup could not be created."
  | _ => "Profile command failed safely."

/-- `_invalid` -/
def invalidResult (reason : ProfileReason) : ProfileCommandResult :=
  { exitCode := .invalid, reasonCode := .of reason, message := invalidMessage reason }

/-- The reason of a `ProfileOperationError`; any other exception is reported as the boundary's. -/
def FsException.reason : FsException → ProfileReason
  | profile reason => reason
  | busy => .mutationBusy
  | atomicWrite _ => .filesystemBoundary
  | os _ => .filesystemBoundary
  | valueError => .filesystemBoundary

/-- The handlers that the operations share, with the reason of a `ValueError`. -/
def reported (onValueError : ProfileReason) :
    Except FsException ProfileCommandResult → ProfileCommandResult
  | .ok result => result
  | .error .valueError => invalidResult onValueError
  | .error e => invalidResult e.reason

/-- The handlers of a mutation: a busy lock has a result of its own. -/
def reportedUnlessBusy (onValueError : ProfileReason) (onBusy : ProfileCommandResult) :
    Except FsException ProfileCommandResult → ProfileCommandResult
  | .error .busy => onBusy
  | result => reported onValueError result

/-- A program that raises nothing. -/
abbrev Command : Type := Program FsInterface Empty ProfileCommandResult

/-- Run the body of an operation under its handlers. -/
def handling (handlers : Except FsException ProfileCommandResult → ProfileCommandResult)
    (body : Fs ProfileCommandResult) : Command := do
  let result ← (body.catching : Program FsInterface Empty _)
  return handlers result

/-! ## Validation -/

/-- The exceptions of a call into a library. -/
inductive LibraryError
  /-- The ones that the caller expects. -/
  | documented
  | valueError
  | other

/-- An expected exception becomes the reason.  No handler tells the others from an `OSError`. -/
def LibraryError.raised (reason : ProfileReason) : LibraryError → FsException
  | documented => .profile reason
  | valueError => .valueError
  | other => .os .other

/-- The top level mapping of a loaded document. -/
abbrev ConfigDocument := List (String × Node)

/-- What the libraries make of a configuration file, with the environment of the process. -/
structure ConfigurationLibraries where
  /-- Decoding and `yaml.load` without aliases and repeated keys; a document may be no mapping. -/
  loadYaml : Bytes → Except LibraryError (Option ConfigDocument)
  /-- `AuroraSettings.model_validate`, as far as its result is read: the configuration profile. -/
  configurationProfile : ConfigDocument → Except LibraryError String
  loadSettings : ConfigDocument → Except LibraryError Unit
  manifests : ManifestLibraries

variable (libraries : ConfigurationLibraries)

/-- The document of a YAML text, which is a mapping. -/
def parseRawYaml (data : Bytes) : Except FsException ConfigDocument :=
  match libraries.loadYaml data with
  | .error e => .error (e.raised .invalidYaml)
  | .ok none => .error (.profile .invalidYaml)
  | .ok (some document) => .ok document

/-- `validate_raw_yaml`; no caller reads the settings. -/
def validateRawYaml (data : Bytes) (expectedProfileId : Option String) :
    Except FsException ConfigDocument := do
  let document ← parseRawYaml libraries data
  match libraries.configurationProfile document with
  | .error e => .error (e.raised .invalidConfiguration)
  | .ok profile =>
    if expectedProfileId.all (· = profile) then .ok document
    else .error (.profile .profileMismatch)

/-- The document gives valid settings. -/
def validateEffectiveYaml (document : ConfigDocument) : Except FsException Unit :=
  (libraries.loadSettings document).mapError (LibraryError.raised .invalidConfiguration)

/-- The two validations that every activated file passes. -/
def validateYaml (data : Bytes) (expectedProfileId : Option String) :
    Except FsException ConfigDocument := do
  let document ← validateRawYaml libraries data expectedProfileId
  validateEffectiveYaml libraries document
  return document

/-! ## Backups -/

variable (uid : Nat)

/-- A backup that was chosen, as it was read. -/
structure SelectedBackup where
  manifest : BackupManifest
  snapshot : SecureFileSnapshot

/-- The digest and the length of the manifest are those of the payload. -/
def SelectedBackup.intact (selected : SelectedBackup) : Bool :=
  selected.manifest.sourceSha256 = selected.snapshot.sha256 ∧
    selected.manifest.sourceByteCount = selected.snapshot.data.length

/-- The exception is the `ValueError` of an identifier check. -/
def FsException.isValueError : FsException → Bool
  | valueError => true
  | _ => false

/-- The `try` statement of `_load_pair`. -/
def readPair (directory : Path) (backupId : String) : Fs SelectedBackup := do
  let manifestSnapshot ←
    readSecureFile uid (directory ++ [managedFile backupId .json]) maxManifestBytes
  let sourceSnapshot ← readSecureFile uid (directory ++ [managedFile backupId .yaml]) maxYamlBytes
  let manifest ← ofExcept (parseManifest libraries.manifests manifestSnapshot.data)
  return ⟨manifest, sourceSnapshot⟩

/-- `_load_pair` -/
def loadPair (directory : Path) (backupId : String) (requireIntegrity : Bool) :
    Fs SelectedBackup := do
  match ← (readPair libraries uid directory backupId).catching with
  | .error e =>
    if e.isValueError || e.isProfileError then raise (.profile .backupInvalid) else raise e
  | .ok selected =>
    if selected.manifest.backupId ≠ backupId then raise (.profile .backupInvalid)
    else if requireIntegrity && !selected.intact then raise (.profile .backupInvalid)
    else return selected

/-- `require_backup_id` -/
def requireBackupId (backupId : String) : Except FsException Unit :=
  if isBackupId backupId then .ok () else .error .valueError

/-- `BackupRepository.load` -/
def loadBackup (directory : Path) (backupId : String) : Fs SelectedBackup := do
  ofExcept (requireBackupId backupId)
  loadPair libraries uid directory backupId true

/-- The backups of a directory, and how many of its entries are none. -/
structure BackupListing where
  records : List BackupRecord
  skippedEntries : Nat
  entryLimitReached : Bool

/-- The listing with more skipped entries. -/
def BackupListing.skipping (n : Nat) (listing : BackupListing) : BackupListing :=
  { listing with skippedEntries := listing.skippedEntries + n }

/-- Entries that are neither managed files nor the lock. -/
def strangers (names : List String) : List String :=
  names.filter fun name => managedName name = none ∧ name ≠ lockFilename

/-- The extensions under which an identifier is listed. -/
def extensionsOf (names : List String) (backupId : String) : List Extension :=
  [Extension.yaml, Extension.json].filter fun extension =>
    (backupId, extension) ∈ names.filterMap managedName

/-- The loop of `list` over the identifiers. -/
def listRecords (directory : Path) (names : List String) : List String → BackupListing →
    Fs BackupListing
  | [], listing => return listing
  | backupId :: rest, listing => do
    if extensionsOf names backupId ≠ [.yaml, .json] then
      listRecords directory names rest
        (listing.skipping (extensionsOf names backupId).length)
    else
      match ← (loadPair libraries uid directory backupId false).catching with
      | .error e =>
        if e.isProfileError then listRecords directory names rest (listing.skipping 2)
        else raise e
      | .ok selected =>
        listRecords directory names rest { listing with
          records := listing.records ++ [⟨selected.manifest, selected.intact⟩] }

/-- `BackupRepository.list` -/
def listManaged (directory : Path) : Fs BackupListing := do
  let entries ← enumerateDirectory uid directory maxBackupEntries
  let grouped := (countedIdentifiers entries.names).mergeSort (· ≥ ·)
  listRecords libraries uid directory entries.names grouped
    ⟨[], (strangers entries.names).length, entries.limitReached⟩

/-! ## Loading -/

/-- A file by the directory it is in and its name. -/
structure FilePath where
  parent : Path
  name : String

/-- The whole path of a file. -/
def FilePath.path (file : FilePath) : Path := file.parent ++ [file.name]

/-- `MAX_PROFILE_ENTRIES`, `MAX_PLAN_CHANGES`, `MINIMUM_BACKUPS` and `MAXIMUM_BACKUPS`. -/
def maxProfileEntries : Nat := 256
/-- The most changes a plan shows. -/
def maxPlanChanges : Int := 256
/-- The fewest backups that may be kept. -/
def minimumBackups : Int := 1
/-- The most backups that may be kept. -/
def maximumBackups : Int := 100

/-- `require_profile_id` -/
def requireProfileId (profileId : String) : Except FsException Unit :=
  if isProfileId profileId then .ok () else .error .valueError

/-- `_require_maximum_backups` -/
def requireMaximumBackups (value : Int) : Except FsException Unit :=
  if value < minimumBackups ∨ value > maximumBackups then .error (.profile .invalidArgument)
  else .ok ()

/-- `_profile_path`, of an identifier that was checked. -/
def profilePath (directory : Path) (profileId : String) : Path :=
  directory ++ [profileId ++ Extension.yaml.suffix]

/-- `_load_active` -/
def loadActive (config : FilePath) : Fs (SecureFileSnapshot × ConfigDocument) := do
  validateDirectory uid config.parent false
  let snapshot ← readSecureFile uid config.path maxYamlBytes
  let document ← ofExcept (validateYaml libraries snapshot.data none)
  return (snapshot, document)

/-- `_load_profile` -/
def loadProfile (directory : Path) (profileId : String) :
    Fs (SecureFileSnapshot × ConfigDocument) := do
  validateDirectory uid directory true
  let snapshot ← readSecureFile uid (profilePath directory profileId) maxYamlBytes
  let document ← ofExcept (validateYaml libraries snapshot.data (some profileId))
  return (snapshot, document)

/-- The file is still what it was when it was read first. -/
def requireSnapshotUnchanged (expected actual : SecureFileSnapshot) (reason : ProfileReason) :
    Except FsException Unit :=
  if expected.identity ≠ actual.identity ∨ expected.data ≠ actual.data then
    .error (.profile reason)
  else .ok ()

/-! ## Queries -/

/-- The loop of `list_profiles`: the identifiers, and how many entries were skipped. -/
def listNames (directory : Path) : List String → List String × Nat → Fs (List String × Nat)
  | [], found => return found
  | name :: rest, (profiles, skipped) => do
    match stripSuffix name Extension.yaml.suffix with
    | none => listNames directory rest (profiles, skipped + 1)
    | some profileId =>
      if isProfileId profileId then
        match ← (inspectSecureFile uid (directory ++ [name]) maxYamlBytes).catching with
        | .ok _ => listNames directory rest (profiles ++ [profileId], skipped)
        | .error e =>
          if e.isProfileError then listNames directory rest (profiles, skipped + 1) else raise e
      else listNames directory rest (profiles, skipped + 1)

/-- `list_profiles` -/
def listProfiles (profilesDirectory : Path) : Command :=
  handling (reported .filesystemBoundary) do
    let entries ← enumerateDirectory uid profilesDirectory maxProfileEntries
    let (profiles, skipped) ← listNames uid profilesDirectory entries.names ([], 0)
    return {
      exitCode := .success
      reasonCode := .listed
      message := "Configuration profiles listed."
      profiles := profiles.mergeSort (· ≤ ·)
      skippedEntries := skipped
      entryLimitReached := entries.limitReached }

/-- `validate` -/
def validateProfile (profilesDirectory : Path) (profileId : String) : Command :=
  handling (reported .invalidProfileId) do
    ofExcept (requireProfileId profileId)
    let (snapshot, _) ← loadProfile libraries uid profilesDirectory profileId
    let again ← readSecureFile uid (profilePath profilesDirectory profileId) maxYamlBytes
    ofExcept (requireSnapshotUnchanged snapshot again .profileChanged)
    return {
      exitCode := .success
      reasonCode := .valid
      message := "Profile passed raw and effective validation."
      profileId := some profileId }

/-- `plan` -/
def planProfile (config : FilePath) (profilesDirectory : Path) (profileId : String) : Command :=
  handling (reported .invalidProfileId) do
    ofExcept (requireProfileId profileId)
    let (active, activeDocument) ← loadActive libraries uid config
    let (candidate, candidateDocument) ← loadProfile libraries uid profilesDirectory profileId
    let (changes, truncated) := planChanges activeDocument candidateDocument maxPlanChanges
    let again ← readSecureFile uid (profilePath profilesDirectory profileId) maxYamlBytes
    ofExcept (requireSnapshotUnchanged candidate again .profileChanged)
    return {
      exitCode := .success
      reasonCode := .planned
      message := "Sanitized profile plan is ready."
      profileId := some profileId
      plan := some
        ⟨profileId, active.sha256, candidate.sha256, active.data = candidate.data, changes,
          truncated⟩ }

/-- `list_backups` -/
def listBackups (backupsDirectory : Path) : Command :=
  handling (reported .filesystemBoundary) do
    validateDirectory uid backupsDirectory true
    let listing ← listManaged libraries uid backupsDirectory
    return {
      exitCode := .success
      reasonCode := .listed
      message := "Configuration backups listed."
      backups := listing.records
      skippedEntries := listing.skippedEntries
      entryLimitReached := listing.entryLimitReached }

/-! ## Publishing -/

/-- `_verify_published` -/
def verifyPublished (config : FilePath) (expected : Bytes) (expectedProfileId : Option String) :
    Fs Unit := do
  let snapshot ← readSecureFile uid config.path maxYamlBytes
  if snapshot.data ≠ expected ∨ snapshot.sha256 ≠ hexdigest expected then
    raise (.profile .filesystemBoundary)
  let _ ← ofExcept (validateYaml libraries snapshot.data expectedProfileId)

/-- The new configuration failed and the old one was put back. -/
def restoredResult : ProfileCommandResult where
  exitCode := .restored
  reasonCode := .of .activationFailedRestored
  message := "Activation failed and the previous configuration was restored."

/-- The old configuration could not be put back. -/
def restorationFailedResult : ProfileCommandResult where
  exitCode := .restorationFailed
  reasonCode := .of .automaticRestorationFailed
  message := "Automatic restoration failed; active configuration validity is unknown."

/-- `_recover_previous` -/
def recoverPrevious (config : FilePath) (previous : SecureFileSnapshot) :
    Fs ProfileCommandResult := do
  match ← (do
      atomicReplace uid config.parent config.name previous.data none
      verifyPublished libraries uid config previous.data none : Fs Unit).catching with
  | .ok () => return restoredResult
  | .error _ => return restorationFailedResult

/-- The `try` statement of `_publish_with_recovery`: how it ends, and whether the file was
published. -/
def publish (config : FilePath) (replacement : Bytes) (expectedIdentity : FileIdentity)
    (expectedProfileId : Option String) : Fs (Except FsException Unit × Bool) := do
  match ← (atomicReplace uid config.parent config.name replacement
      (some expectedIdentity)).catching with
  | .error e => return (.error e, false)
  | .ok () =>
    let result ← (verifyPublished libraries uid config replacement expectedProfileId).catching
    return (result, true)

/-- What the handlers return; none when the previous configuration is to be put back. -/
def publicationFailure (published : Bool) : FsException → Option ProfileReason
  | .atomicWrite published => if published then none else some .filesystemBoundary
  | e => if published then none else some e.reason

/-- `_publish_with_recovery`: the failure, if there is one. -/
def publishWithRecovery (config : FilePath) (replacement : Bytes) (previous : SecureFileSnapshot)
    (expectedIdentity : FileIdentity) (expectedProfileId : Option String) :
    Fs (Option ProfileCommandResult) := do
  match ← publish libraries uid config replacement expectedIdentity expectedProfileId with
  | (.ok (), _) => return none
  | (.error e, published) =>
    match publicationFailure published e with
    | some reason => return some (invalidResult reason)
    | none =>
      let failure ← recoverPrevious libraries uid config previous
      return some failure

/-! ## Mutations -/

variable (clock : Option Moment)

/-- Save the active file, publish the replacement, and report the failure or the success. -/
def activate (config : FilePath) (backupsDirectory : Path) (request : BackupRequest)
    (replacement : Bytes) (expectedIdentity : FileIdentity) (expectedProfileId : Option String)
    (success : ProfileCommandResult) : Fs ProfileCommandResult := do
  let _ ← createBackup uid backupsDirectory request clock
  let failure ← publishWithRecovery libraries uid config replacement request.source
    expectedIdentity expectedProfileId
  return failure.getD success

/-- `_preflight_apply_paths` -/
def preflightApplyPaths (config : FilePath) (profilesDirectory backupsDirectory : Path)
    (profileId : String) : Fs Unit := do
  validateDirectory uid config.parent false
  validateDirectory uid profilesDirectory true
  validateDirectory uid backupsDirectory true
  let _ ← inspectSecureFile uid config.path maxYamlBytes
  let _ ← inspectSecureFile uid (profilePath profilesDirectory profileId) maxYamlBytes

/-- The profile is active already. -/
def noChangeResult (profileId : String) : ProfileCommandResult where
  exitCode := .success
  reasonCode := .of .noChange
  message := "Profile is already byte-identical; no backup was created."
  profileId := some profileId

/-- The profile was activated. -/
def appliedResult (profileId : String) : ProfileCommandResult where
  exitCode := .success
  reasonCode := .of .applied
  message := "Profile activated; an external Aurora service restart is required."
  profileId := some profileId

/-- `apply` under the lock. -/
def applyLocked (config : FilePath) (profilesDirectory backupsDirectory : Path)
    (profileId : String) (maximumBackups : Int) : Fs ProfileCommandResult := do
  let (active, _) ← loadActive libraries uid config
  let (candidate, _) ← loadProfile libraries uid profilesDirectory profileId
  if active.data = candidate.data then return noChangeResult profileId
  let currentActive ← readSecureFile uid config.path maxYamlBytes
  let currentCandidate ← readSecureFile uid (profilePath profilesDirectory profileId) maxYamlBytes
  ofExcept (requireSnapshotUnchanged active currentActive .activeChanged)
  ofExcept (requireSnapshotUnchanged candidate currentCandidate .profileChanged)
  activate libraries uid clock config backupsDirectory
    ⟨active, .apply, maximumBackups, some profileId, none⟩ candidate.data currentActive.identity
    (some profileId) (appliedResult profileId)

/-- The body of the `try` statement of `apply`. -/
def applyBody (config : FilePath) (profilesDirectory backupsDirectory : Path)
    (profileId confirmation : String) (maximumBackups : Int) : Fs ProfileCommandResult := do
  ofExcept (requireProfileId profileId)
  ofExcept (requireMaximumBackups maximumBackups)
  if confirmation ≠ profileId then return invalidResult .confirmationMismatch
  preflightApplyPaths uid config profilesDirectory backupsDirectory profileId
  mutationLock uid backupsDirectory
    (applyLocked libraries uid clock config profilesDirectory backupsDirectory profileId
      maximumBackups)

/-- Another mutation is in progress. -/
def busyResult (profileId backupId : Option String) : ProfileCommandResult where
  exitCode := .busy
  reasonCode := .of .mutationBusy
  message := "Another configuration mutation is in progress."
  profileId
  backupId

/-- `apply` -/
def applyProfile (config : FilePath) (profilesDirectory backupsDirectory : Path)
    (profileId confirmation : String) (maximumBackups : Int) : Command :=
  handling (reportedUnlessBusy .invalidProfileId
      (busyResult (if isProfileId profileId then some profileId else none) none))
    (applyBody libraries uid clock config profilesDirectory backupsDirectory profileId confirmation
      maximumBackups)

/-- `_preflight_rollback_paths` -/
def preflightRollbackPaths (config : FilePath) (backupsDirectory : Path) (backupId : String) :
    Fs Unit := do
  validateDirectory uid config.parent false
  validateDirectory uid backupsDirectory true
  let _ ← inspectSecureFile uid config.path maxYamlBytes
  let _ ← inspectSecureFile uid (backupsDirectory ++ [managedFile backupId .yaml]) maxYamlBytes
  let _ ← inspectSecureFile uid (backupsDirectory ++ [managedFile backupId .json]) maxManifestBytes

/-- The backup was activated. -/
def rolledBackResult (backupId : String) : ProfileCommandResult where
  exitCode := .success
  reasonCode := .of .rolledBack
  message := "Backup activated; an external Aurora service restart is required."
  backupId := some backupId

/-- `rollback` under the lock. -/
def rollbackLocked (config : FilePath) (backupsDirectory : Path) (backupId : String)
    (maximumBackups : Int) : Fs ProfileCommandResult := do
  let (active, _) ← loadActive libraries uid config
  let selected ← loadBackup libraries uid backupsDirectory backupId
  let _ ← ofExcept (validateYaml libraries selected.snapshot.data none)
  let currentActive ← readSecureFile uid config.path maxYamlBytes
  let currentSelected ← loadBackup libraries uid backupsDirectory backupId
  ofExcept (requireSnapshotUnchanged active currentActive .activeChanged)
  ofExcept (requireSnapshotUnchanged selected.snapshot currentSelected.snapshot .backupInvalid)
  activate libraries uid clock config backupsDirectory
    ⟨active, .rollback, maximumBackups, none, some backupId⟩ selected.snapshot.data
    currentActive.identity none (rolledBackResult backupId)

/-- The body of the `try` statement of `rollback`. -/
def rollbackBody (config : FilePath) (backupsDirectory : Path) (backupId confirmation : String)
    (maximumBackups : Int) : Fs ProfileCommandResult := do
  ofExcept (requireBackupId backupId)
  ofExcept (requireMaximumBackups maximumBackups)
  if confirmation ≠ backupId then return invalidResult .confirmationMismatch
  preflightRollbackPaths uid config backupsDirectory backupId
  mutationLock uid backupsDirectory
    (rollbackLocked libraries uid clock config backupsDirectory backupId maximumBackups)

/-- `rollback` -/
def rollbackTo (config : FilePath) (backupsDirectory : Path) (backupId confirmation : String)
    (maximumBackups : Int) : Command :=
  handling (reportedUnlessBusy .invalidBackupId (busyResult none (some backupId)))
    (rollbackBody libraries uid clock config backupsDirectory backupId confirmation maximumBackups)

end Aurora.ConfigProfiles
