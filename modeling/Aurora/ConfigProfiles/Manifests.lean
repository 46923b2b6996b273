/-
  Identifiers of profiles and backups, strict backup manifests, and the backup repository.

  A managed file is named by a backup identifier and one of two extensions.  An identifier starts
  with a time that exists.  `create` writes the payload and then its manifest.
-/
import Aurora.ConfigProfiles.SecureFiles
import Aurora.Lib.Checks
import Aurora.Lib.Loads

namespace Aurora.ConfigProfiles

open Program

/-! ## Times -/

/-- The days of a month. -/
def daysIn (year month : Nat) : Nat :=
  if month = 2 then
    if year % 4 = 0 ∧ (year % 100 ≠ 0 ∨ year % 400 = 0) then 29 else 28
  else if month ∈ [4, 6, 9, 11] then 30
  else 31

/-- A date and time of the calendar. -/
structure Moment where
  year : Nat
  month : Nat
  day : Nat
  hour : Nat
  minute : Nat
  second : Nat
  microsecond : Nat
  deriving DecidableEq

namespace Moment

/-- The fields are those of a date and a time. -/
def Valid (t : Moment) : Prop :=
  1 ≤ t.year ∧ t.year ≤ 9999 ∧ 1 ≤ t.month ∧ t.month ≤ 12 ∧ 1 ≤ t.day ∧
    t.day ≤ daysIn t.year t.month ∧ t.hour ≤ 23 ∧ t.minute ≤ 59 ∧ t.second ≤ 59 ∧
    t.microsecond ≤ 999999

instance (t : Moment) : Decidable t.Valid := by unfold Valid; infer_instance

end Moment

/-- The number a list of digits stands for. -/
def digits (l : List Char) : Nat := l.foldl (fun n c => 10 * n + (c.toNat - '0'.toNat)) 0

/-- The moment whose twenty digits these are. -/
def momentOf (l : List Char) : Moment where
  year := digits (l.take 4)
  month := digits ((l.drop 4).take 2)
  day := digits ((l.drop 6).take 2)
  hour := digits ((l.drop 8).take 2)
  minute := digits ((l.drop 10).take 2)
  second := digits ((l.drop 12).take 2)
  microsecond := digits (l.drop 14)

/-- A decimal number with leading zeros. -/
def padded (width n : Nat) : List Char :=
  List.replicate (width - (Nat.toDigits 10 n).length) '0' ++ Nat.toDigits 10 n

/-- `strftime("%Y%m%dT%H%M%S%fZ")` -/
def Moment.compact (t : Moment) : List Char :=
  padded 4 t.year ++ padded 2 t.month ++ padded 2 t.day ++ 'T' :: padded 2 t.hour ++
    padded 2 t.minute ++ padded 2 t.second ++ padded 6 t.microsecond ++ ['Z']

/-- `strftime("%Y-%m-%dT%H:%M:%S.%fZ")` -/
def Moment.canonical (t : Moment) : List Char :=
  padded 4 t.year ++ '-' :: padded 2 t.month ++ '-' :: padded 2 t.day ++ 'T' :: padded 2 t.hour ++
    ':' :: padded 2 t.minute ++ ':' :: padded 2 t.second ++ '.' :: padded 6 t.microsecond ++ ['Z']

/-! ## Identifiers -/

/-- `[a-z0-9]` -/
def isLowerAlnum (c : Char) : Bool := ('a' ≤ c && c ≤ 'z') || ('0' ≤ c && c ≤ '9')

/-- `[0-9a-f]` -/
def isLowerHex (c : Char) : Bool := ('a' ≤ c && c ≤ 'f') || ('0' ≤ c && c ≤ '9')

/-- `[0-9]` -/
def isAsciiDigit (c : Char) : Bool := '0' ≤ c && c ≤ '9'

/-- `(?:[a-z0-9]|-(?=[a-z0-9]))*` -/
def profileTail : List Char → Bool
  | [] => true
  | c :: rest => (isLowerAlnum c || (c == '-' && rest.head?.any isLowerAlnum)) && profileTail rest

/-- `PROFILE_ID_PATTERN` -/
def isProfileId (value : String) : Bool :=
  match value.toList with
  | [] => false
  | c :: rest => isLowerAlnum c && profileTail rest && rest.length ≤ 39

/-- The text consists of runs of digits, of these lengths, each followed by its separator. -/
def digitRuns : List (Nat × Char) → List Char → Bool
  | [], text => text.isEmpty
  | (n, separator) :: runs, text =>
    (text.take n).length = n && (text.take n).all isAsciiDigit &&
      (text.drop n).head? == some separator && digitRuns runs (text.drop (n + 1))

/-- The digits of a text name a moment. -/
def namesMoment (text : List Char) : Bool := (momentOf (text.filter isAsciiDigit)).Valid

/-- `[0-9]{8}T[0-9]{12}Z`, for a time that exists. -/
def isCompactTime (text : List Char) : Bool :=
  digitRuns [(8, 'T'), (12, 'Z')] text && namesMoment text

/-- `BACKUP_ID_PATTERN`, for a time that exists. -/
def isBackupId (value : String) : Bool :=
  isCompactTime (value.toList.take 22) && (value.toList.drop 22).head? == some '-' &&
    (value.toList.drop 23).length = 12 && (value.toList.drop 23).all isLowerHex

/-- The two files of a backup. -/
inductive Extension
  | yaml
  | json
  deriving DecidableEq

/-- The suffix of its name. -/
def Extension.suffix : Extension → String
  | yaml => ".yaml"
  | json => ".json"

/-- The name of a managed file. -/
def managedFile (identifier : String) (extension : Extension) : String :=
  identifier ++ extension.suffix

/-- What stands before the suffix, when the name ends with it. -/
def stripSuffix (name suffix : String) : Option String :=
  if suffix.toList <:+ name.toList then
    some (String.ofList (name.toList.take (name.toList.length - suffix.toList.length)))
  else none

/-- One turn of the loop of `_managed_name`. -/
def managedAs (name : String) (extension : Extension) : Option (String × Extension) :=
  match stripSuffix name extension.suffix with
  | some identifier => if isBackupId identifier then some (identifier, extension) else none
  | none => none

/-- `_managed_name` -/
def managedName (name : String) : Option (String × Extension) :=
  [Extension.yaml, Extension.json].findSome? (managedAs name)

/-- `_managed_identifier` -/
def managedIdentifier (name : String) : Option String := (managedName name).map (·.1)

/-! ## Manifests -/

/-- The largest configuration. -/
def maxYamlBytes : Nat := 256 * 1024
/-- The largest manifest. -/
def maxManifestBytes : Nat := 16 * 1024
/-- The most entries of the backup directory that are read. -/
def maxBackupEntries : Nat := 512

/-- What a backup was taken for. -/
inductive BackupOperation
  | apply
  | rollback
  deriving DecidableEq

/-- The text of an operation in a manifest. -/
def BackupOperation.value : BackupOperation → String
  | apply => "apply"
  | rollback => "rollback"

/-- The manifest of a backup. -/
structure BackupManifest where
  backupId : String
  createdAtUtc : String
  sourceSha256 : String
  sourceByteCount : Nat
  operation : BackupOperation
  targetProfileId : Option String
  targetBackupId : Option String
  deriving DecidableEq

namespace BackupManifest

/-- `timestamp_is_canonical_utc` -/
def timestampCanonical (value : String) : Bool :=
  digitRuns [(4, '-'), (2, '-'), (2, 'T'), (2, ':'), (2, ':'), (2, '.'), (6, 'Z')] value.toList &&
    namesMoment value.toList

/-- `digest_is_sha256` -/
def digestIsSha256 (value : String) : Bool :=
  value.toList.length = 64 && value.toList.all isLowerHex

/-- `target_matches_operation`, the part about the targets. -/
def targetMatches (m : BackupManifest) : Bool :=
  match m.operation with
  | .apply => m.targetProfileId.isSome && m.targetBackupId.isNone
  | .rollback => m.targetBackupId.isSome && m.targetProfileId.isNone

/-- What the validators accept. -/
def accepted (m : BackupManifest) : Bool :=
  isBackupId m.backupId && timestampCanonical m.createdAtUtc && digestIsSha256 m.sourceSha256 &&
    m.sourceByteCount ≤ maxYamlBytes && m.targetProfileId.all isProfileId &&
    m.targetBackupId.all isBackupId && m.targetMatches &&
    ((momentOf (m.createdAtUtc.toList.filter isAsciiDigit)).compact ++ ['-']).isPrefixOf
      m.backupId.toList

/-- Construction runs the validators; a `ValidationError` is a `ValueError`. -/
def construct (m : BackupManifest) : Except FsException BackupManifest :=
  if m.accepted then .ok m else .error .valueError

end BackupManifest

/-- A JSON string of validated characters needs no escapes. -/
def quoted (text : String) : String := "\"" ++ text ++ "\""

/-- A JSON string, or `null`. -/
def quotedOrNull : Option String → String
  | none => "null"
  | some text => quoted text

/-- `json.dumps` of the model with sorted keys and compact separators. -/
def BackupManifest.dump (m : BackupManifest) : String :=
  "\x7b" ++ String.intercalate "," [
    quoted "backup_id" ++ ":" ++ quoted m.backupId,
    quoted "created_at_utc" ++ ":" ++ quoted m.createdAtUtc,
    quoted "operation" ++ ":" ++ quoted m.operation.value,
    quoted "schema_version" ++ ":" ++ "1",
    quoted "source_byte_count" ++ ":" ++ String.ofList (Nat.toDigits 10 m.sourceByteCount),
    quoted "source_sha256" ++ ":" ++ quoted m.sourceSha256,
    quoted "target_backup_id" ++ ":" ++ quotedOrNull m.targetBackupId,
    quoted "target_profile_id" ++ ":" ++ quotedOrNull m.targetProfileId] ++ "\x7d"

/-- `serialize_manifest` -/
def serializeManifest (m : BackupManifest) : Except FsException Bytes :=
  let data := m.dump.toList.map fun c => UInt8.ofNat c.toNat
  if maxManifestBytes < data.length then .error (.profile .backupWriteFailed) else .ok data

/-! ## Reading a manifest -/

/-- What the libraries decide. -/
structure ManifestLibraries where
  /-- `json.loads` of the bytes.  An object holds the pairs that are handed to the hook, repeated
      keys among them. -/
  loads : Loads
  /-- The values that are taken for the literal 1. -/
  isLiteralOne : JsonDocument → Bool
  isLiteralOne_one : isLiteralOne (.int 1) = true

mutual
/-- `_unique_object` raises for no object of the document. -/
def uniqueObjects : JsonDocument → Bool
  | .array items => uniqueItems items
  | .object pairs => decide (pairs.map (·.1)).Nodup && uniquePairs pairs
  | _ => true
/-- No object of the items has a key twice. -/
def uniqueItems : List JsonDocument → Bool
  | [] => true
  | item :: rest => uniqueObjects item && uniqueItems rest
/-- No object of the members has a key twice. -/
def uniquePairs : List (PyText × JsonDocument) → Bool
  | [] => true
  | (_, value) :: rest => uniqueObjects value && uniquePairs rest
end

/-- A `str`. -/
def str? : JsonDocument → Option String
  | .text s => s.string?
  | _ => none

/-- A `str | None`. -/
def optionalStr? : JsonDocument → Option (Option String)
  | .null => some none
  | .text s => s.string?.map some
  | _ => none

/-- A strict `int` that is not negative. -/
def strictNat? : JsonDocument → Option Nat
  | .int n => if 0 ≤ n then some n.toNat else none
  | _ => none

/-- The operation of a text. -/
def BackupOperation.ofValue? (value : String) : Option BackupOperation :=
  [apply, rollback].find? fun operation => operation.value == value

/-- The fields of the model; no other one is allowed. -/
def BackupManifest.fieldNames : List String :=
  ["schema_version", "backup_id", "created_at_utc", "source_sha256", "source_byte_count",
    "operation", "target_profile_id", "target_backup_id"]

/-- The values of the fields, before the validators see them.  All but the version are required. -/
def BackupManifest.ofFields (libraries : ManifestLibraries) (fields : List (PyText × JsonDocument)) :
    Option BackupManifest := do
  let field (name : String) : Option JsonDocument := fields.lookup (PyText.of name)
  if fields.all (fun pair => pair.1 ∈ fieldNames.map PyText.of) &&
      (field "schema_version").all libraries.isLiteralOne then
    let backupId ← (field "backup_id").bind str?
    let createdAtUtc ← (field "created_at_utc").bind str?
    let sourceSha256 ← (field "source_sha256").bind str?
    let sourceByteCount ← (field "source_byte_count").bind strictNat?
    let operation ← ((field "operation").bind str?).bind BackupOperation.ofValue?
    let targetProfileId ← (field "target_profile_id").bind optionalStr?
    let targetBackupId ← (field "target_backup_id").bind optionalStr?
    some { backupId, createdAtUtc, sourceSha256, sourceByteCount, operation, targetProfileId,
           targetBackupId }
  else none

/-- `BackupManifest.model_validate` -/
def BackupManifest.modelValidate (libraries : ManifestLibraries) :
    JsonDocument → Except FsException BackupManifest
  | .object fields =>
    match ofFields libraries fields with
    | some m => construct m
    | none => .error .valueError
  | _ => .error .valueError

/-- `parse_manifest` -/
def parseManifest (libraries : ManifestLibraries) (data : Bytes) : Except FsException BackupManifest :=
  if maxManifestBytes < data.length then .error (.profile .backupInvalid)
  else
    match libraries.loads data with
    | .error _ => .error (.profile .backupInvalid)
    | .ok document =>
      if uniqueObjects document then
        match BackupManifest.modelValidate libraries document with
        | .ok m => .ok m
        -- a `ValidationError` is a `ValueError`
        | .error _ => .error (.profile .backupInvalid)
      else .error (.profile .backupInvalid)

/-! ## The repository -/

/-- The identifiers that a listing counts. -/
def countedIdentifiers (names : List String) : List String :=
  (names.filterMap managedIdentifier).dedup

/-- `ensure_capacity` -/
def ensureCapacity (uid : Nat) (directory : Path) (maximumBackups : Int) : Fs Unit := do
  let entries ← enumerateDirectory uid directory maxBackupEntries
  if entries.limitReached then raise (.profile .directoryLimit)
  else if maximumBackups ≤ (countedIdentifiers entries.names).length then
    raise (.profile .backupCapacity)

/-- `_entry_exists` -/
def entryExists (path : Path) : Fs Bool := do
  match ← attempt (.lstat path) with
  | .ok _ => return true
  | .error .fileNotFound => return false
  | .error _ => raise (.profile .filesystemBoundary)

/-- `_available_identifier`, in at most so many attempts. -/
def availableIdentifier (directory : Path) (now : Moment) : Nat → Fs String
  | 0 => raise (.profile .backupWriteFailed)
  | attempts + 1 => do
    let suffix : String ← sys (.token 6)
    let candidate := String.ofList now.compact ++ "-" ++ suffix
    if isBackupId candidate then
      if ← entryExists (directory ++ [managedFile candidate .yaml]) then
        availableIdentifier directory now attempts
      else if ← entryExists (directory ++ [managedFile candidate .json]) then
        availableIdentifier directory now attempts
      else return candidate
    else raise (.profile .backupWriteFailed)

/-- `isinstance(error, ProfileOperationError)` -/
def FsException.isProfileError : FsException → Bool
  | profile _ => true
  | busy => true
  | atomicWrite _ => true
  | os _ => false
  | valueError => false

/-- The arguments of `create` beside the directory. -/
structure BackupRequest where
  source : SecureFileSnapshot
  operation : BackupOperation
  maximumBackups : Int
  targetProfileId : Option String
  targetBackupId : Option String

/-- `create` before its first write.  The clock reads a time in UTC, or none without a zone. -/
def prepareBackup (uid : Nat) (directory : Path) (request : BackupRequest)
    (clock : Option Moment) : Fs (BackupManifest × Bytes) := do
  ensureCapacity uid directory request.maximumBackups
  match clock with
  | none => raise (.profile .backupWriteFailed)
  | some now =>
    let backupId ← availableIdentifier directory now 8
    let manifest ← ofExcept (BackupManifest.construct {
      backupId
      createdAtUtc := String.ofList now.canonical
      sourceSha256 := request.source.sha256
      sourceByteCount := request.source.data.length
      operation := request.operation
      targetProfileId := request.targetProfileId
      targetBackupId := request.targetBackupId })
    let manifestBytes ← ofExcept (serializeManifest manifest)
    return (manifest, manifestBytes)

/-- The body of the `try` statement of `create`. -/
def writePair (uid : Nat) (directory : Path) (backupId : String) (payload manifest : Bytes) :
    Fs Unit := do
  writeNewFile uid directory (managedFile backupId .yaml) payload
  writeNewFile uid directory (managedFile backupId .json) manifest
  fsyncDirectory uid directory true

/-- The handler of `create`: make the directory durable, and raise again. -/
def syncAndRaise (uid : Nat) (directory : Path) (e : FsException) : Fs α := do
  if e.isProfileError then
    match ← (fsyncDirectory uid directory true).catching with
    | .ok () => raise e
    | .error again => if again.isProfileError then raise e else raise again
  else raise e

/-- `BackupRepository.create` -/
def createBackup (uid : Nat) (directory : Path) (request : BackupRequest)
    (clock : Option Moment) : Fs BackupManifest := do
  let (manifest, manifestBytes) ← prepareBackup uid directory request clock
  match ← (writePair uid directory manifest.backupId request.source.data manifestBytes).catching with
  | .ok () => return manifest
  | .error e => syncAndRaise uid directory e

end Aurora.ConfigProfiles
