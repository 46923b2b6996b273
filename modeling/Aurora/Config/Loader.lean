/-
  Loading settings: YAML, the environment and the command line, one merged over the other.

  Keys of a mapping are texts or other values; a value that is no mapping is of any type, into which
  the values of environment variables are embedded.  The readers of numbers and the text methods are
  those of the interpreter, the YAML document and the validation of the settings those of their
  libraries.
-/
import Aurora.Config.Merging
import Aurora.Lib.Binary64

namespace Aurora.Config

/-! ## Environment variables -/

/-- The keys of a document: texts, and what else YAML has. -/
inductive ConfigKey (ι : Type)
  | text (s : String)
  | other (i : ι)
deriving DecidableEq

/-- The types an environment variable is read as. -/
inductive EnvironmentType
  | bool
  | int
  | float
  | str
  | tuple
deriving DecidableEq

/-- The value of an environment variable. -/
inductive EnvironmentValue
  | bool (b : Bool)
  | int (n : Int)
  | float (x : FloatValue)
  | str (s : String)
  | tuple (parts : List String)

/-- What the interpreter makes of a text. -/
structure TextReaders where
  int? : String → Option Int
  float? : String → Option FloatValue
  strip : String → String
  lower : String → String

/-- `ConfigurationFileError` and `ConfigurationValidationError`; a value that is no mapping where one
    is needed; and what `load_yaml_file` lets through. -/
inductive ConfigurationException
  | file (message : String)
  | validation (message : String)
  | typeError
  | escaped
deriving DecidableEq

/-- `_ENVIRONMENT_FIELDS` -/
def environmentFields : List (List String × EnvironmentType) :=
  [(["application", "name"], .str), (["application", "configuration_profile"], .str),
    (["logging", "level"], .str), (["logging", "structured_output"], .bool),
    (["hyperhdr", "enabled"], .bool), (["hyperhdr", "host"], .str), (["hyperhdr", "port"], .int),
    (["hyperhdr", "validation_timeout_seconds"], .float),
    (["hyperhdr", "controls", "enabled"], .bool),
    (["hyperhdr", "controls", "allowed_operations"], .tuple),
    (["hyperhdr", "controls", "timeout_seconds"], .float),
    (["hyperhdr", "controls", "operation_limit"], .int),
    (["hyperhdr", "controls", "operation_window_seconds"], .int), (["wled", "enabled"], .bool),
    (["wled", "host"], .str), (["wled", "port"], .int),
    (["wled", "validation_timeout_seconds"], .float), (["wled", "expected_led_count"], .int),
    (["wled", "expected_active_led_count"], .int), (["wled", "expected_skipped_leds"], .int),
    (["wled", "controls", "enabled"], .bool), (["wled", "controls", "allowed_operations"], .tuple),
    (["wled", "controls", "timeout_seconds"], .float),
    (["wled", "controls", "maximum_brightness"], .int),
    (["wled", "controls", "operation_limit"], .int),
    (["wled", "controls", "operation_window_seconds"], .int),
    (["ambient_controls", "enabled"], .bool), (["ambient_controls", "allowed_operations"], .tuple),
    (["ambient_controls", "operation_limit"], .int),
    (["ambient_controls", "operation_window_seconds"], .int), (["ddp", "enabled"], .bool),
    (["ddp", "host"], .str), (["ddp", "port"], .int), (["capture_device", "enabled"], .bool),
    (["capture_device", "identifier"], .str), (["led_layout", "orientation"], .str),
    (["led_layout", "starting_corner"], .str), (["dashboard", "bind_host"], .str),
    (["dashboard", "port"], .int), (["dashboard", "refresh_seconds"], .int),
    (["dashboard", "cpu_temperature_warning_c"], .float),
    (["dashboard", "memory_warning_percent"], .float),
    (["dashboard", "storage_warning_percent"], .float),
    (["dashboard", "authentication", "enabled"], .bool),
    (["dashboard", "authentication", "username"], .str),
    (["dashboard", "authentication", "password_hash"], .str),
    (["dashboard", "authentication", "session_ttl_minutes"], .int),
    (["dashboard", "authentication", "maximum_sessions"], .int),
    (["dashboard", "authentication", "secure_cookie"], .bool),
    (["dashboard", "authentication", "login_attempt_limit"], .int),
    (["dashboard", "authentication", "login_attempt_window_seconds"], .int),
    (["health_history", "enabled"], .bool), (["health_history", "database_path"], .str),
    (["health_history", "database_mode"], .str),
    (["health_history", "sample_interval_seconds"], .int),
    (["health_history", "retention_days"], .int), (["mqtt", "enabled"], .bool),
    (["mqtt", "host"], .str), (["mqtt", "port"], .int), (["mqtt", "username"], .str),
    (["mqtt", "password"], .str)]

/-- The variable of a path. -/
def environmentVariable (path : List String) : String :=
  "AURORA_" ++ String.intercalate "__" (path.map String.toUpper)

/-- `value.split(",")` -/
def splitCommas (value : String) : List String :=
  (value.toList.splitOn ',').map String.ofList

/-- `_parse_environment_value` -/
def parseEnvironmentValue (readers : TextReaders) (name value : String) :
    EnvironmentType → Except ConfigurationException EnvironmentValue
  | .str => .ok (.str value)
  | .float =>
    match readers.float? value with
    | some x => .ok (.float x)
    | none => .error (.validation ("Invalid float value for environment variable " ++ name))
  | .int =>
    match readers.int? value with
    | some n => .ok (.int n)
    | none => .error (.validation ("Invalid integer value for environment variable " ++ name))
  | .tuple =>
    if readers.strip value = "" then .ok (.tuple [])
    else .ok (.tuple ((splitCommas value).map readers.strip))
  | .bool =>
    if readers.lower (readers.strip value) ∈ ["1", "true", "yes", "on"] then .ok (.bool true)
    else if readers.lower (readers.strip value) ∈ ["0", "false", "no", "off"] then .ok (.bool false)
    else .error (.validation ("Invalid boolean value for environment variable " ++ name))

/-- The assignment to the last key of a path, below mappings that `setdefault` finds or adds; none
    when something else is in the way. -/
def setPath {κ α : Type} [DecidableEq κ] (value : Tree κ α) :
    List κ → Entries κ α → Option (Entries κ α)
  | [], _ => none
  | [key], entries => some (setKey key value entries)
  | key :: rest, entries =>
    match entries.lookup key with
    | none => (setPath value rest []).map fun below => setKey key (.mapping below) entries
    | some (.mapping below) =>
      (setPath value rest below).map fun below => setKey key (.mapping below) entries
    | some (.leaf _) => none

section Paths

variable {κ α : Type} [DecidableEq κ] {value : Tree κ α}

theorem setPath_distinct (hvalue : value.Distinct) {path : List κ} {entries result : Entries κ α}
    (hentries : (Tree.mapping entries).Distinct) (h : setPath value path entries = some result) :
    (Tree.mapping result).Distinct := by
  fun_induction setPath value path entries generalizing result with
  | case1 => cases h
  | case2 key entries =>
    obtain rfl := Option.some.inj h
    exact hentries.setKey hvalue key
  | case3 key rest entries _ _ ih =>
    obtain ⟨below, hbelow, rfl⟩ := Option.map_eq_some_iff.mp h
    exact hentries.setKey (ih ConfigMapping.distinct_nil hbelow) key
  | case4 key rest entries _ below hlookup ih =>
    obtain ⟨below', hbelow, rfl⟩ := Option.map_eq_some_iff.mp h
    exact hentries.setKey (ih (hentries.of_lookup hlookup) hbelow) key
  | case5 => cases h

omit [DecidableEq κ] in
theorem distinct_leaf (a : α) : (Tree.leaf a : Tree κ α).Distinct := by
  unfold Tree.Distinct
  exact True.intro

/-- Set the leaf at a path of a mapping. -/
def ConfigMapping.setPath (path : List κ) (a : α) (m : ConfigMapping κ α) :
    Option (ConfigMapping κ α) :=
  match h : Config.setPath (.leaf a) path m.entries with
  | none => none
  | some entries => some ⟨entries, setPath_distinct (distinct_leaf a) m.distinct h⟩

theorem ConfigMapping.setPath_entries (path : List κ) (a : α) (m : ConfigMapping κ α) :
    (m.setPath path a).map ConfigMapping.entries = Config.setPath (.leaf a) path m.entries := by
  unfold ConfigMapping.setPath
  split
  · rename_i h
    exact h.symm
  · rename_i h
    exact h.symm

end Paths

section Loading

variable {ι α σ : Type} [DecidableEq ι] (readers : TextReaders) (ofEnvironment : EnvironmentValue → α)

/-- The loop of `environment_overrides` over the fields. -/
def overridesFrom (source : String → Option String) : List (List String × EnvironmentType) →
    ConfigMapping (ConfigKey ι) α → Except ConfigurationException (ConfigMapping (ConfigKey ι) α)
  | [], overrides => .ok overrides
  | (path, target) :: rest, overrides =>
    match source (environmentVariable path) with
    | none => overridesFrom source rest overrides
    | some raw =>
      match parseEnvironmentValue readers (environmentVariable path) raw target with
      | .error e => .error e
      | .ok value =>
        match overrides.setPath (path.map .text) (ofEnvironment value) with
        | some overrides => overridesFrom source rest overrides
        | none => .error .typeError

/-- `environment_overrides` -/
def environmentOverrides (source : String → Option String) :
    Except ConfigurationException (ConfigMapping (ConfigKey ι) α) :=
  overridesFrom readers ofEnvironment source environmentFields .empty

/-! ## Settings -/

/-- What reading a YAML file comes to. -/
inductive YamlOutcome (ι α : Type)
  | notFound
  | unreadable
  | failed
  | malformed
  /-- An exception of no listed kind: the text is not UTF-8, or nested too deep. -/
  | escaping
  | null
  | mapping (document : ConfigMapping (ConfigKey ι) α)
  | other

omit [DecidableEq ι] in
/-- `load_yaml_file` -/
def loadYamlFile (path : String) :
    YamlOutcome ι α → Except ConfigurationException (ConfigMapping (ConfigKey ι) α)
  | .notFound => .error (.file ("Configuration file not found: " ++ path))
  | .unreadable => .error (.file ("Configuration file is unreadable: " ++ path))
  | .failed => .error (.file ("Configuration file could not be read: " ++ path))
  | .malformed => .error (.file ("Configuration file contains malformed YAML: " ++ path))
  | .escaping => .error .escaped
  | .null => .ok .empty
  | .mapping document => .ok document
  | .other => .error (.file "Configuration YAML root must be a mapping")

/-- The arguments of `load_settings`. -/
structure SettingsSources (ι α : Type) where
  /-- A path, and what reading it comes to. -/
  configPath : Option (String × YamlOutcome ι α)
  configData : Option (ConfigMapping (ConfigKey ι) α)
  environment : String → Option String
  cliOverrides : Option (ConfigMapping (ConfigKey ι) α)

/-- The lowest source: the file, the data, or nothing. -/
def yamlSettings (sources : SettingsSources ι α) :
    Except ConfigurationException (ConfigMapping (ConfigKey ι) α) :=
  match sources.configPath, sources.configData with
  | some _, some _ => .error (.file "Only one YAML configuration source is allowed")
  | some (path, outcome), none => (loadYamlFile path outcome).map (deepMerge .empty)
  | none, some document => .ok (deepMerge .empty document)
  | none, none => .ok .empty

/-- `load_settings`; validation returns the settings, or the text of its errors. -/
def loadSettings (validate : ConfigMapping (ConfigKey ι) α → Except String σ)
    (sources : SettingsSources ι α) : Except ConfigurationException σ := do
  let merged ← yamlSettings sources
  let environment ← environmentOverrides readers ofEnvironment sources.environment
  let merged := deepMerge merged environment
  let merged := match sources.cliOverrides with
    | some overrides => deepMerge merged overrides
    | none => merged
  match validate merged with
  | .ok settings => .ok settings
  | .error message => .error (.validation ("Invalid configuration: " ++ message))

end Loading

end Aurora.Config
