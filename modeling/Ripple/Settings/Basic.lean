-- SUMMARY: Settings: default values, checks, and the settings that values make on a machine with some processors.
import Ripple.Datum
import Ripple.Path
import Ripple.Policy.Basic
import Ripple.Text.Order
import Ripple.Text.Upper

/-! # Settings -/

namespace Ripple

/-- When a snapshot on disk is used: if the files are as they were, or whenever it is there. -/
inductive Validation where
  | fingerprint
  | presence
deriving DecidableEq, Repr

/-- Where items are worked on in parallel. -/
inductive Executor where
  | process
  | thread
deriving DecidableEq, Repr

/-- Where and how the analyzer works. Values that are only used later are kept as they are given. -/
structure Settings where
  cacheDir : Path
  tableIndexFile : Path
  repositoryMappingFile : Path
  callSiteLogFile : Path
  cacheValidation : Validation
  tableIndexFlush : Int
  repositoryMappingFlush : Int
  callSiteLogBatch : Int
  moduleDescriptor : Datum
  sourceDir : Datum
  resourceDirs : List Datum
  excludedDirs : List Datum
  mapperPathMarkers : List Datum
  sourceEncoding : Datum
  resolveIncludes : Bool
  workers : Datum
  executor : Executor
  conventions : Policy Datum
  namingPolicyFile : Option Path
  logLevel : Datum
  logFormat : Datum

namespace Settings

/-- Named values; every name is there once. -/
abbrev Values := List (String × Datum)

def texts (items : List String) : Datum :=
  .seq (items.map .text)

/-- The values where nothing else is said. -/
def defaults : Values :=
  [("CACHE_DIR", .text ".impact_cache"),
    ("TABLE_INDEX_FILE", .text "table_xml_mapping.json"),
    ("REPOSITORY_MAPPING_FILE", .text "table_repo_mapping.json"),
    ("CALL_SITE_LOG_FILE", .text "call_references.jsonl"),
    ("CACHE_VALIDATION", .text "fingerprint"),
    ("TABLE_INDEX_FLUSH_EVERY", .int 1000),
    ("REPOSITORY_MAPPING_FLUSH_EVERY", .int 1000),
    ("CALL_SITE_LOG_BATCH_SIZE", .int 1000),
    ("MODULE_DESCRIPTOR", .text "pom.xml"),
    ("SOURCE_DIR", .text "src"),
    ("RESOURCE_DIRS", texts ["src/main/resources", "src/resources"]),
    ("EXCLUDED_DIRS",
      texts ["target", "build", "bin", "out", "node_modules", ".git", ".svn", ".idea",
        ".impact_cache"]),
    ("MAPPER_PATH_MARKERS", texts ["src/com/", "src/main/java/", "src/main/resources/"]),
    ("SOURCE_ENCODING", .text "utf-8"),
    ("RESOLVE_SQL_INCLUDES", .bool false),
    ("WORKERS", .null),
    ("EXECUTOR", .text "process"),
    ("BUSINESS_LAYER_MARKERS", texts Policy.standard.businessMarkers),
    ("BUSINESS_LAYER_SUFFIXES", texts Policy.standard.businessSuffixes),
    ("DATA_ACCESS_MARKERS", texts Policy.standard.accessMarkers),
    ("DATA_ACCESS_SUFFIXES", texts Policy.standard.accessSuffixes),
    ("NAMING_POLICY_FILE", .text "naming_policy.yml"),
    ("LOG_LEVEL", .text "INFO"),
    ("LOG_FORMAT", .text "%(message)s")]

/-- The names of values that must not be missing. -/
def required : List String :=
  ["CACHE_DIR", "TABLE_INDEX_FILE", "REPOSITORY_MAPPING_FILE", "CALL_SITE_LOG_FILE",
    "CACHE_VALIDATION", "MODULE_DESCRIPTOR", "SOURCE_DIR", "MAPPER_PATH_MARKERS"]

/-- The names of values that are counts. -/
def counts : List String :=
  ["TABLE_INDEX_FLUSH_EVERY", "REPOSITORY_MAPPING_FLUSH_EVERY", "CALL_SITE_LOG_BATCH_SIZE"]

/-- The workers where none are asked for: one for each processor, and one if their number is not
known. -/
def workersFor (processors : Option Nat) : Nat :=
  max 1 (processors.getD 1)

def upperName (name : String) : String :=
  String.ofList (Text.upper name.toList)

/-- Values with others put over them. -/
def Values.update (values others : Values) : Values :=
  others.foldl (fun all (name, value) => putField name value all) values

/-- Values under their names in upper case. -/
def Values.ofFields (fields : List (String × Datum)) : Values :=
  fields.foldl (fun all (name, value) => putField (upperName name) value all) []

def Values.get (values : Values) (name : String) : Datum :=
  (values.lookup name).getD .null

/-- Whether a value is missing: null or an empty text. -/
def isMissing : Datum → Bool
  | .null => true
  | .text s => s.isEmpty
  | _ => false

def refuse (reason : String) : Except Fault α :=
  .error (.refusedSettings ("Error: " ++ reason))

def validation? : Datum → Option Validation
  | .text "fingerprint" => some .fingerprint
  | .text "presence" => some .presence
  | _ => none

def executor? : Datum → Option Executor
  | .text "process" => some .process
  | .text "thread" => some .thread
  | _ => none

/-- A count has to be at least one. -/
def checkCount (values : Values) (name : String) : Except Fault Int := do
  let value := values.get name
  let count ← value.integer
  if count < 1 then refuse (name ++ " must be a positive integer, got " ++ value.shown)
  else .ok count

/-- The checks of the values, in the order in which their failures are reported. -/
def check (values : Values) : Except Fault (Validation × Executor) := do
  let missing := required.filter fun name => isMissing (values.get name)
  let unknown := (values.map (·.1)).filter fun name => (defaults.lookup name).isNone
  if !missing.isEmpty then
    refuse ("Missing required configuration parameters: " ++ ", ".intercalate missing)
  else if !unknown.isEmpty then
    refuse ("Unknown configuration parameters: " ++ ", ".intercalate (Text.sortedSet unknown))
  else
    let validationValue := values.get "CACHE_VALIDATION"
    let executorValue := values.get "EXECUTOR"
    match validation? validationValue, executor? executorValue with
    | none, _ =>
      refuse ("CACHE_VALIDATION must be one of ('fingerprint', 'presence'), got '" ++
        validationValue.shown ++ "'")
    | some _, none =>
      refuse ("EXECUTOR must be one of ('process', 'thread'), got '" ++ executorValue.shown ++ "'")
    | some validation, some executor =>
      let _ ← counts.mapM (checkCount values)
      match values.get "WORKERS" with
      | .null => .ok (validation, executor)
      | _ =>
        let _ ← checkCount values "WORKERS"
        .ok (validation, executor)

/-- A path, which has to be a text. -/
def path (value : Datum) : Except Fault Path := do
  return Path.ofText (← value.asText)

/-- A path that may be left out. -/
def optionalPath (value : Datum) : Except Fault (Option Path) :=
  if value.isEmpty then .ok none else some <$> path value

/-- The members of a set, which have to be keys. -/
def members (value : Datum) : Except Fault (List Datum) := do
  let items ← value.items
  if items.all Datum.isKey then .ok (Datum.distinct items) else .error .wrongType

/-- The settings of some values on a machine with so many processors. -/
def ofValues (processors : Option Nat) (values : Values) : Except Fault Settings := do
  let (cacheValidation, executor) ← check values
  let cacheDir ← path (values.get "CACHE_DIR")
  let inCache (name : String) : Except Fault Path := do
    return cacheDir.join (← path (values.get name))
  let workers := values.get "WORKERS"
  return {
    cacheDir, cacheValidation, executor
    tableIndexFile := ← inCache "TABLE_INDEX_FILE"
    repositoryMappingFile := ← inCache "REPOSITORY_MAPPING_FILE"
    callSiteLogFile := ← inCache "CALL_SITE_LOG_FILE"
    tableIndexFlush := ← (values.get "TABLE_INDEX_FLUSH_EVERY").integer
    repositoryMappingFlush := ← (values.get "REPOSITORY_MAPPING_FLUSH_EVERY").integer
    callSiteLogBatch := ← (values.get "CALL_SITE_LOG_BATCH_SIZE").integer
    moduleDescriptor := values.get "MODULE_DESCRIPTOR"
    sourceDir := values.get "SOURCE_DIR"
    resourceDirs := ← (values.get "RESOURCE_DIRS").items
    excludedDirs := ← members (values.get "EXCLUDED_DIRS")
    mapperPathMarkers := ← (values.get "MAPPER_PATH_MARKERS").items
    sourceEncoding := values.get "SOURCE_ENCODING"
    resolveIncludes := !(values.get "RESOLVE_SQL_INCLUDES").isEmpty
    workers := if workers.isEmpty then .int (workersFor processors) else workers
    conventions := {
      businessMarkers := ← (values.get "BUSINESS_LAYER_MARKERS").items
      businessSuffixes := ← (values.get "BUSINESS_LAYER_SUFFIXES").items
      accessMarkers := ← (values.get "DATA_ACCESS_MARKERS").items
      accessSuffixes := ← (values.get "DATA_ACCESS_SUFFIXES").items }
    namingPolicyFile := ← optionalPath (values.get "NAMING_POLICY_FILE")
    logLevel := values.get "LOG_LEVEL"
    logFormat := values.get "LOG_FORMAT" }

end Settings

end Ripple
