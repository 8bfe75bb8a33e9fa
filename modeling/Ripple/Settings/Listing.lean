-- SUMMARY: Settings and naming policies listed as JSON.
import Ripple.Settings.Basic

/-! # Listings of settings -/

namespace Ripple

namespace Datum

mutual

/-- A value as JSON, as close as JSON comes to it. -/
def toJson : Datum → Json
  | .null => .null
  | .bool b => .bool b
  | .int n => .int n
  | .real x => .real x
  | .text s => .str s
  | .moment time => .str time.shown
  | .bytes content => .str (String.ofList (content.map fun b => Char.ofNat b.toNat))
  | .seq items => .arr (toJsonItems items)
  | .map fields => .obj (toJsonFields fields)
  | .set items => .arr (toJsonItems items)
  | .pair first second => .arr [toJson first, toJson second]
  | .knot _ value => toJson value

def toJsonItems : List Datum → List Json
  | [] => []
  | item :: items => toJson item :: toJsonItems items

def toJsonFields : List (Datum × Datum) → List (String × Json)
  | [] => []
  | (key, value) :: fields => (key.shown, toJson value) :: toJsonFields fields

end

/-- The array of values. -/
def array (items : List Datum) : Json :=
  .arr (items.map toJson)

end Datum

/-- The conventions of a policy by name. -/
def Policy.listing (policy : Policy Datum) : List (String × Json) :=
  [("business_layer_markers", Datum.array policy.businessMarkers),
    ("business_layer_suffixes", Datum.array policy.businessSuffixes),
    ("data_access_markers", Datum.array policy.accessMarkers),
    ("data_access_suffixes", Datum.array policy.accessSuffixes)]

def Validation.name : Validation → String
  | .fingerprint => "fingerprint"
  | .presence => "presence"

def Executor.name : Executor → String
  | .process => "process"
  | .thread => "thread"

/-- The settings by name. -/
def Settings.listing (s : Settings) : List (String × Json) :=
  [("cache_dir", .str s.cacheDir.text), ("table_index_file", .str s.tableIndexFile.text),
    ("repository_mapping_file", .str s.repositoryMappingFile.text),
    ("call_site_log_file", .str s.callSiteLogFile.text),
    ("cache_validation", .str s.cacheValidation.name),
    ("table_index_flush_every", .int s.tableIndexFlush),
    ("repository_mapping_flush_every", .int s.repositoryMappingFlush),
    ("call_site_log_batch_size", .int s.callSiteLogBatch),
    ("module_descriptor", s.moduleDescriptor.toJson), ("source_dir", s.sourceDir.toJson),
    ("resource_dirs", Datum.array s.resourceDirs),
    ("excluded_dirs", Datum.array (Text.sortedBy Datum.shown s.excludedDirs)),
    ("mapper_path_markers", Datum.array s.mapperPathMarkers),
    ("source_encoding", s.sourceEncoding.toJson),
    ("resolve_sql_includes", .bool s.resolveIncludes), ("workers", s.workers.toJson),
    ("executor", .str s.executor.name)] ++
    s.conventions.listing ++
    [("naming_policy_file", match s.namingPolicyFile with
        | some path => .str path.text
        | none => .null),
      ("log_level", s.logLevel.toJson), ("log_format", s.logFormat.toJson)]

end Ripple
