-- SUMMARY: The settings that the defaults make.
import Ripple.Settings.Basic

/-!
# The standard settings

The values where nothing else is said pass all checks, and these are the settings that they make.
-/

namespace Ripple.Settings

/-- The settings where nothing else is said, on a machine with four processors. -/
def standard : Settings where
  cacheDir := { names := [".impact_cache"] }
  tableIndexFile := { names := [".impact_cache", "table_xml_mapping.json"] }
  repositoryMappingFile := { names := [".impact_cache", "table_repo_mapping.json"] }
  callSiteLogFile := { names := [".impact_cache", "call_references.jsonl"] }
  cacheValidation := .fingerprint
  tableIndexFlush := 1000
  repositoryMappingFlush := 1000
  callSiteLogBatch := 1000
  moduleDescriptor := .text "pom.xml"
  sourceDir := .text "src"
  resourceDirs := [.text "src/main/resources", .text "src/resources"]
  excludedDirs :=
    [.text "target", .text "build", .text "bin", .text "out", .text "node_modules", .text ".git",
      .text ".svn", .text ".idea", .text ".impact_cache"]
  mapperPathMarkers :=
    [.text "src/com/", .text "src/main/java/", .text "src/main/resources/"]
  sourceEncoding := .text "utf-8"
  resolveIncludes := false
  workers := .int 4
  executor := .process
  conventions := Policy.standard.map .text
  namingPolicyFile := some { names := ["naming_policy.yml"] }
  logLevel := .text "INFO"
  logFormat := .text "%(message)s"

/-- The defaults are accepted, and make the standard settings but for the number of workers. -/
theorem ofValues_defaults (processors : Option Nat) : ofValues processors defaults =
    .ok { standard with workers := .int (workersFor processors) } := by
  rfl

end Ripple.Settings
