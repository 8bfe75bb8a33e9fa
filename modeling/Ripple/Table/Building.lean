-- SUMMARY: The build of the table index from mapper files or from its snapshot.
import Ripple.BuildModule.Files
import Ripple.Cache.Snapshot
import Ripple.Digest.Fingerprint
import Ripple.Mapper.Reading
import Ripple.Table.Index
import Ripple.Workers

/-! # Building the index of tables

The index is taken from its snapshot if that is usable, and else made from all mapper files.
-/

namespace Ripple.TableIndex

/-- A mapper file with the name of its module. -/
abbrev LocatedMapper := Path × String

/-- The snapshot of the index. -/
def snapshotFile (settings : Settings) (journal : String) : SnapshotFile where
  path := settings.tableIndexFile
  kind := "table_index"
  strict := settings.cacheValidation == .fingerprint
  journal := journal

/-- The mapper files of all modules. -/
def locate (files : Disk) (settings : Settings) (modules : List BuildModule) :
    Except Fault (List LocatedMapper) := do
  let found ← modules.mapM fun m => do
    return (← m.mapperFiles files settings modules).map fun path => (path, m.name)
  return found.flatten

/-- What goes into the fingerprint beside the mapper files. -/
def notes (includes : Bool) (mappers : List LocatedMapper) : List String :=
  ("resolve_includes=" ++ if includes then "True" else "False") ::
    mappers.map fun (path, name) => path.text ++ "=" ++ name

/-- The fingerprint of the mapper files. -/
def fingerprint (files : Disk) (includes : Bool) (mappers : List LocatedMapper) :
    Except FileError String :=
  Fingerprint.digest files .content (notes includes mappers) (mappers.map (·.1))

/-- The index in a usable snapshot. -/
def loadCached (file : SnapshotFile) (fingerprint : Json) : Work (Option (TableIndex Json)) :=
  file.loadAs ofJson "table index"
    (fun index => "Loaded " ++ toString index.length ++ " tables from the table index cache")
    fingerprint

/-- How far the building has come. -/
structure Progress where
  index : TableIndex := []
  /-- The number of tables in the last snapshot. -/
  saved : Nat := 0
  statements : Nat := 0

/-- Adds the statements of a mapper file. -/
def Progress.add (progress : Progress) (mentions : List Mapper.Mentions) : Progress :=
  { progress with
    index := mentions.foldl addMention progress.index
    statements := progress.statements + mentions.length }

/-- Adds the statements of a mapper file, and saves what is there once there are enough new
tables. -/
def Progress.step (settings : Settings) (file : SnapshotFile) (fingerprint : String)
    (progress : Progress) (mentions : List Mapper.Mentions) : Work Progress := do
  let progress := progress.add mentions
  if settings.tableIndexFlush ≤ (progress.index.length : Int) - progress.saved then
    let _ ← file.save progress.index.json (.str fingerprint) (.bool false)
    return { progress with saved := progress.index.length }
  else return progress

/-- The statements of a mapper file with their tables. -/
def readMapper (settings : Settings) : Labor LocatedMapper (List Mapper.Mentions) :=
  fun files (path, name) => Mapper.loadMentions files settings.resolveIncludes path name

/-- Makes the index of mapper files. -/
def index (settings : Settings) (file : SnapshotFile) (fingerprint : String)
    (mappers : List LocatedMapper) : Work (TableIndex Json) := do
  let (progress, fault?) ←
    Workers.foldWith settings (readMapper settings) (Progress.step settings file fingerprint) {}
      mappers
  match fault? with
  | some fault => throw fault
  | none =>
    let _ ← file.save progress.index.json (.str fingerprint) (.bool true)
    file.log .info ("Table index built. Tables: " ++ toString progress.index.length ++
      ", statements: " ++ toString progress.statements ++ ".")
    return progress.index.map .str

/-- The index in a usable snapshot, or else that of the mapper files. -/
def loadOrIndex (settings : Settings) (file : SnapshotFile) (fingerprint : String)
    (mappers : List LocatedMapper) : Work (TableIndex Json) := do
  match ← loadCached file (.str fingerprint) with
  | some index => return index
  | none => index settings file fingerprint mappers

/-- The index of the mapper files of modules. -/
def build (settings : Settings) (journal : String) (modules : List BuildModule) :
    Work (TableIndex Json) := do
  let file := snapshotFile settings journal
  file.log .info "--- Building table index ---"
  let files ← Work.files
  let mappers ← Work.ofExcept (locate files settings modules)
  file.log .info ("Found " ++ toString mappers.length ++ " mapper XML files in " ++
    toString modules.length ++ " modules")
  let fingerprint ← Work.ofFiles (fingerprint files settings.resolveIncludes mappers)
  loadOrIndex settings file fingerprint mappers

end Ripple.TableIndex
