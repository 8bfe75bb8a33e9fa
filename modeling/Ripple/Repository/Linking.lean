-- SUMMARY: The linker of statements to repository methods, with what it has read and its snapshots.
import Ripple.Cache.Snapshot
import Ripple.Digest.Fingerprint
import Ripple.Java.Source
import Ripple.Policy.Reading
import Ripple.Repository.Mapping
import Ripple.Table.Index
import Ripple.Workers

/-! # Linking statements to repository methods

A statement is run by the method of its name in the repository class beside its mapper file. What
the source files of repositories declare is read once and kept.
-/

namespace Ripple

/-- The name of the encoding of source files, which has to be a text if there is one. -/
def Settings.encoding (settings : Settings) : Except Fault String :=
  match settings.sourceEncoding with
  | .text name => .ok name
  | .null => .ok "utf-8"
  | _ => .error .wrongType

namespace Repository

/-- The methods that the source files read so far declare; `none` for a file that cannot be
parsed. -/
abbrev Declared := List (Path × Option (List String))

/-- The snapshot of the mappings. -/
def snapshotFile (settings : Settings) (journal : String) : SnapshotFile where
  path := settings.repositoryMappingFile
  kind := "repository_mapping"
  strict := settings.cacheValidation == .fingerprint
  journal := journal

/-- What a statement is linked by: the path of its mapper file and its id. -/
structure Anchor where
  mapper : String
  id : Json

namespace Anchor

/-- What a statement is linked by. The path has to be a text. -/
def ofStatement (statement : Statement Json) : Except Fault Anchor :=
  match statement.mapperPath with
  | .str mapper => .ok ⟨mapper, statement.statementId⟩
  | .broken codes => .ok ⟨Json.lossyText codes, statement.statementId⟩
  | _ => .error .wrongType

/-- The source file beside the mapper. -/
def file (anchor : Anchor) : Path :=
  repositoryFile (Path.ofText anchor.mapper)

end Anchor

/-- The statements of tables as they are linked. -/
abbrev AnchoredTables := List (String × List Anchor)

/-- The statements of an index as they are linked. -/
def anchored (index : TableIndex Json) : Except Fault AnchoredTables :=
  List.mapM (fun (table, statements) => do return (table, ← statements.mapM Anchor.ofStatement))
    index

/-- The source files beside the mappers, in order. -/
def candidates (tables : AnchoredTables) : List Path :=
  Fingerprint.pathSet (tables.flatMap fun (_, anchors) => anchors.map Anchor.file)

/-- What goes into the fingerprint beside the source files. -/
def notes (index : TableIndex) : List String :=
  Text.sorted (index.flatMap fun (table, statements) => statements.map fun s =>
    table ++ "|" ++ s.mapperPath ++ "|" ++ s.space ++ "|" ++ s.statementId)

/-- Whether what identifies a statement can be written. -/
def isWritable (statement : Statement Json) : Bool :=
  [statement.mapperPath, statement.space, statement.statementId].all fun
    | .broken _ => false
    | _ => true

/-- The fingerprint of an index and of source files. -/
def fingerprint (files : Disk) (index : TableIndex Json) (paths : List Path) :
    Except Fault String :=
  if List.all index fun (_, statements) => statements.all isWritable then
    (Fingerprint.digest files .stamp (notes (index.map Json.shown)) paths).mapError FileError.fault
  else .error .unencodable

/-- The mappings in a usable snapshot. -/
def loadCached (file : SnapshotFile) (fingerprint : Json) :
    Work (Option (RepositoryMappings Json)) :=
  file.loadAs RepositoryMappings.ofJson "repository mapping"
    (fun mappings => "Loaded " ++ toString mappings.length ++ " repository mappings from cache")
    fingerprint

/-- The methods that a source file declares. -/
def readDeclared (settings : Settings) : Labor Path (Path × Option (List String)) :=
  fun files path => do
    let (messages, names) ← Java.loadMethodNames files (← settings.encoding) path
    return (messages, path, names)

/-- Keeps what a source file declares. -/
def keep (journal : String) (declared : Declared) (found : Path × Option (List String)) :
    Work Declared := do
  if found.2.isNone then
    Work.log .warning journal ("Could not parse repository file " ++ found.1.text ++
      ". Its statements stay unresolved.")
  return putField found.1 found.2 declared

/-- The source files that exist and were not read yet. -/
def unread (files : Disk) (declared : Declared) (paths : List Path) :
    Except FileError (List Path) := do
  return (← paths.filterM files.isFileAt).filter fun path => (declared.lookup path).isNone

/-- The entry for a statement of a repository class with declared methods. -/
def methodEntry (type : String) (names : List String) (id : Json) : String :=
  if (names.map Json.str).contains id then type ++ "." ++ id.shown
  else Name.unresolved type (if id.isEmpty then "" else id.shown)

/-- The entry for a statement in the mapping of its table. A repository class without a source file
has no methods at all. -/
def resolve (declared : Declared) (anchor : Anchor) : String :=
  match declared.lookup anchor.file with
  | none => Name.unresolved anchor.file.stem ""
  | some names => methodEntry anchor.file.stem (names.getD []) anchor.id

/-- The mapping of a table to what was declared. -/
def mappingOf (declared : Declared) (table : String) (anchors : List Anchor) : TableMapping where
  table := table
  mapperFiles := (anchors.map (·.mapper)).eraseDups
  classes := (((anchors.map Anchor.file).filter fun file =>
    (declared.lookup file).isSome).map Path.stem).eraseDups
  methods := anchors.map (resolve declared)

/-- Whether a statement can be mapped: the policy has to know the layer of its repository class, and
its id has to be a key. Nothing is asked where there is no source file. -/
def checkAnchor (policy : Policy Datum) (declared : Declared) (anchor : Anchor) :
    Except Fault Unit :=
  match declared.lookup anchor.file with
  | none => .ok ()
  | some _ => do
    let _ ← policy.isAccessTypeAny anchor.file.stem
    if anchor.id.isKey then .ok () else .error .wrongType

/-- What the mapping of an index is made with. -/
structure Linker where
  settings : Settings
  policy : Policy Datum
  journal : String

/-- Maps tables one after the other. The signal is asked before each table, and what is there is
saved once there are enough new mappings. -/
def mapTables (linker : Linker) (file : SnapshotFile) (fingerprint : String)
    (declared : Declared) : RepositoryMappings → Int → AnchoredTables → Work RepositoryMappings
  | mappings, _, [] => return mappings
  | mappings, unsaved, (table, anchors) :: rest => do
    if ← Work.isCancelled then throw .cancelled
    else
      Work.ofExcept (anchors.forM (checkAnchor linker.policy declared))
      let mappings : RepositoryMappings :=
        putField table (mappingOf declared table anchors) mappings
      if linker.settings.repositoryMappingFlush ≤ unsaved + 1 then
        -- If this fails the journal says so, and the mapping goes on.
        let _ ← file.save mappings.json (.str fingerprint) (.bool false)
        mapTables linker file fingerprint declared mappings 0 rest
      else mapTables linker file fingerprint declared mappings (unsaved + 1) rest

/-- Maps all tables to what was declared. -/
def mapIndex (linker : Linker) (file : SnapshotFile) (fingerprint : String)
    (declared : Declared) (tables : AnchoredTables) : Work (RepositoryMappings Json) := do
  let mappings ← mapTables linker file fingerprint declared [] 0 tables
  let _ ← file.save mappings.json (.str fingerprint) (.bool true)
  let resolved := (List.flatMap (fun (_, mapping) => mapping.resolved) mappings).length
  file.log .info ("Repository linking done. Tables: " ++ toString mappings.length ++
    ", resolved methods: " ++ toString resolved ++ ".")
  return mappings.map .str

/-- How an index comes to its mappings. -/
inductive Plan where
  | cached (mappings : RepositoryMappings Json)
  /-- Source files have to be read first. -/
  | read (tables : AnchoredTables) (fingerprint : String) (paths : List Path)

/-- Looks for a usable snapshot, and else for the source files that have to be read. -/
def plan (file : SnapshotFile) (declared : Declared) (index : TableIndex Json) : Work Plan := do
  let tables ← Work.ofExcept (anchored index)
  let paths := candidates tables
  let fingerprint ← Work.ofExcept (fingerprint (← Work.files) index paths)
  match ← loadCached file (.str fingerprint) with
  | some mappings => return .cached mappings
  | none =>
    -- A snapshot may have been deleted, so the files are asked for again.
    return .read tables fingerprint (← Work.ofFiles (unread (← Work.files) declared paths))

/-- Reads source files and maps tables to what all files read so far declare. -/
def readAndMap (linker : Linker) (file : SnapshotFile) (declared : Declared)
    (tables : AnchoredTables) (fingerprint : String) (paths : List Path) :
    Work (Declared × Except Fault (RepositoryMappings Json)) := do
  let (declared, fault?) ←
    Workers.foldWith linker.settings (readDeclared linker.settings) (keep linker.journal)
      declared paths
  match fault? with
  | some fault => return (declared, .error fault)
  | none => return (declared, ← (mapIndex linker file fingerprint declared tables).attempt)

/-- The mappings of an index, and what is now known to be declared. -/
def link (linker : Linker) (declared : Declared) (index : TableIndex Json) :
    Work (Declared × Except Fault (RepositoryMappings Json)) := do
  let file := snapshotFile linker.settings linker.journal
  file.log .info "--- Linking mapper statements to repository methods ---"
  match ← (plan file declared index).attempt with
  | .error fault => return (declared, .error fault)
  | .ok (.cached mappings) => return (declared, .ok mappings)
  | .ok (.read tables fingerprint paths) =>
    readAndMap linker file declared tables fingerprint paths

/-- Reads the source file of a statement, unless it was read before or is not there. -/
def readFor (linker : Linker) (declared : Declared) (path : Path) : Work Declared := do
  let files ← Work.files
  if (declared.lookup path).isSome then return declared
  else if !(← Work.ofFiles (files.isFileAt path)) then return declared
  else
    -- One file needs one worker, but a setting that is no number is still a fault.
    let _ ← Work.ofExcept (WorkPlan.choose linker.settings.workers linker.settings.executor 1)
    let (messages, found) ← Work.ofExcept (readDeclared linker.settings files path)
    Work.report messages
    keep linker.journal declared found

/-- Reads what the statements of a table need, one after the other. -/
def readAll (linker : Linker) :
    Declared → List (Statement Json) → Work (Declared × Except Fault (List Anchor))
  | declared, [] => return (declared, .ok [])
  | declared, statement :: rest => do
    match Anchor.ofStatement statement with
    | .error fault => return (declared, .error fault)
    | .ok anchor =>
      match ← (readFor linker declared anchor.file).attempt with
      | .error fault => return (declared, .error fault)
      | .ok declared =>
        match checkAnchor linker.policy declared anchor with
        | .error fault => return (declared, .error fault)
        | .ok _ =>
          let (declared, anchors) ← readAll linker declared rest
          return (declared, anchors.map (anchor :: ·))

/-- The mapping of one table, and what is now known to be declared. The signal is not asked. -/
def linkTable (linker : Linker) (declared : Declared) (table : String)
    (statements : List (Statement Json)) : Work (Declared × Except Fault TableMapping) := do
  let (declared, anchors) ← readAll linker declared statements
  return (declared, anchors.map (mappingOf declared table))

end Repository

end Ripple
