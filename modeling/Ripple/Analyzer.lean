-- SUMMARY: The analyzer with its three indices: preparing all or none of them, and answering queries about tables.
import Ripple.Call.Building
import Ripple.Impact.Analysis
import Ripple.Settings.Listing
import Ripple.Settings.Reading
import Ripple.Table.Building

/-! # The analyzer

An analyzer builds the indices of a source tree, all or none of them, and answers queries once they
are built.
-/

namespace Ripple

/-- An analyzer with its indices. -/
structure Analyzer where
  settings : Settings
  policy : Policy Datum
  /-- What the repository sources read so far declare. -/
  declared : Repository.Declared := []
  modules : List BuildModule := []
  indices : Impact.Indices := {}
  /-- Whether the last building was completed. -/
  ready : Bool := false

/-- Numbers about the indices. -/
structure Statistics where
  tables : Nat
  mappings : Nat
  methods : Nat
  resolvedMethods : Nat
  callees : Nat
  references : Nat
  filesIndexed : Nat
  filesFailed : Nat
deriving DecidableEq, Repr

/-- The numbers by name. -/
def Statistics.listing (s : Statistics) : List (String × Nat) :=
  [("tables_indexed", s.tables), ("repository_mappings", s.mappings),
    ("repository_methods", s.methods), ("resolved_repository_methods", s.resolvedMethods),
    ("distinct_callees", s.callees), ("total_call_references", s.references),
    ("source_files_indexed", s.filesIndexed), ("source_files_failed", s.filesFailed)]

namespace Analyzer

def journal : String := "table_impact.analyzer"

/-- The journal of a part of the analyzer. -/
def partJournal (part : String) : String :=
  journal ++ "." ++ part

def scannerJournal : String := partJournal "scanner"
def tableJournal : String := partJournal "table_index"
def linkerJournal : String := partJournal "repository_linker"
def callJournal : String := partJournal "call_index"

/-- An analyzer without indices. Its policy is the given one, or the one that the settings name. -/
def create (settings : Settings) (policy? : Option (Policy Datum)) : Work Analyzer := do
  match policy? with
  | some policy => return { settings, policy }
  | none =>
    let (messages, policy) ← Work.ofExcept (settings.policy (← Work.files) journal)
    Work.report messages
    return { settings, policy }

/-- An analyzer over indices that were built elsewhere. -/
def ofIndices (analyzer : Analyzer) (indices : Impact.Indices) : Analyzer :=
  { analyzer with indices, ready := true }

/-- The modules below a folder. -/
def scan (settings : Settings) (root : Path) : Work (List BuildModule) := do
  let (messages, modules) := BuildModule.scan (← Work.files) settings scannerJournal root
  Work.report messages
  Work.ofExcept modules

/-- What the analyzer links statements with. -/
def linker (analyzer : Analyzer) : Repository.Linker :=
  ⟨analyzer.settings, analyzer.policy, linkerJournal⟩

/-- The table index and the repository mappings of modules, and what is now known to be declared. -/
def buildTables (analyzer : Analyzer) (modules : List BuildModule) :
    Work (Repository.Declared × Except Fault (TableIndex Json × RepositoryMappings Json)) := do
  match ← (TableIndex.build analyzer.settings tableJournal modules).attempt with
  | .error fault => return (analyzer.declared, .error fault)
  | .ok tables =>
    let (declared, mappings) ← Repository.link analyzer.linker analyzer.declared tables
    return (declared, mappings.map fun mappings => (tables, mappings))

/-- The modules of a tree and their source files. -/
def start (settings : Settings) (root : Path) : Work (List BuildModule × List Path) := do
  let rule := String.ofList (List.replicate 50 '=')
  Work.log .info journal rule
  Work.log .info journal ("Initializing impact analyzer for " ++ root.text)
  Work.log .info journal ("Cache directory: " ++ settings.cacheDir.text ++ " (validation: " ++
    settings.cacheValidation.name ++ ")")
  Work.log .info journal rule
  let modules ← scan settings root
  let sources := BuildModule.sourceFiles (← Work.files) settings modules
  Work.report [BuildModule.sourcesMessage journal sources]
  return (modules, sources)

/-- The modules and indices of a tree, and what is now known to be declared. The calls are indexed
whatever becomes of the tables; a fault about the tables comes first. -/
def build (analyzer : Analyzer) (root : Path) :
    Work (Repository.Declared × Except Fault (List BuildModule × Impact.Indices)) := do
  match ← (start analyzer.settings root).attempt with
  | .error fault => return (analyzer.declared, .error fault)
  | .ok (modules, sources) =>
    let (declared, tables) ← analyzer.buildTables modules
    -- No fault about the tables is looked at yet, so the log of calls is written in any case.
    let calls ← (CallIndex.build analyzer.settings callJournal sources).attempt
    let built := do
      let (tables, mappings) ← tables
      return (modules, { tables, mappings, calls := ← calls })
    if let .error .cancelled := built then
      Work.log .warning journal
        "Initialization cancelled. Waiting for the call-site indexer to stop."
    return (declared, built)

/-- Builds the indices of a tree. If that fails the analyzer keeps its old ones, but answers no
query. -/
def prepare (analyzer : Analyzer) (root : Path) : Work (Analyzer × Option Fault) := do
  let (declared, built) ← analyzer.build root
  match built with
  | .error fault => return ({ analyzer with declared, ready := false }, some fault)
  | .ok (modules, indices) =>
    Work.log .info journal "Impact analyzer initialized."
    return ({ analyzer with declared, modules, indices, ready := true }, none)

/-- Queries are refused before the indices are built. -/
def checkReady (analyzer : Analyzer) (operation : String) : Except Fault Unit :=
  if analyzer.ready then .ok () else .error (.notInitialized operation)

/-- The layers of the policy, where a convention that is no text says nothing. -/
def layers (analyzer : Analyzer) : Layers :=
  analyzer.policy.layersAny

/-- It is a fault to meet a caller that the policy cannot tell the layer of. -/
def checkCallers (analyzer : Analyzer) (method : String) : Except Fault Unit :=
  if analyzer.policy.hasOnlyTexts then .ok ()
  else
    (Impact.search analyzer.indices.calls analyzer.layers method).met.forM fun caller =>
      discard (analyzer.policy.isBusinessMethodAny caller)

/-- The chains that lead to a repository method. -/
def findChains (analyzer : Analyzer) (method table : String) : Except Fault (List CallChain) := do
  analyzer.checkReady "find_call_chains"
  analyzer.checkCallers method
  return Impact.chains analyzer.indices.calls analyzer.layers method table

/-- What is told about the result for a table. -/
def resultMessages (result : ImpactResult Json) : Impact.Finding → List Message
  | .unknown => [⟨.warning, journal, Impact.unknownWarning result.table⟩]
  | .unlinked _ => []
  | .linked _ methods =>
    [⟨.info, journal, "Table " ++ result.table ++ ": " ++
      toString (TableMapping.resolvedOf methods).length ++ " repository methods, " ++
      toString result.chains.length ++ " call chains, " ++ toString result.impacts.length ++
      " business impacts."⟩]

/-- It is a fault to come to a repository class or a caller that the policy cannot tell the layer
of. -/
def checkFinding (analyzer : Analyzer) : Impact.Finding → Except Fault Unit
  | .unknown | .unlinked _ => .ok ()
  | .linked _ methods => do
    let resolved := TableMapping.resolvedOf methods
    (Impact.owners resolved).forM fun owner => discard (analyzer.policy.isAccessTypeAny owner)
    resolved.forM analyzer.checkCallers

/-- The impact of a table, and the messages about it. -/
def analyze (analyzer : Analyzer) (table : String) :
    Except Fault (List Message × ImpactResult Json) := do
  analyzer.checkReady "analyze_table_impact"
  let table := TableName.normalize table
  let finding ← Impact.find analyzer.indices table
  analyzer.checkFinding finding
  let result := Impact.ofFinding analyzer.indices.calls analyzer.layers table finding
  if result.impacts.all TableImpact.isKey then return (resultMessages result finding, result)
  else .error .wrongType

/-- Several queries are answered by as many workers as are asked for, or by as many as there are
tables, up to the number in the settings. -/
def checkWorkers (analyzer : Analyzer) (workers : Datum) : Except Fault Unit :=
  let positive (workers : Datum) : Except Fault Unit :=
    match workers with
    | .int n => if n ≤ 0 then .error .invalidValue else .ok ()
    | .bool b => if b then .ok () else .error .invalidValue
    | .real (.finite true _ _) | .real (.infinite true) => .error .invalidValue
    | .real _ => .ok ()
    | _ => .error .wrongType
  -- Zero asks for no number, as null does.
  if workers.isEmpty then
    match analyzer.settings.workers with
    | .int _ | .bool _ | .real _ => .ok ()
    | _ => .error .wrongType
  else positive workers

/-- The impacts of several tables under the names that they are asked for by. All queries are made,
whatever becomes of one of them. -/
def analyzeAll (analyzer : Analyzer) (tables : List String) (workers : Datum) :
    Work (List (String × ImpactResult Json)) := do
  Work.ofExcept (analyzer.checkReady "analyze_tables")
  Work.ofExcept (analyzer.checkWorkers workers)
  let answers := tables.map fun table => (table, analyzer.analyze table)
  Work.report (answers.flatMap fun
    | (_, .ok (messages, _)) => messages
    | (_, .error _) => [])
  let results ← Work.ofExcept (answers.mapM fun (table, answer) => do
    return (table, (← answer).2))
  -- A table that is asked for twice keeps its first place.
  return results.foldl (fun all (table, result) => putField table result all) []

/-- Numbers about the indices. The methods in mappings have to be texts. -/
def statistics (analyzer : Analyzer) : Except Fault Statistics := do
  let mappings := List.map (·.2) analyzer.indices.mappings
  let calls := analyzer.indices.calls
  let methods ← mappings.mapM TableMapping.methodTexts
  return {
    tables := analyzer.indices.tables.length
    mappings := mappings.length
    methods := methods.flatten.length
    resolvedMethods := (methods.flatMap TableMapping.resolvedOf).length
    callees := calls.callers.length
    references := calls.totalReferences
    filesIndexed := calls.filesIndexed
    filesFailed := calls.filesFailed }

end Analyzer

end Ripple
