-- SUMMARY: The analysis of one table: its statements, their repository methods, and the business methods above them.
import Ripple.Chain.Search
import Ripple.Impact.Result
import Ripple.Name.Table
import Ripple.Policy.Basic
import Ripple.Repository.Mapping
import Ripple.Table.Index

/-! # The impact of a table

From the statements of a table to the repository methods that run them, and from there to the
business methods that reach them.
-/

namespace Ripple.Impact

/-- What an analysis looks things up in. -/
structure Indices where
  tables : TableIndex Json := []
  mappings : RepositoryMappings Json := []
  calls : CallIndex := {}

/-- The search for the chains that lead to a repository method. -/
def search (calls : CallIndex) (layers : Layers) (method : String) : ChainSearch.Setting :=
  ⟨calls, layers.isBusiness, method⟩

/-- The chains that lead to a repository method. -/
def chains (calls : CallIndex) (layers : Layers) (method table : String) : List CallChain :=
  ChainSearch.chains (search calls layers method) table

/-- The impacts of a chain whose entry point is in the business layer: one for each statement that
its repository method runs. -/
def ofChain (layers : Layers) (statements : List (Statement ν)) (methods : List String)
    (chain : CallChain) : List (TableImpact ν) :=
  if chain.path.isEmpty || !layers.isBusiness chain.entryPoint then []
  else
    let (serviceClass, serviceMethod) := Name.splitMethod chain.entryPoint
    ((statements.zip methods).filter (·.2 == chain.method)).map fun (statement, _) =>
      { moduleName := statement.moduleName, mapperFile := statement.mapperPath
        space := statement.space, statementId := statement.statementId
        serviceClass, serviceMethod }

/-- The different impacts of chains. -/
def ofChains [BEq ν] (layers : Layers) (statements : List (Statement ν)) (methods : List String)
    (chains : List CallChain) : List (TableImpact ν) :=
  (chains.flatMap (ofChain layers statements methods)).eraseDups

/-- The different types that methods belong to. -/
def owners (methods : List String) : List String :=
  (methods.map Name.ownerOf).eraseDups

/-- The warnings about repository classes that are not named as they should be. -/
def namingWarnings (layers : Layers) (methods : List String) : List String :=
  ((owners methods).filter fun owner => !layers.isAccess owner).map fun owner =>
    "Repository class does not follow the data-access naming convention: " ++ owner

/-- The warning about a repository method that nothing calls. -/
def callerWarning (method : String) (chains : List CallChain) : List String :=
  if chains.length == 1 && chains.all (·.path.isEmpty) then
    ["No callers found for repository method: " ++ method]
  else []

/-- The result for a table whose statements are run by methods, some of which were found. -/
def ofMethods [BEq ν] (calls : CallIndex) (layers : Layers) (table : String)
    (statements : List (Statement ν)) (methods : List String) : ImpactResult ν :=
  let resolved := TableMapping.resolvedOf methods
  let found := resolved.map fun method => (method, chains calls layers method table)
  let chains := found.flatMap (·.2)
  { table, chains
    impacts := ofChains layers statements methods chains
    unresolved := TableMapping.unresolvedOf methods
    warnings := namingWarnings layers resolved ++
      found.flatMap fun (method, chains) => callerWarning method chains }

/-- What is found for a table. -/
inductive Finding where
  /-- No statement mentions the table, or it has no mapping. -/
  | unknown
  /-- None of the methods that run its statements was found. -/
  | unlinked (methods : List String)
  | linked (statements : List (Statement Json)) (methods : List String)

/-- What is found for a table under its normal name. Methods have to be texts. -/
def find (indices : Indices) (table : String) : Except Fault Finding :=
  match indices.tables.statements table, indices.mappings.mapping? table with
  | [], _ => .ok .unknown
  | _, none => .ok .unknown
  | statements, some mapping => do
    let methods ← mapping.methodTexts
    return if (TableMapping.resolvedOf methods).isEmpty then .unlinked methods
      else .linked statements methods

def unknownWarning (table : String) : String :=
  "No mapper methods found for table: " ++ table

/-- The result of what is found for a table. -/
def ofFinding (calls : CallIndex) (layers : Layers) (table : String) :
    Finding → ImpactResult Json
  | .unknown => { table, warnings := [unknownWarning table] }
  | .unlinked methods =>
    { table, unresolved := TableMapping.unresolvedOf methods
      warnings := ["No resolved repository methods for table: " ++ table] }
  | .linked statements methods => ofMethods calls layers table statements methods

end Ripple.Impact
