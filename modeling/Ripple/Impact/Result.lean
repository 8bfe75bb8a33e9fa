-- SUMMARY: Impacts and results of an analysis, and their JSON form.
import Ripple.Chain.Basic
import Ripple.Json.Record

/-! # Results of an analysis -/

namespace Ripple

/-- A statement and a business method that reaches it. What is known about the statement is taken
over as it is. -/
structure TableImpact (ν : Type := String) where
  moduleName : ν
  mapperFile : ν
  space : ν
  statementId : ν
  serviceClass : String
  serviceMethod : String
deriving DecidableEq, Repr

namespace TableImpact

/-- What two impacts are compared by. -/
def parts (impact : TableImpact ν) : (ν × ν × ν × ν) × String × String :=
  ((impact.moduleName, impact.mapperFile, impact.space, impact.statementId),
    impact.serviceClass, impact.serviceMethod)

instance [BEq ν] : BEq (TableImpact ν) := ⟨fun a b => a.parts == b.parts⟩

/-- The same impact with other values in its fields. -/
def map (f : α → β) (impact : TableImpact α) : TableImpact β :=
  ⟨f impact.moduleName, f impact.mapperFile, f impact.space, f impact.statementId,
    impact.serviceClass, impact.serviceMethod⟩

/-- The statement with its namespace. -/
def mapperMethod (impact : TableImpact) : String :=
  impact.space ++ "." ++ impact.statementId

/-- The business method with its type. -/
def businessMethod (impact : TableImpact ν) : String :=
  impact.serviceClass ++ "." ++ impact.serviceMethod

/-- Whether all values can be keys. -/
def isKey (impact : TableImpact Json) : Bool :=
  impact.moduleName.isKey && impact.mapperFile.isKey && impact.space.isKey &&
    impact.statementId.isKey

def toJson (impact : TableImpact Json) : Json :=
  .obj [("moduleName", impact.moduleName), ("mapperXmlFile", impact.mapperFile),
    ("mapperMethod", .str (impact.map Json.shown).mapperMethod),
    ("serviceMethod", .str impact.businessMethod)]

end TableImpact

/-- What is known about the impact of a table. -/
structure ImpactResult (ν : Type := String) where
  table : String
  impacts : List (TableImpact ν) := []
  chains : List CallChain := []
  /-- The repository methods that were not found. -/
  unresolved : List String := []
  warnings : List String := []
deriving DecidableEq, Repr

namespace ImpactResult

/-- The same result with other values in its impacts. -/
def map (f : α → β) (result : ImpactResult α) : ImpactResult β :=
  { table := result.table
    impacts := result.impacts.map (TableImpact.map f)
    chains := result.chains
    unresolved := result.unresolved
    warnings := result.warnings }

def toJson (result : ImpactResult Json) : Json :=
  .obj [("tableName", .str result.table),
    ("impacts", .arr (result.impacts.map TableImpact.toJson)),
    ("callChains", .arr (result.chains.map CallChain.toJson)),
    ("unresolvedRepositoryReferences", .arr (result.unresolved.map .str)),
    ("warnings", .arr (result.warnings.map .str))]

end ImpactResult

end Ripple
