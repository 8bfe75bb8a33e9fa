-- SUMMARY: The table index: adding statements and mentions, and its JSON form.
import Ripple.Json.Record
import Ripple.Mapper.Statement

/-! # The index of tables

The statements that mention each table.
-/

namespace Ripple

namespace Statement

/-- The same statement with other values in its fields. -/
def map (f : α → β) (s : Statement α) : Statement β :=
  ⟨f s.moduleName, f s.mapperPath, f s.space, f s.statementId, f s.kind, f s.rawSql⟩

/-- The record of a statement. -/
def toRecord (s : Statement Json) : Json :=
  .obj [("module_name", s.moduleName), ("mapper_path", s.mapperPath), ("namespace", s.space),
    ("statement_id", s.statementId), ("kind", s.kind), ("raw_sql", s.rawSql)]

/-- The record of a statement whose fields are texts. -/
def record (s : Statement) : Json :=
  (s.map .str).toRecord

/-- The statement of a record. Its fields are taken over as they are. -/
def ofRecord (record : Json) : Except Fault (Statement Json) := do
  let moduleName ← record.required "module_name"
  let mapperPath ← record.required "mapper_path"
  let space ← record.required "namespace"
  let statementId ← record.required "statement_id"
  let kind := (record.field? "kind").getD (.str "select")
  let rawSql := (record.field? "raw_sql").getD (.str "")
  return { moduleName, mapperPath, space, statementId, kind, rawSql }

/-- The statement's id with its namespace. -/
def qualifiedId (s : Statement) : String :=
  s.space ++ "." ++ s.statementId

end Statement

/-- The statements under each table, in the order in which the tables were first mentioned. -/
abbrev TableIndex (ν : Type := String) := List (String × List (Statement ν))

namespace TableIndex

def tables (index : TableIndex ν) : List String :=
  List.map (·.1) index

/-- The statements that mention a table. -/
def statements (index : TableIndex ν) (table : String) : List (Statement ν) :=
  (index.lookup table).getD []

/-- Adds a statement to a list that has none of its identity. -/
def addNew (statement : Statement) (statements : List Statement) : List Statement :=
  if statements.any (·.identity == statement.identity) then statements
  else statements ++ [statement]

/-- Adds a statement under a table, unless one of its identity is there. -/
def add (index : TableIndex) (statement : Statement) (table : String) : TableIndex :=
  putField table (addNew statement (index.statements table)) index

/-- Adds a statement under all tables that it mentions. -/
def addMention (index : TableIndex) (mention : Statement × List String) : TableIndex :=
  mention.2.foldl (fun index table => index.add mention.1 table) index

def map (f : α → β) (index : TableIndex α) : TableIndex β :=
  List.map (fun (table, statements) => (table, statements.map (Statement.map f))) index

/-- The index as JSON. -/
def toJson (index : TableIndex Json) : Json :=
  .obj (List.map (fun (table, statements) => (table, .arr (statements.map Statement.toRecord)))
    index)

/-- The index whose statements hold texts as JSON. -/
def json (index : TableIndex) : Json :=
  toJson (index.map .str)

/-- Reads the index of JSON data. -/
def ofJson (data : Json) : Except Fault (TableIndex Json) :=
  match data with
  | .obj fields => fields.mapM fun (table, statements) => do
    return (table, ← (← statements.items).mapM Statement.ofRecord)
  | _ => .error .missingPart

end TableIndex

end Ripple
