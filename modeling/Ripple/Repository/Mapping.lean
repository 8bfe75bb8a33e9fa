-- SUMMARY: Repository classes of mapper files, mappings of tables, and their JSON form.
import Ripple.Json.Record
import Ripple.Name.Method
import Ripple.Path

/-! # Repositories of tables

The statements of a mapper file are run by a repository class, whose methods have the names of the
statements. A table is mapped to the methods that run its statements.
-/

namespace Ripple

/-- The mapper files of a table, the repository classes beside them, and for each statement of the
table the method that runs it. -/
structure TableMapping (ν : Type := String) where
  table : ν
  mapperFiles : List ν := []
  classes : List ν := []
  methods : List ν := []
deriving DecidableEq, Repr

namespace TableMapping

/-- The same mapping with other values in its fields. -/
def map (f : α → β) (m : TableMapping α) : TableMapping β :=
  ⟨f m.table, m.mapperFiles.map f, m.classes.map f, m.methods.map f⟩

/-- The different methods among entries that were found. -/
def resolvedOf (methods : List String) : List String :=
  (methods.filter fun method => !Name.isUnresolved method).eraseDups

/-- The different entries for methods that were not found. -/
def unresolvedOf (methods : List String) : List String :=
  (methods.filter Name.isUnresolved).eraseDups

/-- The different methods that were found. -/
def resolved (m : TableMapping) : List String :=
  resolvedOf m.methods

/-- The different entries for methods that were not found. -/
def unresolved (m : TableMapping) : List String :=
  unresolvedOf m.methods

/-- The entries for methods, which have to be texts. -/
def methodTexts (m : TableMapping Json) : Except Fault (List String) :=
  m.methods.mapM fun
    | .str s => .ok s
    | .broken codes => .ok (Json.lossyText codes)
    | _ => .error .missingPart

/-- The record of a mapping. -/
def toRecord (m : TableMapping Json) : Json :=
  .obj [("table_name", m.table), ("mapper_files", .arr m.mapperFiles),
    ("repository_classes", .arr m.classes), ("repository_methods", .arr m.methods)]

/-- The record of a mapping whose fields are texts. -/
def record (m : TableMapping) : Json :=
  (m.map .str).toRecord

/-- The list in a field of a record, empty if there is none. -/
def listField (record : Json) (key : String) : Except Fault (List Json) :=
  match record.field? key with
  | some value => value.items
  | none => .ok []

/-- The mapping of a record. -/
def ofRecord (record : Json) : Except Fault (TableMapping Json) := do
  let table ← record.required "table_name"
  let mapperFiles ← listField record "mapper_files"
  let classes ← listField record "repository_classes"
  let methods ← listField record "repository_methods"
  return { table, mapperFiles, classes, methods }

end TableMapping

/-- The mappings of tables. -/
abbrev RepositoryMappings (ν : Type := String) := List (ν × TableMapping ν)

namespace RepositoryMappings

def map (f : α → β) (mappings : RepositoryMappings α) : RepositoryMappings β :=
  List.map (fun (table, mapping) => (f table, mapping.map f)) mappings

/-- The mapping of a table. -/
def mapping? (mappings : RepositoryMappings Json) (table : String) : Option (TableMapping Json) :=
  mappings.lookup (.str table)

/-- The mappings as JSON. -/
def toJson (mappings : RepositoryMappings Json) : Json :=
  .arr (List.map (fun (_, mapping) => mapping.toRecord) mappings)

/-- The mappings whose fields are texts as JSON. -/
def json (mappings : RepositoryMappings) : Json :=
  toJson (mappings.map .str)

/-- Puts a mapping under its table, in the place of the one that is there. -/
def put (mappings : RepositoryMappings Json) (mapping : TableMapping Json) :
    Except Fault (RepositoryMappings Json) :=
  if mapping.table.isKey then .ok (putField mapping.table mapping mappings)
  else .error .wrongType

/-- Reads the mappings of JSON data. -/
def ofJson (data : Json) : Except Fault (RepositoryMappings Json) := do
  (← (← data.items).mapM TableMapping.ofRecord).foldlM put []

end RepositoryMappings

/-- The source file beside a mapper file: two folders up, with the name of the mapper. -/
def repositoryFile (mapper : Path) : Path :=
  mapper.parent.parent.below (mapper.stem ++ ".java")

end Ripple
