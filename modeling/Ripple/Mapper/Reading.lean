-- SUMMARY: Mapper files read into statements, and the mentions of tables in them.
import Ripple.Mapper.Collection
import Ripple.Mapper.Statement
import Ripple.Sql.TableReference
import Ripple.Workspace

/-! # Reading mapper files -/

namespace Ripple.Mapper

def source : String := "table_impact.mapper_parser"

/-- A trimmed attribute of a node, empty if it is missing. -/
def trimmedAttribute (name : String) (node : Xml.Node) : String :=
  String.ofList (Text.trim ((node.attribute? name).getD "").toList)

/-- The statement of an element. One without an id is no statement. -/
def statement? (path moduleName space : String) (fragments : Fragments) (kind : String)
    (node : Xml.Node) : Option Statement :=
  match trimmedAttribute "id" node with
  | "" => none
  | statementId =>
    some
      { moduleName, mapperPath := path, space, statementId, kind, rawSql := fragments.textOf node }

/-- The statements of one kind. -/
def statementsOfKind (path moduleName space : String) (fragments : Fragments) (root : Xml.Node)
    (kind : String) : List Statement :=
  (root.elementsTagged kind).filterMap (statement? path moduleName space fragments kind)

/-- The statements of a mapper document, kind by kind. A document without a namespace gives
`none`. -/
def statements? (includes : Bool) (path moduleName : String) (root : Xml.Node) :
    Option (List Statement) :=
  match trimmedAttribute "namespace" root with
  | "" => none
  | space =>
    let fragments := if includes then Fragments.ofRoot space root else []
    some (Statement.kinds.flatMap (statementsOfKind path moduleName space fragments root))

/-- The statements of a mapper file, and the messages about it. -/
def load (files : Disk) (includes : Bool) (path : Path) (moduleName : String) :
    Except Fault (List Message × List Statement) :=
  match files.read path with
  | .error .zeroInPath => .error .invalidValue
  | .error _ => .ok ([⟨.error, source, "Error reading mapper XML " ++ path.text⟩], [])
  | .ok bytes =>
    match Xml.Node.parse bytes with
    | .error .malformed => .ok ([⟨.error, source, "Malformed mapper XML " ++ path.text⟩], [])
    | .error .unknownEncoding => .error .unknownEncoding
    | .error .unsupportedEncoding => .error .invalidValue
    | .error .unreadableEncoding => .error .unreadableEncoding
    | .error .undecodable => .error .undecodable
    | .ok root =>
      match statements? includes path.text moduleName root with
      | some statements => .ok ([], statements)
      | none =>
        .ok ([⟨.warning, source, "No namespace found in " ++ path.text ++ ". Skipping file."⟩], [])

/-- A statement with the tables that it names. -/
abbrev Mentions := Statement × List String

/-- The statements of a mapper file with their tables, and the messages about it. -/
def loadMentions (files : Disk) (includes : Bool) (path : Path) (moduleName : String) :
    Except Fault (List Message × List Mentions) := do
  let (messages, statements) ← load files includes path moduleName
  return (messages, statements.map fun statement => (statement, Sql.tables statement.rawSql))

end Ripple.Mapper
