-- SUMMARY: Call chains, their text and their JSON form.
import Ripple.Json.Basic

/-! # Call chains

A call chain leads from an entry point down to the repository method that touches a table.
-/

namespace Ripple

/-- A chain of calls: the callers from the outermost on, the line of the call in each of them, and
the repository method that the last one calls. -/
structure CallChain where
  path : List String
  lines : List Int
  method : String
  table : String
deriving DecidableEq, Repr

namespace CallChain

def depth (chain : CallChain) : Nat :=
  chain.path.length

/-- The outermost method. -/
def entryPoint (chain : CallChain) : String :=
  chain.path.headD chain.method

/-- The callers with their lines, as far as there are any. -/
def hops : List String → List Int → List String
  | [], _ => []
  | method :: path, [] => method :: hops path []
  | method :: path, line :: lines =>
    (method ++ " [line " ++ toString line ++ "]") :: hops path lines

/-- The text of a chain. -/
def text (chain : CallChain) : String :=
  " -> ".intercalate
    (hops chain.path chain.lines ++ [chain.method ++ " [Table: " ++ chain.table ++ "]"])

def toJson (chain : CallChain) : Json :=
  .obj [("callPath", .arr (chain.path.map .str)), ("lineNumbers", .arr (chain.lines.map .int)),
    ("repositoryMethod", .str chain.method), ("tableName", .str chain.table)]

end CallChain

end Ripple
