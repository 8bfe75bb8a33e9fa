-- SUMMARY: The graph of the call chains of a result, with its nodes and edges in the order of their first use.
import Ripple.Json.Printer
import Ripple.Name.Method
import Ripple.Report.Rendering

/-! # The graph of call chains

Callers point to what they call, and repository methods to the table. Nodes and edges stand in the
order in which they were first added; adding one again replaces what is known about it.
-/

namespace Ripple

/-- A node: the table, one of its repository methods, or a method on a chain. -/
inductive ChainNode where
  | table (name : String)
  | repository (name : String)
  | method (name : String)
deriving DecidableEq, Repr

namespace ChainNode

/-- The identifier of a node. -/
def id : ChainNode → String
  | .table name => "table:" ++ name
  | .repository name => "repository:" ++ name
  | .method name => "method:" ++ name

end ChainNode

/-- A graph of call chains. -/
structure ChainGraph where
  /-- The nodes; the flag tells of a method whether it is an entry point. -/
  nodes : List (ChainNode × Bool) := []
  /-- The edges; a call has the line that it is made on. -/
  edges : List ((ChainNode × ChainNode) × Option Int) := []
deriving DecidableEq, Repr

namespace ChainGraph

def addNode (graph : ChainGraph) (node : ChainNode) (entryPoint : Bool) : ChainGraph :=
  { graph with nodes := putField node entryPoint graph.nodes }

def addEdge (graph : ChainGraph) (source target : ChainNode) (line : Option Int) : ChainGraph :=
  { graph with edges := putField (source, target) line graph.edges }

/-- The methods of a path as nodes; the first is an entry point. -/
def pathNodes : List String → List (ChainNode × Bool)
  | [] => []
  | first :: rest => (.method first, true) :: rest.map fun name => (.method name, false)

/-- The calls along a path down to a node. Every caller needs a line. -/
def pathCalls (last : ChainNode) :
    List String → List Int → Except Fault (List (ChainNode × ChainNode × Int))
  | [], _ => .ok []
  | _ :: _, [] => .error .outOfRange
  | name :: rest, line :: lines => do
    let next := match rest with
      | [] => last
      | next :: _ => .method next
    return (.method name, next, line) :: (← pathCalls last rest lines)

/-- Adds a chain that leads to a table. -/
def addChain (table : ChainNode) (graph : ChainGraph) (chain : CallChain) :
    Except Fault ChainGraph := do
  let repository := ChainNode.repository chain.method
  let graph := (graph.addNode repository false).addEdge repository table none
  let graph := (pathNodes chain.path).foldl (fun graph (node, entry) => graph.addNode node entry)
    graph
  let calls ← pathCalls repository chain.path chain.lines
  return calls.foldl (fun graph (source, target, line) => graph.addEdge source target (some line))
    graph

/-- The graph of the chains of a result. -/
def ofResult (result : ImpactResult ν) : Except Fault ChainGraph :=
  let table := ChainNode.table result.table
  result.chains.foldlM (addChain table) (ChainGraph.addNode {} table false)

/-- The edges, source by source. -/
def links (graph : ChainGraph) : List ((ChainNode × ChainNode) × Option Int) :=
  graph.nodes.flatMap fun (node, _) => graph.edges.filter (·.1.1 == node)

def nodeJson : ChainNode × Bool → Json
  | (.table name, _) =>
    .obj [("type", .str "table"), ("name", .str name), ("id", .str (ChainNode.table name).id)]
  | (.repository name, _) =>
    .obj [("type", .str "repository"), ("name", .str name),
      ("id", .str (ChainNode.repository name).id)]
  | (.method name, entryPoint) =>
    .obj [("type", .str "method"), ("name", .str name), ("label", .str (Name.simpleMethod name)),
      ("entry_point", .bool entryPoint), ("id", .str (ChainNode.method name).id)]

def linkJson : (ChainNode × ChainNode) × Option Int → Json
  | ((source, target), none) =>
    .obj [("type", .str "touches_table"), ("source", .str source.id), ("target", .str target.id)]
  | ((source, target), some line) =>
    .obj [("type", .str "calls"), ("line", .int line), ("source", .str source.id),
      ("target", .str target.id)]

/-- The graph as nodes and links. -/
def toJson (graph : ChainGraph) : Json :=
  .obj [("directed", .bool true), ("multigraph", .bool false), ("graph", .obj []),
    ("nodes", .arr (graph.nodes.map nodeJson)), ("links", .arr (graph.links.map linkJson))]

/-- Writes the graph to a file, and tells whether that worked. -/
def save (graph : ChainGraph) (journal : String) (path : Path) : Work Bool := do
  Work.log .info journal ("Saving call-chain graph to " ++ path.text ++ "...")
  if ← Report.writeText path (Json.render (.indented 2) graph.toJson) then
    Work.log .info journal "Call-chain graph saved successfully."
    return true
  else
    Work.log .error journal "Failed to save call-chain graph"
    return false

end ChainGraph

end Ripple
