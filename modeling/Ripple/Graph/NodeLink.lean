-- SUMMARY: Graphs written and read as JSON lists of nodes and links.
import Ripple.Json.Record

/-! # Graphs as nodes and links

A graph in JSON lists its nodes and its links with their attributes. A node without an identifier
has its position as one. Nodes that only links name come after the listed ones. Giving a node or an
edge again replaces attributes that it has and adds those that it has not.
-/

namespace Ripple

/-- The attributes of a node or an edge. -/
abbrev Attributes := List (String × Json)

/-- An edge with its attributes. The key tells parallel edges apart. -/
structure LinkedEdge where
  source : Json
  target : Json
  key : Json
  attributes : Attributes

/-- A graph of nodes and links. -/
structure NodeLinkGraph where
  directed : Bool
  /-- Whether two nodes can have several edges. -/
  parallel : Bool
  nodes : List (Json × Attributes) := []
  edges : List LinkedEdge := []

namespace NodeLinkGraph

/-- Whether a value can be the identifier of a node: lists can, unless they hold objects. -/
def isNodeId : Json → Bool
  | .obj _ => false
  | .arr items => items.attach.all fun ⟨item, _⟩ => isNodeId item
  | _ => true

/-- Identifiers have to be there and must hold no objects. -/
def checkId (id : Json) : Except Fault Unit :=
  match id with
  | .null => .error .invalidValue
  | id => if isNodeId id then .ok () else .error .wrongType

/-- Puts attributes over others. -/
def merge (attributes new : Attributes) : Attributes :=
  new.foldl (fun attributes (key, value) => putField key value attributes) attributes

/-- Adds a node, or attributes to one. -/
def addNode (graph : NodeLinkGraph) (id : Json) (attributes : Attributes) : NodeLinkGraph :=
  let old := ((graph.nodes.find? (·.1 == id)).map (·.2)).getD []
  { graph with nodes := putField id (merge old attributes) graph.nodes }

/-- Whether an edge joins two nodes. -/
def joins (graph : NodeLinkGraph) (source target : Json) (edge : LinkedEdge) : Bool :=
  (edge.source == source && edge.target == target) ||
    (!graph.directed && edge.source == target && edge.target == source)

/-- The key of a new edge beside others that has none: their number, or the next one that is
free. -/
def freeKey (keys : List Json) : Json :=
  let candidates := (List.range (keys.length + 1)).map fun (n : Nat) => Json.int (keys.length + n : Nat)
  (candidates.find? fun key => !keys.contains key).getD (.int keys.length)

/-- Adds an edge, or attributes to one, and its nodes if they are new. -/
def addEdge (graph : NodeLinkGraph) (source target key : Json) (attributes : Attributes) :
    NodeLinkGraph :=
  let graph := (graph.addNode source []).addNode target []
  let beside := graph.edges.filter (graph.joins source target)
  let key := if graph.parallel && key == .null then freeKey (beside.map (·.key)) else key
  let same (edge : LinkedEdge) : Bool := graph.joins source target edge && edge.key == key
  let update (edge : LinkedEdge) : LinkedEdge :=
    if same edge then { edge with attributes := merge edge.attributes attributes } else edge
  if graph.edges.any same then { graph with edges := graph.edges.map update }
  else { graph with edges := graph.edges ++ [⟨source, target, key, attributes⟩] }

/-- The names that stand for the graph and for the node itself, and so for none of its
attributes. -/
def nodeNames : List String :=
  ["self", "node_for_adding"]

/-- The names that stand for the graph and for the ends of an edge. -/
def edgeNames (parallel : Bool) : List String :=
  if parallel then ["self", "u_for_edge", "v_for_edge"] else ["self", "u_of_edge", "v_of_edge"]

/-- The fields of a record without some. Other names must not be among them. -/
def fieldsExcept (names forbidden : List String) : Json → Except Fault Attributes
  | .obj fields =>
    let rest := fields.filter fun field => !names.contains field.1
    if rest.any fun field => forbidden.contains field.1 then .error .wrongType else .ok rest
  | _ => .error .missingPart

/-- Adds the node of a record at a position. -/
def readNode (graph : NodeLinkGraph) (record : Json × Nat) : Except Fault NodeLinkGraph := do
  let attributes ← fieldsExcept ["id"] nodeNames record.1
  let id := (record.1.field? "id").getD (.int record.2)
  checkId id
  return graph.addNode id attributes

/-- The identifier at an end of a link. A list in a list is none. -/
def readEnd (id : Json) : Except Fault Unit :=
  match id with
  | .arr items => if items.all Json.isKey then .ok () else .error .wrongType
  | id => checkId id

/-- Adds the edge of a record. -/
def readLink (graph : NodeLinkGraph) (record : Json) : Except Fault NodeLinkGraph := do
  let source ← record.required "source"
  let target ← record.required "target"
  let omitted := ["source", "target"] ++ if graph.parallel then ["key"] else []
  let attributes ← fieldsExcept omitted (edgeNames graph.parallel) record
  readEnd source
  readEnd target
  let key := if graph.parallel then (record.field? "key").getD .null else .null
  if key.isKey then return graph.addEdge source target key attributes else .error .wrongType

/-- Reads a graph, directed and without parallel edges where it does not say. -/
def ofJson (data : Json) : Except Fault NodeLinkGraph := do
  match data with
  | .obj _ =>
    let flag (name : String) (fallback : Bool) : Bool :=
      ((data.field? name).map fun value => !value.isEmpty).getD fallback
    let graph : NodeLinkGraph :=
      { directed := flag "directed" true, parallel := flag "multigraph" false }
    let nodes ← (← data.required "nodes").items
    let graph ← nodes.zipIdx.foldlM readNode graph
    let links ← (← data.required "links").items
    links.foldlM readLink graph
  | _ => .error .missingPart

/-- The different nodes at the other end of edges of a node. -/
def neighbours (graph : NodeLinkGraph) (node : Json) : List Json :=
  (graph.edges.filterMap fun edge =>
    if edge.source == node then some edge.target
    else if !graph.directed && edge.target == node then some edge.source
    else none).eraseDups

/-- The edges from a node to those at their other end, in the order of these. An edge without a
direction is left out at the second of its nodes. -/
def edgesFrom (graph : NodeLinkGraph) (earlier : List Json) (node : Json) :
    List (Json × Json × Attributes) :=
  ((graph.neighbours node).filter fun other => graph.directed || !earlier.contains other).flatMap
    fun other => (graph.edges.filter (graph.joins node other)).map fun edge =>
      (node, other, edge.attributes)

/-- All edges, node by node. -/
def edgeList (graph : NodeLinkGraph) : List Json → List Json → List (Json × Json × Attributes)
  | _, [] => []
  | earlier, node :: rest =>
    graph.edgesFrom earlier node ++ graph.edgeList (earlier ++ [node]) rest

/-- All edges, from the first node on. -/
def allEdges (graph : NodeLinkGraph) : List (Json × Json × Attributes) :=
  graph.edgeList [] (graph.nodes.map (·.1))

end NodeLinkGraph

end Ripple
