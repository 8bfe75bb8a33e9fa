-- SUMMARY: Graphs of numbered YAML nodes, with shared and cyclic ones.
import Ripple.Yaml.Tag

/-! # Graphs of nodes

The nodes of a document are numbered, and a collection holds the numbers of the nodes inside it.
With an alias the same node is in several places, and it can be inside itself.
-/

namespace Ripple.Yaml

/-- What a node holds. -/
inductive Body where
  | scalar (text : List Char)
  | sequence (items : List Nat)
  | mapping (fields : List (Nat × Nat))
deriving Inhabited

structure Node where
  tag : Tag
  body : Body
deriving Inhabited

/-- The nodes of a document by number. -/
abbrev Graph := Array Node

namespace Graph

def node (graph : Graph) (id : Nat) : Node :=
  graph[id]?.getD default

def tag (graph : Graph) (id : Nat) : Tag :=
  (graph.node id).tag

def body (graph : Graph) (id : Nat) : Body :=
  (graph.node id).body

def setBody (graph : Graph) (id : Nat) (body : Body) : Graph :=
  graph.modify id fun node => { node with body }

def setTag (graph : Graph) (id : Nat) (tag : Tag) : Graph :=
  graph.modify id fun node => { node with tag }

/-- The fields of a mapping; other nodes have none. -/
def fields (graph : Graph) (id : Nat) : List (Nat × Nat) :=
  match graph.body id with
  | .mapping fields => fields
  | _ => []

end Graph

end Ripple.Yaml
