-- SUMMARY: The fragments of a mapper file by name, and the elements that stand for them.
import Ripple.Xml.Node

/-! # Fragments of a mapper file

Elements of a mapper file can be included in others under their names. An `include` element stands
for the fragment that it refers to.
-/

namespace Ripple.Xml.Node

def tag? : Node → Option String
  | .text _ => none
  | .element tag _ _ => some tag

def attribute? (name : String) : Node → Option String
  | .text _ => none
  | .element _ attributes _ => attributes.lookup name

mutual
/-- A node and all nodes inside it, in document order. -/
def nodes : Node → List Node
  | .text content => [.text content]
  | .element tag attributes content => .element tag attributes content :: nodesOf content

/-- The nodes of several nodes. -/
def nodesOf : List Node → List Node
  | [] => []
  | node :: rest => nodes node ++ nodesOf rest
end

/-- The elements with a given tag, from the node itself on, in document order. -/
def elementsTagged (tag : String) (root : Node) : List Node :=
  root.nodes.filter (·.tag? == some tag)

/-- The nodes inside a node. -/
def content : Node → List Node
  | .text _ => []
  | .element _ _ content => content

/-- The value of an attribute that is there and not empty. -/
def given? (name : String) (node : Node) : Option String :=
  (node.attribute? name).filter (!·.isEmpty)

/-- The name that an `include` element refers to. -/
def reference? (node : Node) : Option String :=
  if node.tag? == some "include" then node.given? "refid" else none

end Ripple.Xml.Node

namespace Ripple

/-- The fragments of a mapper file under the names that refer to them. The first entry of a name
counts. -/
abbrev Fragments := List (String × Xml.Node)

namespace Fragments

/-- Adds an element under its id and under its id in the namespace of the file. -/
def add (space : String) (fragments : Fragments) (node : Xml.Node) : Fragments :=
  match node.given? "id" with
  | none => fragments
  | some id => (space ++ "." ++ id, node) :: (id, node) :: fragments

/-- The fragments of a mapper file. Of two with the same name the later one counts. -/
def ofRoot (space : String) (root : Xml.Node) : Fragments :=
  (root.elementsTagged "sql").foldl (add space) []

/-- The fragment that an element stands for, under its name. -/
def referred? (fragments : Fragments) (node : Xml.Node) : Option (String × Xml.Node) := do
  let name ← node.reference?
  let fragment ← fragments.lookup name
  return (name, fragment)

end Fragments

end Ripple
