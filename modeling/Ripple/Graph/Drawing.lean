-- SUMMARY: The text of a graph in the DOT language: identifiers, styles, and the lines of nodes and edges.
import Ripple.Graph.NodeLink
import Ripple.Text.Order

/-! # Drawings of graphs

The text of a graph in the DOT language: a line for each node and each edge, with its colours and
shapes.
-/

namespace Ripple.Drawing

/-- The words of the language, which are no plain identifiers. -/
def keywords : List String :=
  ["node", "edge", "graph", "digraph", "subgraph", "strict"]

def isWordStart (c : Char) : Bool :=
  c.isAlpha || c == '_'

/-- Letters, digits and underscores that begin with no digit. -/
def isWord : List Char → Bool
  | [] => false
  | c :: rest => isWordStart c && rest.all fun c => isWordStart c || c.isDigit

/-- Digits with at most one point, which do not end at a leading point. -/
def isUnsignedNumeral (s : List Char) : Bool :=
  match Text.cutFirst? (· == '.') s with
  | none => !s.isEmpty && s.all Char.isDigit
  | some (whole, fraction) =>
    whole.all Char.isDigit && fraction.all Char.isDigit && !(whole.isEmpty && fraction.isEmpty)

def isNumeral : List Char → Bool
  | '-' :: rest => isUnsignedNumeral rest
  | s => isUnsignedNumeral s

/-- A text in angle brackets is taken as it is. -/
def isMarkup (s : List Char) : Bool :=
  2 ≤ s.length && s.head? == some '<' && s.getLast? == some '>'

/-- Puts a backslash before each quote that has none; the flag says whether the last character is a
backslash that escapes the next. -/
def escapeQuotes : Bool → List Char → List Char
  | _, [] => []
  | escaped, '"' :: rest =>
    if escaped then '"' :: escapeQuotes false rest else '\\' :: '"' :: escapeQuotes false rest
  | escaped, '\\' :: rest => '\\' :: escapeQuotes (!escaped) rest
  | _, c :: rest => c :: escapeQuotes false rest

/-- A text as an identifier of the language. A line feed at its end does not count for its form. -/
def identifier (text : String) : String :=
  let s := text.toList
  let form := Text.chomp s
  if isMarkup form then text
  else if (isWord form || isNumeral form) &&
      !keywords.contains (String.ofList (s.map Char.toLower)) then text
  else "\"" ++ String.ofList (escapeQuotes false s) ++ "\""

/-- The list of attributes: first the label, if there is one, then the others by name. -/
def attributeList (label : Option String) (others : List (String × String)) : String :=
  let sorted := Text.sortedBy (·.1) others
  let entries := (label.map fun label => ("label", label)).toList ++ sorted
  " ".intercalate (entries.map fun (name, value) => identifier name ++ "=" ++ identifier value)

def line (subject : String) (label : Option String) (others : List (String × String)) : String :=
  "\t" ++ subject ++ " [" ++ attributeList label others ++ "]\n"

/-- The colons and points of an identifier are replaced. -/
def cleaned (text : String) : String :=
  text.map fun c => if c == ':' || c == '.' then '_' else c

mutual

/-- An identifier as it is shown inside a list. -/
def shownIdInside : Json → String
  | .arr items => shownIds items
  | value => (Datum.ofJson value).shownInside

/-- A list as an identifier. -/
def shownIds : List Json → String
  | [] => "()"
  | [item] => "(" ++ shownIdInside item ++ ",)"
  | item :: items => "(" ++ shownIdInside item ++ shownRest items ++ ")"

def shownRest : List Json → String
  | [] => ""
  | item :: items => ", " ++ shownIdInside item ++ shownRest items

end

/-- The text of the identifier of a node. -/
def shownId : Json → String
  | .arr items => shownIds items
  | value => value.shown

/-- The identifier of a node in the drawing. -/
def nodeId (id : Json) : String :=
  cleaned (shownId id)

/-- The identifier in the drawing of any value; of a record it is its own identifier. -/
def valueId (value : Json) : Except Fault String :=
  match value with
  | .obj _ => do
    match ← value.required "id" with
    | .str id => .ok (cleaned id)
    | _ => .error .missingPart
  | value => .ok (cleaned value.shown)

/-- A label has to be a text, and null is none. -/
def labelOf : Json → Except Fault (Option String)
  | .str s => .ok (some s)
  | .null => .ok none
  | _ => .error .wrongType

/-- An attribute, or what is said without it. -/
def valueOf (attributes : Attributes) (name : String) (fallback : Json) : Json :=
  (attributes.lookup name).getD fallback

/-- How a node is drawn. -/
structure NodeStyle where
  color : String
  fill : String
  width : String
  shape : String
  style : String

def tableStyle : NodeStyle := ⟨"#0d00ff", "#adffff", "1.7", "cylinder", "filled"⟩
def repositoryStyle : NodeStyle := ⟨"#3c8c00", "#bdff61", "1.2", "Mrecord", "filled"⟩
def entryStyle : NodeStyle := ⟨"#606060", "#ffd699", "1.0", "box", "filled,rounded"⟩
def methodStyle : NodeStyle := { entryStyle with fill := "#f2f2f2" }

def NodeStyle.attributes (s : NodeStyle) : List (String × String) :=
  [("color", s.color), ("fillcolor", s.fill), ("penwidth", s.width), ("shape", s.shape),
    ("style", s.style)]

/-- The line of a node. A method is labelled by its label, or by its name without one. -/
def nodeLine (id : Json) (attributes : Attributes) : Except Fault String := do
  let name := valueOf attributes "name" (.str "")
  let kind := valueOf attributes "type" .null
  let (label, style) :=
    if kind == .str "table" then (name, tableStyle)
    else if kind == .str "repository" then (name, repositoryStyle)
    else
      let label := valueOf attributes "label" .null
      let isEntry := !(valueOf attributes "entry_point" .null).isEmpty
      (if label.isEmpty then name else label, if isEntry then entryStyle else methodStyle)
  return line (identifier (nodeId id)) (← labelOf label) style.attributes

/-- The line of an edge. -/
def edgeLine (source target : Json) (attributes : Attributes) : String :=
  let subject := identifier (nodeId source) ++ " -> " ++ identifier (nodeId target)
  let kind := valueOf attributes "type" .null
  if kind == .str "calls" then
    let number := valueOf attributes "line" .null
    let label := if number.isEmpty then "" else "line " ++ number.shown
    line subject (some label) [("arrowsize", "0.9"), ("color", "#ff990a"), ("penwidth", "1.2")]
  else if kind == .str "touches_table" then
    line subject none
      [("arrowsize", "1.0"), ("color", "#0099f0"), ("penwidth", "1.5"), ("style", "dashed")]
  else
    line subject none
      [("arrowsize", "1.0"), ("color", "#c40000"), ("penwidth", "1.2"), ("style", "dotted")]

/-- The lines that hold for the whole drawing. -/
def header : String :=
  let font := [("fontname", "Arial"), ("fontsize", "10")]
  line "graph" none
      [("fontsize", "10"), ("nodesep", "0.7"), ("overlap", "false"), ("rankdir", "BT"),
        ("ranksep", "1.1"), ("splines", "curved")] ++
    line "node" none font ++ line "edge" none font

/-- The drawing of a graph. -/
def ofGraph (graph : NodeLinkGraph) : Except Fault String := do
  let nodes ← graph.nodes.mapM fun (id, attributes) => nodeLine id attributes
  let edges := graph.allEdges.map fun (source, target, attributes) =>
    edgeLine source target attributes
  return "digraph \x7b\n" ++ header ++ String.join nodes ++ String.join edges ++ "\x7d\n"

/-- The drawing of a graph in JSON. -/
def ofJson (data : Json) : Except Fault String := do
  ofGraph (← NodeLinkGraph.ofJson data)

end Ripple.Drawing
