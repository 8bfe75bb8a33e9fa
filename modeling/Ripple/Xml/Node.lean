-- SUMMARY: Trees of an XML document, with names in their namespaces.
import Ripple.Xml.Encoding
import Ripple.Xml.Event

/-! # Trees of a document -/

namespace Ripple.Xml

/-- A text or an element. The name of an element or attribute in a namespace is written with the
namespace in braces in front. -/
inductive Node where
  | text (content : String)
  | element (tag : String) (attributes : List (String × String)) (content : List Node)
deriving Inhabited

/-- The prefixes in scope with their namespaces, innermost first. The empty prefix is for names
without one. -/
abbrev Scope := List (List Char × List Char)

namespace Scope

def xmlNamespace : List Char :=
  "http://www.w3.org/XML/1998/namespace".toList

def xmlnsNamespace : List Char :=
  "http://www.w3.org/2000/xmlns/".toList

def initial : Scope :=
  [("xml".toList, xmlNamespace)]

/-- The prefix and the local part of a name. -/
def split (name : List Char) : List Char × List Char :=
  match Text.cutFirst? (· == ':') name with
  | some (first, second) => (first, second)
  | none => ([], name)

/-- The prefix that an attribute declares, if it does. -/
def declaredPrefix? (name : List Char) : Option (List Char) :=
  if name == "xmlns".toList then some [] else dropText? "xmlns:".toList name

/-- Binds a prefix to a namespace, unless one of them is reserved. -/
def bind? (scope : Scope) (name : List Char) (space : List Char) : Option Scope :=
  if name == "xmlns".toList then none
  else if space.isEmpty && !name.isEmpty then none
  else if (name == "xml".toList) != (space == xmlNamespace) then none
  else if space == xmlnsNamespace || space.contains '\x7d' then none
  else some ((name, space) :: scope)

/-- The scope inside an element with these attributes. -/
def enter? (scope : Scope) (attributes : List (List Char × List Char)) : Option Scope :=
  attributes.foldlM
    (fun scope (name, value) =>
      match declaredPrefix? name with
      | some declared => scope.bind? declared value
      | none => some scope)
    scope

/-- The full name of a name in a scope. -/
def expand? (scope : Scope) (isAttribute : Bool) (name : List Char) : Option (List Char) :=
  let (leading, part) := split name
  if leading.isEmpty && isAttribute then some name
  else
    match scope.lookup leading with
    | some [] => some part
    | some space => some ('\x7b' :: space ++ '\x7d' :: part)
    | none => if leading.isEmpty then some part else none

/-- The attributes that declare no prefix, with their full names. -/
def attributes? (scope : Scope) (attributes : List (List Char × List Char)) :
    Option (List (List Char × List Char)) := do
  let plain := attributes.filter fun (name, _) => (declaredPrefix? name).isNone
  let full ← plain.mapM fun (name, value) => do some (← scope.expand? true name, value)
  if (full.map (·.1)).Nodup && (attributes.map (·.1)).Nodup then some full else none

end Scope

namespace Node

/-- An element that is still open: its name, attributes, scope and its content so far, last
first. -/
structure Open where
  tag : String
  attributes : List (String × String)
  scope : Scope
  content : List Node := []

/-- Adds a node in front of others; neighbouring texts become one. -/
def push (node : Node) (content : List Node) : List Node :=
  match node, content with
  | .text second, .text first :: rest => .text (first ++ second) :: rest
  | node, content => node :: content

/-- Adds a node to the innermost open element. -/
def pushInto (node : Node) : List Open → List Open
  | innermost :: opens => { innermost with content := push node innermost.content } :: opens
  | [] => []

/-- One event: the open elements, innermost first, and the finished tree if there is one. -/
def build : List Open × Option Node → Event → Option (List Open × Option Node)
  | (opens, root), .opened name attributes => do
    let outer := (opens.head?.map (·.scope)).getD Scope.initial
    let scope ← outer.enter? attributes
    let tag ← scope.expand? false name
    let full ← scope.attributes? attributes
    let shown := full.map fun (name, value) => (String.ofList name, String.ofList value)
    some ({ tag := String.ofList tag, attributes := shown, scope } :: opens, root)
  | (innermost :: opens, root), .closed _ =>
    let node := element innermost.tag innermost.attributes innermost.content.reverse
    match opens with
    | [] => some ([], some node)
    | opens => some (pushInto node opens, root)
  | ([], _), .closed _ => none
  | (opens, root), .text content =>
    if content.isEmpty then some (opens, root)
    else some (pushInto (.text (String.ofList content)) opens, root)

def ofEvents? (events : List Event) : Option Node := do
  let (_, root) ← events.foldlM build ([], none)
  root

/-- The tree of a document. -/
def parse (bytes : Bytes) : Except XmlError Node := do
  let (standalone, document) ← decode bytes
  let events ←
    if document.all isChar then Event.ofDocument standalone (Text.plainLineEnds document)
    else .error .malformed
  match ofEvents? events with
  | some root => .ok root
  | none => .error .malformed

end Node

end Ripple.Xml
