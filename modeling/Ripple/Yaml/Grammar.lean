-- SUMMARY: The grammar of YAML, from tokens to the graph of nodes.
import Ripple.Yaml.Graph
import Ripple.Yaml.Lexer
import Ripple.Yaml.Scalar

/-! # From tokens to nodes

A collection is known by its anchor as soon as it begins, so that an alias inside it can stand for
the whole.
-/

namespace Ripple.Yaml

/-- The state while nodes are made of tokens. -/
structure Composer where
  lexer : Lexer
  /-- What tags with a handle begin with. -/
  handles : List (List Char × List Char) := []
  anchors : List (List Char × Nat) := []
  graph : Graph := #[]

abbrev Compose (α : Type) := StateT Composer (Except Fault) α

namespace Compose

def fail : Compose α :=
  throw .malformedDocument

def lex (step : Lex α) : Compose α := do
  let composer ← get
  let (a, lexer) ← step.run composer.lexer
  set { composer with lexer }
  return a

def peek : Compose (Option Token) :=
  lex Lex.peek

def skip : Compose Unit :=
  lex Lex.skip

/-- Whether a token of one of these kinds comes next. -/
def isNext (kinds : List TokenKind) : Compose Bool :=
  return (← peek).any fun token => kinds.contains token.kind

/-- Takes a token of this kind, if it comes next. -/
def taken (kind : TokenKind) : Compose Bool := do
  if ← isNext [kind] then
    skip
    return true
  else return false

/-- Takes a token of this kind, or fails. -/
def take (kind : TokenKind) : Compose Unit := do
  if !(← taken kind) then fail

/-- Adds a node and gives its number. -/
def addNode (tag : Tag) (body : Body) : Compose Nat := do
  let id := (← get).graph.size
  modify fun c => { c with graph := c.graph.push ⟨tag, body⟩ }
  return id

/-- A node that is not there. -/
def missing : Compose Nat :=
  addNode .null (.scalar [])

/-! ## Anchors and tags -/

def tag? : Compose (Option (Option (List Char) × List Char)) := do
  match ← peek with
  | some (.tag handle suffix) =>
    skip
    return some (handle, suffix)
  | _ => return none

def anchor? : Compose (Option (List Char)) := do
  match ← peek with
  | some (.anchor name) =>
    skip
    return some name
  | _ => return none

/-- The full name of a tag. -/
def tagName : Option (List Char) × List Char → Compose (List Char)
  | (none, suffix) => return suffix
  | (some handle, suffix) => do
    match (← get).handles.lookup handle with
    | some leading => return leading ++ suffix
    | none => fail

/-- The anchor of a node and the full name of its tag, which come in either order. -/
def properties : Compose (Option (List Char) × Option (List Char)) := do
  let (anchor, tag) ←
    match ← anchor? with
    | some name => pure (some name, ← tag?)
    | none =>
      match ← tag? with
      | some tag => pure (← anchor?, some tag)
      | none => pure (none, none)
  match tag with
  | some tag => return (anchor, some (← tagName tag))
  | none => return (anchor, none)

/-- Whether the name of a tag leaves the tag open: there is none, or it is a bare exclamation
mark. -/
def isOpen (name : Option (List Char)) : Bool :=
  name.all (· == ['!'])

/-- The tag with a name, or the given one if the name leaves it open. -/
def tagOr (fallback : Tag) (name : Option (List Char)) : Tag :=
  match name with
  | some chars => if isOpen name then fallback else Tag.ofName (String.ofList chars)
  | none => fallback

/-- Makes a node known by its anchor. -/
def name (anchor : Option (List Char)) (id : Nat) : Compose Unit :=
  match anchor with
  | none => return
  | some name => modify fun c => { c with anchors := (name, id) :: c.anchors }

/-! ## Nodes -/

/-- A collection: a node that is known by its anchor before the nodes inside it are read. -/
def collection (anchor : Option (List Char)) (tag : Tag) (empty : Body) (read : Compose Body) :
    Compose Nat := do
  let id ← addNode tag empty
  name anchor id
  let body ← read
  modify fun c => { c with graph := c.graph.setBody id body }
  return id

/-- What the token behind the anchor and tag of a node tells about it. -/
inductive Content where
  | scalar (text : List Char) (plain : Bool)
  | indentless
  | flowSequence
  | flowMapping
  | blockSequence
  | blockMapping
  | nothing

/-- Looks at the content of a node. The token is taken unless it belongs to an item. -/
def content (block indentless : Bool) : Compose Content := do
  match ← peek, block, indentless with
  | some .blockEntry, _, true => return .indentless
  | some (.scalar text plain), _, _ =>
    skip
    return .scalar text plain
  | some .flowSequenceStart, _, _ => return .flowSequence
  | some .flowMappingStart, _, _ => return .flowMapping
  | some .blockSequenceStart, true, _ => return .blockSequence
  | some .blockMappingStart, true, _ => return .blockMapping
  | _, _, _ => return .nothing

mutual
/-- A node. Inside a block mapping a sequence needs no indentation of its own. -/
def node (fuel : Nat) (block indentless : Bool) : Compose Nat :=
  match fuel with
  | 0 => fail
  | fuel + 1 => do
    match ← peek with
    | some (.alias name) =>
      skip
      match (← get).anchors.lookup name with
      | some id => return id
      | none => fail
    | _ =>
      let (anchor, tag) ← properties
      let found ← content block indentless
      if let .nothing := found then
        if anchor.isNone && tag.isNone then fail
      let anchors := (← get).anchors
      if anchor.any fun name => (anchors.lookup name).isSome then fail
      match found with
      | .scalar text plain =>
        let form := if plain || tag == some ['!'] then Scalar.implicitTag text else .text
        let id ← addNode (tagOr form tag) (.scalar text)
        name anchor id
        return id
      | .nothing =>
        let id ← addNode (tagOr .null tag) (.scalar [])
        name anchor id
        return id
      | .indentless =>
        collection anchor (tagOr .sequence tag) (.sequence []) do
          return .sequence (← indentlessItems fuel)
      | .flowSequence =>
        collection anchor (tagOr .sequence tag) (.sequence []) do
          skip
          return .sequence (← flowItems fuel true)
      | .flowMapping =>
        collection anchor (tagOr .mapping tag) (.mapping []) do
          skip
          return .mapping (← flowFields fuel true)
      | .blockSequence =>
        collection anchor (tagOr .sequence tag) (.sequence []) do
          skip
          return .sequence (← blockItems fuel)
      | .blockMapping =>
        collection anchor (tagOr .mapping tag) (.mapping []) do
          skip
          return .mapping (← blockFields fuel)

/-- A node that is missing if one of these tokens comes next. -/
def nodeUnless (fuel : Nat) (ends : List TokenKind) (block indentless : Bool) : Compose Nat :=
  match fuel with
  | 0 => fail
  | fuel + 1 => do
    if ← isNext ends then missing else node fuel block indentless

/-- The value of a field, which may be missing with its sign. -/
def fieldValue (fuel : Nat) (ends : List TokenKind) (block : Bool) : Compose Nat :=
  match fuel with
  | 0 => fail
  | fuel + 1 => do
    if ← taken .value then nodeUnless fuel ends block block else missing

def blockItems (fuel : Nat) : Compose (List Nat) :=
  match fuel with
  | 0 => fail
  | fuel + 1 => do
    if ← taken .blockEntry then
      let item ← nodeUnless fuel [.blockEntry, .blockEnd] true false
      return item :: (← blockItems fuel)
    else
      take .blockEnd
      return []

def indentlessItems (fuel : Nat) : Compose (List Nat) :=
  match fuel with
  | 0 => fail
  | fuel + 1 => do
    if ← taken .blockEntry then
      let item ← nodeUnless fuel [.blockEntry, .key, .value, .blockEnd] true false
      return item :: (← indentlessItems fuel)
    else return []

def blockFields (fuel : Nat) : Compose (List (Nat × Nat)) :=
  match fuel with
  | 0 => fail
  | fuel + 1 => do
    if ← taken .key then
      let key ← nodeUnless fuel [.key, .value, .blockEnd] true true
      let value ← fieldValue fuel [.key, .value, .blockEnd] true
      return (key, value) :: (← blockFields fuel)
    else
      take .blockEnd
      return []

/-- The items of a sequence in brackets. An item can be a single field, which is a mapping. -/
def flowItems (fuel : Nat) (first : Bool) : Compose (List Nat) :=
  match fuel with
  | 0 => fail
  | fuel + 1 => do
    if ← taken .flowSequenceEnd then return []
    else
      if !first then take .flowEntry
      if ← isNext [.key] then
        let item ← collection none .mapping (.mapping []) do
          skip
          let key ← nodeUnless fuel [.value, .flowEntry, .flowSequenceEnd] false false
          let value ← fieldValue fuel [.flowEntry, .flowSequenceEnd] false
          return .mapping [(key, value)]
        return item :: (← flowItems fuel false)
      else if ← taken .flowSequenceEnd then return []
      else
        let item ← node fuel false false
        return item :: (← flowItems fuel false)

/-- The fields of a mapping in braces. -/
def flowFields (fuel : Nat) (first : Bool) : Compose (List (Nat × Nat)) :=
  match fuel with
  | 0 => fail
  | fuel + 1 => do
    if ← taken .flowMappingEnd then return []
    else
      if !first then take .flowEntry
      if ← taken .key then
        let key ← nodeUnless fuel [.value, .flowEntry, .flowMappingEnd] false false
        let value ← fieldValue fuel [.flowEntry, .flowMappingEnd] false
        return (key, value) :: (← flowFields fuel false)
      else if ← taken .flowMappingEnd then return []
      else
        let key ← node fuel false false
        let value ← missing
        return (key, value) :: (← flowFields fuel false)
end

/-! ## Documents -/

/-- The handles that are always known, and what they stand for. -/
def defaultHandles : List (List Char × List Char) :=
  [(['!'], ['!']), (['!', '!'], Tag.leading.toList)]

/-- Takes the directives in front of a document. -/
def directives (versioned : Bool) (handles : List (List Char × List Char)) : Nat → Compose Unit
  | 0 => fail
  | fuel + 1 => do
    match ← peek with
    | some (.directive directive) =>
      skip
      match directive with
      | .version major =>
        if versioned || major != 1 then fail
        directives true handles fuel
      | .handle name meaning =>
        if handles.any (·.1 == name) then fail
        directives versioned ((name, meaning) :: handles) fuel
      | .other => directives versioned handles fuel
    | _ => modify fun c => { c with handles := handles ++ defaultHandles }

/-- Takes the ends of documents. -/
def skipEnds : Nat → Compose Unit
  | 0 => fail
  | fuel + 1 => do if ← taken .documentEnd then skipEnds fuel

/-- Takes the start of a document with its directives; tells whether there is one before the end. -/
def start (fuel : Nat) : Compose Bool := do
  skipEnds fuel
  if ← isNext [.streamEnd] then return false
  else
    directives false [] fuel
    take .documentStart
    return true

/-- The node of the first document, if there is one. -/
def firstDocument (fuel : Nat) : Compose (Option Nat) := do
  if !(← isNext [.directive, .documentStart, .streamEnd]) then
    modify fun c => { c with handles := defaultHandles }
    return some (← node fuel true false)
  else if ← start fuel then
    let ends : List TokenKind := [.directive, .documentStart, .documentEnd, .streamEnd]
    return some (← nodeUnless fuel ends true false)
  else return none

/-- The node of the only document, if there is one. -/
def document (fuel : Nat) : Compose (Option Nat) := do
  let root? ← firstDocument fuel
  if root?.isSome then
    if ← start fuel then fail
  return root?

end Compose

/-- The nodes of the document in a source, and the outermost one, if there is any. -/
def Graph.ofSource (source : Source) : Except Fault (Graph × Option Nat) := do
  let cursor := Cursor.ofSource source
  let (root?, composer) ← (Compose.document (8 * cursor.size + 32)).run { lexer := { cursor } }
  return (composer.graph, root?)

end Ripple.Yaml
