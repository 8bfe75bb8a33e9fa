-- SUMMARY: Tokens of YAML documents.
/-! # Tokens of YAML documents -/

namespace Ripple.Yaml

/-- A line in front of a document that says how to read it. -/
inductive Directive where
  | version (major : Nat)
  /-- What a tag with this handle begins with. -/
  | handle (name : List Char) (meaning : List Char)
  | other

inductive Token where
  | directive (directive : Directive)
  | documentStart
  | documentEnd
  | blockSequenceStart
  | blockMappingStart
  | blockEnd
  | flowSequenceStart
  | flowSequenceEnd
  | flowMappingStart
  | flowMappingEnd
  | blockEntry
  | flowEntry
  | key
  | value
  | alias (name : List Char)
  | anchor (name : List Char)
  /-- A tag that is spelled out has no handle. -/
  | tag (handle : Option (List Char)) (suffix : List Char)
  | scalar (text : List Char) (plain : Bool)
  | streamEnd

/-- The kinds of tokens that tell where nodes begin and end. -/
inductive TokenKind where
  | directive
  | documentStart
  | documentEnd
  | blockEnd
  | flowSequenceEnd
  | flowMappingEnd
  | blockEntry
  | flowEntry
  | key
  | value
  | streamEnd
  /-- A token that belongs to a node. -/
  | content
deriving DecidableEq

def Token.kind : Token → TokenKind
  | .directive _ => .directive
  | .documentStart => .documentStart
  | .documentEnd => .documentEnd
  | .blockEnd => .blockEnd
  | .flowSequenceEnd => .flowSequenceEnd
  | .flowMappingEnd => .flowMappingEnd
  | .blockEntry => .blockEntry
  | .flowEntry => .flowEntry
  | .key => .key
  | .value => .value
  | .streamEnd => .streamEnd
  | _ => .content

end Ripple.Yaml
