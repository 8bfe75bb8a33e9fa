-- SUMMARY: Entities and attributes that a document declares, and the values that they give.
import Ripple.Text.Blank
import Ripple.Xml.Lexical

/-! # Declared entities and attributes -/

namespace Ripple.Xml

/-- What the name of an entity stands for. -/
inductive Entity where
  | internal (text : List Char)
  /-- Text or data outside of the document, which is never read. -/
  | external

/-- A declared attribute of an element. -/
structure AttributeRule where
  element : List Char
  name : List Char
  /-- Whether runs of spaces in its values count as one space. -/
  spaced : Bool
  fallback : Option (List Char)

/-- What a document type declares. The first declaration of a name counts. -/
structure Declarations where
  entities : List (List Char × Entity) := []
  attributes : List AttributeRule := []
  /-- Whether declarations may have been missed, so that values may refer to unknown entities. -/
  incomplete : Bool := false
  /-- Whether declarations still count. -/
  heeded : Bool := true
  standalone : Bool := false

namespace Declarations

def entity? (declarations : Declarations) (name : List Char) : Option Entity :=
  (declarations.entities.find? (·.1 == name)).map (·.2)

/-- How deep references can be nested before one of them recurs. -/
def depth (declarations : Declarations) : Nat :=
  declarations.entities.length + 1

end Declarations

/-- The text of an attribute value: blanks become spaces and references what they stand for. -/
def valueText (resolve : List Char → Except XmlError (List Char)) (s : List Char) :
    Except XmlError (List Char) :=
  match s with
  | [] => .ok []
  | '<' :: _ => .error .malformed
  | '&' :: rest =>
    match reference? rest with
    | none => .error .malformed
    | some (reference, after) =>
      if _ : after.length < rest.length then do
        let first ← match reference with
          | .char c => .ok [c]
          | .entity name => resolve name
        .ok (first ++ (← valueText resolve after))
      else .error .malformed
  | c :: rest => do .ok ((if isSpace c then ' ' else c) :: (← valueText resolve rest))
termination_by s.length

/-- Leaves one space between words and none around them. -/
def spacedText (s : List Char) : List Char :=
  [' '].intercalate ((Text.splitWhen (· == ' ') s).filter (!·.isEmpty))

namespace Declarations

/-- The text of an attribute value in which references are nested at most so deep. -/
def valueAtDepth (declarations : Declarations) : Nat → List Char → Except XmlError (List Char)
  | 0, _ => .error .malformed
  | depth + 1, s =>
    valueText
      (fun name =>
        match declarations.entity? name with
        | some (.internal text) => declarations.valueAtDepth depth text
        | some .external => .error .malformed
        | none =>
          if declarations.incomplete && !declarations.standalone then .ok [] else .error .malformed)
      s

/-- The text of an attribute value. -/
def value (declarations : Declarations) (spaced : Bool) (s : List Char) :
    Except XmlError (List Char) := do
  let text ← declarations.valueAtDepth declarations.depth s
  .ok (if spaced then spacedText text else text)

def declareEntity (declarations : Declarations) (name : List Char) (entity : Entity) :
    Declarations :=
  { declarations with entities := declarations.entities ++ [(name, entity)] }

/-- A rule with a fallback is dropped if the attribute was declared before. -/
def declareAttribute (declarations : Declarations) (rule : AttributeRule) : Declarations :=
  let known := declarations.attributes.any fun old =>
    old.element == rule.element && old.name == rule.name
  if rule.fallback.isSome && known then declarations
  else { declarations with attributes := declarations.attributes ++ [rule] }

/-- The declared attributes of an element, in order. -/
def attributesOf (declarations : Declarations) (element : List Char) : List AttributeRule :=
  declarations.attributes.filter (·.element == element)

end Declarations

end Ripple.Xml
