-- SUMMARY: The events of an XML document, with entities replaced.
import Ripple.Xml.Subset

/-! # Events

A document as a sequence of opened elements, closed elements and texts. References to entities are
replaced by the events of their texts.
-/

namespace Ripple.Xml

inductive Event where
  | opened (name : List Char) (attributes : List (List Char × List Char))
  | closed (name : List Char)
  | text (content : List Char)

namespace Event

/-- The attributes of a start tag with their values as written. The flag says whether the element
is empty. -/
def rawAttributes (s : List Char) :
    Option (List (List Char × List Char) × Bool × List Char) :=
  match s with
  | '>' :: rest => some ([], false, rest)
  | '/' :: '>' :: rest => some ([], true, rest)
  | c :: rest =>
    if !isSpace c then none
    else
      match rest.dropWhile isSpace with
      | '>' :: rest => some ([], false, rest)
      | '/' :: '>' :: rest => some ([], true, rest)
      | inner => do
        let (name, afterName) ← name? inner
        match afterName.dropWhile isSpace with
        | '=' :: afterEquals =>
          match afterEquals.dropWhile isSpace with
          | quote :: value =>
            if quote != '"' && quote != '\'' then none
            else do
              let (value, after) ← cutAt? [quote] value
              if _ : after.length < rest.length then
                let (more, isEmpty, after) ← rawAttributes after
                some ((name, value) :: more, isEmpty, after)
              else none
          | [] => none
        | _ => none
  | [] => none
termination_by s.length

/-- Texts do not contain the mark that ends a literal section. -/
def isPlainText (s : List Char) : Bool :=
  (cutAt? "]]>".toList s).isNone

/-- The attributes of an element: those that are written, and the declared ones with a fallback. -/
def attributes (declarations : Declarations) (element : List Char)
    (written : List (List Char × List Char)) :
    Except XmlError (List (List Char × List Char)) := do
  let rules := declarations.attributesOf element
  let given ← written.mapM fun (name, raw) => do
    let spaced := ((rules.find? (·.name == name)).map (·.spaced)).getD false
    return (name, ← declarations.value spaced raw)
  let missing := rules.filterMap fun rule =>
    if given.any (·.1 == rule.name) then none
    else rule.fallback.map (rule.name, ·)
  return given ++ missing

/-- The events at the front of a text that is not empty, and the rest. -/
def first (declarations : Declarations) (expand : List Char → Except XmlError (List Event))
    (s : List Char) : Except XmlError (List Event × List Char) :=
  let strict {α : Type} (a? : Option α) : Except XmlError α :=
    match a? with
    | some a => .ok a
    | none => .error .malformed
  match s with
  | '<' :: '!' :: '-' :: '-' :: rest => do .ok ([], ← strict (behindComment? rest))
  | '<' :: '!' :: rest => do
    let rest ← strict (dropText? "[CDATA[".toList rest)
    let (content, rest) ← strict (cutAt? "]]>".toList rest)
    .ok ([text content], rest)
  | '<' :: '?' :: rest => do .ok ([], ← strict (behindInstruction? rest))
  | '<' :: '/' :: rest => do
    let (name, rest) ← strict (name? rest)
    match rest.dropWhile isSpace with
    | '>' :: rest => .ok ([closed name], rest)
    | _ => .error .malformed
  | '<' :: rest => do
    let (name, rest) ← strict (name? rest)
    let (written, isEmpty, rest) ← strict (rawAttributes rest)
    let start := opened name (← attributes declarations name written)
    .ok (if isEmpty then [start, closed name] else [start], rest)
  | '&' :: rest => do
    match ← strict (reference? rest) with
    | (.char c, rest) => .ok ([text [c]], rest)
    | (.entity name, rest) => .ok (← expand name, rest)
  | s =>
    let isText (c : Char) : Bool := c != '<' && c != '&'
    let content := s.takeWhile isText
    if isPlainText content then .ok ([text content], s.dropWhile isText) else .error .malformed

/-- The names of the open elements, innermost first, behind an event. -/
def enter? (names : List (List Char)) : Event → Option (List (List Char))
  | opened name _ => some (name :: names)
  | closed name =>
    match names with
    | innermost :: names => if innermost == name then some names else none
    | [] => none
  | text _ => some names

/-- The events of a text, given the open elements. Of a document (`single`) only the events up to
the end of its element are taken; an inner text is taken whole. -/
def scan (declarations : Declarations) (expand : List Char → Except XmlError (List Event))
    (single : Bool) (names : List (List Char)) (s : List Char) :
    Except XmlError (List Event × List Char) :=
  if s.isEmpty then
    if names.isEmpty && !single then .ok ([], []) else .error .malformed
  else do
    let (events, rest) ← first declarations expand s
    match events.foldlM enter? names with
    | none => .error .malformed
    | some names =>
      if single && names.isEmpty then .ok (events, rest)
      -- This is always so: what was read is not empty.
      else if _ : rest.length < s.length then
        let (more, rest) ← scan declarations expand single names rest
        .ok (events ++ more, rest)
      else .error .malformed
termination_by s.length

/-- The events of the text of an entity in which references are nested at most so deep. -/
def ofEntity (declarations : Declarations) : Nat → List Char → Except XmlError (List Event)
  | 0, _ => .error .malformed
  | depth + 1, name =>
    match declarations.entity? name with
    | some (.internal content) => do
      let (events, _) ← scan declarations (ofEntity declarations depth) false [] content
      .ok events
    | _ => .error .malformed

/-- The blank text, comments and instructions at the front of a text are dropped. -/
def dropAsides (s : List Char) : Option (List Char) :=
  match s with
  | '<' :: '!' :: '-' :: '-' :: rest =>
    match behindComment? rest with
    | none => none
    | some after => if _ : after.length < rest.length then dropAsides after else none
  | '<' :: '?' :: rest =>
    match behindInstruction? rest with
    | none => none
    | some after => if _ : after.length < rest.length then dropAsides after else none
  | c :: rest => if isSpace c then dropAsides rest else some (c :: rest)
  | [] => some []
termination_by s.length

/-- What a document declares before its element, and the text from there on. -/
def prolog (standalone : Bool) (s : List Char) : Option (Declarations × List Char) := do
  let s ← dropAsides s
  match dropText? "<!DOCTYPE".toList s with
  | none => some ({ standalone := standalone }, s)
  | some rest =>
    if !rest.head?.any isSpace then none
    else do
      let (doctype, rest) ← Doctype.from? {} .outside rest
      some (← Declarations.ofDoctype? standalone doctype, ← dropAsides rest)

/-- The events of a document. -/
def ofDocument (standalone : Bool) (s : List Char) : Except XmlError (List Event) :=
  match prolog standalone s with
  | some (declarations, '<' :: rest) =>
    if !rest.head?.any isNameStart then .error .malformed
    else do
      let (events, rest) ←
        scan declarations (ofEntity declarations declarations.depth) true [] ('<' :: rest)
      match dropAsides rest with
      | some [] => .ok events
      | _ => .error .malformed
  | _ => .error .malformed

end Event

end Ripple.Xml
