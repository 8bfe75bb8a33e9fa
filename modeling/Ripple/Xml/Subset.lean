-- SUMMARY: Document types, and the declarations that they hold.
import Ripple.Xml.Declarations

/-! # Document types

A document type is read in two steps: its text as signs, grouped into the head and the single
declarations, and then the declarations one after the other.
-/

namespace Ripple.Xml

/-- Kinds of words in declarations. -/
inductive WordKind where
  | name
  | prefixedName
  /-- A word that is no name, such as a number. -/
  | token
deriving DecidableEq

/-- What declarations are made of. -/
inductive Sign where
  | opening (word : List Char)
  | closing
  | literal (text : List Char)
  | word (text : List Char) (kind : WordKind)
  /-- A name with a mark for how often it occurs. -/
  | counted
  | pound (word : List Char)
  | percent
  | parameterReference
  | openParen
  | closeParen (mark : Option Char)
  | bar
  | comma
  | openBracket
  | closeBracket
  /-- A comment or a processing instruction. -/
  | aside

namespace Sign

def isWordEnd (c : Char) : Bool :=
  isSpace c || c == '>' || c == ')' || c == ',' || c == '|' || c == '[' || c == '%'

def isLiteralEnd (c : Char) : Bool :=
  isSpace c || c == '>' || c == '%' || c == '['

def isPoundEnd (c : Char) : Bool :=
  isSpace c || c == '>' || c == ')' || c == '%' || c == '|'

def isParenEnd (c : Char) : Bool :=
  isSpace c || c == '>' || c == ')' || c == ',' || c == '|'

/-- The kind of a word with colons. -/
def wordKind (text : List Char) : WordKind :=
  match text with
  | [] => .token
  | first :: _ =>
    if !isNameStart first then .token
    else
      match Text.splitWhen (· == ':') text with
      | [_] => .name
      | [_, second] => if second.isEmpty then .token else .prefixedName
      | _ => .token

/-- The sign at the front of a text that starts with no blank. -/
def first? (s : List Char) : Option (Sign × List Char) :=
  match s with
  | [] => none
  | '<' :: '!' :: '-' :: '-' :: rest => (behindComment? rest).map (aside, ·)
  | '<' :: '?' :: rest => (behindInstruction? rest).map (aside, ·)
  | '<' :: '!' :: rest =>
    let keyword := rest.takeWhile Char.isAlpha
    let after := rest.drop keyword.length
    if !keyword.isEmpty && after.head?.any isSpace then some (opening keyword, after) else none
  | '>' :: rest => some (closing, rest)
  | '(' :: rest => some (openParen, rest)
  | ')' :: rest =>
    match rest with
    | '*' :: rest => some (closeParen (some '*'), rest)
    | '?' :: rest => some (closeParen (some '?'), rest)
    | '+' :: rest => some (closeParen (some '+'), rest)
    | c :: _ => if isParenEnd c then some (closeParen none, rest) else none
    | [] => none
  | '|' :: rest => some (bar, rest)
  | ',' :: rest => some (comma, rest)
  | '[' :: rest => some (openBracket, rest)
  | ']' :: rest => some (closeBracket, rest)
  | '#' :: rest => do
    let (keyword, rest) ← plainName? rest
    if rest.head?.any isPoundEnd then some (pound keyword, rest) else none
  | '%' :: rest =>
    match rest with
    | c :: _ =>
      if isSpace c || c == '%' then some (percent, rest)
      else
        match plainName? rest with
        | some (_, ';' :: rest) => some (parameterReference, rest)
        | _ => none
    | [] => none
  | c :: rest =>
    if c == '"' || c == '\'' then do
      let (text, rest) ← cutAt? [c] rest
      if rest.head?.any isLiteralEnd then some (literal text, rest) else none
    else
      let isPart (c : Char) : Bool := isNameChar c || c == ':'
      let text := s.takeWhile isPart
      let kind := wordKind text
      match text, s.drop text.length with
      | [], _ => none
      | _, c :: rest =>
        if isWordEnd c then some (word text kind, c :: rest)
        else if (c == '*' || c == '?' || c == '+') && kind != .token then some (counted, rest)
        else none
      | _, [] => none

end Sign

/-- A declaration inside a document type, or a reference to outside declarations. -/
inductive Markup where
  | declaration (word : List Char) (signs : List Sign)
  | parameterReference

/-- Where in a document type a sign stands. -/
inductive Place where
  | outside
  | inside
  | declaration (word : List Char) (signs : List Sign)

/-- A document type: the signs of its head, and what it declares itself. -/
structure Doctype where
  head : List Sign := []
  subset : Option (List Markup) := none

/-- Adds a sign to a document type at a place; `none` if it may not stand there. -/
def Doctype.add (doctype : Doctype) : Place → Sign → Option (Doctype × Place)
  | .outside, .openBracket =>
    if doctype.subset.isNone then some ({ doctype with subset := some [] }, .inside) else none
  | .outside, .opening _ => none
  | .outside, sign =>
    if doctype.subset.isNone then some ({ doctype with head := doctype.head ++ [sign] }, .outside)
    else none
  | .inside, .aside => some (doctype, .inside)
  | .inside, .closeBracket => some (doctype, .outside)
  | .inside, .opening word => some (doctype, .declaration word [])
  | .inside, .parameterReference =>
    let items := doctype.subset.getD [] ++ [.parameterReference]
    some ({ doctype with subset := some items }, .inside)
  | .inside, _ => none
  | .declaration word signs, .closing =>
    let items := doctype.subset.getD [] ++ [.declaration word signs]
    some ({ doctype with subset := some items }, .inside)
  | .declaration word signs, sign => some (doctype, .declaration word (signs ++ [sign]))

/-- The document type whose opening mark was read, and the text behind it. -/
def Doctype.from? (doctype : Doctype) (place : Place) (s : List Char) :
    Option (Doctype × List Char) :=
  match Sign.first? (s.dropWhile isSpace) with
  | none => none
  | some (sign, rest) =>
    match place, sign with
    | .outside, .closing => some (doctype, rest)
    | place, sign =>
      match doctype.add place sign with
      | none => none
      | some (doctype, place) =>
        -- This is always so: no sign is empty.
        if _ : rest.length < s.length then doctype.from? place rest else none
termination_by s.length

/-- Characters of public identifiers. -/
def isPublicChar (c : Char) : Bool :=
  c.isAlphanum || " \r\n-'()+,./:=?;!*#@$_%".toList.contains c

/-- Where something outside the document is found. -/
def isExternalId : List Sign → Bool
  | [.word word .name, .literal _] => word == "SYSTEM".toList
  | [.word word .name, .literal publicId, .literal _] =>
    word == "PUBLIC".toList && publicId.all isPublicChar
  | _ => false

/-- The text that an entity stands for: character references are resolved, others kept. -/
def entityText (s : List Char) : Option (List Char) :=
  match s with
  | [] => some []
  | '%' :: _ => none
  | '&' :: rest =>
    match reference? rest with
    | none => none
    | some (reference, after) =>
      if _ : after.length < rest.length then do
        let later ← entityText after
        match rest, reference with
        | '#' :: _, .char c => some (c :: later)
        | _, _ => some ('&' :: rest.take (rest.length - after.length) ++ later)
      else none
  | c :: rest => (entityText rest).map (c :: ·)
termination_by s.length

namespace Declarations

/-- The entity that a declaration declares; a parameter entity is checked and forgotten. -/
def addEntity (declarations : Declarations) (signs : List Sign) : Option Declarations :=
  match signs with
  | .percent :: .word _ .name :: rest =>
    match rest with
    | [.literal text] =>
      if !declarations.heeded || (entityText text).isSome then some declarations else none
    | rest => if isExternalId rest then some declarations else none
  | .word name .name :: rest =>
    let declare (entity : Entity) : Declarations :=
      if declarations.heeded then declarations.declareEntity name entity else declarations
    match rest with
    | [.literal text] =>
      if declarations.heeded then (entityText text).map fun text => declare (.internal text)
      else some declarations
    | rest =>
      if isExternalId rest then some (declare .external)
      else
        match rest.reverse with
        | .word _ .name :: .word ndata .name :: location =>
          if ndata == "NDATA".toList && isExternalId location.reverse then some (declare .external)
          else none
        | _ => none
  | _ => none

/-- Whether signs declare the name of a notation. -/
def isNotationDeclaration : List Sign → Bool
  | .word _ .name :: rest =>
    match rest with
    | [.word word .name, .literal publicId] =>
      word == "SYSTEM".toList || word == "PUBLIC".toList && publicId.all isPublicChar
    | rest => isExternalId rest
  | _ => false

/-- The rest of a choice between words, behind one of them. -/
def behindChoice? (isWord : Sign → Bool) : List Sign → Option (List Sign)
  | .closeParen none :: rest => some rest
  | .bar :: sign :: rest => if isWord sign then behindChoice? isWord rest else none
  | _ => none

/-- The type of an attribute: whether its values are spaced, and the signs behind it. -/
def attributeType? : List Sign → Option (Bool × List Sign)
  | .word type .name :: rest =>
    if type == "CDATA".toList then some (false, rest)
    else if ["ID", "IDREF", "IDREFS", "ENTITY", "ENTITIES", "NMTOKEN", "NMTOKENS"].any
        (·.toList == type) then some (true, rest)
    else if type == "NOTATION".toList then
      let isName : Sign → Bool := fun
        | .word _ .name => true
        | _ => false
      match rest with
      | .openParen :: sign :: rest =>
        if isName sign then (behindChoice? isName rest).map (true, ·) else none
      | _ => none
    else none
  | .openParen :: .word _ _ :: rest =>
    let isWord : Sign → Bool := fun
      | .word _ _ => true
      | _ => false
    (behindChoice? isWord rest).map (true, ·)
  | _ => none

/-- The default of an attribute: the literal, if there is one, and the signs behind it. -/
def attributeDefault? : List Sign → Option (Option (List Char) × List Sign)
  | .pound word :: rest =>
    if word == "REQUIRED".toList || word == "IMPLIED".toList then some (none, rest)
    else if word == "FIXED".toList then
      match rest with
      | .literal text :: rest => some (some text, rest)
      | _ => none
    else none
  | .literal text :: rest => some (some text, rest)
  | _ => none

/-- The attributes that a declaration declares for an element. -/
def addAttributes (declarations : Declarations) (element : List Char) (signs : List Sign) :
    Option Declarations :=
  match signs with
  | [] => some declarations
  | .word _ .token :: _ => none
  | .word name _ :: rest => do
    let (spaced, afterType) ← attributeType? rest
    let (literal, after) ← attributeDefault? afterType
    let declarations ←
      if !declarations.heeded then some declarations
      else
        match literal with
        | none => some (declarations.declareAttribute ⟨element, name, spaced, none⟩)
        | some literal =>
          match declarations.value spaced literal with
          | .error _ => none
          | .ok text => some (declarations.declareAttribute ⟨element, name, spaced, some text⟩)
    if _ : after.length < rest.length then declarations.addAttributes element after else none
  | _ => none
termination_by signs.length

/-- The rest of a content model, given the connectors of the open groups and whether an item comes
next. -/
def isGroupRest : List (Option Sign) → Bool → List Sign → Bool
  | [], _, signs => signs.isEmpty
  | _ :: _, _, [] => false
  | connector :: outer, true, sign :: rest =>
    match sign with
    | .openParen => isGroupRest (none :: connector :: outer) true rest
    | .word _ kind => kind != .token && isGroupRest (connector :: outer) false rest
    | .counted => isGroupRest (connector :: outer) false rest
    | _ => false
  | connector :: outer, false, sign :: rest =>
    match sign, connector with
    | .closeParen _, _ => isGroupRest outer false rest
    | .bar, none | .bar, some .bar => isGroupRest (some .bar :: outer) true rest
    | .comma, none | .comma, some .comma => isGroupRest (some .comma :: outer) true rest
    | _, _ => false

/-- The rest of a model that mixes text and elements. -/
def isMixedRest : List Sign → Bool
  | [.closeParen (some '*')] => true
  | .bar :: .word _ kind :: rest => kind != .token && isMixedRest rest
  | _ => false

/-- Whether signs say what an element contains. -/
def isContentModel : List Sign → Bool
  | [.word word .name] => word == "EMPTY".toList || word == "ANY".toList
  | [.openParen, .pound word, .closeParen none] => word == "PCDATA".toList
  | .openParen :: .pound word :: rest => word == "PCDATA".toList && isMixedRest rest
  | .openParen :: rest => isGroupRest [none] true rest
  | _ => false

/-- The declarations with one more. -/
def add (declarations : Declarations) : Markup → Option Declarations
  | .parameterReference =>
    -- From here on declarations do not count, unless nothing outside the document does.
    some { declarations with incomplete := true, heeded := declarations.standalone }
  | .declaration word signs =>
    if word == "ENTITY".toList then declarations.addEntity signs
    else if word == "ATTLIST".toList then
      match signs with
      | .word _ .token :: _ => none
      | .word element _ :: rest => declarations.addAttributes element rest
      | _ => none
    else if word == "ELEMENT".toList then
      match signs with
      | .word _ .token :: _ => none
      | .word _ _ :: rest => if isContentModel rest then some declarations else none
      | _ => none
    else if word == "NOTATION".toList then
      if isNotationDeclaration signs then some declarations else none
    else none

/-- What a document type declares. -/
def ofDoctype? (standalone : Bool) (doctype : Doctype) : Option Declarations :=
  match doctype.head with
  | .word _ kind :: location =>
    if kind == .token || !(location.isEmpty || isExternalId location) then none
    else
      (doctype.subset.getD []).foldlM add
        { incomplete := !location.isEmpty, standalone := standalone }
  | _ => none

end Declarations

end Ripple.Xml
