-- SUMMARY: Grammar rules for statements, blocks and local variables.
import Ripple.Java.Grammar.Expressions

/-! # Rules for statements -/

namespace Ripple.Java

open Parse

namespace Rules

variable (rules : Rules)

/-- A variable name with its initializer, if any. -/
def declarator : Parse (Declarator × Node) := do
  let name ← identifier
  dimensions
  let value ← if ← taken ["="] then rules.initializer else pure []
  return (⟨name, value.head?.bind Node.created?⟩, .plain value)

/-- The declaration of local variables on the given line. -/
def localVariables (line : Nat) : Parse Node := do
  let annotations ← rules.variableModifiers
  let type ← rules.type
  let declarators ← separated "," rules.declarator
  expect [";"]
  return .mk (.locals type (declarators.map (·.1))) (some line) []
    (annotations ++ declarators.map (·.2))

/-! ### Control of loops -/

def expressions : Parse (List Node) := separated "," rules.expression

/-- An expression unless the given token comes. -/
def expressionBefore (close : String) : Parse (List Node) := do
  if ← ahead [close] then return [] else return [← rules.expression]

def expressionsBefore (close : String) : Parse (List Node) := do
  if ← ahead [close] then return [] else rules.expressions

/-- The control of a loop that declares its variables: over a collection, or in three parts. -/
def variableControl : Parse Node := do
  let annotations ← rules.variableModifiers
  let type ← rules.type
  let name ← identifier
  dimensions
  let declare (declarators : List (Declarator × Node)) : Node :=
    .leaf (.locals type (declarators.map (·.1))) (annotations ++ declarators.map (·.2))
  if ← taken [":"] then
    return .plain [declare [(⟨name, none⟩, .plain [])], ← rules.expression]
  else
    let declarators ←
      if ← ahead [";"] then pure [(⟨name, none⟩, .plain [])]
      else do
        let value ← if ← taken ["="] then rules.initializer else pure []
        let rest ← collect do
          if ← taken [","] then return some (← rules.declarator) else return none
        pure ((⟨name, value.head?.bind Node.created?⟩, .plain value) :: rest)
    expect [";"]
    let condition ← rules.expressionBefore ";"
    expect [";"]
    let update ← rules.expressionsBefore ")"
    return .plain (declare declarators :: condition ++ update)

def forControl : Parse Node := do
  if let some control ← attempt rules.variableControl then return control
  -- What declares no variable is read once more, from the parenthesis on.
  let start ← rules.expressionsBefore ";"
  expect [";"]
  let condition ← rules.expressionBefore ";"
  expect [";"]
  let update ← rules.expressionsBefore ")"
  return .plain (start ++ condition ++ update)

/-! ### Parts of statements -/

/-- One group of labels of a `switch` with the statements behind them. -/
def switchGroup : Parse Node := do
  let label : Parse (List Node) := do
    let token ← next
    let values ←
      if token.text == "case" then
        -- The name of a constant leaves no node.
        if ← ahead [anIdentifier, ":"] then do
          discard identifier
          pure []
        else pure [← rules.expression]
      else if token.text == "default" then pure []
      else fail .unexpected
    expect [":"]
    return values
  let first ← label
  let more ← collect do
    if ["case", "default"].contains (← peek).text then return some (← label) else return none
  let statements ← collect do
    if ["case", "default", "\x7d"].contains (← peek).text then return none
    else return some (← rules.blockStatement)
  return .plain (first ++ more.flatten ++ statements)

def switchGroups : Parse (List Node) :=
  collect do
    if ["case", "default"].contains (← peek).text then return some (← rules.switchGroup)
    else return none

/-- A handler. The annotations of its parameter are passed over. -/
def catchClause : Parse Node := do
  expect ["catch", "("]
  discard rules.variableModifiers
  let types ← separated "|" qualifiedName
  let name ← identifier
  expect [")"]
  let body ← rules.block
  return .plain (.leaf (.caught name (types.headD "")) [] :: body)

def catchClauses : Parse (List Node) :=
  collect do
    if ← ahead ["catch"] then return some (← rules.catchClause) else return none

def resource : Parse Node := do
  let annotations ← rules.variableModifiers
  let type ← rules.referenceType
  dimensions
  let name ← identifier
  dimensions
  expect ["="]
  let value ← rules.expression
  return .leaf (.resource name type) (annotations ++ [value])

def resources : Parse (List Node) := do
  expect ["("]
  let first ← rules.resource
  let rest ← collect do
    unless ← ahead [")"] do expect [";"]
    if ← taken [")"] then return none
    return some (← rules.resource)
  return first :: rest

/-- What follows `try`. Without resources there must be a handler or a final block. -/
def tryRest : Parse (List Node) := do
  let plain ← ahead ["\x7b"]
  let resources ← if plain then pure [] else rules.resources
  let body ← rules.block
  let catches ← rules.catchClauses
  let finally? ← taken ["finally"]
  let last ← if finally? then rules.block else pure []
  if plain && catches.isEmpty && !finally? then fail .unexpected
  return resources ++ body ++ catches ++ last

/-- A label after `break` or `continue`, and the end of the statement. -/
def jumpRest : Parse (List Node) := do
  if ← ahead [anIdentifier] then discard identifier
  expect [";"]
  return []

/-- The parts of a statement that begins with a keyword, if one does. -/
def keywordStatement : Parse (Option (List Node)) := do
  if ← taken ["if"] then
    let condition ← rules.parenthesized
    let first ← rules.statement
    if ← taken ["else"] then return some [condition, first, ← rules.statement]
    return some [condition, first]
  else if ← taken ["assert"] then
    let condition ← rules.expression
    let message ← if ← taken [":"] then pure [← rules.expression] else pure []
    expect [";"]
    return some (condition :: message)
  else if ← taken ["switch"] then
    let subject ← rules.parenthesized
    expect ["\x7b"]
    let groups ← rules.switchGroups
    expect ["\x7d"]
    return some (subject :: groups)
  else if ← taken ["while"] then
    let condition ← rules.parenthesized
    return some [condition, ← rules.statement]
  else if ← taken ["do"] then
    let body ← rules.statement
    expect ["while"]
    let condition ← rules.parenthesized
    expect [";"]
    return some [condition, body]
  else if ← taken ["for"] then
    expect ["("]
    let control ← rules.forControl
    expect [")"]
    return some [control, ← rules.statement]
  else if ← taken ["break"] then return some (← jumpRest)
  else if ← taken ["continue"] then return some (← jumpRest)
  else if ← taken ["return"] then
    let value ← rules.expressionBefore ";"
    expect [";"]
    return some value
  else if ← taken ["throw"] then
    let value ← rules.expression
    expect [";"]
    return some [value]
  else if ← taken ["synchronized"] then
    let lock ← rules.parenthesized
    return some (lock :: (← rules.block))
  else if ← taken ["try"] then return some (← rules.tryRest)
  else return none

/-- A statement. Its line is that of its first token, which may be a label. -/
def statementRule : Parse Node := do
  let line := (← peek).line
  let placed (parts : List Node) : Node := (Node.plain parts).atLine line
  if ← ahead ["\x7b"] then return placed (← rules.block)
  else if ← taken [";"] then return placed []
  else if ← ahead [anIdentifier, ":"] then
    discard identifier
    expect [":"]
    return (← rules.statement).atLine line
  else if let some parts ← rules.keywordStatement then return placed parts
  else
    let value ← rules.expression
    expect [";"]
    return placed [value]

/-! ### Statements inside a block -/

/-- What the modifiers and annotations at the start of a statement tell. -/
inductive Opening where
  /-- A modifier that only a type declaration has. -/
  | typeModifier
  /-- The token behind them, and whether there are annotations. -/
  | before (token : Token) (annotated : Bool)

/-- The place behind a parenthesis that is open at place `i`. -/
def closingPlace : Nat → Nat → Nat → Parse Nat
  | 0, _, i => pure i
  | _, 0, i => pure i
  | fuel + 1, depth + 1, i => do
    let token ← peekAt i
    if token.text == "(" then closingPlace fuel (depth + 2) (i + 1)
    else if token.text == ")" then closingPlace fuel depth (i + 1)
    else closingPlace fuel (depth + 1) (i + 1)

/-- The place behind the dotted name of an annotation. -/
def namePlace : Nat → Nat → Parse Nat
  | 0, i => pure i
  | fuel + 1, i => do
    if (← peekAt i).text == "." then namePlace fuel (i + 2) else pure i

/-- Looks past `final` and annotations from place `i`. Behind an annotation without values one
token more is passed over. -/
def openingFrom (annotated : Bool) : Nat → Nat → Parse Opening
  | 0, i => return .before (← peekAt i) annotated
  | fuel + 1, i => do
    let token ← peekAt i
    if token.kind == .modifier then
      if token.text == "final" then openingFrom annotated fuel (i + 1) else return .typeModifier
    else if ← annotationAhead i then
      let place ← namePlace fuel (i + 2)
      if (← peekAt place).text == "(" then
        openingFrom true fuel (← closingPlace fuel 1 (place + 1))
      else openingFrom true fuel (place + 1)
    else return .before token annotated

/-- Annotations and modifiers in front of a declaration; gives the annotations. -/
def modifiers : Parse (List Node) := do
  let found ← collect do
    if ← ahead [.kind .modifier] then
      discard next
      return some none
    else if ← annotationAhead 0 then return some (some (← rules.annotationUse))
    else return none
  return found.filterMap id

/-- Puts annotations in front of the children of a declaration. -/
def annotated (annotations : List Node) (node : Node) : Node :=
  .mk node.role node.line node.selectors (annotations ++ node.children)

/-- A type declaration with its modifiers. -/
def modifiedTypeDeclaration : Parse Node := do
  let annotations ← rules.modifiers
  return annotated annotations (← rules.typeDeclaration)

/-- A statement or declaration inside a block. One that begins with an identifier is tried as a
declaration of variables first. A declaration of variables has the line of the token behind the
modifiers and annotations. -/
def blockStatementRule : Parse Node := do
  -- `synchronized` is a modifier as well, but in a block it begins a statement.
  if (← ahead [anIdentifier, ":"]) || (← ahead ["synchronized"]) then rules.statementRule
  else
    match ← openingFrom false ((← inputSize) + 1) 0 with
    | .typeModifier => rules.modifiedTypeDeclaration
    | .before token annotated =>
      if ["class", "enum", "interface", "@"].contains token.text then rules.modifiedTypeDeclaration
      else if annotated || token.kind == .basicType then rules.localVariables token.line
      else if token.kind == .identifier then
        match ← attempt (rules.localVariables token.line) with
        | some declaration => return declaration
        | none => rules.statementRule
      else rules.statementRule

end Rules

end Ripple.Java
