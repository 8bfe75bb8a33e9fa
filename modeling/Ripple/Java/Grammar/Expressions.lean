-- SUMMARY: Grammar rules for expressions, selectors and lambdas.
import Ripple.Java.Grammar.Types

/-! # Rules for expressions

Parentheses leave no node: a parenthesized expression is the inner one, and the selectors behind
the parenthesis take the place of those inside.
-/

namespace Ripple.Java

open Parse

namespace Rules

variable (rules : Rules)

def block : Parse (List Node) := do
  expect ["\x7b"]
  let statements ← itemsUntil "\x7d" rules.blockStatement
  expect ["\x7d"]
  return statements

/-- Annotations and `final` in front of a variable; gives the annotations. -/
def variableModifiers : Parse (List Node) := do
  let found ← collect do
    if ← taken ["final"] then return some none
    else if ← annotationAhead 0 then return some (some (← rules.annotationUse))
    else return none
  return found.filterMap id

/-- The parameters of a method or lambda, as names with types and as nodes. -/
def formalParameters : Parse (List (String × String) × List Node) := do
  expect ["("]
  if ← taken [")"] then return ([], [])
  let parameter : Parse (Bool × (String × String) × Node) := do
    let annotations ← rules.variableModifiers
    let line := (← peek).line
    let type ← rules.type
    let variadic ← taken ["..."]
    let name ← identifier
    dimensions
    return (variadic, (name, type), .mk .other (some line) [] annotations)
  let first ← parameter
  let rest ←
    if first.1 then pure []
    else do
      let (items, last) ← moreParameters parameter ((← inputSize) + 1)
      pure (items ++ last.toList)
  expect [")"]
  let all := first :: rest
  return (all.map (·.2.1), all.map (·.2.2))
where
  /-- Further parameters; a variadic one is the last. -/
  moreParameters (parameter : Parse (Bool × (String × String) × Node)) :
      Nat → Parse (List (Bool × (String × String) × Node) × Option (Bool × (String × String) × Node))
    | 0 => fail .unexpected
    | n + 1 => do
      if ← taken [","] then
        let item ← parameter
        if item.1 then return ([], some item)
        let (items, last) ← moreParameters parameter n
        return (item :: items, last)
      else return ([], none)

def arguments : Parse (List Node) := do
  expect ["("]
  if ← taken [")"] then return []
  let items ← separated "," rules.expression
  expect [")"]
  return items

def parenthesized : Parse Node := do
  expect ["("]
  let inner ← rules.expression
  expect [")"]
  return inner

/-- The arrow and the body of a lambda. -/
def lambdaBody : Parse (List Node) := do
  expect ["->"]
  if ← ahead ["\x7b"] then rules.block else return [← rules.expression]

/-- A lambda whose parameters are in parentheses. Parameters without types begin with a name and a
comma; between later ones, and behind the last, a comma may stand or not. -/
def lambda : Parse Node := do
  let parameters ←
    if ← ahead ["(", anIdentifier, ","] then do
      expect ["("]
      discard <| itemsUntil ")" do
        discard identifier
        taken [","]
      expect [")"]
      pure []
    else pure (← rules.formalParameters).2
  return .plain (parameters ++ (← rules.lambdaBody))

def cast : Parse Node := do
  expect ["("]
  discard rules.type
  expect [")"]
  return .plain [← rules.operand]

/-- An initializer of a variable or an array element: values in braces or an expression. -/
def initializers : Nat → Parse (List Node)
  | 0 => fail .unexpected
  | depth + 1 => do
    if ← ahead ["\x7b"] then
      expect ["\x7b"]
      -- Braces may hold nothing but a comma.
      if ← taken [","] then
        expect ["\x7d"]
        return []
      else if ← taken ["\x7d"] then return []
      else
        let first ← initializers depth
        let rest ← collect do
          -- The last value may have a comma behind it.
          unless ← ahead ["\x7d"] do expect [","]
          if ← taken ["\x7d"] then return none
          return some (← initializers depth)
        return [.plain (first ++ rest.flatten)]
    else return [← rules.expression]

def initializer : Parse (List Node) := do
  rules.initializers ((← inputSize) + 1)

/-- The dimensions or the elements of a created array. -/
def arrayCreatorRest : Parse Node := do
  if ← ahead ["[", "]"] then
    dimensions
    -- Without sizes there must be elements. The brace is left to the initializer.
    unless ← ahead ["\x7b"] do expect ["\x7b"]
    return .leaf .primary (← rules.initializer)
  else
    let sizes ← collect do
      if (← ahead ["["]) && !(← ahead ["[", "]"]) then
        expect ["["]
        let size ← rules.expression
        expect ["]"]
        return some size
      else return none
    dimensions
    return .leaf .primary sizes

/-- The arguments and the body of a created object. -/
def classCreatorRest : Parse (List Node) := do
  let arguments ← rules.arguments
  if ← ahead ["\x7b"] then return arguments ++ (← rules.classBody) else return arguments

/-- What follows `new`. -/
def creator : Parse Node := do
  if ← ahead [aBasicType] then
    discard basicType
    rules.arrayCreatorRest
  else
    let generic ← ahead ["<"]
    if generic then rules.plainTypeArguments
    let name ← rules.createdName
    if ← ahead ["["] then
      -- Only a constructor has type arguments in front.
      if generic then fail .unexpected
      rules.arrayCreatorRest
    else return .leaf (.creation name) (← rules.classCreatorRest)

/-- What follows `new` after an expression whose inner class is created. -/
def innerCreator : Parse Node := do
  if ← ahead ["<"] then rules.plainTypeArguments
  discard identifier
  if ← ahead ["<"] then rules.plainTypeArgumentsOrDiamond
  return .leaf .primary (← rules.classCreatorRest)

/-- What follows `super`. -/
def superSuffix : Parse Node := do
  if ← taken ["."] then
    if ← ahead ["<"] then rules.plainTypeArguments
    let name ← identifier
    if ← ahead ["("] then return .leaf (.superCall name) (← rules.arguments)
    return .leaf .primary []
  else return .leaf .primary (← rules.arguments)

/-- A call after explicit type arguments. -/
def genericCallSuffix : Parse Node := do
  if ← taken ["super"] then rules.superSuffix
  else
    let name ← identifier
    return .leaf (.call none name) (← rules.arguments)

def genericCall : Parse Node := do
  rules.plainTypeArguments
  rules.genericCallSuffix

/-- What follows a dotted name. A call or member takes its name from the last segment. -/
def nameSuffix : Parse Node := do
  if ← taken ["[", "]"] then
    dimensions
    expect [".", "class"]
    return .leaf .primary []
  else if ← ahead ["("] then return .leaf (.call none "") (← rules.arguments)
  else if ← taken [".", "class"] then return .leaf .primary []
  else if ← taken [".", "this"] then return .leaf .this []
  else if ← ahead [".", "<"] then
    discard next
    rules.genericCall
  else if ← taken [".", "new"] then rules.innerCreator
  else if ← ahead [".", "super", "("] then
    expect [".", "super"]
    return .leaf .primary (← rules.arguments)
  else return .leaf (.member "") []

/-- Gives a call or member reference the dotted name in front of it: the last segment is its own
name, the others are its qualifier. -/
def named (segments : List String) (node : Node) : Node :=
  let last := segments.getLastD ""
  match node.role with
  | .call _ _ => .mk (.call (some (".".intercalate segments.dropLast)) last) node.line node.selectors
      node.children
  | .member _ => .mk (.member last) node.line node.selectors node.children
  | _ => node

/-- A dotted name and what follows it. -/
def nameExpression : Parse Node := do
  let line := (← peek).line
  let first ← identifier
  let rest ← collect do
    if ← ahead [".", anIdentifier] then
      expect ["."]
      return some (← identifier)
    else return none
  return (named (first :: rest) (← rules.nameSuffix)).atLine line

def primary : Parse Node := do
  let token ← peek
  if token.kind == .literal then
    discard next
    return (Node.leaf .primary []).atLine token.line
  else if ← ahead ["("] then rules.parenthesized
  else if ← taken ["this"] then
    if ← ahead ["("] then return .leaf .primary (← rules.arguments)
    return .leaf .this []
  else if ← ahead ["super", "::"] then
    discard next
    return .plain []
  else if ← taken ["super"] then rules.superSuffix
  else if ← taken ["new"] then rules.creator
  else if ← ahead ["<"] then
    rules.plainTypeArguments
    if ← taken ["this"] then return .leaf .primary (← rules.arguments)
    return (← rules.genericCallSuffix).atLine token.line
  else if token.kind == .identifier then rules.nameExpression
  else if token.kind == .basicType then
    discard next
    dimensions
    expect [".", "class"]
    return .leaf .primary []
  else if ← taken ["void"] then
    expect [".", "class"]
    return .leaf .primary []
  else fail .unexpected

/-- An access to what an expression gives: an array element, a member, a call. -/
def selector : Parse Node := do
  if ← taken ["["] then
    let index ← rules.expression
    expect ["]"]
    return .plain [index]
  expect ["."]
  let token ← peek
  if token.kind == .identifier then
    let name ← identifier
    if ← ahead ["("] then return .leaf (.call none name) (← rules.arguments)
    return .leaf (.member name) []
  else if ← ahead ["super", "::"] then
    discard next
    return .plain []
  else if ← ahead ["<"] then rules.genericCall
  else if ← taken ["this"] then return .leaf .this []
  else if ← taken ["super"] then rules.superSuffix
  else if ← taken ["new"] then rules.innerCreator
  else fail .unexpected

/-- Skips operators that stand before or behind an operand. -/
def skipOperators (operators : List String) : Parse Unit :=
  discard <| collect do
    if operators.contains (← peek).text then return some (← next) else return none

/-- The selectors behind a primary expression. -/
def selectorList : Parse (List Node) :=
  collect do
    let token ← peek
    if token.kind == .endOfInput then fail .danglingExpression
    else if token.text == "[" || token.text == "." then
      return some ((← rules.selector).atLine token.line)
    else return none

/-- An expression without infix operators. What begins with a parenthesis is tried as a lambda,
then as a cast. -/
def operandRule : Parse Node := do
  skipOperators signOperators
  if ← ahead ["("] then
    if let some node ← attempt rules.lambda then return node
    if let some node ← attempt rules.cast then return node
  let primary ← rules.primary
  let selectors ← rules.selectorList
  skipOperators stepOperators
  return primary.withSelectors selectors

/-- An infix operator; shifts to the right are put together from their tokens. -/
def infixOperator : Parse Unit := do
  let token ← expectToken (.kind .operator)
  unless infixOperators.contains token.text do fail .unexpected
  if token.text == ">" then
    if ← taken [">"] then discard <| taken [">"]

/-- Operands joined by infix operators. -/
def operation : Parse Node := do
  let first ← rules.operandRule
  let rest ← collect do
    if ← taken ["instanceof"] then
      discard rules.type
      return some []
    else if infixOperators.contains (← peek).text then
      infixOperator
      return some [← rules.operandRule]
    else return none
  return if rest.isEmpty then first else .plain (first :: rest.flatten)

/-- What a method reference refers to. -/
def referencedMethod : Parse Node := do
  if ← ahead ["<"] then rules.plainTypeArguments
  if ← taken ["new"] then return .leaf (.member "new") [] else rules.expression

/-- An expression without assignments: a choice, a lambda with one bare parameter, a method
reference, or operands. -/
def conditionalRule : Parse Node := do
  let first ← rules.operation
  if ← taken ["?"] then
    let ifTrue ← rules.expression
    expect [":"]
    let ifFalse ← rules.conditional
    return .plain [first, ifTrue, ifFalse]
  else if ← ahead ["->"] then return .plain (first :: (← rules.lambdaBody))
  else if ← taken ["::"] then return .plain [first, ← rules.referencedMethod]
  else return first

/-- An expression with assignments. -/
def expressionRule : Parse Node := do
  let left ← rules.conditionalRule
  if assignmentOperators.contains (← peek).text then
    discard next
    return .plain [left, ← rules.expression]
  else return left

/-- A value in an annotation. -/
def elementValues : Nat → Parse Node
  | 0 => fail .unexpected
  | depth + 1 => do
    if ← annotationAhead 0 then rules.annotationUse
    else if ← taken ["\x7b"] then
      if ← taken ["\x7d"] then return .plain []
      let first ← elementValues depth
      let rest ← collect do
        if (← ahead ["\x7d"]) || (← ahead [",", "\x7d"]) then return none
        expect [","]
        return some (← elementValues depth)
      discard <| taken [","]
      expect ["\x7d"]
      return .plain (first :: rest)
    else rules.conditionalRule

def elementValue : Parse Node := do
  rules.elementValues ((← inputSize) + 1)

/-- A named value in an annotation, at the line of its name. -/
def elementValuePair : Parse Node := do
  let line := (← peek).line
  discard identifier
  expect ["="]
  return (Node.plain [← rules.elementValue]).atLine line

/-- An annotation with its values. -/
def annotationRule : Parse Node := do
  let line := (← peek).line
  expect ["@"]
  discard qualifiedName
  let values ←
    if ← taken ["("] then do
      let values ←
        if ← ahead [")"] then pure []
        else if ← ahead [anIdentifier, "="] then separated "," rules.elementValuePair
        else pure [← rules.elementValue]
      expect [")"]
      pure values
    else pure []
  return (Node.plain values).atLine line

end Rules

end Ripple.Java
