-- SUMMARY: Grammar rules for types, their members and whole source files, closed by a recursion on the depth.
import Ripple.Java.Grammar.Statements

/-! # Rules for declarations -/

namespace Ripple.Java

open Parse

namespace Rules

variable (rules : Rules)

/-- The body of a method, or the semicolon in its place. -/
def optionalBody : Parse (Option (List Node)) := do
  if ← ahead ["\x7b"] then return some (← rules.block)
  expect [";"]
  return none

def throwsClause : Parse Unit := do
  if ← taken ["throws"] then discard <| separated "," qualifiedName

/-- The parameters and the body of a method. -/
def methodRest (name : String) : Parse Node := do
  let (parameters, nodes) ← rules.formalParameters
  dimensions
  throwsClause
  let body ← rules.optionalBody
  return .leaf (.method name parameters body.isSome) (nodes ++ body.getD [])

/-- The parameters and the body of a method without a result. -/
def voidMethodRest (name : String) : Parse Node := do
  let (parameters, nodes) ← rules.formalParameters
  throwsClause
  let body ← rules.optionalBody
  return .leaf (.method name parameters body.isSome) (nodes ++ body.getD [])

def constructorRest : Parse Node := do
  let (_, nodes) ← rules.formalParameters
  throwsClause
  return .plain (nodes ++ (← rules.block))

/-- The fields declared after the first name. -/
def fieldRest (type name : String) : Parse Node := do
  dimensions
  let value ← if ← taken ["="] then rules.initializer else pure []
  let rest ← collect do
    if ← taken [","] then return some (← rules.declarator) else return none
  return .leaf (.field type (name :: rest.map (·.1.name))) (.plain value :: rest.map (·.2))

/-- The constants declared after the first name; each has a value. -/
def constantRest (type name : String) : Parse Node := do
  let value : Parse Node := do
    dimensions
    expect ["="]
    return .plain (← rules.initializer)
  let first ← value
  let rest ← collect do
    if ← taken [","] then
      let name ← identifier
      return some (name, ← value)
    else return none
  return .leaf (.field type (name :: rest.map (·.1))) (first :: rest.map (·.2))

/-- A method or constructor after its type parameters. -/
def genericMember : Parse Node := do
  rules.typeParameters
  if ← ahead [anIdentifier, "("] then
    discard identifier
    rules.constructorRest
  else if ← taken ["void"] then rules.voidMethodRest (← identifier)
  else
    discard rules.type
    rules.methodRest (← identifier)

/-- Whether a type declaration begins here. -/
def typeDeclarationAhead : Parse Bool := do
  if ["class", "enum", "interface"].contains (← peek).text then return true
  annotationTypeAhead

/-- A member of a class with its modifiers. Its line is that of the first token behind them. -/
def classMember : Parse Node := do
  let annotations ← rules.modifiers
  let line := (← peek).line
  let member ←
    if ← taken ["void"] then rules.voidMethodRest (← identifier)
    else if ← ahead ["<"] then rules.genericMember
    else if ← typeDeclarationAhead then rules.typeDeclaration
    else if ← ahead [anIdentifier, "("] then do
      discard identifier
      rules.constructorRest
    else do
      let type ← rules.type
      let name ← identifier
      if ← ahead ["("] then rules.methodRest name
      else do
        let field ← rules.fieldRest type name
        expect [";"]
        pure field
  return (annotated annotations member).atLine line

/-- A member, an initializer block, or a stray semicolon. -/
def classBodyItem : Parse (List Node) := do
  if ← taken [";"] then return []
  else if ← ahead ["static", "\x7b"] then
    discard next
    return [.plain (← rules.block)]
  else if ← ahead ["\x7b"] then return [.plain (← rules.block)]
  else return [← rules.classMember]

def classBodyRule : Parse (List Node) := do
  expect ["\x7b"]
  let items ← itemsUntil "\x7d" rules.classBodyItem
  expect ["\x7d"]
  return items.flatten

def classDeclaration : Parse Node := do
  expect ["class"]
  let name ← identifier
  rules.optionalTypeParameters
  let superclass ← if ← taken ["extends"] then pure (some (← rules.type)) else pure none
  if ← taken ["implements"] then rules.typeList
  return .leaf (.type name superclass) (← rules.classBodyRule)

/-! ### Enumerations -/

def enumConstant : Parse Node := do
  let annotations ← collect do
    if ← annotationAhead 0 then return some (← rules.annotationUse) else return none
  discard identifier
  let arguments ← if ← ahead ["("] then rules.arguments else pure []
  let body ← if ← ahead ["\x7b"] then rules.classBody else pure []
  return .plain (annotations ++ arguments ++ body)

def enumConstants : Nat → Parse (List Node)
  | 0 => fail .unexpected
  | n + 1 => do
    if (← ahead [";"]) || (← ahead ["\x7d"]) then return []
    let constant ← rules.enumConstant
    if ← taken [","] then return constant :: (← enumConstants n) else return [constant]

def enumDeclaration : Parse Node := do
  expect ["enum"]
  let name ← identifier
  if ← taken ["implements"] then rules.typeList
  expect ["\x7b"]
  let constants ←
    if ← taken [","] then pure [] else rules.enumConstants ((← inputSize) + 1)
  let members ←
    if ← taken [";"] then itemsUntil "\x7d" rules.classBodyItem else pure []
  expect ["\x7d"]
  return .leaf (.type name none) (constants ++ members.flatten)

/-! ### Interfaces and annotation types -/

/-- A member of an interface with its modifiers. -/
def interfaceMember : Parse (List Node) := do
  if ← taken [";"] then return []
  let annotations ← rules.modifiers
  let line := (← peek).line
  let member ←
    if ← typeDeclarationAhead then rules.typeDeclaration
    else if ← ahead ["<"] then do
      rules.typeParameters
      unless ← taken ["void"] do discard rules.type
      rules.methodRest (← identifier)
    else if ← taken ["void"] then rules.voidMethodRest (← identifier)
    else do
      let type ← rules.type
      let name ← identifier
      if ← ahead ["("] then rules.methodRest name
      else do
        let constant ← rules.constantRest type name
        expect [";"]
        pure constant
  return [(annotated annotations member).atLine line]

def interfaceDeclaration : Parse Node := do
  expect ["interface"]
  let name ← identifier
  rules.optionalTypeParameters
  if ← taken ["extends"] then rules.typeList
  expect ["\x7b"]
  let members ← itemsUntil "\x7d" rules.interfaceMember
  expect ["\x7d"]
  return .leaf (.type name none) members.flatten

/-- A member of an annotation type with its modifiers. -/
def annotationMember : Parse Node := do
  let annotations ← rules.modifiers
  let line := (← peek).line
  let member ←
    if ← typeDeclarationAhead then rules.typeDeclaration
    else do
      let type ← rules.type
      let name ← identifier
      let member ←
        if ← taken ["("] then do
          expect [")"]
          dimensions
          let value ← if ← taken ["default"] then pure [← rules.elementValue] else pure []
          pure (.plain value)
        else rules.constantRest type name
      expect [";"]
      pure member
  return (annotated annotations member).atLine line

def annotationTypeDeclaration : Parse Node := do
  expect ["@", "interface"]
  let name ← identifier
  expect ["\x7b"]
  let members ← itemsUntil "\x7d" rules.annotationMember
  expect ["\x7d"]
  return .leaf (.type name none) members

/-- A type declaration after its modifiers. -/
def typeDeclarationRule : Parse Node := do
  let line := (← peek).line
  let declaration ←
    if ← ahead ["class"] then rules.classDeclaration
    else if ← ahead ["enum"] then rules.enumDeclaration
    else if ← ahead ["interface"] then rules.interfaceDeclaration
    else if ← annotationTypeAhead then rules.annotationTypeDeclaration
    else fail .unexpected
  return declaration.atLine line

/-- One more level of nesting. -/
def deepen : Rules where
  referenceType := rules.referenceTypeRule
  expression := rules.expressionRule
  conditional := rules.conditionalRule
  operand := rules.operandRule
  annotationUse := rules.annotationRule
  statement := rules.statementRule
  blockStatement := rules.blockStatementRule
  classBody := rules.classBodyRule
  typeDeclaration := rules.typeDeclarationRule

/-- The rules for a given depth of nesting. -/
def ofDepth : Nat → Rules
  | 0 => .refusing
  | n + 1 => (ofDepth n).deepen

/-! ### Source files -/

/-- An import: its path if it names one type. -/
def importDeclaration : Parse (Option String) := do
  expect ["import"]
  let static ← taken ["static"]
  let (path, wildcard) ← importPath ((← inputSize) + 1)
  expect [";"]
  -- A static import names a member, not a type.
  return if static || wildcard then none else some (".".intercalate path)
where
  /-- The segments of the path, and whether an asterisk ends it. -/
  importPath : Nat → Parse (List String × Bool)
    | 0 => fail .unexpected
    | n + 1 => do
      let name ← identifier
      if ← taken ["."] then
        if ← taken ["*"] then return ([name], true)
        let (rest, wildcard) ← importPath n
        return (name :: rest, wildcard)
      else return ([name], false)

/-- The annotations that may precede a package declaration. -/
def packageAnnotations : Parse Unit :=
  discard <| collect do
    if ← annotationAhead 0 then return some (← rules.annotationUse) else return none

/-- The package of a file. Annotations that turn out to belong to a type are read again. -/
def packageDeclaration : Parse String := do
  let declared ← tested do
    rules.packageAnnotations
    taken ["package"]
  if declared then
    let name ← qualifiedName
    expect [";"]
    return name
  else return ""

def compilationUnit : Parse CompilationUnit := do
  let package ← rules.packageDeclaration
  let imports ← collect do
    if ← ahead ["import"] then return some (← importDeclaration) else return none
  let types ← collect do
    if (← peek).kind == .endOfInput then return none
    closed do
      if ← taken [";"] then return some none
      return some (some (← rules.modifiedTypeDeclaration))
  return ⟨package, imports.filterMap id, types.filterMap id⟩

end Rules

/-- Parses the tokens of a source file. Every level of nesting takes a token, and passes through at
most eight rules. -/
def CompilationUnit.ofTokens (tokens : List Token) : Except ParseError CompilationUnit :=
  let tokens := tokens.toArray
  ((Rules.ofDepth (8 * tokens.size + 16)).compilationUnit tokens ⟨0, 0⟩).1

end Ripple.Java
