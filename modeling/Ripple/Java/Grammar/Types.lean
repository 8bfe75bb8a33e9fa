-- SUMMARY: Grammar rules for types, type arguments and type parameters.
import Ripple.Java.Grammar.Basic

/-! # Rules for types

A type is read for its spelling: the dotted name without type arguments and dimensions.
-/

namespace Ripple.Java

open Parse

/-- Empty brackets after a type or a name. -/
def dimensions : Parse Unit :=
  discard <| collect do
    if ← taken ["[", "]"] then return some () else return none

def basicType : Parse String := do
  return (← expectToken aBasicType).text

namespace Rules

variable (rules : Rules)

/-- A type argument without a wildcard: a basic type must be the element type of an array. -/
def boundType : Parse Unit := do
  if ← ahead [aBasicType] then
    discard basicType
    expect ["[", "]"]
  else discard rules.referenceType
  dimensions

def typeArgument : Parse Unit := do
  if ← taken ["?"] then
    let bound := (← peek).text
    if bound == "extends" || bound == "super" then
      discard next
      rules.boundType
  else rules.boundType

/-- Items between angle brackets, separated by commas. -/
def angled (item : Parse Unit) : Parse Unit := do
  expect ["<"]
  item
  discard <| collect do
    if ← taken [">"] then return none
    expect [","]
    return some (← item)

def typeArguments : Parse Unit := angled rules.typeArgument

def typeArgumentsOrDiamond : Parse Unit := do
  if ← taken ["<", ">"] then pure () else rules.typeArguments

/-- A type named by identifiers. -/
def referenceTypeRule : Parse String := do
  return ".".intercalate (← separated "." do
    let name ← identifier
    if ← ahead ["<"] then rules.typeArguments
    return name)

/-- The name of a created type, which may leave its arguments to be inferred. -/
def createdName : Parse String := do
  return ".".intercalate (← separated "." do
    let name ← identifier
    if ← ahead ["<"] then rules.typeArgumentsOrDiamond
    return name)

/-- Any type. -/
def type : Parse String := do
  let spelling ←
    if ← ahead [aBasicType] then basicType
    else if ← ahead [anIdentifier] then rules.referenceTypeRule
    else fail .unexpected
  dimensions
  return spelling

def typeList : Parse Unit := discard <| separated "," rules.boundType

/-- Type arguments without wildcards. -/
def plainTypeArguments : Parse Unit := do
  expect ["<"]
  rules.typeList
  expect [">"]

def plainTypeArgumentsOrDiamond : Parse Unit := do
  if ← taken ["<", ">"] then pure () else rules.plainTypeArguments

/-- A type parameter with its bounds. -/
def typeParameter : Parse Unit := do
  discard identifier
  if ← taken ["extends"] then
    discard <| separated "&" rules.referenceType

def typeParameters : Parse Unit := angled rules.typeParameter

/-- Type parameters, if there are any. -/
def optionalTypeParameters : Parse Unit := do
  if ← ahead ["<"] then rules.typeParameters

end Rules

end Ripple.Java
