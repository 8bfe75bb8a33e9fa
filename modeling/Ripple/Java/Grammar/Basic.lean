-- SUMMARY: The record of the mutually recursive grammar rules, and the rules of depth zero, which refuse everything.
import Ripple.Java.Parse
import Ripple.Java.Syntax

/-! # The mutually recursive rules

Types, expressions, statements and declarations contain one another. Each rule is written against a
record of the rules it may call, and the record is closed by a recursion on the nesting depth.
-/

namespace Ripple.Java

/-- The rules that other rules call recursively. -/
structure Rules where
  /-- A type named by identifiers; gives its spelling. -/
  referenceType : Parse String
  /-- An expression with assignments. -/
  expression : Parse Node
  /-- An expression without assignments. -/
  conditional : Parse Node
  /-- An expression without infix operators. -/
  operand : Parse Node
  annotationUse : Parse Node
  statement : Parse Node
  /-- A statement or declaration inside a block. -/
  blockStatement : Parse Node
  /-- The members of a class between braces. -/
  classBody : Parse (List Node)
  /-- A type declaration after its modifiers. -/
  typeDeclaration : Parse Node

/-- Rules that accept nothing. -/
def Rules.refusing : Rules where
  referenceType := .fail .unexpected
  expression := .fail .unexpected
  conditional := .fail .unexpected
  operand := .fail .unexpected
  annotationUse := .fail .unexpected
  statement := .fail .unexpected
  blockStatement := .fail .unexpected
  classBody := .fail .unexpected
  typeDeclaration := .fail .unexpected

end Ripple.Java
