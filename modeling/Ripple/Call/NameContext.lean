-- SUMMARY: What a source file says about names, and the completion of types and receivers from it.
import Ripple.Json.Basic
import Ripple.Name.Method
import Ripple.Text.CharClass

/-! # Names in a source file

Type spellings are completed to qualified names from what a file says: the types it declares, the
types it imports and its package. Receivers of calls are completed from declared variables. There
is no type checking; a name that nothing declares is taken for a type of the same package.
-/

namespace Ripple

/-- What a source file says about type names. -/
structure NameContext where
  package : String := ""
  imports : List String := []
  /-- Simple names of the declared types with their qualified names. -/
  declared : List (String × String) := []

namespace NameContext

variable (context : NameContext)

/-- A name inside the package. -/
def inPackage (name : String) : String :=
  if context.package.isEmpty then name else context.package ++ "." ++ name

/-- The qualified name of a type declared in the file, inside the type `outer` if there is one. -/
def declaredName (name : String) (outer : Option String) : String :=
  match outer with
  | some outer => if outer.isEmpty then context.inPackage name else outer ++ "." ++ name
  | none => context.inPackage name

/-- Adds a declared type; the first type of a name counts. -/
def declare (name qualified : String) : NameContext :=
  if context.declared.any (·.1 == name) then context
  else { context with declared := context.declared ++ [(name, qualified)] }

/-- Whether an import brings in a simple name. -/
def importsName (path name : String) : Bool :=
  path == name || ('.' :: name.toList).isSuffixOf path.toList

/-- The qualified name of a type spelled without points. -/
def qualifySimple (name : String) : String :=
  match context.declared.find? (·.1 == name) with
  | some (_, qualified) => qualified
  | none =>
    match context.imports.find? (importsName · name) with
    | some path => path
    | none => context.inPackage name

/-- The qualified name of a type. Of a dotted spelling the first segment is qualified; one that
begins in lower case is qualified already. -/
def qualify (spelling : String) : String :=
  if spelling.isEmpty then ""
  else
    match Text.cutFirst? Name.isPoint spelling.toList with
    | none => context.qualifySimple spelling
    | some (head, rest) =>
      if head.head?.any Text.isLowerCase then spelling
      else
        let head := if head.isEmpty then "" else context.qualifySimple (String.ofList head)
        head ++ "." ++ String.ofList rest

end NameContext

/-- The variables that a method sees, with the spellings of their types. -/
structure Scope where
  fields : List (String × String) := []
  parameters : List (String × String) := []
  locals : List (String × String) := []

/-- The type of a variable: of a field, else of a parameter, else of a local variable. -/
def Scope.lookup? (scope : Scope) (name : String) : Option String :=
  [scope.fields, scope.parameters, scope.locals].findSome? fun declarations =>
    (declarations.find? (·.1 == name)).map (·.2)

namespace NameContext

variable (context : NameContext)

/-- The part of a receiver behind `this.`. -/
def behindThis (receiver : String) : String :=
  let mark := "this.".toList
  if mark.isPrefixOf receiver.toList then String.ofList (receiver.toList.drop mark.length)
  else receiver

/-- The type of a receiver: the enclosing type for none and for `this`, the type of a variable, and
else the type that its last segment names. -/
def receiverType (scope : Scope) (enclosing receiver : String) : String :=
  if receiver.isEmpty || receiver == "this" then enclosing
  else
    let receiver := behindThis receiver
    match scope.lookup? receiver with
    | some type => if type.isEmpty then context.qualify (Name.simple receiver) else context.qualify type
    | none => context.qualify (Name.simple receiver)

/-- The type of members reached one from the other, from the current object. -/
def memberChainType? (scope : Scope) (members : List String) : Option String :=
  if members.isEmpty then none
  else some (context.receiverType scope "" (Name.join members))

end NameContext

end Ripple
