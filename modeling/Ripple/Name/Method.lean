-- SUMMARY: Dotted names of types and methods, and their segments.
import Ripple.Text.Blank

/-! # Dotted names

Types and methods are named by segments joined with points. A method identifier is the name of its
type followed by the name of the method.
-/

namespace Ripple.Name

def isPoint (c : Char) : Bool := c == '.'

/-- The segments of a dotted name. -/
def segments (name : String) : List String :=
  (Text.splitWhen isPoint name.toList).map String.ofList

def join (segments : List String) : String :=
  ".".intercalate segments

/-- A method identifier as the name of its type and of the method; the type is empty if there is
no point. -/
def splitMethod (id : String) : String × String :=
  match Text.cutLast? isPoint id.toList with
  | some (owner, method) => (String.ofList owner, String.ofList method)
  | none => ("", id)

/-- The type of a method identifier. -/
def ownerOf (id : String) : String :=
  (splitMethod id).1

/-- The last segment of a dotted name. -/
def simple (name : String) : String :=
  String.ofList (Text.afterLast isPoint name.toList)

/-- The last two segments of a method identifier. -/
def simpleMethod (id : String) : String :=
  let (owner, method) := splitMethod id
  if owner.isEmpty then method else simple owner ++ "." ++ method

def isQualified (name : String) : Bool :=
  name.toList.any isPoint

/-- What stands in front of the name of a repository method that was not found. -/
def unresolvedMark : String := "[N/A]-"

/-- The entry for a repository class, or one of its statements, without a method. -/
def unresolved (repository : String) (statement : String) : String :=
  if statement.isEmpty then unresolvedMark ++ repository
  else unresolvedMark ++ repository ++ "." ++ statement

def isUnresolved (id : String) : Bool :=
  unresolvedMark.toList.isPrefixOf id.toList

end Ripple.Name
