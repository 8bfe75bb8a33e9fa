-- SUMMARY: Paths: reading them from texts, joining them, and their names and texts.
import Ripple.Text.Blank
import Ripple.Text.Order

/-! # Paths

A path is a root and the names below it. Empty names and single points are no names; two points are
kept, because what they mean depends on the files.
-/

namespace Ripple

/-- A path: the root is empty for a relative path. -/
structure Path where
  root : String := ""
  names : List String := []
deriving DecidableEq, Repr, Inhabited

namespace Path

/-- The root that a text begins with; exactly two slashes are a root of their own. -/
def rootOf : List Char → String
  | '/' :: '/' :: '/' :: _ => "/"
  | '/' :: '/' :: _ => "//"
  | '/' :: _ => "/"
  | _ => ""

/-- Reads a path. -/
def ofText (text : String) : Path where
  root := rootOf text.toList
  names := ((Text.splitWhen (· == '/') text.toList).map String.ofList).filter fun name =>
    !name.isEmpty && name != "."

/-- The text of a path; the empty path is a single point. -/
def text (path : Path) : String :=
  if path.root.isEmpty && path.names.isEmpty then "." else path.root ++ "/".intercalate path.names

/-- A path below another; an absolute one stays as it is. -/
def join (base path : Path) : Path :=
  if path.root.isEmpty then { base with names := base.names ++ path.names } else path

/-- A path with a text added below it. -/
def below (base : Path) (text : String) : Path :=
  base.join (ofText text)

/-- A path with one more name. -/
def child (base : Path) (name : String) : Path :=
  { base with names := base.names ++ [name] }

/-- Whether a name holds a zero character, which no file can have in its name. -/
def hasZero (path : Path) : Bool :=
  path.names.any fun name => name.toList.contains '\x00'

/-- The last name, empty if there is none. -/
def name (path : Path) : String :=
  path.names.getLastD ""

def parent (path : Path) : Path :=
  { path with names := path.names.dropLast }

/-- The name without the ending behind its last point. A point at either end begins no ending. -/
def stem (path : Path) : String :=
  match Text.cutLast? (· == '.') path.name.toList with
  | some (before, after) =>
    if before.isEmpty || after.isEmpty then path.name else String.ofList before
  | none => path.name

/-- Whether a path is a proper part of another's way from the root. -/
def isAbove (path other : Path) : Bool :=
  path.root == other.root && path.names != other.names && path.names.isPrefixOf other.names

/-- The text of what a path adds to another, if it lies below it. -/
def relativeText (path base : Path) : String :=
  ({ names := path.names.drop base.names.length } : Path).text

/-- The parts that paths are ordered by. -/
def parts (path : Path) : List String :=
  if path.root.isEmpty then path.names else path.root :: path.names

end Path

/-- Paths are ordered by their parts. -/
def Path.le (a b : Path) : Bool :=
  Text.listLe a.parts b.parts

end Ripple
