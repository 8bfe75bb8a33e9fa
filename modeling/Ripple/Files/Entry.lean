-- SUMMARY: Trees of files and folders, with looking up, putting and removing at a way of names.
import Ripple.Json.Basic
import Ripple.Path
import Ripple.Text.Utf8

/-! # Files and folders

A tree of files and folders. Its places are reached by ways of names.
-/

namespace Ripple

/-- A file with its content and time of modification, or a folder. -/
inductive Entry where
  | file (content : Bytes) (modified : Int)
  | folder (entries : List (String × Entry))
deriving Inhabited

namespace Entry

def empty : Entry := .folder []

def isFolder : Entry → Bool
  | .folder _ => true
  | .file .. => false

def entries : Entry → List (String × Entry)
  | .folder entries => entries
  | .file .. => []

def child? (entry : Entry) (name : String) : Option Entry :=
  (entry.entries.find? (·.1 == name)).map (·.2)

/-- The entry at a way of names without points. -/
def at? (entry : Entry) : List String → Option Entry
  | [] => some entry
  | name :: names => (entry.child? name).bind (·.at? names)

/-- Puts an entry at a way of names; the folders on the way must exist. -/
def put (new : Entry) : List String → Entry → Entry
  | [], _ => new
  | _ :: _, .file content modified => .file content modified
  | [name], .folder entries => .folder (putField name new entries)
  | name :: names, .folder entries =>
    match entries.find? (·.1 == name) with
    | some (_, sub) => .folder (putField name (put new names sub) entries)
    | none => .folder entries

/-- Removes the entry at a way of names. -/
def remove : List String → Entry → Entry
  | [], _ => .empty
  | _ :: _, .file content modified => .file content modified
  | [name], .folder entries => .folder (entries.filter (·.1 != name))
  | name :: names, .folder entries =>
    match entries.find? (·.1 == name) with
    | some (_, sub) => .folder (putField name (remove names sub) entries)
    | none => .folder entries

def putAt (root : Entry) (way : List String) (new : Entry) : Entry :=
  put new way root

def removeAt (root : Entry) (way : List String) : Entry :=
  remove way root

end Entry

end Ripple
