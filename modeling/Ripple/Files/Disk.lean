-- SUMMARY: A disk with a home folder: resolving paths, and reading, writing and deleting files.
import Ripple.Files.Entry

/-! # The disk

A tree of files with a home folder. Relative paths begin at the home folder, absolute ones at the
top of the tree; two points go back to the folder above. Names and paths are limited in length.
-/

namespace Ripple

/-- Why an access to files fails. -/
inductive FileError where
  | notFound
  | notFolder
  | isFolder
  /-- A name or a path of too many bytes. -/
  | tooLong
  /-- A path with a zero character. -/
  | zeroInPath
  /-- A write that broke off. -/
  | brokenOff
deriving DecidableEq, Repr

/-- A tree of files, and the way to the home folder. -/
structure Disk where
  tree : Entry
  home : List String
deriving Inhabited

namespace Disk

/-- A disk with nothing but an empty home folder. -/
def empty : Disk where
  tree := .folder [("home", .empty)]
  home := ["home"]

/-- The way that a path begins at. -/
def startOf (disk : Disk) (path : Path) : List String :=
  if path.root.isEmpty then disk.home else []

/-- The largest number of bytes in a name. -/
def maxNameSize : Nat := 255

/-- The largest number of bytes in the text of a path. -/
def maxPathSize : Nat := 4095

/-- Refuses paths that no file can have. -/
def checkPath (path : Path) : Except FileError Unit :=
  if path.hasZero then .error .zeroInPath
  else if maxPathSize < path.text.utf8ByteSize then .error .tooLong
  else .ok ()

/-- Goes one name further on a resolved way, which must lead to a folder. -/
def advance (disk : Disk) (way : List String) (name : String) : Except FileError (List String) :=
  match disk.tree.at? way with
  | none => .error .notFound
  | some (.file ..) => .error .notFolder
  | some (.folder _) =>
    if maxNameSize < name.utf8ByteSize then .error .tooLong
    else .ok (if name == ".." then way.dropLast else way ++ [name])

/-- Goes one name further, whether there is a folder or not. -/
def nextWay (way : List String) (name : String) : List String :=
  if name == ".." then way.dropLast else way ++ [name]

/-- The way that a path leads, if all folders on it exist. -/
def wayTo (disk : Disk) (path : Path) : List String :=
  path.names.foldl nextWay (disk.startOf path)

/-- Resolves a path to names without points. All folders on the way must exist, the last name need
not. -/
def resolve (disk : Disk) (path : Path) : Except FileError (List String) := do
  checkPath path
  path.names.foldlM disk.advance (disk.startOf path)

/-- The entry at a path. -/
def find (disk : Disk) (path : Path) : Except FileError Entry := do
  match disk.tree.at? (← disk.resolve path) with
  | some entry => .ok entry
  | none => .error .notFound

/-- The entry at a path, if there is one. Only a path that is too long cannot be asked about. -/
def entryAt (disk : Disk) (path : Path) : Except FileError (Option Entry) :=
  match disk.find path with
  | .ok entry => .ok (some entry)
  | .error .tooLong => .error .tooLong
  | .error _ => .ok none

def isFileAt (disk : Disk) (path : Path) : Except FileError Bool := do
  return (← disk.entryAt path).any (!·.isFolder)

def isFolderAt (disk : Disk) (path : Path) : Except FileError Bool := do
  return (← disk.entryAt path).any (·.isFolder)

def existsAt (disk : Disk) (path : Path) : Except FileError Bool := do
  return (← disk.entryAt path).isSome

/-- The content of a file. -/
def read (disk : Disk) (path : Path) : Except FileError Bytes := do
  match ← disk.find path with
  | .file content _ => .ok content
  | .folder _ => .error .isFolder

/-- Puts an entry at a resolved way. -/
def put (disk : Disk) (way : List String) (entry : Entry) : Disk :=
  { disk with tree := disk.tree.putAt way entry }

/-- Writes a file whose folder exists. -/
def write (disk : Disk) (path : Path) (content : Bytes) (modified : Int) :
    Except FileError Disk := do
  let way ← disk.resolve path
  if way.isEmpty then .error .isFolder
  else
    match disk.tree.at? way with
    | some (.folder _) => .error .isFolder
    | _ =>
      match disk.tree.at? way.dropLast with
      | some (.folder _) => .ok (disk.put way (.file content modified))
      | some (.file ..) => .error .notFolder
      | none => .error .notFound

/-- Adds to the end of a file, which is made if it does not exist. -/
def append (disk : Disk) (path : Path) (content : Bytes) : Except FileError Disk :=
  match disk.read path with
  | .ok old => disk.write path (old ++ content) 0
  | .error .notFound => disk.write path content 0
  | .error e => .error e

/-- Makes the folders with given names, one in the other, from a resolved way on. -/
def makeFrom (disk : Disk) (way : List String) : List String → Disk × Except FileError Unit
  | [] => (disk, .ok ())
  | name :: names =>
    match disk.advance way name with
    | .error e => (disk, .error e)
    | .ok next =>
      match disk.tree.at? next with
      | some (.folder _) => makeFrom disk next names
      | some (.file ..) => (disk, .error .notFolder)
      | none => makeFrom (disk.put next .empty) next names

/-- Makes the folders of a path that do not exist yet. Those made before an error stay. -/
def makeFolders (disk : Disk) (path : Path) : Disk × Except FileError Unit :=
  match checkPath path with
  | .error e => (disk, .error e)
  | .ok _ => disk.makeFrom (disk.startOf path) path.names

/-- Deletes a file. -/
def delete (disk : Disk) (path : Path) : Except FileError Disk := do
  let way ← disk.resolve path
  match disk.tree.at? way with
  | some (.file ..) => .ok { disk with tree := disk.tree.removeAt way }
  | some (.folder _) => .error .isFolder
  | none => .error .notFound

end Disk

end Ripple
