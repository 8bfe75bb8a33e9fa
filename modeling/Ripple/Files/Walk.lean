-- SUMMARY: The walk through a folder, and the files with a given ending that it finds.
import Ripple.Files.Disk

/-! # Walking a folder

Folders are visited from the top, the files of a folder before the folders in it, and names in the
order of their code points. A folder whose path is too long is passed over.
-/

namespace Ripple

namespace Entry

/-- The names of the files in a folder, in order. -/
def fileNames (entries : List (String × Entry)) : List String :=
  Text.sorted ((entries.filter (!·.2.isFolder)).map (·.1))

/-- Concatenates what is known of each name, in the order of the names. -/
def inNameOrder (visits : List (String × List α)) : List α :=
  (Text.sortedBy (·.1) visits).flatMap (·.2)

mutual

/-- The folders at and below an entry with the names of their files. `enter` says which folders
are entered, given the folder above and the name. -/
def walk (enter : Path → String → Bool) (here : Path) : Entry → List (Path × List String)
  | .file .. => []
  | .folder entries =>
    if Disk.maxPathSize < here.text.utf8ByteSize then []
    else (here, fileNames entries) :: inNameOrder (walkAll enter here entries)

def walkAll (enter : Path → String → Bool) (here : Path) :
    List (String × Entry) → List (String × List (Path × List String))
  | [] => []
  | (name, entry) :: rest =>
    (name, if enter here name then walk enter (here.child name) entry else []) ::
      walkAll enter here rest

end

end Entry

/-- The files below a folder whose names end with `suffix`, without those in folders that are
excluded by name or pruned by path. A folder that is not there has no files. -/
def Disk.filesBelow (disk : Disk) (folder : Path) (suffix : String) (excluded : List String)
    (pruned : List Path) : List Path :=
  match disk.find folder with
  | .ok entry =>
    let enter (here : Path) (name : String) : Bool :=
      !excluded.contains name && !pruned.contains (here.child name)
    (entry.walk enter folder).flatMap fun (here, names) =>
      (names.filter (suffix.toList.isSuffixOf ·.toList)).map here.child
  | .error _ => []

/-- The same for a folder that may have a name that no folder can have. -/
def Disk.listBelow (disk : Disk) (folder : Path) (suffix : String) (excluded : List String)
    (pruned : List Path) : Except FileError (List Path) :=
  if folder.hasZero then .error .zeroInPath
  else .ok (disk.filesBelow folder suffix excluded pruned)

end Ripple
