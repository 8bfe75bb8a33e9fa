-- SUMMARY: The contents of a tree of files, and what turns one tree into another.
import Ripple.Files.Disk

/-! # Changes to files

What has to be written and deleted so that one tree of files becomes another.
-/

namespace Ripple.Entry

mutual

/-- The files of an entry with the ways to them. -/
def contents : Entry → List (List String × Bytes)
  | .file content _ => [([], content)]
  | .folder entries => contentsOfAll entries

def contentsOfAll : List (String × Entry) → List (List String × Bytes)
  | [] => []
  | (name, entry) :: rest =>
    (contents entry).map (fun (way, content) => (name :: way, content)) ++ contentsOfAll rest

end

/-- Whether a file of this content stands at a way. -/
def holds (entry : Entry) (way : List String) (content : Bytes) : Bool :=
  match entry.at? way with
  | some (.file old _) => old == content
  | _ => false

/-- Whether some file stands at a way. -/
def holdsFile (entry : Entry) (way : List String) : Bool :=
  match entry.at? way with
  | some (.file ..) => true
  | _ => false

/-- The files that are new or changed. -/
def written (old new : Entry) : List (List String × Bytes) :=
  new.contents.filter fun (way, content) => !old.holds way content

/-- The files that are gone. -/
def deleted (old new : Entry) : List (List String) :=
  (old.contents.map (·.1)).filter fun way => !new.holdsFile way

end Ripple.Entry
