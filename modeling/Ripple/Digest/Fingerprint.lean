-- SUMMARY: Fingerprints of files by content or by size and time, and the bytes that are hashed for them.
import Ripple.Digest.Sha256
import Ripple.Files.Disk

/-! # Fingerprints of files

The fingerprint of some files changes when the set of files, their contents or the notes that go
with them change. The bytes that are hashed are a definition of their own.
-/

namespace Ripple.Fingerprint

/-- A part of the input, with the zero that ends it. -/
def part (content : Bytes) : Bytes :=
  content ++ [0]

def textPart (text : String) : Bytes :=
  part (Utf8.encode text.toList)

/-- How a file counts. -/
inductive Measure where
  | content
  /-- By its size and the time of its last change. -/
  | stamp
deriving DecidableEq, Repr

/-- What stands for a file that cannot be read. -/
def missing : Bytes :=
  Utf8.encode "<missing>".toList

/-- What stands for a file. -/
def fileBytes (files : Disk) (measure : Measure) (path : Path) : Bytes :=
  match files.find path with
  | .ok (.file content modified) =>
    match measure with
    | .content => content
    | .stamp => Utf8.encode (toString content.length ++ ":" ++ toString modified).toList
  | _ => missing

/-- Different paths in order. -/
def pathSet (paths : List Path) : List Path :=
  Text.sortWith Path.le paths.eraseDups

/-- The bytes that are hashed: the notes, then each path with what stands for its file. -/
def input (files : Disk) (measure : Measure) (notes : List String) (paths : List Path) : Bytes :=
  notes.flatMap textPart ++
    (pathSet paths).flatMap fun path =>
      textPart path.text ++ part (fileBytes files measure path)

/-- The fingerprint of files and notes. A path with a zero character has none. -/
def digest (files : Disk) (measure : Measure) (notes : List String) (paths : List Path) :
    Except FileError String :=
  if paths.any Path.hasZero then .error .zeroInPath
  else .ok (Sha256.digest (input files measure notes paths))

end Ripple.Fingerprint
