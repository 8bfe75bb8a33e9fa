-- SUMMARY: Snapshots of an index on disk: their envelope, and how they are saved, judged and dropped.
import Ripple.Json.Printer
import Ripple.Json.Reader
import Ripple.Workspace

/-! # Snapshots

An index is kept on disk as a JSON object that names its kind, the fingerprint of the files that it
was made of, whether it is complete, and its data.
-/

namespace Ripple

/-- Where a kind of snapshot is kept, and whether it has to match the files. -/
structure SnapshotFile where
  path : Path
  kind : String
  /-- Whether only a complete snapshot with the right fingerprint is used. -/
  strict : Bool
  /-- The part that its messages come from. -/
  journal : String

/-- What is found at the place of a snapshot. -/
inductive SnapshotState where
  | absent
  | unreadable
  | corrupted
  /-- Some other JSON. -/
  | foreign
  /-- A snapshot without data. -/
  | hollow
  | incomplete
  | outdated
  | usable (data : Json)

namespace SnapshotFile

/-- The JSON object of a snapshot. -/
def envelope (kind : String) (data fingerprint complete : Json) : Json :=
  .obj [("kind", .str kind), ("version", .int 1), ("fingerprint", fingerprint),
    ("complete", complete), ("data", data)]

/-- What a JSON value is worth as a snapshot. -/
def judge (file : SnapshotFile) (fingerprint : Json) (value : Json) : SnapshotState :=
  match value.field? "data", value.field? "kind" with
  | some data, some kind =>
    if !(kind == .str file.kind) then .foreign
    else if data.isEmpty then .hollow
    else if !file.strict then .usable data
    -- Any value that is not empty counts as a yes.
    else if ((value.field? "complete").getD .null).isEmpty then .incomplete
    else
      match fingerprint with
      | .null => .usable data
      | fingerprint =>
        if (value.field? "fingerprint").getD .null == fingerprint then .usable data else .outdated
  | _, _ => .foreign

/-- What is found at the place of a snapshot. Null stands for any fingerprint. -/
def state (file : SnapshotFile) (files : Disk) (fingerprint : Json) :
    Except Fault SnapshotState :=
  match files.existsAt file.path with
  | .error e => .error e.fault
  | .ok false => .ok .absent
  | .ok true =>
    match files.read file.path with
    | .error _ => .ok .unreadable
    | .ok bytes =>
      match Utf8.decode? bytes with
      | none => .ok .corrupted
      | some text =>
        match Json.read text with
        | .error .malformed => .ok .corrupted
        | .error .longInteger => .error .invalidValue
        | .ok value => .ok (file.judge fingerprint value)

def log (file : SnapshotFile) (severity : Severity) (text : String) : Work Unit :=
  Work.log severity file.journal text

/-- Deletes the snapshot, if it is there. A path with a zero character is a fault. -/
def delete (file : SnapshotFile) : Work Unit := do
  match ← Work.tryChange (·.delete file.path) with
  | .ok _ | .error .notFound => pure ()
  | .error .zeroInPath => throw .invalidValue
  | .error _ => file.log .error ("Failed to delete cache file " ++ file.path.text)

/-- The data of a usable snapshot. What cannot be a snapshot is deleted. -/
def load (file : SnapshotFile) (fingerprint : Json) : Work (Option Json) := do
  let place := file.path.text
  match ← Work.ofExcept (file.state (← Work.files) fingerprint) with
  | .absent =>
    file.log .info ("Cache file " ++ place ++ " not found. Building " ++ file.kind ++
      " from scratch.")
    return none
  | .unreadable =>
    file.log .error ("Failed to load " ++ file.kind ++ " cache from " ++ place)
    return none
  | .corrupted =>
    file.log .error ("Cache file is empty or corrupted. Deleting: " ++ place)
    file.delete
    return none
  | .foreign =>
    file.log .error ("Cache file " ++ place ++ " does not hold a " ++ file.kind ++
      " snapshot. Deleting it.")
    file.delete
    return none
  -- Nothing is told about it, and the file stays.
  | .hollow => return none
  | .incomplete =>
    file.log .info ("Cache file " ++ place ++ " holds an incomplete " ++ file.kind ++
      " snapshot. Rebuilding.")
    return none
  | .outdated =>
    file.log .info ("Sources changed since " ++ place ++ " was written. Rebuilding " ++
      file.kind ++ ".")
    return none
  | .usable data =>
    file.log .info ("Loaded " ++ file.kind ++ " from " ++ place ++ ", skipping indexing.")
    return some data

/-- What a usable snapshot holds, as `parse` reads it. A snapshot that holds something else is
deleted. -/
def loadAs (file : SnapshotFile) (parse : Json → Except Fault α) (title : String)
    (loaded : α → String) (fingerprint : Json) : Work (Option α) := do
  match ← file.load fingerprint with
  | none => return none
  | some data =>
    match parse data with
    | .error _ =>
      file.log .error ("Cached " ++ title ++ " " ++ file.path.text ++ " is malformed")
      file.delete
      return none
    | .ok value =>
      file.log .info (loaded value)
      return some value

/-- Writes a snapshot over the one that is there, and tells whether that worked. -/
def save (file : SnapshotFile) (data fingerprint complete : Json) : Work Bool := do
  let text := Json.renderAt .line 0 (envelope file.kind data fingerprint complete)
  match ← Work.writeFile file.path (Utf8.encode text) with
  | .ok _ => return true
  | .error _ =>
    file.log .error ("Failed to save " ++ file.kind ++ " to " ++ file.path.text)
    return false

end SnapshotFile

end Ripple
