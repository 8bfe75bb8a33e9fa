-- SUMMARY: The program: reads the folders that are named, runs the application on them, and writes back what it changed.
import Ripple.CommandLine.Application
import Ripple.Files.Changes
import Std.Async.System
import Std.Time

/-! # The program

The folders that the arguments and the settings name are read, the work is done on what was read,
and what it changed is written back.
-/

namespace Ripple.Program

/-- A place in the file system. -/
def placeOf (path : Path) : IO.FS.DirEntry := ⟨".", path.text⟩

/-- Reads a file, or a folder with all that is in it if it is asked for. -/
partial def read (place : IO.FS.DirEntry) (deep : Bool) : IO Entry := do
  let data ← place.path.metadata
  if data.type == .dir then
    if !deep then return .empty
    let mut entries := []
    for inner in ← place.path.readDir do
      try
        entries := (inner.fileName, ← read inner true) :: entries
      catch _ => pure ()
    return .folder entries.reverse
  else
    let content ← IO.FS.readBinFile place.path
    return .file content.toList (data.modified.sec * 1000000000 + data.modified.nsec.toNat)

/-- Puts what stands at a path of the file system onto the disk. -/
def fetch (disk : Disk) (path : Path) (deep : Bool) : IO Disk := do
  try
    let entry ← read (placeOf path) deep
    let (disk, _) := disk.makeFolders path.parent
    match disk.resolve path with
    | .ok way => return if way.isEmpty then { disk with tree := entry } else disk.put way entry
    | .error _ => return disk
  catch _ => return disk

/-- A disk with the working directory as its home folder, and nothing else. -/
def homeDisk : IO Disk := do
  let here := Path.ofText (← IO.currentDir).toString
  let bare : Disk := ⟨.empty, here.names⟩
  return (bare.makeFolders here).1

/-- How many processors there are, if the system tells. -/
def processors : IO (Option Nat) := do
  try
    return some (← Std.Async.System.getCPUInfo).size
  catch _ => return none

/-- The disk with all that a run can need. -/
def prepare (processors : Option Nat) (args : CommandLine.Arguments) : IO Disk := do
  let mut disk ← homeDisk
  if let some folder := args.outputDir then disk ← fetch disk folder false
  if let some file := args.settings then disk ← fetch disk file false
  match Settings.load processors disk args.settings [] with
  | .error _ => pure ()
  | .ok settings =>
    if let some file := settings.namingPolicyFile then disk ← fetch disk file false
    disk ← fetch disk settings.cacheDir true
  fetch disk args.root true

/-- The place of a way from the top. -/
def placeText (way : List String) : String :=
  "/" ++ "/".intercalate way

/-- Writes back what has changed. -/
def writeBack (old new : Entry) : IO Unit := do
  for way in old.deleted new do
    IO.FS.removeFile (placeText way)
  for (way, content) in old.written new do
    IO.FS.createDirAll (placeText way.dropLast)
    IO.FS.writeBinFile (placeText way) ⟨content.toArray⟩

/-- The time stamp of this moment. -/
def stampNow : IO String := do
  let now ← Std.Time.PlainDateTime.now
  let moment : Moment :=
    { year := now.date.year.toInt.toNat, month := now.date.month.val.toNat
      day := now.date.day.val.toNat, hour := now.time.hour.val.toNat
      minute := now.time.minute.val.toNat, second := now.time.second.val.toNat }
  return moment.stamp

def usage : String :=
  "usage: ripple [-h] [--format \x7bjson,text\x7d] [--settings SETTINGS] [--output-dir OUTPUT_DIR]" ++
    " [--graph] [--workers WORKERS] root tables [tables ...]"

def showMessage (m : Message) : String :=
  m.severity.name ++ " " ++ m.source ++ ": " ++ m.text

/-- Does what the arguments ask for. -/
def run (args : CommandLine.Arguments) : IO UInt32 := do
  let processors ← processors
  let disk ← prepare processors args
  let work := CommandLine.Application.run processors args (← stampNow)
  let (outcome, space) := (work.run { files := disk } : _ × Workspace)
  writeBack disk.tree space.files.tree
  for m in space.journal do
    if m.severity != .info then IO.eprintln (showMessage m)
  match outcome with
  | .error _ => return 1
  | .ok (output, fault?) =>
    IO.print output
    if let some fault := fault? then IO.eprintln ("ripple: " ++ fault.message)
    return (CommandLine.Application.exitCode fault?).toUInt32

end Ripple.Program

/-- Reports the impact of tables. -/
def main (args : List String) : IO UInt32 := do
  match Ripple.CommandLine.Arguments.ofTexts args with
  | .error .help =>
    IO.println Ripple.Program.usage
    return 0
  | .error (.usage message) =>
    IO.eprintln Ripple.Program.usage
    IO.eprintln ("ripple: error: " ++ message)
    return 2
  | .ok args => Ripple.Program.run args
