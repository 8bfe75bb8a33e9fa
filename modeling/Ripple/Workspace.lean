-- SUMMARY: The workspace of the analyzer, and the operations that read and change it.
import Ripple.Fault
import Ripple.Files.Disk
import Ripple.Text.Encoding

/-! # The workspace

What the analyzer reads and changes: the files, the journal of its messages, the signal that cancels
its work, and what becomes of its writes.
-/

namespace Ripple

inductive Severity where
  | info
  | warning
  | error
deriving DecidableEq, Repr

def Severity.name : Severity → String
  | .info => "INFO"
  | .warning => "WARNING"
  | .error => "ERROR"

/-- A message in the journal, with the name of the part that wrote it. -/
structure Message where
  severity : Severity
  source : String
  text : String
deriving DecidableEq, Repr

/-- A cancellation signal: `none` is never given, `some n` after `n` checks. -/
abbrev Signal := Option Nat

/-- What becomes of a write. -/
inductive WriteFate where
  | done
  /-- It breaks off with so many bytes in the file, or before the file is touched. -/
  | brokenOff (kept : Option Nat)
deriving DecidableEq, Repr, Inhabited

structure Workspace where
  files : Disk := .empty
  journal : List Message := []
  signal : Signal := none
  /-- What becomes of the writes to come, by their numbers. -/
  fates : Nat → WriteFate := fun _ => .done
deriving Inhabited

/-- The fault that an error with files leads to. -/
def FileError.fault : FileError → Fault
  | .zeroInPath => .invalidValue
  | .isFolder => .isFolder
  | _ => .inaccessible

/-- An operation on the workspace. What it changed before a fault stays changed. -/
abbrev Work (α : Type) := ExceptT Fault (StateM Workspace) α

namespace Work

/-- Writes messages to the journal. -/
def report (messages : List Message) : Work Unit :=
  modify fun w => { w with journal := w.journal ++ messages }

def log (severity : Severity) (source text : String) : Work Unit :=
  report [⟨severity, source, text⟩]

def files : Work Disk := return (← get).files

def setFiles (files : Disk) : Work Unit :=
  modify fun w => { w with files }

/-- Changes the files, or tells why that fails. -/
def tryChange (change : Disk → Except FileError Disk) : Work (Except FileError Unit) := do
  match change (← files) with
  | .ok changed =>
    setFiles changed
    return .ok ()
  | .error e => return .error e

/-- Makes the folders of a path that do not exist yet. -/
def makeFolders (path : Path) : Work (Except FileError Unit) := do
  let (changed, result) := (← files).makeFolders path
  setFiles changed
  return result

/-- What becomes of the write that is due. -/
def nextFate : Work WriteFate := do
  let fates := (← get).fates
  modify fun w => { w with fates := fun number => fates (number + 1) }
  return fates 0

/-- Writes a file, making the folders above it. -/
def writeFile (path : Path) (content : Bytes) : Work (Except FileError Unit) := do
  match ← makeFolders path.parent with
  | .error e => return .error e
  | .ok _ =>
    match ← nextFate with
    | .done => tryChange (·.write path content 0)
    -- The folders are there by now, and stay.
    | .brokenOff none => return .error .brokenOff
    | .brokenOff (some kept) =>
      let _ ← tryChange (·.write path (content.take kept) 0)
      return .error .brokenOff

/-- Asks the signal once whether the work is cancelled. -/
def isCancelled : Work Bool := do
  match (← get).signal with
  | none => return false
  | some 0 => return true
  | some (n + 1) =>
    modify fun w => { w with signal := some n }
    return false

/-- Gives the signal. -/
def cancel : Work Unit :=
  modify fun w => { w with signal := some 0 }

/-- Takes a result over. -/
def ofExcept (result : Except Fault α) : Work α :=
  match result with
  | .ok a => pure a
  | .error e => throw e

/-- Takes an answer about files over. -/
def ofFiles (answer : Except FileError α) : Work α :=
  ofExcept (answer.mapError FileError.fault)

/-- Runs an operation and keeps its fault as a result. -/
def attempt (work : Work α) : Work (Except Fault α) :=
  ExceptT.mk (Except.ok <$> work.run)

end Work

end Ripple
