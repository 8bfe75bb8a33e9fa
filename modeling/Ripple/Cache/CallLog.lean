-- SUMMARY: The log of call sites: writing records in batches, and replaying them from bytes that may break off.
import Ripple.Json.Printer
import Ripple.Json.Reader
import Ripple.Workspace

/-! # The log of call sites

One JSON record a line. Records are collected and written in batches.
-/

namespace Ripple

structure CallLog where
  path : Path
  batchSize : Int
  /-- The part that its messages come from. -/
  journal : String
  /-- The lines that are not written yet. -/
  buffer : List String := []
  /-- How many records were written. -/
  written : Nat := 0

namespace CallLog

/-- The bytes of lines. -/
def linesBytes (lines : List String) : Bytes :=
  lines.flatMap fun line => Utf8.encode (line.toList ++ ['\n'])

/-- Begins a new log. A path with a zero character is a fault. -/
def reset (log : CallLog) : Work CallLog := do
  match ← Work.writeFile log.path [] with
  | .ok _ => pure ()
  | .error .zeroInPath => throw .invalidValue
  | .error _ =>
    Work.log .error log.journal ("Failed to reset call-site log " ++ log.path.text)
  return { log with buffer := [], written := 0 }

/-- Writes the collected records. If that fails they are lost; a path with a zero character is a
fault. -/
def flush (log : CallLog) : Work CallLog := do
  if log.buffer.isEmpty then return log
  else
    match ← Work.tryChange (·.append log.path (linesBytes log.buffer)) with
    | .ok _ => return { log with buffer := [], written := log.written + log.buffer.length }
    | .error .zeroInPath => throw .invalidValue
    | .error _ =>
      Work.log .error log.journal
        ("Failed to append " ++ toString log.buffer.length ++ " call sites to " ++ log.path.text)
      return { log with buffer := [] }

/-- Adds a record, and writes the batch when it is full. A record with an integer that is too long
to be written is a fault. -/
def append (log : CallLog) (record : Json) : Work CallLog :=
  if record.isWritable then
    let log := { log with buffer := log.buffer ++ [Json.render .line record] }
    if log.batchSize ≤ log.buffer.length then log.flush else return log
  else throw .invalidValue

/-- How many bytes are read at once. -/
def blockSize : Nat := 8192

/-- The text of bytes read block by block, up to the first block with bytes that are no text. A
character can be cut by the end of a block, but not by the end of the bytes. The flag says whether
all is text. -/
def textBefore : Nat → Option Utf8.Partial → Bytes → List Char × Bool
  | 0, _, _ => ([], true)
  | fuel + 1, cut, bytes =>
    if bytes.isEmpty then ([], cut.isNone)
    else
      let (pieces, cut) := Utf8.piecesFrom cut (bytes.take blockSize)
      match pieces.mapM id with
      | none => ([], false)
      | some text =>
        let (later, whole) := textBefore fuel cut (bytes.drop blockSize)
        (text ++ later, whole)

/-- The lines of a log that can be read, and whether it can be read to its end. -/
def readableLines (bytes : Bytes) : List (List Char) × Bool :=
  let (text, whole) := textBefore (bytes.length + 1) none bytes
  if whole then (Text.splitWhen (· == '\n') (Text.plainLineEnds text), true)
  else
    -- A line is handed on when its end is read. A carriage return may be the first half of an end,
    -- and the bad block hides whether it is.
    let text := if text.getLast? == some '\r' then text.dropLast else text
    ((Text.splitWhen (· == '\n') (Text.plainLineEnds text)).dropLast, false)

/-- What a line holds. -/
inductive Line where
  | blank
  | torn
  | record (value : Json)

def readLine (text : List Char) : Except Fault Line :=
  match Text.trim text with
  | [] => .ok .blank
  | trimmed =>
    match Json.read trimmed with
    | .ok value => .ok (.record value)
    | .error .malformed => .ok .torn
    | .error .longInteger => .error .invalidValue

/-- Hands the records of numbered lines on, one after the other. -/
def replayLines (log : CallLog) (consume : σ → Json → Except Fault σ) :
    σ → Nat → List (List Char) → Work σ
  | state, _, [] => return state
  | state, number, line :: rest => do
    match ← Work.ofExcept (readLine line) with
    | .blank => replayLines log consume state (number + 1) rest
    | .torn =>
      Work.log .warning log.journal
        ("Skipping malformed record at " ++ log.path.text ++ ":" ++ toString number)
      replayLines log consume state (number + 1) rest
    | .record value =>
      replayLines log consume (← Work.ofExcept (consume state value)) (number + 1) rest

/-- Hands all records of the log on, one after the other. Lines that are no records are skipped. -/
def replay (log : CallLog) (consume : σ → Json → Except Fault σ) (state : σ) : Work σ := do
  let files ← Work.files
  if !(← Work.ofFiles (files.existsAt log.path)) then return state
  else
    match files.read log.path with
    | .error _ => throw .isFolder
    | .ok bytes =>
      let (lines, whole) := readableLines bytes
      -- Bytes that are no text are a fault only after the lines in front of them were handed on.
      let state ← replayLines log consume state 1 lines
      if whole then return state else throw .undecodable

/-- The records of the log. -/
def records (log : CallLog) : Work (List Json) :=
  log.replay (fun records record => .ok (records ++ [record])) []

end CallLog

end Ripple
