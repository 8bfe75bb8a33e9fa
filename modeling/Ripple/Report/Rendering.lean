-- SUMMARY: Reports as text and as JSON, and how they are written to a file.
import Ripple.Impact.Result
import Ripple.Json.Printer
import Ripple.Report.Stamp
import Ripple.Workspace

/-! # Reports

A result is reported as text or as JSON.
-/

namespace Ripple

/-- The formats of reports. -/
inductive ReportFormat where
  | text
  | json
deriving DecidableEq, Repr

namespace Report

/-- A headed part of a report, with an empty line behind it. A part without lines is left out. -/
def headed (heading : String) (lines : List String) : List String :=
  if lines.isEmpty then [] else heading :: lines ++ [""]

/-- The line of a chain under its number. -/
def chainLine (number : Nat) (chain : CallChain) : String :=
  "  " ++ toString number ++ ". " ++
    if chain.path.isEmpty then chain.method ++ " (no callers found)" else chain.text

/-- The lines of chains that are numbered from a number on. -/
def chainLines : Nat → List CallChain → List String
  | _, [] => []
  | number, chain :: rest => chainLine number chain :: chainLines (number + 1) rest

def impactLine (impact : TableImpact) : String :=
  "  - " ++ impact.businessMethod ++ " <- " ++ impact.mapperMethod ++ " [" ++
    impact.moduleName ++ ": " ++ impact.mapperFile ++ "]"

/-- The lines of a text report. -/
def lines (result : ImpactResult) : List String :=
  let rule := String.ofList (List.replicate 80 '=')
  [rule, "Impact analysis for table: " ++ result.table, rule,
    "Call chains: " ++ toString result.chains.length,
    "Business impacts: " ++ toString result.impacts.length,
    "Unresolved repository references: " ++ toString result.unresolved.length, ""] ++
    headed "Call chains:" (chainLines 1 result.chains) ++
    headed "Impacted business methods:" (result.impacts.map impactLine) ++
    headed "Unresolved repository references:" (result.unresolved.map ("  - " ++ ·)) ++
    headed "Warnings:" (result.warnings.map ("  ! " ++ ·))

/-- The text report of a result. -/
def text (result : ImpactResult) : String :=
  "\n".intercalate (lines result)

/-- Indentations are integers of 64 bits. -/
def isIndentation (indent : Int) : Bool :=
  -0x8000000000000000 ≤ indent && indent < 0x8000000000000000

/-- The layout with an indentation, on one line without one. A negative indentation is none, but
breaks the lines. -/
def layout : Option Int → Except Fault Json.Layout
  | none => .ok .line
  | some indent => if isIndentation indent then .ok (.indented indent.toNat) else .error .overflow

/-- The JSON report of a result. It is a fault if an integer has too many digits. -/
def json (indent : Option Int) (result : ImpactResult Json) : Except Fault String := do
  let layout ← layout indent
  if result.toJson.isWritable then .ok (Json.render layout result.toJson)
  else .error .invalidValue

end Report

namespace ReportFormat

def extension : ReportFormat → String
  | .text => "txt"
  | .json => "json"

/-- The format of a name. -/
def ofName? : String → Option ReportFormat
  | "text" => some .text
  | "json" => some .json
  | _ => none

def render (format : ReportFormat) (result : ImpactResult Json) : Except Fault String :=
  match format with
  | .text => .ok (Report.text (result.map Json.shown))
  | .json => Report.json (some 2) result

end ReportFormat

namespace Report

def journal : String := "table_impact.reporting"

/-- Whether a change of files worked. A path with a zero character is a fault. -/
def worked : Except FileError Unit → Work Bool
  | .ok _ => return true
  | .error .zeroInPath => throw .invalidValue
  | .error _ => return false

/-- Writes a text to a file, making the folders above it, and tells whether that worked. -/
def writeText (path : Path) (text : String) : Work Bool := do
  worked (← Work.writeFile path (Utf8.encode text.toList))

/-- The file that a result is reported to. -/
def file (format : ReportFormat) (folder : Path) (stamp table : String) : Path :=
  folder.below (reportFileName table format.extension stamp)

/-- Makes the folders above a file and then the text that is written to it, and tells whether that
worked. -/
def writeMade (path : Path) (text : Except Fault String) : Work Bool := do
  if ← worked (← Work.makeFolders path.parent) then writeText path (← Work.ofExcept text)
  else return false

/-- Writes the report of a result into a folder, and tells where it is if that worked. -/
def save (journal : String) (format : ReportFormat) (folder : Path) (stamp : String)
    (result : ImpactResult Json) : Work (Option Path) := do
  let path := file format folder stamp result.table
  if ← writeMade path (format.render result) then
    Work.log .info journal ("Report saved to " ++ path.text)
    return some path
  else
    Work.log .error journal ("Failed to write report " ++ path.text)
    return none

end Report

end Ripple
