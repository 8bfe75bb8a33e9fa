-- SUMMARY: Texts as the console shows them, with pictographs, without control characters, and wrapped.
import Ripple.Analyzer
import Ripple.Text.Pictograph
import Ripple.Text.Wrap

/-! # Texts for the console

The console is a thousand cells wide. Names of pictographs are replaced, and a few control
characters are left out.
-/

namespace Ripple.Console

/-- The control characters that are not printed. -/
def isDropped (c : Char) : Bool :=
  [7, 8, 11, 12, 13].contains c.toNat

/-- How many cells a line has. -/
def width : Nat := 1000

/-- A text as it is printed. -/
def printed (text : String) : String :=
  let shown := (Text.withPictographs text.toList).filter fun c => !isDropped c
  let lines := (Text.splitWhen (· == '\n') shown).flatMap fun line =>
    Text.wrap width (Text.expandTabs line)
  "\n".intercalate (lines.map String.ofList) ++ "\n"

def repeated (n : Nat) (s : String) : String :=
  String.join (List.replicate n s)

def padRight (width : Nat) (s : String) : String :=
  s ++ repeated (width - s.length) " "

def padLeft (width : Nat) (s : String) : String :=
  repeated (width - s.length) " " ++ s

/-- A text in the middle of a width; an odd space stands on the right. -/
def centred (width : Nat) (s : String) : String :=
  padRight width (repeated ((width - s.length) / 2) " " ++ s)

/-- The least width that all texts fit in. -/
def widthOf (texts : List String) : Nat :=
  (texts.map String.length).foldl max 0

/-- A table of two columns under a title and headings, the second aligned to the right. -/
def table (title left right : String) (rows : List (String × String)) : String :=
  let leftWidth := widthOf (left :: rows.map (·.1))
  let rightWidth := widthOf (right :: rows.map (·.2))
  let rule (first fill middle last : String) : String :=
    first ++ repeated (leftWidth + 2) fill ++ middle ++ repeated (rightWidth + 2) fill ++ last ++
      "\n"
  let row (bar left right : String) : String :=
    bar ++ " " ++ left ++ " " ++ bar ++ " " ++ right ++ " " ++ bar ++ "\n"
  centred (leftWidth + rightWidth + 7) title ++ "\n" ++ rule "┏" "━" "┳" "┓" ++
    row "┃" (padRight leftWidth left) (padLeft rightWidth right) ++ rule "┡" "━" "╇" "┩" ++
    String.join (rows.map fun (name, value) =>
      row "│" (padRight leftWidth name) (padLeft rightWidth value)) ++
    rule "└" "─" "┴" "┘"

/-- The table of statistics. -/
def statistics (statistics : Statistics) : String :=
  table "Index statistics" "Metric" "Value" (statistics.listing.map fun (name, value) =>
    (name.map fun c => if c == '_' then ' ' else c, toString value))

end Ripple.Console
