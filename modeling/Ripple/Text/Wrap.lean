-- SUMMARY: Texts broken into lines of a given width.
import Ripple.Text.Blank
import Ripple.Text.Cells

/-! # Lines of a given width

A line that is too long is broken between words, and inside of a word that fits into no line. Blanks
stay behind their word and may reach over the end of a line, where they are cut off.
-/

namespace Ripple.Text

/-! ### Tabs -/

/-- The parts of a line between tabs, each but the last with spaces for its tab: at least one, and
as many as lead to a cell that is a multiple of eight. -/
def filledParts : List (List Char) → List Char
  | [] => []
  | [part] => part
  | part :: parts =>
    let width := cells part + 1
    part ++ List.replicate (1 + (8 - width % 8) % 8) ' ' ++ filledParts parts

/-- A line with spaces for its tabs. -/
def expandTabs (line : List Char) : List Char :=
  filledParts (splitWhen (· == '\t') line)

/-! ### Words -/

/-- The words of a line with the blanks behind them, the first one also with those before it. A line
of blanks has no words. `fuel` is at least the length of the line. -/
def lineWords : Nat → List Char → List (List Char)
  | 0, _ => []
  | fuel + 1, line =>
    let blanks := line.takeWhile isBlank
    let rest := line.drop blanks.length
    let word := rest.takeWhile (!isBlank ·)
    let rest := rest.drop word.length
    let behind := rest.takeWhile isBlank
    if word.isEmpty then []
    else (blanks ++ word ++ behind) :: lineWords fuel (rest.drop behind.length)

/-- Clusters in pieces that fit into a line, of which the first has `used` cells less. -/
def pieces (width : Nat) : Nat → List (List Char) → List (List Char)
  | _, [] => [[]]
  | used, cluster :: more =>
    let size := cells cluster
    if width < used + size then [] :: put cluster (pieces width size more)
    else put cluster (pieces width (used + size) more)
where
  /-- Puts a cluster in front of the first piece. -/
  put (cluster : List Char) : List (List Char) → List (List Char)
    | [] => [cluster]
    | piece :: more => (cluster ++ piece) :: more

/-! ### Lines -/

/-- Lines of words: `line` is the line that is filled, and takes `used` cells. A word that fits into
no line begins a line of its own and is folded. -/
def filledLines (width : Nat) (line : List Char) (used : Nat) : List (List Char) → List (List Char)
  | [] => [line]
  | word :: words =>
    let size := cells (dropEndWhile isBlank word)
    if used + size ≤ width then filledLines width (line ++ word) (used + cells word) words
    else if width < size then
      let folded := pieces width 0 (clusters word)
      let last := folded.getLastD []
      (if line.isEmpty then [] else [line]) ++ folded.dropLast ++
        filledLines width last (cells last) words
    else line :: filledLines width word (cells word) words

/-- A line without the blanks at its end that are too many, cut to a width. -/
def cropLine (width : Nat) (line : List Char) : List Char :=
  let blanks := line.length - (dropEndWhile isBlank line).length
  let kept := line.take (line.length - min blanks (line.length - width))
  if width < cells kept then cropCells width kept else kept

/-- A line broken to a width. -/
def wrap (width : Nat) (line : List Char) : List (List Char) :=
  match lineWords line.length line with
  | [] => [cropLine width line]
  | words => (filledLines width [] 0 words).map (cropLine width)

end Ripple.Text
