-- SUMMARY: The width of a text on a console.
import Ripple.Text.CellTable
import Ripple.Text.CharClass

/-! # Widths on a console

How many cells a text takes. A joiner makes one pictograph of two, of which only the first counts,
and a selector turns some characters into pictographs of two cells.
-/

namespace Ripple.Text

/-- How many cells a character takes by itself. -/
def cellSize (c : Char) : Nat :=
  let n := c.toNat
  if 32 ≤ n && n < 127 then 1
  else if n < 32 || (127 ≤ n && n < 160) then 0
  else if inRanges zeroCellRanges n then 0
  else if inRanges doubleCellRanges n then 2
  else 1

/-- The character that joins two pictographs. -/
def joiner : Char := '\u200d'

/-- The character that asks for a pictograph. -/
def selector : Char := '\ufe0f'

/-- How many cells a text takes, `last` being the last character that took some. -/
def cellsFrom (last : Option Char) : List Char → Nat
  | [] => 0
  | c :: rest =>
    if c == joiner then
      match rest with
      | [] => 0
      | _ :: rest => cellsFrom last rest
    else if c == selector then
      let more := if last.any fun d => inRanges pictographRanges d.toNat then 1 else 0
      more + cellsFrom none rest
    else
      let size := cellSize c
      size + cellsFrom (if size == 0 then last else some c) rest

/-- How many cells a text takes. -/
def cells (s : List Char) : Nat :=
  cellsFrom none s

/-- Whether a character is shown in the cells of the one before it. -/
def isAttached (c : Char) : Bool :=
  c == joiner || c == selector || cellSize c == 0

/-- A text in clusters: characters with those that are shown in the same cells. -/
def clusters : List Char → List (List Char)
  | [] => []
  | c :: rest =>
    if c == joiner then
      match rest with
      | [] => [[c]]
      | d :: rest => attach [c, d] (clusters rest) (rest.head?.any isAttached)
    else attach [c] (clusters rest) (rest.head?.any isAttached)
where
  /-- Puts characters in front of the first cluster if they share its cells. -/
  attach (front : List Char) : List (List Char) → Bool → List (List Char)
    | cluster :: more, true => (front ++ cluster) :: more
    | all, _ => front :: all

/-- The longest front of a text that fits into so many cells, with a space for half a cluster. -/
def cropCells (room : Nat) (s : List Char) : List Char :=
  fit room (clusters s)
where
  /-- The clusters that fit. -/
  fit : Nat → List (List Char) → List Char
    | _, [] => []
    | room, cluster :: more =>
      let size := cells cluster
      if size ≤ room then cluster ++ fit (room - size) more
      else List.replicate room ' '

end Ripple.Text
